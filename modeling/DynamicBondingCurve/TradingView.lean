import DynamicBondingCurve.Sale
import DynamicBondingCurve.Library.Views

/-!
# What a trader sees of a pool

The view of a trader: the state that prices and limits depend on, the clock, and the transfers of
the swaps. Claims, withdrawals, a new creator, the locker and the migration are silent for it.

* `TradingState`, `TradingView`: what trading depends on, and what a trader sees.
* `Action.isTrade`: swaps and the passing of time.
* `Action.swap?`, `step_swap_iff`: the instructions that swap, and what they run.
* `tradingView_silent`: **no other instruction changes the view.**
-/

namespace DynamicBondingCurve

open Library

/-! ## The view -/

/-- The fields of a pool that its prices and its limits depend on, and its metrics.
Source: `state/virtual_pool.rs` `PoolState` -/
structure TradingState where
  volatilityTracker : VolatilityTracker
  baseReserve : ℕ
  quoteReserve : ℕ
  virtualQuoteReserve : ℕ
  sqrtPrice : ℕ
  activationPoint : ℕ
  hasSwap : ℕ
  deadlineTimestamp : ℕ
  metrics : PoolMetrics
  deriving DecidableEq, Repr

namespace PoolState

/-- What trading sees of a pool.
Source: `state/virtual_pool.rs` `PoolState` -/
def trading (p : PoolState) : TradingState :=
  { volatilityTracker := p.volatilityTracker
    baseReserve := p.baseReserve
    quoteReserve := p.quoteReserve
    virtualQuoteReserve := p.virtualQuoteReserve
    sqrtPrice := p.sqrtPrice
    activationPoint := p.activationPoint
    hasSwap := p.hasSwap
    deadlineTimestamp := p.deadlineTimestamp
    metrics := p.metrics }

/-- The pool that trades like another one and keeps its own fees, flags and creator. -/
def withTrading (p : PoolState) (t : TradingState) : PoolState :=
  { p with
    volatilityTracker := t.volatilityTracker
    baseReserve := t.baseReserve
    quoteReserve := t.quoteReserve
    virtualQuoteReserve := t.virtualQuoteReserve
    sqrtPrice := t.sqrtPrice
    activationPoint := t.activationPoint
    hasSwap := t.hasSwap
    deadlineTimestamp := t.deadlineTimestamp
    metrics := t.metrics }

/-- A pool is its trading part and the rest. -/
theorem withTrading_eq {p q : PoolState} (h : p.trading = q.trading) :
    q = q.withTrading p.trading := by
  rw [h]
  rfl

end PoolState

/-- Whether a purpose is a swap's is decided by comparing it with the three. -/
instance : DecidablePred Purpose.IsSwap := fun u =>
  inferInstanceAs (Decidable (u = .swapInput ∨ u = .swapOutput ∨ u = .referralFee))

/-- Whether an effect is a transfer of a swap is decided by its purpose. -/
instance : DecidablePred Effect.IsSwapTransfer
  | .received _ u _ => inferInstanceAs (Decidable u.IsSwap)
  | .paid _ u _ => inferInstanceAs (Decidable u.IsSwap)
  | .finishCurveTimestamp _ => inferInstanceAs (Decidable False)
  | .transferHookRevoked => inferInstanceAs (Decidable False)
  | .escrowCreated _ _ => inferInstanceAs (Decidable False)
  | .poolCreated _ _ => inferInstanceAs (Decidable False)

/-- The transfers made by swaps.
Source: `instructions/swap/process_swap.rs` `process_swap`, its transfers -/
def swapTransfers (effects : List Effect) : List Effect :=
  effects.filter fun e => e.IsSwapTransfer

/-- What a trader sees of a pool: its trading state, the clock, and all that swaps paid and
received. -/
structure TradingView where
  state : TradingState
  slot : ℕ
  timestamp : ℕ
  transfers : List Effect
  deriving DecidableEq, Repr

/-- What trading sees of the world. -/
def World.tradingView (w : World) : TradingView :=
  { state := w.pool.trading
    slot := w.slot
    timestamp := w.timestamp
    transfers := swapTransfers w.effects }

/-- Swaps and the passing of time.
Source: `lib.rs` `swap2`, `swap2_with_transfer_hook`, `virtual_swap2` -/
def Action.isTrade : Action → Bool
  | .pass .. | .swap2 _ | .swap2WithTransferHook _ | .virtualSwap2 _ => true
  | _ => false

/-! ## Swaps -/

/-- The swap that an instruction makes, and whether it is virtual.
Source: `lib.rs` `swap2`, `swap2_with_transfer_hook`, `virtual_swap2` -/
def Action.swap? : Action → Option (SwapRequest × Bool)
  | .swap2 request => some (request, false)
  | .swap2WithTransferHook request => some (request, false)
  | .virtualSwap2 request => some (request, true)
  | _ => none

/-- The instruction is the one for the pool, and a virtual swap is signed by its authority.
Source: `instructions/swap/ix_swap.rs` `handle_swap_wrapper`;
`instructions/swap/ix_swap2_with_transfer_hook.rs` `handle_swap_with_transfer_hook_wrapper`;
`access_control.rs` `is_virtual_swap_authority` -/
def Deployment.Dispatches (d : Deployment) : Action → Prop
  | .swap2 _ => d.isTransferHookPool = false
  | .swap2WithTransferHook _ => d.isTransferHookPool = true
  | .virtualSwap2 request =>
      request.payer = VIRTUAL_SWAP_AUTHORITY ∧ d.isTransferHookPool = false
  | _ => False

/-- A swap instruction runs `processSwap`.
Source: `lib.rs` `swap2`, `swap2_with_transfer_hook`, `virtual_swap2` -/
theorem step_swap_iff {d : Deployment} {w w' : World} {a : Action} {request : SwapRequest}
    {isVirtual : Bool} (hswap : a.swap? = some (request, isVirtual)) :
    d.step w a = .ok w' ↔ d.Dispatches a ∧ d.processSwap w request isVirtual = .ok w' := by
  cases a with
  | swap2 request =>
    obtain ⟨rfl, rfl⟩ := Prod.mk.inj (Option.some.inj hswap)
    simp only [Deployment.step, Deployment.swap2, bind_eq_ok, exists_unit, require_eq_ok,
      Deployment.Dispatches]
  | swap2WithTransferHook request =>
    obtain ⟨rfl, rfl⟩ := Prod.mk.inj (Option.some.inj hswap)
    simp only [Deployment.step, Deployment.swap2WithTransferHook, bind_eq_ok, exists_unit,
      require_eq_ok, Deployment.Dispatches]
  | virtualSwap2 request =>
    obtain ⟨rfl, rfl⟩ := Prod.mk.inj (Option.some.inj hswap)
    simp only [Deployment.step, Deployment.virtualSwap2, bind_eq_ok, exists_unit, require_eq_ok,
      Deployment.Dispatches, and_assoc]
  | _ => cases hswap

/-! ## Silent instructions -/

section Silent

variable {d : Deployment} {w w' : World} {token : Token} {purpose : Purpose} {amount : ℕ}

/-- Another effect is no transfer of a swap. -/
@[simp] theorem swapTransfers_cons_of_not {e : Effect} (es : List Effect)
    (he : ¬ e.IsSwapTransfer) :
    swapTransfers (e :: es) = swapTransfers es :=
  List.filter_cons_of_neg (by simpa using he)

/-- A payment for another purpose is no transfer of a swap. -/
theorem swapTransfers_paid (es : List Effect) (hu : ¬ purpose.IsSwap) :
    swapTransfers (.paid token purpose amount :: es) = swapTransfers es :=
  swapTransfers_cons_of_not es hu

/-- Nor is one that may be nothing. -/
theorem swapTransfers_positive (es : List Effect) (hu : ¬ purpose.IsSwap) :
    swapTransfers (Effect.positive token purpose amount ++ es) = swapTransfers es := by
  unfold Effect.positive
  split_ifs
  · exact swapTransfers_paid es hu
  · rfl

/-- Nor is recording the time of the end. -/
theorem swapTransfers_finishEffects (isAfterDeadline : Bool) (es : List Effect) :
    swapTransfers (finishEffects w isAfterDeadline ++ es) = swapTransfers es := by
  unfold finishEffects
  split_ifs
  · exact swapTransfers_cons_of_not es id
  · rfl

/-- The locker is not seen by trading.
Source: `create_locker.rs` `handle_create_locker` -/
theorem tradingView_locker (move : LockerMove d amount w w') :
    w'.tradingView = w.tradingView := by
  rw [move.eq]
  simp only [World.tradingView, PoolState.trading]
  rw [swapTransfers_cons_of_not _ id, swapTransfers_paid _ (by decide),
    swapTransfers_finishEffects]

/-- A migration is not seen by trading.
Source: `migrate_damm_v2_initialize_pool.rs` `handle_migrate_damm_v2`;
`migrate_meteora_damm_initialize_pool.rs` `handle_migrate_meteora_damm` -/
theorem tradingView_migration {m : MigrationData} (move : MigrationMove d m w w') :
    w'.tradingView = w.tradingView := by
  rw [move.eq]
  simp only [World.tradingView, PoolState.trading]
  rw [swapTransfers_positive _ (by decide), swapTransfers_cons_of_not _ id,
    swapTransfers_paid _ (by decide), swapTransfers_paid _ (by decide),
    swapTransfers_finishEffects]

/-- A swap is a trade. -/
theorem Action.IsSwap.isTrade {a : Action} (ha : a.IsSwap) : a.isTrade = true := by
  cases a with
  | swap2 request => rfl
  | swap2WithTransferHook request => rfl
  | virtualSwap2 request => rfl
  | _ => exact absurd ha id

/-- **Every instruction that is not a swap is silent.**
Source: `lib.rs`, the dispatch of the instructions -/
theorem tradingView_silent {a : Action} (ha : a.isTrade = false) (h : d.step w a = .ok w') :
    w'.tradingView = w.tradingView := by
  cases step_transition h with
  | trading move =>
    cases move with
    | pass slots seconds => exact absurd ha (by simp [Action.isTrade])
    | swap trade completion isSwap => exact absurd (isSwap.isTrade.symm.trans ha) (by decide)
    | transferCreator creator => rfl
    | _ =>
      simp only [World.tradingView, PoolState.trading]
      rw [swapTransfers_positive _ (by decide), swapTransfers_positive _ (by decide)]
  | locker move => exact tradingView_locker move
  | migration move => exact tradingView_migration move
  | _ =>
    simp only [World.tradingView, PoolState.trading, World.paid, World.withPool,
      PoolState.updateWithdrawMigrationFee]
    rw [swapTransfers_paid _ (by decide)]

/-- An instruction that does not swap leaves the trading state alone.
Source: `lib.rs`, the dispatch of the instructions -/
theorem trading_of_step {a : Action} (hno : a.swap? = none) (h : d.step w a = .ok w') :
    w'.pool.trading = w.pool.trading := by
  by_cases htrade : a.isTrade = true
  · -- only time passes
    cases a with
    | pass slots seconds =>
      simp only [Deployment.step, Except.ok.injEq] at h
      rw [← h]
    | swap2 request => cases hno
    | swap2WithTransferHook request => cases hno
    | virtualSwap2 request => cases hno
    | _ => cases htrade
  · have hsilent := tradingView_silent (by simpa using htrade) h
    exact congrArg TradingView.state hsilent

end Silent

end DynamicBondingCurve
