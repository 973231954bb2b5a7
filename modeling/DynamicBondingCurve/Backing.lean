import DynamicBondingCurve.Lifecycle

/-!
# What backs the vaults

Every token in a vault belongs to a reserve or to somebody's fees, and every token that left was
paid for one of the purposes of the program.

* `Backed`, `Backed.of_transition`: **the books of a pool balance after every move**, over its
  whole life.
* `Unspent`: what a pool that only trades has not paid for.
* `Launch.trading_conservation`: **while the pool trades its vaults hold its reserves and its
  fees, and nothing else.**
-/

namespace DynamicBondingCurve

open Library

/-! ## What left the vaults -/

/-- The fees that the protocol saved when the pool was created.
Source: `state/virtual_pool.rs` `save_protocol_liquidity_migration_fee` -/
def Effect.savedFee (token : Token) : Effect → ℕ
  | .poolCreated base quote => match token with
    | .base => base
    | .quote => quote
  | _ => 0

/-- What the migrations so far saved for the protocol, of one token.
Source: `state/virtual_pool.rs` `save_protocol_liquidity_migration_fee` -/
def savedTotal (token : Token) (effects : List Effect) : ℕ :=
  (effects.map (Effect.savedFee token)).sum

/-- The base that left the vault for something else than swaps and fees. -/
def baseSpent (effects : List Effect) : ℕ :=
  paidTotal .base .lockedVesting effects + paidTotal .base .migration effects +
    paidTotal .base .burn effects + paidTotal .base .leftover effects

/-- The quote that left the vault for something else than swaps and fees. -/
def quoteSpent (effects : List Effect) : ℕ :=
  paidTotal .quote .partnerSurplus effects + paidTotal .quote .creatorSurplus effects +
    paidTotal .quote .partnerMigrationFee effects +
    paidTotal .quote .creatorMigrationFee effects + paidTotal .quote .migration effects

section Totals

variable {token t : Token} {purpose u : Purpose} {amount : ℕ} {es fs : List Effect}

/-- Nothing is saved before the first effect. -/
@[simp] theorem savedTotal_nil : savedTotal token [] = 0 := rfl

/-- What is saved, one effect after another. -/
@[simp] theorem savedTotal_cons (e : Effect) (es : List Effect) :
    savedTotal token (e :: es) = e.savedFee token + savedTotal token es := rfl

/-- A payment saves nothing. -/
@[simp] theorem savedTotal_positive :
    savedTotal token (Effect.positive t purpose amount ++ es) = savedTotal token es := by
  unfold Effect.positive
  split_ifs
  · simp [Effect.savedFee]
  · simp

/-- The transfers of a swap are for nothing else.
Source: `instructions/swap/process_swap.rs` `process_swap`, its transfers -/
theorem paidTotal_swap (hes : ∀ e ∈ es, e.IsSwapTransfer) (hu : ¬ u.IsSwap) :
    paidTotal t u (es ++ fs) = paidTotal t u fs := by
  induction es with
  | nil => rfl
  | cons e es ih =>
    have he : e.paidAmount t u = 0 := by
      have hswap := hes e List.mem_cons_self
      cases e with
      | paid t' u' amount =>
        simp only [Effect.paidAmount, ite_eq_right_iff, and_imp]
        intro _ hsame
        rw [hsame] at hswap
        exact absurd hswap hu
      | _ => rfl
    rw [List.cons_append, paidTotal_cons, he, Nat.zero_add]
    exact ih fun e he => hes e (List.mem_cons_of_mem _ he)

/-- The transfers of a swap are no payments for another purpose.
Source: `instructions/swap/process_swap.rs` `process_swap`, its transfers -/
theorem paidCount_swap (hes : ∀ e ∈ es, e.IsSwapTransfer) (hu : ¬ u.IsSwap) :
    paidCount t u (es ++ fs) = paidCount t u fs := by
  rw [paidCount, List.countP_append, List.countP_eq_zero.mpr, Nat.zero_add]
  · rfl
  · intro e he hpaid
    have hswap := hes e he
    cases e with
    | paid t' u' amount =>
      simp only [Effect.isPaid, decide_eq_true_eq] at hpaid
      rw [hpaid.2] at hswap
      exact hu hswap
    | _ => exact Bool.false_ne_true hpaid

/-- The transfers of a swap save nothing.
Source: `instructions/swap/process_swap.rs` `process_swap`, its transfers -/
theorem savedTotal_swap (hes : ∀ e ∈ es, e.IsSwapTransfer) :
    savedTotal t (es ++ fs) = savedTotal t fs := by
  induction es with
  | nil => rfl
  | cons e es ih =>
    have he : e.savedFee t = 0 := by
      have hswap := hes e List.mem_cons_self
      cases e with
      | poolCreated base quote => exact absurd hswap id
      | _ => rfl
    rw [List.cons_append, savedTotal_cons, he, Nat.zero_add]
    exact ih fun e he => hes e (List.mem_cons_of_mem _ he)

/-- Recording the end of the sale pays nothing.
Source: `create_locker.rs` `handle_create_locker`, the write of `finish_curve_timestamp` -/
@[simp] theorem paidTotal_finishEffects (w : World) (isAfterDeadline : Bool) :
    paidTotal t u (finishEffects w isAfterDeadline ++ es) = paidTotal t u es := by
  unfold finishEffects
  split_ifs <;> simp [Effect.paidAmount]

/-- Recording the time of the end pays nothing.
Source: `create_locker.rs` `handle_create_locker`, the write of `finish_curve_timestamp` -/
@[simp] theorem paidCount_finishEffects (w : World) (isAfterDeadline : Bool) :
    paidCount t u (finishEffects w isAfterDeadline ++ es) = paidCount t u es := by
  unfold finishEffects
  split_ifs <;> simp [Effect.isPaid]

/-- Recording the time of the end saves nothing.
Source: `create_locker.rs` `handle_create_locker`, the write of `finish_curve_timestamp` -/
@[simp] theorem savedTotal_finishEffects (w : World) (isAfterDeadline : Bool) :
    savedTotal t (finishEffects w isAfterDeadline ++ es) = savedTotal t es := by
  unfold finishEffects
  split_ifs <;> simp [Effect.savedFee]

/-- The end of the sale pays nothing.
Source: `instructions/swap/process_swap.rs` `process_swap`, `curve_complete` -/
theorem paidTotal_completed (d : Deployment) (w : World) :
    paidTotal t u (d.completed w).effects = paidTotal t u w.effects := by
  simp only [Deployment.completed]
  split_ifs <;> simp [Effect.paidAmount]

/-- Completing the curve pays nothing.
Source: `instructions/swap/process_swap.rs` `process_swap`, `curve_complete` -/
theorem paidCount_completed (d : Deployment) (w : World) :
    paidCount t u (d.completed w).effects = paidCount t u w.effects := by
  simp only [Deployment.completed]
  split_ifs <;> simp [Effect.isPaid]

/-- Completing the curve saves nothing.
Source: `instructions/swap/process_swap.rs` `process_swap`, `curve_complete` -/
theorem savedTotal_completed (d : Deployment) (w : World) :
    savedTotal t (d.completed w).effects = savedTotal t w.effects := by
  simp only [Deployment.completed]
  split_ifs <;> simp [Effect.savedFee]

end Totals

/-- The purposes of the transfers of a pool that trades.
Source: `instructions/swap`, and the claims of fees of `instructions/partner`,
`instructions/creator` and `instructions/operator` -/
def Purpose.IsTrading (u : Purpose) : Prop :=
  u.IsSwap ∨ u = .partnerTradingFee ∨ u = .creatorTradingFee ∨ u = .protocolFee

section Spending

variable {d : Deployment} {w w' : World} {isVirtual : Bool} {x : Trade} {a : Action}

/-- A trade pays for nothing but itself.
Source: `instructions/swap/process_swap.rs` `process_swap`, its transfers -/
theorem TradeMove.paidTotal_eq (trade : TradeMove d isVirtual x w w') {t : Token} {u : Purpose}
    (hu : ¬ u.IsSwap) : paidTotal t u w'.effects = paidTotal t u w.effects := by
  obtain ⟨es, hes, heffects⟩ := trade.effects
  rw [heffects, paidTotal_swap hes hu]

/-- A trade leaves what was spent and saved as it was.
Source: `instructions/swap/process_swap.rs` `process_swap`, its transfers -/
theorem TradeMove.spent_eq (trade : TradeMove d isVirtual x w w') :
    baseSpent w'.effects = baseSpent w.effects ∧ quoteSpent w'.effects = quoteSpent w.effects ∧
      ∀ t, savedTotal t w'.effects = savedTotal t w.effects := by
  obtain ⟨es, hes, heffects⟩ := trade.effects
  refine ⟨?_, ?_, fun t => by rw [heffects, savedTotal_swap hes]⟩
  · unfold baseSpent
    rw [trade.paidTotal_eq, trade.paidTotal_eq, trade.paidTotal_eq, trade.paidTotal_eq] <;>
      simp [Purpose.IsSwap]
  · unfold quoteSpent
    rw [trade.paidTotal_eq, trade.paidTotal_eq, trade.paidTotal_eq, trade.paidTotal_eq,
      trade.paidTotal_eq] <;> simp [Purpose.IsSwap]

/-- The end of a sale leaves what was spent and saved as it was.
Source: `instructions/swap/process_swap.rs` `process_swap`, `curve_complete` -/
theorem Completion.spent_eq (h : Completion d w w') :
    baseSpent w'.effects = baseSpent w.effects ∧ quoteSpent w'.effects = quoteSpent w.effects ∧
      ∀ t, savedTotal t w'.effects = savedTotal t w.effects := by
  cases h with
  | «open» => exact ⟨rfl, rfl, fun _ => rfl⟩
  | complete =>
    exact ⟨by simp only [baseSpent, paidTotal_completed],
      by simp only [quoteSpent, paidTotal_completed], fun t => savedTotal_completed d w⟩

/-- Trades and claims of fees pay for their own purposes only.
Source: `instructions/swap`, and the claims of fees of `instructions/partner`,
`instructions/creator` and `instructions/operator` -/
theorem Trading.paid_eq (h : Trading d w a w') {t : Token} {u : Purpose} (hu : ¬ u.IsTrading) :
    paidTotal t u w'.effects = paidTotal t u w.effects ∧
      paidCount t u w'.effects = paidCount t u w.effects := by
  simp only [Purpose.IsTrading, not_or] at hu
  obtain ⟨hswap, hpartner, hcreator, hprotocol⟩ := hu
  have hcount : ∀ {v : Purpose} {t' : Token} {amount : ℕ} (es : List Effect), ¬ u = v →
      paidCount t u (Effect.positive t' v amount ++ es) = paidCount t u es := by
    intro v t' amount es hne
    refine countP_positive es ?_
    simp [Effect.isPaid, Ne.symm hne]
  cases h with
  | pass slots seconds => exact ⟨rfl, rfl⟩
  | swap trade completion =>
    obtain ⟨es, hes, heffects⟩ := trade.effects
    cases completion with
    | «open» => rw [heffects]; exact ⟨paidTotal_swap hes hswap, paidCount_swap hes hswap⟩
    | complete =>
      rw [paidTotal_completed, paidCount_completed, heffects]
      exact ⟨paidTotal_swap hes hswap, paidCount_swap hes hswap⟩
  | claimPartner => simp [Ne.symm hpartner, hcount _ hpartner]
  | claimCreator => simp [Ne.symm hcreator, hcount _ hcreator]
  | claimProtocol => simp [Ne.symm hprotocol, hcount _ hprotocol]
  | transferCreator creator => exact ⟨rfl, rfl⟩

/-- **A pool that trades pays for swaps and fees only.**
Source: `instructions/swap`, and the claims of fees of `instructions/partner`,
`instructions/creator` and `instructions/operator` -/
theorem Trading.spent_eq (h : Trading d w a w') :
    baseSpent w'.effects = baseSpent w.effects ∧ quoteSpent w'.effects = quoteSpent w.effects ∧
      ∀ t, savedTotal t w'.effects = savedTotal t w.effects := by
  refine ⟨?_, ?_, ?_⟩
  · unfold baseSpent
    rw [(h.paid_eq ?_).1, (h.paid_eq ?_).1, (h.paid_eq ?_).1, (h.paid_eq ?_).1] <;>
      simp [Purpose.IsTrading, Purpose.IsSwap]
  · unfold quoteSpent
    rw [(h.paid_eq ?_).1, (h.paid_eq ?_).1, (h.paid_eq ?_).1, (h.paid_eq ?_).1,
      (h.paid_eq ?_).1] <;> simp [Purpose.IsTrading, Purpose.IsSwap]
  · intro t
    cases h with
    | swap trade completion =>
      exact (completion.spent_eq.2.2 t).trans (trade.spent_eq.2.2 t)
    | _ => simp

end Spending

/-! ## The books -/

/-- The books of a pool balance.
Source: `state/virtual_pool.rs` `PoolState`, its reserves, fees and metrics -/
structure Backed (w : World) : Prop where
  base : w.baseVault + baseSpent w.effects + savedTotal .base w.effects =
    w.pool.baseReserve + (w.pool.partnerBaseFee + w.pool.creatorBaseFee +
      w.pool.protocolBaseFee) + w.pool.protocolMigrationBaseFeeAmount
  quote : w.quoteVault + quoteSpent w.effects + savedTotal .quote w.effects =
    w.pool.quoteReserve + (w.pool.partnerQuoteFee + w.pool.creatorQuoteFee +
      w.pool.protocolQuoteFee) + w.pool.protocolMigrationQuoteFeeAmount
  tradingBase : w.pool.metrics.totalTradingBaseFee =
    w.pool.partnerBaseFee + w.pool.creatorBaseFee +
      (paidTotal .base .partnerTradingFee w.effects + paidTotal .base .creatorTradingFee w.effects)
  tradingQuote : w.pool.metrics.totalTradingQuoteFee =
    w.pool.partnerQuoteFee + w.pool.creatorQuoteFee +
      (paidTotal .quote .partnerTradingFee w.effects +
        paidTotal .quote .creatorTradingFee w.effects)
  protocolBase : w.pool.metrics.totalProtocolBaseFee + savedTotal .base w.effects =
    w.pool.protocolBaseFee + w.pool.protocolMigrationBaseFeeAmount +
      paidTotal .base .protocolFee w.effects
  protocolQuote : w.pool.metrics.totalProtocolQuoteFee + savedTotal .quote w.effects =
    w.pool.protocolQuoteFee + w.pool.protocolMigrationQuoteFeeAmount +
      paidTotal .quote .protocolFee w.effects
  unsaved : w.pool.migrationProgress ≠ .createdPool →
    w.pool.protocolMigrationBaseFeeAmount = 0 ∧ w.pool.protocolMigrationQuoteFeeAmount = 0

section Steps

variable {d : Deployment} {w w' mid : World} {isVirtual : Bool} {x : Trade} {amount : ℕ}
  {m : MigrationData} {a : Action}

/-- A new pool holds the supply that was minted for it.
Source: `state/virtual_pool.rs` `initialize` -/
theorem Backed.genesis (creator : Pubkey) (sqrtPrice activationPoint baseReserve bps deadline
    slot timestamp : ℕ) : Backed (.genesis
      (.initializeState creator sqrtPrice activationPoint baseReserve bps deadline) slot
      timestamp) :=
  ⟨rfl, rfl, rfl, rfl, rfl, rfl, fun _ => ⟨rfl, rfl⟩⟩

/-- A trade books what it moves.
Source: `instructions/swap/process_swap.rs` `process_swap`, before `curve_complete` -/
theorem Backed.of_trade (hw : Backed w) (trade : TradeMove d isVirtual x w w') : Backed w' := by
  obtain ⟨hbaseSpent, hquoteSpent, hsaved⟩ := trade.spent_eq
  have hpaid : ∀ t u, ¬ Purpose.IsSwap u → paidTotal t u w'.effects = paidTotal t u w.effects :=
    fun t u hu => trade.paidTotal_eq hu
  have hin := trade.baseIn_eq
  have hout := trade.quoteOut_eq
  have hle := trade.baseOut_le
  have hbase := trade.baseVault
  have hquote := trade.quoteVault
  simp only [Fees.total] at hbase hquote
  constructor
  · have h := hw.base
    rw [hbaseSpent, hsaved, trade.pool]
    simp only [PoolState.afterTrade, PoolState.withFees]
    omega
  · have h := hw.quote
    rw [hquoteSpent, hsaved, trade.pool]
    simp only [PoolState.afterTrade, PoolState.withFees]
    omega
  · have h := hw.tradingBase
    rw [hpaid _ _ (by simp [Purpose.IsSwap]), hpaid _ _ (by simp [Purpose.IsSwap]), trade.pool]
    simp only [PoolState.afterTrade, PoolState.withFees]
    omega
  · have h := hw.tradingQuote
    rw [hpaid _ _ (by simp [Purpose.IsSwap]), hpaid _ _ (by simp [Purpose.IsSwap]), trade.pool]
    simp only [PoolState.afterTrade, PoolState.withFees]
    omega
  · have h := hw.protocolBase
    rw [hpaid _ _ (by simp [Purpose.IsSwap]), hsaved, trade.pool]
    simp only [PoolState.afterTrade, PoolState.withFees]
    omega
  · have h := hw.protocolQuote
    rw [hpaid _ _ (by simp [Purpose.IsSwap]), hsaved, trade.pool]
    simp only [PoolState.afterTrade, PoolState.withFees]
    omega
  · rw [trade.pool]
    exact hw.unsaved

/-- Nothing is paid when the end of the sale is recorded.
Source: `instructions/swap/process_swap.rs` `process_swap`, `curve_complete` -/
theorem Backed.of_completion (hw : Backed w) (h : Completion d w w')
    (hprogress : w.pool.migrationProgress = .preBondingCurve) : Backed w' := by
  cases h with
  | «open» => exact hw
  | complete =>
    have hunsaved := hw.unsaved (by rw [hprogress]; decide)
    constructor
    · have h := hw.base
      simp only [baseSpent, paidTotal_completed, savedTotal_completed] at h ⊢
      exact h
    · have h := hw.quote
      simp only [quoteSpent, paidTotal_completed, savedTotal_completed] at h ⊢
      exact h
    · simp only [paidTotal_completed]
      exact hw.tradingBase
    · simp only [paidTotal_completed]
      exact hw.tradingQuote
    · simp only [paidTotal_completed, savedTotal_completed]
      exact hw.protocolBase
    · simp only [paidTotal_completed, savedTotal_completed]
      exact hw.protocolQuote
    · exact fun _ => hunsaved

/-- Trades and claims of fees keep the books balanced.
Source: the claims of fees of `instructions/partner`, `instructions/creator` and
`instructions/operator` -/
theorem Backed.of_trading (hended : ProgressEnded d w) (hw : Backed w) (h : Trading d w a w') :
    Backed w' := by
  have ⟨hbase, hquote, htb, htq, hpb, hpq, hunsaved⟩ := hw
  simp only [baseSpent, quoteSpent] at hbase hquote
  cases h with
  | pass slots seconds => exact ⟨hbase, hquote, htb, htq, hpb, hpq, hunsaved⟩
  | swap trade completion =>
    have hpre := trade.progress hended
    refine (hw.of_trade trade).of_completion completion ?_
    rw [trade.pool]
    exact hpre
  | claimPartner hb hq hbv hqv =>
    constructor <;> simp [baseSpent, quoteSpent] <;> omega
  | claimCreator hb hq hbv hqv =>
    constructor <;> simp [baseSpent, quoteSpent] <;> omega
  | claimProtocol flag hb hmb hq hmq hbv hqv =>
    constructor
    case unsaved =>
      intro hne
      obtain ⟨hnb, hnq⟩ := hunsaved hne
      exact ⟨by rw [hnb, Nat.zero_sub], by rw [hnq, Nat.zero_sub]⟩
    all_goals
      simp [baseSpent, quoteSpent]
      omega
  | transferCreator creator => exact ⟨hbase, hquote, htb, htq, hpb, hpq, hunsaved⟩

/-- The locker takes the vesting out of the base vault.
Source: `create_locker.rs` `handle_create_locker` -/
theorem Backed.of_locker (hw : Backed w) (move : LockerMove d amount w w') : Backed w' := by
  have ⟨hbase, hquote, htb, htq, hpb, hpq, hunsaved⟩ := hw
  simp only [baseSpent, quoteSpent] at hbase hquote
  have hle := move.amount_le
  have hnone := hunsaved (by
    rcases move.progress with hpost | hdead
    · rw [hpost]
      decide
    · rw [(progress_eq_of_canCreateLockerAfterDeadline hdead).1]
      decide)
  rw [move.eq]
  constructor <;> simp [baseSpent, quoteSpent, Effect.paidAmount, Effect.savedFee] <;> omega

/-- The migration takes its deposit, and the burnt base, out of the vaults.
Source: `migrate_damm_v2_initialize_pool.rs` `handle_migrate_damm_v2` -/
theorem Backed.of_migration (hw : Backed w) (move : MigrationMove d m w w') : Backed w' := by
  have ⟨hbase, hquote, htb, htq, hpb, hpq, hunsaved⟩ := hw
  simp only [baseSpent, quoteSpent] at hbase hquote
  have hquoteVault := move.quoteVault_ge
  obtain ⟨maxBurnable, left, _, hleft, hburnt⟩ := move.burnt_eq
  have hburnt_le : m.burnt ≤ left := hburnt ▸ Nat.min_le_right _ _
  have hnone := hunsaved (by
    rcases move.progress with hlocked | hdead
    · rw [hlocked]
      decide
    · rw [(progress_eq_of_canMigrateAfterDeadline hdead).1]
      decide)
  rw [move.eq]
  constructor <;> simp [baseSpent, quoteSpent, Effect.paidAmount, Effect.savedFee] <;> omega

/-- **The books balance after every move.**
Source: `state/virtual_pool.rs` `PoolState`, its reserves, fees and metrics -/
theorem Backed.of_transition (hended : ProgressEnded d w) (hw : Backed w)
    (h : Transition d w a w') : Backed w' := by
  have ⟨hbase, hquote, htb, htq, hpb, hpq, hunsaved⟩ := hw
  simp only [baseSpent, quoteSpent] at hbase hquote
  cases h with
  | trading move => exact hw.of_trading hended move
  | partnerSurplus hcap hflag hqv =>
    constructor <;> simp [baseSpent, quoteSpent, Effect.paidAmount, Effect.savedFee] <;> omega
  | creatorSurplus hfixed hcap hflag hqv =>
    constructor <;> simp [baseSpent, quoteSpent, Effect.paidAmount, Effect.savedFee] <;> omega
  | partnerMigrationFee hpermitted heligible hqv =>
    simp only [World.paid, World.withPool, PoolState.updateWithdrawMigrationFee]
    constructor <;> simp [baseSpent, quoteSpent, Effect.paidAmount, Effect.savedFee] <;> omega
  | creatorMigrationFee hpermitted heligible hqv =>
    simp only [World.paid, World.withPool, PoolState.updateWithdrawMigrationFee]
    constructor <;> simp [baseSpent, quoteSpent, Effect.paidAmount, Effect.savedFee] <;> omega
  | locker move => exact hw.of_locker move
  | migration move => exact hw.of_migration move
  | leftover hprogress hflag hamount =>
    constructor <;> simp [baseSpent, quoteSpent, Effect.paidAmount, Effect.savedFee] <;> omega

/-! ## Trading -/

/-- Nothing was paid that only the end of the sale allows. -/
structure Unspent (w : World) : Prop where
  base : baseSpent w.effects = 0
  quote : quoteSpent w.effects = 0
  saved : ∀ token, savedTotal token w.effects = 0
  migrationBaseFee : w.pool.protocolMigrationBaseFeeAmount = 0
  migrationQuoteFee : w.pool.protocolMigrationQuoteFeeAmount = 0

/-- Trades and claims of fees pay nothing that only the end of the sale allows.
Source: `instructions/swap`, and the claims of fees of `instructions/partner`,
`instructions/creator` and `instructions/operator` -/
theorem Unspent.of_trading (hw : Unspent w) (h : Trading d w a w') : Unspent w' := by
  obtain ⟨hbase, hquote, hsaved⟩ := h.spent_eq
  have hfees : w'.pool.protocolMigrationBaseFeeAmount = 0 ∧
      w'.pool.protocolMigrationQuoteFeeAmount = 0 := by
    have hmb := hw.migrationBaseFee
    have hmq := hw.migrationQuoteFee
    cases h with
    | swap trade completion =>
      have hpool := trade.pool
      cases completion <;> simp only [Deployment.completed, hpool] <;> exact ⟨hmb, hmq⟩
    | claimProtocol => exact ⟨by simp only [hmb, Nat.zero_sub], by simp only [hmq, Nat.zero_sub]⟩
    | _ => exact ⟨hmb, hmq⟩
  exact ⟨hbase.trans hw.base, hquote.trans hw.quote, fun t => (hsaved t).trans (hw.saved t),
    hfees.1, hfees.2⟩

/-- Base only ever leaves the base vault.
Source: `instructions`, the transfers of base -/
theorem Transition.baseVault_le (h : Transition d w a w') : w'.baseVault ≤ w.baseVault := by
  cases h with
  | trading move =>
    cases move with
    | @swap _ _ mid _ _ trade completion =>
      have hvault := trade.baseVault
      have hfee := trade.baseFee_le
      have hmid : w'.baseVault = mid.baseVault := by
        cases completion <;> rfl
      omega
    | pass => exact le_rfl
    | transferCreator => exact le_rfl
    | _ => exact Nat.sub_le _ _
  | locker move =>
    rw [move.eq]
    exact Nat.sub_le _ _
  | migration move =>
    rw [move.eq]
    exact (Nat.sub_le _ _).trans (Nat.sub_le _ _)
  | leftover => exact Nat.sub_le _ _
  | _ => exact le_rfl

/-! ## The base before the pool is created -/

/-- Before the pool is created only the locked vesting has left the base vault, once it is funded.
Source: `create_locker.rs` `handle_create_locker` -/
structure Allotted (d : Deployment) (w : World) : Prop where
  base : w.pool.migrationProgress ≠ .createdPool →
    ∀ locked, d.config.lockedVestingConfig.getTotalAmount = .ok locked →
      baseSpent w.effects = if w.pool.migrationProgress = .lockedVesting ∧
        d.config.lockedVestingConfig.hasVesting = true then locked else 0
  saved : w.pool.migrationProgress ≠ .createdPool → ∀ token, savedTotal token w.effects = 0

/-- Moves that neither pay base nor make progress change nothing of it. -/
theorem Allotted.of_spent_eq (hw : Allotted d w)
    (hprogress : w'.pool.migrationProgress = w.pool.migrationProgress)
    (hbase : baseSpent w'.effects = baseSpent w.effects)
    (hsaved : ∀ t, savedTotal t w'.effects = savedTotal t w.effects) : Allotted d w' := by
  constructor
  · rw [hprogress, hbase]
    exact hw.base
  · rw [hprogress]
    intro hne token
    rw [hsaved]
    exact hw.saved hne token

/-- Trades and claims of fees spend none of the base that is set apart.
Source: `instructions/swap/process_swap.rs` `process_swap` -/
theorem Allotted.of_trading (hended : ProgressEnded d w) (hw : Allotted d w)
    (h : Trading d w a w') : Allotted d w' := by
  obtain ⟨hbase, _, hsaved⟩ := h.spent_eq
  cases h with
  | swap trade completion =>
    have hpre := trade.progress hended
    cases completion with
    | «open» => exact hw.of_spent_eq (by rw [trade.pool]; rfl) hbase hsaved
    | complete =>
      constructor
      · intro _ locked hlocked
        have hzero := hw.base (by rw [hpre]; decide) locked hlocked
        rw [if_neg (by simp [hpre])] at hzero
        rw [hbase, hzero]
        simp only [Deployment.completed]
        split_ifs with hvesting hif <;> simp_all
      · intro _ token
        rw [hsaved]
        exact hw.saved (by rw [hpre]; decide) token
  | _ => exact hw.of_spent_eq rfl hbase hsaved

/-- **Before the pool is created only the vesting leaves the base vault.**
Source: `create_locker.rs` `handle_create_locker` -/
theorem Allotted.of_transition (hlife : Lifecycle d w) (hw : Allotted d w)
    (h : Transition d w a w') : Allotted d w' := by
  cases h with
  | trading move => exact hw.of_trading hlife.ended move
  | @locker amount _ _ move =>
    obtain ⟨hprogress, hvesting, _⟩ := move.progress_cases hlife.toHistory
    have hne : w.pool.migrationProgress ≠ .createdPool ∧
        w.pool.migrationProgress ≠ .lockedVesting := by
      rcases hprogress with h | ⟨h, _⟩ <;> rw [h] <;> decide
    constructor
    · intro _ locked hlocked
      have hzero := hw.base hne.1 locked hlocked
      rw [if_neg (by simp [hne.2])] at hzero
      have hamount := move.amount_eq
      rw [hlocked, Except.ok.injEq] at hamount
      rw [move.eq, if_pos ⟨rfl, hvesting⟩]
      simp only [baseSpent] at hzero ⊢
      simp [Effect.paidAmount]
      omega
    · intro _ token
      rw [move.eq]
      simp [Effect.savedFee, hw.saved hne.1 token]
  | migration move =>
    rw [move.eq]
    exact ⟨fun h => absurd rfl h, fun h => absurd rfl h⟩
  | leftover hprogress _ _ => exact ⟨fun h => absurd hprogress h, fun h => absurd hprogress h⟩
  | _ =>
    refine hw.of_spent_eq ?_ ?_ ?_
    · rfl
    · simp [baseSpent, Effect.paidAmount, World.paid, World.withPool]
    · simp [Effect.savedFee, World.paid, World.withPool]

/-- **Before the pool is created its base vault holds the reserve and the fees, less the vesting
once that is funded.**
Source: `create_locker.rs` `handle_create_locker` -/
theorem Backed.baseVault_eq (hw : Backed w) (hallotted : Allotted d w)
    (hne : w.pool.migrationProgress ≠ .createdPool) {locked : ℕ}
    (hlocked : d.config.lockedVestingConfig.getTotalAmount = .ok locked) :
    w.baseVault + (if w.pool.migrationProgress = .lockedVesting ∧
        d.config.lockedVestingConfig.hasVesting = true then locked else 0) =
      w.pool.baseReserve +
        (w.pool.partnerBaseFee + w.pool.creatorBaseFee + w.pool.protocolBaseFee) := by
  have hbase := hw.base
  rw [hallotted.base hne locked hlocked, hallotted.saved hne .base, (hw.unsaved hne).1] at hbase
  exact hbase

end Steps

/-! ## Launched pools -/

namespace Launch

variable (l : Launch) (actions : List Action)

/-- The books of a new pool balance, and nothing of it is spent.
Source: `state/virtual_pool.rs` `initialize` -/
theorem backed_genesis : Backed l.genesis ∧ Unspent l.genesis := by
  obtain ⟨activationPoint, _, hgenesis, _⟩ := l.genesis_eq
  rw [hgenesis]
  exact ⟨.genesis .., ⟨rfl, rfl, fun _ => rfl, rfl, rfl⟩⟩

/-- A new pool has spent no base.
Source: `state/virtual_pool.rs` `initialize` -/
theorem allotted_genesis : Allotted l.deployment l.genesis := by
  obtain ⟨activationPoint, _, hgenesis, _⟩ := l.genesis_eq
  rw [hgenesis]
  exact ⟨fun _ _ _ => rfl, fun _ _ => rfl⟩

/-- **The books of a pool balance after every run.**
Source: `state/virtual_pool.rs` `PoolState`, its reserves, fees and metrics -/
theorem backed : Backed (l.after actions) := by
  have h : Lifecycle l.deployment (l.after actions) ∧ Backed (l.after actions) :=
    invariant_of_transition (fun w => Lifecycle l.deployment w ∧ Backed w)
      (fun _ _ _ hw hmove => ⟨hw.1.of_transition hmove, hw.2.of_transition hw.1.ended hmove⟩)
      ⟨l.lifecycle_genesis, l.backed_genesis.1⟩
  exact h.2

/-- The base vault never holds more than was minted.
Source: `instructions`, the transfers of base -/
theorem baseVault_le : (l.after actions).baseVault ≤ l.initialBaseSupply := by
  obtain ⟨activationPoint, _, hgenesis, _⟩ := l.genesis_eq
  refine invariant_of_transition (fun w => w.baseVault ≤ l.initialBaseSupply)
    (fun _ _ _ hw hmove => hmove.baseVault_le.trans hw) ?_
  rw [hgenesis]
  exact le_rfl

/-- In every run only the locked vesting is spent before the pool is created.
Source: `create_locker.rs` `handle_create_locker` -/
theorem allotted : Allotted l.deployment (l.after actions) := by
  have h : Lifecycle l.deployment (l.after actions) ∧ Allotted l.deployment (l.after actions) :=
    invariant_of_transition (fun w => Lifecycle l.deployment w ∧ Allotted l.deployment w)
      (fun _ _ _ hw hmove => ⟨hw.1.of_transition hmove, hw.2.of_transition hw.1 hmove⟩)
      ⟨l.lifecycle_genesis, l.allotted_genesis⟩
  exact h.2

/-- **While the pool trades, its vaults hold its reserves and its fees**, and its metrics are the
fees that are outstanding and those that were claimed. What was bought virtually backs nothing.
Source: `state/virtual_pool.rs` `apply_swap_result_internal`, `claim_partner_trading_fee`,
`claim_creator_trading_fee`, `claim_protocol_base_fee`, `claim_protocol_quote_fee_and_surplus`;
`instructions/swap/process_swap.rs` `process_swap` -/
theorem trading_conservation (hall : ∀ a ∈ actions, a.IsTrading) :
    let w := l.after actions
    w.baseVault = w.pool.baseReserve + w.pool.partnerBaseFee + w.pool.creatorBaseFee +
        w.pool.protocolBaseFee ∧
      w.quoteVault = w.pool.quoteReserve + w.pool.partnerQuoteFee + w.pool.creatorQuoteFee +
        w.pool.protocolQuoteFee ∧
      w.pool.metrics.totalTradingBaseFee = w.pool.partnerBaseFee + w.pool.creatorBaseFee +
        (paidTotal .base .partnerTradingFee w.effects +
          paidTotal .base .creatorTradingFee w.effects) ∧
      w.pool.metrics.totalTradingQuoteFee = w.pool.partnerQuoteFee + w.pool.creatorQuoteFee +
        (paidTotal .quote .partnerTradingFee w.effects +
          paidTotal .quote .creatorTradingFee w.effects) ∧
      w.pool.metrics.totalProtocolBaseFee = w.pool.protocolBaseFee +
        paidTotal .base .protocolFee w.effects ∧
      w.pool.metrics.totalProtocolQuoteFee = w.pool.protocolQuoteFee +
        paidTotal .quote .protocolFee w.effects := by
  have hbacked := l.backed actions
  have hunspent : Unspent (l.after actions) :=
    invariant_of_trading Unspent (fun _ _ _ hw hmove => hw.of_trading hmove) hall l.backed_genesis.2
  obtain ⟨hb, hq, hs, hmb, hmq⟩ := hunspent
  refine ⟨?_, ?_, hbacked.tradingBase, hbacked.tradingQuote, ?_, ?_⟩
  · have h := hbacked.base
    rw [hb, hs, hmb] at h
    omega
  · have h := hbacked.quote
    rw [hq, hs, hmq] at h
    omega
  · have h := hbacked.protocolBase
    rw [hs, hmb] at h
    omega
  · have h := hbacked.protocolQuote
    rw [hs, hmq] at h
    omega

/-- A plain launch with a deadline. -/
def plainLaunch : Launch :=
  (ofParameters (plainParameters (2 ^ 64) 1000000 [{ sqrtPrice := 2 ^ 65, liquidity := 2 ^ 90 }])
    false .splToken 100).get (by decide +kernel)

/-- After a buy and a claim of fees the quote vault holds the reserve and the fees. -/
theorem trading_conservation_plain :
    let w := plainLaunch.after [.swap2 (buyOf 0 100000 0), .claimTradingFee 2 10 3 true]
    w.quoteVault = w.pool.quoteReserve + w.pool.partnerQuoteFee + w.pool.creatorQuoteFee +
      w.pool.protocolQuoteFee := by
  have hall : ∀ a ∈ [Action.swap2 (buyOf 0 100000 0), .claimTradingFee 2 10 3 true],
      a.IsTrading := by
    intro a ha
    fin_cases ha <;> trivial
  exact (plainLaunch.trading_conservation _ hall).2.1

end Launch

end DynamicBondingCurve
