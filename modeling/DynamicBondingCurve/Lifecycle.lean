import DynamicBondingCurve.Ledger

/-!
# The life of a pool

* `Quiet`, `Transition.quiet_or`: a move leaves the reserves and the progress alone, or it is a
  swap, the locker or the migration.
* `saleOver_of_transition`: a pool that made progress has ended its sale.
* `Lifecycle`: the progress of a pool, and how often the end of the sale was recorded, the vesting
  funded and the pool created.
* `Frozen`, `frozen_of_transition`: **what is left of a sale once it is over never changes.**
-/

namespace DynamicBondingCurve

open Library

/-! ## Quiet moves -/

/-- A transfer into or out of a vault. -/
def Effect.isTransfer : Effect → Bool
  | .received .. => true
  | .paid .. => true
  | _ => false

/-- A move that leaves the reserves, the price and the progress of the pool alone. -/
structure Quiet (w w' : World) : Prop where
  sqrtPrice : w'.pool.sqrtPrice = w.pool.sqrtPrice
  baseReserve : w'.pool.baseReserve = w.pool.baseReserve
  quoteReserve : w'.pool.quoteReserve = w.pool.quoteReserve
  virtualQuoteReserve : w'.pool.virtualQuoteReserve = w.pool.virtualQuoteReserve
  migrationProgress : w'.pool.migrationProgress = w.pool.migrationProgress
  finishCurveTimestamp : w'.pool.finishCurveTimestamp = w.pool.finishCurveTimestamp
  deadlineTimestamp : w'.pool.deadlineTimestamp = w.pool.deadlineTimestamp
  isTransferHookRevoked : w'.isTransferHookRevoked = w.isTransferHookRevoked
  baseSupply : w'.baseSupply = w.baseSupply
  timestamp_le : w.timestamp ≤ w'.timestamp
  effects : ∃ es : List Effect, (∀ e ∈ es, e.isTransfer = true) ∧ w'.effects = es ++ w.effects

/-- A payment that may be nothing is a transfer. -/
theorem isTransfer_of_mem_positive {token : Token} {purpose : Purpose} {amount : ℕ} {e : Effect}
    (h : e ∈ Effect.positive token purpose amount) : e.isTransfer = true := by
  unfold Effect.positive at h
  split_ifs at h
  · rw [List.mem_singleton.mp h]
    rfl
  · exact absurd h List.not_mem_nil

/-- The transfers of a swap are transfers. -/
theorem isTransfer_of_isSwapTransfer {e : Effect} (h : e.IsSwapTransfer) : e.isTransfer = true := by
  cases e <;> first | rfl | exact absurd h id

section Counting

variable {k : Effect → Bool} {es fs : List Effect}

/-- Transfers are not counted by a predicate that no transfer satisfies. -/
theorem countP_transfers (hk : ∀ e, e.isTransfer = true → k e = false)
    (hes : ∀ e ∈ es, e.isTransfer = true) : (es ++ fs).countP k = fs.countP k := by
  rw [List.countP_append, List.countP_eq_zero.mpr, Nat.zero_add]
  intro e he hke
  rw [hk e (hes e he)] at hke
  exact Bool.false_ne_true hke

/-- Transfers add no effect of another kind. -/
theorem mem_transfers {e : Effect} (he : e.isTransfer = false)
    (hes : ∀ e ∈ es, e.isTransfer = true) : e ∈ es ++ fs ↔ e ∈ fs := by
  refine ⟨fun h => (List.mem_append.mp h).resolve_left fun hmem => ?_,
    List.mem_append_right _⟩
  rw [hes e hmem] at he
  exact Bool.false_ne_true he.symm

end Counting

section Classification

variable {d : Deployment} {w w' : World} {a : Action}

/-- **A move is quiet, or it is a swap, the locker or the migration.** -/
theorem Transition.quiet_or (h : Transition d w a w') :
    Quiet w w' ∨
      (∃ isVirtual x mid, TradeMove d isVirtual x w mid ∧ Completion d mid w') ∨
      (∃ amount, LockerMove d amount w w') ∨ ∃ m, MigrationMove d m w w' := by
  cases h with
  | trading move =>
    cases move with
    | pass slots seconds =>
      exact .inl ⟨rfl, rfl, rfl, rfl, rfl, rfl, rfl, rfl, rfl, Nat.le_add_right _ _,
        [], by simp, rfl⟩
    | swap trade completion => exact .inr (.inl ⟨_, _, _, trade, completion⟩)
    | claimPartner hb hq hbv hqv =>
      refine .inl ⟨rfl, rfl, rfl, rfl, rfl, rfl, rfl, rfl, rfl, le_rfl, _, ?_,
        (List.append_assoc _ _ _).symm⟩
      intro e he
      rcases List.mem_append.mp he with hmem | hmem <;> exact isTransfer_of_mem_positive hmem
    | claimCreator hb hq hbv hqv =>
      refine .inl ⟨rfl, rfl, rfl, rfl, rfl, rfl, rfl, rfl, rfl, le_rfl, _, ?_,
        (List.append_assoc _ _ _).symm⟩
      intro e he
      rcases List.mem_append.mp he with hmem | hmem <;> exact isTransfer_of_mem_positive hmem
    | claimProtocol flag htb hmb htq hmq hbv hqv =>
      refine .inl ⟨rfl, rfl, rfl, rfl, rfl, rfl, rfl, rfl, rfl, le_rfl, _, ?_,
        (List.append_assoc _ _ _).symm⟩
      intro e he
      rcases List.mem_append.mp he with hmem | hmem <;> exact isTransfer_of_mem_positive hmem
    | transferCreator creator =>
      exact .inl ⟨rfl, rfl, rfl, rfl, rfl, rfl, rfl, rfl, rfl, le_rfl, [], by simp, rfl⟩
  | partnerSurplus hcap hflag hqv =>
    exact .inl ⟨rfl, rfl, rfl, rfl, rfl, rfl, rfl, rfl, rfl, le_rfl,
      [_], by simp [Effect.isTransfer], rfl⟩
  | creatorSurplus hfixed hcap hflag hqv =>
    exact .inl ⟨rfl, rfl, rfl, rfl, rfl, rfl, rfl, rfl, rfl, le_rfl,
      [_], by simp [Effect.isTransfer], rfl⟩
  | partnerMigrationFee hpermitted heligible hqv =>
    exact .inl ⟨rfl, rfl, rfl, rfl, rfl, rfl, rfl, rfl, rfl, le_rfl,
      [_], by simp [Effect.isTransfer], rfl⟩
  | creatorMigrationFee hpermitted heligible hqv =>
    exact .inl ⟨rfl, rfl, rfl, rfl, rfl, rfl, rfl, rfl, rfl, le_rfl,
      [_], by simp [Effect.isTransfer], rfl⟩
  | locker move => exact .inr (.inr (.inl ⟨_, move⟩))
  | migration move => exact .inr (.inr (.inr ⟨_, move⟩))
  | leftover hprogress hflag hamount =>
    exact .inl ⟨rfl, rfl, rfl, rfl, rfl, rfl, rfl, rfl, rfl, le_rfl,
      [_], by simp [Effect.isTransfer], rfl⟩

/-- The quote reserve is never reduced.
Source: `state/virtual_pool.rs` `apply_swap_result_internal`; `instructions`, the payments out of
the quote vault -/
theorem quoteReserve_le_of_transition (h : Transition d w a w') :
    w.pool.quoteReserve ≤ w'.pool.quoteReserve := by
  rcases h.quiet_or with hq | ⟨_, x, mid, trade, completion⟩ | ⟨_, move⟩ | ⟨_, move⟩
  · exact hq.quoteReserve.ge
  · have hreserve : w'.pool.quoteReserve = mid.pool.quoteReserve := by
      cases completion <;> rfl
    -- nobody sells, so nothing is taken out of the reserve
    have hout := trade.quoteOut_eq
    rw [hreserve, trade.pool]
    simp only [PoolState.afterTrade, hout]
    omega
  · rw [move.eq]
  · rw [move.eq]

end Classification

/-! ## The end of the sale -/

section SaleOver

variable {d : Deployment} {w w' : World} {threshold timestamp : ℕ} {p : PoolState} {a : Action}

/-- The curve is complete when the quote of the pool reaches the threshold.
Source: `state/virtual_pool.rs` `is_curve_complete` -/
theorem isCurveComplete_iff :
    p.isCurveComplete threshold = true ↔ threshold ≤ p.totalQuoteReserve :=
  decide_eq_true_iff

/-- The sale is over when the curve is complete or the deadline has passed.
Source: `state/virtual_pool.rs` `is_sale_complete` -/
theorem isSaleComplete_iff : p.isSaleComplete threshold timestamp = true ↔
    p.isCurveComplete threshold = true ∨ p.isDeadlineReached timestamp = true :=
  Bool.or_eq_true_iff

/-- The sale of a pool is over.
Source: `instructions/swap/process_swap.rs` `process_swap`, the call of `is_sale_complete` -/
def SaleOver (d : Deployment) (w : World) : Prop :=
  w.pool.isSaleComplete d.config.migrationQuoteThreshold w.timestamp = true

/-- The end of the sale depends on the reserves, the deadline and the clock only.
Source: `state/virtual_pool.rs` `is_sale_complete` -/
theorem SaleOver.mono (h : SaleOver d w) (hquote : w'.pool.quoteReserve = w.pool.quoteReserve)
    (hvirtual : w'.pool.virtualQuoteReserve = w.pool.virtualQuoteReserve)
    (hdeadline : w'.pool.deadlineTimestamp = w.pool.deadlineTimestamp)
    (htime : w.timestamp ≤ w'.timestamp) : SaleOver d w' := by
  unfold SaleOver at h ⊢
  rw [isSaleComplete_iff] at h ⊢
  rcases h with hcurve | hdead
  · rw [isCurveComplete_iff] at hcurve
    refine .inl (isCurveComplete_iff.mpr ?_)
    rwa [PoolState.totalQuoteReserve, hquote, hvirtual]
  · refine .inr ?_
    simp only [PoolState.isDeadlineReached, hdeadline, decide_eq_true_eq] at hdead ⊢
    exact ⟨hdead.1, hdead.2.trans htime⟩

/-- The reserves, the price and the end of the sale of `w` are those of `w'`.
Source: `state/virtual_pool.rs` `PoolState` -/
structure Frozen (d : Deployment) (w w' : World) : Prop where
  saleOver : SaleOver d w'
  sqrtPrice : w'.pool.sqrtPrice = w.pool.sqrtPrice
  baseReserve : w'.pool.baseReserve = w.pool.baseReserve
  quoteReserve : w'.pool.quoteReserve = w.pool.quoteReserve
  virtualQuoteReserve : w'.pool.virtualQuoteReserve = w.pool.virtualQuoteReserve

/-- **Once the sale is over a move changes none of its results.**
Source: `instructions/swap/process_swap.rs` `process_swap`, the check of `is_sale_complete` -/
theorem frozen_of_transition (hover : SaleOver d w) (h : Transition d w a w') : Frozen d w w' := by
  rcases h.quiet_or with hq | ⟨_, _, _, trade, _⟩ | ⟨_, move⟩ | ⟨_, move⟩
  · exact ⟨hover.mono hq.quoteReserve hq.virtualQuoteReserve hq.deadlineTimestamp
      hq.timestamp_le, hq.sqrtPrice, hq.baseReserve, hq.quoteReserve, hq.virtualQuoteReserve⟩
  · exact absurd hover (by rw [SaleOver, trade.isOpen]; exact Bool.false_ne_true)
  · rw [move.eq]
    exact ⟨hover.mono rfl rfl rfl le_rfl, rfl, rfl, rfl, rfl⟩
  · rw [move.eq]
    exact ⟨hover.mono rfl rfl rfl le_rfl, rfl, rfl, rfl, rfl⟩

/-- Once the sale is over it stays so through every run, with its results.
Source: `instructions/swap/process_swap.rs` `process_swap`, the check of `is_sale_complete` -/
theorem frozen_of_run (actions : List Action) (hover : SaleOver d w) :
    Frozen d w (run d.step w actions) := by
  refine relation_of_transition (fun _ => True) (fun u v => SaleOver d u → Frozen d u v) ?_ ?_
    (fun _ _ _ _ _ => trivial) ?_ trivial hover
  · exact fun w h => ⟨h, rfl, rfl, rfl, rfl⟩
  · intro u v w huv hvw hu
    have h1 := huv hu
    have h2 := hvw h1.saleOver
    exact ⟨h2.saleOver, h2.sqrtPrice.trans h1.sqrtPrice, h2.baseReserve.trans h1.baseReserve,
      h2.quoteReserve.trans h1.quoteReserve,
      h2.virtualQuoteReserve.trans h1.virtualQuoteReserve⟩
  · exact fun _ w w' _ hmove hw => frozen_of_transition hw hmove

/-- A pool that made progress has ended its sale.
Source: `state/virtual_pool.rs` `MigrationProgress` -/
def ProgressEnded (d : Deployment) (w : World) : Prop :=
  w.pool.migrationProgress ≠ .preBondingCurve → SaleOver d w

/-- The locker after a deadline is for a pool with a vesting that is not complete. -/
theorem progress_eq_of_canCreateLockerAfterDeadline
    (h : d.canCreateLockerAfterDeadline w = true) :
    w.pool.migrationProgress = .preBondingCurve ∧
      d.config.lockedVestingConfig.hasVesting = true ∧
      w.pool.isDeadlineReached w.timestamp = true := by
  simpa [Deployment.canCreateLockerAfterDeadline, and_assoc] using h

/-- The migration after a deadline is for a pool without a vesting that is not complete. -/
theorem progress_eq_of_canMigrateAfterDeadline (h : d.canMigrateAfterDeadline w = true) :
    w.pool.migrationProgress = .preBondingCurve ∧
      w.pool.isDeadlineReached w.timestamp = true ∧
      d.config.lockedVestingConfig.hasVesting = false := by
  simpa [Deployment.canMigrateAfterDeadline, and_assoc] using h

/-- A trade finds no progress.
Source: `instructions/swap/process_swap.rs` `process_swap`, the check of `is_sale_complete` -/
theorem TradeMove.progress {isVirtual : Bool} {x : Trade} (trade : TradeMove d isVirtual x w w')
    (hw : ProgressEnded d w) : w.pool.migrationProgress = .preBondingCurve := by
  by_contra hne
  have hover : SaleOver d w := hw hne
  rw [SaleOver, trade.isOpen] at hover
  exact Bool.false_ne_true hover

/-- Every move keeps progress and the end of the sale together.
Source: `state/virtual_pool.rs` `MigrationProgress` -/
theorem progressEnded_of_transition (hw : ProgressEnded d w) (h : Transition d w a w') :
    ProgressEnded d w' := by
  rcases h.quiet_or with hq | ⟨_, _, mid, trade, completion⟩ | ⟨_, move⟩ | ⟨_, move⟩
  · intro hne
    rw [hq.migrationProgress] at hne
    exact (hw hne).mono hq.quoteReserve hq.virtualQuoteReserve hq.deadlineTimestamp
      hq.timestamp_le
  · have hpre := trade.progress hw
    cases completion with
    | «open» incomplete =>
      intro hne
      rw [trade.pool] at hne
      exact absurd hpre hne
    | complete hcomplete => exact fun _ => isSaleComplete_iff.mpr (.inl hcomplete)
  · intro _
    have hover : SaleOver d w := by
      rcases move.progress with hpost | hdead
      · exact hw (by rw [hpost]; decide)
      · exact isSaleComplete_iff.mpr
          (.inr (progress_eq_of_canCreateLockerAfterDeadline hdead).2.2)
    exact (frozen_of_transition hover h).saleOver
  · exact fun _ => (frozen_of_transition (isSaleComplete_iff.mpr move.ended) h).saleOver

end SaleOver

/-! ## What happened so far -/

/-- Whether an effect records the time of the end. -/
def Effect.isFinishCurve : Effect → Bool
  | .finishCurveTimestamp _ => true
  | _ => false

/-- Whether an effect creates the escrow. -/
def Effect.isEscrowCreated : Effect → Bool
  | .escrowCreated .. => true
  | _ => false

/-- Whether an effect creates the pool of the other program. -/
def Effect.isPoolCreated : Effect → Bool
  | .poolCreated .. => true
  | _ => false

/-- A transfer records and creates nothing. -/
theorem uncounted_of_isTransfer {e : Effect} (h : e.isTransfer = true) :
    e.isFinishCurve = false ∧ e.isEscrowCreated = false ∧ e.isPoolCreated = false := by
  cases e <;> first | exact ⟨rfl, rfl, rfl⟩ | cases h

/-- How often what the progress of a pool stands for was done.
Source: `state/virtual_pool.rs` `MigrationProgress` -/
structure History (d : Deployment) (w : World) : Prop where
  /-- The end of the sale is not recorded early. -/
  unfinished : w.pool.migrationProgress = .preBondingCurve → w.pool.finishCurveTimestamp = 0
  /-- Only a pool with vesting waits for its locker. -/
  vesting : w.pool.migrationProgress = .postBondingCurve →
    d.config.lockedVestingConfig.hasVesting = true
  /-- The end of the sale is recorded once. -/
  finishCount : w.effects.countP Effect.isFinishCurve =
    if w.pool.migrationProgress = .preBondingCurve then 0 else 1
  /-- The recorded end is the one in the state. -/
  finishRecorded : w.pool.migrationProgress ≠ .preBondingCurve →
    .finishCurveTimestamp w.pool.finishCurveTimestamp ∈ w.effects
  /-- The vesting is funded once, and before the pool is created. -/
  escrowCount : w.effects.countP Effect.isEscrowCreated =
    if (w.pool.migrationProgress = .lockedVesting ∨ w.pool.migrationProgress = .createdPool) ∧
      d.config.lockedVestingConfig.hasVesting = true then 1 else 0
  /-- The vesting is funded in full, and starts at the recorded end of the sale. -/
  escrowSchedule : ∀ schedule amount, .escrowCreated schedule amount ∈ w.effects →
    d.config.lockedVestingConfig.getTotalAmount = .ok amount ∧
      schedule = d.config.lockedVestingConfig.toCreateVestingEscrowParams
        w.pool.finishCurveTimestamp
  /-- The pool is created once. -/
  createdCount : w.effects.countP Effect.isPoolCreated =
    if w.pool.migrationProgress = .createdPool then 1 else 0

/-- The progress of a pool agrees with its sale and with its history.
Source: `state/virtual_pool.rs` `MigrationProgress` -/
structure Lifecycle (d : Deployment) (w : World) : Prop extends History d w where
  /-- A pool that made progress has ended its sale. -/
  ended : ProgressEnded d w
  /-- A raised threshold is progress. -/
  incomplete : w.pool.migrationProgress = .preBondingCurve →
    w.pool.isCurveComplete d.config.migrationQuoteThreshold = false

section Steps

variable {d : Deployment} {w w' : World} {es : List Effect} {amount : ℕ} {m : MigrationData}
  {a : Action}

/-- Transfers make no history. -/
theorem History.of_transfers (hw : History d w)
    (hprogress : w'.pool.migrationProgress = w.pool.migrationProgress)
    (hfinish : w'.pool.finishCurveTimestamp = w.pool.finishCurveTimestamp)
    (hes : ∀ e ∈ es, e.isTransfer = true) (heffects : w'.effects = es ++ w.effects) :
    History d w' := by
  constructor
  · rw [hprogress, hfinish]
    exact hw.unfinished
  · rw [hprogress]
    exact hw.vesting
  · rw [hprogress, heffects,
      countP_transfers (fun _ he => (uncounted_of_isTransfer he).1) hes]
    exact hw.finishCount
  · rw [hprogress, hfinish, heffects, mem_transfers rfl hes]
    exact hw.finishRecorded
  · rw [hprogress, heffects,
      countP_transfers (fun _ he => (uncounted_of_isTransfer he).2.1) hes]
    exact hw.escrowCount
  · intro schedule amount hmem
    rw [heffects, mem_transfers rfl hes] at hmem
    rw [hfinish]
    exact hw.escrowSchedule schedule amount hmem
  · rw [hprogress, heffects,
      countP_transfers (fun _ he => (uncounted_of_isTransfer he).2.2) hes]
    exact hw.createdCount

/-- Before the end of the sale nothing happened that its end allows.
Source: `state/virtual_pool.rs` `MigrationProgress` -/
theorem History.before (hw : History d w)
    (hpre : w.pool.migrationProgress = .preBondingCurve) :
    w.effects.countP Effect.isFinishCurve = 0 ∧ w.effects.countP Effect.isEscrowCreated = 0 ∧
      w.effects.countP Effect.isPoolCreated = 0 := by
  have hfinish := hw.finishCount
  have hescrow := hw.escrowCount
  have hcreated := hw.createdCount
  rw [hpre] at hfinish hescrow hcreated
  exact ⟨hfinish, hescrow, hcreated⟩

/-- No escrow is in a history that funded none. -/
theorem not_mem_of_countP_eq_zero {effects : List Effect}
    (h : effects.countP Effect.isEscrowCreated = 0) (schedule : CreateVestingEscrowParameters)
    (amount : ℕ) : .escrowCreated schedule amount ∉ effects := by
  intro hmem
  exact List.countP_eq_zero.mp h _ hmem rfl

/-- The end of the sale is recorded by the swap that raises the threshold.
Source: `instructions/swap/process_swap.rs` `process_swap`, `curve_complete` -/
theorem History.completed (hw : History d w)
    (hpre : w.pool.migrationProgress = .preBondingCurve) : History d (d.completed w) := by
  obtain ⟨hfinish, hescrow, hcreated⟩ := hw.before hpre
  have hschedule := not_mem_of_countP_eq_zero hescrow
  have hprogress : (d.completed w).pool.migrationProgress =
      if d.config.lockedVestingConfig.hasVesting then .postBondingCurve else .lockedVesting := rfl
  have heffects : (d.completed w).effects =
      (if d.isTransferHookPool then [.transferHookRevoked] else []) ++
        .finishCurveTimestamp (d.completed w).pool.finishCurveTimestamp :: w.effects := rfl
  have hcount : ∀ k : Effect → Bool, k .transferHookRevoked = false →
      (d.completed w).effects.countP k = w.effects.countP k +
        if k (.finishCurveTimestamp w.timestamp) then 1 else 0 := by
    intro k hk
    rw [heffects, List.countP_append, List.countP_cons]
    split_ifs <;> simp_all [Deployment.completed]
  constructor
  · intro h
    rw [hprogress] at h
    split_ifs at h
  · intro h
    rw [hprogress] at h
    by_contra hno
    rw [if_neg hno] at h
    cases h
  · rw [hcount _ rfl, hfinish, hprogress]
    split_ifs <;> simp_all [Effect.isFinishCurve]
  · intro _
    rw [heffects]
    exact List.mem_append_right _ List.mem_cons_self
  · rw [hcount _ rfl, hescrow, hprogress]
    split_ifs <;> simp_all [Effect.isEscrowCreated]
  · intro schedule amount hmem
    rw [heffects] at hmem
    split_ifs at hmem <;> simp [hschedule] at hmem
  · rw [hcount _ rfl, hcreated, hprogress]
    split_ifs <;> simp_all [Effect.isPoolCreated]

/-- The end of a sale is on record once the locker or the migration wrote it.
Source: `create_locker.rs` `handle_create_locker`, the write of `finish_curve_timestamp` -/
structure FinishWritten (w : World) (isAfterDeadline : Bool) : Prop where
  finishCount : (finishEffects w isAfterDeadline ++ w.effects).countP Effect.isFinishCurve = 1
  finishRecorded : .finishCurveTimestamp (finishTime w isAfterDeadline) ∈
    finishEffects w isAfterDeadline ++ w.effects
  escrowCount : (finishEffects w isAfterDeadline ++ w.effects).countP Effect.isEscrowCreated =
    w.effects.countP Effect.isEscrowCreated
  escrow_mem : ∀ schedule amount, .escrowCreated schedule amount ∈
    finishEffects w isAfterDeadline ++ w.effects ↔ .escrowCreated schedule amount ∈ w.effects
  createdCount : (finishEffects w isAfterDeadline ++ w.effects).countP Effect.isPoolCreated =
    w.effects.countP Effect.isPoolCreated
  time_eq : w.pool.migrationProgress ≠ .preBondingCurve →
    finishTime w isAfterDeadline = w.pool.finishCurveTimestamp

/-- The end of a sale is on record: it was already, or a move after the deadline writes it now.
Source: `create_locker.rs` `handle_create_locker`, the write of `finish_curve_timestamp` -/
theorem History.finishWritten (hw : History d w) {isAfterDeadline : Bool}
    (h : (w.pool.migrationProgress ≠ .preBondingCurve ∧ isAfterDeadline = false) ∨
      w.pool.migrationProgress = .preBondingCurve ∧ isAfterDeadline = true) :
    FinishWritten w isAfterDeadline := by
  rcases h with ⟨hne, rfl⟩ | ⟨hpre, rfl⟩
  · have heffects : finishEffects w false = [] := by simp [finishEffects]
    have htime : finishTime w false = w.pool.finishCurveTimestamp := by simp [finishTime]
    have hcount := hw.finishCount
    rw [if_neg hne] at hcount
    constructor <;> simp only [heffects, htime, List.nil_append]
    · exact hcount
    · exact hw.finishRecorded hne
    · exact fun _ _ => trivial
    · exact fun _ => trivial
  · have hzero := hw.unfinished hpre
    have heffects : finishEffects w true = [.finishCurveTimestamp w.pool.deadlineTimestamp] := by
      simp [finishEffects, hzero]
    have htime : finishTime w true = w.pool.deadlineTimestamp := by simp [finishTime, hzero]
    obtain ⟨hcount, _, _⟩ := hw.before hpre
    constructor <;> simp only [heffects, htime, List.cons_append, List.nil_append,
      List.countP_cons, List.mem_cons]
    · simp [hcount, Effect.isFinishCurve]
    · exact .inl trivial
    · simp [Effect.isEscrowCreated]
    · simp
    · simp [Effect.isPoolCreated]
    · exact fun hne => absurd hpre hne

/-- The locker is created after a complete sale, or after the deadline of one that is not.
Source: `create_locker.rs` `handle_create_locker`, the first check on the state of the pool -/
theorem LockerMove.progress_cases (hw : History d w) (move : LockerMove d amount w w') :
    (w.pool.migrationProgress = .postBondingCurve ∨
        w.pool.migrationProgress = .preBondingCurve ∧
          w.pool.isDeadlineReached w.timestamp = true) ∧
      d.config.lockedVestingConfig.hasVesting = true ∧
      FinishWritten w (d.canCreateLockerAfterDeadline w) := by
  rcases move.progress with hpost | hdead
  · refine ⟨.inl hpost, hw.vesting hpost, hw.finishWritten (.inl ⟨?_, ?_⟩)⟩
    · rw [hpost]
      decide
    · simp [Deployment.canCreateLockerAfterDeadline, hpost]
  · obtain ⟨hpre, hvesting, htime⟩ := progress_eq_of_canCreateLockerAfterDeadline hdead
    exact ⟨.inr ⟨hpre, htime⟩, hvesting, hw.finishWritten (.inr ⟨hpre, hdead⟩)⟩

/-- The locker records the end of a sale that its deadline ended, and funds the vesting.
Source: `create_locker.rs` `handle_create_locker` -/
theorem History.of_locker (hw : History d w) (move : LockerMove d amount w w') :
    History d w' := by
  obtain ⟨hprogress, hvesting, hwritten⟩ := move.progress_cases hw
  have hescrow : w.effects.countP Effect.isEscrowCreated = 0 := by
    rw [hw.escrowCount]
    rcases hprogress with h | ⟨h, _⟩ <;> simp [h]
  have hcreated : w.effects.countP Effect.isPoolCreated = 0 := by
    rw [hw.createdCount]
    rcases hprogress with h | ⟨h, _⟩ <;> simp [h]
  rw [move.eq]
  constructor <;> simp only [List.countP_cons, List.mem_cons]
  · exact fun h => by cases h
  · exact fun h => by cases h
  · simp [hwritten.finishCount, Effect.isFinishCurve]
  · exact fun _ => .inr (.inr hwritten.finishRecorded)
  · simp [hwritten.escrowCount, hescrow, hvesting, Effect.isEscrowCreated]
  · rintro schedule total (hnew | hpaid | hold)
    · cases hnew
      exact ⟨move.amount_eq, rfl⟩
    · cases hpaid
    · rw [hwritten.escrow_mem] at hold
      exact absurd hold (not_mem_of_countP_eq_zero hescrow _ _)
  · simp [hwritten.createdCount, hcreated, Effect.isPoolCreated]

/-- A pool migrates after its locker, or after its deadline without one.
Source: `migrate_damm_v2_initialize_pool.rs` `handle_migrate_damm_v2`, the first check on the state
of the pool -/
theorem MigrationMove.progress_cases (hw : History d w) (move : MigrationMove d m w w') :
    (w.pool.migrationProgress = .lockedVesting ∨
        w.pool.migrationProgress = .preBondingCurve ∧
          w.pool.isDeadlineReached w.timestamp = true ∧
          d.config.lockedVestingConfig.hasVesting = false) ∧
      FinishWritten w (d.canMigrateAfterDeadline w) := by
  rcases move.progress with hlocked | hdead
  · refine ⟨.inl hlocked, hw.finishWritten (.inl ⟨?_, ?_⟩)⟩
    · rw [hlocked]
      decide
    · simp [Deployment.canMigrateAfterDeadline, hlocked]
  · obtain ⟨hpre, htime, hvesting⟩ := progress_eq_of_canMigrateAfterDeadline hdead
    exact ⟨.inr ⟨hpre, htime, hvesting⟩, hw.finishWritten (.inr ⟨hpre, hdead⟩)⟩

/-- The migration records the end of a sale that its deadline ended, and creates the pool.
Source: `migrate_damm_v2_initialize_pool.rs` `handle_migrate_damm_v2` -/
theorem History.of_migration (hw : History d w) (move : MigrationMove d m w w') :
    History d w' := by
  obtain ⟨hprogress, hwritten⟩ := move.progress_cases hw
  have hcreated : w.effects.countP Effect.isPoolCreated = 0 := by
    rw [hw.createdCount]
    rcases hprogress with h | ⟨h, _⟩ <;> simp [h]
  have hburn : ∀ e ∈ Effect.positive .base .burn m.burnt, e.isTransfer = true :=
    fun e he => isTransfer_of_mem_positive he
  rw [move.eq]
  constructor
  · exact fun h => by cases h
  · exact fun h => by cases h
  · rw [countP_transfers (fun _ he => (uncounted_of_isTransfer he).1) hburn]
    simp [hwritten.finishCount, Effect.isFinishCurve]
  · refine fun _ => (mem_transfers rfl hburn).mpr ?_
    simp only [List.mem_cons]
    exact .inr (.inr (.inr hwritten.finishRecorded))
  · rw [countP_transfers (fun _ he => (uncounted_of_isTransfer he).2.1) hburn]
    simp only [List.countP_cons, hwritten.escrowCount, hw.escrowCount]
    rcases hprogress with h | ⟨h, _, hvesting⟩ <;> simp [h, Effect.isEscrowCreated]
    exact hvesting
  · intro schedule amount hmem
    rw [mem_transfers rfl hburn] at hmem
    simp only [List.mem_cons, reduceCtorEq, false_or] at hmem
    rw [hwritten.escrow_mem] at hmem
    have hsame : finishTime w (d.canMigrateAfterDeadline w) = w.pool.finishCurveTimestamp := by
      refine hwritten.time_eq fun hpre => ?_
      exact not_mem_of_countP_eq_zero (hw.before hpre).2.1 _ _ hmem
    simp only [hsame]
    exact hw.escrowSchedule schedule amount hmem
  · rw [countP_transfers (fun _ he => (uncounted_of_isTransfer he).2.2) hburn]
    simp only [List.countP_cons, hwritten.createdCount, hcreated, Effect.isPoolCreated]
    rfl

/-- A new pool has no history.
Source: `state/virtual_pool.rs` `initialize` -/
theorem History.genesis (creator : Pubkey) (sqrtPrice activationPoint baseReserve bps deadline
    slot timestamp : ℕ) : History d (.genesis
      (.initializeState creator sqrtPrice activationPoint baseReserve bps deadline) slot
      timestamp) := by
  constructor <;> simp [World.genesis, PoolState.initializeState]

/-- **Every move keeps the progress in step with the history.**
Source: `state/virtual_pool.rs` `MigrationProgress` -/
theorem History.of_transition (hw : History d w) (hended : ProgressEnded d w)
    (h : Transition d w a w') : History d w' := by
  rcases h.quiet_or with hq | ⟨_, _, mid, trade, completion⟩ | ⟨_, move⟩ | ⟨_, move⟩
  · obtain ⟨es, hes, heffects⟩ := hq.effects
    exact hw.of_transfers hq.migrationProgress hq.finishCurveTimestamp hes heffects
  · obtain ⟨es, hswap, heffects⟩ := trade.effects
    have hprogress : mid.pool.migrationProgress = w.pool.migrationProgress := by
      rw [trade.pool]
      rfl
    have hmid : History d mid := hw.of_transfers hprogress (by rw [trade.pool]; rfl)
      (fun e he => isTransfer_of_isSwapTransfer (hswap e he)) heffects
    cases completion with
    | «open» incomplete => exact hmid
    | complete complete => exact hmid.completed (hprogress.trans (trade.progress hended))
  · exact hw.of_locker move
  · exact hw.of_migration move

/-- **Every move keeps the progress in step with the sale and with the history.**
Source: `state/virtual_pool.rs` `MigrationProgress` -/
theorem Lifecycle.of_transition (hw : Lifecycle d w) (h : Transition d w a w') :
    Lifecycle d w' := by
  refine ⟨hw.toHistory.of_transition hw.ended h, progressEnded_of_transition hw.ended h, ?_⟩
  rcases h.quiet_or with hq | ⟨_, _, mid, trade, completion⟩ | ⟨_, move⟩ | ⟨_, move⟩
  · rw [hq.migrationProgress, PoolState.isCurveComplete, PoolState.totalQuoteReserve,
      hq.quoteReserve, hq.virtualQuoteReserve]
    exact hw.incomplete
  · cases completion with
    | «open» incomplete => exact fun _ => incomplete
    | complete complete =>
      intro h
      simp only [Deployment.completed] at h
      split_ifs at h
  · rw [move.eq]
    exact fun h => by cases h
  · rw [move.eq]
    exact fun h => by cases h

/-! ## The edges -/

/-- The edges of the progress of a pool.
Source: `state/virtual_pool.rs` `MigrationProgress`; the instructions that write
`migration_progress` -/
inductive ProgressMove (d : Deployment) (w : World) :
    MigrationProgress → MigrationProgress → Prop
  /-- No progress. -/
  | stay (s : MigrationProgress) : ProgressMove d w s s
  /-- The threshold is raised, and there is vesting to fund. -/
  | complete (vesting : d.config.lockedVestingConfig.hasVesting = true) :
      ProgressMove d w .preBondingCurve .postBondingCurve
  /-- The threshold is raised, and there is no vesting to fund. -/
  | completeLocked (no_vesting : d.config.lockedVestingConfig.hasVesting = false) :
      ProgressMove d w .preBondingCurve .lockedVesting
  /-- The vesting is funded. -/
  | lock : ProgressMove d w .postBondingCurve .lockedVesting
  /-- The vesting is funded after the deadline. -/
  | lockAtDeadline (deadline : w.pool.isDeadlineReached w.timestamp = true)
      (vesting : d.config.lockedVestingConfig.hasVesting = true) :
      ProgressMove d w .preBondingCurve .lockedVesting
  /-- The pool is created. -/
  | create : ProgressMove d w .lockedVesting .createdPool
  /-- The pool is created after the deadline, with no vesting to fund. -/
  | createAtDeadline (deadline : w.pool.isDeadlineReached w.timestamp = true)
      (no_vesting : d.config.lockedVestingConfig.hasVesting = false) :
      ProgressMove d w .preBondingCurve .createdPool

/-- **Every move follows an edge.**
Source: the instructions that write `migration_progress` -/
theorem progressMove_of_transition (hw : Lifecycle d w) (h : Transition d w a w') :
    ProgressMove d w w.pool.migrationProgress w'.pool.migrationProgress := by
  rcases h.quiet_or with hq | ⟨_, _, mid, trade, completion⟩ | ⟨_, move⟩ | ⟨_, move⟩
  · rw [hq.migrationProgress]
    exact .stay _
  · cases completion with
    | «open» incomplete =>
      rw [trade.pool]
      exact .stay _
    | complete complete =>
      rw [trade.progress hw.ended]
      cases hvesting : d.config.lockedVestingConfig.hasVesting with
      | true =>
        simp only [Deployment.completed, hvesting, if_true]
        exact .complete hvesting
      | false =>
        simp only [Deployment.completed, hvesting, Bool.false_eq_true, if_false]
        exact .completeLocked hvesting
  · obtain ⟨hprogress, hvesting, _⟩ := move.progress_cases hw.toHistory
    rw [move.eq]
    rcases hprogress with hpost | ⟨hpre, hdead⟩
    · rw [hpost]
      exact .lock
    · rw [hpre]
      exact .lockAtDeadline hdead hvesting
  · obtain ⟨hprogress, _⟩ := move.progress_cases hw.toHistory
    rw [move.eq]
    rcases hprogress with hlocked | ⟨hpre, hdead, hvesting⟩
    · rw [hlocked]
      exact .create
    · rw [hpre]
      exact .createAtDeadline hdead hvesting

end Steps

/-! ## Launched pools -/

namespace Launch

variable (l : Launch) (actions : List Action)

/-- A new pool is at the start of its life.
Source: `state/virtual_pool.rs` `initialize` -/
theorem lifecycle_genesis : Lifecycle l.deployment l.genesis := by
  obtain ⟨activationPoint, _, hgenesis, _⟩ := l.genesis_eq
  rw [hgenesis]
  refine ⟨.genesis .., fun hne => absurd rfl hne, fun _ => ?_⟩
  rw [← Bool.not_eq_true, isCurveComplete_iff, Nat.not_le]
  exact l.accepted.threshold_pos

/-- Every state of every run is a state of the life of a pool.
Source: `state/virtual_pool.rs` `MigrationProgress` -/
theorem lifecycle : Lifecycle l.deployment (l.after actions) :=
  invariant_of_transition (Lifecycle l.deployment) (fun _ _ _ => Lifecycle.of_transition)
    l.lifecycle_genesis

/-- **The migration state machine.** After every run of the program the progress of the pool
agrees with what was done so far; the next instruction follows an edge; and once the sale is over
no further run changes what the sale left.
Source: `state/virtual_pool.rs` `MigrationProgress`, `is_sale_complete` -/
theorem migration_stateMachine (a : Action) (more : List Action) :
    Lifecycle l.deployment (l.after actions) ∧
      ProgressMove l.deployment (l.after actions) (l.after actions).pool.migrationProgress
        (l.after (actions ++ [a])).pool.migrationProgress ∧
      (SaleOver l.deployment (l.after actions) →
        Frozen l.deployment (l.after actions) (l.after (actions ++ more))) := by
  refine ⟨l.lifecycle actions, ?_, fun hover => ?_⟩
  · rw [after_append, run_cons, run_nil]
    rcases advance_cases l.deployment.step (l.after actions) a with hsame | hok
    · rw [hsame]
      exact .stay _
    · exact progressMove_of_transition (l.lifecycle actions) (step_transition hok)
  · rw [after_append]
    exact frozen_of_run more hover

end Launch

end DynamicBondingCurve
