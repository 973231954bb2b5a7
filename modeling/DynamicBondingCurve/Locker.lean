import DynamicBondingCurve.Sale

/-!
# The locker after the deadline

After its deadline a pool with locked vesting goes through two instructions: the locker, which
moves the vesting out of the base vault, and the migration. Both ask whether the vault covers the
base that the migration needs. The locker asks before it moves the vesting, so that its answer
may be wrong by the time the migration asks again.

* `Deployment.checkMigration`: the question, as the migration asks it.
* `CoversVestingAndMigration`: the base reserve covers both amounts.
* `Locked`: what is left alone between the two instructions.
* `createLocker_leaves_migration_iff`: **the migration stays possible exactly when the reserve
  covers both amounts.**
-/

namespace DynamicBondingCurve

open Library

/-! ## The question -/

namespace Deployment

variable (d : Deployment)

/-- The handler of the migration.
Source: `migrate_damm_v2_initialize_pool.rs` `handle_migrate_damm_v2`, `liquidity_handler`;
`migrate_meteora_damm_initialize_pool.rs` `handle_migrate_meteora_damm`, `liquidity_handler` -/
def migrationHandler (p : PoolState) : Result MigrationHandler := do
  let migrationOption ← orThrow (MigrationOption.tryFrom d.config.migrationOption)
    (Fault.error .invalidMigrationOption)
  match migrationOption with
  | .meteoraDamm => pure (.compoundingLiquidity p.sqrtPrice)
  | .dammV2 => d.liquidityHandler p

/-- The checks of a migration on the base and the quote.
Source: `migrate_damm_v2_initialize_pool.rs` `handle_migrate_damm_v2`, from
`effective_migration_quote_threshold` to the check before `get_migration_protocol_fees`;
`migrate_meteora_damm_initialize_pool.rs` `handle_migrate_meteora_damm`, the same -/
def checkMigration (w : World) : Result Unit := do
  let handler ← d.migrationHandler w.pool
  ensure (w.pool.effectiveMigrationQuoteThreshold d.config.getMigrationQuoteAmountCap > 0)
    .insufficientLiquidityForMigration
  let (base, quote) ← d.migrationAmounts w.pool handler
  checkMigrationAmounts w base quote

variable {d} {w w' : World} {amm : Amm}

/-- A migration makes the checks.
Source: `migrate_damm_v2_initialize_pool.rs` `handle_migrate_damm_v2` -/
theorem checkMigration_of_prepareMigration {handler : MigrationHandler} {offer : Deposit}
    (hhandler : d.migrationHandler w.pool = .ok handler)
    (h : d.prepareMigration w handler = .ok (offer, w')) : d.checkMigration w = .ok () := by
  simp only [prepareMigration, bind_eq_ok, exists_unit, require_eq_ok] at h
  obtain ⟨hpos, ⟨base, quote⟩, hamounts, hcheck, _⟩ := h
  simp only [checkMigration, bind_eq_ok, exists_unit, require_eq_ok]
  exact ⟨handler, hhandler, hpos, (base, quote), hamounts, hcheck⟩

/-- The end of the sale is no matter of the checks. -/
theorem checkMigration_writeFinishCurveTimestamp {isAfterDeadline : Bool} :
    d.checkMigration (writeFinishCurveTimestamp w isAfterDeadline) = d.checkMigration w := by
  unfold writeFinishCurveTimestamp
  split_ifs <;> rfl

/-- A migration into the second program has passed the whole check.
Source: `migrate_damm_v2_initialize_pool.rs` `handle_migrate_damm_v2` -/
theorem checkMigration_of_migrateDammV2 (h : d.migrateDammV2 w amm = .ok w') :
    d.checkMigration w = .ok () := by
  simp only [migrateDammV2, bind_eq_ok, exists_unit, require_eq_ok, orThrow_eq_ok] at h
  obtain ⟨_, option, hoption, rfl, handler, hhandler, ⟨offer, w1⟩, hprepare, _⟩ := h
  rw [← checkMigration_writeFinishCurveTimestamp]
  refine checkMigration_of_prepareMigration ?_ hprepare
  simp only [migrationHandler, bind_eq_ok, orThrow_eq_ok]
  exact ⟨_, hoption, hhandler⟩

/-- A migration into the first program has passed the whole check.
Source: `migrate_meteora_damm_initialize_pool.rs` `handle_migrate_meteora_damm` -/
theorem checkMigration_of_migrateMeteoraDamm (h : d.migrateMeteoraDamm w amm = .ok w') :
    d.checkMigration w = .ok () := by
  simp only [migrateMeteoraDamm, bind_eq_ok, exists_unit, require_eq_ok, orThrow_eq_ok] at h
  obtain ⟨_, _, option, hoption, rfl, ⟨offer, w1⟩, hprepare, _⟩ := h
  rw [← checkMigration_writeFinishCurveTimestamp]
  refine checkMigration_of_prepareMigration ?_ hprepare
  simp only [migrationHandler, bind_eq_ok, orThrow_eq_ok]
  exact ⟨_, hoption, rfl⟩

/-- The locker asks for the amounts that the migration asks for.
Source: `create_locker.rs` `handle_create_locker`, `liquidity_handler` -/
theorem migrationHandler_of_liquidityHandler {p : PoolState} {handler : MigrationHandler}
    (h : d.liquidityHandler p = .ok handler) : d.migrationHandler p = .ok handler := by
  have hsame := h
  simp only [liquidityHandler, bind_eq_ok, orThrow_eq_ok, pure_eq_ok] at h
  obtain ⟨option, hoption, mode, _, rfl⟩ := h
  simp only [migrationHandler, bind_eq_ok, orThrow_eq_ok]
  refine ⟨option, hoption, ?_⟩
  cases option with
  | meteoraDamm => rfl
  | dammV2 => exact hsame

/-- What the locker asks after the deadline.
Source: `create_locker.rs` `handle_create_locker`, the block of
`can_create_locker_after_deadline` -/
theorem createLocker_guard {isAccepted : Bool}
    (hdeadline : d.canCreateLockerAfterDeadline w = true)
    (h : d.createLocker w isAccepted = .ok w') :
    ∃ handler base quote, d.migrationHandler w.pool = .ok handler ∧ 0 < w.pool.quoteReserve ∧
      d.migrationAmounts w.pool handler = .ok (base, quote) ∧ 0 < base ∧ 0 < quote := by
  simp only [createLocker, hdeadline, if_true, bind_eq_ok, exists_unit, require_eq_ok] at h
  obtain ⟨_, ⟨handler, hhandler, hpos, ⟨base, quote⟩, hamounts, hcheck⟩, _⟩ := h
  obtain ⟨_, hbase, hquote⟩ := checkMigrationAmounts_spec hcheck
  exact ⟨handler, base, quote, migrationHandler_of_liquidityHandler hhandler, hpos, hamounts,
    hbase, hquote⟩

/-- The base reserve covers the vesting and the base of the migration.
Source: `instructions/swap/process_swap.rs` `process_swap`, the check of the same two amounts when
a sale completes -/
def CoversVestingAndMigration (d : Deployment) (p : PoolState) : Prop :=
  ∃ handler base quote locked, d.migrationHandler p = .ok handler ∧
    d.migrationAmounts p handler = .ok (base, quote) ∧
    d.config.lockedVestingConfig.getTotalAmount = .ok locked ∧ locked + base ≤ p.baseReserve

end Deployment

/-! ## Between the two instructions -/

section Between

variable {d : Deployment} {w w' : World} {a : Action}

/-- Claims of fees, a new creator and time leave the progress of a sale that is over alone.
Source: `instructions/partner`, `instructions/creator` and `instructions/operator`, the claims of
fees -/
theorem progress_of_trading (hover : SaleOver d w) (h : Trading d w a w') :
    w'.pool.migrationProgress = w.pool.migrationProgress := by
  cases h with
  | swap trade completion =>
    -- the sale is over, so nobody trades
    rw [SaleOver, trade.isOpen] at hover
    exact absurd hover Bool.false_ne_true
  | _ => rfl

/-- A locker that is created after the deadline freezes the sale.
Source: `create_locker.rs` `handle_create_locker` -/
theorem frozen_of_createLocker {isAccepted : Bool}
    (hdeadline : d.canCreateLockerAfterDeadline w = true)
    (h : d.createLocker w isAccepted = .ok w') :
    Frozen d w w' ∧ w'.pool.migrationProgress = .lockedVesting := by
  have hstep : d.step w (.createLocker isAccepted) = .ok w' := h
  obtain ⟨amount, move⟩ := createLocker_spec h
  have hover : SaleOver d w :=
    isSaleComplete_iff.mpr (.inr (progress_eq_of_canCreateLockerAfterDeadline hdeadline).2.2)
  refine ⟨frozen_of_transition hover (step_transition hstep), ?_⟩
  rw [move.eq]

/-- The amounts of a migration follow from what is frozen.
Source: `migrate_damm_v2_initialize_pool.rs` `handle_migrate_damm_v2`, `liquidity_handler` -/
theorem Frozen.migration_eq (h : Frozen d w w') :
    d.migrationHandler w'.pool = d.migrationHandler w.pool ∧
      ∀ handler, d.migrationAmounts w'.pool handler = d.migrationAmounts w.pool handler := by
  constructor
  · simp only [Deployment.migrationHandler, Deployment.liquidityHandler, h.sqrtPrice]
  · intro handler
    simp only [Deployment.migrationAmounts, PoolState.effectiveMigrationQuoteThreshold,
      h.quoteReserve]

end Between

/-! ## Launched pools -/

namespace Launch

variable (l : Launch) (actions : List Action)

/-- A pool whose base vault is short of its reserve and its fees by `spent` passes the checks of the
migration exactly when its base reserve covers that besides the base of the migration.
Source: `migrate_damm_v2_initialize_pool.rs` `handle_migrate_damm_v2`, the check before
`get_migration_protocol_fees` -/
theorem checkMigration_iff {handler : MigrationHandler} {base quote spent : ℕ}
    (hbooks : (l.after actions).baseVault + spent = (l.after actions).pool.baseReserve +
      ((l.after actions).pool.partnerBaseFee + (l.after actions).pool.creatorBaseFee +
        (l.after actions).pool.protocolBaseFee))
    (hreserve : 0 < (l.after actions).pool.quoteReserve)
    (hhandler : l.deployment.migrationHandler (l.after actions).pool = .ok handler)
    (hamounts : l.deployment.migrationAmounts (l.after actions).pool handler = .ok (base, quote))
    (hbase : 0 < base) (hquote : 0 < quote) :
    l.deployment.checkMigration (l.after actions) = .ok () ↔
      spent + base ≤ (l.after actions).pool.baseReserve := by
  constructor
  · intro h
    simp only [Deployment.checkMigration, bind_eq_ok, exists_unit, require_eq_ok, hhandler,
      Except.ok.injEq, exists_eq_left', hamounts] at h
    obtain ⟨hvault, _⟩ := checkMigrationAmounts_spec h.2
    omega
  · intro hcovers
    have hvault := l.baseVault_le actions
    obtain ⟨_, _, _, hsupply⟩ := l.initialBaseSupply_ge
    have hcap : 0 < l.deployment.config.getMigrationQuoteAmountCap := l.accepted.cap_pos
    have hfees : (l.after actions).pool.getProtocolAndTradingBaseFee =
        .ok ((l.after actions).pool.partnerBaseFee + (l.after actions).pool.protocolBaseFee +
          (l.after actions).pool.creatorBaseFee) :=
      bind_eq_ok.mpr ⟨_, safeAdd_eq_ok.mpr ⟨by omega, rfl⟩, safeAdd_eq_ok.mpr ⟨by omega, rfl⟩⟩
    have hcheck : Deployment.checkMigrationAmounts (l.after actions) base quote = .ok () :=
      bind_eq_ok.mpr ⟨_, hfees, bind_eq_ok.mpr ⟨_, safeSub_eq_ok.mpr ⟨by omega, rfl⟩,
        require_eq_ok.mpr ⟨by omega, hbase, hquote⟩⟩⟩
    exact bind_eq_ok.mpr ⟨handler, hhandler, bind_eq_ok.mpr
      ⟨(), require_eq_ok.mpr (lt_min hreserve hcap), bind_eq_ok.mpr ⟨_, hamounts, hcheck⟩⟩⟩

/-- **The migration stays possible exactly when the base reserve covers both amounts.** A pool
whose deadline passed funds its vesting. Whatever is claimed afterwards, it waits for its
migration and passes the checks of it, if and only if its base reserve covered the vesting
together with the base of the migration when the locker was called.
Source: `create_locker.rs` `handle_create_locker`; `migrate_damm_v2_initialize_pool.rs`
`handle_migrate_damm_v2`; `migrate_meteora_damm_initialize_pool.rs`
`handle_migrate_meteora_damm` -/
theorem createLocker_leaves_migration_iff {w : World}
    (hdeadline : l.deployment.canCreateLockerAfterDeadline (l.after actions) = true)
    (h : l.deployment.createLocker (l.after actions) true = .ok w) :
    (∀ more : List Action, (∀ a ∈ more, a.IsTrading) →
        (run l.deployment.step w more).pool.migrationProgress = .lockedVesting ∧
          l.deployment.checkMigration (run l.deployment.step w more) = .ok ()) ↔
      l.deployment.CoversVestingAndMigration (l.after actions).pool := by
  obtain ⟨handler, base, quote, hhandler, hreserve, hamounts, hbase, hquote⟩ :=
    Deployment.createLocker_guard hdeadline h
  obtain ⟨hfrozen, hprogress⟩ := frozen_of_createLocker hdeadline h
  obtain ⟨locked, hlocked, _⟩ := l.initialBaseSupply_ge
  have hvesting : l.config.lockedVestingConfig.hasVesting = true :=
    (progress_eq_of_canCreateLockerAfterDeadline hdeadline).2.1
  have hrun : ∀ more : List Action,
      run l.deployment.step w more = l.after (actions ++ .createLocker true :: more) := by
    intro more
    rw [after_append, run_cons, advance, Deployment.step, h]
  have hcheck : ∀ more : List Action, (∀ a ∈ more, a.IsTrading) →
      (run l.deployment.step w more).pool.migrationProgress = .lockedVesting ∧
        (l.deployment.checkMigration (run l.deployment.step w more) = .ok () ↔
          locked + base ≤ (l.after actions).pool.baseReserve) := by
    intro more hmore
    have hinv : SaleOver l.deployment (run l.deployment.step w more) ∧
        (run l.deployment.step w more).pool.migrationProgress = .lockedVesting :=
      invariant_of_trading (fun u => SaleOver l.deployment u ∧
          u.pool.migrationProgress = .lockedVesting)
        (fun _ u v hu hmove => ⟨(frozen_of_transition hu.1 (.trading hmove)).saleOver,
          (progress_of_trading hu.1 hmove).trans hu.2⟩) hmore ⟨hfrozen.saleOver, hprogress⟩
    have hmoreFrozen := frozen_of_run more hfrozen.saleOver
    obtain ⟨hsame, hsameAmounts⟩ := hmoreFrozen.migration_eq
    obtain ⟨hsame', hsameAmounts'⟩ := hfrozen.migration_eq
    refine ⟨hinv.2, ?_⟩
    -- the vesting is all that left the vault
    have hprogress' : (l.after (actions ++ .createLocker true :: more)).pool.migrationProgress =
        .lockedVesting := by
      rw [← hrun]
      exact hinv.2
    have hbooks := (l.backed (actions ++ .createLocker true :: more)).baseVault_eq
      (l.allotted _) (by rw [hprogress']; decide) hlocked
    rw [if_pos ⟨hprogress', hvesting⟩] at hbooks
    have hiff := l.checkMigration_iff (actions ++ .createLocker true :: more) hbooks
      (by rw [← hrun, hmoreFrozen.quoteReserve, hfrozen.quoteReserve]; exact hreserve)
      (by rw [← hrun, hsame, hsame']; exact hhandler)
      (by rw [← hrun, hsameAmounts, hsameAmounts']; exact hamounts) hbase hquote
    rw [← hrun, hmoreFrozen.baseReserve, hfrozen.baseReserve] at hiff
    exact hiff
  constructor
  · intro hall
    obtain ⟨_, hok⟩ := hall [] (fun _ hmem => absurd hmem List.not_mem_nil)
    exact ⟨handler, base, quote, locked, hhandler, hamounts, hlocked,
      (hcheck [] fun _ hmem => absurd hmem List.not_mem_nil).2.mp hok⟩
  · rintro ⟨handler', base', quote', locked', hhandler', hamounts', hlocked', hcovers⟩ more hmore
    rw [hhandler, Except.ok.injEq] at hhandler'
    subst hhandler'
    rw [hamounts, Except.ok.injEq, Prod.mk.injEq] at hamounts'
    have hsame : locked' = locked := by
      have heq : Except.ok locked' = (Except.ok locked : Result ℕ) := hlocked'.symm.trans hlocked
      exact Except.ok.inj heq
    obtain ⟨hprogress', hiff⟩ := hcheck more hmore
    exact ⟨hprogress', hiff.mpr (by omega)⟩

/-- A launch with a million of locked vesting, whose curve is deep up to four times its start
price and thin beyond it, so that its migration is sized for a price far above.
Source: `process_create_config.rs` `ConfigParameters` -/
def steepLaunch : Launch :=
  (ofParameters { plainParameters (2 ^ 64) 1009000
      [{ sqrtPrice := 2 ^ 65, liquidity := 1000000 * 2 ^ 64 },
        { sqrtPrice := 100 * 2 ^ 64, liquidity := 100 * 2 ^ 64 }] with
    lockedVesting := { (default : LockedVestingParams) with
      frequency := 1
      cliffUnlockAmount := 1000000 } } false .splToken 100).get (by decide +kernel)

/-- A sale that ends early leaves enough for both amounts. -/
theorem createLocker_leaves_migration_iff_steepLaunch :
    ∃ w, steepLaunch.deployment.createLocker
        (steepLaunch.after [.swap2 (buyOf 1 100000 0), .pass 0 200]) true = .ok w ∧
      ∀ more : List Action, (∀ a ∈ more, a.IsTrading) →
        (run steepLaunch.deployment.step w more).pool.migrationProgress = .lockedVesting ∧
          steepLaunch.deployment.checkMigration (run steepLaunch.deployment.step w more) =
            .ok () := by
  have hcovers : steepLaunch.deployment.CoversVestingAndMigration
      (steepLaunch.after [.swap2 (buyOf 1 100000 0), .pass 0 200]).pool :=
    ⟨.concentratedLiquidity 20272971737006797225, 81968, 99000, 1000000, by decide +kernel,
      by decide +kernel, by decide +kernel, by decide +kernel⟩
  rcases hok : steepLaunch.deployment.createLocker
    (steepLaunch.after [.swap2 (buyOf 1 100000 0), .pass 0 200]) true with e | w
  · have hisOk : (steepLaunch.deployment.createLocker
        (steepLaunch.after [.swap2 (buyOf 1 100000 0), .pass 0 200]) true).isOk = true := by
      decide +kernel
    rw [hok] at hisOk
    cases hisOk
  · exact ⟨w, rfl, (steepLaunch.createLocker_leaves_migration_iff _ (by decide +kernel) hok).mpr
      hcovers⟩

/-- A sale that ends at the edge of the deep part needs a quarter of a million for its migration;
the locker finds a million more than that and moves it out. -/
theorem createLocker_leaves_migration_false :
    let w := steepLaunch.after [.swap2 (buyOf 1 1000000 0), .pass 0 200]
    steepLaunch.deployment.canCreateLockerAfterDeadline w = true ∧
      (steepLaunch.deployment.createLocker w true).isOk = true ∧
      (steepLaunch.after [.swap2 (buyOf 1 1000000 0), .pass 0 200,
        .createLocker true]).pool.migrationProgress = .lockedVesting ∧
      steepLaunch.deployment.checkMigration (steepLaunch.after [.swap2 (buyOf 1 1000000 0),
        .pass 0 200, .createLocker true]) =
          .error (Fault.error .insufficientLiquidityForMigration) := by
  decide +kernel

end Launch

end DynamicBondingCurve
