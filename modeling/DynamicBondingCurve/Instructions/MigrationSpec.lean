import DynamicBondingCurve.Instructions.Migration
import DynamicBondingCurve.Instructions.ClaimSpec

/-!
# What the locker and the migration do to the world

* `LockerMove`, `createLocker_spec`: the escrow takes the vesting out of the base vault.
* `MigrationMove`, `migrateDammV2_spec`, `migrateMeteoraDamm_spec`: **both migrations are the
  same move**, up to the handler that sizes the deposit.
-/

namespace DynamicBondingCurve

open Library

/-! ## The time of the end -/

/-- The recorded time of the end of the sale once an instruction needs it.
Source: `create_locker.rs` `handle_create_locker`, the write of `finish_curve_timestamp` -/
def finishTime (w : World) (isAfterDeadline : Bool) : ℕ :=
  if w.pool.finishCurveTimestamp = 0 ∧ isAfterDeadline then w.pool.deadlineTimestamp
  else w.pool.finishCurveTimestamp

/-- The effect of recording the time of the end, if it is recorded.
Source: `create_locker.rs` `handle_create_locker`, the write of `finish_curve_timestamp` -/
def finishEffects (w : World) (isAfterDeadline : Bool) : List Effect :=
  if w.pool.finishCurveTimestamp = 0 ∧ isAfterDeadline then
    [.finishCurveTimestamp w.pool.deadlineTimestamp]
  else []

/-- Recording the time of the end changes that time and the effects only.
Source: `create_locker.rs` `handle_create_locker`, the write of `finish_curve_timestamp` -/
theorem writeFinishCurveTimestamp_eq (w : World) (isAfterDeadline : Bool) :
    Deployment.writeFinishCurveTimestamp w isAfterDeadline = { w with
      pool := { w.pool with finishCurveTimestamp := finishTime w isAfterDeadline }
      effects := finishEffects w isAfterDeadline ++ w.effects } := by
  unfold Deployment.writeFinishCurveTimestamp finishTime finishEffects
  split_ifs with h <;> rfl

/-! ## Moves -/

/-- The locked vesting is funded.
Source: `create_locker.rs` `handle_create_locker` -/
structure LockerMove (d : Deployment) (amount : ℕ) (w w' : World) : Prop where
  progress : w.pool.migrationProgress = .postBondingCurve ∨
    d.canCreateLockerAfterDeadline w = true
  amount_eq : d.config.lockedVestingConfig.getTotalAmount = .ok amount
  amount_le : amount ≤ w.baseVault
  eq : w' = { w with
    pool := { w.pool with
      finishCurveTimestamp := finishTime w (d.canCreateLockerAfterDeadline w)
      migrationProgress := .lockedVesting }
    baseVault := w.baseVault - amount
    effects := .escrowCreated (d.config.lockedVestingConfig.toCreateVestingEscrowParams
        (finishTime w (d.canCreateLockerAfterDeadline w))) amount ::
      .paid .base .lockedVesting amount ::
        (finishEffects w (d.canCreateLockerAfterDeadline w) ++ w.effects) }

/-- The amounts of a migration.
Source: `migrate_damm_v2_initialize_pool.rs` `handle_migrate_damm_v2`, its local variables -/
structure MigrationData where
  handler : MigrationHandler
  base : ℕ
  quote : ℕ
  protocolBaseFee : ℕ
  protocolQuoteFee : ℕ
  taken : Deposit
  burnt : ℕ
  deriving DecidableEq, Repr

/-- A pool migrates.
Source: `migrate_damm_v2_initialize_pool.rs` `handle_migrate_damm_v2`;
`migrate_meteora_damm_initialize_pool.rs` `handle_migrate_meteora_damm` -/
structure MigrationMove (d : Deployment) (m : MigrationData) (w w' : World) : Prop where
  progress : w.pool.migrationProgress = .lockedVesting ∨ d.canMigrateAfterDeadline w = true
  ended : w.pool.isCurveComplete d.config.migrationQuoteThreshold = true ∨
    w.pool.isDeadlineReached w.timestamp = true
  handler : ∃ option mode, MigrationOption.tryFrom d.config.migrationOption = some option ∧
    (option = .dammV2 →
      MigratedCollectFeeMode.tryFrom d.config.migratedCollectFeeMode = some mode) ∧
    m.handler = getMigrationHandler option mode w.pool.sqrtPrice
  amounts : d.migrationAmounts w.pool m.handler = .ok (m.base, m.quote)
  fees_le : w.pool.partnerBaseFee + w.pool.protocolBaseFee + w.pool.creatorBaseFee + m.base ≤
    w.baseVault
  quote_pos : 0 < w.pool.effectiveMigrationQuoteThreshold d.config.getMigrationQuoteAmountCap
  protocolBaseFee_le : m.protocolBaseFee ≤ m.base
  protocolQuoteFee_le : m.protocolQuoteFee ≤ m.quote
  taken_base_le : m.taken.base + m.protocolBaseFee ≤ m.base
  taken_quote_le : m.taken.quote + m.protocolQuoteFee ≤ m.quote
  quoteVault_ge : m.taken.quote ≤ w.quoteVault
  burnt_eq : ∃ maxBurnable left,
    d.config.getMaxBurnableAmountPostMigration = .ok maxBurnable ∧
    m.taken.base + (w.pool.partnerBaseFee + w.pool.protocolBaseFee + w.pool.creatorBaseFee +
      m.protocolBaseFee) + left = w.baseVault ∧
    m.burnt = min maxBurnable left
  eq : w' = { w with
    pool := { w.pool with
      finishCurveTimestamp := finishTime w (d.canMigrateAfterDeadline w)
      protocolMigrationBaseFeeAmount := m.protocolBaseFee
      protocolMigrationQuoteFeeAmount := m.protocolQuoteFee
      isMigrated := 1
      migrationProgress := .createdPool }
    baseVault := w.baseVault - m.taken.base - m.burnt
    quoteVault := w.quoteVault - m.taken.quote
    baseSupply := w.baseSupply - m.burnt
    effects := Effect.positive .base .burn m.burnt ++
      (.poolCreated m.protocolBaseFee m.protocolQuoteFee ::
        .paid .quote .migration m.taken.quote :: .paid .base .migration m.taken.base ::
          (finishEffects w (d.canMigrateAfterDeadline w) ++ w.effects)) }

/-! ## The instructions -/

section Specs

variable {d : Deployment} {w w' : World} {amm : Amm} {handler : MigrationHandler}

/-- What a successful creation of the locker does.
Source: `create_locker.rs` `handle_create_locker` -/
theorem createLocker_spec {isAccepted : Bool} (h : d.createLocker w isAccepted = .ok w') :
    ∃ amount, LockerMove d amount w w' := by
  simp only [Deployment.createLocker, bind_eq_ok, exists_unit, require_eq_ok, pure_eq_ok] at h
  obtain ⟨hprogress, _, _, hescrow, rfl⟩ := h
  simp only [Deployment.createVestingEscrow, writeFinishCurveTimestamp_eq, bind_eq_ok,
    exists_unit, require_eq_ok, World.pay_eq_ok, pure_eq_ok] at hescrow
  obtain ⟨amount, hamount, _, _, ⟨hle, rfl⟩, rfl⟩ := hescrow
  exact ⟨amount, hprogress, hamount, hle, rfl⟩

/-- The fees on the base token are those of the three parties.
Source: `state/virtual_pool.rs` `get_protocol_and_trading_base_fee` -/
theorem getProtocolAndTradingBaseFee_spec {p : PoolState} {fees : ℕ}
    (h : p.getProtocolAndTradingBaseFee = .ok fees) :
    fees = p.partnerBaseFee + p.protocolBaseFee + p.creatorBaseFee := by
  simp only [PoolState.getProtocolAndTradingBaseFee, bind_eq_ok, safeAdd_eq_ok] at h
  obtain ⟨_, ⟨_, rfl⟩, _, rfl⟩ := h
  rfl

/-- What the check of the amounts of a migration says.
Source: `migrate_damm_v2_initialize_pool.rs` `handle_migrate_damm_v2`, the check before
`get_migration_protocol_fees` -/
theorem checkMigrationAmounts_spec {base quote : ℕ}
    (h : Deployment.checkMigrationAmounts w base quote = .ok ()) :
    w.pool.partnerBaseFee + w.pool.protocolBaseFee + w.pool.creatorBaseFee + base ≤
      w.baseVault ∧ 0 < base ∧ 0 < quote := by
  simp only [Deployment.checkMigrationAmounts, bind_eq_ok, safeSub_eq_ok, require_eq_ok] at h
  obtain ⟨fees, hfees, _, ⟨hle, rfl⟩, hbase, hpos, hquote⟩ := h
  rw [getProtocolAndTradingBaseFee_spec hfees] at hle hbase
  exact ⟨by omega, hpos, hquote⟩

/-- What the preparation of a migration offers and saves.
Source: `migrate_damm_v2_initialize_pool.rs` `handle_migrate_damm_v2`, from
`effective_migration_quote_threshold` to `excluded_protocol_fee_migration_quote_amount` -/
theorem prepareMigration_spec {offer : Deposit}
    (h : d.prepareMigration w handler = .ok (offer, w')) :
    ∃ base quote baseFee quoteFee,
      0 < w.pool.effectiveMigrationQuoteThreshold d.config.getMigrationQuoteAmountCap ∧
      d.migrationAmounts w.pool handler = .ok (base, quote) ∧
      w.pool.partnerBaseFee + w.pool.protocolBaseFee + w.pool.creatorBaseFee + base ≤
        w.baseVault ∧
      baseFee ≤ base ∧ quoteFee ≤ quote ∧ offer = ⟨base - baseFee, quote - quoteFee⟩ ∧
      w' = w.withPool (w.pool.saveProtocolLiquidityMigrationFee baseFee quoteFee) := by
  simp only [Deployment.prepareMigration, bind_eq_ok, exists_unit, require_eq_ok, safeSub_eq_ok,
    pure_eq_ok, Prod.mk.injEq] at h
  obtain ⟨hpos, ⟨base, quote⟩, hamounts, hcheck, ⟨baseFee, quoteFee⟩, _, _, ⟨hbase, rfl⟩, _,
    ⟨hquote, rfl⟩, rfl, rfl⟩ := h
  exact ⟨base, quote, baseFee, quoteFee, hpos, hamounts, (checkMigrationAmounts_spec hcheck).1,
    hbase, hquote, rfl, rfl⟩

/-- What the other program takes of the offer is paid to it.
Source: `migrate_damm_v2_initialize_pool.rs` `handle_migrate_damm_v2`, the calls of `create_pool`
and `create_second_position` -/
theorem depositInto_spec {offer : Deposit} (h : Deployment.depositInto w amm offer = .ok w') :
    ∃ taken : Deposit, amm.take offer = some taken ∧ taken.base ≤ offer.base ∧
      taken.quote ≤ offer.quote ∧ taken.base ≤ w.baseVault ∧ taken.quote ≤ w.quoteVault ∧
      w' = { w with
        pool := { w.pool with isMigrated := 1 }
        baseVault := w.baseVault - taken.base
        quoteVault := w.quoteVault - taken.quote
        effects := .poolCreated w.pool.protocolMigrationBaseFeeAmount
          w.pool.protocolMigrationQuoteFeeAmount :: .paid .quote .migration taken.quote ::
            .paid .base .migration taken.base :: w.effects } := by
  simp only [Deployment.depositInto, bind_eq_ok, orThrow_eq_ok, World.pay_eq_ok,
    pure_eq_ok] at h
  obtain ⟨taken, htake, _, ⟨hbase, rfl⟩, _, ⟨hquote, rfl⟩, rfl⟩ := h
  obtain ⟨hb, hq⟩ := amm.take_le _ _ htake
  exact ⟨taken, htake, hb, hq, hbase, hquote, rfl⟩

/-- What is left of the base, up to the most that may be burnt, is burnt.
Source: `migrate_damm_v2_initialize_pool.rs` `handle_migrate_damm_v2`, from the comment "burn the
rest of token in pool authority after migrated amount and fee" -/
theorem burnLeftover_spec (h : d.burnLeftover w = .ok w') :
    ∃ maxBurnable left, d.config.getMaxBurnableAmountPostMigration = .ok maxBurnable ∧
      w.pool.partnerBaseFee + w.pool.protocolBaseFee + w.pool.creatorBaseFee +
        w.pool.protocolMigrationBaseFeeAmount + left = w.baseVault ∧
      w' = { w with
        baseVault := w.baseVault - min maxBurnable left
        baseSupply := w.baseSupply - min maxBurnable left
        effects := Effect.positive .base .burn (min maxBurnable left) ++ w.effects } := by
  simp only [Deployment.burnLeftover, PoolConfig.getBurnableAmountPostMigration, bind_eq_ok,
    safeAdd_eq_ok, safeSub_eq_ok, pure_eq_ok] at h
  obtain ⟨fees, hfees, _, ⟨_, rfl⟩, left, ⟨hle, hleft⟩, _, ⟨maxBurnable, hmax, rfl⟩, h⟩ := h
  rw [getProtocolAndTradingBaseFee_spec hfees] at hle hleft
  refine ⟨maxBurnable, left, hmax, by omega, ?_⟩
  unfold Effect.positive
  split_ifs at h with hpos
  · simp only [bind_eq_ok, World.pay_eq_ok, pure_eq_ok] at h
    obtain ⟨_, ⟨_, rfl⟩, rfl⟩ := h
    rw [if_pos hpos]
    rfl
  · rw [pure_eq_ok] at h
    subst h
    rw [if_neg hpos, Nat.eq_zero_of_not_pos hpos]
    rfl

/-- What both migrations do once the handler and the progress are settled.
Source: `migrate_damm_v2_initialize_pool.rs` `handle_migrate_damm_v2` -/
theorem migration_spec {offer : Deposit} {w1 : World}
    (hprogress : d.checkMigrationProgress w = .ok ())
    (hhandler : ∃ option mode, MigrationOption.tryFrom d.config.migrationOption = some option ∧
      (option = .dammV2 →
        MigratedCollectFeeMode.tryFrom d.config.migratedCollectFeeMode = some mode) ∧
      handler = getMigrationHandler option mode w.pool.sqrtPrice)
    (hprepare : d.prepareMigration (Deployment.writeFinishCurveTimestamp w
      (d.canMigrateAfterDeadline w)) handler = .ok (offer, w1))
    (hfinish : d.finishMigration w1 amm offer = .ok w') :
    ∃ m, MigrationMove d m w w' := by
  simp only [Deployment.checkMigrationProgress, bind_eq_ok, exists_unit, require_eq_ok]
    at hprogress
  obtain ⟨hprogress, hended⟩ := hprogress
  rw [writeFinishCurveTimestamp_eq] at hprepare
  obtain ⟨base, quote, baseFee, quoteFee, hpos, hamounts, hfees, hbaseFee, hquoteFee, rfl, rfl⟩ :=
    prepareMigration_spec hprepare
  simp only [Deployment.finishMigration, bind_eq_ok, pure_eq_ok] at hfinish
  obtain ⟨_, hdeposit, _, hburn, rfl⟩ := hfinish
  obtain ⟨taken, _, hb, hq, hbv, hqv, rfl⟩ := depositInto_spec hdeposit
  obtain ⟨maxBurnable, left, hmax, hleft, rfl⟩ := burnLeftover_spec hburn
  simp only [World.withPool, PoolState.saveProtocolLiquidityMigrationFee] at hb hq hbv hqv hleft
  refine ⟨⟨handler, base, quote, baseFee, quoteFee, taken, min maxBurnable left⟩, ?_⟩
  exact
    { progress := hprogress
      ended := hended
      handler := hhandler
      amounts := hamounts
      fees_le := hfees
      quote_pos := hpos
      protocolBaseFee_le := hbaseFee
      protocolQuoteFee_le := hquoteFee
      taken_base_le := by simp only; omega
      taken_quote_le := by simp only; omega
      quoteVault_ge := hqv
      burnt_eq := ⟨maxBurnable, left, hmax, by simp only; omega, rfl⟩
      eq := rfl }

/-- A migration into the second program is a migration.
Source: `migrate_damm_v2_initialize_pool.rs` `handle_migrate_damm_v2` -/
theorem migrateDammV2_spec (h : d.migrateDammV2 w amm = .ok w') :
    ∃ m, MigrationMove d m w w' := by
  simp only [Deployment.migrateDammV2, Deployment.liquidityHandler, bind_eq_ok, exists_unit,
    orThrow_eq_ok, require_eq_ok, pure_eq_ok] at h
  obtain ⟨hprogress, option, hoption, hdamm, _, ⟨option', hoption', mode, hmode, rfl⟩,
    ⟨offer, w1⟩, hprepare, _, _, hfinish⟩ := h
  refine migration_spec hprogress ⟨option', mode, hoption', fun _ => hmode, ?_⟩ hprepare hfinish
  rw [writeFinishCurveTimestamp_eq]

/-- A migration into the first program is a migration.
Source: `migrate_meteora_damm_initialize_pool.rs` `handle_migrate_meteora_damm` -/
theorem migrateMeteoraDamm_spec (h : d.migrateMeteoraDamm w amm = .ok w') :
    ∃ m, MigrationMove d m w w' := by
  simp only [Deployment.migrateMeteoraDamm, bind_eq_ok, exists_unit, orThrow_eq_ok,
    require_eq_ok] at h
  obtain ⟨_, hprogress, option, hoption, hmeteora, ⟨offer, w1⟩, hprepare, hfinish⟩ := h
  refine migration_spec hprogress ⟨option, .quoteToken, hoption, ?_, ?_⟩ hprepare hfinish
  · exact fun hdamm => absurd hdamm (by rw [hmeteora]; decide)
  · rw [writeFinishCurveTimestamp_eq, getMigrationHandler, if_pos hmeteora]

/-- What a successful withdrawal of the leftover does.
Source: `instructions/migration/withdraw_leftover.rs` `handle_withdraw_leftover` -/
theorem withdrawLeftover_spec (h : d.withdrawLeftover w = .ok w') :
    w.pool.migrationProgress = .createdPool ∧ w.pool.isWithdrawLeftover = 0 ∧
      ∃ amount, w.pool.partnerBaseFee + w.pool.protocolBaseFee + w.pool.creatorBaseFee +
        w.pool.protocolMigrationBaseFeeAmount + amount = w.baseVault ∧ w' = { w with
          pool := { w.pool with isWithdrawLeftover := 1 }
          baseVault := w.baseVault - amount
          effects := .paid .base .leftover amount :: w.effects } := by
  simp only [Deployment.withdrawLeftover, bind_eq_ok, exists_unit, require_eq_ok, safeSub_eq_ok,
    World.pay_eq_ok, pure_eq_ok] at h
  obtain ⟨hprogress, _, hflag, fees, hfees, _, ⟨hle, rfl⟩, amount, ⟨hle', hamount⟩, _, ⟨_, rfl⟩,
    rfl⟩ := h
  rw [getProtocolAndTradingBaseFee_spec hfees] at hle hle' hamount
  exact ⟨hprogress, hflag, amount, by omega, rfl⟩

end Specs

end DynamicBondingCurve
