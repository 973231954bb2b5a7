import DynamicBondingCurve.State.World
import DynamicBondingCurve.MigrationHandler

/-!
# The end of a pool

* `createLocker`: the locked vesting is funded, after the sale or after the deadline.
* `migrateDammV2`, `migrateMeteoraDamm`: the raised quote and the base that goes with it are
  deposited into a pool of another program, and base that is left over is burnt.
* `withdrawLeftover`: the base that a fixed supply leaves is paid out.
* `Amm`: the program that receives the deposit, known by how much it takes of an offer.
-/

namespace DynamicBondingCurve

open Library

/-! ## The program that receives the deposit -/

/-- Two amounts of the tokens of a pool.
Source: `migrate_damm_v2_initialize_pool.rs` `handle_migrate_damm_v2`,
`excluded_protocol_fee_migration_base_amount` and
`excluded_protocol_fee_migration_quote_amount` -/
structure Deposit where
  base : ℕ
  quote : ℕ
  deriving DecidableEq, Repr

/-- The program that opens a pool with an offer: it may refuse, and it takes at most the offer
(for the second program the two positions together).
Source: the calls of the programs that pools migrate to, which are not part of this one -/
structure Amm where
  take : Deposit → Option Deposit
  take_le : ∀ offer taken, take offer = some taken →
    taken.base ≤ offer.base ∧ taken.quote ≤ offer.quote

/-- A program that takes the whole of every offer. -/
def Amm.takeAll : Amm where
  take := some
  take_le := fun offer taken h => by
    cases h
    exact ⟨le_rfl, le_rfl⟩

/-- A program that refuses every offer. -/
def Amm.refuse : Amm where
  take := fun _ => none
  take_le := fun _ _ h => by cases h

namespace Deployment

variable (d : Deployment)

/-! ## The locker -/

/-- The handler of the pool that the sale migrates into, at the live price.
Source: `create_locker.rs` `handle_create_locker`, `liquidity_handler` -/
def liquidityHandler (p : PoolState) : Result MigrationHandler := do
  let migrationOption ← orThrow (MigrationOption.tryFrom d.config.migrationOption)
    (Fault.error .invalidMigrationOption)
  let mode ← orThrow (MigratedCollectFeeMode.tryFrom d.config.migratedCollectFeeMode)
    (Fault.error .typeCastFailed)
  pure (getMigrationHandler migrationOption mode p.sqrtPrice)

/-- The deposit that the migration of a pool needs.
Source: `migrate_damm_v2_initialize_pool.rs` `handle_migrate_damm_v2`,
`included_protocol_fee_migration_base_amount` and
`included_protocol_fee_migration_quote_amount` -/
def migrationAmounts (p : PoolState) (handler : MigrationHandler) : Result (ℕ × ℕ) :=
  handler.getIncludedProtocolFeeMigrationAmounts1
    (p.effectiveMigrationQuoteThreshold d.config.getMigrationQuoteAmountCap)
    d.config.migrationFeePercentage

/-- The vault holds the base that the migration needs, besides the fees.
Source: `migrate_damm_v2_initialize_pool.rs` `handle_migrate_damm_v2`, the check before
`get_migration_protocol_fees` -/
def checkMigrationAmounts (w : World) (base quote : ℕ) : Result Unit := do
  let fees ← w.pool.getProtocolAndTradingBaseFee
  let available ← safeSub w.baseVault fees
  ensure (available ≥ base ∧ base > 0 ∧ quote > 0) .insufficientLiquidityForMigration

/-- Whether the locker may be created because the deadline has passed.
Source: `create_locker.rs` `handle_create_locker`, `can_create_locker_after_deadline` -/
def canCreateLockerAfterDeadline (w : World) : Bool :=
  w.pool.migrationProgress = .preBondingCurve && d.config.lockedVestingConfig.hasVesting &&
    w.pool.isDeadlineReached w.timestamp

/-- The time at which the sale ended, when it is not known yet.
Source: `create_locker.rs` `handle_create_locker`, the write of `finish_curve_timestamp` -/
def writeFinishCurveTimestamp (w : World) (isAfterDeadline : Bool) : World :=
  if w.pool.finishCurveTimestamp = 0 ∧ isAfterDeadline then
    (w.withPool { w.pool with finishCurveTimestamp := w.pool.deadlineTimestamp }).record
      (.finishCurveTimestamp w.pool.deadlineTimestamp)
  else w

/-- The escrow of the locked vesting is created, which takes the whole amount of its schedule
from the base vault; the flag says whether the escrow program accepts.
Source: `create_locker.rs` `handle_create_locker`, the call of `create_vesting_escrow_v2` -/
def createVestingEscrow (w : World) (isAccepted : Bool) : Result World := do
  let schedule := d.config.lockedVestingConfig.toCreateVestingEscrowParams
    w.pool.finishCurveTimestamp
  let amount ← d.config.lockedVestingConfig.getTotalAmount
  require isAccepted Fault.account
  let w ← w.pay .base .lockedVesting amount
  pure (w.record (.escrowCreated schedule amount))

/-- The locked vesting is funded, after the sale or after its deadline.
Source: `create_locker.rs` `handle_create_locker` -/
def createLocker (w : World) (isAccepted : Bool) : Result World := do
  let isAfterDeadline := d.canCreateLockerAfterDeadline w
  ensure (w.pool.migrationProgress = .postBondingCurve ∨ isAfterDeadline) .notPermitToDoThisAction
  (if isAfterDeadline then do
    let handler ← d.liquidityHandler w.pool
    ensure (w.pool.quoteReserve > 0) .insufficientLiquidityForMigration
    let (base, quote) ← d.migrationAmounts w.pool handler
    checkMigrationAmounts w base quote
  else pure ())
  let w := writeFinishCurveTimestamp w isAfterDeadline
  let w ← d.createVestingEscrow w isAccepted
  pure (w.withPool { w.pool with migrationProgress := .lockedVesting })

/-! ## Migration -/

/-- Whether the pool may migrate because the deadline has passed.
Source: `migrate_damm_v2_initialize_pool.rs` `handle_migrate_damm_v2`, `can_migrate_after_deadline`
-/
def canMigrateAfterDeadline (w : World) : Bool :=
  w.pool.migrationProgress = .preBondingCurve && w.pool.isDeadlineReached w.timestamp &&
    !d.config.lockedVestingConfig.hasVesting

/-- The checks of a migration on the progress of the pool and on the end of the sale.
Source: `migrate_damm_v2_initialize_pool.rs` `handle_migrate_damm_v2`, the first two checks on
the state of the pool; `migrate_meteora_damm_initialize_pool.rs`, the same -/
def checkMigrationProgress (w : World) : Result Unit := do
  ensure (w.pool.migrationProgress = .lockedVesting ∨ d.canMigrateAfterDeadline w)
    .notPermitToDoThisAction
  ensure (w.pool.isCurveComplete d.config.migrationQuoteThreshold ∨
    w.pool.isDeadlineReached w.timestamp) .poolIsIncompleted

/-- What the migration offers, once the protocol's share is saved in the state of the pool.
Source: `migrate_damm_v2_initialize_pool.rs` `handle_migrate_damm_v2`, from
`effective_migration_quote_threshold` to `excluded_protocol_fee_migration_quote_amount` -/
def prepareMigration (w : World) (handler : MigrationHandler) : Result (Deposit × World) := do
  ensure (w.pool.effectiveMigrationQuoteThreshold d.config.getMigrationQuoteAmountCap > 0)
    .insufficientLiquidityForMigration
  let (base, quote) ← d.migrationAmounts w.pool handler
  checkMigrationAmounts w base quote
  let (protocolBaseFee, protocolQuoteFee) ← handler.getMigrationProtocolFees base quote
    w.pool.protocolLiquidityMigrationFeeBps
  let w := w.withPool (w.pool.saveProtocolLiquidityMigrationFee protocolBaseFee protocolQuoteFee)
  let excludedBase ← safeSub base protocolBaseFee
  let excludedQuote ← safeSub quote protocolQuoteFee
  pure ({ base := excludedBase, quote := excludedQuote }, w)

/-- The deposit into the pool of the other program.
Source: `migrate_damm_v2_initialize_pool.rs` `handle_migrate_damm_v2`, the calls of
`create_pool` and `create_second_position` -/
def depositInto (w : World) (amm : Amm) (offer : Deposit) : Result World := do
  let taken ← orThrow (amm.take offer) Fault.account
  let w ← w.pay .base .migration taken.base
  let w ← w.pay .quote .migration taken.quote
  let w := w.record (.poolCreated w.pool.protocolMigrationBaseFeeAmount
    w.pool.protocolMigrationQuoteFeeAmount)
  pure (w.withPool { w.pool with isMigrated := 1 })

/-- The base left over, besides the fees, is burnt.
Source: `migrate_damm_v2_initialize_pool.rs` `handle_migrate_damm_v2`, from the comment "burn the
rest of token in pool authority after migrated amount and fee" -/
def burnLeftover (w : World) : Result World := do
  let fees ← w.pool.getProtocolAndTradingBaseFee
  let nonBurnableAmount ← safeAdd 64 fees w.pool.protocolMigrationBaseFeeAmount
  let leftBaseToken ← safeSub w.baseVault nonBurnableAmount
  let burnableAmount ← d.config.getBurnableAmountPostMigration leftBaseToken
  if burnableAmount > 0 then do
    let w ← w.pay .base .burn burnableAmount
    pure { w with baseSupply := w.baseSupply - burnableAmount }
  else pure w

/-- The deposit, the burning and the end of the pool.
Source: `migrate_damm_v2_initialize_pool.rs` `handle_migrate_damm_v2`, from `create_pool`;
`migrate_meteora_damm_initialize_pool.rs` `handle_migrate_meteora_damm`, the same -/
def finishMigration (w : World) (amm : Amm) (offer : Deposit) : Result World := do
  let w ← depositInto w amm offer
  let w ← d.burnLeftover w
  pure (w.withPool { w.pool with migrationProgress := .createdPool })

/-- The pool migrates into the second program.
Source: `migrate_damm_v2_initialize_pool.rs` `handle_migrate_damm_v2` -/
def migrateDammV2 (w : World) (amm : Amm) : Result World := do
  d.checkMigrationProgress w
  let w := writeFinishCurveTimestamp w (d.canMigrateAfterDeadline w)
  let migrationOption ← orThrow (MigrationOption.tryFrom d.config.migrationOption)
    (Fault.error .invalidMigrationOption)
  ensure (migrationOption = .dammV2) .invalidMigrationOption
  let handler ← d.liquidityHandler w.pool
  let (offer, w) ← d.prepareMigration w handler
  -- fails when the deposit opens at no price or with too little liquidity
  let _ ← handler.getInitialPoolInformation offer.base offer.quote
  d.finishMigration w amm offer

/-- The pool migrates into the first program.
Source: `migrate_meteora_damm_initialize_pool.rs` `handle_migrate_meteora_damm` -/
def migrateMeteoraDamm (w : World) (amm : Amm) : Result World := do
  require (d.isTransferHookPool = false) Fault.account
  d.checkMigrationProgress w
  let w := writeFinishCurveTimestamp w (d.canMigrateAfterDeadline w)
  let migrationOption ← orThrow (MigrationOption.tryFrom d.config.migrationOption)
    (Fault.error .invalidMigrationOption)
  ensure (migrationOption = .meteoraDamm) .invalidMigrationOption
  let (offer, w) ← d.prepareMigration w (.compoundingLiquidity w.pool.sqrtPrice)
  d.finishMigration w amm offer

/-! ## Leftover -/

/-- The base that a fixed supply leaves is withdrawn, once.
Source: `instructions/migration/withdraw_leftover.rs` `handle_withdraw_leftover` -/
def withdrawLeftover (w : World) : Result World := do
  ensure (w.pool.migrationProgress = .createdPool) .notPermitToDoThisAction
  ensure d.config.isFixedTokenSupply .notPermitToDoThisAction
  ensure (w.pool.isWithdrawLeftover = 0) .leftoverHasBeenWithdraw
  let fees ← w.pool.getProtocolAndTradingBaseFee
  let rest ← safeSub w.baseVault fees
  let leftoverAmount ← safeSub rest w.pool.protocolMigrationBaseFeeAmount
  let w ← w.pay .base .leftover leftoverAmount
  pure (w.withPool { w.pool with isWithdrawLeftover := 1 })

end Deployment

end DynamicBondingCurve
