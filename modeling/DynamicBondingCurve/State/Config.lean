import DynamicBondingCurve.Fee.PoolFees
import DynamicBondingCurve.Params.LiquidityDistribution

/-!
# The stored configuration of a pool

* `LockedVestingParams`, `LiquidityVestingInfo`: the two kinds of vesting, of base tokens and of
  the liquidity of the migrated pool.
* `PoolConfig`: the account, with the methods that read it: the cap on the migrated quote
  amount, the migration fee, the initial base supply, the burn after migration, the split
  between partner and creator.
* `splitPartnerAndCreatorFee_spec`: **partner and creator share a fee without loss**.
-/

namespace DynamicBondingCurve

open Library

/-- The address of an account.
Source: the type of the runtime -/
abbrev Pubkey := ℕ

/-! ## Vesting of base tokens -/

/-- The vesting of base that is locked at the end of the sale.
Source: `instructions/partner/create_config/process_create_config.rs` `LockedVestingParams`;
`state/config.rs` `LockedVestingConfig`, which stores the same fields -/
structure LockedVestingParams where
  amountPerPeriod : ℕ
  cliffDurationFromMigrationTime : ℕ
  frequency : ℕ
  numberOfPeriod : ℕ
  cliffUnlockAmount : ℕ
  deriving DecidableEq, Repr, Inhabited

namespace LockedVestingParams

variable (p : LockedVestingParams)

/-- The base that vests in all.
Source: `process_create_config.rs` `LockedVestingParams::get_total_amount` -/
def getTotalAmount : Result ℕ := do
  let periods ← safeMul 64 p.amountPerPeriod p.numberOfPeriod
  safeAdd 64 p.cliffUnlockAmount periods

/-- Whether anything vests.
Source: `process_create_config.rs` `LockedVestingParams::has_vesting` -/
def hasVesting : Bool := p ≠ default

/-- A vesting that is set has an amount and a frequency.
Source: `process_create_config.rs` `LockedVestingParams::validate` -/
def validate : Result Unit :=
  if p.hasVesting then do
    let totalAmount ← p.getTotalAmount
    ensure (p.frequency ≠ 0 ∧ totalAmount ≠ 0) .invalidVestingParameters
  else pure ()

end LockedVestingParams

/-- The vesting schedule handed to the escrow program.
Source: `process_create_config.rs` `to_create_vesting_escrow_params`, the type of its result -/
structure CreateVestingEscrowParameters where
  vestingStartTime : ℕ
  cliffTime : ℕ
  frequency : ℕ
  cliffUnlockAmount : ℕ
  amountPerPeriod : ℕ
  numberOfPeriod : ℕ
  deriving DecidableEq, Repr

/-- The schedule that the escrow is created with.
Source: `process_create_config.rs` `LockedVestingParams::to_create_vesting_escrow_params` -/
def LockedVestingParams.toCreateVestingEscrowParams (p : LockedVestingParams)
    (finishCurveTimestamp : ℕ) : CreateVestingEscrowParameters :=
  { vestingStartTime := finishCurveTimestamp
    cliffTime := min (finishCurveTimestamp + p.cliffDurationFromMigrationTime) u64Max
    frequency := p.frequency
    cliffUnlockAmount := p.cliffUnlockAmount
    amountPerPeriod := p.amountPerPeriod
    numberOfPeriod := p.numberOfPeriod }

/-! ## Vesting of liquidity -/

/-- The vesting of a position of the migrated pool.
Source: `damm_v2::types::VestingParameters`, as `utils/damm_v2_utils.rs` reads it -/
structure DammV2VestingParameters where
  cliffPoint : Option ℕ
  periodFrequency : ℕ
  cliffUnlockLiquidity : ℕ
  liquidityPerPeriod : ℕ
  numberOfPeriod : ℕ
  deriving DecidableEq, Repr

namespace DammV2VestingParameters

variable (v : DammV2VestingParameters)

/-- The point from which liquidity vests, now if none is given.
Source: `utils/damm_v2_utils.rs` `get_vesting_cliff_point` -/
def getVestingCliffPoint (currentPoint : ℕ) : ℕ := v.cliffPoint.getD currentPoint

/-- The liquidity that vests in all.
Source: `utils/damm_v2_utils.rs` `get_vesting_total_lock_amount` -/
def getVestingTotalLockAmount : Result ℕ := do
  let periods ← safeMul 128 v.liquidityPerPeriod v.numberOfPeriod
  safeAdd 128 v.cliffUnlockLiquidity periods

/-- The liquidity that has vested at a point.
Source: `utils/damm_v2_utils.rs` `get_max_unlocked_liquidity_at_current_point` -/
def getMaxUnlockedLiquidityAtCurrentPoint (currentPoint : ℕ) : Result ℕ :=
  let cliffPoint := v.getVestingCliffPoint currentPoint
  if currentPoint < cliffPoint then pure 0
  else if v.periodFrequency = 0 then pure v.cliffUnlockLiquidity
  else do
    let elapsed ← safeSub currentPoint cliffPoint
    let period ← safeDiv elapsed v.periodFrequency
    let unlocked ← safeMul 128 (min period v.numberOfPeriod) v.liquidityPerPeriod
    safeAdd 128 v.cliffUnlockLiquidity unlocked

/-- The checks that the second program makes of a vesting.
Source: `utils/damm_v2_utils.rs` `validate_vesting_parameters` -/
def validateVestingParameters (currentPoint maxVestingDuration : ℕ) : Result Unit := do
  let cliffPoint := v.getVestingCliffPoint currentPoint
  ensure (cliffPoint ≥ currentPoint) .invalidVestingParameters
  (if cliffPoint = currentPoint then
    ensure (v.numberOfPeriod > 0) .invalidVestingParameters
  else pure ())
  (if v.numberOfPeriod > 0 then
    ensure (v.periodFrequency > 0 ∧ v.liquidityPerPeriod > 0) .invalidVestingParameters
  else pure ())
  let cliff ← safeSub cliffPoint currentPoint
  let periods ← safeMul 64 v.periodFrequency v.numberOfPeriod
  let vestingDuration ← safeAdd 64 cliff periods
  ensure (vestingDuration ≤ maxVestingDuration) .invalidVestingParameters
  let total ← v.getVestingTotalLockAmount
  ensure (total > 0) .invalidVestingParameters

end DammV2VestingParameters

/-- The vesting of a party's liquidity as it is stored.
Source: `state/config.rs` `LiquidityVestingInfo` -/
structure LiquidityVestingInfo where
  isInitialized : ℕ
  vestingPercentage : ℕ
  bpsPerPeriod : ℕ
  numberOfPeriods : ℕ
  frequency : ℕ
  cliffDurationFromMigrationTime : ℕ
  deriving DecidableEq, Repr, Inhabited

namespace LiquidityVestingInfo

variable (i : LiquidityVestingInfo)

/-- The vesting of an amount of liquidity that the second program is sent.
Source: `state/config.rs` `get_damm_v2_vesting_parameters` -/
def getDammV2VestingParameters (totalVestedLiquidity currentTimestamp : ℕ) :
    Result DammV2VestingParameters := do
  let totalBpsAfterCliff ← safeMul 16 i.bpsPerPeriod i.numberOfPeriods
  let totalVestingLiquidityAfterCliff ← safeMulDivCastU128 totalVestedLiquidity
    totalBpsAfterCliff MAX_BASIS_POINT .down
  let liquidityPerPeriod ← (if i.numberOfPeriods > 0 then
      safeDiv totalVestingLiquidityAfterCliff i.numberOfPeriods
    else pure 0)
  let numberOfPeriod := if liquidityPerPeriod = 0 then 0 else i.numberOfPeriods
  let frequency := if liquidityPerPeriod = 0 then 0 else i.frequency
  let cliffDuration := if liquidityPerPeriod = 0 then
      max i.cliffDurationFromMigrationTime 1
    else i.cliffDurationFromMigrationTime
  let periods ← safeMul 128 liquidityPerPeriod numberOfPeriod
  let cliffUnlockLiquidity ← safeSub totalVestedLiquidity periods
  let cliffPoint ← safeAdd 64 currentTimestamp cliffDuration
  pure
    { cliffPoint := some cliffPoint
      liquidityPerPeriod := liquidityPerPeriod
      cliffUnlockLiquidity := cliffUnlockLiquidity
      periodFrequency := frequency
      numberOfPeriod := numberOfPeriod }

/-- The part of a party's vesting that is locked after a time, in basis points of the whole.
Source: `state/config.rs` `get_liquidity_locked_bps_at_n_seconds` -/
def getLiquidityLockedBpsAtNSeconds (nSeconds : ℕ) : Result ℕ :=
  if i.isInitialized = 0 then pure 0
  else do
    let totalLiquidity := u128Max
    let totalVestedLiquidity ← safeMulDivCastU128 totalLiquidity i.vestingPercentage 100 .down
    let vestingParameters ← i.getDammV2VestingParameters totalVestedLiquidity 0
    let unlockedLiquidity ← vestingParameters.getMaxUnlockedLiquidityAtCurrentPoint nSeconds
    let lockedLiquidity ← safeSub totalVestedLiquidity unlockedLiquidity
    let liquidityLockedBps ← safeMulDivCastU128 lockedLiquidity MAX_BASIS_POINT totalLiquidity
      .down
    safeCast 16 liquidityLockedBps

end LiquidityVestingInfo

/-! ## The account -/

/-- A configuration as it is stored.
Source: `state/config.rs` `PoolConfig` -/
structure PoolConfig where
  quoteMint : Pubkey
  feeClaimer : Pubkey
  leftoverReceiver : Pubkey
  poolFees : PoolFeesConfig
  partnerLiquidityVestingInfo : LiquidityVestingInfo
  creatorLiquidityVestingInfo : LiquidityVestingInfo
  migrationQuoteAmountCap : ℕ
  collectFeeMode : ℕ
  migrationOption : ℕ
  activationType : ℕ
  tokenType : ℕ
  partnerPermanentLockedLiquidityPercentage : ℕ
  partnerLiquidityPercentage : ℕ
  creatorPermanentLockedLiquidityPercentage : ℕ
  creatorLiquidityPercentage : ℕ
  fixedTokenSupplyFlag : ℕ
  creatorTradingFeePercentage : ℕ
  tokenUpdateAuthority : ℕ
  migrationFeePercentage : ℕ
  creatorMigrationFeePercentage : ℕ
  swapBaseAmount : ℕ
  migrationQuoteThreshold : ℕ
  migrationBaseThreshold : ℕ
  migrationSqrtPrice : ℕ
  lockedVestingConfig : LockedVestingParams
  preMigrationTokenSupply : ℕ
  postMigrationTokenSupply : ℕ
  migratedCollectFeeMode : ℕ
  enableFirstSwapWithMinFee : ℕ
  sqrtStartPrice : ℕ
  curve : List LiquidityDistributionConfig
  deriving DecidableEq, Repr, Inhabited

/-- The quote that a migration deposits, and its fee.
Source: `state/config.rs` `MigrationAmount` -/
structure MigrationAmount where
  quoteAmount : ℕ
  fee : ℕ
  deriving DecidableEq, Repr

/-- The two parts of the migration fee.
Source: `state/config.rs` `MigrationFeeDistribution` -/
structure MigrationFeeDistribution where
  partnerMigrationFee : ℕ
  creatorMigrationFee : ℕ
  deriving DecidableEq, Repr

/-- The two parts of a trading fee.
Source: `state/config.rs` `PartnerAndCreatorSplitFee` -/
structure PartnerAndCreatorSplitFee where
  partnerFee : ℕ
  creatorFee : ℕ
  deriving DecidableEq, Repr

/-- A point of the curve as it was submitted.
Source: `state/config.rs` `to_liquidity_distribution_parameters` -/
def LiquidityDistributionConfig.toLiquidityDistributionParameters
    (p : LiquidityDistributionConfig) : LiquidityDistributionParameters :=
  { sqrtPrice := p.sqrtPrice, liquidity := p.liquidity }

/-- The cap on the migrated quote, which is the threshold when none was set.
Source: `state/config.rs` `get_effective_migration_quote_amount_cap` -/
def getEffectiveMigrationQuoteAmountCap (migrationQuoteThreshold migrationQuoteAmountCap : ℕ) :
    ℕ :=
  if migrationQuoteAmountCap > 0 then migrationQuoteAmountCap else migrationQuoteThreshold

/-- What the migration fee leaves of the quote.
Source: `state/config.rs` `calculate_post_fee_migration_quote_amount` -/
def calculatePostFeeMigrationQuoteAmount (migrationQuoteThreshold migrationFeePercentage : ℕ) :
    Result MigrationAmount := do
  let kept ← safeSub 100 migrationFeePercentage
  let quoteAmount ← safeMulDivCastU64 migrationQuoteThreshold kept 100 .up
  let fee ← safeSub migrationQuoteThreshold quoteAmount
  pure { quoteAmount := quoteAmount, fee := fee }

/-- The base for sale with its buffer, but no more than the whole curve holds.
Source: `state/config.rs` `get_swap_amount_with_buffer` -/
def getSwapAmountWithBuffer (swapBaseAmount sqrtStartPrice : ℕ)
    (curve : List LiquidityDistributionParameters) : Result ℕ := do
  let scaled ← safeMul 128 swapBaseAmount SWAP_BUFFER_PERCENTAGE
  let buffer ← safeDiv scaled 100
  let swapAmountBuffer ← safeAdd 128 buffer swapBaseAmount
  let maxBaseAmountOnCurve ← getBaseTokenForSwap sqrtStartPrice MAX_SQRT_PRICE curve
  let amount := if swapAmountBuffer < maxBaseAmountOnCurve then swapAmountBuffer
    else maxBaseAmountOnCurve
  ensure (amount ≤ u64Max) .mathOverflow
  pure amount

/-- The base that a pool is created with: sale, migration and vesting.
Source: `state/config.rs` `get_total_token_supply` -/
def getTotalTokenSupply (swapBaseAmount migrationBaseThreshold : ℕ)
    (lockedVestingParams : LockedVestingParams) : Result ℕ := do
  let totalCirculatingAmount ← safeAdd 64 swapBaseAmount migrationBaseThreshold
  let totalLockedVestingAmount ← lockedVestingParams.getTotalAmount
  safeAdd 64 totalCirculatingAmount totalLockedVestingAmount

namespace PoolConfig

variable (c : PoolConfig)

/-- The stored choice of an authority over the base token.
Source: `state/config.rs` `get_token_authority` -/
def getTokenAuthority : Result TokenAuthorityOption :=
  orThrow (TokenAuthorityOption.tryFrom c.tokenUpdateAuthority)
    (Fault.error .invalidTokenAuthorityOption)

/-- Whether a cap on the migrated quote was set.
Source: `state/config.rs` `is_fixed_migration_quote_amount_enabled` -/
def isFixedMigrationQuoteAmountEnabled : Bool := c.migrationQuoteAmountCap > 0

/-- The cap on the migrated quote of a configuration.
Source: `state/config.rs` `get_migration_quote_amount_cap` -/
def getMigrationQuoteAmountCap : ℕ :=
  getEffectiveMigrationQuoteAmountCap c.migrationQuoteThreshold c.migrationQuoteAmountCap

/-- The parts of the migration fee on an amount of quote.
Source: `state/config.rs` `get_migration_fee_distribution_for_threshold` -/
def getMigrationFeeDistributionForThreshold (migrationQuoteThreshold : ℕ) :
    Result MigrationFeeDistribution := do
  let amount ← calculatePostFeeMigrationQuoteAmount migrationQuoteThreshold
    c.migrationFeePercentage
  let creatorMigrationFee ← safeMulDivCastU64 amount.fee c.creatorMigrationFeePercentage 100
    .down
  let partnerMigrationFee ← safeSub amount.fee creatorMigrationFee
  pure
    { partnerMigrationFee := partnerMigrationFee
      creatorMigrationFee := creatorMigrationFee }

/-- Whether the supply is fixed.
Source: `state/config.rs` `is_fixed_token_supply` -/
def isFixedTokenSupply : Bool := c.fixedTokenSupplyFlag = 1

/-- The stored points up to the first one without liquidity.
Source: `state/config.rs` `get_initial_base_supply`, the loop -/
def curveParameters : List LiquidityDistributionParameters :=
  (c.curve.takeWhile fun point => point.liquidity ≠ 0).map
    LiquidityDistributionConfig.toLiquidityDistributionParameters

/-- The base that is minted for a new pool.
Source: `state/config.rs` `get_initial_base_supply` -/
def getInitialBaseSupply : Result ℕ :=
  if c.isFixedTokenSupply then pure c.preMigrationTokenSupply
  else do
    let swapAmountWithBuffer ← getSwapAmountWithBuffer c.swapBaseAmount c.sqrtStartPrice
      c.curveParameters
    getTotalTokenSupply swapAmountWithBuffer c.migrationBaseThreshold c.lockedVestingConfig

/-- The most base that a migration burns.
Source: `state/config.rs` `get_max_burnable_amount_post_migration` -/
def getMaxBurnableAmountPostMigration : Result ℕ :=
  if c.isFixedTokenSupply then
    safeSub c.preMigrationTokenSupply c.postMigrationTokenSupply
  else pure u64Max

/-- What a migration burns of the base that is left.
Source: `state/config.rs` `get_burnable_amount_post_migration` -/
def getBurnableAmountPostMigration (leftover : ℕ) : Result ℕ := do
  let maxBurnableAmount ← c.getMaxBurnableAmountPostMigration
  pure (min maxBurnableAmount leftover)

/-- The partner's and the creator's part of a trading fee.
Source: `state/config.rs` `split_partner_and_creator_fee` -/
def splitPartnerAndCreatorFee (fee : ℕ) : Result PartnerAndCreatorSplitFee :=
  if c.creatorTradingFeePercentage = 0 then pure { partnerFee := fee, creatorFee := 0 }
  else do
    let creatorFee ← safeMulDivCastU64 fee c.creatorTradingFeePercentage 100 .down
    let partnerFee ← safeSub fee creatorFee
    pure { partnerFee := partnerFee, creatorFee := creatorFee }

/-- The part of the liquidity that is locked after a time, in basis points.
Source: `state/config.rs` `get_total_liquidity_locked_bps_at_n_seconds` -/
def getTotalLiquidityLockedBpsAtNSeconds (nSeconds : ℕ) : Result ℕ := do
  let partnerVested ← c.partnerLiquidityVestingInfo.getLiquidityLockedBpsAtNSeconds nSeconds
  let creatorVested ← c.creatorLiquidityVestingInfo.getLiquidityLockedBpsAtNSeconds nSeconds
  let partnerPermanent ← safeMul 16 c.partnerPermanentLockedLiquidityPercentage 100
  let creatorPermanent ← safeMul 16 c.creatorPermanentLockedLiquidityPercentage 100
  let partner ← safeAdd 16 partnerVested partnerPermanent
  let both ← safeAdd 16 partner creatorVested
  safeAdd 16 both creatorPermanent

/-- Whether the first buy may be charged the lowest base fee.
Source: `state/config.rs` `is_first_swap_with_min_fee_enabled` -/
def isFirstSwapWithMinFeeEnabled : Bool := c.enableFirstSwapWithMinFee = 1

variable {c}

/-- **Partner and creator share a fee without loss.**
Source: `state/config.rs` `split_partner_and_creator_fee` -/
theorem splitPartnerAndCreatorFee_spec {fee : ℕ} {s : PartnerAndCreatorSplitFee}
    (h : c.splitPartnerAndCreatorFee fee = .ok s) : s.partnerFee + s.creatorFee = fee := by
  unfold splitPartnerAndCreatorFee at h
  split_ifs at h with hzero
  · rw [pure_eq_ok] at h
    subst h
    rfl
  · simp only [bind_eq_ok, safeSub_eq_ok, pure_eq_ok] at h
    obtain ⟨_, _, _, ⟨hle, rfl⟩, rfl⟩ := h
    exact Nat.sub_add_cancel hle

/-- The part kept and the fee add up to the amount.
Source: `state/config.rs` `calculate_post_fee_migration_quote_amount` -/
theorem calculatePostFeeMigrationQuoteAmount_spec {threshold percentage : ℕ} {m : MigrationAmount}
    (h : calculatePostFeeMigrationQuoteAmount threshold percentage = .ok m) :
    m.quoteAmount + m.fee = threshold ∧
      m.quoteAmount = (threshold * (100 - percentage)) ⌈/⌉ 100 := by
  simp only [calculatePostFeeMigrationQuoteAmount, bind_eq_ok, safeSub_eq_ok, pure_eq_ok] at h
  obtain ⟨_, ⟨_, rfl⟩, _, hdiv, _, ⟨hle, rfl⟩, rfl⟩ := h
  exact ⟨Nat.add_sub_cancel' hle, (safeMulDivCastU64_eq_ok hdiv).2.1⟩

end PoolConfig

end DynamicBondingCurve
