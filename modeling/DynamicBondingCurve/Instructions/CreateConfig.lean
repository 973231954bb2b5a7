import DynamicBondingCurve.MigrationHandler

/-!
# Creating a configuration

What a partner submits, the checks on it, and the configuration computed from it.

* `ConfigParameters`, `ConfigParameters.validate`: the submission and its checks.
* `processCreateConfig`: the configuration that is stored.
* `AcceptedConfig`: a configuration that came out of the two, with the evidence; every result
  about accepted configurations starts from it.
-/

namespace DynamicBondingCurve

open Library

/-! ## The fees of the migrated pool -/

/-- The fees that a migrated pool may have.
Source: `state/config.rs` `MigrationFeeOption` -/
inductive MigrationFeeOption where
  | fixedBps25
  | fixedBps30
  | fixedBps100
  | fixedBps200
  | fixedBps400
  | fixedBps600
  | customizable
  deriving DecidableEq, Repr

/-- The fee option that a byte stands for.
Source: `state/config.rs` `MigrationFeeOption`, the conversion from its byte -/
def MigrationFeeOption.tryFrom : ℕ → Option MigrationFeeOption
  | 0 => some .fixedBps25
  | 1 => some .fixedBps30
  | 2 => some .fixedBps100
  | 3 => some .fixedBps200
  | 4 => some .fixedBps400
  | 5 => some .fixedBps600
  | 6 => some .customizable
  | _ => none

/-- The kinds of base fee of the second program.
Source: `utils/damm_v2_utils.rs` `BaseFeeMode` -/
inductive DammV2BaseFeeMode where
  | feeTimeSchedulerLinear
  | feeTimeSchedulerExponential
  | rateLimiter
  | feeMarketCapSchedulerLinear
  | feeMarketCapSchedulerExponential
  deriving DecidableEq, Repr

/-- The kind of base fee of the second program that a byte stands for.
Source: `utils/damm_v2_utils.rs` `BaseFeeMode`, the conversion from its byte -/
def DammV2BaseFeeMode.tryFrom : ℕ → Option DammV2BaseFeeMode
  | 0 => some .feeTimeSchedulerLinear
  | 1 => some .feeTimeSchedulerExponential
  | 2 => some .rateLimiter
  | 3 => some .feeMarketCapSchedulerLinear
  | 4 => some .feeMarketCapSchedulerExponential
  | _ => none

/-- The numerator of the highest fee that the second program takes.
Source: `idls/damm_v2.json` `MAX_FEE_NUMERATOR_V1` -/
def DAMM_V2_MAX_FEE_NUMERATOR : ℕ := 990000000

/-- The numerator of the lowest fee that the second program takes.
Source: `idls/damm_v2.json` `MIN_FEE_NUMERATOR` -/
def DAMM_V2_MIN_FEE_NUMERATOR : ℕ := 100000

/-- A fee that falls with the market cap, as it is submitted for a migrated pool.
Source: `process_create_config.rs` `MigratedPoolMarketCapFeeSchedulerParams` -/
structure MigratedPoolMarketCapFeeSchedulerParams where
  numberOfPeriod : ℕ
  sqrtPriceStepBps : ℕ
  schedulerExpirationDuration : ℕ
  reductionFactor : ℕ
  deriving DecidableEq, Repr, Inhabited

/-- The fee of a migrated pool as it is submitted.
Source: `process_create_config.rs` `MigratedPoolFee` -/
structure MigratedPoolFee where
  collectFeeMode : ℕ
  dynamicFee : ℕ
  poolFeeBps : ℕ
  deriving DecidableEq, Repr, Inhabited

/-- A fee of the second program that falls with the market cap.
Source: `utils/damm_v2_utils.rs` `DammV2PodAlignedFeeMarketCapScheduler` -/
structure DammV2PodAlignedFeeMarketCapScheduler where
  cliffFeeNumerator : ℕ
  baseFeeMode : ℕ
  numberOfPeriod : ℕ
  sqrtPriceStepBps : ℕ
  schedulerExpirationDuration : ℕ
  reductionFactor : ℕ
  deriving DecidableEq, Repr

namespace DammV2PodAlignedFeeMarketCapScheduler

variable (s : DammV2PodAlignedFeeMarketCapScheduler)

/-- The fee of a period; those after the last one are charged as the last one.
Source: `utils/damm_v2_utils.rs` `get_base_fee_numerator_by_period` -/
def getBaseFeeNumeratorByPeriod (period : ℕ) : Result ℕ := do
  let period := min period s.numberOfPeriod
  let mode ← orThrow (DammV2BaseFeeMode.tryFrom s.baseFeeMode) (Fault.error .typeCastFailed)
  match mode with
  | .feeMarketCapSchedulerLinear => do
      let reduction ← safeMul 64 s.reductionFactor period
      safeSub s.cliffFeeNumerator reduction
  | .feeMarketCapSchedulerExponential => do
      ensure (period < 2 ^ 16) .mathOverflow
      getFeeInPeriod s.cliffFeeNumerator s.reductionFactor period
  | _ => fail .undeterminedError

/-- The lowest fee is that of the last period.
Source: `utils/damm_v2_utils.rs` `get_min_base_fee_numerator` -/
def getMinBaseFeeNumerator : Result ℕ := s.getBaseFeeNumeratorByPeriod s.numberOfPeriod

/-- All factors are set, and the lowest and the highest fee are ones that the second program takes.
Source: `utils/damm_v2_utils.rs` `DammV2PodAlignedFeeMarketCapScheduler::validate` -/
def validate : Result Unit := do
  ensure (s.reductionFactor > 0) .invalidFeeMarketCapScheduler
  ensure (s.sqrtPriceStepBps > 0) .invalidFeeMarketCapScheduler
  ensure (s.schedulerExpirationDuration > 0) .invalidFeeMarketCapScheduler
  ensure (s.numberOfPeriod > 0) .invalidFeeMarketCapScheduler
  let minFeeNumerator ← s.getMinBaseFeeNumerator
  validateFeeFraction minFeeNumerator FEE_DENOMINATOR
  validateFeeFraction s.cliffFeeNumerator FEE_DENOMINATOR
  ensure (minFeeNumerator ≥ DAMM_V2_MIN_FEE_NUMERATOR ∧
    s.cliffFeeNumerator ≤ DAMM_V2_MAX_FEE_NUMERATOR) .exceedMaxFeeBps

end DammV2PodAlignedFeeMarketCapScheduler

/-- What is checked of the fees of a migrated pool.
Source: `process_create_config.rs` `MigratedPoolFeeValidator` -/
structure MigratedPoolFeeValidator where
  fee : MigratedPoolFee
  compoundingFeeBps : ℕ
  migratedPoolBaseFeeMode : ℕ
  scheduler : MigratedPoolMarketCapFeeSchedulerParams
  deriving DecidableEq, Repr

namespace MigratedPoolFeeValidator

variable (v : MigratedPoolFeeValidator)

/-- No fee of its own was submitted for a migrated pool.
Source: `process_create_config.rs` `MigratedPoolFeeValidator::is_none` -/
def isNone : Bool :=
  v.fee.collectFeeMode = 0 ∧ v.fee.dynamicFee = 0 ∧ v.fee.poolFeeBps = 0 ∧
    v.compoundingFeeBps = 0 ∧ v.migratedPoolBaseFeeMode = 0 ∧ v.scheduler = default

/-- The checks of the fees of a migrated pool.
Source: `process_create_config.rs` `MigratedPoolFeeValidator::validate` -/
def validate : Result Unit := do
  ensure (v.fee.poolFeeBps ≥ MIN_MIGRATED_POOL_FEE_BPS ∧
    v.fee.poolFeeBps ≤ MAX_MIGRATED_POOL_FEE_BPS) .invalidMigratedPoolFee
  let mode ← orThrow (MigratedCollectFeeMode.tryFrom v.fee.collectFeeMode)
    (Fault.error .invalidCollectFeeMode)
  (match mode with
    | .compounding =>
        ensure (v.compoundingFeeBps > 0 ∧ v.compoundingFeeBps ≤ MAX_BASIS_POINT)
          .invalidMigratedPoolFee
    | _ => ensure (v.compoundingFeeBps = 0) .invalidMigratedPoolFee)
  ensure (v.fee.dynamicFee = 0 ∨ v.fee.dynamicFee = 1) .invalidMigratedPoolFee
  let baseFeeMode ← orThrow (DammV2BaseFeeMode.tryFrom v.migratedPoolBaseFeeMode)
    (Fault.error .typeCastFailed)
  match baseFeeMode with
  | .feeTimeSchedulerLinear | .feeTimeSchedulerExponential =>
      ensure (v.scheduler = default) .invalidMigratedPoolFee
  | .feeMarketCapSchedulerExponential | .feeMarketCapSchedulerLinear => do
      let cliffFeeNumerator ← toNumerator v.fee.poolFeeBps FEE_DENOMINATOR
      DammV2PodAlignedFeeMarketCapScheduler.validate
        { cliffFeeNumerator := cliffFeeNumerator
          baseFeeMode := v.migratedPoolBaseFeeMode
          numberOfPeriod := v.scheduler.numberOfPeriod
          sqrtPriceStepBps := v.scheduler.sqrtPriceStepBps
          schedulerExpirationDuration := v.scheduler.schedulerExpirationDuration
          reductionFactor := v.scheduler.reductionFactor }
  | .rateLimiter => fail .invalidMigratedPoolFee

end MigratedPoolFeeValidator

/-! ## The submission -/

/-- The fee of a migration as it is submitted.
Source: `process_create_config.rs` `MigrationFee` -/
structure MigrationFee where
  feePercentage : ℕ
  creatorFeePercentage : ℕ
  deriving DecidableEq, Repr, Inhabited

/-- The checks of the fee of a migration.
Source: `process_create_config.rs` `MigrationFee::validate` -/
def MigrationFee.validate (f : MigrationFee) : Result Unit := do
  ensure (f.feePercentage ≤ MAX_MIGRATION_FEE_PERCENTAGE) .invalidMigratorFeePercentage
  if f.feePercentage = 0 then
    ensure (f.creatorFeePercentage = 0) .invalidMigratorFeePercentage
  else
    ensure (f.creatorFeePercentage ≤ 100) .invalidMigratorFeePercentage

/-- The two sizes of a fixed supply as they are submitted.
Source: `process_create_config.rs` `TokenSupplyParams` -/
structure TokenSupplyParams where
  preMigrationTokenSupply : ℕ
  postMigrationTokenSupply : ℕ
  deriving DecidableEq, Repr, Inhabited

/-- The vesting of a party's liquidity as it is submitted.
Source: `process_create_config.rs` `LiquidityVestingInfoParams` -/
structure LiquidityVestingInfoParams where
  vestingPercentage : ℕ
  bpsPerPeriod : ℕ
  numberOfPeriods : ℕ
  cliffDurationFromMigrationTime : ℕ
  frequency : ℕ
  deriving DecidableEq, Repr, Inhabited

namespace LiquidityVestingInfoParams

variable (p : LiquidityVestingInfoParams)

/-- No vesting was submitted.
Source: `process_create_config.rs` `LiquidityVestingInfoParams::is_zero` -/
def isZero : Bool := p = default

/-- The vesting is stored as it was submitted.
Source: `process_create_config.rs` `to_liquidity_vesting_info` -/
def toLiquidityVestingInfo : LiquidityVestingInfo :=
  { isInitialized := if p.isZero then 0 else 1
    vestingPercentage := p.vestingPercentage
    cliffDurationFromMigrationTime := p.cliffDurationFromMigrationTime
    bpsPerPeriod := p.bpsPerPeriod
    frequency := p.frequency
    numberOfPeriods := p.numberOfPeriods }

/-- The checks of a vesting that is submitted.
Source: `process_create_config.rs` `LiquidityVestingInfoParams::validate` -/
def validate (currentTimestamp : ℕ) : Result Unit :=
  if p.isZero then pure ()
  else do
    let totalVestedLiquidity ← safeMulDivCastU128 u128Max p.vestingPercentage 100 .down
    let vestingParameters ← p.toLiquidityVestingInfo.getDammV2VestingParameters
      totalVestedLiquidity currentTimestamp
    vestingParameters.validateVestingParameters currentTimestamp MAX_LOCK_DURATION_IN_SECONDS

end LiquidityVestingInfoParams

/-- All that a partner submits for a configuration.
Source: `process_create_config.rs` `ConfigParameters` -/
structure ConfigParameters where
  poolFees : PoolFeeParameters
  collectFeeMode : ℕ
  migrationOption : ℕ
  activationType : ℕ
  tokenType : ℕ
  tokenDecimal : ℕ
  partnerLiquidityPercentage : ℕ
  partnerPermanentLockedLiquidityPercentage : ℕ
  creatorLiquidityPercentage : ℕ
  creatorPermanentLockedLiquidityPercentage : ℕ
  migrationQuoteThreshold : ℕ
  migrationQuoteAmountCap : ℕ
  sqrtStartPrice : ℕ
  lockedVesting : LockedVestingParams
  migrationFeeOption : ℕ
  tokenSupply : Option TokenSupplyParams
  creatorTradingFeePercentage : ℕ
  tokenUpdateAuthority : ℕ
  migrationFee : MigrationFee
  migratedPoolFee : MigratedPoolFee
  poolCreationFee : ℕ
  partnerLiquidityVestingInfo : LiquidityVestingInfoParams
  creatorLiquidityVestingInfo : LiquidityVestingInfoParams
  migratedPoolBaseFeeMode : ℕ
  migratedPoolMarketCapFeeSchedulerParams : MigratedPoolMarketCapFeeSchedulerParams
  enableFirstSwapWithMinFee : Bool
  compoundingFeeBps : ℕ
  curve : List LiquidityDistributionParameters
  deriving DecidableEq, Repr, Inhabited

/-- What the checks read of the quote mint: its address, whether the first token program owns
it, whether it is the native mint of the second one, and whether all its extensions are
metadata.
Source: `utils/token.rs` `is_supported_quote_mint` -/
structure QuoteMint where
  key : Pubkey
  ownedByTokenProgram : Bool
  isNativeMint2022 : Bool
  onlyMetadataExtensions : Bool
  deriving DecidableEq, Repr, Inhabited

/-- Whether the program trades against a quote token.
Source: `utils/token.rs` `is_supported_quote_mint` -/
def isSupportedQuoteMint (m : QuoteMint) : Result Bool :=
  if m.ownedByTokenProgram then pure true
  else if m.isNativeMint2022 then fail .unsupportNativeMintToken2022
  else pure m.onlyMetadataExtensions

/-- The points after the first are strictly ascending and have liquidity.
Source: `process_create_config.rs` `ConfigParameters::validate`, the loop over the curve -/
def validateCurveLoop : LiquidityDistributionParameters →
    List LiquidityDistributionParameters → Result Unit
  | _, [] => pure ()
  | previous, point :: rest => do
      ensure (point.sqrtPrice > previous.sqrtPrice ∧ point.liquidity > 0) .invalidCurve
      validateCurveLoop point rest

/-- The checks on the start price and the curve.
Source: `process_create_config.rs` `ConfigParameters::validate`, from the comment "validate price
and liquidity" -/
def validateCurve (sqrtStartPrice : ℕ) (curve : List LiquidityDistributionParameters) :
    Result Unit := do
  ensure (sqrtStartPrice ≥ MIN_SQRT_PRICE ∧ sqrtStartPrice < MAX_SQRT_PRICE) .invalidCurve
  ensure (curve.length > 0 ∧ curve.length ≤ MAX_CURVE_POINT) .invalidCurve
  match curve with
  | [] => .error .panic
  | first :: rest => do
      ensure (first.sqrtPrice > sqrtStartPrice ∧ first.liquidity > 0 ∧
        first.sqrtPrice ≤ MAX_SQRT_PRICE) .invalidCurve
      validateCurveLoop first rest
      ensure ((rest.getLastD first).sqrtPrice ≤ MAX_SQRT_PRICE) .invalidCurve

namespace ConfigParameters

variable (p : ConfigParameters)

/-- The fees of the migrated pool, put together for their check.
Source: `process_create_config.rs` `MigratedPoolFeeValidator::new` -/
def migratedPoolFeeValidator : MigratedPoolFeeValidator :=
  { fee := p.migratedPoolFee
    compoundingFeeBps := p.compoundingFeeBps
    migratedPoolBaseFeeMode := p.migratedPoolBaseFeeMode
    scheduler := p.migratedPoolMarketCapFeeSchedulerParams }

/-- The checks that depend on the program migrated to.
Source: `process_create_config.rs` `ConfigParameters::validate`, the match on the migration
option -/
def validateMigrationOption (migrationOption : MigrationOption)
    (migrationFeeOption : MigrationFeeOption) (tokenType : TokenType) (quoteMint : QuoteMint)
    (currentTimestamp : ℕ) : Result Unit :=
  match migrationOption with
  | .meteoraDamm => do
      ensure (tokenType = .splToken) .invalidTokenType
      ensure quoteMint.ownedByTokenProgram .invalidQuoteMint
      ensure (migrationFeeOption ≠ .customizable ∧ p.migratedPoolFeeValidator.isNone)
        .invalidMigrationFeeOption
      ensure p.partnerLiquidityVestingInfo.isZero .invalidVestingParameters
      ensure p.creatorLiquidityVestingInfo.isZero .invalidVestingParameters
  | .dammV2 => do
      (if migrationFeeOption = .customizable then p.migratedPoolFeeValidator.validate
      else ensure p.migratedPoolFeeValidator.isNone .invalidMigratedPoolFee)
      p.partnerLiquidityVestingInfo.validate currentTimestamp
      p.creatorLiquidityVestingInfo.validate currentTimestamp

/-- The checks of a submission.
Source: `process_create_config.rs` `ConfigParameters::validate` -/
def validate (quoteMint : QuoteMint) (currentTimestamp : ℕ) (isTransferHook : Bool) :
    Result Unit := do
  let supported ← isSupportedQuoteMint quoteMint
  ensure supported .invalidQuoteMint
  let activationType ← orThrow (ActivationType.tryFrom p.activationType)
    (Fault.error .typeCastFailed)
  p.poolFees.validate p.collectFeeMode activationType
  ensure (p.creatorTradingFeePercentage = 0) .invalidCreatorTradingFeePercentage
  p.migrationFee.validate
  ensure (p.migrationFee.feePercentage = 0) .invalidMigratorFeePercentage
  ensure (CollectFeeMode.tryFrom p.collectFeeMode).isSome .invalidCollectFeeMode
  let migrationOptionValue ← orThrow (MigrationOption.tryFrom p.migrationOption)
    (Fault.error .invalidMigrationOption)
  let migrationFeeOption ← orThrow (MigrationFeeOption.tryFrom p.migrationFeeOption)
    (Fault.error .invalidMigrationFeeOption)
  let tokenTypeValue ← orThrow (TokenType.tryFrom p.tokenType) (Fault.error .invalidTokenType)
  p.validateMigrationOption migrationOptionValue migrationFeeOption tokenTypeValue quoteMint
    currentTimestamp
  let tokenAuthorityOption ← orThrow (TokenAuthorityOption.tryFrom p.tokenUpdateAuthority)
    (Fault.error .invalidTokenAuthorityOption)
  ensure (isTransferHook ∨ ¬ tokenAuthorityOption.hasMintAuthority) .invalidTokenAuthorityOption
  ensure (p.tokenDecimal ≥ 6 ∧ p.tokenDecimal ≤ 9) .invalidTokenDecimals
  let sum ← safeAdd 8 p.partnerLiquidityPercentage p.partnerPermanentLockedLiquidityPercentage
  let sum ← safeAdd 8 sum p.creatorLiquidityPercentage
  let sum ← safeAdd 8 sum p.creatorPermanentLockedLiquidityPercentage
  let sum ← safeAdd 8 sum p.partnerLiquidityVestingInfo.vestingPercentage
  let sum ← safeAdd 8 sum p.creatorLiquidityVestingInfo.vestingPercentage
  ensure (sum = 100) .invalidFeePercentage
  ensure (p.migrationQuoteThreshold > 0) .invalidQuoteThreshold
  (if p.migrationQuoteAmountCap > 0 then do
    ensure (p.migrationQuoteAmountCap ≤ p.migrationQuoteThreshold) .invalidQuoteThreshold
    ensure (p.migrationFee.feePercentage = 0 ∧ p.migrationFee.creatorFeePercentage = 0)
      .invalidMigratorFeePercentage
  else pure ())
  p.lockedVesting.validate
  (if p.poolCreationFee > 0 then
    ensure (p.poolCreationFee ≥ MIN_POOL_CREATION_FEE ∧
      p.poolCreationFee ≤ MAX_POOL_CREATION_FEE) .invalidPoolCreationFee
  else pure ())
  validateCurve p.sqrtStartPrice p.curve

end ConfigParameters

/-! ## The configuration that is stored -/

/-- The stored curve: the points, then empty places up to the fixed length.
Source: `state/config.rs` `PoolConfig::init`, the loop over the curve -/
def storedCurve (curve : List LiquidityDistributionParameters) :
    List LiquidityDistributionConfig :=
  curve.map LiquidityDistributionParameters.toLiquidityDistributionConfig ++
    List.replicate (MAX_CURVE_POINT_CONFIG - curve.length) { sqrtPrice := 0, liquidity := 0 }

/-- The checks of a supply fixed in advance, and the flag and the two supplies stored.
Source: `process_create_config.rs` `process_create_config`, from
`if let Some(TokenSupplyParams ..)` -/
def resolveTokenSupply (p : ConfigParameters) (swapBaseAmount migrationBaseAmount : ℕ)
    (leftoverReceiver : Pubkey) : Result (ℕ × ℕ × ℕ) :=
  match p.tokenSupply with
  | some supply => do
      let swapBaseAmountBuffer ← getSwapAmountWithBuffer swapBaseAmount p.sqrtStartPrice p.curve
      let minimumBaseSupplyWithBuffer ← getTotalTokenSupply swapBaseAmountBuffer
        migrationBaseAmount p.lockedVesting
      let minimumBaseSupplyWithoutBuffer ← getTotalTokenSupply swapBaseAmount migrationBaseAmount
        p.lockedVesting
      ensure (leftoverReceiver ≠ 0) .invalidLeftoverAddress
      ensure (minimumBaseSupplyWithoutBuffer ≤ supply.postMigrationTokenSupply ∧
        supply.postMigrationTokenSupply ≤ supply.preMigrationTokenSupply ∧
        minimumBaseSupplyWithBuffer ≤ supply.preMigrationTokenSupply) .invalidTokenSupply
      pure (1, supply.preMigrationTokenSupply, supply.postMigrationTokenSupply)
  | none => pure (0, 0, 0)

/-- The check that the migrated pool can be opened, for the constant product of the second
program.
Source: `process_create_config.rs` `process_create_config`, the block on
`MigratedCollectFeeMode::Compounding` -/
def validateCompounding (migrationOption : MigrationOption) (mode : MigratedCollectFeeMode)
    (migrationBaseAmount migrationQuoteAmount migrationSqrtPrice : ℕ) : Result Unit :=
  if migrationOption = .dammV2 ∧ mode = .compounding then do
    let (protocolBaseFee, protocolQuoteFee) ← CompoundingLiquidity.getMigrationProtocolFees
      migrationBaseAmount migrationQuoteAmount PROTOCOL_LIQUIDITY_MIGRATION_FEE_BPS
    let excludedBaseAmount ← safeSub migrationBaseAmount protocolBaseFee
    let excludedQuoteAmount ← safeSub migrationQuoteAmount protocolQuoteFee
    CompoundingLiquidity.validateInitialPoolInformation excludedBaseAmount excludedQuoteAmount
      migrationSqrtPrice
  else pure ()

/-- The configuration that is created from a submission: its sizes are computed and checked.
Source: `process_create_config.rs` `process_create_config` -/
def processCreateConfig (p : ConfigParameters) (quoteMint : QuoteMint)
    (feeClaimer leftoverReceiver : Pubkey) : Result PoolConfig := do
  let migrationSqrtPrice ← getMigrationThresholdPrice p.migrationQuoteThreshold p.sqrtStartPrice
    p.curve
  ensure (migrationSqrtPrice < MAX_SQRT_PRICE) .invalidCurve
  let swapBaseAmount256 ← getBaseTokenForSwap p.sqrtStartPrice migrationSqrtPrice p.curve
  let swapBaseAmount ← safeCast 64 swapBaseAmount256
  let migrationOption ← orThrow (MigrationOption.tryFrom p.migrationOption)
    (Fault.error .invalidMigrationOption)
  let migratedCollectFeeMode ← orThrow
    (MigratedCollectFeeMode.tryFrom p.migratedPoolFee.collectFeeMode)
    (Fault.error .typeCastFailed)
  let handler := getMigrationHandler migrationOption migratedCollectFeeMode migrationSqrtPrice
  let cap := getEffectiveMigrationQuoteAmountCap p.migrationQuoteThreshold
    p.migrationQuoteAmountCap
  let (migrationBaseAmount, migrationQuoteAmount) ←
    handler.getIncludedProtocolFeeMigrationAmounts1 cap p.migrationFee.feePercentage
  ensure (migrationBaseAmount > 0 ∧ swapBaseAmount > 0) .invalidCurve
  validateCompounding migrationOption migratedCollectFeeMode migrationBaseAmount
    migrationQuoteAmount migrationSqrtPrice
  let (fixedTokenSupplyFlag, preMigrationTokenSupply, postMigrationTokenSupply) ←
    resolveTokenSupply p swapBaseAmount migrationBaseAmount leftoverReceiver
  -- the write into the fixed-length array panics past its end
  assert (p.curve.length ≤ MAX_CURVE_POINT_CONFIG)
  let config : PoolConfig :=
    { quoteMint := quoteMint.key
      feeClaimer := feeClaimer
      leftoverReceiver := leftoverReceiver
      poolFees := p.poolFees.toPoolFeesConfig
      partnerLiquidityVestingInfo := p.partnerLiquidityVestingInfo.toLiquidityVestingInfo
      creatorLiquidityVestingInfo := p.creatorLiquidityVestingInfo.toLiquidityVestingInfo
      migrationQuoteAmountCap := p.migrationQuoteAmountCap
      collectFeeMode := p.collectFeeMode
      migrationOption := p.migrationOption
      activationType := p.activationType
      tokenType := p.tokenType
      partnerPermanentLockedLiquidityPercentage := p.partnerPermanentLockedLiquidityPercentage
      partnerLiquidityPercentage := p.partnerLiquidityPercentage
      creatorPermanentLockedLiquidityPercentage := p.creatorPermanentLockedLiquidityPercentage
      creatorLiquidityPercentage := p.creatorLiquidityPercentage
      fixedTokenSupplyFlag := fixedTokenSupplyFlag
      creatorTradingFeePercentage := p.creatorTradingFeePercentage
      tokenUpdateAuthority := p.tokenUpdateAuthority
      migrationFeePercentage := p.migrationFee.feePercentage
      creatorMigrationFeePercentage := p.migrationFee.creatorFeePercentage
      swapBaseAmount := swapBaseAmount
      migrationQuoteThreshold := p.migrationQuoteThreshold
      migrationBaseThreshold := migrationBaseAmount
      migrationSqrtPrice := migrationSqrtPrice
      lockedVestingConfig := p.lockedVesting
      preMigrationTokenSupply := preMigrationTokenSupply
      postMigrationTokenSupply := postMigrationTokenSupply
      migratedCollectFeeMode := p.migratedPoolFee.collectFeeMode
      enableFirstSwapWithMinFee := if p.enableFirstSwapWithMinFee then 1 else 0
      sqrtStartPrice := p.sqrtStartPrice
      curve := storedCurve p.curve }
  let lockedBps ← config.getTotalLiquidityLockedBpsAtNSeconds SECONDS_PER_DAY
  ensure (lockedBps ≥ MIN_LOCKED_LIQUIDITY_BPS) .invalidMigrationLockedLiquidity
  pure config

end DynamicBondingCurve
