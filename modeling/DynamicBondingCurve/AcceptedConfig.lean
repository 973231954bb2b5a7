import DynamicBondingCurve.Instructions.CreateConfig

/-!
# Accepted configurations

A configuration is accepted when it was computed by `process_create_config` from a submission
that passed its validation. `AcceptedConfig` carries that evidence as fields, so that everything
below is derived once and later results only name the fact they need.

* `AcceptedConfig.ascending`, `liquidityInRange`: the curve is a ladder of positive segments.
* `AcceptedConfig.threshold_eq_climb`: **the threshold is the rounded-up quote of the curve up to
  the migration price**.
* `AcceptedConfig.swapBaseAmount_eq_climb`: **the base sized for the sale is the rounded-up base
  of the curve up to the migration price**.
* `AcceptedConfig.initialBaseSupply_ge`: **the supply covers the sale, the migration and the
  locked vesting**.
* `AcceptedConfig.submit`: the configuration that a submission leads to, when it is accepted.
-/

namespace DynamicBondingCurve

open Library

/-! ## The ranges of the submitted integers -/

namespace ConfigParameters

variable (p : ConfigParameters)

/-- The fields of one byte.
Source: `process_create_config.rs` `ConfigParameters`, the types of its fields -/
def u8Fields : List ℕ :=
  [p.poolFees.baseFee.baseFeeMode, p.collectFeeMode, p.migrationOption, p.activationType,
    p.tokenType, p.tokenDecimal, p.partnerLiquidityPercentage,
    p.partnerPermanentLockedLiquidityPercentage, p.creatorLiquidityPercentage,
    p.creatorPermanentLockedLiquidityPercentage, p.migrationFeeOption,
    p.creatorTradingFeePercentage, p.tokenUpdateAuthority, p.migrationFee.feePercentage,
    p.migrationFee.creatorFeePercentage, p.migratedPoolFee.collectFeeMode,
    p.migratedPoolFee.dynamicFee, p.partnerLiquidityVestingInfo.vestingPercentage,
    p.creatorLiquidityVestingInfo.vestingPercentage, p.migratedPoolBaseFeeMode]

/-- The fields of two bytes.
Source: `process_create_config.rs` `ConfigParameters`, the types of its fields -/
def u16Fields : List ℕ :=
  [p.poolFees.baseFee.firstFactor, p.migratedPoolFee.poolFeeBps,
    p.partnerLiquidityVestingInfo.bpsPerPeriod, p.partnerLiquidityVestingInfo.numberOfPeriods,
    p.creatorLiquidityVestingInfo.bpsPerPeriod, p.creatorLiquidityVestingInfo.numberOfPeriods,
    p.migratedPoolMarketCapFeeSchedulerParams.numberOfPeriod,
    p.migratedPoolMarketCapFeeSchedulerParams.sqrtPriceStepBps, p.compoundingFeeBps] ++
  (p.poolFees.dynamicFee.map fun d =>
    [d.binStep, d.filterPeriod, d.decayPeriod, d.reductionFactor]).getD []

/-- The fields of four bytes.
Source: `process_create_config.rs` `ConfigParameters`, the types of its fields -/
def u32Fields : List ℕ :=
  [p.partnerLiquidityVestingInfo.cliffDurationFromMigrationTime,
    p.partnerLiquidityVestingInfo.frequency,
    p.creatorLiquidityVestingInfo.cliffDurationFromMigrationTime,
    p.creatorLiquidityVestingInfo.frequency,
    p.migratedPoolMarketCapFeeSchedulerParams.schedulerExpirationDuration] ++
  (p.poolFees.dynamicFee.map fun d =>
    [d.maxVolatilityAccumulator, d.variableFeeControl]).getD []

/-- The fields of eight bytes.
Source: `process_create_config.rs` `ConfigParameters`, the types of its fields -/
def u64Fields : List ℕ :=
  [p.poolFees.baseFee.cliffFeeNumerator, p.poolFees.baseFee.secondFactor,
    p.poolFees.baseFee.thirdFactor, p.migrationQuoteThreshold, p.migrationQuoteAmountCap,
    p.lockedVesting.amountPerPeriod, p.lockedVesting.cliffDurationFromMigrationTime,
    p.lockedVesting.frequency, p.lockedVesting.numberOfPeriod,
    p.lockedVesting.cliffUnlockAmount, p.poolCreationFee,
    p.migratedPoolMarketCapFeeSchedulerParams.reductionFactor] ++
  (p.tokenSupply.map fun s => [s.preMigrationTokenSupply, s.postMigrationTokenSupply]).getD []

/-- The fields of sixteen bytes.
Source: `process_create_config.rs` `ConfigParameters`, the types of its fields -/
def u128Fields : List ℕ :=
  p.sqrtStartPrice :: (p.poolFees.dynamicFee.map fun d => [d.binStepU128]).getD [] ++
    p.curve.flatMap fun point => [point.sqrtPrice, point.liquidity]

/-- Every field is in the range of its integer type.
Source: `process_create_config.rs` `ConfigParameters`, the types of its fields -/
def InRange : Prop :=
  (∀ n ∈ p.u8Fields, n < 2 ^ 8) ∧ (∀ n ∈ p.u16Fields, n < 2 ^ 16) ∧
    (∀ n ∈ p.u32Fields, n < 2 ^ 32) ∧ (∀ n ∈ p.u64Fields, n < 2 ^ 64) ∧
      ∀ n ∈ p.u128Fields, n < 2 ^ 128

/-- Whether the fields fit their types is decided field by field. -/
instance : Decidable p.InRange := by
  unfold InRange
  exact inferInstance

end ConfigParameters

/-- A configuration with the submission it was computed from.
Source: `instructions/partner/create_config/process_create_config.rs`, `validate` and then
`process_create_config` -/
structure AcceptedConfig where
  params : ConfigParameters
  quoteMint : QuoteMint
  timestamp : ℕ
  isTransferHook : Bool
  feeClaimer : Pubkey
  leftoverReceiver : Pubkey
  config : PoolConfig
  inRange : params.InRange
  validated : params.validate quoteMint timestamp isTransferHook = .ok ()
  created : processCreateConfig params quoteMint feeClaimer leftoverReceiver = .ok config

/-! ## The curve -/

section Curve

/-- The loop accepts a curve only if its prices ascend and no liquidity is zero; its last price is
the top of the ladder. -/
theorem validateCurveLoop_spec : ∀ {first : LiquidityDistributionParameters}
    {rest : List LiquidityDistributionParameters}, validateCurveLoop first rest = .ok () →
      Ascending first.sqrtPrice (rungs rest) ∧ (∀ point ∈ rest, 0 < point.liquidity) ∧
        ladderTop first.sqrtPrice (rungs rest) = (rest.getLastD first).sqrtPrice
  | first, [], _ => ⟨trivial, fun _ h => absurd h List.not_mem_nil, rfl⟩
  | first, point :: rest, h => by
      simp only [validateCurveLoop, bind_eq_ok, exists_unit, require_eq_ok] at h
      obtain ⟨⟨hprice, hliq⟩, hrest⟩ := h
      obtain ⟨hasc, hpos, htop⟩ := validateCurveLoop_spec hrest
      refine ⟨⟨hprice, hasc⟩, ?_, ?_⟩
      · intro q hq
        rcases List.mem_cons.mp hq with rfl | hmem
        · exact hliq
        · exact hpos q hmem
      · rw [rungs_cons, ladderTop, htop, List.getLastD_cons]

/-- What the checks on the curve establish.
Source: `process_create_config.rs` `ConfigParameters::validate`, from the comment "validate price
and liquidity" -/
theorem validateCurve_spec {start : ℕ} {curve : List LiquidityDistributionParameters}
    (h : validateCurve start curve = .ok ()) :
    MIN_SQRT_PRICE ≤ start ∧ start < MAX_SQRT_PRICE ∧ curve.length ≤ MAX_CURVE_POINT ∧
      Ascending start (rungs curve) ∧ (∀ point ∈ curve, 0 < point.liquidity) ∧
        ladderTop start (rungs curve) ≤ MAX_SQRT_PRICE := by
  simp only [validateCurve, bind_eq_ok, exists_unit, require_eq_ok] at h
  obtain ⟨⟨hmin, hmax⟩, ⟨_, hlen⟩, h⟩ := h
  cases curve with
  | nil => simp at h
  | cons first rest =>
    simp only [bind_eq_ok, exists_unit, require_eq_ok] at h
    obtain ⟨⟨hprice, hliq, _⟩, hloop, hlast⟩ := h
    obtain ⟨hasc, hpos, htop⟩ := validateCurveLoop_spec hloop
    refine ⟨hmin, hmax, hlen, ⟨hprice, hasc⟩, ?_, ?_⟩
    · intro q hq
      rcases List.mem_cons.mp hq with rfl | hmem
      · exact hliq
      · exact hpos q hmem
    · rw [rungs_cons, ladderTop, htop]
      exact hlast

end Curve

namespace ConfigParameters

variable {p : ConfigParameters} {quoteMint : QuoteMint} {timestamp : ℕ} {isTransferHook : Bool}

/-- What the validation establishes about the numbers of a submission.
Source: `process_create_config.rs` `ConfigParameters::validate` -/
structure Validated (p : ConfigParameters) : Prop where
  poolFees : ∃ activationType, p.poolFees.validate p.collectFeeMode activationType = .ok ()
  creatorTradingFeePercentage_eq : p.creatorTradingFeePercentage = 0
  feePercentage_eq : p.migrationFee.feePercentage = 0
  creatorFeePercentage_eq : p.migrationFee.creatorFeePercentage = 0
  collectFeeMode : ∃ mode, CollectFeeMode.tryFrom p.collectFeeMode = some mode
  migratedPoolFee : MigrationOption.tryFrom p.migrationOption = some .dammV2 →
    MigrationFeeOption.tryFrom p.migrationFeeOption = some .customizable →
      p.migratedPoolFeeValidator.validate = .ok ()
  liquidityPercentages : p.partnerLiquidityPercentage +
    p.partnerPermanentLockedLiquidityPercentage + p.creatorLiquidityPercentage +
      p.creatorPermanentLockedLiquidityPercentage +
        p.partnerLiquidityVestingInfo.vestingPercentage +
          p.creatorLiquidityVestingInfo.vestingPercentage = 100
  threshold_pos : 0 < p.migrationQuoteThreshold
  cap_le : p.migrationQuoteAmountCap ≤ p.migrationQuoteThreshold
  lockedVesting : p.lockedVesting.validate = .ok ()
  poolCreationFee_le : p.poolCreationFee ≤ MAX_POOL_CREATION_FEE
  curve : validateCurve p.sqrtStartPrice p.curve = .ok ()

/-- A submission that passes the validation has these properties.
Source: `process_create_config.rs` `ConfigParameters::validate` -/
theorem validate_spec (h : p.validate quoteMint timestamp isTransferHook = .ok ()) :
    p.Validated := by
  simp only [validate, bind_eq_ok, exists_unit, require_eq_ok, orThrow_eq_ok, safeAdd_eq_ok] at h
  obtain ⟨_, _, _, activationType, _, hfees, htrading, hfee, hzero, hmode, option, hoption,
    feeOption, hfeeOption, _, _, hmigration, _, _, _, _, _, ⟨_, rfl⟩, _, ⟨_, rfl⟩, _, ⟨_, rfl⟩, _,
    ⟨_, rfl⟩, _, ⟨_, rfl⟩, hsum, hthreshold, hcap, hvesting, hcreation, hcurve⟩ := h
  refine ⟨⟨activationType, hfees⟩, htrading, hzero, ?_, Option.isSome_iff_exists.mp hmode, ?_, hsum,
    hthreshold, ?_, hvesting, ?_, hcurve⟩
  · simp only [MigrationFee.validate, bind_eq_ok, exists_unit, if_pos hzero, require_eq_ok] at hfee
    exact hfee.2
  · intro hdammV2 hcustomizable
    obtain rfl := Option.some.inj (hoption.symm.trans hdammV2)
    obtain rfl := Option.some.inj (hfeeOption.symm.trans hcustomizable)
    simp only [validateMigrationOption, if_true, bind_eq_ok, exists_unit] at hmigration
    exact hmigration.1
  · split_ifs at hcap with hpos
    · simp only [bind_eq_ok, exists_unit, require_eq_ok] at hcap
      exact hcap.1
    · omega
  · split_ifs at hcreation with hpos
    · rw [require_eq_ok] at hcreation
      exact hcreation.2
    · omega

end ConfigParameters

/-! ## What the computation of the configuration establishes -/

/-- The liquidity of a point of the curve fits its type. -/
theorem InRange.liquidity_lt {p : ConfigParameters} (h : p.InRange)
    {point : LiquidityDistributionParameters} (hmem : point ∈ p.curve) :
    point.liquidity < 2 ^ 128 := by
  refine h.2.2.2.2 _ ?_
  refine List.mem_append_right _ (List.mem_flatMap.mpr ⟨point, hmem, ?_⟩)
  exact List.mem_cons_of_mem _ List.mem_cons_self

/-- The threshold fits its type. -/
theorem InRange.threshold_lt {p : ConfigParameters} (h : p.InRange) :
    p.migrationQuoteThreshold < 2 ^ 64 := by
  refine h.2.2.2.1 _ ?_
  simp [ConfigParameters.u64Fields]

/-- What the configuration stores, as computed from the submission.
Source: `process_create_config.rs` `process_create_config` -/
structure Created (p : ConfigParameters) (c : PoolConfig) : Prop where
  migrationSqrtPrice : getMigrationThresholdPrice p.migrationQuoteThreshold p.sqrtStartPrice
    p.curve = .ok c.migrationSqrtPrice
  migrationSqrtPrice_lt : c.migrationSqrtPrice < MAX_SQRT_PRICE
  swapBaseAmount : getBaseTokenForSwap p.sqrtStartPrice c.migrationSqrtPrice p.curve =
    .ok c.swapBaseAmount
  swapBaseAmount_lt : c.swapBaseAmount < 2 ^ 64
  deposit : ∃ option mode quote, MigrationOption.tryFrom p.migrationOption = some option ∧
    MigratedCollectFeeMode.tryFrom p.migratedPoolFee.collectFeeMode = some mode ∧
    (getMigrationHandler option mode c.migrationSqrtPrice).getIncludedProtocolFeeMigrationAmounts1
      (getEffectiveMigrationQuoteAmountCap p.migrationQuoteThreshold p.migrationQuoteAmountCap)
      p.migrationFee.feePercentage = .ok (c.migrationBaseThreshold, quote)
  supply : ∃ receiver, resolveTokenSupply p c.swapBaseAmount c.migrationBaseThreshold receiver =
    .ok (c.fixedTokenSupplyFlag, c.preMigrationTokenSupply, c.postMigrationTokenSupply)
  lockedBps : ∃ bps, c.getTotalLiquidityLockedBpsAtNSeconds SECONDS_PER_DAY = .ok bps ∧
    MIN_LOCKED_LIQUIDITY_BPS ≤ bps
  poolFees_eq : c.poolFees = p.poolFees.toPoolFeesConfig
  collectFeeMode_eq : c.collectFeeMode = p.collectFeeMode
  partnerLiquidityVestingInfo_eq :
    c.partnerLiquidityVestingInfo = p.partnerLiquidityVestingInfo.toLiquidityVestingInfo
  creatorLiquidityVestingInfo_eq :
    c.creatorLiquidityVestingInfo = p.creatorLiquidityVestingInfo.toLiquidityVestingInfo
  partnerPermanentLocked_eq :
    c.partnerPermanentLockedLiquidityPercentage = p.partnerPermanentLockedLiquidityPercentage
  creatorPermanentLocked_eq :
    c.creatorPermanentLockedLiquidityPercentage = p.creatorPermanentLockedLiquidityPercentage
  partnerLiquidity_eq : c.partnerLiquidityPercentage = p.partnerLiquidityPercentage
  sqrtStartPrice_eq : c.sqrtStartPrice = p.sqrtStartPrice
  curve_eq : c.curve = storedCurve p.curve
  threshold_eq : c.migrationQuoteThreshold = p.migrationQuoteThreshold
  cap_eq : c.migrationQuoteAmountCap = p.migrationQuoteAmountCap
  lockedVesting_eq : c.lockedVestingConfig = p.lockedVesting
  feePercentage_eq : c.migrationFeePercentage = p.migrationFee.feePercentage
  creatorFeePercentage_eq : c.creatorMigrationFeePercentage = p.migrationFee.creatorFeePercentage
  creatorTradingFeePercentage_eq : c.creatorTradingFeePercentage = p.creatorTradingFeePercentage
  migrationOption_eq : c.migrationOption = p.migrationOption
  migratedCollectFeeMode_eq : c.migratedCollectFeeMode = p.migratedPoolFee.collectFeeMode

/-- A configuration that is computed stores these values.
Source: `process_create_config.rs` `process_create_config` -/
theorem processCreateConfig_spec {p : ConfigParameters} {quoteMint : QuoteMint}
    {feeClaimer leftoverReceiver : Pubkey} {c : PoolConfig}
    (h : processCreateConfig p quoteMint feeClaimer leftoverReceiver = .ok c) : Created p c := by
  simp only [processCreateConfig, bind_eq_ok, exists_unit, require_eq_ok, orThrow_eq_ok,
    safeCast_eq_ok, pure_eq_ok] at h
  obtain ⟨price, hprice, hlt, swap, hswap, _, ⟨hfit, rfl⟩, option, hoption, mode, hmode,
    ⟨base, quote⟩, hdeposit, _, _, ⟨flag, pre, post⟩, hsupply, _, bps, hbps, hmin, rfl⟩ := h
  exact
    { migrationSqrtPrice := hprice
      migrationSqrtPrice_lt := hlt
      swapBaseAmount := hswap
      swapBaseAmount_lt := hfit
      deposit := ⟨option, mode, quote, hoption, hmode, hdeposit⟩
      supply := ⟨leftoverReceiver, hsupply⟩
      lockedBps := ⟨bps, hbps, hmin⟩
      poolFees_eq := rfl
      collectFeeMode_eq := rfl
      partnerLiquidityVestingInfo_eq := rfl
      creatorLiquidityVestingInfo_eq := rfl
      partnerPermanentLocked_eq := rfl
      creatorPermanentLocked_eq := rfl
      partnerLiquidity_eq := rfl
      sqrtStartPrice_eq := rfl
      curve_eq := rfl
      threshold_eq := rfl
      cap_eq := rfl
      lockedVesting_eq := rfl
      feePercentage_eq := rfl
      creatorFeePercentage_eq := rfl
      creatorTradingFeePercentage_eq := rfl
      migrationOption_eq := rfl
      migratedCollectFeeMode_eq := rfl }

namespace AcceptedConfig

variable (a : AcceptedConfig)

/-- The rungs of the curve, from the start price.
Source: `state/config.rs` `PoolConfig`, the comment on `curve` -/
abbrev ladder : List (ℕ × ℕ) := rungs a.params.curve

/-- What an accepted configuration submitted has passed its validation.
Source: `process_create_config.rs` `ConfigParameters::validate` -/
theorem paramsValidated : a.params.Validated := ConfigParameters.validate_spec a.validated

/-- What an accepted configuration stores was created from what was submitted.
Source: `process_create_config.rs` `process_create_config` -/
theorem paramsCreated : Created a.params a.config := processCreateConfig_spec a.created

/-- The prices of the curve ascend from the start price on.
Source: `process_create_config.rs` `ConfigParameters::validate` -/
theorem ascending : Ascending a.config.sqrtStartPrice a.ladder := by
  rw [a.paramsCreated.sqrtStartPrice_eq]
  exact (validateCurve_spec a.paramsValidated.curve).2.2.2.1

/-- Every liquidity of the curve is positive and fits its type.
Source: `process_create_config.rs` `ConfigParameters::validate` -/
theorem liquidityInRange : LiquidityInRange a.params.curve := fun point hmem =>
  ⟨(validateCurve_spec a.paramsValidated.curve).2.2.2.2.1 point hmem,
    InRange.liquidity_lt a.inRange hmem⟩

/-- The curve has a first point.
Source: `process_create_config.rs` `ConfigParameters::validate` -/
theorem curve_eq_cons : ∃ first rest, a.params.curve = first :: rest := by
  have hcurve := a.paramsValidated.curve
  cases hc : a.params.curve with
  | nil => simp [hc, validateCurve, bind_eq_ok, require_eq_ok] at hcurve
  | cons first rest => exact ⟨first, rest, rfl⟩

/-- The start price is not below the lowest price.
Source: `process_create_config.rs` `ConfigParameters::validate` -/
theorem sqrtStartPrice_ge : MIN_SQRT_PRICE ≤ a.config.sqrtStartPrice := by
  rw [a.paramsCreated.sqrtStartPrice_eq]
  exact (validateCurve_spec a.paramsValidated.curve).1

/-- The start price is positive. -/
theorem sqrtStartPrice_pos : 0 < a.config.sqrtStartPrice :=
  lt_of_lt_of_le (by norm_num [MIN_SQRT_PRICE]) a.sqrtStartPrice_ge

/-- The curve does not go above the highest price.
Source: `process_create_config.rs` `ConfigParameters::validate` -/
theorem ladderTop_le : ladderTop a.config.sqrtStartPrice a.ladder ≤ MAX_SQRT_PRICE := by
  rw [a.paramsCreated.sqrtStartPrice_eq]
  exact (validateCurve_spec a.paramsValidated.curve).2.2.2.2.2

/-- The migration price is not below the start price.
Source: `params/liquidity_distribution.rs` `get_migration_threshold_price` -/
theorem sqrtStartPrice_le_migration :
    a.config.sqrtStartPrice ≤ a.config.migrationSqrtPrice := by
  have hasc := a.ascending
  rw [a.paramsCreated.sqrtStartPrice_eq] at hasc ⊢
  exact (getMigrationThresholdPrice_spec hasc a.liquidityInRange
    a.paramsCreated.migrationSqrtPrice).1

/-- The migration price is on the curve.
Source: `params/liquidity_distribution.rs` `get_migration_threshold_price` -/
theorem migration_le_ladderTop :
    a.config.migrationSqrtPrice ≤ ladderTop a.config.sqrtStartPrice a.ladder := by
  have hasc := a.ascending
  rw [a.paramsCreated.sqrtStartPrice_eq] at hasc ⊢
  exact (getMigrationThresholdPrice_spec hasc a.liquidityInRange
    a.paramsCreated.migrationSqrtPrice).2.1

/-- **The threshold is the rounded-up quote of the curve up to the migration price.**
Source: `params/liquidity_distribution.rs` `get_migration_threshold_price` -/
theorem threshold_eq_climb :
    climb quoteUp a.config.sqrtStartPrice a.ladder a.config.migrationSqrtPrice =
      a.config.migrationQuoteThreshold := by
  have hasc := a.ascending
  rw [a.paramsCreated.threshold_eq]
  rw [a.paramsCreated.sqrtStartPrice_eq] at hasc ⊢
  exact (getMigrationThresholdPrice_spec hasc a.liquidityInRange
    a.paramsCreated.migrationSqrtPrice).2.2

/-- **The base sized for the sale is the rounded-up base of the curve up to the migration
price.**
Source: `params/liquidity_distribution.rs` `get_base_token_for_swap` -/
theorem swapBaseAmount_eq_climb :
    a.config.swapBaseAmount =
      climb baseUp a.config.sqrtStartPrice a.ladder a.config.migrationSqrtPrice := by
  have hasc := a.ascending
  have hle := a.sqrtStartPrice_le_migration
  rw [a.paramsCreated.sqrtStartPrice_eq] at hasc hle ⊢
  exact getBaseTokenForSwap_eq_climb hasc hle a.paramsCreated.swapBaseAmount

/-- The base sized for the sale fits its type.
Source: `process_create_config.rs` `process_create_config`, the conversion of the swap base
amount -/
theorem swapBaseAmount_lt : a.config.swapBaseAmount < 2 ^ 64 :=
  a.paramsCreated.swapBaseAmount_lt

/-- The migration price fits its type.
Source: `process_create_config.rs` `process_create_config` -/
theorem migrationSqrtPrice_lt : a.config.migrationSqrtPrice < 2 ^ 128 :=
  a.paramsCreated.migrationSqrtPrice_lt.trans (by norm_num [MAX_SQRT_PRICE])

/-- The last price of the curve fits its type.
Source: `process_create_config.rs` `ConfigParameters::validate` -/
theorem ladderTop_lt : ladderTop a.config.sqrtStartPrice a.ladder < 2 ^ 128 :=
  a.ladderTop_le.trans_lt (by norm_num [MAX_SQRT_PRICE])

/-- The threshold of an accepted configuration fits its type.
Source: `process_create_config.rs` `ConfigParameters`, the type of `migration_quote_threshold` -/
theorem threshold_lt : a.config.migrationQuoteThreshold < 2 ^ 64 := by
  rw [a.paramsCreated.threshold_eq]
  exact InRange.threshold_lt a.inRange

/-- The threshold is positive.
Source: `process_create_config.rs` `ConfigParameters::validate` -/
theorem threshold_pos : 0 < a.config.migrationQuoteThreshold := by
  rw [a.paramsCreated.threshold_eq]
  exact a.paramsValidated.threshold_pos

/-- The cap on the migrated quote is at most the threshold.
Source: `process_create_config.rs` `ConfigParameters::validate` -/
theorem cap_le : a.config.getMigrationQuoteAmountCap ≤ a.config.migrationQuoteThreshold := by
  have hcap : a.config.migrationQuoteAmountCap ≤ a.config.migrationQuoteThreshold := by
    rw [a.paramsCreated.threshold_eq, a.paramsCreated.cap_eq]
    exact a.paramsValidated.cap_le
  unfold PoolConfig.getMigrationQuoteAmountCap getEffectiveMigrationQuoteAmountCap
  split_ifs <;> omega

/-- The cap on the migrated quote is positive.
Source: `state/config.rs` `get_effective_migration_quote_amount_cap` -/
theorem cap_pos : 0 < a.config.getMigrationQuoteAmountCap := by
  have hthreshold := a.threshold_pos
  unfold PoolConfig.getMigrationQuoteAmountCap getEffectiveMigrationQuoteAmountCap
  split_ifs with hcap
  · exact hcap
  · exact hthreshold

/-- An accepted configuration has no migration fee.
Source: `process_create_config.rs` `ConfigParameters::validate` -/
theorem migrationFeePercentage_eq : a.config.migrationFeePercentage = 0 := by
  rw [a.paramsCreated.feePercentage_eq]
  exact a.paramsValidated.feePercentage_eq

/-! ## The supply -/

/-- The points of a curve end where the empty places begin.
Source: `state/config.rs` `get_initial_base_supply`, the loop -/
theorem takeWhile_storedCurve {curve : List LiquidityDistributionParameters} (n : ℕ)
    (h : ∀ point ∈ curve, point.liquidity ≠ 0) :
    (((curve.map LiquidityDistributionParameters.toLiquidityDistributionConfig ++
      List.replicate n ({ sqrtPrice := 0, liquidity := 0 } : LiquidityDistributionConfig)).takeWhile
        fun point => point.liquidity ≠ 0).map
          LiquidityDistributionConfig.toLiquidityDistributionParameters) = curve := by
  induction curve with
  | nil => cases n <;> simp [List.replicate_succ]
  | cons point rest ih =>
    have hne := h point List.mem_cons_self
    have hrest := ih fun q hq => h q (List.mem_cons_of_mem _ hq)
    simp only [List.map_cons, List.cons_append]
    have hkeep : point.toLiquidityDistributionConfig.liquidity ≠ 0 := hne
    rw [List.takeWhile_cons, if_pos (decide_eq_true hkeep), List.map_cons, hrest]
    rfl

/-- The points read back from the stored curve are the points submitted.
Source: `state/config.rs` `get_initial_base_supply`, the loop -/
theorem curveParameters_eq : a.config.curveParameters = a.params.curve := by
  unfold PoolConfig.curveParameters
  rw [a.paramsCreated.curve_eq]
  exact takeWhile_storedCurve _ fun point hmem => (a.liquidityInRange point hmem).1.ne'

/-- The buffer only adds to the base sized for the sale.
Source: `state/config.rs` `get_swap_amount_with_buffer` -/
theorem getSwapAmountWithBuffer_ge {amount : ℕ}
    (h : getSwapAmountWithBuffer a.config.swapBaseAmount a.config.sqrtStartPrice a.params.curve =
      .ok amount) : a.config.swapBaseAmount ≤ amount := by
  simp only [getSwapAmountWithBuffer, bind_eq_ok, exists_unit, require_eq_ok, safeAdd_eq_ok,
    pure_eq_ok] at h
  obtain ⟨_, _, buffer, _, _, ⟨_, rfl⟩, whole, hwhole, _, rfl⟩ := h
  have hasc := a.ascending
  have hstart := a.sqrtStartPrice_le_migration
  have hmax := a.paramsCreated.migrationSqrtPrice_lt.le
  have hle : a.config.swapBaseAmount ≤ whole := by
    rw [getBaseTokenForSwap_eq_climb hasc (hstart.trans hmax) hwhole, a.swapBaseAmount_eq_climb]
    exact climb_mono baseUp_self (fun _ _ _ _ => Nat.zero_le _)
      (fun w _ _ _ hxy hyz => baseUp_mono w hxy hyz) hasc hstart hmax
  split_ifs
  · exact Nat.le_add_left _ _
  · exact hle

/-- A total that fits covers its parts.
Source: `state/config.rs` `get_total_token_supply` -/
theorem getTotalTokenSupply_spec {swap migration total : ℕ} {vesting : LockedVestingParams}
    (h : getTotalTokenSupply swap migration vesting = .ok total) :
    ∃ locked, vesting.getTotalAmount = .ok locked ∧ total = swap + migration + locked ∧
      total < 2 ^ 64 := by
  simp only [getTotalTokenSupply, bind_eq_ok, safeAdd_eq_ok] at h
  obtain ⟨_, ⟨_, rfl⟩, locked, hlocked, hlt, rfl⟩ := h
  exact ⟨locked, hlocked, rfl, hlt⟩

/-- **The supply covers the sale, the migration and the locked vesting.**
Source: `state/config.rs` `get_initial_base_supply`; `process_create_config.rs`
`process_create_config`, the checks of a supply fixed in advance -/
theorem initialBaseSupply_ge {supply : ℕ} (h : a.config.getInitialBaseSupply = .ok supply) :
    ∃ locked, a.config.lockedVestingConfig.getTotalAmount = .ok locked ∧
      a.config.swapBaseAmount + a.config.migrationBaseThreshold + locked ≤ supply ∧
      supply < 2 ^ 64 := by
  obtain ⟨receiver, hsupply⟩ := a.paramsCreated.supply
  unfold PoolConfig.getInitialBaseSupply at h
  unfold resolveTokenSupply at hsupply
  cases hfixed : a.params.tokenSupply with
  | none =>
    rw [hfixed] at hsupply
    simp only [pure_eq_ok, Prod.mk.injEq] at hsupply
    obtain ⟨hflag, -, -⟩ := hsupply
    rw [if_neg (by simp [PoolConfig.isFixedTokenSupply, ← hflag]), a.curveParameters_eq] at h
    simp only [bind_eq_ok] at h
    obtain ⟨amount, hamount, htotal⟩ := h
    obtain ⟨locked, hlocked, rfl, hlt⟩ := getTotalTokenSupply_spec htotal
    have hle := a.getSwapAmountWithBuffer_ge hamount
    exact ⟨locked, hlocked, by omega, hlt⟩
  | some fixed =>
    rw [hfixed] at hsupply
    simp only [bind_eq_ok, exists_unit, require_eq_ok, pure_eq_ok, Prod.mk.injEq] at hsupply
    obtain ⟨amount, hamount, total, htotal, _, _, _, ⟨_, _, hle⟩, hflag, hpre, -⟩ := hsupply
    rw [if_pos (by simp [PoolConfig.isFixedTokenSupply, ← hflag]), pure_eq_ok] at h
    subst h
    rw [← a.paramsCreated.sqrtStartPrice_eq] at hamount
    obtain ⟨locked, hlocked, rfl, _⟩ := getTotalTokenSupply_spec htotal
    have hge := a.getSwapAmountWithBuffer_ge hamount
    rw [← a.paramsCreated.lockedVesting_eq] at hlocked
    refine ⟨locked, hlocked, by omega, ?_⟩
    rw [← hpre]
    refine a.inRange.2.2.2.1 _ ?_
    simp [ConfigParameters.u64Fields, hfixed]

/-! ## Submissions -/

/-- The configuration that a submission leads to, when it is accepted.
Source: `instructions/partner/create_config/process_create_config.rs`, `validate` and then
`process_create_config` -/
def submit (params : ConfigParameters) (quoteMint : QuoteMint) (timestamp : ℕ)
    (isTransferHook : Bool) (feeClaimer leftoverReceiver : Pubkey) : Option AcceptedConfig :=
  if h : params.InRange ∧ params.validate quoteMint timestamp isTransferHook = .ok () then
    match hcreated : processCreateConfig params quoteMint feeClaimer leftoverReceiver with
    | .ok config => some
        { params := params
          quoteMint := quoteMint
          timestamp := timestamp
          isTransferHook := isTransferHook
          feeClaimer := feeClaimer
          leftoverReceiver := leftoverReceiver
          config := config
          inRange := h.1
          validated := h.2
          created := hcreated }
    | .error _ => none
  else none

end AcceptedConfig

end DynamicBondingCurve
