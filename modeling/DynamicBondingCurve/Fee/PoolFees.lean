import DynamicBondingCurve.Fee.BaseFee

/-!
# Trading fees of a pool

The base fee and the dynamic fee together, how a fee is split between trading, protocol and
referral, and on which token it falls.

* `VolatilityTracker`, `DynamicFeeConfig`: the dynamic fee.
* `PoolFeesConfig`: the total fee numerator; `getFeeOnAmount_spec` and `splitFees_spec`: **a fee is
  split without loss, and without a referral account nothing goes to one**.
* `FeeMode`: which side and which token a fee is taken on.
* `PoolFeeParameters`: the fees a configuration is created with, and their validation.
-/

namespace DynamicBondingCurve

open Library

/-! ## Parameters -/

/-- The base fee as it is submitted and stored.
Source: `params/fee_parameters.rs` `BaseFeeParameters`; `state/config.rs` `BaseFeeConfig`, which
stores the same fields -/
structure BaseFeeConfig where
  cliffFeeNumerator : ℕ
  firstFactor : ℕ
  secondFactor : ℕ
  thirdFactor : ℕ
  baseFeeMode : ℕ
  deriving DecidableEq, Repr, Inhabited

namespace BaseFeeConfig

variable (c : BaseFeeConfig)

/-- The base fee of a configuration, as one of the two kinds.
Source: `state/config.rs` `get_base_fee_handler` -/
def getBaseFeeHandler : Result BaseFeeHandler :=
  DynamicBondingCurve.getBaseFeeHandler c.cliffFeeNumerator c.firstFactor c.secondFactor
    c.thirdFactor c.baseFeeMode

/-- The base fee of a configuration that is a limiter, as one.
Source: `state/config.rs` `get_fee_rate_limiter` -/
def getFeeRateLimiter : Result FeeRateLimiter := do
  let mode ← orThrow (BaseFeeMode.tryFrom c.baseFeeMode) (Fault.error .invalidBaseFeeMode)
  if mode = .rateLimiter then
    pure
      { cliffFeeNumerator := c.cliffFeeNumerator
        referenceAmount := c.thirdFactor
        maxLimiterDuration := c.secondFactor
        feeIncrementBps := c.firstFactor }
  else fail .invalidFeeRateLimiter

/-- The checks of a base fee that is submitted.
Source: `params/fee_parameters.rs` `BaseFeeParameters::validate` -/
def validate (collectFeeMode : ℕ) (activationType : ActivationType) : Result Unit := do
  let handler ← c.getBaseFeeHandler
  handler.validate collectFeeMode activationType

/-- The lowest base fee of a configuration is not below the lowest fee.
Source: `state/config.rs` `validate_min_base_fee` -/
def validateMinBaseFee : Result Unit := do
  let handler ← c.getBaseFeeHandler
  handler.validateMinBaseFee

end BaseFeeConfig

/-- The dynamic fee as it is submitted.
Source: `params/fee_parameters.rs` `DynamicFeeParameters` -/
structure DynamicFeeParameters where
  binStep : ℕ
  binStepU128 : ℕ
  filterPeriod : ℕ
  decayPeriod : ℕ
  reductionFactor : ℕ
  maxVolatilityAccumulator : ℕ
  variableFeeControl : ℕ
  deriving DecidableEq, Repr, Inhabited

/-- The checks of a dynamic fee that is submitted.
Source: `params/fee_parameters.rs` `DynamicFeeParameters::validate` -/
def DynamicFeeParameters.validate (p : DynamicFeeParameters) : Result Unit := do
  ensure (p.binStep = BIN_STEP_BPS_DEFAULT) .invalidInput
  ensure (p.binStepU128 = BIN_STEP_BPS_U128_DEFAULT) .invalidInput
  ensure (p.filterPeriod < p.decayPeriod) .invalidInput
  ensure (p.reductionFactor ≤ BASIS_POINT_MAX) .invalidInput
  ensure (p.variableFeeControl ≤ U24_MAX) .invalidInput
  ensure (p.maxVolatilityAccumulator ≤ U24_MAX) .invalidInput

/-- The fees of a pool as they are submitted.
Source: `params/fee_parameters.rs` `PoolFeeParameters` -/
structure PoolFeeParameters where
  baseFee : BaseFeeConfig
  dynamicFee : Option DynamicFeeParameters
  deriving DecidableEq, Repr, Inhabited

/-- The checks of the fees that are submitted.
Source: `params/fee_parameters.rs` `PoolFeeParameters::validate` -/
def PoolFeeParameters.validate (p : PoolFeeParameters) (collectFeeMode : ℕ)
    (activationType : ActivationType) : Result Unit := do
  p.baseFee.validate collectFeeMode activationType
  match p.dynamicFee with
  | some dynamicFee => dynamicFee.validate
  | none => pure ()

/-! ## The dynamic fee -/

/-- What a pool remembers of the moves of its price.
Source: `state/fee.rs` `VolatilityTracker` -/
structure VolatilityTracker where
  lastUpdateTimestamp : ℕ
  sqrtPriceReference : ℕ
  volatilityAccumulator : ℕ
  volatilityReference : ℕ
  deriving DecidableEq, Repr, Inhabited

/-- The dynamic fee as it is stored.
Source: `state/config.rs` `DynamicFeeConfig` -/
structure DynamicFeeConfig where
  initialized : ℕ
  maxVolatilityAccumulator : ℕ
  variableFeeControl : ℕ
  binStep : ℕ
  filterPeriod : ℕ
  decayPeriod : ℕ
  reductionFactor : ℕ
  binStepU128 : ℕ
  deriving DecidableEq, Repr, Inhabited

namespace DynamicFeeConfig

/-- Whether there is a dynamic fee.
Source: `state/config.rs` `is_dynamic_fee_enable` -/
def isDynamicFeeEnable (c : DynamicFeeConfig) : Bool := c.initialized ≠ 0

/-- The dynamic fee at the volatility that is tracked.
Source: `state/config.rs` `get_variable_fee_numerator` -/
def getVariableFeeNumerator (c : DynamicFeeConfig) (tracker : VolatilityTracker) : Result ℕ :=
  if ¬ c.isDynamicFeeEnable then pure 0
  else do
    let vfaBin ← safeMul 128 tracker.volatilityAccumulator c.binStep
    let squareVfaBin ← safeMul 128 vfaBin vfaBin
    let vFee ← safeMul 128 squareVfaBin c.variableFeeControl
    let shifted ← safeAdd 128 vFee 99999999999
    safeDiv shifted 100000000000

end DynamicFeeConfig

namespace VolatilityTracker

/-- How many bins apart two prices are, counted twice.
Source: `state/fee.rs` `get_delta_bin_id` -/
def getDeltaBinId (binStepU128 sqrtPriceA sqrtPriceB : ℕ) : Result ℕ := do
  let upperSqrtPrice := max sqrtPriceA sqrtPriceB
  let lowerSqrtPrice := min sqrtPriceA sqrtPriceB
  let priceRatio ← safeShlDivCast upperSqrtPrice lowerSqrtPrice 64 .down
  let excess ← safeSub priceRatio ONE_Q64
  let deltaBinId ← safeDiv excess binStepU128
  safeMul 128 deltaBinId 2

/-- The volatility grows with the distance of the price from its reference.
Source: `state/fee.rs` `update_volatility_accumulator` -/
def updateVolatilityAccumulator (t : VolatilityTracker) (config : DynamicFeeConfig)
    (sqrtPrice : ℕ) : Result VolatilityTracker := do
  let deltaPrice ← getDeltaBinId config.binStepU128 sqrtPrice t.sqrtPriceReference
  let scaled ← safeMul 128 deltaPrice BASIS_POINT_MAX
  let volatilityAccumulator ← safeAdd 128 t.volatilityReference scaled
  pure { t with
    volatilityAccumulator := min volatilityAccumulator config.maxVolatilityAccumulator }

/-- The references are renewed after the filter period, and the volatility decays.
Source: `state/fee.rs` `update_references` -/
def updateReferences (t : VolatilityTracker) (config : DynamicFeeConfig)
    (sqrtPriceCurrent currentTimestamp : ℕ) : Result VolatilityTracker :=
  let elapsed := currentTimestamp - t.lastUpdateTimestamp
  if elapsed ≥ config.filterPeriod then do
    let t := { t with sqrtPriceReference := sqrtPriceCurrent }
    if elapsed < config.decayPeriod then do
      let scaled ← safeMul 128 t.volatilityAccumulator config.reductionFactor
      let volatilityReference ← safeDiv scaled BASIS_POINT_MAX
      pure { t with volatilityReference := volatilityReference }
    else pure { t with volatilityReference := 0 }
  else pure t

end VolatilityTracker

/-! ## The total fee and its split -/

/-- The fees of a pool as they are stored.
Source: `state/config.rs` `PoolFeesConfig` -/
structure PoolFeesConfig where
  baseFee : BaseFeeConfig
  dynamicFee : DynamicFeeConfig
  deriving DecidableEq, Repr, Inhabited

/-- A dynamic fee is stored as it was submitted.
Source: `params/fee_parameters.rs` `to_dynamic_fee_config` -/
def DynamicFeeParameters.toDynamicFeeConfig (p : DynamicFeeParameters) : DynamicFeeConfig :=
  { initialized := 1
    maxVolatilityAccumulator := p.maxVolatilityAccumulator
    variableFeeControl := p.variableFeeControl
    binStep := p.binStep
    filterPeriod := p.filterPeriod
    decayPeriod := p.decayPeriod
    reductionFactor := p.reductionFactor
    binStepU128 := p.binStepU128 }

/-- The fees of a pool are stored as they were submitted.
Source: `params/fee_parameters.rs` `to_pool_fees_config` -/
def PoolFeeParameters.toPoolFeesConfig (p : PoolFeeParameters) : PoolFeesConfig :=
  match p.dynamicFee with
  | some dynamicFee => { baseFee := p.baseFee, dynamicFee := dynamicFee.toDynamicFeeConfig }
  | none => { baseFee := p.baseFee, dynamicFee := default }

/-- A fee taken out of an amount, and its parts.
Source: `state/fee.rs` `FeeOnAmountResult` -/
structure FeeOnAmountResult where
  amount : ℕ
  tradingFee : ℕ
  protocolFee : ℕ
  referralFee : ℕ
  deriving DecidableEq, Repr

namespace PoolFeesConfig

variable (c : PoolFeesConfig)

/-- The base fee and the dynamic fee together, up to the highest.
Source: `state/config.rs` `get_total_fee_numerator` -/
def getTotalFeeNumerator (baseFeeNumerator : ℕ) (tracker : VolatilityTracker) : Result ℕ := do
  let variableFeeNumerator ← c.dynamicFee.getVariableFeeNumerator tracker
  let totalFeeNumerator ← safeAdd 128 variableFeeNumerator baseFeeNumerator
  pure (if totalFeeNumerator > MAX_FEE_NUMERATOR then MAX_FEE_NUMERATOR else totalFeeNumerator)

/-- The whole fee of an amount that contains it.
Source: `state/config.rs` `get_total_fee_numerator_from_included_fee_amount` -/
def getTotalFeeNumeratorFromIncludedFeeAmount (tracker : VolatilityTracker)
    (currentPoint activationPoint includedFeeAmount : ℕ) (tradeDirection : TradeDirection) :
    Result ℕ := do
  let handler ← c.baseFee.getBaseFeeHandler
  let baseFeeNumerator ← handler.getBaseFeeNumeratorFromIncludedFeeAmount currentPoint
    activationPoint tradeDirection includedFeeAmount
  c.getTotalFeeNumerator baseFeeNumerator tracker

/-- The whole fee of an amount that does not contain it.
Source: `state/config.rs` `get_total_fee_numerator_from_excluded_fee_amount` -/
def getTotalFeeNumeratorFromExcludedFeeAmount (tracker : VolatilityTracker)
    (currentPoint activationPoint excludedFeeAmount : ℕ) (tradeDirection : TradeDirection) :
    Result ℕ := do
  let handler ← c.baseFee.getBaseFeeHandler
  let baseFeeNumerator ← handler.getBaseFeeNumeratorFromExcludedFeeAmount currentPoint
    activationPoint tradeDirection excludedFeeAmount
  c.getTotalFeeNumerator baseFeeNumerator tracker

/-- The lowest base fee of a configuration.
Source: `state/config.rs` `get_min_base_fee_numerator` -/
def getMinBaseFeeNumerator : Result ℕ := do
  let handler ← c.baseFee.getBaseFeeHandler
  handler.getMinBaseFeeNumerator

end PoolFeesConfig

/-- Split a fee into trading, protocol and referral fee.
Source: `state/config.rs` `split_fees` -/
def splitFees (feeAmount : ℕ) (hasReferral : Bool) : Result (ℕ × ℕ × ℕ) := do
  let protocolFee ← safeMulDivCastU64 feeAmount PROTOCOL_FEE_PERCENT 100 .down
  let tradingFee ← safeSub feeAmount protocolFee
  let referralFee ← (if hasReferral then
      safeMulDivCastU64 protocolFee HOST_FEE_PERCENT 100 .down
    else pure 0)
  let protocolFee ← safeSub protocolFee referralFee
  pure (tradingFee, protocolFee, referralFee)

/-- What a fee leaves of an amount, and the parts of the fee.
Source: `state/config.rs` `get_fee_on_amount` -/
def getFeeOnAmount (tradeFeeNumerator amount : ℕ) (hasReferral : Bool) :
    Result FeeOnAmountResult := do
  let (amount, tradingFee) ← getExcludedFeeAmount tradeFeeNumerator amount
  let protocolFee ← safeMulDivCastU64 tradingFee PROTOCOL_FEE_PERCENT 100 .down
  let tradingFee ← safeSub tradingFee protocolFee
  let referralFee ← (if hasReferral then
      safeMulDivCastU64 protocolFee HOST_FEE_PERCENT 100 .down
    else pure 0)
  let protocolFee ← safeSub protocolFee referralFee
  pure
    { amount := amount
      protocolFee := protocolFee
      referralFee := referralFee
      tradingFee := tradingFee }

/-- **The parts of a fee add up to it**, and without a referral account none goes to one.
Source: `state/config.rs` `split_fees` -/
theorem splitFees_spec {fee trading protocol referral : ℕ} {hasReferral : Bool}
    (h : splitFees fee hasReferral = .ok (trading, protocol, referral)) :
    trading + protocol + referral = fee ∧ (hasReferral = false → referral = 0) := by
  simp only [splitFees, bind_eq_ok, safeSub_eq_ok, pure_eq_ok, Prod.mk.injEq] at h
  obtain ⟨protocolFee, _, _, ⟨hle, rfl⟩, referralFee, href, _, ⟨hle', rfl⟩, rfl, rfl, rfl⟩ := h
  refine ⟨by omega, fun hno => ?_⟩
  rw [hno] at href
  simp only [Bool.false_eq_true, if_false, pure_eq_ok] at href
  exact href.symm

/-- Every fee is split.
Source: `state/config.rs` `split_fees` -/
theorem splitFees_isOk {fee : ℕ} (hfee : fee < 2 ^ 64) (hasReferral : Bool) :
    ∃ parts, splitFees fee hasReferral = .ok parts := by
  obtain ⟨hprotocol, hle⟩ := safeMulDivCastU64_part .down hfee
    (by decide : PROTOCOL_FEE_PERCENT ≤ 100) (by decide) (by decide)
  obtain ⟨hhost, hle'⟩ := safeMulDivCastU64_part .down (hle.trans_lt hfee)
    (by decide : HOST_FEE_PERCENT ≤ 100) (by decide) (by decide)
  unfold splitFees
  rw [hprotocol, ok_bind, safeSub_eq_ok.mpr ⟨hle, rfl⟩, ok_bind]
  cases hasReferral with
  | true => exact ⟨_, bind_eq_ok.mpr ⟨_, hhost, bind_eq_ok.mpr
      ⟨_, safeSub_eq_ok.mpr ⟨hle', rfl⟩, rfl⟩⟩⟩
  | false => exact ⟨_, bind_eq_ok.mpr ⟨_, rfl, bind_eq_ok.mpr
      ⟨_, safeSub_eq_ok.mpr ⟨Nat.zero_le _, rfl⟩, rfl⟩⟩⟩

/-- **A fee that is taken out of an amount is split like one that is added on.**
Source: `state/config.rs` `get_fee_on_amount`, which repeats the body of `split_fees` -/
theorem getFeeOnAmount_eq (numerator amount : ℕ) (hasReferral : Bool) :
    getFeeOnAmount numerator amount hasReferral = (do
      let (amount, fee) ← getExcludedFeeAmount numerator amount
      let (tradingFee, protocolFee, referralFee) ← splitFees fee hasReferral
      pure
        { amount := amount
          protocolFee := protocolFee
          referralFee := referralFee
          tradingFee := tradingFee }) := by
  simp only [getFeeOnAmount, splitFees, bind_assoc, pure_bind]

/-- **What is left of an amount and the parts of the fee add up to the amount**, and without a
referral account none goes to one.
Source: `state/config.rs` `get_fee_on_amount` -/
theorem getFeeOnAmount_spec {numerator amount : ℕ} {hasReferral : Bool} {r : FeeOnAmountResult}
    (h : getFeeOnAmount numerator amount hasReferral = .ok r) :
    r.amount + r.tradingFee + r.protocolFee + r.referralFee = amount ∧
      (hasReferral = false → r.referralFee = 0) := by
  simp only [getFeeOnAmount_eq, bind_eq_ok, pure_eq_ok] at h
  obtain ⟨⟨excluded, fee⟩, hexcluded, ⟨trading, protocol, referral⟩, hsplit, rfl⟩ := h
  have hamount := getExcludedFeeAmount_spec hexcluded
  obtain ⟨hfee, href⟩ := splitFees_spec hsplit
  refine ⟨?_, href⟩
  show excluded + trading + protocol + referral = amount
  omega

/-! ## The side a fee falls on -/

/-- On which amount of a trade, and on which token, the fee is taken.
Source: `state/fee.rs` `FeeMode` -/
structure FeeMode where
  feesOnInput : Bool
  feesOnBaseToken : Bool
  hasReferral : Bool
  deriving DecidableEq, Repr, Inhabited

/-- How the fee of a trade is taken.
Source: `state/fee.rs` `get_fee_mode` -/
def FeeMode.getFeeMode (collectFeeMode : ℕ) (tradeDirection : TradeDirection)
    (hasReferral : Bool) : Result FeeMode := do
  let mode ← orThrow (CollectFeeMode.tryFrom collectFeeMode) (Fault.error .invalidCollectFeeMode)
  let (feesOnInput, feesOnBaseToken) := match mode, tradeDirection with
    | .outputToken, .baseToQuote => (false, false)
    | .outputToken, .quoteToBase => (false, true)
    | .quoteToken, .baseToQuote => (false, false)
    | .quoteToken, .quoteToBase => (true, false)
  pure
    { feesOnInput := feesOnInput
      feesOnBaseToken := feesOnBaseToken
      hasReferral := hasReferral }

/-- On a buy the fee is either taken on the quote paid in or on the base paid out.
Source: `state/fee.rs` `get_fee_mode` -/
theorem getFeeMode_buy {collectFeeMode : ℕ} {hasReferral : Bool} {m : FeeMode}
    (h : FeeMode.getFeeMode collectFeeMode .quoteToBase hasReferral = .ok m) :
    m.feesOnBaseToken = !m.feesOnInput ∧ m.hasReferral = hasReferral := by
  simp only [FeeMode.getFeeMode, bind_eq_ok, pure_eq_ok] at h
  obtain ⟨mode, _, rfl⟩ := h
  cases mode <;> exact ⟨rfl, rfl⟩

end DynamicBondingCurve
