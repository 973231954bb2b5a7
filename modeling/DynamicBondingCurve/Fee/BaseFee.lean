import DynamicBondingCurve.Constants

/-!
# Base fees

The fee numerator that a swap pays before the dynamic fee: a scheduler that decays it over
periods (linearly or exponentially), or a rate limiter that raises it with the amount.

* `getExcludedFeeAmount`, `getIncludedFeeAmount`: taking a fee out of an amount and adding one on;
  the `_spec` lemmas say that **the two parts add up to the amount**.
* `FeeScheduler`, `FeeRateLimiter`: the two kinds of base fee.
* `BaseFeeHandler`: the dispatch over the two.
-/

namespace DynamicBondingCurve

open Library

/-! ## Taking a fee out of an amount and adding one on -/

/-- What a fee leaves of an amount, and the fee.
Source: `state/config.rs` `PoolFeesConfig::get_excluded_fee_amount` -/
def getExcludedFeeAmount (tradeFeeNumerator includedFeeAmount : ℕ) : Result (ℕ × ℕ) := do
  let tradingFee ← safeMulDivCastU64 includedFeeAmount tradeFeeNumerator FEE_DENOMINATOR .up
  let excludedFeeAmount ← safeSub includedFeeAmount tradingFee
  pure (excludedFeeAmount, tradingFee)

/-- The amount that a fee leaves as much of, and the fee.
Source: `state/config.rs` `PoolFeesConfig::get_included_fee_amount` -/
def getIncludedFeeAmount (tradeFeeNumerator excludedFeeAmount : ℕ) : Result (ℕ × ℕ) := do
  let denominator ← safeSub FEE_DENOMINATOR tradeFeeNumerator
  let includedFeeAmount ← safeMulDivCastU64 excludedFeeAmount FEE_DENOMINATOR denominator .up
  let feeAmount ← safeSub includedFeeAmount excludedFeeAmount
  pure (includedFeeAmount, feeAmount)

/-- A fee that is taken out and what it leaves add up to the amount.
Source: `state/config.rs` `PoolFeesConfig::get_excluded_fee_amount` -/
theorem getExcludedFeeAmount_spec {numerator amount excluded fee : ℕ}
    (h : getExcludedFeeAmount numerator amount = .ok (excluded, fee)) :
    excluded + fee = amount := by
  simp only [getExcludedFeeAmount, bind_eq_ok, safeSub_eq_ok, pure_eq_ok, Prod.mk.injEq] at h
  obtain ⟨_, _, _, ⟨hle, rfl⟩, rfl, rfl⟩ := h
  exact Nat.sub_add_cancel hle

/-- A fee that is added on is all that the amount grows by.
Source: `state/config.rs` `PoolFeesConfig::get_included_fee_amount` -/
theorem getIncludedFeeAmount_spec {numerator amount included fee : ℕ}
    (h : getIncludedFeeAmount numerator amount = .ok (included, fee)) :
    included = amount + fee := by
  simp only [getIncludedFeeAmount, bind_eq_ok, safeSub_eq_ok, pure_eq_ok, Prod.mk.injEq] at h
  obtain ⟨_, _, _, _, _, ⟨hle, rfl⟩, rfl, rfl⟩ := h
  exact (Nat.add_sub_cancel' hle).symm

/-! ## Fee numerators -/

/-- The numerator of a fee in basis points, over a denominator.
Source: `params/fee_parameters.rs` `to_numerator` -/
def toNumerator (bps denominator : ℕ) : Result ℕ := do
  let scaled ← safeMul 128 bps denominator
  let numerator ← safeDiv scaled MAX_BASIS_POINT
  safeCast 64 numerator

/-- A fee is less than the whole.
Source: `params/fee_parameters.rs` `validate_fee_fraction` -/
def validateFeeFraction (numerator denominator : ℕ) : Result Unit :=
  if denominator = 0 ∨ numerator ≥ denominator then fail .invalidFee else pure ()

/-- The exponents of a power are below this.
Source: `math/fee_math.rs` `MAX_EXPONENTIAL` -/
def MAX_EXPONENTIAL : ℕ := 0x80000

/-- The bits of the fraction of a power.
Source: `math/fee_math.rs` `SCALE_OFFSET` -/
def SCALE_OFFSET : ℕ := 64

/-- The product of two fixed-point numbers, `none` on overflow.
Source: `math/fee_math.rs` `pow`, `checked_mul` and the shift after it -/
def mulScaled (a b : ℕ) : Option ℕ :=
  if a * b < 2 ^ 128 then some (a * b / 2 ^ SCALE_OFFSET) else none

/-- The bits of the exponent from the lowest, `bits` of them: the base is squared between two
bits and multiplied in where the bit is set.
Source: `math/fee_math.rs` `pow`, the nineteen statements on `exp` -/
def powBits : ℕ → ℕ → ℕ → ℕ → Option ℕ
  | 0, _, _, result => some result
  | bits + 1, exp, squaredBase, result => do
      let result ← (if exp % 2 = 1 then mulScaled result squaredBase else some result)
      if bits = 0 then some result
      else do
        let squaredBase ← mulScaled squaredBase squaredBase
        powBits bits (exp / 2) squaredBase result

/-- `base ^ exp` in fixed point.
Source: `math/fee_math.rs` `pow` -/
def pow (base : ℕ) (exp : ℤ) : Option ℕ :=
  if exp = -2 ^ 31 then none
  else if exp = 0 then some ONE_Q64
  else if exp.natAbs ≥ MAX_EXPONENTIAL then none
  else do
    let invert : Bool := exp < 0
    let squaredBase := if base ≥ ONE_Q64 then u128Max / base else base
    let invert := if base ≥ ONE_Q64 then !invert else invert
    let result ← powBits 19 exp.natAbs squaredBase ONE_Q64
    if result = 0 then none
    else if invert then some (u128Max / result)
    else some result

/-- `cliff_fee_numerator * (1 - reduction_factor / 10_000) ^ passed_period`.
Source: `math/fee_math.rs` `get_fee_in_period` -/
def getFeeInPeriod (cliffFeeNumerator reductionFactor passedPeriod : ℕ) : Result ℕ := do
  let shifted ← safeShlPrim 128 reductionFactor SCALE_OFFSET
  let bps ← safeDiv shifted BASIS_POINT_MAX
  let base ← safeSub ONE_Q64 bps
  let result ← orThrow (pow base passedPeriod) (Fault.error .mathOverflow)
  let scaled ← safeMul 128 result cliffFeeNumerator
  safeCast 64 (scaled / 2 ^ SCALE_OFFSET)

/-! ## The fee scheduler -/

/-- A base fee that starts at a cliff and falls from period to period.
Source: `base_fee/fee_scheduler.rs` `FeeScheduler` -/
structure FeeScheduler where
  cliffFeeNumerator : ℕ
  numberOfPeriod : ℕ
  periodFrequency : ℕ
  reductionFactor : ℕ
  feeSchedulerMode : ℕ
  deriving DecidableEq, Repr

/-- The two ways in which a fee falls.
Source: `base_fee/fee_scheduler.rs` `FeeSchedulerMode` -/
inductive FeeSchedulerMode where
  | linear
  | exponential
  deriving DecidableEq, Repr

/-- The way of falling that a byte stands for.
Source: `base_fee/fee_scheduler.rs` `FeeSchedulerMode`, the conversion from its byte -/
def FeeSchedulerMode.tryFrom : ℕ → Option FeeSchedulerMode
  | 0 => some .linear
  | 1 => some .exponential
  | _ => none

namespace FeeScheduler

variable (s : FeeScheduler)

/-- The highest fee of a scheduler is that of its start.
Source: `base_fee/fee_scheduler.rs` `get_max_base_fee_numerator` -/
def getMaxBaseFeeNumerator : ℕ := s.cliffFeeNumerator

/-- The fee of a period; those after the last one are charged as the last one.
Source: `base_fee/fee_scheduler.rs` `get_base_fee_numerator_by_period` -/
def getBaseFeeNumeratorByPeriod (period : ℕ) : Result ℕ := do
  let period := min period s.numberOfPeriod
  let mode ← orThrow (FeeSchedulerMode.tryFrom s.feeSchedulerMode) (Fault.error .typeCastFailed)
  match mode with
  | .linear => do
      let reduction ← safeMul 64 s.reductionFactor period
      safeSub s.cliffFeeNumerator reduction
  | .exponential => do
      ensure (period < 2 ^ 16) .mathOverflow
      getFeeInPeriod s.cliffFeeNumerator s.reductionFactor period

/-- The lowest fee of a scheduler is that of its last period.
Source: `base_fee/fee_scheduler.rs` `get_min_base_fee_numerator` -/
def getMinBaseFeeNumerator : Result ℕ := s.getBaseFeeNumeratorByPeriod s.numberOfPeriod

/-- The fee at a point, which is constant for a scheduler without a period.
Source: `base_fee/fee_scheduler.rs` `get_base_fee_numerator` -/
def getBaseFeeNumerator (currentPoint activationPoint : ℕ) : Result ℕ :=
  if s.periodFrequency = 0 then pure s.cliffFeeNumerator
  else do
    let elapsed ← safeSub currentPoint activationPoint
    let period ← safeDiv elapsed s.periodFrequency
    s.getBaseFeeNumeratorByPeriod period

/-- A scheduler sets all of its factors or none, and its lowest and highest fee are fees.
Source: `base_fee/fee_scheduler.rs` `validate` -/
def validate : Result Unit := do
  (if s.periodFrequency ≠ 0 ∨ s.numberOfPeriod ≠ 0 ∨ s.reductionFactor ≠ 0 then
    ensure (s.numberOfPeriod ≠ 0 ∧ s.periodFrequency ≠ 0 ∧ s.reductionFactor ≠ 0)
      .invalidFeeScheduler
  else pure ())
  let minFeeNumerator ← s.getMinBaseFeeNumerator
  let maxFeeNumerator := s.getMaxBaseFeeNumerator
  validateFeeFraction minFeeNumerator FEE_DENOMINATOR
  validateFeeFraction maxFeeNumerator FEE_DENOMINATOR
  ensure (minFeeNumerator ≥ MIN_FEE_NUMERATOR ∧ maxFeeNumerator ≤ MAX_FEE_NUMERATOR)
    .exceedMaxFeeBps

end FeeScheduler

/-! ## The rate limiter -/

/-- A base fee that grows with the amount: each further reference amount is charged more.
Source: `base_fee/fee_rate_limiter.rs` `FeeRateLimiter` -/
structure FeeRateLimiter where
  cliffFeeNumerator : ℕ
  feeIncrementBps : ℕ
  maxLimiterDuration : ℕ
  referenceAmount : ℕ
  deriving DecidableEq, Repr

/-- The operators of the wide integers wrap.
Source: the operators `+`, `*` and `-` of the wide integers -/
def wrap256 (a : ℤ) : ℕ := (a % 2 ^ 256).toNat

namespace FeeRateLimiter

variable (r : FeeRateLimiter)

/-- All of the factors of a limiter are zero.
Source: `base_fee/fee_rate_limiter.rs` `is_zero_rate_limiter` -/
def isZeroRateLimiter : Bool :=
  r.referenceAmount = 0 ∧ r.maxLimiterDuration = 0 ∧ r.feeIncrementBps = 0

/-- None of the factors of a limiter is zero.
Source: `base_fee/fee_rate_limiter.rs` `is_non_zero_rate_limiter` -/
def isNonZeroRateLimiter : Bool :=
  r.referenceAmount ≠ 0 ∧ r.maxLimiterDuration ≠ 0 ∧ r.feeIncrementBps ≠ 0

/-- A limiter is in force for buys, from the activation to the end of its duration.
Source: `base_fee/fee_rate_limiter.rs` `is_rate_limiter_applied` -/
def isRateLimiterApplied (currentPoint activationPoint : ℕ) (tradeDirection : TradeDirection) :
    Result Bool :=
  if r.isZeroRateLimiter then pure false
  else if tradeDirection = .baseToQuote then pure false
  else do
    let lastEffectiveRateLimiterPoint ← safeAdd 128 activationPoint r.maxLimiterDuration
    pure (decide (¬ currentPoint > lastEffectiveRateLimiterPoint))

/-- The last tier whose rate ascends.
Source: `base_fee/fee_rate_limiter.rs` `get_max_index` -/
def getMaxIndex : Result ℕ := do
  let deltaNumerator ← safeSub MAX_FEE_NUMERATOR r.cliffFeeNumerator
  let feeIncrementNumerator ← toNumerator r.feeIncrementBps FEE_DENOMINATOR
  safeDiv deltaNumerator feeIncrementNumerator

/-- The fee of an amount that contains it, as one numerator.
Source: `base_fee/fee_rate_limiter.rs` `get_fee_numerator_from_included_fee_amount` -/
def getFeeNumeratorFromIncludedFeeAmount (inputAmount : ℕ) : Result ℕ :=
  if inputAmount ≤ r.referenceAmount then pure r.cliffFeeNumerator
  else do
    let c := r.cliffFeeNumerator
    let excess ← safeSub inputAmount r.referenceAmount
    assert (r.referenceAmount ≠ 0)
    let a := excess / r.referenceAmount
    let b := excess % r.referenceAmount
    let maxIndex ← r.getMaxIndex
    let i ← toNumerator r.feeIncrementBps FEE_DENOMINATOR
    let x0 := r.referenceAmount
    -- every intermediate value is below 2 ^ 256, so the wide operators do not wrap here
    let tradingFeeNumerator :=
      if a < maxIndex then
        x0 * (c + c * a + i * a * (a + 1) / 2) + b * (c + i * (a + 1))
      else
        x0 * (c + c * maxIndex + i * maxIndex * (maxIndex + 1) / 2) +
          ((a - maxIndex) * x0 + b) * MAX_FEE_NUMERATOR
    let tradingFee ← safeCast 64 ((tradingFeeNumerator + FEE_DENOMINATOR - 1) / FEE_DENOMINATOR)
    safeMulDivCastU64 tradingFee FEE_DENOMINATOR inputAmount .up

/-- What the fee of a limiter leaves of an amount.
Source: `base_fee/fee_rate_limiter.rs` `get_excluded_fee_amount` -/
def getExcludedFeeAmount (includedFeeAmount : ℕ) : Result ℕ := do
  let feeNumerator ← r.getFeeNumeratorFromIncludedFeeAmount includedFeeAmount
  let (excludedFeeAmount, _) ← DynamicBondingCurve.getExcludedFeeAmount feeNumerator
    includedFeeAmount
  pure excludedFeeAmount

/-- The amount at which the fee stops growing, before and after its fee, and whether it overflows.
Source: `base_fee/fee_rate_limiter.rs` `get_checked_amounts` -/
def getCheckedAmounts : Result (ℕ × ℕ × Bool) := do
  let maxIndex ← r.getMaxIndex
  let maxIndexInputAmount := (maxIndex + 1) * r.referenceAmount
  if maxIndexInputAmount ≤ u64Max then do
    let checkedOutputAmount ← r.getExcludedFeeAmount maxIndexInputAmount
    pure (checkedOutputAmount, maxIndexInputAmount, false)
  else do
    let checkedExcludedFeeAmount ← r.getExcludedFeeAmount u64Max
    pure (checkedExcludedFeeAmount, u64Max, true)

/-- The included amount below the last index, by the quadratic formula.
Source: `base_fee/fee_rate_limiter.rs` `get_fee_numerator_from_excluded_fee_amount`, the branch
`excluded_fee_amount < checked_excluded_fee_amount` -/
def getIncludedFromQuadratic (excludedFeeAmount : ℕ) : Result ℕ := do
  let i ← toNumerator r.feeIncrementBps FEE_DENOMINATOR
  let x0 := r.referenceAmount
  let d := FEE_DENOMINATOR
  let c := r.cliffFeeNumerator
  let ex := excludedFeeAmount
  let x := i
  let y := wrap256 (2 * d * x0 + i * x0 - 2 * c * x0)
  let z := wrap256 (2 * ex * d * x0)
  let root ← orThrow (sqrtU256 (wrap256 (y * y - 4 * x * z))) (Fault.error .mathOverflow)
  assert (2 * x ≠ 0)
  let includedFeeAmount := wrap256 ((y : ℤ) - root) / (2 * x)
  let aPlusOne ← safeDiv includedFeeAmount x0
  let includedCast ← safeCast 64 includedFeeAmount
  let firstExcludedFeeAmount ← r.getExcludedFeeAmount includedCast
  let excludedFeeRemainingAmount ← safeSub excludedFeeAmount firstExcludedFeeAmount
  let remainingAmountFeeNumerator ← safeCast 64 (wrap256 (c + i * aPlusOne))
  let (includedFeeRemainingAmount, _) ← getIncludedFeeAmount remainingAmountFeeNumerator
    excludedFeeRemainingAmount
  let totalInAmount ← safeAdd 256 includedFeeAmount includedFeeRemainingAmount
  safeCast 64 totalInAmount

/-- The fee of an amount that does not contain it, by inverting the growth.
Source: `base_fee/fee_rate_limiter.rs` `get_fee_numerator_from_excluded_fee_amount` -/
def getFeeNumeratorFromExcludedFeeAmount (excludedFeeAmount : ℕ) : Result ℕ := do
  let excludedFeeReferenceAmount ← r.getExcludedFeeAmount r.referenceAmount
  if excludedFeeAmount ≤ excludedFeeReferenceAmount then pure r.cliffFeeNumerator
  else do
    let (checkedExcludedFeeAmount, checkedIncludedFeeAmount, isOverflow) ← r.getCheckedAmounts
    if excludedFeeAmount = checkedExcludedFeeAmount then
      r.getFeeNumeratorFromIncludedFeeAmount checkedIncludedFeeAmount
    else do
      let includedFeeAmount ← (if excludedFeeAmount < checkedExcludedFeeAmount then
          r.getIncludedFromQuadratic excludedFeeAmount
        else if isOverflow then fail .mathOverflow
        else do
          let excludedFeeRemainingAmount ← safeSub excludedFeeAmount checkedExcludedFeeAmount
          let (includedFeeRemainingAmount, _) ← getIncludedFeeAmount MAX_FEE_NUMERATOR
            excludedFeeRemainingAmount
          safeAdd 64 includedFeeRemainingAmount checkedIncludedFeeAmount)
      let tradingFee ← safeSub includedFeeAmount excludedFeeAmount
      let feeNumerator ← safeMulDivCastU64 tradingFee FEE_DENOMINATOR includedFeeAmount .up
      ensure (feeNumerator ≥ r.cliffFeeNumerator) .undeterminedError
      pure feeNumerator

/-- A limiter takes its fee in quote, sets all of its factors or none, and its fees are fees.
Source: `base_fee/fee_rate_limiter.rs` `validate` -/
def validate (collectFeeMode : ℕ) (activationType : ActivationType) : Result Unit := do
  let collectFeeMode ← orThrow (CollectFeeMode.tryFrom collectFeeMode)
    (Fault.error .invalidCollectFeeMode)
  ensure (collectFeeMode = .quoteToken) .invalidFeeRateLimiter
  ensure (r.cliffFeeNumerator ≥ MIN_FEE_NUMERATOR ∧ r.cliffFeeNumerator ≤ MAX_FEE_NUMERATOR)
    .invalidFeeRateLimiter
  if r.isZeroRateLimiter then pure ()
  else do
    ensure r.isNonZeroRateLimiter .invalidFeeRateLimiter
    let maxLimiterDuration := match activationType with
      | .slot => MAX_RATE_LIMITER_DURATION_IN_SLOTS
      | .timestamp => MAX_RATE_LIMITER_DURATION_IN_SECONDS
    ensure (r.maxLimiterDuration ≤ maxLimiterDuration) .invalidFeeRateLimiter
    let feeIncrementNumerator ← toNumerator r.feeIncrementBps FEE_DENOMINATOR
    ensure (feeIncrementNumerator < FEE_DENOMINATOR) .invalidFeeRateLimiter
    let minFeeNumerator ← r.getFeeNumeratorFromIncludedFeeAmount 0
    let maxFeeNumerator ← r.getFeeNumeratorFromIncludedFeeAmount u64Max
    ensure (minFeeNumerator ≥ MIN_FEE_NUMERATOR ∧ maxFeeNumerator ≤ MAX_FEE_NUMERATOR)
      .invalidFeeRateLimiter

end FeeRateLimiter

/-! ## The dispatch over the two kinds -/

/-- The two kinds of base fee.
Source: `base_fee/mod.rs` `BaseFeeHandler`, the types that implement it -/
inductive BaseFeeHandler where
  | feeScheduler (s : FeeScheduler)
  | feeRateLimiter (r : FeeRateLimiter)
  deriving DecidableEq, Repr

/-- The base fee that five stored numbers stand for.
Source: `base_fee/mod.rs` `get_base_fee_handler` -/
def getBaseFeeHandler (cliffFeeNumerator firstFactor secondFactor thirdFactor baseFeeMode : ℕ) :
    Result BaseFeeHandler := do
  let mode ← orThrow (BaseFeeMode.tryFrom baseFeeMode) (Fault.error .invalidBaseFeeMode)
  match mode with
  | .feeSchedulerLinear | .feeSchedulerExponential =>
      pure (.feeScheduler
        { cliffFeeNumerator := cliffFeeNumerator
          numberOfPeriod := firstFactor
          periodFrequency := secondFactor
          reductionFactor := thirdFactor
          feeSchedulerMode := mode.toByte })
  | .rateLimiter =>
      pure (.feeRateLimiter
        { cliffFeeNumerator := cliffFeeNumerator
          feeIncrementBps := firstFactor
          maxLimiterDuration := secondFactor
          referenceAmount := thirdFactor })

namespace BaseFeeHandler

/-- The checks of a base fee of either kind.
Source: `base_fee/mod.rs` `validate` -/
def validate (h : BaseFeeHandler) (collectFeeMode : ℕ) (activationType : ActivationType) :
    Result Unit :=
  match h with
  | .feeScheduler s => s.validate
  | .feeRateLimiter r => r.validate collectFeeMode activationType

/-- The base fee of an amount that contains it, at a point.
Source: `base_fee/mod.rs` `get_base_fee_numerator_from_included_fee_amount` -/
def getBaseFeeNumeratorFromIncludedFeeAmount (h : BaseFeeHandler)
    (currentPoint activationPoint : ℕ) (tradeDirection : TradeDirection)
    (includedFeeAmount : ℕ) : Result ℕ :=
  match h with
  | .feeScheduler s => s.getBaseFeeNumerator currentPoint activationPoint
  | .feeRateLimiter r => do
      let applied ← r.isRateLimiterApplied currentPoint activationPoint tradeDirection
      if applied then r.getFeeNumeratorFromIncludedFeeAmount includedFeeAmount
      else pure r.cliffFeeNumerator

/-- The base fee of an amount that does not contain it, at a point.
Source: `base_fee/mod.rs` `get_base_fee_numerator_from_excluded_fee_amount` -/
def getBaseFeeNumeratorFromExcludedFeeAmount (h : BaseFeeHandler)
    (currentPoint activationPoint : ℕ) (tradeDirection : TradeDirection)
    (excludedFeeAmount : ℕ) : Result ℕ :=
  match h with
  | .feeScheduler s => s.getBaseFeeNumerator currentPoint activationPoint
  | .feeRateLimiter r => do
      let applied ← r.isRateLimiterApplied currentPoint activationPoint tradeDirection
      if applied then r.getFeeNumeratorFromExcludedFeeAmount excludedFeeAmount
      else pure r.cliffFeeNumerator

/-- The lowest base fee of either kind.
Source: `base_fee/mod.rs` `get_min_base_fee_numerator` -/
def getMinBaseFeeNumerator : BaseFeeHandler → Result ℕ
  | .feeScheduler s => s.getMinBaseFeeNumerator
  | .feeRateLimiter r => pure r.cliffFeeNumerator

/-- The lowest base fee is not below the lowest fee.
Source: `base_fee/mod.rs` `validate_min_base_fee` -/
def validateMinBaseFee (h : BaseFeeHandler) : Result Unit := do
  let minBaseFeeNumerator ← h.getMinBaseFeeNumerator
  ensure (minBaseFeeNumerator ≥ MIN_FEE_NUMERATOR) .invalidMinBaseFee

end BaseFeeHandler

end DynamicBondingCurve
