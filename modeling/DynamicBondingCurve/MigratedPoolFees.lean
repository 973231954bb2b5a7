import DynamicBondingCurve.Library.Bytes
import DynamicBondingCurve.Fee.Decay
import DynamicBondingCurve.Program

/-!
# The fees of the migrated pool

A partner submits the fees that the pool is to have after its migration. They are checked when the
configuration is created, stored with the schedule as sixteen bytes, and sent to the second program
as twenty-seven bytes years later, when nothing can be corrected any more.

* `MigratedPoolFees`: what is stored; `ConfigParameters.initMigratedPoolFees`.
* `MigratedPoolFees.buildDammV2PoolFeeParams`: what is sent.
* `calculateDynamicFeeParams_spec`: **the dynamic fee is a fifth of the base fee at most**, and
  nearly that at the highest volatility.
* `DammV2PodAlignedFeeMarketCapScheduler.FallsTo`: a falling fee is computed in every period, and
  never below that of the last one.
* `AcceptedConfig.migratedPoolFees_sent`: **what was accepted is sent, as it was submitted.**
-/

namespace DynamicBondingCurve

open Library

/-! ## Constants -/

/-- The filter period of the dynamic fee of a migrated pool.
Source: `constants.rs` `dynamic_fee::FILTER_PERIOD_DEFAULT` -/
def FILTER_PERIOD_DEFAULT : ℕ := 10
/-- The decay period of the dynamic fee of a migrated pool.
Source: `constants.rs` `dynamic_fee::DECAY_PERIOD_DEFAULT` -/
def DECAY_PERIOD_DEFAULT : ℕ := 120
/-- The reduction factor of the dynamic fee of a migrated pool.
Source: `constants.rs` `dynamic_fee::REDUCTION_FACTOR_DEFAULT` -/
def REDUCTION_FACTOR_DEFAULT : ℕ := 5000
/-- The part of the base fee that the dynamic fee may come to, in percent.
Source: `constants.rs` `dynamic_fee::MAX_DYNAMIC_FEE_PERCENT` -/
def MAX_DYNAMIC_FEE_PERCENT : ℕ := 20
/-- The highest volatility of the dynamic fee of a migrated pool.
Source: `constants.rs` `dynamic_fee::MAX_VOLATILITY_ACCUMULATOR` -/
def MAX_VOLATILITY_ACCUMULATOR : ℕ := 14460000
/-- The square of the highest volatility in one bin.
Source: `constants.rs` `dynamic_fee::SQUARE_VFA_BIN` -/
def SQUARE_VFA_BIN : ℕ := 209091600000000

/-! ## What is stored -/

namespace MigratedPoolMarketCapFeeSchedulerParams

/-- The fields with their widths, in the order in which they are written.
Source: `process_create_config.rs` `MigratedPoolMarketCapFeeSchedulerParams`, its fields in
order -/
def fields (s : MigratedPoolMarketCapFeeSchedulerParams) : List (ℕ × ℕ) :=
  [(2, s.numberOfPeriod), (2, s.sqrtPriceStepBps), (4, s.schedulerExpirationDuration),
    (8, s.reductionFactor)]

/-- The schedule as it is written.
Source: `process_create_config.rs` `MigratedPoolMarketCapFeeSchedulerParams`, `serialize` -/
def serialize (s : MigratedPoolMarketCapFeeSchedulerParams) : List Byte := encodeFields s.fields

/-- The schedule as it is read back.
Source: `process_create_config.rs` `MigratedPoolMarketCapFeeSchedulerParams`, `try_from_slice` -/
def tryFromSlice (bytes : List Byte) : Result MigratedPoolMarketCapFeeSchedulerParams :=
  match decodeFields [2, 2, 4, 8] bytes with
  | some [numberOfPeriod, sqrtPriceStepBps, schedulerExpirationDuration, reductionFactor] =>
      .ok
        { numberOfPeriod := numberOfPeriod
          sqrtPriceStepBps := sqrtPriceStepBps
          schedulerExpirationDuration := schedulerExpirationDuration
          reductionFactor := reductionFactor }
  | _ => .error .account

/-- **The schedule is read back from its bytes.**
Source: `state/config.rs` `PoolConfig` `migrated_pool_base_fee_bytes` -/
theorem tryFromSlice_serialize {s : MigratedPoolMarketCapFeeSchedulerParams}
    (hfit : ∀ field ∈ s.fields, field.2 < 256 ^ field.1) :
    tryFromSlice s.serialize = .ok s := by
  have hread : decodeFields [2, 2, 4, 8] s.serialize = some (s.fields.map Prod.snd) :=
    decodeFields_encodeFields hfit
  unfold tryFromSlice
  rw [hread]
  rfl

end MigratedPoolMarketCapFeeSchedulerParams

/-- The fields of a configuration that only the migration reads.
Source: `state/config.rs` `PoolConfig` `migrated_pool_fee_bps`, `migrated_dynamic_fee`,
`migrated_pool_base_fee_mode`, `migrated_compounding_fee_bps`, `migrated_pool_base_fee_bytes` -/
structure MigratedPoolFees where
  migratedPoolFeeBps : ℕ
  migratedDynamicFee : ℕ
  migratedPoolBaseFeeMode : ℕ
  migratedCompoundingFeeBps : ℕ
  migratedPoolBaseFeeBytes : { bytes : List Byte // bytes.length = 16 }

/-- What is stored of the fees that were submitted.
Source: `process_create_config.rs` `process_create_config`, the arguments of `init`;
`state/config.rs` `PoolConfig::init`, from `migrated_pool_fees_bytes` on -/
def ConfigParameters.initMigratedPoolFees (p : ConfigParameters) : Result MigratedPoolFees :=
  let bytes := p.migratedPoolMarketCapFeeSchedulerParams.serialize
  if h : bytes.length = 16 then
    .ok
      { migratedPoolFeeBps := p.migratedPoolFee.poolFeeBps
        migratedDynamicFee := p.migratedPoolFee.dynamicFee
        migratedPoolBaseFeeMode := p.migratedPoolBaseFeeMode
        migratedCompoundingFeeBps := p.compoundingFeeBps
        migratedPoolBaseFeeBytes := ⟨bytes, h⟩ }
  else fail .undeterminedError

/-! ## What is sent -/

/-- Whether the migrated pool has a dynamic fee.
Source: `utils/damm_v2_utils.rs` `DammV2DynamicFee` -/
inductive DammV2DynamicFee where
  | disable
  | enable
  deriving DecidableEq, Repr

/-- The choice of a dynamic fee that a byte stands for.
Source: `utils/damm_v2_utils.rs` `DammV2DynamicFee`, the conversion from its byte -/
def DammV2DynamicFee.tryFrom : ℕ → Option DammV2DynamicFee
  | 0 => some .disable
  | 1 => some .enable
  | _ => none

/-- The dynamic fee that goes with a base fee.
Source: `utils/damm_v2_utils.rs` `calculate_dynamic_fee_params` -/
def calculateDynamicFeeParams (baseFeeNumerator : ℕ) : Result DynamicFeeParameters := do
  let scaled ← safeMul 128 baseFeeNumerator MAX_DYNAMIC_FEE_PERCENT
  let maxDynamicFeeNumerator ← safeDiv scaled 100
  let shifted ← safeMul 128 maxDynamicFeeNumerator 100000000000
  let vFee ← safeSub shifted 99999999999
  let variableFeeControl ← safeDiv vFee SQUARE_VFA_BIN
  ensure (variableFeeControl < 2 ^ 32) .typeCastFailed
  pure
    { binStep := BIN_STEP_BPS_DEFAULT
      binStepU128 := BIN_STEP_BPS_U128_DEFAULT
      filterPeriod := FILTER_PERIOD_DEFAULT
      decayPeriod := DECAY_PERIOD_DEFAULT
      reductionFactor := REDUCTION_FACTOR_DEFAULT
      maxVolatilityAccumulator := MAX_VOLATILITY_ACCUMULATOR
      variableFeeControl := variableFeeControl }

/-- The record of a schedule on time.
Source: `idls/damm_v2.json` `BorshFeeTimeScheduler` -/
structure DammV2BorshFeeTimeScheduler where
  cliffFeeNumerator : ℕ
  numberOfPeriod : ℕ
  periodFrequency : ℕ
  reductionFactor : ℕ
  baseFeeMode : ℕ
  deriving DecidableEq, Repr, Inhabited

/-- The fields of a schedule on time with their widths, in the order in which they are written.
Source: `idls/damm_v2.json` `BorshFeeTimeScheduler`, its fields in order -/
def DammV2BorshFeeTimeScheduler.fields (s : DammV2BorshFeeTimeScheduler) : List (ℕ × ℕ) :=
  [(8, s.cliffFeeNumerator), (2, s.numberOfPeriod), (8, s.periodFrequency),
    (8, s.reductionFactor), (1, s.baseFeeMode)]

/-- A schedule on time is read back as it was written.
Source: `idls/damm_v2.json` `BorshFeeTimeScheduler` -/
theorem DammV2BorshFeeTimeScheduler.decode_encode {s : DammV2BorshFeeTimeScheduler}
    (hfit : ∀ field ∈ s.fields, field.2 < 256 ^ field.1) :
    decodeFields [8, 2, 8, 8, 1] (encodeFields s.fields) = some [s.cliffFeeNumerator,
      s.numberOfPeriod, s.periodFrequency, s.reductionFactor, s.baseFeeMode] := by
  have hread := decodeFields_encodeFields hfit
  exact hread

/-- The record of a schedule on the market cap.
Source: `idls/damm_v2.json` `BorshFeeMarketCapScheduler` -/
structure DammV2BorshFeeMarketCapScheduler where
  cliffFeeNumerator : ℕ
  numberOfPeriod : ℕ
  sqrtPriceStepBps : ℕ
  schedulerExpirationDuration : ℕ
  reductionFactor : ℕ
  baseFeeMode : ℕ
  deriving DecidableEq, Repr, Inhabited

/-- The fields of a schedule on the market cap with their widths, in the order in which they are
written.
Source: `idls/damm_v2.json` `BorshFeeMarketCapScheduler`, its fields in order -/
def DammV2BorshFeeMarketCapScheduler.fields (s : DammV2BorshFeeMarketCapScheduler) :
    List (ℕ × ℕ) :=
  [(8, s.cliffFeeNumerator), (2, s.numberOfPeriod), (4, s.sqrtPriceStepBps),
    (4, s.schedulerExpirationDuration), (8, s.reductionFactor), (1, s.baseFeeMode)]

/-- A schedule on the market cap is read back as it was written.
Source: `idls/damm_v2.json` `BorshFeeMarketCapScheduler` -/
theorem DammV2BorshFeeMarketCapScheduler.decode_encode {s : DammV2BorshFeeMarketCapScheduler}
    (hfit : ∀ field ∈ s.fields, field.2 < 256 ^ field.1) :
    decodeFields [8, 2, 4, 4, 8, 1] (encodeFields s.fields) = some [s.cliffFeeNumerator,
      s.numberOfPeriod, s.sqrtPriceStepBps, s.schedulerExpirationDuration, s.reductionFactor,
      s.baseFeeMode] := by
  have hread := decodeFields_encodeFields hfit
  exact hread

/-- The fees that the second program is sent.
Source: `idls/damm_v2.json` `PoolFeeParameters`, `BaseFeeParameters` -/
structure DammV2PoolFeeParameters where
  baseFee : { data : List Byte // data.length = 27 }
  compoundingFeeBps : ℕ
  dynamicFee : Option DynamicFeeParameters

namespace MigratedPoolFees

variable (c : MigratedPoolFees)

/-- The schedule that the migrated pool starts with.
Source: `state/config.rs` `get_damm_v2_migrated_pool_min_base_fee_numerator`,
`market_cap_fee_scheduler` -/
def marketCapFeeScheduler (cliffFeeNumerator : ℕ) (s : MigratedPoolMarketCapFeeSchedulerParams) :
    DammV2PodAlignedFeeMarketCapScheduler :=
  { cliffFeeNumerator := cliffFeeNumerator
    baseFeeMode := c.migratedPoolBaseFeeMode
    numberOfPeriod := s.numberOfPeriod
    sqrtPriceStepBps := s.sqrtPriceStepBps
    schedulerExpirationDuration := s.schedulerExpirationDuration
    reductionFactor := s.reductionFactor }

/-- The lowest base fee of the stored schedule.
Source: `state/config.rs` `get_damm_v2_migrated_pool_min_base_fee_numerator` -/
def getDammV2MigratedPoolMinBaseFeeNumerator : Result ℕ := do
  let baseFeeMode ← orThrow (DammV2BaseFeeMode.tryFrom c.migratedPoolBaseFeeMode)
    (Fault.error .typeCastFailed)
  match baseFeeMode with
  | .feeTimeSchedulerExponential | .feeTimeSchedulerLinear =>
      toNumerator c.migratedPoolFeeBps FEE_DENOMINATOR
  | .feeMarketCapSchedulerExponential | .feeMarketCapSchedulerLinear => do
      let s ← MigratedPoolMarketCapFeeSchedulerParams.tryFromSlice c.migratedPoolBaseFeeBytes.1
      let cliffFeeNumerator ← toNumerator c.migratedPoolFeeBps FEE_DENOMINATOR
      (c.marketCapFeeScheduler cliffFeeNumerator s).getMinBaseFeeNumerator
  | .rateLimiter => fail .undeterminedError

/-- An error of the computation leaves the dynamic fee out.
Source: `state/config.rs` `build_damm_v2_dynamic_fee_params` -/
def buildDammV2DynamicFeeParams : Result (Option DynamicFeeParameters) := do
  let minBaseFeeNumerator ← c.getDammV2MigratedPoolMinBaseFeeNumerator
  let migratedDynamicFee ← orThrow (DammV2DynamicFee.tryFrom c.migratedDynamicFee)
    (Fault.error .typeCastFailed)
  match migratedDynamicFee with
  | .disable => pure none
  | .enable =>
      match calculateDynamicFeeParams minBaseFeeNumerator with
      | .ok params => pure (some params)
      | .error _ => pure none

/-- The bytes of the base fee.
Source: `state/config.rs` `build_damm_v2_base_fee_params`, `data` -/
def baseFeeData : Result (List Byte) := do
  let cliffFeeNumerator ← toNumerator c.migratedPoolFeeBps FEE_DENOMINATOR
  let baseFeeMode ← orThrow (DammV2BaseFeeMode.tryFrom c.migratedPoolBaseFeeMode)
    (Fault.error .typeCastFailed)
  match baseFeeMode with
  | .feeTimeSchedulerExponential | .feeTimeSchedulerLinear =>
      pure (encodeFields (DammV2BorshFeeTimeScheduler.fields
        { (default : DammV2BorshFeeTimeScheduler) with
          cliffFeeNumerator := cliffFeeNumerator
          baseFeeMode := c.migratedPoolBaseFeeMode }))
  | .feeMarketCapSchedulerExponential | .feeMarketCapSchedulerLinear => do
      let s ← MigratedPoolMarketCapFeeSchedulerParams.tryFromSlice c.migratedPoolBaseFeeBytes.1
      pure (encodeFields (DammV2BorshFeeMarketCapScheduler.fields
        { cliffFeeNumerator := cliffFeeNumerator
          numberOfPeriod := s.numberOfPeriod
          sqrtPriceStepBps := s.sqrtPriceStepBps
          schedulerExpirationDuration := s.schedulerExpirationDuration
          reductionFactor := s.reductionFactor
          baseFeeMode := c.migratedPoolBaseFeeMode }))
  | .rateLimiter => fail .undeterminedError

/-- The bytes of the base fee, refused when they are not as many as the second program reads.
Source: `state/config.rs` `build_damm_v2_base_fee_params` -/
def buildDammV2BaseFeeParams : Result { data : List Byte // data.length = 27 } := do
  let data ← c.baseFeeData
  if h : data.length = 27 then pure ⟨data, h⟩ else fail .undeterminedError

/-- The fees that the migration sends.
Source: `state/config.rs` `build_damm_v2_pool_fee_params` -/
def buildDammV2PoolFeeParams : Result DammV2PoolFeeParameters := do
  let baseFee ← c.buildDammV2BaseFeeParams
  let dynamicFee ← c.buildDammV2DynamicFeeParams
  pure
    { baseFee := baseFee
      compoundingFeeBps := c.migratedCompoundingFeeBps
      dynamicFee := dynamicFee }

end MigratedPoolFees

/-! ## The dynamic fee -/

/-- What the dynamic fee of the migrated pool comes to, in this program's formula.
Source: `utils/damm_v2_utils.rs` `calculate_dynamic_fee_params`; `state/config.rs`
`get_variable_fee_numerator` -/
structure DynamicFeeOf (baseFeeNumerator : ℕ) (params : DynamicFeeParameters) : Prop where
  valid : params.validate = .ok ()
  le_fifth : ∀ tracker : VolatilityTracker,
    tracker.volatilityAccumulator ≤ params.maxVolatilityAccumulator →
      ∃ fee, params.toDynamicFeeConfig.getVariableFeeNumerator tracker = .ok fee ∧
        5 * fee ≤ baseFeeNumerator
  fifth_le : ∀ tracker : VolatilityTracker,
    tracker.volatilityAccumulator = params.maxVolatilityAccumulator →
      ∃ fee, params.toDynamicFeeConfig.getVariableFeeNumerator tracker = .ok fee ∧
        baseFeeNumerator < 5 * (fee + 2092)

/-- The constant is the square that its name says.
Source: `constants.rs` `dynamic_fee::SQUARE_VFA_BIN` -/
theorem maxVolatility_sq : MAX_VOLATILITY_ACCUMULATOR * MAX_VOLATILITY_ACCUMULATOR =
    SQUARE_VFA_BIN := by
  decide

/-- The formula at a volatility.
Source: `state/config.rs` `get_variable_fee_numerator` -/
theorem getVariableFeeNumerator_eq (params : DynamicFeeParameters) {tracker : VolatilityTracker}
    (hstep : params.binStep = 1)
    (hvolatility : tracker.volatilityAccumulator ≤ MAX_VOLATILITY_ACCUMULATOR)
    (hcontrol : params.variableFeeControl < 2 ^ 24) :
    params.toDynamicFeeConfig.getVariableFeeNumerator tracker =
      .ok ((tracker.volatilityAccumulator * tracker.volatilityAccumulator *
        params.variableFeeControl + 99999999999) / 100000000000) := by
  have hsquare : tracker.volatilityAccumulator * tracker.volatilityAccumulator ≤
      SQUARE_VFA_BIN := by
    rw [← maxVolatility_sq]
    exact Nat.mul_le_mul hvolatility hvolatility
  have hfee : tracker.volatilityAccumulator * tracker.volatilityAccumulator *
      params.variableFeeControl ≤ SQUARE_VFA_BIN * 2 ^ 24 :=
    Nat.mul_le_mul hsquare hcontrol.le
  have henabled : ¬ ¬ params.toDynamicFeeConfig.isDynamicFeeEnable = true := by
    simp [DynamicFeeConfig.isDynamicFeeEnable, DynamicFeeParameters.toDynamicFeeConfig]
  have hbin : params.toDynamicFeeConfig.binStep = 1 := hstep
  have hsame : params.toDynamicFeeConfig.variableFeeControl = params.variableFeeControl := rfl
  unfold SQUARE_VFA_BIN at hsquare hfee
  unfold MAX_VOLATILITY_ACCUMULATOR at hvolatility
  unfold DynamicFeeConfig.getVariableFeeNumerator
  rw [if_neg henabled, hbin, hsame]
  simp only [bind_eq_ok, safeMul_eq_ok, safeAdd_eq_ok, safeDiv_eq_ok, Nat.mul_one]
  exact ⟨_, ⟨by omega, rfl⟩, _, ⟨by omega, rfl⟩, _, ⟨by omega, rfl⟩, _, ⟨by omega, rfl⟩,
    by decide, rfl⟩

/-- The parameters with a control.
Source: `utils/damm_v2_utils.rs` `calculate_dynamic_fee_params`, the returned value -/
def dynamicFeeParams (variableFeeControl : ℕ) : DynamicFeeParameters :=
  { binStep := BIN_STEP_BPS_DEFAULT
    binStepU128 := BIN_STEP_BPS_U128_DEFAULT
    filterPeriod := FILTER_PERIOD_DEFAULT
    decayPeriod := DECAY_PERIOD_DEFAULT
    reductionFactor := REDUCTION_FACTOR_DEFAULT
    maxVolatilityAccumulator := MAX_VOLATILITY_ACCUMULATOR
    variableFeeControl := variableFeeControl }

/-- The parameters with a control that fits pass their own checks.
Source: `params/fee_parameters.rs` `DynamicFeeParameters::validate` -/
theorem dynamicFeeParams_valid {control : ℕ} (hsmall : control < 2 ^ 24) :
    (dynamicFeeParams control).validate = .ok () := by
  have hperiods : FILTER_PERIOD_DEFAULT < DECAY_PERIOD_DEFAULT := by decide
  have hreduction : REDUCTION_FACTOR_DEFAULT ≤ BASIS_POINT_MAX := by decide
  have hvolatility : MAX_VOLATILITY_ACCUMULATOR ≤ U24_MAX := by decide
  have hcontrol : control ≤ U24_MAX := by
    unfold U24_MAX
    omega
  simp only [DynamicFeeParameters.validate, bind_eq_ok, exists_unit, require_eq_ok]
  exact ⟨rfl, rfl, hperiods, hreduction, hcontrol, hvolatility⟩

/-- The control is the largest with which the fee of the highest volatility stays below the limit.
Source: `utils/damm_v2_utils.rs` `calculate_dynamic_fee_params`, `v_fee` -/
theorem dynamicFeeOf_control {base limit control : ℕ} (hlimit : 5 * limit ≤ base)
    (hbase : base < 5 * (limit + 1)) (hsmall : control < 2 ^ 24)
    (hle : SQUARE_VFA_BIN * control + 99999999999 ≤ limit * 100000000000)
    (hlt : limit * 100000000000 < SQUARE_VFA_BIN * (control + 1) + 99999999999) :
    DynamicFeeOf base (dynamicFeeParams control) := by
  refine ⟨dynamicFeeParams_valid hsmall, ?_, ?_⟩
  · intro tracker hvolatility
    change _ ≤ MAX_VOLATILITY_ACCUMULATOR at hvolatility
    have hfee := getVariableFeeNumerator_eq (dynamicFeeParams control) rfl hvolatility hsmall
    refine ⟨_, hfee, ?_⟩
    have hsquare : tracker.volatilityAccumulator * tracker.volatilityAccumulator * control ≤
        SQUARE_VFA_BIN * control := by
      rw [← maxVolatility_sq]
      exact Nat.mul_le_mul_right control (Nat.mul_le_mul hvolatility hvolatility)
    simp only [dynamicFeeParams]
    omega
  · intro tracker hvolatility
    change _ = MAX_VOLATILITY_ACCUMULATOR at hvolatility
    have hfee := getVariableFeeNumerator_eq (dynamicFeeParams control) rfl hvolatility.le hsmall
    rw [hvolatility, maxVolatility_sq] at hfee
    refine ⟨_, hfee, ?_⟩
    simp only [dynamicFeeParams]
    unfold SQUARE_VFA_BIN at hlt ⊢
    omega

/-- **The dynamic fee is computed for every base fee that is accepted**, so that the branch that
leaves it out is dead; it is a fifth of the base fee at most, and nearly that at the highest
volatility.
Source: `utils/damm_v2_utils.rs` `calculate_dynamic_fee_params` -/
theorem calculateDynamicFeeParams_spec {baseFeeNumerator : ℕ}
    (hmin : DAMM_V2_MIN_FEE_NUMERATOR ≤ baseFeeNumerator)
    (hmax : baseFeeNumerator < FEE_DENOMINATOR) :
    ∃ params, calculateDynamicFeeParams baseFeeNumerator = .ok params ∧
      DynamicFeeOf baseFeeNumerator params := by
  unfold DAMM_V2_MIN_FEE_NUMERATOR at hmin
  unfold FEE_DENOMINATOR at hmax
  obtain ⟨limit, hlimit⟩ : ∃ limit, limit = baseFeeNumerator * MAX_DYNAMIC_FEE_PERCENT / 100 :=
    ⟨_, rfl⟩
  obtain ⟨control, hcontrol⟩ : ∃ control,
      control = (limit * 100000000000 - 99999999999) / SQUARE_VFA_BIN := ⟨_, rfl⟩
  have hfifth : 5 * limit ≤ baseFeeNumerator ∧ baseFeeNumerator < 5 * (limit + 1) := by
    unfold MAX_DYNAMIC_FEE_PERCENT at hlimit
    omega
  have hfloor : SQUARE_VFA_BIN * control ≤ limit * 100000000000 - 99999999999 := by
    rw [hcontrol]
    exact Nat.mul_div_le _ _
  have hceil : limit * 100000000000 - 99999999999 < SQUARE_VFA_BIN * (control + 1) := by
    rw [hcontrol]
    exact Nat.lt_mul_div_succ _ (by decide)
  have hsmall : control < 2 ^ 24 := by
    unfold SQUARE_VFA_BIN at hfloor
    omega
  refine ⟨dynamicFeeParams control, ?_, dynamicFeeOf_control hfifth.1 hfifth.2 hsmall (by omega)
    (by omega)⟩
  unfold calculateDynamicFeeParams
  simp only [bind_eq_ok, exists_unit, safeMul_eq_ok, safeDiv_eq_ok, safeSub_eq_ok, require_eq_ok,
    pure_eq_ok]
  refine ⟨_, ⟨?_, rfl⟩, limit, ⟨by decide, hlimit⟩, _, ⟨by omega, rfl⟩, _, ⟨by omega, rfl⟩,
    control, ⟨by decide, hcontrol⟩, by omega, rfl⟩
  unfold MAX_DYNAMIC_FEE_PERCENT
  omega

/-! ## What was checked -/

/-- The numerator of a fee in basis points.
Source: `params/fee_parameters.rs` `to_numerator` -/
theorem toNumerator_bps {bps : ℕ} (hfit : bps < 2 ^ 16) :
    toNumerator bps FEE_DENOMINATOR = .ok (bps * 100000) := by
  unfold toNumerator FEE_DENOMINATOR MAX_BASIS_POINT
  simp only [bind_eq_ok, safeMul_eq_ok, safeDiv_eq_ok, safeCast_eq_ok]
  exact ⟨_, ⟨by omega, rfl⟩, _, ⟨by decide, rfl⟩, by omega, by omega⟩

/-- The schedule fits the widths of its fields.
Source: `process_create_config.rs` `MigratedPoolMarketCapFeeSchedulerParams`, the types of its
fields -/
theorem InRange.scheduler_fits {p : ConfigParameters} (h : p.InRange) :
    ∀ field ∈ p.migratedPoolMarketCapFeeSchedulerParams.fields, field.2 < 256 ^ field.1 := by
  have hperiod := h.2.1 p.migratedPoolMarketCapFeeSchedulerParams.numberOfPeriod
    (by simp [ConfigParameters.u16Fields])
  have hstep := h.2.1 p.migratedPoolMarketCapFeeSchedulerParams.sqrtPriceStepBps
    (by simp [ConfigParameters.u16Fields])
  have hduration := h.2.2.1 p.migratedPoolMarketCapFeeSchedulerParams.schedulerExpirationDuration
    (by simp [ConfigParameters.u32Fields])
  have hfactor := h.2.2.2.1 p.migratedPoolMarketCapFeeSchedulerParams.reductionFactor
    (by simp [ConfigParameters.u64Fields])
  intro field hfield
  simp only [MigratedPoolMarketCapFeeSchedulerParams.fields, List.mem_cons, List.not_mem_nil,
    or_false] at hfield
  rcases hfield with rfl | rfl | rfl | rfl
  · exact hperiod
  · exact hstep
  · exact hduration
  · exact hfactor

/-- The schedule on the market cap that is checked.
Source: `process_create_config.rs` `MigratedPoolFeeValidator::validate`, the value whose `validate`
is called -/
def MigratedPoolFeeValidator.marketCapFeeScheduler (v : MigratedPoolFeeValidator) :
    DammV2PodAlignedFeeMarketCapScheduler :=
  { cliffFeeNumerator := v.fee.poolFeeBps * 100000
    baseFeeMode := v.migratedPoolBaseFeeMode
    numberOfPeriod := v.scheduler.numberOfPeriod
    sqrtPriceStepBps := v.scheduler.sqrtPriceStepBps
    schedulerExpirationDuration := v.scheduler.schedulerExpirationDuration
    reductionFactor := v.scheduler.reductionFactor }

/-- The fee of a fixed schedule is the fee at its start, and that of a schedule on the market cap
falls from there to what was checked.
Source: `process_create_config.rs` `MigratedPoolFeeValidator::validate`, the match on
`migrated_base_fee_mode` -/
inductive CheckedSchedule (v : MigratedPoolFeeValidator) : ℕ → Prop where
  | fixed (mode : v.migratedPoolBaseFeeMode = 0 ∨ v.migratedPoolBaseFeeMode = 1)
      (scheduler : v.scheduler = default) : CheckedSchedule v (v.fee.poolFeeBps * 100000)
  | falling (lowest : ℕ) (mode : v.migratedPoolBaseFeeMode = 3 ∨ v.migratedPoolBaseFeeMode = 4)
      (reduction : 0 < v.scheduler.reductionFactor)
      (lowest_eq : v.marketCapFeeScheduler.getMinBaseFeeNumerator = .ok lowest)
      (min_le : DAMM_V2_MIN_FEE_NUMERATOR ≤ lowest) (lowest_lt : lowest < FEE_DENOMINATOR) :
      CheckedSchedule v lowest

/-- A fee that passes its check is less than the whole.
Source: `params/fee_parameters.rs` `validate_fee_fraction` -/
theorem lt_of_validateFeeFraction {numerator denominator : ℕ}
    (h : validateFeeFraction numerator denominator = .ok ()) : numerator < denominator := by
  unfold validateFeeFraction at h
  split_ifs at h with hlarge
  · cases h
  · exact Nat.lt_of_not_le fun hle => hlarge (.inr hle)

/-- What the checks of a falling fee say.
Source: `utils/damm_v2_utils.rs` `DammV2PodAlignedFeeMarketCapScheduler::validate` -/
theorem DammV2PodAlignedFeeMarketCapScheduler.validate_spec
    {s : DammV2PodAlignedFeeMarketCapScheduler} (h : s.validate = .ok ()) :
    0 < s.reductionFactor ∧ ∃ lowest, s.getMinBaseFeeNumerator = .ok lowest ∧
      DAMM_V2_MIN_FEE_NUMERATOR ≤ lowest ∧ lowest < FEE_DENOMINATOR := by
  simp only [validate, bind_eq_ok, exists_unit, require_eq_ok] at h
  obtain ⟨hreduction, _, _, _, lowest, hlowest, hfraction, _, hmin, _⟩ := h
  exact ⟨hreduction, lowest, hlowest, hmin, lt_of_validateFeeFraction hfraction⟩

/-- What the checks of the fees of a migrated pool say.
Source: `process_create_config.rs` `MigratedPoolFeeValidator::validate` -/
theorem MigratedPoolFeeValidator.validate_spec {v : MigratedPoolFeeValidator}
    (h : v.validate = .ok ()) :
    (10 ≤ v.fee.poolFeeBps ∧ v.fee.poolFeeBps ≤ 1000) ∧
      (v.fee.dynamicFee = 0 ∨ v.fee.dynamicFee = 1) ∧ ∃ lowest, CheckedSchedule v lowest := by
  simp only [validate, bind_eq_ok, exists_unit, require_eq_ok, orThrow_eq_ok] at h
  obtain ⟨hbps, _, _, _, hdynamic, mode, hmode, hschedule⟩ := h
  have hcliff : toNumerator v.fee.poolFeeBps FEE_DENOMINATOR =
      .ok (v.fee.poolFeeBps * 100000) := by
    refine toNumerator_bps ?_
    have hle := hbps.2
    unfold MAX_MIGRATED_POOL_FEE_BPS at hle
    omega
  refine ⟨hbps, hdynamic, ?_⟩
  unfold DammV2BaseFeeMode.tryFrom at hmode
  split at hmode
  · obtain rfl := Option.some.inj hmode
    exact ⟨_, .fixed (.inl ‹_›) (require_eq_ok.mp hschedule)⟩
  · obtain rfl := Option.some.inj hmode
    exact ⟨_, .fixed (.inr ‹_›) (require_eq_ok.mp hschedule)⟩
  · obtain rfl := Option.some.inj hmode
    cases hschedule
  · obtain rfl := Option.some.inj hmode
    simp only [hcliff, ok_bind] at hschedule
    obtain ⟨hreduction, lowest, hlowest, hmin, hlt⟩ :=
      DammV2PodAlignedFeeMarketCapScheduler.validate_spec hschedule
    exact ⟨lowest, .falling lowest (.inl ‹_›) hreduction hlowest hmin hlt⟩
  · obtain rfl := Option.some.inj hmode
    simp only [hcliff, ok_bind] at hschedule
    obtain ⟨hreduction, lowest, hlowest, hmin, hlt⟩ :=
      DammV2PodAlignedFeeMarketCapScheduler.validate_spec hschedule
    exact ⟨lowest, .falling lowest (.inr ‹_›) hreduction hlowest hmin hlt⟩
  · cases hmode

/-! ## What was accepted is sent -/

/-- The fee of every period is computed: it is the first one at most, that of a later period is not
above it, and none is below `lowest`.
Source: `utils/damm_v2_utils.rs` `get_base_fee_numerator_by_period` -/
def DammV2PodAlignedFeeMarketCapScheduler.FallsTo (s : DammV2PodAlignedFeeMarketCapScheduler)
    (lowest : ℕ) : Prop :=
  ∀ period later, period ≤ later → ∃ fee laterFee,
    s.getBaseFeeNumeratorByPeriod period = .ok fee ∧
      s.getBaseFeeNumeratorByPeriod later = .ok laterFee ∧
      lowest ≤ laterFee ∧ laterFee ≤ fee ∧ fee ≤ s.cliffFeeNumerator

/-- What is sent, next to what was submitted. The bytes of the base fee are the record of its kind
of schedule. A fixed fee is the lowest one too; a fee that falls is computed in every period by this
program's formula, is never above the submitted one, never rises, and never goes below the lowest.
The dynamic fee goes with the lowest base fee.
Source: `state/config.rs` `build_damm_v2_pool_fee_params`; `utils/damm_v2_utils.rs`
`get_base_fee_numerator_by_period`; `idls/damm_v2.json` `BorshFeeTimeScheduler`,
`BorshFeeMarketCapScheduler` -/
structure SentAsSubmitted (v : MigratedPoolFeeValidator) (lowest : ℕ)
    (fees : DammV2PoolFeeParameters) : Prop where
  compoundingFeeBps : fees.compoundingFeeBps = v.compoundingFeeBps
  baseFeeMode : v.migratedPoolBaseFeeMode ∈ [0, 1, 3, 4]
  fixedFee : v.migratedPoolBaseFeeMode ≤ 1 →
    decodeFields [8, 2, 8, 8, 1] fees.baseFee.1 =
      some [v.fee.poolFeeBps * 100000, 0, 0, 0, v.migratedPoolBaseFeeMode] ∧
    lowest = v.fee.poolFeeBps * 100000
  fallingFee : 3 ≤ v.migratedPoolBaseFeeMode →
    decodeFields [8, 2, 4, 4, 8, 1] fees.baseFee.1 =
      some [v.fee.poolFeeBps * 100000, v.scheduler.numberOfPeriod, v.scheduler.sqrtPriceStepBps,
        v.scheduler.schedulerExpirationDuration, v.scheduler.reductionFactor,
        v.migratedPoolBaseFeeMode] ∧
    v.marketCapFeeScheduler.FallsTo lowest
  lowest_mem : DAMM_V2_MIN_FEE_NUMERATOR ≤ lowest ∧ lowest ≤ v.fee.poolFeeBps * 100000
  noDynamicFee : v.fee.dynamicFee = 0 → fees.dynamicFee = none
  dynamicFee : v.fee.dynamicFee = 1 → ∃ params, fees.dynamicFee = some params ∧
    DynamicFeeOf lowest params

section Sent

variable {p : ConfigParameters} {c : MigratedPoolFees} {lowest : ℕ}

/-- What is stored is what was submitted.
Source: `state/config.rs` `PoolConfig::init` -/
structure StoredAsSubmitted (p : ConfigParameters) (c : MigratedPoolFees) : Prop where
  poolFeeBps : c.migratedPoolFeeBps = p.migratedPoolFee.poolFeeBps
  dynamicFee : c.migratedDynamicFee = p.migratedPoolFee.dynamicFee
  baseFeeMode : c.migratedPoolBaseFeeMode = p.migratedPoolBaseFeeMode
  compoundingFeeBps : c.migratedCompoundingFeeBps = p.compoundingFeeBps
  baseFeeBytes : c.migratedPoolBaseFeeBytes.1 = p.migratedPoolMarketCapFeeSchedulerParams.serialize

/-- The fees are stored without an error.
Source: `state/config.rs` `PoolConfig::init` -/
theorem initMigratedPoolFees_eq (p : ConfigParameters) :
    ∃ c, p.initMigratedPoolFees = .ok c ∧ StoredAsSubmitted p c := by
  have hlength : p.migratedPoolMarketCapFeeSchedulerParams.serialize.length = 16 :=
    length_encodeFields _
  unfold ConfigParameters.initMigratedPoolFees
  rw [dif_pos hlength]
  exact ⟨_, rfl, rfl, rfl, rfl, rfl, rfl⟩

/-- The schedule on time that takes the same steps. -/
def DammV2PodAlignedFeeMarketCapScheduler.toFeeScheduler
    (s : DammV2PodAlignedFeeMarketCapScheduler) : FeeScheduler :=
  { cliffFeeNumerator := s.cliffFeeNumerator
    numberOfPeriod := s.numberOfPeriod
    periodFrequency := s.sqrtPriceStepBps
    reductionFactor := s.reductionFactor
    feeSchedulerMode := s.baseFeeMode - 3 }

/-- A schedule on the market cap and the one on time differ in what a period is, not in its fee.
Source: `utils/damm_v2_utils.rs` and `base_fee/fee_scheduler.rs`
`get_base_fee_numerator_by_period` -/
theorem DammV2PodAlignedFeeMarketCapScheduler.getBaseFeeNumeratorByPeriod_eq
    {s : DammV2PodAlignedFeeMarketCapScheduler} (hmode : s.baseFeeMode = 3 ∨ s.baseFeeMode = 4)
    (period : ℕ) : s.getBaseFeeNumeratorByPeriod period =
      s.toFeeScheduler.getBaseFeeNumeratorByPeriod period := by
  unfold getBaseFeeNumeratorByPeriod FeeScheduler.getBaseFeeNumeratorByPeriod toFeeScheduler
  rcases hmode with hlinear | hexponential
  · rw [hlinear]
    rfl
  · rw [hexponential]
    rfl

/-- **A falling fee is computed in every period**, since it is in the last one, and falls to that.
Source: `utils/damm_v2_utils.rs` `get_base_fee_numerator_by_period` -/
theorem DammV2PodAlignedFeeMarketCapScheduler.fallsTo_lowest
    {s : DammV2PodAlignedFeeMarketCapScheduler} (hmode : s.baseFeeMode = 3 ∨ s.baseFeeMode = 4)
    (hreduction : 0 < s.reductionFactor) (hfit : s.reductionFactor < 2 ^ 64)
    (hcliff : s.cliffFeeNumerator < 2 ^ 30) (hlowest : s.getMinBaseFeeNumerator = .ok lowest) :
    s.FallsTo lowest := by
  intro period later hle
  have hlast : s.toFeeScheduler.getMinBaseFeeNumerator = .ok lowest := by
    unfold FeeScheduler.getMinBaseFeeNumerator
    rw [← getBaseFeeNumeratorByPeriod_eq hmode]
    exact hlowest
  obtain ⟨fee, laterFee, hfee, hlaterFee, hfalls, hcap⟩ :=
    FeeScheduler.getBaseFeeNumeratorByPeriod_mono hreduction hfit hcliff hlast
      (min_le_min_right s.toFeeScheduler.numberOfPeriod hle) (min_le_right _ _)
  obtain ⟨_, last, hsame, hlastFee, hreaches, _⟩ :=
    FeeScheduler.getBaseFeeNumeratorByPeriod_mono hreduction hfit hcliff hlast
      (min_le_right later s.toFeeScheduler.numberOfPeriod) le_rfl
  cases hsame.symm.trans hlaterFee
  cases hlastFee.symm.trans hlast
  rw [FeeScheduler.getBaseFeeNumeratorByPeriod_min,
    ← getBaseFeeNumeratorByPeriod_eq hmode] at hfee hlaterFee
  exact ⟨fee, laterFee, hfee, hlaterFee, hreaches, hfalls, hcap⟩

/-- A schedule that was checked is fixed at its lowest fee or falls to it, and this is one that the
second program takes.
Source: `process_create_config.rs` `MigratedPoolFeeValidator::validate` -/
theorem CheckedSchedule.spec {v : MigratedPoolFeeValidator} (h : CheckedSchedule v lowest)
    (hbps : 10 ≤ v.fee.poolFeeBps ∧ v.fee.poolFeeBps ≤ 1000)
    (hfit : v.scheduler.reductionFactor < 2 ^ 64) :
    (v.migratedPoolBaseFeeMode ∈ [0, 1, 3, 4] ∧
      (v.migratedPoolBaseFeeMode ≤ 1 → lowest = v.fee.poolFeeBps * 100000) ∧
      (3 ≤ v.migratedPoolBaseFeeMode → v.marketCapFeeScheduler.FallsTo lowest)) ∧
    DAMM_V2_MIN_FEE_NUMERATOR ≤ lowest ∧ lowest ≤ v.fee.poolFeeBps * 100000 ∧
      lowest < FEE_DENOMINATOR := by
  cases h with
  | fixed mode scheduler =>
    have hkind : v.migratedPoolBaseFeeMode ∈ [0, 1, 3, 4] := by
      rcases mode with hlinear | hexponential
      · simp [hlinear]
      · simp [hexponential]
    refine ⟨⟨hkind, fun _ => rfl, ?_⟩, ?_⟩
    · intro hfalling
      omega
    · unfold DAMM_V2_MIN_FEE_NUMERATOR FEE_DENOMINATOR
      omega
  | falling lowest mode reduction lowest_eq min_le lowest_lt =>
    have hkind : v.migratedPoolBaseFeeMode ∈ [0, 1, 3, 4] := by
      rcases mode with hlinear | hexponential
      · simp [hlinear]
      · simp [hexponential]
    have hcliff : v.fee.poolFeeBps * 100000 < 2 ^ 30 := by omega
    have hfallsTo : v.marketCapFeeScheduler.FallsTo lowest :=
      DammV2PodAlignedFeeMarketCapScheduler.fallsTo_lowest mode reduction hfit hcliff lowest_eq
    obtain ⟨_, _, _, _, hlast, hfalls, hcap⟩ := hfallsTo 0 0 le_rfl
    refine ⟨⟨hkind, ?_, fun _ => hfallsTo⟩, min_le, hlast.trans (hfalls.trans hcap), lowest_lt⟩
    intro hfixed
    omega

/-- The stored kind of a fixed fee is one on time.
Source: `utils/damm_v2_utils.rs` `BaseFeeMode`, the conversion from its byte -/
theorem baseFeeMode_fixed (hstored : StoredAsSubmitted p c)
    (h : p.migratedPoolBaseFeeMode = 0 ∨ p.migratedPoolBaseFeeMode = 1) :
    ∃ mode, orThrow (DammV2BaseFeeMode.tryFrom c.migratedPoolBaseFeeMode)
        (Fault.error .typeCastFailed) = .ok mode ∧
      (mode = .feeTimeSchedulerLinear ∨ mode = .feeTimeSchedulerExponential) := by
  rw [hstored.baseFeeMode]
  rcases h with hmode | hmode
  · rw [hmode]
    exact ⟨_, rfl, .inl rfl⟩
  · rw [hmode]
    exact ⟨_, rfl, .inr rfl⟩

/-- The stored kind of a falling fee is one on the market cap.
Source: `utils/damm_v2_utils.rs` `BaseFeeMode`, the conversion from its byte -/
theorem baseFeeMode_falling (hstored : StoredAsSubmitted p c)
    (h : p.migratedPoolBaseFeeMode = 3 ∨ p.migratedPoolBaseFeeMode = 4) :
    ∃ mode, orThrow (DammV2BaseFeeMode.tryFrom c.migratedPoolBaseFeeMode)
        (Fault.error .typeCastFailed) = .ok mode ∧
      (mode = .feeMarketCapSchedulerLinear ∨ mode = .feeMarketCapSchedulerExponential) := by
  rw [hstored.baseFeeMode]
  rcases h with hmode | hmode
  · rw [hmode]
    exact ⟨_, rfl, .inl rfl⟩
  · rw [hmode]
    exact ⟨_, rfl, .inr rfl⟩

/-- The stored fee and the stored bytes are read as they were submitted.
Source: `state/config.rs` `PoolConfig` `migrated_pool_fee_bps`, `migrated_pool_base_fee_bytes` -/
theorem StoredAsSubmitted.read (hstored : StoredAsSubmitted p c) (hinRange : p.InRange) :
    toNumerator c.migratedPoolFeeBps FEE_DENOMINATOR =
        .ok (p.migratedPoolFee.poolFeeBps * 100000) ∧
      MigratedPoolMarketCapFeeSchedulerParams.tryFromSlice c.migratedPoolBaseFeeBytes.1 =
        .ok p.migratedPoolMarketCapFeeSchedulerParams := by
  rw [hstored.poolFeeBps, hstored.baseFeeBytes]
  refine ⟨toNumerator_bps (hinRange.2.1 _ ?_),
    MigratedPoolMarketCapFeeSchedulerParams.tryFromSlice_serialize
      (InRange.scheduler_fits hinRange)⟩
  simp [ConfigParameters.u16Fields]

/-- The lowest fee is computed from the stored bytes as it was when they were checked.
Source: `state/config.rs` `get_damm_v2_migrated_pool_min_base_fee_numerator` -/
theorem getDammV2MigratedPoolMinBaseFeeNumerator_eq (hstored : StoredAsSubmitted p c)
    (hinRange : p.InRange) (h : CheckedSchedule p.migratedPoolFeeValidator lowest) :
    c.getDammV2MigratedPoolMinBaseFeeNumerator = .ok lowest := by
  obtain ⟨hbps, hslice⟩ := hstored.read hinRange
  unfold MigratedPoolFees.getDammV2MigratedPoolMinBaseFeeNumerator
  cases h with
  | fixed mode scheduler =>
    obtain ⟨m, hm, rfl | rfl⟩ := baseFeeMode_fixed hstored mode
    · simp only [hm, ok_bind, hbps]
      rfl
    · simp only [hm, ok_bind, hbps]
      rfl
  | falling lowest mode reduction lowest_eq min_le lowest_lt =>
    have hlowest : (c.marketCapFeeScheduler (p.migratedPoolFee.poolFeeBps * 100000)
        p.migratedPoolMarketCapFeeSchedulerParams).getMinBaseFeeNumerator = .ok lowest := by
      rw [MigratedPoolFees.marketCapFeeScheduler, hstored.baseFeeMode]
      exact lowest_eq
    obtain ⟨m, hm, rfl | rfl⟩ := baseFeeMode_falling hstored mode
    · simp only [hm, ok_bind, hslice, hbps]
      exact hlowest
    · simp only [hm, ok_bind, hslice, hbps]
      exact hlowest

/-- The record of the base fee that was submitted.
Source: `state/config.rs` `build_damm_v2_base_fee_params`, the argument of `serialize` -/
def baseFeeRecord (p : ConfigParameters) : List (ℕ × ℕ) :=
  if p.migratedPoolBaseFeeMode ≤ 1 then
    DammV2BorshFeeTimeScheduler.fields
      { (default : DammV2BorshFeeTimeScheduler) with
        cliffFeeNumerator := p.migratedPoolFee.poolFeeBps * 100000
        baseFeeMode := p.migratedPoolBaseFeeMode }
  else
    DammV2BorshFeeMarketCapScheduler.fields
      { cliffFeeNumerator := p.migratedPoolFee.poolFeeBps * 100000
        numberOfPeriod := p.migratedPoolMarketCapFeeSchedulerParams.numberOfPeriod
        sqrtPriceStepBps := p.migratedPoolMarketCapFeeSchedulerParams.sqrtPriceStepBps
        schedulerExpirationDuration :=
          p.migratedPoolMarketCapFeeSchedulerParams.schedulerExpirationDuration
        reductionFactor := p.migratedPoolMarketCapFeeSchedulerParams.reductionFactor
        baseFeeMode := p.migratedPoolBaseFeeMode }

/-- The bytes are the record of the schedule that was submitted.
Source: `state/config.rs` `build_damm_v2_base_fee_params`, `data` -/
theorem baseFeeData_eq (hstored : StoredAsSubmitted p c) (hinRange : p.InRange)
    (h : CheckedSchedule p.migratedPoolFeeValidator lowest) :
    c.baseFeeData = .ok (encodeFields (baseFeeRecord p)) := by
  obtain ⟨hbps, hslice⟩ := hstored.read hinRange
  unfold MigratedPoolFees.baseFeeData baseFeeRecord
  cases h with
  | fixed mode scheduler =>
    have hsmall : p.migratedPoolBaseFeeMode ≤ 1 := by
      change p.migratedPoolBaseFeeMode = 0 ∨ p.migratedPoolBaseFeeMode = 1 at mode
      omega
    rw [if_pos hsmall, ← hstored.baseFeeMode]
    obtain ⟨m, hm, rfl | rfl⟩ := baseFeeMode_fixed hstored mode
    · simp only [hbps, hm, ok_bind]
      rfl
    · simp only [hbps, hm, ok_bind]
      rfl
  | falling lowest mode reduction lowest_eq min_le lowest_lt =>
    have hlarge : ¬ p.migratedPoolBaseFeeMode ≤ 1 := by
      change p.migratedPoolBaseFeeMode = 3 ∨ p.migratedPoolBaseFeeMode = 4 at mode
      omega
    rw [if_neg hlarge, ← hstored.baseFeeMode]
    obtain ⟨m, hm, rfl | rfl⟩ := baseFeeMode_falling hstored mode
    · simp only [hbps, hm, ok_bind, hslice]
      rfl
    · simp only [hbps, hm, ok_bind, hslice]
      rfl

/-- Either record has the length that the second program asks for.
Source: `idls/damm_v2.json` `BaseFeeParameters` -/
theorem buildDammV2BaseFeeParams_eq (hstored : StoredAsSubmitted p c) (hinRange : p.InRange)
    (h : CheckedSchedule p.migratedPoolFeeValidator lowest) :
    ∃ data, c.buildDammV2BaseFeeParams = .ok data ∧ data.1 = encodeFields (baseFeeRecord p) := by
  have hlength : (encodeFields (baseFeeRecord p)).length = 27 := by
    rw [length_encodeFields]
    unfold baseFeeRecord
    split_ifs
    · rfl
    · rfl
  unfold MigratedPoolFees.buildDammV2BaseFeeParams
  rw [baseFeeData_eq hstored hinRange h, ok_bind, dif_pos hlength]
  exact ⟨_, rfl, rfl⟩

/-- The dynamic fee is sent if and only if it was asked for.
Source: `state/config.rs` `build_damm_v2_dynamic_fee_params` -/
theorem buildDammV2DynamicFeeParams_eq (hstored : StoredAsSubmitted p c)
    (hlowest : c.getDammV2MigratedPoolMinBaseFeeNumerator = .ok lowest)
    (hmin : DAMM_V2_MIN_FEE_NUMERATOR ≤ lowest) (hmax : lowest < FEE_DENOMINATOR)
    (hdynamic : p.migratedPoolFee.dynamicFee = 0 ∨ p.migratedPoolFee.dynamicFee = 1) :
    ∃ fee, c.buildDammV2DynamicFeeParams = .ok fee ∧
      (p.migratedPoolFee.dynamicFee = 0 → fee = none) ∧
      (p.migratedPoolFee.dynamicFee = 1 → ∃ params, fee = some params ∧
        DynamicFeeOf lowest params) := by
  unfold MigratedPoolFees.buildDammV2DynamicFeeParams
  rw [hlowest, ok_bind, hstored.dynamicFee]
  rcases hdynamic with hzero | hone
  · rw [hzero]
    refine ⟨none, rfl, fun _ => rfl, ?_⟩
    intro hone
    cases hone
  · obtain ⟨params, hparams, hfee⟩ := calculateDynamicFeeParams_spec hmin hmax
    have henable : orThrow (DammV2DynamicFee.tryFrom p.migratedPoolFee.dynamicFee)
        (Fault.error .typeCastFailed) = .ok .enable := by
      rw [hone]
      rfl
    simp only [henable, ok_bind, hparams]
    refine ⟨some params, rfl, ?_, fun _ => ⟨params, rfl, hfee⟩⟩
    intro hzero
    rw [hone] at hzero
    cases hzero

end Sent

/-- The second program reads the record that was submitted.
Source: `idls/damm_v2.json` `BorshFeeTimeScheduler`, `BorshFeeMarketCapScheduler` -/
theorem decode_baseFeeRecord {p : ConfigParameters} (hinRange : p.InRange)
    (hbps : p.migratedPoolFee.poolFeeBps ≤ 1000) :
    (p.migratedPoolBaseFeeMode ≤ 1 →
      decodeFields [8, 2, 8, 8, 1] (encodeFields (baseFeeRecord p)) =
        some [p.migratedPoolFee.poolFeeBps * 100000, 0, 0, 0, p.migratedPoolBaseFeeMode]) ∧
    (3 ≤ p.migratedPoolBaseFeeMode →
      decodeFields [8, 2, 4, 4, 8, 1] (encodeFields (baseFeeRecord p)) =
        some [p.migratedPoolFee.poolFeeBps * 100000,
          p.migratedPoolMarketCapFeeSchedulerParams.numberOfPeriod,
          p.migratedPoolMarketCapFeeSchedulerParams.sqrtPriceStepBps,
          p.migratedPoolMarketCapFeeSchedulerParams.schedulerExpirationDuration,
          p.migratedPoolMarketCapFeeSchedulerParams.reductionFactor,
          p.migratedPoolBaseFeeMode]) := by
  have hmode : p.migratedPoolBaseFeeMode < 256 ^ 1 :=
    hinRange.1 _ (by simp [ConfigParameters.u8Fields])
  have hcliff : p.migratedPoolFee.poolFeeBps * 100000 < 256 ^ 8 := by omega
  constructor
  · intro hsmall
    rw [baseFeeRecord, if_pos hsmall]
    refine DammV2BorshFeeTimeScheduler.decode_encode ?_
    intro field hfield
    simp only [DammV2BorshFeeTimeScheduler.fields, List.mem_cons, List.not_mem_nil,
      or_false] at hfield
    rcases hfield with rfl | rfl | rfl | rfl | rfl
    · exact hcliff
    · exact Nat.pow_pos (by decide)
    · exact Nat.pow_pos (by decide)
    · exact Nat.pow_pos (by decide)
    · exact hmode
  · intro hlarge
    have hnot : ¬ p.migratedPoolBaseFeeMode ≤ 1 := by omega
    have hfits := InRange.scheduler_fits hinRange
    simp only [MigratedPoolMarketCapFeeSchedulerParams.fields, List.forall_mem_cons] at hfits
    obtain ⟨hperiod, hstep, hduration, hfactor, _⟩ := hfits
    rw [baseFeeRecord, if_neg hnot]
    refine DammV2BorshFeeMarketCapScheduler.decode_encode ?_
    intro field hfield
    simp only [DammV2BorshFeeMarketCapScheduler.fields, List.mem_cons, List.not_mem_nil,
      or_false] at hfield
    rcases hfield with rfl | rfl | rfl | rfl | rfl | rfl
    · exact hcliff
    · exact hperiod
    · exact hstep.trans (by norm_num : 256 ^ 2 < 256 ^ 4)
    · exact hduration
    · exact hfactor
    · exact hmode

/-- **The fees that were accepted are sent as they were submitted.** For every accepted
configuration whose pool migrates with fees of its own, the migration builds their parameters
without an error: the bytes of the base fee decode to the submitted schedule, whose fee is computed
in every period, never rises, and is never below the lowest one that the second program takes; and
the dynamic fee is there if and only if it was asked for, a fifth of the lowest base fee at most.
Source: `state/config.rs` `PoolConfig::init`, `build_damm_v2_pool_fee_params`;
`process_create_config.rs` `MigratedPoolFeeValidator::validate` -/
theorem AcceptedConfig.migratedPoolFees_sent (a : AcceptedConfig)
    (hoption : MigrationOption.tryFrom a.params.migrationOption = some .dammV2)
    (hfeeOption : MigrationFeeOption.tryFrom a.params.migrationFeeOption = some .customizable) :
    ∃ c lowest fees, a.params.initMigratedPoolFees = .ok c ∧
      c.getDammV2MigratedPoolMinBaseFeeNumerator = .ok lowest ∧
      c.buildDammV2PoolFeeParams = .ok fees ∧
      SentAsSubmitted a.params.migratedPoolFeeValidator lowest fees := by
  obtain ⟨hbps, hdynamic, lowest, hcheck⟩ :=
    MigratedPoolFeeValidator.validate_spec (a.paramsValidated.migratedPoolFee hoption hfeeOption)
  obtain ⟨c, hc, hstored⟩ := initMigratedPoolFees_eq a.params
  have hfactor : a.params.migratedPoolMarketCapFeeSchedulerParams.reductionFactor < 2 ^ 64 :=
    a.inRange.2.2.2.1 _ (by simp [ConfigParameters.u64Fields])
  have hlowest := getDammV2MigratedPoolMinBaseFeeNumerator_eq hstored a.inRange hcheck
  obtain ⟨⟨hmode, hlowestFixed, hperiods⟩, hmin, hcliff, hmax⟩ := hcheck.spec hbps hfactor
  obtain ⟨data, hdata, hrecord⟩ := buildDammV2BaseFeeParams_eq hstored a.inRange hcheck
  obtain ⟨fee, hfee, hnone, hsome⟩ :=
    buildDammV2DynamicFeeParams_eq hstored hlowest hmin hmax hdynamic
  obtain ⟨hfixed, hfalling⟩ := decode_baseFeeRecord a.inRange hbps.2
  rw [← hrecord] at hfixed hfalling
  refine ⟨c, lowest, ⟨data, c.migratedCompoundingFeeBps, fee⟩, hc, hlowest, ?_,
    hstored.compoundingFeeBps, hmode, fun h => ⟨hfixed h, hlowestFixed h⟩,
    fun h => ⟨hfalling h, hperiods h⟩, ⟨hmin, hcliff⟩, hnone, hsome⟩
  unfold MigratedPoolFees.buildDammV2PoolFeeParams
  rw [hdata, ok_bind, hfee]
  rfl

/-- A configuration whose pool migrates with a falling fee and a dynamic one. -/
def fallingFeeConfig : AcceptedConfig :=
  (AcceptedConfig.submit
    { plainParameters (2 ^ 64) 1000000 [{ sqrtPrice := 2 ^ 65, liquidity := 2 ^ 90 }] with
      migrationFeeOption := 6
      migratedPoolFee := { collectFeeMode := 0, dynamicFee := 1, poolFeeBps := 500 }
      migratedPoolBaseFeeMode := 3
      migratedPoolMarketCapFeeSchedulerParams :=
        { numberOfPeriod := 100
          sqrtPriceStepBps := 50
          schedulerExpirationDuration := 86400
          reductionFactor := 400000 } }
    plainQuoteMint 1 false 2 3).get (by decide +kernel)

/-- The fee falls from 50000000 by 400000 a hundred times. -/
theorem migratedPoolFees_sent_falling : ∃ c lowest fees,
    fallingFeeConfig.params.initMigratedPoolFees = .ok c ∧
      c.getDammV2MigratedPoolMinBaseFeeNumerator = .ok lowest ∧
      c.buildDammV2PoolFeeParams = .ok fees ∧
      SentAsSubmitted fallingFeeConfig.params.migratedPoolFeeValidator lowest fees :=
  fallingFeeConfig.migratedPoolFees_sent (by decide +kernel) (by decide +kernel)

end DynamicBondingCurve
