import DynamicBondingCurve.Program
import DynamicBondingCurve.Library.Transitions

/-!
# The volatility tracker over a run

Before a swap the tracker may move its reference price to the live price and decay its reference
volatility; after the swap it measures the live price against the reference price. A fresh tracker
has no reference price.

* `getDeltaBinId_isOk`: the ratio of two prices within the bounds fits.
* `Tracked`: a tracker that has a reference price, or was never updated and will take one.
* `PoolState.priceMove_tracked`: one swap succeeds and keeps this.
* `PoolState.dynamicFee_total`: **the tracker never stops a swap**, its volatility stays within
  its bound, and the fee with it is between the base fee and the highest fee.
-/

namespace DynamicBondingCurve

open Library

/-! ## One measurement -/

/-- A price within the bounds.
Source: `constants.rs` `MIN_SQRT_PRICE`, `MAX_SQRT_PRICE` -/
def WithinBounds (sqrtPrice : ℕ) : Prop := MIN_SQRT_PRICE ≤ sqrtPrice ∧ sqrtPrice ≤ MAX_SQRT_PRICE

/-- **The ratio of two prices within the bounds fits**, and the bins between them are few.
Source: `state/fee.rs` `get_delta_bin_id` -/
theorem VolatilityTracker.getDeltaBinId_isOk {a b : ℕ} (ha : WithinBounds a) (hb : WithinBounds b) :
    ∃ delta, getDeltaBinId BIN_STEP_BPS_U128_DEFAULT a b = .ok delta ∧ delta < 2 ^ 80 := by
  obtain ⟨hamin, hamax⟩ := ha
  obtain ⟨hbmin, hbmax⟩ := hb
  have hlow : MIN_SQRT_PRICE ≤ min a b := le_min hamin hbmin
  have hhigh : max a b ≤ MAX_SQRT_PRICE := max_le hamax hbmax
  have hle : min a b ≤ max a b := min_le_max
  have hpos : 0 < min a b := lt_of_lt_of_le (by decide) hlow
  show ∃ delta, (do
      let priceRatio ← safeShlDivCast (max a b) (min a b) 64 .down
      let excess ← safeSub priceRatio ONE_Q64
      let deltaBinId ← safeDiv excess BIN_STEP_BPS_U128_DEFAULT
      safeMul 128 deltaBinId 2) = .ok delta ∧ delta < 2 ^ 80
  generalize max a b = upper at hhigh hle ⊢
  generalize min a b = lower at hlow hle hpos ⊢
  have hshift : upper * 2 ^ 64 ≤ MAX_SQRT_PRICE * 2 ^ 64 := Nat.mul_le_mul_right _ hhigh
  have hratio : upper * 2 ^ 64 / lower ≤ MAX_SQRT_PRICE * 2 ^ 64 / MIN_SQRT_PRICE :=
    (Nat.div_le_div_right hshift).trans (Nat.div_le_div_left hlow (by decide))
  have hfit : MAX_SQRT_PRICE * 2 ^ 64 / MIN_SQRT_PRICE < 2 ^ 128 := by decide
  have hone : ONE_Q64 ≤ upper * 2 ^ 64 / lower := by
    rw [Nat.le_div_iff_mul_le hpos, Nat.mul_comm]
    exact Nat.mul_le_mul_right _ hle
  have hdiv : safeShlDivCast upper lower 64 .down = .ok (upper * 2 ^ 64 / lower) := by
    have hwide : upper * 2 ^ 64 < 2 ^ 256 := hshift.trans_lt (by decide)
    unfold safeShlDivCast shlDiv
    rw [if_neg hpos.ne', if_pos ⟨hwide, hratio.trans_lt hfit⟩]
    rfl
  have hbins : (upper * 2 ^ 64 / lower - ONE_Q64) / BIN_STEP_BPS_U128_DEFAULT < 2 ^ 79 := by
    rw [Nat.div_lt_iff_lt_mul (by decide)]
    calc upper * 2 ^ 64 / lower - ONE_Q64 ≤ upper * 2 ^ 64 / lower := Nat.sub_le _ _
      _ < 2 ^ 128 := hratio.trans_lt hfit
      _ ≤ 2 ^ 79 * BIN_STEP_BPS_U128_DEFAULT := by decide
  refine ⟨_, bind_eq_ok.mpr ⟨_, hdiv, bind_eq_ok.mpr ⟨_, safeSub_eq_ok.mpr ⟨hone, rfl⟩,
    bind_eq_ok.mpr ⟨_, safeDiv_eq_ok.mpr ⟨by decide, rfl⟩, safeMul_eq_ok.mpr ⟨?_, rfl⟩⟩⟩⟩, ?_⟩
  all_goals omega

/-! ## The tracker -/

section Tracker

variable {params : DynamicFeeParameters} {t : VolatilityTracker} {price timestamp : ℕ}

/-- What validation says of the parameters of a dynamic fee.
Source: `params/fee_parameters.rs` `DynamicFeeParameters::validate` -/
structure DynamicFeeParameters.Valid (p : DynamicFeeParameters) : Prop where
  binStep : p.binStep = BIN_STEP_BPS_DEFAULT
  binStepU128 : p.binStepU128 = BIN_STEP_BPS_U128_DEFAULT
  filter_lt_decay : p.filterPeriod < p.decayPeriod
  reduction_le : p.reductionFactor ≤ BASIS_POINT_MAX
  control_le : p.variableFeeControl ≤ U24_MAX
  maxVolatility_le : p.maxVolatilityAccumulator ≤ U24_MAX

/-- What the checks of a dynamic fee say.
Source: `params/fee_parameters.rs` `DynamicFeeParameters::validate` -/
theorem DynamicFeeParameters.validate_spec (h : params.validate = .ok ()) : params.Valid := by
  simp only [validate, bind_eq_ok, exists_unit, require_eq_ok] at h
  obtain ⟨hbin, hbin128, hfilter, hreduction, hcontrol, hmax⟩ := h
  exact ⟨hbin, hbin128, hfilter, hreduction, hcontrol, hmax⟩

/-- The volatility stays within its bound.
Source: `state/fee.rs` `update_volatility_accumulator`, the minimum -/
structure VolatilityTracker.Bounded (params : DynamicFeeParameters) (t : VolatilityTracker) :
    Prop where
  accumulator_le : t.volatilityAccumulator ≤ params.maxVolatilityAccumulator
  reference_le : t.volatilityReference ≤ params.maxVolatilityAccumulator

/-- A tracker that has a reference price, or was never updated and will take one: the time since
then is longer than every filter period.
Source: `state/fee.rs` `VolatilityTracker`, `update_references` -/
structure VolatilityTracker.Tracked (params : DynamicFeeParameters) (t : VolatilityTracker) :
    Prop extends t.Bounded params where
  reference : WithinBounds t.sqrtPriceReference ∨ t.lastUpdateTimestamp = 0

namespace VolatilityTracker

/-- **Before a swap the tracker takes a reference price if it has none.**
Source: `state/fee.rs` `update_references` -/
theorem Tracked.updateReferences (hvalid : params.Valid) (hdecay : params.decayPeriod < 2 ^ 16)
    (ht : t.Tracked params) (hprice : WithinBounds price) (htime : 65535 ≤ timestamp) :
    ∃ u, t.updateReferences params.toDynamicFeeConfig price timestamp = .ok u ∧
      u.Tracked params ∧ WithinBounds u.sqrtPriceReference := by
  have hfilter := hvalid.filter_lt_decay
  by_cases hold : timestamp - t.lastUpdateTimestamp ≥ params.filterPeriod
  · -- the live price becomes the reference price
    by_cases hrecent : timestamp - t.lastUpdateTimestamp < params.decayPeriod
    · have hle : t.volatilityAccumulator * params.reductionFactor / BASIS_POINT_MAX ≤
          t.volatilityAccumulator := by
        apply Nat.div_le_of_le_mul
        rw [Nat.mul_comm BASIS_POINT_MAX]
        exact Nat.mul_le_mul_left _ hvalid.reduction_le
      have hfit : t.volatilityAccumulator * params.reductionFactor < 2 ^ 128 := by
        calc t.volatilityAccumulator * params.reductionFactor ≤ U24_MAX * BASIS_POINT_MAX :=
              Nat.mul_le_mul (ht.accumulator_le.trans hvalid.maxVolatility_le) hvalid.reduction_le
          _ < 2 ^ 128 := by decide
      refine ⟨_, (if_pos hold).trans ((if_pos hrecent).trans (bind_eq_ok.mpr ⟨_,
        safeMul_eq_ok.mpr ⟨hfit, rfl⟩, bind_eq_ok.mpr ⟨_, safeDiv_eq_ok.mpr ⟨by decide, rfl⟩,
        rfl⟩⟩)), ?_, hprice⟩
      exact ⟨⟨ht.accumulator_le, hle.trans ht.accumulator_le⟩, .inl hprice⟩
    · refine ⟨_, (if_pos hold).trans (if_neg hrecent), ?_, hprice⟩
      exact ⟨⟨ht.accumulator_le, Nat.zero_le _⟩, .inl hprice⟩
  · -- a recent update left a reference price
    have hreference : WithinBounds t.sqrtPriceReference := by
      rcases ht.reference with hreference | hfresh
      · exact hreference
      · omega
    exact ⟨t, if_neg hold, ht, hreference⟩

/-- **After a swap the volatility is measured and capped.**
Source: `state/fee.rs` `update_volatility_accumulator` -/
theorem Tracked.updateVolatilityAccumulator (hvalid : params.Valid) (ht : t.Tracked params)
    (hreference : WithinBounds t.sqrtPriceReference) (hprice : WithinBounds price) :
    ∃ u, t.updateVolatilityAccumulator params.toDynamicFeeConfig price = .ok u ∧
      u.Tracked params ∧ WithinBounds u.sqrtPriceReference := by
  obtain ⟨delta, hdelta, hsmall⟩ := getDeltaBinId_isOk hprice hreference
  have hstep : params.toDynamicFeeConfig.binStepU128 = BIN_STEP_BPS_U128_DEFAULT :=
    hvalid.binStepU128
  rw [← hstep] at hdelta
  have hmax : t.volatilityReference ≤ U24_MAX := ht.reference_le.trans hvalid.maxVolatility_le
  have hscaled : delta * BASIS_POINT_MAX < 2 ^ 127 := by
    simp only [BASIS_POINT_MAX]
    omega
  refine ⟨_, bind_eq_ok.mpr ⟨_, hdelta, bind_eq_ok.mpr ⟨_, safeMul_eq_ok.mpr ⟨?_, rfl⟩,
    bind_eq_ok.mpr ⟨_, safeAdd_eq_ok.mpr ⟨?_, rfl⟩, rfl⟩⟩⟩, ?_, hreference⟩
  · omega
  · simp only [U24_MAX] at hmax
    omega
  · exact ⟨⟨min_le_right _ _, ht.reference_le⟩, .inl hreference⟩

end VolatilityTracker

end Tracker

/-! ## The fee with the tracker -/

section Fee

variable {params : DynamicFeeParameters} {t : VolatilityTracker} {c : PoolFeesConfig}

/-- The dynamic fee of a bounded volatility fits.
Source: `state/config.rs` `get_variable_fee_numerator` -/
theorem getVariableFeeNumerator_isOk (hvalid : params.Valid) (ht : t.Bounded params) :
    ∃ fee, params.toDynamicFeeConfig.getVariableFeeNumerator t = .ok fee ∧ fee < 2 ^ 64 := by
  have hbin : params.toDynamicFeeConfig.binStep = 1 := hvalid.binStep
  have hcontrol : params.toDynamicFeeConfig.variableFeeControl ≤ U24_MAX := hvalid.control_le
  have hvolatility : t.volatilityAccumulator ≤ U24_MAX :=
    ht.accumulator_le.trans hvalid.maxVolatility_le
  have hbound : U24_MAX = 2 ^ 24 - 1 := by decide
  have hvfa : t.volatilityAccumulator * params.toDynamicFeeConfig.binStep < 2 ^ 24 := by
    rw [hbin]
    omega
  generalize hvfaEq : t.volatilityAccumulator * params.toDynamicFeeConfig.binStep = vfaBin at hvfa
  have hsquare : vfaBin * vfaBin < 2 ^ 48 := by
    calc vfaBin * vfaBin < 2 ^ 24 * 2 ^ 24 := Nat.mul_lt_mul'' hvfa hvfa
      _ = 2 ^ 48 := by norm_num
  have hfee : vfaBin * vfaBin * params.toDynamicFeeConfig.variableFeeControl < 2 ^ 72 := by
    calc vfaBin * vfaBin * params.toDynamicFeeConfig.variableFeeControl < 2 ^ 48 * 2 ^ 24 :=
          Nat.mul_lt_mul'' hsquare (by omega)
      _ = 2 ^ 72 := by norm_num
  have henabled : ¬ ¬ params.toDynamicFeeConfig.isDynamicFeeEnable := not_not.mpr rfl
  refine ⟨_, (if_neg henabled).trans (bind_eq_ok.mpr ⟨vfaBin, safeMul_eq_ok.mpr ⟨?_, hvfaEq.symm⟩,
    bind_eq_ok.mpr ⟨_, safeMul_eq_ok.mpr ⟨?_, rfl⟩, bind_eq_ok.mpr ⟨_,
    safeMul_eq_ok.mpr ⟨?_, rfl⟩, bind_eq_ok.mpr ⟨_, safeAdd_eq_ok.mpr ⟨?_, rfl⟩,
    safeDiv_eq_ok.mpr ⟨by decide, rfl⟩⟩⟩⟩⟩), ?_⟩
  all_goals omega

/-- **The total fee is at least the base fee and at most the highest fee.**
Source: `state/config.rs` `get_total_fee_numerator` -/
theorem getTotalFeeNumerator_isOk {base : ℕ} (hvalid : params.Valid) (ht : t.Bounded params)
    (hc : c.dynamicFee = params.toDynamicFeeConfig) (hbase : base ≤ MAX_FEE_NUMERATOR) :
    ∃ total, c.getTotalFeeNumerator base t = .ok total ∧ base ≤ total ∧
      total ≤ MAX_FEE_NUMERATOR := by
  obtain ⟨fee, hfee, hfit⟩ := getVariableFeeNumerator_isOk hvalid ht
  rw [← hc] at hfee
  have hsum : fee + base < 2 ^ 128 := by
    simp only [MAX_FEE_NUMERATOR] at hbase
    omega
  refine ⟨_, bind_eq_ok.mpr ⟨_, hfee, bind_eq_ok.mpr ⟨_, safeAdd_eq_ok.mpr ⟨hsum, rfl⟩, rfl⟩⟩,
    ?_, ?_⟩
  all_goals
    split_ifs with hover
    all_goals omega

/-- With this tracker a valid base fee is charged, for an amount in and for an amount out.
Source: `state/config.rs` `get_total_fee_numerator_from_included_fee_amount`,
`get_total_fee_numerator_from_excluded_fee_amount` -/
structure PoolFeesConfig.ChargesBaseFee (c : PoolFeesConfig) (t : VolatilityTracker) : Prop where
  included : ∀ currentPoint activationPoint amount direction handler base,
    c.baseFee.getBaseFeeHandler = .ok handler →
    handler.getBaseFeeNumeratorFromIncludedFeeAmount currentPoint activationPoint direction
      amount = .ok base → base ≤ MAX_FEE_NUMERATOR →
      ∃ total, c.getTotalFeeNumeratorFromIncludedFeeAmount t currentPoint activationPoint amount
        direction = .ok total ∧ base ≤ total ∧ total ≤ MAX_FEE_NUMERATOR
  excluded : ∀ currentPoint activationPoint amount direction handler base,
    c.baseFee.getBaseFeeHandler = .ok handler →
    handler.getBaseFeeNumeratorFromExcludedFeeAmount currentPoint activationPoint direction
      amount = .ok base → base ≤ MAX_FEE_NUMERATOR →
      ∃ total, c.getTotalFeeNumeratorFromExcludedFeeAmount t currentPoint activationPoint amount
        direction = .ok total ∧ base ≤ total ∧ total ≤ MAX_FEE_NUMERATOR

/-- With a bounded tracker every base fee has a whole fee.
Source: `state/config.rs` `get_total_fee_numerator_from_included_fee_amount`,
`get_total_fee_numerator_from_excluded_fee_amount` -/
theorem chargesBaseFee_of_bounded (hvalid : params.Valid) (ht : t.Bounded params)
    (hc : c.dynamicFee = params.toDynamicFeeConfig) : c.ChargesBaseFee t := by
  constructor
  · intro currentPoint activationPoint amount direction handler base hhandler hbase hle
    obtain ⟨total, htotal, hrest⟩ := getTotalFeeNumerator_isOk hvalid ht hc hle
    exact ⟨total, bind_eq_ok.mpr ⟨_, hhandler, bind_eq_ok.mpr ⟨_, hbase, htotal⟩⟩, hrest⟩
  · intro currentPoint activationPoint amount direction handler base hhandler hbase hle
    obtain ⟨total, htotal, hrest⟩ := getTotalFeeNumerator_isOk hvalid ht hc hle
    exact ⟨total, bind_eq_ok.mpr ⟨_, hhandler, bind_eq_ok.mpr ⟨_, hbase, htotal⟩⟩, hrest⟩

end Fee

/-! ## Runs -/

/-- A swap as the tracker sees it: when it happens and where the price goes.
Source: `state/virtual_pool.rs` `apply_swap_result`, the price and the timestamp -/
structure PriceMove where
  timestamp : ℕ
  sqrtPrice : ℕ
  deriving DecidableEq, Repr

/-- A move after the first day of the clock to a price within the bounds.
Source: `constants.rs` `MIN_SQRT_PRICE`, `MAX_SQRT_PRICE` -/
def PriceMove.Allowed (m : PriceMove) : Prop := 65535 ≤ m.timestamp ∧ WithinBounds m.sqrtPrice

namespace PoolState

/-- The update before a swap, the new price, the update after the swap.
Source: `state/virtual_pool.rs` `update_pre_swap`, `apply_swap_result`, `update_post_swap` -/
def priceMove (config : PoolConfig) (p : PoolState) (m : PriceMove) : Result PoolState := do
  let q ← p.updatePreSwap config m.timestamp
  PoolState.updatePostSwap { q with sqrtPrice := m.sqrtPrice } config q.sqrtPrice m.timestamp

section Runs

variable {params : DynamicFeeParameters} {config : PoolConfig} {p : PoolState}

/-- A pool with a price within the bounds and a tracker that will not fail.
Source: none: the invariant of the runs -/
structure Tracked (params : DynamicFeeParameters) (p : PoolState) : Prop where
  price : WithinBounds p.sqrtPrice
  tracker : p.volatilityTracker.Tracked params

/-- A tracked pool is updated before a swap, and stays tracked.
Source: `state/virtual_pool.rs` `update_pre_swap` -/
theorem Tracked.updatePreSwap {timestamp : ℕ} (hvalid : params.Valid)
    (hdecay : params.decayPeriod < 2 ^ 16)
    (hconfig : config.poolFees.dynamicFee = params.toDynamicFeeConfig) (hp : p.Tracked params)
    (htime : 65535 ≤ timestamp) :
    ∃ q, p.updatePreSwap config timestamp = .ok q ∧ q.Tracked params ∧
      q.sqrtPrice = p.sqrtPrice ∧ WithinBounds q.volatilityTracker.sqrtPriceReference := by
  obtain ⟨t, ht, htracked, hreference⟩ :=
    hp.tracker.updateReferences hvalid hdecay hp.price htime
  rw [← hconfig] at ht
  have henabled : config.poolFees.dynamicFee.isDynamicFeeEnable = true := by
    rw [hconfig]
    rfl
  exact ⟨_, (if_pos henabled).trans (bind_eq_ok.mpr ⟨_, ht, rfl⟩), ⟨hp.price, htracked⟩, rfl,
    hreference⟩

/-- **One swap succeeds and keeps the tracker going.**
Source: `state/virtual_pool.rs` `update_pre_swap`, `update_post_swap` -/
theorem priceMove_tracked {m : PriceMove} (hvalid : params.Valid)
    (hdecay : params.decayPeriod < 2 ^ 16)
    (hconfig : config.poolFees.dynamicFee = params.toDynamicFeeConfig) (hm : m.Allowed)
    (hp : p.Tracked params) : ∃ q, priceMove config p m = .ok q ∧ q.Tracked params := by
  obtain ⟨htime, hprice⟩ := hm
  obtain ⟨q, hq, htracked, hsame, hreference⟩ := hp.updatePreSwap hvalid hdecay hconfig htime
  obtain ⟨t, ht, htrackedAfter, hreferenceAfter⟩ :=
    htracked.tracker.updateVolatilityAccumulator hvalid hreference hprice
  have hstep : config.poolFees.dynamicFee.binStepU128 = BIN_STEP_BPS_U128_DEFAULT := by
    rw [hconfig]
    exact hvalid.binStepU128
  obtain ⟨delta, hdelta, _⟩ := VolatilityTracker.getDeltaBinId_isOk htracked.price hprice
  rw [← hstep] at hdelta
  rw [← hconfig] at ht
  have henabled : config.poolFees.dynamicFee.isDynamicFeeEnable = true := by
    rw [hconfig]
    rfl
  refine ⟨_, bind_eq_ok.mpr ⟨q, hq, (if_pos henabled).trans (bind_eq_ok.mpr ⟨t, ht,
    bind_eq_ok.mpr ⟨delta, hdelta, rfl⟩⟩)⟩, hprice, ?_⟩
  show (if delta > 0 then { t with lastUpdateTimestamp := m.timestamp } else t).Tracked params
  split_ifs
  · exact ⟨⟨htrackedAfter.accumulator_le, htrackedAfter.reference_le⟩, .inl hreferenceAfter⟩
  · exact htrackedAfter

/-- **The tracker never stops a swap.** From a fresh tracker, every sequence of swaps within the
bounds of the price succeeds; after it, and after the update before one more swap, the volatility is
within its bound, and every valid base fee is charged, with a total between it and the highest fee.
The times need not even ascend: the elapsed time saturates.
Source: `state/fee.rs` `VolatilityTracker`; `state/virtual_pool.rs` `update_pre_swap`,
`update_post_swap`; `state/config.rs` `get_total_fee_numerator` -/
theorem dynamicFee_total (params : DynamicFeeParameters) (hvalid : params.validate = .ok ())
    (hdecay : params.decayPeriod < 2 ^ 16) (config : PoolConfig)
    (hconfig : config.poolFees.dynamicFee = params.toDynamicFeeConfig) (p : PoolState)
    (hfresh : p.volatilityTracker = default) (hprice : WithinBounds p.sqrtPrice)
    (moves : List PriceMove) (hmoves : ∀ m ∈ moves, m.Allowed) :
    ∃ q, moves.foldlM (priceMove config) p = .ok q ∧ q.volatilityTracker.Bounded params ∧
      config.poolFees.ChargesBaseFee q.volatilityTracker ∧
      ∀ timestamp, 65535 ≤ timestamp →
        ∃ r, q.updatePreSwap config timestamp = .ok r ∧ r.volatilityTracker.Bounded params ∧
          config.poolFees.ChargesBaseFee r.volatilityTracker := by
  have hvalid := DynamicFeeParameters.validate_spec hvalid
  have hstart : p.Tracked params := by
    refine ⟨hprice, ?_⟩
    rw [hfresh]
    exact ⟨⟨Nat.zero_le _, Nat.zero_le _⟩, .inr rfl⟩
  have hrun : ∃ q, moves.foldlM (priceMove config) p = .ok q ∧ q.Tracked params := by
    apply foldlM_progress (Tracked params) PriceMove.Allowed _ hmoves hstart
    intro q m hm hq
    exact priceMove_tracked hvalid hdecay hconfig hm hq
  obtain ⟨q, hq, htracked⟩ := hrun
  refine ⟨q, hq, htracked.tracker.toBounded,
    chargesBaseFee_of_bounded hvalid htracked.tracker.toBounded hconfig, ?_⟩
  intro timestamp htime
  obtain ⟨r, hr, hnext, -⟩ := htracked.updatePreSwap hvalid hdecay hconfig htime
  exact ⟨r, hr, hnext.tracker.toBounded,
    chargesBaseFee_of_bounded hvalid hnext.tracker.toBounded hconfig⟩

end Runs

/-- Two swaps, one second apart, in a new pool, under a dynamic fee of 10 and 120 seconds. -/
theorem dynamicFee_total_twoSwaps :
    let params : DynamicFeeParameters := ⟨1, 1844674407370955, 10, 120, 5000, 100000, 40000⟩
    let poolFees := { (default : PoolFeesConfig) with dynamicFee := params.toDynamicFeeConfig }
    let config := { (default : PoolConfig) with poolFees := poolFees }
    let p := PoolState.initializeState 0 (2 ^ 64) 0 1000000 0 0
    ∃ q, [⟨70000, 2 ^ 65⟩, ⟨70001, 3 * 2 ^ 64⟩].foldlM (priceMove config) p = .ok q ∧
      q.volatilityTracker.Bounded params := by
  intro params poolFees config p
  have hprice : WithinBounds (2 ^ 64) := ⟨by decide, by decide⟩
  have hmoves : ∀ m ∈ [⟨70000, 2 ^ 65⟩, ⟨70001, 3 * 2 ^ 64⟩], PriceMove.Allowed m := by
    intro m hm
    fin_cases hm <;> exact ⟨by decide, by decide, by decide⟩
  obtain ⟨q, hq, hbounded, -⟩ := dynamicFee_total params (by decide) (by decide) config rfl p rfl
    hprice _ hmoves
  exact ⟨q, hq, hbounded⟩

end PoolState

end DynamicBondingCurve
