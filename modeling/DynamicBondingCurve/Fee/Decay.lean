import DynamicBondingCurve.Fee.BaseFee
import DynamicBondingCurve.Library.FixedPoint

/-!
# The decay of the fee scheduler

The exponential mode takes a power of a base just below one by nineteen squarings, each truncated,
and fails when the power truncates to nothing. The creation of a configuration computes the last
period only.

* `pow_eq`: the nineteen statements compute the truncated power of the library.
* `decayBase_gap`: the base is below one by more than a twenty-thousandth.
* `decayed_pos`, `decayed_mono`: **when the last period succeeds, every period before it succeeds
  and is charged at least as much**, although the truncated powers alone need not decrease.
* `FeeScheduler.feeDecays`: the same for the two modes of the scheduler, at every time.
-/

namespace DynamicBondingCurve

open Library

/-! ## The power -/

section Power

variable {base n : ℕ}

/-- A product of two numbers up to one fits.
Source: `math/fee_math.rs` `pow`, `checked_mul` and the shift after it -/
theorem mulScaled_eq {a b : ℕ} (ha : a ≤ 2 ^ 64) (hb : b < 2 ^ 64) :
    mulScaled a b = some (truncMul (2 ^ 64) a b) := by
  have hfit : a * b < 2 ^ 128 := by
    calc a * b ≤ 2 ^ 64 * b := Nat.mul_le_mul_right b ha
      _ < 2 ^ 64 * 2 ^ 64 := Nat.mul_lt_mul_of_pos_left hb (by decide)
      _ = 2 ^ 128 := by norm_num
  exact if_pos hfit

/-- The loop from the lowest bit computes the power by the bits it has seen.
Source: `math/fee_math.rs` `pow`, the nineteen statements on `exp` -/
theorem powBits_eq (hbase : base < 2 ^ 64) :
    ∀ bits j, powBits bits (n / 2 ^ j) (squares (2 ^ 64) base j)
      (powTrunc (2 ^ 64) base j n) = some (powTrunc (2 ^ 64) base (j + bits) n)
  | 0, j => rfl
  | bits + 1, j => by
      have hscale : 0 < 2 ^ 64 := by decide
      have hsquare : squares (2 ^ 64) base j < 2 ^ 64 :=
        (squares_le hscale hbase.le j).trans_lt hbase
      have hpower : powTrunc (2 ^ 64) base j n ≤ 2 ^ 64 := powTrunc_le hscale hbase.le j n
      have hresult : (if n / 2 ^ j % 2 = 1 then
          mulScaled (powTrunc (2 ^ 64) base j n) (squares (2 ^ 64) base j)
          else some (powTrunc (2 ^ 64) base j n)) = some (powTrunc (2 ^ 64) base (j + 1) n) := by
        by_cases hbit : n / 2 ^ j % 2 = 1
        · rw [if_pos hbit, mulScaled_eq hpower hsquare, powTrunc,
            if_pos (by rw [Nat.testBit_eq_decide_div_mod_eq]; exact decide_eq_true hbit)]
        · rw [if_neg hbit, powTrunc,
            if_neg (by rw [Nat.testBit_eq_decide_div_mod_eq, decide_eq_true_eq]; exact hbit)]
      rw [powBits, hresult, Option.bind_eq_bind, Option.bind_some]
      by_cases hlast : bits = 0
      · rw [if_pos hlast, hlast]
      · rw [if_neg hlast, mulScaled_eq hsquare.le hsquare, Option.bind_some,
          Nat.div_div_eq_div_mul, ← pow_succ]
        have h := powBits_eq hbase bits (j + 1)
        rw [Nat.add_right_comm] at h
        exact h

/-- **The nineteen statements compute the truncated power**, and fail when it vanishes.
Source: `math/fee_math.rs` `pow` -/
theorem pow_eq (hbase : base < 2 ^ 64) (hn : n < 2 ^ 16) :
    pow base n = if powTrunc (2 ^ 64) base 16 n = 0 then none
      else some (powTrunc (2 ^ 64) base 16 n) := by
  have hbits : powTrunc (2 ^ 64) base (0 + 19) n = powTrunc (2 ^ 64) base 16 n :=
    powTrunc_eq_of_lt hn (by decide)
  have hloop := powBits_eq (n := n) hbase 19 0
  rw [hbits, pow_zero, Nat.div_one] at hloop
  have hmin : (n : ℤ) ≠ -2 ^ 31 := by omega
  have hone : ¬ base ≥ ONE_Q64 := not_le.mpr hbase
  rw [pow, if_neg hmin]
  by_cases hzero : n = 0
  · subst hzero
    rw [if_pos (by rfl), powTrunc_zero]
    rfl
  · have hexp : ¬ (n : ℤ).natAbs ≥ MAX_EXPONENTIAL := by
      simp only [Int.natAbs_natCast, MAX_EXPONENTIAL]
      omega
    have hsign : ¬ (n : ℤ) < 0 := by omega
    rw [if_neg (by exact_mod_cast hzero), if_neg hexp]
    simp only [if_neg hone, Int.natAbs_natCast]
    have hpower : powBits 19 n base ONE_Q64 = some (powTrunc (2 ^ 64) base 16 n) := hloop
    rw [hpower, Option.bind_eq_bind, Option.bind_some, decide_eq_false hsign]
    simp only [Bool.false_eq_true, if_false]

end Power

/-! ## The fee of a period -/

/-- One less the reduction, in fixed point.
Source: `math/fee_math.rs` `get_fee_in_period`, `base` -/
def decayBase (reductionFactor : ℕ) : ℕ := 2 ^ 64 - reductionFactor * 2 ^ 64 / BASIS_POINT_MAX

/-- The power of the base, in fixed point.
Source: `math/fee_math.rs` `get_fee_in_period`, `result` -/
def decayed (reductionFactor period : ℕ) : ℕ :=
  powTrunc (2 ^ 64) (decayBase reductionFactor) 16 period

section Period

variable {cliff reduction period later fee : ℕ}

/-- A reduction takes at least one ten-thousandth off.
Source: `math/fee_math.rs` `get_fee_in_period`, `bps` -/
theorem decayBase_gap (hreduction : 0 < reduction) :
    decayBase reduction * (20000 + 1) ≤ 2 ^ 64 * 20000 := by
  have hbps : 2 ^ 64 / BASIS_POINT_MAX ≤ reduction * 2 ^ 64 / BASIS_POINT_MAX :=
    Nat.div_le_div_right (Nat.le_mul_of_pos_left _ hreduction)
  have hunit : 2 ^ 64 / BASIS_POINT_MAX = 1844674407370955 := by decide
  unfold decayBase
  omega

/-- With a reduction the base of the power is below one.
Source: `math/fee_math.rs` `get_fee_in_period` -/
theorem decayBase_lt (hreduction : 0 < reduction) : decayBase reduction < 2 ^ 64 := by
  have := decayBase_gap hreduction
  omega

/-- **The fee of a period, and when its computation succeeds.**
Source: `math/fee_math.rs` `get_fee_in_period` -/
theorem getFeeInPeriod_eq_ok (hreduction : 0 < reduction) (hfit : reduction < 2 ^ 64)
    (hcliff : cliff < 2 ^ 30) (hperiod : period < 2 ^ 16) :
    getFeeInPeriod cliff reduction period = .ok fee ↔
      reduction * 2 ^ 64 / BASIS_POINT_MAX ≤ 2 ^ 64 ∧ 0 < decayed reduction period ∧
        fee = decayed reduction period * cliff / 2 ^ 64 := by
  have hbase := decayBase_lt hreduction
  have hpower : decayed reduction period ≤ 2 ^ 64 := powTrunc_le (by decide) hbase.le _ _
  have hscaled : decayed reduction period * cliff < 2 ^ 128 := by
    calc decayed reduction period * cliff ≤ 2 ^ 64 * cliff := Nat.mul_le_mul_right _ hpower
      _ < 2 ^ 64 * 2 ^ 30 := Nat.mul_lt_mul_of_pos_left hcliff (by decide)
      _ ≤ 2 ^ 128 := by norm_num
  have hfee : decayed reduction period * cliff / 2 ^ 64 < 2 ^ 64 := by
    rw [Nat.div_lt_iff_lt_mul (by decide)]
    exact hscaled.trans_le (by norm_num)
  have hshift : safeShlPrim 128 reduction SCALE_OFFSET = .ok (reduction * 2 ^ 64) := by
    have hwide : reduction * 2 ^ 64 < 2 ^ 128 := by omega
    unfold safeShlPrim SCALE_OFFSET
    rw [if_pos (by decide), Nat.mod_eq_of_lt hwide]
  have hdiv : safeDiv (reduction * 2 ^ 64) BASIS_POINT_MAX =
      .ok (reduction * 2 ^ 64 / BASIS_POINT_MAX) := safeDiv_eq_ok.mpr ⟨by decide, rfl⟩
  unfold getFeeInPeriod
  rw [hshift, ok_bind, hdiv, ok_bind]
  simp only [bind_eq_ok, safeSub_eq_ok, orThrow_eq_ok, safeMul_eq_ok, safeCast_eq_ok]
  constructor
  · rintro ⟨_, ⟨hbps, rfl⟩, result, hresult, _, ⟨_, rfl⟩, _, rfl⟩
    have hpow := (pow_eq hbase hperiod).symm.trans hresult
    split_ifs at hpow with hzero
    obtain rfl := Option.some.inj hpow
    exact ⟨hbps, Nat.pos_of_ne_zero hzero, rfl⟩
  · rintro ⟨hbps, hpos, rfl⟩
    refine ⟨_, ⟨hbps, rfl⟩, decayed reduction period, ?_, _, ⟨hscaled, rfl⟩, hfee, rfl⟩
    exact (pow_eq hbase hperiod).trans (if_neg hpos.ne')

/-- **Before a period whose power does not vanish no power vanishes.**
Source: `math/fee_math.rs` `pow`, the failure of a result of zero -/
theorem decayed_pos (hreduction : 0 < reduction) (hle : period ≤ later) (hlater : later < 2 ^ 16)
    (hpos : 0 < decayed reduction later) : 0 < decayed reduction period := by
  have hroom : 20000 * 2 ^ 16 * (20000 * 2 ^ 16) ≤ 2 ^ 64 := by norm_num
  exact powTrunc_pos (by decide) (decayBase_gap hreduction) (by decide) hroom (by decide) hle
    hlater hpos

/-- **The fee of a later period is at most the fee of an earlier one.** Powers above the threshold
decrease, and a power below it is worth no fee.
Source: `math/fee_math.rs` `get_fee_in_period` -/
theorem decayed_mono (hreduction : 0 < reduction) (hcliff : cliff < 2 ^ 30) (hle : period ≤ later)
    (hlater : later < 2 ^ 16) :
    decayed reduction later * cliff / 2 ^ 64 ≤ decayed reduction period * cliff / 2 ^ 64 := by
  rcases hle.eq_or_lt with rfl | hlt
  · exact le_rfl
  · by_cases hlarge : 20000 * 2 ^ 16 ≤ decayed reduction later
    · apply Nat.div_le_div_right
      apply Nat.mul_le_mul_right
      exact powTrunc_le_of_lt (by decide) (decayBase_gap hreduction) (by decide) hlater hlarge hlt
        (hle.trans hlater.le)
    · -- the power times the cliff is below one
      have hsmall : decayed reduction later * cliff < 2 ^ 64 := by
        calc decayed reduction later * cliff
            ≤ 20000 * 2 ^ 16 * 2 ^ 30 := Nat.mul_le_mul (not_le.mp hlarge).le hcliff.le
          _ < 2 ^ 64 := by norm_num
      rw [Nat.div_eq_of_lt hsmall]
      exact Nat.zero_le _

end Period

/-! ## The scheduler -/

namespace FeeScheduler

variable {s : FeeScheduler} {period later minFee : ℕ}

/-- What validation says of a scheduler: either it has no periods and no reduction, or all of its
factors are set; and the fee of its last period is computed.
Source: `base_fee/fee_scheduler.rs` `validate` -/
theorem validate_spec (hvalid : s.validate = .ok ()) :
    (s.periodFrequency = 0 ∧ s.numberOfPeriod = 0 ∧ s.reductionFactor = 0 ∨
      s.periodFrequency ≠ 0 ∧ 0 < s.reductionFactor) ∧
      s.cliffFeeNumerator ≤ MAX_FEE_NUMERATOR ∧
        ∃ minFee, s.getMinBaseFeeNumerator = .ok minFee := by
  simp only [validate, bind_eq_ok, exists_unit, require_eq_ok] at hvalid
  obtain ⟨hfactors, minFee, hmin, _, _, _, hmax⟩ := hvalid
  refine ⟨?_, hmax, minFee, hmin⟩
  split_ifs at hfactors with hset
  · obtain ⟨_, hfrequency, hreduction⟩ := require_eq_ok.mp hfactors
    exact .inr ⟨hfrequency, Nat.pos_of_ne_zero hreduction⟩
  · omega

/-- Periods after the last one are charged as the last one.
Source: `base_fee/fee_scheduler.rs` `get_base_fee_numerator_by_period`, `min` -/
theorem getBaseFeeNumeratorByPeriod_min (s : FeeScheduler) (period : ℕ) :
    s.getBaseFeeNumeratorByPeriod (min period s.numberOfPeriod) =
      s.getBaseFeeNumeratorByPeriod period := by
  unfold getBaseFeeNumeratorByPeriod
  rw [min_eq_left (min_le_right period s.numberOfPeriod)]

/-- **A period up to the last one is charged at most the cliff and at least a later period.**
Source: `base_fee/fee_scheduler.rs` `get_base_fee_numerator_by_period` -/
theorem getBaseFeeNumeratorByPeriod_mono (hreduction : 0 < s.reductionFactor)
    (hfit : s.reductionFactor < 2 ^ 64) (hcliff : s.cliffFeeNumerator < 2 ^ 30)
    (hmin : s.getMinBaseFeeNumerator = .ok minFee) (hle : period ≤ later)
    (hlater : later ≤ s.numberOfPeriod) :
    ∃ fee laterFee, s.getBaseFeeNumeratorByPeriod period = .ok fee ∧
      s.getBaseFeeNumeratorByPeriod later = .ok laterFee ∧ laterFee ≤ fee ∧
        fee ≤ s.cliffFeeNumerator := by
  unfold getMinBaseFeeNumerator at hmin
  unfold getBaseFeeNumeratorByPeriod at hmin ⊢
  rw [min_self, bind_eq_ok] at hmin
  rw [min_eq_left (hle.trans hlater), min_eq_left hlater]
  obtain ⟨mode, hmode, hmin⟩ := hmin
  rw [hmode]
  cases mode with
  | linear =>
    simp only [bind_eq_ok, safeMul_eq_ok, safeSub_eq_ok] at hmin
    obtain ⟨_, ⟨hproduct, rfl⟩, hreach, _⟩ := hmin
    have hearly : s.reductionFactor * period ≤ s.reductionFactor * later :=
      Nat.mul_le_mul_left _ hle
    have hlate : s.reductionFactor * later ≤ s.reductionFactor * s.numberOfPeriod :=
      Nat.mul_le_mul_left _ hlater
    refine ⟨s.cliffFeeNumerator - s.reductionFactor * period,
      s.cliffFeeNumerator - s.reductionFactor * later, ?_, ?_, Nat.sub_le_sub_left hearly _,
      Nat.sub_le _ _⟩
    · exact bind_eq_ok.mpr ⟨_, rfl, bind_eq_ok.mpr ⟨_, safeMul_eq_ok.mpr ⟨by omega, rfl⟩,
        safeSub_eq_ok.mpr ⟨by omega, rfl⟩⟩⟩
    · exact bind_eq_ok.mpr ⟨_, rfl, bind_eq_ok.mpr ⟨_, safeMul_eq_ok.mpr ⟨by omega, rfl⟩,
        safeSub_eq_ok.mpr ⟨by omega, rfl⟩⟩⟩
  | exponential =>
    simp only [bind_eq_ok, exists_unit, require_eq_ok] at hmin
    obtain ⟨hwidth, hmin⟩ := hmin
    obtain ⟨hbps, hpos, _⟩ := (getFeeInPeriod_eq_ok hreduction hfit hcliff hwidth).mp hmin
    have hlaterWidth : later < 2 ^ 16 := hlater.trans_lt hwidth
    have hperiodWidth : period < 2 ^ 16 := hle.trans_lt hlaterWidth
    have hlaterPos := decayed_pos hreduction hlater hwidth hpos
    have hperiodPos := decayed_pos hreduction hle hlaterWidth hlaterPos
    have hfee := (getFeeInPeriod_eq_ok hreduction hfit hcliff hperiodWidth).mpr
      ⟨hbps, hperiodPos, rfl⟩
    have hlaterFee := (getFeeInPeriod_eq_ok hreduction hfit hcliff hlaterWidth).mpr
      ⟨hbps, hlaterPos, rfl⟩
    refine ⟨_, _, bind_eq_ok.mpr ⟨_, rfl, bind_eq_ok.mpr ⟨(), require_eq_ok.mpr hperiodWidth,
      hfee⟩⟩, bind_eq_ok.mpr ⟨_, rfl, bind_eq_ok.mpr ⟨(), require_eq_ok.mpr hlaterWidth,
      hlaterFee⟩⟩, decayed_mono hreduction hcliff hle hlaterWidth, ?_⟩
    apply Nat.div_le_of_le_mul
    exact Nat.mul_le_mul_right _ (powTrunc_le (by decide) (decayBase_lt hreduction).le _ _)

/-- Without periods and without a reduction the last fee is the cliff.
Source: `base_fee/fee_scheduler.rs` `get_min_base_fee_numerator` -/
theorem getMinBaseFeeNumerator_of_zero (hperiods : s.numberOfPeriod = 0)
    (hreduction : s.reductionFactor = 0) (hmin : s.getMinBaseFeeNumerator = .ok minFee) :
    minFee ≤ s.cliffFeeNumerator := by
  unfold getMinBaseFeeNumerator getBaseFeeNumeratorByPeriod at hmin
  rw [min_self, bind_eq_ok] at hmin
  obtain ⟨mode, _, hmin⟩ := hmin
  cases mode with
  | linear =>
    simp only [bind_eq_ok, safeSub_eq_ok] at hmin
    obtain ⟨_, _, _, rfl⟩ := hmin
    exact Nat.sub_le _ _
  | exponential =>
    simp only [hperiods, hreduction, bind_eq_ok, exists_unit, getFeeInPeriod, safeMul_eq_ok,
      safeCast_eq_ok, orThrow_eq_ok] at hmin
    obtain ⟨_, _, _, _, _, _, _, result, hresult, _, ⟨_, rfl⟩, _, rfl⟩ := hmin
    -- the power with exponent zero is one
    have hone : result = 2 ^ 64 := (Option.some.inj hresult).symm
    rw [hone]
    exact (Nat.mul_div_cancel_left _ (by decide)).le

/-- **The fee decays and never blocks trading.** A scheduler that validation accepts charges a fee
at every point from the activation on; the fee never rises, is at most the cliff, and is at least
the fee of the last period.
Source: `base_fee/fee_scheduler.rs` `get_base_fee_numerator`, `get_min_base_fee_numerator`,
`validate`; `math/fee_math.rs` `get_fee_in_period`, `pow` -/
theorem feeDecays (s : FeeScheduler) (hvalid : s.validate = .ok ())
    (hfit : s.reductionFactor < 2 ^ 64) (activationPoint point later : ℕ)
    (hactive : activationPoint ≤ point) (hlater : point ≤ later) :
    ∃ fee laterFee minFee, s.getBaseFeeNumerator point activationPoint = .ok fee ∧
      s.getBaseFeeNumerator later activationPoint = .ok laterFee ∧
      s.getMinBaseFeeNumerator = .ok minFee ∧ laterFee ≤ fee ∧ fee ≤ s.cliffFeeNumerator ∧
        minFee ≤ laterFee := by
  obtain ⟨hfactors, hmax, minFee, hmin⟩ := validate_spec hvalid
  have hcliff : s.cliffFeeNumerator < 2 ^ 30 := hmax.trans_lt (by decide)
  rcases hfactors with ⟨hfrequency, hperiods, hreduction⟩ | ⟨hfrequency, hreduction⟩
  · have hflat : ∀ now, s.getBaseFeeNumerator now activationPoint = .ok s.cliffFeeNumerator :=
      fun now => if_pos hfrequency
    exact ⟨_, _, minFee, hflat point, hflat later, hmin, le_rfl, le_rfl,
      getMinBaseFeeNumerator_of_zero hperiods hreduction hmin⟩
  · have hfee : ∀ {now}, activationPoint ≤ now → s.getBaseFeeNumerator now activationPoint =
        s.getBaseFeeNumeratorByPeriod
          (min ((now - activationPoint) / s.periodFrequency) s.numberOfPeriod) := by
      intro now hnow
      rw [getBaseFeeNumeratorByPeriod_min, getBaseFeeNumerator, if_neg hfrequency,
        safeSub_eq_ok.mpr ⟨hnow, rfl⟩, ok_bind, safeDiv_eq_ok.mpr ⟨hfrequency, rfl⟩, ok_bind]
    have hperiods : (point - activationPoint) / s.periodFrequency ≤
        (later - activationPoint) / s.periodFrequency := by
      apply Nat.div_le_div_right
      omega
    obtain ⟨fee, laterFee, hpoint, hthen, hle, hcap⟩ :=
      getBaseFeeNumeratorByPeriod_mono hreduction hfit hcliff hmin
        (min_le_min_right s.numberOfPeriod hperiods) (min_le_right _ _)
    obtain ⟨_, minFee', hthen', hmin', hleast, _⟩ :=
      getBaseFeeNumeratorByPeriod_mono hreduction hfit hcliff hmin (min_le_right
        ((later - activationPoint) / s.periodFrequency) s.numberOfPeriod) le_rfl
    obtain rfl := Except.ok.inj (hthen.symm.trans hthen')
    exact ⟨fee, laterFee, minFee', (hfee hactive).trans hpoint,
      (hfee (hactive.trans hlater)).trans hthen, hmin', hle, hcap, hleast⟩

/-- Half of the amount at first, a twentieth less every minute. -/
theorem feeDecays_twentieth :
    ∃ fee laterFee minFee,
      (FeeScheduler.mk 500000000 100 60 500 1).getBaseFeeNumerator 1130 1000 = .ok fee ∧
      (FeeScheduler.mk 500000000 100 60 500 1).getBaseFeeNumerator 5000 1000 = .ok laterFee ∧
      (FeeScheduler.mk 500000000 100 60 500 1).getMinBaseFeeNumerator = .ok minFee ∧
      laterFee ≤ fee ∧ fee ≤ 500000000 ∧ minFee ≤ laterFee :=
  feeDecays ⟨500000000, 100, 60, 500, 1⟩ (by decide +kernel) (by decide) 1000 1130 5000 (by decide)
    (by decide)

end FeeScheduler

end DynamicBondingCurve
