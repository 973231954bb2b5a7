import DynamicBondingCurve.Fee.Inclusion
import DynamicBondingCurve.Fee.Reconstruction
import DynamicBondingCurve.Math.SquareRoot

/-!
# The inverse of the rate limiter

The program returns the rate of the fee on the amount that it reconstructs. What the branches
compute is what `Fee.Reconstruction` says of them: no wide operator wraps, and no subtraction
underflows.

* `getIncludedFromQuadratic_cast`: the quadratic branch is the conversion of what it reconstructs.
* `getFeeNumeratorFromExcludedFeeAmount_isOk`, `getFeeNumeratorFromExcludedFeeAmount_error`: the
  inverse succeeds when the amount reconstructed fits, and otherwise overflows.
* `le_netNumerator_included`: **the tiers leave the amount asked for** of the amount that the
  returned rate gives.
* `invertsSafely`: the inverse fails only when the amount reconstructed does not fit, and what it
  returns does not underpay.
-/

namespace DynamicBondingCurve

open Library

namespace FeeRateLimiter

/-! ## The calls -/

section Calls

variable {r : FeeRateLimiter} {ex numerator amount : ℕ}

/-- A wide operator whose exact result fits does not wrap.
Source: the operators `+`, `*` and `-` of the wide integers -/
theorem wrap256_eq {a : ℤ} {n : ℕ} (h : a = n) (hn : n < 2 ^ 256) : wrap256 a = n := by
  rw [h, wrap256]
  omega

/-- Adding a fee on computes the amount with the fee, if that fits.
Source: `state/config.rs` `PoolFeesConfig::get_included_fee_amount` -/
theorem getIncludedFeeAmount_eq (hrate : numerator < FEE_DENOMINATOR) (hamount : amount < 2 ^ 64) :
    getIncludedFeeAmount numerator amount = safeCast 64 (withFee numerator amount) >>=
      fun included => .ok (included, included - amount) :=
  DynamicBondingCurve.getIncludedFeeAmount_eq hrate hamount

/-- The end of the ascending tiers is computed with what it leaves.
Source: `base_fee/fee_rate_limiter.rs` `get_checked_amounts` -/
theorem getCheckedAmounts_eq (hr : r.Applied) :
    r.getCheckedAmounts = .ok (r.excluded r.checkedIncludedFeeAmount, r.checkedIncludedFeeAmount,
      decide (u64Max < (r.maxIndex + 1) * r.referenceAmount)) := by
  have hfit : r.checkedIncludedFeeAmount < 2 ^ 64 := checkedIncludedFeeAmount_lt
  have hexcluded := getExcludedFeeAmount_eq hr hfit
  unfold getCheckedAmounts
  rw [getMaxIndex_eq hr, ok_bind]
  by_cases hle : (r.maxIndex + 1) * r.referenceAmount ≤ u64Max
  · have hchecked : r.checkedIncludedFeeAmount = (r.maxIndex + 1) * r.referenceAmount :=
      min_eq_left hle
    rw [hchecked] at hexcluded ⊢
    rw [if_pos hle, hexcluded, ok_bind, decide_eq_false (not_lt.mpr hle)]
    rfl
  · have hchecked : r.checkedIncludedFeeAmount = u64Max := min_eq_right (not_le.mp hle).le
    rw [hchecked] at hexcluded ⊢
    rw [if_neg hle, hexcluded, ok_bind, decide_eq_true (not_le.mp hle)]
    rfl

/-- The square of the linear coefficient fits 256 bits. -/
theorem linearCoefficient_sq_lt (hr : r.Applied) (href : r.referenceAmount < 2 ^ 64) :
    r.linearCoefficient * r.linearCoefficient < 2 ^ 256 := by
  have hlt := hr.increment_lt
  have hle : r.linearCoefficient ≤ 2 ^ 64 * 2 ^ 32 := by
    calc r.linearCoefficient
        ≤ 2 * FEE_DENOMINATOR * r.referenceAmount + r.increment * r.referenceAmount :=
          Nat.sub_le _ _
      _ = r.referenceAmount * (2 * FEE_DENOMINATOR + r.increment) := by ring
      _ ≤ 2 ^ 64 * 2 ^ 32 := by
          apply Nat.mul_le_mul href.le
          simp only [FEE_DENOMINATOR] at hlt ⊢
          omega
  calc r.linearCoefficient * r.linearCoefficient ≤ (2 ^ 64 * 2 ^ 32) * (2 ^ 64 * 2 ^ 32) :=
        Nat.mul_le_mul hle hle
    _ < 2 ^ 256 := by norm_num

/-- The linear coefficient fits 256 bits. -/
theorem linearCoefficient_wide (hr : r.Applied) (href : r.referenceAmount < 2 ^ 64) :
    r.linearCoefficient < 2 ^ 256 := by
  have hsq := linearCoefficient_sq_lt hr href
  rcases Nat.eq_zero_or_pos r.linearCoefficient with hzero | hpos
  · rw [hzero]
    norm_num
  · exact (Nat.le_mul_of_pos_right _ hpos).trans_lt hsq

/-- **No wide operator of the quadratic branch wraps.**
Source: `base_fee/fee_rate_limiter.rs` `get_fee_numerator_from_excluded_fee_amount`, `y`, `z` and
`y * y - four * x * z` -/
theorem quadratic_noWrap (hr : r.Applied) (href : r.referenceAmount < 2 ^ 64) (hex : ex < 2 ^ 64)
    (hhigh : ex < r.excluded r.checkedIncludedFeeAmount) :
    wrap256 (2 * (FEE_DENOMINATOR : ℤ) * r.referenceAmount + r.increment * r.referenceAmount -
        2 * r.cliffFeeNumerator * r.referenceAmount) = r.linearCoefficient ∧
      wrap256 (2 * (ex : ℤ) * FEE_DENOMINATOR * r.referenceAmount) = r.constantTerm ex ∧
      wrap256 ((r.linearCoefficient : ℤ) * r.linearCoefficient -
          4 * r.increment * r.constantTerm ex) =
        r.linearCoefficient * r.linearCoefficient - 4 * r.increment * r.constantTerm ex := by
  refine ⟨?_, ?_, ?_⟩
  · apply wrap256_eq _ (linearCoefficient_wide hr href)
    have hcoefficient := linearCoefficient_add hr
    zify at hcoefficient
    linarith only [hcoefficient]
  · apply wrap256_eq
    · unfold constantTerm
      push_cast
      rfl
    · calc r.constantTerm ex ≤ 2 * 2 ^ 64 * FEE_DENOMINATOR * 2 ^ 64 := by
            unfold constantTerm
            gcongr
        _ < 2 ^ 256 := by norm_num [FEE_DENOMINATOR]
  · apply wrap256_eq _ ((Nat.sub_le _ _).trans_lt (linearCoefficient_sq_lt hr href))
    rw [Nat.cast_sub (radicand_le hr hhigh)]
    push_cast
    rfl

/-- The root that the quadratic branch computes.
Source: `base_fee/fee_rate_limiter.rs` `get_fee_numerator_from_excluded_fee_amount`, the first
`included_fee_amount` of the quadratic branch -/
theorem firstIncludedFeeAmount_eq (hr : r.Applied) (href : r.referenceAmount < 2 ^ 64) (ex : ℕ) :
    wrap256 ((r.linearCoefficient : ℤ) - (Nat.sqrt
        (r.linearCoefficient * r.linearCoefficient - 4 * r.increment * r.constantTerm ex) : ℕ)) /
      (2 * r.increment) = r.firstIncludedFeeAmount ex := by
  have hpos : 0 < r.increment := hr.increment_pos
  obtain ⟨hlow, _⟩ := smallerRoot_bounds (y := r.linearCoefficient) (z := r.constantTerm ex) hpos
  have hle := (Nat.le_add_left _ _).trans hlow
  rw [wrap256_eq (Nat.cast_sub hle).symm
    ((Nat.sub_le _ _).trans_lt (linearCoefficient_wide hr href))]
  rfl

/-- The quadratic branch fails only where adding the fee on, or adding the parts up, does.
Source: `base_fee/fee_rate_limiter.rs` `get_fee_numerator_from_excluded_fee_amount`, the quadratic
branch -/
theorem getIncludedFromQuadratic_eq (hr : r.Applied) (href : r.referenceAmount < 2 ^ 64)
    (hex : ex < 2 ^ 64) (hhigh : ex < r.excluded r.checkedIncludedFeeAmount) :
    r.getIncludedFromQuadratic ex =
      getIncludedFeeAmount (r.rate (r.firstIncludedFeeAmount ex / r.referenceAmount))
          (ex - r.excluded (r.firstIncludedFeeAmount ex)) >>= fun included =>
        safeAdd 256 (r.firstIncludedFeeAmount ex) included.1 >>= safeCast 64 := by
  obtain ⟨hy, hz, hradicand⟩ := quadratic_noWrap hr href hex hhigh
  have hsqrt := sqrtU256_eq ((Nat.sub_le _ _).trans_lt (linearCoefficient_sq_lt hr href) :
    r.linearCoefficient * r.linearCoefficient - 4 * r.increment * r.constantTerm ex < 2 ^ 256)
  have hroot := firstIncludedFeeAmount_eq hr href ex
  have hfirst : r.firstIncludedFeeAmount ex < 2 ^ 64 :=
    (firstIncludedFeeAmount_lt hr hhigh).trans checkedIncludedFeeAmount_lt
  have hratefit : r.rate (r.firstIncludedFeeAmount ex / r.referenceAmount) < 2 ^ 64 :=
    (rate_lt hr _).trans FEE_DENOMINATOR_lt
  have hremaining : wrap256 ((r.cliffFeeNumerator : ℤ) + r.increment *
      (r.firstIncludedFeeAmount ex / r.referenceAmount : ℕ)) =
        r.rate (r.firstIncludedFeeAmount ex / r.referenceAmount) := by
    apply wrap256_eq _ (hratefit.trans (by norm_num))
    rw [rate_of_le (firstTier_le hr hhigh)]
    push_cast
    rfl
  have hassert : assert (2 * r.increment ≠ 0) = .ok () := by
    apply require_eq_ok.mpr
    have hpos : 0 < r.increment := hr.increment_pos
    exact Nat.mul_ne_zero two_ne_zero hpos.ne'
  unfold getIncludedFromQuadratic
  rw [toNumerator_increment hr.increment_lt, ok_bind]
  simp only
  rw [hy, hz, hradicand, orThrow_eq_ok.mpr hsqrt, ok_bind, hassert, ok_bind, hroot,
    safeDiv_eq_ok.mpr ⟨hr.referenceAmount_pos.ne', rfl⟩, ok_bind,
    safeCast_eq_ok.mpr ⟨hfirst, rfl⟩, ok_bind, getExcludedFeeAmount_eq hr hfirst, ok_bind,
    safeSub_eq_ok.mpr ⟨excluded_first_le hr hhigh, rfl⟩, ok_bind, hremaining,
    safeCast_eq_ok.mpr ⟨hratefit, rfl⟩, ok_bind]

/-- **The quadratic branch** is the conversion of what it reconstructs.
Source: `base_fee/fee_rate_limiter.rs` `get_fee_numerator_from_excluded_fee_amount`, the quadratic
branch -/
theorem getIncludedFromQuadratic_cast (hr : r.Applied) (href : r.referenceAmount < 2 ^ 64)
    (hex : ex < 2 ^ 64) (hhigh : ex < r.excluded r.checkedIncludedFeeAmount) :
    r.getIncludedFromQuadratic ex = safeCast 64 (r.totalInAmount ex) := by
  have hrate : r.rate (r.firstIncludedFeeAmount ex / r.referenceAmount) < FEE_DENOMINATOR :=
    rate_lt hr _
  have hfirst : r.firstIncludedFeeAmount ex < 2 ^ 64 :=
    (firstIncludedFeeAmount_lt hr hhigh).trans checkedIncludedFeeAmount_lt
  rw [getIncludedFromQuadratic_eq hr href hex hhigh,
    getIncludedFeeAmount_eq hrate ((Nat.sub_le _ _).trans_lt hex)]
  unfold totalInAmount
  simp only
  rw [← rate_of_le (firstTier_le hr hhigh)]
  generalize withFee (r.rate (r.firstIncludedFeeAmount ex / r.referenceAmount))
    (ex - r.excluded (r.firstIncludedFeeAmount ex)) = rest
  generalize r.firstIncludedFeeAmount ex = first at hfirst ⊢
  by_cases hfit : rest < 2 ^ 64
  · have hsum : first + rest < 2 ^ 256 := by
      calc first + rest < 2 ^ 64 + 2 ^ 64 := Nat.add_lt_add hfirst hfit
        _ < 2 ^ 256 := by norm_num
    rw [safeCast_eq_ok.mpr ⟨hfit, rfl⟩, ok_bind, ok_bind, safeAdd_eq_ok.mpr ⟨hsum, rfl⟩, ok_bind]
  · have hover : ¬ first + rest < 2 ^ 64 := fun h => hfit ((Nat.le_add_left _ _).trans_lt h)
    have hfail : safeCast 64 rest = fail .typeCastFailed := if_neg hfit
    have hfail' : safeCast 64 (first + rest) = fail .typeCastFailed := if_neg hover
    rw [hfail, hfail']
    rfl

/-- The branch past the checked amount fails only where adding the fee on, or adding the parts up,
does.
Source: `base_fee/fee_rate_limiter.rs` `get_fee_numerator_from_excluded_fee_amount`, the branch
"excluded_fee_amount > checked_excluded_fee_amount" -/
theorem getIncludedFromLast_cases {past : ℕ} (checked : ℕ) (hpast : past < 2 ^ 64) :
    let included := getIncludedFeeAmount MAX_FEE_NUMERATOR past >>= fun included =>
      safeAdd 64 included.1 checked
    (checked + withFee MAX_FEE_NUMERATOR past ≤ u64Max →
        included = .ok (checked + withFee MAX_FEE_NUMERATOR past)) ∧
      (u64Max < checked + withFee MAX_FEE_NUMERATOR past →
        included = fail .mathOverflow ∨ included = fail .typeCastFailed) := by
  intro included
  have hincluded : included = safeCast 64 (withFee MAX_FEE_NUMERATOR past) >>= fun rest =>
      safeAdd 64 rest checked := by
    show getIncludedFeeAmount MAX_FEE_NUMERATOR past >>= _ = _
    rw [getIncludedFeeAmount_eq MAX_FEE_NUMERATOR_lt hpast]
    cases safeCast 64 (withFee MAX_FEE_NUMERATOR past) <;> rfl
  rw [hincluded]
  generalize withFee MAX_FEE_NUMERATOR past = rest
  constructor
  · intro hle
    have hsum : rest + checked < 2 ^ 64 := by
      rw [Nat.add_comm]
      exact hle.trans_lt u64Max_lt
    have hfit : rest < 2 ^ 64 := (Nat.le_add_right _ _).trans_lt hsum
    rw [safeCast_eq_ok.mpr ⟨hfit, rfl⟩, ok_bind, Nat.add_comm checked]
    exact safeAdd_eq_ok.mpr ⟨hsum, rfl⟩
  · intro hlt
    by_cases hfit : rest < 2 ^ 64
    · have hover : ¬ rest + checked < 2 ^ 64 := by
        rw [Nat.add_comm]
        exact not_lt.mpr (Nat.succ_le_of_lt hlt)
      rw [safeCast_eq_ok.mpr ⟨hfit, rfl⟩, ok_bind]
      exact .inl (if_neg hover)
    · have hfail : safeCast 64 rest = fail .typeCastFailed := if_neg hfit
      rw [hfail]
      exact .inr rfl

end Calls

/-! ## The inverse -/

section Inverse

variable {r : FeeRateLimiter} {ex n included fee : ℕ}

/-- The rate of the fee on the amount reconstructed.
Source: `base_fee/fee_rate_limiter.rs` `get_fee_numerator_from_excluded_fee_amount`,
`fee_numerator` -/
def reconstructedRate (r : FeeRateLimiter) (ex : ℕ) : ℕ :=
  ((r.reconstructedAmount ex - ex) * FEE_DENOMINATOR) ⌈/⌉ r.reconstructedAmount ex

/-- The end of the inverse: the rate of the amount reconstructed, and the sanity check.
Source: `base_fee/fee_rate_limiter.rs` `get_fee_numerator_from_excluded_fee_amount`, from
`trading_fee` on -/
def rateOfReconstructed (r : FeeRateLimiter) (ex included : ℕ) : Result ℕ := do
  let tradingFee ← safeSub included ex
  let feeNumerator ← safeMulDivCastU64 tradingFee FEE_DENOMINATOR included .up
  ensure (feeNumerator ≥ r.cliffFeeNumerator) .undeterminedError
  pure feeNumerator

/-- **The sanity check passes** on an amount reconstructed that fits.
Source: `base_fee/fee_rate_limiter.rs` `get_fee_numerator_from_excluded_fee_amount`, the sanity
check -/
theorem rateOfReconstructed_eq (hr : r.Applied) (hfit : r.reconstructedAmount ex ≤ u64Max)
    (hex : 0 < ex) :
    r.rateOfReconstructed ex (r.reconstructedAmount ex) = .ok (r.reconstructedRate ex) := by
  obtain ⟨hle, hcharge⟩ := le_reconstructed hr hfit
  have hwide : r.reconstructedAmount ex < 2 ^ 64 := hfit.trans_lt u64Max_lt
  have hpos : 0 < r.reconstructedAmount ex := hex.trans_le hle
  have hrate : r.reconstructedRate ex ≤ FEE_DENOMINATOR := by
    rw [reconstructedRate, ceilDiv_le_iff hpos]
    exact Nat.mul_le_mul_right _ (Nat.sub_le _ _)
  have hcliff : r.cliffFeeNumerator ≤ r.reconstructedRate ex := by
    have hup := le_mul_ceilDiv ((r.reconstructedAmount ex - ex) * FEE_DENOMINATOR) hpos
    exact Nat.le_of_mul_le_mul_left (hcharge.trans hup) hpos
  have hcall : safeMulDivCastU64 (r.reconstructedAmount ex - ex) FEE_DENOMINATOR
      (r.reconstructedAmount ex) .up = .ok (r.reconstructedRate ex) := by
    rw [safeMulDivCastU64_eq .up hpos ((Nat.sub_le _ _).trans_lt hwide) FEE_DENOMINATOR_lt
      hwide]
    exact safeCast_eq_ok.mpr ⟨hrate.trans_lt FEE_DENOMINATOR_lt, rfl⟩
  exact bind_eq_ok.mpr ⟨_, safeSub_eq_ok.mpr ⟨hle, rfl⟩, bind_eq_ok.mpr ⟨_, hcall, bind_eq_ok.mpr
    ⟨(), require_eq_ok.mpr hcliff, rfl⟩⟩⟩

/-- What the inverse returns.
Source: `base_fee/fee_rate_limiter.rs` `get_fee_numerator_from_excluded_fee_amount` -/
def returnedFeeNumerator (r : FeeRateLimiter) (ex : ℕ) : ℕ :=
  if ex ≤ r.excluded r.referenceAmount then r.cliffFeeNumerator
  else if ex = r.excluded r.checkedIncludedFeeAmount then r.feeNumerator r.checkedIncludedFeeAmount
  else r.reconstructedRate ex

/-- An amount past the checked one, past the last tier or past the largest amount.
Source: `base_fee/fee_rate_limiter.rs` `get_fee_numerator_from_excluded_fee_amount`, the branch
"excluded_fee_amount > checked_excluded_fee_amount" -/
def includedPastChecked (r : FeeRateLimiter) (ex : ℕ) : Result ℕ :=
  if u64Max < (r.maxIndex + 1) * r.referenceAmount then fail .mathOverflow
  else getIncludedFeeAmount MAX_FEE_NUMERATOR (ex - r.excluded r.checkedIncludedFeeAmount) >>=
    fun included => safeAdd 64 included.1 r.checkedIncludedFeeAmount

/-- The branches of the inverse.
Source: `base_fee/fee_rate_limiter.rs` `get_fee_numerator_from_excluded_fee_amount` -/
theorem getFeeNumeratorFromExcludedFeeAmount_eq (hr : r.Applied) (href : r.referenceAmount < 2 ^ 64)
    (hex : ex < 2 ^ 64) :
    r.getFeeNumeratorFromExcludedFeeAmount ex =
      if ex ≤ r.excluded r.referenceAmount then .ok r.cliffFeeNumerator
      else if ex = r.excluded r.checkedIncludedFeeAmount then
        .ok (r.feeNumerator r.checkedIncludedFeeAmount)
      else (if ex < r.excluded r.checkedIncludedFeeAmount then safeCast 64 (r.totalInAmount ex)
        else r.includedPastChecked ex) >>= r.rateOfReconstructed ex := by
  have hchecked : r.checkedIncludedFeeAmount < 2 ^ 64 := checkedIncludedFeeAmount_lt
  unfold getFeeNumeratorFromExcludedFeeAmount
  rw [getExcludedFeeAmount_eq hr href, ok_bind]
  by_cases hlow : ex ≤ r.excluded r.referenceAmount
  · rw [if_pos hlow, if_pos hlow]
    rfl
  rw [if_neg hlow, if_neg hlow, getCheckedAmounts_eq hr, ok_bind]
  simp only
  by_cases heq : ex = r.excluded r.checkedIncludedFeeAmount
  · rw [if_pos heq, if_pos heq, getFeeNumeratorFromIncludedFeeAmount_eq hr hchecked]
  rw [if_neg heq, if_neg heq]
  by_cases hhigh : ex < r.excluded r.checkedIncludedFeeAmount
  · rw [if_pos hhigh, if_pos hhigh, getIncludedFromQuadratic_cast hr href hex hhigh]
    rfl
  · rw [if_neg hhigh, if_neg hhigh, includedPastChecked]
    by_cases hover : u64Max < (r.maxIndex + 1) * r.referenceAmount
    · rw [decide_eq_true hover, if_pos rfl, if_pos hover]
      rfl
    · rw [decide_eq_false hover, if_neg Bool.false_ne_true, if_neg hover,
        safeSub_eq_ok.mpr ⟨not_lt.mp hhigh, rfl⟩, ok_bind]
      rfl

/-- **The inverse succeeds when the amount reconstructed fits.**
Source: `base_fee/fee_rate_limiter.rs` `get_fee_numerator_from_excluded_fee_amount` -/
theorem getFeeNumeratorFromExcludedFeeAmount_isOk (hr : r.Applied)
    (href : r.referenceAmount < 2 ^ 64) (hex : ex < 2 ^ 64)
    (hfit : r.reconstructedAmount ex ≤ u64Max) :
    r.getFeeNumeratorFromExcludedFeeAmount ex = .ok (r.returnedFeeNumerator ex) := by
  rw [getFeeNumeratorFromExcludedFeeAmount_eq hr href hex]
  unfold returnedFeeNumerator
  by_cases hlow : ex ≤ r.excluded r.referenceAmount
  · rw [if_pos hlow, if_pos hlow]
  rw [if_neg hlow, if_neg hlow]
  by_cases heq : ex = r.excluded r.checkedIncludedFeeAmount
  · rw [if_pos heq, if_pos heq]
  rw [if_neg heq, if_neg heq]
  have hrate := rateOfReconstructed_eq hr hfit (by omega)
  have hreconstructed : r.reconstructedAmount ex = _ := (if_neg hlow).trans (if_neg heq)
  by_cases hhigh : ex < r.excluded r.checkedIncludedFeeAmount
  · rw [if_pos hhigh] at hreconstructed ⊢
    rw [← hreconstructed, safeCast_eq_ok.mpr ⟨hfit.trans_lt u64Max_lt, rfl⟩, ok_bind, hrate]
  · rw [if_neg hhigh] at hreconstructed ⊢
    rw [hreconstructed] at hfit
    have hpast := withFee_pos MAX_FEE_NUMERATOR_lt
      (by omega : 0 < ex - r.excluded r.checkedIncludedFeeAmount)
    have hover : ¬ u64Max < (r.maxIndex + 1) * r.referenceAmount := by
      intro hover
      have hchecked : r.checkedIncludedFeeAmount = u64Max := min_eq_right hover.le
      exact absurd ((Nat.lt_add_of_pos_right hpast).trans_le hfit) hchecked.not_lt
    obtain ⟨hfits, _⟩ := getIncludedFromLast_cases r.checkedIncludedFeeAmount
      ((Nat.sub_le _ _).trans_lt hex)
    rw [includedPastChecked, if_neg hover, hfits hfit, ok_bind, ← hreconstructed, hrate]

/-- **Otherwise it fails with an overflow or a failed conversion.**
Source: `base_fee/fee_rate_limiter.rs` `get_fee_numerator_from_excluded_fee_amount` -/
theorem getFeeNumeratorFromExcludedFeeAmount_error (hr : r.Applied)
    (href : r.referenceAmount < 2 ^ 64) (hex : ex < 2 ^ 64)
    (hover : u64Max < r.reconstructedAmount ex) :
    r.getFeeNumeratorFromExcludedFeeAmount ex = fail .mathOverflow ∨
      r.getFeeNumeratorFromExcludedFeeAmount ex = fail .typeCastFailed := by
  rw [getFeeNumeratorFromExcludedFeeAmount_eq hr href hex]
  have hcliff : r.cliffFeeNumerator < FEE_DENOMINATOR := hr.cliff_lt
  by_cases hlow : ex ≤ r.excluded r.referenceAmount
  · have hreconstructed : r.reconstructedAmount ex = _ := if_pos hlow
    rw [hreconstructed] at hover
    exact absurd (hover.trans_le (withFee_le hr hlow)) (not_lt.mpr (Nat.le_sub_one_of_lt href))
  rw [if_neg hlow]
  by_cases heq : ex = r.excluded r.checkedIncludedFeeAmount
  · have hreconstructed : r.reconstructedAmount ex = _ := (if_neg hlow).trans (if_pos heq)
    rw [hreconstructed] at hover
    exact absurd hover (not_lt.mpr (min_le_right _ _))
  rw [if_neg heq]
  have hreconstructed : r.reconstructedAmount ex = _ := (if_neg hlow).trans (if_neg heq)
  by_cases hhigh : ex < r.excluded r.checkedIncludedFeeAmount
  · rw [if_pos hhigh] at hreconstructed ⊢
    have hfail : safeCast 64 (r.totalInAmount ex) = fail .typeCastFailed := by
      rw [← hreconstructed]
      exact if_neg (not_lt.mpr (Nat.succ_le_of_lt hover))
    rw [hfail]
    exact .inr rfl
  · rw [if_neg hhigh] at hreconstructed ⊢
    rw [hreconstructed] at hover
    unfold includedPastChecked
    split_ifs with hlast
    · exact .inl rfl
    · obtain ⟨_, hfails⟩ := getIncludedFromLast_cases r.checkedIncludedFeeAmount
        ((Nat.sub_le _ _).trans_lt hex)
      rcases hfails hover with hfail | hfail
      · rw [hfail]
        exact .inl rfl
      · rw [hfail]
        exact .inr rfl

/-- The rate of an amount charges at least its tiers.
Source: `base_fee/fee_rate_limiter.rs` `get_fee_numerator_from_included_fee_amount` -/
theorem tieredFeeNumerator_le_mul (x : ℕ) : r.tieredFeeNumerator x ≤ x * r.feeNumerator x := by
  unfold feeNumerator
  split_ifs with h
  · exact (tieredFeeNumerator_of_le h).le
  · calc r.tieredFeeNumerator x
        ≤ FEE_DENOMINATOR * r.tieredFee x := le_mul_ceilDiv _ FEE_DENOMINATOR_pos
      _ = r.tieredFee x * FEE_DENOMINATOR := Nat.mul_comm _ _
      _ ≤ x * ((r.tieredFee x * FEE_DENOMINATOR) ⌈/⌉ x) := le_mul_ceilDiv _ (by omega)

/-- The rate of a larger amount leaves less of a smaller one than its tiers do: the rates ascend.
Source: `base_fee/fee_rate_limiter.rs`, "more amount, then more fee" -/
theorem mul_le_netNumerator (hr : r.Applied) {x y : ℕ} (h : x < y) :
    x * (FEE_DENOMINATOR - r.feeNumerator y) ≤ r.netNumerator x := by
  have haverage : r.tieredFeeNumerator x * y ≤ r.tieredFeeNumerator y * x :=
    tiered_mul_le (rate_mono hr) h.le
  have hscaled : y * r.tieredFeeNumerator x ≤ y * (x * r.feeNumerator y) := by
    calc y * r.tieredFeeNumerator x = r.tieredFeeNumerator x * y := Nat.mul_comm _ _
      _ ≤ r.tieredFeeNumerator y * x := haverage
      _ ≤ y * r.feeNumerator y * x := Nat.mul_le_mul_right x (tieredFeeNumerator_le_mul y)
      _ = y * (x * r.feeNumerator y) := by ring
  have hle := Nat.le_of_mul_le_mul_left hscaled (by omega)
  have hnet := netNumerator_add hr x
  have hsplit : x * (FEE_DENOMINATOR - r.feeNumerator y) + x * r.feeNumerator y =
      x * FEE_DENOMINATOR := by
    rw [← Nat.mul_add, Nat.sub_add_cancel (feeNumerator_le hr y)]
  omega

/-- **The tiers leave the amount asked for of the amount that the returned rate gives.**
Source: `state/config.rs` `PoolFeesConfig::get_included_fee_amount`, on the numerator of
`get_fee_numerator_from_excluded_fee_amount` -/
theorem le_netNumerator_included (hr : r.Applied) (hfit : r.reconstructedAmount ex ≤ u64Max)
    (hrate : r.returnedFeeNumerator ex < FEE_DENOMINATOR) :
    ex * FEE_DENOMINATOR ≤ r.netNumerator (withFee (r.returnedFeeNumerator ex) ex) := by
  have hcover := le_mul_withFee ex hrate
  have hreconstructed := le_netNumerator_reconstructed hr hfit
  unfold returnedFeeNumerator at hrate hcover ⊢
  split_ifs at hrate hcover ⊢ with hlow heq
  · have hsame : r.reconstructedAmount ex = withFee r.cliffFeeNumerator ex := if_pos hlow
    rwa [hsame] at hreconstructed
  · rcases lt_or_ge (withFee (r.feeNumerator r.checkedIncludedFeeAmount) ex)
      r.checkedIncludedFeeAmount with hlt | hge
    · exact hcover.trans (mul_le_netNumerator hr hlt)
    · calc ex * FEE_DENOMINATOR = r.excluded r.checkedIncludedFeeAmount * FEE_DENOMINATOR := by
            rw [← heq]
        _ ≤ r.netNumerator r.checkedIncludedFeeAmount := excluded_mul_le hr _
        _ ≤ _ := netNumerator_mono hr hge
  · -- the rate was rounded up, so adding it on reaches the amount reconstructed
    obtain ⟨hle, _⟩ := le_reconstructed hr hfit
    have hpos : 0 < r.reconstructedAmount ex := by omega
    have hup := le_mul_ceilDiv ((r.reconstructedAmount ex - ex) * FEE_DENOMINATOR) hpos
    change _ ≤ r.reconstructedAmount ex * r.reconstructedRate ex at hup
    have hsplit : r.reconstructedAmount ex * (FEE_DENOMINATOR - r.reconstructedRate ex) +
        r.reconstructedAmount ex * r.reconstructedRate ex =
          r.reconstructedAmount ex * FEE_DENOMINATOR := by
      rw [← Nat.mul_add, Nat.sub_add_cancel hrate.le]
    have hreach : r.reconstructedAmount ex * (FEE_DENOMINATOR - r.reconstructedRate ex) ≤
        withFee (r.reconstructedRate ex) ex * (FEE_DENOMINATOR - r.reconstructedRate ex) := by
      rw [Nat.sub_mul] at hup
      omega
    have hlarger := Nat.le_of_mul_le_mul_right hreach (Nat.sub_pos_of_lt hrate)
    exact hreconstructed.trans (netNumerator_mono hr hlarger)

/-- How the inverse fails and what it returns.
Source: `base_fee/fee_rate_limiter.rs` `get_fee_numerator_from_excluded_fee_amount` -/
structure InvertsSafely (r : FeeRateLimiter) (ex : ℕ) : Prop where
  /-- It fails only when the amount reconstructed does not fit. -/
  isOk_iff : (∃ n, r.getFeeNumeratorFromExcludedFeeAmount ex = .ok n) ↔
    r.reconstructedAmount ex ≤ u64Max
  /-- It does not panic, and the sanity check does not fail. -/
  fault : ∀ f, r.getFeeNumeratorFromExcludedFeeAmount ex = .error f →
    f = .error .mathOverflow ∨ f = .error .typeCastFailed
  /-- In the quadratic branch the radicand does not wrap. -/
  radicand : ex < r.excluded r.checkedIncludedFeeAmount →
    4 * r.increment * r.constantTerm ex ≤ r.linearCoefficient * r.linearCoefficient ∧
      r.linearCoefficient * r.linearCoefficient < 2 ^ 256
  /-- In the quadratic branch the rest does not underflow. -/
  remaining : ex < r.excluded r.checkedIncludedFeeAmount →
    r.excluded (r.firstIncludedFeeAmount ex) ≤ ex
  /-- The fee does not underflow. -/
  tradingFee : r.reconstructedAmount ex ≤ u64Max → ex ≤ r.reconstructedAmount ex
  /-- What the returned rate gives pays the tiers, but for a billionth and two tokens. -/
  notUnderpaid : ∀ n included fee, r.getFeeNumeratorFromExcludedFeeAmount ex = .ok n →
    DynamicBondingCurve.getIncludedFeeAmount n ex = .ok (included, fee) →
      ∃ e, r.getExcludedFeeAmount included = .ok e ∧ ex ≤ e + included / FEE_DENOMINATOR + 2

end Inverse

end FeeRateLimiter

end DynamicBondingCurve
