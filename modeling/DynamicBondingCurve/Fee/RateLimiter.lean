import DynamicBondingCurve.Fee.BaseFee
import DynamicBondingCurve.Library.Tiers

/-!
# The rate limiter as a charge by tiers

The rate limiter charges each tier of the reference amount at its own rate. The program adds the
tiers up in closed form, rounds the sum up to whole tokens, turns it into one rate for the whole
amount, rounds that up to a whole numerator, and charges the rate with a third rounding.

* `rate`, `tieredFeeNumerator`, `tieredFee`: the charge by tiers, and it rounded up.
* `roundingExcess`: **what rounding the numerator up adds** to it.
* `getFeeNumeratorFromIncludedFeeAmount_eq`, `getExcludedFeeAmount_eq`: the program charges the sum
  of the two.
* `routingFriendly_of_far`: **when a larger amount leaves at least as much**, and what it can leave
  less otherwise.
-/

namespace DynamicBondingCurve

open Library

namespace FeeRateLimiter

/-! ## The charge by tiers -/

section Tiers

variable (r : FeeRateLimiter)

/-- By how much the rate ascends from tier to tier.
Source: `base_fee/fee_rate_limiter.rs` `i`, the numerator of `fee_increment_bps` -/
def increment : ℕ := r.feeIncrementBps * FEE_DENOMINATOR / MAX_BASIS_POINT

/-- The last tier whose rate ascends.
Source: `base_fee/fee_rate_limiter.rs` `get_max_index` -/
def maxIndex : ℕ := (MAX_FEE_NUMERATOR - r.cliffFeeNumerator) / r.increment

/-- The rate of a tier.
Source: `base_fee/fee_rate_limiter.rs`, the comment on `FeeRateLimiter` -/
def rate (k : ℕ) : ℕ :=
  if k ≤ r.maxIndex then r.cliffFeeNumerator + r.increment * k else MAX_FEE_NUMERATOR

/-- The charge by tiers, as a numerator.
Source: `base_fee/fee_rate_limiter.rs`, the comment on `FeeRateLimiter` -/
def tieredFeeNumerator (amount : ℕ) : ℕ := tiered r.rate r.referenceAmount amount

/-- The charge by tiers, rounded up to whole tokens.
Source: `base_fee/fee_rate_limiter.rs` `get_fee_numerator_from_included_fee_amount`,
`trading_fee` -/
def tieredFee (amount : ℕ) : ℕ := r.tieredFeeNumerator amount ⌈/⌉ FEE_DENOMINATOR

/-- One rate for the whole amount, rounded up.
Source: `base_fee/fee_rate_limiter.rs` `get_fee_numerator_from_included_fee_amount`, "reverse to fee
numerator" -/
def feeNumerator (amount : ℕ) : ℕ :=
  if amount ≤ r.referenceAmount then r.cliffFeeNumerator
  else (r.tieredFee amount * FEE_DENOMINATOR) ⌈/⌉ amount

/-- What rounding the rate up to a whole numerator adds to the charge.
Source: `base_fee/fee_rate_limiter.rs` `get_fee_numerator_from_included_fee_amount`, "reverse to fee
numerator", `Rounding::Up` -/
def roundingExcess (amount : ℕ) : ℕ :=
  if amount ≤ r.referenceAmount then 0
  else ((amount - r.tieredFee amount * FEE_DENOMINATOR % amount) % amount) ⌈/⌉ FEE_DENOMINATOR

/-- What the program charges.
Source: `base_fee/fee_rate_limiter.rs` `get_excluded_fee_amount` -/
def fee (amount : ℕ) : ℕ := r.tieredFee amount + r.roundingExcess amount

/-- What the program leaves.
Source: `base_fee/fee_rate_limiter.rs` `get_excluded_fee_amount` -/
def excluded (amount : ℕ) : ℕ := amount - r.fee amount

end Tiers

/-! ## Accepted rate limiters -/

/-- A rate limiter that was accepted and is applied.
Source: `base_fee/fee_rate_limiter.rs` `validate` -/
structure Applied (r : FeeRateLimiter) : Prop where
  referenceAmount_pos : 0 < r.referenceAmount
  increment_ge : 100000 ≤ r.increment
  increment_lt : r.increment < FEE_DENOMINATOR
  cliff_le : r.cliffFeeNumerator ≤ MAX_FEE_NUMERATOR

section Applied

variable {r : FeeRateLimiter} {x y n k : ℕ}

/-- The first rate is less than the whole. -/
theorem Applied.cliff_lt (hr : r.Applied) : r.cliffFeeNumerator < FEE_DENOMINATOR :=
  hr.cliff_le.trans_lt MAX_FEE_NUMERATOR_lt

/-- The rate ascends from tier to tier. -/
theorem Applied.increment_pos (hr : r.Applied) : 0 < r.increment :=
  lt_of_lt_of_le (by norm_num) hr.increment_ge

/-- The increment is computed when it is less than the whole.
Source: `params/fee_parameters.rs` `to_numerator` -/
theorem toNumerator_increment (hfit : r.increment < FEE_DENOMINATOR) :
    toNumerator r.feeIncrementBps FEE_DENOMINATOR = .ok r.increment := by
  have hwide : r.increment < 2 ^ 64 := hfit.trans FEE_DENOMINATOR_lt
  have hscaled : r.feeIncrementBps * FEE_DENOMINATOR < 2 ^ 128 := by
    simp only [increment, FEE_DENOMINATOR, MAX_BASIS_POINT] at hfit ⊢
    omega
  exact bind_eq_ok.mpr ⟨_, safeMul_eq_ok.mpr ⟨hscaled, rfl⟩, bind_eq_ok.mpr
    ⟨_, safeDiv_eq_ok.mpr ⟨by decide, rfl⟩, safeCast_eq_ok.mpr ⟨hwide, rfl⟩⟩⟩

/-- What is computed for the increment is the increment.
Source: `params/fee_parameters.rs` `to_numerator` -/
theorem increment_of_toNumerator {i : ℕ}
    (h : toNumerator r.feeIncrementBps FEE_DENOMINATOR = .ok i) : i = r.increment := by
  simp only [toNumerator, bind_eq_ok, safeMul_eq_ok, safeDiv_eq_ok, safeCast_eq_ok] at h
  obtain ⟨_, ⟨_, rfl⟩, _, ⟨_, rfl⟩, _, rfl⟩ := h
  rfl

/-- **What validation leaves**: the limiter is zero, or it can be applied.
Source: `base_fee/fee_rate_limiter.rs` `validate` -/
theorem validate_spec {collectFeeMode : ℕ} {activationType : ActivationType}
    (h : r.validate collectFeeMode activationType = .ok ()) :
    r.cliffFeeNumerator ≤ MAX_FEE_NUMERATOR ∧
      (r.isZeroRateLimiter = true ∨ r.isNonZeroRateLimiter = true ∧ r.Applied) := by
  simp only [validate, bind_eq_ok, exists_unit, require_eq_ok] at h
  obtain ⟨_, _, _, ⟨_, hcliff⟩, h⟩ := h
  refine ⟨hcliff, ?_⟩
  split_ifs at h with hzero
  · exact .inl hzero
  · simp only [bind_eq_ok, exists_unit, require_eq_ok] at h
    obtain ⟨hnonzero, _, i, hi, hlt, _⟩ := h
    obtain rfl := increment_of_toNumerator hi
    have hparts := hnonzero
    simp only [isNonZeroRateLimiter, decide_eq_true_eq] at hparts
    obtain ⟨href, _, hbps⟩ := hparts
    refine .inr ⟨hnonzero, Nat.pos_of_ne_zero href, ?_, hlt, hcliff⟩
    simp only [increment, FEE_DENOMINATOR, MAX_BASIS_POINT]
    omega

/-- The last tier whose rate ascends is computed for every applied limiter.
Source: `base_fee/fee_rate_limiter.rs` `get_max_index` -/
theorem getMaxIndex_eq (hr : r.Applied) : r.getMaxIndex = .ok r.maxIndex := by
  have hpos : r.increment ≠ 0 := hr.increment_pos.ne'
  exact bind_eq_ok.mpr ⟨_, safeSub_eq_ok.mpr ⟨hr.cliff_le, rfl⟩, bind_eq_ok.mpr
    ⟨_, toNumerator_increment hr.increment_lt, safeDiv_eq_ok.mpr ⟨hpos, rfl⟩⟩⟩

/-- Up to the last ascending tier the rate is the cliff and its increments.
Source: `base_fee/fee_rate_limiter.rs`, the comment on `FeeRateLimiter` -/
theorem rate_of_le (h : k ≤ r.maxIndex) : r.rate k = r.cliffFeeNumerator + r.increment * k :=
  if_pos h

/-- After the last ascending tier the rate is the highest.
Source: `base_fee/fee_rate_limiter.rs`, the comment on `FeeRateLimiter` -/
theorem rate_of_gt (h : r.maxIndex < k) : r.rate k = MAX_FEE_NUMERATOR :=
  if_neg (not_le.mpr h)

/-- The rate of the first tier is the cliff. -/
theorem rate_zero : r.rate 0 = r.cliffFeeNumerator := by
  rw [rate_of_le (Nat.zero_le _), Nat.mul_zero, Nat.add_zero]

/-- No tier is charged more than the highest rate. -/
theorem rate_le (hr : r.Applied) (k : ℕ) : r.rate k ≤ MAX_FEE_NUMERATOR := by
  have hcliff := hr.cliff_le
  by_cases hk : k ≤ r.maxIndex
  · rw [rate_of_le hk]
    have hstep : r.increment * k ≤ MAX_FEE_NUMERATOR - r.cliffFeeNumerator := by
      calc r.increment * k ≤ r.increment * r.maxIndex := Nat.mul_le_mul_left _ hk
        _ ≤ MAX_FEE_NUMERATOR - r.cliffFeeNumerator := Nat.mul_div_le _ _
    omega
  · rw [rate_of_gt (not_le.mp hk)]

/-- No tier is charged the whole. -/
theorem rate_lt (hr : r.Applied) (k : ℕ) : r.rate k < FEE_DENOMINATOR :=
  (rate_le hr k).trans_lt MAX_FEE_NUMERATOR_lt

/-- The rates ascend.
Source: `base_fee/fee_rate_limiter.rs`, "more amount, then more fee" -/
theorem rate_mono (hr : r.Applied) : Monotone r.rate := by
  intro j k hjk
  by_cases hk : k ≤ r.maxIndex
  · rw [rate_of_le hk, rate_of_le (hjk.trans hk)]
    exact Nat.add_le_add_left (Nat.mul_le_mul_left _ hjk) _
  · rw [rate_of_gt (not_le.mp hk)]
    exact rate_le hr j

/-- No tier is charged less than the cliff. -/
theorem cliff_le_rate (hr : r.Applied) (k : ℕ) : r.cliffFeeNumerator ≤ r.rate k := by
  rw [← rate_zero]
  exact rate_mono hr (Nat.zero_le k)

/-- Up to the reference amount the first rate is charged.
Source: `base_fee/fee_rate_limiter.rs`, the comment on `FeeRateLimiter` -/
theorem tieredFeeNumerator_of_le (h : x ≤ r.referenceAmount) :
    r.tieredFeeNumerator x = x * r.cliffFeeNumerator := by
  have hfirst : tiered r.rate r.referenceAmount (0 * r.referenceAmount + x) =
      r.referenceAmount * ∑ j ∈ Finset.range 0, r.rate j + x * r.rate 0 := tiered_mul_add h
  rw [Nat.zero_mul, Nat.zero_add, Finset.sum_range_zero, Nat.mul_zero, Nat.zero_add, rate_zero]
    at hfirst
  exact hfirst

/-- Past the last tier that ascends the highest rate is charged.
Source: `base_fee/fee_rate_limiter.rs`, the comment on `FeeRateLimiter` -/
theorem tieredFeeNumerator_add_of_ge (hr : r.Applied)
    (h : (r.maxIndex + 1) * r.referenceAmount ≤ x) :
    r.tieredFeeNumerator (x + n) = r.tieredFeeNumerator x + n * MAX_FEE_NUMERATOR := by
  apply tiered_add_eq
  intro u _
  apply rate_of_gt
  have hdiv : r.maxIndex + 1 ≤ (x + u) / r.referenceAmount :=
    (Nat.le_div_iff_mul_le hr.referenceAmount_pos).mpr (by omega)
  omega

/-- The rates of the ascending tiers add up to what the program computes. -/
theorem sum_rate (h : k ≤ r.maxIndex) :
    ∑ j ∈ Finset.range (k + 1), r.rate j =
      r.cliffFeeNumerator + r.cliffFeeNumerator * k + r.increment * k * (k + 1) / 2 := by
  have htwice : 2 * ∑ j ∈ Finset.range (k + 1), r.rate j + r.increment * (k + 1) =
      2 * r.cliffFeeNumerator * (k + 1) + r.increment * (k + 1) * (k + 1) :=
    two_mul_sum_rate fun j hj => rate_of_le (by omega)
  have heven : 2 ∣ r.increment * k * (k + 1) := by
    rw [Nat.mul_assoc]
    exact Dvd.dvd.mul_left (Nat.even_mul_succ_self k).two_dvd _
  have hhalf := Nat.mul_div_cancel' heven
  generalize r.increment * k * (k + 1) / 2 = half at hhalf ⊢
  have hexpand : r.increment * (k + 1) * (k + 1) =
      r.increment * k * (k + 1) + r.increment * (k + 1) := by ring
  have hcliff : 2 * r.cliffFeeNumerator * (k + 1) =
      2 * (r.cliffFeeNumerator + r.cliffFeeNumerator * k) := by ring
  omega

/-- **The closed form of the program is the charge by tiers.**
Source: `base_fee/fee_rate_limiter.rs` `get_fee_numerator_from_included_fee_amount`,
`trading_fee_numerator` -/
theorem closedForm_eq (hr : r.Applied) (h : r.referenceAmount < x) :
    let a := (x - r.referenceAmount) / r.referenceAmount
    let b := (x - r.referenceAmount) % r.referenceAmount
    (if a < r.maxIndex then
        r.referenceAmount * (r.cliffFeeNumerator + r.cliffFeeNumerator * a +
            r.increment * a * (a + 1) / 2) +
          b * (r.cliffFeeNumerator + r.increment * (a + 1))
      else
        r.referenceAmount * (r.cliffFeeNumerator + r.cliffFeeNumerator * r.maxIndex +
            r.increment * r.maxIndex * (r.maxIndex + 1) / 2) +
          ((a - r.maxIndex) * r.referenceAmount + b) * MAX_FEE_NUMERATOR) =
      r.tieredFeeNumerator x := by
  intro a b
  have hpos := hr.referenceAmount_pos
  have hb : b < r.referenceAmount := Nat.mod_lt _ hpos
  have hx : x = (a + 1) * r.referenceAmount + b := by
    have hsplit : r.referenceAmount * a + b = x - r.referenceAmount := Nat.div_add_mod _ _
    rw [Nat.add_mul, Nat.one_mul, Nat.mul_comm a]
    omega
  clear_value a b
  subst hx
  by_cases ha : a < r.maxIndex
  · rw [if_pos ha, ← sum_rate ha.le, ← rate_of_le (Nat.succ_le_of_lt ha)]
    exact (tiered_mul_add hb.le).symm
  · -- the last ascending tier is full, and the rest is charged the highest rate
    rw [if_neg ha, ← sum_rate le_rfl, ← tiered_mul]
    have hrest : (a + 1) * r.referenceAmount + b =
        (r.maxIndex + 1) * r.referenceAmount + ((a - r.maxIndex) * r.referenceAmount + b) := by
      rw [← Nat.add_assoc, ← Nat.add_mul]
      congr 2
      omega
    rw [hrest, tieredFeeNumerator_add_of_ge hr le_rfl]
    rfl

/-! ## What the program charges -/

/-- The charge by tiers is at most that of the highest rate. -/
theorem tieredFeeNumerator_le (hr : r.Applied) (x : ℕ) :
    r.tieredFeeNumerator x ≤ x * MAX_FEE_NUMERATOR :=
  tiered_le_mul (rate_le hr)

/-- The charge by tiers is at most the amount. -/
theorem tieredFee_le (hr : r.Applied) (x : ℕ) : r.tieredFee x ≤ x := by
  rw [tieredFee, ceilDiv_le_iff FEE_DENOMINATOR_pos]
  have hle := tieredFeeNumerator_le hr x
  simp only [FEE_DENOMINATOR, MAX_FEE_NUMERATOR] at hle ⊢
  omega

/-- The one rate of an amount is at most the whole. -/
theorem feeNumerator_le (hr : r.Applied) (x : ℕ) : r.feeNumerator x ≤ FEE_DENOMINATOR := by
  unfold feeNumerator
  split_ifs with h
  · exact hr.cliff_lt.le
  · rw [ceilDiv_le_iff (by omega)]
    exact Nat.mul_le_mul_right _ (tieredFee_le hr x)

/-- **One rate for the whole amount charges the tiers and the excess of its rounding.**
Source: `base_fee/fee_rate_limiter.rs` `get_excluded_fee_amount` -/
theorem mul_feeNumerator_ceilDiv (x : ℕ) :
    (x * r.feeNumerator x) ⌈/⌉ FEE_DENOMINATOR = r.fee x := by
  unfold feeNumerator fee roundingExcess
  split_ifs with h
  · rw [tieredFee, tieredFeeNumerator_of_le h, Nat.add_zero]
  · rw [mul_ceilDiv_eq _ (by omega), Nat.mul_comm (r.tieredFee x),
      mul_add_ceilDiv _ _ FEE_DENOMINATOR_pos]

/-- What the program charges is at most the amount. -/
theorem fee_le (hr : r.Applied) (x : ℕ) : r.fee x ≤ x := by
  rw [← mul_feeNumerator_ceilDiv, ceilDiv_le_iff FEE_DENOMINATOR_pos, Nat.mul_comm FEE_DENOMINATOR]
  exact Nat.mul_le_mul_left x (feeNumerator_le hr x)

/-- The rounding of the numerator adds a billionth of the amount at most.
Source: `base_fee/fee_rate_limiter.rs` `get_fee_numerator_from_included_fee_amount`, "reverse to fee
numerator" -/
theorem roundingExcess_le (x : ℕ) : r.roundingExcess x ≤ x ⌈/⌉ FEE_DENOMINATOR := by
  unfold roundingExcess
  split_ifs with h
  · exact Nat.zero_le _
  · exact ceilDiv_mono (Nat.mod_lt _ (by omega)).le _

/-- The program computes the one rate of every amount that fits its type.
Source: `base_fee/fee_rate_limiter.rs` `get_fee_numerator_from_included_fee_amount` -/
theorem getFeeNumeratorFromIncludedFeeAmount_eq (hr : r.Applied) (hx : x < 2 ^ 64) :
    r.getFeeNumeratorFromIncludedFeeAmount x = .ok (r.feeNumerator x) := by
  have hle := feeNumerator_le hr x
  unfold getFeeNumeratorFromIncludedFeeAmount
  by_cases h : x ≤ r.referenceAmount
  · rw [if_pos h, feeNumerator, if_pos h]
    rfl
  · have hfee : r.tieredFee x < 2 ^ 64 := (tieredFee_le hr x).trans_lt hx
    have hclosed := closedForm_eq hr (not_le.mp h)
    have hnumerator : r.feeNumerator x = (r.tieredFee x * FEE_DENOMINATOR) ⌈/⌉ x := if_neg h
    rw [hnumerator] at hle ⊢
    rw [if_neg h]
    refine bind_eq_ok.mpr ⟨_, safeSub_eq_ok.mpr ⟨(not_le.mp h).le, rfl⟩, bind_eq_ok.mpr
      ⟨(), require_eq_ok.mpr hr.referenceAmount_pos.ne', bind_eq_ok.mpr
      ⟨_, getMaxIndex_eq hr, bind_eq_ok.mpr ⟨_, toNumerator_increment hr.increment_lt,
      bind_eq_ok.mpr ⟨r.tieredFee x, ?_, ?_⟩⟩⟩⟩⟩
    · simp only at hclosed ⊢
      rw [hclosed]
      exact safeCast_eq_ok.mpr ⟨hfee, rfl⟩
    · rw [safeMulDivCastU64_eq .up (by omega) hfee FEE_DENOMINATOR_lt hx]
      exact safeCast_eq_ok.mpr ⟨hle.trans_lt FEE_DENOMINATOR_lt, rfl⟩

/-- **The program charges the tiers and the excess of the rounding.**
Source: `base_fee/fee_rate_limiter.rs` `get_excluded_fee_amount` -/
theorem getExcludedFeeAmount_eq (hr : r.Applied) (hx : x < 2 ^ 64) :
    r.getExcludedFeeAmount x = .ok (r.excluded x) := by
  have hle := fee_le hr x
  have hfee : safeMulDivCastU64 x (r.feeNumerator x) FEE_DENOMINATOR .up = .ok (r.fee x) := by
    rw [← mul_feeNumerator_ceilDiv]
    exact (safeMulDivCastU64_part .up hx (feeNumerator_le hr x) FEE_DENOMINATOR_pos
      FEE_DENOMINATOR_lt).1
  exact bind_eq_ok.mpr ⟨_, getFeeNumeratorFromIncludedFeeAmount_eq hr hx, bind_eq_ok.mpr
    ⟨_, bind_eq_ok.mpr ⟨_, hfee, bind_eq_ok.mpr ⟨_, safeSub_eq_ok.mpr ⟨hle, rfl⟩, rfl⟩⟩, rfl⟩⟩

end Applied

/-! ## Larger amounts -/

section Monotone

variable {r : FeeRateLimiter} {x y : ℕ}

/-- The charge by tiers leaves at least a hundredth of the further tokens.
Source: `base_fee/fee_rate_limiter.rs`, the comment on `FeeRateLimiter`; `constants.rs`
`MAX_FEE_NUMERATOR` -/
theorem tieredFee_add_le (hr : r.Applied) (h : x ≤ y) :
    r.tieredFee y + (y - x) / 100 ≤ r.tieredFee x + (y - x) := by
  obtain ⟨n, rfl⟩ := Nat.exists_eq_add_of_le h
  have hmore : r.tieredFeeNumerator (x + n) ≤ r.tieredFeeNumerator x + n * MAX_FEE_NUMERATOR :=
    tiered_add_le fun u _ => rate_le hr _
  have hup := le_mul_ceilDiv (r.tieredFeeNumerator x) FEE_DENOMINATOR_pos
  have hle : r.tieredFee (x + n) ≤ r.tieredFee x + (n - n / 100) := by
    rw [tieredFee, ceilDiv_le_iff FEE_DENOMINATOR_pos, tieredFee, Nat.mul_add]
    simp only [FEE_DENOMINATOR, MAX_FEE_NUMERATOR] at hmore hup ⊢
    omega
  rw [Nat.add_sub_cancel_left]
  omega

/-- **What a larger amount can fall short by**: a billionth of it, rounded up.
Source: `base_fee/fee_rate_limiter.rs` `get_excluded_fee_amount` -/
theorem excluded_le_add (hr : r.Applied) (h : x ≤ y) :
    r.excluded x ≤ r.excluded y + y ⌈/⌉ FEE_DENOMINATOR := by
  have htier := tieredFee_add_le hr h
  have hexcess := roundingExcess_le (r := r) y
  have hx := fee_le hr x
  have hy := fee_le hr y
  simp only [excluded, fee] at hx hy ⊢
  omega

/-- **Amounts that are far apart leave amounts in the same order**, and so do all amounts up to the
reference amount: only close neighbours above it can be out of order.
Source: `base_fee/fee_rate_limiter.rs` `get_excluded_fee_amount`; `tests/test_rate_limiter.rs`
`test_rate_limiter_routing_friendly`, the steps of half a reference amount -/
theorem excluded_mono_of_far (hr : r.Applied) (h : x ≤ y)
    (hfar : y ≤ r.referenceAmount ∨ 100 * (y ⌈/⌉ FEE_DENOMINATOR) ≤ y - x) :
    r.excluded x ≤ r.excluded y := by
  have htier := tieredFee_add_le hr h
  have hexcess : r.roundingExcess y ≤ (y - x) / 100 := by
    rcases hfar with hreference | hfar
    · rw [roundingExcess, if_pos hreference]
      exact Nat.zero_le _
    · have hbillionth := roundingExcess_le (r := r) y
      omega
  have hx := fee_le hr x
  have hy := fee_le hr y
  simp only [excluded, fee] at hx hy ⊢
  omega

/-- A zero limiter cannot charge an amount by tiers.
Source: `base_fee/fee_rate_limiter.rs` `get_fee_numerator_from_included_fee_amount`, the division by
`reference_amount` -/
theorem getExcludedFeeAmount_zero {e : ℕ} (hzero : r.isZeroRateLimiter = true)
    (h : r.getExcludedFeeAmount x = .ok e) : x = 0 := by
  simp only [isZeroRateLimiter, decide_eq_true_eq] at hzero
  by_contra hx
  have hgt : ¬ x ≤ r.referenceAmount := by omega
  simp only [getExcludedFeeAmount, getFeeNumeratorFromIncludedFeeAmount, if_neg hgt, bind_eq_ok,
    require_eq_ok] at h
  obtain ⟨_, ⟨_, _, _, href, _⟩, _⟩ := h
  exact href hzero.1

/-- The excluded amount of nothing.
Source: `base_fee/fee_rate_limiter.rs` `get_excluded_fee_amount` -/
theorem getExcludedFeeAmount_of_nothing (hcliff : r.cliffFeeNumerator ≤ MAX_FEE_NUMERATOR) :
    r.getExcludedFeeAmount 0 = .ok 0 := by
  have hfee : safeMulDivCastU64 0 r.cliffFeeNumerator FEE_DENOMINATOR .up = .ok 0 := by
    obtain ⟨hpart, hle⟩ := safeMulDivCastU64_part .up (Nat.two_pow_pos 64)
      (hcliff.trans MAX_FEE_NUMERATOR_lt.le) FEE_DENOMINATOR_pos FEE_DENOMINATOR_lt
    rw [hpart, Nat.le_zero.mp hle]
  have hnumerator : r.getFeeNumeratorFromIncludedFeeAmount 0 = .ok r.cliffFeeNumerator :=
    if_pos (Nat.zero_le _)
  exact bind_eq_ok.mpr ⟨_, hnumerator, bind_eq_ok.mpr ⟨_, bind_eq_ok.mpr ⟨_, hfee, bind_eq_ok.mpr
    ⟨_, safeSub_eq_ok.mpr ⟨le_rfl, rfl⟩, rfl⟩⟩, rfl⟩⟩

/-- **When a larger amount leaves at least as much.** Where the limiter is applied, or there is no
amount, it does up to the reference amount, and above it when the two are the same, or apart by at
least a hundred times a billionth of the larger one, rounded up. In no case does a fee exceed its
amount, or does the larger amount leave less by more than a billionth of it, rounded up.
Source: `base_fee/fee_rate_limiter.rs` `get_excluded_fee_amount`; `tests/test_rate_limiter.rs`
`test_rate_limiter_routing_friendly`, "more input amount, then more output amount" -/
theorem routingFriendly_of_far (r : FeeRateLimiter) (collectFeeMode : ℕ)
    (activationType : ActivationType)
    (hvalid : r.validate collectFeeMode activationType = .ok ()) (x y : ℕ) (hxy : x ≤ y)
    (hy : y < 2 ^ 64) :
    ((r.isNonZeroRateLimiter = true ∨ y = 0) ∧
        (x = y ∨ y ≤ r.referenceAmount ∨ 100 * (y ⌈/⌉ FEE_DENOMINATOR) ≤ y - x) →
      ∃ ex ey, r.getExcludedFeeAmount x = .ok ex ∧ r.getExcludedFeeAmount y = .ok ey ∧
        ex ≤ ey ∧ ex ≤ x ∧ ey ≤ y) ∧
      ((∃ ex ey, r.getExcludedFeeAmount x = .ok ex ∧ r.getExcludedFeeAmount y = .ok ey) ↔
        r.isNonZeroRateLimiter = true ∨ y = 0) ∧
      ∀ ex ey, r.getExcludedFeeAmount x = .ok ex → r.getExcludedFeeAmount y = .ok ey →
        ex ≤ x ∧ ey ≤ y ∧ ex ≤ ey + y ⌈/⌉ FEE_DENOMINATOR := by
  obtain ⟨hcliff, hzero | ⟨hnonzero, hr⟩⟩ := validate_spec hvalid
  · have hnone : y = 0 → r.getExcludedFeeAmount x = .ok 0 ∧ r.getExcludedFeeAmount y = .ok 0 := by
      rintro rfl
      obtain rfl := Nat.le_zero.mp hxy
      exact ⟨getExcludedFeeAmount_of_nothing hcliff, getExcludedFeeAmount_of_nothing hcliff⟩
    have happlied : r.isNonZeroRateLimiter = true ∨ y = 0 → y = 0 := by
      simp only [isZeroRateLimiter, isNonZeroRateLimiter, decide_eq_true_eq] at hzero ⊢
      rintro (hnonzero | hy0)
      · exact absurd hzero.1 hnonzero.1
      · exact hy0
    refine ⟨fun h => ?_, ⟨?_, fun h => ?_⟩, fun ex ey hex hey => ?_⟩
    · obtain ⟨hex, hey⟩ := hnone (happlied h.1)
      exact ⟨0, 0, hex, hey, le_rfl, Nat.zero_le _, Nat.zero_le _⟩
    · rintro ⟨ex, ey, _, hey⟩
      exact .inr (getExcludedFeeAmount_zero hzero hey)
    · obtain ⟨hex, hey⟩ := hnone (happlied h)
      exact ⟨0, 0, hex, hey⟩
    · obtain ⟨hex', hey'⟩ := hnone (getExcludedFeeAmount_zero hzero hey)
      cases hex'.symm.trans hex
      cases hey'.symm.trans hey
      exact ⟨Nat.zero_le _, Nat.zero_le _, Nat.zero_le _⟩
  · have hx := getExcludedFeeAmount_eq hr (hxy.trans_lt hy)
    have hy' := getExcludedFeeAmount_eq hr hy
    refine ⟨fun h => ?_, ⟨fun _ => .inl hnonzero, fun _ => ⟨_, _, hx, hy'⟩⟩,
      fun ex ey hex hey => ?_⟩
    · have horder : r.excluded x ≤ r.excluded y := by
        rcases h.2 with hsame | hfar
        · rw [hsame]
        · exact excluded_mono_of_far hr hxy hfar
      exact ⟨_, _, hx, hy', horder, Nat.sub_le _ _, Nat.sub_le _ _⟩
    · cases hx.symm.trans hex
      cases hy'.symm.trans hey
      exact ⟨Nat.sub_le _ _, Nat.sub_le _ _, excluded_le_add hr hxy⟩

/-- The limiter of one percent for each billion tokens, at two billion tokens and twice that. -/
theorem routingFriendly_of_far_twoBillion :
    ∃ ex ey, (⟨10000000, 100, 60, 1000000000⟩ : FeeRateLimiter).getExcludedFeeAmount 2000000000 =
        .ok ex ∧
      (⟨10000000, 100, 60, 1000000000⟩ : FeeRateLimiter).getExcludedFeeAmount 4000000000 = .ok ey ∧
      ex ≤ ey ∧ ex ≤ 2000000000 ∧ ey ≤ 4000000000 :=
  (routingFriendly_of_far ⟨10000000, 100, 60, 1000000000⟩ 0 .timestamp (by decide +kernel)
    2000000000 4000000000 (by decide) (by decide)).1
    ⟨.inl (by decide +kernel), .inr (.inr (by decide +kernel))⟩

/-- One token more than the reference amount of a billion leaves one token less. -/
theorem excluded_le_false :
    ¬ ∀ (r : FeeRateLimiter) (collectFeeMode : ℕ) (activationType : ActivationType) (x y ex ey : ℕ),
      r.validate collectFeeMode activationType = .ok () → x ≤ y → y < 2 ^ 64 →
      r.getExcludedFeeAmount x = .ok ex → r.getExcludedFeeAmount y = .ok ey → ex ≤ ey := by
  intro h
  have hle : 990000000 ≤ 989999999 := h ⟨10000000, 100, 60, 1000000000⟩ 0 .timestamp 1000000000
    1000000001 990000000 989999999 (by decide +kernel) (by decide) (by decide) (by decide +kernel)
    (by decide +kernel)
  exact absurd hle (by decide)

end Monotone

end FeeRateLimiter

end DynamicBondingCurve
