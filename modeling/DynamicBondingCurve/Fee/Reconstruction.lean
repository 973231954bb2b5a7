import DynamicBondingCurve.Fee.RateLimiter
import DynamicBondingCurve.Library.Quadratic

/-!
# The amount that the rate limiter reconstructs

From an amount without its fee the program reconstructs the amount with it: by the quadratic formula
for whole tiers below the last one, and then at the rate of the tier reached, or of the last tier.

* `netNumerator`: what the charge by tiers leaves. It is the quadratic of the formula where a tier
  ends, and less inside a tier (`two_mul_netNumerator`).
* `radicand_le`, `firstIncludedFeeAmount_lt`, `excluded_first_le`: **the quadratic branch is
  sound**: the radicand is not negative, the root lies in a tier, and leaves at most the amount
  asked for.
* `reconstructedAmount`: the amount that each branch reconstructs, without a bound on its size.
* `le_netNumerator_reconstructed`: **the tiers leave the amount asked for** of the amount
  reconstructed, when it fits.
-/

namespace DynamicBondingCurve

open Library

namespace FeeRateLimiter

/-! ## The amounts of the inverse -/

section Amounts

variable (r : FeeRateLimiter)

/-- What the charge by tiers leaves, as a numerator.
Source: `base_fee/fee_rate_limiter.rs`, `ex` in the comment on the quadratic equation -/
def netNumerator (amount : ℕ) : ℕ := amount * FEE_DENOMINATOR - r.tieredFeeNumerator amount

/-- The linear coefficient of the quadratic equation.
Source: `base_fee/fee_rate_limiter.rs` `get_fee_numerator_from_excluded_fee_amount`, `y` -/
def linearCoefficient : ℕ :=
  2 * FEE_DENOMINATOR * r.referenceAmount + r.increment * r.referenceAmount -
    2 * r.cliffFeeNumerator * r.referenceAmount

/-- The constant term of the quadratic equation.
Source: `base_fee/fee_rate_limiter.rs` `get_fee_numerator_from_excluded_fee_amount`, `z` -/
def constantTerm (excludedFeeAmount : ℕ) : ℕ :=
  2 * excludedFeeAmount * FEE_DENOMINATOR * r.referenceAmount

/-- The root of the quadratic equation, as it is computed.
Source: `base_fee/fee_rate_limiter.rs` `get_fee_numerator_from_excluded_fee_amount`, the first
`included_fee_amount` of the quadratic branch -/
def firstIncludedFeeAmount (excludedFeeAmount : ℕ) : ℕ :=
  smallerRoot r.increment r.linearCoefficient (r.constantTerm excludedFeeAmount)

/-- The end of the last tier whose rate ascends, or the largest amount before it.
Source: `base_fee/fee_rate_limiter.rs` `get_checked_amounts`, `checked_included_fee_amount` -/
def checkedIncludedFeeAmount : ℕ := min ((r.maxIndex + 1) * r.referenceAmount) u64Max

/-- An amount with a fee added on.
Source: `state/config.rs` `PoolFeesConfig::get_included_fee_amount` -/
def withFee (numerator amount : ℕ) : ℕ :=
  (amount * FEE_DENOMINATOR) ⌈/⌉ (FEE_DENOMINATOR - numerator)

/-- The quadratic branch: the root, and the rest at the rate of its tier.
Source: `base_fee/fee_rate_limiter.rs` `get_fee_numerator_from_excluded_fee_amount`,
`total_in_amount` -/
def totalInAmount (excludedFeeAmount : ℕ) : ℕ :=
  let first := r.firstIncludedFeeAmount excludedFeeAmount
  first + withFee (r.cliffFeeNumerator + r.increment * (first / r.referenceAmount))
    (excludedFeeAmount - r.excluded first)

/-- The amount that each branch reconstructs; nothing bounds it here.
Source: `base_fee/fee_rate_limiter.rs` `get_fee_numerator_from_excluded_fee_amount`, the branches -/
def reconstructedAmount (excludedFeeAmount : ℕ) : ℕ :=
  if excludedFeeAmount ≤ r.excluded r.referenceAmount then
    withFee r.cliffFeeNumerator excludedFeeAmount
  else if excludedFeeAmount = r.excluded r.checkedIncludedFeeAmount then r.checkedIncludedFeeAmount
  else if excludedFeeAmount < r.excluded r.checkedIncludedFeeAmount then
    r.totalInAmount excludedFeeAmount
  else
    r.checkedIncludedFeeAmount +
      withFee MAX_FEE_NUMERATOR (excludedFeeAmount - r.excluded r.checkedIncludedFeeAmount)

end Amounts

/-! ## What the tiers leave -/

section Net

variable {r : FeeRateLimiter} {x y n k : ℕ}

/-- The charge by tiers and what it leaves add up to the amount. -/
theorem netNumerator_add (hr : r.Applied) (x : ℕ) :
    r.netNumerator x + r.tieredFeeNumerator x = x * FEE_DENOMINATOR := by
  have hle := tieredFeeNumerator_le hr x
  have hmax : x * MAX_FEE_NUMERATOR ≤ x * FEE_DENOMINATOR :=
    Nat.mul_le_mul_left x MAX_FEE_NUMERATOR_lt.le
  exact Nat.sub_add_cancel (hle.trans hmax)

/-- The charge by tiers leaves more of more. -/
theorem netNumerator_mono (hr : r.Applied) (h : x ≤ y) : r.netNumerator x ≤ r.netNumerator y := by
  obtain ⟨n, rfl⟩ := Nat.exists_eq_add_of_le h
  have hmore : r.tieredFeeNumerator (x + n) ≤ r.tieredFeeNumerator x + n * MAX_FEE_NUMERATOR :=
    tiered_add_le fun u _ => rate_le hr _
  have hx := netNumerator_add hr x
  have hy := netNumerator_add hr (x + n)
  simp only [FEE_DENOMINATOR, MAX_FEE_NUMERATOR] at hmore hx hy
  omega

/-- Every token is charged the first rate at least.
Source: `base_fee/fee_rate_limiter.rs`, the comment on `FeeRateLimiter` -/
theorem netNumerator_le (hr : r.Applied) (x : ℕ) :
    r.netNumerator x + x * r.cliffFeeNumerator ≤ x * FEE_DENOMINATOR := by
  have hle : x * r.cliffFeeNumerator ≤ r.tieredFeeNumerator x := mul_le_tiered (cliff_le_rate hr)
  have := netNumerator_add hr x
  omega

/-- The program leaves at most what the tiers leave.
Source: `base_fee/fee_rate_limiter.rs` `get_excluded_fee_amount` -/
theorem excluded_mul_le (hr : r.Applied) (x : ℕ) :
    r.excluded x * FEE_DENOMINATOR ≤ r.netNumerator x := by
  have hup := le_mul_ceilDiv (r.tieredFeeNumerator x) FEE_DENOMINATOR_pos
  have hnet := netNumerator_add hr x
  have hfee := fee_le hr x
  unfold excluded
  simp only [fee, tieredFee, FEE_DENOMINATOR] at hfee hup hnet ⊢
  omega

/-- The program leaves what the tiers leave, less a billionth of the amount and two tokens.
Source: `base_fee/fee_rate_limiter.rs` `get_excluded_fee_amount`, its three roundings -/
theorem netNumerator_le_excluded (hr : r.Applied) (x : ℕ) :
    r.netNumerator x ≤ (r.excluded x + x / FEE_DENOMINATOR + 2) * FEE_DENOMINATOR := by
  have hexcess := roundingExcess_le (r := r) x
  have hceil : x ⌈/⌉ FEE_DENOMINATOR ≤ x / FEE_DENOMINATOR + 1 := by
    rw [ceilDiv_le_iff FEE_DENOMINATOR_pos]
    exact (Nat.lt_mul_div_succ x FEE_DENOMINATOR_pos).le
  have htier := mul_ceilDiv_lt (r.tieredFeeNumerator x) FEE_DENOMINATOR_pos
  have hnet := netNumerator_add hr x
  have hfee := fee_le hr x
  unfold excluded
  simp only [fee, tieredFee, FEE_DENOMINATOR] at hexcess hceil htier hnet hfee ⊢
  omega

/-- Inside a tier each further token leaves the same.
Source: `base_fee/fee_rate_limiter.rs`, the comment on `FeeRateLimiter` -/
theorem netNumerator_add_of_tier (hr : r.Applied)
    (h : x + n ≤ (x / r.referenceAmount + 1) * r.referenceAmount) :
    r.netNumerator (x + n) =
      r.netNumerator x + n * (FEE_DENOMINATOR - r.rate (x / r.referenceAmount)) := by
  have htier : r.tieredFeeNumerator (x + n) =
      r.tieredFeeNumerator x + n * r.rate (x / r.referenceAmount) := tiered_add_of_tier h
  have hrate : r.rate (x / r.referenceAmount) ≤ FEE_DENOMINATOR := (rate_lt hr _).le
  have hx := netNumerator_add hr x
  have hy := netNumerator_add hr (x + n)
  rw [htier, Nat.add_mul] at hy
  have hsplit : n * (FEE_DENOMINATOR - r.rate (x / r.referenceAmount)) +
      n * r.rate (x / r.referenceAmount) = n * FEE_DENOMINATOR := by
    rw [← Nat.mul_add, Nat.sub_add_cancel hrate]
  omega

/-- Past the last tier that ascends each further token leaves the least.
Source: `base_fee/fee_rate_limiter.rs`, the comment on `FeeRateLimiter` -/
theorem netNumerator_add_of_ge (hr : r.Applied)
    (h : (r.maxIndex + 1) * r.referenceAmount ≤ x) :
    r.netNumerator (x + n) = r.netNumerator x + n * (FEE_DENOMINATOR - MAX_FEE_NUMERATOR) := by
  have htier := tieredFeeNumerator_add_of_ge (n := n) hr h
  have hx := netNumerator_add hr x
  have hy := netNumerator_add hr (x + n)
  simp only [FEE_DENOMINATOR, MAX_FEE_NUMERATOR] at htier hx hy ⊢
  omega

/-- The linear coefficient, without its subtraction. -/
theorem linearCoefficient_add (hr : r.Applied) :
    r.linearCoefficient + 2 * r.cliffFeeNumerator * r.referenceAmount =
      2 * FEE_DENOMINATOR * r.referenceAmount + r.increment * r.referenceAmount := by
  have hcliff : r.cliffFeeNumerator ≤ FEE_DENOMINATOR := hr.cliff_lt.le
  have hle : 2 * r.cliffFeeNumerator * r.referenceAmount ≤
      2 * FEE_DENOMINATOR * r.referenceAmount := by gcongr
  exact Nat.sub_add_cancel (hle.trans (Nat.le_add_right _ _))

/-- **What the tiers leave is the quadratic of the formula** where a tier ends, and less inside a
tier.
Source: `base_fee/fee_rate_limiter.rs`, the comment on the quadratic equation -/
theorem two_mul_netNumerator {b d : ℕ} (hr : r.Applied) (hk : k ≤ r.maxIndex + 1)
    (hsize : r.referenceAmount = b + d) (hb : b = 0 ∨ k ≤ r.maxIndex)
    (hx : x = k * r.referenceAmount + b) :
    2 * r.referenceAmount * r.netNumerator x + r.increment * x * x + r.increment * b * d =
      r.linearCoefficient * x := by
  have hquadratic : 2 * r.referenceAmount * r.tieredFeeNumerator x +
      r.increment * x * r.referenceAmount =
        2 * r.cliffFeeNumerator * r.referenceAmount * x + r.increment * x * x +
          r.increment * b * d := by
    rw [hx]
    exact two_mul_tiered (fun j hj => rate_of_le (by omega)) hsize (hb.imp_right rate_of_le)
  have hnet := netNumerator_add hr x
  have hcoefficient := linearCoefficient_add hr
  generalize r.tieredFeeNumerator x = t at hquadratic hnet
  generalize r.netNumerator x = w at hnet ⊢
  generalize r.linearCoefficient = y at hcoefficient ⊢
  have hscaled : y * x + 2 * r.cliffFeeNumerator * r.referenceAmount * x =
      2 * r.referenceAmount * (w + t) + r.increment * x * r.referenceAmount := by
    rw [hnet, ← Nat.add_mul, hcoefficient]
    ring
  rw [Nat.mul_add] at hscaled
  omega

/-- Where a tier ends.
Source: `base_fee/fee_rate_limiter.rs`, the comment on the quadratic equation -/
theorem two_mul_netNumerator_end (hr : r.Applied) (hk : k ≤ r.maxIndex + 1) :
    2 * r.referenceAmount * r.netNumerator (k * r.referenceAmount) +
      r.increment * (k * r.referenceAmount) * (k * r.referenceAmount) =
        r.linearCoefficient * (k * r.referenceAmount) := by
  have h := two_mul_netNumerator (b := 0) (d := r.referenceAmount) hr hk (Nat.zero_add _).symm
    (.inl rfl) (Nat.add_zero _).symm
  rwa [Nat.mul_zero, Nat.zero_mul, Nat.add_zero] at h

/-- Up to the last tier that ascends.
Source: `base_fee/fee_rate_limiter.rs`, the comment on the quadratic equation -/
theorem two_mul_netNumerator_le (hr : r.Applied)
    (hx : x ≤ (r.maxIndex + 1) * r.referenceAmount) :
    2 * r.referenceAmount * r.netNumerator x + r.increment * x * x ≤ r.linearCoefficient * x := by
  rcases hx.eq_or_lt with rfl | hlt
  · exact (two_mul_netNumerator_end hr le_rfl).le
  · have hk : x / r.referenceAmount < r.maxIndex + 1 :=
      (Nat.div_lt_iff_lt_mul hr.referenceAmount_pos).mpr hlt
    have hb : x % r.referenceAmount < r.referenceAmount := Nat.mod_lt _ hr.referenceAmount_pos
    have h := two_mul_netNumerator hr hk.le (Nat.add_sub_cancel' hb.le).symm
      (.inr (Nat.le_of_lt_succ hk)) (Nat.div_add_mod' x r.referenceAmount).symm
    exact (Nat.le_add_right _ _).trans_eq h

/-- Adding a fee on covers the amount and the fee.
Source: `state/config.rs` `PoolFeesConfig::get_included_fee_amount` -/
theorem le_mul_withFee {numerator : ℕ} (amount : ℕ) (h : numerator < FEE_DENOMINATOR) :
    amount * FEE_DENOMINATOR ≤ withFee numerator amount * (FEE_DENOMINATOR - numerator) := by
  rw [Nat.mul_comm (withFee numerator amount)]
  exact le_mul_ceilDiv _ (Nat.sub_pos_of_lt h)

/-- Something with a fee added on is something. -/
theorem withFee_pos {numerator amount : ℕ} (h : numerator < FEE_DENOMINATOR) (hpos : 0 < amount) :
    0 < withFee numerator amount := by
  have hcover := le_mul_withFee amount h
  have hscaled : 0 < amount * FEE_DENOMINATOR := Nat.mul_pos hpos FEE_DENOMINATOR_pos
  exact Nat.pos_of_mul_pos_right (hscaled.trans_le hcover)

end Net

/-! ## The quadratic branch -/

section Quadratic

variable {r : FeeRateLimiter} {ex : ℕ}

/-- The end of the ascending tiers fits its type. -/
theorem checkedIncludedFeeAmount_lt : r.checkedIncludedFeeAmount < 2 ^ 64 :=
  (min_le_right _ _).trans_lt u64Max_lt

/-- It is not after the last ascending tier. -/
theorem checkedIncludedFeeAmount_le :
    r.checkedIncludedFeeAmount ≤ (r.maxIndex + 1) * r.referenceAmount :=
  min_le_left _ _

/-- The vertex of the quadratic is far above a token of what is left.
Source: `base_fee/fee_rate_limiter.rs`, the comment on the quadratic equation -/
theorem linearCoefficient_lt (hr : r.Applied) :
    r.linearCoefficient < 2 * r.increment * (2 * r.referenceAmount * FEE_DENOMINATOR) := by
  have hpos := hr.referenceAmount_pos
  have hge := hr.increment_ge
  have hlt := hr.increment_lt
  calc r.linearCoefficient
      ≤ 2 * FEE_DENOMINATOR * r.referenceAmount + r.increment * r.referenceAmount :=
        Nat.sub_le _ _
    _ = r.referenceAmount * (2 * FEE_DENOMINATOR + r.increment) := by ring
    _ < r.referenceAmount * (4 * r.increment * FEE_DENOMINATOR) := by
        apply Nat.mul_lt_mul_of_pos_left _ hpos
        simp only [FEE_DENOMINATOR] at hlt ⊢
        omega
    _ = 2 * r.increment * (2 * r.referenceAmount * FEE_DENOMINATOR) := by ring

/-- One token more, and the rounding of the constant term. -/
theorem constantTerm_add (ex : ℕ) :
    r.constantTerm ex + 2 * r.referenceAmount * FEE_DENOMINATOR =
      2 * r.referenceAmount * ((ex + 1) * FEE_DENOMINATOR) := by
  unfold constantTerm
  ring

/-- At the checked amount the value of the quadratic clearly exceeds the constant term.
Source: `base_fee/fee_rate_limiter.rs` `get_fee_numerator_from_excluded_fee_amount`, the condition
of the quadratic branch -/
theorem value_checked (hr : r.Applied) (hhigh : ex < r.excluded r.checkedIncludedFeeAmount) :
    r.increment * r.checkedIncludedFeeAmount * r.checkedIncludedFeeAmount + r.constantTerm ex +
        2 * r.referenceAmount * FEE_DENOMINATOR ≤
      r.linearCoefficient * r.checkedIncludedFeeAmount := by
  have hnet := excluded_mul_le hr r.checkedIncludedFeeAmount
  have hquadratic := two_mul_netNumerator_le hr (checkedIncludedFeeAmount_le (r := r))
  have hleft : 2 * r.referenceAmount * ((ex + 1) * FEE_DENOMINATOR) ≤
      2 * r.referenceAmount * r.netNumerator r.checkedIncludedFeeAmount := by
    apply Nat.mul_le_mul_left
    exact (Nat.mul_le_mul_right _ (Nat.succ_le_of_lt hhigh)).trans hnet
  have hterm := constantTerm_add (r := r) ex
  omega

/-- **The radicand does not wrap.**
Source: `base_fee/fee_rate_limiter.rs` `get_fee_numerator_from_excluded_fee_amount`,
`y * y - four * x * z` -/
theorem radicand_le (hr : r.Applied) (hhigh : ex < r.excluded r.checkedIncludedFeeAmount) :
    4 * r.increment * r.constantTerm ex ≤ r.linearCoefficient * r.linearCoefficient := by
  have hvalue := value_checked hr hhigh
  apply four_mul_le_of_value (v := r.checkedIncludedFeeAmount)
  omega

/-- The root lies below the checked amount.
Source: `base_fee/fee_rate_limiter.rs` `get_fee_numerator_from_excluded_fee_amount`, the quadratic
branch -/
theorem firstIncludedFeeAmount_lt (hr : r.Applied)
    (hhigh : ex < r.excluded r.checkedIncludedFeeAmount) :
    r.firstIncludedFeeAmount ex < r.checkedIncludedFeeAmount := by
  have hpos := hr.increment_ge
  exact smallerRoot_lt (by omega) (linearCoefficient_lt hr) (value_checked hr hhigh)

/-- The root lies in a tier whose rate ascends.
Source: `base_fee/fee_rate_limiter.rs` `get_fee_numerator_from_excluded_fee_amount`, `a_plus_one` -/
theorem firstTier_le (hr : r.Applied) (hhigh : ex < r.excluded r.checkedIncludedFeeAmount) :
    r.firstIncludedFeeAmount ex / r.referenceAmount ≤ r.maxIndex := by
  apply Nat.le_of_lt_succ
  rw [Nat.div_lt_iff_lt_mul hr.referenceAmount_pos]
  exact (firstIncludedFeeAmount_lt hr hhigh).trans_le checkedIncludedFeeAmount_le

/-- **The root leaves at most the amount asked for**, so the rest does not underflow.
Source: `base_fee/fee_rate_limiter.rs` `get_fee_numerator_from_excluded_fee_amount`,
`excluded_fee_remaining_amount` -/
theorem excluded_first_le (hr : r.Applied) (hhigh : ex < r.excluded r.checkedIncludedFeeAmount) :
    r.excluded (r.firstIncludedFeeAmount ex) ≤ ex := by
  have hpos := hr.increment_ge
  have hvalue := value_smallerRoot_lt (by omega) (radicand_le hr hhigh) (linearCoefficient_lt hr)
  have hbelow := (firstIncludedFeeAmount_lt hr hhigh).le.trans checkedIncludedFeeAmount_le
  have hquadratic := two_mul_netNumerator_le hr hbelow
  change r.linearCoefficient * r.firstIncludedFeeAmount ex <
    r.increment * r.firstIncludedFeeAmount ex * r.firstIncludedFeeAmount ex + _ + _ at hvalue
  have hterm := constantTerm_add (r := r) ex
  have hscaled : 2 * r.referenceAmount * r.netNumerator (r.firstIncludedFeeAmount ex) <
      2 * r.referenceAmount * ((ex + 1) * FEE_DENOMINATOR) := by omega
  have hnet := Nat.lt_of_mul_lt_mul_left hscaled
  have hleft := (excluded_mul_le hr (r.firstIncludedFeeAmount ex)).trans_lt hnet
  exact Nat.le_of_lt_succ (Nat.lt_of_mul_lt_mul_right hleft)

/-- The end of the tier of the root leaves the amount asked for.
Source: `base_fee/fee_rate_limiter.rs` `get_fee_numerator_from_excluded_fee_amount`, `a_plus_one` -/
theorem le_netNumerator_end (hr : r.Applied) (hhigh : ex < r.excluded r.checkedIncludedFeeAmount) :
    ex * FEE_DENOMINATOR ≤ r.netNumerator
      ((r.firstIncludedFeeAmount ex / r.referenceAmount + 1) * r.referenceAmount) := by
  have hpos := hr.increment_ge
  have htier := firstTier_le hr hhigh
  have hafter : r.firstIncludedFeeAmount ex <
      (r.firstIncludedFeeAmount ex / r.referenceAmount + 1) * r.referenceAmount := by
    rw [Nat.mul_comm]
    exact Nat.lt_mul_div_succ _ hr.referenceAmount_pos
  have hend := two_mul_netNumerator_end hr (Nat.succ_le_succ htier)
  generalize (r.firstIncludedFeeAmount ex / r.referenceAmount + 1) * r.referenceAmount = last
    at hafter hend ⊢
  rcases le_total last r.checkedIncludedFeeAmount with hle | hge
  · -- the value has reached the constant term, and at the end of a tier it is what is left
    have hvalue := value_checked hr hhigh
    have hreached := value_of_smallerRoot_lt (by omega) hafter hle (by omega)
    have hscaled : 2 * r.referenceAmount * (ex * FEE_DENOMINATOR) ≤
        2 * r.referenceAmount * r.netNumerator last := by
      have hterm : r.constantTerm ex = 2 * r.referenceAmount * (ex * FEE_DENOMINATOR) := by
        unfold constantTerm
        ring
      change r.increment * last * last + r.constantTerm ex ≤ _ at hreached
      omega
    have hreference := hr.referenceAmount_pos
    exact Nat.le_of_mul_le_mul_left hscaled (by omega)
  · calc ex * FEE_DENOMINATOR ≤ r.excluded r.checkedIncludedFeeAmount * FEE_DENOMINATOR :=
          Nat.mul_le_mul_right _ hhigh.le
      _ ≤ r.netNumerator r.checkedIncludedFeeAmount := excluded_mul_le hr _
      _ ≤ r.netNumerator last := netNumerator_mono hr hge

/-- **The tiers leave the amount asked for** of the amount that the quadratic branch reconstructs:
in the tier of the root, or past its end.
Source: `base_fee/fee_rate_limiter.rs` `get_fee_numerator_from_excluded_fee_amount`,
`total_in_amount` -/
theorem le_netNumerator_totalInAmount (hr : r.Applied)
    (hhigh : ex < r.excluded r.checkedIncludedFeeAmount) :
    ex * FEE_DENOMINATOR ≤ r.netNumerator (r.totalInAmount ex) := by
  have hend := le_netNumerator_end hr hhigh
  have hfirst := excluded_first_le hr hhigh
  have hrate := rate_of_le (firstTier_le hr hhigh)
  unfold totalInAmount
  simp only
  rw [← hrate]
  generalize r.firstIncludedFeeAmount ex = first at *
  have hcover := le_mul_withFee (ex - r.excluded first) (rate_lt hr (first / r.referenceAmount))
  generalize withFee (r.rate (first / r.referenceAmount)) (ex - r.excluded first) = rest
    at hcover ⊢
  by_cases htier : first + rest ≤ (first / r.referenceAmount + 1) * r.referenceAmount
  · have hleft := excluded_mul_le hr first
    rw [Nat.sub_mul] at hcover
    rw [netNumerator_add_of_tier hr htier]
    omega
  · exact hend.trans (netNumerator_mono hr (not_le.mp htier).le)

end Quadratic

/-! ## The amount reconstructed -/

section Reconstructed

variable {r : FeeRateLimiter} {ex : ℕ}

/-- Up to what the reference amount leaves, adding the first rate on stays below it.
Source: `base_fee/fee_rate_limiter.rs` `get_fee_numerator_from_excluded_fee_amount`, the first
branch -/
theorem withFee_le (hr : r.Applied) (hlow : ex ≤ r.excluded r.referenceAmount) :
    withFee r.cliffFeeNumerator ex ≤ r.referenceAmount := by
  have hcliff : r.cliffFeeNumerator < FEE_DENOMINATOR := hr.cliff_lt
  have hleft := (Nat.mul_le_mul_right FEE_DENOMINATOR hlow).trans (excluded_mul_le hr _)
  have hnet := netNumerator_le hr r.referenceAmount
  have hsub : r.referenceAmount * (FEE_DENOMINATOR - r.cliffFeeNumerator) +
      r.referenceAmount * r.cliffFeeNumerator = r.referenceAmount * FEE_DENOMINATOR := by
    rw [← Nat.mul_add, Nat.sub_add_cancel hcliff.le]
  rw [withFee, ceilDiv_le_iff (Nat.sub_pos_of_lt hcliff), Nat.mul_comm (_ - _)]
  omega

/-- **The tiers leave the amount asked for of the amount reconstructed**, when it fits.
Source: `base_fee/fee_rate_limiter.rs` `get_fee_numerator_from_excluded_fee_amount`, the branches -/
theorem le_netNumerator_reconstructed (hr : r.Applied) (hfit : r.reconstructedAmount ex ≤ u64Max) :
    ex * FEE_DENOMINATOR ≤ r.netNumerator (r.reconstructedAmount ex) := by
  have hcliff : r.cliffFeeNumerator < FEE_DENOMINATOR := hr.cliff_lt
  unfold reconstructedAmount at hfit ⊢
  split_ifs at hfit ⊢ with hlow heq hhigh
  · -- up to the reference amount every token is charged the first rate
    have hcover := le_mul_withFee ex hcliff
    have hnet := netNumerator_add hr (withFee r.cliffFeeNumerator ex)
    rw [tieredFeeNumerator_of_le (withFee_le hr hlow)] at hnet
    have hsub : withFee r.cliffFeeNumerator ex * (FEE_DENOMINATOR - r.cliffFeeNumerator) +
        withFee r.cliffFeeNumerator ex * r.cliffFeeNumerator =
          withFee r.cliffFeeNumerator ex * FEE_DENOMINATOR := by
      rw [← Nat.mul_add, Nat.sub_add_cancel hcliff.le]
    omega
  · rw [heq]
    exact excluded_mul_le hr _
  · exact le_netNumerator_totalInAmount hr hhigh
  · -- the rest is charged the highest rate, past the last tier that ascends
    have hcover := le_mul_withFee (ex - r.excluded r.checkedIncludedFeeAmount)
      MAX_FEE_NUMERATOR_lt
    have hleft := excluded_mul_le hr r.checkedIncludedFeeAmount
    have hrest := withFee_pos MAX_FEE_NUMERATOR_lt
      (by omega : 0 < ex - r.excluded r.checkedIncludedFeeAmount)
    have hlast : (r.maxIndex + 1) * r.referenceAmount ≤ r.checkedIncludedFeeAmount := by
      rcases min_choice ((r.maxIndex + 1) * r.referenceAmount) u64Max with hmin | hmin
      · exact hmin.ge
      · have hchecked : r.checkedIncludedFeeAmount = u64Max := hmin
        exact absurd ((Nat.lt_add_of_pos_right hrest).trans_le hfit) hchecked.not_lt
    rw [netNumerator_add_of_ge hr hlast]
    rw [Nat.sub_mul] at hcover
    omega

/-- The amount reconstructed is at least the amount asked for, and its fee at least the first rate.
Source: `base_fee/fee_rate_limiter.rs` `get_fee_numerator_from_excluded_fee_amount`, `trading_fee`
and the sanity check -/
theorem le_reconstructed (hr : r.Applied) (hfit : r.reconstructedAmount ex ≤ u64Max) :
    ex ≤ r.reconstructedAmount ex ∧
      r.reconstructedAmount ex * r.cliffFeeNumerator ≤
        (r.reconstructedAmount ex - ex) * FEE_DENOMINATOR := by
  have hnet := le_netNumerator_reconstructed hr hfit
  have hcharge := netNumerator_le hr (r.reconstructedAmount ex)
  have hle : ex ≤ r.reconstructedAmount ex := by
    have hscaled : ex * FEE_DENOMINATOR ≤ r.reconstructedAmount ex * FEE_DENOMINATOR := by omega
    exact Nat.le_of_mul_le_mul_right hscaled FEE_DENOMINATOR_pos
  refine ⟨hle, ?_⟩
  rw [Nat.sub_mul]
  omega

end Reconstructed

end FeeRateLimiter

end DynamicBondingCurve
