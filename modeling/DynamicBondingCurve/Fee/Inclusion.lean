import DynamicBondingCurve.Fee.PoolFees

/-!
# Adding a fee on and taking it out

The exact-out and partial-fill paths add a fee on to an amount, the exact-in path takes one out. The
first rounds the whole amount up, the second rounds the fee up, with different denominators.

* `getIncludedFeeAmount_eq`, `getExcludedFeeAmount_eq`: what the two compute: the amount scaled up
  by the part that a fee leaves, rounded up, and scaled down by it, rounded down.
* `le_excluded_iff`: **an amount leaves at least `e` exactly when it is at least `e` with the fee**;
  `getExcludedFeeAmount_included`: taking the fee out again gives back the amount and the fee.
* `feeInclusion_galois`: **the two calls are a Galois pair, and their fees are split without loss**.
* `excluded_lt_of_not_fit`: what does not fit with its fee is left by no amount.
-/

namespace DynamicBondingCurve

open Library

/-! ## What the two calls compute -/

section Calls

variable {numerator amount included fee : ℕ}

/-- Adding a fee on divides by what the fee leaves of a whole, rounded up.
Source: `state/config.rs` `PoolFeesConfig::get_included_fee_amount` -/
theorem getIncludedFeeAmount_eq (hrate : numerator < FEE_DENOMINATOR) (hamount : amount < 2 ^ 64) :
    getIncludedFeeAmount numerator amount =
      safeCast 64 ((amount * FEE_DENOMINATOR) ⌈/⌉ (FEE_DENOMINATOR - numerator)) >>=
        fun included => .ok (included, included - amount) := by
  have hpos : 0 < FEE_DENOMINATOR - numerator := Nat.sub_pos_of_lt hrate
  have hwide : FEE_DENOMINATOR - numerator < 2 ^ 64 :=
    (Nat.sub_le _ _).trans_lt FEE_DENOMINATOR_lt
  have hdenominator : safeSub FEE_DENOMINATOR numerator = .ok (FEE_DENOMINATOR - numerator) :=
    safeSub_eq_ok.mpr ⟨hrate.le, rfl⟩
  have hle : amount ≤ (amount * FEE_DENOMINATOR) ⌈/⌉ (FEE_DENOMINATOR - numerator) := by
    have hcover := le_mul_ceilDiv (amount * FEE_DENOMINATOR) hpos
    have hrest := Nat.mul_le_mul_right
      ((amount * FEE_DENOMINATOR) ⌈/⌉ (FEE_DENOMINATOR - numerator))
      (Nat.sub_le FEE_DENOMINATOR numerator)
    rw [Nat.mul_comm amount] at hcover hrest ⊢
    exact Nat.le_of_mul_le_mul_left (hcover.trans hrest) FEE_DENOMINATOR_pos
  unfold getIncludedFeeAmount
  rw [hdenominator, ok_bind, safeMulDivCastU64_eq .up hpos hamount FEE_DENOMINATOR_lt hwide]
  show safeCast 64 ((amount * FEE_DENOMINATOR) ⌈/⌉ (FEE_DENOMINATOR - numerator)) >>= _ = _
  generalize (amount * FEE_DENOMINATOR) ⌈/⌉ (FEE_DENOMINATOR - numerator) = included at hle ⊢
  by_cases hfit : included < 2 ^ 64
  · rw [safeCast_eq_ok.mpr ⟨hfit, rfl⟩, ok_bind, ok_bind, safeSub_eq_ok.mpr ⟨hle, rfl⟩, ok_bind]
    rfl
  · have hfail : safeCast 64 included = fail .typeCastFailed := if_neg hfit
    rw [hfail]
    rfl

/-- Adding a fee on that succeeds is at a rate below the whole amount, and fits.
Source: `state/config.rs` `PoolFeesConfig::get_included_fee_amount` -/
theorem getIncludedFeeAmount_included
    (h : getIncludedFeeAmount numerator amount = .ok (included, fee)) :
    numerator < FEE_DENOMINATOR ∧
      included = (amount * FEE_DENOMINATOR) ⌈/⌉ (FEE_DENOMINATOR - numerator) ∧
      included < 2 ^ 64 := by
  simp only [getIncludedFeeAmount, bind_eq_ok, safeSub_eq_ok, pure_eq_ok, Prod.mk.injEq] at h
  obtain ⟨_, ⟨_, rfl⟩, _, hdiv, _, _, rfl, _⟩ := h
  obtain ⟨hpos, rfl, hfit⟩ := safeMulDivCastU64_eq_ok hdiv
  exact ⟨Nat.lt_of_sub_pos hpos, rfl, hfit⟩

/-- Every amount leaves something, rounded down, and the fee is the rest.
Source: `state/config.rs` `PoolFeesConfig::get_excluded_fee_amount` -/
theorem getExcludedFeeAmount_eq (hrate : numerator ≤ FEE_DENOMINATOR) (hamount : amount < 2 ^ 64) :
    getExcludedFeeAmount numerator amount =
      .ok (amount * (FEE_DENOMINATOR - numerator) / FEE_DENOMINATOR,
        amount - amount * (FEE_DENOMINATOR - numerator) / FEE_DENOMINATOR) := by
  obtain ⟨hfee, hle⟩ := safeMulDivCastU64_part .up hamount hrate FEE_DENOMINATOR_pos
    FEE_DENOMINATOR_lt
  change (amount * numerator) ⌈/⌉ FEE_DENOMINATOR ≤ amount at hle
  rw [← sub_mul_ceilDiv FEE_DENOMINATOR_pos hrate, Nat.sub_sub_self hle]
  exact bind_eq_ok.mpr ⟨_, hfee, bind_eq_ok.mpr ⟨_, safeSub_eq_ok.mpr ⟨hle, rfl⟩, rfl⟩⟩

end Calls

/-! ## The Galois pair -/

section Galois

variable {numerator e x : ℕ}

/-- **An amount leaves at least `e` exactly when it is at least `e` with the fee.**
Source: `state/config.rs` `PoolFeesConfig::get_excluded_fee_amount`, `get_included_fee_amount` -/
theorem le_excluded_iff (hrate : numerator < FEE_DENOMINATOR) :
    e ≤ x * (FEE_DENOMINATOR - numerator) / FEE_DENOMINATOR ↔
      (e * FEE_DENOMINATOR) ⌈/⌉ (FEE_DENOMINATOR - numerator) ≤ x :=
  (gc_mul_ceilDiv_mul_div FEE_DENOMINATOR_pos (Nat.sub_pos_of_lt hrate) e x).symm

/-- **Taking the fee out again gives back the amount and the fee.**
Source: `state/config.rs` `PoolFeesConfig::get_excluded_fee_amount`, `get_included_fee_amount`;
`tests/test_inverse_fee.rs` `test_inverse_fee` -/
theorem getExcludedFeeAmount_included {included fee : ℕ}
    (h : getIncludedFeeAmount numerator e = .ok (included, fee)) :
    getExcludedFeeAmount numerator included = .ok (e, fee) := by
  obtain ⟨hrate, hincluded, hfit⟩ := getIncludedFeeAmount_included h
  have hfee : included - e = fee := by
    rw [getIncludedFeeAmount_spec h, Nat.add_sub_cancel_left]
  rw [getExcludedFeeAmount_eq hrate.le hfit]
  rw [hincluded] at hfee ⊢
  rw [mul_ceilDiv_mul_div (Nat.sub_pos_of_lt hrate) (Nat.sub_le _ _), hfee]

/-- What does not fit with its fee is left by no amount.
Source: `state/config.rs` `PoolFeesConfig::get_excluded_fee_amount`, `get_included_fee_amount` -/
theorem excluded_lt_of_not_fit {excluded fee : ℕ} {f : Fault} (hrate : numerator < FEE_DENOMINATOR)
    (he : e < 2 ^ 64) (hx : x < 2 ^ 64) (hincluded : getIncludedFeeAmount numerator e = .error f)
    (hexcluded : getExcludedFeeAmount numerator x = .ok (excluded, fee)) : excluded < e := by
  rw [getExcludedFeeAmount_eq hrate.le hx] at hexcluded
  cases hexcluded
  by_contra hle
  rw [not_lt, le_excluded_iff hrate] at hle
  rw [getIncludedFeeAmount_eq hrate he, safeCast_eq_ok.mpr ⟨hle.trans_lt hx, rfl⟩] at hincluded
  cases hincluded

/-- A fee is split, with and without a referral account, into parts that add up to it.
Source: `state/config.rs` `split_fees` -/
def SplitsWithoutLoss (fee : ℕ) : Prop :=
  ∀ hasReferral, ∃ trading protocol referral,
    splitFees fee hasReferral = .ok (trading, protocol, referral) ∧
      trading + protocol + referral = fee

/-- Every fee that fits its type is split without loss.
Source: `state/config.rs` `split_fees` -/
theorem splitsWithoutLoss {fee : ℕ} (hfee : fee < 2 ^ 64) : SplitsWithoutLoss fee := by
  intro hasReferral
  obtain ⟨⟨trading, protocol, referral⟩, hsplit⟩ := splitFees_isOk hfee hasReferral
  exact ⟨trading, protocol, referral, hsplit, (splitFees_spec hsplit).1⟩

/-- **Adding a fee on and taking it out are a Galois pair.** At every rate up to the highest, and
for every amount that fits with its fee: an amount leaves at least as much exactly when it is at
least that sum; the sum leaves exactly the amount it was made of; the fee of each call is the
difference, and is split without loss.
Source: `state/config.rs` `PoolFeesConfig::get_excluded_fee_amount`, `get_included_fee_amount`,
`split_fees`; `tests/test_inverse_fee.rs` `test_inverse_fee` -/
theorem feeInclusion_galois (hrate : numerator ≤ MAX_FEE_NUMERATOR) (hx : x < 2 ^ 64)
    (he : e < 2 ^ 64)
    (hfit : (e * FEE_DENOMINATOR) ⌈/⌉ (FEE_DENOMINATOR - numerator) < 2 ^ 64) :
    ∃ included includedFee excluded excludedFee,
      getIncludedFeeAmount numerator e = .ok (included, includedFee) ∧
      getExcludedFeeAmount numerator x = .ok (excluded, excludedFee) ∧
      (e ≤ excluded ↔ included ≤ x) ∧
      getExcludedFeeAmount numerator included = .ok (e, includedFee) ∧
      e ≤ included ∧ includedFee = included - e ∧ SplitsWithoutLoss includedFee ∧
      excluded ≤ x ∧ excludedFee = x - excluded ∧ SplitsWithoutLoss excludedFee := by
  have hrate' : numerator < FEE_DENOMINATOR := hrate.trans_lt MAX_FEE_NUMERATOR_lt
  have hincluded := getIncludedFeeAmount_eq hrate' he
  rw [safeCast_eq_ok.mpr ⟨hfit, rfl⟩, ok_bind] at hincluded
  have hexcluded := getExcludedFeeAmount_eq hrate'.le hx
  have hinverse := getExcludedFeeAmount_included hincluded
  have hle := (getIncludedFeeAmount_spec hincluded).ge.trans' (Nat.le_add_right _ _)
  have hle' := (getExcludedFeeAmount_spec hexcluded).le.trans' (Nat.le_add_right _ _)
  exact ⟨_, _, _, _, hincluded, hexcluded, le_excluded_iff hrate', hinverse, hle, rfl,
    splitsWithoutLoss ((Nat.sub_le _ _).trans_lt hfit), hle', rfl,
    splitsWithoutLoss ((Nat.sub_le _ _).trans_lt hx)⟩

/-- One percent on 990 tokens, and taken out of 1000. -/
theorem feeInclusion_galois_onePercent :
    ∃ included includedFee excluded excludedFee,
      getIncludedFeeAmount 10000000 990 = .ok (included, includedFee) ∧
      getExcludedFeeAmount 10000000 1000 = .ok (excluded, excludedFee) ∧
      (990 ≤ excluded ↔ included ≤ 1000) ∧
      getExcludedFeeAmount 10000000 included = .ok (990, includedFee) ∧
      990 ≤ included ∧ includedFee = included - 990 ∧ SplitsWithoutLoss includedFee ∧
      excluded ≤ 1000 ∧ excludedFee = 1000 - excluded ∧ SplitsWithoutLoss excludedFee :=
  feeInclusion_galois (by decide) (by decide) (by decide) (by decide)

end Galois

end DynamicBondingCurve
