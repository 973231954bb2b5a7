import DynamicBondingCurve.Math.SafeMath

/-!
# The integer square root is the square root

`sqrtU256` computes the root digit by digit. With the digits `root` found so far and the next one
of weight `digit`, it holds what `root * root` leaves of the radicand, and `root * (2 * digit)`.

* `sqrtU256Step_eq`: one pass takes the digit exactly when the square stays within the radicand.
* `sqrtU256Loop_eq`: the loop with `k` digits to go.
* `sqrtU256_eq`: **on every 256-bit radicand the result is the rounded-down root**, and no checked
  operation fails.
-/

namespace DynamicBondingCurve

/-- One pass decides one digit.
Source: `math/utils_math.rs` `sqrt_u256`, the body of the loop -/
theorem sqrtU256Step_eq {radicand root digit : ℕ} (hpos : 0 < digit)
    (hle : root * root ≤ radicand) (hwide : root + 2 * digit ≤ 2 ^ 128) :
    sqrtU256Step (radicand - root * root) (root * (2 * digit)) (digit * digit) =
      some (if (root + digit) * (root + digit) ≤ radicand then
        (radicand - (root + digit) * (root + digit), (root + digit) * digit)
      else (radicand - root * root, root * digit)) := by
  -- the trial is the difference of the two squares
  have htrial : root * (2 * digit) + digit * digit + root * root =
      (root + digit) * (root + digit) := by ring
  have hhalf : root * (2 * digit) / 2 = root * digit := by
    rw [Nat.mul_left_comm, Nat.mul_div_cancel_left _ two_pos]
  have heven : root * (2 * digit) % 2 = 0 := by
    rw [Nat.mul_left_comm, Nat.mul_mod_right]
  have hroot : (root + digit) * (root + digit) < 2 ^ 128 * 2 ^ 128 :=
    Nat.mul_self_lt_mul_self (by omega)
  have hfit : root * (2 * digit) + digit * digit < 2 ^ 256 := by
    have hsplit : (2 : ℕ) ^ 256 = 2 ^ 128 * 2 ^ 128 := by norm_num
    omega
  unfold sqrtU256Step
  rw [if_pos hfit, hhalf]
  by_cases htake : (root + digit) * (root + digit) ≤ radicand
  · have hnext : root * digit + digit * digit < 2 ^ 256 := by
      have hmono : root * digit ≤ root * (2 * digit) :=
        Nat.mul_le_mul_left root (by omega)
      omega
    have hrest : radicand - root * root - (root * (2 * digit) + digit * digit) =
        radicand - (root + digit) * (root + digit) := by omega
    have hsum : root * digit + digit * digit = (root + digit) * digit := (Nat.add_mul _ _ _).symm
    rw [if_pos (by omega), if_pos ⟨heven, hnext⟩, if_pos htake, hrest, hsum]
  · rw [if_neg (by omega), if_pos heven, if_neg htake]

/-- The loop from the digits found so far, `root`, with `k` digits to go.
Source: `math/utils_math.rs` `sqrt_u256`, the loop -/
theorem sqrtU256Loop_eq {radicand : ℕ} : ∀ {k fuel root : ℕ}, k < fuel →
    root * root ≤ radicand → radicand < (root + 2 ^ k) * (root + 2 ^ k) →
      root + 2 ^ k ≤ 2 ^ 128 →
        sqrtU256Loop fuel (radicand - root * root) (root * 2 ^ k) (4 ^ k / 4) =
          some radicand.sqrt
  | 0, fuel + 1, root, _, hle, hlt, _ => by
      have hroot : root = radicand.sqrt := Nat.eq_sqrt.mpr ⟨hle, by simpa using hlt⟩
      rw [← hroot]
      simp [sqrtU256Loop]
  | k + 1, fuel + 1, root, hfuel, hle, hlt, hwide => by
      have hweight : 2 ^ (k + 1) = 2 * 2 ^ k := by rw [pow_succ, Nat.mul_comm]
      have hsquare : 2 ^ k * 2 ^ k = 4 ^ k := (mul_pow 2 2 k).symm
      have hbit : 4 ^ (k + 1) / 4 = 2 ^ k * 2 ^ k := by
        rw [pow_succ, Nat.mul_div_cancel _ (by norm_num), hsquare]
      have hpos : 0 < 2 ^ k := Nat.two_pow_pos k
      rw [hweight] at hlt hwide
      rw [hbit, hweight, sqrtU256Loop, if_neg (Nat.mul_pos hpos hpos).ne',
        sqrtU256Step_eq hpos hle hwide]
      by_cases htake : (root + 2 ^ k) * (root + 2 ^ k) ≤ radicand
      · rw [if_pos htake]
        show sqrtU256Loop fuel _ _ (2 ^ k * 2 ^ k / 4) = _
        rw [hsquare]
        refine sqrtU256Loop_eq (by omega) htake ?_ (by omega)
        rwa [Nat.add_assoc, ← Nat.two_mul]
      · rw [if_neg htake]
        show sqrtU256Loop fuel _ _ (2 ^ k * 2 ^ k / 4) = _
        rw [hsquare]
        exact sqrtU256Loop_eq (by omega) hle (not_le.mp htake) (by omega)

/-- **The digit-by-digit root is the square root, rounded down.**
Source: `math/utils_math.rs` `sqrt_u256` -/
theorem sqrtU256_eq {radicand : ℕ} (h : radicand < 2 ^ 256) :
    sqrtU256 radicand = some radicand.sqrt := by
  unfold sqrtU256
  by_cases hzero : radicand = 0
  · rw [if_pos hzero, hzero, Nat.sqrt_zero]
  · rw [if_neg hzero]
    have hsize : radicand.size ≤ 256 := Nat.size_le.mpr h
    have hsizePos : 0 < radicand.size := Nat.size_pos.mpr (Nat.pos_of_ne_zero hzero)
    obtain ⟨k, hk⟩ : ∃ k, k = (256 - 1 - leadingZeros256 radicand) / 2 := ⟨_, rfl⟩
    have hlead : leadingZeros256 radicand = 256 - radicand.size := rfl
    have hbit : 2 ^ ((256 - 1 - leadingZeros256 radicand) / 2 * 2) = 4 ^ (k + 1) / 4 := by
      rw [← hk, pow_succ, Nat.mul_div_cancel _ (by norm_num), Nat.mul_comm, pow_mul]
      norm_num
    have hdigits : radicand < (0 + 2 ^ (k + 1)) * (0 + 2 ^ (k + 1)) := by
      rw [Nat.zero_add, ← pow_add]
      exact (Nat.lt_size_self radicand).trans_le (Nat.pow_le_pow_right two_pos (by omega))
    have hwide : 0 + 2 ^ (k + 1) ≤ 2 ^ 128 := by
      rw [Nat.zero_add]
      exact Nat.pow_le_pow_right two_pos (by omega)
    have hloop : sqrtU256Loop 129 (radicand - 0 * 0) (0 * 2 ^ (k + 1)) (4 ^ (k + 1) / 4) =
        some radicand.sqrt :=
      sqrtU256Loop_eq (by omega) (Nat.zero_le _) hdigits hwide
    rw [Nat.zero_mul, Nat.zero_mul, Nat.sub_zero] at hloop
    show sqrtU256Loop 129 radicand 0 (2 ^ ((256 - 1 - leadingZeros256 radicand) / 2 * 2)) = _
    rw [hbit]
    exact hloop

/-- **The root of every 256-bit radicand is found, and it is exact.** The loop ends, none of its
checked additions, subtractions and shifts fails, and the result is the largest integer whose
square stays within the radicand.
Source: `math/utils_math.rs` `sqrt_u256` -/
theorem sqrtU256_exact {n : ℕ} (h : n < 2 ^ 256) :
    ∃ r, sqrtU256 n = some r ∧ r * r ≤ n ∧ n < (r + 1) * (r + 1) :=
  ⟨n.sqrt, sqrtU256_eq h, Nat.sqrt_le n, Nat.lt_succ_sqrt n⟩

/-- The largest radicand. -/
theorem sqrtU256_exact_max :
    ∃ r, sqrtU256 (2 ^ 256 - 1) = some r ∧ r * r ≤ 2 ^ 256 - 1 ∧
      2 ^ 256 - 1 < (r + 1) * (r + 1) :=
  sqrtU256_exact (by norm_num)

end DynamicBondingCurve
