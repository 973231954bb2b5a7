import Mathlib

/-!
# Powers in truncated fixed-point arithmetic

A number between zero and one is kept as a natural below a scale `S`; a product is divided by the
scale again and truncated. A power is taken by squaring: the squares of the base, one for each bit,
are multiplied in where the bit of the exponent is set.

* `Approx`: a natural that is at most a scaled number and short of it by at most `e`.
* `Approx.mul`: **the errors of the factors add up, and the truncation costs one.**
* `powTrunc_approx`: the truncated power is short by at most the exponent.
* `powTrunc_le_of_lt`: above a threshold the truncated powers decrease.
* `powTrunc_pos`: **a power that does not vanish is preceded by powers that do not vanish.**
-/

namespace Library

/-- The product of two fixed-point numbers, truncated. -/
def truncMul (S a b : ℕ) : ℕ := a * b / S

/-- The base squared `k` times over. -/
def squares (S base : ℕ) : ℕ → ℕ
  | 0 => base
  | k + 1 => truncMul S (squares S base k) (squares S base k)

/-- The power by the lowest `k` bits of the exponent. -/
def powTrunc (S base : ℕ) : ℕ → ℕ → ℕ
  | 0, _ => S
  | k + 1, n =>
      if n.testBit k then truncMul S (powTrunc S base k n) (squares S base k)
      else powTrunc S base k n

/-- The natural `a` is at most `S` times `x` and short of it by at most `e`. -/
structure Approx (S : ℕ) (e x : ℚ) (a : ℕ) : Prop where
  lower : S * x ≤ a + e
  upper : a ≤ S * x

section Product

variable {S a b : ℕ} {e f x y : ℚ}

/-- **The errors of the factors add up, and the truncation costs one.** -/
theorem Approx.mul (hS : 0 < S) (hx : 0 ≤ x) (hx' : x ≤ 1) (hy : 0 ≤ y) (hy' : y ≤ 1)
    (ha : Approx S e x a) (hb : Approx S f y b) :
    Approx S (e + f + 1) (x * y) (truncMul S a b) := by
  have hpos : (0 : ℚ) < S := by exact_mod_cast hS
  have hfloor : (a * b : ℚ) ≤ S * (truncMul S a b : ℕ) + S := by
    have h := (Nat.lt_mul_div_succ (a * b) hS).le
    rw [Nat.mul_succ] at h
    exact_mod_cast h
  have hfloor' : (S * (truncMul S a b : ℕ) : ℚ) ≤ a * b := by
    exact_mod_cast Nat.mul_div_le (a * b) S
  have ha0 : (0 : ℚ) ≤ a := Nat.cast_nonneg a
  constructor
  · -- the shortfall of the product, factor by factor
    have hleft : y * (S * x) ≤ y * a + e := by
      have hshort : 0 ≤ a + e - S * x := by linarith [ha.lower]
      have he : 0 ≤ e := by linarith [ha.lower, ha.upper]
      nlinarith [mul_nonneg hy (sub_nonneg.mpr ha.upper), ha.lower]
    have hright : a * (S * y) ≤ a * b + S * f := by
      have hf : 0 ≤ f := by linarith [hb.lower, hb.upper]
      have haS : (a : ℚ) ≤ S := ha.upper.trans (mul_le_of_le_one_right hpos.le hx')
      nlinarith [mul_le_mul_of_nonneg_left hb.lower ha0]
    have hscaled : S * (S * (x * y)) ≤ S * ((truncMul S a b : ℕ) + (e + f + 1)) := by
      have hmul := mul_le_mul_of_nonneg_left hleft hpos.le
      nlinarith
    exact le_of_mul_le_mul_left hscaled hpos
  · have hprod : (a * b : ℚ) ≤ S * x * (S * y) :=
      mul_le_mul ha.upper hb.upper (Nat.cast_nonneg b) (mul_nonneg hpos.le hx)
    have hscaled : S * (truncMul S a b : ℕ) ≤ S * (S * (x * y)) := by linarith
    exact le_of_mul_le_mul_left hscaled hpos

end Product

section Powers

variable {S base k m n : ℕ}

/-- The bits above an exponent change nothing. -/
theorem powTrunc_of_lt (h : n < 2 ^ k) : powTrunc S base (k + 1) n = powTrunc S base k n := by
  rw [powTrunc, Nat.testBit_eq_false_of_lt h]
  rfl

/-- The lowest bits do not see a higher one. -/
theorem powTrunc_two_pow_add {j : ℕ} (h : k ≤ j) :
    powTrunc S base k (2 ^ j + n) = powTrunc S base k n := by
  induction k with
  | zero => rfl
  | succ k ih =>
    rw [powTrunc, powTrunc, ih (Nat.le_of_succ_le h), Nat.testBit_two_pow_add_gt h]

/-- The highest bit multiplies its square in. -/
theorem powTrunc_succ_two_pow_add (h : n < 2 ^ k) :
    powTrunc S base (k + 1) (2 ^ k + n) =
      truncMul S (powTrunc S base k n) (squares S base k) := by
  rw [powTrunc, Nat.testBit_two_pow_add_eq, Nat.testBit_eq_false_of_lt h,
    powTrunc_two_pow_add le_rfl]
  rfl

/-- Nothing is multiplied in for an exponent of zero. -/
theorem powTrunc_zero (S base k : ℕ) : powTrunc S base k 0 = S := by
  induction k with
  | zero => rfl
  | succ k ih => rw [powTrunc_of_lt (Nat.two_pow_pos k), ih]

/-- As many bits as the exponent has are enough. -/
theorem powTrunc_eq_of_lt {j : ℕ} (hn : n < 2 ^ k) (h : k ≤ j) :
    powTrunc S base j n = powTrunc S base k n := by
  induction j, h using Nat.le_induction with
  | base => rfl
  | succ j hj ih => rw [powTrunc_of_lt (hn.trans_le (Nat.pow_le_pow_right two_pos hj)), ih]

variable (hS : 0 < S) (hbase : base ≤ S)

include hS hbase

/-- The truncated squares of a base up to one do not grow. -/
theorem squares_le (k : ℕ) : squares S base k ≤ base := by
  induction k with
  | zero => exact le_rfl
  | succ k ih =>
    calc squares S base k * squares S base k / S
        ≤ squares S base k * S / S := Nat.div_le_div_right (Nat.mul_le_mul_left _ (ih.trans hbase))
      _ = squares S base k := Nat.mul_div_cancel _ hS
      _ ≤ base := ih

/-- The truncated power of a base up to one is at most one. -/
theorem powTrunc_le (k n : ℕ) : powTrunc S base k n ≤ S := by
  induction k with
  | zero => exact le_rfl
  | succ k ih =>
    rw [powTrunc]
    split_ifs
    · calc powTrunc S base k n * squares S base k / S
          ≤ powTrunc S base k n * S / S :=
            Nat.div_le_div_right (Nat.mul_le_mul_left _ ((squares_le hS hbase k).trans hbase))
        _ = powTrunc S base k n := Nat.mul_div_cancel _ hS
        _ ≤ S := ih
    · exact ih

/-- The base, as a fraction of one, lies between zero and one. -/
theorem ratio_mem : (0 : ℚ) ≤ (base : ℚ) / S ∧ (base : ℚ) / S ≤ 1 := by
  have hpos : (0 : ℚ) < S := by exact_mod_cast hS
  refine ⟨div_nonneg (Nat.cast_nonneg _) hpos.le, ?_⟩
  rw [div_le_one hpos]
  exact_mod_cast hbase

/-- So do its powers. -/
theorem pow_ratio_mem (n : ℕ) : (0 : ℚ) ≤ ((base : ℚ) / S) ^ n ∧ ((base : ℚ) / S) ^ n ≤ 1 := by
  obtain ⟨h0, h1⟩ := ratio_mem hS hbase
  exact ⟨pow_nonneg h0 n, pow_le_one₀ h0 h1⟩

/-- The squares are short by less than their exponent. -/
theorem squares_approx (k : ℕ) :
    Approx S (2 ^ k - 1) (((base : ℚ) / S) ^ 2 ^ k) (squares S base k) := by
  have hpos : (S : ℚ) ≠ 0 := by exact_mod_cast hS.ne'
  induction k with
  | zero =>
    simp only [pow_zero, pow_one, sub_self, squares]
    have heq : (S : ℚ) * (base / S) = base := mul_div_cancel₀ _ hpos
    exact ⟨by rw [heq, add_zero], heq.ge⟩
  | succ k ih =>
    obtain ⟨h0, h1⟩ := pow_ratio_mem hS hbase (2 ^ k)
    have h := ih.mul hS h0 h1 h0 h1 ih
    have hexp : ((base : ℚ) / S) ^ 2 ^ (k + 1) =
        ((base : ℚ) / S) ^ 2 ^ k * ((base : ℚ) / S) ^ 2 ^ k := by
      rw [← pow_add, pow_succ, mul_two]
    have herror : (2 : ℚ) ^ (k + 1) - 1 = 2 ^ k - 1 + (2 ^ k - 1) + 1 := by ring
    rw [hexp, herror]
    exact h

/-- **The truncated power is short by at most the exponent.** -/
theorem powTrunc_approx : ∀ {k n : ℕ}, n < 2 ^ k →
    Approx S n (((base : ℚ) / S) ^ n) (powTrunc S base k n)
  | 0, n, h => by
      have hn : n = 0 := Nat.lt_one_iff.mp h
      subst hn
      rw [pow_zero, Nat.cast_zero]
      exact ⟨by rw [mul_one, add_zero]; exact le_rfl, (mul_one _).ge⟩
  | k + 1, n, h => by
      by_cases hlow : n < 2 ^ k
      · rw [powTrunc_of_lt hlow]
        exact powTrunc_approx hlow
      · -- the highest bit is set
        obtain ⟨rest, rfl⟩ := Nat.exists_eq_add_of_le (not_lt.mp hlow)
        have hrest : rest < 2 ^ k := by
          rw [pow_succ] at h
          omega
        rw [powTrunc_succ_two_pow_add hrest]
        obtain ⟨h0, h1⟩ := pow_ratio_mem hS hbase rest
        obtain ⟨h0', h1'⟩ := pow_ratio_mem hS hbase (2 ^ k)
        have hmul := (powTrunc_approx hrest).mul hS h0 h1 h0' h1' (squares_approx hS hbase k)
        have herror : (((2 ^ k + rest : ℕ)) : ℚ) = rest + (2 ^ k - 1) + 1 := by
          push_cast
          ring
        rw [herror, pow_add, mul_comm (((base : ℚ) / S) ^ 2 ^ k)]
        exact hmul

end Powers

/-! ## Powers above a threshold

The base falls short of the scale by one part in `d + 1`. Once a power exceeds `d` times the
error, one power less outweighs the error. -/

section Gap

variable {S base d w j k m n a : ℕ}

/-- A base that has a gap to one is below it. -/
theorem base_le_of_gap (hgap : base * (d + 1) ≤ S * d) : base ≤ S := by
  have h : base * (d + 1) ≤ S * (d + 1) := hgap.trans (Nat.mul_le_mul_left S (Nat.le_succ d))
  exact Nat.le_of_mul_le_mul_right h (Nat.succ_pos d)

/-- A product that does not vanish below a threshold has a factor above it. -/
theorem le_of_mul_lt {t b : ℕ} (hroom : t * t ≤ S) (hprod : S ≤ a * b) (ha : a < t) : t ≤ b := by
  have ht : 0 < t := (Nat.zero_le a).trans_lt ha
  have h : t * t ≤ t * b := hroom.trans (hprod.trans (Nat.mul_le_mul_right b ha.le))
  exact Nat.le_of_mul_le_mul_left h ht

variable (hS : 0 < S) (hgap : base * (d + 1) ≤ S * d)

include hS hgap

/-- A value above the threshold that is at most a power is at most every truncated power before
it. -/
theorem le_powTrunc_of_lt (hd : 0 < d) (ha : (a : ℚ) ≤ S * ((base : ℚ) / S) ^ m)
    (hlarge : d * 2 ^ w ≤ a) (hnm : n < m) (hn : n < 2 ^ k) (hw : n ≤ 2 ^ w) :
    a ≤ powTrunc S base k n := by
  have hbase := base_le_of_gap hgap
  have hpos : (0 : ℚ) < S := by exact_mod_cast hS
  have hdpos : (0 : ℚ) < d := by exact_mod_cast hd
  obtain ⟨h0, h1⟩ := ratio_mem hS hbase
  have hratio : ((base : ℚ) / S) * (d + 1) ≤ d := by
    rw [div_mul_eq_mul_div, div_le_iff₀ hpos, mul_comm (d : ℚ)]
    exact_mod_cast hgap
  -- one power less is larger by one part in `d`
  have hstep : ((base : ℚ) / S) ^ m * (d + 1) ≤ ((base : ℚ) / S) ^ n * d := by
    calc ((base : ℚ) / S) ^ m * (d + 1)
        ≤ ((base : ℚ) / S) ^ (n + 1) * (d + 1) := by
          apply mul_le_mul_of_nonneg_right _ (by positivity)
          exact pow_le_pow_of_le_one h0 h1 hnm
      _ = ((base : ℚ) / S) ^ n * ((base : ℚ) / S * (d + 1)) := by ring
      _ ≤ ((base : ℚ) / S) ^ n * d :=
          mul_le_mul_of_nonneg_left hratio (pow_nonneg h0 n)
  have hlower := (powTrunc_approx hS hbase hn).lower
  have herror : (n : ℚ) ≤ 2 ^ w := by exact_mod_cast hw
  have hlarge' : (d : ℚ) * 2 ^ w ≤ a := by exact_mod_cast hlarge
  have hscaled : (a : ℚ) * (d + 1) ≤ S * ((base : ℚ) / S) ^ n * d := by
    calc (a : ℚ) * (d + 1) ≤ S * ((base : ℚ) / S) ^ m * (d + 1) :=
          mul_le_mul_of_nonneg_right ha (by positivity)
      _ = S * (((base : ℚ) / S) ^ m * (d + 1)) := by ring
      _ ≤ S * (((base : ℚ) / S) ^ n * d) := mul_le_mul_of_nonneg_left hstep hpos.le
      _ = S * ((base : ℚ) / S) ^ n * d := by ring
  have hle : (d : ℚ) * a ≤ d * (powTrunc S base k n : ℕ) := by
    have hmul := mul_le_mul_of_nonneg_right hlower hdpos.le
    have herror' := mul_le_mul_of_nonneg_left herror hdpos.le
    linarith
  exact_mod_cast le_of_mul_le_mul_left hle hdpos

/-- **Above the threshold the truncated powers decrease.** -/
theorem powTrunc_le_of_lt (hd : 0 < d) (hm : m < 2 ^ k) (hlarge : d * 2 ^ w ≤ powTrunc S base k m)
    (hnm : n < m) (hw : n ≤ 2 ^ w) : powTrunc S base k m ≤ powTrunc S base k n :=
  le_powTrunc_of_lt hS hgap hd (powTrunc_approx hS (base_le_of_gap hgap) hm).upper hlarge hnm
    (hnm.trans hm) hw

/-- A square above the threshold is at most every truncated power before it. -/
theorem squares_le_powTrunc (hd : 0 < d) (hlarge : d * 2 ^ w ≤ squares S base j) (hn : n < 2 ^ j)
    (hj : j ≤ w) : squares S base j ≤ powTrunc S base j n :=
  le_powTrunc_of_lt hS hgap hd (squares_approx hS (base_le_of_gap hgap) j).upper hlarge hn hn
    (hn.le.trans (Nat.pow_le_pow_right two_pos hj))

/-- When a square does not vanish, no power below it vanishes. -/
theorem powTrunc_pos_of_squares (hd : 0 < d) (hroom : d * 2 ^ w * (d * 2 ^ w) ≤ S) (hk : k ≤ w)
    (hsquare : 0 < squares S base k) (hn : n < 2 ^ k) : 0 < powTrunc S base k n := by
  cases k with
  | zero => exact hS
  | succ j =>
    -- the square before it is above the threshold
    have hprod : S ≤ squares S base j * squares S base j := (Nat.div_pos_iff.mp hsquare).2
    have hlarge : d * 2 ^ w ≤ squares S base j := by
      apply le_of_not_gt
      intro hcon
      exact absurd (le_of_mul_lt hroom hprod hcon) (not_le.mpr hcon)
    have hpos : 0 < squares S base j := by
      have : 0 < d * 2 ^ w := Nat.mul_pos hd (Nat.two_pow_pos w)
      omega
    have hj : j ≤ w := (Nat.le_succ j).trans hk
    by_cases hlow : n < 2 ^ j
    · rw [powTrunc_of_lt hlow]
      exact hpos.trans_le (squares_le_powTrunc hS hgap hd hlarge hlow hj)
    · obtain ⟨rest, rfl⟩ := Nat.exists_eq_add_of_le (not_lt.mp hlow)
      have hrest : rest < 2 ^ j := by
        rw [pow_succ] at hn
        omega
      rw [powTrunc_succ_two_pow_add hrest]
      apply Nat.div_pos _ hS
      exact hprod.trans (Nat.mul_le_mul_right _ (squares_le_powTrunc hS hgap hd hlarge hrest hj))

/-- **A truncated power that does not vanish is preceded by powers that do not vanish.** -/
theorem powTrunc_pos (hd : 0 < d) (hroom : d * 2 ^ w * (d * 2 ^ w) ≤ S) :
    ∀ {k n m : ℕ}, k ≤ w + 1 → n ≤ m → m < 2 ^ k → 0 < powTrunc S base k m →
      0 < powTrunc S base k n
  | 0, _, _, _, _, _, _ => hS
  | k + 1, n, m, hk, hnm, hm, hpos => by
      have hkw : k ≤ w := Nat.le_of_succ_le_succ hk
      by_cases hlow : m < 2 ^ k
      · rw [powTrunc_of_lt hlow] at hpos
        rw [powTrunc_of_lt (hnm.trans_lt hlow)]
        exact powTrunc_pos hd hroom (Nat.le_of_succ_le hk) hnm hlow hpos
      · obtain ⟨rest, rfl⟩ := Nat.exists_eq_add_of_le (not_lt.mp hlow)
        have hrest : rest < 2 ^ k := by
          rw [pow_succ] at hm
          omega
        rw [powTrunc_succ_two_pow_add hrest] at hpos
        have hprod : S ≤ powTrunc S base k rest * squares S base k := (Nat.div_pos_iff.mp hpos).2
        have hsquare : 0 < squares S base k := by
          apply Nat.pos_of_ne_zero
          intro hzero
          rw [hzero, Nat.mul_zero] at hprod
          omega
        by_cases hn : n < 2 ^ k
        · rw [powTrunc_of_lt hn]
          exact powTrunc_pos_of_squares hS hgap hd hroom hkw hsquare hn
        · obtain ⟨part, rfl⟩ := Nat.exists_eq_add_of_le (not_lt.mp hn)
          rw [powTrunc_succ_two_pow_add (by omega)]
          apply Nat.div_pos _ hS
          rcases (Nat.le_of_add_le_add_left hnm).eq_or_lt with rfl | hlt
          · exact hprod
          · -- one of the factors is above the threshold, and with it the power
            have hlarge : d * 2 ^ w ≤ powTrunc S base k rest := by
              apply le_of_not_gt
              intro hcon
              have hfactor := le_of_mul_lt hroom hprod hcon
              have hle := squares_le_powTrunc hS hgap hd hfactor hrest hkw
              exact absurd (hfactor.trans hle) (not_le.mpr hcon)
            have hw : part ≤ 2 ^ w :=
              (hlt.trans hrest).le.trans (Nat.pow_le_pow_right two_pos hkw)
            exact hprod.trans (Nat.mul_le_mul_right _
              (powTrunc_le_of_lt hS hgap hd hrest hlarge hlt hw))

end Gap

end Library
