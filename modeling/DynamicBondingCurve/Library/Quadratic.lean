import Mathlib

/-!
# The smaller root of a quadratic, with an integer square root

A program solves `i * v ^ 2 - y * v + z = 0` for naturals by the formula, with the square root and
the quotient rounded down. The root it finds need not be one; what it is good for is how the value
`y * v - i * v ^ 2` compares with `z` at it and around it.

* `four_mul_le_of_value`: a point whose value reaches `z` shows that the radicand is not negative.
* `value_smallerRoot_lt`: **the value at the root found is hardly more than `z`**.
* `smallerRoot_lt`: it lies below every point whose value clearly exceeds `z`.
* `value_of_smallerRoot_lt`: **after it the value reaches `z`**, up to any point whose value does.
-/

namespace Library

/-- The smaller root, by the formula. -/
def smallerRoot (i y z : ℕ) : ℕ := (y - Nat.sqrt (y * y - 4 * i * z)) / (2 * i)

variable {i y z v b w : ℕ}

/-- Where a value is reached, the discriminant is not negative. -/
theorem four_mul_le_of_value (h : i * v * v + z ≤ y * v) : 4 * i * z ≤ y * y := by
  have hi : (0 : ℤ) ≤ i := Int.natCast_nonneg i
  have hsquare := sq_nonneg ((y : ℤ) - 2 * i * v)
  have hscaled := mul_le_mul_of_nonneg_left (Int.ofNat_le.mpr h) (mul_nonneg zero_le_four hi)
  push_cast at hscaled
  zify
  linarith

/-- The root of the radicand, rounded down, is between `y` and the root found. -/
theorem smallerRoot_bounds (hi : 0 < i) :
    2 * i * smallerRoot i y z + Nat.sqrt (y * y - 4 * i * z) ≤ y ∧
      y < 2 * i * (smallerRoot i y z + 1) + Nat.sqrt (y * y - 4 * i * z) := by
  have hle : Nat.sqrt (y * y - 4 * i * z) ≤ y := by
    calc Nat.sqrt (y * y - 4 * i * z) ≤ Nat.sqrt (y * y) := Nat.sqrt_le_sqrt (Nat.sub_le _ _)
      _ = y := Nat.sqrt_eq y
  unfold smallerRoot
  generalize Nat.sqrt (y * y - 4 * i * z) = s at hle ⊢
  have hlow := Nat.mul_div_le (y - s) (2 * i)
  have hhigh := Nat.lt_mul_div_succ (y - s) (by omega : 0 < 2 * i)
  omega

/-- What completing the square says. -/
theorem value_add_square {u : ℕ} (hu : y = 2 * i * v + u) :
    4 * i * (y * v) + u * u = y * y + 4 * i * (i * v * v) := by
  subst hu
  ring

/-- **The value at the root found is hardly more than `z`.** -/
theorem value_smallerRoot_lt (hi : 0 < i) (hradicand : 4 * i * z ≤ y * y) (hw : y < 2 * i * w) :
    y * smallerRoot i y z < i * smallerRoot i y z * smallerRoot i y z + z + w := by
  obtain ⟨hlow, _⟩ := smallerRoot_bounds (y := y) (z := z) hi
  have hsqrt := Nat.sqrt_le_add (y * y - 4 * i * z)
  generalize Nat.sqrt (y * y - 4 * i * z) = s at hlow hsqrt
  generalize smallerRoot i y z = root at hlow ⊢
  obtain ⟨u, hu⟩ := Nat.exists_eq_add_of_le (le_of_add_le_left hlow)
  have hsu : s ≤ u := by omega
  have hsquare := value_add_square hu
  have hle : s * s ≤ u * u := Nat.mul_self_le_mul_self hsu
  have hscaled : 4 * i * (y * root) < 4 * i * (i * root * root + z + w) := by
    have hsy : s ≤ y := by omega
    calc 4 * i * (y * root) ≤ 4 * i * (i * root * root) + 4 * i * z + 2 * s := by omega
      _ < 4 * i * (i * root * root) + 4 * i * z + 2 * (2 * i * w) := by omega
      _ = 4 * i * (i * root * root + z + w) := by ring
  exact Nat.lt_of_mul_lt_mul_left hscaled

/-- Up to the vertex the value ascends. -/
theorem value_mono_of_le (hbv : b ≤ v) (hv : 2 * i * v ≤ y) :
    y * b + i * v * v ≤ y * v + i * b * b := by
  obtain ⟨d, rfl⟩ := Nat.exists_eq_add_of_le hbv
  have hslope : i * (2 * b + d) ≤ y := by
    calc i * (2 * b + d) ≤ i * (2 * (b + d)) := Nat.mul_le_mul_left i (by omega)
      _ = 2 * i * (b + d) := by ring
      _ ≤ y := hv
  calc y * b + i * (b + d) * (b + d) = y * b + i * b * b + i * (2 * b + d) * d := by ring
    _ ≤ y * b + i * b * b + y * d := Nat.add_le_add_left (Nat.mul_le_mul_right d hslope) _
    _ = y * (b + d) + i * b * b := by ring

/-- Past the vertex the value descends. -/
theorem value_anti_of_ge (hbv : b ≤ v) (hb : y ≤ 2 * i * b) :
    y * v + i * b * b ≤ y * b + i * v * v := by
  obtain ⟨d, rfl⟩ := Nat.exists_eq_add_of_le hbv
  have hslope : y ≤ i * (2 * b + d) := by
    calc y ≤ i * (2 * b) := hb.trans_eq (by ring)
      _ ≤ i * (2 * b + d) := Nat.mul_le_mul_left i (by omega)
  calc y * (b + d) + i * b * b = y * b + i * b * b + y * d := by ring
    _ ≤ y * b + i * b * b + i * (2 * b + d) * d :=
        Nat.add_le_add_left (Nat.mul_le_mul_right d hslope) _
    _ = y * b + i * (b + d) * (b + d) := by ring

/-- **The root found lies below every point whose value clearly exceeds `z`.** -/
theorem smallerRoot_lt (hi : 0 < i) (hw : y < 2 * i * w) (hv : i * v * v + z + w ≤ y * v) :
    smallerRoot i y z < v := by
  by_contra hge
  have hradicand : 4 * i * z ≤ y * y := four_mul_le_of_value (by omega : i * v * v + z ≤ y * v)
  have hroot := value_smallerRoot_lt hi hradicand hw
  obtain ⟨hlow, _⟩ := smallerRoot_bounds (y := y) (z := z) hi
  have hmono := value_mono_of_le (not_lt.mp hge) (le_of_add_le_left hlow)
  omega

/-- **After the root found the value reaches `z`**, up to any point whose value does. -/
theorem value_of_smallerRoot_lt (hi : 0 < i) (hb : smallerRoot i y z < b) (hbv : b ≤ v)
    (hv : i * v * v + z ≤ y * v) : i * b * b + z ≤ y * b := by
  by_cases hvertex : 2 * i * b ≤ y
  · -- before the vertex: `b` is nearer to it than the root of the radicand
    obtain ⟨_, hhigh⟩ := smallerRoot_bounds (y := y) (z := z) hi
    have hradicand := four_mul_le_of_value hv
    have hsqrt := Nat.sqrt_le (y * y - 4 * i * z)
    have hnext : 2 * i * (smallerRoot i y z + 1) ≤ 2 * i * b := Nat.mul_le_mul_left _ hb
    generalize Nat.sqrt (y * y - 4 * i * z) = s at hhigh hsqrt
    obtain ⟨u, hu⟩ := Nat.exists_eq_add_of_le hvertex
    have hus : u ≤ s := by omega
    have hsquare := value_add_square hu
    have hle : u * u ≤ s * s := Nat.mul_self_le_mul_self hus
    have hscaled : 4 * i * (i * b * b + z) ≤ 4 * i * (y * b) := by
      rw [Nat.mul_add]
      omega
    exact Nat.le_of_mul_le_mul_left hscaled (by omega)
  · have hanti := value_anti_of_ge hbv (not_le.mp hvertex).le
    omega

end Library
