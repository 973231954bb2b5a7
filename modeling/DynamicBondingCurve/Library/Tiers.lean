import Mathlib

/-!
# Charges by tiers

A charge by tiers charges the first `size` units at `rate 0` each, the next `size` units at
`rate 1`, and so on. `tiered rate size x` is what `x` units are charged.

* `tiered_add_eq`, `tiered_add_le`, `le_tiered_add`: what further units are charged when their rates
  are known, or bounded.
* `tiered_mul_add`: **the closed form** over whole tiers and a part of one.
* `tiered_mul_le`: when the rates ascend, so does the average charge.
* `two_mul_tiered`: tiers whose rates ascend by the same step charge a quadratic, exactly where a
  tier ends and more inside a tier.
-/

namespace Library

/-- What `x` units are charged. -/
def tiered (rate : ℕ → ℕ) (size x : ℕ) : ℕ := ∑ u ∈ Finset.range x, rate (u / size)

variable {rate : ℕ → ℕ} {size x y n b k r : ℕ}

/-- Nothing is charged nothing. -/
@[simp] theorem tiered_zero : tiered rate size 0 = 0 := Finset.sum_range_zero _

/-- One unit more is charged at the rate of its tier. -/
theorem tiered_succ : tiered rate size (x + 1) = tiered rate size x + rate (x / size) :=
  Finset.sum_range_succ _ _

/-! ## Further units -/

/-- Units whose rates are bounded above are charged at most the bound each. -/
theorem tiered_add_le (h : ∀ u < n, rate ((x + u) / size) ≤ r) :
    tiered rate size (x + n) ≤ tiered rate size x + n * r := by
  induction n with
  | zero => simp
  | succ n ih =>
    have hlast := h n (Nat.lt_succ_self n)
    have hrest := ih fun u hu => h u (Nat.lt_succ_of_lt hu)
    rw [← Nat.add_assoc, tiered_succ, Nat.succ_mul]
    omega

/-- Units whose rates are bounded below are charged at least the bound each. -/
theorem le_tiered_add (h : ∀ u < n, r ≤ rate ((x + u) / size)) :
    tiered rate size x + n * r ≤ tiered rate size (x + n) := by
  induction n with
  | zero => simp
  | succ n ih =>
    have hlast := h n (Nat.lt_succ_self n)
    have hrest := ih fun u hu => h u (Nat.lt_succ_of_lt hu)
    rw [← Nat.add_assoc, tiered_succ, Nat.succ_mul]
    omega

/-- Units at one rate are charged that rate each. -/
theorem tiered_add_eq (h : ∀ u < n, rate ((x + u) / size) = r) :
    tiered rate size (x + n) = tiered rate size x + n * r := by
  apply le_antisymm
  · exact tiered_add_le fun u hu => (h u hu).le
  · exact le_tiered_add fun u hu => (h u hu).ge

/-- A bound on the rates bounds the charge. -/
theorem tiered_le_mul (h : ∀ k, rate k ≤ r) : tiered rate size x ≤ x * r := by
  have hle : tiered rate size (0 + x) ≤ tiered rate size 0 + x * r :=
    tiered_add_le fun u _ => h ((0 + u) / size)
  simpa using hle

/-- An amount is charged at least the lowest rate. -/
theorem mul_le_tiered (h : ∀ k, r ≤ rate k) : x * r ≤ tiered rate size x := by
  have hle : tiered rate size 0 + x * r ≤ tiered rate size (0 + x) :=
    le_tiered_add fun u _ => h ((0 + u) / size)
  simpa using hle

/-! ## Closed forms -/

/-- Units of a tier. -/
theorem mul_add_div_of_lt {u : ℕ} (hu : u < size) : (k * size + u) / size = k := by
  rw [Nat.mul_comm, Nat.mul_add_div (by omega), Nat.div_eq_of_lt hu, Nat.add_zero]

/-- Whole tiers are charged their rates. -/
theorem tiered_mul : tiered rate size (k * size) = size * ∑ j ∈ Finset.range k, rate j := by
  induction k with
  | zero => simp
  | succ k ih =>
    rw [Nat.succ_mul, tiered_add_eq fun u hu => congrArg rate (mul_add_div_of_lt hu), ih,
      Finset.sum_range_succ, Nat.mul_add]

/-- **Whole tiers and a part of one.** -/
theorem tiered_mul_add (hb : b ≤ size) : tiered rate size (k * size + b) =
    size * ∑ j ∈ Finset.range k, rate j + b * rate k := by
  rw [tiered_add_eq fun u hu => congrArg rate (mul_add_div_of_lt (hu.trans_le hb)), tiered_mul]

/-- Inside its tier a charge goes on at the rate of the tier. -/
theorem tiered_add_of_tier (h : x + n ≤ (x / size + 1) * size) :
    tiered rate size (x + n) = tiered rate size x + n * rate (x / size) := by
  apply tiered_add_eq
  intro u hu
  have hlow := Nat.div_mul_le_self x size
  have hdiv : (x + u) / size = x / size := by
    apply Nat.div_eq_of_lt_le
    · exact hlow.trans (Nat.le_add_right _ _)
    · omega
  rw [hdiv]

/-- **When the rates ascend, so does the average charge.** -/
theorem tiered_mul_le (hrate : Monotone rate) (h : x ≤ y) :
    tiered rate size x * y ≤ tiered rate size y * x := by
  obtain ⟨n, rfl⟩ := Nat.exists_eq_add_of_le h
  -- the units below `x` are charged at most the rate at `x`, those above at least that rate
  have hbelow : tiered rate size x ≤ x * rate (x / size) := by
    have hle : tiered rate size (0 + x) ≤ tiered rate size 0 + x * rate (x / size) :=
      tiered_add_le fun u hu => hrate (Nat.div_le_div_right (by omega : 0 + u ≤ x))
    simpa using hle
  have habove : tiered rate size x + n * rate (x / size) ≤ tiered rate size (x + n) :=
    le_tiered_add fun u _ => hrate (Nat.div_le_div_right (Nat.le_add_right x u))
  calc tiered rate size x * (x + n) = tiered rate size x * x + n * tiered rate size x := by ring
    _ ≤ tiered rate size x * x + n * (x * rate (x / size)) := by gcongr
    _ = (tiered rate size x + n * rate (x / size)) * x := by ring
    _ ≤ tiered rate size (x + n) * x := Nat.mul_le_mul_right x habove

/-! ## Rates that ascend by the same step -/

/-- The rates of an arithmetic progression add up as one. -/
theorem two_mul_sum_rate {c i : ℕ} (h : ∀ j < k, rate j = c + i * j) :
    2 * ∑ j ∈ Finset.range k, rate j + i * k = 2 * c * k + i * k * k := by
  induction k with
  | zero => simp
  | succ k ih =>
    have hrest := ih fun j hj => h j (Nat.lt_succ_of_lt hj)
    rw [Finset.sum_range_succ, h k (Nat.lt_succ_self k)]
    calc 2 * (∑ j ∈ Finset.range k, rate j + (c + i * k)) + i * (k + 1)
        = 2 * ∑ j ∈ Finset.range k, rate j + i * k + (2 * c + i * (2 * k + 1)) := by ring
      _ = 2 * c * k + i * k * k + (2 * c + i * (2 * k + 1)) := by rw [hrest]
      _ = 2 * c * (k + 1) + i * (k + 1) * (k + 1) := by ring

/-- **The charge is a quadratic** where a tier ends, and more than it inside a tier. -/
theorem two_mul_tiered {c i d : ℕ} (h : ∀ j < k, rate j = c + i * j) (hsize : size = b + d)
    (hlast : b = 0 ∨ rate k = c + i * k) :
    2 * size * tiered rate size (k * size + b) + i * (k * size + b) * size =
      2 * c * size * (k * size + b) + i * (k * size + b) * (k * size + b) + i * b * d := by
  have hsum := two_mul_sum_rate h
  have hpart : b * rate k = b * (c + i * k) := by
    rcases hlast with rfl | hlast
    · simp
    · rw [hlast]
  rw [tiered_mul_add (by omega), hpart]
  generalize ∑ j ∈ Finset.range k, rate j = total at hsum
  subst hsize
  calc 2 * (b + d) * ((b + d) * total + b * (c + i * k)) + i * (k * (b + d) + b) * (b + d)
      = (b + d) * (b + d) * (2 * total + i * k) +
          (2 * (b + d) * b * (c + i * k) + i * b * (b + d)) := by ring
    _ = (b + d) * (b + d) * (2 * c * k + i * k * k) +
          (2 * (b + d) * b * (c + i * k) + i * b * (b + d)) := by rw [hsum]
    _ = 2 * c * (b + d) * (k * (b + d) + b) + i * (k * (b + d) + b) * (k * (b + d) + b) +
          i * b * d := by ring

end Library
