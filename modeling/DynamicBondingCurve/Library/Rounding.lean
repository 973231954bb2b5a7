import Mathlib

/-!
# Integer division rounded down and rounded up

Fixed-point code divides naturals and says in which direction it rounds. The two roundings are
`a / b` and `a ⌈/⌉ b`; what the proofs about amounts use of them is

* `ceilDiv_add_le`: the rounded-up quotient is subadditive, so cutting an interval never makes
  the sum of the parts smaller than the whole.
* `ceilDiv_mul_div_self`: a weight `k ≤ s` times the floor of `a * s / k` climbs back to `a`.
* `gc_mul_ceilDiv_mul_div`: scaling by `a / b` rounded up and by `b / a` rounded down are adjoint;
  `mul_ceilDiv_mul_div`: when `b ≤ a`, up and down again gives back what one began with.
-/

namespace Library

variable {a b c k s : ℕ}

/-- The rounded-up quotient is the least `c` with `a ≤ b * c`. -/
theorem ceilDiv_le_iff (hb : 0 < b) : a ⌈/⌉ b ≤ c ↔ a ≤ b * c :=
  ceilDiv_le_iff_le_mul hb

/-- A quotient that is rounded up covers the dividend. -/
theorem le_mul_ceilDiv (a : ℕ) (hb : 0 < b) : a ≤ b * (a ⌈/⌉ b) :=
  (ceilDiv_le_iff hb).mp le_rfl

/-- A quotient that is rounded up covers less than one divisor more. -/
theorem mul_ceilDiv_lt (a : ℕ) (hb : 0 < b) : b * (a ⌈/⌉ b) < a + b := by
  have h := Nat.div_mul_le_self (a + b - 1) b
  rw [Nat.ceilDiv_eq_add_pred_div, Nat.mul_comm]
  omega

/-- More is more, rounded up. -/
theorem ceilDiv_mono (h : a ≤ c) (b : ℕ) : a ⌈/⌉ b ≤ c ⌈/⌉ b := by
  rw [Nat.ceilDiv_eq_add_pred_div, Nat.ceilDiv_eq_add_pred_div]
  exact Nat.div_le_div_right (by omega)

/-- **Rounding up is subadditive.** -/
theorem ceilDiv_add_le (a c : ℕ) (hb : 0 < b) :
    (a + c) ⌈/⌉ b ≤ a ⌈/⌉ b + c ⌈/⌉ b := by
  rw [ceilDiv_le_iff hb, Nat.mul_add]
  exact Nat.add_le_add (le_mul_ceilDiv a hb) (le_mul_ceilDiv c hb)

/-- What rounding up adds to a multiple of the divisor. -/
theorem mul_ceilDiv_eq (a : ℕ) (hb : 0 < b) : b * (a ⌈/⌉ b) = a + (b - a % b) % b := by
  have hdiv := Nat.div_add_mod a b
  have hmod := Nat.mod_lt a hb
  rcases Nat.eq_zero_or_pos (a % b) with hzero | hpos
  · have hceil : a ⌈/⌉ b = a / b := by
      apply le_antisymm
      · rw [ceilDiv_le_iff hb]
        omega
      · exact Nat.div_le_of_le_mul (le_mul_ceilDiv a hb)
    rw [hceil, hzero, Nat.sub_zero, Nat.mod_self]
    omega
  · have hceil : a ⌈/⌉ b = a / b + 1 := by
      rw [Nat.ceilDiv_eq_add_pred_div]
      have hsplit : a + b - 1 = a % b - 1 + b * (a / b + 1) := by
        rw [Nat.mul_add]
        omega
      rw [hsplit, Nat.add_mul_div_left _ _ hb, Nat.div_eq_of_lt (by omega), Nat.zero_add]
    rw [hceil, Nat.mod_eq_of_lt (by omega : b - a % b < b), Nat.mul_add]
    omega

/-- A multiple of the divisor comes out of the quotient. -/
theorem mul_add_ceilDiv (a c : ℕ) (hb : 0 < b) : (b * a + c) ⌈/⌉ b = a + c ⌈/⌉ b := by
  rw [Nat.ceilDiv_eq_add_pred_div, Nat.ceilDiv_eq_add_pred_div]
  have hsplit : b * a + c + b - 1 = c + b - 1 + b * a := by omega
  rw [hsplit, Nat.add_mul_div_left _ _ hb, Nat.add_comm]

/-- A weight `k ≤ s` moved by the rounded-down step `a * s / k` is worth all of `a` again once
the product is rounded up. -/
theorem ceilDiv_mul_div_self (hk : 0 < k) (hks : k ≤ s) :
    (k * (a * s / k)) ⌈/⌉ s = a := by
  have hs : 0 < s := lt_of_lt_of_le hk hks
  have hle : k * (a * s / k) ≤ a * s := Nat.mul_div_le (a * s) k
  have hlt : a * s < k * (a * s / k) + k := by
    have := Nat.lt_div_mul_add (a := a * s) hk
    rw [Nat.mul_comm k]
    exact this
  apply le_antisymm
  · rw [ceilDiv_le_iff hs, Nat.mul_comm s a]
    exact hle
  · by_contra hcon
    have hstep : (k * (a * s / k)) ⌈/⌉ s + 1 ≤ a := by omega
    have hup := le_mul_ceilDiv (k * (a * s / k)) hs
    have hmul : s * ((k * (a * s / k)) ⌈/⌉ s + 1) ≤ s * a := Nat.mul_le_mul_left s hstep
    rw [Nat.mul_add, Nat.mul_one, Nat.mul_comm s a] at hmul
    omega

/-! ## Scaling up and down -/

/-- **Scaling by `a / b`, rounded up, and by `b / a`, rounded down, are adjoint.** -/
theorem gc_mul_ceilDiv_mul_div (ha : 0 < a) (hb : 0 < b) :
    GaloisConnection (fun c => (c * a) ⌈/⌉ b) (fun c => c * b / a) := by
  intro c k
  rw [ceilDiv_le_iff hb, Nat.le_div_iff_mul_le ha, Nat.mul_comm b]

/-- Scaling by `b / a ≤ 1` gives back what was scaled by `a / b`. -/
theorem mul_ceilDiv_mul_div (hb : 0 < b) (hba : b ≤ a) : (c * a) ⌈/⌉ b * b / a = c := by
  have ha : 0 < a := hb.trans_le hba
  apply le_antisymm
  · apply Nat.le_of_lt_succ
    rw [Nat.div_lt_iff_lt_mul ha, Nat.mul_comm _ b, Nat.succ_mul]
    exact (mul_ceilDiv_lt _ hb).trans_le (Nat.add_le_add_left hba _)
  · exact (gc_mul_ceilDiv_mul_div ha hb).le_u_l c

/-- What a share `b / a`, rounded up, leaves is the other share, rounded down. -/
theorem sub_mul_ceilDiv (ha : 0 < a) (hba : b ≤ a) :
    c - (c * b) ⌈/⌉ a = c * (a - b) / a := by
  have hsplit : c * (a - b) + c * b = c * a := by
    rw [← Nat.mul_add, Nat.sub_add_cancel hba]
  have hup := le_mul_ceilDiv (c * b) ha
  have hlt := mul_ceilDiv_lt (c * b) ha
  have hrest : (c - (c * b) ⌈/⌉ a) * a = c * a - a * ((c * b) ⌈/⌉ a) := by
    rw [Nat.sub_mul, Nat.mul_comm a]
  symm
  apply Nat.div_eq_of_lt_le
  · rw [hrest]
    omega
  · rw [Nat.succ_mul, hrest]
    omega

end Library
