import Mathlib

/-!
# Shares of an amount, each paid at most once

An amount that may still grow is shared out. Each share is paid at most once, and never more than
it is worth when it is paid. Whatever the order of the payments, what is still open is covered by
what is left.

* `Settled`: how a share stands: what was paid of it, how often, and whether it is open.
* `Settled.start`, `Settled.mono`, `Settled.pay`: how a share begins, grows and is paid.
* `sum_open_add_sum_paid_le`: **what is open and what was paid fit the amount together.**
* `setFlag_and_mask`, `setFlag_and_other`: the flag of a share in a word of flags.
-/

namespace Library

/-- A share that is worth `due`, of which `paid` was paid in `count` payments. -/
structure Settled {M : Type} [Zero M] [LE M] (due paid : M) (count : ℕ) (isOpen : Bool) : Prop where
  paid_le : paid ≤ due
  paid_eq : isOpen = true → paid = 0
  count_eq : count = if isOpen then 0 else 1

namespace Settled

variable {M : Type} [AddCommMonoid M] [PartialOrder M] {due due' paid amount : M} {count : ℕ}
  {isOpen : Bool}

/-- A share begins open. -/
theorem start (h : 0 ≤ due) : Settled due 0 0 true := ⟨h, fun _ => rfl, rfl⟩

/-- A share may grow. -/
theorem mono (h : Settled due paid count isOpen) (hdue : due ≤ due') :
    Settled due' paid count isOpen :=
  ⟨h.paid_le.trans hdue, h.paid_eq, h.count_eq⟩

/-- An open share is paid once, at most what it is worth. -/
theorem pay (h : Settled due paid count true) (hamount : amount ≤ due) :
    Settled due (amount + paid) (count + 1) false := by
  refine ⟨?_, fun hopen => absurd hopen Bool.false_ne_true, ?_⟩
  · rw [h.paid_eq rfl, add_zero]
    exact hamount
  · rw [h.count_eq]
    rfl

/-- What is settled was paid once at most. -/
theorem count_le_one (h : Settled due paid count isOpen) : count ≤ 1 := by
  rw [h.count_eq]
  split_ifs <;> omega

/-- What is open of a share and what was paid of it fit the share together. -/
theorem open_add_paid_le (h : Settled due paid count isOpen) :
    (if isOpen then due else 0) + paid ≤ due := by
  cases isOpen with
  | true => rw [if_pos rfl, h.paid_eq rfl, add_zero]
  | false => rw [if_neg Bool.false_ne_true, zero_add]; exact h.paid_le

end Settled

/-- **What is open and what was paid fit the amount together**, when the shares do. -/
theorem sum_open_add_sum_paid_le {ι M : Type} [Fintype ι] [AddCommMonoid M] [PartialOrder M]
    [IsOrderedAddMonoid M] {due paid : ι → M} {count : ι → ℕ} {isOpen : ι → Bool} {total : M}
    (h : ∀ i, Settled (due i) (paid i) (count i) (isOpen i)) (htotal : ∑ i, due i ≤ total) :
    ∑ i, (if isOpen i then due i else 0) + ∑ i, paid i ≤ total := by
  rw [← Finset.sum_add_distrib]
  exact (Finset.sum_le_sum fun i _ => (h i).open_add_paid_le).trans htotal

/-! ## Flags -/

section Flags

variable {bits mask other : ℕ}

/-- A flag that is flipped while it is clear is set. -/
theorem setFlag_and_mask (h : bits &&& mask = 0) : (bits ^^^ mask) &&& mask = mask := by
  rw [Nat.and_xor_distrib_right, h, Nat.and_self, Nat.zero_xor]

/-- The other flags stay as they are. -/
theorem setFlag_and_other (h : mask &&& other = 0) :
    (bits ^^^ mask) &&& other = bits &&& other := by
  rw [Nat.and_xor_distrib_right, h, Nat.xor_zero]

end Flags

end Library
