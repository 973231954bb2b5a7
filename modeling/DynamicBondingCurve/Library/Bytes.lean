import Mathlib.Data.Nat.Digits.Defs
import Mathlib.Data.List.TakeDrop

/-!
# Records of bytes

A record is written field by field, each as a number of so many bytes, the lowest one first. It is
read with the same widths, and refused unless it is exactly as long as they say.

* `encodeLE`, `decodeLE_encodeLE`: one field, and what is read back of it.
* `encodeFields`, `length_encodeFields`: a record, and how long it is.
* `decodeFields_encodeFields`: **a record is read back as it was written.**
-/

namespace Library

/-- A number below 256. -/
abbrev Byte := Fin 256

/-- The lowest bytes of a number, the lowest one first. -/
def encodeLE : ℕ → ℕ → List Byte
  | 0, _ => []
  | width + 1, n => ⟨n % 256, Nat.mod_lt n (by decide)⟩ :: encodeLE width (n / 256)

/-- The number that bytes stand for, the lowest first. -/
def decodeLE (bytes : List Byte) : ℕ := Nat.ofDigits 256 (bytes.map Fin.val)

/-- A number is written in as many bytes as were asked for. -/
@[simp] theorem length_encodeLE (width n : ℕ) : (encodeLE width n).length = width := by
  induction width generalizing n with
  | zero => rfl
  | succ width ih => rw [encodeLE, List.length_cons, ih]

/-- **A number that fits its bytes is read back.** -/
theorem decodeLE_encodeLE {width n : ℕ} (hfit : n < 256 ^ width) :
    decodeLE (encodeLE width n) = n := by
  induction width generalizing n with
  | zero =>
    rw [pow_zero, Nat.lt_one_iff] at hfit
    rw [hfit]
    rfl
  | succ width ih =>
    have hrest : n / 256 < 256 ^ width := by
      rw [Nat.div_lt_iff_lt_mul (by decide), ← pow_succ]
      exact hfit
    have hread := ih hrest
    unfold decodeLE at hread ⊢
    rw [encodeLE, List.map_cons, Nat.ofDigits_cons, hread]
    exact Nat.mod_add_div n 256

/-- The bytes of a record, whose fields come with their widths. -/
def encodeFields : List (ℕ × ℕ) → List Byte
  | [] => []
  | (width, n) :: fields => encodeLE width n ++ encodeFields fields

/-- The fields of a record, if it has just the bytes that the widths ask for. -/
def decodeFields : List ℕ → List Byte → Option (List ℕ)
  | [], [] => some []
  | [], _ :: _ => none
  | width :: widths, bytes =>
      if bytes.length < width then none
      else (decodeFields widths (bytes.drop width)).map (decodeLE (bytes.take width) :: ·)

/-- Fields are written in as many bytes as they are wide. -/
theorem length_encodeFields (fields : List (ℕ × ℕ)) :
    (encodeFields fields).length = (fields.map Prod.fst).sum := by
  induction fields with
  | nil => rfl
  | cons field fields ih =>
    rw [encodeFields, List.length_append, length_encodeLE, ih, List.map_cons, List.sum_cons]

/-- **A record is read back as it was written**, if its fields fit their widths. -/
theorem decodeFields_encodeFields {fields : List (ℕ × ℕ)}
    (hfit : ∀ field ∈ fields, field.2 < 256 ^ field.1) :
    decodeFields (fields.map Prod.fst) (encodeFields fields) = some (fields.map Prod.snd) := by
  induction fields with
  | nil => rfl
  | cons field fields ih =>
    obtain ⟨width, n⟩ := field
    have hlong : ¬ (encodeLE width n ++ encodeFields fields).length < width := by
      rw [List.length_append, length_encodeLE]
      omega
    rw [List.map_cons, encodeFields, decodeFields, if_neg hlong,
      List.drop_left' (length_encodeLE width n), List.take_left' (length_encodeLE width n),
      decodeLE_encodeLE (hfit (width, n) List.mem_cons_self),
      ih fun field hmem => hfit field (List.mem_cons_of_mem _ hmem)]
    rfl

end Library
