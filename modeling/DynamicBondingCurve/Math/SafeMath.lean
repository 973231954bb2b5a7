import DynamicBondingCurve.Error
import DynamicBondingCurve.Library.Rounding

/-!
# Checked arithmetic

Machine integers are natural numbers; each operation names the width `w` of its operands and
fails when the exact result does not fit.

* `safeAdd`, `safeSub`, `safeMul`, `safeDiv`: the checked operations of `SafeMath`.
* `mulDivU256`, `shlDiv`: the wide products and quotients of `u128x128_math`.
* `safeMulDivCastU64`: the rounded product and quotient of amounts.
* the `_eq_ok` lemmas: an operation succeeds exactly when its result fits, and then it is exact.
* `NoPanic` and the `_noPanic` lemmas: a checked operation that fails returns an error code.
-/

namespace DynamicBondingCurve

open Library

/-- `2 ^ 64 - 1`. Source: `u64::MAX` -/
def u64Max : ℕ := 2 ^ 64 - 1

/-- The largest number of sixty-four bits fits them. -/
theorem u64Max_lt : u64Max < 2 ^ 64 := by decide

/-- `2 ^ 128 - 1`. Source: `u128::MAX` -/
def u128Max : ℕ := 2 ^ 128 - 1

/-! ## Operations of a fixed width -/

/-- A sum, refused when it does not fit.
Source: `math/safe_math.rs` `safe_add` -/
def safeAdd (w a b : ℕ) : Result ℕ :=
  if a + b < 2 ^ w then .ok (a + b) else fail .mathOverflow

/-- A difference, refused when it is negative.
Source: `math/safe_math.rs` `safe_sub` -/
def safeSub (a b : ℕ) : Result ℕ :=
  if b ≤ a then .ok (a - b) else fail .mathOverflow

/-- A product, refused when it does not fit.
Source: `math/safe_math.rs` `safe_mul` -/
def safeMul (w a b : ℕ) : Result ℕ :=
  if a * b < 2 ^ w then .ok (a * b) else fail .mathOverflow

/-- A quotient, refused when the divisor is zero.
Source: `math/safe_math.rs` `safe_div` -/
def safeDiv (a b : ℕ) : Result ℕ :=
  if b ≠ 0 then .ok (a / b) else fail .mathOverflow

/-- The shift of a wide integer, which fails when a set bit is shifted out.
Source: `math/safe_math.rs` `safe_shl` at `U256` -/
def safeShl (w a k : ℕ) : Result ℕ :=
  if a * 2 ^ k < 2 ^ w then .ok (a * 2 ^ k) else fail .mathOverflow

/-- The shift of a primitive integer, which fails only when the distance reaches the width; the
bits shifted out are lost.
Source: `math/safe_math.rs` `safe_shl` at the primitive types -/
def safeShlPrim (w a k : ℕ) : Result ℕ :=
  if k < w then .ok (a * 2 ^ k % 2 ^ w) else fail .mathOverflow

/-- The raw subtraction of the language, which panics on underflow.
Source: the operator `-`, with overflow checks on -/
def rawSub (a b : ℕ) : Result ℕ :=
  if b ≤ a then .ok (a - b) else .error .panic

/-- The conversion to a narrower integer.
Source: `math/safe_math.rs` `safe_cast`; `try_into` -/
def safeCast (w a : ℕ) : Result ℕ :=
  if a < 2 ^ w then .ok a else fail .typeCastFailed

section Success

variable {w a b c k : ℕ}

/-- When a sum is computed, and what it is. -/
theorem safeAdd_eq_ok : safeAdd w a b = .ok c ↔ a + b < 2 ^ w ∧ c = a + b := by
  unfold safeAdd
  split_ifs with h
  · simp [h, eq_comm]
  · simp [fail, h]

/-- When a difference is computed, and what it is. -/
theorem safeSub_eq_ok : safeSub a b = .ok c ↔ b ≤ a ∧ c = a - b := by
  unfold safeSub
  split_ifs with h
  · simp [h, eq_comm]
  · simp [fail, h]

/-- When a product is computed, and what it is. -/
theorem safeMul_eq_ok : safeMul w a b = .ok c ↔ a * b < 2 ^ w ∧ c = a * b := by
  unfold safeMul
  split_ifs with h
  · simp [h, eq_comm]
  · simp [fail, h]

/-- When a quotient is computed, and what it is. -/
theorem safeDiv_eq_ok : safeDiv a b = .ok c ↔ b ≠ 0 ∧ c = a / b := by
  unfold safeDiv
  split_ifs with h
  · simp [h, eq_comm]
  · simp [fail, h]

/-- When a shift is computed, and what it is. -/
theorem safeShl_eq_ok : safeShl w a k = .ok c ↔ a * 2 ^ k < 2 ^ w ∧ c = a * 2 ^ k := by
  unfold safeShl
  split_ifs with h
  · simp [h, eq_comm]
  · simp [fail, h]

/-- When a difference does not panic, and what it is. -/
theorem rawSub_eq_ok : rawSub a b = .ok c ↔ b ≤ a ∧ c = a - b := by
  unfold rawSub
  split_ifs with h
  · simp [h, eq_comm]
  · simp [h]

/-- When a number is cast, and to what. -/
theorem safeCast_eq_ok : safeCast w a = .ok c ↔ a < 2 ^ w ∧ c = a := by
  unfold safeCast
  split_ifs with h
  · simp [h, eq_comm]
  · simp [fail, h]

end Success

/-! ## Checked operations do not panic -/

/-- The computation may fail, but it does not panic. -/
abbrev NoPanic {α : Type} (c : Result α) : Prop := Avoids Fault.panic c

section NoPanic

variable {α : Type} {w a b k : ℕ}

/-- An error is no panic. -/
theorem fail_noPanic (e : PoolError) : NoPanic (fail e : Result α) :=
  avoids_error (by intro h; cases h)

/-- A check is no panic. -/
theorem ensure_noPanic {p : Prop} [Decidable p] {e : PoolError} : NoPanic (ensure p e) :=
  avoids_require_of_ne (by intro h; cases h)

/-- A sum is no panic. -/
theorem safeAdd_noPanic : NoPanic (safeAdd w a b) :=
  .ite (fun _ => avoids_ok _) fun _ => fail_noPanic _

/-- A difference is no panic. -/
theorem safeSub_noPanic : NoPanic (safeSub a b) :=
  .ite (fun _ => avoids_ok _) fun _ => fail_noPanic _

/-- A product is no panic. -/
theorem safeMul_noPanic : NoPanic (safeMul w a b) :=
  .ite (fun _ => avoids_ok _) fun _ => fail_noPanic _

/-- A quotient is no panic. -/
theorem safeDiv_noPanic : NoPanic (safeDiv a b) :=
  .ite (fun _ => avoids_ok _) fun _ => fail_noPanic _

/-- A shift is no panic. -/
theorem safeShl_noPanic : NoPanic (safeShl w a k) :=
  .ite (fun _ => avoids_ok _) fun _ => fail_noPanic _

/-- A cast is no panic. -/
theorem safeCast_noPanic : NoPanic (safeCast w a) :=
  .ite (fun _ => avoids_ok _) fun _ => fail_noPanic _

/-- A raw subtraction does not panic when it does not underflow.
Source: the operator `-`, with overflow checks on -/
theorem rawSub_noPanic (h : b ≤ a) : NoPanic (rawSub a b) :=
  avoids_of_eq_ok (if_pos h)

end NoPanic

/-! ## Wide products and quotients -/

/-- The two ways to round.
Source: `math/u128x128_math.rs` `Rounding` -/
inductive Rounding where
  | up
  | down
  deriving DecidableEq, Repr

/-- The quotient in the direction asked for.
Source: `div_ceil` and `div_rem` of the wide integers -/
def Rounding.div (r : Rounding) (a b : ℕ) : ℕ :=
  match r with
  | .up => a ⌈/⌉ b
  | .down => a / b

/-- `(x << offset) / y`.
Source: `math/u128x128_math.rs` `shl_div` -/
def shlDiv (x y offset : ℕ) (rounding : Rounding) : Option ℕ :=
  if y = 0 then none
  else if x * 2 ^ offset < 2 ^ 256 ∧ rounding.div (x * 2 ^ offset) y < 2 ^ 128 then
    some (rounding.div (x * 2 ^ offset) y)
  else none

/-- `(x * y) / denominator` through a product of 512 bits.
Source: `math/u128x128_math.rs` `mul_div_u256` -/
def mulDivU256 (x y denominator : ℕ) (rounding : Rounding) : Option ℕ :=
  if denominator = 0 then none
  else if x * y < 2 ^ 512 ∧ rounding.div (x * y) denominator < 2 ^ 256 then
    some (rounding.div (x * y) denominator)
  else none

/-- What a product and quotient in 256 bits is when it is computed. -/
theorem mulDivU256_eq_some {x y d r : ℕ} {rounding : Rounding}
    (h : mulDivU256 x y d rounding = some r) : 0 < d ∧ r = rounding.div (x * y) d := by
  unfold mulDivU256 at h
  split_ifs at h with hd hfit
  exact ⟨Nat.pos_of_ne_zero hd, (Option.some.inj h).symm⟩

/-- What fits 256 bits fits 512. -/
theorem lt_two_pow_512 {n : ℕ} (h : n < 2 ^ 256) : n < 2 ^ 512 := by
  apply h.trans_le
  gcongr
  · norm_num
  · norm_num

/-- A product and quotient of operands that fit is returned. -/
theorem mulDivU256_of_lt {x y d : ℕ} {rounding : Rounding} (hd : 0 < d) (hxy : x * y < 2 ^ 256)
    (hfit : rounding.div (x * y) d < 2 ^ 256) :
    mulDivU256 x y d rounding = some (rounding.div (x * y) d) := by
  unfold mulDivU256
  rw [if_neg hd.ne', if_pos ⟨lt_two_pow_512 hxy, hfit⟩]

/-- A shift and a quotient, refused when the result does not fit 128 bits.
Source: `math/utils_math.rs` `safe_shl_div_cast` at `u128` -/
def safeShlDivCast (x y offset : ℕ) (rounding : Rounding) : Result ℕ :=
  orThrow (shlDiv x y offset rounding) (.error .mathOverflow)

/-- `(x * y) / denominator` in the direction asked for.
Source: `math/utils_math.rs` `safe_mul_div_cast_u64` at `u64` -/
def safeMulDivCastU64 (x y denominator : ℕ) (rounding : Rounding) : Result ℕ := do
  let prod ← safeMul 128 x y
  let result ← (match rounding with
    | .up => do
        let sum ← safeAdd 128 prod denominator
        let shifted ← safeSub sum 1
        safeDiv shifted denominator
    | .down => safeDiv prod denominator)
  safeCast 64 result

/-- `(x * y) / denominator` in the direction asked for, for wide operands.
Source: `math/utils_math.rs` `safe_mul_div_cast_u128` -/
def safeMulDivCastU128 (x y denominator : ℕ) (rounding : Rounding) : Result ℕ := do
  let prod ← safeMul 256 x y
  let result ← (match rounding with
    | .up => do
        let sum ← safeAdd 256 prod denominator
        let shifted ← safeSub sum 1
        safeDiv shifted denominator
    | .down => safeDiv prod denominator)
  safeCast 128 result

/-- A rounded product and quotient is exact when it succeeds. -/
theorem safeMulDivCastU64_eq_ok {x y d r : ℕ} {rounding : Rounding}
    (h : safeMulDivCastU64 x y d rounding = .ok r) :
    0 < d ∧ r = rounding.div (x * y) d ∧ r < 2 ^ 64 := by
  cases rounding with
  | up =>
    simp only [safeMulDivCastU64, bind_eq_ok, safeMul_eq_ok, safeAdd_eq_ok, safeSub_eq_ok,
      safeDiv_eq_ok, safeCast_eq_ok] at h
    obtain ⟨_, ⟨_, rfl⟩, _, ⟨_, ⟨_, rfl⟩, _, ⟨_, rfl⟩, hd, rfl⟩, hfit, rfl⟩ := h
    exact ⟨Nat.pos_of_ne_zero hd, rfl, hfit⟩
  | down =>
    simp only [safeMulDivCastU64, bind_eq_ok, safeMul_eq_ok, safeDiv_eq_ok,
      safeCast_eq_ok] at h
    obtain ⟨_, ⟨_, rfl⟩, _, ⟨hd, rfl⟩, hfit, rfl⟩ := h
    exact ⟨Nat.pos_of_ne_zero hd, rfl, hfit⟩

/-- A rounded product and quotient of amounts fails only when the result does not fit.
Source: `math/utils_math.rs` `safe_mul_div_cast_u64` -/
theorem safeMulDivCastU64_eq {x y d : ℕ} (rounding : Rounding) (hd : 0 < d) (hx : x < 2 ^ 64)
    (hy : y < 2 ^ 64) (hdfit : d < 2 ^ 64) :
    safeMulDivCastU64 x y d rounding = safeCast 64 (rounding.div (x * y) d) := by
  have hprod : x * y ≤ (2 ^ 64 - 1) * (2 ^ 64 - 1) :=
    Nat.mul_le_mul (Nat.le_sub_one_of_lt hx) (Nat.le_sub_one_of_lt hy)
  have hmul : safeMul 128 x y = .ok (x * y) := safeMul_eq_ok.mpr ⟨by omega, rfl⟩
  unfold safeMulDivCastU64
  rw [hmul, ok_bind]
  cases rounding with
  | up =>
    have hadd : safeAdd 128 (x * y) d = .ok (x * y + d) := safeAdd_eq_ok.mpr ⟨by omega, rfl⟩
    have hsub : safeSub (x * y + d) 1 = .ok (x * y + d - 1) := safeSub_eq_ok.mpr ⟨by omega, rfl⟩
    have hdiv : safeDiv (x * y + d - 1) d = .ok ((x * y) ⌈/⌉ d) :=
      safeDiv_eq_ok.mpr ⟨hd.ne', rfl⟩
    simp only
    rw [hadd, ok_bind, hsub, ok_bind, hdiv, ok_bind]
    rfl
  | down =>
    have hdiv : safeDiv (x * y) d = .ok (x * y / d) := safeDiv_eq_ok.mpr ⟨hd.ne', rfl⟩
    simp only
    rw [hdiv, ok_bind]
    rfl

/-- A part of an amount is returned, and is at most the amount.
Source: `math/utils_math.rs` `safe_mul_div_cast_u64` -/
theorem safeMulDivCastU64_part {amount part whole : ℕ} (rounding : Rounding)
    (hamount : amount < 2 ^ 64) (hpart : part ≤ whole) (hwhole : 0 < whole)
    (hfit : whole < 2 ^ 64) :
    safeMulDivCastU64 amount part whole rounding = .ok (rounding.div (amount * part) whole) ∧
      rounding.div (amount * part) whole ≤ amount := by
  have hle : rounding.div (amount * part) whole ≤ amount := by
    have hmul : amount * part ≤ whole * amount := by
      rw [Nat.mul_comm whole]
      exact Nat.mul_le_mul_left amount hpart
    cases rounding with
    | up => exact (ceilDiv_le_iff hwhole).mpr hmul
    | down => exact Nat.div_le_of_le_mul hmul
  refine ⟨?_, hle⟩
  rw [safeMulDivCastU64_eq rounding hwhole hamount (hpart.trans_lt hfit) hfit]
  exact safeCast_eq_ok.mpr ⟨hle.trans_lt hamount, rfl⟩

/-- A wide product and quotient, rounded down, is exact when it succeeds. -/
theorem safeMulDivCastU128_down_eq_ok {x y d r : ℕ} :
    safeMulDivCastU128 x y d .down = .ok r ↔
      x * y < 2 ^ 256 ∧ d ≠ 0 ∧ x * y / d < 2 ^ 128 ∧ r = x * y / d := by
  simp only [safeMulDivCastU128, bind_eq_ok, safeMul_eq_ok, safeDiv_eq_ok, safeCast_eq_ok]
  constructor
  · rintro ⟨_, ⟨hprod, rfl⟩, _, ⟨hd, rfl⟩, hfit, rfl⟩
    exact ⟨hprod, hd, hfit, rfl⟩
  · rintro ⟨hprod, hd, hfit, rfl⟩
    exact ⟨_, ⟨hprod, rfl⟩, _, ⟨hd, rfl⟩, hfit, rfl⟩

/-! ## The integer square root -/

/-- The number of leading zero bits of a 256-bit integer.
Source: `leading_zeros` of the wide integers -/
def leadingZeros256 (n : ℕ) : ℕ :=
  256 - n.size

/-- One pass of the loop of `sqrt_u256`; `none` is a failed checked operation.
Source: `math/utils_math.rs` `sqrt_u256`, the body of the loop -/
def sqrtU256Step (n result bit : ℕ) : Option (ℕ × ℕ) :=
  if result + bit < 2 ^ 256 then
    if n ≥ result + bit then
      if result % 2 = 0 ∧ result / 2 + bit < 2 ^ 256 then
        some (n - (result + bit), result / 2 + bit)
      else none
    else if result % 2 = 0 then some (n, result / 2)
    else none
  else none

/-- The loop of `sqrt_u256`, at most `fuel` passes; it ends when `bit` is zero, and
the 128 digits of a 256-bit radicand are within the fuel that `sqrtU256` gives.
Source: `math/utils_math.rs` `sqrt_u256`, the loop -/
def sqrtU256Loop : ℕ → ℕ → ℕ → ℕ → Option ℕ
  | 0, _, _, _ => none
  | fuel + 1, n, result, bit =>
      if bit = 0 then some result
      else
        match sqrtU256Step n result bit with
        | some (n', result') => sqrtU256Loop fuel n' result' (bit / 4)
        | none => none

/-- The integer square root, digit by digit in base four.
Source: `math/utils_math.rs` `sqrt_u256` -/
def sqrtU256 (radicand : ℕ) : Option ℕ :=
  if radicand = 0 then some 0
  else
    let maxShift := 256 - 1
    let shift := (maxShift - leadingZeros256 radicand) / 2 * 2
    sqrtU256Loop 129 radicand 0 (2 ^ shift)

end DynamicBondingCurve
