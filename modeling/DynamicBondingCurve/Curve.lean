import DynamicBondingCurve.Math.SafeMath

/-!
# Amounts and prices inside one segment of the curve

A segment has constant liquidity `L`. Moving the square-root price from `a` up to `b` inside it
takes `L * (b - a) / 2 ^ 128` of the quote token and gives `L * (b - a) / (a * b)` of the base
token; the program rounds each up or down.

* `getDeltaAmountBaseUnsigned256`, `getDeltaAmountQuoteUnsigned256` and their checked variants.
* `getNextSqrtPriceFromInput`, `getNextSqrtPriceFromOutput`: the price an amount moves to.
* the `_spec` lemmas: what a successful call returns.
* the `_noPanic` lemmas: between prices in order no subtraction and no assertion panics.
-/

namespace DynamicBondingCurve

open Library

/-- The bits of the fraction of a price.
Source: `curve.rs` `RESOLUTION` -/
def RESOLUTION : ℕ := 64

/-! ## Amounts of a price interval -/

/-- The base between two prices, as wide as it comes.
Source: `curve.rs` `get_delta_amount_base_unsigned_unchecked` -/
def getDeltaAmountBaseUnsignedUnchecked (lowerSqrtPrice upperSqrtPrice liquidity : ℕ)
    (round : Rounding) : Result ℕ := do
  let numerator2 ← rawSub upperSqrtPrice lowerSqrtPrice
  let denominator ← safeMul 256 lowerSqrtPrice upperSqrtPrice
  assert (denominator > 0)
  orThrow (mulDivU256 liquidity numerator2 denominator round) (.error .mathOverflow)

/-- The base between two prices, in 256 bits.
Source: `curve.rs` `get_delta_amount_base_unsigned_256` -/
def getDeltaAmountBaseUnsigned256 (lowerSqrtPrice upperSqrtPrice liquidity : ℕ)
    (round : Rounding) : Result ℕ :=
  getDeltaAmountBaseUnsignedUnchecked lowerSqrtPrice upperSqrtPrice liquidity round

/-- The base between two prices, refused when it does not fit sixty-four bits.
Source: `curve.rs` `get_delta_amount_base_unsigned` -/
def getDeltaAmountBaseUnsigned (lowerSqrtPrice upperSqrtPrice liquidity : ℕ)
    (round : Rounding) : Result ℕ := do
  let result ← getDeltaAmountBaseUnsigned256 lowerSqrtPrice upperSqrtPrice liquidity round
  ensure (result ≤ u64Max) .mathOverflow
  safeCast 64 result

/-- The quote between two prices, as wide as it comes.
Source: `curve.rs` `get_delta_amount_quote_unsigned_unchecked` -/
def getDeltaAmountQuoteUnsignedUnchecked (lowerSqrtPrice upperSqrtPrice liquidity : ℕ)
    (round : Rounding) : Result ℕ := do
  let deltaSqrtPrice ← rawSub upperSqrtPrice lowerSqrtPrice
  let prod ← safeMul 256 liquidity deltaSqrtPrice
  match round with
  | .up => do
      let denominator ← safeShl 256 1 (RESOLUTION * 2)
      pure (prod ⌈/⌉ denominator)
  | .down => pure (prod / 2 ^ (RESOLUTION * 2))

/-- The quote between two prices, in 256 bits.
Source: `curve.rs` `get_delta_amount_quote_unsigned_256` -/
def getDeltaAmountQuoteUnsigned256 (lowerSqrtPrice upperSqrtPrice liquidity : ℕ)
    (round : Rounding) : Result ℕ :=
  getDeltaAmountQuoteUnsignedUnchecked lowerSqrtPrice upperSqrtPrice liquidity round

/-- The quote between two prices, refused when it does not fit sixty-four bits.
Source: `curve.rs` `get_delta_amount_quote_unsigned` -/
def getDeltaAmountQuoteUnsigned (lowerSqrtPrice upperSqrtPrice liquidity : ℕ)
    (round : Rounding) : Result ℕ := do
  let result ← getDeltaAmountQuoteUnsigned256 lowerSqrtPrice upperSqrtPrice liquidity round
  ensure (result ≤ u64Max) .mathOverflow
  safeCast 64 result

/-! ## The price an amount moves to -/

/-- The price after an amount of quote goes out.
Source: `curve.rs` `get_next_sqrt_price_from_quote_amount_out_rounding_down` -/
def getNextSqrtPriceFromQuoteAmountOutRoundingDown (sqrtPrice liquidity amount : ℕ) :
    Result ℕ := do
  let qAmount ← safeShl 256 amount 128
  let result ← safeSub sqrtPrice (qAmount ⌈/⌉ liquidity)
  safeCast 128 result

/-- The price after an amount of base goes out.
Source: `curve.rs` `get_next_sqrt_price_from_base_amount_out_rounding_up` -/
def getNextSqrtPriceFromBaseAmountOutRoundingUp (sqrtPrice liquidity amount : ℕ) :
    Result ℕ :=
  if amount = 0 then pure sqrtPrice
  else do
    let product ← safeMul 256 amount sqrtPrice
    let denominator ← safeSub liquidity product
    let result ← orThrow (mulDivU256 liquidity sqrtPrice denominator .up)
      (Fault.error .typeCastFailed)
    safeCast 128 result

/-- The price after an amount of base comes in.
Source: `curve.rs` `get_next_sqrt_price_from_base_amount_in_rounding_up` -/
def getNextSqrtPriceFromBaseAmountInRoundingUp (sqrtPrice liquidity amount : ℕ) :
    Result ℕ :=
  if amount = 0 then pure sqrtPrice
  else do
    let product ← safeMul 256 amount sqrtPrice
    let denominator ← safeAdd 256 liquidity product
    let result ← orThrow (mulDivU256 liquidity sqrtPrice denominator .up)
      (Fault.error .mathOverflow)
    safeCast 128 result

/-- The price after an amount of quote comes in.
Source: `curve.rs` `get_next_sqrt_price_from_quote_amount_in_rounding_down` -/
def getNextSqrtPriceFromQuoteAmountInRoundingDown (sqrtPrice liquidity amount : ℕ) :
    Result ℕ := do
  let shifted ← safeShl 256 amount (RESOLUTION * 2)
  let quotient ← safeDiv shifted liquidity
  let result ← safeAdd 256 sqrtPrice quotient
  safeCast 128 result

/-- The price after an input of either token.
Source: `curve.rs` `get_next_sqrt_price_from_input` -/
def getNextSqrtPriceFromInput (sqrtPrice liquidity amountIn : ℕ) (baseForQuote : Bool) :
    Result ℕ := do
  assert (sqrtPrice > 0)
  assert (liquidity > 0)
  if baseForQuote then
    getNextSqrtPriceFromBaseAmountInRoundingUp sqrtPrice liquidity amountIn
  else
    getNextSqrtPriceFromQuoteAmountInRoundingDown sqrtPrice liquidity amountIn

/-- The price after an output of either token.
Source: `curve.rs` `get_next_sqrt_price_from_output` -/
def getNextSqrtPriceFromOutput (sqrtPrice liquidity amountOut : ℕ) (baseForQuote : Bool) :
    Result ℕ := do
  assert (sqrtPrice > 0)
  assert (liquidity > 0)
  if baseForQuote then
    getNextSqrtPriceFromQuoteAmountOutRoundingDown sqrtPrice liquidity amountOut
  else
    getNextSqrtPriceFromBaseAmountOutRoundingUp sqrtPrice liquidity amountOut

/-! ## What a successful call returns -/

section Spec

variable {lower upper liquidity amount price r : ℕ} {round : Rounding}

/-- The base between two prices, when it is computed in 256 bits. -/
theorem getDeltaAmountBaseUnsigned256_spec
    (h : getDeltaAmountBaseUnsigned256 lower upper liquidity round = .ok r) :
    lower ≤ upper ∧ 0 < lower ∧ r = round.div (liquidity * (upper - lower)) (lower * upper) := by
  simp only [getDeltaAmountBaseUnsigned256, getDeltaAmountBaseUnsignedUnchecked, bind_eq_ok,
    require_eq_ok, rawSub_eq_ok, safeMul_eq_ok, orThrow_eq_ok] at h
  obtain ⟨_, ⟨hle, rfl⟩, _, ⟨_, rfl⟩, _, hpos, hdiv⟩ := h
  exact ⟨hle, Nat.pos_of_mul_pos_right hpos, (mulDivU256_eq_some hdiv).2⟩

/-- The base between two prices, when it is computed in sixty-four bits. -/
theorem getDeltaAmountBaseUnsigned_spec
    (h : getDeltaAmountBaseUnsigned lower upper liquidity round = .ok r) :
    lower ≤ upper ∧ 0 < lower ∧ r = round.div (liquidity * (upper - lower)) (lower * upper) := by
  simp only [getDeltaAmountBaseUnsigned, bind_eq_ok, require_eq_ok, safeCast_eq_ok] at h
  obtain ⟨_, h256, _, _, _, rfl⟩ := h
  exact getDeltaAmountBaseUnsigned256_spec h256

/-- The quote between two prices, when it is computed in 256 bits. -/
theorem getDeltaAmountQuoteUnsigned256_spec
    (h : getDeltaAmountQuoteUnsigned256 lower upper liquidity round = .ok r) :
    lower ≤ upper ∧ r = round.div (liquidity * (upper - lower)) (2 ^ 128) := by
  simp only [getDeltaAmountQuoteUnsigned256, getDeltaAmountQuoteUnsignedUnchecked, bind_eq_ok,
    rawSub_eq_ok, safeMul_eq_ok] at h
  obtain ⟨_, ⟨hle, rfl⟩, _, ⟨_, rfl⟩, hround⟩ := h
  refine ⟨hle, ?_⟩
  cases round with
  | up =>
    simp only [bind_eq_ok, safeShl_eq_ok, pure_eq_ok, one_mul] at hround
    obtain ⟨_, ⟨_, rfl⟩, rfl⟩ := hround
    rfl
  | down =>
    simp only [pure_eq_ok] at hround
    exact hround.symm

/-- The quote between two prices, when it is computed in sixty-four bits. -/
theorem getDeltaAmountQuoteUnsigned_spec
    (h : getDeltaAmountQuoteUnsigned lower upper liquidity round = .ok r) :
    lower ≤ upper ∧ r = round.div (liquidity * (upper - lower)) (2 ^ 128) := by
  simp only [getDeltaAmountQuoteUnsigned, bind_eq_ok, require_eq_ok, safeCast_eq_ok] at h
  obtain ⟨_, h256, _, _, _, rfl⟩ := h
  exact getDeltaAmountQuoteUnsigned256_spec h256

/-- Quote paid in moves the price up, rounded down. -/
theorem getNextSqrtPriceFromInput_quote_spec
    (h : getNextSqrtPriceFromInput price liquidity amount false = .ok r) :
    0 < price ∧ 0 < liquidity ∧ r = price + amount * 2 ^ 128 / liquidity := by
  simp only [getNextSqrtPriceFromInput, getNextSqrtPriceFromQuoteAmountInRoundingDown, bind_eq_ok,
    require_eq_ok, safeShl_eq_ok, safeDiv_eq_ok, safeAdd_eq_ok, safeCast_eq_ok,
    Bool.false_eq_true, if_false] at h
  obtain ⟨_, hp, _, hl, _, ⟨_, rfl⟩, _, ⟨_, rfl⟩, _, ⟨_, rfl⟩, _, rfl⟩ := h
  exact ⟨hp, hl, rfl⟩

/-- Base paid in moves the price down, rounded up. -/
theorem getNextSqrtPriceFromInput_base_spec
    (h : getNextSqrtPriceFromInput price liquidity amount true = .ok r) :
    0 < price ∧ 0 < liquidity ∧
      r = (liquidity * price) ⌈/⌉ (liquidity + amount * price) := by
  simp only [getNextSqrtPriceFromInput, getNextSqrtPriceFromBaseAmountInRoundingUp, bind_eq_ok,
    require_eq_ok, if_true] at h
  obtain ⟨_, hp, _, hl, h⟩ := h
  refine ⟨hp, hl, ?_⟩
  split_ifs at h with hzero
  · simp only [pure_eq_ok] at h
    subst h hzero
    simpa using (smul_ceilDiv hl price).symm
  · simp only [bind_eq_ok, safeMul_eq_ok, safeAdd_eq_ok, orThrow_eq_ok, safeCast_eq_ok] at h
    obtain ⟨_, ⟨_, rfl⟩, _, ⟨_, rfl⟩, _, hdiv, _, rfl⟩ := h
    exact (mulDivU256_eq_some hdiv).2

/-- Quote paid out moves the price down, rounded down. -/
theorem getNextSqrtPriceFromOutput_quote_spec
    (h : getNextSqrtPriceFromOutput price liquidity amount true = .ok r) :
    0 < price ∧ 0 < liquidity ∧ (amount * 2 ^ 128) ⌈/⌉ liquidity ≤ price ∧
      r = price - (amount * 2 ^ 128) ⌈/⌉ liquidity := by
  simp only [getNextSqrtPriceFromOutput, getNextSqrtPriceFromQuoteAmountOutRoundingDown,
    bind_eq_ok, require_eq_ok, safeShl_eq_ok, safeSub_eq_ok, safeCast_eq_ok, if_true] at h
  obtain ⟨_, hp, _, hl, _, ⟨_, rfl⟩, _, ⟨hle, rfl⟩, _, rfl⟩ := h
  exact ⟨hp, hl, hle, rfl⟩

/-- Base paid out moves the price up, rounded up. -/
theorem getNextSqrtPriceFromOutput_base_spec
    (h : getNextSqrtPriceFromOutput price liquidity amount false = .ok r) :
    0 < price ∧ 0 < liquidity ∧ amount * price < liquidity ∧
      r = (liquidity * price) ⌈/⌉ (liquidity - amount * price) := by
  simp only [getNextSqrtPriceFromOutput, getNextSqrtPriceFromBaseAmountOutRoundingUp, bind_eq_ok,
    require_eq_ok, Bool.false_eq_true, if_false] at h
  obtain ⟨_, hp, _, hl, h⟩ := h
  refine ⟨hp, hl, ?_⟩
  split_ifs at h with hzero
  · simp only [pure_eq_ok] at h
    subst h hzero
    refine ⟨by rw [zero_mul]; exact hl, ?_⟩
    simpa using (smul_ceilDiv hl price).symm
  · simp only [bind_eq_ok, safeMul_eq_ok, safeSub_eq_ok, orThrow_eq_ok, safeCast_eq_ok] at h
    obtain ⟨_, ⟨_, rfl⟩, _, ⟨_, rfl⟩, _, hdiv, _, rfl⟩ := h
    obtain ⟨hpos, hr⟩ := mulDivU256_eq_some hdiv
    exact ⟨Nat.sub_pos_iff_lt.mp hpos, hr⟩

end Spec

/-! ## Calls that do not panic -/

section NoPanic

variable {lower upper liquidity amount price : ℕ} {round : Rounding}

/-- The base between two prices in order, the lower one positive, is computed without a panic.
Source: `curve.rs` `get_delta_amount_base_unsigned_unchecked` -/
theorem getDeltaAmountBaseUnsigned256_noPanic (hlower : 0 < lower) (hle : lower ≤ upper) :
    NoPanic (getDeltaAmountBaseUnsigned256 lower upper liquidity round) := by
  apply Avoids.bind (rawSub_noPanic hle)
  intro numerator _
  apply Avoids.bind safeMul_noPanic
  intro denominator hden
  obtain ⟨_, rfl⟩ := safeMul_eq_ok.mp hden
  apply Avoids.bind (avoids_require (Nat.mul_pos hlower (hlower.trans_le hle)))
  intro _ _
  exact avoids_orThrow (by intro h; cases h)

/-- So is the base that has to fit sixty-four bits.
Source: `curve.rs` `get_delta_amount_base_unsigned` -/
theorem getDeltaAmountBaseUnsigned_noPanic (hlower : 0 < lower) (hle : lower ≤ upper) :
    NoPanic (getDeltaAmountBaseUnsigned lower upper liquidity round) := by
  apply Avoids.bind (getDeltaAmountBaseUnsigned256_noPanic hlower hle)
  intro result _
  exact ensure_noPanic.bind fun _ _ => safeCast_noPanic

/-- The quote between two prices in order is computed without a panic.
Source: `curve.rs` `get_delta_amount_quote_unsigned_unchecked` -/
theorem getDeltaAmountQuoteUnsigned256_noPanic (hle : lower ≤ upper) :
    NoPanic (getDeltaAmountQuoteUnsigned256 lower upper liquidity round) := by
  apply Avoids.bind (rawSub_noPanic hle)
  intro delta _
  apply Avoids.bind safeMul_noPanic
  intro prod _
  cases round with
  | up => exact safeShl_noPanic.bind fun _ _ => avoids_ok _
  | down => exact avoids_ok _

/-- So is the quote that has to fit sixty-four bits.
Source: `curve.rs` `get_delta_amount_quote_unsigned` -/
theorem getDeltaAmountQuoteUnsigned_noPanic (hle : lower ≤ upper) :
    NoPanic (getDeltaAmountQuoteUnsigned lower upper liquidity round) := by
  apply Avoids.bind (getDeltaAmountQuoteUnsigned256_noPanic hle)
  intro result _
  exact ensure_noPanic.bind fun _ _ => safeCast_noPanic

/-- The price after an input is computed without a panic, where there are a price and liquidity.
Source: `curve.rs` `get_next_sqrt_price_from_input` -/
theorem getNextSqrtPriceFromInput_noPanic (hprice : 0 < price) (hliquidity : 0 < liquidity)
    (baseForQuote : Bool) :
    NoPanic (getNextSqrtPriceFromInput price liquidity amount baseForQuote) := by
  apply Avoids.bind (avoids_require hprice)
  intro _ _
  apply Avoids.bind (avoids_require hliquidity)
  intro _ _
  apply Avoids.ite
  · intro _
    apply Avoids.ite fun _ => avoids_ok _
    intro _
    exact safeMul_noPanic.bind fun _ _ => safeAdd_noPanic.bind fun _ _ =>
      (avoids_orThrow (by intro h; cases h)).bind fun _ _ => safeCast_noPanic
  · intro _
    exact safeShl_noPanic.bind fun _ _ => safeDiv_noPanic.bind fun _ _ =>
      safeAdd_noPanic.bind fun _ _ => safeCast_noPanic

/-- The price after an output is computed without a panic, where there are a price and liquidity.
Source: `curve.rs` `get_next_sqrt_price_from_output` -/
theorem getNextSqrtPriceFromOutput_noPanic (hprice : 0 < price) (hliquidity : 0 < liquidity)
    (baseForQuote : Bool) :
    NoPanic (getNextSqrtPriceFromOutput price liquidity amount baseForQuote) := by
  apply Avoids.bind (avoids_require hprice)
  intro _ _
  apply Avoids.bind (avoids_require hliquidity)
  intro _ _
  apply Avoids.ite
  · intro _
    exact safeShl_noPanic.bind fun _ _ => safeSub_noPanic.bind fun _ _ => safeCast_noPanic
  · intro _
    apply Avoids.ite fun _ => avoids_ok _
    intro _
    exact safeMul_noPanic.bind fun _ _ => safeSub_noPanic.bind fun _ _ =>
      (avoids_orThrow (by intro h; cases h)).bind fun _ _ => safeCast_noPanic

end NoPanic

end DynamicBondingCurve
