import DynamicBondingCurve.Curve
import DynamicBondingCurve.Library.Ladder

/-!
# The exact amounts of a price interval

What a segment of liquidity `L` exchanges between the square-root prices `a` and `b`, before and
after the rounding of the program. These are the costs that the curve, read as a ladder of
segments, is climbed with.

* `quoteExact`, `baseExact`: the exact amounts (the quote one scaled by `2 ^ 128`).
* `quoteUp`, `baseUp`: the same rounded up to whole tokens; `baseDown`: the base rounded down.
* `quoteIn_move`, `baseOut_move`: **a buy inside a segment** ends inside it, is paid for in full
  and never gives out more base than the interval holds.
* `baseIn_move`, `quoteOut_move`: the same for a sell.
* the `_up`, `_down` and `_ok` lemmas: a call whose result fits its type succeeds.
-/

namespace DynamicBondingCurve

open Library

/-- Scaled quote amount of an interval.
Source: `curve.rs` `get_delta_amount_quote_unsigned_unchecked`, before the rounding -/
def quoteExact (L a b : ℕ) : ℕ := L * (b - a)

/-- Quote amount of an interval, rounded up.
Source: `curve.rs` `get_delta_amount_quote_unsigned_unchecked`, `Rounding::Up` -/
def quoteUp (L a b : ℕ) : ℕ := quoteExact L a b ⌈/⌉ 2 ^ 128

/-- Base amount of an interval.
Source: `curve.rs` `get_delta_amount_base_unsigned_unchecked`, before the rounding -/
def baseExact (L a b : ℕ) : ℚ := L * (1 / a - 1 / b)

/-- Base amount of an interval, rounded up.
Source: `curve.rs` `get_delta_amount_base_unsigned_unchecked`, `Rounding::Up` -/
def baseUp (L a b : ℕ) : ℕ := (L * (b - a)) ⌈/⌉ (a * b)

/-- Base amount of an interval, rounded down.
Source: `curve.rs` `get_delta_amount_base_unsigned_unchecked`, `Rounding::Down` -/
def baseDown (L a b : ℕ) : ℕ := L * (b - a) / (a * b)

/-! ## How the costs add up -/

section Costs

variable {L a b c : ℕ}

/-- No move costs no quote. -/
theorem quoteExact_self (L a : ℕ) : quoteExact L a a = 0 := by
  simp [quoteExact]

/-- The exact quote of two moves in a row adds up. -/
theorem quoteExact_add (L : ℕ) {a b c : ℕ} (hab : a ≤ b) (hbc : b ≤ c) :
    quoteExact L a c = quoteExact L a b + quoteExact L b c := by
  unfold quoteExact
  rw [← Nat.mul_add]
  congr 1
  omega

/-- A move that goes further costs more, exactly. -/
theorem quoteExact_mono (L : ℕ) {a b c : ℕ} (hbc : b ≤ c) :
    quoteExact L a b ≤ quoteExact L a c :=
  Nat.mul_le_mul_left L (Nat.sub_le_sub_right hbc a)

/-- No move costs no quote, rounded up either. -/
theorem quoteUp_self (L a : ℕ) : quoteUp L a a = 0 := by
  simp [quoteUp, quoteExact_self]

/-- Rounding up twice charges at least as much as rounding up once. -/
theorem quoteUp_add_le (L : ℕ) {a b c : ℕ} (hab : a ≤ b) (hbc : b ≤ c) :
    quoteUp L a c ≤ quoteUp L a b + quoteUp L b c := by
  unfold quoteUp
  rw [quoteExact_add L hab hbc]
  exact ceilDiv_add_le _ _ (by positivity)

/-- A move that goes further costs more, rounded up. -/
theorem quoteUp_mono (L : ℕ) {a b c : ℕ} (hbc : b ≤ c) : quoteUp L a b ≤ quoteUp L a c :=
  ceilDiv_mono (quoteExact_mono L hbc) _

/-- A move that starts later costs less, rounded up. -/
theorem quoteUp_anti (L : ℕ) {a b c : ℕ} (hab : a ≤ b) : quoteUp L b c ≤ quoteUp L a c :=
  ceilDiv_mono (Nat.mul_le_mul_left L (Nat.sub_le_sub_left hab c)) _

/-- The rounded quote covers the exact one. -/
theorem quoteExact_le_mul_quoteUp (L a b : ℕ) : quoteExact L a b ≤ 2 ^ 128 * quoteUp L a b :=
  le_mul_ceilDiv _ (by positivity)

/-- No move yields no base. -/
theorem baseExact_self (L a : ℕ) : baseExact L a a = 0 := by
  simp [baseExact]

/-- The exact base of two moves in a row adds up. -/
theorem baseExact_add (L a b c : ℕ) : baseExact L a c = baseExact L a b + baseExact L b c := by
  unfold baseExact
  ring

/-- Over a positive price the exact base amount is the quotient the program rounds.
Source: `curve.rs` `get_delta_amount_base_unsigned`, the formula of its comment -/
theorem baseExact_eq_div (ha : 0 < a) (hab : a ≤ b) :
    baseExact L a b = (L * (b - a) : ℕ) / (a * b : ℕ) := by
  have ha' : (a : ℚ) ≠ 0 := by positivity
  have hb' : (b : ℚ) ≠ 0 := by
    have : 0 < b := by omega
    positivity
  unfold baseExact
  push_cast [Nat.cast_sub hab]
  field_simp

/-- A move up yields some base, exactly. -/
theorem baseExact_pos (hL : 0 < L) (ha : 0 < a) (hab : a < b) : 0 < baseExact L a b := by
  have hb : 0 < b := by omega
  have hsub : 0 < b - a := by omega
  rw [baseExact_eq_div ha hab.le]
  have hnum : 0 < L * (b - a) := Nat.mul_pos hL hsub
  have hden : 0 < a * b := Nat.mul_pos ha hb
  positivity

/-- No move up yields less than nothing. -/
theorem baseExact_nonneg (ha : 0 < a) (hab : a ≤ b) : 0 ≤ baseExact L a b := by
  rw [baseExact_eq_div ha hab]
  positivity

/-- Rounded up, a move yields at least the exact base. -/
theorem baseExact_le_baseUp (ha : 0 < a) (hab : a ≤ b) : baseExact L a b ≤ baseUp L a b := by
  have hden : 0 < a * b := Nat.mul_pos ha (by omega)
  have hup : L * (b - a) ≤ baseUp L a b * (a * b) := by
    rw [Nat.mul_comm (baseUp L a b)]
    exact le_mul_ceilDiv _ hden
  rw [baseExact_eq_div ha hab, div_le_iff₀ (by exact_mod_cast hden)]
  exact_mod_cast hup

/-- A move that goes further yields more, exactly. -/
theorem baseExact_mono (ha : 0 < b) (hbc : b ≤ c) : baseExact L a b ≤ baseExact L a c := by
  rw [baseExact_add L a b c]
  exact le_add_of_nonneg_right (baseExact_nonneg ha hbc)

/-- A move that goes further yields more, rounded up. -/
theorem baseUp_mono (L : ℕ) {a b c : ℕ} (hab : a ≤ b) (hbc : b ≤ c) :
    baseUp L a b ≤ baseUp L a c := by
  rcases Nat.eq_zero_or_pos a with rfl | ha
  · simp [baseUp]
  · have hb : 0 < b := by omega
    have hc : 0 < c := by omega
    have hup : L * (c - a) ≤ a * c * baseUp L a c := le_mul_ceilDiv _ (Nat.mul_pos ha hc)
    have hcross : (b - a) * c ≤ (c - a) * b := by
      obtain ⟨x, rfl⟩ := Nat.exists_eq_add_of_le hab
      obtain ⟨y, rfl⟩ := Nat.exists_eq_add_of_le hbc
      have h1 : a + x - a = x := by omega
      have h2 : a + x + y - a = x + y := by omega
      rw [h1, h2]
      nlinarith [Nat.zero_le (a * y)]
    refine (ceilDiv_le_iff (Nat.mul_pos ha hb)).mpr (Nat.le_of_mul_le_mul_right ?_ hc)
    calc L * (b - a) * c = L * ((b - a) * c) := by ring
      _ ≤ L * ((c - a) * b) := Nat.mul_le_mul_left L hcross
      _ = L * (c - a) * b := by ring
      _ ≤ a * c * baseUp L a c * b := Nat.mul_le_mul_right b hup
      _ = a * b * baseUp L a c * c := by ring

/-- The base amount rounded down is at most the exact one. -/
theorem baseDown_le_baseExact (ha : 0 < a) (hab : a ≤ b) :
    ((L * (b - a) / (a * b) : ℕ) : ℚ) ≤ baseExact L a b := by
  rw [baseExact_eq_div ha hab]
  exact Nat.cast_div_le

/-- No move yields no base, rounded down either. -/
theorem baseDown_self (L a : ℕ) : baseDown L a a = 0 := by
  simp [baseDown]

/-- An amount is within the rounded-down base of an interval when the exact base holds it. -/
theorem le_baseDown_iff {n : ℕ} (ha : 0 < a) (hab : a ≤ b) :
    n ≤ baseDown L a b ↔ (n : ℚ) ≤ baseExact L a b := by
  have hden : 0 < a * b := Nat.mul_pos ha (by omega)
  rw [baseDown, baseExact_eq_div ha hab, Nat.le_div_iff_mul_le hden,
    le_div_iff₀ (by exact_mod_cast hden)]
  exact_mod_cast Iff.rfl

/-- A move that goes further yields more, rounded down. -/
theorem baseDown_mono (L : ℕ) {a b c : ℕ} (hab : a ≤ b) (hbc : b ≤ c) :
    baseDown L a b ≤ baseDown L a c := by
  rcases Nat.eq_zero_or_pos a with rfl | ha
  · simp [baseDown]
  · rw [le_baseDown_iff ha (hab.trans hbc)]
    calc (baseDown L a b : ℚ) ≤ baseExact L a b := baseDown_le_baseExact ha hab
      _ ≤ baseExact L a c := baseExact_mono (ha.trans_le hab) hbc

/-- A move that starts later yields less, rounded down. -/
theorem baseDown_anti (L : ℕ) {a b c : ℕ} (ha : 0 < a) (hab : a ≤ b) (hbc : b ≤ c) :
    baseDown L b c ≤ baseDown L a c := by
  rw [le_baseDown_iff ha (hab.trans hbc), baseExact_add L a b c]
  calc (baseDown L b c : ℚ) ≤ baseExact L b c := baseDown_le_baseExact (ha.trans_le hab) hbc
    _ ≤ baseExact L a b + baseExact L b c := le_add_of_nonneg_left (baseExact_nonneg ha hab)

/-- Two intervals end to end, each rounded down, hold at most what the whole interval holds. -/
theorem baseDown_add_le (L : ℕ) {a b c : ℕ} (ha : 0 < a) (hab : a ≤ b) (hbc : b ≤ c) :
    baseDown L a b + baseDown L b c ≤ baseDown L a c := by
  rw [le_baseDown_iff ha (hab.trans hbc), baseExact_add L a b c, Nat.cast_add]
  apply add_le_add
  · exact baseDown_le_baseExact ha hab
  · exact baseDown_le_baseExact (ha.trans_le hab) hbc

/-- Rounding down yields at most what rounding up does. -/
theorem baseDown_le_baseUp (ha : 0 < a) (hab : a ≤ b) : baseDown L a b ≤ baseUp L a b := by
  have h : (baseDown L a b : ℚ) ≤ baseUp L a b :=
    (baseDown_le_baseExact ha hab).trans (baseExact_le_baseUp ha hab)
  exact_mod_cast h

end Costs

/-! ## Moves inside a segment -/

section Moves

variable {L p lo hi amount next : ℕ}

/-- **Quote paid in.** An amount short of the rounded-up cost up to `hi` moves the price to a
point below `hi` whose rounded-up cost the amount covers.
Source: `curve.rs` `get_next_sqrt_price_from_quote_amount_in_rounding_down` -/
theorem quoteIn_move (hL : 0 < L) (hshort : amount < quoteUp L p hi)
    (hnext : next = p + amount * 2 ^ 128 / L) :
    p ≤ next ∧ next ≤ hi ∧ quoteUp L p next ≤ amount := by
  have hlt : amount * 2 ^ 128 < L * (hi - p) := by
    by_contra hcon
    have hle : quoteUp L p hi ≤ amount := by
      refine (ceilDiv_le_iff (by positivity)).mpr ?_
      rw [Nat.mul_comm]
      exact not_lt.mp hcon
    omega
  have hstep : amount * 2 ^ 128 / L ≤ hi - p := by
    rw [Nat.div_le_iff_le_mul_add_pred hL]
    omega
  have hpos : 0 < hi - p := by
    by_contra hcon
    have hzero : hi - p = 0 := by omega
    rw [hzero, Nat.mul_zero] at hlt
    exact absurd hlt (Nat.not_lt_zero _)
  have hback : L * (amount * 2 ^ 128 / L) ≤ 2 ^ 128 * amount := by
    rw [Nat.mul_comm (2 ^ 128) amount]
    exact Nat.mul_div_le _ _
  generalize amount * 2 ^ 128 / L = moved at hnext hstep hback
  subst hnext
  refine ⟨by omega, by omega, (ceilDiv_le_iff (by positivity)).mpr ?_⟩
  rw [quoteExact, Nat.add_sub_cancel_left]
  exact hback

/-- **Base paid out.** An amount short of the rounded-down holding up to `hi` moves the price to
a point below `hi`, and the interval moved through holds the amount.
Source: `curve.rs` `get_next_sqrt_price_from_base_amount_out_rounding_up` -/
theorem baseOut_move (hp : 0 < p) (hphi : p ≤ hi) (hden : amount * p < L)
    (hshort : amount ≤ L * (hi - p) / (p * hi))
    (hnext : next = (L * p) ⌈/⌉ (L - amount * p)) :
    p ≤ next ∧ next ≤ hi ∧ (amount : ℚ) ≤ baseExact L p next := by
  have hdenpos : 0 < L - amount * p := by omega
  have hhi : 0 < hi := by omega
  have hmul : amount * (p * hi) ≤ L * (hi - p) :=
    (Nat.le_div_iff_mul_le (Nat.mul_pos hp hhi)).mp hshort
  have hup : L * p ≤ (L - amount * p) * next := by
    rw [hnext]
    exact le_mul_ceilDiv _ hdenpos
  have hpnext : p ≤ next := by
    have h1 : (L - amount * p) * p ≤ (L - amount * p) * next :=
      (Nat.mul_le_mul_right p (Nat.sub_le L _)).trans hup
    exact Nat.le_of_mul_le_mul_left h1 hdenpos
  have hnextpos : 0 < next := by omega
  refine ⟨hpnext, ?_, ?_⟩
  · rw [hnext, ceilDiv_le_iff hdenpos]
    have hexp : L * p + amount * (p * hi) ≤ L * hi := by
      calc L * p + amount * (p * hi) ≤ L * p + L * (hi - p) := by omega
        _ = L * hi := by rw [← Nat.mul_add]; congr 1; omega
    rw [Nat.sub_mul, Nat.mul_assoc amount p hi]
    omega
  · have hkey : amount * (p * next) ≤ L * (next - p) := by
      rw [Nat.sub_mul, Nat.mul_assoc amount p next] at hup
      rw [Nat.mul_sub]
      have hle : amount * (p * next) ≤ L * next := by
        calc amount * (p * next) = amount * p * next := by ring
          _ ≤ L * next := Nat.mul_le_mul_right next hden.le
      omega
    have hdpos : (0 : ℚ) < (p * next : ℕ) := by exact_mod_cast Nat.mul_pos hp hnextpos
    rw [baseExact_eq_div hp hpnext, le_div_iff₀ hdpos]
    exact_mod_cast hkey

/-- **Base paid in.** The price moves down, and the interval moved through holds at most the
amount paid; short of the rounded-up holding down to `lo` it stays above `lo`.
Source: `curve.rs` `get_next_sqrt_price_from_base_amount_in_rounding_up` -/
theorem baseIn_move (lo : ℕ) (hL : 0 < L) (hp : 0 < p)
    (hnext : next = (L * p) ⌈/⌉ (L + amount * p)) :
    0 < next ∧ next ≤ p ∧ baseExact L next p ≤ amount ∧
      (0 < lo → lo ≤ p → amount < baseUp L lo p → lo ≤ next) := by
  have hdenpos : 0 < L + amount * p := by omega
  have hup : L * p ≤ (L + amount * p) * next := by
    rw [hnext]
    exact le_mul_ceilDiv _ hdenpos
  have hnextpos : 0 < next := by
    by_contra hcon
    have hzero : next = 0 := by omega
    rw [hzero, Nat.mul_zero] at hup
    have : 0 < L * p := Nat.mul_pos hL hp
    omega
  have hnextp : next ≤ p := by
    rw [hnext, ceilDiv_le_iff hdenpos, Nat.add_mul]
    omega
  refine ⟨hnextpos, hnextp, ?_, fun hlo hlop hshort => ?_⟩
  · have hkey : L * (p - next) ≤ amount * (next * p) := by
      rw [Nat.add_mul] at hup
      rw [Nat.mul_sub]
      have hcomm : amount * p * next = amount * (next * p) := by ring
      omega
    have hdpos : (0 : ℚ) < (next * p : ℕ) := by exact_mod_cast Nat.mul_pos hnextpos hp
    rw [baseExact_eq_div hnextpos hnextp, div_le_iff₀ hdpos]
    exact_mod_cast hkey
  · by_contra hcon
    have hlt : next < lo := not_le.mp hcon
    have hle : L * (p - lo) ≤ lo * p * amount := by
      have h1 : (L + amount * p) * next ≤ (L + amount * p) * lo := Nat.mul_le_mul_left _ hlt.le
      have h2 : L * p ≤ L * lo + amount * p * lo := by
        rw [← Nat.add_mul]
        exact hup.trans h1
      rw [Nat.mul_sub]
      have hcomm : amount * p * lo = lo * p * amount := by ring
      omega
    have : baseUp L lo p ≤ amount :=
      (ceilDiv_le_iff (Nat.mul_pos hlo (by omega))).mpr hle
    omega

/-- **Quote paid out.** An amount within the rounded-down holding down to `lo` moves the price
to a point above `lo`, and the interval moved through holds the amount.
Source: `curve.rs` `get_next_sqrt_price_from_quote_amount_out_rounding_down` -/
theorem quoteOut_move (hL : 0 < L) (hlop : lo ≤ p)
    (hshort : amount ≤ quoteExact L lo p / 2 ^ 128)
    (hnext : next = p - (amount * 2 ^ 128) ⌈/⌉ L) :
    lo ≤ next ∧ next ≤ p ∧ 2 ^ 128 * amount ≤ quoteExact L next p := by
  have hmul : amount * 2 ^ 128 ≤ L * (p - lo) :=
    (Nat.le_div_iff_mul_le (by positivity)).mp hshort
  have hstep : (amount * 2 ^ 128) ⌈/⌉ L ≤ p - lo := (ceilDiv_le_iff hL).mpr hmul
  have hback : 2 ^ 128 * amount ≤ L * ((amount * 2 ^ 128) ⌈/⌉ L) := by
    rw [Nat.mul_comm (2 ^ 128) amount]
    exact le_mul_ceilDiv _ hL
  generalize (amount * 2 ^ 128) ⌈/⌉ L = moved at hnext hstep hback
  subst hnext
  refine ⟨by omega, by omega, ?_⟩
  have hsub : p - (p - moved) = moved := by omega
  rw [quoteExact, hsub]
  exact hback

/-- **The step of an amount paid in is the longest it pays for.**
Source: `curve.rs` `get_next_sqrt_price_from_quote_amount_in_rounding_down` -/
theorem quoteUp_le_iff (hL : 0 < L) :
    quoteUp L p hi ≤ amount ↔ hi ≤ p + amount * 2 ^ 128 / L := by
  rw [quoteUp, ceilDiv_le_iff (by positivity), quoteExact]
  calc L * (hi - p) ≤ 2 ^ 128 * amount ↔ (hi - p) * L ≤ amount * 2 ^ 128 := by
        rw [Nat.mul_comm L, Nat.mul_comm amount]
    _ ↔ hi - p ≤ amount * 2 ^ 128 / L := (Nat.le_div_iff_mul_le hL).symm
    _ ↔ hi ≤ p + amount * 2 ^ 128 / L := Nat.sub_le_iff_le_add'

/-- An amount held by an interval leaves some of its liquidity.
Source: `curve.rs` `get_next_sqrt_price_from_base_amount_out_rounding_up`, the denominator -/
theorem mul_lt_of_le_baseDown (hL : 0 < L) (hp : 0 < p) (hphi : p ≤ hi)
    (hheld : amount ≤ baseDown L p hi) : amount * p < L := by
  have hhi : 0 < hi := by omega
  have hmul : amount * (p * hi) ≤ L * (hi - p) :=
    (Nat.le_div_iff_mul_le (Nat.mul_pos hp hhi)).mp hheld
  have hlt : L * (hi - p) < L * hi := Nat.mul_lt_mul_of_pos_left (by omega) hL
  have : amount * p * hi < L * hi := by
    rw [Nat.mul_assoc]
    omega
  exact Nat.lt_of_mul_lt_mul_right this

end Moves

/-! ## Calls that succeed -/

section Calls

variable {L a b p amount : ℕ}

/-- The product of a liquidity and a difference of prices fits 256 bits. -/
theorem mul_sub_lt (hL : L < 2 ^ 128) (hb : b < 2 ^ 128) : L * (b - a) < 2 ^ 256 := by
  calc L * (b - a) ≤ (2 ^ 128 - 1) * (2 ^ 128 - 1) := Nat.mul_le_mul (by omega) (by omega)
    _ < 2 ^ 256 := by norm_num

/-- The quote of a move up, rounded up, is computed. -/
theorem getDeltaAmountQuoteUnsigned256_up (hab : a ≤ b) (hL : L < 2 ^ 128) (hb : b < 2 ^ 128) :
    getDeltaAmountQuoteUnsigned256 a b L .up = .ok (quoteUp L a b) := by
  simp only [getDeltaAmountQuoteUnsigned256, getDeltaAmountQuoteUnsignedUnchecked, bind_eq_ok,
    rawSub_eq_ok, safeMul_eq_ok, safeShl_eq_ok, pure_eq_ok]
  refine ⟨b - a, ⟨hab, rfl⟩, L * (b - a), ⟨mul_sub_lt hL hb, rfl⟩, 2 ^ 128, ⟨?_, ?_⟩, ?_⟩
  · norm_num [RESOLUTION]
  · norm_num [RESOLUTION]
  · rw [quoteUp, quoteExact]

/-- The quote of a move up, rounded up, is computed when it fits. -/
theorem getDeltaAmountQuoteUnsigned_up (hab : a ≤ b) (hL : L < 2 ^ 128) (hb : b < 2 ^ 128)
    (hfit : quoteUp L a b < 2 ^ 64) :
    getDeltaAmountQuoteUnsigned a b L .up = .ok (quoteUp L a b) := by
  simp only [getDeltaAmountQuoteUnsigned, bind_eq_ok, exists_unit, require_eq_ok, safeCast_eq_ok]
  exact ⟨_, getDeltaAmountQuoteUnsigned256_up hab hL hb, Nat.le_sub_one_of_lt hfit, hfit, rfl⟩

/-- The base of a move up, rounded down, is computed. -/
theorem getDeltaAmountBaseUnsigned256_down (ha : 0 < a) (hab : a ≤ b) (hL : L < 2 ^ 128)
    (hb : b < 2 ^ 128) : getDeltaAmountBaseUnsigned256 a b L .down = .ok (baseDown L a b) := by
  have hmul : L * (b - a) < 2 ^ 256 := mul_sub_lt hL hb
  have hden : a * b < 2 ^ 256 := by
    have := mul_sub_lt (a := 0) (hab.trans_lt hb) hb
    rwa [Nat.sub_zero] at this
  have hpos : 0 < a * b := Nat.mul_pos ha (by omega)
  have hquot : L * (b - a) / (a * b) < 2 ^ 256 := (Nat.div_le_self _ _).trans_lt hmul
  simp only [getDeltaAmountBaseUnsigned256, getDeltaAmountBaseUnsignedUnchecked, bind_eq_ok,
    exists_unit, require_eq_ok, rawSub_eq_ok, safeMul_eq_ok, orThrow_eq_ok]
  exact ⟨_, ⟨hab, rfl⟩, _, ⟨hden, rfl⟩, hpos, mulDivU256_of_lt hpos hmul hquot⟩

/-- The base of a move up, rounded down, is computed when it fits. -/
theorem getDeltaAmountBaseUnsigned_down (ha : 0 < a) (hab : a ≤ b) (hL : L < 2 ^ 128)
    (hb : b < 2 ^ 128) (hfit : baseDown L a b < 2 ^ 64) :
    getDeltaAmountBaseUnsigned a b L .down = .ok (baseDown L a b) := by
  simp only [getDeltaAmountBaseUnsigned, bind_eq_ok, exists_unit, require_eq_ok, safeCast_eq_ok]
  exact ⟨_, getDeltaAmountBaseUnsigned256_down ha hab hL hb, Nat.le_sub_one_of_lt hfit, hfit, rfl⟩

/-- The base of a move up, rounded up, is computed when it fits. -/
theorem getDeltaAmountBaseUnsigned_up (ha : 0 < a) (hab : a ≤ b) (hL : L < 2 ^ 128)
    (hb : b < 2 ^ 128) (hfit : baseUp L a b < 2 ^ 64) :
    getDeltaAmountBaseUnsigned a b L .up = .ok (baseUp L a b) := by
  have hden : a * b < 2 ^ 256 := by
    have := mul_sub_lt (a := 0) (hab.trans_lt hb) hb
    rwa [Nat.sub_zero] at this
  have hpos : 0 < a * b := Nat.mul_pos ha (by omega)
  have hquot : baseUp L a b < 2 ^ 256 := hfit.trans (by norm_num)
  have hwide : getDeltaAmountBaseUnsigned256 a b L .up = .ok (baseUp L a b) := by
    simp only [getDeltaAmountBaseUnsigned256, getDeltaAmountBaseUnsignedUnchecked, bind_eq_ok,
      exists_unit, require_eq_ok, rawSub_eq_ok, safeMul_eq_ok, orThrow_eq_ok]
    exact ⟨_, ⟨hab, rfl⟩, _, ⟨hden, rfl⟩, hpos, mulDivU256_of_lt hpos (mul_sub_lt hL hb) hquot⟩
  simp only [getDeltaAmountBaseUnsigned, bind_eq_ok, exists_unit, require_eq_ok, safeCast_eq_ok]
  exact ⟨_, hwide, Nat.le_sub_one_of_lt hfit, hfit, rfl⟩

/-- The price after an amount of quote comes in, when it fits. -/
theorem getNextSqrtPriceFromInput_quote_ok (hp : 0 < p) (hL : 0 < L) (hamount : amount < 2 ^ 64)
    (hfit : p + amount * 2 ^ 128 / L < 2 ^ 128) :
    getNextSqrtPriceFromInput p L amount false = .ok (p + amount * 2 ^ 128 / L) := by
  simp only [getNextSqrtPriceFromInput, getNextSqrtPriceFromQuoteAmountInRoundingDown, bind_eq_ok,
    exists_unit, require_eq_ok, safeShl_eq_ok, safeDiv_eq_ok, safeAdd_eq_ok, safeCast_eq_ok,
    Bool.false_eq_true, if_false]
  have hshift : amount * 2 ^ (RESOLUTION * 2) = amount * 2 ^ 128 := by
    norm_num [RESOLUTION]
  refine ⟨hp, hL, amount * 2 ^ 128, ⟨?_, hshift.symm⟩, amount * 2 ^ 128 / L, ⟨hL.ne', rfl⟩,
    p + amount * 2 ^ 128 / L, ⟨hfit.trans (by norm_num), rfl⟩, hfit, rfl⟩
  rw [hshift]
  omega

/-- The price after an amount of base goes out, when the curve holds it and the price fits. -/
theorem getNextSqrtPriceFromOutput_base_ok (hp : 0 < p) (hL : L < 2 ^ 128)
    (hden : amount * p < L) (hfit : (L * p) ⌈/⌉ (L - amount * p) < 2 ^ 128) (hp' : p < 2 ^ 128) :
    getNextSqrtPriceFromOutput p L amount false = .ok ((L * p) ⌈/⌉ (L - amount * p)) := by
  have hpos : 0 < L := by omega
  simp only [getNextSqrtPriceFromOutput, getNextSqrtPriceFromBaseAmountOutRoundingUp, bind_eq_ok,
    exists_unit, require_eq_ok, Bool.false_eq_true, if_false]
  refine ⟨hp, hpos, ?_⟩
  split_ifs with hzero
  · subst hzero
    rw [pure_eq_ok, Nat.zero_mul, Nat.sub_zero]
    simpa using (smul_ceilDiv hpos p).symm
  · simp only [bind_eq_ok, safeMul_eq_ok, safeSub_eq_ok, orThrow_eq_ok, safeCast_eq_ok]
    refine ⟨_, ⟨by omega, rfl⟩, _, ⟨hden.le, rfl⟩, _, ?_, hfit, rfl⟩
    have hmul : L * p < 2 ^ 256 := by
      have := mul_sub_lt (a := 0) hL hp'
      rwa [Nat.sub_zero] at this
    exact mulDivU256_of_lt (by omega) hmul (hfit.trans (by norm_num))

end Calls

end DynamicBondingCurve
