import DynamicBondingCurve.MigrationHandler
import DynamicBondingCurve.Amounts

/-!
# Where a concentrated pool opens

A sale that migrates into a pool over the whole price range offers its real quote, up to the cap,
and the base that the liquidity of that quote takes at the live price, rounded up. The protocol then
takes its share of the quote, rounded down, and the base that goes with that share, rounded down.

* `liquidityFromQuote`, `liquidityFromBase`: the liquidity that each side of a deposit pays for.
* `liquidityFromQuote_sub_le`, `base_covers`: what the protocol's share leaves of the two sides.
* `MigrationHandler.concentratedOpening`: **what is left of the base pays for the liquidity of what
  is left of the quote**, so the pool opens with it and takes at most what is offered.
-/

namespace DynamicBondingCurve

open Library

/-! ## The two sides of a deposit -/

/-- The liquidity that a quote amount pays for between the least price and `price`.
Source: `migration_handler/concentrated_liquidity.rs` `get_initial_liquidity_from_delta_quote` -/
def liquidityFromQuote (quote price : ℕ) : ℕ := quote * 2 ^ 128 / (price - MIN_SQRT_PRICE)

/-- The liquidity that a base amount pays for between `price` and the greatest price.
Source: `migration_handler/concentrated_liquidity.rs` `get_initial_liquidity_from_delta_base` -/
def liquidityFromBase (base price : ℕ) : ℕ :=
  base * price * MAX_SQRT_PRICE / (MAX_SQRT_PRICE - price)

section Sides

variable {base baseFee quote quoteFee price liquidity feeLiquidity L : ℕ}

/-- When the liquidity of an amount of quote is computed, and what it is.
Source: `migration_handler/concentrated_liquidity.rs` `get_initial_liquidity_from_delta_quote` -/
theorem getInitialLiquidityFromDeltaQuote_eq_ok :
    getInitialLiquidityFromDeltaQuote quote MIN_SQRT_PRICE price = .ok L ↔
      MIN_SQRT_PRICE < price ∧ quote * 2 ^ 128 < 2 ^ 256 ∧ L < 2 ^ 128 ∧
        L = liquidityFromQuote quote price := by
  simp only [getInitialLiquidityFromDeltaQuote, bind_eq_ok, safeSub_eq_ok, safeShl_eq_ok,
    safeDiv_eq_ok, safeCast_eq_ok]
  constructor
  · rintro ⟨delta, ⟨_, hdelta⟩, shifted, ⟨hshift, hshifted⟩, quotient, ⟨hzero, hquotient⟩, hfit, hL⟩
    rw [hdelta] at hzero hquotient
    rw [hshifted] at hquotient
    rw [← hL] at hfit
    exact ⟨Nat.lt_of_sub_ne_zero hzero, hshift, hfit, hL.trans hquotient⟩
  · rintro ⟨hprice, hshift, hfit, hL⟩
    exact ⟨_, ⟨hprice.le, rfl⟩, _, ⟨hshift, rfl⟩, L, ⟨Nat.sub_ne_zero_of_lt hprice, hL⟩, hfit, rfl⟩

/-- Below the highest price the liquidity of an amount of base is computed.
Source: `migration_handler/concentrated_liquidity.rs` `get_initial_liquidity_from_delta_base` -/
theorem getInitialLiquidityFromDeltaBase_of_lt (hprice : price < MAX_SQRT_PRICE)
    (hbase : base < 2 ^ 64) :
    getInitialLiquidityFromDeltaBase base MAX_SQRT_PRICE price =
      .ok (liquidityFromBase base price) := by
  simp only [getInitialLiquidityFromDeltaBase, bind_eq_ok, safeSub_eq_ok, safeMul_eq_ok,
    safeDiv_eq_ok]
  have hmax : MAX_SQRT_PRICE < 2 ^ 96 := by decide
  have hmul : base * price < 2 ^ 64 * 2 ^ 96 := Nat.mul_lt_mul'' hbase (hprice.trans hmax)
  have hprod : base * price * MAX_SQRT_PRICE < 2 ^ 256 := by
    calc base * price * MAX_SQRT_PRICE < 2 ^ 64 * 2 ^ 96 * 2 ^ 96 := Nat.mul_lt_mul'' hmul hmax
      _ = 2 ^ 256 := by norm_num
  have hmul' : base * price < 2 ^ 256 := hmul.trans (by norm_num)
  refine ⟨_, ⟨hprice.le, rfl⟩, _, ⟨?_, rfl⟩, _, ⟨?_, rfl⟩, Nat.sub_ne_zero_of_lt hprice, rfl⟩
  · exact lt_two_pow_512 hmul'
  · exact lt_two_pow_512 hprod

/-- A smaller quote pays for less. -/
theorem liquidityFromQuote_mono {quote' : ℕ} (h : quote' ≤ quote) :
    liquidityFromQuote quote' price ≤ liquidityFromQuote quote price :=
  Nat.div_le_div_right (Nat.mul_le_mul_right _ h)

/-- What a share leaves of the quote pays for at most what it leaves of the liquidity. -/
theorem liquidityFromQuote_sub_add_le (h : quoteFee ≤ quote) :
    liquidityFromQuote (quote - quoteFee) price + liquidityFromQuote quoteFee price ≤
      liquidityFromQuote quote price := by
  unfold liquidityFromQuote
  calc (quote - quoteFee) * 2 ^ 128 / (price - MIN_SQRT_PRICE) +
        quoteFee * 2 ^ 128 / (price - MIN_SQRT_PRICE)
      ≤ ((quote - quoteFee) * 2 ^ 128 + quoteFee * 2 ^ 128) / (price - MIN_SQRT_PRICE) :=
        Nat.div_add_div_le_add_div
    _ = quote * 2 ^ 128 / (price - MIN_SQRT_PRICE) := by
        rw [← Nat.add_mul, Nat.sub_add_cancel h]

/-- The quote of a liquidity, rounded up, is at most the quote that paid for it.
Source: `curve.rs` `get_delta_amount_quote_unsigned`, `Rounding::Up` -/
theorem quoteUp_liquidityFromQuote_le :
    quoteUp (liquidityFromQuote quote price) MIN_SQRT_PRICE price ≤ quote := by
  rw [quoteUp, ceilDiv_le_iff (by norm_num), quoteExact, liquidityFromQuote, Nat.mul_comm (2 ^ 128)]
  exact Nat.div_mul_le_self _ _

/-- The base of a liquidity, less the base of the part of it that goes, still holds the part that
stays: the first is rounded up and the second is rounded down.
Source: `curve.rs` `get_delta_amount_base_unsigned` -/
theorem base_covers (hprice : 0 < price)
    (hL : L + feeLiquidity ≤ liquidity) :
    baseDown feeLiquidity price MAX_SQRT_PRICE ≤ baseUp liquidity price MAX_SQRT_PRICE ∧
      L * (MAX_SQRT_PRICE - price) ≤ price * MAX_SQRT_PRICE *
        (baseUp liquidity price MAX_SQRT_PRICE - baseDown feeLiquidity price MAX_SQRT_PRICE) := by
  have hden : 0 < price * MAX_SQRT_PRICE := Nat.mul_pos hprice (by decide)
  have hup : liquidity * (MAX_SQRT_PRICE - price) ≤
      price * MAX_SQRT_PRICE * baseUp liquidity price MAX_SQRT_PRICE :=
    le_mul_ceilDiv _ hden
  have hdown : price * MAX_SQRT_PRICE * baseDown feeLiquidity price MAX_SQRT_PRICE ≤
      feeLiquidity * (MAX_SQRT_PRICE - price) := Nat.mul_div_le _ _
  have hsum : L * (MAX_SQRT_PRICE - price) + feeLiquidity * (MAX_SQRT_PRICE - price) ≤
      liquidity * (MAX_SQRT_PRICE - price) := by
    rw [← Nat.add_mul]
    exact Nat.mul_le_mul_right _ hL
  constructor
  · apply Nat.le_of_mul_le_mul_left _ hden
    omega
  · rw [Nat.mul_sub (price * MAX_SQRT_PRICE)]
    omega

/-- A base that holds a liquidity pays for it.
Source: `migration_handler/concentrated_liquidity.rs` `get_initial_liquidity_from_delta_base` -/
theorem le_liquidityFromBase_iff (hhigh : price < MAX_SQRT_PRICE) :
    L ≤ liquidityFromBase base price ↔
      L * (MAX_SQRT_PRICE - price) ≤ price * MAX_SQRT_PRICE * base := by
  rw [liquidityFromBase, Nat.le_div_iff_mul_le (Nat.sub_pos_of_lt hhigh), Nat.mul_assoc base,
    Nat.mul_comm base]

/-- The pool opens with the liquidity of the quote when the base pays for it.
Source: `migration_handler/concentrated_liquidity.rs` `calculate_concentrated_initial_liquidity` -/
theorem calculateConcentratedInitialLiquidity_eq_quote (hhigh : price < MAX_SQRT_PRICE)
    (hbase : base < 2 ^ 64)
    (hquote : getInitialLiquidityFromDeltaQuote quote MIN_SQRT_PRICE price = .ok L)
    (hle : L ≤ liquidityFromBase base price) :
    calculateConcentratedInitialLiquidity base quote price = .ok L := by
  have hfit : L < 2 ^ 128 := (getInitialLiquidityFromDeltaQuote_eq_ok.mp hquote).2.2.1
  unfold calculateConcentratedInitialLiquidity
  refine bind_eq_ok.mpr ⟨_, getInitialLiquidityFromDeltaBase_of_lt hhigh hbase,
    bind_eq_ok.mpr ⟨_, hquote, ?_⟩⟩
  by_cases hlt : liquidityFromBase base price > L
  · rw [if_pos hlt]
    exact pure_eq_ok.mpr rfl
  · -- the two sides are equal, and the liquidity is read off the base
    have heq : liquidityFromBase base price = L := le_antisymm (not_lt.mp hlt) hle
    rw [if_neg hlt, heq]
    exact safeCast_eq_ok.mpr ⟨hfit, rfl⟩

end Sides

/-! ## The opening -/

namespace MigrationHandler

section Calls

variable {price quoteThreshold percentage bps base quote baseFee quoteFee : ℕ}

/-- The offer holds the base of the liquidity of its quote, rounded up.
Source: `migration_handler/concentrated_liquidity.rs`
`get_included_protocol_fee_migration_amounts_1` -/
theorem concentrated_amounts_spec
    (h : (concentratedLiquidity price).getIncludedProtocolFeeMigrationAmounts1 quoteThreshold
      percentage = .ok (base, quote)) :
    getInitialLiquidityFromDeltaQuote quote MIN_SQRT_PRICE price =
        .ok (liquidityFromQuote quote price) ∧
      base = baseUp (liquidityFromQuote quote price) price MAX_SQRT_PRICE ∧ base < 2 ^ 64 ∧
      quote < 2 ^ 64 := by
  simp only [getIncludedProtocolFeeMigrationAmounts1,
    calculatePostFeeMigrationQuoteAmount, bind_eq_ok, exists_unit, require_eq_ok,
    pure_eq_ok, safeCast_eq_ok, Prod.mk.injEq] at h
  obtain ⟨amount, ⟨_, _, quote', hquote, _, _, rfl⟩, liquidity, hliquidity, base256, hbase, _,
    base', ⟨hfit, rfl⟩, rfl, rfl⟩ := h
  obtain ⟨_, _, _, rfl⟩ := getInitialLiquidityFromDeltaQuote_eq_ok.mp hliquidity
  exact ⟨hliquidity, (getDeltaAmountBaseUnsigned256_spec hbase).2.2, hfit,
    (safeMulDivCastU64_eq_ok hquote).2.2⟩

/-- The protocol takes a share of the quote and the base of its liquidity, rounded down.
Source: `migration_handler/concentrated_liquidity.rs` `get_migration_protocol_fees` -/
theorem concentrated_fees_spec
    (h : (concentratedLiquidity price).getMigrationProtocolFees base quote bps =
      .ok (baseFee, quoteFee)) :
    quoteFee = quote * bps / BASIS_POINT_MAX ∧
      baseFee = baseDown (liquidityFromQuote quoteFee price) price MAX_SQRT_PRICE := by
  simp only [getMigrationProtocolFees, bind_eq_ok, pure_eq_ok, Prod.mk.injEq] at h
  obtain ⟨quoteFee', hfee, liquidity, hliquidity, baseFee', hbase, rfl, rfl⟩ := h
  obtain ⟨_, _, _, rfl⟩ := getInitialLiquidityFromDeltaQuote_eq_ok.mp hliquidity
  exact ⟨(safeMulDivCastU64_eq_ok hfee).2.1, (getDeltaAmountBaseUnsigned_spec hbase).2.2⟩

end Calls

/-- **A concentrated pool always opens with the liquidity of the quote.** At every price between the
bounds, once the offer and the protocol's share of it are computed: the share is at most the offer
on both sides; what is left opens a pool with the liquidity that the quote pays for, which the base
pays for too; and the amounts that this liquidity takes, rounded up, are at most what is left.
Source: `migration_handler/concentrated_liquidity.rs`
`get_included_protocol_fee_migration_amounts_1`, `get_migration_protocol_fees`,
`calculate_concentrated_initial_liquidity` -/
theorem concentratedOpening (price quoteThreshold percentage bps base quote baseFee quoteFee : ℕ)
    (hlow : MIN_SQRT_PRICE < price) (hhigh : price < MAX_SQRT_PRICE)
    (hbps : bps ≤ BASIS_POINT_MAX)
    (hamounts : (concentratedLiquidity price).getIncludedProtocolFeeMigrationAmounts1
      quoteThreshold percentage = .ok (base, quote))
    (hfees : (concentratedLiquidity price).getMigrationProtocolFees base quote bps =
      .ok (baseFee, quoteFee)) :
    baseFee ≤ base ∧ quoteFee ≤ quote ∧
      ∃ liquidity fromBase baseTaken quoteTaken,
        getInitialLiquidityFromDeltaQuote (quote - quoteFee) MIN_SQRT_PRICE price = .ok liquidity ∧
        getInitialLiquidityFromDeltaBase (base - baseFee) MAX_SQRT_PRICE price = .ok fromBase ∧
        liquidity ≤ fromBase ∧
        calculateConcentratedInitialLiquidity (base - baseFee) (quote - quoteFee) price =
          .ok liquidity ∧
        getDeltaAmountBaseUnsigned price MAX_SQRT_PRICE liquidity .up = .ok baseTaken ∧
        baseTaken ≤ base - baseFee ∧
        getDeltaAmountQuoteUnsigned MIN_SQRT_PRICE price liquidity .up = .ok quoteTaken ∧
        quoteTaken ≤ quote - quoteFee := by
  obtain ⟨hliquidity, hbase, hbasefit, hquotefit⟩ := concentrated_amounts_spec hamounts
  obtain ⟨hquoteFee, hbaseFee⟩ := concentrated_fees_spec hfees
  obtain ⟨-, hshift, hfit, -⟩ := getInitialLiquidityFromDeltaQuote_eq_ok.mp hliquidity
  have hquote : quoteFee ≤ quote := by
    rw [hquoteFee]
    apply Nat.div_le_of_le_mul
    rw [Nat.mul_comm]
    exact Nat.mul_le_mul_right quote hbps
  have hpos : 0 < price := (Nat.zero_le _).trans_lt hlow
  have hparts : liquidityFromQuote (quote - quoteFee) price + liquidityFromQuote quoteFee price ≤
      liquidityFromQuote quote price := liquidityFromQuote_sub_add_le hquote
  obtain ⟨hfee, hcovers⟩ := base_covers hpos hparts
  rw [← hbaseFee, ← hbase] at hfee hcovers
  generalize hrest : liquidityFromQuote (quote - quoteFee) price = liquidity at hcovers
  have hle : liquidity ≤ liquidityFromQuote quote price := by
    rw [← hrest]
    exact liquidityFromQuote_mono (Nat.sub_le _ _)
  have hside : getInitialLiquidityFromDeltaQuote (quote - quoteFee) MIN_SQRT_PRICE price =
      .ok liquidity := by
    apply getInitialLiquidityFromDeltaQuote_eq_ok.mpr
    refine ⟨hlow, ?_, hle.trans_lt hfit, hrest.symm⟩
    exact (Nat.mul_le_mul_right _ (Nat.sub_le _ _)).trans_lt hshift
  have hrestbase : base - baseFee < 2 ^ 64 := (Nat.sub_le _ _).trans_lt hbasefit
  have hpays := (le_liquidityFromBase_iff hhigh).mpr hcovers
  -- the amounts that the liquidity takes
  have hbaseTaken : baseUp liquidity price MAX_SQRT_PRICE ≤ base - baseFee := by
    rw [baseUp, ceilDiv_le_iff (Nat.mul_pos hpos (by decide))]
    exact hcovers
  have hquoteTaken : quoteUp liquidity MIN_SQRT_PRICE price ≤ quote - quoteFee := by
    rw [← hrest]
    exact quoteUp_liquidityFromQuote_le
  refine ⟨hfee, hquote, liquidity, _, _, _, hside,
    getInitialLiquidityFromDeltaBase_of_lt hhigh hrestbase, hpays,
    calculateConcentratedInitialLiquidity_eq_quote hhigh hrestbase hside hpays, ?_, hbaseTaken, ?_,
    hquoteTaken⟩
  · apply getDeltaAmountBaseUnsigned_up hpos hhigh.le
    · exact hle.trans_lt hfit
    · decide
    · exact hbaseTaken.trans_lt hrestbase
  · apply getDeltaAmountQuoteUnsigned_up hlow.le
    · exact hle.trans_lt hfit
    · exact hhigh.trans (by decide)
    · exact (hquoteTaken.trans (Nat.sub_le _ _)).trans_lt hquotefit

/-- A quote of a million with a migration fee of seven percent and a protocol share of twenty basis
points. -/
theorem concentratedOpening_million :
    1953 ≤ 976740 ∧ 1860 ≤ 930003 ∧
      ∃ liquidity fromBase baseTaken quoteTaken,
        getInitialLiquidityFromDeltaQuote (930003 - 1860) MIN_SQRT_PRICE 18000000000000000000 =
          .ok liquidity ∧
        getInitialLiquidityFromDeltaBase (976740 - 1953) MAX_SQRT_PRICE 18000000000000000000 =
          .ok fromBase ∧
        liquidity ≤ fromBase ∧
        calculateConcentratedInitialLiquidity (976740 - 1953) (930003 - 1860)
          18000000000000000000 = .ok liquidity ∧
        getDeltaAmountBaseUnsigned 18000000000000000000 MAX_SQRT_PRICE liquidity .up =
          .ok baseTaken ∧
        baseTaken ≤ 976740 - 1953 ∧
        getDeltaAmountQuoteUnsigned MIN_SQRT_PRICE 18000000000000000000 liquidity .up =
          .ok quoteTaken ∧
        quoteTaken ≤ 930003 - 1860 :=
  concentratedOpening 18000000000000000000 1000003 7 20 976740 930003 1953 1860 (by decide)
    (by decide) (by decide) (by decide +kernel) (by decide +kernel)

end MigrationHandler

end DynamicBondingCurve
