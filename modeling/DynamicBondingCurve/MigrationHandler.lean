import DynamicBondingCurve.State.Config

/-!
# The liquidity that a pool migrates into

When the sale is over the raised quote and some base seed a pool of another program. Two shapes
of liquidity decide how much base goes with a quote amount at a price: a constant product
(`CompoundingLiquidity`) and one spread over the whole price range (`ConcentratedLiquidity`).

* `MigrationHandler`: the dispatch, with the way to size the deposit that creation and migration
  share.
* `getIncludedProtocolFeeMigrationAmounts1_quote`: the quote of the deposit is what the
  migration fee leaves of the amount.
-/

namespace DynamicBondingCurve

open Library

/-- The liquidity that nobody owns in a constant product.
Source: `migration_handler/compounding_liquidity.rs` `DAMM_V2_COMPOUNDING_DEAD_LIQUIDITY` -/
def DAMM_V2_COMPOUNDING_DEAD_LIQUIDITY : ℕ := 100 * 2 ^ 64

/-- How a migrated pool takes its fees.
Source: `migration_handler/mod.rs` `MigratedCollectFeeMode` -/
inductive MigratedCollectFeeMode where
  | quoteToken
  | outputToken
  | compounding
  deriving DecidableEq, Repr

/-- The way of a migrated pool to take fees that a byte stands for.
Source: `migration_handler/mod.rs` `MigratedCollectFeeMode`, the conversion from its byte -/
def MigratedCollectFeeMode.tryFrom : ℕ → Option MigratedCollectFeeMode
  | 0 => some .quoteToken
  | 1 => some .outputToken
  | 2 => some .compounding
  | _ => none

/-- The liquidity that a migrated pool opens with, and the part of it that nobody owns.
Source: `migration_handler/mod.rs` `InitialPoolInformation` -/
structure InitialPoolInformation where
  sqrtPrice : ℕ
  distributableLiquidity : ℕ
  deadLiquidity : ℕ
  deriving DecidableEq, Repr

/-! ## The constant product -/

/-- The price and the liquidity of a constant product, if there are any.
Source: `migration_handler/compounding_liquidity.rs`
`calculate_compounding_initial_sqrt_price_and_liquidity` -/
def calculateCompoundingInitialSqrtPriceAndLiquidity (tokenAAmount tokenBAmount : ℕ) :
    Result (Option (ℕ × ℕ)) := do
  -- the wide division panics on a zero divisor
  assert (tokenAAmount ≠ 0)
  pure do
    let sqrtPrice1 ← sqrtU256 ((tokenBAmount * 2 ^ 128) ⌈/⌉ tokenAAmount)
    if sqrtPrice1 < 2 ^ 128 ∧ ¬ (sqrtPrice1 < MIN_SQRT_PRICE ∨ sqrtPrice1 > MAX_SQRT_PRICE) then do
      let sqrtPrice2 ← sqrtU256 (tokenBAmount * 2 ^ 128 / tokenAAmount)
      if sqrtPrice2 < 2 ^ 128 ∧ sqrtPrice2 * tokenAAmount < 2 ^ 128 then
        some (sqrtPrice1, sqrtPrice2 * tokenAAmount)
      else none
    else none

/-- The base that goes with an amount of quote in a constant product at a price.
Source: `migration_handler/compounding_liquidity.rs` `get_constant_product_base_from_quote` -/
def getConstantProductBaseFromQuote (quoteAmount sqrtMigrationPrice : ℕ) : Result ℕ := do
  let price ← safeMul 256 sqrtMigrationPrice sqrtMigrationPrice
  let quote ← safeShl 256 quoteAmount 128
  -- the wide division panics on a zero divisor
  assert (price ≠ 0)
  let base ← (if quote % price ≠ 0 then safeAdd 256 (quote / price) 1 else pure (quote / price))
  ensure (base ≤ u64Max) .mathOverflow
  pure base

namespace CompoundingLiquidity

/-- A constant product opens near its price and with enough liquidity.
Source: `migration_handler/compounding_liquidity.rs` `validate_initial_pool_information` -/
def validateInitialPoolInformation (baseAmount quoteAmount migrationSqrtPrice : ℕ) :
    Result Unit := do
  let initial ← calculateCompoundingInitialSqrtPriceAndLiquidity baseAmount quoteAmount
  let (sqrtPrice, totalLiquidity) ← orThrow initial (Fault.error .mathOverflow)
  ensure (sqrtPrice ≥ MIN_SQRT_PRICE ∧ sqrtPrice ≤ MAX_SQRT_PRICE) .invalidCompoundingParameters
  ensure (totalLiquidity > DAMM_V2_COMPOUNDING_DEAD_LIQUIDITY) .insufficientLiquidityForMigration
  let absDiff := max migrationSqrtPrice sqrtPrice - min migrationSqrtPrice sqrtPrice
  let scaled ← safeMul 128 absDiff 100
  ensure (scaled ≤ max migrationSqrtPrice sqrtPrice) .invalidCurve

/-- The protocol's part of a deposit, in both tokens.
Source: `migration_handler/compounding_liquidity.rs` `get_migration_protocol_fees` -/
def getMigrationProtocolFees (depositBaseAmount depositQuoteAmount migrationFeeBps : ℕ) :
    Result (ℕ × ℕ) := do
  let baseFeeAmount ← safeMulDivCastU64 depositBaseAmount migrationFeeBps BASIS_POINT_MAX .down
  let quoteFeeAmount ← safeMulDivCastU64 depositQuoteAmount migrationFeeBps BASIS_POINT_MAX .down
  pure (baseFeeAmount, quoteFeeAmount)

end CompoundingLiquidity

/-! ## Liquidity over the whole range -/

/-- The liquidity that an amount of base pays for, up to the highest price.
Source: `migration_handler/concentrated_liquidity.rs` `get_initial_liquidity_from_delta_base` -/
def getInitialLiquidityFromDeltaBase (baseAmount sqrtMaxPrice sqrtPrice : ℕ) : Result ℕ := do
  let priceDelta ← safeSub sqrtMaxPrice sqrtPrice
  let scaled ← safeMul 512 baseAmount sqrtPrice
  let prod ← safeMul 512 scaled sqrtMaxPrice
  safeDiv prod priceDelta

/-- The liquidity that an amount of quote pays for, from the lowest price on.
Source: `migration_handler/concentrated_liquidity.rs` `get_initial_liquidity_from_delta_quote` -/
def getInitialLiquidityFromDeltaQuote (quoteAmount sqrtMinPrice sqrtPrice : ℕ) : Result ℕ := do
  let priceDelta ← safeSub sqrtPrice sqrtMinPrice
  let shifted ← safeShl 256 quoteAmount 128
  let liquidity ← safeDiv shifted priceDelta
  safeCast 128 liquidity

/-- The liquidity over the whole range that both amounts pay for.
Source: `migration_handler/concentrated_liquidity.rs` `calculate_concentrated_initial_liquidity` -/
def calculateConcentratedInitialLiquidity (baseAmount quoteAmount migrationSqrtPrice : ℕ) :
    Result ℕ := do
  let liquidityFromBase ← getInitialLiquidityFromDeltaBase baseAmount MAX_SQRT_PRICE
    migrationSqrtPrice
  let liquidityFromQuote ← getInitialLiquidityFromDeltaQuote quoteAmount MIN_SQRT_PRICE
    migrationSqrtPrice
  if liquidityFromBase > liquidityFromQuote then pure liquidityFromQuote
  else safeCast 128 liquidityFromBase

/-! ## The dispatch -/

/-- The two kinds of migrated pool, with the price that the sale ended at.
Source: `migration_handler/mod.rs` `MigrationHandler`, the types that implement it -/
inductive MigrationHandler where
  | compoundingLiquidity (migrationSqrtPrice : ℕ)
  | concentratedLiquidity (migrationSqrtPrice : ℕ)
  deriving DecidableEq, Repr

/-- The kind of pool that a configuration migrates into.
Source: `migration_handler/mod.rs` `get_migration_handler` -/
def getMigrationHandler (migrationOption : MigrationOption)
    (migratedCollectFeeMode : MigratedCollectFeeMode) (migrationSqrtPrice : ℕ) :
    MigrationHandler :=
  if migrationOption = .meteoraDamm then .compoundingLiquidity migrationSqrtPrice
  else if migratedCollectFeeMode = .compounding then .compoundingLiquidity migrationSqrtPrice
  else .concentratedLiquidity migrationSqrtPrice

namespace MigrationHandler

/-- What a migrated pool of either kind opens with.
Source: `migration_handler/mod.rs` `get_initial_pool_information` -/
def getInitialPoolInformation (h : MigrationHandler) (baseAmount quoteAmount : ℕ) :
    Result InitialPoolInformation :=
  match h with
  | .compoundingLiquidity _ => do
      let initial ← calculateCompoundingInitialSqrtPriceAndLiquidity baseAmount quoteAmount
      let (sqrtPrice, totalLiquidity) ← orThrow initial (Fault.error .mathOverflow)
      let distributableLiquidity ← safeSub totalLiquidity DAMM_V2_COMPOUNDING_DEAD_LIQUIDITY
      pure
        { sqrtPrice := sqrtPrice
          distributableLiquidity := distributableLiquidity
          deadLiquidity := DAMM_V2_COMPOUNDING_DEAD_LIQUIDITY }
  | .concentratedLiquidity migrationSqrtPrice => do
      let liquidity ← calculateConcentratedInitialLiquidity baseAmount quoteAmount
        migrationSqrtPrice
      pure
        { sqrtPrice := migrationSqrtPrice
          distributableLiquidity := liquidity
          deadLiquidity := 0 }

/-- The protocol's part of a deposit into a pool of either kind.
Source: `migration_handler/mod.rs` `get_migration_protocol_fees` -/
def getMigrationProtocolFees (h : MigrationHandler)
    (depositBaseAmount depositQuoteAmount migrationFeeBps : ℕ) : Result (ℕ × ℕ) :=
  match h with
  | .compoundingLiquidity _ =>
      CompoundingLiquidity.getMigrationProtocolFees depositBaseAmount depositQuoteAmount
        migrationFeeBps
  | .concentratedLiquidity migrationSqrtPrice => do
      let quoteFeeAmount ← safeMulDivCastU64 depositQuoteAmount migrationFeeBps BASIS_POINT_MAX
        .down
      let feeLiquidity ← getInitialLiquidityFromDeltaQuote quoteFeeAmount MIN_SQRT_PRICE
        migrationSqrtPrice
      let baseFeeAmount ← getDeltaAmountBaseUnsigned migrationSqrtPrice MAX_SQRT_PRICE
        feeLiquidity .down
      pure (baseFeeAmount, quoteFeeAmount)

/-- The deposit for a quote amount, at the price of the handler.
Source: `migration_handler/mod.rs` `get_included_protocol_fee_migration_amounts_1` -/
def getIncludedProtocolFeeMigrationAmounts1 (h : MigrationHandler)
    (migrationQuoteThreshold migrationFeePercentage : ℕ) : Result (ℕ × ℕ) :=
  match h with
  | .compoundingLiquidity migrationSqrtPrice => do
      let amount ← calculatePostFeeMigrationQuoteAmount migrationQuoteThreshold
        migrationFeePercentage
      let baseAmount ← getConstantProductBaseFromQuote amount.quoteAmount migrationSqrtPrice
      pure (baseAmount, amount.quoteAmount)
  | .concentratedLiquidity migrationSqrtPrice => do
      let amount ← calculatePostFeeMigrationQuoteAmount migrationQuoteThreshold
        migrationFeePercentage
      let liquidity ← getInitialLiquidityFromDeltaQuote amount.quoteAmount MIN_SQRT_PRICE
        migrationSqrtPrice
      let baseAmount ← getDeltaAmountBaseUnsigned256 migrationSqrtPrice MAX_SQRT_PRICE liquidity
        .up
      ensure (baseAmount ≤ u64Max) .mathOverflow
      let baseAmount ← safeCast 64 baseAmount
      pure (baseAmount, amount.quoteAmount)

/-- The quote of the deposit is what the migration fee leaves of the amount.
Source: `migration_handler/mod.rs` `get_included_protocol_fee_migration_amounts_1` -/
theorem getIncludedProtocolFeeMigrationAmounts1_quote {h : MigrationHandler}
    {threshold percentage base quote : ℕ}
    (hok : h.getIncludedProtocolFeeMigrationAmounts1 threshold percentage = .ok (base, quote)) :
    ∃ m, calculatePostFeeMigrationQuoteAmount threshold percentage = .ok m ∧
      quote = m.quoteAmount := by
  cases h with
  | compoundingLiquidity price =>
    simp only [getIncludedProtocolFeeMigrationAmounts1, bind_eq_ok, pure_eq_ok,
      Prod.mk.injEq] at hok
    obtain ⟨m, hm, _, _, _, rfl⟩ := hok
    exact ⟨m, hm, rfl⟩
  | concentratedLiquidity price =>
    simp only [getIncludedProtocolFeeMigrationAmounts1, bind_eq_ok, pure_eq_ok,
      Prod.mk.injEq] at hok
    obtain ⟨m, hm, _, _, _, _, _, _, _, _, _, rfl⟩ := hok
    exact ⟨m, hm, rfl⟩

end MigrationHandler

end DynamicBondingCurve
