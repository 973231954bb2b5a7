import DynamicBondingCurve.Locker
import DynamicBondingCurve.Math.SquareRoot

/-!
# Where a constant product pool opens

A sale that migrates into a constant product offers its real quote, up to the cap, and the base
that goes with it at the live price, rounded up. The pool opens at the root of the ratio of the two
and burns a fixed amount of liquidity.

* `dead_lt_iff`: the liquidity exceeds the burnt one exactly when the product of the amounts
  exceeds ten thousand.
* `le_sqrt_ceilDiv_iff`: the opening price against a bound.
* `MigrationHandler.OpensNear`: the offer opens a pool with liquidity to distribute within one
  percent of a price, which the creation of a configuration checks for its full cap at its
  migration price.
* `Launch.opensNear_iff`: **the offer of a launched pool does so exactly when it is neither dust nor
  rounded up by more than the one percent allows**.
-/

namespace DynamicBondingCurve

open Library

/-! ## Arithmetic of the opening -/

section Arithmetic

variable {base quote bound price k : ℕ}

/-- A bound on the root of a rounded-up quotient. -/
theorem le_sqrt_ceilDiv_iff {a b : ℕ} (hb : 0 < b) (hk : 0 < k) :
    k ≤ (a ⌈/⌉ b).sqrt ↔ b * (k * k) < a + b := by
  have hkk : 0 < k * k := Nat.mul_pos hk hk
  have hsplit : b * (k * k) = b * (k * k - 1) + b := by
    rw [← Nat.mul_succ, Nat.succ_eq_add_one, Nat.sub_add_cancel hkk]
  rw [Nat.le_sqrt, hsplit, Nat.add_lt_add_iff_right]
  constructor
  · intro h
    by_contra hcon
    have hle : a ⌈/⌉ b ≤ k * k - 1 := (ceilDiv_le_iff hb).mpr (not_lt.mp hcon)
    omega
  · intro h
    by_contra hcon
    have hle : a ⌈/⌉ b ≤ k * k - 1 := by omega
    exact absurd ((ceilDiv_le_iff hb).mp hle) (not_le.mpr h)

/-- A quotient with a remainder is rounded up to the next one. -/
theorem ceilDiv_eq_div_add_one {a b : ℕ} (hb : 0 < b) (h : a % b ≠ 0) : a ⌈/⌉ b = a / b + 1 := by
  have hdiv := Nat.div_add_mod a b
  apply le_antisymm
  · rw [ceilDiv_le_iff hb, Nat.mul_succ]
    have hmod := Nat.mod_lt a hb
    omega
  · by_contra hcon
    have hle := (ceilDiv_le_iff hb).mp (Nat.lt_succ_iff.mp (not_le.mp hcon))
    omega

/-- A quotient without a remainder is not rounded. -/
theorem ceilDiv_eq_div {a b : ℕ} (hb : 0 < b) (h : a % b = 0) : a ⌈/⌉ b = a / b := by
  have hdiv := Nat.div_add_mod a b
  apply le_antisymm
  · rw [ceilDiv_le_iff hb]
    omega
  · exact Nat.le_of_mul_le_mul_left (by have hup := le_mul_ceilDiv a hb; omega) hb

/-- The rounded-down root of a quotient times the divisor stays within the root of the product.
Source: `migration_handler/compounding_liquidity.rs`
`calculate_compounding_initial_sqrt_price_and_liquidity`, the liquidity -/
theorem sqrt_div_mul_sq_le (base quote : ℕ) :
    (quote * 2 ^ 128 / base).sqrt * base * ((quote * 2 ^ 128 / base).sqrt * base) ≤
      quote * base * (2 ^ 64 * 2 ^ 64) := by
  calc (quote * 2 ^ 128 / base).sqrt * base * ((quote * 2 ^ 128 / base).sqrt * base)
      = (quote * 2 ^ 128 / base).sqrt * (quote * 2 ^ 128 / base).sqrt * base * base := by ring
    _ ≤ quote * 2 ^ 128 / base * base * base :=
        Nat.mul_le_mul_right _ (Nat.mul_le_mul_right _ (Nat.sqrt_le _))
    _ ≤ quote * 2 ^ 128 * base := Nat.mul_le_mul_right _ (Nat.div_mul_le_self _ _)
    _ = quote * base * (2 ^ 64 * 2 ^ 64) := by ring

/-- The same from above: one more unit of the root exceeds it.
Source: `migration_handler/compounding_liquidity.rs`
`calculate_compounding_initial_sqrt_price_and_liquidity`, the liquidity -/
theorem lt_sqrt_div_mul_sq (hbase : 0 < base) :
    quote * base * (2 ^ 64 * 2 ^ 64) <
      ((quote * 2 ^ 128 / base).sqrt * base + base) *
        ((quote * 2 ^ 128 / base).sqrt * base + base) := by
  have hroot : quote * 2 ^ 128 / base < ((quote * 2 ^ 128 / base).sqrt + 1) *
      ((quote * 2 ^ 128 / base).sqrt + 1) := Nat.lt_succ_sqrt _
  have hquote : quote * 2 ^ 128 < ((quote * 2 ^ 128 / base).sqrt + 1) *
      ((quote * 2 ^ 128 / base).sqrt + 1) * base := (Nat.div_lt_iff_lt_mul hbase).mp hroot
  have hscaled := Nat.mul_lt_mul_of_pos_right hquote hbase
  have hleft : quote * 2 ^ 128 * base = quote * base * (2 ^ 64 * 2 ^ 64) := by ring
  have hright : ((quote * 2 ^ 128 / base).sqrt + 1) * ((quote * 2 ^ 128 / base).sqrt + 1) *
      base * base = ((quote * 2 ^ 128 / base).sqrt * base + base) *
        ((quote * 2 ^ 128 / base).sqrt * base + base) := by ring
  rw [hleft, hright] at hscaled
  exact hscaled

/-- **The liquidity exceeds the burnt one exactly when the product of the amounts exceeds ten
thousand.**
Source: `migration_handler/compounding_liquidity.rs` `DAMM_V2_COMPOUNDING_DEAD_LIQUIDITY` -/
theorem dead_lt_iff (hbase : 0 < base) (hfit : base < 2 ^ 64) :
    DAMM_V2_COMPOUNDING_DEAD_LIQUIDITY < (quote * 2 ^ 128 / base).sqrt * base ↔
      10000 < quote * base := by
  have hdead : DAMM_V2_COMPOUNDING_DEAD_LIQUIDITY = 100 * 2 ^ 64 := rfl
  constructor
  · intro h
    by_contra hcon
    have hsq := Nat.mul_self_lt_mul_self h
    have hle := sqrt_div_mul_sq_le base quote
    have hprod : quote * base * (2 ^ 64 * 2 ^ 64) ≤ 10000 * (2 ^ 64 * 2 ^ 64) :=
      Nat.mul_le_mul_right _ (not_lt.mp hcon)
    rw [hdead] at hsq
    omega
  · intro h
    by_contra hcon
    have hroot : (quote * 2 ^ 128 / base).sqrt * base + base ≤ 100 * 2 ^ 64 + base := by omega
    have hlt : quote * base * (2 ^ 64 * 2 ^ 64) < (100 * 2 ^ 64 + base) * (100 * 2 ^ 64 + base) :=
      (lt_sqrt_div_mul_sq hbase).trans_le (Nat.mul_self_le_mul_self hroot)
    have hquote : 0 < quote := Nat.pos_of_ne_zero fun hzero => by simp [hzero] at h
    -- the error of the rounded-down root is at most `base`: small against a hundred for a small
    -- `base`, and small against the product for a large one
    by_cases hsmall : base ≤ 2 ^ 56
    · nlinarith
    · have hprod : base ≤ quote * base := Nat.le_mul_of_pos_left base hquote
      nlinarith

end Arithmetic

/-! ## The opening -/

/-- The price and the liquidity of a constant product, without the operations that could fail.
Source: `migration_handler/compounding_liquidity.rs`
`calculate_compounding_initial_sqrt_price_and_liquidity` -/
theorem calculateCompoundingInitialSqrtPriceAndLiquidity_eq {base quote : ℕ} (hbase : 0 < base)
    (hbaseFit : base < 2 ^ 64) (hquoteFit : quote < 2 ^ 64) :
    calculateCompoundingInitialSqrtPriceAndLiquidity base quote =
      .ok (if MIN_SQRT_PRICE ≤ ((quote * 2 ^ 128) ⌈/⌉ base).sqrt ∧
          ((quote * 2 ^ 128) ⌈/⌉ base).sqrt ≤ MAX_SQRT_PRICE then
        some (((quote * 2 ^ 128) ⌈/⌉ base).sqrt, (quote * 2 ^ 128 / base).sqrt * base)
      else none) := by
  have hwide : quote * 2 ^ 128 < 2 ^ 256 := by omega
  have hup : (quote * 2 ^ 128) ⌈/⌉ base < 2 ^ 256 := by
    refine lt_of_le_of_lt ((ceilDiv_le_iff hbase).mpr ?_) hwide
    exact Nat.le_mul_of_pos_left _ hbase
  have hdown : quote * 2 ^ 128 / base < 2 ^ 256 := (Nat.div_le_self _ _).trans_lt hwide
  have hliquidity : (quote * 2 ^ 128 / base).sqrt * base < 2 ^ 128 := by
    have hprod : quote * base < 2 ^ 64 * 2 ^ 64 := Nat.mul_lt_mul'' hquoteFit hbaseFit
    have hsq := sqrt_div_mul_sq_le base quote
    by_contra hcon
    have hlarge := Nat.mul_self_le_mul_self (not_lt.mp hcon)
    omega
  have hroot : (quote * 2 ^ 128 / base).sqrt < 2 ^ 128 :=
    (Nat.le_mul_of_pos_right _ hbase).trans_lt hliquidity
  unfold calculateCompoundingInitialSqrtPriceAndLiquidity
  refine bind_eq_ok.mpr ⟨(), require_eq_ok.mpr hbase.ne', pure_eq_ok.mpr ?_⟩
  rw [sqrtU256_eq hup, sqrtU256_eq hdown, Option.bind_eq_bind, Option.bind_some]
  generalize ((quote * 2 ^ 128) ⌈/⌉ base).sqrt = opening
  have hmax : MAX_SQRT_PRICE < 2 ^ 128 := by norm_num [MAX_SQRT_PRICE]
  by_cases hrange : MIN_SQRT_PRICE ≤ opening ∧ opening ≤ MAX_SQRT_PRICE
  · rw [if_pos hrange, if_pos (by omega), Option.bind_some,
      if_pos ⟨hroot, hliquidity⟩]
  · rw [if_neg hrange, if_neg (by omega)]

/-- The offer opens a pool with liquidity to distribute, within one percent of `price`.
Source: `migration_handler/compounding_liquidity.rs` `validate_initial_pool_information`, its
checks on the liquidity and on the price -/
def MigrationHandler.OpensNear (h : MigrationHandler) (offer : Deposit) (price : ℕ) : Prop :=
  ∃ info, h.getInitialPoolInformation offer.base offer.quote = .ok info ∧
    0 < info.distributableLiquidity ∧
    (max price info.sqrtPrice - min price info.sqrtPrice) * 100 ≤ max price info.sqrtPrice

/-- A constant product opens with liquidity near a price that its ratio does not exceed exactly
when the product of its amounts is above ten thousand and its opening price above a bound.
Source: `migration_handler/compounding_liquidity.rs` `get_initial_pool_information` -/
theorem opensNear_compounding_iff {base quote price : ℕ} (hbaseFit : base < 2 ^ 64)
    (hquoteFit : quote < 2 ^ 64) (hratio : quote * 2 ^ 128 ≤ base * (price * price))
    (hmax : price ≤ MAX_SQRT_PRICE) :
    (MigrationHandler.compoundingLiquidity price).OpensNear ⟨base, quote⟩ price ↔
      10000 < quote * base ∧
        max MIN_SQRT_PRICE ((99 * price) ⌈/⌉ 100) ≤ ((quote * 2 ^ 128) ⌈/⌉ base).sqrt := by
  have hdead : DAMM_V2_COMPOUNDING_DEAD_LIQUIDITY = 100 * 2 ^ 64 := rfl
  rcases Nat.eq_zero_or_pos base with rfl | hbase
  · -- nothing is divided by an empty side
    refine iff_of_false ?_ (fun h => by simp at h)
    rintro ⟨info, hinfo, _⟩
    cases hinfo
  · have hopening : ((quote * 2 ^ 128) ⌈/⌉ base).sqrt ≤ price := by
      rw [← Nat.sqrt_eq price]
      exact Nat.sqrt_le_sqrt ((ceilDiv_le_iff hbase).mpr hratio)
    have hpercent : (99 * price) ⌈/⌉ 100 ≤ ((quote * 2 ^ 128) ⌈/⌉ base).sqrt ↔
        (price - ((quote * 2 ^ 128) ⌈/⌉ base).sqrt) * 100 ≤ price := by
      rw [ceilDiv_le_iff (by norm_num)]
      omega
    rw [MigrationHandler.OpensNear, ← dead_lt_iff hbase hbaseFit, max_le_iff, hpercent]
    simp only [MigrationHandler.getInitialPoolInformation, bind_eq_ok, orThrow_eq_ok,
      safeSub_eq_ok, pure_eq_ok,
      calculateCompoundingInitialSqrtPriceAndLiquidity_eq hbase hbaseFit hquoteFit]
    generalize ((quote * 2 ^ 128) ⌈/⌉ base).sqrt = opening at hopening
    generalize (quote * 2 ^ 128 / base).sqrt * base = liquidity
    constructor
    · rintro ⟨info, ⟨_, hinitial, _, hsome, rest, ⟨_, hrest⟩, rfl⟩, hpos, hnear⟩
      rw [Except.ok.injEq] at hinitial
      subst hinitial
      split_ifs at hsome with hrange
      rw [Option.some.injEq] at hsome
      subst hsome
      rw [max_eq_left hopening, min_eq_right hopening] at hnear
      rw [hrest] at hpos
      exact ⟨Nat.lt_of_sub_pos hpos, hrange.1, hnear⟩
    · rintro ⟨hliquidity, hmin, hnear⟩
      refine ⟨⟨opening, liquidity - DAMM_V2_COMPOUNDING_DEAD_LIQUIDITY,
        DAMM_V2_COMPOUNDING_DEAD_LIQUIDITY⟩, ⟨_, rfl, (opening, liquidity),
          if_pos ⟨hmin, hopening.trans hmax⟩, liquidity - DAMM_V2_COMPOUNDING_DEAD_LIQUIDITY,
          ⟨hliquidity.le, rfl⟩, rfl⟩, Nat.sub_pos_of_lt hliquidity, ?_⟩
      rw [max_eq_left hopening, min_eq_right hopening]
      exact hnear

/-! ## The offer of a pool -/

/-- The base that goes with a quote amount in a constant product at a price, rounded up.
Source: `migration_handler/compounding_liquidity.rs` `get_constant_product_base_from_quote` -/
def constantProductBase (quote price : ℕ) : ℕ := (quote * 2 ^ 128) ⌈/⌉ (price * price)

/-- The lowest root price that is within one percent of `price` and of the range of prices.
Source: `migration_handler/compounding_liquidity.rs` `validate_initial_pool_information`, its
checks on the price -/
def lowestOpening (price : ℕ) : ℕ := max MIN_SQRT_PRICE ((99 * price) ⌈/⌉ 100)

/-- A quote amount at a price is neither dust nor coarse: it and its base multiply to more than ten
thousand, and the unit by which the base is rounded up does not take the price below the lowest
opening.
Source: none: the abstract reading of the opening of a constant product -/
structure NeitherDustNorCoarse (quote price : ℕ) : Prop where
  notDust : 10000 < quote * constantProductBase quote price
  notCoarse : constantProductBase quote price * (lowestOpening price * lowestOpening price) <
    quote * 2 ^ 128 + constantProductBase quote price

/-- What the base for an amount of quote is when it is computed.
Source: `migration_handler/compounding_liquidity.rs` `get_constant_product_base_from_quote` -/
theorem getConstantProductBaseFromQuote_spec {quote price base : ℕ}
    (h : getConstantProductBaseFromQuote quote price = .ok base) :
    0 < price ∧ base = constantProductBase quote price ∧ base < 2 ^ 64 := by
  simp only [getConstantProductBaseFromQuote, bind_eq_ok, exists_unit, require_eq_ok, assert,
    safeMul_eq_ok, safeShl_eq_ok, pure_eq_ok] at h
  obtain ⟨_, ⟨_, rfl⟩, _, ⟨_, rfl⟩, hpos, _, hbase, hfit, rfl⟩ := h
  have hprice : 0 < price * price := Nat.pos_of_ne_zero hpos
  refine ⟨Nat.pos_of_mul_pos_left hprice, ?_, by unfold u64Max at hfit; omega⟩
  unfold constantProductBase
  split_ifs at hbase with hrem
  · rw [ceilDiv_eq_div_add_one hprice hrem]
    exact (safeAdd_eq_ok.mp hbase).2
  · rw [ceilDiv_eq_div hprice (not_not.mp hrem)]
    exact (pure_eq_ok.mp hbase).symm

namespace Deployment

variable (d : Deployment)

/-- What the migration offers, without the share of the protocol.
Source: `migrate_damm_v2_initialize_pool.rs` `handle_migrate_damm_v2`, from
`effective_migration_quote_threshold` to `excluded_protocol_fee_migration_quote_amount` -/
def migrationOffer (p : PoolState) : Result Deposit := do
  let handler ← d.liquidityHandler p
  let (base, quote) ← d.migrationAmounts p handler
  let (protocolBaseFee, protocolQuoteFee) ← handler.getMigrationProtocolFees base quote
    p.protocolLiquidityMigrationFeeBps
  let excludedBase ← safeSub base protocolBaseFee
  let excludedQuote ← safeSub quote protocolQuoteFee
  pure { base := excludedBase, quote := excludedQuote }

variable {d} {w w' : World} {offer : Deposit}

/-- A migration makes that offer.
Source: `migrate_damm_v2_initialize_pool.rs` `handle_migrate_damm_v2` -/
theorem migrationOffer_of_prepareMigration {handler : MigrationHandler}
    (hhandler : d.liquidityHandler w.pool = .ok handler)
    (h : d.prepareMigration w handler = .ok (offer, w')) : d.migrationOffer w.pool = .ok offer := by
  simp only [prepareMigration, bind_eq_ok, exists_unit, pure_eq_ok, Prod.mk.injEq] at h
  obtain ⟨_, amounts, hamounts, _, fees, hfees, base, hbase, quote, hquote, rfl, _⟩ := h
  exact bind_eq_ok.mpr ⟨handler, hhandler, bind_eq_ok.mpr ⟨amounts, hamounts, bind_eq_ok.mpr
    ⟨fees, hfees, bind_eq_ok.mpr ⟨base, hbase, bind_eq_ok.mpr ⟨quote, hquote, rfl⟩⟩⟩⟩⟩

end Deployment

/-! ## Launched pools -/

namespace Launch

variable (l : Launch) (actions : List Action)

/-- A launched pool is created without a share of the protocol in its migration, and keeps none.
Source: `constants.rs` `PROTOCOL_LIQUIDITY_MIGRATION_FEE_BPS`;
`state/virtual_pool.rs` `protocol_liquidity_migration_fee_bps` -/
theorem protocolLiquidityMigrationFeeBps_eq :
    (l.after actions).pool.protocolLiquidityMigrationFeeBps = 0 := by
  obtain ⟨activationPoint, _, hgenesis, _⟩ := l.genesis_eq
  refine invariant_of_transition (fun w => w.pool.protocolLiquidityMigrationFeeBps = 0) ?_ ?_
  · intro a w w' hw hmove
    cases hmove with
    | trading move =>
      cases move with
      | swap trade completion =>
        have hmid := (congrArg PoolState.protocolLiquidityMigrationFeeBps trade.pool).trans hw
        cases completion <;> exact hmid
      | _ => exact hw
    | locker move => rw [move.eq]; exact hw
    | migration move => rw [move.eq]; exact hw
    | _ => exact hw
  · rw [hgenesis]
    rfl

/-- In a constant product, the offer is the effective quote and the base that goes with it.
Source: `migrate_damm_v2_initialize_pool.rs` `handle_migrate_damm_v2` -/
theorem migrationOffer_eq {offer : Deposit}
    (hoption : MigrationOption.tryFrom l.config.migrationOption = some .dammV2)
    (hmode : MigratedCollectFeeMode.tryFrom l.config.migratedCollectFeeMode = some .compounding)
    (hoffer : l.deployment.migrationOffer (l.after actions).pool = .ok offer) :
    offer.quote =
        (l.after actions).pool.effectiveMigrationQuoteThreshold
          l.config.getMigrationQuoteAmountCap ∧
      offer.base = constantProductBase offer.quote (l.after actions).pool.sqrtPrice ∧
      offer.base < 2 ^ 64 := by
  simp only [Deployment.migrationOffer, Deployment.liquidityHandler, bind_eq_ok, orThrow_eq_ok,
    pure_eq_ok, safeSub_eq_ok] at hoffer
  obtain ⟨_, ⟨option, hoption', mode, hmode', rfl⟩, ⟨base, quote⟩, hamounts,
    ⟨baseFee, quoteFee⟩, hfees, _, ⟨_, rfl⟩, _, ⟨_, rfl⟩, rfl⟩ := hoffer
  have hsame : option = .dammV2 := Option.some.inj (hoption'.symm.trans hoption)
  have hsame' : mode = .compounding := Option.some.inj (hmode'.symm.trans hmode)
  subst hsame hsame'
  -- nothing is kept for the protocol
  rw [l.protocolLiquidityMigrationFeeBps_eq] at hfees
  simp only [getMigrationHandler, MigrationHandler.getMigrationProtocolFees,
    CompoundingLiquidity.getMigrationProtocolFees, reduceCtorEq, if_false, if_true, bind_eq_ok,
    pure_eq_ok, Prod.mk.injEq] at hfees
  obtain ⟨_, hbaseFee, _, hquoteFee, rfl, rfl⟩ := hfees
  have hbaseZero := (safeMulDivCastU64_eq_ok hbaseFee).2.1
  have hquoteZero := (safeMulDivCastU64_eq_ok hquoteFee).2.1
  rw [Nat.mul_zero] at hbaseZero hquoteZero
  simp only [Deployment.migrationAmounts, getMigrationHandler,
    MigrationHandler.getIncludedProtocolFeeMigrationAmounts1, reduceCtorEq, if_false, if_true,
    bind_eq_ok, pure_eq_ok, Prod.mk.injEq] at hamounts
  obtain ⟨m, hm, _, hbase, rfl, rfl⟩ := hamounts
  obtain ⟨_, hquote⟩ := PoolConfig.calculatePostFeeMigrationQuoteAmount_spec hm
  have hpercentage : l.deployment.config.migrationFeePercentage = 0 :=
    l.accepted.migrationFeePercentage_eq
  rw [hpercentage, Nat.sub_zero, ceilDiv_eq_div (by norm_num) (Nat.mul_mod_left _ _),
    Nat.mul_div_cancel _ (by norm_num)] at hquote
  obtain ⟨_, hbase, hfit⟩ := getConstantProductBaseFromQuote_spec hbase
  have hnone : Rounding.div .down 0 BASIS_POINT_MAX = 0 := rfl
  rw [hbaseZero, hquoteZero, hnone, Nat.sub_zero, Nat.sub_zero]
  exact ⟨hquote, hbase, hfit⟩

/-- **A launched pool opens near its price exactly when its real quote is neither dust nor coarse
at that price.** After every run, the offer that a migration into a constant product makes opens
a pool with liquidity to distribute, within one percent of the price of the sale, if and only if
the real quote up to the cap is neither dust nor coarse at that price.
Source: `migrate_damm_v2_initialize_pool.rs` `handle_migrate_damm_v2`;
`migration_handler/compounding_liquidity.rs` `get_initial_pool_information` -/
theorem opensNear_iff {offer : Deposit}
    (hoption : MigrationOption.tryFrom l.config.migrationOption = some .dammV2)
    (hmode : MigratedCollectFeeMode.tryFrom l.config.migratedCollectFeeMode = some .compounding)
    (hoffer : l.deployment.migrationOffer (l.after actions).pool = .ok offer) :
    (MigrationHandler.compoundingLiquidity (l.after actions).pool.sqrtPrice).OpensNear offer
        (l.after actions).pool.sqrtPrice ↔
      NeitherDustNorCoarse ((l.after actions).pool.effectiveMigrationQuoteThreshold
        l.config.getMigrationQuoteAmountCap) (l.after actions).pool.sqrtPrice := by
  obtain ⟨hstart, hstop⟩ := (l.onCurve actions).priceInRange
  have hprice : 0 < (l.after actions).pool.sqrtPrice :=
    l.accepted.sqrtStartPrice_pos.trans_le hstart
  have hmax : (l.after actions).pool.sqrtPrice ≤ MAX_SQRT_PRICE :=
    hstop.trans l.accepted.paramsCreated.migrationSqrtPrice_lt.le
  obtain ⟨hquote, hbase, hbaseFit⟩ := l.migrationOffer_eq actions hoption hmode hoffer
  have hquoteFit : offer.quote < 2 ^ 64 := by
    rw [hquote]
    exact (min_le_right _ _).trans_lt (l.accepted.cap_le.trans_lt l.accepted.threshold_lt)
  have hratio : offer.quote * 2 ^ 128 ≤
      offer.base * ((l.after actions).pool.sqrtPrice * (l.after actions).pool.sqrtPrice) := by
    rw [hbase, Nat.mul_comm (constantProductBase _ _)]
    exact le_mul_ceilDiv _ (Nat.mul_pos hprice hprice)
  rw [show offer = ⟨offer.base, offer.quote⟩ from rfl,
    opensNear_compounding_iff hbaseFit hquoteFit hratio hmax, ← hquote]
  rcases Nat.eq_zero_or_pos offer.base with hzero | hpos
  · refine iff_of_false (fun h => ?_) (fun h => ?_)
    · rw [hzero] at h
      simp at h
    · have hdust := h.notDust
      rw [← hbase, hzero] at hdust
      simp at hdust
  · have hlowest : 0 < lowestOpening (l.after actions).pool.sqrtPrice :=
      lt_of_lt_of_le (by norm_num [MIN_SQRT_PRICE]) (le_max_left _ _)
    have hopening := le_sqrt_ceilDiv_iff (a := offer.quote * 2 ^ 128) hpos hlowest
    constructor
    · rintro ⟨hdust, hcoarse⟩
      exact ⟨hbase ▸ hdust, hbase ▸ hopening.mp hcoarse⟩
    · rintro ⟨hdust, hcoarse⟩
      rw [← hbase] at hdust hcoarse
      exact ⟨hdust, hopening.mpr hcoarse⟩

/-- A launch of which one base unit costs ten thousand quote units, with a deadline.
Source: `process_create_config.rs` `ConfigParameters` -/
def coarseLaunch : Launch :=
  (ofParameters { plainParameters (100 * 2 ^ 64) 1000000000
      [{ sqrtPrice := 200 * 2 ^ 64, liquidity := 2 ^ 90 }] with
    compoundingFeeBps := 5000
    migratedPoolFee := { collectFeeMode := 2, dynamicFee := 0, poolFeeBps := 100 }
    migrationFeeOption := 6 } false .splToken 100).get (by decide +kernel)

/-- A sale that raised ten thousand units of base opens near its price. -/
theorem opensNear_iff_coarseLaunch :
    (MigrationHandler.compoundingLiquidity
        (coarseLaunch.after [.swap2 (buyOf 1 100000000 0), .pass 0 200]).pool.sqrtPrice).OpensNear
      ⟨9615, 99000000⟩
      (coarseLaunch.after [.swap2 (buyOf 1 100000000 0), .pass 0 200]).pool.sqrtPrice := by
  refine (coarseLaunch.opensNear_iff _ (by decide +kernel) (by decide +kernel)
    (by decide +kernel)).mpr ⟨?_, ?_⟩
  · decide +kernel
  · decide +kernel

/-- A sale that ends after a buy of one unit cannot migrate, because its liquidity is less than what
the opening burns; one that ends after a buy of a unit and a half opens a sixth below its price. -/
theorem opensNear_false :
    let dust := coarseLaunch.after [.swap2 (buyOf 1 9000 0), .pass 0 200]
    let coarse := coarseLaunch.after [.swap2 (buyOf 1 15300 0), .pass 0 200]
    0 < dust.pool.quoteReserve ∧ dust.pool.isDeadlineReached dust.timestamp = true ∧
      coarseLaunch.deployment.migrationOffer dust.pool = .ok ⟨1, 8910⟩ ∧
      (MigrationHandler.compoundingLiquidity dust.pool.sqrtPrice).getInitialPoolInformation 1
        8910 = .error (Fault.error .mathOverflow) ∧
      (coarseLaunch.deployment.step dust (.migrateDammV2 .takeAll)).isOk = false ∧
      coarseLaunch.deployment.migrationOffer coarse.pool = .ok ⟨2, 15147⟩ ∧
      ((MigrationHandler.compoundingLiquidity coarse.pool.sqrtPrice).getInitialPoolInformation 2
        15147).map (fun info => info.sqrtPrice) = .ok 1605343734492936392149 ∧
      coarse.pool.sqrtPrice = 1844678570946611642368 ∧
      (coarseLaunch.deployment.step coarse (.migrateDammV2 .takeAll)).isOk = true := by
  decide +kernel

end Launch

end DynamicBondingCurve
