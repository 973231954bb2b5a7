import DynamicBondingCurve.CompoundingOpening
import DynamicBondingCurve.ConcentratedOpening

/-!
# What a migration needs of the base

The supply of a pool is sized for a migration of its cap at its migration price. The migration sizes
its deposit again, at the price where the sale ended, and that price may be lower: the deadline ends
a sale early, and what a buy rounds away raises quote without moving the price.

* `MigrationHandler.Funds`: a base amount pays for a quote amount at the price of the handler.
* `MigrationHandler.le_iff_funds`: it does exactly when it covers the base of the deposit.
* `Launch.deadlineMigration_iff`: **after its deadline a pool passes the checks of its migration
  exactly when its base reserve pays for its effective quote**.
* `Launch.completedMigration_iff`: **a complete pool stays within the base that was sized for it,
  and ends with the supply that was fixed for it, exactly when what its sale left of that base pays
  for its effective quote**, as it does at the migration price.
-/

namespace DynamicBondingCurve

open Library

/-! ## Base that pays for quote -/

namespace MigrationHandler

/-- A base amount pays for a quote amount at the price of the handler: it is worth as much in a
constant product, and pays for as much liquidity over the whole range.
Source: none: the abstract reading of `get_included_protocol_fee_migration_amounts_1` -/
def Funds (base quote : ℕ) : MigrationHandler → Prop
  | .compoundingLiquidity price => quote * 2 ^ 128 ≤ base * (price * price)
  | .concentratedLiquidity price => liquidityFromQuote quote price ≤ liquidityFromBase base price

/-- Whether a base amount pays for a quote amount is decided by comparing numbers. -/
instance {base quote : ℕ} {h : MigrationHandler} : Decidable (h.Funds base quote) := by
  cases h <;> exact inferInstanceAs (Decidable (_ ≤ _))

/-- The price of a handler.
Source: `migration_handler/mod.rs` `get_migration_handler`, `migration_sqrt_price` -/
def price : MigrationHandler → ℕ
  | .compoundingLiquidity price => price
  | .concentratedLiquidity price => price

/-- The price of a handler is the one that it was made with.
Source: `migration_handler/mod.rs` `get_migration_handler` -/
@[simp] theorem getMigrationHandler_price (option : MigrationOption)
    (mode : MigratedCollectFeeMode) (sqrtPrice : ℕ) :
    (getMigrationHandler option mode sqrtPrice).price = sqrtPrice := by
  unfold getMigrationHandler
  split_ifs <;> rfl

variable {h : MigrationHandler} {base base' quote quote' available amount : ℕ}

/-- More base pays for less quote. -/
theorem Funds.mono (hfunds : h.Funds base quote) (hbase : base ≤ base') (hquote : quote' ≤ quote) :
    h.Funds base' quote' := by
  cases h with
  | compoundingLiquidity price =>
    calc quote' * 2 ^ 128 ≤ quote * 2 ^ 128 := Nat.mul_le_mul_right _ hquote
      _ ≤ base * (price * price) := hfunds
      _ ≤ base' * (price * price) := Nat.mul_le_mul_right _ hbase
  | concentratedLiquidity price =>
    calc liquidityFromQuote quote' price ≤ liquidityFromQuote quote price :=
        liquidityFromQuote_mono hquote
      _ ≤ liquidityFromBase base price := hfunds
      _ ≤ liquidityFromBase base' price :=
        Nat.div_le_div_right (Nat.mul_le_mul_right _ (Nat.mul_le_mul_right _ hbase))

/-- **A base amount pays for a quote amount exactly when it covers the base of the deposit.**
Source: `migration_handler/mod.rs` `get_included_protocol_fee_migration_amounts_1` -/
theorem le_iff_funds (hpos : 0 < h.price) (hhigh : h.price < MAX_SQRT_PRICE)
    (hok : h.getIncludedProtocolFeeMigrationAmounts1 amount 0 = .ok (base, quote)) :
    quote = amount ∧ (base ≤ available ↔ h.Funds available amount) := by
  obtain ⟨m, hm, hkept⟩ := getIncludedProtocolFeeMigrationAmounts1_quote hok
  have hall : quote = amount := by
    obtain ⟨_, hquote⟩ := PoolConfig.calculatePostFeeMigrationQuoteAmount_spec hm
    rw [hkept, hquote, Nat.sub_zero, ceilDiv_eq_div (by norm_num) (Nat.mul_mod_left _ _),
      Nat.mul_div_cancel _ (by norm_num)]
  refine ⟨hall, ?_⟩
  rw [← hall]
  cases h with
  | compoundingLiquidity price =>
    simp only [getIncludedProtocolFeeMigrationAmounts1, bind_eq_ok, pure_eq_ok,
      Prod.mk.injEq] at hok
    obtain ⟨_, _, _, hbase, rfl, rfl⟩ := hok
    obtain ⟨hprice, rfl, _⟩ := getConstantProductBaseFromQuote_spec hbase
    rw [constantProductBase, ceilDiv_le_iff (Nat.mul_pos hprice hprice), Funds,
      Nat.mul_comm available]
  | concentratedLiquidity price =>
    obtain ⟨_, rfl, _⟩ := concentrated_amounts_spec hok
    have hlow : 0 < price := hpos
    have hbelow : price < MAX_SQRT_PRICE := hhigh
    rw [Funds, le_liquidityFromBase_iff hbelow, baseUp,
      ceilDiv_le_iff (Nat.mul_pos hlow (by decide))]

/-- A deposit of some quote needs some base.
Source: `migration_handler/mod.rs` `get_included_protocol_fee_migration_amounts_1` -/
theorem base_pos (hpos : 0 < h.price) (hhigh : h.price < MAX_SQRT_PRICE) (hamount : 0 < amount)
    (hok : h.getIncludedProtocolFeeMigrationAmounts1 amount 0 = .ok (base, quote)) : 0 < base := by
  by_contra hzero
  have hiff : base ≤ 0 ↔ h.Funds 0 amount := (le_iff_funds hpos hhigh hok).2
  have hfunds := hiff.mp (Nat.le_of_not_lt hzero)
  cases h with
  | compoundingLiquidity price =>
    rw [Funds, Nat.zero_mul] at hfunds
    omega
  | concentratedLiquidity price =>
    obtain ⟨hliquidity, _⟩ := concentrated_amounts_spec hok
    obtain ⟨hlow, _⟩ := getInitialLiquidityFromDeltaQuote_eq_ok.mp hliquidity
    have hdelta : price - MIN_SQRT_PRICE ≤ amount * 2 ^ 128 := by
      calc price - MIN_SQRT_PRICE ≤ price := Nat.sub_le _ _
        _ ≤ MAX_SQRT_PRICE := hhigh.le
        _ ≤ 1 * 2 ^ 128 := by decide
        _ ≤ amount * 2 ^ 128 := Nat.mul_le_mul_right _ hamount
    have hsome : 0 < liquidityFromQuote amount price :=
      Nat.div_pos hdelta (Nat.sub_pos_of_lt hlow)
    have hnone : liquidityFromBase 0 price = 0 := by
      rw [liquidityFromBase, Nat.zero_mul, Nat.zero_mul, Nat.zero_div]
    rw [Funds, hnone] at hfunds
    omega

end MigrationHandler

/-! ## Launched pools -/

namespace Launch

variable (l : Launch) (actions : List Action)

/-- The handler of a migration is the one that the configuration chooses, at the price of the pool.
Source: `migrate_damm_v2_initialize_pool.rs` `handle_migrate_damm_v2`, `liquidity_handler` -/
theorem migrationHandler_eq {handler : MigrationHandler} {p : PoolState}
    (hhandler : l.deployment.migrationHandler p = .ok handler) :
    ∃ option mode, MigrationOption.tryFrom l.config.migrationOption = some option ∧
      MigratedCollectFeeMode.tryFrom l.config.migratedCollectFeeMode = some mode ∧
      handler = getMigrationHandler option mode p.sqrtPrice := by
  obtain ⟨_, mode, _, _, hmode, _⟩ := l.accepted.paramsCreated.deposit
  rw [← l.accepted.paramsCreated.migratedCollectFeeMode_eq] at hmode
  simp only [Deployment.migrationHandler, bind_eq_ok, orThrow_eq_ok] at hhandler
  obtain ⟨option, hoption, hhandler⟩ := hhandler
  cases option with
  | meteoraDamm =>
    rw [pure_eq_ok] at hhandler
    exact ⟨_, mode, hoption, hmode, hhandler.symm⟩
  | dammV2 =>
    simp only [Deployment.liquidityHandler, bind_eq_ok, orThrow_eq_ok, pure_eq_ok] at hhandler
    obtain ⟨option', hoption', mode', hmode', rfl⟩ := hhandler
    exact ⟨option', mode', hoption', hmode', rfl⟩

/-- The price of a launched pool is within the range of its migration.
Source: `process_create_config.rs` `process_create_config`, the check of `migration_sqrt_price` -/
theorem migrationHandler_price {handler : MigrationHandler}
    (hhandler : l.deployment.migrationHandler (l.after actions).pool = .ok handler) :
    0 < handler.price ∧ handler.price < MAX_SQRT_PRICE := by
  obtain ⟨option, mode, _, _, rfl⟩ := l.migrationHandler_eq hhandler
  obtain ⟨hstart, hstop⟩ := (l.onCurve actions).priceInRange
  rw [MigrationHandler.getMigrationHandler_price]
  exact ⟨l.accepted.sqrtStartPrice_pos.trans_le hstart,
    hstop.trans_lt l.accepted.paramsCreated.migrationSqrtPrice_lt⟩

/-- The checks of a migration against what its base reserve pays for.
Source: `migrate_damm_v2_initialize_pool.rs` `handle_migrate_damm_v2`, the check before
`get_migration_protocol_fees` -/
theorem migrationAmounts_iff {handler : MigrationHandler} {base quote : ℕ} (available : ℕ)
    (hreserve : 0 < (l.after actions).pool.quoteReserve)
    (hhandler : l.deployment.migrationHandler (l.after actions).pool = .ok handler)
    (hamounts : l.deployment.migrationAmounts (l.after actions).pool handler = .ok (base, quote)) :
    0 < base ∧ 0 < quote ∧ (base ≤ available ↔ handler.Funds available
      ((l.after actions).pool.effectiveMigrationQuoteThreshold
        l.config.getMigrationQuoteAmountCap)) := by
  obtain ⟨hpos, hhigh⟩ := l.migrationHandler_price actions hhandler
  have heffective : 0 < (l.after actions).pool.effectiveMigrationQuoteThreshold
      l.config.getMigrationQuoteAmountCap := lt_min hreserve l.accepted.cap_pos
  have hnoFee : l.deployment.config.migrationFeePercentage = 0 :=
    l.accepted.migrationFeePercentage_eq
  unfold Deployment.migrationAmounts at hamounts
  rw [hnoFee] at hamounts
  obtain ⟨hquote, hiff⟩ := MigrationHandler.le_iff_funds hpos hhigh hamounts
  refine ⟨MigrationHandler.base_pos hpos hhigh heffective hamounts, ?_, hiff⟩
  rw [hquote]
  exact heffective

/-! ## After the deadline -/

/-- **After its deadline a pool passes the checks of its migration exactly when its base reserve
pays for its effective quote.** A pool without locked vesting whose deadline passed before its
threshold was raised holds the base of its deposit besides its fees, and passes the checks, if and
only if the base that it has not sold pays, at its price, for its real quote up to the cap.
Source: `migrate_damm_v2_initialize_pool.rs` `handle_migrate_damm_v2`;
`migrate_meteora_damm_initialize_pool.rs` `handle_migrate_meteora_damm` -/
theorem deadlineMigration_iff {handler : MigrationHandler} {base quote : ℕ}
    (hdeadline : l.deployment.canMigrateAfterDeadline (l.after actions) = true)
    (hreserve : 0 < (l.after actions).pool.quoteReserve)
    (hhandler : l.deployment.migrationHandler (l.after actions).pool = .ok handler)
    (hamounts : l.deployment.migrationAmounts (l.after actions).pool handler = .ok (base, quote)) :
    let w := l.after actions
    (w.pool.partnerBaseFee + w.pool.protocolBaseFee + w.pool.creatorBaseFee + base ≤ w.baseVault ∧
        l.deployment.checkMigration w = .ok ()) ↔
      handler.Funds w.pool.baseReserve
        (w.pool.effectiveMigrationQuoteThreshold l.config.getMigrationQuoteAmountCap) := by
  intro w
  obtain ⟨hpre, _, hvesting⟩ := progress_eq_of_canMigrateAfterDeadline hdeadline
  obtain ⟨locked, hlocked, _⟩ := l.initialBaseSupply_ge
  have hbooks := (l.backed actions).baseVault_eq (l.allotted actions) (by rw [hpre]; decide) hlocked
  rw [if_neg (by rw [hpre]; rintro ⟨h, _⟩; cases h)] at hbooks
  obtain ⟨hbase, hquote, hiff⟩ := l.migrationAmounts_iff actions
    (l.after actions).pool.baseReserve hreserve hhandler hamounts
  have hcheck := l.checkMigration_iff actions hbooks hreserve hhandler hamounts hbase hquote
  rw [Nat.zero_add] at hcheck
  constructor
  · rintro ⟨_, hok⟩
    exact hiff.mp (hcheck.mp hok)
  · intro hfunds
    have hcovers := hiff.mpr hfunds
    have hvault : (l.after actions).pool.partnerBaseFee + (l.after actions).pool.protocolBaseFee +
        (l.after actions).pool.creatorBaseFee + base ≤ (l.after actions).baseVault := by
      omega
    exact ⟨hvault, hcheck.mpr hcovers⟩

/-- A launch whose curve is deep up to four times its start price and thin beyond it, so that its
supply is sized for a migration at a price far above.
Source: `process_create_config.rs` `ConfigParameters` -/
def thinEndLaunch : Launch :=
  (ofParameters (plainParameters (2 ^ 64) 1009000
    [{ sqrtPrice := 2 ^ 65, liquidity := 1000000 * 2 ^ 64 },
      { sqrtPrice := 100 * 2 ^ 64, liquidity := 100 * 2 ^ 64 }]) false .splToken 100).get
    (by decide +kernel)

/-- A sale that ends after a tenth of its threshold can migrate. -/
theorem deadlineMigration_iff_thinEndLaunch :
    thinEndLaunch.deployment.checkMigration
      (thinEndLaunch.after [.swap2 (buyOf 1 100000 0), .pass 0 200]) = .ok () := by
  have hhandler : thinEndLaunch.deployment.migrationHandler
      (thinEndLaunch.after [.swap2 (buyOf 1 100000 0), .pass 0 200]).pool =
        .ok (.concentratedLiquidity 20272971737006797225) := by
    decide +kernel
  have hamounts : thinEndLaunch.deployment.migrationAmounts
      (thinEndLaunch.after [.swap2 (buyOf 1 100000 0), .pass 0 200]).pool
        (.concentratedLiquidity 20272971737006797225) = .ok (81968, 99000) := by
    decide +kernel
  have hfunds := (thinEndLaunch.deadlineMigration_iff _ (by decide +kernel) (by decide +kernel)
    hhandler hamounts).mpr (by decide +kernel)
  exact hfunds.2

/-- A sale that ends where the deep part of the curve ends needs a quarter of a million base for its
migration and has a hundredth of that left; the raised quote cannot leave the pool. -/
theorem deadlineMigration_false :
    let w := thinEndLaunch.after [.swap2 (buyOf 1 1000000 0), .pass 0 200]
    thinEndLaunch.deployment.canMigrateAfterDeadline w = true ∧ w.pool.quoteReserve = 990000 ∧
      thinEndLaunch.deployment.migrationHandler w.pool =
        .ok (.concentratedLiquidity w.pool.sqrtPrice) ∧
      thinEndLaunch.deployment.migrationAmounts w.pool
        (.concentratedLiquidity w.pool.sqrtPrice) = .ok (249994, 990000) ∧
      w.pool.baseReserve = 2682 ∧
      thinEndLaunch.deployment.checkMigration w =
        .error (Fault.error .insufficientLiquidityForMigration) ∧
      (thinEndLaunch.deployment.step w (.migrateDammV2 .takeAll)).isOk = false := by
  decide +kernel

/-! ## After the threshold -/

/-- Before the pool is created nothing of its supply is burnt.
Source: `migrate_damm_v2_initialize_pool.rs` `handle_migrate_damm_v2`, the call of `burn` -/
theorem baseSupply_eq (hprogress : (l.after actions).pool.migrationProgress ≠ .createdPool) :
    (l.after actions).baseSupply = l.initialBaseSupply := by
  have h : Lifecycle l.deployment (l.after actions) ∧
      ((l.after actions).pool.migrationProgress ≠ .createdPool →
        (l.after actions).baseSupply = l.initialBaseSupply) := by
    refine invariant_of_transition (fun w => Lifecycle l.deployment w ∧
      (w.pool.migrationProgress ≠ .createdPool → w.baseSupply = l.initialBaseSupply)) ?_ ?_
    · rintro a w w' ⟨hlife, hsupply⟩ hmove
      refine ⟨hlife.of_transition hmove, ?_⟩
      rcases hmove.quiet_or with hq | ⟨_, _, mid, trade, completion⟩ | ⟨_, move⟩ | ⟨_, move⟩
      · rw [hq.migrationProgress, hq.baseSupply]
        exact hsupply
      · intro _
        have hsame : w'.baseSupply = mid.baseSupply := by
          cases completion <;> rfl
        rw [hsame, trade.baseSupply]
        exact hsupply (by rw [trade.progress hlife.ended]; decide)
      · intro _
        rw [move.eq]
        refine hsupply ?_
        rcases (move.progress_cases hlife.toHistory).1 with h | ⟨h, _⟩ <;> rw [h] <;> decide
      · intro hne
        rw [move.eq] at hne
        exact absurd rfl hne
    · obtain ⟨activationPoint, _, hgenesis, _⟩ := l.genesis_eq
      refine ⟨l.lifecycle_genesis, fun _ => ?_⟩
      rw [hgenesis]
      rfl
  exact h.2 hprogress

/-- Of a fixed supply the burning takes the difference of its two sizes at most.
Source: `state/config.rs` `get_max_burnable_amount_post_migration` -/
theorem getMaxBurnableAmountPostMigration_fixed {c : PoolConfig} {amount : ℕ}
    (hfixed : c.isFixedTokenSupply = true)
    (h : c.getMaxBurnableAmountPostMigration = .ok amount) :
    amount = c.preMigrationTokenSupply - c.postMigrationTokenSupply := by
  rw [PoolConfig.getMaxBurnableAmountPostMigration, if_pos hfixed, safeSub_eq_ok] at h
  exact h.2

/-- A supply fixed in advance leaves the sale, the migration and the vesting after the migration.
Source: `process_create_config.rs` `process_create_config`, the checks of a supply fixed in
advance -/
theorem fixedSupply_spec (hfixed : l.config.isFixedTokenSupply = true) : ∃ locked,
    l.config.lockedVestingConfig.getTotalAmount = .ok locked ∧
      l.config.swapBaseAmount + l.config.migrationBaseThreshold + locked ≤
        l.config.postMigrationTokenSupply ∧
      l.config.postMigrationTokenSupply ≤ l.initialBaseSupply ∧
      l.config.preMigrationTokenSupply = l.initialBaseSupply := by
  obtain ⟨receiver, hsupply⟩ := l.accepted.paramsCreated.supply
  obtain ⟨_, hinitial, _⟩ := l.genesis_eq
  rw [PoolConfig.getInitialBaseSupply, if_pos hfixed, pure_eq_ok] at hinitial
  unfold resolveTokenSupply at hsupply
  cases hparams : l.accepted.params.tokenSupply with
  | none =>
    rw [hparams] at hsupply
    simp only [pure_eq_ok, Prod.mk.injEq] at hsupply
    rw [PoolConfig.isFixedTokenSupply, ← hsupply.1] at hfixed
    cases hfixed
  | some fixed =>
    rw [hparams] at hsupply
    simp only [bind_eq_ok, exists_unit, require_eq_ok, pure_eq_ok, Prod.mk.injEq] at hsupply
    obtain ⟨_, _, _, _, total, htotal, _, ⟨hpost, hpre, _⟩, _, hpreEq, hpostEq⟩ := hsupply
    obtain ⟨locked, hlocked, rfl, _⟩ := AcceptedConfig.getTotalTokenSupply_spec htotal
    rw [← l.accepted.paramsCreated.lockedVesting_eq] at hlocked
    refine ⟨locked, hlocked, ?_, ?_, hinitial⟩
    · rw [← hpostEq]
      exact hpost
    · rw [← hinitial, ← hpreEq, ← hpostEq]
      exact hpre

/-- A migration works with the handler that the checks work with.
Source: `migrate_damm_v2_initialize_pool.rs` `handle_migrate_damm_v2`, `liquidity_handler` -/
theorem migrationHandler_of_move {m : MigrationData} {w w' : World}
    (move : MigrationMove l.deployment m w w') :
    l.deployment.migrationHandler w.pool = .ok m.handler := by
  obtain ⟨option, mode, hoption, hmode, hhandler⟩ := move.handler
  simp only [Deployment.migrationHandler, bind_eq_ok, orThrow_eq_ok]
  refine ⟨option, hoption, ?_⟩
  cases option with
  | meteoraDamm =>
    rw [hhandler]
    rfl
  | dammV2 =>
    simp only [Deployment.liquidityHandler, bind_eq_ok, orThrow_eq_ok, pure_eq_ok]
    exact ⟨_, hoption, mode, hmode rfl, hhandler.symm⟩

/-- A pool stays within the base that was sized for it: what was sold and what the migration needs
fit what was sized for both, the migration passes its checks, and what it burns of a supply that was
fixed in advance leaves the supply that was promised.
Source: `process_create_config.rs` `process_create_config`, the sizes of the supply;
`state/config.rs` `get_burnable_amount_post_migration` -/
structure WithinSize (w : World) (base : ℕ) : Prop where
  sized : l.initialBaseSupply - w.pool.baseReserve + base ≤
    l.config.swapBaseAmount + l.config.migrationBaseThreshold
  passes : w.pool.migrationProgress ≠ .createdPool → l.deployment.checkMigration w = .ok ()
  supply : l.config.isFixedTokenSupply = true → ∀ amm w',
    l.deployment.migrateDammV2 w amm = .ok w' ∨ l.deployment.migrateMeteoraDamm w amm = .ok w' →
      w'.baseSupply = l.config.postMigrationTokenSupply

/-- What a migration that needs no more than was sized leaves of a fixed supply.
Source: `migrate_damm_v2_initialize_pool.rs` `handle_migrate_damm_v2`, from the comment "burn the
rest of token in pool authority after migrated amount and fee" -/
theorem baseSupply_of_move {m : MigrationData} {w' : World}
    (hfixed : l.config.isFixedTokenSupply = true)
    (hsized : l.initialBaseSupply - (l.after actions).pool.baseReserve + m.base ≤
      l.config.swapBaseAmount + l.config.migrationBaseThreshold)
    (move : MigrationMove l.deployment m (l.after actions) w') :
    w'.baseSupply = l.config.postMigrationTokenSupply := by
  obtain ⟨locked, hlocked, hpost, hpre, hinitial⟩ := l.fixedSupply_spec hfixed
  have hprogress : (l.after actions).pool.migrationProgress ≠ .createdPool := by
    rcases (move.progress_cases (l.lifecycle actions).toHistory).1 with h | ⟨h, _⟩ <;> rw [h] <;>
      decide
  have hbooks := (l.backed actions).baseVault_eq (l.allotted actions) hprogress hlocked
  have hsupply := l.baseSupply_eq actions hprogress
  obtain ⟨maxBurnable, left, hmax, hleft, hburnt⟩ := move.burnt_eq
  have htaken := move.taken_base_le
  have hmaxEq : maxBurnable = l.initialBaseSupply - l.config.postMigrationTokenSupply := by
    rw [← hinitial]
    exact getMaxBurnableAmountPostMigration_fixed hfixed hmax
  -- the whole of what may be burnt is left
  have hall : maxBurnable ≤ left := by
    split_ifs at hbooks <;> omega
  rw [move.eq]
  change (l.after actions).baseSupply - m.burnt = _
  rw [hburnt, min_eq_left hall, hmaxEq, hsupply]
  omega

/-- At the migration price, what the sale left of its base pays for the effective quote: the supply
was sized there.
Source: `process_create_config.rs` `process_create_config`,
`included_protocol_fee_migration_base_amount` -/
theorem funds_at_migrationPrice {handler : MigrationHandler}
    (hhandler : l.deployment.migrationHandler (l.after actions).pool = .ok handler)
    (hprice : (l.after actions).pool.sqrtPrice = l.config.migrationSqrtPrice) :
    handler.Funds (l.config.swapBaseAmount + l.config.migrationBaseThreshold -
        (l.initialBaseSupply - (l.after actions).pool.baseReserve))
      ((l.after actions).pool.effectiveMigrationQuoteThreshold
        l.config.getMigrationQuoteAmountCap) := by
  have hsold : l.initialBaseSupply ≤
      (l.after actions).pool.baseReserve + l.config.swapBaseAmount :=
    (l.onCurve actions).supply_le
  obtain ⟨hpos, hhigh⟩ := l.migrationHandler_price actions hhandler
  obtain ⟨option, mode, hoption, hmode, rfl⟩ := l.migrationHandler_eq hhandler
  obtain ⟨option', mode', quote, hoption', hmode', hdeposit⟩ := l.accepted.paramsCreated.deposit
  rw [← l.accepted.paramsCreated.migrationOption_eq, hoption, Option.some.injEq] at hoption'
  rw [← l.accepted.paramsCreated.migratedCollectFeeMode_eq, hmode, Option.some.injEq] at hmode'
  -- the deposit that was sized is the one at this price
  rw [← l.accepted.paramsCreated.threshold_eq, ← l.accepted.paramsCreated.cap_eq,
    l.accepted.paramsValidated.feePercentage_eq, ← hoption', ← hmode', ← hprice] at hdeposit
  obtain ⟨_, hsized⟩ := MigrationHandler.le_iff_funds hpos hhigh hdeposit
  have hfunds := hsized.mp le_rfl
  have hroom : l.config.migrationBaseThreshold ≤
      l.config.swapBaseAmount + l.config.migrationBaseThreshold -
        (l.initialBaseSupply - (l.after actions).pool.baseReserve) := by
    omega
  exact hfunds.mono hroom (min_le_right _ _)

/-- **A complete pool stays within the base that was sized for it exactly when what its sale left of
that base pays for its effective quote.** After every run, the base that was sold and the base of
the deposit fit what was sized for both, so that the migration passes its checks and leaves the
supply that was fixed for it, if and only if the rest of that size pays, at the price of the pool,
for its real quote up to the cap; and it does at the migration price.
Source: `migrate_damm_v2_initialize_pool.rs` `handle_migrate_damm_v2`;
`migrate_meteora_damm_initialize_pool.rs` `handle_migrate_meteora_damm`;
`state/config.rs` `get_burnable_amount_post_migration` -/
theorem completedMigration_iff {handler : MigrationHandler} {base quote : ℕ}
    (hreserve : 0 < (l.after actions).pool.quoteReserve)
    (hhandler : l.deployment.migrationHandler (l.after actions).pool = .ok handler)
    (hamounts : l.deployment.migrationAmounts (l.after actions).pool handler = .ok (base, quote)) :
    let w := l.after actions
    (l.WithinSize w base ↔
        handler.Funds (l.config.swapBaseAmount + l.config.migrationBaseThreshold -
            (l.initialBaseSupply - w.pool.baseReserve))
          (w.pool.effectiveMigrationQuoteThreshold l.config.getMigrationQuoteAmountCap)) ∧
      (w.pool.sqrtPrice = l.config.migrationSqrtPrice → l.WithinSize w base) := by
  intro w
  have hsold : l.initialBaseSupply ≤
      (l.after actions).pool.baseReserve + l.config.swapBaseAmount :=
    (l.onCurve actions).supply_le
  obtain ⟨hbase, hquote, hiff⟩ := l.migrationAmounts_iff actions
    (l.config.swapBaseAmount + l.config.migrationBaseThreshold -
      (l.initialBaseSupply - (l.after actions).pool.baseReserve)) hreserve hhandler hamounts
  have hwithin : handler.Funds (l.config.swapBaseAmount + l.config.migrationBaseThreshold -
        (l.initialBaseSupply - (l.after actions).pool.baseReserve))
      ((l.after actions).pool.effectiveMigrationQuoteThreshold
        l.config.getMigrationQuoteAmountCap) → l.WithinSize (l.after actions) base := by
    intro hfunds
    have hfits := hiff.mpr hfunds
    have hsized : l.initialBaseSupply - (l.after actions).pool.baseReserve + base ≤
        l.config.swapBaseAmount + l.config.migrationBaseThreshold := by
      omega
    refine ⟨hsized, fun hne => ?_, fun hfixed amm w' hmigrate => ?_⟩
    · obtain ⟨locked, hlocked, hsupply, _⟩ := l.initialBaseSupply_ge
      have hbooks := (l.backed actions).baseVault_eq (l.allotted actions) hne hlocked
      refine (l.checkMigration_iff actions hbooks hreserve hhandler hamounts hbase hquote).mpr ?_
      split_ifs <;> omega
    · have hmove : ∃ m, MigrationMove l.deployment m (l.after actions) w' := by
        rcases hmigrate with h | h
        · exact migrateDammV2_spec h
        · exact migrateMeteoraDamm_spec h
      obtain ⟨m, move⟩ := hmove
      have hsame : m.base = base := by
        have hchosen := (l.migrationHandler_of_move move).symm.trans hhandler
        have hdeposit := move.amounts
        rw [Except.ok.injEq] at hchosen
        rw [hchosen, hamounts, Except.ok.injEq, Prod.mk.injEq] at hdeposit
        exact hdeposit.1.symm
      refine l.baseSupply_of_move actions hfixed ?_ move
      rw [hsame]
      exact hsized
  refine ⟨⟨fun h => hiff.mp ?_, hwithin⟩, fun hprice =>
    hwithin (l.funds_at_migrationPrice actions hhandler hprice)⟩
  have hsized := h.sized
  change l.initialBaseSupply - (l.after actions).pool.baseReserve + base ≤ _ at hsized
  omega

/-- A launch whose curve ends at its migration price, so that its supply has no buffer, and whose
quote unit buys two hundred base units at the start.
Source: `process_create_config.rs` `ConfigParameters` -/
def wholeCurveLaunch : Launch :=
  (ofParameters (plainParameters (2 ^ 60) 29360128 [{ sqrtPrice := 2 ^ 63, liquidity := 2 ^ 90 }])
    false .splToken 0).get (by decide +kernel)

/-- The same curve with a supply that is fixed in advance: a tenth more than the sizes before the
migration, and the sizes after it.
Source: `process_create_config.rs` `TokenSupplyParams` -/
def fixedSupplyLaunch : Launch :=
  (ofParameters { plainParameters (2 ^ 60) 29360128
      [{ sqrtPrice := 2 ^ 63, liquidity := 2 ^ 90 }] with
    tokenSupply := some
      { preMigrationTokenSupply := 1200000000
        postMigrationTokenSupply := 1056964609 } } false .splToken 0).get (by decide +kernel)

/-- A sale in one buy ends at the migration price, within its size. -/
theorem completedMigration_iff_fixedSupplyLaunch :
    fixedSupplyLaunch.WithinSize (fixedSupplyLaunch.after [.swap2 (buyOf 1 100000000 0)])
      117440513 := by
  have hhandler : fixedSupplyLaunch.deployment.migrationHandler
      (fixedSupplyLaunch.after [.swap2 (buyOf 1 100000000 0)]).pool =
        .ok (.concentratedLiquidity (2 ^ 63)) := by
    decide +kernel
  have hamounts : fixedSupplyLaunch.deployment.migrationAmounts
      (fixedSupplyLaunch.after [.swap2 (buyOf 1 100000000 0)]).pool
        (.concentratedLiquidity (2 ^ 63)) = .ok (117440513, 29360128) := by
    decide +kernel
  have hwithin := fixedSupplyLaunch.completedMigration_iff _ (by decide +kernel) hhandler hamounts
  exact hwithin.2 (by decide +kernel)

/-- The first of two buys takes one base unit for a whole quote unit, and the second completes the
sale. Its price stays a quote unit short of the migration price, where the migration needs seven
base units more than were sized. Without a buffer the complete pool can never migrate; with a fixed
supply it ends with three units more than were promised. -/
theorem completedMigration_false :
    let buys : List Action := [.swap2 (buyOf 2 1 1000), .swap2 (buyOf 0 29656694 0)]
    let w := wholeCurveLaunch.after buys
    w.pool.isCurveComplete wholeCurveLaunch.config.migrationQuoteThreshold = true ∧
      w.pool.migrationProgress = .lockedVesting ∧ w.pool.quoteReserve = 29360128 ∧
      w.pool.sqrtPrice < wholeCurveLaunch.config.migrationSqrtPrice ∧
      wholeCurveLaunch.deployment.migrationAmounts w.pool
        (.concentratedLiquidity w.pool.sqrtPrice) = .ok (117440520, 29360128) ∧
      w.pool.baseReserve = 117440517 ∧
      wholeCurveLaunch.config.migrationBaseThreshold = 117440513 ∧
      wholeCurveLaunch.config.swapBaseAmount + wholeCurveLaunch.config.migrationBaseThreshold + 3 =
        wholeCurveLaunch.initialBaseSupply - w.pool.baseReserve + 117440520 ∧
      wholeCurveLaunch.deployment.checkMigration w =
        .error (Fault.error .insufficientLiquidityForMigration) ∧
      (wholeCurveLaunch.deployment.step w (.migrateDammV2 .takeAll)).isOk = false ∧
      (fixedSupplyLaunch.after (buys ++ [.migrateDammV2 .takeAll])).pool.migrationProgress =
        .createdPool ∧
      (fixedSupplyLaunch.after (buys ++ [.migrateDammV2 .takeAll])).baseSupply =
        fixedSupplyLaunch.config.postMigrationTokenSupply + 3 := by
  decide +kernel

end Launch

end DynamicBondingCurve
