import DynamicBondingCurve.Backing

/-!
# The sale along the curve

Where the price of a pool stands decides how much was raised and how much was sold.

* `AcceptedConfig.raisedTo`, `AcceptedConfig.soldTo`: what the curve takes and gives up to a
  price.
* `OnCurve`, `OnCurve.of_transition`: the reserves stay on the right side of the curve.
* `Launch.completes_at_migrationPrice`: **a pool at its last price has raised its threshold.**
* `Launch.completion_funded`: **the swap that raises the threshold is never short of base.**
-/

namespace DynamicBondingCurve

open Library

namespace AcceptedConfig

variable (a : AcceptedConfig)

/-! ## The amounts of the curve -/

/-- The quote that the curve takes up to a price, every segment rounded up.
Source: `state/config.rs` `PoolConfig` `curve`; `curve.rs` `get_delta_amount_quote_unsigned` -/
def raisedTo (price : ℕ) : ℕ := climb quoteUp a.config.sqrtStartPrice a.ladder price

/-- The base that the curve gives up to a price.
Source: `state/config.rs` `PoolConfig` `curve`; `curve.rs` `get_delta_amount_base_unsigned` -/
def soldTo (price : ℕ) : ℚ := climb baseExact a.config.sqrtStartPrice a.ladder price

/-- Nothing is sold up to the start price. -/
theorem soldTo_start : a.soldTo a.config.sqrtStartPrice = 0 :=
  climb_self baseExact_self a.ascending

/-- The base given up to the migration price was sized for the sale.
Source: `params/liquidity_distribution.rs` `get_base_token_for_swap` -/
theorem soldTo_le_baseUp {price : ℕ} (h : a.config.sqrtStartPrice ≤ price) :
    a.soldTo price ≤ climb baseUp a.config.sqrtStartPrice a.ladder price := by
  have hcast : ((climb baseUp a.config.sqrtStartPrice a.ladder price : ℕ) : ℚ) =
      climb (fun L x y => (baseUp L x y : ℚ)) a.config.sqrtStartPrice a.ladder price := by
    rw [← Nat.coe_castAddMonoidHom, map_climb]
  rw [hcast]
  refine climb_le_climb a.ascending h fun L x y _ hx hxy => ?_
  exact baseExact_le_baseUp (lt_of_lt_of_le a.sqrtStartPrice_pos hx) hxy

/-- **What is sold on the way to the migration price was sized for the sale.**
Source: `params/liquidity_distribution.rs` `get_base_token_for_swap` -/
theorem soldTo_le_swapBaseAmount {price : ℕ} (hstart : a.config.sqrtStartPrice ≤ price)
    (hprice : price ≤ a.config.migrationSqrtPrice) : a.soldTo price ≤ a.config.swapBaseAmount := by
  refine (a.soldTo_le_baseUp hstart).trans ?_
  rw [a.swapBaseAmount_eq_climb]
  exact_mod_cast climb_mono baseUp_self (fun _ _ _ _ => Nat.zero_le _)
    (fun w _ _ _ hxy hyz => baseUp_mono w hxy hyz) a.ascending hstart hprice

/-- **A buy pays for the rise of the price and is given no more than it.**
Source: `state/virtual_pool.rs`, the two calculators of a buy -/
theorem buy_bounds {low high input output : ℕ}
    (h : PoolState.CurvePath a BuyMove low high (input, output)) :
    a.raisedTo high ≤ a.raisedTo low + input ∧ a.soldTo low + output ≤ a.soldTo high :=
  ⟨h.climb_le quoteUp_self (fun L _ _ _ hxy hyz => quoteUp_add_le L hxy hyz) a.ascending
      (AddMonoidHom.fst ℕ ℕ) (fun _ _ _ _ hmove => hmove.1),
    h.le_climb baseExact_self (fun L x y z _ _ => baseExact_add L x y z) a.ascending
      ((Nat.castAddMonoidHom ℚ).comp (AddMonoidHom.snd ℕ ℕ)) (fun _ _ _ _ hmove => hmove.2)⟩

end AcceptedConfig

/-! ## The reserves along the curve -/

/-- The reserves of a pool are on the right side of its curve: at least the rounded-up quote of
the price was raised, and at most the base of the price was sold.
Source: `state/virtual_pool.rs` `apply_swap_result_internal` -/
structure OnCurve (a : AcceptedConfig) (supply : ℕ) (p : PoolState) : Prop where
  priceInRange : p.PriceInRange a
  raised : a.raisedTo p.sqrtPrice ≤ p.quoteReserve + p.virtualQuoteReserve
  sold : (supply : ℚ) ≤ p.baseReserve + a.soldTo p.sqrtPrice
  baseReserve_le : p.baseReserve ≤ supply

section Steps

variable {l : Launch} {supply : ℕ} {w w' : World} {isVirtual : Bool} {x : Trade} {a : Action}

/-- A trade of a launched pool exchanges along its curve.
Source: `state/virtual_pool.rs`, the three swap modes -/
theorem TradeMove.path (hp : w.pool.PriceInRange l.accepted)
    (trade : TradeMove l.deployment isVirtual x w w') :
    x.next ≤ l.config.migrationSqrtPrice ∧
      PoolState.CurvePath l.accepted BuyMove w.pool.sqrtPrice x.next
        (x.quoteIn + x.virtualIn, x.baseOut) := by
  obtain ⟨tracker, mode, m, amount, point, eligible, r, hr, hnext, hin, hout⟩ := trade.result
  have hex := PoolState.getSwapResult2_exchange (p := { w.pool with volatilityTracker := tracker })
    l.accepted hp hr
  rw [hnext, hin, hout] at hex
  exact hex

/-- A trade keeps the reserves on the right side of the curve.
Source: `state/virtual_pool.rs` `apply_swap_result_internal` -/
theorem OnCurve.of_trade (hw : OnCurve l.accepted supply w.pool)
    (trade : TradeMove l.deployment isVirtual x w w') : OnCurve l.accepted supply w'.pool := by
  obtain ⟨hnext, hpath⟩ := trade.path hw.priceInRange
  obtain ⟨hraised, hsold⟩ := l.accepted.buy_bounds hpath
  have hrise := hpath.le l.accepted.ascending
  have hle := trade.baseOut_le
  have hin := trade.baseIn_eq
  have hout := trade.quoteOut_eq
  have h1 := hw.raised
  have h2 := hw.sold
  have h3 := hw.baseReserve_le
  rw [trade.pool]
  constructor
  · exact ⟨hw.priceInRange.1.trans hrise, hnext⟩
  · simp only [PoolState.afterTrade, PoolState.withFees]
    omega
  · simp only [PoolState.afterTrade, PoolState.withFees, hin, Nat.add_zero]
    push_cast [Nat.cast_sub hle]
    linarith
  · simp only [PoolState.afterTrade, PoolState.withFees]
    omega

/-- **What is left in the reserve covers all that was not sized for the sale.**
Source: `params/liquidity_distribution.rs` `get_base_token_for_swap` -/
theorem OnCurve.supply_le {p : PoolState} (hp : OnCurve l.accepted supply p) :
    supply ≤ p.baseReserve + l.config.swapBaseAmount := by
  have hsold := l.accepted.soldTo_le_swapBaseAmount hp.priceInRange.1 hp.priceInRange.2
  have hcast : (supply : ℚ) ≤ p.baseReserve + l.config.swapBaseAmount :=
    hp.sold.trans (by gcongr)
  exact_mod_cast hcast

/-- **The reserves stay on the right side of the curve through every move.**
Source: `state/virtual_pool.rs` `apply_swap_result_internal` -/
theorem OnCurve.of_transition (hw : OnCurve l.accepted supply w.pool)
    (h : Transition l.deployment w a w') : OnCurve l.accepted supply w'.pool := by
  rcases h.quiet_or with hq | ⟨_, _, mid, trade, completion⟩ | ⟨_, move⟩ | ⟨_, move⟩
  · refine ⟨?_, ?_, ?_, ?_⟩
    · rw [PoolState.PriceInRange, hq.sqrtPrice]
      exact hw.priceInRange
    · rw [hq.sqrtPrice, hq.quoteReserve, hq.virtualQuoteReserve]
      exact hw.raised
    · rw [hq.sqrtPrice, hq.baseReserve]
      exact hw.sold
    · rw [hq.baseReserve]
      exact hw.baseReserve_le
  · have hmid := hw.of_trade trade
    cases completion with
    | «open» => exact hmid
    | complete => exact ⟨hmid.priceInRange, hmid.raised, hmid.sold, hmid.baseReserve_le⟩
  · rw [move.eq]
    exact ⟨hw.priceInRange, hw.raised, hw.sold, hw.baseReserve_le⟩
  · rw [move.eq]
    exact ⟨hw.priceInRange, hw.raised, hw.sold, hw.baseReserve_le⟩

end Steps

namespace Launch

variable (l : Launch) (actions : List Action)

/-- A new pool is at the start of its curve.
Source: `state/virtual_pool.rs` `initialize` -/
theorem onCurve_genesis : OnCurve l.accepted l.initialBaseSupply l.genesis.pool := by
  obtain ⟨activationPoint, _, hgenesis, _⟩ := l.genesis_eq
  have hprice : l.genesis.pool.sqrtPrice = l.config.sqrtStartPrice := by
    rw [hgenesis]
    rfl
  refine ⟨⟨hprice.ge, hprice.le.trans l.accepted.sqrtStartPrice_le_migration⟩, ?_, ?_, le_rfl⟩
  · rw [hprice, AcceptedConfig.raisedTo, climb_self quoteUp_self l.accepted.ascending]
    exact Nat.zero_le _
  · rw [hprice, l.accepted.soldTo_start, add_zero]
    rfl

/-- In every run the price, the quote raised and the base sold stay together on the curve.
Source: `state/virtual_pool.rs` `apply_swap_result_internal` -/
theorem onCurve : OnCurve l.accepted l.initialBaseSupply (l.after actions).pool :=
  invariant_of_transition (fun w => OnCurve l.accepted l.initialBaseSupply w.pool)
    (fun _ _ _ hw hmove => hw.of_transition hmove) l.onCurve_genesis

/-- **Reaching the migration price completes the sale.** After every run the price is between the
start and the migration price, at least the rounded-up quote of the curve up to it was raised,
and a pool at its migration price has raised its threshold.
Source: `state/virtual_pool.rs` `is_curve_complete`; `params/liquidity_distribution.rs`
`get_migration_threshold_price` -/
theorem completes_at_migrationPrice (l : Launch) (actions : List Action) :
    let p := (l.after actions).pool
    l.config.sqrtStartPrice ≤ p.sqrtPrice ∧ p.sqrtPrice ≤ l.config.migrationSqrtPrice ∧
      climb quoteUp l.config.sqrtStartPrice l.accepted.ladder p.sqrtPrice ≤
        p.quoteReserve + p.virtualQuoteReserve ∧
      (p.sqrtPrice = l.config.migrationSqrtPrice →
        p.isCurveComplete l.config.migrationQuoteThreshold = true) := by
  intro p
  have h := l.onCurve actions
  refine ⟨h.priceInRange.1, h.priceInRange.2, h.raised, fun hstop => ?_⟩
  have hraised := h.raised
  rw [hstop, AcceptedConfig.raisedTo, l.accepted.threshold_eq_climb] at hraised
  have hlt := l.accepted.threshold_lt
  rw [isCurveComplete_iff]
  exact le_min hraised (Nat.le_sub_one_of_lt hlt)

/-! ## The base of the sale -/

/-- The supply covers the sale, the migration and the vesting.
Source: `state/config.rs` `get_initial_base_supply` -/
theorem initialBaseSupply_ge : ∃ locked,
    l.config.lockedVestingConfig.getTotalAmount = .ok locked ∧
      l.config.swapBaseAmount + l.config.migrationBaseThreshold + locked ≤ l.initialBaseSupply ∧
      l.initialBaseSupply < 2 ^ 64 := by
  obtain ⟨_, hsupply, _, _⟩ := l.genesis_eq
  exact l.accepted.initialBaseSupply_ge hsupply

/-- **No result overdraws the base reserve.**
Source: `state/virtual_pool.rs` `apply_swap_result_internal`, the subtraction from
`base_reserve` -/
theorem curveOutput_le_baseReserve {tracker : VolatilityTracker} {mode : SwapMode} {m : FeeMode}
    {amount point : ℕ} {eligible : Bool} {r : SwapResult2}
    (h : PoolState.getSwapResult2 { (l.after actions).pool with volatilityTracker := tracker } mode
      l.config amount m .quoteToBase point eligible = .ok r) :
    curveOutput m r ≤ (l.after actions).pool.baseReserve := by
  have hw := l.onCurve actions
  obtain ⟨hnext, hpath⟩ := PoolState.getSwapResult2_exchange
    (p := { (l.after actions).pool with volatilityTracker := tracker }) l.accepted
    hw.priceInRange h
  obtain ⟨_, hsold⟩ := l.accepted.buy_bounds hpath
  have hstart := hw.priceInRange.1.trans (hpath.le l.accepted.ascending)
  have hsized := l.accepted.soldTo_le_swapBaseAmount hstart hnext
  obtain ⟨locked, _, hsupply, _⟩ := l.initialBaseSupply_ge
  have hswap : (l.config.swapBaseAmount : ℚ) ≤ l.initialBaseSupply := by
    exact_mod_cast (by omega : l.config.swapBaseAmount ≤ l.initialBaseSupply)
  have hcast : (curveOutput m r : ℚ) ≤ (l.after actions).pool.baseReserve := by
    have hreserve := hw.sold
    simp only at hsold
    linarith
  exact_mod_cast hcast

/-- **A trade that is settled can always end the sale.**
Source: `instructions/swap/process_swap.rs` `process_swap`, `curve_complete` -/
theorem completeCurve_isOk {isVirtual : Bool} {x : Trade} {mid : World}
    (trade : TradeMove l.deployment isVirtual x (l.after actions) mid) :
    ∃ w', l.deployment.completeCurve mid = .ok w' := by
  have hpre := trade.progress (l.lifecycle actions).ended
  have hprogress : mid.pool.migrationProgress = .preBondingCurve := by
    rw [trade.pool]
    exact hpre
  obtain ⟨locked, hlocked, hsupply, hlt⟩ := l.initialBaseSupply_ge
  have hbacked := (l.backed actions).of_trade trade
  have hallotted : Allotted l.deployment mid :=
    (l.allotted actions).of_spent_eq (hprogress.trans hpre.symm) trade.spent_eq.1
      trade.spent_eq.2.2
  have hbase := hbacked.baseVault_eq hallotted (by rw [hprogress]; decide) hlocked
  rw [if_neg (by simp [hprogress])] at hbase
  have hreserve := ((l.onCurve actions).of_trade trade).supply_le
  have hvault : mid.baseVault ≤ l.initialBaseSupply := by
    have h1 := l.baseVault_le actions
    have h2 := trade.baseVault
    have h3 := trade.baseFee_le
    omega
  unfold Deployment.completeCurve
  split_ifs with hcomplete
  · refine ⟨l.deployment.completed mid, ?_⟩
    simp only [bind_eq_ok, exists_unit, require_eq_ok, PoolState.getProtocolAndTradingBaseFee,
      safeAdd_eq_ok, pure_eq_ok]
    have hneeded : l.config.swapBaseAmount + l.deployment.config.migrationBaseThreshold + locked ≤
        l.initialBaseSupply := hsupply
    refine ⟨_, ⟨_, ⟨?_, rfl⟩, ?_, rfl⟩, _, ⟨?_, rfl⟩, locked, hlocked, _, ⟨?_, rfl⟩, ?_, trivial⟩
    all_goals omega
  · exact ⟨mid, rfl⟩

/-- **The swap that raises the threshold is never short of base.** After every run the reserve
holds all of the supply that was not sized for the sale; no result takes more out of the reserve
than it holds; and a swap that comes as far as its settlement passes the check at the end of the
sale.
Source: `instructions/swap/process_swap.rs` `process_swap`; `state/virtual_pool.rs`
`apply_swap_result_internal` -/
theorem completion_funded (l : Launch) (actions : List Action) :
    let w := l.after actions
    l.initialBaseSupply - l.config.swapBaseAmount ≤ w.pool.baseReserve ∧
      (∀ tracker mode amount m point eligible r,
        PoolState.getSwapResult2 { w.pool with volatilityTracker := tracker } mode l.config amount m
          .quoteToBase point eligible = .ok r → curveOutput m r ≤ w.pool.baseReserve) ∧
      ∀ request isVirtual c m r p mid,
        l.deployment.validateSwap w request isVirtual = .ok c →
        l.deployment.computeSwap w request isVirtual c = .ok (m, r, p) →
        l.deployment.settleSwap (w.withPool p) request isVirtual m r = .ok mid →
          ∃ w', l.deployment.completeCurve mid = .ok w' := by
  refine ⟨?_, fun _ _ _ _ _ _ _ h => l.curveOutput_le_baseReserve actions h, ?_⟩
  · have h := (l.onCurve actions).supply_le
    omega
  · intro request isVirtual c m r p mid hvalid hcompute hsettle
    obtain ⟨x, htrade⟩ := settled_spec hvalid hcompute hsettle
    exact l.completeCurve_isOk actions htrade

end Launch

end DynamicBondingCurve
