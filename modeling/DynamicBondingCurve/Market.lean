import DynamicBondingCurve.Sale

/-!
# Trading in both directions

The instructions of the program only buy, but the state of a pool can price and apply sells as
well. Here a pool is traded in both directions, as the calculators allow it.

* `PoolState.quoteSwap`, `PoolState.trade`: a trade computed and applied.
* `InMarket`, `InMarket.of_step`: the reserves cover the way back along the curve.
* `Launch.market_solvent`: **no trade overdraws a reserve, and no round trip makes a profit.**
-/

namespace DynamicBondingCurve

open Library

/-! ## Trades -/

/-- A trade in either direction.
Source: `tests/test_swap.rs` `simulate_swap_partiall_fill`, `simulate_swap_exact_out`, their
arguments -/
structure TradeRequest where
  mode : SwapMode
  amount : ℕ
  tradeDirection : TradeDirection
  hasReferral : Bool
  currentPoint : ℕ
  timestamp : ℕ
  eligible : Bool
  deriving DecidableEq, Repr

/-- What a market does to the state of a pool.
Source: `instructions/swap/process_swap.rs` `process_swap`, the calls on the state of the pool -/
inductive MarketAction where
  | updatePreSwap (timestamp : ℕ)
  | trade (request : TradeRequest)
  deriving DecidableEq, Repr

namespace PoolState

variable (p : PoolState) (config : PoolConfig)

/-- The amounts of a trade.
Source: `tests/test_swap.rs` `simulate_swap_partiall_fill`, `simulate_swap_exact_out`, up to the
result -/
def quoteSwap (request : TradeRequest) : Result (FeeMode × SwapResult2) := do
  let feeMode ← FeeMode.getFeeMode config.collectFeeMode request.tradeDirection
    request.hasReferral
  let r ← p.getSwapResult2 request.mode config request.amount feeMode request.tradeDirection
    request.currentPoint request.eligible
  pure (feeMode, r)

/-- A trade on the pool alone, applied as a real swap.
Source: `tests/test_swap.rs` `simulate_swap_partiall_fill`, `simulate_swap_exact_out` -/
def trade (request : TradeRequest) : Result PoolState := do
  let (feeMode, r) ← p.quoteSwap config request
  p.applySwapResult config r.getSwapResult feeMode request.tradeDirection request.timestamp

/-- One action on the pool alone.
Source: `tests/test_swap.rs` `test_swap_wont_depelete_reserve`, the loop -/
def marketStep : MarketAction → Result PoolState
  | .updatePreSwap timestamp => p.updatePreSwap config timestamp
  | .trade request => p.trade config request

end PoolState

namespace AcceptedConfig

variable (a : AcceptedConfig)

/-- The quote that the curve takes up to a price, in units of `2 ^ -128`.
Source: `state/config.rs` `PoolConfig` `curve`; `curve.rs` `get_delta_amount_quote_unsigned` -/
def quoteTo (price : ℕ) : ℕ := climb quoteExact a.config.sqrtStartPrice a.ladder price

/-- A buy pays for the exact quote of the rise.
Source: `state/virtual_pool.rs`, the two calculators of a buy -/
theorem buy_quoteTo_le {low high input output : ℕ}
    (h : PoolState.CurvePath a BuyMove low high (input, output)) :
    a.quoteTo high ≤ a.quoteTo low + 2 ^ 128 * input := by
  refine h.climb_le quoteExact_self (fun L _ _ _ hxy hyz => (quoteExact_add L hxy hyz).le)
    a.ascending ((AddMonoidHom.mulLeft (2 ^ 128)).comp (AddMonoidHom.fst ℕ ℕ)) ?_
  intro L x y z hmove
  exact (quoteExact_le_mul_quoteUp L x y).trans (Nat.mul_le_mul_left _ hmove.1)

/-- **A sell is paid no more than the fall of the price and gives at least its base.**
Source: `state/virtual_pool.rs`, the two calculators of a sell -/
theorem sell_bounds {low high input output : ℕ}
    (h : PoolState.CurvePath a SellMove low high (output, input)) :
    a.quoteTo low + 2 ^ 128 * output ≤ a.quoteTo high ∧ a.soldTo high ≤ a.soldTo low + input :=
  ⟨h.le_climb quoteExact_self (fun L _ _ _ hxy hyz => quoteExact_add L hxy hyz) a.ascending
      ((AddMonoidHom.mulLeft (2 ^ 128)).comp (AddMonoidHom.fst ℕ ℕ))
      (fun _ _ _ _ hmove => hmove.1),
    h.climb_le baseExact_self (fun L x y z _ _ => (baseExact_add L x y z).le) a.ascending
      ((Nat.castAddMonoidHom ℚ).comp (AddMonoidHom.snd ℕ ℕ)) (fun _ _ _ _ hmove => hmove.2)⟩

/-- The curve up to a higher price costs more. -/
theorem quoteTo_mono {low high : ℕ} (hlow : a.config.sqrtStartPrice ≤ low) (h : low ≤ high) :
    a.quoteTo low ≤ a.quoteTo high :=
  climb_mono quoteExact_self (fun _ _ _ _ => Nat.zero_le _)
    (fun L _ _ _ _ hyz => quoteExact_mono L hyz) a.ascending hlow h

/-- A price at which less was sold is lower. -/
theorem le_of_soldTo_le {p q : ℕ} (hq : a.config.sqrtStartPrice ≤ q)
    (htop : p ≤ ladderTop a.config.sqrtStartPrice a.ladder) (h : a.soldTo p ≤ a.soldTo q) :
    p ≤ q := by
  by_contra hlt
  refine absurd h (not_le.mpr ?_)
  refine climb_strictMono baseExact_self (fun L x y z _ _ => baseExact_add L x y z) a.ascending
    ?_ hq (not_le.mp hlt) htop
  rintro L x y ⟨hi, hmem⟩ hx hxy
  obtain ⟨point, hpoint, heq⟩ := List.mem_map.mp hmem
  have hL : 0 < L := by
    have hpos := (a.liquidityInRange point hpoint).1
    rw [Prod.mk.injEq] at heq
    omega
  exact baseExact_pos hL (lt_of_lt_of_le a.sqrtStartPrice_pos hx) hxy

end AcceptedConfig

/-! ## The reserves of a market -/

/-- The reserves of a pool cover the way back along the curve.
Source: `state/virtual_pool.rs` `apply_swap_result_internal` -/
structure InMarket (a : AcceptedConfig) (supply : ℕ) (p : PoolState) : Prop where
  priceInRange : p.PriceInRange a
  quote : a.quoteTo p.sqrtPrice ≤ 2 ^ 128 * p.quoteReserve
  base : (supply : ℚ) ≤ p.baseReserve + a.soldTo p.sqrtPrice

section Steps

variable {a : AcceptedConfig} {supply : ℕ} {p p' : PoolState} {request : TradeRequest}
  {m : FeeMode} {r : SwapResult2}

/-- A trade that is computed moves the price along the curve.
Source: `state/virtual_pool.rs`, the three swap modes -/
theorem quoteSwap_exchange (hp : p.PriceInRange a)
    (h : p.quoteSwap a.config request = .ok (m, r)) :
    SwapFill m r ∧ p.Exchange a request.tradeDirection r.nextSqrtPrice r.excludedFeeInputAmount
      (curveOutput m r) := by
  simp only [PoolState.quoteSwap, bind_eq_ok, pure_eq_ok, Prod.mk.injEq] at h
  obtain ⟨_, _, _, hr, rfl, rfl⟩ := h
  exact ⟨PoolState.getSwapResult2_fill hr, PoolState.getSwapResult2_exchange a hp hr⟩

/-- **No result overdraws the reserve it is paid from.**
Source: `state/virtual_pool.rs` `apply_swap_result_internal`, the subtractions from the
reserves -/
theorem InMarket.output_le (hp : InMarket a supply p) (hsupply : a.config.swapBaseAmount ≤ supply)
    (h : p.quoteSwap a.config request = .ok (m, r)) :
    curveOutput m r ≤ match request.tradeDirection with
      | .quoteToBase => p.baseReserve
      | .baseToQuote => p.quoteReserve := by
  obtain ⟨_, hex⟩ := quoteSwap_exchange hp.priceInRange h
  cases hdir : request.tradeDirection with
  | quoteToBase =>
    rw [hdir] at hex
    obtain ⟨hnext, hpath⟩ := hex
    obtain ⟨_, hsold⟩ := a.buy_bounds hpath
    have hsized := a.soldTo_le_swapBaseAmount
      (hp.priceInRange.1.trans (hpath.le a.ascending)) hnext
    have hswap : (a.config.swapBaseAmount : ℚ) ≤ supply := by exact_mod_cast hsupply
    have hbase := hp.base
    have hcast : (curveOutput m r : ℚ) ≤ p.baseReserve := by linarith
    exact_mod_cast hcast
  | baseToQuote =>
    rw [hdir] at hex
    obtain ⟨_, hpath⟩ := hex
    obtain ⟨hquote, _⟩ := a.sell_bounds hpath
    have hreserve := hp.quote
    simp only
    omega

/-- A trade moves the reserves with the price.
Source: `state/virtual_pool.rs` `apply_swap_result_internal` -/
theorem InMarket.of_trade (hp : InMarket a supply p)
    (h : p.trade a.config request = .ok p') : InMarket a supply p' := by
  simp only [PoolState.trade, bind_eq_ok] at h
  obtain ⟨⟨m, r⟩, hquote, happly⟩ := h
  obtain ⟨_, hex⟩ := quoteSwap_exchange hp.priceInRange hquote
  obtain ⟨x, hof, rfl, hbaseOut, hquoteOut⟩ := PoolState.applySwapResultInternal_spec happly
  have hrange := hex.priceInRange a hp.priceInRange
  have hnext := hof.next
  have h1 := hp.quote
  have h2 := hp.base
  cases hdir : request.tradeDirection with
  | quoteToBase =>
    rw [hdir] at hex
    obtain ⟨hbaseIn, hqOut, hout⟩ := hof.buy hdir
    obtain ⟨hquoteIn, _⟩ := hof.real hdir rfl
    obtain ⟨_, hsold⟩ := a.buy_bounds hex.2
    have hpaid := a.buy_quoteTo_le hex.2
    rw [hout] at hbaseOut
    refine ⟨?_, ?_, ?_⟩
    · rw [PoolState.PriceInRange]
      simp only [PoolState.afterTrade, hnext]
      exact hrange
    · simp only [PoolState.afterTrade, hnext, hquoteIn, hqOut]
      omega
    · simp only [PoolState.afterTrade, PoolState.withFees, hnext, hbaseIn, hout, Nat.add_zero]
      push_cast [Nat.cast_sub hbaseOut]
      linarith
  | baseToQuote =>
    rw [hdir] at hex
    obtain ⟨hbaseIn, hqOut, hout, hquoteIn, _⟩ := hof.sell hdir
    obtain ⟨hpaid, hsold⟩ := a.sell_bounds hex.2
    rw [hqOut] at hquoteOut
    refine ⟨?_, ?_, ?_⟩
    · rw [PoolState.PriceInRange]
      simp only [PoolState.afterTrade, hnext]
      exact hrange
    · simp only [PoolState.afterTrade, hnext, hquoteIn, hqOut]
      omega
    · simp only [PoolState.afterTrade, PoolState.withFees, hnext, hbaseIn, hout, Nat.sub_zero]
      push_cast
      linarith

/-- **The reserves of a market cover the way back after every step.**
Source: `state/virtual_pool.rs` `apply_swap_result_internal` -/
theorem InMarket.of_step {action : MarketAction} (hp : InMarket a supply p)
    (h : p.marketStep a.config action = .ok p') : InMarket a supply p' := by
  cases action with
  | updatePreSwap timestamp =>
    obtain ⟨tracker, rfl⟩ := PoolState.updatePreSwap_spec h
    exact ⟨hp.priceInRange, hp.quote, hp.base⟩
  | trade request => exact hp.of_trade h

/-- **Selling back what a buy gave returns at most what the buy cost.**
Source: `state/virtual_pool.rs`, the calculators of buys and of sells -/
theorem InMarket.roundTrip_le {buy sell : TradeRequest} {tracker : VolatilityTracker}
    {m' : FeeMode} {r' : SwapResult2} (hp : InMarket a supply p)
    (hbuy : buy.tradeDirection = .quoteToBase) (hsell : sell.tradeDirection = .baseToQuote)
    (hquote : p.quoteSwap a.config buy = .ok (m, r)) (htrade : p.trade a.config buy = .ok p')
    (hback : PoolState.quoteSwap { p' with volatilityTracker := tracker } a.config sell =
      .ok (m', r')) (hall : r'.includedFeeInputAmount ≤ r.outputAmount) :
    r'.outputAmount ≤ r.includedFeeInputAmount := by
  have hp' := hp.of_trade htrade
  obtain ⟨hfill, hex⟩ := quoteSwap_exchange hp.priceInRange hquote
  obtain ⟨hfill', hex'⟩ := quoteSwap_exchange
    (p := { p' with volatilityTracker := tracker }) hp'.priceInRange hback
  have hprice : p'.sqrtPrice = r.nextSqrtPrice := by
    simp only [PoolState.trade, bind_eq_ok] at htrade
    obtain ⟨⟨m1, r1⟩, hquote1, happly⟩ := htrade
    rw [hquote, Except.ok.injEq, Prod.mk.injEq] at hquote1
    obtain ⟨rfl, rfl⟩ := hquote1
    obtain ⟨x, hof, rfl, _, _⟩ := PoolState.applySwapResultInternal_spec happly
    exact hof.next
  rw [hbuy] at hex
  rw [hsell] at hex'
  obtain ⟨_, hup⟩ := hex
  obtain ⟨hstart, hdown⟩ := hex'
  simp only [hprice] at hdown
  obtain ⟨_, hbought⟩ := a.buy_bounds hup
  have hpaid := a.buy_quoteTo_le hup
  obtain ⟨hreturned, hsold⟩ := a.sell_bounds hdown
  have hin : r'.excludedFeeInputAmount ≤ r'.includedFeeInputAmount := by
    rw [hfill'.input]
    exact Nat.le_add_right _ _
  have hout : r.outputAmount ≤ curveOutput m r := by
    unfold curveOutput
    split_ifs <;> omega
  -- no more base comes back than was bought, so the price does not fall below where it began
  have hbase : (r'.excludedFeeInputAmount : ℚ) ≤ curveOutput m r := by
    exact_mod_cast hin.trans (hall.trans hout)
  have hfall : p.sqrtPrice ≤ r'.nextSqrtPrice :=
    a.le_of_soldTo_le hstart (hp.priceInRange.2.trans a.migration_le_ladderTop) (by linarith)
  have hfloor := a.quoteTo_mono hp.priceInRange.1 hfall
  have hexcluded : r.excludedFeeInputAmount ≤ r.includedFeeInputAmount := by
    rw [hfill.input]
    exact Nat.le_add_right _ _
  have hreceived : r'.outputAmount ≤ curveOutput m' r' := by
    unfold curveOutput
    split_ifs <;> omega
  omega

end Steps

/-! ## Launched pools -/

namespace Launch

variable (l : Launch) (actions : List MarketAction)

/-- The state of a new pool after trades in both directions.
Source: `tests/test_swap.rs` `test_swap_wont_depelete_reserve` -/
def market : PoolState :=
  run (fun p action => p.marketStep l.config action) l.genesis.pool actions

/-- In every run the reserves cover the way back along the curve.
Source: `state/virtual_pool.rs` `apply_swap_result_internal` -/
theorem inMarket : InMarket l.accepted l.initialBaseSupply (l.market actions) := by
  refine run_invariant (InMarket l.accepted l.initialBaseSupply) (fun _ => True)
    (fun _ _ _ _ hp h => hp.of_step h) (fun _ _ => trivial) ?_
  have hgenesis := l.onCurve_genesis
  have hprice : l.genesis.pool.sqrtPrice = l.config.sqrtStartPrice := by
    obtain ⟨_, _, h, _⟩ := l.genesis_eq
    rw [h]
    rfl
  refine ⟨hgenesis.priceInRange, ?_, hgenesis.sold⟩
  rw [hprice, AcceptedConfig.quoteTo, climb_self quoteExact_self l.accepted.ascending]
  exact Nat.zero_le _

/-- **Trading never depletes the reserves, and no round trip makes a profit.** After every
sequence of buys and sells the quote reserve covers the exact quote of the curve up to the price
and the base reserve covers all of the supply that the curve has not sold at that price; so no
result takes more out of a reserve than it holds; and selling back, in any mode, what a buy gave
returns at most what the buy cost.
Source: `state/virtual_pool.rs` `apply_swap_result_internal`, and the calculators of buys and
sells; `tests/test_swap.rs` `test_swap_wont_depelete_reserve` -/
theorem market_solvent (l : Launch) (actions : List MarketAction) :
    let p := l.market actions
    climb quoteExact l.config.sqrtStartPrice l.accepted.ladder p.sqrtPrice ≤
        p.quoteReserve * 2 ^ 128 ∧
      (l.initialBaseSupply : ℚ) -
          climb baseExact l.config.sqrtStartPrice l.accepted.ladder p.sqrtPrice ≤ p.baseReserve ∧
      (∀ request m r, p.quoteSwap l.config request = .ok (m, r) →
        curveOutput m r ≤ match request.tradeDirection with
          | .quoteToBase => p.baseReserve
          | .baseToQuote => p.quoteReserve) ∧
      ∀ (buy sell : TradeRequest) (m m' : FeeMode) (r r' : SwapResult2) (p' : PoolState)
        (tracker : VolatilityTracker),
        buy.tradeDirection = .quoteToBase → sell.tradeDirection = .baseToQuote →
        p.quoteSwap l.config buy = .ok (m, r) → p.trade l.config buy = .ok p' →
        PoolState.quoteSwap { p' with volatilityTracker := tracker } l.config sell =
          .ok (m', r') →
        r'.includedFeeInputAmount ≤ r.outputAmount →
          r'.outputAmount ≤ r.includedFeeInputAmount := by
  intro p
  have h := l.inMarket actions
  obtain ⟨_, _, hsupply, _⟩ := l.initialBaseSupply_ge
  have hswap : l.config.swapBaseAmount ≤ l.initialBaseSupply := by omega
  refine ⟨?_, ?_, fun _ _ _ hquote => h.output_le hswap hquote, ?_⟩
  · rw [Nat.mul_comm]
    exact h.quote
  · have hbase := h.base
    exact sub_le_iff_le_add.mpr hbase
  · intro buy sell m m' r r' p' tracker hbuy hsell hquote htrade hback hall
    exact h.roundTrip_le hbuy hsell hquote htrade hback hall

end Launch

end DynamicBondingCurve
