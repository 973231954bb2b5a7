import DynamicBondingCurve.ExactBuys

/-!
# Splitting and enlarging a buy

A buy for an amount in goes to the highest price whose cost the amount covers. Each cost rounds up
and each yield rounds down, so a stop on the way can only add to the cost and take from the yield.

* `AcceptedConfig.costTo_le_add`, `AcceptedConfig.yieldTo_add_le`: a stop on the way, for the cost
  and for the yield.
* `PoolState.calculateQuoteToBaseFromAmountIn_mono`: **a larger buy gives at least as much** and
  goes at least as far.
* `PoolState.splitBuy_le`: **two buys in a row give at most what one buy of their sum gives**, and
  go at most as far.
-/

namespace DynamicBondingCurve

open Library

/-! ## A stop on the way -/

namespace AcceptedConfig

variable (a : AcceptedConfig) {low middle high : ℕ}

/-- A stop on the way never makes a climb cheaper.
Source: `curve.rs` `get_delta_amount_quote_unsigned_unchecked`, `Rounding::Up`, summed along
`PoolConfig` `curve` -/
theorem costTo_le_add (hstart : a.config.sqrtStartPrice ≤ low) (hlow : low ≤ middle)
    (hhigh : middle ≤ high) : a.costTo low high ≤ a.costTo low middle + a.costTo middle high := by
  have h := climb_le_climb_add_above quoteUp_self
    (fun L _ _ _ _ hxy hyz => quoteUp_add_le L hxy hyz) (a.ascending_above hstart) hlow hhigh
  rw [above_above hlow] at h
  exact h

/-- A stop on the way never makes a climb give more.
Source: `curve.rs` `get_delta_amount_base_unsigned_unchecked`, `Rounding::Down`, summed along
`PoolConfig` `curve` -/
theorem yieldTo_add_le (hstart : a.config.sqrtStartPrice ≤ low) (hlow : low ≤ middle)
    (hhigh : middle ≤ high) :
    a.yieldTo low middle + a.yieldTo middle high ≤ a.yieldTo low high := by
  have hpos : 0 < low := a.sqrtStartPrice_pos.trans_le hstart
  have h := climb_add_above_le_climb baseDown_self
    (fun L _ _ _ hx hxy hyz => baseDown_add_le L (hpos.trans_le hx) hxy hyz)
    (a.ascending_above hstart) hlow hhigh
  rw [above_above hlow] at h
  exact h

end AcceptedConfig

/-! ## Two runs -/

namespace PoolState

variable (a : AcceptedConfig) {p q : PoolState} {amount1 amount2 : ℕ}

/-- **A larger buy gives at least as much and goes at least as far.**
Source: `state/virtual_pool.rs` `calculate_quote_to_base_from_amount_in` -/
theorem calculateQuoteToBaseFromAmountIn_mono (hp : p.PriceInRange a) (hle : amount1 ≤ amount2)
    (hamount : amount2 < 2 ^ 64) :
    ∃ small large,
      p.calculateQuoteToBaseFromAmountIn a.config amount1 a.config.migrationSqrtPrice = .ok small ∧
      p.calculateQuoteToBaseFromAmountIn a.config amount2 a.config.migrationSqrtPrice = .ok large ∧
      small.outputAmount ≤ large.outputAmount ∧ small.nextSqrtPrice ≤ large.nextSqrtPrice := by
  obtain ⟨small, hsmall, ⟨⟨hlow, hstop, hcost⟩, _⟩, _, hout, _⟩ :=
    calculateQuoteToBaseFromAmountIn_bought a hp (hle.trans_lt hamount)
  obtain ⟨large, hlarge, ⟨_, hgreatest⟩, _, hout', _⟩ :=
    calculateQuoteToBaseFromAmountIn_bought a hp hamount
  -- what the smaller amount covers, the larger one covers
  have hnext : small.nextSqrtPrice ≤ large.nextSqrtPrice := by
    apply hgreatest
    exact ⟨hlow, hstop, hcost.trans hle⟩
  refine ⟨small, large, hsmall, hlarge, ?_, hnext⟩
  rw [hout, hout']
  exact a.yieldTo_mono hp.1 hlow hnext

/-- Two buys in a row, the second from the price of the first, against one buy of their sum.
Source: `state/virtual_pool.rs` `calculate_quote_to_base_from_amount_in`,
`apply_swap_result`, the next price -/
theorem calculateQuoteToBaseFromAmountIn_add {first : SwapAmountFromInput} (hp : p.PriceInRange a)
    (hamount : amount1 + amount2 < 2 ^ 64)
    (hfirst : p.calculateQuoteToBaseFromAmountIn a.config amount1 a.config.migrationSqrtPrice =
      .ok first) (hq : q.sqrtPrice = first.nextSqrtPrice) :
    ∃ second whole,
      q.calculateQuoteToBaseFromAmountIn a.config amount2 a.config.migrationSqrtPrice =
        .ok second ∧
      p.calculateQuoteToBaseFromAmountIn a.config (amount1 + amount2) a.config.migrationSqrtPrice =
        .ok whole ∧
      first.outputAmount + second.outputAmount ≤ whole.outputAmount ∧
      second.nextSqrtPrice ≤ whole.nextSqrtPrice := by
  have hamount1 : amount1 < 2 ^ 64 := by omega
  have hamount2 : amount2 < 2 ^ 64 := by omega
  obtain ⟨first', hfirst', ⟨⟨hlow, hstop, hcost⟩, _⟩, _, hout, _⟩ :=
    calculateQuoteToBaseFromAmountIn_bought a hp hamount1
  obtain rfl : first' = first := Except.ok.inj (hfirst'.symm.trans hfirst)
  rw [← hq] at hlow hstop hcost hout
  have hrange : q.PriceInRange a := ⟨hp.1.trans hlow, hstop⟩
  obtain ⟨second, hsecond, ⟨⟨hlow', hstop', hcost'⟩, _⟩, _, hout', _⟩ :=
    calculateQuoteToBaseFromAmountIn_bought a hrange hamount2
  obtain ⟨whole, hwhole, ⟨_, hgreatest⟩, _, hout'', _⟩ :=
    calculateQuoteToBaseFromAmountIn_bought a hp hamount
  -- the sum of the amounts covers the climb to the price of the second buy
  have hnext : second.nextSqrtPrice ≤ whole.nextSqrtPrice := by
    apply hgreatest
    refine ⟨hlow.trans hlow', hstop', ?_⟩
    calc a.costTo p.sqrtPrice second.nextSqrtPrice
        ≤ a.costTo p.sqrtPrice q.sqrtPrice + a.costTo q.sqrtPrice second.nextSqrtPrice :=
          a.costTo_le_add hp.1 hlow hlow'
      _ ≤ amount1 + amount2 := Nat.add_le_add hcost hcost'
  refine ⟨second, whole, hsecond, hwhole, ?_, hnext⟩
  rw [hout, hout', hout'']
  calc a.yieldTo p.sqrtPrice q.sqrtPrice + a.yieldTo q.sqrtPrice second.nextSqrtPrice
      ≤ a.yieldTo p.sqrtPrice second.nextSqrtPrice := a.yieldTo_add_le hp.1 hlow hlow'
    _ ≤ a.yieldTo p.sqrtPrice whole.nextSqrtPrice := a.yieldTo_mono hp.1 (hlow.trans hlow') hnext

/-- **Neither splitting nor shrinking a buy is an advantage.** From a price of the sale, two buys in
a row, whatever else the pool does between them, give at most what one buy of their sum gives and go
at most as far; and a larger buy gives at least as much and goes at least as far. Neither needs the
amounts to be used in full.
Source: `state/virtual_pool.rs` `calculate_quote_to_base_from_amount_in`; `curve.rs`
`get_delta_amount_base_unsigned`, `get_delta_amount_quote_unsigned`,
`get_next_sqrt_price_from_quote_amount_in_rounding_down` -/
theorem splitBuy_le (a : AcceptedConfig) (p : PoolState) (hp : p.PriceInRange a) :
    (∀ amount1 amount2, amount1 + amount2 < 2 ^ 64 →
      ∃ first whole,
        p.calculateQuoteToBaseFromAmountIn a.config amount1 a.config.migrationSqrtPrice =
          .ok first ∧
        p.calculateQuoteToBaseFromAmountIn a.config (amount1 + amount2)
          a.config.migrationSqrtPrice = .ok whole ∧
        ∀ q : PoolState, q.sqrtPrice = first.nextSqrtPrice →
          ∃ second,
            q.calculateQuoteToBaseFromAmountIn a.config amount2 a.config.migrationSqrtPrice =
              .ok second ∧
            first.outputAmount + second.outputAmount ≤ whole.outputAmount ∧
            second.nextSqrtPrice ≤ whole.nextSqrtPrice) ∧
    (∀ amount1 amount2, amount1 ≤ amount2 → amount2 < 2 ^ 64 →
      ∃ small large,
        p.calculateQuoteToBaseFromAmountIn a.config amount1 a.config.migrationSqrtPrice =
          .ok small ∧
        p.calculateQuoteToBaseFromAmountIn a.config amount2 a.config.migrationSqrtPrice =
          .ok large ∧
        small.outputAmount ≤ large.outputAmount ∧ small.nextSqrtPrice ≤ large.nextSqrtPrice) := by
  constructor
  · intro amount1 amount2 hamount
    obtain ⟨first, whole, hfirst, hwhole, -⟩ :=
      calculateQuoteToBaseFromAmountIn_mono a hp (Nat.le_add_right amount1 amount2) hamount
    refine ⟨first, whole, hfirst, hwhole, ?_⟩
    intro q hq
    obtain ⟨second, whole', hsecond, hwhole', hle⟩ :=
      calculateQuoteToBaseFromAmountIn_add a hp hamount hfirst hq
    obtain rfl : whole' = whole := Except.ok.inj (hwhole'.symm.trans hwhole)
    exact ⟨second, hsecond, hle⟩
  · intro amount1 amount2 hle hamount
    exact calculateQuoteToBaseFromAmountIn_mono a hp hle hamount

/-- From the start of the sale with the thin tail, in two buys whose sum reaches the tail. -/
theorem splitBuy_le_thinTail :
    ∃ first whole,
      Launch.thinTail.genesis.pool.calculateQuoteToBaseFromAmountIn Launch.thinTail.accepted.config
        (2 ^ 26) Launch.thinTail.accepted.config.migrationSqrtPrice = .ok first ∧
      Launch.thinTail.genesis.pool.calculateQuoteToBaseFromAmountIn Launch.thinTail.accepted.config
        (2 ^ 26 + 1000) Launch.thinTail.accepted.config.migrationSqrtPrice = .ok whole ∧
      ∀ q : PoolState, q.sqrtPrice = first.nextSqrtPrice →
        ∃ second,
          q.calculateQuoteToBaseFromAmountIn Launch.thinTail.accepted.config 1000
            Launch.thinTail.accepted.config.migrationSqrtPrice = .ok second ∧
          first.outputAmount + second.outputAmount ≤ whole.outputAmount ∧
          second.nextSqrtPrice ≤ whole.nextSqrtPrice :=
  (splitBuy_le Launch.thinTail.accepted Launch.thinTail.genesis.pool
    ⟨by decide +kernel, by decide +kernel⟩).1 (2 ^ 26) 1000 (by decide)

end PoolState

end DynamicBondingCurve
