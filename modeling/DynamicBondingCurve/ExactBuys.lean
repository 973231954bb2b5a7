import DynamicBondingCurve.State.BuyWalks
import DynamicBondingCurve.Program

/-!
# Buys for an amount in against buys for an amount out

The exact amounts of `State/BuyWalks` compare the two calculators of a buy with each other, and
with the two loops that size the sale when a configuration is created.

* `PoolState.buy_consumes_threshold`: **from the start price a buy uses exactly the threshold up to
  the migration price.**
* `PoolState.amountOut_covered`: **a buy for an amount out is never charged too little**: its cost,
  paid in, gives at least the amount.
* `PoolState.amountOut_le_amountIn_iff`: **when it is not charged too much**: exactly when every
  segment that it crosses is paid for by the amount that bought the same output.
-/

namespace DynamicBondingCurve

open Library

namespace AcceptedConfig

variable (a : AcceptedConfig)

/-- A buy pays at most the threshold up to the migration price.
Source: `params/liquidity_distribution.rs` `get_migration_threshold_price` -/
theorem costTo_le_threshold {low high : ℕ} (h : a.config.sqrtStartPrice ≤ low) (hlow : low ≤ high)
    (hhigh : high ≤ a.config.migrationSqrtPrice) :
    a.costTo low high ≤ a.config.migrationQuoteThreshold := by
  rw [← a.threshold_eq_climb]
  calc a.costTo low high ≤ climb quoteUp a.config.sqrtStartPrice a.ladder high :=
        climb_above_le quoteUp_self (fun _ _ _ _ => Nat.zero_le _)
          (fun L _ _ _ _ hxy _ => quoteUp_anti L hxy) a.ascending h hlow
    _ ≤ climb quoteUp a.config.sqrtStartPrice a.ladder a.config.migrationSqrtPrice :=
        climb_quoteUp_mono a.ascending (h.trans hlow) hhigh

/-- A buy for `amountOut` crosses a segment only if `amountIn` pays for it: every point of the curve
up to which the yield, each segment rounded down, is at most `amountOut`, lies within the sale and
within what `amountIn` pays for.
Source: none: the condition under which `calculate_quote_to_base_from_amount_out` does not cross a
segment that `calculate_quote_to_base_from_amount_in` did not cross -/
def PaysCrossings (price amountIn amountOut : ℕ) : Prop :=
  ∀ point ∈ a.params.curve, price < point.sqrtPrice →
    a.yieldTo price point.sqrtPrice ≤ amountOut →
      point.sqrtPrice ≤ a.config.migrationSqrtPrice ∧ a.costTo price point.sqrtPrice ≤ amountIn

/-- Whether a buy pays its crossings is decided point by point. -/
instance (price amountIn amountOut : ℕ) : Decidable (a.PaysCrossings price amountIn amountOut) :=
  inferInstanceAs (Decidable (∀ point ∈ a.params.curve, _ → _ → _))

end AcceptedConfig

namespace PoolState

variable (a : AcceptedConfig) (p : PoolState)

/-! ## The threshold -/

/-- **The threshold is what a buy uses.** From the start price, a buy for any amount that covers
the threshold ends exactly at the migration price, keeps what is above the threshold and is given no
more base than was sized for the sale.
Source: `state/virtual_pool.rs` `calculate_quote_to_base_from_amount_in`;
`params/liquidity_distribution.rs` `get_migration_threshold_price`, `get_base_token_for_swap` -/
theorem buy_consumes_threshold (amount : ℕ) (hfresh : p.sqrtPrice = a.config.sqrtStartPrice)
    (hcovers : a.config.migrationQuoteThreshold ≤ amount) (hamount : amount < 2 ^ 64) :
    ∃ r, p.calculateQuoteToBaseFromAmountIn a.config amount a.config.migrationSqrtPrice = .ok r ∧
      r.nextSqrtPrice = a.config.migrationSqrtPrice ∧
      r.amountLeft = amount - a.config.migrationQuoteThreshold ∧
      r.outputAmount ≤ a.config.swapBaseAmount := by
  have hrange : p.PriceInRange a := ⟨hfresh.ge, hfresh.trans_le a.sqrtStartPrice_le_migration⟩
  obtain ⟨r, hr, ⟨⟨hlow, hstop, _⟩, hgreatest⟩, hleft, hout, _⟩ :=
    calculateQuoteToBaseFromAmountIn_bought a hrange hamount
  have hcost : a.costTo p.sqrtPrice a.config.migrationSqrtPrice =
      a.config.migrationQuoteThreshold := by
    rw [← a.threshold_eq_climb, AcceptedConfig.costTo, hfresh, above_self a.ascending]
  -- the migration price is itself affordable, so it is the highest
  have hnext : r.nextSqrtPrice = a.config.migrationSqrtPrice := by
    apply le_antisymm hstop
    apply hgreatest
    exact ⟨hrange.2, le_rfl, hcost.trans_le hcovers⟩
  refine ⟨r, hr, hnext, ?_, ?_⟩
  · rw [hnext, hcost] at hleft
    omega
  · rw [hout]
    exact a.yieldTo_le_swapBaseAmount hrange.1 hlow hstop

/-! ## An amount out is not charged too little -/

/-- **A buy for an amount out is never charged too little.** When it ends within the sale, its cost
paid in from the same state is used in full, gives at least the amount and moves the price at least
as far.
Source: `state/virtual_pool.rs` `calculate_quote_to_base_from_amount_out`,
`calculate_quote_to_base_from_amount_in` -/
theorem amountOut_covered (amountOut : ℕ) (r : SwapAmountFromOutput)
    (hstart : a.config.sqrtStartPrice ≤ p.sqrtPrice)
    (h : p.calculateQuoteToBaseFromAmountOut a.config amountOut = .ok r)
    (hwithin : r.nextSqrtPrice ≤ a.config.migrationSqrtPrice) :
    ∃ s, p.calculateQuoteToBaseFromAmountIn a.config r.amountIn a.config.migrationSqrtPrice =
        .ok s ∧ s.amountLeft = 0 ∧ amountOut ≤ s.outputAmount ∧
      r.nextSqrtPrice ≤ s.nextSqrtPrice := by
  obtain ⟨hlow, hcost, hyield⟩ := calculateQuoteToBaseFromAmountOut_cost a hstart h
  have hamount : r.amountIn < 2 ^ 64 := by
    rw [hcost]
    exact (a.costTo_le_threshold hstart hlow hwithin).trans_lt a.threshold_lt
  obtain ⟨s, hs, ⟨_, hgreatest⟩, hleft, hout, _⟩ :=
    calculateQuoteToBaseFromAmountIn_bought a ⟨hstart, hlow.trans hwithin⟩ hamount
  -- the price reached is affordable for the cost, so the buy for the cost goes at least as far
  have hle : r.nextSqrtPrice ≤ s.nextSqrtPrice := hgreatest ⟨hlow, hwithin, hcost.ge⟩
  refine ⟨s, hs, ?_, ?_, hle⟩
  · have hmono := a.costTo_mono hstart hlow hle
    omega
  · rw [hout]
    exact hyield.trans (a.yieldTo_mono hstart hlow hle)

/-! ## When an amount out is not charged too much -/

/-- **When a buy for an amount out is not charged too much.** Let a buy for `amountIn` use all of it
for some output. A buy for that output succeeds, costs at most `amountIn` and moves the price at
most as far, exactly when every segment that it crosses is paid for by `amountIn`.
Source: `state/virtual_pool.rs` `calculate_quote_to_base_from_amount_out`,
`calculate_quote_to_base_from_amount_in` -/
theorem amountOut_le_amountIn_iff (amountIn : ℕ) (s : SwapAmountFromInput)
    (hp : p.PriceInRange a) (hamount : amountIn < 2 ^ 64)
    (h : p.calculateQuoteToBaseFromAmountIn a.config amountIn a.config.migrationSqrtPrice = .ok s)
    (hleft : s.amountLeft = 0) (_hout : 0 < s.outputAmount) :
    (∃ r, p.calculateQuoteToBaseFromAmountOut a.config s.outputAmount = .ok r ∧
        r.amountIn ≤ amountIn ∧ r.nextSqrtPrice ≤ s.nextSqrtPrice) ↔
      a.PaysCrossings p.sqrtPrice amountIn s.outputAmount := by
  obtain ⟨s', hs', ⟨⟨hlow, hstop, _⟩, hgreatest⟩, hused, hyield, _⟩ :=
    calculateQuoteToBaseFromAmountIn_bought a hp hamount
  have hsame : s = s' := Except.ok.inj (h.symm.trans hs')
  subst hsame
  rw [hleft, Nat.zero_add] at hused
  constructor
  · rintro ⟨r, hr, _, hnext⟩ point hmem hlt hcrossed
    have hreach := calculateQuoteToBaseFromAmountOut_crosses a hp.1 hr hmem hlt hcrossed
    refine ⟨(hreach.trans hnext).trans hstop, ?_⟩
    rw [← hused]
    exact a.costTo_mono hp.1 hlt.le (hreach.trans hnext)
  · intro hpays
    have hshort : ∀ point ∈ a.params.curve, s.nextSqrtPrice < point.sqrtPrice →
        s.outputAmount < a.yieldTo p.sqrtPrice point.sqrtPrice := by
      intro point hmem hlt
      by_contra hcon
      obtain ⟨hwithin, hpaid⟩ := hpays point hmem (hlow.trans_lt hlt) (not_lt.mp hcon)
      have hle := hgreatest ⟨hlow.trans hlt.le, hwithin, hpaid⟩
      exact absurd hlt (not_lt.mpr hle)
    obtain ⟨r, hr, hnext⟩ := calculateQuoteToBaseFromAmountOut_isOk a hp hlow hstop hyield.le
      (hused.trans_lt hamount) hshort
    refine ⟨r, hr, ?_, hnext⟩
    obtain ⟨hrlow, hcost, _⟩ := calculateQuoteToBaseFromAmountOut_cost a hp.1 hr
    rw [hcost, ← hused]
    exact a.costTo_mono hp.1 hrlow hnext

/-! ## A launch with a thin last segment -/

/-- A launch whose last segment is wide and holds less than one base token. -/
def Launch.thinTail : Launch :=
  (Launch.ofParameters (plainParameters (2 ^ 64) (2 ^ 26 + 4)
    [{ sqrtPrice := 2 ^ 65, liquidity := 2 ^ 90 }, { sqrtPrice := 2 ^ 95, liquidity := 2 ^ 64 }])
    false .splToken 0).get (by decide +kernel)

/-- A buy for twice the threshold of the thin launch keeps half of it. -/
theorem buy_consumes_threshold_thinTail :
    ∃ r, Launch.thinTail.genesis.pool.calculateQuoteToBaseFromAmountIn
        Launch.thinTail.accepted.config (2 ^ 27 + 8)
        Launch.thinTail.accepted.config.migrationSqrtPrice = .ok r ∧
      r.nextSqrtPrice = Launch.thinTail.accepted.config.migrationSqrtPrice ∧
      r.amountLeft = 2 ^ 27 + 8 - Launch.thinTail.accepted.config.migrationQuoteThreshold ∧
      r.outputAmount ≤ Launch.thinTail.accepted.config.swapBaseAmount :=
  buy_consumes_threshold Launch.thinTail.accepted Launch.thinTail.genesis.pool (2 ^ 27 + 8)
    (by decide +kernel) (by decide +kernel) (by decide)

/-- A buy of a thousand base tokens is covered by what it costs. -/
theorem amountOut_covered_thinTail :
    ∃ s, Launch.thinTail.genesis.pool.calculateQuoteToBaseFromAmountIn
        Launch.thinTail.accepted.config 1001 Launch.thinTail.accepted.config.migrationSqrtPrice =
        .ok s ∧ s.amountLeft = 0 ∧ 1000 ≤ s.outputAmount ∧
      18447018955712556653 ≤ s.nextSqrtPrice :=
  amountOut_covered Launch.thinTail.accepted Launch.thinTail.genesis.pool 1000
    ⟨1001, 18447018955712556653⟩ (by decide +kernel) (by decide +kernel) (by decide +kernel)

/-- A thousand quote tokens do not pay for more than they buy. -/
theorem amountOut_le_amountIn_iff_thinTail :
    (∃ r, Launch.thinTail.genesis.pool.calculateQuoteToBaseFromAmountOut
        Launch.thinTail.accepted.config 999 = .ok r ∧
        r.amountIn ≤ 1000 ∧ r.nextSqrtPrice ≤ 18447018951616495616) ↔
      Launch.thinTail.accepted.PaysCrossings Launch.thinTail.genesis.pool.sqrtPrice 1000 999 :=
  amountOut_le_amountIn_iff Launch.thinTail.accepted Launch.thinTail.genesis.pool 1000
    ⟨0, 999, 18447018951616495616⟩ ⟨by decide +kernel, by decide +kernel⟩ (by decide)
    (by decide +kernel) rfl
    (by decide)

/-- The amount that buys the whole first segment does not pay for the same output asked for: the
walk goes on across the thin segment, which holds no whole token, and charges its quote. -/
theorem amountOut_le_amountIn_false :
    ¬ ∀ (a : AcceptedConfig) (p : PoolState) (amountIn : ℕ) (s : SwapAmountFromInput),
      p.PriceInRange a → amountIn < 2 ^ 64 →
      p.calculateQuoteToBaseFromAmountIn a.config amountIn a.config.migrationSqrtPrice = .ok s →
      s.amountLeft = 0 → 0 < s.outputAmount →
        ∃ r, p.calculateQuoteToBaseFromAmountOut a.config s.outputAmount = .ok r ∧
          r.amountIn ≤ amountIn ∧ r.nextSqrtPrice ≤ s.nextSqrtPrice := by
  intro hclaim
  obtain ⟨r, hr, hcost, _⟩ := hclaim Launch.thinTail.accepted Launch.thinTail.genesis.pool (2 ^ 26)
    ⟨0, 2 ^ 25, 2 ^ 65⟩ ⟨by decide +kernel, by decide +kernel⟩ (by decide) (by decide +kernel) rfl
    (by decide)
  have hcharged : Launch.thinTail.genesis.pool.calculateQuoteToBaseFromAmountOut
      Launch.thinTail.accepted.config (2 ^ 25) = .ok ⟨2214592510, 2 ^ 95⟩ := by decide +kernel
  have hsame := Except.ok.inj (hcharged.symm.trans hr)
  rw [← hsame] at hcost
  exact absurd hcost (by decide)

end PoolState

end DynamicBondingCurve
