import DynamicBondingCurve.ExactBuys
import DynamicBondingCurve.Sale

/-!
# What a partial fill charges

A partial fill takes the fee out of the whole amount first. When the curve ends before the amount
is used, it computes the rate a second time, from the amount without fees that the curve took,
and adds the fee of that rate on. The buyer pays the sum.

* `getIncludedFeeAmount_le_iff`: adding a fee on stays within an amount exactly when the rate is
  at most what the amount leaves for it.
* `tradeFeeNumeratorFromExcluded_eq`: **without the rate limiter both computations give one
  rate**; with it the second rate is read back through a square root and rounded up.
* `OverpaysRest`: the amount overruns the rest of the curve, and the second rate is above what
  the amount leaves.
* `Launch.partialFill_within_iff`: **a partial fill charges at most the amount exactly when the
  amount does not overpay the rest of the curve**.
-/

namespace DynamicBondingCurve

open Library

/-! ## Fees on an amount -/

section Amount

variable {numerator amount included fee limit : ℕ}

/-- A rate that adds a fee on is at most the whole amount.
Source: `state/config.rs` `PoolFeesConfig::get_included_fee_amount` -/
theorem getIncludedFeeAmount_le_iff
    (h : getIncludedFeeAmount numerator amount = .ok (included, fee)) (hle : amount ≤ limit) :
    included ≤ limit ↔ numerator * limit ≤ (limit - amount) * FEE_DENOMINATOR := by
  obtain ⟨hrate, rfl, _⟩ := getIncludedFeeAmount_included h
  have hsplit : (FEE_DENOMINATOR - numerator) * limit + numerator * limit =
      (limit - amount) * FEE_DENOMINATOR + amount * FEE_DENOMINATOR := by
    rw [← Nat.add_mul, Nat.sub_add_cancel hrate.le, ← Nat.add_mul, Nat.sub_add_cancel hle,
      Nat.mul_comm]
  rw [ceilDiv_le_iff (Nat.sub_pos_of_lt hrate)]
  omega

/-- What a fee leaves of an amount.
Source: `state/config.rs` `get_fee_on_amount` -/
theorem getFeeOnAmount_amount {hasReferral : Bool} {r : FeeOnAmountResult}
    (h : getFeeOnAmount numerator amount hasReferral = .ok r) :
    r.amount = amount - (amount * numerator) ⌈/⌉ FEE_DENOMINATOR := by
  simp only [getFeeOnAmount, bind_eq_ok, pure_eq_ok] at h
  obtain ⟨⟨excluded, taken⟩, htaken, _, _, _, _, _, _, _, _, rfl⟩ := h
  simp only [getExcludedFeeAmount, bind_eq_ok, safeSub_eq_ok, pure_eq_ok, Prod.mk.injEq] at htaken
  obtain ⟨_, hdiv, _, ⟨_, rfl⟩, rfl, rfl⟩ := htaken
  obtain ⟨_, rfl, _⟩ := safeMulDivCastU64_eq_ok hdiv
  rfl

/-- An amount that keeps more than `limit` after its fee leaves the rate room on `limit`.
Source: `state/config.rs` `PoolFeesConfig::get_excluded_fee_amount` -/
theorem rate_le_of_lt_excluded
    (h : limit < amount - (amount * numerator) ⌈/⌉ FEE_DENOMINATOR) :
    numerator * amount ≤ (amount - limit) * FEE_DENOMINATOR := by
  have hfee : (amount * numerator) ⌈/⌉ FEE_DENOMINATOR ≤ amount - limit := by omega
  rw [ceilDiv_le_iff FEE_DENOMINATOR_pos] at hfee
  rw [Nat.mul_comm numerator, Nat.mul_comm (amount - limit)]
  exact hfee

end Amount

/-! ## The two rates -/

/-- A base fee that is not limited ignores the amount.
Source: `base_fee/mod.rs` `get_base_fee_numerator_from_included_fee_amount`,
`get_base_fee_numerator_from_excluded_fee_amount` -/
theorem BaseFeeHandler.getBaseFeeNumerator_eq {handler : BaseFeeHandler}
    {point activationPoint : ℕ} {dir : TradeDirection}
    (h : ∀ limiter, handler = .feeRateLimiter limiter →
      limiter.isRateLimiterApplied point activationPoint dir ≠ .ok true)
    (excluded included : ℕ) :
    handler.getBaseFeeNumeratorFromExcludedFeeAmount point activationPoint dir excluded =
      handler.getBaseFeeNumeratorFromIncludedFeeAmount point activationPoint dir included := by
  cases handler with
  | feeScheduler s => rfl
  | feeRateLimiter limiter =>
    have hfree := h limiter rfl
    simp only [getBaseFeeNumeratorFromExcludedFeeAmount, getBaseFeeNumeratorFromIncludedFeeAmount]
    rcases hlimit : limiter.isRateLimiterApplied point activationPoint dir with e | applied
    · rfl
    · cases applied with
      | true => exact absurd hlimit hfree
      | false => rfl

namespace PoolState

variable {p : PoolState} {config : PoolConfig} {m : FeeMode} {point amountIn : ℕ}
  {eligible : Bool} {r : SwapResult2}

/-- The rate limiter sets the base fee of a buy at `point`.
Source: `base_fee/fee_rate_limiter.rs` `is_rate_limiter_applied` -/
def IsRateLimited (p : PoolState) (config : PoolConfig) (point : ℕ) : Prop :=
  ∃ limiter, config.poolFees.baseFee.getBaseFeeHandler = .ok (.feeRateLimiter limiter) ∧
    limiter.isRateLimiterApplied point p.activationPoint .quoteToBase = .ok true

/-- **Without the rate limiter the rate does not depend on the amount**, so it is the same whether
the amount contains the fee or not.
Source: `state/config.rs` `get_total_fee_numerator_from_included_fee_amount`,
`get_total_fee_numerator_from_excluded_fee_amount` -/
theorem tradeFeeNumeratorFromExcluded_eq (h : eligible = true ∨ ¬ p.IsRateLimited config point)
    (excluded included : ℕ) :
    p.tradeFeeNumeratorFromExcluded config excluded .quoteToBase point eligible =
      p.tradeFeeNumeratorFromIncluded config included .quoteToBase point eligible := by
  unfold tradeFeeNumeratorFromExcluded tradeFeeNumeratorFromIncluded
  rcases h with rfl | hfree
  · rfl
  · cases eligible with
    | true => rfl
    | false =>
      simp only [Bool.false_eq_true, if_false,
        PoolFeesConfig.getTotalFeeNumeratorFromExcludedFeeAmount,
        PoolFeesConfig.getTotalFeeNumeratorFromIncludedFeeAmount]
      rcases hhandler : config.poolFees.baseFee.getBaseFeeHandler with e | handler
      · rfl
      · have hsame := handler.getBaseFeeNumerator_eq
          (fun limiter hlimiter happlied => hfree ⟨limiter, by rw [hhandler, hlimiter], happlied⟩)
          excluded included
        show (handler.getBaseFeeNumeratorFromExcludedFeeAmount point p.activationPoint .quoteToBase
            excluded >>= fun n => config.poolFees.getTotalFeeNumerator n p.volatilityTracker) = _
        rw [hsame]
        rfl

/-! ## What is charged -/

variable (a : AcceptedConfig)

/-- What buyers pay for the rest of the curve, without fees.
Source: `state/config.rs` `PoolConfig`, the comment on `migration_sqrt_price` -/
def restOfCurve (p : PoolState) : ℕ := a.costTo p.sqrtPrice a.config.migrationSqrtPrice

/-- A buy of `amountIn` overpays the rest of the curve: the rate limiter is in force, the amount
overruns the rest of the curve after its own fee, and the rate read back from that rest is above
the rate at which `amountIn` pays for it.
Source: none: the abstract reading of the two rates of `get_swap_result_from_partial_input` -/
structure OverpaysRest (p : PoolState) (amountIn point : ℕ) : Prop where
  limited : p.IsRateLimited a.config point
  overruns : ∃ rate, p.tradeFeeNumeratorFromIncluded a.config amountIn .quoteToBase point false =
      .ok rate ∧ p.restOfCurve a < amountIn - (amountIn * rate) ⌈/⌉ FEE_DENOMINATOR
  dearer : ∃ rate, p.tradeFeeNumeratorFromExcluded a.config (p.restOfCurve a) .quoteToBase point
      false = .ok rate ∧ (amountIn - p.restOfCurve a) * FEE_DENOMINATOR < rate * amountIn

/-- A buy for an amount in uses all of it, or it takes the whole rest of the curve.
Source: `state/virtual_pool.rs` `calculate_quote_to_base_from_amount_in` -/
theorem calculateQuoteToBaseFromAmountIn_rest (hp : p.PriceInRange a) {amount : ℕ}
    (hamount : amount < 2 ^ 64) {s : SwapAmountFromInput}
    (h : p.calculateQuoteToBaseFromAmountIn a.config amount a.config.migrationSqrtPrice = .ok s) :
    (s.amountLeft = 0 ∧ amount ≤ p.restOfCurve a) ∨
      (s.amountLeft ≠ 0 ∧ amount - s.amountLeft = p.restOfCurve a ∧ p.restOfCurve a < amount) := by
  obtain ⟨s', hs', ⟨⟨hlow, hstop, _⟩, _⟩, hused, _, hleft⟩ :=
    calculateQuoteToBaseFromAmountIn_bought a hp hamount
  have hsame : s = s' := Except.ok.inj (h.symm.trans hs')
  subst hsame
  by_cases hzero : s.amountLeft = 0
  · left
    refine ⟨hzero, ?_⟩
    have hmono : a.costTo p.sqrtPrice s.nextSqrtPrice ≤ p.restOfCurve a :=
      a.costTo_mono hp.1 hlow hstop
    omega
  · right
    rw [hleft.resolve_left hzero] at hused
    unfold restOfCurve
    omega

/-- Where an amount is left, the fee is added on to what was used of it, at its own rate.
Source: `state/virtual_pool.rs` `get_swap_result_from_partial_input`, the branch
`amount_left != 0` -/
theorem partialInput_left {input included : FeeOnAmountResult} {left actual : ℕ}
    {dir : TradeDirection} (hm : m.feesOnInput = true) (hleft : left ≠ 0)
    (h : p.partialInput config amountIn m dir point eligible input left = .ok (actual, included)) :
    actual = input.amount - left ∧ ∃ rate fee,
      p.tradeFeeNumeratorFromExcluded config actual dir point eligible = .ok rate ∧
        getIncludedFeeAmount rate actual = .ok (included.amount, fee) := by
  simp only [partialInput, if_pos hleft, if_pos hm, bind_eq_ok, safeSub_eq_ok, pure_eq_ok,
    Prod.mk.injEq] at h
  obtain ⟨_, ⟨_, rfl⟩, rate, hrate, f, hf, rfl, rfl⟩ := h
  simp only [includeFees, bind_eq_ok, pure_eq_ok] at hf
  obtain ⟨⟨_, fee⟩, hincluded, _, _, rfl⟩ := hf
  exact ⟨rfl, rate, fee, hrate, hincluded⟩

/-- **A partial fill charges more than the amount exactly when the amount overpays the rest of the
curve.**
Source: `state/virtual_pool.rs` `get_swap_result_from_partial_input` -/
theorem partialFill_le_iff (hp : p.PriceInRange a) (hamount : amountIn < 2 ^ 64)
    (h : p.getSwapResultFromPartialInput a.config amountIn m .quoteToBase point eligible =
      .ok r) :
    r.includedFeeInputAmount ≤ amountIn ↔
      ¬ (m.feesOnInput = true ∧ eligible = false ∧ p.OverpaysRest a amountIn point) := by
  simp only [getSwapResultFromPartialInput, bind_eq_ok, pure_eq_ok] at h
  obtain ⟨rate, hrate, input, hinput, s, hs, ⟨actual, included⟩, hpartial, _, _, rfl⟩ := h
  show included.amount ≤ amountIn ↔ _
  by_cases hm : m.feesOnInput = true
  · -- the fee comes off the amount first
    rw [if_pos hm] at hinput
    have hnet := getFeeOnAmount_amount hinput
    have hfit : input.amount < 2 ^ 64 := by omega
    rcases calculateQuoteToBaseFromAmountIn_rest a hp hfit hs with
      ⟨hzero, hwithin⟩ | ⟨hleft, hactual, hover⟩
    · rw [hzero, partialInput, if_neg (not_not.mpr rfl), pure_eq_ok, Prod.mk.injEq] at hpartial
      obtain ⟨_, rfl⟩ := hpartial
      refine iff_of_true le_rfl ?_
      rintro ⟨_, rfl, hpays⟩
      obtain ⟨rate', hrate', hover⟩ := hpays.overruns
      have hsame : rate = rate' := Except.ok.inj (hrate.symm.trans hrate')
      subst hsame
      omega
    · obtain ⟨rfl, second, fee, hsecond, hincluded⟩ := partialInput_left hm hleft hpartial
      rw [hactual] at hsecond hincluded
      have hrest : p.restOfCurve a ≤ amountIn := by omega
      rw [getIncludedFeeAmount_le_iff hincluded hrest]
      rw [hnet] at hover
      constructor
      · rintro hroom ⟨_, rfl, hpays⟩
        obtain ⟨rate', hrate', hdear⟩ := hpays.dearer
        have hsame : second = rate' := Except.ok.inj (hsecond.symm.trans hrate')
        subst hsame
        omega
      · intro hpays
        by_contra hdear
        -- at one rate the rest of the curve is cheaper than the amount
        have hlimited : ¬ (eligible = true ∨ ¬ p.IsRateLimited a.config point) := by
          intro hfree
          rw [tradeFeeNumeratorFromExcluded_eq hfree _ amountIn, hrate] at hsecond
          have hsame : rate = second := Except.ok.inj hsecond
          subst hsame
          exact hdear (rate_le_of_lt_excluded hover)
        rw [not_or, not_not, Bool.not_eq_true] at hlimited
        obtain ⟨rfl, hlimited⟩ := hlimited
        exact hpays ⟨hm, rfl, hlimited, ⟨rate, hrate, hover⟩, second, hsecond, not_le.mp hdear⟩
  · -- no fee on the input: what is charged is what the curve took
    rw [if_neg hm, pure_eq_ok] at hinput
    subst hinput
    obtain ⟨hactual, hincluded, _⟩ :=
      partialInput_spec (by rw [if_neg hm]; rfl) (fun _ => rfl) hpartial
    rw [if_neg hm, Nat.add_zero] at hincluded
    refine iff_of_true ?_ (fun hpays => hm hpays.1)
    have hwhole : (withoutFees amountIn).amount = amountIn := rfl
    omega

end PoolState

/-! ## Launched pools -/

namespace Launch

variable (l : Launch) (actions : List Action)

/-- **A partial fill charges at most the amount exactly when the amount does not overpay the rest
of the curve.** After every run, a partial fill of a buy that succeeds charges the amount without
fees and the fees, when they are on the input; and it charges at most the amount if and only if
the fees are not on the input, the swap is the first one at the minimum fee, or the amount does not
overpay the rest of the curve.
Source: `state/virtual_pool.rs` `get_swap_result_from_partial_input`;
`instructions/swap/swap_partial_fill.rs` `process_swap_partial_fill` -/
theorem partialFill_within_iff {amountIn point : ℕ} {m : FeeMode} {eligible : Bool}
    {r : SwapResult2} (hamount : amountIn < 2 ^ 64)
    (h : (l.after actions).pool.getSwapResultFromPartialInput l.config amountIn m .quoteToBase
      point eligible = .ok r) :
    (r.includedFeeInputAmount ≤ amountIn ∧
        (m.feesOnInput = true → r.includedFeeInputAmount =
          r.excludedFeeInputAmount + r.tradingFee + r.protocolFee + r.referralFee)) ↔
      ¬ (m.feesOnInput = true ∧ eligible = false ∧
        (l.after actions).pool.OverpaysRest l.accepted amountIn point) := by
  have hp := (l.onCurve actions).priceInRange
  rw [← PoolState.partialFill_le_iff l.accepted hp hamount h, and_iff_left_iff_imp]
  intro _ hm
  have hfill := (PoolState.getSwapResultFromPartialInput_spec h).1.input
  rw [if_pos hm, SwapResult2.fees] at hfill
  omega

/-- A launch of which a tenth of a percent more is charged for each ten billion bought at once.
Source: `base_fee/fee_rate_limiter.rs` `FeeRateLimiter` -/
def limitedLaunch : Launch :=
  (ofParameters { plainParameters (2 ^ 64) 4677139755634
      [{ sqrtPrice := 2 ^ 65, liquidity := 2 ^ 108 }] with
    poolFees :=
      { baseFee :=
          { cliffFeeNumerator := 10000000
            firstFactor := 10
            secondFactor := 100
            thirdFactor := 10000000000
            baseFeeMode := BaseFeeMode.rateLimiter.toByte }
        dynamicFee := none } } false .splToken 100).get (by decide +kernel)

/-- The fees of a buy on that launch.
Source: `state/fee.rs` `get_fee_mode` -/
def quoteFees : FeeMode := { feesOnInput := true, feesOnBaseToken := false, hasReferral := false }

/-- A buy of far more than the rest of the curve costs is charged for that rest only. -/
theorem partialFill_within_iff_limitedLaunch :
    ∃ r, (limitedLaunch.after []).pool.getSwapResultFromPartialInput limitedLaunch.config
        10000000000000 quoteFees .quoteToBase 1 false = .ok r ∧
      ((r.includedFeeInputAmount ≤ 10000000000000 ∧
          (quoteFees.feesOnInput = true → r.includedFeeInputAmount =
            r.excludedFeeInputAmount + r.tradingFee + r.protocolFee + r.referralFee)) ↔
        ¬ (quoteFees.feesOnInput = true ∧ false = false ∧
          (limitedLaunch.after []).pool.OverpaysRest limitedLaunch.accepted 10000000000000 1)) := by
  rcases hok : (limitedLaunch.after []).pool.getSwapResultFromPartialInput limitedLaunch.config
    10000000000000 quoteFees .quoteToBase 1 false with e | r
  · have hisOk : ((limitedLaunch.after []).pool.getSwapResultFromPartialInput limitedLaunch.config
        10000000000000 quoteFees .quoteToBase 1 false).isOk = true := by decide +kernel
    rw [hok] at hisOk
    cases hisOk
  · exact ⟨r, rfl, limitedLaunch.partialFill_within_iff [] (by norm_num) hok⟩

/-- A buy that overruns the whole curve by one is charged twenty-five thousand more than it
authorised. -/
theorem partialFill_within_false :
    ((limitedLaunch.after []).pool.getSwapResultFromPartialInput limitedLaunch.config
        7768129714336 quoteFees .quoteToBase 1 false).map (fun r =>
          (r.includedFeeInputAmount, r.excludedFeeInputAmount, r.amountLeft)) =
        .ok (7768129740137, 4677139755634, 1) ∧
      ¬ (7768129740137 ≤ 7768129714336) ∧
      (limitedLaunch.deployment.step (limitedLaunch.after [])
        (.swap2 (buyOf 1 7768129714336 0))).isOk = true := by
  decide +kernel

end Launch

end DynamicBondingCurve
