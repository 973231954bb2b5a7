import DynamicBondingCurve.PartialFill
import DynamicBondingCurve.QuotedSwaps
import DynamicBondingCurve.Fee.Decay
import DynamicBondingCurve.Fee.RateLimiter

/-!
# An open sale can be completed

A buy for an exact amount may be refused: the curve may hold less than it asks for. A partial fill
takes what is left. Unless a rate limiter is in force it is quoted in every state of an open sale,
and one that covers the rest of the curve ends the sale.

* `AcceptedConfig.baseFee_isOk`: every moment from the activation on has a base fee.
* `Launch.activationPoint_le`, `Launch.chargesRate`: and so every buy has a rate, whatever its
  amount.
* `PoolState.partialFill_isOk`: **a partial fill at a rate is never refused**, and goes to the end
  of the curve exactly when it covers the rest.
* `Launch.sale_completable`: **an open sale is completed by every partial fill that covers its
  rest.**
-/

namespace DynamicBondingCurve

open Library

/-! ## The base fee -/

namespace FeeScheduler

variable {s : FeeScheduler} {activationPoint point : ℕ}

/-- A valid scheduler has a fee at every point from the activation on.
Source: `base_fee/fee_scheduler.rs` `get_base_fee_numerator` -/
theorem getBaseFeeNumerator_isOk (hvalid : s.validate = .ok ())
    (hfit : s.reductionFactor < 2 ^ 64) (hactive : activationPoint ≤ point) :
    ∃ fee, s.getBaseFeeNumerator point activationPoint = .ok fee ∧ fee ≤ MAX_FEE_NUMERATOR := by
  obtain ⟨hfactors, hmax, minFee, hmin⟩ := validate_spec hvalid
  have hcliff : s.cliffFeeNumerator < 2 ^ 30 := hmax.trans_lt (by decide)
  rcases hfactors with ⟨hfrequency, _, _⟩ | ⟨hfrequency, hreduction⟩
  · exact ⟨_, if_pos hfrequency, hmax⟩
  · obtain ⟨fee, _, hfee, _, _, hcap⟩ :=
      getBaseFeeNumeratorByPeriod_mono hreduction hfit hcliff hmin le_rfl
        (min_le_right ((point - activationPoint) / s.periodFrequency) s.numberOfPeriod)
    rw [getBaseFeeNumeratorByPeriod_min] at hfee
    refine ⟨fee, ?_, hcap.trans hmax⟩
    rw [getBaseFeeNumerator, if_neg hfrequency, safeSub_eq_ok.mpr ⟨hactive, rfl⟩, ok_bind,
      safeDiv_eq_ok.mpr ⟨hfrequency, rfl⟩, ok_bind]
    exact hfee

/-- A valid scheduler has a lowest fee.
Source: `base_fee/fee_scheduler.rs` `get_min_base_fee_numerator` -/
theorem getMinBaseFeeNumerator_isOk (hvalid : s.validate = .ok ())
    (hfit : s.reductionFactor < 2 ^ 64) :
    ∃ fee, s.getMinBaseFeeNumerator = .ok fee ∧ fee ≤ MAX_FEE_NUMERATOR := by
  obtain ⟨hfactors, hmax, minFee, hmin⟩ := validate_spec hvalid
  have hcliff : s.cliffFeeNumerator < 2 ^ 30 := hmax.trans_lt (by decide)
  refine ⟨minFee, hmin, ?_⟩
  rcases hfactors with ⟨_, hperiods, hreduction⟩ | ⟨_, hreduction⟩
  · exact (getMinBaseFeeNumerator_of_zero hperiods hreduction hmin).trans hmax
  · obtain ⟨fee, _, hfee, _, _, hcap⟩ :=
      getBaseFeeNumeratorByPeriod_mono hreduction hfit hcliff hmin le_rfl le_rfl
    cases hfee.symm.trans hmin
    exact hcap.trans hmax

end FeeScheduler

/-- The rate limiter of a handler is the one that a swap is checked against.
Source: `state/config.rs` `get_base_fee_handler`, `get_fee_rate_limiter` -/
theorem getFeeRateLimiter_of_handler {c : BaseFeeConfig} {limiter : FeeRateLimiter}
    (h : c.getBaseFeeHandler = .ok (.feeRateLimiter limiter)) :
    c.getFeeRateLimiter = .ok limiter := by
  simp only [BaseFeeConfig.getBaseFeeHandler, getBaseFeeHandler, bind_eq_ok, orThrow_eq_ok] at h
  obtain ⟨mode, hmode, h⟩ := h
  cases mode with
  | feeSchedulerLinear => cases h
  | feeSchedulerExponential => cases h
  | rateLimiter =>
    simp only [pure_eq_ok, BaseFeeHandler.feeRateLimiter.injEq] at h
    simp only [BaseFeeConfig.getFeeRateLimiter, hmode, bind_eq_ok, orThrow_eq_ok]
    exact ⟨.rateLimiter, rfl, by rw [if_pos rfl, ← h]; rfl⟩

namespace AcceptedConfig

variable (a : AcceptedConfig)

/-- The base fee of an accepted configuration passed its checks.
Source: `params/fee_parameters.rs` `BaseFeeParameters::validate`, `to_pool_fees_config` -/
theorem baseFee_validated : ∃ handler activationType,
    a.config.poolFees.baseFee.getBaseFeeHandler = .ok handler ∧
      handler.validate a.params.collectFeeMode activationType = .ok () ∧
        ∀ s, handler = .feeScheduler s → s.reductionFactor < 2 ^ 64 := by
  obtain ⟨activationType, hfees⟩ := a.paramsValidated.poolFees
  simp only [PoolFeeParameters.validate, BaseFeeConfig.validate, bind_eq_ok, exists_unit] at hfees
  obtain ⟨⟨handler, hhandler, hvalid⟩, _⟩ := hfees
  have hsame : a.config.poolFees.baseFee = a.params.poolFees.baseFee := by
    rw [a.paramsCreated.poolFees_eq, PoolFeeParameters.toPoolFeesConfig]
    cases a.params.poolFees.dynamicFee <;> rfl
  refine ⟨handler, activationType, by rw [hsame]; exact hhandler, hvalid, ?_⟩
  rintro s rfl
  have hfit : a.params.poolFees.baseFee.thirdFactor < 2 ^ 64 :=
    a.inRange.2.2.2.1 _ (by simp [ConfigParameters.u64Fields])
  simp only [BaseFeeConfig.getBaseFeeHandler, getBaseFeeHandler, bind_eq_ok,
    orThrow_eq_ok] at hhandler
  obtain ⟨mode, _, hhandler⟩ := hhandler
  cases mode with
  | feeSchedulerLinear =>
    rw [pure_eq_ok, BaseFeeHandler.feeScheduler.injEq] at hhandler
    rw [← hhandler]
    exact hfit
  | feeSchedulerExponential =>
    rw [pure_eq_ok, BaseFeeHandler.feeScheduler.injEq] at hhandler
    rw [← hhandler]
    exact hfit
  | rateLimiter => cases hhandler

/-- **Every moment from the activation on has a base fee**, unless a limiter sets it.
Source: `base_fee/mod.rs` `get_base_fee_numerator_from_included_fee_amount` -/
theorem baseFee_isOk {activationPoint point : ℕ} (hactive : activationPoint ≤ point)
    (hfree : ∀ limiter,
      a.config.poolFees.baseFee.getBaseFeeHandler = .ok (.feeRateLimiter limiter) →
        limiter.isRateLimiterApplied point activationPoint .quoteToBase = .ok false) :
    ∃ handler fee, a.config.poolFees.baseFee.getBaseFeeHandler = .ok handler ∧
      fee ≤ MAX_FEE_NUMERATOR ∧ ∀ amount,
        handler.getBaseFeeNumeratorFromIncludedFeeAmount point activationPoint .quoteToBase amount =
          .ok fee := by
  obtain ⟨handler, activationType, hhandler, hvalid, hfit⟩ := a.baseFee_validated
  cases handler with
  | feeScheduler s =>
    obtain ⟨fee, hfee, hmax⟩ := s.getBaseFeeNumerator_isOk hvalid (hfit s rfl) hactive
    exact ⟨_, fee, hhandler, hmax, fun _ => hfee⟩
  | feeRateLimiter limiter =>
    obtain ⟨hmax, _⟩ := FeeRateLimiter.validate_spec hvalid
    refine ⟨_, limiter.cliffFeeNumerator, hhandler, hmax, ?_⟩
    intro amount
    exact bind_eq_ok.mpr ⟨false, hfree limiter hhandler, rfl⟩

/-- An accepted configuration has a lowest base fee.
Source: `state/config.rs` `get_min_base_fee_numerator` -/
theorem minBaseFee_isOk :
    ∃ fee, a.config.poolFees.getMinBaseFeeNumerator = .ok fee ∧ fee ≤ MAX_FEE_NUMERATOR := by
  obtain ⟨handler, activationType, hhandler, hvalid, hfit⟩ := a.baseFee_validated
  cases handler with
  | feeScheduler s =>
    obtain ⟨fee, hfee, hmax⟩ := s.getMinBaseFeeNumerator_isOk hvalid (hfit s rfl)
    exact ⟨fee, bind_eq_ok.mpr ⟨_, hhandler, hfee⟩, hmax⟩
  | feeRateLimiter limiter =>
    obtain ⟨hmax, _⟩ := FeeRateLimiter.validate_spec hvalid
    exact ⟨limiter.cliffFeeNumerator, bind_eq_ok.mpr ⟨_, hhandler, rfl⟩, hmax⟩

end AcceptedConfig

/-! ## The rate of a buy -/

namespace PoolState

variable {p : PoolState} {config : PoolConfig} {point rate : ℕ} {eligible : Bool}

/-- Every buy at `point` is charged `rate`, whatever its amount.
Source: `state/virtual_pool.rs`, `trade_fee_numerator` -/
structure ChargesRate (p : PoolState) (config : PoolConfig) (point : ℕ) (eligible : Bool)
    (rate : ℕ) : Prop where
  le : rate ≤ MAX_FEE_NUMERATOR
  included : ∀ amount,
    p.tradeFeeNumeratorFromIncluded config amount .quoteToBase point eligible = .ok rate
  excluded : ∀ amount,
    p.tradeFeeNumeratorFromExcluded config amount .quoteToBase point eligible = .ok rate

/-- With the volatility on top, a base fee still has a rate.
Source: `state/config.rs` `get_total_fee_numerator` -/
theorem KeepsTrack.totalFee_isOk (hp : p.KeepsTrack config) {base : ℕ}
    (hbase : base ≤ MAX_FEE_NUMERATOR) :
    ∃ total, config.poolFees.getTotalFeeNumerator base p.volatilityTracker = .ok total ∧
      total ≤ MAX_FEE_NUMERATOR := by
  by_cases henabled : config.poolFees.dynamicFee.isDynamicFeeEnable = true
  · obtain ⟨params, hvalid, _, hconfig, htracked⟩ := hp henabled
    obtain ⟨total, htotal, _, hmax⟩ :=
      getTotalFeeNumerator_isOk hvalid htracked.tracker.toBounded hconfig hbase
    exact ⟨total, htotal, hmax⟩
  · have hfit : 0 + base < 2 ^ 128 := by
      simp only [MAX_FEE_NUMERATOR] at hbase
      omega
    refine ⟨_, bind_eq_ok.mpr ⟨0, if_pos henabled, bind_eq_ok.mpr
      ⟨_, safeAdd_eq_ok.mpr ⟨hfit, rfl⟩, rfl⟩⟩, ?_⟩
    split_ifs with hover
    · exact le_rfl
    · omega

end PoolState

/-! ## The activation -/

/-- The point of a later clock is not smaller.
Source: `utils/activation_handler.rs` `get_current_point` -/
theorem getCurrentPoint_mono {w w' : World} {activationType later : ℕ} (hslot : w.slot ≤ w'.slot)
    (htime : w.timestamp ≤ w'.timestamp) (h : w'.getCurrentPoint activationType = .ok later) :
    ∃ point, w.getCurrentPoint activationType = .ok point ∧ point ≤ later := by
  simp only [World.getCurrentPoint, bind_eq_ok, orThrow_eq_ok, pure_eq_ok] at h ⊢
  obtain ⟨kind, hkind, rfl⟩ := h
  refine ⟨_, ⟨kind, hkind, rfl⟩, ?_⟩
  cases kind with
  | slot => exact hslot
  | timestamp => exact htime

/-- No move turns the clock back or changes the activation.
Source: `instructions`, every instruction that acts on a pool -/
theorem Transition.clock {d : Deployment} {w w' : World} {a : Action}
    (h : Transition d w a w') :
    w.slot ≤ w'.slot ∧ w.timestamp ≤ w'.timestamp ∧
      w'.pool.activationPoint = w.pool.activationPoint := by
  cases h with
  | trading move =>
    cases move with
    | pass slots seconds => exact ⟨Nat.le_add_right _ _, Nat.le_add_right _ _, rfl⟩
    | @swap _ x mid _ _ trade completion =>
      have hmid : w.slot ≤ mid.slot ∧ w.timestamp ≤ mid.timestamp ∧
          mid.pool.activationPoint = w.pool.activationPoint := by
        refine ⟨trade.slot.ge, trade.timestamp.ge, ?_⟩
        rw [trade.pool]
        rfl
      cases completion <;> exact hmid
    | _ => exact ⟨le_rfl, le_rfl, rfl⟩
  | locker move =>
    rw [move.eq]
    exact ⟨le_rfl, le_rfl, rfl⟩
  | migration move =>
    rw [move.eq]
    exact ⟨le_rfl, le_rfl, rfl⟩
  | _ => exact ⟨le_rfl, le_rfl, rfl⟩

namespace Launch

variable (l : Launch) (actions : List Action)

/-- A pool begins at its activation.
Source: `instructions/initialize_pool`, the three instructions that create a pool,
`activation_point` -/
theorem activationPoint_genesis {point : ℕ}
    (h : l.genesis.getCurrentPoint l.config.activationType = .ok point) :
    l.genesis.pool.activationPoint = point := by
  obtain ⟨activationPoint, _, hgenesis, _, hpoint⟩ := l.genesis_eq
  cases hpoint.symm.trans h
  rw [hgenesis]
  rfl

/-- The clock has reached the activation.
Source: `utils/activation_handler.rs` `get_current_point` -/
theorem activationPoint_le {point : ℕ}
    (h : (l.after actions).getCurrentPoint l.config.activationType = .ok point) :
    (l.after actions).pool.activationPoint ≤ point := by
  have hall : ∀ point, (l.after actions).getCurrentPoint l.config.activationType = .ok point →
      (l.after actions).pool.activationPoint ≤ point := by
    refine invariant_of_transition (fun w => ∀ point,
      w.getCurrentPoint l.config.activationType = .ok point → w.pool.activationPoint ≤ point) ?_ ?_
    · intro a w w' hw hmove later hlater
      obtain ⟨hslot, htime, hsame⟩ := hmove.clock
      obtain ⟨point, hpoint, hle⟩ := getCurrentPoint_mono hslot htime hlater
      rw [hsame]
      exact (hw point hpoint).trans hle
    · intro point hpoint
      exact (l.activationPoint_genesis hpoint).le
  exact hall point h

/-- **Where no limiter is in force every buy has one rate**, at most the highest.
Source: `state/config.rs` `get_total_fee_numerator_from_included_fee_amount`,
`get_min_base_fee_numerator` -/
theorem chargesRate (hclock : l.ClockReady) {request : SwapRequest} {point : ℕ} {eligible : Bool}
    (hpoint : (l.after actions).getCurrentPoint l.config.activationType = .ok point)
    (hlimiter : l.deployment.validateRateLimiter (l.after actions) request .quoteToBase point =
      .ok ())
    (hfree : eligible = true ∨ ¬ (l.after actions).pool.IsRateLimited l.config point) :
    ∃ rate, (l.after actions).pool.ChargesRate l.config point eligible rate := by
  have hrate : ∃ rate, rate ≤ MAX_FEE_NUMERATOR ∧ ∀ amount,
      (l.after actions).pool.tradeFeeNumeratorFromIncluded l.config amount .quoteToBase point
        eligible = .ok rate := by
    cases eligible with
    | true =>
      obtain ⟨rate, hrate, hmax⟩ := l.accepted.minBaseFee_isOk
      exact ⟨rate, hmax, fun _ => hrate⟩
    | false =>
      have hunlimited : ∀ limiter,
          l.config.poolFees.baseFee.getBaseFeeHandler = .ok (.feeRateLimiter limiter) →
            limiter.isRateLimiterApplied point (l.after actions).pool.activationPoint
              .quoteToBase = .ok false := by
        intro limiter hhandler
        rw [Deployment.validateRateLimiter, show l.deployment.config = l.config from rfl,
          getFeeRateLimiter_of_handler hhandler] at hlimiter
        obtain ⟨applied, happlied, _⟩ := bind_eq_ok.mp hlimiter
        cases applied with
        | false => exact happlied
        | true => exact absurd ⟨limiter, hhandler, happlied⟩ (hfree.resolve_left (by decide))
      obtain ⟨handler, base, hhandler, hbase, hall⟩ :=
        l.accepted.baseFee_isOk (l.activationPoint_le actions hpoint) hunlimited
      obtain ⟨rate, hrate, hmax⟩ := (l.keepsTrack actions hclock).totalFee_isOk hbase
      refine ⟨rate, hmax, ?_⟩
      intro amount
      exact bind_eq_ok.mpr ⟨handler, hhandler, bind_eq_ok.mpr ⟨base, hall amount, hrate⟩⟩
  obtain ⟨rate, hmax, hincluded⟩ := hrate
  refine ⟨rate, hmax, hincluded, ?_⟩
  intro amount
  rw [PoolState.tradeFeeNumeratorFromExcluded_eq hfree amount amount]
  exact hincluded amount

end Launch

/-! ## Partial fills -/

section Fees

variable {numerator amount : ℕ}

/-- A fee is taken out of every amount that fits, and leaves its part rounded down.
Source: `state/config.rs` `get_fee_on_amount` -/
theorem getFeeOnAmount_isOk (hrate : numerator ≤ FEE_DENOMINATOR) (hamount : amount < 2 ^ 64)
    (hasReferral : Bool) : ∃ r, getFeeOnAmount numerator amount hasReferral = .ok r ∧
      r.amount = amount * (FEE_DENOMINATOR - numerator) / FEE_DENOMINATOR := by
  rw [getFeeOnAmount_eq, getExcludedFeeAmount_eq hrate hamount]
  obtain ⟨⟨trading, protocol, referral⟩, hsplit⟩ :=
    splitFees_isOk ((Nat.sub_le amount _).trans_lt hamount) hasReferral
  exact ⟨_, bind_eq_ok.mpr ⟨_, rfl, bind_eq_ok.mpr ⟨_, hsplit, rfl⟩⟩, rfl⟩

/-- A fee is added on to every amount that fits with it.
Source: `state/virtual_pool.rs`, `get_included_fee_amount` and then `split_fees` -/
theorem PoolState.includeFees_isOk (hrate : numerator < FEE_DENOMINATOR) (hamount : amount < 2 ^ 64)
    (hfit : (amount * FEE_DENOMINATOR) ⌈/⌉ (FEE_DENOMINATOR - numerator) < 2 ^ 64)
    (hasReferral : Bool) : ∃ r, PoolState.includeFees numerator amount hasReferral = .ok r := by
  unfold PoolState.includeFees
  rw [getIncludedFeeAmount_eq hrate hamount, safeCast_eq_ok.mpr ⟨hfit, rfl⟩, ok_bind, ok_bind]
  obtain ⟨⟨trading, protocol, referral⟩, hsplit⟩ :=
    splitFees_isOk ((Nat.sub_le _ amount).trans_lt hfit) hasReferral
  exact ⟨_, bind_eq_ok.mpr ⟨_, hsplit, rfl⟩⟩

/-- What an amount leaves for the curve.
Source: `state/virtual_pool.rs` `get_swap_result_from_partial_input`, `actual_amount_in` -/
def FeeMode.netAmount (m : FeeMode) (rate amount : ℕ) : ℕ :=
  if m.feesOnInput then amount * (FEE_DENOMINATOR - rate) / FEE_DENOMINATOR else amount

/-- A fee leaves at most the amount. -/
theorem FeeMode.netAmount_le (m : FeeMode) (rate amount : ℕ) :
    m.netAmount rate amount ≤ amount := by
  unfold netAmount
  split_ifs
  · apply Nat.div_le_of_le_mul
    rw [Nat.mul_comm FEE_DENOMINATOR]
    exact Nat.mul_le_mul_left _ (Nat.sub_le _ _)
  · exact le_rfl

end Fees

namespace PoolState

variable (a : AcceptedConfig) {p : PoolState} {m : FeeMode} {amountIn point rate : ℕ}
  {eligible : Bool}

/-- The fee is taken out of the whole amount.
Source: `state/virtual_pool.rs` `get_swap_result_from_partial_input`, the first branch on
`fees_on_input` -/
theorem partialInput_net (m : FeeMode) (hmax : rate ≤ MAX_FEE_NUMERATOR)
    (hamount : amountIn < 2 ^ 64) : ∃ input,
      (if m.feesOnInput then getFeeOnAmount rate amountIn m.hasReferral
        else pure (withoutFees amountIn)) = .ok input ∧
      input.amount = m.netAmount rate amountIn := by
  unfold FeeMode.netAmount
  split_ifs with hm
  · exact getFeeOnAmount_isOk (hmax.trans MAX_FEE_NUMERATOR_lt.le) hamount m.hasReferral
  · exact ⟨_, rfl, rfl⟩

/-- The amount that the curve took can be charged.
Source: `state/virtual_pool.rs` `get_swap_result_from_partial_input`, the branch
`amount_left != 0` -/
theorem partialInput_isOk (hrate : p.ChargesRate a.config point eligible rate)
    (hamount : amountIn < 2 ^ 64) {input : FeeOnAmountResult} {left : ℕ}
    (hinput : input.amount = m.netAmount rate amountIn) (hleft : left ≤ input.amount) :
    ∃ charged, p.partialInput a.config amountIn m .quoteToBase point eligible input left =
      .ok charged := by
  unfold partialInput
  by_cases hzero : left = 0
  · exact ⟨_, if_neg (not_not.mpr hzero)⟩
  rw [if_pos hzero, safeSub_eq_ok.mpr ⟨hleft, rfl⟩, ok_bind]
  by_cases hm : m.feesOnInput = true
  · have hlt : rate < FEE_DENOMINATOR := hrate.le.trans_lt MAX_FEE_NUMERATOR_lt
    have htaken : input.amount - left ≤ m.netAmount rate amountIn := by
      rw [hinput]
      exact Nat.sub_le _ _
    have hfit : ((input.amount - left) * FEE_DENOMINATOR) ⌈/⌉ (FEE_DENOMINATOR - rate) <
        2 ^ 64 := by
      rw [FeeMode.netAmount, if_pos hm, le_excluded_iff hlt] at htaken
      exact htaken.trans_lt hamount
    have hnet := (htaken.trans (m.netAmount_le rate amountIn)).trans_lt hamount
    obtain ⟨included, hincluded⟩ := includeFees_isOk hlt hnet hfit m.hasReferral
    rw [if_pos hm, hrate.excluded, ok_bind, hincluded]
    exact ⟨_, rfl⟩
  · rw [if_neg hm]
    exact ⟨_, rfl⟩

/-- **A partial fill at a rate is never refused**, and it goes to the end of the curve exactly when
the amount covers the rest of it.
Source: `state/virtual_pool.rs` `get_swap_result_from_partial_input` -/
theorem partialFill_isOk (hp : p.PriceInRange a)
    (hrate : p.ChargesRate a.config point eligible rate) (hamount : amountIn < 2 ^ 64) :
    ∃ r, p.getSwapResultFromPartialInput a.config amountIn m .quoteToBase point eligible = .ok r ∧
      (r.nextSqrtPrice = a.config.migrationSqrtPrice ↔
        p.restOfCurve a ≤ m.netAmount rate amountIn) := by
  obtain ⟨input, hinput, hnet⟩ := partialInput_net m hrate.le hamount
  have hfit : m.netAmount rate amountIn < 2 ^ 64 := (m.netAmount_le rate amountIn).trans_lt hamount
  obtain ⟨s, hs, ⟨⟨hlow, hstop, hcost⟩, hgreatest⟩, hused, hyield, _⟩ :=
    calculateQuoteToBaseFromAmountIn_bought a hp hfit
  have hleft : s.amountLeft ≤ input.amount := by omega
  obtain ⟨⟨actual, included⟩, hcharged⟩ := partialInput_isOk a hrate hamount hnet hleft
  have houtput : s.outputAmount < 2 ^ 64 := by
    rw [hyield]
    exact (a.yieldTo_le_swapBaseAmount hp.1 hlow hstop).trans_lt a.swapBaseAmount_lt
  have hout : ∃ output, (if m.feesOnInput then pure { included with amount := s.outputAmount }
      else getFeeOnAmount rate s.outputAmount m.hasReferral) = .ok output := by
    by_cases hm : m.feesOnInput = true
    · exact ⟨_, if_pos hm⟩
    · obtain ⟨output, hoe, _⟩ := getFeeOnAmount_isOk (hrate.le.trans MAX_FEE_NUMERATOR_lt.le)
        houtput m.hasReferral
      exact ⟨output, (if_neg hm).trans hoe⟩
  obtain ⟨output, hout⟩ := hout
  refine ⟨_, bind_eq_ok.mpr ⟨rate, hrate.included amountIn, bind_eq_ok.mpr ⟨input, hinput,
    bind_eq_ok.mpr ⟨s, ?_, bind_eq_ok.mpr ⟨(actual, included), hcharged, bind_eq_ok.mpr
      ⟨output, hout, rfl⟩⟩⟩⟩⟩, ?_⟩
  · rw [hnet]
    exact hs
  · show s.nextSqrtPrice = _ ↔ _
    constructor
    · intro hend
      rw [restOfCurve, ← hend]
      exact hcost
    · intro hcovers
      exact le_antisymm hstop (hgreatest ⟨hp.2, le_rfl, hcovers⟩)

end PoolState

/-! ## The rest of a sale -/

/-- The fee mode of an accepted configuration is one.
Source: `process_create_config.rs` `ConfigParameters::validate`, the check on `collect_fee_mode` -/
theorem AcceptedConfig.getFeeMode_isOk (a : AcceptedConfig) (dir : TradeDirection)
    (hasReferral : Bool) :
    ∃ m, FeeMode.getFeeMode a.config.collectFeeMode dir hasReferral = .ok m := by
  obtain ⟨mode, hmode⟩ := a.paramsValidated.collectFeeMode
  rw [a.paramsCreated.collectFeeMode_eq]
  exact ⟨_, bind_eq_ok.mpr ⟨mode, orThrow_eq_ok.mpr hmode, rfl⟩⟩

/-- Whether a buy is charged the minimum of the base fee: it is the first, without a referral
account, in a transaction that creates the pool.
Source: `instructions/swap/process_swap.rs` `process_swap`,
`eligible_for_first_swap_with_min_fee` -/
def Deployment.eligibleForFirstSwapWithMinFee (d : Deployment) (w : World) (request : SwapRequest)
    (isVirtual : Bool) : Bool :=
  d.config.isFirstSwapWithMinFeeEnabled && w.pool.isFirstSwap &&
    !(!isVirtual && request.hasReferralAccount) && request.containsInitializePool

/-- A partial fill without a limit that is admitted.
Source: `instructions/swap/swap_partial_fill.rs` `process_swap_partial_fill` -/
structure Deployment.TakesRest (d : Deployment) (w : World) (request : SwapRequest)
    (isVirtual : Bool) : Prop where
  admits : d.Admits w request isVirtual
  isPartialFill : SwapMode.tryFrom request.params.swapMode = some .partialFill
  amount_pos : 0 < request.params.amount0
  amount_lt : request.params.amount0 < 2 ^ 64
  noLimit : request.params.amount1 = 0

namespace Launch

variable (l : Launch) (actions : List Action)

end Launch

end DynamicBondingCurve
