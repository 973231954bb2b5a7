import DynamicBondingCurve.BuyerTerms
import DynamicBondingCurve.Claimable
import DynamicBondingCurve.Sdk.Quote
import DynamicBondingCurve.State.Volatility
import DynamicBondingCurve.TradingIndependence

/-!
# Quoted swaps go through

A quote ends where the program has computed the amounts of a swap. In a launched pool nothing that
comes after it fails: the volatility can be measured, the fees can be booked, the vault covers what
is paid out and the sale can end. What is left is what the instruction asks for, the limit of the
buyer, and the room in the counters of the quote token.

* `PoolState.KeepsTrack`, `Launch.keepsTrack`: the tracker of a dynamic fee never stops a swap.
* `Launch.baseFees_le`: the counters of the base token have room.
* `PoolState.HasRoom`, `applySwapResultInternal_isOk`: a result that has room can be applied.
* `Launch.swap_succeeds_iff`: **a swap succeeds exactly when it is admitted and its quote keeps to
  the limit and has room.**
-/

namespace DynamicBondingCurve

open Library

/-! ## The tracker -/

namespace AcceptedConfig

variable (a : AcceptedConfig)

/-- The dynamic fee passed its checks.
Source: `params/fee_parameters.rs` `PoolFeeParameters::validate`, `to_pool_fees_config` -/
theorem dynamicFee_spec (henabled : a.config.poolFees.dynamicFee.isDynamicFeeEnable = true) :
    ∃ params : DynamicFeeParameters, params.Valid ∧ params.decayPeriod < 2 ^ 16 ∧
      a.config.poolFees.dynamicFee = params.toDynamicFeeConfig := by
  obtain ⟨activationType, hfees⟩ := a.paramsValidated.poolFees
  simp only [PoolFeeParameters.validate, bind_eq_ok, exists_unit] at hfees
  obtain ⟨_, hfees⟩ := hfees
  rw [a.paramsCreated.poolFees_eq, PoolFeeParameters.toPoolFeesConfig] at henabled ⊢
  cases hdynamic : a.params.poolFees.dynamicFee with
  | none =>
    rw [hdynamic] at henabled
    cases henabled
  | some params =>
    rw [hdynamic] at hfees
    refine ⟨params, DynamicFeeParameters.validate_spec hfees, ?_, rfl⟩
    refine a.inRange.2.1 _ (List.mem_append_right _ ?_)
    rw [hdynamic]
    simp

end AcceptedConfig

namespace PoolState

variable {p q mid p' : PoolState} {config : PoolConfig} {timestamp old : ℕ}

/-- Where there is a dynamic fee, its tracker will not fail.
Source: `state/fee.rs` `VolatilityTracker` -/
def KeepsTrack (config : PoolConfig) (p : PoolState) : Prop :=
  config.poolFees.dynamicFee.isDynamicFeeEnable = true →
    ∃ params : DynamicFeeParameters, params.Valid ∧ params.decayPeriod < 2 ^ 16 ∧
      config.poolFees.dynamicFee = params.toDynamicFeeConfig ∧ p.Tracked params

/-- The tracking depends on the price and the tracker only. -/
theorem KeepsTrack.congr (hp : p.KeepsTrack config) (hprice : q.sqrtPrice = p.sqrtPrice)
    (htracker : q.volatilityTracker = p.volatilityTracker) : q.KeepsTrack config := by
  intro henabled
  obtain ⟨params, hvalid, hdecay, hconfig, htracked⟩ := hp henabled
  refine ⟨params, hvalid, hdecay, hconfig, ?_, ?_⟩
  · rw [hprice]
    exact htracked.price
  · rw [htracker]
    exact htracked.tracker

/-- A tracked pool can be updated once the clock is past every filter period.
Source: `state/virtual_pool.rs` `update_pre_swap` -/
theorem KeepsTrack.canUpdatePreSwap (hp : p.KeepsTrack config)
    (htime : config.poolFees.dynamicFee.isDynamicFeeEnable = true → 65535 ≤ timestamp) :
    p.CanUpdatePreSwap config timestamp := by
  rw [← updatePreSwap_isOk_iff]
  by_cases henabled : config.poolFees.dynamicFee.isDynamicFeeEnable = true
  · obtain ⟨params, hvalid, hdecay, hconfig, htracked⟩ := hp henabled
    obtain ⟨q, hq, _⟩ := htracked.updatePreSwap hvalid hdecay hconfig (htime henabled)
    exact ⟨q, hq⟩
  · exact ⟨p, if_neg henabled⟩

/-- The update after a swap reads the tracker and the price only.
Source: `state/virtual_pool.rs` `update_post_swap` -/
theorem updatePostSwap_congr (hprice : mid.sqrtPrice = q.sqrtPrice)
    (htracker : mid.volatilityTracker = q.volatilityTracker)
    (h : q.updatePostSwap config old timestamp = .ok p') :
    ∃ p'', mid.updatePostSwap config old timestamp = .ok p'' ∧ p''.sqrtPrice = p'.sqrtPrice ∧
      p''.volatilityTracker = p'.volatilityTracker := by
  unfold updatePostSwap at h ⊢
  rw [hprice, htracker]
  split_ifs at h ⊢
  · simp only [bind_eq_ok, pure_eq_ok] at h ⊢
    obtain ⟨tracker, htracker, delta, hdelta, rfl⟩ := h
    exact ⟨_, ⟨tracker, htracker, delta, hdelta, rfl⟩, rfl, rfl⟩
  · rw [pure_eq_ok] at h
    subst h
    exact ⟨mid, rfl, hprice, htracker⟩

/-- **The volatility of a swap can be measured**, and the tracker keeps going.
Source: `state/virtual_pool.rs` `update_pre_swap`, `update_post_swap` -/
theorem KeepsTrack.updatePostSwap (hp : p.KeepsTrack config)
    (htime : config.poolFees.dynamicFee.isDynamicFeeEnable = true → 65535 ≤ timestamp)
    (hpre : p.updatePreSwap config timestamp = .ok q)
    (htracker : mid.volatilityTracker = q.volatilityTracker) (hprice : WithinBounds mid.sqrtPrice) :
    ∃ p', mid.updatePostSwap config q.sqrtPrice timestamp = .ok p' ∧ p'.KeepsTrack config := by
  by_cases henabled : config.poolFees.dynamicFee.isDynamicFeeEnable = true
  · obtain ⟨params, hvalid, hdecay, hconfig, htracked⟩ := hp henabled
    obtain ⟨last, hmove, hlast⟩ :=
      priceMove_tracked (m := ⟨timestamp, mid.sqrtPrice⟩) hvalid hdecay hconfig
        ⟨htime henabled, hprice⟩ htracked
    simp only [priceMove, bind_eq_ok] at hmove
    obtain ⟨q', hq', hpost⟩ := hmove
    cases hpre.symm.trans hq'
    have hafter : ∃ p', mid.updatePostSwap config q.sqrtPrice timestamp = .ok p' ∧
        p'.sqrtPrice = last.sqrtPrice ∧ p'.volatilityTracker = last.volatilityTracker := by
      apply updatePostSwap_congr _ _ hpost
      · rfl
      · exact htracker
    obtain ⟨p', hp', hsame, hkept⟩ := hafter
    refine ⟨p', hp', fun _ => ⟨params, hvalid, hdecay, hconfig, ?_, ?_⟩⟩
    · rw [hsame]
      exact hlast.price
    · rw [hkept]
      exact hlast.tracker
  · exact ⟨mid, if_neg henabled, fun hyes => absurd hyes henabled⟩

end PoolState

/-! ## Applying a result -/

/-- On a buy the fee is booked on the quote token exactly in the mode that says so.
Source: `state/fee.rs` `get_fee_mode` -/
theorem getFeeMode_onQuote {collectFeeMode : ℕ} {hasReferral : Bool} {m : FeeMode}
    (h : FeeMode.getFeeMode collectFeeMode .quoteToBase hasReferral = .ok m) :
    m.feesOnBaseToken = false ↔ CollectFeeMode.tryFrom collectFeeMode = some .quoteToken := by
  simp only [FeeMode.getFeeMode, bind_eq_ok, orThrow_eq_ok, pure_eq_ok] at h
  obtain ⟨mode, hmode, rfl⟩ := h
  rw [hmode]
  cases mode <;> simp

namespace PoolState

/-- The counters of the quote token have room for a result; a virtual swap books no fee on it.
Source: `state/virtual_pool.rs` `apply_swap_result_internal`, its additions -/
structure HasRoom (config : PoolConfig) (p : PoolState) (isVirtual : Bool) (r : SwapResult2) :
    Prop where
  reserve : (if isVirtual then p.virtualQuoteReserve else p.quoteReserve) +
    r.excludedFeeInputAmount < 2 ^ 64
  quoteFees : isVirtual = false →
    CollectFeeMode.tryFrom config.collectFeeMode = some .quoteToken →
      p.metrics.totalProtocolQuoteFee + r.protocolFee < 2 ^ 64 ∧
        p.metrics.totalTradingQuoteFee + r.tradingFee < 2 ^ 64

variable {p q p' : PoolState} {config : PoolConfig} {timestamp : ℕ} {m : FeeMode}
  {r : SwapResult2} {isVirtual hasReferral : Bool}

/-- Fees whose counters have room are recorded.
Source: `state/virtual_pool.rs` `apply_swap_result_internal`, the branches on `fees_on_base_token`
-/
theorem recordFees_isOk (hp : p.Counted)
    (hsplit : ∃ split, config.splitPartnerAndCreatorFee r.tradingFee = .ok split)
    (hbase : m.feesOnBaseToken = true →
      p.metrics.totalProtocolBaseFee + r.protocolFee < 2 ^ 64 ∧
        p.metrics.totalTradingBaseFee + r.tradingFee < 2 ^ 64)
    (hquote : isVirtual = false → m.feesOnBaseToken = false →
      p.metrics.totalProtocolQuoteFee + r.protocolFee < 2 ^ 64 ∧
        p.metrics.totalTradingQuoteFee + r.tradingFee < 2 ^ 64) :
    ∃ p', p.recordFees config r.getSwapResult m isVirtual = .ok p' := by
  obtain ⟨htb, htq, hpb, hpq⟩ := hp
  obtain ⟨split, hsplit⟩ := hsplit
  have hsum := PoolConfig.splitPartnerAndCreatorFee_spec hsplit
  unfold recordFees
  simp only [bind_eq_ok]
  by_cases honBase : m.feesOnBaseToken = true
  · obtain ⟨hprotocol, htrading⟩ := hbase honBase
    have hbooked : p.protocolBaseFee + r.protocolFee < 2 ^ 64 := by omega
    simp only [if_pos honBase, bind_eq_ok, safeAdd_eq_ok, PoolMetrics.accumulateFee, if_true,
      pure_eq_ok]
    exact ⟨_, split, hsplit, _, ⟨by omega, rfl⟩, _, ⟨hbooked, rfl⟩,
      _, ⟨by omega, rfl⟩, _, ⟨_, ⟨hprotocol, rfl⟩, _, ⟨htrading, rfl⟩, rfl⟩, rfl⟩
  · cases isVirtual with
    | true => exact ⟨p, split, hsplit, by rw [if_neg honBase]; rfl⟩
    | false =>
      obtain ⟨hprotocol, htrading⟩ := hquote rfl (by simpa using honBase)
      have hbooked : p.protocolQuoteFee + r.protocolFee < 2 ^ 64 := by omega
      simp only [if_neg honBase, Bool.false_eq_true, not_false_eq_true, if_true, bind_eq_ok,
        safeAdd_eq_ok, PoolMetrics.accumulateFee, if_false, pure_eq_ok]
      exact ⟨_, split, hsplit, _, ⟨by omega, rfl⟩, _, ⟨hbooked, rfl⟩,
        _, ⟨by omega, rfl⟩, _, ⟨_, ⟨hprotocol, rfl⟩, _, ⟨htrading, rfl⟩, rfl⟩, rfl⟩

/-- The output of the curve is computed when it fits.
Source: `state/virtual_pool.rs` `apply_swap_result_internal`, `actual_output_amount` -/
theorem actualOutputAmount_eq (hfit : curveOutput m r < 2 ^ 64) :
    actualOutputAmount r.getSwapResult m = .ok (curveOutput m r) := by
  unfold actualOutputAmount curveOutput at *
  split_ifs at hfit ⊢
  · rfl
  · simp only [SwapResult2.fees] at hfit
    simp only [SwapResult2.getSwapResult, SwapResult2.fees]
    refine bind_eq_ok.mpr ⟨_, safeAdd_eq_ok.mpr ⟨by omega, rfl⟩, bind_eq_ok.mpr ⟨_,
      safeAdd_eq_ok.mpr ⟨by omega, rfl⟩, safeAdd_eq_ok.mpr ⟨by omega, by omega⟩⟩⟩

/-- **A result that has room can be applied.**
Source: `state/virtual_pool.rs` `apply_swap_result_internal` -/
theorem applySwapResultInternal_isOk (hp : p.KeepsTrack config)
    (htime : config.poolFees.dynamicFee.isDynamicFeeEnable = true → 65535 ≤ timestamp)
    (hpre : p.updatePreSwap config timestamp = .ok q) (hnext : WithinBounds r.nextSqrtPrice)
    (hcounted : p.Counted)
    (hsplit : ∃ split, config.splitPartnerAndCreatorFee r.tradingFee = .ok split)
    (hmode : FeeMode.getFeeMode config.collectFeeMode .quoteToBase hasReferral = .ok m)
    (hbase : m.feesOnBaseToken = true →
      p.metrics.totalProtocolBaseFee + r.protocolFee < 2 ^ 64 ∧
        p.metrics.totalTradingBaseFee + r.tradingFee < 2 ^ 64)
    (hroom : p.HasRoom config isVirtual r) (hout : curveOutput m r ≤ p.baseReserve)
    (hfit : p.baseReserve < 2 ^ 64) :
    ∃ p', q.applySwapResultInternal config r.getSwapResult m .quoteToBase timestamp isVirtual =
      .ok p' := by
  have hreserve := hroom.reserve
  obtain ⟨tracker, rfl⟩ := updatePreSwap_spec hpre
  let q0 : PoolState := { p with volatilityTracker := tracker, sqrtPrice := r.nextSqrtPrice }
  have hq0 : q0.Counted :=
    ⟨hcounted.tradingBase, hcounted.tradingQuote, hcounted.protocolBase, hcounted.protocolQuote⟩
  have hfees : ∃ q1, q0.recordFees config r.getSwapResult m isVirtual = .ok q1 := by
    apply recordFees_isOk hq0 hsplit hbase
    intro hreal honQuote
    exact hroom.quoteFees hreal ((getFeeMode_onQuote hmode).mp honQuote)
  obtain ⟨q1, hq1⟩ := hfees
  obtain ⟨baseFee, quoteFee, _, rfl⟩ := recordFees_spec hq1
  have hmove : ∃ q2, (q0.withFees baseFee quoteFee).moveReserves .quoteToBase isVirtual
      r.excludedFeeInputAmount (curveOutput m r) = .ok q2 ∧ q2.sqrtPrice = r.nextSqrtPrice ∧
        q2.volatilityTracker = tracker := by
    unfold moveReserves
    rw [if_neg (by decide)]
    cases isVirtual with
    | true =>
      exact ⟨_, bind_eq_ok.mpr ⟨_, safeAdd_eq_ok.mpr ⟨hreserve, rfl⟩, bind_eq_ok.mpr ⟨_,
        safeSub_eq_ok.mpr ⟨hout, rfl⟩, rfl⟩⟩, rfl, rfl⟩
    | false =>
      exact ⟨_, bind_eq_ok.mpr ⟨_, safeAdd_eq_ok.mpr ⟨hreserve, rfl⟩, bind_eq_ok.mpr ⟨_,
        safeSub_eq_ok.mpr ⟨hout, rfl⟩, rfl⟩⟩, rfl, rfl⟩
  obtain ⟨q2, hq2, hprice, htracker⟩ := hmove
  obtain ⟨q3, hq3, _⟩ := hp.updatePostSwap htime hpre htracker (by rw [hprice]; exact hnext)
  exact ⟨_, bind_eq_ok.mpr ⟨_, hq1, bind_eq_ok.mpr ⟨_, actualOutputAmount_eq (hout.trans_lt hfit),
    bind_eq_ok.mpr ⟨q2, hq2, bind_eq_ok.mpr ⟨q3, hq3, rfl⟩⟩⟩⟩⟩

/-- A result that was applied had room.
Source: `state/virtual_pool.rs` `apply_swap_result_internal` -/
theorem hasRoom_of_applySwapResultInternal
    (hpre : p.updatePreSwap config timestamp = .ok q)
    (hmode : FeeMode.getFeeMode config.collectFeeMode .quoteToBase hasReferral = .ok m)
    (h : q.applySwapResultInternal config r.getSwapResult m .quoteToBase timestamp isVirtual =
      .ok p') : p.HasRoom config isVirtual r := by
  obtain ⟨tracker, rfl⟩ := updatePreSwap_spec hpre
  simp only [applySwapResultInternal, bind_eq_ok, pure_eq_ok] at h
  obtain ⟨q1, hfees, output, _, q2, hmove, _⟩ := h
  have hquote := hfees
  obtain ⟨baseFee, quoteFee, _, rfl⟩ := recordFees_spec hfees
  constructor
  · unfold moveReserves at hmove
    rw [if_neg (by decide)] at hmove
    cases isVirtual with
    | true =>
      simp only [if_true, bind_eq_ok, safeAdd_eq_ok] at hmove
      obtain ⟨_, ⟨hfit, _⟩, _⟩ := hmove
      exact hfit
    | false =>
      simp only [Bool.false_eq_true, if_false, bind_eq_ok, safeAdd_eq_ok] at hmove
      obtain ⟨_, ⟨hfit, _⟩, _⟩ := hmove
      exact hfit
  · rintro rfl hcollect
    have honQuote := (getFeeMode_onQuote hmode).mpr hcollect
    simp only [recordFees, honQuote, Bool.false_eq_true, if_false, not_false_eq_true, if_true,
      bind_eq_ok, safeAdd_eq_ok, PoolMetrics.accumulateFee, pure_eq_ok] at hquote
    obtain ⟨_, _, _, _, _, _, _, _, _, ⟨_, ⟨hprotocol, _⟩, _, ⟨htrading, _⟩, _⟩, _⟩ := hquote
    exact ⟨hprotocol, htrading⟩

/-- A result that is applied keeps the tracker going.
Source: `state/virtual_pool.rs` `apply_swap_result_internal` -/
theorem KeepsTrack.applySwapResultInternal (hp : p.KeepsTrack config)
    (htime : config.poolFees.dynamicFee.isDynamicFeeEnable = true → 65535 ≤ timestamp)
    (hpre : p.updatePreSwap config timestamp = .ok q) (hnext : WithinBounds r.nextSqrtPrice)
    (h : q.applySwapResultInternal config r.getSwapResult m .quoteToBase timestamp isVirtual =
      .ok p') : p'.KeepsTrack config := by
  simp only [PoolState.applySwapResultInternal, bind_eq_ok, pure_eq_ok] at h
  obtain ⟨q1, hfees, output, _, q2, hmove, q3, hpost, rfl⟩ := h
  obtain ⟨baseFee, quoteFee, _, rfl⟩ := recordFees_spec hfees
  have hkept : q2.sqrtPrice = r.nextSqrtPrice ∧ q2.volatilityTracker = q.volatilityTracker := by
    unfold moveReserves at hmove
    rw [if_neg (by decide)] at hmove
    split_ifs at hmove
    all_goals
      simp only [bind_eq_ok, pure_eq_ok] at hmove
      obtain ⟨_, _, _, _, rfl⟩ := hmove
      exact ⟨rfl, rfl⟩
  obtain ⟨last, hlast, htracked⟩ :=
    hp.updatePostSwap htime hpre hkept.2 (by rw [hkept.1]; exact hnext)
  cases hlast.symm.trans hpost
  exact htracked.congr rfl rfl

end PoolState

/-! ## Launched pools -/

namespace Launch

variable (l : Launch) (actions : List Action)

/-- Nothing of a fee goes to the creator.
Source: `process_create_config.rs` `ConfigParameters::validate`, the check on the percentage -/
theorem splitPartnerAndCreatorFee_eq (fee : ℕ) :
    l.config.splitPartnerAndCreatorFee fee = .ok { partnerFee := fee, creatorFee := 0 } := by
  have hzero : l.config.creatorTradingFeePercentage = 0 :=
    l.accepted.paramsCreated.creatorTradingFeePercentage_eq.trans
      l.accepted.paramsValidated.creatorTradingFeePercentage_eq
  exact if_pos hzero

/-- The prices of a sale are within the bounds.
Source: `process_create_config.rs` `ConfigParameters::validate`, the checks on the curve -/
theorem withinBounds {price : ℕ} (hstart : l.config.sqrtStartPrice ≤ price)
    (hlast : price ≤ l.config.migrationSqrtPrice) : WithinBounds price :=
  ⟨l.accepted.sqrtStartPrice_ge.trans hstart,
    (hlast.trans l.accepted.migration_le_ladderTop).trans l.accepted.ladderTop_le⟩

/-- A result leaves a price within the bounds.
Source: `state/virtual_pool.rs`, the three swap modes -/
theorem withinBounds_of_result {p : PoolState} {mode : SwapMode} {amount point : ℕ} {m : FeeMode}
    {dir : TradeDirection} {eligible : Bool} {r : SwapResult2} (hp : p.PriceInRange l.accepted)
    (h : p.getSwapResult2 mode l.config amount m dir point eligible = .ok r) :
    WithinBounds r.nextSqrtPrice := by
  have hexchange := PoolState.getSwapResult2_exchange l.accepted hp h
  obtain ⟨hstart, hlast⟩ := hexchange.priceInRange l.accepted hp
  exact l.withinBounds hstart hlast

/-- A pool with a dynamic fee is created when the clock is past every filter period.
Source: `state/fee.rs` `VolatilityTracker`, whose first timestamp is zero -/
def ClockReady : Prop :=
  l.config.poolFees.dynamicFee.isDynamicFeeEnable = true → 65535 ≤ l.request.timestamp

/-- The clock never runs backwards. -/
theorem timestamp_ge : l.request.timestamp ≤ (l.after actions).timestamp := by
  refine invariant_of_transition (fun w => l.request.timestamp ≤ w.timestamp) ?_ ?_
  · intro a w w' hw hmove
    rcases hmove.quiet_or with hq | ⟨_, _, mid, trade, completion⟩ | ⟨_, move⟩ | ⟨_, move⟩
    · exact hw.trans hq.timestamp_le
    · rw [← trade.timestamp] at hw
      cases completion <;> exact hw
    · rw [move.eq]
      exact hw
    · rw [move.eq]
      exact hw
  · obtain ⟨_, _, hgenesis, _⟩ := l.genesis_eq
    rw [hgenesis]
    exact le_rfl

/-- The clock stays past every filter period. -/
theorem clock_after (hclock : l.ClockReady) :
    l.config.poolFees.dynamicFee.isDynamicFeeEnable = true →
      65535 ≤ (l.after actions).timestamp := by
  intro henabled
  exact (hclock henabled).trans (l.timestamp_ge actions)

/-- A swap keeps the tracker going.
Source: `instructions/swap/process_swap.rs` `process_swap` -/
theorem keepsTrack_of_processSwap {request : SwapRequest} {isVirtual : Bool} {w' : World}
    (hclock : l.ClockReady)
    (hw : (l.after actions).pool.KeepsTrack l.config)
    (h : l.deployment.processSwap (l.after actions) request isVirtual = .ok w') :
    w'.pool.KeepsTrack l.config := by
  simp only [Deployment.processSwap, bind_eq_ok] at h
  obtain ⟨c, hc, ⟨m, r, p⟩, hcompute, mid, hsettle, hcomplete⟩ := h
  obtain ⟨hdir, _⟩ := validateSwap_spec hc
  have hmid : mid.pool = p := pool_of_settleSwap hsettle
  simp only [Deployment.computeSwap, bind_eq_ok, pure_eq_ok, Prod.mk.injEq] at hcompute
  obtain ⟨q, hpre, m, hm, r, hr, p, happly, rfl, rfl, rfl⟩ := hcompute
  have happly' : q.applySwapResultInternal l.config r.getSwapResult m .quoteToBase
      (l.after actions).timestamp isVirtual = .ok p := by
    rw [hdir] at happly
    cases isVirtual <;> exact happly
  have hnext : WithinBounds r.nextSqrtPrice := by
    obtain ⟨tracker, rfl⟩ := PoolState.updatePreSwap_spec hpre
    exact l.withinBounds_of_result
      (p := { (l.after actions).pool with volatilityTracker := tracker })
      (l.onCurve actions).priceInRange (processSwapMode_spec hr)
  have hkept := hw.applySwapResultInternal (l.clock_after actions hclock) hpre hnext happly'
  rw [← hmid] at hkept
  cases completeCurve_spec hcomplete with
  | «open» => exact hkept
  | complete => exact hkept.congr rfl rfl

/-- **The tracker of a launched pool never fails.**
Source: `state/fee.rs` `VolatilityTracker`; `state/virtual_pool.rs` `update_pre_swap`,
`update_post_swap` -/
theorem keepsTrack (hclock : l.ClockReady) :
    (l.after actions).pool.KeepsTrack l.config := by
  have h : (∃ as, l.after as = l.after actions) ∧ (l.after actions).pool.KeepsTrack l.config := by
    refine run_invariant (fun w => (∃ as, l.after as = w) ∧ w.pool.KeepsTrack l.config)
      (fun _ => True) ?_ (fun _ _ => trivial) ⟨⟨[], rfl⟩, ?_⟩
    · rintro w a t _ ⟨⟨as, rfl⟩, hw⟩ hstep
      refine ⟨⟨as ++ [a], ?_⟩, ?_⟩
      · rw [l.after_append, run_cons, run_nil]
        simp only [advance, hstep]
      · cases hswap : a.swap? with
        | none =>
          have hsame := trading_of_step hswap hstep
          exact hw.congr (congrArg TradingState.sqrtPrice hsame)
            (congrArg TradingState.volatilityTracker hsame)
        | some swap =>
          exact l.keepsTrack_of_processSwap as hclock hw ((step_swap_iff hswap).mp hstep).2
    · intro henabled
      obtain ⟨params, hvalid, hdecay, hconfig⟩ := l.accepted.dynamicFee_spec henabled
      have hrange := l.onCurve_genesis.priceInRange
      refine ⟨params, hvalid, hdecay, hconfig, l.withinBounds hrange.1 hrange.2, ?_⟩
      obtain ⟨_, _, hgenesis, _⟩ := l.genesis_eq
      rw [hgenesis]
      exact ⟨⟨Nat.zero_le _, Nat.zero_le _⟩, .inr rfl⟩
  exact h.2

/-- **The fees on the base token and the reserve come out of the supply**, so that no counter of the
base token overflows.
Source: `state/virtual_pool.rs` `accumulate_fee` -/
theorem baseFees_le : (l.after actions).pool.metrics.totalTradingBaseFee +
    (l.after actions).pool.metrics.totalProtocolBaseFee + (l.after actions).pool.baseReserve ≤
      l.initialBaseSupply := by
  refine invariant_of_transition (fun w => w.pool.metrics.totalTradingBaseFee +
    w.pool.metrics.totalProtocolBaseFee + w.pool.baseReserve ≤ l.initialBaseSupply) ?_ ?_
  · intro a w w' hw hmove
    cases hmove with
    | trading move =>
      cases move with
      | @swap _ x mid _ _ trade completion =>
        have hreserve := trade.baseOut_le
        have hfee := trade.baseFee_le
        have hin := trade.baseIn_eq
        have hmid : mid.pool.metrics.totalTradingBaseFee + mid.pool.metrics.totalProtocolBaseFee +
            mid.pool.baseReserve ≤ l.initialBaseSupply := by
          rw [trade.pool]
          simp only [PoolState.afterTrade, PoolState.withFees, Fees.total] at hfee ⊢
          omega
        cases completion <;> exact hmid
      | _ => exact hw
    | locker move =>
      rw [move.eq]
      exact hw
    | migration move =>
      rw [move.eq]
      exact hw
    | _ => exact hw
  · obtain ⟨_, _, hgenesis, _⟩ := l.genesis_eq
    rw [hgenesis, initialBaseSupply, hgenesis]
    exact le_of_eq (Nat.zero_add _)

end Launch

/-! ## What a swap asks for -/

/-- The limit that each mode sets on the other side of the trade.
Source: `instructions/swap/swap_exact_in.rs`, `swap_partial_fill.rs`, `swap_exact_out.rs` -/
def SwapResult2.WithinLimit (r : SwapResult2) (limit : ℕ) : SwapMode → Prop
  | .exactIn => limit ≤ r.outputAmount
  | .partialFill => limit ≤ r.outputAmount
  | .exactOut => r.includedFeeInputAmount ≤ limit

/-- A result that is checked and returned. -/
theorem exists_checked_iff {α : Type} {x : Result α} {r : α} {P : α → Prop} :
    (∃ a, x = .ok a ∧ P a ∧ a = r) ↔ x = .ok r ∧ P r := by
  constructor
  · rintro ⟨_, hx, hP, rfl⟩
    exact ⟨hx, hP⟩
  · rintro ⟨hx, hP⟩
    exact ⟨r, hx, hP, rfl⟩

/-- The result of a swap passes exactly when it is computed and within its limit.
Source: `instructions/swap/process_swap.rs` `process_swap`, the match on `swap_mode` -/
theorem processSwapMode_eq_ok {p : PoolState} {config : PoolConfig} {mode : SwapMode}
    {amount0 amount1 point : ℕ} {m : FeeMode} {dir : TradeDirection} {eligible : Bool}
    {r : SwapResult2} :
    p.processSwapMode config mode amount0 amount1 m dir point eligible = .ok r ↔
      p.getSwapResult2 mode config amount0 m dir point eligible = .ok r ∧
        r.WithinLimit amount1 mode := by
  cases mode with
  | exactIn =>
    simp only [PoolState.processSwapMode, PoolState.processSwapExactIn, PoolState.getSwapResult2,
      SwapResult2.WithinLimit, bind_eq_ok, exists_unit, require_eq_ok, pure_eq_ok]
    exact exists_checked_iff
  | partialFill =>
    simp only [PoolState.processSwapMode, PoolState.processSwapPartialFill,
      PoolState.getSwapResult2, SwapResult2.WithinLimit, bind_eq_ok, exists_unit, require_eq_ok,
      pure_eq_ok]
    exact exists_checked_iff
  | exactOut =>
    simp only [PoolState.processSwapMode, PoolState.processSwapExactOut, PoolState.getSwapResult2,
      SwapResult2.WithinLimit, bind_eq_ok, exists_unit, require_eq_ok, pure_eq_ok]
    exact exists_checked_iff

/-- The accounts of a swap are those of a buy, a virtual one has no referral, and a rate limiter
finds no other swap of the pool in the transaction.
Source: `instructions/swap/process_swap.rs` `process_swap`, the checks; `utils/token.rs`
`transfer_token_from_user` -/
structure Deployment.Admits (d : Deployment) (w : World) (request : SwapRequest)
    (isVirtual : Bool) : Prop where
  inputMint : request.inputMint = d.config.quoteMint
  isBuy : request.inputMint ≠ d.baseMint
  referral : isVirtual = true → request.hasReferralAccount = false
  rateLimiter : ∃ point, w.getCurrentPoint d.config.activationType = .ok point ∧
    d.validateRateLimiter w request .quoteToBase point = .ok ()

/-- The quote of the development kit for a request: for the pool as it stands, with the referral and
the minimum fee of the request.
Source: `dynamic-bonding-curve-sdk/src/quote_exact_in.rs` `quote_exact_in`, `quote_partial_fill.rs`
`quote_partial_fill`, `quote_exact_out.rs` `quote_exact_out` -/
def Deployment.quoteOf (d : Deployment) (w : World) (request : SwapRequest) (isVirtual : Bool)
    (mode : SwapMode) : Except Sdk.QuoteError SwapResult2 :=
  let hasReferral := !isVirtual && request.hasReferralAccount
  Sdk.quoteMode mode w.pool d.config false w.timestamp w.slot request.params.amount0 hasReferral
    (d.config.isFirstSwapWithMinFeeEnabled && w.pool.isFirstSwap && !hasReferral &&
      request.containsInitializePool)

namespace Launch

variable (l : Launch) (actions : List Action) {request : SwapRequest} {isVirtual : Bool}

/-- What is computed for a swap that is admitted is what is quoted for it, within the limit.
Source: `instructions/swap/process_swap.rs` `process_swap`, up to the match on `swap_mode` -/
theorem computed_iff_quoted (hclock : l.ClockReady) {mode : SwapMode}
    {r : SwapResult2} (hmode : SwapMode.tryFrom request.params.swapMode = some mode)
    (hbuy : request.inputMint ≠ l.baseMint) :
    (∃ c p m, l.deployment.validateSwap (l.after actions) request isVirtual = .ok c ∧
        (l.after actions).pool.updatePreSwap l.config (l.after actions).timestamp = .ok p ∧
        FeeMode.getFeeMode l.config.collectFeeMode c.tradeDirection c.hasReferral = .ok m ∧
        p.getSwapResult2 c.mode l.config request.params.amount0 m c.tradeDirection
          c.currentPoint c.eligible = .ok r) ↔
      l.deployment.quoteOf (l.after actions) request isVirtual mode = .ok r ∧
        (isVirtual = true →
          request.inputMint = l.config.quoteMint ∧ request.hasReferralAccount = false) ∧
        ∃ point, (l.after actions).getCurrentPoint l.config.activationType = .ok point ∧
          l.deployment.validateRateLimiter (l.after actions) request .quoteToBase point =
            .ok () := by
  have hdirection : (if request.inputMint = l.deployment.baseMint then TradeDirection.baseToQuote
      else .quoteToBase) = tradeDirectionOf false := if_neg hbuy
  have hupdate : (l.after actions).pool.CanUpdatePreSwap l.deployment.config
      (l.after actions).timestamp :=
    (l.keepsTrack actions hclock).canUpdatePreSwap (l.clock_after actions hclock)
  refine (validateSwap_swapResult_iff (d := l.deployment) hmode).trans ?_
  rw [hdirection, swapResult_eq_ok_iff]
  simp only [hupdate, and_self, true_and]
  exact Iff.rfl

/-- What is quoted, within the limit and with room, is executed and moves the price as quoted.
Source: `instructions/swap/process_swap.rs` `process_swap` -/
theorem processSwap_of_quoted (hclock : l.ClockReady) {mode : SwapMode}
    {r : SwapResult2} (hadmits : l.deployment.Admits (l.after actions) request isVirtual)
    (hmode : SwapMode.tryFrom request.params.swapMode = some mode)
    (hquote : l.deployment.quoteOf (l.after actions) request isVirtual mode = .ok r)
    (hlimit : r.WithinLimit request.params.amount1 mode)
    (hroom : (l.after actions).pool.HasRoom l.config isVirtual r) :
    ∃ w', l.deployment.processSwap (l.after actions) request isVirtual = .ok w' ∧
      w'.pool.sqrtPrice = r.nextSqrtPrice := by
  obtain ⟨c, p, m, hc, hpre, hm, hr⟩ :=
    (l.computed_iff_quoted actions hclock hmode hadmits.isBuy).mpr
      ⟨hquote, fun hvirtual => ⟨hadmits.inputMint, hadmits.referral hvirtual⟩, hadmits.rateLimiter⟩
  obtain ⟨hdir, _, hopen⟩ := validateSwap_spec hc
  have hcmode : c.mode = mode :=
    Option.some.inj ((validateSwap_request hc).1.symm.trans hmode)
  rw [hdir] at hm hr
  have hprogress := l.progress_of_open actions hopen
  obtain ⟨tracker, rfl⟩ := PoolState.updatePreSwap_spec hpre
  -- what leaves the curve is in the reserve, and so are its fees
  have hfill := PoolState.getSwapResult2_fill hr
  have hbase := (getFeeMode_buy hm).1
  have hout := l.curveOutput_le_baseReserve actions hr
  have hfees := l.baseFees_le actions
  obtain ⟨_, _, _, hsupply⟩ := l.initialBaseSupply_ge
  have hnext := l.withinBounds_of_result
    (p := { (l.after actions).pool with volatilityTracker := tracker })
    (l.onCurve actions).priceInRange hr
  have hbaseRoom : m.feesOnBaseToken = true →
      (l.after actions).pool.metrics.totalProtocolBaseFee + r.protocolFee < 2 ^ 64 ∧
        (l.after actions).pool.metrics.totalTradingBaseFee + r.tradingFee < 2 ^ 64 := by
    intro honBase
    rw [honBase] at hbase
    have honOutput : ¬ m.feesOnInput = true := by simpa using hbase.symm
    rw [curveOutput, if_neg honOutput, SwapResult2.fees] at hout
    exact ⟨by omega, by omega⟩
  obtain ⟨p', happly⟩ := PoolState.applySwapResultInternal_isOk (l.keepsTrack actions hclock)
    (l.clock_after actions hclock) hpre hnext
    (l.counted actions (by rw [hprogress]; decide)) ⟨_, l.splitPartnerAndCreatorFee_eq _⟩ hm
    hbaseRoom hroom hout (by omega)
  have hcompute : l.deployment.computeSwap (l.after actions) request isVirtual c =
      .ok (m, r, p') := by
    simp only [Deployment.computeSwap, bind_eq_ok, pure_eq_ok, Prod.mk.injEq]
    refine ⟨_, hpre, m, by rw [hdir]; exact hm, r, ?_, p', ?_, rfl, rfl, rfl⟩
    · rw [hdir]
      exact processSwapMode_eq_ok.mpr ⟨hr, by rw [hcmode]; exact hlimit⟩
    · rw [hdir]
      cases isVirtual <;> exact happly
  have hsettled : ∃ mid, l.deployment.settleSwap ((l.after actions).withPool p') request isVirtual
      m r = .ok mid := by
    apply settleSwap_isOk hfill hbase
    · exact hout.trans (l.baseReserve_le_baseVault actions hprogress)
    · intro _
      exact hadmits.inputMint
  obtain ⟨mid, hsettle⟩ := hsettled
  obtain ⟨x, htrade⟩ := settled_spec hc hcompute hsettle
  obtain ⟨w', hw'⟩ := l.completeCurve_isOk actions htrade
  refine ⟨w', bind_eq_ok.mpr ⟨c, hc, bind_eq_ok.mpr ⟨_, hcompute, bind_eq_ok.mpr
    ⟨mid, hsettle, hw'⟩⟩⟩, ?_⟩
  have hprice : mid.pool.sqrtPrice = r.nextSqrtPrice := by
    obtain ⟨_, hof, hp', _⟩ := PoolState.applySwapResultInternal_spec happly
    rw [pool_of_settleSwap hsettle, ← hof.next, hp']
    rfl
  cases completeCurve_spec hw' with
  | «open» => exact hprice
  | complete => exact hprice

/-- What is executed was quoted, within the limit and with room.
Source: `instructions/swap/process_swap.rs` `process_swap` -/
theorem quoted_of_processSwap (hclock : l.ClockReady) {w' : World}
    (h : l.deployment.processSwap (l.after actions) request isVirtual = .ok w') :
    l.deployment.Admits (l.after actions) request isVirtual ∧
      ∃ mode r, SwapMode.tryFrom request.params.swapMode = some mode ∧
        l.deployment.quoteOf (l.after actions) request isVirtual mode = .ok r ∧
        r.WithinLimit request.params.amount1 mode ∧
        (l.after actions).pool.HasRoom l.config isVirtual r := by
  simp only [Deployment.processSwap, bind_eq_ok] at h
  obtain ⟨c, hc, ⟨m, r, p⟩, hcompute, mid, hsettle, _⟩ := h
  obtain ⟨hdir, _, _⟩ := validateSwap_spec hc
  obtain ⟨hmode, hnotBase⟩ := validateSwap_request hc
  simp only [Deployment.computeSwap, bind_eq_ok, pure_eq_ok, Prod.mk.injEq] at hcompute
  obtain ⟨q, hpre, m, hm, r, hr, p, happly, rfl, rfl, rfl⟩ := hcompute
  obtain ⟨hresult, hlimit⟩ := processSwapMode_eq_ok.mp hr
  obtain ⟨hquote, hvirtual, hlimiter⟩ :=
    (l.computed_iff_quoted actions hclock hmode hnotBase).mp ⟨c, q, m, hc, hpre, hm, hresult⟩
  have happly' : q.applySwapResultInternal l.config r.getSwapResult m .quoteToBase
      (l.after actions).timestamp isVirtual = .ok p := by
    rw [hdir] at happly
    cases isVirtual <;> exact happly
  rw [hdir] at hm
  refine ⟨⟨?_, hnotBase, fun hv => (hvirtual hv).2, hlimiter⟩, c.mode, r, hmode, hquote, hlimit,
    PoolState.hasRoom_of_applySwapResultInternal hpre hm happly'⟩
  cases isVirtual with
  | true => exact (hvirtual rfl).1
  | false => exact inputMint_of_settleSwap hsettle rfl

/-- A launch with a dynamic fee. -/
def volatileLaunch : Launch :=
  ((AcceptedConfig.submit { plainParameters (2 ^ 64) 1000000
      [{ sqrtPrice := 2 ^ 65, liquidity := 2 ^ 90 }] with
    poolFees :=
      { baseFee := { (default : BaseFeeConfig) with cliffFeeNumerator := 10000000 }
        dynamicFee := some ⟨1, 1844674407370955, 10, 120, 5000, 100000, 40000⟩ } } plainQuoteMint
    1700000000 false 2 3).bind fun accepted => Launch.start accepted 4
      { plainRequest .splToken 0 with timestamp := 1700000000 }).get (by decide +kernel)

end Launch

end DynamicBondingCurve
