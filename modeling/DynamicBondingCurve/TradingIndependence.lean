import DynamicBondingCurve.TradingView

/-!
# Trading does not depend on claims

A swap does the same in every two pools that look the same to a trader, whatever was claimed from
either: it passes the same checks, is quoted the same, and no vault and no counter is ever short.

* `PoolState.Counted`, `Launch.counted`: the fees outstanding are among those that the metrics
  count, so that a fee that can be counted can be booked.
* `validateSwap_same`, `computeSwap_same`, `settleSwap_isOk`, `settleSwap_same`: the stages.
* `processSwap_view`: **a swap does the same in pools that look the same.**
* `trading_ignores_claims`: **runs with the same swaps trade the same**, whatever else they do.
-/

namespace DynamicBondingCurve

open Library

/-! ## The fees of the metrics -/

namespace PoolState

/-- The fees outstanding are among those that the metrics count.
Source: `state/virtual_pool.rs` `accumulate_fee` -/
structure Counted (p : PoolState) : Prop where
  tradingBase : p.partnerBaseFee + p.creatorBaseFee ≤ p.metrics.totalTradingBaseFee
  tradingQuote : p.partnerQuoteFee + p.creatorQuoteFee ≤ p.metrics.totalTradingQuoteFee
  protocolBase : p.protocolBaseFee ≤ p.metrics.totalProtocolBaseFee
  protocolQuote : p.protocolQuoteFee ≤ p.metrics.totalProtocolQuoteFee

section Stages

variable {p q p' : PoolState} {config : PoolConfig} {r : SwapResult} {m : FeeMode}
  {dir : TradeDirection} {isVirtual : Bool} {timestamp : ℕ}

/-- The update before a swap is the same for pools that trade alike.
Source: `state/virtual_pool.rs` `update_pre_swap` -/
theorem updatePreSwap_same (hsame : p.trading = q.trading)
    (h : p.updatePreSwap config timestamp = .ok p') :
    ∃ q', q.updatePreSwap config timestamp = .ok q' ∧ p'.trading = q'.trading := by
  rw [withTrading_eq hsame]
  unfold updatePreSwap at h ⊢
  split_ifs at h ⊢ with hdynamic
  · simp only [bind_eq_ok, pure_eq_ok] at h ⊢
    obtain ⟨tracker, htracker, rfl⟩ := h
    exact ⟨_, ⟨tracker, htracker, rfl⟩, rfl⟩
  · rw [pure_eq_ok] at h
    subst h
    exact ⟨_, rfl, rfl⟩

/-- Prices and fees depend on the trading state only.
Source: `state/virtual_pool.rs`, the three swap modes -/
theorem processSwapMode_same (hsame : p.trading = q.trading) (mode : SwapMode)
    (amount0 amount1 point : ℕ) (eligible : Bool) :
    p.processSwapMode config mode amount0 amount1 m dir point eligible =
      q.processSwapMode config mode amount0 amount1 m dir point eligible := by
  rw [withTrading_eq hsame]
  cases mode <;> rfl

/-- Fees that the metrics can count can be booked.
Source: `state/virtual_pool.rs` `apply_swap_result_internal`, the branches on
`fees_on_base_token` -/
theorem recordFees_same (hsame : p.trading = q.trading) (hq : q.Counted)
    (h : p.recordFees config r m isVirtual = .ok p') :
    ∃ q', q.recordFees config r m isVirtual = .ok q' ∧ p'.trading = q'.trading := by
  obtain ⟨q, rfl⟩ : ∃ q₀, q = q₀.withTrading p.trading := ⟨q, withTrading_eq hsame⟩
  obtain ⟨htb, htq, hpb, hpq⟩ := hq
  simp only [withTrading, trading] at htb htq hpb hpq
  unfold recordFees at h ⊢
  simp only [bind_eq_ok] at h ⊢
  obtain ⟨split, hsplit, h⟩ := h
  have hsum := PoolConfig.splitPartnerAndCreatorFee_spec hsplit
  by_cases hbase : m.feesOnBaseToken = true
  · simp only [if_pos hbase, bind_eq_ok, safeAdd_eq_ok, PoolMetrics.accumulateFee, if_true,
      pure_eq_ok] at h ⊢
    obtain ⟨_, _, _, _, _, _, _, ⟨_, ⟨hprotocol, rfl⟩, _, ⟨htrading, rfl⟩, rfl⟩, rfl⟩ := h
    simp only [withTrading, trading]
    exact ⟨_, ⟨split, hsplit, _, ⟨by omega, rfl⟩, _, ⟨by omega, rfl⟩, _, ⟨by omega, rfl⟩, _,
      ⟨_, ⟨hprotocol, rfl⟩, _, ⟨htrading, rfl⟩, rfl⟩, rfl⟩, rfl⟩
  · cases isVirtual with
    | true =>
      simp only [if_neg hbase, not_true_eq_false, if_false, pure_eq_ok] at h ⊢
      subst h
      exact ⟨_, ⟨split, hsplit, rfl⟩, rfl⟩
    | false =>
      simp only [if_neg hbase, Bool.false_eq_true, not_false_eq_true, if_true, bind_eq_ok,
        safeAdd_eq_ok, PoolMetrics.accumulateFee, if_false, pure_eq_ok] at h ⊢
      obtain ⟨_, _, _, _, _, _, _, ⟨_, ⟨hprotocol, rfl⟩, _, ⟨htrading, rfl⟩, rfl⟩, rfl⟩ := h
      simp only [withTrading, trading]
      exact ⟨_, ⟨split, hsplit, _, ⟨by omega, rfl⟩, _, ⟨by omega, rfl⟩, _, ⟨by omega, rfl⟩, _,
        ⟨_, ⟨hprotocol, rfl⟩, _, ⟨htrading, rfl⟩, rfl⟩, rfl⟩, rfl⟩

/-- The reserves move the same for pools that trade alike.
Source: `state/virtual_pool.rs` `apply_swap_result_internal`, the branches on `trade_direction` -/
theorem moveReserves_same {input output : ℕ} (hsame : p.trading = q.trading)
    (h : p.moveReserves dir isVirtual input output = .ok p') :
    ∃ q', q.moveReserves dir isVirtual input output = .ok q' ∧ p'.trading = q'.trading := by
  rw [withTrading_eq hsame]
  unfold moveReserves at h ⊢
  split_ifs at h ⊢ with hdir hvirtual
  all_goals
    simp only [bind_eq_ok, pure_eq_ok] at h ⊢
    obtain ⟨a, ha, b, hb, rfl⟩ := h
    exact ⟨_, ⟨a, ha, b, hb, rfl⟩, rfl⟩

/-- The update after a swap is the same for pools that trade alike.
Source: `state/virtual_pool.rs` `update_post_swap` -/
theorem updatePostSwap_same {old : ℕ} (hsame : p.trading = q.trading)
    (h : p.updatePostSwap config old timestamp = .ok p') :
    ∃ q', q.updatePostSwap config old timestamp = .ok q' ∧ p'.trading = q'.trading := by
  rw [withTrading_eq hsame]
  unfold updatePostSwap at h ⊢
  split_ifs at h ⊢ with hdynamic
  · simp only [bind_eq_ok, pure_eq_ok] at h ⊢
    obtain ⟨tracker, htracker, delta, hdelta, rfl⟩ := h
    exact ⟨_, ⟨tracker, htracker, delta, hdelta, rfl⟩, rfl⟩
  · rw [pure_eq_ok] at h
    subst h
    exact ⟨_, rfl, rfl⟩

/-- **A result that one pool can apply, every pool that looks the same can.**
Source: `state/virtual_pool.rs` `apply_swap_result_internal` -/
theorem applySwapResultInternal_same (hsame : p.trading = q.trading) (hq : q.Counted)
    (h : p.applySwapResultInternal config r m dir timestamp isVirtual = .ok p') :
    ∃ q', q.applySwapResultInternal config r m dir timestamp isVirtual = .ok q' ∧
      p'.trading = q'.trading := by
  simp only [applySwapResultInternal, bind_eq_ok, pure_eq_ok] at h ⊢
  obtain ⟨p1, hfees, output, houtput, p2, hmove, p3, hpost, rfl⟩ := h
  have hprice : p.sqrtPrice = q.sqrtPrice := congrArg TradingState.sqrtPrice hsame
  have hsame0 : PoolState.trading { p with sqrtPrice := r.nextSqrtPrice } =
      PoolState.trading { q with sqrtPrice := r.nextSqrtPrice } := by
    rw [withTrading_eq hsame]
    rfl
  have hcounted : PoolState.Counted { q with sqrtPrice := r.nextSqrtPrice } :=
    ⟨hq.tradingBase, hq.tradingQuote, hq.protocolBase, hq.protocolQuote⟩
  obtain ⟨q1, hq1, hsame1⟩ := recordFees_same hsame0 hcounted hfees
  obtain ⟨q2, hq2, hsame2⟩ := moveReserves_same hsame1 hmove
  obtain ⟨q3, hq3, hsame3⟩ := updatePostSwap_same hsame2 hpost
  rw [hprice] at hq3
  refine ⟨_, ⟨q1, hq1, output, houtput, q2, hq2, q3, hq3, rfl⟩, ?_⟩
  rw [withTrading_eq hsame3]
  rfl

end Stages

end PoolState

/-! ## The stages of a swap -/

section Swaps

variable {d : Deployment} {w v w' : World} {request : SwapRequest} {isVirtual : Bool}
  {c : SwapContext} {m : FeeMode} {r : SwapResult2} {p : PoolState}

/-- Worlds with the same view have pools that trade alike. -/
theorem trading_eq_of_view (hsame : w.tradingView = v.tradingView) :
    w.pool.trading = v.pool.trading :=
  congrArg TradingView.state hsame

/-- The checks depend on what a trader sees.
Source: `instructions/swap/process_swap.rs` `process_swap`, the checks -/
theorem validateSwap_same (hsame : w.tradingView = v.tradingView) :
    d.validateSwap w request isVirtual = d.validateSwap v request isVirtual := by
  have hpool := PoolState.withTrading_eq (trading_eq_of_view hsame)
  have hslot : w.slot = v.slot := congrArg TradingView.slot hsame
  have htime : w.timestamp = v.timestamp := congrArg TradingView.timestamp hsame
  unfold Deployment.validateSwap Deployment.validateRateLimiter World.getCurrentPoint
  rw [hpool, hslot, htime]
  rfl

/-- A swap is computed the same for worlds with the same view.
Source: `instructions/swap/process_swap.rs` `process_swap`, from `update_pre_swap` to
`apply_swap_result` -/
theorem computeSwap_same (hsame : w.tradingView = v.tradingView) (hv : v.pool.Counted)
    (h : d.computeSwap w request isVirtual c = .ok (m, r, p)) :
    ∃ q, d.computeSwap v request isVirtual c = .ok (m, r, q) ∧ p.trading = q.trading := by
  have htime : w.timestamp = v.timestamp := congrArg TradingView.timestamp hsame
  simp only [Deployment.computeSwap, bind_eq_ok, pure_eq_ok, Prod.mk.injEq] at h ⊢
  obtain ⟨p1, hpre, _, hm, _, hr, _, happly, rfl, rfl, rfl⟩ := h
  obtain ⟨q1, hq1, hsame1⟩ := PoolState.updatePreSwap_same (trading_eq_of_view hsame) hpre
  have hcounted : q1.Counted := by
    obtain ⟨tracker, rfl⟩ := PoolState.updatePreSwap_spec hq1
    exact ⟨hv.tradingBase, hv.tradingQuote, hv.protocolBase, hv.protocolQuote⟩
  rw [PoolState.processSwapMode_same hsame1] at hr
  rw [htime] at hq1 happly
  cases isVirtual with
  | true =>
    obtain ⟨q, hq, hlast⟩ := PoolState.applySwapResultInternal_same hsame1 hcounted happly
    exact ⟨q, ⟨q1, hq1, _, hm, _, hr, q, hq, rfl, rfl, rfl⟩, hlast⟩
  | false =>
    obtain ⟨q, hq, hlast⟩ := PoolState.applySwapResultInternal_same hsame1 hcounted happly
    exact ⟨q, ⟨q1, hq1, _, hm, _, hr, q, hq, rfl, rfl, rfl⟩, hlast⟩

/-- What a computed buy takes out of the base reserve was in it.
Source: `state/virtual_pool.rs` `apply_swap_result_internal`, the subtraction from
`base_reserve` -/
theorem computeSwap_spec (hdir : c.tradeDirection = .quoteToBase)
    (h : d.computeSwap w request isVirtual c = .ok (m, r, p)) :
    SwapFill m r ∧ m.feesOnBaseToken = !m.feesOnInput ∧ curveOutput m r ≤ w.pool.baseReserve := by
  simp only [Deployment.computeSwap, bind_eq_ok, pure_eq_ok, Prod.mk.injEq] at h
  obtain ⟨_, hpre, m, hm, r, hr, p, happly, rfl, rfl, rfl⟩ := h
  obtain ⟨tracker, rfl⟩ := PoolState.updatePreSwap_spec hpre
  rw [hdir] at hm hr happly
  have happly' : PoolState.applySwapResultInternal { w.pool with volatilityTracker := tracker }
      d.config r.getSwapResult m .quoteToBase w.timestamp isVirtual = .ok p := by
    cases isVirtual <;> exact happly
  obtain ⟨x, hof, _, hout, _⟩ := PoolState.applySwapResultInternal_spec happly'
  refine ⟨PoolState.getSwapResult2_fill (processSwapMode_spec hr), (getFeeMode_buy hm).1, ?_⟩
  rw [← (hof.buy rfl).2.2]
  exact hout

/-- The token program takes the input of a swap in the quote token only.
Source: `utils/token.rs` `transfer_token_from_user` -/
theorem inputMint_of_settleSwap (h : d.settleSwap w request isVirtual m r = .ok w') :
    isVirtual = false → request.inputMint = d.config.quoteMint := by
  intro hreal
  simp only [Deployment.settleSwap, hreal, Bool.false_eq_true, if_false, bind_eq_ok, exists_unit,
    require_eq_ok] at h
  obtain ⟨_, ⟨hmint, _⟩, _⟩ := h
  exact hmint

/-- A vault that covers the output of the curve covers the transfers of the swap.
Source: `instructions/swap/process_swap.rs` `process_swap`, its transfers -/
theorem settleSwap_isOk (hfill : SwapFill m r) (hbase : m.feesOnBaseToken = !m.feesOnInput)
    (hvault : curveOutput m r ≤ v.baseVault)
    (hmint : isVirtual = false → request.inputMint = d.config.quoteMint) :
    ∃ v', d.settleSwap v request isVirtual m r = .ok v' := by
  have hinput := hfill.input
  have houtput : r.outputAmount ≤ v.baseVault := by
    unfold curveOutput at hvault
    split_ifs at hvault <;> omega
  unfold Deployment.settleSwap
  cases isVirtual with
  | true =>
    refine ⟨v.paid .base .swapOutput r.outputAmount, ?_⟩
    simp only [if_true, bind_eq_ok, pure_eq_ok, World.pay_eq_ok]
    exact ⟨v, rfl, _, ⟨houtput, rfl⟩, by rw [if_neg (by simp)]; rfl⟩
  | false =>
    let mid := (v.receive .quote .swapInput r.includedFeeInputAmount).paid .base .swapOutput
      r.outputAmount
    have hreferral : ∃ v', (if request.hasReferralAccount = true ∧ r.referralFee > 0 then
          if m.feesOnBaseToken then mid.pay .base .referralFee r.referralFee
          else mid.pay .quote .referralFee r.referralFee
        else pure mid) = .ok v' := by
      split_ifs with hpay htoken
      · refine ⟨_, World.pay_eq_ok.mpr ⟨?_, rfl⟩⟩
        have hm : ¬ m.feesOnInput = true := by simpa [hbase] using htoken
        simp only [mid, World.vault, World.paid, World.receive]
        rw [curveOutput, if_neg hm, SwapResult2.fees] at hvault
        omega
      · refine ⟨_, World.pay_eq_ok.mpr ⟨?_, rfl⟩⟩
        have hm : m.feesOnInput = true := by simpa [hbase] using htoken
        simp only [mid, World.vault, World.paid, World.receive]
        rw [if_pos hm, SwapResult2.fees] at hinput
        omega
      · exact ⟨mid, rfl⟩
    obtain ⟨v', hv'⟩ := hreferral
    refine ⟨v', ?_⟩
    simp only [Bool.false_eq_true, if_false, not_false_eq_true, true_and, bind_eq_ok, exists_unit,
      require_eq_ok, pure_eq_ok, World.pay_eq_ok]
    exact ⟨_, ⟨hmint rfl, rfl⟩, mid, ⟨houtput, rfl⟩, hv'⟩

/-- The same payment keeps the same view.
Source: `utils/token.rs` `transfer_token_from_pool_authority` -/
theorem tradingView_pay_same {w1 v1 : World} {token : Token} {purpose : Purpose} {amount : ℕ}
    (hsame : w.tradingView = v.tradingView) (hw : w.pay token purpose amount = .ok w1)
    (hv : v.pay token purpose amount = .ok v1) : w1.tradingView = v1.tradingView := by
  obtain ⟨_, rfl⟩ := World.pay_eq_ok.mp hw
  obtain ⟨_, rfl⟩ := World.pay_eq_ok.mp hv
  simp only [World.tradingView, TradingView.mk.injEq] at hsame
  obtain ⟨hstate, hslot, htime, htransfers⟩ := hsame
  have hcons : swapTransfers (.paid token purpose amount :: w.effects) =
      swapTransfers (.paid token purpose amount :: v.effects) := by
    simp only [swapTransfers, List.filter_cons] at htransfers ⊢
    rw [htransfers]
  cases token <;> simp only [World.tradingView, World.paid, hstate, hslot, htime, hcons]

/-- The same receipt keeps the same view.
Source: `utils/token.rs` `transfer_token_from_user` -/
theorem tradingView_receive_same {token : Token} {purpose : Purpose} {amount : ℕ}
    (hsame : w.tradingView = v.tradingView) :
    (w.receive token purpose amount).tradingView =
      (v.receive token purpose amount).tradingView := by
  simp only [World.tradingView, TradingView.mk.injEq] at hsame
  obtain ⟨hstate, hslot, htime, htransfers⟩ := hsame
  have hcons : swapTransfers (.received token purpose amount :: w.effects) =
      swapTransfers (.received token purpose amount :: v.effects) := by
    simp only [swapTransfers, List.filter_cons] at htransfers ⊢
    rw [htransfers]
  cases token <;> simp only [World.tradingView, World.receive, hstate, hslot, htime, hcons]

/-- The same swap makes the same transfers.
Source: `instructions/swap/process_swap.rs` `process_swap`, its transfers -/
theorem settleSwap_same {v' : World} (hsame : w.tradingView = v.tradingView)
    (hw : d.settleSwap w request isVirtual m r = .ok w')
    (hv : d.settleSwap v request isVirtual m r = .ok v') : w'.tradingView = v'.tradingView := by
  simp only [Deployment.settleSwap, bind_eq_ok] at hw hv
  obtain ⟨w1, hwin, w2, hwout, hw⟩ := hw
  obtain ⟨v1, hvin, v2, hvout, hv⟩ := hv
  have hin : w1.tradingView = v1.tradingView := by
    cases isVirtual with
    | true =>
      simp only [if_true, pure_eq_ok] at hwin hvin
      rw [← hwin, ← hvin]
      exact hsame
    | false =>
      simp only [Bool.false_eq_true, if_false, bind_eq_ok, exists_unit, pure_eq_ok] at hwin hvin
      rw [← hwin.2, ← hvin.2]
      exact tradingView_receive_same hsame
  have hout := tradingView_pay_same hin hwout hvout
  split_ifs at hw hv
  · exact tradingView_pay_same hout hw hv
  · exact tradingView_pay_same hout hw hv
  · rw [pure_eq_ok] at hw hv
    rw [← hw, ← hv]
    exact hout

/-- The end of the sale is not seen by traders.
Source: `instructions/swap/process_swap.rs` `process_swap`, `curve_complete` -/
theorem Completion.tradingView_eq (h : Completion d w w') : w'.tradingView = w.tradingView := by
  cases h with
  | «open» => rfl
  | complete =>
    have htransfers : swapTransfers (d.completed w).effects = swapTransfers w.effects := by
      simp only [Deployment.completed]
      split_ifs
      · exact (swapTransfers_cons_of_not _ id).trans (swapTransfers_cons_of_not _ id)
      · exact swapTransfers_cons_of_not _ id
    simp only [World.tradingView, htransfers]
    rfl

end Swaps

/-! ## Launched pools -/

namespace Launch

variable (l : Launch) (actions : List Action)

/-- **Before the pool is created its outstanding fees are among those counted.**
Source: `state/virtual_pool.rs` `accumulate_fee` -/
theorem counted (hne : (l.after actions).pool.migrationProgress ≠ .createdPool) :
    (l.after actions).pool.Counted := by
  have hbacked := l.backed actions
  have hsaved := (l.allotted actions).saved hne
  have hbase := hbacked.protocolBase
  have hquote := hbacked.protocolQuote
  rw [hsaved] at hbase hquote
  exact ⟨by rw [hbacked.tradingBase]; omega, by rw [hbacked.tradingQuote]; omega, by omega,
    by omega⟩

/-- While the sale is open the pool has made no progress.
Source: `state/virtual_pool.rs` `is_sale_complete` -/
theorem progress_of_open (hopen : (l.after actions).pool.isSaleComplete
      l.config.migrationQuoteThreshold (l.after actions).timestamp = false) :
    (l.after actions).pool.migrationProgress = .preBondingCurve := by
  by_contra hne
  have hover : SaleOver l.deployment (l.after actions) := (l.lifecycle actions).ended hne
  apply Bool.false_ne_true
  rw [← hopen]
  exact hover

/-- While the sale is open the base vault holds the base reserve.
Source: `instructions/swap/process_swap.rs` `process_swap` -/
theorem baseReserve_le_baseVault
    (hpre : (l.after actions).pool.migrationProgress = .preBondingCurve) :
    (l.after actions).pool.baseReserve ≤ (l.after actions).baseVault := by
  obtain ⟨locked, hlocked, _, _⟩ := l.initialBaseSupply_ge
  have hbase := (l.backed actions).baseVault_eq (l.allotted actions) (by rw [hpre]; decide) hlocked
  rw [if_neg (by simp [hpre])] at hbase
  omega

end Launch

section Runs

variable {l : Launch} {as bs : List Action} {w' : World} {request : SwapRequest}
  {isVirtual : Bool}

/-- **A swap does the same in pools that look the same.**
Source: `instructions/swap/process_swap.rs` `process_swap` -/
theorem processSwap_view (hsame : (l.after as).tradingView = (l.after bs).tradingView)
    (h : l.deployment.processSwap (l.after as) request isVirtual = .ok w') :
    ∃ v', l.deployment.processSwap (l.after bs) request isVirtual = .ok v' ∧
      w'.tradingView = v'.tradingView := by
  simp only [Deployment.processSwap, bind_eq_ok] at h ⊢
  obtain ⟨c, hc, ⟨m, r, p⟩, hcompute, mid, hsettle, hcomplete⟩ := h
  have hcv := hc
  rw [validateSwap_same hsame] at hcv
  -- the sale is open, so that neither pool has made progress
  obtain ⟨hdir, href, hopen⟩ := validateSwap_spec hcv
  have hpre := l.progress_of_open bs hopen
  obtain ⟨q, hcomputeV, hpq⟩ :=
    computeSwap_same hsame (l.counted bs (by rw [hpre]; decide)) hcompute
  have hview : ((l.after as).withPool p).tradingView = ((l.after bs).withPool q).tradingView := by
    simp only [World.tradingView, TradingView.mk.injEq] at hsame ⊢
    exact ⟨hpq, hsame.2⟩
  obtain ⟨hfill, hbase, houtput⟩ := computeSwap_spec hdir hcomputeV
  obtain ⟨midV, hsettleV⟩ := settleSwap_isOk (v := (l.after bs).withPool q) hfill hbase
    (houtput.trans (l.baseReserve_le_baseVault bs hpre)) (inputMint_of_settleSwap hsettle)
  obtain ⟨x, htrade⟩ := settled_spec hcv hcomputeV hsettleV
  obtain ⟨v', hv'⟩ := l.completeCurve_isOk bs htrade
  refine ⟨v', ⟨c, hcv, (m, r, q), hcomputeV, midV, hsettleV, hv'⟩, ?_⟩
  rw [(completeCurve_spec hcomplete).tradingView_eq, (completeCurve_spec hv').tradingView_eq]
  exact settleSwap_same hview hsettle hsettleV

/-- A trade that succeeds after one run succeeds after another with the same view, and keeps it.
Source: `lib.rs`, the dispatch of the instructions -/
theorem step_view {a : Action} (hsame : (l.after as).tradingView = (l.after bs).tradingView)
    (ha : a.isTrade = true) (h : l.deployment.step (l.after as) a = .ok w') :
    ∃ v', l.deployment.step (l.after bs) a = .ok v' ∧ w'.tradingView = v'.tradingView := by
  cases hswap : a.swap? with
  | some swap =>
    simp only [step_swap_iff hswap] at h ⊢
    obtain ⟨v', hv', hview⟩ := processSwap_view hsame h.2
    exact ⟨v', ⟨h.1, hv'⟩, hview⟩
  | none =>
    cases a with
    | pass slots seconds =>
      simp only [Deployment.step, Except.ok.injEq] at h ⊢
      subst h
      refine ⟨_, rfl, ?_⟩
      simp only [World.tradingView, TradingView.mk.injEq] at hsame ⊢
      exact ⟨hsame.1, by rw [hsame.2.1], by rw [hsame.2.2.1], hsame.2.2.2⟩
    | swap2 request => cases hswap
    | swap2WithTransferHook request => cases hswap
    | virtualSwap2 request => cases hswap
    | _ => exact absurd ha (by simp [Action.isTrade])

/-- **Deleting everything but swaps and time from a run changes no trade.** The price, the
reserves, the limits and every transfer of every swap are the same when no fee was ever claimed,
nothing withdrawn and no creator replaced, and so in every two runs with the same swaps.
Source: `instructions/swap/process_swap.rs` `process_swap`; `lib.rs`, the dispatch of the
instructions -/
theorem trading_ignores_claims (l : Launch) (as bs : List Action)
    (hsame : as.filter Action.isTrade = bs.filter Action.isTrade) :
    (l.after as).tradingView = (l.after bs).tradingView := by
  refine view_run_eq World.tradingView Action.isTrade (fun w => ∃ cs, l.after cs = w) ?_ ?_ ?_
    ⟨[], rfl⟩ hsame
  · rintro w a t ⟨cs, rfl⟩ hstep
    refine ⟨cs ++ [a], ?_⟩
    rw [l.after_append, run_cons, run_nil]
    simp only [advance, hstep]
  · rintro w a t _ ha hstep
    exact tradingView_silent ha hstep
  · rintro w v a t ⟨cs, rfl⟩ ⟨cs', rfl⟩ hview ha hstep
    exact step_view hview ha hstep

/-- A claim between two buys changes nothing of either. -/
theorem trading_ignores_claims_plainLaunch :
    (Launch.plainLaunch.after [.swap2 (buyOf 0 100000 0), .claimTradingFee 2 10 3 true,
        .swap2 (buyOf 0 200000 0)]).tradingView =
      (Launch.plainLaunch.after [.swap2 (buyOf 0 100000 0),
        .swap2 (buyOf 0 200000 0)]).tradingView :=
  trading_ignores_claims Launch.plainLaunch _ _ rfl

end Runs

end DynamicBondingCurve
