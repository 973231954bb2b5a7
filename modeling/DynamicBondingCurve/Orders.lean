import DynamicBondingCurve.QuotedSwaps

/-!
# The market of a pool and its orders

What trading depends on is less than what traders see: the price, the tracker, the base that is left
and all the quote that was raised, whoever paid it. Of a swap that succeeds the market needs the
amount on the side that it names, and whether it may have the minimum fee of the first buy; not who
made it, for which referral, with what limit, in part or in whole, nor whether it was virtual.

* `MarketView`, `Order`: what is kept of a pool, and of a swap.
* `PoolState.curveMove`, `MarketView.take`: the market on its own, with no fee to split and no
  vault.
* `getSwapResult2_curveMove`: a result of any mode is a move of the side that its mode names.
* `step_take`, `Launch.market_of_orders`: **the market of a pool is the replay of its orders**, and
  so are its quotes and the end of its sale.
-/

namespace DynamicBondingCurve

open Library

/-! ## Moves along the curve -/

/-- The side whose amount a swap names.
Source: `instructions/swap/process_swap.rs` `SwapMode` -/
inductive Side where
  | input
  | output
  deriving DecidableEq, Repr

/-- A partial fill names its input, like an exact one.
Source: `instructions/swap/process_swap.rs` `SwapMode` -/
def SwapMode.side : SwapMode → Side
  | .exactIn | .partialFill => .input
  | .exactOut => .output

/-- Where a swap moves the price, and what the curve takes and gives.
Source: `state/virtual_pool.rs` `SwapResult2`, what `apply_swap_result_internal` moves the reserves
by -/
structure CurveMove where
  next : ℕ
  input : ℕ
  output : ℕ
  deriving DecidableEq, Repr

namespace PoolState

/-- What a buy exchanges along the curve: a fee on the side that is named changes the amount to walk
with, and a fee on the other side nothing.
Source: `state/virtual_pool.rs`, the three swap modes -/
def curveMove (p : PoolState) (config : PoolConfig) (feesOnInput : Bool) (side : Side)
    (amount point : ℕ) (eligible : Bool) : Result CurveMove :=
  match side with
  | .input => do
      let numerator ← p.tradeFeeNumeratorFromIncluded config amount .quoteToBase point eligible
      let (walked, _) ← (if feesOnInput then getExcludedFeeAmount numerator amount
        else pure (amount, 0))
      let s ← p.calculateFromAmountIn config .quoteToBase walked
      pure ⟨s.nextSqrtPrice, walked - s.amountLeft, s.outputAmount⟩
  | .output => do
      let (walked, _) ← (if feesOnInput then pure (amount, 0)
        else do
          let numerator ← p.tradeFeeNumeratorFromExcluded config amount .quoteToBase point eligible
          getIncludedFeeAmount numerator amount)
      let s ← p.calculateFromAmountOut config .quoteToBase walked
      ensure (s.nextSqrtPrice ≤ config.migrationSqrtPrice) .insufficientLiquidity
      pure ⟨s.nextSqrtPrice, s.amountIn, walked⟩

section Modes

variable {p : PoolState} {config : PoolConfig} {m : FeeMode} {r : SwapResult2}
  {amount point numerator : ℕ} {eligible : Bool} {f : FeeOnAmountResult}

/-- The amount that is left does not depend on how the fee is split.
Source: `state/config.rs` `get_fee_on_amount` -/
theorem getExcludedFeeAmount_of_getFeeOnAmount
    (h : getFeeOnAmount numerator amount m.hasReferral = .ok f) :
    ∃ fee, getExcludedFeeAmount numerator amount = .ok (f.amount, fee) := by
  simp only [getFeeOnAmount_eq, bind_eq_ok, pure_eq_ok] at h
  obtain ⟨⟨excluded, fee⟩, hexcluded, _, _, rfl⟩ := h
  exact ⟨fee, hexcluded⟩

/-- The amount with the fee does not depend on how the fee is split.
Source: `state/virtual_pool.rs`, `get_included_fee_amount` and then `split_fees` -/
theorem getIncludedFeeAmount_of_includeFees
    (h : includeFees numerator amount m.hasReferral = .ok f) :
    ∃ fee, getIncludedFeeAmount numerator amount = .ok (f.amount, fee) := by
  simp only [includeFees, bind_eq_ok, pure_eq_ok] at h
  obtain ⟨⟨included, fee⟩, hincluded, _, _, rfl⟩ := h
  exact ⟨fee, hincluded⟩

/-- The two modes for an amount in begin alike.
Source: `state/virtual_pool.rs` `get_swap_result_from_exact_input`,
`get_swap_result_from_partial_input` -/
theorem curveMove_input {s : SwapAmountFromInput}
    (hnumerator : p.tradeFeeNumeratorFromIncluded config amount .quoteToBase point eligible =
      .ok numerator)
    (hinput : (if m.feesOnInput then getFeeOnAmount numerator amount m.hasReferral
      else pure (withoutFees amount)) = .ok f)
    (hs : p.calculateFromAmountIn config .quoteToBase f.amount = .ok s) :
    p.curveMove config m.feesOnInput .input amount point eligible =
      .ok ⟨s.nextSqrtPrice, f.amount - s.amountLeft, s.outputAmount⟩ := by
  have hwalked : ∃ fee, (if m.feesOnInput then getExcludedFeeAmount numerator amount
      else pure (amount, 0)) = .ok (f.amount, fee) := by
    split_ifs at hinput ⊢
    · exact getExcludedFeeAmount_of_getFeeOnAmount hinput
    · rw [pure_eq_ok] at hinput
      subst hinput
      exact ⟨0, rfl⟩
  obtain ⟨fee, hwalked⟩ := hwalked
  exact bind_eq_ok.mpr ⟨numerator, hnumerator, bind_eq_ok.mpr ⟨_, hwalked, bind_eq_ok.mpr
    ⟨s, hs, rfl⟩⟩⟩

/-- A buy of an exact input moves the price as its order does.
Source: `state/virtual_pool.rs` `get_swap_result_from_exact_input` -/
theorem getSwapResultFromExactInput_curveMove
    (h : p.getSwapResultFromExactInput config amount m .quoteToBase point eligible = .ok r) :
    p.curveMove config m.feesOnInput .input amount point eligible =
      .ok ⟨r.nextSqrtPrice, r.excludedFeeInputAmount, curveOutput m r⟩ := by
  obtain ⟨_, _, s, hs, hleft, houtput, hnext⟩ := getSwapResultFromExactInput_spec h
  simp only [getSwapResultFromExactInput, bind_eq_ok, exists_unit, require_eq_ok, pure_eq_ok] at h
  obtain ⟨numerator, hnumerator, f, hinput, _, _, _, _, _, hr⟩ := h
  have hamount : f.amount = r.excludedFeeInputAmount := by
    rw [← hr]
  rw [← hamount] at hs ⊢
  rw [curveMove_input hnumerator hinput hs, hleft, houtput, hnext, Nat.sub_zero]

/-- A partial fill walks with the whole amount and stops at the end of the curve.
Source: `state/virtual_pool.rs` `get_swap_result_from_partial_input` -/
theorem getSwapResultFromPartialInput_curveMove
    (h : p.getSwapResultFromPartialInput config amount m .quoteToBase point eligible = .ok r) :
    p.curveMove config m.feesOnInput .input amount point eligible =
      .ok ⟨r.nextSqrtPrice, r.excludedFeeInputAmount, curveOutput m r⟩ := by
  obtain ⟨_, s, hs, hrest, houtput, hnext⟩ := getSwapResultFromPartialInput_spec h
  simp only [getSwapResultFromPartialInput, bind_eq_ok, pure_eq_ok] at h
  obtain ⟨numerator, hnumerator, f, hinput, t, ht, ⟨actual, included⟩, hpartial, _, _, hr⟩ := h
  have hamount : f.amount = actual + t.amountLeft := by
    unfold partialInput at hpartial
    split_ifs at hpartial with hleft honInput
    · simp only [bind_eq_ok, safeSub_eq_ok, pure_eq_ok, Prod.mk.injEq] at hpartial
      obtain ⟨_, ⟨hle, rfl⟩, _, _, _, _, rfl, rfl⟩ := hpartial
      exact (Nat.sub_add_cancel hle).symm
    · simp only [bind_eq_ok, safeSub_eq_ok, pure_eq_ok, Prod.mk.injEq] at hpartial
      obtain ⟨_, ⟨hle, rfl⟩, rfl, rfl⟩ := hpartial
      exact (Nat.sub_add_cancel hle).symm
    · rw [pure_eq_ok, Prod.mk.injEq] at hpartial
      obtain ⟨rfl, rfl⟩ := hpartial
      rw [not_not.mp hleft, Nat.add_zero]
  have hsame : r.excludedFeeInputAmount + s.amountLeft = f.amount := by
    rw [hrest, hamount, ← hr]
  rw [hsame] at hs
  rw [curveMove_input hnumerator hinput hs, ← hsame, Nat.add_sub_cancel, houtput, hnext]

/-- A buy of an exact output moves the price as its order does.
Source: `state/virtual_pool.rs` `get_swap_result_from_exact_output` -/
theorem getSwapResultFromExactOutput_curveMove
    (h : p.getSwapResultFromExactOutput config amount m .quoteToBase point eligible = .ok r) :
    p.curveMove config m.feesOnInput .output amount point eligible =
      .ok ⟨r.nextSqrtPrice, r.excludedFeeInputAmount, curveOutput m r⟩ := by
  obtain ⟨_, _, hend, s, hs, hinput, hnext⟩ := getSwapResultFromExactOutput_spec h
  simp only [getSwapResultFromExactOutput, bind_eq_ok, exists_unit, require_eq_ok, pure_eq_ok] at h
  obtain ⟨f, hf, _, _, _, input, hlast, hr⟩ := h
  have hwalked : ∃ fee, (if m.feesOnInput then pure (amount, 0)
      else do
        let numerator ← p.tradeFeeNumeratorFromExcluded config amount .quoteToBase point eligible
        getIncludedFeeAmount numerator amount) = .ok (curveOutput m r, fee) := by
    cases hm : m.feesOnInput with
    | true => exact ⟨0, by rw [curveOutput, if_pos hm, ← hr]; rfl⟩
    | false =>
      simp only [hm, Bool.false_eq_true, if_false, bind_eq_ok, pure_eq_ok] at hf hlast ⊢
      obtain ⟨numerator, hnumerator, hf⟩ := hf
      obtain ⟨fee, hfee⟩ := getIncludedFeeAmount_of_includeFees hf
      have hcurve : f.amount = curveOutput m r := by
        rw [curveOutput, if_neg (by rw [hm]; decide), ← hr, ← hlast]
        exact (includeFees_spec hf).1
      rw [← hcurve]
      exact ⟨fee, numerator, hnumerator, hfee⟩
  obtain ⟨fee, hwalked⟩ := hwalked
  rw [← hnext] at hend
  rw [← hnext, ← hinput]
  exact bind_eq_ok.mpr ⟨_, hwalked, bind_eq_ok.mpr ⟨s, hs, bind_eq_ok.mpr
    ⟨(), require_eq_ok.mpr hend, rfl⟩⟩⟩

/-- **A result of any mode is a move of the side that its mode names.**
Source: `state/virtual_pool.rs`, the three swap modes -/
theorem getSwapResult2_curveMove {mode : SwapMode}
    (h : p.getSwapResult2 mode config amount m .quoteToBase point eligible = .ok r) :
    p.curveMove config m.feesOnInput mode.side amount point eligible =
      .ok ⟨r.nextSqrtPrice, r.excludedFeeInputAmount, curveOutput m r⟩ := by
  cases mode with
  | exactIn => exact getSwapResultFromExactInput_curveMove h
  | partialFill => exact getSwapResultFromPartialInput_curveMove h
  | exactOut => exact getSwapResultFromExactOutput_curveMove h

end Modes

end PoolState

/-! ## The market -/

/-- What is kept of a swap that succeeds, and the passing of time. A swap that names a referral does
not count as one at the creation of the pool.
Source: `instructions/swap/process_swap.rs` `SwapParameters2`,
`eligible_for_first_swap_with_min_fee` -/
inductive Order where
  | pass (slots seconds : ℕ)
  | swap (side : Side) (amount : ℕ) (atCreation : Bool)
  deriving DecidableEq, Repr

/-- The order that a request for a buy is.
Source: `instructions/swap/process_swap.rs` `process_swap` -/
def SwapRequest.order? (request : SwapRequest) (isVirtual : Bool) : Option Order :=
  (SwapMode.tryFrom request.params.swapMode).map fun mode =>
    .swap mode.side request.params.amount0
      (!(!isVirtual && request.hasReferralAccount) && request.containsInitializePool)

/-- The order of an instruction.
Source: `lib.rs` `swap2`, `swap2_with_transfer_hook`, `virtual_swap2` -/
def Action.order? : Action → Option Order
  | .pass slots seconds => some (.pass slots seconds)
  | a => a.swap?.bind fun swap => swap.1.order? swap.2

/-- What trading depends on: all the quote that was raised, whoever paid it, and neither the fees
nor the vaults.
Source: `state/virtual_pool.rs` `PoolState` -/
structure MarketView where
  volatilityTracker : VolatilityTracker
  sqrtPrice : ℕ
  baseReserve : ℕ
  raised : ℕ
  activationPoint : ℕ
  hasSwap : ℕ
  deadlineTimestamp : ℕ
  slot : ℕ
  timestamp : ℕ
  deriving DecidableEq, Repr

/-- What orders see of a pool.
Source: `state/virtual_pool.rs` `PoolState` -/
def World.market (w : World) : MarketView :=
  { volatilityTracker := w.pool.volatilityTracker
    sqrtPrice := w.pool.sqrtPrice
    baseReserve := w.pool.baseReserve
    raised := w.pool.quoteReserve + w.pool.virtualQuoteReserve
    activationPoint := w.pool.activationPoint
    hasSwap := w.pool.hasSwap
    deadlineTimestamp := w.pool.deadlineTimestamp
    slot := w.slot
    timestamp := w.timestamp }

namespace MarketView

variable (v : MarketView)

/-- The pool of a market on its own: nothing was virtual, and no fee was booked. -/
def pool : PoolState :=
  { PoolState.initializeState 0 v.sqrtPrice v.activationPoint v.baseReserve 0
      v.deadlineTimestamp with
    volatilityTracker := v.volatilityTracker
    quoteReserve := v.raised
    hasSwap := v.hasSwap }

/-- The world of that pool, on the clock of the market. -/
def world : World := .genesis v.pool v.slot v.timestamp

/-- The market after a move along the curve.
Source: `state/virtual_pool.rs` `apply_swap_result_internal` -/
def after (tracker : VolatilityTracker) (x : CurveMove) : MarketView :=
  { v with
    volatilityTracker := tracker
    sqrtPrice := x.next
    baseReserve := v.baseReserve - x.output
    raised := v.raised + x.input
    hasSwap := 1 }

/-- A market takes an order while its sale is open and its base lasts.
Source: none: the abstract market -/
def take (config : PoolConfig) (v : MarketView) : Order → Result MarketView
  | .pass slots seconds =>
      pure { v with slot := v.slot + slots, timestamp := v.timestamp + seconds }
  | .swap side amount atCreation => do
      ensure (v.pool.isSaleComplete config.migrationQuoteThreshold v.timestamp = false)
        .poolIsCompleted
      let point ← v.world.getCurrentPoint config.activationType
      let p ← v.pool.updatePreSwap config v.timestamp
      let m ← FeeMode.getFeeMode config.collectFeeMode .quoteToBase false
      let x ← p.curveMove config m.feesOnInput side amount point
        (config.isFirstSwapWithMinFeeEnabled && v.pool.isFirstSwap && atCreation)
      ensure (x.output ≤ v.baseReserve) .mathOverflow
      let after ← PoolState.updatePostSwap { p with sqrtPrice := x.next } config v.sqrtPrice
        v.timestamp
      pure (v.after after.volatilityTracker x)

end MarketView

/-! ## A swap is an order -/

section Swaps

variable {d : Deployment} {w mid w' : World} {p q p' : PoolState} {config : PoolConfig}
  {request : SwapRequest} {isVirtual hasReferral : Bool} {m : FeeMode} {r : SwapResult2}
  {timestamp : ℕ}

/-- The update before a swap is the same for the view.
Source: `state/virtual_pool.rs` `update_pre_swap` -/
theorem updatePreSwap_market (h : w.pool.updatePreSwap config timestamp = .ok q) :
    w.market.pool.updatePreSwap config timestamp =
      .ok { w.market.pool with volatilityTracker := q.volatilityTracker } := by
  unfold PoolState.updatePreSwap at h ⊢
  split_ifs at h ⊢
  · simp only [bind_eq_ok, pure_eq_ok] at h ⊢
    obtain ⟨tracker, htracker, rfl⟩ := h
    exact ⟨tracker, htracker, rfl⟩
  · rw [pure_eq_ok] at h
    subst h
    rfl

/-- The side of the fee does not depend on who refers.
Source: `state/fee.rs` `get_fee_mode` -/
theorem getFeeMode_feesOnInput {collectFeeMode : ℕ}
    (h : FeeMode.getFeeMode collectFeeMode .quoteToBase hasReferral = .ok m) :
    ∃ m', FeeMode.getFeeMode collectFeeMode .quoteToBase false = .ok m' ∧
      m'.feesOnInput = m.feesOnInput := by
  simp only [FeeMode.getFeeMode, bind_eq_ok, orThrow_eq_ok, pure_eq_ok] at h ⊢
  obtain ⟨mode, hmode, rfl⟩ := h
  exact ⟨_, ⟨mode, hmode, rfl⟩, rfl⟩

/-- What a result leaves of the tracker depends on the price and the tracker only.
Source: `state/virtual_pool.rs` `apply_swap_result_internal`, the call of `update_post_swap` -/
theorem tracker_of_applySwapResultInternal (q : PoolState)
    (h : p.applySwapResultInternal config r.getSwapResult m .quoteToBase timestamp isVirtual =
      .ok p')
    (hprice : q.sqrtPrice = p.sqrtPrice) (htracker : q.volatilityTracker = p.volatilityTracker) :
    ∃ after, PoolState.updatePostSwap { q with sqrtPrice := r.nextSqrtPrice } config q.sqrtPrice
      timestamp = .ok after ∧ after.volatilityTracker = p'.volatilityTracker := by
  simp only [PoolState.applySwapResultInternal, bind_eq_ok, pure_eq_ok] at h
  obtain ⟨p1, hfees, output, _, p2, hmove, p3, hpost, rfl⟩ := h
  obtain ⟨baseFee, quoteFee, _, rfl⟩ := PoolState.recordFees_spec hfees
  have hkept : p2.sqrtPrice = r.nextSqrtPrice ∧ p2.volatilityTracker = p.volatilityTracker := by
    unfold PoolState.moveReserves at hmove
    rw [if_neg (by decide)] at hmove
    split_ifs at hmove
    all_goals
      simp only [bind_eq_ok, pure_eq_ok] at hmove
      obtain ⟨_, _, _, _, rfl⟩ := hmove
      exact ⟨rfl, rfl⟩
  have hbefore : PoolState.sqrtPrice { q with sqrtPrice := r.nextSqrtPrice } = p2.sqrtPrice :=
    hkept.1.symm
  obtain ⟨after, hafter, _, hsame⟩ :=
    PoolState.updatePostSwap_congr hbefore (htracker.trans hkept.2.symm) hpost
  rw [hprice]
  exact ⟨after, hafter, hsame⟩

/-- The market of a pool moves with the result that is applied.
Source: `state/virtual_pool.rs` `apply_swap_result_internal` -/
theorem market_of_applySwapResultInternal {tracker : VolatilityTracker}
    (h : PoolState.applySwapResultInternal { w.pool with volatilityTracker := tracker } config
      r.getSwapResult m .quoteToBase timestamp isVirtual = .ok p') :
    (w.withPool p').market = w.market.after p'.volatilityTracker
        ⟨r.nextSqrtPrice, r.excludedFeeInputAmount, curveOutput m r⟩ ∧
      curveOutput m r ≤ w.market.baseReserve := by
  obtain ⟨x, hof, rfl, hout, _⟩ := PoolState.applySwapResultInternal_spec h
  obtain ⟨hbaseIn, hquoteOut, hbaseOut⟩ := hof.buy rfl
  have hinput : x.quoteIn + x.virtualIn = r.excludedFeeInputAmount := by
    cases isVirtual with
    | true =>
      obtain ⟨hquote, hvirtual⟩ := hof.virtual rfl rfl
      omega
    | false =>
      obtain ⟨hquote, hvirtual⟩ := hof.real rfl rfl
      omega
  rw [← hbaseOut]
  refine ⟨?_, hout⟩
  unfold World.market MarketView.after
  simp only [MarketView.mk.injEq]
  refine ⟨rfl, hof.next, ?_, ?_, rfl, rfl, rfl, rfl, rfl⟩
  · show w.pool.baseReserve + x.baseIn - x.baseOut = w.pool.baseReserve - x.baseOut
    rw [hbaseIn, Nat.add_zero]
  · show w.pool.quoteReserve + x.quoteIn - x.quoteOut + (w.pool.virtualQuoteReserve + x.virtualIn) =
      w.pool.quoteReserve + w.pool.virtualQuoteReserve + r.excludedFeeInputAmount
    omega

/-- Neither the transfers nor the end of the sale change the market.
Source: `instructions/swap/process_swap.rs` `process_swap`, its transfers and `curve_complete` -/
theorem market_of_settled (hfill : SwapFill m r) (hbase : m.feesOnBaseToken = !m.feesOnInput)
    (href : m.hasReferral = (!isVirtual && request.hasReferralAccount))
    (hsettle : d.settleSwap w request isVirtual m r = .ok mid)
    (hcomplete : d.completeCurve mid = .ok w') : w'.market = w.market := by
  obtain ⟨_, _, _, _, hmid⟩ := settleSwap_spec hfill hbase href hsettle
  have hsettled : mid.market = w.market := by
    rw [hmid]
    rfl
  rw [← hsettled]
  cases completeCurve_spec hcomplete with
  | «open» => rfl
  | complete => rfl

/-- The point and the right to the minimum fee that the checks settle.
Source: `instructions/swap/process_swap.rs` `process_swap`, `current_point` and
`eligible_for_first_swap_with_min_fee` -/
theorem validateSwap_eligible {c : SwapContext} (h : d.validateSwap w request isVirtual = .ok c) :
    w.getCurrentPoint d.config.activationType = .ok c.currentPoint ∧
      c.eligible = (d.config.isFirstSwapWithMinFeeEnabled && w.pool.isFirstSwap &&
        (!(!isVirtual && request.hasReferralAccount) && request.containsInitializePool)) := by
  simp only [Deployment.validateSwap, bind_eq_ok, exists_unit, pure_eq_ok] at h
  obtain ⟨_, _, _, _, _, _, hpoint, _, _, rfl⟩ := h
  exact ⟨hpoint, Bool.and_assoc _ _ _⟩

/-- A pool and its market move alike along the curve.
Source: `state/virtual_pool.rs`, the three swap modes -/
theorem curveMove_market (tracker : VolatilityTracker) (feesOnInput : Bool) (side : Side)
    (amount point : ℕ) (eligible : Bool) :
    PoolState.curveMove { w.pool with volatilityTracker := tracker } config feesOnInput side amount
        point eligible =
      PoolState.curveMove { w.market.pool with volatilityTracker := tracker } config feesOnInput
        side amount point eligible := by
  cases side <;> rfl

/-- What is computed for a swap, the market computes for its order.
Source: `instructions/swap/process_swap.rs` `process_swap`, from `update_pre_swap` to
`apply_swap_result` -/
theorem computeSwap_take {c : SwapContext} (hc : d.validateSwap w request isVirtual = .ok c)
    (h : d.computeSwap w request isVirtual c = .ok (m, r, p)) :
    w.market.take d.config (.swap c.mode.side request.params.amount0
      (!(!isVirtual && request.hasReferralAccount) && request.containsInitializePool)) =
        .ok (w.withPool p).market := by
  obtain ⟨hdir, _, hopen⟩ := validateSwap_spec hc
  obtain ⟨hpoint, heligible⟩ := validateSwap_eligible hc
  simp only [Deployment.computeSwap, bind_eq_ok, pure_eq_ok, Prod.mk.injEq] at h
  obtain ⟨q, hpre, m, hm, r, hr, p, happly, rfl, rfl, rfl⟩ := h
  rw [hdir] at hm hr happly
  have hupdate := updatePreSwap_market hpre
  obtain ⟨m', hm', hside⟩ := getFeeMode_feesOnInput hm
  obtain ⟨tracker, rfl⟩ := PoolState.updatePreSwap_spec hpre
  have hmove := PoolState.getSwapResult2_curveMove (processSwapMode_spec hr)
  rw [curveMove_market, ← hside, heligible] at hmove
  have happly' : PoolState.applySwapResultInternal { w.pool with volatilityTracker := tracker }
      d.config r.getSwapResult m .quoteToBase w.timestamp isVirtual = .ok p := by
    cases isVirtual <;> exact happly
  obtain ⟨hmarket, hout⟩ := market_of_applySwapResultInternal happly'
  obtain ⟨after, hafter, hsame⟩ := tracker_of_applySwapResultInternal
    { w.market.pool with volatilityTracker := tracker } happly' rfl rfl
  rw [hmarket, ← hsame]
  unfold MarketView.take
  simp only [bind_eq_ok, exists_unit, require_eq_ok, pure_eq_ok]
  exact ⟨hopen, _, hpoint, _, hupdate, m', hm', _, hmove, hout, after, hafter, rfl⟩

/-- **A swap is taken by the market as its order.**
Source: `instructions/swap/process_swap.rs` `process_swap` -/
theorem processSwap_take (h : d.processSwap w request isVirtual = .ok w') :
    ∃ o, request.order? isVirtual = some o ∧ w.market.take d.config o = .ok w'.market := by
  simp only [Deployment.processSwap, bind_eq_ok] at h
  obtain ⟨c, hc, ⟨m, r, p⟩, hcompute, mid, hsettle, hcomplete⟩ := h
  obtain ⟨hmode, _⟩ := validateSwap_request hc
  obtain ⟨hdir, href, _⟩ := validateSwap_spec hc
  refine ⟨_, Option.map_eq_some_iff.mpr ⟨c.mode, hmode, rfl⟩, ?_⟩
  rw [computeSwap_take hc hcompute]
  simp only [Deployment.computeSwap, bind_eq_ok, pure_eq_ok, Prod.mk.injEq] at hcompute
  obtain ⟨q, _, m, hm, r, hr, _, _, rfl, rfl, rfl⟩ := hcompute
  rw [hdir] at hm hr
  obtain ⟨hbase, hreferral⟩ := getFeeMode_buy hm
  rw [href] at hreferral
  rw [market_of_settled (PoolState.getSwapResult2_fill (processSwapMode_spec hr)) hbase hreferral
    hsettle hcomplete]

/-- An action that swaps is the order of its request.
Source: `lib.rs` `swap2`, `swap2_with_transfer_hook`, `virtual_swap2` -/
theorem order?_of_swap? {a : Action} (hswap : a.swap? = some (request, isVirtual)) :
    a.order? = request.order? isVirtual := by
  have hbind : a.order? = a.swap?.bind fun swap => swap.1.order? swap.2 := by
    cases a with
    | pass slots seconds => cases hswap
    | _ => rfl
  rw [hbind, hswap, Option.bind_some]

/-- An instruction that has an order is taken by the market as that order.
Source: `lib.rs` `swap2`, `swap2_with_transfer_hook`, `virtual_swap2` -/
theorem step_take {a : Action} {o : Order} (horder : a.order? = some o)
    (h : d.step w a = .ok w') : w.market.take d.config o = .ok w'.market := by
  cases hswap : a.swap? with
  | some swap =>
    obtain ⟨request, isVirtual⟩ := swap
    obtain ⟨_, hprocess⟩ := (step_swap_iff hswap).mp h
    obtain ⟨o', ho', htake⟩ := processSwap_take hprocess
    rw [order?_of_swap? hswap, ho'] at horder
    cases horder
    exact htake
  | none =>
    cases a with
    | pass slots seconds =>
      cases horder
      cases h
      rfl
    | swap2 request => cases hswap
    | swap2WithTransferHook request => cases hswap
    | virtualSwap2 request => cases hswap
    | _ => cases horder

/-- An instruction without an order leaves the market alone.
Source: `lib.rs`, the dispatch of the instructions -/
theorem market_of_step {a : Action} (horder : a.order? = none) (h : d.step w a = .ok w') :
    w'.market = w.market := by
  cases hswap : a.swap? with
  | some swap =>
    -- a swap that succeeds has a mode, and with it an order
    obtain ⟨request, isVirtual⟩ := swap
    obtain ⟨_, hprocess⟩ := (step_swap_iff hswap).mp h
    obtain ⟨o, ho, _⟩ := processSwap_take hprocess
    rw [order?_of_swap? hswap, ho] at horder
    cases horder
  | none =>
    have hpass : a.isTrade = false := by
      cases a with
      | pass slots seconds => cases horder
      | swap2 request => cases hswap
      | swap2WithTransferHook request => cases hswap
      | virtualSwap2 request => cases hswap
      | _ => rfl
    have hview := tradingView_silent hpass h
    have hstate := congrArg TradingView.state hview
    have hslot : w'.slot = w.slot := congrArg TradingView.slot hview
    have htime : w'.timestamp = w.timestamp := congrArg TradingView.timestamp hview
    unfold World.market
    rw [PoolState.withTrading_eq hstate, hslot, htime]
    rfl

end Swaps

/-! ## Runs -/

namespace Launch

variable (l : Launch)

/-- The orders of a run: those of the instructions that succeed. -/
def orders (actions : List Action) : List Order :=
  trace Action.order? l.deployment.step l.genesis actions

/-- The orders of a run lead to the view of its last state. -/
theorem foldlM_orders (actions : List Action) :
    (l.orders actions).foldlM (MarketView.take l.config) l.genesis.market =
      .ok (l.after actions).market :=
  foldlM_trace Action.order? World.market (MarketView.take l.config)
    (fun _ _ _ hnone h => market_of_step hnone h) (fun _ _ _ _ hsome h => step_take hsome h) _ _

/-- A virtual partial fill leaves the order of an exact buy with a referral, and a claim none. -/
example :
    plainLaunch.orders [.virtualSwap2
        { buyOf 1 100000 0 with payer := VIRTUAL_SWAP_AUTHORITY, hasReferralAccount := false },
      .claimTradingFee 2 10 3 true] = [.swap .input 100000 false] ∧
      plainLaunch.orders [.swap2 (buyOf 0 100000 0)] = [.swap .input 100000 false] := by
  decide +kernel

end Launch

end DynamicBondingCurve
