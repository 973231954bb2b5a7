import DynamicBondingCurve.State.SwapResults

/-!
# The state of a pool after a swap

What `applySwapResultInternal` writes, field by field, is a `Trade`: the amounts that move through
the reserves and the fees that are booked.

* `PoolState.afterTrade`: the state after a trade.
* `TradeOf`: the trade of a swap result; on a buy the fees booked are the fees of the result.
* `applySwapResultInternal_spec`: **applying a result is a trade**, and no reserve was overdrawn.
-/

namespace DynamicBondingCurve

open Library

/-- The parts of a fee that stay with the pool.
Source: `state/virtual_pool.rs` `apply_swap_result_internal`, the fees it adds -/
structure Fees where
  partner : ℕ
  creator : ℕ
  protocol : ℕ
  deriving DecidableEq, Repr

/-- No fees. -/
def Fees.none : Fees := ⟨0, 0, 0⟩

/-- The fees of the three parties together. -/
def Fees.total (f : Fees) : ℕ := f.partner + f.creator + f.protocol

/-- What a swap changes in the state of a pool.
Source: `state/virtual_pool.rs` `apply_swap_result_internal`, the fields it writes -/
structure Trade where
  tracker : VolatilityTracker
  next : ℕ
  baseIn : ℕ
  baseOut : ℕ
  quoteIn : ℕ
  quoteOut : ℕ
  virtualIn : ℕ
  baseFee : Fees
  quoteFee : Fees
  deriving DecidableEq, Repr

namespace PoolState

/-- The state with more fees booked.
Source: `state/virtual_pool.rs` `apply_swap_result_internal`, the branches on
`fees_on_base_token` -/
def withFees (p : PoolState) (baseFee quoteFee : Fees) : PoolState :=
  { p with
    partnerBaseFee := p.partnerBaseFee + baseFee.partner
    creatorBaseFee := p.creatorBaseFee + baseFee.creator
    protocolBaseFee := p.protocolBaseFee + baseFee.protocol
    partnerQuoteFee := p.partnerQuoteFee + quoteFee.partner
    creatorQuoteFee := p.creatorQuoteFee + quoteFee.creator
    protocolQuoteFee := p.protocolQuoteFee + quoteFee.protocol
    metrics :=
      { totalProtocolBaseFee := p.metrics.totalProtocolBaseFee + baseFee.protocol
        totalProtocolQuoteFee := p.metrics.totalProtocolQuoteFee + quoteFee.protocol
        totalTradingBaseFee := p.metrics.totalTradingBaseFee + (baseFee.partner + baseFee.creator)
        totalTradingQuoteFee :=
          p.metrics.totalTradingQuoteFee + (quoteFee.partner + quoteFee.creator) } }

/-- The pool after a trade.
Source: `state/virtual_pool.rs` `apply_swap_result_internal` -/
def afterTrade (p : PoolState) (x : Trade) : PoolState :=
  { p.withFees x.baseFee x.quoteFee with
    volatilityTracker := x.tracker
    sqrtPrice := x.next
    baseReserve := p.baseReserve + x.baseIn - x.baseOut
    quoteReserve := p.quoteReserve + x.quoteIn - x.quoteOut
    virtualQuoteReserve := p.virtualQuoteReserve + x.virtualIn
    hasSwap := 1 }

/-- The fees that a result books on each token.
Source: `state/virtual_pool.rs` `apply_swap_result_internal`, the branches on
`fees_on_base_token` -/
structure FeesOf (r : SwapResult) (m : FeeMode) (isVirtual : Bool) (baseFee quoteFee : Fees) :
    Prop where
  onBase : m.feesOnBaseToken = true → quoteFee = Fees.none ∧
    baseFee.partner + baseFee.creator = r.tradingFee ∧ baseFee.protocol = r.protocolFee
  onQuote : m.feesOnBaseToken = false → isVirtual = false → baseFee = Fees.none ∧
    quoteFee.partner + quoteFee.creator = r.tradingFee ∧ quoteFee.protocol = r.protocolFee
  onVirtual : m.feesOnBaseToken = false → isVirtual = true →
    baseFee = Fees.none ∧ quoteFee = Fees.none

variable {p p' : PoolState} {config : PoolConfig} {r : SwapResult} {m : FeeMode}
  {dir : TradeDirection} {isVirtual : Bool} {timestamp : ℕ}

/-- Fees are recorded on one token, for each party its own.
Source: `state/virtual_pool.rs` `apply_swap_result_internal`, the branches on `fees_on_base_token`
-/
theorem recordFees_spec (h : p.recordFees config r m isVirtual = .ok p') :
    ∃ baseFee quoteFee, FeesOf r m isVirtual baseFee quoteFee ∧
      p' = p.withFees baseFee quoteFee := by
  simp only [recordFees, bind_eq_ok] at h
  obtain ⟨split, hsplit, h⟩ := h
  have hsum := PoolConfig.splitPartnerAndCreatorFee_spec hsplit
  by_cases hbase : m.feesOnBaseToken = true
  · rw [if_pos hbase] at h
    simp only [bind_eq_ok, safeAdd_eq_ok, PoolMetrics.accumulateFee, if_true, pure_eq_ok] at h
    obtain ⟨_, ⟨_, rfl⟩, _, ⟨_, rfl⟩, _, ⟨_, rfl⟩, _, ⟨_, ⟨_, rfl⟩, _, ⟨_, rfl⟩, rfl⟩, rfl⟩ := h
    refine ⟨⟨split.partnerFee, split.creatorFee, r.protocolFee⟩, .none, ⟨?_, ?_, ?_⟩, ?_⟩
    · exact fun _ => ⟨rfl, hsum, rfl⟩
    · exact fun hno => absurd hbase (by rw [hno]; exact Bool.false_ne_true)
    · exact fun hno => absurd hbase (by rw [hno]; exact Bool.false_ne_true)
    · simp only [withFees, Fees.none, Nat.add_zero, hsum]
  · have hno : m.feesOnBaseToken = false := by simpa using hbase
    rw [if_neg hbase] at h
    cases isVirtual with
    | true =>
      simp only [not_true_eq_false, if_false, pure_eq_ok] at h
      subst h
      refine ⟨.none, .none, ⟨fun hyes => absurd hyes hbase, fun _ hv => ?_, fun _ _ => ⟨rfl, rfl⟩⟩,
        rfl⟩
      exact absurd hv (by decide)
    | false =>
      simp only [Bool.false_eq_true, not_false_eq_true, if_true, bind_eq_ok, safeAdd_eq_ok,
        PoolMetrics.accumulateFee, if_false, pure_eq_ok] at h
      obtain ⟨_, ⟨_, rfl⟩, _, ⟨_, rfl⟩, _, ⟨_, rfl⟩, _, ⟨_, ⟨_, rfl⟩, _, ⟨_, rfl⟩, rfl⟩, rfl⟩ := h
      refine ⟨.none, ⟨split.partnerFee, split.creatorFee, r.protocolFee⟩, ⟨?_, ?_, ?_⟩, ?_⟩
      · exact fun hyes => absurd hyes hbase
      · exact fun _ _ => ⟨rfl, hsum, rfl⟩
      · exact fun _ hv => absurd hv (by decide)
      · simp only [withFees, Fees.none, Nat.add_zero, hsum]

/-- A swap changes nothing but the tracker after its amounts are booked.
Source: `state/virtual_pool.rs` `update_post_swap` -/
theorem updatePostSwap_spec {old : ℕ} (h : p.updatePostSwap config old timestamp = .ok p') :
    ∃ tracker, p' = { p with volatilityTracker := tracker } := by
  unfold updatePostSwap at h
  split_ifs at h
  · simp only [bind_eq_ok, pure_eq_ok] at h
    obtain ⟨tracker, _, _, _, rfl⟩ := h
    exact ⟨_, rfl⟩
  · rw [pure_eq_ok] at h
    exact ⟨p.volatilityTracker, h.symm⟩

/-- A swap changes nothing but the tracker before its amounts are computed.
Source: `state/virtual_pool.rs` `update_pre_swap` -/
theorem updatePreSwap_spec (h : p.updatePreSwap config timestamp = .ok p') :
    ∃ tracker, p' = { p with volatilityTracker := tracker } := by
  unfold updatePreSwap at h
  split_ifs at h
  · simp only [bind_eq_ok, pure_eq_ok] at h
    obtain ⟨tracker, _, rfl⟩ := h
    exact ⟨_, rfl⟩
  · rw [pure_eq_ok] at h
    exact ⟨p.volatilityTracker, h.symm⟩

/-- What the pool gives out is the output of the curve.
Source: `state/virtual_pool.rs` `apply_swap_result_internal`, `actual_output_amount` -/
theorem actualOutputAmount_spec {r2 : SwapResult2} {out : ℕ}
    (h : actualOutputAmount r2.getSwapResult m = .ok out) : out = curveOutput m r2 := by
  unfold actualOutputAmount at h
  split_ifs at h with hm
  · rw [pure_eq_ok] at h
    rw [curveOutput, if_pos hm, ← h]
    rfl
  · simp only [bind_eq_ok, safeAdd_eq_ok] at h
    obtain ⟨_, ⟨_, rfl⟩, _, ⟨_, rfl⟩, _, rfl⟩ := h
    rw [curveOutput, if_neg hm, SwapResult2.fees]
    simp only [SwapResult2.getSwapResult]
    omega

end PoolState

/-- The trade of a swap result.
Source: `state/virtual_pool.rs` `apply_swap_result_internal` -/
structure TradeOf (r : SwapResult2) (m : FeeMode) (dir : TradeDirection) (isVirtual : Bool)
    (x : Trade) : Prop where
  next : x.next = r.nextSqrtPrice
  fees : PoolState.FeesOf r.getSwapResult m isVirtual x.baseFee x.quoteFee
  buy : dir = .quoteToBase → x.baseIn = 0 ∧ x.quoteOut = 0 ∧ x.baseOut = curveOutput m r
  sell : dir = .baseToQuote → x.baseIn = r.excludedFeeInputAmount ∧ x.quoteOut = curveOutput m r ∧
    x.baseOut = 0 ∧ x.quoteIn = 0 ∧ x.virtualIn = 0
  real : dir = .quoteToBase → isVirtual = false →
    x.quoteIn = r.excludedFeeInputAmount ∧ x.virtualIn = 0
  virtual : dir = .quoteToBase → isVirtual = true →
    x.quoteIn = 0 ∧ x.virtualIn = r.excludedFeeInputAmount

namespace PoolState

variable {p p' : PoolState} {config : PoolConfig} {r : SwapResult2} {m : FeeMode}
  {dir : TradeDirection} {isVirtual : Bool} {timestamp : ℕ}

/-- **Applying a swap result is a trade**, and no reserve was overdrawn.
Source: `state/virtual_pool.rs` `apply_swap_result_internal` -/
theorem applySwapResultInternal_spec
    (h : p.applySwapResultInternal config r.getSwapResult m dir timestamp isVirtual = .ok p') :
    ∃ x, TradeOf r m dir isVirtual x ∧ p' = p.afterTrade x ∧ x.baseOut ≤ p.baseReserve ∧
      x.quoteOut ≤ p.quoteReserve := by
  simp only [applySwapResultInternal, bind_eq_ok, pure_eq_ok] at h
  obtain ⟨_, hfees, out, hout, _, hmove, _, hpost, rfl⟩ := h
  obtain ⟨baseFee, quoteFee, hof, rfl⟩ := recordFees_spec hfees
  have hout := actualOutputAmount_spec hout
  unfold moveReserves at hmove
  by_cases hdir : dir = .baseToQuote
  · rw [if_pos hdir] at hmove
    simp only [bind_eq_ok, safeAdd_eq_ok, safeSub_eq_ok, pure_eq_ok] at hmove
    obtain ⟨_, ⟨_, rfl⟩, _, ⟨hle, rfl⟩, rfl⟩ := hmove
    obtain ⟨tracker, rfl⟩ := updatePostSwap_spec hpost
    refine ⟨⟨tracker, r.nextSqrtPrice, r.excludedFeeInputAmount, 0, 0, out, 0, baseFee, quoteFee⟩,
      ⟨rfl, hof, ?_, ?_, ?_, ?_⟩, rfl, Nat.zero_le _, hle⟩
    · exact fun hbuy => absurd hdir (by rw [hbuy]; decide)
    · exact fun _ => ⟨rfl, hout, rfl, rfl, rfl⟩
    · exact fun hbuy => absurd hdir (by rw [hbuy]; decide)
    · exact fun hbuy => absurd hdir (by rw [hbuy]; decide)
  · rw [if_neg hdir] at hmove
    cases isVirtual with
    | true =>
      simp only [if_true, bind_eq_ok, safeAdd_eq_ok, safeSub_eq_ok, pure_eq_ok] at hmove
      obtain ⟨_, ⟨_, rfl⟩, _, ⟨hle, rfl⟩, rfl⟩ := hmove
      obtain ⟨tracker, rfl⟩ := updatePostSwap_spec hpost
      refine ⟨⟨tracker, r.nextSqrtPrice, 0, out, 0, 0, r.excludedFeeInputAmount, baseFee,
        quoteFee⟩, ⟨rfl, hof, ?_, ?_, ?_, ?_⟩, rfl, hle, Nat.zero_le _⟩
      · exact fun _ => ⟨rfl, rfl, hout⟩
      · exact fun hsell => absurd hsell hdir
      · exact fun _ hv => absurd hv (by decide)
      · exact fun _ _ => ⟨rfl, rfl⟩
    | false =>
      simp only [Bool.false_eq_true, if_false, bind_eq_ok, safeAdd_eq_ok, safeSub_eq_ok,
        pure_eq_ok] at hmove
      obtain ⟨_, ⟨_, rfl⟩, _, ⟨hle, rfl⟩, rfl⟩ := hmove
      obtain ⟨tracker, rfl⟩ := updatePostSwap_spec hpost
      refine ⟨⟨tracker, r.nextSqrtPrice, 0, out, r.excludedFeeInputAmount, 0, 0, baseFee,
        quoteFee⟩, ⟨rfl, hof, ?_, ?_, ?_, ?_⟩, rfl, hle, Nat.zero_le _⟩
      · exact fun _ => ⟨rfl, rfl, hout⟩
      · exact fun hsell => absurd hsell hdir
      · exact fun _ _ => ⟨rfl, rfl⟩
      · exact fun _ hv => absurd hv (by decide)

end PoolState

end DynamicBondingCurve
