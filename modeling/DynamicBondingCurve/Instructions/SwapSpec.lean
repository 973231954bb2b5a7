import DynamicBondingCurve.Instructions.Swap
import DynamicBondingCurve.State.Trade

/-!
# What a swap does to the world

A successful `processSwap` is a trade on an open sale, its transfers, and then either nothing or
the end of the sale.

* `TradeMove`: the trade with its transfers; what enters and leaves the vaults is what enters and
  leaves the reserves together with the fees booked.
* `Completion`: the end of the sale.
* `processSwap_spec`: **a swap is a `TradeMove` followed by `Completion` or by nothing**.
-/

namespace DynamicBondingCurve

open Library

/-- A transfer made by a swap.
Source: `instructions/swap/process_swap.rs` `process_swap`, its transfers -/
def Effect.IsSwapTransfer : Effect → Prop
  | .received _ u _ => u.IsSwap
  | .paid _ u _ => u.IsSwap
  | _ => False

/-- A trade of an open sale with its transfers.
Source: `instructions/swap/process_swap.rs` `process_swap`, before `curve_complete` -/
structure TradeMove (d : Deployment) (isVirtual : Bool) (x : Trade) (w w' : World) : Prop where
  isOpen : w.pool.isSaleComplete d.config.migrationQuoteThreshold w.timestamp = false
  pool : w'.pool = w.pool.afterTrade x
  baseIn_eq : x.baseIn = 0
  quoteOut_eq : x.quoteOut = 0
  quoteIn_eq : isVirtual = true → x.quoteIn = 0
  virtualIn_eq : isVirtual = false → x.virtualIn = 0
  baseOut_le : x.baseOut ≤ w.pool.baseReserve
  baseFee_le : x.baseFee.total ≤ x.baseOut
  baseVault : w'.baseVault + x.baseOut = w.baseVault + x.baseFee.total
  quoteVault : w'.quoteVault = w.quoteVault + x.quoteIn + x.quoteFee.total
  baseSupply : w'.baseSupply = w.baseSupply
  isTransferHookRevoked : w'.isTransferHookRevoked = w.isTransferHookRevoked
  slot : w'.slot = w.slot
  timestamp : w'.timestamp = w.timestamp
  effects : ∃ es : List Effect, (∀ e ∈ es, e.IsSwapTransfer) ∧ w'.effects = es ++ w.effects
  result : ∃ (tracker : VolatilityTracker) (mode : SwapMode) (m : FeeMode) (amount point : ℕ)
    (eligible : Bool) (r : SwapResult2),
    PoolState.getSwapResult2 { w.pool with volatilityTracker := tracker } mode d.config amount m
      .quoteToBase point eligible = .ok r ∧
    r.nextSqrtPrice = x.next ∧ r.excludedFeeInputAmount = x.quoteIn + x.virtualIn ∧
    curveOutput m r = x.baseOut

/-- What follows the trade of a swap.
Source: `instructions/swap/process_swap.rs` `process_swap`, `curve_complete` -/
inductive Completion (d : Deployment) (w : World) : World → Prop
  /-- The threshold is not raised. -/
  | open (incomplete : w.pool.isCurveComplete d.config.migrationQuoteThreshold = false) :
      Completion d w w
  /-- The threshold is raised. -/
  | complete (complete : w.pool.isCurveComplete d.config.migrationQuoteThreshold = true) :
      Completion d w (d.completed w)

/-! ## The stages -/

section Stages

variable {d : Deployment} {w w' : World} {request : SwapRequest} {isVirtual : Bool}
  {c : SwapContext} {feeMode : FeeMode} {r : SwapResult2} {p : PoolState}

/-- What passes the limit is what the pool computed.
Source: `instructions/swap/process_swap.rs` `process_swap`, the match on `swap_mode` -/
theorem processSwapMode_spec {mode : SwapMode} {amount0 amount1 point : ℕ}
    {dir : TradeDirection} {eligible : Bool}
    (h : p.processSwapMode d.config mode amount0 amount1 feeMode dir point eligible = .ok r) :
    p.getSwapResult2 mode d.config amount0 feeMode dir point eligible = .ok r := by
  cases mode with
  | exactIn =>
    simp only [PoolState.processSwapMode, PoolState.processSwapExactIn, bind_eq_ok, exists_unit,
      require_eq_ok, pure_eq_ok] at h
    obtain ⟨_, hr, _, rfl⟩ := h
    exact hr
  | partialFill =>
    simp only [PoolState.processSwapMode, PoolState.processSwapPartialFill, bind_eq_ok,
      exists_unit, require_eq_ok, pure_eq_ok] at h
    obtain ⟨_, hr, _, rfl⟩ := h
    exact hr
  | exactOut =>
    simp only [PoolState.processSwapMode, PoolState.processSwapExactOut, bind_eq_ok,
      exists_unit, require_eq_ok, pure_eq_ok] at h
    obtain ⟨_, hr, _, rfl⟩ := h
    exact hr

/-- A request that passes the checks is a buy on an open sale; a virtual one has no referral.
Source: `instructions/swap/process_swap.rs` `process_swap`, the checks -/
theorem validateSwap_spec (h : d.validateSwap w request isVirtual = .ok c) :
    c.tradeDirection = .quoteToBase ∧
      c.hasReferral = (!isVirtual && request.hasReferralAccount) ∧
      w.pool.isSaleComplete d.config.migrationQuoteThreshold w.timestamp = false := by
  simp only [Deployment.validateSwap, bind_eq_ok, exists_unit, require_eq_ok, pure_eq_ok] at h
  obtain ⟨_, _, hdir, _, _, _, _, _, hopen, rfl⟩ := h
  exact ⟨hdir, rfl, hopen⟩

/-- The transfers of a buy.
Source: `instructions/swap/process_swap.rs` `process_swap`, its transfers -/
theorem settleSwap_spec (hfill : SwapFill feeMode r)
    (hbase : feeMode.feesOnBaseToken = !feeMode.feesOnInput)
    (href : feeMode.hasReferral = (!isVirtual && request.hasReferralAccount))
    (h : d.settleSwap w request isVirtual feeMode r = .ok w') :
    (w'.baseVault + curveOutput feeMode r = w.baseVault +
        if feeMode.feesOnBaseToken then r.tradingFee + r.protocolFee else 0) ∧
      (w'.quoteVault = w.quoteVault +
        if isVirtual then 0 else r.excludedFeeInputAmount +
          if feeMode.feesOnBaseToken then 0 else r.tradingFee + r.protocolFee) ∧
      ∃ es : List Effect, (∀ e ∈ es, e.IsSwapTransfer) ∧
        w' = { w with
          baseVault := w'.baseVault
          quoteVault := w'.quoteVault
          effects := es ++ w.effects } := by
  have hinput := hfill.input
  have hzero := hfill.referral
  simp only [Deployment.settleSwap, bind_eq_ok] at h
  obtain ⟨w1, hin, w2, hout, h⟩ := h
  simp only [World.pay_eq_ok, World.vault] at hout
  obtain ⟨hle, rfl⟩ := hout
  cases isVirtual with
  | true =>
    rw [if_pos rfl, pure_eq_ok] at hin
    subst hin
    rw [if_neg (by simp), pure_eq_ok] at h
    subst h
    have hnone : r.referralFee = 0 := hzero (by rw [href]; rfl)
    refine ⟨?_, rfl, [.paid .base .swapOutput r.outputAmount], ?_, rfl⟩
    · simp only [World.paid, curveOutput, SwapResult2.fees, hbase]
      cases feeMode.feesOnInput <;> simp <;> omega
    · simp [Effect.IsSwapTransfer, Purpose.IsSwap]
  | false =>
    simp only [Bool.false_eq_true, if_false, bind_eq_ok, exists_unit, require_eq_ok,
      pure_eq_ok] at hin
    obtain ⟨_, rfl⟩ := hin
    simp only [World.receive] at hle
    by_cases hpay : (¬ (false = true)) ∧ request.hasReferralAccount ∧ r.referralFee > 0
    · rw [if_pos hpay] at h
      cases hm : feeMode.feesOnInput with
      | true =>
        rw [hm] at hbase hinput
        rw [if_neg (by rw [hbase]; decide), World.pay_eq_ok] at h
        obtain ⟨hle', rfl⟩ := h
        simp only [World.paid, World.receive, World.vault] at hle' ⊢
        refine ⟨?_, ?_, [.paid .quote .referralFee r.referralFee,
          .paid .base .swapOutput r.outputAmount,
          .received .quote .swapInput r.includedFeeInputAmount], ?_, rfl⟩
        · simp only [curveOutput, hm, hbase, if_true, Bool.not_true, Bool.false_eq_true, if_false]
          omega
        · simp only [hbase, Bool.not_true, Bool.false_eq_true, if_false]
          simp only [if_true, SwapResult2.fees] at hinput
          omega
        · simp [Effect.IsSwapTransfer, Purpose.IsSwap]
      | false =>
        rw [hm] at hbase hinput
        rw [if_pos (by rw [hbase]; decide), World.pay_eq_ok] at h
        obtain ⟨hle', rfl⟩ := h
        simp only [World.paid, World.receive, World.vault] at hle' ⊢
        refine ⟨?_, ?_, [.paid .base .referralFee r.referralFee,
          .paid .base .swapOutput r.outputAmount,
          .received .quote .swapInput r.includedFeeInputAmount], ?_, rfl⟩
        · simp only [curveOutput, hm, hbase, Bool.not_false, if_true, Bool.false_eq_true, if_false,
            SwapResult2.fees]
          omega
        · simp only [hbase, Bool.not_false, if_true, Bool.false_eq_true, if_false]
          simp only [Bool.false_eq_true, if_false] at hinput
          omega
        · simp [Effect.IsSwapTransfer, Purpose.IsSwap]
    · rw [if_neg hpay, pure_eq_ok] at h
      subst h
      have hnone : r.referralFee = 0 := by
        cases hacc : request.hasReferralAccount with
        | false => exact hzero (by rw [href, hacc]; rfl)
        | true =>
          by_contra hpos
          exact hpay ⟨by decide, hacc, Nat.pos_of_ne_zero hpos⟩
      simp only [World.paid, World.receive]
      refine ⟨?_, ?_, [.paid .base .swapOutput r.outputAmount,
        .received .quote .swapInput r.includedFeeInputAmount], ?_, rfl⟩
      · simp only [curveOutput, SwapResult2.fees, hbase]
        cases feeMode.feesOnInput <;> simp <;> omega
      · simp only [hbase]
        simp only [SwapResult2.fees] at hinput
        cases hm : feeMode.feesOnInput <;> rw [hm] at hinput <;> simp at hinput ⊢ <;> omega
      · simp [Effect.IsSwapTransfer, Purpose.IsSwap]

/-- The fees that a buy books are those that stay in the vaults.
Source: `state/virtual_pool.rs` `apply_swap_result_internal`, the branches on
`fees_on_base_token` -/
theorem TradeOf.fees_total {x : Trade} (h : TradeOf r feeMode .quoteToBase isVirtual x) :
    (x.baseFee.total = if feeMode.feesOnBaseToken then r.tradingFee + r.protocolFee else 0) ∧
      (x.quoteIn + x.quoteFee.total = if isVirtual then 0 else r.excludedFeeInputAmount +
        if feeMode.feesOnBaseToken then 0 else r.tradingFee + r.protocolFee) := by
  have hfees := h.fees
  cases hbase : feeMode.feesOnBaseToken with
  | true =>
    obtain ⟨hquote, htrading, hprotocol⟩ := hfees.onBase hbase
    simp only [SwapResult2.getSwapResult] at htrading hprotocol
    refine ⟨by simp only [Fees.total, if_true]; omega, ?_⟩
    cases isVirtual with
    | true => simp [(h.virtual rfl rfl).1, hquote, Fees.total, Fees.none]
    | false => simp [(h.real rfl rfl).1, hquote, Fees.total, Fees.none]
  | false =>
    cases isVirtual with
    | true =>
      obtain ⟨hb, hq⟩ := hfees.onVirtual hbase rfl
      simp [(h.virtual rfl rfl).1, hb, hq, Fees.total, Fees.none]
    | false =>
      obtain ⟨hb, htrading, hprotocol⟩ := hfees.onQuote hbase rfl
      simp only [SwapResult2.getSwapResult] at htrading hprotocol
      refine ⟨by simp [hb, Fees.total, Fees.none], ?_⟩
      simp only [(h.real rfl rfl).1, Fees.total, Bool.false_eq_true, if_false]
      omega

/-- What the end of a sale does.
Source: `instructions/swap/process_swap.rs` `process_swap`, `curve_complete` -/
theorem completeCurve_spec (h : d.completeCurve w = .ok w') : Completion d w w' := by
  unfold Deployment.completeCurve at h
  by_cases hcomplete : w.pool.isCurveComplete d.config.migrationQuoteThreshold = true
  · rw [if_pos hcomplete] at h
    simp only [bind_eq_ok, exists_unit, require_eq_ok, pure_eq_ok] at h
    obtain ⟨_, _, _, _, _, _, _, _, _, rfl⟩ := h
    exact .complete hcomplete
  · rw [if_neg hcomplete, pure_eq_ok] at h
    subst h
    exact .open (by simpa using hcomplete)

end Stages

/-- A swap that is settled is a trade of an open sale.
Source: `instructions/swap/process_swap.rs` `process_swap`, before `curve_complete` -/
theorem settled_spec {d : Deployment} {w mid : World} {request : SwapRequest} {isVirtual : Bool}
    {c : SwapContext} {m : FeeMode} {r : SwapResult2} {p : PoolState}
    (hc : d.validateSwap w request isVirtual = .ok c)
    (hcompute : d.computeSwap w request isVirtual c = .ok (m, r, p))
    (hsettle : d.settleSwap (w.withPool p) request isVirtual m r = .ok mid) :
    ∃ x, TradeMove d isVirtual x w mid := by
  obtain ⟨hdir, href, hopen⟩ := validateSwap_spec hc
  simp only [Deployment.computeSwap, bind_eq_ok, pure_eq_ok, Prod.mk.injEq] at hcompute
  obtain ⟨_, hpre, m, hm, r, hr, p, happly, rfl, rfl, rfl⟩ := hcompute
  obtain ⟨tracker, rfl⟩ := PoolState.updatePreSwap_spec hpre
  rw [hdir] at hm hr
  obtain ⟨hbase, hreferral⟩ := getFeeMode_buy hm
  rw [href] at hreferral
  have hresult := processSwapMode_spec hr
  have hfill := PoolState.getSwapResult2_fill hresult
  have happly' : PoolState.applySwapResultInternal { w.pool with volatilityTracker := tracker }
      d.config r.getSwapResult m .quoteToBase w.timestamp isVirtual = .ok p := by
    cases isVirtual with
    | true => exact happly
    | false =>
      rw [hdir] at happly
      exact happly
  obtain ⟨x, hof, rfl, hout, _⟩ := PoolState.applySwapResultInternal_spec happly'
  obtain ⟨hbaseIn, hquoteOut, hbaseOut⟩ := hof.buy rfl
  obtain ⟨hbaseFee, hquoteFee⟩ := hof.fees_total
  obtain ⟨hbv, hqv, es, hes, hmid⟩ := settleSwap_spec hfill hbase hreferral hsettle
  have hpool : mid.pool = w.pool.afterTrade x := by rw [hmid]; rfl
  have hinput : r.excludedFeeInputAmount = x.quoteIn + x.virtualIn := by
    cases isVirtual with
    | true =>
      obtain ⟨hq, hv⟩ := hof.virtual rfl rfl
      omega
    | false =>
      obtain ⟨hq, hv⟩ := hof.real rfl rfl
      omega
  refine ⟨x, ?_⟩
  exact
    { isOpen := hopen
      pool := hpool
      baseIn_eq := hbaseIn
      quoteOut_eq := hquoteOut
      quoteIn_eq := fun hv => (hof.virtual rfl hv).1
      virtualIn_eq := fun hv => (hof.real rfl hv).2
      baseOut_le := hout
      baseFee_le := by
        rw [hbaseFee, hbaseOut, curveOutput, SwapResult2.fees, hbase]
        cases m.feesOnInput
        · simp
          omega
        · simp
      baseVault := by rw [hbaseOut, hbaseFee]; exact hbv
      quoteVault := by rw [Nat.add_assoc, hquoteFee]; exact hqv
      baseSupply := by rw [hmid]; rfl
      isTransferHookRevoked := by rw [hmid]; rfl
      slot := by rw [hmid]; rfl
      timestamp := by rw [hmid]; rfl
      effects := ⟨es, hes, by rw [hmid]; rfl⟩
      result := ⟨tracker, c.mode, m, _, _, _, r, hresult, hof.next.symm, hinput, hbaseOut.symm⟩ }

/-- **A swap is a trade of an open sale, followed by the end of the sale or by nothing.**
Source: `instructions/swap/process_swap.rs` `process_swap` -/
theorem processSwap_spec {d : Deployment} {w w' : World} {request : SwapRequest}
    {isVirtual : Bool} (h : d.processSwap w request isVirtual = .ok w') :
    ∃ x mid, TradeMove d isVirtual x w mid ∧ Completion d mid w' := by
  simp only [Deployment.processSwap, bind_eq_ok] at h
  obtain ⟨c, hc, ⟨_, _, _⟩, hcompute, mid, hsettle, hcomplete⟩ := h
  obtain ⟨x, htrade⟩ := settled_spec hc hcompute hsettle
  exact ⟨x, mid, htrade, completeCurve_spec hcomplete⟩

end DynamicBondingCurve
