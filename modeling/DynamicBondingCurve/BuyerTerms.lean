import DynamicBondingCurve.TradingView
import DynamicBondingCurve.State.BuyWalks

/-!
# The terms of a buy

A buyer names a mode and two amounts. Whatever happens between the request and its execution, the
transfers of a swap that succeeds keep to them, and the buyer pays at least the price that the pool
stood at.

* `Bill`: what a buy is charged and what it is given; `Bill.transfers`: the transfers it makes.
* `Bill.KeepsTo`: the terms of each mode.
* `settleSwap_transfers`: the transfers of a swap are those of its bill.
* `Launch.swap_keeps_terms`: **every swap that succeeds moves what its terms allow, and no less is
  paid than the price before it asks for.**
-/

namespace DynamicBondingCurve

open Library

/-! ## Bills -/

/-- A transfer of tokens.
Source: `utils/token.rs` `transfer_token_from_user`, `transfer_token_from_pool_authority` -/
def Effect.MovesTokens : Effect → Prop
  | .received _ _ _ => True
  | .paid _ _ _ => True
  | _ => False

/-- What a buy is charged, and what it and its referral are given.
Source: `instructions/swap/process_swap.rs` `process_swap`, its transfers -/
structure Bill where
  input : ℕ
  output : ℕ
  referral : ℕ
  referralToken : Token
  deriving DecidableEq, Repr

namespace Bill

/-- The transfers of a buy, the latest first; a virtual one takes nothing in.
Source: `instructions/swap/process_swap.rs` `process_swap`, from the comment "send to reserve" to
the one "send to referral" -/
def transfers (b : Bill) (isVirtual : Bool) : List Effect :=
  Effect.positive b.referralToken .referralFee b.referral ++
    .paid .base .swapOutput b.output ::
      if isVirtual then [] else [.received .quote .swapInput b.input]

/-- The terms of each mode: an exact input, an input that may end with the sale, and an exact
output, each with the limit on the other side.
Source: `instructions/swap/swap_exact_in.rs`, `swap_partial_fill.rs`, `swap_exact_out.rs` -/
def KeepsTo (b : Bill) (params : SwapParameters2) (saleEnds : Prop) : SwapMode → Prop
  | .exactIn => b.input = params.amount0 ∧ params.amount1 ≤ b.output
  | .partialFill => (b.input = params.amount0 ∨ saleEnds) ∧ params.amount1 ≤ b.output
  | .exactOut => b.output = params.amount0 ∧ b.input ≤ params.amount1

end Bill

/-- The bill of a swap result.
Source: `instructions/swap/process_swap.rs` `process_swap`, its transfers -/
def SwapResult2.bill (r : SwapResult2) (m : FeeMode) : Bill :=
  { input := r.includedFeeInputAmount
    output := r.outputAmount
    referral := r.referralFee
    referralToken := if m.feesOnBaseToken then .base else .quote }

/-! ## The transfers -/

section Stages

variable {d : Deployment} {w w' : World} {request : SwapRequest} {isVirtual : Bool}
  {m : FeeMode} {r : SwapResult2}

/-- The checks take the mode from the request, and turn away the base token.
Source: `instructions/swap/process_swap.rs` `process_swap`, the checks -/
theorem validateSwap_request {c : SwapContext}
    (h : d.validateSwap w request isVirtual = .ok c) :
    SwapMode.tryFrom request.params.swapMode = some c.mode ∧ request.inputMint ≠ d.baseMint := by
  simp only [Deployment.validateSwap, bind_eq_ok, exists_unit, orThrow_eq_ok, require_eq_ok,
    pure_eq_ok] at h
  obtain ⟨mode, hmode, hbuy, _, _, _, _, _, _, rfl⟩ := h
  refine ⟨hmode, ?_⟩
  intro hsell
  rw [if_pos hsell] at hbuy
  cases hbuy

/-- **The transfers of a swap are those of its bill.**
Source: `instructions/swap/process_swap.rs` `process_swap`, its transfers -/
theorem settleSwap_transfers (hfill : SwapFill m r)
    (href : m.hasReferral = (!isVirtual && request.hasReferralAccount))
    (h : d.settleSwap w request isVirtual m r = .ok w') :
    w'.effects = (r.bill m).transfers isVirtual ++ w.effects ∧ w'.pool = w.pool := by
  simp only [Deployment.settleSwap, bind_eq_ok] at h
  obtain ⟨w1, hin, w2, hout, h⟩ := h
  simp only [World.pay_eq_ok] at hout
  obtain ⟨_, rfl⟩ := hout
  -- what was taken in
  have hw1 : w1.effects = (if isVirtual then [] else
      [.received .quote .swapInput r.includedFeeInputAmount]) ++ w.effects ∧
      w1.pool = w.pool := by
    cases isVirtual with
    | true =>
      rw [if_pos rfl, pure_eq_ok] at hin
      rw [← hin]
      exact ⟨rfl, rfl⟩
    | false =>
      simp only [Bool.false_eq_true, if_false, bind_eq_ok, exists_unit, pure_eq_ok] at hin
      obtain ⟨_, rfl⟩ := hin
      exact ⟨rfl, rfl⟩
  -- the referral is paid when there is something to pay
  have hnone : ¬ (¬ isVirtual = true ∧ request.hasReferralAccount = true) → r.referralFee = 0 := by
    intro hno
    apply hfill.referral
    rw [href]
    cases isVirtual with
    | true => rfl
    | false => simpa using hno
  have hpaid : w'.effects = Effect.positive (r.bill m).referralToken .referralFee r.referralFee ++
      (w1.paid .base .swapOutput r.outputAmount).effects ∧
      w'.pool = (w1.paid .base .swapOutput r.outputAmount).pool := by
    by_cases hpays : ¬ isVirtual = true ∧ request.hasReferralAccount = true ∧ r.referralFee > 0
    · rw [if_pos hpays] at h
      unfold Effect.positive SwapResult2.bill
      rw [if_pos hpays.2.2]
      split_ifs at h with hbase
      · rw [World.pay_eq_ok] at h
        obtain ⟨_, rfl⟩ := h
        exact ⟨by rw [if_pos hbase]; rfl, rfl⟩
      · rw [World.pay_eq_ok] at h
        obtain ⟨_, rfl⟩ := h
        exact ⟨by rw [if_neg hbase]; rfl, rfl⟩
    · rw [if_neg hpays, pure_eq_ok] at h
      have hzero : r.referralFee = 0 := by
        by_contra hne
        exact hpays (by
          by_contra hcon
          exact hne (hnone fun hboth => hcon ⟨hboth.1, hboth.2, Nat.pos_of_ne_zero hne⟩))
      rw [← h, hzero]
      exact ⟨rfl, rfl⟩
  refine ⟨?_, hpaid.2.trans hw1.2⟩
  rw [hpaid.1]
  unfold Bill.transfers
  rw [List.append_assoc, List.cons_append]
  exact congrArg (fun es => _ ++ .paid .base .swapOutput r.outputAmount :: es) hw1.1

end Stages

/-! ## The amounts -/

/-- Terms that allow for the end of the sale allow for all that follows from it. -/
theorem Bill.KeepsTo.imp {b : Bill} {params : SwapParameters2} {ends ends' : Prop}
    {mode : SwapMode} (h : b.KeepsTo params ends mode) (hends : ends → ends') :
    b.KeepsTo params ends' mode := by
  cases mode with
  | exactIn => exact h
  | partialFill => exact ⟨h.1.imp_right hends, h.2⟩
  | exactOut => exact h

namespace PoolState

variable (a : AcceptedConfig) {p : PoolState} {config : PoolConfig} {m : FeeMode}
  {dir : TradeDirection} {amount amount0 amount1 point : ℕ} {eligible : Bool} {r : SwapResult2}

/-- A partial fill that leaves nothing charges the whole amount.
Source: `state/virtual_pool.rs` `get_swap_result_from_partial_input`, the branch
`amount_left == 0` -/
theorem getSwapResultFromPartialInput_whole
    (h : p.getSwapResultFromPartialInput config amount m dir point eligible = .ok r)
    (hleft : r.amountLeft = 0) : r.includedFeeInputAmount = amount := by
  simp only [getSwapResultFromPartialInput, bind_eq_ok, pure_eq_ok] at h
  obtain ⟨_, _, input, _, s, _, ⟨actual, included⟩, hpartial, _, _, rfl⟩ := h
  change s.amountLeft = 0 at hleft
  rw [hleft, partialInput, if_neg (not_not.mpr rfl), pure_eq_ok, Prod.mk.injEq] at hpartial
  obtain ⟨_, rfl⟩ := hpartial
  rfl

/-- A partial fill that leaves something takes the price to the end of the curve.
Source: `state/virtual_pool.rs` `calculate_quote_to_base_from_amount_in`, the stop price -/
theorem getSwapResultFromPartialInput_rest (hp : p.PriceInRange a) (hamount : amount < 2 ^ 64)
    (h : p.getSwapResultFromPartialInput a.config amount m .quoteToBase point eligible = .ok r)
    (hleft : r.amountLeft ≠ 0) : r.nextSqrtPrice = a.config.migrationSqrtPrice := by
  simp only [getSwapResultFromPartialInput, bind_eq_ok, pure_eq_ok] at h
  obtain ⟨_, _, input, hinput, s, hs, _, _, _, _, rfl⟩ := h
  have hfit : input.amount < 2 ^ 64 := by
    split_ifs at hinput
    · have hsum := (getFeeOnAmount_spec hinput).1
      omega
    · rw [pure_eq_ok] at hinput
      subst hinput
      exact hamount
  obtain ⟨s', hs', _, _, _, hend⟩ := calculateQuoteToBaseFromAmountIn_bought a hp hfit
  obtain rfl : s = s' := Except.ok.inj (hs.symm.trans hs')
  exact hend.resolve_left hleft

/-- **Each mode keeps to its terms.**
Source: `instructions/swap/process_swap.rs` `process_swap`, the match on `swap_mode` -/
theorem processSwapMode_keepsTo {mode : SwapMode} {swapMode : ℕ} (hp : p.PriceInRange a)
    (hamount : amount0 < 2 ^ 64)
    (h : p.processSwapMode a.config mode amount0 amount1 m .quoteToBase point eligible = .ok r) :
    (r.bill m).KeepsTo ⟨amount0, amount1, swapMode⟩
      (r.nextSqrtPrice = a.config.migrationSqrtPrice) mode := by
  cases mode with
  | exactIn =>
    simp only [processSwapMode, processSwapExactIn, bind_eq_ok, exists_unit, require_eq_ok,
      pure_eq_ok] at h
    obtain ⟨_, hr, hlimit, rfl⟩ := h
    exact ⟨(getSwapResultFromExactInput_spec hr).2.1, hlimit⟩
  | partialFill =>
    simp only [processSwapMode, processSwapPartialFill, bind_eq_ok, exists_unit, require_eq_ok,
      pure_eq_ok] at h
    obtain ⟨r, hr, hlimit, rfl⟩ := h
    refine ⟨?_, hlimit⟩
    by_cases hleft : r.amountLeft = 0
    · exact .inl (getSwapResultFromPartialInput_whole hr hleft)
    · exact .inr (getSwapResultFromPartialInput_rest a hp hamount hr hleft)
  | exactOut =>
    simp only [processSwapMode, processSwapExactOut, bind_eq_ok, exists_unit, require_eq_ok,
      pure_eq_ok] at h
    obtain ⟨_, hr, hlimit, rfl⟩ := h
    exact ⟨(getSwapResultFromExactOutput_spec hr).2.1, hlimit⟩

end PoolState

/-! ## The price -/

/-- A move up pays at least the price below it.
Source: `curve.rs` `get_delta_amount_quote_unsigned`, `get_delta_amount_base_unsigned` -/
theorem BuyMove.price_le {L c e low : ℕ} {z : ℕ × ℕ} (hpos : 0 < low) (hlow : low ≤ c)
    (hle : c ≤ e) (h : BuyMove L c e z) : low ^ 2 * z.2 ≤ 2 ^ 128 * z.1 := by
  obtain ⟨hin, hout⟩ := h
  have hc : 0 < c := hpos.trans_le hlow
  have hden : 0 < c * e := Nat.mul_pos hc (hc.trans_le hle)
  rw [baseExact_eq_div hc hle, le_div_iff₀ (by exact_mod_cast hden)] at hout
  have hexact : z.2 * (c * e) ≤ quoteExact L c e := by exact_mod_cast hout
  calc low ^ 2 * z.2 = z.2 * (low * low) := by ring
    _ ≤ z.2 * (c * e) := by gcongr; exact hlow.trans hle
    _ ≤ quoteExact L c e := hexact
    _ ≤ 2 ^ 128 * quoteUp L c e := quoteExact_le_mul_quoteUp L c e
    _ ≤ 2 ^ 128 * z.1 := Nat.mul_le_mul_left _ hin

/-- **A buy pays at least the price that it begins at.**
Source: `state/virtual_pool.rs`, the two calculators of a buy -/
theorem AcceptedConfig.buy_price_le (a : AcceptedConfig) {low high input output : ℕ}
    (hpos : 0 < low) (h : PoolState.CurvePath a BuyMove low high (input, output)) :
    low ^ 2 * output ≤ 2 ^ 128 * input :=
  h.map_le_map a.ascending ((AddMonoidHom.mulLeft (low ^ 2)).comp (AddMonoidHom.snd ℕ ℕ))
    ((AddMonoidHom.mulLeft (2 ^ 128)).comp (AddMonoidHom.fst ℕ ℕ))
    (fun _ _ _ _ hlow hle hmove => hmove.price_le hpos hlow hle) le_rfl

/-- A pool at its last price has raised its threshold.
Source: `state/virtual_pool.rs` `is_curve_complete`; `params/liquidity_distribution.rs`
`get_migration_threshold_price` -/
theorem OnCurve.isCurveComplete {a : AcceptedConfig} {supply : ℕ} {p : PoolState}
    (h : OnCurve a supply p) (hstop : p.sqrtPrice = a.config.migrationSqrtPrice) :
    p.isCurveComplete a.config.migrationQuoteThreshold = true := by
  have hraised := h.raised
  rw [hstop, AcceptedConfig.raisedTo, a.threshold_eq_climb] at hraised
  have hlt := a.threshold_lt
  rw [isCurveComplete_iff]
  exact le_min hraised (Nat.le_sub_one_of_lt hlt)

/-! ## Launched pools -/

/-- What a buyer can rely on: its transfers are those of a bill that keeps to the terms, and the
price of the bill is not below the price before the swap.
Source: `instructions/swap/process_swap.rs` `process_swap` -/
structure TermsKept (d : Deployment) (request : SwapRequest) (isVirtual : Bool) (w w' : World)
    (mode : SwapMode) (b : Bill) (closing : List Effect) : Prop where
  ofRequest : SwapMode.tryFrom request.params.swapMode = some mode
  effects : w'.effects = closing ++ (b.transfers isVirtual ++ w.effects)
  noTokens : ∀ e ∈ closing, ¬ e.MovesTokens
  keepsTo : b.KeepsTo request.params
    (w'.pool.isCurveComplete d.config.migrationQuoteThreshold = true) mode
  price : w.pool.sqrtPrice ^ 2 * b.output ≤ 2 ^ 128 * b.input
  referral : isVirtual = true ∨ request.hasReferralAccount = false → b.referral = 0

/-- The end of the sale moves no token and takes nothing back from what was raised.
Source: `instructions/swap/process_swap.rs` `process_swap`, `curve_complete` -/
theorem Completion.closing {d : Deployment} {w w' : World} (h : Completion d w w') :
    ∃ closing, w'.effects = closing ++ w.effects ∧ (∀ e ∈ closing, ¬ e.MovesTokens) ∧
      w'.pool.isCurveComplete d.config.migrationQuoteThreshold =
        w.pool.isCurveComplete d.config.migrationQuoteThreshold := by
  cases h with
  | «open» => exact ⟨[], rfl, fun _ hmem => absurd hmem List.not_mem_nil, rfl⟩
  | complete =>
    refine ⟨_, List.append_cons _ _ _, ?_, rfl⟩
    intro e he
    rcases List.mem_append.mp he with hhook | hfinish
    · split_ifs at hhook
      · rw [List.mem_singleton.mp hhook]
        exact id
      · exact absurd hhook List.not_mem_nil
    · rw [List.mem_singleton.mp hfinish]
      exact id

namespace Launch

variable (l : Launch) (actions : List Action)

/-- What is computed keeps to the terms, at no lower price than the one before.
Source: `instructions/swap/process_swap.rs` `process_swap`, from `update_pre_swap` to
`apply_swap_result` -/
theorem computeSwap_bill {w : World} {request : SwapRequest} {isVirtual : Bool} {c : SwapContext}
    {m : FeeMode} {r : SwapResult2} {p : PoolState} (hrange : w.pool.PriceInRange l.accepted)
    (hdir : c.tradeDirection = .quoteToBase) (hamount : request.params.amount0 < 2 ^ 64)
    (h : l.deployment.computeSwap w request isVirtual c = .ok (m, r, p)) :
    SwapFill m r ∧ m.hasReferral = c.hasReferral ∧ p.sqrtPrice = r.nextSqrtPrice ∧
      (r.bill m).KeepsTo request.params (r.nextSqrtPrice = l.config.migrationSqrtPrice) c.mode ∧
      w.pool.sqrtPrice ^ 2 * r.outputAmount ≤ 2 ^ 128 * r.includedFeeInputAmount := by
  simp only [Deployment.computeSwap, bind_eq_ok, pure_eq_ok, Prod.mk.injEq] at h
  obtain ⟨_, hpre, m, hm, r, hr, p, happly, rfl, rfl, rfl⟩ := h
  obtain ⟨tracker, rfl⟩ := PoolState.updatePreSwap_spec hpre
  rw [hdir] at hm hr happly
  have happly' : PoolState.applySwapResultInternal { w.pool with volatilityTracker := tracker }
      l.deployment.config r.getSwapResult m .quoteToBase w.timestamp isVirtual = .ok p := by
    cases isVirtual <;> exact happly
  obtain ⟨x, hof, rfl, _, _⟩ := PoolState.applySwapResultInternal_spec happly'
  have hresult := processSwapMode_spec hr
  have hfill := PoolState.getSwapResult2_fill hresult
  refine ⟨hfill, (getFeeMode_buy hm).2, hof.next, PoolState.processSwapMode_keepsTo
    (p := { w.pool with volatilityTracker := tracker }) l.accepted hrange hamount hr, ?_⟩
  have hexchange := PoolState.getSwapResult2_exchange
    (p := { w.pool with volatilityTracker := tracker }) l.accepted hrange hresult
  have hpaid := l.accepted.buy_price_le (l.accepted.sqrtStartPrice_pos.trans_le hrange.1)
    hexchange.2
  -- the fees are paid on top, or taken from what is paid out
  have hout : r.outputAmount ≤ curveOutput m r := by
    unfold curveOutput
    split_ifs <;> omega
  have hin : r.excludedFeeInputAmount ≤ r.includedFeeInputAmount := by
    have hinput := hfill.input
    omega
  calc w.pool.sqrtPrice ^ 2 * r.outputAmount ≤ w.pool.sqrtPrice ^ 2 * curveOutput m r :=
        Nat.mul_le_mul_left _ hout
    _ ≤ 2 ^ 128 * r.excludedFeeInputAmount := hpaid
    _ ≤ 2 ^ 128 * r.includedFeeInputAmount := Nat.mul_le_mul_left _ hin

/-- A swap that succeeds keeps the terms of its request.
Source: `instructions/swap/process_swap.rs` `process_swap` -/
theorem processSwap_keeps_terms {request : SwapRequest} {isVirtual : Bool} {w' : World}
    (hamount : request.params.amount0 < 2 ^ 64)
    (h : l.deployment.processSwap (l.after actions) request isVirtual = .ok w') :
    ∃ mode b closing, TermsKept l.deployment request isVirtual (l.after actions) w' mode b
      closing := by
  have hw := l.onCurve actions
  simp only [Deployment.processSwap, bind_eq_ok] at h
  obtain ⟨c, hc, ⟨m, r, p⟩, hcompute, mid, hsettle, hcomplete⟩ := h
  obtain ⟨x, htrade⟩ := settled_spec hc hcompute hsettle
  obtain ⟨hdir, href, _⟩ := validateSwap_spec hc
  obtain ⟨hmode, _⟩ := validateSwap_request hc
  obtain ⟨hfill, hreferral, hnext, hkeeps, hprice⟩ :=
    l.computeSwap_bill hw.priceInRange hdir hamount hcompute
  rw [href] at hreferral
  obtain ⟨heffects, hpool⟩ := settleSwap_transfers hfill hreferral hsettle
  obtain ⟨closing, hclosing, hnone, hsame⟩ := (completeCurve_spec hcomplete).closing
  refine ⟨c.mode, r.bill m, closing, hmode, by rw [hclosing, heffects]; rfl, hnone, ?_, hprice, ?_⟩
  · apply hkeeps.imp
    intro hstop
    rw [hsame]
    refine (hw.of_trade htrade).isCurveComplete (Eq.trans ?_ hstop)
    rw [hpool]
    exact hnext
  · intro hno
    apply hfill.referral
    rw [hreferral]
    rcases hno with rfl | hno
    · rfl
    · rw [hno, Bool.and_false]

/-- **A swap that succeeds keeps to its terms.** After every run its transfers are exactly what its
mode was asked for, within the limit on the other side; a partial fill charges less than it was
given only when it ends the sale; no buyer pays less for a token than the price before the swap;
and only a referral that was named is paid.
Source: `instructions/swap/process_swap.rs` `process_swap`; `swap_exact_in.rs`,
`swap_partial_fill.rs`, `swap_exact_out.rs` -/
theorem swap_keeps_terms {a : Action} {request : SwapRequest} {isVirtual : Bool} {w' : World}
    (hswap : a.swap? = some (request, isVirtual)) (hamount : request.params.amount0 < 2 ^ 64)
    (h : l.deployment.step (l.after actions) a = .ok w') :
    ∃ mode b closing, TermsKept l.deployment request isVirtual (l.after actions) w' mode b
      closing :=
  l.processSwap_keeps_terms actions hamount ((step_swap_iff hswap).mp h).2

/-- A buy of a thousand base tokens after one of a hundred thousand quote tokens. -/
theorem swap_keeps_terms_plainLaunch :
    ∃ w' mode b closing, TermsKept plainLaunch.deployment (buyOf 2 1000 1000000) false
      (plainLaunch.after [.swap2 (buyOf 0 100000 0)]) w' mode b closing := by
  rcases hok : plainLaunch.deployment.step (plainLaunch.after [.swap2 (buyOf 0 100000 0)])
    (.swap2 (buyOf 2 1000 1000000)) with e | w'
  · have hisOk : (plainLaunch.deployment.step (plainLaunch.after [.swap2 (buyOf 0 100000 0)])
        (.swap2 (buyOf 2 1000 1000000))).isOk = true := by decide +kernel
    rw [hok] at hisOk
    cases hisOk
  · exact ⟨w', plainLaunch.swap_keeps_terms [.swap2 (buyOf 0 100000 0)] rfl (by decide) hok⟩

end Launch

end DynamicBondingCurve
