import DynamicBondingCurve.Fee.Inclusion
import DynamicBondingCurve.State.Walks

/-!
# What a swap result says

The three swap modes compute the amounts and the fees of a swap by different code. Every result
that one of them returns has the same shape:

* `SwapFill`: the amount with fees is the amount without them plus the fees, when they fall on
  the input; without a referral account none goes to one.
* `curveOutput`: what leaves the curve, fees on the output included.
* `Exchange`: the result follows a path along the curve worth exactly the amount without fees on
  one side and `curveOutput` on the other.
* `getSwapResult2_fill`, `getSwapResult2_exchange`: **every mode has both**.

`getFeeOnAmount_includeFees` says that at one rate the fee that is added on to an amount out is the
fee that is taken out of an amount in.
-/

namespace DynamicBondingCurve

open Library

/-- The three ways to ask for a swap.
Source: `instructions/swap/process_swap.rs` `SwapMode` -/
inductive SwapMode where
  | exactIn
  | partialFill
  | exactOut
  deriving DecidableEq, Repr

/-- The way to ask for a swap that a byte stands for.
Source: `instructions/swap/process_swap.rs` `SwapMode`, the conversion from its byte -/
def SwapMode.tryFrom : ℕ → Option SwapMode
  | 0 => some .exactIn
  | 1 => some .partialFill
  | 2 => some .exactOut
  | _ => none

/-- The parts of the fee of a swap.
Source: `state/virtual_pool.rs` `SwapResult2` -/
def SwapResult2.fees (r : SwapResult2) : ℕ := r.tradingFee + r.protocolFee + r.referralFee

/-- The amount that leaves the curve: the amount paid out and the fees taken from it.
Source: `state/virtual_pool.rs` `apply_swap_result_internal`, `actual_output_amount` -/
def curveOutput (m : FeeMode) (r : SwapResult2) : ℕ :=
  if m.feesOnInput then r.outputAmount else r.outputAmount + r.fees

/-- The amounts of a swap result fit together.
Source: `state/virtual_pool.rs`, the comments "that ensure .." of the three swap modes -/
structure SwapFill (m : FeeMode) (r : SwapResult2) : Prop where
  input : r.includedFeeInputAmount =
    r.excludedFeeInputAmount + if m.feesOnInput then r.fees else 0
  referral : m.hasReferral = false → r.referralFee = 0

namespace PoolState

variable {p : PoolState} {config : PoolConfig} {m : FeeMode} {dir : TradeDirection}
  {amount point : ℕ} {eligible : Bool} {r : SwapResult2}

/-- A fee that is added on, and its parts. -/
theorem includeFees_spec {numerator : ℕ} {hasReferral : Bool} {f : FeeOnAmountResult}
    (h : includeFees numerator amount hasReferral = .ok f) :
    f.amount = amount + (f.tradingFee + f.protocolFee + f.referralFee) ∧
      (hasReferral = false → f.referralFee = 0) := by
  simp only [includeFees, bind_eq_ok, pure_eq_ok] at h
  obtain ⟨⟨included, fee⟩, hinc, ⟨trading, protocol, referral⟩, hsplit, rfl⟩ := h
  obtain ⟨hsum, href⟩ := splitFees_spec hsplit
  have hamount := getIncludedFeeAmount_spec hinc
  exact ⟨by simp only; omega, href⟩

/-- **At one rate a fee that was added on is the fee that is taken out again**, in the same parts.
Source: `state/virtual_pool.rs`, `get_included_fee_amount` and then `split_fees`; `state/config.rs`
`get_fee_on_amount` -/
theorem getFeeOnAmount_includeFees {numerator : ℕ} {hasReferral : Bool} {f : FeeOnAmountResult}
    (h : includeFees numerator amount hasReferral = .ok f) :
    getFeeOnAmount numerator f.amount hasReferral = .ok { f with amount := amount } := by
  simp only [includeFees, bind_eq_ok, pure_eq_ok] at h
  obtain ⟨⟨included, fee⟩, hincluded, ⟨trading, protocol, referral⟩, hsplit, rfl⟩ := h
  rw [getFeeOnAmount_eq]
  exact bind_eq_ok.mpr ⟨_, getExcludedFeeAmount_included hincluded, bind_eq_ok.mpr
    ⟨_, hsplit, rfl⟩⟩

/-- The result of an exact input, and the walk that it comes from.
Source: `state/virtual_pool.rs` `get_swap_result_from_exact_input` -/
theorem getSwapResultFromExactInput_spec
    (h : p.getSwapResultFromExactInput config amount m dir point eligible = .ok r) :
    SwapFill m r ∧ r.includedFeeInputAmount = amount ∧
      ∃ s, p.calculateFromAmountIn config dir r.excludedFeeInputAmount = .ok s ∧
        s.amountLeft = 0 ∧ s.outputAmount = curveOutput m r ∧
        s.nextSqrtPrice = r.nextSqrtPrice := by
  simp only [getSwapResultFromExactInput, bind_eq_ok, exists_unit, require_eq_ok,
    pure_eq_ok] at h
  obtain ⟨numerator, _, input, hinput, s, hs, hleft, output, houtput, rfl⟩ := h
  cases hm : m.feesOnInput with
  | true =>
    simp only [hm, if_true, pure_eq_ok] at hinput houtput
    subst houtput
    obtain ⟨hsum, href⟩ := getFeeOnAmount_spec hinput
    refine ⟨⟨?_, href⟩, rfl, s, hs, hleft, ?_, rfl⟩
    · simp only [hm, if_true, SwapResult2.fees]
      omega
    · simp only [curveOutput, hm, if_true]
  | false =>
    simp only [hm, Bool.false_eq_true, if_false, pure_eq_ok] at hinput houtput
    subst hinput
    obtain ⟨hsum, href⟩ := getFeeOnAmount_spec houtput
    refine ⟨⟨?_, href⟩, rfl, s, hs, hleft, ?_, rfl⟩
    · simp only [hm, Bool.false_eq_true, if_false, withoutFees, Nat.add_zero]
    · simp only [curveOutput, hm, Bool.false_eq_true, if_false, SwapResult2.fees]
      omega

/-- What a partial fill keeps of the input, once the unused amount is known.
Source: `state/virtual_pool.rs` `get_swap_result_from_partial_input`, `included_fee_input_amount` -/
theorem partialInput_spec {input included : FeeOnAmountResult} {left actual : ℕ}
    (hinput : (if m.feesOnInput then
        input.amount + input.tradingFee + input.protocolFee + input.referralFee
      else input.amount) = amount)
    (href : m.hasReferral = false → input.referralFee = 0)
    (h : p.partialInput config amount m dir point eligible input left = .ok (actual, included)) :
    input.amount = actual + left ∧
      included.amount = actual + (if m.feesOnInput then
        included.tradingFee + included.protocolFee + included.referralFee else 0) ∧
      (m.feesOnInput = true → m.hasReferral = false → included.referralFee = 0) := by
  unfold partialInput at h
  split_ifs at h with hleft hm
  · simp only [bind_eq_ok, safeSub_eq_ok, pure_eq_ok, Prod.mk.injEq] at h
    obtain ⟨_, ⟨hle, rfl⟩, numerator, _, f, hf, rfl, rfl⟩ := h
    obtain ⟨hsum, href'⟩ := includeFees_spec hf
    exact ⟨(Nat.sub_add_cancel hle).symm, by rw [if_pos hm]; exact hsum, fun _ => href'⟩
  · simp only [bind_eq_ok, safeSub_eq_ok, pure_eq_ok, Prod.mk.injEq] at h
    obtain ⟨_, ⟨hle, rfl⟩, rfl, rfl⟩ := h
    exact ⟨(Nat.sub_add_cancel hle).symm, by rw [if_neg hm, Nat.add_zero],
      fun hyes => absurd hyes hm⟩
  · simp only [pure_eq_ok, Prod.mk.injEq] at h
    obtain ⟨rfl, rfl⟩ := h
    have hzero : left = 0 := not_not.mp hleft
    refine ⟨by rw [hzero, Nat.add_zero], ?_, fun _ => href⟩
    simp only
    split_ifs at hinput ⊢ <;> omega

/-- The result of a partial fill, and the walk that it comes from.
Source: `state/virtual_pool.rs` `get_swap_result_from_partial_input` -/
theorem getSwapResultFromPartialInput_spec
    (h : p.getSwapResultFromPartialInput config amount m dir point eligible = .ok r) :
    SwapFill m r ∧
      ∃ s, p.calculateFromAmountIn config dir (r.excludedFeeInputAmount + s.amountLeft) = .ok s ∧
        s.amountLeft = r.amountLeft ∧ s.outputAmount = curveOutput m r ∧
        s.nextSqrtPrice = r.nextSqrtPrice := by
  simp only [getSwapResultFromPartialInput, bind_eq_ok, pure_eq_ok] at h
  obtain ⟨numerator, _, input, hinput, s, hs, ⟨actual, included⟩, hpartial, output, houtput,
    rfl⟩ := h
  cases hm : m.feesOnInput with
  | true =>
    simp only [hm, if_true, pure_eq_ok] at hinput houtput
    subst houtput
    obtain ⟨hsum, href⟩ := getFeeOnAmount_spec hinput
    obtain ⟨hactual, hincluded, href'⟩ :=
      partialInput_spec (by rw [if_pos hm]; exact hsum) href hpartial
    refine ⟨⟨?_, href' hm⟩, s, by rw [← hactual]; exact hs, rfl, ?_, rfl⟩
    · simpa only [SwapResult2.fees] using hincluded
    · simp only [curveOutput, hm, if_true]
  | false =>
    simp only [hm, Bool.false_eq_true, if_false, pure_eq_ok] at hinput houtput
    subst hinput
    obtain ⟨hsum, href⟩ := getFeeOnAmount_spec houtput
    obtain ⟨hactual, hincluded, _⟩ :=
      partialInput_spec (by simp [hm, withoutFees]) (fun _ => rfl) hpartial
    refine ⟨⟨?_, href⟩, s, by rw [← hactual]; exact hs, rfl, ?_, rfl⟩
    · simpa only [hm, Bool.false_eq_true, if_false] using hincluded
    · simp only [curveOutput, hm, Bool.false_eq_true, if_false, SwapResult2.fees]
      omega

/-- The result of an exact output, and the walk that it comes from.
Source: `state/virtual_pool.rs` `get_swap_result_from_exact_output` -/
theorem getSwapResultFromExactOutput_spec
    (h : p.getSwapResultFromExactOutput config amount m dir point eligible = .ok r) :
    SwapFill m r ∧ r.outputAmount = amount ∧ r.nextSqrtPrice ≤ config.migrationSqrtPrice ∧
      ∃ s, p.calculateFromAmountOut config dir (curveOutput m r) = .ok s ∧
        s.amountIn = r.excludedFeeInputAmount ∧ s.nextSqrtPrice = r.nextSqrtPrice := by
  simp only [getSwapResultFromExactOutput, bind_eq_ok, exists_unit, require_eq_ok,
    pure_eq_ok] at h
  obtain ⟨output, houtput, s, hs, hle, input, hinput, rfl⟩ := h
  cases hm : m.feesOnInput with
  | true =>
    simp only [hm, if_true, pure_eq_ok, bind_eq_ok] at hinput houtput
    subst houtput
    obtain ⟨numerator, _, hinput⟩ := hinput
    obtain ⟨hsum, href⟩ := includeFees_spec hinput
    refine ⟨⟨?_, href⟩, rfl, hle, s, ?_, rfl, rfl⟩
    · simpa only [hm, if_true, SwapResult2.fees] using hsum
    · simpa only [curveOutput, hm, if_true, withoutFees] using hs
  | false =>
    simp only [hm, Bool.false_eq_true, if_false, pure_eq_ok, bind_eq_ok] at hinput houtput
    subst hinput
    obtain ⟨numerator, _, houtput⟩ := houtput
    obtain ⟨hsum, href⟩ := includeFees_spec houtput
    refine ⟨⟨?_, href⟩, rfl, hle, s, ?_, rfl, rfl⟩
    · simp only [hm, Bool.false_eq_true, if_false, Nat.add_zero]
    · simpa only [curveOutput, hm, Bool.false_eq_true, if_false, SwapResult2.fees, hsum] using hs

/-! ## The path of a result -/

/-- The result of the chosen mode.
Source: `instructions/swap/process_swap.rs` `process_swap`, the match on `swap_mode` -/
def getSwapResult2 (p : PoolState) (mode : SwapMode) (config : PoolConfig) (amount : ℕ)
    (m : FeeMode) (dir : TradeDirection) (point : ℕ) (eligible : Bool) : Result SwapResult2 :=
  match mode with
  | .exactIn => p.getSwapResultFromExactInput config amount m dir point eligible
  | .partialFill => p.getSwapResultFromPartialInput config amount m dir point eligible
  | .exactOut => p.getSwapResultFromExactOutput config amount m dir point eligible

variable (a : AcceptedConfig)

/-- The price lies on the part of the curve that is for sale.
Source: `state/config.rs` `PoolConfig`, the comments on `sqrt_start_price` and
`migration_sqrt_price` -/
def PriceInRange (p : PoolState) : Prop :=
  a.config.sqrtStartPrice ≤ p.sqrtPrice ∧ p.sqrtPrice ≤ a.config.migrationSqrtPrice

/-- The move of the price to `next` is a path along the curve that exchanges `input`, without
fees, for `output`, fees included.
Source: none: the abstract reading of a swap -/
def Exchange (p : PoolState) (dir : TradeDirection) (next input output : ℕ) : Prop :=
  match dir with
  | .quoteToBase => next ≤ a.config.migrationSqrtPrice ∧
      CurvePath a BuyMove p.sqrtPrice next (input, output)
  | .baseToQuote => a.config.sqrtStartPrice ≤ next ∧
      CurvePath a SellMove next p.sqrtPrice (output, input)

/-- An exchange keeps the price on the part of the curve that is for sale. -/
theorem Exchange.priceInRange {next input output : ℕ} (hp : PriceInRange a p)
    (h : Exchange a p dir next input output) :
    a.config.sqrtStartPrice ≤ next ∧ next ≤ a.config.migrationSqrtPrice := by
  cases dir with
  | baseToQuote => exact ⟨h.1, (h.2.le a.ascending).trans hp.2⟩
  | quoteToBase => exact ⟨hp.1.trans (h.2.le a.ascending), h.1⟩

/-- A calculator of an amount in exchanges what it used of the amount.
Source: `state/virtual_pool.rs`, the two calculators of an amount in -/
theorem calculateFromAmountIn_exchange {s : SwapAmountFromInput} (hp : PriceInRange a p)
    (h : p.calculateFromAmountIn a.config dir amount = .ok s) :
    ∃ used, amount = s.amountLeft + used ∧
      Exchange a p dir s.nextSqrtPrice used s.outputAmount := by
  cases dir with
  | baseToQuote =>
    obtain ⟨used, hused, hge, hpath⟩ :=
      calculateBaseToQuoteFromAmountIn_path a hp.1 (hp.2.trans a.migration_le_ladderTop) h
    exact ⟨used, hused, hge, hpath⟩
  | quoteToBase =>
    obtain ⟨used, hused, hle, hpath⟩ := calculateQuoteToBaseFromAmountIn_path a hp.1 hp.2 h
    exact ⟨used, hused, hle, hpath⟩

/-- A calculator of an amount out exchanges that amount.
Source: `state/virtual_pool.rs`, the two calculators of an amount out -/
theorem calculateFromAmountOut_exchange {s : SwapAmountFromOutput} (hp : PriceInRange a p)
    (hle : s.nextSqrtPrice ≤ a.config.migrationSqrtPrice)
    (h : p.calculateFromAmountOut a.config dir amount = .ok s) :
    Exchange a p dir s.nextSqrtPrice s.amountIn amount := by
  cases dir with
  | baseToQuote =>
    exact calculateBaseToQuoteFromAmountOut_path a hp.1 (hp.2.trans a.migration_le_ladderTop) h
  | quoteToBase => exact ⟨hle, calculateQuoteToBaseFromAmountOut_path a hp.1 h⟩

/-- **The amounts that a mode returns fit together.**
Source: `state/virtual_pool.rs`, the three swap modes -/
theorem getSwapResult2_fill {mode : SwapMode}
    (h : p.getSwapResult2 mode config amount m dir point eligible = .ok r) : SwapFill m r := by
  cases mode with
  | exactIn => exact (getSwapResultFromExactInput_spec h).1
  | partialFill => exact (getSwapResultFromPartialInput_spec h).1
  | exactOut => exact (getSwapResultFromExactOutput_spec h).1

/-- **The amounts that a mode returns follow the curve.**
Source: `state/virtual_pool.rs`, the three swap modes -/
theorem getSwapResult2_exchange {mode : SwapMode} (hp : PriceInRange a p)
    (h : p.getSwapResult2 mode a.config amount m dir point eligible = .ok r) :
    Exchange a p dir r.nextSqrtPrice r.excludedFeeInputAmount (curveOutput m r) := by
  cases mode with
  | exactIn =>
    obtain ⟨_, _, s, hs, hleft, hout, hnext⟩ := getSwapResultFromExactInput_spec h
    obtain ⟨used, hused, hex⟩ := calculateFromAmountIn_exchange a hp hs
    rw [hleft, Nat.zero_add] at hused
    rw [hout, hnext, ← hused] at hex
    exact hex
  | partialFill =>
    obtain ⟨_, s, hs, _, hout, hnext⟩ := getSwapResultFromPartialInput_spec h
    obtain ⟨used, hused, hex⟩ := calculateFromAmountIn_exchange a hp hs
    have hsame : used = r.excludedFeeInputAmount := by omega
    rw [hout, hnext, hsame] at hex
    exact hex
  | exactOut =>
    obtain ⟨_, _, hle, s, hs, hin, hnext⟩ := getSwapResultFromExactOutput_spec h
    rw [← hnext] at hle
    have hex := calculateFromAmountOut_exchange a hp hle hs
    rw [hin, hnext] at hex
    exact hex

end PoolState

end DynamicBondingCurve
