import DynamicBondingCurve.Backing

/-!
# Quotes off the chain

The development kit computes the result of a swap from the accounts alone, without the program.

* `quoteExactIn`, `quotePartialFill`, `quoteExactOut`: its three functions.
* `swapResult`: the checks and the calculation of `processSwap` that a quote stands for;
  `validateSwap_swapResult_iff`: what `processSwap` checks besides.
* `getSwapResult2_updatePreSwap`: **the update before a swap never changes its result**, because it
  leaves the volatility accumulator alone.
* `quote_agrees_when`: **when a quote agrees with the program**: on every buy whose update succeeds
  and on every trade that a shared check refuses, and never on a sell that is quoted.
-/

namespace DynamicBondingCurve

open Library

/-! ## The development kit -/

namespace Sdk

/-- An error of the development kit.
Source: `anyhow`, as the three functions use it: `ensure!`, `context` and `?` on a result of the
program -/
inductive QuoteError where
  | message (text : String)
  | context (text : String)
  | program (fault : Fault)
  deriving DecidableEq, Repr

/-- A check of the development kit, with the text of its failure.
Source: `ensure!` -/
def ensureMessage (c : Prop) [Decidable c] (text : String) : Except QuoteError Unit :=
  require c (.message text)

/-- A result of the program in the development kit.
Source: the operator `?` on a result of the program -/
def fromProgram {α : Type} (r : Result α) : Except QuoteError α :=
  match r with
  | .ok a => .ok a
  | .error fault => .error (.program fault)

/-- The development kit takes over what the program returns. -/
theorem fromProgram_eq_ok {α : Type} {r : Result α} {a : α} :
    fromProgram r = .ok a ↔ r = .ok a := by
  rcases r with fault | b
  · exact ⟨fun h => (by cases h), fun h => by cases h⟩
  · exact ⟨fun h => (by cases h; rfl), fun h => by cases h; rfl⟩

/-- The body that the three functions share; they differ in the calculation, which `mode` chooses,
and the last passes no referral.
Source: `dynamic-bonding-curve-sdk/src/quote_exact_in.rs` `quote_exact_in` -/
def quoteMode (mode : SwapMode) (pool : PoolState) (config : PoolConfig) (swapBaseForQuote : Bool)
    (currentTimestamp currentSlot amount : ℕ) (hasReferral eligible : Bool) :
    Except QuoteError SwapResult2 := do
  ensureMessage (pool.isSaleComplete config.migrationQuoteThreshold currentTimestamp = false)
    "virtual pool is completed"
  ensureMessage (amount > 0) "amount is zero"
  let activationType ← orThrow (ActivationType.tryFrom config.activationType)
    (QuoteError.context "invalid activation type")
  let currentPoint := match activationType with
    | .slot => currentSlot
    | .timestamp => currentTimestamp
  let tradeDirection : TradeDirection := if swapBaseForQuote then .baseToQuote else .quoteToBase
  let feeMode ← fromProgram (FeeMode.getFeeMode config.collectFeeMode tradeDirection hasReferral)
  fromProgram (pool.getSwapResult2 mode config amount feeMode tradeDirection currentPoint eligible)

/-- The quote of an exact input.
Source: `dynamic-bonding-curve-sdk/src/quote_exact_in.rs` `quote_exact_in` -/
def quoteExactIn (pool : PoolState) (config : PoolConfig) (swapBaseForQuote : Bool)
    (currentTimestamp currentSlot inAmount : ℕ) (hasReferral eligible : Bool) :
    Except QuoteError SwapResult2 :=
  quoteMode .exactIn pool config swapBaseForQuote currentTimestamp currentSlot inAmount hasReferral
    eligible

/-- The quote of a partial fill.
Source: `dynamic-bonding-curve-sdk/src/quote_partial_fill.rs` `quote_partial_fill` -/
def quotePartialFill (pool : PoolState) (config : PoolConfig) (swapBaseForQuote : Bool)
    (currentTimestamp currentSlot inAmount : ℕ) (hasReferral eligible : Bool) :
    Except QuoteError SwapResult2 :=
  quoteMode .partialFill pool config swapBaseForQuote currentTimestamp currentSlot inAmount
    hasReferral eligible

/-- The quote of an exact output, which has no referral.
Source: `dynamic-bonding-curve-sdk/src/quote_exact_out.rs` `quote_exact_out` -/
def quoteExactOut (pool : PoolState) (config : PoolConfig) (swapBaseForQuote : Bool)
    (currentTimestamp currentSlot outAmount : ℕ) (eligible : Bool) :
    Except QuoteError SwapResult2 :=
  quoteMode .exactOut pool config swapBaseForQuote currentTimestamp currentSlot outAmount false
    eligible

/-- The function of the development kit for a mode.
Source: `dynamic-bonding-curve-sdk/src/lib.rs` -/
def quote (mode : SwapMode) (pool : PoolState) (config : PoolConfig) (swapBaseForQuote : Bool)
    (currentTimestamp currentSlot amount : ℕ) (hasReferral eligible : Bool) :
    Except QuoteError SwapResult2 :=
  match mode with
  | .exactIn =>
      quoteExactIn pool config swapBaseForQuote currentTimestamp currentSlot amount hasReferral
        eligible
  | .partialFill =>
      quotePartialFill pool config swapBaseForQuote currentTimestamp currentSlot amount hasReferral
        eligible
  | .exactOut =>
      quoteExactOut pool config swapBaseForQuote currentTimestamp currentSlot amount eligible

end Sdk

/-! ## The part of the program that a quote stands for -/

/-- The checks of a swap on its direction, its amount and the state of the sale, and then its
calculation: accounts, slippage and the check of the other instructions are left out.
Source: `instructions/swap/process_swap.rs` `process_swap`, up to the match on `swap_mode` -/
def swapResult (mode : SwapMode) (pool : PoolState) (config : PoolConfig)
    (tradeDirection : TradeDirection) (currentTimestamp currentSlot amount : ℕ)
    (hasReferral eligible : Bool) : Result SwapResult2 := do
  ensure (tradeDirection = .quoteToBase) .sellDisabled
  ensure (amount > 0) .amountIsZero
  let activationType ← orThrow (ActivationType.tryFrom config.activationType)
    (Fault.error .invalidActivationType)
  let currentPoint := match activationType with
    | .slot => currentSlot
    | .timestamp => currentTimestamp
  ensure (pool.isSaleComplete config.migrationQuoteThreshold currentTimestamp = false)
    .poolIsCompleted
  let pool ← pool.updatePreSwap config currentTimestamp
  let feeMode ← FeeMode.getFeeMode config.collectFeeMode tradeDirection hasReferral
  pool.getSwapResult2 mode config amount feeMode tradeDirection currentPoint eligible

section Program

variable {d : Deployment} {w : World} {request : SwapRequest} {isVirtual : Bool}
  {mode : SwapMode} {r : SwapResult2}

/-- **What `processSwap` checks besides.** A request passes the checks and has a result exactly when
`swapResult` has it, the accounts of a virtual swap are right and a rate limiter is content with the
other instructions.
Source: `instructions/swap/process_swap.rs` `process_swap`, up to the match on `swap_mode` -/
theorem validateSwap_swapResult_iff (hmode : SwapMode.tryFrom request.params.swapMode = some mode) :
    (∃ c p feeMode, d.validateSwap w request isVirtual = .ok c ∧
        w.pool.updatePreSwap d.config w.timestamp = .ok p ∧
        FeeMode.getFeeMode d.config.collectFeeMode c.tradeDirection c.hasReferral = .ok feeMode ∧
        p.getSwapResult2 c.mode d.config request.params.amount0 feeMode c.tradeDirection
          c.currentPoint c.eligible = .ok r) ↔
      swapResult mode w.pool d.config
          (if request.inputMint = d.baseMint then .baseToQuote else .quoteToBase) w.timestamp w.slot
          request.params.amount0 (!isVirtual && request.hasReferralAccount)
          (d.config.isFirstSwapWithMinFeeEnabled && w.pool.isFirstSwap &&
            !(!isVirtual && request.hasReferralAccount) && request.containsInitializePool) = .ok r ∧
        (isVirtual = true →
          request.inputMint = d.config.quoteMint ∧ request.hasReferralAccount = false) ∧
        ∃ point, w.getCurrentPoint d.config.activationType = .ok point ∧
          d.validateRateLimiter w request .quoteToBase point = .ok () := by
  have hvirtual : (if isVirtual = true then (do
        ensure (request.inputMint = d.config.quoteMint) .invalidInput
        ensure (request.hasReferralAccount = false) .invalidInput : Result Unit)
      else pure ()) = .ok () ↔ (isVirtual = true →
        request.inputMint = d.config.quoteMint ∧ request.hasReferralAccount = false) := by
    cases isVirtual with
    | true => simp only [if_true, bind_eq_ok, exists_unit, require_eq_ok, forall_const]
    | false => simp [pure_eq_ok]
  simp only [Deployment.validateSwap, swapResult, bind_eq_ok, exists_unit, require_eq_ok,
    orThrow_eq_ok, pure_eq_ok, World.getCurrentPoint, hmode, hvirtual]
  constructor
  · rintro ⟨c, p, feeMode, ⟨_, hm, hdir, haccounts, hamount, point, ⟨activation, hact, rfl⟩, hlimit,
      hopen, rfl⟩, hp, hfee, hr⟩
    cases hm
    simp only [hdir] at hlimit
    exact ⟨⟨hdir, hamount, activation, hact, hopen, p, hp, feeMode, hfee, hr⟩, haccounts, _,
      ⟨activation, hact, rfl⟩, hlimit⟩
  · rintro ⟨⟨hdir, hamount, activation, hact, hopen, p, hp, feeMode, hfee, hr⟩, haccounts, point,
      ⟨activation', hact', rfl⟩, hlimit⟩
    cases hact.symm.trans hact'
    exact ⟨_, p, feeMode, ⟨mode, rfl, hdir, haccounts, hamount, _, ⟨activation, hact, rfl⟩,
      by rw [hdir]; exact hlimit, hopen, rfl⟩, hp, hfee, hr⟩

end Program

/-! ## The update before a swap -/

namespace PoolState

variable {p p' : PoolState} {config : PoolConfig} {timestamp : ℕ}

/-- The update before a swap has a result: it decays the volatility accumulator only inside the
window between the filter and the decay period, and there its product must fit.
Source: `state/fee.rs` `update_references` -/
def CanUpdatePreSwap (p : PoolState) (config : PoolConfig) (currentTimestamp : ℕ) : Prop :=
  config.poolFees.dynamicFee.isDynamicFeeEnable = true →
    config.poolFees.dynamicFee.filterPeriod ≤
      currentTimestamp - p.volatilityTracker.lastUpdateTimestamp →
    currentTimestamp - p.volatilityTracker.lastUpdateTimestamp <
      config.poolFees.dynamicFee.decayPeriod →
    p.volatilityTracker.volatilityAccumulator * config.poolFees.dynamicFee.reductionFactor < 2 ^ 128

/-- Whether the update before a swap succeeds is decided by the tracker and the clock. -/
instance : Decidable (p.CanUpdatePreSwap config timestamp) := by
  unfold CanUpdatePreSwap
  exact inferInstance

/-- The update before a swap leaves the volatility accumulator alone.
Source: `state/fee.rs` `update_references` -/
theorem updatePreSwap_accumulator (h : p.updatePreSwap config timestamp = .ok p') :
    ∃ tracker, p' = { p with volatilityTracker := tracker } ∧
      tracker.volatilityAccumulator = p.volatilityTracker.volatilityAccumulator := by
  unfold updatePreSwap at h
  split_ifs at h with hdynamic
  · simp only [bind_eq_ok, pure_eq_ok] at h
    obtain ⟨tracker, htracker, rfl⟩ := h
    refine ⟨tracker, rfl, ?_⟩
    unfold VolatilityTracker.updateReferences at htracker
    simp only at htracker
    split_ifs at htracker with hfilter hdecay
    · simp only [bind_eq_ok, pure_eq_ok] at htracker
      obtain ⟨_, _, _, _, rfl⟩ := htracker
      rfl
    · rw [pure_eq_ok] at htracker
      rw [← htracker]
    · rw [pure_eq_ok] at htracker
      rw [← htracker]
  · rw [pure_eq_ok] at h
    exact ⟨p.volatilityTracker, h.symm, rfl⟩

/-- When the update before a swap succeeds.
Source: `state/virtual_pool.rs` `update_pre_swap` -/
theorem updatePreSwap_isOk_iff :
    (∃ p', p.updatePreSwap config timestamp = .ok p') ↔ p.CanUpdatePreSwap config timestamp := by
  unfold updatePreSwap CanUpdatePreSwap
  split_ifs with hdynamic
  · simp only [VolatilityTracker.updateReferences, bind_eq_ok, pure_eq_ok]
    split_ifs with hfilter hdecay
    · simp only [bind_eq_ok, safeMul_eq_ok, safeDiv_eq_ok, pure_eq_ok]
      constructor
      · rintro ⟨_, _, ⟨_, ⟨hfit, _⟩, _⟩, _⟩ _ _ _
        exact hfit
      · intro hfit
        exact ⟨_, _, ⟨_, ⟨hfit hdynamic hfilter hdecay, rfl⟩, _,
          ⟨by norm_num [BASIS_POINT_MAX], rfl⟩, rfl⟩, rfl⟩
    · simp only [pure_eq_ok]
      exact ⟨fun _ _ _ h => absurd h hdecay, fun _ => ⟨_, _, rfl, rfl⟩⟩
    · simp only [pure_eq_ok]
      exact ⟨fun _ _ h => absurd h hfilter, fun _ => ⟨_, _, rfl, rfl⟩⟩
  · simp only [pure_eq_ok]
    exact ⟨fun _ h => absurd h hdynamic, fun _ => ⟨_, rfl⟩⟩

/-- The total fee reads only the accumulator of the tracker.
Source: `state/config.rs` `get_variable_fee_numerator` -/
theorem getVariableFeeNumerator_congr {c : DynamicFeeConfig} {t t' : VolatilityTracker}
    (h : t.volatilityAccumulator = t'.volatilityAccumulator) :
    c.getVariableFeeNumerator t = c.getVariableFeeNumerator t' := by
  unfold DynamicFeeConfig.getVariableFeeNumerator
  rw [h]

/-- **The update before a swap never changes its result.**
Source: `state/fee.rs` `update_references`, the comment "so quoting won't be affected" -/
theorem getSwapResult2_updatePreSwap {mode : SwapMode} {amount point : ℕ} {m : FeeMode}
    {dir : TradeDirection} {eligible : Bool} (h : p.updatePreSwap config timestamp = .ok p') :
    p'.getSwapResult2 mode config amount m dir point eligible =
      p.getSwapResult2 mode config amount m dir point eligible := by
  obtain ⟨tracker, rfl, hsame⟩ := updatePreSwap_accumulator h
  have hincluded : ∀ amount, tradeFeeNumeratorFromIncluded { p with volatilityTracker := tracker }
      config amount dir point eligible =
        p.tradeFeeNumeratorFromIncluded config amount dir point eligible := by
    intro amount
    simp only [tradeFeeNumeratorFromIncluded,
      PoolFeesConfig.getTotalFeeNumeratorFromIncludedFeeAmount,
      PoolFeesConfig.getTotalFeeNumerator, getVariableFeeNumerator_congr hsame]
  have hexcluded : ∀ amount, tradeFeeNumeratorFromExcluded { p with volatilityTracker := tracker }
      config amount dir point eligible =
        p.tradeFeeNumeratorFromExcluded config amount dir point eligible := by
    intro amount
    simp only [tradeFeeNumeratorFromExcluded,
      PoolFeesConfig.getTotalFeeNumeratorFromExcludedFeeAmount,
      PoolFeesConfig.getTotalFeeNumerator, getVariableFeeNumerator_congr hsame]
  cases mode with
  | exactIn =>
    simp only [getSwapResult2, getSwapResultFromExactInput, hincluded]
    rfl
  | partialFill =>
    simp only [getSwapResult2, getSwapResultFromPartialInput, partialInput, hincluded, hexcluded]
    rfl
  | exactOut =>
    simp only [getSwapResult2, getSwapResultFromExactOutput, hexcluded]
    rfl

end PoolState

/-! ## When a quote agrees -/

section Agreement

variable (mode : SwapMode) (pool : PoolState) (config : PoolConfig) (swapBaseForQuote : Bool)
  (currentTimestamp currentSlot amount : ℕ) (hasReferral eligible : Bool)

/-- The direction of a quote.
Source: `dynamic-bonding-curve-sdk/src/quote_exact_in.rs` `quote_exact_in` -/
def tradeDirectionOf : TradeDirection := if swapBaseForQuote then .baseToQuote else .quoteToBase

/-- The three functions run one body; the one for an amount out passes no referral.
Source: `dynamic-bonding-curve-sdk/src/quote_exact_out.rs` `quote_exact_out` -/
theorem quote_eq_quoteMode :
    Sdk.quote mode pool config swapBaseForQuote currentTimestamp currentSlot amount hasReferral
        eligible =
      Sdk.quoteMode mode pool config swapBaseForQuote currentTimestamp currentSlot amount
        (hasReferral && mode != .exactOut) eligible := by
  cases mode with
  | exactIn => rw [Sdk.quote, Sdk.quoteExactIn,
      show (SwapMode.exactIn != .exactOut) = true from rfl, Bool.and_true]
  | partialFill => rw [Sdk.quote, Sdk.quotePartialFill,
      show (SwapMode.partialFill != .exactOut) = true from rfl, Bool.and_true]
  | exactOut => rw [Sdk.quote, Sdk.quoteExactOut,
      show (SwapMode.exactOut != .exactOut) = false from rfl, Bool.and_false]

/-- **The program gives the result that is quoted, on a buy whose update succeeds, and no other.**
Source: `instructions/swap/process_swap.rs` `process_swap`;
`dynamic-bonding-curve-sdk/src/quote_exact_in.rs` `quote_exact_in` -/
theorem swapResult_eq_ok_iff (r : SwapResult2) :
    swapResult mode pool config (tradeDirectionOf swapBaseForQuote) currentTimestamp currentSlot
        amount hasReferral eligible = .ok r ↔
      (swapBaseForQuote = false ∧ pool.CanUpdatePreSwap config currentTimestamp) ∧
        Sdk.quoteMode mode pool config swapBaseForQuote currentTimestamp currentSlot amount
          hasReferral eligible = .ok r := by
  have hdirection : tradeDirectionOf swapBaseForQuote = .quoteToBase ↔
      swapBaseForQuote = false := by
    cases swapBaseForQuote with
    | true => exact ⟨fun h => (by cases h), fun h => by cases h⟩
    | false => exact ⟨fun _ => rfl, fun _ => rfl⟩
  simp only [swapResult, Sdk.quoteMode, Sdk.ensureMessage, bind_eq_ok, exists_unit, require_eq_ok,
    orThrow_eq_ok, Sdk.fromProgram_eq_ok, hdirection]
  constructor
  · rintro ⟨hbuy, hamount, activation, hact, hopen, p, hp, feeMode, hfee, hr⟩
    rw [PoolState.getSwapResult2_updatePreSwap hp] at hr
    exact ⟨⟨hbuy, PoolState.updatePreSwap_isOk_iff.mp ⟨p, hp⟩⟩, hopen, hamount, activation, hact,
      feeMode, hfee, hr⟩
  · rintro ⟨⟨hbuy, hupdate⟩, hopen, hamount, activation, hact, feeMode, hfee, hr⟩
    obtain ⟨p, hp⟩ := PoolState.updatePreSwap_isOk_iff.mpr hupdate
    refine ⟨hbuy, hamount, activation, hact, hopen, p, hp, feeMode, hfee, ?_⟩
    rw [PoolState.getSwapResult2_updatePreSwap hp]
    exact hr

/-- A check that the development kit shares with the program refuses the trade.
Source: `dynamic-bonding-curve-sdk/src/quote_exact_in.rs` `quote_exact_in`, its `ensure!` and
`context`; `state/fee.rs` `get_fee_mode` -/
inductive GuardRefuses : Prop where
  | saleComplete
      (h : pool.isSaleComplete config.migrationQuoteThreshold currentTimestamp = true)
  | noAmount (h : amount = 0)
  | activationType (h : ActivationType.tryFrom config.activationType = none)
  | collectFeeMode (h : CollectFeeMode.tryFrom config.collectFeeMode = none)

variable {pool config currentTimestamp amount} in
/-- A trade that a shared check refuses is not quoted.
Source: `dynamic-bonding-curve-sdk/src/quote_exact_in.rs` `quote_exact_in` -/
theorem GuardRefuses.quoteMode_ne (hguard : GuardRefuses pool config currentTimestamp amount)
    (r : SwapResult2) :
    Sdk.quoteMode mode pool config swapBaseForQuote currentTimestamp currentSlot amount hasReferral
      eligible ≠ .ok r := by
  intro hr
  simp only [Sdk.quoteMode, Sdk.ensureMessage, bind_eq_ok, exists_unit, require_eq_ok,
    orThrow_eq_ok, Sdk.fromProgram_eq_ok, FeeMode.getFeeMode] at hr
  obtain ⟨hopen, hamount, activation, hact, _, ⟨feeMode, hfee, _⟩, _⟩ := hr
  cases hguard with
  | saleComplete h => exact absurd (h.symm.trans hopen) (by decide)
  | noAmount h => exact absurd h (Nat.pos_iff_ne_zero.mp hamount)
  | activationType h => exact absurd (h.symm.trans hact) (by simp)
  | collectFeeMode h => exact absurd (h.symm.trans hfee) (by simp)

/-- **When a quote agrees with the program.** For every state, configuration, clock, direction,
amount and flag: on a buy whose update succeeds, and on every trade that a shared check refuses, the
function of the development kit has exactly the results that the program has for the same mode; and
on every trade that is quoted it has them only so.
Source: `dynamic-bonding-curve-sdk/src/quote_exact_in.rs` `quote_exact_in`, `quote_partial_fill.rs`
`quote_partial_fill`, `quote_exact_out.rs` `quote_exact_out`;
`instructions/swap/process_swap.rs` `process_swap` -/
theorem quote_agrees_when :
    ((swapBaseForQuote = false ∧ pool.CanUpdatePreSwap config currentTimestamp) ∨
        GuardRefuses pool config currentTimestamp amount →
      ∀ r, Sdk.quote mode pool config swapBaseForQuote currentTimestamp currentSlot amount
            hasReferral eligible = .ok r ↔
          swapResult mode pool config (tradeDirectionOf swapBaseForQuote) currentTimestamp
            currentSlot amount (hasReferral && mode != .exactOut) eligible = .ok r) ∧
      ∀ r, Sdk.quote mode pool config swapBaseForQuote currentTimestamp currentSlot amount
            hasReferral eligible = .ok r →
        ((∀ r', Sdk.quote mode pool config swapBaseForQuote currentTimestamp currentSlot amount
              hasReferral eligible = .ok r' ↔
            swapResult mode pool config (tradeDirectionOf swapBaseForQuote) currentTimestamp
              currentSlot amount (hasReferral && mode != .exactOut) eligible = .ok r') ↔
          swapBaseForQuote = false ∧ pool.CanUpdatePreSwap config currentTimestamp) := by
  simp only [swapResult_eq_ok_iff, quote_eq_quoteMode]
  refine ⟨?_, fun r hr => ?_⟩
  · rintro (hbuy | hguard) r
    · exact ⟨fun hr => ⟨hbuy, hr⟩, And.right⟩
    · have hnone := hguard.quoteMode_ne mode swapBaseForQuote currentSlot
        (hasReferral && mode != .exactOut) eligible r
      exact ⟨fun hr => absurd hr hnone, fun hr => absurd hr.2 hnone⟩
  · constructor
    · intro hagrees
      exact ((hagrees r).mp hr).1
    · intro hbuy r'
      exact ⟨fun hr' => ⟨hbuy, hr'⟩, And.right⟩

end Agreement

/-- After a buy on a launch without a dynamic fee, a further buy is quoted and the quote agrees. -/
theorem quote_agrees_when_plainLaunch :
    let pool := (Launch.plainLaunch.after [.swap2 (buyOf 0 100000 0)]).pool
    (Sdk.quote .exactIn pool Launch.plainLaunch.config false 1 1 1000 false false).toOption.isSome =
        true ∧
      ∀ r, Sdk.quote .exactIn pool Launch.plainLaunch.config false 1 1 1000 false false = .ok r ↔
        swapResult .exactIn pool Launch.plainLaunch.config (tradeDirectionOf false) 1 1 1000
          (false && SwapMode.exactIn != .exactOut) false = .ok r :=
  ⟨by decide +kernel, (quote_agrees_when .exactIn _ _ false 1 1 1000 false false).1
    (.inl ⟨rfl, by decide +kernel⟩)⟩

/-- After a buy, a sell of a thousand base tokens is quoted, and the program rejects it. -/
theorem quote_agrees_false :
    ¬ ∀ (mode : SwapMode) (pool : PoolState) (config : PoolConfig) (swapBaseForQuote : Bool)
      (currentTimestamp currentSlot amount : ℕ) (hasReferral eligible : Bool) (r : SwapResult2),
      Sdk.quote mode pool config swapBaseForQuote currentTimestamp currentSlot amount hasReferral
          eligible = .ok r ↔
        swapResult mode pool config (tradeDirectionOf swapBaseForQuote) currentTimestamp currentSlot
          amount (hasReferral && mode != .exactOut) eligible = .ok r := by
  intro hclaim
  have hquoted : (Sdk.quote .exactIn
      (Launch.plainLaunch.after [.swap2 (buyOf 0 100000 0)]).pool Launch.plainLaunch.config true 1 1
      1000 false false).toOption.isSome = true := by decide +kernel
  have hrejected : ∀ r, swapResult .exactIn
      (Launch.plainLaunch.after [.swap2 (buyOf 0 100000 0)]).pool Launch.plainLaunch.config
      (tradeDirectionOf true) 1 1 1000 (false && SwapMode.exactIn != .exactOut) false ≠ .ok r := by
    intro r hr
    rw [swapResult_eq_ok_iff] at hr
    exact absurd hr.1.1 (by decide)
  cases hquote : Sdk.quote .exactIn (Launch.plainLaunch.after [.swap2 (buyOf 0 100000 0)]).pool
      Launch.plainLaunch.config true 1 1 1000 false false with
  | error e =>
    rw [hquote] at hquoted
    cases hquoted
  | ok r => exact hrejected r ((hclaim _ _ _ _ _ _ _ _ _ r).mp hquote)

end DynamicBondingCurve
