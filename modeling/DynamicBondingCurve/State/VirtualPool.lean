import DynamicBondingCurve.State.Config

/-!
# The state of a pool

* the four calculators `calculate*`: the curve walked up by a buy and down by a sell, for an
  amount in or an amount out.
* `getSwapResultFromExactInput`, `getSwapResultFromPartialInput`,
  `getSwapResultFromExactOutput`: the three swap modes, with their fees.
* `applySwapResultInternal`: the state after a swap.
* the claims of fees, the surplus and its shares, the predicates on the completion of the sale.
-/

namespace DynamicBondingCurve

open Library

/-! ## The account -/

/-- What a pool counts of its fees.
Source: `state/virtual_pool.rs` `PoolMetrics` -/
structure PoolMetrics where
  totalProtocolBaseFee : ℕ
  totalProtocolQuoteFee : ℕ
  totalTradingBaseFee : ℕ
  totalTradingQuoteFee : ℕ
  deriving DecidableEq, Repr, Inhabited

/-- The counters of a token grow with the fees of a trade.
Source: `state/virtual_pool.rs` `accumulate_fee` -/
def PoolMetrics.accumulateFee (m : PoolMetrics) (protocolFee tradingFee : ℕ)
    (isBaseToken : Bool) : Result PoolMetrics :=
  if isBaseToken then do
    let totalProtocolBaseFee ← safeAdd 64 m.totalProtocolBaseFee protocolFee
    let totalTradingBaseFee ← safeAdd 64 m.totalTradingBaseFee tradingFee
    pure { m with
      totalProtocolBaseFee := totalProtocolBaseFee
      totalTradingBaseFee := totalTradingBaseFee }
  else do
    let totalProtocolQuoteFee ← safeAdd 64 m.totalProtocolQuoteFee protocolFee
    let totalTradingQuoteFee ← safeAdd 64 m.totalTradingQuoteFee tradingFee
    pure { m with
      totalProtocolQuoteFee := totalProtocolQuoteFee
      totalTradingQuoteFee := totalTradingQuoteFee }

/-- The state of a pool.
Source: `state/virtual_pool.rs` `PoolState` -/
structure PoolState where
  volatilityTracker : VolatilityTracker
  creator : Pubkey
  baseReserve : ℕ
  quoteReserve : ℕ
  protocolBaseFee : ℕ
  protocolQuoteFee : ℕ
  partnerBaseFee : ℕ
  partnerQuoteFee : ℕ
  sqrtPrice : ℕ
  activationPoint : ℕ
  isMigrated : ℕ
  isPartnerWithdrawSurplus : ℕ
  isProtocolWithdrawSurplus : ℕ
  migrationProgress : MigrationProgress
  isWithdrawLeftover : ℕ
  isCreatorWithdrawSurplus : ℕ
  migrationFeeWithdrawStatus : ℕ
  metrics : PoolMetrics
  finishCurveTimestamp : ℕ
  creatorBaseFee : ℕ
  creatorQuoteFee : ℕ
  hasSwap : ℕ
  protocolLiquidityMigrationFeeBps : ℕ
  protocolMigrationBaseFeeAmount : ℕ
  protocolMigrationQuoteFeeAmount : ℕ
  deadlineTimestamp : ℕ
  virtualQuoteReserve : ℕ
  deriving DecidableEq, Repr

/-! ## Walking the curve -/

/-- Where a walk along the curve stands: the price reached, the amount not yet used, and the
amount accumulated on the other side.
Source: the local variables of the four calculators of `state/virtual_pool.rs` -/
structure Walk where
  sqrtPrice : ℕ
  amountLeft : ℕ
  total : ℕ
  deriving DecidableEq, Repr

/-- Where a walk with an input ends, and what it left and gave.
Source: `state/virtual_pool.rs` `SwapAmountFromInput` -/
structure SwapAmountFromInput where
  amountLeft : ℕ
  outputAmount : ℕ
  nextSqrtPrice : ℕ
  deriving DecidableEq, Repr

/-- Where a walk for an output ends, and what it took.
Source: `state/virtual_pool.rs` `SwapAmountFromOutput` -/
structure SwapAmountFromOutput where
  amountIn : ℕ
  nextSqrtPrice : ℕ
  deriving DecidableEq, Repr

/-- A place of the stored curve that is not in use.
Source: the first condition of each of the four loops of `state/virtual_pool.rs` -/
def LiquidityDistributionConfig.IsEmpty (point : LiquidityDistributionConfig) : Prop :=
  point.sqrtPrice = 0 ∨ point.liquidity = 0

/-- Whether a point of the stored curve is empty is decided by its price and its liquidity. -/
instance (point : LiquidityDistributionConfig) : Decidable point.IsEmpty :=
  inferInstanceAs (Decidable (_ ∨ _))

/-- The loop of a buy for an amount in, up to `stopSqrtPrice` at most.
Source: `state/virtual_pool.rs` `calculate_quote_to_base_from_amount_in`, the loop -/
def quoteToBaseFromAmountInLoop (stopSqrtPrice : ℕ) :
    List LiquidityDistributionConfig → Walk → Result Walk
  | [], s => pure s
  | point :: rest, s =>
      if point.IsEmpty then pure s
      else
        let referenceSqrtPrice := min stopSqrtPrice point.sqrtPrice
        if referenceSqrtPrice > s.sqrtPrice then do
          let maxAmountIn ← getDeltaAmountQuoteUnsigned256 s.sqrtPrice referenceSqrtPrice
            point.liquidity .up
          if s.amountLeft < maxAmountIn then do
            let nextSqrtPrice ← getNextSqrtPriceFromInput s.sqrtPrice point.liquidity
              s.amountLeft false
            let outputAmount ← getDeltaAmountBaseUnsigned s.sqrtPrice nextSqrtPrice
              point.liquidity .down
            let total ← safeAdd 64 s.total outputAmount
            pure { sqrtPrice := nextSqrtPrice, amountLeft := 0, total := total }
          else do
            let outputAmount ← getDeltaAmountBaseUnsigned s.sqrtPrice referenceSqrtPrice
              point.liquidity .down
            let total ← safeAdd 64 s.total outputAmount
            let maxAmountIn ← safeCast 64 maxAmountIn
            let amountLeft ← safeSub s.amountLeft maxAmountIn
            let s := { sqrtPrice := referenceSqrtPrice, amountLeft := amountLeft, total := total }
            if referenceSqrtPrice = stopSqrtPrice then pure s
            else quoteToBaseFromAmountInLoop stopSqrtPrice rest s
        else quoteToBaseFromAmountInLoop stopSqrtPrice rest s

/-- The loop of a buy for an amount out.
Source: `state/virtual_pool.rs` `calculate_quote_to_base_from_amount_out`, the loop -/
def quoteToBaseFromAmountOutLoop : List LiquidityDistributionConfig → Walk → Result Walk
  | [], s => pure s
  | point :: rest, s =>
      if point.IsEmpty then pure s
      else if point.sqrtPrice > s.sqrtPrice then do
        let maxAmountOut ← getDeltaAmountBaseUnsigned256 s.sqrtPrice point.sqrtPrice
          point.liquidity .down
        if s.amountLeft < maxAmountOut then do
          let nextSqrtPrice ← getNextSqrtPriceFromOutput s.sqrtPrice point.liquidity
            s.amountLeft false
          let inputAmount ← getDeltaAmountQuoteUnsigned s.sqrtPrice nextSqrtPrice
            point.liquidity .up
          let total ← safeAdd 64 s.total inputAmount
          pure { sqrtPrice := nextSqrtPrice, amountLeft := 0, total := total }
        else do
          let inputAmount ← getDeltaAmountQuoteUnsigned s.sqrtPrice point.sqrtPrice
            point.liquidity .up
          let total ← safeAdd 64 s.total inputAmount
          let maxAmountOut ← safeCast 64 maxAmountOut
          let amountLeft ← safeSub s.amountLeft maxAmountOut
          quoteToBaseFromAmountOutLoop rest
            { sqrtPrice := point.sqrtPrice, amountLeft := amountLeft, total := total }
      else quoteToBaseFromAmountOutLoop rest s

/-- The body of the loop of a sell for an amount in, on the segment above `point`; the flag says
that the loop is left.
Source: `state/virtual_pool.rs` `calculate_base_to_quote_from_amount_in`, the body of the loop -/
def baseToQuoteFromAmountInStep (point : LiquidityDistributionConfig) (liquidity : ℕ)
    (s : Walk) : Result (Walk × Bool) :=
  if point.IsEmpty then pure (s, false)
  else if point.sqrtPrice < s.sqrtPrice then do
    let maxAmountIn ← getDeltaAmountBaseUnsigned256 point.sqrtPrice s.sqrtPrice liquidity .up
    if s.amountLeft < maxAmountIn then do
      let nextSqrtPrice ← getNextSqrtPriceFromInput s.sqrtPrice liquidity s.amountLeft true
      let outputAmount ← getDeltaAmountQuoteUnsigned nextSqrtPrice s.sqrtPrice liquidity .down
      let total ← safeAdd 64 s.total outputAmount
      pure ({ sqrtPrice := nextSqrtPrice, amountLeft := 0, total := total }, true)
    else do
      let outputAmount ← getDeltaAmountQuoteUnsigned point.sqrtPrice s.sqrtPrice liquidity .down
      let total ← safeAdd 64 s.total outputAmount
      let maxAmountIn ← safeCast 64 maxAmountIn
      let amountLeft ← safeSub s.amountLeft maxAmountIn
      pure ({ sqrtPrice := point.sqrtPrice, amountLeft := amountLeft, total := total }, false)
  else pure (s, false)

/-- The body of the loop of a sell for an amount out, on the segment above `point`; the flag says
that the loop is left.
Source: `state/virtual_pool.rs` `calculate_base_to_quote_from_amount_out`, the body of the loop -/
def baseToQuoteFromAmountOutStep (point : LiquidityDistributionConfig) (liquidity : ℕ)
    (s : Walk) : Result (Walk × Bool) :=
  if point.IsEmpty then pure (s, false)
  else if point.sqrtPrice < s.sqrtPrice then do
    let maxAmountOut ← getDeltaAmountQuoteUnsigned256 point.sqrtPrice s.sqrtPrice liquidity .down
    if s.amountLeft < maxAmountOut then do
      let nextSqrtPrice ← getNextSqrtPriceFromOutput s.sqrtPrice liquidity s.amountLeft true
      let inAmount ← getDeltaAmountBaseUnsigned nextSqrtPrice s.sqrtPrice liquidity .up
      let total ← safeAdd 64 s.total inAmount
      pure ({ sqrtPrice := nextSqrtPrice, amountLeft := 0, total := total }, true)
    else do
      let inAmount ← getDeltaAmountBaseUnsigned point.sqrtPrice s.sqrtPrice liquidity .up
      let total ← safeAdd 64 s.total inAmount
      -- the conversion of the amount is unwrapped
      assert (maxAmountOut < 2 ^ 64)
      let amountLeft ← safeSub s.amountLeft maxAmountOut
      pure ({ sqrtPrice := point.sqrtPrice, amountLeft := amountLeft, total := total }, false)
  else pure (s, false)

/-- A loop of a sell: the indices run downwards, so the segments above are walked first.
Source: `state/virtual_pool.rs`, `for i in (0..config.curve.len() - 1).rev()` of the two sells -/
def baseToQuoteLoop (body : LiquidityDistributionConfig → ℕ → Walk → Result (Walk × Bool)) :
    List LiquidityDistributionConfig → Walk → Result (Walk × Bool)
  | [], s => pure (s, false)
  | [_], s => pure (s, false)
  | point :: above :: rest, s => do
      let (s, stopped) ← baseToQuoteLoop body (above :: rest) s
      if stopped then pure (s, true) else body point above.liquidity s

/-! ## Results of swaps -/

/-- The result of a swap that is applied to a pool.
Source: `state/virtual_pool.rs` `SwapResult` -/
structure SwapResult where
  actualInputAmount : ℕ
  outputAmount : ℕ
  nextSqrtPrice : ℕ
  tradingFee : ℕ
  protocolFee : ℕ
  referralFee : ℕ
  deriving DecidableEq, Repr

/-- The result of a swap with all of its amounts.
Source: `state/virtual_pool.rs` `SwapResult2` -/
structure SwapResult2 where
  includedFeeInputAmount : ℕ
  excludedFeeInputAmount : ℕ
  amountLeft : ℕ
  outputAmount : ℕ
  nextSqrtPrice : ℕ
  tradingFee : ℕ
  protocolFee : ℕ
  referralFee : ℕ
  deriving DecidableEq, Repr

/-- The result of a swap as it is applied.
Source: `state/virtual_pool.rs` `get_swap_result` -/
def SwapResult2.getSwapResult (r : SwapResult2) : SwapResult :=
  { actualInputAmount := r.excludedFeeInputAmount
    outputAmount := r.outputAmount
    nextSqrtPrice := r.nextSqrtPrice
    tradingFee := r.tradingFee
    protocolFee := r.protocolFee
    referralFee := r.referralFee }

namespace PoolState

variable (p : PoolState)

/-! ## The four calculators -/

/-- A buy walks up the curve with an amount of quote.
Source: `state/virtual_pool.rs` `calculate_quote_to_base_from_amount_in` -/
def calculateQuoteToBaseFromAmountIn (config : PoolConfig) (amountIn stopSqrtPrice : ℕ) :
    Result SwapAmountFromInput := do
  let s ← quoteToBaseFromAmountInLoop stopSqrtPrice config.curve
    { sqrtPrice := p.sqrtPrice, amountLeft := amountIn, total := 0 }
  pure
    { amountLeft := s.amountLeft
      outputAmount := s.total
      nextSqrtPrice := s.sqrtPrice }

/-- A buy walks up the curve for an amount of base.
Source: `state/virtual_pool.rs` `calculate_quote_to_base_from_amount_out` -/
def calculateQuoteToBaseFromAmountOut (config : PoolConfig) (amountOut : ℕ) :
    Result SwapAmountFromOutput := do
  let s ← quoteToBaseFromAmountOutLoop config.curve
    { sqrtPrice := p.sqrtPrice, amountLeft := amountOut, total := 0 }
  ensure (s.amountLeft = 0) .amountLeftIsNotZero
  pure { amountIn := s.total, nextSqrtPrice := s.sqrtPrice }

/-- The liquidity of the first point of the curve.
Source: `config.curve[0].liquidity`, which panics on an empty array -/
def firstLiquidity (config : PoolConfig) : Result ℕ :=
  match config.curve with
  | [] => .error .panic
  | first :: _ => pure first.liquidity

/-- The last segment of a sell for an amount in, down to the start price.
Source: `state/virtual_pool.rs` `calculate_base_to_quote_from_amount_in`, after the loop -/
def baseToQuoteFromAmountInLast (config : PoolConfig) (s : Walk) : Result Walk := do
  let liquidity ← firstLiquidity config
  let nextSqrtPrice ← getNextSqrtPriceFromInput s.sqrtPrice liquidity s.amountLeft true
  let (nextSqrtPrice, amountLeft) ← (if nextSqrtPrice < config.sqrtStartPrice then do
      let amountIn ← getDeltaAmountBaseUnsigned config.sqrtStartPrice s.sqrtPrice liquidity .up
      let amountLeft ← safeSub s.amountLeft amountIn
      pure (config.sqrtStartPrice, amountLeft)
    else pure (nextSqrtPrice, 0))
  let outputAmount ← getDeltaAmountQuoteUnsigned nextSqrtPrice s.sqrtPrice liquidity .down
  let total ← safeAdd 64 s.total outputAmount
  pure { sqrtPrice := nextSqrtPrice, amountLeft := amountLeft, total := total }

/-- A sell walks down the curve with an amount of base.
Source: `state/virtual_pool.rs` `calculate_base_to_quote_from_amount_in` -/
def calculateBaseToQuoteFromAmountIn (config : PoolConfig) (amountIn : ℕ) :
    Result SwapAmountFromInput := do
  let (s, _) ← baseToQuoteLoop baseToQuoteFromAmountInStep config.curve
    { sqrtPrice := p.sqrtPrice, amountLeft := amountIn, total := 0 }
  let s ← (if s.amountLeft ≠ 0 then baseToQuoteFromAmountInLast config s else pure s)
  pure
    { amountLeft := s.amountLeft
      outputAmount := s.total
      nextSqrtPrice := s.sqrtPrice }

/-- The last segment of a sell for an amount out, down to the start price.
Source: `state/virtual_pool.rs` `calculate_base_to_quote_from_amount_out`, after the loop -/
def baseToQuoteFromAmountOutLast (config : PoolConfig) (s : Walk) : Result Walk := do
  let liquidity ← firstLiquidity config
  let maxAmountOut ← getDeltaAmountQuoteUnsigned256 config.sqrtStartPrice s.sqrtPrice liquidity
    .down
  ensure (s.amountLeft ≤ maxAmountOut) .insufficientLiquidity
  let nextSqrtPrice ← getNextSqrtPriceFromOutput s.sqrtPrice liquidity s.amountLeft true
  ensure (nextSqrtPrice ≥ config.sqrtStartPrice) .insufficientLiquidity
  let inAmount ← getDeltaAmountBaseUnsigned nextSqrtPrice s.sqrtPrice liquidity .up
  let total ← safeAdd 64 s.total inAmount
  pure { sqrtPrice := nextSqrtPrice, amountLeft := s.amountLeft, total := total }

/-- A sell walks down the curve for an amount of quote.
Source: `state/virtual_pool.rs` `calculate_base_to_quote_from_amount_out` -/
def calculateBaseToQuoteFromAmountOut (config : PoolConfig) (amountOut : ℕ) :
    Result SwapAmountFromOutput := do
  let (s, _) ← baseToQuoteLoop baseToQuoteFromAmountOutStep config.curve
    { sqrtPrice := p.sqrtPrice, amountLeft := amountOut, total := 0 }
  let s ← (if s.amountLeft ≠ 0 then baseToQuoteFromAmountOutLast config s else pure s)
  pure { amountIn := s.total, nextSqrtPrice := s.sqrtPrice }

/-! ## The three swap modes -/

/-- The fee numerator of an amount that still contains the fee.
Source: `state/virtual_pool.rs`, `trade_fee_numerator` from an included amount -/
def tradeFeeNumeratorFromIncluded (config : PoolConfig) (amount : ℕ)
    (tradeDirection : TradeDirection) (currentPoint : ℕ) (eligible : Bool) : Result ℕ :=
  if eligible then config.poolFees.getMinBaseFeeNumerator
  else config.poolFees.getTotalFeeNumeratorFromIncludedFeeAmount p.volatilityTracker currentPoint
    p.activationPoint amount tradeDirection

/-- The fee numerator of an amount that does not contain the fee.
Source: `state/virtual_pool.rs`, `trade_fee_numerator` from an excluded amount -/
def tradeFeeNumeratorFromExcluded (config : PoolConfig) (amount : ℕ)
    (tradeDirection : TradeDirection) (currentPoint : ℕ) (eligible : Bool) : Result ℕ :=
  if eligible then config.poolFees.getMinBaseFeeNumerator
  else config.poolFees.getTotalFeeNumeratorFromExcludedFeeAmount p.volatilityTracker currentPoint
    p.activationPoint amount tradeDirection

/-- Add a fee on to an amount and split it.
Source: `state/virtual_pool.rs`, `get_included_fee_amount` and then `split_fees` -/
def includeFees (tradeFeeNumerator amount : ℕ) (hasReferral : Bool) :
    Result FeeOnAmountResult := do
  let (includedFeeAmount, feeAmount) ← getIncludedFeeAmount tradeFeeNumerator amount
  let (tradingFee, protocolFee, referralFee) ← splitFees feeAmount hasReferral
  pure
    { amount := includedFeeAmount
      tradingFee := tradingFee
      protocolFee := protocolFee
      referralFee := referralFee }

/-- An amount that no fee is taken from.
Source: `state/virtual_pool.rs`, the branches without a fee of the three swap modes -/
def withoutFees (amount : ℕ) : FeeOnAmountResult :=
  { amount := amount, tradingFee := 0, protocolFee := 0, referralFee := 0 }

/-- The calculator of an amount in, in the direction of the trade.
Source: `state/virtual_pool.rs`, the match on `trade_direction` of the two modes for an amount
in -/
def calculateFromAmountIn (config : PoolConfig) (tradeDirection : TradeDirection)
    (amountIn : ℕ) : Result SwapAmountFromInput :=
  match tradeDirection with
  | .baseToQuote => p.calculateBaseToQuoteFromAmountIn config amountIn
  | .quoteToBase => p.calculateQuoteToBaseFromAmountIn config amountIn config.migrationSqrtPrice

/-- The calculator of an amount out, in the direction of the trade.
Source: `state/virtual_pool.rs` `get_swap_result_from_exact_output`, the match on
`trade_direction` -/
def calculateFromAmountOut (config : PoolConfig) (tradeDirection : TradeDirection)
    (amountOut : ℕ) : Result SwapAmountFromOutput :=
  match tradeDirection with
  | .baseToQuote => p.calculateBaseToQuoteFromAmountOut config amountOut
  | .quoteToBase => p.calculateQuoteToBaseFromAmountOut config amountOut

/-- The result of a swap of an exact input.
Source: `state/virtual_pool.rs` `get_swap_result_from_exact_input` -/
def getSwapResultFromExactInput (config : PoolConfig) (amountIn : ℕ) (feeMode : FeeMode)
    (tradeDirection : TradeDirection) (currentPoint : ℕ) (eligible : Bool) :
    Result SwapResult2 := do
  let tradeFeeNumerator ← p.tradeFeeNumeratorFromIncluded config amountIn tradeDirection
    currentPoint eligible
  let input ← (if feeMode.feesOnInput then
      getFeeOnAmount tradeFeeNumerator amountIn feeMode.hasReferral
    else pure (withoutFees amountIn))
  let swap ← p.calculateFromAmountIn config tradeDirection input.amount
  ensure (swap.amountLeft = 0) .insufficientLiquidity
  let output ← (if feeMode.feesOnInput then pure { input with amount := swap.outputAmount }
    else getFeeOnAmount tradeFeeNumerator swap.outputAmount feeMode.hasReferral)
  pure
    { amountLeft := swap.amountLeft
      includedFeeInputAmount := amountIn
      excludedFeeInputAmount := input.amount
      outputAmount := output.amount
      nextSqrtPrice := swap.nextSqrtPrice
      tradingFee := output.tradingFee
      protocolFee := output.protocolFee
      referralFee := output.referralFee }

/-- The amounts and the fees of the input of a partial fill once the unused amount is known: the
amount without fees, the amount with them, and the fees.
Source: `state/virtual_pool.rs` `get_swap_result_from_partial_input`, `included_fee_input_amount` -/
def partialInput (config : PoolConfig) (amountIn : ℕ) (feeMode : FeeMode)
    (tradeDirection : TradeDirection) (currentPoint : ℕ) (eligible : Bool)
    (input : FeeOnAmountResult) (amountLeft : ℕ) : Result (ℕ × FeeOnAmountResult) :=
  if amountLeft ≠ 0 then do
    let actualAmountIn ← safeSub input.amount amountLeft
    if feeMode.feesOnInput then do
      let tradeFeeNumerator ← p.tradeFeeNumeratorFromExcluded config actualAmountIn
        tradeDirection currentPoint eligible
      let included ← includeFees tradeFeeNumerator actualAmountIn feeMode.hasReferral
      pure (actualAmountIn, included)
    else pure (actualAmountIn, { input with amount := actualAmountIn })
  else pure (input.amount, { input with amount := amountIn })

/-- The result of a swap of as much of an input as the curve takes.
Source: `state/virtual_pool.rs` `get_swap_result_from_partial_input` -/
def getSwapResultFromPartialInput (config : PoolConfig) (amountIn : ℕ) (feeMode : FeeMode)
    (tradeDirection : TradeDirection) (currentPoint : ℕ) (eligible : Bool) :
    Result SwapResult2 := do
  let tradeFeeNumerator ← p.tradeFeeNumeratorFromIncluded config amountIn tradeDirection
    currentPoint eligible
  let input ← (if feeMode.feesOnInput then
      getFeeOnAmount tradeFeeNumerator amountIn feeMode.hasReferral
    else pure (withoutFees amountIn))
  let swap ← p.calculateFromAmountIn config tradeDirection input.amount
  let (actualAmountIn, included) ← p.partialInput config amountIn feeMode tradeDirection
    currentPoint eligible input swap.amountLeft
  let output ← (if feeMode.feesOnInput then pure { included with amount := swap.outputAmount }
    else getFeeOnAmount tradeFeeNumerator swap.outputAmount feeMode.hasReferral)
  pure
    { amountLeft := swap.amountLeft
      includedFeeInputAmount := included.amount
      excludedFeeInputAmount := actualAmountIn
      outputAmount := output.amount
      nextSqrtPrice := swap.nextSqrtPrice
      tradingFee := output.tradingFee
      protocolFee := output.protocolFee
      referralFee := output.referralFee }

/-- The result of a swap for an exact output.
Source: `state/virtual_pool.rs` `get_swap_result_from_exact_output` -/
def getSwapResultFromExactOutput (config : PoolConfig) (amountOut : ℕ) (feeMode : FeeMode)
    (tradeDirection : TradeDirection) (currentPoint : ℕ) (eligible : Bool) :
    Result SwapResult2 := do
  let output ← (if feeMode.feesOnInput then pure (withoutFees amountOut)
    else do
      let tradeFeeNumerator ← p.tradeFeeNumeratorFromExcluded config amountOut tradeDirection
        currentPoint eligible
      includeFees tradeFeeNumerator amountOut feeMode.hasReferral)
  let swap ← p.calculateFromAmountOut config tradeDirection output.amount
  ensure (swap.nextSqrtPrice ≤ config.migrationSqrtPrice) .insufficientLiquidity
  let input ← (if feeMode.feesOnInput then do
      let tradeFeeNumerator ← p.tradeFeeNumeratorFromExcluded config swap.amountIn
        tradeDirection currentPoint eligible
      includeFees tradeFeeNumerator swap.amountIn feeMode.hasReferral
    else pure { output with amount := swap.amountIn })
  pure
    { amountLeft := 0
      includedFeeInputAmount := input.amount
      excludedFeeInputAmount := swap.amountIn
      outputAmount := amountOut
      nextSqrtPrice := swap.nextSqrtPrice
      tradingFee := input.tradingFee
      protocolFee := input.protocolFee
      referralFee := input.referralFee }

/-! ## The state after a swap -/

/-- The references of the dynamic fee are renewed before a swap.
Source: `state/virtual_pool.rs` `update_pre_swap` -/
def updatePreSwap (config : PoolConfig) (currentTimestamp : ℕ) : Result PoolState :=
  if config.poolFees.dynamicFee.isDynamicFeeEnable then do
    let tracker ← p.volatilityTracker.updateReferences config.poolFees.dynamicFee p.sqrtPrice
      currentTimestamp
    pure { p with volatilityTracker := tracker }
  else pure p

/-- The volatility of the dynamic fee grows after a swap that moved the price.
Source: `state/virtual_pool.rs` `update_post_swap` -/
def updatePostSwap (config : PoolConfig) (oldSqrtPrice currentTimestamp : ℕ) :
    Result PoolState :=
  if config.poolFees.dynamicFee.isDynamicFeeEnable then do
    let tracker ← p.volatilityTracker.updateVolatilityAccumulator config.poolFees.dynamicFee
      p.sqrtPrice
    let deltaPrice ← VolatilityTracker.getDeltaBinId config.poolFees.dynamicFee.binStepU128
      oldSqrtPrice p.sqrtPrice
    pure { p with
      volatilityTracker :=
        if deltaPrice > 0 then { tracker with lastUpdateTimestamp := currentTimestamp }
        else tracker }
  else pure p

/-- The fees recorded by a swap; a virtual swap records no fee on the quote token.
Source: `state/virtual_pool.rs` `apply_swap_result_internal`, the branches on
`fees_on_base_token` -/
def recordFees (config : PoolConfig) (r : SwapResult) (feeMode : FeeMode) (isVirtual : Bool) :
    Result PoolState := do
  let split ← config.splitPartnerAndCreatorFee r.tradingFee
  if feeMode.feesOnBaseToken then do
    let partnerBaseFee ← safeAdd 64 p.partnerBaseFee split.partnerFee
    let protocolBaseFee ← safeAdd 64 p.protocolBaseFee r.protocolFee
    let creatorBaseFee ← safeAdd 64 p.creatorBaseFee split.creatorFee
    let metrics ← p.metrics.accumulateFee r.protocolFee r.tradingFee true
    pure { p with
      partnerBaseFee := partnerBaseFee
      protocolBaseFee := protocolBaseFee
      creatorBaseFee := creatorBaseFee
      metrics := metrics }
  else if ¬ isVirtual then do
    let partnerQuoteFee ← safeAdd 64 p.partnerQuoteFee split.partnerFee
    let protocolQuoteFee ← safeAdd 64 p.protocolQuoteFee r.protocolFee
    let creatorQuoteFee ← safeAdd 64 p.creatorQuoteFee split.creatorFee
    let metrics ← p.metrics.accumulateFee r.protocolFee r.tradingFee false
    pure { p with
      partnerQuoteFee := partnerQuoteFee
      protocolQuoteFee := protocolQuoteFee
      creatorQuoteFee := creatorQuoteFee
      metrics := metrics }
  else pure p

/-- The amount that leaves the curve: the amount paid out and the fees taken from it.
Source: `state/virtual_pool.rs` `apply_swap_result_internal`, `actual_output_amount` -/
def actualOutputAmount (r : SwapResult) (feeMode : FeeMode) : Result ℕ :=
  if feeMode.feesOnInput then pure r.outputAmount
  else do
    let sum ← safeAdd 64 r.outputAmount r.tradingFee
    let sum ← safeAdd 64 sum r.protocolFee
    safeAdd 64 sum r.referralFee

/-- The reserves moved by a swap; a virtual swap adds to the virtual quote reserve.
Source: `state/virtual_pool.rs` `apply_swap_result_internal`, the branches on `trade_direction` -/
def moveReserves (tradeDirection : TradeDirection) (isVirtual : Bool)
    (actualInputAmount actualOutputAmount : ℕ) : Result PoolState :=
  if tradeDirection = .baseToQuote then do
    let baseReserve ← safeAdd 64 p.baseReserve actualInputAmount
    let quoteReserve ← safeSub p.quoteReserve actualOutputAmount
    pure { p with baseReserve := baseReserve, quoteReserve := quoteReserve }
  else if isVirtual then do
    let virtualQuoteReserve ← safeAdd 64 p.virtualQuoteReserve actualInputAmount
    let baseReserve ← safeSub p.baseReserve actualOutputAmount
    pure { p with virtualQuoteReserve := virtualQuoteReserve, baseReserve := baseReserve }
  else do
    let quoteReserve ← safeAdd 64 p.quoteReserve actualInputAmount
    let baseReserve ← safeSub p.baseReserve actualOutputAmount
    pure { p with quoteReserve := quoteReserve, baseReserve := baseReserve }

/-- The result of a swap is applied: fees, reserves, price and tracker.
Source: `state/virtual_pool.rs` `apply_swap_result_internal` -/
def applySwapResultInternal (config : PoolConfig) (r : SwapResult) (feeMode : FeeMode)
    (tradeDirection : TradeDirection) (currentTimestamp : ℕ) (isVirtual : Bool) :
    Result PoolState := do
  let oldSqrtPrice := p.sqrtPrice
  let p := { p with sqrtPrice := r.nextSqrtPrice }
  let p ← p.recordFees config r feeMode isVirtual
  let actualOutputAmount ← actualOutputAmount r feeMode
  let p ← p.moveReserves tradeDirection isVirtual r.actualInputAmount actualOutputAmount
  let p ← p.updatePostSwap config oldSqrtPrice currentTimestamp
  pure { p with hasSwap := 1 }

/-- The result of a real swap is applied.
Source: `state/virtual_pool.rs` `apply_swap_result` -/
def applySwapResult (config : PoolConfig) (r : SwapResult) (feeMode : FeeMode)
    (tradeDirection : TradeDirection) (currentTimestamp : ℕ) : Result PoolState :=
  p.applySwapResultInternal config r feeMode tradeDirection currentTimestamp false

/-- The result of a virtual swap is applied.
Source: `state/virtual_pool.rs` `apply_virtual_swap_result` -/
def applyVirtualSwapResult (config : PoolConfig) (r : SwapResult) (feeMode : FeeMode)
    (currentTimestamp : ℕ) : Result PoolState :=
  p.applySwapResultInternal config r feeMode .quoteToBase currentTimestamp true

/-! ## Completion of the sale -/

/-- Whether the pool has had no swap.
Source: `state/virtual_pool.rs` `is_first_swap` -/
def isFirstSwap : Bool := p.hasSwap = 0

/-- The real and the virtual quote together, up to the largest number of its type.
Source: `state/virtual_pool.rs` `total_quote_reserve` -/
def totalQuoteReserve : ℕ := min (p.quoteReserve + p.virtualQuoteReserve) u64Max

/-- Whether the real quote reached a threshold.
Source: `state/virtual_pool.rs` `has_real_quote_surplus` -/
def hasRealQuoteSurplus (migrationThreshold : ℕ) : Bool := p.quoteReserve ≥ migrationThreshold

/-- A threshold, or the quote that was raised where that is less.
Source: `state/virtual_pool.rs` `effective_migration_quote_threshold` -/
def effectiveMigrationQuoteThreshold (migrationThreshold : ℕ) : ℕ :=
  min p.quoteReserve migrationThreshold

/-- Whether the quote of the pool reached the threshold.
Source: `state/virtual_pool.rs` `is_curve_complete` -/
def isCurveComplete (migrationThreshold : ℕ) : Bool := p.totalQuoteReserve ≥ migrationThreshold

/-- Whether there is a deadline and it has passed.
Source: `state/virtual_pool.rs` `is_deadline_reached` -/
def isDeadlineReached (currentTimestamp : ℕ) : Bool :=
  p.deadlineTimestamp ≠ 0 ∧ currentTimestamp ≥ p.deadlineTimestamp

/-- Whether the sale is over.
Source: `state/virtual_pool.rs` `is_sale_complete` -/
def isSaleComplete (migrationThreshold currentTimestamp : ℕ) : Bool :=
  p.isCurveComplete migrationThreshold || p.isDeadlineReached currentTimestamp

/-! ## Claims -/

/-- The fees on the base token that were not claimed.
Source: `state/virtual_pool.rs` `get_protocol_and_trading_base_fee` -/
def getProtocolAndTradingBaseFee : Result ℕ := do
  let sum ← safeAdd 64 p.partnerBaseFee p.protocolBaseFee
  safeAdd 64 sum p.creatorBaseFee

/-- The protocol's base is claimed up to a limit, its fees first.
Source: `state/virtual_pool.rs` `claim_protocol_base_fee` -/
def claimProtocolBaseFee (maxAmount : ℕ) : Result (ℕ × PoolState) := do
  let tradingClaimedFee := min p.protocolBaseFee maxAmount
  let protocolBaseFee ← safeSub p.protocolBaseFee tradingClaimedFee
  let maxAmount ← safeSub maxAmount tradingClaimedFee
  let migrationClaimedFee := min p.protocolMigrationBaseFeeAmount maxAmount
  let protocolMigrationBaseFeeAmount ← safeSub p.protocolMigrationBaseFeeAmount
    migrationClaimedFee
  let totalClaimedFee ← safeAdd 64 tradingClaimedFee migrationClaimedFee
  pure (totalClaimedFee, { p with
    protocolBaseFee := protocolBaseFee
    protocolMigrationBaseFeeAmount := protocolMigrationBaseFeeAmount })

/-- The protocol's quote is claimed up to a limit, its fees first.
Source: `state/virtual_pool.rs` `claim_protocol_quote_fee` -/
def claimProtocolQuoteFee (maxAmount : ℕ) : Result (ℕ × PoolState) := do
  let tradingClaimedFee := min p.protocolQuoteFee maxAmount
  let protocolQuoteFee ← safeSub p.protocolQuoteFee tradingClaimedFee
  let maxAmount ← safeSub maxAmount tradingClaimedFee
  let migrationClaimedFee := min p.protocolMigrationQuoteFeeAmount maxAmount
  let protocolMigrationQuoteFeeAmount ← safeSub p.protocolMigrationQuoteFeeAmount
    migrationClaimedFee
  let totalClaimedFee ← safeAdd 64 tradingClaimedFee migrationClaimedFee
  pure (totalClaimedFee, { p with
    protocolQuoteFee := protocolQuoteFee
    protocolMigrationQuoteFeeAmount := protocolMigrationQuoteFeeAmount })

/-- The partner's fees are claimed up to a limit for each token.
Source: `state/virtual_pool.rs` `claim_partner_trading_fee` -/
def claimPartnerTradingFee (maxBaseAmount maxQuoteAmount : ℕ) :
    Result ((ℕ × ℕ) × PoolState) := do
  let tokenBaseAmount := min p.partnerBaseFee maxBaseAmount
  let tokenQuoteAmount := min p.partnerQuoteFee maxQuoteAmount
  let partnerBaseFee ← safeSub p.partnerBaseFee tokenBaseAmount
  let partnerQuoteFee ← safeSub p.partnerQuoteFee tokenQuoteAmount
  pure ((tokenBaseAmount, tokenQuoteAmount), { p with
    partnerBaseFee := partnerBaseFee
    partnerQuoteFee := partnerQuoteFee })

/-- The creator's fees are claimed up to a limit for each token.
Source: `state/virtual_pool.rs` `claim_creator_trading_fee` -/
def claimCreatorTradingFee (maxBaseAmount maxQuoteAmount : ℕ) :
    Result ((ℕ × ℕ) × PoolState) := do
  let tokenBaseAmount := min p.creatorBaseFee maxBaseAmount
  let tokenQuoteAmount := min p.creatorQuoteFee maxQuoteAmount
  let creatorBaseFee ← safeSub p.creatorBaseFee tokenBaseAmount
  let creatorQuoteFee ← safeSub p.creatorQuoteFee tokenQuoteAmount
  pure ((tokenBaseAmount, tokenQuoteAmount), { p with
    creatorBaseFee := creatorBaseFee
    creatorQuoteFee := creatorQuoteFee })

/-! ## The surplus -/

/-- The quote above a threshold.
Source: `state/virtual_pool.rs` `get_total_surplus` -/
def getTotalSurplus (migrationThreshold : ℕ) : Result ℕ :=
  safeSub p.quoteReserve migrationThreshold

/-- The part of the surplus that is the partner's and the creator's.
Source: `state/virtual_pool.rs` `get_partner_and_creator_surplus` -/
def getPartnerAndCreatorSurplus (totalSurplus : ℕ) : Result ℕ :=
  safeMulDivCastU64 totalSurplus PARTNER_AND_CREATOR_SURPLUS_SHARE 100 .down

/-- The partner's part of the surplus.
Source: `state/virtual_pool.rs` `get_partner_surplus` -/
def getPartnerSurplus (config : PoolConfig) (totalSurplus : ℕ) : Result ℕ :=
  if config.isFixedMigrationQuoteAmountEnabled then pure totalSurplus
  else do
    let partnerAndCreatorSurplus ← getPartnerAndCreatorSurplus totalSurplus
    let split ← config.splitPartnerAndCreatorFee partnerAndCreatorSurplus
    pure split.partnerFee

/-- The creator's part of the surplus.
Source: `state/virtual_pool.rs` `get_creator_surplus` -/
def getCreatorSurplus (config : PoolConfig) (totalSurplus : ℕ) : Result ℕ :=
  if config.isFixedMigrationQuoteAmountEnabled then pure 0
  else do
    let partnerAndCreatorSurplus ← getPartnerAndCreatorSurplus totalSurplus
    let split ← config.splitPartnerAndCreatorFee partnerAndCreatorSurplus
    pure split.creatorFee

/-- The protocol's part of the surplus.
Source: `state/virtual_pool.rs` `get_protocol_surplus` -/
def getProtocolSurplus (migrationThreshold : ℕ) : Result ℕ := do
  let totalSurplus ← p.getTotalSurplus migrationThreshold
  let partnerSurplusAmount ← getPartnerAndCreatorSurplus totalSurplus
  safeSub totalSurplus partnerSurplusAmount

/-- The protocol's quote is claimed with its part of the surplus.
Source: `state/virtual_pool.rs` `claim_protocol_quote_fee_and_surplus` -/
def claimProtocolQuoteFeeAndSurplus (maxAmount : ℕ) (config : PoolConfig) :
    Result (ℕ × PoolState) := do
  let (amount, p) ← p.claimProtocolQuoteFee maxAmount
  let surplusQuoteThreshold := config.getMigrationQuoteAmountCap
  if p.isProtocolWithdrawSurplus = 0 ∧ ¬ config.isFixedMigrationQuoteAmountEnabled ∧
      p.hasRealQuoteSurplus surplusQuoteThreshold then do
    let p := { p with isProtocolWithdrawSurplus := 1 }
    let protocolSurplusAmount ← p.getProtocolSurplus surplusQuoteThreshold
    let amount ← safeAdd 64 amount protocolSurplusAmount
    pure (amount, p)
  else pure (amount, p)

/-- Whether a part of the migration fee is still to be withdrawn.
Source: `state/virtual_pool.rs` `eligible_to_withdraw_migration_fee` -/
def eligibleToWithdrawMigrationFee (mask : ℕ) : Bool :=
  p.migrationFeeWithdrawStatus &&& mask = 0

/-- A part of the migration fee is marked as withdrawn.
Source: `state/virtual_pool.rs` `update_withdraw_migration_fee` -/
def updateWithdrawMigrationFee (mask : ℕ) : PoolState :=
  { p with migrationFeeWithdrawStatus := p.migrationFeeWithdrawStatus ^^^ mask }

/-- The protocol's part of a migration is saved for its claim.
Source: `state/virtual_pool.rs` `save_protocol_liquidity_migration_fee` -/
def saveProtocolLiquidityMigrationFee (baseAmount quoteAmount : ℕ) : PoolState :=
  { p with
    protocolMigrationBaseFeeAmount := baseAmount
    protocolMigrationQuoteFeeAmount := quoteAmount }

end PoolState

end DynamicBondingCurve
