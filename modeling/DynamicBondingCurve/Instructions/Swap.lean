import DynamicBondingCurve.State.SwapResults
import DynamicBondingCurve.State.World

/-!
# Swaps

`processSwap` is the body of every swap instruction, in four stages:

* `validateSwap`: the checks on the request and on the state of the sale.
* `computeSwap`: the amounts, and the state of the pool after the swap.
* `settleSwap`: the transfers; a virtual swap takes no quote in and pays no referral.
* `completeCurve`: what happens when the swap raised the rest of the threshold.
-/

namespace DynamicBondingCurve

open Library

/-! ## Requests -/

/-- The two amounts of a swap and its mode, as a byte.
Source: `instructions/swap/process_swap.rs` `SwapParameters2` -/
structure SwapParameters2 where
  amount0 : ℕ
  amount1 : ℕ
  swapMode : ℕ
  deriving DecidableEq, Repr

/-- A swap as submitted. The last two fields say what the list of the transaction's instructions
shows: that no other instruction of the transaction may be a swap on the pool, and that an
earlier one at the top level creates the pool.
Source: `instructions/swap/ix_swap.rs` `SwapCtx`; `instructions/swap/process_swap.rs`
`validate_single_swap_instruction`, `validate_contain_initialize_pool_ix_and_no_cpi` -/
structure SwapRequest where
  params : SwapParameters2
  payer : Pubkey
  inputMint : Pubkey
  hasReferralAccount : Bool
  isSingleSwap : Bool
  containsInitializePool : Bool
  deriving DecidableEq, Repr

/-! ## The three modes -/

namespace PoolState

variable (p : PoolState)

/-- An exact input is swapped if its output reaches the limit.
Source: `instructions/swap/swap_exact_in.rs` `process_swap_exact_in` -/
def processSwapExactIn (config : PoolConfig) (amountIn minimumAmountOut : ℕ) (feeMode : FeeMode)
    (tradeDirection : TradeDirection) (currentPoint : ℕ) (eligible : Bool) :
    Result SwapResult2 := do
  let r ← p.getSwapResultFromExactInput config amountIn feeMode tradeDirection currentPoint
    eligible
  ensure (r.outputAmount ≥ minimumAmountOut) .exceededSlippage
  pure r

/-- An input is swapped as far as it goes if its output reaches the limit.
Source: `instructions/swap/swap_partial_fill.rs` `process_swap_partial_fill` -/
def processSwapPartialFill (config : PoolConfig) (amountIn minimumAmountOut : ℕ)
    (feeMode : FeeMode) (tradeDirection : TradeDirection) (currentPoint : ℕ) (eligible : Bool) :
    Result SwapResult2 := do
  let r ← p.getSwapResultFromPartialInput config amountIn feeMode tradeDirection currentPoint
    eligible
  ensure (r.outputAmount ≥ minimumAmountOut) .exceededSlippage
  pure r

/-- An exact output is swapped if its input stays within the limit.
Source: `instructions/swap/swap_exact_out.rs` `process_swap_exact_out` -/
def processSwapExactOut (config : PoolConfig) (amountOut maximumAmountIn : ℕ) (feeMode : FeeMode)
    (tradeDirection : TradeDirection) (currentPoint : ℕ) (eligible : Bool) :
    Result SwapResult2 := do
  let r ← p.getSwapResultFromExactOutput config amountOut feeMode tradeDirection currentPoint
    eligible
  ensure (r.includedFeeInputAmount ≤ maximumAmountIn) .exceededSlippage
  pure r

/-- The result of a swap in its mode, within its limit.
Source: `instructions/swap/process_swap.rs` `process_swap`, the match on `swap_mode` -/
def processSwapMode (config : PoolConfig) (mode : SwapMode) (amount0 amount1 : ℕ)
    (feeMode : FeeMode) (tradeDirection : TradeDirection) (currentPoint : ℕ) (eligible : Bool) :
    Result SwapResult2 :=
  match mode with
  | .exactIn =>
      p.processSwapExactIn config amount0 amount1 feeMode tradeDirection currentPoint eligible
  | .partialFill =>
      p.processSwapPartialFill config amount0 amount1 feeMode tradeDirection currentPoint eligible
  | .exactOut =>
      p.processSwapExactOut config amount0 amount1 feeMode tradeDirection currentPoint eligible

end PoolState

/-! ## The stages of a swap -/

/-- What the checks on a request settle.
Source: `instructions/swap/process_swap.rs` `process_swap`, its local variables -/
structure SwapContext where
  mode : SwapMode
  tradeDirection : TradeDirection
  hasReferral : Bool
  currentPoint : ℕ
  eligible : Bool
  deriving DecidableEq, Repr

namespace Deployment

variable (d : Deployment)

/-- The check that a rate limiter asks for.
Source: `instructions/swap/process_swap.rs` `process_swap`, the block on `rate_limiter` -/
def validateRateLimiter (w : World) (request : SwapRequest) (tradeDirection : TradeDirection)
    (currentPoint : ℕ) : Result Unit :=
  match d.config.poolFees.baseFee.getFeeRateLimiter with
  | .error _ => pure ()
  | .ok rateLimiter => do
      let applied ← rateLimiter.isRateLimiterApplied currentPoint w.pool.activationPoint
        tradeDirection
      (if applied then ensure request.isSingleSwap .failToValidateSingleSwapInstruction
      else pure ())

/-- The checks on the request and on the state of the sale.
Source: `instructions/swap/process_swap.rs` `process_swap`, up to the comment "validate if the
sale is already complete" -/
def validateSwap (w : World) (request : SwapRequest) (isVirtual : Bool) :
    Result SwapContext := do
  let mode ← orThrow (SwapMode.tryFrom request.params.swapMode) (Fault.error .typeCastFailed)
  let tradeDirection : TradeDirection :=
    if request.inputMint = d.baseMint then .baseToQuote else .quoteToBase
  ensure (tradeDirection = .quoteToBase) .sellDisabled
  (if isVirtual then do
    ensure (request.inputMint = d.config.quoteMint) .invalidInput
    ensure (request.hasReferralAccount = false) .invalidInput
  else pure ())
  ensure (request.params.amount0 > 0) .amountIsZero
  let hasReferral := !isVirtual && request.hasReferralAccount
  let currentPoint ← w.getCurrentPoint d.config.activationType
  d.validateRateLimiter w request tradeDirection currentPoint
  let eligible := d.config.isFirstSwapWithMinFeeEnabled && w.pool.isFirstSwap && !hasReferral &&
    request.containsInitializePool
  ensure (w.pool.isSaleComplete d.config.migrationQuoteThreshold w.timestamp = false)
    .poolIsCompleted
  pure
    { mode := mode
      tradeDirection := tradeDirection
      hasReferral := hasReferral
      currentPoint := currentPoint
      eligible := eligible }

/-- The amounts of the swap and the state of the pool after it.
Source: `instructions/swap/process_swap.rs` `process_swap`, from `update_pre_swap` to
`apply_swap_result` -/
def computeSwap (w : World) (request : SwapRequest) (isVirtual : Bool) (c : SwapContext) :
    Result (FeeMode × SwapResult2 × PoolState) := do
  let p ← w.pool.updatePreSwap d.config w.timestamp
  let feeMode ← FeeMode.getFeeMode d.config.collectFeeMode c.tradeDirection c.hasReferral
  let r ← p.processSwapMode d.config c.mode request.params.amount0 request.params.amount1 feeMode
    c.tradeDirection c.currentPoint c.eligible
  let p ← (if isVirtual then
      p.applyVirtualSwapResult d.config r.getSwapResult feeMode w.timestamp
    else
      p.applySwapResult d.config r.getSwapResult feeMode c.tradeDirection w.timestamp)
  pure (feeMode, r, p)

/-- The transfers of a buy.
Source: `instructions/swap/process_swap.rs` `process_swap`, from the comment "send to reserve" to
the one "send to referral" -/
def settleSwap (w : World) (request : SwapRequest) (isVirtual : Bool) (feeMode : FeeMode)
    (r : SwapResult2) : Result World := do
  let w ← (if isVirtual then pure w
    else do
      -- the token program compares the mints
      require (request.inputMint = d.config.quoteMint) Fault.account
      pure (w.receive .quote .swapInput r.includedFeeInputAmount))
  let w ← w.pay .base .swapOutput r.outputAmount
  if ¬ isVirtual ∧ request.hasReferralAccount ∧ r.referralFee > 0 then
    if feeMode.feesOnBaseToken then w.pay .base .referralFee r.referralFee
    else w.pay .quote .referralFee r.referralFee
  else pure w

/-- The world at the end of the sale.
Source: `instructions/swap/process_swap.rs` `process_swap`, `curve_complete`, from the comment
"set finish time and migration progress"; `revoke_transfer_hook` -/
def completed (w : World) : World :=
  { w with
    pool := { w.pool with
      finishCurveTimestamp := w.timestamp
      migrationProgress :=
        if d.config.lockedVestingConfig.hasVesting then .postBondingCurve else .lockedVesting }
    isTransferHookRevoked := w.isTransferHookRevoked || d.isTransferHookPool
    effects := (if d.isTransferHookPool then [.transferHookRevoked] else []) ++
      .finishCurveTimestamp w.timestamp :: w.effects }

/-- The end of the sale, once the threshold is raised.
Source: `instructions/swap/process_swap.rs` `process_swap`, `curve_complete` -/
def completeCurve (w : World) : Result World :=
  if w.pool.isCurveComplete d.config.migrationQuoteThreshold then do
    let fees ← w.pool.getProtocolAndTradingBaseFee
    let withFees ← safeAdd 64 d.config.migrationBaseThreshold fees
    let vesting ← d.config.lockedVestingConfig.getTotalAmount
    let requiredBaseBalance ← safeAdd 64 withFees vesting
    ensure (w.baseVault ≥ requiredBaseBalance) .insufficientLiquidityForMigration
    pure (d.completed w)
  else pure w

/-- A swap: its checks, its result, its transfers, and the end of the sale if it is reached.
Source: `instructions/swap/process_swap.rs` `process_swap` -/
def processSwap (w : World) (request : SwapRequest) (isVirtual : Bool) : Result World := do
  let c ← d.validateSwap w request isVirtual
  let (feeMode, r, p) ← d.computeSwap w request isVirtual c
  let w ← d.settleSwap (w.withPool p) request isVirtual feeMode r
  d.completeCurve w

/-! ## The instructions -/

/-- A swap on a pool without a transfer hook.
Source: `lib.rs` `swap2`; `instructions/swap/ix_swap.rs` `handle_swap_wrapper` -/
def swap2 (w : World) (request : SwapRequest) : Result World := do
  ensure (d.isTransferHookPool = false) .poolTypeMismatch
  d.processSwap w request false

/-- A swap on a pool with a transfer hook.
Source: `lib.rs` `swap2_with_transfer_hook`; `instructions/swap/ix_swap2_with_transfer_hook.rs`
`handle_swap_with_transfer_hook_wrapper` -/
def swap2WithTransferHook (w : World) (request : SwapRequest) : Result World := do
  ensure d.isTransferHookPool .poolTypeMismatch
  d.processSwap w request false

/-- A swap by the authority for virtual swaps, which brings no quote.
Source: `lib.rs` `virtual_swap2`; `access_control.rs` `is_virtual_swap_authority`;
`instructions/swap/ix_swap.rs` `handle_swap_wrapper` -/
def virtualSwap2 (w : World) (request : SwapRequest) : Result World := do
  ensure (request.payer = VIRTUAL_SWAP_AUTHORITY) .unauthorized
  ensure (d.isTransferHookPool = false) .poolTypeMismatch
  d.processSwap w request true

end Deployment

end DynamicBondingCurve
