import DynamicBondingCurve.Instructions.Swap
import DynamicBondingCurve.State.Trade
import DynamicBondingCurve.Instructions.Claims
import DynamicBondingCurve.Instructions.Migration
import DynamicBondingCurve.AcceptedConfig
import DynamicBondingCurve.Library.Transitions

/-!
# The program as a transition system

* `Action`, `Deployment.step`: everything that can happen to a pool, one instruction at a time.
  A failed instruction changes nothing, and the clock never runs backwards.
* `Deployment.initializePool`: how a pool begins; `World.genesis`: the world it begins in.
* `Launch`: a pool that began with an accepted configuration; `Launch.start`, how one is created;
  and `Launch.after`, the world that a run of the program leads to.
* `plainParameters`, `buyOf`, `Launch.ofParameters`: plain launches and plain buys.
-/

namespace DynamicBondingCurve

open Library

/-! ## Actions -/

/-- An instruction on a pool with its arguments, or the passing of time.
Source: `lib.rs`, the instructions of the program that act on a pool -/
inductive Action where
  | pass (slots seconds : ℕ)
  | swap2 (request : SwapRequest)
  | swap2WithTransferHook (request : SwapRequest)
  | virtualSwap2 (request : SwapRequest)
  | claimTradingFee (signer : Pubkey) (maxBaseAmount maxQuoteAmount : ℕ)
      (hasTransferHookAccounts : Bool)
  | claimCreatorTradingFee (signer : Pubkey) (maxBaseAmount maxQuoteAmount : ℕ)
      (hasTransferHookAccounts : Bool)
  | claimProtocolFee (maxBaseAmount maxQuoteAmount : ℕ)
  | claimProtocolFee2 (isClaimingBase : Bool) (maxAmount : ℕ)
  | zapProtocolFee (isWithdrawingBase : Bool) (maxAmount : ℕ)
  | partnerWithdrawSurplus (signer : Pubkey)
  | creatorWithdrawSurplus (signer : Pubkey)
  | withdrawMigrationFee (signer : Pubkey) (flag : ℕ)
  | transferPoolCreator (signer newCreator : Pubkey) (isLiquidityHandedOut : Bool)
  | createLocker (isAccepted : Bool)
  | migrateDammV2 (amm : Amm)
  | migrateMeteoraDamm (amm : Amm)
  | withdrawLeftover

namespace Deployment

variable (d : Deployment)

/-- One instruction of the program, or the passing of time.
Source: `lib.rs`, the dispatch of the instructions -/
def step (w : World) : Action → Result World
  | .pass slots seconds =>
      .ok { w with slot := w.slot + slots, timestamp := w.timestamp + seconds }
  | .swap2 request => d.swap2 w request
  | .swap2WithTransferHook request => d.swap2WithTransferHook w request
  | .virtualSwap2 request => d.virtualSwap2 w request
  | .claimTradingFee signer maxBase maxQuote hasTransferHookAccounts =>
      d.claimTradingFee w signer maxBase maxQuote hasTransferHookAccounts
  | .claimCreatorTradingFee signer maxBase maxQuote hasTransferHookAccounts =>
      d.claimCreatorTradingFee w signer maxBase maxQuote hasTransferHookAccounts
  | .claimProtocolFee maxBase maxQuote => d.claimProtocolFee w maxBase maxQuote
  | .claimProtocolFee2 isClaimingBase maxAmount => d.claimProtocolFee2 w isClaimingBase maxAmount
  | .zapProtocolFee isWithdrawingBase maxAmount => d.zapProtocolFee w isWithdrawingBase maxAmount
  | .partnerWithdrawSurplus signer => d.partnerWithdrawSurplus w signer
  | .creatorWithdrawSurplus signer => d.creatorWithdrawSurplus w signer
  | .withdrawMigrationFee signer flag => d.withdrawMigrationFee w signer flag
  | .transferPoolCreator signer newCreator isLiquidityHandedOut =>
      d.transferPoolCreator w signer newCreator isLiquidityHandedOut
  | .createLocker isAccepted => d.createLocker w isAccepted
  | .migrateDammV2 amm => d.migrateDammV2 w amm
  | .migrateMeteoraDamm amm => d.migrateMeteoraDamm w amm
  | .withdrawLeftover => d.withdrawLeftover w

end Deployment

/-! ## How a pool begins -/

/-- The arguments of the creation of a pool, and the clock at that moment.
Source: `instructions/initialize_pool/ix_initialize_virtual_pool_with_spl_token.rs`
`InitializePoolParameters`; the accounts of the three instructions -/
structure InitializePoolRequest where
  creator : Pubkey
  tokenType : TokenType
  deadlineTimestamp : ℕ
  slot : ℕ
  timestamp : ℕ
  deriving DecidableEq, Repr

/-- The state of a new pool.
Source: `state/virtual_pool.rs` `initialize` -/
def PoolState.initializeState (creator : Pubkey) (sqrtPrice activationPoint baseReserve
    protocolLiquidityMigrationFeeBps deadlineTimestamp : ℕ) : PoolState :=
  { volatilityTracker := default
    creator := creator
    baseReserve := baseReserve
    quoteReserve := 0
    protocolBaseFee := 0
    protocolQuoteFee := 0
    partnerBaseFee := 0
    partnerQuoteFee := 0
    sqrtPrice := sqrtPrice
    activationPoint := activationPoint
    isMigrated := 0
    isPartnerWithdrawSurplus := 0
    isProtocolWithdrawSurplus := 0
    migrationProgress := .preBondingCurve
    isWithdrawLeftover := 0
    isCreatorWithdrawSurplus := 0
    migrationFeeWithdrawStatus := 0
    metrics := default
    finishCurveTimestamp := 0
    creatorBaseFee := 0
    creatorQuoteFee := 0
    hasSwap := 0
    protocolLiquidityMigrationFeeBps := protocolLiquidityMigrationFeeBps
    protocolMigrationBaseFeeAmount := 0
    protocolMigrationQuoteFeeAmount := 0
    deadlineTimestamp := deadlineTimestamp
    virtualQuoteReserve := 0 }

/-- The world of a new pool: the whole supply is minted into the base vault.
Source: `instructions/initialize_pool/ix_initialize_virtual_pool_with_spl_token.rs`
`handle_initialize_virtual_pool_with_spl_token`, from the comment "mint token" -/
def World.genesis (p : PoolState) (slot timestamp : ℕ) : World :=
  { pool := p
    baseVault := p.baseReserve
    quoteVault := 0
    baseSupply := p.baseReserve
    isTransferHookRevoked := false
    slot := slot
    timestamp := timestamp
    effects := [] }

namespace Deployment

variable (d : Deployment)

/-- The creation of a pool.
Source: `instructions/initialize_pool/ix_initialize_virtual_pool_with_spl_token.rs`
`handle_initialize_virtual_pool_with_spl_token`;
`instructions/initialize_pool/process_initialize_virtual_pool_with_token2022.rs`
`process_initialize_virtual_pool_with_token2022`, which checks the same -/
def initializePool (request : InitializePoolRequest) : Result World := do
  ensure (request.deadlineTimestamp = 0 ∨ request.deadlineTimestamp > request.timestamp)
    .invalidDeadlineTimestamp
  let lockedBps ← d.config.getTotalLiquidityLockedBpsAtNSeconds SECONDS_PER_DAY
  ensure (lockedBps ≥ MIN_LOCKED_LIQUIDITY_BPS) .invalidMigrationLockedLiquidity
  d.config.poolFees.baseFee.validateMinBaseFee
  let tokenType ← orThrow (TokenType.tryFrom d.config.tokenType) (Fault.error .invalidTokenType)
  ensure (tokenType = request.tokenType) .invalidTokenType
  require (d.isTransferHookPool → request.tokenType = .token2022) Fault.account
  let tokenAuthority ← d.config.getTokenAuthority
  let initialBaseSupply ← d.config.getInitialBaseSupply
  ensure (d.isTransferHookPool ∨ ¬ tokenAuthority.hasMintAuthority) .invalidTokenAuthorityOption
  let activationType ← orThrow (ActivationType.tryFrom d.config.activationType)
    (Fault.error .invalidActivationType)
  let activationPoint := match activationType with
    | .slot => request.slot
    | .timestamp => request.timestamp
  pure (.genesis
    (.initializeState request.creator d.config.sqrtStartPrice activationPoint initialBaseSupply
      PROTOCOL_LIQUIDITY_MIGRATION_FEE_BPS request.deadlineTimestamp)
    request.slot request.timestamp)

/-- What a pool begins with.
Source: `state/virtual_pool.rs` `initialize` -/
theorem initializePool_spec {d : Deployment} {request : InitializePoolRequest} {w : World}
    (h : d.initializePool request = .ok w) : ∃ activationPoint supply,
      d.config.getInitialBaseSupply = .ok supply ∧
      w = .genesis
        (.initializeState request.creator d.config.sqrtStartPrice activationPoint supply
          PROTOCOL_LIQUIDITY_MIGRATION_FEE_BPS request.deadlineTimestamp)
        request.slot request.timestamp ∧
      (request.deadlineTimestamp = 0 ∨ request.timestamp < request.deadlineTimestamp) ∧
      w.getCurrentPoint d.config.activationType = .ok activationPoint := by
  simp only [initializePool, bind_eq_ok, exists_unit, require_eq_ok, orThrow_eq_ok,
    pure_eq_ok] at h
  obtain ⟨hdeadline, _, _, _, _, _, _, _, _, _, _, supply, hsupply, _, kind, hkind, rfl⟩ := h
  refine ⟨_, supply, hsupply, rfl, hdeadline, ?_⟩
  exact bind_eq_ok.mpr ⟨kind, orThrow_eq_ok.mpr hkind, rfl⟩

end Deployment

/-- A pool that began with an accepted configuration.
Source: `instructions/partner/create_config/process_create_config.rs`; the three instructions
that create a pool -/
structure Launch where
  accepted : AcceptedConfig
  baseMint : Pubkey
  request : InitializePoolRequest
  genesis : World
  launched : Deployment.initializePool
    { config := accepted.config
      isTransferHookPool := accepted.isTransferHook
      baseMint := baseMint } request = .ok genesis

namespace Launch

/-- The pool that a request creates.
Source: `instructions/initialize_pool`, the three instructions that create a pool -/
def start (accepted : AcceptedConfig) (baseMint : Pubkey) (request : InitializePoolRequest) :
    Option Launch :=
  match launched : Deployment.initializePool
      { config := accepted.config
        isTransferHookPool := accepted.isTransferHook
        baseMint := baseMint } request with
  | .ok genesis => some ⟨accepted, baseMint, request, genesis, launched⟩
  | .error _ => none

variable (l : Launch)

/-- The configuration of a launch. -/
abbrev config : PoolConfig := l.accepted.config

/-- The pool of a launch with what never changes about it. -/
def deployment : Deployment :=
  { config := l.accepted.config
    isTransferHookPool := l.accepted.isTransferHook
    baseMint := l.baseMint }

/-- The world after a run of the program. -/
def after (actions : List Action) : World := run l.deployment.step l.genesis actions

/-- A run in two parts. -/
theorem after_append (as bs : List Action) :
    l.after (as ++ bs) = run l.deployment.step (l.after as) bs :=
  run_append _ _ _ _

/-- The supply minted for the pool.
Source: `state/config.rs` `get_initial_base_supply` -/
def initialBaseSupply : ℕ := l.genesis.pool.baseReserve

/-- The state that a launch begins with.
Source: `state/virtual_pool.rs` `initialize` -/
theorem genesis_eq : ∃ activationPoint,
    l.config.getInitialBaseSupply = .ok l.initialBaseSupply ∧
      l.genesis = .genesis
        (.initializeState l.request.creator l.config.sqrtStartPrice activationPoint
          l.initialBaseSupply PROTOCOL_LIQUIDITY_MIGRATION_FEE_BPS l.request.deadlineTimestamp)
        l.request.slot l.request.timestamp ∧
      (l.request.deadlineTimestamp = 0 ∨ l.request.timestamp < l.request.deadlineTimestamp) ∧
      l.genesis.getCurrentPoint l.config.activationType = .ok activationPoint := by
  obtain ⟨activationPoint, supply, hsupply, hgenesis, hdeadline, hpoint⟩ :=
    Deployment.initializePool_spec l.launched
  have hsame : supply = l.initialBaseSupply := by
    rw [initialBaseSupply, hgenesis]
    rfl
  rw [hsame] at hsupply hgenesis
  exact ⟨activationPoint, hsupply, hgenesis, hdeadline, hpoint⟩

end Launch

/-! ## A plain launch -/

/-- A fee of one percent, a migration into the second program with all liquidity locked by the
partner, no vesting and a supply that follows the curve.
Source: `process_create_config.rs` `ConfigParameters` -/
def plainParameters (sqrtStartPrice migrationQuoteThreshold : ℕ)
    (curve : List LiquidityDistributionParameters) : ConfigParameters :=
  { (default : ConfigParameters) with
    poolFees :=
      { baseFee := { (default : BaseFeeConfig) with cliffFeeNumerator := 10000000 }
        dynamicFee := none }
    migrationOption := 1
    tokenDecimal := 6
    partnerPermanentLockedLiquidityPercentage := 100
    migrationQuoteThreshold := migrationQuoteThreshold
    sqrtStartPrice := sqrtStartPrice
    curve := curve }

/-- A quote token of the older token program.
Source: `utils/token.rs` `is_supported_quote_mint` -/
def plainQuoteMint : QuoteMint :=
  { key := 1
    ownedByTokenProgram := true
    isNativeMint2022 := false
    onlyMetadataExtensions := true }

/-- A request for a pool, with or without a deadline.
Source: `ix_initialize_virtual_pool_with_spl_token.rs` `InitializePoolParameters` -/
def plainRequest (tokenType : TokenType) (deadlineTimestamp : ℕ) : InitializePoolRequest :=
  { creator := 5
    tokenType := tokenType
    deadlineTimestamp := deadlineTimestamp
    slot := 1
    timestamp := 1 }

/-- A buy in a transaction of its own.
Source: `instructions/swap/process_swap.rs` `SwapParameters2` -/
def buyOf (swapMode amount0 amount1 : ℕ) : SwapRequest :=
  { params := { amount0 := amount0, amount1 := amount1, swapMode := swapMode }
    payer := 6
    inputMint := 1
    hasReferralAccount := true
    isSingleSwap := true
    containsInitializePool := false }

/-- The launch of a pool on submitted parameters.
Source: `instructions/partner/create_config`; `instructions/initialize_pool` -/
def Launch.ofParameters (params : ConfigParameters) (isTransferHook : Bool) (tokenType : TokenType)
    (deadlineTimestamp : ℕ) : Option Launch :=
  (AcceptedConfig.submit params plainQuoteMint 1 isTransferHook 2 3).bind fun accepted =>
    Launch.start accepted 4 (plainRequest tokenType deadlineTimestamp)

end DynamicBondingCurve
