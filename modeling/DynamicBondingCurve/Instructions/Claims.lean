import DynamicBondingCurve.State.World

/-!
# Claims

The instructions that pay fees and surplus out of the vaults of a pool: the trading fees of the
partner and of the creator, the fees of the protocol (by three instructions), the surplus shares
and the two shares of the migration fee. Each of the last four is paid once, against a flag.
-/

namespace DynamicBondingCurve

open Library

/-- The two parties that withdraw a migration fee.
Source: `instructions/migration/ix_withdraw_migration_fee.rs` `SenderFlag` -/
inductive SenderFlag where
  | partner
  | creator
  deriving DecidableEq, Repr

/-- The party that a byte stands for.
Source: `instructions/migration/ix_withdraw_migration_fee.rs` `SenderFlag`, the conversion from its
byte -/
def SenderFlag.tryFrom : ℕ → Option SenderFlag
  | 0 => some .partner
  | 1 => some .creator
  | _ => none

namespace Deployment

variable (d : Deployment)

/-! ## Access control -/

/-- The signer is the partner that the configuration names.
Source: `access_control.rs` `is_partner_fee_claimer` -/
def isPartnerFeeClaimer (signer : Pubkey) : Result Unit :=
  ensure (d.config.feeClaimer = signer) .unauthorized

/-- The signer is the creator of the pool.
Source: `access_control.rs` `is_pool_creator` -/
def isPoolCreator (w : World) (signer : Pubkey) : Result Unit :=
  ensure (w.pool.creator = signer) .unauthorized

/-- An instruction that only takes the account type without a transfer hook.
Source: the account loaders of `VirtualPool`, as they check the type of the account -/
def loadVirtualPool : Result Unit :=
  require (d.isTransferHookPool = false) Fault.account

/-! ## Trading fees -/

/-- The partner claims its trading fees, up to a limit for each token.
Source: `instructions/partner/ix_claim_partner_trading_fee.rs` `handle_claim_trading_fee` -/
def claimTradingFee (w : World) (signer : Pubkey) (maxBaseAmount maxQuoteAmount : ℕ)
    (hasTransferHookAccounts : Bool) : Result World := do
  d.isPartnerFeeClaimer signer
  ensure (hasTransferHookAccounts ∨ ¬ d.isTransferHookPool) .poolTypeMismatch
  let ((tokenBaseAmount, tokenQuoteAmount), p) ←
    w.pool.claimPartnerTradingFee maxBaseAmount maxQuoteAmount
  let w ← (w.withPool p).payPositive .base .partnerTradingFee tokenBaseAmount
  w.payPositive .quote .partnerTradingFee tokenQuoteAmount

/-- The creator claims its trading fees, up to a limit for each token.
Source: `instructions/creator/ix_claim_creator_trading_fee.rs` `handle_claim_creator_trading_fee` -/
def claimCreatorTradingFee (w : World) (signer : Pubkey) (maxBaseAmount maxQuoteAmount : ℕ)
    (hasTransferHookAccounts : Bool) : Result World := do
  isPoolCreator w signer
  ensure (hasTransferHookAccounts ∨ ¬ d.isTransferHookPool) .poolTypeMismatch
  let ((tokenBaseAmount, tokenQuoteAmount), p) ←
    w.pool.claimCreatorTradingFee maxBaseAmount maxQuoteAmount
  let w ← (w.withPool p).payPositive .base .creatorTradingFee tokenBaseAmount
  w.payPositive .quote .creatorTradingFee tokenQuoteAmount

/-! ## Protocol fees -/

/-- The protocol's fees on the base token, paid out.
Source: `claim_protocol_base_fee` and the transfer after it -/
def payProtocolBaseFee (w : World) (maxAmount : ℕ) : Result World := do
  let (amount, p) ← w.pool.claimProtocolBaseFee maxAmount
  (w.withPool p).payPositive .base .protocolFee amount

/-- The protocol's fees on the quote token and its surplus, paid out.
Source: `claim_protocol_quote_fee_and_surplus` and the transfer after it -/
def payProtocolQuoteFee (w : World) (maxAmount : ℕ) : Result World := do
  let (amount, p) ← w.pool.claimProtocolQuoteFeeAndSurplus maxAmount d.config
  (w.withPool p).payPositive .quote .protocolFee amount

/-- An operator claims the protocol's fees, up to a limit for each token.
Source: `instructions/operator/ix_claim_protocol_fee.rs` `handle_claim_protocol_fee` -/
def claimProtocolFee (w : World) (maxBaseAmount maxQuoteAmount : ℕ) : Result World := do
  d.loadVirtualPool
  let w ← payProtocolBaseFee w maxBaseAmount
  d.payProtocolQuoteFee w maxQuoteAmount

/-- An operator claims the protocol's fees of one token, up to a limit.
Source: `instructions/operator/ix_claim_protocol_fee2.rs` `handle_claim_protocol_fee2` -/
def claimProtocolFee2 (w : World) (isClaimingBase : Bool) (maxAmount : ℕ) : Result World :=
  if isClaimingBase then do
    (if d.isTransferHookPool then
      ensure (w.pool.isCurveComplete d.config.migrationQuoteThreshold) .poolIsIncompleted
    else pure ())
    payProtocolBaseFee w maxAmount
  else d.payProtocolQuoteFee w maxAmount

/-- An operator withdraws the protocol's fees of one token to swap them on.
Source: `instructions/operator/ix_zap_protocol_fee.rs` `handle_zap_protocol_fee` -/
def zapProtocolFee (w : World) (isWithdrawingBase : Bool) (maxAmount : ℕ) : Result World := do
  d.loadVirtualPool
  if isWithdrawingBase then do
    let (amount, p) ← w.pool.claimProtocolBaseFee maxAmount
    ensure (amount > 0) .amountIsZero
    (w.withPool p).pay .base .protocolFee amount
  else do
    let (amount, p) ← w.pool.claimProtocolQuoteFeeAndSurplus maxAmount d.config
    ensure (amount > 0) .amountIsZero
    (w.withPool p).pay .quote .protocolFee amount

/-! ## The surplus -/

/-- The partner withdraws its part of the surplus, once.
Source: `instructions/partner/ix_withdraw_partner_surplus.rs` `handle_partner_withdraw_surplus` -/
def partnerWithdrawSurplus (w : World) (signer : Pubkey) : Result World := do
  d.isPartnerFeeClaimer signer
  ensure (w.pool.hasRealQuoteSurplus d.config.getMigrationQuoteAmountCap) .notPermitToDoThisAction
  ensure (w.pool.isPartnerWithdrawSurplus = 0) .surplusHasBeenWithdraw
  let totalSurplus ← w.pool.getTotalSurplus d.config.getMigrationQuoteAmountCap
  let partnerSurplusAmount ← PoolState.getPartnerSurplus d.config totalSurplus
  let w ← w.pay .quote .partnerSurplus partnerSurplusAmount
  pure (w.withPool { w.pool with isPartnerWithdrawSurplus := 1 })

/-- The creator withdraws its part of the surplus, once.
Source: `instructions/creator/ix_withdraw_creator_surplus.rs` `handle_creator_withdraw_surplus` -/
def creatorWithdrawSurplus (w : World) (signer : Pubkey) : Result World := do
  isPoolCreator w signer
  ensure (d.config.isFixedMigrationQuoteAmountEnabled = false) .notPermitToDoThisAction
  ensure (w.pool.hasRealQuoteSurplus d.config.getMigrationQuoteAmountCap) .notPermitToDoThisAction
  ensure (w.pool.isCreatorWithdrawSurplus = 0) .surplusHasBeenWithdraw
  let totalSurplus ← w.pool.getTotalSurplus d.config.getMigrationQuoteAmountCap
  let creatorSurplusAmount ← PoolState.getCreatorSurplus d.config totalSurplus
  let w ← w.pay .quote .creatorSurplus creatorSurplusAmount
  pure (w.withPool { w.pool with isCreatorWithdrawSurplus := 1 })

/-! ## The migration fee -/

/-- One share of the migration fee, paid once against its mask.
Source: `instructions/migration/ix_withdraw_migration_fee.rs` `handle_withdraw_migration_fee`, a
branch on `sender_flag` and the transfer after it -/
def payMigrationFee (w : World) (signer owner : Pubkey) (mask : ℕ) (purpose : Purpose)
    (fee : ℕ) : Result World := do
  ensure (signer = owner) .notPermitToDoThisAction
  ensure (w.pool.eligibleToWithdrawMigrationFee mask) .migrationFeeHasBeenWithdraw
  (w.withPool (w.pool.updateWithdrawMigrationFee mask)).pay .quote purpose fee

/-- The partner or the creator withdraws its part of the migration fee, once.
Source: `instructions/migration/ix_withdraw_migration_fee.rs` `handle_withdraw_migration_fee` -/
def withdrawMigrationFee (w : World) (signer : Pubkey) (flag : ℕ) : Result World := do
  ensure (w.pool.isCurveComplete d.config.migrationQuoteThreshold ∨
    w.pool.migrationProgress = .createdPool) .notPermitToDoThisAction
  let distribution ← d.config.getMigrationFeeDistributionForThreshold
    (w.pool.effectiveMigrationQuoteThreshold d.config.getMigrationQuoteAmountCap)
  let senderFlag ← orThrow (SenderFlag.tryFrom flag) (Fault.error .typeCastFailed)
  match senderFlag with
  | .partner =>
      payMigrationFee w signer d.config.feeClaimer PARTNER_MIGRATION_FEE_MASK
        .partnerMigrationFee distribution.partnerMigrationFee
  | .creator =>
      payMigrationFee w signer w.pool.creator CREATOR_MIGRATION_FEE_MASK
        .creatorMigrationFee distribution.creatorMigrationFee

/-! ## The creator -/

/-- A pool is handed to a new creator before the end of the sale, or after its liquidity was
handed out; the flag says that the shares of the first program's liquidity were all locked and
claimed.
Source: `instructions/creator/ix_transfer_pool_creator.rs` `handle_transfer_pool_creator`;
`TransferPoolCreatorCtx`, the constraint on the new creator -/
def transferPoolCreator (w : World) (signer newCreator : Pubkey) (isLiquidityHandedOut : Bool) :
    Result World := do
  isPoolCreator w signer
  ensure (newCreator ≠ w.pool.creator) .invalidNewCreator
  (match w.pool.migrationProgress with
    | .preBondingCurve => pure ()
    | .createdPool => do
        let migrationOption ← orThrow (MigrationOption.tryFrom d.config.migrationOption)
          (Fault.error .invalidMigrationOption)
        (if migrationOption = .meteoraDamm then
          ensure isLiquidityHandedOut .notPermitToDoThisAction
        else pure ())
    | _ => fail .notPermitToDoThisAction)
  pure (w.withPool { w.pool with creator := newCreator })

end Deployment

end DynamicBondingCurve
