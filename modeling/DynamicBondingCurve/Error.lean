import DynamicBondingCurve.Library.Outcome

/-!
# Errors of the program

* `PoolError`: the error codes of the program.
* `Fault`: everything that can abort a transaction, and `Result`, a computation that may.
-/

namespace DynamicBondingCurve

/-- The error codes of the program.
Source: `error.rs` `PoolError` -/
inductive PoolError where
  | mathOverflow
  | invalidFee
  | exceededSlippage
  | exceedMaxFeeBps
  | invalidAdmin
  | amountIsZero
  | typeCastFailed
  | invalidActivationType
  | invalidQuoteMint
  | invalidCollectFeeMode
  | invalidMigrationFeeOption
  | invalidInput
  | notEnoughLiquidity
  | poolIsCompleted
  | poolIsIncompleted
  | invalidMigrationOption
  | invalidTokenDecimals
  | invalidTokenType
  | invalidFeePercentage
  | invalidQuoteThreshold
  | invalidTokenSupply
  | invalidCurve
  | notPermitToDoThisAction
  | invalidOwnerAccount
  | invalidConfigAccount
  | surplusHasBeenWithdraw
  | leftoverHasBeenWithdraw
  | totalBaseTokenExceedMaxSupply
  | unsupportNativeMintToken2022
  | insufficientLiquidityForMigration
  | missingPoolConfigInRemainingAccount
  | invalidVestingParameters
  | invalidLeftoverAddress
  | insufficientLiquidity
  | invalidFeeScheduler
  | invalidCreatorTradingFeePercentage
  | invalidNewCreator
  | invalidTokenAuthorityOption
  | invalidAccount
  | invalidMigratorFeePercentage
  | migrationFeeHasBeenWithdraw
  | invalidBaseFeeMode
  | invalidFeeRateLimiter
  | failToValidateSingleSwapInstruction
  | invalidMigratedPoolFee
  | undeterminedError
  | rateLimiterNotSupported
  | amountLeftIsNotZero
  | nextSqrtPriceIsSmallerThanStartSqrtPrice
  | invalidMinBaseFee
  | accountInvariantViolation
  | invalidPoolCreationFee
  | poolCreationFeeHasBeenClaimed
  | unauthorized
  | zeroPoolCreationFee
  | invalidMigrationLockedLiquidity
  | invalidFeeMarketCapScheduler
  | firstSwapValidationFailed
  | incorrectATA
  | insufficientPoolLamports
  | invalidPermission
  | invalidWithdrawProtocolFeeZapAccounts
  | mintRestrictedFromZap
  | invalidZapOutParameters
  | cpiDisabled
  | missingZapOutInstruction
  | invalidZapAccounts
  | invalidCompoundingParameters
  | invalidClaimProtocolFeeAccounts
  | invalidInstructionsSysvar
  | invalidRemainingAccountsLength
  | missingRemainingAccountForTransferHook
  | noTransferHookProgram
  | duplicatedRemainingAccountTypes
  | invalidTransferHookProgram
  | invalidPoolAccount
  | poolTypeMismatch
  | invalidRemainingAccountSliceType
  | sellDisabled
  | invalidDeadlineTimestamp
  deriving DecidableEq, Repr

/-- The two tokens of a pool.
Source: `state/virtual_pool.rs` `PoolState` `base_vault`, `quote_vault` -/
inductive Token where
  | base
  | quote
  deriving DecidableEq, Repr

/-- Everything that aborts a transaction: an error code of the program, a panic (a failed
assertion, a raw arithmetic overflow), a transfer out of a vault that holds too little, or a
check of the account layer.
Source: `error.rs`; `Cargo.toml` `overflow-checks`; the token program -/
inductive Fault where
  | error (e : PoolError)
  | panic
  | insufficientFunds (vault : Token)
  | account
  deriving DecidableEq, Repr

/-- A computation of the program, which may abort.
Source: the result type of the language -/
abbrev Result (α : Type) := Except Fault α

/-- Stop with an error code of the program. -/
def fail {α : Type} (e : PoolError) : Result α := .error (.error e)

/-- A condition that is checked, with the error of its failure.
Source: the `require!` macro -/
abbrev ensure (c : Prop) [Decidable c] (e : PoolError) : Result Unit :=
  Library.require c (Fault.error e)

/-- A condition whose failure is a panic.
Source: the `assert!` macro -/
abbrev assert (c : Prop) [Decidable c] : Result Unit :=
  Library.require c Fault.panic

end DynamicBondingCurve
