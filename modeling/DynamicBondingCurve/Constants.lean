import DynamicBondingCurve.Math.SafeMath

/-!
# Constants and enumerations

The constants of the program that the model uses, and the enumerations that the account data
stores as a byte, each with the conversion from the byte.
-/

namespace DynamicBondingCurve

/-! ## Constants -/

/-- The lowest square root of a price, in sixty-four bits of fraction.
Source: `constants.rs` `MIN_SQRT_PRICE` -/
def MIN_SQRT_PRICE : ℕ := 4295048016
/-- The highest square root of a price, in sixty-four bits of fraction.
Source: `constants.rs` `MAX_SQRT_PRICE` -/
def MAX_SQRT_PRICE : ℕ := 79226673521066979257578248091
/-- The basis points of a whole.
Source: `constants.rs` `BASIS_POINT_MAX` -/
def BASIS_POINT_MAX : ℕ := 10000
/-- The largest number of twenty-four bits.
Source: `constants.rs` `U24_MAX` -/
def U24_MAX : ℕ := 0xffffff
/-- One, in sixty-four bits of fraction.
Source: `constants.rs` `ONE_Q64` -/
def ONE_Q64 : ℕ := 2 ^ 64
/-- The bin step of a dynamic fee, in basis points.
Source: `constants.rs` `dynamic_fee::BIN_STEP_BPS_DEFAULT` -/
def BIN_STEP_BPS_DEFAULT : ℕ := 1
/-- The bin step of a dynamic fee, in sixty-four bits of fraction.
Source: `constants.rs` `dynamic_fee::BIN_STEP_BPS_U128_DEFAULT` -/
def BIN_STEP_BPS_U128_DEFAULT : ℕ := 1844674407370955
/-- The lowest base fee of a migrated pool, in basis points.
Source: `constants.rs` `MIN_MIGRATED_POOL_FEE_BPS` -/
def MIN_MIGRATED_POOL_FEE_BPS : ℕ := 10
/-- The highest base fee of a migrated pool, in basis points.
Source: `constants.rs` `MAX_MIGRATED_POOL_FEE_BPS` -/
def MAX_MIGRATED_POOL_FEE_BPS : ℕ := 1000
/-- The most points of a curve that may be submitted.
Source: `constants.rs` `MAX_CURVE_POINT` -/
def MAX_CURVE_POINT : ℕ := 16
/-- The points of a curve that a configuration stores.
Source: `constants.rs` `MAX_CURVE_POINT_CONFIG` -/
def MAX_CURVE_POINT_CONFIG : ℕ := 20
/-- The part of the base for sale that is kept in addition to it, in percent.
Source: `constants.rs` `SWAP_BUFFER_PERCENTAGE` -/
def SWAP_BUFFER_PERCENTAGE : ℕ := 25
/-- The part of the surplus that is the partner's and the creator's, in percent.
Source: `constants.rs` `PARTNER_AND_CREATOR_SURPLUS_SHARE` -/
def PARTNER_AND_CREATOR_SURPLUS_SHARE : ℕ := 100
/-- The longest time for which a rate limiter is in force, in seconds.
Source: `constants.rs` `MAX_RATE_LIMITER_DURATION_IN_SECONDS` -/
def MAX_RATE_LIMITER_DURATION_IN_SECONDS : ℕ := 60 * 60 * 12
/-- The longest time for which a rate limiter is in force, in slots.
Source: `constants.rs` `MAX_RATE_LIMITER_DURATION_IN_SLOTS` -/
def MAX_RATE_LIMITER_DURATION_IN_SLOTS : ℕ := 108000
/-- The highest migration fee, in percent.
Source: `constants.rs` `MAX_MIGRATION_FEE_PERCENTAGE` -/
def MAX_MIGRATION_FEE_PERCENTAGE : ℕ := 99
/-- The part of the migrated liquidity that is to be locked for a day, in basis points.
Source: `constants.rs` `MIN_LOCKED_LIQUIDITY_BPS` -/
def MIN_LOCKED_LIQUIDITY_BPS : ℕ := 1000
/-- The longest time for which migrated liquidity vests, in seconds.
Source: `constants.rs` `MAX_LOCK_DURATION_IN_SECONDS` -/
def MAX_LOCK_DURATION_IN_SECONDS : ℕ := 3600 * 24 * 365 * 2
/-- The denominator of every fee.
Source: `constants.rs` `fee::FEE_DENOMINATOR` -/
def FEE_DENOMINATOR : ℕ := 1000000000
/-- The numerator of the highest fee, ninety-nine percent.
Source: `constants.rs` `fee::MAX_FEE_NUMERATOR` -/
def MAX_FEE_NUMERATOR : ℕ := 990000000
/-- The basis points of a whole fee.
Source: `constants.rs` `fee::MAX_BASIS_POINT` -/
def MAX_BASIS_POINT : ℕ := 10000
/-- The numerator of the lowest fee.
Source: `constants.rs` `fee::MIN_FEE_NUMERATOR` -/
def MIN_FEE_NUMERATOR : ℕ := 0
/-- The protocol's part of a fee, in percent.
Source: `constants.rs` `fee::PROTOCOL_FEE_PERCENT` -/
def PROTOCOL_FEE_PERCENT : ℕ := 20
/-- The referral's part of the protocol's part, in percent.
Source: `constants.rs` `fee::HOST_FEE_PERCENT` -/
def HOST_FEE_PERCENT : ℕ := 20
/-- The lowest creation fee that is not nothing.
Source: `constants.rs` `fee::MIN_POOL_CREATION_FEE` -/
def MIN_POOL_CREATION_FEE : ℕ := 1000000
/-- The highest creation fee.
Source: `constants.rs` `fee::MAX_POOL_CREATION_FEE` -/
def MAX_POOL_CREATION_FEE : ℕ := 100000000000
/-- The protocol's part of a migration, in basis points.
Source: `constants.rs` `fee::PROTOCOL_LIQUIDITY_MIGRATION_FEE_BPS` -/
def PROTOCOL_LIQUIDITY_MIGRATION_FEE_BPS : ℕ := 0
/-- The seconds of a day.
Source: the `SECONDS_PER_DAY` of the runtime -/
def SECONDS_PER_DAY : ℕ := 86400
/-- The key, read as a number.
Source: `lib.rs` `declare_id!` -/
def ID : ℕ := 0xb4e8e503030fe009d05c4ae3e18311325ce41e6cc35d2ac933788290cd04196e
/-- The key, read as a number.
Source: `instructions/admin/auth.rs` `virtual_swap_authority::ID` -/
def VIRTUAL_SWAP_AUTHORITY : ℕ :=
  0xde94f859273d435976e0bf164225a1b21b6b170b96e214b342ef44cdce60751d
/-- The flag of the partner's part of the migration fee.
Source: `state/virtual_pool.rs` `PARTNER_MIGRATION_FEE_MASK` -/
def PARTNER_MIGRATION_FEE_MASK : ℕ := 0b100
/-- The flag of the creator's part of the migration fee.
Source: `state/virtual_pool.rs` `CREATOR_MIGRATION_FEE_MASK` -/
def CREATOR_MIGRATION_FEE_MASK : ℕ := 0b010

/-! ## The bounds on a rate -/

/-- The denominator of a fee is positive. -/
theorem FEE_DENOMINATOR_pos : 0 < FEE_DENOMINATOR := by decide

/-- The denominator of a fee fits sixty-four bits. -/
theorem FEE_DENOMINATOR_lt : FEE_DENOMINATOR < 2 ^ 64 := by decide

/-- The highest rate leaves something.
Source: `constants.rs` `fee::MAX_FEE_NUMERATOR` -/
theorem MAX_FEE_NUMERATOR_lt : MAX_FEE_NUMERATOR < FEE_DENOMINATOR := by decide

/-! ## Enumerations -/

/-- Whether a trade sells the base or buys it.
Source: `params/swap.rs` `TradeDirection` -/
inductive TradeDirection where
  | baseToQuote
  | quoteToBase
  deriving DecidableEq, Repr

/-- The tokens in which fees are taken.
Source: `state/virtual_pool.rs` `CollectFeeMode` -/
inductive CollectFeeMode where
  | quoteToken
  | outputToken
  deriving DecidableEq, Repr

/-- The way to take fees that a byte stands for.
Source: `state/virtual_pool.rs` `CollectFeeMode`, the conversion from its byte -/
def CollectFeeMode.tryFrom : ℕ → Option CollectFeeMode
  | 0 => some .quoteToken
  | 1 => some .outputToken
  | _ => none

/-- What the time of a pool is counted in.
Source: `utils/activation_handler.rs` `ActivationType` -/
inductive ActivationType where
  | slot
  | timestamp
  deriving DecidableEq, Repr

/-- The clock that a byte stands for.
Source: `utils/activation_handler.rs` `ActivationType`, the conversion from its byte -/
def ActivationType.tryFrom : ℕ → Option ActivationType
  | 0 => some .slot
  | 1 => some .timestamp
  | _ => none

/-- The kinds of base fee.
Source: `state/config.rs` `BaseFeeMode` -/
inductive BaseFeeMode where
  | feeSchedulerLinear
  | feeSchedulerExponential
  | rateLimiter
  deriving DecidableEq, Repr

/-- The kind of base fee that a byte stands for.
Source: `state/config.rs` `BaseFeeMode`, the conversion from its byte -/
def BaseFeeMode.tryFrom : ℕ → Option BaseFeeMode
  | 0 => some .feeSchedulerLinear
  | 1 => some .feeSchedulerExponential
  | 2 => some .rateLimiter
  | _ => none

/-- The byte of a kind of base fee.
Source: `state/config.rs` `BaseFeeMode`, the conversion to its byte -/
def BaseFeeMode.toByte : BaseFeeMode → ℕ
  | .feeSchedulerLinear => 0
  | .feeSchedulerExponential => 1
  | .rateLimiter => 2

/-- Who keeps an authority over the base token.
Source: `state/config.rs` `TokenAuthorityOption` -/
inductive TokenAuthorityOption where
  | creatorUpdateAuthority
  | immutable
  | partnerUpdateAuthority
  | creatorUpdateAndMintAuthority
  | partnerUpdateAndMintAuthority
  deriving DecidableEq, Repr

/-- The option that a byte stands for.
Source: `state/config.rs` `TokenAuthorityOption`, the conversion from its byte -/
def TokenAuthorityOption.tryFrom : ℕ → Option TokenAuthorityOption
  | 0 => some .creatorUpdateAuthority
  | 1 => some .immutable
  | 2 => some .partnerUpdateAuthority
  | 3 => some .creatorUpdateAndMintAuthority
  | 4 => some .partnerUpdateAndMintAuthority
  | _ => none

/-- Whether somebody may mint more of the base token.
Source: `state/config.rs` `has_mint_authority` -/
def TokenAuthorityOption.hasMintAuthority : TokenAuthorityOption → Bool
  | .creatorUpdateAndMintAuthority => true
  | .partnerUpdateAndMintAuthority => true
  | _ => false

/-- The programs that a pool may migrate into.
Source: `state/config.rs` `MigrationOption` -/
inductive MigrationOption where
  | meteoraDamm
  | dammV2
  deriving DecidableEq, Repr

/-- The program that a byte stands for.
Source: `state/config.rs` `MigrationOption`, the conversion from its byte -/
def MigrationOption.tryFrom : ℕ → Option MigrationOption
  | 0 => some .meteoraDamm
  | 1 => some .dammV2
  | _ => none

/-- The two token programs.
Source: `state/config.rs` `TokenType` -/
inductive TokenType where
  | splToken
  | token2022
  deriving DecidableEq, Repr

/-- The token program that a byte stands for.
Source: `state/config.rs` `TokenType`, the conversion from its byte -/
def TokenType.tryFrom : ℕ → Option TokenType
  | 0 => some .splToken
  | 1 => some .token2022
  | _ => none

/-- How far a pool is on its way into another program.
Source: `state/virtual_pool.rs` `MigrationProgress` -/
inductive MigrationProgress where
  | preBondingCurve
  | postBondingCurve
  | lockedVesting
  | createdPool
  deriving DecidableEq, Repr

end DynamicBondingCurve
