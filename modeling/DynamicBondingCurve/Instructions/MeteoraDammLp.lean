import DynamicBondingCurve.Program
import DynamicBondingCurve.State.Distribution

/-!
# The shares of the first program's liquidity

A pool that migrates into the first program leaves its shares of the new pool with the pool
authority. Four parts of them are handed out later, on anyone's call: partner and creator each
have one part that is locked for good and one that is paid out.

* `MeteoraDammMigrationMetadata`: the four parts, with a status byte for each.
* `lockAsCreator` and its five siblings: `payOne` or `payBoth` on the member's own parts.
* `LpState`, `LpAction`, `Deployment.lpStep`: the pool together with its shares, and everything
  that can happen to them.
-/

namespace DynamicBondingCurve

open Library

/-! ## The account -/

/-- A part of the shares.
Source: `meteora_damm_metadata_state.rs` `MeteoraDammMigrationMetadata`, its four amounts -/
inductive LpShare where
  | partnerLocked
  | creatorLocked
  | partner
  | creator
  deriving DecidableEq, Repr

/-- The shares are the four combinations of a party and a way to hand out. -/
instance : Fintype LpShare where
  elems := {.partnerLocked, .creatorLocked, .partner, .creator}
  complete := fun s => by cases s <;> decide

/-- There is one such account for a pool; its key and the mint of the shares are left out.
Source: `meteora_damm_metadata_state.rs` `MeteoraDammMigrationMetadata` -/
structure MeteoraDammMigrationMetadata where
  partner : Pubkey
  partnerLockedLiquidity : ℕ
  partnerLiquidity : ℕ
  creatorLockedLiquidity : ℕ
  creatorLiquidity : ℕ
  creatorLockedStatus : ℕ
  partnerLockedStatus : ℕ
  creatorClaimStatus : ℕ
  partnerClaimStatus : ℕ
  deriving DecidableEq, Repr, Inhabited

namespace MeteoraDammMigrationMetadata

variable (m : MeteoraDammMigrationMetadata)

/-- The parts of the minted tokens are recorded.
Source: `meteora_damm_metadata_state.rs` `set_liquidity_token_minted` -/
def setLiquidityTokenMinted (l : LiquidityDistributionDammV1) : MeteoraDammMigrationMetadata :=
  { m with
    partnerLockedLiquidity := l.partnerLockedLiquidity
    partnerLiquidity := l.partnerLiquidity
    creatorLockedLiquidity := l.creatorLockedLiquidity
    creatorLiquidity := l.creatorLiquidity }

/-- The creator's part is marked as locked.
Source: `meteora_damm_metadata_state.rs` `set_creator_lock_status` -/
def setCreatorLockStatus : MeteoraDammMigrationMetadata := { m with creatorLockedStatus := 1 }

/-- The partner's part is marked as locked.
Source: `meteora_damm_metadata_state.rs` `set_partner_lock_status` -/
def setPartnerLockStatus : MeteoraDammMigrationMetadata := { m with partnerLockedStatus := 1 }

/-- The creator's part is marked as claimed.
Source: `meteora_damm_metadata_state.rs` `set_creator_claim_status` -/
def setCreatorClaimStatus : MeteoraDammMigrationMetadata := { m with creatorClaimStatus := 1 }

/-- The partner's part is marked as claimed.
Source: `meteora_damm_metadata_state.rs` `set_partner_claim_status` -/
def setPartnerClaimStatus : MeteoraDammMigrationMetadata := { m with partnerClaimStatus := 1 }

/-- Whether the creator's part is marked as locked.
Source: `meteora_damm_metadata_state.rs` `is_creator_liquidity_locked` -/
def isCreatorLiquidityLocked : Bool := m.creatorLockedStatus = 1

/-- Whether the partner's part is marked as locked.
Source: `meteora_damm_metadata_state.rs` `is_partner_liquidity_locked` -/
def isPartnerLiquidityLocked : Bool := m.partnerLockedStatus = 1

/-- Whether the creator's part is marked as claimed.
Source: `meteora_damm_metadata_state.rs` `is_creator_claim_liquidity` -/
def isCreatorClaimLiquidity : Bool := m.creatorClaimStatus = 1

/-- Whether the partner's part is marked as claimed.
Source: `meteora_damm_metadata_state.rs` `is_partner_claim_liquidity` -/
def isPartnerClaimLiquidity : Bool := m.partnerClaimStatus = 1

/-! ## Locking and claiming -/

/-- One part is handed out: it was not before, and there is something of it.
Source: `meteora_damm_metadata_state.rs` `lock_as_creator`, `lock_as_partner`,
`claim_as_creator`, `claim_as_partner` -/
def payOne (isPaid : Bool) (amount : ℕ) (paid : MeteoraDammMigrationMetadata) :
    Result (ℕ × MeteoraDammMigrationMetadata) := do
  ensure (isPaid = false) .notPermitToDoThisAction
  ensure (amount ≠ 0) .notPermitToDoThisAction
  pure (amount, paid)

/-- Two parts are handed out together: neither was before, and there is something of them.
Source: `meteora_damm_metadata_state.rs` `lock_as_self_partnered_creator`,
`claim_as_self_partnered_creator` -/
def payBoth (isCreatorPaid isPartnerPaid : Bool) (partnerAmount creatorAmount : ℕ)
    (paid : MeteoraDammMigrationMetadata) : Result (ℕ × MeteoraDammMigrationMetadata) := do
  ensure (isCreatorPaid = false ∧ isPartnerPaid = false) .notPermitToDoThisAction
  let amount ← safeAdd 64 partnerAmount creatorAmount
  ensure (amount ≠ 0) .notPermitToDoThisAction
  pure (amount, paid)

/-- The creator's part is locked, if it was not yet.
Source: `meteora_damm_metadata_state.rs` `lock_as_creator` -/
def lockAsCreator : Result (ℕ × MeteoraDammMigrationMetadata) :=
  payOne m.isCreatorLiquidityLocked m.creatorLockedLiquidity m.setCreatorLockStatus

/-- The partner's part is locked, if it was not yet.
Source: `meteora_damm_metadata_state.rs` `lock_as_partner` -/
def lockAsPartner : Result (ℕ × MeteoraDammMigrationMetadata) :=
  payOne m.isPartnerLiquidityLocked m.partnerLockedLiquidity m.setPartnerLockStatus

/-- Both parts are locked for one party that is both, if neither was yet.
Source: `meteora_damm_metadata_state.rs` `lock_as_self_partnered_creator` -/
def lockAsSelfPartneredCreator : Result (ℕ × MeteoraDammMigrationMetadata) :=
  payBoth m.isCreatorLiquidityLocked m.isPartnerLiquidityLocked m.partnerLockedLiquidity
    m.creatorLockedLiquidity m.setCreatorLockStatus.setPartnerLockStatus

/-- The creator's part is claimed, if it was not yet.
Source: `meteora_damm_metadata_state.rs` `claim_as_creator` -/
def claimAsCreator : Result (ℕ × MeteoraDammMigrationMetadata) :=
  payOne m.isCreatorClaimLiquidity m.creatorLiquidity m.setCreatorClaimStatus

/-- The partner's part is claimed, if it was not yet.
Source: `meteora_damm_metadata_state.rs` `claim_as_partner` -/
def claimAsPartner : Result (ℕ × MeteoraDammMigrationMetadata) :=
  payOne m.isPartnerClaimLiquidity m.partnerLiquidity m.setPartnerClaimStatus

/-- Both parts are claimed by one party that is both, if neither was yet.
Source: `meteora_damm_metadata_state.rs` `claim_as_self_partnered_creator` -/
def claimAsSelfPartneredCreator : Result (ℕ × MeteoraDammMigrationMetadata) :=
  payBoth m.isCreatorClaimLiquidity m.isPartnerClaimLiquidity m.partnerLiquidity
    m.creatorLiquidity m.setCreatorClaimStatus.setPartnerClaimStatus

/-- Every part was handed out, or there is nothing of it.
Source: `ix_transfer_pool_creator.rs` `handle_transfer_pool_creator`, its four checks on
`migration_metadata` -/
def isLiquidityHandedOut : Bool :=
  (m.partnerLockedLiquidity = 0 ∨ m.isPartnerLiquidityLocked) ∧
  (m.creatorLockedLiquidity = 0 ∨ m.isCreatorLiquidityLocked) ∧
  (m.creatorLiquidity = 0 ∨ m.isCreatorClaimLiquidity) ∧
  (m.partnerLiquidity = 0 ∨ m.isPartnerClaimLiquidity)

end MeteoraDammMigrationMetadata

/-! ## The state -/

/-- Shares that left the pool authority: the parts they are for, and how many.
Source: the calls of `lock` and `transfer` in `meteora_damm_lock_lp_token.rs` and
`meteora_damm_claim_lp_token.rs` -/
structure LpTransfer where
  shares : List LpShare
  amount : ℕ
  deriving DecidableEq, Repr

/-- A migrated pool, the account of its shares, the shares that the pool authority holds and
those that left it, the newest first.
Source: `meteora_damm_lock_lp_token.rs` `MigrateMeteoraDammLockLpTokenCtx` -/
structure LpState where
  world : World
  metadata : MeteoraDammMigrationMetadata
  lpVault : ℕ
  transfers : List LpTransfer
  deriving DecidableEq, Repr

namespace LpState

variable (s : LpState)

/-- How often a part left the pool authority. -/
def timesPaid (share : LpShare) : ℕ := s.transfers.countP fun t => share ∈ t.shares

/-- The shares that left the pool authority. -/
def paidOut : ℕ := (s.transfers.map LpTransfer.amount).sum

/-- Shares leave the pool authority.
Source: `meteora_damm_claim_lp_token.rs` `transfer`; `meteora_damm_lock_lp_token.rs` `lock` -/
def pay (shares : List LpShare) (metadata : MeteoraDammMigrationMetadata) (amount : ℕ) :
    Result LpState := do
  require (amount ≤ s.lpVault) Fault.account
  pure
    { s with
      metadata := metadata
      lpVault := s.lpVault - amount
      transfers := { shares := shares, amount := amount } :: s.transfers }

end LpState

/-! ## The instructions -/

/-- The program that locks shares: it may refuse, and it takes at most what it is asked to take.
Source: the call of `lock` of the program that pools migrate to, with its `max_amount` -/
structure LpLocker where
  take : ℕ → Option ℕ
  take_le : ∀ amount taken, take amount = some taken → taken ≤ amount

/-- A program that takes all that it is asked to take. -/
def LpLocker.takeAll : LpLocker where
  take := some
  take_le := fun amount taken h => by
    cases h
    exact le_rfl

/-- What happens to a pool and its shares: an instruction on the pool, a call to lock and a call
to claim, each for an owner.
Source: `lib.rs`, `migrate_meteora_damm_lock_lp_token`, `migrate_meteora_damm_claim_lp_token` and
the instructions on the pool -/
inductive LpAction where
  | pool (a : Action)
  | lock (owner : Pubkey) (locker : LpLocker)
  | claim (owner : Pubkey)

/-- Which of the three variants an owner gets.
Source: `meteora_damm_lock_lp_token.rs`, `meteora_damm_claim_lp_token.rs`, the match on
`(is_partner, is_creator)` -/
def variantOf {α : Type} (isPartner isCreator : Bool)
    (asSelfPartneredCreator asPartner asCreator : Result α) : Result α :=
  match isPartner, isCreator with
  | true, true => asSelfPartneredCreator
  | true, false => asPartner
  | false, true => asCreator
  | false, false => fail .invalidOwnerAccount

/-- The parts that an owner gets.
Source: `meteora_damm_lock_lp_token.rs`, `meteora_damm_claim_lp_token.rs`, the match on
`(is_partner, is_creator)` -/
def sharesOf (isPartner isCreator : Bool) (partnerShare creatorShare : LpShare) : List LpShare :=
  (if isPartner then [partnerShare] else []) ++ (if isCreator then [creatorShare] else [])

/-- An instruction on the pool, where a new creator is judged on the account of the shares.
Source: `ix_transfer_pool_creator.rs` `handle_transfer_pool_creator`, `migration_metadata` -/
def Action.withMetadata (m : MeteoraDammMigrationMetadata) : Action → Action
  | .transferPoolCreator signer newCreator _ =>
      .transferPoolCreator signer newCreator m.isLiquidityHandedOut
  | a => a

namespace Deployment

variable (d : Deployment)

/-- The record of the migration is created for the pool and its parties.
Source: `migration_meteora_damm_create_metadata.rs` `handle_migration_meteora_damm_create_metadata`
-/
def migrationMeteoraDammCreateMetadata : Result MeteoraDammMigrationMetadata := do
  let migrationOption ← orThrow (MigrationOption.tryFrom d.config.migrationOption)
    (Fault.error .invalidMigrationOption)
  ensure (migrationOption = .meteoraDamm) .invalidMigrationOption
  pure { (default : MeteoraDammMigrationMetadata) with partner := d.config.feeClaimer }

/-- The migration, and the shares that it mints.
Source: `migrate_meteora_damm_initialize_pool.rs` `handle_migrate_meteora_damm`, with its end from
`lp_minted_amount` -/
def migrateMeteoraDammLp (w : World) (amm : Amm) (metadata : MeteoraDammMigrationMetadata)
    (lpMintedAmount : ℕ) : Result LpState := do
  let w ← d.migrateMeteoraDamm w amm
  let liquidityDistribution ← d.config.getLiquidityDistribution lpMintedAmount
  let dammV1 ← liquidityDistribution.toLiquidityDistributionDammV1
  pure
    { world := w
      metadata := metadata.setLiquidityTokenMinted dammV1
      lpVault := lpMintedAmount
      transfers := [] }

/-- The tokens of a party are moved into its lock.
Source: `meteora_damm_lock_lp_token.rs` `handle_migrate_meteora_damm_lock_lp_token` -/
def migrateMeteoraDammLockLpToken (s : LpState) (owner : Pubkey) (locker : LpLocker) :
    Result LpState := do
  ensure (s.world.pool.migrationProgress = .createdPool) .notPermitToDoThisAction
  let isPartner : Bool := owner = s.metadata.partner
  let isCreator : Bool := owner = s.world.pool.creator
  let (liquidityTokenToLock, metadata) ← variantOf isPartner isCreator
    s.metadata.lockAsSelfPartneredCreator s.metadata.lockAsPartner s.metadata.lockAsCreator
  let taken ← orThrow (locker.take liquidityTokenToLock) Fault.account
  s.pay (sharesOf isPartner isCreator .partnerLocked .creatorLocked) metadata taken

/-- The tokens of a party are paid to it.
Source: `meteora_damm_claim_lp_token.rs` `handle_migrate_meteora_damm_claim_lp_token` -/
def migrateMeteoraDammClaimLpToken (s : LpState) (owner : Pubkey) : Result LpState := do
  ensure (s.world.pool.migrationProgress = .createdPool) .notPermitToDoThisAction
  let isPartner : Bool := owner = s.metadata.partner
  let isCreator : Bool := owner = s.world.pool.creator
  let (liquidityTokenToClaim, metadata) ← variantOf isPartner isCreator
    s.metadata.claimAsSelfPartneredCreator s.metadata.claimAsPartner s.metadata.claimAsCreator
  s.pay (sharesOf isPartner isCreator .partner .creator) metadata liquidityTokenToClaim

/-- One instruction on the pool or on its liquidity tokens.
Source: `lib.rs`, the dispatch of the instructions -/
def lpStep (s : LpState) : LpAction → Result LpState
  | .pool a => do
      let w ← d.step s.world (a.withMetadata s.metadata)
      pure { s with world := w }
  | .lock owner locker => migrateMeteoraDammLockLpToken s owner locker
  | .claim owner => migrateMeteoraDammClaimLpToken s owner

end Deployment

end DynamicBondingCurve
