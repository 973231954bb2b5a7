import DynamicBondingCurve.Constants
import DynamicBondingCurve.State.Config
import DynamicBondingCurve.Library.Entitlements

/-!
# The pool creation fee

Whoever creates a pool pays a fee in lamports, which the account of the pool holds until the partner
and the protocol claim their shares of it. A pool of an earlier version may hold a second fee, which
is the protocol's.

* `PoolAccount`: the lamports of the account and the bits of the claims.
* `splitPoolCreationFee`: the two shares.
* `claimPartnerPoolCreationFee`, `claimProtocolPoolCreationFee`: the claims.
* `Operator`, `isValidOperatorRole`: who may claim for the protocol.
-/

namespace DynamicBondingCurve

open Library

/-! ## Constants -/

/-- The protocol's part of the creation fee, in percent.
Source: `constants.rs` `fee::PROTOCOL_POOL_CREATION_FEE_PERCENT` -/
def PROTOCOL_POOL_CREATION_FEE_PERCENT : ℕ := 10
/-- The number of operations that an operator may be permitted.
Source: `constants.rs` `MAX_OPERATION` -/
def MAX_OPERATION : ℕ := 2
/-- The key, read as a number.
Source: `instructions/admin/auth.rs` `admin::ID` -/
def ADMIN : ℕ := 0x53c1a8ac3f0fd7fc5f2b467403bfc207495d38449577153ac35ce0f69645c30
/-- The flag of a pool that was charged the legacy creation fee.
Source: `state/virtual_pool.rs` `LEGACY_CREATION_FEE_CHARGED_MASK` -/
def LEGACY_CREATION_FEE_CHARGED_MASK : ℕ := 0b01
/-- The flag of a legacy creation fee that was claimed.
Source: `state/virtual_pool.rs` `LEGACY_CREATION_FEE_CLAIMED_MASK` -/
def LEGACY_CREATION_FEE_CLAIMED_MASK : ℕ := 0b10
/-- The flag of the partner's part of the creation fee.
Source: `state/virtual_pool.rs` `PARTNER_CREATION_FEE_CLAIMED_MASK` -/
def PARTNER_CREATION_FEE_CLAIMED_MASK : ℕ := 0b10
/-- The flag of the protocol's part of the creation fee.
Source: `state/virtual_pool.rs` `PROTOCOL_CREATION_FEE_CLAIMED_MASK` -/
def PROTOCOL_CREATION_FEE_CLAIMED_MASK : ℕ := 0b01
/-- The legacy creation fee.
Source: `instructions/operator/ix_claim_protocol_pool_creation_fee.rs`
`TOKEN_2022_POOL_WITH_OUTPUT_FEE_COLLECTION_CREATION_FEE` -/
def TOKEN_2022_POOL_WITH_OUTPUT_FEE_COLLECTION_CREATION_FEE : ℕ := 10000000

/-! ## Operators -/

/-- The operations that an operator may be permitted.
Source: `state/operator.rs` `OperatorPermission` -/
inductive OperatorPermission where
  | claimProtocolFee
  | zapProtocolFee
  deriving DecidableEq, Repr

/-- The place of an operation among the bits of a permission.
Source: `state/operator.rs` `OperatorPermission`, the conversion into its byte -/
def OperatorPermission.toNat : OperatorPermission → ℕ
  | .claimProtocolFee => 0
  | .zapProtocolFee => 1

/-- An operator and what it is permitted.
Source: `state/operator.rs` `Operator` -/
structure Operator where
  whitelistedAddress : Pubkey
  permission : ℕ
  deriving DecidableEq, Repr

/-- Whether an operator is permitted an operation.
Source: `state/operator.rs` `is_permission_allow` -/
def Operator.isPermissionAllow (o : Operator) (permission : OperatorPermission) : Bool :=
  o.permission &&& (1 <<< permission.toNat) ≠ 0

/-- The operator accounts. Their addresses are derived from the whitelisted ones, so that there is
at most one for each of these.
Source: `instructions/admin/ix_create_operator_account.rs` `CreateOperatorAccountCtx`, the seeds -/
structure Operators where
  account : Pubkey → Option Operator
  address_eq : ∀ address o, account address = some o → o.whitelistedAddress = address

namespace Operators

/-- No operator. -/
def empty : Operators where
  account := fun _ => none
  address_eq := fun _ _ h => by cases h

variable (os : Operators)

/-- The operators with one more account.
Source: the creation of an account by the runtime -/
def insert (whitelistedAddress : Pubkey) (permission : ℕ) : Operators where
  account := Function.update os.account whitelistedAddress
    (some { whitelistedAddress := whitelistedAddress, permission := permission })
  address_eq := by
    intro address o h
    by_cases hsame : address = whitelistedAddress
    · subst hsame
      rw [Function.update_self, Option.some.injEq] at h
      rw [← h]
    · rw [Function.update_of_ne hsame] at h
      exact os.address_eq address o h

/-- The operators with one account less.
Source: the closing of an account by the runtime -/
def erase (whitelistedAddress : Pubkey) : Operators where
  account := Function.update os.account whitelistedAddress none
  address_eq := by
    intro address o h
    by_cases hsame : address = whitelistedAddress
    · subst hsame
      rw [Function.update_self] at h
      cases h
    · rw [Function.update_of_ne hsame] at h
      exact os.address_eq address o h

/-- The signer is the administrator.
Source: `access_control.rs` `is_admin` -/
def isAdmin (signer : Pubkey) : Result Unit := ensure (signer = ADMIN) .invalidAdmin

/-- The administrator adds an operator.
Source: `instructions/admin/ix_create_operator_account.rs` `handle_create_operator_account` -/
def createOperatorAccount (signer whitelistedAddress : Pubkey) (permission : ℕ) :
    Result Operators := do
  require (os.account whitelistedAddress = none) Fault.account
  isAdmin signer
  ensure (permission > 0 ∧ permission < 1 <<< MAX_OPERATION) .invalidPermission
  pure (os.insert whitelistedAddress permission)

/-- The administrator removes an operator.
Source: `lib.rs` `close_operator_account` -/
def closeOperatorAccount (signer whitelistedAddress : Pubkey) : Result Operators := do
  require (os.account whitelistedAddress ≠ none) Fault.account
  isAdmin signer
  pure (os.erase whitelistedAddress)

/-- The operator account is the one that the instruction was given.
Source: `access_control.rs` `is_valid_operator_role` -/
def isValidOperatorRole (account signer : Pubkey) (permission : OperatorPermission) :
    Result Unit := do
  let operator ← orThrow (os.account account) Fault.account
  ensure (operator.whitelistedAddress = signer ∧ operator.isPermissionAllow permission)
    .invalidPermission

/-- The address may use the permission.
Source: `access_control.rs` `is_valid_operator_role` -/
def HasRole (address : Pubkey) (permission : OperatorPermission) : Prop :=
  ∃ o, os.account address = some o ∧ o.isPermissionAllow permission = true

variable {os}

/-- Whoever passes the check signs for its own operator account.
Source: `access_control.rs` `is_valid_operator_role` -/
theorem hasRole_of_isValid {account signer : Pubkey} {permission : OperatorPermission}
    (h : os.isValidOperatorRole account signer permission = .ok ()) :
    os.HasRole signer permission := by
  simp only [isValidOperatorRole, bind_eq_ok, orThrow_eq_ok, require_eq_ok] at h
  obtain ⟨o, ho, hsigner, hallow⟩ := h
  rw [← os.address_eq account o ho, hsigner] at ho
  exact ⟨o, ho, hallow⟩

end Operators

/-! ## The account of a pool -/

/-- The lamports of the account of a pool, and which of its creation fees were claimed.
Source: `state/virtual_pool.rs` `PoolState` `legacy_creation_fee_bits`, `creation_fee_bits`; the
balance of the account -/
structure PoolAccount where
  lamports : ℕ
  legacyCreationFeeBits : ℕ
  creationFeeBits : ℕ
  deriving DecidableEq, Repr

namespace PoolAccount

variable (a : PoolAccount)

/-- Whether the pool was charged the legacy creation fee.
Source: `state/virtual_pool.rs` `has_legacy_creation_fee` -/
def hasLegacyCreationFee : Bool :=
  a.legacyCreationFeeBits &&& LEGACY_CREATION_FEE_CHARGED_MASK ≠ 0

/-- Whether the legacy creation fee is still to be claimed.
Source: `state/virtual_pool.rs` `eligible_to_claim_legacy_creation_fee` -/
def eligibleToClaimLegacyCreationFee : Bool :=
  a.legacyCreationFeeBits &&& LEGACY_CREATION_FEE_CLAIMED_MASK = 0

/-- The legacy creation fee is marked as claimed.
Source: `state/virtual_pool.rs` `update_legacy_creation_fee_claimed` -/
def updateLegacyCreationFeeClaimed : PoolAccount :=
  { a with legacyCreationFeeBits := a.legacyCreationFeeBits ^^^ LEGACY_CREATION_FEE_CLAIMED_MASK }

/-- Whether the partner's part of the creation fee is still to be claimed.
Source: `state/virtual_pool.rs` `eligible_to_claim_partner_pool_creation_fee` -/
def eligibleToClaimPartnerPoolCreationFee : Bool :=
  a.creationFeeBits &&& PARTNER_CREATION_FEE_CLAIMED_MASK = 0

/-- The partner's part of the creation fee is marked as claimed.
Source: `state/virtual_pool.rs` `update_partner_pool_creation_fee_claimed` -/
def updatePartnerPoolCreationFeeClaimed : PoolAccount :=
  { a with creationFeeBits := a.creationFeeBits ^^^ PARTNER_CREATION_FEE_CLAIMED_MASK }

/-- Whether the protocol's part of the creation fee is still to be claimed.
Source: `state/virtual_pool.rs` `eligible_to_claim_protocol_pool_creation_fee` -/
def eligibleToClaimProtocolPoolCreationFee : Bool :=
  a.creationFeeBits &&& PROTOCOL_CREATION_FEE_CLAIMED_MASK = 0

/-- The protocol's part of the creation fee is marked as claimed.
Source: `state/virtual_pool.rs` `update_protocol_pool_creation_fee_claimed` -/
def updateProtocolPoolCreationFeeClaimed : PoolAccount :=
  { a with creationFeeBits := a.creationFeeBits ^^^ PROTOCOL_CREATION_FEE_CLAIMED_MASK }

/-- The transfer of lamports out of the account, which has to keep the minimum that the runtime asks
of an account of its size.
Source: `utils/token.rs` `transfer_lamports_from_pool_account` -/
def transferLamportsFromPoolAccount (minimumBalance lamports : ℕ) : Result PoolAccount := do
  require (lamports ≤ a.lamports) Fault.account
  let a := { a with lamports := a.lamports - lamports }
  ensure (a.lamports ≥ minimumBalance) .insufficientPoolLamports
  pure a

end PoolAccount

/-! ## The claims -/

/-- The protocol's share of a pool creation fee, and the partner's.
Source: `state/config.rs` `split_pool_creation_fee` -/
def splitPoolCreationFee (poolCreationFee : ℕ) : Result (ℕ × ℕ) := do
  let protocolFee ← safeMulDivCastU64 poolCreationFee PROTOCOL_POOL_CREATION_FEE_PERCENT 100 .down
  let partnerFee ← safeSub poolCreationFee protocolFee
  pure (protocolFee, partnerFee)

namespace PoolAccount

variable (a : PoolAccount) (minimumBalance poolCreationFee : ℕ)

/-- The account after the claim, and what the receiver gets.
Source: `instructions/partner/ix_claim_partner_pool_creation_fee.rs`
`handle_claim_partner_pool_creation_fee` -/
def claimPartnerPoolCreationFee : Result (ℕ × PoolAccount) := do
  let (_, partnerFee) ← splitPoolCreationFee poolCreationFee
  ensure (partnerFee > 0) .zeroPoolCreationFee
  ensure a.eligibleToClaimPartnerPoolCreationFee .poolCreationFeeHasBeenClaimed
  let a := a.updatePartnerPoolCreationFeeClaimed
  let a ← a.transferLamportsFromPoolAccount minimumBalance partnerFee
  pure (partnerFee, a)

/-- The protocol's share of the fee, once.
Source: `instructions/operator/ix_claim_protocol_pool_creation_fee.rs`
`handle_claim_protocol_pool_creation_fee`, the first value of `protocol_fee` -/
def claimProtocolShare : Result (ℕ × PoolAccount) :=
  if a.eligibleToClaimProtocolPoolCreationFee then do
    let a := a.updateProtocolPoolCreationFeeClaimed
    let (protocolFee, _) ← splitPoolCreationFee poolCreationFee
    pure (protocolFee, a)
  else pure (0, a)

/-- The fee of an earlier version on top of it, once.
Source: `instructions/operator/ix_claim_protocol_pool_creation_fee.rs`
`handle_claim_protocol_pool_creation_fee`, the block on `has_legacy_creation_fee` -/
def claimLegacyFee (protocolFee : ℕ) : Result (ℕ × PoolAccount) :=
  if a.hasLegacyCreationFee ∧ a.eligibleToClaimLegacyCreationFee then do
    let a := a.updateLegacyCreationFeeClaimed
    let protocolFee ← safeAdd 64 protocolFee
      TOKEN_2022_POOL_WITH_OUTPUT_FEE_COLLECTION_CREATION_FEE
    pure (protocolFee, a)
  else pure (protocolFee, a)

/-- The account after the claim, and what the treasury gets.
Source: `instructions/operator/ix_claim_protocol_pool_creation_fee.rs`
`handle_claim_protocol_pool_creation_fee` -/
def claimProtocolPoolCreationFee : Result (ℕ × PoolAccount) := do
  let (protocolFee, a) ← a.claimProtocolShare poolCreationFee
  let (protocolFee, a) ← a.claimLegacyFee protocolFee
  let a ← (if protocolFee > 0 then a.transferLamportsFromPoolAccount minimumBalance protocolFee
    else pure a)
  pure (protocolFee, a)

end PoolAccount

/-! ## What is owed -/

/-- The protocol's share of a pool creation fee.
Source: `state/config.rs` `split_pool_creation_fee`, `protocol_fee` -/
def protocolCreationShare (poolCreationFee : ℕ) : ℕ :=
  poolCreationFee * PROTOCOL_POOL_CREATION_FEE_PERCENT / 100

/-- The partner's share of a pool creation fee.
Source: `state/config.rs` `split_pool_creation_fee`, `partner_fee` -/
def partnerCreationShare (poolCreationFee : ℕ) : ℕ :=
  poolCreationFee - protocolCreationShare poolCreationFee

/-- The two shares are the fee, and the partner's is something when the fee is.
Source: `state/config.rs` `split_pool_creation_fee` -/
theorem creationShares_add (poolCreationFee : ℕ) :
    protocolCreationShare poolCreationFee + partnerCreationShare poolCreationFee =
        poolCreationFee ∧
      (0 < partnerCreationShare poolCreationFee ↔ 0 < poolCreationFee) := by
  unfold partnerCreationShare protocolCreationShare PROTOCOL_POOL_CREATION_FEE_PERCENT
  omega

/-- Every creation fee that fits its type is split.
Source: `state/config.rs` `split_pool_creation_fee` -/
theorem splitPoolCreationFee_eq {poolCreationFee : ℕ} (hfit : poolCreationFee < 2 ^ 64) :
    splitPoolCreationFee poolCreationFee =
      .ok (protocolCreationShare poolCreationFee, partnerCreationShare poolCreationFee) := by
  obtain ⟨hdiv, hle⟩ := safeMulDivCastU64_part .down hfit
    (by decide : PROTOCOL_POOL_CREATION_FEE_PERCENT ≤ 100) (by decide) (by decide)
  simp only [splitPoolCreationFee, hdiv, ok_bind, bind_eq_ok, safeSub_eq_ok]
  exact ⟨_, ⟨hle, rfl⟩, rfl⟩

namespace PoolAccount

variable (a : PoolAccount) (poolCreationFee : ℕ)

/-- What the partner has not claimed yet.
Source: `state/virtual_pool.rs` `eligible_to_claim_partner_pool_creation_fee` -/
def partnerOwed : ℕ :=
  if a.eligibleToClaimPartnerPoolCreationFee then partnerCreationShare poolCreationFee else 0

/-- What the protocol has not claimed yet of the fee of an earlier version.
Source: `state/virtual_pool.rs` `has_legacy_creation_fee`,
`eligible_to_claim_legacy_creation_fee` -/
def legacyOwed : ℕ :=
  if a.hasLegacyCreationFee ∧ a.eligibleToClaimLegacyCreationFee then
    TOKEN_2022_POOL_WITH_OUTPUT_FEE_COLLECTION_CREATION_FEE
  else 0

/-- What the protocol has not claimed yet.
Source: `state/virtual_pool.rs` `eligible_to_claim_protocol_pool_creation_fee` -/
def protocolOwed : ℕ :=
  (if a.eligibleToClaimProtocolPoolCreationFee then protocolCreationShare poolCreationFee else 0) +
    a.legacyOwed

variable {a} {minimumBalance : ℕ} {poolCreationFee}

/-- A flag that is flipped while it is clear reads as set. -/
theorem setFlag_ne_zero {bits mask : ℕ} (h : bits &&& mask = 0) (hmask : mask ≠ 0) :
    decide ((bits ^^^ mask) &&& mask = 0) = false := by
  rw [setFlag_and_mask h, decide_eq_false_iff_not]
  exact hmask

/-- The partner is owed nothing after its claim, and the protocol what it was owed.
Source: `state/virtual_pool.rs` `update_partner_pool_creation_fee_claimed` -/
theorem updatePartner_owed (poolCreationFee : ℕ)
    (h : a.eligibleToClaimPartnerPoolCreationFee = true) :
    a.updatePartnerPoolCreationFeeClaimed.partnerOwed poolCreationFee = 0 ∧
      a.updatePartnerPoolCreationFeeClaimed.protocolOwed poolCreationFee =
        a.protocolOwed poolCreationFee := by
  have hclosed : a.updatePartnerPoolCreationFeeClaimed.eligibleToClaimPartnerPoolCreationFee =
      false := setFlag_ne_zero (of_decide_eq_true h) (by decide)
  have hkept : a.updatePartnerPoolCreationFeeClaimed.eligibleToClaimProtocolPoolCreationFee =
      a.eligibleToClaimProtocolPoolCreationFee :=
    congrArg (fun n => decide (n = 0)) (setFlag_and_other (by decide))
  constructor
  · rw [partnerOwed, hclosed, if_neg Bool.false_ne_true]
  · rw [protocolOwed, hkept]
    rfl

/-- The protocol is owed only the fee of an earlier version after the claim of its share.
Source: `state/virtual_pool.rs` `update_protocol_pool_creation_fee_claimed` -/
theorem updateProtocol_owed (poolCreationFee : ℕ)
    (h : a.eligibleToClaimProtocolPoolCreationFee = true) :
    a.updateProtocolPoolCreationFeeClaimed.protocolOwed poolCreationFee = a.legacyOwed ∧
      a.updateProtocolPoolCreationFeeClaimed.partnerOwed poolCreationFee =
        a.partnerOwed poolCreationFee := by
  have hclosed : a.updateProtocolPoolCreationFeeClaimed.eligibleToClaimProtocolPoolCreationFee =
      false := setFlag_ne_zero (of_decide_eq_true h) (by decide)
  have hkept : a.updateProtocolPoolCreationFeeClaimed.eligibleToClaimPartnerPoolCreationFee =
      a.eligibleToClaimPartnerPoolCreationFee :=
    congrArg (fun n => decide (n = 0)) (setFlag_and_other (by decide))
  constructor
  · rw [protocolOwed, hclosed, if_neg Bool.false_ne_true, Nat.zero_add]
    rfl
  · rw [partnerOwed, hkept]
    rfl

/-- Once it is marked as claimed, no legacy creation fee is owed.
Source: `state/virtual_pool.rs` `update_legacy_creation_fee_claimed` -/
theorem updateLegacy_owed (h : a.eligibleToClaimLegacyCreationFee = true) :
    a.updateLegacyCreationFeeClaimed.legacyOwed = 0 := by
  have hclosed : a.updateLegacyCreationFeeClaimed.eligibleToClaimLegacyCreationFee = false :=
    setFlag_ne_zero (of_decide_eq_true h) (by decide)
  rw [legacyOwed, hclosed]
  exact if_neg fun hboth => Bool.false_ne_true hboth.2

/-- An account pays what it holds above its minimum balance.
Source: `utils/token.rs` `transfer_lamports_from_pool_account` -/
theorem transferLamports_eq_ok {lamports : ℕ} {b : PoolAccount} :
    a.transferLamportsFromPoolAccount minimumBalance lamports = .ok b ↔
      minimumBalance + lamports ≤ a.lamports ∧
        b = { a with lamports := a.lamports - lamports } := by
  simp only [transferLamportsFromPoolAccount, bind_eq_ok, exists_unit, require_eq_ok, pure_eq_ok]
  constructor
  · rintro ⟨hle, hmin, rfl⟩
    exact ⟨by omega, rfl⟩
  · rintro ⟨hle, rfl⟩
    exact ⟨by omega, by omega, rfl⟩

/-- What a claim leaves of the account of a pool.
Source: `instructions/partner/ix_claim_partner_pool_creation_fee.rs`;
`instructions/operator/ix_claim_protocol_pool_creation_fee.rs` -/
structure Claimed (fee partner protocol : ℕ) (a b : PoolAccount) : Prop where
  lamports : b.lamports + (partner + protocol) = a.lamports
  partner_add : b.partnerOwed fee + partner = a.partnerOwed fee
  protocol_add : b.protocolOwed fee + protocol = a.protocolOwed fee

/-- **The partner's claim succeeds exactly when something is owed, and pays it.**
Source: `instructions/partner/ix_claim_partner_pool_creation_fee.rs`
`handle_claim_partner_pool_creation_fee` -/
theorem claimPartner_spec (hfit : poolCreationFee < 2 ^ 64)
    (hfunded : minimumBalance + (a.partnerOwed poolCreationFee + a.protocolOwed poolCreationFee) ≤
      a.lamports) :
    (∀ n b, a.claimPartnerPoolCreationFee minimumBalance poolCreationFee = .ok (n, b) →
      n = a.partnerOwed poolCreationFee ∧ Claimed poolCreationFee n 0 a b) ∧
    ((∃ r, a.claimPartnerPoolCreationFee minimumBalance poolCreationFee = .ok r) ↔
      0 < a.partnerOwed poolCreationFee) := by
  have hsplit := splitPoolCreationFee_eq hfit
  constructor
  · intro n b h
    simp only [claimPartnerPoolCreationFee, hsplit, ok_bind, bind_eq_ok, exists_unit,
      require_eq_ok, transferLamports_eq_ok, pure_eq_ok, Prod.mk.injEq] at h
    obtain ⟨_, heligible, _, ⟨hle, rfl⟩, rfl, rfl⟩ := h
    have howed : a.partnerOwed poolCreationFee = partnerCreationShare poolCreationFee :=
      if_pos heligible
    obtain ⟨hpartner, hprotocol⟩ := updatePartner_owed poolCreationFee heligible
    refine ⟨howed.symm, ?_, ?_, ?_⟩
    · simp only [updatePartnerPoolCreationFeeClaimed] at hle ⊢
      omega
    · change a.updatePartnerPoolCreationFeeClaimed.partnerOwed poolCreationFee + _ = _
      rw [hpartner, Nat.zero_add, howed]
    · exact hprotocol
  · simp only [claimPartnerPoolCreationFee, hsplit, ok_bind, bind_eq_ok, exists_unit,
      require_eq_ok, transferLamports_eq_ok]
    constructor
    · rintro ⟨_, hpos, heligible, _⟩
      rw [partnerOwed, if_pos heligible]
      exact hpos
    · intro hpos
      have heligible : a.eligibleToClaimPartnerPoolCreationFee = true := by
        by_contra hclosed
        rw [partnerOwed, if_neg hclosed] at hpos
        exact absurd hpos (Nat.lt_irrefl 0)
      have howed : a.partnerOwed poolCreationFee = partnerCreationShare poolCreationFee :=
        if_pos heligible
      rw [howed] at hpos hfunded
      refine ⟨_, hpos, heligible, _, ⟨?_, rfl⟩, rfl⟩
      simp only [updatePartnerPoolCreationFeeClaimed]
      omega

/-- The claim takes the protocol's part of the creation fee, if it is owed.
Source: `instructions/operator/ix_claim_protocol_pool_creation_fee.rs`
`handle_claim_protocol_pool_creation_fee`, the first value of `protocol_fee` -/
theorem claimProtocolShare_eq (a : PoolAccount) (hfit : poolCreationFee < 2 ^ 64) :
    ∃ n b, a.claimProtocolShare poolCreationFee = .ok (n, b) ∧ n ≤ poolCreationFee ∧
      n + a.legacyOwed = a.protocolOwed poolCreationFee ∧ b.lamports = a.lamports ∧
      b.legacyOwed = a.legacyOwed ∧ b.protocolOwed poolCreationFee = a.legacyOwed ∧
      b.partnerOwed poolCreationFee = a.partnerOwed poolCreationFee := by
  have hshare : protocolCreationShare poolCreationFee ≤ poolCreationFee := by
    have hadd := (creationShares_add poolCreationFee).1
    omega
  by_cases heligible : a.eligibleToClaimProtocolPoolCreationFee = true
  · obtain ⟨hprotocol, hpartner⟩ := updateProtocol_owed poolCreationFee heligible
    refine ⟨protocolCreationShare poolCreationFee, a.updateProtocolPoolCreationFeeClaimed, ?_,
      hshare, ?_, rfl, rfl, hprotocol, hpartner⟩
    · rw [claimProtocolShare, if_pos heligible, splitPoolCreationFee_eq hfit]
      rfl
    · rw [protocolOwed, if_pos heligible]
  · have howed : a.protocolOwed poolCreationFee = a.legacyOwed := by
      rw [protocolOwed, if_neg heligible, Nat.zero_add]
    refine ⟨0, a, ?_, Nat.zero_le _, ?_, rfl, rfl, howed, rfl⟩
    · rw [claimProtocolShare, if_neg heligible]
      rfl
    · rw [howed, Nat.zero_add]

/-- The claim takes the legacy creation fee on top, if it is owed.
Source: `instructions/operator/ix_claim_protocol_pool_creation_fee.rs`
`handle_claim_protocol_pool_creation_fee`, the block on `has_legacy_creation_fee` -/
theorem claimLegacyFee_eq (poolCreationFee : ℕ) {n : ℕ}
    (hfit : n + TOKEN_2022_POOL_WITH_OUTPUT_FEE_COLLECTION_CREATION_FEE < 2 ^ 64) :
    ∃ b, a.claimLegacyFee n = .ok (n + a.legacyOwed, b) ∧ b.lamports = a.lamports ∧
      b.protocolOwed poolCreationFee + a.legacyOwed = a.protocolOwed poolCreationFee ∧
      b.partnerOwed poolCreationFee = a.partnerOwed poolCreationFee := by
  by_cases hlegacy : a.hasLegacyCreationFee = true ∧ a.eligibleToClaimLegacyCreationFee = true
  · have howed : a.legacyOwed = TOKEN_2022_POOL_WITH_OUTPUT_FEE_COLLECTION_CREATION_FEE :=
      if_pos hlegacy
    have hnothing := updateLegacy_owed hlegacy.2
    refine ⟨a.updateLegacyCreationFeeClaimed, ?_, rfl, ?_, rfl⟩
    · rw [claimLegacyFee, if_pos hlegacy, howed]
      simp only [bind_eq_ok, safeAdd_eq_ok]
      exact ⟨_, ⟨hfit, rfl⟩, rfl⟩
    · rw [protocolOwed, hnothing]
      rfl
  · have howed : a.legacyOwed = 0 := if_neg hlegacy
    refine ⟨a, ?_, rfl, ?_, rfl⟩
    · rw [claimLegacyFee, if_neg hlegacy, howed]
      rfl
    · rw [howed, Nat.add_zero]

/-- **The protocol's claim always succeeds and pays all that it is owed.**
Source: `instructions/operator/ix_claim_protocol_pool_creation_fee.rs`
`handle_claim_protocol_pool_creation_fee` -/
theorem claimProtocol_spec (hfit : poolCreationFee ≤ MAX_POOL_CREATION_FEE)
    (hfunded : minimumBalance + (a.partnerOwed poolCreationFee + a.protocolOwed poolCreationFee) ≤
      a.lamports) :
    ∃ b, a.claimProtocolPoolCreationFee minimumBalance poolCreationFee =
        .ok (a.protocolOwed poolCreationFee, b) ∧
      Claimed poolCreationFee 0 (a.protocolOwed poolCreationFee) a b := by
  unfold MAX_POOL_CREATION_FEE at hfit
  obtain ⟨n, b, hb, hn, hsum, hlamports, hlegacy, hprotocol, hpartner⟩ :=
    claimProtocolShare_eq a (by omega : poolCreationFee < 2 ^ 64)
  obtain ⟨c, hc, hlamports', hprotocol', hpartner'⟩ :=
    claimLegacyFee_eq (a := b) (n := n) poolCreationFee
      (by unfold TOKEN_2022_POOL_WITH_OUTPUT_FEE_COLLECTION_CREATION_FEE; omega)
  rw [hlegacy] at hc hprotocol'
  rw [hsum] at hc
  simp only [claimProtocolPoolCreationFee, hb, hc, ok_bind]
  split_ifs with hpos
  · refine ⟨{ c with lamports := c.lamports - a.protocolOwed poolCreationFee }, ?_, ?_, ?_, ?_⟩
    · rw [bind_eq_ok]
      exact ⟨_, transferLamports_eq_ok.mpr ⟨by omega, rfl⟩, rfl⟩
    · simp only
      omega
    · exact hpartner'.trans hpartner
    · change c.protocolOwed poolCreationFee + _ = _
      omega
  · refine ⟨c, rfl, ?_, ?_, ?_⟩
    · omega
    · exact hpartner'.trans hpartner
    · omega

end PoolAccount

end DynamicBondingCurve
