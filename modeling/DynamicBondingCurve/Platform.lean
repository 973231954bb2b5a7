import DynamicBondingCurve.Provenance
import DynamicBondingCurve.Instructions.PoolCreationFee

/-!
# The pool on its platform

Around a pool stand the account that holds its creation fee, and the operators that the
administrator lets claim for the protocol. `Platform` has them all, with the instructions that act
on them, and every claim for the protocol asks for its signer.

* `Platform`, `Installation.step`: the platform as a transition system.
* `Installation.world_of_run`: **a run of the platform is a run of its pool.**
* `Launch.creationFee_settled`: **the creation fee is paid out exactly, to the last lamport.**
* `Launch.protocolClaims_granted`: **whoever claims for the protocol was let by the
  administrator**, and still is at that moment.
-/

namespace DynamicBondingCurve

open Library

/-! ## The platform -/

/-- The operators, the account of a pool with what was paid out of it, and the pool.
Source: `state/operator.rs` `Operator`; `state/virtual_pool.rs` `PoolState` -/
structure Platform where
  operators : Operators
  account : PoolAccount
  partnerPaid : ℕ
  protocolPaid : ℕ
  world : World

/-- An instruction of the platform; those on the pool come with the operator account and the signer
that a claim for the protocol is checked against. Anybody may send lamports to an account.
Source: `lib.rs`, the instructions of the program -/
inductive PlatformInstruction where
  | createOperatorAccount (signer whitelistedAddress : Pubkey) (permission : ℕ)
  | closeOperatorAccount (signer whitelistedAddress : Pubkey)
  | claimPartnerPoolCreationFee (feeClaimer : Pubkey)
  | claimProtocolPoolCreationFee (operator signer : Pubkey)
  | sendLamports (lamports : ℕ)
  | onPool (operator signer : Pubkey) (action : Action)

/-- What is sent to the account of the pool. -/
def PlatformInstruction.sent : PlatformInstruction → ℕ
  | .sendLamports lamports => lamports
  | _ => 0

/-- What is fixed for the platform: the pool, its creation fee, the balance that the runtime asks of
its account, and the authority of the program that claims for the protocol.
Source: `state/config.rs` `pool_creation_fee`; the rent of the runtime; `const_pda.rs`
`protocol_fee_authority::ID` -/
structure Installation where
  deployment : Deployment
  poolCreationFee : ℕ
  minimumBalance : ℕ
  protocolFeeAuthority : Pubkey

namespace Installation

variable (i : Installation)

/-- Who may claim for the protocol.
Source: `lib.rs` `claim_protocol_fee`, `zap_protocol_fee`;
`instructions/operator/ix_claim_protocol_fee2.rs` `ClaimProtocolFee2Ctx`, the address of the
signer -/
def checkOperator (os : Operators) (operator signer : Pubkey) : Action → Result Unit
  | .claimProtocolFee .. => os.isValidOperatorRole operator signer .claimProtocolFee
  | .zapProtocolFee .. => os.isValidOperatorRole operator signer .zapProtocolFee
  | .claimProtocolFee2 .. => require (signer = i.protocolFeeAuthority) Fault.account
  | _ => pure ()

/-- One instruction of the platform.
Source: `lib.rs`, the dispatch of the instructions -/
def step (p : Platform) : PlatformInstruction → Result Platform
  | .createOperatorAccount signer whitelistedAddress permission => do
      let operators ← p.operators.createOperatorAccount signer whitelistedAddress permission
      pure { p with operators := operators }
  | .closeOperatorAccount signer whitelistedAddress => do
      let operators ← p.operators.closeOperatorAccount signer whitelistedAddress
      pure { p with operators := operators }
  | .claimPartnerPoolCreationFee feeClaimer => do
      i.deployment.isPartnerFeeClaimer feeClaimer
      let (amount, account) ←
        p.account.claimPartnerPoolCreationFee i.minimumBalance i.poolCreationFee
      pure { p with account := account, partnerPaid := p.partnerPaid + amount }
  | .claimProtocolPoolCreationFee operator signer => do
      p.operators.isValidOperatorRole operator signer .claimProtocolFee
      let (amount, account) ←
        p.account.claimProtocolPoolCreationFee i.minimumBalance i.poolCreationFee
      pure { p with account := account, protocolPaid := p.protocolPaid + amount }
  | .sendLamports lamports =>
      .ok { p with account := { p.account with lamports := p.account.lamports + lamports } }
  | .onPool operator signer action => do
      i.checkOperator p.operators operator signer action
      let world ← i.deployment.step p.world action
      pure { p with world := world }

end Installation

/-! ## Runs of the pool -/

section Projection

variable {i : Installation} {p q : Platform}

/-- An instruction of the platform is one of the pool, or leaves the pool as it is.
Source: `lib.rs`, the dispatch of the instructions -/
theorem Installation.world_of_step {x : PlatformInstruction} (h : i.step p x = .ok q) :
    q.world = p.world ∨ ∃ operator signer a, x = .onPool operator signer a ∧
      i.checkOperator p.operators operator signer a = .ok () ∧
      i.deployment.step p.world a = .ok q.world := by
  cases x with
  | onPool operator signer a =>
    simp only [step, bind_eq_ok, exists_unit, pure_eq_ok] at h
    obtain ⟨hcheck, w, hw, rfl⟩ := h
    exact .inr ⟨operator, signer, a, rfl, hcheck, hw⟩
  | createOperatorAccount signer whitelistedAddress permission =>
    simp only [step, bind_eq_ok, pure_eq_ok] at h
    obtain ⟨_, _, rfl⟩ := h
    exact .inl rfl
  | closeOperatorAccount signer whitelistedAddress =>
    simp only [step, bind_eq_ok, pure_eq_ok] at h
    obtain ⟨_, _, rfl⟩ := h
    exact .inl rfl
  | claimPartnerPoolCreationFee feeClaimer =>
    simp only [step, bind_eq_ok, exists_unit, pure_eq_ok] at h
    obtain ⟨_, _, _, rfl⟩ := h
    exact .inl rfl
  | claimProtocolPoolCreationFee operator signer =>
    simp only [step, bind_eq_ok, exists_unit, pure_eq_ok] at h
    obtain ⟨_, _, _, rfl⟩ := h
    exact .inl rfl
  | sendLamports lamports =>
    simp only [step, Except.ok.injEq] at h
    subst h
    exact .inl rfl

/-- **A run of the platform is a run of its pool**, so that what holds after every run of the pool
holds on the platform.
Source: `lib.rs`, the dispatch of the instructions -/
theorem Installation.world_of_run (is : List PlatformInstruction) :
    ∃ actions, (run i.step p is).world = run i.deployment.step p.world actions := by
  refine run_invariant (fun q : Platform => ∃ actions,
    q.world = run i.deployment.step p.world actions) (fun _ => True) ?_ (fun _ _ => trivial)
    ⟨[], rfl⟩
  rintro q x q' _ ⟨actions, hq⟩ hstep
  rcases world_of_step hstep with hsame | ⟨_, _, a, rfl, _, ha⟩
  · exact ⟨actions, hsame.trans hq⟩
  · refine ⟨actions ++ [a], ?_⟩
    rw [run_append, ← hq, run_cons, run_nil, advance, ha]

end Projection

/-! ## The creation fee -/

/-- What was paid and what is owed make up the shares, and the account holds the rest of all that it
ever held.
Source: `instructions/partner/ix_claim_partner_pool_creation_fee.rs`;
`instructions/operator/ix_claim_protocol_pool_creation_fee.rs` -/
structure CreationFeeBooks (fee : ℕ) (start : PoolAccount) (sent : ℕ) (p : Platform) : Prop where
  partner : p.account.partnerOwed fee + p.partnerPaid = start.partnerOwed fee
  protocol : p.account.protocolOwed fee + p.protocolPaid = start.protocolOwed fee
  lamports : p.account.lamports + (p.partnerPaid + p.protocolPaid) = start.lamports + sent

section Books

variable {i : Installation} {p q : Platform} {start : PoolAccount} {sent : ℕ}

/-- The account holds what is owed, over the balance that the runtime asks for.
Source: `utils/token.rs` `transfer_lamports_from_pool_account` -/
theorem CreationFeeBooks.funded (h : CreationFeeBooks i.poolCreationFee start sent p)
    (hstart : i.minimumBalance + (start.partnerOwed i.poolCreationFee +
      start.protocolOwed i.poolCreationFee) ≤ start.lamports) :
    i.minimumBalance + (p.account.partnerOwed i.poolCreationFee +
      p.account.protocolOwed i.poolCreationFee) ≤ p.account.lamports := by
  obtain ⟨hpartner, hprotocol, hlamports⟩ := h
  omega

/-- **Every instruction keeps the books.**
Source: `lib.rs`, the dispatch of the instructions -/
theorem CreationFeeBooks.of_step {x : PlatformInstruction}
    (hp : CreationFeeBooks i.poolCreationFee start sent p)
    (hfit : i.poolCreationFee ≤ MAX_POOL_CREATION_FEE)
    (hstart : i.minimumBalance + (start.partnerOwed i.poolCreationFee +
      start.protocolOwed i.poolCreationFee) ≤ start.lamports)
    (h : i.step p x = .ok q) :
    CreationFeeBooks i.poolCreationFee start (sent + x.sent) q := by
  have hfunded := hp.funded hstart
  obtain ⟨hpartner, hprotocol, hlamports⟩ := hp
  cases x with
  | claimPartnerPoolCreationFee feeClaimer =>
    simp only [Installation.step, bind_eq_ok, exists_unit, pure_eq_ok] at h
    obtain ⟨_, ⟨n, b⟩, hclaim, rfl⟩ := h
    have hsmall : i.poolCreationFee < 2 ^ 64 := hfit.trans_lt (by decide)
    obtain ⟨_, hlam, hpart, hprot⟩ :=
      (PoolAccount.claimPartner_spec hsmall hfunded).1 n b hclaim
    constructor
    · simp only
      omega
    · simp only
      omega
    · simp only [PlatformInstruction.sent]
      omega
  | claimProtocolPoolCreationFee operator signer =>
    simp only [Installation.step, bind_eq_ok, exists_unit, pure_eq_ok] at h
    obtain ⟨_, ⟨n, b⟩, hclaim, rfl⟩ := h
    obtain ⟨c, hc, hlam, hpart, hprot⟩ := PoolAccount.claimProtocol_spec hfit hfunded
    rw [hc, Except.ok.injEq, Prod.mk.injEq] at hclaim
    obtain ⟨rfl, rfl⟩ := hclaim
    constructor
    · simp only
      omega
    · simp only
      omega
    · simp only [PlatformInstruction.sent]
      omega
  | sendLamports lamports =>
    simp only [Installation.step, Except.ok.injEq] at h
    subst h
    refine ⟨hpartner, hprotocol, ?_⟩
    simp only [PlatformInstruction.sent]
    omega
  | onPool operator signer a =>
    simp only [Installation.step, bind_eq_ok, exists_unit, pure_eq_ok] at h
    obtain ⟨_, _, _, rfl⟩ := h
    exact ⟨hpartner, hprotocol, hlamports⟩
  | createOperatorAccount signer whitelistedAddress permission =>
    simp only [Installation.step, bind_eq_ok, pure_eq_ok] at h
    obtain ⟨_, _, rfl⟩ := h
    exact ⟨hpartner, hprotocol, hlamports⟩
  | closeOperatorAccount signer whitelistedAddress =>
    simp only [Installation.step, bind_eq_ok, pure_eq_ok] at h
    obtain ⟨_, _, rfl⟩ := h
    exact ⟨hpartner, hprotocol, hlamports⟩

/-- Lamports that are sent arrive.
Source: the transfers of the runtime -/
theorem sent_eq_zero_of_error {x : PlatformInstruction} {e : Fault} (h : i.step p x = .error e) :
    x.sent = 0 := by
  cases x with
  | sendLamports lamports =>
    simp only [Installation.step] at h
    cases h
  | _ => rfl

/-- The books of the creation fee balance along every run.
Source: `lib.rs`, the dispatch of the instructions -/
theorem CreationFeeBooks.of_run (is : List PlatformInstruction)
    (hp : CreationFeeBooks i.poolCreationFee start sent p)
    (hfit : i.poolCreationFee ≤ MAX_POOL_CREATION_FEE)
    (hstart : i.minimumBalance + (start.partnerOwed i.poolCreationFee +
      start.protocolOwed i.poolCreationFee) ≤ start.lamports) :
    CreationFeeBooks i.poolCreationFee start (sent + (is.map PlatformInstruction.sent).sum)
      (run i.step p is) := by
  induction is generalizing p sent with
  | nil => exact hp
  | cons x is ih =>
    rw [List.map_cons, List.sum_cons, ← Nat.add_assoc, run_cons]
    refine ih ?_
    unfold advance
    cases hstep : i.step p x with
    | ok q => exact hp.of_step hfit hstart hstep
    | error e =>
      rw [sent_eq_zero_of_error hstep]
      exact hp

end Books

/-- What holds of the creation fee at every moment: the books balance, and each claim succeeds
exactly when its signer may make it and, for the partner, something is owed; it then pays all that
is owed.
Source: `instructions/partner/ix_claim_partner_pool_creation_fee.rs`;
`instructions/operator/ix_claim_protocol_pool_creation_fee.rs` -/
structure CreationFeeSettled (i : Installation) (start : PoolAccount) (sent : ℕ) (p : Platform) :
    Prop where
  books : CreationFeeBooks i.poolCreationFee start sent p
  minimumBalance_le : i.minimumBalance + (p.account.partnerOwed i.poolCreationFee +
    p.account.protocolOwed i.poolCreationFee) ≤ p.account.lamports
  partnerClaim : ∀ signer, (∃ q, i.step p (.claimPartnerPoolCreationFee signer) = .ok q) ↔
    signer = i.deployment.config.feeClaimer ∧ 0 < p.account.partnerOwed i.poolCreationFee
  partnerClaim_pays : ∀ signer q, i.step p (.claimPartnerPoolCreationFee signer) = .ok q →
    q.partnerPaid = p.partnerPaid + p.account.partnerOwed i.poolCreationFee
  protocolClaim : ∀ operator signer,
    (∃ q, i.step p (.claimProtocolPoolCreationFee operator signer) = .ok q) ↔
      p.operators.isValidOperatorRole operator signer .claimProtocolFee = .ok ()
  protocolClaim_pays : ∀ operator signer q,
    i.step p (.claimProtocolPoolCreationFee operator signer) = .ok q →
      q.protocolPaid = p.protocolPaid + p.account.protocolOwed i.poolCreationFee

section Settled

variable {i : Installation} {p : Platform} {start : PoolAccount} {sent : ℕ}

/-- Where the books balance, each claim of the creation fee pays all that is owed.
Source: `instructions/partner/ix_claim_partner_pool_creation_fee.rs`;
`instructions/operator/ix_claim_protocol_pool_creation_fee.rs` -/
theorem CreationFeeBooks.settled (hp : CreationFeeBooks i.poolCreationFee start sent p)
    (hfit : i.poolCreationFee ≤ MAX_POOL_CREATION_FEE)
    (hstart : i.minimumBalance + (start.partnerOwed i.poolCreationFee +
      start.protocolOwed i.poolCreationFee) ≤ start.lamports) :
    CreationFeeSettled i start sent p := by
  have hfunded := hp.funded hstart
  have hsmall : i.poolCreationFee < 2 ^ 64 := hfit.trans_lt (by decide)
  obtain ⟨hpays, hiff⟩ := PoolAccount.claimPartner_spec hsmall hfunded
  obtain ⟨b, hb, _⟩ := PoolAccount.claimProtocol_spec hfit hfunded
  refine ⟨hp, hfunded, ?_, ?_, ?_, ?_⟩
  · intro signer
    simp only [Installation.step, Deployment.isPartnerFeeClaimer, bind_eq_ok, exists_unit,
      require_eq_ok, pure_eq_ok]
    rw [← hiff]
    constructor
    · rintro ⟨_, hsigner, r, hr, _⟩
      exact ⟨hsigner.symm, r, hr⟩
    · rintro ⟨rfl, r, hr⟩
      exact ⟨_, rfl, r, hr, rfl⟩
  · intro signer q h
    simp only [Installation.step, bind_eq_ok, exists_unit, pure_eq_ok] at h
    obtain ⟨_, ⟨n, b⟩, hclaim, rfl⟩ := h
    exact congrArg (p.partnerPaid + ·) (hpays n b hclaim).1
  · intro operator signer
    simp only [Installation.step, hb, ok_bind, bind_eq_ok, exists_unit, pure_eq_ok]
    constructor
    · rintro ⟨_, hrole, _⟩
      exact hrole
    · intro hrole
      exact ⟨_, hrole, rfl⟩
  · intro operator signer q h
    simp only [Installation.step, hb, ok_bind, bind_eq_ok, exists_unit, pure_eq_ok] at h
    obtain ⟨_, rfl⟩ := h
    rfl

end Settled

/-! ## Operators -/

/-- What a claim for the protocol asks of an operator.
Source: `lib.rs` `claim_protocol_fee`, `zap_protocol_fee` -/
def Action.permission : Action → Option OperatorPermission
  | .claimProtocolFee .. => some .claimProtocolFee
  | .zapProtocolFee .. => some .zapProtocolFee
  | _ => none

/-- The address had the permission all along, or the administrator gave it in the course of the run
and it was not taken away since.
Source: `lib.rs` `create_operator_account`, `close_operator_account` -/
def Installation.Granted (i : Installation) (start : Platform)
    (is : List PlatformInstruction) (address : Pubkey) (permission : OperatorPermission) : Prop :=
  (∀ front, front <+: is → (run i.step start front).operators.HasRole address permission) ∨
    ∃ before bits later q, is = before ++ .createOperatorAccount ADMIN address bits :: later ∧
      i.step (run i.step start before) (.createOperatorAccount ADMIN address bits) = .ok q ∧
      ∀ front, front <+: later → (run i.step q front).operators.HasRole address permission

section Operators

variable {i : Installation} {p q start : Platform} {x : PlatformInstruction} {address : Pubkey}
  {permission : OperatorPermission}

/-- **Only the administrator gives a permission.**
Source: `instructions/admin/ix_create_operator_account.rs` `handle_create_operator_account`;
`access_control.rs` `is_admin` -/
theorem created_of_hasRole (h : i.step p x = .ok q)
    (hbefore : ¬ p.operators.HasRole address permission)
    (hafter : q.operators.HasRole address permission) :
    ∃ bits, x = .createOperatorAccount ADMIN address bits := by
  obtain ⟨o, ho, hallow⟩ := hafter
  have hkept : q.operators.account address ≠ p.operators.account address := by
    intro hsame
    rw [hsame] at ho
    exact hbefore ⟨o, ho, hallow⟩
  cases x with
  | createOperatorAccount signer whitelistedAddress bits =>
    simp only [Installation.step, Operators.createOperatorAccount, Operators.isAdmin, bind_eq_ok,
      exists_unit, require_eq_ok, pure_eq_ok] at h
    obtain ⟨_, ⟨_, rfl, _, rfl⟩, rfl⟩ := h
    by_cases hsame : address = whitelistedAddress
    · exact ⟨bits, by rw [hsame]⟩
    · exact absurd (Function.update_of_ne hsame _ _) hkept
  | closeOperatorAccount signer whitelistedAddress =>
    simp only [Installation.step, Operators.closeOperatorAccount, bind_eq_ok, exists_unit,
      pure_eq_ok] at h
    obtain ⟨_, ⟨_, _, rfl⟩, rfl⟩ := h
    by_cases hsame : address = whitelistedAddress
    · subst hsame
      simp only [Operators.erase, Function.update_self] at ho
      cases ho
    · exact absurd (Function.update_of_ne hsame _ _) hkept
  | claimPartnerPoolCreationFee feeClaimer =>
    simp only [Installation.step, bind_eq_ok, exists_unit, pure_eq_ok] at h
    obtain ⟨_, _, _, rfl⟩ := h
    exact absurd rfl hkept
  | claimProtocolPoolCreationFee operator signer =>
    simp only [Installation.step, bind_eq_ok, exists_unit, pure_eq_ok] at h
    obtain ⟨_, _, _, rfl⟩ := h
    exact absurd rfl hkept
  | sendLamports lamports =>
    simp only [Installation.step, Except.ok.injEq] at h
    subst h
    exact absurd rfl hkept
  | onPool operator signer a =>
    simp only [Installation.step, bind_eq_ok, exists_unit, pure_eq_ok] at h
    obtain ⟨_, _, _, rfl⟩ := h
    exact absurd rfl hkept

/-- A permission that an address has was granted.
Source: `lib.rs` `create_operator_account`, `close_operator_account` -/
theorem granted_of_hasRole (is : List PlatformInstruction)
    (h : (run i.step start is).operators.HasRole address permission) :
    i.Granted start is address permission := by
  by_cases hall : ∀ front, front <+: is →
      (run i.step start front).operators.HasRole address permission
  · exact .inl hall
  · -- the last moment without the permission comes before the grant
    push Not at hall
    obtain ⟨front, ⟨rest, rfl⟩, hnot⟩ := hall
    rw [run_append] at h
    obtain ⟨earlier, x, later, q, rfl, hbefore, hstep, hsince⟩ := exists_last_step_of_run
      (fun p : Platform => p.operators.HasRole address permission) hnot h
    have hgiven : q.operators.HasRole address permission := hsince [] List.nil_prefix
    obtain ⟨bits, rfl⟩ := created_of_hasRole hstep hbefore hgiven
    rw [← run_append] at hstep
    exact .inr ⟨front ++ earlier, bits, later, q, by simp, hstep, hsince⟩

/-- Whoever signs may claim so for the protocol: with a permission that was granted, or with the
authority of the program of the protocol.
Source: `lib.rs` `claim_protocol_fee`, `zap_protocol_fee`;
`instructions/operator/ix_claim_protocol_fee2.rs` `ClaimProtocolFee2Ctx` -/
def Installation.MayClaim (i : Installation) (start : Platform)
    (is : List PlatformInstruction) (signer : Pubkey) (a : Action) : Prop :=
  a.IsProtocolClaim ∧ (a.permission = none → signer = i.protocolFeeAuthority) ∧
    ∀ permission, a.permission = some permission → i.Granted start is signer permission

/-- The payment to the protocol that stands on top of the older effects was made in a step of the
run, by a claim whose signer may claim at that moment. -/
def Installation.ClaimedInStep (i : Installation) (start : Platform)
    (is : List PlatformInstruction) (token : Token) (amount : ℕ) (older : List Effect) : Prop :=
  ∃ earlier operator signer a later q front between,
    is = earlier ++ .onPool operator signer a :: later ∧
    i.step (run i.step start earlier) (.onPool operator signer a) = .ok q ∧
    q.world.effects = front ++ .paid token .protocolFee amount :: older ∧
    older = between ++ (run i.step start earlier).world.effects ∧
    i.MayClaim start earlier signer a

/-- A claim for the protocol passes the check of its signer only if the signer may claim.
Source: `access_control.rs` `is_valid_operator_role`;
`instructions/operator/ix_claim_protocol_fee2.rs` `ClaimProtocolFee2Ctx` -/
theorem mayClaim_of_checkOperator {operator signer : Pubkey} {a : Action}
    (is : List PlatformInstruction) (ha : a.IsProtocolClaim)
    (h : i.checkOperator (run i.step start is).operators operator signer a = .ok ()) :
    i.MayClaim start is signer a := by
  refine ⟨ha, ?_, ?_⟩
  · intro hnone
    cases a with
    | claimProtocolFee2 isBase maxAmount => exact require_eq_ok.mp h
    | claimProtocolFee maxBase maxQuote => cases hnone
    | zapProtocolFee isBase maxAmount => cases hnone
    | _ => exact ha.elim
  · intro permission hsome
    have hvalid : (run i.step start is).operators.isValidOperatorRole operator signer permission =
        .ok () := by
      cases a with
      | claimProtocolFee maxBase maxQuote =>
        obtain rfl := Option.some.inj hsome
        exact h
      | zapProtocolFee isBase maxAmount =>
        obtain rfl := Option.some.inj hsome
        exact h
      | _ => cases hsome
    exact granted_of_hasRole is (Operators.hasRole_of_isValid hvalid)

/-- An instruction of the platform only adds effects.
Source: `lib.rs`, the dispatch of the instructions -/
theorem platform_effects_suffix (h : i.step p x = .ok q) :
    p.world.effects <:+ q.world.effects := by
  rcases Installation.world_of_step h with hsame | ⟨_, _, a, _, _, ha⟩
  · rw [hsame]
  · exact effects_suffix_of_step ha

/-- Every payment to the protocol is made by a claim whose signer may claim.
Source: `lib.rs`, the dispatch of the instructions and their access control -/
theorem claimedInStep {is : List PlatformInstruction} {newer older : List Effect} {token : Token}
    {amount : ℕ} (hstart : start.world.effects = [])
    (h : (run i.step start is).world.effects = newer ++ .paid token .protocolFee amount :: older) :
    i.ClaimedInStep start is token amount older := by
  obtain ⟨earlier, x, later, q, front, between, hactions, hstep, hnew, holder⟩ :=
    exists_step_of_entry (fun p : Platform => p.world.effects)
      (fun _ _ _ => platform_effects_suffix) hstart h
  rcases Installation.world_of_step hstep with hsame | ⟨operator, signer, a, rfl, hcheck, ha⟩
  · -- the effects would be longer than they are
    exfalso
    rw [hsame, holder] at hnew
    have hlength := congrArg List.length hnew
    simp only [List.length_append, List.length_cons] at hlength
    omega
  · refine ⟨earlier, operator, signer, a, later, q, front, between, hactions, hstep, hnew, holder,
      mayClaim_of_checkOperator earlier ?_ hcheck⟩
    rw [holder] at hnew
    exact mayPay_of_new ha hnew

end Operators

/-! ## Launched pools -/

namespace Launch

variable (l : Launch)

/-- The platform around a launch, with its creation fee.
Source: `state/config.rs` `pool_creation_fee`; `const_pda.rs` `protocol_fee_authority::ID` -/
def installation (minimumBalance : ℕ) (protocolFeeAuthority : Pubkey) : Installation :=
  { deployment := l.deployment
    poolCreationFee := l.accepted.params.poolCreationFee
    minimumBalance := minimumBalance
    protocolFeeAuthority := protocolFeeAuthority }

/-- The account of a new pool, which was charged the fee, with what else was sent to its address. A
pool of an earlier version comes with legacy bits, and with the fee that they stand for.
Source: `ix_initialize_virtual_pool_with_spl_token.rs`
`handle_initialize_virtual_pool_with_spl_token`, from the comment "charge pool creation fee" -/
def account (minimumBalance extra legacyCreationFeeBits : ℕ) : PoolAccount :=
  { lamports := minimumBalance + l.accepted.params.poolCreationFee + extra +
      PoolAccount.legacyOwed ⟨0, legacyCreationFeeBits, 0⟩
    legacyCreationFeeBits := legacyCreationFeeBits
    creationFeeBits := 0 }

/-- The platform as a pool is created on it.
Source: `ix_initialize_virtual_pool_with_spl_token.rs`
`handle_initialize_virtual_pool_with_spl_token` -/
def platform (operators : Operators) (account : PoolAccount) : Platform :=
  { operators := operators
    account := account
    partnerPaid := 0
    protocolPaid := 0
    world := l.genesis }

/-- A new account owes the two shares of the fee, and what an earlier version charged.
Source: `state/config.rs` `split_pool_creation_fee` -/
theorem account_owed (minimumBalance extra legacyBits : ℕ) :
    (l.account minimumBalance extra legacyBits).partnerOwed l.accepted.params.poolCreationFee =
        partnerCreationShare l.accepted.params.poolCreationFee ∧
      (l.account minimumBalance extra legacyBits).protocolOwed
          l.accepted.params.poolCreationFee =
        protocolCreationShare l.accepted.params.poolCreationFee +
          PoolAccount.legacyOwed ⟨0, legacyBits, 0⟩ := by
  have hpartner :
      (l.account minimumBalance extra legacyBits).eligibleToClaimPartnerPoolCreationFee = true := by
    simp [PoolAccount.eligibleToClaimPartnerPoolCreationFee, account]
  have hprotocol : (l.account minimumBalance extra
      legacyBits).eligibleToClaimProtocolPoolCreationFee = true := by
    simp [PoolAccount.eligibleToClaimProtocolPoolCreationFee, account]
  constructor
  · exact if_pos hpartner
  · rw [PoolAccount.protocolOwed, if_pos hprotocol]
    rfl

/-- **The creation fee is paid out exactly.** After every run of the platform the partner was paid
nine tenths of the fee or is owed them, the protocol was paid the rest or is owed it, and the
account holds what is owed over the balance that the runtime asks for. Each claim succeeds as soon
as its signer may make it, and pays all that is owed, so that nothing is paid twice or lost.
Source: `state/config.rs` `split_pool_creation_fee`;
`instructions/partner/ix_claim_partner_pool_creation_fee.rs`;
`instructions/operator/ix_claim_protocol_pool_creation_fee.rs` -/
theorem creationFee_settled (minimumBalance extra legacyBits : ℕ) (authority : Pubkey)
    (operators : Operators) (is : List PlatformInstruction) :
    let i := l.installation minimumBalance authority
    let start := l.account minimumBalance extra legacyBits
    CreationFeeSettled i start (is.map PlatformInstruction.sent).sum
      (run i.step (l.platform operators start) is) := by
  intro i start
  have howed : i.minimumBalance + (start.partnerOwed i.poolCreationFee +
      start.protocolOwed i.poolCreationFee) ≤ start.lamports := by
    obtain ⟨hpartner, hprotocol⟩ := l.account_owed minimumBalance extra legacyBits
    have hadd := (creationShares_add l.accepted.params.poolCreationFee).1
    change minimumBalance + (start.partnerOwed l.accepted.params.poolCreationFee +
      start.protocolOwed l.accepted.params.poolCreationFee) ≤ _
    rw [hpartner, hprotocol]
    simp only [start, account]
    omega
  have hbooks : CreationFeeBooks i.poolCreationFee start 0 (l.platform operators start) :=
    ⟨rfl, rfl, rfl⟩
  have hrun := hbooks.of_run is l.accepted.paramsValidated.poolCreationFee_le howed
  rw [Nat.zero_add] at hrun
  exact hrun.settled l.accepted.paramsValidated.poolCreationFee_le howed

/-- **Whoever claims for the protocol was let by the administrator, and still is.** In every run of
the platform each payment to the protocol was made by a claim whose signer had the permission at
that moment: all along, or since the administrator gave it in the run; and so it is with each claim
of the creation fee. The claims without an operator are signed by the program of the protocol.
Source: `access_control.rs` `is_admin`, `is_valid_operator_role`; `lib.rs`
`create_operator_account`, `close_operator_account` and the claims of the protocol -/
theorem protocolClaims_granted (minimumBalance : ℕ) (authority : Pubkey) (operators : Operators)
    (account : PoolAccount) (is : List PlatformInstruction) :
    let i := l.installation minimumBalance authority
    let start := l.platform operators account
    (∀ newer older token amount, (run i.step start is).world.effects =
        newer ++ .paid token .protocolFee amount :: older →
      i.ClaimedInStep start is token amount older) ∧
    (∀ earlier operator signer later q,
      is = earlier ++ .claimProtocolPoolCreationFee operator signer :: later →
      i.step (run i.step start earlier) (.claimProtocolPoolCreationFee operator signer) = .ok q →
      i.Granted start earlier signer .claimProtocolFee) := by
  intro i start
  have hstart : start.world.effects = [] := by
    obtain ⟨_, _, hgenesis, _⟩ := l.genesis_eq
    change l.genesis.effects = []
    rw [hgenesis]
    rfl
  constructor
  · intro newer older token amount h
    exact claimedInStep hstart h
  · intro earlier operator signer later q _ hstep
    simp only [Installation.step, bind_eq_ok, exists_unit] at hstep
    exact granted_of_hasRole earlier (Operators.hasRole_of_isValid hstep.1)

end Launch

end DynamicBondingCurve
