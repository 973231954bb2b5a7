import DynamicBondingCurve.Instructions.MeteoraDammLp
import DynamicBondingCurve.Backing
import DynamicBondingCurve.Lifecycle

/-!
# The shares are paid once and are never trapped

Three variants of a call share four status bytes, and the creator of the pool may change between
two calls. What keeps a part from being stuck is that the creator changes only when nothing is
left to hand out: until then a partner who is the creator at one call is so at every call, and
the two parts of a kind are handed out together.

* `Pays`: what a call to lock or to claim does to the status bytes; `liquidityToken_spec`.
* `Shared`: the invariant of the shares; `Shared.of_step`: every action keeps it.
* `Shared.payable`: **an open part can be paid to its current owner.**
* `lpShares_paid_once`: the three together, over all runs, for the parts of the distribution of the
  minted shares.
-/

namespace DynamicBondingCurve

open Library

/-! ## Parts and their status -/

/-- The two kinds of parts.
Source: `meteora_damm_lock_lp_token.rs`; `meteora_damm_claim_lp_token.rs` -/
inductive LpKind where
  | locked
  | claimed
  deriving DecidableEq, Repr

/-- The partner's part of either kind.
Source: `meteora_damm_metadata_state.rs` `lock_as_partner`, `claim_as_partner` -/
def LpKind.partnerShare : LpKind → LpShare
  | .locked => .partnerLocked
  | .claimed => .partner

/-- The creator's part of either kind.
Source: `meteora_damm_metadata_state.rs` `lock_as_creator`, `claim_as_creator` -/
def LpKind.creatorShare : LpKind → LpShare
  | .locked => .creatorLocked
  | .claimed => .creator

/-- What a distribution gives to a part.
Source: `state/config.rs` `LiquidityDistributionDammV1`, its four amounts -/
def LiquidityDistributionDammV1.part (l : LiquidityDistributionDammV1) : LpShare → ℕ
  | .partnerLocked => l.partnerLockedLiquidity
  | .creatorLocked => l.creatorLockedLiquidity
  | .partner => l.partnerLiquidity
  | .creator => l.creatorLiquidity

namespace MeteoraDammMigrationMetadata

variable (m : MeteoraDammMigrationMetadata)

/-- What a part is worth.
Source: `meteora_damm_metadata_state.rs` `MeteoraDammMigrationMetadata`, its four amounts -/
def due : LpShare → ℕ
  | .partnerLocked => m.partnerLockedLiquidity
  | .creatorLocked => m.creatorLockedLiquidity
  | .partner => m.partnerLiquidity
  | .creator => m.creatorLiquidity

/-- Whether a part was handed out.
Source: `meteora_damm_metadata_state.rs`, the four predicates on the status bytes -/
def isPaid : LpShare → Bool
  | .partnerLocked => m.isPartnerLiquidityLocked
  | .creatorLocked => m.isCreatorLiquidityLocked
  | .partner => m.isPartnerClaimLiquidity
  | .creator => m.isCreatorClaimLiquidity

/-- What is left to hand out.
Source: none: the abstract reading of the account -/
def openDue : ℕ := ∑ share, if m.isPaid share then 0 else m.due share

/-- The call of a kind.
Source: `meteora_damm_lock_lp_token.rs`, `meteora_damm_claim_lp_token.rs`, the match on
`(is_partner, is_creator)` -/
def liquidityToken (k : LpKind) (isPartner isCreator : Bool) :
    Result (ℕ × MeteoraDammMigrationMetadata) :=
  match k with
  | .locked => variantOf isPartner isCreator m.lockAsSelfPartneredCreator m.lockAsPartner
      m.lockAsCreator
  | .claimed => variantOf isPartner isCreator m.claimAsSelfPartneredCreator m.claimAsPartner
      m.claimAsCreator

variable {m}

/-- Every part is recorded as the distribution gives it.
Source: `meteora_damm_metadata_state.rs` `set_liquidity_token_minted` -/
theorem due_setLiquidityTokenMinted (l : LiquidityDistributionDammV1) :
    (m.setLiquidityTokenMinted l).due = l.part := by
  funext share
  cases share <;> rfl

/-- Everything was handed out exactly when nothing is left of each part.
Source: `ix_transfer_pool_creator.rs` `handle_transfer_pool_creator`, its four checks -/
theorem isLiquidityHandedOut_iff :
    m.isLiquidityHandedOut = true ↔ ∀ share, m.due share = 0 ∨ m.isPaid share = true := by
  simp only [isLiquidityHandedOut, decide_eq_true_eq]
  constructor
  · rintro ⟨hpartnerLocked, hcreatorLocked, hcreator, hpartner⟩ share
    cases share with
    | partnerLocked => exact hpartnerLocked
    | creatorLocked => exact hcreatorLocked
    | partner => exact hpartner
    | creator => exact hcreator
  · intro h
    exact ⟨h .partnerLocked, h .creatorLocked, h .creator, h .partner⟩

end MeteoraDammMigrationMetadata

/-! ## What a call pays -/

/-- Parts that were open are handed out.
Source: `meteora_damm_metadata_state.rs`, the six `lock_as_*` and `claim_as_*` -/
structure Pays (shares : List LpShare) (m m' : MeteoraDammMigrationMetadata) : Prop where
  wasOpen : ∀ share ∈ shares, m.isPaid share = false
  isPaid : ∀ share, m'.isPaid share = (decide (share ∈ shares) || m.isPaid share)
  due : m'.due = m.due
  partner : m'.partner = m.partner

section Calls

variable {m m' : MeteoraDammMigrationMetadata} {k : LpKind} {isPartner isCreator isPaid : Bool}
  {amount : ℕ} {shares : List LpShare}

/-- A part is paid exactly when it is due and was not paid.
Source: `meteora_damm_metadata_state.rs` `lock_as_creator` and its siblings -/
theorem payOne_eq_ok {due : ℕ} {paid : MeteoraDammMigrationMetadata} :
    MeteoraDammMigrationMetadata.payOne isPaid due paid = .ok (amount, m') ↔
      isPaid = false ∧ due ≠ 0 ∧ amount = due ∧ m' = paid := by
  simp only [MeteoraDammMigrationMetadata.payOne, bind_eq_ok, exists_unit, require_eq_ok,
    pure_eq_ok, Prod.mk.injEq, eq_comm (a := due) (b := amount), eq_comm (a := paid) (b := m')]

/-- Both parts are paid exactly when neither was and together they are due.
Source: `meteora_damm_metadata_state.rs` `lock_as_self_partnered_creator` and its sibling -/
theorem payBoth_eq_ok {isPaid' : Bool} {due due' : ℕ} {paid : MeteoraDammMigrationMetadata} :
    MeteoraDammMigrationMetadata.payBoth isPaid' isPaid due due' paid = .ok (amount, m') ↔
      (isPaid' = false ∧ isPaid = false) ∧ due + due' < 2 ^ 64 ∧ due + due' ≠ 0 ∧
        amount = due + due' ∧ m' = paid := by
  simp only [MeteoraDammMigrationMetadata.payBoth, bind_eq_ok, exists_unit, require_eq_ok,
    safeAdd_eq_ok, pure_eq_ok, Prod.mk.injEq]
  constructor
  · rintro ⟨hopen, _, ⟨hfit, rfl⟩, hne, rfl, rfl⟩
    exact ⟨hopen, hfit, hne, rfl, rfl⟩
  · rintro ⟨hopen, hfit, hne, rfl, rfl⟩
    exact ⟨hopen, _, ⟨hfit, rfl⟩, hne, rfl, rfl⟩

/-- **A call pays the open parts of its owner, all of each.**
Source: `meteora_damm_lock_lp_token.rs`, `meteora_damm_claim_lp_token.rs`, the match on
`(is_partner, is_creator)` -/
theorem liquidityToken_spec (h : m.liquidityToken k isPartner isCreator = .ok (amount, m')) :
    Pays (sharesOf isPartner isCreator k.partnerShare k.creatorShare) m m' ∧
      amount = ((sharesOf isPartner isCreator k.partnerShare k.creatorShare).map m.due).sum := by
  cases k with
  | locked =>
    cases isPartner <;> cases isCreator
    · cases h
    · obtain ⟨hopen, _, rfl, rfl⟩ := payOne_eq_ok.mp h
      refine ⟨⟨?_, fun share => by cases share <;> rfl, rfl, rfl⟩, rfl⟩
      exact List.forall_mem_singleton.mpr hopen
    · obtain ⟨hopen, _, rfl, rfl⟩ := payOne_eq_ok.mp h
      refine ⟨⟨?_, fun share => by cases share <;> rfl, rfl, rfl⟩, rfl⟩
      exact List.forall_mem_singleton.mpr hopen
    · obtain ⟨⟨hcreator, hpartner⟩, _, _, rfl, rfl⟩ := payBoth_eq_ok.mp h
      refine ⟨⟨?_, fun share => by cases share <;> rfl, rfl, rfl⟩, rfl⟩
      exact List.forall_mem_cons.mpr ⟨hpartner, List.forall_mem_singleton.mpr hcreator⟩
  | claimed =>
    cases isPartner <;> cases isCreator
    · cases h
    · obtain ⟨hopen, _, rfl, rfl⟩ := payOne_eq_ok.mp h
      refine ⟨⟨?_, fun share => by cases share <;> rfl, rfl, rfl⟩, rfl⟩
      exact List.forall_mem_singleton.mpr hopen
    · obtain ⟨hopen, _, rfl, rfl⟩ := payOne_eq_ok.mp h
      refine ⟨⟨?_, fun share => by cases share <;> rfl, rfl, rfl⟩, rfl⟩
      exact List.forall_mem_singleton.mpr hopen
    · obtain ⟨⟨hcreator, hpartner⟩, _, _, rfl, rfl⟩ := payBoth_eq_ok.mp h
      refine ⟨⟨?_, fun share => by cases share <;> rfl, rfl, rfl⟩, rfl⟩
      exact List.forall_mem_cons.mpr ⟨hpartner, List.forall_mem_singleton.mpr hcreator⟩

/-- A call succeeds when its owner has parts, all of them open, and there is something of them.
Source: `meteora_damm_lock_lp_token.rs`, `meteora_damm_claim_lp_token.rs`, the match on
`(is_partner, is_creator)` -/
theorem liquidityToken_ok (howner : isPartner = true ∨ isCreator = true)
    (hshares : shares = sharesOf isPartner isCreator k.partnerShare k.creatorShare)
    (hopen : ∀ share ∈ shares, m.isPaid share = false) (hne : (shares.map m.due).sum ≠ 0)
    (hfit : (shares.map m.due).sum < 2 ^ 64) :
    ∃ m', m.liquidityToken k isPartner isCreator = .ok ((shares.map m.due).sum, m') := by
  subst hshares
  cases isPartner <;> cases isCreator
  · exact absurd howner (by decide)
  · have hone := hopen _ List.mem_cons_self
    cases k <;> exact ⟨_, payOne_eq_ok.mpr ⟨hone, hne, rfl, rfl⟩⟩
  · have hone := hopen _ List.mem_cons_self
    cases k <;> exact ⟨_, payOne_eq_ok.mpr ⟨hone, hne, rfl, rfl⟩⟩
  · have hpartner := hopen _ List.mem_cons_self
    have hcreator := hopen _ (List.mem_cons_of_mem _ List.mem_cons_self)
    cases k <;> exact ⟨_, payBoth_eq_ok.mpr ⟨⟨hcreator, hpartner⟩, hfit, hne, rfl, rfl⟩⟩

/-- What is left and what was paid make up what was left before. -/
theorem openDue_pays (h : Pays shares m m') (hnodup : shares.Nodup) :
    m'.openDue + (shares.map m.due).sum = m.openDue := by
  have hsum : (shares.map m.due).sum = ∑ share, if share ∈ shares then m.due share else 0 := by
    rw [← List.sum_toFinset m.due hnodup, ← Finset.sum_filter]
    refine Finset.sum_congr (Finset.ext fun share => ?_) fun _ _ => rfl
    simp
  rw [hsum, MeteoraDammMigrationMetadata.openDue, MeteoraDammMigrationMetadata.openDue,
    ← Finset.sum_add_distrib, h.due]
  refine Finset.sum_congr rfl fun share _ => ?_
  rw [h.isPaid share]
  by_cases hmem : share ∈ shares
  · simp [hmem, h.wasOpen share hmem]
  · simp [hmem]

/-- Open parts are covered by what is left. -/
theorem sum_due_le_openDue (hopen : ∀ share ∈ shares, m.isPaid share = false)
    (hnodup : shares.Nodup) : (shares.map m.due).sum ≤ m.openDue := by
  rw [← List.sum_toFinset m.due hnodup, MeteoraDammMigrationMetadata.openDue]
  calc ∑ share ∈ shares.toFinset, m.due share
      = ∑ share ∈ shares.toFinset, if m.isPaid share then 0 else m.due share := by
        refine Finset.sum_congr rfl fun share hmem => ?_
        rw [hopen share (List.mem_toFinset.mp hmem)]
        rfl
    _ ≤ ∑ share, if m.isPaid share then 0 else m.due share :=
        Finset.sum_le_sum_of_subset (Finset.subset_univ _)

/-- No part is named twice. -/
theorem sharesOf_nodup :
    (sharesOf isPartner isCreator k.partnerShare k.creatorShare).Nodup := by
  cases isPartner <;> cases isCreator <;> cases k <;> decide

/-- A party has its own part, and one that is both has both. -/
theorem mem_sharesOf {partnerShare creatorShare share : LpShare} :
    share ∈ sharesOf isPartner isCreator partnerShare creatorShare ↔
      isPartner = true ∧ share = partnerShare ∨ isCreator = true ∧ share = creatorShare := by
  cases isPartner <;> cases isCreator <;> simp [sharesOf]

end Calls

/-! ## The two instructions -/

namespace LpState

variable {s s' : LpState} {k : LpKind} {owner : Pubkey} {take : ℕ → Option ℕ}

/-- The parts of a kind that an owner has.
Source: `meteora_damm_lock_lp_token.rs`, `is_partner` and `is_creator` -/
def ownedShares (s : LpState) (k : LpKind) (owner : Pubkey) : List LpShare :=
  sharesOf (owner = s.metadata.partner) (owner = s.world.pool.creator) k.partnerShare
    k.creatorShare

/-- The two instructions in one: the parts of a kind leave the pool authority.
Source: `meteora_damm_lock_lp_token.rs`, `meteora_damm_claim_lp_token.rs`, the two handlers -/
def handOut (s : LpState) (k : LpKind) (owner : Pubkey) (take : ℕ → Option ℕ) :
    Result LpState := do
  ensure (s.world.pool.migrationProgress = .createdPool) .notPermitToDoThisAction
  let (amount, metadata) ← s.metadata.liquidityToken k (owner = s.metadata.partner)
    (owner = s.world.pool.creator)
  let taken ← orThrow (take amount) Fault.account
  s.pay (s.ownedShares k owner) metadata taken

/-- The locking hands out the locked parts.
Source: `meteora_damm_lock_lp_token.rs` `handle_migrate_meteora_damm_lock_lp_token` -/
theorem lock_eq_handOut (s : LpState) (owner : Pubkey) (locker : LpLocker) :
    Deployment.migrateMeteoraDammLockLpToken s owner locker =
      s.handOut .locked owner locker.take := rfl

/-- The claim hands out the others.
Source: `meteora_damm_claim_lp_token.rs` `handle_migrate_meteora_damm_claim_lp_token` -/
theorem claim_eq_handOut (s : LpState) (owner : Pubkey) :
    Deployment.migrateMeteoraDammClaimLpToken s owner = s.handOut .claimed owner some := rfl

/-- What a call does.
Source: `meteora_damm_lock_lp_token.rs`, `meteora_damm_claim_lp_token.rs`, the two handlers -/
theorem handOut_spec (h : s.handOut k owner take = .ok s') :
    ∃ metadata taken, Pays (s.ownedShares k owner) s.metadata metadata ∧
      take ((s.ownedShares k owner).map s.metadata.due).sum = some taken ∧ taken ≤ s.lpVault ∧
      s' = { s with
        metadata := metadata
        lpVault := s.lpVault - taken
        transfers := ⟨s.ownedShares k owner, taken⟩ :: s.transfers } := by
  simp only [handOut, pay, bind_eq_ok, exists_unit, require_eq_ok, orThrow_eq_ok,
    pure_eq_ok] at h
  obtain ⟨_, ⟨amount, metadata⟩, htoken, taken, htake, hle, rfl⟩ := h
  obtain ⟨hpays, rfl⟩ := liquidityToken_spec htoken
  exact ⟨metadata, taken, hpays, htake, hle, rfl⟩

/-- When a call that takes all succeeds.
Source: `meteora_damm_lock_lp_token.rs`, `meteora_damm_claim_lp_token.rs`, the two handlers -/
theorem handOut_ok {shares : List LpShare} (hshares : s.ownedShares k owner = shares)
    (hprogress : s.world.pool.migrationProgress = .createdPool)
    (howner : owner = s.metadata.partner ∨ owner = s.world.pool.creator)
    (hopen : ∀ share ∈ shares, s.metadata.isPaid share = false)
    (hne : (shares.map s.metadata.due).sum ≠ 0)
    (hfit : (shares.map s.metadata.due).sum < 2 ^ 64)
    (hvault : (shares.map s.metadata.due).sum ≤ s.lpVault) :
    ∃ metadata, s.handOut k owner some = .ok { s with
      metadata := metadata
      lpVault := s.lpVault - (shares.map s.metadata.due).sum
      transfers := ⟨shares, (shares.map s.metadata.due).sum⟩ :: s.transfers } := by
  obtain ⟨metadata, htoken⟩ := liquidityToken_ok (by simpa using howner) hshares.symm hopen hne
    hfit
  refine ⟨metadata, ?_⟩
  simp only [handOut, pay, bind_eq_ok, exists_unit, require_eq_ok, orThrow_eq_ok, pure_eq_ok,
    hshares]
  exact ⟨hprogress, _, htoken, _, rfl, hvault, rfl⟩

/-- The current owner of a part.
Source: `meteora_damm_lock_lp_token.rs`, `is_partner` and `is_creator` -/
def ownerOf (s : LpState) : LpShare → Pubkey
  | .partnerLocked | .partner => s.metadata.partner
  | .creatorLocked | .creator => s.world.pool.creator

/-- The call that pays a part to its current owner.
Source: `lib.rs` `migrate_meteora_damm_lock_lp_token`, `migrate_meteora_damm_claim_lp_token` -/
def payment (s : LpState) (share : LpShare) : LpAction :=
  match share with
  | .partnerLocked | .creatorLocked => .lock (s.ownerOf share) .takeAll
  | .partner | .creator => .claim (s.ownerOf share)

end LpState

/-! ## The creator changes only when nothing is left -/

section Creator

variable {d : Deployment} {w w' : World} {a : Action}

/-- A migrated pool gets a new creator only when its shares were handed out.
Source: `ix_transfer_pool_creator.rs` `handle_transfer_pool_creator` -/
theorem transferPoolCreator_handedOut {signer creator : Pubkey} {flag : Bool}
    (hoption : MigrationOption.tryFrom d.config.migrationOption = some .meteoraDamm)
    (hprogress : w.pool.migrationProgress = .createdPool)
    (h : d.transferPoolCreator w signer creator flag = .ok w') : flag = true := by
  simp only [Deployment.transferPoolCreator, hprogress, hoption, bind_eq_ok, exists_unit,
    orThrow_eq_ok, Option.some.injEq] at h
  obtain ⟨_, _, ⟨_, rfl, h⟩, _⟩ := h
  rw [if_pos rfl, require_eq_ok] at h
  exact h

/-- A migrated pool stays migrated.
Source: the instructions that write `migration_progress` -/
theorem createdPool_of_transition (hover : SaleOver d w)
    (hprogress : w.pool.migrationProgress = .createdPool) (h : Transition d w a w') :
    w'.pool.migrationProgress = .createdPool := by
  rcases h.quiet_or with hq | ⟨_, _, mid, trade, _⟩ | ⟨_, move⟩ | ⟨_, move⟩
  · rw [hq.migrationProgress, hprogress]
  · rw [SaleOver, trade.isOpen] at hover
    exact absurd hover Bool.false_ne_true
  · rcases move.progress with hpost | hdead
    · rw [hprogress] at hpost
      cases hpost
    · have hpre := (progress_eq_of_canCreateLockerAfterDeadline hdead).1
      rw [hprogress] at hpre
      cases hpre
  · rw [move.eq]

end Creator

/-! ## The invariant -/

/-- How the shares of a migrated pool stand, when `minted` of them were minted and the parts are
worth `due`.
Source: `meteora_damm_metadata_state.rs` `MeteoraDammMigrationMetadata` -/
structure Shared (d : Deployment) (minted : ℕ) (due : LpShare → ℕ) (s : LpState) : Prop where
  progress : s.world.pool.migrationProgress = .createdPool
  saleOver : SaleOver d s.world
  due_eq : s.metadata.due = due
  vault : s.lpVault + s.paidOut = minted
  openDue_le : s.metadata.openDue ≤ s.lpVault
  timesPaid_eq : ∀ share, s.timesPaid share = if s.metadata.isPaid share then 1 else 0
  together : (∀ share, due share = 0 ∨ s.metadata.isPaid share = true) ∨
    (s.metadata.partner = s.world.pool.creator →
      ∀ k : LpKind, s.metadata.isPaid k.partnerShare = s.metadata.isPaid k.creatorShare)

section Steps

variable {d : Deployment} {minted : ℕ} {due : LpShare → ℕ} {s s' : LpState}

/-- The shares begin open, each worth what the distribution of the minted ones gives to it.
Source: `migrate_meteora_damm_initialize_pool.rs` `handle_migrate_meteora_damm`, from
`lp_minted_amount` -/
theorem Shared.start {w : World} {amm : Amm} {metadata : MeteoraDammMigrationMetadata}
    (hmetadata : d.migrationMeteoraDammCreateMetadata = .ok metadata)
    (h : d.migrateMeteoraDammLp w amm metadata minted = .ok s) :
    ∃ l v1, d.config.getLiquidityDistribution minted = .ok l ∧
      l.toLiquidityDistributionDammV1 = .ok v1 ∧ Shared d minted v1.part s := by
  simp only [Deployment.migrationMeteoraDammCreateMetadata, bind_eq_ok, exists_unit,
    pure_eq_ok] at hmetadata
  obtain ⟨_, _, _, rfl⟩ := hmetadata
  simp only [Deployment.migrateMeteoraDammLp, bind_eq_ok, pure_eq_ok] at h
  obtain ⟨w', hmigrate, l, hl, v1, hv1, rfl⟩ := h
  refine ⟨l, v1, hl, hv1, ?_⟩
  obtain ⟨data, move⟩ := migrateMeteoraDamm_spec hmigrate
  have hover : SaleOver d w := isSaleComplete_iff.mpr move.ended
  have hfit := toLiquidityDistributionDammV1_sum_le (PoolConfig.getLiquidityDistribution_spec hl)
    hv1
  constructor
  · rw [move.eq]
  · have hstep : d.step w (.migrateMeteoraDamm amm) = .ok w' := hmigrate
    exact (frozen_of_transition hover (step_transition hstep)).saleOver
  · exact MeteoraDammMigrationMetadata.due_setLiquidityTokenMinted v1
  · exact Nat.add_zero minted
  · show v1.partnerLockedLiquidity + (v1.creatorLockedLiquidity + (v1.partnerLiquidity +
      (v1.creatorLiquidity + 0))) ≤ minted
    omega
  · intro share
    cases share <;> rfl
  · exact .inr fun _ k => by cases k <;> rfl

/-- An instruction on the pool keeps the shares as they stand: only a new creator could split the
two parts of a kind, and there is a new creator only when nothing is left.
Source: `ix_transfer_pool_creator.rs` `handle_transfer_pool_creator` -/
theorem Shared.of_pool {a : Action} {w : World}
    (hoption : MigrationOption.tryFrom d.config.migrationOption = some .meteoraDamm)
    (hs : Shared d minted due s) (h : d.step s.world (a.withMetadata s.metadata) = .ok w) :
    Shared d minted due { s with world := w } := by
  have hmove := step_transition h
  refine ⟨createdPool_of_transition hs.saleOver hs.progress hmove,
    (frozen_of_transition hs.saleOver hmove).saleOver, hs.due_eq, hs.vault, hs.openDue_le,
    hs.timesPaid_eq, ?_⟩
  rcases hmove.creator with hsame | ⟨flag, ha⟩
  · refine hs.together.imp_right fun htogether hpartner => htogether ?_
    rw [← hsame]
    exact hpartner
  · rw [ha] at h
    have hflag := transferPoolCreator_handedOut hoption hs.progress h
    have hhanded : s.metadata.isLiquidityHandedOut = true := by
      cases a with
      | transferPoolCreator signer creator isHandedOut =>
        rw [Action.withMetadata, Action.transferPoolCreator.injEq] at ha
        rw [ha.2.2, hflag]
      | _ => cases ha
    rw [MeteoraDammMigrationMetadata.isLiquidityHandedOut_iff, hs.due_eq] at hhanded
    exact .inl hhanded

/-- A call hands out open parts; a partner who is the creator gets both parts of a kind.
Source: `meteora_damm_lock_lp_token.rs`, `meteora_damm_claim_lp_token.rs`, the two handlers -/
theorem Shared.of_handOut {k : LpKind} {owner : Pubkey} {take : ℕ → Option ℕ}
    (htake : ∀ amount taken, take amount = some taken → taken ≤ amount)
    (hs : Shared d minted due s) (h : s.handOut k owner take = .ok s') :
    Shared d minted due s' := by
  obtain ⟨metadata, taken, hpays, htaken, hvault, rfl⟩ := LpState.handOut_spec h
  have hle := htake _ _ htaken
  have hopen : metadata.openDue + ((s.ownedShares k owner).map s.metadata.due).sum =
      s.metadata.openDue := openDue_pays hpays sharesOf_nodup
  have hbooks := hs.vault
  have hcovered := hs.openDue_le
  refine ⟨hs.progress, hs.saleOver, hpays.due.trans hs.due_eq, ?_, ?_, fun share => ?_, ?_⟩
  · show s.lpVault - taken + (taken + s.paidOut) = minted
    omega
  · show metadata.openDue ≤ s.lpVault - taken
    omega
  · have htimes := hs.timesPaid_eq share
    rw [LpState.timesPaid] at htimes ⊢
    rw [List.countP_cons, htimes, hpays.isPaid share]
    by_cases hmem : share ∈ s.ownedShares k owner
    · simp [hmem, hpays.wasOpen share hmem]
    · simp [hmem]
  · refine hs.together.imp (fun hall share => ?_) fun htogether hpartner k' => ?_
    · refine (hall share).imp_right fun hpaid => ?_
      show metadata.isPaid share = true
      rw [hpays.isPaid share, hpaid, Bool.or_true]
    · show metadata.isPaid k'.partnerShare = metadata.isPaid k'.creatorShare
      have hsame : s.metadata.partner = s.world.pool.creator := by
        rw [← hpays.partner]
        exact hpartner
      rw [hpays.isPaid, hpays.isPaid, htogether hsame k']
      -- the owner has either both parts of the kind or none
      have hboth : k'.partnerShare ∈ s.ownedShares k owner ↔
          k'.creatorShare ∈ s.ownedShares k owner := by
        rw [LpState.ownedShares, mem_sharesOf, mem_sharesOf, hsame]
        cases k <;> cases k' <;> simp [LpKind.partnerShare, LpKind.creatorShare]
      rw [decide_eq_decide.mpr hboth]

/-- **Every action keeps the shares in order.**
Source: `lib.rs`, the dispatch of the instructions -/
theorem Shared.of_step {a : LpAction}
    (hoption : MigrationOption.tryFrom d.config.migrationOption = some .meteoraDamm)
    (hs : Shared d minted due s) (h : d.lpStep s a = .ok s') : Shared d minted due s' := by
  cases a with
  | pool a =>
    simp only [Deployment.lpStep, bind_eq_ok, pure_eq_ok] at h
    obtain ⟨w, hw, rfl⟩ := h
    exact hs.of_pool hoption hw
  | lock owner locker =>
    rw [Deployment.lpStep, LpState.lock_eq_handOut] at h
    exact hs.of_handOut locker.take_le h
  | claim owner =>
    rw [Deployment.lpStep, LpState.claim_eq_handOut] at h
    exact hs.of_handOut (fun amount taken heq => (Option.some.inj heq).ge) h

/-- With an open part that is worth something, all parts that its owner has of that kind are
open.
Source: `meteora_damm_metadata_state.rs` `lock_as_self_partnered_creator`,
`claim_as_self_partnered_creator`, the first check -/
theorem Shared.owned_open (hs : Shared d minted due s) {k : LpKind} {owner : Pubkey}
    {share share' : LpShare} (hmem : share ∈ s.ownedShares k owner)
    (hmem' : share' ∈ s.ownedShares k owner) (hopen : s.metadata.isPaid share = false)
    (hne : due share ≠ 0) : s.metadata.isPaid share' = false := by
  have htogether : s.metadata.partner = s.world.pool.creator →
      ∀ k : LpKind, s.metadata.isPaid k.partnerShare = s.metadata.isPaid k.creatorShare := by
    refine hs.together.resolve_left fun hall => ?_
    rcases hall share with hzero | hpaid
    · exact hne hzero
    · rw [hopen] at hpaid
      exact Bool.false_ne_true hpaid
  rw [LpState.ownedShares, mem_sharesOf, decide_eq_true_eq, decide_eq_true_eq] at hmem hmem'
  rcases hmem with ⟨howner, rfl⟩ | ⟨howner, rfl⟩
  · rcases hmem' with ⟨_, rfl⟩ | ⟨howner', rfl⟩
    · exact hopen
    · rw [← htogether (howner.symm.trans howner') k]
      exact hopen
  · rcases hmem' with ⟨howner', rfl⟩ | ⟨_, rfl⟩
    · rw [htogether (howner'.symm.trans howner) k]
      exact hopen
    · exact hopen

/-- A call for the owner of an open part pays it.
Source: `meteora_damm_lock_lp_token.rs`, `meteora_damm_claim_lp_token.rs`, the two handlers -/
theorem Shared.handOut_of_open (hs : Shared d minted due s) (hfit : minted < 2 ^ 64) {k : LpKind}
    {owner : Pubkey} {share : LpShare} (hmem : share ∈ s.ownedShares k owner)
    (hne : due share ≠ 0) (hunpaid : s.timesPaid share = 0) :
    ∃ s', s.handOut k owner some = .ok s' ∧ s'.timesPaid share = 1 ∧
      s.paidOut + due share ≤ s'.paidOut := by
  have hopen : s.metadata.isPaid share = false := by
    have htimes := hs.timesPaid_eq share
    rw [hunpaid] at htimes
    split_ifs at htimes with hpaid
    simpa using hpaid
  have hall : ∀ share' ∈ s.ownedShares k owner, s.metadata.isPaid share' = false :=
    fun share' hmem' => hs.owned_open hmem hmem' hopen hne
  have hsum : ((s.ownedShares k owner).map s.metadata.due).sum ≤ s.metadata.openDue :=
    sum_due_le_openDue hall sharesOf_nodup
  have hshare : due share ≤ ((s.ownedShares k owner).map s.metadata.due).sum := by
    rw [← hs.due_eq]
    exact List.single_le_sum (fun _ _ => Nat.zero_le _) _ (List.mem_map_of_mem hmem)
  have howner : owner = s.metadata.partner ∨ owner = s.world.pool.creator := by
    rw [LpState.ownedShares, mem_sharesOf, decide_eq_true_eq, decide_eq_true_eq] at hmem
    exact hmem.imp And.left And.left
  have hbooks := hs.vault
  have hcovered := hs.openDue_le
  obtain ⟨metadata, hok⟩ := LpState.handOut_ok rfl hs.progress howner hall (by omega) (by omega)
    (by omega)
  refine ⟨_, hok, ?_, ?_⟩
  · rw [LpState.timesPaid] at hunpaid ⊢
    rw [List.countP_cons, hunpaid]
    simp [hmem]
  · show s.paidOut + due share ≤ ((s.ownedShares k owner).map s.metadata.due).sum + s.paidOut
    omega

/-- **An open part can be paid to its current owner.**
Source: `meteora_damm_lock_lp_token.rs`, `meteora_damm_claim_lp_token.rs`, the two handlers -/
theorem Shared.payable (hs : Shared d minted due s) (hfit : minted < 2 ^ 64) {share : LpShare}
    (hne : due share ≠ 0) (hunpaid : s.timesPaid share = 0) :
    ∃ s', d.lpStep s (s.payment share) = .ok s' ∧ s'.timesPaid share = 1 ∧
      s.paidOut + due share ≤ s'.paidOut := by
  cases share with
  | partnerLocked =>
    have howned : LpShare.partnerLocked ∈ s.ownedShares .locked (s.ownerOf .partnerLocked) :=
      mem_sharesOf.mpr (.inl ⟨decide_eq_true rfl, rfl⟩)
    exact hs.handOut_of_open hfit howned hne hunpaid
  | creatorLocked =>
    have howned : LpShare.creatorLocked ∈ s.ownedShares .locked (s.ownerOf .creatorLocked) :=
      mem_sharesOf.mpr (.inr ⟨decide_eq_true rfl, rfl⟩)
    exact hs.handOut_of_open hfit howned hne hunpaid
  | partner =>
    have howned : LpShare.partner ∈ s.ownedShares .claimed (s.ownerOf .partner) :=
      mem_sharesOf.mpr (.inl ⟨decide_eq_true rfl, rfl⟩)
    exact hs.handOut_of_open hfit howned hne hunpaid
  | creator =>
    have howned : LpShare.creator ∈ s.ownedShares .claimed (s.ownerOf .creator) :=
      mem_sharesOf.mpr (.inr ⟨decide_eq_true rfl, rfl⟩)
    exact hs.handOut_of_open hfit howned hne hunpaid

end Steps

/-! ## All runs -/

section Runs

variable {d : Deployment} {w : World} {amm : Amm} {metadata : MeteoraDammMigrationMetadata}
  {lpMintedAmount : ℕ} {minted : LpState}

/-- **The shares are paid exactly once and are never trapped.** The parts are those of the
distribution of the minted shares. Whatever is called after the migration, in whatever order and for
whomever: every part leaves the pool authority at most once; no more than was minted leaves it; and
every part that is worth something and has not left can still be paid, whoever its owner is by then.
Source: `meteora_damm_metadata_state.rs` `MeteoraDammMigrationMetadata`;
`ix_transfer_pool_creator.rs` `handle_transfer_pool_creator` -/
theorem lpShares_paid_once (hfit : lpMintedAmount < 2 ^ 64)
    (hmetadata : d.migrationMeteoraDammCreateMetadata = .ok metadata)
    (hminted : d.migrateMeteoraDammLp w amm metadata lpMintedAmount = .ok minted)
    (actions : List LpAction) :
    let s := run d.lpStep minted actions
    ∃ l v1, d.config.getLiquidityDistribution lpMintedAmount = .ok l ∧
      l.toLiquidityDistributionDammV1 = .ok v1 ∧ minted.metadata.due = v1.part ∧
      (∀ share, s.timesPaid share ≤ 1) ∧ s.paidOut ≤ lpMintedAmount ∧
      ∀ share, v1.part share ≠ 0 → s.timesPaid share = 0 →
        ∃ s', d.lpStep s (s.payment share) = .ok s' ∧ s'.timesPaid share = 1 ∧
          s.paidOut + v1.part share ≤ s'.paidOut := by
  have hoption : MigrationOption.tryFrom d.config.migrationOption = some .meteoraDamm := by
    simp only [Deployment.migrationMeteoraDammCreateMetadata, bind_eq_ok, exists_unit,
      orThrow_eq_ok, require_eq_ok] at hmetadata
    obtain ⟨_, hoption, rfl, _⟩ := hmetadata
    exact hoption
  obtain ⟨l, v1, hl, hv1, hstart⟩ := Shared.start hmetadata hminted
  have hs : Shared d lpMintedAmount v1.part (run d.lpStep minted actions) :=
    run_invariant (Shared d lpMintedAmount v1.part) (fun _ => True)
      (fun _ _ _ _ hs h => hs.of_step hoption h) (fun _ _ => trivial) hstart
  refine ⟨l, v1, hl, hv1, hstart.due_eq, fun share => ?_, ?_,
    fun share hne hunpaid => hs.payable hfit hne hunpaid⟩
  · rw [hs.timesPaid_eq]
    split_ifs <;> omega
  · have hbooks := hs.vault
    omega

/-- A plain configuration for the first program, whose partner is the creator of the pool.
Source: `state/config.rs` `PoolConfig` -/
def selfPartneredDeployment : Deployment :=
  { Launch.plainLaunch.deployment with
    config := { Launch.plainLaunch.config with
      migrationOption := 0
      feeClaimer := 5
      partnerPermanentLockedLiquidityPercentage := 20
      partnerLiquidityPercentage := 30
      creatorPermanentLockedLiquidityPercentage := 40
      creatorLiquidityPercentage := 10 } }

/-- Its sale was completed by one buy. -/
def selfPartneredWorld : World :=
  run selfPartneredDeployment.step Launch.plainLaunch.genesis [.swap2 (buyOf 1 2000000 0)]

/-- The partner, who is the creator, claims; hands the pool over, which fails; and locks. -/
theorem lpShares_paid_once_selfPartnered :
    ∃ metadata minted, ∃ v1 : LiquidityDistributionDammV1,
      selfPartneredDeployment.migrationMeteoraDammCreateMetadata = .ok metadata ∧
      selfPartneredDeployment.migrateMeteoraDammLp selfPartneredWorld .takeAll metadata 1003 =
        .ok minted ∧
      minted.metadata.due = v1.part ∧
      let s := run selfPartneredDeployment.lpStep minted
        [.claim 5, .pool (.transferPoolCreator 5 6 true), .lock 5 .takeAll]
      (∀ share, s.timesPaid share ≤ 1) ∧ s.paidOut ≤ 1003 := by
  have hmetadata : selfPartneredDeployment.migrationMeteoraDammCreateMetadata =
      .ok { (default : MeteoraDammMigrationMetadata) with partner := 5 } := by
    decide +kernel
  rcases hminted : selfPartneredDeployment.migrateMeteoraDammLp selfPartneredWorld .takeAll
    { (default : MeteoraDammMigrationMetadata) with partner := 5 } 1003 with e | minted
  · have hok : (selfPartneredDeployment.migrateMeteoraDammLp selfPartneredWorld .takeAll
        { (default : MeteoraDammMigrationMetadata) with partner := 5 } 1003).isOk = true := by
      decide +kernel
    rw [hminted] at hok
    cases hok
  · have hpaid := lpShares_paid_once (by decide) hmetadata hminted
      [.claim 5, .pool (.transferPoolCreator 5 6 true), .lock 5 .takeAll]
    obtain ⟨_, v1, _, _, hrecorded, honce, hcovered, _⟩ := hpaid
    exact ⟨_, minted, v1, hmetadata, hminted, hrecorded, honce, hcovered⟩

end Runs

end DynamicBondingCurve
