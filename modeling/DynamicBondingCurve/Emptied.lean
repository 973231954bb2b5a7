import DynamicBondingCurve.Claimable

/-!
# What is left when all is claimed

After the migration a pool is a set of claims. Once all of them are paid nothing of the base is
left, and of the quote only what the receiving program did not take of the offer.

* `PaidInFull`: every share that was withdrawn was paid what the reserve makes it worth.
* `BaseSettled`: the base vault holds the fees and nothing else.
* `Launch.vaults_emptied`: **no token is left in the vaults of a pool when all is claimed**, if no
  share was withdrawn before the sale was over.
-/

namespace DynamicBondingCurve

open Library

/-! ## Shares paid in full -/

/-- Every share that is closed was paid in full; of the migration's the receiving program may have
left a part.
Source: `instructions/partner/ix_withdraw_partner_surplus.rs`,
`instructions/creator/ix_withdraw_creator_surplus.rs`,
`instructions/migration/ix_withdraw_migration_fee.rs` -/
def PaidInFull (d : Deployment) (w : World) : Prop :=
  ∀ s : QuoteShare, s ≠ .migration → s.isOpen w.pool = false →
    s.paid w.effects = s.due d.config w.pool.quoteReserve

section Steps

variable {d : Deployment} {w w' : World} {a : Action}

open QuoteShare

/-- A move that pays no share and raises no quote keeps the shares as they stand. -/
theorem PaidInFull.of_unpaid (hw : PaidInFull d w)
    (hreserve : w'.pool.quoteReserve = w.pool.quoteReserve)
    (hpaid : ∀ s : QuoteShare, s ≠ .migration → s.paid w'.effects = s.paid w.effects)
    (hopen : ∀ s : QuoteShare, s ≠ .migration → s.isOpen w'.pool = s.isOpen w.pool) :
    PaidInFull d w' := by
  intro s hne hclosed
  rw [hopen s hne] at hclosed
  rw [hpaid s hne, hreserve]
  exact hw s hne hclosed

/-- A payment of the worth of an open share pays it in full. -/
theorem PaidInFull.of_payment (hw : PaidInFull d w) (hentitled : Entitled d w) (s₀ : QuoteShare)
    (hreserve : w'.pool.quoteReserve = w.pool.quoteReserve)
    (hpaid : ∀ s : QuoteShare, s.paid w'.effects =
      (if s = s₀ then s₀.due d.config w.pool.quoteReserve else 0) + s.paid w.effects)
    (hbefore : s₀.isOpen w.pool = true)
    (hopen : ∀ s : QuoteShare, s ≠ s₀ → s.isOpen w'.pool = s.isOpen w.pool) :
    PaidInFull d w' := by
  intro s hne hclosed
  rw [hpaid, hreserve]
  by_cases hsame : s = s₀
  · subst hsame
    have hnothing : s.paid w.effects = 0 := (hentitled s).paid_eq hbefore
    rw [if_pos rfl, hnothing, Nat.add_zero]
  · rw [hopen s hsame] at hclosed
    rw [if_neg hsame, Nat.zero_add]
    exact hw s hne hclosed

/-- After the sale a pool that trades only pays fees.
Source: `instructions/swap/process_swap.rs` `process_swap`, the check of `is_sale_complete` -/
theorem PaidInFull.of_trading (hw : PaidInFull d w) (hover : SaleOver d w)
    (h : Trading d w a w') : PaidInFull d w' := by
  have hreserve := (frozen_of_transition hover (.trading h)).quoteReserve
  refine hw.of_unpaid hreserve ?_ ?_
  · intro s _
    unfold QuoteShare.paid
    rw [(h.paid_eq (purpose_not_isTrading s)).1, h.spent_eq.2.2]
  · intro s _
    cases h with
    | swap trade completion =>
      rw [SaleOver, trade.isOpen] at hover
      exact absurd hover Bool.false_ne_true
    | _ => cases s <;> rfl

/-- **After the sale every move pays what it pays in full.**
Source: `instructions`, the instructions that pay out of the quote vault -/
theorem PaidInFull.of_transition (hw : PaidInFull d w) (hover : SaleOver d w)
    (hentitled : Entitled d w) (h : Transition d w a w') : PaidInFull d w' := by
  cases h with
  | trading move => exact hw.of_trading hover move
  | partnerSurplus hcap hflag hqv =>
    refine hw.of_payment hentitled .partnerSurplus rfl ?_ (by simp [QuoteShare.isOpen, hflag]) ?_
    · intro s
      cases s <;> simp [QuoteShare.paid, purpose, due, Effect.paidAmount, Effect.savedFee]
    · intro s hne
      cases s <;> first | rfl | exact absurd rfl hne
  | creatorSurplus hfixed hcap hflag hqv =>
    refine hw.of_payment hentitled .creatorSurplus rfl ?_ (by simp [QuoteShare.isOpen, hflag]) ?_
    · intro s
      cases s <;> simp [QuoteShare.paid, purpose, due, Effect.paidAmount, Effect.savedFee]
    · intro s hne
      cases s <;> first | rfl | exact absurd rfl hne
  | partnerMigrationFee hpermitted heligible hqv =>
    obtain ⟨_, hother⟩ := eligible_updateWithdrawMigrationFee CREATOR_MIGRATION_FEE_MASK
      (by decide) (by decide) heligible
    refine hw.of_payment hentitled .partnerMigrationFee rfl ?_ heligible ?_
    · intro s
      cases s <;> simp [QuoteShare.paid, purpose, due, Effect.paidAmount, Effect.savedFee,
        World.paid, World.withPool, PoolState.effectiveMigrationQuoteThreshold]
    · intro s hne
      cases s <;> first | rfl | exact hother | exact absurd rfl hne
  | creatorMigrationFee hpermitted heligible hqv =>
    obtain ⟨_, hother⟩ := eligible_updateWithdrawMigrationFee PARTNER_MIGRATION_FEE_MASK
      (by decide) (by decide) heligible
    refine hw.of_payment hentitled .creatorMigrationFee rfl ?_ heligible ?_
    · intro s
      cases s <;> simp [QuoteShare.paid, purpose, due, Effect.paidAmount, Effect.savedFee,
        World.paid, World.withPool, PoolState.effectiveMigrationQuoteThreshold]
    · intro s hne
      cases s <;> first | rfl | exact hother | exact absurd rfl hne
  | locker move =>
    rw [move.eq]
    refine hw.of_unpaid rfl ?_ ?_
    · intro s _
      cases s <;> simp [QuoteShare.paid, purpose, Effect.paidAmount, Effect.savedFee]
    · intro s hne
      cases s <;> first | rfl | exact absurd rfl hne
  | migration move =>
    rw [move.eq]
    refine hw.of_unpaid rfl ?_ ?_
    · intro s hne
      cases s with
      | migration => exact absurd rfl hne
      | _ => simp [QuoteShare.paid, purpose, Effect.paidAmount]
    · intro s hne
      cases s <;> first | rfl | exact absurd rfl hne
  | leftover hprogress hflag hamount =>
    refine hw.of_unpaid rfl ?_ ?_
    · intro s _
      cases s <;> simp [QuoteShare.paid, purpose, Effect.paidAmount, Effect.savedFee]
    · intro s _
      cases s <;> rfl

/-- **The shares are worth the whole reserve**, whatever the roundings.
Source: `state/config.rs` `get_migration_fee_distribution_for_threshold`;
`state/virtual_pool.rs` `get_partner_surplus`, `get_creator_surplus` -/
theorem QuoteShare.sum_due_eq {c : PoolConfig} {quoteReserve : ℕ} (hc : Percentages c) :
    ∑ s, due c quoteReserve s = quoteReserve := by
  have hsurplus : partnerSurplusShare c (quoteReserve - c.getMigrationQuoteAmountCap) +
      creatorSurplusShare c (quoteReserve - c.getMigrationQuoteAmountCap) =
        quoteReserve - c.getMigrationQuoteAmountCap := by
    unfold partnerSurplusShare creatorSurplusShare
    split_ifs
    · exact Nat.add_zero _
    · exact partnerShare_add_creatorShare hc.creatorTradingFee
  have hfee : due c quoteReserve .partnerMigrationFee + due c quoteReserve .creatorMigrationFee =
      migrationFeeOf c.migrationFeePercentage (min quoteReserve c.getMigrationQuoteAmountCap) :=
    partnerShare_add_creatorShare hc.creatorMigrationFee
  have hkept : due c quoteReserve .migration ≤ min quoteReserve c.getMigrationQuoteAmountCap :=
    ceilDiv_percentage_le
  have hmigration : migrationFeeOf c.migrationFeePercentage
      (min quoteReserve c.getMigrationQuoteAmountCap) =
        min quoteReserve c.getMigrationQuoteAmountCap - due c quoteReserve .migration := rfl
  have huniv : (Finset.univ : Finset QuoteShare) =
      {.partnerSurplus, .creatorSurplus, .partnerMigrationFee, .creatorMigrationFee,
        .migration} := rfl
  rw [huniv]
  simp only [Finset.mem_insert, Finset.mem_singleton, reduceCtorEq, or_self, not_false_eq_true,
    Finset.sum_insert, Finset.sum_singleton]
  change partnerSurplusShare c _ + (creatorSurplusShare c _ + _) = _
  omega

/-! ## The base vault -/

/-- Once the pool is created, and the leftover of a fixed supply is withdrawn, the base vault holds
the fees on the base token and nothing else.
Source: `migrate_damm_v2_initialize_pool.rs` `handle_migrate_damm_v2`, `burnable_amount`;
`withdraw_leftover.rs` `handle_withdraw_leftover` -/
structure BaseSettled (d : Deployment) (w : World) : Prop where
  flag : w.pool.isWithdrawLeftover ≠ 0 → w.pool.migrationProgress = .createdPool
  settled : w.pool.migrationProgress = .createdPool →
    (d.config.isFixedTokenSupply = true → w.pool.isWithdrawLeftover ≠ 0) →
      w.baseVault = w.pool.partnerBaseFee + w.pool.creatorBaseFee + w.pool.protocolBase

/-- Trades and claims of fees keep the base vault settled.
Source: `instructions/swap`, and the claims of fees of `instructions/partner`,
`instructions/creator` and `instructions/operator` -/
theorem BaseSettled.of_trading (hw : BaseSettled d w) (hended : ProgressEnded d w)
    (h : Trading d w a w') : BaseSettled d w' := by
  obtain ⟨hflag, hsettled⟩ := hw
  unfold PoolState.protocolBase at hsettled
  cases h with
  | swap trade completion =>
    have hpre := trade.progress hended
    have hzero : w.pool.isWithdrawLeftover = 0 := by
      by_contra hne
      rw [hflag hne] at hpre
      cases hpre
    have hpool := trade.pool
    cases completion with
    | «open» =>
      constructor
      · intro hne
        rw [hpool] at hne
        exact absurd hzero hne
      · intro hcreated
        rw [hpool] at hcreated
        have hcontra : w.pool.migrationProgress = .createdPool := hcreated
        rw [hpre] at hcontra
        cases hcontra
    | complete =>
      constructor
      · intro hne
        simp only [Deployment.completed, hpool] at hne
        exact absurd hzero hne
      · intro hcreated
        simp only [Deployment.completed] at hcreated
        split_ifs at hcreated
  | pass => exact ⟨hflag, hsettled⟩
  | transferCreator => exact ⟨hflag, hsettled⟩
  | claimPartner hb hq hbv hqv =>
    refine ⟨hflag, fun hcreated hwithdrawn => ?_⟩
    have hvault := hsettled hcreated hwithdrawn
    simp only [PoolState.protocolBase]
    omega
  | claimCreator hb hq hbv hqv =>
    refine ⟨hflag, fun hcreated hwithdrawn => ?_⟩
    have hvault := hsettled hcreated hwithdrawn
    simp only [PoolState.protocolBase]
    omega
  | claimProtocol flag htb hmb htq hmq hbv hqv =>
    refine ⟨hflag, fun hcreated hwithdrawn => ?_⟩
    have hvault := hsettled hcreated hwithdrawn
    simp only [PoolState.protocolBase]
    omega

/-- Every move keeps the base vault settled.
Source: `migrate_damm_v2_initialize_pool.rs` `handle_migrate_damm_v2`; `withdraw_leftover.rs`
`handle_withdraw_leftover` -/
theorem BaseSettled.of_transition (hw : BaseSettled d w) (hlife : Lifecycle d w)
    (hfit : w.baseVault < 2 ^ 64) (h : Transition d w a w') : BaseSettled d w' := by
  cases h with
  | trading move => exact hw.of_trading hlife.ended move
  | locker move =>
    have hprogress : w.pool.migrationProgress ≠ .createdPool := by
      rcases (move.progress_cases hlife.toHistory).1 with h | ⟨h, _⟩ <;> rw [h] <;> decide
    rw [move.eq]
    constructor
    · exact fun hne => absurd (hw.flag hne) hprogress
    · intro hcreated
      cases hcreated
  | @migration m _ _ move =>
    have hprogress : w.pool.migrationProgress ≠ .createdPool := by
      rcases (move.progress_cases hlife.toHistory).1 with h | ⟨h, _⟩ <;> rw [h] <;> decide
    have hzero : w.pool.isWithdrawLeftover = 0 := by
      by_contra hne
      exact hprogress (hw.flag hne)
    obtain ⟨maxBurnable, left, hmax, hleft, hburnt⟩ := move.burnt_eq
    rw [move.eq]
    refine ⟨fun _ => rfl, fun _ hwithdrawn => ?_⟩
    -- nothing limits the burning of a supply that is not fixed
    have hplain : d.config.isFixedTokenSupply = false := by
      by_contra hfixed
      exact hwithdrawn (by simpa using hfixed) hzero
    rw [PoolConfig.getMaxBurnableAmountPostMigration, hplain, if_neg Bool.false_ne_true,
      pure_eq_ok] at hmax
    have hall : m.burnt = left := by
      rw [hburnt, ← hmax]
      refine min_eq_right ?_
      unfold u64Max
      omega
    simp only [PoolState.protocolBase]
    omega
  | leftover hprogress hflag hamount =>
    refine ⟨fun _ => hprogress, fun _ _ => ?_⟩
    simp only [PoolState.protocolBase]
    omega
  | partnerSurplus => exact ⟨hw.flag, hw.settled⟩
  | creatorSurplus => exact ⟨hw.flag, hw.settled⟩
  | partnerMigrationFee => exact ⟨hw.flag, hw.settled⟩
  | creatorMigrationFee => exact ⟨hw.flag, hw.settled⟩

end Steps

/-! ## Launched pools -/

/-- The pool has migrated, and everybody has claimed all there is for them.
Source: `state/virtual_pool.rs` `PoolState`, the fees and the flags of the withdrawals -/
structure AllClaimed (d : Deployment) (w : World) : Prop where
  created : w.pool.migrationProgress = .createdPool
  baseFees : w.pool.partnerBaseFee + w.pool.creatorBaseFee + w.pool.protocolBase = 0
  quoteFees : w.pool.partnerQuoteFee + w.pool.creatorQuoteFee + w.pool.protocolQuote = 0
  shares : ∀ s : QuoteShare, s.isOpen w.pool = true → s.due d.config w.pool.quoteReserve = 0
  leftover : d.config.isFixedTokenSupply = true → w.pool.isWithdrawLeftover ≠ 0

namespace Launch

variable (l : Launch) (actions : List Action)

/-- The base vault is settled in every run.
Source: `migrate_damm_v2_initialize_pool.rs` `handle_migrate_damm_v2`, `burnable_amount`;
`withdraw_leftover.rs` `handle_withdraw_leftover` -/
theorem baseSettled : BaseSettled l.deployment (l.after actions) := by
  have hsupply : l.initialBaseSupply < 2 ^ 64 := by
    obtain ⟨_, _, _, hlt⟩ := l.initialBaseSupply_ge
    exact hlt
  have h : BaseSettled l.deployment (l.after actions) ∧ Lifecycle l.deployment (l.after actions) ∧
      (l.after actions).baseVault ≤ l.initialBaseSupply := by
    refine invariant_of_transition (fun w => BaseSettled l.deployment w ∧
      Lifecycle l.deployment w ∧ w.baseVault ≤ l.initialBaseSupply) ?_ ?_
    · rintro a w w' ⟨hw, hlife, hvault⟩ hmove
      exact ⟨hw.of_transition hlife (hvault.trans_lt hsupply) hmove, hlife.of_transition hmove,
        hmove.baseVault_le.trans hvault⟩
    · refine ⟨?_, l.lifecycle_genesis, l.baseVault_le []⟩
      obtain ⟨_, _, hgenesis, _⟩ := l.genesis_eq
      rw [hgenesis]
      exact ⟨fun hne => absurd rfl hne, fun hcreated => by cases hcreated⟩
  exact h.1

/-- If every share is open when the sale is over, those closed afterwards were paid in full.
Source: `instructions`, the instructions that pay out of the quote vault -/
theorem paidInFull (sale rest : List Action) (hover : SaleOver l.deployment (l.after sale))
    (hopen : ∀ s : QuoteShare, s.isOpen (l.after sale).pool = true) :
    PaidInFull l.deployment (l.after (sale ++ rest)) := by
  have h : PaidInFull l.deployment (l.after (sale ++ rest)) ∧
      SaleOver l.deployment (l.after (sale ++ rest)) ∧
      Solvent l.deployment (l.after (sale ++ rest)) := by
    rw [l.after_append]
    refine invariant_of_transition (fun w => PaidInFull l.deployment w ∧
      SaleOver l.deployment w ∧ Solvent l.deployment w) ?_ ⟨?_, hover, l.solvent sale⟩
    · rintro a w w' ⟨hw, hstill, hsolvent⟩ hmove
      exact ⟨hw.of_transition hstill hsolvent.entitled hmove,
        (frozen_of_transition hstill hmove).saleOver, hsolvent.of_transition l.percentages hmove⟩
    · intro s _ hclosed
      rw [hopen s] at hclosed
      cases hclosed
  exact h.1

/-- **No token is left when all is claimed.** When no share was withdrawn before the sale was over
and everybody has claimed all there is, the base vault is empty, and the quote vault holds what the
receiving program did not take: together with its deposit and the protocol's part of the migration
this is the quote that the migration was worth.
Source: `migrate_damm_v2_initialize_pool.rs` `handle_migrate_damm_v2`; `instructions`, the
instructions that pay out of the vaults -/
theorem vaults_emptied (sale rest : List Action) (hover : SaleOver l.deployment (l.after sale))
    (hopen : ∀ s : QuoteShare, s.isOpen (l.after sale).pool = true)
    (hall : AllClaimed l.deployment (l.after (sale ++ rest))) :
    let last := l.after (sale ++ rest)
    last.baseVault = 0 ∧
      last.quoteVault + paidTotal .quote .migration last.effects + savedTotal .quote last.effects =
        QuoteShare.due l.config last.pool.quoteReserve .migration := by
  intro last
  have hbase : last.baseVault = 0 :=
    ((l.baseSettled (sale ++ rest)).settled hall.created hall.leftover).trans hall.baseFees
  refine ⟨hbase, ?_⟩
  have hsolvent := l.solvent (sale ++ rest)
  have hfull := l.paidInFull sale rest hover hopen
  -- every share but the migration's was paid what it is worth
  have hpaid : ∀ s : QuoteShare, s ≠ .migration →
      s.paid last.effects = s.due l.deployment.config last.pool.quoteReserve := by
    intro s hne
    cases hs : s.isOpen last.pool with
    | true => rw [hall.shares s hs, (hsolvent.entitled s).paid_eq hs]
    | false => exact hfull s hne hs
  have hothers : ∑ s ∈ Finset.univ.erase QuoteShare.migration, s.paid last.effects =
      ∑ s ∈ Finset.univ.erase QuoteShare.migration,
        s.due l.deployment.config last.pool.quoteReserve :=
    Finset.sum_congr rfl fun s hs => hpaid s (Finset.ne_of_mem_erase hs)
  have hworth := (Finset.add_sum_erase Finset.univ
    (QuoteShare.due l.deployment.config last.pool.quoteReserve)
    (Finset.mem_univ .migration)).trans (QuoteShare.sum_due_eq l.percentages)
  have hspent := (Finset.add_sum_erase Finset.univ (QuoteShare.paid last.effects)
    (Finset.mem_univ .migration)).trans (QuoteShare.sum_paid last.effects)
  have hmigration : QuoteShare.paid last.effects .migration =
      paidTotal .quote .migration last.effects + savedTotal .quote last.effects := rfl
  have hbooks : last.quoteVault + quoteSpent last.effects + savedTotal .quote last.effects =
      last.pool.quoteReserve + (last.pool.partnerQuoteFee + last.pool.creatorQuoteFee +
        last.pool.protocolQuoteFee) + last.pool.protocolMigrationQuoteFeeAmount :=
    hsolvent.backed.quote
  have hfees : last.pool.partnerQuoteFee + last.pool.creatorQuoteFee +
      (last.pool.protocolQuoteFee + last.pool.protocolMigrationQuoteFeeAmount) = 0 := hall.quoteFees
  change _ = QuoteShare.due l.deployment.config last.pool.quoteReserve .migration
  omega

/-- A run in which everybody claims after the sale. -/
def everybodyClaims : List Action :=
  [.claimTradingFee 2 (2 ^ 64 - 1) (2 ^ 64 - 1) true, .partnerWithdrawSurplus 2,
    .creatorWithdrawSurplus 5, .migrateDammV2 .takeAll, .withdrawMigrationFee 2 0,
    .withdrawMigrationFee 5 1, .claimProtocolFee2 true (2 ^ 64 - 1),
    .claimProtocolFee2 false (2 ^ 64 - 1)]

/-- The receiving program takes the whole offer, so that both vaults are empty. -/
theorem vaults_emptied_plainLaunch :
    let last := plainLaunch.after ([.swap2 (buyOf 1 1200000 0)] ++ everybodyClaims)
    last.baseVault = 0 ∧
      last.quoteVault + paidTotal .quote .migration last.effects + savedTotal .quote last.effects =
        QuoteShare.due plainLaunch.config last.pool.quoteReserve .migration := by
  have hover : SaleOver plainLaunch.deployment
      (plainLaunch.after [.swap2 (buyOf 1 1200000 0)]) := by
    unfold SaleOver
    decide +kernel
  have hall : AllClaimed plainLaunch.deployment
      (plainLaunch.after ([.swap2 (buyOf 1 1200000 0)] ++ everybodyClaims)) := by
    constructor <;> decide +kernel
  exact plainLaunch.vaults_emptied _ _ hover (by decide +kernel) hall

end Launch

end DynamicBondingCurve
