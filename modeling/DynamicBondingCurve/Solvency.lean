import DynamicBondingCurve.Backing
import DynamicBondingCurve.Library.Entitlements

/-!
# The quote vault covers what it owes

The quote reserve of a pool is never reduced: the surplus, the migration fee and the migration are
paid out of the vault, each as a share of the reserve, and each at most once.

* `QuoteShare`: the five shares, with what each is worth and when it is open.
* `QuoteShare.sum_due_le`: **the shares fit the reserve**, whatever the roundings.
* `Entitled`, `Entitled.of_transition`: every share is paid at most once, and at most its worth.
* `quoteVault_solvent`: **the quote vault covers everything still owed, after every run.**
-/

namespace DynamicBondingCurve

open Library

/-! ## The shares of the quote reserve -/

/-- What is paid out of the quote reserve.
Source: `instructions/partner/ix_withdraw_partner_surplus.rs`,
`instructions/creator/ix_withdraw_creator_surplus.rs`,
`instructions/migration/ix_withdraw_migration_fee.rs`,
`migrate_damm_v2_initialize_pool.rs` -/
inductive QuoteShare where
  | partnerSurplus
  | creatorSurplus
  | partnerMigrationFee
  | creatorMigrationFee
  | migration
  deriving DecidableEq, Repr

/-- There are five shares of the quote. -/
instance : Fintype QuoteShare where
  elems := {.partnerSurplus, .creatorSurplus, .partnerMigrationFee, .creatorMigrationFee,
    .migration}
  complete := by
    intro s
    cases s <;> decide

namespace QuoteShare

/-- The purpose of its payment.
Source: the transfers of quote out of the vault -/
def purpose : QuoteShare → Purpose
  | .partnerSurplus => .partnerSurplus
  | .creatorSurplus => .creatorSurplus
  | .partnerMigrationFee => .partnerMigrationFee
  | .creatorMigrationFee => .creatorMigrationFee
  | .migration => .migration

/-- What a share is worth, of a quote reserve.
Source: `state/virtual_pool.rs` `get_partner_surplus`, `get_creator_surplus`;
`state/config.rs` `get_migration_fee_distribution_for_threshold`,
`calculate_post_fee_migration_quote_amount` -/
def due (c : PoolConfig) (quoteReserve : ℕ) : QuoteShare → ℕ
  | .partnerSurplus => partnerSurplusShare c (quoteReserve - c.getMigrationQuoteAmountCap)
  | .creatorSurplus => creatorSurplusShare c (quoteReserve - c.getMigrationQuoteAmountCap)
  | .partnerMigrationFee => partnerShare c.creatorMigrationFeePercentage
      (migrationFeeOf c.migrationFeePercentage (min quoteReserve c.getMigrationQuoteAmountCap))
  | .creatorMigrationFee => creatorShare c.creatorMigrationFeePercentage
      (migrationFeeOf c.migrationFeePercentage (min quoteReserve c.getMigrationQuoteAmountCap))
  | .migration =>
      (min quoteReserve c.getMigrationQuoteAmountCap * (100 - c.migrationFeePercentage)) ⌈/⌉ 100

/-- A share is open until it is paid.
Source: `state/virtual_pool.rs` `PoolState` `is_partner_withdraw_surplus`,
`is_creator_withdraw_surplus`, `migration_fee_withdraw_status`, `migration_progress` -/
def isOpen (p : PoolState) : QuoteShare → Bool
  | .partnerSurplus => p.isPartnerWithdrawSurplus = 0
  | .creatorSurplus => p.isCreatorWithdrawSurplus = 0
  | .partnerMigrationFee => p.eligibleToWithdrawMigrationFee PARTNER_MIGRATION_FEE_MASK
  | .creatorMigrationFee => p.eligibleToWithdrawMigrationFee CREATOR_MIGRATION_FEE_MASK
  | .migration => p.migrationProgress ≠ .createdPool

/-- What was paid of a share; of the migration's, the protocol's part was saved as a fee.
Source: the transfers of quote out of the vault; `state/virtual_pool.rs`
`save_protocol_liquidity_migration_fee` -/
def paid (effects : List Effect) (s : QuoteShare) : ℕ :=
  paidTotal .quote s.purpose effects + if s = .migration then savedTotal .quote effects else 0

/-- The payments of the shares are what was spent and saved of the quote. -/
theorem sum_paid (effects : List Effect) :
    ∑ s, paid effects s = quoteSpent effects + savedTotal .quote effects := by
  have huniv : (Finset.univ : Finset QuoteShare) =
      {.partnerSurplus, .creatorSurplus, .partnerMigrationFee, .creatorMigrationFee,
        .migration} := rfl
  rw [huniv]
  simp [paid, purpose, quoteSpent]
  omega

/-! ## What the shares are worth -/

section Worth

variable {percentage amount amount' : ℕ}

/-- The creator's part of more is more. -/
theorem creatorShare_mono (h : amount ≤ amount') :
    creatorShare percentage amount ≤ creatorShare percentage amount' :=
  Nat.div_le_div_right (Nat.mul_le_mul_right _ h)

/-- The creator's part is at most the whole. -/
theorem creatorShare_le (hpercentage : percentage ≤ 100) :
    creatorShare percentage amount ≤ amount := by
  unfold creatorShare
  refine Nat.div_le_of_le_mul ?_
  rw [Nat.mul_comm]
  exact Nat.mul_le_mul_right _ hpercentage

/-- What the creator leaves grows with the amount.
Source: `state/config.rs` `split_partner_and_creator_fee` -/
theorem partnerShare_mono (hpercentage : percentage ≤ 100) (h : amount ≤ amount') :
    partnerShare percentage amount ≤ partnerShare percentage amount' := by
  have hle : creatorShare percentage amount ≤ amount := creatorShare_le hpercentage
  have hstep : creatorShare percentage amount' ≤
      creatorShare percentage amount + (amount' - amount) := by
    unfold creatorShare
    have hsum : amount' * percentage =
        amount * percentage + (amount' - amount) * percentage := by
      rw [← Nat.add_mul]
      congr 1
      omega
    have hpart : (amount' - amount) * percentage ≤ (amount' - amount) * 100 :=
      Nat.mul_le_mul_left _ hpercentage
    omega
  unfold partnerShare
  omega

/-- The two parts add up to the whole.
Source: `state/config.rs` `split_partner_and_creator_fee` -/
theorem partnerShare_add_creatorShare (hpercentage : percentage ≤ 100) :
    partnerShare percentage amount + creatorShare percentage amount = amount :=
  Nat.sub_add_cancel (creatorShare_le hpercentage)

/-- What the migration fee leaves of an amount is at most the amount.
Source: `state/config.rs` `calculate_post_fee_migration_quote_amount` -/
theorem ceilDiv_percentage_le : (amount * (100 - percentage)) ⌈/⌉ 100 ≤ amount := by
  rw [ceilDiv_le_iff (by norm_num), Nat.mul_comm 100]
  exact Nat.mul_le_mul_left _ (Nat.sub_le _ _)

/-- The migration fee grows with the amount.
Source: `state/config.rs` `calculate_post_fee_migration_quote_amount` -/
theorem migrationFeeOf_mono (h : amount ≤ amount') :
    migrationFeeOf percentage amount ≤ migrationFeeOf percentage amount' := by
  have hsum : amount' * (100 - percentage) =
      amount * (100 - percentage) + (amount' - amount) * (100 - percentage) := by
    rw [← Nat.add_mul]
    congr 1
    omega
  have hstep : (amount' * (100 - percentage)) ⌈/⌉ 100 ≤
      (amount * (100 - percentage)) ⌈/⌉ 100 + (amount' - amount) := by
    calc (amount' * (100 - percentage)) ⌈/⌉ 100
        ≤ (amount * (100 - percentage)) ⌈/⌉ 100 +
            ((amount' - amount) * (100 - percentage)) ⌈/⌉ 100 := by
          rw [hsum]
          exact ceilDiv_add_le _ _ (by norm_num)
      _ ≤ (amount * (100 - percentage)) ⌈/⌉ 100 + (amount' - amount) :=
          Nat.add_le_add_left ceilDiv_percentage_le _
  have hle : (amount * (100 - percentage)) ⌈/⌉ 100 ≤ amount := ceilDiv_percentage_le
  unfold migrationFeeOf
  omega

end Worth

variable {c : PoolConfig} {quoteReserve quoteReserve' : ℕ}

/-- The percentages of a configuration are percentages.
Source: `process_create_config.rs` `ConfigParameters::validate`, `MigrationFee::validate` -/
structure Percentages (c : PoolConfig) : Prop where
  creatorTradingFee : c.creatorTradingFeePercentage ≤ 100
  creatorMigrationFee : c.creatorMigrationFeePercentage ≤ 100

/-- Every share grows with the reserve.
Source: `state/virtual_pool.rs` `get_partner_surplus`, `get_creator_surplus`;
`state/config.rs` `get_migration_fee_distribution_for_threshold` -/
theorem due_mono (hc : Percentages c) (h : quoteReserve ≤ quoteReserve') (s : QuoteShare) :
    s.due c quoteReserve ≤ s.due c quoteReserve' := by
  have hsurplus : quoteReserve - c.getMigrationQuoteAmountCap ≤
      quoteReserve' - c.getMigrationQuoteAmountCap := Nat.sub_le_sub_right h _
  have heffective : min quoteReserve c.getMigrationQuoteAmountCap ≤
      min quoteReserve' c.getMigrationQuoteAmountCap := min_le_min_right _ h
  cases s with
  | partnerSurplus =>
    simp only [due, partnerSurplusShare]
    split_ifs
    · exact hsurplus
    · exact partnerShare_mono hc.creatorTradingFee hsurplus
  | creatorSurplus =>
    simp only [due, creatorSurplusShare]
    split_ifs
    · exact le_rfl
    · exact creatorShare_mono hsurplus
  | partnerMigrationFee =>
    exact partnerShare_mono hc.creatorMigrationFee (migrationFeeOf_mono heffective)
  | creatorMigrationFee => exact creatorShare_mono (migrationFeeOf_mono heffective)
  | migration => exact ceilDiv_mono (Nat.mul_le_mul_right _ heffective) _

/-- **The shares fit the reserve**, whatever the roundings.
Source: `state/config.rs` `get_migration_fee_distribution_for_threshold`;
`state/virtual_pool.rs` `get_partner_surplus`, `get_creator_surplus` -/
theorem sum_due_le (hc : Percentages c) : ∑ s, due c quoteReserve s ≤ quoteReserve := by
  have hsurplus : partnerSurplusShare c (quoteReserve - c.getMigrationQuoteAmountCap) +
      creatorSurplusShare c (quoteReserve - c.getMigrationQuoteAmountCap) =
        quoteReserve - c.getMigrationQuoteAmountCap := by
    unfold partnerSurplusShare creatorSurplusShare
    split_ifs
    · exact Nat.add_zero _
    · exact partnerShare_add_creatorShare hc.creatorTradingFee
  have hfee : partnerShare c.creatorMigrationFeePercentage (migrationFeeOf
        c.migrationFeePercentage (min quoteReserve c.getMigrationQuoteAmountCap)) +
      creatorShare c.creatorMigrationFeePercentage (migrationFeeOf
        c.migrationFeePercentage (min quoteReserve c.getMigrationQuoteAmountCap)) =
      migrationFeeOf c.migrationFeePercentage (min quoteReserve c.getMigrationQuoteAmountCap) :=
    partnerShare_add_creatorShare hc.creatorMigrationFee
  have hkept : (min quoteReserve c.getMigrationQuoteAmountCap *
      (100 - c.migrationFeePercentage)) ⌈/⌉ 100 ≤
        min quoteReserve c.getMigrationQuoteAmountCap := ceilDiv_percentage_le
  have huniv : (Finset.univ : Finset QuoteShare) =
      {.partnerSurplus, .creatorSurplus, .partnerMigrationFee, .creatorMigrationFee,
        .migration} := rfl
  rw [huniv]
  simp only [Finset.mem_insert, Finset.mem_singleton, reduceCtorEq, or_self, not_false_eq_true,
    Finset.sum_insert, Finset.sum_singleton, due]
  rw [migrationFeeOf] at hfee ⊢
  omega

end QuoteShare

/-! ## How the shares stand -/

/-- Every share of the quote reserve is paid at most once, and at most its worth.
Source: `state/virtual_pool.rs` `PoolState` `is_partner_withdraw_surplus`,
`is_creator_withdraw_surplus`, `migration_fee_withdraw_status`, `migration_progress` -/
def Entitled (d : Deployment) (w : World) : Prop :=
  ∀ s : QuoteShare, Settled (s.due d.config w.pool.quoteReserve) (s.paid w.effects)
    (paidCount .quote s.purpose w.effects) (s.isOpen w.pool)

section Steps

variable {d : Deployment} {w w' : World} {a : Action}

open QuoteShare

/-- A move that pays no share leaves the shares as they stand. -/
theorem Entitled.of_unpaid (hc : Percentages d.config) (hw : Entitled d w)
    (hreserve : w.pool.quoteReserve ≤ w'.pool.quoteReserve)
    (hpaid : ∀ s, QuoteShare.paid w'.effects s = QuoteShare.paid w.effects s)
    (hcount : ∀ s : QuoteShare, paidCount .quote s.purpose w'.effects =
      paidCount .quote s.purpose w.effects)
    (hopen : ∀ s, QuoteShare.isOpen w'.pool s = QuoteShare.isOpen w.pool s) :
    Entitled d w' := by
  intro s
  rw [hpaid, hcount, hopen]
  exact (hw s).mono (due_mono hc hreserve s)

/-- A move that pays one open share closes it. -/
theorem Entitled.of_payment (hw : Entitled d w) (s₀ : QuoteShare) {amount : ℕ}
    (hreserve : w'.pool.quoteReserve = w.pool.quoteReserve)
    (hamount : amount ≤ s₀.due d.config w.pool.quoteReserve)
    (hpaid : ∀ s, QuoteShare.paid w'.effects s =
      (if s = s₀ then amount else 0) + QuoteShare.paid w.effects s)
    (hcount : ∀ s : QuoteShare, paidCount .quote s.purpose w'.effects =
      paidCount .quote s.purpose w.effects + if s = s₀ then 1 else 0)
    (hbefore : s₀.isOpen w.pool = true) (hafter : s₀.isOpen w'.pool = false)
    (hopen : ∀ s, s ≠ s₀ → QuoteShare.isOpen w'.pool s = QuoteShare.isOpen w.pool s) :
    Entitled d w' := by
  intro s
  have hs := hw s
  rw [hpaid, hcount, hreserve]
  by_cases hsame : s = s₀
  · subst hsame
    rw [hbefore] at hs
    rw [if_pos rfl, if_pos rfl, hafter]
    exact hs.pay hamount
  · rw [if_neg hsame, if_neg hsame, hopen s hsame, Nat.zero_add]
    exact hs

/-- No share is paid by trades or claims of fees. -/
theorem purpose_not_isTrading (s : QuoteShare) : ¬ s.purpose.IsTrading := by
  cases s <;> simp [purpose, Purpose.IsTrading, Purpose.IsSwap]

/-- A pool that trades pays no share; its reserve only grows.
Source: `instructions/swap`, and the claims of fees of `instructions/partner`,
`instructions/creator` and `instructions/operator` -/
theorem Entitled.of_trading (hc : Percentages d.config) (hended : ProgressEnded d w)
    (hw : Entitled d w) (h : Trading d w a w') : Entitled d w' := by
  refine hw.of_unpaid hc (quoteReserve_le_of_transition (.trading h)) ?_
    (fun s => (h.paid_eq (purpose_not_isTrading s)).2) ?_
  · intro s
    unfold QuoteShare.paid
    rw [(h.paid_eq (purpose_not_isTrading s)).1, h.spent_eq.2.2]
  · intro s
    cases h with
    | swap trade completion =>
      have hpre := trade.progress hended
      have hpool := trade.pool
      cases completion with
      | «open» =>
        rw [hpool]
        cases s <;> rfl
      | complete =>
        cases s with
        | migration =>
          simp only [QuoteShare.isOpen, Deployment.completed, hpre]
          split_ifs <;> rfl
        | _ =>
          simp only [QuoteShare.isOpen, Deployment.completed, hpool]
          rfl
    | _ => cases s <;> rfl

/-- Paying the migration fee to one side closes its share and leaves the other as it was.
Source: `state/virtual_pool.rs` `eligible_to_withdraw_migration_fee`,
`update_withdraw_migration_fee` -/
theorem eligible_updateWithdrawMigrationFee {p : PoolState} {mask : ℕ} (other : ℕ)
    (hmask : mask ≠ 0) (hdisjoint : mask &&& other = 0)
    (h : p.eligibleToWithdrawMigrationFee mask = true) :
    (p.updateWithdrawMigrationFee mask).eligibleToWithdrawMigrationFee mask = false ∧
      (p.updateWithdrawMigrationFee mask).eligibleToWithdrawMigrationFee other =
        p.eligibleToWithdrawMigrationFee other := by
  simp only [PoolState.eligibleToWithdrawMigrationFee, decide_eq_true_eq] at h
  simp only [PoolState.eligibleToWithdrawMigrationFee, PoolState.updateWithdrawMigrationFee,
    Nat.and_xor_distrib_right, h, hdisjoint, Nat.and_self, Nat.zero_xor, Nat.xor_zero,
    decide_eq_false_iff_not]
  exact ⟨hmask, trivial⟩

/-- The migration takes its share, or saves a part of it as a fee of the protocol.
Source: `migrate_damm_v2_initialize_pool.rs` `handle_migrate_damm_v2` -/
theorem Entitled.of_migration {m : MigrationData} (hhistory : History d w) (hw : Entitled d w)
    (move : MigrationMove d m w w') : Entitled d w' := by
  obtain ⟨amount, hamount, hquote⟩ :=
    MigrationHandler.getIncludedProtocolFeeMigrationAmounts1_quote move.amounts
  have hdue : m.quote = QuoteShare.due d.config w.pool.quoteReserve .migration := by
    rw [hquote, (PoolConfig.calculatePostFeeMigrationQuoteAmount_spec hamount).2]
    rfl
  have hle := move.taken_quote_le
  have hprogress : w.pool.migrationProgress ≠ .createdPool := by
    rcases (move.progress_cases hhistory).1 with h | ⟨h, _⟩ <;> rw [h] <;> decide
  refine hw.of_payment .migration ?_ (hle.trans_eq hdue) ?_ ?_ ?_ ?_ ?_
  · rw [move.eq]
  · intro s
    rw [move.eq]
    cases s <;> simp [QuoteShare.paid, purpose, Effect.paidAmount, Effect.savedFee]
    omega
  · intro s
    rw [move.eq]
    simp only
    have hburn : ∀ es, paidCount .quote s.purpose (Effect.positive .base .burn m.burnt ++ es) =
        paidCount .quote s.purpose es := fun es => countP_positive es (by simp [Effect.isPaid])
    rw [hburn]
    cases s <;> simp [purpose, Effect.isPaid]
  · simp [QuoteShare.isOpen, hprogress]
  · rw [move.eq]
    rfl
  · intro s hne
    rw [move.eq]
    cases s with
    | migration => exact absurd rfl hne
    | _ => rfl

/-- **Every share is paid at most once, and at most its worth.**
Source: `instructions`, the instructions that pay out of the quote vault -/
theorem Entitled.of_transition (hc : Percentages d.config) (hhistory : History d w)
    (hended : ProgressEnded d w) (hw : Entitled d w) (h : Transition d w a w') : Entitled d w' := by
  cases h with
  | trading move => exact hw.of_trading hc hended move
  | partnerSurplus hcap hflag hqv =>
    refine hw.of_payment .partnerSurplus rfl le_rfl ?_ ?_ (by simp [QuoteShare.isOpen, hflag])
      rfl ?_
    · intro s
      cases s <;> simp [QuoteShare.paid, purpose, due, Effect.paidAmount, Effect.savedFee]
    · intro s
      cases s <;> simp [purpose, Effect.isPaid]
    · intro s hne
      cases s <;> first | rfl | exact absurd rfl hne
  | creatorSurplus hfixed hcap hflag hqv =>
    refine hw.of_payment .creatorSurplus rfl le_rfl ?_ ?_ (by simp [QuoteShare.isOpen, hflag])
      rfl ?_
    · intro s
      cases s <;> simp [QuoteShare.paid, purpose, due, Effect.paidAmount, Effect.savedFee]
    · intro s
      cases s <;> simp [purpose, Effect.isPaid]
    · intro s hne
      cases s <;> first | rfl | exact absurd rfl hne
  | partnerMigrationFee hpermitted heligible hqv =>
    obtain ⟨hclosed, hother⟩ := eligible_updateWithdrawMigrationFee CREATOR_MIGRATION_FEE_MASK
      (by decide) (by decide) heligible
    refine hw.of_payment .partnerMigrationFee rfl le_rfl ?_ ?_ heligible hclosed ?_
    · intro s
      cases s <;> simp [QuoteShare.paid, purpose, due, Effect.paidAmount, Effect.savedFee,
        World.paid, World.withPool, PoolState.effectiveMigrationQuoteThreshold]
    · intro s
      cases s <;> simp [purpose, Effect.isPaid, World.paid, World.withPool]
    · intro s hne
      cases s <;> first | rfl | exact hother | exact absurd rfl hne
  | creatorMigrationFee hpermitted heligible hqv =>
    obtain ⟨hclosed, hother⟩ := eligible_updateWithdrawMigrationFee PARTNER_MIGRATION_FEE_MASK
      (by decide) (by decide) heligible
    refine hw.of_payment .creatorMigrationFee rfl le_rfl ?_ ?_ heligible hclosed ?_
    · intro s
      cases s <;> simp [QuoteShare.paid, purpose, due, Effect.paidAmount, Effect.savedFee,
        World.paid, World.withPool, PoolState.effectiveMigrationQuoteThreshold]
    · intro s
      cases s <;> simp [purpose, Effect.isPaid, World.paid, World.withPool]
    · intro s hne
      cases s <;> first | rfl | exact hother | exact absurd rfl hne
  | locker move =>
    have hprogress : w.pool.migrationProgress ≠ .createdPool := by
      rcases (move.progress_cases hhistory).1 with h | ⟨h, _⟩ <;> rw [h] <;> decide
    rw [move.eq]
    refine hw.of_unpaid hc le_rfl ?_ ?_ ?_
    · intro s
      cases s <;> simp [QuoteShare.paid, purpose, Effect.paidAmount, Effect.savedFee]
    · intro s
      cases s <;> simp [purpose, Effect.isPaid]
    · intro s
      cases s with
      | migration => simp [QuoteShare.isOpen, hprogress]
      | _ => rfl
  | migration move => exact hw.of_migration hhistory move
  | leftover hprogress hflag hamount =>
    refine hw.of_unpaid hc le_rfl ?_ ?_ ?_
    · intro s
      cases s <;> simp [QuoteShare.paid, purpose, Effect.paidAmount, Effect.savedFee]
    · intro s
      cases s <;> simp [purpose, Effect.isPaid]
    · intro s
      cases s <;> rfl

end Steps

/-! ## All pools -/

/-- What holds of a pool of any configuration while its shares are paid. -/
structure Solvent (d : Deployment) (w : World) : Prop where
  history : History d w
  ended : ProgressEnded d w
  backed : Backed w
  entitled : Entitled d w

section Runs

variable {d : Deployment} {request : InitializePoolRequest} {genesis : World}

/-- A new pool owes nothing yet, and every share is open.
Source: `state/virtual_pool.rs` `initialize` -/
theorem solvent_genesis (h : d.initializePool request = .ok genesis) : Solvent d genesis := by
  obtain ⟨activationPoint, supply, _, rfl, _⟩ := Deployment.initializePool_spec h
  refine ⟨.genesis .., fun hne => absurd rfl hne, .genesis .., fun s => ?_⟩
  refine ⟨?_, fun _ => ?_, ?_⟩
  · cases s <;> exact Nat.zero_le _
  · cases s <;> rfl
  · cases s <;> simp [QuoteShare.isOpen, PoolState.eligibleToWithdrawMigrationFee,
      World.genesis, PoolState.initializeState, paidCount]

/-- Every move keeps what holds of a pool while its shares are paid.
Source: `instructions`, the instructions that pay out of the quote vault -/
theorem Solvent.of_transition {w w' : World} (hc : QuoteShare.Percentages d.config)
    (hw : Solvent d w) (h : Transition d w a w') : Solvent d w' :=
  ⟨hw.history.of_transition hw.ended h, progressEnded_of_transition hw.ended h,
    hw.backed.of_transition hw.ended h, hw.entitled.of_transition hc hw.history hw.ended h⟩

/-- **The quote vault covers everything still owed, after every run** of the instructions on a
pool of any configuration: the fees, and every share of the quote reserve that is still open.
Every share is paid at most once and at most its worth, the protocol's share of the surplus is
nothing, and all that is ever paid comes out of the real reserve and the fees: the reserve that
was bought virtually funds nothing.
Source: `instructions`, the instructions that pay out of the quote vault -/
theorem quoteVault_solvent (hc : QuoteShare.Percentages d.config)
    (hlaunched : d.initializePool request = .ok genesis) (actions : List Action) :
    let w := run d.step genesis actions
    w.pool.partnerQuoteFee + w.pool.creatorQuoteFee + w.pool.protocolQuoteFee +
          w.pool.protocolMigrationQuoteFeeAmount +
          ∑ s : QuoteShare, (if s.isOpen w.pool then s.due d.config w.pool.quoteReserve else 0) ≤
        w.quoteVault ∧
      (∀ s : QuoteShare, paidCount .quote s.purpose w.effects ≤ 1 ∧
        s.paid w.effects ≤ s.due d.config w.pool.quoteReserve) ∧
      (∀ surplus, w.pool.getProtocolSurplus d.config.getMigrationQuoteAmountCap = .ok surplus →
        surplus = 0) ∧
      w.quoteVault + quoteSpent w.effects + savedTotal .quote w.effects =
        w.pool.quoteReserve + (w.pool.partnerQuoteFee + w.pool.creatorQuoteFee +
          w.pool.protocolQuoteFee) + w.pool.protocolMigrationQuoteFeeAmount := by
  intro w
  have hw : Solvent d w := invariant_of_transition (Solvent d)
    (fun _ _ _ hw h => hw.of_transition hc h) (solvent_genesis hlaunched)
  refine ⟨?_, fun s => ⟨(hw.entitled s).count_le_one, (hw.entitled s).paid_le⟩,
    fun _ => getProtocolSurplus_spec, hw.backed.quote⟩
  have hfit := sum_open_add_sum_paid_le hw.entitled (QuoteShare.sum_due_le hc)
  rw [QuoteShare.sum_paid] at hfit
  have hbooks := hw.backed.quote
  omega

/-- A plain configuration that was stored with a migration fee of ten percent.
Source: `state/config.rs` `PoolConfig` `migration_fee_percentage`,
`creator_migration_fee_percentage` -/
def migrationFeeDeployment : Deployment :=
  { Launch.plainLaunch.deployment with
    config := { Launch.plainLaunch.config with
      migrationFeePercentage := 10
      creatorMigrationFeePercentage := 50 } }

/-- The partner took its share of a migration fee, and the vault covers what is still owed. -/
theorem quoteVault_solvent_migrationFee : ∃ genesis,
    migrationFeeDeployment.initializePool (plainRequest .splToken 100) = .ok genesis ∧
      let w := run migrationFeeDeployment.step genesis
        [.swap2 (buyOf 1 2000000 0), .withdrawMigrationFee 2 0]
      w.pool.partnerQuoteFee + w.pool.creatorQuoteFee + w.pool.protocolQuoteFee +
          w.pool.protocolMigrationQuoteFeeAmount + ∑ s : QuoteShare, (if s.isOpen w.pool then
            s.due migrationFeeDeployment.config w.pool.quoteReserve else 0) ≤ w.quoteVault := by
  have hlaunched : migrationFeeDeployment.initializePool (plainRequest .splToken 100) =
      .ok (.genesis (.initializeState 5 (2 ^ 64) 1 2202498 PROTOCOL_LIQUIDITY_MIGRATION_FEE_BPS 100)
        1 1) := by
    decide +kernel
  exact ⟨_, hlaunched,
    (quoteVault_solvent ⟨by decide +kernel, by decide +kernel⟩ hlaunched _).1⟩

end Runs

end DynamicBondingCurve
