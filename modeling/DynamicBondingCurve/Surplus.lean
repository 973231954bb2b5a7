import DynamicBondingCurve.Solvency

/-!
# The surplus of a fixed cap

A pool whose migration takes a fixed quote amount leaves the rest of its real quote to the partner,
who withdraws it once. The withdrawal only asks for the cap to be reached. The cap may be far below
the threshold that ends the sale, and buys that come after the withdrawal raise quote that no share
covers.

* `quoteReserve_le_of_run`: the quote reserve only grows.
* `partnerSurplus_closed_of_run`: a withdrawn surplus is never paid again.
* `SurplusPaidInFull`: the partner has the whole surplus, and a migration that takes the rest up to
  the cap leaves the vault with the fees only.
* `Launch.surplusPaidInFull_iff`: **that is so exactly when nothing was raised after the
  withdrawal**, as after a withdrawal at the end of the sale.
-/

namespace DynamicBondingCurve

open Library

/-! ## What a run does to the reserve and to a paid surplus -/

section Runs

variable {d : Deployment} {w w' : World} {a : Action}

/-- No run lowers the quote reserve.
Source: `state/virtual_pool.rs` `apply_swap_result_internal` -/
theorem quoteReserve_le_of_run (w : World) (actions : List Action) :
    w.pool.quoteReserve ≤ (run d.step w actions).pool.quoteReserve := by
  refine relation_of_transition (fun _ => True)
    (fun u v => u.pool.quoteReserve ≤ v.pool.quoteReserve) ?_ ?_ ?_ ?_ trivial
  · intro u
    exact le_rfl
  · intro u v w huv hvw
    exact huv.trans hvw
  · intro _ _ _ _ _
    trivial
  · intro a u v _ hmove
    exact quoteReserve_le_of_transition hmove

/-- The partner has withdrawn its surplus, and was paid that much.
Source: `state/virtual_pool.rs` `update_partner_withdraw_surplus` -/
def PartnerSurplusPaid (amount : ℕ) (w : World) : Prop :=
  w.pool.isPartnerWithdrawSurplus = 1 ∧ paidTotal .quote .partnerSurplus w.effects = amount

/-- A withdrawn surplus is not paid again.
Source: `instructions/partner/ix_withdraw_partner_surplus.rs` `handle_partner_withdraw_surplus`, the
check of `is_partner_withdraw_surplus` -/
theorem PartnerSurplusPaid.of_transition {amount : ℕ} (hw : PartnerSurplusPaid amount w)
    (h : Transition d w a w') : PartnerSurplusPaid amount w' := by
  obtain ⟨hflag, hpaid⟩ := hw
  cases h with
  | trading move =>
    have htotal : paidTotal .quote .partnerSurplus w'.effects =
        paidTotal .quote .partnerSurplus w.effects :=
      (move.paid_eq (purpose_not_isTrading .partnerSurplus)).1
    refine ⟨?_, htotal.trans hpaid⟩
    cases move with
    | swap trade completion =>
      have hmid := (congrArg PoolState.isPartnerWithdrawSurplus trade.pool).trans hflag
      cases completion <;> exact hmid
    | _ => exact hflag
  | partnerSurplus hcap hopen hqv =>
    rw [hflag] at hopen
    exact absurd hopen one_ne_zero
  | locker move =>
    rw [move.eq]
    exact ⟨hflag, by simpa [Effect.paidAmount] using hpaid⟩
  | migration move =>
    rw [move.eq]
    exact ⟨hflag, by simpa [Effect.paidAmount] using hpaid⟩
  | _ => exact ⟨hflag, by simpa [Effect.paidAmount, World.paid, World.withPool] using hpaid⟩

/-- A surplus that was paid stays paid once, whatever follows.
Source: `instructions/partner/ix_withdraw_partner_surplus.rs` `handle_partner_withdraw_surplus` -/
theorem PartnerSurplusPaid.of_run {amount : ℕ} (hw : PartnerSurplusPaid amount w)
    (actions : List Action) : PartnerSurplusPaid amount (run d.step w actions) :=
  invariant_of_transition (PartnerSurplusPaid amount) (fun _ _ _ hu hmove => hu.of_transition hmove)
    hw

/-- What a withdrawal pays out of a fixed cap: all of the real quote above the cap.
Source: `state/virtual_pool.rs` `get_partner_surplus` -/
theorem partnerWithdrawSurplus_spec {signer : Pubkey}
    (hfixed : d.config.isFixedMigrationQuoteAmountEnabled = true)
    (h : d.partnerWithdrawSurplus w signer = .ok w') :
    d.config.getMigrationQuoteAmountCap ≤ w.pool.quoteReserve ∧
      w.pool.isPartnerWithdrawSurplus = 0 ∧ w'.pool.quoteReserve = w.pool.quoteReserve ∧
      w'.pool.isPartnerWithdrawSurplus = 1 ∧
      paidTotal .quote .partnerSurplus w'.effects =
        w.pool.quoteReserve - d.config.getMigrationQuoteAmountCap +
          paidTotal .quote .partnerSurplus w.effects := by
  simp only [Deployment.partnerWithdrawSurplus, PoolState.getTotalSurplus, bind_eq_ok,
    exists_unit, require_eq_ok, safeSub_eq_ok, World.pay_eq_ok, pure_eq_ok] at h
  obtain ⟨_, _, hflag, _, ⟨hcap, rfl⟩, share, hshare, _, ⟨_, rfl⟩, rfl⟩ := h
  have hall := getPartnerSurplus_spec hshare
  rw [partnerSurplusShare, if_pos hfixed] at hall
  refine ⟨hcap, hflag, rfl, rfl, ?_⟩
  rw [← hall]
  simp [World.paid, World.withPool, Effect.paidAmount]

end Runs

/-! ## Launched pools -/

/-- The partner has all of the real quote above the cap, and once the migration took the rest of it
the quote vault holds nothing but fees.
Source: `state/virtual_pool.rs` `get_partner_surplus`; `migrate_damm_v2_initialize_pool.rs`
`handle_migrate_damm_v2`, `effective_migration_quote_threshold` -/
structure SurplusPaidInFull (d : Deployment) (w : World) : Prop where
  paid : paidTotal .quote .partnerSurplus w.effects =
    w.pool.quoteReserve - d.config.getMigrationQuoteAmountCap
  nothingLeft : paidTotal .quote .migration w.effects + savedTotal .quote w.effects =
      w.pool.effectiveMigrationQuoteThreshold d.config.getMigrationQuoteAmountCap →
    w.quoteVault = w.pool.partnerQuoteFee + w.pool.creatorQuoteFee + w.pool.protocolQuoteFee +
      w.pool.protocolMigrationQuoteFeeAmount

namespace Launch

variable (l : Launch)

/-- The percentages of a launch do not exceed the whole.
Source: `process_create_config.rs` `ConfigParameters::validate`, `MigrationFee::validate` -/
theorem percentages : QuoteShare.Percentages l.config := by
  have hvalid := l.accepted.paramsValidated
  constructor
  · rw [l.accepted.paramsCreated.creatorTradingFeePercentage_eq,
      hvalid.creatorTradingFeePercentage_eq]
    exact Nat.zero_le _
  · rw [l.accepted.paramsCreated.creatorFeePercentage_eq, hvalid.creatorFeePercentage_eq]
    exact Nat.zero_le _

/-- What holds of a pool while its shares are paid holds in every run.
Source: `instructions`, the instructions that pay out of the quote vault -/
theorem solvent (actions : List Action) : Solvent l.deployment (l.after actions) :=
  invariant_of_transition (Solvent l.deployment)
    (fun _ _ _ hw hmove => hw.of_transition l.percentages hmove) (solvent_genesis l.launched)

/-- Under a fixed cap only the partner's surplus and the migration are paid out of the reserve.
Source: `state/virtual_pool.rs` `get_creator_surplus`; `process_create_config.rs`
`ConfigParameters::validate`, the check of the migration fee under a fixed cap -/
theorem quoteSpent_fixedCap (actions : List Action)
    (hfixed : l.config.isFixedMigrationQuoteAmountEnabled = true) :
    quoteSpent (l.after actions).effects =
      paidTotal .quote .partnerSurplus (l.after actions).effects +
        paidTotal .quote .migration (l.after actions).effects := by
  have hshares := (l.solvent actions).entitled
  have hfee : l.deployment.config.migrationFeePercentage = 0 :=
    l.accepted.migrationFeePercentage_eq
  -- what a share that is worth nothing was paid
  have hnothing : ∀ s : QuoteShare, s ≠ .migration →
      s.due l.deployment.config (l.after actions).pool.quoteReserve = 0 →
        paidTotal .quote s.purpose (l.after actions).effects = 0 := by
    intro s hne hdue
    have hle := (hshares s).paid_le
    rw [hdue, QuoteShare.paid, if_neg hne] at hle
    exact Nat.le_zero.mp hle
  have hnoFee : ∀ amount, migrationFeeOf 0 amount = 0 := by
    intro amount
    have hkept := le_mul_ceilDiv (amount * 100) (by norm_num : 0 < 100)
    rw [migrationFeeOf, Nat.sub_zero]
    omega
  have hcreator : paidTotal .quote .creatorSurplus (l.after actions).effects = 0 := by
    refine hnothing .creatorSurplus (by decide) ?_
    rw [QuoteShare.due, creatorSurplusShare]
    exact if_pos hfixed
  have hpartnerFee : paidTotal .quote .partnerMigrationFee (l.after actions).effects = 0 := by
    refine hnothing .partnerMigrationFee (by decide) ?_
    rw [QuoteShare.due, hfee, hnoFee]
    exact Nat.zero_sub _
  have hcreatorFee : paidTotal .quote .creatorMigrationFee (l.after actions).effects = 0 := by
    refine hnothing .creatorMigrationFee (by decide) ?_
    rw [QuoteShare.due, hfee, hnoFee, creatorShare, Nat.zero_mul, Nat.zero_div]
  unfold quoteSpent
  rw [hcreator, hpartnerFee, hcreatorFee]
  rfl

/-- A surplus that is paid leaves the migration the rest of the reserve.
Source: `state/virtual_pool.rs` `get_total_surplus`, `effective_migration_quote_threshold` -/
theorem surplusPaidInFull_of_paid (actions : List Action)
    (hfixed : l.config.isFixedMigrationQuoteAmountEnabled = true)
    (hcap : l.config.getMigrationQuoteAmountCap ≤ (l.after actions).pool.quoteReserve)
    (hpaid : paidTotal .quote .partnerSurplus (l.after actions).effects =
      (l.after actions).pool.quoteReserve - l.config.getMigrationQuoteAmountCap) :
    SurplusPaidInFull l.deployment (l.after actions) := by
  refine ⟨hpaid, fun hmigrated => ?_⟩
  have hbooks := (l.backed actions).quote
  rw [l.quoteSpent_fixedCap actions hfixed, hpaid] at hbooks
  have hcapped : (l.after actions).pool.effectiveMigrationQuoteThreshold
      l.deployment.config.getMigrationQuoteAmountCap = l.config.getMigrationQuoteAmountCap :=
    min_eq_right hcap
  rw [hcapped] at hmigrated
  omega

/-- **The surplus of a fixed cap is paid in full exactly when nothing is raised after its
withdrawal.** A run in which the partner withdraws the surplus leaves it paid in full if and only if
the real quote stands where it stood at the withdrawal; and it does when the sale was over by then.
Source: `instructions/partner/ix_withdraw_partner_surplus.rs` `handle_partner_withdraw_surplus`;
`state/virtual_pool.rs` `has_real_quote_surplus`, `get_total_surplus` -/
theorem surplusPaidInFull_iff (earlier later : List Action) (signer : Pubkey) {w : World}
    (hfixed : l.config.isFixedMigrationQuoteAmountEnabled = true)
    (h : l.deployment.step (l.after earlier) (.partnerWithdrawSurplus signer) = .ok w) :
    let last := l.after (earlier ++ .partnerWithdrawSurplus signer :: later)
    (SurplusPaidInFull l.deployment last ↔
        last.pool.quoteReserve = (l.after earlier).pool.quoteReserve) ∧
      (SaleOver l.deployment (l.after earlier) →
        last.pool.quoteReserve = (l.after earlier).pool.quoteReserve) := by
  intro last
  have hlast : last = run l.deployment.step w later := by
    change l.after _ = _
    rw [after_append, run_cons, advance, h]
  obtain ⟨hcap, hopen, hreserve, hflag, hpaid⟩ := partnerWithdrawSurplus_spec hfixed h
  -- the share was open, so nothing was paid of it before
  have hbefore : paidTotal .quote .partnerSurplus (l.after earlier).effects = 0 := by
    have hshare := (l.solvent earlier).entitled .partnerSurplus
    exact hshare.paid_eq (by simp [QuoteShare.isOpen, hopen])
  rw [hbefore, Nat.add_zero] at hpaid
  have hpaidLast : PartnerSurplusPaid
      ((l.after earlier).pool.quoteReserve - l.deployment.config.getMigrationQuoteAmountCap)
      last := by
    rw [hlast]
    exact PartnerSurplusPaid.of_run ⟨hflag, hpaid⟩ later
  have hgrows : (l.after earlier).pool.quoteReserve ≤ last.pool.quoteReserve := by
    rw [hlast, ← hreserve]
    exact quoteReserve_le_of_run w later
  refine ⟨⟨fun hfull => ?_, fun hsame => ?_⟩, fun hover => ?_⟩
  · have hdue := hpaidLast.2.symm.trans hfull.paid
    omega
  · refine l.surplusPaidInFull_of_paid _ hfixed (hcap.trans hgrows) ?_
    change paidTotal .quote .partnerSurplus last.effects = last.pool.quoteReserve - _
    rw [hsame]
    exact hpaidLast.2
  · have hfrozen := frozen_of_run (.partnerWithdrawSurplus signer :: later) hover
    rw [← after_append] at hfrozen
    exact hfrozen.quoteReserve

/-- A plain launch of which at most two fifths of the threshold migrate.
Source: `process_create_config.rs` `ConfigParameters` -/
def cappedLaunch : Launch :=
  (ofParameters { plainParameters (2 ^ 64) 1000000 [{ sqrtPrice := 2 ^ 65, liquidity := 2 ^ 90 }]
    with migrationQuoteAmountCap := 400000 } false .splToken 100).get (by decide +kernel)

/-- The partner withdraws at the end of the sale, and the migration leaves the fees. -/
theorem surplusPaidInFull_iff_cappedLaunch :
    SurplusPaidInFull cappedLaunch.deployment
      (cappedLaunch.after ([.swap2 (buyOf 1 1200000 0)] ++ .partnerWithdrawSurplus 2 ::
        [.migrateDammV2 .takeAll])) := by
  have hisOk : (cappedLaunch.deployment.step (cappedLaunch.after [.swap2 (buyOf 1 1200000 0)])
      (.partnerWithdrawSurplus 2)).isOk = true := by
    decide +kernel
  have hover : SaleOver cappedLaunch.deployment
      (cappedLaunch.after [.swap2 (buyOf 1 1200000 0)]) := by
    unfold SaleOver
    decide +kernel
  rcases hok : cappedLaunch.deployment.step (cappedLaunch.after [.swap2 (buyOf 1 1200000 0)])
    (.partnerWithdrawSurplus 2) with e | w
  · rw [hok] at hisOk
    cases hisOk
  · obtain ⟨hiff, hlate⟩ := cappedLaunch.surplusPaidInFull_iff [.swap2 (buyOf 1 1200000 0)]
      [.migrateDammV2 .takeAll] 2 (by decide +kernel) hok
    exact hiff.mpr (hlate hover)

/-- The partner withdraws halfway through the sale. Half of the real quote is raised afterwards and
stays in the vault: the migration leaves it there, and a second withdrawal is refused. -/
theorem surplusPaidInFull_false :
    let last := cappedLaunch.after [.swap2 (buyOf 1 500000 0), .partnerWithdrawSurplus 2,
      .swap2 (buyOf 1 1200000 0), .migrateDammV2 .takeAll]
    cappedLaunch.config.isFixedMigrationQuoteAmountEnabled = true ∧
      (cappedLaunch.deployment.step (cappedLaunch.after [.swap2 (buyOf 1 500000 0)])
        (.partnerWithdrawSurplus 2)).isOk = true ∧
      SaleOver cappedLaunch.deployment last ∧ last.pool.migrationProgress = .createdPool ∧
      last.pool.quoteReserve - cappedLaunch.config.getMigrationQuoteAmountCap = 600000 ∧
      paidTotal .quote .partnerSurplus last.effects = 95000 ∧
      last.quoteVault = 505000 + (last.pool.partnerQuoteFee + last.pool.creatorQuoteFee +
        last.pool.protocolQuoteFee + last.pool.protocolMigrationQuoteFeeAmount) ∧
      cappedLaunch.deployment.step last (.partnerWithdrawSurplus 2) =
        .error (Fault.error .surplusHasBeenWithdraw) := by
  unfold SaleOver
  decide +kernel

end Launch

end DynamicBondingCurve
