import DynamicBondingCurve.Instructions.Claims

/-!
# What a claim does to the world

* `payPositive_spec`: a transfer of an amount that may be nothing.
* `claimProtocolQuoteFeeAndSurplus_spec`: **the protocol has no share in the surplus**, so it is
  only ever paid its fees.
* `partnerShare`, `creatorShare`: the two shares of an amount, and `getPartnerSurplus_spec`,
  `getCreatorSurplus_spec`, `getMigrationFeeDistributionForThreshold_spec`, which say that the
  program pays these.
-/

namespace DynamicBondingCurve

open Library

/-! ## Transfers of an amount that may be nothing -/

/-- The effect of such a transfer. -/
def Effect.positive (token : Token) (purpose : Purpose) (amount : ℕ) : List Effect :=
  if amount > 0 then [.paid token purpose amount] else []

section Positive

variable {w w' : World} {token t : Token} {purpose u : Purpose} {amount : ℕ}

/-- What was paid, after a payment that may be nothing. -/
@[simp] theorem paidTotal_positive (es : List Effect) :
    paidTotal t u (Effect.positive token purpose amount ++ es) =
      (if token = t ∧ purpose = u then amount else 0) + paidTotal t u es := by
  unfold Effect.positive
  split_ifs with hpos hsame hsame
  · simp [Effect.paidAmount, hsame]
  · simp [Effect.paidAmount, hsame]
  · simp [Nat.eq_zero_of_not_pos hpos]
  · simp

/-- A transfer is no occurrence of what it is not. -/
theorem countP_positive {k : Effect → Bool} (es : List Effect)
    (hk : k (.paid token purpose amount) = false) :
    (Effect.positive token purpose amount ++ es).countP k = es.countP k := by
  unfold Effect.positive
  split_ifs with hpos
  · simp [hk]
  · simp

/-- What such a transfer leaves.
Source: `utils/token.rs` `transfer_token_from_pool_authority` -/
theorem payPositive_spec (h : w.payPositive token purpose amount = .ok w') :
    amount ≤ w.vault token ∧ w' = { w.paid token purpose amount with
      effects := Effect.positive token purpose amount ++ w.effects } := by
  unfold World.payPositive at h
  unfold Effect.positive
  split_ifs at h with hpos
  · rw [World.pay_eq_ok] at h
    obtain ⟨hle, rfl⟩ := h
    refine ⟨hle, ?_⟩
    rw [if_pos hpos]
    cases token <;> rfl
  · rw [pure_eq_ok] at h
    subst h
    rw [if_neg hpos, Nat.eq_zero_of_not_pos hpos]
    refine ⟨Nat.zero_le _, ?_⟩
    cases token <;> rfl

/-- What a payment of base that may be nothing does.
Source: `utils/token.rs` `transfer_token_from_pool_authority` -/
theorem payPositive_base_spec (h : w.payPositive .base purpose amount = .ok w') :
    amount ≤ w.baseVault ∧ w' = { w with
      baseVault := w.baseVault - amount
      effects := Effect.positive .base purpose amount ++ w.effects } :=
  payPositive_spec h

/-- What a payment of quote that may be nothing does.
Source: `utils/token.rs` `transfer_token_from_pool_authority` -/
theorem payPositive_quote_spec (h : w.payPositive .quote purpose amount = .ok w') :
    amount ≤ w.quoteVault ∧ w' = { w with
      quoteVault := w.quoteVault - amount
      effects := Effect.positive .quote purpose amount ++ w.effects } :=
  payPositive_spec h

end Positive

/-! ## Fees -/

section Fees

variable {p p' : PoolState} {config : PoolConfig} {maxAmount amount : ℕ}

/-- A claim of the protocol's base takes from its fees and from what a migration saved.
Source: `state/virtual_pool.rs` `claim_protocol_base_fee` -/
theorem claimProtocolBaseFee_spec (h : p.claimProtocolBaseFee maxAmount = .ok (amount, p')) :
    ∃ trading migration, amount = trading + migration ∧ trading ≤ p.protocolBaseFee ∧
      migration ≤ p.protocolMigrationBaseFeeAmount ∧ p' = { p with
        protocolBaseFee := p.protocolBaseFee - trading
        protocolMigrationBaseFeeAmount := p.protocolMigrationBaseFeeAmount - migration } := by
  simp only [PoolState.claimProtocolBaseFee, bind_eq_ok, safeSub_eq_ok, safeAdd_eq_ok, pure_eq_ok,
    Prod.mk.injEq] at h
  obtain ⟨_, ⟨ht, rfl⟩, _, ⟨_, rfl⟩, _, ⟨hm, rfl⟩, _, ⟨_, rfl⟩, rfl, rfl⟩ := h
  exact ⟨_, _, rfl, ht, hm, rfl⟩

/-- A claim of the protocol's quote takes from its fees and from what a migration saved.
Source: `state/virtual_pool.rs` `claim_protocol_quote_fee` -/
theorem claimProtocolQuoteFee_spec (h : p.claimProtocolQuoteFee maxAmount = .ok (amount, p')) :
    ∃ trading migration, amount = trading + migration ∧ trading ≤ p.protocolQuoteFee ∧
      migration ≤ p.protocolMigrationQuoteFeeAmount ∧ p' = { p with
        protocolQuoteFee := p.protocolQuoteFee - trading
        protocolMigrationQuoteFeeAmount := p.protocolMigrationQuoteFeeAmount - migration } := by
  simp only [PoolState.claimProtocolQuoteFee, bind_eq_ok, safeSub_eq_ok, safeAdd_eq_ok,
    pure_eq_ok, Prod.mk.injEq] at h
  obtain ⟨_, ⟨ht, rfl⟩, _, ⟨_, rfl⟩, _, ⟨hm, rfl⟩, _, ⟨_, rfl⟩, rfl, rfl⟩ := h
  exact ⟨_, _, rfl, ht, hm, rfl⟩

/-- Partner and creator take the whole surplus.
Source: `state/virtual_pool.rs` `get_partner_and_creator_surplus` -/
theorem getPartnerAndCreatorSurplus_spec {surplus share : ℕ}
    (h : PoolState.getPartnerAndCreatorSurplus surplus = .ok share) : share = surplus := by
  obtain ⟨_, hshare, _⟩ := safeMulDivCastU64_eq_ok h
  rw [hshare]
  exact Nat.mul_div_cancel surplus (by decide)

/-- Nothing of the surplus is left for the protocol.
Source: `state/virtual_pool.rs` `get_protocol_surplus` -/
theorem getProtocolSurplus_spec {threshold surplus : ℕ}
    (h : p.getProtocolSurplus threshold = .ok surplus) : surplus = 0 := by
  simp only [PoolState.getProtocolSurplus, bind_eq_ok, safeSub_eq_ok] at h
  obtain ⟨total, _, share, hshare, _, rfl⟩ := h
  rw [getPartnerAndCreatorSurplus_spec hshare, Nat.sub_self]

/-- **The protocol is only paid its fees**, its share in the surplus being nothing.
Source: `state/virtual_pool.rs` `claim_protocol_quote_fee_and_surplus` -/
theorem claimProtocolQuoteFeeAndSurplus_spec
    (h : p.claimProtocolQuoteFeeAndSurplus maxAmount config = .ok (amount, p')) :
    ∃ trading migration flag, amount = trading + migration ∧ trading ≤ p.protocolQuoteFee ∧
      migration ≤ p.protocolMigrationQuoteFeeAmount ∧ p' = { p with
        protocolQuoteFee := p.protocolQuoteFee - trading
        protocolMigrationQuoteFeeAmount := p.protocolMigrationQuoteFeeAmount - migration
        isProtocolWithdrawSurplus := flag } := by
  simp only [PoolState.claimProtocolQuoteFeeAndSurplus, bind_eq_ok] at h
  obtain ⟨⟨fee, q⟩, hfee, h⟩ := h
  obtain ⟨trading, migration, rfl, ht, hm, rfl⟩ := claimProtocolQuoteFee_spec hfee
  split_ifs at h
  · simp only [bind_eq_ok, safeAdd_eq_ok, pure_eq_ok, Prod.mk.injEq] at h
    obtain ⟨surplus, hsurplus, _, ⟨_, rfl⟩, rfl, rfl⟩ := h
    have hnone := getProtocolSurplus_spec hsurplus
    exact ⟨trading, migration, 1, by omega, ht, hm, rfl⟩
  · simp only [pure_eq_ok, Prod.mk.injEq] at h
    obtain ⟨rfl, rfl⟩ := h
    exact ⟨trading, migration, p.isProtocolWithdrawSurplus, rfl, ht, hm, rfl⟩

/-- A claim of the partner takes from its fees only.
Source: `state/virtual_pool.rs` `claim_partner_trading_fee` -/
theorem claimPartnerTradingFee_spec {maxBase maxQuote base quote : ℕ}
    (h : p.claimPartnerTradingFee maxBase maxQuote = .ok ((base, quote), p')) :
    base ≤ p.partnerBaseFee ∧ quote ≤ p.partnerQuoteFee ∧ p' = { p with
      partnerBaseFee := p.partnerBaseFee - base
      partnerQuoteFee := p.partnerQuoteFee - quote } := by
  simp only [PoolState.claimPartnerTradingFee, bind_eq_ok, safeSub_eq_ok, pure_eq_ok,
    Prod.mk.injEq] at h
  obtain ⟨_, ⟨hb, rfl⟩, _, ⟨hq, rfl⟩, ⟨rfl, rfl⟩, rfl⟩ := h
  exact ⟨hb, hq, rfl⟩

/-- A claim of the creator takes from its fees only.
Source: `state/virtual_pool.rs` `claim_creator_trading_fee` -/
theorem claimCreatorTradingFee_spec {maxBase maxQuote base quote : ℕ}
    (h : p.claimCreatorTradingFee maxBase maxQuote = .ok ((base, quote), p')) :
    base ≤ p.creatorBaseFee ∧ quote ≤ p.creatorQuoteFee ∧ p' = { p with
      creatorBaseFee := p.creatorBaseFee - base
      creatorQuoteFee := p.creatorQuoteFee - quote } := by
  simp only [PoolState.claimCreatorTradingFee, bind_eq_ok, safeSub_eq_ok, pure_eq_ok,
    Prod.mk.injEq] at h
  obtain ⟨_, ⟨hb, rfl⟩, _, ⟨hq, rfl⟩, ⟨rfl, rfl⟩, rfl⟩ := h
  exact ⟨hb, hq, rfl⟩

end Fees

/-! ## Shares of the quote reserve -/

/-- What a creator's percentage is worth of an amount.
Source: `state/config.rs` `split_partner_and_creator_fee`,
`get_migration_fee_distribution_for_threshold` -/
def creatorShare (percentage amount : ℕ) : ℕ := amount * percentage / 100

/-- What a creator's percentage leaves of an amount.
Source: `state/config.rs` `split_partner_and_creator_fee`,
`get_migration_fee_distribution_for_threshold` -/
def partnerShare (percentage amount : ℕ) : ℕ := amount - creatorShare percentage amount

section Shares

variable {p : PoolState} {config : PoolConfig} {amount : ℕ}

/-- The trading fee is split by the creator's percentage.
Source: `state/config.rs` `split_partner_and_creator_fee` -/
theorem splitPartnerAndCreatorFee_eq {s : PartnerAndCreatorSplitFee}
    (h : config.splitPartnerAndCreatorFee amount = .ok s) :
    s.partnerFee = partnerShare config.creatorTradingFeePercentage amount ∧
      s.creatorFee = creatorShare config.creatorTradingFeePercentage amount := by
  unfold PoolConfig.splitPartnerAndCreatorFee at h
  split_ifs at h with hzero
  · rw [pure_eq_ok] at h
    subst h
    simp [partnerShare, creatorShare, hzero]
  · simp only [bind_eq_ok, safeSub_eq_ok, pure_eq_ok] at h
    obtain ⟨creator, hdiv, _, ⟨_, rfl⟩, rfl⟩ := h
    obtain ⟨_, hcreator, _⟩ := safeMulDivCastU64_eq_ok hdiv
    exact ⟨by rw [partnerShare, creatorShare, hcreator]; rfl, hcreator⟩

/-- The partner's share of the surplus over a cap.
Source: `state/virtual_pool.rs` `get_partner_surplus` -/
def partnerSurplusShare (config : PoolConfig) (surplus : ℕ) : ℕ :=
  if config.isFixedMigrationQuoteAmountEnabled then surplus
  else partnerShare config.creatorTradingFeePercentage surplus

/-- The creator's share of the surplus over a cap.
Source: `state/virtual_pool.rs` `get_creator_surplus` -/
def creatorSurplusShare (config : PoolConfig) (surplus : ℕ) : ℕ :=
  if config.isFixedMigrationQuoteAmountEnabled then 0
  else creatorShare config.creatorTradingFeePercentage surplus

/-- The partner's part of the surplus.
Source: `state/virtual_pool.rs` `get_partner_surplus` -/
theorem getPartnerSurplus_spec {surplus share : ℕ}
    (h : PoolState.getPartnerSurplus config surplus = .ok share) :
    share = partnerSurplusShare config surplus := by
  unfold PoolState.getPartnerSurplus at h
  unfold partnerSurplusShare
  split_ifs at h ⊢ with hfixed
  · rw [pure_eq_ok] at h
    exact h.symm
  · simp only [bind_eq_ok, pure_eq_ok] at h
    obtain ⟨both, hboth, s, hs, rfl⟩ := h
    rw [getPartnerAndCreatorSurplus_spec hboth] at hs
    exact (splitPartnerAndCreatorFee_eq hs).1

/-- The creator's part of the surplus.
Source: `state/virtual_pool.rs` `get_creator_surplus` -/
theorem getCreatorSurplus_spec {surplus share : ℕ}
    (h : PoolState.getCreatorSurplus config surplus = .ok share) :
    share = creatorSurplusShare config surplus := by
  unfold PoolState.getCreatorSurplus at h
  unfold creatorSurplusShare
  split_ifs at h ⊢ with hfixed
  · rw [pure_eq_ok] at h
    exact h.symm
  · simp only [bind_eq_ok, pure_eq_ok] at h
    obtain ⟨both, hboth, s, hs, rfl⟩ := h
    rw [getPartnerAndCreatorSurplus_spec hboth] at hs
    exact (splitPartnerAndCreatorFee_eq hs).2

/-- The migration fee taken from an amount of quote.
Source: `state/config.rs` `calculate_post_fee_migration_quote_amount`, `fee` -/
def migrationFeeOf (percentage amount : ℕ) : ℕ := amount - (amount * (100 - percentage)) ⌈/⌉ 100

/-- The migration fee is split by the creator's percentage.
Source: `state/config.rs` `get_migration_fee_distribution_for_threshold` -/
theorem getMigrationFeeDistributionForThreshold_spec {f : MigrationFeeDistribution}
    (h : config.getMigrationFeeDistributionForThreshold amount = .ok f) :
    f.partnerMigrationFee = partnerShare config.creatorMigrationFeePercentage
        (migrationFeeOf config.migrationFeePercentage amount) ∧
      f.creatorMigrationFee = creatorShare config.creatorMigrationFeePercentage
        (migrationFeeOf config.migrationFeePercentage amount) := by
  simp only [PoolConfig.getMigrationFeeDistributionForThreshold, bind_eq_ok, safeSub_eq_ok,
    pure_eq_ok] at h
  obtain ⟨m, hm, creator, hdiv, _, ⟨_, rfl⟩, rfl⟩ := h
  obtain ⟨hsum, hquote⟩ := PoolConfig.calculatePostFeeMigrationQuoteAmount_spec hm
  obtain ⟨_, hcreator, _⟩ := safeMulDivCastU64_eq_ok hdiv
  have hfee : m.fee = migrationFeeOf config.migrationFeePercentage amount := by
    rw [migrationFeeOf, ← hquote]
    omega
  rw [← hfee]
  exact ⟨by rw [partnerShare, creatorShare, hcreator]; rfl, hcreator⟩

end Shares

end DynamicBondingCurve
