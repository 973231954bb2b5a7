import DynamicBondingCurve.Program
import DynamicBondingCurve.Instructions.SwapSpec
import DynamicBondingCurve.Instructions.MigrationSpec

/-!
# The ledger of a pool

What the instructions can do to a pool, with the arguments that do not matter left out. Every
successful instruction is one of these moves, so that a property of all runs is proved by one case
for each kind of move.

* `Trading`: the moves while the pool trades: swaps, claims of fees, a new creator, time.
* `Transition`: these, the payments of the quote reserve, the locker and the migration.
* `step_trading`, `step_transition`: **every instruction is a move**; `Transition.creator`: only the
  creator names another one.
* `invariant_of_transition`, `relation_of_transition`: the rules for properties of all runs.
-/

namespace DynamicBondingCurve

open Library

/-! ## Kinds of instructions -/

/-- The instruction is a swap.
Source: `lib.rs` `swap2`, `swap2_with_transfer_hook`, `virtual_swap2` -/
def Action.IsSwap : Action → Prop
  | .swap2 _ | .swap2WithTransferHook _ | .virtualSwap2 _ => True
  | _ => False

/-- The instruction claims fees for the protocol.
Source: `lib.rs` `claim_protocol_fee`, `claim_protocol_fee2`, `zap_protocol_fee` -/
def Action.IsProtocolClaim : Action → Prop
  | .claimProtocolFee .. | .claimProtocolFee2 .. | .zapProtocolFee .. => True
  | _ => False

/-- The instruction migrates the pool.
Source: `lib.rs` `migrate_meteora_damm`, `migration_damm_v2` -/
def Action.IsMigration : Action → Prop
  | .migrateDammV2 _ | .migrateMeteoraDamm _ => True
  | _ => False

/-! ## The moves -/

/-- The moves of a pool that trades, each with the instruction that makes it.
Source: `instructions/swap`, and the claims of fees of `instructions/partner`,
`instructions/creator` and `instructions/operator` -/
inductive Trading (d : Deployment) (w : World) : Action → World → Prop
  /-- Time passes. -/
  | pass (slots seconds : ℕ) :
      Trading d w (.pass slots seconds)
        { w with slot := w.slot + slots, timestamp := w.timestamp + seconds }
  /-- A swap. -/
  | swap {isVirtual : Bool} {x : Trade} {mid w' : World} {a : Action}
      (trade : TradeMove d isVirtual x w mid) (completion : Completion d mid w')
      (isSwap : a.IsSwap) : Trading d w a w'
  /-- The partner claims trading fees. -/
  | claimPartner {base quote maxBase maxQuote : ℕ} {hasAccounts : Bool}
      (base_le : base ≤ w.pool.partnerBaseFee) (quote_le : quote ≤ w.pool.partnerQuoteFee)
      (baseVault_ge : base ≤ w.baseVault) (quoteVault_ge : quote ≤ w.quoteVault) :
      Trading d w (.claimTradingFee d.config.feeClaimer maxBase maxQuote hasAccounts) { w with
        pool := { w.pool with
          partnerBaseFee := w.pool.partnerBaseFee - base
          partnerQuoteFee := w.pool.partnerQuoteFee - quote }
        baseVault := w.baseVault - base
        quoteVault := w.quoteVault - quote
        effects := Effect.positive .quote .partnerTradingFee quote ++
          (Effect.positive .base .partnerTradingFee base ++ w.effects) }
  /-- The creator claims trading fees. -/
  | claimCreator {base quote maxBase maxQuote : ℕ} {hasAccounts : Bool}
      (base_le : base ≤ w.pool.creatorBaseFee) (quote_le : quote ≤ w.pool.creatorQuoteFee)
      (baseVault_ge : base ≤ w.baseVault) (quoteVault_ge : quote ≤ w.quoteVault) :
      Trading d w (.claimCreatorTradingFee w.pool.creator maxBase maxQuote hasAccounts) { w with
        pool := { w.pool with
          creatorBaseFee := w.pool.creatorBaseFee - base
          creatorQuoteFee := w.pool.creatorQuoteFee - quote }
        baseVault := w.baseVault - base
        quoteVault := w.quoteVault - quote
        effects := Effect.positive .quote .creatorTradingFee quote ++
          (Effect.positive .base .creatorTradingFee base ++ w.effects) }
  /-- The protocol is paid fees, on either token. -/
  | claimProtocol {tradingBase migrationBase tradingQuote migrationQuote : ℕ} {a : Action}
      (flag : ℕ)
      (tradingBase_le : tradingBase ≤ w.pool.protocolBaseFee)
      (migrationBase_le : migrationBase ≤ w.pool.protocolMigrationBaseFeeAmount)
      (tradingQuote_le : tradingQuote ≤ w.pool.protocolQuoteFee)
      (migrationQuote_le : migrationQuote ≤ w.pool.protocolMigrationQuoteFeeAmount)
      (baseVault_ge : tradingBase + migrationBase ≤ w.baseVault)
      (quoteVault_ge : tradingQuote + migrationQuote ≤ w.quoteVault)
      (isClaim : a.IsProtocolClaim) :
      Trading d w a { w with
        pool := { w.pool with
          protocolBaseFee := w.pool.protocolBaseFee - tradingBase
          protocolMigrationBaseFeeAmount := w.pool.protocolMigrationBaseFeeAmount - migrationBase
          protocolQuoteFee := w.pool.protocolQuoteFee - tradingQuote
          protocolMigrationQuoteFeeAmount :=
            w.pool.protocolMigrationQuoteFeeAmount - migrationQuote
          isProtocolWithdrawSurplus := flag }
        baseVault := w.baseVault - (tradingBase + migrationBase)
        quoteVault := w.quoteVault - (tradingQuote + migrationQuote)
        effects := Effect.positive .quote .protocolFee (tradingQuote + migrationQuote) ++
          (Effect.positive .base .protocolFee (tradingBase + migrationBase) ++ w.effects) }
  /-- The creator gives the pool to a new one. -/
  | transferCreator {isHandedOut : Bool} (creator : Pubkey) :
      Trading d w (.transferPoolCreator w.pool.creator creator isHandedOut)
        { w with pool := { w.pool with creator := creator } }

/-- The moves of a pool, each with the instruction that makes it; one that pays a party has the
party as its signer.
Source: `instructions`, every instruction that acts on a pool -/
inductive Transition (d : Deployment) (w : World) : Action → World → Prop
  /-- A move of a pool that trades. -/
  | trading {a : Action} {w' : World} (move : Trading d w a w') : Transition d w a w'
  /-- The partner withdraws its share of the surplus. -/
  | partnerSurplus (cap_le : d.config.getMigrationQuoteAmountCap ≤ w.pool.quoteReserve)
      (flag_eq : w.pool.isPartnerWithdrawSurplus = 0)
      (quoteVault_ge : partnerSurplusShare d.config
        (w.pool.quoteReserve - d.config.getMigrationQuoteAmountCap) ≤ w.quoteVault) :
      Transition d w (.partnerWithdrawSurplus d.config.feeClaimer) { w with
        pool := { w.pool with isPartnerWithdrawSurplus := 1 }
        quoteVault := w.quoteVault - partnerSurplusShare d.config
          (w.pool.quoteReserve - d.config.getMigrationQuoteAmountCap)
        effects := .paid .quote .partnerSurplus (partnerSurplusShare d.config
          (w.pool.quoteReserve - d.config.getMigrationQuoteAmountCap)) :: w.effects }
  /-- The creator withdraws its share of the surplus. -/
  | creatorSurplus (not_fixed : d.config.isFixedMigrationQuoteAmountEnabled = false)
      (cap_le : d.config.getMigrationQuoteAmountCap ≤ w.pool.quoteReserve)
      (flag_eq : w.pool.isCreatorWithdrawSurplus = 0)
      (quoteVault_ge : creatorSurplusShare d.config
        (w.pool.quoteReserve - d.config.getMigrationQuoteAmountCap) ≤ w.quoteVault) :
      Transition d w (.creatorWithdrawSurplus w.pool.creator) { w with
        pool := { w.pool with isCreatorWithdrawSurplus := 1 }
        quoteVault := w.quoteVault - creatorSurplusShare d.config
          (w.pool.quoteReserve - d.config.getMigrationQuoteAmountCap)
        effects := .paid .quote .creatorSurplus (creatorSurplusShare d.config
          (w.pool.quoteReserve - d.config.getMigrationQuoteAmountCap)) :: w.effects }
  /-- The partner withdraws its share of the migration fee. -/
  | partnerMigrationFee
      (permitted : w.pool.isCurveComplete d.config.migrationQuoteThreshold = true ∨
        w.pool.migrationProgress = .createdPool)
      (eligible : w.pool.eligibleToWithdrawMigrationFee PARTNER_MIGRATION_FEE_MASK = true)
      (quoteVault_ge : partnerShare d.config.creatorMigrationFeePercentage (migrationFeeOf
        d.config.migrationFeePercentage
        (w.pool.effectiveMigrationQuoteThreshold d.config.getMigrationQuoteAmountCap)) ≤
          w.quoteVault) :
      Transition d w (.withdrawMigrationFee d.config.feeClaimer 0)
        ((w.withPool (w.pool.updateWithdrawMigrationFee PARTNER_MIGRATION_FEE_MASK)).paid
          .quote .partnerMigrationFee (partnerShare d.config.creatorMigrationFeePercentage
            (migrationFeeOf d.config.migrationFeePercentage
            (w.pool.effectiveMigrationQuoteThreshold d.config.getMigrationQuoteAmountCap))))
  /-- The creator withdraws its share of the migration fee. -/
  | creatorMigrationFee
      (permitted : w.pool.isCurveComplete d.config.migrationQuoteThreshold = true ∨
        w.pool.migrationProgress = .createdPool)
      (eligible : w.pool.eligibleToWithdrawMigrationFee CREATOR_MIGRATION_FEE_MASK = true)
      (quoteVault_ge : creatorShare d.config.creatorMigrationFeePercentage (migrationFeeOf
        d.config.migrationFeePercentage
        (w.pool.effectiveMigrationQuoteThreshold d.config.getMigrationQuoteAmountCap)) ≤
          w.quoteVault) :
      Transition d w (.withdrawMigrationFee w.pool.creator 1)
        ((w.withPool (w.pool.updateWithdrawMigrationFee CREATOR_MIGRATION_FEE_MASK)).paid
          .quote .creatorMigrationFee (creatorShare d.config.creatorMigrationFeePercentage
            (migrationFeeOf d.config.migrationFeePercentage
            (w.pool.effectiveMigrationQuoteThreshold d.config.getMigrationQuoteAmountCap))))
  /-- The locked vesting is funded. -/
  | locker {amount : ℕ} {w' : World} {isAccepted : Bool} (move : LockerMove d amount w w') :
      Transition d w (.createLocker isAccepted) w'
  /-- The pool migrates. -/
  | migration {m : MigrationData} {w' : World} {a : Action} (move : MigrationMove d m w w')
      (isMigration : a.IsMigration) : Transition d w a w'
  /-- The base that a fixed supply leaves is withdrawn. -/
  | leftover {amount : ℕ} (progress : w.pool.migrationProgress = .createdPool)
      (flag_eq : w.pool.isWithdrawLeftover = 0)
      (amount_eq : w.pool.partnerBaseFee + w.pool.protocolBaseFee + w.pool.creatorBaseFee +
        w.pool.protocolMigrationBaseFeeAmount + amount = w.baseVault) :
      Transition d w .withdrawLeftover { w with
        pool := { w.pool with isWithdrawLeftover := 1 }
        baseVault := w.baseVault - amount
        effects := .paid .base .leftover amount :: w.effects }

/-! ## Instructions as moves -/

/-- The instructions of a pool that trades.
Source: `lib.rs` -/
def Action.IsTrading : Action → Prop
  | .pass .. | .swap2 _ | .swap2WithTransferHook _ | .virtualSwap2 _ => True
  | .claimTradingFee .. | .claimCreatorTradingFee .. | .claimProtocolFee .. => True
  | .claimProtocolFee2 .. | .zapProtocolFee .. | .transferPoolCreator .. => True
  | _ => False

section Steps

variable {d : Deployment} {w w' : World} {a : Action}

/-- A swap is a trade and, when it ends the curve, the completion of the sale.
Source: `instructions/swap/process_swap.rs` `process_swap` -/
theorem processSwap_trading {request : SwapRequest} {isVirtual : Bool} (ha : a.IsSwap)
    (h : d.processSwap w request isVirtual = .ok w') : Trading d w a w' := by
  obtain ⟨x, mid, htrade, hcompletion⟩ := processSwap_spec h
  exact .swap htrade hcompletion ha

/-- The partner, who signs, claims at most its fees.
Source: `instructions/partner/ix_claim_partner_trading_fee.rs` `handle_claim_trading_fee` -/
theorem claimTradingFee_trading {signer : Pubkey} {maxBase maxQuote : ℕ} {hasAccounts : Bool}
    (h : d.claimTradingFee w signer maxBase maxQuote hasAccounts = .ok w') :
    Trading d w (.claimTradingFee signer maxBase maxQuote hasAccounts) w' := by
  simp only [Deployment.claimTradingFee, Deployment.isPartnerFeeClaimer, bind_eq_ok, exists_unit,
    require_eq_ok] at h
  obtain ⟨rfl, _, ⟨⟨base, quote⟩, p⟩, hclaim, w1, hbase, hquote⟩ := h
  obtain ⟨hb, hq, rfl⟩ := claimPartnerTradingFee_spec hclaim
  obtain ⟨hbv, rfl⟩ := payPositive_base_spec hbase
  obtain ⟨hqv, rfl⟩ := payPositive_quote_spec hquote
  exact .claimPartner hb hq hbv hqv

/-- The creator, who signs, claims at most its fees.
Source: `instructions/creator/ix_claim_creator_trading_fee.rs`
`handle_claim_creator_trading_fee` -/
theorem claimCreatorTradingFee_trading {signer : Pubkey} {maxBase maxQuote : ℕ}
    {hasAccounts : Bool}
    (h : d.claimCreatorTradingFee w signer maxBase maxQuote hasAccounts = .ok w') :
    Trading d w (.claimCreatorTradingFee signer maxBase maxQuote hasAccounts) w' := by
  simp only [Deployment.claimCreatorTradingFee, Deployment.isPoolCreator, bind_eq_ok, exists_unit,
    require_eq_ok] at h
  obtain ⟨rfl, _, ⟨⟨base, quote⟩, p⟩, hclaim, w1, hbase, hquote⟩ := h
  obtain ⟨hb, hq, rfl⟩ := claimCreatorTradingFee_spec hclaim
  obtain ⟨hbv, rfl⟩ := payPositive_base_spec hbase
  obtain ⟨hqv, rfl⟩ := payPositive_quote_spec hquote
  exact .claimCreator hb hq hbv hqv

/-- The protocol is paid base fees only.
Source: `state/virtual_pool.rs` `claim_protocol_base_fee` and the transfer after it -/
theorem payProtocolBaseFee_trading {maxAmount : ℕ} (ha : a.IsProtocolClaim)
    (h : Deployment.payProtocolBaseFee w maxAmount = .ok w') : Trading d w a w' := by
  simp only [Deployment.payProtocolBaseFee, bind_eq_ok] at h
  obtain ⟨⟨amount, p⟩, hclaim, hpay⟩ := h
  obtain ⟨trading, migration, rfl, ht, hm, rfl⟩ := claimProtocolBaseFee_spec hclaim
  obtain ⟨hbv, rfl⟩ := payPositive_base_spec hpay
  exact .claimProtocol w.pool.isProtocolWithdrawSurplus ht hm
    (Nat.zero_le w.pool.protocolQuoteFee) (Nat.zero_le w.pool.protocolMigrationQuoteFeeAmount)
    hbv (Nat.zero_le w.quoteVault) ha

/-- The protocol is paid quote fees only.
Source: `state/virtual_pool.rs` `claim_protocol_quote_fee_and_surplus` and the transfer after
it -/
theorem payProtocolQuoteFee_trading {maxAmount : ℕ} (ha : a.IsProtocolClaim)
    (h : d.payProtocolQuoteFee w maxAmount = .ok w') : Trading d w a w' := by
  simp only [Deployment.payProtocolQuoteFee, bind_eq_ok] at h
  obtain ⟨⟨amount, p⟩, hclaim, hpay⟩ := h
  obtain ⟨trading, migration, flag, rfl, ht, hm, rfl⟩ :=
    claimProtocolQuoteFeeAndSurplus_spec hclaim
  obtain ⟨hqv, rfl⟩ := payPositive_quote_spec hpay
  exact .claimProtocol flag (Nat.zero_le w.pool.protocolBaseFee)
    (Nat.zero_le w.pool.protocolMigrationBaseFeeAmount) ht hm (Nat.zero_le w.baseVault) hqv ha

/-- The protocol is paid fees of both tokens.
Source: `instructions/operator/ix_claim_protocol_fee.rs` `handle_claim_protocol_fee` -/
theorem claimProtocolFee_trading {maxBase maxQuote : ℕ} (ha : a.IsProtocolClaim)
    (h : d.claimProtocolFee w maxBase maxQuote = .ok w') : Trading d w a w' := by
  simp only [Deployment.claimProtocolFee, Deployment.payProtocolBaseFee,
    Deployment.payProtocolQuoteFee, bind_eq_ok, exists_unit] at h
  obtain ⟨_, w1, ⟨⟨base, p⟩, hbase, hpayBase⟩, ⟨quote, q⟩, hquote, hpayQuote⟩ := h
  obtain ⟨tb, mb, rfl, htb, hmb, rfl⟩ := claimProtocolBaseFee_spec hbase
  obtain ⟨hbv, rfl⟩ := payPositive_base_spec hpayBase
  obtain ⟨tq, mq, flag, rfl, htq, hmq, rfl⟩ := claimProtocolQuoteFeeAndSurplus_spec hquote
  obtain ⟨hqv, rfl⟩ := payPositive_quote_spec hpayQuote
  exact .claimProtocol flag htb hmb htq hmq hbv hqv ha

/-- Zapping pays the same as claiming, when there is something to pay.
Source: `instructions/operator/ix_zap_protocol_fee.rs` `handle_zap_protocol_fee` -/
theorem zapProtocolFee_trading {isBase : Bool} {maxAmount : ℕ} (ha : a.IsProtocolClaim)
    (h : d.zapProtocolFee w isBase maxAmount = .ok w') : Trading d w a w' := by
  simp only [Deployment.zapProtocolFee, bind_eq_ok, exists_unit] at h
  obtain ⟨_, h⟩ := h
  cases isBase with
  | true =>
    simp only [if_true, bind_eq_ok, exists_unit, require_eq_ok] at h
    obtain ⟨⟨amount, p⟩, hclaim, hpos, hpay⟩ := h
    have hpaid : Deployment.payProtocolBaseFee w maxAmount = .ok w' := by
      simp only [Deployment.payProtocolBaseFee, bind_eq_ok]
      exact ⟨_, hclaim, by simpa only [World.payPositive, if_pos hpos] using hpay⟩
    exact payProtocolBaseFee_trading ha hpaid
  | false =>
    simp only [Bool.false_eq_true, if_false, bind_eq_ok, exists_unit, require_eq_ok] at h
    obtain ⟨⟨amount, p⟩, hclaim, hpos, hpay⟩ := h
    have hpaid : d.payProtocolQuoteFee w maxAmount = .ok w' := by
      simp only [Deployment.payProtocolQuoteFee, bind_eq_ok]
      exact ⟨_, hclaim, by simpa only [World.payPositive, if_pos hpos] using hpay⟩
    exact payProtocolQuoteFee_trading ha hpaid

/-- **An instruction of a pool that trades is a trading move.**
Source: `lib.rs` -/
theorem step_trading (ha : a.IsTrading) (h : d.step w a = .ok w') : Trading d w a w' := by
  cases a with
  | pass slots seconds =>
    simp only [Deployment.step, Except.ok.injEq] at h
    subst h
    exact .pass slots seconds
  | swap2 request =>
    simp only [Deployment.step, Deployment.swap2, bind_eq_ok, exists_unit] at h
    exact processSwap_trading trivial h.2
  | swap2WithTransferHook request =>
    simp only [Deployment.step, Deployment.swap2WithTransferHook, bind_eq_ok, exists_unit] at h
    exact processSwap_trading trivial h.2
  | virtualSwap2 request =>
    simp only [Deployment.step, Deployment.virtualSwap2, bind_eq_ok, exists_unit] at h
    exact processSwap_trading trivial h.2.2
  | claimTradingFee signer maxBase maxQuote hasAccounts => exact claimTradingFee_trading h
  | claimCreatorTradingFee signer maxBase maxQuote hasAccounts =>
    exact claimCreatorTradingFee_trading h
  | claimProtocolFee maxBase maxQuote => exact claimProtocolFee_trading trivial h
  | claimProtocolFee2 isBase maxAmount =>
    simp only [Deployment.step, Deployment.claimProtocolFee2] at h
    cases isBase with
    | true =>
      simp only [if_true, bind_eq_ok, exists_unit] at h
      exact payProtocolBaseFee_trading trivial h.2
    | false => exact payProtocolQuoteFee_trading trivial h
  | zapProtocolFee isBase maxAmount => exact zapProtocolFee_trading trivial h
  | transferPoolCreator signer creator isHandedOut =>
    simp only [Deployment.step, Deployment.transferPoolCreator, Deployment.isPoolCreator,
      bind_eq_ok, exists_unit, require_eq_ok, pure_eq_ok] at h
    obtain ⟨rfl, _, _, rfl⟩ := h
    exact .transferCreator creator
  | _ => exact absurd ha id

/-- The flag of a sender.
Source: `instructions/migration/ix_withdraw_migration_fee.rs` `SenderFlag` -/
theorem senderFlag_eq {flag : ℕ} {sender : SenderFlag} (h : SenderFlag.tryFrom flag = some sender) :
    flag = match sender with
      | .partner => 0
      | .creator => 1 := by
  unfold SenderFlag.tryFrom at h
  split at h <;> cases h <;> rfl

/-- Whoever the flag names signs and is paid its share of the migration fee.
Source: `instructions/migration/ix_withdraw_migration_fee.rs`
`handle_withdraw_migration_fee` -/
theorem withdrawMigrationFee_transition {signer : Pubkey} {flag : ℕ}
    (h : d.withdrawMigrationFee w signer flag = .ok w') :
    Transition d w (.withdrawMigrationFee signer flag) w' := by
  simp only [Deployment.withdrawMigrationFee, bind_eq_ok, exists_unit, require_eq_ok,
    orThrow_eq_ok] at h
  obtain ⟨hpermitted, f, hf, sender, hsender, h⟩ := h
  obtain ⟨hpartner, hcreator⟩ := getMigrationFeeDistributionForThreshold_spec hf
  have hflag := senderFlag_eq hsender
  cases sender with
  | partner =>
    simp only [Deployment.payMigrationFee, hpartner, bind_eq_ok, exists_unit, require_eq_ok,
      World.pay_eq_ok] at h
    obtain ⟨rfl, heligible, hle, rfl⟩ := h
    rw [hflag]
    exact .partnerMigrationFee hpermitted heligible hle
  | creator =>
    simp only [Deployment.payMigrationFee, hcreator, bind_eq_ok, exists_unit, require_eq_ok,
      World.pay_eq_ok] at h
    obtain ⟨rfl, heligible, hle, rfl⟩ := h
    rw [hflag]
    exact .creatorMigrationFee hpermitted heligible hle

/-- The partner signs and is paid its share of the surplus.
Source: `instructions/partner/ix_withdraw_partner_surplus.rs`
`handle_partner_withdraw_surplus` -/
theorem partnerWithdrawSurplus_transition {signer : Pubkey}
    (h : d.partnerWithdrawSurplus w signer = .ok w') :
    Transition d w (.partnerWithdrawSurplus signer) w' := by
  simp only [Deployment.partnerWithdrawSurplus, Deployment.isPartnerFeeClaimer,
    PoolState.getTotalSurplus, bind_eq_ok, exists_unit, require_eq_ok, safeSub_eq_ok,
    World.pay_eq_ok, pure_eq_ok] at h
  obtain ⟨rfl, _, hflag, _, ⟨hcap, rfl⟩, share, hshare, _, ⟨hle, rfl⟩, rfl⟩ := h
  rw [getPartnerSurplus_spec hshare] at hle ⊢
  exact .partnerSurplus hcap hflag hle

/-- The creator signs and is paid its share of the surplus.
Source: `instructions/creator/ix_withdraw_creator_surplus.rs`
`handle_creator_withdraw_surplus` -/
theorem creatorWithdrawSurplus_transition {signer : Pubkey}
    (h : d.creatorWithdrawSurplus w signer = .ok w') :
    Transition d w (.creatorWithdrawSurplus signer) w' := by
  simp only [Deployment.creatorWithdrawSurplus, Deployment.isPoolCreator,
    PoolState.getTotalSurplus, bind_eq_ok, exists_unit, require_eq_ok, safeSub_eq_ok,
    World.pay_eq_ok, pure_eq_ok] at h
  obtain ⟨rfl, hfixed, _, hflag, _, ⟨hcap, rfl⟩, share, hshare, _, ⟨hle, rfl⟩, rfl⟩ := h
  rw [getCreatorSurplus_spec hshare] at hle ⊢
  exact .creatorSurplus hfixed hcap hflag hle

/-- **Every instruction is a move.**
Source: `lib.rs` -/
theorem step_transition (h : d.step w a = .ok w') : Transition d w a w' := by
  by_cases ha : a.IsTrading
  · exact .trading (step_trading ha h)
  · cases a with
    | partnerWithdrawSurplus signer => exact partnerWithdrawSurplus_transition h
    | creatorWithdrawSurplus signer => exact creatorWithdrawSurplus_transition h
    | withdrawMigrationFee signer flag => exact withdrawMigrationFee_transition h
    | createLocker isAccepted =>
      obtain ⟨amount, hmove⟩ := createLocker_spec h
      exact .locker hmove
    | migrateDammV2 amm =>
      obtain ⟨m, hmove⟩ := migrateDammV2_spec h
      exact .migration hmove trivial
    | migrateMeteoraDamm amm =>
      obtain ⟨m, hmove⟩ := migrateMeteoraDamm_spec h
      exact .migration hmove trivial
    | withdrawLeftover =>
      obtain ⟨hprogress, hflag, amount, hamount, rfl⟩ := withdrawLeftover_spec h
      exact .leftover hprogress hflag hamount
    | _ => exact absurd trivial ha

/-- **Only the creator names another creator.**
Source: `instructions/creator/ix_transfer_pool_creator.rs` `handle_transfer_pool_creator`;
`access_control.rs` `is_pool_creator` -/
theorem Transition.creator (h : Transition d w a w') :
    w'.pool.creator = w.pool.creator ∨
      ∃ isHandedOut, a = .transferPoolCreator w.pool.creator w'.pool.creator isHandedOut := by
  cases h with
  | trading move =>
    cases move with
    | @swap _ _ mid _ _ trade completion =>
      have hmid : mid.pool.creator = w.pool.creator := by
        rw [trade.pool]
        rfl
      cases completion <;> exact .inl hmid
    | transferCreator creator => exact .inr ⟨_, rfl⟩
    | _ => exact .inl rfl
  | locker move =>
    rw [move.eq]
    exact .inl rfl
  | migration move =>
    rw [move.eq]
    exact .inl rfl
  | _ => exact .inl rfl

end Steps

/-! ## Properties of all runs -/

section Runs

variable {d : Deployment} (Inv : World → Prop) {w : World} {actions : List Action}

/-- What every move preserves holds at the end of every run. -/
theorem invariant_of_transition (hmove : ∀ a w w', Inv w → Transition d w a w' → Inv w')
    (hw : Inv w) : Inv (run d.step w actions) :=
  run_invariant Inv (fun _ => True)
    (fun _ _ _ _ hinv h => hmove _ _ _ hinv (step_transition h)) (fun _ _ => trivial) hw

/-- What every trading move preserves holds at the end of every run of a pool that trades. -/
theorem invariant_of_trading (hmove : ∀ a w w', Inv w → Trading d w a w' → Inv w')
    (hall : ∀ a ∈ actions, a.IsTrading) (hw : Inv w) : Inv (run d.step w actions) :=
  run_invariant Inv Action.IsTrading
    (fun _ _ _ ha hinv h => hmove _ _ _ hinv (step_trading ha h)) hall hw

/-- A reflexive and transitive relation that every move respects holds between the ends of a
run. -/
theorem relation_of_transition (R : World → World → Prop) (hrefl : ∀ w, R w w)
    (htrans : ∀ u v w, R u v → R v w → R u w)
    (hinv : ∀ a w w', Inv w → Transition d w a w' → Inv w')
    (hmove : ∀ a w w', Inv w → Transition d w a w' → R w w') (hw : Inv w) :
    R w (run d.step w actions) :=
  run_relation Inv R hrefl htrans (fun _ _ _ h hok => hinv _ _ _ h (step_transition hok))
    (fun _ _ _ h hok => hmove _ _ _ h (step_transition hok)) hw

end Runs

end DynamicBondingCurve
