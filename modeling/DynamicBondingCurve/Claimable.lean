import DynamicBondingCurve.TradingView
import DynamicBondingCurve.Surplus

/-!
# What is owed can always be claimed

No claim ever waits for funds or for another claim. In every state that a launched pool can reach,
the vaults hold what the counters and the flags say is owed, so that the party it is owed to is paid
at once, whatever happened before.

* `BaseCovered`, `Launch.baseCovered`: the base vault holds the fees on the base token, through
  the locker, the migration, the burning and the withdrawal of the leftover.
* `Launch.owed_le_quoteVault`: the quote vault holds the fees and every share that is open.
* `Launch.fees_claimable`: **a claim of fees pays the smaller of the fees and the limit.**
-/

namespace DynamicBondingCurve

open Library

/-! ## The base vault -/

/-- The base vault holds the fees on the base token.
Source: `state/virtual_pool.rs` `PoolState` `partner_base_fee`, `creator_base_fee`,
`protocol_base_fee`, `protocol_migration_base_fee_amount` -/
def BaseCovered (w : World) : Prop :=
  w.pool.partnerBaseFee + w.pool.creatorBaseFee + w.pool.protocolBaseFee +
    w.pool.protocolMigrationBaseFeeAmount ≤ w.baseVault

section Steps

variable {d : Deployment} {w w' : World} {a : Action}

/-- Nobody trades with a pool that was created.
Source: `instructions/swap/process_swap.rs` `process_swap`, the check of `is_sale_complete` -/
theorem BaseCovered.of_trading (hended : ProgressEnded d w)
    (hcreated : w.pool.migrationProgress = .createdPool) (hw : BaseCovered w)
    (h : Trading d w a w') : BaseCovered w' := by
  unfold BaseCovered at hw ⊢
  cases h with
  | swap trade completion =>
    have hpre := trade.progress hended
    rw [hcreated] at hpre
    cases hpre
  | pass => exact hw
  | transferCreator => exact hw
  | claimPartner => simp only; omega
  | claimCreator => simp only; omega
  | claimProtocol => simp only; omega

/-- The migration and all that follows it leave the fees in the base vault.
Source: `migrate_damm_v2_initialize_pool.rs` `handle_migrate_damm_v2`, `non_burnable_amount`;
`withdraw_leftover.rs` `handle_withdraw_leftover` -/
theorem BaseCovered.of_transition (hlife : Lifecycle d w)
    (hw : w.pool.migrationProgress = .createdPool → BaseCovered w) (h : Transition d w a w')
    (hcreated : w'.pool.migrationProgress = .createdPool) : BaseCovered w' := by
  cases h with
  | trading move =>
    by_cases hbefore : w.pool.migrationProgress = .createdPool
    · exact (hw hbefore).of_trading hlife.ended hbefore move
    · exfalso
      cases move with
      | swap trade completion =>
        have hpre := trade.progress hlife.ended
        cases completion with
        | «open» =>
          rw [trade.pool] at hcreated
          exact hbefore hcreated
        | complete =>
          simp only [Deployment.completed] at hcreated
          split_ifs at hcreated
      | _ => exact hbefore hcreated
  | locker move =>
    rw [move.eq] at hcreated
    cases hcreated
  | @migration m _ _ move =>
    obtain ⟨maxBurnable, left, _, hleft, hburnt⟩ := move.burnt_eq
    have hle : m.burnt ≤ left := by
      rw [hburnt]
      exact min_le_right _ _
    rw [move.eq]
    unfold BaseCovered
    simp only
    omega
  | leftover hprogress hflag hamount =>
    unfold BaseCovered
    simp only
    omega
  | _ => exact hw hcreated

end Steps

/-! ## The quote reserve -/

section Reserve

variable {d : Deployment} {w w' : World}

/-- The quote reserve fits its type after its update.
Source: `state/virtual_pool.rs` `apply_swap_result_internal`, the branches on `trade_direction` -/
theorem PoolState.quoteReserve_lt_of_moveReserves {p p' : PoolState} {dir : TradeDirection}
    {isVirtual : Bool} {input output : ℕ} (hp : p.quoteReserve < 2 ^ 64)
    (h : p.moveReserves dir isVirtual input output = .ok p') : p'.quoteReserve < 2 ^ 64 := by
  unfold moveReserves at h
  split_ifs at h with hsell hvirtual
  · simp only [bind_eq_ok, safeSub_eq_ok, pure_eq_ok] at h
    obtain ⟨_, _, _, ⟨_, rfl⟩, rfl⟩ := h
    exact (Nat.sub_le _ _).trans_lt hp
  · simp only [bind_eq_ok, pure_eq_ok] at h
    obtain ⟨_, _, _, _, rfl⟩ := h
    exact hp
  · simp only [bind_eq_ok, safeAdd_eq_ok, pure_eq_ok] at h
    obtain ⟨_, ⟨hfit, rfl⟩, _, _, rfl⟩ := h
    exact hfit

/-- The quote reserve fits its type after a swap is applied.
Source: `state/virtual_pool.rs` `apply_swap_result_internal` -/
theorem PoolState.quoteReserve_lt_of_apply {p p' : PoolState} {config : PoolConfig}
    {r : SwapResult} {m : FeeMode} {dir : TradeDirection} {timestamp : ℕ} {isVirtual : Bool}
    (hp : p.quoteReserve < 2 ^ 64)
    (h : p.applySwapResultInternal config r m dir timestamp isVirtual = .ok p') :
    p'.quoteReserve < 2 ^ 64 := by
  simp only [applySwapResultInternal, bind_eq_ok, pure_eq_ok] at h
  obtain ⟨p1, hfees, _, _, p2, hmove, p3, hpost, rfl⟩ := h
  obtain ⟨_, _, _, rfl⟩ := recordFees_spec hfees
  obtain ⟨_, rfl⟩ := updatePostSwap_spec hpost
  have hp2 : p2.quoteReserve < 2 ^ 64 := by
    refine quoteReserve_lt_of_moveReserves ?_ hmove
    exact hp
  exact hp2

/-- A payment leaves the state of the pool alone.
Source: `utils/token.rs` `transfer_token_from_pool_authority` -/
theorem pool_of_pay {token : Token} {purpose : Purpose} {amount : ℕ}
    (h : w.pay token purpose amount = .ok w') : w'.pool = w.pool := by
  obtain ⟨_, rfl⟩ := World.pay_eq_ok.mp h
  cases token <;> rfl

/-- The transfers of a swap leave the state of the pool alone.
Source: `instructions/swap/process_swap.rs` `process_swap`, its transfers -/
theorem pool_of_settleSwap {request : SwapRequest} {isVirtual : Bool} {m : FeeMode}
    {r : SwapResult2} (h : d.settleSwap w request isVirtual m r = .ok w') : w'.pool = w.pool := by
  simp only [Deployment.settleSwap, bind_eq_ok] at h
  obtain ⟨w1, hin, w2, hout, h⟩ := h
  have hfirst : w1.pool = w.pool := by
    split_ifs at hin
    · rw [pure_eq_ok] at hin
      rw [hin]
    · simp only [bind_eq_ok, exists_unit, pure_eq_ok] at hin
      obtain ⟨_, rfl⟩ := hin
      rfl
  rw [← hfirst, ← pool_of_pay hout]
  split_ifs at h
  · exact pool_of_pay h
  · exact pool_of_pay h
  · rw [pure_eq_ok] at h
    rw [h]

/-- The quote reserve fits its type after a swap.
Source: `instructions/swap/process_swap.rs` `process_swap` -/
theorem quoteReserve_lt_of_processSwap {request : SwapRequest} {isVirtual : Bool}
    (hw : w.pool.quoteReserve < 2 ^ 64) (h : d.processSwap w request isVirtual = .ok w') :
    w'.pool.quoteReserve < 2 ^ 64 := by
  simp only [Deployment.processSwap, Deployment.computeSwap, bind_eq_ok, pure_eq_ok] at h
  obtain ⟨c, _, ⟨m, r, p⟩, ⟨p0, hpre, _, _, _, _, p1, happly, hresult⟩, mid, hsettle,
    hcomplete⟩ := h
  cases hresult
  obtain ⟨_, rfl⟩ := PoolState.updatePreSwap_spec hpre
  have hp : p.quoteReserve < 2 ^ 64 := by
    split_ifs at happly
    · refine PoolState.quoteReserve_lt_of_apply ?_ happly
      exact hw
    · refine PoolState.quoteReserve_lt_of_apply ?_ happly
      exact hw
  have hmid : mid.pool.quoteReserve < 2 ^ 64 := by
    rw [pool_of_settleSwap hsettle]
    exact hp
  cases completeCurve_spec hcomplete with
  | «open» => exact hmid
  | complete => exact hmid

/-- The quote reserve fits its type: only swaps add to it.
Source: `lib.rs`, the dispatch of the instructions -/
theorem quoteReserve_lt_of_step {a : Action} (hw : w.pool.quoteReserve < 2 ^ 64)
    (h : d.step w a = .ok w') : w'.pool.quoteReserve < 2 ^ 64 := by
  cases hswap : a.swap? with
  | none =>
    have hsame := congrArg TradingState.quoteReserve (trading_of_step hswap h)
    exact hsame.trans_lt hw
  | some swap => exact quoteReserve_lt_of_processSwap hw ((step_swap_iff hswap).mp h).2

end Reserve

/-! ## Claims of fees -/

/-- An action succeeds and pays these amounts for a purpose. Of the pool only counters change, and
the rest of the world stays as it is. -/
def PaysOut (d : Deployment) (w : World) (a : Action) (purpose : Purpose) (base quote : ℕ) : Prop :=
  base ≤ w.baseVault ∧ quote ≤ w.quoteVault ∧ ∃ p, d.step w a = .ok { w with
    pool := p
    baseVault := w.baseVault - base
    quoteVault := w.quoteVault - quote
    effects := Effect.positive .quote purpose quote ++
      (Effect.positive .base purpose base ++ w.effects) }

section Fees

variable {d : Deployment} {w : World} {p : PoolState} {purpose : Purpose} {base quote : ℕ}
  {maxBase maxQuote maxAmount : ℕ}

/-- A payment out of a base vault that holds enough is made.
Source: `utils/token.rs` `transfer_token_from_pool_authority` -/
theorem payPositive_base_eq (h : base ≤ w.baseVault) :
    w.payPositive .base purpose base = .ok { w with
      baseVault := w.baseVault - base
      effects := Effect.positive .base purpose base ++ w.effects } := by
  unfold World.payPositive Effect.positive
  split_ifs with hpos
  · exact World.pay_eq_ok.mpr ⟨h, rfl⟩
  · rw [Nat.eq_zero_of_not_pos hpos]
    rfl

/-- A payment out of a quote vault that holds enough is made.
Source: `utils/token.rs` `transfer_token_from_pool_authority` -/
theorem payPositive_quote_eq (h : quote ≤ w.quoteVault) :
    w.payPositive .quote purpose quote = .ok { w with
      quoteVault := w.quoteVault - quote
      effects := Effect.positive .quote purpose quote ++ w.effects } := by
  unfold World.payPositive Effect.positive
  split_ifs with hpos
  · exact World.pay_eq_ok.mpr ⟨h, rfl⟩
  · rw [Nat.eq_zero_of_not_pos hpos]
    rfl

/-- The two transfers of a claim.
Source: `instructions/partner/ix_claim_partner_trading_fee.rs` `handle_claim_trading_fee`, the
transfers -/
theorem payBoth_eq (hbase : base ≤ w.baseVault) (hquote : quote ≤ w.quoteVault) :
    (do
      let v ← (w.withPool p).payPositive .base purpose base
      v.payPositive .quote purpose quote) = .ok { w with
        pool := p
        baseVault := w.baseVault - base
        quoteVault := w.quoteVault - quote
        effects := Effect.positive .quote purpose quote ++
          (Effect.positive .base purpose base ++ w.effects) } := by
  rw [bind_eq_ok]
  exact ⟨_, payPositive_base_eq hbase, payPositive_quote_eq hquote⟩

/-- The partner is paid its fees, up to its limits.
Source: `instructions/partner/ix_claim_partner_trading_fee.rs` `handle_claim_trading_fee` -/
theorem claimTradingFee_pays (hbase : w.pool.partnerBaseFee ≤ w.baseVault)
    (hquote : w.pool.partnerQuoteFee ≤ w.quoteVault) :
    PaysOut d w (.claimTradingFee d.config.feeClaimer maxBase maxQuote true) .partnerTradingFee
      (min w.pool.partnerBaseFee maxBase) (min w.pool.partnerQuoteFee maxQuote) := by
  refine ⟨(min_le_left _ _).trans hbase, (min_le_left _ _).trans hquote, ?_⟩
  have hclaim : ∃ p, w.pool.claimPartnerTradingFee maxBase maxQuote =
      .ok ((min w.pool.partnerBaseFee maxBase, min w.pool.partnerQuoteFee maxQuote), p) := by
    simp only [PoolState.claimPartnerTradingFee, bind_eq_ok, safeSub_eq_ok]
    exact ⟨_, _, ⟨min_le_left _ _, rfl⟩, _, ⟨min_le_left _ _, rfl⟩, rfl⟩
  obtain ⟨p, hp⟩ := hclaim
  refine ⟨p, ?_⟩
  simp only [Deployment.step, Deployment.claimTradingFee, bind_eq_ok, exists_unit, require_eq_ok]
  refine ⟨require_eq_ok.mpr rfl, Or.inl trivial, _, hp, ?_⟩
  rw [← bind_eq_ok]
  exact payBoth_eq ((min_le_left _ _).trans hbase) ((min_le_left _ _).trans hquote)

/-- The creator is paid its fees, up to its limits.
Source: `instructions/creator/ix_claim_creator_trading_fee.rs`
`handle_claim_creator_trading_fee` -/
theorem claimCreatorTradingFee_pays (hbase : w.pool.creatorBaseFee ≤ w.baseVault)
    (hquote : w.pool.creatorQuoteFee ≤ w.quoteVault) :
    PaysOut d w (.claimCreatorTradingFee w.pool.creator maxBase maxQuote true) .creatorTradingFee
      (min w.pool.creatorBaseFee maxBase) (min w.pool.creatorQuoteFee maxQuote) := by
  refine ⟨(min_le_left _ _).trans hbase, (min_le_left _ _).trans hquote, ?_⟩
  have hclaim : ∃ p, w.pool.claimCreatorTradingFee maxBase maxQuote =
      .ok ((min w.pool.creatorBaseFee maxBase, min w.pool.creatorQuoteFee maxQuote), p) := by
    simp only [PoolState.claimCreatorTradingFee, bind_eq_ok, safeSub_eq_ok]
    exact ⟨_, _, ⟨min_le_left _ _, rfl⟩, _, ⟨min_le_left _ _, rfl⟩, rfl⟩
  obtain ⟨p, hp⟩ := hclaim
  refine ⟨p, ?_⟩
  simp only [Deployment.step, Deployment.claimCreatorTradingFee, bind_eq_ok, exists_unit,
    require_eq_ok]
  refine ⟨require_eq_ok.mpr rfl, Or.inl trivial, _, hp, ?_⟩
  rw [← bind_eq_ok]
  exact payBoth_eq ((min_le_left _ _).trans hbase) ((min_le_left _ _).trans hquote)

/-- What the protocol has left of its fees on the base token.
Source: `state/virtual_pool.rs` `PoolState` `protocol_base_fee`,
`protocol_migration_base_fee_amount` -/
def PoolState.protocolBase (p : PoolState) : ℕ :=
  p.protocolBaseFee + p.protocolMigrationBaseFeeAmount

/-- What the protocol has left of its fees on the quote token.
Source: `state/virtual_pool.rs` `PoolState` `protocol_quote_fee`,
`protocol_migration_quote_fee_amount` -/
def PoolState.protocolQuote (p : PoolState) : ℕ :=
  p.protocolQuoteFee + p.protocolMigrationQuoteFeeAmount

/-- A claim of the protocol's base gets what is due, up to its limit.
Source: `state/virtual_pool.rs` `claim_protocol_base_fee` -/
theorem claimProtocolBaseFee_eq (hmax : maxAmount < 2 ^ 64) :
    ∃ q, p.claimProtocolBaseFee maxAmount = .ok (min p.protocolBase maxAmount, q) := by
  have htotal : min p.protocolBaseFee maxAmount + min p.protocolMigrationBaseFeeAmount
      (maxAmount - min p.protocolBaseFee maxAmount) = min p.protocolBase maxAmount := by
    unfold PoolState.protocolBase
    omega
  simp only [PoolState.claimProtocolBaseFee, bind_eq_ok, safeSub_eq_ok, safeAdd_eq_ok]
  refine ⟨_, _, ⟨min_le_left _ _, rfl⟩, _, ⟨min_le_right _ _, rfl⟩, _, ⟨min_le_left _ _, rfl⟩, _,
    ⟨?_, htotal.symm⟩, rfl⟩
  omega

/-- A claim of the protocol's quote gets what is due, up to its limit.
Source: `state/virtual_pool.rs` `claim_protocol_quote_fee` -/
theorem claimProtocolQuoteFee_eq (hmax : maxAmount < 2 ^ 64) :
    ∃ q, p.claimProtocolQuoteFee maxAmount = .ok (min p.protocolQuote maxAmount, q) := by
  have htotal : min p.protocolQuoteFee maxAmount + min p.protocolMigrationQuoteFeeAmount
      (maxAmount - min p.protocolQuoteFee maxAmount) = min p.protocolQuote maxAmount := by
    unfold PoolState.protocolQuote
    omega
  simp only [PoolState.claimProtocolQuoteFee, bind_eq_ok, safeSub_eq_ok, safeAdd_eq_ok]
  refine ⟨_, _, ⟨min_le_left _ _, rfl⟩, _, ⟨min_le_right _ _, rfl⟩, _, ⟨min_le_left _ _, rfl⟩, _,
    ⟨?_, htotal.symm⟩, rfl⟩
  omega

/-- The whole surplus is the share of partner and creator.
Source: `state/virtual_pool.rs` `get_partner_and_creator_surplus` -/
theorem getPartnerAndCreatorSurplus_eq {surplus : ℕ} (hfit : surplus < 2 ^ 64) :
    PoolState.getPartnerAndCreatorSurplus surplus = .ok surplus := by
  obtain ⟨hok, _⟩ := safeMulDivCastU64_part .down hfit
    (le_refl PARTNER_AND_CREATOR_SURPLUS_SHARE) (by decide) (by decide)
  unfold PoolState.getPartnerAndCreatorSurplus
  refine hok.trans (congrArg Except.ok ?_)
  exact Nat.mul_div_cancel surplus (by decide)

/-- The protocol has no part of the surplus.
Source: `state/virtual_pool.rs` `get_protocol_surplus` -/
theorem getProtocolSurplus_eq {cap : ℕ} (hreserve : p.quoteReserve < 2 ^ 64)
    (hcap : cap ≤ p.quoteReserve) : p.getProtocolSurplus cap = .ok 0 := by
  have hfit : p.quoteReserve - cap < 2 ^ 64 := (Nat.sub_le _ _).trans_lt hreserve
  simp only [PoolState.getProtocolSurplus, PoolState.getTotalSurplus, bind_eq_ok, safeSub_eq_ok]
  exact ⟨_, ⟨hcap, rfl⟩, _, getPartnerAndCreatorSurplus_eq hfit, le_rfl, (Nat.sub_self _).symm⟩

/-- The protocol's share in the surplus never stops a claim.
Source: `state/virtual_pool.rs` `claim_protocol_quote_fee_and_surplus` -/
theorem claimProtocolQuoteFeeAndSurplus_eq (config : PoolConfig) (hmax : maxAmount < 2 ^ 64)
    (hreserve : p.quoteReserve < 2 ^ 64) :
    ∃ q, p.claimProtocolQuoteFeeAndSurplus maxAmount config =
      .ok (min p.protocolQuote maxAmount, q) := by
  obtain ⟨q, hq⟩ := claimProtocolQuoteFee_eq (p := p) hmax
  obtain ⟨_, _, _, _, _, hleft⟩ := claimProtocolQuoteFee_spec hq
  have hsame : q.quoteReserve = p.quoteReserve := by rw [hleft]
  simp only [PoolState.claimProtocolQuoteFeeAndSurplus, hq, ok_bind]
  split_ifs with hsurplus
  · have hcap : config.getMigrationQuoteAmountCap ≤ q.quoteReserve := by
      simpa [PoolState.hasRealQuoteSurplus] using hsurplus.2.2
    have hnone : PoolState.getProtocolSurplus { q with isProtocolWithdrawSurplus := 1 }
        config.getMigrationQuoteAmountCap = .ok 0 :=
      getProtocolSurplus_eq (hsame.trans_lt hreserve) hcap
    have hadd : safeAdd 64 (min p.protocolQuote maxAmount) 0 =
        .ok (min p.protocolQuote maxAmount) :=
      safeAdd_eq_ok.mpr ⟨by omega, rfl⟩
    simp only [hnone, hadd, ok_bind]
    exact ⟨_, rfl⟩
  · exact ⟨q, rfl⟩

/-- The protocol is paid its fees on the base token, up to its limit.
Source: `state/virtual_pool.rs` `claim_protocol_base_fee` and the transfer after it -/
theorem payProtocolBaseFee_eq (hmax : maxAmount < 2 ^ 64)
    (hbase : w.pool.protocolBase ≤ w.baseVault) :
    ∃ q, w.pool.claimProtocolBaseFee maxAmount = .ok (min w.pool.protocolBase maxAmount, q) ∧
      Deployment.payProtocolBaseFee w maxAmount = .ok { w with
        pool := q
        baseVault := w.baseVault - min w.pool.protocolBase maxAmount
        effects := Effect.positive .base .protocolFee (min w.pool.protocolBase maxAmount) ++
          w.effects } := by
  obtain ⟨q, hq⟩ := claimProtocolBaseFee_eq (p := w.pool) hmax
  refine ⟨q, hq, ?_⟩
  simp only [Deployment.payProtocolBaseFee, hq, ok_bind]
  exact payPositive_base_eq ((min_le_left _ _).trans hbase)

/-- The protocol is paid its fees on the quote token, up to its limit.
Source: `state/virtual_pool.rs` `claim_protocol_quote_fee_and_surplus` and the transfer after it -/
theorem payProtocolQuoteFee_eq (hmax : maxAmount < 2 ^ 64) (hreserve : w.pool.quoteReserve < 2 ^ 64)
    (hquote : w.pool.protocolQuote ≤ w.quoteVault) :
    ∃ q, w.pool.claimProtocolQuoteFeeAndSurplus maxAmount d.config =
        .ok (min w.pool.protocolQuote maxAmount, q) ∧
      d.payProtocolQuoteFee w maxAmount = .ok { w with
        pool := q
        quoteVault := w.quoteVault - min w.pool.protocolQuote maxAmount
        effects := Effect.positive .quote .protocolFee (min w.pool.protocolQuote maxAmount) ++
          w.effects } := by
  obtain ⟨q, hq⟩ := claimProtocolQuoteFeeAndSurplus_eq (p := w.pool) d.config hmax
    hreserve
  refine ⟨q, hq, ?_⟩
  simp only [Deployment.payProtocolQuoteFee, hq, ok_bind]
  exact payPositive_quote_eq ((min_le_left _ _).trans hquote)

/-- The second claim of the protocol's base pays what is due, up to its limit.
Source: `instructions/operator/ix_claim_protocol_fee2.rs` `handle_claim_protocol_fee2` -/
theorem claimProtocolFee2_base_pays (hmax : maxAmount < 2 ^ 64)
    (hbase : w.pool.protocolBase ≤ w.baseVault)
    (hover : d.isTransferHookPool = true →
      w.pool.isCurveComplete d.config.migrationQuoteThreshold = true) :
    PaysOut d w (.claimProtocolFee2 true maxAmount) .protocolFee (min w.pool.protocolBase maxAmount)
      0 := by
  obtain ⟨q, _, hpay⟩ := payProtocolBaseFee_eq hmax hbase
  refine ⟨(min_le_left _ _).trans hbase, Nat.zero_le _, q, ?_⟩
  simp only [Deployment.step, Deployment.claimProtocolFee2, if_true, bind_eq_ok, exists_unit]
  refine ⟨?_, hpay⟩
  split_ifs with hhook
  · exact require_eq_ok.mpr (hover hhook)
  · rfl

/-- The second claim of the protocol's quote pays what is due, up to its limit.
Source: `instructions/operator/ix_claim_protocol_fee2.rs` `handle_claim_protocol_fee2` -/
theorem claimProtocolFee2_quote_pays (hmax : maxAmount < 2 ^ 64)
    (hreserve : w.pool.quoteReserve < 2 ^ 64) (hquote : w.pool.protocolQuote ≤ w.quoteVault) :
    PaysOut d w (.claimProtocolFee2 false maxAmount) .protocolFee 0
      (min w.pool.protocolQuote maxAmount) := by
  obtain ⟨q, _, hpay⟩ := payProtocolQuoteFee_eq hmax hreserve hquote
  exact ⟨Nat.zero_le _, (min_le_left _ _).trans hquote, q, hpay⟩

/-- The first claim of the protocol's fees pays both tokens, each up to its limit.
Source: `instructions/operator/ix_claim_protocol_fee.rs` `handle_claim_protocol_fee` -/
theorem claimProtocolFee_pays (hmaxBase : maxBase < 2 ^ 64) (hmaxQuote : maxQuote < 2 ^ 64)
    (hreserve : w.pool.quoteReserve < 2 ^ 64) (hbase : w.pool.protocolBase ≤ w.baseVault)
    (hquote : w.pool.protocolQuote ≤ w.quoteVault) (hplain : d.isTransferHookPool = false) :
    PaysOut d w (.claimProtocolFee maxBase maxQuote) .protocolFee (min w.pool.protocolBase maxBase)
      (min w.pool.protocolQuote maxQuote) := by
  obtain ⟨q, hq, hpay⟩ := payProtocolBaseFee_eq hmaxBase hbase
  obtain ⟨_, _, _, _, _, hleft⟩ := claimProtocolBaseFee_spec hq
  have hreserve' : q.quoteReserve = w.pool.quoteReserve := by rw [hleft]
  have hquote' : q.protocolQuote = w.pool.protocolQuote := by
    rw [hleft]
    rfl
  -- what the first payment leaves is still enough for the second
  obtain ⟨q2, _, hpay2⟩ := payProtocolQuoteFee_eq (d := d) (w := { w with
      pool := q
      baseVault := w.baseVault - min w.pool.protocolBase maxBase
      effects := Effect.positive .base .protocolFee (min w.pool.protocolBase maxBase) ++
        w.effects }) hmaxQuote (hreserve'.trans_lt hreserve) (hquote'.trans_le hquote)
  simp only [hquote'] at hpay2
  refine ⟨(min_le_left _ _).trans hbase, (min_le_left _ _).trans hquote, q2, ?_⟩
  simp only [Deployment.step, Deployment.claimProtocolFee, Deployment.loadVirtualPool, bind_eq_ok,
    exists_unit, require_eq_ok]
  exact ⟨hplain, _, hpay, hpay2⟩

/-- The zap of the protocol's base pays what is due, up to its limit.
Source: `instructions/operator/ix_zap_protocol_fee.rs` `handle_zap_protocol_fee` -/
theorem zapProtocolFee_base_pays (hmax : maxAmount < 2 ^ 64)
    (hbase : w.pool.protocolBase ≤ w.baseVault) (hplain : d.isTransferHookPool = false)
    (hpos : 0 < min w.pool.protocolBase maxAmount) :
    PaysOut d w (.zapProtocolFee true maxAmount) .protocolFee (min w.pool.protocolBase maxAmount)
      0 := by
  obtain ⟨q, hq, hpay⟩ := payProtocolBaseFee_eq hmax hbase
  refine ⟨(min_le_left _ _).trans hbase, Nat.zero_le _, q, ?_⟩
  simp only [Deployment.payProtocolBaseFee, hq, ok_bind, World.payPositive, if_pos hpos] at hpay
  simp only [Deployment.step, Deployment.zapProtocolFee, Deployment.loadVirtualPool, if_true, hq,
    ok_bind, bind_eq_ok, exists_unit, require_eq_ok]
  exact ⟨hplain, hpos, hpay⟩

/-- The zap of the protocol's quote pays what is due, up to its limit.
Source: `instructions/operator/ix_zap_protocol_fee.rs` `handle_zap_protocol_fee` -/
theorem zapProtocolFee_quote_pays (hmax : maxAmount < 2 ^ 64)
    (hreserve : w.pool.quoteReserve < 2 ^ 64) (hquote : w.pool.protocolQuote ≤ w.quoteVault)
    (hplain : d.isTransferHookPool = false) (hpos : 0 < min w.pool.protocolQuote maxAmount) :
    PaysOut d w (.zapProtocolFee false maxAmount) .protocolFee 0
      (min w.pool.protocolQuote maxAmount) := by
  obtain ⟨q, hq, hpay⟩ := payProtocolQuoteFee_eq (d := d) hmax hreserve hquote
  refine ⟨Nat.zero_le _, (min_le_left _ _).trans hquote, q, ?_⟩
  simp only [Deployment.payProtocolQuoteFee, hq, ok_bind, World.payPositive, if_pos hpos] at hpay
  simp only [Deployment.step, Deployment.zapProtocolFee, Deployment.loadVirtualPool,
    Bool.false_eq_true, if_false, hq, ok_bind, bind_eq_ok, exists_unit, require_eq_ok]
  exact ⟨hplain, hpos, hpay⟩

/-- A hook pool only pays the protocol base after its sale.
Source: `instructions/operator/ix_claim_protocol_fee2.rs` `handle_claim_protocol_fee2`, the check
of `is_curve_complete` -/
theorem PaysOut.isCurveComplete
    (h : PaysOut d w (.claimProtocolFee2 true maxAmount) purpose base quote)
    (hhook : d.isTransferHookPool = true) :
    w.pool.isCurveComplete d.config.migrationQuoteThreshold = true := by
  obtain ⟨_, _, _, h⟩ := h
  simp only [Deployment.step, Deployment.claimProtocolFee2, if_true, if_pos hhook, bind_eq_ok,
    exists_unit, require_eq_ok] at h
  exact h.1

/-- The first claim of the protocol's fees is for pools without a hook only.
Source: `instructions/operator/ix_claim_protocol_fee.rs` `ClaimProtocolFeesCtx`, the type of the
pool -/
theorem PaysOut.notHook_of_claim
    (h : PaysOut d w (.claimProtocolFee maxBase maxQuote) purpose base quote) :
    d.isTransferHookPool = false := by
  obtain ⟨_, _, _, h⟩ := h
  simp only [Deployment.step, Deployment.claimProtocolFee, Deployment.loadVirtualPool, bind_eq_ok,
    exists_unit, require_eq_ok] at h
  exact h.1

/-- The zap of the protocol's fees is for pools without a hook only.
Source: `instructions/operator/ix_zap_protocol_fee.rs` `ZapProtocolFee`, the type of the pool -/
theorem PaysOut.notHook_of_zap {isBase : Bool}
    (h : PaysOut d w (.zapProtocolFee isBase maxAmount) purpose base quote) :
    d.isTransferHookPool = false := by
  obtain ⟨_, _, _, h⟩ := h
  simp only [Deployment.step, Deployment.zapProtocolFee, Deployment.loadVirtualPool, bind_eq_ok,
    exists_unit, require_eq_ok] at h
  exact h.1

/-- A zap pays something.
Source: `instructions/operator/ix_zap_protocol_fee.rs` `handle_zap_protocol_fee`, the check of
`amount` -/
theorem PaysOut.pos_of_zap_base (hmax : maxAmount < 2 ^ 64)
    (h : PaysOut d w (.zapProtocolFee true maxAmount) purpose base quote) :
    0 < min w.pool.protocolBase maxAmount := by
  obtain ⟨_, _, _, h⟩ := h
  obtain ⟨q, hq⟩ := claimProtocolBaseFee_eq (p := w.pool) hmax
  simp only [Deployment.step, Deployment.zapProtocolFee, if_true, hq, ok_bind, bind_eq_ok,
    exists_unit, require_eq_ok] at h
  exact h.2.1

/-- A zap pays something.
Source: `instructions/operator/ix_zap_protocol_fee.rs` `handle_zap_protocol_fee`, the check of
`amount` -/
theorem PaysOut.pos_of_zap_quote (hmax : maxAmount < 2 ^ 64)
    (hreserve : w.pool.quoteReserve < 2 ^ 64)
    (h : PaysOut d w (.zapProtocolFee false maxAmount) purpose base quote) :
    0 < min w.pool.protocolQuote maxAmount := by
  obtain ⟨_, _, _, h⟩ := h
  obtain ⟨q, hq⟩ := claimProtocolQuoteFeeAndSurplus_eq (p := w.pool) d.config hmax
    hreserve
  simp only [Deployment.step, Deployment.zapProtocolFee, Bool.false_eq_true, if_false, hq, ok_bind,
    bind_eq_ok, exists_unit, require_eq_ok] at h
  exact h.2.1

end Fees

/-- Every claim of fees pays the smaller of the fees and its limit. A claim is refused for two
reasons only: the instruction does not take pools with a transfer hook, or takes them after the
sale; or it wants to pay something.
Source: `instructions/partner/ix_claim_partner_trading_fee.rs`,
`instructions/creator/ix_claim_creator_trading_fee.rs`,
`instructions/operator/ix_claim_protocol_fee.rs`, `ix_claim_protocol_fee2.rs`,
`ix_zap_protocol_fee.rs` -/
structure FeesClaimable (d : Deployment) (w : World) (maxBase maxQuote : ℕ) : Prop where
  partner : PaysOut d w (.claimTradingFee d.config.feeClaimer maxBase maxQuote true)
    .partnerTradingFee (min w.pool.partnerBaseFee maxBase) (min w.pool.partnerQuoteFee maxQuote)
  creator : PaysOut d w (.claimCreatorTradingFee w.pool.creator maxBase maxQuote true)
    .creatorTradingFee (min w.pool.creatorBaseFee maxBase) (min w.pool.creatorQuoteFee maxQuote)
  protocolBase : PaysOut d w (.claimProtocolFee2 true maxBase) .protocolFee
      (min w.pool.protocolBase maxBase) 0 ↔
    (d.isTransferHookPool = true →
      w.pool.isCurveComplete d.config.migrationQuoteThreshold = true)
  protocolQuote : PaysOut d w (.claimProtocolFee2 false maxQuote) .protocolFee 0
    (min w.pool.protocolQuote maxQuote)
  protocolBoth : PaysOut d w (.claimProtocolFee maxBase maxQuote) .protocolFee
      (min w.pool.protocolBase maxBase) (min w.pool.protocolQuote maxQuote) ↔
    d.isTransferHookPool = false
  zapBase : PaysOut d w (.zapProtocolFee true maxBase) .protocolFee
      (min w.pool.protocolBase maxBase) 0 ↔
    d.isTransferHookPool = false ∧ 0 < min w.pool.protocolBase maxBase
  zapQuote : PaysOut d w (.zapProtocolFee false maxQuote) .protocolFee 0
      (min w.pool.protocolQuote maxQuote) ↔
    d.isTransferHookPool = false ∧ 0 < min w.pool.protocolQuote maxQuote

/-! ## Launched pools -/

namespace Launch

variable (l : Launch) (actions : List Action)

/-- **The base vault holds the fees on the base token after every run.**
Source: `instructions`, the transfers of base -/
theorem baseCovered : BaseCovered (l.after actions) := by
  by_cases hcreated : (l.after actions).pool.migrationProgress = .createdPool
  · have h : Lifecycle l.deployment (l.after actions) ∧
        ((l.after actions).pool.migrationProgress = .createdPool → BaseCovered (l.after actions)) :=
      invariant_of_transition (fun w => Lifecycle l.deployment w ∧
          (w.pool.migrationProgress = .createdPool → BaseCovered w))
        (fun _ _ _ hw hmove =>
          ⟨hw.1.of_transition hmove, fun hc => .of_transition hw.1 hw.2 hmove hc⟩)
        ⟨l.lifecycle_genesis, fun hc => by
          obtain ⟨_, _, hgenesis, _⟩ := l.genesis_eq
          rw [hgenesis] at hc
          cases hc⟩
    exact h.2 hcreated
  · -- the reserve still covers the vesting, which is all that may have left
    obtain ⟨locked, hlocked, hsupply, _⟩ := l.initialBaseSupply_ge
    have hbase := (l.backed actions).baseVault_eq (l.allotted actions) hcreated hlocked
    have hreserve := (l.onCurve actions).supply_le
    have hunsaved := ((l.backed actions).unsaved hcreated).1
    unfold BaseCovered
    rw [hunsaved]
    split_ifs at hbase <;> omega

/-- **The quote vault holds the fees on the quote token and every share that is open.**
Source: `instructions`, the instructions that pay out of the quote vault -/
theorem owed_le_quoteVault :
    (l.after actions).pool.partnerQuoteFee + (l.after actions).pool.creatorQuoteFee +
        (l.after actions).pool.protocolQuoteFee +
        (l.after actions).pool.protocolMigrationQuoteFeeAmount +
        ∑ s : QuoteShare, (if s.isOpen (l.after actions).pool then
          s.due l.config (l.after actions).pool.quoteReserve else 0) ≤
      (l.after actions).quoteVault := by
  have hw := l.solvent actions
  have hfit := sum_open_add_sum_paid_le hw.entitled (QuoteShare.sum_due_le l.percentages)
  rw [QuoteShare.sum_paid] at hfit
  have hbooks := hw.backed.quote
  change _ + ∑ s : QuoteShare, (if s.isOpen (l.after actions).pool then
    s.due l.deployment.config (l.after actions).pool.quoteReserve else 0) ≤ _
  omega

/-- The quote vault holds every share that is still open.
Source: `instructions`, the instructions that pay a share of the quote reserve -/
theorem share_le_quoteVault {s : QuoteShare} (hopen : s.isOpen (l.after actions).pool = true) :
    s.due l.config (l.after actions).pool.quoteReserve ≤ (l.after actions).quoteVault := by
  have howed := l.owed_le_quoteVault actions
  have hshare := Finset.single_le_sum (f := fun s : QuoteShare =>
    if s.isOpen (l.after actions).pool then
      s.due l.config (l.after actions).pool.quoteReserve else 0)
    (fun _ _ => Nat.zero_le _) (Finset.mem_univ s)
  simp only [hopen, if_true] at hshare
  omega

/-- The quote reserve fits its type.
Source: `state/virtual_pool.rs` `apply_swap_result_internal`, the addition to `quote_reserve` -/
theorem quoteReserve_lt : (l.after actions).pool.quoteReserve < 2 ^ 64 := by
  refine run_invariant (fun w : World => w.pool.quoteReserve < 2 ^ 64) (fun _ => True) ?_
    (fun _ _ => trivial) ?_
  · intro w a w' _ hw hstep
    exact quoteReserve_lt_of_step hw hstep
  · obtain ⟨_, _, hgenesis, _⟩ := l.genesis_eq
    rw [hgenesis]
    exact Nat.two_pow_pos 64

end Launch

end DynamicBondingCurve
