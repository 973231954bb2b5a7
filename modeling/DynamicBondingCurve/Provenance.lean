import DynamicBondingCurve.Library.Views
import DynamicBondingCurve.Claimable

/-!
# Who is paid

Every payment out of a vault is made by one instruction, and an instruction that pays a party is
signed by that party: the fee claimer of the configuration, or whoever is the creator of the pool
at that moment.

* `MayPay`: the instructions that may pay for a purpose, with their signers.
* `step_paid`: an instruction pays for nothing else.
* `Launch.payments_signed`: **every single payment of a run was made by an instruction that its
  receiver signed**, and a creator was named by the creator before.
-/

namespace DynamicBondingCurve

open Library

/-! ## Instructions and what they pay for -/

/-- The instruction may pay for the purpose: it is the one for it, and the party that is paid has
signed it.
Source: `lib.rs`, `access_control.rs` `is_partner_fee_claimer`, `is_pool_creator`;
`instructions/migration/ix_withdraw_migration_fee.rs` `handle_withdraw_migration_fee` -/
def MayPay (d : Deployment) (w : World) (a : Action) : Purpose → Prop
  | .swapInput | .swapOutput | .referralFee => a.IsSwap
  | .partnerTradingFee => ∃ maxBase maxQuote hasAccounts,
      a = .claimTradingFee d.config.feeClaimer maxBase maxQuote hasAccounts
  | .creatorTradingFee => ∃ maxBase maxQuote hasAccounts,
      a = .claimCreatorTradingFee w.pool.creator maxBase maxQuote hasAccounts
  | .protocolFee => a.IsProtocolClaim
  | .partnerSurplus => a = .partnerWithdrawSurplus d.config.feeClaimer
  | .creatorSurplus => a = .creatorWithdrawSurplus w.pool.creator
  | .partnerMigrationFee => a = .withdrawMigrationFee d.config.feeClaimer 0
  | .creatorMigrationFee => a = .withdrawMigrationFee w.pool.creator 1
  | .lockedVesting => ∃ isAccepted, a = .createLocker isAccepted
  | .migration | .burn => a.IsMigration
  | .leftover => a = .withdrawLeftover

/-- New effects, and what the payments among them are for. -/
def PaysOnlyFor (P : Purpose → Prop) (w w' : World) : Prop :=
  ∃ es : List Effect, w'.effects = es ++ w.effects ∧
    ∀ token purpose amount, .paid token purpose amount ∈ es → P purpose

section Steps

variable {d : Deployment} {w w' v : World} {P : Purpose → Prop} {token : Token}
  {purpose : Purpose} {amount : ℕ}

/-- Without new effects nothing is paid. -/
theorem PaysOnlyFor.refl (h : w'.effects = w.effects) : PaysOnlyFor P w w' :=
  ⟨[], h, fun _ _ _ hmem => absurd hmem List.not_mem_nil⟩

/-- Two moves in a row pay for what each of them pays for. -/
theorem PaysOnlyFor.trans (h : PaysOnlyFor P w v) (h' : PaysOnlyFor P v w') :
    PaysOnlyFor P w w' := by
  obtain ⟨es, hes, hall⟩ := h
  obtain ⟨fs, hfs, hall'⟩ := h'
  refine ⟨fs ++ es, by rw [hfs, hes, List.append_assoc], ?_⟩
  intro token purpose amount hmem
  rcases List.mem_append.mp hmem with hin | hin
  · exact hall' _ _ _ hin
  · exact hall _ _ _ hin

/-- A payment is for its purpose.
Source: `utils/token.rs` `transfer_token_from_pool_authority` -/
theorem paysOnlyFor_paid (purpose : Purpose) (hallowed : P purpose)
    (h : w'.effects = .paid token purpose amount :: w.effects) : PaysOnlyFor P w w' := by
  refine ⟨[.paid token purpose amount], h, ?_⟩
  intro t u n hmem
  rw [List.mem_singleton, Effect.paid.injEq] at hmem
  rw [hmem.2.1]
  exact hallowed

/-- A payment that is made where there is something to pay is for its purpose.
Source: `utils/token.rs` `transfer_token_from_pool_authority` -/
theorem purpose_of_mem_positive {t : Token} {u : Purpose} {n : ℕ}
    (h : .paid t u n ∈ Effect.positive token purpose amount) : u = purpose := by
  unfold Effect.positive at h
  split_ifs at h
  · rw [List.mem_singleton, Effect.paid.injEq] at h
    exact h.2.1
  · exact absurd h List.not_mem_nil

/-- Payments of both tokens are for their purpose, where there is something to pay.
Source: `utils/token.rs` `transfer_token_from_pool_authority` -/
theorem paysOnlyFor_positive (purpose : Purpose) {base quote : ℕ} (hallowed : P purpose)
    (h : w'.effects = Effect.positive .quote purpose quote ++
      (Effect.positive .base purpose base ++ w.effects)) : PaysOnlyFor P w w' := by
  refine ⟨Effect.positive .quote purpose quote ++ Effect.positive .base purpose base, ?_, ?_⟩
  · rw [h, List.append_assoc]
  · intro t u n hmem
    rcases List.mem_append.mp hmem with hquote | hbase
    · rw [purpose_of_mem_positive hquote]
      exact hallowed
    · rw [purpose_of_mem_positive hbase]
      exact hallowed

/-- A swap pays for its own purposes.
Source: `instructions/swap/process_swap.rs` `process_swap` -/
theorem trade_paid {isVirtual : Bool} {x : Trade} {mid : World}
    (trade : TradeMove d isVirtual x w mid) (completion : Completion d mid w') :
    PaysOnlyFor Purpose.IsSwap w w' := by
  obtain ⟨es, hes, heffects⟩ := trade.effects
  refine PaysOnlyFor.trans ⟨es, heffects, fun _ _ _ hmem => hes _ hmem⟩ ?_
  cases completion with
  | «open» => exact .refl rfl
  | complete =>
    refine ⟨_, List.append_cons _ _ _, ?_⟩
    intro t u n hmem
    split_ifs at hmem <;> simp at hmem

/-- Recording the time of the end pays nothing.
Source: `create_locker.rs` `handle_create_locker`, the write of `finish_curve_timestamp` -/
theorem not_paid_of_finishEffects {isAfterDeadline : Bool} {u : World} :
    .paid token purpose amount ∉ finishEffects u isAfterDeadline := by
  unfold finishEffects
  split_ifs <;> simp

/-- The locker pays the vesting only.
Source: `create_locker.rs` `handle_create_locker` -/
theorem locker_paid (move : LockerMove d amount w w') :
    PaysOnlyFor (fun u => u = .lockedVesting) w w' := by
  rw [move.eq]
  refine ⟨.escrowCreated _ _ :: .paid .base .lockedVesting amount ::
    finishEffects w (d.canCreateLockerAfterDeadline w), rfl, ?_⟩
  intro t u n hmem
  simp only [List.mem_cons, reduceCtorEq, false_or, Effect.paid.injEq] at hmem
  rcases hmem with ⟨_, hu, _⟩ | hfinish
  · exact hu
  · exact absurd hfinish not_paid_of_finishEffects

/-- A migration pays the deposit and burns, and nothing else.
Source: `migrate_damm_v2_initialize_pool.rs` `handle_migrate_damm_v2`;
`migrate_meteora_damm_initialize_pool.rs` `handle_migrate_meteora_damm` -/
theorem migration_paid {m : MigrationData} (move : MigrationMove d m w w') :
    PaysOnlyFor (fun u => u = .migration ∨ u = .burn) w w' := by
  rw [move.eq]
  refine ⟨Effect.positive .base .burn m.burnt ++
      (.poolCreated m.protocolBaseFee m.protocolQuoteFee ::
        .paid .quote .migration m.taken.quote :: .paid .base .migration m.taken.base ::
          finishEffects w (d.canMigrateAfterDeadline w)), by simp, ?_⟩
  intro t u n hmem
  simp only [List.mem_append, List.mem_cons, reduceCtorEq, false_or, Effect.paid.injEq] at hmem
  rcases hmem with hburn | ⟨_, hu, _⟩ | ⟨_, hu, _⟩ | hfinish
  · exact .inr (purpose_of_mem_positive hburn)
  · exact .inl hu
  · exact .inl hu
  · exact absurd hfinish not_paid_of_finishEffects

/-- More purposes may be allowed. -/
theorem PaysOnlyFor.mono {Q : Purpose → Prop} (h : PaysOnlyFor P w w')
    (hmore : ∀ u, P u → Q u) : PaysOnlyFor Q w w' := by
  obtain ⟨es, hes, hall⟩ := h
  exact ⟨es, hes, fun t u n hmem => hmore u (hall t u n hmem)⟩

/-- A swap instruction may pay for the purposes of a swap. -/
theorem mayPay_of_isSwap {a : Action} (ha : a.IsSwap) (u : Purpose) (hu : u.IsSwap) :
    MayPay d w a u := by
  rcases hu with rfl | rfl | rfl <;> exact ha

/-- **An instruction only pays for what it is for**, and only with the signature of the party that
is paid.
Source: `lib.rs`, the dispatch of the instructions and their access control -/
theorem step_paid {a : Action} (h : d.step w a = .ok w') : PaysOnlyFor (MayPay d w a) w w' := by
  cases step_transition h with
  | trading move =>
    cases move with
    | pass slots seconds => exact .refl rfl
    | swap trade completion isSwap =>
      exact (trade_paid trade completion).mono (mayPay_of_isSwap isSwap)
    | claimPartner => exact paysOnlyFor_positive .partnerTradingFee ⟨_, _, _, rfl⟩ rfl
    | claimCreator => exact paysOnlyFor_positive .creatorTradingFee ⟨_, _, _, rfl⟩ rfl
    | claimProtocol _ _ _ _ _ _ _ isClaim =>
      exact paysOnlyFor_positive .protocolFee isClaim rfl
    | transferCreator creator => exact .refl rfl
  | locker move =>
    refine (locker_paid move).mono ?_
    rintro u rfl
    exact ⟨_, rfl⟩
  | migration move isMigration =>
    refine (migration_paid move).mono ?_
    rintro u (rfl | rfl) <;> exact isMigration
  | partnerSurplus => exact paysOnlyFor_paid .partnerSurplus rfl rfl
  | creatorSurplus => exact paysOnlyFor_paid .creatorSurplus rfl rfl
  | partnerMigrationFee => exact paysOnlyFor_paid .partnerMigrationFee rfl rfl
  | creatorMigrationFee => exact paysOnlyFor_paid .creatorMigrationFee rfl rfl
  | leftover => exact paysOnlyFor_paid .leftover rfl rfl

/-- An instruction only adds effects. -/
theorem effects_suffix_of_step {a : Action} (h : d.step w a = .ok w') :
    w.effects <:+ w'.effects := by
  obtain ⟨es, hes, _⟩ := step_paid h
  exact ⟨es, hes.symm⟩

/-- A new payment is one that the instruction may make. -/
theorem mayPay_of_new {a : Action} {front between : List Effect} (h : d.step w a = .ok w')
    (hnew : w'.effects = front ++ .paid token purpose amount :: (between ++ w.effects)) :
    MayPay d w a purpose := by
  obtain ⟨es, hes, hmay⟩ := step_paid h
  have hsame : es ++ w.effects =
      (front ++ .paid token purpose amount :: between) ++ w.effects := by
    rw [← hes, hnew, List.append_assoc, List.cons_append]
  refine hmay token purpose amount ?_
  rw [List.append_cancel_right hsame]
  exact List.mem_append_right _ List.mem_cons_self

end Steps

/-! ## Runs -/

namespace Launch

variable (l : Launch) (actions : List Action)

/-- The payment that stands on top of the older effects was made in a step of the run, by an
instruction that may pay for its purpose. -/
def MadeInStep (token : Token) (purpose : Purpose) (amount : ℕ) (older : List Effect) : Prop :=
  ∃ earlier a later w' front between, actions = earlier ++ a :: later ∧
    l.deployment.step (l.after earlier) a = .ok w' ∧
    w'.effects = front ++ .paid token purpose amount :: older ∧
    older = between ++ (l.after earlier).effects ∧
    MayPay l.deployment (l.after earlier) a purpose

/-- Every payment of a run is made in one of its steps.
Source: `lib.rs`, the dispatch of the instructions and their access control -/
theorem madeInStep {newer older : List Effect} {token : Token} {purpose : Purpose} {amount : ℕ}
    (h : (l.after actions).effects = newer ++ .paid token purpose amount :: older) :
    l.MadeInStep actions token purpose amount older := by
  have hstart : l.genesis.effects = [] := by
    obtain ⟨_, _, hgenesis, _⟩ := l.genesis_eq
    rw [hgenesis]
    rfl
  obtain ⟨earlier, a, later, w', front, between, hactions, hstep, hnew, holder⟩ :=
    exists_step_of_entry World.effects (fun _ _ _ => effects_suffix_of_step) hstart h
  refine ⟨earlier, a, later, w', front, between, hactions, hstep, hnew, holder, ?_⟩
  rw [holder] at hnew
  exact mayPay_of_new hstep hnew

/-- The creator was named in a step of the run, by the creator of that moment.
Source: `instructions/creator/ix_transfer_pool_creator.rs` `handle_transfer_pool_creator` -/
def NamedInStep (creator : Pubkey) : Prop :=
  ∃ earlier isHandedOut later w', actions =
      earlier ++ .transferPoolCreator (l.after earlier).pool.creator creator isHandedOut :: later ∧
    l.deployment.step (l.after earlier)
      (.transferPoolCreator (l.after earlier).pool.creator creator isHandedOut) = .ok w'

/-- A creator that the pool did not begin with was named by the creator before.
Source: `instructions/creator/ix_transfer_pool_creator.rs` `handle_transfer_pool_creator` -/
theorem namedInStep (hother : (l.after actions).pool.creator ≠ l.request.creator) :
    l.NamedInStep actions (l.after actions).pool.creator := by
  have hstart : ¬ l.genesis.pool.creator = (l.after actions).pool.creator := by
    obtain ⟨_, _, hgenesis, _⟩ := l.genesis_eq
    rw [hgenesis]
    exact hother.symm
  obtain ⟨earlier, a, later, w', hactions, hbefore, hstep, hafter⟩ :=
    exists_step_of_run (fun w : World => w.pool.creator = (l.after actions).pool.creator) hstart
      rfl
  change ¬ (l.after earlier).pool.creator = _ at hbefore
  change l.deployment.step (l.after earlier) a = .ok w' at hstep
  rcases (step_transition hstep).creator with hsame | ⟨isHandedOut, rfl⟩
  · exact absurd (hsame.symm.trans hafter) hbefore
  · rw [hafter] at hactions hstep
    exact ⟨earlier, isHandedOut, later, w', hactions, hstep⟩

/-- **Nobody is paid without a signature of its own.** After every run, every single payment was
made in a step of the run, by the instruction for its purpose and with the signature of the party
that it pays; and whoever is the creator was so from the beginning or was named by the creator
before.
Source: `lib.rs`, the dispatch of the instructions and their access control; `access_control.rs`
`is_partner_fee_claimer`, `is_pool_creator` -/
theorem payments_signed :
    (∀ newer older token purpose amount,
      (l.after actions).effects = newer ++ .paid token purpose amount :: older →
        l.MadeInStep actions token purpose amount older) ∧
    ((l.after actions).pool.creator = l.request.creator ∨
      l.NamedInStep actions (l.after actions).pool.creator) := by
  refine ⟨fun newer older token purpose amount h => l.madeInStep actions h, ?_⟩
  by_cases hsame : (l.after actions).pool.creator = l.request.creator
  · exact .inl hsame
  · exact .inr (l.namedInStep actions hsame)

end Launch

end DynamicBondingCurve
