import DynamicBondingCurve.Instructions.SingleSwap
import DynamicBondingCurve.TradingView
import DynamicBondingCurve.BuyerTerms

/-!
# The first swap at the minimum fee

A configuration may let the first swap of a pool pay the minimum fee, so that whoever creates the
pool can buy in the same transaction without the fee that keeps others away. The swap asks the
runtime for the earlier instructions of its transaction.

* `Transaction.validateContainInitializePoolIxAndNoCpi`: the check of the program.
* `initializesPool_recognised`: **every instruction that creates the pool is recognised**.
* `Transaction.validateContainInitializePool_iff`: **the check passes exactly for a swap at the top
  level, after an instruction at the top level that creates its pool.**
* `Launch.isFirstSwap_iff`: a swap is the first one exactly when none has succeeded before.
* `Launch.eligible_iff`: **when a swap pays the minimum fee, in every run.**
-/

namespace DynamicBondingCurve

open Library

/-! ## Instructions that create a pool -/

/-- The accounts of the contexts that create a pool.
Source: `instructions/initialize_pool`, the fields of the three contexts -/
inductive InitializeAccount where
  | config
  | poolAuthority
  | creator
  | baseMint
  | quoteMint
  | pool
  | baseVault
  | quoteVault
  | mintMetadata
  | metadataProgram
  | transferHookProgram
  | payer
  | tokenQuoteProgram
  | tokenProgram
  | systemProgram
  deriving DecidableEq, Repr

/-- The accounts of the creation of a pool with the older token program, in order.
Source: `ix_initialize_virtual_pool_with_spl_token.rs` `InitializeVirtualPoolWithSplTokenCtx`, its
fields in order -/
def initializeWithSplTokenCtx : List InitializeAccount :=
  [.config, .poolAuthority, .creator, .baseMint, .quoteMint, .pool, .baseVault, .quoteVault,
    .mintMetadata, .metadataProgram, .payer, .tokenQuoteProgram, .tokenProgram, .systemProgram]

/-- The accounts of the creation of a pool with the newer token program, in order.
Source: `ix_initialize_virtual_pool_with_token2022.rs` `InitializeVirtualPoolWithToken2022Ctx`, its
fields in order -/
def initializeWithToken2022Ctx : List InitializeAccount :=
  [.config, .poolAuthority, .creator, .baseMint, .quoteMint, .pool, .baseVault, .quoteVault, .payer,
    .tokenQuoteProgram, .tokenProgram, .systemProgram]

/-- The accounts of the creation of a pool with a transfer hook, in order.
Source: `ix_initialize_virtual_pool_with_token2022_transfer_hook.rs`
`InitializeVirtualPoolWithToken2022TransferHookCtx`, its fields in order -/
def initializeWithToken2022TransferHookCtx : List InitializeAccount :=
  [.config, .poolAuthority, .creator, .baseMint, .quoteMint, .pool, .baseVault, .quoteVault,
    .transferHookProgram, .payer, .tokenQuoteProgram, .tokenProgram, .systemProgram]

/-- The instructions that create a pool.
Source: `lib.rs` `initialize_virtual_pool_with_spl_token`,
`initialize_virtual_pool_with_token2022`,
`initialize_virtual_pool_with_token2022_transfer_hook` -/
inductive InitializeInstruction where
  | splToken
  | token2022
  | token2022TransferHook
  deriving DecidableEq, Repr

namespace InitializeInstruction

/-- The first bytes of the data: the hash of the name.
Source: `process_swap.rs` `InitializeVirtualPoolWithSplToken::DISCRIMINATOR`,
`InitializeVirtualPoolWithToken2022::DISCRIMINATOR`,
`InitializeVirtualPoolWithToken2022TransferHook::DISCRIMINATOR` -/
def discriminator : InitializeInstruction → List ℕ
  | .splToken => [140, 85, 215, 176, 102, 54, 104, 79]
  | .token2022 => [169, 118, 51, 78, 145, 110, 220, 155]
  | .token2022TransferHook => [182, 13, 233, 177, 42, 145, 135, 2]

/-- The context of an instruction.
Source: `lib.rs`, the types of `ctx` -/
def ctx : InitializeInstruction → List InitializeAccount
  | .splToken => initializeWithSplTokenCtx
  | .token2022 => initializeWithToken2022Ctx
  | .token2022TransferHook => initializeWithToken2022TransferHookCtx

end InitializeInstruction

/-- An instruction of the program that creates a pool: the pool is where the context of its kind
has it.
Source: `lib.rs`, the dispatch of the three instructions -/
def Instruction.InitializesPool (instruction : Instruction) (pool : Pubkey) : Prop :=
  instruction.programId = ID ∧ ∃ kind : InitializeInstruction,
    instruction.data.take 8 = kind.discriminator ∧
      instruction.accounts[kind.ctx.idxOf .pool]? = some pool

/-! ## The check -/

/-- The place of the pool among the accounts of its creation.
Source: `instructions/swap/process_swap.rs` `VIRTUAL_POOL_ACCOUNT_INDEX` -/
def VIRTUAL_POOL_ACCOUNT_INDEX : ℕ := 5

/-- Whether an earlier instruction creates the pool. One with too few accounts is passed over.
Source: `instructions/swap/process_swap.rs` `validate_contain_initialize_pool_ix_and_no_cpi`, the
body of its loop -/
def isInstructionInitializePool (instruction : Instruction) (pool : Pubkey) : Result Bool :=
  if instruction.programId = ID then do
    assert (8 ≤ instruction.data.length)
    let disc := instruction.data.take 8
    if disc = InitializeInstruction.discriminator .splToken ∨
        disc = InitializeInstruction.discriminator .token2022 ∨
        disc = InitializeInstruction.discriminator .token2022TransferHook then
      match instruction.accounts[VIRTUAL_POOL_ACCOUNT_INDEX]? with
      | some account => pure (decide (account = pool))
      | none => pure false
    else pure false
  else pure false

/-- **Every instruction that creates the pool is recognised**, and no other: the pool has the same
place in the three contexts.
Source: `instructions/swap/process_swap.rs` `VIRTUAL_POOL_ACCOUNT_INDEX` -/
theorem initializesPool_recognised {instruction : Instruction} {pool : Pubkey}
    (hlong : instruction.programId = ID → 8 ≤ instruction.data.length) :
    ∃ found, isInstructionInitializePool instruction pool = .ok found ∧
      (found = true ↔ instruction.InitializesPool pool) := by
  have hplace : ∀ kind : InitializeInstruction,
      kind.ctx.idxOf .pool = VIRTUAL_POOL_ACCOUNT_INDEX := by
    intro kind
    cases kind <;> rfl
  unfold isInstructionInitializePool Instruction.InitializesPool
  by_cases hid : instruction.programId = ID
  · have hassert : assert (8 ≤ instruction.data.length) = .ok () := require_eq_ok.mpr (hlong hid)
    rw [if_pos hid, hassert, ok_bind]
    simp only [hplace]
    split_ifs with hkind
    · cases haccount : instruction.accounts[VIRTUAL_POOL_ACCOUNT_INDEX]? with
      | none => exact ⟨false, rfl, by simp⟩
      | some account =>
        refine ⟨decide (account = pool), rfl, ?_⟩
        rw [decide_eq_true_eq]
        constructor
        · rintro rfl
          refine ⟨hid, ?_⟩
          rcases hkind with h | h | h
          · exact ⟨_, h, rfl⟩
          · exact ⟨_, h, rfl⟩
          · exact ⟨_, h, rfl⟩
        · rintro ⟨_, _, _, hpool⟩
          exact Option.some.inj hpool
    · refine ⟨false, rfl, iff_of_false Bool.false_ne_true ?_⟩
      rintro ⟨_, kind, hdata, _⟩
      apply hkind
      cases kind with
      | splToken => exact .inl hdata
      | token2022 => exact .inr (.inl hdata)
      | token2022TransferHook => exact .inr (.inr hdata)
  · rw [if_neg hid]
    exact ⟨false, rfl, iff_of_false Bool.false_ne_true fun h => hid h.1⟩

namespace Transaction

variable (tx : Transaction)

/-- The loop over the earlier instructions.
Source: `instructions/swap/process_swap.rs` `validate_contain_initialize_pool_ix_and_no_cpi` -/
def findInitializePool (pool : Pubkey) : List ℕ → Result Unit
  | [] => fail .undeterminedError
  | index :: rest => do
      let instruction ← tx.loadInstructionAt index
      let found ← isInstructionInitializePool instruction pool
      if found then pure () else findInitializePool pool rest

/-- The check of a swap at `pos` that its transaction creates the pool before it.
Source: `instructions/swap/process_swap.rs` `validate_contain_initialize_pool_ix_and_no_cpi` -/
def validateContainInitializePoolIxAndNoCpi (pos : Position) (pool : Pubkey) (hasReferral : Bool)
    (hasInstructionsSysvar : Bool) : Result Unit := do
  ensure (hasReferral = false) .undeterminedError
  ensure (hasInstructionsSysvar = true) .undeterminedError
  let currentIndex := pos.top
  let currentInstruction ← tx.loadInstructionAt currentIndex
  ensure (currentInstruction.programId = ID) .undeterminedError
  tx.findInitializePool pool (List.range currentIndex)

/-- The pool is created at the top level, before the instruction of index `top`. -/
def InitializesBefore (top : ℕ) (pool : Pubkey) : Prop :=
  ∃ index < top, ∃ instruction, tx.at? ⟨index, []⟩ = some instruction ∧
    instruction.InitializesPool pool

/-- The instructions of the program that come before were told by their first bytes: one with less
data fails, and no instruction runs after a failure.
Source: the dispatch of the program by discriminators; the runtime -/
def DispatchedBefore (top : ℕ) : Prop :=
  ∀ index < top, ∀ instruction, tx.at? ⟨index, []⟩ = some instruction →
    instruction.programId = ID → 8 ≤ instruction.data.length

section Check

variable {tx : Transaction} {pos : Position} {pool : Pubkey} {hasReferral hasSysvar : Bool}

/-- The search finds a creation of the pool exactly when an instruction at one of the places is one.
Source: `instructions/swap/process_swap.rs` `validate_contain_initialize_pool_ix_and_no_cpi` -/
theorem findInitializePool_iff {indices : List ℕ}
    (hran : ∀ index ∈ indices, ∃ instruction, tx.at? ⟨index, []⟩ = some instruction ∧
      (instruction.programId = ID → 8 ≤ instruction.data.length)) :
    tx.findInitializePool pool indices = .ok () ↔ ∃ index ∈ indices, ∃ instruction,
      tx.at? ⟨index, []⟩ = some instruction ∧ instruction.InitializesPool pool := by
  induction indices with
  | nil =>
    refine iff_of_false (fun h => by cases h) ?_
    rintro ⟨_, hmem, _⟩
    exact absurd hmem List.not_mem_nil
  | cons index indices ih =>
    obtain ⟨instruction, hat, hlong⟩ := hran index List.mem_cons_self
    obtain ⟨found, hfound, hiff⟩ : ∃ found, isInstructionInitializePool instruction pool =
        .ok found ∧ (found = true ↔ instruction.InitializesPool pool) :=
      initializesPool_recognised hlong
    have hload : tx.loadInstructionAt index = .ok instruction := orThrow_eq_ok.mpr hat
    rw [findInitializePool, hload, ok_bind, hfound, ok_bind]
    cases found with
    | true =>
      refine iff_of_true rfl ?_
      exact ⟨index, List.mem_cons_self, instruction, hat, hiff.mp rfl⟩
    | false =>
      rw [if_neg Bool.false_ne_true, ih fun i hi => hran i (List.mem_cons_of_mem _ hi)]
      constructor
      · rintro ⟨i, hi, hcreates⟩
        exact ⟨i, List.mem_cons_of_mem _ hi, hcreates⟩
      · rintro ⟨i, hi, other, hother, hcreates⟩
        rcases List.mem_cons.mp hi with rfl | hi
        · obtain rfl : instruction = other := Option.some.inj (hat.symm.trans hother)
          exact absurd (hiff.mpr hcreates) Bool.false_ne_true
        · exact ⟨i, hi, other, hother, hcreates⟩

/-- What lies before an instruction of a transaction is there. -/
theorem exists_at_of_lt {index top : ℕ} {instruction : Instruction}
    (h : tx.at? ⟨top, []⟩ = some instruction) (hlt : index < top) :
    ∃ earlier, tx.at? ⟨index, []⟩ = some earlier := by
  unfold at? instructionAt at h ⊢
  simp only at h ⊢
  have htop : top < tx.instructions.length := by
    by_contra hcon
    rw [List.getElem?_eq_none (not_lt.mp hcon)] at h
    cases h
  rw [List.getElem?_eq_getElem (hlt.trans htop)]
  obtain ⟨earlier, _⟩ := tx.instructions[index]
  exact ⟨earlier, rfl⟩

/-- A swap is reached from a top-level instruction. -/
theorem SwapsPool.exists_root (h : tx.SwapsPool pos pool) :
    ∃ root, tx.at? ⟨pos.top, []⟩ = some root := by
  obtain ⟨instruction, hat, _⟩ := h
  unfold at? instructionAt at hat ⊢
  cases hroot : tx.instructions[pos.top]? with
  | none =>
    rw [hroot] at hat
    cases hat
  | some invocation =>
    obtain ⟨root, _⟩ := invocation
    exact ⟨root, rfl⟩

/-- **The check passes exactly for a swap at the top level after the creation of its pool**, without
a referral and with the sysvar of the instructions at hand.
Source: `instructions/swap/process_swap.rs` `validate_contain_initialize_pool_ix_and_no_cpi` -/
theorem validateContainInitializePool_iff (hswap : tx.SwapsPool pos pool)
    (hran : tx.DispatchedBefore pos.top) :
    tx.validateContainInitializePoolIxAndNoCpi pos pool hasReferral hasSysvar = .ok () ↔
      hasReferral = false ∧ hasSysvar = true ∧ pos.path = [] ∧
        tx.InitializesBefore pos.top pool := by
  obtain ⟨root, hroot⟩ := hswap.exists_root
  have hload : tx.loadInstructionAt pos.top = .ok root := orThrow_eq_ok.mpr hroot
  have hearlier : ∀ index ∈ List.range pos.top, ∃ instruction,
      tx.at? ⟨index, []⟩ = some instruction ∧
        (instruction.programId = ID → 8 ≤ instruction.data.length) := by
    intro index hindex
    have hlt := List.mem_range.mp hindex
    obtain ⟨instruction, hat⟩ := exists_at_of_lt hroot hlt
    exact ⟨instruction, hat, hran index hlt instruction hat⟩
  simp only [validateContainInitializePoolIxAndNoCpi, hload, ok_bind, bind_eq_ok, exists_unit,
    require_eq_ok, findInitializePool_iff hearlier, ← hswap.path_eq_nil_iff hroot,
    List.mem_range, InitializesBefore]

end Check

end Transaction

/-! ## Runs -/

section Steps

variable {d : Deployment} {w w' : World}

/-- After a swap the pool has had one.
Source: `state/virtual_pool.rs` `apply_swap_result_internal`, the write of `has_swap` -/
theorem hasSwap_of_processSwap {request : SwapRequest} {isVirtual : Bool}
    (h : d.processSwap w request isVirtual = .ok w') : w'.pool.hasSwap = 1 := by
  obtain ⟨x, mid, trade, completion⟩ := processSwap_spec h
  have hmid : mid.pool.hasSwap = 1 := by
    rw [trade.pool]
    rfl
  cases completion with
  | «open» => exact hmid
  | complete => exact hmid

/-- A swap sets the flag, and nothing else touches it.
Source: `state/virtual_pool.rs` `apply_swap_result_internal`, the write of `has_swap` -/
theorem hasSwap_of_step {a : Action} (h : d.step w a = .ok w') :
    (a.swap?.isSome = true → w'.pool.hasSwap = 1) ∧
      (a.swap?.isSome = false → w'.pool.hasSwap = w.pool.hasSwap) := by
  constructor
  · intro hswap
    obtain ⟨swap, hsome⟩ := Option.isSome_iff_exists.mp hswap
    exact hasSwap_of_processSwap ((step_swap_iff hsome).mp h).2
  · intro hno
    have hsame := trading_of_step (by simpa using hno) h
    exact congrArg TradingState.hasSwap hsame

end Steps

namespace Launch

variable (l : Launch) (actions : List Action)

/-- No swap of the run has succeeded. -/
def NoSwapYet : Prop :=
  ∀ earlier a later w', actions = earlier ++ a :: later → a.swap?.isSome = true →
    l.deployment.step (l.after earlier) a ≠ .ok w'

/-- **A swap is the first one exactly when none has succeeded before.**
Source: `state/virtual_pool.rs` `is_first_swap` -/
theorem isFirstSwap_iff : (l.after actions).pool.isFirstSwap = true ↔ l.NoSwapYet actions := by
  rw [PoolState.isFirstSwap, decide_eq_true_eq]
  constructor
  · intro hfirst earlier a later w' hactions hswap hstep
    -- the flag that the swap set is still set
    have hset : (run l.deployment.step w' later).pool.hasSwap = 1 := by
      refine run_invariant (fun w : World => w.pool.hasSwap = 1) (fun _ => True) ?_
        (fun _ _ => trivial) ((hasSwap_of_step hstep).1 hswap)
      intro w b t _ hw hb
      by_cases hagain : b.swap?.isSome = true
      · exact (hasSwap_of_step hb).1 hagain
      · exact ((hasSwap_of_step hb).2 (by simpa using hagain)).trans hw
    have hlast : l.after actions = run l.deployment.step w' later := by
      rw [hactions, l.after_append, run_cons]
      simp only [advance, hstep]
    rw [hlast, hset] at hfirst
    cases hfirst
  · intro hnone
    by_contra hset
    have hstart : ¬ l.genesis.pool.hasSwap ≠ 0 := by
      obtain ⟨_, _, hgenesis, _⟩ := l.genesis_eq
      rw [hgenesis]
      exact not_not.mpr rfl
    obtain ⟨earlier, a, later, t, hactions, hbefore, hstep, hafter⟩ :=
      exists_step_of_run (fun w : World => w.pool.hasSwap ≠ 0) hstart hset
    by_cases hswap : a.swap?.isSome = true
    · exact hnone earlier a later t hactions hswap hstep
    · rw [(hasSwap_of_step hstep).2 (by simpa using hswap)] at hafter
      exact hbefore hafter

/-- **When a swap pays the minimum fee.** In every run and every transaction a swap is let off with
the minimum fee exactly when the configuration allows it, no swap of the pool has succeeded before,
it names no referral, and it is at the top level of a transaction that creates the pool before it,
at the top level too.
Source: `instructions/swap/process_swap.rs` `process_swap`,
`eligible_for_first_swap_with_min_fee`; `validate_contain_initialize_pool_ix_and_no_cpi` -/
theorem eligible_iff {request : SwapRequest} {isVirtual : Bool} {c : SwapContext}
    {tx : Transaction} {pos : Position} {pool : Pubkey} {hasSysvar : Bool}
    (hvalid : l.deployment.validateSwap (l.after actions) request isVirtual = .ok c)
    (hswap : tx.SwapsPool pos pool) (hran : tx.DispatchedBefore pos.top)
    (hrequest : request.containsInitializePool = true ↔
      tx.validateContainInitializePoolIxAndNoCpi pos pool c.hasReferral hasSysvar = .ok ()) :
    c.eligible = true ↔ l.config.isFirstSwapWithMinFeeEnabled = true ∧ l.NoSwapYet actions ∧
      c.hasReferral = false ∧ hasSysvar = true ∧ pos.path = [] ∧
        tx.InitializesBefore pos.top pool := by
  have heligible : c.eligible = (l.config.isFirstSwapWithMinFeeEnabled &&
      (l.after actions).pool.isFirstSwap && !c.hasReferral && request.containsInitializePool) := by
    simp only [Deployment.validateSwap, bind_eq_ok, exists_unit, pure_eq_ok] at hvalid
    obtain ⟨_, _, _, _, _, _, _, _, _, rfl⟩ := hvalid
    rfl
  rw [heligible, Bool.and_eq_true, Bool.and_eq_true, Bool.and_eq_true, l.isFirstSwap_iff,
    Bool.not_eq_true', hrequest, Transaction.validateContainInitializePool_iff hswap hran]
  constructor
  · rintro ⟨⟨⟨henabled, hfirst⟩, hnone⟩, _, hsysvar, htop, hcreated⟩
    exact ⟨henabled, hfirst, hnone, hsysvar, htop, hcreated⟩
  · rintro ⟨henabled, hfirst, hnone, hsysvar, htop, hcreated⟩
    exact ⟨⟨⟨henabled, hfirst⟩, hnone⟩, hnone, hsysvar, htop, hcreated⟩

/-- The creation of the pool nine. -/
def creation : Instruction :=
  { programId := ID
    accounts := [1, 2, 3, 4, 5, 9]
    data := InitializeInstruction.discriminator .splToken }

/-- What the transaction with the creation and a swap of the pool nine holds. -/
theorem instructionAt_createdAndBought {top : ℕ} {path : List ℕ} {instruction : Instruction}
    (h : instructionAt [.mk creation [], .mk Transaction.wrappedSwap []] ⟨top, path⟩ =
      some instruction) : path = [] := by
  match top, path with
  | 0, [] => rfl
  | 1, [] => rfl
  | 0, _ :: _ => cases h
  | 1, _ :: _ => cases h
  | _ + 2, _ => cases h

/-- A transaction that creates the pool nine and buys on it. -/
def createdAndBought : Transaction where
  instructions := [.mk creation [], .mk Transaction.wrappedSwap []]
  noIndirectReentry := by
    intro top path path' k instruction caller ancestor hat
    exact absurd (instructionAt_createdAndBought hat) (by simp)
  accountsListed := by
    intro top path instruction root hat hroot
    obtain rfl := instructionAt_createdAndBought hat
    obtain rfl : instruction = root := Option.some.inj (hat.symm.trans hroot)
    exact fun _ h => h
  selfCallsAreEvents := by
    intro top path k instruction caller hat
    exact absurd (instructionAt_createdAndBought hat) (by simp)

/-- A launch of which the creator buys at the minimum fee. -/
def firstBuyLaunch : Launch :=
  (ofParameters { plainParameters (2 ^ 64) 1000000 [{ sqrtPrice := 2 ^ 65, liquidity := 2 ^ 90 }]
      with enableFirstSwapWithMinFee := true } false .splToken 100).get (by decide +kernel)

/-- Its creator's buy, without a referral, in the transaction that creates the pool. -/
def firstBuy : SwapRequest :=
  { buyOf 0 100000 0 with
    hasReferralAccount := false
    containsInitializePool := true }

/-- The creator's buy pays the minimum fee. -/
theorem eligible_iff_firstBuyLaunch : ∃ c,
    firstBuyLaunch.deployment.validateSwap (firstBuyLaunch.after []) firstBuy false = .ok c ∧
      (c.eligible = true ↔ firstBuyLaunch.config.isFirstSwapWithMinFeeEnabled = true ∧
        firstBuyLaunch.NoSwapYet [] ∧ c.hasReferral = false ∧ true = true ∧
          (⟨1, []⟩ : Position).path = [] ∧ createdAndBought.InitializesBefore 1 9) := by
  have hswap : createdAndBought.SwapsPool ⟨1, []⟩ 9 :=
    ⟨Transaction.wrappedSwap, rfl, rfl, .swap2, rfl, rfl⟩
  have hran : createdAndBought.DispatchedBefore 1 := by
    intro index hindex instruction hat _
    obtain rfl : index = 0 := by omega
    obtain rfl : creation = instruction := Option.some.inj hat
    decide
  rcases hok : firstBuyLaunch.deployment.validateSwap (firstBuyLaunch.after []) firstBuy false
    with e | c
  · have hisOk : (firstBuyLaunch.deployment.validateSwap (firstBuyLaunch.after []) firstBuy
        false).isOk = true := by decide +kernel
    rw [hok] at hisOk
    cases hisOk
  · refine ⟨c, rfl, firstBuyLaunch.eligible_iff [] hok hswap hran (iff_of_true rfl ?_)⟩
    have hnone : c.hasReferral = false := (validateSwap_spec hok).2.1
    rw [hnone]
    decide

end Launch

end DynamicBondingCurve
