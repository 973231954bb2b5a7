import DynamicBondingCurve.Instructions.Swap

/-!
# The other instructions of a transaction

A transaction is a list of top-level instructions, each with the calls it made. A swap under a rate
limiter asks the runtime for the other instructions of its transaction.

* `Transaction`: the tree of a transaction, with what the runtime guarantees about it.
* `Transaction.validateSingleSwapInstruction`: the check of the program.
* `swapsPool_recognised`: **every swap of a pool is recognised**, whichever of the four
  instructions makes it.
* `Transaction.SwapsPool.not_called_by_program`: no swap is called by the program itself.
* `Transaction.at_most_one_swap`: **at most one swap of a pool passes the check**, in every order
  and at every depth.
-/

namespace DynamicBondingCurve

open Library

/-! ## Instructions and their accounts -/

/-- An instruction, as the runtime shows it.
Source: `Instruction` of the runtime -/
structure Instruction where
  programId : Pubkey
  accounts : List Pubkey
  data : List ℕ
  deriving DecidableEq, Repr

/-- The accounts of the contexts of a swap.
Source: `instructions/swap/ix_swap.rs` `SwapCtx`;
`instructions/swap/ix_swap2_with_transfer_hook.rs` `SwapWithTransferHookCtx` -/
inductive SwapAccount where
  | poolAuthority
  | config
  | pool
  | inputTokenAccount
  | outputTokenAccount
  | baseVault
  | quoteVault
  | baseMint
  | quoteMint
  | payer
  | tokenBaseProgram
  | tokenQuoteProgram
  | referralTokenAccount
  deriving DecidableEq, Repr

/-- The accounts of a swap, in order.
Source: `instructions/swap/ix_swap.rs` `SwapCtx`, its fields in order -/
def swapCtx : List SwapAccount :=
  [.poolAuthority, .config, .pool, .inputTokenAccount, .outputTokenAccount, .baseVault, .quoteVault,
    .baseMint, .quoteMint, .payer, .tokenBaseProgram, .tokenQuoteProgram, .referralTokenAccount]

/-- The accounts of a swap with a transfer hook, in order.
Source: `instructions/swap/ix_swap2_with_transfer_hook.rs` `SwapWithTransferHookCtx`, its fields in
order -/
def swapWithTransferHookCtx : List SwapAccount :=
  [.poolAuthority, .config, .pool, .inputTokenAccount, .outputTokenAccount, .baseVault, .quoteVault,
    .baseMint, .quoteMint, .payer, .tokenBaseProgram, .tokenQuoteProgram, .referralTokenAccount]

/-- The instructions that swap.
Source: `lib.rs` `swap`, `swap2`, `swap2_with_transfer_hook`, `virtual_swap2` -/
inductive SwapInstruction where
  | swap
  | swap2
  | swap2WithTransferHook
  | virtualSwap2
  deriving DecidableEq, Repr

namespace SwapInstruction

/-- The first bytes of the data, by which an instruction is told: the hash of its name.
Source: `process_swap.rs` `SwapInstruction::DISCRIMINATOR`, `Swap2Instruction::DISCRIMINATOR`,
`Swap2WithTransferHookInstruction::DISCRIMINATOR`, `VirtualSwap2Instruction::DISCRIMINATOR` -/
def discriminator : SwapInstruction → List ℕ
  | .swap => [248, 198, 158, 145, 225, 117, 135, 200]
  | .swap2 => [65, 75, 63, 76, 235, 91, 91, 136]
  | .swap2WithTransferHook => [183, 93, 153, 40, 24, 230, 194, 151]
  | .virtualSwap2 => [227, 189, 120, 105, 163, 220, 191, 84]

/-- The context of an instruction.
Source: `lib.rs`, the types of `ctx` -/
def ctx : SwapInstruction → List SwapAccount
  | .swap => swapCtx
  | .swap2 => swapCtx
  | .swap2WithTransferHook => swapWithTransferHookCtx
  | .virtualSwap2 => swapCtx

end SwapInstruction

/-- The first bytes of the data of an event, which the program sends to itself.
Source: `emit_cpi!`, its `EVENT_IX_TAG` -/
def EVENT_IX_TAG : List ℕ := [228, 69, 165, 46, 81, 203, 154, 29]

/-- A swap is not an event.
Source: `lib.rs`; `emit_cpi!` -/
theorem SwapInstruction.discriminator_ne_event (kind : SwapInstruction) :
    kind.discriminator ≠ EVENT_IX_TAG := by
  cases kind <;> decide

/-- An instruction of the program that swaps on a pool: its pool account is where the context of
its kind has it.
Source: `lib.rs`, the dispatch of the four instructions -/
def Instruction.SwapsPool (instruction : Instruction) (pool : Pubkey) : Prop :=
  instruction.programId = ID ∧ ∃ kind : SwapInstruction,
    instruction.data.take 8 = kind.discriminator ∧
      instruction.accounts[kind.ctx.idxOf .pool]? = some pool

/-- Whether an instruction of the program swaps on the pool.
Source: `instructions/swap/process_swap.rs` `is_instruction_include_pool_swap` -/
def isInstructionIncludePoolSwap (instruction : Instruction) (pool : Pubkey) : Result Bool := do
  assert (8 ≤ instruction.data.length)
  let instructionDiscriminator := instruction.data.take 8
  if instructionDiscriminator = SwapInstruction.discriminator .swap ∨
      instructionDiscriminator = SwapInstruction.discriminator .swap2 ∨
      instructionDiscriminator = SwapInstruction.discriminator .swap2WithTransferHook ∨
      instructionDiscriminator = SwapInstruction.discriminator .virtualSwap2 then do
    let account ← orThrow instruction.accounts[2]? Fault.panic
    pure (decide (account = pool))
  else pure false

/-- **Every swap of a pool is recognised**: the pool has the same place in both contexts.
Source: `instructions/swap/process_swap.rs` `is_instruction_include_pool_swap` -/
theorem swapsPool_recognised {instruction : Instruction} {pool : Pubkey}
    (h : instruction.SwapsPool pool) :
    isInstructionIncludePoolSwap instruction pool = .ok true := by
  obtain ⟨_, kind, hdata, hpool⟩ := h
  have hplace : kind.ctx.idxOf .pool = 2 := by cases kind <;> rfl
  have hlength : kind.discriminator.length = 8 := by cases kind <;> rfl
  rw [hplace] at hpool
  have hlong : 8 ≤ instruction.data.length := by
    have hmin := congrArg List.length hdata
    rw [List.length_take, hlength] at hmin
    omega
  have hkind : kind.discriminator = SwapInstruction.discriminator .swap ∨
      kind.discriminator = SwapInstruction.discriminator .swap2 ∨
      kind.discriminator = SwapInstruction.discriminator .swap2WithTransferHook ∨
      kind.discriminator = SwapInstruction.discriminator .virtualSwap2 := by
    cases kind <;> decide
  unfold isInstructionIncludePoolSwap
  rw [bind_eq_ok]
  refine ⟨(), require_eq_ok.mpr hlong, ?_⟩
  simp only [hdata, if_pos hkind, hpool]
  rw [bind_eq_ok]
  exact ⟨pool, rfl, by rw [pure_eq_ok, decide_eq_true_eq]⟩

/-! ## Transactions -/

/-- An instruction with the calls it made, in order.
Source: the runtime, cross-program invocations -/
inductive Invocation where
  | mk (instruction : Instruction) (calls : List Invocation)

/-- The instruction reached from an invocation by following calls. -/
def Invocation.instructionAt : List ℕ → Invocation → Option Instruction
  | [], .mk instruction _ => some instruction
  | k :: path, .mk _ calls =>
      match calls[k]? with
      | some call => call.instructionAt path
      | none => none

/-- A place in a transaction: the index of a top-level instruction and the calls to follow from
it. -/
structure Position where
  top : ℕ
  path : List ℕ
  deriving DecidableEq, Repr

/-- The height of the stack: one at the top level.
Source: `get_stack_height` of the runtime -/
def Position.stackHeight (pos : Position) : ℕ := pos.path.length + 1

/-- The instruction at a place of a list of top-level invocations. -/
def instructionAt (top : List Invocation) (pos : Position) : Option Instruction :=
  match top[pos.top]? with
  | some invocation => invocation.instructionAt pos.path
  | none => none

/-- A transaction that the runtime executes.
Source: the runtime; `emit_cpi!`, the only call that the program makes to itself -/
structure Transaction where
  instructions : List Invocation
  /-- A program on the stack is called again by itself only. -/
  noIndirectReentry : ∀ top path path' k instruction caller ancestor,
    instructionAt instructions ⟨top, path ++ [k]⟩ = some instruction →
    instructionAt instructions ⟨top, path⟩ = some caller → path' <+: path →
    instructionAt instructions ⟨top, path'⟩ = some ancestor →
    ancestor.programId = instruction.programId → caller.programId = instruction.programId
  /-- The accounts of a call are listed by its top-level instruction. -/
  accountsListed : ∀ top path instruction root,
    instructionAt instructions ⟨top, path⟩ = some instruction →
    instructionAt instructions ⟨top, []⟩ = some root → instruction.accounts ⊆ root.accounts
  /-- What the program sends to itself are events. -/
  selfCallsAreEvents : ∀ top path k instruction caller,
    instructionAt instructions ⟨top, path ++ [k]⟩ = some instruction →
    instructionAt instructions ⟨top, path⟩ = some caller → caller.programId = ID →
    instruction.programId = ID → instruction.data.take 8 = EVENT_IX_TAG

/-- What is reached through calls has a caller. -/
theorem Invocation.exists_caller {k : ℕ} : ∀ {path : List ℕ} {invocation : Invocation}
    {instruction : Instruction},
      invocation.instructionAt (path ++ [k]) = some instruction →
        ∃ caller, invocation.instructionAt path = some caller
  | [], .mk caller _, _, _ => ⟨caller, rfl⟩
  | j :: path, .mk _ calls, instruction, h => by
      simp only [List.cons_append, Invocation.instructionAt] at h ⊢
      cases hcall : calls[j]? with
      | none => rw [hcall] at h; cases h
      | some call =>
        rw [hcall] at h
        exact Invocation.exists_caller h

namespace Transaction

variable (tx : Transaction)

/-- The instruction at a place of a transaction. -/
def at? (pos : Position) : Option Instruction := instructionAt tx.instructions pos

/-- The instruction at the top level of a transaction, by its place.
Source: `load_instruction_at_checked` of the runtime -/
def loadInstructionAt (index : ℕ) : Result Instruction :=
  orThrow (tx.at? ⟨index, []⟩) Fault.account

/-- The earlier calls of the same caller, the latest first.
Source: `get_processed_sibling_instruction` of the runtime, at each index -/
def processedSiblings (pos : Position) : List Instruction :=
  match pos.path.getLast? with
  | some k => (List.range k).reverse.filterMap fun j => tx.at? ⟨pos.top, pos.path.dropLast ++ [j]⟩
  | none => (List.range pos.top).reverse.filterMap fun j => tx.at? ⟨j, []⟩

/-- The check on an earlier call of the same caller.
Source: `instructions/swap/process_swap.rs` `validate_single_swap_instruction`, the loop over the
siblings -/
def checkSibling (pool : Pubkey) (sibling : Instruction) : Result Unit :=
  if sibling.programId = ID then do
    let isSwap ← isInstructionIncludePoolSwap sibling pool
    ensure (isSwap = false) .failToValidateSingleSwapInstruction
  else pure ()

/-- The check on an earlier top-level instruction; one of another program may not list the pool.
Source: `instructions/swap/process_swap.rs` `validate_single_swap_instruction`, the loop over the
earlier instructions -/
def checkEarlier (pool : Pubkey) (index : ℕ) : Result Unit := do
  let instruction ← tx.loadInstructionAt index
  if instruction.programId ≠ ID then
    ensure (pool ∉ instruction.accounts) .failToValidateSingleSwapInstruction
  else do
    let isSwap ← isInstructionIncludePoolSwap instruction pool
    ensure (isSwap = false) .failToValidateSingleSwapInstruction

/-- The check of a swap at `pos` on the other instructions of its transaction.
Source: `instructions/swap/process_swap.rs` `validate_single_swap_instruction` -/
def validateSingleSwapInstruction (pos : Position) (pool : Pubkey)
    (hasInstructionsSysvar : Bool) : Result Unit := do
  ensure (hasInstructionsSysvar = true) .failToValidateSingleSwapInstruction
  let currentIndex := pos.top
  let currentInstruction ← tx.loadInstructionAt currentIndex
  (if currentInstruction.programId ≠ ID then do
    ensure (¬ pos.stackHeight > 2) .failToValidateSingleSwapInstruction
    checkEach (checkSibling pool) (tx.processedSiblings pos)
  else pure ())
  if currentIndex = 0 then pure ()
  else checkEach (tx.checkEarlier pool) (List.range currentIndex)

/-- A swap of a pool happens at a place of a transaction. -/
def SwapsPool (pos : Position) (pool : Pubkey) : Prop :=
  ∃ instruction, tx.at? pos = some instruction ∧ instruction.SwapsPool pool

/-! ## Where a swap can be -/

section Swaps

variable {tx : Transaction} {pos : Position} {pool : Pubkey}

/-- What is reached through calls has a caller. -/
theorem exists_caller {top k : ℕ} {path : List ℕ} {instruction : Instruction}
    (h : tx.at? ⟨top, path ++ [k]⟩ = some instruction) :
    ∃ caller, tx.at? ⟨top, path⟩ = some caller := by
  unfold at? instructionAt at h ⊢
  simp only at h ⊢
  cases hroot : tx.instructions[top]? with
  | none => rw [hroot] at h; cases h
  | some invocation =>
    rw [hroot] at h
    exact Invocation.exists_caller h

/-- **No swap is called by the program**, at whatever distance.
Source: the runtime, no indirect re-entrancy; `emit_cpi!` -/
theorem SwapsPool.not_called_by_program {top k : ℕ} {path path' : List ℕ} {ancestor : Instruction}
    (h : tx.SwapsPool ⟨top, path ++ [k]⟩ pool) (habove : path' <+: path)
    (hancestor : tx.at? ⟨top, path'⟩ = some ancestor) : ancestor.programId ≠ ID := by
  obtain ⟨instruction, hat, hid, kind, hdata, _⟩ := h
  intro hsame
  obtain ⟨caller, hcaller⟩ := exists_caller hat
  have hself : caller.programId = instruction.programId :=
    tx.noIndirectReentry top path path' k instruction caller ancestor hat hcaller habove hancestor
      (hsame.trans hid.symm)
  have hevent := tx.selfCallsAreEvents top path k instruction caller hat hcaller
    (hself.trans hid) hid
  rw [hdata] at hevent
  exact kind.discriminator_ne_event hevent

/-- A swap that another program calls is not called at the top level. -/
theorem SwapsPool.path_eq_nil_iff {root : Instruction} (h : tx.SwapsPool pos pool)
    (hroot : tx.at? ⟨pos.top, []⟩ = some root) : pos.path = [] ↔ root.programId = ID := by
  obtain ⟨top, path⟩ := pos
  constructor
  · rintro rfl
    obtain ⟨instruction, hat, hid, _⟩ := h
    have hsame : instruction = root := Option.some.inj (hat.symm.trans hroot)
    rw [← hsame]
    exact hid
  · intro hid
    by_contra hne
    have hne' : path ≠ [] := hne
    rw [← List.dropLast_append_getLast hne'] at h
    exact h.not_called_by_program List.nil_prefix hroot hid

/-- The pool of a swap is listed by its top-level instruction.
Source: the runtime; `instructions/swap/ix_swap.rs` `SwapCtx` -/
theorem SwapsPool.pool_mem {root : Instruction} (h : tx.SwapsPool pos pool)
    (hroot : tx.at? ⟨pos.top, []⟩ = some root) : pool ∈ root.accounts := by
  obtain ⟨instruction, hat, _, kind, _, hpool⟩ := h
  exact tx.accountsListed pos.top pos.path instruction root hat hroot
    (List.mem_of_getElem? hpool)

end Swaps

/-! ## What a swap that passes excludes -/

section Passes

variable {tx : Transaction} {pos : Position} {pool : Pubkey} {hasSysvar : Bool}

/-- What the check establishes.
Source: `instructions/swap/process_swap.rs` `validate_single_swap_instruction` -/
theorem validateSingleSwapInstruction_spec
    (h : tx.validateSingleSwapInstruction pos pool hasSysvar = .ok ()) :
    (∃ root, tx.at? ⟨pos.top, []⟩ = some root ∧
      (root.programId ≠ ID → pos.stackHeight ≤ 2 ∧
        ∀ sibling ∈ tx.processedSiblings pos, checkSibling pool sibling = .ok ())) ∧
      ∀ index < pos.top, tx.checkEarlier pool index = .ok () := by
  simp only [validateSingleSwapInstruction, loadInstructionAt, bind_eq_ok, exists_unit,
    require_eq_ok, orThrow_eq_ok] at h
  obtain ⟨_, root, hroot, hcalled, hearlier⟩ := h
  refine ⟨⟨root, hroot, fun hne => ?_⟩, fun index hindex => ?_⟩
  · rw [if_pos hne] at hcalled
    simp only [bind_eq_ok, exists_unit, require_eq_ok, checkEach_eq_ok] at hcalled
    exact ⟨not_lt.mp hcalled.1, hcalled.2⟩
  · rw [if_neg (by omega), checkEach_eq_ok] at hearlier
    exact hearlier index (List.mem_range.mpr hindex)

/-- An earlier call of the same caller that passes its check is not a swap of the pool.
Source: `instructions/swap/process_swap.rs` `validate_single_swap_instruction`, the loop over the
siblings -/
theorem checkSibling_ne_swap {sibling : Instruction} (h : sibling.SwapsPool pool) :
    checkSibling pool sibling ≠ .ok () := by
  intro hpass
  rw [checkSibling, if_pos h.1, bind_eq_ok] at hpass
  obtain ⟨isSwap, hisSwap, hpass⟩ := hpass
  rw [swapsPool_recognised h] at hisSwap
  cases hisSwap
  rw [require_eq_ok] at hpass
  exact absurd hpass (by decide)

/-- An earlier top-level instruction that passes its check holds no swap of the pool.
Source: `instructions/swap/process_swap.rs` `validate_single_swap_instruction`, the loop over the
earlier instructions -/
theorem checkEarlier_ne_swap (h : tx.SwapsPool pos pool) :
    tx.checkEarlier pool pos.top ≠ .ok () := by
  intro hpass
  simp only [checkEarlier, loadInstructionAt, bind_eq_ok, orThrow_eq_ok] at hpass
  obtain ⟨root, hroot, hpass⟩ := hpass
  split_ifs at hpass with hid
  · rw [require_eq_ok] at hpass
    exact hpass (h.pool_mem hroot)
  · -- the instruction is the swap itself
    have hnil := (h.path_eq_nil_iff hroot).mpr (not_not.mp hid)
    obtain ⟨instruction, hat, hswap⟩ := h
    obtain ⟨top, path⟩ := pos
    simp only at hnil
    subst hnil
    have hsame : instruction = root := Option.some.inj (hat.symm.trans hroot)
    rw [hsame] at hswap
    rw [swapsPool_recognised hswap] at hpass
    simp only [bind_eq_ok, require_eq_ok, Except.ok.injEq] at hpass
    obtain ⟨isSwap, rfl, hfalse⟩ := hpass
    exact absurd hfalse (by decide)

/-- A swap that passes lies in no later top-level instruction than another swap.
Source: `instructions/swap/process_swap.rs` `validate_single_swap_instruction` -/
theorem top_le_of_passes {other : Position} (hother : tx.SwapsPool other pool)
    (h : tx.validateSingleSwapInstruction pos pool hasSysvar = .ok ()) : pos.top ≤ other.top := by
  by_contra hcon
  exact checkEarlier_ne_swap hother
    ((validateSingleSwapInstruction_spec h).2 other.top (not_le.mp hcon))

/-- A swap that passes and is called by another program is called by the top-level instruction, and
no earlier call of it is a swap of the pool.
Source: `instructions/swap/process_swap.rs` `validate_single_swap_instruction` -/
theorem path_of_passes {root : Instruction} (hswap : tx.SwapsPool pos pool)
    (hroot : tx.at? ⟨pos.top, []⟩ = some root) (hid : root.programId ≠ ID)
    (h : tx.validateSingleSwapInstruction pos pool hasSysvar = .ok ()) :
    ∃ k, pos.path = [k] ∧ ∀ j < k, ¬ tx.SwapsPool ⟨pos.top, [j]⟩ pool := by
  obtain ⟨⟨root', hroot', hcalled⟩, _⟩ := validateSingleSwapInstruction_spec h
  have hsame : root = root' := Option.some.inj (hroot.symm.trans hroot')
  obtain ⟨hheight, hsiblings⟩ := hcalled (hsame ▸ hid)
  have hne : pos.path ≠ [] := fun hnil => hid ((hswap.path_eq_nil_iff hroot).mp hnil)
  obtain ⟨top, path⟩ := pos
  simp only [Position.stackHeight] at hheight hne
  obtain ⟨k, rfl⟩ : ∃ k, path = [k] := by
    apply List.length_eq_one_iff.mp
    have := List.length_pos_iff.mpr hne
    omega
  refine ⟨k, rfl, fun j hj hearlier => ?_⟩
  obtain ⟨sibling, hat, hsibling⟩ := hearlier
  apply checkSibling_ne_swap hsibling
  apply hsiblings
  simp only [processedSiblings, List.getLast?_singleton, List.dropLast_singleton, List.nil_append,
    List.mem_filterMap, List.mem_reverse, List.mem_range]
  exact ⟨j, hj, hat⟩

end Passes

/-- **At most one swap of a pool passes the check**: two swaps of a pool that pass it, whichever of
the four instructions makes them and however they are nested, are one.
Source: `instructions/swap/process_swap.rs` `validate_single_swap_instruction` -/
theorem at_most_one_swap (tx : Transaction) (pool : Pubkey) (first second : Position)
    (hasSysvar hasSysvar' : Bool) (hfirst : tx.SwapsPool first pool)
    (hsecond : tx.SwapsPool second pool)
    (hpass : tx.validateSingleSwapInstruction first pool hasSysvar = .ok ())
    (hpass' : tx.validateSingleSwapInstruction second pool hasSysvar' = .ok ()) :
    first = second := by
  have htop : first.top = second.top :=
    le_antisymm (top_le_of_passes hsecond hpass) (top_le_of_passes hfirst hpass')
  obtain ⟨top, path⟩ := first
  obtain ⟨top', path'⟩ := second
  simp only at htop
  subst htop
  obtain ⟨⟨root, hroot, _⟩, _⟩ := validateSingleSwapInstruction_spec hpass
  by_cases hid : root.programId = ID
  · -- both are the top-level instruction
    have hnil : path = [] := (hfirst.path_eq_nil_iff hroot).mpr hid
    have hnil' : path' = [] := (hsecond.path_eq_nil_iff hroot).mpr hid
    rw [hnil, hnil']
  · -- both are called by the top-level instruction, and neither before the other
    obtain ⟨k, hk, hbefore⟩ := path_of_passes hfirst hroot hid hpass
    obtain ⟨k', hk', hbefore'⟩ := path_of_passes hsecond hroot hid hpass'
    simp only at hk hk'
    subst hk hk'
    have hle : k ≤ k' := not_lt.mp fun hlt => hbefore k' hlt hsecond
    have hle' : k' ≤ k := not_lt.mp fun hlt => hbefore' k hlt hfirst
    rw [le_antisymm hle hle']

/-! ## Under a rate limiter -/

/-- A swap that a rate limiter applies to passes only if the check of the other instructions does.
Source: `instructions/swap/process_swap.rs` `process_swap`, the block on `rate_limiter` -/
theorem passes_of_validateRateLimiter {tx : Transaction} {d : Deployment} {w : World}
    {request : SwapRequest} {pos : Position} {pool : Pubkey} {hasSysvar : Bool} {point : ℕ}
    {limiter : FeeRateLimiter}
    (hrequest : request.isSingleSwap = true ↔
      tx.validateSingleSwapInstruction pos pool hasSysvar = .ok ())
    (hlimiter : d.config.poolFees.baseFee.getFeeRateLimiter = .ok limiter)
    (happlied : limiter.isRateLimiterApplied point w.pool.activationPoint .quoteToBase = .ok true)
    (h : d.validateRateLimiter w request .quoteToBase point = .ok ()) :
    tx.validateSingleSwapInstruction pos pool hasSysvar = .ok () := by
  apply hrequest.mp
  rw [Deployment.validateRateLimiter, hlimiter] at h
  simp only [happlied, bind_eq_ok, Except.ok.injEq] at h
  obtain ⟨applied, rfl, h⟩ := h
  exact require_eq_ok.mp h

/-! ## Two swaps in one wrapper -/

/-- A swap on the pool nine. -/
def wrappedSwap : Instruction :=
  { programId := ID
    accounts := [1, 2, 9]
    data := SwapInstruction.discriminator .swap2 }

/-- An instruction of another program that lists the accounts of the swap. -/
def wrapper : Instruction :=
  { programId := 7
    accounts := [1, 2, 9]
    data := [] }

/-- What the wrapper with two swaps holds. -/
theorem instructionAt_wrapped {top : ℕ} {path : List ℕ} {instruction : Instruction}
    (h : instructionAt [.mk wrapper [.mk wrappedSwap [], .mk wrappedSwap []]] ⟨top, path⟩ =
      some instruction) :
    (path = [] ∧ instruction = wrapper) ∨
      ((path = [0] ∨ path = [1]) ∧ instruction = wrappedSwap) := by
  match top, path with
  | 0, [] => exact .inl ⟨rfl, (Option.some.inj h).symm⟩
  | 0, [0] => exact .inr ⟨.inl rfl, (Option.some.inj h).symm⟩
  | 0, [1] => exact .inr ⟨.inr rfl, (Option.some.inj h).symm⟩
  | 0, 0 :: _ :: _ => cases h
  | 0, 1 :: _ :: _ => cases h
  | 0, (_ + 2) :: _ => cases h
  | _ + 1, _ => cases h

/-- A transaction in which another program swaps twice on one pool. -/
def wrappedTwice : Transaction where
  instructions := [.mk wrapper [.mk wrappedSwap [], .mk wrappedSwap []]]
  noIndirectReentry := by
    intro top path path' k instruction caller ancestor hat hcaller habove hancestor hsame
    rcases instructionAt_wrapped hat with ⟨hnil, _⟩ | ⟨hone, rfl⟩
    · exact absurd hnil (by simp)
    · obtain rfl : path = [] := by
        rcases hone with h | h <;> exact (List.append_eq_singleton_iff.mp h).elim And.left
          fun h => by simp at h
      obtain rfl := List.prefix_nil.mp habove
      rcases instructionAt_wrapped hancestor with ⟨_, rfl⟩ | ⟨h | h, _⟩
      · exact absurd hsame (by decide)
      · cases h
      · cases h
  accountsListed := by
    intro top path instruction root hat hroot
    rcases instructionAt_wrapped hroot with ⟨_, rfl⟩ | ⟨h | h, _⟩
    · rcases instructionAt_wrapped hat with ⟨_, rfl⟩ | ⟨_, rfl⟩ <;> exact fun _ h => h
    · cases h
    · cases h
  selfCallsAreEvents := by
    intro top path k instruction caller hat hcaller hcallerId hid
    rcases instructionAt_wrapped hcaller with ⟨_, rfl⟩ | ⟨hone, rfl⟩
    · exact absurd hcallerId (by decide)
    · rcases instructionAt_wrapped hat with ⟨hnil, _⟩ | ⟨hone', _⟩
      · exact absurd hnil (by simp)
      · rcases hone with rfl | rfl <;> rcases hone' with h | h <;> simp at h

/-- The first of the two swaps passes the check. -/
theorem at_most_one_swap_wrappedTwice : (⟨0, [0]⟩ : Position) = ⟨0, [0]⟩ :=
  at_most_one_swap wrappedTwice 9 ⟨0, [0]⟩ ⟨0, [0]⟩ true true
    ⟨wrappedSwap, rfl, rfl, .swap2, rfl, rfl⟩ ⟨wrappedSwap, rfl, rfl, .swap2, rfl, rfl⟩ (by decide)
    (by decide)

/-- The second of the two swaps does not. -/
example : wrappedTwice.validateSingleSwapInstruction ⟨0, [1]⟩ 9 true =
    fail .failToValidateSingleSwapInstruction := by decide

end Transaction

end DynamicBondingCurve
