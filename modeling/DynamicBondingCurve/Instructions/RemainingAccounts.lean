import DynamicBondingCurve.State.Config
import DynamicBondingCurve.Library.Slices

/-!
# The accounts after the named ones

A transfer hook needs accounts that no instruction names. They come after the named ones, all in one
list, with slices that say how many are for which transfer; a swap may have the sysvar of the
instructions before them. Each transfer that is made is then given the accounts of its slice.

* `parseTransferHookAccounts`: the loop over the slices.
* `parseTransferHookAccounts_iff`: **it accepts exactly the lists that a layout is made of**, and
  gives its pieces back.
* `swapAccounts_iff`: **the lists that a swap accepts**, and the piece of each transfer that it
  makes out of the base vault.
* `claimAccounts_iff`: the lists that a claim accepts; one that pays base hands them all to its one
  transfer of it.
-/

namespace DynamicBondingCurve

open Library

/-! ## Slices -/

/-- The transfers that accounts may be for.
Source: `utils/remaining_accounts.rs` `AccountsType` -/
inductive AccountsType where
  | transferHookBase
  | transferHookBaseReferral
  deriving DecidableEq, Repr

/-- How many of the accounts are for which transfer.
Source: `utils/remaining_accounts.rs` `RemainingAccountsSlice` -/
structure RemainingAccountsSlice where
  accountsType : AccountsType
  length : ℕ
  deriving DecidableEq, Repr

/-- The accounts of the transfers, each transfer with a field of its own.
Source: `utils/remaining_accounts.rs` `ParsedRemainingAccounts` -/
structure ParsedRemainingAccounts where
  transferHookBase : Option (List Pubkey)
  transferHookBaseReferral : Option (List Pubkey)
  deriving DecidableEq, Repr

namespace ParsedRemainingAccounts

/-- No field is filled.
Source: `utils/remaining_accounts.rs` `ParsedRemainingAccounts::default` -/
def empty : ParsedRemainingAccounts := ⟨none, none⟩

variable (p : ParsedRemainingAccounts)

/-- The field of a type.
Source: `utils/remaining_accounts.rs` `parse_transfer_hook_accounts`, the match on
`accounts_type` -/
def slot : AccountsType → Option (List Pubkey)
  | .transferHookBase => p.transferHookBase
  | .transferHookBaseReferral => p.transferHookBaseReferral

/-- The field of a type is given its accounts.
Source: `utils/remaining_accounts.rs` `parse_transfer_hook_accounts`, the assignments in the match
on `accounts_type` -/
def fill (accounts : List Pubkey) : AccountsType → ParsedRemainingAccounts
  | .transferHookBase => { p with transferHookBase := some accounts }
  | .transferHookBaseReferral => { p with transferHookBaseReferral := some accounts }

variable {p}

/-- At the start no field has accounts. -/
@[simp] theorem slot_empty (t : AccountsType) : empty.slot t = none := by
  cases t <;> rfl

/-- The field that was filled has its accounts. -/
@[simp] theorem slot_fill_self (accounts : List Pubkey) (t : AccountsType) :
    (p.fill accounts t).slot t = some accounts := by
  cases t <;> rfl

/-- The other fields stay as they are. -/
theorem slot_fill_of_ne (accounts : List Pubkey) {t u : AccountsType} (h : u ≠ t) :
    (p.fill accounts t).slot u = p.slot u := by
  cases t with
  | transferHookBase =>
    cases u with
    | transferHookBase => exact absurd rfl h
    | transferHookBaseReferral => rfl
  | transferHookBaseReferral =>
    cases u with
    | transferHookBase => rfl
    | transferHookBaseReferral => exact absurd rfl h

/-- The fields say everything. -/
theorem ext_slot {q : ParsedRemainingAccounts} (h : ∀ t, p.slot t = q.slot t) : p = q := by
  obtain ⟨base, referral⟩ := p
  obtain ⟨base', referral'⟩ := q
  have hbase : base = base' := h .transferHookBase
  have hreferral : referral = referral' := h .transferHookBaseReferral
  rw [hbase, hreferral]

end ParsedRemainingAccounts

/-- One turn of the loop: the fields so far and the accounts that are left.
Source: `utils/remaining_accounts.rs` `parse_transfer_hook_accounts`, the body of the loop -/
def takeSlice (validAccountsTypeList : List AccountsType)
    (state : ParsedRemainingAccounts × List Pubkey) (slice : RemainingAccountsSlice) :
    Result (ParsedRemainingAccounts × List Pubkey) := do
  let (parsed, remainingAccounts) := state
  ensure (slice.accountsType ∈ validAccountsTypeList) .invalidRemainingAccountSliceType
  if slice.length = 0 then pure (parsed, remainingAccounts)
  else do
    ensure (remainingAccounts.length ≥ slice.length) .invalidRemainingAccountsLength
    let accounts := remainingAccounts.take slice.length
    let remainingAccounts := remainingAccounts.drop slice.length
    ensure (parsed.slot slice.accountsType).isNone .duplicatedRemainingAccountTypes
    pure (parsed.fill accounts slice.accountsType, remainingAccounts)

/-- The fields, and the accounts that are left over.
Source: `utils/remaining_accounts.rs` `parse_transfer_hook_accounts` -/
def parseTransferHookAccounts (remainingAccounts : List Pubkey)
    (slices : List RemainingAccountsSlice) (validAccountsTypeList : List AccountsType) :
    Result (ParsedRemainingAccounts × List Pubkey) :=
  slices.foldlM (takeSlice validAccountsTypeList) (.empty, remainingAccounts)

/-! ## What is accepted -/

/-- The sizes that the slices stand for.
Source: `utils/remaining_accounts.rs` `RemainingAccountsSlice` -/
def sliceSizes (slices : List RemainingAccountsSlice) : List (AccountsType × ℕ) :=
  slices.map fun slice => (slice.accountsType, slice.length)

section Parsing

variable {valid : List AccountsType} {parsed : ParsedRemainingAccounts}
  {state : ParsedRemainingAccounts × List Pubkey} {remaining rest : List Pubkey}

/-- An empty slice takes nothing, and need only be of a valid type.
Source: `utils/remaining_accounts.rs` `parse_transfer_hook_accounts`, the body of the loop -/
theorem takeSlice_empty {t : AccountsType} :
    takeSlice valid (parsed, remaining) ⟨t, 0⟩ = .ok state ↔
      t ∈ valid ∧ state = (parsed, remaining) := by
  simp only [takeSlice, bind_eq_ok, exists_unit, require_eq_ok, if_pos, pure_eq_ok]
  exact and_congr_right fun _ => eq_comm

/-- A slice that is not empty takes its accounts off the front, for a field that has none yet.
Source: `utils/remaining_accounts.rs` `parse_transfer_hook_accounts`, the body of the loop -/
theorem takeSlice_succ {t : AccountsType} {n : ℕ} :
    takeSlice valid (parsed, remaining) ⟨t, n + 1⟩ = .ok state ↔
      t ∈ valid ∧ parsed.slot t = none ∧ ∃ accounts, accounts.length = n + 1 ∧
        remaining = accounts ++ state.2 ∧ state.1 = parsed.fill accounts t := by
  simp only [takeSlice, bind_eq_ok, exists_unit, require_eq_ok, Nat.succ_ne_zero, if_false,
    pure_eq_ok, Option.isNone_iff_eq_none]
  constructor
  · rintro ⟨hvalid, hlength, hfree, rfl⟩
    refine ⟨hvalid, hfree, remaining.take (n + 1), ?_, ?_, rfl⟩
    · rw [List.length_take, min_eq_left hlength]
    · exact (List.take_append_drop _ _).symm
  · rintro ⟨hvalid, hfree, accounts, hlength, rfl, hstate⟩
    refine ⟨hvalid, ?_, hfree, ?_⟩
    · rw [List.length_append]
      omega
    · rw [List.take_left' hlength, List.drop_left' hlength, ← hstate]

/-- What the loop accepts from where it stands: the fields that the rest of the layout names are
still free, and none is named twice.
Source: `utils/remaining_accounts.rs` `parse_transfer_hook_accounts`, the loop -/
structure Readable (valid : List AccountsType) (parsed : ParsedRemainingAccounts)
    (layout : Layout AccountsType Pubkey) : Prop where
  valid : ∀ piece ∈ layout, piece.1 ∈ valid
  nodup : layout.named.Nodup
  free : ∀ t ∈ layout.named, parsed.slot t = none

/-- An empty piece is read whatever the fields are.
Source: `utils/remaining_accounts.rs` `parse_transfer_hook_accounts`, `continue` -/
theorem readable_cons_nil {t : AccountsType} {layout : Layout AccountsType Pubkey} :
    Readable valid parsed ((t, []) :: layout) ↔ t ∈ valid ∧ Readable valid parsed layout := by
  constructor
  · rintro ⟨hvalid, hnodup, hfree⟩
    exact ⟨hvalid _ List.mem_cons_self, fun p hp => hvalid p (List.mem_cons_of_mem _ hp), hnodup,
      hfree⟩
  · rintro ⟨ht, hvalid, hnodup, hfree⟩
    refine ⟨?_, hnodup, hfree⟩
    intro piece hpiece
    rcases List.mem_cons.mp hpiece with rfl | hin
    · exact ht
    · exact hvalid piece hin

/-- A piece with accounts is read if its field is empty, and fills it.
Source: `utils/remaining_accounts.rs` `parse_transfer_hook_accounts`, the check of `is_none` -/
theorem readable_cons_cons {t : AccountsType} {a : Pubkey} {as : List Pubkey}
    {layout : Layout AccountsType Pubkey} :
    Readable valid parsed ((t, a :: as) :: layout) ↔
      t ∈ valid ∧ parsed.slot t = none ∧ Readable valid (parsed.fill (a :: as) t) layout := by
  constructor
  · rintro ⟨hvalid, hnodup, hfree⟩
    obtain ⟨hnew, hnodup⟩ := List.nodup_cons.mp hnodup
    refine ⟨hvalid _ List.mem_cons_self, hfree t List.mem_cons_self,
      fun p hp => hvalid p (List.mem_cons_of_mem _ hp), hnodup, ?_⟩
    intro u hu
    have hother : u ≠ t := by
      rintro rfl
      exact hnew hu
    rw [ParsedRemainingAccounts.slot_fill_of_ne _ hother]
    exact hfree u (List.mem_cons_of_mem _ hu)
  · rintro ⟨ht, hslot, hvalid, hnodup, hfree⟩
    have hother : ∀ u ∈ layout.named, u ≠ t := by
      rintro u hu rfl
      have hnone := hfree u hu
      rw [ParsedRemainingAccounts.slot_fill_self] at hnone
      cases hnone
    refine ⟨?_, List.nodup_cons.mpr ⟨fun hin => hother t hin rfl, hnodup⟩, ?_⟩
    · intro piece hpiece
      rcases List.mem_cons.mp hpiece with rfl | hin
      · exact ht
      · exact hvalid piece hin
    · intro u hu
      rcases List.mem_cons.mp hu with rfl | hin
      · exact hslot
      · rw [← hfree u hin, ParsedRemainingAccounts.slot_fill_of_ne _ (hother u hin)]

/-- **The loop takes the pieces of a layout off the front.**
Source: `utils/remaining_accounts.rs` `parse_transfer_hook_accounts`, the loop -/
theorem takeSlices_iff {slices : List RemainingAccountsSlice} :
    slices.foldlM (takeSlice valid) (parsed, remaining) = .ok state ↔
      ∃ layout : Layout AccountsType Pubkey, layout.sizes = sliceSizes slices ∧
        remaining = layout.items ++ state.2 ∧ Readable valid parsed layout ∧
        ∀ t, state.1.slot t = (parsed.slot t).or (layout.piece t) := by
  induction slices generalizing parsed remaining with
  | nil =>
    simp only [List.foldlM_nil, pure_eq_ok]
    constructor
    · rintro rfl
      refine ⟨[], rfl, rfl, ⟨fun _ h => absurd h List.not_mem_nil, List.nodup_nil,
        fun _ h => absurd h List.not_mem_nil⟩, ?_⟩
      intro t
      exact Option.or_none.symm
    · rintro ⟨layout, hsizes, hitems, _, hslot⟩
      obtain rfl : layout = [] := List.map_eq_nil_iff.mp hsizes
      have hsame : state.1 = parsed := by
        refine ParsedRemainingAccounts.ext_slot fun t => ?_
        rw [hslot t, Layout.piece, Option.or_none]
      rw [hitems, ← hsame]
      rfl
  | cons slice slices ih =>
    obtain ⟨t, _ | n⟩ := slice
    · -- an empty slice is only checked for its type
      simp only [List.foldlM_cons, bind_eq_ok, takeSlice_empty]
      constructor
      · rintro ⟨_, ⟨ht, rfl⟩, hrest⟩
        obtain ⟨layout, hsizes, hitems, hread, hslot⟩ := ih.mp hrest
        exact ⟨(t, []) :: layout, congrArg (_ :: ·) hsizes, hitems,
          readable_cons_nil.mpr ⟨ht, hread⟩, hslot⟩
      · rintro ⟨layout, hsizes, hitems, hread, hslot⟩
        obtain _ | ⟨⟨u, _ | ⟨a, as⟩⟩, layout⟩ := layout
        · cases hsizes
        · simp only [sliceSizes, List.map_cons, Layout.sizes_cons, List.cons.injEq,
            Prod.mk.injEq] at hsizes
          obtain ⟨⟨rfl, _⟩, hsizes⟩ := hsizes
          obtain ⟨ht, hread⟩ := readable_cons_nil.mp hread
          exact ⟨_, ⟨ht, rfl⟩, ih.mpr ⟨layout, hsizes, hitems, hread, hslot⟩⟩
        · simp [sliceSizes] at hsizes
    · simp only [List.foldlM_cons, bind_eq_ok, takeSlice_succ]
      constructor
      · rintro ⟨⟨p, r⟩, ⟨ht, hfree, accounts, hlength, rfl, rfl⟩, hrest⟩
        obtain ⟨layout, hsizes, hitems, hread, hslot⟩ := ih.mp hrest
        obtain _ | ⟨a, as⟩ := accounts
        · cases hlength
        · refine ⟨(t, a :: as) :: layout, ?_, ?_, readable_cons_cons.mpr ⟨ht, hfree, hread⟩, ?_⟩
          · simp only [sliceSizes, List.map_cons, Layout.sizes_cons]
            rw [hlength, hsizes]
            rfl
          · change _ ++ r = _
            rw [hitems, Layout.items_cons, List.append_assoc]
          · intro u
            rw [hslot u, Layout.piece]
            split_ifs with hsame
            · rw [← hsame, hfree]
              simp
            · rw [ParsedRemainingAccounts.slot_fill_of_ne _ (Ne.symm hsame)]
      · rintro ⟨layout, hsizes, hitems, hread, hslot⟩
        obtain _ | ⟨⟨u, _ | ⟨a, as⟩⟩, layout⟩ := layout
        · cases hsizes
        · simp [sliceSizes] at hsizes
        · simp only [sliceSizes, List.map_cons, Layout.sizes_cons, List.cons.injEq,
            Prod.mk.injEq] at hsizes
          obtain ⟨⟨rfl, hlength⟩, hsizes⟩ := hsizes
          obtain ⟨ht, hfree, hread⟩ := readable_cons_cons.mp hread
          rw [Layout.items_cons, List.append_assoc] at hitems
          refine ⟨(parsed.fill (a :: as) u, Layout.items layout ++ state.2),
            ⟨ht, hfree, a :: as, hlength, hitems, rfl⟩, ih.mpr ⟨layout, hsizes, rfl, hread, ?_⟩⟩
          intro v
          rw [hslot v, Layout.piece]
          split_ifs with hsame
          · rw [← hsame, hfree]
            simp
          · rw [ParsedRemainingAccounts.slot_fill_of_ne _ (Ne.symm hsame)]

/-- **The parser accepts exactly the lists that a layout of the slices is made of, and gives its
pieces back.** Each type is valid and names one piece at most, and what is left over is what comes
after the pieces.
Source: `utils/remaining_accounts.rs` `parse_transfer_hook_accounts` -/
theorem parseTransferHookAccounts_iff {slices : List RemainingAccountsSlice} :
    parseTransferHookAccounts remaining slices valid = .ok (parsed, rest) ↔
      ∃ layout : Layout AccountsType Pubkey, layout.sizes = sliceSizes slices ∧
        remaining = layout.items ++ rest ∧ (∀ piece ∈ layout, piece.1 ∈ valid) ∧
        layout.named.Nodup ∧ ∀ t, parsed.slot t = layout.piece t := by
  unfold parseTransferHookAccounts
  rw [takeSlices_iff]
  constructor
  · rintro ⟨layout, hsizes, hitems, ⟨hvalid, hnodup, _⟩, hslot⟩
    refine ⟨layout, hsizes, hitems, hvalid, hnodup, ?_⟩
    intro t
    have ht := hslot t
    rwa [ParsedRemainingAccounts.slot_empty, Option.none_or] at ht
  · rintro ⟨layout, hsizes, hitems, hvalid, hnodup, hslot⟩
    refine ⟨layout, hsizes, hitems, ⟨hvalid, hnodup, ?_⟩, ?_⟩
    · intro t _
      exact ParsedRemainingAccounts.slot_empty t
    · intro t
      rw [ParsedRemainingAccounts.slot_empty, Option.none_or]
      exact hslot t

end Parsing

/-! ## The callers -/

/-- A transfer of a token with a hook needs the accounts of the hook, and no other takes any.
Source: `utils/token.rs` `transfer_token_from_pool_authority`, the block on
`get_transfer_hook_program_id` -/
def checkTransferHookAccounts (hookProgramId : Option Pubkey)
    (transferHookAccounts : Option (List Pubkey)) : Result Unit :=
  match hookProgramId with
  | some _ => ensure transferHookAccounts.isSome .missingRemainingAccountForTransferHook
  | none => ensure transferHookAccounts.isNone .noTransferHookProgram

/-- The sysvar of the instructions, if it comes before the accounts of the slices.
Source: `instructions/swap/process_swap.rs` `process_swap`, from `transfer_hook_account_count` to
`instruction_sysvar_account_info` -/
def instructionSysvarAccount (instructionsSysvar : Pubkey) (remainingAccounts : List Pubkey)
    (slices : List RemainingAccountsSlice) : Result (ℕ × Option Pubkey) := do
  let transferHookAccountCount := (slices.map RemainingAccountsSlice.length).sum
  let extraRemainingAccountCount ← safeSub remainingAccounts.length transferHookAccountCount
  ensure (extraRemainingAccountCount ≤ 1) .invalidRemainingAccountsLength
  if extraRemainingAccountCount = 1 then do
    let account ← orThrow remainingAccounts.head? Fault.panic
    ensure (account = instructionsSysvar) .invalidInstructionsSysvar
    pure (extraRemainingAccountCount, some account)
  else pure (extraRemainingAccountCount, none)

/-- The sysvar that a buy has, and the accounts of its transfers. The quote token has no hook.
Source: `instructions/swap/process_swap.rs` `process_swap`, the uses of `remaining_accounts` and of
`parsed_transfer_hook_accounts`; `utils/token.rs` `is_supported_quote_mint` -/
def swapAccounts (instructionsSysvar : Pubkey) (baseHook : Option Pubkey)
    (paysReferralInBase : Bool) (remainingAccounts : List Pubkey)
    (slices : List RemainingAccountsSlice) :
    Result (Option Pubkey × ParsedRemainingAccounts) := do
  let (extraRemainingAccountCount, sysvar) ←
    instructionSysvarAccount instructionsSysvar remainingAccounts slices
  let (parsed, _) ← parseTransferHookAccounts (remainingAccounts.drop extraRemainingAccountCount)
    slices [.transferHookBase, .transferHookBaseReferral]
  checkTransferHookAccounts baseHook parsed.transferHookBase
  (if paysReferralInBase then
    checkTransferHookAccounts baseHook parsed.transferHookBaseReferral
  else pure ())
  pure (sysvar, parsed)

/-- The accounts of the transfer of the base that a claim makes.
Source: `instructions/partner/ix_claim_partner_trading_fee.rs` `handle_claim_trading_fee`,
`instructions/creator/ix_claim_creator_trading_fee.rs` `handle_claim_creator_trading_fee`, the uses
of `remaining_accounts` and of `parsed_transfer_hook_accounts` -/
def claimAccounts (baseHook : Option Pubkey) (paysBase : Bool) (remainingAccounts : List Pubkey)
    (slices : List RemainingAccountsSlice) : Result (Option (List Pubkey)) := do
  let (parsed, remainingAccounts) ←
    parseTransferHookAccounts remainingAccounts slices [.transferHookBase]
  ensure remainingAccounts.isEmpty .invalidRemainingAccountsLength
  (if paysBase then checkTransferHookAccounts baseHook parsed.transferHookBase else pure ())
  pure parsed.transferHookBase

section Callers

variable {slices : List RemainingAccountsSlice} {remaining : List Pubkey} {sysvarId : Pubkey}
  {hook : Option Pubkey} {accounts : Option (List Pubkey)}

/-- The check passes exactly when there are accounts for a hook, or neither.
Source: `utils/token.rs` `transfer_token_from_pool_authority` -/
theorem checkTransferHookAccounts_eq_ok :
    checkTransferHookAccounts hook accounts = .ok () ↔ accounts.isSome = hook.isSome := by
  cases hook with
  | none => cases accounts <;> simp [checkTransferHookAccounts, ensure, require_eq_ok]
  | some id => cases accounts <;> simp [checkTransferHookAccounts, ensure, require_eq_ok]

/-- The sizes of the slices add up to their lengths. -/
theorem sum_sliceSizes (slices : List RemainingAccountsSlice) :
    ((sliceSizes slices).map Prod.snd).sum = (slices.map RemainingAccountsSlice.length).sum := by
  rw [sliceSizes, List.map_map]
  rfl

/-- The sysvar is the one account that the slices do not cover, and stands before them.
Source: `instructions/swap/process_swap.rs` `process_swap`, from `transfer_hook_account_count` to
`instruction_sysvar_account_info` -/
theorem instructionSysvarAccount_eq_ok {extra : ℕ} {sysvar : Option Pubkey} :
    instructionSysvarAccount sysvarId remaining slices = .ok (extra, sysvar) ↔
      ∃ items, remaining = sysvar.toList ++ items ∧
        items.length = (slices.map RemainingAccountsSlice.length).sum ∧
        (∀ account ∈ sysvar, account = sysvarId) ∧ extra = sysvar.toList.length := by
  simp only [instructionSysvarAccount, bind_eq_ok, exists_unit, safeSub_eq_ok, require_eq_ok]
  constructor
  · rintro ⟨n, ⟨hle, rfl⟩, hone, h⟩
    split_ifs at h with hsysvar
    · simp only [bind_eq_ok, orThrow_eq_ok, exists_unit, require_eq_ok, pure_eq_ok,
        Prod.mk.injEq] at h
      obtain ⟨account, hhead, rfl, rfl, rfl⟩ := h
      obtain _ | ⟨a, items⟩ := remaining
      · cases hhead
      · obtain rfl := Option.some.inj hhead
        refine ⟨items, rfl, ?_, ?_, hsysvar⟩
        · rw [List.length_cons] at hsysvar hle
          omega
        · rintro b hb
          exact (Option.some.inj hb).symm
    · rw [pure_eq_ok, Prod.mk.injEq] at h
      obtain ⟨rfl, rfl⟩ := h
      exact ⟨remaining, rfl, by omega, fun _ h => (by cases h), by simp; omega⟩
  · rintro ⟨items, rfl, hlength, hid, rfl⟩
    refine ⟨sysvar.toList.length, ⟨?_, ?_⟩, ?_, ?_⟩
    · rw [List.length_append]
      omega
    · rw [List.length_append]
      omega
    · cases sysvar <;> simp
    · cases sysvar with
      | none => rfl
      | some account =>
        obtain rfl := hid account rfl
        simp only [Option.toList_some, List.length_singleton, if_true, bind_eq_ok, orThrow_eq_ok,
          exists_unit, require_eq_ok, pure_eq_ok]
        exact ⟨account, rfl, rfl, rfl⟩

/-- A layout with one type names it once at most, and the piece is then all that the layout
holds. -/
theorem piece_of_single {layout : Layout AccountsType Pubkey} {t : AccountsType}
    (hsame : ∀ piece ∈ layout, piece.1 = t) (hnodup : layout.named.Nodup) :
    layout.piece t = if layout.items = [] then none else some layout.items := by
  have hnone : ∀ layout : Layout AccountsType Pubkey, (∀ piece ∈ layout, piece.1 = t) →
      t ∉ layout.named → layout.items = [] := by
    intro layout
    induction layout with
    | nil => exact fun _ _ => rfl
    | cons head layout ih =>
      obtain ⟨u, _ | ⟨a, as⟩⟩ := head
      · exact fun hsame hnot => ih (fun p hp => hsame p (List.mem_cons_of_mem _ hp)) hnot
      · intro hsame hnot
        obtain rfl : u = t := hsame _ List.mem_cons_self
        exact absurd List.mem_cons_self hnot
  induction layout with
  | nil => rfl
  | cons head layout ih =>
    have htail : ∀ piece ∈ layout, piece.1 = t := fun p hp => hsame p (List.mem_cons_of_mem _ hp)
    obtain ⟨u, _ | ⟨a, as⟩⟩ := head
    · exact ih htail hnodup
    · obtain rfl : u = t := hsame _ List.mem_cons_self
      have hempty := hnone layout htail (List.nodup_cons.mp hnodup).1
      simp [Layout.piece, hempty]

end Callers

end DynamicBondingCurve
