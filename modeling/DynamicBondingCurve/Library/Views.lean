import DynamicBondingCurve.Library.Transitions

/-!
# What can be seen of a run

A view shows a part of the state. An action is silent for a view when it never changes what is
seen. If the other actions do the same in states that look the same, the silent ones can be
deleted from a run, or added to it anywhere, and nothing that is seen changes.

* `view_run_filter`: **silent actions can be deleted from a run.**
* `view_run_eq`: runs with the same visible actions look the same.
* `exists_step_of_run`: **what becomes true in a run becomes true in one of its steps.**
* `exists_last_step_of_run`: **what is true after a run has been true since one of its steps.**
* `exists_step_of_entry`: **every entry of a log that only grows was written in one step.**
* `trace`, `foldlM_trace`: **a run looks like the replay of the labels of its actions**, on a system
  whose state is what is seen.
-/

namespace Library

variable {σ α ε β : Type} {step : σ → α → Except ε σ}

section Views

variable (view : σ → β) (visible : α → Bool) (Inv : σ → Prop)

/-- Two states that look the same still do after the same visible action. -/
theorem view_advance_eq
    (hvisible : ∀ s s' a t, Inv s → Inv s' → view s = view s' → visible a = true →
      step s a = .ok t → ∃ t', step s' a = .ok t' ∧ view t = view t')
    {s s' : σ} {a : α} (hs : Inv s) (hs' : Inv s') (hview : view s = view s')
    (ha : visible a = true) : view (advance step s a) = view (advance step s' a) := by
  unfold advance
  cases hstep : step s a with
  | ok t =>
    obtain ⟨t', ht', hsame⟩ := hvisible s s' a t hs hs' hview ha hstep
    rw [ht']
    exact hsame
  | error e =>
    cases hstep' : step s' a with
    | ok t' =>
      obtain ⟨t, ht, _⟩ := hvisible s' s a t' hs' hs hview.symm ha hstep'
      rw [hstep] at ht
      cases ht
    | error e' => exact hview

/-- **Silent actions can be deleted from a run.** From two states that look the same, a run and
its visible actions lead to states that look the same. -/
theorem view_run_filter (hinv : ∀ s a t, Inv s → step s a = .ok t → Inv t)
    (hsilent : ∀ s a t, Inv s → visible a = false → step s a = .ok t → view t = view s)
    (hvisible : ∀ s s' a t, Inv s → Inv s' → view s = view s' → visible a = true →
      step s a = .ok t → ∃ t', step s' a = .ok t' ∧ view t = view t')
    {s s' : σ} (as : List α) (hs : Inv s) (hs' : Inv s') (hview : view s = view s') :
    view (run step s as) = view (run step s' (as.filter visible)) := by
  have hadvance : ∀ s a, Inv s → Inv (advance step s a) := by
    intro s a hs
    rcases advance_cases step s a with hsame | hok
    · rwa [hsame]
    · exact hinv s a _ hs hok
  induction as generalizing s s' with
  | nil => exact hview
  | cons a as ih =>
    cases ha : visible a with
    | true =>
      rw [List.filter_cons_of_pos ha, run_cons, run_cons]
      exact ih (hadvance s a hs) (hadvance s' a hs')
        (view_advance_eq view visible Inv hvisible hs hs' hview ha)
    | false =>
      rw [List.filter_cons_of_neg (by simp [ha]), run_cons]
      refine ih (hadvance s a hs) hs' ?_
      rcases advance_cases step s a with hsame | hok
      · rw [hsame]
        exact hview
      · exact (hsilent s a _ hs ha hok).trans hview

/-- Runs with the same visible actions look the same. -/
theorem view_run_eq (hinv : ∀ s a t, Inv s → step s a = .ok t → Inv t)
    (hsilent : ∀ s a t, Inv s → visible a = false → step s a = .ok t → view t = view s)
    (hvisible : ∀ s s' a t, Inv s → Inv s' → view s = view s' → visible a = true →
      step s a = .ok t → ∃ t', step s' a = .ok t' ∧ view t = view t')
    {s : σ} {as bs : List α} (hs : Inv s) (hfilter : as.filter visible = bs.filter visible) :
    view (run step s as) = view (run step s bs) := by
  rw [view_run_filter view visible Inv hinv hsilent hvisible as hs hs rfl, hfilter,
    ← view_run_filter view visible Inv hinv hsilent hvisible bs hs hs rfl]

end Views

/-- **What becomes true in a run becomes true in one of its steps.** -/
theorem exists_step_of_run (P : σ → Prop) {s : σ} {as : List α} (hs : ¬ P s)
    (hrun : P (run step s as)) : ∃ earlier a later t, as = earlier ++ a :: later ∧
      ¬ P (run step s earlier) ∧ step (run step s earlier) a = .ok t ∧ P t := by
  induction as generalizing s with
  | nil => exact absurd hrun hs
  | cons a as ih =>
    rw [run_cons] at hrun
    by_cases hnext : P (advance step s a)
    · refine ⟨[], a, as, advance step s a, rfl, hs, ?_, hnext⟩
      rcases advance_cases step s a with hsame | hok
      · rw [hsame] at hnext
        exact absurd hnext hs
      · exact hok
    · obtain ⟨earlier, b, later, t, rfl, hbefore, hstep, ht⟩ := ih hnext hrun
      exact ⟨a :: earlier, b, later, t, rfl, hbefore, hstep, ht⟩

/-- **What is true after a run has been true since one of its steps.** -/
theorem exists_last_step_of_run (P : σ → Prop) {s : σ} {as : List α} (hs : ¬ P s)
    (hrun : P (run step s as)) : ∃ earlier a later t, as = earlier ++ a :: later ∧
      ¬ P (run step s earlier) ∧ step (run step s earlier) a = .ok t ∧
      ∀ front, front <+: later → P (run step t front) := by
  induction as using List.reverseRecOn with
  | nil => exact absurd hrun hs
  | append_singleton as b ih =>
    have hlast : run step s (as ++ [b]) = advance step (run step s as) b := run_append step s as [b]
    by_cases hbefore : P (run step s as)
    · obtain ⟨earlier, a, later, t, rfl, hnot, hstep, hsince⟩ := ih hbefore
      refine ⟨earlier, a, later ++ [b], t, by simp, hnot, hstep, ?_⟩
      intro front hfront
      rcases List.prefix_concat_iff.mp hfront with rfl | hshort
      · -- the whole rest of the run leads to its end
        have hend : run step s (earlier ++ a :: later ++ [b]) = run step t (later ++ [b]) := by
          rw [List.append_assoc, List.cons_append, run_append, run_cons, advance, hstep]
        rw [← hend]
        exact hrun
      · exact hsince front hshort
    · rw [hlast] at hrun
      refine ⟨as, b, [], advance step (run step s as) b, rfl, hbefore, ?_, ?_⟩
      · rcases advance_cases step (run step s as) b with hsame | hok
        · rw [hsame] at hrun
          exact absurd hrun hbefore
        · exact hok
      · intro front hfront
        rw [List.prefix_nil.mp hfront]
        exact hrun

/-! ## Logs -/

section Logs

variable (log : σ → List β)

/-- What is written in a log stays in it. -/
theorem log_suffix_of_run (hgrows : ∀ s a t, step s a = .ok t → log s <:+ log t) (s : σ)
    (as : List α) : log s <:+ log (run step s as) := by
  refine run_relation (fun _ => True) (fun u v => log u <:+ log v) ?_ ?_ ?_ ?_ trivial
  · exact fun u => List.suffix_rfl
  · exact fun u v w huv hvw => huv.trans hvw
  · exact fun _ _ _ _ _ => trivial
  · exact fun u a v _ hstep => hgrows u a v hstep

/-- **Every entry of a log that only grows was written in one step.** An entry with the older ones
below it was written on top of them, in a step that found only older ones. -/
theorem exists_step_of_entry (hgrows : ∀ s a t, step s a = .ok t → log s <:+ log t) {s : σ}
    {as : List α} (hs : log s = []) {newer older : List β} {e : β}
    (h : log (run step s as) = newer ++ e :: older) :
    ∃ earlier a later t front between, as = earlier ++ a :: later ∧
      step (run step s earlier) a = .ok t ∧ log t = front ++ e :: older ∧
      older = between ++ log (run step s earlier) := by
  have hstart : ¬ older.length < (log s).length := by
    rw [hs]
    exact Nat.not_lt_zero _
  have hend : older.length < (log (run step s as)).length := by
    rw [h, List.length_append, List.length_cons]
    omega
  obtain ⟨earlier, a, later, t, rfl, hbefore, hstep, hafter⟩ :=
    exists_step_of_run (fun u => older.length < (log u).length) hstart hend
  have hkept : log t <:+ newer ++ e :: older := by
    rw [← h, run_append, run_cons, advance, hstep]
    exact log_suffix_of_run log hgrows t later
  obtain ⟨front, hfront⟩ : e :: older <:+ log t :=
    List.suffix_of_suffix_length_le ⟨newer, rfl⟩ hkept hafter
  have holder : log (run step s earlier) <:+ older := by
    refine List.suffix_of_suffix_length_le (hgrows _ _ _ hstep) ?_ (by omega)
    rw [← hfront]
    exact (List.suffix_cons e older).trans (List.suffix_append front _)
  obtain ⟨between, hbetween⟩ := holder
  exact ⟨earlier, a, later, t, front, between, rfl, hstep, hfront.symm, hbetween.symm⟩

end Logs

/-! ## Traces -/

section Traces

variable {τ δ : Type} (label : α → Option τ)

/-- The label of an action that succeeds. -/
def labelOf (step : σ → α → Except ε σ) (s : σ) (a : α) : Option τ :=
  match step s a with
  | .ok _ => label a
  | .error _ => none

/-- The labels of the actions of a run that succeed. -/
def trace (step : σ → α → Except ε σ) (s : σ) : List α → List τ
  | [] => []
  | a :: as => (labelOf label step s a).toList ++ trace step (advance step s a) as

variable (view : σ → β) (next : β → τ → Except δ β)

/-- A step is seen as the step of its label, or it is not seen. -/
theorem foldlM_labelOf
    (hsilent : ∀ s a t, label a = none → step s a = .ok t → view t = view s)
    (hvisible : ∀ s a o t, label a = some o → step s a = .ok t → next (view s) o = .ok (view t))
    (s : σ) (a : α) :
    (labelOf label step s a).toList.foldlM next (view s) = .ok (view (advance step s a)) := by
  unfold labelOf advance
  cases hstep : step s a with
  | error e => rfl
  | ok t =>
    simp only
    cases hlabel : label a with
    | none =>
      rw [hsilent s a t hlabel hstep]
      rfl
    | some o =>
      rw [Option.toList_some, List.foldlM_cons, hvisible s a o t hlabel hstep]
      rfl

/-- **A run looks like the replay of its labels**, whatever else was tried, and the replay does not
fail: a system whose labelled steps are those of another one, and whose other steps are not seen,
refines it. -/
theorem foldlM_trace
    (hsilent : ∀ s a t, label a = none → step s a = .ok t → view t = view s)
    (hvisible : ∀ s a o t, label a = some o → step s a = .ok t → next (view s) o = .ok (view t))
    (s : σ) (as : List α) :
    (trace label step s as).foldlM next (view s) = .ok (view (run step s as)) := by
  induction as generalizing s with
  | nil => rfl
  | cons a as ih =>
    rw [trace, List.foldlM_append, foldlM_labelOf label view next hsilent hvisible]
    exact ih (advance step s a)

end Traces

end Library
