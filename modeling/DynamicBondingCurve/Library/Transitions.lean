import Mathlib

/-!
# Runs of a fallible transition system

A system is a function `step s a` that either moves to a new state or fails; a failed action is
rolled back and leaves the state as it was. `run step s as` plays a list of actions from `s`.

* `run_invariant`: what every successful step preserves holds at the end of every run.
* `run_relation`: a reflexive and transitive relation that every successful step respects holds
  between the two ends of every run.
* `run_append`: a run is cut anywhere.
* `foldlM_progress`: a sequence of steps that cannot fail does not fail.
-/

namespace Library

variable {σ α ε : Type} (step : σ → α → Except ε σ)

/-- The state after trying the action `a`: a failure leaves the state unchanged. -/
def advance (s : σ) (a : α) : σ :=
  match step s a with
  | .ok t => t
  | .error _ => s

/-- The state after trying the actions one after the other. -/
def run (s : σ) (as : List α) : σ :=
  as.foldl (advance step) s

section Equations

/-- The empty run stays where it is. -/
@[simp] theorem run_nil (s : σ) : run step s [] = s := rfl

/-- A run goes on from where its first action leads. -/
@[simp] theorem run_cons (s : σ) (a : α) (as : List α) :
    run step s (a :: as) = run step (advance step s a) as := rfl

/-- A run of two lists is the second played from the end of the first. -/
theorem run_append (s : σ) (as bs : List α) :
    run step s (as ++ bs) = run step (run step s as) bs := by
  simp only [run, List.foldl_append]

/-- An action either fails and changes nothing, or moves to the state it returns. -/
theorem advance_cases (s : σ) (a : α) :
    advance step s a = s ∨ step s a = .ok (advance step s a) := by
  unfold advance
  rcases step s a with e | t
  · exact .inl rfl
  · exact .inr rfl

end Equations

variable {step} {s : σ} {as : List α}

/-- **Invariant rule.** What every successful step by an allowed action preserves holds at the
end of every run of allowed actions. -/
theorem run_invariant (Inv : σ → Prop) (Allowed : α → Prop)
    (hstep : ∀ s a t, Allowed a → Inv s → step s a = .ok t → Inv t) :
    ∀ {s : σ} {as : List α}, (∀ a ∈ as, Allowed a) → Inv s → Inv (run step s as)
  | _, [], _, hs => hs
  | s, a :: as, hall, hs => by
      rw [run_cons]
      refine run_invariant Inv Allowed hstep (fun b hb => hall b (List.mem_cons_of_mem _ hb)) ?_
      rcases advance_cases step s a with hsame | hok
      · rwa [hsame]
      · exact hstep s a _ (hall a List.mem_cons_self) hs hok

/-- **Relation rule.** A reflexive and transitive relation that every successful step from a
state with the invariant respects holds between the two ends of a run from such a state. -/
theorem run_relation (Inv : σ → Prop) (R : σ → σ → Prop) (hrefl : ∀ s, R s s)
    (htrans : ∀ s t u, R s t → R t u → R s u)
    (hinv : ∀ s a t, Inv s → step s a = .ok t → Inv t)
    (hstep : ∀ s a t, Inv s → step s a = .ok t → R s t) :
    ∀ {s : σ} {as : List α}, Inv s → R s (run step s as)
  | s, [], _ => hrefl s
  | s, a :: as, hs => by
      rw [run_cons]
      rcases advance_cases step s a with hsame | hok
      · rw [hsame]
        exact run_relation Inv R hrefl htrans hinv hstep hs
      · exact htrans _ _ _ (hstep s a _ hs hok)
          (run_relation Inv R hrefl htrans hinv hstep (hinv s a _ hs hok))

/-- **Progress rule.** When every step by an allowed action from a state with the invariant succeeds
and keeps the invariant, every sequence of allowed actions succeeds and keeps it. -/
theorem foldlM_progress (Inv : σ → Prop) (Allowed : α → Prop)
    (hstep : ∀ s a, Allowed a → Inv s → ∃ t, step s a = .ok t ∧ Inv t) :
    ∀ {s : σ} {as : List α}, (∀ a ∈ as, Allowed a) → Inv s →
      ∃ t, as.foldlM step s = .ok t ∧ Inv t
  | s, [], _, hs => ⟨s, rfl, hs⟩
  | s, a :: as, hall, hs => by
      obtain ⟨t, ht, hinv⟩ := hstep s a (hall a List.mem_cons_self) hs
      obtain ⟨u, hu, hlast⟩ := foldlM_progress Inv Allowed hstep
        (fun b hb => hall b (List.mem_cons_of_mem _ hb)) hinv
      refine ⟨u, ?_, hlast⟩
      rw [List.foldlM_cons, ht]
      exact hu

end Library
