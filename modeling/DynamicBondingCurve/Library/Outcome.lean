import Mathlib

/-!
# Success inversion for fallible computations

A computation that may fail is an `Except ε α`. Every specification lemma about one starts from
"it returned `.ok r`" and peels the binds apart:

* `bind_eq_ok`: a bind succeeds exactly when both of its stages do; `bind_eq_error`: it fails where
  one of them fails.
* `require`: the guard statement, and `require_eq_ok`.
* `checkEach`: a check made on every element of a list, and `checkEach_eq_ok`.
* `orThrow`: an `Option` read back into `Except`, and `orThrow_eq_ok`.
* `Avoids`: the computation does not stop with a given error, and `Avoids.bind`.
-/

namespace Library

variable {ε α β : Type}

/-- A bind succeeds exactly when its first stage succeeds and the rest succeeds on its value. -/
theorem bind_eq_ok {first : Except ε α} {rest : α → Except ε β} {r : β} :
    (first >>= rest) = .ok r ↔ ∃ v, first = .ok v ∧ rest v = .ok r := by
  rcases first with e | v
  · exact ⟨fun h => (by cases h), fun ⟨_, h, _⟩ => by cases h⟩
  · exact ⟨fun h => ⟨v, rfl, h⟩, fun ⟨_, hv, h⟩ => by cases hv; exact h⟩

/-- A stage that succeeded passes its value on. -/
theorem ok_bind (a : α) (rest : α → Except ε β) : (Except.ok a >>= rest) = rest a := rfl

/-- A bind fails where its first stage fails, or where the rest fails on its value. -/
theorem bind_eq_error {first : Except ε α} {rest : α → Except ε β} {e : ε} :
    (first >>= rest) = .error e ↔
      first = .error e ∨ ∃ v, first = .ok v ∧ rest v = .error e := by
  rcases first with e' | v
  · exact ⟨fun h => .inl (by cases h; rfl), fun h => by
      rcases h with h | ⟨_, hv, _⟩
      · cases h
        rfl
      · cases hv⟩
  · exact ⟨fun h => .inr ⟨v, rfl, h⟩, fun h => by
      rcases h with h | ⟨_, hv, h⟩
      · cases h
      · cases hv
        exact h⟩

/-- Returning succeeds with the value returned. -/
theorem pure_eq_ok {a b : α} : (pure a : Except ε α) = .ok b ↔ a = b :=
  ⟨fun h => (by cases h; rfl), fun h => by rw [h]; rfl⟩

/-- Stop with the error `e` unless `c` holds.
Source: the guard macro of the language -/
def require (c : Prop) [Decidable c] (e : ε) : Except ε Unit :=
  if c then .ok () else .error e

/-- A guard lets the computation through exactly when its condition holds. -/
theorem require_eq_ok {c : Prop} [Decidable c] {e : ε} {u : Unit} :
    require c e = .ok u ↔ c := by
  unfold require
  by_cases hc : c
  · rw [if_pos hc]
    exact ⟨fun _ => hc, fun _ => rfl⟩
  · rw [if_neg hc]
    exact ⟨fun h => (by cases h), fun h => absurd h hc⟩

/-- A stage that returns nothing is passed by its only value. -/
theorem exists_unit {p : Unit → Prop} : (∃ u, p u) ↔ p () :=
  ⟨fun ⟨_, h⟩ => h, fun h => ⟨(), h⟩⟩

/-- Make a check on each element of a list, and stop at the first that fails.
Source: a loop of guards -/
def checkEach (check : α → Except ε Unit) : List α → Except ε Unit
  | [] => .ok ()
  | a :: rest => check a >>= fun _ => checkEach check rest

/-- A check on each element succeeds exactly when it does on all of them. -/
theorem checkEach_eq_ok {check : α → Except ε Unit} {as : List α} :
    checkEach check as = .ok () ↔ ∀ a ∈ as, check a = .ok () := by
  induction as with
  | nil => exact ⟨fun _ _ h => absurd h List.not_mem_nil, fun _ => rfl⟩
  | cons a rest ih =>
    simp only [checkEach, bind_eq_ok, exists_unit, ih, List.forall_mem_cons]

/-- Read an option back as a result, with the error to stop with when it is empty. -/
def orThrow (o : Option α) (e : ε) : Except ε α :=
  match o with
  | some a => .ok a
  | none => .error e

/-- An option read back as a result succeeds with what it holds. -/
theorem orThrow_eq_ok {o : Option α} {e : ε} {a : α} : orThrow o e = .ok a ↔ o = some a := by
  rcases o with _ | b
  · exact ⟨fun h => (by cases h), fun h => by cases h⟩
  · exact ⟨fun h => (by cases h; rfl), fun h => by cases h; rfl⟩

/-! ## Errors that a computation avoids -/

/-- The computation does not stop with the error `e`. -/
def Avoids (e : ε) (c : Except ε α) : Prop := c ≠ .error e

section Avoids

variable {e e' : ε} {c : Except ε α} {a : α}

/-- What succeeds avoids every error. -/
theorem avoids_of_eq_ok (h : c = .ok a) : Avoids e c := by
  intro hc
  rw [h] at hc
  cases hc

/-- A value avoids every error. -/
theorem avoids_ok (a : α) : Avoids e (.ok a : Except ε α) :=
  avoids_of_eq_ok rfl

/-- An error avoids the others. -/
theorem avoids_error (h : e' ≠ e) : Avoids e (.error e' : Except ε α) := by
  intro hc
  cases hc
  exact h rfl

/-- **A bind avoids an error when both of its stages do**, the second on the values of the first. -/
theorem Avoids.bind {rest : α → Except ε β} (hfirst : Avoids e c)
    (hrest : ∀ a, c = .ok a → Avoids e (rest a)) : Avoids e (c >>= rest) := by
  intro h
  rcases bind_eq_error.mp h with h | ⟨a, ha, h⟩
  · exact hfirst h
  · exact hrest a ha h

/-- A choice avoids an error if both of its branches do. -/
theorem Avoids.ite {p : Prop} [Decidable p] {c' : Except ε α} (hthen : p → Avoids e c)
    (helse : ¬ p → Avoids e c') : Avoids e (if p then c else c') := by
  by_cases hp : p
  · rw [if_pos hp]
    exact hthen hp
  · rw [if_neg hp]
    exact helse hp

/-- A guard whose condition holds avoids every error. -/
theorem avoids_require {p : Prop} [Decidable p] (hp : p) : Avoids e (require p e') :=
  avoids_of_eq_ok (require_eq_ok.mpr hp : require p e' = .ok ())

/-- A guard avoids the errors other than its own. -/
theorem avoids_require_of_ne {p : Prop} [Decidable p] (h : e' ≠ e) : Avoids e (require p e') :=
  .ite (fun _ => avoids_ok ()) fun _ => avoids_error h

/-- A missing value avoids every error but its own. -/
theorem avoids_orThrow {o : Option α} (h : e' ≠ e) : Avoids e (orThrow o e') := by
  cases o with
  | none => exact avoids_error h
  | some a => exact avoids_ok a

end Avoids

end Library
