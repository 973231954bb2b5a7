import Mathlib

/-!
# Ladders: sums over the pieces of a cut line

A ladder over a linear order is a starting position and a list of rungs, each with its top and
its weight; a rung begins where the one below it ends. Given a cost `f w a b` of moving from `a`
to `b` inside a rung of weight `w`, `climb f lo rungs p` is what moving from `lo` up to `p` costs.

* `InRung`: an interval that lies inside one rung, with the rung's weight; `IsRung`: a rung.
* `above`: the rungs left to climb from a position.
* `climb_le_of_inRung`, `climb_eq_of_inRung`: what one interval adds to a subadditive, to an
  additive cost.
* `Path`: finitely many intervals end to end, each with a payload that a relation ties to it.
* `Path.climb_le`, `Path.le_climb`: **the payload of a path bounds the climb, and is bounded by
  it**, when this holds of each interval.
* `Path.map_le_map`: a bound between two sums over a path, from the same bound on each interval.
-/

namespace Library

variable {P W M X : Type} [LinearOrder P]

/-- The rungs are strictly above `lo` and strictly ascending. -/
def Ascending : P → List (P × W) → Prop
  | _, [] => True
  | lo, (hi, _) :: rest => lo < hi ∧ Ascending hi rest

/-- The top of the last rung, the start itself when there is none. -/
def ladderTop : P → List (P × W) → P
  | lo, [] => lo
  | _, (hi, _) :: rest => ladderTop hi rest

/-- The cost of moving from `lo` up to `p` along the rungs. -/
def climb [Zero M] [Add M] (f : W → P → P → M) : P → List (P × W) → P → M
  | _, [], _ => 0
  | lo, (hi, w) :: rest, p => if p ≤ hi then f w lo p else f w lo hi + climb f hi rest p

/-- The interval from `a` to `b` lies inside one rung, of weight `v`. -/
def InRung : P → List (P × W) → W → P → P → Prop
  | _, [], _, _, _ => False
  | lo, (hi, w) :: rest, v, a, b => (w = v ∧ lo ≤ a ∧ a ≤ b ∧ b ≤ hi) ∨ InRung hi rest v a b

/-- A rung of the ladder: its foot, its top and its weight. -/
def IsRung : P → List (P × W) → P → P → W → Prop
  | _, [], _, _, _ => False
  | lo, (hi, w) :: rest, foot, top, v =>
      (foot = lo ∧ top = hi ∧ v = w) ∨ IsRung hi rest foot top v

section Positions

variable {lo a b : P} {v : W} {rungs : List (P × W)}

/-- A rung lies above the foot of the ladder and is not empty. -/
theorem IsRung.bounds : ∀ {lo : P} {rungs : List (P × W)}, Ascending lo rungs →
    IsRung lo rungs a b v → lo ≤ a ∧ a < b
  | _, (_, _) :: _, hasc, .inl ⟨hfoot, htop, _⟩ => by
      rw [hfoot, htop]
      exact ⟨le_rfl, hasc.1⟩
  | _, (_, _) :: _, hasc, .inr h =>
      have ih := IsRung.bounds hasc.2 h
      ⟨hasc.1.le.trans ih.1, ih.2⟩

/-- The top of a ladder is not below its start. -/
theorem le_ladderTop : ∀ {lo : P} {rungs : List (P × W)}, Ascending lo rungs →
    lo ≤ ladderTop lo rungs
  | _, [], _ => le_rfl
  | _, (_, _) :: _, h => h.1.le.trans (le_ladderTop h.2)

/-- An interval inside a rung starts above the foot of the ladder, ends below its top, and runs
upwards. -/
theorem InRung.bounds : ∀ {lo : P} {rungs : List (P × W)}, Ascending lo rungs →
    InRung lo rungs v a b → lo ≤ a ∧ a ≤ b ∧ b ≤ ladderTop lo rungs
  | _, (_, _) :: _, hasc, .inl ⟨_, hlo, hab, hb⟩ => ⟨hlo, hab, hb.trans (le_ladderTop hasc.2)⟩
  | _, (_, _) :: _, hasc, .inr h =>
      have ih := InRung.bounds hasc.2 h
      ⟨hasc.1.le.trans ih.1, ih.2.1, ih.2.2⟩

/-- The weight of a rung is one of the weights listed. -/
theorem InRung.weight_mem : ∀ {lo : P} {rungs : List (P × W)}, InRung lo rungs v a b →
    ∃ hi, (hi, v) ∈ rungs
  | _, (hi, _) :: _, .inl ⟨hw, _⟩ => ⟨hi, by rw [hw]; exact List.mem_cons_self⟩
  | _, (_, _) :: _, .inr h =>
      have ⟨hi, hmem⟩ := InRung.weight_mem h
      ⟨hi, List.mem_cons_of_mem _ hmem⟩

end Positions

/-! ## What is left to climb -/

/-- The rungs that end above `q`: what is left to climb from `q`. -/
def above (q : P) (rungs : List (P × W)) : List (P × W) :=
  rungs.dropWhile fun rung => rung.1 ≤ q

section Above

variable {lo q : P}

/-- The tops of a ladder lie above its foot. -/
theorem Ascending.lt_of_mem : ∀ {lo : P} {rungs : List (P × W)} {rung : P × W},
    Ascending lo rungs → rung ∈ rungs → lo < rung.1
  | lo, (hi, w) :: rest, rung, h, hmem => by
      rcases List.mem_cons.mp hmem with rfl | hmem
      · exact h.1
      · exact h.1.trans (Ascending.lt_of_mem h.2 hmem)

/-- Nothing is left out at the foot of a ladder. -/
theorem above_self {rungs : List (P × W)} (h : Ascending lo rungs) : above lo rungs = rungs := by
  cases rungs with
  | nil => rfl
  | cons rung rest =>
    unfold above
    rw [List.dropWhile_cons_of_neg]
    simpa using h.1

/-- What is left to climb is a ladder. -/
theorem ascending_above : ∀ {lo : P} {rungs : List (P × W)}, Ascending lo rungs → lo ≤ q →
    Ascending q (above q rungs)
  | _, [], _, _ => trivial
  | lo, (hi, w) :: rest, h, hlo => by
      unfold above
      by_cases hq : hi ≤ q
      · rw [List.dropWhile_cons_of_pos (by simpa using hq)]
        exact ascending_above h.2 hq
      · rw [List.dropWhile_cons_of_neg (by simpa using hq)]
        exact ⟨not_le.mp hq, h.2⟩

/-- What is left to climb ends where the ladder ends. -/
theorem ladderTop_above : ∀ {lo : P} {rungs : List (P × W)}, lo ≤ q → q ≤ ladderTop lo rungs →
    ladderTop q (above q rungs) = ladderTop lo rungs
  | _, [], hlo, hq => le_antisymm hq hlo
  | lo, (hi, w) :: rest, hlo, hq => by
      unfold above
      by_cases hhi : hi ≤ q
      · rw [List.dropWhile_cons_of_pos (by simpa using hhi)]
        exact ladderTop_above hhi hq
      · rw [List.dropWhile_cons_of_neg (by simpa using hhi)]
        rfl

/-- The tops left to climb are the tops above `q`. -/
theorem mem_above_iff : ∀ {lo : P} {rungs : List (P × W)} {rung : P × W}, Ascending lo rungs →
    (rung ∈ above q rungs ↔ rung ∈ rungs ∧ q < rung.1)
  | _, [], _, _ => by simp [above]
  | lo, (hi, w) :: rest, rung, h => by
      have hup : ∀ r ∈ rest, hi < r.1 := fun r hr => Ascending.lt_of_mem h.2 hr
      unfold above
      by_cases hq : hi ≤ q
      · rw [List.dropWhile_cons_of_pos (by simpa using hq), List.mem_cons]
        have ih : rung ∈ above q rest ↔ rung ∈ rest ∧ q < rung.1 := mem_above_iff h.2
        unfold above at ih
        rw [ih]
        constructor
        · rintro ⟨hmem, hlt⟩
          exact ⟨.inr hmem, hlt⟩
        · rintro ⟨rfl | hmem, hlt⟩
          · exact absurd hlt (not_lt.mpr hq)
          · exact ⟨hmem, hlt⟩
      · rw [List.dropWhile_cons_of_neg (by simpa using hq)]
        constructor
        · intro hmem
          refine ⟨hmem, ?_⟩
          rcases List.mem_cons.mp hmem with rfl | hmem
          · exact not_le.mp hq
          · exact (not_le.mp hq).trans (hup _ hmem)
        · exact And.left

/-- What is left to climb from a higher position can be read off what is left from a lower one. -/
theorem above_above {q r : P} {rungs : List (P × W)} (h : q ≤ r) :
    above r (above q rungs) = above r rungs := by
  induction rungs with
  | nil => rfl
  | cons rung rest ih =>
    unfold above at ih ⊢
    by_cases hq : rung.1 ≤ q
    · rw [List.dropWhile_cons_of_pos (by simpa using hq),
        List.dropWhile_cons_of_pos (by simpa using hq.trans h), ih]
    · rw [List.dropWhile_cons_of_neg (by simpa using hq)]

end Above

/-! ## Climbing -/

section Climb

variable [AddCommMonoid M] {f g : W → P → P → M} {rungs : List (P × W)} {lo a b p : P} {v : W}

/-- Moving nowhere costs nothing. -/
theorem climb_self (hf : ∀ w x, f w x x = 0) : ∀ {lo : P} {rungs : List (P × W)},
    Ascending lo rungs → climb f lo rungs lo = 0
  | _, [], _ => rfl
  | lo, (hi, w) :: rest, h => by rw [climb, if_pos h.1.le, hf]

/-- An additive map carries the climb of a cost to the climb of its image. -/
theorem map_climb {N : Type} [AddCommMonoid N] (φ : M →+ N) :
    ∀ {lo : P} {rungs : List (P × W)},
      φ (climb f lo rungs p) = climb (fun w x y => φ (f w x y)) lo rungs p
  | _, [] => map_zero φ
  | lo, (hi, w) :: rest => by
      simp only [climb]
      split_ifs
      · rfl
      · rw [map_add, map_climb φ]

/-- A rung that lies entirely below `p` is crossed in full. -/
theorem climb_cons_of_le (hf : ∀ w x, f w x x = 0) {hi : P} {w : W}
    (hasc : Ascending hi rungs) (hp : hi ≤ p) :
    climb f lo ((hi, w) :: rungs) p = f w lo hi + climb f hi rungs p := by
  rcases hp.eq_or_lt with rfl | hlt
  · rw [climb, if_pos le_rfl, climb_self hf hasc, add_zero]
  · rw [climb, if_neg hlt.not_ge]

/-- An additive cost grows by exactly what an interval inside a rung costs. -/
theorem climb_eq_of_inRung (hf : ∀ w x, f w x x = 0)
    (hadd : ∀ w x y z, x ≤ y → y ≤ z → f w x z = f w x y + f w y z) :
    ∀ {lo : P} {rungs : List (P × W)}, Ascending lo rungs → InRung lo rungs v a b →
      climb f lo rungs b = climb f lo rungs a + f v a b
  | lo, (hi, w) :: rest, _, .inl ⟨hw, hlo, hab, hb⟩ => by
      subst hw
      rw [climb, if_pos hb, climb, if_pos (hab.trans hb)]
      exact hadd _ _ _ _ hlo hab
  | lo, (hi, w) :: rest, hasc, .inr h => by
      obtain ⟨hlo, hab, _⟩ := h.bounds hasc.2
      rw [climb_cons_of_le hf hasc.2 hlo, climb_cons_of_le hf hasc.2 (hlo.trans hab),
        climb_eq_of_inRung hf hadd hasc.2 h, add_assoc]

variable [PartialOrder M] [IsOrderedAddMonoid M]

/-- A subadditive cost grows by at most what an interval inside a rung costs. -/
theorem climb_le_of_inRung (hf : ∀ w x, f w x x = 0)
    (hsub : ∀ w x y z, x ≤ y → y ≤ z → f w x z ≤ f w x y + f w y z) :
    ∀ {lo : P} {rungs : List (P × W)}, Ascending lo rungs → InRung lo rungs v a b →
      climb f lo rungs b ≤ climb f lo rungs a + f v a b
  | lo, (hi, w) :: rest, _, .inl ⟨hw, hlo, hab, hb⟩ => by
      subst hw
      rw [climb, if_pos hb, climb, if_pos (hab.trans hb)]
      exact hsub _ _ _ _ hlo hab
  | lo, (hi, w) :: rest, hasc, .inr h => by
      obtain ⟨hlo, hab, _⟩ := h.bounds hasc.2
      rw [climb_cons_of_le hf hasc.2 hlo, climb_cons_of_le hf hasc.2 (hlo.trans hab), add_assoc]
      exact add_le_add_right (climb_le_of_inRung hf hsub hasc.2 h) _

/-- Climbing higher never costs less. -/
theorem climb_mono (hf : ∀ w x, f w x x = 0) (hnn : ∀ w x y, x ≤ y → 0 ≤ f w x y)
    (hmono : ∀ w x y z, x ≤ y → y ≤ z → f w x y ≤ f w x z) :
    ∀ {lo p q : P} {rungs : List (P × W)}, Ascending lo rungs → lo ≤ p → p ≤ q →
      climb f lo rungs p ≤ climb f lo rungs q
  | _, _, _, [], _, _, _ => le_rfl
  | lo, p, q, (hi, w) :: rest, hasc, hlo, hpq => by
      have hrest : ∀ {x}, hi ≤ x → 0 ≤ climb f hi rest x := fun {x} hx => by
        rw [← climb_self hf hasc.2]
        exact climb_mono hf hnn hmono hasc.2 le_rfl hx
      by_cases hq : q ≤ hi
      · rw [climb, if_pos (hpq.trans hq), climb, if_pos hq]
        exact hmono _ _ _ _ hlo hpq
      · have hqlt := not_le.mp hq
        rw [climb_cons_of_le hf hasc.2 hqlt.le]
        by_cases hp : p ≤ hi
        · rw [climb, if_pos hp]
          calc f w lo p ≤ f w lo hi := hmono _ _ _ _ hlo hp
            _ ≤ f w lo hi + climb f hi rest q := le_add_of_nonneg_right (hrest hqlt.le)
        · have hplt := not_le.mp hp
          rw [climb_cons_of_le hf hasc.2 hplt.le]
          exact add_le_add_right (climb_mono hf hnn hmono hasc.2 hplt.le hpq) _

/-- Costs compared rung by rung compare along the ladder. -/
theorem climb_le_climb : ∀ {lo : P} {rungs : List (P × W)}, Ascending lo rungs → lo ≤ p →
    (∀ w x y, (∃ hi, (hi, w) ∈ rungs) → lo ≤ x → x ≤ y → f w x y ≤ g w x y) →
      climb f lo rungs p ≤ climb g lo rungs p
  | _, [], _, _, _ => le_rfl
  | lo, (hi, w) :: rest, hasc, hp, hfg => by
      have hhead : ∃ top, (top, w) ∈ (hi, w) :: rest := ⟨hi, List.mem_cons_self⟩
      simp only [climb]
      split_ifs with hphi
      · exact hfg w lo p hhead le_rfl hp
      · have hlt := not_le.mp hphi
        refine add_le_add (hfg w lo hi hhead le_rfl hasc.1.le)
          (climb_le_climb hasc.2 hlt.le fun u x y hu hx hxy => ?_)
        obtain ⟨top, hmem⟩ := hu
        exact hfg u x y ⟨top, List.mem_cons_of_mem _ hmem⟩ (hasc.1.le.trans hx) hxy

/-- What is left to climb from `q` costs at most the whole climb. -/
theorem climb_above_le (hf : ∀ w x, f w x x = 0) (hnn : ∀ w x y, x ≤ y → 0 ≤ f w x y) {q : P} :
    ∀ {lo : P} {rungs : List (P × W)},
      (∀ w x y z, lo ≤ x → x ≤ y → y ≤ z → f w y z ≤ f w x z) → Ascending lo rungs → lo ≤ q →
      q ≤ p → climb f q (above q rungs) p ≤ climb f lo rungs p
  | _, [], _, _, _, _ => le_rfl
  | lo, (hi, w) :: rest, hanti, hasc, hlo, hqp => by
      unfold above
      by_cases hq : hi ≤ q
      · rw [List.dropWhile_cons_of_pos (by simpa using hq),
          climb_cons_of_le hf hasc.2 (hq.trans hqp)]
        calc climb f q (above q rest) p ≤ climb f hi rest p :=
              climb_above_le hf hnn (fun w x y z hx => hanti w x y z (hasc.1.le.trans hx)) hasc.2 hq
                hqp
          _ ≤ f w lo hi + climb f hi rest p := le_add_of_nonneg_left (hnn w lo hi hasc.1.le)
      · rw [List.dropWhile_cons_of_neg (by simpa using hq)]
        simp only [climb]
        split_ifs with hp
        · exact hanti w lo q p le_rfl hlo hqp
        · gcongr
          exact hanti w lo q hi le_rfl hlo (not_le.mp hq).le

/-- **A rest on the way never costs less**: a subadditive cost is at most the climb to `q` and the
climb on from there. -/
theorem climb_le_climb_add_above (hf : ∀ w x, f w x x = 0) {q : P} :
    ∀ {lo : P} {rungs : List (P × W)},
      (∀ w x y z, lo ≤ x → x ≤ y → y ≤ z → f w x z ≤ f w x y + f w y z) → Ascending lo rungs →
      lo ≤ q → q ≤ p → climb f lo rungs p ≤ climb f lo rungs q + climb f q (above q rungs) p
  | _, [], _, _, _, _ => by
      show (0 : M) ≤ 0 + 0
      rw [add_zero]
  | lo, (hi, w) :: rest, hsub, hasc, hlo, hqp => by
      unfold above
      by_cases hq : hi ≤ q
      · -- the rest lies above the rung, which both sides cross in full
        rw [List.dropWhile_cons_of_pos (by simpa using hq), climb_cons_of_le hf hasc.2 hq,
          climb_cons_of_le hf hasc.2 (hq.trans hqp), add_assoc]
        apply add_le_add_right
        exact climb_le_climb_add_above hf (fun w x y z hx => hsub w x y z (hasc.1.le.trans hx))
          hasc.2 hq hqp
      · rw [List.dropWhile_cons_of_neg (by simpa using hq)]
        have hqhi : q < hi := not_le.mp hq
        simp only [climb, if_pos hqhi.le]
        split_ifs with hp
        · exact hsub w lo q p le_rfl hlo hqp
        · rw [← add_assoc]
          apply add_le_add_left
          exact hsub w lo q hi le_rfl hlo hqhi.le

/-- **A rest on the way never gives more**: a superadditive cost is at least the climb to `q` and
the climb on from there. -/
theorem climb_add_above_le_climb (hf : ∀ w x, f w x x = 0) {q : P}
    (hsup : ∀ w x y z, lo ≤ x → x ≤ y → y ≤ z → f w x y + f w y z ≤ f w x z)
    (hasc : Ascending lo rungs) (hlo : lo ≤ q) (hqp : q ≤ p) :
    climb f lo rungs q + climb f q (above q rungs) p ≤ climb f lo rungs p := by
  -- in the opposite order the cost is subadditive
  have h := climb_le_climb_add_above (M := Mᵒᵈ) (f := f) (p := p) hf hsup hasc hlo hqp
  exact h

end Climb

section Strict

variable [AddCommMonoid M] [PartialOrder M] [IsOrderedCancelAddMonoid M] {f : W → P → P → M}

/-- Below the top of the ladder, climbing strictly higher costs strictly more. -/
theorem climb_strictMono (hf : ∀ w x, f w x x = 0)
    (hadd : ∀ w x y z, x ≤ y → y ≤ z → f w x z = f w x y + f w y z) :
    ∀ {lo p q : P} {rungs : List (P × W)}, Ascending lo rungs →
      (∀ w x y, (∃ hi, (hi, w) ∈ rungs) → lo ≤ x → x < y → 0 < f w x y) → lo ≤ p → p < q →
      q ≤ ladderTop lo rungs → climb f lo rungs p < climb f lo rungs q
  | _, _, _, [], _, _, hlo, hpq, htop => absurd htop (hlo.trans_lt hpq).not_ge
  | lo, p, q, (hi, w) :: rest, hasc, hpos, hlo, hpq, htop => by
      have hhead : ∃ top, (top, w) ∈ (hi, w) :: rest := ⟨hi, List.mem_cons_self⟩
      have hpos' : ∀ u x y, (∃ top, (top, u) ∈ rest) → hi ≤ x → x < y → 0 < f u x y := by
        rintro u x y ⟨top, hmem⟩ hx hxy
        exact hpos u x y ⟨top, List.mem_cons_of_mem _ hmem⟩ (hasc.1.le.trans hx) hxy
      by_cases hq : q ≤ hi
      · rw [climb, if_pos (hpq.le.trans hq), climb, if_pos hq, hadd w lo p q hlo hpq.le]
        exact lt_add_of_pos_right _ (hpos w p q hhead hlo hpq)
      · have hqlt := not_le.mp hq
        rw [climb_cons_of_le hf hasc.2 hqlt.le]
        by_cases hp : hi ≤ p
        · rw [climb_cons_of_le hf hasc.2 hp]
          exact add_lt_add_right (climb_strictMono hf hadd hasc.2 hpos' hp hpq htop) _
        · have hplt := not_le.mp hp
          have htail := climb_strictMono hf hadd hasc.2 hpos' le_rfl hqlt htop
          rw [climb_self hf hasc.2] at htail
          rw [climb, if_pos hplt.le, hadd w lo p hi hlo hplt.le, add_assoc]
          exact lt_add_of_pos_right _ (add_pos (hpos w p hi hhead hlo hplt) htail)

end Strict

/-! ## Paths -/

/-- Finitely many intervals end to end from `a` up to `d`, each inside one rung and each carrying
a payload that `R` ties to it; the payloads are added up. -/
inductive Path [AddCommMonoid X] (lo : P) (rungs : List (P × W)) (R : W → P → P → X → Prop) :
    P → P → X → Prop
  /-- The empty path. -/
  | nil (a : P) : Path lo rungs R a a 0
  /-- One interval, then a path from its end. -/
  | cons {v : W} {a b d : P} {x y : X} (hin : InRung lo rungs v a b) (hR : R v a b x)
      (rest : Path lo rungs R b d y) : Path lo rungs R a d (x + y)

namespace Path

variable [AddCommMonoid X] {lo : P} {rungs : List (P × W)} {R S : W → P → P → X → Prop}
  {a b d : P} {x y : X} {v : W}

/-- A move inside one rung is a path. -/
theorem single (hin : InRung lo rungs v a b) (hR : R v a b x) : Path lo rungs R a b x := by
  have := cons hin hR (nil b)
  rwa [add_zero] at this

/-- A path on the upper rungs is a path on the whole ladder. -/
theorem lift {hi : P} {w : W} (h : Path hi rungs R a b x) :
    Path lo ((hi, w) :: rungs) R a b x := by
  induction h with
  | nil a => exact nil a
  | cons hin hR _ ih => exact cons (.inr hin) hR ih

/-- A path may be read by a weaker relation. -/
theorem mono (hRS : ∀ w c e z, R w c e z → S w c e z) (h : Path lo rungs R a b x) :
    Path lo rungs S a b x := by
  induction h with
  | nil a => exact nil a
  | cons hin hR _ ih => exact cons hin (hRS _ _ _ _ hR) ih

/-- A path runs upwards. -/
theorem le (hasc : Ascending lo rungs) (h : Path lo rungs R a b x) : a ≤ b := by
  induction h with
  | nil a => exact le_rfl
  | cons hin _ _ ih => exact (hin.bounds hasc).2.1.trans ih

variable [AddCommMonoid M] [PartialOrder M] [IsOrderedAddMonoid M] {f : W → P → P → M}

/-- **A path pays for the climb**: when every interval carries at least its cost, the whole path
carries at least the increase of the climb. -/
theorem climb_le (hf : ∀ w x, f w x x = 0)
    (hsub : ∀ w x y z, x ≤ y → y ≤ z → f w x z ≤ f w x y + f w y z)
    (hasc : Ascending lo rungs) (φ : X →+ M) (hR : ∀ w c e z, R w c e z → f w c e ≤ φ z)
    (h : Path lo rungs R a d x) :
    climb f lo rungs d ≤ climb f lo rungs a + φ x := by
  induction h with
  | nil a => rw [map_zero, add_zero]
  | @cons v a b d x y hin hRx _ ih =>
      calc climb f lo rungs d ≤ climb f lo rungs b + φ y := ih
        _ ≤ climb f lo rungs a + f v a b + φ y := by
            gcongr
            exact climb_le_of_inRung hf hsub hasc hin
        _ ≤ climb f lo rungs a + φ x + φ y := by
            gcongr
            exact hR _ _ _ _ hRx
        _ = climb f lo rungs a + φ (x + y) := by rw [map_add, add_assoc]

/-- **A path is paid for by the climb**: when every interval carries at most its cost, the whole
path carries at most the increase of the climb. -/
theorem le_climb (hf : ∀ w x, f w x x = 0)
    (hadd : ∀ w x y z, x ≤ y → y ≤ z → f w x z = f w x y + f w y z)
    (hasc : Ascending lo rungs) (φ : X →+ M) (hR : ∀ w c e z, R w c e z → φ z ≤ f w c e)
    (h : Path lo rungs R a d x) :
    climb f lo rungs a + φ x ≤ climb f lo rungs d := by
  induction h with
  | nil a => rw [map_zero, add_zero]
  | @cons v a b d x y hin hRx _ ih =>
      calc climb f lo rungs a + φ (x + y) = climb f lo rungs a + φ x + φ y := by
            rw [map_add, add_assoc]
        _ ≤ climb f lo rungs a + f v a b + φ y := by
            gcongr
            exact hR _ _ _ _ hRx
        _ = climb f lo rungs b + φ y := by rw [climb_eq_of_inRung hf hadd hasc hin]
        _ ≤ climb f lo rungs d := ih

/-- **What every interval above a place keeps, the sums over a path keep.** -/
theorem map_le_map (hasc : Ascending lo rungs) (φ ψ : X →+ M) {low : P}
    (hR : ∀ w c e z, low ≤ c → c ≤ e → R w c e z → φ z ≤ ψ z) (h : Path lo rungs R a d x)
    (hlow : low ≤ a) : φ x ≤ ψ x := by
  induction h with
  | nil a => rw [map_zero, map_zero]
  | @cons v a b d x y hin hRx _ ih =>
    have hab := (hin.bounds hasc).2.1
    rw [map_add, map_add]
    exact add_le_add (hR _ _ _ _ hlow hab hRx) (ih (hlow.trans hab))

end Path

end Library
