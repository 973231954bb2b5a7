import DynamicBondingCurve.State.VirtualPool
import DynamicBondingCurve.AcceptedConfig

/-!
# The calculators as paths along the curve

Each of the four calculators moves the price through segments of the curve. Here each is shown to
follow a path along the ladder of the curve whose payload is the quote and the base exchanged:

* `BuyMove`, `SellMove`: what a move inside one segment guarantees the pool.
* `calculateQuoteToBaseFromAmountIn_path`, `calculateQuoteToBaseFromAmountOut_path`: **a buy
  follows a path of `BuyMove`s**.
* `calculateBaseToQuoteFromAmountIn_path`, `calculateBaseToQuoteFromAmountOut_path`: **a sell
  follows a path of `SellMove`s downwards**.
-/

namespace DynamicBondingCurve

open Library

/-- A move up inside a segment takes the rounded-up quote of the interval at least, and gives its
exact base at most.
Source: none: the guarantee of `curve.rs` as the calculators round it -/
def BuyMove (L a b : ℕ) (x : ℕ × ℕ) : Prop :=
  quoteUp L a b ≤ x.1 ∧ (x.2 : ℚ) ≤ baseExact L a b

/-- A move down inside a segment, from `b` to `a`, gives the exact quote of the interval at most,
and takes its exact base at least.
Source: none: the guarantee of `curve.rs` as the calculators round it -/
def SellMove (L a b : ℕ) (x : ℕ × ℕ) : Prop :=
  2 ^ 128 * x.1 ≤ quoteExact L a b ∧ baseExact L a b ≤ x.2

/-- The stored form of the end of a curve: the points left and the empty places after them.
Source: `state/config.rs` `PoolConfig::init`, the loop over the curve -/
def padded (points : List LiquidityDistributionParameters) (empty : ℕ) :
    List LiquidityDistributionConfig :=
  points.map LiquidityDistributionParameters.toLiquidityDistributionConfig ++
    List.replicate empty { sqrtPrice := 0, liquidity := 0 }

/-- The first point of a padded curve. -/
theorem padded_cons (top L : ℕ) (points : List LiquidityDistributionParameters) (empty : ℕ) :
    padded (⟨top, L⟩ :: points) empty = ⟨top, L⟩ :: padded points empty := rfl

/-- A point of the curve is not an empty place. -/
theorem not_isEmpty {lower top L : ℕ} (hprice : lower < top) (hL : 0 < L) :
    ¬ (⟨top, L⟩ : LiquidityDistributionConfig).IsEmpty := by
  rintro (h | h)
  · exact absurd h (by simp only; omega)
  · exact absurd h hL.ne'

/-! ## Buys -/

section Buys

variable {stop k : ℕ}

/-- The loop of a buy stops at an empty place. -/
theorem quoteToBaseFromAmountInLoop_empty (s : Walk) :
    quoteToBaseFromAmountInLoop stop (padded [] k) s = .ok s := by
  cases k with
  | zero => rfl
  | succ n =>
    simp only [padded, List.map_nil, List.nil_append, List.replicate_succ,
      quoteToBaseFromAmountInLoop, LiquidityDistributionConfig.IsEmpty, true_or, if_true]
    rfl

/-- The loop of a buy stops at an empty place. -/
theorem quoteToBaseFromAmountOutLoop_empty (s : Walk) :
    quoteToBaseFromAmountOutLoop (padded [] k) s = .ok s := by
  cases k with
  | zero => rfl
  | succ n =>
    simp only [padded, List.map_nil, List.nil_append, List.replicate_succ,
      quoteToBaseFromAmountOutLoop, LiquidityDistributionConfig.IsEmpty, true_or, if_true]
    rfl

/-- A walk that stands at its stop stays there.
Source: `state/virtual_pool.rs` `calculate_quote_to_base_from_amount_in`, the loop -/
theorem quoteToBaseFromAmountInLoop_stop {s : Walk} (hstop : stop ≤ s.sqrtPrice) :
    ∀ curve : List LiquidityDistributionConfig,
      quoteToBaseFromAmountInLoop stop curve s = .ok s
  | [] => rfl
  | point :: rest => by
      have hno : ¬ min stop point.sqrtPrice > s.sqrtPrice :=
        not_lt.mpr ((min_le_left _ _).trans hstop)
      rw [quoteToBaseFromAmountInLoop]
      by_cases hempty : point.IsEmpty
      · rw [if_pos hempty]
        rfl
      · rw [if_neg hempty, if_neg hno]
        exact quoteToBaseFromAmountInLoop_stop hstop rest

/-- The loop of a buy for an amount in follows a path: what is used of the amount is its quote,
what is accumulated its base, and the price does not pass the stop.
Source: `state/virtual_pool.rs` `calculate_quote_to_base_from_amount_in`, the loop -/
theorem quoteToBaseFromAmountInLoop_path :
    ∀ {points : List LiquidityDistributionParameters} {lower : ℕ} {s s' : Walk},
      Ascending lower (rungs points) → LiquidityInRange points → lower ≤ s.sqrtPrice →
      s.sqrtPrice ≤ stop →
      quoteToBaseFromAmountInLoop stop (padded points k) s = .ok s' →
        ∃ used gained, s.amountLeft = s'.amountLeft + used ∧ s'.total = s.total + gained ∧
          s'.sqrtPrice ≤ stop ∧
          Path lower (rungs points) BuyMove s.sqrtPrice s'.sqrtPrice (used, gained)
  | [], lower, s, s', _, _, _, hstop, h => by
      rw [quoteToBaseFromAmountInLoop_empty] at h
      cases h
      exact ⟨0, 0, rfl, rfl, hstop, .nil _⟩
  | ⟨top, L⟩ :: rest, lower, s, s', hasc, hliq, hlo, hstop, h => by
      have hL : 0 < L := (hliq ⟨top, L⟩ List.mem_cons_self).1
      have hliq' : LiquidityInRange rest := fun q hq => hliq q (List.mem_cons_of_mem _ hq)
      have hasc' : Ascending top (rungs rest) := hasc.2
      rw [padded_cons, quoteToBaseFromAmountInLoop, if_neg (not_isEmpty hasc.1 hL)] at h
      by_cases hup : min stop top > s.sqrtPrice
      · rw [if_pos hup] at h
        simp only [bind_eq_ok] at h
        obtain ⟨maxAmountIn, hmax, h⟩ := h
        obtain ⟨_, hmaxeq⟩ := getDeltaAmountQuoteUnsigned256_spec hmax
        have hreach : min stop top ≤ top := min_le_right _ _
        split_ifs at h with hshort hend
        · -- the amount ends inside this segment
          simp only [bind_eq_ok, safeAdd_eq_ok, pure_eq_ok] at h
          obtain ⟨next, hnext, out, hout, _, ⟨_, rfl⟩, rfl⟩ := h
          obtain ⟨_, _, hnexteq⟩ := getNextSqrtPriceFromInput_quote_spec hnext
          obtain ⟨_, hpos, houteq⟩ := getDeltaAmountBaseUnsigned_spec hout
          rw [hmaxeq] at hshort
          obtain ⟨hle, hhi, hcost⟩ := quoteIn_move hL hshort hnexteq
          refine ⟨s.amountLeft, out, (Nat.zero_add _).symm, rfl,
            hhi.trans (min_le_left _ _), .single (.inl ⟨rfl, hlo, hle, hhi.trans hreach⟩) ?_⟩
          exact ⟨hcost, by rw [houteq]; exact baseDown_le_baseExact hpos hle⟩
        · -- the segment is crossed up to the stop
          simp only [bind_eq_ok, safeAdd_eq_ok, safeCast_eq_ok, safeSub_eq_ok, pure_eq_ok] at h
          obtain ⟨out, hout, _, ⟨_, rfl⟩, maxAmountIn, ⟨_, rfl⟩, _, ⟨hle, rfl⟩, rfl⟩ := h
          obtain ⟨hle', hpos, houteq⟩ := getDeltaAmountBaseUnsigned_spec hout
          refine ⟨maxAmountIn, out, (Nat.sub_add_cancel hle).symm, rfl, min_le_left _ _,
            .single (.inl ⟨rfl, hlo, hle', hreach⟩) ?_⟩
          exact ⟨hmaxeq.ge, by rw [houteq]; exact baseDown_le_baseExact hpos hle'⟩
        · -- the segment is crossed to its top, and the walk goes on from there
          simp only [bind_eq_ok, safeAdd_eq_ok, safeCast_eq_ok, safeSub_eq_ok] at h
          obtain ⟨out, hout, _, ⟨_, rfl⟩, maxAmountIn, ⟨_, rfl⟩, _, ⟨hle, rfl⟩, hrest⟩ := h
          obtain ⟨hle', hpos, houteq⟩ := getDeltaAmountBaseUnsigned_spec hout
          have hend' : min stop top = top := by
            rcases min_choice stop top with hmin | hmin
            · exact absurd hmin hend
            · exact hmin
          obtain ⟨used, gained, hused, hgained, hstop', hpath⟩ :=
            quoteToBaseFromAmountInLoop_path hasc' hliq' hend'.ge (min_le_left _ _) hrest
          simp only at hused hgained
          refine ⟨maxAmountIn + used, out + gained, by omega, by omega, hstop', ?_⟩
          refine .cons (x := (maxAmountIn, out)) (y := (used, gained))
            (.inl ⟨rfl, hlo, hle', hreach⟩) ?_ hpath.lift
          exact ⟨hmaxeq.ge, by rw [houteq]; exact baseDown_le_baseExact hpos hle'⟩
      · -- the price is above this segment, or at the stop
        rw [if_neg hup] at h
        by_cases hp : top ≤ s.sqrtPrice
        · obtain ⟨used, gained, hused, hgained, hstop', hpath⟩ :=
            quoteToBaseFromAmountInLoop_path hasc' hliq' hp hstop h
          exact ⟨used, gained, hused, hgained, hstop', hpath.lift⟩
        · have hat : stop ≤ s.sqrtPrice := by
            rcases min_choice stop top with hmin | hmin <;> omega
          rw [quoteToBaseFromAmountInLoop_stop hat] at h
          cases h
          exact ⟨0, 0, rfl, rfl, hstop, .nil _⟩

/-- The loop of a buy for an amount out follows a path: what is used of the amount is its base,
what is accumulated its quote.
Source: `state/virtual_pool.rs` `calculate_quote_to_base_from_amount_out`, the loop -/
theorem quoteToBaseFromAmountOutLoop_path :
    ∀ {points : List LiquidityDistributionParameters} {lower : ℕ} {s s' : Walk},
      Ascending lower (rungs points) → LiquidityInRange points → lower ≤ s.sqrtPrice →
      quoteToBaseFromAmountOutLoop (padded points k) s = .ok s' →
        ∃ used gained, s.amountLeft = s'.amountLeft + used ∧ s'.total = s.total + gained ∧
          Path lower (rungs points) BuyMove s.sqrtPrice s'.sqrtPrice (gained, used)
  | [], lower, s, s', _, _, _, h => by
      rw [quoteToBaseFromAmountOutLoop_empty] at h
      cases h
      exact ⟨0, 0, rfl, rfl, .nil _⟩
  | ⟨top, L⟩ :: rest, lower, s, s', hasc, hliq, hlo, h => by
      have hL : 0 < L := (hliq ⟨top, L⟩ List.mem_cons_self).1
      have hliq' : LiquidityInRange rest := fun q hq => hliq q (List.mem_cons_of_mem _ hq)
      have hasc' : Ascending top (rungs rest) := hasc.2
      rw [padded_cons, quoteToBaseFromAmountOutLoop, if_neg (not_isEmpty hasc.1 hL)] at h
      by_cases hup : top > s.sqrtPrice
      · rw [if_pos hup] at h
        simp only [bind_eq_ok] at h
        obtain ⟨maxAmountOut, hmax, h⟩ := h
        obtain ⟨_, hpos, hmaxeq⟩ := getDeltaAmountBaseUnsigned256_spec hmax
        split_ifs at h with hshort
        · -- the amount ends inside this segment
          simp only [bind_eq_ok, safeAdd_eq_ok, pure_eq_ok] at h
          obtain ⟨next, hnext, paid, hpaid, _, ⟨_, rfl⟩, rfl⟩ := h
          obtain ⟨_, _, hden, hnexteq⟩ := getNextSqrtPriceFromOutput_base_spec hnext
          obtain ⟨_, hpaideq⟩ := getDeltaAmountQuoteUnsigned_spec hpaid
          rw [hmaxeq] at hshort
          obtain ⟨hle, hhi, hgive⟩ := baseOut_move hpos hup.le hden hshort.le hnexteq
          refine ⟨s.amountLeft, paid, (Nat.zero_add _).symm, rfl,
            .single (.inl ⟨rfl, hlo, hle, hhi⟩) ⟨hpaideq.ge, hgive⟩⟩
        · -- the segment is crossed to its top, and the walk goes on from there
          simp only [bind_eq_ok, safeAdd_eq_ok, safeCast_eq_ok, safeSub_eq_ok] at h
          obtain ⟨paid, hpaid, _, ⟨_, rfl⟩, maxAmountOut, ⟨_, rfl⟩, _, ⟨hle, rfl⟩, hrest⟩ := h
          obtain ⟨hle', hpaideq⟩ := getDeltaAmountQuoteUnsigned_spec hpaid
          obtain ⟨used, gained, hused, hgained, hpath⟩ :=
            quoteToBaseFromAmountOutLoop_path hasc' hliq' le_rfl hrest
          simp only at hused hgained
          refine ⟨maxAmountOut + used, paid + gained, by omega, by omega, ?_⟩
          refine .cons (x := (paid, maxAmountOut)) (y := (gained, used))
            (.inl ⟨rfl, hlo, hle', le_rfl⟩) ?_ hpath.lift
          exact ⟨hpaideq.ge, by rw [hmaxeq]; exact baseDown_le_baseExact hpos hle'⟩
      · rw [if_neg hup] at h
        obtain ⟨used, gained, hused, hgained, hpath⟩ :=
          quoteToBaseFromAmountOutLoop_path hasc' hliq' (not_lt.mp hup) h
        exact ⟨used, gained, hused, hgained, hpath.lift⟩

end Buys

/-! ## Sells -/

section Sells

variable {body : LiquidityDistributionConfig → ℕ → Walk → Result (Walk × Bool)}
  {pay : ℕ × ℕ →+ ℕ × ℕ} {k : ℕ}

/-- What the body of a sell does on one segment: nothing below the segment or at an empty place,
a move down inside it otherwise. `pay` reads the amount used and the amount accumulated as the
quote and the base of the move.
Source: none: the common contract of the two bodies -/
structure SellBody (pay : ℕ × ℕ →+ ℕ × ℕ)
    (body : LiquidityDistributionConfig → ℕ → Walk → Result (Walk × Bool)) : Prop where
  /-- Nothing happens at an empty place or below the segment. -/
  skip : ∀ {point : LiquidityDistributionConfig} {L : ℕ} {s : Walk},
    point.IsEmpty ∨ s.sqrtPrice ≤ point.sqrtPrice → body point L s = .ok (s, false)
  /-- Otherwise the price moves down, to the point itself unless the loop is left. -/
  move : ∀ {point : LiquidityDistributionConfig} {L : ℕ} {s s' : Walk} {stopped : Bool},
    ¬ point.IsEmpty → point.sqrtPrice < s.sqrtPrice → 0 < L →
    body point L s = .ok (s', stopped) →
      ∃ used gained, s.amountLeft = s'.amountLeft + used ∧ s'.total = s.total + gained ∧
        point.sqrtPrice ≤ s'.sqrtPrice ∧ s'.sqrtPrice ≤ s.sqrtPrice ∧
        SellMove L s'.sqrtPrice s.sqrtPrice (pay (used, gained)) ∧
        (stopped = false → s'.sqrtPrice = point.sqrtPrice) ∧
        (stopped = true → s'.amountLeft = 0)

/-- The loop of a sell passes over empty places. -/
theorem baseToQuoteLoop_empty (hbody : SellBody pay body) (s : Walk) :
    ∀ k, baseToQuoteLoop body (List.replicate k { sqrtPrice := 0, liquidity := 0 }) s =
      .ok (s, false)
  | 0 => rfl
  | 1 => rfl
  | k + 2 => by
      have ih := baseToQuoteLoop_empty hbody s (k + 1)
      rw [List.replicate_succ] at ih
      rw [List.replicate_succ, List.replicate_succ, baseToQuoteLoop, ih]
      exact hbody.skip (.inl (.inl rfl))

/-- The loop of a sell does nothing above the last point. -/
theorem baseToQuoteLoop_last (hbody : SellBody pay body) {top L : ℕ} {s : Walk}
    (htop : s.sqrtPrice ≤ top) : baseToQuoteLoop body (padded [⟨top, L⟩] k) s = .ok (s, false) := by
  cases k with
  | zero => rfl
  | succ n =>
    have hempty := baseToQuoteLoop_empty hbody s (n + 1)
    rw [List.replicate_succ] at hempty
    rw [padded_cons, padded, List.map_nil, List.nil_append, List.replicate_succ,
      baseToQuoteLoop, hempty]
    exact hbody.skip (.inr htop)

/-- The loop of a sell follows a path downwards. Unless it is left, it ends at the top of the
first segment or below it.
Source: `state/virtual_pool.rs`, the loops of the two sells -/
theorem baseToQuoteLoop_path (hbody : SellBody pay body) :
    ∀ {points : List LiquidityDistributionParameters} {top L : ℕ} {s s' : Walk} {stopped : Bool},
      0 < top → 0 < L → Ascending top (rungs points) → LiquidityInRange points →
      s.sqrtPrice ≤ ladderTop top (rungs points) →
      baseToQuoteLoop body (padded (⟨top, L⟩ :: points) k) s = .ok (s', stopped) →
        ∃ used gained, s.amountLeft = s'.amountLeft + used ∧ s'.total = s.total + gained ∧
          Path top (rungs points) SellMove s'.sqrtPrice s.sqrtPrice (pay (used, gained)) ∧
          (stopped = false → s'.sqrtPrice = min s.sqrtPrice top) ∧
          (stopped = true → top ≤ s'.sqrtPrice ∧ s'.amountLeft = 0)
  | [], top, L, s, s', stopped, _, _, _, _, htop, h => by
      have hsame : baseToQuoteLoop body (padded [⟨top, L⟩] k) s = .ok (s, false) :=
        baseToQuoteLoop_last hbody htop
      rw [hsame] at h
      cases h
      refine ⟨0, 0, rfl, rfl, ?_, fun _ => (min_eq_left htop).symm, fun h => by cases h⟩
      have hzero : pay (0, 0) = 0 := map_zero pay
      rw [hzero]
      exact .nil _
  | ⟨top', L'⟩ :: rest, top, L, s, s', stopped, hpos, hL, hasc, hliq, htop, h => by
      have hL' : 0 < L' := (hliq ⟨top', L'⟩ List.mem_cons_self).1
      have hliq' : LiquidityInRange rest := fun q hq => hliq q (List.mem_cons_of_mem _ hq)
      rw [padded_cons, padded_cons, baseToQuoteLoop, ← padded_cons] at h
      simp only [bind_eq_ok] at h
      obtain ⟨⟨mid, left⟩, hmid, h⟩ := h
      obtain ⟨used, gained, hused, hgained, hpath, hgo, hleft⟩ :=
        baseToQuoteLoop_path hbody (hpos.trans hasc.1) hL' hasc.2 hliq' htop hmid
      cases left with
      | true =>
        simp only [if_true, pure_eq_ok, Prod.mk.injEq] at h
        obtain ⟨rfl, rfl⟩ := h
        obtain ⟨hge, hzero⟩ := hleft rfl
        exact ⟨used, gained, hused, hgained, hpath.lift, fun h => (by cases h),
          fun _ => ⟨hasc.1.le.trans hge, hzero⟩⟩
      | false =>
        simp only [Bool.false_eq_true, if_false] at h
        have hmidle : mid.sqrtPrice = min s.sqrtPrice top' := hgo rfl
        by_cases hdown : top < mid.sqrtPrice
        · obtain ⟨used', gained', hused', hgained', hge, hle, hmove, hgo', hleft'⟩ :=
            hbody.move (not_isEmpty hpos hL) hdown hL' h
          refine ⟨used' + used, gained' + gained, by omega, by omega, ?_, ?_, ?_⟩
          · have hadd : pay (used' + used, gained' + gained) =
                pay (used', gained') + pay (used, gained) := by rw [← map_add]; rfl
            rw [hadd]
            refine .cons (.inl ⟨rfl, hge, hle, ?_⟩) hmove hpath.lift
            rw [hmidle]
            exact min_le_right _ _
          · intro hgoes
            have hat := hgo' hgoes
            simp only at hat
            rw [hat, min_eq_right]
            exact hdown.le.trans (by rw [hmidle]; exact min_le_left _ _)
          · exact fun hstops => ⟨hge, hleft' hstops⟩
        · rw [hbody.skip (.inr (not_lt.mp hdown))] at h
          cases h
          refine ⟨used, gained, hused, hgained, hpath.lift, fun _ => ?_, fun h => by cases h⟩
          have hlt : top < top' := hasc.1
          omega

/-- The body of a sell for an amount in: the amount used is the base, what is accumulated the
quote.
Source: `state/virtual_pool.rs` `calculate_base_to_quote_from_amount_in`, the body of the loop -/
theorem baseToQuoteFromAmountInStep_sellBody :
    SellBody (AddEquiv.prodComm : ℕ × ℕ ≃+ ℕ × ℕ).toAddMonoidHom baseToQuoteFromAmountInStep where
  skip := by
    intro point L s h
    rw [baseToQuoteFromAmountInStep]
    rcases h with hempty | hle
    · rw [if_pos hempty]
      rfl
    · rw [if_neg (not_lt.mpr hle)]
      split_ifs <;> rfl
  move := by
    intro point L s s' stopped hne hdown hL h
    rw [baseToQuoteFromAmountInStep, if_neg hne, if_pos hdown] at h
    simp only [bind_eq_ok] at h
    obtain ⟨maxAmountIn, hmax, h⟩ := h
    obtain ⟨_, hpos, hmaxeq⟩ := getDeltaAmountBaseUnsigned256_spec hmax
    split_ifs at h with hshort
    · simp only [bind_eq_ok, safeAdd_eq_ok, pure_eq_ok, Prod.mk.injEq] at h
      obtain ⟨next, hnext, out, hout, _, ⟨_, rfl⟩, rfl, rfl⟩ := h
      obtain ⟨hp, _, hnexteq⟩ := getNextSqrtPriceFromInput_base_spec hnext
      obtain ⟨hle, houteq⟩ := getDeltaAmountQuoteUnsigned_spec hout
      obtain ⟨_, _, hgive, hlow⟩ := baseIn_move point.sqrtPrice hL hp hnexteq
      rw [hmaxeq] at hshort
      refine ⟨s.amountLeft, out, (Nat.zero_add _).symm, rfl, hlow hpos hdown.le hshort, hle,
        ⟨?_, hgive⟩, fun h => (by cases h), fun _ => rfl⟩
      rw [houteq]
      exact Nat.mul_div_le _ _
    · simp only [bind_eq_ok, safeAdd_eq_ok, safeCast_eq_ok, safeSub_eq_ok, pure_eq_ok,
        Prod.mk.injEq] at h
      obtain ⟨out, hout, _, ⟨_, rfl⟩, maxAmountIn, ⟨_, rfl⟩, _, ⟨hle, rfl⟩, rfl, rfl⟩ := h
      obtain ⟨_, houteq⟩ := getDeltaAmountQuoteUnsigned_spec hout
      refine ⟨maxAmountIn, out, (Nat.sub_add_cancel hle).symm, rfl, le_rfl, hdown.le, ⟨?_, ?_⟩,
        fun _ => rfl, fun h => by cases h⟩
      · rw [houteq]
        exact Nat.mul_div_le _ _
      · rw [hmaxeq]
        exact baseExact_le_baseUp hpos hdown.le

/-- The body of a sell for an amount out: the amount used is the quote, what is accumulated the
base.
Source: `state/virtual_pool.rs` `calculate_base_to_quote_from_amount_out`, the body of the loop -/
theorem baseToQuoteFromAmountOutStep_sellBody :
    SellBody (AddMonoidHom.id (ℕ × ℕ)) baseToQuoteFromAmountOutStep where
  skip := by
    intro point L s h
    rw [baseToQuoteFromAmountOutStep]
    rcases h with hempty | hle
    · rw [if_pos hempty]
      rfl
    · rw [if_neg (not_lt.mpr hle)]
      split_ifs <;> rfl
  move := by
    intro point L s s' stopped hne hdown hL h
    rw [baseToQuoteFromAmountOutStep, if_neg hne, if_pos hdown] at h
    simp only [bind_eq_ok] at h
    obtain ⟨maxAmountOut, hmax, h⟩ := h
    obtain ⟨_, hmaxeq⟩ := getDeltaAmountQuoteUnsigned256_spec hmax
    split_ifs at h with hshort
    · simp only [bind_eq_ok, safeAdd_eq_ok, pure_eq_ok, Prod.mk.injEq] at h
      obtain ⟨next, hnext, paid, hpaid, _, ⟨_, rfl⟩, rfl, rfl⟩ := h
      obtain ⟨_, _, _, hnexteq⟩ := getNextSqrtPriceFromOutput_quote_spec hnext
      obtain ⟨hle, hpos, hpaideq⟩ := getDeltaAmountBaseUnsigned_spec hpaid
      rw [hmaxeq] at hshort
      obtain ⟨hlow, _, hgive⟩ := quoteOut_move hL hdown.le hshort.le hnexteq
      refine ⟨s.amountLeft, paid, (Nat.zero_add _).symm, rfl, hlow, hle, ⟨hgive, ?_⟩,
        fun h => (by cases h), fun _ => rfl⟩
      rw [hpaideq]
      exact baseExact_le_baseUp hpos hle
    · simp only [bind_eq_ok, exists_unit, require_eq_ok, safeAdd_eq_ok, safeSub_eq_ok, pure_eq_ok,
        Prod.mk.injEq] at h
      obtain ⟨paid, hpaid, _, ⟨_, rfl⟩, _, _, ⟨hle, rfl⟩, rfl, rfl⟩ := h
      obtain ⟨_, hpos, hpaideq⟩ := getDeltaAmountBaseUnsigned_spec hpaid
      refine ⟨maxAmountOut, paid, (Nat.sub_add_cancel hle).symm, rfl, le_rfl, hdown.le, ⟨?_, ?_⟩,
        fun _ => rfl, fun h => by cases h⟩
      · rw [hmaxeq]
        exact Nat.mul_div_le _ _
      · rw [hpaideq]
        exact baseExact_le_baseUp hpos hdown.le

end Sells

/-! ## The calculators -/

namespace PoolState

variable (a : AcceptedConfig) {p : PoolState} {amount : ℕ}

/-- The path that a calculator follows along the curve of an accepted configuration.
Source: none: the abstract reading of a calculator -/
abbrev CurvePath (R : ℕ → ℕ → ℕ → ℕ × ℕ → Prop) (low high : ℕ) (x : ℕ × ℕ) : Prop :=
  Path a.config.sqrtStartPrice a.ladder R low high x

/-- The stored curve is the submitted one with empty points after it.
Source: `state/config.rs` `PoolConfig::init`, the loop over the curve -/
theorem curve_eq_padded :
    a.config.curve = padded a.params.curve (MAX_CURVE_POINT_CONFIG - a.params.curve.length) :=
  a.paramsCreated.curve_eq

/-- **A buy for an amount in follows a path of `BuyMove`s** up to the stop, worth what is used of
the amount and the base given.
Source: `state/virtual_pool.rs` `calculate_quote_to_base_from_amount_in` -/
theorem calculateQuoteToBaseFromAmountIn_path {stop : ℕ} {r : SwapAmountFromInput}
    (hstart : a.config.sqrtStartPrice ≤ p.sqrtPrice) (hstop : p.sqrtPrice ≤ stop)
    (h : p.calculateQuoteToBaseFromAmountIn a.config amount stop = .ok r) :
    ∃ used, amount = r.amountLeft + used ∧ r.nextSqrtPrice ≤ stop ∧
      CurvePath a BuyMove p.sqrtPrice r.nextSqrtPrice (used, r.outputAmount) := by
  simp only [calculateQuoteToBaseFromAmountIn, bind_eq_ok, pure_eq_ok, curve_eq_padded] at h
  obtain ⟨s, hloop, rfl⟩ := h
  obtain ⟨used, gained, hused, hgained, hle, hpath⟩ :=
    quoteToBaseFromAmountInLoop_path a.ascending a.liquidityInRange hstart hstop hloop
  simp only [Nat.zero_add] at hused hgained
  subst hgained
  exact ⟨used, hused, hle, hpath⟩

/-- **A buy for an amount out follows a path of `BuyMove`s**, worth the quote asked for and the
amount.
Source: `state/virtual_pool.rs` `calculate_quote_to_base_from_amount_out` -/
theorem calculateQuoteToBaseFromAmountOut_path {r : SwapAmountFromOutput}
    (hstart : a.config.sqrtStartPrice ≤ p.sqrtPrice)
    (h : p.calculateQuoteToBaseFromAmountOut a.config amount = .ok r) :
    CurvePath a BuyMove p.sqrtPrice r.nextSqrtPrice (r.amountIn, amount) := by
  simp only [calculateQuoteToBaseFromAmountOut, bind_eq_ok, exists_unit, require_eq_ok,
    pure_eq_ok, curve_eq_padded] at h
  obtain ⟨s, hloop, hzero, rfl⟩ := h
  obtain ⟨used, gained, hused, hgained, hpath⟩ :=
    quoteToBaseFromAmountOutLoop_path a.ascending a.liquidityInRange hstart hloop
  simp only [hzero, Nat.zero_add] at hused hgained
  subst hused hgained
  exact hpath

/-- The last segment of a sell for an amount in is a move down inside the first segment.
Source: `state/virtual_pool.rs` `calculate_base_to_quote_from_amount_in`, after the loop -/
theorem baseToQuoteFromAmountInLast_move {s s' : Walk} {L : ℕ}
    (hfirst : firstLiquidity a.config = .ok L)
    (h : baseToQuoteFromAmountInLast a.config s = .ok s') :
    ∃ used gained, s.amountLeft = s'.amountLeft + used ∧ s'.total = s.total + gained ∧
      a.config.sqrtStartPrice ≤ s'.sqrtPrice ∧ s'.sqrtPrice ≤ s.sqrtPrice ∧
      SellMove L s'.sqrtPrice s.sqrtPrice (gained, used) := by
  simp only [baseToQuoteFromAmountInLast, bind_eq_ok, safeAdd_eq_ok, pure_eq_ok] at h
  obtain ⟨L', hL', next, hnext, ⟨next', left⟩, hclamp, out, hout, _, ⟨_, rfl⟩, rfl⟩ := h
  rw [hfirst] at hL'
  cases hL'
  obtain ⟨hp, hL, hnexteq⟩ := getNextSqrtPriceFromInput_base_spec hnext
  obtain ⟨hle, houteq⟩ := getDeltaAmountQuoteUnsigned_spec hout
  have hquote : 2 ^ 128 * out ≤ quoteExact L next' s.sqrtPrice := by
    rw [houteq]
    exact Nat.mul_div_le _ _
  split_ifs at hclamp with hbelow
  · simp only [bind_eq_ok, safeSub_eq_ok, pure_eq_ok, Prod.mk.injEq] at hclamp
    obtain ⟨amountIn, hamount, _, ⟨hsub, rfl⟩, rfl, rfl⟩ := hclamp
    obtain ⟨_, hpos, hamounteq⟩ := getDeltaAmountBaseUnsigned_spec hamount
    refine ⟨amountIn, out, (Nat.sub_add_cancel hsub).symm, rfl, le_rfl, hle, hquote, ?_⟩
    rw [hamounteq]
    exact baseExact_le_baseUp hpos hle
  · simp only [pure_eq_ok, Prod.mk.injEq] at hclamp
    obtain ⟨rfl, rfl⟩ := hclamp
    obtain ⟨_, _, hgive, _⟩ := baseIn_move 0 hL hp hnexteq
    exact ⟨s.amountLeft, out, (Nat.zero_add _).symm, rfl, not_lt.mp hbelow, hle, hquote, hgive⟩

/-- The last segment of a sell for an amount out is a move down inside the first segment.
Source: `state/virtual_pool.rs` `calculate_base_to_quote_from_amount_out`, after the loop -/
theorem baseToQuoteFromAmountOutLast_move {s s' : Walk} {L : ℕ}
    (hfirst : firstLiquidity a.config = .ok L) (hstart : a.config.sqrtStartPrice ≤ s.sqrtPrice)
    (h : baseToQuoteFromAmountOutLast a.config s = .ok s') :
    ∃ gained, s'.total = s.total + gained ∧
      a.config.sqrtStartPrice ≤ s'.sqrtPrice ∧ s'.sqrtPrice ≤ s.sqrtPrice ∧
      SellMove L s'.sqrtPrice s.sqrtPrice (s.amountLeft, gained) := by
  simp only [baseToQuoteFromAmountOutLast, bind_eq_ok, exists_unit, require_eq_ok, safeAdd_eq_ok,
    pure_eq_ok] at h
  obtain ⟨L', hL', maxOut, hmax, hshort, next, hnext, hge, paid, hpaid, _, ⟨_, rfl⟩, rfl⟩ := h
  rw [hfirst] at hL'
  cases hL'
  obtain ⟨_, hmaxeq⟩ := getDeltaAmountQuoteUnsigned256_spec hmax
  obtain ⟨_, hL, _, hnexteq⟩ := getNextSqrtPriceFromOutput_quote_spec hnext
  obtain ⟨hle, hpos, hpaideq⟩ := getDeltaAmountBaseUnsigned_spec hpaid
  rw [hmaxeq] at hshort
  obtain ⟨_, _, hgive⟩ := quoteOut_move hL hstart hshort hnexteq
  refine ⟨paid, rfl, hge, hle, hgive, ?_⟩
  rw [hpaideq]
  exact baseExact_le_baseUp hpos hle

/-- The loop of a sell along the curve of an accepted configuration follows a path down; unless
it used the whole amount it ends inside the first segment.
Source: `state/virtual_pool.rs`, the loops of the two sells -/
theorem baseToQuoteLoop_curvePath
    {body : LiquidityDistributionConfig → ℕ → Walk → Result (Walk × Bool)}
    {pay : ℕ × ℕ →+ ℕ × ℕ} {s s' : Walk} {stopped : Bool} (hbody : SellBody pay body)
    (hstart : a.config.sqrtStartPrice ≤ s.sqrtPrice)
    (htop : s.sqrtPrice ≤ ladderTop a.config.sqrtStartPrice a.ladder)
    (h : baseToQuoteLoop body a.config.curve s = .ok (s', stopped)) :
    ∃ used gained, s.amountLeft = s'.amountLeft + used ∧ s'.total = s.total + gained ∧
      CurvePath a SellMove s'.sqrtPrice s.sqrtPrice (pay (used, gained)) ∧
      a.config.sqrtStartPrice ≤ s'.sqrtPrice ∧
      (s'.amountLeft ≠ 0 → ∃ L, firstLiquidity a.config = .ok L ∧
        ∀ low, a.config.sqrtStartPrice ≤ low → low ≤ s'.sqrtPrice →
          InRung a.config.sqrtStartPrice a.ladder L low s'.sqrtPrice) := by
  obtain ⟨⟨t, L⟩, rest, hcurve⟩ := a.curve_eq_cons
  have hasc := a.ascending
  have hliq := a.liquidityInRange
  rw [AcceptedConfig.ladder, hcurve] at hasc htop
  rw [hcurve] at hliq
  have hL : 0 < L := (hliq ⟨t, L⟩ List.mem_cons_self).1
  have hliq' : LiquidityInRange rest := fun q hq => hliq q (List.mem_cons_of_mem _ hq)
  have hlt : a.config.sqrtStartPrice < t := hasc.1
  rw [curve_eq_padded, hcurve] at h
  obtain ⟨used, gained, hused, hgained, hpath, hgo, hleft⟩ :=
    baseToQuoteLoop_path hbody (a.sqrtStartPrice_pos.trans hlt) hL hasc.2 hliq' htop h
  have hge : a.config.sqrtStartPrice ≤ s'.sqrtPrice := by
    cases stopped with
    | true => exact hlt.le.trans (hleft rfl).1
    | false =>
      rw [hgo rfl]
      exact le_min hstart hlt.le
  refine ⟨used, gained, hused, hgained, ?_, hge, fun hne => ⟨L, ?_, fun low hlow hle => ?_⟩⟩
  · rw [CurvePath, AcceptedConfig.ladder, hcurve]
    exact hpath.lift
  · simp only [firstLiquidity, curve_eq_padded, hcurve, padded_cons]
    rfl
  · rw [AcceptedConfig.ladder, hcurve]
    refine .inl ⟨rfl, hlow, hle, ?_⟩
    cases stopped with
    | true => exact absurd (hleft rfl).2 hne
    | false =>
      rw [hgo rfl]
      exact min_le_right _ _

/-- **A sell for an amount in follows a path of `SellMove`s downwards**, worth the quote given
and what is used of the amount.
Source: `state/virtual_pool.rs` `calculate_base_to_quote_from_amount_in` -/
theorem calculateBaseToQuoteFromAmountIn_path {r : SwapAmountFromInput}
    (hstart : a.config.sqrtStartPrice ≤ p.sqrtPrice)
    (htop : p.sqrtPrice ≤ ladderTop a.config.sqrtStartPrice a.ladder)
    (h : p.calculateBaseToQuoteFromAmountIn a.config amount = .ok r) :
    ∃ used, amount = r.amountLeft + used ∧ a.config.sqrtStartPrice ≤ r.nextSqrtPrice ∧
      CurvePath a SellMove r.nextSqrtPrice p.sqrtPrice (r.outputAmount, used) := by
  simp only [calculateBaseToQuoteFromAmountIn, bind_eq_ok, pure_eq_ok] at h
  obtain ⟨⟨s, stopped⟩, hloop, s', hlast, rfl⟩ := h
  obtain ⟨used, gained, hused, hgained, hpath, hge, hfirst⟩ :=
    baseToQuoteLoop_curvePath a baseToQuoteFromAmountInStep_sellBody hstart htop hloop
  simp only [Nat.zero_add] at hused hgained hlast
  by_cases hne : s.amountLeft ≠ 0
  · rw [if_pos hne] at hlast
    obtain ⟨L, hL, hrung⟩ := hfirst hne
    obtain ⟨used', gained', hused', hgained', hge', hle, hmove⟩ :=
      baseToQuoteFromAmountInLast_move a hL hlast
    refine ⟨used' + used, by simp only; omega, hge', ?_⟩
    have hsum : (s'.total, used' + used) = (gained', used') + (gained, used) := by
      rw [hgained', hgained, Nat.add_comm gained]
      rfl
    rw [hsum]
    exact .cons (hrung _ hge' hle) hmove hpath
  · rw [if_neg hne, pure_eq_ok] at hlast
    subst hlast
    refine ⟨used, hused, hge, ?_⟩
    rw [hgained]
    exact hpath

/-- **A sell for an amount out follows a path of `SellMove`s downwards**, worth the amount and
the base asked for.
Source: `state/virtual_pool.rs` `calculate_base_to_quote_from_amount_out` -/
theorem calculateBaseToQuoteFromAmountOut_path {r : SwapAmountFromOutput}
    (hstart : a.config.sqrtStartPrice ≤ p.sqrtPrice)
    (htop : p.sqrtPrice ≤ ladderTop a.config.sqrtStartPrice a.ladder)
    (h : p.calculateBaseToQuoteFromAmountOut a.config amount = .ok r) :
    a.config.sqrtStartPrice ≤ r.nextSqrtPrice ∧
      CurvePath a SellMove r.nextSqrtPrice p.sqrtPrice (amount, r.amountIn) := by
  simp only [calculateBaseToQuoteFromAmountOut, bind_eq_ok, pure_eq_ok] at h
  obtain ⟨⟨s, stopped⟩, hloop, s', hlast, rfl⟩ := h
  obtain ⟨used, gained, hused, hgained, hpath, hge, hfirst⟩ :=
    baseToQuoteLoop_curvePath a baseToQuoteFromAmountOutStep_sellBody hstart htop hloop
  simp only [Nat.zero_add] at hused hgained hlast
  by_cases hne : s.amountLeft ≠ 0
  · rw [if_pos hne] at hlast
    obtain ⟨L, hL, hrung⟩ := hfirst hne
    obtain ⟨gained', hgained', hge', hle, hmove⟩ :=
      baseToQuoteFromAmountOutLast_move a hL hge hlast
    refine ⟨hge', ?_⟩
    have hsum : (amount, s'.total) = (s.amountLeft, gained') + (used, gained) := by
      rw [hgained', hgained, hused, Nat.add_comm gained]
      rfl
    rw [hsum]
    exact .cons (hrung _ hge' hle) hmove hpath
  · rw [if_neg hne, pure_eq_ok] at hlast
    subst hlast
    refine ⟨hge, ?_⟩
    have hzero : s.amountLeft = 0 := not_not.mp hne
    rw [hgained, hused, hzero, Nat.zero_add]
    exact hpath

end PoolState

end DynamicBondingCurve
