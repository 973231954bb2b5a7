import DynamicBondingCurve.ExactBuys

/-!
# The walks do not panic

The loops of the four calculators subtract prices, assert that denominators and prices are positive,
and unwrap one conversion. None of this panics on the curve of an accepted configuration: a price
computed inside a segment stays inside it, and an empty place of the curve is never walked.

* `quoteToBaseFromAmountOutLoop_noPanic`, `baseToQuoteLoop_noPanic`: the loops.
* `ReachedByInput`, `ReachedByOutput`, `StopsInside`: how a buy reaches the price it stops at, and
  the segment that it stops in.
* `PoolState.walks_noPanic`: **no calculator panics**, and each walk ends in range.
-/

namespace DynamicBondingCurve

open Library

/-! ## Buys -/

section Buys

variable {k : ℕ}

/-- Inside a segment a buy for an amount out does not panic.
Source: `state/virtual_pool.rs` `calculate_quote_to_base_from_amount_out`, the loop -/
theorem quoteToBaseFromAmountOutLoop_noPanic :
    ∀ {points : List LiquidityDistributionParameters} {lower : ℕ} {s : Walk},
      Ascending lower (rungs points) → LiquidityInRange points → lower ≤ s.sqrtPrice →
      0 < s.sqrtPrice → NoPanic (quoteToBaseFromAmountOutLoop (padded points k) s)
  | [], _, s, _, _, _, _ => avoids_of_eq_ok (quoteToBaseFromAmountOutLoop_empty s)
  | ⟨top, L⟩ :: rest, lower, s, hasc, hliq, hlow, hpos => by
      have hL : 0 < L := (hliq ⟨top, L⟩ List.mem_cons_self).1
      have hliq' : LiquidityInRange rest := fun q hq => hliq q (List.mem_cons_of_mem _ hq)
      rw [padded_cons, quoteToBaseFromAmountOutLoop, if_neg (not_isEmpty hasc.1 hL)]
      apply Avoids.ite
      · intro hup
        apply Avoids.bind (getDeltaAmountBaseUnsigned256_noPanic hpos hup.le)
        intro maxAmountOut hmax
        obtain ⟨_, _, hmaxeq⟩ := getDeltaAmountBaseUnsigned256_spec hmax
        apply Avoids.ite
        · -- the next price is inside the segment, so the amount in is not of a reversed interval
          intro hshort
          apply Avoids.bind (getNextSqrtPriceFromOutput_noPanic hpos hL false)
          intro next hnext
          obtain ⟨_, _, hden, hnexteq⟩ := getNextSqrtPriceFromOutput_base_spec hnext
          rw [hmaxeq] at hshort
          obtain ⟨hle, _, _⟩ := baseOut_move hpos hup.le hden hshort.le hnexteq
          apply Avoids.bind (getDeltaAmountQuoteUnsigned_noPanic hle)
          intro inputAmount _
          exact safeAdd_noPanic.bind fun _ _ => avoids_ok _
        · intro _
          apply Avoids.bind (getDeltaAmountQuoteUnsigned_noPanic hup.le)
          intro inputAmount _
          apply Avoids.bind safeAdd_noPanic
          intro total _
          apply Avoids.bind safeCast_noPanic
          intro maxAmountOut _
          apply Avoids.bind safeSub_noPanic
          intro amountLeft _
          exact quoteToBaseFromAmountOutLoop_noPanic hasc.2 hliq' le_rfl (hpos.trans hup)
      · intro hup
        exact quoteToBaseFromAmountOutLoop_noPanic hasc.2 hliq' (not_lt.mp hup) hpos

end Buys

/-! ## The segment a buy stops in -/

/-- How a buy for an amount in gets from `low` to `next` inside a segment: it goes to the end of the
segment, or to the stop, or to the price of a part of the amount.
Source: `state/virtual_pool.rs` `calculate_quote_to_base_from_amount_in`, the branches of the
loop -/
def ReachedByInput (stop amount low top L next : ℕ) : Prop :=
  next = min stop top ∨
    ∃ part, part ≤ amount ∧ getNextSqrtPriceFromInput low L part false = .ok next

/-- How a buy for an amount out gets from `low` to `next` inside a segment.
Source: `state/virtual_pool.rs` `calculate_quote_to_base_from_amount_out`, the branches of the
loop -/
def ReachedByOutput (amount low top L next : ℕ) : Prop :=
  next = top ∨ ∃ part, part ≤ amount ∧ getNextSqrtPriceFromOutput low L part false = .ok next

/-- A buy from `price` stops at `next` inside one segment: the segment was entered at its foot, or
at `price` when the buy began there, and `next` was reached from there and is not past its top. A
buy that does not move stops where it stands.
Source: `state/virtual_pool.rs`, the loops of the two buys -/
def StopsInside (reached : ℕ → ℕ → ℕ → ℕ → Prop) (lower : ℕ) (ladder : List (ℕ × ℕ))
    (price next : ℕ) : Prop :=
  next = price ∨ ∃ foot top L, IsRung lower ladder foot top L ∧ max foot price ≤ next ∧
    next ≤ top ∧ reached (max foot price) top L next

section StopsInside

variable {reached reached' : ℕ → ℕ → ℕ → ℕ → Prop} {lower top L price next : ℕ}
  {ladder : List (ℕ × ℕ)}

/-- A buy that stops in the first segment. -/
theorem StopsInside.head (hlow : lower ≤ price) (hle : price ≤ next) (htop : next ≤ top)
    (h : reached price top L next) : StopsInside reached lower ((top, L) :: ladder) price next := by
  have hmax : max lower price = price := max_eq_right hlow
  refine .inr ⟨lower, top, L, .inl ⟨rfl, rfl, rfl⟩, ?_, htop, ?_⟩
  · rw [hmax]
    exact hle
  · rw [hmax]
    exact h

/-- A buy that begins above the first segment. -/
theorem StopsInside.skip (h : StopsInside reached top ladder price next) :
    StopsInside reached lower ((top, L) :: ladder) price next := by
  rcases h with h | ⟨foot, top', L', hrung, hrest⟩
  · exact .inl h
  · exact .inr ⟨foot, top', L', .inr hrung, hrest⟩

/-- A buy that crosses the first segment and stops at its top, or in a later segment. -/
theorem StopsInside.cross (hasc : Ascending top ladder) (hlow : lower ≤ price) (hup : price < top)
    (hend : reached price top L top)
    (hmono : ∀ low top L next, reached' low top L next → reached low top L next)
    (h : StopsInside reached' top ladder top next) :
    StopsInside reached lower ((top, L) :: ladder) price next := by
  rcases h with rfl | ⟨foot, top', L', hrung, hle, htop, hreached⟩
  · exact .head hlow hup.le le_rfl hend
  · obtain ⟨hfoot, _⟩ := hrung.bounds hasc
    have hmax : max foot price = max foot top := by
      rw [max_eq_left hfoot, max_eq_left (hup.le.trans hfoot)]
    refine .inr ⟨foot, top', L', .inr hrung, ?_, htop, ?_⟩
    · rw [hmax]
      exact hle
    · rw [hmax]
      exact hmono _ _ _ _ hreached

end StopsInside

section Stops

variable {stop k : ℕ}

/-- **The loop of a buy for an amount out stops inside a segment.**
Source: `state/virtual_pool.rs` `calculate_quote_to_base_from_amount_out`, the loop -/
theorem quoteToBaseFromAmountOutLoop_stopsInside :
    ∀ {points : List LiquidityDistributionParameters} {lower : ℕ} {s s' : Walk},
      Ascending lower (rungs points) → LiquidityInRange points → lower ≤ s.sqrtPrice →
      quoteToBaseFromAmountOutLoop (padded points k) s = .ok s' →
        StopsInside (ReachedByOutput s.amountLeft) lower (rungs points) s.sqrtPrice s'.sqrtPrice
  | [], _, s, _, _, _, _, h => by
      rw [quoteToBaseFromAmountOutLoop_empty] at h
      cases h
      exact .inl rfl
  | ⟨top, L⟩ :: rest, lower, s, s', hasc, hliq, hlow, h => by
      have hL : 0 < L := (hliq ⟨top, L⟩ List.mem_cons_self).1
      have hliq' : LiquidityInRange rest := fun q hq => hliq q (List.mem_cons_of_mem _ hq)
      rw [padded_cons, quoteToBaseFromAmountOutLoop, if_neg (not_isEmpty hasc.1 hL)] at h
      by_cases hup : top > s.sqrtPrice
      · rw [if_pos hup] at h
        simp only [bind_eq_ok] at h
        obtain ⟨maxAmountOut, hmax, h⟩ := h
        obtain ⟨_, hpos, hmaxeq⟩ := getDeltaAmountBaseUnsigned256_spec hmax
        split_ifs at h with hshort
        · simp only [bind_eq_ok, safeAdd_eq_ok, pure_eq_ok] at h
          obtain ⟨next, hnext, _, _, _, _, rfl⟩ := h
          obtain ⟨_, _, hden, hnexteq⟩ := getNextSqrtPriceFromOutput_base_spec hnext
          rw [hmaxeq] at hshort
          obtain ⟨hle, hhi, _⟩ := baseOut_move hpos hup.le hden hshort.le hnexteq
          exact .head hlow hle hhi (.inr ⟨s.amountLeft, le_rfl, hnext⟩)
        · simp only [bind_eq_ok, safeAdd_eq_ok, safeCast_eq_ok, safeSub_eq_ok] at h
          obtain ⟨_, _, _, _, maxAmountOut, _, _, ⟨_, rfl⟩, hrest⟩ := h
          have hstops := quoteToBaseFromAmountOutLoop_stopsInside hasc.2 hliq' le_rfl hrest
          refine hstops.cross hasc.2 hlow hup (.inl rfl) ?_
          rintro low top L next (hend | ⟨part, hpart, hnext⟩)
          · exact .inl hend
          · exact .inr ⟨part, hpart.trans (Nat.sub_le _ _), hnext⟩
      · rw [if_neg hup] at h
        exact (quoteToBaseFromAmountOutLoop_stopsInside hasc.2 hliq' (not_lt.mp hup) h).skip

/-- **The loop of a buy for an amount in stops inside a segment.**
Source: `state/virtual_pool.rs` `calculate_quote_to_base_from_amount_in`, the loop -/
theorem quoteToBaseFromAmountInLoop_stopsInside :
    ∀ {points : List LiquidityDistributionParameters} {lower : ℕ} {s s' : Walk},
      Ascending lower (rungs points) → LiquidityInRange points → lower ≤ s.sqrtPrice →
      quoteToBaseFromAmountInLoop stop (padded points k) s = .ok s' →
        StopsInside (ReachedByInput stop s.amountLeft) lower (rungs points) s.sqrtPrice s'.sqrtPrice
  | [], _, s, _, _, _, _, h => by
      rw [quoteToBaseFromAmountInLoop_empty] at h
      cases h
      exact .inl rfl
  | ⟨top, L⟩ :: rest, lower, s, s', hasc, hliq, hlow, h => by
      have hL : 0 < L := (hliq ⟨top, L⟩ List.mem_cons_self).1
      have hliq' : LiquidityInRange rest := fun q hq => hliq q (List.mem_cons_of_mem _ hq)
      rw [padded_cons, quoteToBaseFromAmountInLoop, if_neg (not_isEmpty hasc.1 hL)] at h
      by_cases hup : min stop top > s.sqrtPrice
      · rw [if_pos hup] at h
        simp only [bind_eq_ok] at h
        obtain ⟨maxAmountIn, hmax, h⟩ := h
        obtain ⟨_, hmaxeq⟩ := getDeltaAmountQuoteUnsigned256_spec hmax
        have hreach : min stop top ≤ top := min_le_right _ _
        split_ifs at h with hshort hend
        · simp only [bind_eq_ok, safeAdd_eq_ok, pure_eq_ok] at h
          obtain ⟨next, hnext, _, _, _, _, rfl⟩ := h
          obtain ⟨_, _, hnexteq⟩ := getNextSqrtPriceFromInput_quote_spec hnext
          rw [hmaxeq] at hshort
          obtain ⟨hle, hhi, _⟩ := quoteIn_move hL hshort hnexteq
          exact .head hlow hle (hhi.trans hreach) (.inr ⟨s.amountLeft, le_rfl, hnext⟩)
        · simp only [bind_eq_ok, safeAdd_eq_ok, safeCast_eq_ok, safeSub_eq_ok, pure_eq_ok] at h
          obtain ⟨_, _, _, _, maxAmountIn, _, _, _, rfl⟩ := h
          exact .head hlow hup.le hreach (.inl rfl)
        · simp only [bind_eq_ok, safeAdd_eq_ok, safeCast_eq_ok, safeSub_eq_ok] at h
          obtain ⟨_, _, _, _, maxAmountIn, _, _, ⟨_, rfl⟩, hrest⟩ := h
          have hend' : min stop top = top := by
            rcases min_choice stop top with hmin | hmin
            · exact absurd hmin hend
            · exact hmin
          rw [hend'] at hrest hup
          have hstops := quoteToBaseFromAmountInLoop_stopsInside hasc.2 hliq' le_rfl hrest
          refine hstops.cross hasc.2 hlow hup (.inl hend'.symm) ?_
          rintro low top L next (hend | ⟨part, hpart, hnext⟩)
          · exact .inl hend
          · exact .inr ⟨part, hpart.trans (Nat.sub_le _ _), hnext⟩
      · -- the price is above this segment, or at the stop
        rw [if_neg hup] at h
        by_cases hp : top ≤ s.sqrtPrice
        · exact (quoteToBaseFromAmountInLoop_stopsInside hasc.2 hliq' hp h).skip
        · have hat : stop ≤ s.sqrtPrice := by
            rcases min_choice stop top with hmin | hmin <;> omega
          rw [quoteToBaseFromAmountInLoop_stop hat] at h
          cases h
          exact .inl rfl

end Stops

/-! ## Sells -/

section Sells

variable {body : LiquidityDistributionConfig → ℕ → Walk → Result (Walk × Bool)}
  {pay : ℕ × ℕ →+ ℕ × ℕ} {k : ℕ}

/-- The body of a sell for an amount in does not panic on a segment.
Source: `state/virtual_pool.rs` `calculate_base_to_quote_from_amount_in`, the body of the loop -/
theorem baseToQuoteFromAmountInStep_noPanic {point : LiquidityDistributionConfig} {L : ℕ} {s : Walk}
    (hL : 0 < L) : NoPanic (baseToQuoteFromAmountInStep point L s) := by
  apply Avoids.ite fun _ => avoids_ok _
  intro hempty
  have hpoint : 0 < point.sqrtPrice := Nat.pos_of_ne_zero fun h => hempty (.inl h)
  apply Avoids.ite _ fun _ => avoids_ok _
  intro hdown
  apply Avoids.bind (getDeltaAmountBaseUnsigned256_noPanic hpoint hdown.le)
  intro maxAmountIn _
  apply Avoids.ite
  · intro _
    apply Avoids.bind (getNextSqrtPriceFromInput_noPanic (hpoint.trans hdown) hL true)
    intro next hnext
    obtain ⟨hp, _, hnexteq⟩ := getNextSqrtPriceFromInput_base_spec hnext
    obtain ⟨_, hle, _⟩ := baseIn_move 0 hL hp hnexteq
    apply Avoids.bind (getDeltaAmountQuoteUnsigned_noPanic hle)
    intro outputAmount _
    exact safeAdd_noPanic.bind fun _ _ => avoids_ok _
  · intro _
    apply Avoids.bind (getDeltaAmountQuoteUnsigned_noPanic hdown.le)
    intro outputAmount _
    exact safeAdd_noPanic.bind fun _ _ => safeCast_noPanic.bind fun _ _ =>
      safeSub_noPanic.bind fun _ _ => avoids_ok _

/-- The body of a sell for an amount out does not panic on a segment: the conversion that is
unwrapped is of an amount that does not exceed the amount left.
Source: `state/virtual_pool.rs` `calculate_base_to_quote_from_amount_out`, the body of the loop -/
theorem baseToQuoteFromAmountOutStep_noPanic {point : LiquidityDistributionConfig} {L : ℕ}
    {s : Walk} (hL : 0 < L) (hleft : s.amountLeft < 2 ^ 64) :
    NoPanic (baseToQuoteFromAmountOutStep point L s) := by
  apply Avoids.ite fun _ => avoids_ok _
  intro hempty
  have hpoint : 0 < point.sqrtPrice := Nat.pos_of_ne_zero fun h => hempty (.inl h)
  apply Avoids.ite _ fun _ => avoids_ok _
  intro hdown
  apply Avoids.bind (getDeltaAmountQuoteUnsigned256_noPanic hdown.le)
  intro maxAmountOut hmax
  obtain ⟨_, hmaxeq⟩ := getDeltaAmountQuoteUnsigned256_spec hmax
  apply Avoids.ite
  · intro hshort
    rw [hmaxeq] at hshort
    apply Avoids.bind (getNextSqrtPriceFromOutput_noPanic (hpoint.trans hdown) hL true)
    intro next hnext
    obtain ⟨_, _, _, hnexteq⟩ := getNextSqrtPriceFromOutput_quote_spec hnext
    obtain ⟨hlow, hle, _⟩ := quoteOut_move hL hdown.le hshort.le hnexteq
    apply Avoids.bind (getDeltaAmountBaseUnsigned_noPanic (hpoint.trans_le hlow) hle)
    intro inAmount _
    exact safeAdd_noPanic.bind fun _ _ => avoids_ok _
  · intro hshort
    have hunwrap : maxAmountOut < 2 ^ 64 := (not_lt.mp hshort).trans_lt hleft
    apply Avoids.bind (getDeltaAmountBaseUnsigned_noPanic hpoint hdown.le)
    intro inAmount _
    apply Avoids.bind safeAdd_noPanic
    intro total _
    apply Avoids.bind (avoids_require hunwrap)
    intro _ _
    exact safeSub_noPanic.bind fun _ _ => avoids_ok _

/-- **The loop of a sell does not panic** when its body does not panic on a segment: the price is
on the curve, so no empty place is taken for a segment.
Source: `state/virtual_pool.rs`, the loops of the two sells -/
theorem baseToQuoteLoop_noPanic (hbody : SellBody pay body)
    (hsafe : ∀ {point : LiquidityDistributionConfig} {L : ℕ} {s : Walk}, 0 < L →
      s.amountLeft < 2 ^ 64 → NoPanic (body point L s)) :
    ∀ {points : List LiquidityDistributionParameters} {top L : ℕ} {s : Walk},
      0 < top → 0 < L → Ascending top (rungs points) → LiquidityInRange points →
      s.sqrtPrice ≤ ladderTop top (rungs points) → s.amountLeft < 2 ^ 64 →
      NoPanic (baseToQuoteLoop body (padded (⟨top, L⟩ :: points) k) s)
  | [], _, _, _, _, _, _, _, htop, _ => avoids_of_eq_ok (baseToQuoteLoop_last hbody htop)
  | ⟨top', L'⟩ :: rest, top, L, s, hpos, hL, hasc, hliq, htop, hleft => by
      have hL' : 0 < L' := (hliq ⟨top', L'⟩ List.mem_cons_self).1
      have hliq' : LiquidityInRange rest := fun q hq => hliq q (List.mem_cons_of_mem _ hq)
      have hpos' : 0 < top' := hpos.trans hasc.1
      rw [padded_cons, padded_cons, baseToQuoteLoop, ← padded_cons]
      apply Avoids.bind
      · exact baseToQuoteLoop_noPanic hbody hsafe hpos' hL' hasc.2 hliq' htop hleft
      rintro ⟨mid, stopped⟩ hmid
      obtain ⟨used, _, hused, _⟩ := baseToQuoteLoop_path hbody hpos' hL' hasc.2 hliq' htop hmid
      apply Avoids.ite fun _ => avoids_ok _
      intro _
      exact hsafe hL' (by omega)

end Sells

/-! ## The calculators -/

namespace PoolState

variable (a : AcceptedConfig) {p : PoolState} {amount : ℕ}

/-- The loop of a sell along the curve of an accepted configuration does not panic.
Source: `state/virtual_pool.rs`, the loops of the two sells -/
theorem baseToQuoteLoop_curve_noPanic
    {body : LiquidityDistributionConfig → ℕ → Walk → Result (Walk × Bool)}
    {pay : ℕ × ℕ →+ ℕ × ℕ} {s : Walk} (hbody : SellBody pay body)
    (hsafe : ∀ {point : LiquidityDistributionConfig} {L : ℕ} {s : Walk}, 0 < L →
      s.amountLeft < 2 ^ 64 → NoPanic (body point L s))
    (htop : s.sqrtPrice ≤ ladderTop a.config.sqrtStartPrice a.ladder)
    (hleft : s.amountLeft < 2 ^ 64) : NoPanic (baseToQuoteLoop body a.config.curve s) := by
  obtain ⟨⟨t, L⟩, rest, hcurve⟩ := a.curve_eq_cons
  have hasc := a.ascending
  have hliq := a.liquidityInRange
  rw [AcceptedConfig.ladder, hcurve] at hasc htop
  rw [hcurve] at hliq
  have hL : 0 < L := (hliq ⟨t, L⟩ List.mem_cons_self).1
  rw [curve_eq_padded, hcurve]
  apply baseToQuoteLoop_noPanic hbody hsafe (a.sqrtStartPrice_pos.trans hasc.1) hL hasc.2 _ htop
    hleft
  intro q hq
  exact hliq q (List.mem_cons_of_mem _ hq)

/-- The first segment of an accepted curve has liquidity.
Source: `process_create_config.rs` `ConfigParameters::validate` -/
theorem firstLiquidity_isOk : ∃ L, firstLiquidity a.config = .ok L ∧ 0 < L := by
  obtain ⟨⟨t, L⟩, rest, hcurve⟩ := a.curve_eq_cons
  have hliq := a.liquidityInRange
  rw [hcurve] at hliq
  refine ⟨L, ?_, (hliq ⟨t, L⟩ List.mem_cons_self).1⟩
  rw [firstLiquidity, curve_eq_padded, hcurve, padded_cons]
  rfl

/-- The last segment of a sell for an amount in does not panic.
Source: `state/virtual_pool.rs` `calculate_base_to_quote_from_amount_in`, after the loop -/
theorem baseToQuoteFromAmountInLast_noPanic {s : Walk}
    (hstart : a.config.sqrtStartPrice ≤ s.sqrtPrice) :
    NoPanic (baseToQuoteFromAmountInLast a.config s) := by
  obtain ⟨L, hfirst, hL⟩ := firstLiquidity_isOk a
  have hpos : 0 < s.sqrtPrice := a.sqrtStartPrice_pos.trans_le hstart
  apply Avoids.bind (avoids_of_eq_ok hfirst)
  intro L' hL'
  rw [hfirst] at hL'
  cases hL'
  apply Avoids.bind (getNextSqrtPriceFromInput_noPanic hpos hL true)
  intro next hnext
  obtain ⟨hp, _, hnexteq⟩ := getNextSqrtPriceFromInput_base_spec hnext
  obtain ⟨_, hle, _⟩ := baseIn_move 0 hL hp hnexteq
  apply Avoids.bind
  · apply Avoids.ite _ fun _ => avoids_ok _
    intro _
    apply Avoids.bind (getDeltaAmountBaseUnsigned_noPanic a.sqrtStartPrice_pos hstart)
    intro amountIn _
    exact safeSub_noPanic.bind fun _ _ => avoids_ok _
  · rintro ⟨next', left⟩ hclamp
    -- the price is clamped to the start price, or it is the one computed
    have hle' : next' ≤ s.sqrtPrice := by
      split_ifs at hclamp with hbelow
      · simp only [bind_eq_ok, pure_eq_ok, Prod.mk.injEq] at hclamp
        obtain ⟨_, _, _, _, rfl, _⟩ := hclamp
        exact hstart
      · simp only [pure_eq_ok, Prod.mk.injEq] at hclamp
        obtain ⟨rfl, _⟩ := hclamp
        exact hle
    apply Avoids.bind (getDeltaAmountQuoteUnsigned_noPanic hle')
    intro outputAmount _
    exact safeAdd_noPanic.bind fun _ _ => avoids_ok _

/-- The last segment of a sell for an amount out does not panic.
Source: `state/virtual_pool.rs` `calculate_base_to_quote_from_amount_out`, after the loop -/
theorem baseToQuoteFromAmountOutLast_noPanic {s : Walk}
    (hstart : a.config.sqrtStartPrice ≤ s.sqrtPrice) :
    NoPanic (baseToQuoteFromAmountOutLast a.config s) := by
  obtain ⟨L, hfirst, hL⟩ := firstLiquidity_isOk a
  have hpos : 0 < s.sqrtPrice := a.sqrtStartPrice_pos.trans_le hstart
  apply Avoids.bind (avoids_of_eq_ok hfirst)
  intro L' hL'
  rw [hfirst] at hL'
  cases hL'
  apply Avoids.bind (getDeltaAmountQuoteUnsigned256_noPanic hstart)
  intro maxAmountOut _
  apply Avoids.bind ensure_noPanic
  intro _ _
  apply Avoids.bind (getNextSqrtPriceFromOutput_noPanic hpos hL true)
  intro next hnext
  obtain ⟨_, _, _, hnexteq⟩ := getNextSqrtPriceFromOutput_quote_spec hnext
  apply Avoids.bind ensure_noPanic
  intro _ hge
  have hnextpos : 0 < next := a.sqrtStartPrice_pos.trans_le (require_eq_ok.mp hge)
  have hle : next ≤ s.sqrtPrice := hnexteq.trans_le (Nat.sub_le _ _)
  apply Avoids.bind (getDeltaAmountBaseUnsigned_noPanic hnextpos hle)
  intro inAmount _
  exact safeAdd_noPanic.bind fun _ _ => avoids_ok _

/-- A sell of an exact input does not panic.
Source: `state/virtual_pool.rs` `calculate_base_to_quote_from_amount_in` -/
theorem calculateBaseToQuoteFromAmountIn_noPanic (hp : p.PriceInRange a)
    (hamount : amount < 2 ^ 64) : NoPanic (p.calculateBaseToQuoteFromAmountIn a.config amount) := by
  have htop := hp.2.trans a.migration_le_ladderTop
  apply Avoids.bind
  · exact baseToQuoteLoop_curve_noPanic a baseToQuoteFromAmountInStep_sellBody
      (fun hL _ => baseToQuoteFromAmountInStep_noPanic hL) htop hamount
  rintro ⟨s, stopped⟩ hloop
  obtain ⟨_, _, _, _, _, hge, _⟩ :=
    baseToQuoteLoop_curvePath a baseToQuoteFromAmountInStep_sellBody hp.1 htop hloop
  apply Avoids.bind
  · exact .ite (fun _ => baseToQuoteFromAmountInLast_noPanic a hge) fun _ => avoids_ok _
  · intro s' _
    exact avoids_ok _

/-- A sell for an exact output does not panic.
Source: `state/virtual_pool.rs` `calculate_base_to_quote_from_amount_out` -/
theorem calculateBaseToQuoteFromAmountOut_noPanic (hp : p.PriceInRange a)
    (hamount : amount < 2 ^ 64) :
    NoPanic (p.calculateBaseToQuoteFromAmountOut a.config amount) := by
  have htop := hp.2.trans a.migration_le_ladderTop
  apply Avoids.bind
  · exact baseToQuoteLoop_curve_noPanic a baseToQuoteFromAmountOutStep_sellBody
      baseToQuoteFromAmountOutStep_noPanic htop hamount
  rintro ⟨s, stopped⟩ hloop
  obtain ⟨_, _, _, _, _, hge, _⟩ :=
    baseToQuoteLoop_curvePath a baseToQuoteFromAmountOutStep_sellBody hp.1 htop hloop
  apply Avoids.bind
  · exact .ite (fun _ => baseToQuoteFromAmountOutLast_noPanic a hge) fun _ => avoids_ok _
  · intro s' _
    exact avoids_ok _

/-- A buy of an exact output does not panic.
Source: `state/virtual_pool.rs` `calculate_quote_to_base_from_amount_out` -/
theorem calculateQuoteToBaseFromAmountOut_noPanic (hp : p.PriceInRange a) :
    NoPanic (p.calculateQuoteToBaseFromAmountOut a.config amount) := by
  apply Avoids.bind
  · rw [curve_eq_padded]
    exact quoteToBaseFromAmountOutLoop_noPanic a.ascending a.liquidityInRange hp.1
      (a.sqrtStartPrice_pos.trans_le hp.1)
  · intro s _
    exact ensure_noPanic.bind fun _ _ => avoids_ok _

/-- The calculators do not panic, and a call that succeeds ends in range.
Source: `state/virtual_pool.rs`, the four calculators -/
structure WalksSafely (a : AcceptedConfig) (p : PoolState) (amount : ℕ) : Prop where
  buyIn_noPanic :
    NoPanic (p.calculateQuoteToBaseFromAmountIn a.config amount a.config.migrationSqrtPrice)
  buyOut_noPanic : NoPanic (p.calculateQuoteToBaseFromAmountOut a.config amount)
  sellIn_noPanic : NoPanic (p.calculateBaseToQuoteFromAmountIn a.config amount)
  sellOut_noPanic : NoPanic (p.calculateBaseToQuoteFromAmountOut a.config amount)
  buyIn_range : ∀ r,
    p.calculateQuoteToBaseFromAmountIn a.config amount a.config.migrationSqrtPrice = .ok r →
      p.sqrtPrice ≤ r.nextSqrtPrice ∧ r.nextSqrtPrice ≤ a.config.migrationSqrtPrice ∧
      StopsInside (ReachedByInput a.config.migrationSqrtPrice amount) a.config.sqrtStartPrice
        a.ladder p.sqrtPrice r.nextSqrtPrice
  buyOut_range : ∀ r, p.calculateQuoteToBaseFromAmountOut a.config amount = .ok r →
    p.sqrtPrice ≤ r.nextSqrtPrice ∧
      StopsInside (ReachedByOutput amount) a.config.sqrtStartPrice a.ladder p.sqrtPrice
        r.nextSqrtPrice
  sellIn_range : ∀ r, p.calculateBaseToQuoteFromAmountIn a.config amount = .ok r →
    a.config.sqrtStartPrice ≤ r.nextSqrtPrice ∧ r.nextSqrtPrice ≤ p.sqrtPrice
  sellOut_range : ∀ r, p.calculateBaseToQuoteFromAmountOut a.config amount = .ok r →
    a.config.sqrtStartPrice ≤ r.nextSqrtPrice ∧ r.nextSqrtPrice ≤ p.sqrtPrice

/-- **The walks do not panic.** From every price on the part of the curve that is for sale and for
every amount, no calculator underflows a price, fails an assertion or unwraps a failed conversion; a
buy that succeeds ends inside the segment it stopped in, not below where it began, and one for an
amount in not past the migration price; a sell that succeeds ends between the start price and where
it began.
Source: `state/virtual_pool.rs`, the four calculators; `curve.rs` -/
theorem walks_noPanic (p : PoolState) (hp : p.PriceInRange a) (amount : ℕ)
    (hamount : amount < 2 ^ 64) : p.WalksSafely a amount := by
  have htop := hp.2.trans a.migration_le_ladderTop
  constructor
  · obtain ⟨r, hr, _⟩ := calculateQuoteToBaseFromAmountIn_bought a hp hamount
    exact avoids_of_eq_ok hr
  · exact calculateQuoteToBaseFromAmountOut_noPanic a hp
  · exact calculateBaseToQuoteFromAmountIn_noPanic a hp hamount
  · exact calculateBaseToQuoteFromAmountOut_noPanic a hp hamount
  · intro r hr
    obtain ⟨_, _, hle, hpath⟩ := calculateQuoteToBaseFromAmountIn_path a hp.1 hp.2 hr
    refine ⟨hpath.le a.ascending, hle, ?_⟩
    simp only [calculateQuoteToBaseFromAmountIn, bind_eq_ok, pure_eq_ok, curve_eq_padded] at hr
    obtain ⟨s, hloop, rfl⟩ := hr
    exact quoteToBaseFromAmountInLoop_stopsInside a.ascending a.liquidityInRange hp.1 hloop
  · intro r hr
    refine ⟨(calculateQuoteToBaseFromAmountOut_path a hp.1 hr).le a.ascending, ?_⟩
    simp only [calculateQuoteToBaseFromAmountOut, bind_eq_ok, exists_unit, require_eq_ok,
      pure_eq_ok, curve_eq_padded] at hr
    obtain ⟨s, hloop, _, rfl⟩ := hr
    exact quoteToBaseFromAmountOutLoop_stopsInside a.ascending a.liquidityInRange hp.1 hloop
  · intro r hr
    obtain ⟨_, _, hge, hpath⟩ := calculateBaseToQuoteFromAmountIn_path a hp.1 htop hr
    exact ⟨hge, hpath.le a.ascending⟩
  · intro r hr
    obtain ⟨hge, hpath⟩ := calculateBaseToQuoteFromAmountOut_path a hp.1 htop hr
    exact ⟨hge, hpath.le a.ascending⟩

/-- Trades of a thousand tokens in a new pool whose last segment is thin. -/
theorem walks_noPanic_thinTail :
    Launch.thinTail.genesis.pool.WalksSafely Launch.thinTail.accepted 1000 :=
  walks_noPanic Launch.thinTail.accepted Launch.thinTail.genesis.pool
    ⟨by decide +kernel, by decide +kernel⟩ 1000 (by decide)

end PoolState

end DynamicBondingCurve
