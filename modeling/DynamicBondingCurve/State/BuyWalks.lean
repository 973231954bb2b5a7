import DynamicBondingCurve.State.SwapResults

/-!
# The walks of a buy, to the unit

A buy for an amount in and a buy for an amount out walk the same segments with opposite roundings.
Between two prices of the curve there are two exact whole amounts: the quote of the interval,
each segment rounded up, and its base, each segment rounded down.

* `AcceptedConfig.costTo`, `AcceptedConfig.yieldTo`: these two amounts.
* `calculateQuoteToBaseFromAmountIn_bought`: **a buy for an amount in goes to the highest price
  whose cost the amount covers**, and gives the yield up to it.
* `calculateQuoteToBaseFromAmountOut_cost`: a buy for an amount out pays the cost up to the price it
  reaches, which yields the amount.
* `calculateQuoteToBaseFromAmountOut_isOk`: when it succeeds below a given price.
-/

namespace DynamicBondingCurve

open Library

/-! ## The segments left to buy -/

/-- The points of a curve above a price. -/
def pointsAbove (price : ℕ) (points : List LiquidityDistributionParameters) :
    List LiquidityDistributionParameters :=
  points.dropWhile fun point => point.sqrtPrice ≤ price

section PointsAbove

variable {price k : ℕ} {points : List LiquidityDistributionParameters}

/-- The points above a price are the rungs above it. -/
theorem rungs_pointsAbove : rungs (pointsAbove price points) = above price (rungs points) := by
  induction points with
  | nil => rfl
  | cons point rest ih =>
    unfold pointsAbove above at ih ⊢
    rw [rungs_cons]
    by_cases h : point.sqrtPrice ≤ price
    · rw [List.dropWhile_cons_of_pos (by simpa using h),
        List.dropWhile_cons_of_pos (by simpa using h), ih]
    · rw [List.dropWhile_cons_of_neg (by simpa using h),
        List.dropWhile_cons_of_neg (by simpa using h), rungs_cons]

/-- The points above a price keep their bounds. -/
theorem liquidityInRange_pointsAbove (h : LiquidityInRange points) :
    LiquidityInRange (pointsAbove price points) := fun point hmem =>
  h point ((List.dropWhile_sublist _).mem hmem)

/-- The loop of a buy for an amount in passes the segments below the price.
Source: `state/virtual_pool.rs` `calculate_quote_to_base_from_amount_in`, the loop -/
theorem quoteToBaseFromAmountInLoop_pointsAbove {stop : ℕ} {s : Walk} :
    ∀ {points : List LiquidityDistributionParameters} {lower : ℕ},
      Ascending lower (rungs points) → LiquidityInRange points →
      quoteToBaseFromAmountInLoop stop (padded points k) s =
        quoteToBaseFromAmountInLoop stop (padded (pointsAbove s.sqrtPrice points) k) s
  | [], _, _, _ => rfl
  | ⟨top, L⟩ :: rest, lower, hasc, hliq => by
      have hL : 0 < L := (hliq ⟨top, L⟩ List.mem_cons_self).1
      have hliq' : LiquidityInRange rest := fun q hq => hliq q (List.mem_cons_of_mem _ hq)
      unfold pointsAbove
      by_cases h : top ≤ s.sqrtPrice
      · have hno : ¬ min stop top > s.sqrtPrice := not_lt.mpr ((min_le_right _ _).trans h)
        rw [List.dropWhile_cons_of_pos (by simpa using h), padded_cons,
          quoteToBaseFromAmountInLoop, if_neg (not_isEmpty hasc.1 hL), if_neg hno]
        exact quoteToBaseFromAmountInLoop_pointsAbove hasc.2 hliq'
      · rw [List.dropWhile_cons_of_neg (by simpa using h)]

/-- The loop of a buy for an amount out passes the segments below the price.
Source: `state/virtual_pool.rs` `calculate_quote_to_base_from_amount_out`, the loop -/
theorem quoteToBaseFromAmountOutLoop_pointsAbove {s : Walk} :
    ∀ {points : List LiquidityDistributionParameters} {lower : ℕ},
      Ascending lower (rungs points) → LiquidityInRange points →
      quoteToBaseFromAmountOutLoop (padded points k) s =
        quoteToBaseFromAmountOutLoop (padded (pointsAbove s.sqrtPrice points) k) s
  | [], _, _, _ => rfl
  | ⟨top, L⟩ :: rest, lower, hasc, hliq => by
      have hL : 0 < L := (hliq ⟨top, L⟩ List.mem_cons_self).1
      have hliq' : LiquidityInRange rest := fun q hq => hliq q (List.mem_cons_of_mem _ hq)
      unfold pointsAbove
      by_cases h : top ≤ s.sqrtPrice
      · rw [List.dropWhile_cons_of_pos (by simpa using h), padded_cons,
          quoteToBaseFromAmountOutLoop, if_neg (not_isEmpty hasc.1 hL), if_neg (not_lt.mpr h)]
        exact quoteToBaseFromAmountOutLoop_pointsAbove hasc.2 hliq'
      · rw [List.dropWhile_cons_of_neg (by simpa using h)]

end PointsAbove

/-! ## The cost and the yield of a climb -/

section Climb

variable {lower p q : ℕ} {ladder : List (ℕ × ℕ)}

/-- A climb that goes higher costs more. -/
theorem climb_quoteUp_mono (hasc : Ascending lower ladder) (hp : lower ≤ p) (hpq : p ≤ q) :
    climb quoteUp lower ladder p ≤ climb quoteUp lower ladder q :=
  climb_mono quoteUp_self (fun _ _ _ _ => Nat.zero_le _) (fun L _ _ _ _ h => quoteUp_mono L h) hasc
    hp hpq

/-- A climb that goes higher yields more. -/
theorem climb_baseDown_mono (hasc : Ascending lower ladder) (hp : lower ≤ p) (hpq : p ≤ q) :
    climb baseDown lower ladder p ≤ climb baseDown lower ladder q :=
  climb_mono baseDown_self (fun _ _ _ _ => Nat.zero_le _) (fun L _ _ _ h h' => baseDown_mono L h h')
    hasc hp hpq

end Climb

/-! ## A buy for an amount in -/

/-- Where a buy of `amount` ends that starts at the foot `lower` of a ladder: at the highest price
up to `stop` whose cost the amount covers, having given the yield up to it.
Source: `state/virtual_pool.rs` `calculate_quote_to_base_from_amount_in` -/
structure Bought (lower : ℕ) (ladder : List (ℕ × ℕ)) (stop amount total : ℕ) (s : Walk) : Prop
    where
  sqrtPrice : IsGreatest {p | lower ≤ p ∧ p ≤ stop ∧ climb quoteUp lower ladder p ≤ amount}
    s.sqrtPrice
  amountLeft : s.amountLeft + climb quoteUp lower ladder s.sqrtPrice = amount
  total : s.total = total + climb baseDown lower ladder s.sqrtPrice
  left : s.amountLeft = 0 ∨ s.sqrtPrice = stop

section Bought

variable {lower top L stop amount total k next : ℕ} {ladder : List (ℕ × ℕ)} {s : Walk}

/-- A buy that stands at its stop ends there. -/
theorem Bought.refl (hasc : Ascending lower ladder) :
    Bought lower ladder lower amount total ⟨lower, amount, total⟩ := by
  have hcost : climb quoteUp lower ladder lower = 0 := climb_self quoteUp_self hasc
  have hyield : climb baseDown lower ladder lower = 0 := climb_self baseDown_self hasc
  constructor
  · refine ⟨⟨le_rfl, le_rfl, ?_⟩, fun p hp => hp.2.1⟩
    rw [hcost]
    exact Nat.zero_le _
  · simp only [hcost, Nat.add_zero]
  · simp only [hyield, Nat.add_zero]
  · exact .inr rfl

/-- A buy whose amount ends inside the first segment.
Source: `state/virtual_pool.rs` `calculate_quote_to_base_from_amount_in`, the branch of an amount
short of the segment -/
theorem Bought.inside (hasc : Ascending lower ((top, L) :: ladder)) (hL : 0 < L)
    (hfit : L < 2 ^ 128) (hshort : amount < quoteUp L lower (min stop top))
    (hnext : next = lower + amount * 2 ^ 128 / L) :
    Bought lower ((top, L) :: ladder) stop amount total
      ⟨next, 0, total + baseDown L lower next⟩ := by
  obtain ⟨hlow, hhigh, hpaid⟩ := quoteIn_move hL hshort hnext
  have htop : next ≤ top := hhigh.trans (min_le_right _ _)
  have hcost : climb quoteUp lower ((top, L) :: ladder) next = amount := by
    rw [climb, if_pos htop]
    exact quoteUp_of_partial hL hfit hnext
  constructor
  · refine ⟨⟨hlow, hhigh.trans (min_le_left _ _), hcost.le⟩, ?_⟩
    rintro p ⟨hp, hstop, hle⟩
    by_cases hptop : p ≤ top
    · rw [climb, if_pos hptop] at hle
      rw [hnext]
      exact (quoteUp_le_iff hL).mp hle
    · -- crossing the segment costs more than the amount
      exfalso
      have htop' : top ≤ p := (not_le.mp hptop).le
      have hmono : climb quoteUp lower ((top, L) :: ladder) top ≤ amount :=
        (climb_quoteUp_mono hasc hasc.1.le htop').trans hle
      rw [climb, if_pos le_rfl] at hmono
      have := quoteUp_mono L (a := lower) (min_le_right stop top)
      omega
  · simp only [hcost, Nat.zero_add]
  · simp only [climb, if_pos htop]
  · exact .inl rfl

/-- A buy that reaches its stop in the first segment.
Source: `state/virtual_pool.rs` `calculate_quote_to_base_from_amount_in`, the break at the stop -/
theorem Bought.stopped (hlow : lower ≤ stop) (htop : stop ≤ top)
    (hpaid : quoteUp L lower stop ≤ amount) :
    Bought lower ((top, L) :: ladder) stop amount total
      ⟨stop, amount - quoteUp L lower stop, total + baseDown L lower stop⟩ := by
  have hcost : climb quoteUp lower ((top, L) :: ladder) stop = quoteUp L lower stop := by
    rw [climb, if_pos htop]
  constructor
  · exact ⟨⟨hlow, le_rfl, hcost.trans_le hpaid⟩, fun p hp => hp.2.1⟩
  · simp only [hcost]
    exact Nat.sub_add_cancel hpaid
  · simp only [climb, if_pos htop]
  · exact .inr rfl

/-- A buy that crosses the first segment goes on from its top.
Source: `state/virtual_pool.rs` `calculate_quote_to_base_from_amount_in`, the next pass of the
loop -/
theorem Bought.cons (hasc : Ascending lower ((top, L) :: ladder))
    (hpaid : quoteUp L lower top ≤ amount)
    (h : Bought top ladder stop (amount - quoteUp L lower top) (total + baseDown L lower top) s) :
    Bought lower ((top, L) :: ladder) stop amount total s := by
  obtain ⟨⟨hlow, hstop, hle⟩, hgreatest⟩ := h.sqrtPrice
  have hcost : ∀ {p}, top ≤ p → climb quoteUp lower ((top, L) :: ladder) p =
      quoteUp L lower top + climb quoteUp top ladder p := fun hp =>
    climb_cons_of_le quoteUp_self hasc.2 hp
  constructor
  · refine ⟨⟨hasc.1.le.trans hlow, hstop, ?_⟩, ?_⟩
    · rw [hcost hlow]
      omega
    · rintro p ⟨_, hpstop, hple⟩
      by_cases hp : top ≤ p
      · rw [hcost hp] at hple
        exact hgreatest ⟨hp, hpstop, by omega⟩
      · exact (not_le.mp hp).le.trans hlow
  · rw [hcost hlow]
    have := h.amountLeft
    omega
  · rw [climb_cons_of_le baseDown_self hasc.2 hlow, h.total]
    exact Nat.add_assoc _ _ _
  · exact h.left

/-- **The loop of a buy for an amount in goes to the highest price whose cost the amount covers.**
Source: `state/virtual_pool.rs` `calculate_quote_to_base_from_amount_in`, the loop -/
theorem quoteToBaseFromAmountInLoop_bought :
    ∀ {points : List LiquidityDistributionParameters} {lower amount total : ℕ},
      Ascending lower (rungs points) → LiquidityInRange points → 0 < lower → lower ≤ stop →
      stop ≤ ladderTop lower (rungs points) → stop < 2 ^ 128 → amount < 2 ^ 64 →
      total + climb baseDown lower (rungs points) stop < 2 ^ 64 →
        ∃ s, quoteToBaseFromAmountInLoop stop (padded points k) ⟨lower, amount, total⟩ = .ok s ∧
          Bought lower (rungs points) stop amount total s
  | [], lower, amount, total, _, _, _, hlow, htop, _, _, _ => by
      have hstop : stop = lower := le_antisymm htop hlow
      subst hstop
      exact ⟨⟨stop, amount, total⟩, quoteToBaseFromAmountInLoop_stop (le_refl stop) _,
        .refl trivial⟩
  | ⟨top, L⟩ :: rest, lower, amount, total, hasc, hliq, hpos, hlow, htop, hwide, hamount, hfit => by
      obtain ⟨hL, hLfit⟩ : 0 < L ∧ L < 2 ^ 128 := hliq ⟨top, L⟩ List.mem_cons_self
      have hliq' : LiquidityInRange rest := fun q hq => hliq q (List.mem_cons_of_mem _ hq)
      simp only [rungs_cons] at hasc htop hfit ⊢
      rcases hlow.eq_or_lt with rfl | hlt
      · exact ⟨⟨lower, amount, total⟩, quoteToBaseFromAmountInLoop_stop (le_refl lower) _,
          .refl hasc⟩
      have hup : lower < min stop top := lt_min hlt hasc.1
      have href : min stop top < 2 ^ 128 := (min_le_left _ _).trans_lt hwide
      -- what the first segment can give fits beside the total
      have hgive : ∀ {p}, lower ≤ p → p ≤ min stop top →
          total + baseDown L lower p < 2 ^ 64 := by
        intro p hp hle
        have hmono := climb_baseDown_mono hasc hp (hle.trans (min_le_left _ _))
        rw [climb, if_pos (hle.trans (min_le_right _ _))] at hmono
        omega
      rw [padded_cons, quoteToBaseFromAmountInLoop, if_neg (not_isEmpty hasc.1 hL), if_pos hup]
      have hmax := getDeltaAmountQuoteUnsigned256_up hup.le hLfit href
      by_cases hshort : amount < quoteUp L lower (min stop top)
      · obtain ⟨hlo, hhi, _⟩ := quoteIn_move hL hshort rfl
        have hbase := hgive hlo hhi
        have hnext := getNextSqrtPriceFromInput_quote_ok hpos hL hamount (hhi.trans_lt href)
        have hout := getDeltaAmountBaseUnsigned_down hpos hlo hLfit (hhi.trans_lt href) (by omega)
        refine ⟨_, bind_eq_ok.mpr ⟨_, hmax, ?_⟩, .inside hasc hL hLfit hshort rfl⟩
        rw [if_pos hshort]
        exact bind_eq_ok.mpr ⟨_, hnext, bind_eq_ok.mpr ⟨_, hout, bind_eq_ok.mpr
          ⟨_, safeAdd_eq_ok.mpr ⟨hbase, rfl⟩, rfl⟩⟩⟩
      · have hpaid := not_lt.mp hshort
        have hbase := hgive hup.le le_rfl
        have hcast : quoteUp L lower (min stop top) < 2 ^ 64 := by omega
        have hout := getDeltaAmountBaseUnsigned_down hpos hup.le hLfit href (by omega)
        by_cases hend : stop ≤ top
        · have hmin : min stop top = stop := min_eq_left hend
          rw [hmin] at hmax hpaid hbase hcast hout hshort ⊢
          refine ⟨_, bind_eq_ok.mpr ⟨_, hmax, ?_⟩, .stopped hlow hend hpaid⟩
          rw [if_neg hshort]
          refine bind_eq_ok.mpr ⟨_, hout, bind_eq_ok.mpr ⟨_, safeAdd_eq_ok.mpr ⟨hbase, rfl⟩,
            bind_eq_ok.mpr ⟨_, safeCast_eq_ok.mpr ⟨hcast, rfl⟩, bind_eq_ok.mpr
              ⟨_, safeSub_eq_ok.mpr ⟨hpaid, rfl⟩, ?_⟩⟩⟩⟩
          exact if_pos rfl
        · have hlt' : top < stop := not_le.mp hend
          have hmin : min stop top = top := min_eq_right hlt'.le
          rw [hmin] at hmax hpaid hbase hcast hout hshort ⊢
          rw [climb_cons_of_le baseDown_self hasc.2 hlt'.le, ← Nat.add_assoc] at hfit
          have hrest : amount - quoteUp L lower top < 2 ^ 64 := by omega
          obtain ⟨s, hs, hbought⟩ := quoteToBaseFromAmountInLoop_bought hasc.2 hliq'
            (hpos.trans hasc.1) hlt'.le htop hwide hrest hfit
          refine ⟨s, bind_eq_ok.mpr ⟨_, hmax, ?_⟩, .cons hasc hpaid hbought⟩
          rw [if_neg hshort]
          refine bind_eq_ok.mpr ⟨_, hout, bind_eq_ok.mpr ⟨_, safeAdd_eq_ok.mpr ⟨hbase, rfl⟩,
            bind_eq_ok.mpr ⟨_, safeCast_eq_ok.mpr ⟨hcast, rfl⟩, bind_eq_ok.mpr
              ⟨_, safeSub_eq_ok.mpr ⟨hpaid, rfl⟩, ?_⟩⟩⟩⟩
          exact (if_neg hlt'.ne).trans hs

end Bought

/-! ## A buy for an amount out -/

section Paid

variable {top : ℕ × ℕ} {k : ℕ} {s : Walk}

/-- **The loop of a buy for an amount out pays the cost up to the price it reaches**, and the
yield up to it holds what is used of the amount.
Source: `state/virtual_pool.rs` `calculate_quote_to_base_from_amount_out`, the loop -/
theorem quoteToBaseFromAmountOutLoop_cost :
    ∀ {points : List LiquidityDistributionParameters} {lower amount total : ℕ},
      Ascending lower (rungs points) → LiquidityInRange points →
      quoteToBaseFromAmountOutLoop (padded points k) ⟨lower, amount, total⟩ = .ok s →
        lower ≤ s.sqrtPrice ∧ s.total = total + climb quoteUp lower (rungs points) s.sqrtPrice ∧
          amount ≤ s.amountLeft + climb baseDown lower (rungs points) s.sqrtPrice
  | [], lower, amount, total, _, _, h => by
      rw [quoteToBaseFromAmountOutLoop_empty] at h
      cases h
      exact ⟨le_rfl, rfl, le_rfl⟩
  | ⟨top, L⟩ :: rest, lower, amount, total, hasc, hliq, h => by
      have hL : 0 < L := (hliq ⟨top, L⟩ List.mem_cons_self).1
      have hliq' : LiquidityInRange rest := fun q hq => hliq q (List.mem_cons_of_mem _ hq)
      simp only [rungs_cons] at hasc ⊢
      have hup : top > lower := hasc.1
      rw [padded_cons, quoteToBaseFromAmountOutLoop, if_neg (not_isEmpty hasc.1 hL), if_pos hup,
        bind_eq_ok] at h
      obtain ⟨held, hheld, h⟩ := h
      obtain ⟨_, hpos, hheldeq⟩ := getDeltaAmountBaseUnsigned256_spec hheld
      split_ifs at h with hshort
      · -- the amount ends inside this segment
        simp only [bind_eq_ok, safeAdd_eq_ok, pure_eq_ok] at h
        obtain ⟨next, hnext, paid, hpaid, _, ⟨_, rfl⟩, rfl⟩ := h
        obtain ⟨_, _, hden, hnexteq⟩ := getNextSqrtPriceFromOutput_base_spec hnext
        obtain ⟨_, hpaideq⟩ := getDeltaAmountQuoteUnsigned_spec hpaid
        rw [hheldeq] at hshort
        obtain ⟨hle, hhi, hgive⟩ := baseOut_move hpos hup.le hden hshort.le hnexteq
        refine ⟨hle, ?_, ?_⟩
        · rw [climb, if_pos hhi, hpaideq]
          rfl
        · rw [climb, if_pos hhi]
          exact ((le_baseDown_iff hpos hle).mpr hgive).trans (Nat.le_add_left _ _)
      · -- the segment is crossed to its top, and the walk goes on from there
        simp only [bind_eq_ok, safeAdd_eq_ok, safeCast_eq_ok, safeSub_eq_ok] at h
        obtain ⟨paid, hpaid, _, ⟨_, rfl⟩, held, ⟨_, rfl⟩, _, ⟨hle, rfl⟩, hrest⟩ := h
        obtain ⟨_, hpaideq⟩ := getDeltaAmountQuoteUnsigned_spec hpaid
        obtain ⟨hlow, htotal, hused⟩ := quoteToBaseFromAmountOutLoop_cost hasc.2 hliq' hrest
        have hpaid' : paid = quoteUp L lower top := hpaideq
        have hheld' : held = baseDown L lower top := hheldeq
        refine ⟨hup.le.trans hlow, ?_, ?_⟩
        · rw [climb_cons_of_le quoteUp_self hasc.2 hlow, htotal, hpaid', Nat.add_assoc]
        · rw [climb_cons_of_le baseDown_self hasc.2 hlow]
          omega

/-- The loop of a buy for an amount out crosses every segment up to whose top the yield is at most
the amount, and pays for it.
Source: `state/virtual_pool.rs` `calculate_quote_to_base_from_amount_out`, the branch of an amount
that is not short of the segment -/
theorem quoteToBaseFromAmountOutLoop_crosses :
    ∀ {points : List LiquidityDistributionParameters} {lower amount total : ℕ},
      Ascending lower (rungs points) → LiquidityInRange points →
      quoteToBaseFromAmountOutLoop (padded points k) ⟨lower, amount, total⟩ = .ok s →
      top ∈ rungs points → climb baseDown lower (rungs points) top.1 ≤ amount →
        top.1 ≤ s.sqrtPrice
  | [], lower, amount, total, _, _, _, hmem, _ => absurd hmem List.not_mem_nil
  | ⟨first, L⟩ :: rest, lower, amount, total, hasc, hliq, h, hmem, hyield => by
      have hL : 0 < L := (hliq ⟨first, L⟩ List.mem_cons_self).1
      have hliq' : LiquidityInRange rest := fun q hq => hliq q (List.mem_cons_of_mem _ hq)
      simp only [rungs_cons] at hasc hmem hyield
      have hup : first > lower := hasc.1
      -- the first segment lies below `top`, so the amount is not short of it
      have hle : first ≤ top.1 := by
        rcases List.mem_cons.mp hmem with rfl | hmem
        · exact le_rfl
        · exact (hasc.2.lt_of_mem hmem).le
      have hfirst : baseDown L lower first ≤ amount := by
        refine le_trans ?_ ((climb_baseDown_mono hasc hup.le hle).trans hyield)
        rw [climb, if_pos le_rfl]
      rw [padded_cons, quoteToBaseFromAmountOutLoop, if_neg (not_isEmpty hasc.1 hL), if_pos hup,
        bind_eq_ok] at h
      obtain ⟨held, hheld, h⟩ := h
      obtain ⟨_, _, hheldeq⟩ := getDeltaAmountBaseUnsigned256_spec hheld
      have hheld' : held = baseDown L lower first := hheldeq
      rw [if_neg (by rw [hheld']; exact not_lt.mpr hfirst)] at h
      simp only [bind_eq_ok, safeAdd_eq_ok, safeCast_eq_ok, safeSub_eq_ok] at h
      obtain ⟨paid, _, _, ⟨_, rfl⟩, held, ⟨_, rfl⟩, _, ⟨_, rfl⟩, hrest⟩ := h
      rcases List.mem_cons.mp hmem with rfl | hmem
      · exact (quoteToBaseFromAmountOutLoop_cost hasc.2 hliq' hrest).1
      · refine quoteToBaseFromAmountOutLoop_crosses hasc.2 hliq' hrest hmem ?_
        rw [climb_cons_of_le baseDown_self hasc.2 hle] at hyield
        omega

/-- **A buy for an amount out ends below a price that yields the amount**, unless the amount covers
the whole yield up to a point of the curve above that price.
Source: `state/virtual_pool.rs` `calculate_quote_to_base_from_amount_out`, the loop -/
theorem quoteToBaseFromAmountOutLoop_isOk {price : ℕ} :
    ∀ {points : List LiquidityDistributionParameters} {lower amount total : ℕ},
      Ascending lower (rungs points) → LiquidityInRange points → 0 < lower → lower ≤ price →
      price ≤ ladderTop lower (rungs points) → ladderTop lower (rungs points) < 2 ^ 128 →
      amount < 2 ^ 64 → amount ≤ climb baseDown lower (rungs points) price →
      total + climb quoteUp lower (rungs points) price < 2 ^ 64 →
      (∀ top ∈ rungs points, price < top.1 → amount < climb baseDown lower (rungs points) top.1) →
        ∃ s, quoteToBaseFromAmountOutLoop (padded points k) ⟨lower, amount, total⟩ = .ok s ∧
          s.amountLeft = 0 ∧ s.sqrtPrice ≤ price
  | [], lower, amount, total, _, _, _, hlow, _, _, _, hyield, _, _ => by
      have hzero : amount = 0 := Nat.le_zero.mp hyield
      exact ⟨_, quoteToBaseFromAmountOutLoop_empty _, hzero, hlow⟩
  | ⟨first, L⟩ :: rest, lower, amount, total, hasc, hliq, hpos, hlow, htop, hwide, hamount, hyield,
      hcost, hstop => by
      obtain ⟨hL, hLfit⟩ : 0 < L ∧ L < 2 ^ 128 := hliq ⟨first, L⟩ List.mem_cons_self
      have hliq' : LiquidityInRange rest := fun q hq => hliq q (List.mem_cons_of_mem _ hq)
      simp only [rungs_cons] at hasc htop hwide hyield hcost hstop
      have hup : first > lower := hasc.1
      have hfirst : first < 2 ^ 128 := (le_ladderTop hasc.2).trans_lt hwide
      rw [padded_cons, quoteToBaseFromAmountOutLoop, if_neg (not_isEmpty hasc.1 hL), if_pos hup]
      have hheld := getDeltaAmountBaseUnsigned256_down hpos hup.le hLfit hfirst
      by_cases hshort : amount < baseDown L lower first
      · -- the least price that yields the amount is at most `price`
        have hmin : amount ≤ baseDown L lower (min price first) := by
          rcases le_total price first with hle | hle
          · rw [min_eq_left hle]
            rwa [climb, if_pos hle] at hyield
          · rw [min_eq_right hle]
            exact hshort.le
        have hlowmin : lower ≤ min price first := le_min hlow hup.le
        have hden := mul_lt_of_le_baseDown hL hpos hlowmin hmin
        obtain ⟨hle, hhi, _⟩ := baseOut_move hpos hlowmin hden hmin rfl
        generalize hnexteq : (L * lower) ⌈/⌉ (L - amount * lower) = next at hle hhi
        have hnextfit : next < 2 ^ 128 := (hhi.trans (min_le_right _ _)).trans_lt hfirst
        have hnext := getNextSqrtPriceFromOutput_base_ok hpos hLfit hden (hnexteq.trans_lt hnextfit)
          (hup.trans hfirst)
        rw [hnexteq] at hnext
        have hpaidle : quoteUp L lower next ≤
            climb quoteUp lower ((first, L) :: rungs rest) price := by
          have hmono := climb_quoteUp_mono hasc hle (hhi.trans (min_le_left _ _))
          rwa [climb, if_pos (hhi.trans (min_le_right _ _))] at hmono
        have hpaid := getDeltaAmountQuoteUnsigned_up hle hLfit hnextfit (by omega)
        have hsum : total + quoteUp L lower next < 2 ^ 64 := by omega
        refine ⟨⟨next, 0, total + quoteUp L lower next⟩, bind_eq_ok.mpr ⟨_, hheld, ?_⟩, rfl,
          hhi.trans (min_le_left _ _)⟩
        rw [if_pos hshort]
        exact bind_eq_ok.mpr ⟨_, hnext, bind_eq_ok.mpr ⟨_, hpaid, bind_eq_ok.mpr
          ⟨_, safeAdd_eq_ok.mpr ⟨hsum, rfl⟩, rfl⟩⟩⟩
      · -- the segment is crossed, and `price` lies above it
        have hheldle := not_lt.mp hshort
        have hle : first ≤ price := by
          by_contra hcon
          have hlt := hstop (first, L) List.mem_cons_self (not_le.mp hcon)
          rw [climb, if_pos le_rfl] at hlt
          exact hshort hlt
        rw [climb_cons_of_le quoteUp_self hasc.2 hle, ← Nat.add_assoc] at hcost
        rw [climb_cons_of_le baseDown_self hasc.2 hle] at hyield
        have hpaid := getDeltaAmountQuoteUnsigned_up hup.le hLfit hfirst (by omega)
        have hyield' : amount - baseDown L lower first ≤
            climb baseDown first (rungs rest) price := by
          omega
        have hamount' : amount - baseDown L lower first < 2 ^ 64 := by omega
        have hstop' : ∀ top ∈ rungs rest, price < top.1 →
            amount - baseDown L lower first < climb baseDown first (rungs rest) top.1 := by
          intro top hmem hlt
          have h := hstop top (List.mem_cons_of_mem _ hmem) hlt
          rw [climb_cons_of_le baseDown_self hasc.2 (hasc.2.lt_of_mem hmem).le] at h
          omega
        obtain ⟨s, hs, hzero, hprice⟩ := quoteToBaseFromAmountOutLoop_isOk hasc.2 hliq'
          (hpos.trans hasc.1) hle htop hwide hamount' hyield' hcost hstop'
        refine ⟨s, bind_eq_ok.mpr ⟨_, hheld, ?_⟩, hzero, hprice⟩
        have hsum : total + quoteUp L lower first < 2 ^ 64 := by omega
        have hcast : baseDown L lower first < 2 ^ 64 := by omega
        rw [if_neg hshort]
        exact bind_eq_ok.mpr ⟨_, hpaid, bind_eq_ok.mpr ⟨_, safeAdd_eq_ok.mpr ⟨hsum, rfl⟩,
          bind_eq_ok.mpr ⟨_, safeCast_eq_ok.mpr ⟨hcast, rfl⟩, bind_eq_ok.mpr
            ⟨_, safeSub_eq_ok.mpr ⟨hheldle, rfl⟩, hs⟩⟩⟩⟩

end Paid

/-! ## The calculators of an accepted configuration -/

namespace AcceptedConfig

variable (a : AcceptedConfig) {price low high : ℕ}

/-- The quote that a buy pays between two prices, each segment rounded up.
Source: `curve.rs` `get_delta_amount_quote_unsigned_unchecked`, summed along `PoolConfig` `curve` -/
def costTo (low high : ℕ) : ℕ := climb quoteUp low (above low a.ladder) high

/-- The base that a buy is given between two prices, each segment rounded down.
Source: `curve.rs` `get_delta_amount_base_unsigned_unchecked`, summed along `PoolConfig` `curve` -/
def yieldTo (low high : ℕ) : ℕ := climb baseDown low (above low a.ladder) high

/-- What is left to climb from a price of the curve is a ladder. -/
theorem ascending_above (h : a.config.sqrtStartPrice ≤ low) :
    Ascending low (above low a.ladder) :=
  Library.ascending_above a.ascending h

/-- Buying up to a higher price costs more. -/
theorem costTo_mono (h : a.config.sqrtStartPrice ≤ low) (hlow : low ≤ high) (hle : high ≤ price) :
    a.costTo low high ≤ a.costTo low price :=
  climb_quoteUp_mono (a.ascending_above h) hlow hle

/-- Buying up to a higher price yields more. -/
theorem yieldTo_mono (h : a.config.sqrtStartPrice ≤ low) (hlow : low ≤ high) (hle : high ≤ price) :
    a.yieldTo low high ≤ a.yieldTo low price :=
  climb_baseDown_mono (a.ascending_above h) hlow hle

/-- **What a buy below the migration price is given was sized for the sale.**
Source: `params/liquidity_distribution.rs` `get_base_token_for_swap` -/
theorem yieldTo_le_swapBaseAmount (h : a.config.sqrtStartPrice ≤ low) (hlow : low ≤ high)
    (hhigh : high ≤ a.config.migrationSqrtPrice) :
    a.yieldTo low high ≤ a.config.swapBaseAmount := by
  have hstart := h.trans hlow
  rw [a.swapBaseAmount_eq_climb]
  calc a.yieldTo low high
      ≤ climb baseDown a.config.sqrtStartPrice a.ladder high :=
        climb_above_le baseDown_self (fun _ _ _ _ => Nat.zero_le _)
          (fun L _ _ _ hx hxy hyz => baseDown_anti L (a.sqrtStartPrice_pos.trans_le hx) hxy hyz)
          a.ascending h hlow
    _ ≤ climb baseUp a.config.sqrtStartPrice a.ladder high :=
        climb_le_climb a.ascending hstart fun _ _ _ _ hx hxy =>
          baseDown_le_baseUp (a.sqrtStartPrice_pos.trans_le hx) hxy
    _ ≤ climb baseUp a.config.sqrtStartPrice a.ladder a.config.migrationSqrtPrice :=
        climb_mono baseUp_self (fun _ _ _ _ => Nat.zero_le _)
          (fun L _ _ _ hxy hyz => baseUp_mono L hxy hyz) a.ascending hstart hhigh

end AcceptedConfig

namespace PoolState

variable (a : AcceptedConfig) {p : PoolState} {amount : ℕ}

/-- **A buy for an amount in goes to the highest price, up to the migration price, whose cost the
amount covers**, keeps what is left of the amount, and gives the yield up to it. Before the
migration price nothing is left.
Source: `state/virtual_pool.rs` `calculate_quote_to_base_from_amount_in` -/
theorem calculateQuoteToBaseFromAmountIn_bought (hp : p.PriceInRange a)
    (hamount : amount < 2 ^ 64) :
    ∃ r, p.calculateQuoteToBaseFromAmountIn a.config amount a.config.migrationSqrtPrice = .ok r ∧
      IsGreatest {price | p.sqrtPrice ≤ price ∧ price ≤ a.config.migrationSqrtPrice ∧
        a.costTo p.sqrtPrice price ≤ amount} r.nextSqrtPrice ∧
      r.amountLeft + a.costTo p.sqrtPrice r.nextSqrtPrice = amount ∧
      r.outputAmount = a.yieldTo p.sqrtPrice r.nextSqrtPrice ∧
      (r.amountLeft = 0 ∨ r.nextSqrtPrice = a.config.migrationSqrtPrice) := by
  obtain ⟨hstart, hstop⟩ := hp
  have hpos : 0 < p.sqrtPrice := a.sqrtStartPrice_pos.trans_le hstart
  have htop : ladderTop p.sqrtPrice (above p.sqrtPrice a.ladder) =
      ladderTop a.config.sqrtStartPrice a.ladder :=
    ladderTop_above hstart (hstop.trans a.migration_le_ladderTop)
  have hfit : 0 + a.yieldTo p.sqrtPrice a.config.migrationSqrtPrice < 2 ^ 64 := by
    rw [Nat.zero_add]
    exact (a.yieldTo_le_swapBaseAmount hstart hstop le_rfl).trans_lt a.swapBaseAmount_lt
  have hasc := a.ascending_above hstart
  unfold AcceptedConfig.yieldTo at hfit
  rw [← rungs_pointsAbove] at htop hasc hfit
  obtain ⟨s, hs, hbought⟩ := quoteToBaseFromAmountInLoop_bought
    (k := MAX_CURVE_POINT_CONFIG - a.params.curve.length) hasc
    (liquidityInRange_pointsAbove a.liquidityInRange) hpos hstop
    (a.migration_le_ladderTop.trans_eq htop.symm) a.migrationSqrtPrice_lt hamount hfit
  refine ⟨⟨s.amountLeft, s.total, s.sqrtPrice⟩, ?_, ?_, ?_, ?_, hbought.left⟩
  · rw [calculateQuoteToBaseFromAmountIn, curve_eq_padded,
      quoteToBaseFromAmountInLoop_pointsAbove a.ascending a.liquidityInRange]
    exact bind_eq_ok.mpr ⟨s, hs, rfl⟩
  · unfold AcceptedConfig.costTo
    rw [← rungs_pointsAbove]
    exact hbought.sqrtPrice
  · unfold AcceptedConfig.costTo
    rw [← rungs_pointsAbove]
    exact hbought.amountLeft
  · unfold AcceptedConfig.yieldTo
    rw [← rungs_pointsAbove]
    exact hbought.total.trans (Nat.zero_add _)

section Out

variable {r : SwapAmountFromOutput}

/-- A buy of an exact output that succeeds went through the loop with nothing left. -/
theorem calculateQuoteToBaseFromAmountOut_loop
    (h : p.calculateQuoteToBaseFromAmountOut a.config amount = .ok r) :
    ∃ k, quoteToBaseFromAmountOutLoop (padded (pointsAbove p.sqrtPrice a.params.curve) k)
      ⟨p.sqrtPrice, amount, 0⟩ = .ok ⟨r.nextSqrtPrice, 0, r.amountIn⟩ := by
  simp only [calculateQuoteToBaseFromAmountOut, bind_eq_ok, exists_unit, require_eq_ok,
    pure_eq_ok, curve_eq_padded] at h
  obtain ⟨⟨next, left, total⟩, hloop, hzero, rfl⟩ := h
  simp only at hzero
  subst hzero
  rw [quoteToBaseFromAmountOutLoop_pointsAbove a.ascending a.liquidityInRange] at hloop
  exact ⟨_, hloop⟩

/-- **A buy for an amount out pays the cost up to the price it reaches**, which yields the amount.
Source: `state/virtual_pool.rs` `calculate_quote_to_base_from_amount_out` -/
theorem calculateQuoteToBaseFromAmountOut_cost (hstart : a.config.sqrtStartPrice ≤ p.sqrtPrice)
    (h : p.calculateQuoteToBaseFromAmountOut a.config amount = .ok r) :
    p.sqrtPrice ≤ r.nextSqrtPrice ∧ r.amountIn = a.costTo p.sqrtPrice r.nextSqrtPrice ∧
      amount ≤ a.yieldTo p.sqrtPrice r.nextSqrtPrice := by
  obtain ⟨k, hloop⟩ := calculateQuoteToBaseFromAmountOut_loop a h
  have hasc := a.ascending_above hstart
  unfold AcceptedConfig.costTo AcceptedConfig.yieldTo
  rw [← rungs_pointsAbove] at hasc ⊢
  obtain ⟨hlow, hcost, hyield⟩ := quoteToBaseFromAmountOutLoop_cost hasc
    (liquidityInRange_pointsAbove a.liquidityInRange) hloop
  simp only [Nat.zero_add] at hcost hyield
  exact ⟨hlow, hcost, hyield⟩

/-- The points of the curve above a price. -/
theorem mem_rungs_pointsAbove {point : LiquidityDistributionParameters}
    (hmem : point ∈ a.params.curve) (hlt : p.sqrtPrice < point.sqrtPrice) :
    (point.sqrtPrice, point.liquidity) ∈ rungs (pointsAbove p.sqrtPrice a.params.curve) := by
  rw [rungs_pointsAbove, mem_above_iff a.ascending]
  exact ⟨List.mem_map_of_mem hmem, hlt⟩

/-- A buy for an amount out crosses every segment up to whose top the yield is at most the amount.
Source: `state/virtual_pool.rs` `calculate_quote_to_base_from_amount_out` -/
theorem calculateQuoteToBaseFromAmountOut_crosses {point : LiquidityDistributionParameters}
    (hstart : a.config.sqrtStartPrice ≤ p.sqrtPrice)
    (h : p.calculateQuoteToBaseFromAmountOut a.config amount = .ok r)
    (hmem : point ∈ a.params.curve) (hlt : p.sqrtPrice < point.sqrtPrice)
    (hyield : a.yieldTo p.sqrtPrice point.sqrtPrice ≤ amount) :
    point.sqrtPrice ≤ r.nextSqrtPrice := by
  obtain ⟨k, hloop⟩ := calculateQuoteToBaseFromAmountOut_loop a h
  have hasc := a.ascending_above hstart
  unfold AcceptedConfig.yieldTo at hyield
  rw [← rungs_pointsAbove] at hasc hyield
  exact quoteToBaseFromAmountOutLoop_crosses hasc (liquidityInRange_pointsAbove a.liquidityInRange)
    hloop (mem_rungs_pointsAbove a hmem hlt) hyield

/-- **A buy for an amount out succeeds below a price that yields the amount**, unless the amount
covers the whole yield up to a point of the curve above that price.
Source: `state/virtual_pool.rs` `calculate_quote_to_base_from_amount_out` -/
theorem calculateQuoteToBaseFromAmountOut_isOk {price : ℕ} (hp : p.PriceInRange a)
    (hlow : p.sqrtPrice ≤ price) (hprice : price ≤ a.config.migrationSqrtPrice)
    (hamount : amount ≤ a.yieldTo p.sqrtPrice price) (hcost : a.costTo p.sqrtPrice price < 2 ^ 64)
    (hstop : ∀ point ∈ a.params.curve, price < point.sqrtPrice →
      amount < a.yieldTo p.sqrtPrice point.sqrtPrice) :
    ∃ r, p.calculateQuoteToBaseFromAmountOut a.config amount = .ok r ∧ r.nextSqrtPrice ≤ price := by
  obtain ⟨hstart, hle⟩ := hp
  have hpos : 0 < p.sqrtPrice := a.sqrtStartPrice_pos.trans_le hstart
  have htop : ladderTop p.sqrtPrice (above p.sqrtPrice a.ladder) =
      ladderTop a.config.sqrtStartPrice a.ladder :=
    ladderTop_above hstart (hle.trans a.migration_le_ladderTop)
  have hfit : amount < 2 ^ 64 := hamount.trans_lt
    ((a.yieldTo_le_swapBaseAmount hstart hlow hprice).trans_lt a.swapBaseAmount_lt)
  have hasc := a.ascending_above hstart
  have hstop' : ∀ top ∈ above p.sqrtPrice a.ladder, price < top.1 →
      amount < climb baseDown p.sqrtPrice (above p.sqrtPrice a.ladder) top.1 := by
    intro top hmem hlt
    obtain ⟨hmem, -⟩ := (mem_above_iff a.ascending).mp hmem
    obtain ⟨point, hpoint, rfl⟩ := List.mem_map.mp hmem
    exact hstop point hpoint hlt
  rw [← Nat.zero_add (a.costTo _ _)] at hcost
  unfold AcceptedConfig.costTo at hcost
  unfold AcceptedConfig.yieldTo at hamount
  rw [← rungs_pointsAbove] at htop hasc hstop' hcost hamount
  obtain ⟨s, hs, hzero, hnext⟩ := quoteToBaseFromAmountOutLoop_isOk
    (k := MAX_CURVE_POINT_CONFIG - a.params.curve.length) hasc
    (liquidityInRange_pointsAbove a.liquidityInRange) hpos hlow
    ((hprice.trans a.migration_le_ladderTop).trans_eq htop.symm) (htop.trans_lt a.ladderTop_lt)
    hfit hamount hcost hstop'
  refine ⟨⟨s.total, s.sqrtPrice⟩, ?_, hnext⟩
  rw [calculateQuoteToBaseFromAmountOut, curve_eq_padded,
    quoteToBaseFromAmountOutLoop_pointsAbove a.ascending a.liquidityInRange]
  exact bind_eq_ok.mpr ⟨s, hs, bind_eq_ok.mpr ⟨(), require_eq_ok.mpr hzero, rfl⟩⟩

end Out

end PoolState

end DynamicBondingCurve
