import DynamicBondingCurve.Amounts

/-!
# The curve of a configuration

A curve is a list of points, each the top of a segment and the liquidity of that segment; the
first segment starts at the start price. The two loops here size the sale when a configuration
is created.

* `getBaseTokenForSwap`: the base the curve sells up to the migration price, segment by segment
  rounded up; `getBaseTokenForSwap_eq_climb`: it is the climb of `baseUp`.
* `getMigrationThresholdPrice`: the price at which the threshold is raised;
  `getMigrationThresholdPrice_spec`: **the rounded-up quote of the curve up to it is exactly the
  threshold**.
-/

namespace DynamicBondingCurve

open Library

/-- One point of a curve.
Source: `params/liquidity_distribution.rs` `LiquidityDistributionParameters` -/
structure LiquidityDistributionParameters where
  sqrtPrice : ℕ
  liquidity : ℕ
  deriving DecidableEq, Repr, Inhabited

/-- One point of a stored curve.
Source: `state/config.rs` `LiquidityDistributionConfig` -/
structure LiquidityDistributionConfig where
  sqrtPrice : ℕ
  liquidity : ℕ
  deriving DecidableEq, Repr, Inhabited

/-- A point of the curve is stored as it was submitted.
Source: `params/liquidity_distribution.rs` `to_liquidity_distribution_config` -/
def LiquidityDistributionParameters.toLiquidityDistributionConfig
    (p : LiquidityDistributionParameters) : LiquidityDistributionConfig :=
  { sqrtPrice := p.sqrtPrice, liquidity := p.liquidity }

/-- The curve as a ladder: each point is the top of a rung whose weight is its liquidity.
Source: none: the abstract reading of a curve -/
def rungs (curve : List LiquidityDistributionParameters) : List (ℕ × ℕ) :=
  curve.map fun point => (point.sqrtPrice, point.liquidity)

/-- A curve without points has no rungs. -/
@[simp] theorem rungs_nil : rungs [] = [] := rfl

/-- Each point of a curve is a rung. -/
@[simp] theorem rungs_cons (point : LiquidityDistributionParameters)
    (curve : List LiquidityDistributionParameters) :
    rungs (point :: curve) = (point.sqrtPrice, point.liquidity) :: rungs curve := rfl

/-! ## The base the curve sells -/

/-- The loop of `get_base_token_for_swap`, from the segment that starts at `lowerSqrtPrice`.
Source: `params/liquidity_distribution.rs` `get_base_token_for_swap`, the loop -/
def getBaseTokenForSwapLoop (sqrtMigrationPrice : ℕ) :
    ℕ → List LiquidityDistributionParameters → ℕ → Result ℕ
  | _, [], totalAmount => pure totalAmount
  | lowerSqrtPrice, point :: rest, totalAmount =>
      if point.sqrtPrice > sqrtMigrationPrice then do
        let deltaAmount ← getDeltaAmountBaseUnsigned256 lowerSqrtPrice sqrtMigrationPrice
          point.liquidity .up
        safeAdd 256 totalAmount deltaAmount
      else do
        let deltaAmount ← getDeltaAmountBaseUnsigned256 lowerSqrtPrice point.sqrtPrice
          point.liquidity .up
        let totalAmount ← safeAdd 256 totalAmount deltaAmount
        getBaseTokenForSwapLoop sqrtMigrationPrice point.sqrtPrice rest totalAmount

/-- The base that the curve sells up to the migration price.
Source: `params/liquidity_distribution.rs` `get_base_token_for_swap` -/
def getBaseTokenForSwap (sqrtStartPrice sqrtMigrationPrice : ℕ)
    (curve : List LiquidityDistributionParameters) : Result ℕ :=
  getBaseTokenForSwapLoop sqrtMigrationPrice sqrtStartPrice curve 0

/-- No move yields no base, rounded up. -/
theorem baseUp_self (L a : ℕ) : baseUp L a a = 0 := by
  simp [baseUp]

/-- The loop sums the base of the segments up to the migration price. -/
theorem getBaseTokenForSwapLoop_eq_climb {sqrtMigrationPrice : ℕ} :
    ∀ {curve : List LiquidityDistributionParameters} {lower total r : ℕ},
      Ascending lower (rungs curve) → lower ≤ sqrtMigrationPrice →
      getBaseTokenForSwapLoop sqrtMigrationPrice lower curve total = .ok r →
        r = total + climb baseUp lower (rungs curve) sqrtMigrationPrice
  | [], lower, total, r, _, _, h => by
      simp only [getBaseTokenForSwapLoop, pure_eq_ok] at h
      simpa [climb] using h.symm
  | point :: rest, lower, total, r, hasc, hle, h => by
      unfold getBaseTokenForSwapLoop at h
      split_ifs at h with hgt
      · simp only [bind_eq_ok, safeAdd_eq_ok] at h
        obtain ⟨_, hdelta, _, rfl⟩ := h
        obtain ⟨_, _, hd⟩ := getDeltaAmountBaseUnsigned256_spec hdelta
        rw [rungs_cons, climb, if_pos (le_of_lt hgt), hd]
        rfl
      · simp only [bind_eq_ok, safeAdd_eq_ok] at h
        obtain ⟨_, hdelta, _, ⟨_, rfl⟩, hrest⟩ := h
        obtain ⟨_, _, hd⟩ := getDeltaAmountBaseUnsigned256_spec hdelta
        have htop : point.sqrtPrice ≤ sqrtMigrationPrice := not_lt.mp hgt
        have hasc' : Ascending point.sqrtPrice (rungs rest) := hasc.2
        have ih := getBaseTokenForSwapLoop_eq_climb hasc' htop hrest
        rw [rungs_cons, climb_cons_of_le baseUp_self hasc' htop, ih, hd, Nat.add_assoc]
        rfl

/-- The base sized for the sale is the climb of the rounded-up base amounts.
Source: `params/liquidity_distribution.rs` `get_base_token_for_swap` -/
theorem getBaseTokenForSwap_eq_climb {start migration r : ℕ}
    {curve : List LiquidityDistributionParameters} (hasc : Ascending start (rungs curve))
    (hle : start ≤ migration) (h : getBaseTokenForSwap start migration curve = .ok r) :
    r = climb baseUp start (rungs curve) migration := by
  have := getBaseTokenForSwapLoop_eq_climb hasc hle h
  rwa [Nat.zero_add] at this

/-! ## The price at which the threshold is raised -/

/-- The loop of `get_migration_threshold_price`: the price and the amount left after it.
Source: `params/liquidity_distribution.rs` `get_migration_threshold_price`, the loop -/
def getMigrationThresholdPriceLoop :
    ℕ → List LiquidityDistributionParameters → ℕ → Result (ℕ × ℕ)
  | nextSqrtPrice, [], amountLeft => pure (nextSqrtPrice, amountLeft)
  | nextSqrtPrice, point :: rest, amountLeft => do
      let maxAmount ← getDeltaAmountQuoteUnsigned256 nextSqrtPrice point.sqrtPrice
        point.liquidity .up
      if maxAmount > amountLeft then do
        let nextSqrtPrice ← getNextSqrtPriceFromInput nextSqrtPrice point.liquidity amountLeft
          false
        pure (nextSqrtPrice, 0)
      else do
        let maxAmount ← safeCast 64 maxAmount
        let amountLeft ← safeSub amountLeft maxAmount
        getMigrationThresholdPriceLoop point.sqrtPrice rest amountLeft

/-- The price at which the curve has raised the threshold.
Source: `params/liquidity_distribution.rs` `get_migration_threshold_price` -/
def getMigrationThresholdPrice (migrationThreshold sqrtStartPrice : ℕ)
    (curve : List LiquidityDistributionParameters) : Result ℕ :=
  match curve with
  | [] => .error .panic
  | point :: rest => do
      let totalAmount ← getDeltaAmountQuoteUnsigned256 sqrtStartPrice point.sqrtPrice
        point.liquidity .up
      if totalAmount > migrationThreshold then
        getNextSqrtPriceFromInput sqrtStartPrice point.liquidity migrationThreshold false
      else do
        let totalAmount ← safeCast 64 totalAmount
        let amountLeft ← safeSub migrationThreshold totalAmount
        let (nextSqrtPrice, amountLeft) ←
          getMigrationThresholdPriceLoop point.sqrtPrice rest amountLeft
        ensure (amountLeft = 0) .notEnoughLiquidity
        pure nextSqrtPrice

/-- Every segment of the curve has a liquidity that is positive and fits its type.
Source: `params/liquidity_distribution.rs` `LiquidityDistributionParameters`, the type of
`liquidity`; `instructions/partner/create_config/process_create_config.rs`, the check on it -/
def LiquidityInRange (curve : List LiquidityDistributionParameters) : Prop :=
  ∀ point ∈ curve, 0 < point.liquidity ∧ point.liquidity < 2 ^ 128

/-- The partial step into a segment is worth the whole amount once rounded up. -/
theorem quoteUp_of_partial {L p amount next : ℕ} (hL : 0 < L) (hfit : L < 2 ^ 128)
    (hnext : next = p + amount * 2 ^ 128 / L) : quoteUp L p next = amount := by
  rw [quoteUp, quoteExact, hnext, Nat.add_sub_cancel_left]
  exact ceilDiv_mul_div_self hL hfit.le

/-- Where the loop has paid in the whole threshold, the climb to its price costs the threshold. -/
theorem getMigrationThresholdPriceLoop_spec :
    ∀ {curve : List LiquidityDistributionParameters} {lower amount price : ℕ},
      Ascending lower (rungs curve) → LiquidityInRange curve →
      getMigrationThresholdPriceLoop lower curve amount = .ok (price, 0) →
        lower ≤ price ∧ price ≤ ladderTop lower (rungs curve) ∧
          climb quoteUp lower (rungs curve) price = amount
  | [], lower, amount, price, _, _, h => by
      simp only [getMigrationThresholdPriceLoop, pure_eq_ok, Prod.mk.injEq] at h
      obtain ⟨rfl, rfl⟩ := h
      exact ⟨le_rfl, le_rfl, rfl⟩
  | point :: rest, lower, amount, price, hasc, hliq, h => by
      obtain ⟨hL, hfit⟩ := hliq point List.mem_cons_self
      have hliq' : LiquidityInRange rest := fun q hq => hliq q (List.mem_cons_of_mem _ hq)
      have hasc' : Ascending point.sqrtPrice (rungs rest) := hasc.2
      simp only [getMigrationThresholdPriceLoop, bind_eq_ok] at h
      obtain ⟨maxAmount, hmax, h⟩ := h
      obtain ⟨_, hmaxeq⟩ := getDeltaAmountQuoteUnsigned256_spec hmax
      have hup : maxAmount = quoteUp point.liquidity lower point.sqrtPrice := hmaxeq
      split_ifs at h with hgt
      · simp only [bind_eq_ok, pure_eq_ok, Prod.mk.injEq] at h
        obtain ⟨next, hnext, rfl, -⟩ := h
        obtain ⟨_, _, heq⟩ := getNextSqrtPriceFromInput_quote_spec hnext
        rw [hup] at hgt
        obtain ⟨hlow, hhigh, _⟩ := quoteIn_move hL hgt heq
        refine ⟨hlow, hhigh.trans (le_ladderTop hasc'), ?_⟩
        rw [rungs_cons, climb, if_pos hhigh]
        exact quoteUp_of_partial hL hfit heq
      · simp only [bind_eq_ok, safeCast_eq_ok, safeSub_eq_ok] at h
        obtain ⟨_, ⟨_, rfl⟩, _, ⟨hle, rfl⟩, hrest⟩ := h
        obtain ⟨hlow, hhigh, hclimb⟩ := getMigrationThresholdPriceLoop_spec hasc' hliq' hrest
        refine ⟨hasc.1.le.trans hlow, hhigh, ?_⟩
        rw [rungs_cons, climb_cons_of_le quoteUp_self hasc' hlow, hclimb, ← hup]
        omega

/-- **The threshold is what the curve raises up to the migration price**, each segment rounded
up.
Source: `params/liquidity_distribution.rs` `get_migration_threshold_price` -/
theorem getMigrationThresholdPrice_spec {threshold start price : ℕ}
    {curve : List LiquidityDistributionParameters} (hasc : Ascending start (rungs curve))
    (hliq : LiquidityInRange curve)
    (h : getMigrationThresholdPrice threshold start curve = .ok price) :
    start ≤ price ∧ price ≤ ladderTop start (rungs curve) ∧
      climb quoteUp start (rungs curve) price = threshold := by
  cases curve with
  | nil => simp [getMigrationThresholdPrice] at h
  | cons point rest =>
    apply getMigrationThresholdPriceLoop_spec hasc hliq
    simp only [getMigrationThresholdPrice, bind_eq_ok] at h
    obtain ⟨total, htotal, h⟩ := h
    simp only [getMigrationThresholdPriceLoop, bind_eq_ok]
    refine ⟨total, htotal, ?_⟩
    split_ifs at h ⊢ with hgt
    · rw [bind_eq_ok]
      exact ⟨price, h, rfl⟩
    · simp only [bind_eq_ok, require_eq_ok, pure_eq_ok] at h
      obtain ⟨_, hcast, _, hsub, ⟨next, left⟩, hloop, _, hzero, hnext⟩ := h
      simp only at hzero hnext
      subst hzero hnext
      simp only [bind_eq_ok]
      exact ⟨_, hcast, _, hsub, hloop⟩

end DynamicBondingCurve
