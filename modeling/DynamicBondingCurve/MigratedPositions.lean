import DynamicBondingCurve.CompoundingOpening
import DynamicBondingCurve.ConcentratedOpening
import DynamicBondingCurve.LiquidityLock
import DynamicBondingCurve.VestingSizes

/-!
# The two positions of a migrated pool

A migration into the second program opens the pool with one position, which holds the larger of the
two shares, and adds the other with what the first one left of the deposit. The liquidity of the
second position is computed from these leftovers, so that it need not be its share, and the share is
cut anew to it.

* `DammV2`: the second program, known by what its two calls take; `openPositions`: the calls that a
  migration makes. `DammV2.amm`: **they are one of the programs that a migration runs against.**
* `Opened`: whose the positions are, and how much of them is locked.
* `LiquidityDistributionItem.IsShareOf.lockedAfter_recut`: a share that is cut anew keeps the basis
  points that its party promised, less what it fell short of.
* `Launch.positions_shared`: **every party gets its share, and no more of it free than its share
  has.**
* `Launch.positions_locked`: **a tenth of the liquidity is locked for one day.**
-/

namespace DynamicBondingCurve

open Library

/-! ## The second program -/

/-- The liquidity that amounts of both tokens are worth in an open pool.
Source: `migration_handler/mod.rs` `calculate_liquidity_delta` -/
def MigrationHandler.calculateLiquidityDelta (h : MigrationHandler)
    (baseAmount quoteAmount poolBaseReserve poolQuoteReserve poolLiquidity : ℕ) : Result ℕ :=
  match h with
  | .compoundingLiquidity _ => do
      let liquidityFromBase ← safeMulDivCastU128 baseAmount poolLiquidity poolBaseReserve .down
      let liquidityFromQuote ← safeMulDivCastU128 quoteAmount poolLiquidity poolQuoteReserve .down
      pure (min liquidityFromBase liquidityFromQuote)
  | .concentratedLiquidity migrationSqrtPrice =>
      calculateConcentratedInitialLiquidity baseAmount quoteAmount migrationSqrtPrice

/-- What the migration reads of a pool of the second program.
Source: `migrate_damm_v2_initialize_pool.rs` `handle_migrate_damm_v2`, `damm_pool` -/
structure DammPool where
  tokenAAmount : ℕ
  tokenBAmount : ℕ
  liquidity : ℕ
  deriving DecidableEq, Repr

/-- A position as the migration leaves it: its owner, its liquidity and the two locks on it.
Source: `migrate_damm_v2_initialize_pool.rs` `lock_liquidity_position`,
`set_authority_for_position` -/
structure DammPosition where
  owner : Pubkey
  liquidity : ℕ
  permanentLock : ℕ
  vesting : Option DammV2VestingParameters
  deriving DecidableEq, Repr

/-- The second program for a migration with a handler: it may refuse each of the calls. In a pool
that it opened at the price of an offer, a position of the liquidity that an amount is worth takes
no more than the amount.
Source: the calls of the second program, which is not part of this one -/
structure DammV2 (handler : MigrationHandler) where
  createPool : (liquidity sqrtPrice : ℕ) → Option (Deposit × DammPool)
  createSecondPosition : DammPool → (liquidity : ℕ) → Option Deposit
  acceptsPosition : DammPosition → Bool
  taken_le : ∀ {offer first taken : Deposit} {info : InitialPoolInformation}
    {liquidity delta : ℕ} {pool : DammPool} (left : Deposit),
      handler.getInitialPoolInformation offer.base offer.quote = .ok info →
      createPool liquidity info.sqrtPrice = some (first, pool) →
      handler.calculateLiquidityDelta left.base left.quote pool.tokenAAmount pool.tokenBAmount
        pool.liquidity = .ok delta →
      createSecondPosition pool delta = some taken →
        taken.base ≤ left.base ∧ taken.quote ≤ left.quote

/-! ## The calls of a migration -/

/-- The locked liquidity of a share, for good or vesting.
Source: `state/config.rs` `get_total_locked_liquidity` of `LiquidityDistributionItem` -/
def LiquidityDistributionItem.getTotalLockedLiquidity (i : LiquidityDistributionItem) :
    Result ℕ :=
  safeAdd 128 i.permanentLockedLiquidity i.vestedLiquidity

/-- The position of a share, once it is locked and handed over.
Source: `migrate_damm_v2_initialize_pool.rs` `lock_liquidity_position`,
`set_authority_for_position` and the condition on their call -/
def LiquidityDistributionItem.lockLiquidityPosition (i : LiquidityDistributionItem)
    (owner : Pubkey) (liquidity currentTimestamp : ℕ) : Result DammPosition := do
  let locked ← i.getTotalLockedLiquidity
  if locked > 0 then do
    let vesting ← (if i.vestedLiquidity > 0 then do
        let vestingParams ← i.getDammV2VestingParameters currentTimestamp
        pure (some vestingParams)
      else pure none)
    pure
      { owner := owner
        liquidity := liquidity
        permanentLock := i.permanentLockedLiquidity
        vesting := vesting }
  else pure { owner := owner, liquidity := liquidity, permanentLock := 0, vesting := none }

/-- The shares in the order of their positions, the larger one first, with their owners.
Source: `migrate_damm_v2_initialize_pool.rs` `handle_migrate_damm_v2`,
`first_position_liquidity_distribution` and the three variables after it -/
def LiquidityDistribution.inOrder (l : LiquidityDistribution) (feeClaimer creator : Pubkey) :
    Result ((LiquidityDistributionItem × Pubkey) × (LiquidityDistributionItem × Pubkey)) := do
  let partnerTotal ← l.partner.getTotalLiquidity
  let creatorTotal ← l.creator.getTotalLiquidity
  pure (if partnerTotal > creatorTotal then ((l.partner, feeClaimer), (l.creator, creator))
    else ((l.creator, creator), (l.partner, feeClaimer)))

/-- The second position, when something is left for it.
Source: `migrate_damm_v2_initialize_pool.rs` `handle_migrate_damm_v2`, from
`leftover_migration_base_amount` to `set_authority_for_position` of the second position -/
def openSecondPosition {handler : MigrationHandler} (damm : DammV2 handler)
    (i : LiquidityDistributionItem) (owner : Pubkey) (currentTimestamp : ℕ) (offer taken : Deposit)
    (pool : DammPool) : Result (Deposit × List DammPosition) := do
  let leftBase ← safeSub offer.base taken.base
  let leftQuote ← safeSub offer.quote taken.quote
  let liquidity ← handler.calculateLiquidityDelta leftBase leftQuote pool.tokenAAmount
    pool.tokenBAmount pool.liquidity
  if liquidity > 0 then do
    let i ← i.adjustLiquidity liquidity
    let second ← orThrow (damm.createSecondPosition pool liquidity) Fault.account
    let position ← i.lockLiquidityPosition owner liquidity currentTimestamp
    require (damm.acceptsPosition position) Fault.account
    pure ({ base := taken.base + second.base, quote := taken.quote + second.quote }, [position])
  else pure (taken, [])

/-- The positions that are opened with an offer, and what they take of it.
Source: `migrate_damm_v2_initialize_pool.rs` `handle_migrate_damm_v2`, from
`get_initial_pool_information` to `update_after_create_pool` -/
def PoolConfig.openPositions (c : PoolConfig) {handler : MigrationHandler} (damm : DammV2 handler)
    (creator : Pubkey) (currentTimestamp : ℕ) (offer : Deposit) :
    Result (Deposit × List DammPosition) := do
  let info ← handler.getInitialPoolInformation offer.base offer.quote
  let distribution ← c.getLiquidityDistribution info.distributableLiquidity
  let ((first, firstOwner), (second, secondOwner)) ← distribution.inOrder c.feeClaimer creator
  let firstTotal ← first.getTotalLiquidity
  let liquidity ← safeAdd 128 firstTotal info.deadLiquidity
  let (taken, pool) ← orThrow (damm.createPool liquidity info.sqrtPrice) Fault.account
  let position ← first.lockLiquidityPosition firstOwner liquidity currentTimestamp
  require (damm.acceptsPosition position) Fault.account
  let (taken, positions) ← openSecondPosition damm second secondOwner currentTimestamp offer taken
    pool
  pure (taken, position :: positions)

/-- The second position is opened with what the first one left, or not at all.
Source: `migrate_damm_v2_initialize_pool.rs` `handle_migrate_damm_v2`, the position of a share that
may be nothing -/
theorem openSecondPosition_spec {handler : MigrationHandler} {damm : DammV2 handler}
    {i : LiquidityDistributionItem} {owner : Pubkey} {now : ℕ} {offer taken total : Deposit}
    {pool : DammPool} {positions : List DammPosition}
    (h : openSecondPosition damm i owner now offer taken pool = .ok (total, positions)) :
    taken.base ≤ offer.base ∧ taken.quote ≤ offer.quote ∧ ∃ delta,
      handler.calculateLiquidityDelta (offer.base - taken.base) (offer.quote - taken.quote)
          pool.tokenAAmount pool.tokenBAmount pool.liquidity = .ok delta ∧
        ((delta = 0 ∧ total = taken ∧ positions = []) ∨
          ∃ r second position, i.adjustLiquidity delta = .ok r ∧
            damm.createSecondPosition pool delta = some second ∧
            r.lockLiquidityPosition owner delta now = .ok position ∧
            total = ⟨taken.base + second.base, taken.quote + second.quote⟩ ∧
            positions = [position]) := by
  simp only [openSecondPosition, bind_eq_ok, safeSub_eq_ok] at h
  obtain ⟨_, ⟨hbase, rfl⟩, _, ⟨hquote, rfl⟩, delta, hdelta, h⟩ := h
  refine ⟨hbase, hquote, delta, hdelta, ?_⟩
  split_ifs at h with hpos
  · simp only [bind_eq_ok, exists_unit, orThrow_eq_ok, require_eq_ok, pure_eq_ok,
      Prod.mk.injEq] at h
    obtain ⟨r, hr, second, hsecond, position, hposition, _, rfl, rfl⟩ := h
    exact .inr ⟨r, second, position, hr, hsecond, hposition, rfl, rfl⟩
  · rw [pure_eq_ok, Prod.mk.injEq] at h
    exact .inl ⟨by omega, h.1.symm, h.2.symm⟩

namespace DammV2

variable {handler : MigrationHandler} (damm : DammV2 handler) (c : PoolConfig) (creator : Pubkey)
  (now : ℕ)

/-- The two positions take no more than the offer.
Source: `migrate_damm_v2_initialize_pool.rs` `handle_migrate_damm_v2`,
`leftover_migration_base_amount`, `leftover_migration_quote_amount` -/
theorem openPositions_le {offer taken : Deposit} {positions : List DammPosition}
    (h : c.openPositions damm creator now offer = .ok (taken, positions)) :
    taken.base ≤ offer.base ∧ taken.quote ≤ offer.quote := by
  simp only [PoolConfig.openPositions, bind_eq_ok, exists_unit, orThrow_eq_ok, pure_eq_ok,
    Prod.mk.injEq] at h
  obtain ⟨info, hinfo, _, _, ⟨⟨first, _⟩, second, _⟩, _, _, _, liquidity, _, ⟨opened, pool⟩,
    hopened, _, _, _, ⟨total, rest⟩, hrest, rfl, _⟩ := h
  obtain ⟨hbase, hquote, delta, hdelta, ⟨_, rfl, _⟩ |
    ⟨_, taken, _, _, htaken, _, rfl, _⟩⟩ := openSecondPosition_spec hrest
  · exact ⟨hbase, hquote⟩
  · have hleft := damm.taken_le ⟨offer.base - opened.base, offer.quote - opened.quote⟩ hinfo
      hopened hdelta htaken
    simp only at hbase hquote hleft ⊢
    omega

/-- The second program as a migration of this pool meets it: what it takes of an offer is what the
positions take.
Source: `migrate_damm_v2_initialize_pool.rs` `handle_migrate_damm_v2`, from `create_pool` to
`update_after_create_pool` -/
def amm : Amm where
  take := fun offer => (c.openPositions damm creator now offer).toOption.map Prod.fst
  take_le := by
    intro offer taken h
    obtain ⟨⟨total, positions⟩, hopened, rfl⟩ := Option.map_eq_some_iff.mp h
    rcases hok : c.openPositions damm creator now offer with e | opened
    · rw [hok] at hopened
      cases hopened
    · rw [hok] at hopened
      cases hopened
      exact damm.openPositions_le c creator now hok

/-- The program takes of an offer what opening the positions takes. -/
theorem take_eq_some {offer taken : Deposit} :
    (damm.amm c creator now).take offer = some taken ↔
      ∃ positions, c.openPositions damm creator now offer = .ok (taken, positions) := by
  show (c.openPositions damm creator now offer).toOption.map Prod.fst = some taken ↔ _
  rcases c.openPositions damm creator now offer with e | ⟨total, positions⟩
  · constructor
    · intro h
      cases h
    · rintro ⟨_, h⟩
      cases h
  · constructor
    · intro h
      cases h
      exact ⟨positions, rfl⟩
    · rintro ⟨_, h⟩
      cases h
      rfl

end DammV2

/-! ## A program that rounds up -/

/-- What the liquidity of two amounts costs, rounded up.
Source: `migration_handler/concentrated_liquidity.rs` `calculate_concentrated_initial_liquidity` -/
theorem up_le_of_calculateConcentratedInitialLiquidity {base quote price delta : ℕ}
    (h : calculateConcentratedInitialLiquidity base quote price = .ok delta) :
    baseUp delta price MAX_SQRT_PRICE ≤ base ∧ quoteUp delta MIN_SQRT_PRICE price ≤ quote := by
  simp only [calculateConcentratedInitialLiquidity, getInitialLiquidityFromDeltaBase, bind_eq_ok,
    safeSub_eq_ok, safeMul_eq_ok, safeDiv_eq_ok, getInitialLiquidityFromDeltaQuote_eq_ok] at h
  obtain ⟨_, ⟨_, ⟨_, rfl⟩, _, ⟨_, rfl⟩, _, ⟨_, rfl⟩, hhigh, rfl⟩, _, ⟨hlow, _, _, rfl⟩, h⟩ := h
  have hprice : price < MAX_SQRT_PRICE := Nat.lt_of_sub_ne_zero hhigh
  have hdelta : delta ≤ liquidityFromBase base price ∧ delta ≤ liquidityFromQuote quote price := by
    split_ifs at h with hless
    · rw [pure_eq_ok] at h
      subst h
      exact ⟨le_of_lt hless, le_rfl⟩
    · obtain ⟨_, rfl⟩ := safeCast_eq_ok.mp h
      exact ⟨le_rfl, Nat.le_of_not_lt hless⟩
  constructor
  · have hden : 0 < price * MAX_SQRT_PRICE := Nat.mul_pos (by omega) (by decide)
    rw [baseUp, ceilDiv_le_iff hden]
    exact (le_liquidityFromBase_iff hprice).mp hdelta.1
  · calc quoteUp delta MIN_SQRT_PRICE price
        ≤ quoteUp (liquidityFromQuote quote price) MIN_SQRT_PRICE price :=
          ceilDiv_mono (Nat.mul_le_mul_right _ hdelta.2) _
      _ ≤ quote := quoteUp_liquidityFromQuote_le

/-- A second program whose positions over the whole range take their amounts, rounded up; it opens
no other pool.
Source: the calls of the second program, which is not part of this one -/
def DammV2.roundedUp : (handler : MigrationHandler) → DammV2 handler
  | .compoundingLiquidity _ =>
      { createPool := fun _ _ => none
        createSecondPosition := fun _ _ => none
        acceptsPosition := fun _ => true
        taken_le := fun _ _ h => by cases h }
  | .concentratedLiquidity price =>
      { createPool := fun liquidity sqrtPrice =>
          if sqrtPrice = price then
            let base := baseUp liquidity price MAX_SQRT_PRICE
            let quote := quoteUp liquidity MIN_SQRT_PRICE price
            some (⟨base, quote⟩, ⟨base, quote, liquidity⟩)
          else none
        createSecondPosition := fun _ liquidity =>
          some ⟨baseUp liquidity price MAX_SQRT_PRICE, quoteUp liquidity MIN_SQRT_PRICE price⟩
        acceptsPosition := fun _ => true
        taken_le := by
          intro offer first taken info liquidity delta pool left _ _ hdelta htaken
          cases htaken
          exact up_le_of_calculateConcentratedInitialLiquidity hdelta }

/-! ## What is locked -/

namespace LiquidityVestingInfo

variable {i : LiquidityVestingInfo} {total larger seconds : ℕ}

/-- Nothing locks nothing.
Source: `state/config.rs` `get_damm_v2_vesting_parameters` -/
theorem lockedAfter_zero : i.lockedAfter 0 seconds = 0 := by
  unfold lockedAfter perPeriod
  split_ifs
  · rfl
  · simp

/-- A larger amount leaves more locked.
Source: `state/config.rs` `get_damm_v2_vesting_parameters` -/
theorem lockedAfter_mono (h : total ≤ larger) :
    i.lockedAfter total seconds ≤ i.lockedAfter larger seconds := by
  unfold lockedAfter
  split_ifs
  · exact h
  · apply Nat.mul_le_mul_right
    unfold perPeriod
    apply Nat.div_le_div_right
    apply Nat.div_le_div_right
    exact Nat.mul_le_mul_right _ h

/-- No more is locked than there is.
Source: `state/config.rs` `get_damm_v2_vesting_parameters`, `cliff_unlock_liquidity` -/
theorem lockedAfter_le (hle : i.perPeriod total * i.numberOfPeriods ≤ total) :
    i.lockedAfter total seconds ≤ total := by
  unfold lockedAfter
  split_ifs
  · exact le_rfl
  · exact (Nat.mul_le_mul_left _ periodsLeft_le).trans hle

/-- A vesting promises no more basis points than its percentage has.
Source: `state/config.rs` `get_liquidity_locked_bps_at_n_seconds` -/
theorem promised_le (hle : i.vestingPercentage = 0 ∨
    i.bpsPerPeriod * i.numberOfPeriods ≤ MAX_BASIS_POINT) :
    i.lockedAfter (u128Max * i.vestingPercentage / 100) seconds * MAX_BASIS_POINT / u128Max ≤
      100 * i.vestingPercentage := by
  have hlocked : i.lockedAfter (u128Max * i.vestingPercentage / 100) seconds ≤
      u128Max * i.vestingPercentage / 100 := by
    apply lockedAfter_le
    apply perPeriod_mul_le
    refine hle.imp_left fun hzero => ?_
    rw [hzero, Nat.mul_zero, Nat.zero_div]
  have hpart : u128Max * i.vestingPercentage / 100 * 100 ≤ u128Max * i.vestingPercentage :=
    Nat.div_mul_le_self _ _
  apply Nat.div_le_of_le_mul
  calc i.lockedAfter (u128Max * i.vestingPercentage / 100) seconds * MAX_BASIS_POINT
      ≤ u128Max * i.vestingPercentage / 100 * MAX_BASIS_POINT := Nat.mul_le_mul_right _ hlocked
    _ = u128Max * i.vestingPercentage / 100 * 100 * 100 := by
        rw [Nat.mul_assoc]
        rfl
    _ ≤ u128Max * i.vestingPercentage * 100 := Nat.mul_le_mul_right _ hpart
    _ = u128Max * (100 * i.vestingPercentage) := by
        rw [Nat.mul_assoc, Nat.mul_comm i.vestingPercentage]

end LiquidityVestingInfo

namespace DammPosition

variable {p : DammPosition} {i : LiquidityDistributionItem} {owner : Pubkey}
  {liquidity extra now : ℕ}

/-- What vests of a position.
Source: `utils/damm_v2_utils.rs` `get_vesting_total_lock_amount` -/
def vests (p : DammPosition) : ℕ := p.vesting.elim 0 DammV2VestingParameters.totalLock

/-- What is locked of a position at a time, for good or because its vesting has not unlocked it.
Source: `utils/damm_v2_utils.rs` `get_max_unlocked_liquidity_at_current_point` -/
def lockedAt (p : DammPosition) (currentPoint : ℕ) : Result ℕ :=
  match p.vesting with
  | none => pure p.permanentLock
  | some v => do
      let unlocked ← v.getMaxUnlockedLiquidityAtCurrentPoint currentPoint
      pure (p.permanentLock + (v.totalLock - unlocked))

/-- The position is the one of a share, and of `extra` liquidity besides.
Source: `migrate_damm_v2_initialize_pool.rs` `lock_liquidity_position`,
`set_authority_for_position` -/
structure Holds (p : DammPosition) (i : LiquidityDistributionItem) (owner : Pubkey)
    (extra now : ℕ) : Prop where
  owner : p.owner = owner
  liquidity : p.liquidity = i.unlockedLiquidity + i.permanentLockedLiquidity + i.vestedLiquidity +
    extra
  permanentLock : p.permanentLock = i.permanentLockedLiquidity
  vests : p.vests = i.vestedLiquidity
  lockedAt : ∀ seconds, 0 < seconds → p.lockedAt (now + seconds) =
    .ok (i.permanentLockedLiquidity + i.liquidityVestingInfo.lockedAfter i.vestedLiquidity seconds)

/-- **A share is locked as it says.**
Source: `migrate_damm_v2_initialize_pool.rs` `lock_liquidity_position` -/
theorem holds_of_lockLiquidityPosition
    (h : i.lockLiquidityPosition owner liquidity now = .ok p)
    (hliquidity : liquidity = i.unlockedLiquidity + i.permanentLockedLiquidity +
      i.vestedLiquidity + extra) : p.Holds i owner extra now := by
  simp only [LiquidityDistributionItem.lockLiquidityPosition,
    LiquidityDistributionItem.getTotalLockedLiquidity, bind_eq_ok, safeAdd_eq_ok] at h
  obtain ⟨_, ⟨hfit, rfl⟩, h⟩ := h
  have hzero : i.vestedLiquidity = 0 →
      i.liquidityVestingInfo.lockedAfter i.vestedLiquidity = fun _ => 0 := by
    intro hnone
    funext seconds
    rw [hnone, LiquidityVestingInfo.lockedAfter_zero]
  split_ifs at h with hlocked hvested
  · -- the vesting locks the whole of what vests
    simp only [bind_eq_ok, pure_eq_ok] at h
    obtain ⟨_, ⟨v, hv, rfl⟩, rfl⟩ := h
    obtain ⟨_, hle, rfl⟩ := LiquidityVestingInfo.getDammV2VestingParameters_spec hv
    have htotal : (i.liquidityVestingInfo.vestingParameters i.vestedLiquidity now).totalLock =
        i.vestedLiquidity := LiquidityVestingInfo.totalLock_vestingParameters hle
    refine ⟨rfl, hliquidity, rfl, htotal, ?_⟩
    intro seconds hseconds
    obtain ⟨unlocked, hunlocked, hsum⟩ :=
      LiquidityVestingInfo.lockedAfter_spec now hseconds hle (by omega)
    refine bind_eq_ok.mpr ⟨unlocked, hunlocked, ?_⟩
    rw [htotal, pure_eq_ok]
    show i.permanentLockedLiquidity + (i.vestedLiquidity - unlocked) = _
    omega
  · simp only [bind_eq_ok, pure_eq_ok] at h
    obtain ⟨_, rfl, rfl⟩ := h
    have hnone : i.vestedLiquidity = 0 := by omega
    refine ⟨rfl, hliquidity, rfl, hnone.symm, ?_⟩
    intro seconds _
    rw [hzero hnone]
    rfl
  · rw [pure_eq_ok] at h
    subst h
    have hnone : i.permanentLockedLiquidity = 0 ∧ i.vestedLiquidity = 0 := by omega
    refine ⟨rfl, hliquidity, hnone.1.symm, hnone.2.symm, ?_⟩
    intro seconds _
    rw [hzero hnone.2, hnone.1]
    rfl

end DammPosition

/-! ## A share that is cut anew -/

namespace LiquidityDistributionItem

variable {i r : LiquidityDistributionItem} {total liquidity : ℕ}

/-- How a share is cut anew.
Source: `state/config.rs` `adjust_liquidity` of `LiquidityDistributionItem` -/
theorem adjustLiquidity_spec (htotal : total < 2 ^ 128) (h : i.adjustLiquidity total = .ok r) :
    Recut i r total ∧
      (i.liquidityVestingInfo.vestingPercentage + i.permanentLockedLiquidityPercentage = 0 ∨
        r.unlockedLiquidity = min total i.unlockedLiquidity ∧
          r.vestedLiquidity = (total - r.unlockedLiquidity) *
            i.liquidityVestingInfo.vestingPercentage /
              (i.liquidityVestingInfo.vestingPercentage +
                i.permanentLockedLiquidityPercentage)) := by
  have hparts := h
  simp only [adjustLiquidity, bind_eq_ok, safeAdd_eq_ok] at hparts
  obtain ⟨_, ⟨hpercent, rfl⟩, hparts⟩ := hparts
  obtain ⟨r', hr', hrecut⟩ := i.adjustLiquidity_recut hpercent htotal
  have hsame : r = r' := Except.ok.inj (h.symm.trans hr')
  subst hsame
  refine ⟨hrecut, ?_⟩
  split_ifs at hparts with hzero
  · exact .inl hzero
  · simp only [bind_eq_ok, safeSub_eq_ok, safeMulDivCastU128_down_eq_ok, pure_eq_ok] at hparts
    obtain ⟨_, ⟨_, rfl⟩, _, ⟨_, _, _, rfl⟩, _, ⟨_, rfl⟩, rfl⟩ := hparts
    exact .inr ⟨rfl, rfl⟩

/-- The parts of what is subject to lock, against the liquidity of which it would be the share.
Source: `state/config.rs` `adjust_liquidity` of `LiquidityDistributionItem` -/
theorem recut_parts {subject vesting permanent vested : ℕ} (hpos : 0 < vesting + permanent)
    (hvested : vested = subject * vesting / (vesting + permanent)) :
    100 * subject / (vesting + permanent) * vesting / 100 ≤ vested ∧
      subject * permanent ≤ (subject - vested) * (vesting + permanent) := by
  have hfloor : vested * (vesting + permanent) ≤ subject * vesting := by
    rw [hvested]
    exact Nat.div_mul_le_self _ _
  have hle : vested ≤ subject := by
    refine Nat.le_of_mul_le_mul_right (hfloor.trans ?_) hpos
    exact Nat.mul_le_mul_left _ (Nat.le_add_right _ _)
  constructor
  · rw [hvested, Nat.le_div_iff_mul_le hpos]
    have hscaled : 100 * subject / (vesting + permanent) * (vesting + permanent) ≤ 100 * subject :=
      Nat.div_mul_le_self _ _
    have hpart : 100 * subject / (vesting + permanent) * vesting / 100 * 100 ≤
        100 * subject / (vesting + permanent) * vesting := Nat.div_mul_le_self _ _
    generalize 100 * subject / (vesting + permanent) = real at hscaled hpart ⊢
    generalize real * vesting / 100 = part at hpart ⊢
    have hwhole := Nat.mul_le_mul_right vesting hscaled
    have hshare := Nat.mul_le_mul_right (vesting + permanent) hpart
    nlinarith only [hwhole, hshare]
  · have hrest : subject = vested + (subject - vested) := (Nat.add_sub_cancel' hle).symm
    generalize subject - vested = rest at hrest ⊢
    rw [hrest] at hfloor ⊢
    nlinarith only [hfloor]

/-- What is promised of a liquidity, from what is subject to lock of it.
Source: none: arithmetic -/
theorem promised_le_locked {liquidity whole permanent bps subject real kept vesting missing
    slack : ℕ} (hwhole : 0 < whole) (hhundred : whole ≤ 100)
    (hbps : 100 * permanent + bps ≤ 100 * whole)
    (hsubject : liquidity * whole ≤ 100 * (subject + missing + 2))
    (hreal : 100 * subject ≤ (real + 1) * whole)
    (hkept : subject * permanent ≤ kept * whole)
    (hvesting : real * bps ≤ MAX_BASIS_POINT * (vesting + slack)) :
    liquidity * (100 * permanent + bps) ≤
      MAX_BASIS_POINT * (kept + vesting + missing + (slack + 3)) := by
  refine Nat.le_of_mul_le_mul_right ?_ hwhole
  simp only [MAX_BASIS_POINT] at hvesting ⊢
  have hscaled := Nat.mul_le_mul_right (100 * permanent + bps) hsubject
  have hvested := Nat.mul_le_mul_right bps hreal
  have hpart := Nat.mul_le_mul_right whole hvesting
  have hrest := Nat.mul_le_mul_left (100 * (missing + 2)) hbps
  have hone : whole * bps ≤ whole * 10000 := Nat.mul_le_mul_left _ (by omega)
  nlinarith only [hscaled, hvested, hpart, hrest, hone, hkept]

/-- The parts of a share that are locked are worth their percentages.
Source: `state/config.rs` `get_liquidity_distribution` -/
structure IsShareOf (i : LiquidityDistributionItem) (liquidity : ℕ) : Prop where
  stored : i.liquidityVestingInfo.Stored
  percentages_le : i.liquidityVestingInfo.vestingPercentage +
    i.permanentLockedLiquidityPercentage ≤ 100
  permanent : i.permanentLockedLiquidity = liquidity * i.permanentLockedLiquidityPercentage / 100
  vested : i.vestedLiquidity = liquidity * i.liquidityVestingInfo.vestingPercentage / 100

/-- **A share that is cut anew keeps the basis points that its party promised**, up to a constant
and to what it fell short of.
Source: `state/config.rs` `adjust_liquidity` of `LiquidityDistributionItem`,
`get_liquidity_locked_bps_at_n_seconds` -/
theorem IsShareOf.lockedAfter_recut {bps seconds : ℕ} (hi : i.IsShareOf liquidity)
    (hseconds : 0 < seconds)
    (hbps : i.liquidityVestingInfo.getLiquidityLockedBpsAtNSeconds seconds = .ok bps)
    (htotal : total < 2 ^ 128) (hr : i.adjustLiquidity total = .ok r) :
    liquidity * (100 * i.permanentLockedLiquidityPercentage + bps) ≤ MAX_BASIS_POINT *
      (r.permanentLockedLiquidity + i.liquidityVestingInfo.lockedAfter r.vestedLiquidity seconds +
        (i.unlockedLiquidity + i.permanentLockedLiquidity + i.vestedLiquidity - total) +
          (2 ^ 17 + 3)) := by
  obtain ⟨hmul, hle, hpromised⟩ :=
    LiquidityVestingInfo.getLiquidityLockedBpsAtNSeconds_spec hi.stored hseconds hbps
  have hmost := hpromised.trans (LiquidityVestingInfo.promised_le hle)
  have hpercent := hi.percentages_le
  obtain ⟨hrecut, hparts⟩ := adjustLiquidity_spec htotal hr
  by_cases hzero : i.liquidityVestingInfo.vestingPercentage +
      i.permanentLockedLiquidityPercentage = 0
  · -- nothing is to be locked, and nothing was promised
    have hnothing : 100 * i.permanentLockedLiquidityPercentage + bps = 0 := by omega
    rw [hnothing, Nat.mul_zero]
    exact Nat.zero_le _
  obtain ⟨hunlocked, hvested⟩ := hparts.resolve_left hzero
  have hpos := Nat.pos_of_ne_zero hzero
  obtain ⟨hreal, hkept⟩ := recut_parts hpos hvested
  have hsum := hrecut.sum_eq
  have hperm : total - r.unlockedLiquidity - r.vestedLiquidity = r.permanentLockedLiquidity := by
    omega
  rw [hperm] at hkept
  -- the two locked parts lost less than two to the rounding
  have hpermanent : liquidity * i.permanentLockedLiquidityPercentage <
      100 * (i.permanentLockedLiquidity + 1) := by
    rw [hi.permanent]
    exact Nat.lt_mul_div_succ _ (by decide)
  have hvestedPart : liquidity * i.liquidityVestingInfo.vestingPercentage <
      100 * (i.vestedLiquidity + 1) := by
    rw [hi.vested]
    exact Nat.lt_mul_div_succ _ (by decide)
  have hsubject : liquidity * (i.liquidityVestingInfo.vestingPercentage +
      i.permanentLockedLiquidityPercentage) ≤ 100 * (total - r.unlockedLiquidity +
        (i.unlockedLiquidity + i.permanentLockedLiquidity + i.vestedLiquidity - total) + 2) := by
    rw [Nat.mul_add]
    omega
  generalize hdef : 100 * (total - r.unlockedLiquidity) /
      (i.liquidityVestingInfo.vestingPercentage + i.permanentLockedLiquidityPercentage) = real
        at hreal
  have hcover : 100 * (total - r.unlockedLiquidity) ≤ (real + 1) *
      (i.liquidityVestingInfo.vestingPercentage + i.permanentLockedLiquidityPercentage) := by
    rw [Nat.mul_comm (real + 1), ← hdef]
    exact (Nat.lt_mul_div_succ _ hpos).le
  have hvesting : real * bps ≤ MAX_BASIS_POINT *
      (i.liquidityVestingInfo.lockedAfter r.vestedLiquidity seconds + 2 ^ 17) :=
    calc real * bps ≤ real * _ := Nat.mul_le_mul_left _ hpromised
      _ ≤ _ := LiquidityVestingInfo.lockedAfter_scale (by decide) hi.stored.periods_lt hmul
      _ ≤ _ := Nat.mul_le_mul_left _
          (Nat.add_le_add_right (LiquidityVestingInfo.lockedAfter_mono hreal) _)
  exact promised_le_locked hpos hpercent (by omega) hsubject hcover hkept hvesting

/-- A share that is not cut keeps what its party promised, up to a constant.
Source: `state/config.rs` `get_liquidity_distribution`, `get_liquidity_locked_bps_at_n_seconds` -/
theorem IsShareOf.lockedAfter_ge {bps seconds : ℕ} (hi : i.IsShareOf liquidity)
    (hseconds : 0 < seconds)
    (hbps : i.liquidityVestingInfo.getLiquidityLockedBpsAtNSeconds seconds = .ok bps) :
    liquidity * (100 * i.permanentLockedLiquidityPercentage + bps) ≤ MAX_BASIS_POINT *
      (i.permanentLockedLiquidity + i.liquidityVestingInfo.lockedAfter i.vestedLiquidity seconds +
        (2 ^ 17 + 1)) := by
  obtain ⟨hmul, _, hpromised⟩ :=
    LiquidityVestingInfo.getLiquidityLockedBpsAtNSeconds_spec hi.stored hseconds hbps
  have hpermanent := AcceptedConfig.permanent_ge liquidity i.permanentLockedLiquidityPercentage
  have hvesting : liquidity * bps ≤ MAX_BASIS_POINT *
      (i.liquidityVestingInfo.lockedAfter i.vestedLiquidity seconds + 2 ^ 17) := by
    rw [hi.vested]
    exact (Nat.mul_le_mul_left _ hpromised).trans
      (LiquidityVestingInfo.lockedAfter_scale (by decide) hi.stored.periods_lt hmul)
  rw [← hi.permanent] at hpermanent
  simp only [Nat.mul_add, MAX_BASIS_POINT] at *
  linarith only [hpermanent, hvesting]

end LiquidityDistributionItem

/-! ## The positions that are opened -/

/-- The positions of two shares with their owners: the first one whole, with `dead` liquidity
besides, and the second one cut anew to what is left for it, if anything is.
Source: `migrate_damm_v2_initialize_pool.rs` `handle_migrate_damm_v2`, from
`first_position_liquidity_distribution` to `update_after_create_pool` -/
inductive Opened (first second : LiquidityDistributionItem × Pubkey) (dead now : ℕ) :
    List DammPosition → Prop
  /-- Nothing is left for the second position. -/
  | one {p : DammPosition} (holds : p.Holds first.1 first.2 dead now) :
      Opened first second dead now [p]
  /-- The second position is added. -/
  | two {p q : DammPosition} {r : LiquidityDistributionItem} {total : ℕ}
      (holds : p.Holds first.1 first.2 dead now) (total_lt : total < 2 ^ 128)
      (recut : second.1.adjustLiquidity total = .ok r) (held : q.Holds r second.2 0 now) :
      Opened first second dead now [p, q]

/-- What is locked in positions at a time.
Source: `utils/damm_v2_utils.rs` `get_max_unlocked_liquidity_at_current_point` -/
def lockedIn (positions : List DammPosition) (currentPoint : ℕ) : Result ℕ := do
  let locked ← positions.mapM fun p => p.lockedAt currentPoint
  pure locked.sum

/-- What is locked in one position. -/
theorem lockedIn_one {p : DammPosition} {currentPoint locked : ℕ}
    (h : p.lockedAt currentPoint = .ok locked) : lockedIn [p] currentPoint = .ok locked := by
  simp only [lockedIn, List.mapM_cons, List.mapM_nil, h]
  rfl

/-- What is locked in two positions. -/
theorem lockedIn_two {p q : DammPosition} {currentPoint locked locked' : ℕ}
    (h : p.lockedAt currentPoint = .ok locked) (h' : q.lockedAt currentPoint = .ok locked') :
    lockedIn [p, q] currentPoint = .ok (locked + locked') := by
  simp only [lockedIn, List.mapM_cons, List.mapM_nil, h, h']
  rfl

/-- The liquidity that is computed fits its type.
Source: `migration_handler/mod.rs` `calculate_liquidity_delta` -/
theorem MigrationHandler.calculateLiquidityDelta_lt {h : MigrationHandler}
    {base quote poolBase poolQuote poolLiquidity delta : ℕ}
    (hok : h.calculateLiquidityDelta base quote poolBase poolQuote poolLiquidity = .ok delta) :
    delta < 2 ^ 128 := by
  cases h with
  | compoundingLiquidity price =>
    simp only [calculateLiquidityDelta, bind_eq_ok, safeMulDivCastU128_down_eq_ok,
      pure_eq_ok] at hok
    obtain ⟨fromBase, ⟨_, _, hfit, rfl⟩, fromQuote, _, rfl⟩ := hok
    exact (min_le_left _ _).trans_lt hfit
  | concentratedLiquidity price =>
    simp only [calculateLiquidityDelta, calculateConcentratedInitialLiquidity, bind_eq_ok] at hok
    obtain ⟨fromBase, _, fromQuote, hquote, hok⟩ := hok
    split_ifs at hok
    · rw [pure_eq_ok] at hok
      rw [← hok]
      exact (getInitialLiquidityFromDeltaQuote_eq_ok.mp hquote).2.2.1
    · exact (safeCast_eq_ok.mp hok).2 ▸ (safeCast_eq_ok.mp hok).1

/-- The liquidity of a share is the sum of its parts.
Source: `state/config.rs` `get_total_liquidity` of `LiquidityDistributionItem` -/
theorem LiquidityDistributionItem.getTotalLiquidity_spec {i : LiquidityDistributionItem}
    {total : ℕ} (h : i.getTotalLiquidity = .ok total) :
    total = i.unlockedLiquidity + i.permanentLockedLiquidity + i.vestedLiquidity := by
  simp only [getTotalLiquidity, bind_eq_ok, safeAdd_eq_ok] at h
  obtain ⟨_, ⟨_, rfl⟩, _, rfl⟩ := h
  rfl

/-- **What a migration opens.**
Source: `migrate_damm_v2_initialize_pool.rs` `handle_migrate_damm_v2`, from
`get_initial_pool_information` to `update_after_create_pool` -/
theorem PoolConfig.openPositions_spec {c : PoolConfig} {handler : MigrationHandler}
    {damm : DammV2 handler} {creator : Pubkey} {now : ℕ} {offer taken : Deposit}
    {positions : List DammPosition}
    (h : c.openPositions damm creator now offer = .ok (taken, positions)) :
    ∃ info l first second, handler.getInitialPoolInformation offer.base offer.quote = .ok info ∧
      c.getLiquidityDistribution info.distributableLiquidity = .ok l ∧
      l.inOrder c.feeClaimer creator = .ok (first, second) ∧
      Opened first second info.deadLiquidity now positions := by
  simp only [PoolConfig.openPositions, bind_eq_ok, exists_unit, orThrow_eq_ok, safeAdd_eq_ok,
    pure_eq_ok, Prod.mk.injEq] at h
  obtain ⟨info, hinfo, l, hl, ⟨⟨first, firstOwner⟩, second, secondOwner⟩, horder, firstTotal,
    hfirst, liquidity, ⟨_, rfl⟩, ⟨opened, pool⟩, _, p, hp, _, ⟨total, rest⟩, hrest, _, rfl⟩ := h
  refine ⟨info, l, _, _, hinfo, hl, horder, ?_⟩
  have hholds : p.Holds first firstOwner info.deadLiquidity now := by
    apply DammPosition.holds_of_lockLiquidityPosition hp
    rw [first.getTotalLiquidity_spec hfirst]
  obtain ⟨_, _, delta, hdelta, ⟨_, _, rfl⟩ | ⟨r, _, q, hr, _, hq, _, rfl⟩⟩ :=
    openSecondPosition_spec hrest
  · exact .one hholds
  · have hlt := MigrationHandler.calculateLiquidityDelta_lt hdelta
    refine .two hholds hlt hr ?_
    apply DammPosition.holds_of_lockLiquidityPosition hq
    have hsum := (LiquidityDistributionItem.adjustLiquidity_spec hlt hr).1.sum_eq
    omega

/-- **Two positions keep locked what the two shares promised**, up to a constant and to what was not
made into positions.
Source: `migrate_damm_v2_initialize_pool.rs` `handle_migrate_damm_v2`; `state/config.rs`
`get_total_liquidity_locked_bps_at_n_seconds` -/
theorem Opened.locked_ge {first second : LiquidityDistributionItem × Pubkey} {dead now : ℕ}
    {positions : List DammPosition} {liquidity firstBps secondBps seconds : ℕ}
    (h : Opened first second dead now positions)
    (hfirst : first.1.IsShareOf liquidity) (hsecond : second.1.IsShareOf liquidity)
    (hseconds : 0 < seconds)
    (hfirstBps : first.1.liquidityVestingInfo.getLiquidityLockedBpsAtNSeconds seconds =
      .ok firstBps)
    (hsecondBps : second.1.liquidityVestingInfo.getLiquidityLockedBpsAtNSeconds seconds =
      .ok secondBps)
    (hsum : first.1.unlockedLiquidity + first.1.permanentLockedLiquidity +
      first.1.vestedLiquidity + (second.1.unlockedLiquidity + second.1.permanentLockedLiquidity +
        second.1.vestedLiquidity) = liquidity) :
    ∃ locked, lockedIn positions (now + seconds) = .ok locked ∧
      liquidity * (100 * first.1.permanentLockedLiquidityPercentage + firstBps +
          (100 * second.1.permanentLockedLiquidityPercentage + secondBps)) ≤
        MAX_BASIS_POINT * (locked +
          (liquidity + dead - (positions.map DammPosition.liquidity).sum) + (2 ^ 18 + 4)) := by
  have hwhole := hfirst.lockedAfter_ge hseconds hfirstBps
  rw [Nat.mul_add liquidity]
  cases h with
  | @one p holds =>
    -- without a second position its share is cut anew to nothing
    have hpercent := hsecond.percentages_le
    obtain ⟨r, hr, hrecut⟩ := second.1.adjustLiquidity_recut (by omega) (by decide : 0 < 2 ^ 128)
    have hcut := hsecond.lockedAfter_recut hseconds hsecondBps (by decide) hr
    have hnothing := hrecut.sum_eq
    have hvested : r.vestedLiquidity = 0 := by omega
    have hpermanent : r.permanentLockedLiquidity = 0 := by omega
    rw [hvested, hpermanent, LiquidityVestingInfo.lockedAfter_zero] at hcut
    have hliquidity := holds.liquidity
    refine ⟨_, lockedIn_one (holds.lockedAt seconds hseconds), ?_⟩
    simp only [MAX_BASIS_POINT, List.map_cons, List.map_nil, List.sum_cons, List.sum_nil] at *
    omega
  | @two p q r total holds total_lt recut held =>
    have hcut := hsecond.lockedAfter_recut hseconds hsecondBps total_lt recut
    obtain ⟨hrecut, _⟩ := LiquidityDistributionItem.adjustLiquidity_spec total_lt recut
    have htotal := hrecut.sum_eq
    rw [← hrecut.info_eq] at hcut
    have hliquidity := holds.liquidity
    have hliquidity' := held.liquidity
    refine ⟨_, lockedIn_two (holds.lockedAt seconds hseconds) (held.lockedAt seconds hseconds), ?_⟩
    simp only [MAX_BASIS_POINT, List.map_cons, List.map_nil, List.sum_cons, List.sum_nil] at *
    omega

namespace AcceptedConfig

variable (a : AcceptedConfig)

/-- The shares of an accepted configuration.
Source: `state/config.rs` `get_liquidity_distribution` -/
theorem isShareOf {liquidity : ℕ} {l : LiquidityDistribution}
    (h : a.config.getLiquidityDistribution liquidity = .ok l) :
    l.partner.IsShareOf liquidity ∧ l.creator.IsShareOf liquidity := by
  have hparts := PoolConfig.getLiquidityDistribution_spec h
  obtain ⟨hpartner, hcreator⟩ := PoolConfig.getLiquidityDistribution_percentages h
  have hpercent := a.liquidityPercentages
  constructor
  · refine ⟨?_, ?_, ?_, ?_⟩
    · rw [hparts.partnerInfo]
      exact a.partnerLiquidityVestingInfo_stored
    · rw [hparts.partnerInfo, hpartner]
      omega
    · rw [hpartner, hparts.partnerPermanent]
    · rw [hparts.partnerInfo, hparts.partnerVested]
  · refine ⟨?_, ?_, ?_, ?_⟩
    · rw [hparts.creatorInfo]
      exact a.creatorLiquidityVestingInfo_stored
    · rw [hparts.creatorInfo, hcreator]
      omega
    · rw [hcreator, hparts.creatorPermanent]
    · rw [hparts.creatorInfo, hparts.creatorVested]

/-- What the two parties promise for one day.
Source: `process_create_config.rs` `process_create_config`, the check against
`MIN_LOCKED_LIQUIDITY_BPS`; `state/config.rs` `get_total_liquidity_locked_bps_at_n_seconds` -/
theorem oneDayBps : ∃ partnerBps creatorBps,
    a.config.partnerLiquidityVestingInfo.getLiquidityLockedBpsAtNSeconds SECONDS_PER_DAY =
        .ok partnerBps ∧
      a.config.creatorLiquidityVestingInfo.getLiquidityLockedBpsAtNSeconds SECONDS_PER_DAY =
        .ok creatorBps ∧
      MIN_LOCKED_LIQUIDITY_BPS ≤
        100 * a.config.partnerPermanentLockedLiquidityPercentage + partnerBps +
          (100 * a.config.creatorPermanentLockedLiquidityPercentage + creatorBps) := by
  obtain ⟨bps, hbps, hmin⟩ := a.paramsCreated.lockedBps
  simp only [PoolConfig.getTotalLiquidityLockedBpsAtNSeconds, bind_eq_ok, safeMul_eq_ok,
    safeAdd_eq_ok] at hbps
  obtain ⟨partnerBps, hpartnerBps, creatorBps, hcreatorBps, _, ⟨_, rfl⟩, _, ⟨_, rfl⟩, _,
    ⟨_, rfl⟩, _, ⟨_, rfl⟩, _, rfl⟩ := hbps
  exact ⟨partnerBps, creatorBps, hpartnerBps, hcreatorBps, by omega⟩

/-- **The positions of an accepted configuration keep their promise.**
Source: `migrate_damm_v2_initialize_pool.rs` `handle_migrate_damm_v2`;
`process_create_config.rs` `process_create_config` -/
theorem opened_locked {liquidity dead now : ℕ} {l : LiquidityDistribution} {creator : Pubkey}
    {first second : LiquidityDistributionItem × Pubkey} {positions : List DammPosition}
    (hl : a.config.getLiquidityDistribution liquidity = .ok l)
    (horder : l.inOrder a.config.feeClaimer creator = .ok (first, second))
    (hopened : Opened first second dead now positions) (hliquidity : 2 ^ 64 ≤ liquidity) :
    ∃ locked, lockedIn positions (now + SECONDS_PER_DAY) = .ok locked ∧
      999 * liquidity ≤ 10000 * (locked +
        (liquidity + dead - (positions.map DammPosition.liquidity).sum)) := by
  obtain ⟨partnerBps, creatorBps, hpartnerBps, hcreatorBps, hmin⟩ := a.oneDayBps
  obtain ⟨hpartner, hcreator⟩ := a.isShareOf hl
  have hparts := PoolConfig.getLiquidityDistribution_spec hl
  obtain ⟨hpartnerPercent, hcreatorPercent⟩ := PoolConfig.getLiquidityDistribution_percentages hl
  have hsum := hparts.sum_eq
  rw [← hparts.partnerInfo] at hpartnerBps
  rw [← hparts.creatorInfo] at hcreatorBps
  rw [← hpartnerPercent, ← hcreatorPercent] at hmin
  have hday : 0 < SECONDS_PER_DAY := by decide
  have hpromised := Nat.mul_le_mul_left liquidity hmin
  simp only [LiquidityDistribution.inOrder, bind_eq_ok, pure_eq_ok] at horder
  obtain ⟨_, _, _, _, horder⟩ := horder
  split_ifs at horder
  · obtain ⟨rfl, rfl⟩ := Prod.mk.inj horder
    have hwhole : l.partner.unlockedLiquidity + l.partner.permanentLockedLiquidity +
        l.partner.vestedLiquidity + (l.creator.unlockedLiquidity +
          l.creator.permanentLockedLiquidity + l.creator.vestedLiquidity) = liquidity := by omega
    obtain ⟨locked, hlocked, hge⟩ := hopened.locked_ge hpartner hcreator hday hpartnerBps
      hcreatorBps hwhole
    refine ⟨locked, hlocked, ?_⟩
    simp only [MIN_LOCKED_LIQUIDITY_BPS, MAX_BASIS_POINT] at *
    omega
  · obtain ⟨rfl, rfl⟩ := Prod.mk.inj horder
    have hwhole : l.creator.unlockedLiquidity + l.creator.permanentLockedLiquidity +
        l.creator.vestedLiquidity + (l.partner.unlockedLiquidity +
          l.partner.permanentLockedLiquidity + l.partner.vestedLiquidity) = liquidity := by omega
    obtain ⟨locked, hlocked, hge⟩ := hopened.locked_ge hcreator hpartner hday hcreatorBps
      hpartnerBps hwhole
    refine ⟨locked, hlocked, ?_⟩
    rw [Nat.add_comm (100 * l.creator.permanentLockedLiquidityPercentage + creatorBps)] at hge
    simp only [MIN_LOCKED_LIQUIDITY_BPS, MAX_BASIS_POINT] at *
    omega

end AcceptedConfig

/-! ## Migrations -/

/-- The second program as the migration of a pool meets it.
Source: `migrate_damm_v2_initialize_pool.rs` `handle_migrate_damm_v2`, from `create_pool` to
`update_after_create_pool` -/
def Deployment.dammV2 (d : Deployment) (w : World)
    (damm : (handler : MigrationHandler) → DammV2 handler) : Amm :=
  match d.liquidityHandler w.pool with
  | .ok handler => (damm handler).amm d.config w.pool.creator w.timestamp
  | .error _ => .refuse

/-- What a migration does in the second program: it makes the offer, and the positions are opened
with what they take of it. The vaults pay that, once each and newest first, and the base vault what
is burnt, and nothing else.
Source: `migrate_damm_v2_initialize_pool.rs` `handle_migrate_damm_v2` -/
structure Migrated (d : Deployment) (w w' : World)
    (damm : (handler : MigrationHandler) → DammV2 handler) (handler : MigrationHandler)
    (offer taken : Deposit) (positions : List DammPosition) : Prop where
  handler_eq : d.liquidityHandler w.pool = .ok handler
  offer_eq : d.migrationOffer w.pool = .ok offer
  opened : d.config.openPositions (damm handler) w.pool.creator w.timestamp offer =
    .ok (taken, positions)
  payments : ∃ burnt, w'.baseVault + taken.base + burnt = w.baseVault ∧
    w'.quoteVault + taken.quote = w.quoteVault ∧
    w'.effects = Effect.positive .base .burn burnt ++
      (.poolCreated w'.pool.protocolMigrationBaseFeeAmount
          w'.pool.protocolMigrationQuoteFeeAmount ::
        .paid .quote .migration taken.quote :: .paid .base .migration taken.base ::
          (finishEffects w (d.canMigrateAfterDeadline w) ++ w.effects))

/-- A successful migration opens the positions and pays for them.
Source: `migrate_damm_v2_initialize_pool.rs` `handle_migrate_damm_v2` -/
theorem migrated_of_migrateDammV2 {d : Deployment} {w w' : World}
    {damm : (handler : MigrationHandler) → DammV2 handler}
    (h : d.migrateDammV2 w (d.dammV2 w damm) = .ok w') :
    ∃ handler offer taken positions, Migrated d w w' damm handler offer taken positions := by
  simp only [Deployment.migrateDammV2, bind_eq_ok, exists_unit] at h
  obtain ⟨_, _, _, _, handler, hhandler, ⟨offer, w1⟩, hprepare, _, _, hfinish⟩ := h
  have hoffer := Deployment.migrationOffer_of_prepareMigration hhandler hprepare
  rw [writeFinishCurveTimestamp_eq] at hhandler hoffer hprepare
  have hpool : d.liquidityHandler w.pool = .ok handler := hhandler
  obtain ⟨_, _, _, _, _, _, _, _, _, _, rfl⟩ := prepareMigration_spec hprepare
  simp only [Deployment.finishMigration, bind_eq_ok, pure_eq_ok] at hfinish
  obtain ⟨_, hdeposit, _, hburn, rfl⟩ := hfinish
  obtain ⟨taken, htake, _, _, hbase, hquote, rfl⟩ := depositInto_spec hdeposit
  rw [Deployment.dammV2, hpool] at htake
  obtain ⟨positions, hopened⟩ := ((damm handler).take_eq_some d.config _ _).mp htake
  obtain ⟨maxBurnable, left, _, hleft, rfl⟩ := burnLeftover_spec hburn
  simp only [World.withPool, PoolState.saveProtocolLiquidityMigrationFee] at hbase hquote hleft
  refine ⟨handler, offer, taken, positions, hpool, hoffer, hopened, min maxBurnable left, ?_, ?_,
    rfl⟩
  · simp only [World.withPool]
    omega
  · simp only [World.withPool]
    omega

/-- The position is its owner's, the locks fit it, no more of it is free than its share has, and it
is locked only in the ways its share is. A share without a locked part is free as a whole.
Source: `migrate_damm_v2_initialize_pool.rs` `lock_liquidity_position`; `state/config.rs`
`adjust_liquidity` of `LiquidityDistributionItem` -/
structure DammPosition.WithinShare (p : DammPosition) (i : LiquidityDistributionItem)
    (owner : Pubkey) : Prop where
  owner : p.owner = owner
  locks_le : p.permanentLock + p.vests ≤ p.liquidity
  free_le : p.liquidity - (p.permanentLock + p.vests) ≤ i.unlockedLiquidity ∨
    i.liquidityVestingInfo.vestingPercentage = 0 ∧ i.permanentLockedLiquidityPercentage = 0
  vests : i.liquidityVestingInfo.vestingPercentage = 0 → p.vests = 0
  permanentLock : i.permanentLockedLiquidityPercentage = 0 → p.permanentLock = 0

/-- The second of two positions stays within its share.
Source: `state/config.rs` `adjust_liquidity` of `LiquidityDistributionItem` -/
theorem DammPosition.Holds.withinShare {p : DammPosition} {i r : LiquidityDistributionItem}
    {owner : Pubkey} {now total : ℕ} (h : p.Holds r owner 0 now) (hr : Recut i r total) :
    p.WithinShare i owner := by
  have hliquidity := h.liquidity
  have hpermanent := h.permanentLock
  have hvests := h.vests
  refine ⟨h.owner, by omega, ?_, ?_, ?_⟩
  · refine hr.unlocked_le.imp_left fun hle => ?_
    omega
  · intro hzero
    rw [hvests, hr.vested_eq_zero hzero]
  · intro hzero
    rw [hpermanent, hr.permanent_eq_zero hzero]

/-- The positions of a larger and of a smaller share: the first one holds the larger share and
`dead` liquidity besides, locked as the share says, and the second one, if there is one, stays
within the smaller share.
Source: `migrate_damm_v2_initialize_pool.rs` `handle_migrate_damm_v2`,
`first_position_liquidity_distribution`, `second_position_liquidity_distribution` -/
structure HoldShares (larger smaller : LiquidityDistributionItem) (owner other : Pubkey)
    (dead now : ℕ) (positions : List DammPosition) : Prop where
  le : smaller.unlockedLiquidity + smaller.permanentLockedLiquidity + smaller.vestedLiquidity ≤
    larger.unlockedLiquidity + larger.permanentLockedLiquidity + larger.vestedLiquidity
  positions : ∃ first rest, positions = first :: rest ∧ rest.length ≤ 1 ∧
    first.Holds larger owner dead now ∧ ∀ second ∈ rest, second.WithinShare smaller other

/-- The positions that are opened hold the shares.
Source: `migrate_damm_v2_initialize_pool.rs` `handle_migrate_damm_v2` -/
theorem Opened.holdShares {first second : LiquidityDistributionItem × Pubkey} {dead now : ℕ}
    {positions : List DammPosition} (h : Opened first second dead now positions)
    (hle : second.1.unlockedLiquidity + second.1.permanentLockedLiquidity +
      second.1.vestedLiquidity ≤ first.1.unlockedLiquidity + first.1.permanentLockedLiquidity +
        first.1.vestedLiquidity) :
    HoldShares first.1 second.1 first.2 second.2 dead now positions := by
  refine ⟨hle, ?_⟩
  cases h with
  | @one p holds =>
    exact ⟨p, [], rfl, Nat.zero_le _, holds, fun _ hmem => absurd hmem List.not_mem_nil⟩
  | @two p q r total holds total_lt recut held =>
    refine ⟨p, [q], rfl, le_rfl, holds, ?_⟩
    intro second hmem
    rw [List.mem_singleton.mp hmem]
    exact held.withinShare (LiquidityDistributionItem.adjustLiquidity_spec total_lt recut).1

namespace Launch

variable (l : Launch) (actions : List Action)

/-- **Both parties get their share, and no more of it free than the share has.** Whenever a pool
migrates into the second program, it opens at most two positions with its offer, and what they take
and what is burnt are all that the vaults pay. The first is the party's with the larger share; it
holds that share and the dead liquidity, and is locked as the share says. The second is the other
party's, the locks fit it, and no more of it is free than the share has, unless no part of the share
is to be locked.
Source: `migrate_damm_v2_initialize_pool.rs` `handle_migrate_damm_v2`, `lock_liquidity_position`;
`state/config.rs` `get_liquidity_distribution`, `adjust_liquidity` of `LiquidityDistributionItem` -/
theorem positions_shared {damm : (handler : MigrationHandler) → DammV2 handler} {w' : World}
    (h : l.deployment.step (l.after actions)
      (.migrateDammV2 (l.deployment.dammV2 (l.after actions) damm)) = .ok w') :
    ∃ handler offer taken positions info shares,
      Migrated l.deployment (l.after actions) w' damm handler offer taken positions ∧
      handler.getInitialPoolInformation offer.base offer.quote = .ok info ∧
      l.config.getLiquidityDistribution info.distributableLiquidity = .ok shares ∧
      (HoldShares shares.partner shares.creator l.config.feeClaimer (l.after actions).pool.creator
          info.deadLiquidity (l.after actions).timestamp positions ∨
        HoldShares shares.creator shares.partner (l.after actions).pool.creator l.config.feeClaimer
          info.deadLiquidity (l.after actions).timestamp positions) := by
  obtain ⟨handler, offer, taken, positions, hmigrated⟩ := migrated_of_migrateDammV2 h
  obtain ⟨info, shares, first, second, hinfo, hshares, horder, hopened⟩ :=
    PoolConfig.openPositions_spec hmigrated.opened
  refine ⟨handler, offer, taken, positions, info, shares, hmigrated, hinfo, hshares, ?_⟩
  simp only [LiquidityDistribution.inOrder, bind_eq_ok, pure_eq_ok] at horder
  obtain ⟨partnerTotal, hpartner, creatorTotal, hcreator, horder⟩ := horder
  have hpartnerSum := LiquidityDistributionItem.getTotalLiquidity_spec hpartner
  have hcreatorSum := LiquidityDistributionItem.getTotalLiquidity_spec hcreator
  split_ifs at horder with hlarger
  · obtain ⟨rfl, rfl⟩ := Prod.mk.inj horder
    left
    apply hopened.holdShares
    simp only
    omega
  · obtain ⟨rfl, rfl⟩ := Prod.mk.inj horder
    right
    apply hopened.holdShares
    simp only
    omega

/-- **A tenth of the liquidity of a migrated pool is locked for one day.** Whenever a pool migrates
into the second program with a liquidity of at least 2 ^ 64 to distribute, a day later at least 999
of 10000 parts of it are locked in its positions, but for what was not made into positions.
Source: `migrate_damm_v2_initialize_pool.rs` `handle_migrate_damm_v2`, `lock_liquidity_position`;
`state/config.rs` `adjust_liquidity` of `LiquidityDistributionItem`,
`get_total_liquidity_locked_bps_at_n_seconds`; `constants.rs` `MIN_LOCKED_LIQUIDITY_BPS` -/
theorem positions_locked {damm : (handler : MigrationHandler) → DammV2 handler} {w' : World}
    (h : l.deployment.step (l.after actions)
      (.migrateDammV2 (l.deployment.dammV2 (l.after actions) damm)) = .ok w') :
    ∃ handler offer taken positions info,
      Migrated l.deployment (l.after actions) w' damm handler offer taken positions ∧
      handler.getInitialPoolInformation offer.base offer.quote = .ok info ∧
      (2 ^ 64 ≤ info.distributableLiquidity → ∃ locked,
        lockedIn positions ((l.after actions).timestamp + SECONDS_PER_DAY) = .ok locked ∧
          999 * info.distributableLiquidity ≤ 10000 * (locked + (info.distributableLiquidity +
            info.deadLiquidity - (positions.map DammPosition.liquidity).sum))) := by
  obtain ⟨handler, offer, taken, positions, hmigrated⟩ := migrated_of_migrateDammV2 h
  obtain ⟨info, shares, first, second, hinfo, hshares, horder, hopened⟩ :=
    PoolConfig.openPositions_spec hmigrated.opened
  refine ⟨handler, offer, taken, positions, info, hmigrated, hinfo, ?_⟩
  intro hliquidity
  exact l.accepted.opened_locked hshares horder hopened hliquidity

/-- The launch of a configuration of which a part vests. -/
def monthlyLaunch : Launch :=
  (start AcceptedConfig.monthlyVesting 4 (plainRequest .splToken 100)).get (by decide +kernel)

/-- That launch once its sale is over. -/
def soldOut : List Action := [.swap2 (buyOf 1 1200000 0)]

/-- That launch migrates once its sale is over. -/
theorem soldOut_migrates : ∃ w', monthlyLaunch.deployment.step (monthlyLaunch.after soldOut)
    (.migrateDammV2 (monthlyLaunch.deployment.dammV2 (monthlyLaunch.after soldOut)
      DammV2.roundedUp)) = .ok w' := by
  rcases hok : monthlyLaunch.deployment.step (monthlyLaunch.after soldOut)
    (.migrateDammV2 (monthlyLaunch.deployment.dammV2 (monthlyLaunch.after soldOut)
      DammV2.roundedUp)) with e | w'
  · have hisOk : (monthlyLaunch.deployment.step (monthlyLaunch.after soldOut)
        (.migrateDammV2 (monthlyLaunch.deployment.dammV2 (monthlyLaunch.after soldOut)
          DammV2.roundedUp))).isOk = true := by decide +kernel
    rw [hok] at hisOk
    cases hisOk
  · exact ⟨w', rfl⟩

/-- The half of the creator and the half of the partner of that launch are its two positions. -/
theorem positions_shared_monthlyLaunch : ∃ (positions : List DammPosition) (dead : ℕ)
    (shares : LiquidityDistribution),
    HoldShares shares.partner shares.creator 2 5 dead 1 positions ∨
      HoldShares shares.creator shares.partner 5 2 dead 1 positions := by
  obtain ⟨w', hmigrates⟩ := soldOut_migrates
  obtain ⟨_, _, _, positions, info, shares, _, _, _, hpositions⟩ :=
    monthlyLaunch.positions_shared soldOut hmigrates
  have hfeeClaimer : monthlyLaunch.config.feeClaimer = 2 := by decide +kernel
  have hcreator : (monthlyLaunch.after soldOut).pool.creator = 5 := by decide +kernel
  have htimestamp : (monthlyLaunch.after soldOut).timestamp = 1 := by decide +kernel
  rw [hfeeClaimer, hcreator, htimestamp] at hpositions
  exact ⟨positions, info.deadLiquidity, shares, hpositions⟩

/-- A day into the month of the creator, a tenth is locked. -/
theorem positions_locked_monthlyLaunch : ∃ liquidity dead positions locked, 2 ^ 64 ≤ liquidity ∧
    lockedIn positions (1 + SECONDS_PER_DAY) = .ok locked ∧
      999 * liquidity ≤ 10000 * (locked +
        (liquidity + dead - (positions.map DammPosition.liquidity).sum)) := by
  obtain ⟨w', hmigrates⟩ := soldOut_migrates
  obtain ⟨handler, offer, _, positions, info, hmigrated, hinfo, hlocked⟩ :=
    monthlyLaunch.positions_locked soldOut hmigrates
  have hhandler : monthlyLaunch.deployment.liquidityHandler (monthlyLaunch.after soldOut).pool =
      .ok (.concentratedLiquidity 18721621980653551616) := by decide +kernel
  have hoffer : monthlyLaunch.deployment.migrationOffer (monthlyLaunch.after soldOut).pool =
      .ok ⟨970851, 1000000⟩ := by decide +kernel
  have hlarge : ((MigrationHandler.concentratedLiquidity
      18721621980653551616).getInitialPoolInformation 970851 1000000).toOption.all
        (fun info => decide (2 ^ 64 ≤ info.distributableLiquidity)) = true := by decide +kernel
  cases hmigrated.handler_eq.symm.trans hhandler
  cases hmigrated.offer_eq.symm.trans hoffer
  rw [hinfo] at hlarge
  have hliquidity : 2 ^ 64 ≤ info.distributableLiquidity := of_decide_eq_true hlarge
  obtain ⟨locked, hday, hge⟩ := hlocked hliquidity
  have htimestamp : (monthlyLaunch.after soldOut).timestamp = 1 := by decide +kernel
  rw [htimestamp] at hday
  exact ⟨_, info.deadLiquidity, positions, locked, hliquidity, hday, hge⟩

end Launch

end DynamicBondingCurve
