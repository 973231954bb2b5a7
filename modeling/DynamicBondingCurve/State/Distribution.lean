import DynamicBondingCurve.State.Config

/-!
# How the liquidity of the migrated pool is shared out

* `LiquidityDistribution`: what partner and creator get: a part that is free, a part that is locked
  for good and a part that vests.
* `PoolConfig.getLiquidityDistribution`, `getLiquidityDistribution_spec`: **the parts are the
  percentages rounded down, and the free part of the creator is what they leave.**
* `LiquidityDistribution.toLiquidityDistributionDammV1`: the parts in the first program, in which
  nothing vests.
* `LiquidityDistributionItem.adjustLiquidity`: a share that is cut anew to another total.
* `PoolConfig.liquidity_partition`: **no liquidity is lost or made** in the shares of a
  configuration whose percentages make a hundred, nor when a share is cut anew.
-/

namespace DynamicBondingCurve

open Library

/-- A party's share of the migrated liquidity.
Source: `state/config.rs` `LiquidityDistributionItem` -/
structure LiquidityDistributionItem where
  unlockedLiquidity : ℕ
  permanentLockedLiquidity : ℕ
  vestedLiquidity : ℕ
  permanentLockedLiquidityPercentage : ℕ
  liquidityVestingInfo : LiquidityVestingInfo
  deriving DecidableEq, Repr

/-- The vesting of a share that the second program is sent.
Source: `state/config.rs` `get_damm_v2_vesting_parameters` of `LiquidityDistributionItem` -/
def LiquidityDistributionItem.getDammV2VestingParameters (i : LiquidityDistributionItem)
    (currentTimestamp : ℕ) : Result DammV2VestingParameters :=
  i.liquidityVestingInfo.getDammV2VestingParameters i.vestedLiquidity currentTimestamp

/-- The liquidity of a share.
Source: `state/config.rs` `get_total_liquidity` of `LiquidityDistributionItem` -/
def LiquidityDistributionItem.getTotalLiquidity (i : LiquidityDistributionItem) : Result ℕ := do
  let locked ← safeAdd 128 i.unlockedLiquidity i.permanentLockedLiquidity
  safeAdd 128 locked i.vestedLiquidity

/-- A share is cut anew to another amount of liquidity.
Source: `state/config.rs` `adjust_liquidity` of `LiquidityDistributionItem` -/
def LiquidityDistributionItem.adjustLiquidity (i : LiquidityDistributionItem)
    (adjustedTotalLiquidity : ℕ) : Result LiquidityDistributionItem := do
  let vestingPercentage := i.liquidityVestingInfo.vestingPercentage
  let totalLockedPercentage ← safeAdd 8 vestingPercentage i.permanentLockedLiquidityPercentage
  if totalLockedPercentage = 0 then
    pure
      { i with
        unlockedLiquidity := adjustedTotalLiquidity
        permanentLockedLiquidity := 0
        vestedLiquidity := 0 }
  else do
    let unlockedLiquidity := min adjustedTotalLiquidity i.unlockedLiquidity
    let liquiditySubjectToLock ← safeSub adjustedTotalLiquidity unlockedLiquidity
    let vestedLiquidity ← safeMulDivCastU128 liquiditySubjectToLock vestingPercentage
      totalLockedPercentage .down
    let permanentLockedLiquidity ← safeSub liquiditySubjectToLock vestedLiquidity
    pure
      { i with
        unlockedLiquidity := unlockedLiquidity
        permanentLockedLiquidity := permanentLockedLiquidity
        vestedLiquidity := vestedLiquidity }

/-- The shares of the two parties.
Source: `state/config.rs` `LiquidityDistribution` -/
structure LiquidityDistribution where
  partner : LiquidityDistributionItem
  creator : LiquidityDistributionItem
  deriving DecidableEq, Repr

/-- The four parts of the liquidity tokens of the first program.
Source: `state/config.rs` `LiquidityDistributionDammv1` -/
structure LiquidityDistributionDammV1 where
  partnerLockedLiquidity : ℕ
  partnerLiquidity : ℕ
  creatorLockedLiquidity : ℕ
  creatorLiquidity : ℕ
  deriving DecidableEq, Repr

/-- The shares of an amount of liquidity.
Source: `state/config.rs` `get_liquidity_distribution` -/
def PoolConfig.getLiquidityDistribution (c : PoolConfig) (liquidity : ℕ) :
    Result LiquidityDistribution := do
  let partnerPermanentLockedLiquidity ← safeMulDivCastU128 liquidity
    c.partnerPermanentLockedLiquidityPercentage 100 .down
  let partnerVestedLiquidity ← safeMulDivCastU128 liquidity
    c.partnerLiquidityVestingInfo.vestingPercentage 100 .down
  let partnerLiquidity ← safeMulDivCastU128 liquidity c.partnerLiquidityPercentage 100 .down
  let creatorPermanentLockedLiquidity ← safeMulDivCastU128 liquidity
    c.creatorPermanentLockedLiquidityPercentage 100 .down
  let creatorVestedLiquidity ← safeMulDivCastU128 liquidity
    c.creatorLiquidityVestingInfo.vestingPercentage 100 .down
  let rest ← safeSub liquidity partnerLiquidity
  let rest ← safeSub rest partnerPermanentLockedLiquidity
  let rest ← safeSub rest partnerVestedLiquidity
  let rest ← safeSub rest creatorPermanentLockedLiquidity
  let creatorLiquidity ← safeSub rest creatorVestedLiquidity
  pure
    { partner :=
        { unlockedLiquidity := partnerLiquidity
          permanentLockedLiquidity := partnerPermanentLockedLiquidity
          vestedLiquidity := partnerVestedLiquidity
          permanentLockedLiquidityPercentage := c.partnerPermanentLockedLiquidityPercentage
          liquidityVestingInfo := c.partnerLiquidityVestingInfo }
      creator :=
        { unlockedLiquidity := creatorLiquidity
          permanentLockedLiquidity := creatorPermanentLockedLiquidity
          vestedLiquidity := creatorVestedLiquidity
          permanentLockedLiquidityPercentage := c.creatorPermanentLockedLiquidityPercentage
          liquidityVestingInfo := c.creatorLiquidityVestingInfo } }

/-- The shares as parts for the first program, which knows no vesting.
Source: `state/config.rs` `to_liquidity_distribution_damm_v1` -/
def LiquidityDistribution.toLiquidityDistributionDammV1 (l : LiquidityDistribution) :
    Result LiquidityDistributionDammV1 := do
  let partnerLockedLiquidity ← safeCast 64 l.partner.permanentLockedLiquidity
  let partnerLiquidity ← safeCast 64 l.partner.unlockedLiquidity
  let creatorLockedLiquidity ← safeCast 64 l.creator.permanentLockedLiquidity
  let creatorLiquidity ← safeCast 64 l.creator.unlockedLiquidity
  pure
    { partnerLockedLiquidity := partnerLockedLiquidity
      partnerLiquidity := partnerLiquidity
      creatorLockedLiquidity := creatorLockedLiquidity
      creatorLiquidity := creatorLiquidity }

/-! ## The parts -/

/-- A distribution that follows the percentages of a configuration.
Source: `state/config.rs` `get_liquidity_distribution` -/
structure Distributes (c : PoolConfig) (liquidity : ℕ) (l : LiquidityDistribution) : Prop where
  partnerPermanent : l.partner.permanentLockedLiquidity =
    liquidity * c.partnerPermanentLockedLiquidityPercentage / 100
  partnerVested : l.partner.vestedLiquidity =
    liquidity * c.partnerLiquidityVestingInfo.vestingPercentage / 100
  creatorPermanent : l.creator.permanentLockedLiquidity =
    liquidity * c.creatorPermanentLockedLiquidityPercentage / 100
  creatorVested : l.creator.vestedLiquidity =
    liquidity * c.creatorLiquidityVestingInfo.vestingPercentage / 100
  partnerInfo : l.partner.liquidityVestingInfo = c.partnerLiquidityVestingInfo
  creatorInfo : l.creator.liquidityVestingInfo = c.creatorLiquidityVestingInfo
  sum_eq : l.partner.permanentLockedLiquidity + l.partner.vestedLiquidity +
    l.partner.unlockedLiquidity + l.creator.permanentLockedLiquidity +
      l.creator.vestedLiquidity + l.creator.unlockedLiquidity = liquidity

/-- **The parts are the percentages rounded down, and add up to the whole.**
Source: `state/config.rs` `get_liquidity_distribution` -/
theorem PoolConfig.getLiquidityDistribution_spec {c : PoolConfig} {liquidity : ℕ}
    {l : LiquidityDistribution} (h : c.getLiquidityDistribution liquidity = .ok l) :
    Distributes c liquidity l := by
  simp only [getLiquidityDistribution, bind_eq_ok, safeMulDivCastU128_down_eq_ok, safeSub_eq_ok,
    pure_eq_ok] at h
  obtain ⟨pp, ⟨_, _, _, hpp⟩, pv, ⟨_, _, _, hpv⟩, pf, _, cp, ⟨_, _, _, hcp⟩, cv, ⟨_, _, _, hcv⟩,
    r1, ⟨hr1, rfl⟩, r2, ⟨hr2, rfl⟩, r3, ⟨hr3, rfl⟩, r4, ⟨hr4, rfl⟩, r5, ⟨hr5, rfl⟩, rfl⟩ := h
  refine ⟨hpp, hpv, hcp, hcv, rfl, rfl, ?_⟩
  show pp + pv + pf + cp + cv + (liquidity - pf - pp - pv - cp - cv) = liquidity
  omega

/-- The shares keep the percentages of the configuration.
Source: `state/config.rs` `get_liquidity_distribution` -/
theorem PoolConfig.getLiquidityDistribution_percentages {c : PoolConfig} {liquidity : ℕ}
    {l : LiquidityDistribution} (h : c.getLiquidityDistribution liquidity = .ok l) :
    l.partner.permanentLockedLiquidityPercentage = c.partnerPermanentLockedLiquidityPercentage ∧
      l.creator.permanentLockedLiquidityPercentage =
        c.creatorPermanentLockedLiquidityPercentage := by
  simp only [getLiquidityDistribution, bind_eq_ok, pure_eq_ok] at h
  obtain ⟨_, _, _, _, _, _, _, _, _, _, _, _, _, _, _, _, _, _, _, _, rfl⟩ := h
  exact ⟨rfl, rfl⟩

/-- The parts in the first program fit the liquidity.
Source: `state/config.rs` `to_liquidity_distribution_damm_v1` -/
theorem toLiquidityDistributionDammV1_sum_le {c : PoolConfig} {liquidity : ℕ}
    {l : LiquidityDistribution} {v1 : LiquidityDistributionDammV1}
    (hl : Distributes c liquidity l) (h : l.toLiquidityDistributionDammV1 = .ok v1) :
    v1.partnerLockedLiquidity + v1.partnerLiquidity + v1.creatorLockedLiquidity +
      v1.creatorLiquidity ≤ liquidity := by
  simp only [LiquidityDistribution.toLiquidityDistributionDammV1, bind_eq_ok, safeCast_eq_ok,
    pure_eq_ok] at h
  obtain ⟨_, ⟨_, rfl⟩, _, ⟨_, rfl⟩, _, ⟨_, rfl⟩, _, ⟨_, rfl⟩, rfl⟩ := h
  have hsum := hl.sum_eq
  show l.partner.permanentLockedLiquidity + l.partner.unlockedLiquidity +
    l.creator.permanentLockedLiquidity + l.creator.unlockedLiquidity ≤ liquidity
  omega

/-! ## Nothing is lost -/

/-- A part of an amount, in some of as many points, is computed and is at most the amount.
Source: `math/utils_math.rs` `safe_mul_div_cast_u128` -/
theorem safeMulDivCastU128_part {amount part whole : ℕ} (hamount : amount < 2 ^ 128)
    (hpart : part ≤ whole) (hwhole : 0 < whole) (hfit : whole < 2 ^ 128) :
    safeMulDivCastU128 amount part whole .down = .ok (amount * part / whole) ∧
      amount * part / whole ≤ amount := by
  have hle : amount * part / whole ≤ amount := by
    apply Nat.div_le_of_le_mul
    rw [Nat.mul_comm whole]
    exact Nat.mul_le_mul_left amount hpart
  have hmul : amount * part < 2 ^ 256 := by
    calc amount * part < 2 ^ 128 * 2 ^ 128 := Nat.mul_lt_mul'' hamount (hpart.trans_lt hfit)
      _ = 2 ^ 256 := by norm_num
  exact ⟨safeMulDivCastU128_down_eq_ok.mpr ⟨hmul, hwhole.ne', hle.trans_lt hamount, rfl⟩, hle⟩

namespace PoolConfig

variable {c : PoolConfig} {liquidity : ℕ}

/-- The six percentages of the liquidity make a hundred.
Source: `instructions/partner/create_config/process_create_config.rs` `validate`, the sum of the
percentages -/
def PercentagesSumToHundred (c : PoolConfig) : Prop :=
  c.partnerLiquidityPercentage + c.partnerPermanentLockedLiquidityPercentage +
    c.partnerLiquidityVestingInfo.vestingPercentage + c.creatorLiquidityPercentage +
    c.creatorPermanentLockedLiquidityPercentage + c.creatorLiquidityVestingInfo.vestingPercentage =
      100

/-- Whether the percentages sum to a hundred is decided by adding them. -/
instance : Decidable c.PercentagesSumToHundred := inferInstanceAs (Decidable (_ = 100))

/-- Percentages that sum to a hundred do not exceed it. -/
theorem PercentagesSumToHundred.le_hundred (h : c.PercentagesSumToHundred) :
    c.partnerLiquidityPercentage + c.partnerPermanentLockedLiquidityPercentage +
      c.creatorPermanentLockedLiquidityPercentage +
        c.partnerLiquidityVestingInfo.vestingPercentage +
          c.creatorLiquidityVestingInfo.vestingPercentage ≤ 100 := by
  unfold PercentagesSumToHundred at h
  omega

/-- The distribution succeeds when what it does not leave to the creator makes at most a hundred.
Source: `state/config.rs` `get_liquidity_distribution` -/
theorem getLiquidityDistribution_isOk
    (hsum : c.partnerLiquidityPercentage + c.partnerPermanentLockedLiquidityPercentage +
      c.creatorPermanentLockedLiquidityPercentage +
        c.partnerLiquidityVestingInfo.vestingPercentage +
          c.creatorLiquidityVestingInfo.vestingPercentage ≤ 100)
    (hliquidity : liquidity < 2 ^ 128) : ∃ l, c.getLiquidityDistribution liquidity = .ok l := by
  have hpart : ∀ {percentage}, percentage ≤ 100 →
      safeMulDivCastU128 liquidity percentage 100 .down = .ok (liquidity * percentage / 100) :=
    fun hle => (safeMulDivCastU128_part hliquidity hle (by decide) (by decide)).1
  -- the percentages of the liquidity, added up
  have hwhole := Nat.mul_le_mul_left liquidity hsum
  simp only [Nat.mul_add] at hwhole
  unfold getLiquidityDistribution
  refine ⟨_, bind_eq_ok.mpr ⟨_, hpart (by omega), bind_eq_ok.mpr ⟨_, hpart (by omega),
    bind_eq_ok.mpr ⟨_, hpart (by omega), bind_eq_ok.mpr ⟨_, hpart (by omega),
    bind_eq_ok.mpr ⟨_, hpart (by omega), bind_eq_ok.mpr ⟨_, safeSub_eq_ok.mpr ⟨?_, rfl⟩,
    bind_eq_ok.mpr ⟨_, safeSub_eq_ok.mpr ⟨?_, rfl⟩, bind_eq_ok.mpr ⟨_, safeSub_eq_ok.mpr ⟨?_, rfl⟩,
    bind_eq_ok.mpr ⟨_, safeSub_eq_ok.mpr ⟨?_, rfl⟩, bind_eq_ok.mpr ⟨_, safeSub_eq_ok.mpr ⟨?_, rfl⟩,
    rfl⟩⟩⟩⟩⟩⟩⟩⟩⟩⟩⟩
  all_goals omega

end PoolConfig

/-- The conversion to the first program keeps all of a liquidity of which nothing vests.
Source: `state/config.rs` `to_liquidity_distribution_damm_v1` -/
theorem toLiquidityDistributionDammV1_isOk {c : PoolConfig} {liquidity : ℕ}
    {l : LiquidityDistribution} (hl : Distributes c liquidity l) (hliquidity : liquidity < 2 ^ 64)
    (hpartner : c.partnerLiquidityVestingInfo.vestingPercentage = 0)
    (hcreator : c.creatorLiquidityVestingInfo.vestingPercentage = 0) :
    ∃ v1, l.toLiquidityDistributionDammV1 = .ok v1 ∧
      v1.partnerLockedLiquidity + v1.partnerLiquidity + v1.creatorLockedLiquidity +
        v1.creatorLiquidity = liquidity := by
  have hsum := hl.sum_eq
  have hpartnerVested : l.partner.vestedLiquidity = 0 := by
    rw [hl.partnerVested, hpartner, Nat.mul_zero, Nat.zero_div]
  have hcreatorVested : l.creator.vestedLiquidity = 0 := by
    rw [hl.creatorVested, hcreator, Nat.mul_zero, Nat.zero_div]
  refine ⟨⟨l.partner.permanentLockedLiquidity, l.partner.unlockedLiquidity,
    l.creator.permanentLockedLiquidity, l.creator.unlockedLiquidity⟩, ?_, ?_⟩
  · simp only [LiquidityDistribution.toLiquidityDistributionDammV1, bind_eq_ok, safeCast_eq_ok,
      pure_eq_ok]
    refine ⟨_, ⟨?_, rfl⟩, _, ⟨?_, rfl⟩, _, ⟨?_, rfl⟩, _, ⟨?_, rfl⟩, rfl⟩
    all_goals omega
  · show l.partner.permanentLockedLiquidity + l.partner.unlockedLiquidity +
      l.creator.permanentLockedLiquidity + l.creator.unlockedLiquidity = liquidity
    omega

/-! ## A share cut anew -/

/-- A share `r` that cuts the share `i` anew to a total: the parts make the total, the free part
only grows when nothing is to be locked, and a part without a percentage is empty.
Source: `state/config.rs` `adjust_liquidity` of `LiquidityDistributionItem` -/
structure Recut (i r : LiquidityDistributionItem) (total : ℕ) : Prop where
  sum_eq : r.unlockedLiquidity + r.permanentLockedLiquidity + r.vestedLiquidity = total
  unlocked_le : r.unlockedLiquidity ≤ i.unlockedLiquidity ∨
    i.liquidityVestingInfo.vestingPercentage = 0 ∧ i.permanentLockedLiquidityPercentage = 0
  vested_eq_zero : i.liquidityVestingInfo.vestingPercentage = 0 → r.vestedLiquidity = 0
  permanent_eq_zero : i.permanentLockedLiquidityPercentage = 0 → r.permanentLockedLiquidity = 0
  info_eq : r.liquidityVestingInfo = i.liquidityVestingInfo
  percentage_eq : r.permanentLockedLiquidityPercentage = i.permanentLockedLiquidityPercentage

/-- The total of a share that was cut anew.
Source: `state/config.rs` `get_total_liquidity` of `LiquidityDistributionItem` -/
theorem Recut.getTotalLiquidity {i r : LiquidityDistributionItem} {total : ℕ} (h : Recut i r total)
    (htotal : total < 2 ^ 128) : r.getTotalLiquidity = .ok total := by
  have hsum := h.sum_eq
  refine bind_eq_ok.mpr ⟨_, safeAdd_eq_ok.mpr ⟨?_, rfl⟩, safeAdd_eq_ok.mpr ⟨?_, hsum.symm⟩⟩
  all_goals omega

/-- **A share whose percentages fit their type is cut anew to every total.**
Source: `state/config.rs` `adjust_liquidity` of `LiquidityDistributionItem` -/
theorem LiquidityDistributionItem.adjustLiquidity_recut (i : LiquidityDistributionItem) {total : ℕ}
    (hpercent : i.liquidityVestingInfo.vestingPercentage + i.permanentLockedLiquidityPercentage <
      2 ^ 8) (htotal : total < 2 ^ 128) :
    ∃ r, i.adjustLiquidity total = .ok r ∧ Recut i r total := by
  unfold adjustLiquidity
  by_cases hzero :
      i.liquidityVestingInfo.vestingPercentage + i.permanentLockedLiquidityPercentage = 0
  · obtain ⟨hvesting, hpermanent⟩ := Nat.add_eq_zero_iff.mp hzero
    refine ⟨_, bind_eq_ok.mpr ⟨_, safeAdd_eq_ok.mpr ⟨hpercent, rfl⟩, if_pos hzero⟩, ?_⟩
    exact ⟨rfl, .inr ⟨hvesting, hpermanent⟩, fun _ => rfl, fun _ => rfl, rfl, rfl⟩
  · generalize hunlocked : min total i.unlockedLiquidity = unlocked
    have hle : unlocked ≤ total := hunlocked ▸ min_le_left _ _
    have hold : unlocked ≤ i.unlockedLiquidity := hunlocked ▸ min_le_right _ _
    obtain ⟨hvested, hvestedle⟩ := safeMulDivCastU128_part
      ((Nat.sub_le total unlocked).trans_lt htotal)
      (Nat.le_add_right i.liquidityVestingInfo.vestingPercentage
        i.permanentLockedLiquidityPercentage) (Nat.pos_of_ne_zero hzero)
      (hpercent.trans (by norm_num))
    generalize hvestedeq : (total - unlocked) * i.liquidityVestingInfo.vestingPercentage /
      (i.liquidityVestingInfo.vestingPercentage + i.permanentLockedLiquidityPercentage) = vested
      at hvested hvestedle
    refine ⟨_, bind_eq_ok.mpr ⟨_, safeAdd_eq_ok.mpr ⟨hpercent, rfl⟩, (if_neg hzero).trans
      (bind_eq_ok.mpr ⟨_, safeSub_eq_ok.mpr ⟨hle, rfl⟩, bind_eq_ok.mpr ⟨_, hvested,
        bind_eq_ok.mpr ⟨_, safeSub_eq_ok.mpr ⟨hvestedle, rfl⟩, rfl⟩⟩⟩)⟩, ?_⟩
    constructor
    · show unlocked + (total - unlocked - vested) + vested = total
      omega
    · exact .inl hold
    · intro hvesting
      show vested = 0
      rw [← hvestedeq, hvesting, Nat.mul_zero, Nat.zero_div]
    · intro hpermanent
      -- all that is locked vests
      show total - unlocked - vested = 0
      rw [hpermanent, Nat.add_zero] at hzero hvestedeq
      rw [← hvestedeq, Nat.mul_div_cancel _ (Nat.pos_of_ne_zero hzero), Nat.sub_self]
    · rfl
    · rfl

/-! ## The partition -/

/-- **No liquidity is lost or made.** When the six percentages make a hundred, every liquidity is
distributed, into parts that make it up; in the first program, in which nothing vests, the four
parts make up what was minted; and every share, among them the two of the distribution, is cut anew
to every total, into parts that make it up.
Source: `state/config.rs` `get_liquidity_distribution`, `to_liquidity_distribution_damm_v1`,
`adjust_liquidity` -/
theorem PoolConfig.liquidity_partition (c : PoolConfig) (hsum : c.PercentagesSumToHundred)
    (liquidity : ℕ) (hliquidity : liquidity < 2 ^ 128) :
    ∃ l, c.getLiquidityDistribution liquidity = .ok l ∧
      l.partner.unlockedLiquidity + l.partner.permanentLockedLiquidity +
          l.partner.vestedLiquidity + l.creator.unlockedLiquidity +
          l.creator.permanentLockedLiquidity + l.creator.vestedLiquidity = liquidity ∧
      (c.partnerLiquidityVestingInfo.vestingPercentage = 0 →
        c.creatorLiquidityVestingInfo.vestingPercentage = 0 → liquidity < 2 ^ 64 →
          ∃ v1, l.toLiquidityDistributionDammV1 = .ok v1 ∧
            v1.partnerLockedLiquidity + v1.partnerLiquidity + v1.creatorLockedLiquidity +
              v1.creatorLiquidity = liquidity) ∧
      l.partner.liquidityVestingInfo.vestingPercentage +
        l.partner.permanentLockedLiquidityPercentage < 2 ^ 8 ∧
      l.creator.liquidityVestingInfo.vestingPercentage +
        l.creator.permanentLockedLiquidityPercentage < 2 ^ 8 ∧
      ∀ (i : LiquidityDistributionItem) (total : ℕ),
        i.liquidityVestingInfo.vestingPercentage + i.permanentLockedLiquidityPercentage < 2 ^ 8 →
          total < 2 ^ 128 →
            ∃ r, i.adjustLiquidity total = .ok r ∧ r.getTotalLiquidity = .ok total ∧
              Recut i r total := by
  obtain ⟨l, hl⟩ := c.getLiquidityDistribution_isOk hsum.le_hundred hliquidity
  have hparts := getLiquidityDistribution_spec hl
  obtain ⟨hpartner, hcreator⟩ := getLiquidityDistribution_percentages hl
  refine ⟨l, hl, ?_, ?_, ?_, ?_, ?_⟩
  · have := hparts.sum_eq
    omega
  · intro hpartnerNone hcreatorNone hfit
    exact toLiquidityDistributionDammV1_isOk hparts hfit hpartnerNone hcreatorNone
  · rw [hparts.partnerInfo, hpartner]
    unfold PercentagesSumToHundred at hsum
    omega
  · rw [hparts.creatorInfo, hcreator]
    unfold PercentagesSumToHundred at hsum
    omega
  · intro i total hpercent htotal
    obtain ⟨r, hr, hrecut⟩ := i.adjustLiquidity_recut hpercent htotal
    exact ⟨r, hr, hrecut.getTotalLiquidity htotal, hrecut⟩

/-- A configuration whose percentages are six different ones. -/
def PoolConfig.unevenShares : PoolConfig :=
  { (default : PoolConfig) with
    partnerLiquidityPercentage := 33
    partnerPermanentLockedLiquidityPercentage := 17
    partnerLiquidityVestingInfo := { (default : LiquidityVestingInfo) with vestingPercentage := 11 }
    creatorLiquidityPercentage := 29
    creatorPermanentLockedLiquidityPercentage := 7
    creatorLiquidityVestingInfo :=
      { (default : LiquidityVestingInfo) with vestingPercentage := 3 } }

/-- A liquidity that none of the six percentages divides. -/
theorem PoolConfig.liquidity_partition_unevenShares :
    ∃ l, unevenShares.getLiquidityDistribution 1000003 = .ok l ∧
      l.partner.unlockedLiquidity + l.partner.permanentLockedLiquidity +
          l.partner.vestedLiquidity + l.creator.unlockedLiquidity +
          l.creator.permanentLockedLiquidity + l.creator.vestedLiquidity = 1000003 := by
  obtain ⟨l, hl, hsum, -⟩ := unevenShares.liquidity_partition (by decide) 1000003 (by decide)
  exact ⟨l, hl, hsum⟩

end DynamicBondingCurve
