import DynamicBondingCurve.Program
import DynamicBondingCurve.State.Distribution

/-!
# The lock of one day

A configuration is accepted when a tenth of the liquidity is still locked one day after the
migration, as computed on the largest liquidity there is. The migration computes the parts anew
on the liquidity that it got, and rounds at four places.

* `LiquidityVestingInfo.lockedAfter`: what is still locked of a vested amount;
  `lockedAfter_spec`: the vesting that is handed to the other program leaves that much.
* `perPeriod_bounds`: the two roundings of a period.
* `vested_locked_ge`: a party's vesting keeps its basis points, up to a constant.
* `AcceptedConfig.oneDayLock`: **a tenth of the real liquidity is locked for one day**, up to a
  thousandth of that tenth.
-/

namespace DynamicBondingCurve

open Library

/-! ## The vesting of the other program -/

namespace DammV2VestingParameters

variable {v : DammV2VestingParameters} {cliff now : ℕ}

/-- Nothing is unlocked before the cliff.
Source: `utils/damm_v2_utils.rs` `get_max_unlocked_liquidity_at_current_point` -/
theorem getMaxUnlocked_before (hcliff : v.cliffPoint = some cliff) (hnow : now < cliff) :
    v.getMaxUnlockedLiquidityAtCurrentPoint now = .ok 0 := by
  unfold getMaxUnlockedLiquidityAtCurrentPoint getVestingCliffPoint
  rw [hcliff]
  exact if_pos hnow

/-- A vesting without periods unlocks its cliff.
Source: `utils/damm_v2_utils.rs` `get_max_unlocked_liquidity_at_current_point` -/
theorem getMaxUnlocked_cliff (hcliff : v.cliffPoint = some cliff) (hnow : cliff ≤ now)
    (hfrequency : v.periodFrequency = 0) :
    v.getMaxUnlockedLiquidityAtCurrentPoint now = .ok v.cliffUnlockLiquidity := by
  unfold getMaxUnlockedLiquidityAtCurrentPoint getVestingCliffPoint
  rw [hcliff]
  exact (if_neg (not_lt.mpr hnow)).trans (if_pos hfrequency)

/-- After the cliff every period unlocks its part.
Source: `utils/damm_v2_utils.rs` `get_max_unlocked_liquidity_at_current_point` -/
theorem getMaxUnlocked_after (hcliff : v.cliffPoint = some cliff) (hnow : cliff ≤ now)
    (hfrequency : v.periodFrequency ≠ 0)
    (hfit : v.cliffUnlockLiquidity +
      min ((now - cliff) / v.periodFrequency) v.numberOfPeriod * v.liquidityPerPeriod < 2 ^ 128) :
    v.getMaxUnlockedLiquidityAtCurrentPoint now = .ok (v.cliffUnlockLiquidity +
      min ((now - cliff) / v.periodFrequency) v.numberOfPeriod * v.liquidityPerPeriod) := by
  have hproduct : min ((now - cliff) / v.periodFrequency) v.numberOfPeriod *
      v.liquidityPerPeriod < 2 ^ 128 := (Nat.le_add_left _ _).trans_lt hfit
  unfold getMaxUnlockedLiquidityAtCurrentPoint getVestingCliffPoint
  rw [hcliff]
  refine (if_neg (not_lt.mpr hnow)).trans ((if_neg hfrequency).trans ?_)
  exact bind_eq_ok.mpr ⟨_, safeSub_eq_ok.mpr ⟨hnow, rfl⟩, bind_eq_ok.mpr ⟨_,
    safeDiv_eq_ok.mpr ⟨hfrequency, rfl⟩, bind_eq_ok.mpr ⟨_, safeMul_eq_ok.mpr ⟨hproduct, rfl⟩,
      safeAdd_eq_ok.mpr ⟨hfit, rfl⟩⟩⟩⟩

end DammV2VestingParameters

/-! ## A vested amount -/

namespace LiquidityVestingInfo

variable (i : LiquidityVestingInfo) (total : ℕ)

/-- What each period after the cliff unlocks.
Source: `state/config.rs` `get_damm_v2_vesting_parameters`, `liquidity_per_period` -/
def perPeriod : ℕ :=
  total * (i.bpsPerPeriod * i.numberOfPeriods) / MAX_BASIS_POINT / i.numberOfPeriods

/-- The periods that are still to come.
Source: `utils/damm_v2_utils.rs` `get_max_unlocked_liquidity_at_current_point`, `period` -/
def periodsLeft (seconds : ℕ) : ℕ :=
  i.numberOfPeriods - if i.frequency = 0 then 0 else
    min ((seconds - i.cliffDurationFromMigrationTime) / i.frequency) i.numberOfPeriods

/-- What is still locked some seconds after the migration.
Source: `state/config.rs` `get_liquidity_locked_bps_at_n_seconds`, `locked_liquidity` -/
def lockedAfter (seconds : ℕ) : ℕ :=
  if seconds < i.cliffDurationFromMigrationTime then total
  else i.perPeriod total * i.periodsLeft seconds

variable {i total}

/-- **The roundings of a period.** A period is worth its basis points, less one at most.
Source: `state/config.rs` `get_damm_v2_vesting_parameters`, `liquidity_per_period` -/
theorem perPeriod_bounds (total : ℕ) (hn : 0 < i.numberOfPeriods) :
    i.perPeriod total * MAX_BASIS_POINT ≤ total * i.bpsPerPeriod ∧
      total * i.bpsPerPeriod < (i.perPeriod total + 1) * MAX_BASIS_POINT := by
  have hpos : 0 < MAX_BASIS_POINT := by decide
  have hassoc : total * (i.bpsPerPeriod * i.numberOfPeriods) =
      total * i.bpsPerPeriod * i.numberOfPeriods := (Nat.mul_assoc ..).symm
  have hrounded : i.perPeriod total = total * i.bpsPerPeriod / MAX_BASIS_POINT := by
    rw [perPeriod, hassoc, Nat.div_div_eq_div_mul]
    exact Nat.mul_div_mul_right _ _ hn
  rw [hrounded]
  refine ⟨Nat.div_mul_le_self _ _, ?_⟩
  rw [Nat.mul_comm _ MAX_BASIS_POINT]
  exact Nat.lt_mul_div_succ _ hpos

/-- The periods together are worth no more than the amount.
Source: `state/config.rs` `get_damm_v2_vesting_parameters`, `cliff_unlock_liquidity` -/
theorem perPeriod_mul_le (hbps : total = 0 ∨ i.bpsPerPeriod * i.numberOfPeriods ≤ MAX_BASIS_POINT) :
    i.perPeriod total * i.numberOfPeriods ≤ total := by
  have hsum : total * (i.bpsPerPeriod * i.numberOfPeriods) / MAX_BASIS_POINT ≤ total := by
    rcases hbps with rfl | hle
    · simp
    · exact Nat.div_le_of_le_mul (by rw [Nat.mul_comm]; exact Nat.mul_le_mul_right _ hle)
  exact (Nat.div_mul_le_self _ _).trans hsum

/-- The vesting that is handed to the other program.
Source: `state/config.rs` `get_damm_v2_vesting_parameters` -/
def vestingParameters (i : LiquidityVestingInfo) (total timestamp : ℕ) :
    DammV2VestingParameters :=
  { cliffPoint := some (timestamp + if i.perPeriod total = 0 then
        max i.cliffDurationFromMigrationTime 1 else i.cliffDurationFromMigrationTime)
    liquidityPerPeriod := i.perPeriod total
    cliffUnlockLiquidity := total - i.perPeriod total * i.numberOfPeriods
    periodFrequency := if i.perPeriod total = 0 then 0 else i.frequency
    numberOfPeriod := if i.perPeriod total = 0 then 0 else i.numberOfPeriods }

/-- The liquidity of a period is computed. -/
theorem perPeriod_eq : (if i.numberOfPeriods > 0 then
      safeDiv (total * (i.bpsPerPeriod * i.numberOfPeriods) / MAX_BASIS_POINT) i.numberOfPeriods
    else pure 0) = .ok (i.perPeriod total) := by
  unfold perPeriod
  split_ifs with hn
  · exact safeDiv_eq_ok.mpr ⟨hn.ne', rfl⟩
  · rw [Nat.eq_zero_of_not_pos hn, Nat.div_zero]
    rfl

/-- Without liquidity in a period the number of periods does not matter. -/
theorem perPeriod_mul_eq : i.perPeriod total *
    (if i.perPeriod total = 0 then 0 else i.numberOfPeriods) =
      i.perPeriod total * i.numberOfPeriods := by
  split_ifs with hzero
  · rw [hzero, Nat.zero_mul, Nat.zero_mul]
  · rfl

/-- The vesting parameters, when their computation succeeds.
Source: `state/config.rs` `get_damm_v2_vesting_parameters` -/
theorem getDammV2VestingParameters_spec {timestamp : ℕ} {v : DammV2VestingParameters}
    (h : i.getDammV2VestingParameters total timestamp = .ok v) :
    i.bpsPerPeriod * i.numberOfPeriods < 2 ^ 16 ∧
      i.perPeriod total * i.numberOfPeriods ≤ total ∧ v = i.vestingParameters total timestamp := by
  simp only [getDammV2VestingParameters, bind_eq_ok, safeMul_eq_ok,
    safeMulDivCastU128_down_eq_ok] at h
  obtain ⟨_, ⟨hmul, rfl⟩, _, ⟨_, _, _, rfl⟩, p, hp, h⟩ := h
  rw [perPeriod_eq, Except.ok.injEq] at hp
  subst hp
  simp only [safeSub_eq_ok, safeAdd_eq_ok, pure_eq_ok, perPeriod_mul_eq] at h
  obtain ⟨_, ⟨_, rfl⟩, _, ⟨hle, rfl⟩, _, ⟨_, rfl⟩, rfl⟩ := h
  exact ⟨hmul, hle, rfl⟩

/-- When their computation succeeds.
Source: `state/config.rs` `get_damm_v2_vesting_parameters` -/
theorem getDammV2VestingParameters_ok (timestamp : ℕ)
    (hmul : i.bpsPerPeriod * i.numberOfPeriods < 2 ^ 16)
    (hbps : total = 0 ∨ i.bpsPerPeriod * i.numberOfPeriods ≤ MAX_BASIS_POINT)
    (htotal : total < 2 ^ 128)
    (htime : timestamp + max i.cliffDurationFromMigrationTime 1 < 2 ^ 64) :
    i.getDammV2VestingParameters total timestamp = .ok (i.vestingParameters total timestamp) := by
  have hle := perPeriod_mul_le hbps
  have hsum : total * (i.bpsPerPeriod * i.numberOfPeriods) / MAX_BASIS_POINT ≤ total := by
    rcases hbps with rfl | hle
    · simp
    · exact Nat.div_le_of_le_mul (by rw [Nat.mul_comm]; exact Nat.mul_le_mul_right _ hle)
  have hprod : total * (i.bpsPerPeriod * i.numberOfPeriods) < 2 ^ 256 :=
    calc total * (i.bpsPerPeriod * i.numberOfPeriods)
        ≤ total * 2 ^ 16 := Nat.mul_le_mul_left _ hmul.le
      _ < 2 ^ 128 * 2 ^ 16 := Nat.mul_lt_mul_of_pos_right htotal (by decide)
      _ ≤ 2 ^ 256 := by decide
  have hcliff : timestamp + (if i.perPeriod total = 0 then
      max i.cliffDurationFromMigrationTime 1 else i.cliffDurationFromMigrationTime) < 2 ^ 64 := by
    split_ifs <;> omega
  have hfits : i.perPeriod total * (if i.perPeriod total = 0 then 0 else i.numberOfPeriods) <
      2 ^ 128 := by
    rw [perPeriod_mul_eq]
    exact hle.trans_lt htotal
  refine bind_eq_ok.mpr ⟨_, safeMul_eq_ok.mpr ⟨hmul, rfl⟩, bind_eq_ok.mpr ⟨_,
    safeMulDivCastU128_down_eq_ok.mpr ⟨hprod, by decide, hsum.trans_lt htotal, rfl⟩,
    bind_eq_ok.mpr ⟨_, perPeriod_eq, ?_⟩⟩⟩
  refine bind_eq_ok.mpr ⟨_, safeMul_eq_ok.mpr ⟨hfits, rfl⟩, bind_eq_ok.mpr ⟨_,
    safeSub_eq_ok.mpr ⟨?_, rfl⟩, bind_eq_ok.mpr ⟨_, safeAdd_eq_ok.mpr ⟨hcliff, rfl⟩, ?_⟩⟩⟩
  · rw [perPeriod_mul_eq]
    exact hle
  · rw [perPeriod_mul_eq]
    rfl

/-- **What the vesting leaves locked.**
Source: `utils/damm_v2_utils.rs` `get_max_unlocked_liquidity_at_current_point` -/
theorem lockedAfter_spec {seconds : ℕ} (timestamp : ℕ) (hseconds : 0 < seconds)
    (hle : i.perPeriod total * i.numberOfPeriods ≤ total) (htotal : total < 2 ^ 128) :
    ∃ unlocked, (i.vestingParameters total timestamp).getMaxUnlockedLiquidityAtCurrentPoint
        (timestamp + seconds) = .ok unlocked ∧
      unlocked + i.lockedAfter total seconds = total := by
  by_cases hcliff : seconds < i.cliffDurationFromMigrationTime
  · refine ⟨0, DammV2VestingParameters.getMaxUnlocked_before rfl ?_, ?_⟩
    · split_ifs <;> omega
    · rw [lockedAfter, if_pos hcliff, Nat.zero_add]
  · rw [lockedAfter, if_neg hcliff]
    by_cases hzero : i.perPeriod total = 0
    · -- nothing is left for the periods, so that the cliff unlocks all of it
      refine ⟨_, DammV2VestingParameters.getMaxUnlocked_cliff rfl ?_ (if_pos hzero), ?_⟩
      · rw [if_pos hzero]
        omega
      · simp only [vestingParameters, hzero, Nat.zero_mul, Nat.sub_zero, Nat.add_zero]
    · have hpoint : timestamp + i.cliffDurationFromMigrationTime ≤ timestamp + seconds := by omega
      have hparameters : i.vestingParameters total timestamp =
          { cliffPoint := some (timestamp + i.cliffDurationFromMigrationTime)
            liquidityPerPeriod := i.perPeriod total
            cliffUnlockLiquidity := total - i.perPeriod total * i.numberOfPeriods
            periodFrequency := i.frequency
            numberOfPeriod := i.numberOfPeriods } := by
        simp only [vestingParameters, if_neg hzero]
      rw [hparameters, periodsLeft]
      by_cases hfrequency : i.frequency = 0
      · refine ⟨_, DammV2VestingParameters.getMaxUnlocked_cliff rfl hpoint hfrequency, ?_⟩
        rw [if_pos hfrequency, Nat.sub_zero]
        exact Nat.sub_add_cancel hle
      · rw [if_neg hfrequency]
        have helapsed : timestamp + seconds - (timestamp + i.cliffDurationFromMigrationTime) =
            seconds - i.cliffDurationFromMigrationTime := by omega
        have hperiod : min ((seconds - i.cliffDurationFromMigrationTime) / i.frequency)
            i.numberOfPeriods ≤ i.numberOfPeriods := min_le_right _ _
        have hsplit : i.perPeriod total *
              (min ((seconds - i.cliffDurationFromMigrationTime) / i.frequency)
                i.numberOfPeriods) +
            i.perPeriod total * (i.numberOfPeriods -
              min ((seconds - i.cliffDurationFromMigrationTime) / i.frequency)
                i.numberOfPeriods) = i.perPeriod total * i.numberOfPeriods := by
          rw [← Nat.mul_add, Nat.add_sub_cancel' hperiod]
        refine ⟨_, DammV2VestingParameters.getMaxUnlocked_after rfl hpoint hfrequency ?_, ?_⟩
        · simp only [helapsed]
          rw [Nat.mul_comm (min _ _)]
          omega
        · simp only [helapsed]
          rw [Nat.mul_comm (min _ _)]
          omega

/-! ## From one total to another -/

/-- On a large amount the periods can only be worth the amount when their basis points are.
Source: `state/config.rs` `get_damm_v2_vesting_parameters`, `cliff_unlock_liquidity` -/
theorem bps_le_of_perPeriod (hle : i.perPeriod total * i.numberOfPeriods ≤ total)
    (hperiods : i.numberOfPeriods < 2 ^ 16) (htotal : 10 ^ 10 ≤ total) :
    i.bpsPerPeriod * i.numberOfPeriods ≤ MAX_BASIS_POINT := by
  rcases Nat.eq_zero_or_pos i.numberOfPeriods with hzero | hn
  · rw [hzero, Nat.mul_zero]
    exact Nat.zero_le _
  · by_contra hlt
    have hmore : total * (MAX_BASIS_POINT + 1) ≤ total * i.bpsPerPeriod * i.numberOfPeriods := by
      rw [Nat.mul_assoc]
      exact Nat.mul_le_mul_left _ (not_le.mp hlt)
    have hless : total * i.bpsPerPeriod * i.numberOfPeriods ≤
        (i.perPeriod total + 1) * MAX_BASIS_POINT * i.numberOfPeriods :=
      Nat.mul_le_mul_right _ (perPeriod_bounds _ hn).2.le
    have hexpand : (i.perPeriod total + 1) * MAX_BASIS_POINT * i.numberOfPeriods =
        (i.perPeriod total * i.numberOfPeriods + i.numberOfPeriods) * MAX_BASIS_POINT := by ring
    simp only [MAX_BASIS_POINT] at hmore hless hexpand
    omega

/-- No more periods are left than there are.
Source: `utils/damm_v2_utils.rs` `get_max_unlocked_liquidity_at_current_point` -/
theorem periodsLeft_le {seconds : ℕ} : i.periodsLeft seconds ≤ i.numberOfPeriods :=
  Nat.sub_le _ _

/-- **The basis points that are locked of the whole are locked of every part**, up to a constant:
the part `percentage` of `real` keeps what the same part of `whole` promised.
Source: `state/config.rs` `get_liquidity_locked_bps_at_n_seconds`; `get_liquidity_distribution` -/
theorem lockedAfter_scale {whole real percentage seconds : ℕ} (hwhole : 0 < whole)
    (hperiods : i.numberOfPeriods < 2 ^ 16)
    (hmul : i.bpsPerPeriod * i.numberOfPeriods < 2 ^ 16) :
    real * (i.lockedAfter (whole * percentage / 100) seconds * MAX_BASIS_POINT / whole) ≤
      MAX_BASIS_POINT * (i.lockedAfter (real * percentage / 100) seconds + 2 ^ 17) := by
  set bps := i.lockedAfter (whole * percentage / 100) seconds * MAX_BASIS_POINT / whole
  have hbps : bps * whole ≤ i.lockedAfter (whole * percentage / 100) seconds * MAX_BASIS_POINT :=
    Nat.div_mul_le_self _ _
  have hwholePart : whole * percentage / 100 * 100 ≤ whole * percentage := Nat.div_mul_le_self _ _
  have hrealPart : real * percentage < (real * percentage / 100 + 1) * 100 := by
    rw [Nat.mul_comm _ 100]
    exact Nat.lt_mul_div_succ _ (by decide)
  unfold lockedAfter at hbps ⊢
  split_ifs at hbps ⊢ with hcliff
  · -- before the cliff all of the part is locked
    have hpercent : bps ≤ 100 * percentage := by
      refine Nat.le_of_mul_le_mul_right ?_ hwhole
      simp only [MAX_BASIS_POINT] at hbps
      linarith
    have hscaled : real * bps ≤ real * (100 * percentage) := Nat.mul_le_mul_left _ hpercent
    simp only [MAX_BASIS_POINT]
    linarith
  · -- after the cliff it is the periods that are left
    rcases Nat.eq_zero_or_pos i.numberOfPeriods with hzero | hn
    · have hleft : i.periodsLeft seconds = 0 := Nat.le_zero.mp (hzero ▸ periodsLeft_le)
      rw [hleft, Nat.mul_zero, Nat.zero_mul] at hbps
      have hnone : bps = 0 := by
        rcases Nat.mul_eq_zero.mp (Nat.le_zero.mp hbps) with hbps | hwhole'
        · exact hbps
        · omega
      rw [hnone, Nat.mul_zero]
      exact Nat.zero_le _
    · obtain ⟨hperiodWhole, _⟩ := perPeriod_bounds (whole * percentage / 100) hn
      obtain ⟨_, hperiodReal⟩ := perPeriod_bounds (real * percentage / 100) hn
      have hleft : i.periodsLeft seconds ≤ i.numberOfPeriods := periodsLeft_le
      generalize i.periodsLeft seconds = left at hbps hleft ⊢
      have hbleft : i.bpsPerPeriod * left < 2 ^ 16 :=
        (Nat.mul_le_mul_left _ hleft).trans_lt hmul
      have hpoints : bps * 100 ≤ percentage * (i.bpsPerPeriod * left) := by
        refine Nat.le_of_mul_le_mul_right ?_ hwhole
        calc bps * 100 * whole
            = bps * whole * 100 := by ring
          _ ≤ i.perPeriod (whole * percentage / 100) * left * MAX_BASIS_POINT * 100 :=
              Nat.mul_le_mul_right _ hbps
          _ = i.perPeriod (whole * percentage / 100) * MAX_BASIS_POINT * (left * 100) := by ring
          _ ≤ whole * percentage / 100 * i.bpsPerPeriod * (left * 100) :=
              Nat.mul_le_mul_right _ hperiodWhole
          _ = whole * percentage / 100 * 100 * (i.bpsPerPeriod * left) := by ring
          _ ≤ whole * percentage * (i.bpsPerPeriod * left) := Nat.mul_le_mul_right _ hwholePart
          _ = percentage * (i.bpsPerPeriod * left) * whole := by ring
      have hscaled : real * bps ≤ (real * percentage / 100 + 1) * (i.bpsPerPeriod * left) := by
        refine Nat.le_of_mul_le_mul_right (c := 100) ?_ (by decide)
        calc real * bps * 100
            = real * (bps * 100) := by ring
          _ ≤ real * (percentage * (i.bpsPerPeriod * left)) := Nat.mul_le_mul_left _ hpoints
          _ = real * percentage * (i.bpsPerPeriod * left) := by ring
          _ ≤ (real * percentage / 100 + 1) * 100 * (i.bpsPerPeriod * left) :=
              Nat.mul_le_mul_right _ hrealPart.le
          _ = (real * percentage / 100 + 1) * (i.bpsPerPeriod * left) * 100 := by ring
      have hperiods' : real * percentage / 100 * i.bpsPerPeriod * left ≤
          (i.perPeriod (real * percentage / 100) + 1) * MAX_BASIS_POINT * left :=
        Nat.mul_le_mul_right _ hperiodReal.le
      simp only [MAX_BASIS_POINT] at hperiods' ⊢
      linarith

/-! ## A party's vesting -/

/-- What a stored vesting is known to be.
Source: `process_create_config.rs` `to_liquidity_vesting_info`; `ConfigParameters::validate`, the
sum of the percentages -/
structure Stored (i : LiquidityVestingInfo) : Prop where
  percentage_le : i.vestingPercentage ≤ 100
  periods_lt : i.numberOfPeriods < 2 ^ 16
  cliff_lt : i.cliffDurationFromMigrationTime < 2 ^ 32
  eq_default : i.isInitialized = 0 → i = default

/-- The basis points that a vesting promises are those of what it leaves locked of the whole.
Source: `state/config.rs` `get_liquidity_locked_bps_at_n_seconds` -/
theorem getLiquidityLockedBpsAtNSeconds_spec {seconds bps : ℕ} (hi : i.Stored)
    (hseconds : 0 < seconds) (h : i.getLiquidityLockedBpsAtNSeconds seconds = .ok bps) :
    i.bpsPerPeriod * i.numberOfPeriods < 2 ^ 16 ∧
      (i.vestingPercentage = 0 ∨ i.bpsPerPeriod * i.numberOfPeriods ≤ MAX_BASIS_POINT) ∧
      bps ≤ i.lockedAfter (u128Max * i.vestingPercentage / 100) seconds * MAX_BASIS_POINT /
        u128Max := by
  unfold getLiquidityLockedBpsAtNSeconds at h
  split_ifs at h with huninitialized
  · rw [pure_eq_ok] at h
    rw [hi.eq_default huninitialized, ← h]
    exact ⟨by decide, .inl rfl, Nat.zero_le _⟩
  · simp only [bind_eq_ok, safeMulDivCastU128_down_eq_ok, safeSub_eq_ok, safeCast_eq_ok] at h
    obtain ⟨_, ⟨_, _, hfit, rfl⟩, v, hv, unlocked, hunlocked, _, ⟨_, rfl⟩, _,
      ⟨_, _, _, rfl⟩, _, rfl⟩ := h
    obtain ⟨hmul, hle, rfl⟩ := getDammV2VestingParameters_spec hv
    obtain ⟨unlocked', hunlocked', hsum⟩ := lockedAfter_spec 0 hseconds hle hfit
    rw [Nat.zero_add, hunlocked, Except.ok.injEq] at hunlocked'
    subst hunlocked'
    refine ⟨hmul, ?_, ?_⟩
    · refine (Nat.eq_zero_or_pos i.vestingPercentage).imp_right fun hpositive => ?_
      refine bps_le_of_perPeriod hle hi.periods_lt ?_
      have hwhole : u128Max * 1 / 100 ≤ u128Max * i.vestingPercentage / 100 :=
        Nat.div_le_div_right (Nat.mul_le_mul_left _ hpositive)
      exact le_trans (by decide) hwhole
    · have hlocked : u128Max * i.vestingPercentage / 100 - unlocked =
          i.lockedAfter (u128Max * i.vestingPercentage / 100) seconds := by omega
      rw [hlocked]

/-- **A party's vesting keeps its basis points.** On the real liquidity the vesting is computed,
and a day later it leaves locked what the check of the configuration promised, up to a constant.
Source: `state/config.rs` `get_liquidity_distribution`, `get_damm_v2_vesting_parameters` -/
theorem vested_locked_ge {seconds bps liquidity timestamp : ℕ} (hi : i.Stored)
    (hseconds : 0 < seconds) (hbps : i.getLiquidityLockedBpsAtNSeconds seconds = .ok bps)
    (hliquidity : liquidity < 2 ^ 128) (htime : timestamp < 2 ^ 63) :
    ∃ v unlocked, i.getDammV2VestingParameters (liquidity * i.vestingPercentage / 100) timestamp =
        .ok v ∧
      v.getMaxUnlockedLiquidityAtCurrentPoint (timestamp + seconds) = .ok unlocked ∧
      unlocked ≤ liquidity * i.vestingPercentage / 100 ∧
      liquidity * bps ≤ MAX_BASIS_POINT *
        (liquidity * i.vestingPercentage / 100 - unlocked + 2 ^ 17) := by
  obtain ⟨hmul, hle, hpromised⟩ := getLiquidityLockedBpsAtNSeconds_spec hi hseconds hbps
  have hpart : liquidity * i.vestingPercentage / 100 ≤ liquidity :=
    Nat.div_le_of_le_mul (by rw [Nat.mul_comm]; exact Nat.mul_le_mul_right _ hi.percentage_le)
  have hzero : liquidity * i.vestingPercentage / 100 = 0 ∨
      i.bpsPerPeriod * i.numberOfPeriods ≤ MAX_BASIS_POINT := by
    refine hle.imp_left fun hpercentage => ?_
    rw [hpercentage, Nat.mul_zero, Nat.zero_div]
  have hcliff := hi.cliff_lt
  have hparameters := getDammV2VestingParameters_ok timestamp hmul hzero
    (hpart.trans_lt hliquidity) (by omega)
  obtain ⟨unlocked, hunlocked, hsum⟩ := lockedAfter_spec timestamp hseconds
    (perPeriod_mul_le hzero) (hpart.trans_lt hliquidity)
  refine ⟨_, unlocked, hparameters, hunlocked, by omega, ?_⟩
  have hlocked : liquidity * i.vestingPercentage / 100 - unlocked =
      i.lockedAfter (liquidity * i.vestingPercentage / 100) seconds := by omega
  rw [hlocked]
  exact (Nat.mul_le_mul_left _ hpromised).trans
    (lockedAfter_scale (by decide) hi.periods_lt hmul)

end LiquidityVestingInfo

/-! ## Accepted configurations -/

section Accepted

/-- A vesting within its bounds is stored within them.
Source: `process_create_config.rs` `to_liquidity_vesting_info` -/
theorem toLiquidityVestingInfo_stored {p : LiquidityVestingInfoParams}
    (hpercentage : p.vestingPercentage ≤ 100) (hperiods : p.numberOfPeriods < 2 ^ 16)
    (hcliff : p.cliffDurationFromMigrationTime < 2 ^ 32) : p.toLiquidityVestingInfo.Stored := by
  refine ⟨hpercentage, hperiods, hcliff, fun huninitialized => ?_⟩
  have hdefault : p = default := by
    simpa [LiquidityVestingInfoParams.toLiquidityVestingInfo,
      LiquidityVestingInfoParams.isZero] using huninitialized
  rw [hdefault]
  rfl

end Accepted

namespace AcceptedConfig

variable (a : AcceptedConfig)

/-- The percentages of an accepted configuration do not exceed the whole.
Source: `process_create_config.rs` `ConfigParameters::validate`, `sum_liquidity_percentage` -/
theorem liquidityPercentages :
    a.config.partnerLiquidityPercentage + a.config.partnerPermanentLockedLiquidityPercentage +
      a.config.creatorPermanentLockedLiquidityPercentage +
        a.config.partnerLiquidityVestingInfo.vestingPercentage +
          a.config.creatorLiquidityVestingInfo.vestingPercentage ≤ 100 := by
  have hsum := a.paramsValidated.liquidityPercentages
  have hcreated := a.paramsCreated
  rw [hcreated.partnerLiquidityVestingInfo_eq, hcreated.creatorLiquidityVestingInfo_eq,
    hcreated.partnerPermanentLocked_eq, hcreated.creatorPermanentLocked_eq,
    hcreated.partnerLiquidity_eq]
  show a.params.partnerLiquidityPercentage +
    a.params.partnerPermanentLockedLiquidityPercentage +
      a.params.creatorPermanentLockedLiquidityPercentage +
        a.params.partnerLiquidityVestingInfo.vestingPercentage +
          a.params.creatorLiquidityVestingInfo.vestingPercentage ≤ 100
  omega

/-- The partner's vesting is stored within its bounds.
Source: `process_create_config.rs` `to_liquidity_vesting_info` -/
theorem partnerLiquidityVestingInfo_stored : a.config.partnerLiquidityVestingInfo.Stored := by
  have hsum := a.paramsValidated.liquidityPercentages
  rw [a.paramsCreated.partnerLiquidityVestingInfo_eq]
  refine toLiquidityVestingInfo_stored (by omega) ?_ ?_
  · exact a.inRange.2.1 _ (by simp [ConfigParameters.u16Fields])
  · exact a.inRange.2.2.1 _ (by simp [ConfigParameters.u32Fields])

/-- The creator's vesting is stored within its bounds.
Source: `process_create_config.rs` `to_liquidity_vesting_info` -/
theorem creatorLiquidityVestingInfo_stored : a.config.creatorLiquidityVestingInfo.Stored := by
  have hsum := a.paramsValidated.liquidityPercentages
  rw [a.paramsCreated.creatorLiquidityVestingInfo_eq]
  refine toLiquidityVestingInfo_stored (by omega) ?_ ?_
  · exact a.inRange.2.1 _ (by simp [ConfigParameters.u16Fields])
  · exact a.inRange.2.2.1 _ (by simp [ConfigParameters.u32Fields])

/-- A part that is locked for good is worth its percentage, up to one.
Source: `state/config.rs` `get_liquidity_distribution` -/
theorem permanent_ge (liquidity percentage : ℕ) :
    liquidity * (percentage * 100) ≤
      MAX_BASIS_POINT * (liquidity * percentage / 100 + 1) := by
  have hfloor : liquidity * percentage < 100 * (liquidity * percentage / 100 + 1) :=
    Nat.lt_mul_div_succ _ (by decide)
  simp only [MAX_BASIS_POINT]
  linarith

/-- **The lock of one day.** However much liquidity a migration gets, from 2 ^ 64 on, and whenever
it happens: the parts are computed, and a day later at least 999 of 10000 parts of the whole are
locked, for good or because their vesting has not unlocked them.
Source: `state/config.rs` `get_liquidity_distribution`,
`get_total_liquidity_locked_bps_at_n_seconds`; `utils/damm_v2_utils.rs`
`get_max_unlocked_liquidity_at_current_point` -/
theorem oneDayLock {liquidity timestamp : ℕ} (hliquidity : 2 ^ 64 ≤ liquidity)
    (hfit : liquidity < 2 ^ 128) (htime : timestamp < 2 ^ 63) :
    ∃ l partnerVesting creatorVesting partnerUnlocked creatorUnlocked,
      a.config.getLiquidityDistribution liquidity = .ok l ∧
      l.partner.getDammV2VestingParameters timestamp = .ok partnerVesting ∧
      l.creator.getDammV2VestingParameters timestamp = .ok creatorVesting ∧
      partnerVesting.getMaxUnlockedLiquidityAtCurrentPoint (timestamp + SECONDS_PER_DAY) =
        .ok partnerUnlocked ∧
      creatorVesting.getMaxUnlockedLiquidityAtCurrentPoint (timestamp + SECONDS_PER_DAY) =
        .ok creatorUnlocked ∧
      partnerUnlocked ≤ l.partner.vestedLiquidity ∧
      creatorUnlocked ≤ l.creator.vestedLiquidity ∧
      999 * liquidity ≤ 10000 *
        (l.partner.permanentLockedLiquidity + l.creator.permanentLockedLiquidity +
          (l.partner.vestedLiquidity - partnerUnlocked) +
          (l.creator.vestedLiquidity - creatorUnlocked)) := by
  obtain ⟨bps, hbps, hmin⟩ := a.paramsCreated.lockedBps
  simp only [PoolConfig.getTotalLiquidityLockedBpsAtNSeconds, bind_eq_ok, safeMul_eq_ok,
    safeAdd_eq_ok] at hbps
  obtain ⟨partnerBps, hpartnerBps, creatorBps, hcreatorBps, _, ⟨_, rfl⟩, _, ⟨_, rfl⟩, _,
    ⟨_, rfl⟩, _, ⟨_, rfl⟩, _, rfl⟩ := hbps
  obtain ⟨l, hl⟩ := a.config.getLiquidityDistribution_isOk a.liquidityPercentages hfit
  have hparts := PoolConfig.getLiquidityDistribution_spec hl
  have hday : 0 < SECONDS_PER_DAY := by decide
  obtain ⟨partnerVesting, partnerUnlocked, hpartner, hpartnerUnlocked, hpartnerLe, hpartnerGe⟩ :=
    LiquidityVestingInfo.vested_locked_ge a.partnerLiquidityVestingInfo_stored hday hpartnerBps
      hfit htime
  obtain ⟨creatorVesting, creatorUnlocked, hcreator, hcreatorUnlocked, hcreatorLe, hcreatorGe⟩ :=
    LiquidityVestingInfo.vested_locked_ge a.creatorLiquidityVestingInfo_stored hday hcreatorBps
      hfit htime
  have hpartnerPermanent := permanent_ge liquidity
    a.config.partnerPermanentLockedLiquidityPercentage
  have hcreatorPermanent := permanent_ge liquidity
    a.config.creatorPermanentLockedLiquidityPercentage
  have hpromised := Nat.mul_le_mul_left liquidity hmin
  rw [← hparts.partnerVested] at hpartner hpartnerLe hpartnerGe
  rw [← hparts.creatorVested] at hcreator hcreatorLe hcreatorGe
  rw [← hparts.partnerPermanent] at hpartnerPermanent
  rw [← hparts.creatorPermanent] at hcreatorPermanent
  refine ⟨l, partnerVesting, creatorVesting, partnerUnlocked, creatorUnlocked, hl, ?_, ?_,
    hpartnerUnlocked, hcreatorUnlocked, hpartnerLe, hcreatorLe, ?_⟩
  · rw [LiquidityDistributionItem.getDammV2VestingParameters, hparts.partnerInfo]
    exact hpartner
  · rw [LiquidityDistributionItem.getDammV2VestingParameters, hparts.creatorInfo]
    exact hcreator
  · simp only [Nat.mul_add, MIN_LOCKED_LIQUIDITY_BPS, MAX_BASIS_POINT] at *
    omega

/-- A plain configuration that locks a twentieth for good and vests half over thirty days.
Source: `process_create_config.rs` `ConfigParameters` -/
def monthlyVesting : AcceptedConfig :=
  (submit { plainParameters (2 ^ 64) 1000000 [{ sqrtPrice := 2 ^ 65, liquidity := 2 ^ 90 }] with
    partnerPermanentLockedLiquidityPercentage := 5
    partnerLiquidityPercentage := 45
    creatorLiquidityVestingInfo :=
      { vestingPercentage := 50
        bpsPerPeriod := 100
        numberOfPeriods := 30
        cliffDurationFromMigrationTime := 0
        frequency := 86400 } } plainQuoteMint 1 false 2 3).get (by decide +kernel)

/-- The least liquidity that the lock is promised for. -/
theorem oneDayLock_monthlyVesting :
    ∃ l partnerVesting creatorVesting partnerUnlocked creatorUnlocked,
      monthlyVesting.config.getLiquidityDistribution (2 ^ 64) = .ok l ∧
      l.partner.getDammV2VestingParameters 1 = .ok partnerVesting ∧
      l.creator.getDammV2VestingParameters 1 = .ok creatorVesting ∧
      partnerVesting.getMaxUnlockedLiquidityAtCurrentPoint (1 + SECONDS_PER_DAY) =
        .ok partnerUnlocked ∧
      creatorVesting.getMaxUnlockedLiquidityAtCurrentPoint (1 + SECONDS_PER_DAY) =
        .ok creatorUnlocked ∧
      partnerUnlocked ≤ l.partner.vestedLiquidity ∧
      creatorUnlocked ≤ l.creator.vestedLiquidity ∧
      999 * 2 ^ 64 ≤ 10000 *
        (l.partner.permanentLockedLiquidity + l.creator.permanentLockedLiquidity +
          (l.partner.vestedLiquidity - partnerUnlocked) +
          (l.creator.vestedLiquidity - creatorUnlocked)) :=
  monthlyVesting.oneDayLock le_rfl (by decide) (by decide)

end AcceptedConfig

end DynamicBondingCurve
