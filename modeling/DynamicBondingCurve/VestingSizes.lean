import DynamicBondingCurve.LiquidityLock

/-!
# A vesting that is valid for every amount

The vesting of a party is checked once, when the configuration is created, on the largest liquidity
there is. The migration hands the other program a vesting of the liquidity that it really got. When
its periods are worth nothing by rounding, it has no periods at all and unlocks at its cliff.

* `DammV2VestingParameters.Lockable`, `DammV2VestingParameters.validateVestingParameters_iff`: what
  the other program requires of a vesting.
* `DammV2VestingParameters.unlockedAt`: **what a vesting has unlocked grows to its total.**
* `LiquidityVestingInfo.lockable_of_lockable`: a vesting that is lockable on one large amount is
  lockable on every amount.
* `LiquidityVestingInfoParams.vesting_valid`: **what the creation of a configuration accepts, the
  migration can lock**, whatever its amount and its time.
-/

namespace DynamicBondingCurve

open Library

/-! ## A vesting of the other program -/

namespace DammV2VestingParameters

variable (v : DammV2VestingParameters)

/-- What is locked in all.
Source: `utils/damm_v2_utils.rs` `get_vesting_total_lock_amount` -/
def totalLock : ℕ := v.cliffUnlockLiquidity + v.liquidityPerPeriod * v.numberOfPeriod

/-- The seconds from the cliff to the last period.
Source: `utils/damm_v2_utils.rs` `validate_vesting_parameters`, `vesting_duration` -/
def periodsDuration : ℕ := v.periodFrequency * v.numberOfPeriod

/-- What the other program requires of a vesting whose cliff lies `cliff` seconds ahead.
Source: `utils/damm_v2_utils.rs` `validate_vesting_parameters` -/
structure Lockable (cliff maxVestingDuration : ℕ) : Prop where
  notEmpty : cliff = 0 → 0 < v.numberOfPeriod
  periods : 0 < v.numberOfPeriod → 0 < v.periodFrequency ∧ 0 < v.liquidityPerPeriod
  fits : cliff + v.periodsDuration < 2 ^ 64
  duration : cliff + v.periodsDuration ≤ maxVestingDuration
  totalFits : v.totalLock < 2 ^ 128
  total : 0 < v.totalLock

variable {v} {point cliff now later maxDuration : ℕ}

/-- The total is computed when it fits.
Source: `utils/damm_v2_utils.rs` `get_vesting_total_lock_amount` -/
theorem getVestingTotalLockAmount_eq_ok {total : ℕ} :
    v.getVestingTotalLockAmount = .ok total ↔ v.totalLock < 2 ^ 128 ∧ total = v.totalLock := by
  simp only [getVestingTotalLockAmount, bind_eq_ok, safeMul_eq_ok, safeAdd_eq_ok]
  constructor
  · rintro ⟨_, ⟨_, rfl⟩, hfits, htotal⟩
    exact ⟨hfits, htotal⟩
  · rintro ⟨hfits, htotal⟩
    exact ⟨_, ⟨(Nat.le_add_left _ _).trans_lt hfits, rfl⟩, hfits, htotal⟩

/-- **A vesting is accepted exactly when it is lockable.**
Source: `utils/damm_v2_utils.rs` `validate_vesting_parameters` -/
theorem validateVestingParameters_iff (hcliff : v.cliffPoint = some (point + cliff)) :
    v.validateVestingParameters point maxDuration = .ok () ↔
      v.Lockable cliff maxDuration := by
  have hpoint : v.getVestingCliffPoint point = point + cliff := by
    unfold getVestingCliffPoint
    rw [hcliff]
    rfl
  simp only [validateVestingParameters, hpoint, bind_eq_ok, exists_unit, require_eq_ok,
    safeSub_eq_ok, safeMul_eq_ok, safeAdd_eq_ok, getVestingTotalLockAmount_eq_ok]
  constructor
  · rintro ⟨_, hempty, hperiods, _, ⟨_, rfl⟩, _, ⟨_, rfl⟩, _, ⟨hfits, rfl⟩, hduration, _,
      ⟨htotalFits, rfl⟩, htotal⟩
    rw [Nat.add_sub_cancel_left] at hfits hduration
    refine ⟨?_, ?_, hfits, hduration, htotalFits, htotal⟩
    · intro hzero
      rw [if_pos (by omega), require_eq_ok] at hempty
      exact hempty
    · intro hpos
      rw [if_pos hpos, require_eq_ok] at hperiods
      exact hperiods
  · rintro ⟨hempty, hperiods, hfits, hduration, htotalFits, htotal⟩
    refine ⟨Nat.le_add_right _ _, ?_, ?_, _, ⟨Nat.le_add_right _ _, rfl⟩, _, ⟨?_, rfl⟩, _,
      ⟨?_, rfl⟩, ?_, _, ⟨htotalFits, rfl⟩, htotal⟩
    · split_ifs with hzero
      · exact require_eq_ok.mpr (hempty (by omega))
      · rfl
    · split_ifs with hpos
      · exact require_eq_ok.mpr (hperiods hpos)
      · rfl
    · exact (Nat.le_add_left _ _).trans_lt hfits
    · rwa [Nat.add_sub_cancel_left]
    · rwa [Nat.add_sub_cancel_left]

/-- What a vesting with the cliff at `point` has unlocked.
Source: `utils/damm_v2_utils.rs` `get_max_unlocked_liquidity_at_current_point` -/
def unlockedAt (v : DammV2VestingParameters) (point now : ℕ) : ℕ :=
  if now < point then 0
  else if v.periodFrequency = 0 then v.cliffUnlockLiquidity
  else v.cliffUnlockLiquidity +
    min ((now - point) / v.periodFrequency) v.numberOfPeriod * v.liquidityPerPeriod

/-- No more vests than is locked.
Source: `utils/damm_v2_utils.rs` `get_max_unlocked_liquidity_at_current_point` -/
theorem unlockedAt_le_totalLock : v.unlockedAt point now ≤ v.totalLock := by
  unfold unlockedAt totalLock
  split_ifs
  · exact Nat.zero_le _
  · exact Nat.le_add_right _ _
  · apply Nat.add_le_add_left
    rw [Nat.mul_comm v.liquidityPerPeriod]
    exact Nat.mul_le_mul_right _ (min_le_right _ _)

/-- More time never unlocks less.
Source: `utils/damm_v2_utils.rs` `get_max_unlocked_liquidity_at_current_point` -/
theorem unlockedAt_mono (h : now ≤ later) : v.unlockedAt point now ≤ v.unlockedAt point later := by
  unfold unlockedAt
  by_cases hbefore : now < point
  · rw [if_pos hbefore]
    exact Nat.zero_le _
  · rw [if_neg hbefore, if_neg (by omega : ¬ later < point)]
    split_ifs
    · exact le_rfl
    · gcongr

/-- After the last period all of it is unlocked.
Source: `utils/damm_v2_utils.rs` `get_max_unlocked_liquidity_at_current_point` -/
theorem unlockedAt_eq_totalLock (hperiods : 0 < v.numberOfPeriod → 0 < v.periodFrequency)
    (hnow : point + v.periodsDuration ≤ now) : v.unlockedAt point now = v.totalLock := by
  unfold unlockedAt totalLock
  rw [if_neg (by omega)]
  split_ifs with hfrequency
  · -- without a frequency there are no periods
    have hzero : v.numberOfPeriod = 0 := by
      apply Nat.eq_zero_of_not_pos
      intro hpos
      exact absurd hfrequency (hperiods hpos).ne'
    rw [hzero, Nat.mul_zero, Nat.add_zero]
  · have hpassed : v.numberOfPeriod ≤ (now - point) / v.periodFrequency := by
      rw [Nat.le_div_iff_mul_le (Nat.pos_of_ne_zero hfrequency), Nat.mul_comm]
      unfold periodsDuration at hnow
      omega
    rw [min_eq_right hpassed, Nat.mul_comm]

/-- The liquidity that has vested is computed when the whole fits.
Source: `utils/damm_v2_utils.rs` `get_max_unlocked_liquidity_at_current_point` -/
theorem getMaxUnlocked_eq (hcliff : v.cliffPoint = some point) (hfits : v.totalLock < 2 ^ 128) :
    v.getMaxUnlockedLiquidityAtCurrentPoint now = .ok (v.unlockedAt point now) := by
  have hle : v.unlockedAt point now ≤ v.totalLock := unlockedAt_le_totalLock
  unfold unlockedAt at hle ⊢
  by_cases hbefore : now < point
  · rw [if_pos hbefore]
    exact getMaxUnlocked_before hcliff hbefore
  · rw [if_neg hbefore] at hle ⊢
    by_cases hfrequency : v.periodFrequency = 0
    · rw [if_pos hfrequency]
      exact getMaxUnlocked_cliff hcliff (not_lt.mp hbefore) hfrequency
    · rw [if_neg hfrequency] at hle ⊢
      exact getMaxUnlocked_after hcliff (not_lt.mp hbefore) hfrequency (hle.trans_lt hfits)

end DammV2VestingParameters

/-! ## From one amount to every amount -/

namespace LiquidityVestingInfo

variable (i : LiquidityVestingInfo) (total : ℕ)

/-- The seconds from the migration to the cliff.
Source: `state/config.rs` `get_damm_v2_vesting_parameters`, `cliff_duration_from_migration_time` -/
def cliffSeconds : ℕ :=
  if i.perPeriod total = 0 then max i.cliffDurationFromMigrationTime 1
  else i.cliffDurationFromMigrationTime

variable {i total} {whole timestamp timestamp' maxDuration : ℕ}

/-- The vesting of an amount locks the amount.
Source: `state/config.rs` `get_damm_v2_vesting_parameters`, `cliff_unlock_liquidity` -/
theorem totalLock_vestingParameters (hle : i.perPeriod total * i.numberOfPeriods ≤ total) :
    (i.vestingParameters total timestamp).totalLock = total := by
  show total - i.perPeriod total * i.numberOfPeriods +
    i.perPeriod total * (if i.perPeriod total = 0 then 0 else i.numberOfPeriods) = total
  rw [perPeriod_mul_eq]
  exact Nat.sub_add_cancel hle

/-- Periods that are worth nothing of a large amount have no basis points, and are worth nothing of
every amount.
Source: `state/config.rs` `get_damm_v2_vesting_parameters`, `liquidity_per_period` -/
theorem perPeriod_eq_zero_of_large (hlarge : MAX_BASIS_POINT ≤ whole)
    (hzero : i.perPeriod whole = 0) : i.perPeriod total = 0 := by
  rcases Nat.eq_zero_or_pos i.numberOfPeriods with hn | hn
  · rw [perPeriod, hn, Nat.div_zero]
  · have hbps : i.bpsPerPeriod = 0 := by
      obtain ⟨-, hlt⟩ := perPeriod_bounds whole hn
      rw [hzero, Nat.zero_add, Nat.one_mul] at hlt
      by_contra hne
      have hle := Nat.mul_le_mul_left whole (Nat.one_le_iff_ne_zero.mpr hne)
      omega
    obtain ⟨hle, -⟩ := perPeriod_bounds total hn
    rw [hbps, Nat.mul_zero] at hle
    have hpos : 0 < MAX_BASIS_POINT := by decide
    exact (Nat.mul_eq_zero.mp (Nat.le_zero.mp hle)).resolve_right hpos.ne'

/-- **A vesting that is lockable on one large amount is lockable on every amount.** Where the
periods of the amount are worth nothing, the vesting has no periods, and its cliff lies ahead.
Source: `state/config.rs` `get_damm_v2_vesting_parameters`; `utils/damm_v2_utils.rs`
`validate_vesting_parameters` -/
theorem lockable_of_lockable (hlarge : MAX_BASIS_POINT ≤ whole)
    (h : (i.vestingParameters whole timestamp).Lockable (i.cliffSeconds whole) maxDuration)
    (hle : i.perPeriod total * i.numberOfPeriods ≤ total) (hpos : 0 < total)
    (hfit : total < 2 ^ 128) :
    (i.vestingParameters total timestamp').Lockable (i.cliffSeconds total) maxDuration := by
  have htotal : (i.vestingParameters total timestamp').totalLock = total :=
    totalLock_vestingParameters hle
  -- the checked cliff and periods, by whether the periods of the checked amount are worth something
  have hbound : max i.cliffDurationFromMigrationTime 1 ≤
      i.cliffSeconds whole + (i.vestingParameters whole timestamp).periodsDuration := by
    unfold cliffSeconds
    split_ifs with hzero
    · exact Nat.le_add_right _ _
    · have hn : 0 < i.numberOfPeriods := by
        apply Nat.pos_of_ne_zero
        intro hn
        exact hzero (by rw [perPeriod, hn, Nat.div_zero])
      have hperiods := h.periods
      simp only [vestingParameters, if_neg hzero] at hperiods
      have hduration : 0 < i.frequency * i.numberOfPeriods := Nat.mul_pos (hperiods hn).1 hn
      simp only [DammV2VestingParameters.periodsDuration, vestingParameters, if_neg hzero]
      omega
  have hfits := h.fits
  have hduration := h.duration
  by_cases hzero : i.perPeriod total = 0
  · have hnone : (i.vestingParameters total timestamp').numberOfPeriod = 0 := if_pos hzero
    have hperiods : (i.vestingParameters total timestamp').periodsDuration = 0 := by
      rw [DammV2VestingParameters.periodsDuration, hnone, Nat.mul_zero]
    have hcliff : i.cliffSeconds total = max i.cliffDurationFromMigrationTime 1 := if_pos hzero
    constructor
    · omega
    · intro hcon
      omega
    · omega
    · omega
    · rwa [htotal]
    · rwa [htotal]
  · have hwhole : i.perPeriod whole ≠ 0 := fun hwhole =>
      hzero (perPeriod_eq_zero_of_large hlarge hwhole)
    have hnotEmpty := h.notEmpty
    have hperiods := h.periods
    simp only [cliffSeconds, DammV2VestingParameters.periodsDuration, vestingParameters,
      if_neg hwhole] at hnotEmpty hperiods hfits hduration
    constructor
    · simp only [cliffSeconds, vestingParameters, if_neg hzero]
      exact hnotEmpty
    · simp only [vestingParameters, if_neg hzero]
      intro hn
      exact ⟨(hperiods hn).1, Nat.pos_of_ne_zero hzero⟩
    · simpa only [cliffSeconds, DammV2VestingParameters.periodsDuration, vestingParameters,
        if_neg hzero] using hfits
    · simpa only [cliffSeconds, DammV2VestingParameters.periodsDuration, vestingParameters,
        if_neg hzero] using hduration
    · rwa [htotal]
    · rwa [htotal]

end LiquidityVestingInfo

/-! ## What the creation of a configuration accepts -/

namespace LiquidityVestingInfoParams

variable {p : LiquidityVestingInfoParams} {created : ℕ}

/-- What the check at creation says about the vesting: it is lockable on a large amount, and its
basis points are at most the whole.
Source: `process_create_config.rs` `LiquidityVestingInfoParams::validate` -/
theorem validate_spec (hvalid : p.validate created = .ok ()) (hzero : p.isZero = false) :
    ∃ whole, MAX_BASIS_POINT ≤ whole ∧
      (p.toLiquidityVestingInfo.vestingParameters whole created).Lockable
        (p.toLiquidityVestingInfo.cliffSeconds whole) MAX_LOCK_DURATION_IN_SECONDS ∧
      p.bpsPerPeriod * p.numberOfPeriods ≤ MAX_BASIS_POINT := by
  simp only [validate, hzero, Bool.false_eq_true, if_false, bind_eq_ok,
    safeMulDivCastU128_down_eq_ok] at hvalid
  obtain ⟨whole, ⟨_, _, _, hwhole⟩, v, hv, hvalidate⟩ := hvalid
  obtain ⟨hmul, hle, rfl⟩ := LiquidityVestingInfo.getDammV2VestingParameters_spec hv
  have hlockable := (DammV2VestingParameters.validateVestingParameters_iff rfl).mp hvalidate
  have hpos : 0 < whole := by
    have htotal := hlockable.total
    rwa [LiquidityVestingInfo.totalLock_vestingParameters hle] at htotal
  have hlarge : 10 ^ 10 ≤ whole := by
    have hpercentage : p.vestingPercentage ≠ 0 := by
      intro hnone
      rw [hwhole, hnone] at hpos
      exact absurd hpos (by decide)
    rw [hwhole, Nat.le_div_iff_mul_le (by decide)]
    calc 10 ^ 10 * 100 ≤ u128Max * 1 := by decide
      _ ≤ u128Max * p.vestingPercentage :=
          Nat.mul_le_mul_left _ (Nat.one_le_iff_ne_zero.mpr hpercentage)
  refine ⟨whole, hlarge.trans' (by decide), hlockable, ?_⟩
  rcases Nat.eq_zero_or_pos p.bpsPerPeriod with hbps | hbps
  · rw [hbps, Nat.zero_mul]
    exact Nat.zero_le _
  · have hperiods : p.numberOfPeriods < 2 ^ 16 := (Nat.le_mul_of_pos_left _ hbps).trans_lt hmul
    exact LiquidityVestingInfo.bps_le_of_perPeriod (i := p.toLiquidityVestingInfo) hle hperiods
      hlarge

/-- **A vesting that is accepted once can be locked at every size and at every time.** For every
vested amount and every time at which the cliff does not overflow, the vesting is computed, passes
the check of the other program, locks exactly the amount, and unlocks it step by step, all of it
within the longest lock.
Source: `process_create_config.rs` `LiquidityVestingInfoParams::validate`; `state/config.rs`
`get_damm_v2_vesting_parameters`; `utils/damm_v2_utils.rs` `validate_vesting_parameters`,
`get_max_unlocked_liquidity_at_current_point` -/
theorem vesting_valid (p : LiquidityVestingInfoParams) (created : ℕ)
    (hvalid : p.validate created = .ok ()) (hzero : p.isZero = false) (liquidity timestamp : ℕ)
    (hpos : 0 < liquidity) (hfit : liquidity < 2 ^ 128)
    (htime : timestamp + max p.cliffDurationFromMigrationTime 1 < 2 ^ 64) :
    ∃ v, p.toLiquidityVestingInfo.getDammV2VestingParameters liquidity timestamp = .ok v ∧
      v.validateVestingParameters timestamp MAX_LOCK_DURATION_IN_SECONDS = .ok () ∧
      v.getVestingTotalLockAmount = .ok liquidity ∧
      (∀ now, ∃ unlocked, v.getMaxUnlockedLiquidityAtCurrentPoint now = .ok unlocked ∧
        unlocked ≤ liquidity) ∧
      (∀ now later unlocked unlocked', now ≤ later →
        v.getMaxUnlockedLiquidityAtCurrentPoint now = .ok unlocked →
        v.getMaxUnlockedLiquidityAtCurrentPoint later = .ok unlocked' → unlocked ≤ unlocked') ∧
      ∃ last, last ≤ timestamp + MAX_LOCK_DURATION_IN_SECONDS ∧
        ∀ now, last ≤ now → v.getMaxUnlockedLiquidityAtCurrentPoint now = .ok liquidity := by
  obtain ⟨whole, hlarge, hwhole, hbps⟩ := validate_spec hvalid hzero
  have hle : p.toLiquidityVestingInfo.perPeriod liquidity * p.numberOfPeriods ≤ liquidity :=
    LiquidityVestingInfo.perPeriod_mul_le (.inr hbps)
  have hlockable : (p.toLiquidityVestingInfo.vestingParameters liquidity timestamp).Lockable
      (p.toLiquidityVestingInfo.cliffSeconds liquidity) MAX_LOCK_DURATION_IN_SECONDS :=
    LiquidityVestingInfo.lockable_of_lockable hlarge hwhole hle hpos hfit
  have htotal : (p.toLiquidityVestingInfo.vestingParameters liquidity timestamp).totalLock =
      liquidity := LiquidityVestingInfo.totalLock_vestingParameters hle
  have hmul : p.bpsPerPeriod * p.numberOfPeriods < 2 ^ 16 := hbps.trans_lt (by decide)
  have hparameters : p.toLiquidityVestingInfo.getDammV2VestingParameters liquidity timestamp =
      .ok (p.toLiquidityVestingInfo.vestingParameters liquidity timestamp) :=
    LiquidityVestingInfo.getDammV2VestingParameters_ok timestamp hmul (.inr hbps) hfit htime
  set v := p.toLiquidityVestingInfo.vestingParameters liquidity timestamp
  set cliff := p.toLiquidityVestingInfo.cliffSeconds liquidity
  have hcliff : v.cliffPoint = some (timestamp + cliff) := rfl
  have hunlocked : ∀ now, v.getMaxUnlockedLiquidityAtCurrentPoint now =
      .ok (v.unlockedAt (timestamp + cliff) now) := fun now =>
    DammV2VestingParameters.getMaxUnlocked_eq hcliff hlockable.totalFits
  refine ⟨v, hparameters, (DammV2VestingParameters.validateVestingParameters_iff hcliff).mpr
    hlockable, ?_, ?_, ?_, timestamp + cliff + v.periodsDuration, ?_, ?_⟩
  · exact DammV2VestingParameters.getVestingTotalLockAmount_eq_ok.mpr
      ⟨hlockable.totalFits, htotal.symm⟩
  · intro now
    refine ⟨_, hunlocked now, ?_⟩
    rw [← htotal]
    exact DammV2VestingParameters.unlockedAt_le_totalLock
  · intro now later unlocked unlocked' hlater hnow hthen
    obtain rfl := Except.ok.inj ((hunlocked now).symm.trans hnow)
    obtain rfl := Except.ok.inj ((hunlocked later).symm.trans hthen)
    exact DammV2VestingParameters.unlockedAt_mono hlater
  · have := hlockable.duration
    omega
  · intro now hnow
    rw [hunlocked now, DammV2VestingParameters.unlockedAt_eq_totalLock
      (fun hn => (hlockable.periods hn).1) hnow, htotal]

/-- Five periods of a tenth, without a cliff, on an amount whose periods are worth nothing. -/
theorem vesting_valid_seven :
    ∃ v, (toLiquidityVestingInfo ⟨100, 1000, 5, 0, 60⟩).getDammV2VestingParameters 7 1000 = .ok v ∧
      v.validateVestingParameters 1000 MAX_LOCK_DURATION_IN_SECONDS = .ok () ∧
      v.getVestingTotalLockAmount = .ok 7 := by
  obtain ⟨v, hv, hvalid, htotal, -⟩ := vesting_valid ⟨100, 1000, 5, 0, 60⟩ 0
    (by decide +kernel)
    (by decide) 7 1000 (by decide) (by decide) (by decide)
  exact ⟨v, hv, hvalid, htotal⟩

end LiquidityVestingInfoParams

end DynamicBondingCurve
