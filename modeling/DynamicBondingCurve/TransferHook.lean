import DynamicBondingCurve.Backing

/-!
# The transfer hook of a pool

A pool with a transfer hook revokes it in the swap that raises its threshold, and nowhere else. A
sale that its deadline ends leaves the hook in place, and closes the claim of the base fees.

* `HookRevoked`, `HookRevoked.of_transition`: the hook is revoked exactly when the threshold is
  raised.
* `HookSafe`: no base moves past a hook after the sale, and the base fees can be claimed.
* `hookSafe_iff_of_hookRevoked`: between the deadline and the threshold it is not, and nowhere else.
* `Launch.hookSafe_iff`: **a pool is safe exactly when its threshold is raised by its deadline.**
-/

namespace DynamicBondingCurve

open Library

/-! ## The hook is revoked with the threshold -/

/-- The hook is revoked exactly when the threshold of a pool with a hook is raised.
Source: `instructions/swap/process_swap.rs` `process_swap`, the call of `revoke_transfer_hook` -/
def HookRevoked (d : Deployment) (w : World) : Prop :=
  w.isTransferHookRevoked =
    (d.isTransferHookPool && w.pool.isCurveComplete d.config.migrationQuoteThreshold)

section Steps

variable {d : Deployment} {w w' : World} {a : Action}

/-- The swap that raises the threshold revokes the hook, and no other move touches either.
Source: `instructions/swap/process_swap.rs` `process_swap`, `curve_complete` -/
theorem HookRevoked.of_transition (hw : HookRevoked d w) (h : Transition d w a w') :
    HookRevoked d w' := by
  unfold HookRevoked at hw ⊢
  rcases h.quiet_or with hq | ⟨_, _, mid, trade, completion⟩ | ⟨_, move⟩ | ⟨_, move⟩
  · rw [hq.isTransferHookRevoked, hw, PoolState.isCurveComplete, PoolState.isCurveComplete,
      PoolState.totalQuoteReserve, PoolState.totalQuoteReserve, hq.quoteReserve,
      hq.virtualQuoteReserve]
  · have hincomplete : w.pool.isCurveComplete d.config.migrationQuoteThreshold = false := by
      have hopen := trade.isOpen
      simp only [PoolState.isSaleComplete, Bool.or_eq_false_iff] at hopen
      exact hopen.1
    have hmid : mid.isTransferHookRevoked = false := by
      rw [trade.isTransferHookRevoked, hw, hincomplete, Bool.and_false]
    cases completion with
    | «open» incomplete => rw [hmid, incomplete, Bool.and_false]
    | complete complete =>
      have hsame : (d.completed mid).pool.isCurveComplete d.config.migrationQuoteThreshold =
          true := complete
      rw [hsame, Bool.and_true]
      simp only [Deployment.completed, hmid, Bool.false_or]
  · rw [move.eq]
    exact hw
  · rw [move.eq]
    exact hw

/-! ## What the hook must not stand in the way of -/

/-- After the sale the base is not moved past a hook: neither by the migration, once it passes
its checks on the progress and on the end of the sale, nor by the locker; and the claim of the
base fees of the protocol is open.
Source: `ix_initialize_virtual_pool_with_token2022_transfer_hook.rs`, the comment on
`InitializeVirtualPoolWithToken2022TransferHookCtx`;
`instructions/operator/ix_claim_protocol_fee2.rs` `handle_claim_protocol_fee2`, the comment
"transfer hook is revoked on curve completion" -/
structure HookSafe (d : Deployment) (w : World) : Prop where
  migration : d.checkMigrationProgress w = .ok () → w.isTransferHookRevoked = true
  locker : ∀ isAccepted w', d.createLocker w isAccepted = .ok w' → w.isTransferHookRevoked = true
  claim : SaleOver d w → ∀ maxAmount,
    d.claimProtocolFee2 w true maxAmount ≠ .error (.error .poolIsIncompleted)

/-- The deadline does not end the sale before the threshold is raised.
Source: `state/virtual_pool.rs` `is_deadline_reached`, `is_curve_complete` -/
def RaisedByDeadline (d : Deployment) (w : World) : Prop :=
  w.pool.isDeadlineReached w.timestamp = true →
    w.pool.isCurveComplete d.config.migrationQuoteThreshold = true

/-- A payment fails only when the vault holds too little.
Source: `utils/token.rs` `transfer_token_from_pool_authority` -/
theorem payPositive_eq_error {token : Token} {purpose : Purpose} {amount : ℕ} {e : Fault}
    (h : w.payPositive token purpose amount = .error e) : e = .insufficientFunds token := by
  unfold World.payPositive World.pay require at h
  split_ifs at h
  · cases h
  · cases h
    rfl
  · cases h

/-- Claiming the base fees of the protocol fails on an overflow only.
Source: `state/virtual_pool.rs` `claim_protocol_base_fee` -/
theorem claimProtocolBaseFee_eq_error {p : PoolState} {maxAmount : ℕ} {e : Fault}
    (h : p.claimProtocolBaseFee maxAmount = .error e) : e = .error .mathOverflow := by
  simp only [PoolState.claimProtocolBaseFee, safeSub, safeAdd, min_le_left, min_le_right,
    if_true, ok_bind] at h
  split_ifs at h with hfit
  · cases h
  · cases h
    rfl

/-- The payment of the base fees of the protocol never finds the pool incomplete.
Source: `state/virtual_pool.rs` `claim_protocol_base_fee` and the transfer after it -/
theorem payProtocolBaseFee_ne_incompleted (maxAmount : ℕ) :
    Deployment.payProtocolBaseFee w maxAmount ≠ .error (.error .poolIsIncompleted) := by
  intro h
  simp only [Deployment.payProtocolBaseFee, bind_eq_error] at h
  rcases h with hclaim | ⟨_, _, hpay⟩
  · cases claimProtocolBaseFee_eq_error hclaim
  · cases payPositive_eq_error hpay

/-- **Between the deadline and the threshold the hook stands in the way, and nowhere else.**
Source: `instructions/swap/process_swap.rs` `process_swap`, `curve_complete`;
`migrate_damm_v2_initialize_pool.rs` `handle_migrate_damm_v2`, `can_migrate_after_deadline` -/
theorem hookSafe_iff_of_hookRevoked (hhook : d.isTransferHookPool = true) (hw : HookRevoked d w)
    (hended : ProgressEnded d w) : HookSafe d w ↔ RaisedByDeadline d w := by
  have hrevoked : w.isTransferHookRevoked =
      w.pool.isCurveComplete d.config.migrationQuoteThreshold := by
    rw [hw, hhook, Bool.true_and]
  constructor
  · intro hsafe hdeadline
    by_contra hincomplete
    have hover : SaleOver d w := isSaleComplete_iff.mpr (.inr hdeadline)
    refine hsafe.claim hover 0 ?_
    simp [Deployment.claimProtocolFee2, hhook, ensure, require, hincomplete, bind, Except.bind]
  · intro hraised
    have hcomplete (hover : SaleOver d w) :
        w.pool.isCurveComplete d.config.migrationQuoteThreshold = true :=
      (isSaleComplete_iff.mp hover).elim id hraised
    refine ⟨fun hmigrate => ?_, fun isAccepted w' hlocker => ?_, fun hover maxAmount => ?_⟩
    · simp only [Deployment.checkMigrationProgress, bind_eq_ok, exists_unit,
        require_eq_ok] at hmigrate
      rw [hrevoked]
      exact hcomplete (isSaleComplete_iff.mpr hmigrate.2)
    · rw [hrevoked]
      obtain ⟨_, move⟩ := createLocker_spec hlocker
      rcases move.progress with hpost | hdead
      · exact hcomplete (hended (by rw [hpost]; decide))
      · exact hraised (progress_eq_of_canCreateLockerAfterDeadline hdead).2.2
    · have hok := hcomplete hover
      have hsame : d.claimProtocolFee2 w true maxAmount =
          Deployment.payProtocolBaseFee w maxAmount := by
        simp [Deployment.claimProtocolFee2, hhook, ensure, require, hok, bind, Except.bind]
      rw [hsame]
      exact payProtocolBaseFee_ne_incompleted maxAmount

end Steps

/-! ## Launched pools -/

namespace Launch

variable (l : Launch) (actions : List Action)

/-- In every run the hook is revoked exactly when the threshold of a pool with a hook is raised.
Source: `instructions/swap/process_swap.rs` `process_swap`, `curve_complete` -/
theorem hookRevoked : HookRevoked l.deployment (l.after actions) := by
  refine invariant_of_transition (HookRevoked l.deployment)
    (fun _ _ _ => HookRevoked.of_transition) ?_
  have hincomplete := l.lifecycle_genesis.incomplete
  obtain ⟨activationPoint, _, hgenesis, _⟩ := l.genesis_eq
  rw [hgenesis] at hincomplete ⊢
  rw [HookRevoked, hincomplete rfl, Bool.and_false]
  rfl

/-- **A pool with a hook is safe exactly when its threshold is raised by its deadline**: then,
and only then, no base moves past the hook after the sale, and the base fees of the protocol can
be claimed.
Source: `instructions/swap/process_swap.rs` `process_swap`, the call of `revoke_transfer_hook`;
`migrate_damm_v2_initialize_pool.rs` `handle_migrate_damm_v2`; `create_locker.rs`
`handle_create_locker`; `instructions/operator/ix_claim_protocol_fee2.rs`
`handle_claim_protocol_fee2` -/
theorem hookSafe_iff (hhook : l.accepted.isTransferHook = true) :
    HookSafe l.deployment (l.after actions) ↔ RaisedByDeadline l.deployment (l.after actions) :=
  hookSafe_iff_of_hookRevoked hhook (l.hookRevoked actions) (l.lifecycle actions).ended

/-- A launch with a transfer hook and a deadline. -/
def hookLaunch : Launch :=
  (ofParameters { plainParameters (2 ^ 64) 1000000 [{ sqrtPrice := 2 ^ 65, liquidity := 2 ^ 90 }]
      with tokenType := 1 }
    true .token2022 100).get (by decide +kernel)

/-- A pool that has raised its threshold in time is safe. -/
theorem hookSafe_iff_hookLaunch :
    HookSafe hookLaunch.deployment (hookLaunch.after [.swap2WithTransferHook (buyOf 1 2000000 0)]) ↔
      RaisedByDeadline hookLaunch.deployment
        (hookLaunch.after [.swap2WithTransferHook (buyOf 1 2000000 0)]) :=
  hookLaunch.hookSafe_iff _ (by decide +kernel)

/-- A pool with a hook whose deadline passed after one buy migrates with its hook in place. -/
theorem hookSafe_false : ¬ ∀ l : Launch, l.accepted.isTransferHook = true → ∀ actions,
    HookSafe l.deployment (l.after actions) := by
  intro hall
  have hsafe := hall hookLaunch (by decide +kernel)
    [.swap2WithTransferHook (buyOf 0 100000 0), .pass 0 100]
  have hmigrate : hookLaunch.deployment.checkMigrationProgress (hookLaunch.after
      [.swap2WithTransferHook (buyOf 0 100000 0), .pass 0 100]) = .ok () := by
    decide +kernel
  have hrevoked := hsafe.migration hmigrate
  revert hrevoked
  decide +kernel

end Launch

end DynamicBondingCurve
