import DynamicBondingCurve.State.VirtualPool

/-!
# A pool with its vaults

The instructions of the program act on the account of a pool, on its two vaults, on the mint of
the base token and on the clock. `World` holds all of them for one pool, together with the list
of what its instructions did to the outside.

* `Deployment`: what is fixed when the pool is created.
* `World.receive`, `World.pay`: transfers into and out of the vaults.
* `Effect`, `paidTotal`: the transfers made so far, added up by what they were for.
-/

namespace DynamicBondingCurve

open Library

/-- What is fixed for the whole life of a pool.
Source: `state/virtual_pool.rs` `PoolState` `config`, `base_mint`; `VirtualPool` and
`TransferHookPool`, the two types of account -/
structure Deployment where
  config : PoolConfig
  isTransferHookPool : Bool
  baseMint : Pubkey
  deriving DecidableEq, Repr

/-- What a transfer into or out of a vault is for.
Source: the calls of `transfer_token_from_user` and `transfer_token_from_pool_authority`, and
the calls of other programs that move tokens of a vault -/
inductive Purpose where
  | swapInput
  | swapOutput
  | referralFee
  | partnerTradingFee
  | creatorTradingFee
  | protocolFee
  | partnerSurplus
  | creatorSurplus
  | partnerMigrationFee
  | creatorMigrationFee
  | lockedVesting
  | migration
  | burn
  | leftover
  deriving DecidableEq, Repr

/-- The purposes of the transfers made by a swap.
Source: `instructions/swap/process_swap.rs` `process_swap`, its transfers -/
def Purpose.IsSwap (u : Purpose) : Prop := u = .swapInput ∨ u = .swapOutput ∨ u = .referralFee

/-- What an instruction did to the outside.
Source: the calls of other programs made by the instructions, and the writes of
`finish_curve_timestamp` -/
inductive Effect where
  | received (token : Token) (purpose : Purpose) (amount : ℕ)
  | paid (token : Token) (purpose : Purpose) (amount : ℕ)
  | finishCurveTimestamp (timestamp : ℕ)
  | transferHookRevoked
  | escrowCreated (schedule : CreateVestingEscrowParameters) (amount : ℕ)
  | poolCreated (protocolBaseFee protocolQuoteFee : ℕ)
  deriving DecidableEq, Repr

/-- A pool, its vaults, the mint of its base token and the clock; the effects stand with the
newest first.
Source: `state/virtual_pool.rs` `PoolState` `base_vault`, `quote_vault`, `base_mint`; the clock
of the runtime -/
structure World where
  pool : PoolState
  baseVault : ℕ
  quoteVault : ℕ
  baseSupply : ℕ
  isTransferHookRevoked : Bool
  slot : ℕ
  timestamp : ℕ
  effects : List Effect
  deriving DecidableEq, Repr

namespace World

variable (w : World)

/-! ## Transfers -/

/-- The balance of a vault.
Source: the balance of the token account of a vault -/
def vault : Token → ℕ
  | .base => w.baseVault
  | .quote => w.quoteVault

/-- The world with one more effect. -/
def record (e : Effect) : World := { w with effects := e :: w.effects }

/-- A transfer into a vault. The supply of a token fits its integer type, so the vault does.
Source: `utils/token.rs` `transfer_token_from_user` -/
def receive (token : Token) (purpose : Purpose) (amount : ℕ) : World :=
  match token with
  | .base => { w with
      baseVault := w.baseVault + amount
      effects := .received .base purpose amount :: w.effects }
  | .quote => { w with
      quoteVault := w.quoteVault + amount
      effects := .received .quote purpose amount :: w.effects }

/-- The world after a transfer out of a vault.
Source: `utils/token.rs` `transfer_token_from_pool_authority` -/
def paid (token : Token) (purpose : Purpose) (amount : ℕ) : World :=
  match token with
  | .base => { w with
      baseVault := w.baseVault - amount
      effects := .paid .base purpose amount :: w.effects }
  | .quote => { w with
      quoteVault := w.quoteVault - amount
      effects := .paid .quote purpose amount :: w.effects }

/-- A transfer out of a vault, which fails when the vault holds less.
Source: `utils/token.rs` `transfer_token_from_pool_authority` -/
def pay (token : Token) (purpose : Purpose) (amount : ℕ) : Result World := do
  require (amount ≤ w.vault token) (Fault.insufficientFunds token)
  pure (w.paid token purpose amount)

/-- The transfer of an amount that may be nothing.
Source: `instructions/partner/ix_claim_partner_trading_fee.rs`, the conditions on its two
transfers -/
def payPositive (token : Token) (purpose : Purpose) (amount : ℕ) : Result World :=
  if amount > 0 then w.pay token purpose amount else pure w

/-- The time of a pool, in slots or in seconds.
Source: `utils/activation_handler.rs` `get_current_point` -/
def getCurrentPoint (activationType : ℕ) : Result ℕ := do
  let activationType ← orThrow (ActivationType.tryFrom activationType)
    (Fault.error .invalidActivationType)
  pure (match activationType with
    | .slot => w.slot
    | .timestamp => w.timestamp)

/-- The world with another state of the pool. -/
def withPool (p : PoolState) : World := { w with pool := p }

end World

/-! ## What was paid so far -/

/-- What an effect pays out of a vault for a purpose. -/
def Effect.paidAmount (token : Token) (purpose : Purpose) : Effect → ℕ
  | .paid t u amount => if t = token ∧ u = purpose then amount else 0
  | _ => 0

/-- What was paid out of a vault for a purpose. -/
def paidTotal (token : Token) (purpose : Purpose) (effects : List Effect) : ℕ :=
  (effects.map (Effect.paidAmount token purpose)).sum

/-- Whether an effect is a payment out of a vault for a purpose. -/
def Effect.isPaid (token : Token) (purpose : Purpose) : Effect → Bool
  | .paid t u _ => t = token ∧ u = purpose
  | _ => false

/-- How often a vault paid for a purpose. -/
def paidCount (token : Token) (purpose : Purpose) (effects : List Effect) : ℕ :=
  effects.countP (Effect.isPaid token purpose)

section Totals

variable {token : Token} {purpose : Purpose}

/-- Nothing is paid before the first effect. -/
@[simp] theorem paidTotal_nil : paidTotal token purpose [] = 0 := rfl

/-- What is paid, one effect after another. -/
@[simp] theorem paidTotal_cons (e : Effect) (es : List Effect) :
    paidTotal token purpose (e :: es) = e.paidAmount token purpose + paidTotal token purpose es :=
  rfl

/-- No payment is made before the first effect. -/
@[simp] theorem paidCount_nil : paidCount token purpose [] = 0 := rfl

/-- The payments, one effect after another. -/
@[simp] theorem paidCount_cons (e : Effect) (es : List Effect) :
    paidCount token purpose (e :: es) =
      paidCount token purpose es + if e.isPaid token purpose then 1 else 0 :=
  List.countP_cons

end Totals

namespace World

variable {w w' : World} {token : Token} {purpose : Purpose} {amount : ℕ}

/-- A payment is made exactly when the vault holds it.
Source: `utils/token.rs` `transfer_token_from_pool_authority` -/
theorem pay_eq_ok : w.pay token purpose amount = .ok w' ↔
    amount ≤ w.vault token ∧ w.paid token purpose amount = w' := by
  simp only [pay, bind_eq_ok, exists_unit, require_eq_ok, pure_eq_ok]

end World

end DynamicBondingCurve
