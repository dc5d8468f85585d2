import AgentPey.Store
import AgentPey.Tokens
import AgentPey.Traces

/-!
Disputes over anchored receipts, paid from a merchant's guarantee:
`contracts/agent-resolve/src/lib.rs`, entry point by entry point. A guarantee is
money of a merchant that the contract holds; an open dispute locks part of it.
Storage rent has no effect on what the calls compute and is left out.
-/
namespace AgentPey.AgentResolve
open Soroban Store Tokens

inductive Error where
  | ReceiptNotAnchored
  | ClaimWindowClosed
  | InvalidAmount
  | AmountExceedsReceipt
  | AlreadyDisputed
  | InsufficientGuarantee
  | DisputeNotFound
  | AlreadyResolved
  | RefundExceedsClaim
  | InsufficientFree
  | InvalidWindow
  deriving DecidableEq, Repr

/-- The record that `receipt-registry` keeps for each receipt. -/
structure ReceiptRecord where
  merchant : Address
  amount : Int
  order_ref : Bytes
  ledger : UInt32
  timestamp : UInt64
  deriving DecidableEq

structure Config where
  arbiter : Address
  token : Address
  registry : Address
  claim_window : UInt64
  deriving DecidableEq

/-- What is held for a merchant, and the part that open disputes lock. -/
structure Guarantee where
  balance : Int
  locked : Int
  deriving DecidableEq

/-- `Guarantee::default()`. -/
def Guarantee.default : Guarantee := ⟨0, 0⟩

inductive Status where
  | Open
  | Resolved
  deriving DecidableEq, Repr

structure Dispute where
  merchant : Address
  payer : Address
  claim_hash : BytesN 32
  amount : Int
  opened_at : UInt64
  status : Status
  verdict_hash : Option (BytesN 32)
  refund : Int
  resolved_at : UInt64
  deriving DecidableEq

inductive Event where
  | Deposited (merchant src : Address) (amount : Int)
  | Withdrawn (merchant dst : Address) (amount : Int)
  | DisputeOpened (receipt : BytesN 32) (merchant payer : Address) (claim_hash : BytesN 32) (amount : Int)
  | DisputeResolved (receipt verdict_hash : BytesN 32) (refund : Int)
  deriving DecidableEq

/-- What one invocation sees of the ledger: its time, who has authorised it, and what
    `get` answers on the receipt registry (`none` when that call aborts). -/
structure Env where
  timestamp : UInt64
  authorised : Address → Bool
  receipt : BytesN 32 → Option (Option ReceiptRecord)

/-- The deployed contract on its token: the id of the contract, its storage, the
    state of the token, and what the current invocation has published. -/
structure World (token : Token Address) where
  id : BytesN 32
  config : Config
  guarantees : Keyed Address Guarantee
  disputes : Keyed (BytesN 32) Dispute
  token : token.State
  events : List Event

variable {token : Token Address}

def World.current_contract_address (w : World token) : Address := .contract w.id
def World.balance (w : World token) : Int := token.balance w.token w.current_contract_address

/-- An address that has authorised the call. The contract has no `__check_auth` and never
    calls itself, so for its own address the host finds no authorisation. -/
def require_auth (env : Env) (w : World token) (a : Address) : Outcome Error PUnit :=
  failIf (env.authorised a = false ∨ a = w.current_contract_address) (.trap .unauthorized)

/-- `__constructor`, on a token that may already hold something for the new contract. -/
def construct (id : BytesN 32) (state : token.State) (arbiter tokenAddress registry : Address)
    (claim_window : UInt64) : Outcome Error (World token) := do
  failIf (claim_window = 0) (.error .InvalidWindow)
  pure ⟨id, ⟨arbiter, tokenAddress, registry, claim_window⟩, ∅, ∅, state, []⟩

def Deployed (w : World token) : Prop :=
  ∃ id state arbiter tokenAddress registry claim_window,
    construct id state arbiter tokenAddress registry claim_window = .ok w

def guarantee (w : World token) (merchant : Address) : Guarantee :=
  (w.guarantees.lookup merchant).getD .default

def get (w : World token) (receipt : BytesN 32) : Option Dispute := w.disputes.lookup receipt

def save_guarantee (w : World token) (merchant : Address) (value : Guarantee) : World token :=
  { w with guarantees := w.guarantees.insert merchant value }

def save_dispute (w : World token) (receipt : BytesN 32) (dispute : Dispute) : World token :=
  { w with disputes := w.disputes.insert receipt dispute }

def publish (w : World token) (event : Event) : World token := { w with events := w.events ++ [event] }

/-- `transfer`: a token that refuses aborts the invocation. -/
def transfer (w : World token) (src dst : Address) (amount : Int) : Outcome Error (World token) := do
  let state ← okOr (token.transfer w.token src dst amount) (.trap .callFailed)
  pure { w with token := state }

def deposit (env : Env) (w : World token) (src merchant : Address) (amount : Int) :
    Outcome Error (World token) := do
  require_auth env w src
  failIf (amount ≤ 0) (.error .InvalidAmount)
  let w ← transfer w src w.current_contract_address amount
  let held := guarantee w merchant
  let balance ← add held.balance amount
  let w := save_guarantee w merchant { held with balance := balance }
  pure (publish w (.Deposited merchant src amount))

def withdraw (env : Env) (w : World token) (merchant dst : Address) (amount : Int) :
    Outcome Error (World token) := do
  require_auth env w merchant
  failIf (amount ≤ 0) (.error .InvalidAmount)
  let held := guarantee w merchant
  let free ← sub held.balance held.locked
  failIf (free < amount) (.error .InsufficientFree)
  let balance ← sub held.balance amount
  let w := save_guarantee w merchant { held with balance := balance }
  let w ← transfer w w.current_contract_address dst amount
  pure (publish w (.Withdrawn merchant dst amount))

/-- A dispute as `open` records it. -/
def opened (merchant payer : Address) (claim_hash : BytesN 32) (amount : Int) (now : UInt64) : Dispute where
  merchant := merchant
  payer := payer
  claim_hash := claim_hash
  amount := amount
  opened_at := now
  status := .Open
  verdict_hash := none
  refund := 0
  resolved_at := 0

/-- `open`: the merchant and the ceiling come from the anchored receipt. -/
def openDispute (env : Env) (w : World token) (receipt : BytesN 32) (payer : Address) (claim_hash : BytesN 32)
    (amount : Int) : Outcome Error (World token) := do
  require_auth env w w.config.arbiter
  failIf ((get w receipt).isSome) (.error .AlreadyDisputed)
  let answer ← okOr (env.receipt receipt) (.trap .callFailed)
  let record ← okOr answer (.error .ReceiptNotAnchored)
  let now := env.timestamp
  failIf (saturating_add record.timestamp w.config.claim_window < now) (.error .ClaimWindowClosed)
  failIf (amount ≤ 0) (.error .InvalidAmount)
  failIf (record.amount < amount) (.error .AmountExceedsReceipt)
  let merchant := record.merchant
  let held := guarantee w merchant
  let free ← sub held.balance held.locked
  failIf (free < amount) (.error .InsufficientGuarantee)
  let locked ← add held.locked amount
  let w := save_guarantee w merchant { held with locked := locked }
  let w := save_dispute w receipt (opened merchant payer claim_hash amount now)
  pure (publish w (.DisputeOpened receipt merchant payer claim_hash amount))

/-- A dispute as `resolve` leaves it. -/
def resolved (dispute : Dispute) (verdict_hash : BytesN 32) (refund : Int) (now : UInt64) : Dispute :=
  { dispute with status := .Resolved, verdict_hash := some verdict_hash, refund := refund, resolved_at := now }

def pay_refund (w : World token) (payer : Address) (refund : Int) : Outcome Error (World token) :=
  if 0 < refund then transfer w w.current_contract_address payer refund else .ok w

def resolve (env : Env) (w : World token) (receipt verdict_hash : BytesN 32) (refund : Int) :
    Outcome Error (World token) := do
  require_auth env w w.config.arbiter
  let dispute ← okOr (get w receipt) (.error .DisputeNotFound)
  failIf (dispute.status = .Resolved) (.error .AlreadyResolved)
  failIf (refund < 0) (.error .InvalidAmount)
  failIf (dispute.amount < refund) (.error .RefundExceedsClaim)
  let held := guarantee w dispute.merchant
  let locked ← sub held.locked dispute.amount
  let balance ← sub held.balance refund
  let w := save_guarantee w dispute.merchant ⟨balance, locked⟩
  let w := save_dispute w receipt (resolved dispute verdict_hash refund env.timestamp)
  let w ← pay_refund w dispute.payer refund
  pure (publish w (.DisputeResolved receipt verdict_hash refund))

/-! ### Runs -/

/-- The entry points that change the contract's state. -/
inductive Call where
  | deposit (src merchant : Address) (amount : Int)
  | withdraw (merchant dst : Address) (amount : Int)
  | openDispute (receipt : BytesN 32) (payer : Address) (claim_hash : BytesN 32) (amount : Int)
  | resolve (receipt verdict_hash : BytesN 32) (refund : Int)
  deriving DecidableEq

/-- The world as an invocation finds it: it has published nothing yet. -/
def start (w : World token) : World token := { w with events := [] }

def invoke (env : Env) (call : Call) (before : World token) : Outcome Error (World token) :=
  let w := start before
  match call with
  | .deposit src merchant amount => deposit env w src merchant amount
  | .withdraw merchant dst amount => withdraw env w merchant dst amount
  | .openDispute receipt payer claim_hash amount => openDispute env w receipt payer claim_hash amount
  | .resolve receipt verdict_hash refund => resolve env w receipt verdict_hash refund

/-- A call by anybody, or anything that happens to the token outside the contract. -/
inductive Action (token : Token Address) where
  | call (env : Env) (call : Call)
  | external (state : token.State)

/-- What a run keeps of a successful call. -/
structure Entry where
  env : Env
  call : Call

/-- The host rolls a failed call back. Nothing outside takes tokens from the contract. -/
def step (w : World token) : Action token → World token × List Entry
  | .call env call =>
    match invoke env call w with
    | .ok after => (after, [⟨env, call⟩])
    | .error _ => (w, [])
  | .external state =>
    if w.balance ≤ token.balance state w.current_contract_address then ({ w with token := state }, [])
    else (w, [])

def run (w : World token) (actions : List (Action token)) : World token × List Entry :=
  Traces.exec step w actions

/-! ### What one call does -/

/-- What a call that succeeds leaves. -/
inductive Effect (env : Env) (w : World token) : Call → World token → Prop
  | deposit {src merchant : Address} {amount : Int} {state : token.State} {events : List Event}
      (authorised : env.authorised src = true) (outside : src ≠ w.current_contract_address) (positive : 0 < amount)
      (moved : token.transfer w.token src w.current_contract_address amount = some state) :
      Effect env w (.deposit src merchant amount)
        { w with
          guarantees := w.guarantees.insert merchant
            ⟨(guarantee w merchant).balance + amount, (guarantee w merchant).locked⟩
          token := state
          events := events }
  | withdraw {merchant dst : Address} {amount : Int} {state : token.State} {events : List Event}
      (authorised : env.authorised merchant = true) (outside : merchant ≠ w.current_contract_address)
      (positive : 0 < amount) (free : amount ≤ (guarantee w merchant).balance - (guarantee w merchant).locked)
      (moved : token.transfer w.token w.current_contract_address dst amount = some state) :
      Effect env w (.withdraw merchant dst amount)
        { w with
          guarantees := w.guarantees.insert merchant
            ⟨(guarantee w merchant).balance - amount, (guarantee w merchant).locked⟩
          token := state
          events := events }
  | openDispute {receipt : BytesN 32} {payer : Address} {claim_hash : BytesN 32} {amount : Int}
      {record : ReceiptRecord} {events : List Event} (arbiter : env.authorised w.config.arbiter = true)
      (undisputed : get w receipt = none) (anchored : env.receipt receipt = some (some record))
      (inTime : env.timestamp ≤ saturating_add record.timestamp w.config.claim_window)
      (positive : 0 < amount) (within : amount ≤ record.amount)
      (free : amount ≤ (guarantee w record.merchant).balance - (guarantee w record.merchant).locked) :
      Effect env w (.openDispute receipt payer claim_hash amount)
        { w with
          guarantees := w.guarantees.insert record.merchant
            ⟨(guarantee w record.merchant).balance, (guarantee w record.merchant).locked + amount⟩
          disputes := w.disputes.insert receipt (opened record.merchant payer claim_hash amount env.timestamp)
          events := events }
  | resolve {receipt verdict_hash : BytesN 32} {refund : Int} {dispute : Dispute} {state : token.State}
      {events : List Event} (arbiter : env.authorised w.config.arbiter = true)
      (disputed : get w receipt = some dispute) (unresolved : dispute.status = .Open) (nonneg : 0 ≤ refund)
      (within : refund ≤ dispute.amount)
      (moved : (0 < refund ∧
          token.transfer w.token w.current_contract_address dispute.payer refund = some state) ∨
        (refund = 0 ∧ state = w.token)) :
      Effect env w (.resolve receipt verdict_hash refund)
        { w with
          guarantees := w.guarantees.insert dispute.merchant
            ⟨(guarantee w dispute.merchant).balance - refund, (guarantee w dispute.merchant).locked - dispute.amount⟩
          disputes := w.disputes.insert receipt (resolved dispute verdict_hash refund env.timestamp)
          token := state
          events := events }

section
variable {env : Env} {w w' : World token}

@[simp] theorem require_auth_eq_ok {a : Address} {u : PUnit} :
    require_auth env w a = .ok u ↔ env.authorised a = true ∧ a ≠ w.current_contract_address := by
  simp [require_auth]

variable {amount : Int} {receipt : BytesN 32}

@[simp] theorem transfer_eq_ok {src dst : Address} : transfer w src dst amount = .ok w' ↔
      ∃ state, token.transfer w.token src dst amount = some state ∧ w' = { w with token := state } := by
  simp only [transfer, bind_eq_ok, okOr_eq_ok]
  constructor
  · rintro ⟨state, moved, made⟩
    cases made
    exact ⟨state, moved, rfl⟩
  · rintro ⟨state, moved, rfl⟩
    exact ⟨state, moved, rfl⟩

theorem deposit_effect {src merchant : Address}
    (ran : deposit env (start w) src merchant amount = .ok w') : Effect env w (.deposit src merchant amount) w' := by
  simp only [deposit, bind_eq_ok, require_auth_eq_ok, failIf_eq_ok, transfer_eq_ok, add_eq_ok] at ran
  obtain ⟨_, ⟨authorised, outside⟩, _, positive, _, ⟨state, moved, rfl⟩, _, ⟨_, rfl⟩, made⟩ := ran
  cases made
  exact .deposit authorised outside (by omega) moved

theorem withdraw_effect {merchant dst : Address}
    (ran : withdraw env (start w) merchant dst amount = .ok w') : Effect env w (.withdraw merchant dst amount) w' := by
  simp only [withdraw, bind_eq_ok, require_auth_eq_ok, failIf_eq_ok, transfer_eq_ok, sub_eq_ok] at ran
  obtain ⟨_, ⟨authorised, outside⟩, _, positive, _, ⟨_, rfl⟩, _, free, _, ⟨_, rfl⟩, _, ⟨state, moved, rfl⟩, made⟩ := ran
  cases made
  exact .withdraw authorised outside (by omega) (Int.not_lt.mp free) moved

theorem openDispute_effect {payer : Address} {claim_hash : BytesN 32}
    (ran : openDispute env (start w) receipt payer claim_hash amount = .ok w') :
    Effect env w (.openDispute receipt payer claim_hash amount) w' := by
  simp only [openDispute, bind_eq_ok, require_auth_eq_ok, failIf_eq_ok, okOr_eq_ok, add_eq_ok, sub_eq_ok] at ran
  obtain ⟨_, ⟨arbiter, _⟩, _, undisputed, _, answered, record, rfl, _, inTime, _, positive, _, within, _, ⟨_, rfl⟩, _,
    free, _, ⟨_, rfl⟩, made⟩ := ran
  cases made
  exact .openDispute arbiter (Option.not_isSome_iff_eq_none.mp undisputed) answered (UInt64.not_lt.mp inTime)
    (by omega) (Int.not_lt.mp within) (Int.not_lt.mp free)

theorem resolve_effect {verdict_hash : BytesN 32} {refund : Int}
    (ran : resolve env (start w) receipt verdict_hash refund = .ok w') :
    Effect env w (.resolve receipt verdict_hash refund) w' := by
  simp only [resolve, bind_eq_ok, require_auth_eq_ok, failIf_eq_ok, okOr_eq_ok, sub_eq_ok] at ran
  obtain ⟨_, ⟨arbiter, _⟩, dispute, disputed, _, unresolved, _, nonneg, _, within, _, ⟨_, rfl⟩, _, ⟨_, rfl⟩, paid, moved,
    made⟩ := ran
  have standing : dispute.status = .Open := by
    cases isOpen : dispute.status with
    | Open => rfl
    | Resolved => exact absurd isOpen unresolved
  cases made
  by_cases positive : 0 < refund
  · rw [pay_refund, if_pos positive, transfer_eq_ok] at moved
    obtain ⟨state, moved, rfl⟩ := moved
    exact .resolve arbiter disputed standing (Int.not_lt.mp nonneg) (Int.not_lt.mp within) (.inl ⟨positive, moved⟩)
  · rw [pay_refund, if_neg positive] at moved
    cases moved
    exact .resolve arbiter disputed standing (Int.not_lt.mp nonneg) (Int.not_lt.mp within)
      (.inr ⟨by omega, rfl⟩)

theorem invoke_cases {call : Call} (ran : invoke env call w = .ok w') : Effect env w call w' := by
  cases call with
  | deposit src merchant amount => exact deposit_effect ran
  | withdraw merchant dst amount => exact withdraw_effect ran
  | openDispute receipt payer claim_hash amount => exact openDispute_effect ran
  | resolve receipt verdict_hash refund => exact resolve_effect ran

end

end AgentPey.AgentResolve
