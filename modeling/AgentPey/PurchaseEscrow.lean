import AgentPey.Store
import AgentPey.Tokens
import AgentPey.Traces

/-!
The purchase escrow of one store: `contracts/purchase-escrow/src/lib.rs`, entry
point by entry point. The storage is a record, a call is a function from the
world before it to the world after it or to its failure, and `step` is what the
host makes of it: a failed call leaves the world as it was. Storage rent has no
effect on what the calls compute and is left out.
-/
namespace AgentPey.PurchaseEscrow
open Soroban Store Tokens

/-- `OPEN_DOMAIN`, the ASCII of "agentpey/purchase-escrow/open/v1". -/
def OPEN_DOMAIN : BytesN 32 :=
  ⟨[97, 103, 101, 110, 116, 112, 101, 121, 47, 112, 117, 114, 99, 104, 97, 115,
    101, 45, 101, 115, 99, 114, 111, 119, 47, 111, 112, 101, 110, 47, 118, 49], rfl⟩
def MAX_ORDER_REF_LEN : Nat := 64
def STORAGE_SCHEMA_VERSION : Nat := 1

inductive Error where
  | InvalidWindow
  | InvalidAmount
  | InvalidOrderRef
  | OrderAlreadyHeld
  | PaymentAlreadyHeld
  | InsufficientUnallocated
  | PurchaseNotFound
  | WrongStatus
  | ReleaseTooEarly
  | ClaimWindowClosed
  | MissingSignature
  | UnsupportedPayer
  | ResponseWindowClosed
  | ResponseWindowOpen
  | ResolveWindowClosed
  | ResolveWindowOpen
  | RefundExceedsAmount
  | NoRefundOwed
  | RefundUndeliverable
  | PayeeCannotReceive
  deriving DecidableEq, Repr

/-- The settings of one escrow, fixed for its life. -/
structure Config where
  operator : Address
  payee : Address
  arbiter : Address
  token : Address
  release_window : UInt64
  response_window : UInt64
  resolve_window : UInt64
  deriving DecidableEq

inductive Status where
  | Held
  | Shipped
  | Released
  | Disputed
  | Responded
  | Resolved
  | Expired
  deriving DecidableEq, Repr

structure Purchase where
  order_ref : Bytes
  payer : Address
  amount : Int
  tx_hash : BytesN 32
  receipt_hash : BytesN 32
  status : Status
  held_at : UInt64
  shipped_at : UInt64
  claim_hash : Option (BytesN 32)
  opened_at : UInt64
  response_hash : Option (BytesN 32)
  verdict_hash : Option (BytesN 32)
  refund : Int
  refund_owed : Int
  closed_at : UInt64
  deriving DecidableEq

inductive Event where
  | Held (order_ref : Bytes) (payer : Address) (amount : Int) (tx_hash receipt_hash : BytesN 32)
  | Shipped (order_ref : Bytes)
  | Released (order_ref : Bytes) (payee : Address) (amount : Int)
  | DisputeOpened (order_ref : Bytes) (payer : Address) (claim_hash : BytesN 32)
  | DisputeResponded (order_ref : Bytes) (response_hash : BytesN 32)
  | DisputeResolved (order_ref : Bytes) (verdict_hash : BytesN 32) (refund : Int)
  | DisputeExpired (order_ref : Bytes) (refund : Int)
  | RefundOwed (order_ref : Bytes) (payer : Address) (amount : Int)
  | RefundPaid (order_ref : Bytes) (payer : Address) (amount : Int)
  deriving DecidableEq

/-- Which party a transfer of the escrow is for: the payer and the payee of a
    purchase may share one address. -/
inductive Leg where
  | refund
  | payout
  deriving DecidableEq, Repr

structure Transfer where
  leg : Leg
  dst : Address
  amount : Int
  deriving DecidableEq

def Transfer.payment (t : Transfer) : Address × Int := (t.dst, t.amount)

/-- What the escrow is deployed on: the token contract at `Config.token` and the
    host's signature check. -/
structure Host where
  token : Token Address
  ed25519_verify : BytesN 32 → Bytes → BytesN 64 → Bool

/-- What one invocation sees of the ledger: its time, who has authorised it, and
    what `owner` answers on a rail (`none` when that call aborts). -/
structure Env where
  timestamp : UInt64
  authorised : Address → Bool
  owner : Address → Option (BytesN 32)

/-- The deployed contract and its token: the id of the contract, its storage, the
    state of the token, and what the current invocation has moved and published. -/
structure World (host : Host) where
  id : BytesN 32
  config : Config
  allocated : Int
  purchases : Keyed Bytes Purchase
  payments : Keyed (BytesN 32) Bytes
  token : host.token.State
  moved : List Transfer
  events : List Event

variable {host : Host}

def World.current_contract_address (w : World host) : Address := .contract w.id
def World.balance (w : World host) : Int := host.token.balance w.token w.current_contract_address

def require_auth (env : Env) (a : Address) : Outcome Error PUnit :=
  failIf (env.authorised a = false) (.trap .unauthorized)

def load (w : World host) (order_ref : Bytes) : Outcome Error Purchase :=
  okOr (w.purchases.lookup order_ref) (.error .PurchaseNotFound)

def save (w : World host) (purchase : Purchase) : World host :=
  { w with purchases := w.purchases.insert purchase.order_ref purchase }

def set_allocated (w : World host) (value : Int) : World host := { w with allocated := value }

def publish (w : World host) (event : Event) : World host := { w with events := w.events ++ [event] }

/-- `try_transfer` out of the contract: `none` when the token refuses. -/
def try_transfer (w : World host) (leg : Leg) (dst : Address) (amount : Int) : Option (World host) :=
  match host.token.transfer w.token w.current_contract_address dst amount with
  | some token => some { w with token, moved := w.moved ++ [⟨leg, dst, amount⟩] }
  | none => none

/-- `__constructor`, on a token that may already hold something for the new contract. -/
def construct (id : BytesN 32) (token : host.token.State) (operator payee arbiter tokenAddress : Address)
    (release_window response_window resolve_window : UInt64) : Outcome Error (World host) := do
  failIf (release_window = 0 ∨ response_window = 0 ∨ resolve_window = 0) (.error .InvalidWindow)
  let config : Config := ⟨operator, payee, arbiter, tokenAddress, release_window, response_window, resolve_window⟩
  pure ⟨id, config, 0, ∅, ∅, token, [], []⟩

def Deployed (w : World host) : Prop :=
  ∃ id token operator payee arbiter tokenAddress release_window response_window resolve_window,
    construct id token operator payee arbiter tokenAddress release_window response_window resolve_window = .ok w

def get (w : World host) (order_ref : Bytes) : Option Purchase := w.purchases.lookup order_ref

def by_tx (w : World host) (tx_hash : BytesN 32) : Option Purchase :=
  (w.payments.lookup tx_hash).bind (get w)

/-- What has arrived and no purchase has claimed yet. -/
def unallocated (w : World host) : Outcome Error Int := sub w.balance w.allocated

/-- A purchase as `hold` records it. -/
def fresh (order_ref : Bytes) (payer : Address) (amount : Int) (tx_hash receipt_hash : BytesN 32)
    (held_at : UInt64) : Purchase where
  order_ref := order_ref
  payer := payer
  amount := amount
  tx_hash := tx_hash
  receipt_hash := receipt_hash
  status := .Held
  held_at := held_at
  shipped_at := 0
  claim_hash := none
  opened_at := 0
  response_hash := none
  verdict_hash := none
  refund := 0
  refund_owed := 0
  closed_at := 0

def hold (env : Env) (w : World host) (order_ref : Bytes) (payer : Address) (amount : Int)
    (tx_hash receipt_hash : BytesN 32) : Outcome Error (World host) := do
  require_auth env w.config.operator
  failIf (order_ref = [] ∨ MAX_ORDER_REF_LEN < order_ref.length) (.error .InvalidOrderRef)
  failIf (amount ≤ 0) (.error .InvalidAmount)
  failIf ((w.purchases.lookup order_ref).isSome) (.error .OrderAlreadyHeld)
  failIf ((w.payments.lookup tx_hash).isSome) (.error .PaymentAlreadyHeld)
  let free ← unallocated w
  failIf (free < amount) (.error .InsufficientUnallocated)
  let allocated ← add w.allocated amount
  let w := set_allocated w allocated
  let w := save w (fresh order_ref payer amount tx_hash receipt_hash env.timestamp)
  let w := { w with payments := w.payments.insert tx_hash order_ref }
  pure (publish w (.Held order_ref payer amount tx_hash receipt_hash))

def mark_shipped (env : Env) (w : World host) (order_ref : Bytes) : Outcome Error (World host) := do
  require_auth env w.config.operator
  let purchase ← load w order_ref
  failIf (purchase.status ≠ .Held) (.error .WrongStatus)
  let w := save w { purchase with status := .Shipped, shipped_at := env.timestamp }
  pure (publish w (.Shipped order_ref))

def resolve_deadline (config : Config) (purchase : Purchase) : UInt64 :=
  saturating_add (saturating_add purchase.opened_at config.response_window) config.resolve_window

/-- The purchase `close` records. -/
def closedAs (purchase : Purchase) (status : Status) (refund owed : Int) (now : UInt64) : Purchase :=
  { purchase with status := status, refund := refund, refund_owed := owed, closed_at := now }

/-- The refund's transfer in `close`, and whether it was delivered. -/
def deliver (w : World host) (payer : Address) (refund : Int) : World host × Bool :=
  if refund = 0 then (w, true)
  else match try_transfer w .refund payer refund with
    | some w => (w, true)
    | none => (w, false)

/-- The store's part of an outcome: without a payee that can receive it the call fails. -/
def pay_store (w : World host) (to_store : Int) : Outcome Error (World host) :=
  if 0 < to_store then okOr (try_transfer w .payout w.config.payee to_store) (.error .PayeeCannotReceive)
  else .ok w

def publish_owed (w : World host) (purchase : Purchase) (owed : Int) : World host :=
  if 0 < owed then publish w (.RefundOwed purchase.order_ref purchase.payer owed) else w

/-- Pays `refund` to the payer, or keeps it owed when the payer cannot receive, and the
    rest to the payee. -/
def close (w : World host) (purchase : Purchase) (status : Status) (refund : Int) (now : UInt64) :
    Outcome Error (World host) := do
  let (w, delivered) := deliver w purchase.payer refund
  let owed := if delivered then 0 else refund
  let purchase := closedAs purchase status refund owed now
  let freed ← sub w.allocated purchase.amount
  let allocated ← add freed owed
  let w := save (set_allocated w allocated) purchase
  let to_store ← sub purchase.amount refund
  let w ← pay_store w to_store
  pure (publish_owed w purchase owed)

def release (env : Env) (w : World host) (order_ref : Bytes) : Outcome Error (World host) := do
  let purchase ← load w order_ref
  failIf (purchase.status ≠ .Shipped) (.error .WrongStatus)
  let now := env.timestamp
  failIf (now < saturating_add purchase.shipped_at w.config.release_window) (.error .ReleaseTooEarly)
  let w ← close w purchase .Released 0 now
  pure (publish w (.Released order_ref w.config.payee purchase.amount))

/-- The bytes a rail's owner signs: the domain, the contract's id, the claim hash,
    then the order reference, the only part of variable length. -/
def open_message (w : World host) (order_ref : Bytes) (claim_hash : BytesN 32) : Outcome Error Bytes :=
  match w.current_contract_address.to_payload with
  | some (.ContractIdHash id) => .ok (OPEN_DOMAIN.1 ++ id.1 ++ claim_hash.1 ++ order_ref)
  | _ => .error (.trap .panic)

/-- The first match of `open`: a dispute opens before the release window closes. -/
def may_open (config : Config) (purchase : Purchase) (now : UInt64) : Outcome Error PUnit :=
  match purchase.status with
  | .Held => .ok ⟨⟩
  | .Shipped => failIf (saturating_add purchase.shipped_at config.release_window ≤ now) (.error .ClaimWindowClosed)
  | _ => .error (.error .WrongStatus)

/-- The second match of `open`: the consent of an account, or of the owner of a rail. -/
def payer_consents (env : Env) (w : World host) (purchase : Purchase) (order_ref : Bytes)
    (claim_hash : BytesN 32) (sig : Option (BytesN 64)) : Outcome Error PUnit :=
  match purchase.payer.to_payload with
  | some (.AccountIdPublicKeyEd25519 _) => require_auth env purchase.payer
  | some (.ContractIdHash _) => do
    let sig ← okOr sig (.error .MissingSignature)
    let owner ← okOr (env.owner purchase.payer) (.trap .callFailed)
    let message ← open_message w order_ref claim_hash
    failIf (host.ed25519_verify owner message sig = false) (.trap .badSignature)
  | none => .error (.error .UnsupportedPayer)

/-- `open`: freezes the release, with the payer's own consent. -/
def openDispute (env : Env) (w : World host) (order_ref : Bytes) (claim_hash : BytesN 32)
    (sig : Option (BytesN 64)) : Outcome Error (World host) := do
  let purchase ← load w order_ref
  let now := env.timestamp
  may_open w.config purchase now
  payer_consents env w purchase order_ref claim_hash sig
  let w := save w { purchase with status := .Disputed, claim_hash := some claim_hash, opened_at := now }
  pure (publish w (.DisputeOpened order_ref purchase.payer claim_hash))

def respond (env : Env) (w : World host) (order_ref : Bytes) (response_hash : BytesN 32) :
    Outcome Error (World host) := do
  require_auth env w.config.payee
  let purchase ← load w order_ref
  failIf (purchase.status ≠ .Disputed) (.error .WrongStatus)
  failIf (saturating_add purchase.opened_at w.config.response_window < env.timestamp) (.error .ResponseWindowClosed)
  let w := save w { purchase with status := .Responded, response_hash := some response_hash }
  pure (publish w (.DisputeResponded order_ref response_hash))

/-- The match of `resolve`: the arbiter waits for the store, or for its window to close. -/
def may_resolve (config : Config) (purchase : Purchase) (now : UInt64) : Outcome Error PUnit :=
  match purchase.status with
  | .Responded => .ok ⟨⟩
  | .Disputed => failIf (now ≤ saturating_add purchase.opened_at config.response_window) (.error .ResponseWindowOpen)
  | _ => .error (.error .WrongStatus)

def resolve (env : Env) (w : World host) (order_ref : Bytes) (verdict_hash : BytesN 32) (refund : Int) :
    Outcome Error (World host) := do
  require_auth env w.config.arbiter
  let purchase ← load w order_ref
  let now := env.timestamp
  may_resolve w.config purchase now
  failIf (resolve_deadline w.config purchase < now) (.error .ResolveWindowClosed)
  failIf (refund < 0) (.error .InvalidAmount)
  failIf (purchase.amount < refund) (.error .RefundExceedsAmount)
  let w ← close w { purchase with verdict_hash := some verdict_hash } .Resolved refund now
  pure (publish w (.DisputeResolved order_ref verdict_hash refund))

def expire (env : Env) (w : World host) (order_ref : Bytes) : Outcome Error (World host) := do
  let purchase ← load w order_ref
  failIf (purchase.status ≠ .Disputed ∧ purchase.status ≠ .Responded) (.error .WrongStatus)
  let now := env.timestamp
  failIf (now ≤ resolve_deadline w.config purchase) (.error .ResolveWindowOpen)
  let refund := purchase.amount
  let w ← close w purchase .Expired refund now
  pure (publish w (.DisputeExpired order_ref refund))

def claim_refund (w : World host) (order_ref : Bytes) : Outcome Error (World host) := do
  let purchase ← load w order_ref
  let amount := purchase.refund_owed
  failIf (amount ≤ 0) (.error .NoRefundOwed)
  let w ← okOr (try_transfer w .refund purchase.payer amount) (.error .RefundUndeliverable)
  let allocated ← sub w.allocated amount
  let w := save (set_allocated w allocated) { purchase with refund_owed := 0 }
  pure (publish w (.RefundPaid order_ref purchase.payer amount))

/-! ### Runs -/

/-- The entry points that change the contract's state. -/
inductive Call where
  | hold (order_ref : Bytes) (payer : Address) (amount : Int) (tx_hash receipt_hash : BytesN 32)
  | mark_shipped (order_ref : Bytes)
  | release (order_ref : Bytes)
  | openDispute (order_ref : Bytes) (claim_hash : BytesN 32) (sig : Option (BytesN 64))
  | respond (order_ref : Bytes) (response_hash : BytesN 32)
  | resolve (order_ref : Bytes) (verdict_hash : BytesN 32) (refund : Int)
  | expire (order_ref : Bytes)
  | claim_refund (order_ref : Bytes)
  deriving DecidableEq

def Call.order_ref : Call → Bytes
  | .hold order_ref _ _ _ _ => order_ref
  | .mark_shipped order_ref => order_ref
  | .release order_ref => order_ref
  | .openDispute order_ref _ _ => order_ref
  | .respond order_ref _ => order_ref
  | .resolve order_ref _ _ => order_ref
  | .expire order_ref => order_ref
  | .claim_refund order_ref => order_ref

/-- The world as an invocation finds it: it has moved and published nothing yet. -/
def start (w : World host) : World host := { w with moved := [], events := [] }

def invoke (env : Env) (call : Call) (before : World host) : Outcome Error (World host) :=
  let w := start before
  match call with
  | .hold order_ref payer amount tx_hash receipt_hash => hold env w order_ref payer amount tx_hash receipt_hash
  | .mark_shipped order_ref => mark_shipped env w order_ref
  | .release order_ref => release env w order_ref
  | .openDispute order_ref claim_hash sig => openDispute env w order_ref claim_hash sig
  | .respond order_ref response_hash => respond env w order_ref response_hash
  | .resolve order_ref verdict_hash refund => resolve env w order_ref verdict_hash refund
  | .expire order_ref => expire env w order_ref
  | .claim_refund order_ref => claim_refund w order_ref

section
variable (w : World host)
include w

@[simp] theorem start_id : (start w).id = w.id := rfl

@[simp] theorem start_config : (start w).config = w.config := rfl
@[simp] theorem start_allocated : (start w).allocated = w.allocated := rfl
@[simp] theorem start_purchases : (start w).purchases = w.purchases := rfl
@[simp] theorem start_payments : (start w).payments = w.payments := rfl
@[simp] theorem start_token : (start w).token = w.token := rfl
@[simp] theorem start_moved : (start w).moved = [] := rfl
@[simp] theorem start_balance : (start w).balance = w.balance := rfl
@[simp] theorem start_current_contract_address : (start w).current_contract_address = w.current_contract_address := rfl

end

/-- What a run keeps of a successful call: its environment, its arguments and the
    transfers the token made for it. -/
structure Entry where
  env : Env
  call : Call
  moved : List Transfer

/-- A call by anybody, or anything that happens to the token outside the contract:
    transfers into it, and changes of who can receive. -/
inductive Action (host : Host) where
  | call (env : Env) (call : Call)
  | external (token : host.token.State)

/-- The host rolls a failed call back. Nothing outside takes tokens from the contract. -/
def step (w : World host) : Action host → World host × List Entry
  | .call env call =>
    match invoke env call w with
    | .ok after => (after, [⟨env, call, after.moved⟩])
    | .error _ => (w, [])
  | .external token =>
    if w.balance ≤ host.token.balance token w.current_contract_address then ({ w with token := token }, [])
    else (w, [])

def run (w : World host) (actions : List (Action host)) : World host × List Entry :=
  Traces.exec step w actions

/-! ### A deployment to run -/

def sampleId : BytesN 32 := filled 1
def sampleAddress (n : UInt8) : Address := .account (filled n)

/-- 100 units have arrived at the escrow, and every address but one can receive. -/
def sampleLedger : Ledger Address where
  balance a := if a = .contract sampleId then 100 else 0
  receives a := decide (a ≠ sampleAddress 9)
  nonneg a := by
    split_ifs <;> decide
  fits a := by
    split_ifs <;> decide

def sampleHash : BytesN 32 := filled 7

/-- The ledger token, and a check of signatures that start with their key and are of
    one message: the dispute of order 1 of the sample escrow. -/
def sampleHost : Host where
  token := ledgerToken Address
  ed25519_verify key message sig :=
    decide (sig.1.take 32 = key.1 ∧ message = OPEN_DOMAIN.1 ++ sampleId.1 ++ sampleHash.1 ++ [1])

def sampleConfig : Config :=
  ⟨sampleAddress 2, sampleAddress 3, sampleAddress 4, .contract ⟨List.replicate 32 5, rfl⟩, 10, 20, 30⟩

def sampleWorld : World sampleHost := ⟨sampleId, sampleConfig, 0, ∅, ∅, sampleLedger, [], []⟩

theorem sampleWorld_deployed : Deployed sampleWorld :=
  ⟨sampleId, sampleLedger, sampleAddress 2, sampleAddress 3, sampleAddress 4, .contract ⟨List.replicate 32 5, rfl⟩,
    10, 20, 30, rfl⟩

/-- Everybody authorises, and the owner of every rail is the key of ones. -/
def sampleEnv (timestamp : UInt64) : Env where
  timestamp := timestamp
  authorised _ := true
  owner _ := some (filled 1)

/-- Held, shipped and released, with the escrow itself as the payer. -/
def sampleRelease : List (Action sampleHost) :=
  [.call (sampleEnv 0) (.hold [1] (.contract sampleId) 60 sampleHash sampleHash),
    .call (sampleEnv 1) (.mark_shipped [1]), .call (sampleEnv 11) (.release [1])]

/-- The same balances after a payout of 30, when everybody can receive. -/
def sampleLedgerLater : Ledger Address where
  balance a := if a = .contract sampleId then 70 else if a = sampleAddress 3 then 30 else 0
  receives _ := true
  nonneg a := by
    split_ifs <;> decide
  fits a := by
    split_ifs <;> decide

/-- Held and disputed, judged with a refund of 20 that cannot be delivered yet, and
    collected when it can. -/
def sampleDispute : List (Action sampleHost) :=
  [.call (sampleEnv 0) (.hold [2] (sampleAddress 9) 50 sampleHash sampleHash),
    .call (sampleEnv 1) (.openDispute [2] sampleHash none), .call (sampleEnv 22) (.resolve [2] sampleHash 20),
    .call (sampleEnv 23) (.claim_refund [2]), .external sampleLedgerLater, .call (sampleEnv 24) (.claim_refund [2])]

end AgentPey.PurchaseEscrow
