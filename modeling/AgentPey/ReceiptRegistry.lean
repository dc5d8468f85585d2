import AgentPey.Soroban
import AgentPey.Store
import AgentPey.Traces

/-!
The receipt registry: `contracts/receipt-registry/src/lib.rs`. A merchant anchors
the hash of a receipt with its amount, and nobody can anchor that hash again.
Storage rent has no effect on what the calls compute and is left out.
-/
namespace AgentPey.ReceiptRegistry
open Soroban Store

def MAX_ORDER_REF_LEN : Nat := 64

inductive Error where
  | AlreadyAnchored
  | InvalidAmount
  | InvalidOrderRef
  deriving DecidableEq, Repr

structure ReceiptRecord where
  merchant : Address
  amount : Int
  order_ref : Bytes
  ledger : UInt32
  timestamp : UInt64
  deriving DecidableEq

inductive Event where
  | ReceiptAnchored (merchant : Address) (hash : BytesN 32) (amount : Int) (order_ref : Bytes)
  deriving DecidableEq

/-- The ledger an invocation runs in: its time and number, and who has authorised it. -/
structure Env where
  timestamp : UInt64
  sequence : UInt32
  authorised : Address → Bool

/-- The contract's storage, and what the current invocation has published. -/
structure World where
  id : BytesN 32
  receipts : Keyed (BytesN 32) ReceiptRecord
  counts : Keyed Address UInt32
  events : List Event

/-- The registry has no constructor: it is empty when it is deployed. -/
def deploy (id : BytesN 32) : World := ⟨id, ∅, ∅, []⟩

def require_auth (env : Env) (a : Address) : Outcome Error PUnit :=
  failIf (env.authorised a = false) (.trap .unauthorized)

def get (w : World) (hash : BytesN 32) : Option ReceiptRecord := w.receipts.lookup hash

def count (w : World) (merchant : Address) : UInt32 := (w.counts.lookup merchant).getD 0

def set_receipt (w : World) (hash : BytesN 32) (record : ReceiptRecord) : World :=
  { w with receipts := w.receipts.insert hash record }

def set_count (w : World) (merchant : Address) (n : UInt32) : World := { w with counts := w.counts.insert merchant n }

def publish (w : World) (event : Event) : World := { w with events := w.events ++ [event] }

/-- `u32` addition as the contract is built: with overflow checks. -/
def add_one (n : UInt32) : Outcome Error UInt32 := do
  failIf (n.toNat + 1 = UInt32.size) (.trap .overflow)
  pure (n + 1)

/-- A record as `anchor` makes it. -/
def anchored (env : Env) (merchant : Address) (amount : Int) (order_ref : Bytes) : ReceiptRecord where
  merchant := merchant
  amount := amount
  order_ref := order_ref
  ledger := env.sequence
  timestamp := env.timestamp

def anchor (env : Env) (w : World) (hash : BytesN 32) (merchant : Address) (amount : Int) (order_ref : Bytes) :
    Outcome Error World := do
  require_auth env merchant
  failIf (amount ≤ 0) (.error .InvalidAmount)
  failIf (order_ref = [] ∨ MAX_ORDER_REF_LEN < order_ref.length) (.error .InvalidOrderRef)
  failIf ((get w hash).isSome) (.error .AlreadyAnchored)
  let w := set_receipt w hash (anchored env merchant amount order_ref)
  let n ← add_one (count w merchant)
  let w := set_count w merchant n
  pure (publish w (.ReceiptAnchored merchant hash amount order_ref))

/-- A call of `anchor` by anybody: it starts with nothing published. -/
def invoke (env : Env) (w : World) (hash : BytesN 32) (merchant : Address) (amount : Int) (order_ref : Bytes) :
    Outcome Error World := anchor env { w with events := [] } hash merchant amount order_ref

variable {env : Env} {hash : BytesN 32} {merchant : Address} {amount : Int} {order_ref : Bytes}

/-- What a call that succeeds has done: the merchant has authorised it, and the hash was free. -/
theorem invoke_effect {w w' : World} (ran : invoke env w hash merchant amount order_ref = .ok w') :
    env.authorised merchant = true ∧ 0 < amount ∧ get w hash = none ∧ w'.id = w.id ∧
      w'.receipts = w.receipts.insert hash (anchored env merchant amount order_ref) := by
  simp only [invoke, anchor, require_auth, bind_eq_ok, failIf_eq_ok] at ran
  obtain ⟨_, authorised, _, positive, _, _, _, free, n, _, made⟩ := ran
  cases made
  refine ⟨by simpa using authorised, by omega, ?_, rfl, rfl⟩
  simpa [get] using free

/-- Whoever holds a record of the registry holds it for ever. -/
theorem get_kept {w w' : World} {other : BytesN 32} (ran : invoke env w hash merchant amount order_ref = .ok w')
    {record : ReceiptRecord} (found : get w other = some record) : get w' other = some record := by
  obtain ⟨_, _, free, _, receipts⟩ := invoke_effect ran
  rw [get, receipts, lookup_insert]
  by_cases same : other = hash
  · rw [same, free] at found
    cases found
  · rw [if_neg same]
    exact found

end AgentPey.ReceiptRegistry
