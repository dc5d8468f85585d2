import AgentPey.EscrowRecords
import AgentPey.EscrowReleases
import AgentPey.ReceiptRegistry

/-!
The worker that records a store's sales on chain (`anchoring.ts`): first in the escrow a sale was paid into, then in the
receipt registry. It has one queue, which the store's other calls from its signing account go through too. Anybody may call
both contracts meanwhile, and a call may be reported as failed whether it landed or not. A change of an order is one act.
Hashes, addresses and references are what their texts name.
-/
namespace AgentPey.AnchorWorker
open Soroban Store Routines Disciplines Turns
open PurchaseEscrow (Host World Purchase)
open ReceiptRegistry (ReceiptRecord)
open EscrowReleases (HoldStatus escrowContractError)

/-! ### The records -/

structure OrderHold where
  status : HoldStatus
  attempts : Nat
  escrow : Address
  txHash : Option String
  ledger : Option Nat
  heldAt : Option Int
  lastError : Option String

inductive AnchorStatus where
  | pending
  | anchored
  | failed
  deriving DecidableEq, Repr

structure OrderAnchor where
  status : AnchorStatus
  attempts : Nat
  txHash : Option String
  ledger : Option Nat
  anchoredAt : Option Int
  lastError : Option String

/-- What the worker reads and writes of an order, beside the id that the store has it under. -/
structure OrderRecord where
  payer : Address
  amountUSDCAtomic : Int
  txHash : BytesN 32
  receipt : Option (BytesN 32)
  anchor : Option OrderAnchor
  hold : Option OrderHold

structure HoldInput where
  orderRef : Bytes
  payer : Address
  amount : Int
  txHash : BytesN 32
  receiptHash : BytesN 32
  deriving DecidableEq

structure AnchorInput where
  hash : BytesN 32
  amount : Int
  orderRef : Bytes
  deriving DecidableEq

structure Landed where
  txHash : String
  ledger : Nat

structure HoldResult where
  txHash : Option String
  ledger : Nat
  alreadyHeld : Bool

structure AnchorResult where
  txHash : Option String
  ledger : Nat
  alreadyAnchored : Bool

/-- Whether an order still has a step to do: a hold not yet held, or a receipt not yet anchored. -/
def needsWork (order : OrderRecord) : Bool :=
  match order.receipt, order.anchor with
  | some _, some anchor => anchor.status ≠ .anchored || order.hold.any fun hold => hold.status ≠ .held
  | _, _ => false

/-- The escrows, the registry, the store's orders with every version they had, the retries that are due later, the queue,
    and the settings, with those that the next start finds. -/
structure Store (host : Host) where
  escrows : Address → World host
  registry : ReceiptRegistry.World
  orders : Bytes → Option OrderRecord
  versions : List (Bytes × OrderRecord)
  timers : List (Bytes × Nat)
  chain : Queue
  stopped : Bool
  now : Int
  escrow : Option Address
  configured : Option Address

/-- An error, with the contract's own code if it names one. -/
structure Failure where
  message : String
  code : Option Nat

/-- A call of the escrow that the store's signing account sends in its turn. -/
inductive SignerWork where
  | markShipped (orderRef : Bytes)
  | release (orderRef : Bytes)

def SignerWork.call : SignerWork → PurchaseEscrow.Call
  | .markShipped orderRef => .mark_shipped orderRef
  | .release orderRef => .release orderRef

inductive Op where
  | before (n : Nat)
  | simulateHold (escrow : Address) (input : HoldInput)
  | sendHold (escrow : Address) (input : HoldInput)
  | payment (escrow : Address) (txHash : BytesN 32)
  | purchase (escrow : Address) (orderRef : Bytes)
  | simulateAnchor (input : AnchorInput)
  | sendAnchor (input : AnchorInput)
  | record (input : AnchorInput)
  | signed (escrow : Address) (work : SignerWork)
  | saved

abbrev Op.Answer : Op → Type
  | .before _ => Unit
  | .simulateHold _ _ => Unit
  | .sendHold _ _ => Landed
  | .payment _ _ => Option Bytes
  | .purchase _ _ => Option Purchase
  | .simulateAnchor _ => Unit
  | .sendAnchor _ => Landed
  | .record _ => Option ReceiptRecord
  | .signed _ _ => String
  | .saved => Unit

/-- How the network answers: a call may be refused, whether it landed or not. -/
structure Input where
  failure : Option Failure
  lands : Bool
  env : PurchaseEscrow.Env
  ledgerEnv : ReceiptRegistry.Env
  result : Landed

variable {host : Host}

abbrev Job (host : Host) := Routine (Store host) Op Failure Op.Answer

abbrev ask (o : Op) : Job host o.Answer := Routine.ask o

def slice (n : Nat) (text : String) : String := String.ofList (text.toList.take n)

/-! ### The client of the escrow -/

def isAlreadyHeld (error : Failure) : Bool := error.code = some 4 || error.code = some 5

/-- Whether a purchase on chain is exactly the hold that was asked for. -/
def sameHold (held : Purchase) (input : HoldInput) : Bool :=
  held.order_ref = input.orderRef && held.payer = input.payer && held.amount = input.amount && held.tx_hash = input.txHash &&
    held.receipt_hash = input.receiptHash

def byTx (escrow : Address) (txHash : BytesN 32) : Job host (Option Purchase) := do
  let ref ← ask (.payment escrow txHash)
  match ref with
  | none => pure none
  | some ref => ask (.purchase escrow ref)

def existingHold (escrow : Address) (input : HoldInput) : Job host HoldResult := do
  let held ← byTx escrow input.txHash
  match held with
  | some held =>
    if sameHold held input then pure ⟨none, 0, true⟩
    else .throws ⟨"this payment or order is already held as a different purchase", none⟩
  | none => .throws ⟨"this payment or order is already held as a different purchase", none⟩

def hold (escrow : Address) (input : HoldInput) : Job host HoldResult := do
  let prepared ← (ask (.simulateHold escrow input)).attempt
  match prepared with
  | .error error =>
    if isAlreadyHeld error then existingHold escrow input
    else .throws ⟨"simulation of hold failed: " ++ slice 300 error.message, none⟩
  | .ok _ =>
    let sent ← ask (.sendHold escrow input)
    pure ⟨some sent.txHash, sent.ledger, false⟩

/-! ### The client of the registry -/

def isAlreadyAnchored (error : Failure) : Bool := error.code = some 1

def existingAnchor (input : AnchorInput) : Job host AnchorResult := do
  let record ← ask (.record input)
  match record with
  | none => .throws ⟨"contract reported AlreadyAnchored but the record is not readable", none⟩
  | some record => pure ⟨none, record.ledger.toNat, true⟩

def anchor (input : AnchorInput) : Job host AnchorResult := do
  let prepared ← (ask (.simulateAnchor input)).attempt
  match prepared with
  | .error error =>
    if isAlreadyAnchored error then existingAnchor input
    else .throws ⟨"simulation of anchor failed: " ++ slice 300 error.message, none⟩
  | .ok _ =>
    let sent ← ask (.sendAnchor input)
    pure ⟨some sent.txHash, sent.ledger, false⟩

/-! ### The worker -/

/-- `update` of an order that is there. -/
def Store.update (s : Store host) (orderId : Bytes) (change : OrderRecord → OrderRecord) : Store host :=
  match s.orders orderId with
  | none => s
  | some order =>
    { s with
      orders := Function.update s.orders orderId (some (change order))
      versions := s.versions ++ [(orderId, change order)] }

def Store.retryIn (s : Store host) (orderId : Bytes) (delay : Nat) : Store host :=
  if s.stopped then s else { s with timers := s.timers ++ [(orderId, delay)] }

def heldAs (attempt : Nat) (now : Int) (result : HoldResult) (order : OrderRecord) : OrderRecord :=
  { order with
    hold := order.hold.map fun hold =>
      { hold with
        status := .held
        attempts := attempt
        heldAt := some now
        ledger := if result.alreadyHeld then hold.ledger else some result.ledger
        txHash := result.txHash.or hold.txHash
        lastError := none } }

def holdFailed (attempt : Nat) (delay : Option Nat) (error : Failure) (order : OrderRecord) : OrderRecord :=
  { order with
    hold := order.hold.map fun hold =>
      { hold with
        status := if delay.isNone then .failed else .pending
        attempts := attempt
        lastError := some (slice 500 error.message) } }

def anchoredAs (attempt : Nat) (now : Int) (result : AnchorResult) (order : OrderRecord) : OrderRecord :=
  { order with
    anchor := order.anchor.map fun anchor =>
      { anchor with
        status := .anchored
        attempts := attempt
        ledger := some result.ledger
        anchoredAt := some now
        txHash := result.txHash.or anchor.txHash
        lastError := none } }

def anchorFailed (attempt : Nat) (delay : Option Nat) (error : Failure) (order : OrderRecord) : OrderRecord :=
  { order with
    anchor := order.anchor.map fun anchor =>
      { anchor with
        status := if delay.isNone then .failed else .pending
        attempts := attempt
        lastError := some (slice 500 error.message) } }

/-- An attempt that was tried: what it made of the order is recorded, or that it failed, and the wait before the next one. -/
def attempted (retryDelaysMs : List Nat) (orderId : Bytes) (attempts : Nat) {α : Type} (work : Job host α)
    (done : Nat → Int → α → OrderRecord → OrderRecord)
    (failed : Nat → Option Nat → Failure → OrderRecord → OrderRecord) : Job host (Option Nat) := do
  let result ← work.attempt
  match result with
  | .ok value =>
    Routine.modify fun s => s.update orderId (done (attempts + 1) s.now value)
    ask .saved
    pure none
  | .error error =>
    let delay := retryDelaysMs[attempts]?
    Routine.modify fun s => s.update orderId (failed (attempts + 1) delay error)
    ask .saved
    pure delay

def holdInput (orderId : Bytes) (order : OrderRecord) (receiptHash : BytesN 32) : HoldInput :=
  ⟨orderId, order.payer, order.amountUSDCAtomic, order.txHash, receiptHash⟩

def anchorInput (orderId : Bytes) (order : OrderRecord) (receiptHash : BytesN 32) : AnchorInput :=
  ⟨receiptHash, order.amountUSDCAtomic, orderId⟩

/-- The escrow that a hold goes to: the one the order was paid into, or none. -/
def holdIn (orderId : Bytes) (order : OrderRecord) (receiptHash : BytesN 32) (paidInto : OrderHold) :
    Job host HoldResult := do
  let s ← Routine.read
  match s.escrow with
  | none => .throws ⟨"this store has no escrow holder configured", none⟩
  | some escrow =>
    if escrow = paidInto.escrow then hold escrow (holdInput orderId order receiptHash)
    else .throws ⟨"this order was paid into another escrow than the store now holds into", none⟩

/-- What an order that needs its hold waits for, if it is tried again. -/
def holdOrder (retryDelaysMs : List Nat) (orderId : Bytes) (order : OrderRecord) (receiptHash : BytesN 32) :
    Job host (Option Nat) :=
  match order.hold with
  | none => pure none
  | some paidInto =>
    if paidInto.status = .held then pure none
    else attempted retryDelaysMs orderId paidInto.attempts (holdIn orderId order receiptHash paidInto) heldAs holdFailed

def anchorOrder (retryDelaysMs : List Nat) (orderId : Bytes) (order : OrderRecord) (receiptHash : BytesN 32)
    (current : OrderAnchor) : Job host (Option Nat) :=
  attempted retryDelaysMs orderId current.attempts (anchor (anchorInput orderId order receiptHash)) anchoredAs anchorFailed

def retry (orderId : Bytes) (delay : Option Nat) : Job host Unit :=
  match delay with
  | some delay => Routine.modify fun s => s.retryIn orderId delay
  | none => pure ()

/-- The second half of `process`, with the order as it is by then. -/
def processAnchor (retryDelaysMs : List Nat) (orderId : Bytes) : Job host Unit := do
  let s ← Routine.read
  match s.orders orderId with
  | none => pure ()
  | some order =>
    match order.anchor, order.receipt with
    | some current, some receiptHash =>
      if current.status = .anchored then pure ()
      else
        let delay ← anchorOrder retryDelaysMs orderId order receiptHash current
        retry orderId delay
    | _, _ => pure ()

/-- One pass over an order: held first, and not anchored before a hold that is tried again. -/
def process (retryDelaysMs : List Nat) (orderId : Bytes) : Job host Unit := do
  let s ← Routine.read
  match s.orders orderId with
  | none => pure ()
  | some order =>
    match order.receipt with
    | none => pure ()
    | some receiptHash =>
      if needsWork order then
        let delay ← holdOrder retryDelaysMs orderId order receiptHash
        match delay with
        | some delay => retry orderId (some delay)
        | none => processAnchor retryDelaysMs orderId
      else pure ()

def serialized (work : Job host Unit) : Job host Unit := do
  let n ← Routine.atomic fun s => (s.chain.drawn, { s with chain := s.chain.draw })
  ask (.before n)
  let _ ← work.attempt.finally_ fun s => { s with chain := s.chain.next }
  pure ()

def enqueue (retryDelaysMs : List Nat) (orderId : Bytes) : Job host Unit := do
  let s ← Routine.read
  if s.stopped then pure () else serialized (process retryDelaysMs orderId)

/-- `signerTurn`, with a call of the store's escrow. -/
def signerTurn (work : SignerWork) : Job host Unit := do
  let s ← Routine.read
  match s.escrow with
  | none => pure ()
  | some escrow =>
    serialized do
      let _ ← ask (.signed escrow work)
      pure ()

/-- A new sale and `resume` enqueue orders, and so does the timer of a retry. -/
inductive Call where
  | enqueue (orderId : Bytes)
  | timer (n : Nat)
  | signerTurn (work : SignerWork)

def body (retryDelaysMs : List Nat) : Call → Job host Unit
  | .enqueue orderId => enqueue retryDelaysMs orderId
  | .timer n => do
    let due ← Routine.atomic fun s => (s.timers[n]?, { s with timers := s.timers.eraseIdx n })
    match due with
    | some (orderId, _) => enqueue retryDelaysMs orderId
    | none => pure ()
  | .signerTurn work => signerTurn work

/-! ### What happens to it -/

def errorCode : ReceiptRegistry.Error → Nat
  | .AlreadyAnchored => 1
  | .InvalidAmount => 2
  | .InvalidOrderRef => 3

def registryContractError : Soroban.Failure ReceiptRegistry.Error → Option Nat
  | .error e => some (errorCode e)
  | .trap _ => none

def HoldInput.call (input : HoldInput) : PurchaseEscrow.Call :=
  .hold input.orderRef input.payer input.amount input.txHash input.receiptHash

def Store.setEscrow (s : Store host) (escrow : Address) (world : World host) : Store host :=
  { s with escrows := Function.update s.escrows escrow world }

/-- A sale as the checkout records it, with an id of its own. -/
structure Sale where
  orderId : Bytes
  payer : Address
  amountUSDCAtomic : Int
  txHash : BytesN 32
  receiptHash : BytesN 32

def newOrder (escrow : Option Address) (sale : Sale) : OrderRecord :=
  ⟨sale.payer, sale.amountUSDCAtomic, sale.txHash, some sale.receiptHash, some ⟨.pending, 0, none, none, none, none⟩,
    escrow.map fun escrow => ⟨.pending, 0, escrow, none, none, none, none⟩⟩

def Store.put (s : Store host) (sale : Sale) : Store host :=
  match s.orders sale.orderId with
  | some _ => s
  | none =>
    let order := newOrder s.escrow sale
    { s with
      orders := Function.update s.orders sale.orderId (some order)
      versions := s.versions ++ [(sale.orderId, order)] }

inductive Outside (host : Host) where
  | escrow (address : Address) (action : PurchaseEscrow.Action host)
  | registry (env : ReceiptRegistry.Env) (hash : BytesN 32) (merchant : Address) (amount : Int) (order_ref : Bytes)
  | clock (now : Int)
  | sale (sale : Sale)
  | stop
  | configure (escrow : Option Address)

/-- Calls of the contracts by anybody, late calls of the store's own among them; the clock; new sales; and the store's end
    and its settings. -/
def outside : Outside host → Store host → Store host
  | .escrow address action, s => s.setEscrow address (PurchaseEscrow.step (s.escrows address) action).1
  | .registry env hash merchant amount order_ref, s =>
    match ReceiptRegistry.invoke env s.registry hash merchant amount order_ref with
    | .ok after => { s with registry := after }
    | .error _ => s
  | .clock now, s => { s with now := now }
  | .sale sale, s => s.put sale
  | .stop, s => { s with stopped := true, timers := [] }
  | .configure escrow, s => { s with configured := escrow }

def answerWith {α : Type} (input : Input) (value : Except Failure α) (s : Store host) :
    Option (Except Failure α × Store host) :=
  match input.failure with
  | some failure => some (.error failure, s)
  | none => some (value, s)

/-- The answer to a call that was sent: `after` is what it makes of the state, if it does not fail. -/
def sent {α : Type} (name : String) (after : Option (Store host)) (value : α) (input : Input) (s : Store host) :
    Except Failure α × Store host :=
  match after, input.failure with
  | some s', none => (.ok value, s')
  | some s', some failure => (.error failure, if input.lands then s' else s)
  | none, some failure => (.error failure, s)
  | none, none => (.error ⟨name ++ " transaction FAILED", none⟩, s)

section
variable (signer : Address)

def afterCall (escrow : Address) (call : PurchaseEscrow.Call) (input : Input) (s : Store host) : Option (Store host) :=
  match PurchaseEscrow.invoke input.env call (s.escrows escrow) with
  | .ok after => some (s.setEscrow escrow after)
  | .error _ => none

def anchorCall (request : AnchorInput) (input : Input) (s : Store host) :=
  ReceiptRegistry.invoke input.ledgerEnv s.registry request.hash signer request.amount request.orderRef

def afterAnchor (request : AnchorInput) (input : Input) (s : Store host) : Option (Store host) :=
  match anchorCall signer request input s with
  | .ok after => some { s with registry := after }
  | .error _ => none

def simulated {ε α : Type} (code : Soroban.Failure ε → Option Nat) : Outcome ε α → Except Failure Unit
  | .ok _ => .ok ⟨⟩
  | .error refused => .error ⟨"HostError", code refused⟩

/-- A purchase as `decodePurchase` accepts it. -/
def decoded : Option Purchase → Except Failure (Option Purchase)
  | none => .ok none
  | some p =>
    if (EscrowEvents.decodePurchase p).isSome then .ok (some p)
    else .error ⟨"purchase-escrow entry does not look like a Purchase", none⟩

def serve : (o : Op) → Input → Store host → Option (Except Failure o.Answer × Store host)
  | .before n, _, s => if n = s.chain.done then some (.ok ⟨⟩, s) else none
  | .simulateHold escrow request, input, s =>
    answerWith input (simulated escrowContractError (PurchaseEscrow.invoke input.env request.call (s.escrows escrow))) s
  | .sendHold escrow request, input, s => some (sent "hold" (afterCall escrow request.call input s) input.result input s)
  | .payment escrow txHash, input, s => answerWith input (.ok ((s.escrows escrow).payments.lookup txHash)) s
  | .purchase escrow orderRef, input, s => answerWith input (decoded (PurchaseEscrow.get (s.escrows escrow) orderRef)) s
  | .simulateAnchor request, input, s =>
    answerWith input (simulated registryContractError (anchorCall signer request input s)) s
  | .sendAnchor request, input, s => some (sent "anchor" (afterAnchor signer request input s) input.result input s)
  | .record request, input, s => answerWith input (.ok (ReceiptRegistry.get s.registry request.hash)) s
  | .signed escrow work, input, s => some (sent "call" (afterCall escrow work.call input s) input.result.txHash input s)
  | .saved, _, s => some (.ok ⟨⟩, s)

def restart (s : Store host) : Store host :=
  { s with timers := [], chain := .first, stopped := false, escrow := s.configured }

def worker (retryDelaysMs : List Nat) : Routines.Host Call (Store host) Op Failure Op.Answer Unit Input (Outside host) where
  body := body retryDelaysMs
  serve := serve signer
  outside := outside
  restart := restart

end

def opened (escrows : Address → World host) (registry : ReceiptRegistry.World) (escrow : Option Address) (now : Int) :
    Store host := ⟨escrows, registry, fun _ => none, [], [], .first, false, now, escrow, escrow⟩

/-! ### The way of a job -/

/-- The order a job is at, as the job has it, with the hash of its receipt. -/
structure Order where
  id : Bytes
  record : OrderRecord
  receiptHash : BytesN 32

def Order.holdInput (order : Order) : HoldInput := AnchorWorker.holdInput order.id order.record order.receiptHash

def Order.anchorInput (order : Order) : AnchorInput := AnchorWorker.anchorInput order.id order.record order.receiptHash

def OrderRecord.paidInto (order : OrderRecord) : Option Address := order.hold.map OrderHold.escrow

/-- What a job that has its turn knows: nothing yet; that an order's hold is not tried again; an order whose hold is due,
    then a purchase that was read for it, or that it is held; an order whose receipt is to be anchored, then that it is. -/
inductive Known where
  | fresh
  | ready (orderId : Bytes)
  | holding (order : Order)
  | found (order : Order) (purchase : Purchase)
  | held (order : Order)
  | anchoring (order : Order)
  | recorded (order : Order)
  | passed

inductive Mode where
  | out
  | drawn (n : Nat)
  | waits (n : Nat)
  | turn (n : Nat) (known : Known)

def Mode.place : Mode → Place
  | .out => .out
  | .drawn n => .waits n
  | .waits n => .waits n
  | .turn n _ => .has n

def Known.toHold (order : Order) (known : Known) : Prop :=
  known = .holding order ∨ (∃ p, known = .found order p) ∨ known = .held order

def Known.isHeld (order : Order) (known : Known) : Prop :=
  known = .held order ∨ ∃ p, known = .found order p ∧ sameHold p order.holdInput = true

def Known.toAnchor (order : Order) (known : Known) : Prop := known = .anchoring order ∨ known = .recorded order

/-- What is left to know after a hold: that it is not tried again, or nothing. -/
def afterHold (orderId : Bytes) : Option Nat → Known
  | none => .ready orderId
  | some _ => .passed

variable (retryDelaysMs : List Nat)

inductive Goes : Mode → Store host → Store host → Mode → Prop
  | rests {s} : Goes .out s s .out
  | pops {s timers} : Goes .out s { s with timers := timers } .out
  | draws {s} : Goes .out s { s with chain := s.chain.draw } (.drawn s.chain.drawn)
  | same {n known s} : Goes (.turn n known) s s (.turn n known)
  | times {n known s timers} : Goes (.turn n known) s { s with timers := timers } (.turn n known)
  | passes {n s orderId record} (found : s.orders orderId = some record)
      (settled : ∀ hold, record.hold = some hold → hold.status = .held) :
      Goes (.turn n .fresh) s s (.turn n (.ready orderId))
  | holds {n s orderId record receiptHash hold} (found : s.orders orderId = some record)
      (receipt : record.receipt = some receiptHash) (due : record.hold = some hold) (unheld : hold.status ≠ .held) :
      Goes (.turn n .fresh) s s (.turn n (.holding ⟨orderId, record, receiptHash⟩))
  | held {n s known order hold result} (mine : known.isHeld order) (due : order.record.hold = some hold) :
      Goes (.turn n known) s (s.update order.id (heldAs (hold.attempts + 1) s.now result)) (.turn n (.ready order.id))
  | unheld {n s known order hold error} (mine : known.toHold order) (due : order.record.hold = some hold) :
      Goes (.turn n known) s (s.update order.id (holdFailed (hold.attempts + 1) retryDelaysMs[hold.attempts]? error))
        (.turn n (afterHold order.id retryDelaysMs[hold.attempts]?))
  | anchors {n s orderId record receiptHash anchor} (found : s.orders orderId = some record)
      (receipt : record.receipt = some receiptHash) (due : record.anchor = some anchor)
      (unanchored : anchor.status ≠ .anchored) :
      Goes (.turn n (.ready orderId)) s s (.turn n (.anchoring ⟨orderId, record, receiptHash⟩))
  | anchored {n s order anchor result} (due : order.record.anchor = some anchor) :
      Goes (.turn n (.recorded order)) s (s.update order.id (anchoredAs (anchor.attempts + 1) s.now result)) (.turn n .passed)
  | unanchored {n s known order anchor error} (mine : known.toAnchor order) (due : order.record.anchor = some anchor) :
      Goes (.turn n known) s (s.update order.id (anchorFailed (anchor.attempts + 1) retryDelaysMs[anchor.attempts]? error))
        (.turn n .passed)
  | leaves {n s known} : Goes (.turn n known) s { s with chain := s.chain.next } .out

def Known.may (known : Known) : Op → Prop
  | .before _ => False
  | .simulateHold escrow input =>
    ∃ order, known = .holding order ∧ input = order.holdInput ∧ order.record.paidInto = some escrow
  | .sendHold escrow input =>
    ∃ order, known = .holding order ∧ input = order.holdInput ∧ order.record.paidInto = some escrow
  | .payment _ _ => ∃ order, known = .holding order
  | .purchase escrow _ => ∃ order, known = .holding order ∧ order.record.paidInto = some escrow
  | .simulateAnchor input => ∃ order, known = .anchoring order ∧ input = order.anchorInput
  | .sendAnchor input => ∃ order, known = .anchoring order ∧ input = order.anchorInput
  | .record input => ∃ order, known = .anchoring order ∧ input = order.anchorInput
  | .signed _ _ => known = .fresh
  | .saved => True

def Asks : Mode → Op → Mode → Prop
  | .drawn n, .before k, m' => k = n ∧ m' = .waits n
  | .turn n known, o, m' => m' = .turn n known ∧ known.may o
  | _, _, _ => False

def Known.sentHold : Known → Known
  | .holding order => .held order
  | known => known

def Known.reads (p : Purchase) : Known → Known
  | .holding order => .found order p
  | known => known

def Known.inRegistry : Known → Known
  | .anchoring order => .recorded order
  | known => known

def Known.answer (known : Known) : (o : Op) → Except Failure o.Answer → Known
  | .sendHold _ _, answer =>
    match answer with
    | .ok _ => known.sentHold
    | .error _ => known
  | .purchase _ _, answer =>
    match answer with
    | .ok (some p) => known.reads p
    | _ => known
  | .sendAnchor _, answer =>
    match answer with
    | .ok _ => known.inRegistry
    | .error _ => known
  | .record _, answer =>
    match answer with
    | .ok (some _) => known.inRegistry
    | _ => known
  | .before _, _ => known
  | .simulateHold _ _, _ => known
  | .payment _ _, _ => known
  | .simulateAnchor _, _ => known
  | .signed _ _, _ => known
  | .saved, _ => known

/-- The turn comes when all before it are done. -/
def Mode.enters : Mode → Mode
  | .waits n => .turn n .fresh
  | m => m

def Mode.answer (m : Mode) (o : Op) (answer : Except Failure o.Answer) : Mode :=
  match m with
  | .turn n known => .turn n (known.answer o answer)
  | m =>
    match o with
    | .before _ => m.enters
    | _ => m

/-- A turn comes, and a change of an order is made. -/
def Expected : (o : Op) → Except Failure o.Answer → Prop
  | .before _, answer => answer = .ok ⟨⟩
  | .saved, answer => answer = .ok ⟨⟩
  | _, _ => True

variable (host) in
def jobs : Discipline (Store host) Op Failure Op.Answer Mode where
  sync := Goes retryDelaysMs
  ask := Asks
  expects := Expected
  answer := Mode.answer

def Ends (_ : Call) (m : Mode) (_ : Except Failure Unit) : Prop := m = .out

/-! ### The jobs keep to it -/

variable (host) in
abbrev Working {α : Type} (m : Mode) (r : Job host α) (Q : Mode → Except Failure α → Prop) : Prop :=
  Follows (jobs host retryDelaysMs) m r Q

section
variable {retryDelaysMs} {n : Nat} {known : Known} {order : Order} {orderId : Bytes} {record : OrderRecord}
  {receiptHash : BytesN 32}

theorem Known.isHeld.toHold (held : known.isHeld order) : known.toHold order := by
  rcases held with held | ⟨p, found, _⟩
  · exact .inr (.inr held)
  · exact .inr (.inl ⟨p, found⟩)

/-- How an attempt at a hold ends. -/
def HoldEnds (n : Nat) (order : Order) (m : Mode) : Except Failure HoldResult → Prop
  | .ok _ => ∃ known, m = .turn n known ∧ known.isHeld order
  | .error _ => ∃ known, m = .turn n known ∧ known.toHold order

def AnchorEnds (n : Nat) (order : Order) (m : Mode) : Except Failure AnchorResult → Prop
  | .ok _ => m = .turn n (.recorded order)
  | .error _ => ∃ known, m = .turn n known ∧ known.toAnchor order

/-- What a purchase that was read for an order tells. -/
def Reads (n : Nat) (order : Order) (m : Mode) (result : Except Failure (Option Purchase)) : Prop :=
  (∃ p, result = .ok (some p) ∧ m = .turn n (.found order p)) ∨
    ((∀ p, result ≠ .ok (some p)) ∧ m = .turn n (.holding order))

variable {escrow : Address}

section
variable (mine : order.record.paidInto = some escrow)
include mine

theorem follows_purchase (orderRef : Bytes) :
    Working host retryDelaysMs (.turn n (.holding order)) (ask (.purchase escrow orderRef)) (Reads n order) := by
  refine ⟨.turn n (.holding order), ⟨rfl, order, rfl, mine⟩, fun answer _ => follows_ofExcept ?_⟩
  cases answer with
  | error e => exact .inr ⟨fun _ => (nomatch ·), rfl⟩
  | ok read =>
    cases read with
    | none => exact .inr ⟨fun _ => (nomatch ·), rfl⟩
    | some p => exact .inl ⟨p, rfl, rfl⟩

theorem follows_byTx (txHash : BytesN 32) :
    Working host retryDelaysMs (.turn n (.holding order)) (byTx escrow txHash) (Reads n order) := by
  have named : Working host retryDelaysMs (.turn n (.holding order)) (ask (.payment escrow txHash))
      fun m _ => m = .turn n (.holding order) :=
    ⟨.turn n (.holding order), ⟨rfl, order, rfl⟩, fun _ _ => follows_ofExcept rfl⟩
  apply named.seq
  · rintro _ ref rfl
    cases ref with
    | none => exact .inr ⟨fun _ => (nomatch ·), rfl⟩
    | some ref => exact follows_purchase mine ref
  · rintro _ e rfl
    exact .inr ⟨fun _ => (nomatch ·), rfl⟩

theorem follows_existingHold :
    Working host retryDelaysMs (.turn n (.holding order)) (existingHold escrow order.holdInput) (HoldEnds n order) := by
  apply (follows_byTx mine _).seq
  · rintro m found (⟨p, same, rfl⟩ | ⟨nothing, rfl⟩)
    · cases same
      by_cases same : sameHold p order.holdInput
      · simp only [same, if_true]
        exact ⟨_, rfl, .inr ⟨p, rfl, same⟩⟩
      · simp only [same]
        exact ⟨_, rfl, .inr (.inl ⟨p, rfl⟩)⟩
    · cases found with
      | none => exact ⟨_, rfl, .inl rfl⟩
      | some p => exact (nothing p rfl).elim
  · rintro m e (⟨p, same, rfl⟩ | ⟨_, rfl⟩)
    · cases same
    · exact ⟨_, rfl, .inl rfl⟩

theorem follows_hold :
    Working host retryDelaysMs (.turn n (.holding order)) (hold escrow order.holdInput) (HoldEnds n order) := by
  have stays : Working host retryDelaysMs (.turn n (.holding order)) (ask (.simulateHold escrow order.holdInput))
      fun m _ => m = .turn n (.holding order) := ⟨_, ⟨rfl, order, rfl, rfl, mine⟩, fun _ _ => follows_ofExcept rfl⟩
  apply Follows.seq (R := fun m result => m = .turn n (.holding order) ∧ ∃ prepared, result = .ok prepared)
  · apply Follows.attempt
    exact stays.imp fun _ prepared same => ⟨same, prepared, rfl⟩
  · rintro _ prepared ⟨rfl, _⟩
    cases prepared with
    | error e =>
      by_cases already : isAlreadyHeld e
      · simp only [already, if_true]
        exact follows_existingHold mine
      · simp only [already]
        exact ⟨_, rfl, .inl rfl⟩
    | ok _ =>
      refine ⟨_, ⟨rfl, order, rfl, rfl, mine⟩, fun answer _ => ?_⟩
      cases answer with
      | error e => exact ⟨_, rfl, .inl rfl⟩
      | ok landed => exact ⟨_, rfl, .inl rfl⟩
  · rintro _ _ ⟨_, _, same⟩
    cases same

end

variable {hold : OrderHold}

theorem follows_holdIn (due : record.hold = some hold) :
    Working host retryDelaysMs (.turn n (.holding ⟨orderId, record, receiptHash⟩)) (holdIn orderId record receiptHash hold)
      (HoldEnds n ⟨orderId, record, receiptHash⟩) := by
  intro s
  refine ⟨_, .same, ?_⟩
  simp only [Routine.bind]
  cases s.escrow with
  | none => exact ⟨_, rfl, .inl rfl⟩
  | some escrow =>
    by_cases same : escrow = hold.escrow
    · simp only [same, if_true]
      exact follows_hold (by simp [OrderRecord.paidInto, due])
    · simp only [same, if_false]
      exact ⟨_, rfl, .inl rfl⟩

theorem follows_anchor :
    Working host retryDelaysMs (.turn n (.anchoring order)) (anchor order.anchorInput) (AnchorEnds n order) := by
  have stays : Working host retryDelaysMs (.turn n (.anchoring order)) (ask (.simulateAnchor order.anchorInput))
      fun m _ => m = .turn n (.anchoring order) := ⟨_, ⟨rfl, order, rfl, rfl⟩, fun _ _ => follows_ofExcept rfl⟩
  apply Follows.seq (R := fun m result => m = .turn n (.anchoring order) ∧ ∃ prepared, result = .ok prepared)
  · apply Follows.attempt
    exact stays.imp fun _ prepared same => ⟨same, prepared, rfl⟩
  · rintro _ prepared ⟨rfl, _⟩
    cases prepared with
    | error e =>
      by_cases already : isAlreadyAnchored e
      · simp only [already, if_true]
        refine ⟨_, ⟨rfl, order, rfl, rfl⟩, fun answer _ => ?_⟩
        rcases answer with e | _ | record
        · exact ⟨_, rfl, .inl rfl⟩
        · exact ⟨_, rfl, .inl rfl⟩
        · rfl
      · simp only [already]
        exact ⟨_, rfl, .inl rfl⟩
    | ok _ =>
      refine ⟨_, ⟨rfl, order, rfl, rfl⟩, fun answer _ => ?_⟩
      cases answer with
      | error e => exact ⟨_, rfl, .inl rfl⟩
      | ok landed => rfl
  · rintro _ _ ⟨_, _, same⟩
    cases same

theorem follows_attempted {α : Type} {attempts : Nat} {work : Job host α} {done : Nat → Int → α → OrderRecord → OrderRecord}
    {failed : Nat → Option Nat → Failure → OrderRecord → OrderRecord} {m : Mode} {R : Mode → Except Failure α → Prop}
    (later : Option Nat → Known) (follows : Working host retryDelaysMs m work R)
    (succeeds : ∀ m value (s : Store host), R m (.ok value) →
      Goes retryDelaysMs m s (s.update orderId (done (attempts + 1) s.now value)) (.turn n (later none)))
    (fails : ∀ m e (s : Store host), R m (.error e) →
      Goes retryDelaysMs m s (s.update orderId (failed (attempts + 1) retryDelaysMs[attempts]? e))
        (.turn n (later retryDelaysMs[attempts]?))) :
    Working host retryDelaysMs m (attempted retryDelaysMs orderId attempts work done failed) fun m result =>
      ∃ delay, result = .ok delay ∧ m = .turn n (later delay) := by
  have saves : ∀ {delay : Option Nat}, Working host retryDelaysMs (.turn n (later delay))
      (Routine.bind (ask .saved) fun _ => .returns delay) fun m result =>
        ∃ delay, result = .ok delay ∧ m = .turn n (later delay) := by
    intro delay
    refine ⟨.turn n (later delay), ⟨rfl, trivial⟩, ?_⟩
    rintro _ rfl
    exact ⟨delay, rfl, rfl⟩
  apply Follows.seq (R := fun m result => ∃ tried, result = .ok tried ∧ R m tried)
  · apply Follows.attempt
    exact follows.imp fun _ tried ends => ⟨tried, rfl, ends⟩
  · rintro m tried ⟨_, same, ends⟩
    cases same
    cases tried with
    | ok value => exact fun s => ⟨_, succeeds m value s ends, saves⟩
    | error e => exact fun s => ⟨_, fails m e s ends, saves⟩
  · rintro _ _ ⟨_, same, _⟩
    cases same

theorem follows_holdOrder (due : record.hold = some hold) (unheld : hold.status ≠ .held) :
    Working host retryDelaysMs (.turn n (.holding ⟨orderId, record, receiptHash⟩))
      (holdOrder retryDelaysMs orderId record receiptHash) fun m result =>
        ∃ delay, result = .ok delay ∧ m = .turn n (afterHold orderId delay) := by
  unfold holdOrder
  simp only [due, unheld, if_false]
  apply follows_attempted (afterHold orderId) (follows_holdIn due)
  · rintro _ value s ⟨known, rfl, mine⟩
    exact .held mine due
  · rintro _ e s ⟨known, rfl, mine⟩
    exact .unheld mine due

theorem follows_anchorOrder {current : OrderAnchor} (due : record.anchor = some current) :
    Working host retryDelaysMs (.turn n (.anchoring ⟨orderId, record, receiptHash⟩))
      (anchorOrder retryDelaysMs orderId record receiptHash current) fun m result =>
        ∃ delay, result = .ok delay ∧ m = .turn n .passed := by
  have anchors : Working host retryDelaysMs (.turn n (.anchoring ⟨orderId, record, receiptHash⟩))
      (anchor (anchorInput orderId record receiptHash)) (AnchorEnds n ⟨orderId, record, receiptHash⟩) := follows_anchor
  apply follows_attempted (fun _ => .passed) anchors
  · rintro _ value s rfl
    exact .anchored due
  · rintro _ e s ⟨known, rfl, mine⟩
    exact .unanchored mine due

theorem retryIn_timers (s : Store host) (orderId : Bytes) (delay : Nat) :
    ∃ timers, s.retryIn orderId delay = { s with timers := timers } := by
  unfold Store.retryIn
  by_cases stopped : s.stopped
  · rw [if_pos stopped]
    exact ⟨s.timers, rfl⟩
  · rw [if_neg stopped]
    exact ⟨_, rfl⟩

/-- A job that keeps its turn to its end. -/
abbrev Through (host : Host) (retryDelaysMs : List Nat) (n : Nat) (known : Known) (r : Job host Unit) : Prop :=
  Working host retryDelaysMs (.turn n known) r fun m _ => ∃ known, m = .turn n known

theorem follows_retry (delay : Option Nat) : Through host retryDelaysMs n known (retry orderId delay) := by
  cases delay with
  | none => exact ⟨_, rfl⟩
  | some delay =>
    intro s
    refine ⟨.turn n known, ?_, _, rfl⟩
    obtain ⟨timers, same⟩ := retryIn_timers s orderId delay
    show Goes retryDelaysMs _ s (s.retryIn orderId delay) _
    rw [same]
    exact .times

theorem follows_processAnchor : Through host retryDelaysMs n (.ready orderId) (processAnchor retryDelaysMs orderId) := by
  intro s
  cases found : s.orders orderId with
  | none =>
    refine ⟨_, .same, ?_⟩
    simp only [Routine.bind, found]
    exact ⟨_, rfl⟩
  | some record =>
    cases due : record.anchor with
    | none =>
      refine ⟨_, .same, ?_⟩
      simp only [Routine.bind, found, due]
      exact ⟨_, rfl⟩
    | some current =>
      cases receipt : record.receipt with
      | none =>
        refine ⟨_, .same, ?_⟩
        simp only [Routine.bind, found, due, receipt]
        exact ⟨_, rfl⟩
      | some receiptHash =>
        by_cases anchored : current.status = .anchored
        · refine ⟨_, .same, ?_⟩
          simp only [Routine.bind, found, due, receipt, anchored, if_true]
          exact ⟨_, rfl⟩
        · refine ⟨_, .anchors found receipt due anchored, ?_⟩
          simp only [Routine.bind, found, due, receipt, anchored, if_false]
          apply (follows_anchorOrder due).seq
          · rintro _ delay ⟨_, _, rfl⟩
            exact follows_retry delay
          · rintro _ _ ⟨_, _, rfl⟩
            exact ⟨_, rfl⟩

theorem follows_process : Through host retryDelaysMs n .fresh (process retryDelaysMs orderId) := by
  intro s
  cases found : s.orders orderId with
  | none =>
    refine ⟨_, .same, ?_⟩
    simp only [Routine.bind, found]
    exact ⟨_, rfl⟩
  | some record =>
    cases receipt : record.receipt with
    | none =>
      refine ⟨_, .same, ?_⟩
      simp only [Routine.bind, found, receipt]
      exact ⟨_, rfl⟩
    | some receiptHash =>
      by_cases work : needsWork record
      · by_cases settled : ∀ hold, record.hold = some hold → hold.status = .held
        · refine ⟨_, .passes found settled, ?_⟩
          have nothing : (holdOrder retryDelaysMs orderId record receiptHash : Job host (Option Nat)) = pure none := by
            unfold holdOrder
            cases due : record.hold with
            | none => rfl
            | some hold => exact if_pos (settled hold due)
          simp only [Routine.bind, found, receipt, work, if_true, nothing]
          exact follows_processAnchor
        · push Not at settled
          obtain ⟨hold, due, unheld⟩ := settled
          refine ⟨_, .holds found receipt due unheld, ?_⟩
          simp only [Routine.bind, found, receipt, work, if_true]
          apply (follows_holdOrder due unheld).seq
          · rintro _ delay ⟨_, same, rfl⟩
            cases same
            cases delay with
            | none => exact follows_processAnchor
            | some delay => exact follows_retry (some delay)
          · rintro _ _ ⟨_, _, rfl⟩
            exact ⟨_, rfl⟩
      · refine ⟨_, .same, ?_⟩
        simp only [Routine.bind, found, receipt, work]
        exact ⟨_, rfl⟩

theorem follows_serialized {work : Job host Unit} (through : ∀ n, Through host retryDelaysMs n .fresh work) :
    Working host retryDelaysMs .out (serialized work) fun m _ => m = .out := by
  intro s
  refine ⟨_, .draws, ?_⟩
  simp only [Routine.bind]
  refine ⟨_, ⟨rfl, rfl⟩, ?_⟩
  rintro _ rfl
  change Working host retryDelaysMs (.turn s.chain.drawn .fresh) (Routine.bind (Routine.finally_ _ work.attempt) _) _
  apply Follows.seq (R := fun m _ => m = .out)
  · apply Follows.finally_
    apply Follows.attempt
    apply (through s.chain.drawn).imp
    rintro _ _ ⟨known, rfl⟩ s'
    exact ⟨.out, .leaves, rfl⟩
  · rintro _ _ rfl
    rfl
  · rintro _ _ rfl
    rfl

theorem follows_enqueue : Working host retryDelaysMs .out (enqueue retryDelaysMs orderId) fun m _ => m = .out := by
  intro s
  refine ⟨_, .rests, ?_⟩
  simp only [Routine.bind]
  by_cases stopped : s.stopped
  · simp only [stopped, if_true]
    rfl
  · simp only [stopped]
    exact follows_serialized fun _ => follows_process

theorem follows_body (call : Call) : Working host retryDelaysMs .out (body retryDelaysMs call) (Ends call) := by
  cases call with
  | enqueue orderId => exact follows_enqueue
  | timer k =>
    intro s
    refine ⟨_, .pops, ?_⟩
    simp only [Routine.bind]
    cases s.timers[k]? with
    | none => rfl
    | some due => exact follows_enqueue
  | signerTurn work =>
    intro s
    refine ⟨_, .rests, ?_⟩
    simp only [Routine.bind]
    cases s.escrow with
    | none => rfl
    | some escrow =>
      refine follows_serialized fun n => ⟨_, ⟨rfl, rfl⟩, fun answer _ => ?_⟩
      cases answer with
      | error e => exact ⟨_, rfl⟩
      | ok txHash => exact ⟨_, rfl⟩

end

end AgentPey.AnchorWorker
