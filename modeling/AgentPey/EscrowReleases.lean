import AgentPey.EscrowWatch
import AgentPey.Turns

/-!
The shipment of an order drives the money in its escrow (`escrow-release.ts`). A store asks the escrow to open the release
window, and later to release; where the order stands is a copy of what it then reads. Its steps for one order run one after
another. Meanwhile anybody may call the contract, a call may fail whether it took effect or not, a node may answer with an
older state, and the process may crash. The database takes every write, in the order of the writes.
-/
namespace AgentPey.EscrowReleases
open Soroban Store PurchaseEscrow Routines Disciplines Turns
open EscrowEvents (EscrowPurchase EscrowStatus decodePurchase statusMap mayPrecede mayPrecede_later later_of_getElem)
open EscrowWatch (observe Observed)
open PurchaseEscrow (get invoke)

def RELEASE_MARGIN_MS : Int := 15000
def RELEASE_RETRY_DELAYS_MS : List Int := [30000, 2 * 60000, 10 * 60000, 30 * 60000]
def MAX_WAIT_MS : Int := 24 * 60 * 60000
def WRONG_STATUS : Nat := 8
def RELEASE_TOO_EARLY : Nat := 9

/-! ### The records -/

inductive ReleaseStatus where
  | pending
  | shipped
  | released
  | disputed
  | failed
  deriving DecidableEq, Repr

/-- Times are milliseconds, which the order has as dates. -/
structure OrderEscrowRelease where
  status : ReleaseStatus
  attempts : Nat
  shippedTx : Option String
  shippedAt : Option Int
  releaseAfter : Option Int
  releaseTx : Option String
  lastError : Option String
  deriving DecidableEq, Repr

inductive HoldStatus where
  | pending
  | held
  | failed
  deriving DecidableEq, Repr

structure OrderHold where
  status : HoldStatus
  escrow : Address
  deriving DecidableEq

/-- `partial`, `fulfilled` or `canceled`. -/
inductive FulfillmentState where
  | partly
  | fulfilled
  | canceled
  deriving DecidableEq, Repr

/-- What these steps read and write of an order. -/
structure OrderRecord where
  hold : Option OrderHold
  fulfillmentState : Option FulfillmentState
  escrowRelease : Option OrderEscrowRelease

def owed : OrderEscrowRelease := ⟨.pending, 0, none, none, none, none, none⟩

def OrderRecord.standing (order : OrderRecord) : OrderEscrowRelease := order.escrowRelease.getD owed

structure StoreEscrow where
  contract : Address
  releaseWindowSeconds : Nat

/-- A purchase as a read of the escrow has it, with the time it was shipped. -/
structure Read where
  purchase : EscrowPurchase
  shippedAt : Option Nat

def orNull (seconds : Nat) : Option Nat := if seconds = 0 then none else some seconds

def asRead (p : Purchase) : Option Read := (decodePurchase p).map fun purchase => ⟨purchase, orNull p.shipped_at.toNat⟩

inductive Step where
  | ship
  | release
  deriving DecidableEq, Repr

/-- The escrow the order was paid into, with every state its purchase has had; the order in memory, in the database with
    the rows it had before, and in the writes under way; the timer and the queue of its steps; and the settings, with those
    that the next start finds. -/
structure Store (host : Host) where
  world : World host
  states : List Purchase
  past : List OrderRecord
  row : OrderRecord
  queued : List OrderRecord
  order : OrderRecord
  timer : Option (Step × Int)
  running : Queue
  stopped : Bool
  now : Int
  escrow : StoreEscrow
  configured : StoreEscrow

/-- An error, with the contract's own code if it names one. -/
structure Failure where
  message : String
  code : Option Nat

/-- Its turn among the order's steps, a read, a call of the escrow, or the end of a write. -/
inductive Op where
  | before (n : Nat)
  | read
  | markShipped
  | release
  | saved (n : Nat)

abbrev Op.Answer : Op → Type
  | .before _ => Unit
  | .read => Option Read
  | .markShipped => String
  | .release => String
  | .saved _ => Unit

/-- How the network answers: a call may be refused whether it landed or not, and a node may be some states behind. -/
structure Input where
  failure : Option Failure
  lands : Bool
  env : Env
  txHash : String
  behind : Nat

variable {host : Host}

abbrev Job (host : Host) := Routine (Store host) Op Failure Op.Answer

abbrev ask (o : Op) : Job host o.Answer := Routine.ask o

/-! ### The steps of an order -/

/-- `update`, up to its await: the order in memory, and its write in the queue. -/
def Store.update (s : Store host) (change : OrderRecord → OrderRecord) : Store host :=
  { s with order := change s.order, queued := s.queued ++ [change s.order] }

/-- Every version of the order, as the database has had it or will have it. -/
def Store.versions (s : Store host) : List OrderRecord := s.past ++ s.row :: s.queued

def Store.save (s : Store host) (release : OrderEscrowRelease) : Store host :=
  s.update fun order => { order with escrowRelease := some release }

def save (release : OrderEscrowRelease) : Job host Unit := do
  let n ← Routine.atomic fun s => ((s.save release).versions.length, s.save release)
  ask (.saved n)

def Store.schedule (s : Store host) (delayMs : Int) (step : Step) : Store host :=
  if s.stopped then s else { s with timer := some (step, min MAX_WAIT_MS (max 0 delayMs)) }

/-- How long until `release` may be called, from the window kept on the order. -/
def Store.untilRelease (s : Store host) (release : OrderEscrowRelease) : Int :=
  match release.releaseAfter with
  | some at_ => at_ - s.now + RELEASE_MARGIN_MS
  | none => 0

def Store.held (s : Store host) : Option OrderRecord :=
  match s.order.hold with
  | some hold => if hold.escrow = s.escrow.contract ∧ hold.status = .held then some s.order else none
  | none => none

/-- `new Date(seconds * 1000).toISOString()`, which has no text for a time past the last one. -/
def toISOString (seconds : Nat) : Except Failure Int :=
  if seconds * 1000 ≤ 8640000000000000 then .ok (seconds * 1000) else .error ⟨"Invalid time value", none⟩

def inWindow (escrow : StoreEscrow) (shippedAt : Nat) (base : OrderEscrowRelease) : Except Failure OrderEscrowRelease := do
  let at_ ← toISOString shippedAt
  let after ← toISOString (shippedAt + escrow.releaseWindowSeconds)
  pure { base with status := .shipped, shippedAt := some at_, releaseAfter := some after }

/-- Where the escrow says a purchase stands: nowhere yet, while it is held. -/
def fromChain (escrow : StoreEscrow) (purchase : Read) (current : OrderEscrowRelease) :
    Except Failure (Option OrderEscrowRelease) :=
  let base : OrderEscrowRelease := { owed with shippedTx := current.shippedTx }
  match purchase.purchase.status with
  | .shipped => (inWindow escrow (purchase.shippedAt.getD 0) base).map some
  | .released => .ok (some { base with status := .released, releaseTx := current.releaseTx })
  | .disputed | .responded | .resolved | .expired => .ok (some { base with status := .disputed })
  | .held => .ok none

def errorText (error : Failure) : String := String.ofList (error.message.toList.take 300)

/-- Where an order stands after a failed attempt, and the wait before the next one, if there is one. -/
def retried (delays : List Int) (current : OrderEscrowRelease) (error : Failure) : OrderEscrowRelease × Option Int :=
  let delay := delays[current.attempts]?
  ({ current with
      attempts := current.attempts + 1
      lastError := some (errorText error)
      status := if delay.isNone then .failed else current.status }, delay)

def scheduleAgain (step : Step) (delay : Option Int) (s : Store host) : Store host :=
  match delay with
  | some delay => s.schedule delay step
  | none => s

def retry (delays : List Int) (step : Step) (current : OrderEscrowRelease) (error : Failure) : Job host Unit := do
  let (next, delay) := retried delays current error
  Routine.modify (scheduleAgain step delay)
  -- A failure to record is only logged.
  let _ ← (save next).attempt
  pure ()

/-- Records what the escrow says now, and schedules the release while the window runs. -/
def settle (purchase : Option Read) (current : OrderEscrowRelease) : Job host Unit := do
  match purchase with
  | none => .throws ⟨"the escrow holds no purchase for this order", none⟩
  | some purchase =>
    let s ← Routine.read
    let next ← fromChain s.escrow purchase current
    match next with
    | none => .throws ⟨"the escrow still shows the purchase held, not shipped", none⟩
    | some next =>
      save next
      if next.status = .shipped then Routine.modify fun s => s.schedule (s.untilRelease next) .release
      else pure ()

/-- Work for a step whose failure is retried. -/
def trying (delays : List Int) (step : Step) (current : OrderEscrowRelease) (work : Job host Unit) : Job host Unit := do
  let result ← work.attempt
  match result with
  | .ok _ => pure ()
  | .error error => retry delays step current error

def settleRead (current : OrderEscrowRelease) : Job host Unit := do
  let purchase ← ask .read
  settle purchase current

/-- A call of the escrow, with its transaction; or none when the purchase has moved on before it. -/
def sending (call : Job host String) (otherwise : Failure → Job host Unit) (landed : String → Job host Unit)
    (moved : Job host Unit) : Job host Unit := do
  let sent ← call.attempt
  match sent with
  | .ok txHash => landed txHash
  | .error error => if error.code = some WRONG_STATUS then moved else otherwise error

def mayShip (current : OrderEscrowRelease) : Bool :=
  current.status = .pending || (current.status = .failed && current.shippedAt.isNone)

def mayRelease (current : OrderEscrowRelease) : Bool :=
  current.status = .shipped || (current.status = .failed && current.shippedAt.isSome)

/-- What the escrow answered is kept with where the order stood, for a later failure too. -/
def ship (delays : List Int) (current : OrderEscrowRelease) : Job host Unit := do
  let purchase ← ask .read
  if purchase.any (·.purchase.status = .held) then
    sending (ask .markShipped) .throws
      (fun txHash =>
        let current := { current with shippedTx := some txHash }
        trying delays .ship current (settleRead current))
      (settleRead current)
  else settle purchase current

def markShipped (delays : List Int) : Job host Unit := do
  let s ← Routine.read
  match s.held with
  | none => pure ()
  | some order =>
    if order.fulfillmentState = some .fulfilled ∧ mayShip order.standing then
      trying delays .ship order.standing (ship delays order.standing)
    else pure ()

/-- The escrow's window, not the one kept here, decides when a release was too early. -/
def waitFor (purchase : Read) (current : OrderEscrowRelease) (error : Failure) : Job host Unit := do
  if error.code = some RELEASE_TOO_EARLY then
    let s ← Routine.read
    let window ← fromChain s.escrow purchase current
    Routine.modify fun s =>
      match window with
      | none => s.schedule RELEASE_MARGIN_MS .release
      | some window => s.schedule (max RELEASE_MARGIN_MS (s.untilRelease window)) .release
  else .throws error

def pay (delays : List Int) (current : OrderEscrowRelease) : Job host Unit := do
  let purchase ← ask .read
  match purchase with
  | some read =>
    if read.purchase.status = .shipped then
      sending (ask .release) (waitFor read current)
        (fun txHash =>
          let current := { current with releaseTx := some txHash }
          trying delays .release current (settleRead current))
        (settleRead current)
    else settleRead current
  | none => settleRead current

def release (delays : List Int) : Job host Unit := do
  let s ← Routine.read
  match s.held with
  | none => pure ()
  | some order =>
    match order.escrowRelease with
    | none => pure ()
    | some current =>
      if mayRelease current then trying delays .release current (pay delays current) else pure ()

/-! ### What starts them -/

def serialized (work : Job host Unit) : Job host Unit := do
  let n ← Routine.atomic fun s => (s.running.drawn, { s with running := s.running.draw })
  ask (.before n)
  let _ ← work.attempt.finally_ fun s => { s with running := s.running.next }
  pure ()

def stepWork (delays : List Int) : Step → Job host Unit
  | .ship => markShipped delays
  | .release => release delays

/-- `resume`, for one order. -/
def Store.resumed (s : Store host) : Store host :=
  match s.held with
  | none => s
  | some order =>
    match order.escrowRelease with
    | none => s
    | some release =>
      if mayShip release then s.schedule 0 .ship
      else if mayRelease release then s.schedule (s.untilRelease release) .release
      else s

inductive Call where
  | afterShipment
  | timer
  | resume
  deriving DecidableEq, Repr

def body (delays : List Int) : Call → Job host Unit
  | .afterShipment => serialized (markShipped delays)
  | .timer => do
    let due ← Routine.atomic fun s => (s.timer, { s with timer := none })
    match due with
    | some (due, _) => serialized (stepWork delays due)
    | none => pure ()
  | .resume => Routine.modify Store.resumed

/-! ### What happens to it -/

def errorCode : Error → Nat
  | .InvalidWindow => 1
  | .InvalidAmount => 2
  | .InvalidOrderRef => 3
  | .OrderAlreadyHeld => 4
  | .PaymentAlreadyHeld => 5
  | .InsufficientUnallocated => 6
  | .PurchaseNotFound => 7
  | .WrongStatus => 8
  | .ReleaseTooEarly => 9
  | .ClaimWindowClosed => 10
  | .MissingSignature => 11
  | .UnsupportedPayer => 12
  | .ResponseWindowClosed => 13
  | .ResponseWindowOpen => 14
  | .ResolveWindowClosed => 15
  | .ResolveWindowOpen => 16
  | .RefundExceedsAmount => 17
  | .NoRefundOwed => 18
  | .RefundUndeliverable => 19
  | .PayeeCannotReceive => 20

/-- What `escrowContractError` finds in a refusal. -/
def escrowContractError : Soroban.Failure Error → Option Nat
  | .error e => some (errorCode e)
  | .trap _ => none

section
variable (delays : List Int) (order_ref : Bytes)

def Store.chain (s : Store host) (world : World host) : Store host :=
  { s with world := world, states := observe s.states (get world order_ref) }

/-- What `recordShipment` changes of the order. -/
def recordShipment (state : FulfillmentState) (order : OrderRecord) : OrderRecord :=
  let order :=
    if order.fulfillmentState ≠ some .fulfilled ∨ state ≠ .partly then { order with fulfillmentState := some state }
    else order
  if order.fulfillmentState = some .fulfilled ∧ (order.hold.any (·.status = .held)) ∧ order.escrowRelease.isNone then
    { order with escrowRelease := some owed }
  else order

inductive Outside (host : Host) where
  | chain (action : PurchaseEscrow.Action host)
  | clock (now : Int)
  | shipment (state : FulfillmentState)
  | canceled
  | hold (status : HoldStatus)
  | written
  | stop
  | configure (escrow : StoreEscrow)

/-- Calls of the contract by anybody, late calls of the store's own among them; the clock; shipments, and the holds of the
    order; the end of the first write; and the store's end and its settings. -/
def outside : Outside host → Store host → Store host
  | .chain action, s => s.chain order_ref (PurchaseEscrow.step s.world action).1
  | .clock now, s => { s with now := now }
  | .shipment state, s => s.update (recordShipment state)
  | .canceled, s => s.update fun order => { order with fulfillmentState := some .canceled }
  | .hold status, s => s.update fun order => { order with hold := order.hold.map fun hold => { hold with status := status } }
  | .written, s =>
    match s.queued with
    | [] => s
    | first :: rest => { s with past := s.past ++ [s.row], row := first, queued := rest }
  | .stop, s => { s with stopped := true, timer := none }
  | .configure escrow, s => { s with configured := escrow }

def sent (call : PurchaseEscrow.Call) (input : Input) (s : Store host) : Except Failure String × Store host :=
  match invoke input.env call s.world, input.failure with
  | .ok after, none => (.ok input.txHash, s.chain order_ref after)
  | .ok after, some failure => (.error failure, if input.lands then s.chain order_ref after else s)
  | .error _, some failure => (.error failure, s)
  | .error refused, none => (.error ⟨"simulation failed", escrowContractError refused⟩, s)

def serve : (o : Op) → Input → Store host → Option (Except Failure o.Answer × Store host)
  | .before n, _, s => if n = s.running.done then some (.ok ⟨⟩, s) else none
  | .read, input, s =>
    match input.failure with
    | some failure => some (.error failure, s)
    | none =>
      match (s.states.take (s.states.length - input.behind)).getLast? with
      | none => some (.ok none, s)
      | some p =>
        match asRead p with
        | some read => some (.ok (some read), s)
        | none => some (.error ⟨"purchase-escrow entry does not look like a Purchase", none⟩, s)
  | .markShipped, input, s => some (sent order_ref (.mark_shipped order_ref) input s)
  | .release, input, s => some (sent order_ref (.release order_ref) input s)
  | .saved n, _, s => if n ≤ s.past.length + 1 then some (.ok ⟨⟩, s) else none

def restart (s : Store host) : Store host :=
  { s with order := s.row, queued := [], timer := none, running := .first, stopped := false, escrow := s.configured }

def releases : Routines.Host Call (Store host) Op Failure Op.Answer Unit Input (Outside host) where
  body := body delays
  serve := serve order_ref
  outside := outside order_ref
  restart := restart

end

/-- A store with a new order, whose payment the escrow does not hold yet. -/
def opened (world : World host) (hold : Option OrderHold) (escrow : StoreEscrow) (now : Int) : Store host :=
  let order : OrderRecord := ⟨hold, none, none⟩
  ⟨world, [], [], order, [], order, none, .first, false, now, escrow, escrow⟩

/-! ### What is said of them -/

/-- A status that the escrow has no way out of, or the store none. -/
def ReleaseStatus.final : ReleaseStatus → Bool
  | .released => true
  | .disputed => true
  | _ => false

def ReleaseStatus.names : ReleaseStatus → Status → Prop
  | .shipped, stage => stage = .Shipped
  | .released, stage => stage = .Released
  | .disputed, stage => stage = .Disputed ∨ stage = .Responded ∨ stage = .Resolved ∨ stage = .Expired
  | .pending, _ => True
  | .failed, _ => True

def OrderRecord.status (order : OrderRecord) : ReleaseStatus := order.standing.status

/-- Where a status names a stage, the purchase has been there. -/
def Reached (states : List Purchase) (status : ReleaseStatus) : Prop :=
  status = .pending ∨ status = .failed ∨ ∃ p ∈ states, status.names p.status

/-- A version of the order and a later one. -/
def Onward (order later : OrderRecord) : Prop := order.status.final = true → later.status = order.status

/-! ### The way of a step -/

/-- What a step that has its turn knows: nothing yet, or where the order stands, with what was last read of the purchase.
    Or it has saved. -/
inductive Known where
  | nothing
  | holding (status : ReleaseStatus) (read : Option Read)
  | saved

inductive Mode where
  | out
  | waits (n : Nat)
  | turn (n : Nat) (known : Known)

def Mode.place : Mode → Place
  | .out => .out
  | .waits n => .waits n
  | .turn n _ => .has n

/-- A status that a read of the purchase means. -/
def Means (read : Read) (status : ReleaseStatus) : Prop :=
  match read.purchase.status with
  | .held => False
  | .shipped => status = .shipped
  | .released => status = .released
  | .disputed | .responded | .resolved | .expired => status = .disputed

/-- What may be saved: the same status again, or that the store gave up, or what was read. -/
def Known.may : Known → ReleaseStatus → Prop
  | .holding status read, next => next = status ∨ next = .failed ∨ ∃ told, read = some told ∧ Means told next
  | _, _ => False

inductive Goes : Mode → Store host → Store host → Mode → Prop
  | same {m s} : Goes m s s m
  | times {m s timer} : Goes m s { s with timer := timer } m
  | draws {s} : Goes .out s { s with running := s.running.draw } (.waits s.running.drawn)
  | looks {s n} (early : s.order.status.final = false) :
      Goes (.turn n .nothing) s s (.turn n (.holding s.order.status none))
  | saves {s n known} {next : OrderEscrowRelease} (may : known.may next.status) :
      Goes (.turn n known) s (s.save next) (.turn n .saved)
  | leaves {s n known} : Goes (.turn n known) s { s with running := s.running.next } .out

def Known.holds : Known → Bool
  | .holding _ _ => true
  | _ => false

def Mode.may : Mode → Op → Prop
  | .waits n, .before k => k = n
  | .turn _ known, .read => known.holds = true
  | .turn _ _, .markShipped => True
  | .turn _ _, .release => True
  | .turn _ _, .saved _ => True
  | _, _ => False

def Asks (m : Mode) (o : Op) (m' : Mode) : Prop := m' = m ∧ m.may o

def Known.reads : Known → Except Failure (Option Read) → Known
  | .holding status _, .ok (some told) => .holding status (some told)
  | known, _ => known

def Mode.answer : Mode → (o : Op) → Except Failure o.Answer → Mode
  | .waits n, .before _, _ => .turn n .nothing
  | .turn n known, .read, answer => .turn n (known.reads answer)
  | m, _, _ => m

/-- A turn comes, and a write ends: neither fails. -/
def Expected : (o : Op) → Except Failure o.Answer → Prop
  | .before _, answer => answer = .ok ⟨⟩
  | .saved _, answer => answer = .ok ⟨⟩
  | _, _ => True

variable (host) in
def steps : Discipline (Store host) Op Failure Op.Answer Mode where
  sync := Goes
  ask := Asks
  expects := Expected
  answer := Mode.answer

def Ends (_ : Call) (m : Mode) (_ : Except Failure Unit) : Prop := m = .out

/-! ### The steps keep to it -/

variable (host) in
abbrev Stepping {α : Type} (m : Mode) (r : Job host α) (Q : Mode → Except Failure α → Prop) : Prop :=
  Follows (steps host) m r Q

/-- How work of a step ends: where it fails nothing was saved. -/
def Tried (n : Nat) (status : ReleaseStatus) (m : Mode) : Except Failure Unit → Prop
  | .ok _ => ∃ known, m = .turn n known
  | .error _ => ∃ read, m = .turn n (.holding status read)

/-- How a step ends: it has its turn still. -/
def Over (n : Nat) (m : Mode) (result : Except Failure Unit) : Prop := (∃ known, m = .turn n known) ∧ result = .ok ⟨⟩

section
variable {n : Nat} {known : Known} {status : ReleaseStatus} {current next : OrderEscrowRelease} {read : Option Read}

variable {m : Mode} {escrow : StoreEscrow} {work : Job host Unit}

theorem Over.tried {result : Except Failure Unit} (ends : Over n m result) : Tried n status m result := by
  obtain ⟨turn, rfl⟩ := ends
  exact turn

theorem schedule_timer (s : Store host) (delayMs : Int) (due : Step) :
    ∃ timer, s.schedule delayMs due = { s with timer := timer } := by
  unfold Store.schedule
  by_cases stopped : s.stopped
  · rw [if_pos stopped]
    exact ⟨s.timer, rfl⟩
  · rw [if_neg stopped]
    exact ⟨_, rfl⟩

theorem goes_schedule (m : Mode) (s : Store host) (delayMs : Int) (due : Step) : Goes m s (s.schedule delayMs due) m := by
  obtain ⟨timer, same⟩ := schedule_timer s delayMs due
  rw [same]
  exact .times

theorem goes_again (m : Mode) (s : Store host) (due : Step) (delay : Option Int) : Goes m s (scheduleAgain due delay s) m := by
  cases delay with
  | none => exact .same
  | some delay => exact goes_schedule m s delay due

theorem follows_save (may : known.may next.status) :
    Stepping host (.turn n known) (save next) fun m result => m = .turn n .saved ∧ result = .ok ⟨⟩ := by
  intro s
  refine ⟨.turn n .saved, .saves may, .turn n .saved, ⟨rfl, trivial⟩, ?_⟩
  rintro _ rfl
  exact ⟨rfl, rfl⟩

theorem retried_status (delays : List Int) (current : OrderEscrowRelease) (error : Failure) :
    (retried delays current error).1.status = current.status ∨ (retried delays current error).1.status = .failed := by
  unfold retried
  by_cases gaveUp : (delays[current.attempts]?).isNone
  · exact .inr (if_pos gaveUp)
  · exact .inl (if_neg gaveUp)

theorem follows_retry (delays : List Int) (due : Step) (error : Failure) :
    Stepping host (.turn n (.holding current.status read)) (retry delays due current error) (Over n) := by
  intro s
  refine ⟨_, goes_again _ s due _, ?_⟩
  simp only [Routine.bind]
  have may : (Known.holding current.status read).may (retried delays current error).1.status :=
    (retried_status delays current error).imp_right .inl
  apply Follows.seq (R := fun m result => m = .turn n .saved ∧ ∃ saved, result = .ok saved)
  · apply Follows.attempt
    exact (follows_save may).imp fun _ result ends => ⟨ends.1, result, rfl⟩
  · rintro _ _ ⟨rfl, _⟩
    exact ⟨⟨_, rfl⟩, rfl⟩
  · rintro _ _ ⟨_, _, same⟩
    cases same

theorem inWindow_status {shippedAt : Nat} (ran : inWindow escrow shippedAt current = .ok next) : next.status = .shipped := by
  unfold inWindow at ran
  cases first : toISOString shippedAt with
  | error e =>
    rw [first] at ran
    cases ran
  | ok at_ =>
    cases second : toISOString (shippedAt + escrow.releaseWindowSeconds) with
    | error e =>
      rw [first, second] at ran
      cases ran
    | ok after =>
      rw [first, second] at ran
      cases ran
      rfl

theorem fromChain_means {told : Read} (ran : fromChain escrow told current = .ok (some next)) : Means told next.status := by
  unfold fromChain at ran
  unfold Means
  cases stage : told.purchase.status with
  | shipped =>
    simp only [stage] at ran ⊢
    cases opens : inWindow escrow (told.shippedAt.getD 0) { owed with shippedTx := current.shippedTx } with
    | error e =>
      rw [opens] at ran
      cases ran
    | ok window =>
      rw [opens] at ran
      cases ran
      exact inWindow_status opens
  | released | disputed | responded | resolved | expired =>
    simp only [stage] at ran ⊢
    cases ran
    rfl
  | held =>
    simp only [stage] at ran
    cases ran

theorem follows_settle (purchase : Option Read) (known : ∀ told, purchase = some told → read = some told) :
    Stepping host (.turn n (.holding status read)) (settle purchase current) (Tried n status) := by
  cases purchase with
  | none => exact ⟨read, rfl⟩
  | some purchase =>
    obtain rfl := known purchase rfl
    intro s
    refine ⟨_, .same, ?_⟩
    simp only [Routine.bind]
    cases chain : fromChain s.escrow purchase current with
    | error e => exact ⟨_, rfl⟩
    | ok next =>
      cases next with
      | none => exact ⟨_, rfl⟩
      | some next =>
        have may : (Known.holding status (some purchase)).may next.status :=
          .inr (.inr ⟨purchase, rfl, fromChain_means chain⟩)
        apply (follows_save may).seq
        · rintro _ _ ⟨rfl, _⟩
          by_cases shipped : next.status = .shipped
          · rw [if_pos shipped]
            exact fun s => ⟨_, goes_schedule _ s _ _, _, rfl⟩
          · rw [if_neg shipped]
            exact ⟨_, rfl⟩
        · rintro _ _ ⟨_, failed⟩
          cases failed

theorem reads_known (answer : Except Failure (Option Read)) :
    ∃ read', (Known.holding status read).reads answer = .holding status read' ∧
      ∀ told, answer = .ok (some told) → read' = some told := by
  rcases answer with e | _ | told
  · exact ⟨read, rfl, fun _ same => by cases same⟩
  · exact ⟨read, rfl, fun _ same => by cases same⟩
  · exact ⟨some told, rfl, fun _ same => by cases same; rfl⟩

theorem follows_read : Stepping host (.turn n (.holding status read)) (ask .read) fun m result =>
    ∃ read', m = .turn n (.holding status read') ∧ ∀ told, result = .ok (some told) → read' = some told := by
  refine ⟨.turn n (.holding status read), ⟨rfl, rfl⟩, fun answer _ => follows_ofExcept ?_⟩
  obtain ⟨read', now, told⟩ := reads_known answer
  exact ⟨read', congrArg (Mode.turn n) now, told⟩

theorem follows_settleRead : Stepping host (.turn n (.holding status read)) (settleRead current) (Tried n status) := by
  apply follows_read.seq
  · rintro _ purchase ⟨read', rfl, told⟩
    exact follows_settle purchase fun t same => told t (by rw [same])
  · rintro _ _ ⟨read', rfl, _⟩
    exact ⟨read', rfl⟩

theorem follows_trying (delays : List Int) (due : Step) (follows : Stepping host m work (Tried n current.status)) :
    Stepping host m (trying delays due current work) (Over n) := by
  apply Follows.seq (R := fun m result => ∃ tried, result = .ok tried ∧ Tried n current.status m tried)
  · apply Follows.attempt
    exact follows.imp fun _ tried ends => ⟨tried, rfl, ends⟩
  · rintro _ tried ⟨_, same, ends⟩
    cases same
    cases tried with
    | ok _ =>
      obtain ⟨known, rfl⟩ := ends
      exact ⟨⟨known, rfl⟩, rfl⟩
    | error e =>
      obtain ⟨read', rfl⟩ := ends
      exact follows_retry delays due e
  · rintro _ _ ⟨_, same, _⟩
    cases same

theorem follows_sending {call : Job host String} {otherwise : Failure → Job host Unit} {landed : String → Job host Unit}
    {moved : Job host Unit}
    (calls : Stepping host (.turn n (.holding status read)) call fun m _ => m = .turn n (.holding status read))
    (fails : ∀ e, Stepping host (.turn n (.holding status read)) (otherwise e) (Tried n status))
    (lands : ∀ txHash, Stepping host (.turn n (.holding status read)) (landed txHash) (Tried n status))
    (moves : Stepping host (.turn n (.holding status read)) moved (Tried n status)) :
    Stepping host (.turn n (.holding status read)) (sending call otherwise landed moved) (Tried n status) := by
  apply Follows.seq (R := fun m result => m = .turn n (.holding status read) ∧ ∃ sent, result = .ok sent)
  · apply Follows.attempt
    exact calls.imp fun _ sent ends => ⟨ends, sent, rfl⟩
  · rintro _ sent ⟨rfl, _⟩
    cases sent with
    | ok txHash => exact lands txHash
    | error e =>
      by_cases wrong : e.code = some WRONG_STATUS
      · simp only [wrong, if_true]
        exact moves
      · simp only [wrong, if_false]
        exact fails e
  · rintro _ _ ⟨_, _, same⟩
    cases same

theorem follows_ship (delays : List Int) :
    Stepping host (.turn n (.holding current.status read)) (ship delays current) (Tried n current.status) := by
  apply follows_read.seq
  · rintro _ purchase ⟨read', rfl, told⟩
    by_cases held : purchase.any (·.purchase.status = .held)
    · simp only [held, if_true]
      apply follows_sending
      · exact ⟨_, ⟨rfl, trivial⟩, fun _ _ => follows_ofExcept rfl⟩
      · exact fun e => ⟨read', rfl⟩
      · intro txHash
        have tries : Stepping host (.turn n (.holding current.status read'))
            (trying delays .ship { current with shippedTx := some txHash }
              (settleRead { current with shippedTx := some txHash })) (Over n) :=
          follows_trying delays .ship follows_settleRead
        exact tries.imp fun _ _ ends => ends.tried
      · exact follows_settleRead
    · simp only [held]
      exact follows_settle purchase fun t same => told t (by rw [same])
  · rintro _ _ ⟨read', rfl, _⟩
    exact ⟨read', rfl⟩

theorem follows_waitFor (told : Read) (error : Failure) :
    Stepping host (.turn n (.holding status read)) (waitFor told current error) (Tried n status) := by
  unfold waitFor
  by_cases early : error.code = some RELEASE_TOO_EARLY
  · rw [if_pos early]
    intro s
    refine ⟨_, .same, ?_⟩
    simp only [Routine.bind]
    cases fromChain s.escrow told current with
    | error e => exact ⟨_, rfl⟩
    | ok window =>
      intro s
      cases window with
      | none => exact ⟨_, goes_schedule _ s _ _, _, rfl⟩
      | some window => exact ⟨_, goes_schedule _ s _ _, _, rfl⟩
  · rw [if_neg early]
    exact ⟨read, rfl⟩

theorem follows_pay (delays : List Int) :
    Stepping host (.turn n (.holding current.status read)) (pay delays current) (Tried n current.status) := by
  apply follows_read.seq
  · rintro _ purchase ⟨read', rfl, _⟩
    cases purchase with
    | none => exact follows_settleRead
    | some told =>
      by_cases shipped : told.purchase.status = .shipped
      · simp only [shipped, if_true]
        apply follows_sending
        · exact ⟨_, ⟨rfl, trivial⟩, fun _ _ => follows_ofExcept rfl⟩
        · exact follows_waitFor told
        · intro txHash
          have tries : Stepping host (.turn n (.holding current.status read'))
              (trying delays .release { current with releaseTx := some txHash }
                (settleRead { current with releaseTx := some txHash })) (Over n) :=
            follows_trying delays .release follows_settleRead
          exact tries.imp fun _ _ ends => ends.tried
        · exact follows_settleRead
      · simp only [shipped, if_false]
        exact follows_settleRead
  · rintro _ _ ⟨read', rfl, _⟩
    exact ⟨read', rfl⟩

theorem mayShip_early (may : mayShip current = true) : current.status.final = false := by
  unfold mayShip at may
  cases stage : current.status <;> simp [stage] at may <;> rfl

theorem mayRelease_early (may : mayRelease current = true) : current.status.final = false := by
  unfold mayRelease at may
  cases stage : current.status <;> simp [stage] at may <;> rfl

theorem held_order {s : Store host} {order : OrderRecord} (held : s.held = some order) : order = s.order := by
  unfold Store.held at held
  split at held
  · split_ifs at held
    cases held
    rfl
  · cases held

theorem follows_markShipped (delays : List Int) : Stepping host (.turn n .nothing) (markShipped delays) (Over n) := by
  intro s
  cases held : s.held with
  | none =>
    refine ⟨_, .same, ?_⟩
    simp only [Routine.bind, held]
    exact ⟨⟨_, rfl⟩, rfl⟩
  | some order =>
    obtain rfl := held_order held
    by_cases may : s.order.fulfillmentState = some .fulfilled ∧ mayShip s.order.standing
    · refine ⟨_, .looks (mayShip_early may.2), ?_⟩
      simp only [Routine.bind, held, may, and_self, if_true]
      exact follows_trying delays .ship (follows_ship delays)
    · refine ⟨_, .same, ?_⟩
      simp only [Routine.bind, held, may, if_false]
      exact ⟨⟨_, rfl⟩, rfl⟩

theorem follows_release (delays : List Int) : Stepping host (.turn n .nothing) (release delays) (Over n) := by
  intro s
  cases held : s.held with
  | none =>
    refine ⟨_, .same, ?_⟩
    simp only [Routine.bind, held]
    exact ⟨⟨_, rfl⟩, rfl⟩
  | some order =>
    obtain rfl := held_order held
    cases kept : s.order.escrowRelease with
    | none =>
      refine ⟨_, .same, ?_⟩
      simp only [Routine.bind, held, kept]
      exact ⟨⟨_, rfl⟩, rfl⟩
    | some current =>
      have standing : s.order.standing = current := by rw [OrderRecord.standing, kept]; rfl
      by_cases may : mayRelease current
      · have early : s.order.status.final = false := by
          rw [OrderRecord.status, standing]
          exact mayRelease_early may
        refine ⟨_, .looks early, ?_⟩
        simp only [Routine.bind, held, kept, may, if_true]
        rw [OrderRecord.status, standing]
        exact follows_trying delays .release (follows_pay delays)
      · refine ⟨_, .same, ?_⟩
        simp only [Routine.bind, held, kept, may]
        exact ⟨⟨_, rfl⟩, rfl⟩

theorem follows_serialized (follows : ∀ n, Stepping host (.turn n .nothing) work (Over n)) :
    Stepping host .out (serialized work) fun m _ => m = .out := by
  intro s
  refine ⟨_, .draws, ?_⟩
  simp only [Routine.bind]
  refine ⟨_, ⟨rfl, rfl⟩, ?_⟩
  rintro _ rfl
  change Stepping host (.turn s.running.drawn .nothing) (Routine.bind (Routine.finally_ _ work.attempt) _) _
  apply Follows.seq (R := fun m _ => m = .out)
  · apply Follows.finally_
    apply Follows.attempt
    apply (follows s.running.drawn).imp
    rintro _ _ ⟨⟨known, rfl⟩, _⟩ s'
    exact ⟨.out, .leaves, rfl⟩
  · rintro _ _ rfl
    rfl
  · rintro _ _ rfl
    rfl

theorem follows_body (delays : List Int) (call : Call) : Stepping host .out (body delays call) (Ends call) := by
  cases call with
  | afterShipment => exact follows_serialized fun _ => follows_markShipped delays
  | timer =>
    intro s
    refine ⟨_, .times, ?_⟩
    simp only [Routine.bind]
    cases s.timer with
    | none => rfl
    | some due =>
      obtain ⟨due, _⟩ := due
      cases due with
      | ship => exact follows_serialized fun _ => follows_markShipped delays
      | release => exact follows_serialized fun _ => follows_release delays
  | resume =>
    intro s
    refine ⟨.out, ?_, rfl⟩
    unfold Store.resumed
    split
    · exact .same
    · split
      · exact .same
      · split_ifs
        · exact goes_schedule _ s _ _
        · exact goes_schedule _ s _ _
        · exact .same

end

/-! ### What every run keeps -/

/-- Where an order stands is what a step that holds it has, and what it read is a state of the purchase. -/
def Knows (s : Store host) : Mode → Prop
  | .turn _ (.holding status read) =>
    s.order.status = status ∧ status.final = false ∧ ∀ told, read = some told → ∃ p ∈ s.states, asRead p = some told
  | _ => True

abbrev Modes := List (Call × Option Mode)

variable (order_ref : Bytes) (id : BytesN 32) (config : Config)

structure Kept (s : Store host) (ms : Modes) : Prop where
  observed : Observed order_ref id config s.world s.states
  turns : InTurn Mode.place s.running ms
  knows : ∀ {i : Nat} {c m}, ms[i]? = some (c, some m) → Knows s m
  last : s.versions.getLast? = some s.order
  onward : s.versions.Pairwise Onward
  reached : ∀ order ∈ s.versions, Reached s.states order.status

section
variable {order_ref id config} {s s' : Store host} {ms : Modes} {i : Nat} {c : Call} {m m' : Mode} {order : OrderRecord}
  {states more : List Purchase} {status : ReleaseStatus}

theorem Reached.append (reached : Reached states status) : Reached (states ++ more) status := by
  rcases reached with pending | failed | ⟨p, among, names⟩
  · exact .inl pending
  · exact .inr (.inl failed)
  · exact .inr (.inr ⟨p, List.mem_append_left _ among, names⟩)

theorem Means.reached {told : Read} (means : Means told status) {p : Purchase} (among : p ∈ states)
    (read : asRead p = some told) : Reached states status := by
  refine .inr (.inr ⟨p, among, ?_⟩)
  obtain ⟨purchase, decoded, rfl⟩ := Option.map_eq_some_iff.mp read
  unfold decodePurchase at decoded
  split_ifs at decoded
  cases decoded
  unfold Means at means
  cases stage : p.status <;> simp only [EscrowEvents.asRead, stage, statusMap] at means <;> subst means <;>
    simp [ReleaseStatus.names]

theorem Onward.trans {first second third : OrderRecord} (one : Onward first second) (two : Onward second third) :
    Onward first third := by
  intro final
  have same := one final
  rw [two (same ▸ final), same]

theorem pairwise_concat {versions : List OrderRecord} (sorted : versions.Pairwise Onward)
    (last : versions.getLast? = some order) {next : OrderRecord} (onward : Onward order next) :
    (versions ++ [next]).Pairwise Onward := by
  obtain ⟨front, rfl⟩ := List.getLast?_eq_some_iff.mp last
  refine List.pairwise_append.mpr ⟨sorted, List.pairwise_singleton _ _, fun earlier among later same => ?_⟩
  obtain rfl := List.mem_singleton.mp same
  rcases List.mem_append.mp among with old | new
  · exact ((List.pairwise_append.mp sorted).2.2 earlier old order (List.mem_singleton_self _)).trans onward
  · rwa [List.mem_singleton.mp new]

theorem versions_update (s : Store host) (change : OrderRecord → OrderRecord) :
    (s.update change).versions = s.versions ++ [change s.order] := by
  simp [Store.versions, Store.update]

theorem Kept.latest (kept : Kept order_ref id config s ms) : s.order ∈ s.versions := List.mem_of_getLast? kept.last

theorem knows_idle (idle : ∀ n, m.place ≠ .has n) (s : Store host) : Knows s m := by
  cases m with
  | out | waits => trivial
  | turn n known => exact (idle n rfl).elim

theorem Knows.same (knows : Knows s m) (order : s'.order.status = s.order.status) (states : s'.states = s.states ++ more) :
    Knows s' m := by
  cases m with
  | out | waits => trivial
  | turn n known =>
    cases known with
    | nothing | saved => trivial
    | holding status read =>
      obtain ⟨standing, early, told⟩ := knows
      refine ⟨order.trans standing, early, fun t same => ?_⟩
      obtain ⟨p, among, reads⟩ := told t same
      exact ⟨p, states ▸ List.mem_append_left _ among, reads⟩

variable {n : Nat} {change : OrderRecord → OrderRecord} {o : Op} {input : Input}

section
variable (kept : Kept order_ref id config s ms)
include kept

theorem Kept.others (mode : ms[i]? = some (c, some m)) (has : m.place = .has n) {j : Nat} {d : Call} (other : j ≠ i)
    (found : ms[j]? = some (d, some m')) (s' : Store host) : Knows s' m' :=
  knows_idle (fun _ has' => other (kept.turns.one found mode has' has)) s'

theorem Kept.mode (mode : ms[i]? = some (c, some m)) (place : m'.place = m.place)
    (knows : Knows s m') : Kept order_ref id config s (ms.set i (c, some m')) where
  observed := kept.observed
  turns := kept.turns.stays mode place
  knows found := all_set knows (fun _ _ _ _ old => kept.knows old) found
  last := kept.last
  onward := kept.onward
  reached := kept.reached

theorem Kept.aside (observed : Observed order_ref id config s'.world s'.states) (running : s'.running = s.running)
    (states : s'.states = s.states ++ more) (order : s'.order = s.order)
    (versions : s'.versions = s.versions) : Kept order_ref id config s' ms where
  observed := observed
  turns := running ▸ kept.turns
  knows found := (kept.knows found).same (by rw [order]) states
  last := by rw [versions, order, kept.last]
  onward := versions ▸ kept.onward
  reached order among := by
    rw [states]
    exact (kept.reached order (versions ▸ among)).append

theorem Kept.updates (onward : Onward s.order (change s.order)) (reached : Reached s.states (change s.order).status)
    {ms' : Modes} (turns : InTurn Mode.place s.running ms')
    (knows : ∀ {j : Nat} {d m'}, ms'[j]? = some (d, some m') → Knows (s.update change) m') :
    Kept order_ref id config (s.update change) ms' where
  observed := kept.observed
  turns := turns
  knows := knows
  last := by
    rw [versions_update, List.getLast?_concat]
    rfl
  onward := by
    rw [versions_update]
    exact pairwise_concat kept.onward kept.last onward
  reached order among := by
    rw [versions_update] at among
    rcases List.mem_append.mp among with old | new
    · exact kept.reached order old
    · rw [List.mem_singleton.mp new]
      exact reached

theorem Kept.edits (same : (change s.order).status = s.order.status) : Kept order_ref id config (s.update change) ms := by
  refine kept.updates (fun _ => same) ?_ kept.turns fun {j d m'} found => ?_
  · rw [same]
    exact kept.reached _ kept.latest
  · exact (kept.knows found).same same (List.append_nil _).symm

theorem Kept.saves {known : Known} (mode : ms[i]? = some (c, some (.turn n known))) {next : OrderEscrowRelease}
    (may : known.may next.status) : Kept order_ref id config (s.save next) (ms.set i (c, some (.turn n .saved))) := by
  have knows : Knows s (.turn n known) := kept.knows mode
  cases known with
  | nothing | saved => exact may.elim
  | holding status read =>
    obtain ⟨standing, early, told⟩ := knows
    have onward : Onward s.order { s.order with escrowRelease := some next } := by
      intro final
      rw [standing, early] at final
      cases final
    have reached : Reached s.states next.status := by
      rcases may with same | failed | ⟨t, known, means⟩
      · rw [same, ← standing]
        exact kept.reached _ kept.latest
      · exact .inr (.inl failed)
      · obtain ⟨p, among, reads⟩ := told t known
        exact means.reached among reads
    show Kept order_ref id config (s.update fun order => { order with escrowRelease := some next }) _
    refine kept.updates onward (by exact reached) (kept.turns.stays mode rfl) fun {j d m'} found => ?_
    exact all_set trivial (fun _ _ _ other old => kept.others mode rfl other old _) found

theorem Kept.goes (mode : ms[i]? = some (c, some m)) (goes : Goes m s s' m') :
    Kept order_ref id config s' (ms.set i (c, some m')) := by
  have knows := kept.knows mode
  cases goes with
  | same => exact kept.mode mode rfl knows
  | times =>
    exact (kept.mode mode rfl knows).aside kept.observed rfl (List.append_nil _).symm rfl rfl
  | draws =>
    refine ⟨kept.observed, kept.turns.draws rfl, fun found => ?_, kept.last, kept.onward, kept.reached⟩
    exact all_set trivial (fun _ _ _ _ old => (kept.knows old).same rfl (List.append_nil _).symm) found
  | looks early => exact kept.mode mode rfl ⟨rfl, early, fun _ none_ => by cases none_⟩
  | saves may => exact kept.saves mode may
  | leaves =>
    refine ⟨kept.observed, kept.turns.leaves mode rfl rfl, fun found => ?_, kept.last, kept.onward, kept.reached⟩
    exact all_set trivial (fun _ _ _ _ old => (kept.knows old).same rfl (List.append_nil _).symm) found

theorem Kept.asks (mode : ms[i]? = some (c, some m)) (asks : Asks m o m') :
    Kept order_ref id config s (ms.set i (c, some m')) := by
  rw [asks.1, set_same mode]
  exact kept

theorem Kept.chain (action : PurchaseEscrow.Action host) :
    Kept order_ref id config (s.chain order_ref (PurchaseEscrow.step s.world action).1) ms := by
  obtain ⟨more, grown, observed⟩ := kept.observed.call action
  exact kept.aside observed rfl grown rfl rfl

theorem Kept.lands {env : Env} {call : PurchaseEscrow.Call} {after : World host}
    (ran : invoke env call s.world = .ok after) : Kept order_ref id config (s.chain order_ref after) ms := by
  have one : (PurchaseEscrow.step s.world (.call env call)).1 = after := by rw [PurchaseEscrow.step, ran]
  rw [← one]
  exact kept.chain (.call env call)

theorem Kept.sent (call : PurchaseEscrow.Call) (input : Input) :
    Kept order_ref id config (sent order_ref call input s).2 ms := by
  unfold EscrowReleases.sent
  split
  · rename_i ran _
    exact kept.lands ran
  · rename_i ran _
    by_cases lands : input.lands
    · simp only [lands, if_true]
      exact kept.lands ran
    · simp only [lands]
      exact kept
  · exact kept
  · exact kept

end

theorem serve_read {answer : Except Failure (Option Read)} (served : serve order_ref .read input s = some (answer, s')) :
    s' = s ∧ ∀ told, answer = .ok (some told) → ∃ p ∈ s.states, asRead p = some told := by
  rw [serve] at served
  split at served
  · cases served
    exact ⟨rfl, fun _ same => by cases same⟩
  · split at served
    · cases served
      exact ⟨rfl, fun _ same => by cases same⟩
    · rename_i p last
      split at served
      · rename_i read reads
        cases served
        refine ⟨rfl, fun told same => ?_⟩
        cases same
        exact ⟨p, List.mem_of_mem_take (List.mem_of_getLast? last), reads⟩
      · cases served
        exact ⟨rfl, fun _ same => by cases same⟩

theorem Kept.serve (kept : Kept order_ref id config s ms) (mode : ms[i]? = some (c, some m)) {m₀ : Mode} (asks : Asks m₀ o m)
    {answer : Except Failure o.Answer} (served : serve order_ref o input s = some (answer, s')) :
    Expected o answer ∧ Kept order_ref id config s' (ms.set i (c, some (m.answer o answer))) := by
  cases o with
  | before k =>
    cases m₀ with
    | waits n =>
      obtain ⟨rfl, turn⟩ := asks
      obtain rfl : k = n := turn
      rw [EscrowReleases.serve] at served
      split_ifs at served with turn
      cases served
      refine ⟨rfl, kept.observed, kept.turns.enters mode (congrArg Place.waits turn) (congrArg Place.has turn),
        fun found => ?_, kept.last, kept.onward, kept.reached⟩
      exact all_set trivial (fun _ _ _ _ old => kept.knows old) found
    | out => exact asks.2.elim
    | turn n known => exact asks.2.elim
  | read =>
    obtain ⟨rfl, told⟩ := serve_read served
    refine ⟨trivial, ?_⟩
    obtain ⟨rfl, holds⟩ := asks
    cases m with
    | out | waits => exact holds.elim
    | turn n known =>
      cases known with
      | nothing | saved => cases holds
      | holding status read =>
        obtain ⟨standing, early, before⟩ := kept.knows mode
        refine kept.mode mode rfl ?_
        rcases answer with e | _ | t
        · exact ⟨standing, early, before⟩
        · exact ⟨standing, early, before⟩
        · refine ⟨standing, early, fun u same => ?_⟩
          cases same
          exact told t rfl
  | markShipped =>
    have after : (EscrowReleases.sent order_ref (.mark_shipped order_ref) input s).2 = s' :=
      congrArg Prod.snd (Option.some.inj served)
    have same : m.answer .markShipped answer = m := by cases m <;> rfl
    refine ⟨trivial, ?_⟩
    rw [same, set_same mode, ← after]
    exact kept.sent _ input
  | release =>
    have after : (EscrowReleases.sent order_ref (.release order_ref) input s).2 = s' :=
      congrArg Prod.snd (Option.some.inj served)
    have same : m.answer .release answer = m := by cases m <;> rfl
    refine ⟨trivial, ?_⟩
    rw [same, set_same mode, ← after]
    exact kept.sent _ input
  | saved n =>
    rw [EscrowReleases.serve] at served
    split_ifs at served
    cases served
    have same : m.answer (.saved n) (.ok ⟨⟩) = m := by cases m <;> rfl
    refine ⟨rfl, ?_⟩
    rw [same, set_same mode]
    exact kept

theorem recordShipment_status (state : FulfillmentState) (order : OrderRecord) :
    (recordShipment state order).status = order.status := by
  have first : ∀ o : OrderRecord, o.escrowRelease = order.escrowRelease →
      (if o.fulfillmentState = some .fulfilled ∧ (o.hold.any (·.status = .held)) ∧ o.escrowRelease.isNone then
        { o with escrowRelease := some owed } else o).status = order.status := by
    intro o same
    by_cases owes : o.fulfillmentState = some .fulfilled ∧ (o.hold.any (·.status = .held)) ∧ o.escrowRelease.isNone
    · rw [if_pos owes, OrderRecord.status, OrderRecord.status, OrderRecord.standing, OrderRecord.standing, ← same,
        Option.isNone_iff_eq_none.mp owes.2.2]
      rfl
    · rw [if_neg owes, OrderRecord.status, OrderRecord.status, OrderRecord.standing, OrderRecord.standing, same]
  unfold recordShipment
  apply first
  by_cases moves : order.fulfillmentState ≠ some .fulfilled ∨ state ≠ .partly
  · rw [if_pos moves]
  · rw [if_neg moves]

section
variable (kept : Kept order_ref id config s ms)
include kept

theorem Kept.outside (k : Outside host) : Kept order_ref id config (outside order_ref k s) ms := by
  cases k with
  | chain action => exact kept.chain action
  | clock now => exact kept.aside kept.observed rfl (List.append_nil _).symm rfl rfl
  | shipment state => exact kept.edits (recordShipment_status state s.order)
  | canceled =>
    show Kept order_ref id config (s.update fun order => { order with fulfillmentState := some .canceled }) ms
    exact kept.edits rfl
  | hold status =>
    show Kept order_ref id config
      (s.update fun order => { order with hold := order.hold.map fun hold => { hold with status := status } }) ms
    exact kept.edits rfl
  | written =>
    rw [EscrowReleases.outside]
    split
    · exact kept
    · rename_i first rest queued
      refine kept.aside kept.observed rfl (List.append_nil _).symm rfl ?_
      simp [Store.versions, queued]
  | stop => exact kept.aside kept.observed rfl (List.append_nil _).symm rfl rfl
  | configure escrow => exact kept.aside kept.observed rfl (List.append_nil _).symm rfl rfl

theorem Kept.crash : Kept order_ref id config (restart s) (ms.map fun call => (call.1, none)) := by
  have stored : s.versions = (restart s).versions ++ s.queued := by simp [Store.versions, restart]
  refine ⟨kept.observed, inTurn_kill, fun found => ?_, ?_, ?_, fun order among => ?_⟩
  · cases mode_of_kill found
  · simp [Store.versions, restart]
  · have sorted := kept.onward
    rw [stored] at sorted
    exact (List.pairwise_append.mp sorted).1
  · exact kept.reached order (stored ▸ List.mem_append_left _ among)

theorem Kept.start (c : Call) : Kept order_ref id config s (ms ++ [(c, some .out)]) := by
  refine ⟨kept.observed, kept.turns.starts rfl, fun found => ?_, kept.last, kept.onward, kept.reached⟩
  exact all_append trivial (fun _ _ _ old => kept.knows old) found

theorem Kept.finish (i : Nat) (c : Call) : Kept order_ref id config s (ms.set i (c, none)) := by
  refine ⟨kept.observed, kept.turns.ends, fun found => ?_, kept.last, kept.onward, kept.reached⟩
  exact all_over (fun _ _ _ _ old => kept.knows old) found

end

end

/-! ### Whole runs -/

theorem keeps_kept (delays : List Int) :
    Keeps (releases delays order_ref) (steps host) Ends (fun s ms _ => Kept order_ref id config s ms)
      (fun _ s ms _ => Kept order_ref id config s ms) fun _ _ _ => True where
  start kept _ _ := ⟨_, follows_body delays _, kept.start _⟩
  resume kept _ _ := kept
  sync kept mode goes := kept.goes mode goes
  ask kept mode asks _ _ _ := kept.asks mode asks
  serve kept _ mode _ _ asks served := kept.serve mode asks served
  finish kept _ _ _ _ := kept.finish _ _
  outside kept _ := kept.outside _
  crash kept _ _ := kept.crash

theorem kept_opened {world : World host} (deployed : Deployed world) (hold : Option OrderHold) (escrow : StoreEscrow)
    (now : Int) : Kept order_ref world.id world.config (opened world hold escrow now) [] := by
  refine ⟨EscrowWatch.observed_deployed order_ref deployed, inTurn_nil, fun found => ?_, rfl, List.pairwise_singleton _ _,
    fun order among => ?_⟩
  · simp at found
  · rw [List.mem_singleton.mp among]
    exact .inl rfl

/-- The contract's purchase has been in the stage that a status names, and is in it still or in a later one. -/
def AtLeast (s : Store host) (status : ReleaseStatus) : Prop :=
  ∃ p now, p ∈ s.states ∧ status.names p.status ∧ get s.world order_ref = some now ∧
    mayPrecede p.status now.status = true

theorem Kept.atLeast {order_ref id config} {s : Store host} {ms : Modes} (kept : Kept order_ref id config s ms)
    {order : OrderRecord} (among : order ∈ s.versions)
    (stage : order.status = .shipped ∨ order.status = .released ∨ order.status = .disputed) :
    AtLeast order_ref s order.status := by
  rcases kept.reached order among with pending | failed | ⟨p, member, names⟩
  · rw [pending] at stage
    simp at stage
  · rw [failed] at stage
    simp at stage
  · obtain ⟨k, first⟩ := List.getElem?_of_mem member
    have inside := (List.getElem?_eq_some_iff.mp first).1
    obtain ⟨now, last⟩ : ∃ now, s.states[s.states.length - 1]? = some now :=
      ⟨_, List.getElem?_eq_getElem (by omega)⟩
    have current : get s.world order_ref = some now := by
      rw [← kept.observed.current, List.getLast?_eq_getElem?, last]
    exact ⟨p, now, member, names, current, mayPrecede_later (later_of_getElem kept.observed.chain (by omega) first last)⟩

/-- However the steps of an order run beside the calls of anybody, and whatever becomes of their own, with crashes anywhere:
    no version of the order, in memory or in the database, says of the purchase what it has not come to, and a final
    status is that of every later version. -/
theorem release_status_true {world : World host} (deployed : Deployed world) (delays : List Int) (hold : Option OrderHold)
    (escrow : StoreEscrow) (now : Int) (actions : List (Action Call Input (Outside host))) :
    let s := (Traces.exec (step (releases delays order_ref)) ⟨opened world hold escrow now, []⟩ actions).1.shared
    s.order ∈ s.versions ∧ s.row ∈ s.versions ∧
      (∀ order ∈ s.versions, order.status = .shipped ∨ order.status = .released ∨ order.status = .disputed →
        AtLeast order_ref s order.status) ∧
      s.versions.Pairwise fun order later =>
        order.status = .released ∨ order.status = .disputed → later.status = order.status := by
  intro s
  have start : Holds (steps host) Ends (fun s ms _ => Kept order_ref world.id world.config s ms)
      ⟨opened world hold escrow now, []⟩ [] := ⟨[], kept_opened order_ref deployed hold escrow now, aligned_nil⟩
  obtain ⟨ms, kept, _⟩ := kept_along (keeps_kept order_ref world.id world.config delays) start actions fun _ _ _ _ => trivial
  refine ⟨kept.latest, by simp [Store.versions], fun order among => kept.atLeast among, ?_⟩
  refine kept.onward.imp fun {order later} onward final => onward ?_
  rcases final with released | disputed
  · rw [released]
    rfl
  · rw [disputed]
    rfl

def goOn (i n : Nat) (timestamp : UInt64) (failure : Option Failure) : List (Action Call Input (Outside sampleHost)) :=
  (List.replicate n [.perform i ⟨failure, true, sampleEnv timestamp, "transaction", 0⟩, .resume i]).flatten

/-- An order is held and shipped; the release lands, and is reported as refused. -/
def sampleSteps : List (Action Call Input (Outside sampleHost)) :=
  ((sampleRelease.take 1).map (fun call => .outside (.chain call)) : List (Action Call Input (Outside sampleHost))) ++
    ([.outside (.hold .held), .outside (.shipment .fulfilled), .start .afterShipment] :
      List (Action Call Input (Outside sampleHost))) ++ goOn 0 4 1 none ++
    (List.replicate 3 (.outside .written) : List (Action Call Input (Outside sampleHost))) ++ goOn 0 1 1 none ++
    ([.start .timer] : List (Action Call Input (Outside sampleHost))) ++ goOn 1 2 11 none ++
    goOn 1 1 11 (some ⟨"Error(Contract, #8)", some WRONG_STATUS⟩) ++ goOn 1 1 11 none

theorem release_status_true_sample :
    let s := (Traces.exec (step (releases RELEASE_RETRY_DELAYS_MS [1]))
      ⟨opened sampleWorld (some ⟨.pending, sampleAddress 7⟩) ⟨sampleAddress 7, 10⟩ 0, []⟩ sampleSteps).1.shared
    s.order.status = .released ∧ s.row.status = .shipped ∧ AtLeast [1] s s.order.status := by
  intro s
  have released : s.order.status = .released := by decide +kernel
  obtain ⟨latest, _, true_, _⟩ := release_status_true [1] sampleWorld_deployed RELEASE_RETRY_DELAYS_MS
    (some ⟨.pending, sampleAddress 7⟩) ⟨sampleAddress 7, 10⟩ 0 sampleSteps
  exact ⟨released, by decide +kernel, true_ s.order latest (.inr (.inl released))⟩

end AgentPey.EscrowReleases
