import AgentPey.Disciplines
import AgentPey.EscrowEvents
import Mathlib.Data.List.Chain

/-!
How a store follows the escrow of one order (`checkEscrow` and `readEscrow` of
`ucp/order-events.ts`). Between two reads the contract may take any calls; a read
may fail, and the process may crash before or after its result is saved. What the
platform is told by all of them is what it would be told by a read of every state.
-/
namespace AgentPey.EscrowWatch
open Soroban Store PurchaseEscrow EscrowLife EscrowHistory EscrowEvents Routines Disciplines

def ESCROW_CHECK_MIN_INTERVAL_MS : Int := 15000
def ESCROW_BASELINE_RECENT_MS : Int := 24 * 60 * 60000

structure EscrowSeen where
  status : EscrowStatus
  at_ : Int

/-- A change that was told, as it is logged, and when it was found. -/
structure Change where
  previous : EscrowStatus
  status : EscrowStatus
  events : List OrderWebhookEvent
  foundAt : Int

structure OrderWebhookDelivery where
  event : OrderWebhookEvent
  pending : Bool

/-- What of an order the escrow's watch reads and writes, and all it has told so far. -/
structure OrderRecord where
  createdAt : Int
  webhook : Option (List OrderWebhookDelivery)
  ucpCheckoutId : Option String
  held : Bool
  escrowSeen : Option EscrowSeen
  told : List Change

/-- The escrow with every state the order's purchase has had in it; the order in memory, in the database and as writes
    under way have it; and what the process remembers of its checks. -/
structure Store (host : Host) where
  world : World host
  states : List Purchase
  order : OrderRecord
  row : OrderRecord
  queued : List OrderRecord
  now : Int
  stopped : Bool
  escrowCheck : Bool
  escrowCheckedAt : Option Int

/-- Whether a read of the escrow came through. -/
inductive EscrowLookup where
  | none
  | found (purchase : EscrowPurchase)
  | unavailable

structure Failure where
  message : String

/-- A read of the escrow, one of the dispute's documents for a delivery, or the write of an order. -/
inductive Op where
  | escrow
  | disputes
  | save (order : OrderRecord)

abbrev Op.Answer : Op → Type
  | .escrow => EscrowLookup
  | .disputes => Unit
  | .save _ => Unit

/-- How the outside answers: a read may not come through, and a write that fails may still have landed. -/
structure Input where
  failure : Option Failure
  lands : Bool

variable {host : Host}

abbrev Watch (host : Host) := Routine (Store host) Op Failure Op.Answer

abbrev ask (o : Op) : Watch host o.Answer := Routine.ask o

/-! ### The checks -/

def MAX_DELIVERIES : Nat := 20

def dropFinished : Nat → List OrderWebhookDelivery → List OrderWebhookDelivery
  | 0, deliveries => deliveries
  | n + 1, deliveries =>
    if deliveries.length ≤ MAX_DELIVERIES then deliveries
    else
      match deliveries.findIdx? fun d => !d.pending with
      | none => deliveries
      | some finished => dropFinished n (deliveries.eraseIdx finished)

def appendDeliveries (order : OrderRecord) (added : List OrderWebhookDelivery) : OrderRecord :=
  match order.webhook with
  | none => order
  | some old =>
    if added = [] then order
    else { order with webhook := some (dropFinished (old ++ added).length (old ++ added)) }

def deliveriesOf : List OrderWebhookEvent → Watch host (List OrderWebhookDelivery)
  | [] => pure []
  | event :: rest => do
    let _ ← ask .disputes
    let later ← deliveriesOf rest
    pure (⟨event, true⟩ :: later)

/-- The state that the platform was last told of. An order whose first read comes late starts from what it finds. -/
def previousOf (order : OrderRecord) (now : Int) (status : EscrowStatus) : EscrowStatus :=
  match order.escrowSeen with
  | some seen => seen.status
  | none => if now - order.createdAt < ESCROW_BASELINE_RECENT_MS then .held else status

def record (change : Change) (added : List OrderWebhookDelivery) (at_ : Int) (order : OrderRecord) : OrderRecord :=
  appendDeliveries { order with escrowSeen := some ⟨change.status, at_⟩, told := order.told ++ [change] } added

def tell (order : OrderRecord) (purchase : EscrowPurchase) : Watch host Unit := do
  let s ← Routine.read
  let previous := previousOf order s.now purchase.status
  if previous = purchase.status ∧ order.escrowSeen.isSome then pure ()
  else
    let events := escrowEvents previous purchase
    let deliveries ← deliveriesOf events
    let s' ← Routine.read
    -- A store replaced meanwhile writes nothing.
    if s'.stopped then pure ()
    else
      let change : Change := ⟨previous, purchase.status, events, s.now⟩
      let order ← Routine.atomic fun s =>
        (record change deliveries s.now s.order, { s with order := record change deliveries s.now s.order })
      ask (.save order)

def readEscrow : Watch host Unit := do
  let s ← Routine.read
  let order := s.order
  if s.stopped ∨ order.webhook.isNone ∨ order.ucpCheckoutId.isNone ∨ ¬order.held then pure ()
  else
    Routine.modify fun s => { s with escrowCheckedAt := some s.now }
    let lookup ← ask .escrow
    match lookup with
    | .found purchase => tell order purchase
    | _ => pure ()

/-- One read at a time, and unless it is forced at most one every fifteen seconds. -/
def mayCheck (force : Bool) (s : Store host) : Bool × Store host :=
  if s.stopped ∨ s.escrowCheck then (false, s)
  else if ¬force ∧ (s.escrowCheckedAt.any fun last => s.now - last < ESCROW_CHECK_MIN_INTERVAL_MS) then (false, s)
  else (true, { s with escrowCheck := true })

def checkEscrow (force : Bool) : Watch host Unit := do
  let may ← Routine.atomic (mayCheck force)
  if may then
    let _ ← readEscrow.attempt.finally_ fun s => { s with escrowCheck := false }
    pure ()
  else pure ()

/-! ### What happens to it -/

variable (order_ref : Bytes)

/-- A state of the purchase that is not the last one seen is a new one. -/
def observe (states : List Purchase) : Option Purchase → List Purchase
  | some p => if states.getLast? = some p then states else states ++ [p]
  | none => states

inductive Outside (host : Host) where
  | chain (action : PurchaseEscrow.Action host)
  | clock (now : Int)
  | edit (webhook : List OrderWebhookDelivery) (held : Bool)
  | write (n : Nat)
  | stop

/-- Calls of the contract by anybody, the clock, what other jobs do to the order, and the store's end. -/
def outside : Outside host → Store host → Store host
  | .chain action, s =>
    let world := (PurchaseEscrow.step s.world action).1
    { s with world := world, states := observe s.states (PurchaseEscrow.get world order_ref) }
  | .clock now, s => { s with now := now }
  | .edit webhook held, s =>
    let order := { s.order with webhook := some webhook, held := held }
    { s with order := order, queued := s.queued ++ [order] }
  | .write n, s => { s with row := s.queued[n]?.getD s.row }
  | .stop, s => { s with stopped := true }

def answerWith {α : Type} (input : Input) (value : α) (s : Store host) : Option (Except Failure α × Store host) :=
  match input.failure with
  | some e => some (.error e, s)
  | none => some (.ok value, s)

def serve : (o : Op) → Input → Store host → Option (Except Failure o.Answer × Store host)
  | .escrow, input, s =>
    if input.failure.isSome then some (.ok .unavailable, s)
    else
      match (PurchaseEscrow.get s.world order_ref).map decodePurchase with
      | none => some (.ok .none, s)
      | some none => some (.ok .unavailable, s)
      | some (some purchase) => some (.ok (.found purchase), s)
  | .disputes, input, s => answerWith input ⟨⟩ s
  | .save order, input, s =>
    match input.failure with
    | some e => some (.error e, if input.lands then { s with row := order } else s)
    | none => some (.ok ⟨⟩, { s with row := order })

def restart (s : Store host) : Store host :=
  { s with order := s.row, queued := [], stopped := false, escrowCheck := false, escrowCheckedAt := none }

def watch : Routines.Host Bool (Store host) Op Failure Op.Answer Unit Input (Outside host) where
  body := checkEscrow
  serve := serve order_ref
  outside := outside order_ref
  restart := restart

def newOrder (createdAt : Int) (ucpCheckoutId : Option String) (webhook : Option (List OrderWebhookDelivery)) (held : Bool) :
    OrderRecord := ⟨createdAt, webhook, ucpCheckoutId, held, none, []⟩

/-- A store with a new order, whose payment the escrow does not hold yet. -/
def opened (world : World host) (order : OrderRecord) (now : Int) : Store host :=
  ⟨world, [], order, order, [], now, false, false, none⟩

/-! ### The way of a check -/

/-- Where a check is: it has not the turn, or it is over; it has the turn; it holds the order as it was, then a read of the
    escrow, then the time it found it at; or it has told of a change. -/
inductive Mode where
  | out
  | turn
  | holding (o : OrderRecord)
  | read (o : OrderRecord) (purchase : EscrowPurchase)
  | compared (o : OrderRecord) (purchase : EscrowPurchase) (now : Int)
  | saved (o : OrderRecord)

def Mode.busy : Mode → Bool
  | .out => false
  | _ => true

def changeOf (o : OrderRecord) (purchase : EscrowPurchase) (now : Int) : Change :=
  let previous := previousOf o now purchase.status
  ⟨previous, purchase.status, escrowEvents previous purchase, now⟩

inductive Goes : Mode → Store host → Store host → Mode → Prop
  | same {m s} : Goes m s s m
  | begins {s} (free : s.escrowCheck = false) : Goes .out s { s with escrowCheck := true } .turn
  | looks {s} : Goes .turn s s (.holding s.order)
  | notes {o s} : Goes (.holding o) s { s with escrowCheckedAt := some s.now } (.holding o)
  | compares {o purchase s} : Goes (.read o purchase) s s (.compared o purchase s.now)
  | tells {o purchase now added at_ s} (news : ¬(previousOf o now purchase.status = purchase.status ∧ o.escrowSeen.isSome)) :
      Goes (.compared o purchase now) s { s with order := record (changeOf o purchase now) added at_ s.order }
        (.saved (record (changeOf o purchase now) added at_ s.order))
  | ends {m s} (busy : m.busy = true) : Goes m s { s with escrowCheck := false } .out

def Asks : Mode → Op → Mode → Prop
  | .holding o, .escrow, m' => m' = .holding o
  | .compared o purchase now, .disputes, m' => m' = .compared o purchase now
  | .saved o, .save order, m' => order = o ∧ m' = .saved o
  | _, _, _ => False

def Mode.looks : Mode → Except Failure EscrowLookup → Mode
  | .holding o, .ok (.found purchase) => .read o purchase
  | m, _ => m

variable (host) in
def checks : Discipline (Store host) Op Failure Op.Answer Mode where
  sync := Goes
  ask := Asks
  expects _ _ := True
  answer m
    | .escrow, answer => m.looks answer
    | _, _ => m

/-- A check that is over has not the turn. -/
def Ends (_ : Bool) (m : Mode) (_ : Except Failure Unit) : Prop := m = .out

/-! ### The routines keep to it -/

variable (host) in
abbrev Checking {α : Type} (m : Mode) (r : Watch host α) (Q : Mode → Except Failure α → Prop) : Prop :=
  Follows (checks host) m r Q

theorem follows_deliveriesOf (o : OrderRecord) (purchase : EscrowPurchase) (now : Int) (events : List OrderWebhookEvent) :
    Checking host (.compared o purchase now) (deliveriesOf events) fun m _ => m = .compared o purchase now := by
  induction events with
  | nil => rfl
  | cons event rest ih =>
    refine ⟨.compared o purchase now, rfl, fun answer _ => ?_⟩
    cases answer with
    | error e => rfl
    | ok u =>
      apply Follows.seq ih
      · rintro _ later rfl
        rfl
      · exact fun _ _ same => same

theorem follows_tell (o : OrderRecord) (purchase : EscrowPurchase) :
    Checking host (.read o purchase) (tell o purchase) fun m _ => m.busy = true := by
  intro s
  refine ⟨_, .compares, ?_⟩
  simp only [Routine.bind]
  split
  · rfl
  · rename_i news
    apply (follows_deliveriesOf o purchase s.now _).seq
    · rintro _ deliveries rfl s'
      refine ⟨_, .same, ?_⟩
      simp only [Routine.bind]
      split
      · rfl
      · intro s''
        refine ⟨_, .tells news, ?_⟩
        refine ⟨_, ⟨rfl, rfl⟩, fun answer _ => ?_⟩
        cases answer <;> rfl
    · rintro _ _ rfl
      rfl

theorem follows_readEscrow : Checking host .turn readEscrow fun m _ => m.busy = true := by
  intro s
  refine ⟨_, .looks, ?_⟩
  simp only [Routine.bind]
  split
  · rfl
  · intro s'
    refine ⟨_, .notes, ?_⟩
    refine ⟨_, rfl, fun answer _ => ?_⟩
    cases answer with
    | error e => rfl
    | ok lookup =>
      cases lookup with
      | found purchase => exact follows_tell s.order purchase
      | none => rfl
      | unavailable => rfl

variable {force : Bool} {s : Store host} {world : World host}

theorem mayCheck_true (may : (mayCheck force s).1 = true) :
    s.escrowCheck = false ∧ (mayCheck force s).2 = { s with escrowCheck := true } := by
  unfold mayCheck at may ⊢
  split_ifs at may ⊢ with busy early
  rw [not_or] at busy
  exact ⟨by simpa using busy.2, rfl⟩

theorem mayCheck_false (may : (mayCheck force s).1 = false) : (mayCheck force s).2 = s := by
  unfold mayCheck at may ⊢
  split_ifs at may ⊢
  · rfl
  · rfl

theorem follows_checkEscrow (force : Bool) : Checking host .out (checkEscrow force) (Ends force) := by
  intro s
  cases may : (mayCheck force s).1 with
  | true =>
    obtain ⟨free, turn⟩ := mayCheck_true may
    refine ⟨.turn, ?_, ?_⟩
    · change Goes .out s (mayCheck force s).2 .turn
      rw [turn]
      exact .begins free
    · simp only [Routine.bind, may]
      apply Follows.seq (R := fun m _ => m = .out)
      · apply Follows.finally_
        apply Follows.attempt
        apply follows_readEscrow.imp
        exact fun m _ busy s' => ⟨.out, .ends busy, rfl⟩
      · rintro _ _ rfl
        rfl
      · rintro _ _ rfl
        rfl
  | false =>
    refine ⟨.out, ?_, ?_⟩
    · change Goes .out s (mayCheck force s).2 .out
      rw [mayCheck_false may]
      exact .same
    · simp only [Routine.bind, may]
      rfl

/-! ### What is told is what happened -/

/-- The first change was found when the order was recent. -/
def Recent (o : OrderRecord) : Prop :=
  ∃ change rest, o.told = change :: rest ∧ change.foundAt - o.createdAt < ESCROW_BASELINE_RECENT_MS

/-- All that has been told is what happened between two states, the later of which is the one last seen. -/
structure ToldAt (states : List Purchase) (o : OrderRecord) (i j : Nat) : Prop where
  ordered : i ≤ j
  between : ∃ a b seen, states[i]? = some a ∧ states[j]? = some b ∧ o.escrowSeen = some seen ∧
    seen.status = statusMap b.status ∧ o.told.flatMap Change.events = escrowEvents (statusMap a.status) (asRead b)
  begun : o.told ≠ []
  recent : Recent o → i = 0

def Told (states : List Purchase) (o : OrderRecord) : Prop :=
  (o.escrowSeen = none ∧ o.told = []) ∨ ∃ i j, ToldAt states o i j

/-- A snapshot of the order says what the order says. -/
def Current (s : Store host) (o : OrderRecord) : Prop := o.escrowSeen = s.order.escrowSeen ∧ o.createdAt = s.order.createdAt

def InOrder (s : Store host) (purchase : EscrowPurchase) : Prop :=
  ∃ k p, s.states[k]? = some p ∧ purchase = asRead p ∧
    ((s.order.escrowSeen = none ∧ s.order.told = []) ∨ ∃ i j, ToldAt s.states s.order i j ∧ j ≤ k)

def Knows (s : Store host) : Mode → Prop
  | .holding o => Current s o
  | .read o purchase => Current s o ∧ InOrder s purchase
  | .compared o purchase _ => Current s o ∧ InOrder s purchase
  | .saved o => Told s.states o
  | _ => True

variable (id : BytesN 32) (config : Config)

abbrev Modes := List (Bool × Option Mode)

/-- The states are those of the purchase, each one call after the one before, from when it was held. -/
structure Observed (world : World host) (states : List Purchase) : Prop where
  recorded : ∃ t, Recorded id config world t
  current : states.getLast? = PurchaseEscrow.get world order_ref
  chain : states.IsChain (Moved host id config)
  held : ∀ p, states[0]? = some p → p.status = .Held
  each : ∀ p ∈ states, Answers p ∧ Sound p ∧ p.order_ref = order_ref ∧ Referable order_ref

structure Watched (s : Store host) (ms : Modes) : Prop where
  observed : Observed order_ref id config s.world s.states
  order : Told s.states s.order
  row : Told s.states s.row
  queued : ∀ o ∈ s.queued, Told s.states o
  one : ∀ (i j : Nat) c d m n, ms[i]? = some (c, some m) → ms[j]? = some (d, some n) → m.busy = true → n.busy = true → i = j
  busy : ∀ (i : Nat) c m, ms[i]? = some (c, some m) → m.busy = true → s.escrowCheck = true
  knows : ∀ (i : Nat) c m, ms[i]? = some (c, some m) → Knows s m

/-! ### More states -/

section
variable {order_ref id config} {s s' : Store host} {ms : Modes} {states more : List Purchase} {o : OrderRecord}

variable {i : Nat} {m m' : Mode} {c : Bool}

theorem ToldAt.append {j : Nat} (told : ToldAt states o i j) : ToldAt (states ++ more) o i j := by
  obtain ⟨ordered, ⟨a, b, seen, first, last, rest⟩, begun, recent⟩ := told
  have insidei := (List.getElem?_eq_some_iff.mp first).1
  have insidej := (List.getElem?_eq_some_iff.mp last).1
  refine ⟨ordered, ⟨a, b, seen, ?_, ?_, rest⟩, begun, recent⟩
  · rw [List.getElem?_append_left insidei, first]
  · rw [List.getElem?_append_left insidej, last]

theorem Told.append (told : Told states o) : Told (states ++ more) o := by
  rcases told with none_ | ⟨i, j, told⟩
  · exact .inl none_
  · exact .inr ⟨i, j, told.append⟩

theorem Knows.append (knows : Knows s m) (order : s'.order = s.order) (states : s'.states = s.states ++ more) :
    Knows s' m := by
  have inOrder : ∀ purchase, InOrder s purchase → InOrder s' purchase := by
    rintro purchase ⟨k, p, found, same, told⟩
    refine ⟨k, p, ?_, same, ?_⟩
    · rw [states, List.getElem?_append_left (List.getElem?_eq_some_iff.mp found).1, found]
    · rw [order, states]
      rcases told with none_ | ⟨i, j, told, before⟩
      · exact .inl none_
      · exact .inr ⟨i, j, told.append, before⟩
  cases m with
  | holding o =>
    rw [Knows, Current, order]
    exact knows
  | read o purchase =>
    rw [Knows, Current, order]
    exact ⟨knows.1, inOrder purchase knows.2⟩
  | compared o purchase now =>
    rw [Knows, Current, order]
    exact ⟨knows.1, inOrder purchase knows.2⟩
  | saved o =>
    rw [Knows, states]
    exact Told.append knows
  | out => trivial
  | turn => trivial

/-! ### One step -/

section
variable (watched : Watched order_ref id config s ms)
include watched

theorem Watched.same (world : s'.world = s.world) (states : s'.states = s.states) (order : s'.order = s.order)
    (row : s'.row = s.row) (queued : s'.queued = s.queued)
    (check : s'.escrowCheck = s.escrowCheck) : Watched order_ref id config s' ms := by
  obtain ⟨observed, toldOrder, toldRow, toldQueued, one, busy, knows⟩ := watched
  refine ⟨?_, ?_, ?_, ?_, one, ?_, ?_⟩
  · rwa [world, states]
  · rwa [order, states]
  · rwa [row, states]
  · rwa [queued, states]
  · rwa [check]
  · intro i c m found
    have none_ : s'.states = s.states ++ [] := by rw [states, List.append_nil]
    exact (knows i c m found).append order none_

theorem Watched.mode (mode : ms[i]? = some (c, some m)) (busy : m'.busy = true → m.busy = true)
    (knows : Knows s m') : Watched order_ref id config s (ms.set i (c, some m')) where
  observed := watched.observed
  order := watched.order
  row := watched.row
  queued := watched.queued
  one j k d e n l foundj foundk busyj busyk := by
    have older : ∀ {j : Nat} {d : Bool} {n : Mode}, (ms.set i (c, some m'))[j]? = some (d, some n) → n.busy = true →
        ∃ n', ms[j]? = some (d, some n') ∧ n'.busy = true := by
      intro j d n found here
      rcases mode_of_set found with ⟨rfl, rfl, same⟩ | ⟨_, old⟩
      · cases same
        exact ⟨m, mode, busy here⟩
      · exact ⟨n, old, here⟩
    obtain ⟨n', oldj, busyj⟩ := older foundj busyj
    obtain ⟨l', oldk, busyk⟩ := older foundk busyk
    exact watched.one j k d e n' l' oldj oldk busyj busyk
  busy j d n found here := by
    rcases mode_of_set found with ⟨rfl, rfl, same⟩ | ⟨_, old⟩
    · cases same
      exact watched.busy _ _ m mode (busy here)
    · exact watched.busy j d n old here
  knows j d n found := by
    rcases mode_of_set found with ⟨_, _, same⟩ | ⟨_, old⟩
    · cases same
      exact knows
    · exact watched.knows j d n old

theorem Watched.others {j : Nat} {d : Bool} {n : Mode} (mode : ms[i]? = some (c, some m)) (busy : m.busy = true)
    (found : ms[j]? = some (d, some n)) (different : j ≠ i) : n = .out := by
  cases n with
  | out => rfl
  | turn | holding | read | compared | saved => exact (different (watched.one j i d c _ m found mode rfl busy)).elim

end

theorem record_facts (change : Change) (added : List OrderWebhookDelivery) (at_ : Int) (o : OrderRecord) :
    (record change added at_ o).escrowSeen = some ⟨change.status, at_⟩ ∧
      (record change added at_ o).told = o.told ++ [change] ∧ (record change added at_ o).createdAt = o.createdAt := by
  unfold record appendDeliveries
  split
  · exact ⟨rfl, rfl, rfl⟩
  · split
    · exact ⟨rfl, rfl, rfl⟩
    · exact ⟨rfl, rfl, rfl⟩

theorem told_record (observed : Observed order_ref id config s.world s.states) {purchase : EscrowPurchase} (current : Current s o)
    (inOrder : InOrder s purchase) (now at_ : Int) (added : List OrderWebhookDelivery) :
    Told s.states (record (changeOf o purchase now) added at_ s.order) := by
  obtain ⟨k, p, found, rfl, past⟩ := inOrder
  obtain ⟨sameSeen, sameCreated⟩ := current
  obtain ⟨seen, told, created⟩ := record_facts (changeOf o (asRead p) now) added at_ s.order
  have begins : (record (changeOf o (asRead p) now) added at_ s.order).told ≠ [] := by
    rw [told]
    exact List.append_ne_nil_of_right_ne_nil _ (List.cons_ne_nil _ _)
  right
  rcases past with ⟨unseen, nothing⟩ | ⟨i, j, ⟨ordered, ⟨a, b, last, first, here, lastSeen, status, events⟩, begun, recent⟩, before⟩
  · -- The first change: from when it was held, or from the state that was found.
    have previous : previousOf o now (asRead p).status =
        if now - s.order.createdAt < ESCROW_BASELINE_RECENT_MS then .held else (asRead p).status := by
      rw [previousOf, sameSeen, unseen, sameCreated]
    rw [nothing, List.nil_append] at told
    have inside := (List.getElem?_eq_some_iff.mp found).1
    by_cases early : now - s.order.createdAt < ESCROW_BASELINE_RECENT_MS
    · rw [if_pos early] at previous
      obtain ⟨a, first⟩ : ∃ a, s.states[0]? = some a := ⟨s.states[0], List.getElem?_eq_getElem (by omega)⟩
      refine ⟨0, k, Nat.zero_le k, ⟨a, p, _, first, found, seen, rfl, ?_⟩, begins, fun _ => rfl⟩
      rw [told, List.flatMap_singleton, changeOf, previous, observed.held a first]
      rfl
    · rw [if_neg early] at previous
      refine ⟨k, k, Nat.le_refl k, ⟨p, p, _, found, found, seen, rfl, ?_⟩, begins, ?_⟩
      · rw [told, List.flatMap_singleton, changeOf, previous, escrowEvents_self]
        exact escrowEvents_self p
      · rintro ⟨change, rest, toldFirst, foundEarly⟩
        rw [told] at toldFirst
        obtain ⟨rfl, _⟩ := List.cons.inj toldFirst
        rw [created] at foundEarly
        exact (early foundEarly).elim
  · have previous : previousOf o now (asRead p).status = statusMap b.status := by
      rw [previousOf, sameSeen, lastSeen]
      exact status
    have later : ∀ {x y : Nat} {q r : Purchase}, x ≤ y → s.states[x]? = some q → s.states[y]? = some r →
        Later host id config q r := fun le atx aty => later_of_getElem observed.chain le atx aty
    refine ⟨i, k, ordered.trans before, ⟨a, p, _, first, found, seen, rfl, ?_⟩, begins, ?_⟩
    · rw [told, List.flatMap_append, events, List.flatMap_singleton, changeOf, previous,
        escrowEvents_later (observed.each a (List.mem_of_getElem? first)).1 (later ordered first here) (later before here found)]
    · rintro ⟨change, rest, toldFirst, foundEarly⟩
      rw [told] at toldFirst
      rw [created] at foundEarly
      cases earlier : s.order.told with
      | nil => exact (begun earlier).elim
      | cons old others =>
        rw [earlier, List.cons_append] at toldFirst
        obtain ⟨rfl, _⟩ := List.cons.inj toldFirst
        exact recent ⟨old, others, earlier, foundEarly⟩

section
variable (watched : Watched order_ref id config s ms)
include watched

theorem Watched.goes (mode : ms[i]? = some (c, some m))
    (goes : Goes m s s' m') : Watched order_ref id config s' (ms.set i (c, some m')) := by
  have knows := watched.knows i c m mode
  cases goes with
  | same => exact watched.mode mode (fun busy => busy) knows
  | begins free =>
    have nobody : ∀ (j : Nat) d n, ms[j]? = some (d, some n) → n.busy = false := by
      intro j d n found
      by_contra busy
      rw [Bool.not_eq_false] at busy
      have check := watched.busy j d n found busy
      rw [free] at check
      cases check
    have only : ∀ (j : Nat) d n, (ms.set i (c, some Mode.turn))[j]? = some (d, some n) → n.busy = true → j = i := by
      intro j d n found busy
      rcases mode_of_set found with ⟨same, _, _⟩ | ⟨_, old⟩
      · exact same
      · rw [nobody j d n old] at busy
        cases busy
    refine ⟨watched.observed, watched.order, watched.row, watched.queued, ?_, fun _ _ _ _ _ => rfl, ?_⟩
    · intro j k d e n l foundj foundk busyj busyk
      rw [only j d n foundj busyj, only k e l foundk busyk]
    · intro j d n found
      rcases mode_of_set found with ⟨_, _, same⟩ | ⟨_, old⟩
      · cases same
        trivial
      · exact watched.knows j d n old
  | looks => exact watched.mode mode (fun _ => rfl) ⟨rfl, rfl⟩
  | notes => exact (watched.mode mode (fun _ => rfl) knows).same rfl rfl rfl rfl rfl rfl
  | compares => exact watched.mode mode (fun _ => rfl) knows
  | @tells o purchase now added at_ s news =>
    have told := told_record watched.observed knows.1 knows.2 now at_ added
    have moved : Watched order_ref id config s
        (ms.set i (c, some (.saved (record (changeOf o purchase now) added at_ s.order)))) :=
      watched.mode mode (fun _ => rfl) told
    refine ⟨watched.observed, told, watched.row, watched.queued, moved.one, moved.busy, ?_⟩
    intro j d n found
    rcases mode_of_set found with ⟨_, _, same⟩ | ⟨different, old⟩
    · cases same
      exact told
    · rw [watched.others mode rfl old different]
      trivial
  | ends busy =>
    have only : ∀ (j : Nat) d n, (ms.set i (c, some Mode.out))[j]? = some (d, some n) → n = .out := by
      intro j d n found
      rcases mode_of_set found with ⟨_, _, same⟩ | ⟨different, old⟩
      · cases same
        rfl
      · exact watched.others mode busy old different
    refine ⟨watched.observed, watched.order, watched.row, watched.queued, ?_, ?_, ?_⟩
    · intro j k d e n l foundj foundk busyj _
      rw [only j d n foundj] at busyj
      cases busyj
    · intro j d n found here
      rw [only j d n found] at here
      cases here
    · intro j d n found
      rw [only j d n found]
      trivial

theorem Watched.asks {o : Op} (mode : ms[i]? = some (c, some m))
    (asks : Asks m o m') : Watched order_ref id config s (ms.set i (c, some m')) := by
  have same : m' = m := by
    cases m <;> cases o <;> first | exact asks.elim | exact asks | exact asks.2
  rw [same, set_same mode]
  exact watched

theorem Watched.write (told : Told s.states o) : Watched order_ref id config { s with row := o } ms :=
  ⟨watched.observed, watched.order, told, watched.queued, watched.one, watched.busy, watched.knows⟩

theorem Watched.serve {m₀ : Mode} {o : Op} {input : Input} {answer : Except Failure o.Answer}
    (mode : ms[i]? = some (c, some m)) (asks : Asks m₀ o m)
    (served : EscrowWatch.serve order_ref o input s = some (answer, s')) :
    Watched order_ref id config s' (ms.set i (c, some ((checks host).answer m o answer))) := by
  have knows := watched.knows i c m mode
  cases o with
  | disputes =>
    rw [EscrowWatch.serve, answerWith] at served
    have stays : ms.set i (c, some m) = ms := set_same mode
    split at served <;> cases served <;> exact stays.symm ▸ watched
  | save order =>
    cases m₀ with
    | saved o' =>
      obtain ⟨rfl, rfl⟩ := asks
      rw [EscrowWatch.serve] at served
      have stays : ms.set i (c, some (Mode.saved order)) = ms := set_same mode
      have written : Watched order_ref id config { s with row := order } ms := watched.write knows
      split at served
      · cases served
        split
        · exact stays.symm ▸ written
        · exact stays.symm ▸ watched
      · cases served
        exact stays.symm ▸ written
    | out | turn | holding | read | compared => exact asks.elim
  | escrow =>
    cases m₀ with
    | holding o' =>
      obtain rfl : m = .holding o' := asks
      rw [EscrowWatch.serve] at served
      have stays : ms.set i (c, some (Mode.holding o')) = ms := set_same mode
      split_ifs at served with failed
      · cases served
        exact stays.symm ▸ watched
      · split at served
        · cases served
          exact stays.symm ▸ watched
        · cases served
          exact stays.symm ▸ watched
        · rename_i purchase decodes
          cases served
          obtain ⟨p, found, decoded⟩ := Option.map_eq_some_iff.mp decodes
          have read : purchase = asRead p := by
            rw [decodePurchase] at decoded
            split_ifs at decoded
            exact (Option.some.inj decoded).symm
          -- The state that is read is the last one.
          have last := watched.observed.current.trans found
          obtain ⟨front, split⟩ := List.getLast?_eq_some_iff.mp last
          have inOrder : InOrder s purchase := by
            refine ⟨front.length, p, by rw [split]; simp, read, ?_⟩
            rcases watched.order with none_ | ⟨i, j, told⟩
            · exact .inl none_
            · obtain ⟨_, b, _, _, here, _⟩ := told.between
              have inside := (List.getElem?_eq_some_iff.mp here).1
              rw [split, List.length_append, List.length_singleton] at inside
              exact .inr ⟨i, j, told, by omega⟩
          exact watched.mode mode (fun _ => rfl) ⟨knows, inOrder⟩
    | out | turn | read | compared | saved => exact asks.elim

end

theorem Observed.call {world : World host} (observed : Observed order_ref id config world states)
    (action : PurchaseEscrow.Action host) : let after := (PurchaseEscrow.step world action).1
    ∃ more, observe states (PurchaseEscrow.get after order_ref) = states ++ more ∧
      Observed order_ref id config after (observe states (PurchaseEscrow.get after order_ref)) := by
  intro after
  obtain ⟨⟨t, recorded⟩, current, chain, held, each⟩ := observed
  have later : Recorded id config after (t ++ (PurchaseEscrow.step world action).2) := recorded_step recorded action
  have stored : ∀ p, PurchaseEscrow.get after order_ref = some p → Answers p ∧ Sound p ∧ p.order_ref = order_ref :=
    fun p found => ⟨answers_of_life (later.life order_ref p found), (later.solvent.stored order_ref p found).2,
      (later.solvent.stored order_ref p found).1⟩
  cases was : PurchaseEscrow.get world order_ref with
  | none =>
    rw [was, List.getLast?_eq_none_iff] at current
    subst current
    cases is : PurchaseEscrow.get after order_ref with
    | none => exact ⟨[], rfl, ⟨_, later⟩, is.symm ▸ rfl, .nil, fun p found => (by cases found), fun p member => by cases member⟩
    | some p =>
      obtain ⟨first, _, referable⟩ := step_new recorded was is
      obtain ⟨answers, sound, own⟩ := stored p is
      refine ⟨[p], rfl, ⟨_, later⟩, is.symm ▸ rfl, .singleton p, ?_, ?_⟩
      · rintro _ ⟨⟩
        exact first
      · intro q member
        obtain rfl := List.mem_singleton.mp member
        exact ⟨answers, sound, own, referable⟩
  | some p =>
    rw [was] at current
    obtain ⟨p', is, moved⟩ := step_purchase recorded was action
    rw [is, observe]
    by_cases seen : states.getLast? = some p'
    · rw [if_pos seen]
      exact ⟨[], (List.append_nil _).symm, ⟨_, later⟩, seen.trans is.symm, chain, held, each⟩
    · rw [if_neg seen]
      obtain moved : Moved host id config p p' := by
        rcases moved with rfl | moved
        · exact (seen current).elim
        · exact moved
      obtain ⟨front, rfl⟩ := List.getLast?_eq_some_iff.mp current
      refine ⟨[p'], rfl, ⟨_, later⟩, by rw [is]; simp, ?_, ?_, ?_⟩
      · refine List.isChain_append.mpr ⟨chain, .singleton p', fun x last y first => ?_⟩
        rw [List.getLast?_concat, Option.mem_some_iff] at last
        rw [List.head?_cons, Option.mem_some_iff] at first
        subst last first
        exact moved
      · intro q found
        rw [List.getElem?_append_left (by simp)] at found
        exact held q found
      · intro q member
        rcases List.mem_append.mp member with old | new
        · exact each q old
        · obtain rfl := List.mem_singleton.mp new
          obtain ⟨answers, sound, own⟩ := stored q is
          exact ⟨answers, sound, own, (each p (by simp)).2.2.2⟩

section
variable (watched : Watched order_ref id config s ms)
include watched

theorem Watched.outside (k : Outside host) : Watched order_ref id config (outside order_ref k s) ms := by
  cases k with
  | chain action =>
    obtain ⟨more, states, observed⟩ := watched.observed.call action
    have told : ∀ {o : OrderRecord}, Told s.states o → Told (EscrowWatch.outside order_ref (.chain action) s).states o := by
      intro o told
      change Told (observe _ _) o
      rw [states]
      exact told.append
    refine ⟨observed, told watched.order, told watched.row, ?_, watched.one, watched.busy, ?_⟩
    · exact fun o member => told (watched.queued o member)
    · exact fun i c m found => (watched.knows i c m found).append rfl states
  | clock now => exact watched.same rfl rfl rfl rfl rfl rfl
  | edit webhook held =>
    have edited : ∀ {o : OrderRecord}, Told s.states o → Told s.states { o with webhook := some webhook, held := held } := by
      rintro o (none_ | ⟨i, j, ordered, between, begun, recent⟩)
      · exact .inl none_
      · exact .inr ⟨i, j, ordered, between, begun, recent⟩
    have order := edited watched.order
    refine ⟨watched.observed, order, watched.row, ?_, watched.one, watched.busy, ?_⟩
    · intro o member
      rcases List.mem_append.mp member with old | new
      · exact watched.queued o old
      · exact List.mem_singleton.mp new ▸ order
    · intro i c m found
      have knows := watched.knows i c m found
      have inOrder : ∀ purchase, InOrder s purchase →
          InOrder (EscrowWatch.outside order_ref (.edit webhook held) s) purchase := by
        rintro purchase ⟨k, p, here, same, none_ | ⟨i, j, ⟨ordered, between, begun, recent⟩, before⟩⟩
        · exact ⟨k, p, here, same, .inl none_⟩
        · exact ⟨k, p, here, same, .inr ⟨i, j, ⟨ordered, between, begun, recent⟩, before⟩⟩
      cases m with
      | holding o => exact knows
      | read o purchase => exact ⟨knows.1, inOrder purchase knows.2⟩
      | compared o purchase now => exact ⟨knows.1, inOrder purchase knows.2⟩
      | saved o => exact knows
      | out => trivial
      | turn => trivial
  | write n =>
    apply watched.write
    cases queued : s.queued[n]? with
    | none => exact watched.row
    | some o => exact watched.queued o (List.mem_of_getElem? queued)
  | stop => exact watched.same rfl rfl rfl rfl rfl rfl

theorem Watched.start (c : Bool) : Watched order_ref id config s (ms ++ [(c, some .out)]) := by
  have older : ∀ (j : Nat) d n, (ms ++ [(c, some Mode.out)])[j]? = some (d, some n) →
      n = .out ∨ ms[j]? = some (d, some n) := by
    intro j d n found
    rcases mode_of_append found with ⟨_, _, same⟩ | old
    · cases same
      exact .inl rfl
    · exact .inr old
  refine ⟨watched.observed, watched.order, watched.row, watched.queued, ?_, ?_, ?_⟩
  · intro i j c d m n foundi foundj busyi busyj
    rcases older i c m foundi with rfl | oldi
    · cases busyi
    · rcases older j d n foundj with rfl | oldj
      · cases busyj
      · exact watched.one i j c d m n oldi oldj busyi busyj
  · intro i c m found busy
    rcases older i c m found with rfl | old
    · cases busy
    · exact watched.busy i c m old busy
  · intro i c m found
    rcases older i c m found with rfl | old
    · trivial
    · exact watched.knows i c m old

theorem Watched.finish (i : Nat) (c : Bool) : Watched order_ref id config s (ms.set i (c, none)) := by
  have older : ∀ {j : Nat} {d : Bool} {n : Mode}, (ms.set i (c, none))[j]? = some (d, some n) → ms[j]? = some (d, some n) := by
    intro j d n found
    rcases mode_of_set found with ⟨_, _, same⟩ | ⟨_, old⟩
    · cases same
    · exact old
  exact ⟨watched.observed, watched.order, watched.row, watched.queued,
    fun j k d e m n foundj foundk => watched.one j k d e m n (older foundj) (older foundk),
    fun j d m found => watched.busy j d m (older found), fun j d m found => watched.knows j d m (older found)⟩

theorem Watched.crash : Watched order_ref id config (restart s) (ms.map fun call => (call.1, none)) where
  observed := watched.observed
  order := watched.row
  row := watched.row
  queued o member := by cases member
  one i j c d m n found := by cases mode_of_kill found
  busy i c m found := by cases mode_of_kill found
  knows i c m found := by cases mode_of_kill found

end

end

/-! ### Whole runs -/

theorem keeps_watched :
    Keeps (watch order_ref) (checks host) Ends (fun s ms _ => Watched order_ref id config s ms)
      (fun _ s ms _ => Watched order_ref id config s ms) fun _ _ _ => True where
  start watched _ _ := ⟨_, follows_checkEscrow _, watched.start _⟩
  resume watched _ _ := watched
  sync watched mode goes := watched.goes mode goes
  ask watched mode asks _ _ _ := watched.asks mode asks
  serve watched _ mode _ _ asks served := ⟨trivial, watched.serve mode asks served⟩
  finish watched _ _ _ _ := watched.finish _ _
  outside watched _ := watched.outside _
  crash watched _ _ := watched.crash

theorem observed_deployed (deployed : Deployed world) : Observed order_ref world.id world.config world [] := by
  have empty : PurchaseEscrow.get world order_ref = none := by
    rw [PurchaseEscrow.get, (EscrowSolvency.deployed_ok deployed).2.1]
    rfl
  refine ⟨⟨[], run_recorded deployed []⟩, empty.symm, .nil, ?_, ?_⟩
  · intro p found
    cases found
  · intro p member
    cases member

theorem watched_opened (deployed : Deployed world) (createdAt now : Int) (ucpCheckoutId : Option String)
    (webhook : Option (List OrderWebhookDelivery)) (held : Bool) :
    Watched order_ref world.id world.config (opened world (newOrder createdAt ucpCheckoutId webhook held) now) [] := by
  have untold : Told ([] : List Purchase) (newOrder createdAt ucpCheckoutId webhook held) := .inl ⟨rfl, rfl⟩
  refine ⟨observed_deployed order_ref deployed, untold, untold, ?_, ?_, ?_, ?_⟩
  · intro o member
    cases member
  · intro i j c d m n found
    simp at found
  · intro i c m found
    simp at found
  · intro i c m found
    simp at found

/-- What an order was told is what a read of every state would have told: of all of them from the first on when the first
    read came within a day of the order, and else from the state which that read found. -/
def Complete (states : List Purchase) (o : OrderRecord) : Prop :=
  (o.escrowSeen = none ∧ o.told = []) ∨
    ∃ before seen after last at_, states = before ++ seen ++ after ∧ seen.getLast? = some last ∧
      o.escrowSeen = some ⟨statusMap last.status, at_⟩ ∧ o.told.flatMap Change.events = derived seen ∧
      (Recent o → before = [])

theorem Told.complete {states : List Purchase} {o : OrderRecord} (told : Told states o)
    (chain : states.IsChain (Moved host id config)) (answers : ∀ p ∈ states, Answers p) : Complete states o := by
  rcases told with none_ | ⟨i, j, ordered, ⟨a, b, ⟨status, at_⟩, first, last, seen, rfl, events⟩, _, recent⟩
  · exact .inl none_
  · have insidej := (List.getElem?_eq_some_iff.mp last).1
    -- The states from the first of the two to the second.
    have split : states = states.take i ++ (states.drop i).take (j + 1 - i) ++ states.drop (j + 1) := by
      have later : states.drop (j + 1) = (states.drop i).drop (j + 1 - i) := by
        rw [List.drop_drop]
        congr 1
        omega
      rw [later, List.append_assoc, List.take_append_drop, List.take_append_drop]
    have ends : ((states.drop i).take (j + 1 - i)).getLast? = some b := by
      rw [List.getLast?_eq_getElem?, List.length_take, List.length_drop, List.getElem?_take_of_lt (by omega),
        List.getElem?_drop, ← last]
      congr 1
      omega
    have begins : ((states.drop i).take (j + 1 - i))[0]? = some a := by
      rw [List.getElem?_take_of_lt (by omega), List.getElem?_drop, ← first]
      congr 1
    refine .inr ⟨_, _, _, b, at_, split, ends, seen, ?_, fun early => by rw [recent early, List.take_zero]⟩
    generalize middle : (states.drop i).take (j + 1 - i) = between at split ends begins
    cases between with
    | nil => cases begins
    | cons p rest =>
      cases begins
      have whole := split ▸ chain
      have part : (a :: rest).IsChain (Moved host id config) := whole.left_of_append.right_of_append
      rw [List.getLast?_eq_some_getLast (List.cons_ne_nil a rest)] at ends
      rw [events, derived_eq (answers a (List.mem_of_getElem? first)) part, Option.some.inj ends]

/-- Whatever calls the contract takes, and whenever its purchase is read, with failures and crashes anywhere: the events
    between two of its states are those up to any state in between and those from there on, and an order, in memory and in
    the database, was told what a read of every state would have told. -/
theorem escrow_events_complete {world : World host} (deployed : Deployed world) (createdAt now : Int)
    (ucpCheckoutId : Option String) (webhook : Option (List OrderWebhookDelivery)) (held : Bool)
    (actions : List (Action Bool Input (Outside host))) : let s := (Traces.exec (step (watch order_ref))
      ⟨opened world (newOrder createdAt ucpCheckoutId webhook held) now, []⟩ actions).1.shared
    (∀ (i j k : Nat) a b c, i ≤ j → j ≤ k → s.states[i]? = some a → s.states[j]? = some b → s.states[k]? = some c →
      ∃ atB atC, decodePurchase b = some atB ∧ decodePurchase c = some atC ∧
        escrowEvents (statusMap a.status) atC = escrowEvents (statusMap a.status) atB ++ escrowEvents atB.status atC) ∧
    s.states.getLast? = PurchaseEscrow.get s.world order_ref ∧ Complete s.states s.order ∧ Complete s.states s.row := by
  intro s
  have start : Holds (checks host) Ends (fun s ms _ => Watched order_ref world.id world.config s ms)
      ⟨opened world (newOrder createdAt ucpCheckoutId webhook held) now, []⟩ [] :=
    ⟨[], watched_opened order_ref deployed createdAt now ucpCheckoutId webhook held, aligned_nil⟩
  obtain ⟨ms, watched, _⟩ := kept_along (keeps_watched order_ref world.id world.config) start actions fun _ _ _ _ => trivial
  obtain ⟨_, current, chain, _, each⟩ := watched.observed
  have answers : ∀ p ∈ s.states, Answers p := fun p member => (each p member).1
  refine ⟨?_, current, watched.order.complete world.id world.config chain answers,
    watched.row.complete world.id world.config chain answers⟩
  intro i j k a b c first second ata atb atc
  obtain ⟨_, soundb, refb, fits⟩ := each b (List.mem_of_getElem? atb)
  obtain ⟨_, soundc, refc, _⟩ := each c (List.mem_of_getElem? atc)
  exact ⟨asRead b, asRead c, decodePurchase_sound soundb (refb ▸ fits), decodePurchase_sound soundc (refc ▸ fits),
    escrowEvents_later (answers a (List.mem_of_getElem? ata)) (later_of_getElem chain first ata atb)
      (later_of_getElem chain second atb atc)⟩

def goOn (i n : Nat) : List (Action Bool Input (Outside sampleHost)) :=
  (List.replicate n [.perform i ⟨none, true⟩, .resume i]).flatten

/-- A purchase is read when it is held; it is disputed and judged; a second check has read that when the process crashes;
    a third one tells of it. -/
def sampleChecks : List (Action Bool Input (Outside sampleHost)) :=
  ((sampleDispute.take 1).map (fun call => .outside (.chain call)) : List (Action Bool Input (Outside sampleHost))) ++
    ([.start true] : List (Action Bool Input (Outside sampleHost))) ++ goOn 0 2 ++
    (((sampleDispute.drop 1).take 2).map (fun call => .outside (.chain call)) :
      List (Action Bool Input (Outside sampleHost))) ++
    ([.start true] : List (Action Bool Input (Outside sampleHost))) ++ goOn 1 2 ++
    ([.crash, .start true] : List (Action Bool Input (Outside sampleHost))) ++ goOn 2 6

theorem escrow_events_complete_sample :
    let s := (Traces.exec (step (watch [2]))
      ⟨opened sampleWorld (newOrder 0 (some "checkout") (some []) true) 0, []⟩ sampleChecks).1.shared
    s.order.told.flatMap Change.events = [.disputeOpened, .disputeResolved, .escrowRefunded, .escrowReleased] ∧
      Complete s.states s.order :=
  ⟨by decide +kernel,
    (escrow_events_complete [2] sampleWorld_deployed 0 0 (some "checkout") (some []) true sampleChecks).2.2.1⟩

end AgentPey.EscrowWatch
