import Mathlib.Data.List.Nodup
import Mathlib.Data.List.Chain

/-!
The webhook deliveries of one order (`ucp/order-events.ts` of `vitrinee-gateway`) over the order store (`orders.ts`): a
change is in memory at once and its snapshot is written after the snapshots before it. One drain takes the deliveries in
order, and goes on when what it changed is stored. A crash comes back with what is on disk. An id, a UUID, is never drawn
twice: a delivery's is its place among all that were recorded. A write that fails is outside.
-/
namespace AgentPey.WebhookDeliveries
open List (map_append map_cons map_map mem_append mem_cons mem_map mem_singleton pairwise_append prefix_refl)

inductive OrderWebhookEvent where
  | created | shipped | disputeOpened | disputeResponded | disputeResolved | escrowReleased | escrowRefunded
  deriving DecidableEq, Repr

inductive Status where
  | pending | delivered | failed
  deriving DecidableEq, Repr

structure OrderWebhookDelivery where
  id : Nat
  timestamp : Nat
  event : OrderWebhookEvent
  body : String
  status : Status
  attempts : Nat
  nextAttemptAt : Option Nat
  lastStatus : Option Nat
  lastError : Option String
  deriving DecidableEq, Repr

inductive SendFailure where
  | notHttps | badUrl | blockedAddress | unreachable | busy
  deriving DecidableEq, Repr

def SendFailure.text : SendFailure → String
  | .notHttps => "not_https"
  | .badUrl => "bad_url"
  | .blockedAddress => "blocked_address"
  | .unreachable => "unreachable"
  | .busy => "busy"

inductive SendResult where
  | ok (status : Nat)
  | failed (reason : SendFailure)
  deriving DecidableEq, Repr

inductive Outcome where
  | delivered | retry | defer | giveUp
  deriving DecidableEq, Repr

/-- What a delivery's outcome means for it: done, try again later, wait for the budget, or never again. -/
def classify : SendResult → Outcome
  | .failed .busy => .defer
  | .failed .unreachable => .retry
  | .failed _ => .giveUp
  | .ok status =>
    if 200 ≤ status ∧ status < 300 then .delivered
    else if 500 ≤ status ∨ status = 408 ∨ status = 429 then .retry
    else .giveUp

def MAX_DELIVERIES : Nat := 20
def WEBHOOK_BUSY_RETRY_MS : Nat := 5000
def WEBHOOK_RETRY_DELAYS_MS : List Nat := [2000, 10000, 60000, 300000, 1800000, 7200000]

/-- How an attempt ended: what sending gave, or why the delivery could not be signed. -/
inductive Answer where
  | sent (result : SendResult)
  | unsignable (message : String)
  deriving DecidableEq, Repr

def Answer.result : Answer → SendResult
  | .sent result => result
  | .unsignable _ => .failed .badUrl

def Answer.outcome (answer : Answer) : Outcome := classify answer.result

def Answer.error : Answer → String
  | .unsignable message => message
  | .sent (.ok status) => "HTTP " ++ toString status
  | .sent (.failed reason) => reason.text

section
variable (retryDelaysMs : List Nat)

/-- The number of attempts counted after an answer: a deferral is not one. -/
def counted (answer : Answer) (delivery : OrderWebhookDelivery) : Nat :=
  if answer.outcome = .defer then delivery.attempts else delivery.attempts + 1

def delay (answer : Answer) (delivery : OrderWebhookDelivery) : Option Nat :=
  if answer.outcome = .defer then some WEBHOOK_BUSY_RETRY_MS else retryDelaysMs[counted answer delivery - 1]?

def newStatus (answer : Answer) (delivery : OrderWebhookDelivery) : Status :=
  match answer.outcome, delay retryDelaysMs answer delivery with
  | .delivered, _ => .delivered
  | .retry, some _ => .pending
  | .defer, some _ => .pending
  | _, _ => .failed

/-- What `attempt` makes of the record of the delivery it sent at `now`. -/
def settle (delivery : OrderWebhookDelivery) (now : Nat) (answer : Answer) (target : OrderWebhookDelivery) :
    OrderWebhookDelivery :=
  let status := newStatus retryDelaysMs answer delivery
  { target with
    attempts := counted answer delivery
    status := status
    nextAttemptAt := if status = .pending then (delay retryDelaysMs answer delivery).map (now + ·) else none
    lastStatus := match answer.result with
      | .ok code => some code
      | .failed _ => target.lastStatus
    lastError := if status = .delivered then none else some answer.error
    -- A finished delivery's body is never sent again.
    body := if status = .pending then target.body else "" }

def change (id : Nat) (update : OrderWebhookDelivery → OrderWebhookDelivery) :
    List OrderWebhookDelivery → List OrderWebhookDelivery
  | [] => []
  | d :: rest => if d.id = id then update d :: rest else d :: change id update rest

/-- Drops the oldest finished deliveries past the limit, never a pending one; `fuel` bounds the loop, one round each. -/
def dropFinished : Nat → List OrderWebhookDelivery → List OrderWebhookDelivery
  | 0, deliveries => deliveries
  | fuel + 1, deliveries =>
    if MAX_DELIVERIES < deliveries.length ∧ deliveries.any (·.status ≠ .pending) then
      dropFinished fuel (deliveries.eraseP (·.status ≠ .pending))
    else deliveries

def appendDeliveries (deliveries added : List OrderWebhookDelivery) : List OrderWebhookDelivery :=
  if added = [] then deliveries else dropFinished (deliveries ++ added).length (deliveries ++ added)

/-- What an event fixes of its delivery. -/
structure Recorded where
  timestamp : Nat
  event : OrderWebhookEvent
  body : String
  deriving DecidableEq, Repr

/-- `delivery`: a pending one, to be attempted from `now` on. -/
def delivery (now id : Nat) (recorded : Recorded) : OrderWebhookDelivery :=
  ⟨id, recorded.timestamp, recorded.event, recorded.body, .pending, 0, some now, none, none⟩

/-! ### Runs -/

/-- Where the drain is: between attempts, waiting for the answer to the one it sent, or for the `left`-th write from now. -/
inductive Drain where
  | idle
  | sending (sent : OrderWebhookDelivery) (now : Nat)
  | saving (left : Nat)
  deriving DecidableEq, Repr

/-- What one attempt sends: the webhook's id, timestamp and body. -/
structure Sent where
  id : Nat
  timestamp : Nat
  event : OrderWebhookEvent
  body : String
  deriving DecidableEq, Repr

def OrderWebhookDelivery.sent (d : OrderWebhookDelivery) : Sent := ⟨d.id, d.timestamp, d.event, d.body⟩

/-- The deliveries in memory and on disk, and the snapshots still to be written. Of the past: what was on disk `before`, what was
    `recorded`, and every attempt. -/
structure World where
  memory : List OrderWebhookDelivery
  disk : List OrderWebhookDelivery
  writes : List (List OrderWebhookDelivery)
  drain : Drain
  before : List (List OrderWebhookDelivery)
  recorded : List Recorded
  attempted : List Sent
  deriving DecidableEq, Repr

/-- What was on disk, what is, and what memory has become since: all that the record has been, but what a crash took back. -/
def World.history (w : World) : List (List OrderWebhookDelivery) := w.before ++ w.disk :: w.writes

inductive Event where
  /-- The order changes: events recorded in one change, or another change with none. -/
  | append (now : Nat) (added : List Recorded)
  /-- The drain looks at the first pending delivery at `checked`, and attempts it at `now` when it is due. -/
  | attempt (checked now : Nat)
  | answer (answer : Answer)
  | written
  | crash
  deriving DecidableEq, Repr

def empty : World := ⟨[], [], [], .idle, [], [], []⟩

/-- `update`: memory at once, the snapshot behind the writes before it. -/
def World.update (w : World) (memory : List OrderWebhookDelivery) : World :=
  { w with memory := memory, writes := w.writes ++ [memory] }

def fresh (now count : Nat) (added : List Recorded) : List OrderWebhookDelivery :=
  added.zipIdx.map fun (recorded, index) => delivery now (count + index) recorded

def Drain.advance : Drain → Drain
  | .saving left => if left ≤ 1 then .idle else .saving (left - 1)
  | drain => drain

def isDue (d : OrderWebhookDelivery) (now : Nat) : Bool := d.nextAttemptAt.all (· ≤ now)

def step (w : World) : Event → World
  | .append now added =>
    { w.update (appendDeliveries w.memory (fresh now w.recorded.length added)) with recorded := w.recorded ++ added }
  | .attempt checked now =>
    match w.drain, w.memory.find? (·.status = .pending) with
    | .idle, some d =>
      if isDue d checked then { w with drain := .sending d now, attempted := w.attempted ++ [d.sent] } else w
    | _, _ => w
  | .answer answer =>
    match w.drain with
    | .sending d now =>
      { w.update (change d.id (settle retryDelaysMs d now answer) w.memory) with drain := .saving (w.writes.length + 1) }
    | _ => w
  | .written =>
    match w.writes with
    | [] => w
    | next :: rest => { w with before := w.before ++ [w.disk], disk := next, writes := rest, drain := w.drain.advance }
  | .crash => { w with memory := w.disk, writes := [], drain := .idle }

def run (events : List Event) : World := events.foldl (step retryDelaysMs) empty

/-! ### What becomes of a delivery -/

/-- A later record of the same delivery: one that was finished is as it was, one still pending has the body it had. -/
structure Follows (d later : OrderWebhookDelivery) : Prop where
  timestamp : later.timestamp = d.timestamp
  event : later.event = d.event
  attempts : d.attempts ≤ later.attempts
  finished : d.status ≠ .pending → later = d
  body : later.status = .pending → later.body = d.body

theorem Follows.refl (d : OrderWebhookDelivery) : Follows d d := ⟨rfl, rfl, le_rfl, fun _ => rfl, fun _ => rfl⟩

theorem Follows.was_pending {d later : OrderWebhookDelivery} (follows : Follows d later) (pending : later.status = .pending) :
    d.status = .pending := by
  by_contra finished
  rw [follows.finished finished] at pending
  exact finished pending

theorem Follows.trans {a b c : OrderWebhookDelivery} (first : Follows a b) (second : Follows b c) : Follows a c := by
  refine ⟨second.timestamp.trans first.timestamp, second.event.trans first.event, first.attempts.trans second.attempts, ?_, ?_⟩
  · intro finished
    have same := first.finished finished
    rw [second.finished (by rwa [same]), same]
  · intro pending
    rw [second.body pending, first.body (second.was_pending pending)]

/-- From one content of the record to a later one, a delivery in both follows itself. -/
def Lasting (deliveries later : List OrderWebhookDelivery) : Prop :=
  ∀ d ∈ deliveries, ∀ d' ∈ later, d.id = d'.id → Follows d d'

def Keeps (deliveries later : List OrderWebhookDelivery) : Prop :=
  ∀ d ∈ deliveries, d.status = .pending → ∃ d' ∈ later, d'.id = d.id

/-- A delivery reports an event recorded, with its body while it may still be sent. -/
structure Reports (recorded : List Recorded) (d : OrderWebhookDelivery) : Prop where
  known : ∃ r, recorded[d.id]? = some r ∧ d.timestamp = r.timestamp ∧ d.event = r.event ∧ (d.status = .pending → d.body = r.body)

variable {d : OrderWebhookDelivery}

theorem Reports.lt {recorded : List Recorded} (reports : Reports recorded d) : d.id < recorded.length := by
  obtain ⟨r, found, _⟩ := reports.known
  exact (List.getElem?_eq_some_iff.mp found).1

theorem Reports.append {recorded : List Recorded} (reports : Reports recorded d) (added : List Recorded)
    : Reports (recorded ++ added) d := by
  obtain ⟨r, found, rest⟩ := reports.known
  exact ⟨r, by rw [List.getElem?_append_left reports.lt, found], rest⟩

/-- The attempts counted: one more than the delays once they are spent, no more than them before. -/
def Bounded (d : OrderWebhookDelivery) : Prop :=
  d.attempts ≤ retryDelaysMs.length + 1 ∧ (d.status = .pending → d.attempts ≤ retryDelaysMs.length)

/-- A content of the record: the deliveries in the order of their recording, each reporting its event within its attempts. -/
structure Sound (recorded : List Recorded) (deliveries : List OrderWebhookDelivery) : Prop where
  sorted : (deliveries.map OrderWebhookDelivery.id).Pairwise (· < ·)
  reports : ∀ d ∈ deliveries, Reports recorded d
  bounded : ∀ d ∈ deliveries, Bounded retryDelaysMs d

variable {retryDelaysMs} {recorded : List Recorded} {deliveries : List OrderWebhookDelivery}

section
variable (sound : Sound retryDelaysMs recorded deliveries)
include sound

theorem Sound.append (added : List Recorded) : Sound retryDelaysMs (recorded ++ added) deliveries :=
  ⟨sound.sorted, fun d mem => (sound.reports d mem).append added, sound.bounded⟩

theorem Sound.same {d d' : OrderWebhookDelivery} (mem : d ∈ deliveries) (mem' : d' ∈ deliveries)
    (ids : d.id = d'.id) : d = d' := by
  have nodup : (deliveries.map OrderWebhookDelivery.id).Nodup := sound.sorted.imp fun lt => Nat.ne_of_lt lt
  exact List.inj_on_of_nodup_map nodup mem mem' ids

theorem Sound.lasting : Lasting deliveries deliveries := by
  intro d mem d' mem' ids
  rw [sound.same mem mem' ids]
  exact Follows.refl d'

end

/-! ### The operations on the queue -/

theorem change_eq_map (id : Nat) (update : OrderWebhookDelivery → OrderWebhookDelivery) (deliveries : List OrderWebhookDelivery)
    (sorted : (deliveries.map OrderWebhookDelivery.id).Pairwise (· < ·)) :
    change id update deliveries = deliveries.map fun d => if d.id = id then update d else d := by
  induction deliveries with
  | nil => rfl
  | cons d rest ih =>
    rw [map_cons, List.pairwise_cons] at sorted
    by_cases same : d.id = id
    · simp only [change, same, if_true, map_cons, List.cons.injEq, true_and]
      symm
      refine (List.map_congr_left fun e mem => ?_).trans (List.map_id rest)
      have above := sorted.1 e.id (List.mem_map_of_mem mem)
      simp [show e.id ≠ id by omega]
    · simp [change, same, ih sorted.2]

theorem dropFinished_sublist (fuel : Nat) (deliveries : List OrderWebhookDelivery) :
    (dropFinished fuel deliveries).Sublist deliveries := by
  induction fuel generalizing deliveries with
  | zero => exact List.Sublist.refl _
  | succ fuel ih =>
    rw [dropFinished]
    split
    · exact (ih _).trans List.eraseP_sublist
    · exact List.Sublist.refl _

theorem mem_dropFinished (fuel : Nat) (deliveries : List OrderWebhookDelivery) (d : OrderWebhookDelivery)
    (pending : d.status = .pending) : d ∈ dropFinished fuel deliveries ↔ d ∈ deliveries := by
  induction fuel generalizing deliveries with
  | zero => rfl
  | succ fuel ih =>
    rw [dropFinished]
    split
    · rw [ih, List.mem_eraseP_of_neg (by simp [pending])]
    · rfl

theorem appendDeliveries_sublist (deliveries added : List OrderWebhookDelivery) :
    (appendDeliveries deliveries added).Sublist (deliveries ++ added) := by
  rw [appendDeliveries]
  split
  · exact List.sublist_append_left ..
  · exact dropFinished_sublist ..

theorem mem_appendDeliveries (deliveries added : List OrderWebhookDelivery) (d : OrderWebhookDelivery)
    (pending : d.status = .pending) : d ∈ appendDeliveries deliveries added ↔ d ∈ deliveries ++ added := by
  rw [appendDeliveries]
  split
  next none => simp [none]
  next => exact mem_dropFinished _ _ d pending

variable {added : List Recorded}

variable {now : Nat}

theorem mem_fresh {count : Nat} :
    d ∈ fresh now count added ↔ ∃ index r, added[index]? = some r ∧ d = delivery now (count + index) r := by
  constructor
  · intro mem
    obtain ⟨⟨r, index⟩, pair, rfl⟩ := mem_map.mp mem
    exact ⟨index, r, List.mem_zipIdx_iff_getElem?.mp pair, rfl⟩
  · rintro ⟨index, r, found, rfl⟩
    exact mem_map.mpr ⟨(r, index), List.mem_zipIdx_iff_getElem?.mpr found, rfl⟩

theorem fresh_ids (now count : Nat) (added : List Recorded) :
    (fresh now count added).map OrderWebhookDelivery.id = List.range' count added.length := by
  apply List.ext_getElem?
  intro index
  simp only [fresh, map_map, List.getElem?_map, List.getElem?_zipIdx]
  by_cases inside : index < added.length
  · simp [delivery, inside]
  · simp [inside]

/-! ### An answer -/

theorem newStatus_pending {answer : Answer} (pending : newStatus retryDelaysMs answer d = .pending) :
    answer.outcome = .defer ∨ counted answer d - 1 < retryDelaysMs.length := by
  by_cases defer : answer.outcome = .defer
  · exact .inl defer
  · right
    rw [newStatus, delay, if_neg defer] at pending
    by_contra beyond
    rw [List.getElem?_eq_none (by omega)] at pending
    cases outcome : answer.outcome <;> simp [outcome] at pending

theorem counted_of_not_defer {answer : Answer} (not : answer.outcome ≠ .defer) : counted answer d = d.attempts + 1 := by
  rw [counted, if_neg not]

theorem settle_bounded (bounded : Bounded retryDelaysMs d) (pending : d.status = .pending) (now : Nat) (answer : Answer)
    : Bounded retryDelaysMs (settle retryDelaysMs d now answer d) := by
  have most := bounded.2 pending
  refine ⟨?_, ?_⟩
  · show counted answer d ≤ _
    rw [counted]
    split <;> omega
  · intro still
    show counted answer d ≤ _
    rcases newStatus_pending still with defer | left
    · rwa [counted, if_pos defer]
    · by_cases defer : answer.outcome = .defer
      · rwa [counted, if_pos defer]
      · rw [counted_of_not_defer defer] at left ⊢
        omega

theorem settle_follows (pending : d.status = .pending) (now : Nat) (answer : Answer) :
    Follows d (settle retryDelaysMs d now answer d) := by
  refine ⟨rfl, rfl, ?_, fun finished => absurd pending finished, ?_⟩
  · show d.attempts ≤ counted answer d
    rw [counted]
    split <;> omega
  · intro still
    show (if newStatus retryDelaysMs answer d = .pending then d.body else "") = d.body
    exact if_pos still

theorem settle_reports (reports : Reports recorded d) (pending : d.status = .pending) (now : Nat) (answer : Answer)
    : Reports recorded (settle retryDelaysMs d now answer d) := by
  obtain ⟨r, found, timestamp, event, body⟩ := reports.known
  refine ⟨r, found, timestamp, event, fun still => ?_⟩
  rw [(settle_follows pending now answer).body still, body pending]

/-! ### One step -/

/-- What a change of the record makes of its deliveries: each follows one that was there, or is new. -/
def Evolves (recorded : List Recorded) (deliveries later : List OrderWebhookDelivery) : Prop :=
  ∀ d' ∈ later, (∃ d ∈ deliveries, d.id = d'.id ∧ Follows d d') ∨ recorded.length ≤ d'.id

def Drain.left : Drain → Nat
  | .saving left => left
  | _ => 0

variable (retryDelaysMs) in
/-- What holds in every run. -/
structure Kept (w : World) : Prop where
  /-- Memory is what will be on disk when everything is written. -/
  memory : ∃ earlier, w.disk :: w.writes = earlier ++ [w.memory]
  sound : ∀ deliveries ∈ w.history, Sound retryDelaysMs w.recorded deliveries
  lasting : w.history.Pairwise Lasting
  keeps : w.history.IsChain Keeps
  sending : ∀ d now, w.drain = .sending d now → d ∈ w.memory ∧ d.status = .pending
  /-- Once the drain is not waiting, what is pending on disk or in a snapshot is pending in memory. -/
  saved : ∀ deliveries ∈ (w.disk :: w.writes).drop w.drain.left, ∀ d ∈ deliveries, d.status = .pending →
    ∃ m ∈ w.memory, m.id = d.id ∧ m.status = .pending
  attempted : ∀ s ∈ w.attempted, w.recorded[s.id]? = some ⟨s.timestamp, s.event, s.body⟩
  /-- Nothing that is pending comes before an attempt made. -/
  floor : ∀ s ∈ w.attempted, ∀ deliveries ∈ w.disk :: w.writes, ∀ d ∈ deliveries, d.status = .pending → s.id ≤ d.id
  ordered : (w.attempted.map Sent.id).Pairwise (· ≤ ·)

theorem Kept.empty : Kept retryDelaysMs empty where
  memory := ⟨[], rfl⟩
  sound := by
    intro deliveries mem
    obtain rfl : deliveries = [] := by simpa [World.history, WebhookDeliveries.empty] using mem
    exact ⟨List.Pairwise.nil, by simp, by simp⟩
  lasting := by simp [World.history, WebhookDeliveries.empty]
  keeps := by simp [World.history, WebhookDeliveries.empty]
  sending := by simp [WebhookDeliveries.empty]
  saved := by simp [WebhookDeliveries.empty, Drain.left]
  attempted := by simp [WebhookDeliveries.empty]
  floor := by simp [WebhookDeliveries.empty]
  ordered := by simp [WebhookDeliveries.empty]

variable {w : World}

theorem Kept.memory_mem (kept : Kept retryDelaysMs w) : w.memory ∈ w.disk :: w.writes := by
  obtain ⟨earlier, split⟩ := kept.memory
  simp [split]

theorem Kept.mem_history (_kept : Kept retryDelaysMs w) {deliveries : List OrderWebhookDelivery}
    (mem : deliveries ∈ w.disk :: w.writes) : deliveries ∈ w.history :=
  List.mem_append_right _ mem

section
variable (kept : Kept retryDelaysMs w)
include kept

theorem Kept.sound_memory : Sound retryDelaysMs w.recorded w.memory :=
  kept.sound _ (kept.mem_history kept.memory_mem)

theorem Kept.history_split : ∃ earlier, w.history = earlier ++ [w.memory] := by
  obtain ⟨earlier, split⟩ := kept.memory
  exact ⟨w.before ++ earlier, by rw [World.history, split, List.append_assoc]⟩

/-- From anything that the record has been to what it is in memory, a delivery in both follows itself. -/
theorem Kept.lasting_memory {deliveries : List OrderWebhookDelivery}
    (mem : deliveries ∈ w.history) : Lasting deliveries w.memory := by
  obtain ⟨earlier, split⟩ := kept.history_split
  have lasting := kept.lasting
  rw [split] at mem lasting
  rcases mem_append.mp mem with early | last
  · exact (pairwise_append.mp lasting).2.2 deliveries early w.memory (by simp)
  · rw [mem_singleton.mp last]
    exact kept.sound_memory.lasting

/-- A change of the record that drops nothing pending and makes no delivery other than new ones. -/
theorem Kept.update {later : List OrderWebhookDelivery} {drain : Drain}
    (sound : Sound retryDelaysMs (w.recorded ++ added) later) (evolves : Evolves w.recorded w.memory later)
    (keeps : Keeps w.memory later) (sending : ∀ d now, drain = .sending d now → d ∈ later ∧ d.status = .pending)
    (saved : ∀ deliveries ∈ (w.disk :: w.writes ++ [later]).drop drain.left, ∀ d ∈ deliveries, d.status = .pending →
      ∃ m ∈ later, m.id = d.id ∧ m.status = .pending) :
    Kept retryDelaysMs { w.update later with recorded := w.recorded ++ added, drain := drain } := by
  have history : World.history { w.update later with recorded := w.recorded ++ added, drain := drain } = w.history ++ [later] := by
    simp [World.history, World.update]
  refine ⟨⟨w.disk :: w.writes, rfl⟩, ?_, ?_, ?_, sending, saved, ?_, ?_, kept.ordered⟩
  · intro deliveries mem
    rw [history, mem_append, mem_singleton] at mem
    rcases mem with old | rfl
    · exact (kept.sound deliveries old).append added
    · exact sound
  · rw [history, pairwise_append]
    refine ⟨kept.lasting, List.pairwise_singleton .., ?_⟩
    intro deliveries old later' mem d inOld d' inLater ids
    rw [mem_singleton.mp mem] at inLater
    rcases evolves d' inLater with ⟨m, inMemory, same, follows⟩ | new
    · exact (kept.lasting_memory old d inOld m inMemory (ids.trans same.symm)).trans follows
    · have below := ((kept.sound deliveries old).reports d inOld).lt
      omega
  · rw [history]
    obtain ⟨earlier, split⟩ := kept.history_split
    have chain := kept.keeps
    rw [split] at chain ⊢
    rw [List.isChain_append]
    refine ⟨chain, List.isChain_singleton _, ?_⟩
    intro last inLast first inFirst
    obtain rfl : w.memory = last := by simpa using inLast
    obtain rfl : later = first := by simpa using inFirst
    exact keeps
  · intro s mem
    have known := kept.attempted s mem
    show (w.recorded ++ added)[s.id]? = _
    rw [List.getElem?_append_left (List.getElem?_eq_some_iff.mp known).1, known]
  · intro s mem deliveries inside d inDeliveries pending
    rw [show (w.update later).disk :: (w.update later).writes = w.disk :: w.writes ++ [later] from rfl, mem_append,
      mem_singleton] at inside
    rcases inside with old | rfl
    · exact kept.floor s mem deliveries old d inDeliveries pending
    · rcases evolves d inDeliveries with ⟨m, inMemory, same, follows⟩ | new
      · rw [← same]
        exact kept.floor s mem w.memory kept.memory_mem m inMemory (follows.was_pending pending)
      · have below := (List.getElem?_eq_some_iff.mp (kept.attempted s mem)).1
        omega

end

theorem Reports.fresh (mem : d ∈ fresh now recorded.length added) : Reports (recorded ++ added) d := by
  obtain ⟨index, r, found, rfl⟩ := mem_fresh.mp mem
  refine ⟨r, ?_, rfl, rfl, fun _ => rfl⟩
  show (recorded ++ added)[recorded.length + index]? = some r
  rw [List.getElem?_append_right (by omega), Nat.add_sub_cancel_left, found]

theorem Sound.appended (sound : Sound retryDelaysMs recorded deliveries) (now : Nat) (added : List Recorded) :
    Sound retryDelaysMs (recorded ++ added) (appendDeliveries deliveries (fresh now recorded.length added)) := by
  have sublist := appendDeliveries_sublist deliveries (fresh now recorded.length added)
  refine ⟨?_, ?_, ?_⟩
  · refine List.Pairwise.sublist (sublist.map _) ?_
    rw [map_append, fresh_ids, pairwise_append]
    refine ⟨sound.sorted, List.pairwise_lt_range', ?_⟩
    intro id mem id' mem'
    obtain ⟨d, inside, rfl⟩ := mem_map.mp mem
    have below := (sound.reports d inside).lt
    have above := (List.mem_range'_1.mp mem').1
    omega
  · intro d mem
    rcases mem_append.mp (sublist.subset mem) with old | new
    · exact (sound.reports d old).append added
    · exact Reports.fresh new
  · intro d mem
    rcases mem_append.mp (sublist.subset mem) with old | new
    · exact sound.bounded d old
    · obtain ⟨index, r, _, rfl⟩ := mem_fresh.mp new
      exact ⟨Nat.zero_le _, fun _ => Nat.zero_le _⟩

section
variable (kept : Kept retryDelaysMs w)
include kept

theorem Kept.append (now : Nat) (added : List Recorded) : Kept retryDelaysMs (step retryDelaysMs w (.append now added)) := by
  have stays : ∀ d ∈ w.memory, d.status = .pending → d ∈ appendDeliveries w.memory (fresh now w.recorded.length added) :=
    fun d mem pending => (mem_appendDeliveries _ _ d pending).mpr (List.mem_append_left _ mem)
  show Kept retryDelaysMs { w.update (appendDeliveries w.memory (fresh now w.recorded.length added)) with
    recorded := w.recorded ++ added, drain := w.drain }
  refine kept.update (kept.sound_memory.appended now added) ?_ ?_ ?_ ?_
  · intro d mem
    rcases mem_append.mp ((appendDeliveries_sublist ..).subset mem) with old | new
    · exact .inl ⟨d, old, rfl, Follows.refl d⟩
    · obtain ⟨index, r, _, rfl⟩ := mem_fresh.mp new
      exact .inr (Nat.le_add_right ..)
  · exact fun d mem pending => ⟨d, stays d mem pending, rfl⟩
  · intro d at' sending
    have ⟨mem, pending⟩ := kept.sending d at' sending
    exact ⟨stays d mem pending, pending⟩
  · intro old mem d inOld pending
    by_cases inside : old ∈ (w.disk :: w.writes).drop w.drain.left
    · obtain ⟨m, inMemory, same, still⟩ := kept.saved old inside d inOld pending
      exact ⟨m, stays m inMemory still, same, still⟩
    · rw [List.drop_append] at mem
      have last := (mem_append.mp mem).resolve_left inside
      obtain rfl := mem_singleton.mp (List.mem_of_mem_drop last)
      exact ⟨d, inOld, rfl, pending⟩

theorem Kept.change_eq_map (d : OrderWebhookDelivery) (now : Nat) (answer : Answer) :
    change d.id (settle retryDelaysMs d now answer) w.memory =
      w.memory.map fun e => if e.id = d.id then settle retryDelaysMs d now answer e else e :=
  WebhookDeliveries.change_eq_map _ _ _ kept.sound_memory.sorted

theorem Kept.mem_change (inMemory : d ∈ w.memory) (now : Nat) (answer : Answer)
    (e : OrderWebhookDelivery) : e ∈ change d.id (settle retryDelaysMs d now answer) w.memory ↔
      e = settle retryDelaysMs d now answer d ∨ e ∈ w.memory ∧ e.id ≠ d.id := by
  rw [kept.change_eq_map, mem_map]
  constructor
  · rintro ⟨m, mem, rfl⟩
    by_cases same : m.id = d.id
    · rw [if_pos same, kept.sound_memory.same mem inMemory same]
      exact .inl rfl
    · rw [if_neg same]
      exact .inr ⟨mem, same⟩
  · rintro (rfl | ⟨mem, other⟩)
    · exact ⟨d, inMemory, if_pos rfl⟩
    · exact ⟨e, mem, if_neg other⟩

theorem Kept.answer (sending : w.drain = .sending d now) (answer : Answer)
    : Kept retryDelaysMs (step retryDelaysMs w (.answer answer)) := by
  obtain ⟨inMemory, pending⟩ := kept.sending d now sending
  have members := kept.mem_change inMemory now answer
  have sound := kept.sound_memory
  have next : step retryDelaysMs w (.answer answer) =
      { w.update (change d.id (settle retryDelaysMs d now answer) w.memory) with
        recorded := w.recorded ++ [], drain := .saving (w.writes.length + 1) } := by
    simp [step, sending, World.update]
  rw [next]
  refine kept.update ?_ ?_ ?_ (by simp) ?_
  · rw [List.append_nil]
    refine ⟨?_, ?_, ?_⟩
    · have ids : (change d.id (settle retryDelaysMs d now answer) w.memory).map OrderWebhookDelivery.id =
          w.memory.map OrderWebhookDelivery.id := by
        rw [kept.change_eq_map, map_map]
        refine List.map_congr_left fun e _ => ?_
        by_cases same : e.id = d.id
        · simp [same, settle]
        · simp [same]
      rw [ids]
      exact sound.sorted
    · intro e mem
      rcases (members e).mp mem with rfl | ⟨old, _⟩
      · exact settle_reports (sound.reports d inMemory) pending now answer
      · exact sound.reports e old
    · intro e mem
      rcases (members e).mp mem with rfl | ⟨old, _⟩
      · exact settle_bounded (sound.bounded d inMemory) pending now answer
      · exact sound.bounded e old
  · intro e mem
    rcases (members e).mp mem with rfl | ⟨old, _⟩
    · exact .inl ⟨d, inMemory, rfl, settle_follows pending now answer⟩
    · exact .inl ⟨e, old, rfl, Follows.refl e⟩
  · intro e old _
    by_cases same : e.id = d.id
    · exact ⟨_, (members _).mpr (.inl rfl), same.symm⟩
    · exact ⟨e, (members e).mpr (.inr ⟨old, same⟩), rfl⟩
  · intro later mem e inLater still
    have last : later ∈ [change d.id (settle retryDelaysMs d now answer) w.memory] := by
      simpa [Drain.left] using mem
    rw [mem_singleton.mp last] at inLater
    exact ⟨e, inLater, rfl, still⟩

theorem Kept.attempt (checked now : Nat) : Kept retryDelaysMs (step retryDelaysMs w (.attempt checked now)) := by
  rw [step]
  split
  next d idle found =>
    split
    · have pending : d.status = .pending := by simpa using List.find?_some found
      have inMemory := List.mem_of_find?_eq_some found
      -- What is first in memory comes before everything pending, in memory and on its way to the disk.
      have first : ∀ m ∈ w.memory, m.status = .pending → d.id ≤ m.id := by
        intro m mem still
        obtain ⟨pre, post, split, none⟩ := List.find?_eq_some_iff_append.mp found |>.2
        have sorted := kept.sound_memory.sorted
        rw [split, map_append, map_cons, pairwise_append, List.pairwise_cons] at sorted
        rw [split] at mem
        rcases mem_append.mp mem with early | late
        · exact absurd still (by simpa using none m early)
        · rcases mem_cons.mp late with rfl | after
          · exact le_rfl
          · exact (sorted.2.1.1 m.id (List.mem_map_of_mem after)).le
      have least : ∀ deliveries ∈ w.disk :: w.writes, ∀ e ∈ deliveries, e.status = .pending → d.id ≤ e.id := by
        intro deliveries mem e inside still
        obtain ⟨m, inM, same, also⟩ := kept.saved deliveries (by simpa [idle, Drain.left] using mem) e inside still
        rw [← same]
        exact first m inM also
      refine { kept with sending := ?_, saved := ?_, attempted := ?_, floor := ?_, ordered := ?_ }
      · rintro e at' eq
        obtain ⟨rfl, rfl⟩ : d = e ∧ now = at' := by simpa using eq
        exact ⟨inMemory, pending⟩
      · have saved := kept.saved
        rw [idle] at saved
        exact saved
      · intro s mem
        rcases mem_append.mp mem with old | new
        · exact kept.attempted s old
        · rw [mem_singleton.mp new]
          obtain ⟨r, known, timestamp, event, body⟩ := (kept.sound_memory.reports d inMemory).known
          show w.recorded[d.id]? = some ⟨d.timestamp, d.event, d.body⟩
          rw [known, timestamp, event, body pending]
      · intro s mem
        rcases mem_append.mp mem with old | new
        · exact kept.floor s old
        · rw [mem_singleton.mp new]
          exact least
      · rw [map_append, pairwise_append]
        refine ⟨kept.ordered, List.pairwise_singleton .., ?_⟩
        intro id mem id' last
        obtain ⟨s, old, rfl⟩ := mem_map.mp mem
        obtain rfl : id' = d.id := by simpa [OrderWebhookDelivery.sent] using last
        exact kept.floor s old w.memory kept.memory_mem d inMemory pending
    · exact kept
  next => exact kept

end

theorem Drain.left_advance (drain : Drain) : drain.advance.left = drain.left - 1 := by
  cases drain with
  | idle => rfl
  | sending => rfl
  | saving left =>
    rw [Drain.advance]
    split
    · show 0 = left - 1
      omega
    · rfl

theorem Kept.written (kept : Kept retryDelaysMs w) : Kept retryDelaysMs (step retryDelaysMs w .written) := by
  rw [step]
  cases writes : w.writes with
  | nil => exact kept
  | cons next rest =>
    have history : World.history { w with before := w.before ++ [w.disk], disk := next, writes := rest, drain := w.drain.advance } =
        w.history := by
      simp [World.history, writes]
    refine ⟨?_, ?_, ?_, ?_, ?_, ?_, kept.attempted, ?_, kept.ordered⟩
    · obtain ⟨earlier, split⟩ := kept.memory
      rw [writes] at split
      rcases List.append_eq_cons_iff.mp split.symm with ⟨rfl, last⟩ | ⟨earlier', rfl, last⟩
      · simp at last
      · exact ⟨earlier', last⟩
    · rw [history]
      exact kept.sound
    · rw [history]
      exact kept.lasting
    · rw [history]
      exact kept.keeps
    · intro d now sending
      refine kept.sending d now ?_
      cases drain : w.drain with
      | idle => simp [drain, Drain.advance] at sending
      | sending e at' => simpa [drain, Drain.advance] using sending
      | saving left =>
        simp only [drain, Drain.advance] at sending
        split at sending <;> simp at sending
    · intro deliveries mem
      apply kept.saved deliveries
      rw [writes]
      rw [Drain.left_advance] at mem
      cases left : w.drain.left with
      | zero =>
        rw [left] at mem
        exact List.mem_cons_of_mem _ mem
      | succ more =>
        rw [left] at mem
        exact mem
    · intro s mem deliveries inside
      apply kept.floor s mem deliveries
      rw [writes]
      exact List.mem_cons_of_mem _ inside

theorem Kept.crash (kept : Kept retryDelaysMs w) : Kept retryDelaysMs (step retryDelaysMs w .crash) := by
  have known : ∀ deliveries ∈ w.before ++ [w.disk], deliveries ∈ w.history := by
    intro deliveries mem
    simp only [World.history, mem_append, mem_cons] at mem ⊢
    tauto
  have history : w.history = w.before ++ [w.disk] ++ w.writes := by simp [World.history]
  refine ⟨⟨[], rfl⟩, fun deliveries mem => kept.sound deliveries (known deliveries mem), ?_, ?_, by simp [step], ?_,
    kept.attempted, ?_, kept.ordered⟩
  · have lasting := kept.lasting
    rw [history] at lasting
    exact (pairwise_append.mp lasting).1
  · have keeps := kept.keeps
    rw [history] at keeps
    exact keeps.left_of_append
  · intro deliveries mem d inside pending
    obtain rfl : deliveries = w.disk := by simpa [step, Drain.left] using mem
    exact ⟨d, inside, rfl, pending⟩
  · intro s mem deliveries inside
    obtain rfl : deliveries = w.disk := by simpa [step] using inside
    exact kept.floor s mem w.disk (by simp)

theorem Kept.step (kept : Kept retryDelaysMs w) (event : Event) : Kept retryDelaysMs (step retryDelaysMs w event) := by
  cases event with
  | append now added => exact kept.append now added
  | attempt checked now => exact kept.attempt checked now
  | answer answer =>
    cases drain : w.drain with
    | sending d now => exact kept.answer drain answer
    | idle => simpa [WebhookDeliveries.step, drain] using kept
    | saving left => simpa [WebhookDeliveries.step, drain] using kept
  | written => exact kept.written
  | crash => exact kept.crash

theorem Kept.run (events : List Event) : Kept retryDelaysMs (run retryDelaysMs events) := by
  rw [WebhookDeliveries.run]
  induction events using List.reverseRecOn with
  | nil => exact Kept.empty
  | append_singleton events event ih =>
    rw [List.foldl_append]
    exact ih.step event

/-! ### What the queue promises -/

variable (retryDelaysMs) in
/-- An answer counts one more attempt of the delivery attempted, unless it is a deferral, and none of any other. -/
def Counts (w : World) : Prop :=
  ∀ sent now answer, w.drain = .sending sent now →
    (∃ d ∈ w.memory, d.id = sent.id) ∧
    ∀ d ∈ w.memory, ∃ later ∈ (step retryDelaysMs w (.answer answer)).memory, later.id = d.id ∧
      later.attempts = d.attempts + if d.id = sent.id ∧ answer.outcome ≠ .defer then 1 else 0

theorem Kept.counts (kept : Kept retryDelaysMs w) : Counts retryDelaysMs w := by
  intro sent now answer sending
  have inMemory := (kept.sending sent now sending).1
  have members := kept.mem_change inMemory now answer
  have memory : (WebhookDeliveries.step retryDelaysMs w (.answer answer)).memory =
      change sent.id (settle retryDelaysMs sent now answer) w.memory := by
    simp [WebhookDeliveries.step, sending, World.update]
  rw [memory]
  refine ⟨⟨sent, inMemory, rfl⟩, fun d mem => ?_⟩
  by_cases same : d.id = sent.id
  · obtain rfl := kept.sound_memory.same mem inMemory same
    refine ⟨_, (members _).mpr (.inl rfl), rfl, ?_⟩
    show counted answer d = _
    by_cases defer : answer.outcome = .defer <;> simp [counted, defer]
  · exact ⟨d, (members d).mpr (.inr ⟨mem, same⟩), rfl, by simp [same]⟩

variable (retryDelaysMs) in
/-- What the record has been stays on record: a crash takes back only what was still to be written. -/
theorem history_prefix (w : World) (event : Event) (quiet : event = .crash → w.writes = []) :
    w.history <+: (step retryDelaysMs w event).history := by
  cases event with
  | append now added => exact ⟨_, by simp [step, World.history, World.update]; rfl⟩
  | attempt checked now =>
    rw [step]
    split
    · split <;> exact prefix_refl _
    · exact prefix_refl _
  | answer answer =>
    rw [step]
    split
    · exact ⟨_, by simp [World.history, World.update]; rfl⟩
    · exact prefix_refl _
  | written =>
    rw [step]
    cases writes : w.writes with
    | nil => exact prefix_refl _
    | cons next rest => exact ⟨[], by simp [World.history, writes]⟩
  | crash => exact ⟨[], by simp [step, World.history, quiet rfl]⟩

end

/-- A deferral, a retry and a crash in the middle: the delivery goes out a third time, and the one behind it after it. -/
example :
    let events : List Event :=
      [.append 0 [⟨1, .created, "a"⟩], .append 0 [⟨2, .shipped, "b"⟩], .written, .written, .attempt 0 0,
        .answer (.sent (.failed .busy)), .written, .attempt 5000 5000, .answer (.sent (.ok 200)), .crash,
        .attempt 5000 5000, .answer (.sent (.ok 200)), .written, .attempt 5000 5000]
    (run WEBHOOK_RETRY_DELAYS_MS events).attempted.map Sent.id = [0, 0, 0, 1] := by
  decide

end AgentPey.WebhookDeliveries
