import AgentPey.Traces
import Mathlib.Data.List.Sort
import Mathlib.Data.List.Dedup
import Mathlib.Algebra.Ring.Int.Defs
import Mathlib.Algebra.Ring.Nat

/-!
The outbox of the partners' webhooks: the rows of `directory_webhook_deliveries`, the drains that take them
(`webhook-drain.ts`), and one POST (`packages/webhooks`). Any number of drains run at once, in any processes, each by its
own clock. A statement of the directory is one act. What a request carries and what it is answered is outside.
-/
namespace AgentPey.WebhookDrains
open List (append_nil map_cons mem_append mem_cons mem_flatMap mem_map mem_map_of_mem mem_singleton nodup_append)

def MAX_WEBHOOK_ATTEMPTS : Nat := 6
def WEBHOOK_DRAIN_BATCH : Nat := 20
def REQUEST_TIMEOUT_MS : Int := 10000

/-- The two minutes of a claim. -/
def LEASE_MS : Int := 120000

def webhookBackoffMs (attempts : Nat) : Int := ↑(min (3 ^ (attempts - 1)) 135 * 60000)

/-! ### The directory -/

structure DeliveryRow where
  id : String
  attempts : Nat
  nextAttemptAt : Int
  deliveredAt : Option Int
  gaveUpAt : Option Int
  lastError : Option String
  deriving DecidableEq, Repr

def DeliveryRow.pending (row : DeliveryRow) : Bool := row.deliveredAt.isNone && row.gaveUpAt.isNone

def DeliveryRow.due (now : Int) (row : DeliveryRow) : Bool := row.pending && decide (row.nextAttemptAt ≤ now)

structure DueWebhookDelivery where
  id : String
  attempts : Nat
  deriving DecidableEq, Repr

abbrev Table := List DeliveryRow

def find (rows : Table) (id : String) : Option DeliveryRow := rows.find? fun row => row.id = id

/-- `update … set … where`. -/
def update (rows : Table) (which : String → Bool) (set : DeliveryRow → DeliveryRow) : Table :=
  rows.map fun row => if which row.id then set row else row

/-- One row for an event and an endpoint, as its insert leaves it; the id is the table's key. -/
def enqueue (id : String) (now : Int) (rows : Table) : Table :=
  if (find rows id).isSome then rows else rows ++ [⟨id, 0, now, none, none, none⟩]

/-- `claimed`: of the due rows that the scan comes to, without those that others have locked, the first by their time. -/
def claimed (limit : Nat) (now : Int) (scan : List String) (rows : Table) : List DeliveryRow :=
  (((scan.dedup.filterMap (find rows)).filter (DeliveryRow.due now)).insertionSort fun a b =>
    a.nextAttemptAt ≤ b.nextAttemptAt).take limit

def DeliveryRow.leased (now : Int) (row : DeliveryRow) : DeliveryRow :=
  { row with attempts := row.attempts + 1, nextAttemptAt := now + LEASE_MS }

def toDueWebhookDelivery (row : DeliveryRow) : DueWebhookDelivery := ⟨row.id, row.attempts⟩

/-- `claimDueWebhookDeliveries`, with the rows in the order in which their claim found them. -/
def claimDueWebhookDeliveries (limit : Nat) (now : Int) (scan : List String) (rows : Table) :
    List DueWebhookDelivery × Table :=
  let taken := claimed limit now scan rows
  (taken.map fun row => toDueWebhookDelivery (row.leased now),
    update rows (fun id => id ∈ taken.map DeliveryRow.id) (DeliveryRow.leased now))

structure Failure where
  lastError : String
  giveUp : Bool
  nextAttemptAt : Option Int
  «at» : Int
  deriving DecidableEq, Repr

inductive Mark where
  | delivered (at_ : Int)
  | failed (input : Failure)
  deriving DecidableEq, Repr

def Mark.set : Mark → DeliveryRow → DeliveryRow
  | .delivered at_, row => { row with deliveredAt := some at_, lastError := none }
  | .failed input, row =>
    { row with
      lastError := some input.lastError
      gaveUpAt := if input.giveUp then some input.at else none
      nextAttemptAt := if input.giveUp then row.nextAttemptAt else input.nextAttemptAt.getD input.at }

/-- `markWebhookDelivered` and `markWebhookFailed`. -/
def mark (id : String) (m : Mark) (rows : Table) : Table := update rows (· = id) m.set

/-! ### One delivery -/

/-- How a request ended: with a response, or with an exception, which the timeout may have caused. -/
inductive Fetched where
  | response (status : Nat)
  | failed (aborted : Bool) (message : String)

def errorMessage (message : String) : String := if message.length > 0 then message else "unknown network error"

def attemptError (aborted : Bool) (message : String) : String :=
  if aborted then "request timed out after " ++ toString REQUEST_TIMEOUT_MS ++ "ms" else errorMessage message

inductive WebhookDeliveryResult where
  | delivered (attempts status : Nat)
  | failed (attempts : Nat) (lastError : String) (retryable : Bool)

/-- The loop of `deliverWebhook`, with `left` rounds to go. -/
def deliverLoop (fetchImpl : Nat → Fetched) (maxAttempts : Nat) : Nat → String → WebhookDeliveryResult
  | 0, lastError => .failed maxAttempts lastError true
  | left + 1, _ =>
    match fetchImpl (maxAttempts - left) with
    | .response status =>
      if 200 ≤ status ∧ status < 300 then .delivered (maxAttempts - left) status
      else if status < 500 then .failed (maxAttempts - left) ("HTTP " ++ toString status) false
      else deliverLoop fetchImpl maxAttempts left ("HTTP " ++ toString status)
    | .failed aborted message => deliverLoop fetchImpl maxAttempts left (attemptError aborted message)

def deliverWebhook (fetchImpl : Nat → Fetched) (maxAttempts : Nat) : WebhookDeliveryResult :=
  deliverLoop fetchImpl maxAttempts maxAttempts "delivery was not attempted"

/-- What `deliverOne` records of a result. -/
def conclude (due : DueWebhookDelivery) (now : Int) : WebhookDeliveryResult → Mark
  | .delivered _ _ => .delivered now
  | .failed _ lastError retryable =>
    let giveUp := !retryable || decide (due.attempts ≥ MAX_WEBHOOK_ATTEMPTS)
    .failed ⟨lastError, giveUp, if giveUp then none else some (now + webhookBackoffMs due.attempts), now⟩

/-! ### Drains -/

structure WebhookDrainSummary where
  claimed : Nat
  delivered : Nat
  retrying : Nat
  gaveUp : Nat
  deriving DecidableEq, Repr

def WebhookDrainSummary.record (m : Mark) (summary : WebhookDrainSummary) : WebhookDrainSummary :=
  match m with
  | .delivered _ => { summary with delivered := summary.delivered + 1 }
  | .failed input =>
    if input.giveUp then { summary with gaveUp := summary.gaveUp + 1 } else { summary with retrying := summary.retrying + 1 }

/-- Where a drain is with the first delivery of what is left of its batch. -/
inductive Phase where
  | resolving
  | posting
  | marking (m : Mark)
  deriving DecidableEq, Repr

/-- A drain that has finished, or died, has nothing left of its batch. -/
structure Drain where
  claimedAt : Int
  batch : List DueWebhookDelivery
  phase : Phase
  summary : WebhookDrainSummary
  deriving DecidableEq, Repr

/-- What happens to a drain. `thrown` is what the loop catches: the payload does not parse, a write was refused. -/
inductive DrainAct where
  | refused (lastError : String) (now : Int)
  | resolved
  | answered (fetched : Fetched) (now : Int)
  /-- The row is written, whatever the drain learns of it. -/
  | marked (reported : Bool)
  | thrown
  | crash

inductive Event where
  | posted (id : String)
  deriving DecidableEq, Repr

def Drain.begin (now : Int) (due : List DueWebhookDelivery) : Drain := ⟨now, due, .resolving, ⟨due.length, 0, 0, 0⟩⟩

def Drain.next (d : Drain) (summary : WebhookDrainSummary) : Drain :=
  { d with batch := d.batch.tail, phase := .resolving, summary := summary }

def Drain.retrying (d : Drain) : WebhookDrainSummary := { d.summary with retrying := d.summary.retrying + 1 }

/-- One act of a drain, with the row it writes and what it sends. -/
def Drain.act (d : Drain) (a : DrainAct) : Drain × Option (String × Mark) × List Event :=
  match d.batch with
  | [] => (d, none, [])
  | due :: _ =>
    match d.phase, a with
    | .resolving, .refused lastError now => ({ d with phase := .marking (.failed ⟨lastError, true, none, now⟩) }, none, [])
    | .resolving, .resolved => ({ d with phase := .posting }, none, [.posted due.id])
    | .posting, .answered fetched now =>
      ({ d with phase := .marking (conclude due now (deliverWebhook (fun _ => fetched) 1)) }, none, [])
    | .marking m, .marked reported =>
      (d.next (if reported then d.summary.record m else d.retrying), some (due.id, m), [])
    | _, .thrown => (d.next d.retrying, none, [])
    | _, .crash => ({ d with batch := [] }, none, [])
    | _, _ => (d, none, [])

/-- The order in which the rows of a claim come back, which the join decides. -/
structure Join where
  order : List DueWebhookDelivery → List DueWebhookDelivery
  perm : ∀ list, (order list).Perm list

structure Outbox where
  rows : Table
  drains : List Drain

def started : Outbox := ⟨[], []⟩

/-- A drain starts with its claim. Where the answer to the claim is lost, it dies at once. -/
inductive Act where
  | enqueue (id : String) (now : Int)
  | claim (limit : Nat) (now : Int) (scan : List String) (join : Join)
  | drain (i : Nat) (a : DrainAct)

def written (rows : Table) : Option (String × Mark) → Table
  | none => rows
  | some (id, m) => mark id m rows

def step (s : Outbox) : Act → Outbox × List Event
  | .enqueue id now => ({ s with rows := enqueue id now s.rows }, [])
  | .claim limit now scan join =>
    let (due, rows) := claimDueWebhookDeliveries limit now scan s.rows
    (⟨rows, s.drains ++ [Drain.begin now (join.order due)]⟩, [])
  | .drain i a =>
    match s.drains[i]? with
    | none => (s, [])
    | some d =>
      let (d, write, events) := d.act a
      (⟨written s.rows write, s.drains.set i d⟩, events)

def Outbox.inHand (s : Outbox) : List String := s.drains.flatMap fun d => d.batch.map DueWebhookDelivery.id

def Outbox.delivering (s : Outbox) : List String := s.drains.filterMap fun d => d.batch.head?.map DueWebhookDelivery.id

/-- No claim comes when the lease of a drain that is still at work is over, and no sixth attempt ends unrecorded. -/
def inTime (s : Outbox) : Act → Bool
  | .enqueue .. => true
  | .claim _ now _ _ => s.drains.all fun d => d.batch.isEmpty || decide (now < d.claimedAt + LEASE_MS)
  | .drain i .thrown => (s.drains[i]?.bind fun d => d.batch.head?).all fun due => decide (due.attempts < MAX_WEBHOOK_ATTEMPTS)
  | .drain i .crash => s.drains[i]?.all fun d => d.batch.all fun due => decide (due.attempts < MAX_WEBHOOK_ATTEMPTS)
  | .drain _ _ => true

/-! ### What a statement changes -/

section
variable {rows : Table} {id : String} {row : DeliveryRow}

theorem find_id (found : find rows id = some row) : row.id = id := by
  simpa using List.find?_some found

theorem find_update {which : String → Bool} {set : DeliveryRow → DeliveryRow} (same : ∀ row, (set row).id = row.id) :
    find (update rows which set) id = (find rows id).map fun row => if which id then set row else row := by
  induction rows with
  | nil => rfl
  | cons first rest ih =>
    have head : (if which first.id then set first else first).id = first.id := by
      by_cases chosen : which first.id
      · rw [if_pos chosen, same]
      · rw [if_neg chosen]
    show find ((if which first.id then set first else first) :: update rest which set) id = _
    unfold find at ih ⊢
    rw [List.find?_cons, List.find?_cons, head]
    by_cases here : first.id = id
    · simp [here]
    · simp only [here, decide_false]
      exact ih

theorem Mark.set_id (m : Mark) (row : DeliveryRow) : (m.set row).id = row.id := by
  cases m <;> rfl

theorem Mark.set_attempts (m : Mark) (row : DeliveryRow) : (m.set row).attempts = row.attempts := by
  cases m <;> rfl

theorem Mark.set_pending {m : Mark} {row : DeliveryRow} (pending : (m.set row).pending = true) :
    ∃ input, m = .failed input ∧ input.giveUp = false := by
  cases m with
  | delivered at_ => simp [Mark.set, DeliveryRow.pending] at pending
  | failed input =>
    refine ⟨input, rfl, ?_⟩
    by_contra last
    simp [Mark.set, DeliveryRow.pending, last] at pending

theorem leased_id (now : Int) (row : DeliveryRow) : (row.leased now).id = row.id := rfl

theorem find_mark_same (m : Mark) (found : find rows id = some row) : find (mark id m rows) id = some (m.set row) := by
  rw [mark, find_update m.set_id, found]
  simp

theorem find_mark_other (m : Mark) {other : String} (apart : other ≠ id) : find (mark id m rows) other = find rows other := by
  rw [mark, find_update m.set_id]
  simp [apart]

theorem find_enqueue_old {new : String} {now : Int} (found : find rows id = some row) :
    find (enqueue new now rows) id = some row := by
  unfold enqueue
  by_cases known : (find rows new).isSome
  · rwa [if_pos known]
  · rw [if_neg known, find, List.find?_append, show rows.find? _ = some row from found]
    rfl

theorem find_enqueue {new : String} {now : Int} (found : find (enqueue new now rows) id = some row) :
    find rows id = some row ∨ find rows id = none ∧ row = ⟨new, 0, now, none, none, none⟩ := by
  unfold enqueue at found
  by_cases known : (find rows new).isSome
  · exact .inl (by rwa [if_pos known] at found)
  · rw [if_neg known, find, List.find?_append] at found
    cases old : find rows id with
    | some first =>
      rw [show rows.find? _ = some first from old] at found
      exact .inl found
    | none =>
      rw [show rows.find? _ = none from old, Option.none_or] at found
      exact .inr ⟨rfl, (mem_singleton.mp (List.mem_of_find?_eq_some found))⟩

variable {limit : Nat} {now : Int} {scan : List String}

theorem mem_claimed (taken : row ∈ claimed limit now scan rows) : find rows row.id = some row ∧ row.due now = true := by
  have sorted := (List.mem_insertionSort _).mp (List.mem_of_mem_take taken)
  obtain ⟨scanned, due⟩ := List.mem_filter.mp sorted
  obtain ⟨id, _, found⟩ := List.mem_filterMap.mp scanned
  obtain rfl := find_id found
  exact ⟨found, due⟩

theorem scanned_sublist (ids : List String) : ((ids.filterMap (find rows)).map DeliveryRow.id).Sublist ids := by
  induction ids with
  | nil => exact List.Sublist.slnil
  | cons id rest ih =>
    cases found : find rows id with
    | none =>
      rw [List.filterMap_cons_none found]
      exact ih.cons id
    | some row =>
      rw [List.filterMap_cons_some found, map_cons, find_id found]
      exact ih.cons_cons id

theorem claimed_nodup : ((claimed limit now scan rows).map DeliveryRow.id).Nodup := by
  have scanned : (((scan.dedup.filterMap (find rows)).filter (DeliveryRow.due now)).map DeliveryRow.id).Nodup :=
    (List.nodup_dedup scan).sublist ((List.filter_sublist.map _).trans (scanned_sublist _))
  refine List.Nodup.sublist ((List.take_sublist ..).map _) ?_
  exact ((List.perm_insertionSort ..).map _).nodup_iff.mpr scanned

theorem find_claim : find (claimDueWebhookDeliveries limit now scan rows).2 id =
    (find rows id).map fun row =>
      if id ∈ (claimed limit now scan rows).map DeliveryRow.id then row.leased now else row := by
  unfold claimDueWebhookDeliveries
  rw [find_update (leased_id now)]
  simp

theorem find_claim_other (apart : id ∉ (claimed limit now scan rows).map DeliveryRow.id) :
    find (claimDueWebhookDeliveries limit now scan rows).2 id = find rows id := by
  rw [find_claim]
  simp [apart]

theorem find_claim_taken (taken : row ∈ claimed limit now scan rows) :
    find (claimDueWebhookDeliveries limit now scan rows).2 row.id = some (row.leased now) := by
  rw [find_claim, (mem_claimed taken).1, Option.map_some, if_pos (mem_map_of_mem taken)]

end

/-! ### The outbox in order -/

def attemptsOf (rows : Table) (id : String) : Nat := ((find rows id).map DeliveryRow.attempts).getD 0

/-- The deliveries of a drain that it has not sent. -/
def Drain.unposted (d : Drain) : List String :=
  match d.phase with
  | .resolving => d.batch.map DueWebhookDelivery.id
  | _ => d.batch.tail.map DueWebhookDelivery.id

/-- What a drain with this delivery may come to record of it: a failure that is not the last has attempts left. -/
def Drain.Fair (d : Drain) : Prop :=
  ∀ due rest input, d.batch = due :: rest → d.phase = .marking (.failed input) → input.giveUp = false →
    due.attempts < MAX_WEBHOOK_ATTEMPTS

structure Orderly (s : Outbox) (t : List Event) : Prop where
  exclusive : s.inHand.Nodup
  held : ∀ d ∈ s.drains, ∀ due ∈ d.batch, ∃ row, find s.rows due.id = some row ∧ row.attempts = due.attempts ∧
    row.pending = true ∧ row.nextAttemptAt = d.claimedAt + LEASE_MS
  bounded : ∀ id row, find s.rows id = some row → row.attempts ≤ MAX_WEBHOOK_ATTEMPTS
  free : ∀ id row, find s.rows id = some row → row.pending = true → id ∉ s.inHand → row.attempts < MAX_WEBHOOK_ATTEMPTS
  fair : ∀ d ∈ s.drains, d.Fair
  posts : ∀ id, t.count (.posted id) + (s.drains.flatMap Drain.unposted).count id ≤ attemptsOf s.rows id

theorem orderly_started : Orderly started [] where
  exclusive := List.nodup_nil
  held := by simp [started]
  bounded := by simp [started, find]
  free := by simp [started, find]
  fair := by simp [started]
  posts := by simp [started]

section
variable {rows rows' : Table} {before after : List Drain} {d d' : Drain} {t : List Event}

theorem inHand_split : (Outbox.mk rows (before ++ d :: after)).inHand =
    before.flatMap (fun d => d.batch.map DueWebhookDelivery.id) ++
      (d.batch.map DueWebhookDelivery.id ++ after.flatMap fun d => d.batch.map DueWebhookDelivery.id) := by
  simp [Outbox.inHand]

theorem mem_inHand_split {id : String} : id ∈ (Outbox.mk rows (before ++ d :: after)).inHand ↔
    id ∈ d.batch.map DueWebhookDelivery.id ∨ ∃ e ∈ before ++ after, id ∈ e.batch.map DueWebhookDelivery.id := by
  rw [inHand_split]
  simp only [mem_append, mem_flatMap]
  constructor
  · rintro (⟨e, among, found⟩ | found | ⟨e, among, found⟩)
    · exact .inr ⟨e, .inl among, found⟩
    · exact .inl found
    · exact .inr ⟨e, .inr among, found⟩
  · rintro (found | ⟨e, among | among, found⟩)
    · exact .inr (.inl found)
    · exact .inl ⟨e, among, found⟩
    · exact .inr (.inr ⟨e, among, found⟩)

/-- A drain keeps some of its batch, in which nothing changes, and is done with the others, which are settled or have
    attempts left. -/
theorem Orderly.replace (orderly : Orderly ⟨rows, before ++ d :: after⟩ t) (events : List Event)
    (fewer : d'.batch.Sublist d.batch) (sameLease : d'.claimedAt = d.claimedAt)
    (outside : ∀ id, id ∉ d.batch.map DueWebhookDelivery.id → find rows' id = find rows id)
    (kept : ∀ due ∈ d'.batch, find rows' due.id = find rows due.id)
    (left : ∀ due ∈ d.batch, due ∉ d'.batch → ∃ row, find rows' due.id = some row ∧ row.attempts = due.attempts ∧
      (row.pending = true → row.attempts < MAX_WEBHOOK_ATTEMPTS)) (fair : d'.Fair)
    (posts : ∀ id, events.count (.posted id) + d'.unposted.count id ≤ d.unposted.count id) :
    Orderly ⟨rows', before ++ d' :: after⟩ (t ++ events) := by
  have own : ∀ due ∈ d.batch, ∃ row, find rows due.id = some row ∧ row.attempts = due.attempts ∧ row.pending = true ∧
      row.nextAttemptAt = d.claimedAt + LEASE_MS := orderly.held d (by simp)
  have others : ∀ e ∈ before ++ after, ∀ due ∈ e.batch, due.id ∉ d.batch.map DueWebhookDelivery.id := by
    intro e among due here both
    have exclusive := orderly.exclusive
    rw [inHand_split] at exclusive
    have mine : due.id ∈ e.batch.map DueWebhookDelivery.id := mem_map_of_mem here
    obtain ⟨_, second, apart⟩ := nodup_append.mp exclusive
    rcases mem_append.mp among with first | last
    · exact apart _ (mem_flatMap.mpr ⟨e, first, mine⟩) _ (List.mem_append_left _ both) rfl
    · exact (nodup_append.mp second).2.2 _ both _ (mem_flatMap.mpr ⟨e, last, mine⟩) rfl
  have attempts : ∀ id, attemptsOf rows' id = attemptsOf rows id := by
    intro id
    unfold attemptsOf
    by_cases mine : id ∈ d.batch.map DueWebhookDelivery.id
    · obtain ⟨due, among, rfl⟩ := mem_map.mp mine
      by_cases still : due ∈ d'.batch
      · rw [kept due still]
      · obtain ⟨row, found, same, _⟩ := own due among
        obtain ⟨row', found', same', _⟩ := left due among still
        rw [found, found']
        simp [same, same']
    · rw [outside id mine]
  refine ⟨?_, ?_, ?_, ?_, ?_, ?_⟩
  · have exclusive := orderly.exclusive
    rw [inHand_split] at exclusive ⊢
    exact exclusive.sublist (List.Sublist.append (List.Sublist.refl _) ((fewer.map _).append (List.Sublist.refl _)))
  · intro e among due here
    have cases : e = d' ∨ e ∈ before ++ after := by
      simp only [mem_append, mem_cons] at among ⊢
      tauto
    rcases cases with rfl | other
    · rw [kept due here, sameLease]
      exact own due (fewer.subset here)
    · rw [outside _ (others e other due here)]
      refine orderly.held e ?_ due here
      simp only [mem_append, mem_cons] at other ⊢
      tauto
  · intro id row found
    have same := attempts id
    have old : attemptsOf rows id ≤ MAX_WEBHOOK_ATTEMPTS := by
      unfold attemptsOf
      cases known : find rows id with
      | none => simp
      | some first => exact orderly.bounded id first known
    unfold attemptsOf at same old
    rw [found] at same
    simp only [Option.map_some, Option.getD_some] at same
    omega
  · intro id row found pending loose
    by_cases mine : id ∈ d.batch.map DueWebhookDelivery.id
    · obtain ⟨due, among, rfl⟩ := mem_map.mp mine
      have done : due ∉ d'.batch := fun still => loose (mem_inHand_split.mpr (.inl (mem_map_of_mem still)))
      obtain ⟨row', found', _, last⟩ := left due among done
      obtain rfl := Option.some.inj (found.symm.trans found')
      exact last pending
    · rw [outside id mine] at found
      refine orderly.free id row found pending fun taken => ?_
      rcases mem_inHand_split.mp taken with here | there
      · exact mine here
      · exact loose (mem_inHand_split.mpr (.inr there))
  · intro e among
    have cases : e = d' ∨ e ∈ before ++ d :: after := by
      simp only [mem_append, mem_cons] at among ⊢
      tauto
    rcases cases with rfl | other
    · exact fair
    · exact orderly.fair e other
  · intro id
    have old := orderly.posts id
    have new := posts id
    rw [attempts]
    simp only [List.flatMap_append, List.flatMap_cons, List.count_append] at old new ⊢
    omega

theorem split_set {drains : List Drain} {i : Nat} (here : drains[i]? = some d) :
    ∃ before after, drains = before ++ d :: after ∧ ∀ d', drains.set i d' = before ++ d' :: after := by
  obtain ⟨inside, value⟩ := List.getElem?_eq_some_iff.mp here
  refine ⟨drains.take i, drains.drop (i + 1), ?_, fun d' => ?_⟩
  · rw [← value, ← List.drop_eq_getElem_cons inside, List.take_append_drop]
  · rw [List.set_eq_take_append_cons_drop, if_pos inside]

theorem Orderly.stay {phase : Phase} (orderly : Orderly ⟨rows, before ++ d :: after⟩ t) (events : List Event)
    (fair : ({ d with phase := phase } : Drain).Fair)
    (posts : ∀ id, events.count (.posted id) + ({ d with phase := phase } : Drain).unposted.count id ≤ d.unposted.count id) :
    Orderly ⟨rows, before ++ { d with phase := phase } :: after⟩ (t ++ events) :=
  orderly.replace events (List.Sublist.refl _) rfl (fun _ _ => rfl) (fun _ _ => rfl)
    (fun _ among gone => absurd among gone) fair posts

variable {due : DueWebhookDelivery}

theorem Orderly.next {rest : List DueWebhookDelivery} {summary : WebhookDrainSummary}
    (orderly : Orderly ⟨rows, before ++ d :: after⟩ t) (batch : d.batch = due :: rest)
    (outside : ∀ id, id ≠ due.id → find rows' id = find rows id)
    (done : ∃ row, find rows' due.id = some row ∧ row.attempts = due.attempts ∧
      (row.pending = true → row.attempts < MAX_WEBHOOK_ATTEMPTS)) :
    Orderly ⟨rows', before ++ d.next summary :: after⟩ (t ++ []) := by
  have exclusive : ((due :: rest).map DueWebhookDelivery.id).Nodup := by
    have all := orderly.exclusive
    rw [inHand_split, batch] at all
    exact (nodup_append.mp (nodup_append.mp all).2.1).1
  have apart : ∀ other ∈ rest, other.id ≠ due.id := fun other among same =>
    (List.nodup_cons.mp exclusive).1 (same ▸ mem_map_of_mem among)
  have tail : (d.next summary).batch = rest := by simp [Drain.next, batch]
  refine orderly.replace [] ?_ rfl (fun id loose => outside id fun here => loose ?_)
    (fun other among => outside _ (apart other (tail ▸ among))) (fun other among gone => ?_)
    (fun _ _ _ _ impossible => nomatch impossible) fun id => ?_
  · rw [tail, batch]
    exact List.sublist_cons_self ..
  · rw [batch, here]
    simp
  · rw [tail] at gone
    rw [batch, mem_cons] at among
    obtain rfl := among.resolve_right gone
    exact done
  · have sub : ((d.next summary).unposted).Sublist d.unposted := by
      unfold Drain.unposted
      rw [tail, batch]
      cases d.phase with
      | resolving => exact (List.sublist_cons_self ..).map _
      | posting => exact List.Sublist.refl _
      | marking m => exact List.Sublist.refl _
    simpa using sub.count_le id

theorem Orderly.own {rest : List DueWebhookDelivery} (orderly : Orderly ⟨rows, before ++ d :: after⟩ t)
    (batch : d.batch = due :: rest) :
    ∃ row, find rows due.id = some row ∧ row.attempts = due.attempts ∧ row.pending = true := by
  obtain ⟨row, found, same, pending, _⟩ := orderly.held d (by simp) due (by simp [batch])
  exact ⟨row, found, same, pending⟩

theorem conclude_fair {now : Int} {result : WebhookDeliveryResult} {input : Failure}
    (recorded : conclude due now result = .failed input) (more : input.giveUp = false) :
    due.attempts < MAX_WEBHOOK_ATTEMPTS := by
  cases result with
  | delivered attempts status => simp [conclude] at recorded
  | failed attempts lastError retryable =>
    simp only [conclude, Mark.failed.injEq] at recorded
    rw [← recorded] at more
    simp only [Bool.or_eq_false_iff, decide_eq_false_iff_not] at more
    omega

end

theorem act_write (d : Drain) (a : DrainAct) : (d.act a).2.1 = none ∨
    ∃ due rest m, d.batch = due :: rest ∧ (d.act a).2.1 = some (due.id, m) := by
  obtain ⟨claimedAt, batch, phase, summary⟩ := d
  cases batch with
  | nil => exact .inl rfl
  | cons due rest =>
    cases phase with
    | marking m =>
      cases a with
      | marked reported => exact .inr ⟨due, rest, m, rfl, rfl⟩
      | _ => exact .inl rfl
    | _ => cases a <;> exact .inl rfl

variable {s : Outbox} {t : List Event}

/-- Every act of a drain keeps the outbox in order, where no sixth attempt ends unrecorded. -/
theorem Orderly.drain (orderly : Orderly s t) (i : Nat) (a : DrainAct) (good : inTime s (.drain i a) = true)
    : Orderly (step s (.drain i a)).1 (t ++ (step s (.drain i a)).2) := by
  cases here : s.drains[i]? with
  | none => simpa [step, here] using orderly
  | some d =>
    obtain ⟨before, after, split, set⟩ := split_set here
    obtain ⟨rows, drains⟩ := s
    obtain rfl : drains = before ++ d :: after := split
    have moved : step ⟨rows, before ++ d :: after⟩ (.drain i a) =
        (⟨written rows (d.act a).2.1, before ++ (d.act a).1 :: after⟩, (d.act a).2.2) := by
      simp only [step, here, set]
    rw [moved]
    have idle : d.act a = (d, none, []) → Orderly ⟨written rows (d.act a).2.1, before ++ (d.act a).1 :: after⟩
        (t ++ (d.act a).2.2) := by
      intro same
      rw [same, append_nil]
      exact orderly
    obtain ⟨claimedAt, batch, phase, summary⟩ := d
    cases batch with
    | nil => exact idle rfl
    | cons due rest =>
      obtain ⟨row, found, attempts, pending⟩ := orderly.own rfl
      cases a with
      | refused lastError now =>
        cases phase with
        | resolving =>
          refine orderly.stay [] (fun _ _ _ _ last more => ?_) fun id => ?_
          · cases last
            cases more
          · simp [Drain.unposted, List.count_cons]
        | _ => exact idle rfl
      | resolved =>
        cases phase with
        | resolving =>
          refine orderly.stay [.posted due.id] (fun _ _ _ _ impossible => nomatch impossible) fun id => ?_
          simp [Drain.unposted, List.count_cons]
          omega
        | _ => exact idle rfl
      | answered fetched now =>
        cases phase with
        | posting =>
          refine orderly.stay [] (fun _ _ _ same last more => ?_) fun id => ?_
          · cases same
            exact conclude_fair (Phase.marking.inj last) more
          · simp [Drain.unposted]
        | _ => exact idle rfl
      | marked reported =>
        cases phase with
        | marking m =>
          refine orderly.next rfl (fun id apart => find_mark_other m apart)
            ⟨_, find_mark_same m found, (m.set_attempts row).trans attempts, fun open_ => ?_⟩
          obtain ⟨input, rfl, more⟩ := Mark.set_pending open_
          rw [Mark.set_attempts, attempts]
          have fair := orderly.fair ⟨claimedAt, due :: rest, .marking (.failed input), summary⟩ (by simp)
          exact fair due rest input rfl rfl more
        | _ => exact idle rfl
      | thrown =>
        have left : due.attempts < MAX_WEBHOOK_ATTEMPTS := by simpa [inTime, here] using good
        have next : Orderly ⟨rows, before ++ (⟨claimedAt, due :: rest, phase, summary⟩ : Drain).next
            (⟨claimedAt, due :: rest, phase, summary⟩ : Drain).retrying :: after⟩ (t ++ []) :=
          orderly.next rfl (fun _ _ => rfl) ⟨row, found, attempts, fun _ => attempts ▸ left⟩
        cases phase <;> exact next
      | crash =>
        have left : ∀ other ∈ due :: rest, other.attempts < MAX_WEBHOOK_ATTEMPTS := by
          intro other among
          have all : due.attempts < MAX_WEBHOOK_ATTEMPTS ∧ ∀ other ∈ rest, other.attempts < MAX_WEBHOOK_ATTEMPTS := by
            simpa [inTime, here] using good
          rcases mem_cons.mp among with same | later
          · exact same ▸ all.1
          · exact all.2 other later
        have dead : Orderly ⟨rows, before ++ ⟨claimedAt, [], phase, summary⟩ :: after⟩ (t ++ []) := by
          refine orderly.replace [] (List.nil_sublist _) rfl (fun _ _ => rfl) (fun _ _ => rfl) (fun other among _ => ?_)
            (fun _ _ _ impossible => nomatch impossible) fun id => ?_
          · obtain ⟨row, found, same, _⟩ := orderly.held _ (by simp) other among
            exact ⟨row, found, same, fun _ => same ▸ left other among⟩
          · cases phase <;> simp [Drain.unposted]
        cases phase <;> exact dead

variable {row : DeliveryRow}

section
variable (orderly : Orderly s t)
include orderly

theorem Orderly.loose {now : Int} (early : ∀ d ∈ s.drains, d.batch ≠ [] → now < d.claimedAt + LEASE_MS) {id : String}
    (found : find s.rows id = some row) (due : row.due now = true) : id ∉ s.inHand := by
  intro taken
  obtain ⟨d, among, mine⟩ := mem_flatMap.mp taken
  obtain ⟨held, here, rfl⟩ := mem_map.mp mine
  obtain ⟨row', found', _, _, lease⟩ := orderly.held d among held here
  obtain rfl := Option.some.inj (found.symm.trans found')
  have before := early d among (List.ne_nil_of_mem here)
  simp only [DeliveryRow.due, Bool.and_eq_true, decide_eq_true_eq] at due
  omega

theorem Orderly.claim (limit : Nat) (now : Int) (scan : List String) (join : Join)
    (early : ∀ d ∈ s.drains, d.batch ≠ [] → now < d.claimedAt + LEASE_MS) :
    Orderly (step s (.claim limit now scan join)).1 t := by
  obtain ⟨rows, drains⟩ := s
  set due := (claimDueWebhookDeliveries limit now scan rows).1 with dueIs
  set ids := (claimed limit now scan rows).map DeliveryRow.id with idsIs
  have ofBatch : ((join.order due).map DueWebhookDelivery.id).Perm ids := by
    refine ((join.perm due).map _).trans (List.Perm.of_eq ?_)
    simp [dueIs, idsIs, claimDueWebhookDeliveries, toDueWebhookDelivery, DeliveryRow.leased]
  have loose : ∀ id ∈ ids, id ∉ (Outbox.mk rows drains).inHand := by
    intro id taken
    obtain ⟨row, among, rfl⟩ := mem_map.mp taken
    obtain ⟨found, isDue⟩ := mem_claimed among
    exact orderly.loose early found isDue
  have hands : (step ⟨rows, drains⟩ (.claim limit now scan join)).1.inHand =
      (Outbox.mk rows drains).inHand ++ (join.order due).map DueWebhookDelivery.id := by
    simp [step, Outbox.inHand, Drain.begin, dueIs]
  refine ⟨?_, ?_, ?_, ?_, ?_, ?_⟩
  · rw [hands, nodup_append]
    refine ⟨orderly.exclusive, ofBatch.nodup_iff.mpr claimed_nodup, ?_⟩
    rintro id old _ new rfl
    exact loose id (ofBatch.mem_iff.mp new) old
  · intro d among held here
    rcases mem_append.mp among with old | new
    · have apart : held.id ∉ ids := fun taken =>
        loose _ taken (mem_flatMap.mpr ⟨d, old, mem_map_of_mem here⟩)
      obtain ⟨row, found, rest⟩ := orderly.held d old held here
      exact ⟨row, (find_claim_other apart).trans found, rest⟩
    · obtain rfl := mem_singleton.mp new
      obtain ⟨row, taken, rfl⟩ := mem_map.mp (((join.perm due).mem_iff).mp here)
      obtain ⟨_, isDue⟩ := mem_claimed taken
      have pending : row.pending = true := (Bool.and_eq_true_iff.mp isDue).1
      exact ⟨row.leased now, find_claim_taken taken, rfl, pending, rfl⟩
  · intro id row found
    by_cases taken : id ∈ ids
    · obtain ⟨old, among, rfl⟩ := mem_map.mp taken
      obtain ⟨known, isDue⟩ := mem_claimed among
      obtain rfl := Option.some.inj ((find_claim_taken among).symm.trans found)
      have pending : old.pending = true := (Bool.and_eq_true_iff.mp isDue).1
      exact orderly.free _ old known pending (loose _ taken)
    · exact orderly.bounded id row ((find_claim_other taken).symm.trans found)
  · intro id row found pending free
    rw [hands, mem_append, not_or] at free
    have apart : id ∉ ids := fun taken => free.2 (ofBatch.mem_iff.mpr taken)
    exact orderly.free id row ((find_claim_other apart).symm.trans found) pending free.1
  · intro d among
    rcases mem_append.mp among with old | new
    · exact orderly.fair d old
    · obtain rfl := mem_singleton.mp new
      exact fun _ _ _ _ impossible => nomatch impossible
  · intro id
    have old := orderly.posts id
    have unposted : ((step ⟨rows, drains⟩ (.claim limit now scan join)).1.drains.flatMap Drain.unposted).count id =
        (drains.flatMap Drain.unposted).count id + ids.count id := by
      rw [← ofBatch.count_eq]
      simp [step, Drain.begin, Drain.unposted, dueIs]
    have attempts : attemptsOf (step ⟨rows, drains⟩ (.claim limit now scan join)).1.rows id =
        attemptsOf rows id + ids.count id := by
      unfold attemptsOf
      by_cases taken : id ∈ ids
      · rw [List.count_eq_one_of_mem claimed_nodup taken]
        obtain ⟨row, among, rfl⟩ := mem_map.mp taken
        rw [show find (step ⟨rows, drains⟩ (.claim limit now scan join)).1.rows row.id = _ from find_claim_taken among, (mem_claimed among).1]
        rfl
      · rw [List.count_eq_zero.mpr taken,
          show find (step ⟨rows, drains⟩ (.claim limit now scan join)).1.rows id = _ from find_claim_other taken]
        rfl
    simp only at old
    omega

theorem Orderly.enqueue (id : String) (now : Int) : Orderly (step s (.enqueue id now)).1 t where
  exclusive := orderly.exclusive
  held d among due here := by
    obtain ⟨row, found, rest⟩ := orderly.held d among due here
    exact ⟨row, find_enqueue_old found, rest⟩
  bounded other row found := by
    rcases find_enqueue found with old | ⟨_, rfl⟩
    · exact orderly.bounded other row old
    · exact Nat.zero_le _
  free other row found pending loose := by
    rcases find_enqueue found with old | ⟨_, rfl⟩
    · exact orderly.free other row old pending loose
    · show 0 < MAX_WEBHOOK_ATTEMPTS
      decide
  fair := orderly.fair
  posts other := by
    have old := orderly.posts other
    unfold attemptsOf at old ⊢
    cases known : find s.rows other with
    | some row =>
      rw [known] at old
      rw [show find (step s (.enqueue id now)).1.rows other = some row from find_enqueue_old known]
      exact old
    | none =>
      rw [known] at old
      exact old.trans (Nat.zero_le _)

theorem step_orderly (a : Act) (good : inTime s a = true) : Orderly (step s a).1 (t ++ (step s a).2) := by
  cases a with
  | enqueue id now =>
    rw [show (step s (.enqueue id now)).2 = [] from rfl, append_nil]
    exact orderly.enqueue id now
  | claim limit now scan join =>
    rw [show (step s (.claim limit now scan join)).2 = [] from rfl, append_nil]
    refine orderly.claim limit now scan join fun d among busy => ?_
    simpa [busy] using List.all_eq_true.mp good d among
  | drain i a => exact orderly.drain i a good

theorem Orderly.settled (a : Act) {id : String} (found : find s.rows id = some row)
    (settled : row.pending = false) : find (step s a).1.rows id = some row := by
  cases a with
  | enqueue new now => exact find_enqueue_old found
  | claim limit now scan join =>
    refine (find_claim_other fun taken => ?_).trans found
    obtain ⟨row', among, rfl⟩ := mem_map.mp taken
    obtain ⟨known, due⟩ := mem_claimed among
    obtain rfl := Option.some.inj (found.symm.trans known)
    simp [DeliveryRow.due, settled] at due
  | drain i a =>
    cases here : s.drains[i]? with
    | none => simpa [step, here] using found
    | some d =>
      have among : d ∈ s.drains := List.mem_of_getElem? here
      show find (step s (.drain i a)).1.rows id = some row
      simp only [step, here]
      rcases act_write d a with same | ⟨due, rest, m, batch, same⟩
      · rw [same]
        exact found
      · rw [same]
        refine (find_mark_other m fun mine => ?_).trans found
        obtain ⟨row', known, _, pending, _⟩ := orderly.held d among due (by simp [batch])
        obtain rfl := Option.some.inj (found.symm.trans (mine ▸ known))
        rw [settled] at pending
        cases pending

end

/-! ### Runs -/

def run (acts : List Act) : Outbox × List Event := Traces.exec step started acts

def InTime (acts : List Act) : Prop := ∀ before a after, acts = before ++ a :: after → inTime (run before).1 a = true

theorem run_orderly {acts : List Act} (good : InTime acts) : Orderly (run acts).1 (run acts).2 :=
  Traces.exec_invariant_along orderly_started acts fun before a after split orderly =>
    step_orderly orderly a (good before a after split)

/-- What is delivered or given up at one time is so ever after. -/
theorem run_settled {before after : List Act} (good : InTime (before ++ after)) {id : String}
    (found : find (run before).1.rows id = some row) (settled : row.pending = false) :
    find (run (before ++ after)).1.rows id = some row := by
  induction after using List.reverseRec with
  | nil => simpa using found
  | append_singleton first a ih =>
    have earlier : InTime (before ++ first) := by
      rintro early b rest split
      exact good early b (rest ++ [a]) (by rw [← List.append_assoc, split]; simp)
    have same := (run_orderly earlier).settled a (ih earlier) settled
    rw [← List.append_assoc, run, Traces.exec_append]
    exact same

/-- In a run whose steps are all in time, each row is sent at most as often as it may be, no two drains are at one row,
    what was delivered or given up stays so, and a row whose attempts are used up and that no drain has in its hands is
    delivered or given up. -/
theorem outbox_in_order (acts : List Act) (good : InTime acts) :
    (∀ id, (run acts).2.count (.posted id) ≤ MAX_WEBHOOK_ATTEMPTS) ∧
    (run acts).1.delivering.Nodup ∧
    (∀ before after id row, acts = before ++ after → find (run before).1.rows id = some row →
      row.deliveredAt.isSome ∨ row.gaveUpAt.isSome → find (run acts).1.rows id = some row) ∧
    ∀ id row, find (run acts).1.rows id = some row → row.attempts ≥ MAX_WEBHOOK_ATTEMPTS → id ∉ (run acts).1.inHand →
      row.deliveredAt.isSome ∨ row.gaveUpAt.isSome := by
  have orderly := run_orderly good
  refine ⟨fun id => ?_, ?_, ?_, ?_⟩
  · have sent := orderly.posts id
    have most : attemptsOf (run acts).1.rows id ≤ MAX_WEBHOOK_ATTEMPTS := by
      unfold attemptsOf
      cases known : find (run acts).1.rows id with
      | none => exact Nat.zero_le _
      | some row => exact orderly.bounded id row known
    omega
  · refine orderly.exclusive.sublist ?_
    unfold Outbox.delivering Outbox.inHand
    induction (run acts).1.drains with
    | nil => exact List.Sublist.slnil
    | cons d rest ih =>
      cases batch : d.batch with
      | nil => simpa [batch] using ih
      | cons due later =>
        simp only [List.filterMap_cons, List.flatMap_cons, batch, List.head?_cons, Option.map_some, map_cons,
          List.cons_append]
        exact (ih.trans (List.sublist_append_right ..)).cons_cons due.id
  · rintro before after id row rfl found settled
    refine run_settled good found ?_
    rcases settled with delivered | gaveUp
    · simp [DeliveryRow.pending, Option.isSome_iff_ne_none.mp delivered]
    · simp [DeliveryRow.pending, gaveUp]
  · intro id row found spent loose
    by_contra open_
    have pending : row.pending = true := by
      simpa [DeliveryRow.pending] using open_
    have := orderly.free id row found pending loose
    omega

theorem inTime_of_along {acts : List Act} (all : Traces.along step (fun s _ a => inTime s a) started [] acts = true) :
    InTime acts := Traces.along_run all

def asScanned : Join := ⟨id, fun list => List.Perm.refl list⟩
def lastFirst : Join := ⟨List.reverse, List.reverse_perm⟩

/-- An endpoint that answers with an error to all six attempts. -/
def sixErrors : List Act := .enqueue "e" 0 :: (List.range 6).flatMap fun (k : Nat) =>
  [.claim WEBHOOK_DRAIN_BATCH (k * 10000000) ["e"] asScanned, .drain k .resolved,
    .drain k (.answered (.response 503) (k * 10000000)), .drain k (.marked true)]

theorem given_up_after_six_errors :
    (find (run sixErrors).1.rows "e").map (fun row => (row.attempts, row.gaveUpAt)) = some (6, some 50000000) ∧
      (run sixErrors).2.count (.posted "e") ≤ MAX_WEBHOOK_ATTEMPTS :=
  ⟨by decide, (outbox_in_order sixErrors (inTime_of_along (by decide))).1 "e"⟩

def sevenCrashes : List Act := .enqueue "e" 0 :: (List.range 7).flatMap fun (k : Nat) =>
  [.claim WEBHOOK_DRAIN_BATCH (k * LEASE_MS) ["e"] asScanned, .drain k .resolved, .drain k .crash]

def thirteen : List String := (List.range 13).map fun k => "e" ++ toString k

/-- A batch of thirteen: at the twelfth timeout the lease of the last is over, and the next drain takes it. -/
def slowBatch : List Act :=
  (thirteen.map (fun id => .enqueue id 0) : List Act) ++ ([.claim WEBHOOK_DRAIN_BATCH 0 thirteen asScanned] : List Act) ++
    ((List.range 12).flatMap (fun (k : Nat) =>
      [.drain 0 .resolved, .drain 0 (.answered (.failed true "") ((k + 1) * REQUEST_TIMEOUT_MS)), .drain 0 (.marked true)]) :
      List Act) ++
    ([.drain 0 .resolved, .claim WEBHOOK_DRAIN_BATCH (12 * REQUEST_TIMEOUT_MS) thirteen lastFirst, .drain 1 .resolved] :
      List Act)

theorem sent_a_seventh_time :
    (run sevenCrashes).2.count (.posted "e") = 7 ∧
      (find (run sevenCrashes).1.rows "e").map (fun row => (row.attempts, row.gaveUpAt)) = some (7, none) ∧
      (run slowBatch).1.delivering = ["e12", "e12"] ∧ (run slowBatch).2.count (.posted "e12") = 2 := by
  decide +kernel

end AgentPey.WebhookDrains
