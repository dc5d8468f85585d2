import AgentPey.PartnerPurchases
import AgentPey.Disciplines

/-!
When a purchase of `/v1` runs once. The first answer that is recorded for a partner's key guards it for a day, and after
that day the next one does. A request of the key that is looked up meanwhile is given that answer, or refused, as long as
requests of a key are let through one at a time, under one spelling of the key, and no row is older than the answer in it.
-/
namespace AgentPey.PurchaseReplay
open AgentPass (Json)
open HttpSignatures (trim)
open Routines Disciplines PartnerPurchases
open List (filter_append mem_append mem_singleton)

variable {Body : Type}

abbrev Request (Body : Type) := PartnerRouteRequest Body

abbrev Seen (Body : Type) := Event (Request Body) Op Failure Op.Answer PartnerRouteResponse

abbrev World (Body : Type) := System (Request Body) Directory Op Failure Op.Answer PartnerRouteResponse

abbrev Act (Body : Type) := Action (Request Body) Input Empty

/-! ### The answer that guards a key -/

/-- An answer as it was recorded, and the clock of the request that it was given to. -/
structure Answer where
  requestHash : String
  responseStatus : Nat
  responseBody : Json
  writtenAt : Int
  askedAt : Int

def Answer.ends (a : Answer) : Int := a.writtenAt + IDEMPOTENCY_TTL_MS

def recorded (partnerId key : String) : Seen Body → Option Answer
  | .answered _ c (.recordIdempotentResponse p k requestHash status body) (.ok recording) =>
    if p = partnerId ∧ trim k = key then some ⟨requestHash, status, body, recording.writtenAt, c.now⟩ else none
  | _ => none

/-- One more answer: it is a first one when there was none, or when it was asked for after the day of the last first one. -/
def keepFirst : Option Answer → Answer → Option Answer
  | none, x => some x
  | some a, x => if a.ends ≤ x.askedAt then some x else some a

def answers (partnerId key : String) (t : List (Seen Body)) : List Answer := t.filterMap (recorded partnerId key)

def firstAnswer (partnerId key : String) (t : List (Seen Body)) : Option Answer :=
  (answers partnerId key t).foldl keepFirst none

def lastAnswer (partnerId key : String) (t : List (Seen Body)) : Option Answer := (answers partnerId key t).getLast?

variable (deps : Deps Body)

/-- What a request of the key is told while an answer guards it. -/
def replyUnder (a : Answer) (key : String) (c : Request Body) : PartnerRouteResponse :=
  if deps.hashRequestBody c.body = a.requestHash then ⟨a.responseStatus, a.responseBody⟩ else errorResponse (keyConflict key)

/-! ### When requests are let through -/

/-- Whether a request goes on to purchase, after what it found. -/
def admits (c : Request Body) : Option IdempotencyRecord → Bool
  | none => true
  | some existing => existing.createdAt + IDEMPOTENCY_TTL_MS ≤ c.now

def admission (i : Nat) (partnerId key : String) : Seen Body → Bool
  | .answered j c (.findIdempotentResponse p k) (.ok found) => j = i ∧ p = partnerId ∧ k = key ∧ admits c found
  | _ => false

def wasAdmitted (t : List (Seen Body)) (i : Nat) (partnerId key : String) : Bool := t.any (admission i partnerId key)

/-- No other call has been let through under the key that is not over. -/
def alone (w : World Body) (t : List (Seen Body)) (partnerId key : String) : Bool :=
  (List.range w.calls.length).all fun j =>
    (w.calls[j]?.all fun call => call.2.over) || !wasAdmitted t j partnerId key

/-- When a request is let through, its key is spelled as the code reads it, no other request of the key has been let
    through that is not over, and the last answer for the key is a day old. -/
def orderly (w : World Body) (t : List (Seen Body)) : Act Body → Bool
  | .perform i input =>
    match w.calls[i]? with
    | some (c, .waiting (.findIdempotentResponse p k) _) =>
      match (host deps).serve (.findIdempotentResponse p k) input w.shared with
      | some (.ok found, _) =>
        !admits c found || (c.idempotencyKeyHeader = some k && alone w t p k &&
          (lastAnswer p k t).all fun a => a.ends ≤ c.now)
      | _ => true
    | _ => true
  | _ => true

/-! ### The property -/

def caller : Seen Body → Nat
  | .asked i .. => i
  | .answered i .. => i
  | .finished i .. => i

def purchases (i : Nat) : Seen Body → Bool
  | .asked j _ (.executePurchase _) => j = i
  | .answered j _ (.executePurchase _) _ => j = i
  | _ => false

def buys (i : Nat) : Seen Body → Bool
  | .asked j _ (.executePurchase _) => j = i
  | _ => false

def runOf (actions : List (Act Body)) : World Body × List (Seen Body) :=
  Traces.exec (step (host deps)) ⟨⟨[]⟩, []⟩ actions

/-- While an answer guards a key, no purchase is begun and none comes to an end for a request within its day, and such a
    request that looks the key up does nothing more than to give that answer, or to refuse. No request purchases twice. -/
structure PurchasedOnce (actions : List (Act Body)) : Prop where
  guarded : ∀ before act after, actions = before ++ act :: after → ∀ i c p k a,
    firstAnswer p k (runOf deps before).2 = some a → c.now < a.ends →
    .asked i c (.findIdempotentResponse p k) ∈ (runOf deps before).2 →
    ∀ e ∈ (step (host deps) (runOf deps before).1 act).2, ¬purchases i e
  replayed : ∀ before act after, actions = before ++ act :: after → ∀ i c p k a,
    firstAnswer p k (runOf deps before).2 = some a → c.now < a.ends →
    ∀ found, .answered i c (.findIdempotentResponse p k) (.ok found) ∈ (step (host deps) (runOf deps before).1 act).2 →
    ∀ e ∈ (Traces.exec (step (host deps)) (step (host deps) (runOf deps before).1 act).1 after).2, caller e = i →
    e = .finished i c (.ok (replyUnder deps a k c))
  once : ∀ i, ((runOf deps actions).2.filter (buys i)).length ≤ 1

/-! ### What a request goes through -/

/-- Where a request stands: before it looks its key up, at that, let through, with its answer on the way to the row, or with
    nothing left to do but to respond. -/
inductive Stage where
  | opening
  | looking (partnerId key : String)
  | through (partnerId key : String) (bought : Bool)
  | keeping (partnerId key : String)
  | closing (response : PartnerRouteResponse)
  | done

abbrev Mode (Body : Type) := Request Body × Stage

abbrev Modes (Body : Type) := List (Request Body × Option (Mode Body))

def Stage.key : Stage → Option (String × String)
  | .through p k _ => some (p, k)
  | .keeping p k => some (p, k)
  | _ => none

/-- What a call responds that is not let through. -/
def replyTo (c : Request Body) (key : String) : Option IdempotencyRecord → PartnerRouteResponse
  | some existing =>
    if deps.hashRequestBody c.body = existing.requestHash then ⟨existing.responseStatus, existing.responseBody⟩
    else errorResponse (keyConflict key)
  | none => errorResponse keyRequired

inductive Asks : Mode Body → Op → Mode Body → Prop
  | authorize {c header scope} : Asks (c, .opening) (.authorize header scope) (c, .opening)
  | find {c p k} (key : c.idempotencyKeyHeader.map trim = some k) :
      Asks (c, .opening) (.findIdempotentResponse p k) (c, .looking p k)
  | tenant {c p k id} : Asks (c, .through p k false) (.findTenant id) (c, .through p k false)
  | mandate {c p k id} : Asks (c, .through p k false) (.findMandateById id) (c, .through p k false)
  | execute {c p k request} : Asks (c, .through p k false) (.executePurchase request) (c, .through p k true)
  | create {c p k input} : Asks (c, .through p k true) (.createPurchase input) (c, .through p k true)
  | record {c p k bought status body} : Asks (c, .through p k bought)
      (.recordIdempotentResponse p (c.idempotencyKeyHeader.getD "") (deps.hashRequestBody c.body) status body)
      (c, .keeping p k)

def answered : Mode Body → (o : Op) → Except Failure o.Answer → Mode Body
  | (c, .looking p k), .findIdempotentResponse .., .ok found =>
    if admits c found then (c, .through p k false) else (c, .closing (replyTo deps c k found))
  | (c, .looking _ _), .findIdempotentResponse .., .error e => (c, .closing (errorResponse e))
  | (c, .keeping _ _), .recordIdempotentResponse .., _ => (c, .done)
  | m, _, _ => m

def requests : Discipline Directory Op Failure Op.Answer (Mode Body) where
  sync _ _ _ _ := False
  ask := Asks deps
  expects _ _ := True
  answer := answered deps

def Ends (_ : Request Body) (m : Mode Body) (result : Except Failure PartnerRouteResponse) : Prop :=
  match m.2 with
  | .closing response => result = .ok response
  | _ => True

section
variable {deps} {c : Request Body} {p k : String}

abbrev Keeping (deps : Deps Body) {α : Type} (m : Mode Body) (r : Route α) (Q : Mode Body → Except Failure α → Prop) : Prop :=
  Follows (requests deps) m r Q

theorem follows_asks {o : Op} {m m' : Mode Body} {Q : Mode Body → Except Failure o.Answer → Prop} (asks : Asks deps m o m')
    (later : ∀ answer, Q (answered deps m' o answer) answer) : Keeping deps m (.ask o) Q :=
  follows_ask asks fun answer _ => later answer

variable {id : String}

theorem follows_tenant :
    Keeping deps (c, .through p k false) (requireOwnedTenant id p) fun m _ => m = (c, .through p k false) := by
  apply Follows.bind
  apply follows_asks Asks.tenant
  intro answer
  cases answer with
  | error e => exact rfl
  | ok tenant =>
    dsimp only [thenFollows]
    split <;> exact rfl

theorem follows_mandate {tenantId : String} :
    Keeping deps (c, .through p k false) (requireMandateOfTenant id tenantId) fun m _ => m = (c, .through p k false) := by
  apply Follows.bind
  apply follows_asks Asks.mandate
  intro answer
  cases answer with
  | error e => exact rfl
  | ok mandate =>
    dsimp only [thenFollows]
    split <;> exact rfl

theorem follows_named {request : CreatePurchaseRequest} :
    Keeping deps (c, .through p k false) (requireNamedMandate request) fun m _ => m = (c, .through p k false) := by
  unfold requireNamedMandate
  cases request.mandate_id with
  | none => exact rfl
  | some mandateId => exact follows_mandate

theorem follows_purchase :
    Keeping deps (c, .through p k false) (runPurchase deps c p) fun m _ => ∃ bought, m = (c, .through p k bought) := by
  unfold runPurchase
  apply Follows.bind
  apply follows_lift
  cases parsed : parseBody deps c with
  | error e => exact ⟨false, rfl⟩
  | ok request =>
    refine follows_tenant.seq ?_ fun m e same => ⟨false, same⟩
    rintro _ _ rfl
    refine follows_named.seq ?_ fun m e same => ⟨false, same⟩
    rintro _ _ rfl
    apply Follows.bind
    apply follows_asks Asks.execute
    intro answer
    cases answer with
    | error e => exact ⟨true, rfl⟩
    | ok result =>
      apply Follows.bind
      apply follows_asks Asks.create
      intro answer
      cases answer with
      | error e => exact ⟨true, rfl⟩
      | ok record =>
        apply Follows.bind
        apply follows_lift
        cases deps.toPurchaseResource record with
        | error e => exact ⟨true, rfl⟩
        | ok resource => exact ⟨true, rfl⟩

theorem follows_cache : Keeping deps (c, .through p k false)
    (respondOrCache deps c p (c.idempotencyKeyHeader.getD "") (runPurchase deps c p)) fun m _ => m = (c, .done) := by
  unfold respondOrCache
  apply Follows.bind
  apply Follows.attempt
  apply follows_purchase.imp
  rintro _ result ⟨bought, rfl⟩
  apply Follows.bind
  apply follows_asks Asks.record
  intro answer
  cases answer with
  | error e => exact rfl
  | ok recording =>
    apply Follows.bind
    apply follows_lift
    cases recording.outcome with
    | error e => exact rfl
    | ok row => exact rfl

def Closes (c : Request Body) (m : Mode Body) (result : Except Failure PartnerRouteResponse) : Prop :=
  Ends c m (.ok (respond result))

theorem follows_handle : Keeping deps (c, .opening) (handleCreatePurchase deps c) (Closes c) := by
  unfold handleCreatePurchase
  apply Follows.bind
  apply follows_asks Asks.authorize
  intro answer
  cases answer with
  | error e => trivial
  | ok partnerId =>
    apply Follows.bind
    unfold resolveIdempotency
    cases header : c.idempotencyKeyHeader.map trim with
    | none => trivial
    | some key =>
      dsimp only
      split
      · trivial
      · apply Follows.bind
        apply follows_asks (Asks.find header)
        intro answer
        cases answer with
        | error e => exact rfl
        | ok found =>
          apply follows_lift
          cases found with
          | none => exact follows_cache.imp fun m result same => by subst same; trivial
          | some existing =>
            by_cases old : existing.createdAt + IDEMPOTENCY_TTL_MS ≤ c.now
            · have admitted : answered deps (c, .looking partnerId key) (.findIdempotentResponse partnerId key)
                  (.ok (some existing)) = (c, .through partnerId key false) := by
                simp [answered, admits, old]
              rw [admitted, decideIdempotency, if_pos old]
              exact follows_cache.imp fun m result same => by subst same; trivial
            · have closes : answered deps (c, .looking partnerId key) (.findIdempotentResponse partnerId key)
                  (.ok (some existing)) = (c, .closing (replyTo deps c key (some existing))) := by
                simp [answered, admits, old]
              rw [closes, decideIdempotency, if_neg old]
              by_cases same : deps.hashRequestBody c.body = existing.requestHash
              · rw [if_neg (not_not.mpr same)]
                change Closes c (c, .closing (replyTo deps c key (some existing))) (.ok ⟨existing.responseStatus, existing.responseBody⟩)
                simp [Closes, Ends, replyTo, same, respond]
              · rw [if_pos same]
                change Closes c (c, .closing (replyTo deps c key (some existing))) (.error (keyConflict key))
                simp [Closes, Ends, replyTo, same, respond]

theorem follows_route : Keeping deps (c, .opening) (routePartnerRequest deps c) (Ends c) := by
  apply Follows.bind
  apply Follows.attempt
  exact follows_handle.imp fun m result closes => closes

end

/-! ### The answers of a trace -/

section
variable {p k : String} {t : List (Seen Body)} {e : Seen Body} {i j : Nat}

theorem answers_append : answers p k (t ++ [e]) = answers p k t ++ (recorded p k e).toList := by
  rw [answers, List.filterMap_append]
  cases found : recorded p k e <;> simp [answers, found]

theorem firstAnswer_silent (silent : recorded p k e = none) : firstAnswer p k (t ++ [e]) = firstAnswer p k t := by
  simp [firstAnswer, answers_append, silent]

theorem lastAnswer_silent (silent : recorded p k e = none) : lastAnswer p k (t ++ [e]) = lastAnswer p k t := by
  simp [lastAnswer, answers_append, silent]

variable {x : Answer}

theorem firstAnswer_recorded (found : recorded p k e = some x) :
    firstAnswer p k (t ++ [e]) = keepFirst (firstAnswer p k t) x := by
  simp [firstAnswer, answers_append, found]

theorem lastAnswer_recorded (found : recorded p k e = some x) : lastAnswer p k (t ++ [e]) = some x := by
  simp [lastAnswer, answers_append, found]

theorem wasAdmitted_append (admitted : wasAdmitted t i p k) : wasAdmitted (t ++ [e]) i p k := by
  rw [wasAdmitted, List.any_append, Bool.or_eq_true]
  exact .inl admitted

theorem buys_other (other : caller e ≠ i) : buys i e = false := by
  unfold buys
  split
  · exact decide_eq_false other
  · rfl

theorem purchases_caller (purchase : purchases i e) : caller e = i := by
  unfold purchases at purchase
  split at purchase
  · exact of_decide_eq_true purchase
  · exact of_decide_eq_true purchase
  · cases purchase

end

/-! ### The invariant -/

/-- The names a call has looked up, as far as its stage tells. -/
def Stage.names (p k : String) : Stage → Prop
  | .opening => False
  | .looking p' k' => p' = p ∧ k' = k
  | .through p' k' _ => p' = p ∧ k' = k
  | .keeping p' k' => p' = p ∧ k' = k
  | _ => True

def Stage.bought : Stage → Bool
  | .opening => false
  | .looking .. => false
  | .through _ _ bought => bought
  | _ => true

/-- What is known of a call in a mode. -/
structure Stands (t : List (Seen Body)) (i : Nat) (c : Request Body) (m : Mode Body) : Prop where
  own : m.1 = c
  looks : ∀ p k, m.2 = .looking p k → c.idempotencyKeyHeader.map trim = some k
  spelled : ∀ p k, m.2.key = some (p, k) → c.idempotencyKeyHeader = some k ∧ trim k = k
  admitted : ∀ p k, m.2.key = some (p, k) → wasAdmitted t i p k
  fresh : ∀ p k, m.2.key = some (p, k) → ∀ a, firstAnswer p k t = some a → a.ends ≤ c.now
  named : ∀ c' p k, .asked i c' (.findIdempotentResponse p k) ∈ t → c' = c ∧ m.2.names p k
  unbought : m.2.bought = false → t.filter (buys i) = []

/-- A row has the answer that guards its key. -/
def Agree : Option Answer → Option IdempotencyRecord → Prop
  | none, none => True
  | some a, some row =>
    row.requestHash = a.requestHash ∧ row.responseStatus = a.responseStatus ∧ row.responseBody = a.responseBody
  | _, _ => False

structure Kept (s : Directory) (ms : Modes Body) (t : List (Seen Body)) : Prop where
  calls : ∀ (i : Nat) c m, ms[i]? = some (c, some m) → Stands t i c m
  alone : ∀ (i j : Nat) c d m n key, ms[i]? = some (c, some m) → ms[j]? = some (d, some n) → m.2.key = some key →
    n.2.key = some key → i = j
  rows : ∀ p k, Agree (firstAnswer p k t) (s.find p k)
  latest : ∀ p k, lastAnswer p k t = firstAnswer p k t
  once : ∀ i, (t.filter (buys i)).length ≤ 1
  known : ∀ e ∈ t, caller e < ms.length
  timely : ∀ before e after, t = before ++ e :: after → ∀ i, purchases i e → ∀ c p k a,
    .asked i c (.findIdempotentResponse p k) ∈ before → firstAnswer p k before = some a → a.ends ≤ c.now

section
variable {s s' : Directory} {ms : Modes Body} {t : List (Seen Body)} {i : Nat} {c : Request Body} {m m' : Mode Body}
  {e : Seen Body}

theorem Stands.goes (stands : Stands t i c m) (own : m'.1 = c)
    (key : ∀ p k, m'.2.key = some (p, k) → m.2.key = some (p, k) ∧ recorded p k e = none)
    (looks : ∀ p k, m'.2 = .looking p k → m.2 = .looking p k) (names : ∀ p k, m.2.names p k → m'.2.names p k)
    (other : ∀ c' p k, e ≠ .asked i c' (.findIdempotentResponse p k))
    (bought : m'.2.bought = false → m.2.bought = false ∧ buys i e = false) : Stands (t ++ [e]) i c m' where
  own := own
  looks p k here := stands.looks p k (looks p k here)
  spelled p k here := stands.spelled p k (key p k here).1
  admitted p k here := wasAdmitted_append (stands.admitted p k (key p k here).1)
  fresh p k here a first := by
    rw [firstAnswer_silent (key p k here).2] at first
    exact stands.fresh p k (key p k here).1 a first
  named c' p k asked := by
    rcases mem_append.mp asked with old | new
    · obtain ⟨same, known⟩ := stands.named c' p k old
      exact ⟨same, names p k known⟩
    · exact (other c' p k (mem_singleton.mp new).symm).elim
  unbought here := by
    obtain ⟨before, new⟩ := bought here
    rw [filter_append, stands.unbought before, List.filter_cons_of_neg (by simp [new])]
    rfl

variable {mode' : Option (Mode Body)} {o : Op} {answer : Except Failure Recording} {status : Nat} {body : Json}

section
variable (kept : Kept s ms t)
include kept

section
variable (mode : ms[i]? = some (c, some m))
include mode

theorem Kept.turn (mine : caller e = i) (stands : ∀ m', mode' = some m' → Stands (t ++ [e]) i c m')
    (keys : ∀ m' key, mode' = some m' → m'.2.key = some key →
      m.2.key = some key ∨ ∀ (j : Nat) d n, ms[j]? = some (d, some n) → n.2.key ≠ some key)
    (records : ∀ p k, recorded p k e ≠ none → m.2.key = some (p, k))
    (rows : ∀ p k, Agree (firstAnswer p k (t ++ [e])) (s'.find p k))
    (latest : ∀ p k, lastAnswer p k (t ++ [e]) = firstAnswer p k (t ++ [e])) (once : ((t ++ [e]).filter (buys i)).length ≤ 1)
    (timely : purchases i e → ∀ c p k a, .asked i c (.findIdempotentResponse p k) ∈ t → firstAnswer p k t = some a →
      a.ends ≤ c.now) : Kept s' (ms.set i (c, mode')) (t ++ [e]) where
  calls j d n found := by
    rcases mode_of_set found with ⟨rfl, rfl, here⟩ | ⟨different, old⟩
    · exact stands n here.symm
    · have others : caller e ≠ j := fun same => different (same.symm.trans mine)
      refine (kept.calls j d n old).goes (kept.calls j d n old).own ?_ (fun _ _ same => same) (fun _ _ known => known) ?_
        fun here => ⟨here, buys_other others⟩
      · intro p k here
        refine ⟨here, ?_⟩
        by_contra records_
        exact different (kept.alone j i d c n m _ old mode here (records p k records_))
      · rintro c' p k rfl
        exact others rfl
  alone j j' d d' n n' key found found' has has' := by
    rcases mode_of_set found with ⟨rfl, rfl, here⟩ | ⟨different, old⟩
    · rcases mode_of_set found' with ⟨rfl, _, _⟩ | ⟨_, old'⟩
      · rfl
      · rcases keys n key here.symm has with before | free
        · exact kept.alone j j' d d' m n' key mode old' before has'
        · exact (free j' d' n' old' has').elim
    · rcases mode_of_set found' with ⟨rfl, rfl, here'⟩ | ⟨_, old'⟩
      · rcases keys n' key here'.symm has' with before | free
        · exact kept.alone j j' d d' n m key old mode has before
        · exact (free j d n old has).elim
      · exact kept.alone j j' d d' n n' key old old' has has'
  rows := rows
  latest := latest
  once j := by
    by_cases same : j = i
    · exact same ▸ once
    · have others : caller e ≠ j := fun other => same (other.symm.trans mine)
      rw [filter_append, List.filter_cons_of_neg (by simp [buys_other others])]
      simpa using kept.once j
  known e' member := by
    rw [List.length_set]
    rcases mem_append.mp member with old | new
    · exact kept.known e' old
    · rw [mem_singleton.mp new, mine]
      exact (List.getElem?_eq_some_iff.mp mode).1
  timely before e' after split j purchase := by
    rcases List.append_eq_append_iff.mp split with ⟨rest, joined, tail⟩ | ⟨rest, joined, tail⟩
    · cases rest with
      | nil =>
        cases tail
        rw [List.append_nil] at joined
        subst joined
        have same : j = i := (purchases_caller purchase).symm.trans mine
        exact same ▸ timely (same ▸ purchase)
      | cons first rest => simp at tail
    · cases rest with
      | nil =>
        rw [List.append_nil] at joined
        subst joined
        cases tail
        have same : j = i := (purchases_caller purchase).symm.trans mine
        exact same ▸ timely (same ▸ purchase)
      | cons first rest =>
        rw [List.cons_append, List.cons_eq_cons] at tail
        obtain ⟨rfl, tail⟩ := tail
        exact kept.timely before e' rest (by rw [joined]) j purchase

theorem Kept.silent (mine : caller e = i) (stands : ∀ m', mode' = some m' → Stands (t ++ [e]) i c m')
    (keys : ∀ m' key, mode' = some m' → m'.2.key = some key →
      m.2.key = some key ∨ ∀ (j : Nat) d n, ms[j]? = some (d, some n) → n.2.key ≠ some key)
    (silent : ∀ p k, recorded p k e = none) (once : ((t ++ [e]).filter (buys i)).length ≤ 1)
    (timely : purchases i e → ∀ c p k a, .asked i c (.findIdempotentResponse p k) ∈ t → firstAnswer p k t = some a →
      a.ends ≤ c.now) : Kept s (ms.set i (c, mode')) (t ++ [e]) := by
  refine kept.turn mode mine stands keys (fun p k records => (records (silent p k)).elim) ?_ ?_ once timely
  · intro p k
    rw [firstAnswer_silent (silent p k)]
    exact kept.rows p k
  · intro p k
    rw [firstAnswer_silent (silent p k), lastAnswer_silent (silent p k)]
    exact kept.latest p k

theorem Kept.still_once (first : buys i e → m.2.bought = false) : ((t ++ [e]).filter (buys i)).length ≤ 1 := by
  by_cases bought : buys i e
  · rw [filter_append, (kept.calls i c m mode).unbought (first bought)]
    simp [bought]
  · rw [filter_append, List.filter_cons_of_neg bought]
    simpa using kept.once i

theorem Kept.asks (asks : Asks deps m o m') : Kept s (ms.set i (c, some m')) (t ++ [.asked i c o]) := by
  have stands := kept.calls i c m mode
  have own := stands.own
  subst own
  -- What a question leaves as it is: the key, and what is known of it.
  have goes : m'.1 = m.1 → m'.2.key = m.2.key → (∀ p k, m'.2 ≠ .looking p k) → (∀ p k, m.2.names p k → m'.2.names p k) →
      (∀ p k, o ≠ .findIdempotentResponse p k) →
      (m'.2.bought = false → m.2.bought = false ∧ buys i (.asked i m.1 o) = false) →
      Stands (t ++ [.asked i m.1 o]) i m.1 m' := by
    intro own key looks names other bought
    refine stands.goes own (fun p k here => ⟨key ▸ here, rfl⟩) (fun p k here => (looks p k here).elim) names ?_ bought
    rintro c' p k same
    cases same
    exact other p k rfl
  have silent : ∀ p k, recorded p k (.asked i m.1 o) = none := fun _ _ => rfl
  have turn : Stands (t ++ [.asked i m.1 o]) i m.1 m' → (∀ key, m'.2.key = some key → m.2.key = some key) →
      (buys i (.asked i m.1 o) → m.2.bought = false) →
      (purchases i (.asked i m.1 o) → ∀ c p k a, .asked i c (.findIdempotentResponse p k) ∈ t → firstAnswer p k t = some a →
        a.ends ≤ c.now) → Kept s (ms.set i (m.1, some m')) (t ++ [.asked i m.1 o]) := by
    intro stands' keys first timely
    refine kept.silent mode rfl ?_ (fun m'' key same here => .inl ?_) silent (kept.still_once mode first) timely
    · rintro _ ⟨⟩
      exact stands'
    · cases same
      exact keys key here
  cases asks with
  | authorize =>
    exact turn (goes rfl rfl (by simp) (fun _ _ known => known) (by simp) fun here => ⟨here, rfl⟩) (fun _ here => here)
      (fun bought => by cases bought) fun purchase => by cases purchase
  | @find c p k key =>
    refine turn ?_ (fun _ here => by cases here) (fun bought => by cases bought) fun purchase => by cases purchase
    refine ⟨rfl, ?_, fun _ _ here => (by cases here), fun _ _ here => (by cases here), fun _ _ here => (by cases here), ?_, ?_⟩
    · rintro p k ⟨⟩
      exact key
    · intro c' p' k' asked
      rcases mem_append.mp asked with old | new
      · exact (stands.named c' p' k' old).2.elim
      · cases mem_singleton.mp new
        exact ⟨rfl, rfl, rfl⟩
    · intro _
      rw [filter_append, stands.unbought rfl]
      rfl
  | tenant =>
    exact turn (goes rfl rfl (by simp) (fun _ _ known => known) (by simp) fun here => ⟨here, rfl⟩) (fun _ here => here)
      (fun bought => by cases bought) fun purchase => by cases purchase
  | mandate =>
    exact turn (goes rfl rfl (by simp) (fun _ _ known => known) (by simp) fun here => ⟨here, rfl⟩) (fun _ here => here)
      (fun bought => by cases bought) fun purchase => by cases purchase
  | @execute c p k request =>
    refine turn (goes rfl rfl (by simp) (fun _ _ known => known) (by simp) fun here => by cases here) (fun _ here => here)
      (fun _ => rfl) fun _ c' p' k' a asked first => ?_
    obtain ⟨rfl, rfl, rfl⟩ := stands.named c' p' k' asked
    exact stands.fresh p k rfl a first
  | create =>
    exact turn (goes rfl rfl (by simp) (fun _ _ known => known) (by simp) fun here => by cases here) (fun _ here => here)
      (fun bought => by cases bought) fun purchase => by cases purchase
  | record =>
    exact turn (goes rfl rfl (by simp) (fun _ _ known => known) (by simp) fun here => by cases here) (fun _ here => here)
      (fun bought => by cases bought) fun purchase => by cases purchase

theorem Kept.finish (result : Except Failure PartnerRouteResponse) :
    Kept s (ms.set i (c, none)) (t ++ [.finished i c result]) :=
  kept.silent mode rfl (fun _ same => by cases same) (fun _ _ same => by cases same) (fun _ _ => rfl)
    (kept.still_once mode fun bought => by cases bought) fun purchase => by cases purchase

end

theorem Kept.start (c : Request Body) : Kept s (ms ++ [(c, some (c, .opening))]) t where
  calls j d n found := by
    rcases mode_of_append found with ⟨rfl, rfl, here⟩ | old
    · cases here
      have unseen : ∀ e ∈ t, caller e ≠ ms.length := fun e member => Nat.ne_of_lt (kept.known e member)
      refine ⟨rfl, fun _ _ here => (by cases here), fun _ _ here => (by cases here), fun _ _ here => (by cases here),
        fun _ _ here => (by cases here), fun c' p k asked => (unseen _ asked rfl).elim, fun _ => ?_⟩
      rw [List.filter_eq_nil_iff]
      intro e member
      rw [buys_other (unseen e member)]
      exact Bool.false_ne_true
    · exact kept.calls j d n old
  alone j j' d d' n n' key found found' has has' := by
    rcases mode_of_append found with ⟨_, _, here⟩ | old
    · cases here
      cases has
    · rcases mode_of_append found' with ⟨_, _, here'⟩ | old'
      · cases here'
        cases has'
      · exact kept.alone j j' d d' n n' key old old' has has'
  rows := kept.rows
  latest := kept.latest
  once := kept.once
  known e member := by
    rw [List.length_append]
    exact Nat.lt_add_right _ (kept.known e member)
  timely := kept.timely

theorem Kept.crash : Kept s (ms.map fun call => (call.1, none)) t where
  calls j d n found := by cases mode_of_kill found
  alone j j' d d' n n' key found := by cases mode_of_kill found
  rows := kept.rows
  latest := kept.latest
  once := kept.once
  known e member := by
    rw [List.length_map]
    exact kept.known e member
  timely := kept.timely

end

variable {input : Input}

theorem serve_same {answer : Except Failure o.Answer} (served : PartnerPurchases.serve o input s = some (answer, s'))
    (other : ∀ p k requestHash status body, o ≠ .recordIdempotentResponse p k requestHash status body) : s' = s := by
  cases o with
  | recordIdempotentResponse p k requestHash status body => exact (other p k requestHash status body rfl).elim
  | _ =>
    cases input <;> cases served
    all_goals rfl

theorem serve_record {p k requestHash : String}
    (served : PartnerPurchases.serve (.recordIdempotentResponse p k requestHash status body) input s = some (answer, s')) :
    (∃ failure, answer = .error failure ∧ s' = s) ∨ ∃ writtenAt outcome, answer = .ok ⟨writtenAt, outcome⟩ ∧
      s' = s.upsert ⟨p, k, requestHash, status, body, writtenAt⟩ := by
  unfold PartnerPurchases.serve at served
  cases input with
  | fails failure =>
    cases served
    exact .inl ⟨failure, rfl, rfl⟩
  | writes writtenAt thrown =>
    cases served
    exact .inr ⟨writtenAt, _, rfl, rfl⟩
  | _ => cases served

section
variable (kept : Kept s ms t)
include kept

theorem Kept.records {p k : String} (mode : ms[i]? = some (c, some (c, .keeping p k)))
    (served : PartnerPurchases.serve (.recordIdempotentResponse p (c.idempotencyKeyHeader.getD "") (deps.hashRequestBody c.body)
      status body) input s = some (answer, s')) :
    Kept s' (ms.set i (c, some (c, .done))) (t ++ [.answered i c (.recordIdempotentResponse p
      (c.idempotencyKeyHeader.getD "") (deps.hashRequestBody c.body) status body) answer]) := by
  have stands := kept.calls i c _ mode
  obtain ⟨header, trimmed⟩ := stands.spelled p k rfl
  rw [header, Option.getD_some] at served ⊢
  have done : ∀ (e : Seen Body), caller e = i → (∀ c' p k, e ≠ .asked i c' (.findIdempotentResponse p k)) →
      ∀ m', some (c, Stage.done) = some m' → Stands (t ++ [e]) i c m' := by
    rintro e _ other _ ⟨⟩
    exact stands.goes rfl (fun _ _ here => by cases here) (fun _ _ here => by cases here) (fun _ _ _ => trivial) other
      fun here => by cases here
  rcases serve_record served with ⟨failure, rfl, rfl⟩ | ⟨writtenAt, outcome, rfl, rfl⟩
  · exact kept.silent mode rfl (done _ rfl (by simp)) (fun m' key same here => by cases same; cases here) (fun _ _ => rfl)
      (kept.still_once mode fun bought => by cases bought) fun purchase => by cases purchase
  · have mine : ∀ p' k' x, recorded p' k' (.answered i c (.recordIdempotentResponse p k (deps.hashRequestBody c.body) status body)
        (.ok ⟨writtenAt, outcome⟩)) = some x →
        (p' = p ∧ k' = k) ∧ x = ⟨deps.hashRequestBody c.body, status, body, writtenAt, c.now⟩ := by
      intro p' k' x found
      simp only [recorded, trimmed] at found
      split at found
      · rename_i same
        cases found
        exact ⟨⟨same.1.symm, same.2.symm⟩, rfl⟩
      · cases found
    have here : recorded p k (.answered i c (.recordIdempotentResponse p k (deps.hashRequestBody c.body) status body)
        (.ok ⟨writtenAt, outcome⟩)) = some ⟨deps.hashRequestBody c.body, status, body, writtenAt, c.now⟩ := by
      simp [recorded, trimmed]
    -- The day of the answer before it, if there was one, was over when the request came.
    have first : keepFirst (firstAnswer p k t) ⟨deps.hashRequestBody c.body, status, body, writtenAt, c.now⟩ =
        some ⟨deps.hashRequestBody c.body, status, body, writtenAt, c.now⟩ := by
      cases before : firstAnswer p k t with
      | none => rfl
      | some a => rw [keepFirst, if_pos (stands.fresh p k rfl a before)]
    have away : ∀ p' k', ¬(p' = p ∧ k' = k) → recorded p' k' (.answered i c (.recordIdempotentResponse p k
        (deps.hashRequestBody c.body) status body) (.ok ⟨writtenAt, outcome⟩)) = none := by
      intro p' k' other
      by_contra found
      obtain ⟨x, found⟩ := Option.ne_none_iff_exists'.mp found
      exact other (mine p' k' x found).1
    refine kept.turn mode rfl (done _ rfl (by simp)) (fun m' key same here => by cases same; cases here) ?_ ?_ ?_
      (kept.still_once mode fun bought => by cases bought) fun purchase => by cases purchase
    · intro p' k' found
      obtain ⟨x, found⟩ := Option.ne_none_iff_exists'.mp found
      obtain ⟨⟨rfl, rfl⟩, _⟩ := mine p' k' x found
      rfl
    · intro p' k'
      by_cases same : p' = p ∧ k' = k
      · obtain ⟨rfl, rfl⟩ := same
        obtain ⟨createdAt, found⟩ := find_upsert s ⟨p', k', deps.hashRequestBody c.body, status, body, writtenAt⟩
        rw [firstAnswer_recorded here, first, found]
        exact ⟨rfl, rfl, rfl⟩
      · rw [firstAnswer_silent (away p' k' same), find_upsert_other _ _ fun other => same ⟨other.1.symm, other.2.symm⟩]
        exact kept.rows p' k'
    · intro p' k'
      by_cases same : p' = p ∧ k' = k
      · obtain ⟨rfl, rfl⟩ := same
        rw [firstAnswer_recorded here, first, lastAnswer_recorded here]
      · rw [firstAnswer_silent (away p' k' same), lastAnswer_silent (away p' k' same)]
        exact kept.latest p' k'

theorem Kept.looks {p k : String} {answer : Except Failure (Option IdempotencyRecord)}
    (mode : ms[i]? = some (c, some (c, .looking p k)))
    (admission : ∀ found, answer = .ok found → admits c found → c.idempotencyKeyHeader = some k ∧
      (∀ (j : Nat) d n, ms[j]? = some (d, some n) → n.2.key ≠ some (p, k)) ∧ ∀ a, lastAnswer p k t = some a → a.ends ≤ c.now) :
    Kept s (ms.set i (c, some (answered deps (c, .looking p k) (.findIdempotentResponse p k) answer)))
      (t ++ [.answered i c (.findIdempotentResponse p k) answer]) := by
  have stands := kept.calls i c _ mode
  have closes : ∀ response, Kept s (ms.set i (c, some (c, .closing response)))
      (t ++ [.answered i c (.findIdempotentResponse p k) answer]) := by
    intro response
    refine kept.silent mode rfl ?_ (fun m' key same here => by cases same; cases here) (fun _ _ => rfl)
      (kept.still_once mode fun bought => by cases bought) fun purchase => by cases purchase
    rintro _ ⟨⟩
    exact stands.goes rfl (fun _ _ here => by cases here) (fun _ _ here => by cases here) (fun _ _ _ => trivial)
      (fun _ _ _ same => by cases same) fun here => by cases here
  cases answer with
  | error e => exact closes _
  | ok found =>
    by_cases admitted : admits c found
    · obtain ⟨header, free, old⟩ := admission found rfl admitted
      rw [answered, if_pos admitted]
      have trimmed : trim k = k := by
        have looked := stands.looks p k rfl
        rw [header] at looked
        exact Option.some.inj looked
      refine kept.silent mode rfl ?_ ?_ (fun _ _ => rfl) (kept.still_once mode fun bought => by cases bought)
        fun purchase => by cases purchase
      · rintro _ ⟨⟩
        refine ⟨rfl, fun _ _ here => (by cases here), ?_, ?_, ?_, ?_, fun _ => ?_⟩
        · rintro _ _ ⟨⟩
          exact ⟨header, trimmed⟩
        · rintro _ _ ⟨⟩
          simp [wasAdmitted, PurchaseReplay.admission, admitted]
        · rintro _ _ ⟨⟩ a first
          rw [firstAnswer_silent rfl, ← kept.latest] at first
          exact old a first
        · intro c' p' k' asked
          rcases mem_append.mp asked with before | new
          · exact stands.named c' p' k' before
          · cases mem_singleton.mp new
        · rw [filter_append, stands.unbought rfl]
          rfl
      · rintro _ _ ⟨⟩ ⟨⟩
        exact .inr free
    · rw [answered, if_neg admitted]
      exact closes _

theorem Kept.returns (answer : Except Failure o.Answer) (mode : ms[i]? = some (c, some m))
    (silent : ∀ p k, recorded p k (.answered i c o answer) = none)
    (timely : purchases i (.answered i c o answer) → ∀ c p k a, .asked i c (.findIdempotentResponse p k) ∈ t →
      firstAnswer p k t = some a → a.ends ≤ c.now) : Kept s (ms.set i (c, some m)) (t ++ [.answered i c o answer]) := by
  have stands := kept.calls i c m mode
  refine kept.silent mode rfl ?_ (fun m' key same here => ?_) silent (kept.still_once mode fun bought => by cases bought) timely
  · rintro _ ⟨⟩
    exact stands.goes stands.own (fun p k here => ⟨here, silent p k⟩) (fun _ _ here => here) (fun _ _ known => known)
      (fun _ _ _ same => by cases same) fun here => ⟨here, rfl⟩
  · cases same
    exact .inl here

theorem Kept.serve {m₀ : Mode Body} {answer : Except Failure o.Answer} (mode : ms[i]? = some (c, some m))
    (asks : Asks deps m₀ o m) (served : PartnerPurchases.serve o input s = some (answer, s')) (admission : ∀ p k found,
      (.answered i c o answer : Seen Body) = .answered i c (.findIdempotentResponse p k) (.ok found) → admits c found →
      c.idempotencyKeyHeader = some k ∧ (∀ (j : Nat) d n, ms[j]? = some (d, some n) → n.2.key ≠ some (p, k)) ∧
      ∀ a, lastAnswer p k t = some a → a.ends ≤ c.now) :
    Kept s' (ms.set i (c, some (answered deps m o answer))) (t ++ [.answered i c o answer]) := by
  have own := (kept.calls i c m mode).own
  cases asks with
  | authorize =>
    rw [serve_same served (by simp)]
    exact kept.returns answer mode (fun _ _ => rfl) fun purchase => by cases purchase
  | @find c' p k key =>
    cases own
    rw [serve_same served (by simp)]
    exact kept.looks deps mode fun found same admitted => admission p k found (by rw [same]) admitted
  | tenant =>
    rw [serve_same served (by simp)]
    exact kept.returns answer mode (fun _ _ => rfl) fun purchase => by cases purchase
  | mandate =>
    rw [serve_same served (by simp)]
    exact kept.returns answer mode (fun _ _ => rfl) fun purchase => by cases purchase
  | @execute c' p k request =>
    rw [serve_same served (by simp)]
    refine kept.returns answer mode (fun _ _ => rfl) fun _ d p' k' a asked first => ?_
    have stands := kept.calls i c _ mode
    obtain ⟨rfl, rfl, rfl⟩ := stands.named d p' k' asked
    exact stands.fresh p k rfl a first
  | create =>
    rw [serve_same served (by simp)]
    exact kept.returns answer mode (fun _ _ => rfl) fun purchase => by cases purchase
  | record =>
    cases own
    exact kept.records deps mode served

end

end

/-! ### Whole runs -/

variable {w : World Body} {t : List (Seen Body)} {i : Nat} {c : Request Body} {p k : String}

variable {found : Option IdempotencyRecord} {ms : Modes Body} {x : PartnerRouteResponse} {act : Act Body} {s : Directory}

theorem orderly_admits {input : Input} {rest} {s' : Directory} (inOrder : orderly deps w t (.perform i input))
    (here : w.calls[i]? = some (c, .waiting (.findIdempotentResponse p k) rest))
    (served : (host deps).serve (.findIdempotentResponse p k) input w.shared = some (.ok found, s'))
    (admitted : admits c found) :
    c.idempotencyKeyHeader = some k ∧ alone w t p k ∧ ∀ a, lastAnswer p k t = some a → a.ends ≤ c.now := by
  simp only [orderly, here, served, admitted, Bool.not_true, Bool.false_or, Bool.and_eq_true, decide_eq_true_eq] at inOrder
  obtain ⟨⟨header, free⟩, old⟩ := inOrder
  refine ⟨header, free, fun a last => ?_⟩
  rw [last, Option.all_some] at old
  exact of_decide_eq_true old

theorem alone_free (kept : Kept w.shared ms t) (aligned : Aligned (requests deps) Ends w.calls ms) (free : alone w t p k) :
    ∀ (j : Nat) d n, ms[j]? = some (d, some n) → n.2.key ≠ some (p, k) := by
  intro j d n found has
  have inside : j < w.calls.length := aligned.1 ▸ (List.getElem?_eq_some_iff.mp found).1
  have one := List.all_eq_true.mp free j (List.mem_range.mpr inside)
  rw [(kept.calls j d n found).admitted p k has, Bool.not_true, Bool.or_false] at one
  cases call : w.calls[j]? with
  | none =>
    rw [List.getElem?_eq_none_iff] at call
    omega
  | some call_ =>
    obtain ⟨d', phase⟩ := call_
    obtain ⟨mode, here, stands⟩ := aligned.2 j d' phase call
    rw [call, Option.all_some] at one
    have finished := stands.over one
    rw [here, finished] at found
    cases found

theorem keeps_kept : Keeps (host deps) (requests deps) Ends (fun s ms t => Kept s ms t) (fun _ s ms t => Kept s ms t)
    fun w t a => orderly deps w t a where
  start kept _ _ := ⟨_, follows_route, kept.start _⟩
  resume kept _ _ := kept
  sync _ _ step := step.elim
  ask kept mode asks _ _ _ := kept.asks deps mode asks
  serve {w _ _} i {c _ _ o} rest _ _ _ kept aligned mode here inOrder asks served := by
    refine ⟨trivial, kept.serve deps mode asks served ?_⟩
    rintro p k found same admitted
    cases same
    obtain ⟨header, free, old⟩ := orderly_admits deps inOrder here served admitted
    exact ⟨header, alone_free deps kept aligned free, old⟩
  finish kept mode _ _ _ := kept.finish mode _
  outside {_ _ _ k} _ _ := k.elim
  crash kept _ _ := kept.crash

theorem holds_opened : Holds (requests deps) Ends (fun s ms t => Kept s ms t) (⟨⟨[]⟩, []⟩ : World Body) [] := by
  refine ⟨[], ⟨?_, ?_, ?_, ?_, ?_, ?_, ?_⟩, aligned_nil⟩
  · intro i c m found
    simp at found
  · intro i j c d m n key found
    simp at found
  · intro p k
    trivial
  · intro p k
    rfl
  · intro i
    simp
  · intro e member
    simp at member
  · intro before e after split
    simp at split

variable {phase : Phase Directory Op Failure Op.Answer PartnerRouteResponse}

theorem caller_announce {e : Seen Body} (member : e ∈ announce i c phase) : caller e = i := by
  cases phase <;> simp [announce] at member <;> subst member <;> rfl

theorem step_seen (w : World Body) (act : Act Body) : ∀ e ∈ (step (host deps) w act).2, (step (host deps) w act).2 = [e] := by
  have announced : ∀ (i : Nat) (c : Request Body) (phase : Phase Directory Op Failure Op.Answer PartnerRouteResponse),
      ∀ e ∈ announce i c phase, announce i c phase = [e] := by
    intro i c phase e member
    cases phase <;> simp [announce] at member ⊢ <;> exact member.symm
  intro e member
  cases act with
  | start c =>
    change e ∈ announce _ c (((host deps).body c).advance w.shared).1 at member
    exact announced _ _ _ e member
  | perform i input =>
    rw [step] at member ⊢
    split at member
    · split at member
      · rw [mem_singleton.mp member]
      · cases member
    · cases member
  | resume i =>
    rw [step] at member ⊢
    split at member
    · exact announced _ _ _ e member
    · cases member
  | outside k => exact k.elim
  | crash => cases member

def Responding (x : PartnerRouteResponse) : Phase Directory Op Failure Op.Answer PartnerRouteResponse → Prop
  | .answered r => r = .returns x
  | .finished _ => True
  | .killed => True
  | .waiting .. => False

theorem responding_step (here : w.calls[i]? = some (c, phase)) (responding : Responding x phase) (act : Act Body) :
    (∃ phase', (step (host deps) w act).1.calls[i]? = some (c, phase') ∧ Responding x phase') ∧
      ∀ e ∈ (step (host deps) w act).2, caller e = i → e = .finished i c (.ok x) := by
  have inside := (List.getElem?_eq_some_iff.mp here).1
  have stays : ∃ phase', w.calls[i]? = some (c, phase') ∧ Responding x phase' := ⟨phase, here, responding⟩
  cases act with
  | start d =>
    refine ⟨⟨phase, by rw [step, List.getElem?_append_left inside, here], responding⟩, fun e member same => ?_⟩
    change e ∈ announce w.calls.length d (((host deps).body d).advance w.shared).1 at member
    have last := caller_announce member
    omega
  | perform j input =>
    rw [step]
    split
    · rename_i d o rest found
      have other : j ≠ i := by
        rintro rfl
        rw [here] at found
        cases found
        exact responding.elim
      split
      · refine ⟨⟨phase, by rw [List.getElem?_set_ne other, here], responding⟩, fun e member same => ?_⟩
        rw [mem_singleton.mp member] at same
        exact (other same).elim
      · exact ⟨stays, fun e member => by cases member⟩
    · exact ⟨stays, fun e member => by cases member⟩
  | resume j =>
    rw [step]
    split
    · rename_i d r found
      by_cases same : j = i
      · subst same
        rw [here] at found
        cases found
        cases responding
        refine ⟨⟨.finished (.ok x), by simp [Routine.advance, inside], trivial⟩, fun e member _ => ?_⟩
        exact mem_singleton.mp member
      · refine ⟨⟨phase, by rw [List.getElem?_set_ne same, here], responding⟩, fun e member mine => ?_⟩
        exact (same ((caller_announce member).symm.trans mine)).elim
    · exact ⟨stays, fun e member => by cases member⟩
  | outside k => exact k.elim
  | crash =>
    refine ⟨⟨phase.kill, by simp [step, here], ?_⟩, fun e member => by cases member⟩
    cases phase <;> trivial

theorem responding_run (here : w.calls[i]? = some (c, phase)) (responding : Responding x phase) (actions : List (Act Body)) :
    ∀ e ∈ (Traces.exec (step (host deps)) w actions).2, caller e = i → e = .finished i c (.ok x) := by
  induction actions generalizing w phase with
  | nil => exact fun e member => by cases member
  | cons act rest ih =>
    obtain ⟨⟨phase', here', responding'⟩, now⟩ := responding_step deps here responding act
    intro e member
    rw [Traces.exec_cons] at member
    rcases mem_append.mp member with first | later
    · exact now e first
    · exact ih here' responding' e later

theorem answered_step {o : Op} {answer : Except Failure o.Answer}
    (seen : .answered i c o answer ∈ (step (host deps) w act).2) : ∃ input rest s', act = .perform i input ∧
      w.calls[i]? = some (c, .waiting o rest) ∧ (host deps).serve o input w.shared = some (answer, s') ∧
      (step (host deps) w act).1 = ⟨s', w.calls.set i (c, .answered (rest answer))⟩ := by
  have silent : ∀ (j : Nat) (d : Request Body) (phase : Phase Directory Op Failure Op.Answer PartnerRouteResponse),
      .answered i c o answer ∉ announce j d phase := by
    intro j d phase member
    cases phase <;> simp [announce] at member
  cases act with
  | start d =>
    change _ ∈ announce _ d (((host deps).body d).advance w.shared).1 at seen
    exact (silent _ _ _ seen).elim
  | perform j input =>
    rw [step] at seen ⊢
    split at seen
    · rename_i d o' rest found
      split at seen
      · rename_i answer' s' served
        cases mem_singleton.mp seen
        exact ⟨input, rest, s', rfl, found, served, rfl⟩
      · cases seen
    · cases seen
  | resume j =>
    rw [step] at seen
    split at seen
    · exact (silent _ _ _ seen).elim
    · cases seen
  | outside k => exact k.elim
  | crash => cases seen

theorem follows_closing {response : PartnerRouteResponse} {r : Route PartnerRouteResponse}
    (follows : Follows (requests deps) (c, .closing response) r (Ends c)) : r = .returns response := by
  cases r with
  | returns x =>
    have same : (.ok x : Except Failure PartnerRouteResponse) = .ok response := follows
    cases same
    rfl
  | throws e =>
    have same : (.error e : Except Failure PartnerRouteResponse) = .ok response := follows
    cases same
  | sync next rest =>
    obtain ⟨_, step, _⟩ := follows ⟨[]⟩
    exact step.elim
  | await o rest =>
    obtain ⟨_, asks, _⟩ := follows
    have asks : Asks deps (c, .closing response) o _ := asks
    cases asks

theorem find_some (ok : PartnerPurchases.find p k s = .ok found) : found = s.find p k := by
  unfold PartnerPurchases.find at ok
  cases here : s.find p k with
  | none =>
    rw [here] at ok
    cases ok
    rfl
  | some row =>
    rw [here] at ok
    unfold toIdempotencyRecord at ok
    dsimp only at ok
    split at ok
    · cases ok
      rfl
    · cases ok

/-- While an answer guards the key, a request within its day that looks it up is left with one response. -/
theorem Kept.responds {m : Mode Body} (kept : Kept s ms t) (mode : ms[i]? = some (c, some m)) {m₀ : Mode Body}
    (asks : Asks deps m₀ (.findIdempotentResponse p k) m) {a : Answer} (first : firstAnswer p k t = some a)
    (within_ : c.now < a.ends) (old : admits c (s.find p k) → ∀ a, lastAnswer p k t = some a → a.ends ≤ c.now) :
    answered deps m (.findIdempotentResponse p k) (.ok (s.find p k)) = (c, .closing (replyUnder deps a k c)) := by
  have own := (kept.calls i c m mode).own
  have rows := kept.rows p k
  have last := kept.latest p k
  rw [first] at rows last
  obtain ⟨c', key, rfl⟩ : ∃ c' : Request Body, c'.idempotencyKeyHeader.map trim = some k ∧ m = (c', .looking p k) := by
    cases asks with
    | find key => exact ⟨_, key, rfl⟩
  have same : c = c' := own.symm
  subst same
  cases found : s.find p k with
  | none =>
    rw [found] at rows
    exact rows.elim
  | some row =>
    rw [found] at rows old
    obtain ⟨hash, status, body⟩ := rows
    have refused : ¬admits c (some row) := fun admitted => absurd (old admitted a last) (by omega)
    rw [answered, if_neg refused, replyTo, replyUnder, hash, status, body]

/-- In a run in which requests are let through in order, what was bought under a key is bought once for the day. -/
theorem purchased_once (actions : List (Act Body))
    (inOrder : ∀ before act after, actions = before ++ act :: after →
      orderly deps (runOf deps before).1 (runOf deps before).2 act) : PurchasedOnce deps actions := by
  have holds : ∀ before after, actions = before ++ after →
      Holds (requests deps) Ends (fun s ms t => Kept s ms t) (runOf deps before).1 (runOf deps before).2 := by
    intro before after split
    exact kept_along (keeps_kept deps) (holds_opened deps) before fun first act rest inside =>
      inOrder first act (rest ++ after) (by rw [split, inside]; simp)
  refine ⟨?_, ?_, ?_⟩
  · intro before act after split i c p k a first within_ asked e member purchase
    obtain ⟨ms, kept, _⟩ := holds (before ++ [act]) after (by rw [split]; simp)
    have one := step_seen deps _ _ e member
    have trace : (runOf deps (before ++ [act])).2 = (runOf deps before).2 ++ e :: [] := by
      rw [runOf, Traces.exec_append, Traces.exec_cons]
      simp [runOf, ← one]
    have finished := kept.timely _ e [] trace i purchase c p k a asked first
    omega
  · intro before act after split i c p k a first within_ found seen
    obtain ⟨ms, kept, aligned⟩ := holds before (act :: after) split
    obtain ⟨input, rest, s', rfl, here, served, next⟩ := answered_step deps seen
    obtain ⟨mode, has, stands⟩ := aligned.2 i c _ here
    cases mode with
    | none => exact stands.elim
    | some m =>
      obtain ⟨⟨m₀, asks⟩, later⟩ := stands
      have found_ : found = (runOf deps before).1.shared.find p k := by
        change PartnerPurchases.serve _ _ _ = _ at served
        cases input with
        | reads => exact find_some (congrArg Prod.fst (Option.some.inj served))
        | _ => cases served
      have old : admits c ((runOf deps before).1.shared.find p k) →
          ∀ a, lastAnswer p k (runOf deps before).2 = some a → a.ends ≤ c.now := fun admitted =>
        (orderly_admits deps (inOrder before _ after split) here served (found_ ▸ admitted)).2.2
      have follows := later (.ok found) trivial
      change Follows (requests deps) (answered deps m _ _) _ _ at follows
      rw [found_, kept.responds deps has asks first within_ old] at follows
      have inside := (List.getElem?_eq_some_iff.mp here).1
      have standing : ((runOf deps before).1.calls.set i (c, .answered (rest (.ok found))))[i]? =
          some (c, .answered (rest (.ok found))) := by simp [inside]
      have responding : Responding (replyUnder deps a k c) (.answered (rest (.ok found))) := by
        rw [found_]
        exact follows_closing deps follows
      rw [next]
      exact responding_run deps standing responding after
  · intro i
    obtain ⟨ms, kept, _⟩ := holds actions [] (by simp)
    exact kept.once i

/-! ### Runs of one partner -/

def teaDeps : Deps String where
  createPurchaseRequestSchema _ := some ⟨"ptn_1:usr_1", "tea-shop:GA", "tea", 1, none, none, none⟩
  hashRequestBody body := body
  toPurchaseResource record := .ok (.string record.id)

def teaRequest (key body : String) (now : Int) : Request String := ⟨some "Bearer ap_test_1", some key, body, now⟩

/-- What is answered to a request that buys one tea, and in what order. -/
def bought (writtenAt : Int) : List Input :=
  [.authorized "ptn_1", .reads, .owner (some "ptn_1"),
    .purchased (.settled "agt_1" "mdt_1" "int_1" "1.00" "USDC" none (some "tx_1") "https://tea.test/1" (.string "tea")),
    .created "pur_1" writtenAt, .writes writtenAt none]

def goOn (i : Nat) (inputs : List Input) : List (Act String) := inputs.flatMap fun input => [.perform i input, .resume i]

/-- A request buys; the same request comes again, and another one under its key; a day later the key is used once more. -/
def fourRequests : List (Act String) :=
  ([.start (teaRequest "k1" "one" 0)] : List (Act String)) ++ goOn 0 (bought 5) ++
    ([.start (teaRequest "k1" "one" 10), .start (teaRequest " k1" "two" 10)] : List (Act String)) ++
    goOn 1 [.authorized "ptn_1", .reads] ++ goOn 2 [.authorized "ptn_1", .reads] ++
    ([.start (teaRequest "k1" "two" (5 + IDEMPOTENCY_TTL_MS))] : List (Act String)) ++ goOn 3 (bought (5 + IDEMPOTENCY_TTL_MS))

theorem purchased_once_sample : PurchasedOnce teaDeps fourRequests :=
  purchased_once teaDeps fourRequests
    (Traces.along_run (show Traces.along _ (fun w t act => orderly teaDeps w t act) _ [] fourRequests from by decide +kernel))

/-- An act brings a call to a purchase although an answer guards the key that it has looked up. -/
def breach (w : World Body) (t : List (Seen Body)) (act : Act Body) (i : Nat) (partnerId key : String) : Bool :=
  (t.any fun e =>
    match e with
    | .asked j c (.findIdempotentResponse p k) =>
      j = i ∧ p = partnerId ∧ k = key ∧ (firstAnswer partnerId key t).any fun a => c.now < a.ends
    | _ => false) && (step (host deps) w act).2.any (purchases i)

theorem not_once {before after : List (Act Body)}
    (broken : breach deps (runOf deps before).1 (runOf deps before).2 act i p k) :
    ¬PurchasedOnce deps (before ++ act :: after) := by
  intro all
  rw [breach, Bool.and_eq_true, List.any_eq_true, List.any_eq_true] at broken
  obtain ⟨⟨e, looked, guarded⟩, ⟨e', member, purchase⟩⟩ := broken
  split at guarded
  · rename_i j c p' k'
    rw [decide_eq_true_eq] at guarded
    obtain ⟨rfl, rfl, rfl, within_⟩ := guarded
    cases first : firstAnswer p' k' (runOf deps before).2 with
    | none =>
      rw [first] at within_
      cases within_
    | some a =>
      rw [first, Option.any_some, decide_eq_true_eq] at within_
      exact all.guarded before act after rfl j c p' k' a first within_ looked e' member purchase
  · cases guarded

/-- The key is used again after a day, and then again: the row still has its first time. -/
def reusedTwice : List (Act String) :=
  ([.start (teaRequest "k1" "one" 0)] : List (Act String)) ++ goOn 0 (bought 5) ++
    ([.start (teaRequest "k1" "one" (5 + IDEMPOTENCY_TTL_MS))] : List (Act String)) ++
    goOn 1 (bought (5 + IDEMPOTENCY_TTL_MS)) ++
    ([.start (teaRequest "k1" "one" (6 + IDEMPOTENCY_TTL_MS))] : List (Act String)) ++ goOn 2 [.authorized "ptn_1", .reads] ++
    ([.perform 2 (.owner (some "ptn_1"))] : List (Act String))

def bothAtOnce : List (Act String) :=
  ([.start (teaRequest "k1" "one" 0), .start (teaRequest "k1" "one" 0)] : List (Act String)) ++
    goOn 0 [.authorized "ptn_1", .reads] ++ goOn 1 [.authorized "ptn_1", .reads] ++ goOn 0 ((bought 5).drop 2) ++
    ([.perform 1 (.owner (some "ptn_1"))] : List (Act String))

/-- The key comes with a no-break space, which is trimmed for the lookup and not for the row. -/
def spelledOtherwise : List (Act String) :=
  ([.start (teaRequest "k1\u00a0" "one" 0)] : List (Act String)) ++ goOn 0 (bought 5) ++
    ([.start (teaRequest "k1\u00a0" "one" 10)] : List (Act String)) ++ goOn 1 [.authorized "ptn_1", .reads] ++
    ([.perform 1 (.owner (some "ptn_1"))] : List (Act String))

theorem bought_twice : ¬PurchasedOnce teaDeps (reusedTwice ++ [.resume 2]) ∧
    ¬PurchasedOnce teaDeps (bothAtOnce ++ [.resume 1]) ∧ ¬PurchasedOnce teaDeps (spelledOtherwise ++ [.resume 1]) := by
  have broken : breach teaDeps (runOf teaDeps reusedTwice).1 (runOf teaDeps reusedTwice).2 (.resume 2) 2 "ptn_1" "k1" ∧
      breach teaDeps (runOf teaDeps bothAtOnce).1 (runOf teaDeps bothAtOnce).2 (.resume 1) 1 "ptn_1" "k1" ∧
      breach teaDeps (runOf teaDeps spelledOtherwise).1 (runOf teaDeps spelledOtherwise).2 (.resume 1) 1 "ptn_1" "k1" := by
    decide +kernel
  exact ⟨not_once teaDeps broken.1, not_once teaDeps broken.2.1, not_once teaDeps broken.2.2⟩

end AgentPey.PurchaseReplay
