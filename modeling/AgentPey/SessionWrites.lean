import AgentPey.UcpCheckout
import AgentPey.Disciplines

/-!
What a UCP request may do to the stored sessions, step by step. Most of a request leaves the sessions and the locks
alone (`quiet`). What is left is a discipline: a request that has the lock of a session reads it, and from there on
stores only what follows from what it read; a request without a lock stores nothing but a canceled version.
-/
namespace AgentPey.SessionWrites
open Receipts CheckoutSessions Orders Routines Gateway PaidOrders UcpCheckout Disciplines

/-- No purchase of the x402 checkout holds units. -/
def UcpHolds (s : Storefront) : Prop := ∀ hold ∈ s.memory.holds, hold.x402 = false ∧ hold.key = none

/-- The sessions and the locks are left alone. -/
def Untouched (s s' : Storefront) : Prop :=
  s'.sessions = s.sessions ∧ s'.sessionsDrawn = s.sessionsDrawn ∧
    (UcpHolds s → UcpHolds s' ∧ s'.memory.inFlight = s.memory.inFlight)

theorem untouched_refl (s : Storefront) : Untouched s s := ⟨rfl, rfl, fun keyless => ⟨keyless, rfl⟩⟩

/-- A question that has nothing to do with the sessions. -/
def Plain : Op → Prop
  | .getSession _ => False
  | .saveSession _ => False
  | .settlePayment .. => False
  | _ => True

def quiet : Discipline Storefront Op Failure Op.Answer Unit where
  sync _ s s' _ := Untouched s s'
  ask _ o _ := Plain o
  expects _ _ := True
  answer _ _ _ := ()

/-- A quiet routine, and what it ends with. -/
abbrev Quiet {α : Type} (r : Gate α) (Q : Except Failure α → Prop) : Prop := Follows quiet () r fun _ => Q

section
variable {α β : Type} {Q : Except Failure α → Prop}

theorem quiet_ask {o : Op} (plain : Plain o) {Q : Except Failure o.Answer → Prop} (ends : ∀ answer, Q answer) :
    Quiet (ask o) Q :=
  ⟨(), plain, fun answer _ => follows_ofExcept (ends answer)⟩

theorem quiet_read {Q : Except Failure Storefront → Prop} (ends : ∀ s, Q (.ok s)) : Quiet Routine.read Q :=
  fun s => ⟨(), untouched_refl s, ends s⟩

theorem quiet_now {Q : Except Failure Int → Prop} (ends : ∀ n, Q (.ok n)) : Quiet now Q :=
  fun s => ⟨(), untouched_refl s, ends s.now⟩

theorem quiet_atomic {f : Storefront → β × Storefront} {Q : Except Failure β → Prop} (step : ∀ s, Untouched s (f s).2)
    (ends : ∀ s, Q (.ok (f s).1)) : Quiet (Routine.atomic f) Q :=
  fun s => ⟨(), step s, ends s⟩

variable {f : β → Gate α} {r : Gate β}

theorem Quiet.seq {R : Except Failure β → Prop} (first : Quiet r R) (goes_on : ∀ b, R (.ok b) → Quiet (f b) Q)
    (fails : ∀ e, R (.error e) → Q (.error e)) : Quiet (r >>= f) Q :=
  Follows.seq first (fun _ => goes_on) fun _ => fails

theorem Quiet.then_ (first : Quiet r fun _ => True) (goes_on : ∀ b, Quiet (f b) fun _ => True) :
    Quiet (r >>= f) fun _ => True :=
  first.seq (fun b _ => goes_on b) fun _ _ => trivial

theorem Quiet.finally_ {r : Gate α} {last : Storefront → Storefront} (ends : Quiet r fun _ => True)
    (step : ∀ s, Untouched s (last s)) : Quiet (r.finally_ last) fun _ => True := by
  apply Follows.finally_
  apply Follows.imp ends
  intro _ _ _ s
  exact ⟨(), step s, trivial⟩

theorem quiet_lift {x : Except Failure α} (ends : Q x) : Quiet (liftM x) Q := follows_lift ends

end

/-! ### Quiet routines -/

theorem quiet_put (order : OrderRecord) : Quiet (put order) fun _ => True :=
  (quiet_atomic (fun s => ⟨rfl, rfl, fun keyless => ⟨keyless, rfl⟩⟩) fun _ => trivial).then_ fun _ =>
    quiet_ask (by trivial) fun _ => trivial

theorem quiet_keepReplayed (record : OrderRecord) : Quiet (keepReplayed record) fun _ => True :=
  (quiet_put record).then_ fun _ => trivial

variable (deps : Deps)

theorem quiet_createPaidOrder (purchase : PaidPurchase) : Quiet (createPaidOrder deps purchase) fun _ => True := by
  apply (quiet_atomic (fun s => ⟨rfl, rfl, fun keyless => ⟨keyless, rfl⟩⟩) fun _ => trivial).then_
  rintro ⟨orderId, createdAt⟩
  dsimp only
  split
  · trivial
  · apply Quiet.then_ (Follows.attempt (quiet_ask (by trivial) fun _ => trivial))
    intro answer
    apply (quiet_now fun _ => trivial).then_
    intro issuedAt
    apply (quiet_lift trivial).then_
    intro issued
    exact (quiet_put issued).then_ fun _ => trivial

theorem untouched_lookup (txHash : String) (s : Storefront) : Untouched s (lookup deps txHash s).2 := by
  unfold lookup
  split
  · exact untouched_refl s
  · split
    · exact untouched_refl s
    · exact ⟨rfl, rfl, fun keyless => ⟨keyless, rfl⟩⟩

theorem quiet_fulfilPaidPurchase (purchase : PaidPurchase) : Quiet (fulfilPaidPurchase deps purchase) fun _ => True := by
  apply (quiet_atomic (untouched_lookup deps _) fun _ => trivial).then_
  intro found
  cases found with
  | duplicate record => exact (quiet_keepReplayed record).then_ fun _ => trivial
  | running promise =>
    apply (quiet_ask (by trivial) fun _ => trivial).then_
    intro record
    exact (quiet_keepReplayed record).then_ fun _ => trivial
  | free promise =>
    apply Quiet.then_ (Follows.attempt (quiet_createPaidOrder deps purchase))
    intro result
    apply Quiet.then_ (r := Routine.modify _) fun s => ⟨(), ⟨rfl, rfl, fun keyless => ⟨keyless, rfl⟩⟩, trivial⟩
    intro _
    apply Quiet.then_
    · exact (quiet_ask (by trivial) fun _ => trivial).finally_ fun s => ⟨rfl, rfl, fun keyless => ⟨keyless, rfl⟩⟩
    · intro record
      trivial

theorem quiet_quoteLines (lines : List SessionLine) :
    ∀ index asked, Quiet (quoteLines deps index asked lines) fun _ => True := by
  induction lines with
  | nil => exact fun _ _ => trivial
  | cons line rest ih =>
    intro index asked
    apply (quiet_read fun _ => trivial).then_
    intro s
    apply Quiet.then_ (Follows.attempt ((quiet_ask (by trivial) fun _ => trivial).then_ fun _ => quiet_lift trivial))
    intro quoted
    dsimp only
    split
    · exact (ih _ _).then_ fun _ => trivial
    · exact (ih _ _).then_ fun _ => trivial
    · trivial

theorem quiet_evaluate (session : CheckoutSession) : Quiet (evaluate deps session) fun _ => True := by
  apply (quiet_quoteLines deps session.lines _ _).then_
  rintro ⟨lines, unavailable⟩
  dsimp only
  split
  · exact (quiet_lift trivial).then_ fun _ => trivial
  · trivial

theorem quiet_requirementsFor (quote : PurchaseQuote) : Quiet (requirementsFor deps quote) fun _ => True := by
  apply (quiet_ask (by trivial) fun _ => trivial).then_
  intro _
  apply (quiet_ask (by trivial) fun _ => trivial).then_
  intro built
  cases built with
  | none => trivial
  | some requirements => exact quiet_lift trivial

/-- A version of a session that may still change, and has no settlement. -/
def Unpaid (id : String) (session : CheckoutSession) : Prop := session.id = id ∧ session.settlement = none

def Refreshed (id : String) : Except Failure (CheckoutSession × List UcpMessage) → Prop
  | .ok (session, _) => Unpaid id session ∧ session.live = true
  | .error _ => True

variable {id : String} {session : CheckoutSession}

theorem quiet_refresh (unpaid : Unpaid id session) : Quiet (refresh deps session) (Refreshed id) := by
  apply (quiet_evaluate deps session).seq (fun evaluation _ => ?_) fun _ _ => trivial
  dsimp only
  cases evaluation.quote with
  | none => exact ⟨unpaid, rfl⟩
  | some quote =>
    apply (quiet_now (Q := fun _ => True) fun _ => trivial).seq (fun asOf _ => ?_) fun _ _ => trivial
    split
    · exact ⟨unpaid, rfl⟩
    · split
      · exact ⟨unpaid, rfl⟩
      · exact (quiet_requirementsFor deps quote).seq (fun _ _ => ⟨unpaid, rfl⟩) fun _ _ => trivial

theorem quiet_render (lines : List SessionLine) : Quiet (render lines) fun _ => True := by
  induction lines with
  | nil => trivial
  | cons line rest ih => exact (quiet_ask (by trivial) fun _ => trivial).then_ fun _ => ih

theorem quiet_checkoutResponse (status : Nat) (session : CheckoutSession) (view : View) (messages : List UcpMessage) :
    Quiet (checkoutResponse deps status session view messages) fun _ => True := by
  apply (quiet_render session.lines).then_
  intro _
  apply (quiet_read fun _ => trivial).then_
  intro s
  dsimp only
  split
  · exact (quiet_ask (by trivial) fun _ => trivial).then_ fun _ => trivial
  · trivial

theorem quiet_checkAp2Mandate (session : CheckoutSession) (lock : Ap2Lock) (view : View) (input : CompleteInput) :
    Quiet (checkAp2Mandate session lock view input) fun _ => True := by
  unfold checkAp2Mandate
  dsimp only
  split
  · trivial
  · split
    · trivial
    · split
      · trivial
      · split
        · trivial
        · split
          · trivial
          · apply (quiet_render session.lines).then_
            intro _
            apply (quiet_ask (by trivial) fun _ => trivial).then_
            intro refusal
            cases refusal <;> trivial

/-! ### The discipline -/

/-- How a request stands to the sessions: apart from them, or reading one without its lock, or having seen one so, or
    with one of its own that is not stored yet, or with the lock of one that it has not read, may change, may settle, is
    settling, has charged, has paid for, found closed, or may no longer store. -/
inductive Stand where
  | apart
  | reader
  | seen (id : String)
  | fresh (id : String)
  | unread (id : String)
  | live (id : String)
  | armed (id : String)
  | paying (id : String)
  | spent (id : String)
  | paid (id : String) (settlement : Settlement)
  | closed (id : String)
  | finished (id : String)

def Stand.lock : Stand → Option String
  | .apart => none
  | .reader => none
  | .seen _ => none
  | .fresh _ => none
  | .unread id => some id
  | .live id => some id
  | .armed id => some id
  | .paying id => some id
  | .spent id => some id
  | .paid id _ => some id
  | .closed id => some id
  | .finished id => some id

def Stand.read : Stand → Option String
  | .seen id => some id
  | .live id => some id
  | .armed id => some id
  | .paying id => some id
  | .spent id => some id
  | .paid id _ => some id
  | .closed id => some id
  | _ => none

/-- A version has a settlement only once its payment is under way or done. -/
def Kept (session : CheckoutSession) : Prop :=
  session.settlement ≠ none → session.status = .completeInProgress ∨ session.status = .completed

/-- What a request may store. -/
def Saves : Stand → CheckoutSession → Prop
  | .seen id, session => Unpaid id session ∧ session.status = .canceled
  | .fresh id, session => Unpaid id session ∧ session.live = true
  | .live id, session => Unpaid id session
  | .closed id, session => Unpaid id session ∧ session.status = .canceled
  | .spent id, session => session.id = id ∧ session.status = .completeInProgress
  | .paid id settlement, session => session.id = id ∧ session.status = .completed ∧ session.settlement = some settlement
  | _, _ => False

inductive Moves : Stand → Storefront → Storefront → Stand → Prop
  | untouched {m s s'} (same : Untouched s s') : Moves m s s' m
  | lock {s id} (free : sessionLock id ∉ s.memory.inFlight) : Moves .apart s (lockSession id s).2 (.unread id)
  | unlock {m s id} (locked : m.lock = some id) : Moves m s (unlockSession id s) .apart
  | draw {s} : Moves .apart s { s with sessionsDrawn := s.sessionsDrawn + 1 }
      (.fresh (deps.sessionIds.newSessionId s.sessionsDrawn))

def Asks (m : Stand) : Op → Stand → Prop
  | .getSession id, m' => (m = .reader ∨ m = .unread id) ∧ m' = m
  | .saveSession session, m' => Saves m session ∧ m' = m
  | .settlePayment _ _ _ checkoutId, m' => ∃ id, checkoutId = some id ∧ m = .armed id ∧ m' = .paying id
  | _, m' => m' = m

/-- Where a request stands once it has read a version. -/
def Stand.reads (m : Stand) : Except Failure (Option CheckoutSession) → Stand :=
  match m with
  | .reader => fun answer =>
    match answer with
    | .ok (some session) => .seen session.id
    | _ => .reader
  | .unread id => fun answer =>
    match answer with
    | .ok (some session) =>
      if session.live then .live id
      else
        match session.settlement with
        | some settlement => .paid id settlement
        | none => .closed id
    | _ => .finished id
  | m => fun _ => m

def Stand.saved (m : Stand) (session : CheckoutSession) (answer : Except Failure Unit) : Stand :=
  match m, answer with
  | .live id, .ok _ => if session.status = .completeInProgress then .armed id else .live id
  | .spent id, .ok _ =>
    match session.settlement with
    | some settlement => .paid id settlement
    | none => .spent id
  | .spent id, .error _ => .finished id
  | .fresh _, _ => .apart
  | m, _ => m

/-- A definite refusal leaves the session as it was; anything else may have moved money. -/
def Stand.charged (id : String) : SettleOutcome → Stand
  | .refused _ => .live id
  | _ => .spent id

def Stand.settles (m : Stand) (answer : Except Failure SettleResponse) : Stand :=
  match m with
  | .paying id => .charged id (outcomeOf answer)
  | m => m

/-- What is known of an answer: a stored version is one of the session asked for. -/
def Expected : (o : Op) → Except Failure o.Answer → Prop
  | .getSession id, .ok (some session) => session.id = id ∧ Kept session
  | _, _ => True

def sessions : Discipline Storefront Op Failure Op.Answer Stand where
  sync := Moves deps
  ask := Asks
  expects := Expected
  answer m
    | .getSession _, answer => m.reads answer
    | .saveSession session, answer => m.saved session answer
    | .settlePayment .., answer => m.settles answer
    | _, _ => m

/-- A request that has a session's lock, or a session of its own, gives it up in the end. -/
def Ends (_ : Request) (m : Stand) (_ : Except Failure Reply) : Prop := m.lock = none

/-- A routine in a mode of the discipline. -/
abbrev Standing {α : Type} (m : Stand) (r : Gate α) (Q : Stand → Except Failure α → Prop) : Prop :=
  Follows (sessions deps) m r Q

/-! ### The routines keep to it -/

section
variable {deps} {α β : Type}

variable {r : Gate α} {m : Stand}

theorem Quiet.standing {Q : Except Failure α → Prop} (quiet : Quiet r Q) (m : Stand) :
    Standing deps m r fun m' result => m' = m ∧ Q result := by
  apply Follows.within quiet fun s s' same => Moves.untouched same
  intro o plain
  cases o <;> first | exact plain.elim | exact ⟨rfl, fun _ _ => ⟨trivial, rfl⟩⟩

theorem Quiet.locked (quiet : Quiet r fun _ => True) {id : String} (locked : m.lock = some id) :
    Standing deps m r fun m' _ => m'.lock = some id :=
  (quiet.standing m).imp fun _ _ ends => ends.1 ▸ locked

theorem Quiet.before {r : Gate β} {f : β → Gate α} {Q : Stand → Except Failure α → Prop} {R : Except Failure β → Prop}
    (quiet : Quiet r R) (goes_on : ∀ b, R (.ok b) → Standing deps m (f b) Q)
    (fails : ∀ e, R (.error e) → Q m (.error e)) : Standing deps m (r >>= f) Q := by
  apply (quiet.standing m).seq
  · rintro _ b ⟨rfl, ends⟩
    exact goes_on b ends
  · rintro _ e ⟨rfl, ends⟩
    exact fails e ends

theorem follows_save {session : CheckoutSession} (saves : Saves m session) {Q : Stand → Except Failure Unit → Prop}
    (ends : ∀ answer, Q (m.saved session answer) answer) : Standing deps m (ask (.saveSession session)) Q :=
  follows_ask (D := sessions deps) (show Asks m (.saveSession session) m from ⟨saves, rfl⟩) fun answer _ => ends answer

theorem follows_save_then {session : CheckoutSession} (saves : Saves m session) {f : Unit → Gate α}
    {Q : Stand → Except Failure α → Prop} (goes_on : Standing deps (m.saved session (.ok ⟨⟩)) (f ⟨⟩) Q)
    (fails : ∀ e, Q (m.saved session (.error e)) (.error e)) : Standing deps m (ask (.saveSession session) >>= f) Q := by
  apply Follows.seq (R := fun m' answer => m' = m.saved session answer)
  · exact follows_save saves fun _ => rfl
  · rintro _ ⟨⟩ rfl
    exact goes_on
  · rintro _ e rfl
    exact fails e

end

/-- What a locked request has read, in the mode it is in. -/
inductive Copy (id : String) (session : CheckoutSession) : Stand → Prop
  | live (unpaid : Unpaid id session) (may : session.live = true ∨ session.status = .canceled) : Copy id session (.live id)
  | paid {settlement} (same : session.id = id) (has : session.settlement = some settlement)
      (done : session.status = .completeInProgress ∨ session.status = .completed) :
      Copy id session (.paid id settlement)
  | closed (unpaid : Unpaid id session) (finished : session.live = false) : Copy id session (.closed id)

variable {m : Stand} {next : CheckoutSession} {raw : Option (Except Failure ConsentUpdate)} {input : SessionInput}

theorem Copy.locked (copy : Copy id session m) : m.lock = some id := by
  cases copy <;> rfl

def Loaded (id : String) (m : Stand) : Except Failure (Option CheckoutSession) → Prop
  | .ok (some session) => Copy id session m
  | _ => m.lock = some id

theorem unpaid_of_live (kept : Kept session) (live : session.live = true) : session.settlement = none := by
  by_contra has
  rcases kept has with status | status
  · simp [CheckoutSession.live, status] at live
  · simp [CheckoutSession.live, status] at live

theorem follows_loadSession (id : String) : Standing deps (.unread id) (loadSession id) (Loaded id) := by
  rw [loadSession]
  split
  · rfl
  · apply Follows.seq (R := fun m answer => m = (Stand.unread id).reads answer ∧ Expected (.getSession id) answer)
    · exact follows_ask (D := sessions deps) (show Asks _ (.getSession id) (.unread id) from ⟨.inr rfl, rfl⟩)
        fun answer expected => ⟨rfl, expected⟩
    · rintro m found ⟨rfl, expected⟩
      cases found with
      | none => rfl
      | some session =>
        obtain ⟨same, kept⟩ := expected
        apply (quiet_now (Q := fun _ => True) fun _ => trivial).before (fun readAt _ => ?_) fun _ _ => ?_
        · by_cases live : session.live = true
          · have unpaid := unpaid_of_live kept live
            have mode : (Stand.unread id).reads (.ok (some session)) = .live id := by simp [Stand.reads, live]
            rw [mode]
            split
            · apply follows_save_then
              · exact ⟨same, unpaid⟩
              · exact .live ⟨same, unpaid⟩ (.inr rfl)
              · exact fun _ => rfl
            · exact .live ⟨same, unpaid⟩ (.inl live)
          · rw [if_neg fun both => live both.1]
            cases has : session.settlement with
            | none =>
              have mode : (Stand.unread id).reads (.ok (some session)) = .closed id := by simp [Stand.reads, live, has]
              rw [mode]
              exact .closed ⟨same, has⟩ (Bool.eq_false_iff.mpr live)
            | some settlement =>
              have mode : (Stand.unread id).reads (.ok (some session)) = .paid id settlement := by
                simp [Stand.reads, live, has]
              rw [mode]
              exact .paid same has (kept (by simp [has]))
        · by_cases live : session.live = true
          · simp [Loaded, Stand.reads, live, Stand.lock]
          · cases has : session.settlement <;> simp [Loaded, Stand.reads, live, has, Stand.lock]
    · rintro m e ⟨rfl, _⟩
      rfl

theorem follows_loadSession_reader (id : String) : Standing deps .reader (loadSession id) fun m _ => m.lock = none := by
  rw [loadSession]
  split
  · rfl
  · apply Follows.seq (R := fun m answer => m = Stand.reader.reads answer ∧ Expected (.getSession id) answer)
    · exact follows_ask (D := sessions deps) (show Asks _ (.getSession id) .reader from ⟨.inl rfl, rfl⟩)
        fun answer expected => ⟨rfl, expected⟩
    · rintro m found ⟨rfl, expected⟩
      cases found with
      | none => rfl
      | some session =>
        apply (quiet_now (Q := fun _ => True) fun _ => trivial).before (fun readAt _ => ?_) fun _ _ => rfl
        split
        · rename_i expired
          apply follows_save_then (m := .seen session.id)
          · have unpaid : session.settlement = none := unpaid_of_live expected.2 expired.1
            exact ⟨⟨rfl, unpaid⟩, rfl⟩
          · rfl
          · exact fun _ => rfl
        · rfl
    · rintro m e ⟨rfl, _⟩
      rfl

theorem follows_finish {settlement : Settlement} (same : session.id = id) (has : session.settlement = some settlement) :
    Standing deps (.paid id settlement) (finish deps session) fun m _ => m.lock = some id := by
  apply (quiet_lift (Q := fun _ => True) trivial).before (fun purchase _ => ?_) fun _ _ => rfl
  apply (quiet_fulfilPaidPurchase deps purchase).before (fun fulfilled _ => ?_) fun _ _ => rfl
  dsimp only
  split
  · rfl
  · apply (quiet_now (Q := fun _ => True) fun _ => trivial).before (fun closedAt _ => ?_) fun _ _ => rfl
    apply follows_save_then
    · exact ⟨same, rfl, has⟩
    · split
      · rfl
      · refine Quiet.locked ?_ rfl
        exact Quiet.then_ (Follows.attempt (quiet_ask (by trivial) fun _ => trivial)) fun _ => trivial
    · exact fun _ => rfl

theorem follows_settle (requirements : StoredRequirements) (transaction : String) (hold : Hold) :
    Standing deps (.armed id) (settle requirements transaction hold id) fun m result =>
      ∃ outcome, result = .ok outcome ∧ m = .charged id outcome := by
  apply Follows.seq (R := fun m answer => ∃ a, answer = .ok a ∧ m = (Stand.paying id).settles a)
  · apply Follows.attempt
    exact follows_ask (D := sessions deps)
      (show Asks _ (.settlePayment requirements transaction hold (some id)) (.paying id) from ⟨id, rfl, rfl, rfl⟩)
      fun answer _ => ⟨answer, rfl, rfl⟩
  · rintro m answer ⟨_, ⟨⟩, rfl⟩
    exact ⟨_, rfl, rfl⟩
  · rintro m e ⟨_, ⟨⟩, _⟩

variable {deps}

theorem follows_pay (unpaid : Unpaid id session) (stored : StoredRequirements) (payment : Payment) (hold : Hold) :
    Standing deps (.live id) (pay deps session stored payment hold) fun m _ => m.lock = some id := by
  obtain ⟨rfl, _⟩ := unpaid
  apply (quiet_now (Q := fun _ => True) fun _ => trivial).before (fun startedAt _ => ?_) fun _ _ => rfl
  apply follows_save_then
  · exact ⟨rfl, rfl⟩
  · apply (follows_settle deps stored payment.credential.transaction hold).seq
    · rintro m outcome ⟨_, ⟨⟩, rfl⟩
      apply (quiet_now (Q := fun _ => True) fun _ => trivial).before (fun answeredAt _ => ?_) fun _ _ => ?_
      · cases outcome with
        | refused reason =>
          apply follows_save_then (m := .live session.id)
          · exact ⟨rfl, rfl⟩
          · refine Quiet.locked ?_ rfl
            exact (quiet_checkoutResponse deps _ _ _ _).then_ fun _ => trivial
          · exact fun _ => rfl
        | unknown reason transaction =>
          apply follows_save_then (m := .spent session.id)
          · exact ⟨rfl, rfl⟩
          · refine Quiet.locked ?_ rfl
            exact (quiet_checkoutResponse deps _ _ _ _).then_ fun _ => trivial
          · exact fun _ => rfl
        | settled response =>
          apply follows_save_then (m := .spent session.id)
          · exact ⟨rfl, rfl⟩
          · apply (quiet_atomic (Q := fun _ => True) (fun s => ⟨rfl, rfl, fun keyless => ⟨keyless, rfl⟩⟩)
              fun _ => trivial).before (fun _ _ => ?_) fun _ _ => rfl
            have closes : Standing deps (.paid session.id _)
                (finish deps (settledSession (inProgress deps session payment startedAt) stored response answeredAt))
                fun m _ => m.lock = some session.id := follows_finish deps rfl rfl
            exact closes.seq (fun _ _ locked => locked) fun _ _ locked => locked
          · exact fun _ => rfl
      · cases outcome <;> rfl
    · rintro m e ⟨_, ⟨⟩, _⟩
  · exact fun _ => rfl

theorem untouched_releaseHold (ticket : Nat) (s : Storefront) : Untouched s (releaseHold ticket s) := by
  unfold releaseHold
  split
  · exact untouched_refl s
  · rename_i hold found
    refine ⟨rfl, rfl, fun keyless => ⟨fun other member => keyless other (List.mem_filter.mp member).1, ?_⟩⟩
    have keyless := (keyless hold (List.mem_of_find?_eq_some found)).2
    simp [keyless]

theorem untouched_reserveAll (units : List HeldUnits) (s : Storefront) : Untouched s (reserveAll units s).2 := by
  unfold reserveAll
  split
  · exact untouched_refl s
  · refine ⟨rfl, rfl, fun keyless => ⟨?_, rfl⟩⟩
    intro hold member
    rcases List.mem_append.mp member with old | new
    · exact keyless hold old
    · cases List.mem_singleton.mp new
      exact ⟨rfl, rfl⟩

theorem follows_payHeld (unpaid : Unpaid id session) (stored : StoredRequirements) (payment : Payment) (hold : Hold) :
    Standing deps (.live id) (payHeld deps session stored payment hold) fun m _ => m.lock = some id := by
  apply Follows.seq (R := fun m _ => m.lock = some id)
  · apply Follows.finally_
    apply (follows_pay unpaid stored payment hold).imp
    intro m _ locked s
    exact ⟨m, .untouched (untouched_releaseHold _ s), locked⟩
  · intro m paid locked
    cases paid with
    | inl reply => exact locked
    | inr session => exact (quiet_checkoutResponse deps _ _ _ _).locked locked
  · exact fun _ _ locked => locked

theorem live_saved (id : String) (session : CheckoutSession) (answer : Except Failure Unit) :
    ((Stand.live id).saved session answer).lock = some id := by
  cases answer with
  | error e => rfl
  | ok u =>
    rw [Stand.saved]
    split <;> rfl

theorem follows_charge (unpaid : Unpaid id session) (payment : Payment) :
    Standing deps (.live id) (charge deps session payment) fun m _ => m.lock = some id := by
  rw [charge]
  split
  · rename_i stored _ _ _
    apply (quiet_evaluate deps session).before (fun evaluation _ => ?_) fun _ _ => rfl
    dsimp only
    split
    · apply (quiet_refresh deps unpaid).before (fun refreshed again => ?_) fun _ _ => rfl
      apply (quiet_now (Q := fun _ => True) fun _ => trivial).before (fun refreshedAt _ => ?_) fun _ _ => rfl
      apply follows_save_then
      · exact again.1
      · exact (quiet_checkoutResponse deps _ _ _ _).locked (live_saved id _ _)
      · exact fun _ => rfl
    · split
      · exact (quiet_checkoutResponse deps _ _ _ _).locked rfl
      · apply (quiet_atomic (Q := fun _ => True) (untouched_reserveAll _) fun _ => trivial).before
          (fun reserved _ => ?_) fun _ _ => rfl
        cases reserved with
        | error short => exact (quiet_checkoutResponse deps _ _ _ _).locked rfl
        | ok hold => exact follows_payHeld unpaid stored payment hold
  · rfl

theorem follows_chargeMandated (unpaid : Unpaid id session) (credential : Credential) (key : Option String)
    (input : CompleteInput) (view : View) :
    Standing deps (.live id) (chargeMandated deps session credential key input view) fun m _ => m.lock = some id := by
  rw [chargeMandated]
  split
  · exact follows_charge unpaid _
  · apply (quiet_checkAp2Mandate session _ view input).before (fun outcome _ => ?_) fun _ _ => rfl
    cases outcome with
    | error refusal => exact (quiet_checkoutResponse deps _ _ _ _).locked rfl
    | ok mandate => exact follows_charge unpaid _

variable {version : UcpVersion} {advertised : Bool} {outcome : ConsentOutcome}

theorem applyConsentInput_eq {session : CheckoutSession}
    (applied : applyConsentInput deps session raw version advertised = .ok (next, outcome)) :
    next = { session with consent := next.consent } := by
  unfold applyConsentInput at applied
  split at applied
  · cases applied
    rfl
  · split at applied
    · cases applied
      rfl
    · split at applied
      · cases applied
        rfl
      · rename_i parsed _ _
        cases parsed with
        | error e => cases applied
        | ok update =>
          change (if _ then _ else _ : Except Failure _) = _ at applied
          split at applied
          · cases applied
            rfl
          · cases applied
            rfl

theorem applyConsentInput_ok {session : CheckoutSession}
    (applied : applyConsentInput deps session raw version advertised = .ok (next, outcome)) :
    next.id = session.id ∧ next.settlement = session.settlement ∧ next.status = session.status := by
  rw [applyConsentInput_eq applied]
  exact ⟨rfl, rfl, rfl⟩

theorem live_not_busy (live : session.live = true) : session.status ≠ .completeInProgress := by
  intro busy
  simp [CheckoutSession.live, busy] at live

/-- What a request to complete goes on with: the same session, still live. -/
def Confirmed (id : String) (m : Stand) : Except Failure CheckoutSession → Prop
  | .ok session => m = .live id ∧ Unpaid id session ∧ session.live = true
  | .error _ => m.lock = some id

theorem follows_confirmConsent (unpaid : Unpaid id session) (live : session.live = true) (input : CompleteInput)
    (view : View) : Standing deps (.live id) (confirmConsent deps session input view) (Confirmed id) := by
  rw [confirmConsent]
  split
  · apply (quiet_lift (Q := fun result => ∀ next, result = .ok next → Unpaid id next.1 ∧ next.1.live = true) ?_).before
    · rintro ⟨next, outcome⟩ kept
      obtain ⟨unpaid', live'⟩ := kept _ rfl
      dsimp only
      split
      · apply (quiet_now (Q := fun _ => True) fun _ => trivial).before (fun appliedAt _ => ?_) fun _ _ => rfl
        apply follows_save_then
        · exact unpaid'
        · exact ⟨if_neg (live_not_busy live'), unpaid', live'⟩
        · exact fun _ => rfl
      · exact ⟨rfl, unpaid', live'⟩
    · exact fun _ _ => rfl
    · rintro ⟨next, outcome⟩ applied
      obtain ⟨same, settlement, status⟩ := applyConsentInput_ok applied
      refine ⟨⟨same.trans unpaid.1, settlement.trans unpaid.2⟩, ?_⟩
      rw [← live, CheckoutSession.live, CheckoutSession.live, status]
  · exact ⟨rfl, unpaid, live⟩

theorem follows_completeLive (unpaid : Unpaid id session) (live : session.live = true) (key : Option String)
    (input : CompleteInput) (view : View) :
    Standing deps (.live id) (completeLive deps session key input view) fun m _ => m.lock = some id := by
  rw [completeLive]
  split
  · exact (quiet_checkoutResponse deps _ _ _ _).locked rfl
  · split
    · exact (quiet_checkoutResponse deps _ _ _ _).locked rfl
    · apply (follows_confirmConsent unpaid live input view).seq
      · rintro _ confirmed ⟨rfl, unpaid', _⟩
        dsimp only
        split
        · apply (quiet_refresh deps unpaid').before (fun refreshed again => ?_) fun _ _ => rfl
          apply follows_save_then
          · exact again.1
          · exact (quiet_checkoutResponse deps _ _ _ _).locked (live_saved id _ _)
          · exact fun _ => rfl
        · split
          · exact (quiet_checkoutResponse deps _ _ _ _).locked rfl
          · exact follows_chargeMandated unpaid' _ key input view
      · exact fun _ _ locked => locked

theorem follows_complete (id : String) (key : Option String) (input : CompleteInput) (view : View) :
    Standing deps (.unread id) (complete deps id key input view) fun m _ => m.lock = some id := by
  apply (follows_loadSession deps id).seq
  · intro m found loaded
    cases found with
    | none => exact loaded
    | some session =>
      have locked : m.lock = some id := Copy.locked loaded
      dsimp only
      split
      · split
        · exact locked
        · exact (quiet_checkoutResponse deps _ _ _ _).locked locked
      · exact locked
      · split
        · rename_i status paid
          cases loaded with
          | live unpaid may => simp [unpaid.2] at paid
          | closed unpaid finished => simp [unpaid.2] at paid
          | paid same has done =>
            apply (follows_finish deps same has).seq
            · exact fun m session locked => (quiet_checkoutResponse deps _ _ _ _).locked locked
            · exact fun _ _ locked => locked
        · exact (quiet_checkoutResponse deps _ _ _ _).locked locked
      · rename_i notCompleted notCanceled notInProgress
        cases loaded with
        | live unpaid may =>
          rcases may with live | canceled
          · exact follows_completeLive unpaid live key input view
          · exact (notCanceled canceled).elim
        | closed unpaid finished =>
          cases status : session.status <;> simp_all [CheckoutSession.live]
        | paid same has done =>
          rcases done with status | status
          · exact (notInProgress status).elim
          · exact (notCompleted status).elim
  · exact fun _ _ locked => locked

/-! ### Routes -/

theorem follows_withSessionLock {work : Gate Reply} (follows : Standing deps (.unread id) work fun m _ => m.lock = some id) :
    Standing deps .apart (withSessionLock id work) fun m _ => m.lock = none := by
  intro s
  by_cases free : sessionLock id ∈ s.memory.inFlight
  · refine ⟨.apart, ?_, ?_⟩
    · have same : (lockSession id s).2 = s := by simp [lockSession, free]
      change Moves deps .apart s (lockSession id s).2 .apart
      rw [same]
      exact .untouched (untouched_refl s)
    · have refused : (lockSession id s).1 = false := by simp [lockSession, free]
      simp only [Routine.bind, refused]
      rfl
  · refine ⟨.unread id, .lock free, ?_⟩
    have taken : (lockSession id s).1 = true := by simp [lockSession, free]
    simp only [Routine.bind, taken]
    apply Follows.finally_
    apply follows.imp
    intro m _ locked s
    exact ⟨.apart, .unlock locked, rfl⟩

/-- A request's input changes what is bought, by whom and where it goes, and nothing else. -/
theorem applyInput_eq {session : CheckoutSession}
    (applied : applyInput deps session input version advertised = .ok (next, outcome)) : next = { session with
      lines := input.lines, buyer := input.buyer, consent := next.consent, destination := next.destination } := by
  unfold applyInput at applied
  dsimp only at applied
  cases consented : applyConsentInput deps { session with lines := input.lines, buyer := input.buyer } input.consent
      version advertised with
  | error e =>
    rw [consented] at applied
    cases applied
  | ok result =>
    obtain ⟨changed, outcome'⟩ := result
    have same := applyConsentInput_eq consented
    rw [consented] at applied
    change (if _ then _ else _ : Except Failure _) = _ at applied
    split at applied
    · cases applied
    · cases applied
      rw [same]

theorem applyInput_ok {session : CheckoutSession}
    (applied : applyInput deps session input version advertised = .ok (next, outcome)) :
    next.id = session.id ∧ next.settlement = session.settlement := by
  rw [applyInput_eq applied]
  exact ⟨rfl, rfl⟩

theorem follows_create (input : SessionInput) (view : View) :
    Standing deps .apart (create deps input view) fun m _ => m.lock = none := by
  intro s
  refine ⟨_, .draw, ?_⟩
  dsimp only [Routine.bind]
  cases platformRefusal deps view with
  | some refusal => rfl
  | none =>
    apply (quiet_lift (Q := fun result => ∀ next, result = .ok next →
      Unpaid (deps.sessionIds.newSessionId s.sessionsDrawn) next.1) ?_).before
    · rintro ⟨next, outcome⟩ kept
      apply (quiet_refresh deps (kept _ rfl)).before (fun refreshed again => ?_) fun _ _ => rfl
      apply follows_save_then
      · exact ⟨again.1, again.2⟩
      · apply ((quiet_checkoutResponse deps _ _ _ _).standing .apart).imp
        rintro _ _ ⟨rfl, _⟩
        rfl
      · exact fun _ => rfl
    · exact fun _ _ => rfl
    · rintro ⟨next, outcome⟩ applied
      exact applyInput_ok applied

theorem follows_readRoute (id : String) (view : View) :
    Standing deps .reader (readRoute deps id view) fun m _ => m.lock = none := by
  apply (follows_loadSession_reader deps id).seq
  · intro m found unlocked
    cases found with
    | none => exact unlocked
    | some session =>
      apply ((quiet_checkoutResponse deps _ _ _ _).standing m).imp
      rintro _ _ ⟨rfl, _⟩
      exact unlocked
  · exact fun _ _ unlocked => unlocked

theorem follows_update (id : String) (input : SessionInput) (view : View) :
    Standing deps (.unread id) (update deps id input view) fun m _ => m.lock = some id := by
  apply (follows_loadSession deps id).seq
  · intro m found loaded
    cases found with
    | none => exact loaded
    | some session =>
      have locked : m.lock = some id := Copy.locked loaded
      dsimp only
      split
      · exact locked
      · rename_i live
        cases loaded with
        | closed unpaid finished => exact (live (Bool.eq_false_iff.mp finished)).elim
        | paid same has done => exact (live (by rcases done with status | status <;> simp [CheckoutSession.live, status])).elim
        | live unpaid may =>
          apply (quiet_lift (Q := fun result => ∀ next, result = .ok next → Unpaid id next.1) ?_).before
          · rintro ⟨next, outcome⟩ kept
            apply (quiet_refresh deps (kept _ rfl)).before (fun refreshed again => ?_) fun _ _ => rfl
            apply (quiet_now (Q := fun _ => True) fun _ => trivial).before (fun updatedAt _ => ?_) fun _ _ => rfl
            apply follows_save_then
            · exact again.1
            · exact (quiet_checkoutResponse deps _ _ _ _).locked (live_saved id _ _)
            · exact fun _ => rfl
          · exact fun _ _ => rfl
          · rintro ⟨next, outcome⟩ applied
            obtain ⟨same, settlement⟩ := applyInput_ok applied
            exact ⟨same.trans unpaid.1, settlement.trans unpaid.2⟩
  · exact fun _ _ locked => locked

theorem follows_cancel (id : String) (view : View) :
    Standing deps (.unread id) (cancel deps id view) fun m _ => m.lock = some id := by
  apply (follows_loadSession deps id).seq
  · intro m found loaded
    cases found with
    | none => exact loaded
    | some session =>
      have locked : m.lock = some id := Copy.locked loaded
      dsimp only
      split
      · exact locked
      · rename_i open_
        apply (quiet_now (Q := fun _ => True) fun _ => trivial).before (fun canceledAt _ => ?_) fun _ _ => locked
        cases loaded with
        | paid same has done => exact (open_ (done.symm)).elim
        | live unpaid may =>
          apply follows_save_then
          · exact unpaid
          · exact (quiet_checkoutResponse deps _ _ _ _).locked (live_saved id _ _)
          · exact fun _ => rfl
        | closed unpaid finished =>
          apply follows_save_then
          · exact ⟨unpaid, rfl⟩
          · exact (quiet_checkoutResponse deps _ _ _ _).locked rfl
          · exact fun _ => rfl
  · exact fun _ _ locked => locked

theorem follows_ucpRoute {handler : Gate Reply} (follows : Standing deps m handler fun m _ => m.lock = none) :
    Standing deps m (ucpRoute handler) fun m _ => m.lock = none := by
  apply Follows.seq (R := fun m _ => m.lock = none)
  · exact Follows.attempt follows
  · intro m result unlocked
    cases result with
    | ok reply => exact unlocked
    | error e => exact unlocked
  · exact fun _ _ unlocked => unlocked

/-- Where a request stands as it comes in: only the reads go to a session without its lock. -/
def Stand.first : Request → Stand
  | .read .. => .reader
  | _ => .apart

theorem first_claims (request : Request) :
    (Stand.first request).lock = none ∧ (Stand.first request).read = none ∧ ∀ id, Stand.first request ≠ .fresh id := by
  cases request <;> exact ⟨rfl, rfl, fun _ impossible => by cases impossible⟩

theorem follows_route (request : Request) : Follows (sessions deps) (.first request) (route deps request) (Ends request) := by
  cases request with
  | create input view => exact follows_ucpRoute (follows_create input view)
  | read id view => exact follows_ucpRoute (follows_readRoute id view)
  | update id input view => exact follows_ucpRoute (follows_withSessionLock (follows_update id input view))
  | cancel id view => exact follows_ucpRoute (follows_withSessionLock (follows_cancel id view))
  | complete id key input view => exact follows_ucpRoute (follows_withSessionLock (follows_complete id key input view))

end AgentPey.SessionWrites
