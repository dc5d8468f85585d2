import AgentPey.SessionWrites

/-!
What holds of the stored sessions and their locks in every run of one app: a stored version is one of its session, a
session has one locked request at most, and a new session's id is not anyone else's. Every kind of step keeps it.
-/
namespace AgentPey.SessionLocks
open Receipts CheckoutSessions Orders Routines Gateway PaidOrders UcpCheckout Disciplines SessionWrites
open Function (update update_apply update_of_ne)

variable (deps : Deps)

def Drawn (s : Storefront) (id : String) : Prop := ∃ n < s.sessionsDrawn, deps.sessionIds.newSessionId n = id

abbrev Modes := List (Request × Option Stand)

structure Orderly (s : Storefront) (ms : Modes) : Prop where
  ucp : UcpHolds s
  kept : ∀ id session, s.sessions id = some session → session.id = id ∧ Kept session
  drawn : ∀ id, s.sessions id ≠ none → Drawn deps s id
  locked : ∀ (i : Nat) c m id, ms[i]? = some (c, some m) → m.lock = some id → sessionLock id ∈ s.memory.inFlight
  alone : ∀ (i j : Nat) c d m n id, ms[i]? = some (c, some m) → ms[j]? = some (d, some n) → m.lock = some id →
    n.lock = some id → i = j
  known : ∀ (i : Nat) c m id, ms[i]? = some (c, some m) → m.read = some id → s.sessions id ≠ none
  fresh : ∀ (i : Nat) c id, ms[i]? = some (c, some (.fresh id)) → s.sessions id = none ∧ Drawn deps s id
  once : ∀ (i j : Nat) c d id, ms[i]? = some (c, some (.fresh id)) → ms[j]? = some (d, some (.fresh id)) → i = j

theorem orderly_opened (opensAt : Int) (platform : Platform) : Orderly deps (opened opensAt platform) [] where
  ucp hold member := by simp [opened, Memory.opened] at member
  kept id session found := by simp [opened] at found
  drawn id found := (found rfl).elim
  locked i c m id found := by simp at found
  alone i j c d m n id found := by simp at found
  known i c m id found := by simp at found
  fresh i c id found := by simp at found
  once i j c d id found := by simp at found

/-! ### What an answer changes -/

/-- What is known of the sessions once a question has been answered. -/
def Effect (s s' : Storefront) : (o : Op) → Except Failure o.Answer → Prop
  | .getSession id, answer => s'.sessions = s.sessions ∧ ∀ found, answer = .ok found → found = s.sessions id
  | .saveSession session, answer =>
    s'.sessions = update s.sessions session.id (some session) ∨
      (s'.sessions = s.sessions ∧ ∃ e, answer = .error e)
  | _, _ => s'.sessions = s.sessions

/-- An answer leaves the locks and the holds of the app alone. -/
def Frame (s s' : Storefront) : Prop :=
  s'.sessionsDrawn = s.sessionsDrawn ∧ s'.memory.inFlight = s.memory.inFlight ∧ s'.memory.holds = s.memory.holds

theorem onAfterSettle_frame (requirements : StoredRequirements) (transaction : String) (response : SettleResponse)
    (s : Storefront) : (onAfterSettle requirements transaction response s).sessions = s.sessions ∧
      Frame s (onAfterSettle requirements transaction response s) := by
  unfold onAfterSettle
  split
  · exact ⟨rfl, rfl, rfl, rfl⟩
  · exact ⟨rfl, rfl, rfl, rfl⟩

theorem serve_effect {o : Op} {input : Input} {s s' : Storefront} {answer : Except Failure o.Answer}
    (served : serve o input s = some (answer, s')) : Effect s s' o answer ∧ Frame s s' := by
  cases o with
  | getSession id =>
    obtain ⟨rfl, found⟩ := answerWith_ok served
    exact ⟨⟨rfl, found⟩, rfl, rfl, rfl⟩
  | saveSession session =>
    rcases answerWrite_ok served with rfl | ⟨rfl, failed⟩
    · exact ⟨.inl rfl, rfl, rfl, rfl⟩
    · exact ⟨.inr ⟨rfl, failed⟩, rfl, rfl, rfl⟩
  | settlePayment requirements transaction hold checkoutId =>
    rw [serve] at served
    split at served
    · cases served
      exact ⟨rfl, rfl, rfl, rfl⟩
    · cases served
      exact onAfterSettle_frame _ _ _ s
  | createOrder order =>
    rcases answerWrite_ok served with rfl | ⟨rfl, _⟩
    · exact ⟨rfl, rfl, rfl, rfl⟩
    · exact ⟨rfl, rfl, rfl, rfl⟩
  | saveOrder turn order =>
    rw [serve] at served
    split at served
    · rcases answerWrite_ok served with rfl | ⟨rfl, _⟩
      · exact ⟨rfl, rfl, rfl, rfl⟩
      · exact ⟨rfl, rfl, rfl, rfl⟩
    · cases served
  | orderInFlight promise =>
    rw [serve] at served
    split at served
    · cases served
      exact ⟨rfl, rfl, rfl, rfl⟩
    · cases served
  | getProduct id | ready | buildPaymentRequirements | signMerchantAuthorization | verifyCheckoutMandate
  | verifyPayment | attachWebhook =>
    obtain ⟨rfl, _⟩ := answerWith_ok served
    exact ⟨rfl, rfl, rfl, rfl⟩

/-! ### The steps -/

section
variable {deps} {s s' : Storefront} {ms : Modes}
variable {i : Nat} {c : Request}

variable {m m' : Stand} {ms' : Modes} {o : Op}

/-- A call comes to stand for a lock that is in flight, a version that is stored, a new session's id: the lock and the id
    are no one else's. -/
theorem Orderly.set (orderly : Orderly deps s ms) (lock : ∀ id, m'.lock = some id →
      sessionLock id ∈ s.memory.inFlight ∧ ∀ (j : Nat) d n, ms[j]? = some (d, some n) → n.lock = some id → j = i)
    (read : ∀ id, m'.read = some id → s.sessions id ≠ none) (fresh : ∀ id, m' = .fresh id →
      (s.sessions id = none ∧ Drawn deps s id) ∧ ∀ (j : Nat) d, ms[j]? = some (d, some (.fresh id)) → j = i) :
    Orderly deps s (ms.set i (c, some m')) where
  ucp := orderly.ucp
  kept := orderly.kept
  drawn := orderly.drawn
  locked j d n id found locks := by
    rcases mode_of_set found with ⟨_, _, same⟩ | ⟨_, old⟩
    · cases same
      exact (lock id locks).1
    · exact orderly.locked j d n id old locks
  alone j k d e n p id foundj foundk locksj locksk := by
    rcases mode_of_set foundj with ⟨rfl, _, same⟩ | ⟨_, oldj⟩
    · cases same
      rcases mode_of_set foundk with ⟨rfl, _⟩ | ⟨_, oldk⟩
      · rfl
      · exact ((lock id locksj).2 k e p oldk locksk).symm
    · rcases mode_of_set foundk with ⟨rfl, _, same⟩ | ⟨_, oldk⟩
      · cases same
        exact (lock id locksk).2 j d n oldj locksj
      · exact orderly.alone j k d e n p id oldj oldk locksj locksk
  known j d n id found reads := by
    rcases mode_of_set found with ⟨_, _, same⟩ | ⟨_, old⟩
    · cases same
      exact read id reads
    · exact orderly.known j d n id old reads
  fresh j d id found := by
    rcases mode_of_set found with ⟨_, _, same⟩ | ⟨_, old⟩
    · exact (fresh id (Option.some.inj same).symm).1
    · exact orderly.fresh j d id old
  once j k d e id foundj foundk := by
    rcases mode_of_set foundj with ⟨rfl, _, same⟩ | ⟨_, oldj⟩
    · rcases mode_of_set foundk with ⟨rfl, _⟩ | ⟨_, oldk⟩
      · rfl
      · exact ((fresh id (Option.some.inj same).symm).2 k e oldk).symm
    · rcases mode_of_set foundk with ⟨rfl, _, same⟩ | ⟨_, oldk⟩
      · exact (fresh id (Option.some.inj same).symm).2 j d oldj
      · exact orderly.once j k d e id oldj oldk

theorem Orderly.weaken (orderly : Orderly deps s ms) (mode : ms[i]? = some (c, some m))
    (lock : ∀ id, m'.lock = some id → m.lock = some id) (read : ∀ id, m'.read = some id → s.sessions id ≠ none)
    (fresh : ∀ id, m' = .fresh id → m = .fresh id) : Orderly deps s (ms.set i (c, some m')) := by
  refine orderly.set (fun id locks => ?_) read fun id same => ?_
  · have held := lock id locks
    exact ⟨orderly.locked i c m id mode held, fun j d n found other => orderly.alone j i d c n m id found mode other held⟩
  · have own := fresh id same ▸ mode
    exact ⟨orderly.fresh i c id own, fun j d found => orderly.once j i d c id found own⟩

theorem Orderly.untouched (orderly : Orderly deps s ms) (same : Untouched s s') : Orderly deps s' ms := by
  obtain ⟨sessions, drawn, keyless⟩ := same
  obtain ⟨ucp, inFlight⟩ := keyless orderly.ucp
  constructor
  · exact ucp
  · rw [sessions]
    exact orderly.kept
  · intro id found
    rw [sessions] at found
    rw [Drawn, drawn]
    exact orderly.drawn id found
  · rw [inFlight]
    exact orderly.locked
  · exact orderly.alone
  · rw [sessions]
    exact orderly.known
  · intro i c id found
    rw [sessions, Drawn, drawn]
    exact orderly.fresh i c id found
  · exact orderly.once

theorem sessionLock_inj {id other : String} : sessionLock id = sessionLock other ↔ id = other := by
  unfold sessionLock
  constructor
  · intro same
    exact String.append_right_inj _ |>.mp same
  · rintro rfl
    rfl

section
variable (orderly : Orderly deps s ms)
include orderly

theorem Orderly.moves (mode : ms[i]? = some (c, some m))
    (moves : Moves deps m s s' m') : Orderly deps s' (ms.set i (c, some m')) := by
  cases moves with
  | untouched same =>
    rw [set_same mode]
    exact orderly.untouched same
  | @lock _ id free =>
    have state : (lockSession id s).2 =
        { s with memory := { s.memory with inFlight := sessionLock id :: s.memory.inFlight } } := by simp [lockSession, free]
    rw [state]
    have taken : Orderly deps { s with memory := { s.memory with inFlight := sessionLock id :: s.memory.inFlight } } ms :=
      { orderly with locked := fun j d n other found locks => List.mem_cons_of_mem _ (orderly.locked j d n other found locks) }
    refine taken.set (fun other locks => ?_) (fun _ reads => by cases reads) fun _ same => by cases same
    -- A call that had this lock before would have its key in flight.
    cases locks
    exact ⟨List.mem_cons_self, fun j d n found held => absurd (orderly.locked j d n _ found held) free⟩
  | @unlock _ _ id locked =>
    have apart : Orderly deps s (ms.set i (c, some .apart)) :=
      orderly.weaken mode (fun _ locks => by cases locks) (fun _ reads => by cases reads) fun _ same => by cases same
    refine { apart with locked := ?_ }
    intro j d n other found locks
    refine List.mem_filter.mpr ⟨apart.locked j d n other found locks, ?_⟩
    have differ : sessionLock other ≠ sessionLock id := by
      intro same
      rw [sessionLock_inj] at same
      subst same
      rcases mode_of_set found with ⟨_, _, same⟩ | ⟨different, old⟩
      · cases same
        cases locks
      · exact different (orderly.alone j i d c n m other old mode locks locked)
    simpa using differ
  | draw =>
    have later : ∀ id, Drawn deps s id → Drawn deps { s with sessionsDrawn := s.sessionsDrawn + 1 } id := by
      rintro id ⟨n, old, rfl⟩
      exact ⟨n, Nat.lt_succ_of_lt old, rfl⟩
    -- The new id is not an older one.
    have new : ¬Drawn deps s (deps.sessionIds.newSessionId s.sessionsDrawn) := by
      rintro ⟨n, old, same⟩
      have same := deps.sessionIds.fresh same
      omega
    have drawn : Orderly deps { s with sessionsDrawn := s.sessionsDrawn + 1 } ms :=
      { orderly with
        drawn := fun id found => later id (orderly.drawn id found)
        fresh := fun j d id found => ⟨(orderly.fresh j d id found).1, later id (orderly.fresh j d id found).2⟩ }
    refine drawn.set (fun _ locks => by cases locks) (fun _ reads => by cases reads) fun id same => ?_
    cases same
    refine ⟨⟨?_, s.sessionsDrawn, Nat.lt_succ_self _, rfl⟩, fun j d found => absurd (orderly.fresh j d _ found).2 new⟩
    by_contra stored
    exact new (orderly.drawn _ stored)

theorem Orderly.others
    (modes : ∀ (i : Nat) c m, ms'[i]? = some (c, some m) → ms[i]? = some (c, some m) ∨
      (m.lock = none ∧ m.read = none ∧ ∀ id, m ≠ .fresh id)) : Orderly deps s ms' := by
  have locks : ∀ {i : Nat} {c : Request} {m : Stand} {id : String}, ms'[i]? = some (c, some m) → m.lock = some id →
      ms[i]? = some (c, some m) := by
    intro i c m id found locked
    rcases modes i c m found with old | ⟨free, _⟩
    · exact old
    · rw [free] at locked
      cases locked
  have own : ∀ {i : Nat} {c : Request} {id : String}, ms'[i]? = some (c, some (.fresh id)) →
      ms[i]? = some (c, some (.fresh id)) := by
    intro i c id found
    rcases modes i c _ found with old | ⟨_, _, other⟩
    · exact old
    · exact (other id rfl).elim
  constructor
  · exact orderly.ucp
  · exact orderly.kept
  · exact orderly.drawn
  · exact fun i c m id found locked => orderly.locked i c m id (locks found locked) locked
  · exact fun i j c d m n id foundi foundj lockedi lockedj =>
      orderly.alone i j c d m n id (locks foundi lockedi) (locks foundj lockedj) lockedi lockedj
  · intro i c m id found reads
    rcases modes i c m found with old | ⟨_, unread, _⟩
    · exact orderly.known i c m id old reads
    · rw [unread] at reads
      cases reads
  · exact fun i c id found => orderly.fresh i c id (own found)
  · exact fun i j c d id foundi foundj => orderly.once i j c d id (own foundi) (own foundj)

theorem Orderly.start (c : Request) : Orderly deps s (ms ++ [(c, some (.first c))]) := by
  apply orderly.others
  intro j d n found
  rcases mode_of_append found with ⟨_, _, same⟩ | old
  · cases same
    exact .inr (first_claims c)
  · exact .inl old

theorem Orderly.asks (mode : ms[i]? = some (c, some m)) (asks : Asks m o m') : Orderly deps s (ms.set i (c, some m')) := by
  have same : (m'.lock = m.lock ∧ m'.read = m.read ∧ ∀ id, m' = .fresh id → m = .fresh id) := by
    cases o with
    | settlePayment requirements transaction hold checkoutId =>
      obtain ⟨id, _, rfl, rfl⟩ := asks
      exact ⟨rfl, rfl, fun _ impossible => by cases impossible⟩
    | getSession id =>
      obtain ⟨_, rfl⟩ := asks
      exact ⟨rfl, rfl, fun _ same => same⟩
    | saveSession session =>
      obtain ⟨_, rfl⟩ := asks
      exact ⟨rfl, rfl, fun _ same => same⟩
    | _ =>
      cases asks
      exact ⟨rfl, rfl, fun _ same => same⟩
  obtain ⟨lock, read, fresh⟩ := same
  exact orderly.weaken mode (fun id locks => lock ▸ locks) (fun id reads => orderly.known i c m id mode (read ▸ reads)) fresh

theorem Orderly.finish (i : Nat) (c : Request) : Orderly deps s (ms.set i (c, none)) := by
  apply orderly.others
  intro j d n found
  rcases mode_of_set found with ⟨_, _, same⟩ | ⟨_, old⟩
  · cases same
  · exact .inl old

theorem Orderly.apart (sessions : s'.sessions = s.sessions) (drawn : s'.sessionsDrawn = s.sessionsDrawn) (ucp : UcpHolds s')
    (none_ : ∀ (i : Nat) c m, ms'[i]? ≠ some (c, some m)) : Orderly deps s' ms' where
  ucp := ucp
  kept := by
    rw [sessions]
    exact orderly.kept
  drawn id found := by
    rw [sessions] at found
    rw [Drawn, drawn]
    exact orderly.drawn id found
  locked i c m id found := (none_ i c m found).elim
  alone i j c d m n id found := (none_ i c m found).elim
  known i c m id found := (none_ i c m found).elim
  fresh i c id found := (none_ i c _ found).elim
  once i j c d id found := (none_ i c _ found).elim

theorem Orderly.crash : Orderly deps (restart s) (ms.map fun call => (call.1, none)) := by
  refine orderly.apart ?_ ?_ ?_ ?_
  · rfl
  · rfl
  · intro hold member
    simp [restart, Memory.opened] at member
  · intro i c m found
    cases mode_of_kill found

theorem Orderly.config {other : Deps} (ids : other.sessionIds = deps.sessionIds) : Orderly other s ms where
  ucp := orderly.ucp
  kept := orderly.kept
  drawn id found := by
    rw [Drawn, ids]
    exact orderly.drawn id found
  locked := orderly.locked
  alone := orderly.alone
  known := orderly.known
  fresh i c id found := by
    rw [Drawn, ids]
    exact orderly.fresh i c id found
  once := orderly.once

end

theorem untouched_outside (ucp : UcpHolds s) (k : Outside) : Untouched s (outside k s) := by
  cases k with
  | clock n => exact ⟨rfl, rfl, fun keyless => ⟨keyless, rfl⟩⟩
  | catalogue id product => exact ⟨rfl, rfl, fun keyless => ⟨keyless, rfl⟩⟩
  | restock id stock => exact ⟨rfl, rfl, fun keyless => ⟨keyless, rfl⟩⟩
  | close ticket =>
    have none_open : (s.memory.holds.any fun hold => hold.ticket = ticket && hold.x402) = false := by
      rw [List.any_eq_false]
      intro hold member
      simp [(ucp hold member).1]
    rw [outside, none_open]
    exact untouched_refl s

/-! ### Answers -/

variable {session : CheckoutSession}

theorem saves_kept (saves : Saves m session) : Kept session := by
  intro has
  cases m with
  | seen id => exact (has saves.1.2).elim
  | fresh id => exact (has saves.1.2).elim
  | live id => exact (has saves.2).elim
  | closed id => exact (has saves.1.2).elim
  | spent id => exact .inl saves.2
  | paid id settlement => exact .inr saves.2.1
  | apart | reader | unread | armed | paying | finished => exact saves.elim

/-- A stored version is one of a session that was read, or of the request's own new one. -/
theorem saves_of (saves : Saves m session) : m.read = some session.id ∨ m = .fresh session.id := by
  cases m with
  | seen id => exact .inl (congrArg some saves.1.1.symm)
  | fresh id => exact .inr (congrArg Stand.fresh saves.1.1.symm)
  | live id => exact .inl (congrArg some saves.1.symm)
  | closed id => exact .inl (congrArg some saves.1.1.symm)
  | spent id => exact .inl (congrArg some saves.1.symm)
  | paid id settlement => exact .inl (congrArg some saves.1.symm)
  | apart | reader | unread | armed | paying | finished => exact saves.elim

theorem saved_claims (m : Stand) (session : CheckoutSession) (answer : Except Failure Unit) :
    (∀ id, (m.saved session answer).lock = some id → m.lock = some id) ∧
      (∀ id, (m.saved session answer).read = some id → m.read = some id) ∧
      ∀ id, m.saved session answer ≠ .fresh id := by
  cases m with
  | live id =>
    cases answer with
    | error e => exact ⟨fun _ h => h, fun _ h => h, fun _ h => (by cases h)⟩
    | ok u =>
      rw [Stand.saved]
      split
      · exact ⟨fun _ h => h, fun _ h => h, fun _ h => (by cases h)⟩
      · exact ⟨fun _ h => h, fun _ h => h, fun _ h => (by cases h)⟩
  | spent id =>
    cases answer with
    | error e => exact ⟨fun _ h => h, fun _ h => (by cases h), fun _ h => (by cases h)⟩
    | ok u =>
      rw [Stand.saved]
      split
      · exact ⟨fun _ h => h, fun _ h => h, fun _ h => (by cases h)⟩
      · exact ⟨fun _ h => h, fun _ h => h, fun _ h => (by cases h)⟩
  | fresh id => exact ⟨fun _ h => (by cases h), fun _ h => (by cases h), fun _ h => (by cases h)⟩
  | apart | reader | seen | unread | armed | paying | paid | closed | finished =>
    exact ⟨fun _ h => h, fun _ h => h, fun _ h => (by cases h)⟩

theorem reads_claims (reading : m = .reader ∨ ∃ id, m = .unread id) (answer : Except Failure (Option CheckoutSession)) :
    (∀ id, (m.reads answer).lock = some id → m.lock = some id) ∧
      (∀ id, (m.reads answer).read = some id → ∃ session, answer = .ok (some session) ∧
        (m = .reader → id = session.id) ∧ (m = .reader ∨ m = .unread id)) ∧
      ∀ id, m.reads answer ≠ .fresh id := by
  rcases reading with rfl | ⟨id, rfl⟩
  · cases answer with
    | error e => exact ⟨fun _ h => h, fun _ h => (by cases h), fun _ h => (by cases h)⟩
    | ok found =>
      cases found with
      | none => exact ⟨fun _ h => h, fun _ h => (by cases h), fun _ h => (by cases h)⟩
      | some session =>
        refine ⟨fun _ h => (by cases h), fun id h => ⟨session, rfl, fun _ => ?_, .inl rfl⟩, fun _ h => (by cases h)⟩
        exact (Option.some.inj h).symm
  · cases answer with
    | error e => exact ⟨fun _ h => h, fun _ h => (by cases h), fun _ h => (by cases h)⟩
    | ok found =>
      cases found with
      | none => exact ⟨fun _ h => h, fun _ h => (by cases h), fun _ h => (by cases h)⟩
      | some session =>
        have mode : ∃ m', (Stand.unread id).reads (.ok (some session)) = m' ∧ m'.lock = some id ∧ m'.read = some id ∧
            ∀ other, m' ≠ .fresh other := by
          by_cases live : session.live = true
          · exact ⟨.live id, by simp [Stand.reads, live], rfl, rfl, fun _ h => (by cases h)⟩
          · cases has : session.settlement with
            | none => exact ⟨.closed id, by simp [Stand.reads, live, has], rfl, rfl, fun _ h => (by cases h)⟩
            | some settlement =>
              exact ⟨.paid id settlement, by simp [Stand.reads, live, has], rfl, rfl, fun _ h => (by cases h)⟩
        obtain ⟨m', same, lock, read, fresh⟩ := mode
        rw [same, lock, read]
        refine ⟨fun _ h => h, fun other h => ⟨session, rfl, (fun impossible => by cases impossible), .inr ?_⟩, fresh⟩
        exact congrArg Stand.unread (Option.some.inj h)

theorem untouched_of_frame (sessions : s'.sessions = s.sessions) (frame : Frame s s') : Untouched s s' := by
  obtain ⟨drawn, inFlight, holds⟩ := frame
  refine ⟨sessions, drawn, fun keyless => ⟨?_, inFlight⟩⟩
  rw [UcpHolds, holds]
  exact keyless

theorem Orderly.store (orderly : Orderly deps s ms) (mode : ms[i]? = some (c, some m)) (saves : Saves m session)
    (frame : Frame s s') (stored : s'.sessions = update s.sessions session.id (some session))
    (unclaimed : ∀ id, m ≠ .fresh id) : Orderly deps s' ms := by
  obtain ⟨drawn, inFlight, holds⟩ := frame
  have there : s.sessions session.id ≠ none := by
    rcases saves_of saves with read | fresh
    · exact orderly.known i c m session.id mode read
    · exact (unclaimed _ fresh).elim
  constructor
  · rw [UcpHolds, holds]
    exact orderly.ucp
  · intro id other found
    rw [stored, update_apply] at found
    split_ifs at found with same
    · cases found
      exact ⟨same.symm, saves_kept saves⟩
    · exact orderly.kept id other found
  · intro id found
    rw [Drawn, drawn]
    rw [stored, update_apply] at found
    split_ifs at found with same
    · exact same ▸ orderly.drawn session.id there
    · exact orderly.drawn id found
  · rw [inFlight]
    exact orderly.locked
  · exact orderly.alone
  · intro j d n id found reads
    rw [stored, update_apply]
    split_ifs
    · exact Option.some_ne_none _
    · exact orderly.known j d n id found reads
  · intro j d id found
    obtain ⟨free, given⟩ := orderly.fresh j d id found
    have other : id ≠ session.id := by
      rintro rfl
      exact there free
    rw [stored, update_of_ne other, Drawn, drawn]
    exact ⟨free, given⟩
  · exact orderly.once

theorem Orderly.storeNew (orderly : Orderly deps s ms) (mode : ms[i]? = some (c, some (.fresh session.id)))
    (saves : Saves (.fresh session.id) session) (frame : Frame s s')
    (stored : s'.sessions = update s.sessions session.id (some session)) :
    Orderly deps s' (ms.set i (c, some .apart)) := by
  obtain ⟨drawn, inFlight, holds⟩ := frame
  have apart : Orderly deps s (ms.set i (c, some .apart)) :=
    orderly.weaken mode (fun _ locks => by cases locks) (fun _ reads => by cases reads) fun _ same => by cases same
  obtain ⟨_, given⟩ := orderly.fresh i c session.id mode
  constructor
  · rw [UcpHolds, holds]
    exact apart.ucp
  · intro id other found
    rw [stored, update_apply] at found
    split_ifs at found with same
    · cases found
      exact ⟨same.symm, saves_kept saves⟩
    · exact apart.kept id other found
  · intro id found
    rw [Drawn, drawn]
    rw [stored, update_apply] at found
    split_ifs at found with same
    · exact same ▸ given
    · exact apart.drawn id found
  · rw [inFlight]
    exact apart.locked
  · exact apart.alone
  · intro j d n id found reads
    rw [stored, update_apply]
    split_ifs
    · exact Option.some_ne_none _
    · exact apart.known j d n id found reads
  · intro j d id found
    obtain ⟨free, own⟩ := apart.fresh j d id found
    have other : id ≠ session.id := by
      rintro rfl
      rcases mode_of_set found with ⟨_, _, same⟩ | ⟨different, old⟩
      · cases same
      · exact different (orderly.once j i d c _ old mode)
    rw [stored, update_of_ne other, Drawn, drawn]
    exact ⟨free, own⟩
  · exact apart.once

theorem Orderly.serve (orderly : Orderly deps s ms) {m₀ : Stand} {input : Input} {answer : Except Failure o.Answer}
    (mode : ms[i]? = some (c, some m)) (asks : Asks m₀ o m) (served : Gateway.serve o input s = some (answer, s')) :
    Expected o answer ∧ Orderly deps s' (ms.set i (c, some ((SessionWrites.sessions deps).answer m o answer))) := by
  obtain ⟨effect, frame⟩ := serve_effect served
  cases o with
  | getSession id =>
    obtain ⟨reading, rfl⟩ := asks
    obtain ⟨unchanged, found⟩ := effect
    have after := orderly.untouched (untouched_of_frame unchanged frame)
    have expected : Expected (.getSession id) answer := by
      cases answer with
      | error e => trivial
      | ok read =>
        cases read with
        | none => trivial
        | some session => exact orderly.kept id session (found _ rfl).symm
    refine ⟨expected, ?_⟩
    obtain ⟨lock, read, fresh⟩ := reads_claims (reading.imp_right fun same => ⟨id, same⟩) answer
    refine after.weaken mode lock (fun other reads => ?_) fun other same => (fresh other same).elim
    obtain ⟨session, rfl, seen, own⟩ := read other reads
    have stored := found _ rfl
    have same : other = id := by
      rcases reading with rfl | rfl
      · exact (seen rfl).trans expected.1
      · rcases own with impossible | same
        · cases impossible
        · exact (Stand.unread.inj same).symm
    rw [unchanged, same, ← stored]
    exact Option.some_ne_none _
  | saveSession session =>
    obtain ⟨saves, rfl⟩ := asks
    refine ⟨trivial, ?_⟩
    obtain ⟨lock, read, fresh⟩ := saved_claims m session answer
    rcases effect with stored | ⟨unchanged, _⟩
    · by_cases new : m = .fresh session.id
      · subst new
        exact orderly.storeNew mode saves frame stored
      · have unclaimed : ∀ id, m ≠ .fresh id := by
          rintro id rfl
          exact new (congrArg Stand.fresh saves.1.1.symm)
        have after := orderly.store mode saves frame stored unclaimed
        exact after.weaken mode lock (fun id reads => after.known i c m id mode (read id reads))
          fun id same => (fresh id same).elim
    · have after := orderly.untouched (untouched_of_frame unchanged frame)
      exact after.weaken mode lock (fun id reads => after.known i c m id mode (read id reads))
        fun id same => (fresh id same).elim
  | settlePayment requirements transaction hold checkoutId =>
    obtain ⟨id, rfl, rfl, rfl⟩ := asks
    refine ⟨trivial, ?_⟩
    have after := orderly.untouched (untouched_of_frame effect frame)
    have claims : (∀ other, (Stand.charged id (outcomeOf answer)).lock = some other → (Stand.paying id).lock = some other) ∧
        (∀ other, (Stand.charged id (outcomeOf answer)).read = some other → (Stand.paying id).read = some other) ∧
        ∀ other, Stand.charged id (outcomeOf answer) ≠ .fresh other := by
      cases outcomeOf answer <;> exact ⟨fun _ h => h, fun _ h => h, fun _ h => (by cases h)⟩
    exact after.weaken mode claims.1 (fun other reads => after.known i c _ other mode (claims.2.1 other reads))
      fun other same => (claims.2.2 other same).elim
  | _ =>
    refine ⟨trivial, ?_⟩
    change Orderly deps s' (ms.set i (c, some m))
    rw [set_same mode]
    exact orderly.untouched (untouched_of_frame effect frame)

end

end AgentPey.SessionLocks
