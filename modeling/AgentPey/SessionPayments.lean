import AgentPey.SessionLocks

/-!
A checkout session is charged once. Whatever a settlement was answered with, the same session is settled again only
when the answer was a definite refusal: from the moment a settlement is asked for until it is refused, the stored
version is not one that may be paid, and after any other answer it never is again.
-/
namespace AgentPey.SessionPayments
open Receipts CheckoutSessions Orders Routines Gateway PaidOrders UcpCheckout Disciplines SessionWrites SessionLocks

abbrev Seen := Event Request Op Failure Op.Answer Reply

/-- One more event in the list of calls whose settlement of a session was asked for and not refused. -/
def pending (id : String) (calls : List Nat) : Seen → List Nat
  | .asked i _ (.settlePayment _ _ _ checkoutId) => if checkoutId = some id then i :: calls else calls
  | .answered i _ (.settlePayment _ _ _ checkoutId) answer =>
    if checkoutId = some id ∧ (outcomeOf answer).isRefused then calls.erase i else calls
  | _ => calls

/-- The calls whose settlement of a session may have moved money. -/
def unrefused (id : String) (t : List Seen) : List Nat := t.foldl (pending id) []

theorem unrefused_append (id : String) (t : List Seen) (e : Seen) :
    unrefused id (t ++ [e]) = pending id (unrefused id t) e := by
  rw [unrefused, List.foldl_append]
  rfl

variable {t : List Seen} {e : Seen}

theorem unrefused_other {id : String} (other : ∀ calls, pending id calls e = calls) :
    unrefused id (t ++ [e]) = unrefused id t := by
  rw [unrefused_append, other]

/-- What a request's mode says of the settlements of its session. -/
def Owes (s : Storefront) (t : List Seen) (i : Nat) : Stand → Prop
  | .live id => unrefused id t = []
  | .armed id => unrefused id t = [] ∧ ∃ session, s.sessions id = some session ∧ session.live = false
  | .paying id => unrefused id t = [i]
  | _ => True

/-- A session is settled only when all its settlements so far were refused. -/
def SettledOnce (t : List Seen) : Prop :=
  ∀ before i c requirements transaction hold id after,
    t = before ++ .asked i c (.settlePayment requirements transaction hold (some id)) :: after → unrefused id before = []

variable (deps : Deps)

structure Charged (s : Storefront) (ms : Modes) (t : List Seen) : Prop where
  orderly : Orderly deps s ms
  closed : ∀ id, unrefused id t ≠ [] → ∃ session, s.sessions id = some session ∧ session.live = false
  owes : ∀ (i : Nat) c m, ms[i]? = some (c, some m) → Owes s t i m
  once : SettledOnce t
  one : ∀ id, (unrefused id t).length ≤ 1

theorem settledOnce_append (once : SettledOnce t) (last : ∀ i c requirements transaction hold id,
      e = .asked i c (.settlePayment requirements transaction hold (some id)) → unrefused id t = []) :
    SettledOnce (t ++ [e]) := by
  intro before i c requirements transaction hold id after split
  rcases List.eq_nil_or_concat after with rfl | ⟨front, back, rfl⟩
  · obtain ⟨rfl, same⟩ := List.append_inj' split rfl
    exact last i c requirements transaction hold id (List.cons.inj same).1
  · rw [List.concat_eq_append, ← List.cons_append, ← List.append_assoc] at split
    obtain ⟨rfl, _⟩ := List.append_inj' split rfl
    exact once before i c requirements transaction hold id front rfl

theorem Owes.same {s s' : Storefront} {t' : List Seen} {i : Nat} {m : Stand} (owes : Owes s t i m)
    (sessions : s'.sessions = s.sessions) (events : ∀ id, unrefused id t' = unrefused id t) : Owes s' t' i m := by
  cases m with
  | live id => exact (events id).trans owes
  | armed id => exact ⟨(events id).trans owes.1, by rw [sessions]; exact owes.2⟩
  | paying id => exact (events id).trans owes
  | apart | reader | seen | fresh | unread | spent | paid | closed | finished => trivial

/-! ### The steps -/

section
variable {deps} {s s' : Storefront} {ms : Modes} {t : List Seen}
variable {session : CheckoutSession}

variable {id : String} {ms' : Modes} {m : Stand} {t' : List Seen} {o : Op} {answer : Except Failure Unit}

theorem Charged.unpaid (charged : Charged deps s ms t) (stored : s.sessions id = some session)
    (live : session.live = true) : unrefused id t = [] := by
  by_contra some_
  obtain ⟨other, found, finished⟩ := charged.closed id some_
  rw [stored] at found
  cases found
  simp [live] at finished

theorem Charged.aside (charged : Charged deps s ms t) {e : List Seen} (orderly : Orderly deps s' ms')
    (sessions : s'.sessions = s.sessions) (events : ∀ id, unrefused id (t ++ e) = unrefused id t) (once : SettledOnce (t ++ e))
    (modes : ∀ (i : Nat) c m, ms'[i]? = some (c, some m) →
      ms[i]? = some (c, some m) ∨ Owes s' (t ++ e) i m) : Charged deps s' ms' (t ++ e) where
  orderly := orderly
  closed id some_ := by
    rw [events] at some_
    rw [sessions]
    exact charged.closed id some_
  owes i c m found := by
    rcases modes i c m found with old | free
    · exact (charged.owes i c m old).same sessions events
    · exact free
  once := once
  one id := by
    rw [events]
    exact charged.one id

variable {i : Nat} {c : Request}

theorem Charged.moves (charged : Charged deps s ms t) {m' : Stand} (mode : ms[i]? = some (c, some m))
    (moves : Moves deps m s s' m') : Charged deps s' (ms.set i (c, some m')) t := by
  have orderly := charged.orderly.moves mode moves
  have aside := charged.aside (e := []) orderly ?_ (fun id => by rw [List.append_nil]) (by simpa using charged.once) ?_
  · simpa using aside
  · cases moves with
    | untouched same => exact same.1
    | @lock s id free => simp [lockSession, free]
    | unlock locked => rfl
    | draw => rfl
  · intro j d n found
    rcases mode_of_set found with ⟨rfl, rfl, same⟩ | ⟨_, old⟩
    · cases same
      cases moves with
      | untouched same => exact .inl mode
      | lock free => exact .inr trivial
      | unlock locked => exact .inr trivial
      | draw => exact .inr trivial
    · exact .inl old

theorem others_aside (orderly : Orderly deps s ms) {i j : Nat} {c d : Request} {n : Stand} (mode : ms[i]? = some (c, some m))
    (locked : m.lock = some id) (found : ms[j]? = some (d, some n)) (different : j ≠ i) (owes : Owes s t j n)
    (stored : ∀ other, other ≠ id → s'.sessions other = s.sessions other)
    (events : ∀ other, other ≠ id → unrefused other t' = unrefused other t) : Owes s' t' j n := by
  have apart : ∀ other, n.lock = some other → other ≠ id := by
    rintro other locks rfl
    exact different (orderly.alone j i d c n m other found mode locks locked)
  cases n with
  | live other => exact (events other (apart other rfl)).trans owes
  | armed other =>
    refine ⟨(events other (apart other rfl)).trans owes.1, ?_⟩
    rw [stored other (apart other rfl)]
    exact owes.2
  | paying other => exact (events other (apart other rfl)).trans owes
  | apart | reader | seen | fresh | unread | spent | paid | closed | finished => trivial

theorem Charged.asks (charged : Charged deps s ms t) {m' : Stand} (mode : ms[i]? = some (c, some m)) (asks : Asks m o m') :
    Charged deps s (ms.set i (c, some m')) (t ++ [.asked i c o]) := by
  have orderly := charged.orderly.asks mode asks
  by_cases settles : ∃ requirements transaction hold checkoutId, o = .settlePayment requirements transaction hold checkoutId
  · obtain ⟨requirements, transaction, hold, checkoutId, rfl⟩ := settles
    obtain ⟨id, rfl, rfl, rfl⟩ := asks
    obtain ⟨clear, stored⟩ := charged.owes i c _ mode
    have now : unrefused id (t ++ [.asked i c (.settlePayment requirements transaction hold (some id))]) = [i] := by
      rw [unrefused_append, pending, if_pos rfl, clear]
    have others : ∀ other, other ≠ id →
        unrefused other (t ++ [.asked i c (.settlePayment requirements transaction hold (some id))]) = unrefused other t := by
      intro other different
      rw [unrefused_append, pending, if_neg (fun same => different (Option.some.inj same).symm)]
    refine ⟨orderly, ?_, ?_, ?_, ?_⟩
    · intro other some_
      by_cases same : other = id
      · exact same ▸ stored
      · rw [others other same] at some_
        exact charged.closed other some_
    · intro j d n found
      rcases mode_of_set found with ⟨rfl, rfl, same⟩ | ⟨different, old⟩
      · cases same
        exact now
      · exact others_aside charged.orderly mode rfl old different (charged.owes j d n old) (fun _ _ => rfl) others
    · refine settledOnce_append charged.once fun j d _ _ _ other same => ?_
      cases same
      exact clear
    · intro other
      by_cases same : other = id
      · rw [same, now]
        exact Nat.le_refl 1
      · rw [others other same]
        exact charged.one other
  · have other : ∀ id calls, pending id calls (.asked i c o : Seen) = calls := by
      intro id calls
      cases o with
      | settlePayment requirements transaction hold checkoutId => exact (settles ⟨_, _, _, _, rfl⟩).elim
      | _ => rfl
    have same : m' = m := by
      cases o with
      | settlePayment requirements transaction hold checkoutId => exact (settles ⟨_, _, _, _, rfl⟩).elim
      | getSession id => exact asks.2
      | saveSession session => exact asks.2
      | _ => exact asks
    subst same
    apply charged.aside orderly rfl
    · exact fun id => unrefused_other (other id)
    · refine settledOnce_append charged.once fun j d requirements transaction hold id same => ?_
      cases same
      exact (settles ⟨_, _, _, _, rfl⟩).elim
    · intro j d n found
      rw [set_same mode] at found
      exact .inl found

theorem Charged.finish (charged : Charged deps s ms t) (i : Nat) (c : Request) (result : Except Failure Reply) :
    Charged deps s (ms.set i (c, none)) (t ++ [.finished i c result]) := by
  apply charged.aside (charged.orderly.finish i c) rfl
  · exact fun id => unrefused_other fun _ => rfl
  · exact settledOnce_append charged.once fun _ _ _ _ _ _ same => by cases same
  · intro j d n found
    rcases mode_of_set found with ⟨_, _, same⟩ | ⟨_, old⟩
    · cases same
    · exact .inl old

/-- While a settlement of its session may have moved money, a request stores no version that may be paid. -/
theorem Charged.saves_closed (charged : Charged deps s ms t) (mode : ms[i]? = some (c, some m)) (saves : Saves m session)
    (some_ : unrefused session.id t ≠ []) : session.live = false := by
  cases m with
  | seen id => simp [CheckoutSession.live, saves.2]
  | fresh id =>
    obtain ⟨stored, found, _⟩ := charged.closed session.id some_
    rw [saves.1.1, (charged.orderly.fresh i c id mode).1] at found
    cases found
  | live id =>
    have clear : unrefused id t = [] := charged.owes i c _ mode
    rw [saves.1] at some_
    exact (some_ clear).elim
  | closed id => simp [CheckoutSession.live, saves.2]
  | spent id => simp [CheckoutSession.live, saves.2]
  | paid id settlement => simp [CheckoutSession.live, saves.2.1]
  | apart | reader | unread | armed | paying | finished => exact saves.elim

theorem owes_saved (saves : Saves m session) (owes : Owes s t i m)
    (stored : answer = .ok ⟨⟩ → s'.sessions session.id = some session) : Owes s' t i (m.saved session answer) := by
  cases m with
  | live id =>
    cases answer with
    | error e => exact owes
    | ok u =>
      rw [Stand.saved]
      split
      · rename_i busy
        refine ⟨owes, session, ?_, by simp [CheckoutSession.live, busy]⟩
        rw [← stored rfl, saves.1]
      · exact owes
  | spent id =>
    cases answer with
    | error e => trivial
    | ok u =>
      rw [Stand.saved]
      split <;> trivial
  | paid id settlement => trivial
  | seen | fresh | closed => trivial
  | apart | reader | unread | armed | paying | finished => exact saves.elim

section
variable (charged : Charged deps s ms t)
include charged

theorem Charged.stores (mode : ms[i]? = some (c, some m)) (saves : Saves m session)
    (orderly : Orderly deps s' (ms.set i (c, some (m.saved session answer))))
    (effect : Effect s s' (.saveSession session) answer) :
    Charged deps s' (ms.set i (c, some (m.saved session answer))) (t ++ [.answered i c (.saveSession session) answer]) := by
  have events : ∀ id, unrefused id (t ++ [.answered i c (.saveSession session) answer]) = unrefused id t :=
    fun id => unrefused_other fun _ => rfl
  have once := settledOnce_append (e := .answered i c (.saveSession session) answer) charged.once
    fun _ _ _ _ _ _ same => by cases same
  rcases effect with stored | ⟨unchanged, e, rfl⟩
  · refine ⟨orderly, ?_, ?_, once, fun id => by rw [events]; exact charged.one id⟩
    · intro id some_
      rw [events] at some_
      rw [stored, Function.update_apply]
      split_ifs with same
      · exact ⟨session, rfl, charged.saves_closed mode saves (same ▸ some_)⟩
      · exact charged.closed id some_
    · intro j d n found
      rcases mode_of_set found with ⟨here, rfl, same⟩ | ⟨different, old⟩
      · cases same
        have owes : Owes s _ i m := (charged.owes i _ m mode).same rfl events
        rw [here]
        exact owes_saved saves owes fun _ => by rw [stored, Function.update_self]
      · have owes := charged.owes j d n old
        cases n with
        | armed id =>
          refine ⟨(events id).trans owes.1, ?_⟩
          rw [stored, Function.update_apply]
          split_ifs with same
          · refine ⟨session, rfl, ?_⟩
            -- Another request that stores a version of a locked session has only seen it.
            cases m with
            | seen other => simp [CheckoutSession.live, saves.2]
            | fresh other =>
              have none_ := (charged.orderly.fresh i c other mode).1
              have some_ := charged.orderly.known j d _ id old rfl
              rw [same, saves.1.1] at some_
              exact (some_ none_).elim
            | live other | spent other | paid other =>
              exact (different (charged.orderly.alone j i d c _ _ id old mode rfl (by rw [same, saves.1]; rfl))).elim
            | closed other =>
              exact (different (charged.orderly.alone j i d c _ _ id old mode rfl (by rw [same, saves.1.1]; rfl))).elim
            | apart | reader | unread | armed | paying | finished => exact saves.elim
          · exact owes.2
        | live id => exact (events id).trans owes
        | paying id => exact (events id).trans owes
        | apart | reader | seen | fresh | unread | spent | paid | closed | finished => trivial
  · apply charged.aside orderly unchanged events once
    intro j d n found
    rcases mode_of_set found with ⟨here, rfl, same⟩ | ⟨_, old⟩
    · cases same
      have owes : Owes s _ i m := (charged.owes i _ m mode).same rfl events
      rw [here]
      exact .inr (owes_saved saves owes fun impossible => by cases impossible)
    · exact .inl old

theorem Charged.settles {transaction : String} {requirements : StoredRequirements} {hold : Hold}
    {answer : Except Failure SettleResponse} (mode : ms[i]? = some (c, some (.paying id)))
    (sessions : s'.sessions = s.sessions) (orderly : Orderly deps s' (ms.set i (c, some ((Stand.paying id).settles answer)))) :
    Charged deps s' (ms.set i (c, some ((Stand.paying id).settles answer)))
      (t ++ [.answered i c (.settlePayment requirements transaction hold (some id)) answer]) := by
  have asked : unrefused id t = [i] := charged.owes i c _ mode
  have now : unrefused id (t ++ [.answered i c (.settlePayment requirements transaction hold (some id)) answer]) =
      if (outcomeOf answer).isRefused then [] else [i] := by
    rw [unrefused_append, pending, asked]
    cases outcomeOf answer <;> simp [SettleOutcome.isRefused]
  have others : ∀ other, other ≠ id →
      unrefused other (t ++ [.answered i c (.settlePayment requirements transaction hold (some id)) answer]) =
        unrefused other t := by
    intro other different
    rw [unrefused_append, pending, if_neg (fun both => different (Option.some.inj both.1).symm)]
  have once := settledOnce_append (e := .answered i c (.settlePayment requirements transaction hold (some id)) answer)
    charged.once fun _ _ _ _ _ _ same => by cases same
  refine ⟨orderly, ?_, ?_, once, ?_⟩
  · intro other some_
    rw [sessions]
    by_cases same : other = id
    · apply charged.closed other
      rw [same, asked]
      exact List.cons_ne_nil _ _
    · rw [others other same] at some_
      exact charged.closed other some_
  · intro j d n found
    rcases mode_of_set found with ⟨rfl, rfl, same⟩ | ⟨different, old⟩
    · cases same
      rw [Stand.settles]
      cases outcome : outcomeOf answer with
      | refused reason =>
        rw [outcome] at now
        exact now
      | settled response => trivial
      | unknown reason named => trivial
    · exact others_aside charged.orderly mode rfl old different (charged.owes j d n old)
        (fun _ _ => congrFun sessions _) others
  · intro other
    by_cases same : other = id
    · rw [same, now]
      split_ifs
      · exact Nat.zero_le 1
      · exact Nat.le_refl 1
    · rw [others other same]
      exact charged.one other

theorem Charged.owes_reads {answer : Except Failure (Option CheckoutSession)} (reading : m = .reader ∨ m = .unread id)
    (found : ∀ read, answer = .ok read → read = s.sessions id)
    (events : ∀ other, unrefused other t' = unrefused other t) : Owes s' t' i (m.reads answer) := by
  rcases reading with rfl | rfl
  · cases answer with
    | error e => trivial
    | ok read => cases read <;> trivial
  · cases answer with
    | error e => trivial
    | ok read =>
      cases read with
      | none => trivial
      | some session =>
        by_cases live : session.live = true
        · have mode : (Stand.unread id).reads (.ok (some session)) = .live id := by simp [Stand.reads, live]
          rw [mode]
          exact (events id).trans (charged.unpaid (found _ rfl).symm live)
        · cases has : session.settlement with
          | none =>
            have mode : (Stand.unread id).reads (.ok (some session)) = .closed id := by simp [Stand.reads, live, has]
            rw [mode]
            trivial
          | some settlement =>
            have mode : (Stand.unread id).reads (.ok (some session)) = .paid id settlement := by
              simp [Stand.reads, live, has]
            rw [mode]
            trivial

theorem Charged.serve {m₀ : Stand} {input : Input} {answer : Except Failure o.Answer} (mode : ms[i]? = some (c, some m))
    (asks : Asks m₀ o m) (served : Gateway.serve o input s = some (answer, s')) : Expected o answer ∧
      Charged deps s' (ms.set i (c, some ((SessionWrites.sessions deps).answer m o answer))) (t ++ [.answered i c o answer]) := by
  obtain ⟨expected, orderly⟩ := charged.orderly.serve mode asks served
  obtain ⟨effect, _⟩ := serve_effect served
  refine ⟨expected, ?_⟩
  cases o with
  | saveSession session =>
    obtain ⟨saves, rfl⟩ := asks
    exact charged.stores mode saves orderly effect
  | settlePayment requirements transaction hold checkoutId =>
    obtain ⟨id, rfl, rfl, rfl⟩ := asks
    exact charged.settles mode effect orderly
  | getSession id =>
    obtain ⟨reading, rfl⟩ := asks
    obtain ⟨unchanged, found⟩ := effect
    apply charged.aside orderly unchanged (fun id => unrefused_other fun _ => rfl)
    · exact settledOnce_append charged.once fun _ _ _ _ _ _ same => by cases same
    · intro j d n read
      rcases mode_of_set read with ⟨_, _, same⟩ | ⟨_, old⟩
      · have mode_ : n = m.reads answer := Option.some.inj same
        rw [mode_]
        exact .inr (charged.owes_reads reading found fun _ => unrefused_other fun _ => rfl)
      · exact .inl old
  | _ =>
    apply charged.aside orderly effect (fun id => unrefused_other fun _ => rfl)
    · exact settledOnce_append charged.once fun _ _ _ _ _ _ same => by cases same
    · intro j d n found
      change (ms.set i (c, some m))[j]? = some (d, some n) at found
      rw [set_same mode] at found
      exact .inl found

theorem Charged.start (c : Request) : Charged deps s (ms ++ [(c, some (.first c))]) t := by
  have aside := charged.aside (e := []) (charged.orderly.start c) rfl (fun id => by rw [List.append_nil])
    (by simpa using charged.once) ?_
  · simpa using aside
  · intro j d n found
    rcases mode_of_append found with ⟨_, rfl, same⟩ | old
    · have mode : n = .first d := Option.some.inj same
      rw [mode]
      right
      cases d <;> trivial
    · exact .inl old

theorem Charged.outside (k : Outside) : Charged deps (Gateway.outside k s) ms t := by
  have untouched := untouched_outside charged.orderly.ucp k
  have aside := charged.aside (e := []) (charged.orderly.untouched untouched) untouched.1
    (fun id => by rw [List.append_nil]) (by simpa using charged.once) fun _ _ _ found => .inl found
  simpa using aside

theorem Charged.enter : Charged deps s (ms.set i (c, some (.first c))) t := by
  have orderly : Orderly deps s (ms.set i (c, some (.first c))) := by
    apply charged.orderly.others
    intro j d n found
    rcases mode_of_set found with ⟨_, _, same⟩ | ⟨_, old⟩
    · cases same
      exact .inr (first_claims c)
    · exact .inl old
  have aside := charged.aside (e := []) orderly rfl (fun id => by rw [List.append_nil]) (by simpa using charged.once) ?_
  · simpa using aside
  · intro j d n found
    rcases mode_of_set found with ⟨_, rfl, same⟩ | ⟨_, old⟩
    · have mode : n = .first d := Option.some.inj same
      rw [mode]
      right
      cases d <;> trivial
    · exact .inl old

theorem Charged.apart (sessions : s'.sessions = s.sessions) (drawn : s'.sessionsDrawn = s.sessionsDrawn) (ucp : UcpHolds s')
    (none_ : ∀ (i : Nat) c m, ms'[i]? ≠ some (c, some m)) : Charged deps s' ms' t where
  orderly := charged.orderly.apart sessions drawn ucp none_
  closed := by
    rw [sessions]
    exact charged.closed
  owes i c m found := (none_ i c m found).elim
  once := charged.once
  one := charged.one

theorem Charged.config {other : Deps} (ids : other.sessionIds = deps.sessionIds) : Charged other s ms t where
  orderly := charged.orderly.config ids
  closed := charged.closed
  owes := charged.owes
  once := charged.once
  one := charged.one

theorem Charged.crash : Charged deps (restart s) (ms.map fun call => (call.1, none)) t where
  orderly := charged.orderly.crash
  closed := charged.closed
  owes i c m found := by cases mode_of_kill found
  once := charged.once
  one := charged.one

end

end

/-! ### Whole runs -/

theorem charged_opened (opensAt : Int) (platform : Platform) : Charged deps (opened opensAt platform) [] [] where
  orderly := orderly_opened deps opensAt platform
  closed id some_ := (some_ rfl).elim
  owes i c m found := by simp at found
  once before i c requirements transaction hold id after split := by simp at split
  one id := Nat.zero_le 1

theorem keeps_charged :
    Keeps (host deps) (sessions deps) Ends (Charged deps) (fun _ => Charged deps) fun _ _ _ => True where
  start charged _ _ := ⟨_, follows_route _, charged.start _⟩
  resume charged _ _ := charged
  sync charged mode step := charged.moves mode step
  ask charged mode asks _ _ _ := charged.asks mode asks
  serve charged _ mode _ _ asks served := charged.serve mode asks served
  finish charged _ _ _ _ := charged.finish _ _ _
  outside charged _ := charged.outside _
  crash charged _ _ := charged.crash

/-- In every run of one app, with crashes anywhere, a session is settled again only when each of its settlements so far
    was definitely refused, and so at most one of them may have moved money. -/
theorem settled_once (opensAt : Int) (platform : Platform) (actions : List (Action Request Input Outside)) :
    let t := (Traces.exec (step (host deps)) ⟨opened opensAt platform, []⟩ actions).2
    SettledOnce t ∧ ∀ id, (unrefused id t).length ≤ 1 := by
  have start : Holds (sessions deps) Ends (Charged deps) ⟨opened opensAt platform, []⟩ [] :=
    ⟨[], charged_opened deps opensAt platform, aligned_nil⟩
  obtain ⟨ms, charged, _⟩ := kept_along (keeps_charged deps) start actions fun _ _ _ _ => trivial
  exact ⟨charged.once, charged.one⟩

end AgentPey.SessionPayments
