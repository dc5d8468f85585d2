import AgentPey.SessionLocks

/-!
What becomes of a session once its payment is stored. A request under the session's lock stores nothing over a
settlement but the same settlement. A read has no lock: it stores an expired version canceled, whenever that write comes
through. While no such write comes over a settlement, a paid session stays paid.
-/
namespace AgentPey.PaidSessions
open Receipts CheckoutSessions Orders Routines Gateway PaidOrders UcpCheckout Disciplines SessionWrites SessionLocks

def Settled (s : Storefront) (id : String) (settlement : Settlement) : Prop :=
  ∃ stored, s.sessions id = some stored ∧ stored.settlement = some settlement

def Unsettled (s : Storefront) (id : String) : Prop := ∀ stored, s.sessions id = some stored → stored.settlement = none

instance (s : Storefront) (id : String) (settlement : Settlement) : Decidable (Settled s id settlement) :=
  decidable_of_iff ((s.sessions id).bind CheckoutSession.settlement = some settlement) Option.bind_eq_some_iff

def isRead : Request → Bool
  | .read .. => true
  | _ => false

/-- What a read stores, the version it found expired, comes over no settlement. -/
def timely (w : System Request Storefront Op Failure Op.Answer Reply) : Action Request Input Outside → Bool
  | .perform i _ =>
    match w.calls[i]? with
    | some (c, .waiting (.saveSession session) _) =>
      !isRead c || ((w.shared.sessions session.id).bind CheckoutSession.settlement).isNone
    | _ => true
  | _ => true

theorem timely_perform {w : System Request Storefront Op Failure Op.Answer Reply} {i : Nat} {input : Input} {c : Request}
    {session : CheckoutSession} {rest} (inTime : timely w (.perform i input))
    (here : w.calls[i]? = some (c, .waiting (.saveSession session) rest)) (read : isRead c) :
    Unsettled w.shared session.id := by
  intro stored found
  simpa [timely, here, read, found] using inTime

/-- What a request's mode says of the stored version, and of the request. -/
def Agrees (s : Storefront) (c : Request) : Stand → Prop
  | .reader => isRead c
  | .seen _ => isRead c
  | .live id => Unsettled s id
  | .armed id => Unsettled s id
  | .paying id => Unsettled s id
  | .spent id => Unsettled s id
  | .closed id => Unsettled s id
  | .paid id settlement => Settled s id settlement
  | _ => True

variable (deps : Deps)

/-- `past` is a settlement that was stored at some point before. -/
structure Paid (past : Option (String × Settlement)) (s : Storefront) (ms : Modes) : Prop where
  orderly : Orderly deps s ms
  agrees : ∀ (i : Nat) c m, ms[i]? = some (c, some m) → Agrees s c m
  past : ∀ id settlement, past = some (id, settlement) → Settled s id settlement

section
variable {deps} {past : Option (String × Settlement)} {s s' : Storefront} {ms : Modes}

variable {id : String} {settlement : Settlement} {o : Op} {answer : Except Failure Unit}

theorem settled_unique {a b : Settlement} (first : Settled s id a) (second : Settled s id b) : a = b := by
  obtain ⟨stored, found, has⟩ := first
  obtain ⟨other, again, also⟩ := second
  rw [found] at again
  cases again
  rw [has] at also
  exact Option.some.inj also

theorem not_settled (unsettled : Unsettled s id) : ¬Settled s id settlement := by
  rintro ⟨stored, found, has⟩
  simp [unsettled stored found] at has

variable {c : Request} {m : Stand}

theorem Agrees.same (agrees : Agrees s c m) (sessions : s'.sessions = s.sessions) : Agrees s' c m := by
  unfold Agrees Settled Unsettled at agrees ⊢
  rw [sessions]
  exact agrees

theorem Paid.aside (paid : Paid deps past s ms) {ms' : Modes} (orderly : Orderly deps s' ms')
    (sessions : s'.sessions = s.sessions)
    (modes : ∀ (i : Nat) c m, ms'[i]? = some (c, some m) → ms[i]? = some (c, some m) ∨ Agrees s' c m) :
    Paid deps past s' ms' where
  orderly := orderly
  agrees i c m found := by
    rcases modes i c m found with old | free
    · exact (paid.agrees i c m old).same sessions
    · exact free
  past id settlement was := by
    rw [Settled, sessions]
    exact paid.past id settlement was

variable {i : Nat}

section
variable (paid : Paid deps past s ms)
include paid

theorem Paid.moves {m m' : Stand} (mode : ms[i]? = some (c, some m))
    (moves : Moves deps m s s' m') : Paid deps past s' (ms.set i (c, some m')) := by
  have orderly := paid.orderly.moves mode moves
  cases moves with
  | untouched same =>
    rw [set_same mode] at orderly ⊢
    exact paid.aside orderly same.1 fun _ _ _ found => .inl found
  | @lock _ id free =>
    apply paid.aside orderly (by simp [lockSession, free])
    intro j d n found
    rcases mode_of_set found with ⟨_, _, same⟩ | ⟨_, old⟩
    · cases same
      exact .inr trivial
    · exact .inl old
  | unlock locked =>
    apply paid.aside orderly rfl
    intro j d n found
    rcases mode_of_set found with ⟨_, _, same⟩ | ⟨_, old⟩
    · cases same
      exact .inr trivial
    · exact .inl old
  | draw =>
    apply paid.aside orderly rfl
    intro j d n found
    rcases mode_of_set found with ⟨_, _, same⟩ | ⟨_, old⟩
    · cases same
      exact .inr trivial
    · exact .inl old

theorem Paid.asks {m m' : Stand} (mode : ms[i]? = some (c, some m))
    (asks : Asks m o m') : Paid deps past s (ms.set i (c, some m')) := by
  have agrees : Agrees s c m' := by
    have before := paid.agrees i c m mode
    cases o with
    | settlePayment requirements transaction hold checkoutId =>
      obtain ⟨id, _, rfl, rfl⟩ := asks
      exact before
    | getSession id =>
      obtain ⟨_, rfl⟩ := asks
      exact before
    | saveSession session =>
      obtain ⟨_, rfl⟩ := asks
      exact before
    | _ =>
      cases asks
      exact before
  apply paid.aside (paid.orderly.asks mode asks) rfl
  intro j d n found
  rcases mode_of_set found with ⟨_, rfl, same⟩ | ⟨_, old⟩
  · cases same
    exact .inr agrees
  · exact .inl old

theorem Paid.start (c : Request) : Paid deps past s (ms ++ [(c, some (.first c))]) := by
  apply paid.aside (paid.orderly.start c) rfl
  intro j d n found
  rcases mode_of_append found with ⟨_, rfl, same⟩ | old
  · have mode : n = .first d := Option.some.inj same
    rw [mode]
    right
    cases d <;> first | exact rfl | trivial
  · exact .inl old

theorem Paid.finish (i : Nat) (c : Request) : Paid deps past s (ms.set i (c, none)) := by
  apply paid.aside (paid.orderly.finish i c) rfl
  intro j d n found
  rcases mode_of_set found with ⟨_, _, same⟩ | ⟨_, old⟩
  · cases same
  · exact .inl old

theorem Paid.outside (k : Outside) : Paid deps past (Gateway.outside k s) ms := by
  have untouched := untouched_outside paid.orderly.ucp k
  exact paid.aside (paid.orderly.untouched untouched) untouched.1 fun _ _ _ found => .inl found

theorem Paid.crash : Paid deps past (restart s) (ms.map fun call => (call.1, none)) where
  orderly := paid.orderly.crash
  agrees i c m found := by cases mode_of_kill found
  past := paid.past

end

/-! ### Answers -/

variable {session : CheckoutSession}

theorem Paid.saves_settled (paid : Paid deps past s ms) (mode : ms[i]? = some (c, some m)) (saves : Saves m session)
    (timely : isRead c → Unsettled s session.id) (settled : Settled s session.id settlement)
    : session.settlement = some settlement := by
  have agrees := paid.agrees i c m mode
  cases m with
  | seen id => exact (not_settled (timely agrees) settled).elim
  | fresh id =>
    obtain ⟨stored, found, _⟩ := settled
    rw [saves.1.1, (paid.orderly.fresh i c id mode).1] at found
    cases found
  | live id =>
    rw [saves.1] at settled
    exact (not_settled agrees settled).elim
  | closed id =>
    rw [saves.1.1] at settled
    exact (not_settled agrees settled).elim
  | spent id =>
    rw [saves.1] at settled
    exact (not_settled agrees settled).elim
  | paid id other =>
    obtain ⟨same, _, has⟩ := saves
    rw [same] at settled
    rw [has, settled_unique settled agrees]
  | apart | reader | unread | armed | paying | finished => exact saves.elim

/-- Besides the request that has the lock of a session, only a read stores a version of it. -/
theorem saver_seen (orderly : Orderly deps s ms) {i j : Nat} {c d : Request} {m n : Stand}
    (mode : ms[i]? = some (c, some m)) (saves : Saves m session) (found : ms[j]? = some (d, some n)) (different : j ≠ i)
    (locks : n.lock = some session.id) (reads : n.read = some session.id) : ∃ id, m = .seen id := by
  have apart : m.lock ≠ some session.id := fun also => different (orderly.alone j i d c n m _ found mode locks also)
  cases m with
  | seen id => exact ⟨id, rfl⟩
  | fresh id =>
    have free := (orderly.fresh i c id mode).1
    rw [← saves.1.1] at free
    exact (orderly.known j d n session.id found reads free).elim
  | live id => exact (apart (congrArg some saves.1.symm)).elim
  | closed id => exact (apart (congrArg some saves.1.1.symm)).elim
  | spent id => exact (apart (congrArg some saves.1.symm)).elim
  | paid id settlement => exact (apart (congrArg some saves.1.symm)).elim
  | apart | reader | unread | armed | paying | finished => exact saves.elim

theorem agrees_saved (saves : Saves m session) (agrees : Agrees s c m)
    (effect : Effect s s' (.saveSession session) answer) : Agrees s' c (m.saved session answer) := by
  have none_stored : session.settlement = none → Unsettled s session.id → Unsettled s' session.id := by
    intro unpaid unsettled stored found
    rcases effect with updated | ⟨unchanged, _⟩
    · rw [updated, Function.update_self] at found
      cases found
      exact unpaid
    · rw [unchanged] at found
      exact unsettled stored found
  cases m with
  | seen id => exact agrees
  | fresh id => trivial
  | live id =>
    obtain ⟨rfl, unpaid⟩ := saves
    have after := none_stored unpaid agrees
    cases answer with
    | error e => exact after
    | ok u =>
      rw [Stand.saved]
      split
      · exact after
      · exact after
  | closed id =>
    obtain ⟨⟨rfl, unpaid⟩, _⟩ := saves
    exact none_stored unpaid agrees
  | spent id =>
    obtain ⟨rfl, _⟩ := saves
    cases answer with
    | error e => trivial
    | ok u =>
      rcases effect with updated | ⟨_, _, impossible⟩
      · rw [Stand.saved]
        split
        · rename_i settlement has
          exact ⟨session, by rw [updated, Function.update_self], has⟩
        · rename_i unpaid
          exact none_stored unpaid agrees
      · cases impossible
  | paid id settlement =>
    obtain ⟨rfl, _, has⟩ := saves
    rcases effect with updated | ⟨unchanged, _⟩
    · exact ⟨session, by rw [updated, Function.update_self], has⟩
    · exact Agrees.same (m := .paid session.id settlement) agrees unchanged
  | apart | reader | unread | armed | paying | finished => exact saves.elim

theorem Paid.stores (paid : Paid deps past s ms) (mode : ms[i]? = some (c, some m)) (saves : Saves m session)
    (timely : isRead c → Unsettled s session.id) (effect : Effect s s' (.saveSession session) answer)
    (orderly : Orderly deps s' (ms.set i (c, some (m.saved session answer)))) :
    Paid deps past s' (ms.set i (c, some (m.saved session answer))) := by
  have own : Agrees s' c (m.saved session answer) := agrees_saved saves (paid.agrees i c m mode) effect
  have effects := effect
  rcases effect with stored | ⟨unchanged, _⟩
  · have kept : ∀ id settlement, Settled s id settlement → Settled s' id settlement := by
      rintro id settlement settled
      rw [Settled, stored, Function.update_apply]
      split_ifs with same
      · subst same
        exact ⟨session, rfl, paid.saves_settled mode saves timely settled⟩
      · exact settled
    refine ⟨orderly, ?_, fun id settlement was => kept id settlement (paid.past id settlement was)⟩
    intro j d n found
    rcases mode_of_set found with ⟨_, rfl, same⟩ | ⟨different, old⟩
    · have mode_ : n = m.saved session answer := Option.some.inj same
      rw [mode_]
      exact own
    · have agrees := paid.agrees j d n old
      -- The version of a session that another request has the lock of is stored by a read, without a settlement.
      have unsettled : ∀ id, n.lock = some id → n.read = some id → Unsettled s id → Unsettled s' id := by
        intro id locks reads before
        rw [Unsettled, stored]
        intro found' here
        rw [Function.update_apply] at here
        split_ifs at here with same
        · cases here
          subst same
          obtain ⟨_, rfl⟩ := saver_seen paid.orderly mode saves old different locks reads
          exact saves.1.2
        · exact before found' here
      cases n with
      | live id => exact unsettled id rfl rfl agrees
      | armed id => exact unsettled id rfl rfl agrees
      | paying id => exact unsettled id rfl rfl agrees
      | spent id => exact unsettled id rfl rfl agrees
      | closed id => exact unsettled id rfl rfl agrees
      | paid id settlement => exact kept id settlement agrees
      | reader | seen => exact agrees
      | apart | fresh | unread | finished => trivial
  · apply paid.aside orderly unchanged
    intro j d n found
    rcases mode_of_set found with ⟨_, rfl, same⟩ | ⟨_, old⟩
    · have mode_ : n = m.saved session answer := Option.some.inj same
      rw [mode_]
      exact .inr own
    · exact .inl old

theorem Paid.agrees_reads (paid : Paid deps past s ms) {answer : Except Failure (Option CheckoutSession)}
    (mode : ms[i]? = some (c, some m)) (reading : m = .reader ∨ m = .unread id)
    (found : ∀ read, answer = .ok read → read = s.sessions id) (sessions : s'.sessions = s.sessions)
    : Agrees s' c (m.reads answer) := by
  have agrees := paid.agrees i c m mode
  rcases reading with rfl | rfl
  · cases answer with
    | error e => exact agrees
    | ok read => cases read <;> exact agrees
  · cases answer with
    | error e => trivial
    | ok read =>
      cases read with
      | none => trivial
      | some session =>
        have here : s.sessions id = some session := (found _ rfl).symm
        have unsettled : session.settlement = none → Unsettled s id := by
          intro unpaid stored again
          rw [here] at again
          cases again
          exact unpaid
        by_cases live : session.live = true
        · have mode : (Stand.unread id).reads (.ok (some session)) = .live id := by simp [Stand.reads, live]
          rw [mode]
          have unpaid := unpaid_of_live (paid.orderly.kept id session here).2 live
          exact Agrees.same (c := c) (m := .live id) (unsettled unpaid) sessions
        · cases has : session.settlement with
          | none =>
            have mode : (Stand.unread id).reads (.ok (some session)) = .closed id := by simp [Stand.reads, live, has]
            rw [mode]
            exact Agrees.same (c := c) (m := .closed id) (unsettled has) sessions
          | some settlement =>
            have mode : (Stand.unread id).reads (.ok (some session)) = .paid id settlement := by
              simp [Stand.reads, live, has]
            rw [mode]
            exact Agrees.same (c := c) (m := .paid id settlement) ⟨session, here, has⟩ sessions

theorem Paid.serve (paid : Paid deps past s ms) {m m₀ : Stand} {input : Input} {answer : Except Failure o.Answer}
    (mode : ms[i]? = some (c, some m)) (asks : Asks m₀ o m)
    (timely : ∀ session, o = .saveSession session → isRead c → Unsettled s session.id)
    (served : Gateway.serve o input s = some (answer, s')) :
    Expected o answer ∧ Paid deps past s' (ms.set i (c, some ((SessionWrites.sessions deps).answer m o answer))) := by
  obtain ⟨expected, orderly⟩ := paid.orderly.serve mode asks served
  obtain ⟨effect, _⟩ := serve_effect served
  refine ⟨expected, ?_⟩
  cases o with
  | saveSession session =>
    obtain ⟨saves, rfl⟩ := asks
    exact paid.stores mode saves (timely session rfl) effect orderly
  | settlePayment requirements transaction hold checkoutId =>
    obtain ⟨id, rfl, rfl, rfl⟩ := asks
    have unsettled : Unsettled s id := paid.agrees i c _ mode
    apply paid.aside orderly effect
    intro j d n found
    rcases mode_of_set found with ⟨_, rfl, same⟩ | ⟨_, old⟩
    · have charged : n = .charged id (outcomeOf answer) := Option.some.inj same
      rw [charged]
      right
      cases outcomeOf answer with
      | refused reason => exact Agrees.same (c := d) (m := .live id) unsettled effect
      | settled response => exact Agrees.same (c := d) (m := .spent id) unsettled effect
      | unknown reason named => exact Agrees.same (c := d) (m := .spent id) unsettled effect
    · exact .inl old
  | getSession id =>
    obtain ⟨reading, rfl⟩ := asks
    obtain ⟨unchanged, found⟩ := effect
    apply paid.aside orderly unchanged
    intro j d n read
    rcases mode_of_set read with ⟨_, rfl, same⟩ | ⟨_, old⟩
    · have mode_ : n = m.reads answer := Option.some.inj same
      rw [mode_]
      exact .inr (paid.agrees_reads mode reading found unchanged)
    · exact .inl old
  | _ =>
    apply paid.aside orderly effect
    intro j d n found
    change (ms.set i (c, some m))[j]? = some (d, some n) at found
    rw [set_same mode] at found
    exact .inl found

end

/-! ### Whole runs -/

theorem keeps_paid (past : Option (String × Settlement)) :
    Keeps (host deps) (sessions deps) Ends (fun s ms _ => Paid deps past s ms) (fun _ s ms _ => Paid deps past s ms)
      fun w _ a => timely w a where
  start paid _ _ := ⟨_, follows_route _, paid.start _⟩
  resume paid _ _ := paid
  sync paid mode step := paid.moves mode step
  ask paid mode asks _ _ _ := paid.asks mode asks
  serve {w _ _} i {c _ _ o} rest _ _ _ paid _ mode here inTime asks served := by
    refine paid.serve mode asks ?_ served
    rintro session rfl read
    exact timely_perform inTime here read
  finish paid _ _ _ _ := paid.finish _ _
  outside paid _ := paid.outside _
  crash paid _ _ := paid.crash

def storeAfter (opensAt : Int) (platform : Platform) (actions : List (Action Request Input Outside)) : Storefront :=
  (Traces.exec (step (host deps)) ⟨opened opensAt platform, []⟩ actions).1.shared

/-- A version that says that the payment is under way or done, with its settlement. -/
def PaidWith (s : Storefront) (id : String) (settlement : Settlement) : Prop :=
  ∃ stored, s.sessions id = some stored ∧ stored.settlement = some settlement ∧
    (stored.status = .completeInProgress ∨ stored.status = .completed)

/-- Whatever settlement is stored at some point of a run is stored at its end, in a version that says so. -/
def NeverLost (opensAt : Int) (platform : Platform) (actions : List (Action Request Input Outside)) : Prop :=
  ∀ before after, actions = before ++ after → ∀ id settlement,
    Settled (storeAfter deps opensAt platform before) id settlement →
    PaidWith (storeAfter deps opensAt platform actions) id settlement

theorem holds_opened (opensAt : Int) (platform : Platform) :
    Holds (sessions deps) Ends (fun s ms _ => Paid deps none s ms) ⟨opened opensAt platform, []⟩ [] := by
  refine ⟨[], ⟨orderly_opened deps opensAt platform, ?_, ?_⟩, aligned_nil⟩
  · intro i c m found
    simp at found
  · intro id settlement was
    cases was

/-- In a run of one app in which no read's canceled version comes over a settlement, no paid session is lost. -/
theorem paid_not_lost (opensAt : Int) (platform : Platform) (actions : List (Action Request Input Outside))
    (inTime : ∀ before a after, actions = before ++ a :: after →
      timely (Traces.exec (step (host deps)) ⟨opened opensAt platform, []⟩ before).1 a) :
    NeverLost deps opensAt platform actions := by
  rintro before after rfl id settlement settled
  obtain ⟨ms, paid, aligned⟩ := kept_along (keeps_paid deps none) (holds_opened deps opensAt platform) before
    fun first a rest split => inTime first a (rest ++ after) (by rw [split]; simp)
  -- From here on the settlement is one that was stored.
  have start : Holds (sessions deps) Ends (fun s ms _ => Paid deps (some (id, settlement)) s ms)
      (Traces.exec (step (host deps)) ⟨opened opensAt platform, []⟩ before).1 [] := by
    refine ⟨ms, ⟨paid.orderly, paid.agrees, ?_⟩, aligned⟩
    rintro _ _ ⟨⟩
    exact settled
  obtain ⟨ms', paid', _⟩ := kept_along (keeps_paid deps (some (id, settlement))) start after fun first a rest split => by
    have now := inTime (before ++ first) a rest (by rw [split]; simp)
    rwa [Traces.exec_append] at now
  obtain ⟨stored, found, has⟩ := paid'.past id settlement rfl
  rw [PaidWith, storeAfter, Traces.exec_append]
  exact ⟨stored, found, has, (paid'.orderly.kept id stored found).2 (by simp [has])⟩

/-! ### A read that is late -/

def teaSettlement (settledAt : Int) : Settlement where
  txHash := teaTx
  network := STELLAR_TESTNET_CAIP2
  payer := answered.settled.payer
  payTo := teaRequirements.payTo
  asset := teaRequirements.asset
  amountAtomic := teaRequirements.amount
  settledAt := settledAt

/-- One checkout, created and paid for, and read again when it would have expired. -/
def paidAndRead : List (Action Request Input Outside) :=
  ([.start createTea] : List (Action Request Input Outside)) ++ goOn 0 5 ++
    ([.start completeTea] : List (Action Request Input Outside)) ++ goOn 1 5 ++
    ([.outside (.clock SESSION_TTL_MS), .start readTea] : List (Action Request Input Outside)) ++ goOn 2 2

theorem paid_not_lost_sample : NeverLost teaShop 0 (teaPlatform 5) paidAndRead :=
  paid_not_lost teaShop 0 (teaPlatform 5) paidAndRead
    (Traces.along_run (show Traces.along _ (fun w _ a => timely w a) _ [] paidAndRead from by decide +kernel))

/-- Just before a checkout expires it is about to be charged; a read finds it expired; it is charged, and its settlement
    stored. -/
def chargedInTime : List (Action Request Input Outside) :=
  ([.start createTea] : List (Action Request Input Outside)) ++ goOn 0 5 ++
    ([.outside (.clock (SESSION_TTL_MS - 1)), .start completeTea] : List (Action Request Input Outside)) ++ goOn 1 1 ++
    ([.outside (.clock SESSION_TTL_MS), .start readTea] : List (Action Request Input Outside)) ++ goOn 2 1 ++ goOn 1 4

/-- Then the read's write comes through: the session is canceled, and its settlement gone. -/
theorem late_read : ¬NeverLost teaShop 0 (teaPlatform 5) (chargedInTime ++ [.perform 2 answered]) := by
  intro never
  have settled : Settled (storeAfter teaShop 0 (teaPlatform 5) chargedInTime) teaSession (teaSettlement SESSION_TTL_MS) := by
    decide +kernel
  obtain ⟨stored, found, has, _⟩ := never chargedInTime [.perform 2 answered] rfl teaSession _ settled
  have lost : ¬Settled (storeAfter teaShop 0 (teaPlatform 5) (chargedInTime ++ [.perform 2 answered])) teaSession
      (teaSettlement SESSION_TTL_MS) := by
    decide +kernel
  exact lost ⟨stored, found, has⟩

end AgentPey.PaidSessions
