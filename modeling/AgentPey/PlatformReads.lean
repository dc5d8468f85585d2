import AgentPey.Disciplines
import AgentPey.PlatformProfiles

/-!
What the client for platforms' URLs never does, however its calls interleave and whatever the resolver and the servers answer:
connect to an address that the same call did not resolve or that is blocked, run more reads or deliveries at once or start them
faster than their budgets allow, or lose count of them. A host that failed waits before it is read again.
-/
namespace AgentPey.PlatformReads
open Routines Disciplines
open InsertionMaps IpAddresses Store PlatformProfiles
open TokenBuckets hiding Sound

/-! ### How far a call is -/

/-- A read, by its promise and the wait it found, or a delivery. -/
inductive Kind where
  | read (work : ℕ) (back : Option Backoff)
  | send

/-- A call is not counted; or it has its token, resolves a name, has resolved it, or has turned to what came of it. -/
inductive Stage where
  | idle
  | started (kind : Kind) (url : Url)
  | resolving (kind : Kind) (url : Url)
  | resolved (kind : Kind) (url : Url) (addresses : List Address)
  | ending (kind : Kind) (url : Url)

def Stage.job : Stage → Option (Kind × Url)
  | .idle => none
  | .started kind url => some (kind, url)
  | .resolving kind url => some (kind, url)
  | .resolved kind url _ => some (kind, url)
  | .ending kind url => some (kind, url)

/-- It has asked for a name and has not turned to what came of it. -/
def Stage.out : Stage → Bool
  | .resolving .. => true
  | .resolved .. => true
  | _ => false

structure Mode where
  call : Call
  stage : Stage

section
variable (lib : Libraries) (options : PlatformProfileReaderOptions)

inductive Syncs : Mode → Client → Client → Mode → Prop where
  | stays {c s} : Syncs ⟨c, .idle⟩ s s ⟨c, .idle⟩
  | refuses {c raw url s reason} (refused : (s.read options raw url).1 = .refused reason) :
    Syncs ⟨c, .idle⟩ s (s.read options raw url).2 ⟨c, .idle⟩
  | starts {raw url s work back} (vetted : vet lib options raw = .ok url)
    (starts : (s.read options raw url).1 = .starts work back) :
    Syncs ⟨.read raw, .idle⟩ s (s.read options raw url).2 ⟨.read raw, .started (.read work back) url⟩
  | lands {c s raw} : Syncs ⟨c, .idle⟩ s { s with inFlight := s.inFlight.erase raw } ⟨c, .idle⟩
  | endsRead {c s raw work back url result} :
    Syncs ⟨c, .ending (.read work back) url⟩ s (s.endRead raw url work back result) ⟨c, .idle⟩
  | startsSend {raw request url s} (vetted : vet lib options raw = .ok url) (starts : (s.startSend options).1 = true) :
    Syncs ⟨.send raw request, .idle⟩ s (s.startSend options).2 ⟨.send raw request, .started .send url⟩
  | refusesSend {c s} (refused : (s.startSend options).1 = false) :
    Syncs ⟨c, .idle⟩ s (s.startSend options).2 ⟨c, .idle⟩
  | endsSend {c s url} : Syncs ⟨c, .ending .send url⟩ s { s with sending := s.sending - 1 } ⟨c, .idle⟩

inductive Asks : Mode → Op → Mode → Prop where
  | resolve {c kind url} : Asks ⟨c, .started kind url⟩ (.resolve url.hostname) ⟨c, .resolving kind url⟩
  | get {c kind url addresses first family} (pin : pinned addresses = .ok first) :
    Asks ⟨c, .resolved kind url addresses⟩ (.get url first.address family) ⟨c, .resolved kind url addresses⟩
  | post {c kind url addresses first family request} (pin : pinned addresses = .ok first) :
    Asks ⟨c, .resolved kind url addresses⟩ (.post url first.address family request) ⟨c, .resolved kind url addresses⟩
  | turns {c stage kind url} (out : stage.out = true) (job : stage.job = some (kind, url)) :
    Asks ⟨c, stage⟩ .turn ⟨c, .ending kind url⟩
  | join {c n} : Asks ⟨c, .idle⟩ (.join n) ⟨c, .idle⟩
  | turn {c} : Asks ⟨c, .idle⟩ .turn ⟨c, .idle⟩

def answered : Mode → (o : Op) → Except Failure o.Answer → Mode
  | ⟨c, .resolving kind url⟩, .resolve _, .ok addresses => ⟨c, .resolved kind url addresses⟩
  | m, _, _ => m

def expected : (o : Op) → Except Failure o.Answer → Prop
  | .turn, .error _ => False
  | _, _ => True

def steps : Discipline Client Op Failure Op.Answer Mode where
  sync := Syncs lib options
  ask := Asks
  expects := expected
  answer := answered

def Ends (_ : Call) (m : Mode) (_ : Except Failure Outcome) : Prop := m.stage = .idle

def Out (c : Call) (kind : Kind) (url : Url) (m : Mode) : Prop := m.call = c ∧ m.stage.job = some (kind, url) ∧ m.stage.out = true

variable {lib options} {c : Call} {kind : Kind} {url : Url} {s : Client} {raw : String}

/-- A read that is refused leaves a refusal behind, and may have asked the bucket in vain. -/
structure Refused (budget : Budget) (s s' : Client) : Prop where
  running : s'.running = s.running
  sending : s'.sending = s.sending
  sendBucket : s'.sendBucket = s.sendBucket
  hostBackoff : s'.hostBackoff = s.hostBackoff
  works : ∃ reason, s'.works = s.works ++ [.refused reason]
  readBucket : s'.readBucket = s.readBucket ∨
    (s.readBucket.take budget.burst budget.perSecond s.now).1 = false ∧
      s'.readBucket = (s.readBucket.take budget.burst budget.perSecond s.now).2
  now : s'.now = s.now

/-- A read that starts has a token, and its host need not wait. -/
structure Started (budget : Budget) (host : Text) (work : ℕ) (back : Option Backoff) (s s' : Client) : Prop where
  work : work = s.works.length
  back : back = s.hostBackoff.lookup host
  waited : ∀ b, s.hostBackoff.lookup host = some b → b.ends ≤ s.now
  room : s.running < budget.atOnce
  token : (s.readBucket.take budget.burst budget.perSecond s.now).1 = true
  running : s'.running = s.running + 1
  sending : s'.sending = s.sending
  sendBucket : s'.sendBucket = s.sendBucket
  hostBackoff : s'.hostBackoff = s.hostBackoff
  works : s'.works = s.works ++ [.fetching host]
  readBucket : s'.readBucket = (s.readBucket.take budget.burst budget.perSecond s.now).2
  now : s'.now = s.now

def ReadComes (options : PlatformProfileReaderOptions) (s : Client) (host : Text) : Reading × Client → Prop
  | (.cached _, s') => s' = s
  | (.joins _, s') => s' = s
  | (.refused _, s') => Refused options.reads s s'
  | (.starts work back, s') => Started options.reads host work back s s'

theorem readOnce_comes (s : Client) (raw : String) (url : Url) : ReadComes options s url.host (s.readOnce options raw url) := by
  unfold Client.readOnce
  by_cases waits : (s.hostBackoff.lookup url.host).any fun back => s.now < back.ends
  · simp only [if_pos waits]
    exact ⟨rfl, rfl, rfl, rfl, ⟨_, rfl⟩, .inl rfl, rfl⟩
  by_cases full : options.reads.atOnce ≤ s.running
  · simp only [if_neg waits, if_pos full]
    exact ⟨rfl, rfl, rfl, rfl, ⟨_, rfl⟩, .inl rfl, rfl⟩
  cases taken : (s.readBucket.take options.reads.burst options.reads.perSecond s.now).1 with
  | false =>
    simp only [if_neg waits, if_neg full, taken]
    exact ⟨rfl, rfl, rfl, rfl, ⟨_, rfl⟩, .inr ⟨taken, rfl⟩, rfl⟩
  | true =>
    simp only [if_neg waits, if_neg full, taken]
    refine ⟨rfl, rfl, fun b found => ?_, by omega, taken, rfl, rfl, rfl, rfl, rfl, rfl, rfl⟩
    simpa [found] using waits

theorem read_comes (s : Client) (raw : String) (url : Url) : ReadComes options s url.host (s.read options raw url) := by
  unfold Client.read
  cases s.cache.lookup raw with
  | none =>
    cases s.inFlight.lookup raw with
    | some n => rfl
    | none => exact readOnce_comes s raw url
  | some cached =>
    by_cases fresh : s.now - cached.readAt < (if cached.result.isOk then OK_CACHE_MS else FAIL_CACHE_MS)
    · simp only [if_pos fresh]
      rfl
    · simp only [if_neg fresh]
      cases s.inFlight.lookup raw with
      | some n => rfl
      | none => exact readOnce_comes s raw url

theorem ReadComes.of {reading : Reading} (comes : (s.read options raw url).1 = reading) :
    ReadComes options s url.host (reading, (s.read options raw url).2) := comes ▸ read_comes s raw url

theorem read_refused {reason : ProfileFailure} (refused : (s.read options raw url).1 = .refused reason) :
    Refused options.reads s (s.read options raw url).2 := ReadComes.of refused

theorem read_starts {work : ℕ} {back : Option Backoff} (starts : (s.read options raw url).1 = .starts work back) :
    Started options.reads url.host work back s (s.read options raw url).2 := ReadComes.of starts

theorem startSend_starts (started : (s.startSend options).1 = true) :
    s.sending < options.sends.atOnce ∧ (s.sendBucket.take options.sends.burst options.sends.perSecond s.now).1 = true ∧
      (s.startSend options).2 =
        { s with sendBucket := (s.sendBucket.take options.sends.burst options.sends.perSecond s.now).2, sending := s.sending + 1 } := by
  unfold Client.startSend at started ⊢
  by_cases full : options.sends.atOnce ≤ s.sending
  · simp [full] at started
  · simp only [if_neg full] at started ⊢
    exact ⟨by omega, started, by simp only [started, if_true]⟩

theorem startSend_refused (refused : (s.startSend options).1 = false) : (s.startSend options).2 = s ∨
    (s.sendBucket.take options.sends.burst options.sends.perSecond s.now).1 = false ∧ (s.startSend options).2 =
      { s with sendBucket := (s.sendBucket.take options.sends.burst options.sends.perSecond s.now).2 } := by
  unfold Client.startSend at refused ⊢
  by_cases full : options.sends.atOnce ≤ s.sending
  · exact .inl (by simp [full])
  · simp only [if_neg full] at refused ⊢
    exact .inr ⟨refused, by simp [refused]⟩

theorem answered_turn (m : Mode) (answer : Except Failure Unit) : answered m .turn answer = m := by
  obtain ⟨c, stage⟩ := m
  cases stage <;> rfl

theorem follows_turn {α : Type} {f : Unit → Job α} {m m' : Mode} {Q : Mode → Except Failure α → Prop} (asks : Asks m .turn m')
    (rest : Follows (steps lib options) m' (f ()) Q) : Follows (steps lib options) m (ask .turn >>= f) Q := by
  refine ⟨m', asks, fun answer expects => ?_⟩
  have same : (steps lib options).answer m' .turn answer = m' := answered_turn m' answer
  rw [same]
  cases answer with
  | ok a => exact rest
  | error e => exact expects.elim

theorem not_loopback (remote : options.allowLoopbackHttp = false) (url : Url) : url.isLoopback options = false := by
  simp [Url.isLoopback, remote]

theorem follows_connect {α : Type} {refused : ProfileFailure → α} {o : Address → Op} {goes_on : (first : Address) → (o first).Answer → α}
    (connects : ∀ addresses first, pinned addresses = .ok first →
      Asks ⟨c, .resolved kind url addresses⟩ (o first) ⟨c, .resolved kind url addresses⟩)
    (kept : ∀ addresses first answer, answered ⟨c, .resolved kind url addresses⟩ (o first) answer = ⟨c, .resolved kind url addresses⟩) :
    Follows (steps lib options) ⟨c, .started kind url⟩ (do
      let addresses ← ask (.resolve url.hostname)
      match pinned addresses with
      | .error reason => pure (refused reason)
      | .ok first => do
        let answer ← ask (o first)
        pure (goes_on first answer)) fun m _ => Out c kind url m := by
  refine ⟨_, .resolve, fun answer _ => ?_⟩
  cases answer with
  | error e => exact ⟨rfl, rfl, rfl⟩
  | ok addresses =>
    have out : Out c kind url ⟨c, .resolved kind url addresses⟩ := ⟨rfl, rfl, rfl⟩
    simp only [steps, answered, Routine.ofExcept, Routine.bind]
    cases pin : pinned addresses with
    | error reason => exact out
    | ok first =>
      refine ⟨_, connects addresses first pin, fun answer _ => ?_⟩
      show Follows (steps lib options) (answered ⟨c, .resolved kind url addresses⟩ (o first) answer) _ _
      rw [kept addresses first answer]
      cases answer with
      | error e => exact out
      | ok response => exact out

theorem follows_fetchProfile (remote : options.allowLoopbackHttp = false) :
    Follows (steps lib options) ⟨c, .started kind url⟩ (fetchProfile lib options url) fun m _ => Out c kind url m := by
  unfold fetchProfile
  rw [if_neg (by simp [not_loopback remote])]
  exact follows_connect (fun _ _ pin => .get pin) fun _ _ _ => rfl

variable {request : OutboundRequest}

section
variable (remote : options.allowLoopbackHttp = false)
include remote

theorem follows_deliver :
    Follows (steps lib options) ⟨c, .started kind url⟩ (deliver options url request) fun m _ => Out c kind url m := by
  unfold deliver
  rw [if_neg (by simp [not_loopback remote])]
  exact follows_connect (fun _ _ pin => .post pin) fun _ _ _ => rfl

theorem follows_read :
    Follows (steps lib options) ⟨.read raw, .idle⟩ (PlatformProfiles.read lib options raw) fun m _ => m.stage = .idle := by
  unfold PlatformProfiles.read
  cases vetted : vet lib options raw with
  | error reason => rfl
  | ok url =>
    refine follows_atomic fun s => ?_
    cases reading : (s.read options raw url).1 with
    | cached result =>
      rw [show (s.read options raw url).2 = s from ReadComes.of reading]
      exact ⟨_, .stays, rfl⟩
    | joins n =>
      rw [show (s.read options raw url).2 = s from ReadComes.of reading]
      refine ⟨_, .stays, _, .join, fun answer _ => ?_⟩
      cases answer with
      | ok result => rfl
      | error e => rfl
    | refused reason =>
      refine ⟨_, .refuses reading, follows_turn .turn fun t => ?_⟩
      exact ⟨_, .lands, rfl⟩
    | starts n back =>
      refine ⟨_, .starts vetted reading, Follows.bind (Follows.attempt (Follows.imp (follows_fetchProfile remote) ?_))⟩
      rintro ⟨call, stage⟩ tried ⟨rfl, job, out⟩
      refine follows_turn (.turns out job) fun t => ?_
      refine ⟨_, .endsRead, follows_turn .turn fun t => ?_⟩
      exact ⟨_, .lands, rfl⟩

theorem follows_send :
    Follows (steps lib options) ⟨.send raw request, .idle⟩ (send lib options raw request) fun m _ => m.stage = .idle := by
  unfold send
  split
  · rfl
  · cases vetted : vet lib options raw with
    | error reason => rfl
    | ok url =>
      refine follows_atomic fun s => ?_
      cases started : (s.startSend options).1 with
      | false => exact ⟨_, .refusesSend started, rfl⟩
      | true =>
        refine ⟨_, .startsSend vetted started, ?_⟩
        refine Follows.bind (Follows.attempt (Follows.imp (follows_deliver remote) ?_))
        rintro ⟨call, stage⟩ tried ⟨rfl, job, out⟩
        refine follows_turn (.turns out job) fun t => ?_
        exact ⟨_, .endsSend, rfl⟩

theorem follows_body (c : Call) : Follows (steps lib options) ⟨c, .idle⟩ (body lib options c) (Ends c) := by
  cases c with
  | read raw =>
    refine Follows.seq (follows_read remote) (fun m result idle => ?_) fun m e idle => idle
    exact idle
  | send raw request =>
    refine Follows.seq (follows_send remote) (fun m result idle => ?_) fun m e idle => idle
    exact idle

end

end

end AgentPey.PlatformReads
