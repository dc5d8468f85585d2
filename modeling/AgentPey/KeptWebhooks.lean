import AgentPey.Disciplines
import AgentPey.ReceivedWebhooks
import AgentPey.SignedWebhooks

/-!
A delivery that is kept was signed by the store it is of, and is kept once, and what is answered to
be received is kept. So it is in every run in which the ids that are remembered are those that were kept, and none is
remembered for another store.
-/
namespace AgentPey.KeptWebhooks
open Routines Disciplines
open HttpSignatures MessageSignatures SignedWebhooks InsertionMaps Schemas ReceivedWebhooks
open TokenBuckets (Bucket)
open String (toList_append toList_inj toList_ofList)

/-! ### What the receiver has -/

def SameEvent (sent : Addressed) (r : ReceivedWebhook) : Prop := r.store = sent.profile.origin ∧ r.webhookId = sent.webhookId

instance (sent : Addressed) (r : ReceivedWebhook) : Decidable (SameEvent sent r) := by
  unfold SameEvent
  infer_instance

def Logged (s : Receiver) (sent : Addressed) : Prop := ∃ r ∈ s.logged, SameEvent sent r

instance (s : Receiver) (sent : Addressed) : Decidable (Logged s sent) := by
  unfold Logged
  infer_instance

/-- These are the webhook keys in what a read of this profile brought. -/
def FromProfile (s : Receiver) (url : String) (keys : List WebhookKey) : Prop :=
  ∃ (n : ℕ) (read : ProfileRead) (profile : Value), s.reads[n]? = some read ∧ read.url = url ∧
    read.result = some (some profile) ∧ keys = webhookKeys profile

/-- The cache has what was read, a read that is under way is of its profile, and few reads run. -/
structure Sound (s : Receiver) : Prop where
  profiles : ∀ url readAt keys, s.profiles.lookup url = some (.keys readAt keys) → FromProfile s url keys
  reading : ∀ url n, s.reading.lookup url = some n → ∃ read, s.reads[n]? = some read ∧ read.url = url
  running : s.readsRunning = s.reads.countP ProfileRead.running
  few : s.readsRunning ≤ MAX_CONCURRENT_PROFILE_READS

def GoOn (reads reads' : List ProfileRead) : Prop :=
  ∀ (n : ℕ) read, reads[n]? = some read → ∃ read', reads'[n]? = some read' ∧ read'.url = read.url ∧
    ∀ result, read.result = some result → read'.result = some result

/-- Reads go on, and nothing is received. -/
structure Quiet (s s' : Receiver) : Prop where
  logged : s'.logged = s.logged
  kept : s'.kept = s.kept
  seen : s'.seen = s.seen
  receiving : s'.receiving = s.receiving
  reads : GoOn s.reads s'.reads
  sound : Sound s → Sound s'

section
variable {s s' s'' : Receiver} {url : String} {keys : List WebhookKey}

theorem Quiet.refl (s : Receiver) : Quiet s s :=
  ⟨rfl, rfl, rfl, rfl, fun _ read found => ⟨read, found, rfl, fun _ same => same⟩, id⟩

theorem FromProfile.on (from_ : FromProfile s url keys) (on : GoOn s.reads s'.reads) : FromProfile s' url keys := by
  obtain ⟨n, read, profile, found, rfl, result, rfl⟩ := from_
  obtain ⟨read', found', url', result'⟩ := on n read found
  exact ⟨n, read', profile, found', url', result' _ result, rfl⟩

theorem reads_append (reads : List ProfileRead) (last : ProfileRead) : GoOn reads (reads ++ [last]) := by
  intro n read found
  obtain ⟨inside, _⟩ := List.getElem?_eq_some_iff.mp found
  exact ⟨read, by rw [List.getElem?_append_left inside, found], rfl, fun _ same => same⟩

variable {n : ℕ}

theorem reads_set {reads : List ProfileRead} {old new : ProfileRead} (here : reads[n]? = some old) (same : new.url = old.url)
    (on : ∀ result, old.result = some result → new.result = some result) : GoOn reads (reads.set n new) := by
  intro k read found
  by_cases other : n = k
  · subst other
    rw [here] at found
    cases found
    obtain ⟨inside, _⟩ := List.getElem?_eq_some_iff.mp here
    exact ⟨new, by simp [inside], same, on⟩
  · exact ⟨read, by rw [List.getElem?_set_ne other, found], rfl, fun _ same => same⟩

theorem quiet_keysOf (s : Receiver) (url : String) : Quiet s (s.keysOf url).2 := by
  have start : Quiet s (s.startRead url).2 := by
    unfold Receiver.startRead
    split
    · exact .refl s
    · split_ifs with busy
      · exact .refl s
      · dsimp only
        split_ifs
        · refine ⟨rfl, rfl, rfl, rfl, reads_append s.reads _, fun sound => ⟨?_, ?_, ?_, ?_⟩⟩
          · exact fun url readAt keys found => (sound.profiles url readAt keys found).on (reads_append s.reads _)
          · intro other n found
            rw [lookup_put] at found
            split_ifs at found with same
            · cases found
              exact ⟨⟨url, none, true⟩, by simp, same.symm⟩
            · obtain ⟨read, there, same⟩ := sound.reading other n found
              obtain ⟨read', there', same', _⟩ := reads_append s.reads ⟨url, none, true⟩ n read there
              exact ⟨read', there', same'.trans same⟩
          · simp [sound.running]
          · exact Nat.lt_of_not_le busy
        · exact ⟨rfl, rfl, rfl, rfl, fun _ read found => ⟨read, found, rfl, fun _ same => same⟩,
            fun sound => ⟨sound.profiles, sound.reading, sound.running, sound.few⟩⟩
  unfold Receiver.keysOf
  split
  · split_ifs
    · exact .refl s
    · exact start
  · split_ifs
    · exact .refl s
    · exact start
  · exact start

theorem found_keysOf (sound : Sound s) (found : (s.keysOf url).1 = .found keys) : FromProfile s url keys := by
  have start : (s.startRead url).1 ≠ .found keys := by
    unfold Receiver.startRead
    split
    · simp
    · split_ifs
      · simp
      · dsimp only
        split_ifs <;> simp
  unfold Receiver.keysOf at found
  split at found
  next readAt keys' cached =>
    split_ifs at found
    · cases found
      exact sound.profiles url readAt keys cached
    · exact absurd found start
  · split_ifs at found
    exact absurd found start
  · exact absurd found start

theorem pending_keysOf (sound : Sound s) (pending : (s.keysOf url).1 = .pending n) :
    ∃ read, (s.keysOf url).2.reads[n]? = some read ∧ read.url = url := by
  have start (pending : (s.startRead url).1 = .pending n) :
      ∃ read, (s.startRead url).2.reads[n]? = some read ∧ read.url = url := by
    unfold Receiver.startRead at pending ⊢
    split at pending
    next under =>
      cases pending
      exact sound.reading url _ under
    · split_ifs at pending ⊢
      dsimp only at pending ⊢
      split_ifs at pending ⊢
      cases pending
      exact ⟨⟨url, none, true⟩, by simp, rfl⟩
  unfold Receiver.keysOf at pending ⊢
  split at pending
  · split_ifs at pending ⊢
    exact start pending
  · split_ifs at pending ⊢
    exact start pending
  · exact start pending

theorem quiet_remember {entry : CacheEntry} (told : ∀ readAt keys, entry = .keys readAt keys → FromProfile s url keys) :
    Quiet s (s.remember url entry) where
  logged := rfl
  kept := rfl
  seen := rfl
  receiving := rfl
  reads _ read found := ⟨read, found, rfl, fun _ same => same⟩
  sound sound := by
    refine ⟨fun other readAt keys found => ?_, sound.reading, sound.running, sound.few⟩
    simp only [Receiver.remember, lookup_put] at found
    split_ifs at found with same full
    · subst same
      exact told readAt keys (Option.some.inj found)
    · exact sound.profiles other readAt keys (lookup_dropOldest found)
    · exact sound.profiles other readAt keys found

theorem Quiet.trans (first : Quiet s s') (second : Quiet s' s'') : Quiet s s'' where
  logged := second.logged.trans first.logged
  kept := second.kept.trans first.kept
  seen := second.seen.trans first.seen
  receiving := second.receiving.trans first.receiving
  reads n read found := by
    obtain ⟨read', found', url', on'⟩ := first.reads n read found
    obtain ⟨read'', found'', url'', on''⟩ := second.reads n read' found'
    exact ⟨read'', found'', url''.trans url', fun result same => on'' result (on' result same)⟩
  sound := second.sound ∘ first.sound

theorem quiet_set {old new : ProfileRead} (here : s.reads[n]? = some old) (same : new.url = old.url)
    (on : ∀ result, old.result = some result → new.result = some result) (running : new.running = old.running) :
    Quiet s { s with reads := s.reads.set n new } := by
  have reads := reads_set here same on
  obtain ⟨inside, value⟩ := List.getElem?_eq_some_iff.mp here
  refine ⟨rfl, rfl, rfl, rfl, reads, fun sound => ⟨?_, ?_, ?_, sound.few⟩⟩
  · exact fun url readAt keys found => (sound.profiles url readAt keys found).on reads
  · intro url k found
    obtain ⟨read, there, same⟩ := sound.reading url k found
    obtain ⟨read', there', same', _⟩ := reads k read there
    exact ⟨read', there', same'.trans same⟩
  · have count := List.countP_set (p := ProfileRead.running) (a := new) inside
    have some_ : old.running = true → 0 < s.reads.countP ProfileRead.running := fun runs =>
      List.countP_pos_iff.mpr ⟨old, List.mem_of_getElem? here, runs⟩
    rw [value, running] at count
    rw [sound.running, count]
    by_cases runs : old.running = true
    · have := some_ runs
      simp only [runs, if_true]
      omega
    · simp [runs]

theorem quiet_answerRead (s : Receiver) (n : ℕ) (profile : Option Value) : Quiet s (s.answerRead n profile) := by
  unfold Receiver.answerRead
  split
  next url here =>
    have first : Quiet s { s with reads := s.reads.set n ⟨url, some profile, true⟩ } := quiet_set here rfl (by simp) rfl
    obtain ⟨inside, _⟩ := List.getElem?_eq_some_iff.mp here
    cases profile with
    | none => exact first.trans (quiet_remember (by simp))
    | some profile =>
      refine first.trans (quiet_remember fun readAt keys same => ?_)
      cases same
      exact ⟨n, ⟨url, some (some profile), true⟩, profile, by simp [inside], rfl, rfl, rfl⟩
  · exact .refl s

theorem quiet_settleRead (s : Receiver) (n : ℕ) : Quiet s (s.settleRead n) := by
  unfold Receiver.settleRead
  split
  next url profile here =>
    let settled : ProfileRead := ⟨url, some profile, false⟩
    have reads := reads_set here (show settled.url = url from rfl) (by simp [settled])
    obtain ⟨inside, value⟩ := List.getElem?_eq_some_iff.mp here
    refine ⟨rfl, rfl, rfl, rfl, reads, fun sound => ⟨?_, ?_, ?_, ?_⟩⟩
    · exact fun url readAt keys found => (sound.profiles url readAt keys found).on reads
    · intro other k found
      rw [Store.lookup_erase] at found
      split_ifs at found
      obtain ⟨read, there, same⟩ := sound.reading other k found
      obtain ⟨read', there', same', _⟩ := reads k read there
      exact ⟨read', there', same'.trans same⟩
    · have count := List.countP_set (p := ProfileRead.running) (a := ⟨url, some profile, false⟩) inside
      rw [value] at count
      simp only [sound.running, count]
      simp
    · have few := sound.few
      show s.readsRunning - 1 ≤ _
      omega
  · exact .refl s

theorem quiet_outside (k : Outside) (s : Receiver) : Quiet s (outside k s) := by
  cases k with
  | answer n profile => exact quiet_answerRead s n profile
  | settle n => exact quiet_settleRead s n
  | tick ms =>
    exact ⟨rfl, rfl, rfl, rfl, fun _ read found => ⟨read, found, rfl, fun _ same => same⟩,
      fun sound => ⟨sound.profiles, sound.reading, sound.running, sound.few⟩⟩

end

/-! ### How far a delivery is -/

inductive Stage where
  | fresh (sent : Addressed)
  | turned
  | marked (sent : Addressed)
  | joining (sent : Addressed) (n : ℕ)
  | keyed (sent : Addressed) (keys : List WebhookKey)
  | kept (sent : Addressed)
  | acknowledged (sent : Addressed)

/-- The id that is marked as being received. -/
def Stage.mark : Stage → Option String
  | .marked sent => some sent.webhookId
  | .joining sent _ => some sent.webhookId
  | .keyed sent _ => some sent.webhookId
  | .kept sent => some sent.webhookId
  | _ => none

structure Mode where
  call : Delivery
  stage : Stage

def Mode.mark (m : Mode) : Option String := m.stage.mark

section
variable (lib : ReceiverLibraries)

inductive Syncs : Mode → Receiver → Receiver → Mode → Prop where
  | duplicate {c sent s} (seen : sent.webhookId ∈ s.seen) : Syncs ⟨c, .fresh sent⟩ s s ⟨c, .acknowledged sent⟩
  | inProgress {c sent s} : Syncs ⟨c, .fresh sent⟩ s s ⟨c, .turned⟩
  | admitted {c sent s} (new : sent.webhookId ∉ s.seen) (free : sent.webhookId ∉ s.receiving) :
    Syncs ⟨c, .fresh sent⟩ s { s with receiving := s.receiving ++ [sent.webhookId] } ⟨c, .marked sent⟩
  | found {c sent s keys} (found : (s.keysOf sent.profile.href).1 = .found keys) :
    Syncs ⟨c, .marked sent⟩ s (s.keysOf sent.profile.href).2 ⟨c, .keyed sent keys⟩
  | refused {c sent s} : Syncs ⟨c, .marked sent⟩ s (s.keysOf sent.profile.href).2 ⟨c, .marked sent⟩
  | pending {c sent s n} (pending : (s.keysOf sent.profile.href).1 = .pending n) :
    Syncs ⟨c, .marked sent⟩ s (s.keysOf sent.profile.href).2 ⟨c, .joining sent n⟩
  | rejected {c sent keys s} : Syncs ⟨c, .keyed sent keys⟩ s s ⟨c, .marked sent⟩
  | keeps {c sent keys s order} (verifies : verified lib c sent keys s.now = .ok (.ok order)) :
    Syncs ⟨c, .keyed sent keys⟩ s (s.keep (received lib sent order s.now)) ⟨c, .kept sent⟩
  | leaves {c sent s} : Syncs ⟨c, .marked sent⟩ s (s.leave sent.webhookId) ⟨c, .turned⟩
  | done {c sent s} : Syncs ⟨c, .kept sent⟩ s (s.leave sent.webhookId) ⟨c, .acknowledged sent⟩

def answered : Mode → (o : Op) → Except Failure o.Answer → Mode
  | ⟨c, .joining sent _⟩, .read _, .ok keys => ⟨c, .keyed sent keys⟩
  | ⟨c, .joining sent _⟩, .read _, .error _ => ⟨c, .marked sent⟩
  | m, _, _ => m

def expected : (o : Op) → Except Failure o.Answer → Prop
  | .turn, .error _ => False
  | _, _ => True

def steps : Discipline Receiver Op Failure Op.Answer Mode where
  sync := Syncs lib
  ask m o m' := m' = m ∧ (∀ n, o = .read n → ∃ sent, m.stage = .joining sent n) ∧ ∀ sent, m.stage ≠ .fresh sent
  expects := expected
  answer := answered

/-- No mark is left, and who is answered that a delivery was received knows of one that was. -/
def Ends (_ : Delivery) (m : Mode) (result : Except Failure WebhookAnswer) : Prop :=
  m.mark = none ∧ ∀ answer, result = .ok answer → answer.status = 200 → ∃ sent, m.stage = .acknowledged sent

/-- A delivery is not kept, and not answered as if it were; or it is kept. -/
def Settled (c : Delivery) (sent : Addressed) (m : Mode) (result : Except Failure WebhookAnswer) : Prop :=
  (m = ⟨c, .marked sent⟩ ∧ ∀ answer, result = .ok answer → answer.status ≠ 200) ∨ m = ⟨c, .kept sent⟩

variable {lib} {c : Delivery} {sent : Addressed}

variable {answer : WebhookAnswer}

theorem turned_status (turned : addressed lib c = .error answer) : answer.status ≠ 200 := by
  unfold addressed at turned
  split_ifs at turned
  · cases turned
    simp [refuse]
  · dsimp only at turned
    split_ifs at turned
    · cases turned
      simp [refuse]
    · split at turned
      · cases turned
        simp [refuse]
      · split_ifs at turned
        cases turned
        simp [refuse]

theorem verified_status {keys : List WebhookKey} {now : ℤ}
    (turned : verified lib c sent keys now = .ok (.error answer)) : answer.status ≠ 200 := by
  unfold verified at turned
  dsimp only at turned
  split at turned
  · cases turned
  · cases turned
    simp [refuse]
  · split at turned
    · cases turned
      simp [refuse]
    · split at turned
      · cases turned
        simp [refuse]
      · split at turned
        · cases turned
          simp [refuse]
        · split at turned
          · cases turned
          · cases turned
            simp [refuse]

theorem follows_keysOf : Follows (steps lib) ⟨c, .marked sent⟩ (keysOf sent.profile.href) fun m result =>
    (m = ⟨c, .marked sent⟩ ∧ ∃ e, result = .error e) ∨ ∃ keys, result = .ok keys ∧ m = ⟨c, .keyed sent keys⟩ := by
  refine follows_atomic fun s => ?_
  cases step : (s.keysOf sent.profile.href).1 with
  | found keys => exact ⟨_, .found step, .inr ⟨keys, rfl, rfl⟩⟩
  | refused message => exact ⟨_, .refused, .inl ⟨rfl, _, rfl⟩⟩
  | pending n =>
    refine ⟨_, .pending step, follows_ask ⟨rfl, fun k same => ?_, by simp⟩ fun answer _ => ?_⟩
    · cases same
      exact ⟨sent, rfl⟩
    · cases answer with
      | ok keys => exact .inr ⟨keys, rfl, rfl⟩
      | error e => exact .inl ⟨rfl, e, rfl⟩

theorem follows_turn {α : Type} {f : Unit → Job α} {m : Mode} {Q : Mode → Except Failure α → Prop}
    (looked : ∀ sent, m.stage ≠ .fresh sent) (rest : Follows (steps lib) m (f ()) Q) :
    Follows (steps lib) m (ask .turn >>= f) Q := by
  refine ⟨m, ⟨rfl, (fun n impossible => nomatch impossible), looked⟩, fun answer expects => ?_⟩
  have same : (steps lib).answer m .turn answer = m := by
    obtain ⟨c, stage⟩ := m
    cases stage <;> rfl
  rw [same]
  cases answer with
  | ok a => exact rest
  | error e => exact expects.elim

theorem follows_verifyAndKeep : Follows (steps lib) ⟨c, .marked sent⟩ (verifyAndKeep lib c sent) (Settled c sent) := by
  refine Follows.bind (Follows.attempt (Follows.imp follows_keysOf ?_))
  rintro m tried (⟨rfl, e, rfl⟩ | ⟨keys, rfl, rfl⟩)
  · refine follows_turn (by simp) (.inl ⟨rfl, fun answer same => ?_⟩)
    cases same
    simp [refuse]
  · refine follows_turn (by simp) (follows_atomic fun s => ?_)
    cases judged : verified lib c sent keys s.now with
    | error e =>
      simp only [Receiver.check, judged]
      exact ⟨_, .rejected, .inl ⟨rfl, by simp⟩⟩
    | ok judgement =>
      cases judgement with
      | error answer =>
        simp only [Receiver.check, judged]
        refine ⟨_, .rejected, .inl ⟨rfl, fun other same => ?_⟩⟩
        cases same
        exact verified_status judged
      | ok order =>
        simp only [Receiver.check, judged]
        exact ⟨_, .keeps judged, .inr rfl⟩

theorem follows_awaited : Follows (steps lib) ⟨c, .marked sent⟩ (awaited lib c sent) (Settled c sent) := by
  refine Follows.bind (Follows.attempt (Follows.imp follows_verifyAndKeep ?_))
  intro m result settled
  refine follows_turn ?_ (follows_lift settled)
  rcases settled with ⟨rfl, _⟩ | rfl <;> simp

def begins (lib : ReceiverLibraries) (c : Delivery) : Stage :=
  match addressed lib c with
  | .ok sent => .fresh sent
  | .error _ => .turned

theorem follows_receive : Follows (steps lib) ⟨c, begins lib c⟩ (receive lib c) (Ends c) := by
  unfold receive begins
  cases named : addressed lib c with
  | error answer =>
    refine ⟨rfl, fun other same received => ?_⟩
    cases same
    exact absurd received (turned_status named)
  | ok sent =>
    refine follows_atomic fun s => ?_
    by_cases seen : sent.webhookId ∈ s.seen
    · simp only [Receiver.arrive, if_pos seen]
      exact ⟨_, .duplicate seen, rfl, fun _ _ _ => ⟨sent, rfl⟩⟩
    · by_cases busy : sent.webhookId ∈ s.receiving
      · simp only [Receiver.arrive, if_neg seen, if_pos busy]
        refine ⟨_, .inProgress, rfl, fun other same received => ?_⟩
        cases same
        exact absurd received (by simp [refuse])
      · simp only [Receiver.arrive, if_neg seen, if_neg busy]
        refine ⟨_, .admitted seen busy, Follows.finally_ (Follows.imp follows_awaited ?_)⟩
        rintro m result (⟨rfl, other⟩ | rfl) t
        · exact ⟨_, .leaves, rfl, fun answer same received => absurd received (other answer same)⟩
        · exact ⟨_, .done, rfl, fun _ _ _ => ⟨sent, rfl⟩⟩

end

/-! ### What is kept -/

/-- What the delivery's signature says of its date is a number, if it says anything. -/
def Dated (lib : ReceiverLibraries) (d : Delivery) : Bool :=
  match ((d.headers "signature-input").map trim).bind signatureInputMember with
  | none => true
  | some member =>
    match (parameter member.params "created").map lib.number with
    | some .nan => false
    | _ => true

/-- A text that was signed with a key, not long before or after: it has the delivery's target, its body by its digest, its id
    and its timestamp. -/
def SignedFor (lib : ReceiverLibraries) (Signed : EcPublicJwk → String → Bytes → Prop) (d : Delivery) (key : EcPublicJwk)
    (seconds : ℤ) : Prop :=
  ∃ url components params base signature created,
    lib.url d.url = some url ∧
    signatureBase components params (fun name => componentValue lib.toLibraries name "POST" url d.headers) = some base ∧
    Signed key base signature ∧
    (∀ name ∈ ["@method", "@authority", "@path"] ++ REQUIRED_COMPONENTS, name ∈ components) ∧
    (url.search ≠ "" → "@query" ∈ components) ∧
    (d.headers "content-digest").map trim = some (contentDigest lib.toLibraries d.body) ∧
    (parameter params "created").map lib.number = some (.finite created) ∧
    |(seconds : ℚ) - created| ≤ SIGNATURE_MAX_AGE_SECONDS

/-- A record is of a delivery that was signed with a webhook key of the store whose order it has. -/
def Genuine (lib : ReceiverLibraries) (Signed : EcPublicJwk → String → Bytes → Prop) (s : Receiver) (d : Delivery)
    (r : ReceivedWebhook) : Prop :=
  ∃ sent order page keys key, addressed lib d = .ok sent ∧ r = received lib sent order r.receivedAt ∧
    (lib.parseJson d.body).bind deliveredOrderSchema = some order ∧
    lib.page order.permalinkUrl = some page ∧ page.origin = sent.profile.origin ∧
    FromProfile s sent.profile.href keys ∧ key ∈ keys ∧ SignedFor lib Signed d key.toEcPublicJwk (r.receivedAt / 1000)

section
variable {lib : ReceiverLibraries} {Signed : EcPublicJwk → String → Bytes → Prop} {c : Delivery} {sent : Addressed}

theorem fresh_date {seconds : ℤ} {created : Option Number} (fresh : isStale seconds created = false)
    (dated : created ≠ some .nan) :
    ∃ date, created = some (.finite date) ∧ |(seconds : ℚ) - date| ≤ SIGNATURE_MAX_AGE_SECONDS := by
  cases created with
  | none => simp [isStale] at fresh
  | some number =>
    cases number with
    | nan => exact absurd rfl dated
    | minusInfinity => simp [isStale] at fresh
    | infinity => simp [isStale] at fresh
    | finite date => exact ⟨date, rfl, by simpa [isStale] using fresh⟩

theorem genuine {keys : List WebhookKey} {s : Receiver} {order : DeliveredOrder}
    (unforgeable : Unforgeable lib.toLibraries Signed) (empty : lib.parseJson [] = none)
    (named : addressed lib c = .ok sent) (dated : Dated lib c = true)
    (from_ : FromProfile s sent.profile.href keys) (verifies : verified lib c sent keys s.now = .ok (.ok order)) :
    Genuine lib Signed s c (received lib sent order s.now) := by
  unfold verified at verifies
  dsimp only at verifies
  split at verifies
  · cases verifies
  · cases verifies
  next check accepted =>
    split at verifies
    · cases verifies
    next fresh =>
      split at verifies
      · cases verifies
      next order' parsed =>
        split at verifies
        · cases verifies
        next page located =>
          split at verifies
          next own =>
            cases verifies
            obtain ⟨header, url, member, base, key, signature, shown, read, known, created⟩ := verify_accepted accepted
            have number : check.created ≠ some .nan := by
              have given : ((c.headers "signature-input").map trim).bind signatureInputMember = some member := read
              intro nan
              rw [created] at nan
              simp [Dated, given, nan] at dated
            obtain ⟨date, same, near⟩ := fresh_date (by simpa using fresh) number
            obtain ⟨webhookKey, among, rfl⟩ := Option.map_eq_some_iff.mp known
            have body : c.body ≠ [] := by
              intro nothing
              rw [nothing, empty] at parsed
              cases parsed
            have known : webhookKey ∈ keys := List.mem_of_find?_eq_some among
            have signed := unforgeable.signed _ _ _ shown.verified
            refine ⟨sent, order, page, keys, webhookKey, named, rfl, parsed, located, own, from_, known, ?_⟩
            refine ⟨url, componentsOf member.list, member.params, base, signature, date, shown.located, shown.based, signed,
              fun name needed => shown.covers name ?_, fun searching => shown.covers _ ?_, shown.digest body,
              created.symm.trans same, near⟩
            · simp only [required, List.mem_append] at needed ⊢
              exact needed.elim (fun always => .inl (.inl (.inl (.inl (.inl always))))) .inr
            · simp [required, searching]
          · cases verifies

end

/-! ### What is so in every run -/

/-- A delivery that names its store, and whose date is a number. -/
def Named (lib : ReceiverLibraries) (c : Delivery) (sent : Addressed) : Prop := addressed lib c = .ok sent ∧ Dated lib c = true

/-- What is so of a delivery, as far as it is. -/
def Stands (lib : ReceiverLibraries) (s : Receiver) (c : Delivery) : Stage → Prop
  | .fresh sent => Named lib c sent
  | .turned => True
  | .marked sent => Named lib c sent ∧ ¬Logged s sent
  | .joining sent n => Named lib c sent ∧ ¬Logged s sent ∧ ∃ read, s.reads[n]? = some read ∧ read.url = sent.profile.href
  | .keyed sent keys => Named lib c sent ∧ ¬Logged s sent ∧ FromProfile s sent.profile.href keys
  | .kept sent => Named lib c sent ∧ Logged s sent
  | .acknowledged sent => Named lib c sent ∧ Logged s sent

/-- A delivery of the same store with the same id was kept. -/
def Acknowledged (lib : ReceiverLibraries) (s : Receiver) (d : Delivery) : Prop :=
  ∃ sent, addressed lib d = .ok sent ∧ Logged s sent

instance (lib : ReceiverLibraries) (s : Receiver) (d : Delivery) : Decidable (Acknowledged lib s d) :=
  match named : addressed lib d with
  | .ok sent => decidable_of_iff (Logged s sent) (by simp [Acknowledged, named])
  | .error _ => .isFalse (by simp [Acknowledged, named])

abbrev Seen := Event Delivery Op Failure Op.Answer WebhookAnswer

def event (r : ReceivedWebhook) : String × String := (r.store, r.webhookId)

structure Good (lib : ReceiverLibraries) (Signed : EcPublicJwk → String → Bytes → Prop) (s : Receiver)
    (ms : List (Delivery × Option Mode)) (t : List Seen) : Prop where
  sound : Sound s
  marks : (pick Mode.mark ms).Perm s.receiving
  distinct : s.receiving.Nodup
  stands : ∀ (i : ℕ) c m, ms[i]? = some (c, some m) → m.call = c ∧ Stands lib s c m.stage
  records : ∀ r ∈ s.logged, ∃ (i : ℕ) (d : Delivery) (mode : Option Mode), ms[i]? = some (d, mode) ∧ Genuine lib Signed s d r
  once : (s.logged.map event).Nodup
  kept : s.kept <+: s.logged
  answers : ∀ i d answer, .finished i d (.ok answer) ∈ t → answer.status = 200 → Acknowledged lib s d

section
variable {lib : ReceiverLibraries} {Signed : EcPublicJwk → String → Bytes → Prop} {c d : Delivery} {sent : Addressed}
  {s s' : Receiver} {ms : List (Delivery × Option Mode)} {t : List Seen} {i j : ℕ} {m m' : Mode}

theorem Logged.on (logged : Logged s sent) (on : ∀ r ∈ s.logged, r ∈ s'.logged) : Logged s' sent := by
  obtain ⟨r, among, same⟩ := logged
  exact ⟨r, on r among, same⟩

theorem Acknowledged.on (acknowledged : Acknowledged lib s d) (on : ∀ r ∈ s.logged, r ∈ s'.logged) :
    Acknowledged lib s' d := by
  obtain ⟨sent, named, logged⟩ := acknowledged
  exact ⟨sent, named, logged.on on⟩

theorem Stands.on {stage : Stage} (stands : Stands lib s c stage) (reads : GoOn s.reads s'.reads)
    (on : ∀ r ∈ s.logged, r ∈ s'.logged)
    (apart : ∀ sent, stage.mark = some sent.webhookId → ¬Logged s sent → ¬Logged s' sent) : Stands lib s' c stage := by
  cases stage with
  | fresh sent => exact stands
  | turned => trivial
  | marked sent => exact ⟨stands.1, apart sent rfl stands.2⟩
  | joining sent n =>
    obtain ⟨named, new, read, there, same⟩ := stands
    obtain ⟨read', there', same', _⟩ := reads n read there
    exact ⟨named, apart sent rfl new, read', there', same'.trans same⟩
  | keyed sent keys => exact ⟨stands.1, apart sent rfl stands.2.1, stands.2.2.on reads⟩
  | kept sent => exact ⟨stands.1, stands.2.on on⟩
  | acknowledged sent => exact ⟨stands.1, stands.2.on on⟩

variable {r : ReceivedWebhook}

theorem Genuine.on (genuine : Genuine lib Signed s d r) (reads : GoOn s.reads s'.reads) : Genuine lib Signed s' d r := by
  obtain ⟨sent, order, page, keys, key, named, same, parsed, located, own, from_, signed⟩ := genuine
  exact ⟨sent, order, page, keys, key, named, same, parsed, located, own, from_.on reads, signed⟩

/-- Where the same ids are marked, the same is logged, and reads go on, all that is said is so. -/
theorem Good.on (good : Good lib Signed s ms t) (logged : s'.logged = s.logged) (kept : s'.kept = s.kept)
    (receiving : s'.receiving = s.receiving) (sound : Sound s') (reads : GoOn s.reads s'.reads) : Good lib Signed s' ms t where
  sound := sound
  marks := receiving ▸ good.marks
  distinct := receiving ▸ good.distinct
  stands i c m found := by
    obtain ⟨same, stands⟩ := good.stands i c m found
    exact ⟨same, stands.on reads (by simp [logged]) fun sent _ new => by simpa [Logged, logged] using new⟩
  records r among := by
    rw [logged] at among
    obtain ⟨i, d, mode, found, genuine⟩ := good.records r among
    exact ⟨i, d, mode, found, genuine.on reads⟩
  once := logged ▸ good.once
  kept := by rw [logged, kept]; exact good.kept
  answers i d answer among received := (good.answers i d answer among received).on (by simp [logged])

theorem Good.quiet (good : Good lib Signed s ms t) (quiet : Quiet s s') : Good lib Signed s' ms t :=
  good.on quiet.logged quiet.kept quiet.receiving (quiet.sound good.sound) quiet.reads

theorem called_set {mode mode' : Option Mode} (here : ms[i]? = some (c, mode')) (new : Option Mode)
    (there : ms[j]? = some (d, mode)) : ∃ mode, (ms.set i (c, new))[j]? = some (d, mode) := by
  by_cases same : i = j
  · subst same
    rw [here] at there
    cases there
    obtain ⟨inside, _⟩ := List.getElem?_eq_some_iff.mp here
    exact ⟨new, by simp [inside]⟩
  · exact ⟨mode, by rw [List.getElem?_set_ne same, there]⟩

theorem Good.move (good : Good lib Signed s ms t) (here : ms[i]? = some (c, some m)) (call : m'.call = c)
    (mark : m'.mark = m.mark) (stands : Stands lib s c m'.stage) : Good lib Signed s (ms.set i (c, some m')) t :=
  { good with
    marks := by
      have before := pick_at Mode.mark here
      have after_ := pick_set Mode.mark here (some m')
      rw [show (some m').bind Mode.mark = (some m).bind Mode.mark from mark] at after_
      exact (after_.trans before.symm).trans good.marks
    stands := fun _ _ _ found => all_set ⟨call, stands⟩ (fun j d m _ => good.stands j d m) found
    records := fun r among => by
      obtain ⟨j, d, mode, found, genuine⟩ := good.records r among
      obtain ⟨mode', found'⟩ := called_set here (some m') found
      exact ⟨j, d, mode', found', genuine⟩ }

theorem marks_apart (good : Good lib Signed s ms t) {other : ℕ} {webhookId : String} (different : other ≠ i)
    (here : ms[i]? = some (c, some m)) (there : ms[other]? = some (d, some m')) (marked : m.mark = some webhookId)
    (marked' : m'.mark = some webhookId) : False := by
  have distinct := good.marks.nodup_iff.mpr good.distinct
  have split := pick_at Mode.mark here
  have nodup := split.nodup_iff.mp distinct
  have among : webhookId ∈ pick Mode.mark (ms.eraseIdx i) := by
    refine List.mem_filterMap.mpr ⟨(d, some m'), ?_, by simpa using marked'⟩
    exact List.mem_eraseIdx_iff_getElem?.mpr ⟨other, different, there⟩
  rw [show (some m).bind Mode.mark = some webhookId from marked, Option.toList_some, List.singleton_append,
    List.nodup_cons] at nodup
  exact nodup.1 among

theorem keep_logged (s : Receiver) (r : ReceivedWebhook) : (s.keep r).logged = r :: s.logged := rfl

section
variable (good : Good lib Signed s ms t)
include good

theorem Good.keep (here : ms[i]? = some (c, some m)) (mark : m.mark = some sent.webhookId) (named : Named lib c sent)
    (new : ¬Logged s sent) (same : SameEvent sent r)
    (genuine : Genuine lib Signed s c r) : Good lib Signed (s.keep r) (ms.set i (c, some ⟨c, .kept sent⟩)) t where
  sound := ⟨good.sound.profiles, good.sound.reading, good.sound.running, good.sound.few⟩
  marks := by
    have before := pick_at Mode.mark here
    have after_ := pick_set Mode.mark here (some ⟨c, .kept sent⟩)
    have alike : (some (⟨c, .kept sent⟩ : Mode)).bind Mode.mark = (some m).bind Mode.mark := mark.symm
    rw [alike] at after_
    exact (after_.trans before.symm).trans good.marks
  distinct := good.distinct
  stands j d m' found := by
    have reads : GoOn s.reads (s.keep r).reads := (Quiet.refl s).reads
    have now : Stands lib (s.keep r) c (.kept sent) := ⟨named, r, by simp [keep_logged], same⟩
    refine all_set (P := fun _ d m => m.call = d ∧ Stands lib _ d m.stage) ⟨rfl, now⟩ (fun j d m' other there => ?_) found
    obtain ⟨call, stands⟩ := good.stands j d m' there
    refine ⟨call, stands.on reads (by simp +contextual [keep_logged]) fun sent' marked old logged => ?_⟩
    obtain ⟨r', among, same'⟩ := logged
    rcases List.mem_cons.mp (keep_logged s r ▸ among) with rfl | before
    · have ids : sent'.webhookId = sent.webhookId := same'.2.symm.trans same.2
      exact marks_apart good other here there mark (marked.trans (congrArg some ids))
    · exact old ⟨r', before, same'⟩
  records r' among := by
    have reads : GoOn s.reads (s.keep r).reads := (Quiet.refl s).reads
    rcases List.mem_cons.mp (keep_logged s r ▸ among) with rfl | before
    · obtain ⟨mode, there⟩ := called_set here (some ⟨c, .kept sent⟩) here
      exact ⟨i, c, mode, there, genuine.on reads⟩
    · obtain ⟨j, d, mode, found, old⟩ := good.records r' before
      obtain ⟨mode', there⟩ := called_set here (some ⟨c, .kept sent⟩) found
      exact ⟨j, d, mode', there, old.on reads⟩
  once := by
    rw [keep_logged, List.map_cons, List.nodup_cons]
    refine ⟨fun among => ?_, good.once⟩
    obtain ⟨r', there, alike⟩ := List.mem_map.mp among
    simp only [event, Prod.mk.injEq] at alike
    exact new ⟨r', there, alike.1.trans same.1, alike.2.trans same.2⟩
  kept := by
    show (r :: s.kept).take MAX_KEPT <+: r :: s.logged
    exact (List.take_prefix _ _).trans (List.cons_prefix_cons.mpr ⟨rfl, good.kept⟩)
  answers j d answer among received := (good.answers j d answer among received).on (by simp +contextual [keep_logged])

theorem Good.enter (here : ms[i]? = some (c, some ⟨c, .fresh sent⟩)) (named : Named lib c sent) (new : ¬Logged s sent)
    (free : sent.webhookId ∉ s.receiving) :
    Good lib Signed { s with receiving := s.receiving ++ [sent.webhookId] } (ms.set i (c, some ⟨c, .marked sent⟩)) t := by
  have before := pick_at Mode.mark here
  have after_ := pick_set Mode.mark here (some ⟨c, .marked sent⟩)
  have reads : GoOn s.reads s.reads := (Quiet.refl s).reads
  refine ⟨⟨good.sound.profiles, good.sound.reading, good.sound.running, good.sound.few⟩, ?_, ?_, ?_, ?_, good.once, good.kept,
    fun j d answer among received => (good.answers j d answer among received).on fun _ => id⟩
  · have others : (pick Mode.mark (ms.eraseIdx i)).Perm s.receiving := by
      have none_ : ((some (⟨c, .fresh sent⟩ : Mode)).bind Mode.mark).toList = [] := rfl
      rw [none_, List.nil_append] at before
      exact before.symm.trans good.marks
    have one : ((some (⟨c, .marked sent⟩ : Mode)).bind Mode.mark).toList = [sent.webhookId] := rfl
    rw [one] at after_
    exact after_.trans ((others.cons _).trans (List.perm_append_singleton _ _).symm)
  · rw [List.nodup_append]
    refine ⟨good.distinct, List.nodup_singleton _, ?_⟩
    rintro old among last same rfl
    exact free (List.mem_singleton.mp same ▸ among)
  · intro j d m' found
    have now : Stands lib { s with receiving := s.receiving ++ [sent.webhookId] } c (.marked sent) := ⟨named, new⟩
    refine all_set (P := fun _ d m => m.call = d ∧ Stands lib _ d m.stage) ⟨rfl, now⟩ (fun j d m' other there => ?_) found
    obtain ⟨call, stands⟩ := good.stands j d m' there
    exact ⟨call, stands.on reads (fun _ => id) fun _ _ old => old⟩
  · intro r among
    obtain ⟨j, d, mode, found, genuine⟩ := good.records r among
    obtain ⟨mode', there⟩ := called_set here (some ⟨c, .marked sent⟩) found
    exact ⟨j, d, mode', there, genuine.on reads⟩

theorem Good.leave (here : ms[i]? = some (c, some m)) (mark : m.mark = some sent.webhookId) (call : m'.call = c)
    (unmarked : m'.mark = none) (stands : Stands lib s c m'.stage) :
    Good lib Signed (s.leave sent.webhookId) (ms.set i (c, some m')) t := by
  have before := pick_at Mode.mark here
  have after_ := pick_set Mode.mark here (some m')
  have reads : GoOn s.reads s.reads := (Quiet.refl s).reads
  refine ⟨⟨good.sound.profiles, good.sound.reading, good.sound.running, good.sound.few⟩, ?_, good.distinct.filter _, ?_, ?_,
    good.once, good.kept, fun j d answer among received => (good.answers j d answer among received).on fun _ => id⟩
  · rw [show (some m).bind Mode.mark = some sent.webhookId from mark, Option.toList_some, List.singleton_append] at before
    rw [show (some m').bind Mode.mark = none from unmarked, Option.toList_none, List.nil_append] at after_
    have whole := before.symm.trans good.marks
    have distinct := whole.nodup_iff.mpr good.distinct
    have rest : (pick Mode.mark (ms.eraseIdx i)).filter (fun other => other ≠ sent.webhookId) =
        pick Mode.mark (ms.eraseIdx i) := by
      refine List.filter_eq_self.mpr fun other among => ?_
      have different : other ≠ sent.webhookId := by
        rintro rfl
        exact (List.nodup_cons.mp distinct).1 among
      simpa using different
    have filtered := whole.filter fun other => other ≠ sent.webhookId
    rw [List.filter_cons_of_neg (by simp), rest] at filtered
    exact after_.trans filtered
  · intro j d m'' found
    have now : Stands lib (s.leave sent.webhookId) c m'.stage := stands.on reads (fun _ => id) fun _ _ old => old
    refine all_set (P := fun _ d m => m.call = d ∧ Stands lib _ d m.stage) ⟨call, now⟩ (fun j d m'' other there => ?_) found
    obtain ⟨call', stands'⟩ := good.stands j d m'' there
    exact ⟨call', stands'.on reads (fun _ => id) fun _ _ old => old⟩
  · intro r among
    obtain ⟨j, d, mode, found, genuine⟩ := good.records r among
    obtain ⟨mode', there⟩ := called_set here (some m') found
    exact ⟨j, d, mode', there, genuine.on reads⟩

theorem Good.event (e : Seen)
    (told : ∀ j d answer, e = .finished j d (.ok answer) → answer.status = 200 → Acknowledged lib s d) :
    Good lib Signed s ms (t ++ [e]) :=
  { good with
    answers := fun j d answer among received => by
      rcases List.mem_append.mp among with old | last
      · exact good.answers j d answer old received
      · exact told j d answer (List.mem_singleton.mp last).symm received }

end

/-- Between two acts no delivery is still to be looked up. -/
structure Rests (lib : ReceiverLibraries) (Signed : EcPublicJwk → String → Bytes → Prop) (s : Receiver)
    (ms : List (Delivery × Option Mode)) (t : List Seen) : Prop where
  good : Good lib Signed s ms t
  looked : ∀ (j : ℕ) d m sent, ms[j]? = some (d, some m) → m.stage ≠ .fresh sent

/-- And within an act only its own, which was kept if its id is remembered. -/
structure Acts (lib : ReceiverLibraries) (Signed : EcPublicJwk → String → Bytes → Prop) (i : ℕ) (s : Receiver)
    (ms : List (Delivery × Option Mode)) (t : List Seen) : Prop where
  good : Good lib Signed s ms t
  looked : ∀ (j : ℕ) d m sent, ms[j]? = some (d, some m) → m.stage = .fresh sent →
    j = i ∧ (sent.webhookId ∈ s.seen ↔ Logged s sent)

/-- A delivery comes with a date that is a number, and its id is remembered exactly where a delivery of its store with that id
    was kept. -/
def Remembered (lib : ReceiverLibraries) (s : Receiver) : Action Delivery Unit Outside → Bool
  | .start d =>
    match addressed lib d with
    | .ok sent => Dated lib d && decide (sent.webhookId ∈ s.seen ↔ Logged s sent)
    | .error _ => true
  | _ => true

theorem Acts.sync (unforgeable : Unforgeable lib.toLibraries Signed) (empty : lib.parseJson [] = none)
    (acts : Acts lib Signed i s ms t) (here : ms[i]? = some (c, some m)) (step : Syncs lib m s s' m') :
    Good lib Signed s' (ms.set i (c, some m')) t := by
  have good := acts.good
  obtain ⟨call, stands⟩ := good.stands i c m here
  cases step with
  | duplicate seen =>
    obtain rfl := call
    obtain ⟨_, remembered⟩ := acts.looked i _ _ _ here rfl
    exact good.move here rfl rfl ⟨stands, remembered.mp seen⟩
  | inProgress => exact good.move here call rfl trivial
  | admitted new free =>
    obtain rfl := call
    obtain ⟨_, remembered⟩ := acts.looked i _ _ _ here rfl
    exact good.enter here stands (fun logged => new (remembered.mpr logged)) free
  | @found _ sent _ _ found =>
    have quiet := quiet_keysOf s sent.profile.href
    have from_ := (found_keysOf good.sound found).on quiet.reads
    exact (good.quiet quiet).move here call rfl ⟨stands.1, by simpa [Logged, quiet.logged] using stands.2, from_⟩
  | @refused _ sent =>
    have quiet := quiet_keysOf s sent.profile.href
    exact (good.quiet quiet).move here call rfl ⟨stands.1, by simpa [Logged, quiet.logged] using stands.2⟩
  | @pending _ sent _ _ pending =>
    have quiet := quiet_keysOf s sent.profile.href
    have read := pending_keysOf good.sound pending
    exact (good.quiet quiet).move here call rfl ⟨stands.1, by simpa [Logged, quiet.logged] using stands.2, read⟩
  | rejected => exact good.move here call rfl ⟨stands.1, stands.2.1⟩
  | keeps verifies =>
    obtain rfl := call
    obtain ⟨named, new, from_⟩ := stands
    exact good.keep here rfl named new ⟨rfl, rfl⟩ (genuine unforgeable empty named.1 named.2 from_ verifies)
  | leaves => exact good.leave here rfl call rfl trivial
  | done => exact good.leave here rfl call rfl stands

theorem fresh_after {lib : ReceiverLibraries} {m m' : Mode} {s s' : Receiver} (step : Syncs lib m s s' m') (sent : Addressed) :
    m'.stage ≠ .fresh sent := by
  cases step <;> simp

theorem good_restart (good : Good lib Signed s ms t) : Good lib Signed (restart s) (ms.map fun call => (call.1, none)) t where
  sound := by
    refine ⟨fun url readAt keys found => ?_, fun url n found => ?_, ?_, Nat.zero_le _⟩
    · exact nomatch (show (none : Option CacheEntry) = some _ from found)
    · exact nomatch (show (none : Option ℕ) = some _ from found)
    · show 0 = List.countP _ (s.reads.map _)
      rw [List.countP_map, eq_comm, List.countP_eq_zero]
      simp
  marks := by
    rw [pick_killed]
    exact List.Perm.refl []
  distinct := List.nodup_nil
  stands i c m found := nomatch mode_of_kill found
  records r among := by
    obtain ⟨i, d, mode, found, genuine⟩ := good.records r among
    refine ⟨i, d, none, by rw [List.getElem?_map, found]; rfl, genuine.on fun n read there => ?_⟩
    exact ⟨{ read with running := false }, by simp [restart, there], rfl, fun _ same => same⟩
  once := good.once
  kept := List.nil_prefix
  answers i d answer among received := (good.answers i d answer among received).on fun _ => id

theorem keeps (unforgeable : Unforgeable lib.toLibraries Signed) (empty : lib.parseJson [] = none) :
    Keeps (receiver lib) (steps lib) Ends (Rests lib Signed) (Acts lib Signed)
      fun w _ a => Remembered lib w.shared a = true where
  start {w ms t c} rests _ may := by
    refine ⟨⟨c, begins lib c⟩, follows_receive, ?_, fun j d m sent found fresh => ?_⟩
    · have good := rests.good
      have unmarked : (⟨c, begins lib c⟩ : Mode).mark = none := by
        unfold begins
        cases addressed lib c <;> rfl
      have stands : Stands lib w.shared c (begins lib c) := by
        simp only [Remembered] at may
        unfold begins
        cases named : addressed lib c with
        | error answer => trivial
        | ok sent =>
          simp only [named, Bool.and_eq_true] at may
          exact ⟨named, may.1⟩
      refine { good with
        marks := by rw [pick_append unmarked]; exact good.marks
        stands := fun j d m found =>
          all_append (P := fun _ d m => m.call = d ∧ Stands lib w.shared d m.stage) ⟨rfl, stands⟩ good.stands found
        records := fun r among => ?_ }
      obtain ⟨i, d, mode, found, genuine⟩ := good.records r among
      obtain ⟨inside, _⟩ := List.getElem?_eq_some_iff.mp found
      exact ⟨i, d, mode, by rw [List.getElem?_append_left inside, found], genuine⟩
    · rcases mode_of_append found with ⟨rfl, rfl, now⟩ | old
      · cases now
        refine ⟨rfl, ?_⟩
        have named : addressed lib d = .ok sent := by
          unfold begins at fresh
          cases named : addressed lib d with
          | error answer => simp [named] at fresh
          | ok other =>
            simp only [named, Stage.fresh.injEq] at fresh
            rw [fresh]
        simp only [Remembered, named, Bool.and_eq_true, decide_eq_true_eq] at may
        exact may.2
      · exact absurd fresh (rests.looked j d m sent old)
  resume {w ms t i} rests _ _ := ⟨rests.good, fun j d m sent found fresh => absurd fresh (rests.looked j d m sent found)⟩
  sync {s ms t i c m s' m'} acts here step := by
    refine ⟨acts.sync unforgeable empty here step, fun j d m'' sent found fresh => ?_⟩
    rcases mode_of_set found with ⟨rfl, rfl, now⟩ | ⟨other, old⟩
    · cases now
      exact absurd fresh (fresh_after step sent)
    · exact absurd (acts.looked j d m'' sent old fresh).1 other
  ask {s ms t i c m o m' w a calls} acts here asks _ _ _ := by
    obtain ⟨rfl, _, looked⟩ := asks
    rw [set_same here]
    refine ⟨acts.good.event _ (by simp), fun j d m sent found fresh => ?_⟩
    obtain ⟨rfl, _⟩ := acts.looked j d m sent found fresh
    rw [here] at found
    cases found
    exact looked sent fresh
  serve {w ms t i c m m₀ o rest input answer s'} rests _ here _ _ asks served := by
    obtain ⟨rfl, joins, _⟩ := asks
    have good := rests.good.event (.answered i c o answer) (by simp)
    cases o with
    | turn =>
      cases served
      have same : answered m .turn (.ok ()) = m := by
        obtain ⟨c, stage⟩ := m
        cases stage <;> rfl
      refine ⟨trivial, ?_⟩
      show Rests lib Signed _ (ms.set i (c, some (answered m .turn (.ok ())))) _
      rw [same, set_same here]
      exact ⟨good, rests.looked⟩
    | read n =>
      obtain ⟨sent, joining⟩ := joins n rfl
      obtain ⟨call, stage⟩ := m
      obtain rfl : stage = .joining sent n := joining
      obtain ⟨rfl, named, new, read, there, url⟩ := rests.good.stands i c _ here
      have looked {st : Stage} (other : ∀ sent, st ≠ .fresh sent) : ∀ (j : ℕ) d m sent,
          (ms.set i (call, some ⟨call, st⟩))[j]? = some (d, some m) → m.stage ≠ .fresh sent := by
        intro j d m sent found
        rcases mode_of_set found with ⟨_, _, now⟩ | ⟨_, old⟩
        · cases now
          exact other sent
        · exact rests.looked j d m sent old
      obtain ⟨readUrl, result, running⟩ := read
      obtain rfl : readUrl = sent.profile.href := url
      simp only [receiver, serve, there] at served
      split at served
      next profile same =>
        cases same
        cases served
        refine ⟨trivial, good.move here rfl rfl ⟨named, new, n, _, profile, there, rfl, rfl, rfl⟩, looked (by simp)⟩
      next same =>
        cases same
        cases served
        exact ⟨trivial, good.move here rfl rfl ⟨named, new⟩, looked (by simp)⟩
      · cases served
  finish {s ms t i c m result w a calls} acts here ends _ _ := by
    obtain ⟨unmarked, acknowledged⟩ := ends
    obtain ⟨call, stands⟩ := acts.good.stands i c m here
    have good := acts.good.event (.finished i c result) fun j d answer same received => by
      cases same
      obtain ⟨sent, stage⟩ := acknowledged answer rfl received
      rw [stage] at stands
      exact ⟨sent, stands.1.1, stands.2⟩
    refine ⟨{ good with
      marks := ?_
      stands := fun _ _ _ found => all_over (fun j d m _ => good.stands j d m) found
      records := fun r among => ?_ }, fun j d m' sent found fresh => ?_⟩
    · have before := pick_at Mode.mark here
      have after_ := pick_set Mode.mark here none
      rw [show (some m).bind Mode.mark = none from unmarked] at before
      exact (after_.trans before.symm).trans good.marks
    · obtain ⟨j, d, mode, found, genuine⟩ := good.records r among
      obtain ⟨mode', there⟩ := called_set here none found
      exact ⟨j, d, mode', there, genuine⟩
    · rcases mode_of_set found with ⟨_, _, now⟩ | ⟨other, old⟩
      · cases now
      · exact other (acts.looked j d m' sent old fresh).1
  outside {w ms t k} rests _ := ⟨rests.good.quiet (quiet_outside k _), rests.looked⟩
  crash {w ms t} rests _ _ := ⟨good_restart rests.good, fun j d m sent found => nomatch mode_of_kill found⟩

end

/-! ### Runs -/

abbrev Act := Action Delivery Unit Outside

def run (lib : ReceiverLibraries) (now : ℤ) (actions : List Act) :
    System Delivery Receiver Op Failure Op.Answer WebhookAnswer × List Seen :=
  Traces.exec (Routines.step (receiver lib)) ⟨createOrderWebhookReceiver now, []⟩ actions

def sampleKey : WebhookKey :=
  ⟨⟨"EC", "P-256", "rU-AmsGyhSGw8arZk0AwAErqKppV0Za9dtqKtBNmgIg",
    "aLxTAeG9v22oQcEjXK1M7TDHSiEYHqyJNHRPxZ8z4xo"⟩, "a#ucp-p256"⟩

def sampleBody : Bytes :=
  [123, 34, 105, 100, 34, 58, 34, 111, 34, 44, 34, 112, 101, 114, 109, 97, 108, 105, 110, 107, 95, 117, 114, 108, 34, 58,
   34, 104, 116, 116, 112, 115, 58, 47, 47, 97, 46, 118, 105, 116, 114, 105, 110, 101, 101, 46, 97, 103, 101, 110,
   116, 112, 101, 121, 46, 99, 111, 109, 47, 114, 34, 125]

def sampleDigest : String := "LuixKUAwUlcNvVLBntCyRRn+aiMPPqUIr+TfZp5whCE="

def sampleParams : String :=
  "(\"@method\" \"@authority\" \"@path\" \"content-digest\" \"content-type\" \"ucp-agent\" \"webhook-id\" \"we" ++
  "bhook-timestamp\");created=1000;keyid=\"a#ucp-p256\""

def sampleBase : String :=
  "\"@method\": POST\n" ++
  "\"@authority\": agentpey.com\n" ++
  "\"@path\": /ucp/webhooks/orders\n" ++
  "\"content-digest\": sha-256=:LuixKUAwUlcNvVLBntCyRRn+aiMPPqUIr+TfZp5whCE=:\n" ++
  "\"content-type\": application/json\n" ++
  "\"ucp-agent\": profile=\"https://a.vitrinee.agentpey.com/.well-known/ucp\"\n" ++
  "\"webhook-id\": 11111111\n" ++
  "\"webhook-timestamp\": 100000000\n" ++
  "\"@signature-params\": " ++ sampleParams

def sampleSignature : Bytes :=
  [72, 212, 234, 189, 200, 146, 134, 165, 61, 163, 88, 192, 26, 73, 93, 25, 61, 6, 13, 106, 138, 222, 96, 11, 151, 87,
   64, 134, 242, 216, 82, 64, 147, 141, 72, 166, 228, 17, 189, 168, 202, 163, 108, 128, 2, 3, 34, 213, 120, 179, 16,
   215, 12, 53, 104, 239, 210, 121, 228, 222, 227, 207, 7, 18]

def sampleText : String := "SNTqvciShqU9o1jAGkldGT0GDWqK3mALl1dAhvLYUkCTjUim5BG9qMqjbIACAyLVeLMQ1ww1aO/SeeTe488HEg=="

def samplePage (store pathname : String) : Page :=
  ⟨"https://" ++ store ++ pathname, "https://" ++ store, "https:", "", store, pathname, ""⟩

def storeA : String := "a.vitrinee.agentpey.com"
def storeB : String := "b.vitrinee.agentpey.com"
def wellKnown : String := "/.well-known/ucp"

def sampleLib : ReceiverLibraries where
  url text :=
    if text = "https://agentpey.com/ucp/webhooks/orders" then some ⟨"agentpey.com", "/ucp/webhooks/orders", ""⟩ else none
  toUpperCase := String.toUpper
  sha256Base64 body := if body = sampleBody then sampleDigest else ""
  base64 bytes := if bytes = sampleSignature then sampleText else ""
  fromBase64 text := if text = sampleText then sampleSignature else []
  sign _ _ := []
  verify key base signature :=
    some (decide (key = sampleKey.toEcPublicJwk ∧ base = sampleBase ∧ signature = sampleSignature))
  number text := if text = "1000" then .finite 1000 else .nan
  page text :=
    if text = "https://" ++ storeA ++ wellKnown then some (samplePage storeA wellKnown)
    else if text = "https://" ++ storeB ++ wellKnown then some (samplePage storeB wellKnown)
    else if text = "https://" ++ storeA ++ "/r" then some (samplePage storeA "/r")
    else none
  parseJson body :=
    if body = sampleBody then some (.object [("id", .string "o"), ("permalink_url", .string ("https://" ++ storeA ++ "/r"))])
    else none
  sha256Hex text := if text = "o" then "65c74c15a686187bb6bbf9958f494fc6b80068034a659a9ad44991b08c58f2d2" else ""

def sampleDelivery (store : String) : Delivery where
  url := "https://agentpey.com/ucp/webhooks/orders"
  headers := ([("content-type", "application/json"), ("content-digest", "sha-256=:" ++ sampleDigest ++ ":"),
    ("ucp-agent", "profile=\"https://" ++ store ++ wellKnown ++ "\""), ("webhook-id", "11111111"),
    ("webhook-timestamp", "100000000"), ("signature-input", "sig1=" ++ sampleParams),
    ("signature", "sig1=:" ++ sampleText ++ ":")].lookup ·)
  body := sampleBody

def sampleProfile : Value :=
  .object [("keys", .array [.object [("kty", .string "EC"), ("crv", .string "P-256"), ("x", .string sampleKey.x),
    ("y", .string sampleKey.y), ("kid", .string sampleKey.kid), ("use", .string "sig")]])]

def sampleKept : List Act :=
  ([.start (sampleDelivery storeA), .outside (.answer 0 (some sampleProfile)), .outside (.settle 0)] : List Act) ++
    (List.replicate 3 [.perform 0 (), .resume 0]).flatten

theorem sample_unforgeable : Unforgeable sampleLib.toLibraries fun key base signature =>
    sampleLib.verify key base signature = some true := by
  refine ⟨fun _ _ _ valid => valid, fun key key' base base' signature valid valid' => ?_⟩
  simp only [sampleLib, Option.some.injEq, decide_eq_true_eq] at valid valid'
  exact valid.2.1.trans valid'.2.1.symm

def sampleRecord : ReceivedWebhook :=
  ⟨"11111111", "https://" ++ storeA, "65c74c15a686187b", "created", none, 100000000000, 1000000⟩

/-! The signature of the sample, part by part. -/

def sampleComponents : List String :=
  ["@method", "@authority", "@path", "content-digest", "content-type", "ucp-agent", "webhook-id", "webhook-timestamp"]

def sampleTarget : Url := ⟨"agentpey.com", "/ucp/webhooks/orders", ""⟩

theorem sample_listed : Listed sampleComponents := by
  refine ⟨by decide, ?_, ?_⟩
  · simp only [namesOf, sampleComponents, List.map_cons, List.map_nil, @toList_ofList _]
    unfold Listable
    decide
  · simp only [namesOf, sampleComponents, List.map_cons, List.map_nil, @toList_ofList _]
    decide

theorem sample_given : ((sampleDelivery storeA).headers "signature-input").map trim = some ("sig1=" ++ sampleParams) := by
  refine congrArg some (toList_inj.mp ?_)
  unfold sampleParams
  simp only [trim, toList_append, @toList_ofList _]
  decide

theorem sample_read : signatureInputMember ("sig1=" ++ sampleParams) =
    some ⟨SIGNATURE_LABEL, sampleParams, some (listOf (namesOf sampleComponents))⟩ := by
  have shape : sampleParams.toList =
      '(' :: (listOf (namesOf sampleComponents) ++ ')' :: ";created=1000;keyid=\"a#ucp-p256\"".toList) := by
    unfold sampleParams
    simp only [namesOf, sampleComponents, List.map_cons, List.map_nil, toList_append, @toList_ofList _]
    decide
  refine member_read sample_listed ?_ (by simp [SIGNATURE_LABEL]) shape
  rw [toList_ofList]
  decide

theorem sample_parameter (name : String) :
    parameter sampleParams name = [("keyid", "a#ucp-p256"), ("created", "1000")].lookup name := by
  have found : matchAll 0 sampleParams.toList = [("created", "1000"), ("keyid", "a#ucp-p256")] := by
    unfold sampleParams
    simp only [toList_append, @toList_ofList _]
    decide
  rw [parameter, found]
  rfl

theorem sample_based : signatureBase sampleComponents sampleParams (fun name =>
    componentValue sampleLib.toLibraries name "POST" sampleTarget (sampleDelivery storeA).headers) = some sampleBase := by
  have agent : trim ("profile=\"https://" ++ storeA ++ wellKnown ++ "\"") =
      "profile=\"https://a.vitrinee.agentpey.com/.well-known/ucp\"" := by
    refine toList_inj.mp ?_
    simp only [trim, storeA, wellKnown, toList_append, @toList_ofList _]
    decide
  have digest : trim ("sha-256=:" ++ sampleDigest ++ ":") = "sha-256=:LuixKUAwUlcNvVLBntCyRRn+aiMPPqUIr+TfZp5whCE=:" := by
    refine toList_inj.mp ?_
    simp only [trim, sampleDigest, toList_append, @toList_ofList _]
    decide
  have known : sampleComponents.map (fun name =>
        componentValue sampleLib.toLibraries name "POST" sampleTarget (sampleDelivery storeA).headers) =
      ["POST", "agentpey.com", "/ucp/webhooks/orders", "sha-256=:LuixKUAwUlcNvVLBntCyRRn+aiMPPqUIr+TfZp5whCE=:",
        "application/json", "profile=\"https://a.vitrinee.agentpey.com/.well-known/ucp\"", "11111111", "100000000"].map some := by
    simp [sampleComponents, sampleTarget, componentValue, sampleDelivery, List.lookup_cons, agent, digest]
    decide +kernel
  refine signatureBase_lines known ?_ ?_
  · simp only [List.forall_mem_cons, @toList_ofList _]
    decide
  · unfold sampleBase sampleParams
    simp only [sampleComponents, List.zip_cons_cons, List.flatMap_cons, toList_append, @toList_ofList _]
    decide +kernel

theorem sample_verifies :
    verifyHttpMessageSignature sampleLib.toLibraries (signatureInput (sampleDelivery storeA) [sampleKey] 1000) =
      .ok ⟨"a#ucp-p256", some (.finite 1000), sampleComponents⟩ := by
  have listing := components_read sample_listed
  have base64 : isBase64 sampleText.toList = true := by
    rw [sampleText, toList_ofList]
    decide
  have bytes : sampleLib.fromBase64 sampleText = sampleSignature := by
    simp [sampleLib]
  let input := signatureInput (sampleDelivery storeA) [sampleKey] 1000
  have given : (input.headers "signature-input").map trim = some ("sig1=" ++ sampleParams) := sample_given
  have headed : (input.headers "signature").map trim = some (SIGNATURE_LABEL ++ "=:" ++ sampleText ++ ":") :=
    congrArg some (trim_signature sampleText)
  have digest : (input.headers "content-digest").map trim = some (contentDigest sampleLib.toLibraries input.body) := by
    have same : contentDigest sampleLib.toLibraries sampleBody = "sha-256=:" ++ sampleDigest ++ ":" := by
      simp [contentDigest, sampleLib]
    have trimmed : trim (contentDigest sampleLib.toLibraries sampleBody) = contentDigest sampleLib.toLibraries sampleBody :=
      trim_digest sampleBody
    rw [same] at trimmed
    exact congrArg some (trimmed.trans same.symm)
  have located : sampleLib.url input.url = some sampleTarget := by
    simp [input, signatureInput, sampleDelivery, sampleLib, sampleTarget]
  have accepts := verify_accepts given headed (fun _ => digest) sample_read (sample_parameter "keyid")
    (by rw [listing]; decide) (sample_parameter "alg") (sample_parameter "expires") located
    (by
      rw [listing]
      simp [input, required, signatureInput, sampleTarget, sampleDelivery, sampleBody, REQUIRED_COMPONENTS,
        sampleComponents, List.lookup_cons])
    (signatureValue_read base64) (show input.keyFor "a#ucp-p256" = some sampleKey.toEcPublicJwk by
      simp [input, signatureInput, sampleKey])
    ⟨rfl, rfl⟩ (by rw [listing]; exact sample_based) (by rw [bytes]; rfl) (by rw [bytes]; simp [sampleLib])
  rw [accepts, listing, sample_parameter]
  rfl

variable {lib : ReceiverLibraries} {d : Delivery} {sent : Addressed}

theorem addressed_of {url : String} {profile : Page} (small : d.body.length ≤ MAX_BODY_BYTES)
    (id : isWebhookId (d.header "webhook-id") = true) (time : isTimestamp (d.header "webhook-timestamp") = true)
    (agent : agentProfile (d.header "ucp-agent") = some url) (page : lib.page url = some profile)
    (store : ¬(profile.protocol ≠ "https:" ∨ profile.port ≠ "" ∨ profile.pathname ≠ "/.well-known/ucp" ∨
      profile.search ≠ "" ∨ ¬isAgentPeyStoreHost profile.hostname)) :
    addressed lib d = .ok ⟨d.header "webhook-id", d.header "webhook-timestamp", profile⟩ := by
  rw [addressed, if_neg (Nat.not_lt.mpr small)]
  dsimp only
  rw [if_neg (by simp [id, time]), agent, Option.bind_some, page]
  exact if_neg store

theorem sample_addressed {store : String} (known : store = storeA ∨ store = storeB) :
    addressed sampleLib (sampleDelivery store) = .ok ⟨"11111111", "100000000", samplePage store wellKnown⟩ := by
  have id : (sampleDelivery store).header "webhook-id" = "11111111" := by
    show trim "11111111" = _
    decide
  have time : (sampleDelivery store).header "webhook-timestamp" = "100000000" := by
    show trim "100000000" = _
    decide
  have agent : agentProfile ((sampleDelivery store).header "ucp-agent") = some ("https://" ++ store ++ wellKnown) := by
    show agentProfile (trim ("profile=\"https://" ++ store ++ wellKnown ++ "\"")) = _
    obtain rfl | rfl := known
    all_goals
      simp only [trim, agentProfile, storeA, storeB, wellKnown, toList_append, @toList_ofList _]
      decide
  have page : sampleLib.page ("https://" ++ store ++ wellKnown) = some (samplePage store wellKnown) := by
    obtain rfl | rfl := known <;> decide
  have small : (sampleDelivery store).body.length ≤ MAX_BODY_BYTES := (by decide : sampleBody.length ≤ MAX_BODY_BYTES)
  have found := addressed_of small (by rw [id]; decide) (by rw [time]; decide) agent page
    (by obtain rfl | rfl := known <;> decide)
  rwa [id, time] at found

variable {now : ℤ} {order : DeliveredOrder}

theorem verified_of {keys : List WebhookKey} {check : SignatureCheck} {page : Page}
    (ok : verifyHttpMessageSignature lib.toLibraries (signatureInput d keys (now / 1000)) = .ok check)
    (fresh : isStale (now / 1000) check.created = false) (read : (lib.parseJson d.body).bind deliveredOrderSchema = some order)
    (found : lib.page order.permalinkUrl = some page) (own : page.origin = sent.profile.origin) :
    verified lib d sent keys now = .ok (.ok order) := by
  rw [verified, ok]
  dsimp only
  rw [fresh, if_neg Bool.false_ne_true, read]
  dsimp only
  rw [found]
  exact if_pos own

/-- A delivery that verifies under a profile is kept once the profile is read. -/
theorem run_kept {profile : Value} (named : addressed lib d = .ok sent)
    (valid : verified lib d sent (webhookKeys profile) 1000000 = .ok (.ok order)) :
    let s := (run lib 1000000 ([.start d, .outside (.answer 0 (some profile)), .outside (.settle 0)] ++
      (List.replicate 3 [.perform 0 (), .resume 0]).flatten)).1.shared
    s.seen = [sent.webhookId] ∧ s.logged = [received lib sent order 1000000] := by
  have taken : (Bucket.full PROFILE_READ_BURST 1000000).take PROFILE_READ_BURST PROFILE_READS_PER_SECOND 1000000 =
      (true, ⟨9, 1000000⟩) := by
    decide +kernel
  have lifted (answer : WebhookAnswer) :
      (liftM (Except.ok answer : Except Failure WebhookAnswer) : Job WebhookAnswer) = .returns answer := rfl
  simp [run, Routines.step, receiver, receive, named, valid, lifted, taken, Routine.atomic, bind, Routine.bind,
    Routine.advance, Routine.finally_, Routine.attempt, Routine.ask, Routine.ofExcept, createOrderWebhookReceiver,
    Receiver.arrive, Receiver.keysOf, Receiver.startRead, Receiver.answerRead, Receiver.settleRead, Receiver.remember,
    Receiver.check, Receiver.keep, Receiver.leave, MAX_CONCURRENT_PROFILE_READS, PROFILES_KEPT, SEEN_MAX, awaited,
    verifyAndKeep, keysOf, ask, serve, outside, received]

theorem sample_kept : (run sampleLib 1000000 sampleKept).1.shared.seen = ["11111111"] ∧
    (run sampleLib 1000000 sampleKept).1.shared.logged = [sampleRecord] := by
  have keys : webhookKeys sampleProfile = [sampleKey] := by decide
  have page : sampleLib.page ("https://" ++ storeA ++ "/r") = some (samplePage storeA "/r") := by decide
  have valid : verified sampleLib (sampleDelivery storeA) ⟨"11111111", "100000000", samplePage storeA wellKnown⟩
      (webhookKeys sampleProfile) 1000000 = .ok (.ok ⟨"o", "https://" ++ storeA ++ "/r", none, [], none⟩) := by
    rw [keys]
    exact verified_of sample_verifies (by decide +kernel) rfl page rfl
  obtain ⟨seen, logged⟩ := run_kept (sample_addressed (.inl rfl)) valid
  refine ⟨seen, logged.trans ?_⟩
  simp only [received, sampleRecord, sampleLib, if_true, @toList_ofList _]
  decide

theorem dated_of {text created : String} {member : SignatureInputMember}
    (given : (d.headers "signature-input").map trim = some text) (read : signatureInputMember text = some member)
    (named : parameter member.params "created" = some created) (counted : lib.number created ≠ .nan) : Dated lib d = true := by
  rw [Dated, given, Option.bind_some, read]
  dsimp only
  rw [named, Option.map_some]
  split
  · rename_i same
    exact absurd (Option.some.inj same) counted
  · rfl

theorem remembered_start {s : Receiver} (named : addressed lib d = .ok sent) (dated : Dated lib d = true)
    (same : sent.webhookId ∈ s.seen ↔ Logged s sent) : Remembered lib s (.start d) = true := by
  simp [Remembered, named, dated, same]

/-- An id that is remembered is acknowledged, whosever it was. -/
theorem run_duplicate {lib : ReceiverLibraries} {actions : List Act} {d : Delivery} {sent : Addressed}
    (named : addressed lib d = .ok sent) (seen : sent.webhookId ∈ (run lib now actions).1.shared.seen) :
    (run lib now (actions ++ [.start d])).1.shared = (run lib now actions).1.shared ∧
      ∃ i, .finished i d (.ok ⟨200, .duplicate⟩) ∈ (run lib now (actions ++ [.start d])).2 := by
  have advanced : (receive lib d).advance (run lib now actions).1.shared =
      (.finished (.ok ⟨200, .duplicate⟩), (run lib now actions).1.shared) := by
    unfold receive
    rw [named]
    have looked : (run lib now actions).1.shared.arrive sent.webhookId = (.duplicate, (run lib now actions).1.shared) :=
      if_pos seen
    simp only [Routine.atomic, bind, Routine.bind, Routine.advance, looked]
    rfl
  have whole : run lib now (actions ++ [.start d]) = ((Routines.step (receiver lib) (run lib now actions).1 (.start d)).1,
      (run lib now actions).2 ++ (Routines.step (receiver lib) (run lib now actions).1 (.start d)).2) := by
    simp only [run, Traces.exec_append, Traces.exec_cons, Traces.exec_nil, List.append_nil]
  rw [whole]
  simp only [Routines.step, receiver, advanced, announce]
  exact ⟨trivial, _, List.mem_append_right _ (List.mem_singleton_self _)⟩

end AgentPey.KeptWebhooks
