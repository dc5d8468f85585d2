import AgentPey.AgentSignings

/-!
A hired agent follows its own signature: its mandate is that of the session beside it, the session is what AgentPey answered to
the agent's attempt, and attempts go up, as long as no row is stored over that of a later attempt. A repeated request of an
attempt is answered alike as long as AgentPey has the first one recorded and the dates in both bodies are the same.
-/
namespace AgentPey.FollowedSignatures
open Routines (Routine)
open AgentSignings Knowledge

/-! ### Rows -/

/-- A row of this agent, whose session AgentPey answered to its attempt, and whose mandate is that session's. -/
structure SoundRow (s : Store) (row : AgentConfig) : Prop where
  id : row.id = s.row.id
  fresh : row.consentSessionId = none ↔ row.signAttempt = 0
  session : ∀ S, row.consentSessionId = some S → ∃ r session,
    s.records (idempotencyKey row row.signAttempt) = some r ∧ r.answer = .ok session ∧ session.id = S
  mandate : ∀ M, row.mandateId = some M → ∃ S, row.consentSessionId = some S ∧ s.mandates S = some M

structure Later (s s' : Store) : Prop where
  id : s'.row.id = s.row.id
  attempts : s.row.signAttempt ≤ s'.row.signAttempt
  records : ∀ key r, s.records key = some r → s'.records key = some r
  mandates : ∀ S M, s.mandates S = some M → s'.mandates S = some M
  sound : SoundRow s s.row → SoundRow s' s'.row

section
variable {s s' s'' : Store} {row : AgentConfig}

theorem SoundRow.on (sound : SoundRow s row) (id : s'.row.id = s.row.id)
    (records : ∀ key r, s.records key = some r → s'.records key = some r)
    (mandates : ∀ S M, s.mandates S = some M → s'.mandates S = some M) : SoundRow s' row where
  id := sound.id.trans id.symm
  fresh := sound.fresh
  session S stored := by
    obtain ⟨r, session, found, answered, named⟩ := sound.session S stored
    exact ⟨r, session, records _ r found, answered, named⟩
  mandate M stored := by
    obtain ⟨S, beside, completed⟩ := sound.mandate M stored
    exact ⟨S, beside, mandates S M completed⟩

theorem SoundRow.later (sound : SoundRow s row) (later : Later s s') : SoundRow s' row :=
  sound.on later.id later.records later.mandates

theorem Later.refl (s : Store) : Later s s :=
  ⟨rfl, le_refl _, fun _ _ found => found, fun _ _ found => found, fun sound => sound⟩

theorem Later.trans (first : Later s s') (second : Later s' s'') : Later s s'' where
  id := second.id.trans first.id
  attempts := first.attempts.trans second.attempts
  records key r found := second.records key r (first.records key r found)
  mandates S M found := second.mandates S M (first.mandates S M found)
  sound := second.sound ∘ first.sound

theorem same_session {other : AgentConfig} (sound : SoundRow s row) (sound' : SoundRow s other)
    (attempts : row.signAttempt = other.signAttempt) : row.consentSessionId = other.consentSessionId := by
  by_cases zero : row.signAttempt = 0
  · rw [sound.fresh.mpr zero, sound'.fresh.mpr (attempts ▸ zero)]
  · cases stored : row.consentSessionId with
    | none => exact absurd (sound.fresh.mp stored) zero
    | some S =>
      cases stored' : other.consentSessionId with
      | none => exact absurd (attempts.trans (sound'.fresh.mp stored')) zero
      | some S' =>
        obtain ⟨r, session, found, answered, rfl⟩ := sound.session S stored
        obtain ⟨r', session', found', answered', rfl⟩ := sound'.session S' stored'
        have key : idempotencyKey row row.signAttempt = idempotencyKey other other.signAttempt := by
          rw [idempotencyKey, idempotencyKey, sound.id, sound'.id, attempts]
        rw [key, found'] at found
        cases found
        rw [answered] at answered'
        cases answered'
        rfl

end

/-! ### What the handlers know -/

def told : (o : Op) → Except Failure o.Answer → Store → Prop
  | .findAgent _, .ok (some agent), s => agent = s.row
  | .listAgents _, .ok agents, s => ∀ agent ∈ agents, agent = s.row
  | .createConsentSession _ key, .ok session, s => ∃ r, s.records key = some r ∧ r.answer = .ok session
  | .createConsentSession body key, .error (.refused .conflict), s =>
    ∃ r, s.records key = some r ∧ r.body.toProposal ≠ body.toProposal
  | .readConsentSession S, .ok state, s => ∀ M, state.mandateId = some M → s.mandates S = some M
  | _, _, _ => True

def may : Request → Op → Store → Prop
  | _, .saveAgent agent, s => SoundRow s agent
  | _, _, _ => True

def rules : Rules Request Store Op Failure Op.Answer where
  later := Later
  across := Later
  always s := SoundRow s s.row
  told := told
  starts _ := True
  may := may
  refl := Later.refl
  trans := Later.trans
  within later := later
  across_trans := Later.trans
  lasting := Later.sound

/-- No row is stored over that of a later attempt. A repeated key finds its record in time, and the date with which it was
    recorded, if all else is the same. -/
def fine : Op → Input → Store → Bool
  | .saveAgent agent, input, s => !input.arrives || s.row.signAttempt ≤ agent.signAttempt
  | .createConsentSession body key, input, s =>
    !input.arrives || (s.records key).all fun r =>
      !input.overlap && s.now < r.createdAt + IDEMPOTENCY_TTL_MS &&
        (r.body.toProposal ≠ body.toProposal || r.body.validUntil = body.validUntil)
  | _, _, _ => true

section
variable {config : Config} {c : Request} {knows : Store → Prop}
variable {account : Account} {agent : AgentConfig}

theorem knows_openSession {targets : PilotTargets} (sound : ∀ s, knows s → SoundRow s agent)
    : Knows rules c knows (openSession config account agent targets) := by
  refine knows_ask (fun _ _ => trivial) fun tenantId => ?_
  refine knows_read fun s after => ?_
  obtain ⟨s₀, later₀, here, _⟩ := after
  have before := (sound s₀ here).later later₀
  refine knows_ask (fun _ _ => trivial) fun session => ?_
  refine knows_ask (fun s' after => ?_) fun _ => ?_
  · obtain ⟨s₁, later₁, later, r, found, answered⟩ := after
    refine ⟨(before.later (later.trans later₁)).id, by simp, fun S same => ?_, fun M impossible => nomatch impossible⟩
    cases same
    exact ⟨r, session, later₁.records _ r found, answered, rfl⟩
  · cases session.consentUrl with
    | none => trivial
    | some url => trivial

theorem knows_startSigning (sound : ∀ s, knows s → SoundRow s agent) :
    Knows rules c knows (startSigning config account agent) := by
  unfold startSigning
  split_ifs
  · refine knows_ask (fun _ _ => trivial) fun targets => ?_
    cases targets with
    | none => trivial
    | some targets =>
      refine knows_attempt (knows_openSession fun s after => ?_) fun answer _ _ => ?_
      · obtain ⟨s₀, later, here, _⟩ := after
        exact (sound s₀ here).later later
      · cases answer with
        | ok reply => trivial
        | error e => trivial
  · trivial

theorem knows_readAndKeep {S : String} (stored : agent.consentSessionId = some S)
    (sound : ∀ s, knows s → SoundRow s agent) : Knows rules c knows (readAndKeep agent S) := by
  refine knows_ask (fun _ _ => trivial) fun session => ?_
  cases completed : session.mandateId with
  | none => trivial
  | some M =>
    split_ifs
    · refine knows_ask (fun s' after => ?_) fun _ => trivial
      obtain ⟨s₀, later, here, answered⟩ := after
      have now := (sound s₀ here).later later
      refine { now with mandate := fun M' same => ?_ }
      cases same
      exact ⟨S, stored, later.mandates S M (answered M completed)⟩
    · trivial

theorem knows_firmar : Knows rules c rules.always (firmar config account) := by
  refine knows_ask (fun _ _ => trivial) fun agent => ?_
  cases agent with
  | none => trivial
  | some agent =>
    refine knows_startSigning fun s after => ?_
    obtain ⟨s₀, later, sound, rfl⟩ := after
    exact SoundRow.later sound later

theorem knows_volver : Knows rules c rules.always (volver config account) := by
  refine knows_ask (fun _ _ => trivial) fun agent => ?_
  cases agent with
  | none => trivial
  | some agent =>
    have sound : ∀ s, rules.after rules.always (.findAgent account.id) (.ok (some agent)) s → SoundRow s agent := by
      rintro s ⟨s₀, later, sound, rfl⟩
      exact SoundRow.later sound later
    cases stored : agent.consentSessionId with
    | none =>
      simp only [stored]
      trivial
    | some S =>
      simp only [stored]
      split_ifs
      · refine knows_attempt (knows_readAndKeep stored sound) fun first knows' before => ?_
        cases first with
        | ok now => trivial
        | error e =>
          refine knows_ask (fun _ _ => trivial) fun _ => ?_
          refine knows_attempt (knows_readAndKeep stored fun s after => ?_) fun second _ _ => ?_
          · obtain ⟨s₁, later₁, known, _⟩ := after
            obtain ⟨s₀, later₀, here⟩ := before s₁ known
            exact (sound s₀ here).later (later₀.trans later₁)
          · cases second with
            | ok now => trivial
            | error e => trivial
      · trivial

theorem knows_hireAgain {comercio : String} {signNow : Bool} :
    Knows rules c rules.always (hireAgain config account comercio signNow) := by
  refine knows_ask (fun _ _ => trivial) fun agents => ?_
  cases found : agents.find? fun agent => agent.kind = .vitrinee_shopper && agent.comercio = some comercio with
  | none =>
    trivial
  | some existing =>
    have sound : ∀ s, rules.after rules.always (.listAgents account.id) (.ok agents) s → SoundRow s existing := by
      rintro s ⟨s₀, later, sound, read⟩
      obtain rfl := read existing (List.mem_of_find?_eq_some found)
      exact SoundRow.later sound later
    simp only
    cases existing.mandateId with
    | none =>
      dsimp only
      split_ifs
      · exact knows_startSigning sound
      · trivial
    | some mandateId =>
      refine knows_ask (fun _ _ => trivial) fun status => ?_
      split_ifs
      · refine knows_startSigning fun s after => ?_
        obtain ⟨s₀, later, here, _⟩ := after
        exact (sound s₀ here).later later
      · trivial
      · trivial

/-! ### What answers them -/

variable {body : ConsentRequest} {input : Input}

variable {s : Store} {key : String}

theorem later_consent (arrives : input.arrives = true)
    (allowed : fine (.createConsentSession body key) input s = true) : Later s (s.consent body key input).2 := by
  have records : ∀ other r, s.records other = some r → (s.consent body key input).2.records other = some r := by
    intro other r there
    simp only [fine, arrives, Bool.not_true, Bool.false_or] at allowed
    unfold Store.consent
    cases found : s.found key input.overlap with
    | some r' => exact there
    | none =>
      change (if other = key then _ else s.records other) = some r
      split_ifs with same
      · -- a record that is there is found in time
        subst same
        simp only [there, Option.all_some, Bool.and_eq_true, Bool.not_eq_true', decide_eq_true_eq] at allowed
        simp only [Store.found, allowed.1.1, there, Bool.false_eq_true, if_false, Option.filter_some, allowed.1.2, decide_true,
          if_true, reduceCtorEq] at found
      · exact there
  have row : (s.consent body key input).2.row = s.row := by
    unfold Store.consent
    split <;> rfl
  have mandates : (s.consent body key input).2.mandates = s.mandates := by
    unfold Store.consent
    split <;> rfl
  refine ⟨congrArg AgentConfig.id row, by rw [row], records, fun S M stored => by rwa [mandates], fun sound => ?_⟩
  rw [row]
  exact sound.on (congrArg AgentConfig.id row) records fun S M stored => by rwa [mandates]

theorem request_ext {a b : ConsentRequest} (proposals : a.toProposal = b.toProposal) (dates : a.validUntil = b.validUntil) :
    a = b := by
  obtain ⟨proposal, date⟩ := a
  obtain ⟨proposal', date'⟩ := b
  obtain rfl : proposal = proposal' := proposals
  obtain rfl : date = date' := dates
  rfl

/-- What AgentPey answers, it has recorded; and it refuses a repeated key for other permissions only. -/
theorem told_consent (arrives : input.arrives = true)
    (allowed : fine (.createConsentSession body key) input s = true) : ∃ r, (s.consent body key input).2.records key = some r ∧
      ((s.consent body key input).1 = refusals r.answer ∨
        (s.consent body key input).1 = .error .conflict ∧ r.body.toProposal ≠ body.toProposal) := by
  unfold Store.consent
  cases found : s.found key input.overlap with
  | none => exact ⟨_, if_pos rfl, .inl rfl⟩
  | some r =>
    have there : s.records key = some r := by
      unfold Store.found at found
      split_ifs at found
      exact (Option.filter_eq_some_iff.mp found).1
    refine ⟨r, there, ?_⟩
    dsimp only
    split_ifs with same
    · exact .inl rfl
    · refine .inr ⟨rfl, fun alike => same ?_⟩
      simp only [fine, arrives, Bool.not_true, Bool.false_or, there, Option.all_some, Bool.and_eq_true, Bool.or_eq_true,
        decide_eq_true_eq, alike, ne_eq, not_true_eq_false, false_or] at allowed
      exact request_ext alike allowed.2

theorem told_createConsentSession {s' : Store} {answer : Except Failure ConsentSession}
    (allowed : fine (.createConsentSession body key) input s = true)
    (served : serve (.createConsentSession body key) input s = some (answer, s')) :
    Later s s' ∧ told (.createConsentSession body key) answer s' := by
  simp only [serve] at served
  split_ifs at served with arrives
  · have later := later_consent arrives allowed
    obtain ⟨r, found, answered⟩ := told_consent arrives allowed
    generalize s.consent body key input = made at served later found answered
    obtain ⟨result, after⟩ := made
    cases lost : input.failure with
    | some message =>
      simp only [lost, Option.some.injEq, Prod.mk.injEq] at served
      obtain ⟨rfl, rfl⟩ := served
      exact ⟨later, trivial⟩
    | none =>
      cases result with
      | ok session =>
        simp only [lost, Option.some.injEq, Prod.mk.injEq] at served
        obtain ⟨rfl, rfl⟩ := served
        rcases answered with same | ⟨impossible, _⟩
        · refine ⟨later, r, found, ?_⟩
          cases answer : r.answer with
          | ok session' =>
            rw [answer] at same
            cases same
            rfl
          | error refused =>
            rw [answer] at same
            cases same
        · cases impossible
      | error refusal =>
        simp only [lost, Option.some.injEq, Prod.mk.injEq] at served
        obtain ⟨rfl, rfl⟩ := served
        cases refusal with
        | other code message => exact ⟨later, trivial⟩
        | conflict =>
          rcases answered with same | ⟨_, others⟩
          · cases answer : r.answer with
            | ok session =>
              rw [answer] at same
              cases same
            | error refused =>
              rw [answer] at same
              cases same
          · exact ⟨later, r, found, others⟩
  · cases served
    exact ⟨Later.refl s, trivial⟩

theorem told_reply {o : Op} {e : String → Failure} {a : o.Answer} (so : told o (.ok a) s)
    (failed : ∀ message, told o (.error (e message)) s) : told o (input.reply e a) s := by
  unfold Input.reply
  cases input.failure with
  | none => exact so
  | some message => exact failed message

theorem later_saveAgent {s' : Store} {answer : Except Failure Unit} (sound : SoundRow s agent)
    (allowed : fine (.saveAgent agent) input s = true) (served : serve (.saveAgent agent) input s = some (answer, s')) :
    Later s s' := by
  cases served
  split_ifs with arrives
  · simp only [fine, arrives, Bool.not_true, Bool.false_or, decide_eq_true_eq] at allowed
    exact ⟨sound.id, allowed, fun _ _ found => found, fun _ _ found => found,
      fun _ => sound.on sound.id (fun _ _ found => found) fun _ _ found => found⟩
  · exact Later.refl s

theorem later_outside (k : Outside) (s : Store) : Later s (outside k s) := by
  have same : Later s s := Later.refl s
  cases k with
  | complete consentSessionId mandateId =>
    have mandates : ∀ S M, s.mandates S = some M → (outside (.complete consentSessionId mandateId) s).mandates S = some M := by
      intro S M stored
      simp only [outside]
      split_ifs with named
      · subst named
        rw [stored, Option.getD_some]
      · exact stored
    exact { same with
      mandates := mandates
      sound := fun sound => sound.on rfl (fun _ _ found => found) mandates }
  | tick now => exact { same with sound := fun sound => sound.on rfl (fun _ _ found => found) fun _ _ found => found }

theorem bound : Bound rules (guarded (signings config) fine) where
  body c _ := by
    cases c with
    | firmar account => exact knows_firmar
    | volver account => exact knows_volver
    | hireAgain account comercio signNow => exact knows_hireAgain
  serve c o input s answer s' may served := by
    simp only [guarded] at served
    split_ifs at served with allowed
    have same : Later s s := Later.refl s
    cases o with
    | createConsentSession body key => exact told_createConsentSession allowed served
    | saveAgent agent => exact ⟨later_saveAgent may allowed served, trivial⟩
    | findAgent accountId =>
      cases served
      refine ⟨same, told_reply ?_ fun _ => trivial⟩
      split_ifs
      · rfl
      · trivial
    | listAgents accountId =>
      cases served
      refine ⟨same, told_reply ?_ fun _ => trivial⟩
      split_ifs
      · exact fun agent among => List.mem_singleton.mp among
      · exact fun agent among => absurd among List.not_mem_nil
    | readConsentSession S =>
      simp only [signings, serve] at served
      cases stored : s.mandates S with
      | none =>
        simp only [stored, Option.some.injEq, Prod.mk.injEq] at served
        obtain ⟨rfl, rfl⟩ := served
        exact ⟨same, told_reply (by rintro M ⟨⟩) fun _ => trivial⟩
      | some M =>
        simp only [stored, Option.some.injEq, Prod.mk.injEq] at served
        obtain ⟨rfl, rfl⟩ := served
        refine ⟨same, told_reply (fun M' shown => ?_) fun _ => trivial⟩
        split_ifs at shown
        cases shown
        exact stored
    | mandateStatus mandateId =>
      cases served
      exact ⟨same, trivial⟩
    | targetsFor agent =>
      cases served
      exact ⟨same, trivial⟩
    | ensureTenant externalRef =>
      cases served
      exact ⟨same, trivial⟩
    | pause =>
      cases served
      exact ⟨same, trivial⟩
  outside := later_outside
  restart := Later.refl

end

/-! ### Runs -/

abbrev Act := Routines.Action Request Input Outside

abbrev Seen := Routines.Event Request Op Failure Op.Answer Reply

def run (config : Config) (start : Store) (actions : List Act) :
    Routines.System Request Store Op Failure Op.Answer Reply × List Seen :=
  Traces.exec (Routines.step (signings config)) ⟨start, []⟩ actions

/-- The mandate is that of the session beside it, and the session is what AgentPey answered to the attempt that is stored. -/
structure Signed (s : Store) : Prop where
  mandate : ∀ M, s.row.mandateId = some M → ∃ S, s.row.consentSessionId = some S ∧ s.mandates S = some M
  session : ∀ S, s.row.consentSessionId = some S → ∃ r session,
    s.records (idempotencyKey s.row s.row.signAttempt) = some r ∧ r.answer = .ok session ∧ session.id = S

/-- Attempts go up, and one attempt keeps its session: none is brought back once another attempt is stored. -/
structure Onward (s s' : Store) : Prop where
  attempts : s.row.signAttempt ≤ s'.row.signAttempt
  session : s.row.signAttempt = s'.row.signAttempt → s.row.consentSessionId = s'.row.consentSessionId

/-- All who are answered of one attempt have one session, and a key is refused only where AgentPey has it for other
    permissions. -/
structure OneSession (s : Store) (t : List Seen) : Prop where
  session : ∀ i j c d key body body' session session', .answered i c (.createConsentSession body key) (.ok session) ∈ t →
    .answered j d (.createConsentSession body' key) (.ok session') ∈ t → session = session'
  conflict : ∀ i c key body, .answered i c (.createConsentSession body key) (.error (.refused .conflict)) ∈ t →
    ∃ r, s.records key = some r ∧ r.body.toProposal ≠ body.toProposal

/-- However the requests for an agent interleave, whatever AgentPey answers, and wherever a process crashes: the agent follows
    its own signature, if no row is stored over that of a later attempt, and a repeated key finds its record, in time and with
    its date. -/
theorem follows_signature (config : Config) (agentId accountId : String) (kind : AgentKind) (label : String)
    (permissions : AgentPermissions) (now : Int) (comercio : Option String) (before after : List Act)
    (allowed : ∀ earlier a later, before ++ after = earlier ++ a :: later →
      Allowed fine (run config (hired agentId accountId kind label permissions now comercio) earlier).1 a) :
    let start := hired agentId accountId kind label permissions now comercio
    Signed (run config start before).1.shared ∧
    Onward (run config start before).1.shared (run config start (before ++ after)).1.shared ∧
    OneSession (run config start before).1.shared (run config start before).2 := by
  intro start
  have begins : SoundRow start start.row :=
    ⟨rfl, by simp [start, hired, newAgent], (fun _ none => nomatch none), fun _ none => nomatch none⟩
  have limits : Bound rules (guarded (signings config) fine) := bound
  obtain ⟨later, sound, _, answered⟩ := later_along limits begins before after fun _ _ => trivial
  have first : Traces.exec (Routines.step (guarded (signings config) fine)) ⟨start, []⟩ before = run config start before :=
    exec_guarded _ fun earlier a rest split => allowed earlier a (rest ++ after) (by simp [split])
  have whole : Traces.exec (Routines.step (guarded (signings config) fine)) ⟨start, []⟩ (before ++ after) =
      run config start (before ++ after) := exec_guarded _ fun earlier a rest split => allowed earlier a rest split
  rw [first] at later sound answered
  rw [whole] at later
  have sound' := later.sound sound
  refine ⟨⟨sound.mandate, sound.session⟩, ⟨later.attempts, fun attempts => ?_⟩, ⟨?_, ?_⟩⟩
  · exact same_session (sound.later later) sound' attempts
  · intro i j c d key body body' session session' one other
    obtain ⟨s₀, onward, r, found, is⟩ := answered i c _ _ one
    obtain ⟨s₁, onward', r', found', is'⟩ := answered j d _ _ other
    have same := (onward.records key r found).symm.trans (onward'.records key r' found')
    cases same
    rw [is] at is'
    cases is'
    rfl
  · intro i c key body refused
    obtain ⟨s₀, onward, r, found, others⟩ := answered i c _ _ refused
    exact ⟨r, onward.records key r found, others⟩

/-! ### Samples -/

def sampleConfig : Config := ⟨true, "https://realops"⟩
def sampleAccount : Account := ⟨"acc_1", "ext_1"⟩
def sampleStart : Store := hired "rag_1" "acc_1" .market_brief "Brief" ⟨"0.30", "0.60", 30⟩ 0 none
def sampleTargets : PilotTargets := fun _ => ⟨"signaldesk", "USDC:G", ["brief"], ["G"]⟩

/-- Answers without a failure, with this session for a new request. -/
def sampleInput (session : String) : Input :=
  ⟨none, true, false, .ok ⟨session, some ("https://agentpey/consent/" ++ session)⟩, "ten_1", some sampleTargets, none, true⟩

/-- A request's question is answered, and it goes on, so many times. -/
def goOn (i n : Nat) (session : String) : List Act := (List.replicate n [.perform i (sampleInput session), .resume i]).flatten

/-- The agent is sent to sign, is signed, and its person comes back. -/
def sampleBack : List Act :=
  ([.start (.firmar sampleAccount)] : List Act) ++ goOn 0 5 "ccs_1" ++
    ([.outside (.complete "ccs_1" "mdt_1"), .start (.volver sampleAccount)] : List Act)

def sampleSigned : List Act := sampleBack ++ goOn 1 3 ""

theorem follows_signature_sample : (run sampleConfig sampleStart sampleSigned).1.shared.row.mandateId = some "mdt_1" ∧
    Signed (run sampleConfig sampleStart sampleSigned).1.shared := by
  have allowed := Traces.along_run (show Traces.along (Routines.step (signings sampleConfig)) (fun w _ a => Allowed fine w a)
    ⟨sampleStart, []⟩ [] (sampleSigned ++ []) = true by decide +kernel)
  exact ⟨by decide +kernel, (follows_signature sampleConfig "rag_1" "acc_1" .market_brief "Brief" ⟨"0.30", "0.60", 30⟩ 0 none
    sampleSigned [] allowed).1⟩

def sampleReturn : List Act := sampleBack ++ goOn 1 1 "" ++ [.start (.firmar sampleAccount)] ++ goOn 2 5 "ccs_2"

/-- Two clicks, a millisecond apart. -/
def sampleClicks : List Act :=
  ([.start (.firmar sampleAccount)] : List Act) ++ goOn 0 1 "" ++ ([.start (.firmar sampleAccount)] : List Act) ++
    goOn 1 1 "" ++ goOn 0 2 "" ++ ([.outside (.tick 1)] : List Act) ++ goOn 1 2 "" ++ goOn 0 1 "ccs_1" ++ goOn 1 1 "ccs_2"

/-- An answer that refuses a proposal where its key stands, if anywhere, for the same one. -/
def refusesItself (s : Store) : Seen → Bool
  | .answered _ _ (.createConsentSession body key) (.error (.refused .conflict)) =>
    (s.records key).all fun r => r.body.toProposal = body.toProposal
  | _ => false

theorem brought_back_and_refused :
    ¬(∀ before after, Onward (run sampleConfig sampleStart before).1.shared
      (run sampleConfig sampleStart (before ++ after)).1.shared) ∧
    ¬∀ actions, OneSession (run sampleConfig sampleStart actions).1.shared (run sampleConfig sampleStart actions).2 := by
  constructor
  · intro onward
    have attempts := (onward sampleReturn (goOn 1 2 "")).attempts
    revert attempts
    decide +kernel
  · intro one
    have refused : (run sampleConfig sampleStart sampleClicks).2.any
        (refusesItself (run sampleConfig sampleStart sampleClicks).1.shared) = true := by
      decide +kernel
    obtain ⟨e, among, shown⟩ := List.any_eq_true.mp refused
    unfold refusesItself at shown
    split at shown
    next i c body key =>
      obtain ⟨r, found, others⟩ := (one sampleClicks).conflict i c key body among
      rw [found] at shown
      exact others (of_decide_eq_true shown)
    · cases shown

end AgentPey.FollowedSignatures
