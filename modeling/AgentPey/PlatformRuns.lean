import AgentPey.PlatformLimits

/-!
Every run of the client for platforms' URLs keeps to its limits (`within_limits`): what is counted, what waits and what was
resolved is kept by each step of its calls (`keeps`). A host that waits is forgotten when too many wait.
-/
namespace AgentPey.PlatformRuns
open Routines Disciplines
open InsertionMaps IpAddresses Store TokenBuckets PlatformProfiles PlatformReads PlatformLimits
open TokenBuckets (Sound)

/-! ### What was asked -/

section
variable {lib : Libraries} {options : PlatformProfileReaderOptions} {t : Log}

theorem pinned_snoc (pinned : Pinned lib t) (e : Event Call Op Failure Op.Answer Outcome)
    (last : ∀ i c o url address, e = .asked i c o → connection o = some (url, address) →
      lib.url (urlOf c) = some url ∧ url.protocol = "https:" ∧ url.port = "" ∧
        ∃ addresses, .answered i c (.resolve url.hostname) (.ok addresses) ∈ t ∧ (∀ a ∈ addresses, Public a.address) ∧
          ∃ a ∈ addresses, address = some a.address) : Pinned lib (t ++ [e]) := by
  intro before after i c o url address split connects
  rcases List.eq_nil_or_concat after with rfl | ⟨rest, b, rfl⟩
  · obtain ⟨rfl, same⟩ := List.append_inj' split rfl
    exact last i c o url address (List.singleton_inj.mp same) connects
  · rw [List.concat_eq_append, ← List.cons_append, ← List.append_assoc] at split
    obtain ⟨earlier, _⟩ := List.append_inj' split rfl
    exact pinned before rest i c o url address earlier connects

variable {e : Event Call Op Failure Op.Answer Outcome}

theorem out_snoc {i : ℕ} (is_out : out (t ++ [e]) i = true) : (out t i = true ∨ asksName i e = true) ∧ turns i e = false := by
  simp only [out, List.any_append, List.any_cons, List.any_nil, Bool.or_false, Bool.and_eq_true, Bool.or_eq_true,
    Bool.not_eq_true', Bool.or_eq_false_iff] at is_out ⊢
  obtain ⟨asked | asked, before, now⟩ := is_out
  · exact ⟨.inl ⟨asked, before⟩, now⟩
  · exact ⟨.inr asked, now⟩

/-- Connections are pinned, an address that a call has was resolved for it, and a call that is out is counted. -/
structure Told (lib : Libraries) (ms : List (Call × Option Mode)) (t : Log) : Prop where
  pinned : Pinned lib t
  resolved : ∀ (i : ℕ) c m kind url addresses, ms[i]? = some (c, some m) → m.stage = .resolved kind url addresses →
    .answered i c (.resolve url.hostname) (.ok addresses) ∈ t
  out : ∀ i, out t i = true → ∃ c m, ms[i]? = some (c, some m) ∧ m.stage.out = true

variable {s s' : Client} {ms : List (Call × Option Mode)} {i : ℕ} {c : Call} {m m' : Mode} {o : Op}

theorem sync_stage (step : Syncs lib options m s s' m') : m.stage.out = false ∧ m'.stage.out = false := by
  cases step <;> exact ⟨rfl, rfl⟩

section
variable (told : Told lib ms t) (here : ms[i]? = some (c, some m))
include told here

theorem Told.own (is_out : PlatformLimits.out t i = true) : m.stage.out = true := by
  obtain ⟨d, n, found, counts⟩ := told.out i is_out
  rw [here] at found
  cases found
  exact counts

theorem Told.moves {mode' : Option Mode} {e : Log} (pinned : Pinned lib (t ++ e))
    (resolved : ∀ m' kind url addresses, mode' = some m' → m'.stage = .resolved kind url addresses →
      .answered i c (.resolve url.hostname) (.ok addresses) ∈ t ++ e)
    (others : ∀ j, j ≠ i → PlatformLimits.out (t ++ e) j = true → PlatformLimits.out t j = true)
    (own : PlatformLimits.out (t ++ e) i = true → ∃ m', mode' = some m' ∧ m'.stage.out = true) :
    Told lib (ms.set i (c, mode')) (t ++ e) := by
  obtain ⟨inside, _⟩ := List.getElem?_eq_some_iff.mp here
  refine ⟨pinned, fun j d n kind url addresses found stage => ?_, fun j is_out => ?_⟩
  · rcases mode_of_set found with ⟨rfl, rfl, same⟩ | ⟨_, old⟩
    · exact resolved n kind url addresses same.symm stage
    · exact List.mem_append_left _ (told.resolved j d n kind url addresses old stage)
  · by_cases same : j = i
    · subst same
      obtain ⟨m', rfl, counts⟩ := own is_out
      exact ⟨c, m', by simp [inside], counts⟩
    · obtain ⟨d, n, found, counts⟩ := told.out j (others j same is_out)
      exact ⟨d, n, by rw [List.getElem?_set_ne (Ne.symm same), found], counts⟩

theorem told_sync (step : Syncs lib options m s s' m') : Told lib (ms.set i (c, some m')) t := by
  obtain ⟨before, after⟩ := sync_stage step
  have same : t ++ [] = t := List.append_nil t
  rw [← same]
  refine told.moves here (by rw [same]; exact told.pinned) (fun n kind url addresses now stage => ?_)
    (fun j _ is_out => by rwa [same] at is_out) fun is_out => ?_
  · cases now
    simp [stage, Stage.out] at after
  · rw [same] at is_out
    rw [told.own here is_out] at before
    cases before

end

variable {url : Url} {m₀ : Mode} {answer : Except Failure o.Answer} {host : Text} {j : ℕ}

theorem vet_ok (remote : options.allowLoopbackHttp = false) {text : String} (vetted : vet lib options text = .ok url) :
    lib.url text = some url ∧ url.protocol = "https:" ∧ url.port = "" := by
  unfold vet at vetted
  cases parsed : lib.url text with
  | none =>
    rw [parsed] at vetted
    cases vetted
  | some parsedUrl =>
    simp only [parsed, not_loopback remote, Bool.false_eq_true, if_false] at vetted
    by_cases insecure : parsedUrl.protocol ≠ "https:" ∨ parsedUrl.port ≠ ""
    · simp only [if_pos insecure] at vetted
      split_ifs at vetted
    · simp only [if_neg insecure] at vetted
      split_ifs at vetted
      cases vetted
      push Not at insecure
      exact ⟨rfl, insecure⟩

theorem asks_pinned (remote : options.allowLoopbackHttp = false) (told : Told lib ms t) (sits : Sits lib options s c m)
    (here : ms[i]? = some (c, some m)) (asks : Asks m o m') {address : Option Text}
    (connects : connection o = some (url, address)) : lib.url (urlOf c) = some url ∧ url.protocol = "https:" ∧ url.port = "" ∧
      ∃ addresses, .answered i c (.resolve url.hostname) (.ok addresses) ∈ t ∧ (∀ a ∈ addresses, Public a.address) ∧
        ∃ a ∈ addresses, address = some a.address := by
  have resolved {kind : Kind} {url' : Url} {addresses : List Address} {first : Address}
      (stage : m.stage = .resolved kind url' addresses) (pin : pinned addresses = .ok first) :
      lib.url (urlOf c) = some url' ∧ url'.protocol = "https:" ∧ url'.port = "" ∧
        ∃ addresses, .answered i c (.resolve url'.hostname) (.ok addresses) ∈ t ∧ (∀ a ∈ addresses, Public a.address) ∧
          ∃ a ∈ addresses, some first.address = some a.address := by
    obtain ⟨member, all_public⟩ := pinned_public pin
    obtain ⟨parsed, secure, port⟩ := vet_ok remote (sits.vetted kind url' (by rw [stage]; rfl)).1
    exact ⟨parsed, secure, port, addresses, told.resolved i c m kind url' addresses here stage, all_public, first, member, rfl⟩
  cases asks with
  | resolve => cases connects
  | get pin =>
    cases connects
    exact resolved rfl pin
  | post pin =>
    cases connects
    exact resolved rfl pin
  | turns out job => cases connects
  | join => cases connects
  | turn => cases connects

theorem asks_stage (asks : Asks m o m') : m'.call = m.call ∧ m'.stage.job = m.stage.job ∧
    (∀ kind url, m'.stage ≠ .started kind url) ∧ (m'.stage.out = true ∨ o = .turn ∨ m.stage.out = false ∧ ∃ n, o = .join n) ∧
    ∀ kind url addresses, m'.stage = .resolved kind url addresses → m.stage = m'.stage := by
  cases asks with
  | resolve => exact ⟨rfl, rfl, by simp, .inl rfl, by simp⟩
  | get pin => exact ⟨rfl, rfl, by simp, .inl rfl, by simp⟩
  | post pin => exact ⟨rfl, rfl, by simp, .inl rfl, by simp⟩
  | turns out job => exact ⟨rfl, job.symm, by simp, .inr (.inl rfl), by simp⟩
  | join => exact ⟨rfl, rfl, by simp, .inr (.inr ⟨rfl, _, rfl⟩), by simp⟩
  | turn => exact ⟨rfl, rfl, by simp, .inr (.inl rfl), by simp⟩

theorem told_ask (remote : options.allowLoopbackHttp = false) (told : Told lib ms t) (sits : Sits lib options s c m)
    (here : ms[i]? = some (c, some m)) (asks : Asks m o m') : Told lib (ms.set i (c, some m')) (t ++ [.asked i c o]) := by
  obtain ⟨_, _, _, goes_on, stays⟩ := asks_stage asks
  refine told.moves here (pinned_snoc told.pinned _ fun j d p url address same connects => ?_)
    (fun n kind url addresses same stage => ?_) (fun j other is_out => ?_) fun is_out => ?_
  · cases same
    exact asks_pinned remote told sits here asks connects
  · cases same
    exact List.mem_append_left _ (told.resolved i c m kind url addresses here ((stays kind url addresses stage).trans stage))
  · rcases (out_snoc is_out).1 with before | asked
    · exact before
    · cases o <;> simp [asksName, other] at asked
  · obtain ⟨before, quiet⟩ := out_snoc is_out
    refine ⟨m', rfl, ?_⟩
    rcases goes_on with still | rfl | ⟨idle, n, rfl⟩
    · exact still
    · simp [turns] at quiet
    · rcases before with was_out | asked
      · rw [told.own here was_out] at idle
        cases idle
      · cases asked

theorem answered_stage (m : Mode) (o : Op) (answer : Except Failure o.Answer) : (answered m o answer).call = m.call ∧
    (answered m o answer).stage.job = m.stage.job ∧ (answered m o answer).stage.out = m.stage.out ∧
    ∀ kind url, (answered m o answer).stage = .started kind url ↔ m.stage = .started kind url := by
  unfold answered
  split
  · exact ⟨rfl, rfl, rfl, by simp⟩
  · exact ⟨rfl, rfl, rfl, by simp⟩

theorem answered_resolved (asks : Asks m₀ o m) {kind : Kind} {addresses : List Address}
    (stage : (answered m o answer).stage = .resolved kind url addresses) :
    m.stage = .resolved kind url addresses ∨ Event.answered (γ := Call) (α := Outcome) i c o answer =
      .answered i c (.resolve url.hostname) (.ok addresses) := by
  cases asks with
  | resolve =>
    cases answer with
    | error e => cases stage
    | ok found =>
      cases stage
      exact .inr rfl
  | get pin => exact .inl stage
  | post pin => exact .inl stage
  | turns out job => cases stage
  | join => cases stage
  | turn => cases stage

theorem told_answer (told : Told lib ms t) (here : ms[i]? = some (c, some m)) (asks : Asks m₀ o m)
    (answer : Except Failure o.Answer) :
    Told lib (ms.set i (c, some (answered m o answer))) (t ++ [.answered i c o answer]) := by
  have before {j : ℕ} (is_out : out (t ++ [.answered i c o answer]) j = true) : out t j = true :=
    (out_snoc is_out).1.resolve_right (by simp [asksName])
  refine told.moves here (pinned_snoc told.pinned _ (fun _ _ _ _ _ same => nomatch same)) (fun n kind url addresses same stage => ?_)
    (fun j _ => before) fun is_out => ⟨_, rfl, (answered_stage m o answer).2.2.1 ▸ told.own here (before is_out)⟩
  cases same
  rcases answered_resolved (i := i) (c := c) asks stage with old | now
  · exact List.mem_append_left _ (told.resolved i c m kind url addresses here old)
  · exact List.mem_append_right _ (List.mem_singleton.mpr now.symm)

theorem told_finish (told : Told lib ms t) (here : ms[i]? = some (c, some m)) (idle : m.stage = .idle)
    (result : Except Failure Outcome) : Told lib (ms.set i (c, none)) (t ++ [.finished i c result]) := by
  have before {j : ℕ} (is_out : out (t ++ [.finished i c result]) j = true) : out t j = true :=
    (out_snoc is_out).1.resolve_right (by simp [asksName])
  refine told.moves here (pinned_snoc told.pinned _ (fun _ _ _ _ _ same => nomatch same)) (fun _ _ _ _ same => nomatch same)
    (fun j _ => before) fun is_out => ?_
  have counts := told.own here (before is_out)
  simp [idle, Stage.out] at counts

theorem told_start (told : Told lib ms t) (c : Call) : Told lib (ms ++ [(c, some ⟨c, .idle⟩)]) t := by
  refine ⟨told.pinned, fun j d n kind url addresses found stage => ?_, fun j is_out => ?_⟩
  · rcases mode_of_append found with ⟨_, _, same⟩ | old
    · cases same
      cases stage
    · exact told.resolved j d n kind url addresses old stage
  · obtain ⟨d, n, found, counts⟩ := told.out j is_out
    obtain ⟨inside, _⟩ := List.getElem?_eq_some_iff.mp found
    exact ⟨d, n, by rw [List.getElem?_append_left inside, found], counts⟩

/-! ### What runs keep -/

/-- What is so in a run since some state, and what was seen before it. -/
structure Law (lib : Libraries) (options : PlatformProfileReaderOptions) (s₀ : Client) (t₀ : Log) (s : Client)
    (ms : List (Call × Option Mode)) (t : Log) : Prop where
  core : Core lib options s ms
  told : Told lib ms (t₀ ++ t)
  spent : ∀ reads, SpentOf options reads ((bucket s₀ reads).available (budget options reads).burst (budget options reads).perSecond s₀.now)
    s₀.now (t.countP (starts reads) + (pick (starting reads) ms).length) s
  waits : Waits s₀ s ms t

/-- A call that has its token asks in the same act. -/
structure Rests (lib : Libraries) (options : PlatformProfileReaderOptions) (s₀ : Client) (t₀ : Log) (s : Client)
    (ms : List (Call × Option Mode)) (t : Log) : Prop where
  law : Law lib options s₀ t₀ s ms t
  asked : ∀ (j : ℕ) d n kind url, ms[j]? = some (d, some n) → n.stage ≠ .started kind url

structure Acts (lib : Libraries) (options : PlatformProfileReaderOptions) (s₀ : Client) (t₀ : Log) (i : ℕ) (s : Client)
    (ms : List (Call × Option Mode)) (t : Log) : Prop where
  law : Law lib options s₀ t₀ s ms t
  asked : ∀ (j : ℕ) d n kind url, j ≠ i → ms[j]? = some (d, some n) → n.stage ≠ .started kind url

variable {s₀ : Client} {t₀ : Log}

theorem starting_none (asked : ∀ kind url, m.stage ≠ .started kind url) (reads : Bool) : starting reads m = none := by
  unfold starting
  split
  · rename_i kind url stage
    exact absurd stage (asked kind url)
  · rfl

theorem asks_starting (sits : Sits lib options s c m) (asks : Asks m o m') (reads : Bool) :
    (if starts reads (.asked i c o) = true then 1 else 0) = (starting reads m).toList.length := by
  cases asks with
  | @resolve _ kind url =>
    have same_kind := (sits.vetted kind url rfl).2
    by_cases same : isRead c = reads
    · simp [starts, starting, same_kind, same]
    · simp [starts, starting, same_kind, same]
  | get pin => rfl
  | post pin => rfl
  | turns is_out job =>
    rw [starting_none fun kind url same => by
      dsimp only at same
      rw [same] at is_out
      cases is_out]
    rfl
  | join => rfl
  | turn => rfl

theorem ask_starts (sits : Sits lib options s c m) (here : ms[i]? = some (c, some m)) (asks : Asks m o m') (reads : Bool) :
    (t ++ [Event.asked i c o]).countP (starts reads) + (pick (starting reads) (ms.set i (c, some m'))).length =
      t.countP (starts reads) + (pick (starting reads) ms).length := by
  have old := (pick_at (starting reads) here).length_eq
  have new := (pick_set (starting reads) here (some m')).length_eq
  obtain ⟨_, _, after, _⟩ := asks_stage asks
  rw [Option.bind_some, starting_none after, Option.toList_none, List.nil_append] at new
  rw [Option.bind_some, List.length_append] at old
  rw [List.countP_append, List.countP_singleton, asks_starting sits asks, new, old]
  omega

theorem read_starts_snoc (read : ReadStarts host (t ++ [e])) :
    ReadStarts host t ∨ ∃ i text name, lowerCase name = host ∧ e = Event.asked i (.read text) (.resolve name) := by
  obtain ⟨i, text, name, same, member⟩ := read
  rcases List.mem_append.mp member with old | new
  · exact .inl ⟨i, text, name, same, old⟩
  · exact .inr ⟨i, text, name, same, (List.mem_singleton.mp new).symm⟩

theorem Waits.event {ms' : List (Call × Option Mode)} (waits : Waits s₀ s ms t)
    (started : ∀ i text name b, e = .asked i (.read text) (.resolve name) → s₀.hostBackoff.lookup (lowerCase name) = some b →
      Over s₀ s (lowerCase name) b) (asked : ∀ (j : ℕ) d n kind url, ms'[j]? = some (d, some n) → n.stage ≠ .started kind url)
    : Waits s₀ s ms' (t ++ [e]) := by
  refine ⟨waits.later, waits.kept, fun j d n work back url b found begun => absurd begun (asked j d n _ url found),
    fun host b read found => ?_, waits.failed⟩
  rcases read_starts_snoc read with before | ⟨i, text, name, rfl, same⟩
  · exact waits.started host b before found
  · exact started i text name b same found

theorem serve_same {input : Input} (served : serve o input s = some (answer, s')) : s' = s ∧ expected o answer := by
  cases o with
  | join n =>
    simp only [serve] at served
    split at served <;> cases served <;> exact ⟨rfl, trivial⟩
  | turn => cases served; exact ⟨rfl, trivial⟩
  | resolve name => cases served; exact ⟨rfl, trivial⟩
  | get url address family => cases served; exact ⟨rfl, trivial⟩
  | post url address family request => cases served; exact ⟨rfl, trivial⟩
  | loopbackGet url => cases served; exact ⟨rfl, trivial⟩
  | loopbackPost url request => cases served; exact ⟨rfl, trivial⟩

theorem keeps (remote : options.allowLoopbackHttp = false) :
    Keeps (client lib options) (steps lib options) Ends (Rests lib options s₀ t₀) (Acts lib options s₀ t₀)
      fun _ _ action => action ≠ .crash where
  start {w ms t c} rests _ _ := by
    obtain ⟨⟨core, told, spent, waits⟩, asked⟩ := rests
    have never {j : ℕ} {d : Call} {n : Mode} {kind : Kind} {url : Url}
        (found : (ms ++ [(c, some ⟨c, .idle⟩)])[j]? = some (d, some n)) : n.stage ≠ .started kind url := by
      rcases mode_of_append found with ⟨_, _, same⟩ | old
      · cases same
        simp
      · exact asked j d n kind url old
    refine ⟨⟨c, .idle⟩, follows_body remote c, ⟨⟨?_, told_start told c, fun reads => ?_, ?_⟩, fun j d n kind url _ => never⟩⟩
    · refine ⟨fun j d n found => ?_, ?_, fun reads => ?_, core.few, core.sound, core.backoffs⟩
      · refine all_append (P := fun _ d n => Sits lib options w.shared d n) ?_ core.sits found
        exact ⟨rfl, (fun _ _ job => nomatch job), fun _ _ _ job => nomatch job⟩
      · rw [pick_append rfl]
        exact core.apart
      · rw [pick_append rfl]
        exact core.counts reads
    · rw [pick_append rfl]
      exact spent reads
    · exact ⟨waits.later, waits.kept, fun j d n work back url b found begun => absurd begun (never found), waits.started, waits.failed⟩
  resume rests _ _ := ⟨rests.law, fun j d n kind url _ => rests.asked j d n kind url⟩
  sync {s ms t i c m s' m'} acts here step := by
    obtain ⟨⟨core, told, spent, waits⟩, asked⟩ := acts
    refine ⟨⟨core_sync core here step, told_sync told here step, fun reads => sync_spent step here reads (spent reads),
      waits_sync core waits here step⟩, fun j d n kind url other found => ?_⟩
    rcases mode_of_set found with ⟨same, _⟩ | ⟨_, old⟩
    · exact absurd same other
    · exact asked j d n kind url other old
  ask {s ms t i c m o m' w a calls} acts here asks _ _ _ := by
    obtain ⟨⟨core, told, spent, waits⟩, asked⟩ := acts
    have sits := core.sits i c m here
    obtain ⟨call, job, after, _⟩ := asks_stage asks
    have never (j : ℕ) (d : Call) (n : Mode) (kind : Kind) (url : Url) (found : (ms.set i (c, some m'))[j]? = some (d, some n)) :
        n.stage ≠ .started kind url := by
      rcases mode_of_set found with ⟨_, _, same⟩ | ⟨other, old⟩
      · cases same
        exact after kind url
      · exact asked j d n kind url other old
    refine ⟨⟨core.same_job (quiet_same rfl rfl (le_refl _)) here call job (fun _ => rfl) core.sound, ?_, fun reads => ?_,
      Waits.event waits (fun j text name b same found => ?_) never⟩, never⟩
    · rw [← List.append_assoc]
      exact told_ask remote told sits here asks
    · rw [ask_starts sits here asks reads]
      exact spent reads
    · cases same
      cases asks with
      | @resolve _ kind url =>
        have same_kind := (sits.vetted kind url rfl).2
        cases kind with
        | read work back => exact waits.begun _ _ _ work back url b here rfl found
        | send => cases same_kind
  serve {w ms t i c m m₀ o rest input answer s'} rests _ here _ _ asks served := by
    obtain ⟨⟨core, told, spent, waits⟩, asked⟩ := rests
    obtain ⟨rfl, expects⟩ := serve_same served
    obtain ⟨call, job, _, same_start⟩ := answered_stage m o answer
    have still : ∀ kind url, (answered m o answer).stage ≠ .started kind url := fun kind url stage =>
      asked i c m kind url here ((same_start kind url).mp stage)
    have never (j : ℕ) (d : Call) (n : Mode) (kind : Kind) (url : Url)
        (found : (ms.set i (c, some (answered m o answer)))[j]? = some (d, some n)) : n.stage ≠ .started kind url := by
      rcases mode_of_set found with ⟨_, _, same⟩ | ⟨_, old⟩
      · cases same
        exact still kind url
      · exact asked j d n kind url old
    refine ⟨expects, ⟨core.same_job (quiet_same rfl rfl (le_refl _)) here call job (fun _ => rfl) core.sound, ?_, fun reads => ?_,
      Waits.event waits (fun _ _ _ _ same _ => nomatch same) never⟩, never⟩
    · rw [← List.append_assoc]
      exact told_answer told here asks answer
    · have old := (pick_at (starting reads) here).length_eq
      have new := (pick_set (starting reads) here (some (answered m o answer))).length_eq
      rw [Option.bind_some, starting_none still] at new
      rw [Option.bind_some, starting_none fun kind url => asked i c m kind url here] at old
      have same : (t ++ [Event.answered i c o answer]).countP (starts reads) = t.countP (starts reads) := by
        rw [List.countP_append, List.countP_singleton]
        rfl
      show SpentOf _ _ _ _ (_ + (pick (starting reads) (ms.set i (c, some (answered m o answer)))).length) _
      rw [new, ← old, same]
      exact spent reads
  finish {s ms t i c m result w a calls} acts here ends _ _ := by
    obtain ⟨⟨core, told, spent, waits⟩, asked⟩ := acts
    have idle : m.stage = .idle := ends
    have never (j : ℕ) (d : Call) (n : Mode) (kind : Kind) (url : Url) (found : (ms.set i (c, none))[j]? = some (d, some n)) :
        n.stage ≠ .started kind url := by
      rcases mode_of_set found with ⟨_, _, same⟩ | ⟨other, old⟩
      · cases same
      · exact asked j d n kind url other old
    have over_ {α : Type} {f : Mode → Option α} (nothing : f m = none) : (pick f (ms.set i (c, none))).Perm (pick f ms) := by
      simpa [nothing] using (pick_set f here none).trans (by simpa [nothing] using (pick_at f here).symm)
    refine ⟨⟨⟨fun j d n found => ?_, ?_, fun reads => ?_, core.few, core.sound, core.backoffs⟩, ?_, fun reads => ?_,
      Waits.event waits (fun _ _ _ _ same _ => nomatch same) never⟩, never⟩
    · exact all_over (P := fun _ d n => Sits lib options s d n) (fun j d n _ old => core.sits j d n old) found
    · exact (over_ (by simp [readOf, idle, Stage.job])).nodup_iff.mpr core.apart
    · rw [(over_ (by simp [counted, idle, Stage.job])).length_eq]
      exact core.counts reads
    · rw [← List.append_assoc]
      exact told_finish told here idle result
    · rw [(over_ (by simp [starting, idle])).length_eq, List.countP_append, List.countP_singleton]
      exact spent reads
  outside {w ms t k} rests _ := by
    obtain ⟨⟨core, told, spent, waits⟩, asked⟩ := rests
    have passes : w.shared.now ≤ w.shared.now + k := by omega
    have quiet : Quiet w.shared ((client lib options).outside k w.shared) := quiet_same rfl rfl passes
    refine ⟨⟨core.later quiet (fun _ => rfl) (fun reads => (core.sound reads).later passes), told, fun reads => ?_,
      waits.quiet quiet fun j d n work back url b found begun => absurd begun (asked j d n _ url found)⟩, asked⟩
    exact (spent reads).later (budget options reads).perSecond_nonneg passes
  crash _ _ may := absurd rfl may

theorem countP_zipIdx_le {α β : Type} (f : α → β) (P : β × ℕ → Bool) (Q : α → Bool) (xs : List α) (k : ℕ)
    (implies : ∀ (i : ℕ) x, xs[i]? = some x → P (f x, k + i) = true → Q x = true) : ((xs.map f).zipIdx k).countP P ≤ xs.countP Q := by
  induction xs generalizing k with
  | nil => simp
  | cons x rest ih =>
    have later := ih (k + 1) fun i y found holds => implies (i + 1) y found (by rwa [Nat.add_assoc, Nat.add_comm 1 i] at holds)
    rw [List.map_cons, List.zipIdx_cons, List.countP_cons, List.countP_cons]
    by_cases here : P (f x, k) = true
    · rw [if_pos here, if_pos (implies 0 x rfl here)]
      omega
    · rw [if_neg here]
      omega

theorem pick_length {α : Type} (f : Mode → Option α) (ms : List (Call × Option Mode)) :
    (pick f ms).length = ms.countP fun call => (call.2.bind f).isSome := by
  rw [pick, List.length_filterMap_eq_countP]

variable {w : Clients}

theorem outstanding_le (law : Law lib options s₀ t₀ w.shared ms t) (aligned : Aligned (steps lib options) Ends w.calls ms)
    (reads : Bool) : outstanding reads w (t₀ ++ t) ≤ running w.shared reads := by
  obtain ⟨core, told, _, _⟩ := law
  have same : w.calls.map Prod.fst = ms.map Prod.fst := by
    refine List.ext_getElem? fun j => ?_
    rw [List.getElem?_map, List.getElem?_map]
    cases found : w.calls[j]? with
    | none =>
      rw [List.getElem?_eq_none_iff, aligned.1] at found
      rw [List.getElem?_eq_none found]
      rfl
    | some call =>
      obtain ⟨mode, here, _⟩ := aligned.2 j call.1 call.2 found
      rw [here]
      rfl
  rw [core.counts, pick_length, outstanding, same]
  refine countP_zipIdx_le Prod.fst _ _ ms 0 fun j call found holds => ?_
  obtain ⟨d, mode⟩ := call
  rw [Nat.zero_add, Bool.and_eq_true, beq_iff_eq] at holds
  obtain ⟨same_kind, is_out⟩ := holds
  obtain ⟨d', m, here, is_out⟩ := told.out j is_out
  rw [found] at here
  cases here
  have job : ∃ kind url, m.stage.job = some (kind, url) := by
    cases stage : m.stage with
    | resolving kind url => exact ⟨kind, url, rfl⟩
    | resolved kind url addresses => exact ⟨kind, url, rfl⟩
    | idle => simp [stage, Stage.out] at is_out
    | started kind url => simp [stage, Stage.out] at is_out
    | ending kind url => simp [stage, Stage.out] at is_out
  obtain ⟨kind, url, job⟩ := job
  have own := ((core.sits j d m found).vetted kind url job).2
  simp only [Option.bind_some, counted, job, own, same_kind, if_true, Option.isSome_some]

theorem running_over (core : Core lib options w.shared ms) (aligned : Aligned (steps lib options) Ends w.calls ms)
    (all : ∀ call ∈ w.calls, call.2.over = true) (reads : Bool) : running w.shared reads = 0 := by
  rw [core.counts, pick_length, List.countP_eq_zero]
  rintro ⟨c, mode⟩ member
  obtain ⟨j, found⟩ := List.mem_iff_getElem?.mp member
  obtain ⟨phase, there, stands⟩ := aligned.call found
  rw [stands.over (all (c, phase) (List.mem_iff_getElem?.mpr ⟨j, there⟩))]
  simp

theorem none_starting (asked : ∀ (j : ℕ) d n kind url, ms[j]? = some (d, some n) → n.stage ≠ .started kind url) (reads : Bool) :
    (pick (starting reads) ms).length = 0 := by
  rw [pick_length, List.countP_eq_zero]
  rintro ⟨d, mode⟩ member
  obtain ⟨j, found⟩ := List.mem_iff_getElem?.mp member
  cases mode with
  | none => simp
  | some n => simp [starting_none fun kind url => asked j d n kind url found]

theorem law_start {w : Client} (core : Core lib options w ms) (told : Told lib ms t)
    (asked : ∀ (j : ℕ) d n kind url, ms[j]? = some (d, some n) → n.stage ≠ .started kind url) : Rests lib options w t w ms [] := by
  have later : Later w w := ⟨le_refl _, fun _ _ _ found => found⟩
  refine ⟨⟨core, by rwa [List.append_nil], fun reads => ?_, later, fun host b found => .inl found, fun j d n work back url b found begun =>
    absurd begun (asked j d n _ url found), fun host b read => ?_, fun n host reason ended => absurd ended.2 (ended.1 _)⟩, asked⟩
  · rw [none_starting asked reads]
    exact spent_none _ _
  · obtain ⟨_, _, _, _, member⟩ := read
    cases member

def Run (lib : Libraries) (options : PlatformProfileReaderOptions) (w : Clients) (actions : List (Action Call Input ℕ)) (w' : Clients)
    (t : Log) : Prop :=
  (∀ action ∈ actions, action ≠ .crash) ∧ Traces.exec (step (client lib options)) w actions = (w', t)

/-- What a budget lets start between two states, and what it keeps for what it is for. -/
def WithinBudget (options : PlatformProfileReaderOptions) (reads : Bool) (s s' : Client) (started : ℕ) : Prop :=
  (started : ℚ) ≤ (budget options reads).burst + (s'.now - s.now) / 1000 * (budget options reads).perSecond ∧
    (bucket s reads).available (budget options reads).burst (budget options reads).perSecond s.now ≤
      started + (bucket s' reads).available (budget options reads).burst (budget options reads).perSecond s'.now

/-- After a read of this host failed, and while no other one ended and no more hosts failed than are remembered, there is a wait, and
    no read of the host starts before it is over. -/
def WaitsAfter (lib : Libraries) (options : PlatformProfileReaderOptions) (w w' : Clients) (host : Text) (work : ℕ) : Prop :=
  (∃ other result, other ≠ work ∧ Ended host w.shared w'.shared other result) ∨ Crowded w'.shared ∨
    ∃ b, Lasting b ∧ w.shared.now + b.wait ≤ b.ends ∧
      ∀ actions w'' t, Run lib options w' actions w'' t → ReadStarts host t → Over w'.shared w''.shared host b

theorem rests_along (remote : options.allowLoopbackHttp = false) {w w' : Clients} (t₀ : Log)
    {actions : List (Action Call Input ℕ)} (run : Run lib options w actions w' t)
    (holds : Holds (steps lib options) Ends (Rests lib options w.shared t₀) w []) :
    Holds (steps lib options) Ends (Rests lib options w.shared t₀) w' t := by
  have kept := kept_along (keeps remote) holds actions fun before action after split => by
    apply run.1
    rw [split]
    simp
  rwa [run.2] at kept

theorem holds_start (lib : Libraries) (options : PlatformProfileReaderOptions) (now : ℤ) :
    Holds (steps lib options) Ends (Rests lib options (createPlatformProfileReader options now) []) 
      ⟨createPlatformProfileReader options now, []⟩ [] := by
  refine ⟨[], law_start ⟨?_, .nil, fun reads => ?_, fun reads => ?_, fun reads => ?_, ?_⟩ ⟨?_, ?_, ?_⟩ ?_, aligned_nil⟩
  · intro i c m found
    cases found
  · cases reads <;> rfl
  · cases reads <;> exact Nat.zero_le _
  · cases reads with
    | true => exact sound_full options.reads.burst_nonneg now
    | false => exact sound_full options.sends.burst_nonneg now
  · intro host b found
    cases found
  · intro before after i c o url address split
    simp at split
  · intro i c m kind url addresses found
    cases found
  · intro i is_out
    cases is_out
  · intro j d n kind url found
    cases found

theorem Holds.again (holds : Holds (steps lib options) Ends (Rests lib options s₀ t₀) w t) :
    Holds (steps lib options) Ends (Rests lib options w.shared (t₀ ++ t)) w [] := by
  obtain ⟨ms, ⟨law, asked⟩, aligned⟩ := holds
  exact ⟨ms, law_start law.core law.told asked, aligned⟩

/-- What every run of one client keeps to. -/
theorem within_limits (remote : options.allowLoopbackHttp = false) {now : ℤ} {before : List (Action Call Input ℕ)}
    (run : Run lib options ⟨createPlatformProfileReader options now, []⟩ before w t) : Pinned lib t ∧
      (∀ reads, outstanding reads w t ≤ running w.shared reads ∧ running w.shared reads ≤ (budget options reads).atOnce) ∧
      ((∀ call ∈ w.calls, call.2.over = true) → ∀ reads, running w.shared reads = 0) ∧
      ∀ actions w' t', Run lib options w actions w' t' →
        (∀ reads, WithinBudget options reads w.shared w'.shared (t'.countP (starts reads))) ∧
          ∀ host work reason, Ended host w.shared w'.shared work (.error reason) → WaitsAfter lib options w w' host work := by
  have first := rests_along remote [] run (holds_start lib options now)
  obtain ⟨ms, ⟨law, _⟩, aligned⟩ := id first
  have told := law.told
  rw [List.nil_append] at told
  refine ⟨told.pinned, fun reads => ⟨outstanding_le law aligned reads, law.core.few reads⟩, running_over law.core aligned,
    fun actions w' t' run' => ?_⟩
  have second := rests_along remote ([] ++ t) run' (Holds.again first)
  obtain ⟨ms', ⟨law', asked'⟩, aligned'⟩ := id second
  refine ⟨fun reads => ?_, fun host work reason ended => ?_⟩
  · have spent := law'.spent reads
    rw [none_starting asked' reads, Nat.add_zero] at spent
    exact ⟨spent.bound (law'.core.sound reads) (budget options reads).burst_nonneg (budget options reads).perSecond_nonneg, spent.least⟩
  · rcases law'.waits.failed work host reason ended with ⟨b, found, lasts⟩ | other | crowded
    · refine .inr (.inr ⟨b, (law'.core.backoffs host b found).1, lasts, fun later w'' t'' run'' starts => ?_⟩)
      obtain ⟨_, ⟨law'', _⟩, _⟩ := rests_along remote _ run'' (Holds.again second)
      exact law''.waits.started host b starts found
    · exact .inl other
    · exact .inr (.inl crowded)

/-! ### A host that is forgotten -/

section
variable {raw : String} {url : Url} {n : ℕ} {back : Option Backoff}

theorem read_advance (remote : options.allowLoopbackHttp = false) {s : Client} (vetted : vet lib options raw = .ok url)
    (starts : (s.read options raw url).1 = .starts n back) : ∃ rest rest' rest'',
      (body lib options (.read raw)).advance s = (.waiting (.resolve url.hostname) rest, (s.read options raw url).2) ∧
        (∀ s, (rest (.ok [])).advance s = (.waiting .turn rest', s)) ∧
        (∀ s, (rest' (.ok ())).advance s = (.waiting .turn rest'', s.endRead raw url n back (.error .unreachable))) ∧
        ∀ s, (rest'' (.ok ())).advance s =
          (.finished (.ok (.read (.error .unreachable))), { s with inFlight := s.inFlight.erase raw }) := by
  have elsewhere : url.isLoopback options = false := not_loopback remote url
  simp only [body, PlatformProfiles.read, vetted]
  simp only [bind, Routine.bind, Routine.atomic, Routine.advance, starts, fetchProfile, elsewhere]
  exact ⟨_, _, _, rfl, fun s => rfl, fun s => rfl, fun s => rfl⟩

def nothing : Input := ⟨.ok [], .ok ⟨500, ""⟩, .ok 500⟩

/-- A read of a host that has no address, while nothing else happens. -/
def failingRead (raw : String) (i : ℕ) : List (Action Call Input ℕ) :=
  [.start (.read raw), .perform i nothing, .resume i, .perform i nothing, .resume i, .perform i nothing, .resume i]

theorem step_start {w : Clients} {c : Call} {o : Op} {rest : Except Failure o.Answer → Job Outcome} {s : Client}
    (acts : (body lib options c).advance w.shared = (.waiting o rest, s)) :
    step (client lib options) w (.start c) = (⟨s, w.calls ++ [(c, .waiting o rest)]⟩, [.asked w.calls.length c o]) := by
  have same : (client lib options).body c = body lib options c := rfl
  simp [step, same, acts, announce]

theorem failing_ends (remote : options.allowLoopbackHttp = false) {w : Clients} (vetted : vet lib options raw = .ok url)
    (starts : (w.shared.read options raw url).1 = .starts n back) : ∃ phase,
      (Traces.exec (step (client lib options)) w (failingRead raw w.calls.length)).1 =
        ⟨{ (w.shared.read options raw url).2.endRead raw url n back (.error .unreachable) with
            inFlight := (w.shared.read options raw url).2.inFlight.erase raw }, w.calls ++ [(.read raw, phase)]⟩ := by
  obtain ⟨rest, rest', rest'', first, second, third, last⟩ := read_advance remote vetted starts
  have perform {o : Op} (rest : Except Failure o.Answer → Job Outcome) (answer : Except Failure o.Answer) {s : Client}
      (served : serve o nothing s = some (answer, s)) : (step (client lib options)
        ⟨s, w.calls ++ [(.read raw, .waiting o rest)]⟩ (.perform w.calls.length nothing)).1 =
          ⟨s, w.calls ++ [(.read raw, .answered (rest answer))]⟩ := by
    have same : (client lib options).serve o nothing s = some (answer, s) := served
    simp [step, same]
  have resume {r : Job Outcome} {s s' : Client} {phase} (acts : r.advance s = (phase, s')) : (step (client lib options)
      ⟨s, w.calls ++ [(.read raw, .answered r)]⟩ (.resume w.calls.length)).1 = ⟨s', w.calls ++ [(.read raw, phase)]⟩ := by
    simp [step, acts]
  refine ⟨.finished (.ok (.read (.error .unreachable))), ?_⟩
  simp only [failingRead, Traces.exec_cons, Traces.exec_nil, step_start first]
  rw [perform rest (.ok []) rfl, resume (second _), perform rest' (.ok ()) rfl, resume (third _), perform rest'' (.ok ()) rfl, resume (last _)]
  rfl

end

def sampleUrl (raw : String) : Option Url :=
  if "https://".toList.isPrefixOf raw.toList then
    some ⟨raw, "https:", "", "", (raw.toList.drop 8).takeWhile (· ≠ '/'), ""⟩
  else none

def sampleLibraries : Libraries := ⟨sampleUrl, fun _ => none⟩

def sampleOptions : PlatformProfileReaderOptions := { reads := { atOnce := 6, burst := 2000, perSecond := 5 } }

/-- Hosts that have different names, and no address. -/
def hostName (k : ℕ) : Text := List.replicate (k + 1) 'z'

def page (k : ℕ) (path : Text) : String := String.ofList ("https://".toList ++ (hostName k ++ '/' :: path))

def pageUrl (k : ℕ) (path : Text) : Url := ⟨page k path, "https:", "", "", hostName k, ""⟩

theorem lower_hostName (k : ℕ) : lowerCase (hostName k) = hostName k := by
  simp [lowerCase, hostName, show Char.toLower 'z' = 'z' from by decide]

theorem not_letter {k : ℕ} {c : Char} (other : c ≠ 'z') : c ∉ hostName k := fun member => other (List.eq_of_mem_replicate member)

theorem hostName_isIP (k : ℕ) : WebhookUrls.isIP (hostName k) = 0 := by
  have member : 'z' ∈ hostName k := by simp [hostName]
  have four : parseIpv4 (hostName k) = none := by
    by_contra some_
    obtain ⟨v, parsed⟩ := Option.ne_none_iff_exists'.mp some_
    exact absurd (parseIpv4_chars parsed 'z' member) (by decide)
  have six : parseIpv6 (hostName k) = none := by
    by_contra some_
    obtain ⟨v, parsed⟩ := Option.ne_none_iff_exists'.mp some_
    obtain ⟨groups, read, _⟩ := Option.map_eq_some_iff.mp parsed
    rw [lower_hostName] at read
    obtain ⟨addr, zone, split, taken, _, address⟩ := WebhookUrls.groupsOf_eq read
    have inside : 'z' ∈ addr := by
      rw [taken]
      simp [hostName, List.replicate_succ]
    exact absurd ((readAddress_spec address).2.2 'z' inside) (by decide)
  simp [WebhookUrls.isIP, four, six]

theorem vet_page (k : ℕ) (path : Text) : vet sampleLibraries sampleOptions (page k path) = .ok (pageUrl k path) := by
  have parsed : sampleLibraries.url (page k path) = some (pageUrl k path) := by
    have name : (hostName k ++ '/' :: path).takeWhile (· ≠ '/') = hostName k := by
      rw [List.takeWhile_append_of_pos]
      · simp
      · intro c member
        rw [List.eq_of_mem_replicate member]
        decide
    have whole : (page k path).toList = "https://".toList ++ (hostName k ++ '/' :: path) := String.toList_ofList
    have begins : "https://".toList.isPrefixOf (page k path).toList = true :=
      List.isPrefixOf_iff_prefix.mpr (whole ▸ List.prefix_append ..)
    have rest : (page k path).toList.drop 8 = hostName k ++ '/' :: path := whole ▸ List.drop_left' (by decide)
    simp only [sampleLibraries, sampleUrl, begins, rest, name, if_true, pageUrl]
  have plain : WebhookUrls.unbracketed (hostName k) = hostName k := by
    simp [WebhookUrls.unbracketed, hostName, List.head?_replicate, List.getLast?_replicate]
  have bare : withoutDot (hostName k) = hostName k := by
    simp [withoutDot, hostName, List.getLast?_replicate]
  have named : hostName k ≠ "localhost".toList := fun same => not_letter (k := k) (c := 'l') (by decide) (same ▸ by decide)
  have outer : ".localhost".toList.isSuffixOf (hostName k) = false := by
    rw [Bool.eq_false_iff]
    intro ends
    exact not_letter (k := k) (c := '.') (by decide) ((List.isSuffixOf_iff_suffix.mp ends).subset (by decide))
  have remote : (pageUrl k path).isLoopback sampleOptions = false := not_loopback rfl _
  simp only [vet, parsed, remote]
  simp only [pageUrl, plain, hostName_isIP, bare, lower_hostName, named, outer, ne_eq, not_true_eq_false, or_self, if_false,
    Bool.false_eq_true]

def sampleDelivery : List (Action Call Input ℕ) :=
  let found : Input := ⟨.ok [⟨"93.184.216.34".toList, 4⟩], .ok ⟨500, ""⟩, .ok 200⟩
  [.start (.send (page 0 []) ⟨"", []⟩), .perform 0 found, .resume 0, .perform 0 found, .resume 0]

theorem within_limits_sample : ∃ w t,
    Run sampleLibraries sampleOptions ⟨createPlatformProfileReader sampleOptions 0, []⟩ sampleDelivery w t ∧
      t.countP (starts false) = 1 ∧ Pinned sampleLibraries t ∧ running w.shared false ≤ 6 := by
  have run : Run sampleLibraries sampleOptions ⟨createPlatformProfileReader sampleOptions 0, []⟩ sampleDelivery _ _ :=
    ⟨by simp [sampleDelivery], rfl⟩
  obtain ⟨pinned, few, _⟩ := within_limits rfl run
  exact ⟨_, _, run, by decide +kernel, pinned, (few false).2⟩

/-- After so many different hosts have failed, one after the other: each waits, or the first one was forgotten. -/
structure Failing (k : ℕ) (s : Client) : Prop where
  now : s.now = 0
  running : s.running = 0
  tokens : s.readBucket = ⟨2000 - k, 0⟩
  unread : ∀ raw, (∀ j < k, raw ≠ page j []) → s.cache.lookup raw = none
  still : ∀ raw, s.inFlight.lookup raw = none
  works : s.works = (List.range k).map fun j => .fetched (hostName j) (.error .unreachable)
  waiting : k ≤ CACHE_MAX → s.hostBackoff.keys = (List.range k).reverse.map hostName
  forgotten : CACHE_MAX < k → s.hostBackoff.lookup (hostName 0) = none

theorem hostName_inj {k : ℕ} (same : hostName j = hostName k) : j = k := by
  have long := congrArg List.length same
  simpa [hostName] using long

theorem page_inj {k : ℕ} {path path' : Text} (same : page j path = page k path') : j = k ∧ path = path' := by
  have tails : hostName j ++ '/' :: path = hostName k ++ '/' :: path' :=
    List.append_cancel_left (String.ofList_injective same)
  have names := congrArg (List.takeWhile (· = 'z')) tails
  have first (n : ℕ) (rest : Text) : (hostName n ++ '/' :: rest).takeWhile (· = 'z') = hostName n := by
    rw [List.takeWhile_append_of_pos fun c member => decide_eq_true (List.eq_of_mem_replicate member)]
    simp
  rw [first, first] at names
  obtain rfl := hostName_inj names
  exact ⟨rfl, List.cons_inj_right '/' |>.mp (List.append_cancel_left tails)⟩

variable {k : ℕ} {s : Client} {path : Text}

theorem Failing.starts (failing : Failing k s) (few : k ≤ 1001) (unread : ∀ i < k, page j path ≠ page i [])
    (free : s.hostBackoff.lookup (hostName j) = none) :
    s.read sampleOptions (page j path) (pageUrl j path) = (.starts k none, { s with
      readBucket := ⟨2000 - (k + 1 : ℕ), 0⟩
      running := 1
      works := s.works ++ [.fetching (hostName j)]
      inFlight := put s.inFlight (page j path) k }) := by
  have host : (pageUrl j path).host = hostName j := lower_hostName j
  have waits : s.hostBackoff.lookup (pageUrl j path).host = none := by rwa [host]
  have length : s.works.length = k := by simp [failing.works]
  have left : (k : ℚ) ≤ 1001 := by exact_mod_cast few
  have token : s.readBucket.take sampleOptions.reads.burst sampleOptions.reads.perSecond s.now = (true, ⟨2000 - (k + 1 : ℕ), 0⟩) := by
    have all : (⟨2000 - k, 0⟩ : Bucket).available 2000 5 0 = 2000 - k := by
      simp [Bucket.available]
    rw [failing.tokens, failing.now]
    show (⟨2000 - k, 0⟩ : Bucket).take 2000 5 0 = _
    rw [Bucket.take, all, if_neg (by linarith)]
    push_cast
    ring_nf
  have room : ¬sampleOptions.reads.atOnce ≤ 0 := by decide
  simp only [Client.read, failing.unread _ unread, failing.still, Client.readOnce, host, waits, Option.any_none, Bool.false_eq_true,
    if_false, failing.running, room, token, if_true, length, Nat.zero_add]

theorem keys_put {m : Keyed Text Backoff} (new : host ∉ m.keys) (b : Backoff) : (put m host b).keys = host :: m.keys := by
  rw [put, if_neg (mt AList.mem_keys.mp new), AList.insert_of_notMem (mt AList.mem_keys.mp new)]
  rfl

theorem lookup_oldest {m : Keyed Text Backoff} (last : m.keys.getLast? = some host) : (dropOldest m).lookup host = none := by
  obtain ⟨oldest, found, rfl⟩ := Option.map_eq_some_iff.mp ((List.getLast?_map ..).symm.trans last)
  rw [dropOldest, found, lookup_erase, if_pos rfl]

theorem Failing.next (failing : Failing k s) (few : k ≤ CACHE_MAX) :
    ∃ s', Failing (k + 1) s' ∧ s' = { (s.read sampleOptions (page k []) (pageUrl k [])).2.endRead (page k []) (pageUrl k []) k none
        (.error .unreachable) with inFlight := (s.read sampleOptions (page k []) (pageUrl k [])).2.inFlight.erase (page k []) } ∧
      (s.read sampleOptions (page k []) (pageUrl k [])).1 = .starts k none := by
  have free := failing.waiting few
  have new : hostName k ∉ s.hostBackoff.keys := by
    rw [free]
    intro member
    obtain ⟨j, inside, same⟩ := List.mem_map.mp member
    obtain rfl := hostName_inj same
    simp at inside
  have unread : ∀ i < k, page k [] ≠ page i [] := fun i less same => by
    obtain ⟨rfl, _⟩ := page_inj same
    exact absurd less (Nat.lt_irrefl _)
  have reads := failing.starts (Nat.le_succ_of_le few) unread (AList.lookup_eq_none.mpr (mt AList.mem_keys.mpr new))
  refine ⟨_, ?_, rfl, by rw [reads]⟩
  rw [reads]
  have host : (pageUrl k []).host = hostName k := lower_hostName k
  have keys (b : Backoff) : (put s.hostBackoff (hostName k) b).keys = (List.range (k + 1)).reverse.map hostName := by
    rw [keys_put new, free, List.range_succ, List.reverse_append]
    rfl
  have many (b : Backoff) : size (put s.hostBackoff (hostName k) b) = k + 1 := by
    have long := congrArg List.length (keys b)
    simpa [size, AList.keys, List.keys] using long
  refine ⟨failing.now, rfl, rfl, fun raw others => ?_, fun raw => ?_, ?_, fun room => ?_, fun full => ?_⟩
  · have other : raw ≠ page k [] := others k (Nat.lt_succ_self k)
    have before := failing.unread raw fun j less => others j (Nat.lt_succ_of_lt less)
    show (put (if CACHE_MAX ≤ size s.cache then dropOldest s.cache else s.cache) _ _).lookup raw = none
    rw [lookup_put, if_neg other]
    split_ifs
    · cases found : (dropOldest s.cache).lookup raw with
      | none => rfl
      | some cached => rw [lookup_dropOldest found] at before; cases before
    · exact before
  · show ((put s.inFlight (page k []) k).erase (page k [])).lookup raw = none
    rw [lookup_erase, lookup_put, failing.still]
    split_ifs <;> rfl
  · show (s.works ++ [_]).set k _ = _
    rw [failing.works, List.range_succ, List.map_append, host]
    simp
  · show (Client.backOff _ (pageUrl k []).host none (.error .unreachable)).keys = _
    rw [Client.backOff, host]
    simp only [many]
    rw [if_neg (Nat.not_lt.mpr room), keys]
  · show (Client.backOff _ (pageUrl k []).host none (.error .unreachable)).lookup (hostName 0) = none
    rw [Client.backOff, host]
    simp only [many]
    rw [if_pos full]
    exact lookup_oldest (by rw [keys]; simp [List.range_succ_eq_map])

theorem Failing.step {w : Clients} (failing : Failing k w.shared) (few : k ≤ CACHE_MAX) (calls : w.calls.length = k) : ∃ w' t,
    Traces.exec (Routines.step (client sampleLibraries sampleOptions)) w (failingRead (page k []) k) = (w', t) ∧
      Failing (k + 1) w'.shared ∧ w'.calls.length = k + 1 := by
  obtain ⟨s', next, rfl, starts⟩ := failing.next few
  obtain ⟨phase, ends⟩ := failing_ends rfl (vet_page k []) starts
  rw [calls] at ends
  refine ⟨_, (Traces.exec (Routines.step (client sampleLibraries sampleOptions)) w (failingRead (page k []) k)).2,
    Prod.ext ends rfl, next, ?_⟩
  simp [calls]

theorem failing_along {w : Clients} (failing : Failing 1 w.shared) (calls : w.calls.length = 1) (m : ℕ) (few : m ≤ CACHE_MAX) :
    ∃ w' t, Traces.exec (step (client sampleLibraries sampleOptions)) w
        ((List.range m).flatMap fun j => failingRead (page (j + 1) []) (j + 1)) = (w', t) ∧
      Failing (m + 1) w'.shared ∧ w'.calls.length = m + 1 := by
  induction m with
  | zero => exact ⟨w, [], rfl, failing, calls⟩
  | succ m ih =>
    obtain ⟨w', t, run, failing', calls'⟩ := ih (Nat.le_of_succ_le few)
    obtain ⟨w'', t', run', failing'', calls''⟩ := failing'.step few calls'
    refine ⟨w'', t ++ t', ?_, failing'', calls''⟩
    rw [List.range_succ, List.flatMap_append, Traces.exec_append, run]
    simp [run']

theorem failing_none : Failing 0 (createPlatformProfileReader sampleOptions 0) := by
  refine ⟨rfl, rfl, ?_, fun _ _ => rfl, fun _ => rfl, rfl, fun _ => rfl, fun _ => rfl⟩
  show (⟨2000, 0⟩ : Bucket) = _
  simp

/-- More hosts fail than are remembered; and the first of them is read again, at the same moment. -/
def sampleReads : List (Action Call Input ℕ) :=
  ((List.range 1000).flatMap fun j => failingRead (page (j + 1) []) (j + 1)) ++ [.start (.read (page 0 "again".toList))]

theorem not_killed {raw : String} {i : ℕ} : ∀ action ∈ failingRead raw i, action ≠ .crash := by
  simp [failingRead]

/-- A host that failed is read again before its wait is over, though no other read of it has ended. -/
theorem forgotten_early : ∃ w w' t t',
    Run sampleLibraries sampleOptions ⟨createPlatformProfileReader sampleOptions 0, []⟩ (failingRead (page 0 []) 0) w t ∧
      Ended (hostName 0) (createPlatformProfileReader sampleOptions 0) w.shared 0 (.error .unreachable) ∧
      w.shared.hostBackoff.lookup (hostName 0) = some ⟨HOST_BACKOFF_MS, HOST_BACKOFF_MS⟩ ∧
      Run sampleLibraries sampleOptions w sampleReads w' t' ∧ ReadStarts (hostName 0) t' ∧ w'.shared.now < HOST_BACKOFF_MS ∧
      ∀ n result, ¬Ended (hostName 0) w.shared w'.shared n result := by
  obtain ⟨w, t, run, first, calls⟩ :=
    Failing.step (w := ⟨createPlatformProfileReader sampleOptions 0, []⟩) failing_none (Nat.zero_le _) rfl
  obtain ⟨w', t', run', failing, calls'⟩ := failing_along first calls 1000 (le_refl _)
  have free : w'.shared.hostBackoff.lookup (hostName 0) = none := failing.forgotten (by decide)
  have again (i : ℕ) (_ : i < 1001) : page 0 "again".toList ≠ page i [] := fun same => nomatch (page_inj same).2
  have reads := failing.starts (le_refl _) again free
  have begins : (w'.shared.read sampleOptions (page 0 "again".toList) (pageUrl 0 "again".toList)).1 = .starts (1000 + 1) none := by rw [reads]
  obtain ⟨rest, _, _, asks, _⟩ := read_advance rfl (vet_page 0 "again".toList) begins
  have last := step_start asks
  rw [reads] at last
  refine ⟨w, _, t, t' ++ _, ⟨not_killed, run⟩, ?_, ?_, ⟨?_, by rw [sampleReads, Traces.exec_append, run', Traces.exec_cons, last]⟩,
    ?_, ?_, ?_⟩
  · refine ⟨fun before => by simp [createPlatformProfileReader], ?_⟩
    rw [first.works]
    rfl
  · have same : (Traces.exec (step (client sampleLibraries sampleOptions)) ⟨createPlatformProfileReader sampleOptions 0, []⟩
        (failingRead (page 0 []) 0)).1.shared.hostBackoff.lookup (hostName 0) = some ⟨HOST_BACKOFF_MS, HOST_BACKOFF_MS⟩ := by
      decide +kernel
    rwa [run] at same
  · intro action member
    rcases List.mem_append.mp member with old | new
    · obtain ⟨j, _, inside⟩ := List.mem_flatMap.mp old
      exact not_killed action inside
    · rw [List.mem_singleton.mp new]
      simp
  · exact ⟨_, page 0 "again".toList, hostName 0, lower_hostName 0, List.mem_append_right _ (List.mem_singleton.mpr rfl)⟩
  · show w'.shared.now < _
    rw [failing.now]
    decide
  · rintro n result ⟨before, after⟩
    change (w'.shared.works ++ [.fetching (hostName 0)])[n]? = _ at after
    rw [failing.works] at after
    rw [first.works] at before
    by_cases old : n < 1001
    · rw [List.getElem?_append_left (by simpa using old), List.getElem?_map, List.getElem?_range old] at after
      obtain ⟨same, _⟩ := Work.fetched.inj (Option.some.inj after)
      obtain rfl := hostName_inj same
      exact before _ rfl
    · rw [List.getElem?_append_right (by simpa using old), List.getElem?_singleton] at after
      split_ifs at after
      cases after

end

end AgentPey.PlatformRuns
