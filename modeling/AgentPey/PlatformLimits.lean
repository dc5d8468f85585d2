import AgentPey.PlatformReads

/-!
The limits of the client for platforms' URLs, over its runs. A connection goes to a public address that the same call resolved;
few reads and deliveries are out at once, and in any interval few start; and a host whose read failed is not read again before its
wait is over, as long as no other read of it ends and no more hosts fail than are remembered.
-/
namespace AgentPey.PlatformLimits
open Routines Disciplines
open InsertionMaps IpAddresses Store TokenBuckets PlatformProfiles PlatformReads
open TokenBuckets (Sound)
open Option (bind_some toList_some)

abbrev Log := List (Event Call Op Failure Op.Answer Outcome)

abbrev Clients := System Call Client Op Failure Op.Answer Outcome

/-! ### Public addresses -/

/-- The IPv4 addresses not to connect to, by their first bits. -/
def reserved4 : List Range :=
  [⟨0, 8⟩, ⟨0x0a000000, 8⟩, ⟨0x64400000, 10⟩, ⟨0x7f000000, 8⟩, ⟨0xa9fe0000, 16⟩, ⟨0xac100000, 12⟩, ⟨0xc0000000, 24⟩, ⟨0xc0000200, 24⟩,
    ⟨0xc0586300, 24⟩, ⟨0xc0a80000, 16⟩, ⟨0xc6120000, 15⟩, ⟨0xc6336400, 24⟩, ⟨0xcb007100, 24⟩, ⟨0xe0000000, 4⟩, ⟨0xf0000000, 4⟩]

def global6 : Range := ⟨2 ^ 125, 3⟩

/-- What of it is not to be connected to. -/
def reserved6 : List Range := [⟨0x2001 * 2 ^ 112, 23⟩, ⟨0x20010db8 * 2 ^ 96, 32⟩, ⟨0x2002 * 2 ^ 112, 16⟩]

/-- A unicast address of the public internet. -/
def Public (address : Text) : Prop :=
  (∃ v, parseIpv4 address = some v ∧ ∀ r ∈ reserved4, r.contains 32 v = false) ∨
    ∃ v, parseIpv6 address = some v ∧ global6.contains 128 v = true ∧ ∀ r ∈ reserved6, r.contains 128 v = false

/-- The networks of a table, read. -/
def readTable (parse : Text → Option ℕ) (blockList : List (String × ℕ)) : List (Option (ℕ × ℕ)) :=
  blockList.map fun entry => (parse entry.1.toList).map fun base => (base, entry.2)

variable {address : Text}

/-- What is in a table of ranges, once its networks are read. -/
theorem check_eq {width : ℕ} {parse : Text → Option ℕ} {blockList : List (String × ℕ)} {ranges : List Range} {v : ℕ}
    (table : readTable parse blockList = ranges.map fun r => some (r.base, r.length)) (parsed : parse address = some v) :
    check width parse blockList address = ranges.any fun r => r.contains width v := by
  induction blockList generalizing ranges with
  | nil =>
    cases ranges with
    | nil => rfl
    | cons r ranges => cases table
  | cons entry blockList ih =>
    obtain ⟨net, length⟩ := entry
    cases ranges with
    | nil => cases table
    | cons r ranges =>
      obtain ⟨here, others⟩ := List.cons.inj table
      obtain ⟨base, read, same⟩ := Option.map_eq_some_iff.mp here
      obtain ⟨rfl, rfl⟩ := Prod.mk.inj same
      have rest := ih others
      unfold check at rest ⊢
      rw [List.any_cons, List.any_cons, rest]
      simp only at read
      simp only [read, parsed]

theorem blockedV4_read : readTable parseIpv4 blockedV4 = reserved4.map fun r => some (r.base, r.length) := by decide +kernel

theorem globalV6_read : readTable parseIpv6 globalV6 = [global6].map fun r => some (r.base, r.length) := by decide +kernel

theorem blockedV6_read : readTable parseIpv6 blockedV6 = reserved6.map fun r => some (r.base, r.length) := by decide +kernel

theorem isIP_six {text : Text} (six : WebhookUrls.isIP text = 6) : ∃ v, parseIpv6 text = some v := by
  unfold WebhookUrls.isIP at six
  by_cases four : (parseIpv4 text).isSome = true
  · rw [if_pos four] at six
    cases six
  · rw [if_neg four] at six
    by_cases found : (parseIpv6 text).isSome = true
    · exact Option.isSome_iff_exists.mp found
    · rw [if_neg found] at six
      cases six

theorem public_of (open_ : isBlockedAddress address = false) : Public address := by
  unfold isBlockedAddress at open_
  dsimp only at open_
  split_ifs at open_ with four six
  · obtain ⟨v, parsed⟩ := WebhookUrls.isIP_four four
    rw [check_eq blockedV4_read parsed] at open_
    exact .inl ⟨v, parsed, by simpa using open_⟩
  · obtain ⟨v, parsed⟩ := isIP_six six
    rw [Bool.or_eq_false_iff, check_eq globalV6_read parsed, check_eq blockedV6_read parsed] at open_
    obtain ⟨global, outside⟩ := open_
    exact .inr ⟨v, parsed, by simpa using global, by simpa using outside⟩

theorem pinned_public {addresses : List Address} {first : Address} (pin : pinned addresses = .ok first) :
    first ∈ addresses ∧ ∀ a ∈ addresses, Public a.address := by
  cases addresses with
  | nil => cases pin
  | cons a rest =>
    rw [pinned] at pin
    split_ifs at pin with blocked
    cases pin
    refine ⟨List.mem_cons_self, fun a member => public_of ?_⟩
    by_contra one
    exact blocked (List.any_eq_true.mpr ⟨a, member, by simpa using one⟩)

/-! ### What is seen of a run -/

def urlOf : Call → String
  | .read raw => raw
  | .send raw _ => raw

def isRead : Call → Bool
  | .read _ => true
  | .send .. => false

/-- What a question connects to: a URL, at the address that it is pinned to. -/
def connection : Op → Option (Url × Option Text)
  | .get url address _ => some (url, some address)
  | .post url address _ _ => some (url, some address)
  | .loopbackGet url => some (url, none)
  | .loopbackPost url _ => some (url, none)
  | _ => none

/-- Each connection is to the URL of its call, over TLS and at the usual port, and to an address that the name was just resolved to;
    all of these addresses are public. -/
def Pinned (lib : Libraries) (t : Log) : Prop :=
  ∀ before after i c o url address, t = before ++ .asked i c o :: after → connection o = some (url, address) →
    lib.url (urlOf c) = some url ∧ url.protocol = "https:" ∧ url.port = "" ∧
      ∃ addresses, .answered i c (.resolve url.hostname) (.ok addresses) ∈ before ∧ (∀ a ∈ addresses, Public a.address) ∧
        ∃ a ∈ addresses, address = some a.address

/-- A read or a delivery starts when it asks for its name. -/
def starts (reads : Bool) : Event Call Op Failure Op.Answer Outcome → Bool
  | .asked _ c (.resolve _) => isRead c == reads
  | _ => false

def asksName (i : ℕ) : Event Call Op Failure Op.Answer Outcome → Bool
  | .asked j _ (.resolve _) => i = j
  | _ => false

def turns (i : ℕ) : Event Call Op Failure Op.Answer Outcome → Bool
  | .asked j _ .turn => i = j
  | _ => false

/-- The call has started and has not gone on yet from what came of it. -/
def out (t : Log) (i : ℕ) : Bool := t.any (asksName i) && !t.any (turns i)

def outstanding (reads : Bool) (w : Clients) (t : Log) : ℕ :=
  (w.calls.map Prod.fst).zipIdx.countP fun (c, i) => isRead c == reads && out t i

/-- A read of this host ended meanwhile, like this. -/
def Ended (host : Text) (s s' : Client) (work : ℕ) (result : ProfileResult) : Prop :=
  (∀ before, s.works[work]? ≠ some (.fetched host before)) ∧ s'.works[work]? = some (.fetched host result)

def Failed (s : Client) (host : Text) : Prop := ∃ reason, Work.fetched host (.error reason) ∈ s.works

def Crowded (s : Client) : Prop := ∃ hosts : List Text, hosts.Nodup ∧ CACHE_MAX < hosts.length ∧ ∀ host ∈ hosts, Failed s host

def ReadStarts (host : Text) (t : Log) : Prop :=
  ∃ i raw name, lowerCase name = host ∧ .asked i (.read raw) (.resolve name) ∈ t

/-! ### What is counted -/

def Kind.isRead : Kind → Bool
  | .read .. => true
  | .send => false

def readOf (m : Mode) : Option ℕ :=
  match m.stage.job with
  | some (.read work _, _) => some work
  | _ => none

def counted (reads : Bool) (m : Mode) : Option Unit :=
  match m.stage.job with
  | some (kind, _) => if Kind.isRead kind = reads then some () else none
  | none => none

/-- A call that has its token and has not asked yet. -/
def starting (reads : Bool) (m : Mode) : Option Unit :=
  match m.stage with
  | .started kind _ => if Kind.isRead kind = reads then some () else none
  | _ => none

def running (s : Client) (reads : Bool) : ℕ := if reads then s.running else s.sending

def bucket (s : Client) (reads : Bool) : Bucket := if reads then s.readBucket else s.sendBucket

def budget (options : PlatformProfileReaderOptions) (reads : Bool) : Budget := if reads then options.reads else options.sends

def Lasting (b : Backoff) : Prop := HOST_BACKOFF_MS ≤ b.wait ∧ b.wait ≤ HOST_BACKOFF_MAX_MS

section
variable (lib : Libraries) (options : PlatformProfileReaderOptions)

/-- What is so of each call that is counted. -/
structure Sits (s : Client) (c : Call) (m : Mode) : Prop where
  call : m.call = c
  vetted : ∀ kind url, m.stage.job = some (kind, url) → vet lib options (urlOf c) = .ok url ∧ Kind.isRead kind = isRead c
  reads : ∀ work back url, m.stage.job = some (.read work back, url) →
    s.works[work]? = some (.fetching url.host) ∧ ∀ b, back = some b → Lasting b

/-- The counters count, the buckets owe nothing, and what waits has failed. -/
structure Core (s : Client) (ms : List (Call × Option Mode)) : Prop where
  sits : ∀ (i : ℕ) c m, ms[i]? = some (c, some m) → Sits lib options s c m
  apart : (pick readOf ms).Nodup
  counts : ∀ reads, running s reads = (pick (counted reads) ms).length
  few : ∀ reads, running s reads ≤ (budget options reads).atOnce
  sound : ∀ reads, Sound (bucket s reads) s.now
  backoffs : ∀ host b, s.hostBackoff.lookup host = some b → Lasting b ∧ Failed s host

/-- The reads stay as they are, and none ends. -/
structure Quiet (s s' : Client) : Prop where
  goes_on : ∀ (n : ℕ) work, s.works[n]? = some work → s'.works[n]? = some work
  ended : ∀ (n : ℕ) host result, s'.works[n]? = some (.fetched host result) → s.works[n]? = some (.fetched host result)
  hostBackoff : s'.hostBackoff = s.hostBackoff
  now : s.now ≤ s'.now

variable {lib options} {s s' : Client} {ms : List (Call × Option Mode)} {i : ℕ} {c : Call} {m m' : Mode}

theorem quiet_append {work : Work} (works : s'.works = s.works ++ [work]) (under_way : ∀ host result, work ≠ .fetched host result)
    (hostBackoff : s'.hostBackoff = s.hostBackoff) (now : s.now ≤ s'.now) : Quiet s s' := by
  refine ⟨fun n old found => ?_, fun n host result found => ?_, hostBackoff, now⟩
  · obtain ⟨inside, _⟩ := List.getElem?_eq_some_iff.mp found
    rw [works, List.getElem?_append_left inside]
    exact found
  · rw [works] at found
    by_cases old : n < s.works.length
    · rwa [List.getElem?_append_left old] at found
    · rw [List.getElem?_append_right (Nat.not_lt.mp old), List.getElem?_singleton] at found
      split_ifs at found
      exact absurd (Option.some.inj found) (under_way host result)

theorem quiet_same (works : s'.works = s.works) (hostBackoff : s'.hostBackoff = s.hostBackoff) (now : s.now ≤ s'.now) :
    Quiet s s' :=
  ⟨fun _ _ found => works ▸ found, fun _ _ _ found => works ▸ found, hostBackoff, now⟩

variable {allowed : Budget} {work n : ℕ} {kind : Kind} {url : Url} {t : Log}

theorem quiet_refused (refused : Refused allowed s s') : Quiet s s' := by
  obtain ⟨reason, works⟩ := refused.works
  exact quiet_append works (by simp) refused.hostBackoff refused.now.ge

variable {host : Text} {back : Option Backoff}

theorem quiet_started (started : Started allowed host work back s s') : Quiet s s' :=
  quiet_append started.works (by simp) started.hostBackoff started.now.ge

theorem Quiet.failed (quiet : Quiet s s') (failed : Failed s host) : Failed s' host := by
  obtain ⟨reason, member⟩ := failed
  obtain ⟨n, found⟩ := List.mem_iff_getElem?.mp member
  exact ⟨reason, List.mem_iff_getElem?.mpr ⟨n, quiet.goes_on n _ found⟩⟩

theorem Sits.quiet (sits : Sits lib options s c m) (quiet : Quiet s s') : Sits lib options s' c m := by
  refine ⟨sits.call, sits.vetted, fun work back url job => ?_⟩
  obtain ⟨fetching, lasting⟩ := sits.reads work back url job
  exact ⟨quiet.goes_on work _ fetching, lasting⟩

section
variable (core : Core lib options s ms)
include core

theorem Core.same_job (quiet : Quiet s s') (here : ms[i]? = some (c, some m)) (call : m'.call = m.call)
    (job : m'.stage.job = m.stage.job) (counts : ∀ reads, running s' reads = running s reads)
    (sound : ∀ reads, Sound (bucket s' reads) s'.now) : Core lib options s' (ms.set i (c, some m')) := by
  have same_read : readOf m' = readOf m := by simp only [readOf, job]
  have same_counted (reads : Bool) : counted reads m' = counted reads m := by simp only [counted, job]
  have picked := (pick_set readOf here (some m')).trans (by simpa [same_read] using (pick_at readOf here).symm)
  refine ⟨fun j d n found => ?_, picked.nodup_iff.mpr core.apart, fun reads => ?_, fun reads => ?_, sound, fun host b found => ?_⟩
  · refine all_set (P := fun _ d n => Sits lib options s' d n) ?_ (fun j d n _ old => (core.sits j d n old).quiet quiet) found
    have sits := (core.sits i c m here).quiet quiet
    exact ⟨call.trans sits.call, fun kind url found => sits.vetted kind url (job ▸ found), fun work back url found =>
      sits.reads work back url (job ▸ found)⟩
  · have picked := (pick_set (counted reads) here (some m')).trans
      (by simpa [same_counted] using (pick_at (counted reads) here).symm)
    rw [counts, core.counts, picked.length_eq]
  · exact counts reads ▸ core.few reads
  · obtain ⟨lasting, failed⟩ := core.backoffs host b (quiet.hostBackoff ▸ found)
    exact ⟨lasting, quiet.failed failed⟩

theorem Core.later (quiet : Quiet s s') (counts : ∀ reads, running s' reads = running s reads)
    (sound : ∀ reads, Sound (bucket s' reads) s'.now) : Core lib options s' ms := by
  refine ⟨fun j d n found => (core.sits j d n found).quiet quiet, core.apart, fun reads => (counts reads).trans (core.counts reads),
    fun reads => (counts reads).le.trans (core.few reads), sound, fun host b found => ?_⟩
  obtain ⟨lasting, failed⟩ := core.backoffs host b (quiet.hostBackoff ▸ found)
  exact ⟨lasting, quiet.failed failed⟩

theorem Core.counted_in (quiet : Quiet s s') (here : ms[i]? = some (c, some m)) (idle : m.stage.job = none)
    (job : m'.stage.job = some (kind, url)) (call : m'.call = c) (vetted : vet lib options (urlOf c) = .ok url)
    (same_kind : Kind.isRead kind = isRead c)
    (reads : ∀ work back, kind = .read work back → s.works[work]? = none ∧ s'.works[work]? = some (.fetching url.host) ∧
      ∀ b, back = some b → Lasting b)
    (counts : ∀ reads, running s' reads = running s reads + if Kind.isRead kind = reads then 1 else 0)
    (few : ∀ reads, running s' reads ≤ (budget options reads).atOnce) (sound : ∀ reads, Sound (bucket s' reads) s'.now) :
    Core lib options s' (ms.set i (c, some m')) := by
  have others {α : Type} {f : Mode → Option α} (nothing : f m = none) : (pick f ms).Perm (pick f (ms.eraseIdx i)) := by
    simpa [nothing] using pick_at f here
  refine ⟨fun j d n found => ?_, ?_, fun reads => ?_, few, sound, fun host b found => ?_⟩
  · refine all_set (P := fun _ d n => Sits lib options s' d n) ?_ (fun j d n _ old => (core.sits j d n old).quiet quiet) found
    refine ⟨call, fun kind' url' found => ?_, fun work back url' found => ?_⟩
    · rw [job] at found
      cases found
      exact ⟨vetted, same_kind⟩
    · rw [job] at found
      cases found
      exact (reads work back rfl).2
  · have rest := others (f := readOf) (by simp only [readOf, idle])
    refine (pick_set readOf here (some m')).nodup_iff.mpr ?_
    cases kind with
    | send =>
      have nothing : readOf m' = none := by simp only [readOf, job]
      simpa [nothing] using rest.nodup_iff.mp core.apart
    | read work back =>
      have own : readOf m' = some work := by simp only [readOf, job]
      simp only [own, bind_some, toList_some, List.singleton_append, List.nodup_cons]
      refine ⟨fun member => ?_, rest.nodup_iff.mp core.apart⟩
      obtain ⟨⟨d, mode⟩, found, holds⟩ := List.mem_filterMap.mp (rest.symm.subset member)
      obtain ⟨j, found⟩ := List.mem_iff_getElem?.mp found
      cases mode with
      | none => cases holds
      | some n =>
        have taken : readOf n = some work := holds
        simp only [readOf] at taken
        split at taken
        · rename_i job
          cases taken
          have fetching := ((core.sits j d n found).reads work _ _ job).1
          rw [(reads work back rfl).1] at fetching
          cases fetching
        · cases taken
  · have rest := others (f := counted reads) (by simp only [counted, idle])
    rw [counts, core.counts, rest.length_eq, (pick_set (counted reads) here (some m')).length_eq]
    simp only [counted, job, bind_some]
    split_ifs
    · simp [Nat.add_comm]
    · simp
  · obtain ⟨lasting, failed⟩ := core.backoffs host b (quiet.hostBackoff ▸ found)
    exact ⟨lasting, quiet.failed failed⟩

theorem Core.counted_out (here : ms[i]? = some (c, some m)) (job : m.stage.job = some (kind, url)) (idle : m'.stage.job = none)
    (call : m'.call = m.call) (others : ∀ n work, readOf m ≠ some n → s.works[n]? = some work → s'.works[n]? = some work)
    (counts : ∀ reads, running s' reads = running s reads - if Kind.isRead kind = reads then 1 else 0)
    (backoffs : ∀ host b, s'.hostBackoff.lookup host = some b → Lasting b ∧ Failed s' host)
    (sound : ∀ reads, Sound (bucket s' reads) s'.now) : Core lib options s' (ms.set i (c, some m')) := by
  refine ⟨fun j d n found => ?_, ?_, fun reads => ?_, fun reads => ?_, sound, backoffs⟩
  · refine all_set (P := fun _ d n => Sits lib options s' d n) ?_ (fun j d n other old => ?_) found
    · exact ⟨call.trans (core.sits i c m here).call, by simp [idle], by simp [idle]⟩
    · have sits := core.sits j d n old
      refine ⟨sits.call, sits.vetted, fun work back url' found => ?_⟩
      obtain ⟨fetching, lasting⟩ := sits.reads work back url' found
      refine ⟨others work _ (fun same => ?_) fetching, lasting⟩
      have twice := (pick_at readOf here).nodup_iff.mp core.apart
      simp only [same, bind_some, toList_some, List.singleton_append, List.nodup_cons] at twice
      apply twice.1
      refine List.mem_filterMap.mpr ⟨(d, some n), ?_, by simp only [bind_some, readOf, found]⟩
      exact List.mem_eraseIdx_iff_getElem?.mpr ⟨j, other, old⟩
  · refine (pick_set readOf here (some m')).nodup_iff.mpr ?_
    have nothing : readOf m' = none := by simp only [readOf, idle]
    simpa [nothing] using (List.nodup_append.mp ((pick_at readOf here).nodup_iff.mp core.apart)).2.1
  · rw [counts, core.counts, (pick_at (counted reads) here).length_eq, (pick_set (counted reads) here (some m')).length_eq]
    simp only [counted, job, idle, bind_some]
    split_ifs
    · simp
    · simp
  · have few := core.few reads
    rw [counts]
    omega

end

/-! ### What a step does -/

def take (options : PlatformProfileReaderOptions) (s : Client) (reads : Bool) : Bool × Bucket :=
  (bucket s reads).take (budget options reads).burst (budget options reads).perSecond s.now

theorem sync_budget (step : Syncs lib options m s s' m') (reads : Bool) : s'.now = s.now ∧ starting reads m = none ∧
    (starting reads m' = none ∧
        (bucket s' reads = bucket s reads ∨ (take options s reads).1 = false ∧ bucket s' reads = (take options s reads).2) ∨
      starting reads m' = some () ∧ (take options s reads).1 = true ∧ bucket s' reads = (take options s reads).2) := by
  cases step with
  | stays => exact ⟨rfl, rfl, .inl ⟨rfl, .inl rfl⟩⟩
  | lands => exact ⟨rfl, rfl, .inl ⟨rfl, .inl (by cases reads <;> rfl)⟩⟩
  | endsRead => exact ⟨rfl, rfl, .inl ⟨rfl, .inl (by cases reads <;> rfl)⟩⟩
  | endsSend => exact ⟨rfl, rfl, .inl ⟨rfl, .inl (by cases reads <;> rfl)⟩⟩
  | refuses refused =>
    have spec := read_refused refused
    refine ⟨spec.now, rfl, .inl ⟨rfl, ?_⟩⟩
    cases reads with
    | true => exact spec.readBucket
    | false => exact .inl spec.sendBucket
  | starts vetted starts =>
    have spec := read_starts starts
    refine ⟨spec.now, rfl, ?_⟩
    cases reads with
    | true => exact .inr ⟨rfl, spec.token, spec.readBucket⟩
    | false => exact .inl ⟨rfl, .inl spec.sendBucket⟩
  | startsSend vetted starts =>
    obtain ⟨_, token, left⟩ := startSend_starts starts
    rw [left]
    refine ⟨rfl, rfl, ?_⟩
    cases reads with
    | true => exact .inl ⟨rfl, .inl rfl⟩
    | false => exact .inr ⟨rfl, token, rfl⟩
  | refusesSend refused =>
    rcases startSend_refused refused with same | ⟨none, left⟩
    · rw [same]
      exact ⟨rfl, rfl, .inl ⟨rfl, .inl rfl⟩⟩
    · rw [left]
      refine ⟨rfl, rfl, .inl ⟨rfl, ?_⟩⟩
      cases reads with
      | true => exact .inl rfl
      | false => exact .inr ⟨none, rfl⟩

theorem sync_sound (step : Syncs lib options m s s' m') (reads : Bool) (sound : Sound (bucket s reads) s.now) :
    Sound (bucket s' reads) s'.now := by
  have taken : Sound (take options s reads).2 s.now :=
    sound.take (budget options reads).burst_nonneg (budget options reads).perSecond_nonneg
  obtain ⟨now, _, ⟨_, same | ⟨_, left⟩⟩ | ⟨_, _, left⟩⟩ := sync_budget step reads
  · rwa [same, now]
  · rwa [left, now]
  · rwa [left, now]

abbrev SpentOf (options : PlatformProfileReaderOptions) (reads : Bool) (first : ℚ) (since : ℤ) (taken : ℕ) (s : Client) : Prop :=
  Spent (budget options reads).burst (budget options reads).perSecond (bucket s reads) first since taken s.now

theorem sync_spent (step : Syncs lib options m s s' m') (here : ms[i]? = some (c, some m)) (reads : Bool) {first : ℚ}
    {since : ℤ} (spent : SpentOf options reads first since (n + (pick (starting reads) ms).length) s) :
    SpentOf options reads first since (n + (pick (starting reads) (ms.set i (c, some m'))).length) s' := by
  unfold SpentOf at spent ⊢
  obtain ⟨now, before, after⟩ := sync_budget step reads
  have old := (pick_at (starting reads) here).length_eq
  have new := (pick_set (starting reads) here (some m')).length_eq
  rw [bind_some, before] at old
  rw [now]
  rcases after with ⟨none, ends⟩ | ⟨one, token, left⟩
  · rw [bind_some, none] at new
    rw [new, ← old]
    rcases ends with same | ⟨vain, left⟩
    · rwa [same]
    · rw [left]
      exact spent.vain vain
  · rw [bind_some, one] at new
    have more : n + (pick (starting reads) (ms.set i (c, some m'))).length = n + (pick (starting reads) ms).length + 1 := by
      rw [new, old]
      simp only [toList_some, Option.toList_none, List.length_append, List.length_singleton, List.length_nil]
      omega
    rw [more, left]
    exact spent.take token

theorem nextBackoff_lasting (lasting : ∀ b, back = some b → Lasting b) (now : ℤ) : Lasting (nextBackoff back now) := by
  cases back with
  | none => simp [Lasting, nextBackoff, HOST_BACKOFF_MS, HOST_BACKOFF_MAX_MS]
  | some b =>
    obtain ⟨low, high⟩ := lasting b rfl
    simp only [Lasting, nextBackoff, HOST_BACKOFF_MS, HOST_BACKOFF_MAX_MS, Option.map_some, Option.getD_some] at low high ⊢
    omega

/-- Time passes, and what has ended stays as it is. -/
structure Later (s s' : Client) : Prop where
  now : s.now ≤ s'.now
  fetched : ∀ (n : ℕ) host result, s.works[n]? = some (.fetched host result) → s'.works[n]? = some (.fetched host result)

theorem Quiet.later (quiet : Quiet s s') : Later s s' := ⟨quiet.now, fun n _ _ found => quiet.goes_on n _ found⟩

theorem Later.failed (later : Later s s') (failed : Failed s host) : Failed s' host := by
  obtain ⟨reason, member⟩ := failed
  obtain ⟨n, found⟩ := List.mem_iff_getElem?.mp member
  exact ⟨reason, List.mem_iff_getElem?.mpr ⟨n, later.fetched n _ _ found⟩⟩

theorem Later.crowded (later : Later s s') (crowded : Crowded s) : Crowded s' := by
  obtain ⟨hosts, apart, many, failed⟩ := crowded
  exact ⟨hosts, apart, many, fun host member => later.failed (failed host member)⟩

variable {s₀ : Client}

theorem Later.ended (later : Later s s') {result : ProfileResult} (ended : Ended host s₀ s n result)
    : Ended host s₀ s' n result := ⟨ended.1, later.fetched n _ _ ended.2⟩

theorem crowded_of {waiting : Keyed Text Backoff} (failed : ∀ host b, waiting.lookup host = some b → Failed s host)
    (many : CACHE_MAX < size waiting) : Crowded s := by
  refine ⟨waiting.keys, waiting.keys_nodup, by simpa [size, AList.keys, List.keys] using many, fun host member => ?_⟩
  obtain ⟨b, found⟩ := Option.isSome_iff_exists.mp (AList.lookup_isSome.mpr (AList.mem_keys.mpr member))
  exact failed host b found

section
variable {text : String} {url : Url} {work : ℕ} {back : Option Backoff} {result : ProfileResult}

theorem endRead_works (s : Client) : (s.endRead text url work back result).works = s.works.set work (.fetched url.host result) := rfl

theorem endRead_own (fetching : s.works[work]? = some (.fetching url.host)) :
    (s.endRead text url work back result).works[work]? = some (.fetched url.host result) := by
  obtain ⟨inside, _⟩ := List.getElem?_eq_some_iff.mp fetching
  rw [endRead_works, List.getElem?_set_self inside]

theorem endRead_other {n : ℕ} (other : n ≠ work) : (s.endRead text url work back result).works[n]? = s.works[n]? := by
  rw [endRead_works, List.getElem?_set_ne (Ne.symm other)]

theorem endRead_later (fetching : s.works[work]? = some (.fetching url.host)) : Later s (s.endRead text url work back result) := by
  refine ⟨le_refl s.now, fun n host ended found => ?_⟩
  rw [endRead_other]
  · exact found
  · rintro rfl
    rw [fetching] at found
    cases found

theorem endRead_waiting {host : Text} {b : Backoff}
    (found : (s.endRead text url work back result).hostBackoff.lookup host = some b) :
    s.hostBackoff.lookup host = some b ∨ host = url.host ∧ b = nextBackoff back s.now ∧ ∃ reason, result = .error reason := by
  replace found : (s.backOff url.host back result).lookup host = some b := found
  cases result with
  | ok profile =>
    rw [Client.backOff, lookup_erase] at found
    split_ifs at found
    exact .inl found
  | error reason =>
    have whole : (put s.hostBackoff url.host (nextBackoff back s.now)).lookup host = some b := by
      rw [Client.backOff] at found
      split_ifs at found
      · exact lookup_dropOldest found
      · exact found
    rw [lookup_put] at whole
    split_ifs at whole with same
    · exact .inr ⟨same, (Option.some.inj whole).symm, reason, rfl⟩
    · exact .inl whole

theorem endRead_failed (s : Client) (text : String) (url : Url) (work : ℕ) (back : Option Backoff) (reason : ProfileFailure) :
    (s.endRead text url work back (.error reason)).hostBackoff = put s.hostBackoff url.host (nextBackoff back s.now) ∨
      CACHE_MAX < size (put s.hostBackoff url.host (nextBackoff back s.now)) := by
  show s.backOff url.host back (.error reason) = _ ∨ _
  rw [Client.backOff]
  split_ifs with many
  · exact .inr many
  · exact .inl rfl

/-- A host whose read ended waits as its last failure says, and other hosts as they did, unless too many do. -/
theorem endRead_waits (text : String) (back : Option Backoff) (reason : ProfileFailure)
    (fetching : s.works[work]? = some (.fetching url.host))
    (backoffs : ∀ host b, s.hostBackoff.lookup host = some b → Failed s host) (host : Text) :
    (s.endRead text url work back (.error reason)).hostBackoff.lookup host =
        (if host = url.host then some (nextBackoff back s.now) else s.hostBackoff.lookup host) ∨
      Crowded (s.endRead text url work back (.error reason)) := by
  rcases endRead_failed s text url work back reason with kept | many
  · exact .inl (by rw [kept, lookup_put])
  · refine .inr (crowded_of (fun host b found => ?_) many)
    rw [lookup_put] at found
    split_ifs at found with same
    · subst same
      exact ⟨reason, List.mem_iff_getElem?.mpr ⟨work, endRead_own fetching⟩⟩
    · exact (endRead_later fetching).failed (backoffs host b found)

end

theorem sync_cases (step : Syncs lib options m s s' m') : Quiet s s' ∨ ∃ d text url work back result,
    m = ⟨d, .ending (.read work back) url⟩ ∧ m' = ⟨d, .idle⟩ ∧ s' = s.endRead text url work back result := by
  cases step with
  | endsRead => exact .inr ⟨_, _, _, _, _, _, rfl, rfl, rfl⟩
  | stays => exact .inl (quiet_same rfl rfl (le_refl _))
  | lands => exact .inl (quiet_same rfl rfl (le_refl _))
  | endsSend => exact .inl (quiet_same rfl rfl (le_refl _))
  | refuses refused => exact .inl (quiet_refused (read_refused refused))
  | starts vetted starts => exact .inl (quiet_started (read_starts starts))
  | startsSend vetted starts =>
    obtain ⟨_, _, left⟩ := startSend_starts starts
    rw [left]
    exact .inl (quiet_same rfl rfl (le_refl _))
  | refusesSend refused =>
    rcases startSend_refused refused with same | ⟨_, left⟩
    · rw [same]
      exact .inl (quiet_same rfl rfl (le_refl _))
    · rw [left]
      exact .inl (quiet_same rfl rfl (le_refl _))

theorem core_sync (core : Core lib options s ms) (here : ms[i]? = some (c, some m)) (step : Syncs lib options m s s' m') :
    Core lib options s' (ms.set i (c, some m')) := by
  have sound (reads : Bool) : Sound (bucket s' reads) s'.now := sync_sound step reads (core.sound reads)
  have sits := core.sits i c m here
  cases step with
  | stays => exact core.same_job (quiet_same rfl rfl (le_refl _)) here rfl rfl (fun _ => rfl) sound
  | lands => exact core.same_job (quiet_same rfl rfl (le_refl _)) here rfl rfl (fun reads => by cases reads <;> rfl) sound
  | refuses refused =>
    have spec := read_refused refused
    refine core.same_job (quiet_refused spec) here rfl rfl (fun reads => ?_) sound
    cases reads with
    | true => exact spec.running
    | false => exact spec.sending
  | refusesSend refused =>
    rcases startSend_refused refused with same | ⟨_, left⟩
    · rw [same]
      exact core.same_job (quiet_same rfl rfl (le_refl _)) here rfl rfl (fun _ => rfl) core.sound
    · rw [left] at sound ⊢
      exact core.same_job (quiet_same rfl rfl (le_refl _)) here rfl rfl (fun reads => by cases reads <;> rfl) sound
  | starts vetted starts =>
    have spec := read_starts starts
    have call : _ = c := sits.call
    subst call
    refine core.counted_in (quiet_started spec) here rfl rfl rfl vetted rfl (fun work back same => ?_) (fun reads => ?_)
      (fun reads => ?_) sound
    · cases same
      refine ⟨by rw [spec.work]; simp, by rw [spec.works, spec.work]; simp, fun b found => ?_⟩
      exact (core.backoffs _ b (spec.back ▸ found)).1
    · cases reads with
      | true => exact spec.running
      | false => exact spec.sending
    · cases reads with
      | true => exact spec.running.le.trans spec.room
      | false => exact spec.sending.le.trans (core.few false)
  | startsSend vetted starts =>
    obtain ⟨room, _, left⟩ := startSend_starts starts
    have call : _ = c := sits.call
    subst call
    rw [left] at sound ⊢
    refine core.counted_in (quiet_same rfl rfl (le_refl _)) here rfl rfl rfl vetted rfl (fun _ _ same => nomatch same)
      (fun reads => ?_) (fun reads => ?_) sound
    · cases reads <;> rfl
    · cases reads with
      | true => exact core.few true
      | false => exact room
  | @endsRead _ _ text work back url result =>
    obtain ⟨fetching, lasting⟩ := sits.reads work back url rfl
    refine core.counted_out here rfl rfl rfl (fun n old other found => ?_) (fun reads => by cases reads <;> rfl)
      (fun host b found => ?_) sound
    · rw [endRead_other (fun same => other (by rw [same]; rfl))]
      exact found
    · rcases endRead_waiting found with before | ⟨rfl, rfl, reason, rfl⟩
      · obtain ⟨lasts, failed⟩ := core.backoffs host b before
        exact ⟨lasts, (endRead_later fetching).failed failed⟩
      · exact ⟨nextBackoff_lasting lasting s.now, reason, List.mem_iff_getElem?.mpr ⟨work, endRead_own fetching⟩⟩
  | endsSend =>
    refine core.counted_out here rfl rfl rfl (fun _ _ _ found => found) (fun reads => by cases reads <;> rfl) (fun host b found => ?_)
      sound
    obtain ⟨lasts, failed⟩ := core.backoffs host b found
    exact ⟨lasts, failed⟩

/-! ### How long a host waits -/

/-- The host's wait is over, or another read of it ended, or too many hosts have failed. -/
def Over (s₀ s : Client) (host : Text) (b : Backoff) : Prop :=
  b.ends ≤ s.now ∨ (∃ n result, Ended host s₀ s n result) ∨ Crowded s

/-- What is so of the waits since some state. -/
structure Waits (s₀ s : Client) (ms : List (Call × Option Mode)) (t : Log) : Prop where
  later : Later s₀ s
  kept : ∀ host b, s₀.hostBackoff.lookup host = some b →
    s.hostBackoff.lookup host = some b ∨ (∃ n result, Ended host s₀ s n result) ∨ Crowded s
  begun : ∀ (i : ℕ) c m work back url b, ms[i]? = some (c, some m) → m.stage = .started (.read work back) url →
    s₀.hostBackoff.lookup url.host = some b → Over s₀ s url.host b
  started : ∀ host b, ReadStarts host t → s₀.hostBackoff.lookup host = some b → Over s₀ s host b
  failed : ∀ n host reason, Ended host s₀ s n (.error reason) →
    (∃ b, s.hostBackoff.lookup host = some b ∧ s₀.now + b.wait ≤ b.ends) ∨
      (∃ n' result, n' ≠ n ∧ Ended host s₀ s n' result) ∨ Crowded s

theorem Over.later {b : Backoff} (passed : Over s₀ s host b) (later : Later s s') : Over s₀ s' host b := by
  rcases passed with waited | ⟨n, result, ended⟩ | crowded
  · exact .inl (waited.trans later.now)
  · exact .inr (.inl ⟨n, result, later.ended ended⟩)
  · exact .inr (.inr (later.crowded crowded))

theorem Later.trans {s'' : Client} (first : Later s s') (second : Later s' s'') : Later s s'' :=
  ⟨first.now.trans second.now, fun n host result found => second.fetched n host result (first.fetched n host result found)⟩

theorem Waits.quiet {ms' : List (Call × Option Mode)} (waits : Waits s₀ s ms t) (quiet : Quiet s s')
    (begun : ∀ (i : ℕ) c m work back url b, ms'[i]? = some (c, some m) → m.stage = .started (.read work back) url →
      s₀.hostBackoff.lookup url.host = some b → Over s₀ s' url.host b) : Waits s₀ s' ms' t := by
  refine ⟨waits.later.trans quiet.later, fun host b found => ?_, begun, fun host b starts found =>
    (waits.started host b starts found).later quiet.later, fun n host reason ended => ?_⟩
  · rcases waits.kept host b found with same | ⟨n, result, ended⟩ | crowded
    · exact .inl (quiet.hostBackoff ▸ same)
    · exact .inr (.inl ⟨n, result, quiet.later.ended ended⟩)
    · exact .inr (.inr (quiet.later.crowded crowded))
  · rcases waits.failed n host reason ⟨ended.1, quiet.ended n host _ ended.2⟩ with ⟨b, same, lasts⟩ | ⟨n', result, other, ended'⟩ |
      crowded
    · exact .inl ⟨b, quiet.hostBackoff ▸ same, lasts⟩
    · exact .inr (.inl ⟨n', result, other, quiet.later.ended ended'⟩)
    · exact .inr (.inr (quiet.later.crowded crowded))

theorem sync_begins (step : Syncs lib options m s s' m')
    (begun : m'.stage = .started (.read work back) url) : ∀ b, s.hostBackoff.lookup url.host = some b → b.ends ≤ s'.now := by
  cases step with
  | starts vetted starts =>
    cases begun
    have spec := read_starts starts
    exact fun b found => spec.now ▸ spec.waited b found
  | stays => cases begun
  | lands => cases begun
  | refuses refused => cases begun
  | refusesSend refused => cases begun
  | startsSend vetted starts => cases begun
  | endsRead => cases begun
  | endsSend => cases begun

theorem endRead_elsewhere (text : String) (back : Option Backoff) (result : ProfileResult)
    (fetching : s.works[work]? = some (.fetching url.host))
    (backoffs : ∀ host b, s.hostBackoff.lookup host = some b → Failed s host) (other : host ≠ url.host) :
    (s.endRead text url work back result).hostBackoff.lookup host = s.hostBackoff.lookup host ∨
      Crowded (s.endRead text url work back result) := by
  cases result with
  | ok profile =>
    refine .inl ?_
    show (s.hostBackoff.erase url.host).lookup host = _
    rw [lookup_erase, if_neg other]
  | error reason =>
    rcases endRead_waits text back reason fetching backoffs host with found | crowded
    · exact .inl (by rw [found, if_neg other])
    · exact .inr crowded

theorem waits_sync (core : Core lib options s ms) (waits : Waits s₀ s ms t) (here : ms[i]? = some (c, some m))
    (step : Syncs lib options m s s' m') : Waits s₀ s' (ms.set i (c, some m')) t := by
  rcases sync_cases step with quiet | ⟨d, text, url, work, back, result, rfl, rfl, rfl⟩
  · refine waits.quiet quiet fun j d n work back url b found => ?_
    refine all_set (P := fun _ _ n => n.stage = .started (.read work back) url → s₀.hostBackoff.lookup url.host = some b →
      Over s₀ s' url.host b) (fun begun found => ?_) (fun j d n _ old begun found => ?_) found
    · rcases waits.kept url.host b found with same | ended
      · exact .inl (sync_begins step begun b same)
      · exact Over.later (.inr ended) quiet.later
    · exact (waits.begun j d n work back url b old begun found).later quiet.later
  · obtain ⟨fetching, _⟩ := (core.sits i c _ here).reads work back url rfl
    have failed (host : Text) (b : Backoff) (found : s.hostBackoff.lookup host = some b) : Failed s host :=
      (core.backoffs host b found).2
    have later : Later s (s.endRead text url work back result) := endRead_later fetching
    have now : Ended url.host s₀ (s.endRead text url work back result) work result := by
      refine ⟨fun before found => ?_, endRead_own fetching⟩
      have still := waits.later.fetched work _ _ found
      rw [fetching] at still
      cases still
    refine ⟨waits.later.trans later, fun host b found => ?_, fun j d n work' back' url' b found begun there => ?_,
      fun host b starts found => (waits.started host b starts found).later later, fun n host reason ended => ?_⟩
    · by_cases same : host = url.host
      · subst same
        exact .inr (.inl ⟨work, result, now⟩)
      · rcases waits.kept host b found with kept | ⟨n, result, ended⟩ | crowded
        · rcases endRead_elsewhere text back result fetching failed same with still | crowded
          · exact .inl (still.trans kept)
          · exact .inr (.inr crowded)
        · exact .inr (.inl ⟨n, result, later.ended ended⟩)
        · exact .inr (.inr (later.crowded crowded))
    · rcases mode_of_set found with ⟨_, _, idle⟩ | ⟨_, old⟩
      · cases idle
        cases begun
      · exact (waits.begun j d n work' back' url' b old begun there).later later
    · by_cases own : n = work
      · subst own
        have same := ended.2
        rw [endRead_own fetching] at same
        cases same
        rcases endRead_waits text back reason fetching failed url.host with found | crowded
        · refine .inl ⟨nextBackoff back s.now, by rw [found, if_pos rfl], ?_⟩
          have passed := waits.later.now
          simp only [nextBackoff]
          omega
        · exact .inr (.inr crowded)
      · have before : Ended host s₀ s n (.error reason) := ⟨ended.1, endRead_other own ▸ ended.2⟩
        by_cases same : host = url.host
        · subst same
          exact .inr (.inl ⟨work, result, Ne.symm own, now⟩)
        · rcases waits.failed n host reason before with ⟨b, found, lasts⟩ | ⟨n', result', other, ended'⟩ | crowded
          · rcases endRead_elsewhere text back result fetching failed same with still | crowded
            · exact .inl ⟨b, still.trans found, lasts⟩
            · exact .inr (.inr crowded)
          · exact .inr (.inl ⟨n', result', other, later.ended ended'⟩)
          · exact .inr (.inr (later.crowded crowded))

end

end AgentPey.PlatformLimits
