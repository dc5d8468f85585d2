import AgentPey.VaultInstances

/-!
What `verify` reports on the instances of a Postgres vault. Under the lock every section sees
its tenant's whole chain, and inserts the row that continues it; the table's chains are thus
intact in every state. An own list stays intact through an insert exactly when it ends like the
chain that the section sees.
-/
namespace AgentPey.VaultAlarms
open AgentPass Dates LocalPolicyRail Transactions VaultEntries PostgresVault PostgresSections PostgresLimits
open HashChains VaultInstances
open Store (Keyed lookup_insert lookup_erase)
open VaultParity (asRecord)
open VaultInstances (Call Reply body run)

/-! ### A stored chain -/

/-- The rows of a tenant are numbered in order and are an intact chain. -/
structure Stored (host : Host) (tenantId : String) (rows : List VaultRow) : Prop where
  ordered : Ordered (ofTenant tenantId rows)
  intact : Intact (recordChain host.sha256) "" ((ofTenant tenantId rows).map asRecord)

section
variable {host : Host} {tenantId : String} {rows rows' : List VaultRow}

theorem stored_nil : Stored host tenantId [] := ⟨List.Pairwise.nil, trivial⟩

theorem Stored.congr (stored : Stored host tenantId rows) (same : ofTenant tenantId rows' = ofTenant tenantId rows) :
    Stored host tenantId rows' := by
  refine ⟨?_, ?_⟩
  · rw [same]
    exact stored.ordered
  · rw [same]
    exact stored.intact

/-- What a section inserts after the tail it has read. -/
def Next (host : Host) (tenantId : String) (seen : List VaultRow) (row : VaultRow) : Prop :=
  ∃ entry, row = nextRow host tenantId (lastBySeq (ofTenant tenantId seen)) entry

variable {row : VaultRow}

theorem Next.link (stored : Stored host tenantId rows) (next : Next host tenantId rows row) :
    row.prev_hash = endOf host ((ofTenant tenantId rows).map asRecord) := by
  obtain ⟨entry, rfl⟩ := next
  rw [stored.ordered.lastBySeq, endOf, lastHash, List.getLast?_map]
  cases (ofTenant tenantId rows).getLast? <;> rfl

theorem Next.hashed (next : Next host tenantId rows row) :
    row.hash = (recordChain host.sha256).digest row.prev_hash (asRecord row) := by
  obtain ⟨entry, rfl⟩ := next
  rfl

/-- A list of records stays intact through a next row exactly when it ends with the row's link. -/
theorem Next.intact_snoc (next : Next host tenantId rows row) {records : List VaultRecord}
    (intact : Intact (recordChain host.sha256) "" records) :
    Intact (recordChain host.sha256) "" (records ++ [asRecord row]) ↔ endOf host records = row.prev_hash := by
  rw [HashChains.intact_snoc]
  constructor
  · rintro ⟨_, linked, _⟩
    exact linked.symm
  · intro ends
    refine ⟨intact, ends.symm, ?_⟩
    rw [show lastHash (recordChain host.sha256) "" records = row.prev_hash from ends]
    exact next.hashed

section
variable (stored : Stored host tenantId rows)
include stored

theorem Stored.next (next : Next host tenantId rows row) : Stored host tenantId (rows ++ [row]) := by
  have link := next.link stored
  have continued := (next.intact_snoc stored.intact).mpr link.symm
  obtain ⟨entry, rfl⟩ := next
  rw [stored.ordered.lastBySeq] at continued ⊢
  have own : ofTenant tenantId [nextRow host tenantId (ofTenant tenantId rows).getLast? entry] =
      [nextRow host tenantId (ofTenant tenantId rows).getLast? entry] := by
    simp [ofTenant, nextRow]
  refine ⟨?_, ?_⟩
  · rw [ofTenant_append, own]
    exact stored.ordered.next host tenantId entry
  · rw [ofTenant_append, own, List.map_append]
    exact continued

theorem Next.free (next : Next host tenantId rows row) : rows.any ((schema host).clash row) = false := by
  obtain ⟨entry, rfl⟩ := next
  rw [stored.ordered.lastBySeq]
  exact stored.ordered.next_free host entry

theorem Stored.load : Intact (recordChain host.sha256) "" (load tenantId rows) := by
  rw [VaultInstances.load, stored.ordered.orderBySeq]
  exact stored.intact

end

end

/-! ### Sections that append what comes next -/

section
variable {α β : Type}

/-- Every insert of the program, which has seen these rows, is of the row that comes next. -/
def Appends (host : Host) (tenantId : String) : Txn VaultRow VaultRow Thrown α → List VaultRow → Prop
  | .done _, _ => True
  | .fail _, _ => True
  | .select rest, _ => ∀ rows, Appends host tenantId (rest rows) rows
  | .insert row rest, seen => Next host tenantId seen row ∧ Appends host tenantId rest (seen ++ [row])

variable {host : Host} {tenantId : String} {seen seen' : List VaultRow}
variable {x : Txn VaultRow VaultRow Thrown α}

theorem Appends.bind {f : α → Txn VaultRow VaultRow Thrown β} (first : Appends host tenantId x seen)
    (rest : ∀ a rows, Appends host tenantId (f a) rows) : Appends host tenantId (x >>= f) seen := by
  induction x generalizing seen with
  | done a => exact rest a seen
  | fail e => trivial
  | select k ih => exact fun rows => ih rows (first rows)
  | insert row k ih => exact ⟨first.1, ih first.2⟩

theorem Appends.attempt (appends : Appends host tenantId x seen) : Appends host tenantId x.attempt seen := by
  induction x generalizing seen with
  | done a => trivial
  | fail e => trivial
  | select k ih => exact fun rows => ih rows (appends rows)
  | insert row k ih => exact ⟨appends.1, ih appends.2⟩

theorem Appends.congr (appends : Appends host tenantId x seen) (same : ofTenant tenantId seen' = ofTenant tenantId seen)
    : Appends host tenantId x seen' := by
  induction x generalizing seen seen' with
  | done a => trivial
  | fail e => trivial
  | select k ih => exact appends
  | insert row k ih =>
    obtain ⟨⟨entry, next⟩, later⟩ := appends
    refine ⟨⟨entry, ?_⟩, ih later ?_⟩
    · rw [same]
      exact next
    · rw [ofTenant_append, ofTenant_append, same]

theorem appends_ofExcept (x : Except Thrown α) : Appends host tenantId (Txn.ofExcept x) seen := by
  cases x <;> trivial

theorem appends_lift (x : Except Thrown α) :
    Appends host tenantId (liftM x : Txn VaultRow VaultRow Thrown α) seen := appends_ofExcept x

theorem appends_query (f : List VaultRow → Except Thrown α) : Appends host tenantId (Txn.query f) seen :=
  fun _ => appends_ofExcept _

theorem appends_appendVia (entry : VaultEntry) : Appends host tenantId (appendVia host tenantId entry) seen :=
  fun _ => ⟨⟨entry, rfl⟩, trivial⟩

theorem appends_spentOn (subject currency : String) (at_ : Date) :
    Appends host tenantId (spentOnVia tenantId subject currency at_) seen :=
  (appends_lift _).bind fun _ _ => appends_query _

theorem appends_grantState (intentId : String) : Appends host tenantId (grantStateVia tenantId intentId) seen :=
  appends_query _

theorem appends_hasRecorded (intentId : String) : Appends host tenantId (hasRecordedVia tenantId intentId) seen :=
  (appends_grantState intentId).bind fun _ _ => trivial

theorem appends_record (entry : SpendLedgerEntry) : Appends host tenantId (recordVia host tenantId entry) seen := by
  refine (appends_hasRecorded _).bind fun recorded rows => ?_
  split
  · trivial
  · exact (appends_lift _).bind fun _ _ => (appends_lift _).bind fun _ _ => appends_appendVia _

theorem appends_release (input : ReleaseSpendInput) : Appends host tenantId (releaseVia host tenantId input) seen := by
  refine (appends_grantState _).bind fun state rows => (appends_lift _).bind fun entry rows => ?_
  cases entry with
  | none => trivial
  | some entry => exact appends_appendVia entry

theorem appends_work (work : Work α) : Appends host tenantId (work.program host tenantId) seen := by
  induction work generalizing seen with
  | returns a => trivial
  | throws e => trivial
  | spentOn subject currency at_ rest ih => exact (appends_spentOn _ _ _).attempt.bind fun r _ => ih r
  | hasRecorded intentId rest ih => exact (appends_hasRecorded _).attempt.bind fun r _ => ih r
  | record entry rest ih => exact (appends_record _).attempt.bind fun r _ => ih r
  | release input rest ih => exact (appends_release _).attempt.bind fun r _ => ih r

theorem confined_work (work : Work α) : (work.program host tenantId).Confined (schema host) tenantId := by
  induction work with
  | returns a => trivial
  | throws e => trivial
  | spentOn subject currency at_ rest ih => exact confined_bind (confined_attempt (confined_spentOn _ _ _)) ih
  | hasRecorded intentId rest ih => exact confined_bind (confined_attempt (confined_hasRecorded _)) ih
  | record entry rest ih => exact confined_bind (confined_attempt (confined_record _)) ih
  | release input rest ih => exact confined_bind (confined_attempt (confined_release _)) ih

/-- Every section of a call appends what comes next in its tenant's chain, and sees no other. -/
theorem section_honest {call : Call α} {p : Txn VaultRow VaultRow Thrown (Reply α)}
    (section_ : body host call = .locked tenantId p) :
    p.Confined (schema host) tenantId ∧ Appends host tenantId p seen := by
  obtain ⟨vault, t, operation⟩ := call
  cases operation with
  | spentOn subject currency at_ => cases section_
  | hasRecorded intentId => cases section_
  | atomically work =>
    cases section_
    exact ⟨confined_bind (confined_work work) fun _ => trivial, (appends_work work).bind fun _ _ => trivial⟩
  | record entry =>
    cases section_
    exact ⟨confined_bind (confined_record entry) fun _ => trivial, (appends_record entry).bind fun _ _ => trivial⟩
  | release input =>
    cases section_
    exact ⟨confined_bind (confined_release input) fun _ => trivial, (appends_release input).bind fun _ _ => trivial⟩
  | recordRefusal input at_ =>
    cases section_
    exact ⟨confined_bind (confined_bind (confined_lift _) fun _ => confined_append _) fun _ => trivial,
      ((appends_lift _).bind fun _ _ => appends_appendVia _).bind fun _ _ => trivial⟩
  | recordAnchor input at_ =>
    cases section_
    exact ⟨confined_bind (confined_bind (confined_lift _) fun _ => confined_append _) fun _ => trivial,
      ((appends_lift _).bind fun _ _ => appends_appendVia _).bind fun _ _ => trivial⟩

end

/-! ### Every state of the table -/

/-- What an open section of a tenant has inserted continues its chain, and what it inserts next will too. -/
structure Open (host : Host) {α : Type} (tenantId : String) (p : Txn VaultRow VaultRow Thrown α)
    (committed pending : List VaultRow) : Prop where
  stored : Stored host tenantId (committed ++ pending)
  appends : Appends host tenantId p (committed ++ pending)
  own : ∀ r ∈ pending, r.tenant_id = tenantId

structure Honest (host : Host) {α : Type}
    (s : System VaultRow String Thrown (Reply α) (Call α)) : Prop where
  serial : Serial (schema host) (body host) s
  stored : ∀ tenantId, Stored host tenantId s.committed
  opens : ∀ {id call tenantId p pending}, s.sessions.lookup id = some (.opened call tenantId p pending) →
    Open host tenantId p s.committed pending

section
variable {α : Type} {host : Host}

theorem separate_calls : Separate (schema host) (body (α := α) host) := by
  intro call t p section_
  have honest : p.Confined (schema host) t ∧ Appends host t p [] := section_honest section_
  exact honest.1

variable {tenantId : String}

variable {p : Txn VaultRow VaultRow Thrown α} {pending rows : List VaultRow} {i : Nat} {call : Call α}
   {row : VaultRow}

theorem Open.statement {p' : Txn VaultRow VaultRow Thrown α} {committed pending' : List VaultRow}
    (opened : Open host tenantId p committed pending)
    (ran : p.statement (schema host) committed pending = .ok (p', pending')) : Open host tenantId p' committed pending' := by
  cases p with
  | done a =>
    cases ran
    exact opened
  | fail e =>
    cases ran
    exact opened
  | select rest =>
    cases ran
    exact ⟨opened.stored, opened.appends _, opened.own⟩
  | insert row rest =>
    rw [Txn.statement] at ran
    split_ifs at ran
    cases ran
    obtain ⟨next, later⟩ := opened.appends
    have stored := opened.stored.next next
    rw [List.append_assoc] at stored later
    refine ⟨stored, later, ?_⟩
    intro r member
    rcases List.mem_append.mp member with earlier | last
    · exact opened.own r earlier
    · rw [List.mem_singleton.mp last]
      obtain ⟨entry, rfl⟩ := next
      rfl

theorem Open.commit {tenantId other : String} {committed : List VaultRow} (opened : Open host tenantId p committed pending)
    (foreign : ∀ r ∈ rows, r.tenant_id = other) (others : tenantId ≠ other) :
    Open host tenantId p (committed ++ rows) pending := by
  have unseen : ofTenant tenantId (committed ++ rows ++ pending) = ofTenant tenantId (committed ++ pending) := by
    have none : ofTenant tenantId rows = [] := by
      rw [ofTenant, List.filter_eq_nil_iff]
      intro r member own
      exact others ((of_decide_eq_true own).symm.trans (foreign r member))
    simp [none]
  exact ⟨opened.stored.congr unseen, opened.appends.congr unseen, opened.own⟩

variable {s : System VaultRow String Thrown (Reply α) (Call α)}

section
variable (honest : Honest host s)
include honest

private theorem opens_put {session : Session VaultRow String Thrown (Reply α) (Call α)}
    (here : ∀ {call tenantId p pending}, session = .opened call tenantId p pending →
      Open host tenantId p s.committed pending) {id call tenantId p pending}
    (found : (s.put i session).sessions.lookup id = some (.opened call tenantId p pending)) :
    Open host tenantId p s.committed pending := by
  rw [System.put, lookup_insert] at found
  split_ifs at found
  · exact here (Option.some.inj found)
  · exact honest.opens found

private theorem opens_drop {id call tenantId p pending}
    (found : (s.drop i).sessions.lookup id = some (.opened call tenantId p pending)) :
    Open host tenantId p s.committed pending := by
  rw [System.drop, lookup_erase] at found
  split_ifs at found
  exact honest.opens found

/-- A section that commits leaves every chain intact, its own and all others. -/
private theorem commit_honest {t : String} {a : Reply α} (found : s.sessions.lookup i = some (.opened call t (.done a) rows)) :
    (∀ tenantId, Stored host tenantId (s.committed ++ rows)) ∧
      ∀ {id call' tenantId p pending}, (s.drop i).sessions.lookup id = some (.opened call' tenantId p pending) →
        Open host tenantId p (s.committed ++ rows) pending := by
  have opened := honest.opens found
  constructor
  · intro tenantId
    by_cases own : tenantId = t
    · rw [own]
      exact opened.stored
    · have idle : Open host tenantId (.done a) s.committed [] :=
        ⟨by rw [List.append_nil]; exact honest.stored tenantId, trivial, by simp⟩
      have later := (idle.commit opened.own own).stored
      rw [List.append_nil] at later
      exact later
  · intro id call' tenantId p pending other
    refine (opens_drop honest other).commit opened.own ?_
    rintro rfl
    rw [System.drop, lookup_erase] at other
    split_ifs at other with here
    exact here (honest.serial.alone other found rfl)

theorem step_honest (action : Transactions.Action (Call α)) :
    Honest host (Transactions.step (schema host) (body host) s action).1 := by
  have serial := (step_serial separate_calls honest.serial action).1
  have change : Change (schema host) (body host) s
    (Transactions.step (schema host) (body host) s action).1 := step_change s action
  generalize (Transactions.step (schema host) (body host) s action).1 = s' at serial change
  cases change with
  | idle => exact honest
  | opens section_ =>
    refine ⟨serial, honest.stored, opens_put honest ?_⟩
    rintro _ _ _ _ ⟨⟩
    refine ⟨?_, (section_honest section_).2, by simp⟩
    rw [List.append_nil]
    exact honest.stored _
  | reads =>
    refine ⟨serial, honest.stored, opens_put honest ?_⟩
    rintro _ _ _ _ ⟨⟩
  | states found ran =>
    refine ⟨serial, honest.stored, opens_put honest ?_⟩
    rintro _ _ _ _ ⟨⟩
    exact (honest.opens found).statement ran
  | commits found =>
    obtain ⟨stored, opens⟩ := commit_honest honest found
    exact ⟨serial, stored, opens⟩
  | drops => exact ⟨serial, honest.stored, opens_drop honest⟩

end

/-! ### Every instance -/

variable {w : World α}

theorem world_honest (honest : Honest host w.system) (action : VaultInstances.Action α) :
    Honest host (VaultInstances.step host w action).1.system := by
  cases action with
  | create vault tenantId =>
    rw [VaultInstances.step]
    cases w.vaults.lookup vault with
    | some v => exact honest
    | none => exact honest
  | start id vault operation =>
    rw [VaultInstances.step]
    cases w.vaults.lookup vault with
    | some v => exact step_honest honest _
    | none => exact honest
  | statement id => exact step_honest honest _
  | finish id => exact step_honest honest _
  | abort id => exact step_honest honest _

private theorem create_verified (honest : Honest host w.system) (verified : Verified host w) (vault : Nat)
    (tenantId : String) : Verified host (VaultInstances.step host w (.create vault tenantId)).1 := by
  rw [VaultInstances.step]
  cases w.vaults.lookup vault with
  | some v => exact verified
  | none =>
    intro i v found
    change (w.vaults.insert vault _).lookup i = some v at found
    rw [lookup_insert] at found
    split_ifs at found
    · cases found
      exact verify_eq_ok.mpr (honest.stored tenantId).load
    · exact verified i v found

/-- After a push the instances are intact exactly when the list that got the record ended with its link. -/
private theorem push_verified (verified : Verified host w) {vault : Nat} {seen : List VaultRow}
    (next : Next host tenantId seen row) :
    (∀ i v, (push w.vaults vault row).lookup i = some v → verify host.sha256 v.records = .ok) ↔
      ∀ v, w.vaults.lookup vault = some v → endOf host v.records = row.prev_hash := by
  rw [push]
  cases here : w.vaults.lookup vault with
  | none =>
    refine ⟨fun _ v impossible => ?_, fun _ => verified⟩
    cases impossible
  | some v =>
    have extends_ := next.intact_snoc (verify_eq_ok.mp (verified vault v here))
    constructor
    · rintro alarms _ ⟨⟩
      refine extends_.mp (verify_eq_ok.mp (alarms vault { v with records := v.records ++ [asRecord row] } ?_))
      dsimp only
      rw [lookup_insert, if_pos rfl]
    · intro ends i v' found
      dsimp only at found
      rw [lookup_insert] at found
      split_ifs at found
      · cases found
        exact verify_eq_ok.mpr (extends_.mpr (ends v rfl))
      · exact verified i v' found

private theorem inserted_eq (honest : Honest host w.system) {id : Nat}
    {rest : Txn VaultRow VaultRow Thrown (Reply α)}
    (found : w.system.sessions.lookup id = some (.opened call tenantId (.insert row rest) pending)) :
    inserted host w id = some (call.vault, row) ∧
      row.prev_hash = endOf host ((ofTenant tenantId (w.system.committed ++ pending)).map asRecord) := by
  have opened := honest.opens found
  obtain ⟨next, _⟩ := opened.appends
  refine ⟨?_, next.link opened.stored⟩
  rw [inserted, found]
  exact if_neg (by rw [next.free opened.stored]; simp)

private theorem statement_verified (honest : Honest host w.system) (verified : Verified host w) (id : Nat) :
    Verified host (VaultInstances.step host w (.statement id)).1 ↔ InStep host w (.statement id) := by
  change (∀ i v, (pushed host w id).lookup i = some v → _) ↔ _
  by_cases inserts : ∃ call tenantId row rest pending,
    w.system.sessions.lookup id = some (.opened call tenantId (.insert row rest) pending)
  · obtain ⟨call, tenantId, row, rest, pending, found⟩ := inserts
    obtain ⟨which, link⟩ := inserted_eq honest found
    rw [pushed, which, push_verified verified (honest.opens found).appends.1, link, InStep]
    constructor
    · intro ends call' tenantId' row' rest' pending' v found' here
      rw [found] at found'
      cases found'
      exact ends v here
    · intro ends v here
      exact ends call tenantId row rest pending v found here
  · have none : inserted host w id = none := by
      rw [inserted]
      split
      · rename_i call tenantId row rest pending found
        exact absurd ⟨call, tenantId, row, rest, pending, found⟩ inserts
      · rfl
    rw [pushed, none]
    refine ⟨fun _ call tenantId row rest pending v found => ?_, fun _ => verified⟩
    exact absurd ⟨call, tenantId, row, rest, pending, found⟩ inserts

theorem step_verified (honest : Honest host w.system) (verified : Verified host w) (action : VaultInstances.Action α) :
    Verified host (VaultInstances.step host w action).1 ↔ InStep host w action := by
  cases action with
  | create vault tenantId => exact ⟨fun _ => trivial, fun _ => create_verified honest verified vault tenantId⟩
  | start id vault operation =>
    refine ⟨fun _ => trivial, fun _ => ?_⟩
    rw [VaultInstances.step]
    cases w.vaults.lookup vault with
    | some v => exact verified
    | none => exact verified
  | statement id => exact statement_verified honest verified id
  | finish id => exact ⟨fun _ => trivial, fun _ => verified⟩
  | abort id => exact ⟨fun _ => trivial, fun _ => verified⟩

theorem honest_empty :
    Honest host (⟨[], ∅⟩ : System VaultRow String Thrown (Reply α) (Call α)) where
  serial := serial_empty
  stored _ := stored_nil
  opens found := by simp at found

end

/-- In a run of any number of instances `verify` never reports tampering, on any live instance, exactly when
    every insert comes where the own list of its instance ends like the chain that its section sees. -/
theorem no_alarm_iff (host : Host) {α : Type} (actions : List (VaultInstances.Action α)) :
    (∀ before after, actions = before ++ after → Verified host (run host before)) ↔
      ∀ before action after, actions = before ++ action :: after → InStep host (run host before) action :=
  Traces.exec_always_iff (I := fun w => Honest host w.system) (V := Verified host)
    (fun _ action honest => world_honest honest action)
    (fun _ action honest verified => step_verified honest verified action) honest_empty
    (fun vault v found => by simp at found) actions

/-! ### Two instances -/

def refusalOf (intentId : String) : RecordRefusalInput := ⟨"did:agent", intentId, "LimitExceeded", "daily limit", []⟩

def refusalText (seq : Nat) (prevHash intentId : String) : String :=
  (Json.object [("seq", .number seq), ("prevHash", .string prevHash), ("entry", VaultEntry.json
    (.refused ⟨"did:agent", intentId, "LimitExceeded", "daily limit", [], "2026-09-30T12:00:00.000Z"⟩))]).stringify

def teaHash : String := "bc0811cd4507122d90c4f712dca09c0e5298673428a86ad2f64482e564f56b27"

/-- The digests of the two records that are written, and of the second one without its link. -/
def twoHost : Host where
  sha256 text :=
    if text = refusalText 0 "" "tea" then teaHash
    else if text = refusalText 1 teaHash "milk" then "dbe9fe6b6ba8033ac00dede9dacbc6b8c96fa5a4a0591d9fbeb80eb372aeb965"
    else "02a5f690d94cf098641edae5597c386d6b8d1295b04d8868efb2f9b0a24b4146"
  hashtext _ := 0

/-- One call from its start to its commit: the tail is read, and a row inserted. -/
def refuses (vault : Nat) (intentId : String) : List (VaultInstances.Action Unit) :=
  [.start 0 vault (.recordRefusal (refusalOf intentId) (sampleNoon 0)), .statement 0, .statement 0, .finish 0]

/-- Two instances are created on an empty table, and each records a refusal. -/
def twoRefusals : List (VaultInstances.Action Unit) :=
  [.create 0 "tenant", .create 1 "tenant"] ++ refuses 0 "tea" ++ refuses 1 "milk"

/-- The second instance then reports that the one record it has was tampered with. -/
theorem refusals_alarm :
    ¬∀ before after, twoRefusals = before ++ after → Verified twoHost (run twoHost before) := by
  intro never
  have verified := never twoRefusals [] (by simp)
  -- its record goes on from one that it does not have
  have linked : ((run twoHost twoRefusals).vaults.lookup 1).any (fun v =>
      v.records.head?.any fun record => record.prevHash ≠ "") = true := by
    decide +kernel
  obtain ⟨v, found, linked⟩ := (Option.any_eq_true _ _).mp linked
  have ok := verified 1 v found
  cases all : v.records with
  | nil =>
    rw [all] at linked
    cases linked
  | cons record rest =>
    rw [all, verify, verifyFrom] at ok
    rw [all] at linked
    simp_all

end AgentPey.VaultAlarms
