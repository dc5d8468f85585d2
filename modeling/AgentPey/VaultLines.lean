import AgentPey.Amounts
import AgentPey.HashChains
import AgentPey.JsonTexts

/-!
A vault and the text of its file: `computeHash` in `packages/vault/src/internal/amount.ts`, and `parseLine`, the opening of a
file, `append` and `verify` in `vault.ts`. An entry that is read back may be any object or array; the totals and intents that
an instance keeps besides its records are in `FileVault`.
-/
namespace AgentPey.VaultLines
open Amounts HashChains JsonNumbers JsonValues JsonTexts

def text (literal : String) : Text := units literal.toList

/-! ### Records -/

abbrev Entry := { v : Value // v.Proper ∧ ¬IsScalar v }

structure VaultRecord where
  seq : Number
  prevHash : Text
  hash : Text
  entry : Entry

def VaultRecord.json (record : VaultRecord) : Value :=
  .object [(text "seq", .number record.seq), (text "prevHash", .string record.prevHash),
    (text "hash", .string record.hash), (text "entry", record.entry.1)]

def hashed (seq : Number) (prevHash : Text) (entry : Entry) : Value :=
  .object [(text "seq", .number seq), (text "prevHash", .string prevHash), (text "entry", entry.1)]

/-- `sha256` is the hex digest of a text's UTF-8 bytes. -/
def computeHash (sha256 : Text → Text) (seq : Number) (prevHash : Text) (entry : Entry) : Text :=
  sha256 (stringify (hashed seq prevHash entry))

/-- The answer of `verify`. -/
inductive VaultVerification where
  | ok
  | broken (brokenAtSeq : Number)
  deriving DecidableEq

/-- The loop of `verify`, after a record with the given hash. -/
def verifyFrom (sha256 : Text → Text) (prevHash : Text) : List VaultRecord → VaultVerification
  | [] => .ok
  | record :: rest =>
    let expected := computeHash sha256 record.seq prevHash record.entry
    if record.hash ≠ expected ∨ record.prevHash ≠ prevHash then .broken record.seq
    else verifyFrom sha256 record.hash rest

def verify (sha256 : Text → Text) (records : List VaultRecord) : VaultVerification := verifyFrom sha256 [] records

def head (records : List VaultRecord) : Option Text := records.getLast?.map VaultRecord.hash

/-- The chain that `verify` follows. -/
def recordChain (sha256 : Text → Text) : Chain VaultRecord Text where
  prev := VaultRecord.prevHash
  hash := VaultRecord.hash
  digest prevHash record := computeHash sha256 record.seq prevHash record.entry

variable {records : List VaultRecord}

private theorem verifyFrom_eq_ok {sha256 : Text → Text} {prevHash : Text} :
    verifyFrom sha256 prevHash records = .ok ↔ Intact (recordChain sha256) prevHash records := by
  induction records generalizing prevHash with
  | nil => simp [verifyFrom]
  | cons record rest ih =>
    rw [verifyFrom, Intact, ← ih]
    by_cases changed : record.hash ≠ computeHash sha256 record.seq prevHash record.entry ∨ record.prevHash ≠ prevHash
    · simp only [changed, if_true, recordChain]
      constructor
      · intro impossible
        cases impossible
      · rintro ⟨⟨linked, hashed⟩, _⟩
        rcases changed with other | other
        · exact absurd hashed other
        · exact absurd linked other
    · simp only [changed, if_false, recordChain]
      rw [not_or, not_not, not_not] at changed
      exact ⟨fun later => ⟨changed.symm, later⟩, fun intact => intact.2⟩

theorem verify_eq_ok {sha256 : Text → Text} :
    verify sha256 records = .ok ↔ Intact (recordChain sha256) [] records := verifyFrom_eq_ok

/-! ### Entries that a vault writes -/

/-- Whether `scaleAmount` reads an amount. -/
def usable (amount : Text) : Bool := (FixedPoint.scale AMOUNT_DECIMALS (amount.map fun u => Char.ofNat u.val)).isSome

structure VaultGrantedEntry where
  subject : Text
  intentId : Text
  currency : Text
  amount : Text
  at_ : Text
  /-- `record` scales the amount before it appends the entry. -/
  scales : usable amount = true

/-- The details of a refusal, which may be any object. -/
abbrev Details := { members : Members Value // (Value.object members).Proper }

structure VaultRefusedEntry where
  subject : Text
  intentId : Text
  code : Text
  reason : Text
  details : Details
  at_ : Text

structure VaultAnchoredEntry where
  subject : Text
  intentId : Text
  paymentTx : Text
  linkHash : Text
  anchorTx : Text
  at_ : Text

structure VaultReleasedEntry where
  subject : Text
  intentId : Text
  currency : Text
  amount : Text
  at_ : Text
  reason : Text
  /-- `release` copies the amount of a granted entry. -/
  scales : usable amount = true

inductive VaultEntry where
  | granted (e : VaultGrantedEntry)
  | refused (e : VaultRefusedEntry)
  | anchored (e : VaultAnchoredEntry)
  | released (e : VaultReleasedEntry)

def VaultEntry.members : VaultEntry → Members Value
  | .granted e => [(text "kind", .string (text "granted")), (text "subject", .string e.subject),
      (text "intentId", .string e.intentId), (text "currency", .string e.currency), (text "amount", .string e.amount),
      (text "at", .string e.at_)]
  | .refused e => [(text "kind", .string (text "refused")), (text "subject", .string e.subject),
      (text "intentId", .string e.intentId), (text "code", .string e.code), (text "reason", .string e.reason),
      (text "details", .object e.details.1), (text "at", .string e.at_)]
  | .anchored e => [(text "kind", .string (text "anchored")), (text "subject", .string e.subject),
      (text "intentId", .string e.intentId), (text "paymentTx", .string e.paymentTx), (text "linkHash", .string e.linkHash),
      (text "anchorTx", .string e.anchorTx), (text "at", .string e.at_)]
  | .released e => [(text "kind", .string (text "released")), (text "subject", .string e.subject),
      (text "intentId", .string e.intentId), (text "currency", .string e.currency), (text "amount", .string e.amount),
      (text "at", .string e.at_), (text "reason", .string e.reason)]

theorem VaultEntry.enumerated (entry : VaultEntry) : Enumerated (names entry.members) := by
  cases entry <;> constructor <;> simp only [members, names, List.map] <;> decide

theorem VaultEntry.proper (entry : VaultEntry) : (Value.object entry.members).Proper := by
  refine proper_object.mpr ⟨entry.enumerated, ?_⟩
  cases entry with
  | granted e => simp [members, Value.Proper, Value.fold]
  | refused e =>
    have details := e.details.2
    simp only [members, List.forall_mem_cons]
    exact ⟨trivial, trivial, trivial, trivial, trivial, details, trivial, by simp⟩
  | anchored e => simp [members, Value.Proper, Value.fold]
  | released e => simp [members, Value.Proper, Value.fold]

def VaultEntry.json (entry : VaultEntry) : Entry := ⟨.object entry.members, entry.proper, id⟩

/-! ### Opening a file -/

inductive Fault where
  /-- `VaultCorrupted`: a line that is not valid JSON. -/
  | notJson
  /-- `VaultCorrupted`: a record that is not a valid vault entry. -/
  | notRecord
  | TypeError
  | InvalidAmount (value : Option JsonValue)

/-- A property of a value that was parsed, unless it is `undefined`. -/
def field (name : Text) : JsonValue → Option JsonValue
  | ⟨.object members, proper⟩ =>
    (members.attach.find? fun m => m.1.1 = name).map fun m => ⟨m.1.2, (proper_object.mp proper).2 m.1 m.2⟩
  | _ => none

/-- `parseLine` lets `null` through, whose kind cannot be read. -/
def asEntry : JsonValue → Except Fault Entry
  | ⟨.null, _⟩ => .error .TypeError
  | ⟨.array items, proper⟩ => .ok ⟨.array items, proper, id⟩
  | ⟨.object members, proper⟩ => .ok ⟨.object members, proper, id⟩
  | _ => .error .notRecord

def asRecord (v : JsonValue) : Except Fault VaultRecord :=
  match field (text "seq") v, field (text "prevHash") v, field (text "hash") v, field (text "entry") v with
  | some ⟨.number seq, _⟩, some ⟨.string prevHash, _⟩, some ⟨.string hash, _⟩, some entry =>
    (asEntry entry).map fun entry => ⟨seq, prevHash, hash, entry⟩
  | _, _, _, _ => .error .notRecord

def parseLine (line : Text) : Except Fault VaultRecord :=
  match parsed : parse line with
  | none => .error .notJson
  | some v => asRecord ⟨v, parse_proper parsed⟩

def isText (expected : Text) : Option JsonValue → Bool
  | some ⟨.string s, _⟩ => s = expected
  | _ => false

def readAmount : Option JsonValue → Except Fault Unit
  | some ⟨.string s, proper⟩ => if usable s then .ok () else .error (.InvalidAmount (some ⟨.string s, proper⟩))
  | other => .error (.InvalidAmount other)

/-- What the constructor reads of an entry, where that can throw: arrays have `slice` and `indexOf` too. -/
def readEntry (entry : Entry) : Except Fault Unit :=
  let entry : JsonValue := ⟨entry.1, entry.2.1⟩
  if isText (text "granted") (field (text "kind") entry) || isText (text "released") (field (text "kind") entry) then
    match field (text "at") entry with
    | some ⟨.string _, _⟩ => readAmount (field (text "amount") entry)
    | some ⟨.array _, _⟩ => readAmount (field (text "amount") entry)
    | _ => .error .TypeError
  else .ok ()

def readLine (line : Text) : Except Fault VaultRecord := do
  let record ← parseLine line
  readEntry record.entry
  return record

/-- An instance: the file, unless there is none, and the records. -/
structure Vault where
  file : Option Text
  records : List VaultRecord

def newline : CodeUnit := unit '\n'

/-- `split`, without the empty lines. -/
def linesOf (text : Text) : List Text := (text.splitOn newline).filter fun line => 0 < line.length

def createFileMandateVault : Option Text → Except Fault Vault
  | none => .ok ⟨none, []⟩
  | some file => do
    let records ← (linesOf file).mapM readLine
    return ⟨file, records⟩

section
variable (sha256 : Text → Text)

def append (vault : Vault) (entry : VaultEntry) : Vault :=
  let seq := nearest false vault.records.length
  let prevHash := (head vault.records).getD []
  let record : VaultRecord := ⟨seq, prevHash, computeHash sha256 seq prevHash entry.json, entry.json⟩
  ⟨some (vault.file.getD [] ++ (stringify record.json ++ [newline])), vault.records ++ [record]⟩

/-- The vault writes an entry, or the process starts again and opens the file. -/
inductive Step where
  | append (entry : VaultEntry)
  | reopen

def perform (vault : Vault) : Step → Except Fault Vault
  | .append entry => .ok (append sha256 vault entry)
  | .reopen => createFileMandateVault vault.file

def run (steps : List Step) : Except Fault Vault := steps.foldlM (perform sha256) ⟨none, []⟩

end

/-! ### Reading back what was written -/

theorem linesOf_flatMap {texts : List Text} (lines : ∀ t ∈ texts, t ≠ [] ∧ newline ∉ t) :
    linesOf (texts.flatMap fun t => t ++ [newline]) = texts := by
  induction texts with
  | nil => rfl
  | cons t rest ih =>
    obtain ⟨⟨some_, one⟩, others⟩ := List.forall_mem_cons.mp lines
    have split : (t ++ [newline] ++ rest.flatMap fun t => t ++ [newline]) = t ++ newline :: rest.flatMap fun t => t ++ [newline] := by
      simp
    rw [List.flatMap_cons, split, linesOf, List.splitOn_append_cons_self_of_not_mem one, List.filter_cons, if_pos]
    · exact congrArg (t :: ·) (ih others)
    · simpa [List.length_pos_iff] using some_

def writtenEntry (entry : Entry) : Entry := ⟨written entry.1, written_proper _, written_composite entry.2.2⟩

def VaultRecord.written (record : VaultRecord) : VaultRecord :=
  ⟨record.seq.unsigned, record.prevHash, record.hash, writtenEntry record.entry⟩

theorem VaultRecord.proper (record : VaultRecord) : record.json.Proper := by
  refine proper_object.mpr ⟨?_, ?_⟩
  · constructor <;> simp only [names, List.map] <;> decide
  · have entry := record.entry.2.1
    simp only [List.forall_mem_cons]
    exact ⟨trivial, trivial, trivial, entry, by simp⟩

variable {record : VaultRecord}

theorem VaultRecord.json_written (finite : record.seq.isFinite = true) :
    record.written.json = JsonTexts.written record.json := by
  rw [json, json, written_enumerated (proper_object.mp record.proper).1]
  simp [written, writtenEntry, JsonTexts.written, Value.fold, finite]

theorem hashed_proper (seq : Number) (prevHash : Text) (entry : Entry) : (hashed seq prevHash entry).Proper := by
  refine proper_object.mpr ⟨?_, ?_⟩
  · constructor <;> simp only [names, List.map] <;> decide
  · have proper := entry.2.1
    simp only [List.forall_mem_cons]
    exact ⟨trivial, trivial, proper, by simp⟩

theorem computeHash_congr (sha256 : Text → Text) {seq seq' : Number} (prevHash : Text) {entry entry' : Entry}
    (number : stringify (.number seq) = stringify (.number seq')) (alike : stringify entry.1 = stringify entry'.1) :
    computeHash sha256 seq prevHash entry = computeHash sha256 seq' prevHash entry' := by
  rw [computeHash, computeHash, hashed, hashed, stringify_object, stringify_object]
  simp only [List.map_cons, List.map_nil, number, alike]

theorem computeHash_written (sha256 : Text → Text) (seq : Number) (prevHash : Text) (entry : Entry) :
    computeHash sha256 seq.unsigned prevHash (writtenEntry entry) = computeHash sha256 seq prevHash entry := by
  have same : stringify (.number seq.unsigned) = stringify (.number seq) := numberText_unsigned seq
  exact computeHash_congr sha256 prevHash same (stringify_written entry.2.1)

theorem asEntry_eq (entry : Entry) : asEntry ⟨entry.1, entry.2.1⟩ = .ok entry := by
  obtain ⟨v, proper, composite⟩ := entry
  rcases composite_cases composite with ⟨items, rfl⟩ | ⟨members, rfl⟩
  · rfl
  · rfl

theorem asRecord_json (record : VaultRecord) : asRecord ⟨record.json, record.proper⟩ = .ok record := by
  have entry := asEntry_eq record.entry
  show (asEntry ⟨record.entry.1, _⟩).map _ = _
  rw [entry]
  rfl

theorem parseLine_eq {line : Text} (read : parse line = some record.json) : parseLine line = .ok record := by
  rw [parseLine]
  split
  next fails =>
    rw [read] at fails
    cases fails
  next v parsed =>
    obtain rfl := Option.some.inj (parsed.symm.trans read)
    exact asRecord_json record

theorem parseLine_json (finite : record.seq.isFinite = true) : parseLine (stringify record.json) = .ok record.written :=
  parseLine_eq (by rw [parse_stringify, VaultRecord.json_written finite])

/-! ### Every vault that a run reaches -/

/-- What the constructor does with a record that is written and read back. -/
def readBack (record : VaultRecord) : Except Fault Unit :=
  readEntry record.written.entry

theorem readBack_json (seq : Number) (prevHash hash : Text) (entry : VaultEntry) :
    readBack ⟨seq, prevHash, hash, entry.json⟩ = .ok () := by
  have members : written (.object entry.members) = .object (entry.members.map (Prod.map id written)) :=
    written_enumerated entry.enumerated
  have proper := written_proper (.object entry.members)
  show readEntry ⟨written (.object entry.members), _⟩ = _
  simp only [members] at proper ⊢
  cases entry with
  | granted e =>
    have scales := e.scales
    show (if usable e.amount then Except.ok () else _) = _
    rw [if_pos scales]
  | refused e => rfl
  | anchored e => rfl
  | released e =>
    have scales := e.scales
    show (if usable e.amount then Except.ok () else _) = _
    rw [if_pos scales]

def fileText (records : List VaultRecord) : Text := records.flatMap fun record => stringify record.json ++ [newline]

/-- The file has a line for each record, and each record is hashed after the one before and can be read back. -/
structure Kept (sha256 : Text → Text) (vault : Vault) : Prop where
  lines : vault.file.getD [] = fileText vault.records
  intact : Intact (recordChain sha256) [] vault.records
  reads : ∀ record ∈ vault.records, record.seq.isFinite = true ∧ readBack record = .ok ()

variable {sha256 : Text → Text} {vault : Vault}

theorem readLine_json (finite : record.seq.isFinite = true) (reads : readBack record = .ok ()) :
    readLine (stringify record.json) = .ok record.written := by
  have entry : readEntry record.written.entry = .ok () := reads
  rw [readLine, parseLine_json finite]
  show (readEntry _ >>= fun _ => _) = _
  rw [entry]
  rfl

theorem mapM_readLine (reads : ∀ record ∈ records, record.seq.isFinite = true ∧ readBack record = .ok ()) :
    (records.map fun record => stringify record.json).mapM readLine = .ok (records.map VaultRecord.written) := by
  induction records with
  | nil => rfl
  | cons record rest ih =>
    obtain ⟨⟨finite, entry⟩, others⟩ := List.forall_mem_cons.mp reads
    rw [List.map_cons, List.mapM_cons, readLine_json finite entry, ih others]
    rfl

theorem linesOf_fileText (records : List VaultRecord) :
    linesOf (fileText records) = records.map fun record => stringify record.json := by
  have texts : fileText records = (records.map fun record => stringify record.json).flatMap fun t => t ++ [newline] := by
    rw [List.flatMap_map]
    rfl
  rw [texts]
  refine linesOf_flatMap fun t mem => ?_
  obtain ⟨record, _, rfl⟩ := List.mem_map.mp mem
  obtain ⟨u, rest, split, _⟩ := stringify_cons record.json
  refine ⟨by simp [split], fun ends => ?_⟩
  exact absurd (shown_stringify _ _ ends) (by decide)

theorem Kept.opens (kept : Kept sha256 vault) :
    createFileMandateVault vault.file = .ok ⟨vault.file, vault.records.map VaultRecord.written⟩ := by
  obtain ⟨file, records⟩ := vault
  cases file with
  | none =>
    have empty : records = [] := by
      cases records with
      | nil => rfl
      | cons record rest =>
        have lines := congrArg List.length kept.lines
        simp [fileText] at lines
    rw [empty]
    rfl
  | some file =>
    have lines : file = fileText records := kept.lines
    have read := mapM_readLine kept.reads
    rw [← linesOf_fileText, ← lines] at read
    rw [createFileMandateVault, read]
    rfl

theorem Kept.written (kept : Kept sha256 vault) : Kept sha256 ⟨vault.file, vault.records.map VaultRecord.written⟩ := by
  refine ⟨?_, ?_, ?_⟩
  · show vault.file.getD [] = fileText (vault.records.map VaultRecord.written)
    rw [kept.lines, fileText, fileText, List.flatMap_map]
    refine congrArg List.flatten (List.map_congr_left fun record mem => ?_)
    rw [VaultRecord.json_written (kept.reads record mem).1, stringify_written record.proper]
  · exact (intact_map (f := VaultRecord.written) (fun _ => rfl) (fun _ => rfl) fun p record =>
      computeHash_written sha256 record.seq p record.entry).mpr kept.intact
  · intro record mem
    obtain ⟨before, inside, rfl⟩ := List.mem_map.mp mem
    obtain ⟨finite, reads⟩ := kept.reads before inside
    have again : before.written.written.entry = before.written.entry := Subtype.ext (written_written before.entry.2.1)
    refine ⟨?_, ?_⟩
    · cases seq : before.seq with
      | finite negative m => simp [VaultRecord.written, seq, Number.unsigned, Number.isFinite]
      | infinite negative => simp [seq, Number.isFinite] at finite
      | nan => simp [seq, Number.isFinite] at finite
    · rw [readBack, again]
      exact reads

theorem Kept.append (kept : Kept sha256 vault) (short : vault.records.length < 2 ^ 32) (entry : VaultEntry) :
    Kept sha256 (append sha256 vault entry) := by
  refine ⟨?_, ?_, ?_⟩
  · simp only [VaultLines.append, Option.getD_some, kept.lines, fileText, List.flatMap_append, List.flatMap_cons, List.flatMap_nil,
      List.append_nil]
  · exact intact_snoc.mpr ⟨kept.intact, rfl, rfl⟩
  · intro record mem
    rcases List.mem_append.mp mem with earlier | last
    · exact kept.reads record earlier
    · obtain rfl := List.mem_singleton.mp last
      exact ⟨nearest_natCast (by omega), readBack_json ..⟩

theorem kept_run (steps : List Step) (short : vault.records.length + steps.length < 2 ^ 32) (kept : Kept sha256 vault) :
    ∃ last, steps.foldlM (perform sha256) vault = .ok last ∧ Kept sha256 last := by
  induction steps generalizing vault with
  | nil => exact ⟨vault, rfl, kept⟩
  | cons step rest ih =>
    rw [List.length_cons] at short
    cases step with
    | append entry =>
      have grown : (append sha256 vault entry).records.length = vault.records.length + 1 := by simp [append]
      exact ih (by omega) (kept.append (by omega) entry)
    | reopen =>
      rw [List.foldlM_cons, perform, kept.opens]
      refine ih ?_ kept.written
      simp only [List.length_map]
      omega

end AgentPey.VaultLines
