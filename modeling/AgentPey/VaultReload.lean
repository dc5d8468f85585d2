import AgentPey.FileVault

/-!
Opening a second vault on the file of a live one. The loader and the live operations keep
the same totals and the same grants, but not the same sets of released and anchored
intents: a grant written after a release takes its intent out of the live set, while the
loader adds the intent of every released line and takes none out.
-/
namespace AgentPey.VaultReload
open AgentPass Amounts Dates LocalPolicyRail Store VaultEntries FileVault

/-! ### What the loader reads off a file -/

def releases : VaultEntry → Option String
  | .released e => some e.intentId
  | _ => none

def anchors : VaultEntry → Option String
  | .anchored e => some e.intentId
  | _ => none

def releasedIn (records : List VaultRecord) : Finset String :=
  (records.filterMap fun record => releases record.entry).toFinset

def anchoredIn (records : List VaultRecord) : Finset String :=
  (records.filterMap fun record => anchors record.entry).toFinset

/-- The live instance, with the two sets as the file has them. -/
def restored (v : FileMandateVault) : FileMandateVault :=
  { v with releasedIntents := releasedIn v.records, anchoredIntents := anchoredIn v.records }

private theorem toFinset_snoc (ids : List String) (id : Option String) : (ids ++ id.toList).toFinset = match id with
      | some id => insert id ids.toFinset
      | none => ids.toFinset := by
  cases id with
  | none => simp
  | some id =>
    ext other
    simp [or_comm]

theorem releasedIn_snoc (records : List VaultRecord) (record : VaultRecord) :
    releasedIn (records ++ [record]) = match releases record.entry with
      | some id => insert id (releasedIn records)
      | none => releasedIn records := by
  rw [releasedIn, List.filterMap_append, show [record].filterMap _ = (releases record.entry).toList by
    cases found : releases record.entry <;> simp [found], toFinset_snoc]
  rfl

theorem anchoredIn_snoc (records : List VaultRecord) (record : VaultRecord) :
    anchoredIn (records ++ [record]) = match anchors record.entry with
      | some id => insert id (anchoredIn records)
      | none => anchoredIn records := by
  rw [anchoredIn, List.filterMap_append, show [record].filterMap _ = (anchors record.entry).toList by
    cases found : anchors record.entry <;> simp [found], toFinset_snoc]
  rfl

theorem create_snoc (file : List VaultRecord) (record : VaultRecord) :
    createFileMandateVault (file ++ [record]) = createFileMandateVault file >>= fun v => load v record := by
  rw [createFileMandateVault, List.foldlM_append]
  simp [createFileMandateVault]

/-! ### What a live instance keeps -/

/-- The file opens, as the instance but for the two sets; and what the sets differ in. -/
structure Kept (v : FileMandateVault) : Prop where
  opens : createFileMandateVault v.records = .ok (restored v)
  released : v.releasedIntents ⊆ releasedIn v.records
  granted : ∀ id ∈ releasedIn v.records, id ∉ v.releasedIntents → (v.grants.lookup id).isSome
  anchored : anchoredIn v.records ⊆ v.anchoredIntents
  named : ∀ id g, v.grants.lookup id = some g → g.intentId = id
  usable : ∀ id g, v.grants.lookup id = some g → ∃ scaled, scaleAmount g.amount = .ok scaled

def granting (v : FileMandateVault) (sha256 : String → String) (e : VaultGrantedEntry) (scaled : Nat) :
    FileMandateVault :=
  { addToTotals (append v sha256 (.granted e)) ⟨e.subject, e.currency, sliceToT e.at_⟩ scaled with
    grants := v.grants.insert e.intentId e
    releasedIntents := v.releasedIntents.erase e.intentId }

def releasing (v : FileMandateVault) (sha256 : String → String) (e : VaultGrantedEntry) (reason : String)
    (scaled : Nat) : FileMandateVault :=
  { addToTotals (append v sha256 (.released (e.release reason))) ⟨e.subject, e.currency, sliceToT e.at_⟩ (-scaled) with
    releasedIntents := insert e.intentId v.releasedIntents }

/-- What an operation does to the instance. -/
inductive Change (sha256 : String → String) (v : FileMandateVault) : FileMandateVault → Prop where
  | idle : Change sha256 v v
  | grants {e scaled} (usable : scaleAmount e.amount = .ok scaled) : Change sha256 v (granting v sha256 e scaled)
  | releases {e reason scaled} (found : v.grants.lookup e.intentId = some e)
      (usable : scaleAmount e.amount = .ok scaled) : Change sha256 v (releasing v sha256 e reason scaled)
  | notes {e} : Change sha256 v (append v sha256 (.refused e))
  | marks {id} : Change sha256 v { v with anchoredIntents := insert id v.anchoredIntents }
  | anchors {e} : Change sha256 v (append { v with anchoredIntents := insert e.intentId v.anchoredIntents } sha256
      (.anchored e))

section
variable {sha256 : String → String} {v v' : FileMandateVault}

private theorem record_change (entry : SpendLedgerEntry) : Change sha256 v (record v sha256 entry).2 := by
  rw [record]
  split_ifs with already
  · exact .idle
  · cases scales : scaleAmount entry.amount with
    | error e => exact .idle
    | ok scaled =>
      cases time : entry.at_ with
      | none => exact .idle
      | some t =>
        simp only [toISOString, utcDayKey_some, ← sliceToT_text]
        exact .grants (e := ⟨entry.subject, entry.intentId, entry.currency, entry.amount, String.ofList t.text⟩) scales

private theorem release_change (kept : Kept v) (input : ReleaseSpendInput) : Change sha256 v (release v sha256 input).2 := by
  by_cases already : input.intentId ∈ v.releasedIntents
  · rw [release, if_pos already]
    exact .idle
  · rw [release, if_neg already]
    cases found : v.grants.lookup input.intentId with
    | none => exact .idle
    | some e =>
      have named := kept.named _ e found
      obtain ⟨scaled, usable⟩ := kept.usable _ e found
      by_cases settled : input.intentId ∈ v.anchoredIntents
      · simp only [settled, if_true]
        exact .idle
      · simp only [settled, if_false, usable]
        rw [← named] at found ⊢
        exact .releases found usable

theorem perform_change (kept : Kept v) (operation : Operation) : Change sha256 v (perform v sha256 operation).2 := by
  cases operation with
  | record entry => exact record_change entry
  | release input => exact release_change kept input
  | recordRefusal input at_ =>
    rw [perform, recordRefusal]
    cases toISOString at_ with
    | error e => exact .idle
    | ok iso => exact .notes
  | recordAnchor input at_ =>
    rw [perform, recordAnchor]
    cases toISOString at_ with
    | error e => exact .marks
    | ok iso => exact .anchors (e := ⟨_, _, _, _, _, _⟩)

private theorem Kept.opens_snoc (kept : Kept v) {record : VaultRecord} {released anchored : Finset String}
    (records : v'.records = v.records ++ [record]) (releasedIs : releasedIn v'.records = released)
    (anchoredIs : anchoredIn v'.records = anchored) (loads : load (restored v) record =
      .ok { v' with releasedIntents := released, anchoredIntents := anchored }) :
    createFileMandateVault v'.records = .ok (restored v') := by
  rw [restored, releasedIs, anchoredIs, ← loads, records, create_snoc, kept.opens, ok_bind]

variable {e : VaultGrantedEntry} {scaled : Nat}

section
variable (kept : Kept v)
include kept

private theorem Kept.grants (usable : scaleAmount e.amount = .ok scaled) : Kept (granting v sha256 e scaled) := by
  have records : (granting v sha256 e scaled).records = v.records ++ [_] := rfl
  have released : releasedIn (granting v sha256 e scaled).records = releasedIn v.records := by
    rw [records, releasedIn_snoc]
    rfl
  have anchored : anchoredIn (granting v sha256 e scaled).records = anchoredIn v.records := by
    rw [records, anchoredIn_snoc]
    rfl
  refine ⟨kept.opens_snoc records released anchored ?_, ?_, ?_, ?_, ?_, ?_⟩
  · simp only [load, usable, ok_bind]
    rfl
  · rw [released]
    exact (Finset.erase_subset _ _).trans kept.released
  · intro id inFile live
    rw [released] at inFile
    simp only [granting, lookup_insert] at live ⊢
    split_ifs with same
    · rfl
    · exact kept.granted id inFile fun already => live (Finset.mem_erase.mpr ⟨same, already⟩)
  · rw [anchored]
    exact kept.anchored
  · intro id g found
    simp only [granting, lookup_insert] at found
    split_ifs at found with same
    · cases found
      exact same.symm
    · exact kept.named id g found
  · intro id g found
    simp only [granting, lookup_insert] at found
    split_ifs at found with same
    · cases found
      exact ⟨scaled, usable⟩
    · exact kept.usable id g found

private theorem Kept.releases {reason : String} (usable : scaleAmount e.amount = .ok scaled) :
    Kept (releasing v sha256 e reason scaled) := by
  have records : (releasing v sha256 e reason scaled).records = v.records ++ [_] := rfl
  have released : releasedIn (releasing v sha256 e reason scaled).records =
      insert e.intentId (releasedIn v.records) := by
    rw [records, releasedIn_snoc]
    rfl
  have anchored : anchoredIn (releasing v sha256 e reason scaled).records = anchoredIn v.records := by
    rw [records, anchoredIn_snoc]
    rfl
  refine ⟨kept.opens_snoc records released anchored ?_, ?_, ?_, ?_, kept.named, kept.usable⟩
  · simp only [load, VaultGrantedEntry.release, usable, ok_bind]
    rfl
  · rw [released]
    exact Finset.insert_subset_insert _ kept.released
  · intro id inFile live
    rw [released] at inFile
    obtain ⟨other, still⟩ := not_or.mp (Finset.mem_insert.not.mp live)
    exact kept.granted id (Finset.mem_of_mem_insert_of_ne inFile other) still
  · rw [anchored]
    exact kept.anchored

private theorem Kept.marks (id : String) : Kept { v with anchoredIntents := insert id v.anchoredIntents } :=
  ⟨kept.opens, kept.released, kept.granted, kept.anchored.trans (Finset.subset_insert _ _), kept.named, kept.usable⟩

private theorem Kept.notes {e : VaultRefusedEntry} : Kept (append v sha256 (.refused e)) := by
  have records : (append v sha256 (.refused e)).records = v.records ++ [_] := rfl
  have released : releasedIn (append v sha256 (.refused e)).records = releasedIn v.records := by
    rw [records, releasedIn_snoc]
    rfl
  have anchored : anchoredIn (append v sha256 (.refused e)).records = anchoredIn v.records := by
    rw [records, anchoredIn_snoc]
    rfl
  refine ⟨kept.opens_snoc records released anchored ?_, ?_, ?_, ?_, kept.named, kept.usable⟩
  · rfl
  · rw [released]
    exact kept.released
  · rw [released]
    exact kept.granted
  · rw [anchored]
    exact kept.anchored

private theorem Kept.anchors {e : VaultAnchoredEntry} (marked : e.intentId ∈ v.anchoredIntents) :
    Kept (append v sha256 (.anchored e)) := by
  have records : (append v sha256 (.anchored e)).records = v.records ++ [_] := rfl
  have released : releasedIn (append v sha256 (.anchored e)).records = releasedIn v.records := by
    rw [records, releasedIn_snoc]
    rfl
  have anchored : anchoredIn (append v sha256 (.anchored e)).records =
      insert e.intentId (anchoredIn v.records) := by
    rw [records, anchoredIn_snoc]
    rfl
  refine ⟨kept.opens_snoc records released anchored ?_, ?_, ?_, ?_, kept.named, kept.usable⟩
  · rfl
  · rw [released]
    exact kept.released
  · rw [released]
    exact kept.granted
  · rw [anchored]
    exact Finset.insert_subset marked kept.anchored

end

theorem Change.kept (change : Change sha256 v v') (kept : Kept v) : Kept v' := by
  cases change with
  | idle => exact kept
  | grants usable => exact kept.grants usable
  | releases found usable => exact kept.releases usable
  | notes => exact kept.notes
  | marks => exact kept.marks _
  | anchors => exact (kept.marks _).anchors (Finset.mem_insert_self _ _)

/-! ### Every live instance keeps it -/

/-- An instance that has just opened its file. -/
structure Opened (file : List VaultRecord) (v : FileMandateVault) : Prop where
  records : v.records = file
  released : v.releasedIntents = releasedIn file
  anchored : v.anchoredIntents = anchoredIn file
  named : ∀ id g, v.grants.lookup id = some g → g.intentId = id
  usable : ∀ id g, v.grants.lookup id = some g → ∃ scaled, scaleAmount g.amount = .ok scaled

variable {file : List VaultRecord}

private theorem Opened.load {record : VaultRecord} (opened : Opened file v) (loads : FileVault.load v record = .ok v')
    : Opened (file ++ [record]) v' := by
  have records := congrArg (· ++ [record]) opened.records
  have released := releasedIn_snoc file record
  have anchored := anchoredIn_snoc file record
  rw [← opened.released] at released
  rw [← opened.anchored] at anchored
  rw [FileVault.load] at loads
  cases entry : record.entry with
  | granted e =>
    simp only [entry, bind_eq_ok] at loads
    obtain ⟨scaled, usable, same⟩ := loads
    cases same
    rw [entry] at released anchored
    refine ⟨records, released.symm, anchored.symm, ?_, ?_⟩
    · intro id g found
      simp only [addToTotals, lookup_insert] at found
      split_ifs at found with same
      · cases found
        exact same.symm
      · exact opened.named id g found
    · intro id g found
      simp only [addToTotals, lookup_insert] at found
      split_ifs at found with same
      · cases found
        exact ⟨scaled, usable⟩
      · exact opened.usable id g found
  | released e =>
    simp only [entry, bind_eq_ok] at loads
    obtain ⟨scaled, usable, same⟩ := loads
    cases same
    rw [entry] at released anchored
    exact ⟨records, released.symm, anchored.symm, opened.named, opened.usable⟩
  | anchored e =>
    simp only [entry] at loads
    cases loads
    rw [entry] at released anchored
    exact ⟨records, released.symm, anchored.symm, opened.named, opened.usable⟩
  | refused e =>
    simp only [entry] at loads
    cases loads
    rw [entry] at released anchored
    exact ⟨records, released.symm, anchored.symm, opened.named, opened.usable⟩

theorem create_opened (opens : createFileMandateVault file = .ok v) : Opened file v := by
  induction file using List.reverseRec generalizing v with
  | nil =>
    cases opens
    exact ⟨rfl, rfl, rfl, fun id g found => by simp at found, fun id g found => by simp at found⟩
  | append_singleton file record ih =>
    rw [create_snoc, bind_eq_ok] at opens
    obtain ⟨earlier, opens, loads⟩ := opens
    exact (ih opens).load loads

theorem Opened.kept (opened : Opened file v) (opens : createFileMandateVault file = .ok v) : Kept v := by
  have released : releasedIn v.records = v.releasedIntents := by rw [opened.records, opened.released]
  have anchored : anchoredIn v.records = v.anchoredIntents := by rw [opened.records, opened.anchored]
  refine ⟨?_, released.symm.subset, ?_, anchored.subset, opened.named, opened.usable⟩
  · have same : restored v = v := by rw [restored, released, anchored]
    rw [same, opened.records, opens]
  · intro id inFile live
    rw [released] at inFile
    exact absurd inFile live

theorem run_kept (kept : Kept v) (operations : List Operation) : Kept (run v sha256 operations) := by
  induction operations generalizing v with
  | nil => exact kept
  | cons operation rest ih => exact ih ((perform_change kept operation).kept kept)

/-! ### The answers of the two instances -/

def outcome (call : Result PUnit × FileMandateVault) : Result PUnit × List VaultRecord := (call.1, call.2.records)

/-- Two instances that answer the same and write the same next. -/
structure SameAnswers (sha256 : String → String) (v w : FileMandateVault) : Prop where
  spentOn : ∀ subject currency at_, FileVault.spentOn v subject currency at_ = FileVault.spentOn w subject currency at_
  hasRecorded : ∀ intentId, FileVault.hasRecorded v intentId = FileVault.hasRecorded w intentId
  record : ∀ entry, outcome (FileVault.record v sha256 entry) = outcome (FileVault.record w sha256 entry)
  release : ∀ input, outcome (FileVault.release v sha256 input) = outcome (FileVault.release w sha256 input)

/-- No intent that stands has a released line, and one that is marked as anchored has an anchored line. -/
def Restores (v : FileMandateVault) : Prop :=
  ∀ intentId, hasRecorded v intentId = true → intentId ∉ releasedIn v.records ∧
    (intentId ∈ v.anchoredIntents → intentId ∈ anchoredIn v.records)

private theorem hasRecorded_eq_true {intentId : String} :
    hasRecorded v intentId = true ↔ (v.grants.lookup intentId).isSome ∧ intentId ∉ v.releasedIntents := by
  simp [hasRecorded]

section
variable (kept : Kept v)
include kept

theorem SameAnswers.restores (same : SameAnswers sha256 v (restored v)) : Restores v := by
  intro intentId stands
  have live := hasRecorded_eq_true.mp stands
  have still := hasRecorded_eq_true.mp ((same.hasRecorded intentId).symm.trans stands)
  refine ⟨still.2, fun settled => ?_⟩
  by_contra lost
  obtain ⟨g, found⟩ := Option.isSome_iff_exists.mp live.1
  obtain ⟨scaled, usable⟩ := kept.usable _ g found
  -- the live instance refuses the release, and the other one writes it
  have refused : (FileVault.release v sha256 ⟨intentId, ""⟩).1 = .error (spendAlreadySettled intentId) := by
    simp only [FileVault.release, live.2, found, settled, if_true, if_false]
  have written : (FileVault.release (restored v) sha256 ⟨intentId, ""⟩).1 = .ok ⟨⟩ := by
    have found' : (restored v).grants.lookup intentId = some g := found
    have lost' : intentId ∉ (restored v).anchoredIntents := lost
    simp only [FileVault.release, still.2, found', lost', usable, if_false]
  have results := congrArg Prod.fst (same.release ⟨intentId, ""⟩)
  rw [outcome, outcome, refused, written] at results
  cases results

private theorem Restores.hasRecorded (restores : Restores v) (intentId : String) :
    hasRecorded v intentId = hasRecorded (restored v) intentId := by
  rw [Bool.eq_iff_iff, hasRecorded_eq_true, hasRecorded_eq_true]
  constructor
  · rintro ⟨granted, live⟩
    exact ⟨granted, (restores intentId (hasRecorded_eq_true.mpr ⟨granted, live⟩)).1⟩
  · rintro ⟨granted, still⟩
    exact ⟨granted, fun released => still (kept.released released)⟩

private theorem Restores.release (restores : Restores v) (input : ReleaseSpendInput) :
    outcome (release v sha256 input) = outcome (release (restored v) sha256 input) := by
  by_cases released : input.intentId ∈ v.releasedIntents
  · have inFile : input.intentId ∈ (restored v).releasedIntents := kept.released released
    rw [FileVault.release, if_pos released, FileVault.release, if_pos inFile]
    rfl
  · cases found : v.grants.lookup input.intentId with
    | none =>
      have notInFile : input.intentId ∉ (restored v).releasedIntents := by
        intro inFile
        have granted := kept.granted _ inFile released
        rw [found] at granted
        cases granted
      have found' : (restored v).grants.lookup input.intentId = none := found
      rw [FileVault.release, if_neg released, found, FileVault.release, if_neg notInFile, found']
      rfl
    | some g =>
      obtain ⟨notInFile, settled⟩ := restores input.intentId
        (hasRecorded_eq_true.mpr ⟨by rw [found]; rfl, released⟩)
      have found' : (restored v).grants.lookup input.intentId = some g := found
      have notInFile' : input.intentId ∉ (restored v).releasedIntents := notInFile
      rw [FileVault.release, if_neg released, found, FileVault.release, if_neg notInFile', found']
      by_cases anchored : input.intentId ∈ v.anchoredIntents
      · have anchored' : input.intentId ∈ (restored v).anchoredIntents := settled anchored
        simp only [anchored, anchored', if_true]
        rfl
      · have anchored' : input.intentId ∉ (restored v).anchoredIntents := fun line => anchored (kept.anchored line)
        obtain ⟨scaled, usable⟩ := kept.usable _ g found
        simp only [anchored, anchored', usable, if_false]
        rfl

private theorem Restores.record (restores : Restores v) (entry : SpendLedgerEntry) :
    outcome (record v sha256 entry) = outcome (record (restored v) sha256 entry) := by
  rw [FileVault.record, FileVault.record, ← restores.hasRecorded kept]
  by_cases already : FileVault.hasRecorded v entry.intentId = true
  · rw [if_pos already, if_pos already]
    rfl
  · rw [if_neg already, if_neg already]
    cases scaleAmount entry.amount with
    | error e => rfl
    | ok scaled =>
      cases toISOString entry.at_ with
      | error e => rfl
      | ok iso =>
        cases utcDayKey entry.at_ with
        | error e => rfl
        | ok day => rfl

theorem Restores.sameAnswers (restores : Restores v) : SameAnswers sha256 v (restored v) :=
  ⟨fun _ _ _ => rfl, restores.hasRecorded kept, restores.record kept, restores.release kept⟩

end

end

/-- At every point of every sequence of operations the file opens, to an instance that answers as
    the live one exactly when the file restores the intents that stand. -/
theorem reload_same_answers {sha256 : String → String} {file : List VaultRecord} {v : FileMandateVault}
    (opens : createFileMandateVault file = .ok v) (operations : List Operation) :
    ∃ w, createFileMandateVault (run v sha256 operations).records = .ok w ∧
      (SameAnswers sha256 (run v sha256 operations) w ↔ Restores (run v sha256 operations)) := by
  have kept : Kept (run v sha256 operations) := run_kept ((create_opened opens).kept opens) operations
  exact ⟨_, kept.opens, fun same => same.restores kept, fun restores => restores.sameAnswers kept⟩

/-! ### A grant after a release -/

def emptyVault : FileMandateVault := ⟨[], ∅, ∅, ∅, ∅⟩

def sampleSha256 (text : String) : String := "digest of " ++ text

def sampleEntry : SpendLedgerEntry := ⟨"did:agent", "tea", "USDC", "60.00", sampleNoon 0⟩

theorem reload_same_answers_sample : ∃ w,
    createFileMandateVault (run emptyVault sampleSha256 [.record sampleEntry]).records = .ok w ∧
      SameAnswers sampleSha256 (run emptyVault sampleSha256 [.record sampleEntry]) w := by
  obtain ⟨w, opens, answers⟩ := @reload_same_answers sampleSha256 [] emptyVault rfl [.record sampleEntry]
  refine ⟨w, opens, answers.mpr fun intentId _ => ⟨?_, fun marked => ?_⟩⟩
  · exact Finset.notMem_empty intentId
  · exact absurd marked (Finset.notMem_empty intentId)

def regranted : List Operation :=
  [.record sampleEntry, .release ⟨"tea", "PaymentFailed"⟩, .record sampleEntry]

/-- The live instance has tea recorded, and a second one on its file does not. -/
theorem regranted_lost : createFileMandateVault [] = .ok emptyVault ∧
    ¬∃ w, createFileMandateVault (run emptyVault sampleSha256 regranted).records = .ok w ∧
      SameAnswers sampleSha256 (run emptyVault sampleSha256 regranted) w := by
  refine ⟨rfl, ?_⟩
  rintro ⟨w, opens, same⟩
  have reopened : createFileMandateVault (run emptyVault sampleSha256 regranted).records =
    .ok (restored (run emptyVault sampleSha256 regranted)) := rfl
  rw [reopened] at opens
  cases opens
  have answers := same.hasRecorded "tea"
  revert answers
  decide +kernel

end AgentPey.VaultReload
