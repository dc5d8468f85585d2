import AgentPey.VaultLines

/-!
What a vault's chain is evidence of. A run's chain verifies, and so does what its file opens to. A record is hashed as
`JSON.stringify` writes it, which writes what is not finite as `null`: a chain that has neither is fixed by its head.
-/
namespace AgentPey.VaultChains
open HashChains JsonNumbers JsonValues JsonTexts VaultLines

/-- The same in every field; the sign of a zero does not count. -/
structure Alike (a b : VaultRecord) : Prop where
  seq : a.seq.unsigned = b.seq.unsigned
  prevHash : a.prevHash = b.prevHash
  hash : a.hash = b.hash
  entry : unsigned a.entry.1 = unsigned b.entry.1

/-- The record holds no `null`, and no number that is not finite. -/
structure Definite (record : VaultRecord) : Prop where
  seq : record.seq.isFinite = true
  entry : Plain record.entry.1

section
variable {sha256 : Text → Text}

theorem hashed_inj {seq seq' : Number} {prevHash prevHash' : Text} {entry entry' : Entry}
    (same : stringify (hashed seq prevHash entry) = stringify (hashed seq' prevHash' entry')) :
    written (.number seq) = written (.number seq') ∧ prevHash = prevHash' ∧ written entry.1 = written entry'.1 := by
  have read := written_of_stringify same
  rw [hashed, hashed, written_enumerated (proper_object.mp (hashed_proper seq prevHash entry)).1,
    written_enumerated (proper_object.mp (hashed_proper seq' prevHash' entry')).1] at read
  simp only [List.map_cons, List.map_nil, Prod.map, id_eq, Value.object.injEq, List.cons.injEq, Prod.mk.injEq, true_and,
    and_true] at read
  obtain ⟨seq, prevHash, entry⟩ := read
  exact ⟨seq, Value.string.inj prevHash, entry⟩

variable {records : List VaultRecord}

/-- Two chains that verify and have one head are the same where one of them is definite. -/
theorem chains_alike (collisionFree : Set.InjOn sha256 (Set.range stringify)) (neverEmpty : ∀ t, sha256 t ≠ [])
    {others : List VaultRecord} (verifies : verify sha256 records = .ok) (verifies' : verify sha256 others = .ok)
    (sameHead : head others = head records) (definite : ∀ record ∈ records, Definite record) :
    List.Forall₂ Alike records others := by
  have sameHash : lastHash (recordChain sha256) [] records = lastHash (recordChain sha256) [] others := by
    rw [lastHash, lastHash]
    exact congrArg (Option.getD · []) sameHead.symm
  have agree := intact_agree (R := fun a b => written (.number a.seq) = written (.number b.seq) ∧
    written a.entry.1 = written b.entry.1) (fun p record => neverEmpty _) (fun p q a b same => by
      obtain ⟨seq, prevHash, entry⟩ := hashed_inj (collisionFree ⟨_, rfl⟩ ⟨_, rfl⟩ same)
      exact ⟨prevHash, seq, entry⟩) (verify_eq_ok.mp verifies) (verify_eq_ok.mp verifies') sameHash
  have both := (List.forall₂_and_left records others).mpr ⟨definite, agree⟩
  refine both.imp ?_
  rintro a b ⟨definite, prevHash, hash, seq, entry⟩
  refine ⟨?_, prevHash, hash, unsigned_of_written a.entry.2.1 b.entry.2.1 entry definite.entry⟩
  exact Value.number.inj (unsigned_of_written (a := .number a.seq) (b := .number b.seq) trivial trivial seq definite.seq)

/-! ### Altering a record -/

def alteredNumber : Number → Number
  | .finite negative m => .finite negative m
  | .infinite negative => .infinite !negative
  | .nan => .infinite false

theorem altered_composite {v : Value} (composite : ¬IsScalar v) : ¬IsScalar (altered v) := by
  rcases composite_cases composite with ⟨items, rfl⟩ | ⟨members, rfl⟩
  · rw [altered_array]
    exact id
  · rw [altered_object]
    exact id

/-- Another number for each number that is not finite and for each `null`. -/
def alteredRecord (record : VaultRecord) : VaultRecord :=
  ⟨alteredNumber record.seq, record.prevHash, record.hash,
    ⟨altered record.entry.1, altered_proper record.entry.2.1, altered_composite record.entry.2.2⟩⟩

theorem computeHash_altered (prevHash : Text) (record : VaultRecord) :
    computeHash sha256 (alteredRecord record).seq prevHash (alteredRecord record).entry =
      computeHash sha256 record.seq prevHash record.entry := by
  have number : stringify (.number (alteredNumber record.seq)) = stringify (.number record.seq) := by
    cases record.seq <;> rfl
  exact computeHash_congr sha256 prevHash number (stringify_altered record.entry.1)

theorem verify_altered (verifies : verify sha256 records = .ok) : verify sha256 (records.map alteredRecord) = .ok := by
  rw [verify_eq_ok] at verifies ⊢
  exact (intact_map (f := alteredRecord) (fun _ => rfl) (fun _ => rfl) computeHash_altered).mpr verifies

theorem head_altered (records : List VaultRecord) : head (records.map alteredRecord) = head records := by
  rw [head, head, List.getLast?_map, Option.map_map]
  rfl

/-- Only a definite record is the same when it is altered. -/
theorem definite_of_altered {record : VaultRecord} (alike : Alike record (alteredRecord record)) : Definite record := by
  refine ⟨?_, plain_of_altered alike.entry.symm⟩
  have seq := alike.seq
  cases number : record.seq with
  | finite => rfl
  | infinite negative => simp [alteredRecord, number, alteredNumber, Number.unsigned] at seq
  | nan => simp [alteredRecord, number, alteredNumber, Number.unsigned] at seq

/-- Every run ends in a chain that verifies, from the file too; and a chain that verifies is fixed by its head exactly when
    its records are definite. -/
theorem vault_tamper_evidence (collisionFree : Set.InjOn sha256 (Set.range stringify)) (neverEmpty : ∀ t, sha256 t ≠ []) :
    (∀ steps : List Step, steps.length < 2 ^ 32 → ∃ vault, run sha256 steps = .ok vault ∧
      verify sha256 vault.records = .ok ∧
      ∃ again, createFileMandateVault vault.file = .ok again ∧ verify sha256 again.records = .ok) ∧
    ∀ records, verify sha256 records = .ok →
      ((∀ others, verify sha256 others = .ok → head others = head records → List.Forall₂ Alike records others) ↔
        ∀ record ∈ records, Definite record) := by
  refine ⟨fun steps short => ?_, fun records verifies => ⟨fun fixed record mem => ?_, fun definite others verifies' same => ?_⟩⟩
  · have start : Kept sha256 ⟨none, []⟩ := ⟨rfl, intact_nil _, by simp⟩
    obtain ⟨vault, runs, kept⟩ := kept_run steps (by simpa using short) start
    exact ⟨vault, runs, verify_eq_ok.mpr kept.intact, _, kept.opens, verify_eq_ok.mpr kept.written.intact⟩
  · have alike := fixed _ (verify_altered verifies) (head_altered records)
    rw [List.forall₂_map_right_iff, List.forall₂_same] at alike
    exact definite_of_altered (alike record mem)
  · exact chains_alike collisionFree neverEmpty verifies verifies' same definite

end

/-! ### A hash that does not collide -/

/-- A refusal whose details hold `null`. -/
def storedEntry : VaultEntry :=
  .refused ⟨text "agent", text "tea", text "X", text "over", ⟨[(text "limit", .null)], by
    refine proper_object.mpr ⟨⟨by simp [names], by simp [names]⟩, ?_⟩
    simp [Value.Proper, Value.fold]⟩, text "2026-09-04T10:00:00.000Z"⟩

def storedText : Text := stringify (hashed (nearest false (0 : ℕ)) [] storedEntry.json)

def sampleSha256 (t : Text) : Text := if t = storedText then text "d" else unit '#' :: t

theorem sampleSha256_injective : Function.Injective sampleSha256 := by
  intro s t same
  simp only [sampleSha256] at same
  split_ifs at same with first second second
  · rw [first, second]
  · exact absurd (List.cons.inj same).1 (by decide)
  · exact absurd (List.cons.inj same).1 (by decide)
  · exact (List.cons.inj same).2

theorem sampleSha256_neverEmpty (t : Text) : sampleSha256 t ≠ [] := by
  rw [sampleSha256]
  split_ifs
  · decide
  · exact List.cons_ne_nil _ _

def granted : VaultEntry :=
  .granted ⟨text "agent", text "tea", text "USDC", text "5.00", text "2026-09-04T10:00:00.000Z", by decide⟩

def grantedVault : Vault := append sampleSha256 ⟨none, []⟩ granted

theorem vault_tamper_evidence_sample :
    (∃ vault, run sampleSha256 [.append granted, .reopen, .append storedEntry] = .ok vault ∧
      verify sampleSha256 vault.records = .ok ∧
      ∃ again, createFileMandateVault vault.file = .ok again ∧ verify sampleSha256 again.records = .ok) ∧
    ∀ others, verify sampleSha256 others = .ok → head others = head grantedVault.records →
      List.Forall₂ Alike grantedVault.records others := by
  obtain ⟨runs, fixed⟩ := vault_tamper_evidence sampleSha256_injective.injOn sampleSha256_neverEmpty
  refine ⟨runs _ (by simp), (fixed grantedVault.records (verify_eq_ok.mpr (intact_snoc.mpr ⟨trivial, rfl, rfl⟩))).mpr ?_⟩
  intro record mem
  obtain rfl := List.mem_singleton.mp mem
  refine ⟨nearest_natCast (by norm_num), ?_⟩
  refine plain_object.mpr ?_
  simp only [granted, VaultEntry.members, List.forall_mem_cons]
  exact ⟨trivial, trivial, trivial, trivial, trivial, trivial, by simp⟩

/-! ### Another number in the place of `null` -/

def stored : Vault := append sampleSha256 ⟨none, []⟩ storedEntry

/-- Its only line, with `1e400` in the place of `null`. -/
def alteredLine : Text :=
  text "\x7b\"seq\":0,\"prevHash\":\"\",\"hash\":\"d\",\"entry\":\x7b\"kind\":\"refused\",\"subject\":\"agent\",\"intentId\":\"tea\"," ++
    text "\"code\":\"X\",\"reason\":\"over\",\"details\":\x7b\"limit\":1e400\x7d,\"at\":\"2026-09-04T10:00:00.000Z\"\x7d\x7d"

theorem stored_verifies : verify sampleSha256 stored.records = .ok :=
  verify_eq_ok.mpr (intact_snoc.mpr ⟨trivial, rfl, rfl⟩)

set_option maxRecDepth 20000 in
/-- The altered line is parsed, each number as its text says. -/
theorem parse_alteredLine : parse alteredLine = some (.object [(text "seq", .number (nearest false (Decimal.value ⟨0, 0⟩))),
    (text "prevHash", .string []), (text "hash", .string (text "d")), (text "entry", .object [
      (text "kind", .string (text "refused")), (text "subject", .string (text "agent")), (text "intentId", .string (text "tea")),
      (text "code", .string (text "X")), (text "reason", .string (text "over")),
      (text "details", .object [(text "limit", .number (nearest false (Decimal.value ⟨1, 400⟩)))]),
      (text "at", .string (text "2026-09-04T10:00:00.000Z"))])]) := by
  unfold alteredLine
  simp only [text, @String.toList_ofList _]
  rfl

theorem stored_hash : computeHash sampleSha256 (nearest false (0 : ℕ)) [] storedEntry.json = text "d" := if_pos rfl

theorem stored_records : stored.records = [⟨nearest false (0 : ℕ), [], text "d", storedEntry.json⟩] := by
  rw [← stored_hash]
  rfl

def alteredEntry : Entry := ⟨altered storedEntry.json.1, altered_proper storedEntry.json.2.1, altered_composite storedEntry.json.2.2⟩

theorem parseLine_altered : parseLine alteredLine = .ok ⟨nearest false (0 : ℕ), [], text "d", alteredEntry⟩ := by
  have zero : nearest false (Decimal.value ⟨0, 0⟩) = nearest false (0 : ℕ) := by decide +kernel
  have large : nearest false (Decimal.value ⟨1, 400⟩) = .infinite false := by decide +kernel
  refine parseLine_eq (parse_alteredLine.trans ?_)
  rw [zero, large]
  rfl

theorem createFileMandateVault_altered : createFileMandateVault (some (alteredLine ++ [newline])) =
    .ok ⟨some (alteredLine ++ [newline]), [⟨nearest false (0 : ℕ), [], text "d", alteredEntry⟩]⟩ := by
  have lines : linesOf (alteredLine ++ [newline]) = [alteredLine] := by
    have each : ∀ t ∈ [alteredLine], t ≠ [] ∧ newline ∉ t := by
      intro t mem
      obtain rfl := List.mem_singleton.mp mem
      unfold alteredLine
      simp only [text, @String.toList_ofList _]
      decide
    simpa using linesOf_flatMap each
  have reads : readEntry alteredEntry = .ok () := rfl
  have line : readLine alteredLine = .ok ⟨nearest false (0 : ℕ), [], text "d", alteredEntry⟩ := by
    rw [readLine, parseLine_altered]
    show (readEntry alteredEntry >>= fun _ => _) = _
    rw [reads]
    rfl
  rw [createFileMandateVault, lines, List.mapM_cons, line]
  rfl

/-- The altered file opens to a chain that verifies, with the head of the one that was written. -/
theorem null_altered : Function.Injective sampleSha256 ∧ (∀ t, sampleSha256 t ≠ []) ∧
    verify sampleSha256 stored.records = .ok ∧
    ∃ vault, createFileMandateVault (some (alteredLine ++ [newline])) = .ok vault ∧ verify sampleSha256 vault.records = .ok ∧
      head vault.records = head stored.records ∧ ¬List.Forall₂ Alike stored.records vault.records := by
  have same : [⟨nearest false (0 : ℕ), [], text "d", alteredEntry⟩] = stored.records.map alteredRecord := by
    have seq : alteredNumber (nearest false (0 : ℕ)) = nearest false (0 : ℕ) := by decide +kernel
    rw [stored_records, List.map_cons, List.map_nil, alteredRecord]
    simp only [seq]
    rfl
  refine ⟨sampleSha256_injective, sampleSha256_neverEmpty, stored_verifies, _, createFileMandateVault_altered, ?_, ?_, ?_⟩
  · rw [same]
    exact verify_altered stored_verifies
  · rw [same]
    exact head_altered _
  · intro alike
    have details := (List.forall₂_cons.mp (stored_records ▸ alike)).1.entry
    cases details

end AgentPey.VaultChains
