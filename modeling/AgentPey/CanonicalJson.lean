import AgentPey.JsonTexts

/-!
The canonical JSON of `core/canonical.ts`, which credentials, mandates and disputes are hashed in: the members are copied by name,
sorted, into a fresh object that `JSON.stringify` then writes. Setting the member `__proto__` of an object sets its prototype
instead, which `JSON.stringify` does not write, and a number that is too large is written as `null`.
-/
namespace AgentPey.CanonicalJson
open JsonNumbers JsonValues JsonTexts
open List (map_congr_left map_map mem_map)

def proto : Text := units ['_', '_', 'p', 'r', 'o', 't', 'o', '_', '_']

/-- The members that assigning them one by one to a fresh object leaves it with. -/
def kept {α : Type} (members : Members α) : Members α := members.filter fun m => m.1 ≠ proto

def sortKeysDeep : Value → Value :=
  Value.fold ⟨.null, .bool, .number, .string, .array, fun members => .object (assign (kept (sortMembers members)))⟩

def canonicalJson (v : Value) : Text := stringify (sortKeysDeep v)

/-- What the canonical text tells of a value: no member `__proto__`, and `null` for what is not finite. -/
def told : Value → Value :=
  Value.fold ⟨.null, .bool, fun n => if n.isFinite then .number n else .null, .string, .array,
    fun members => .object (kept members)⟩

theorem sortKeysDeep_array (items : List Value) : sortKeysDeep (.array items) = .array (items.map sortKeysDeep) := by
  rw [sortKeysDeep, fold_array]

theorem sortKeysDeep_object (members : Members Value) :
    sortKeysDeep (.object members) = .object (assign (kept (sortMembers (members.map (Prod.map id sortKeysDeep))))) := by
  rw [sortKeysDeep, fold_object]

theorem told_array (items : List Value) : told (.array items) = .array (items.map told) := by
  rw [told, fold_array]

section
variable {α β : Type} {members : Members α}

theorem kept_map (f : α → β) (members : Members α) : kept (members.map (Prod.map id f)) = (kept members).map (Prod.map id f) :=
  List.filter_map ..

theorem nodup_kept (nodup : (names members).Nodup) : (names (kept members)).Nodup :=
  nodup.sublist (List.filter_sublist.map _)

theorem mem_kept {m : Text × α} (mem : m ∈ kept members) : m ∈ members := (List.mem_filter.mp mem).1

theorem kept_sortMembers (nodup : (names members).Nodup) : kept (sortMembers members) = sortMembers (kept members) := by
  have sorted : (names (sortMembers members)).Pairwise (· ≤ ·) := by
    rw [sortMembers, names_orderBy]
    exact List.pairwise_insertionSort _ _
  have still : (names (kept (sortMembers members))).Pairwise (· ≤ ·) := sorted.sublist (List.filter_sublist.map _)
  rw [← orderBy_eq (· ≤ ·) still]
  exact sortMembers_congr (nodup_kept (names_sortMembers nodup)) ((orderBy_perm members (· ≤ ·)).filter _)

end

theorem told_object (members : Members Value) : told (.object members) = .object ((kept members).map (Prod.map id told)) := by
  rw [told, fold_object]
  exact congrArg Value.object (kept_map _ members)

theorem sortKeysDeep_proper (v : Value) : (sortKeysDeep v).Proper := by
  induction v using Value.induction with
  | null => trivial
  | bool => trivial
  | number => trivial
  | string => trivial
  | array items ih =>
    rw [sortKeysDeep_array, proper_array]
    intro w mem
    obtain ⟨v, inside, rfl⟩ := mem_map.mp mem
    exact ih v inside
  | object members ih =>
    rw [sortKeysDeep_object, proper_object]
    refine ⟨assign_enumerated _, fun m mem => ?_⟩
    obtain ⟨n, inside, rfl⟩ := mem_map.mp ((orderBy_perm _ (· ≤ ·)).mem_iff.mp (mem_kept (mem_assign mem)))
    exact ih n inside

variable {v : Value}

theorem told_distinct (distinct : v.Distinct) : (told v).Distinct := by
  induction v using Value.induction with
  | null => trivial
  | bool => trivial
  | number n =>
    show (if n.isFinite then Value.number n else .null).Distinct
    split <;> trivial
  | string => trivial
  | array items ih =>
    rw [told_array, distinct_array]
    intro w mem
    obtain ⟨v, inside, rfl⟩ := mem_map.mp mem
    exact ih v inside (distinct_array.mp distinct v inside)
  | object members ih =>
    obtain ⟨nodup, inner⟩ := distinct_object.mp distinct
    rw [told_object, distinct_object]
    refine ⟨by rw [names_map]; exact nodup_kept nodup, fun m mem => ?_⟩
    obtain ⟨n, inside, rfl⟩ := mem_map.mp mem
    exact ih n (mem_kept inside) (inner n (mem_kept inside))

/-- The members of every object in the order of enumeration. -/
def reorder : Value → Value :=
  Value.fold ⟨.null, .bool, .number, .string, .array, fun members => .object (assign members)⟩

theorem reorder_array (items : List Value) : reorder (.array items) = .array (items.map reorder) := by
  rw [reorder, fold_array]

theorem reorder_object (members : Members Value) :
    reorder (.object members) = .object (assign (members.map (Prod.map id reorder))) := by
  rw [reorder, fold_object]

theorem canon_reorder (distinct : v.Distinct) : (reorder v).canon = v.canon := by
  induction v using Value.induction with
  | null => rfl
  | bool => rfl
  | number => rfl
  | string => rfl
  | array items ih =>
    rw [reorder_array, canon_array, canon_array, map_map]
    exact congrArg Value.array (map_congr_left fun v mem => ih v mem (distinct_array.mp distinct v mem))
  | object members ih =>
    obtain ⟨nodup, inner⟩ := distinct_object.mp distinct
    rw [reorder_object, canon_reordered nodup]
    refine ((assign_perm (by rwa [names_map])).map _).trans ?_
    rw [map_map]
    exact List.Perm.of_eq (map_congr_left fun m mem => Prod.ext rfl (ih m mem (inner m mem)))

/-- What is read of a canonical text is what the text tells. -/
theorem written_sortKeysDeep (distinct : v.Distinct) : written (sortKeysDeep v) = reorder (told v).canon := by
  induction v using Value.induction with
  | null => rfl
  | bool => rfl
  | number n =>
    show (if n.isFinite then Value.number n.unsigned else .null) = reorder (if n.isFinite then Value.number n else .null).canon
    split <;> rfl
  | string => rfl
  | array items ih =>
    rw [sortKeysDeep_array, written_array, told_array, canon_array, reorder_array, map_map, map_map, map_map]
    exact congrArg Value.array (map_congr_left fun v mem => ih v mem (distinct_array.mp distinct v mem))
  | object members ih =>
    obtain ⟨nodup, inner⟩ := distinct_object.mp distinct
    have sorted : kept (sortMembers (members.map (Prod.map id sortKeysDeep))) =
        (sortMembers (kept members)).map (Prod.map id sortKeysDeep) := by
      rw [kept_sortMembers (by rwa [names_map]), kept_map]
      exact orderBy_map ..
    have nodup_sorted : (names ((sortMembers (kept members)).map (Prod.map id sortKeysDeep))).Nodup := by
      rw [names_map]
      exact names_sortMembers (nodup_kept nodup)
    have told_sorted : (told (.object members)).canon =
        .object ((sortMembers (kept members)).map fun m => (m.1, (told m.2).canon)) := by
      rw [told_object, canon_object, map_map]
      exact congrArg Value.object (orderBy_map (fun v => (told v).canon) (kept members) (· ≤ ·))
    rw [sortKeysDeep_object, sorted, written_enumerated (assign_enumerated _), ← assign_map nodup_sorted, told_sorted,
      reorder_object, map_map, map_map]
    refine congrArg (fun members => Value.object (assign members)) (map_congr_left fun m mem => ?_)
    have inside := mem_kept ((orderBy_perm _ (· ≤ ·)).mem_iff.mp mem)
    exact Prod.ext rfl (ih m inside (inner m inside))

/-- Two canonical texts are equal exactly when they tell the same. -/
theorem canonicalJson_eq_iff {a b : Value} (distinct : a.Distinct) (distinct' : b.Distinct) :
    canonicalJson a = canonicalJson b ↔ Same (told a) (told b) := by
  rw [← canon_eq_iff (told_distinct distinct)]
  constructor
  · intro same
    have read := congrArg Value.canon (written_of_stringify same)
    rwa [written_sortKeysDeep distinct, written_sortKeysDeep distinct', canon_reorder (told_distinct distinct).canon,
      canon_reorder (told_distinct distinct').canon, canon_canon (told_distinct distinct), canon_canon (told_distinct distinct')]
      at read
  · intro same
    rw [canonicalJson, canonicalJson, ← stringify_written (sortKeysDeep_proper a), ← stringify_written (sortKeysDeep_proper b),
      written_sortKeysDeep distinct, written_sortKeysDeep distinct', same]

theorem canon_told (distinct : v.Distinct) : (told v.canon).canon = (told v).canon := by
  induction v using Value.induction with
  | null => rfl
  | bool => rfl
  | number n =>
    show (if n.unsigned.isFinite then Value.number n.unsigned else .null).canon = (if n.isFinite then Value.number n else .null).canon
    cases n with
    | finite negative m => exact congrArg Value.number (unsigned_unsigned (.finite negative m))
    | infinite => rfl
    | nan => rfl
  | string => rfl
  | array items ih =>
    rw [canon_array, told_array, told_array, canon_array, canon_array, map_map, map_map, map_map]
    exact congrArg Value.array (map_congr_left fun v mem => ih v mem (distinct_array.mp distinct v mem))
  | object members ih =>
    obtain ⟨nodup, inner⟩ := distinct_object.mp distinct
    have nodup_told : (names ((kept members).map (Prod.map id told))).Nodup := by
      rw [names_map]
      exact nodup_kept nodup
    have perm : (kept (sortMembers (members.map (Prod.map id Value.canon)))).Perm ((kept members).map (Prod.map id Value.canon)) := by
      rw [← kept_map]
      exact (orderBy_perm _ (· ≤ ·)).filter _
    rw [canon_object, told_object, told_object, canon_reordered nodup_told]
    refine ((perm.map (Prod.map id told)).map (Prod.map id Value.canon)).trans ?_
    rw [map_map, map_map, map_map]
    exact List.Perm.of_eq (map_congr_left fun m mem => Prod.ext rfl (ih m (mem_kept mem) (inner m (mem_kept mem))))

theorem Same.told {a b : Value} (distinct : a.Distinct) (distinct' : b.Distinct) (same : Same a b) :
    Same (told a) (CanonicalJson.told b) := by
  rw [← canon_eq_iff (told_distinct distinct), ← canon_told distinct, (canon_eq_iff distinct b).mpr same, canon_told distinct']

/-- For documents that `JSON.parse` made: equal canonical texts mean equal documents, up to the order of members, unless the two
    differ and yet tell the same. -/
theorem canonical_json_iff {s t : Text} {a b : Value} (first : parse s = some a) (second : parse t = some b) :
    (canonicalJson a = canonicalJson b ↔ Same a b) ↔ (Same (told a) (told b) → Same a b) := by
  have distinct := (parse_proper first).distinct
  have distinct' := (parse_proper second).distinct
  rw [canonicalJson_eq_iff distinct distinct']
  exact ⟨fun iff => iff.mp, fun tells => ⟨tells, Same.told distinct distinct'⟩⟩

def sampleDocument : Value := .object [(units ['a'], .bool true), (units ['b'], .null)]

def sampleOther : Value := .object [(units ['b'], .null), (units ['a'], .bool true)]

theorem canonical_json_iff_sample :
    (canonicalJson (written sampleDocument) = canonicalJson (written sampleOther) ↔
      Same (written sampleDocument) (written sampleOther)) ↔
    (Same (told (written sampleDocument)) (told (written sampleOther)) →
      Same (written sampleDocument) (written sampleOther)) :=
  canonical_json_iff (parse_stringify sampleDocument) (parse_stringify sampleOther)

/-- An object with a member `__proto__`, and a number that is too large. -/
def polluted : Value := .object [(proto, .bool true)]

def pollutedText : Text :=
  units ['{', '"', '_', '_', 'p', 'r', 'o', 't', 'o', '_', '_', '"', ':', 't', 'r', 'u', 'e', '}']

theorem parse_overflow : parse (units ['1', 'e', '4', '0', '0']) = some (.number (.infinite false)) := by
  have read : parse (units ['1', 'e', '4', '0', '0']) = some (.number (nearest false (Decimal.value ⟨1, 400⟩))) := rfl
  have large : nearest false (Decimal.value ⟨1, 400⟩) = .infinite false := by decide +kernel
  rw [read, large]

theorem documents_collide :
    (parse pollutedText = some polluted ∧ parse (units ['{', '}']) = some (.object []) ∧
      canonicalJson polluted = canonicalJson (.object []) ∧ ¬Same polluted (.object [])) ∧
    parse (units ['1', 'e', '4', '0', '0']) = some (.number (.infinite false)) ∧
      parse (units ['n', 'u', 'l', 'l']) = some .null ∧
      canonicalJson (.number (.infinite false)) = canonicalJson .null ∧ ¬Same (.number (.infinite false)) .null := by
  refine ⟨⟨rfl, rfl, rfl, ?_⟩, parse_overflow, rfl, rfl, ?_⟩
  · intro same
    obtain ⟨others, eq, length, _⟩ := same_object.mp same
    cases eq
    simp at length
  · rintro ⟨m, eq, _⟩
    cases eq

end AgentPey.CanonicalJson
