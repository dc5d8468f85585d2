import AgentPey.JsonNumbers

/-!
The values that JSON texts stand for. An object is the list of its members in the order in which JavaScript enumerates them:
array indices ascending, then the other names as they were added. Two values are the same up to the order of members when each
member of one has its like in the other, at every depth.
-/
namespace AgentPey.JsonValues
open JsonNumbers
universe u

inductive Value where
  | null
  | bool (value : Bool)
  | number (value : Number)
  | string (value : Text)
  | array (items : List Value)
  | object (members : List (Text × Value))

/-- What a walk over a value does with each kind of value. -/
structure Algebra (α : Type u) where
  null : α
  bool : Bool → α
  number : Number → α
  string : Text → α
  array : List α → α
  object : List (Text × α) → α

section
variable {α : Type u}

mutual

def Value.fold (a : Algebra α) : Value → α
  | .null => a.null
  | .bool b => a.bool b
  | .number n => a.number n
  | .string s => a.string s
  | .array items => a.array (foldItems a items)
  | .object members => a.object (foldMembers a members)

def foldItems (a : Algebra α) : List Value → List α
  | [] => []
  | v :: rest => v.fold a :: foldItems a rest

def foldMembers (a : Algebra α) : List (Text × Value) → List (Text × α)
  | [] => []
  | (name, v) :: rest => (name, v.fold a) :: foldMembers a rest

end

theorem foldItems_eq (a : Algebra α) (items : List Value) : foldItems a items = items.map (Value.fold a) := by
  induction items with
  | nil => rfl
  | cons v rest ih => rw [foldItems, ih, List.map_cons]

theorem foldMembers_eq (a : Algebra α) (members : List (Text × Value)) :
    foldMembers a members = members.map (Prod.map id (Value.fold a)) := by
  induction members with
  | nil => rfl
  | cons m rest ih =>
    obtain ⟨name, v⟩ := m
    rw [foldMembers, ih, List.map_cons]
    rfl

theorem fold_array (a : Algebra α) (items : List Value) : (Value.array items).fold a = a.array (items.map (Value.fold a)) := by
  rw [Value.fold, foldItems_eq]

theorem fold_object (a : Algebra α) (members : List (Text × Value)) :
    (Value.object members).fold a = a.object (members.map (Prod.map id (Value.fold a))) := by
  rw [Value.fold, foldMembers_eq]

end

/-- Induction over a value and the values in it. -/
theorem Value.induction {motive : Value → Prop} (null : motive .null) (bool : ∀ b, motive (.bool b))
    (number : ∀ n, motive (.number n)) (string : ∀ s, motive (.string s))
    (array : ∀ items, (∀ v ∈ items, motive v) → motive (.array items))
    (object : ∀ members, (∀ m ∈ members, motive m.2) → motive (.object members)) (v : Value) : motive v := by
  refine @Value.rec motive (fun items => ∀ v ∈ items, motive v) (fun members => ∀ m ∈ members, motive m.2)
    (fun m => motive m.2) null bool number string array object ?_ ?_ ?_ ?_ (fun _ _ inner => inner) v
  · exact fun v mem => absurd mem List.not_mem_nil
  · intro v rest first others w mem
    rcases List.mem_cons.mp mem with rfl | later
    · exact first
    · exact others w later
  · exact fun m mem => absurd mem List.not_mem_nil
  · intro m rest first others n mem
    rcases List.mem_cons.mp mem with rfl | later
    · exact first
    · exact others n later

/-! ### Objects -/

abbrev Members (α : Type u) := List (Text × α)

def names {α : Type u} (members : Members α) : List Text := members.map Prod.fst

def arrayIndex (name : Text) : Option ℕ :=
  if name ≠ [] ∧ name.all isDigit ∧ (name.head? = some zero → name.length = 1) ∧ readDigits name < 2 ^ 32 - 1 then
    some (readDigits name)
  else none

/-- Array indices come first, ascending; the other names stay as they are among themselves. -/
def comesBefore (a b : Text) : Bool :=
  match arrayIndex a, arrayIndex b with
  | some i, some j => i ≤ j
  | none, some _ => false
  | _, none => true

section
variable {α β : Type u}

def orderBy (r : Text → Text → Prop) [DecidableRel r] (members : Members α) : Members α :=
  members.insertionSort fun m n => r m.1 n.1

def ownOrder (members : Members α) : Members α := orderBy (fun a b => comesBefore a b = true) members

/-- `sort` by the names' code units. -/
def sortMembers (members : Members α) : Members α := orderBy (· ≤ ·) members

/-- A member is replaced where it stands, or comes last. -/
def setMember (members : Members α) (m : Text × α) : Members α :=
  if m.1 ∈ names members then members.map fun n => if n.1 = m.1 then m else n else members ++ [m]

/-- An object made by setting members one after the other. -/
def assign (members : Members α) : Members α := ownOrder (members.foldl setMember [])

variable (f : α → β) (members : Members α)

theorem names_map : names (members.map (Prod.map id f)) = names members := by
  simp [names]

section
variable (r : Text → Text → Prop) [DecidableRel r]

theorem orderBy_perm : (orderBy r members).Perm members := List.perm_insertionSort _ members

theorem orderBy_map : orderBy r (members.map (Prod.map id f)) = (orderBy r members).map (Prod.map id f) :=
  (List.map_insertionSort _ _ (Prod.map id f) members fun _ _ _ _ => Iff.rfl).symm

theorem names_orderBy : names (orderBy r members) = (names members).insertionSort r :=
  List.map_insertionSort _ _ _ members fun _ _ _ _ => Iff.rfl

theorem orderBy_eq {members : Members α} (ordered : (names members).Pairwise r) : orderBy r members = members :=
  List.Pairwise.insertionSort_eq (List.pairwise_map.mp ordered)

end

theorem comesBefore_total (a b : Text) : comesBefore a b = true ∨ comesBefore b a = true := by
  rw [comesBefore, comesBefore]
  cases arrayIndex a <;> cases arrayIndex b <;> simp
  omega

theorem comesBefore_trans {a b c : Text} (first : comesBefore a b = true) (second : comesBefore b c = true) :
    comesBefore a c = true := by
  rw [comesBefore] at first second ⊢
  cases indexA : arrayIndex a <;> cases indexB : arrayIndex b <;> cases indexC : arrayIndex c <;>
    simp [indexA, indexB, indexC] at first second ⊢
  omega

/-- The names of an object: each once, in the order of enumeration. -/
structure Enumerated (list : List Text) : Prop where
  nodup : list.Nodup
  ordered : list.Pairwise fun a b => comesBefore a b = true

theorem nodup_setMember {members : Members α} (nodup : (names members).Nodup) (m : Text × α) :
    (names (setMember members m)).Nodup := by
  rw [setMember]
  split
  next there =>
    have same : names (members.map fun n => if n.1 = m.1 then m else n) = names members := by
      rw [names, List.map_map]
      refine List.map_congr_left fun n _ => ?_
      by_cases named : n.1 = m.1 <;> simp [named]
    rwa [same]
  next fresh =>
    rw [names, List.map_append, List.nodup_append]
    refine ⟨nodup, by simp, ?_⟩
    rintro name there other last rfl
    obtain rfl : name = m.1 := by simpa using last
    exact fresh there

theorem nodup_set (set : Members α) (nodup : (names set).Nodup) : (names (members.foldl setMember set)).Nodup := by
  induction members generalizing set with
  | nil => exact nodup
  | cons m rest ih => exact ih _ (nodup_setMember nodup m)

theorem assign_enumerated : Enumerated (names (assign members)) := by
  have perm := (orderBy_perm (members.foldl setMember []) fun a b => comesBefore a b = true).map Prod.fst
  refine ⟨perm.nodup_iff.mpr (nodup_set members [] List.nodup_nil), ?_⟩
  have total : Std.Total fun a b => comesBefore a b = true := ⟨comesBefore_total⟩
  have trans : IsTrans Text fun a b => comesBefore a b = true := ⟨fun _ _ _ => comesBefore_trans⟩
  rw [assign, ownOrder, names_orderBy]
  exact List.pairwise_insertionSort _ _

theorem mem_assign {members : Members α} {m : Text × α} (mem : m ∈ assign members) : m ∈ members := by
  have each : ∀ (members set : Members α), m ∈ members.foldl setMember set → m ∈ set ∨ m ∈ members := by
    intro members
    induction members with
    | nil => exact fun set mem => .inl mem
    | cons n rest ih =>
      intro set mem
      rcases ih _ mem with there | later
      · rw [setMember] at there
        split at there
        · obtain ⟨k, old, same⟩ := List.mem_map.mp there
          split at same
          · exact .inr (by simp [same])
          · exact .inl (same ▸ old)
        · simp only [List.mem_append, List.mem_singleton] at there
          rcases there with old | same
          · exact .inl old
          · exact .inr (by simp [same])
      · exact .inr (List.mem_cons_of_mem _ later)
  have set : m ∈ members.foldl setMember [] := (orderBy_perm _ fun a b => comesBefore a b = true).mem_iff.mp mem
  exact (each members [] set).resolve_left List.not_mem_nil

theorem set_fresh (set : Members α) (nodup : (names (set ++ members)).Nodup) : members.foldl setMember set = set ++ members := by
  induction members generalizing set with
  | nil => simp
  | cons m rest ih =>
    have fresh : m.1 ∉ names set := by
      rw [names, List.map_append, List.nodup_append] at nodup
      exact fun there => nodup.2.2 m.1 there m.1 (by simp) rfl
    rw [List.foldl_cons, setMember, if_neg fresh, ih _ (by simpa using nodup), List.append_assoc, List.singleton_append]

theorem assign_eq {members : Members α} (nodup : (names members).Nodup) : assign members = ownOrder members := by
  rw [assign, set_fresh members [] nodup, List.nil_append]

theorem assign_map {members : Members α} (nodup : (names members).Nodup) (f : α → β) :
    assign (members.map (Prod.map id f)) = (assign members).map (Prod.map id f) := by
  rw [assign_eq nodup, assign_eq (by rwa [names_map])]
  exact orderBy_map f members _

theorem assign_perm {members : Members α} (nodup : (names members).Nodup) : (assign members).Perm members := by
  rw [assign_eq nodup]
  exact orderBy_perm ..

theorem Enumerated.assign_eq {members : Members α} (enumerated : Enumerated (names members)) : assign members = members := by
  rw [JsonValues.assign_eq enumerated.nodup]
  exact orderBy_eq _ enumerated.ordered

theorem sortMembers_congr {members others : Members α} (nodup : (names members).Nodup) (perm : members.Perm others) :
    sortMembers members = sortMembers others := by
  have sorted : ∀ ms : Members α, (sortMembers ms).Pairwise fun m n => m.1 ≤ n.1 := by
    intro ms
    have total : Std.Total fun (m n : Text × α) => m.1 ≤ n.1 := ⟨fun m n => le_total m.1 n.1⟩
    have trans : IsTrans (Text × α) fun m n => m.1 ≤ n.1 := ⟨fun _ _ _ => le_trans⟩
    exact List.pairwise_insertionSort _ _
  have same := (orderBy_perm members (· ≤ ·)).trans (perm.trans (orderBy_perm others (· ≤ ·)).symm)
  refine List.Perm.eq_of_pairwise ?_ (sorted members) (sorted others) same
  intro m n inSorted inOthers below above
  have inMembers := (orderBy_perm members (· ≤ ·)).mem_iff.mp inSorted
  have alsoIn := perm.mem_iff.mpr ((orderBy_perm others (· ≤ ·)).mem_iff.mp inOthers)
  exact List.inj_on_of_nodup_map nodup inMembers alsoIn (le_antisymm below above)

end

/-! ### Values -/

def Value.Distinct : Value → Prop :=
  Value.fold {
    null := True
    bool _ := True
    number _ := True
    string _ := True
    array items := ∀ p ∈ items, p
    object members := (names members).Nodup ∧ ∀ m ∈ members, m.2 }

/-- Every object has each name once and its members in the order of enumeration: what JavaScript can hold. -/
def Value.Proper : Value → Prop :=
  Value.fold {
    null := True
    bool _ := True
    number _ := True
    string _ := True
    array items := ∀ p ∈ items, p
    object members := Enumerated (names members) ∧ ∀ m ∈ members, m.2 }

/-- Equal up to the order of the members, at every depth; numbers are compared by value. -/
def Same : Value → Value → Prop :=
  Value.fold {
    null other := other = .null
    bool b other := other = .bool b
    number n other := ∃ m, other = .number m ∧ n.unsigned = m.unsigned
    string s other := other = .string s
    array items other := ∃ others, other = .array others ∧ List.Forall₂ (fun same v => same v) items others
    object members other := ∃ others, other = .object others ∧ members.length = others.length ∧
      ∀ m ∈ members, ∃ v, (m.1, v) ∈ others ∧ m.2 v }

/-- The value with every object's members sorted by name, and no sign on a zero. -/
def Value.canon : Value → Value :=
  Value.fold ⟨.null, .bool, fun n => .number n.unsigned, .string, .array, fun members => .object (sortMembers members)⟩

variable {items : List Value} {members others : Members Value} {v other : Value}

theorem distinct_array : (Value.array items).Distinct ↔ ∀ v ∈ items, v.Distinct := by
  rw [Value.Distinct, fold_array]
  exact List.forall_mem_map

theorem distinct_object : (Value.object members).Distinct ↔ (names members).Nodup ∧ ∀ m ∈ members, m.2.Distinct := by
  rw [Value.Distinct, fold_object]
  simp only [names_map, List.mem_map, forall_exists_index, and_imp, forall_apply_eq_imp_iff₂, Prod.map_snd]

theorem proper_array : (Value.array items).Proper ↔ ∀ v ∈ items, v.Proper := by
  rw [Value.Proper, fold_array]
  exact List.forall_mem_map

theorem proper_object : (Value.object members).Proper ↔ Enumerated (names members) ∧ ∀ m ∈ members, m.2.Proper := by
  rw [Value.Proper, fold_object]
  simp only [names_map, List.mem_map, forall_exists_index, and_imp, forall_apply_eq_imp_iff₂, Prod.map_snd]

theorem Value.Proper.distinct (proper : v.Proper) : v.Distinct := by
  induction v using Value.induction with
  | null => trivial
  | bool => trivial
  | number => trivial
  | string => trivial
  | array items ih => exact distinct_array.mpr fun v mem => ih v mem (proper_array.mp proper v mem)
  | object members ih =>
    obtain ⟨enumerated, inner⟩ := proper_object.mp proper
    exact distinct_object.mpr ⟨enumerated.nodup, fun m mem => ih m mem (inner m mem)⟩

theorem same_array : Same (.array items) other ↔ ∃ others, other = .array others ∧ List.Forall₂ Same items others := by
  rw [Same, fold_array]
  simp only [List.forall₂_map_left_iff]

theorem same_object : Same (.object members) other ↔ ∃ others, other = .object others ∧ members.length = others.length ∧
      ∀ m ∈ members, ∃ v, (m.1, v) ∈ others ∧ Same m.2 v := by
  rw [Same, fold_object]
  simp only [List.length_map, List.mem_map, forall_exists_index, and_imp, forall_apply_eq_imp_iff₂, Prod.map_fst,
    Prod.map_snd, id_eq]

theorem canon_array (items : List Value) : (Value.array items).canon = .array (items.map Value.canon) := by
  rw [Value.canon, fold_array]

theorem canon_object (members : Members Value) :
    (Value.object members).canon = .object (sortMembers (members.map (Prod.map id Value.canon))) := by
  rw [Value.canon, fold_object]

theorem canon_members (nodup : (names members).Nodup) (like : ∀ m ∈ members, ∀ v, m.2.canon = v.canon ↔ Same m.2 v) :
    sortMembers (members.map (Prod.map id Value.canon)) = sortMembers (others.map (Prod.map id Value.canon)) ↔
      members.length = others.length ∧ ∀ m ∈ members, ∃ v, (m.1, v) ∈ others ∧ Same m.2 v := by
  constructor
  · intro sorted
    have perm : (members.map (Prod.map id Value.canon)).Perm (others.map (Prod.map id Value.canon)) := by
      refine (orderBy_perm _ (· ≤ ·)).symm.trans ?_
      show (sortMembers _).Perm _
      rw [sorted]
      exact orderBy_perm _ (· ≤ ·)
    refine ⟨by simpa using perm.length_eq, fun m mem => ?_⟩
    obtain ⟨n, inside, same⟩ := List.mem_map.mp (perm.mem_iff.mp (List.mem_map_of_mem mem))
    obtain ⟨name, value⟩ : n.1 = m.1 ∧ n.2.canon = m.2.canon := by simpa [Prod.ext_iff] using same
    exact ⟨n.2, name ▸ inside, (like m mem n.2).mp value.symm⟩
  · rintro ⟨length, each⟩
    have nodup' : (names (members.map (Prod.map id Value.canon))).Nodup := by rwa [names_map]
    refine sortMembers_congr nodup' (List.Subperm.perm_of_length_le ?_ (by simp [length]))
    refine (List.Nodup.of_map Prod.fst nodup').subperm ?_
    intro c mem
    obtain ⟨m, inside, rfl⟩ := List.mem_map.mp mem
    obtain ⟨v, there, same⟩ := each m inside
    exact List.mem_map.mpr ⟨(m.1, v), there, Prod.ext rfl ((like m inside v).mpr same).symm⟩

theorem forall₂_congr {α β : Type u} {R S : α → β → Prop} {as : List α} {bs : List β} (each : ∀ a ∈ as, ∀ b, R a b ↔ S a b) :
    List.Forall₂ R as bs ↔ List.Forall₂ S as bs := by
  induction as generalizing bs with
  | nil => simp [List.forall₂_nil_left_iff]
  | cons a as ih =>
    simp only [List.forall₂_cons_left_iff, each a (by simp), ih fun c mem => each c (List.mem_cons_of_mem _ mem)]

/-- Two values are the same up to the order of members when sorting makes them equal. -/
theorem canon_eq_iff {a : Value} (distinct : a.Distinct) (b : Value) : a.canon = b.canon ↔ Same a b := by
  induction a using Value.induction generalizing b with
  | null => cases b <;> simp [Value.canon, Same, Value.fold]
  | bool => cases b <;> simp [Value.canon, Same, Value.fold, eq_comm]
  | number => cases b <;> simp [Value.canon, Same, Value.fold]
  | string => cases b <;> simp [Value.canon, Same, Value.fold, eq_comm]
  | array items ih =>
    rw [same_array, canon_array]
    cases b with
    | array others =>
      rw [canon_array]
      simp only [Value.array.injEq, exists_eq_left']
      rw [← List.forall₂_eq_eq_eq, List.forall₂_map_left_iff, List.forall₂_map_right_iff]
      exact forall₂_congr fun v mem w => ih v mem (distinct_array.mp distinct v mem) w
    | object others => simp [canon_object]
    | null => simp [Value.canon, Value.fold]
    | bool => simp [Value.canon, Value.fold]
    | number => simp [Value.canon, Value.fold]
    | string => simp [Value.canon, Value.fold]
  | object members ih =>
    rw [same_object, canon_object]
    cases b with
    | object others =>
      obtain ⟨nodup, inner⟩ := distinct_object.mp distinct
      rw [canon_object]
      simp only [Value.object.injEq, exists_eq_left']
      exact canon_members nodup fun m mem v => ih m mem (inner m mem) v
    | array others => simp [canon_array]
    | null => simp [Value.canon, Value.fold]
    | bool => simp [Value.canon, Value.fold]
    | number => simp [Value.canon, Value.fold]
    | string => simp [Value.canon, Value.fold]

theorem names_sortMembers {α : Type u} {members : Members α} (nodup : (names members).Nodup) :
    (names (sortMembers members)).Nodup :=
  ((orderBy_perm members (· ≤ ·)).map Prod.fst).nodup_iff.mpr nodup

theorem Value.Distinct.canon (distinct : v.Distinct) : v.canon.Distinct := by
  induction v using Value.induction with
  | null => trivial
  | bool => trivial
  | number => trivial
  | string => trivial
  | array items ih =>
    rw [canon_array, distinct_array]
    intro w mem
    obtain ⟨v, inside, rfl⟩ := List.mem_map.mp mem
    exact ih v inside (distinct_array.mp distinct v inside)
  | object members ih =>
    obtain ⟨nodup, inner⟩ := distinct_object.mp distinct
    rw [canon_object, distinct_object]
    refine ⟨names_sortMembers (by rwa [names_map]), fun m mem => ?_⟩
    obtain ⟨n, inside, rfl⟩ := List.mem_map.mp ((orderBy_perm _ (· ≤ ·)).mem_iff.mp mem)
    exact ih n inside (inner n inside)
theorem canon_reordered (nodup : (names members).Nodup)
    (perm : (others.map (Prod.map id Value.canon)).Perm (members.map (Prod.map id Value.canon))) :
    (Value.object others).canon = (Value.object members).canon := by
  rw [canon_object, canon_object]
  have same := sortMembers_congr (by rwa [names_map]) perm.symm
  rw [same]

theorem canon_canon (distinct : v.Distinct) : v.canon.canon = v.canon := by
  induction v using Value.induction with
  | null => rfl
  | bool => rfl
  | number n =>
    show Value.number n.unsigned.unsigned = .number n.unsigned
    rw [unsigned_unsigned]
  | string => rfl
  | array items ih =>
    rw [canon_array, canon_array, List.map_map]
    exact congrArg Value.array (List.map_congr_left fun v mem => ih v mem (distinct_array.mp distinct v mem))
  | object members ih =>
    obtain ⟨nodup, inner⟩ := distinct_object.mp distinct
    rw [canon_object, canon_reordered nodup, canon_object]
    refine ((orderBy_perm (members.map (Prod.map id Value.canon)) (· ≤ ·)).map _).trans ?_
    rw [List.map_map]
    exact List.Perm.of_eq (List.map_congr_left fun m mem => Prod.ext rfl (ih m mem (inner m mem)))

/-- What JavaScript can hold of JSON. -/
abbrev JsonValue := { v : Value // v.Proper }

end AgentPey.JsonValues
