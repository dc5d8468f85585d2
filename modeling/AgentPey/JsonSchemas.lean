import AgentPey.CanonicalJson

/-!
Schemas of JSON values. A schema reads a value and says how what it read is written again; it keeps all that the value tells.
A strict object names its members and refuses any other, but for `__proto__`, which it passes over.
-/
namespace AgentPey.JsonSchemas
open JsonNumbers JsonValues CanonicalJson

/-! ### Members -/

section
variable {α : Type} {members : Members α} {name : Text} {a : α}

def member (members : Members α) (name : Text) : Option α := (members.find? fun m => m.1 = name).map Prod.snd

theorem mem_member (found : member members name = some a) : (name, a) ∈ members := by
  obtain ⟨m, first, rfl⟩ := Option.map_eq_some_iff.mp found
  obtain rfl : m.1 = name := by simpa using List.find?_some first
  exact List.mem_of_find?_eq_some first

theorem member_eq (nodup : (names members).Nodup) (among : (name, a) ∈ members) : member members name = some a := by
  induction members with
  | nil => exact nomatch among
  | cons m rest ih =>
    obtain ⟨fresh, rest_nodup⟩ := List.nodup_cons.mp nodup
    rcases List.mem_cons.mp among with rfl | later
    · simp [member]
    · have other : m.1 ≠ name := fun same => fresh (same ▸ List.mem_map_of_mem later)
      rw [member, List.find?_cons_of_neg (by simpa using other)]
      exact ih rest_nodup later

theorem mem_names : name ∈ names members ↔ ∃ a, (name, a) ∈ members := by
  simp [names]

theorem member_none : member members name = none ↔ name ∉ names members := by
  simp only [member, names, Option.map_eq_none_iff, List.find?_eq_none, List.mem_map, decide_eq_true_eq, not_exists, not_and]

end

theorem member_singleton {α : Type} (name : Text) (a : α) : member [(name, a)] name = some a := by
  simp [member]

/-! ### Schemas -/

structure Schema (α : Type) where
  read : Value → Option α
  write : α → Value
  distinct : ∀ a, (write a).Distinct
  tells : ∀ a, told (write a) = write a
  keeps : ∀ {v a}, v.Distinct → read v = some a → Same (told v) (write a)

/-- The members of an object that a schema knows, and how they are read and written. -/
structure Fields (α : Type) where
  known : List Text
  read : Members Value → Option α
  write : α → Members Value
  plain : proto ∉ known
  distinct : ∀ a, (names (write a)).Nodup
  inside : ∀ a, ∀ name ∈ names (write a), name ∈ known
  inner : ∀ a, ∀ m ∈ write a, m.2.Distinct ∧ told m.2 = m.2
  keeps : ∀ {members a}, (∀ m ∈ members, m.2.Distinct) → read members = some a → ∀ name ∈ known,
    Option.Rel (fun v w => Same (told v) w) (member members name) (member (write a) name)

section
variable {α β : Type}

def text (holds : Text → Bool) : Schema { s : Text // holds s } where
  read
    | .string s => if h : holds s then some ⟨s, h⟩ else none
    | _ => none
  write s := .string s.1
  distinct _ := trivial
  tells _ := rfl
  keeps {v a} _ ran := by
    cases v with
    | string s =>
      dsimp only at ran
      split_ifs at ran
      cases ran
      rfl
    | _ => cases ran

def asText : Value → Option Text
  | .string s => some s
  | _ => none

theorem map_asText {vs : List Value} {texts : List Text} (read : vs.map asText = texts.map some) : vs = texts.map Value.string := by
  induction texts generalizing vs with
  | nil => simpa using read
  | cons first rest ih =>
    cases vs with
    | nil => cases read
    | cons v more =>
      obtain ⟨here, later⟩ := List.cons.inj read
      rw [ih later, List.map_cons]
      cases v with
      | string s =>
        cases here
        rfl
      | _ => cases here

theorem told_texts (texts : List Text) : told (.array (texts.map Value.string)) = .array (texts.map Value.string) := by
  rw [told_array, List.map_map]
  rfl

theorem Same.refl_text (s : Text) : Same (.string s) (.string s) := rfl

def literals (texts : List Text) : Schema Unit where
  read
    | .array vs => if vs.map asText = texts.map some then some () else none
    | _ => none
  write _ := .array (texts.map Value.string)
  distinct _ := distinct_array.mpr fun v among => by
    obtain ⟨s, _, rfl⟩ := List.mem_map.mp among
    trivial
  tells _ := told_texts texts
  keeps {v _} _ ran := by
    cases v with
    | array vs =>
      dsimp only at ran
      split_ifs at ran with same
      rw [map_asText same, told_texts]
      refine same_array.mpr ⟨_, rfl, List.forall₂_map_left_iff.mpr (List.forall₂_map_right_iff.mpr ?_)⟩
      exact List.forall₂_same.mpr fun s _ => Same.refl_text s
    | _ => cases ran

/-- A list of at least so many items. -/
def array (least : ℕ) (item : Schema α) : Schema (List α) where
  read
    | .array vs => if least ≤ vs.length then vs.mapM item.read else none
    | _ => none
  write items := .array (items.map item.write)
  distinct items := distinct_array.mpr fun v among => by
    obtain ⟨a, _, rfl⟩ := List.mem_map.mp among
    exact item.distinct a
  tells items := by
    rw [told_array, List.map_map]
    exact congrArg Value.array (List.map_congr_left fun a _ => item.tells a)
  keeps {v items} distinct ran := by
    cases v with
    | array vs =>
      dsimp only at ran
      split_ifs at ran with enough
      rw [told_array]
      refine same_array.mpr ⟨_, rfl, List.forall₂_map_left_iff.mpr (List.forall₂_map_right_iff.mpr ?_)⟩
      have inner := distinct_array.mp distinct
      clear distinct enough
      induction vs generalizing items with
      | nil =>
        cases ran
        exact .nil
      | cons v rest ih =>
        rw [List.mapM_cons] at ran
        obtain ⟨a, first, ran⟩ := Option.bind_eq_some_iff.mp ran
        obtain ⟨more, later, ran⟩ := Option.bind_eq_some_iff.mp ran
        cases ran
        exact .cons (item.keeps (inner v List.mem_cons_self) first)
          (ih later fun v among => inner v (List.mem_cons_of_mem _ among))
    | _ => cases ran

def field (name : Text) (schema : Schema α) (plain : name ≠ proto := by decide) : Fields α where
  known := [name]
  read members := (member members name).bind schema.read
  write a := [(name, schema.write a)]
  plain := by simpa using plain.symm
  distinct _ := List.nodup_singleton _
  inside _ _ among := among
  inner a m among := by
    rw [List.mem_singleton.mp among]
    exact ⟨schema.distinct a, schema.tells a⟩
  keeps {members a} distinct ran other known := by
    obtain rfl := List.mem_singleton.mp known
    obtain ⟨v, found, read⟩ := Option.bind_eq_some_iff.mp ran
    rw [found, member_singleton]
    exact .some (schema.keeps (distinct _ (mem_member found)) read)

def optional (name : Text) (schema : Schema α) (plain : name ≠ proto := by decide) : Fields (Option α) where
  known := [name]
  read members :=
    match member members name with
    | none => some none
    | some v => (schema.read v).map some
  write
    | none => []
    | some a => [(name, schema.write a)]
  plain := by simpa using plain.symm
  distinct
    | none => List.nodup_nil
    | some _ => List.nodup_singleton _
  inside
    | none, _, among => nomatch among
    | some _, _, among => among
  inner
    | none, _, among => nomatch among
    | some a, m, among => by
      rw [List.mem_singleton.mp among]
      exact ⟨schema.distinct a, schema.tells a⟩
  keeps {members a} distinct ran other known := by
    obtain rfl := List.mem_singleton.mp known
    cases found : member members other with
    | none =>
      rw [found] at ran
      cases ran
      exact .none
    | some v =>
      rw [found] at ran
      obtain ⟨a, read, rfl⟩ := Option.map_eq_some_iff.mp ran
      rw [member_singleton]
      exact .some (schema.keeps (distinct _ (mem_member found)) read)

variable {others : Members Value} {name : Text}

theorem member_append_left {members : Members Value} (absent : name ∉ names others) :
    member (members ++ others) name = member members name := by
  unfold member
  rw [List.find?_append]
  have none_ := member_none.mpr absent
  unfold member at none_
  rw [Option.map_eq_none_iff] at none_
  rw [none_, Option.or_none]

theorem member_append_right {members : Members Value} (absent : name ∉ names members) :
    member (members ++ others) name = member others name := by
  unfold member
  rw [List.find?_append]
  have none_ := member_none.mpr absent
  unfold member at none_
  rw [Option.map_eq_none_iff] at none_
  rw [none_, Option.none_or]

def Fields.and (first : Fields α) (second : Fields β)
    (apart : (first.known.all fun name => name ∉ second.known) = true := by rfl) : Fields (α × β) where
  known := first.known ++ second.known
  read members := do
    let a ← first.read members
    let b ← second.read members
    pure (a, b)
  write ab := first.write ab.1 ++ second.write ab.2
  plain among := (List.mem_append.mp among).elim first.plain second.plain
  distinct ab := by
    rw [names, List.map_append]
    refine List.nodup_append.mpr ⟨first.distinct ab.1, second.distinct ab.2, ?_⟩
    rintro name here _ there rfl
    exact of_decide_eq_true (List.all_eq_true.mp apart name (first.inside _ name here)) (second.inside _ name there)
  inside ab name among := by
    rw [names, List.map_append] at among
    rcases List.mem_append.mp among with here | there
    · exact List.mem_append_left _ (first.inside _ name here)
    · exact List.mem_append_right _ (second.inside _ name there)
  inner ab m among := (List.mem_append.mp among).elim (first.inner ab.1 m) (second.inner ab.2 m)
  keeps {members ab} distinct ran name known := by
    obtain ⟨a, one, ran⟩ := Option.bind_eq_some_iff.mp ran
    obtain ⟨b, other, ran⟩ := Option.bind_eq_some_iff.mp ran
    cases ran
    have separate : ∀ name ∈ first.known, name ∉ second.known := fun name here =>
      of_decide_eq_true (List.all_eq_true.mp apart name here)
    rcases List.mem_append.mp known with here | there
    · rw [member_append_left fun inside => separate name here (second.inside b name inside)]
      exact first.keeps distinct one name here
    · rw [member_append_right fun inside => separate name (first.inside a name inside) there]
      exact second.keeps distinct other name there

def Fields.into (fields : Fields α) (make : α → β) (parts : β → α) (same : ∀ a, parts (make a) = a) : Fields β where
  known := fields.known
  read members := (fields.read members).map make
  write b := fields.write (parts b)
  plain := fields.plain
  distinct b := fields.distinct (parts b)
  inside b := fields.inside (parts b)
  inner b := fields.inner (parts b)
  keeps distinct ran := by
    obtain ⟨a, read, rfl⟩ := Option.map_eq_some_iff.mp ran
    rw [same]
    exact fields.keeps distinct read

def strictObject (fields : Fields α) : Schema α where
  read
    | .object members => if members.all fun m => m.1 ∈ fields.known ∨ m.1 = proto then fields.read members else none
    | _ => none
  write a := .object (fields.write a)
  distinct a := distinct_object.mpr ⟨fields.distinct a, fun m among => (fields.inner a m among).1⟩
  tells a := by
    have all : kept (fields.write a) = fields.write a := List.filter_eq_self.mpr fun m among => by
      refine decide_eq_true ?_
      rintro same
      exact fields.plain (same ▸ fields.inside a m.1 (List.mem_map_of_mem among))
    rw [told_object, all]
    refine congrArg Value.object ((List.map_congr_left fun m among => ?_).trans (List.map_id _))
    exact Prod.ext rfl (fields.inner a m among).2
  keeps {v a} distinct ran := by
    cases v with
    | object members =>
      dsimp only at ran
      split_ifs at ran with strict
      obtain ⟨nodup, inner⟩ := distinct_object.mp distinct
      have kept_known : ∀ m ∈ kept members, m.1 ∈ fields.known := fun m among => by
        obtain ⟨here, other⟩ := List.mem_filter.mp among
        have known := List.all_eq_true.mp strict m here
        rw [decide_eq_true_eq] at known
        exact known.resolve_right (of_decide_eq_true other)
      have related := fields.keeps inner ran
      have perm : (names (kept members)).Perm (names (fields.write a)) := by
        refine (List.perm_ext_iff_of_nodup (nodup_kept nodup) (fields.distinct a)).mpr fun name => ⟨fun here => ?_, fun there => ?_⟩
        · obtain ⟨v, among⟩ := mem_names.mp here
          have relation := related name (kept_known _ among)
          rw [member_eq nodup (mem_kept among)] at relation
          cases found : member (fields.write a) name with
          | none =>
            rw [found] at relation
            cases relation
          | some w => exact mem_names.mpr ⟨w, mem_member found⟩
        · have known := fields.inside a name there
          obtain ⟨w, among⟩ := mem_names.mp there
          have relation := related name known
          rw [member_eq (fields.distinct a) among] at relation
          cases found : member members name with
          | none =>
            rw [found] at relation
            cases relation
          | some v =>
            refine mem_names.mpr ⟨v, List.mem_filter.mpr ⟨mem_member found, decide_eq_true ?_⟩⟩
            rintro rfl
            exact fields.plain known
      rw [told_object]
      refine same_object.mpr ⟨_, rfl, ?_, fun m among => ?_⟩
      · have lengths := perm.length_eq
        simpa [names] using lengths
      · obtain ⟨⟨name, v⟩, here, rfl⟩ := List.mem_map.mp among
        have relation := related name (kept_known _ here)
        rw [member_eq nodup (mem_kept here)] at relation
        cases found : member (fields.write a) name with
        | none =>
          rw [found] at relation
          cases relation
        | some w =>
          rw [found] at relation
          cases relation with
          | some same => exact ⟨w, mem_member found, same⟩
    | _ => cases ran

end

/-! ### Canonical texts -/

section
variable {α : Type} {schema : Schema α} {v w : Value} {a b : α}

/-- The order of the members that are read does not matter for the canonical text of what is written. -/
theorem Schema.canonicalJson_eq (schema : Schema α) (distinct : v.Distinct) (read : schema.read v = some a) :
    canonicalJson v = canonicalJson (schema.write a) := by
  rw [canonicalJson_eq_iff distinct (schema.distinct a), schema.tells]
  exact schema.keeps distinct read

/-- Values whose documents have one canonical text tell the same, and so do the documents. -/
theorem Schema.same (schema : Schema α) (distinct : v.Distinct) (distinct' : w.Distinct) (first : schema.read v = some a)
    (second : schema.read w = some b) (one : canonicalJson (schema.write a) = canonicalJson (schema.write b)) :
    Same (told v) (told w) ∧ Same (schema.write a) (schema.write b) := by
  constructor
  · rw [← canonicalJson_eq_iff distinct distinct', schema.canonicalJson_eq distinct first, schema.canonicalJson_eq distinct' second]
    exact one
  · have same := (canonicalJson_eq_iff (schema.distinct a) (schema.distinct b)).mp one
    rwa [schema.tells, schema.tells] at same

end

end AgentPey.JsonSchemas
