import AgentPey.AgentPass
import AgentPey.JsonTexts

/-!
The canonical JSON of `ap2/jcs.ts`, which a checkout's terms are signed in: members sorted by name, numbers and strings as
`JSON.stringify` writes them, and only what I-JSON allows. Two values that it takes have the same text exactly when they are
equal up to the order of members, and the text is parsed to such a value.
-/
namespace AgentPey.Jcs
open AgentPass JsonNumbers JsonValues JsonTexts

def invalid {α : Type} (message : String) : Result α := .error (.AgentPassError "Ap2MandateInvalid" message [])

/-- A high surrogate without a low one after it, or a low one without a high one before it. -/
def loneSurrogate (afterHigh : Bool) : Text → Bool
  | [] => false
  | u :: rest => (isHigh u && !rest.head?.any isLow) || (isLow u && !afterHigh) || loneSurrogate (isHigh u) rest

def jcsString (s : Text) : Result Text :=
  if loneSurrogate false s then invalid "JCS cannot canonicalize a string with a lone surrogate" else .ok (quote s)

def jcsNumber (n : Number) : Result Text :=
  if n.isFinite then .ok (numberText n) else invalid "JCS cannot canonicalize a non-finite number"

/-- `map` with a function that may throw: the first that does ends it. -/
def collect : List (Result Text) → Result (List Text)
  | [] => .ok []
  | call :: rest => do
    let text ← call
    let texts ← collect rest
    return text :: texts

def jcsMember (m : Text × Result Text) : Result Text := do
  let name ← jcsString m.1
  let value ← m.2
  return name ++ unit ':' :: value

def jcsCanonicalize : Value → Result Text :=
  Value.fold {
    null := .ok (units ['n', 'u', 'l', 'l'])
    bool b := .ok (if b then units ['t', 'r', 'u', 'e'] else units ['f', 'a', 'l', 's', 'e'])
    number := jcsNumber
    string := jcsString
    array items := (collect items).map fun texts => unit '[' :: (commas texts ++ [unit ']'])
    object members :=
      (collect ((sortMembers members).map jcsMember)).map fun texts => unit '{' :: (commas texts ++ [unit '}']) }

/-- The values of I-JSON: finite numbers, and no lone surrogate in a string or a name. -/
def IJson : Value → Prop :=
  Value.fold {
    null := True
    bool _ := True
    number n := n.isFinite = true
    string s := loneSurrogate false s = false
    array items := ∀ p ∈ items, p
    object members := ∀ m ∈ members, loneSurrogate false m.1 = false ∧ m.2 }

theorem ijson_array {items : List Value} : IJson (.array items) ↔ ∀ v ∈ items, IJson v := by
  rw [IJson, fold_array]
  exact List.forall_mem_map

theorem ijson_object {members : Members Value} :
    IJson (.object members) ↔ ∀ m ∈ members, loneSurrogate false m.1 = false ∧ IJson m.2 := by
  rw [IJson, fold_object]
  exact List.forall_mem_map

theorem jcsString_eq_ok {s t : Text} : jcsString s = .ok t ↔ loneSurrogate false s = false ∧ t = quote s := by
  rw [jcsString]
  split
  next lone => simp [lone, invalid]
  next clean => simp [clean, eq_comm]

theorem collect_map {α : Type} {f : α → Result Text} {accepts : α → Prop} {text : α → Text} {l : List α}
    (each : ∀ a ∈ l, ∀ t, f a = .ok t ↔ accepts a ∧ t = text a) (ts : List Text) :
    collect (l.map f) = .ok ts ↔ (∀ a ∈ l, accepts a) ∧ ts = l.map text := by
  induction l generalizing ts with
  | nil => simp [collect, eq_comm]
  | cons a rest ih =>
    have others := ih fun b mem => each b (List.mem_cons_of_mem _ mem)
    show (f a >>= fun text => collect (rest.map f) >>= fun texts => pure (text :: texts)) = .ok ts ↔ _
    simp only [bind_eq_ok, each a (by simp), others, List.mem_cons, forall_eq_or_imp, List.map_cons]
    constructor
    · rintro ⟨_, ⟨accepted, rfl⟩, _, ⟨all, rfl⟩, same⟩
      exact ⟨⟨accepted, all⟩, (Except.ok.inj same).symm⟩
    · rintro ⟨⟨accepted, all⟩, rfl⟩
      exact ⟨_, ⟨accepted, rfl⟩, _, ⟨all, rfl⟩, rfl⟩

theorem jcsMember_eq_ok {m : Text × Value} (each : ∀ t, jcsCanonicalize m.2 = .ok t ↔ IJson m.2 ∧ t = stringify m.2.canon)
    (t : Text) : jcsMember (Prod.map id jcsCanonicalize m) = .ok t ↔
      (loneSurrogate false m.1 = false ∧ IJson m.2) ∧ t = member (m.1, stringify m.2.canon) := by
  show (jcsString m.1 >>= fun name => jcsCanonicalize m.2 >>= fun value => pure (name ++ unit ':' :: value)) = .ok t ↔ _
  simp only [bind_eq_ok, jcsString_eq_ok, each]
  constructor
  · rintro ⟨_, ⟨clean, rfl⟩, _, ⟨accepted, rfl⟩, same⟩
    exact ⟨⟨clean, accepted⟩, (Except.ok.inj same).symm⟩
  · rintro ⟨⟨clean, accepted⟩, rfl⟩
    exact ⟨_, ⟨clean, rfl⟩, _, ⟨accepted, rfl⟩, rfl⟩

theorem jcsCanonicalize_eq_ok (v : Value) (t : Text) : jcsCanonicalize v = .ok t ↔ IJson v ∧ t = stringify v.canon := by
  induction v using Value.induction generalizing t with
  | null => simp [jcsCanonicalize, IJson, Value.canon, Value.fold, stringify, eq_comm]
  | bool b => simp [jcsCanonicalize, IJson, Value.canon, Value.fold, stringify, eq_comm]
  | number n =>
    show jcsNumber n = .ok t ↔ n.isFinite = true ∧ t = numberText n.unsigned
    rw [jcsNumber, numberText_unsigned]
    split
    next finite => simp [finite, eq_comm]
    next wild => simp [wild, invalid]
  | string s => exact jcsString_eq_ok
  | array items ih =>
    have each := collect_map (l := items) (fun v mem t => ih v mem t)
    rw [jcsCanonicalize, fold_array]
    show (collect (items.map jcsCanonicalize)).map _ = _ ↔ _
    rw [map_eq_ok, ijson_array, canon_array, stringify_array, List.map_map]
    constructor
    · rintro ⟨texts, called, rfl⟩
      obtain ⟨all, rfl⟩ := (each texts).mp called
      exact ⟨all, rfl⟩
    · rintro ⟨all, rfl⟩
      exact ⟨_, (each _).mpr ⟨all, rfl⟩, rfl⟩
  | object members ih =>
    have inside : ∀ {m : Text × Value}, m ∈ sortMembers members → m ∈ members := (orderBy_perm members (· ≤ ·)).mem_iff.mp
    have each := collect_map (l := sortMembers members) (fun m mem t => jcsMember_eq_ok (fun t => ih m (inside mem) t) t)
    have mapped : (sortMembers (members.map (Prod.map id jcsCanonicalize))).map jcsMember =
        (sortMembers members).map fun m => jcsMember (Prod.map id jcsCanonicalize m) := by
      rw [sortMembers, orderBy_map, List.map_map]
      rfl
    have all_iff : (∀ m ∈ sortMembers members, loneSurrogate false m.1 = false ∧ IJson m.2) ↔ IJson (.object members) := by
      rw [ijson_object]
      exact forall_congr' fun m => imp_congr_left (orderBy_perm members (· ≤ ·)).mem_iff
    have sorted : stringify (Value.object members).canon =
        unit '{' :: (commas ((sortMembers members).map fun m => member (m.1, stringify m.2.canon)) ++ [unit '}']) := by
      rw [canon_object, stringify_object, sortMembers, orderBy_map, List.map_map]
      rfl
    rw [jcsCanonicalize, fold_object]
    show (collect ((sortMembers (members.map (Prod.map id jcsCanonicalize))).map jcsMember)).map _ = _ ↔ _
    rw [map_eq_ok, mapped, ← all_iff, sorted]
    constructor
    · rintro ⟨texts, called, rfl⟩
      obtain ⟨all, rfl⟩ := (each texts).mp called
      exact ⟨all, rfl⟩
    · rintro ⟨all, rfl⟩
      exact ⟨_, (each _).mpr ⟨all, rfl⟩, rfl⟩

variable {v : Value}

theorem IJson.canon (ijson : IJson v) : AllFinite v.canon := by
  induction v using Value.induction with
  | null => trivial
  | bool b => trivial
  | number n =>
    show n.unsigned.isFinite = true
    cases n with
    | finite => rfl
    | infinite => cases ijson
    | nan => cases ijson
  | string s => trivial
  | array items ih =>
    rw [canon_array, allFinite_array]
    intro w mem
    obtain ⟨v, inside, rfl⟩ := List.mem_map.mp mem
    exact ih v inside (ijson_array.mp ijson v inside)
  | object members ih =>
    rw [canon_object, allFinite_object]
    intro m mem
    obtain ⟨n, inside, rfl⟩ := List.mem_map.mp ((orderBy_perm _ (· ≤ ·)).mem_iff.mp mem)
    exact ih n inside (ijson_object.mp ijson n inside).2

/-- The text is parsed to the value, up to the order of members. -/
theorem parse_jcs (proper : v.Proper) {t : Text} (written_ : jcsCanonicalize v = .ok t) :
    ∃ w : JsonValue, parse t = some w.1 ∧ Same w.1 v := by
  obtain ⟨ijson, rfl⟩ := (jcsCanonicalize_eq_ok v t).mp written_
  refine ⟨⟨written v.canon, written_proper _⟩, parse_stringify _, ?_⟩
  rw [← canon_eq_iff (written_proper _).distinct, canon_written proper.distinct.canon ijson.canon, canon_canon proper.distinct]

/-- `jcs` takes the values of I-JSON and no others; two that it takes have the same text exactly when they are equal up to the order
    of members, and parsing the text gives the value back up to that order. -/
theorem jcs_canonical (a b : JsonValue) : ((∃ t, jcsCanonicalize a.1 = .ok t) ↔ IJson a.1) ∧
    ∀ s t, jcsCanonicalize a.1 = .ok s → jcsCanonicalize b.1 = .ok t →
      (s = t ↔ Same a.1 b.1) ∧ ∃ w : JsonValue, parse s = some w.1 ∧ Same w.1 a.1 := by
  refine ⟨⟨fun ⟨t, called⟩ => ((jcsCanonicalize_eq_ok _ t).mp called).1, fun ijson =>
    ⟨_, (jcsCanonicalize_eq_ok _ _).mpr ⟨ijson, rfl⟩⟩⟩, fun s t first second => ⟨?_, parse_jcs a.2 first⟩⟩
  rw [← canon_eq_iff a.2.distinct]
  constructor
  · -- the one text is parsed to a value that is the same as both
    rintro rfl
    obtain ⟨w, parsed, sameA⟩ := parse_jcs a.2 first
    obtain ⟨w', parsed', sameB⟩ := parse_jcs b.2 second
    obtain rfl : w = w' := Subtype.ext (Option.some.inj (parsed.symm.trans parsed'))
    rw [← (canon_eq_iff w.2.distinct _).mpr sameA, (canon_eq_iff w.2.distinct _).mpr sameB]
  · intro same
    obtain ⟨_, rfl⟩ := (jcsCanonicalize_eq_ok _ _).mp first
    obtain ⟨_, rfl⟩ := (jcsCanonicalize_eq_ok _ _).mp second
    rw [same]

end AgentPey.Jcs
