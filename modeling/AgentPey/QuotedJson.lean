import AgentPey.JsonTexts

/-!
`JSON.stringify` with an indentation of two, and with every `<` written as an escape afterwards: a text that holds no `<`, that
may stand between delimiters made of it, and that `JSON.parse` reads as it reads the text that was not indented.
-/
namespace AgentPey.QuotedJson
open JsonNumbers JsonValues JsonTexts
open List (flatMap_cons length_append length_cons map_map mem_cons)

def indent (depth : ℕ) : Text := unit '\n' :: List.replicate (2 * depth) (unit ' ')

def indented (depth : ℕ) : List Text → Text
  | [] => []
  | t :: rest => indent depth ++ t ++ rest.flatMap fun t => unit ',' :: (indent depth ++ t)

def block (opens closes : CodeUnit) (depth : ℕ) (texts : List Text) : Text :=
  if texts = [] then [opens, closes] else opens :: (indented (depth + 1) texts ++ indent depth ++ [closes])

/-- `JSON.stringify(value, null, 2)`, `depth` levels deep. -/
def pretty : Value → ℕ → Text :=
  Value.fold {
    null _ := units ['n', 'u', 'l', 'l']
    bool b _ := if b then units ['t', 'r', 'u', 'e'] else units ['f', 'a', 'l', 's', 'e']
    number n _ := numberText n
    string s _ := quote s
    array items depth := block (unit '[') (unit ']') depth (items.map fun item => item (depth + 1))
    object members depth :=
      block (unit '{') (unit '}') depth (members.map fun m => quote m.1 ++ unit ':' :: unit ' ' :: m.2 (depth + 1)) }

def angle : CodeUnit := unit '<'

/-- `text.replaceAll("<", "\\u003c")`. -/
def escapeAngle (text : Text) : Text := text.flatMap fun u => if u = angle then units ['\\', 'u', '0', '0', '3', 'c'] else [u]

def quoted (v : Value) : Text := escapeAngle (pretty v 0)

/-! ### Escapes -/

section
variable {s t : Text} {u : CodeUnit}

theorem pretty_array (items : List Value) (depth : ℕ) :
    pretty (.array items) depth = block (unit '[') (unit ']') depth (items.map fun v => pretty v (depth + 1)) := by
  simp only [pretty, fold_array, map_map]
  rfl

theorem pretty_object (members : Members Value) (depth : ℕ) :
    pretty (.object members) depth = block (unit '{') (unit '}') depth
      (members.map fun m => quote m.1 ++ unit ':' :: unit ' ' :: pretty m.2 (depth + 1)) := by
  simp only [pretty, fold_object, map_map]
  rfl

theorem angle_escapeAngle (text : Text) : angle ∉ escapeAngle text := by
  intro among
  obtain ⟨u, _, inside⟩ := List.mem_flatMap.mp among
  split_ifs at inside with same
  · exact absurd inside (by decide)
  · exact same (List.mem_singleton.mp inside).symm

theorem escapeAngle_append (s t : Text) : escapeAngle (s ++ t) = escapeAngle s ++ escapeAngle t := List.flatMap_append

theorem escapeAngle_cons (other : u ≠ angle) (t : Text) : escapeAngle (u :: t) = u :: escapeAngle t := by
  rw [escapeAngle, flatMap_cons, if_neg other]
  rfl

theorem escapeAngle_without (without : angle ∉ t) : escapeAngle t = t := by
  induction t with
  | nil => rfl
  | cons u rest ih =>
    rw [mem_cons, not_or] at without
    rw [escapeAngle_cons (Ne.symm without.1), ih without.2]

theorem length_escapeAngle (t : Text) : t.length ≤ (escapeAngle t).length := by
  induction t with
  | nil => exact Nat.le_refl 0
  | cons u rest ih =>
    by_cases same : u = angle
    · subst same
      have grown : (escapeAngle (angle :: rest)).length = 6 + (escapeAngle rest).length := by
        rw [escapeAngle, flatMap_cons, if_pos rfl, length_append]
        rfl
      rw [grown, length_cons]
      omega
    · rw [escapeAngle_cons same, length_cons, length_cons]
      omega

theorem without_indent (depth : ℕ) : angle ∉ indent depth := by
  intro among
  rcases mem_cons.mp among with same | space
  · exact absurd same (by decide)
  · exact absurd (List.eq_of_mem_replicate space) (by decide)

theorem without_number (n : Number) : angle ∉ numberText n := fun among => by
  rcases mem_numberText among with digit | mark
  · exact absurd digit (by decide)
  · exact absurd mark (by decide)

/-! ### Strings -/

theorem without_escape (other : u ≠ angle) : angle ∉ escape u := by
  have digit : ∀ n < 16, angle ≠ hexDigit n := fun n small => by
    have all : ∀ k : Fin 16, angle ≠ hexDigit k.1 := by decide
    exact all ⟨n, small⟩
  have bound := u.isLt
  rw [escape]
  split_ifs with marks b t n f r hidden
  · rcases marks with rfl | rfl <;> decide
  · decide
  · decide
  · decide
  · decide
  · decide
  · simp only [hexEscape, mem_cons, List.not_mem_nil, or_false, not_or]
    exact ⟨by decide, by decide, digit _ (by omega), digit _ (by omega), digit _ (by omega), digit _ (by omega)⟩
  · simpa using Ne.symm other

theorem escapeAngle_escape (u : CodeUnit) : escapeAngle (escape u) = if u = angle then hexEscape u else escape u := by
  split_ifs with same
  · subst same
    decide
  · exact escapeAngle_without (without_escape same)

theorem readUnits_angle (u : CodeUnit) (fuel : ℕ) (rest : Text) :
    readUnits (fuel + 1) (escapeAngle (escape u) ++ rest) = (readUnits fuel rest).map fun (s, rest) => (u :: s, rest) := by
  rw [escapeAngle_escape]
  split_ifs with same
  · have read := readUnit_hex u rest
    unfold hexEscape at read ⊢
    rw [List.cons_append] at read ⊢
    rw [readUnits, if_neg (by decide), read]
    rfl
  · exact readUnits_escape u fuel rest

theorem surrogate_not_angle (surrogate : isHigh u = true ∨ isLow u = true) : u ≠ angle := by
  rintro rfl
  exact absurd surrogate (by decide)

theorem readUnits_quoted (s rest : Text) {fuel : ℕ} (enough : s.length < fuel) :
    readUnits fuel (escapeAngle (quoteUnits s) ++ unit '"' :: rest) = some (s, rest) := by
  obtain ⟨more, rfl⟩ : ∃ more, fuel = s.length + 1 + more := ⟨fuel - (s.length + 1), by omega⟩
  clear enough
  fun_induction quoteUnits s with
  | case1 => rw [Nat.add_right_comm, escapeAngle, List.flatMap_nil, List.nil_append, readUnits_close]
  | case2 u =>
    rw [show [u].length + 1 + more = more + 1 + 1 by simp; omega, readUnits_angle, readUnits_close]
    rfl
  | case3 u v others pair ih =>
    rw [show (u :: v :: others).length + 1 + more = others.length + 1 + more + 1 + 1 by simp; omega,
      escapeAngle_cons (surrogate_not_angle (.inl pair.1)), escapeAngle_cons (surrogate_not_angle (.inr pair.2)), List.cons_append,
      List.cons_append, readUnits_surrogate (.inl pair.1), readUnits_surrogate (.inr pair.2), ih]
    rfl
  | case4 u v others apart ih =>
    rw [show (u :: v :: others).length + 1 + more = (v :: others).length + 1 + more + 1 by simp; omega, escapeAngle_append,
      List.append_assoc, readUnits_angle, ih]
    rfl

theorem quoted_quote (s rest : Text) :
    escapeAngle (quote s) ++ rest = unit '"' :: (escapeAngle (quoteUnits s) ++ unit '"' :: rest) := by
  rw [quote, escapeAngle_cons (by decide), escapeAngle_append]
  simp [escapeAngle, angle, unit]

theorem readString_quoted (s rest : Text) : readString (escapeAngle (quoteUnits s) ++ unit '"' :: rest) = some (s, rest) := by
  refine readUnits_quoted s rest ?_
  have := length_quoteUnits s
  have := length_escapeAngle (quoteUnits s)
  simp only [length_append, length_cons]
  omega

theorem indent_spaces (depth : ℕ) : ∀ u ∈ indent depth, isSpace u = true := by
  intro u among
  rcases mem_cons.mp among with rfl | space
  · decide
  · rw [List.eq_of_mem_replicate space]
    decide

theorem readName_quoted (name rest : Text) : readName (escapeAngle (quote name) ++ unit ':' :: rest) = some (name, rest) := by
  rw [quoted_quote, readName, skip_cons (by decide), expect, if_pos rfl]
  simp only [Option.bind_eq_bind, Option.bind_some, readString_quoted, skip_cons (show isSpace (unit ':') = false by decide),
    expect, if_true]
  rfl

/-! ### Blocks -/

/-- A value within a text, `depth` levels deep. -/
def quotedAt (v : Value) (depth : ℕ) : Text := escapeAngle (pretty v depth)

theorem indented_eq (depth : ℕ) (texts : List Text) : indented depth texts = commas (texts.map fun t => indent depth ++ t) := by
  cases texts with
  | nil => rfl
  | cons t rest => rw [indented, List.map_cons, commas, List.flatMap_map]

def closing (depth : ℕ) (texts : List Text) : Text := if texts = [] then [] else indent depth

theorem block_eq (opens closes : CodeUnit) (depth : ℕ) (texts : List Text) : block opens closes depth texts =
    opens :: (commas (texts.map fun t => indent (depth + 1) ++ t) ++ (closing depth texts ++ [closes])) := by
  unfold block closing
  split_ifs with empty
  · subst empty
    rfl
  · rw [indented_eq, List.append_assoc]

theorem closing_spaces (depth : ℕ) (texts : List Text) : ∀ u ∈ closing depth texts, isSpace u = true := by
  unfold closing
  split_ifs
  · exact List.forall_mem_nil _
  · exact indent_spaces depth

theorem escapeAngle_commas (texts : List Text) : escapeAngle (commas texts) = commas (texts.map escapeAngle) := by
  cases texts with
  | nil => rfl
  | cons t rest =>
    have others : escapeAngle (rest.flatMap fun t => unit ',' :: t) = (rest.map escapeAngle).flatMap fun t => unit ',' :: t := by
      induction rest with
      | nil => rfl
      | cons t more ih =>
        rw [flatMap_cons, escapeAngle_append, ih, escapeAngle_cons (by decide)]
        rfl
    rw [commas, escapeAngle_append, others]
    rfl

theorem escapeAngle_block {opens closes : CodeUnit} (opens_ : opens ≠ angle) (closes_ : closes ≠ angle) (depth : ℕ)
    (texts : List Text) : escapeAngle (block opens closes depth texts) = block opens closes depth (texts.map escapeAngle) := by
  have close : escapeAngle [closes] = [closes] := escapeAngle_cons closes_ []
  have spaces : escapeAngle (closing depth texts) = closing depth (texts.map escapeAngle) := by
    simp only [closing, List.map_eq_nil_iff]
    split_ifs
    · rfl
    · exact escapeAngle_without (without_indent depth)
  rw [block_eq, block_eq, escapeAngle_cons opens_, escapeAngle_append, escapeAngle_append, escapeAngle_commas, close, spaces,
    map_map, map_map]
  refine congrArg (fun texts => opens :: (commas texts ++ _)) (List.map_congr_left fun t _ => ?_)
  rw [Function.comp_apply, Function.comp_apply, escapeAngle_append, escapeAngle_without (without_indent (depth + 1))]

theorem quotedAt_array (items : List Value) (depth : ℕ) :
    quotedAt (.array items) depth = block (unit '[') (unit ']') depth (items.map fun v => quotedAt v (depth + 1)) := by
  rw [quotedAt, pretty_array, escapeAngle_block (by decide) (by decide), map_map]
  rfl

theorem quotedAt_object (members : Members Value) (depth : ℕ) :
    quotedAt (.object members) depth = block (unit '{') (unit '}') depth
      (members.map fun m => escapeAngle (quote m.1) ++ unit ':' :: unit ' ' :: quotedAt m.2 (depth + 1)) := by
  rw [quotedAt, pretty_object, escapeAngle_block (by decide) (by decide), map_map]
  refine congrArg (block _ _ depth) (List.map_congr_left fun m _ => ?_)
  simp only [Function.comp_apply]
  rw [escapeAngle_append, escapeAngle_cons (by decide), escapeAngle_cons (by decide)]
  rfl

theorem without_words {b : Bool} : angle ∉ (if b then units ['t', 'r', 'u', 'e'] else units ['f', 'a', 'l', 's', 'e']) := by
  cases b <;> decide

variable {v : Value}

theorem quotedAt_scalar (scalar : IsScalar v) (depth : ℕ) : quotedAt v depth = stringify v ∨ ∃ s, v = .string s := by
  cases v with
  | null => exact .inl (escapeAngle_without (t := units ['n', 'u', 'l', 'l']) (by decide))
  | bool b => exact .inl (escapeAngle_without without_words)
  | number n => exact .inl (escapeAngle_without (without_number n))
  | string s => exact .inr ⟨s, rfl⟩
  | array => exact scalar.elim
  | object => exact scalar.elim

/-! ### Reading -/

theorem spells_scalar_quoted (scalar : IsScalar v) (depth : ℕ) : Spells (quotedAt v depth) v := by
  rcases quotedAt_scalar scalar depth with same | ⟨s, rfl⟩
  · rw [same]
    exact spells_stringify v
  · have text := fun rest => quoted_quote s rest
    have alone := text []
    rw [List.append_nil] at alone
    change Spells (escapeAngle (quote s)) (.string s)
    rw [alone]
    refine spells_scalar trivial fun fuel rest _ => ?_
    rw [← alone, text, readValue]
    simp only [skip_cons (show isSpace (unit '"') = false by decide), if_neg (show unit '"' ≠ unit '[' by decide),
      if_neg (show unit '"' ≠ unit '{' by decide)]
    rw [readScalar, if_pos rfl, readString_quoted]
    rfl

/-- A value is read back, however deep it stands. -/
theorem spells_quoted (v : Value) : ∀ depth, Spells (quotedAt v depth) v := by
  induction v using Value.induction with
  | null => exact spells_scalar_quoted trivial
  | bool b => exact spells_scalar_quoted trivial
  | number n => exact spells_scalar_quoted trivial
  | string s => exact spells_scalar_quoted trivial
  | array items ih =>
    intro depth
    rw [quotedAt_array, block_eq, map_map]
    exact spells_array (closing_spaces _ _) fun v mem => (ih v mem (depth + 1)).spaced (indent_spaces (depth + 1))
  | object members ih =>
    intro depth
    have space : ∀ u ∈ [unit ' '], isSpace u = true := List.forall_mem_singleton.mpr (by decide)
    rw [quotedAt_object, block_eq, map_map]
    refine spells_object (closing_spaces _ _) fun m mem => SpellsMember.spaced (indent_spaces (depth + 1))
      ⟨escapeAngle (quote m.1) ++ [unit ':'], unit ' ' :: quotedAt m.2 (depth + 1), ?_, fun rest => ?_,
        (ih m mem (depth + 1)).spaced space⟩
    · simp
    · rw [List.append_assoc]
      exact readName_quoted m.1 rest

/-- A value at the start of a text, as `JSON.parse` reads it, and what follows. -/
def readJson (text : Text) : Option (Value × Text) := readValue (text.length + 1) text

theorem readJson_quoted (v : Value) {rest : Text} (stops : Stops rest) : readJson (quoted v ++ rest) = some (written v, rest) := by
  refine (spells_quoted v 0).read _ rest (Nat.le_succ_of_le ?_) stops
  rw [length_append]
  exact Nat.le_add_right_of_le (spells_quoted v 0).short

theorem parse_quoted (v : Value) {spaces : Text} (all : ∀ u ∈ spaces, isSpace u = true) :
    parse (quoted v ++ spaces) = some (written v) := (spells_quoted v 0).parse all

end

end AgentPey.QuotedJson
