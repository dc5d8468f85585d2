import AgentPey.JsonValues

/-!
`JSON.stringify` and `JSON.parse`. A surrogate that has no partner is written as an escape, a number that is not finite as
`null`; the members of an object that is read are set in the order of the text, the last of one name standing. Reading what
was written gives the value back, but for the sign of a zero and for what is not finite.
-/
namespace AgentPey.JsonTexts
open JsonNumbers JsonValues

/-! ### Strings -/

def isHigh (u : CodeUnit) : Bool := 0xD800 ≤ u.val ∧ u.val ≤ 0xDBFF

def isLow (u : CodeUnit) : Bool := 0xDC00 ≤ u.val ∧ u.val ≤ 0xDFFF

def hexDigit (n : ℕ) : CodeUnit := Fin.ofNat 65536 (if n < 10 then 48 + n else 87 + n)

def hexEscape (u : CodeUnit) : Text :=
  [unit '\\', unit 'u', hexDigit (u.val / 4096), hexDigit (u.val / 256 % 16), hexDigit (u.val / 16 % 16), hexDigit (u.val % 16)]

def escape (u : CodeUnit) : Text :=
  if u = unit '"' ∨ u = unit '\\' then [unit '\\', u]
  else if u.val = 8 then units ['\\', 'b']
  else if u.val = 9 then units ['\\', 't']
  else if u.val = 10 then units ['\\', 'n']
  else if u.val = 12 then units ['\\', 'f']
  else if u.val = 13 then units ['\\', 'r']
  else if u.val < 32 ∨ isHigh u ∨ isLow u then hexEscape u
  else [u]

def quoteUnits : Text → Text
  | [] => []
  | [u] => escape u
  | u :: v :: rest => if isHigh u ∧ isLow v then u :: v :: quoteUnits rest else escape u ++ quoteUnits (v :: rest)

def quote (s : Text) : Text := unit '"' :: (quoteUnits s ++ [unit '"'])

def letterEscape (u : CodeUnit) : Option CodeUnit :=
  if u = unit '"' ∨ u = unit '\\' ∨ u = unit '/' then some u
  else if u = unit 'b' then some 8
  else if u = unit 't' then some 9
  else if u = unit 'n' then some 10
  else if u = unit 'f' then some 12
  else if u = unit 'r' then some 13
  else none

def hexValue (u : CodeUnit) : Option ℕ :=
  if 48 ≤ u.val ∧ u.val ≤ 57 then some (u.val - 48)
  else if 97 ≤ u.val ∧ u.val ≤ 102 then some (u.val - 87)
  else if 65 ≤ u.val ∧ u.val ≤ 70 then some (u.val - 55)
  else none

def hexUnit (a b c d : CodeUnit) : Option CodeUnit := do
  let a ← hexValue a
  let b ← hexValue b
  let c ← hexValue c
  let d ← hexValue d
  return Fin.ofNat 65536 (a * 4096 + b * 256 + c * 16 + d)

def readHex : Text → Option (CodeUnit × Text)
  | a :: b :: c :: d :: rest => (hexUnit a b c d).map fun u => (u, rest)
  | _ => none

def readEscape : Text → Option (CodeUnit × Text)
  | [] => none
  | letter :: rest =>
    match letterEscape letter with
    | some c => some (c, rest)
    | none => if letter = unit 'u' then readHex rest else none

def readUnit : Text → Option (CodeUnit × Text)
  | [] => none
  | u :: rest => if u = unit '\\' then readEscape rest else if u.val < 32 then none else some (u, rest)

/-- A string after its opening quote, and what follows the closing one; `fuel` bounds its length. -/
def readUnits : ℕ → Text → Option (Text × Text)
  | 0, _ => none
  | _ + 1, [] => none
  | fuel + 1, u :: rest =>
    if u = unit '"' then some ([], rest)
    else (readUnit (u :: rest)).bind fun (c, rest) => (readUnits fuel rest).map fun (s, rest) => (c :: s, rest)

def readString (text : Text) : Option (Text × Text) := readUnits text.length text

variable {n fuel : ℕ} {u : CodeUnit} {text : Text} {items : List Value}

theorem hexValue_hexDigit (small : n < 16) : hexValue (hexDigit n) = some n := by
  have all : ∀ k : Fin 16, hexValue (hexDigit k.1) = some k.1 := by decide
  exact all ⟨n, small⟩

theorem hexUnit_digits (u : CodeUnit) :
    hexUnit (hexDigit (u.val / 4096)) (hexDigit (u.val / 256 % 16)) (hexDigit (u.val / 16 % 16)) (hexDigit (u.val % 16)) =
      some u := by
  have bound := u.isLt
  rw [hexUnit, hexValue_hexDigit (by omega), hexValue_hexDigit (by omega), hexValue_hexDigit (by omega),
    hexValue_hexDigit (by omega)]
  show some (Fin.ofNat 65536 _) = some u
  rw [show u.val / 4096 * 4096 + u.val / 256 % 16 * 256 + u.val / 16 % 16 * 16 + u.val % 16 = u.val by omega]
  exact congrArg some (Fin.ext (Nat.mod_eq_of_lt bound))

theorem readUnit_hex (u : CodeUnit) (rest : Text) : readUnit (hexEscape u ++ rest) = some (u, rest) := by
  show (hexUnit _ _ _ _).map _ = _
  rw [hexUnit_digits]
  rfl

theorem readUnit_escape (u : CodeUnit) (rest : Text) : readUnit (escape u ++ rest) = some (u, rest) := by
  rw [escape]
  by_cases marks : u = unit '"' ∨ u = unit '\\'
  · rw [if_pos marks]
    rcases marks with rfl | rfl <;> rfl
  rw [if_neg marks]
  rw [not_or] at marks
  split_ifs with b t n f r hidden
  · obtain rfl : u = 8 := Fin.ext b
    rfl
  · obtain rfl : u = 9 := Fin.ext t
    rfl
  · obtain rfl : u = 10 := Fin.ext n
    rfl
  · obtain rfl : u = 12 := Fin.ext f
    rfl
  · obtain rfl : u = 13 := Fin.ext r
    rfl
  · exact readUnit_hex u rest
  · rw [List.singleton_append, readUnit, if_neg marks.2, if_neg fun low => hidden (.inl low)]

theorem escape_cons (u : CodeUnit) : ∃ first rest, escape u = first :: rest ∧ first ≠ unit '"' := by
  rw [escape]
  split_ifs with marks
  · exact ⟨_, _, rfl, by decide⟩
  · exact ⟨_, _, rfl, by decide⟩
  · exact ⟨_, _, rfl, by decide⟩
  · exact ⟨_, _, rfl, by decide⟩
  · exact ⟨_, _, rfl, by decide⟩
  · exact ⟨_, _, rfl, by decide⟩
  · exact ⟨_, _, rfl, by decide⟩
  · exact ⟨u, [], rfl, fun same => marks (.inl same)⟩

theorem readUnits_escape (u : CodeUnit) (fuel : ℕ) (rest : Text) :
    readUnits (fuel + 1) (escape u ++ rest) = (readUnits fuel rest).map fun (s, rest) => (u :: s, rest) := by
  obtain ⟨first, others, split, noQuote⟩ := escape_cons u
  have read := readUnit_escape u rest
  rw [split, List.cons_append] at read ⊢
  rw [readUnits, if_neg noQuote, read]
  rfl

theorem readUnits_surrogate (surrogate : isHigh u = true ∨ isLow u = true) (fuel : ℕ) (rest : Text) :
    readUnits (fuel + 1) (u :: rest) = (readUnits fuel rest).map fun (s, rest) => (u :: s, rest) := by
  have above : 0xD800 ≤ u.val := by
    simp only [isHigh, isLow, decide_eq_true_eq] at surrogate
    omega
  have noQuote : u ≠ unit '"' := by
    rintro rfl
    exact absurd above (by decide)
  have noSlash : u ≠ unit '\\' := by
    rintro rfl
    exact absurd above (by decide)
  rw [readUnits, if_neg noQuote, readUnit, if_neg noSlash, if_neg (by omega)]
  rfl

theorem readUnits_close (fuel : ℕ) (rest : Text) : readUnits (fuel + 1) (unit '"' :: rest) = some ([], rest) := rfl

/-- A string that is written is read back, whatever its surrogates. -/
theorem readUnits_quoteUnits (s rest : Text) (enough : s.length < fuel) :
    readUnits fuel (quoteUnits s ++ unit '"' :: rest) = some (s, rest) := by
  obtain ⟨more, rfl⟩ : ∃ more, fuel = s.length + 1 + more := ⟨fuel - (s.length + 1), by omega⟩
  clear enough
  fun_induction quoteUnits s with
  | case1 => rw [Nat.add_right_comm, List.nil_append, readUnits_close]
  | case2 u =>
    rw [show [u].length + 1 + more = more + 1 + 1 by simp; omega, readUnits_escape, readUnits_close]
    rfl
  | case3 u v others pair ih =>
    rw [show (u :: v :: others).length + 1 + more = others.length + 1 + more + 1 + 1 by simp; omega, List.cons_append,
      List.cons_append, readUnits_surrogate (.inl pair.1), readUnits_surrogate (.inr pair.2), ih]
    rfl
  | case4 u v others apart ih =>
    rw [show (u :: v :: others).length + 1 + more = (v :: others).length + 1 + more + 1 by simp; omega, List.append_assoc,
      readUnits_escape, ih]
    rfl

theorem length_quoteUnits (s : Text) : s.length ≤ (quoteUnits s).length := by
  have some_ : ∀ u, 1 ≤ (escape u).length := by
    intro u
    obtain ⟨first, rest, split, _⟩ := escape_cons u
    simp [split]
  fun_induction quoteUnits s with
  | case1 => simp
  | case2 u => exact some_ u
  | case3 u v others pair ih => simpa using ih
  | case4 u v others apart ih =>
    have := some_ u
    simp only [List.length_append, List.length_cons] at ih ⊢
    omega

theorem readString_quote (s rest : Text) : readString (quoteUnits s ++ unit '"' :: rest) = some (s, rest) := by
  refine readUnits_quoteUnits s rest ?_
  have := length_quoteUnits s
  simp only [List.length_append, List.length_cons]
  omega

/-! ### Values -/

def commas : List Text → Text
  | [] => []
  | t :: rest => t ++ rest.flatMap fun t => unit ',' :: t

def member (m : Text × Text) : Text := quote m.1 ++ unit ':' :: m.2

/-- `JSON.stringify`. -/
def stringify : Value → Text :=
  Value.fold {
    null := units ['n', 'u', 'l', 'l']
    bool b := if b then units ['t', 'r', 'u', 'e'] else units ['f', 'a', 'l', 's', 'e']
    number := numberText
    string := quote
    array items := unit '[' :: (commas items ++ [unit ']'])
    object members := unit '{' :: (commas (members.map member) ++ [unit '}']) }

def isSpace (u : CodeUnit) : Bool := u.val = 9 ∨ u.val = 10 ∨ u.val = 13 ∨ u.val = 32

def skip (text : Text) : Text := text.dropWhile isSpace

/-- The rest of a text that starts with a given unit. -/
def expect (u : CodeUnit) : Text → Option Text
  | [] => none
  | v :: rest => if v = u then some rest else none

def readWord (word : Text) (value : Value) (text : Text) : Option (Value × Text) :=
  if word.isPrefixOf text then some (value, text.drop word.length) else none

/-- A value that is not an array or an object. -/
def readScalar : Text → Option (Value × Text)
  | [] => none
  | u :: rest =>
    if u = unit '"' then (readString rest).map fun (s, rest) => (.string s, rest)
    else if u = unit 'n' then readWord (units ['n', 'u', 'l', 'l']) .null (u :: rest)
    else if u = unit 't' then readWord (units ['t', 'r', 'u', 'e']) (.bool true) (u :: rest)
    else if u = unit 'f' then readWord (units ['f', 'a', 'l', 's', 'e']) (.bool false) (u :: rest)
    else (readNumber (u :: rest)).map fun (n, rest) => (.number n, rest)

def readName (text : Text) : Option (Text × Text) := do
  let rest ← expect (unit '"') (skip text)
  let (name, rest) ← readString rest
  let rest ← expect (unit ':') (skip rest)
  return (name, rest)

mutual

/-- A value at the start of a text, and what follows it; `fuel` bounds the depth. -/
def readValue : ℕ → Text → Option (Value × Text)
  | 0, _ => none
  | fuel + 1, text =>
    match skip text with
    | [] => none
    | u :: rest =>
      if u = unit '[' then
        match expect (unit ']') (skip rest) with
        | some rest => some (.array [], rest)
        | none => do
          let (v, rest) ← readValue fuel rest
          let (items, rest) ← readItems fuel rest
          return (.array (v :: items), rest)
      else if u = unit '{' then
        match expect (unit '}') (skip rest) with
        | some rest => some (.object [], rest)
        | none => do
          let (name, rest) ← readName rest
          let (v, rest) ← readValue fuel rest
          let (members, rest) ← readMembers fuel rest
          return (.object (assign ((name, v) :: members)), rest)
      else readScalar (u :: rest)

def readItems : ℕ → Text → Option (List Value × Text)
  | 0, _ => none
  | fuel + 1, text =>
    match expect (unit ',') (skip text) with
    | some rest => do
      let (v, rest) ← readValue fuel rest
      let (items, rest) ← readItems fuel rest
      return (v :: items, rest)
    | none => (expect (unit ']') (skip text)).map fun rest => ([], rest)

def readMembers : ℕ → Text → Option (Members Value × Text)
  | 0, _ => none
  | fuel + 1, text =>
    match expect (unit ',') (skip text) with
    | some rest => do
      let (name, rest) ← readName rest
      let (v, rest) ← readValue fuel rest
      let (members, rest) ← readMembers fuel rest
      return ((name, v) :: members, rest)
    | none => (expect (unit '}') (skip text)).map fun rest => ([], rest)

end

/-- `JSON.parse`: one value, and nothing after it but white space. -/
def parse (text : Text) : Option Value := do
  let (v, rest) ← readValue (text.length + 1) text
  if skip rest = [] then some v else none

/-- What reading gives of a value that was written. -/
def written : Value → Value :=
  Value.fold {
    null := .null
    bool := .bool
    number n := if n.isFinite then .number n.unsigned else .null
    string := .string
    array := .array
    object members := .object (assign members) }

/-- The rounds that reading a written value takes. -/
def rounds : Value → ℕ :=
  Value.fold {
    null := 1
    bool _ := 1
    number _ := 1
    string _ := 1
    array items := 1 + (items.map (· + 1)).sum
    object members := 1 + (members.map (·.2 + 1)).sum }

theorem stringify_array (items : List Value) :
    stringify (.array items) = unit '[' :: (commas (items.map stringify) ++ [unit ']']) := by
  rw [stringify, fold_array]

theorem stringify_object (members : Members Value) : stringify (.object members) =
      unit '{' :: (commas (members.map fun m => member (m.1, stringify m.2)) ++ [unit '}']) := by
  simp only [stringify, fold_object, List.map_map]
  rfl

theorem written_array (items : List Value) : written (.array items) = .array (items.map written) := by
  rw [written, fold_array]

theorem written_object (members : Members Value) :
    written (.object members) = .object (assign (members.map (Prod.map id written))) := by
  rw [written, fold_object]

theorem rounds_array (items : List Value) : rounds (.array items) = 1 + (items.map fun v => rounds v + 1).sum := by
  simp only [rounds, fold_array, List.map_map]
  rfl

theorem rounds_object (members : Members Value) :
    rounds (.object members) = 1 + (members.map fun m => rounds m.2 + 1).sum := by
  simp only [rounds, fold_object, List.map_map]
  rfl

section
variable {rest : Text}

variable {u : CodeUnit}

theorem skip_cons (shown : isSpace u = false) (rest : Text) : skip (u :: rest) = u :: rest := by
  simp [skip, shown]

theorem skip_spaces {spaces : Text} (all : ∀ u ∈ spaces, isSpace u = true) (rest : Text) : skip (spaces ++ rest) = skip rest := by
  unfold skip
  rw [List.dropWhile_append_of_pos all]

theorem stops_space (space : isSpace u = true) : isDigit u = false ∧ u ≠ unit '.' ∧ u ≠ unit 'e' ∧ u ≠ unit 'E' := by
  simp only [isSpace, decide_eq_true_eq] at space
  refine ⟨?_, ?_, ?_, ?_⟩
  · simp only [isDigit, decide_eq_false_iff_not]
    omega
  all_goals
    rintro rfl
    exact absurd space (by decide)

theorem numberText_null {n : Number} (wild : n.isFinite = false) : numberText n = units ['n', 'u', 'l', 'l'] := by
  cases n with
  | finite => cases wild
  | infinite => rfl
  | nan => rfl

theorem number_first {w : CodeUnit} (first : isDigit u = true ∨ u = unit '-') (noDigit : isDigit w = false)
    (noSign : w ≠ unit '-') : u ≠ w := by
  rintro rfl
  rcases first with digit | sign
  · rw [noDigit] at digit
    cases digit
  · exact noSign sign

def IsScalar : Value → Prop
  | .array _ => False
  | .object _ => False
  | _ => True

theorem composite_cases {v : Value} (composite : ¬IsScalar v) : (∃ items, v = .array items) ∨ ∃ members, v = .object members := by
  cases v with
  | array items => exact .inl ⟨items, rfl⟩
  | object members => exact .inr ⟨members, rfl⟩
  | null => exact absurd trivial composite
  | bool => exact absurd trivial composite
  | number => exact absurd trivial composite
  | string => exact absurd trivial composite

/-- The first unit of a value's text: no space, and nothing that closes an array or an object. -/
theorem stringify_cons (v : Value) : ∃ u text, stringify v = u :: text ∧ isSpace u = false ∧ u ≠ unit ']' ∧
    (IsScalar v → u ≠ unit '[' ∧ u ≠ unit '{') := by
  cases v with
  | null => exact ⟨_, _, rfl, by decide, by decide, fun _ => by decide⟩
  | bool b => cases b <;> exact ⟨_, _, rfl, by decide, by decide, fun _ => by decide⟩
  | string s => exact ⟨_, _, rfl, by decide, by decide, fun _ => by decide⟩
  | array items => exact ⟨_, _, stringify_array items, by decide, by decide, False.elim⟩
  | object members => exact ⟨_, _, stringify_object members, by decide, by decide, False.elim⟩
  | number n =>
    by_cases finite : n.isFinite = true
    · obtain ⟨u, text, split, first⟩ := numberText_cons finite
      have other := fun w => number_first (w := w) first
      have shown : isSpace u = false := by
        rcases first with digit | rfl
        · simp only [isDigit, decide_eq_true_eq] at digit
          simp only [isSpace, decide_eq_false_iff_not]
          omega
        · decide
      exact ⟨u, text, split, shown, other _ (by decide) (by decide), fun _ =>
        ⟨other _ (by decide) (by decide), other _ (by decide) (by decide)⟩⟩
    · have null : stringify (.number n) = units ['n', 'u', 'l', 'l'] := numberText_null (Bool.eq_false_iff.mpr finite)
      exact ⟨_, _, null, by decide, by decide, fun _ => by decide⟩

theorem readWord_append (word : Text) (v : Value) (rest : Text) : readWord word v (word ++ rest) = some (v, rest) := by
  rw [readWord, if_pos (List.isPrefixOf_iff_prefix.mpr (List.prefix_append ..)), List.drop_left]

theorem readName_text (name rest : Text) : readName (quote name ++ unit ':' :: rest) = some (name, rest) := by
  have text : quote name ++ unit ':' :: rest = unit '"' :: (quoteUnits name ++ unit '"' :: unit ':' :: rest) := by
    simp [quote]
  rw [text, readName, skip_cons (by decide), expect, if_pos rfl]
  simp only [Option.bind_eq_bind, Option.bind_some, readString_quote, skip_cons (show isSpace (unit ':') = false by decide),
    expect, if_true]
  rfl

theorem readScalar_text {v : Value} (scalar : IsScalar v) (stops : Stops rest) :
    readScalar (stringify v ++ rest) = some (written v, rest) := by
  cases v with
  | null => exact readWord_append (units ['n', 'u', 'l', 'l']) .null rest
  | bool b =>
    cases b
    · exact readWord_append (units ['f', 'a', 'l', 's', 'e']) (.bool false) rest
    · exact readWord_append (units ['t', 'r', 'u', 'e']) (.bool true) rest
  | string s =>
    have text : stringify (.string s) ++ rest = unit '"' :: (quoteUnits s ++ unit '"' :: rest) := by
      simp [stringify, Value.fold, quote]
    rw [text, readScalar, if_pos rfl, readString_quote]
    rfl
  | array => exact scalar.elim
  | object => exact scalar.elim
  | number n =>
    show readScalar (numberText n ++ rest) = some (if n.isFinite then .number n.unsigned else .null, rest)
    by_cases finite : n.isFinite = true
    · obtain ⟨u, text, split, first⟩ := numberText_cons finite
      have other := fun w => number_first (w := w) first
      have read := readNumber_text finite stops
      rw [split, List.cons_append] at read ⊢
      rw [readScalar, if_neg (other _ (by decide) (by decide)), if_neg (other _ (by decide) (by decide)),
        if_neg (other _ (by decide) (by decide)), if_neg (other _ (by decide) (by decide)), read, if_pos finite]
      rfl
    · rw [numberText_null (Bool.eq_false_iff.mpr finite), if_neg finite]
      exact readWord_append (units ['n', 'u', 'l', 'l']) .null rest

theorem readValue_scalar {v : Value} (scalar : IsScalar v) (fuel : ℕ) (stops : Stops rest) :
    readValue (fuel + 1) (stringify v ++ rest) = some (written v, rest) := by
  obtain ⟨u, text, split, shown, _, opens⟩ := stringify_cons v
  obtain ⟨noArray, noObject⟩ := opens scalar
  have read := readScalar_text scalar stops
  rw [split, List.cons_append] at read ⊢
  simp only [readValue, skip_cons shown, if_neg noArray, if_neg noObject, read]

end

theorem closed_of_read {read : Value × Text} (reads : readValue fuel text = some read) :
    expect (unit ']') (skip text) = none := by
  cases fuel with
  | zero => cases reads
  | succ fuel =>
    rw [readValue] at reads
    cases there : skip text with
    | nil => rfl
    | cons u more =>
      by_cases same : u = unit ']'
      · subst same
        rw [there] at reads
        cases reads
      · exact if_neg same

theorem closed_of_name {read : Text × Text} (reads : readName text = some read) : expect (unit '}') (skip text) = none := by
  rw [readName] at reads
  cases there : skip text with
  | nil => rfl
  | cons u more =>
    by_cases same : u = unit '}'
    · subst same
      rw [there] at reads
      cases reads
    · exact if_neg same

/-- A text that is read as a value whatever stands after it, and is as long as the rounds that this takes. -/
structure Spells (text : Text) (v : Value) : Prop where
  short : rounds v ≤ text.length
  read : ∀ fuel rest, rounds v ≤ fuel → Stops rest → readValue fuel (text ++ rest) = some (written v, rest)

def SpellsMember (text : Text) (m : Text × Value) : Prop :=
  ∃ name value, text = name ++ value ∧ (∀ rest, readName (name ++ rest) = some (m.1, rest)) ∧ Spells value m.2

theorem spells_scalar {v : Value} (scalar : IsScalar v)
    (read : ∀ fuel rest, Stops rest → readValue (fuel + 1) (u :: text ++ rest) = some (written v, rest)) : Spells (u :: text) v := by
  have one : rounds v = 1 := by
    cases v with
    | array => exact scalar.elim
    | object => exact scalar.elim
    | null => rfl
    | bool => rfl
    | number => rfl
    | string => rfl
  refine ⟨by simp [one], fun fuel rest enough stops => ?_⟩
  obtain ⟨fuel, rfl⟩ : ∃ more, fuel = more + 1 := ⟨fuel - 1, by omega⟩
  exact read fuel rest stops

theorem length_commas (texts : List Text) : (texts.map fun t => t.length + 1).sum ≤ (commas texts).length + 1 := by
  cases texts with
  | nil => simp [commas]
  | cons t rest =>
    have tail : ((rest.map fun t => t.length + 1).sum) = (rest.flatMap fun t => unit ',' :: t).length := by
      simp [List.length_flatMap]
    simp only [List.map_cons, List.sum_cons, commas, List.length_append, tail]
    omega

section
variable {spaces : Text} (all : ∀ u ∈ spaces, isSpace u = true)
include all

theorem readValue_spaces (fuel : ℕ) (rest : Text) : readValue fuel (spaces ++ rest) = readValue fuel rest := by
  cases fuel with
  | zero => rfl
  | succ fuel => rw [readValue, readValue, skip_spaces all]

variable {text : Text}

theorem Spells.spaced {v : Value} (spells : Spells text v) : Spells (spaces ++ text) v where
  short := by
    rw [List.length_append]
    exact Nat.le_add_left_of_le spells.short
  read fuel rest enough stops := by rw [List.append_assoc, readValue_spaces all, spells.read fuel rest enough stops]

theorem SpellsMember.spaced {m : Text × Value} (spells : SpellsMember text m) : SpellsMember (spaces ++ text) m := by
  obtain ⟨name, value, rfl, named, spells⟩ := spells
  refine ⟨spaces ++ name, value, (List.append_assoc ..).symm, fun rest => ?_, spells⟩
  rw [List.append_assoc, readName, skip_spaces all]
  exact named rest

theorem stops_commas (texts : List Text) {mark : CodeUnit} (closes : mark = unit ']' ∨ mark = unit '}') (rest : Text) :
    Stops (texts.flatMap (fun t => unit ',' :: t) ++ (spaces ++ mark :: rest)) := by
  intro u first
  cases texts with
  | nil =>
    cases spaces with
    | nil =>
      obtain rfl : mark = u := by simpa using first
      rcases closes with rfl | rfl <;> decide
    | cons space others =>
      obtain rfl : space = u := by simpa using first
      exact stops_space (all space List.mem_cons_self)
  | cons t more =>
    obtain rfl : unit ',' = u := by simpa using first
    decide

variable {spell : Value → Text} {items : List Value} {line : Text × Value → Text} {members : Members Value}

theorem readItems_spelled (each : ∀ v ∈ items, Spells (spell v) v) (fuel : ℕ) (rest : Text)
    (enough : (items.map fun v => rounds v + 1).sum < fuel) :
    readItems fuel ((items.map spell).flatMap (fun t => unit ',' :: t) ++ (spaces ++ unit ']' :: rest)) =
      some (items.map written, rest) := by
  induction items generalizing fuel with
  | nil =>
    obtain ⟨fuel, rfl⟩ : ∃ more, fuel = more + 1 := ⟨fuel - 1, by omega⟩
    simp only [List.map_nil, List.flatMap_nil, List.nil_append, readItems, skip_spaces all,
      skip_cons (show isSpace (unit ']') = false by decide)]
    rfl
  | cons v others ih =>
    simp only [List.map_cons, List.sum_cons] at enough
    obtain ⟨fuel, rfl⟩ : ∃ more, fuel = more + 1 := ⟨fuel - 1, by omega⟩
    have first := (each v List.mem_cons_self).read fuel _ (by omega) (stops_commas all (others.map spell) (.inl rfl) rest)
    have next := ih (fun w mem => each w (List.mem_cons_of_mem _ mem)) fuel (by omega)
    simp only [List.map_cons, List.flatMap_cons, List.cons_append, List.append_assoc, readItems,
      skip_cons (show isSpace (unit ',') = false by decide), expect, if_true, Option.bind_eq_bind, first, Option.bind_some, next]
    rfl

theorem readMembers_spelled (each : ∀ m ∈ members, SpellsMember (line m) m) (fuel : ℕ) (rest : Text)
    (enough : (members.map fun m => rounds m.2 + 1).sum < fuel) :
    readMembers fuel ((members.map line).flatMap (fun t => unit ',' :: t) ++ (spaces ++ unit '}' :: rest)) =
      some (members.map (Prod.map id written), rest) := by
  induction members generalizing fuel with
  | nil =>
    obtain ⟨fuel, rfl⟩ : ∃ more, fuel = more + 1 := ⟨fuel - 1, by omega⟩
    simp only [List.map_nil, List.flatMap_nil, List.nil_append, readMembers, skip_spaces all,
      skip_cons (show isSpace (unit '}') = false by decide)]
    rfl
  | cons m others ih =>
    simp only [List.map_cons, List.sum_cons] at enough
    obtain ⟨fuel, rfl⟩ : ∃ more, fuel = more + 1 := ⟨fuel - 1, by omega⟩
    obtain ⟨name, value, split, named, spells⟩ := each m List.mem_cons_self
    have first := spells.read fuel _ (by omega) (stops_commas all (others.map line) (.inr rfl) rest)
    have next := ih (fun n mem => each n (List.mem_cons_of_mem _ mem)) fuel (by omega)
    simp only [List.map_cons, List.flatMap_cons, split, List.cons_append, List.append_assoc, readMembers,
      skip_cons (show isSpace (unit ',') = false by decide), expect, if_true, Option.bind_eq_bind, named, Option.bind_some, first,
      next]
    rfl

theorem spells_array (each : ∀ v ∈ items, Spells (spell v) v) :
    Spells (unit '[' :: (commas (items.map spell) ++ (spaces ++ [unit ']']))) (.array items) where
  short := by
    have each_ : (items.map fun v => rounds v + 1).sum ≤ ((items.map spell).map fun t => t.length + 1).sum := by
      rw [List.map_map]
      exact List.sum_le_sum fun v mem => Nat.succ_le_succ (each v mem).short
    have whole := length_commas (items.map spell)
    simp only [rounds_array, List.length_cons, List.length_append, List.length_nil]
    omega
  read fuel rest enough _ := by
    rw [rounds_array] at enough
    obtain ⟨fuel, rfl⟩ : ∃ more, fuel = more + 1 := ⟨fuel - 1, by omega⟩
    rw [written_array, readValue]
    cases items with
    | nil =>
      simp only [List.map_nil, commas, List.nil_append, List.cons_append, List.append_assoc,
        skip_cons (show isSpace (unit '[') = false by decide), skip_spaces all,
        skip_cons (show isSpace (unit ']') = false by decide)]
      rfl
    | cons v others =>
      simp only [List.map_cons, List.sum_cons] at enough
      have first := (each v List.mem_cons_self).read fuel _ (by omega) (stops_commas all (others.map spell) (.inl rfl) rest)
      have others_ := readItems_spelled all (fun w mem => each w (List.mem_cons_of_mem _ mem)) fuel rest (by omega)
      simp only [List.map_cons, commas, List.cons_append, List.append_assoc, List.nil_append,
        skip_cons (show isSpace (unit '[') = false by decide), if_true, closed_of_read first, Option.bind_eq_bind, first,
        Option.bind_some, others_]
      rfl

theorem spells_object (each : ∀ m ∈ members, SpellsMember (line m) m) :
    Spells (unit '{' :: (commas (members.map line) ++ (spaces ++ [unit '}']))) (.object members) where
  short := by
    have each_ : (members.map fun m => rounds m.2 + 1).sum ≤ ((members.map line).map fun t => t.length + 1).sum := by
      rw [List.map_map]
      refine List.sum_le_sum fun m mem => Nat.succ_le_succ ?_
      obtain ⟨name, value, split, _, spells⟩ := each m mem
      rw [split, List.length_append]
      exact Nat.le_add_left_of_le spells.short
    have whole := length_commas (members.map line)
    simp only [rounds_object, List.length_cons, List.length_append, List.length_nil]
    omega
  read fuel rest enough _ := by
    rw [rounds_object] at enough
    obtain ⟨fuel, rfl⟩ : ∃ more, fuel = more + 1 := ⟨fuel - 1, by omega⟩
    rw [written_object, readValue]
    cases members with
    | nil =>
      simp only [List.map_nil, commas, List.nil_append, List.cons_append, List.append_assoc,
        skip_cons (show isSpace (unit '{') = false by decide), if_neg (show unit '{' ≠ unit '[' by decide), skip_spaces all,
        skip_cons (show isSpace (unit '}') = false by decide)]
      rfl
    | cons m others =>
      simp only [List.map_cons, List.sum_cons] at enough
      obtain ⟨name, value, split, named, spells⟩ := each m List.mem_cons_self
      have first := spells.read fuel _ (by omega) (stops_commas all (others.map line) (.inr rfl) rest)
      have others_ := readMembers_spelled all (fun n mem => each n (List.mem_cons_of_mem _ mem)) fuel rest (by omega)
      simp only [List.map_cons, commas, split, List.cons_append, List.append_assoc, List.nil_append,
        skip_cons (show isSpace (unit '{') = false by decide), if_neg (show unit '{' ≠ unit '[' by decide), if_true,
        closed_of_name (named _), Option.bind_eq_bind, named, first, Option.bind_some, others_]
      rfl

end

theorem spells_stringify (v : Value) : Spells (stringify v) v := by
  have scalar : ∀ v : Value, IsScalar v → Spells (stringify v) v := by
    intro v scalar
    obtain ⟨u, text, split, _⟩ := stringify_cons v
    have read : ∀ fuel rest, Stops rest → readValue (fuel + 1) (stringify v ++ rest) = some (written v, rest) :=
      fun fuel rest stops => readValue_scalar scalar fuel stops
    rw [split] at read ⊢
    exact spells_scalar scalar read
  induction v using Value.induction with
  | null => exact scalar _ trivial
  | bool b => exact scalar _ trivial
  | number n => exact scalar _ trivial
  | string s => exact scalar _ trivial
  | array items ih =>
    rw [stringify_array]
    exact spells_array (List.forall_mem_nil _) ih
  | object members ih =>
    rw [stringify_object]
    refine spells_object (List.forall_mem_nil _) fun m mem => ⟨quote m.1 ++ [unit ':'], stringify m.2, ?_, fun rest => ?_, ih m mem⟩
    · simp [member]
    · rw [List.append_assoc]
      exact readName_text m.1 rest

/-- A text that is read as a value is parsed, with white space after it or none. -/
theorem Spells.parse {spaces : Text} {v : Value} (spells : Spells text v) (all : ∀ u ∈ spaces, isSpace u = true) :
    parse (text ++ spaces) = some (written v) := by
  have stops : Stops spaces := fun u first => stops_space (all u (List.mem_of_head? first))
  have skipped : skip spaces = [] := (congrArg skip (List.append_nil spaces)).symm.trans (skip_spaces all [])
  have enough : rounds v ≤ (text ++ spaces).length + 1 := by
    rw [List.length_append, Nat.add_assoc]
    exact Nat.le_add_right_of_le spells.short
  rw [JsonTexts.parse, spells.read _ spaces enough stops]
  simp only [Option.bind_eq_bind, Option.bind_some, skipped, if_true]

/-- What is written is parsed to what reading gives of it. -/
theorem parse_stringify (v : Value) : parse (stringify v) = some (written v) := by
  have parsed := (spells_stringify v).parse (List.forall_mem_nil _)
  rwa [List.append_nil] at parsed

theorem written_of_stringify {a b : Value} (same : stringify a = stringify b) : written a = written b := by
  have parsed := parse_stringify a
  rw [same, parse_stringify] at parsed
  exact (Option.some.inj parsed).symm

/-! ### What reading gives -/

theorem written_proper (v : Value) : (written v).Proper := by
  induction v using Value.induction with
  | null => trivial
  | bool b => trivial
  | number n =>
    show (if n.isFinite then Value.number n.unsigned else .null).Proper
    split <;> trivial
  | string s => trivial
  | array items ih =>
    rw [written_array, proper_array]
    intro w mem
    obtain ⟨v, inside, rfl⟩ := List.mem_map.mp mem
    exact ih v inside
  | object members ih =>
    rw [written_object, proper_object]
    refine ⟨assign_enumerated _, fun m mem => ?_⟩
    obtain ⟨n, inside, rfl⟩ := List.mem_map.mp (mem_assign mem)
    exact ih n inside

variable {v : Value}

theorem readScalar_proper {rest : Text} (read : readScalar text = some (v, rest)) : v.Proper := by
  cases text with
  | nil => cases read
  | cons u more =>
    rw [readScalar] at read
    have word : ∀ {w : Text} {x : Value} {t : Text}, readWord w x t = some (v, rest) → v = x := by
      intro w x t read
      rw [readWord] at read
      split at read
      · exact (Prod.mk.inj (Option.some.inj read)).1.symm
      · cases read
    split_ifs at read
    · obtain ⟨⟨s, after⟩, _, same⟩ := Option.map_eq_some_iff.mp read
      obtain rfl : Value.string s = v := (Prod.mk.inj same).1
      trivial
    · rw [word read]; trivial
    · rw [word read]; trivial
    · rw [word read]; trivial
    · obtain ⟨⟨n, after⟩, _, same⟩ := Option.map_eq_some_iff.mp read
      obtain rfl : Value.number n = v := (Prod.mk.inj same).1
      trivial

/-- Whatever is read is a value that JavaScript can hold. -/
theorem read_proper (fuel : ℕ) : (∀ text v rest, readValue fuel text = some (v, rest) → v.Proper) ∧
    (∀ text items rest, readItems fuel text = some (items, rest) → ∀ v ∈ items, v.Proper) ∧
    ∀ text members rest, readMembers fuel text = some (members, rest) → ∀ m ∈ members, m.2.Proper := by
  induction fuel with
  | zero => exact ⟨fun _ _ _ read => (by cases read), fun _ _ _ read => (by cases read), fun _ _ _ read => (by cases read)⟩
  | succ fuel ih =>
    obtain ⟨values, items_, members_⟩ := ih
    refine ⟨?_, ?_, ?_⟩
    · intro text v rest read
      rw [readValue] at read
      split at read
      next => cases read
      next u more _ =>
        split_ifs at read
        · split at read
          next =>
            obtain rfl : Value.array [] = v := (Prod.mk.inj (Option.some.inj read)).1
            exact proper_array.mpr (by simp)
          next =>
            simp only [Option.bind_eq_bind, Option.bind_eq_some_iff] at read
            obtain ⟨⟨w, after⟩, first, ⟨items, last⟩, others, same⟩ := read
            obtain rfl : Value.array (w :: items) = v := (Prod.mk.inj (Option.some.inj same)).1
            rw [proper_array]
            exact List.forall_mem_cons.mpr ⟨values _ _ _ first, items_ _ _ _ others⟩
        · split at read
          next =>
            obtain rfl : Value.object [] = v := (Prod.mk.inj (Option.some.inj read)).1
            exact proper_object.mpr ⟨⟨List.nodup_nil, List.Pairwise.nil⟩, by simp⟩
          next =>
            simp only [Option.bind_eq_bind, Option.bind_eq_some_iff] at read
            obtain ⟨⟨name, colon⟩, _, ⟨w, after⟩, first, ⟨members, last⟩, others, same⟩ := read
            obtain rfl : Value.object (assign ((name, w) :: members)) = v := (Prod.mk.inj (Option.some.inj same)).1
            rw [proper_object]
            refine ⟨assign_enumerated _, fun m mem => ?_⟩
            rcases List.mem_cons.mp (mem_assign mem) with rfl | later
            · exact values _ _ _ first
            · exact members_ _ _ _ others m later
        · exact readScalar_proper read
    · intro text items rest read
      rw [readItems] at read
      split at read
      next =>
        simp only [Option.bind_eq_bind, Option.bind_eq_some_iff] at read
        obtain ⟨⟨w, after⟩, first, ⟨more, last⟩, others, same⟩ := read
        obtain rfl : w :: more = items := (Prod.mk.inj (Option.some.inj same)).1
        exact List.forall_mem_cons.mpr ⟨values _ _ _ first, items_ _ _ _ others⟩
      next =>
        obtain ⟨after, _, same⟩ := Option.map_eq_some_iff.mp read
        obtain rfl : [] = items := (Prod.mk.inj same).1
        simp
    · intro text members rest read
      rw [readMembers] at read
      split at read
      next =>
        simp only [Option.bind_eq_bind, Option.bind_eq_some_iff] at read
        obtain ⟨⟨name, colon⟩, _, ⟨w, after⟩, first, ⟨more, last⟩, others, same⟩ := read
        obtain rfl : (name, w) :: more = members := (Prod.mk.inj (Option.some.inj same)).1
        exact List.forall_mem_cons.mpr ⟨values _ _ _ first, members_ _ _ _ others⟩
      next =>
        obtain ⟨after, _, same⟩ := Option.map_eq_some_iff.mp read
        obtain rfl : [] = members := (Prod.mk.inj same).1
        simp

theorem parse_proper (parsed : parse text = some v) : v.Proper := by
  rw [parse] at parsed
  obtain ⟨⟨w, rest⟩, read, same⟩ := Option.bind_eq_some_iff.mp parsed
  simp only at same
  split at same
  · obtain rfl := Option.some.inj same
    exact (read_proper _).1 _ _ _ read
  · cases same

variable {members : Members Value}

theorem written_enumerated (enumerated : Enumerated (names members)) :
    written (.object members) = .object (members.map (Prod.map id written)) := by
  have names_ : Enumerated (names (members.map (Prod.map id written))) := by rwa [names_map]
  rw [written_object, names_.assign_eq]

def AllFinite : Value → Prop :=
  Value.fold {
    null := True
    bool _ := True
    number n := n.isFinite = true
    string _ := True
    array items := ∀ p ∈ items, p
    object members := ∀ m ∈ members, m.2 }

theorem allFinite_array : AllFinite (.array items) ↔ ∀ v ∈ items, AllFinite v := by
  rw [AllFinite, fold_array]
  exact List.forall_mem_map

theorem allFinite_object : AllFinite (.object members) ↔ ∀ m ∈ members, AllFinite m.2 := by
  rw [AllFinite, fold_object]
  exact List.forall_mem_map

theorem canon_written (distinct : v.Distinct) (finite : AllFinite v) : (written v).canon = v.canon := by
  induction v using Value.induction with
  | null => rfl
  | bool b => rfl
  | number n =>
    show (if n.isFinite then Value.number n.unsigned else .null).canon = .number n.unsigned
    rw [if_pos (show n.isFinite = true from finite)]
    exact congrArg Value.number (unsigned_unsigned n)
  | string s => rfl
  | array items ih =>
    rw [written_array, canon_array, canon_array, List.map_map]
    exact congrArg Value.array (List.map_congr_left fun v mem =>
      ih v mem (distinct_array.mp distinct v mem) (allFinite_array.mp finite v mem))
  | object members ih =>
    obtain ⟨nodup, inner⟩ := distinct_object.mp distinct
    rw [written_object, canon_reordered nodup]
    refine ((assign_perm (by rwa [names_map])).map _).trans ?_
    rw [List.map_map]
    exact List.Perm.of_eq (List.map_congr_left fun m mem =>
      Prod.ext rfl (ih m mem (inner m mem) (allFinite_object.mp finite m mem)))

/-- What is read of a written value is written alike. -/
theorem stringify_written (proper : v.Proper) : stringify (written v) = stringify v := by
  induction v using Value.induction with
  | null => rfl
  | bool b => rfl
  | number n =>
    show stringify (if n.isFinite then Value.number n.unsigned else .null) = numberText n
    by_cases finite : n.isFinite = true
    · rw [if_pos finite]
      exact numberText_unsigned n
    · rw [if_neg finite, numberText_null (Bool.eq_false_iff.mpr finite)]
      rfl
  | string s => rfl
  | array items ih =>
    rw [written_array, stringify_array, stringify_array, List.map_map]
    congr 3
    exact List.map_congr_left fun v mem => ih v mem (proper_array.mp proper v mem)
  | object members ih =>
    obtain ⟨enumerated, inner⟩ := proper_object.mp proper
    rw [written_enumerated enumerated, stringify_object, stringify_object, List.map_map]
    congr 3
    exact List.map_congr_left fun m mem => congrArg (fun t => member (m.1, t)) (ih m mem (inner m mem))

theorem written_written (proper : v.Proper) : written (written v) = written v :=
  written_of_stringify (stringify_written proper)

theorem written_composite (composite : ¬IsScalar v) : ¬IsScalar (written v) := by
  rcases composite_cases composite with ⟨items, rfl⟩ | ⟨members, rfl⟩
  · rw [written_array]
    exact id
  · rw [written_object]
    exact id

/-! ### One line -/

def Shown (text : Text) : Prop := ∀ u ∈ text, 32 ≤ u.val

theorem shown_append {s t : Text} : Shown (s ++ t) ↔ Shown s ∧ Shown t := List.forall_mem_append

theorem shown_cons {t : Text} : Shown (u :: t) ↔ 32 ≤ u.val ∧ Shown t := List.forall_mem_cons

theorem shown_nil : Shown [] := List.forall_mem_nil _

theorem shown_units (characters : List Char) (shown : (units characters).all (fun u => 32 ≤ u.val) = true) :
    Shown (units characters) := by
  intro u mem
  simpa using List.all_eq_true.mp shown u mem

theorem shown_hexDigit (small : n < 16) : 32 ≤ (hexDigit n).val := by
  have all : ∀ k : Fin 16, 32 ≤ (hexDigit k.1).val := by decide
  exact all ⟨n, small⟩

theorem shown_hexEscape (u : CodeUnit) : Shown (hexEscape u) := by
  have bound := u.isLt
  intro d mem
  simp only [hexEscape, List.mem_cons, List.not_mem_nil, or_false] at mem
  rcases mem with rfl | rfl | rfl | rfl | rfl | rfl
  · decide
  · decide
  · exact shown_hexDigit (by omega)
  · exact shown_hexDigit (by omega)
  · exact shown_hexDigit (by omega)
  · exact shown_hexDigit (by omega)

theorem shown_escape (u : CodeUnit) : Shown (escape u) := by
  rw [escape]
  by_cases marks : u = unit '"' ∨ u = unit '\\'
  · rw [if_pos marks, shown_cons, shown_cons]
    refine ⟨by decide, ?_, shown_nil⟩
    rcases marks with rfl | rfl <;> decide
  rw [if_neg marks]
  split_ifs with b t n f r hidden
  · exact shown_units _ (by decide)
  · exact shown_units _ (by decide)
  · exact shown_units _ (by decide)
  · exact shown_units _ (by decide)
  · exact shown_units _ (by decide)
  · exact shown_hexEscape u
  · exact shown_cons.mpr ⟨by omega, shown_nil⟩

theorem shown_surrogate (surrogate : isHigh u = true ∨ isLow u = true) : 32 ≤ u.val := by
  simp only [isHigh, isLow, decide_eq_true_eq] at surrogate
  omega

theorem shown_quote (s : Text) : Shown (quote s) := by
  have inner : Shown (quoteUnits s) := by
    fun_induction quoteUnits s with
    | case1 => exact shown_nil
    | case2 u => exact shown_escape u
    | case3 u v others pair ih =>
      exact shown_cons.mpr ⟨shown_surrogate (.inl pair.1), shown_cons.mpr ⟨shown_surrogate (.inr pair.2), ih⟩⟩
    | case4 u v others apart ih => exact shown_append.mpr ⟨shown_escape u, ih⟩
  rw [quote, shown_cons, shown_append]
  exact ⟨by decide, inner, shown_units ['"'] (by decide)⟩

theorem shown_commas {texts : List Text} (each : ∀ t ∈ texts, Shown t) : Shown (commas texts) := by
  cases texts with
  | nil => exact shown_nil
  | cons t rest =>
    obtain ⟨first, others⟩ := List.forall_mem_cons.mp each
    refine shown_append.mpr ⟨first, fun u mem => ?_⟩
    obtain ⟨s, inside, there⟩ := List.mem_flatMap.mp mem
    exact shown_cons.mpr ⟨by decide, others s inside⟩ u there

theorem shown_stringify (v : Value) : Shown (stringify v) := by
  induction v using Value.induction with
  | null => exact shown_units _ (by decide)
  | bool b => cases b <;> exact shown_units _ (by decide)
  | number n => exact numberText_shown n
  | string s => exact shown_quote s
  | array items ih =>
    rw [stringify_array, shown_cons, shown_append]
    refine ⟨by decide, shown_commas fun t mem => ?_, shown_units [']'] (by decide)⟩
    obtain ⟨v, inside, rfl⟩ := List.mem_map.mp mem
    exact ih v inside
  | object members ih =>
    rw [stringify_object, shown_cons, shown_append]
    refine ⟨by decide, shown_commas fun t mem => ?_, shown_units ['}'] (by decide)⟩
    obtain ⟨m, inside, rfl⟩ := List.mem_map.mp mem
    exact shown_append.mpr ⟨shown_quote m.1, shown_cons.mpr ⟨by decide, ih m inside⟩⟩

/-! ### What writing loses -/

def unsigned : Value → Value :=
  Value.fold ⟨.null, .bool, fun n => .number n.unsigned, .string, .array, .object⟩

/-- Every number is finite, and nothing is `null`. -/
def Plain : Value → Prop :=
  Value.fold {
    null := False
    bool _ := True
    number n := n.isFinite = true
    string _ := True
    array items := ∀ p ∈ items, p
    object members := ∀ m ∈ members, m.2 }

/-- An infinity for each `null`, and `null` for each number that is not finite. -/
def altered : Value → Value :=
  Value.fold {
    null := .number (.infinite false)
    bool := .bool
    number n := if n.isFinite then .number n else .null
    string := .string
    array := .array
    object := .object }

theorem unsigned_array (items : List Value) : unsigned (.array items) = .array (items.map unsigned) := by
  rw [unsigned, fold_array]

theorem unsigned_object (members : Members Value) :
    unsigned (.object members) = .object (members.map (Prod.map id unsigned)) := by
  rw [unsigned, fold_object]

theorem plain_array : Plain (.array items) ↔ ∀ v ∈ items, Plain v := by
  rw [Plain, fold_array]
  exact List.forall_mem_map

theorem plain_object : Plain (.object members) ↔ ∀ m ∈ members, Plain m.2 := by
  rw [Plain, fold_object]
  exact List.forall_mem_map

theorem altered_array (items : List Value) : altered (.array items) = .array (items.map altered) := by
  rw [altered, fold_array]

theorem altered_object (members : Members Value) :
    altered (.object members) = .object (members.map (Prod.map id altered)) := by
  rw [altered, fold_object]

theorem written_plain (proper : v.Proper) (plain : Plain v) : written v = unsigned v := by
  induction v using Value.induction with
  | null => exact plain.elim
  | bool => rfl
  | number n => exact if_pos plain
  | string => rfl
  | array items ih =>
    rw [written_array, unsigned_array]
    exact congrArg Value.array (List.map_congr_left fun v mem =>
      ih v mem (proper_array.mp proper v mem) (plain_array.mp plain v mem))
  | object members ih =>
    obtain ⟨enumerated, inner⟩ := proper_object.mp proper
    rw [written_enumerated enumerated, unsigned_object]
    exact congrArg Value.object (List.map_congr_left fun m mem =>
      Prod.ext rfl (ih m mem (inner m mem) (plain_object.mp plain m mem)))

/-- What is read of a value tells whether it lost anything. -/
theorem plain_written (proper : v.Proper) : Plain (written v) ↔ Plain v := by
  induction v using Value.induction with
  | null => exact Iff.rfl
  | bool => exact Iff.rfl
  | number n =>
    show Plain (if n.isFinite then Value.number n.unsigned else .null) ↔ n.isFinite = true
    cases n <;> simp [Plain, Value.fold, Number.isFinite, Number.unsigned]
  | string => exact Iff.rfl
  | array items ih =>
    rw [written_array, plain_array, plain_array, List.forall_mem_map]
    exact forall₂_congr fun v mem => ih v mem (proper_array.mp proper v mem)
  | object members ih =>
    obtain ⟨enumerated, inner⟩ := proper_object.mp proper
    rw [written_enumerated enumerated, plain_object, plain_object, List.forall_mem_map]
    exact forall₂_congr fun m mem => ih m mem (inner m mem)

theorem unsigned_of_written {a b : Value} (proper : a.Proper) (proper' : b.Proper) (same : written a = written b)
    (plain : Plain a) : unsigned a = unsigned b := by
  have plain' : Plain b := by rwa [← plain_written proper', ← same, plain_written proper]
  rw [← written_plain proper plain, ← written_plain proper' plain', same]

theorem stringify_altered (v : Value) : stringify (altered v) = stringify v := by
  induction v using Value.induction with
  | null => rfl
  | bool => rfl
  | number n =>
    show stringify (if n.isFinite then Value.number n else .null) = numberText n
    by_cases finite : n.isFinite = true
    · rw [if_pos finite]
      rfl
    · rw [if_neg finite, numberText_null (Bool.eq_false_iff.mpr finite)]
      rfl
  | string => rfl
  | array items ih =>
    rw [altered_array, stringify_array, stringify_array, List.map_map]
    congr 3
    exact List.map_congr_left ih
  | object members ih =>
    rw [altered_object, stringify_object, stringify_object, List.map_map]
    congr 3
    exact List.map_congr_left fun m mem => congrArg (fun t => member (m.1, t)) (ih m mem)

theorem altered_proper (proper : v.Proper) : (altered v).Proper := by
  induction v using Value.induction with
  | null => trivial
  | bool => trivial
  | number n =>
    show (if n.isFinite then Value.number n else .null).Proper
    split <;> trivial
  | string => trivial
  | array items ih =>
    rw [altered_array, proper_array, List.forall_mem_map]
    exact fun v mem => ih v mem (proper_array.mp proper v mem)
  | object members ih =>
    obtain ⟨enumerated, inner⟩ := proper_object.mp proper
    rw [altered_object, proper_object, names_map, List.forall_mem_map]
    exact ⟨enumerated, fun m mem => ih m mem (inner m mem)⟩

/-- The alteration is seen wherever something is lost. -/
theorem plain_of_altered (same : unsigned (altered v) = unsigned v) : Plain v := by
  induction v using Value.induction with
  | null => cases same
  | bool => trivial
  | number n =>
    by_contra wild
    have lost : altered (.number n) = .null := if_neg wild
    rw [lost] at same
    cases same
  | string => trivial
  | array items ih =>
    rw [altered_array, unsigned_array, unsigned_array, List.map_map] at same
    exact plain_array.mpr fun v mem => ih v mem (List.map_inj_left.mp (Value.array.inj same) v mem)
  | object members ih =>
    rw [altered_object, unsigned_object, unsigned_object, List.map_map] at same
    exact plain_object.mpr fun m mem =>
      ih m mem (congrArg Prod.snd (List.map_inj_left.mp (Value.object.inj same) m mem))

end AgentPey.JsonTexts
