import Mathlib.Logic.Basic

/-!
What every package takes from `@agentpass/core`: JSON values, the typed error,
and a credential's scope. A call of the JavaScript code either returns or throws.
-/
namespace AgentPey.AgentPass

/-- A JSON value; numbers are the safe integers the code puts into details. -/
inductive Json where
  | null
  | bool (b : Bool)
  | number (n : Int)
  | string (s : String)
  | array (items : List Json)
  | object (members : List (String × Json))

abbrev Details := List (String × Json)

def strings (texts : List String) : Json := .array (texts.map .string)

/-- A character as `JSON.stringify` writes it inside a string. -/
def escaped (c : Char) : String :=
  match c with
  | '"' => "\\\""
  | '\\' => "\\\\"
  | '\n' => "\\n"
  | '\r' => "\\r"
  | '\t' => "\\t"
  | c =>
    if c.toNat = 8 then "\\b"
    else if c.toNat = 12 then "\\f"
    else if c.toNat < 32 then "\\u00" ++ String.ofList (List.leftpad 2 '0' (Nat.toDigits 16 c.toNat))
    else String.ofList [c]

def quoted (s : String) : String := "\"" ++ String.join (s.toList.map escaped) ++ "\""

mutual

/-- `JSON.stringify`, without spaces and with the members in their order. -/
def Json.stringify : Json → String
  | .null => "null"
  | .bool b => if b then "true" else "false"
  | .number n => toString n
  | .string s => quoted s
  | .array items => "[" ++ ",".intercalate (stringifyItems items) ++ "]"
  | .object members => "\x7b" ++ ",".intercalate (stringifyMembers members) ++ "\x7d"

def stringifyItems : List Json → List String
  | [] => []
  | item :: rest => item.stringify :: stringifyItems rest

def stringifyMembers : List (String × Json) → List String
  | [] => []
  | (key, value) :: rest => (quoted key ++ ":" ++ value.stringify) :: stringifyMembers rest

end

/-- What a call may throw: the project's typed error, an error of the JavaScript
    runtime, or one of the database driver. -/
inductive Thrown where
  | AgentPassError (code message : String) (details : Details)
  | RangeError (message : String)
  | DatabaseError (message : String)

abbrev Result (α : Type) := Except Thrown α

structure ScopeLimits where
  perTx : String
  perDay : String
  currency : String

/-- What a credential's issuer signed. -/
structure Scope where
  actions : List String
  venues : List String
  assets : List String
  limits : ScopeLimits

/-! ### Calls that return -/

section
variable {α β : Type} {x : Result α} {f : α → Result β} {b : β}

@[simp] theorem ok_bind (a : α) : (.ok a : Result α) >>= f = f a := rfl

@[simp] theorem error_bind (e : Thrown) : (.error e : Result α) >>= f = .error e := rfl

theorem bind_eq_ok : x >>= f = .ok b ↔ ∃ a, x = .ok a ∧ f a = .ok b := by
  cases x with
  | ok a => simp
  | error e => simp

theorem map_eq_ok {f : α → β} : x.map f = .ok b ↔ ∃ a, x = .ok a ∧ f a = b := by
  cases x with
  | ok a => simp [Except.map]
  | error e => simp [Except.map]

end

end AgentPey.AgentPass
