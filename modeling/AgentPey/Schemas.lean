import Mathlib.Data.Rat.Defs
import Mathlib.Data.List.Basic

/-!
JSON values that come from outside, and the few readers that schemas over them are put together from. A reader answers
with what it reads, or with nothing.
-/
namespace AgentPey.Schemas

inductive Value where
  | null
  | bool (b : Bool)
  | number (q : ℚ)
  | string (s : String)
  | array (items : List Value)
  | object (members : List (String × Value))

abbrev Members := List (String × Value)

abbrev Reader (α : Type) := Value → Option α

def text : Reader String
  | .string s => some s
  | _ => none

def textThat (holds : String → Bool) : Reader String
  | .string s => if holds s then some s else none
  | _ => none

def MAX_SAFE_INTEGER : Int := 9007199254740991

def members : Reader Members
  | .object m => some m
  | _ => none

def items : Reader (List Value)
  | .array l => some l
  | _ => none

def list {α : Type} (read : Reader α) : Reader (List α) := fun v => do
  let l ← items v
  l.mapM read

def field {α : Type} (object : Members) (key : String) (read : Reader α) : Option α := do
  let v ← object.lookup key
  read v

/-- The member of an object under a key, which must be well formed when it is there. -/
def optional {α : Type} (object : Members) (key : String) (read : Reader α) : Option (Option α) :=
  match object.lookup key with
  | none => some none
  | some v => (read v).map some

end AgentPey.Schemas
