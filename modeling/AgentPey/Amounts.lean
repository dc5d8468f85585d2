import AgentPey.AgentPass
import AgentPey.FixedPoint

/-!
Exact decimal amounts in scaled integers: the agent's `scope/amount.ts` and the
vault's `internal/amount.ts`, which read the same texts and differ in their
errors and in what they do with a negative number.
-/
namespace AgentPey.Amounts
open AgentPass
open FixedPoint (scale scale_unscale unscale)

def AMOUNT_DECIMALS : Nat := 7
def SCALE : Int := 10000000
def MAX_SAFE_INTEGER : Int := 9007199254740991

def notUsable (value : String) : String := "\"" ++ value ++ "\" is not a usable amount"

/-! ### The agent's amounts -/

def invalidAmount (value reason : String) : Thrown :=
  .AgentPassError "InvalidAmount" (notUsable value) [("value", .string value), ("reason", .string reason)]

def toScaledAmount (value : String) : Result Nat :=
  match scale AMOUNT_DECIMALS value.toList with
  | some scaled => .ok scaled
  | none => .error (invalidAmount value "not a non-negative decimal with <= 7 places")

def fromScaledAmount (scaled : Int) : Result String :=
  if scaled < 0 then .error (invalidAmount (toString scaled) "negative")
  else .ok (String.ofList (unscale AMOUNT_DECIMALS scaled.toNat))

/-- `unitAmount x quantity`, exactly. -/
def multiplyAmount (unitAmount : String) (quantity : Int) : Result Nat := do
  if quantity < 0 ∨ MAX_SAFE_INTEGER < quantity then
    .error (invalidAmount (toString quantity) "quantity must be a non-negative safe integer")
  else
    let unit ← toScaledAmount unitAmount
    pure (unit * quantity.toNat)

/-! ### The vault's amounts -/

/-- The vault's `invalidAmount`, which gives no reason. -/
def invalidVaultAmount (value : String) : Thrown :=
  .AgentPassError "InvalidAmount" (notUsable value) [("value", .string value)]

def scaleAmount (value : String) : Result Nat :=
  match scale AMOUNT_DECIMALS value.toList with
  | some scaled => .ok scaled
  | none => .error (invalidVaultAmount value)

def bigintText (n : Int) : List Char :=
  if n < 0 then '-' :: Nat.toDigits 10 n.natAbs else Nat.toDigits 10 n.natAbs

/-- No check of the sign: division and remainder of a negative bigint truncate. -/
def unscaleAmount (scaled : Int) : String :=
  String.ofList (bigintText (scaled.tdiv SCALE) ++
    '.' :: List.leftpad AMOUNT_DECIMALS '0' (bigintText (scaled.tmod SCALE)))

/-! ### Reading back -/

@[simp] theorem toScaledAmount_fromScaled (n : Nat) :
    toScaledAmount (String.ofList (unscale AMOUNT_DECIMALS n)) = .ok n := by
  rw [toScaledAmount, String.toList_ofList, scale_unscale (by decide)]

@[simp] theorem scaleAmount_fromScaled (n : Nat) :
    scaleAmount (String.ofList (unscale AMOUNT_DECIMALS n)) = .ok n := by
  rw [scaleAmount, String.toList_ofList, scale_unscale (by decide)]

@[simp] theorem fromScaledAmount_natCast (n : Nat) :
    fromScaledAmount n = .ok (String.ofList (unscale AMOUNT_DECIMALS n)) := by
  rw [fromScaledAmount, if_neg (by omega), Int.toNat_natCast]

@[simp] theorem unscaleAmount_natCast (n : Nat) : unscaleAmount n = String.ofList (unscale AMOUNT_DECIMALS n) := by
  have whole : (n : Int).tdiv SCALE = (n / 10 ^ AMOUNT_DECIMALS : Nat) := by
    rw [Int.tdiv_eq_ediv_of_nonneg (by omega)]
    rfl
  have fraction : (n : Int).tmod SCALE = (n % 10 ^ AMOUNT_DECIMALS : Nat) := by
    rw [Int.tmod_eq_emod_of_nonneg (by omega)]
    rfl
  have text : ∀ m : Nat, bigintText m = Nat.toDigits 10 m := by
    intro m
    rw [bigintText, if_neg (by omega), Int.natAbs_natCast]
  rw [unscaleAmount, whole, fraction, text, text, unscale]

/-- Both readers accept the same texts, with the same value. -/
theorem scaleAmount_eq_ok {value : String} {n : Nat} : scaleAmount value = .ok n ↔ toScaledAmount value = .ok n := by
  rw [scaleAmount, toScaledAmount]
  cases scale AMOUNT_DECIMALS value.toList with
  | some m => rfl
  | none => simp

theorem fromScaledAmount_eq_ok {n : Int} {text : String} (written : fromScaledAmount n = .ok text) :
    toScaledAmount text = .ok n.toNat := by
  rw [fromScaledAmount] at written
  split_ifs at written
  cases written
  exact toScaledAmount_fromScaled _

end AgentPey.Amounts
