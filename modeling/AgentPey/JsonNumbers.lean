import Mathlib.Algebra.Order.Field.Power
import Mathlib.Data.Int.Log
import Mathlib.Data.Nat.Digits.Lemmas
import Mathlib.Data.Rat.Floor
import Mathlib.Tactic.Positivity

/-!
The numbers of JavaScript and their decimal texts. A finite one is a binary64 value with a sign, kept as the rational that
rounding leaves as it is; `magnitudeText` writes one as `Number::toString` does, with the fewest digits that read back, and
`readNumber` reads what the JSON grammar calls a number, rounding to the nearest. Texts are lists of UTF-16 code units.
-/
namespace AgentPey.JsonNumbers
open List (all_eq_true length_drop length_pos_iff mem_append mem_cons mem_of_mem_drop mem_of_mem_take)

abbrev CodeUnit := Fin 65536

instance units_some : NeZero 65536 := ⟨by decide⟩

abbrev Text := List CodeUnit

instance text_lawful : LawfulBEq Text := inferInstance

def unit (c : Char) : CodeUnit := Fin.ofNat 65536 c.toNat

def units (characters : List Char) : Text := characters.map unit

/-! ### Rounding -/

/-- The distance between neighbours around `q` is two to this power; -1074 is the least. -/
def spacing (q : ℚ) : ℤ := max (-1074) (Int.log 2 q - 52)

def roundEven (q : ℚ) : ℕ :=
  let below := ⌊q⌋₊
  if q - below < 1 / 2 then below
  else if 1 / 2 < q - below then below + 1
  else if below % 2 = 0 then below else below + 1

def round (q : ℚ) : Option ℚ :=
  let nearest : ℚ := roundEven (q / 2 ^ spacing q) * 2 ^ spacing q
  if nearest < 2 ^ 1024 then some nearest else none

theorem roundEven_natCast (n : ℕ) : roundEven n = n := by
  simp [roundEven]

variable {q : ℚ} {n : ℕ}

theorem roundEven_le (below : q < n) : roundEven q ≤ n := by
  by_cases negative : q < 0
  · have floor : ⌊q⌋₊ = 0 := Nat.floor_of_nonpos negative.le
    simp only [roundEven, floor, Nat.cast_zero, sub_zero]
    rw [if_pos (negative.trans (by norm_num))]
    omega
  · have floor : ⌊q⌋₊ < n := (Nat.floor_lt (le_of_not_gt negative)).mpr below
    rw [roundEven]
    split_ifs <;> omega

theorem round_of_multiple {m : ℕ} (whole : q = m * 2 ^ spacing q) (small : q < 2 ^ 1024) : round q = some q := by
  have quotient : q / 2 ^ spacing q = m := by
    rw [div_eq_iff (by positivity)]
    exact whole
  rw [round, quotient, roundEven_natCast, ← whole, if_pos small]

variable {x : ℚ}

theorem round_eq_some {q : ℚ} (rounded : round x = some q) :
    q = roundEven (x / 2 ^ spacing x) * 2 ^ spacing x ∧ q < 2 ^ 1024 := by
  rw [round] at rounded
  split at rounded
  next small =>
    obtain rfl := Option.some.inj rounded
    exact ⟨rfl, small⟩
  next => cases rounded

theorem round_nonneg {q : ℚ} (rounded : round x = some q) : 0 ≤ q := by
  rw [(round_eq_some rounded).1]
  positivity

theorem quotient_lt : x / 2 ^ spacing x < (2 ^ 53 : ℕ) := by
  rw [div_lt_iff₀ (by positivity)]
  have above : x < (2 : ℚ) ^ (Int.log 2 x + 1) := by simpa using Int.lt_zpow_succ_log_self (b := 2) (by omega) x
  refine above.trans_le ?_
  rw [Nat.cast_pow, Nat.cast_ofNat, ← zpow_natCast, ← zpow_add₀ (by norm_num)]
  apply zpow_le_zpow_right₀ (by norm_num)
  rw [spacing]
  omega

theorem round_round {q : ℚ} (rounded : round x = some q) : round q = some q := by
  obtain ⟨nearest, small⟩ := round_eq_some rounded
  set k := roundEven (x / 2 ^ spacing x) with hk
  set e := spacing x with he
  have least : -1074 ≤ e := by rw [he, spacing]; omega
  have most : k ≤ 2 ^ 53 := roundEven_le quotient_lt
  have two : ((2 : ℕ) : ℚ) = 2 := by norm_num
  rcases Nat.eq_zero_or_pos k with zero | positive
  · refine round_of_multiple ?_ small (m := 0)
    rw [nearest, zero]
    simp
  have qpos : 0 < q := by
    rw [nearest]
    positivity
  rcases most.eq_or_lt with full | less
  · -- rounding up to the next power of two
    have power : q = (2 : ℚ) ^ (e + 53) := by
      rw [nearest, full, zpow_add₀ (by norm_num), mul_comm]
      norm_num
    have log : Int.log 2 q = e + 53 := by
      rw [power, ← two, Int.log_zpow (by omega)]
    have space : spacing q = e + 1 := by
      rw [spacing, log]
      omega
    refine round_of_multiple ?_ small (m := 2 ^ 52)
    rw [space, power, show e + 53 = 52 + (e + 1) by omega, zpow_add₀ (by norm_num)]
    norm_num
  · have log : Int.log 2 q < e + 53 := by
      rw [← Int.lt_zpow_iff_log_lt (by omega) qpos, two, zpow_add₀ (by norm_num), nearest, mul_comm]
      apply mul_lt_mul_of_pos_left _ (by positivity)
      exact_mod_cast less
    have space : spacing q ≤ e := by
      rw [spacing]
      omega
    refine round_of_multiple ?_ small (m := k * 2 ^ (e - spacing q).toNat)
    conv_lhs => rw [nearest]
    rw [Nat.cast_mul, Nat.cast_pow, two, ← zpow_natCast, Int.toNat_of_nonneg (by omega), mul_assoc,
      ← zpow_add₀ (by norm_num), sub_add_cancel]

/-! ### Numbers -/

/-- The size of a finite number: a rational that is its own rounding. -/
abbrev Magnitude := { q : ℚ // round q = some q }

inductive Number where
  | finite (negative : Bool) (magnitude : Magnitude)
  | infinite (negative : Bool)
  | nan
  deriving DecidableEq

def nearest (negative : Bool) (q : ℚ) : Number :=
  match rounded : round q with
  | some r => .finite negative ⟨r, round_round rounded⟩
  | none => .infinite negative

theorem nearest_eq {m : Magnitude} (rounded : round q = some m.1) (negative : Bool) :
    nearest negative q = .finite negative m := by
  rw [nearest]
  split
  next r same =>
    obtain rfl := Option.some.inj (same.symm.trans rounded)
    rfl
  next none => rw [none] at rounded; cases rounded

/-! ### Decimals -/

/-- Digits and the power of ten they are multiplied by. -/
structure Decimal where
  digits : ℕ
  exponent : ℤ
  deriving DecidableEq, Repr

def Decimal.value (d : Decimal) : ℚ := d.digits * 10 ^ d.exponent

/-- Without zeros at the end; `fuel` bounds how many there are. -/
def Decimal.strip : ℕ → Decimal → Decimal
  | 0, d => d
  | fuel + 1, d => if d.digits % 10 = 0 then strip fuel ⟨d.digits / 10, d.exponent + 1⟩ else d

theorem Decimal.strip_spec (fuel : ℕ) (d : Decimal) (positive : 0 < d.digits) :
    (d.strip fuel).value = d.value ∧ 0 < (d.strip fuel).digits := by
  induction fuel generalizing d with
  | zero => exact ⟨rfl, positive⟩
  | succ fuel ih =>
    rw [strip]
    split
    next zero =>
      have tens : d.digits = 10 * (d.digits / 10) := by omega
      obtain ⟨same, still⟩ := ih ⟨d.digits / 10, d.exponent + 1⟩ (by show 0 < d.digits / 10; omega)
      refine ⟨same.trans ?_, still⟩
      have cast : (d.digits : ℚ) = 10 * (d.digits / 10 : ℕ) := by exact_mod_cast tens
      rw [value, value, cast, zpow_add₀ (by norm_num)]
      ring
    next => exact ⟨rfl, positive⟩

/-- The decimals of `k` digits just below and just above, if they round to `q`. -/
def candidates (q : ℚ) (k : ℕ) : List Decimal :=
  let exponent := Int.log 10 q + 1 - k
  let below := ⌊q / 10 ^ exponent⌋₊
  [⟨below, exponent⟩, ⟨below + 1, exponent⟩].filter fun d => 0 < d.digits ∧ round d.value = some q

def closest (q : ℚ) : List Decimal → Option Decimal
  | [] => none
  | [d] => some d
  | d :: e :: _ =>
    if |d.value - q| < |e.value - q| then some d
    else if |e.value - q| < |d.value - q| then some e
    else if d.digits % 2 = 0 then some d else some e

theorem mem_of_closest {ds : List Decimal} {d : Decimal} (found : closest q ds = some d) : d ∈ ds := by
  match ds with
  | [] => cases found
  | [e] => simpa using (Option.some.inj found).symm
  | e :: f :: rest =>
    rw [closest] at found
    split_ifs at found <;> obtain rfl := Option.some.inj found <;> simp

/-- Every digit of `q`. -/
def exact (q : ℚ) : Decimal := ⟨(q * 10 ^ 1074).num.toNat, -1074⟩

/-- The fewest digits that round to `q`: seventeen always do. -/
def shortest (q : ℚ) : Decimal :=
  let d := ((List.range 17).findSome? fun k => closest q (candidates q (k + 1))).getD (exact q)
  d.strip (Nat.log 10 d.digits)

theorem exact_natural (rounded : round q = some q) (places : ℕ) (least : ∀ e, spacing q = e → -(places : ℤ) ≤ e) :
    ∃ n : ℕ, q * 10 ^ places = n := by
  obtain ⟨whole, _⟩ := round_eq_some rounded
  refine ⟨roundEven (q / 2 ^ spacing q) * (2 ^ (spacing q + places).toNat * 5 ^ places), ?_⟩
  have enough : 0 ≤ spacing q + places := by
    have := least _ rfl
    omega
  have ten : (10 : ℚ) ^ places = 2 ^ (places : ℤ) * 5 ^ places := by
    rw [zpow_natCast, ← mul_pow]
    norm_num
  conv_lhs => rw [whole]
  rw [ten, Nat.cast_mul, Nat.cast_mul, Nat.cast_pow, Nat.cast_pow, Nat.cast_ofNat, Nat.cast_ofNat,
    ← zpow_natCast 2 (spacing q + places).toNat, Int.toNat_of_nonneg enough, zpow_add₀ (by norm_num)]
  ring

theorem exact_value (rounded : round q = some q) (positive : 0 < q) : (exact q).value = q ∧ 0 < (exact q).digits := by
  obtain ⟨n, natural⟩ := exact_natural rounded 1074 fun e same => by
    rw [← same, spacing]
    omega
  have digits : (exact q).digits = n := by
    rw [exact, natural]
    simp
  have power : (0 : ℚ) < 10 ^ 1074 := by positivity
  refine ⟨?_, ?_⟩
  · rw [Decimal.value, digits, ← natural, exact, zpow_neg, mul_assoc, ← zpow_natCast]
    rw [show ((1074 : ℕ) : ℤ) = 1074 from rfl, mul_inv_cancel₀ (zpow_ne_zero _ (by norm_num)), mul_one]
  · rw [digits]
    have : (0 : ℚ) < n := by
      rw [← natural]
      exact mul_pos positive power
    exact_mod_cast this

theorem shortest_spec (rounded : round q = some q) (positive : 0 < q) :
    round (shortest q).value = some q ∧ 0 < (shortest q).digits := by
  have before : ∀ d, ((List.range 17).findSome? fun k => closest q (candidates q (k + 1))).getD (exact q) = d →
      round d.value = some q ∧ 0 < d.digits := by
    intro d same
    cases found : (List.range 17).findSome? fun k => closest q (candidates q (k + 1)) with
    | none =>
      rw [found] at same
      obtain rfl : exact q = d := same
      obtain ⟨value, some_⟩ := exact_value rounded positive
      exact ⟨by rw [value, rounded], some_⟩
    | some c =>
      rw [found] at same
      obtain rfl : c = d := same
      obtain ⟨k, _, chosen⟩ := List.exists_of_findSome?_eq_some found
      have passes := (List.mem_filter.mp (mem_of_closest chosen)).2
      exact (of_decide_eq_true passes).symm
  obtain ⟨rounds, some_⟩ := before _ rfl
  obtain ⟨value, still⟩ := Decimal.strip_spec (Nat.log 10 _) _ some_
  exact ⟨by rw [shortest, value, rounds], still⟩

/-! ### Digits -/

def isDigit (u : CodeUnit) : Bool := 48 ≤ u.val ∧ u.val ≤ 57

def zero : CodeUnit := unit '0'

def digitsText (n : ℕ) : Text := (Nat.digits 10 n).reverse.map fun d => Fin.ofNat 65536 (48 + d)

def readDigits (text : Text) : ℕ := text.foldl (fun n u => 10 * n + (u.val - 48)) 0

theorem readDigits_append (a b : Text) : readDigits (a ++ b) = readDigits a * 10 ^ b.length + readDigits b := by
  have from_ : ∀ (b : Text) (n : ℕ), b.foldl (fun n (u : CodeUnit) => 10 * n + (u.val - 48)) n =
      n * 10 ^ b.length + readDigits b := by
    intro b
    induction b with
    | nil => simp [readDigits]
    | cons u rest ih =>
      intro n
      rw [readDigits, List.foldl_cons, List.foldl_cons, ih, ih, List.length_cons, pow_succ]
      ring
  rw [readDigits, List.foldl_append, from_]
  rfl

theorem readDigits_zeros (k : ℕ) : readDigits (List.replicate k zero) = 0 := by
  induction k with
  | zero => rfl
  | succ k ih =>
    rw [List.replicate_succ', readDigits_append, ih]
    rfl

variable {u : CodeUnit}

theorem isDigit_zeros {k : ℕ} (mem : u ∈ List.replicate k zero) : isDigit u = true := by
  rw [(List.mem_replicate.mp mem).2]
  rfl

theorem digit_val {d : ℕ} (small : d < 10) : (Fin.ofNat 65536 (48 + d)).val = 48 + d := by
  rw [Fin.val_ofNat, Nat.mod_eq_of_lt (by omega)]

theorem isDigit_digitsText (mem : u ∈ digitsText n) : isDigit u = true := by
  obtain ⟨d, inside, rfl⟩ := List.mem_map.mp mem
  have small := Nat.digits_lt_base (by omega) (List.mem_reverse.mp inside)
  simp only [isDigit, digit_val small]
  simp
  omega

theorem readDigits_digitsText (n : ℕ) : readDigits (digitsText n) = n := by
  have run : ∀ ds : List ℕ, (∀ d ∈ ds, d < 10) →
      readDigits (ds.reverse.map fun d => Fin.ofNat 65536 (48 + d)) = Nat.ofDigits 10 ds := by
    intro ds small
    induction ds with
    | nil => rfl
    | cons d ds ih =>
      have one : readDigits [Fin.ofNat 65536 (48 + d)] = d := by
        show 10 * 0 + ((Fin.ofNat 65536 (48 + d)).val - 48) = d
        rw [digit_val (small d (by simp))]
        omega
      rw [List.reverse_cons, List.map_append, readDigits_append, ih fun e mem => small e (List.mem_cons_of_mem _ mem),
        List.map_singleton, one, Nat.ofDigits_cons, List.length_singleton]
      simp
      ring
  rw [digitsText, run _ fun d mem => Nat.digits_lt_base (by omega) mem, Nat.ofDigits_digits]

theorem digitsText_cons (positive : 0 < n) : ∃ u rest, digitsText n = u :: rest ∧ isDigit u = true ∧ u ≠ zero := by
  have some_ : Nat.digits 10 n ≠ [] := Nat.digits_ne_nil_iff_ne_zero.mpr (by omega)
  have small := Nat.digits_lt_base (by omega) (List.getLast_mem some_)
  have nonzero := Nat.getLast_digit_ne_zero 10 (show n ≠ 0 by omega)
  refine ⟨Fin.ofNat 65536 (48 + (Nat.digits 10 n).getLast some_), (Nat.digits 10 n).dropLast.reverse.map fun d => Fin.ofNat 65536 (48 + d), ?_, ?_, ?_⟩
  · conv_lhs => rw [digitsText, ← List.dropLast_append_getLast some_, List.reverse_append]
    rfl
  · simp only [isDigit, digit_val small]
    simp
    omega
  · intro same
    have value := congrArg Fin.val same
    rw [digit_val small] at value
    have : 48 + (Nat.digits 10 n).getLast some_ = 48 := value
    omega

/-! ### Writing -/

/-- `Number::toString` of a magnitude: `point` is the place of the decimal point after the first digit's. -/
def magnitudeText (q : ℚ) : Text :=
  if q = 0 then [zero]
  else
    let d := shortest q
    let digits := digitsText d.digits
    let point := digits.length + d.exponent
    if digits.length ≤ point ∧ point ≤ 21 then digits ++ List.replicate (point - digits.length).toNat zero
    else if 0 < point ∧ point ≤ 21 then digits.take point.toNat ++ unit '.' :: digits.drop point.toNat
    else if -6 < point ∧ point ≤ 0 then zero :: unit '.' :: (List.replicate (-point).toNat zero ++ digits)
    else
      digits.take 1 ++ (if digits.length = 1 then [] else unit '.' :: digits.drop 1) ++
        unit 'e' :: unit (if 0 < point then '+' else '-') :: digitsText (point - 1).natAbs

/-- `JSON.stringify` of a number: a zero has no sign, and what is not finite is `null`. -/
def numberText : Number → Text
  | .finite negative m => (if negative ∧ m.1 ≠ 0 then [unit '-'] else []) ++ magnitudeText m.1
  | .infinite _ => units ['n', 'u', 'l', 'l']
  | .nan => units ['n', 'u', 'l', 'l']

/-! ### Reading -/

/-- `\.\d+` or nothing. -/
def readFraction : Text → Option (Text × Text)
  | [] => some ([], [])
  | u :: rest =>
    if u = unit '.' then
      if rest.takeWhile isDigit = [] then none else some (rest.takeWhile isDigit, rest.dropWhile isDigit)
    else some ([], u :: rest)

/-- The digits after the `e` and its sign. -/
def readPower (negative : Bool) (text : Text) : Option (ℤ × Text) :=
  if text.takeWhile isDigit = [] then none
  else
    let power : ℤ := readDigits (text.takeWhile isDigit)
    some (if negative then -power else power, text.dropWhile isDigit)

def readSigned : Text → Option (ℤ × Text)
  | [] => none
  | sign :: rest =>
    if sign = unit '-' then readPower true rest
    else if sign = unit '+' then readPower false rest
    else readPower false (sign :: rest)

/-- `[eE][+-]?\d+` or nothing. -/
def readExponent : Text → Option (ℤ × Text)
  | [] => some (0, [])
  | u :: rest => if u = unit 'e' ∨ u = unit 'E' then readSigned rest else some (0, u :: rest)

/-- `(0|[1-9]\d*)(\.\d+)?([eE][+-]?\d+)?`, rounded. -/
def readMagnitude (negative : Bool) (text : Text) : Option (Number × Text) :=
  let whole := text.takeWhile isDigit
  if whole = [] ∨ whole.head? = some zero ∧ whole.length ≠ 1 then none
  else
    match readFraction (text.dropWhile isDigit) with
    | none => none
    | some (fraction, rest) =>
      match readExponent rest with
      | none => none
      | some (exponent, rest) =>
        some (nearest negative (Decimal.value ⟨readDigits (whole ++ fraction), exponent - fraction.length⟩), rest)

def readNumber : Text → Option (Number × Text)
  | [] => none
  | u :: rest => if u = unit '-' then readMagnitude true rest else readMagnitude false (u :: rest)

/-- What may follow a number: nothing that it would go on with. -/
def Stops (rest : Text) : Prop :=
  ∀ u, rest.head? = some u → isDigit u = false ∧ u ≠ unit '.' ∧ u ≠ unit 'e' ∧ u ≠ unit 'E'

section
variable {rest : Text}

variable {digits : Text}

theorem span_digits (all : ∀ u ∈ digits, isDigit u = true) (stops : ∀ u, rest.head? = some u → isDigit u = false) :
    (digits ++ rest).takeWhile isDigit = digits ∧ (digits ++ rest).dropWhile isDigit = rest := by
  rw [List.takeWhile_append_of_pos all, List.dropWhile_append_of_pos all]
  cases rest with
  | nil => simp
  | cons u rest => simp [stops u rfl]

theorem readFraction_stops (stops : ∀ u, rest.head? = some u → u ≠ unit '.') : readFraction rest = some ([], rest) := by
  cases rest with
  | nil => rfl
  | cons u rest => rw [readFraction, if_neg (stops u rfl)]

theorem readFraction_digits (some_ : digits ≠ []) (all : ∀ u ∈ digits, isDigit u = true)
    (stops : ∀ u, rest.head? = some u → isDigit u = false) :
    readFraction (unit '.' :: (digits ++ rest)) = some (digits, rest) := by
  obtain ⟨taken, dropped⟩ := span_digits all stops
  rw [readFraction, if_pos rfl, taken, dropped, if_neg some_]

theorem readExponent_stops (stops : ∀ u, rest.head? = some u → u ≠ unit 'e' ∧ u ≠ unit 'E') :
    readExponent rest = some (0, rest) := by
  cases rest with
  | nil => rfl
  | cons u rest =>
    obtain ⟨small, capital⟩ := stops u rfl
    rw [readExponent, if_neg (by simp [small, capital])]

theorem readPower_digits {n : ℕ} (positive : 0 < n) (negative : Bool) (stops : ∀ u, rest.head? = some u → isDigit u = false) :
    readPower negative (digitsText n ++ rest) = some (if negative then -(n : ℤ) else n, rest) := by
  obtain ⟨taken, dropped⟩ := span_digits (fun _ => isDigit_digitsText) stops
  obtain ⟨u, more, some_, _⟩ := digitsText_cons positive
  rw [readPower, taken, dropped, if_neg (by simp [some_]), readDigits_digitsText]

theorem readExponent_power {power : ℤ} (some_ : power ≠ 0) (stops : ∀ u, rest.head? = some u → isDigit u = false) :
    readExponent (unit 'e' :: unit (if 0 < power + 1 then '+' else '-') :: (digitsText power.natAbs ++ rest)) =
      some (power, rest) := by
  have positive : 0 < power.natAbs := by omega
  rw [readExponent, if_pos (.inl rfl), readSigned]
  by_cases sign : 0 < power + 1
  · have value : (power.natAbs : ℤ) = power := by omega
    rw [if_pos sign, if_neg (by decide), if_pos rfl, readPower_digits positive false stops, value]
    rfl
  · have value : -(power.natAbs : ℤ) = power := by omega
    rw [if_neg sign, if_pos rfl, readPower_digits positive true stops, if_pos rfl, value]

end

theorem readMagnitude_eq {negative : Bool} {whole fraction tail after rest : Text} {exponent : ℤ} (some_ : whole ≠ [])
    (all : ∀ u ∈ whole, isDigit u = true) (leading : whole.head? = some zero → whole.length = 1)
    (ends : ∀ u, tail.head? = some u → isDigit u = false) (fractions : readFraction tail = some (fraction, after))
    (exponents : readExponent after = some (exponent, rest)) : readMagnitude negative (whole ++ tail) =
      some (nearest negative (Decimal.value ⟨readDigits (whole ++ fraction), exponent - fraction.length⟩), rest) := by
  obtain ⟨taken, dropped⟩ := span_digits all ends
  have grammar : ¬(whole = [] ∨ whole.head? = some zero ∧ whole.length ≠ 1) := by
    rintro (none | ⟨first, long⟩)
    · exact some_ none
    · exact long (leading first)
  simp only [readMagnitude, taken, dropped, if_neg grammar, fractions, exponents]

/-- A text followed by `rest` has the parts of a number that stands for `value`. -/
def Parts (text rest : Text) (value : ℚ) : Prop :=
  ∃ whole fraction tail after exponent, text ++ rest = whole ++ tail ∧ whole ≠ [] ∧ (∀ u ∈ whole, isDigit u = true) ∧
    (whole.head? = some zero → whole.length = 1) ∧ (∀ u, tail.head? = some u → isDigit u = false) ∧
    readFraction tail = some (fraction, after) ∧ readExponent after = some (exponent, rest) ∧
    Decimal.value ⟨readDigits (whole ++ fraction), exponent - fraction.length⟩ = value

theorem Parts.read {text rest : Text} {value : ℚ} (parts : Parts text rest value) (negative : Bool) :
    readMagnitude negative (text ++ rest) = some (nearest negative value, rest) := by
  obtain ⟨whole, fraction, tail, after, exponent, split, some_, all, leading, ends, fractions, exponents, same⟩ := parts
  rw [split, readMagnitude_eq some_ all leading ends fractions exponents, same]

variable {rest : Text}

theorem parts_zero (stops : Stops rest) : Parts [zero] rest 0 := by
  refine ⟨[zero], [], rest, rest, 0, rfl, by simp, by simp; rfl, by simp, fun u first => (stops u first).1,
    readFraction_stops fun u first => (stops u first).2.1, readExponent_stops fun u first => (stops u first).2.2, ?_⟩
  show ((0 : ℕ) : ℚ) * _ = 0
  rw [Nat.cast_zero, zero_mul]

/-- The digits of a positive number. -/
structure Significant (digits : Text) : Prop where
  all : ∀ u ∈ digits, isDigit u = true
  some_ : digits ≠ []
  leading : digits.head? ≠ some zero

theorem significant_digitsText (positive : 0 < n) : Significant (digitsText n) := by
  obtain ⟨u, others, split, _, nonzero⟩ := digitsText_cons positive
  exact ⟨fun u mem => isDigit_digitsText mem, by simp [split], by simp [split, nonzero]⟩

section
variable {digits rest : Text} (significant : Significant digits) (stops : Stops rest)
include significant stops

theorem parts_whole (zeros : ℕ) :
    Parts (digits ++ List.replicate zeros zero) rest (Decimal.value ⟨readDigits digits, zeros⟩) := by
  refine ⟨digits ++ List.replicate zeros zero, [], rest, rest, 0, rfl, by simp [significant.some_], ?_, ?_,
    fun u first => (stops u first).1, readFraction_stops fun u first => (stops u first).2.1,
    readExponent_stops fun u first => (stops u first).2.2, ?_⟩
  · intro u mem
    exact (mem_append.mp mem).elim (significant.all u) isDigit_zeros
  · intro first
    rw [List.head?_append_of_ne_nil _ significant.some_] at first
    exact absurd first significant.leading
  · rw [Decimal.value, Decimal.value, List.append_nil, readDigits_append, readDigits_zeros, List.length_replicate]
    simp

theorem parts_dotted (place : ℕ) (inside : place < digits.length) (positive : 0 < place) :
    Parts (digits.take place ++ unit '.' :: digits.drop place) rest
      (Decimal.value ⟨readDigits digits, place - digits.length⟩) := by
  refine ⟨digits.take place, digits.drop place, unit '.' :: (digits.drop place ++ rest), rest, 0, by simp, ?_,
    fun u mem => significant.all u (mem_of_mem_take mem), ?_, by simp; decide, ?_,
    readExponent_stops fun u first => (stops u first).2.2, ?_⟩
  · rw [← length_pos_iff, List.length_take]
    omega
  · intro first
    rw [List.head?_take, if_neg (by omega)] at first
    exact absurd first significant.leading
  · refine readFraction_digits ?_ (fun u mem => significant.all u (mem_of_mem_drop mem)) fun u first => (stops u first).1
    rw [← length_pos_iff, length_drop]
    omega
  · rw [List.take_append_drop, length_drop, show (0 : ℤ) - (digits.length - place : ℕ) = place - digits.length by omega]

theorem parts_small (zeros : ℕ) : Parts (zero :: unit '.' :: (List.replicate zeros zero ++ digits)) rest
      (Decimal.value ⟨readDigits digits, -(zeros + digits.length : ℕ)⟩) := by
  refine ⟨[zero], List.replicate zeros zero ++ digits, unit '.' :: (List.replicate zeros zero ++ digits ++ rest), rest, 0,
    by simp, by simp, by simp; rfl, by simp, by simp; decide, ?_, readExponent_stops fun u first => (stops u first).2.2, ?_⟩
  · refine readFraction_digits (by simp [significant.some_]) ?_ fun u first => (stops u first).1
    exact fun u mem => (mem_append.mp mem).elim isDigit_zeros (significant.all u)
  · have number : readDigits ([zero] ++ (List.replicate zeros zero ++ digits)) = readDigits digits := by
      rw [readDigits_append, readDigits_append, readDigits_zeros, show readDigits [zero] = 0 from rfl]
      omega
    rw [number, List.length_append, List.length_replicate, zero_sub]

theorem parts_power (power : ℤ) (power_ : power ≠ 0) :
    Parts (digits.take 1 ++ (if digits.length = 1 then [] else unit '.' :: digits.drop 1) ++
        unit 'e' :: unit (if 0 < power + 1 then '+' else '-') :: digitsText power.natAbs) rest
      (Decimal.value ⟨readDigits digits, power + 1 - digits.length⟩) := by
  have long : 0 < digits.length := length_pos_iff.mpr significant.some_
  have noDigit : ∀ u, rest.head? = some u → isDigit u = false := fun u first => (stops u first).1
  refine ⟨digits.take 1, digits.drop 1, (if digits.length = 1 then [] else unit '.' :: digits.drop 1) ++
    unit 'e' :: unit (if 0 < power + 1 then '+' else '-') :: (digitsText power.natAbs ++ rest), _, power, by simp, ?_,
    fun u mem => significant.all u (mem_of_mem_take mem), ?_, ?_, ?_, readExponent_power power_ noDigit, ?_⟩
  · rw [← length_pos_iff, List.length_take]
    omega
  · intro first
    rw [List.head?_take, if_neg (by omega)] at first
    exact absurd first significant.leading
  · intro u first
    split at first <;> obtain rfl : _ = u := by simpa using first
    all_goals decide
  · by_cases one : digits.length = 1
    · rw [if_pos one, List.nil_append, List.drop_of_length_le (by omega)]
      refine readFraction_stops fun u first => ?_
      obtain rfl : _ = u := by simpa using first
      decide
    · rw [if_neg one, List.cons_append]
      refine readFraction_digits ?_ (fun u mem => significant.all u (mem_of_mem_drop mem)) fun u first => ?_
      · rw [← length_pos_iff, length_drop]
        omega
      · obtain rfl : _ = u := by simpa using first
        decide
  · rw [List.take_append_drop, length_drop,
      show power - (digits.length - 1 : ℕ) = power + 1 - digits.length by omega]

end

/-- What is written of a magnitude has the parts of a number that rounds to it. -/
theorem parts_magnitude (rounded : round q = some q) (stops : Stops rest) :
    ∃ value, Parts (magnitudeText q) rest value ∧ round value = some q := by
  by_cases zero_ : q = 0
  · rw [magnitudeText, if_pos zero_]
    exact ⟨0, parts_zero stops, by rw [← zero_, rounded]⟩
  have positive : 0 < q := lt_of_le_of_ne (round_nonneg rounded) (Ne.symm zero_)
  obtain ⟨rounds, natural⟩ := shortest_spec rounded positive
  refine ⟨(shortest q).value, ?_, rounds⟩
  have significant := significant_digitsText natural
  have value : (shortest q).value =
      Decimal.value ⟨readDigits (digitsText (shortest q).digits), (shortest q).exponent⟩ := by
    rw [readDigits_digitsText]
  rw [magnitudeText, if_neg zero_, value]
  simp only
  generalize digitsText (shortest q).digits = digits at *
  generalize (shortest q).exponent = exponent at *
  by_cases whole : digits.length ≤ digits.length + exponent ∧ digits.length + exponent ≤ 21
  · rw [if_pos whole, add_sub_cancel_left]
    have parts := parts_whole significant stops exponent.toNat
    rwa [Int.toNat_of_nonneg (by omega)] at parts
  rw [if_neg whole]
  by_cases dotted : 0 < digits.length + exponent ∧ digits.length + exponent ≤ 21
  · rw [if_pos dotted]
    have parts := parts_dotted significant stops (digits.length + exponent).toNat (by omega) (by omega)
    rwa [Int.toNat_of_nonneg (by omega), add_sub_cancel_left] at parts
  rw [if_neg dotted]
  by_cases small : -6 < digits.length + exponent ∧ digits.length + exponent ≤ 0
  · rw [if_pos small]
    have parts := parts_small significant stops (-(digits.length + exponent)).toNat
    rwa [Nat.cast_add, Int.toNat_of_nonneg (by omega), show -(-(digits.length + exponent) + digits.length) = exponent by omega]
      at parts
  · rw [if_neg small]
    have parts := parts_power significant stops (digits.length + exponent - 1) (by omega)
    rwa [sub_add_cancel, add_sub_cancel_left] at parts

theorem readMagnitude_text (m : Magnitude) (negative : Bool) (stops : Stops rest) :
    readMagnitude negative (magnitudeText m.1 ++ rest) = some (.finite negative m, rest) := by
  obtain ⟨value, parts, rounds⟩ := parts_magnitude m.2 stops
  rw [parts.read negative, nearest_eq rounds]

/-- A number as it is written: a zero has no sign. -/
def Number.unsigned : Number → Number
  | .finite negative m => .finite (negative && m.1 ≠ 0) m
  | number => number

theorem unsigned_unsigned (n : Number) : n.unsigned.unsigned = n.unsigned := by
  cases n <;> simp [Number.unsigned]

theorem numberText_unsigned (n : Number) : numberText n.unsigned = numberText n := by
  cases n <;> simp [Number.unsigned, numberText]

def Number.isFinite : Number → Bool
  | .finite .. => true
  | _ => false

theorem magnitudeText_cons (m : Magnitude) : ∃ u rest, magnitudeText m.1 = u :: rest ∧ isDigit u = true := by
  obtain ⟨value, parts, _⟩ := parts_magnitude m.2 (show Stops [] by simp [Stops])
  obtain ⟨whole, _, tail, _, _, split, some_, all, _⟩ := parts
  obtain ⟨u, others, rfl⟩ := List.exists_cons_of_ne_nil some_
  exact ⟨u, others ++ tail, by simpa using split, all u (by simp)⟩

theorem numberText_cons {n : Number} (finite : n.isFinite = true) :
    ∃ u rest, numberText n = u :: rest ∧ (isDigit u = true ∨ u = unit '-') := by
  cases n with
  | finite negative m =>
    obtain ⟨u, rest, split, digit⟩ := magnitudeText_cons m
    rw [numberText]
    split
    · exact ⟨unit '-', _, rfl, .inr rfl⟩
    · exact ⟨u, rest, split, .inl digit⟩
  | infinite => cases finite
  | nan => cases finite

theorem readNumber_text {n : Number} (finite : n.isFinite = true) (stops : Stops rest) :
    readNumber (numberText n ++ rest) = some (n.unsigned, rest) := by
  cases n with
  | finite negative m =>
    by_cases sign : negative = true ∧ m.1 ≠ 0
    · have written : numberText (.finite negative m) ++ rest = unit '-' :: (magnitudeText m.1 ++ rest) := by
        simp [numberText, sign]
      rw [written, readNumber, if_pos rfl, readMagnitude_text m true stops]
      simp [Number.unsigned, sign]
    · obtain ⟨u, others, split, digit⟩ := magnitudeText_cons m
      have written : numberText (.finite negative m) ++ rest = u :: (others ++ rest) := by
        simp [numberText, if_neg sign, split]
      have other : u ≠ unit '-' := by
        rintro rfl
        exact absurd digit (by decide)
      have read := readMagnitude_text m false stops
      rw [split, List.cons_append] at read
      rw [written, readNumber, if_neg other, read]
      simpa [Number.unsigned] using sign
  | infinite => cases finite
  | nan => cases finite

theorem round_natCast (small : n < 2 ^ 53) : round n = some (n : ℚ) := by
  have space : spacing n ≤ 0 := by
    rw [spacing, Int.log_natCast]
    have : Nat.log 2 n < 53 := Nat.log_lt_of_lt_pow' (by omega) small
    omega
  refine round_of_multiple (m := n * 2 ^ (-spacing n).toNat) ?_ ?_
  · rw [Nat.cast_mul, Nat.cast_pow, Nat.cast_ofNat, mul_assoc, ← zpow_natCast, Int.toNat_of_nonneg (by omega),
      ← zpow_add₀ (by norm_num), neg_add_cancel, zpow_zero, mul_one]
  · have : (n : ℚ) < 2 ^ 53 := by exact_mod_cast small
    exact this.trans (pow_lt_pow_right₀ (by norm_num) (by norm_num))

theorem nearest_natCast (small : n < 2 ^ 53) : (nearest false n).isFinite = true := by
  rw [nearest_eq (m := ⟨n, round_natCast small⟩) (round_natCast small)]
  rfl

theorem digit_shown (digit : isDigit u = true) : 32 ≤ u.val := by
  simp only [isDigit, decide_eq_true_eq] at digit
  omega

def marks : Text := units ['-', '.', 'e', '+', 'n', 'u', 'l']

theorem mem_magnitudeText (mem : u ∈ magnitudeText q) : isDigit u = true ∨ u ∈ marks := by
  have digits : ∀ {n : ℕ}, u ∈ digitsText n → isDigit u = true ∨ u ∈ marks := fun digit => .inl (isDigit_digitsText digit)
  have zeros : ∀ {k : ℕ}, u ∈ List.replicate k zero → isDigit u = true ∨ u ∈ marks := fun padding => .inl (isDigit_zeros padding)
  have mark : ∀ {c : Char}, u = unit c → unit c ∈ marks → isDigit u = true ∨ u ∈ marks := fun same among => .inr (same ▸ among)
  rw [magnitudeText] at mem
  by_cases none : q = 0
  · rw [if_pos none, List.mem_singleton] at mem
    exact .inl (mem ▸ by decide)
  rw [if_neg none] at mem
  simp only at mem
  split at mem
  · rcases mem_append.mp mem with digit | padding
    · exact digits digit
    · exact zeros padding
  split at mem
  · simp only [mem_append, mem_cons] at mem
    rcases mem with digit | dot | digit
    · exact digits (mem_of_mem_take digit)
    · exact mark dot (by decide)
    · exact digits (mem_of_mem_drop digit)
  split at mem
  · simp only [mem_append, mem_cons] at mem
    rcases mem with lead | dot | padding | digit
    · exact .inl (lead ▸ by decide)
    · exact mark dot (by decide)
    · exact zeros padding
    · exact digits digit
  · simp only [mem_append, mem_cons] at mem
    rcases mem with (digit | fraction) | power | sign | digit
    · exact digits (mem_of_mem_take digit)
    · split at fraction
      · cases fraction
      · rcases mem_cons.mp fraction with dot | digit
        · exact mark dot (by decide)
        · exact digits (mem_of_mem_drop digit)
    · exact mark power (by decide)
    · split at sign
      · exact mark sign (by decide)
      · exact mark sign (by decide)
    · exact digits digit

theorem mem_numberText {n : Number} (mem : u ∈ numberText n) : isDigit u = true ∨ u ∈ marks := by
  have null : (units ['n', 'u', 'l', 'l']).all (fun u => u ∈ marks) = true := by decide
  cases n with
  | finite negative m =>
    rw [numberText] at mem
    rcases mem_append.mp mem with sign | magnitude
    · split at sign
      · obtain rfl := List.mem_singleton.mp sign
        exact .inr (by decide)
      · cases sign
    · exact mem_magnitudeText magnitude
  | infinite => exact .inr (by simpa using all_eq_true.mp null u mem)
  | nan => exact .inr (by simpa using all_eq_true.mp null u mem)

theorem numberText_shown (n : Number) : ∀ u ∈ numberText n, 32 ≤ u.val := by
  have shown : marks.all (fun u => 32 ≤ u.val) = true := by decide
  intro u mem
  rcases mem_numberText mem with digit | mark
  · exact digit_shown digit
  · simpa using all_eq_true.mp shown u mark

/-- Past the largest, a decimal reads as an infinity. -/
example : nearest false (Decimal.value ⟨1, 400⟩) = .infinite false := by decide +kernel

end AgentPey.JsonNumbers
