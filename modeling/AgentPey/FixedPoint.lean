import Mathlib.Data.List.Basic
import Mathlib.Data.List.Induction
import Mathlib.Tactic.Ring

/-!
Decimal texts with a bounded number of places. A text is a whole part without
leading zeros and, after a point, one to `places` digits; it stands for a natural
number of units of the last place. `scale` reads a text and `unscale` writes one
with every place, so that reading what was written gives the number back.
-/
namespace AgentPey.FixedPoint

/-- `0|[1-9]\d*`. -/
def WholePart : List Char → Bool
  | [] => false
  | c :: cs => (c :: cs).all Char.isDigit && (c != '0' || cs.isEmpty)

/-- `\d{1,places}`. -/
def FractionPart (places : Nat) (cs : List Char) : Bool :=
  1 ≤ cs.length && cs.length ≤ places && cs.all Char.isDigit

def parts (places : Nat) (text : List Char) : Option (List Char × List Char) :=
  let whole := text.takeWhile (· != '.')
  match text.dropWhile (· != '.') with
  | [] => if WholePart whole then some (whole, []) else none
  | _ :: fraction => if WholePart whole && FractionPart places fraction then some (whole, fraction) else none

def padded (places : Nat) (fraction : List Char) : List Char :=
  (fraction ++ List.replicate places '0').take places

def scale (places : Nat) (text : List Char) : Option Nat :=
  (parts places text).map fun (whole, fraction) =>
    Nat.ofDigitChars 10 whole 0 * 10 ^ places + Nat.ofDigitChars 10 (padded places fraction) 0

def unscale (places : Nat) (n : Nat) : List Char :=
  Nat.toDigits 10 (n / 10 ^ places) ++ '.' :: List.leftpad places '0' (Nat.toDigits 10 (n % 10 ^ places))

/-! ### Digits -/

variable {n : Nat} {c : Char} {cs : List Char}

theorem isDigit_of_mem (member : c ∈ Nat.toDigits 10 n) : c.isDigit = true :=
  Nat.isDigit_of_mem_toDigits (by omega) (by omega) member

theorem ofDigitChars_leftpad (width n : Nat) : Nat.ofDigitChars 10 (List.leftpad width '0' (Nat.toDigits 10 n)) 0 = n := by
  simp [List.leftpad, Nat.ofDigitChars_append]

private theorem toDigits_head (positive : 0 < n) : ∃ c cs, Nat.toDigits 10 n = c :: cs ∧ c ≠ '0' := by
  induction n using Nat.strong_induction_on with
  | _ n ih =>
    by_cases small : n < 10
    · refine ⟨n.digitChar, [], Nat.toDigits_of_lt_base small, ?_⟩
      intro zero
      rw [Nat.digitChar_eq_zero] at zero
      omega
    · obtain ⟨c, cs, split, nonzero⟩ := ih (n / 10) (by omega) (by omega)
      refine ⟨c, cs ++ [Nat.digitChar (n % 10)], ?_, nonzero⟩
      rw [Nat.toDigits_of_base_le (by omega) (by omega), split, List.cons_append]

theorem wholePart_toDigits (n : Nat) : WholePart (Nat.toDigits 10 n) = true := by
  by_cases zero : n = 0
  · subst zero
    decide
  · obtain ⟨c, cs, split, nonzero⟩ := toDigits_head (Nat.pos_of_ne_zero zero)
    have digits : (c :: cs).all Char.isDigit = true := by
      rw [List.all_eq_true, ← split]
      exact fun d member => isDigit_of_mem member
    have first : (c != '0') = true := bne_iff_ne.mpr nonzero
    rw [split, WholePart, digits, first]
    rfl

theorem digitChar_of_isDigit (digit : c.isDigit = true) : (c.toNat - '0'.toNat).digitChar = c ∧ c.toNat - '0'.toNat < 10 := by
  have range : 48 ≤ c.toNat ∧ c.toNat ≤ 57 := by
    simpa [Char.isDigit, UInt32.le_iff_toNat_le] using digit
  have all : ∀ n : Fin 10, (Char.ofNat (48 + n.1)).toNat = 48 + n.1 ∧ Nat.digitChar n.1 = Char.ofNat (48 + n.1) := by decide
  obtain ⟨_, written⟩ := all ⟨c.toNat - 48, by omega⟩
  have zero : '0'.toNat = 48 := rfl
  refine ⟨?_, by omega⟩
  rw [zero, written, Nat.add_sub_cancel' range.1, Char.ofNat_toNat]

theorem ofDigitChars_snoc (cs : List Char) (c : Char) :
    Nat.ofDigitChars 10 (cs ++ [c]) 0 = 10 * Nat.ofDigitChars 10 cs 0 + (c.toNat - '0'.toNat) := by
  rw [Nat.ofDigitChars_append, Nat.ofDigitChars_cons, Nat.ofDigitChars_nil]

theorem toDigits_snoc (digit : c.isDigit = true) (positive : 0 < n) :
    Nat.toDigits 10 (10 * n + (c.toNat - '0'.toNat)) = Nat.toDigits 10 n ++ [c] := by
  obtain ⟨written, small⟩ := digitChar_of_isDigit digit
  rw [Nat.toDigits_of_base_le (by omega) (by omega)]
  congr 2
  · omega
  · rw [show (10 * n + (c.toNat - '0'.toNat)) % 10 = c.toNat - '0'.toNat by omega, written]

theorem toDigits_single (digit : c.isDigit = true) : Nat.toDigits 10 (c.toNat - '0'.toNat) = [c] := by
  obtain ⟨written, small⟩ := digitChar_of_isDigit digit
  rw [Nat.toDigits_of_lt_base small, written]

theorem leftpad_ofDigitChars (some_ : cs ≠ []) (digits : ∀ c ∈ cs, c.isDigit = true) :
    List.leftpad cs.length '0' (Nat.toDigits 10 (Nat.ofDigitChars 10 cs 0)) = cs := by
  induction cs using List.reverseRec with
  | nil => exact absurd rfl some_
  | append_singleton cs c ih =>
    have digit := digits c (by simp)
    rw [ofDigitChars_snoc]
    by_cases first : cs = []
    · subst first
      rw [Nat.ofDigitChars_nil, Nat.mul_zero, Nat.zero_add, toDigits_single digit]
      rfl
    have before := ih first fun d member => digits d (List.mem_append_left _ member)
    by_cases zero : Nat.ofDigitChars 10 cs 0 = 0
    · rw [zero, Nat.toDigits_zero] at before
      have zeros : cs = List.replicate cs.length '0' := by
        have some_length := List.length_pos_of_ne_nil first
        conv_lhs => rw [← before]
        rw [List.leftpad, List.length_singleton, ← List.replicate_succ', Nat.sub_add_cancel some_length]
      rw [zero, Nat.mul_zero, Nat.zero_add, toDigits_single digit, List.leftpad, List.length_append]
      simp [← zeros]
    · rw [toDigits_snoc digit (Nat.pos_of_ne_zero zero)]
      conv_rhs => rw [← before]
      simp [List.leftpad]

theorem toDigits_ofDigitChars (whole : WholePart cs = true) : Nat.toDigits 10 (Nat.ofDigitChars 10 cs 0) = cs := by
  obtain ⟨c, rest, rfl⟩ : ∃ c rest, cs = c :: rest := by
    cases cs with
    | nil => cases whole
    | cons c rest => exact ⟨c, rest, rfl⟩
  simp only [WholePart, Bool.and_eq_true, List.all_eq_true, Bool.or_eq_true, bne_iff_ne, List.isEmpty_iff] at whole
  obtain ⟨digits, first⟩ := whole
  have padded := leftpad_ofDigitChars (List.cons_ne_nil c rest) digits
  rcases first with nonzero | rfl
  · -- a text that does not start with a zero has no padding
    rw [List.leftpad] at padded
    cases short : (c :: rest).length - (Nat.toDigits 10 (Nat.ofDigitChars 10 (c :: rest) 0)).length with
    | zero => rwa [short, List.replicate_zero, List.nil_append] at padded
    | succ k =>
      rw [short, List.replicate_succ, List.cons_append] at padded
      exact absurd (List.cons.inj padded).1.symm nonzero
  · simpa [Nat.ofDigitChars_cons] using toDigits_single (digits c (by simp))

/-! ### Written texts -/

section
variable {places : Nat}

private theorem pow_pos_places : 0 < 10 ^ places := Nat.pow_pos (by omega)

private theorem fraction_length (some_place : 0 < places) (n : Nat) :
    (List.leftpad places '0' (Nat.toDigits 10 (n % 10 ^ places))).length = places := by
  have short : (Nat.toDigits 10 (n % 10 ^ places)).length ≤ places := by
    rw [Nat.length_toDigits_le_iff (by omega) some_place]
    exact Nat.mod_lt n pow_pos_places
  rw [List.length_leftpad]
  omega

private theorem fraction_digits (n : Nat) : (List.leftpad places '0' (Nat.toDigits 10 n)).all Char.isDigit = true := by
  rw [List.all_eq_true]
  intro c member
  rcases List.mem_append.mp member with pad | digit
  · rw [(List.mem_replicate.mp pad).2]
    decide
  · exact isDigit_of_mem digit

private theorem whole_run (n : Nat) : ∀ c ∈ Nat.toDigits 10 n, (c != '.') = true := by
  intro c member
  have digit := isDigit_of_mem member
  rw [bne_iff_ne]
  rintro rfl
  exact absurd digit (by decide)

theorem parts_unscale (some_place : 0 < places) (n : Nat) : parts places (unscale places n) =
      some (Nat.toDigits 10 (n / 10 ^ places), List.leftpad places '0' (Nat.toDigits 10 (n % 10 ^ places))) := by
  have before : (unscale places n).takeWhile (· != '.') = Nat.toDigits 10 (n / 10 ^ places) := by
    rw [unscale, List.takeWhile_append_of_pos (whole_run _)]
    simp
  have after : (unscale places n).dropWhile (· != '.') =
      '.' :: List.leftpad places '0' (Nat.toDigits 10 (n % 10 ^ places)) := by
    rw [unscale, List.dropWhile_append_of_pos (whole_run _)]
    simp
  have fraction : FractionPart places (List.leftpad places '0' (Nat.toDigits 10 (n % 10 ^ places))) = true := by
    simp only [FractionPart, fraction_length some_place, fraction_digits, Bool.and_true, Bool.and_eq_true,
      decide_eq_true_eq, le_refl, and_true]
    exact some_place
  simp only [parts, before, after, wholePart_toDigits, fraction, Bool.and_self, if_true]

theorem scale_unscale (some_place : 0 < places) (n : Nat) : scale places (unscale places n) = some n := by
  have full : padded places (List.leftpad places '0' (Nat.toDigits 10 (n % 10 ^ places))) =
      List.leftpad places '0' (Nat.toDigits 10 (n % 10 ^ places)) := by
    rw [padded, List.take_append_of_le_length (fraction_length some_place n).ge]
    exact List.take_of_length_le (fraction_length some_place n).le
  simp only [scale, parts_unscale some_place, Option.map_some, full, ofDigitChars_leftpad,
    Nat.ofDigitChars_ten_toDigits, Nat.div_add_mod']

end

end AgentPey.FixedPoint
