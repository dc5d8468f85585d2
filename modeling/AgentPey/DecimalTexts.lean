import AgentPey.FixedPoint
import AgentPey.Receipts
import Mathlib.Tactic.FieldSimp
import Mathlib.Tactic.Positivity

/-!
Decimal texts of amounts (`parseDecimal`, `decimalPlaces` and `formatUnits` of `vitrinee-core/money.ts`): the number a text
stands for, what becomes of zeros at its end, and that writing units and reading them back are inverse.
-/
namespace AgentPey.DecimalTexts
open Receipts FixedPoint

/-! ### Texts -/

/-- A decimal with its point, if there is anything behind it. -/
def written (whole fraction : List Char) : List Char := whole ++ if fraction = [] then [] else '.' :: fraction

/-- The digits before the point, of which there is one at least, and behind it. -/
structure Decimal (whole fraction : List Char) : Prop where
  some_ : whole ≠ []
  whole : ∀ c ∈ whole, c.isDigit = true
  fraction : ∀ c ∈ fraction, c.isDigit = true

variable {c : Char} {whole : List Char} {decimals : ℕ}

theorem not_space (above : 32 < c.toNat) (below : c.toNat < 127) : isSpace c = false := by
  simp only [isSpace, List.mem_cons, List.not_mem_nil, or_false, decide_eq_false_iff_not]
  omega

theorem digit_not_space (digit : c.isDigit = true) : isSpace c = false := by
  have range : 48 ≤ c.toNat ∧ c.toNat ≤ 57 := by
    simpa [Char.isDigit, UInt32.le_iff_toNat_le] using digit
  exact not_space (by omega) (by omega)

theorem trim_plain {cs : List Char} (plain : ∀ c ∈ cs, isSpace c = false) : trim cs = cs := by
  have start : cs.dropWhile isSpace = cs := by
    cases cs with
    | nil => rfl
    | cons c rest => simp [plain c (List.mem_cons_self ..)]
  rw [trim, start, List.rdropWhile_eq_self_iff]
  intro some_
  simp [plain _ (List.getLast_mem some_)]

section
variable {whole fraction : List Char}

theorem mem_written {c : Char} (member : c ∈ written whole fraction) : c ∈ whole ∨ c = '.' ∨ c ∈ fraction := by
  by_cases nothing : fraction = []
  · exact .inl (by simpa [written, nothing] using member)
  · simpa [written, nothing] using member

theorem Decimal.trim (decimal : Decimal whole fraction) : Receipts.trim (written whole fraction) = written whole fraction := by
  refine trim_plain fun c member => ?_
  rcases mem_written member with inside | rfl | inside
  · exact digit_not_space (decimal.whole c inside)
  · rfl
  · exact digit_not_space (decimal.fraction c inside)

theorem Decimal.parts (decimal : Decimal whole fraction) : decimalParts (written whole fraction) = some (whole, fraction) := by
  have some_ := decimal.some_
  by_cases nothing : fraction = []
  · subst nothing
    have before : whole.takeWhile Char.isDigit = whole := List.takeWhile_eq_self_iff.mpr decimal.whole
    have after : whole.dropWhile Char.isDigit = [] := List.dropWhile_eq_nil_iff.mpr decimal.whole
    simp [written, decimalParts, before, after, some_]
  · have before : (whole ++ '.' :: fraction).takeWhile Char.isDigit = whole := by
      rw [List.takeWhile_append_of_pos decimal.whole]
      simp
    have after : (whole ++ '.' :: fraction).dropWhile Char.isDigit = '.' :: fraction := by
      rw [List.dropWhile_append_of_pos decimal.whole]
      simp
    have all : fraction.all Char.isDigit = true := List.all_eq_true.mpr decimal.fraction
    rw [written, if_neg nothing, decimalParts]
    simp only [before, after]
    rw [if_neg (by simp [some_, nothing, all])]

end

def partsOf (text : String) : Option (List Char × List Char) := decimalParts (trim text.toList)

variable {text : String}

theorem partsOf_written {fraction : List Char} (decimal : Decimal whole fraction)
    (is : text.toList = written whole fraction) : partsOf text = some (whole, fraction) := by
  rw [partsOf, is, decimal.trim, decimal.parts]

/-! ### Values -/

def valueOf (whole fraction : List Char) : ℚ := (Nat.ofDigitChars 10 (whole ++ fraction) 0 : ℚ) / 10 ^ fraction.length

def decimalValue (text : String) : Option ℚ := (partsOf text).map fun (whole, fraction) => valueOf whole fraction

theorem decimalValue_nonneg {x : ℚ} (reads : decimalValue text = some x) : 0 ≤ x := by
  obtain ⟨⟨whole, fraction⟩, _, rfl⟩ := Option.map_eq_some_iff.mp reads
  show 0 ≤ valueOf whole fraction
  rw [valueOf]
  positivity

theorem valueOf_units (whole fraction : List Char) (fits : fraction.length ≤ decimals) :
    ((10 ^ (decimals - fraction.length) * Nat.ofDigitChars 10 (whole ++ fraction) 0 : ℕ) : ℚ) =
      valueOf whole fraction * 10 ^ decimals := by
  obtain ⟨more, rfl⟩ := Nat.exists_eq_add_of_le fits
  rw [valueOf, pow_add, Nat.add_sub_cancel_left]
  push_cast
  field_simp

theorem decimalPlaces_iff {places : ℕ} :
    decimalPlaces text = .ok places ↔ ∃ whole fraction, partsOf text = some (whole, fraction) ∧ fraction.length = places := by
  unfold decimalPlaces partsOf
  cases decimalParts (trim text.toList) with
  | none => simp
  | some read =>
    obtain ⟨whole, fraction⟩ := read
    simp

theorem parseDecimal_iff {atomic : ℕ} : parseDecimal text decimals = .ok atomic ↔
    ∃ whole fraction, partsOf text = some (whole, fraction) ∧ fraction.length ≤ decimals ∧
      (atomic : ℚ) = valueOf whole fraction * 10 ^ decimals := by
  unfold parseDecimal partsOf
  cases read : decimalParts (trim text.toList) with
  | none => simp
  | some parts =>
    obtain ⟨whole, fraction⟩ := parts
    by_cases long : decimals < fraction.length
    · simp only [long, if_true, reduceCtorEq, Option.some.injEq, Prod.mk.injEq, false_iff]
      rintro ⟨_, _, ⟨_, rfl⟩, short, _⟩
      omega
    · obtain ⟨more, rfl⟩ := Nat.exists_eq_add_of_le (Nat.le_of_not_lt long)
      have padded : Nat.ofDigitChars 10 (whole ++ fraction.rightpad (fraction.length + more) '0') 0 =
          10 ^ more * Nat.ofDigitChars 10 (whole ++ fraction) 0 := by
        rw [List.rightpad, Nat.add_sub_cancel_left, ← List.append_assoc, Nat.ofDigitChars_append,
          Nat.ofDigitChars_replicate_zero]
      have exact_ := valueOf_units whole fraction (Nat.le_add_right fraction.length more)
      rw [Nat.add_sub_cancel_left] at exact_
      simp only [long, if_false, Except.ok.injEq, Option.some.injEq, Prod.mk.injEq]
      constructor
      · rintro rfl
        exact ⟨whole, fraction, ⟨rfl, rfl⟩, Nat.le_add_right .., by rw [← exact_, padded]⟩
      · rintro ⟨_, _, ⟨rfl, rfl⟩, _, same⟩
        rw [padded]
        rw [← exact_] at same
        exact_mod_cast same.symm

theorem valueOf_zeros (whole fraction : List Char) (zeros : ℕ) :
    valueOf whole (fraction ++ List.replicate zeros '0') = valueOf whole fraction := by
  rw [valueOf, valueOf, ← List.append_assoc, Nat.ofDigitChars_append, Nat.ofDigitChars_replicate_zero, List.length_append,
    List.length_replicate, pow_add]
  push_cast
  field_simp

/-- The second text is the first with zeros at the end of its fraction. -/
def MoreZeros (text more : String) : Prop := ∃ whole fraction zeros, partsOf text = some (whole, fraction) ∧
  partsOf more = some (whole, fraction ++ List.replicate zeros '0')

theorem MoreZeros.value {text more : String} (zeros : MoreZeros text more) : decimalValue more = decimalValue text := by
  obtain ⟨whole, fraction, n, read, readMore⟩ := zeros
  simp [decimalValue, read, readMore, valueOf_zeros]

/-! ### Units -/

theorem formatUnits_written (atomic decimals : ℕ) : ∃ whole fraction, Decimal whole fraction ∧
    (formatUnits atomic decimals).toList = written whole fraction ∧ fraction.length = decimals ∧
      whole ++ fraction = (Nat.toDigits 10 atomic).leftpad (decimals + 1) '0' := by
  generalize all : (Nat.toDigits 10 atomic).leftpad (decimals + 1) '0' = cs
  have digits : ∀ c ∈ cs, c.isDigit = true := by
    subst all
    intro c member
    rcases List.mem_append.mp member with pad | digit
    · rw [(List.mem_replicate.mp pad).2]
      decide
    · exact isDigit_of_mem digit
  have long : decimals + 1 ≤ cs.length := by
    rw [← all, List.length_leftpad]
    exact Nat.le_max_left _ _
  have length : (cs.rtake decimals).length = decimals := by
    rw [List.rtake, List.length_drop]
    omega
  refine ⟨cs.rdrop decimals, cs.rtake decimals, ⟨?_, ?_, ?_⟩, ?_, length, List.take_append_drop _ _⟩
  · intro none_
    have empty := congrArg List.length none_
    rw [List.rdrop, List.length_take, List.length_nil] at empty
    omega
  · exact fun c member => digits c (List.mem_of_mem_take member)
  · exact fun c member => digits c (List.mem_of_mem_drop member)
  · simp only [formatUnits, all, written]
    by_cases whole : decimals = 0
    · subst whole
      simp [List.rdrop, List.rtake]
    · have some_ : cs.rtake decimals ≠ [] := by
        rintro nothing
        rw [nothing] at length
        exact whole length.symm
      rw [if_neg whole, if_neg some_, String.toList_ofList]

/-- Written units are read back. -/
theorem parseDecimal_formatUnits (atomic decimals : ℕ) : parseDecimal (formatUnits atomic decimals) decimals = .ok atomic := by
  obtain ⟨whole, fraction, decimal, text, length, all⟩ := formatUnits_written atomic decimals
  refine parseDecimal_iff.mpr ⟨whole, fraction, partsOf_written decimal text, length.le, ?_⟩
  rw [valueOf, all, ofDigitChars_leftpad, length]
  field_simp

/-- A text with all places, and no more zeros in front than one before the point. -/
def Canonical (decimals : ℕ) (text : String) : Prop := ∃ whole fraction, text.toList = written whole fraction ∧
  WholePart whole = true ∧ fraction.length = decimals ∧ ∀ c ∈ fraction, c.isDigit = true

theorem wholePart_digits (is : WholePart whole = true) : whole ≠ [] ∧ ∀ c ∈ whole, c.isDigit = true := by
  cases whole with
  | nil => cases is
  | cons c rest =>
    rw [WholePart, Bool.and_eq_true, List.all_eq_true] at is
    exact ⟨by simp, is.1⟩

theorem canonical_formatUnits (atomic decimals : ℕ) : Canonical decimals (formatUnits atomic decimals) := by
  obtain ⟨whole, fraction, decimal, text, length, all⟩ := formatUnits_written atomic decimals
  refine ⟨whole, fraction, text, ?_, length, decimal.fraction⟩
  obtain ⟨c, rest, rfl⟩ := List.exists_cons_of_ne_nil decimal.some_
  rw [WholePart, Bool.and_eq_true, List.all_eq_true]
  refine ⟨decimal.whole, ?_⟩
  by_cases single : rest = []
  · simp [single]
  · -- with more than one digit before the point there is no padding
    have size := congrArg List.length all
    have some_rest := List.length_pos_of_ne_nil single
    rw [List.length_append, List.length_cons, length, List.length_leftpad] at size
    rw [List.leftpad, Nat.sub_eq_zero_of_le (by omega), List.replicate_zero, List.nil_append] at all
    have first := wholePart_toDigits atomic
    rw [← all, List.cons_append, WholePart, Bool.and_eq_true] at first
    have nonempty : (rest ++ fraction).isEmpty = false := by simp [single]
    have nonzero : c ≠ '0' := by simpa [nonempty] using first.2
    simp [nonzero]

theorem formatUnits_parseDecimal (canonical : Canonical decimals text) :
    ∃ atomic, parseDecimal text decimals = .ok atomic ∧ formatUnits atomic decimals = text := by
  obtain ⟨whole, fraction, is, wholePart, length, digits⟩ := canonical
  obtain ⟨some_, wholeDigits⟩ := wholePart_digits wholePart
  have decimal : Decimal whole fraction := ⟨some_, wholeDigits, digits⟩
  have all : ∀ c ∈ whole ++ fraction, c.isDigit = true := fun c member =>
    (List.mem_append.mp member).elim (decimal.whole c) (decimal.fraction c)
  refine ⟨Nat.ofDigitChars 10 (whole ++ fraction) 0,
    parseDecimal_iff.mpr ⟨whole, fraction, partsOf_written decimal is, length.le, ?_⟩, ?_⟩
  · rw [valueOf, length]
    field_simp
  · have padded : (Nat.toDigits 10 (Nat.ofDigitChars 10 (whole ++ fraction) 0)).leftpad (decimals + 1) '0' =
        whole ++ fraction := by
      by_cases single : whole.length = 1
      · have size : (whole ++ fraction).length = decimals + 1 := by
          rw [List.length_append]
          omega
        rw [← size]
        exact leftpad_ofDigitChars (by simp [some_]) all
      · obtain ⟨c, rest, rfl⟩ := List.exists_cons_of_ne_nil some_
        have some_rest : rest ≠ [] := by
          rintro rfl
          exact single rfl
        have nonzero : c ≠ '0' := by
          rw [WholePart, Bool.and_eq_true] at wholePart
          simpa [some_rest] using wholePart.2
        have one : WholePart (c :: rest ++ fraction) = true := by
          rw [List.cons_append, WholePart, Bool.and_eq_true, List.all_eq_true]
          exact ⟨all, by simp [nonzero]⟩
        have some_length := List.length_pos_of_ne_nil some_rest
        rw [toDigits_ofDigitChars one, List.leftpad, Nat.sub_eq_zero_of_le, List.replicate_zero, List.nil_append]
        rw [List.length_append, List.length_cons, length]
        omega
    obtain ⟨whole', fraction', decimal', text', length', all'⟩ :=
      formatUnits_written (Nat.ofDigitChars 10 (whole ++ fraction) 0) decimals
    rw [padded] at all'
    obtain ⟨rfl, rfl⟩ := List.append_inj' all' (length'.trans length.symm)
    rw [← String.toList_inj, text', is]

end AgentPey.DecimalTexts
