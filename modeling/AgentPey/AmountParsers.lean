import AgentPey.Amounts
import AgentPey.DecimalTexts

/-!
The parsers of amounts: the vault's and the agent's (`Amounts`), `vitrinee-core`'s (`Receipts`) and `ucp-stellar`'s
(`ucp-stellar/src/amount.ts`). Each has a pattern and a padding of its own, and none reads another number of a text than
another one does.
-/
namespace AgentPey.AmountParsers
open Amounts FixedPoint Receipts DecimalTexts

/-! ### Atomic units -/

structure UcpStellarError where
  code : String
  message : String
  value : String
  decimals : ℕ

def notDecimalWithin (value : String) (decimals : ℕ) : UcpStellarError :=
  ⟨"InvalidArguments", "\"" ++ value ++ "\" is not a non-negative decimal with at most " ++ toString decimals ++ " places",
    value, decimals⟩

/-- `^(0|[1-9]\d*)(?:\.(\d+))?$`. -/
def wholeParts (cs : List Char) : Option (List Char × List Char) := (decimalParts cs).filter fun parts => WholePart parts.1

def toAtomic (value : String) (decimals : ℕ) : Except UcpStellarError ℕ :=
  match wholeParts value.toList with
  | none => .error (notDecimalWithin value decimals)
  | some (whole, fraction) =>
    if decimals < fraction.length then .error (notDecimalWithin value decimals)
    else .ok (Nat.ofDigitChars 10 whole 0 * 10 ^ decimals + Nat.ofDigitChars 10 (fraction.rightpad decimals '0') 0)

/-- Every place is shown. -/
def fromAtomic (atomic : Int) (decimals : ℕ) : String :=
  let sign := if atomic < 0 then ['-'] else []
  let whole := Nat.toDigits 10 (atomic.natAbs / 10 ^ decimals)
  if decimals = 0 then String.ofList (sign ++ whole)
  else String.ofList (sign ++ whole ++ '.' :: (Nat.toDigits 10 (atomic.natAbs % 10 ^ decimals)).leftpad decimals '0')

/-! ### The patterns -/

/-- A whole part without zeros in front, and as many digits behind the point as there are places, or fewer. -/
structure Within (places : ℕ) (whole fraction : List Char) : Prop where
  whole : WholePart whole = true
  short : fraction.length ≤ places
  digits : ∀ c ∈ fraction, c.isDigit = true

section
variable {places : ℕ} {cs whole fraction : List Char}

theorem Within.decimal (within : Within places whole fraction) : Decimal whole fraction where
  some_ := (wholePart_digits within.whole).1
  whole := (wholePart_digits within.whole).2
  fraction := within.digits

theorem decimalParts_iff : decimalParts cs = some (whole, fraction) ↔ cs = written whole fraction ∧ Decimal whole fraction := by
  constructor
  · intro read
    unfold decimalParts at read
    have cut := (List.takeWhile_append_dropWhile (p := Char.isDigit) (l := cs)).symm
    have digits : ∀ c ∈ cs.takeWhile Char.isDigit, c.isDigit = true := fun c among => List.mem_takeWhile_imp among
    split at read
    next rest =>
      dsimp only at read
      split_ifs at read with nothing
      cases read
      rw [rest] at cut
      exact ⟨cut, nothing, digits, fun _ among => nomatch among⟩
    next behind rest =>
      dsimp only at read
      split_ifs at read with wrong
      cases read
      simp only [not_or, not_not, List.all_eq_true] at wrong
      rw [rest] at cut
      exact ⟨by rwa [written, if_neg wrong.2.1], wrong.1, digits, wrong.2.2⟩
    · cases read
  · rintro ⟨rfl, decimal⟩
    exact decimal.parts

theorem wholeParts_iff : wholeParts cs = some (whole, fraction) ↔
    cs = written whole fraction ∧ WholePart whole = true ∧ ∀ c ∈ fraction, c.isDigit = true := by
  rw [wholeParts, Option.filter_eq_some_iff, decimalParts_iff]
  constructor
  · rintro ⟨⟨is, decimal⟩, wholePart⟩
    exact ⟨is, wholePart, decimal.fraction⟩
  · rintro ⟨is, wholePart, digits⟩
    exact ⟨⟨is, (wholePart_digits wholePart).1, (wholePart_digits wholePart).2, digits⟩, wholePart⟩

theorem cut_written (fraction : List Char) (digits : ∀ c ∈ whole, c.isDigit = true) :
    (written whole fraction).takeWhile (· != '.') = whole ∧
    (written whole fraction).dropWhile (· != '.') = if fraction = [] then [] else '.' :: fraction := by
  have apart : ∀ c ∈ whole, (c != '.') = true := fun c among => by
    rw [bne_iff_ne]
    rintro rfl
    exact absurd (digits _ among) (by decide)
  unfold written
  split_ifs
  · rw [List.append_nil]
    exact ⟨List.takeWhile_eq_self_iff.mpr apart, List.dropWhile_eq_nil_iff.mpr apart⟩
  · rw [List.takeWhile_append_of_pos apart, List.dropWhile_append_of_pos apart]
    simp

theorem parts_iff : FixedPoint.parts places cs = some (whole, fraction) ↔
    cs = written whole fraction ∧ Within places whole fraction := by
  constructor
  · intro read
    simp only [FixedPoint.parts] at read
    have cut := (List.takeWhile_append_dropWhile (p := (· != '.')) (l := cs)).symm
    split at read
    next rest =>
      split_ifs at read with wholePart
      cases read
      rw [rest] at cut
      exact ⟨cut, wholePart, Nat.zero_le _, fun _ among => absurd among List.not_mem_nil⟩
    next point behind rest =>
      split_ifs at read with both
      cases read
      simp only [Bool.and_eq_true, FractionPart, decide_eq_true_eq, List.all_eq_true] at both
      obtain ⟨wholePart, ⟨some_, short⟩, digits⟩ := both
      obtain rfl : point = '.' := by
        have head := List.head?_dropWhile_not (· != '.') cs
        rw [rest] at head
        simpa using head
      have nonempty : fraction ≠ [] := by
        rintro rfl
        exact absurd some_ (by decide)
      rw [rest] at cut
      exact ⟨by rwa [written, if_neg nonempty], wholePart, short, digits⟩
  · rintro ⟨rfl, within⟩
    obtain ⟨before, after⟩ := cut_written fraction within.decimal.whole
    simp only [FixedPoint.parts, before, after]
    by_cases nothing : fraction = []
    · subst nothing
      simp [within.whole]
    · have some_ := List.length_pos_of_ne_nil nothing
      have part : FractionPart places fraction = true := by
        simp only [FractionPart, Bool.and_eq_true, decide_eq_true_eq, List.all_eq_true]
        exact ⟨⟨some_, within.short⟩, within.digits⟩
      simp [nothing, within.whole, part]

/-! ### The numbers -/

def units (places : ℕ) (whole fraction : List Char) : ℕ :=
  Nat.ofDigitChars 10 whole 0 * 10 ^ places + Nat.ofDigitChars 10 (fraction.rightpad places '0') 0

theorem padded_eq (short : fraction.length ≤ places) : padded places fraction = fraction.rightpad places '0' := by
  rw [padded, List.take_append, List.take_of_length_le short, List.take_replicate, Nat.min_eq_left (Nat.sub_le _ _)]
  rfl

variable {n : ℕ} {value : String}

theorem scale_iff : scale places cs = some n ↔
    ∃ whole fraction, cs = written whole fraction ∧ Within places whole fraction ∧ units places whole fraction = n := by
  rw [scale, Option.map_eq_some_iff]
  constructor
  · rintro ⟨⟨whole, fraction⟩, read, rfl⟩
    obtain ⟨is, within⟩ := parts_iff.mp read
    exact ⟨whole, fraction, is, within, by simp only [units, padded_eq within.short]⟩
  · rintro ⟨whole, fraction, is, within, rfl⟩
    exact ⟨(whole, fraction), parts_iff.mpr ⟨is, within⟩, by simp only [units, padded_eq within.short]⟩

theorem toAtomic_iff : toAtomic value places = .ok n ↔
    ∃ whole fraction, value.toList = written whole fraction ∧ Within places whole fraction ∧ units places whole fraction = n := by
  unfold toAtomic
  constructor
  · intro ran
    split at ran
    next => cases ran
    next whole fraction read =>
      split_ifs at ran with long
      cases ran
      obtain ⟨is, wholePart, digits⟩ := wholeParts_iff.mp read
      exact ⟨whole, fraction, is, ⟨wholePart, Nat.le_of_not_lt long, digits⟩, rfl⟩
  · rintro ⟨whole, fraction, is, within, rfl⟩
    rw [wholeParts_iff.mpr ⟨is, within.whole, within.digits⟩]
    exact if_neg (Nat.not_lt.mpr within.short)

theorem parseDecimal_within (is : value.toList = written whole fraction)
    (within : Within places whole fraction) : parseDecimal value places = .ok (units places whole fraction) := by
  have read : decimalParts (trim value.toList) = some (whole, fraction) := partsOf_written within.decimal is
  have length : (fraction.rightpad places '0').length = places := by
    rw [List.length_rightpad, Nat.max_eq_left within.short]
  unfold parseDecimal
  simp only [read, if_neg (Nat.not_lt.mpr within.short), units]
  rw [Nat.ofDigitChars_append, Nat.ofDigitChars_eq_ofDigitChars_zero, length, Nat.mul_comm]

end

/-! ### Agreement -/

/-- `(0|[1-9]\d*)(\.\d{1,7})?`, for any number of places. -/
def CanonicalDecimal (places : ℕ) (text : String) : Prop :=
  ∃ whole fraction, text.toList = written whole fraction ∧ Within places whole fraction

/-- All of them read one number. -/
structure Agree (text : String) (n : ℕ) : Prop where
  vault : scaleAmount text = .ok n
  agent : toScaledAmount text = .ok n
  ucp : toAtomic text AMOUNT_DECIMALS = .ok n
  core : parseDecimal text USDC_DECIMALS = .ok n

section
variable {text : String} {n : ℕ}

theorem toScaledAmount_iff : toScaledAmount text = .ok n ↔ scale AMOUNT_DECIMALS text.toList = some n := by
  rw [toScaledAmount]
  cases scale AMOUNT_DECIMALS text.toList with
  | some m => simp
  | none => simp

theorem agree_of_scale (reads : scale AMOUNT_DECIMALS text.toList = some n) : Agree text n where
  vault := scaleAmount_eq_ok.mpr (toScaledAmount_iff.mpr reads)
  agent := toScaledAmount_iff.mpr reads
  ucp := toAtomic_iff.mpr (scale_iff.mp reads)
  core := by
    obtain ⟨whole, fraction, is, within, rfl⟩ := scale_iff.mp reads
    exact parseDecimal_within is within

theorem agree_of_canonical (canonical : CanonicalDecimal AMOUNT_DECIMALS text) : ∃ n, Agree text n := by
  obtain ⟨whole, fraction, is, within⟩ := canonical
  exact ⟨_, agree_of_scale (scale_iff.mpr ⟨whole, fraction, is, within, rfl⟩)⟩

/-- What one of the three strict parsers accepts is canonical, and all four read it alike. -/
theorem agree_of_accepted
    (accepted : scaleAmount text = .ok n ∨ toScaledAmount text = .ok n ∨ toAtomic text AMOUNT_DECIMALS = .ok n) : Agree text n := by
  refine agree_of_scale ?_
  rcases accepted with vault | agent | ucp
  · exact toScaledAmount_iff.mp (scaleAmount_eq_ok.mp vault)
  · exact toScaledAmount_iff.mp agent
  · exact scale_iff.mpr (toAtomic_iff.mp ucp)

theorem Agree.canonical (agree : Agree text n) : CanonicalDecimal AMOUNT_DECIMALS text := by
  obtain ⟨whole, fraction, is, within, _⟩ := toAtomic_iff.mp agree.ucp
  exact ⟨whole, fraction, is, within⟩

theorem Canonical.within (all : Canonical AMOUNT_DECIMALS text) : CanonicalDecimal AMOUNT_DECIMALS text := by
  obtain ⟨whole, fraction, is, wholePart, length, digits⟩ := all
  exact ⟨whole, fraction, is, wholePart, length.le, digits⟩

theorem agree_unscale (n : ℕ) : Agree (String.ofList (unscale AMOUNT_DECIMALS n)) n := by
  refine agree_of_scale ?_
  rw [String.toList_ofList]
  exact scale_unscale (by decide) n

theorem unscale_eq_formatUnits (n : ℕ) : String.ofList (unscale AMOUNT_DECIMALS n) = formatUnits n AMOUNT_DECIMALS := by
  have all : Canonical AMOUNT_DECIMALS (String.ofList (unscale AMOUNT_DECIMALS n)) := by
    have cut := parts_unscale (show 0 < AMOUNT_DECIMALS by decide) n
    obtain ⟨is, within⟩ := parts_iff.mp cut
    refine ⟨_, _, (String.toList_ofList ..).trans is, within.whole, le_antisymm within.short ?_, within.digits⟩
    rw [List.length_leftpad]
    exact Nat.le_max_left _ _
  obtain ⟨m, read, written_⟩ := formatUnits_parseDecimal all
  obtain rfl : n = m := Except.ok.inj ((agree_unscale n).core.symm.trans read)
  exact written_.symm

theorem fromAtomic_natCast (n : ℕ) : fromAtomic n AMOUNT_DECIMALS = formatUnits n AMOUNT_DECIMALS := by
  rw [← unscale_eq_formatUnits, fromAtomic, if_neg (by decide), if_neg (by omega), Int.natAbs_natCast]
  rfl

end

/-- A text is read by the vault, the agent and `ucp-stellar` exactly when it is a canonical decimal, and then by `vitrinee-core`
    too, and all of them read one number; the decimals with seven places are those that are written, and reading and writing
    them are inverse. -/
theorem parsers_agree (text : String) (n : ℕ) : (CanonicalDecimal AMOUNT_DECIMALS text → ∃ m, Agree text m) ∧
    (scaleAmount text = .ok n ∨ toScaledAmount text = .ok n ∨ toAtomic text AMOUNT_DECIMALS = .ok n →
      CanonicalDecimal AMOUNT_DECIMALS text ∧ Agree text n) ∧
    (CanonicalDecimal AMOUNT_DECIMALS text → parseDecimal text USDC_DECIMALS = .ok n → Agree text n) ∧
    (Canonical AMOUNT_DECIMALS text → ∃ m : ℕ, Agree text m ∧ fromScaledAmount m = .ok text ∧ unscaleAmount m = text) ∧
    ∃ written_, Canonical AMOUNT_DECIMALS written_ ∧ fromScaledAmount n = .ok written_ ∧ unscaleAmount n = written_ ∧
      fromAtomic n AMOUNT_DECIMALS = written_ ∧ Agree written_ n := by
  have written_ : ∀ m : ℕ, fromScaledAmount m = .ok (formatUnits m AMOUNT_DECIMALS) ∧
      unscaleAmount m = formatUnits m AMOUNT_DECIMALS := fun m =>
    ⟨by rw [fromScaledAmount_natCast, unscale_eq_formatUnits], by rw [unscaleAmount_natCast, unscale_eq_formatUnits]⟩
  refine ⟨agree_of_canonical, fun accepted => ?_, fun canonical core => ?_, fun all => ?_, ?_⟩
  · have agree := agree_of_accepted accepted
    exact ⟨agree.canonical, agree⟩
  · obtain ⟨m, agree⟩ := agree_of_canonical canonical
    obtain rfl : n = m := Except.ok.inj (core.symm.trans agree.core)
    exact agree
  · obtain ⟨m, agree⟩ := agree_of_canonical (Canonical.within all)
    obtain ⟨k, core, same⟩ := formatUnits_parseDecimal all
    obtain rfl : m = k := Except.ok.inj (agree.core.symm.trans core)
    exact ⟨m, agree, by rw [(written_ m).1, same], by rw [(written_ m).2, same]⟩
  · refine ⟨formatUnits n AMOUNT_DECIMALS, canonical_formatUnits n _, (written_ n).1, (written_ n).2, fromAtomic_natCast n, ?_⟩
    rw [← unscale_eq_formatUnits]
    exact agree_unscale n

end AgentPey.AmountParsers
