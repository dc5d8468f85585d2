import AgentPey.AgentPass
import AgentPey.FixedPoint

/-!
JavaScript dates. A date is a time value in milliseconds since the epoch or the
invalid date; its text is the one of `toISOString`, and `dayKey` cuts the UTC day
off that text, as the ledgers do. The calendar counts from a first of March, so
that a leap day is the last day of its year.
-/
namespace AgentPey.Dates
open AgentPass

def MS_PER_DAY : Int := 86400000

/-- A time value of a valid date, within a hundred million days of the epoch. -/
structure TimeValue where
  ms : Int
  inRange : -100000000 * MS_PER_DAY ≤ ms ∧ ms ≤ 100000000 * MS_PER_DAY
  deriving DecidableEq

/-- A date, or `Invalid Date`. -/
abbrev Date := Option TimeValue

/-- A day of the proleptic Gregorian calendar. -/
structure Civil where
  year : Int
  month : Int
  day : Int

/-- The days from the first of March of year 0 to the epoch. -/
def EPOCH : Int := 719468

/-- The calendar day that lies so many days after the epoch. -/
def civil (days : Int) : Civil :=
  let z := days + EPOCH
  let inEra := z % 146097
  let century := min 3 (inEra / 36524)
  let inCentury := inEra - 36524 * century
  let inCycle := inCentury % 1461
  let yearOfCycle := min 3 (inCycle / 365)
  let inYear := inCycle - 365 * yearOfCycle
  let year := 400 * (z / 146097) + 100 * century + 4 * (inCentury / 1461) + yearOfCycle
  let march := (5 * inYear + 2) / 153
  let day := inYear - (153 * march + 2) / 5 + 1
  if march < 10 then ⟨year, march + 3, day⟩ else ⟨year + 1, march - 9, day⟩

def daysOf (c : Civil) : Int :=
  let year := if c.month ≤ 2 then c.year - 1 else c.year
  let march := if c.month ≤ 2 then c.month + 9 else c.month - 3
  let inEra := 365 * (year % 400) + year % 400 / 4 - year % 400 / 100 + (153 * march + 2) / 5 + c.day - 1
  146097 * (year / 400) + inEra - EPOCH

def padStart (width : Nat) (n : Int) : List Char := List.leftpad width '0' (Nat.toDigits 10 n.toNat)

def yearText (year : Int) : List Char :=
  if 0 ≤ year ∧ year ≤ 9999 then padStart 4 year
  else (if year < 0 then '-' else '+') :: padStart 6 |year|

def dayText (c : Civil) : List Char := yearText c.year ++ '-' :: padStart 2 c.month ++ '-' :: padStart 2 c.day

def timeText (ms : Int) : List Char :=
  padStart 2 (ms / 3600000) ++ ':' :: padStart 2 (ms / 60000 % 60) ++ ':' :: padStart 2 (ms / 1000 % 60) ++
    '.' :: padStart 3 (ms % 1000) ++ ['Z']

def TimeValue.civil (t : TimeValue) : Civil := Dates.civil (t.ms / MS_PER_DAY)

def TimeValue.text (t : TimeValue) : List Char := dayText t.civil ++ 'T' :: timeText (t.ms % MS_PER_DAY)

/-- `date.toISOString()`. -/
def toISOString : Date → Result String
  | none => .error (.RangeError "Invalid time value")
  | some t => .ok (String.ofList t.text)

/-- `text.slice(0, text.indexOf("T"))`; without a `T` the index is -1, and the
    last character is cut off. -/
def sliceToT (text : String) : String :=
  if 'T' ∈ text.toList then String.ofList (text.toList.takeWhile (· != 'T')) else String.ofList text.toList.dropLast

/-- `YYYY-MM-DD`, in UTC. -/
def utcDayKey (at_ : Date) : Result String := do
  let iso ← toISOString at_
  pure (sliceToT iso)

/-! ### Reading a date -/

def readNumber (cs : List Char) : Option Int :=
  if !cs.isEmpty && cs.all Char.isDigit then some (Nat.ofDigitChars 10 cs 0) else none

/-- The milliseconds after the minutes: nothing, whole seconds, or seconds with a
    fraction of which three places count. -/
def readSeconds : List Char → Option Int
  | ['Z'] => some 0
  | [':', s₁, s₂, 'Z'] => do
    let seconds ← readNumber [s₁, s₂]
    pure (1000 * seconds)
  | ':' :: s₁ :: s₂ :: '.' :: rest => do
    let seconds ← readNumber [s₁, s₂]
    let _ ← readNumber rest.dropLast
    let millis ← readNumber (FixedPoint.padded 3 rest.dropLast)
    if rest.getLast? = some 'Z' then pure (1000 * seconds + millis) else none
  | _ => none

def TimeValue.ofMs (ms : Int) : Date :=
  if inRange : -100000000 * MS_PER_DAY ≤ ms ∧ ms ≤ 100000000 * MS_PER_DAY then some ⟨ms, inRange⟩ else none

/-- `new Date(text)` for the UTC date-times that the schemas accept. -/
def parse (text : String) : Date :=
  match text.toList with
  | y₁ :: y₂ :: y₃ :: y₄ :: '-' :: m₁ :: m₂ :: '-' :: d₁ :: d₂ :: 'T' :: h₁ :: h₂ :: ':' :: n₁ :: n₂ :: rest => do
    let year ← readNumber [y₁, y₂, y₃, y₄]
    let month ← readNumber [m₁, m₂]
    let day ← readNumber [d₁, d₂]
    let hours ← readNumber [h₁, h₂]
    let minutes ← readNumber [n₁, n₂]
    let millis ← readSeconds rest
    TimeValue.ofMs (MS_PER_DAY * daysOf ⟨year, month, day⟩ + 3600000 * hours + 60000 * minutes + millis)
  | _ => none

/-- `a.getTime() < b.getTime()`: an invalid date is before and after none. -/
def before (a b : Date) : Bool :=
  match a, b with
  | some t, some u => t.ms < u.ms
  | _, _ => false

def TimeValue.dayKey (t : TimeValue) : String := String.ofList (dayText t.civil)

/-! ### The day of a text -/

variable {width : Nat} {n : Int} {c : Char} {t : TimeValue}

private theorem mem_padStart (member : c ∈ padStart width n) : c.isDigit = true := by
  rcases List.mem_append.mp member with pad | digit
  · rw [(List.mem_replicate.mp pad).2]
    decide
  · exact FixedPoint.isDigit_of_mem digit

private theorem mem_yearText {year : Int} (member : c ∈ yearText year) : c ≠ 'T' := by
  rw [yearText] at member
  rintro rfl
  split_ifs at member
  · exact absurd (mem_padStart member) (by decide)
  · rcases List.mem_cons.mp member with impossible | digit
    · cases impossible
    · exact absurd (mem_padStart digit) (by decide)
  · rcases List.mem_cons.mp member with impossible | digit
    · cases impossible
    · exact absurd (mem_padStart digit) (by decide)

theorem dayText_run (c : Civil) : ∀ d ∈ dayText c, (d != 'T') = true := by
  intro d member
  rw [bne_iff_ne]
  simp only [dayText, List.mem_append, List.mem_cons] at member
  rcases member with (year | rfl | month) | rfl | day
  · exact mem_yearText year
  · decide
  · rintro rfl
    exact absurd (mem_padStart month) (by decide)
  · decide
  · rintro rfl
    exact absurd (mem_padStart day) (by decide)

theorem sliceToT_text (t : TimeValue) : sliceToT (String.ofList t.text) = t.dayKey := by
  have marked : 'T' ∈ t.text := by simp [TimeValue.text]
  rw [sliceToT, String.toList_ofList, if_pos marked, TimeValue.text,
    List.takeWhile_append_of_pos (dayText_run _), TimeValue.dayKey]
  simp

@[simp] theorem utcDayKey_some (t : TimeValue) : utcDayKey (some t) = .ok t.dayKey := by
  rw [utcDayKey, toISOString, ok_bind, sliceToT_text]
  rfl

@[simp] theorem utcDayKey_none : utcDayKey none = .error (.RangeError "Invalid time value") := rfl

theorem utcDayKey_eq_ok {at_ : Date} {day : String} (keyed : utcDayKey at_ = .ok day) :
    ∃ t, at_ = some t ∧ day = t.dayKey := by
  cases at_ with
  | none => cases keyed
  | some t =>
    rw [utcDayKey_some] at keyed
    cases keyed
    exact ⟨t, rfl, rfl⟩

/-! ### Years of four digits -/

private theorem length_padStart (positive : 0 < width) (fits : n.toNat < 10 ^ width) : (padStart width n).length = width := by
  have short : (Nat.toDigits 10 n.toNat).length ≤ width :=
    (Nat.length_toDigits_le_iff (by omega) positive).mpr fits
  rw [padStart, List.length_leftpad]
  omega

theorem civil_bounds (days : Int) :
    1 ≤ (civil days).month ∧ (civil days).month ≤ 12 ∧ 1 ≤ (civil days).day ∧ (civil days).day ≤ 31 := by
  simp only [civil]
  split_ifs
  all_goals
    refine ⟨?_, ?_, ?_, ?_⟩ <;> dsimp only <;> omega

/-- The years whose dates have ten characters, as every date of a running host has. -/
def TimeValue.FourDigits (t : TimeValue) : Prop := 0 ≤ t.civil.year ∧ t.civil.year ≤ 9999

/-- With a year of four digits a day has ten characters. -/
theorem dayText_take (fourDigits : t.FourDigits) : t.text.take 10 = dayText t.civil := by
  obtain ⟨month, month', day, day'⟩ := civil_bounds (t.ms / MS_PER_DAY)
  have years : (yearText t.civil.year).length = 4 := by
    obtain ⟨low, high⟩ := fourDigits
    rw [yearText, if_pos ⟨low, high⟩]
    exact length_padStart (by omega) (by omega)
  have months : (padStart 2 t.civil.month).length = 2 := by
    apply length_padStart (by omega)
    rw [TimeValue.civil]
    omega
  have days : (padStart 2 t.civil.day).length = 2 := by
    apply length_padStart (by omega)
    rw [TimeValue.civil]
    omega
  have ten : (dayText t.civil).length = 10 := by
    simp only [dayText, List.length_append, List.length_cons, years, months, days]
  rw [TimeValue.text, List.take_append_of_le_length ten.ge]
  exact List.take_of_length_le ten.le

theorem dayText_digit (fourDigits : t.FourDigits) {rest : List Char}
    (begins : dayText t.civil = c :: rest) : c.isDigit = true := by
  have padded : padStart 4 t.civil.year ≠ [] := by
    intro empty
    have long := congrArg List.length empty
    rw [padStart, List.length_leftpad, List.length_nil] at long
    omega
  obtain ⟨d, more, year⟩ := List.exists_cons_of_ne_nil padded
  have years : yearText t.civil.year = padStart 4 t.civil.year := if_pos fourDigits
  rw [dayText, years, year] at begins
  cases begins
  exact mem_padStart (year ▸ List.mem_cons_self)

theorem dayText_signed (others : ¬t.FourDigits) :
    10 < (dayText t.civil).length ∧ ∃ c rest, dayText t.civil = c :: rest ∧ c.isDigit = false := by
  have signed : yearText t.civil.year = (if t.civil.year < 0 then '-' else '+') :: padStart 6 |t.civil.year| :=
    if_neg others
  constructor
  · have six : 6 ≤ (padStart 6 |t.civil.year|).length := by
      rw [padStart, List.length_leftpad]
      omega
    have two : ∀ n, 2 ≤ (padStart 2 n).length := by
      intro n
      rw [padStart, List.length_leftpad]
      omega
    have month := two t.civil.month
    have day := two t.civil.day
    simp only [dayText, signed, List.length_append, List.length_cons]
    omega
  · refine ⟨_, _, by rw [dayText, signed]; rfl, ?_⟩
    split_ifs <;> decide

end AgentPey.Dates
