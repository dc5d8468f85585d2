import Mathlib.Data.List.Basic
import Mathlib.Data.List.SplitOn
import Mathlib.Algebra.Ring.Int.Defs
import Mathlib.Algebra.Ring.Nat

/-!
IP addresses as numbers and as text. An IPv4 address is a number below `2 ^ 32`, written as four octets without leading
zeros; an IPv6 address is a number below `2 ^ 128`, written as groups of up to four hexadecimal digits, a run of zero
groups of which may be left out once, with the last two groups in decimal if one likes, and with a zone behind it.
-/
namespace AgentPey.IpAddresses
open Option (bind_eq_some_iff filter_eq_some_iff map_eq_some_iff)

abbrev Text := List Char

/-! ### Numerals -/

def digits : Text := "0123456789abcdef".toList

def digitValue (base : Nat) (c : Char) : Option Nat := (digits.take base).idxOf? c

def numeralFrom (base : Nat) (n : Nat) : Text → Option Nat
  | [] => some n
  | c :: rest => do
    let d ← digitValue base c
    numeralFrom base (base * n + d) rest

def numeral (base : Nat) (text : Text) : Option Nat := numeralFrom base 0 text

variable {base d n v g : Nat} {c : Char} {right : Text}

theorem digitValue_eq (value : digitValue base c = some d) : d < base ∧ digits[d]? = some c := by
  obtain ⟨within, found, _⟩ := List.idxOf?_eq_some_iff.mp value
  have short : d < base := by
    have bound := within
    rw [List.length_take] at bound
    omega
  refine ⟨short, ?_⟩
  rw [← List.getElem?_take_of_lt short, List.getElem?_eq_getElem within, found]

variable {text : Text}

theorem numeralFrom_le {m : Nat} (positive : 0 < base) (read : numeralFrom base n text = some m) : n ≤ m := by
  induction text generalizing n with
  | nil => exact Nat.le_of_eq (Option.some.inj read)
  | cons c rest ih =>
    obtain ⟨d, _, later⟩ := bind_eq_some_iff.mp read
    have grown := ih later
    have scaled := Nat.le_mul_of_pos_left n positive
    omega

theorem numeralFrom_lt {m : Nat} (read : numeralFrom base n text = some m) : m < (n + 1) * base ^ text.length := by
  induction text generalizing n with
  | nil =>
    obtain rfl : n = m := Option.some.inj read
    simp
  | cons c rest ih =>
    obtain ⟨d, value, later⟩ := bind_eq_some_iff.mp read
    have small := (digitValue_eq value).1
    refine Nat.lt_of_lt_of_le (ih later) ?_
    rw [List.length_cons, Nat.pow_succ', ← Nat.mul_assoc]
    refine Nat.mul_le_mul_right _ ?_
    rw [Nat.add_mul, Nat.one_mul, Nat.mul_comm n base]
    omega

theorem numeralFrom_digits {m : Nat} (read : numeralFrom base n text = some m) :
    ∀ c ∈ text, ∃ d, digitValue base c = some d := by
  induction text generalizing n with
  | nil => simp
  | cons c rest ih =>
    obtain ⟨d, value, later⟩ := bind_eq_some_iff.mp read
    exact List.forall_mem_cons.mpr ⟨⟨d, value⟩, ih later⟩

/-! ### IPv4 -/

def octet (part : Text) : Option Nat :=
  if part = [] ∨ 1 < part.length ∧ part.head? = some '0' then none else (numeral 10 part).filter (· < 256)

def parseIpv4 (text : Text) : Option Nat :=
  match (text.splitOn '.').map octet with
  | [some a, some b, some c, some d] => some (((a * 256 + b) * 256 + c) * 256 + d)
  | _ => none

/-! ### IPv6 -/

def hexGroup (piece : Text) : Option Nat :=
  if piece = [] ∨ 4 < piece.length then none else numeral 16 piece

/-- One group, or the two of an IPv4 address where that is admitted. -/
def readPiece (dotted : Bool) (piece : Text) : Option (List Nat) :=
  if dotted ∧ '.' ∈ piece then (parseIpv4 piece).map fun v => [v / 65536, v % 65536]
  else (hexGroup piece).map fun g => [g]

/-- The groups of the pieces between colons. `dotted` admits an IPv4 address in the last piece. -/
def readGroups (dotted : Bool) : List Text → Option (List Nat)
  | [] => some []
  | piece :: rest => do
    let here ← readPiece (dotted && rest.isEmpty) piece
    let more ← readGroups dotted rest
    pure (here ++ more)

def readSide (dotted : Bool) (text : Text) : Option (List Nat) :=
  if text = [] then some [] else readGroups dotted (text.splitOn ':')

/-- The text before and after the first `::`. -/
def cut : Text → Option (Text × Text)
  | [] => none
  | c :: rest =>
    if c = ':' ∧ rest.head? = some ':' then some ([], rest.tail)
    else (cut rest).map fun sides => (c :: sides.1, sides.2)

/-- Eight groups, of which `::` stands for at least one. -/
def readAddress (text : Text) : Option (List Nat) :=
  match cut text with
  | none => (readSide true text).filter fun groups => groups.length = 8
  | some (left, right) => do
    let before ← readSide false left
    let after ← readSide true right
    if before.length + after.length < 8 then
      some (before ++ (List.replicate (8 - (before.length + after.length)) 0 ++ after))
    else none

def zoneChar (c : Char) : Bool := c ∈ digits ∨ c.isAlphanum ∨ c = '-' ∨ c = '.' ∨ c = ':'

/-- Nothing, or a percent sign and a name. -/
def isZone : Text → Bool
  | [] => true
  | c :: name => c = '%' ∧ name ≠ [] ∧ name.all zoneChar

def value (groups : List Nat) : Nat := groups.foldl (fun v g => 65536 * v + g) 0

def groupsOf (lower : Text) : Option (List Nat) :=
  if isZone (lower.dropWhile (· ≠ '%')) then readAddress (lower.takeWhile (· ≠ '%')) else none

def lowerCase (text : Text) : Text := text.map Char.toLower

def parseIpv6 (text : Text) : Option Nat := (groupsOf (lowerCase text)).map value

/-- A range of addresses: those that begin with the first bits of one. -/
structure Range where
  base : Nat
  length : Nat

def Range.contains (width : Nat) (r : Range) (v : Nat) : Bool := v / 2 ^ (width - r.length) = r.base / 2 ^ (width - r.length)

/-! ### What a text that is read looks like -/

theorem mem_splitOn (sep : Char) (member : c ∈ text) : c = sep ∨ ∃ piece ∈ text.splitOn sep, c ∈ piece := by
  induction text with
  | nil => simp at member
  | cons first rest ih =>
    rw [List.splitOn_cons_eq_if_modifyHead]
    by_cases here : first = sep
    · subst here
      rcases List.mem_cons.mp member with rfl | inside
      · exact .inl rfl
      · rcases ih inside with same | ⟨piece, among, inside⟩
        · exact .inl same
        · exact .inr ⟨piece, by simp [among], inside⟩
    · obtain ⟨piece, pieces, split⟩ := List.exists_cons_of_ne_nil (List.splitOn_ne_nil sep rest)
      rw [if_neg (by simpa using here), split, List.modifyHead_cons]
      rcases List.mem_cons.mp member with rfl | inside
      · exact .inr ⟨c :: piece, by simp, by simp⟩
      · rcases ih inside with same | ⟨other, among, inside⟩
        · exact .inl same
        · rw [split] at among
          rcases List.mem_cons.mp among with rfl | later
          · exact .inr ⟨first :: other, by simp, by simp [inside]⟩
          · exact .inr ⟨other, by simp [later], inside⟩

variable {pieces : List Text}

theorem splitOn_first {text piece : Text} {sep : Char} (split : text.splitOn sep = piece :: pieces) :
    ∃ rest, text = piece ++ rest := by
  induction text generalizing piece pieces with
  | nil =>
    obtain ⟨rfl, _⟩ := List.cons.inj (split.symm.trans (List.splitOn_nil sep))
    exact ⟨[], rfl⟩
  | cons first text ih =>
    rw [List.splitOn_cons_eq_if_modifyHead] at split
    obtain ⟨p, ps, inner⟩ := List.exists_cons_of_ne_nil (List.splitOn_ne_nil sep text)
    rw [inner, List.modifyHead_cons] at split
    split_ifs at split
    · obtain ⟨rfl, _⟩ := List.cons.inj split
      exact ⟨first :: text, rfl⟩
    · obtain ⟨rfl, _⟩ := List.cons.inj split
      obtain ⟨rest, rfl⟩ := ih inner
      exact ⟨rest, rfl⟩

theorem cut_eq {text left : Text} (found : cut text = some (left, right)) : text = left ++ ':' :: ':' :: right := by
  induction text generalizing left with
  | nil => simp [cut] at found
  | cons c rest ih =>
    rw [cut] at found
    split_ifs at found with here
    · obtain ⟨rfl, second⟩ := here
      obtain ⟨rfl, rfl⟩ : [] = left ∧ rest.tail = right := by simpa using found
      rw [List.nil_append, List.eq_cons_of_mem_head? (Option.mem_def.mpr second)]
      rfl
    · obtain ⟨⟨left', right'⟩, inner, same⟩ := map_eq_some_iff.mp found
      obtain ⟨rfl, rfl⟩ : c :: left' = left ∧ right' = right := by simpa using same
      rw [ih inner]
      rfl

def addressChar (c : Char) : Bool := c ∈ digits ∨ c = '.' ∨ c = ':'

theorem digit_mem (value : digitValue base c = some d) : c ∈ digits :=
  List.mem_of_getElem? (digitValue_eq value).2

theorem numeral_chars (read : numeral base text = some n) : ∀ c ∈ text, c ∈ digits := by
  intro c member
  obtain ⟨d, value⟩ := numeralFrom_digits read c member
  exact digit_mem value

theorem octet_eq {part : Text} (read : octet part = some n) : numeral 10 part = some n ∧ n < 256 := by
  unfold octet at read
  split_ifs at read
  obtain ⟨number, small⟩ := filter_eq_some_iff.mp read
  exact ⟨number, by simpa using small⟩

section
variable (parsed : parseIpv4 text = some v)
include parsed

theorem parseIpv4_eq :
    ∃ p q r s a b c d, text.splitOn '.' = [p, q, r, s] ∧ octet p = some a ∧ octet q = some b ∧ octet r = some c ∧
      octet s = some d ∧ v = ((a * 256 + b) * 256 + c) * 256 + d := by
  unfold parseIpv4 at parsed
  split at parsed
  case h_1 a b c d parts =>
    obtain ⟨p, ps, split, ha, rest⟩ := List.map_eq_cons_iff.mp parts
    obtain ⟨q, qs, rfl, hb, rest⟩ := List.map_eq_cons_iff.mp rest
    obtain ⟨r, rs, rfl, hc, rest⟩ := List.map_eq_cons_iff.mp rest
    obtain ⟨s, ss, rfl, hd, rest⟩ := List.map_eq_cons_iff.mp rest
    obtain rfl := List.map_eq_nil_iff.mp rest
    exact ⟨p, q, r, s, a, b, c, d, split, ha, hb, hc, hd, (Option.some.inj parsed).symm⟩
  case h_2 => cases parsed

theorem parseIpv4_lt : v < 2 ^ 32 := by
  obtain ⟨_, _, _, _, a, b, c, d, _, ha, hb, hc, hd, rfl⟩ := parseIpv4_eq parsed
  have := (octet_eq ha).2
  have := (octet_eq hb).2
  have := (octet_eq hc).2
  have := (octet_eq hd).2
  omega

theorem parseIpv4_chars : ∀ c ∈ text, c ∈ digits ∨ c = '.' := by
  obtain ⟨p, q, r, s, _, _, _, _, split, ha, hb, hc, hd, _⟩ := parseIpv4_eq parsed
  intro c member
  rcases mem_splitOn '.' member with dot | ⟨piece, among, inside⟩
  · exact .inr dot
  · rw [split] at among
    refine .inl ?_
    rcases List.mem_cons.mp among with rfl | among
    · exact numeral_chars (octet_eq ha).1 c inside
    rcases List.mem_cons.mp among with rfl | among
    · exact numeral_chars (octet_eq hb).1 c inside
    rcases List.mem_cons.mp among with rfl | among
    · exact numeral_chars (octet_eq hc).1 c inside
    rcases List.mem_singleton.mp among with rfl
    exact numeral_chars (octet_eq hd).1 c inside

end

variable {piece : Text}

theorem hexGroup_eq (read : hexGroup piece = some g) : piece ≠ [] ∧ piece.length ≤ 4 ∧ numeral 16 piece = some g := by
  unfold hexGroup at read
  split_ifs at read with short
  exact ⟨fun none => short (.inl none), Nat.le_of_not_lt fun long => short (.inr long), read⟩

theorem hexGroup_lt (read : hexGroup piece = some g) : g < 65536 := by
  obtain ⟨_, short, number⟩ := hexGroup_eq read
  have bound := numeralFrom_lt number
  have widest : 16 ^ piece.length ≤ 16 ^ 4 := Nat.pow_le_pow_right (by decide) short
  omega

theorem hexGroup_pos {rest : Text} (read : hexGroup (c :: rest) = some g) (digit : digitValue 16 c = some d)
    (positive : 0 < d) : 0 < g := by
  obtain ⟨_, _, number⟩ := hexGroup_eq read
  obtain ⟨d', found, later⟩ := bind_eq_some_iff.mp number
  obtain rfl : d = d' := Option.some.inj (digit.symm.trans found)
  have grown := numeralFrom_le (by decide) later
  omega

/-- A group from `0x1000` on has all four of its digits. -/
theorem hexGroup_four (read : hexGroup piece = some g) (large : 4096 ≤ g) :
    ∃ c₀ c₁ c₂ c₃ d₀ d₁ d₂ d₃, piece = [c₀, c₁, c₂, c₃] ∧ digitValue 16 c₀ = some d₀ ∧ digitValue 16 c₁ = some d₁ ∧
      digitValue 16 c₂ = some d₂ ∧ digitValue 16 c₃ = some d₃ ∧ g = ((d₀ * 16 + d₁) * 16 + d₂) * 16 + d₃ := by
  obtain ⟨_, short, number⟩ := hexGroup_eq read
  have bound := numeralFrom_lt number
  have long : ¬piece.length ≤ 3 := by
    intro few
    have narrow : 16 ^ piece.length ≤ 16 ^ 3 := Nat.pow_le_pow_right (by decide) few
    omega
  obtain ⟨c₀, c₁, c₂, c₃, rfl⟩ : ∃ c₀ c₁ c₂ c₃, piece = [c₀, c₁, c₂, c₃] := by
    rcases piece with _ | ⟨c₀, _ | ⟨c₁, _ | ⟨c₂, _ | ⟨c₃, _ | ⟨c₄, rest⟩⟩⟩⟩⟩
    · simp at long
    · simp at long
    · simp at long
    · simp at long
    · exact ⟨c₀, c₁, c₂, c₃, rfl⟩
    · simp only [List.length_cons] at short
      omega
  obtain ⟨d₀, v₀, number⟩ := bind_eq_some_iff.mp number
  obtain ⟨d₁, v₁, number⟩ := bind_eq_some_iff.mp number
  obtain ⟨d₂, v₂, number⟩ := bind_eq_some_iff.mp number
  obtain ⟨d₃, v₃, number⟩ := bind_eq_some_iff.mp number
  have total := Option.some.inj number
  exact ⟨c₀, c₁, c₂, c₃, d₀, d₁, d₂, d₃, rfl, v₀, v₁, v₂, v₃, by omega⟩

/-! ### Groups -/

variable {dotted : Bool} {groups : List Nat}

theorem readGroups_cons (read : readGroups dotted (piece :: pieces) = some groups) :
    ∃ here more, groups = here ++ more ∧ readGroups dotted pieces = some more ∧
      ((dotted = true ∧ pieces = [] ∧ ∃ v, parseIpv4 piece = some v ∧ here = [v / 65536, v % 65536]) ∨
        ∃ g, hexGroup piece = some g ∧ here = [g]) := by
  rw [readGroups] at read
  obtain ⟨here, first, later⟩ := bind_eq_some_iff.mp read
  obtain ⟨more, rest, made⟩ := bind_eq_some_iff.mp later
  refine ⟨here, more, (Option.some.inj made).symm, rest, ?_⟩
  unfold readPiece at first
  split_ifs at first with last
  · obtain ⟨v, parsed, rfl⟩ := map_eq_some_iff.mp first
    obtain ⟨dots, none⟩ : dotted = true ∧ pieces = [] := by simpa using last.1
    exact .inl ⟨dots, none, v, parsed, rfl⟩
  · obtain ⟨g, parsed, rfl⟩ := map_eq_some_iff.mp first
    exact .inr ⟨g, parsed, rfl⟩

theorem readGroups_spec (read : readGroups dotted pieces = some groups) :
    (∀ g ∈ groups, g < 65536) ∧ ∀ piece ∈ pieces, ∀ c ∈ piece, addressChar c = true := by
  induction pieces generalizing groups with
  | nil =>
    obtain rfl : [] = groups := Option.some.inj read
    simp
  | cons piece pieces ih =>
    obtain ⟨here, more, rfl, rest, form⟩ := readGroups_cons read
    obtain ⟨small, chars⟩ := ih rest
    rw [List.forall_mem_append, List.forall_mem_cons]
    refine ⟨⟨?_, small⟩, ?_, chars⟩
    · rcases form with ⟨_, _, v, parsed, rfl⟩ | ⟨g, parsed, rfl⟩
      · have bound := parseIpv4_lt parsed
        simp only [List.mem_cons, List.not_mem_nil, or_false, forall_eq_or_imp, forall_eq]
        omega
      · simpa using hexGroup_lt parsed
    · intro c member
      rcases form with ⟨_, _, v, parsed, _⟩ | ⟨g, parsed, _⟩
      · rcases parseIpv4_chars parsed c member with digit | dot
        · simp [addressChar, digit]
        · simp [addressChar, dot]
      · simp [addressChar, numeral_chars (hexGroup_eq parsed).2.2 c member]

theorem readSide_spec (read : readSide dotted text = some groups) :
    (∀ g ∈ groups, g < 65536) ∧ ∀ c ∈ text, addressChar c = true := by
  unfold readSide at read
  by_cases none : text = []
  · subst none
    obtain rfl : [] = groups := by simpa using read
    simp
  · rw [if_neg none] at read
    obtain ⟨small, chars⟩ := readGroups_spec read
    refine ⟨small, fun c member => ?_⟩
    rcases mem_splitOn ':' member with colon | ⟨piece, among, inside⟩
    · simp [addressChar, colon]
    · exact chars piece among c inside

theorem readSide_first (read : readSide dotted text = some groups) (many : dotted = true → 2 < groups.length)
    (some' : text ≠ []) : ∃ piece rest g more, text = piece ++ rest ∧ hexGroup piece = some g ∧ groups = g :: more := by
  unfold readSide at read
  rw [if_neg some'] at read
  obtain ⟨piece, pieces, split⟩ := List.exists_cons_of_ne_nil (List.splitOn_ne_nil ':' text)
  rw [split] at read
  obtain ⟨here, more, rfl, rest, form⟩ := readGroups_cons read
  obtain ⟨tail, rfl⟩ := splitOn_first split
  rcases form with ⟨dots, rfl, v, _, rfl⟩ | ⟨g, parsed, rfl⟩
  · obtain rfl : [] = more := Option.some.inj rest
    have long := many dots
    simp at long
  · exact ⟨piece, tail, g, more, rfl, parsed, rfl⟩

theorem readAddress_spec (read : readAddress text = some groups) :
    groups.length = 8 ∧ (∀ g ∈ groups, g < 65536) ∧ ∀ c ∈ text, addressChar c = true := by
  unfold readAddress at read
  split at read
  case h_1 =>
    obtain ⟨side, eight⟩ := filter_eq_some_iff.mp read
    obtain ⟨small, chars⟩ := readSide_spec side
    exact ⟨by simpa using eight, small, chars⟩
  case h_2 left right found =>
    obtain ⟨before, readBefore, read⟩ := bind_eq_some_iff.mp read
    obtain ⟨after, readAfter, read⟩ := bind_eq_some_iff.mp read
    split_ifs at read with room
    obtain rfl := Option.some.inj read
    obtain ⟨small, chars⟩ := readSide_spec readBefore
    obtain ⟨small', chars'⟩ := readSide_spec readAfter
    refine ⟨?_, ?_, ?_⟩
    · simp only [List.length_append, List.length_replicate]
      omega
    · intro g member
      simp only [List.mem_append, List.mem_replicate] at member
      rcases member with early | ⟨_, rfl⟩ | late
      · exact small g early
      · decide
      · exact small' g late
    · rw [cut_eq found]
      intro c member
      simp only [List.mem_append, List.mem_cons] at member
      rcases member with early | rfl | rfl | late
      · exact chars c early
      · rfl
      · rfl
      · exact chars' c late

theorem readAddress_first (read : readAddress text = some groups) :
    (∃ right more, text = ':' :: ':' :: right ∧ groups = 0 :: more) ∨
      ∃ piece rest g more, text = piece ++ rest ∧ hexGroup piece = some g ∧ groups = g :: more := by
  unfold readAddress at read
  split at read
  case h_1 =>
    obtain ⟨side, eight⟩ := filter_eq_some_iff.mp read
    have eight : groups.length = 8 := by simpa using eight
    refine .inr (readSide_first side (fun _ => by omega) ?_)
    rintro rfl
    obtain rfl : [] = groups := by simpa [readSide] using side
    cases eight
  case h_2 left right found =>
    obtain ⟨before, readBefore, read⟩ := bind_eq_some_iff.mp read
    obtain ⟨after, _, read⟩ := bind_eq_some_iff.mp read
    split_ifs at read with room
    obtain rfl := Option.some.inj read
    rw [cut_eq found]
    by_cases start : left = []
    · subst start
      obtain rfl : [] = before := by simpa [readSide] using readBefore
      obtain ⟨n, zeros⟩ := Nat.exists_eq_succ_of_ne_zero (show 8 - ([].length + after.length) ≠ 0 by omega)
      refine .inl ⟨right, List.replicate n 0 ++ after, rfl, ?_⟩
      rw [zeros]
      rfl
    · obtain ⟨piece, rest, g, more, rfl, parsed, rfl⟩ := readSide_first readBefore (by simp) start
      exact .inr ⟨piece, rest ++ ':' :: ':' :: right, g, _, by simp, parsed, rfl⟩

/-- After `::` comes the end of the address, and before it zeros. -/
theorem readAddress_zeros (read : readAddress (':' :: ':' :: right) = some groups) :
    ∃ after, readSide true right = some after ∧ after.length < 8 ∧
      groups = List.replicate (8 - after.length) 0 ++ after := by
  have found : cut (':' :: ':' :: right) = some ([], right) := rfl
  unfold readAddress at read
  rw [found] at read
  obtain ⟨before, readBefore, read⟩ := bind_eq_some_iff.mp read
  obtain rfl : [] = before := by simpa [readSide] using readBefore
  obtain ⟨after, readAfter, read⟩ := bind_eq_some_iff.mp read
  simp only [List.length_nil, Nat.zero_add, List.nil_append] at read
  split_ifs at read with room
  exact ⟨after, readAfter, room, (Option.some.inj read).symm⟩

end AgentPey.IpAddresses
