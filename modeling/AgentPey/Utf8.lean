import AgentPey.JsonTexts

/-!
UTF-8 of UTF-16 texts, as `Buffer.from` and `TextEncoder` make it: a surrogate that has no partner becomes U+FFFD. A text whose
surrogates are all in pairs has bytes of its own, and what `JSON.stringify` writes is such a text.
-/
namespace AgentPey.Utf8
open JsonNumbers JsonValues JsonTexts

abbrev Bytes := List UInt8

def isSurrogate (u : CodeUnit) : Bool := isHigh u || isLow u

def REPLACEMENT : ℕ := 0xFFFD

def pointOf (u : CodeUnit) : ℕ := if isSurrogate u then REPLACEMENT else u.val

def pairPoint (high low : CodeUnit) : ℕ := 0x10000 + (high.val - 0xD800) * 0x400 + (low.val - 0xDC00)

def points : Text → List ℕ
  | [] => []
  | [u] => [pointOf u]
  | u :: v :: rest => if isHigh u ∧ isLow v then pairPoint u v :: points rest else pointOf u :: points (v :: rest)

def pointBytes (c : ℕ) : List ℕ :=
  if c < 0x80 then [c]
  else if c < 0x800 then [0xC0 + c / 0x40, 0x80 + c % 0x40]
  else if c < 0x10000 then [0xE0 + c / 0x1000, 0x80 + c / 0x40 % 0x40, 0x80 + c % 0x40]
  else [0xF0 + c / 0x40000, 0x80 + c / 0x1000 % 0x40, 0x80 + c / 0x40 % 0x40, 0x80 + c % 0x40]

def utf8 (text : Text) : Bytes := ((points text).flatMap pointBytes).map UInt8.ofNat

/-! ### Bytes -/

section
variable {c d : ℕ} {text : Text}

theorem points_small : ∀ c ∈ points text, c < 0x110000 := by
  have one : ∀ u, pointOf u < 0x110000 := fun u => by
    have := u.isLt
    unfold pointOf REPLACEMENT
    split_ifs <;> omega
  fun_induction points text with
  | case1 => exact List.forall_mem_nil _
  | case2 u => exact List.forall_mem_singleton.mpr (one u)
  | case3 u v rest pair ih =>
    refine List.forall_mem_cons.mpr ⟨?_, ih⟩
    simp only [isHigh, isLow, decide_eq_true_eq] at pair
    unfold pairPoint
    omega
  | case4 u v rest apart ih => exact List.forall_mem_cons.mpr ⟨one u, ih⟩

theorem pointBytes_small (small : c < 0x110000) : ∀ b ∈ pointBytes c, b < 256 := by
  unfold pointBytes
  split_ifs <;> intro b among <;> simp only [List.mem_cons, List.not_mem_nil, or_false] at among <;> omega

/-- The bytes of a code point are no beginning of those of another one. -/
theorem pointBytes_inj (small : c < 0x110000) (small' : d < 0x110000) {r s : List ℕ}
    (same : pointBytes c ++ r = pointBytes d ++ s) : c = d ∧ r = s := by
  unfold pointBytes at same
  split_ifs at same <;> simp only [List.cons_append, List.nil_append, List.cons.injEq] at same
  all_goals first
    | omega
    | exact ⟨by omega, by tauto⟩

theorem flatMap_inj {cs ds : List ℕ} (small : ∀ c ∈ cs, c < 0x110000) (small' : ∀ d ∈ ds, d < 0x110000)
    (same : cs.flatMap pointBytes = ds.flatMap pointBytes) : cs = ds := by
  have some_ : ∀ c, pointBytes c ≠ [] := fun c => by
    unfold pointBytes
    split_ifs <;> simp
  induction cs generalizing ds with
  | nil =>
    cases ds with
    | nil => rfl
    | cons d rest => simp [some_] at same
  | cons c more ih =>
    cases ds with
    | nil => simp [some_] at same
    | cons d rest =>
      obtain ⟨first, others⟩ := List.forall_mem_cons.mp small
      obtain ⟨first', others'⟩ := List.forall_mem_cons.mp small'
      obtain ⟨rfl, later⟩ := pointBytes_inj first first' (by simpa using same)
      rw [ih others others' later]

theorem map_ofNat_inj {bs cs : List ℕ} (small : ∀ b ∈ bs, b < 256) (small' : ∀ c ∈ cs, c < 256)
    (same : bs.map UInt8.ofNat = cs.map UInt8.ofNat) : bs = cs := by
  have back : ∀ {bs : List ℕ}, (∀ b ∈ bs, b < 256) → (bs.map UInt8.ofNat).map UInt8.toNat = bs := fun {bs} small => by
    rw [List.map_map]
    exact (List.map_congr_left fun b among => Nat.mod_eq_of_lt (small b among)).trans (List.map_id bs)
  rw [← back small, ← back small', same]

variable {other : Text} {first u : CodeUnit}

theorem points_of_utf8 {text : Text} (same : utf8 text = utf8 other) : points text = points other := by
  have small : ∀ text : Text, ∀ b ∈ (points text).flatMap pointBytes, b < 256 := fun text b among => by
    obtain ⟨c, here, inside⟩ := List.mem_flatMap.mp among
    exact pointBytes_small (points_small c here) b inside
  exact flatMap_inj points_small points_small (map_ofNat_inj (small text) (small other) same)

/-! ### Texts in one piece -/

theorem points_append (rest : Text) (alone : isLow first = false) :
    points (text ++ first :: rest) = points text ++ points (first :: rest) := by
  fun_induction points text with
  | case1 => rfl
  | case2 u => simp [points, alone]
  | case3 u v others pair ih =>
    change points (u :: v :: (others ++ first :: rest)) = _
    rw [points, if_pos pair, ih]
    rfl
  | case4 u v others apart ih =>
    change points (u :: v :: (others ++ first :: rest)) = _
    rw [points, if_neg apart]
    exact congrArg (pointOf u :: ·) ih

theorem utf8_append (rest : Text) (alone : isLow first = false) :
    utf8 (text ++ first :: rest) = utf8 text ++ utf8 (first :: rest) := by
  unfold utf8
  rw [points_append rest alone, List.flatMap_append, List.map_append]

theorem points_ascii (ascii : ∀ u ∈ text, u.val < 0x80) : points text = text.map Fin.val := by
  have one : ∀ u : CodeUnit, u.val < 0x80 → isHigh u = false ∧ pointOf u = u.val := fun u small => by
    have high : isHigh u = false := by
      simp only [isHigh, decide_eq_false_iff_not]
      omega
    have low : isLow u = false := by
      simp only [isLow, decide_eq_false_iff_not]
      omega
    exact ⟨high, by simp [pointOf, isSurrogate, high, low]⟩
  fun_induction points text with
  | case1 => rfl
  | case2 u => rw [(one u (ascii u (List.mem_singleton_self u))).2, List.map_singleton]
  | case3 u v rest pair ih =>
    have high := (one u (ascii u List.mem_cons_self)).1
    rw [high] at pair
    exact absurd pair.1 Bool.false_ne_true
  | case4 u v rest apart ih =>
    rw [(one u (ascii u List.mem_cons_self)).2, ih fun w among => ascii w (List.mem_cons_of_mem _ among)]
    rfl

theorem utf8_ascii (ascii : ∀ u ∈ text, u.val < 0x80) : utf8 text = text.map fun u => UInt8.ofNat u.val := by
  unfold utf8
  rw [points_ascii ascii, List.flatMap_map]
  have single : (text.flatMap fun u => pointBytes u.val) = text.map Fin.val := by
    rw [← List.flatMap_singleton' (text.map Fin.val), List.flatMap_map]
    refine List.flatMap_congr fun u among => ?_
    exact if_pos (ascii u among)
  rw [single, List.map_map]
  rfl

theorem ascii_of_points (small : ∀ c ∈ points text, c < 0x80) : ∀ u ∈ text, u.val < 0x80 := by
  have one : ∀ u : CodeUnit, pointOf u < 0x80 → u.val < 0x80 := fun u small => by
    unfold pointOf REPLACEMENT at small
    split_ifs at small
    · omega
    · exact small
  fun_induction points text with
  | case1 => exact List.forall_mem_nil _
  | case2 u => exact List.forall_mem_singleton.mpr (one u (small _ (List.mem_singleton_self _)))
  | case3 u v rest pair ih =>
    have impossible := (List.forall_mem_cons.mp small).1
    unfold pairPoint at impossible
    omega
  | case4 u v rest apart ih =>
    obtain ⟨first, later⟩ := List.forall_mem_cons.mp small
    exact List.forall_mem_cons.mpr ⟨one u first, ih later⟩

/-- No other text has the bytes of one in ASCII. -/
theorem utf8_ascii_inj (ascii : ∀ u ∈ text, u.val < 0x80) (same : utf8 text = utf8 other) : text = other := by
  have equal := points_of_utf8 same
  rw [points_ascii ascii] at equal
  have ascii' : ∀ u ∈ other, u.val < 0x80 := by
    apply ascii_of_points
    rw [← equal]
    exact fun c among => by
      obtain ⟨u, inside, rfl⟩ := List.mem_map.mp among
      exact ascii u inside
  rw [points_ascii ascii'] at equal
  exact List.map_injective_iff.mpr Fin.val_injective equal

/-! ### Surrogates in pairs -/

def paired : Text → Bool
  | [] => true
  | [u] => !isSurrogate u
  | u :: v :: rest => if isHigh u ∧ isLow v then paired rest else !isSurrogate u && paired (v :: rest)

def pointUnits (c : ℕ) : Text :=
  if c < 0x10000 then [Fin.ofNat 65536 c]
  else [Fin.ofNat 65536 (0xD800 + (c - 0x10000) / 0x400), Fin.ofNat 65536 (0xDC00 + (c - 0x10000) % 0x400)]

theorem pointUnits_pointOf (alone : isSurrogate u = false) : pointUnits (pointOf u) = [u] := by
  unfold pointOf pointUnits
  rw [alone, if_neg Bool.false_ne_true, if_pos u.isLt]
  exact congrArg (fun u => [u]) (Fin.ext (Nat.mod_eq_of_lt u.isLt))

theorem pointUnits_pairPoint {v : CodeUnit}
    (pair : isHigh u = true ∧ isLow v = true) : pointUnits (pairPoint u v) = [u, v] := by
  simp only [isHigh, isLow, decide_eq_true_eq] at pair
  unfold pairPoint pointUnits
  rw [if_neg (by omega)]
  refine congrArg₂ (fun u v => [u, v]) (Fin.ext ?_) (Fin.ext ?_)
  · rw [Fin.val_ofNat]
    omega
  · rw [Fin.val_ofNat]
    omega

theorem pointUnits_points (pairs : paired text = true) : (points text).flatMap pointUnits = text := by
  fun_induction points text with
  | case1 => rfl
  | case2 u => simpa [paired] using pointUnits_pointOf (by simpa [paired] using pairs)
  | case3 u v rest pair ih =>
    rw [paired, if_pos pair] at pairs
    rw [List.flatMap_cons, pointUnits_pairPoint pair, ih pairs]
    rfl
  | case4 u v rest apart ih =>
    rw [paired, if_neg apart, Bool.and_eq_true, Bool.not_eq_true'] at pairs
    rw [List.flatMap_cons, pointUnits_pointOf pairs.1, ih pairs.2]
    rfl

theorem utf8_inj {text : Text} (pairs : paired text = true) (pairs' : paired other = true) (same : utf8 text = utf8 other) :
    text = other := by
  rw [← pointUnits_points pairs, ← pointUnits_points pairs', points_of_utf8 same]

theorem paired_append {s t : Text} (pairs : paired s = true) : paired (s ++ t) = paired t := by
  fun_induction paired s with
  | case1 => rfl
  | case2 u =>
    have alone : isHigh u = false := by
      simp only [isSurrogate, Bool.not_eq_true', Bool.or_eq_false_iff] at pairs
      exact pairs.1
    cases t with
    | nil => simpa [paired] using pairs
    | cons v rest =>
      change paired (u :: v :: rest) = _
      rw [paired, if_neg (by simp [alone]), pairs, Bool.true_and]
  | case3 u v rest pair ih =>
    change paired (u :: v :: (rest ++ t)) = _
    rw [paired, if_pos pair]
    exact ih pairs
  | case4 u v rest apart ih =>
    rw [Bool.and_eq_true] at pairs
    change paired (u :: v :: (rest ++ t)) = _
    rw [paired, if_neg apart, pairs.1, Bool.true_and]
    exact ih pairs.2

theorem paired_units (alone : ∀ u ∈ text, isSurrogate u = false) : paired text = true := by
  induction text with
  | nil => rfl
  | cons u rest ih =>
    obtain ⟨first, others⟩ := List.forall_mem_cons.mp alone
    rw [← List.singleton_append, paired_append (by simpa [paired] using first)]
    exact ih others

theorem alone_ascii (small : u.val < 0x80) : isSurrogate u = false := by
  simp only [isSurrogate, isHigh, isLow, Bool.or_eq_false_iff, decide_eq_false_iff_not]
  omega

theorem paired_cons (small : u.val < 0x80) (rest : Text) : paired (u :: rest) = paired rest :=
  paired_append (s := [u]) (by simpa [paired] using alone_ascii small)

/-! ### What `JSON.stringify` writes -/

theorem paired_hexEscape (u : CodeUnit) : paired (hexEscape u) = true := by
  have digit : ∀ n < 16, (hexDigit n).val < 0x80 := fun n small => by
    have all : ∀ k : Fin 16, (hexDigit k.1).val < 0x80 := by decide
    exact all ⟨n, small⟩
  have bound := u.isLt
  refine paired_units fun d among => alone_ascii ?_
  simp only [hexEscape, List.mem_cons, List.not_mem_nil, or_false] at among
  rcases among with rfl | rfl | rfl | rfl | rfl | rfl
  · decide
  · decide
  · exact digit _ (by omega)
  · exact digit _ (by omega)
  · exact digit _ (by omega)
  · exact digit _ (by omega)

theorem paired_escape (u : CodeUnit) : paired (escape u) = true := by
  rw [escape]
  by_cases mark : u = unit '"' ∨ u = unit '\\'
  · rw [if_pos mark]
    rcases mark with rfl | rfl <;> decide
  rw [if_neg mark]
  split_ifs with b t n f r hidden
  · decide
  · decide
  · decide
  · decide
  · decide
  · exact paired_hexEscape u
  · rw [not_or, not_or] at hidden
    simpa [paired, isSurrogate] using hidden.2

theorem paired_quoteUnits (s : Text) : paired (quoteUnits s) = true := by
  fun_induction quoteUnits s with
  | case1 => rfl
  | case2 u => exact paired_escape u
  | case3 u v others pair ih => rwa [paired, if_pos pair]
  | case4 u v others apart ih => rwa [paired_append (paired_escape u)]

theorem paired_quote (s : Text) : paired (quote s) = true := by
  rw [quote, paired_cons (by decide), paired_append (paired_quoteUnits s)]
  decide

theorem paired_numberText (n : Number) : paired (numberText n) = true := by
  refine paired_units fun u among => alone_ascii ?_
  rcases mem_numberText among with digit | mark
  · simp only [isDigit, decide_eq_true_eq] at digit
    omega
  · have small : marks.all (fun u => u.val < 0x80) = true := by decide
    simpa using List.all_eq_true.mp small u mark

theorem paired_commas {texts : List Text} (each : ∀ t ∈ texts, paired t = true) : paired (commas texts) = true := by
  cases texts with
  | nil => rfl
  | cons t rest =>
    obtain ⟨first, others⟩ := List.forall_mem_cons.mp each
    rw [commas, paired_append first]
    clear each
    induction rest with
    | nil => rfl
    | cons s more ih =>
      obtain ⟨next, later⟩ := List.forall_mem_cons.mp others
      rw [List.flatMap_cons, List.cons_append, paired_cons (by decide), paired_append next]
      exact ih later

theorem paired_stringify (v : Value) : paired (stringify v) = true := by
  induction v using Value.induction with
  | null => decide
  | bool b => cases b <;> decide
  | number n => exact paired_numberText n
  | string s => exact paired_quote s
  | array items ih =>
    have inner : paired (commas (items.map stringify)) = true := paired_commas fun t among => by
      obtain ⟨v, inside, rfl⟩ := List.mem_map.mp among
      exact ih v inside
    rw [stringify_array, paired_cons (by decide), paired_append inner]
    decide
  | object members ih =>
    have inner : paired (commas (members.map fun m => member (m.1, stringify m.2))) = true := paired_commas fun t among => by
      obtain ⟨m, inside, rfl⟩ := List.mem_map.mp among
      rw [member, paired_append (paired_quote m.1), paired_cons (by decide)]
      exact ih m inside
    rw [stringify_object, paired_cons (by decide), paired_append inner]
    decide

end

end AgentPey.Utf8
