import AgentPey.JsonNumbers

/-!
Texts that are put together from fixed words and from other texts, and how they are taken apart: words that a text starts with,
and separators that the parts between them do not hold.
-/
namespace AgentPey.TextLines
open JsonNumbers

def words (s : String) : Text := units s.toList

def newline : CodeUnit := unit '\n'

def following (start text : Text) : Option Text := if start.isPrefixOf text then some (text.drop start.length) else none

theorem following_append (start t : Text) : following start (start ++ t) = some t := by
  unfold following
  rw [if_pos (List.isPrefixOf_iff_prefix.mpr (List.prefix_append start t)), List.drop_left]

variable {α : Type}

theorem mem_splitOn [BEq α] [LawfulBEq α] {u sep : α} {t : List α} {parts : List (List α)}
    (split : t.splitOn sep = parts) (among : u ∈ t) : u = sep ∨ ∃ part ∈ parts, u ∈ part := by
  have whole : [sep].intercalate (t.splitOn sep) = t := List.intercalate_splitOn sep
  rw [← whole, split] at among
  clear split
  induction parts with
  | nil => exact nomatch among
  | cons part rest ih =>
    cases rest with
    | nil => exact .inr ⟨part, List.mem_singleton_self _, by simpa [List.intercalate] using among⟩
    | cons next more =>
      rw [List.intercalate_cons_cons] at among
      simp only [List.mem_append, List.mem_singleton] at among
      rcases among with (here | same) | later
      · exact .inr ⟨part, List.mem_cons_self, here⟩
      · exact .inl same
      · rcases ih later with same | ⟨other, there, inside⟩
        · exact .inl same
        · exact .inr ⟨other, List.mem_cons_of_mem _ there, inside⟩

variable {sep : α}

variable {x : List α}

theorem not_mem_of_splitOn [BEq α] [LawfulBEq α] {part : List α} (single : x.splitOn sep = [part]) : sep ∉ x := by
  intro among
  obtain ⟨before, after, rfl⟩ := List.append_of_mem among
  rw [List.splitOn_append_cons_self] at single
  have lengths := congrArg List.length single
  have first := List.length_pos_of_ne_nil (List.splitOn_ne_nil sep before)
  have second := List.length_pos_of_ne_nil (List.splitOn_ne_nil sep after)
  simp only [List.length_append, List.length_singleton] at lengths
  omega

theorem splitOn_pair [BEq α] [LawfulBEq α] {y first second : List α} (pair : (x ++ sep :: y).splitOn sep = [first, second]) :
    sep ∉ x ∧ sep ∉ y ∧ first = x ∧ second = y := by
  rw [List.splitOn_append_cons_self] at pair
  have left := List.length_pos_of_ne_nil (List.splitOn_ne_nil sep x)
  have right := List.length_pos_of_ne_nil (List.splitOn_ne_nil sep y)
  obtain ⟨a, alone⟩ : ∃ a, x.splitOn sep = [a] := by
    refine List.length_eq_one_iff.mp ?_
    have lengths := congrArg List.length pair
    simp only [List.length_append, List.length_cons, List.length_nil] at lengths
    omega
  rw [alone, List.singleton_append, List.cons.injEq] at pair
  obtain ⟨rfl, other⟩ := pair
  have without := not_mem_of_splitOn alone
  have without' := not_mem_of_splitOn other
  rw [List.splitOn_eq_singleton without, List.cons.injEq] at alone
  rw [List.splitOn_eq_singleton without', List.cons.injEq] at other
  exact ⟨without, without', alone.1.symm, other.1.symm⟩

theorem cut_first {x' y y' : List α} (same : x ++ sep :: y = x' ++ sep :: y') (first : sep ∉ x) (first' : sep ∉ x')
    : x = x' ∧ y = y' := by
  induction x generalizing x' with
  | nil =>
    cases x' with
    | nil => exact ⟨rfl, (List.cons.inj same).2⟩
    | cons a rest =>
      obtain ⟨rfl, _⟩ := List.cons.inj same
      exact absurd List.mem_cons_self first'
  | cons a rest ih =>
    cases x' with
    | nil =>
      obtain ⟨rfl, _⟩ := List.cons.inj same
      exact absurd List.mem_cons_self first
    | cons b more =>
      obtain ⟨rfl, later⟩ := List.cons.inj same
      obtain ⟨rfl, rfl⟩ := ih later (fun inside => first (List.mem_cons_of_mem _ inside)) fun inside =>
        first' (List.mem_cons_of_mem _ inside)
      exact ⟨rfl, rfl⟩

theorem cut_last {x' y y' : List α} (same : x ++ sep :: y = x' ++ sep :: y') (last : sep ∉ y) (last' : sep ∉ y')
    : x = x' ∧ y = y' := by
  have turned := congrArg List.reverse same
  simp only [List.reverse_append, List.reverse_cons, List.append_assoc, List.singleton_append] at turned
  obtain ⟨one, other⟩ := cut_first turned (by simpa using last) (by simpa using last')
  exact ⟨List.reverse_injective other, List.reverse_injective one⟩

/-- Two texts that are joined from two parts each: cut at one place, or one first part goes on to the other's break. -/
theorem joined_cut {p q s t : List α} (same : p ++ sep :: s = q ++ sep :: t) :
    p = q ∧ s = t ∨ (∃ r, q = p ++ sep :: r) ∨ ∃ r, p = q ++ sep :: r := by
  rcases List.append_eq_append_iff.mp same with ⟨more, longer, rest⟩ | ⟨more, longer, rest⟩
  · cases more with
    | nil => exact .inl ⟨by simpa using longer.symm, by simpa using rest⟩
    | cons u r =>
      obtain ⟨rfl, _⟩ := List.cons.inj rest
      exact .inr (.inl ⟨r, longer⟩)
  · cases more with
    | nil => exact .inl ⟨by simpa using longer, by simpa using rest.symm⟩
    | cons u r =>
      obtain ⟨rfl, _⟩ := List.cons.inj rest
      exact .inr (.inr ⟨r, longer⟩)

end AgentPey.TextLines
