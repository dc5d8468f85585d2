import Mathlib.Data.List.Basic

/-!
Tables that are filled in some order and where the first entry under a key stays. What a key finds is the first entry under it
among all that were there or came.
-/
namespace AgentPey.FirstEntries

variable {ι κ : Type} [DecidableEq κ] (key : ι → κ)

def get (entries : List ι) (k : κ) : Option ι := entries.find? fun e => key e = k

def add (entries : List ι) (e : ι) : List ι := if (get key entries (key e)).isSome then entries else entries ++ [e]

def addAll (entries new : List ι) : List ι := new.foldl (add key) entries

variable {key} {entries new : List ι} {e : ι} {k : κ}

theorem get_none : get key entries k = none ↔ ∀ e ∈ entries, key e ≠ k := by
  simp [get]

theorem get_append (entries new : List ι) (k : κ) : get key (entries ++ new) k = (get key entries k).or (get key new k) :=
  List.find?_append

@[simp] theorem get_nil (k : κ) : get key [] k = none := rfl

theorem get_cons (e : ι) (entries : List ι) (k : κ) :
    get key (e :: entries) k = if key e = k then some e else get key entries k := by
  by_cases same : key e = k
  · simp [get, same]
  · simp [get, same]

theorem get_add (entries : List ι) (e : ι) (k : κ) : get key (add key entries e) k = get key (entries ++ [e]) k := by
  unfold add
  by_cases there : (get key entries (key e)).isSome
  · rw [if_pos there, get_append, get_cons]
    by_cases same : key e = k
    · subst same
      obtain ⟨old, found⟩ := Option.isSome_iff_exists.mp there
      simp [found]
    · simp [same]
  · rw [if_neg there]

theorem get_addAll (entries new : List ι) (k : κ) : get key (addAll key entries new) k = get key (entries ++ new) k := by
  induction new generalizing entries with
  | nil => simp [addAll]
  | cons e rest ih =>
    have next : addAll key entries (e :: rest) = addAll key (add key entries e) rest := rfl
    rw [next, ih, get_append, get_add, ← get_append, List.append_assoc, List.singleton_append]

theorem mem_addAll (among : e ∈ addAll key entries new) : e ∈ entries ∨ e ∈ new := by
  induction new generalizing entries with
  | nil => exact .inl among
  | cons first rest ih =>
    have next : e ∈ addAll key (add key entries first) rest := among
    rcases ih next with before | later
    · unfold add at before
      split_ifs at before with there
      · exact .inl before
      · rcases List.mem_append.mp before with old | same
        · exact .inl old
        · exact .inr (List.mem_singleton.mp same ▸ List.mem_cons_self)
    · exact .inr (List.mem_cons_of_mem _ later)

theorem addAll_prefix (entries new : List ι) : entries <+: addAll key entries new := by
  induction new generalizing entries with
  | nil => exact List.prefix_rfl
  | cons e rest ih =>
    have one : entries <+: add key entries e := by
      unfold add
      split_ifs
      · exact List.prefix_rfl
      · exact List.prefix_append entries [e]
    exact one.trans (ih _)

theorem addAll_append (entries new more : List ι) : addAll key entries (new ++ more) = addAll key (addAll key entries new) more :=
  List.foldl_append

theorem get_flatMap_filter {α : Type} (among : α → Bool) (bring : α → List ι) (sources : List α)
    (other : ∀ a ∈ sources, among a = false → ∀ e ∈ bring a, key e ≠ k) :
    get key ((sources.filter among).flatMap bring) k = get key (sources.flatMap bring) k := by
  induction sources with
  | nil => rfl
  | cons a rest ih =>
    have later := ih fun b there => other b (List.mem_cons_of_mem _ there)
    by_cases asked : among a = true
    · rw [List.filter_cons_of_pos asked, List.flatMap_cons, List.flatMap_cons, get_append, get_append, later]
    · have nothing : get key (bring a) k = none :=
        get_none.mpr (other a List.mem_cons_self (by simpa using asked))
      rw [List.filter_cons_of_neg asked, List.flatMap_cons, get_append, nothing, later, Option.none_or]

/-- When only one source has entries under a key, the key finds what that source brings. -/
theorem get_flatMap_only {α : Type} (bring : α → List ι) {sources : List α} {a : α} (among : a ∈ sources)
    (only : ∀ b ∈ sources, b ≠ a → ∀ e ∈ bring b, key e ≠ k) : get key (sources.flatMap bring) k = get key (bring a) k := by
  induction sources with
  | nil => exact nomatch among
  | cons b rest ih =>
    rw [List.flatMap_cons, get_append]
    by_cases there : a ∈ rest
    · rw [ih there fun c later => only c (List.mem_cons_of_mem _ later)]
      by_cases same : b = a
      · subst same
        cases get key (bring b) k <;> rfl
      · rw [get_none.mpr (only b List.mem_cons_self same), Option.none_or]
    · obtain rfl : a = b := (List.mem_cons.mp among).resolve_right there
      have nothing : get key (rest.flatMap bring) k = none := by
        refine get_none.mpr fun e brought => ?_
        obtain ⟨c, later, inside⟩ := List.mem_flatMap.mp brought
        exact only c (List.mem_cons_of_mem _ later) (fun same => there (same ▸ later)) e inside
      rw [nothing, Option.or_none]

end AgentPey.FirstEntries
