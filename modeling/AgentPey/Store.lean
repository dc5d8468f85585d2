import Mathlib.Data.List.AList
import Mathlib.Algebra.Order.BigOperators.Group.List
import Mathlib.Algebra.Ring.Int.Defs
import Mathlib.Algebra.Ring.Nat

/-!
Keyed stores and sums over them. A store holds at most one value for each key;
`total` adds up a weight of every value, and `Covered` says that a pot of money
covers the weights: the invariant of anything that keeps money aside for many
parties and pays each of them out of one balance.
-/
namespace AgentPey.Store
universe u v
variable {κ : Type u} {ν : Type v} [DecidableEq κ]

/-- A store with at most one value for each key. -/
abbrev Keyed (κ : Type u) (ν : Type v) := AList (fun _ : κ => ν)

def total (weight : ν → Int) (s : Keyed κ ν) : Int := (s.entries.map (fun e => weight e.2)).sum

omit [DecidableEq κ] in
@[simp] theorem total_empty (weight : ν → Int) : total weight (∅ : Keyed κ ν) = 0 := rfl

variable {k : κ}

variable {v old : ν} {weight : ν → Int}

private theorem sum_kerase (weight : ν → Int) : ∀ {l : List (Sigma (fun _ : κ => ν))}, l.dlookup k = some v →
      (l.map (fun e => weight e.2)).sum = weight v + ((l.kerase k).map (fun e => weight e.2)).sum
  | [], found => by simp at found
  | ⟨k', v'⟩ :: l, found => by
    by_cases same : k = k'
    · subst same
      rw [List.dlookup_cons_eq] at found
      cases found
      simp [List.kerase_cons_eq]
    · rw [List.dlookup_cons_ne l ⟨k', v'⟩ same] at found
      have rest := sum_kerase weight found
      rw [List.kerase_cons_ne same]
      simp only [List.map_cons, List.sum_cons, rest]
      omega

variable {s : Keyed κ ν}

theorem total_insert_new (weight : ν → Int) (v : ν) (free : s.lookup k = none) :
    total weight (s.insert k v) = total weight s + weight v := by
  have absent : k ∉ s := AList.lookup_eq_none.mp free
  simp only [total, AList.entries_insert_of_notMem absent, List.map_cons, List.sum_cons]
  omega

/-- A value that replaces another changes the sum by the difference of their weights. -/
theorem total_insert_old (weight : ν → Int) (v : ν) (found : s.lookup k = some old) :
    total weight (s.insert k v) = total weight s - weight old + weight v := by
  have split := sum_kerase weight (l := s.entries) found
  simp only [total, AList.entries_insert, List.map_cons, List.sum_cons, split]
  omega

theorem total_insert (weight : ν → Int) (s : Keyed κ ν) (k : κ) (v : ν) :
    total weight (s.insert k v) = total weight s - ((s.lookup k).map weight).getD 0 + weight v := by
  cases found : s.lookup k with
  | none => simpa using total_insert_new weight v found
  | some old => simpa using total_insert_old weight v found

theorem total_erase (weight : ν → Int) (found : s.lookup k = some old) :
    total weight (s.erase k) = total weight s - weight old := by
  have split := sum_kerase weight (l := s.entries) found
  have kept : (s.erase k).entries = s.entries.kerase k := rfl
  rw [total, total, kept, split]
  omega

theorem lookup_of_mem {e : Sigma (fun _ : κ => ν)} (member : e ∈ s.entries) : s.lookup e.1 = some e.2 :=
  AList.mem_lookup_iff.mpr member

theorem lookup_insert (s : Keyed κ ν) (k k' : κ) (v : ν) :
    (s.insert k v).lookup k' = if k' = k then some v else s.lookup k' := by
  split_ifs with same
  · rw [same, AList.lookup_insert]
  · exact AList.lookup_insert_ne same

theorem lookup_erase (s : Keyed κ ν) (k k' : κ) : (s.erase k).lookup k' = if k' = k then none else s.lookup k' := by
  split_ifs with same
  · rw [same, AList.lookup_erase]
  · exact AList.lookup_erase_ne same

theorem erase_absent (absent : s.lookup k = none) : s.erase k = s :=
  AList.ext (List.kerase_of_notMem_keys (AList.lookup_eq_none.mp absent))

theorem total_nonneg (each : ∀ k v, s.lookup k = some v → 0 ≤ weight v) : 0 ≤ total weight s := by
  apply List.sum_nonneg
  intro n member
  obtain ⟨e, listed, rfl⟩ := List.mem_map.mp member
  exact each e.1 e.2 (lookup_of_mem listed)

theorem weight_le_total (each : ∀ k v, s.lookup k = some v → 0 ≤ weight v) (found : s.lookup k = some v) :
    weight v ≤ total weight s := by
  have split := sum_kerase weight (l := s.entries) found
  have rest : 0 ≤ ((s.entries.kerase k).map (fun e => weight e.2)).sum := by
    apply List.sum_nonneg
    intro n member
    obtain ⟨e, listed, rfl⟩ := List.mem_map.mp member
    exact each e.1 e.2 (lookup_of_mem ((List.kerase_sublist k s.entries).mem listed))
  simp only [total, split]
  omega

omit [DecidableEq κ] in
theorem total_add (f g : ν → Int) (s : Keyed κ ν) : total (fun v => f v + g v) s = total f s + total g s := by
  simp only [total]
  induction s.entries with
  | nil => rfl
  | cons e rest ih =>
    simp only [List.map_cons, List.sum_cons, ih]
    omega

/-! ### Money kept aside -/

/-- The pot covers what the store keeps aside, and nothing kept aside is negative. -/
structure Covered (weight : ν → Int) (s : Keyed κ ν) (pot : Int) : Prop where
  each : ∀ k v, s.lookup k = some v → 0 ≤ weight v
  enough : total weight s ≤ pot

section
variable {weight : ν → Int} {s : Keyed κ ν} {pot : Int}

theorem covered_empty (funded : 0 ≤ pot) : Covered weight (∅ : Keyed κ ν) pot where
  each k v found := by simp at found
  enough := by simpa using funded

section
variable (covered : Covered weight s pot)
include covered

theorem Covered.grow {more : Int} (grown : pot ≤ more) : Covered weight s more :=
  ⟨covered.each, covered.enough.trans grown⟩

theorem Covered.commit {k : κ} {v : ν} (free : s.lookup k = none) (nonneg : 0 ≤ weight v)
    (available : weight v ≤ pot - total weight s) : Covered weight (s.insert k v) pot where
  each k' v' found := by
    rw [lookup_insert] at found
    split_ifs at found with same
    · cases found
      exact nonneg
    · exact covered.each k' v' found
  enough := by
    rw [total_insert_new weight v free]
    omega

/-- What a key keeps aside may be paid out in part: what is paid and what stays
    aside together are at most what was aside. -/
theorem Covered.discharge {k : κ} {old v : ν} (found : s.lookup k = some old) (paid : Int) (nonneg : 0 ≤ weight v)
    (fits : weight v + paid ≤ weight old) : Covered weight (s.insert k v) (pot - paid) where
  each k' v' stored := by
    rw [lookup_insert] at stored
    split_ifs at stored with same
    · cases stored
      exact nonneg
    · exact covered.each k' v' stored
  enough := by
    have enough := covered.enough
    rw [total_insert_old weight v found]
    omega

end

end

end AgentPey.Store
