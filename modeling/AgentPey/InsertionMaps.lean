import AgentPey.Store

/-!
Maps that remember the order in which their keys came, the newest key first. A key that is set again keeps its place, and what is
too much goes from the other end.
-/
namespace AgentPey.InsertionMaps
open Store

universe u v
variable {κ : Type u} {ν : Type v} [DecidableEq κ]

private theorem dlookup_kreplace (entries : List (Sigma fun _ : κ => ν)) (k k' : κ) (v : ν) :
    (entries.kreplace k v).dlookup k' = if k' = k then (entries.dlookup k).map fun _ => v else entries.dlookup k' := by
  induction entries with
  | nil => simp [List.kreplace]
  | cons e rest ih =>
    obtain ⟨first, old⟩ := e
    by_cases here : first = k
    · subst here
      have now : List.kreplace first v (⟨first, old⟩ :: rest) = ⟨first, v⟩ :: rest := by
        simp [List.kreplace]
      rw [now]
      by_cases same : k' = first
      · subst same
        simp
      · simp [same, List.dlookup_cons_ne]
    · have later : List.kreplace k v (⟨first, old⟩ :: rest) = ⟨first, old⟩ :: rest.kreplace k v := by
        simp [List.kreplace, Ne.symm here]
      have skipped : List.dlookup k (⟨first, old⟩ :: rest) = rest.dlookup k := List.dlookup_cons_ne _ _ (Ne.symm here)
      rw [later, skipped]
      by_cases same : k' = first
      · subst same
        simp [here]
      · have below (tail : List (Sigma fun _ : κ => ν)) : List.dlookup k' (⟨first, old⟩ :: tail) = tail.dlookup k' :=
          List.dlookup_cons_ne _ _ same
        rw [below, below, ih]

/-- `Map.set`. -/
def put (m : Keyed κ ν) (k : κ) (v : ν) : Keyed κ ν := if k ∈ m then m.replace k v else m.insert k v

theorem lookup_put (m : Keyed κ ν) (k k' : κ) (v : ν) : (put m k v).lookup k' = if k' = k then some v else m.lookup k' := by
  unfold put
  split_ifs with there same same
  · subst same
    obtain ⟨old, found⟩ := Option.isSome_iff_exists.mp (AList.lookup_isSome.mpr there)
    exact (dlookup_kreplace ..).trans (by simp [show m.entries.dlookup k' = some old from found])
  · exact (dlookup_kreplace ..).trans (by simp [same]; rfl)
  · rw [lookup_insert, if_pos same]
  · rw [lookup_insert, if_neg same]

def dropOldest (m : Keyed κ ν) : Keyed κ ν :=
  match m.entries.getLast? with
  | none => m
  | some oldest => m.erase oldest.1

def size (m : Keyed κ ν) : ℕ := m.entries.length

theorem lookup_dropOldest {m : Keyed κ ν} {k : κ} {v : ν} (found : (dropOldest m).lookup k = some v) : m.lookup k = some v := by
  unfold dropOldest at found
  split at found
  · exact found
  · rw [lookup_erase] at found
    split_ifs at found
    exact found

end AgentPey.InsertionMaps
