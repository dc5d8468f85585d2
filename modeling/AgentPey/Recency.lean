import AgentPey.Store
import Mathlib.Data.List.Induction

/-!
Stores whose oldest entries are forgotten. The entries of a store stand in the order of their writes, the newest first,
and a key that is written again comes to the front. A store from which only the oldest entries were taken is a prefix of
the store that forgets nothing, so what it still knows is the last thing written under each key.
-/
namespace AgentPey.Recency
open Store
universe u v
variable {κ : Type u} {ν : Type v} [DecidableEq κ]

/-- What a log of writes leaves when nothing is forgotten. -/
def latest (log : List (κ × ν)) : Keyed κ ν := log.foldl (fun s e => s.insert e.1 e.2) ∅

theorem latest_snoc (log : List (κ × ν)) (k : κ) (v : ν) : latest (log ++ [(k, v)]) = (latest log).insert k v := by
  simp [latest]

omit [DecidableEq κ] in
private theorem snoc_inj {log before after : List (κ × ν)} {last first e : κ × ν}
    (split : log ++ [last] = before ++ first :: after.concat e) : log = before ++ first :: after ∧ last = e := by
  rw [List.concat_eq_append, ← List.cons_append, ← List.append_assoc] at split
  obtain ⟨cut, ends⟩ := List.append_inj' split rfl
  exact ⟨cut, List.singleton_inj.mp ends⟩

theorem lookup_latest (log : List (κ × ν)) (k : κ) (v : ν) :
    (latest log).lookup k = some v ↔ ∃ before after, log = before ++ (k, v) :: after ∧ ∀ e ∈ after, e.1 ≠ k := by
  induction log using List.reverseRec with
  | nil => simp [latest]
  | append_singleton log e ih =>
    obtain ⟨k', v'⟩ := e
    rw [latest_snoc, lookup_insert]
    by_cases same : k = k'
    · subst same
      rw [if_pos rfl, Option.some_inj]
      constructor
      · rintro rfl
        exact ⟨log, [], rfl, by simp⟩
      · rintro ⟨before, after, split, others⟩
        rcases List.eq_nil_or_concat after with rfl | ⟨after, e, rfl⟩
        · have last := (List.append_inj' split rfl).2
          simpa using last
        · obtain ⟨_, last⟩ := snoc_inj split
          exact absurd (congrArg Prod.fst last).symm (others e (by simp))
    · rw [if_neg same, ih]
      constructor
      · rintro ⟨before, after, rfl, others⟩
        refine ⟨before, after ++ [(k', v')], by simp, fun e member => ?_⟩
        rcases List.mem_append.mp member with inside | last
        · exact others e inside
        · rw [List.mem_singleton.mp last]
          exact Ne.symm same
      · rintro ⟨before, after, split, others⟩
        rcases List.eq_nil_or_concat after with rfl | ⟨after, e, rfl⟩
        · have last := (List.append_inj' split rfl).2
          have written : (k', v') = (k, v) := List.singleton_inj.mp last
          exact absurd (congrArg Prod.fst written).symm same
        · obtain ⟨cut, _⟩ := snoc_inj split
          exact ⟨before, after, cut, fun e' member => others e' (by simp [member])⟩

/-! ### Prefixes -/

omit [DecidableEq κ] in
def Recent (s t : Keyed κ ν) : Prop := s.entries <+: t.entries

variable {l : List (Sigma fun _ : κ => ν)} {s : Keyed κ ν}

theorem recent_kerase {m : List (Sigma fun _ : κ => ν)} (recent : l <+: m) (k : κ) : l.kerase k <+: m.kerase k := by
  obtain ⟨rest, rfl⟩ := recent
  by_cases known : k ∈ l.keys
  · rw [List.kerase_append_left known]
    exact List.prefix_append ..
  · rw [List.kerase_append_right known, List.kerase_of_notMem_keys known]
    exact List.prefix_append ..

theorem Recent.insert {t : Keyed κ ν} (recent : Recent s t) (k : κ) (v : ν) : Recent (s.insert k v) (t.insert k v) := by
  unfold Recent
  rw [AList.entries_insert, AList.entries_insert]
  exact (List.cons_prefix_cons).mpr ⟨rfl, recent_kerase recent k⟩

theorem Recent.lookup {t : Keyed κ ν} (recent : Recent s t) {k : κ} {v : ν} (found : s.lookup k = some v) :
    t.lookup k = some v :=
  lookup_of_mem (recent.subset (AList.mem_lookup_iff.mp found))

/-- Without its oldest key a store has one entry less. -/
theorem entries_erase_last {e : Sigma fun _ : κ => ν} (ends : s.entries = l ++ [e]) : (s.erase e.1).entries = l := by
  have distinct : (l ++ [e]).NodupKeys := ends ▸ s.nodupKeys
  have fresh : e.1 ∉ l.keys := by
    have apart := List.nodup_append.mp (by simpa [List.NodupKeys, List.keys] using distinct)
    intro known
    exact apart.2.2 _ known _ (by simp) rfl
  have kept : (s.erase e.1).entries = s.entries.kerase e.1 := rfl
  rw [kept, ends, List.kerase_append_right fresh, List.kerase_cons_eq rfl, List.append_nil]

end AgentPey.Recency
