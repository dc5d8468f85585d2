import AgentPey.Store

/-!
Storage whose entries expire. Every entry lives until a ledger; an expired one
reads as absent, a new one gets the network's minimum lifetime, and a writer may
extend an entry that is about to expire.
-/
namespace AgentPey.TemporaryStorage
open Store
universe u v
variable {κ : Type u} {ν : Type v} [DecidableEq κ]

/-- A value and the last ledger at which it can be read. -/
structure Leased (ν : Type v) where
  value : ν
  live_until : Nat
  deriving DecidableEq

abbrev Temporary (κ : Type u) (ν : Type v) := Keyed κ (Leased ν)

def live (s : Temporary κ ν) (now : Nat) (k : κ) : Option (Leased ν) :=
  (s.lookup k).filter (fun e => now ≤ e.live_until)

def get (s : Temporary κ ν) (now : Nat) (k : κ) : Option ν := (live s now k).map Leased.value

/-- A live entry keeps its lifetime, and a new one lives `minTtl` ledgers more. -/
def set (minTtl : Nat) (s : Temporary κ ν) (now : Nat) (k : κ) (value : ν) : Temporary κ ν :=
  s.insert k ⟨value, ((live s now k).map Leased.live_until).getD (now + minTtl)⟩

/-- Raises what is left of an entry's life to `extendTo`, when it is below `threshold`. -/
def extend_ttl (s : Temporary κ ν) (now : Nat) (k : κ) (threshold extendTo : Nat) : Temporary κ ν :=
  match live s now k with
  | some e => if e.live_until - now < threshold then s.insert k { e with live_until := now + extendTo } else s
  | none => s

/-- The last ledger of an entry that is written and extended, from its last ledger before. -/
def renewed (minTtl threshold extendTo now : Nat) (before : Option Nat) : Nat :=
  if before.getD (now + minTtl) - now < threshold then now + extendTo else before.getD (now + minTtl)

section
variable {s : Temporary κ ν} {now : Nat} {k : κ}

variable {e : Leased ν}

theorem live_eq_some : live s now k = some e ↔ s.lookup k = some e ∧ now ≤ e.live_until := by
  unfold live
  rw [Option.filter_eq_some_iff]
  simp

theorem get_eq_none (expired : ∀ e, s.lookup k = some e → e.live_until < now) : get s now k = none := by
  unfold get
  rw [Option.map_eq_none_iff, Option.eq_none_iff_forall_ne_some]
  intro e found
  obtain ⟨stored, alive⟩ := live_eq_some.mp found
  exact absurd (expired e stored) (Nat.not_lt.mpr alive)

theorem get_of_live (found : s.lookup k = some e) (alive : now ≤ e.live_until) : get s now k = some e.value := by
  rw [get, live_eq_some.mpr ⟨found, alive⟩]
  rfl

theorem renewed_of_live {minTtl threshold extendTo : Nat} (alive : now ≤ e.live_until) : renewed minTtl threshold extendTo now
        (((some e).filter (fun e => now ≤ e.live_until)).map Leased.live_until) =
      if e.live_until - now < threshold then now + extendTo else e.live_until := by
  have kept : (some e).filter (fun e => now ≤ e.live_until) = some e :=
    Option.filter_eq_some_iff.mpr ⟨rfl, by simpa using alive⟩
  rw [kept]
  rfl

theorem lookup_extend_set (minTtl threshold extendTo : Nat) (value : ν) :
    (extend_ttl (set minTtl s now k value) now k threshold extendTo).lookup k =
      some ⟨value, renewed minTtl threshold extendTo now ((live s now k).map Leased.live_until)⟩ := by
  have alive : now ≤ ((live s now k).map Leased.live_until).getD (now + minTtl) := by
    cases found : live s now k with
    | none => simp
    | some e =>
      obtain ⟨_, alive⟩ := live_eq_some.mp found
      simpa using alive
  have written : live (set minTtl s now k value) now k =
      some ⟨value, ((live s now k).map Leased.live_until).getD (now + minTtl)⟩ :=
    live_eq_some.mpr ⟨AList.lookup_insert _, alive⟩
  unfold extend_ttl renewed
  rw [written]
  dsimp only
  split_ifs
  · exact AList.lookup_insert _
  · exact AList.lookup_insert _

theorem lookup_extend_set_ne (minTtl threshold extendTo : Nat) (value : ν) {k' : κ} (other : k' ≠ k) :
    (extend_ttl (set minTtl s now k value) now k threshold extendTo).lookup k' = s.lookup k' := by
  have written : (set minTtl s now k value).lookup k' = s.lookup k' := AList.lookup_insert_ne other
  unfold extend_ttl
  split
  · split_ifs
    · rw [AList.lookup_insert_ne other, written]
    · exact written
  · exact written

end

end AgentPey.TemporaryStorage
