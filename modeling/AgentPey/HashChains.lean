import Mathlib.Data.List.Forall2
import Mathlib.Data.List.Induction

/-!
Hash chains: lists of records each of which names the hash of the record before it
and carries a hash of its own. What a record holds and how it is hashed are
parameters; `Intact` says that every hash is the recomputed one.
-/
namespace AgentPey.HashChains
universe u v

/-- Records with their links: the hash a record names, its own, and the one computed
    for it after a given hash. -/
structure Chain (ρ : Type u) (η : Type v) where
  prev : ρ → η
  hash : ρ → η
  digest : η → ρ → η

variable {ρ : Type u} {η : Type v} (chain : Chain ρ η)

/-- The records continue a chain whose last hash is `p`. -/
def Intact (p : η) : List ρ → Prop
  | [] => True
  | r :: rest => (chain.prev r = p ∧ chain.hash r = chain.digest p r) ∧ Intact (chain.hash r) rest

/-- The last hash of a chain that starts after `p`. -/
def lastHash (p : η) (rs : List ρ) : η := (rs.getLast?.map chain.hash).getD p

variable {chain}

@[simp] theorem intact_nil (p : η) : Intact chain p [] := trivial

@[simp] theorem lastHash_nil (p : η) : lastHash chain p [] = p := rfl

@[simp] theorem lastHash_snoc (p : η) (rs : List ρ) (r : ρ) : lastHash chain p (rs ++ [r]) = chain.hash r := by
  simp [lastHash]

private theorem lastHash_cons (p : η) (r : ρ) (rs : List ρ) :
    lastHash chain p (r :: rs) = lastHash chain (chain.hash r) rs := by
  induction rs using List.reverseRec with
  | nil => rfl
  | append_singleton rs last _ => rw [← List.cons_append, lastHash_snoc, lastHash_snoc]

variable {p : η} {rs : List ρ}

theorem intact_append {rs' : List ρ} :
    Intact chain p (rs ++ rs') ↔ Intact chain p rs ∧ Intact chain (lastHash chain p rs) rs' := by
  induction rs generalizing p with
  | nil => simp
  | cons r rs ih => simp only [List.cons_append, Intact, ih, lastHash_cons, and_assoc]

/-- One more record keeps a chain intact when it links to the last one and is hashed after it. -/
theorem intact_snoc {r : ρ} : Intact chain p (rs ++ [r]) ↔ Intact chain p rs ∧ chain.prev r = lastHash chain p rs ∧
      chain.hash r = chain.digest (lastHash chain p rs) r := by
  rw [intact_append, Intact]
  simp

theorem intact_map {f : ρ → ρ} (links : ∀ r, chain.prev (f r) = chain.prev r) (hashes : ∀ r, chain.hash (f r) = chain.hash r)
    (digests : ∀ p r, chain.digest p (f r) = chain.digest p r) : Intact chain p (rs.map f) ↔ Intact chain p rs := by
  induction rs generalizing p with
  | nil => rfl
  | cons r rest ih => simp only [List.map_cons, Intact, links, hashes, digests, ih]

/-- Two intact chains with one last hash agree record by record, when a digest tells the hash it follows and what `R`
    compares of the record, and is never the hash they start after. -/
theorem intact_agree {R : ρ → ρ → Prop} {start : η} (fresh : ∀ p r, chain.digest p r ≠ start)
    (binds : ∀ p q r s, chain.digest p r = chain.digest q s → p = q ∧ R r s) {ss : List ρ} (intact : Intact chain start rs)
    (intact' : Intact chain start ss) (same : lastHash chain start rs = lastHash chain start ss) :
    List.Forall₂ (fun r s => chain.prev r = chain.prev s ∧ chain.hash r = chain.hash s ∧ R r s) rs ss := by
  induction rs using List.reverseRec generalizing ss with
  | nil =>
    cases ss using List.reverseRec with
    | nil => exact .nil
    | append_singleton ss s =>
      obtain ⟨_, _, hashed⟩ := intact_snoc.mp intact'
      rw [lastHash_nil, lastHash_snoc, hashed] at same
      exact absurd same.symm (fresh _ s)
  | append_singleton rs r ih =>
    obtain ⟨earlier, linked, hashed⟩ := intact_snoc.mp intact
    cases ss using List.reverseRec with
    | nil =>
      rw [lastHash_nil, lastHash_snoc, hashed] at same
      exact absurd same (fresh _ r)
    | append_singleton ss s =>
      obtain ⟨earlier', linked', hashed'⟩ := intact_snoc.mp intact'
      rw [lastHash_snoc, lastHash_snoc] at same
      obtain ⟨follow, alike⟩ := binds _ _ r s (hashed ▸ hashed' ▸ same)
      refine List.rel_append (ih earlier earlier' follow) (.cons ⟨?_, same, alike⟩ .nil)
      rw [linked, linked', follow]

end AgentPey.HashChains
