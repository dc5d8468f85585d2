import AgentPey.Disciplines

/-!
Routines that run one after another. Each draws a number before it does anything, and has its turn once all that drew
before it are done: a chain of promises, which each new piece of work is appended to. At most one has the turn.
-/
namespace AgentPey.Turns
open Disciplines

/-- How many numbers were drawn, and how many of those who drew them are done. -/
structure Queue where
  drawn : Nat
  done : Nat

def Queue.first : Queue := ⟨0, 0⟩

def Queue.draw (turns : Queue) : Queue := { turns with drawn := turns.drawn + 1 }

def Queue.next (turns : Queue) : Queue := { turns with done := turns.done + 1 }

/-- Where a routine stands with the turns. -/
inductive Place where
  | out
  | waits (n : Nat)
  | has (n : Nat)

def Place.number : Place → Option Nat
  | .out => none
  | .waits n => some n
  | .has n => some n

variable {γ M : Type} {place : M → Place} {turns : Queue} {ms : List (γ × Option M)} {i j : Nat} {c d : γ} {m m' : M}
  {n : Nat}

/-- Every number is one that was drawn and is not done, and only one routine's; who has the turn is next. -/
structure InTurn (place : M → Place) (turns : Queue) (ms : List (γ × Option M)) : Prop where
  ordered : turns.done ≤ turns.drawn
  inside : ∀ {i : Nat} {c m n}, ms[i]? = some (c, some m) → (place m).number = some n → turns.done ≤ n ∧ n < turns.drawn
  apart : ∀ {i j : Nat} {c d m m' n}, ms[i]? = some (c, some m) → ms[j]? = some (d, some m') → (place m).number = some n →
    (place m').number = some n → i = j
  turn : ∀ {i : Nat} {c m n}, ms[i]? = some (c, some m) → place m = .has n → n = turns.done

theorem inTurn_nil : InTurn place .first ([] : List (γ × Option M)) where
  ordered := Nat.le_refl _
  inside found := by simp at found
  apart found := by simp at found
  turn found := by simp at found

section
variable (inTurn : InTurn place turns ms)
include inTurn

theorem InTurn.one {k : Nat} (mode : ms[i]? = some (c, some m)) (mode' : ms[j]? = some (d, some m')) (has : place m = .has n)
    (has' : place m' = .has k) : i = j := by
  have same : n = k := (inTurn.turn mode has).trans (inTurn.turn mode' has').symm
  exact inTurn.apart mode mode' (by rw [has]; rfl) (by rw [has', same]; rfl)

theorem InTurn.within {ms' : List (γ × Option M)}
    (older : ∀ {j : Nat} {d m'}, ms'[j]? = some (d, some m') → place m' = .out ∨
      ∃ m, ms[j]? = some (d, some m) ∧ place m' = place m) : InTurn place turns ms' where
  ordered := inTurn.ordered
  inside found number := by
    rcases older found with out | ⟨m, old, same⟩
    · rw [out] at number
      cases number
    · exact inTurn.inside old (same ▸ number)
  apart found found' number number' := by
    rcases older found with out | ⟨m, old, same⟩
    · rw [out] at number
      cases number
    · rcases older found' with out | ⟨m', old', same'⟩
      · rw [out] at number'
        cases number'
      · exact inTurn.apart old old' (same ▸ number) (same' ▸ number')
  turn found has := by
    rcases older found with out | ⟨m, old, same⟩
    · rw [out] at has
      cases has
    · exact inTurn.turn old (same ▸ has)

theorem InTurn.stays (mode : ms[i]? = some (c, some m)) (same : place m' = place m) :
    InTurn place turns (ms.set i (c, some m')) := by
  refine inTurn.within fun {j d n} found => .inr ?_
  rcases mode_of_set found with ⟨rfl, rfl, now⟩ | ⟨_, old⟩
  · cases now
    exact ⟨m, mode, same⟩
  · exact ⟨n, old, rfl⟩

theorem InTurn.ends : InTurn place turns (ms.set i (c, none)) := by
  refine inTurn.within fun {j d n} found => .inr ?_
  rcases mode_of_set found with ⟨_, _, now⟩ | ⟨_, old⟩
  · cases now
  · exact ⟨n, old, rfl⟩

theorem InTurn.starts (out : place m = .out) : InTurn place turns (ms ++ [(c, some m)]) := by
  refine inTurn.within fun {j d n} found => ?_
  rcases mode_of_append found with ⟨_, _, now⟩ | old
  · cases now
    exact .inl out
  · exact .inr ⟨n, old, rfl⟩

end

theorem inTurn_kill : InTurn place .first (ms.map fun call => (call.1, (none : Option M))) := by
  have nobody : InTurn place .first ([] : List (γ × Option M)) := inTurn_nil
  refine nobody.within fun {j d n} found => ?_
  cases mode_of_kill found

section
variable (inTurn : InTurn place turns ms)
include inTurn

theorem InTurn.draws (waits : place m' = .waits turns.drawn) : InTurn place turns.draw (ms.set i (c, some m')) where
  ordered := Nat.le_succ_of_le inTurn.ordered
  inside found number := by
    rcases mode_of_set found with ⟨_, _, now⟩ | ⟨_, old⟩
    · cases now
      rw [waits] at number
      cases number
      exact ⟨inTurn.ordered, Nat.lt_succ_self _⟩
    · have known := inTurn.inside old number
      exact ⟨known.1, Nat.lt_succ_of_lt known.2⟩
  apart found found' number number' := by
    rcases mode_of_set found with ⟨same, _, now⟩ | ⟨_, old⟩
    · cases now
      rw [waits] at number
      cases number
      rcases mode_of_set found' with ⟨same', _, _⟩ | ⟨_, old'⟩
      · rw [same, same']
      · exact (Nat.lt_irrefl _ (inTurn.inside old' number').2).elim
    · rcases mode_of_set found' with ⟨_, _, now⟩ | ⟨_, old'⟩
      · cases now
        rw [waits] at number'
        cases number'
        exact (Nat.lt_irrefl _ (inTurn.inside old number).2).elim
      · exact inTurn.apart old old' number number'
  turn found has := by
    rcases mode_of_set found with ⟨_, _, now⟩ | ⟨_, old⟩
    · cases now
      rw [waits] at has
      cases has
    · exact inTurn.turn old has

theorem InTurn.enters (mode : ms[i]? = some (c, some m)) (waits : place m = .waits turns.done)
    (has : place m' = .has turns.done) : InTurn place turns (ms.set i (c, some m')) where
  ordered := inTurn.ordered
  inside found number := by
    rcases mode_of_set found with ⟨_, _, now⟩ | ⟨_, old⟩
    · cases now
      rw [has] at number
      exact inTurn.inside mode (by rw [waits]; exact number)
    · exact inTurn.inside old number
  apart found found' number number' := by
    have older : ∀ {j : Nat} {d m₁ n}, (ms.set i (c, some m'))[j]? = some (d, some m₁) → (place m₁).number = some n →
        ∃ m₀, ms[j]? = some (d, some m₀) ∧ (place m₀).number = some n := by
      intro j d m₁ n found number
      rcases mode_of_set found with ⟨rfl, rfl, now⟩ | ⟨_, old⟩
      · cases now
        rw [has] at number
        exact ⟨m, mode, by rw [waits]; exact number⟩
      · exact ⟨m₁, old, number⟩
    obtain ⟨_, old, number⟩ := older found number
    obtain ⟨_, old', number'⟩ := older found' number'
    exact inTurn.apart old old' number number'
  turn found has' := by
    rcases mode_of_set found with ⟨_, _, now⟩ | ⟨_, old⟩
    · cases now
      rw [has] at has'
      cases has'
      rfl
    · exact inTurn.turn old has'

theorem InTurn.leaves (mode : ms[i]? = some (c, some m)) (has : place m = .has n)
    (out : place m' = .out) : InTurn place turns.next (ms.set i (c, some m')) := by
  have mine : n = turns.done := inTurn.turn mode has
  have kept : InTurn place turns (ms.set i (c, some m')) := by
    refine inTurn.within fun {j d m₁} found => ?_
    rcases mode_of_set found with ⟨_, _, now⟩ | ⟨_, old⟩
    · cases now
      exact .inl out
    · exact .inr ⟨m₁, old, rfl⟩
  -- The others have later numbers, and so not the turn.
  have later : ∀ {j : Nat} {d m₁ k}, (ms.set i (c, some m'))[j]? = some (d, some m₁) → (place m₁).number = some k →
      turns.done < k := by
    intro j d m₁ k found number
    have inside := (kept.inside found number).1
    rcases mode_of_set found with ⟨_, _, now⟩ | ⟨different, old⟩
    · cases now
      rw [out] at number
      cases number
    · have apart : k ≠ turns.done := by
        rintro rfl
        exact different (inTurn.apart old mode number (by rw [has, mine]; rfl))
      omega
  have last : turns.done < turns.drawn := mine ▸ (inTurn.inside mode (by rw [has]; rfl)).2
  refine ⟨last, fun found number => ⟨later found number, (kept.inside found number).2⟩, kept.apart,
    fun {j d m₁ k} found has' => ?_⟩
  have number : (place m₁).number = some k := by rw [has']; rfl
  have behind := later found number
  have next := kept.turn found has'
  omega

end

end AgentPey.Turns
