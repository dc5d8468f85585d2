import AgentPey.Traces

/-!
Asynchronous calls on one shared state. What a call does between two awaits is one
act; acts of different calls interleave in any order, except that a call with a
queue waits until every earlier call of its queue has settled, as when each call
chains its work to the promise of the one before it.
-/
namespace AgentPey.Tasks

section
variable {σ ε α β : Type}

/-- A call's remaining work. An act changes the shared state and goes on from what it saw. -/
inductive Task (σ ε α : Type) where
  | done (a : α)
  | fail (e : ε)
  | act (next : σ → σ) (rest : σ → Task σ ε α)

def Task.bind : Task σ ε α → (α → Task σ ε β) → Task σ ε β
  | .done a, f => f a
  | .fail e, _ => .fail e
  | .act next rest, f => .act next fun s => (rest s).bind f

instance : Monad (Task σ ε) where
  pure := .done
  bind := Task.bind

theorem Task.bind_assoc {γ : Type} (t : Task σ ε α) (f : α → Task σ ε β) (g : β → Task σ ε γ) :
    (t.bind f).bind g = t.bind fun a => (f a).bind g := by
  induction t with
  | done a => rfl
  | fail e => rfl
  | act next rest ih => exact congrArg (Task.act next) (funext ih)

def Task.ofExcept : Except ε α → Task σ ε α
  | .ok a => .done a
  | .error e => .fail e

instance : MonadLift (Except ε) (Task σ ε) := ⟨Task.ofExcept⟩

/-- A function without an await in it: one act, with its result and the state it leaves. -/
def Task.atomic (f : σ → Except ε α × σ) : Task σ ε α := .act (fun s => (f s).2) fun s => .ofExcept (f s).1

def Task.settled : Task σ ε α → Bool
  | .done _ => true
  | .fail _ => true
  | .act _ _ => false

/-- Work that never changes the shared state, whatever it sees. -/
def Task.ReadOnly : Task σ ε α → Prop
  | .done _ => True
  | .fail _ => True
  | .act next rest => (∀ s, next s = s) ∧ ∀ s, (rest s).ReadOnly

theorem Task.readOnly_ofExcept (x : Except ε α) : (Task.ofExcept x : Task σ ε α).ReadOnly := by
  cases x <;> trivial

theorem Task.ReadOnly.bind {t : Task σ ε α} {f : α → Task σ ε β} (readOnly : t.ReadOnly)
    (after : ∀ a, (f a).ReadOnly) : (t >>= f).ReadOnly := by
  change (t.bind f).ReadOnly
  induction t with
  | done a => exact after a
  | fail e => trivial
  | act next rest ih => exact ⟨readOnly.1, fun s => ih s (readOnly.2 s)⟩

end

variable {σ ε α γ κ : Type}

/-- The shared state, and every call so far with what it has left to do, in the order of the calls. -/
structure Pool (σ ε α γ : Type) where
  shared : σ
  calls : List (γ × Task σ ε α)

/-- The scheduler's choices: a new call, or the next act of a call. -/
inductive Action (γ : Type) where
  | call (c : γ)
  | run (i : Nat)

inductive Event (ε α γ : Type) where
  | returned (c : γ) (a : α)
  | threw (c : γ) (e : ε)

/-- What a call's remaining work says of its end. -/
def outcome (c : γ) : Task σ ε α → List (Event ε α γ)
  | .done a => [.returned c a]
  | .fail e => [.threw c e]
  | .act _ _ => []

variable [DecidableEq κ] (queue : γ → Option κ) (body : γ → Task σ ε α)

/-- The calls before this one in its queue have settled. -/
def turn (earlier : List (γ × Task σ ε α)) (c : γ) : Bool :=
  (queue c).isNone || earlier.all fun (c', t) => queue c' ≠ queue c || t.settled

def step (p : Pool σ ε α γ) : Action γ → Pool σ ε α γ × List (Event ε α γ)
  | .call c => ({ p with calls := p.calls ++ [(c, body c)] }, outcome c (body c))
  | .run i =>
    match p.calls[i]? with
    | some (c, .act next rest) =>
      if turn queue (p.calls.take i) c then
        (⟨next p.shared, p.calls.set i (c, rest p.shared)⟩, outcome c (rest p.shared))
      else (p, [])
    | _ => (p, [])

/-- Of two calls in one queue, the earlier has settled or the later has not begun. -/
def Fifo (calls : List (γ × Task σ ε α)) : Prop :=
  ∀ (i j : Nat) (c c' : γ) (t t' : Task σ ε α), i < j → calls[i]? = some (c, t) → calls[j]? = some (c', t') →
    queue c' ≠ none → queue c = queue c' → t.settled = true ∨ t' = body c'

/-- What a step does: nothing, one more call, or the next act of a call whose turn it is. -/
inductive Move (p : Pool σ ε α γ) : Action γ → Pool σ ε α γ → List (Event ε α γ) → Prop where
  | idle {i} : Move p (.run i) p []
  | called {c} : Move p (.call c) ⟨p.shared, p.calls ++ [(c, body c)]⟩ (outcome c (body c))
  | ran {i c next rest} (found : p.calls[i]? = some (c, .act next rest))
      (turn : turn queue (p.calls.take i) c = true) :
      Move p (.run i) ⟨next p.shared, p.calls.set i (c, rest p.shared)⟩ (outcome c (rest p.shared))

variable {queue} {body}

theorem step_move (p : Pool σ ε α γ) (action : Action γ) :
    Move queue body p action (step queue body p action).1 (step queue body p action).2 := by
  cases action with
  | call c => exact .called
  | run i =>
    cases found : p.calls[i]? with
    | none =>
      simp only [step, found]
      exact .idle
    | some entry =>
      obtain ⟨c, task⟩ := entry
      cases task with
      | done a =>
        simp only [step, found]
        exact .idle
      | fail e =>
        simp only [step, found]
        exact .idle
      | act next rest =>
        by_cases first : turn queue (p.calls.take i) c = true
        · simp only [step, found, first, if_true]
          exact .ran found first
        · simp only [step, found, first]
          exact .idle

variable {p : Pool σ ε α γ}

theorem step_run {i : Nat} {c : γ} {next : σ → σ} {rest : σ → Task σ ε α} (found : p.calls[i]? = some (c, .act next rest))
    (first : turn queue (p.calls.take i) c = true) :
    step queue body p (.run i) = (⟨next p.shared, p.calls.set i (c, rest p.shared)⟩, outcome c (rest p.shared)) := by
  simp only [step, found, first, if_true]

/-- A call that has its turn follows settled calls of its queue. -/
theorem turn_settled {calls : List (γ × Task σ ε α)} {i j : Nat} {c c' : γ} {t : Task σ ε α}
    (first : turn queue (calls.take i) c = true) (before : j < i) (found : calls[j]? = some (c', t))
    (queued : queue c ≠ none) (same : queue c' = queue c) : t.settled = true := by
  have member : (c', t) ∈ calls.take i := by
    rw [List.mem_iff_getElem?]
    exact ⟨j, by rw [List.getElem?_take_of_lt before, found]⟩
  rw [turn, Bool.or_eq_true] at first
  rcases first with none | all
  · exact absurd (Option.isNone_iff_eq_none.mp none) queued
  · have waited := List.all_eq_true.mp all _ member
    simpa [same] using waited

theorem step_fifo (fifo : Fifo queue body p.calls) (action : Action γ) :
    Fifo queue body (step queue body p action).1.calls := by
  have move : Move queue body p action _ _ := step_move p action
  generalize (step queue body p action).1 = p' at move
  generalize (step queue body p action).2 = events at move
  cases move with
  | idle => exact fifo
  | called =>
    intro i j c c' t t' before found found' queued same
    by_cases old : j < p.calls.length
    · rw [List.getElem?_append_left old] at found'
      rw [List.getElem?_append_left (Nat.lt_trans before old)] at found
      exact fifo i j c c' t t' before found found' queued same
    · rw [List.getElem?_append_right (Nat.not_lt.mp old), List.getElem?_singleton] at found'
      split_ifs at found'
      cases found'
      exact .inr rfl
  | @ran k c₀ next rest running first =>
    intro i j c c' t t' before found found' queued same
    rw [List.getElem?_set] at found found'
    by_cases here : k = i
    · subst here
      rw [if_neg (Nat.ne_of_lt before)] at found'
      rw [if_pos rfl] at found
      split_ifs at found
      cases found
      rcases fifo k j _ c' _ t' before running found' queued same with settled | fresh
      · cases settled
      · exact .inr fresh
    · rw [if_neg here] at found
      by_cases there : k = j
      · subst there
        rw [if_pos rfl] at found'
        split_ifs at found'
        cases found'
        exact .inl (turn_settled first before found queued same)
      · rw [if_neg there] at found'
        exact fifo i j c c' t t' before found found' queued same

end AgentPey.Tasks
