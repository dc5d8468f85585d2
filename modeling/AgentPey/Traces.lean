import Mathlib.Data.List.Induction

/-!
Runs of a deterministic step function that emits events. A scheduler's choices
are the list of actions; the trace is everything the steps emitted, in order.
-/
namespace AgentPey.Traces
universe u v w
variable {σ : Type u} {α : Type v} {ε : Type w}

/-- The state a list of actions leads to, and everything emitted on the way. -/
def exec (step : σ → α → σ × List ε) (s : σ) : List α → σ × List ε
  | [] => (s, [])
  | a :: rest =>
    let next := step s a
    let last := exec step next.1 rest
    (last.1, next.2 ++ last.2)

variable {step : σ → α → σ × List ε}

@[simp] theorem exec_nil (s : σ) : exec step s [] = (s, []) := rfl

@[simp] theorem exec_cons (s : σ) (a : α) (rest : List α) : exec step s (a :: rest) =
      ((exec step (step s a).1 rest).1, (step s a).2 ++ (exec step (step s a).1 rest).2) := rfl

theorem exec_append (s : σ) (as bs : List α) : exec step s (as ++ bs) =
      ((exec step (exec step s as).1 bs).1, (exec step s as).2 ++ (exec step (exec step s as).1 bs).2) := by
  induction as generalizing s with
  | nil => simp
  | cons a rest ih => simp [ih]

variable {s : σ}

/-- What relates a state to the trace behind it holds at the end of a run when each
    of the run's own steps keeps it. -/
theorem exec_invariant_along {I : σ → List ε → Prop} (start : I s []) (as : List α)
    (kept : ∀ before a after, as = before ++ a :: after → I (exec step s before).1 (exec step s before).2 →
      I (step (exec step s before).1 a).1 ((exec step s before).2 ++ (step (exec step s before).1 a).2)) :
    I (exec step s as).1 (exec step s as).2 := by
  induction as using List.reverseRec with
  | nil => exact start
  | append_singleton before a ih =>
    have earlier : I (exec step s before).1 (exec step s before).2 := by
      apply ih
      rintro first b rest rfl
      exact kept first b (rest ++ [a]) (by simp)
    have last := kept before a [] rfl earlier
    rw [exec_append]
    simpa using last

/-- What relates a state to the trace behind it, and is kept by every step,
    relates the end of a run to its whole trace. -/
theorem exec_trace_invariant {I : σ → List ε → Prop} (kept : ∀ s t a, I s t → I (step s a).1 (t ++ (step s a).2))
    (start : I s []) (as : List α) : I (exec step s as).1 (exec step s as).2 :=
  exec_invariant_along start as fun _ a _ _ holds => kept _ _ a holds

theorem exec_invariant {I : σ → Prop} (kept : ∀ s a, I s → I (step s a).1) (start : I s) (as : List α)
    : I (exec step s as).1 :=
  exec_trace_invariant (I := fun s _ => I s) (fun s _ a holds => kept s a holds) start as

/-- A property that a good step keeps and any other step breaks holds all along a run exactly when
    all of its steps are good. -/
theorem exec_always_iff {I V : σ → Prop} {Good : σ → α → Prop} (kept : ∀ s a, I s → I (step s a).1)
    (one : ∀ s a, I s → V s → (V (step s a).1 ↔ Good s a)) (start : I s) (holds : V s) (as : List α) :
    (∀ before after, as = before ++ after → V (exec step s before).1) ↔
      ∀ before a after, as = before ++ a :: after → Good (exec step s before).1 a := by
  induction as generalizing s with
  | nil =>
    constructor
    · intro _ before a after impossible
      simp at impossible
    · intro _ before after split
      rw [(List.append_eq_nil_iff.mp split.symm).1]
      exact holds
  | cons first rest ih =>
    constructor
    · intro always
      have next : V (step s first).1 := always [first] rest rfl
      have later := (ih (kept s first start) next).mp fun before after split =>
        always (first :: before) after (by rw [split, List.cons_append])
      intro before a after split
      cases before with
      | nil =>
        cases split
        exact (one s first start holds).mp next
      | cons b before =>
        obtain ⟨rfl, tail⟩ := List.cons.inj split
        exact later before a after tail
    · intro good
      have next : V (step s first).1 := (one s first start holds).mpr (good [] first rest rfl)
      have later := (ih (kept s first start) next).mpr fun before a after split =>
        good (first :: before) a after (by rw [split, List.cons_append])
      intro before after split
      cases before with
      | nil => exact holds
      | cons b before =>
        obtain ⟨rfl, tail⟩ := List.cons.inj split
        exact later before after tail

/-- Whether every step of a run is good, in the state it comes to and after what was emitted before it. -/
def along (step : σ → α → σ × List ε) (good : σ → List ε → α → Bool) (s : σ) (t : List ε) : List α → Bool
  | [] => true
  | a :: rest => good s t a && along step good (step s a).1 (t ++ (step s a).2) rest

variable {good : σ → List ε → α → Bool} {as : List α}

theorem along_from {t : List ε} (all : along step good s t as) :
    ∀ before a after, as = before ++ a :: after → good (exec step s before).1 (t ++ (exec step s before).2) a := by
  induction as generalizing s t with
  | nil =>
    intro before a after impossible
    simp at impossible
  | cons first rest ih =>
    rw [along, Bool.and_eq_true] at all
    intro before a after split
    cases before with
    | nil =>
      obtain ⟨rfl, _⟩ := List.cons.inj split
      simpa using all.1
    | cons b before =>
      obtain ⟨rfl, tail⟩ := List.cons.inj split
      have later := ih all.2 before a after tail
      rwa [List.append_assoc] at later

theorem along_run (all : along step good s [] as) :
    ∀ before a after, as = before ++ a :: after → good (exec step s before).1 (exec step s before).2 a :=
  along_from all

/-- Every emitted event comes from one step of the run. -/
theorem mem_exec {e : ε} (emitted : e ∈ (exec step s as).2) :
    ∃ before a after, as = before ++ a :: after ∧ e ∈ (step (exec step s before).1 a).2 := by
  induction as generalizing s with
  | nil => simp at emitted
  | cons a rest ih =>
    rw [exec_cons] at emitted
    rcases List.mem_append.mp emitted with here | later
    · exact ⟨[], a, rest, rfl, here⟩
    · obtain ⟨before, b, after, rfl, found⟩ := ih later
      exact ⟨a :: before, b, after, rfl, by simpa using found⟩

end AgentPey.Traces
