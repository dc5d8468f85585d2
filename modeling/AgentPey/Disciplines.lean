import AgentPey.Routines

/-!
Disciplines that routines follow. A discipline says, mode by mode, which synchronous steps and
which questions a routine may come to, and which mode an answer leaves it in. `Follows` checks a
routine against it along its own structure; `kept_along` is the rule for whole systems: what is
said of the shared state and the modes of all routines, and is kept by each kind of step that
the discipline allows, holds in every state of every run.
-/
namespace AgentPey.Disciplines
open Routines

section
variable {σ ω ε : Type} {ρ : ω → Type} {α β M : Type}

structure Discipline (σ ω ε : Type) (ρ : ω → Type) (M : Type) where
  sync : M → σ → σ → M → Prop
  ask : M → ω → M → Prop
  expects : (o : ω) → Except ε (ρ o) → Prop
  answer : M → (o : ω) → Except ε (ρ o) → M

variable (D : Discipline σ ω ε ρ M)

/-- A routine in a mode keeps to the discipline, and ends as `Q` says. -/
def Follows : M → Routine σ ω ε ρ α → (M → Except ε α → Prop) → Prop
  | m, .returns a, Q => Q m (.ok a)
  | m, .throws e, Q => Q m (.error e)
  | m, .sync next rest, Q => ∀ s, ∃ m', D.sync m s (next s) m' ∧ Follows m' (rest s) Q
  | m, .await o rest, Q =>
    ∃ m', D.ask m o m' ∧ ∀ answer, D.expects o answer → Follows (D.answer m' o answer) (rest answer) Q

variable {D}
variable {r : Routine σ ω ε ρ α} {m : M}

theorem Follows.imp {Q R : M → Except ε α → Prop} (follows : Follows D m r Q)
    (weaker : ∀ m result, Q m result → R m result) : Follows D m r R := by
  induction r generalizing m with
  | returns a => exact weaker _ _ follows
  | throws e => exact weaker _ _ follows
  | sync next rest ih =>
    intro s
    obtain ⟨m', step, later⟩ := follows s
    exact ⟨m', step, ih s later⟩
  | await o rest ih =>
    obtain ⟨m', asks, later⟩ := follows
    exact ⟨m', asks, fun answer expected => ih answer (later answer expected)⟩

def thenFollows (f : α → Routine σ ω ε ρ β) (Q : M → Except ε β → Prop) (m : M) : Except ε α → Prop
  | .ok a => Follows D m (f a) Q
  | .error e => Q m (.error e)

variable {f : α → Routine σ ω ε ρ β}

theorem Follows.bind {Q : M → Except ε β → Prop} (follows : Follows D m r (thenFollows (D := D) f Q))
    : Follows D m (r >>= f) Q := by
  change Follows D m (r.bind f) Q
  induction r generalizing m with
  | returns a => exact follows
  | throws e => exact follows
  | sync next rest ih =>
    intro s
    obtain ⟨m', step, later⟩ := follows s
    exact ⟨m', step, ih s later⟩
  | await o rest ih =>
    obtain ⟨m', asks, later⟩ := follows
    exact ⟨m', asks, fun answer expected => ih answer (later answer expected)⟩

theorem Follows.attempt {Q : M → Except ε (Except ε α) → Prop}
    (follows : Follows D m r fun m result => Q m (.ok result)) : Follows D m r.attempt Q := by
  induction r generalizing m with
  | returns a => exact follows
  | throws e => exact follows
  | sync next rest ih =>
    intro s
    obtain ⟨m', step, later⟩ := follows s
    exact ⟨m', step, ih s later⟩
  | await o rest ih =>
    obtain ⟨m', asks, later⟩ := follows
    exact ⟨m', asks, fun answer expected => ih answer (later answer expected)⟩

variable {Q : M → Except ε α → Prop}

theorem Follows.finally_ {last : σ → σ}
    (follows : Follows D m r fun m result => ∀ s, ∃ m', D.sync m s (last s) m' ∧ Q m' result) :
    Follows D m (r.finally_ last) Q := by
  induction r generalizing m with
  | returns a => exact follows
  | throws e => exact follows
  | sync next rest ih =>
    intro s
    obtain ⟨m', step, later⟩ := follows s
    exact ⟨m', step, ih s later⟩
  | await o rest ih =>
    obtain ⟨m', asks, later⟩ := follows
    exact ⟨m', asks, fun answer expected => ih answer (later answer expected)⟩

/-- A routine in two parts: what the first one ends with, and how the second goes on from there. -/
theorem Follows.seq {Q : M → Except ε β → Prop} {R : M → Except ε α → Prop} (first : Follows D m r R)
    (goes_on : ∀ m a, R m (.ok a) → Follows D m (f a) Q) (fails : ∀ m e, R m (.error e) → Q m (.error e))
    : Follows D m (r >>= f) Q := by
  apply Follows.bind
  apply first.imp
  intro m' result ends
  cases result with
  | ok a => exact goes_on m' a ends
  | error e => exact fails m' e ends

/-- A routine that keeps to a discipline without modes keeps to any discipline that allows in some mode all that the
    first one allows, and leaves it in that mode. -/
theorem Follows.within {D₀ : Discipline σ ω ε ρ Unit} {Q : Except ε α → Prop} (follows : Follows D₀ () r fun _ => Q)
    (sync : ∀ s s', D₀.sync () s s' () → D.sync m s s' m)
    (ask : ∀ o, D₀.ask () o () → D.ask m o m ∧ ∀ answer, D.expects o answer → D₀.expects o answer ∧ D.answer m o answer = m) :
    Follows D m r fun m' result => m' = m ∧ Q result := by
  induction r with
  | returns a => exact ⟨rfl, follows⟩
  | throws e => exact ⟨rfl, follows⟩
  | sync next rest ih =>
    intro s
    obtain ⟨_, step, later⟩ := follows s
    exact ⟨m, sync _ _ step, ih s later⟩
  | await o rest ih =>
    obtain ⟨_, asks, later⟩ := follows
    obtain ⟨may, expected⟩ := ask o asks
    refine ⟨m, may, fun answer expects => ?_⟩
    obtain ⟨expects₀, same⟩ := expected answer expects
    rw [same]
    exact ih answer (later answer expects₀)

/-- A routine that runs on a part of a larger state keeps to a discipline of the larger one that allows there what the
    part's discipline allows. -/
theorem Follows.focus {τ ω' M' : Type} {ρ' : ω' → Type} {D' : Discipline τ ω' ε ρ' M'} {view : View τ σ} {name : ω → ω'}
    {back : (o : ω) → ρ' (name o) → ρ o} (inject : M → M') (follows : Follows D m r Q)
    (sync : ∀ m t s m', D.sync m (view.get t) s m' → D'.sync (inject m) t (view.set s t) (inject m'))
    (ask : ∀ m o m', D.ask m o m' → D'.ask (inject m) (name o) (inject m'))
    (answer : ∀ m o answer, D'.expects (name o) answer →
      D.expects o (answer.map (back o)) ∧ D'.answer (inject m) (name o) answer = inject (D.answer m o (answer.map (back o)))) :
    Follows D' (inject m) (r.focus view name back) fun m' result => ∃ m₀, m' = inject m₀ ∧ Q m₀ result := by
  induction r generalizing m with
  | returns a => exact ⟨m, rfl, follows⟩
  | throws e => exact ⟨m, rfl, follows⟩
  | sync next rest ih =>
    intro t
    obtain ⟨m', step, later⟩ := follows (view.get t)
    exact ⟨inject m', sync m t _ m' step, ih _ later⟩
  | await o rest ih =>
    obtain ⟨m', asks, later⟩ := follows
    refine ⟨inject m', ask m o m' asks, fun given expected => ?_⟩
    obtain ⟨expects, same⟩ := answer m' o given expected
    rw [same]
    exact ih _ (later _ expects)

/-- A routine keeps to any discipline that has the modes of its own one among its modes. -/
theorem Follows.inject {M' : Type} {D' : Discipline σ ω ε ρ M'} (inject : M → M') (follows : Follows D m r Q)
    (sync : ∀ m s s' m', D.sync m s s' m' → D'.sync (inject m) s s' (inject m'))
    (ask : ∀ m o m', D.ask m o m' → D'.ask (inject m) o (inject m')) (answer : ∀ m o answer, D'.expects o answer →
      D.expects o answer ∧ D'.answer (inject m) o answer = inject (D.answer m o answer)) :
    Follows D' (inject m) r fun m' result => ∃ m₀, m' = inject m₀ ∧ Q m₀ result := by
  induction r generalizing m with
  | returns a => exact ⟨m, rfl, follows⟩
  | throws e => exact ⟨m, rfl, follows⟩
  | sync next rest ih =>
    intro s
    obtain ⟨m', step, later⟩ := follows s
    exact ⟨inject m', sync m s _ m' step, ih s later⟩
  | await o rest ih =>
    obtain ⟨m', asks, later⟩ := follows
    refine ⟨inject m', ask m o m' asks, fun given expected => ?_⟩
    obtain ⟨expects, same⟩ := answer m' o given expected
    rw [same]
    exact ih given (later given expects)

variable {x : Except ε α}

theorem follows_ofExcept (ends : Q m x) : Follows D m (.ofExcept x) Q := by
  cases x with
  | ok a => exact ends
  | error e => exact ends

theorem follows_lift (ends : Q m x) : Follows D m (liftM x : Routine σ ω ε ρ α) Q := follows_ofExcept ends

/-- A routine that keeps to a discipline, however it ends. -/
abbrev Obeys (D : Discipline σ ω ε ρ M) (m : M) (r : Routine σ ω ε ρ α) : Prop := Follows D m r fun _ _ => True

/-- And one that, besides, is in the mode it started in when it ends, as `Q` says. -/
abbrev Stays (D : Discipline σ ω ε ρ M) (m : M) (r : Routine σ ω ε ρ α) (Q : Except ε α → Prop) : Prop :=
  Follows D m r fun m' result => m' = m ∧ Q result

/-- A routine and the rest, when the rest may be in any mode. -/
theorem Obeys.anyhow (first : Obeys D m r) (goes_on : ∀ m a, Obeys D m (f a)) : Obeys D m (r >>= f) :=
  Follows.seq first (fun m a _ => goes_on m a) fun _ _ _ => trivial

theorem Stays.then_ {Q : Except ε α → Prop} (first : Stays D m r Q) (goes_on : ∀ a, Q (.ok a) → Obeys D m (f a))
    : Obeys D m (r >>= f) :=
  Follows.seq first (fun _ a ends => ends.1 ▸ goes_on a ends.2) fun _ _ _ => trivial

theorem Stays.seq {R : Except ε α → Prop} {Q : Except ε β → Prop} (first : Stays D m r R)
    (goes_on : ∀ a, R (.ok a) → Stays D m (f a) Q) (fails : ∀ e, R (.error e) → Q (.error e)) : Stays D m (r >>= f) Q :=
  Follows.seq first (fun m' a ends => by obtain ⟨rfl, ends⟩ := ends; exact goes_on a ends) fun _ e ends =>
    ⟨ends.1, fails e ends.2⟩

theorem follows_atomic {f : σ → β × σ} {g : β → Routine σ ω ε ρ α}
    (each : ∀ s, ∃ m', D.sync m s (f s).2 m' ∧ Follows D m' (g (f s).1) Q) : Follows D m (Routine.atomic f >>= g) Q := each

theorem follows_ask {o : ω} {m m' : M} {Q : M → Except ε (ρ o) → Prop} (asks : D.ask m o m')
    (later : ∀ answer, D.expects o answer → Q (D.answer m' o answer) answer) : Follows D m (.ask o) Q :=
  ⟨m', asks, fun answer expected => follows_ofExcept (later answer expected)⟩

end

/-! ### Systems -/

variable {γ σ ω ε : Type} {ρ : ω → Type} {α η κ M : Type}
variable (host : Host γ σ ω ε ρ α η κ) (D : Discipline σ ω ε ρ M) (Ends : γ → M → Except ε α → Prop)

/-- What the mode of a call says of where it stands. A call that has finished or was killed has none. -/
def InMode (c : γ) : Phase σ ω ε ρ α → Option M → Prop
  | .waiting o rest, some m => (∃ m₀, D.ask m₀ o m) ∧
      ∀ answer, D.expects o answer → Follows D (D.answer m o answer) (rest answer) (Ends c)
  | .answered r, some m => Follows D m r (Ends c)
  | .finished _, none => True
  | .killed, none => True
  | _, _ => False

/-- Every call has a mode, and stands as it says. -/
def Aligned (calls : List (γ × Phase σ ω ε ρ α)) (ms : List (γ × Option M)) : Prop :=
  calls.length = ms.length ∧ ∀ (i : Nat) (c : γ) phase, calls[i]? = some (c, phase) →
    ∃ mode, ms[i]? = some (c, mode) ∧ InMode D Ends c phase mode

/-- What is said of a system: of its shared state, the modes of its calls, and its trace so far. -/
abbrev Assertion (γ σ ω ε : Type) (ρ : ω → Type) (α M : Type) :=
  σ → List (γ × Option M) → List (Event γ ω ε ρ α) → Prop

section
variable {γ M : Type} {ms : List (γ × Option M)} {i j : Nat} {c d : γ} {mode mode' : Option M}

theorem mode_of_set (found : (ms.set i (c, mode))[j]? = some (d, mode')) :
    (j = i ∧ d = c ∧ mode' = mode) ∨ (j ≠ i ∧ ms[j]? = some (d, mode')) := by
  rw [List.getElem?_set] at found
  by_cases same : i = j
  · rw [if_pos same] at found
    split_ifs at found
    cases found
    exact .inl ⟨same.symm, rfl, rfl⟩
  · rw [if_neg same] at found
    exact .inr ⟨Ne.symm same, found⟩

theorem mode_of_append (found : (ms ++ [(c, mode)])[j]? = some (d, mode')) :
    (j = ms.length ∧ d = c ∧ mode' = mode) ∨ ms[j]? = some (d, mode') := by
  by_cases old : j < ms.length
  · rw [List.getElem?_append_left old] at found
    exact .inr found
  · rw [List.getElem?_append_right (Nat.not_lt.mp old), List.getElem?_singleton] at found
    split_ifs at found with last
    cases found
    exact .inl ⟨by omega, rfl, rfl⟩

theorem mode_of_kill (found : (ms.map fun call => (call.1, (none : Option M)))[j]? = some (d, mode')) : mode' = none := by
  rw [List.getElem?_map, Option.map_eq_some_iff] at found
  obtain ⟨_, _, same⟩ := found
  cases same
  rfl

variable {P : Nat → γ → M → Prop}

variable {m m' : M}

theorem all_set (here : P i c m) (others : ∀ j d m', j ≠ i → ms[j]? = some (d, some m') → P j d m')
    (found : (ms.set i (c, some m))[j]? = some (d, some m')) : P j d m' := by
  rcases mode_of_set found with ⟨rfl, rfl, now⟩ | ⟨other, old⟩
  · cases now
    exact here
  · exact others j d m' other old

theorem all_over (others : ∀ j d m', j ≠ i → ms[j]? = some (d, some m') → P j d m')
    (found : (ms.set i (c, none))[j]? = some (d, some m')) : P j d m' := by
  rcases mode_of_set found with ⟨_, _, now⟩ | ⟨other, old⟩
  · cases now
  · exact others j d m' other old

theorem all_append (here : P ms.length c m) (others : ∀ j d m', ms[j]? = some (d, some m') → P j d m')
    (found : (ms ++ [(c, some m)])[j]? = some (d, some m')) : P j d m' := by
  rcases mode_of_append found with ⟨rfl, rfl, now⟩ | old
  · cases now
    exact here
  · exact others j d m' old

theorem set_same (here : ms[i]? = some (c, mode)) : ms.set i (c, mode) = ms := by
  apply List.ext_getElem?
  intro j
  rw [List.getElem?_set]
  by_cases same : i = j
  · subst same
    obtain ⟨inside, value⟩ := List.getElem?_eq_some_iff.mp here
    rw [if_pos rfl, if_pos inside, here]
  · rw [if_neg same]

end

/-! ### What the modes hold -/

/-- What the modes of all calls have of one kind. -/
def pick {γ M α : Type} (f : M → Option α) (ms : List (γ × Option M)) : List α := ms.filterMap fun call => call.2.bind f

section
variable {γ M α : Type} {ms : List (γ × Option M)} {i : Nat} {c : γ} {mode : Option M} {f : M → Option α}

private theorem pick_between (f : M → Option α) (before after : List (γ × Option M)) (c : γ) (mode : Option M) :
    (pick f (before ++ (c, mode) :: after)).Perm ((mode.bind f).toList ++ (pick f before ++ pick f after)) := by
  have single : pick f [(c, mode)] = (mode.bind f).toList := by
    simp only [pick, List.filterMap_cons, List.filterMap_nil]
    cases mode.bind f <;> rfl
  rw [List.append_cons, pick, List.filterMap_append, List.filterMap_append]
  show (pick f before ++ pick f [(c, mode)] ++ pick f after).Perm _
  rw [single, ← List.append_assoc]
  exact List.perm_append_comm.append_right _

theorem pick_at (f : M → Option α) (here : ms[i]? = some (c, mode)) :
    (pick f ms).Perm ((mode.bind f).toList ++ pick f (ms.eraseIdx i)) := by
  obtain ⟨inside, value⟩ := List.getElem?_eq_some_iff.mp here
  have whole : ms = ms.take i ++ (c, mode) :: ms.drop (i + 1) := by
    rw [← value, ← List.drop_eq_getElem_cons inside, List.take_append_drop]
  have others : pick f (ms.eraseIdx i) = pick f (ms.take i) ++ pick f (ms.drop (i + 1)) := by
    rw [List.eraseIdx_eq_take_drop_succ, pick, List.filterMap_append]
    rfl
  rw [others]
  conv_lhs => rw [whole]
  exact pick_between ..

theorem pick_set (f : M → Option α) (here : ms[i]? = some (c, mode)) (mode' : Option M) :
    (pick f (ms.set i (c, mode'))).Perm ((mode'.bind f).toList ++ pick f (ms.eraseIdx i)) := by
  obtain ⟨inside, _⟩ := List.getElem?_eq_some_iff.mp here
  have now : (ms.set i (c, mode'))[i]? = some (c, mode') := by simp [inside]
  have same : (ms.set i (c, mode')).eraseIdx i = ms.eraseIdx i := by
    simp [List.eraseIdx_set_eq]
  rw [← same]
  exact pick_at f now

theorem pick_append {m : M} (nothing : f m = none) : pick f (ms ++ [(c, some m)]) = pick f ms := by
  simp [pick, nothing]

theorem pick_killed : pick f (ms.map fun call => (call.1, (none : Option M))) = [] := by
  simp [pick]

end

/-- Every call but one has a mode, and stands as it says. -/
def Others (calls : List (γ × Phase σ ω ε ρ α)) (ms : List (γ × Option M)) (i : Nat) : Prop :=
  (∀ j, j ≠ i → j < ms.length → j < calls.length) ∧ ∀ (j : Nat) (c : γ) phase, j ≠ i → calls[j]? = some (c, phase) →
    ∃ mode, ms[j]? = some (c, mode) ∧ InMode D Ends c phase mode

/-- Each kind of step that the discipline allows keeps the assertion `I`, in the runs that are looked at. Within one act
    of a call `J` may be said instead, which need not hold between acts. -/
structure Keeps (I : Assertion γ σ ω ε ρ α M) (J : Nat → Assertion γ σ ω ε ρ α M)
    (allowed : System γ σ ω ε ρ α → List (Event γ ω ε ρ α) → Action γ η κ → Prop) : Prop where
  start {w ms t c} (holds : I w.shared ms t) (aligned : Aligned D Ends w.calls ms) (may : allowed w t (.start c)) :
    ∃ m, Follows D m (host.body c) (Ends c) ∧ J ms.length w.shared (ms ++ [(c, some m)]) t
  resume {w ms t} {i : Nat} (holds : I w.shared ms t) (aligned : Aligned D Ends w.calls ms)
    (may : allowed w t (.resume i)) : J i w.shared ms t
  sync {s ms t} {i : Nat} {c m s' m'} (holds : J i s ms t) (mode : ms[i]? = some (c, some m)) (step : D.sync m s s' m') :
    J i s' (ms.set i (c, some m')) t
  ask {s ms t} {i : Nat} {c m o m' w a calls} (holds : J i s ms t) (mode : ms[i]? = some (c, some m)) (asks : D.ask m o m')
    (others : Others D Ends w.calls ms i) (may : allowed w t a) (stepped : step host w a = (⟨s, calls⟩, [.asked i c o])) :
    I s (ms.set i (c, some m')) (t ++ [.asked i c o])
  serve {w ms t} {i : Nat} {c m m₀ o rest input answer s'} (holds : I w.shared ms t) (aligned : Aligned D Ends w.calls ms)
    (mode : ms[i]? = some (c, some m)) (here : w.calls[i]? = some (c, .waiting o rest))
    (may : allowed w t (.perform i input)) (asks : D.ask m₀ o m)
    (served : host.serve o input w.shared = some (answer, s')) :
    D.expects o answer ∧ I s' (ms.set i (c, some (D.answer m o answer))) (t ++ [.answered i c o answer])
  finish {s ms t} {i : Nat} {c m result w a calls} (holds : J i s ms t) (mode : ms[i]? = some (c, some m))
    (ends : Ends c m result) (may : allowed w t a) (stepped : step host w a = (⟨s, calls⟩, [.finished i c result])) :
    I s (ms.set i (c, none)) (t ++ [.finished i c result])
  outside {w ms t k} (holds : I w.shared ms t) (may : allowed w t (.outside k)) : I (host.outside k w.shared) ms t
  crash {w ms t} (holds : I w.shared ms t) (aligned : Aligned D Ends w.calls ms) (may : allowed w t .crash) :
    I (host.restart w.shared) (ms.map fun call => (call.1, none)) t

/-- Every call is in its mode, and the assertion holds of them. -/
def Holds (I : Assertion γ σ ω ε ρ α M) (w : System γ σ ω ε ρ α) (t : List (Event γ ω ε ρ α)) : Prop :=
  ∃ ms, I w.shared ms t ∧ Aligned D Ends w.calls ms

variable {host D Ends} {I : Assertion γ σ ω ε ρ α M} {J : Nat → Assertion γ σ ω ε ρ α M} 
  {allowed : System γ σ ω ε ρ α → List (Event γ ω ε ρ α) → Action γ η κ → Prop}

theorem aligned_nil : Aligned D Ends ([] : List (γ × Phase σ ω ε ρ α)) [] := ⟨rfl, fun i c phase found => by simp at found⟩

variable {calls : List (γ × Phase σ ω ε ρ α)} {ms : List (γ × Option M)} {c : γ} {phase : Phase σ ω ε ρ α}
variable {mode : Option M}

theorem Aligned.append (aligned : Aligned D Ends calls ms) (here : InMode D Ends c phase mode) :
    Aligned D Ends (calls ++ [(c, phase)]) (ms ++ [(c, mode)]) := by
  obtain ⟨length, modes⟩ := aligned
  refine ⟨by simp [length], fun i c' phase' found => ?_⟩
  by_cases old : i < calls.length
  · rw [List.getElem?_append_left old] at found
    rw [List.getElem?_append_left (length ▸ old)]
    exact modes i c' phase' found
  · rw [List.getElem?_append_right (Nat.not_lt.mp old), List.getElem?_singleton] at found
    split_ifs at found with last
    cases found
    rw [List.getElem?_append_right (length ▸ Nat.not_lt.mp old), ← length, last]
    exact ⟨mode, rfl, here⟩

variable {i : Nat} {t : List (Event γ ω ε ρ α)} {a : Action γ η κ}

section
variable (aligned : Aligned D Ends calls ms)
include aligned

theorem Aligned.set (here : InMode D Ends c phase mode) : Aligned D Ends (calls.set i (c, phase)) (ms.set i (c, mode)) := by
  obtain ⟨length, modes⟩ := aligned
  refine ⟨by simp [length], fun j c' phase' found => ?_⟩
  rw [List.getElem?_set] at found ⊢
  by_cases same : i = j
  · rw [if_pos same] at found ⊢
    split_ifs at found with inside
    cases found
    rw [if_pos (length ▸ inside)]
    exact ⟨mode, rfl, here⟩
  · rw [if_neg same] at found ⊢
    exact modes j c' phase' found

theorem Aligned.kill : Aligned D Ends (calls.map fun call => (call.1, call.2.kill)) (ms.map fun call => (call.1, none)) := by
  obtain ⟨length, modes⟩ := aligned
  refine ⟨by simp [length], fun i c phase found => ?_⟩
  rw [List.getElem?_map, Option.map_eq_some_iff] at found
  obtain ⟨⟨c', phase'⟩, found, same⟩ := found
  cases same
  obtain ⟨mode, here, _⟩ := modes i c' phase' found
  refine ⟨none, by rw [List.getElem?_map, here]; rfl, ?_⟩
  cases phase' <;> trivial

theorem Aligned.call (found : ms[i]? = some (c, mode)) :
    ∃ phase, calls[i]? = some (c, phase) ∧ InMode D Ends c phase mode := by
  obtain ⟨length, modes⟩ := aligned
  obtain ⟨inside, _⟩ := List.getElem?_eq_some_iff.mp found
  obtain ⟨⟨d, phase⟩, there⟩ : ∃ call, calls[i]? = some call :=
    Option.isSome_iff_exists.mp (by simpa [length] using inside)
  obtain ⟨mode', found', stands⟩ := modes i d phase there
  rw [found] at found'
  cases found'
  exact ⟨phase, there, stands⟩

theorem Aligned.others (i : Nat)
    : Others D Ends calls ms i := ⟨fun _ _ inside => aligned.1 ▸ inside, fun j c phase _ => aligned.2 j c phase⟩

end

theorem Others.set (others : Others D Ends calls ms i) (call : γ × Option M)
    : Others D Ends calls (ms.set i call) i := by
  refine ⟨fun j different inside => others.1 j different (by simpa using inside), fun j c phase different found => ?_⟩
  rw [List.getElem?_set_ne (Ne.symm different)]
  exact others.2 j c phase different found

theorem Aligned.others_append (aligned : Aligned D Ends calls ms) (call : γ × Option M)
    : Others D Ends calls (ms ++ [call]) ms.length := by
  refine ⟨fun j different inside => ?_, fun j c phase _ found => ?_⟩
  · rw [List.length_append, List.length_singleton] at inside
    rw [aligned.1]
    omega
  · obtain ⟨mode, here, stands⟩ := aligned.2 j c phase found
    obtain ⟨inside, _⟩ := List.getElem?_eq_some_iff.mp here
    exact ⟨mode, by rw [List.getElem?_append_left inside, here], stands⟩

theorem InMode.over (stands : InMode D Ends c phase mode) (finished : phase.over) : mode = none := by
  cases phase with
  | waiting o rest => cases finished
  | answered r => cases finished
  | finished result =>
    cases mode with
    | none => rfl
    | some m => exact stands.elim
  | killed =>
    cases mode with
    | none => rfl
    | some m => exact stands.elim

theorem InMode.running (stands : InMode D Ends c phase mode) (running : phase.over = false) : ∃ m, mode = some m := by
  cases mode with
  | some m => exact ⟨m, rfl⟩
  | none =>
    cases phase with
    | waiting o rest => exact stands.elim
    | answered r => exact stands.elim
    | finished result => cases running
    | killed => cases running

variable {w : System γ σ ω ε ρ α}

section
variable (keeps : Keeps host D Ends I J allowed)
include keeps

private theorem advance_kept {r : Routine σ ω ε ρ α} {m : M} (follows : Follows D m r (Ends c)) {s : σ} (holds : J i s ms t)
    (mode : ms[i]? = some (c, some m)) (others : Others D Ends w.calls ms i) (may : allowed w t a)
    (stepped : step host w a = (⟨(r.advance s).2, calls⟩, announce i c (r.advance s).1)) :
    ∃ mode', I (r.advance s).2 (ms.set i (c, mode')) (t ++ announce i c (r.advance s).1) ∧
      InMode D Ends c (r.advance s).1 mode' := by
  induction r generalizing m s ms with
  | returns a => exact ⟨none, keeps.finish holds mode follows may stepped, trivial⟩
  | throws e => exact ⟨none, keeps.finish holds mode follows may stepped, trivial⟩
  | sync next rest ih =>
    obtain ⟨m', step, later⟩ := follows s
    obtain ⟨inside, _⟩ := List.getElem?_eq_some_iff.mp mode
    have now : (ms.set i (c, some m'))[i]? = some (c, some m') := by simp [inside]
    obtain ⟨mode', kept, stands⟩ := ih s later (keeps.sync holds mode step) now (others.set _) stepped
    rw [List.set_set] at kept
    exact ⟨mode', kept, stands⟩
  | await o rest ih =>
    obtain ⟨m', asks, later⟩ := follows
    exact ⟨some m', keeps.ask holds mode asks others may stepped, ⟨m, asks⟩, later⟩

theorem Holds.step (holds : Holds D Ends I w t) (may : allowed w t a) :
    Holds D Ends I (step host w a).1 (t ++ (step host w a).2) := by
  obtain ⟨ms, said, aligned⟩ := holds
  cases a with
  | start c =>
    obtain ⟨m, follows, started⟩ := keeps.start said aligned may
    have mode : (ms ++ [(c, some m)])[ms.length]? = some (c, some m) := by simp
    obtain ⟨mode', kept, stands⟩ := advance_kept keeps follows started mode (aligned.others_append _) may (by rw [← aligned.1]; rfl)
    refine ⟨ms ++ [(c, mode')], ?_, aligned.append stands⟩
    rw [List.set_append_right _ _ (Nat.le_refl _), Nat.sub_self, List.set_cons_zero] at kept
    rw [Routines.step, aligned.1]
    exact kept
  | perform i input =>
    rw [Routines.step]
    split
    · rename_i c o rest found
      obtain ⟨mode, here, stands⟩ := aligned.2 i c _ found
      cases mode with
      | none => exact stands.elim
      | some m =>
        obtain ⟨⟨m₀, asks⟩, later⟩ := stands
        cases served : host.serve o input w.shared with
        | none => exact ⟨ms, by simpa using said, aligned⟩
        | some result =>
          obtain ⟨answer, s'⟩ := result
          obtain ⟨expected, kept⟩ := keeps.serve said aligned here found may asks served
          exact ⟨_, kept, aligned.set (later answer expected)⟩
    · exact ⟨ms, by simpa using said, aligned⟩
  | resume i =>
    cases found : w.calls[i]? with
    | none =>
      rw [Routines.step, found]
      exact ⟨ms, by simpa using said, aligned⟩
    | some call =>
      obtain ⟨c, phase⟩ := call
      cases phase with
      | answered r =>
        obtain ⟨mode, here, stands⟩ := aligned.2 i c _ found
        cases mode with
        | none => exact stands.elim
        | some m =>
          have stepped : Routines.step host w (.resume i) =
              (⟨(r.advance w.shared).2, w.calls.set i (c, (r.advance w.shared).1)⟩, announce i c (r.advance w.shared).1) := by
            rw [Routines.step, found]
          obtain ⟨mode', kept, stands'⟩ := advance_kept keeps stands (keeps.resume said aligned may) here (aligned.others i) may stepped
          rw [stepped]
          exact ⟨_, kept, aligned.set stands'⟩
      | waiting o rest =>
        rw [Routines.step, found]
        exact ⟨ms, by simpa using said, aligned⟩
      | finished result =>
        rw [Routines.step, found]
        exact ⟨ms, by simpa using said, aligned⟩
      | killed =>
        rw [Routines.step, found]
        exact ⟨ms, by simpa using said, aligned⟩
  | outside k => exact ⟨ms, by simpa [Routines.step] using keeps.outside said may, aligned⟩
  | crash => exact ⟨_, by simpa [Routines.step] using keeps.crash said aligned may, aligned.kill⟩

/-- The rule for runs: a kept assertion holds in every state of every run whose steps are allowed. -/
theorem kept_along (start : Holds D Ends I w []) (actions : List (Action γ η κ))
    (may : ∀ before a after, actions = before ++ a :: after →
      allowed (Traces.exec (step host) w before).1 (Traces.exec (step host) w before).2 a) :
    Holds D Ends I (Traces.exec (step host) w actions).1 (Traces.exec (step host) w actions).2 :=
  Traces.exec_invariant_along (I := Holds D Ends I) start actions fun before a after split holds =>
    holds.step keeps (may before a after split)

end

end AgentPey.Disciplines
