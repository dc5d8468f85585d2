import AgentPey.Disciplines

/-!
What routines know of a state that others change beside them. All that happens takes the state on to a later one, in an order
that is given, and what an answer tells was so when it was given. A routine that takes such steps itself, whenever what it has
seen and was told came before, keeps to the order; and so does every run of routines that do. A restart leaves no routine, and
may keep to a weaker order.
-/
namespace AgentPey.Knowledge
open Routines Disciplines
open Traces (exec exec_cons)

variable {γ σ ω ε : Type} {ρ : ω → Type} {α β : Type}

/-- The order of states, what is always so, what the answers tell, which calls are made, and what they may ask, and when. -/
structure Rules (γ σ ω ε : Type) (ρ : ω → Type) where
  later : σ → σ → Prop
  /-- The order that restarts keep to as well. -/
  across : σ → σ → Prop
  always : σ → Prop
  told : (o : ω) → Except ε (ρ o) → σ → Prop
  starts : γ → Prop
  may : γ → ω → σ → Prop
  refl : ∀ s, later s s
  trans : ∀ {s s' s''}, later s s' → later s' s'' → later s s''
  within : ∀ {s s'}, later s s' → across s s'
  across_trans : ∀ {s s' s''}, across s s' → across s' s'' → across s s''
  lasting : ∀ {s s'}, across s s' → always s → always s'

variable (rules : Rules γ σ ω ε ρ)

/-- A call, and what it knows of every state from here on. -/
structure Mode (γ σ : Type) where
  call : γ
  knows : σ → Prop

/-- What an answer tells is known of what came before the state. -/
def Rules.after (knows : σ → Prop) (o : ω) (answer : Except ε (ρ o)) (s : σ) : Prop :=
  ∃ s₀, rules.later s₀ s ∧ knows s₀ ∧ rules.told o answer s₀

def steps : Discipline σ ω ε ρ (Mode γ σ) where
  sync m s s' m' := m'.call = m.call ∧ (m.knows s → rules.later s s' ∧ m' = ⟨m.call, rules.later s'⟩)
  ask m o m' := m' = m ∧ ∀ s, m.knows s → rules.may m.call o s
  expects _ _ := True
  answer m o answer := ⟨m.call, rules.after m.knows o answer⟩

def Ends (_ : γ) (_ : Mode γ σ) (_ : Except ε α) : Prop := True

/-- A routine keeps to the order, from what it knows. -/
def Knows (c : γ) (knows : σ → Prop) (r : Routine σ ω ε ρ α) : Prop := Follows (steps rules) ⟨c, knows⟩ r (Ends c)

section
variable {rules} {c : γ} {knows knows' : σ → Prop} {r : Routine σ ω ε ρ α} {f : α → Routine σ ω ε ρ β} {o : ω}

theorem knows_never (never : ∀ s, ¬knows s) : Knows rules c knows r := by
  induction r generalizing knows with
  | returns a => trivial
  | throws e => trivial
  | sync next rest ih =>
    exact fun s => ⟨⟨c, fun _ => False⟩, ⟨rfl, fun here => absurd here (never s)⟩, ih s fun _ => id⟩
  | await o rest ih =>
    refine ⟨⟨c, knows⟩, ⟨rfl, fun s here => absurd here (never s)⟩, fun answer _ => ih answer ?_⟩
    rintro s ⟨s₀, _, here, _⟩
    exact never s₀ here

theorem knows_sync {next : σ → σ} {rest : σ → Routine σ ω ε ρ α}
    (each : ∀ s, knows s → rules.later s (next s) ∧ Knows rules c (rules.later (next s)) (rest s)) :
    Knows rules c knows (.sync next rest) := by
  intro s
  by_cases here : knows s
  · obtain ⟨later, goesOn⟩ := each s here
    exact ⟨⟨c, rules.later (next s)⟩, ⟨rfl, fun _ => ⟨later, rfl⟩⟩, goesOn⟩
  · exact ⟨⟨c, fun _ => False⟩, ⟨rfl, fun known => absurd known here⟩, knows_never fun _ => id⟩

theorem knows_read {f : σ → Routine σ ω ε ρ β} (each : ∀ s, knows s → Knows rules c (rules.later s) (f s)) :
    Knows rules c knows (Routine.read >>= f) := knows_sync fun s here => ⟨rules.refl s, each s here⟩

theorem knows_ask {f : ρ o → Routine σ ω ε ρ β} (may : ∀ s, knows s → rules.may c o s)
    (each : ∀ a, Knows rules c (rules.after knows o (.ok a)) (f a)) : Knows rules c knows (Routine.ask o >>= f) := by
  refine ⟨⟨c, knows⟩, ⟨rfl, may⟩, fun answer _ => ?_⟩
  cases answer with
  | ok a => exact each a
  | error e => trivial

theorem knows_try {f : Except ε (ρ o) → Routine σ ω ε ρ β} (may : ∀ s, knows s → rules.may c o s)
    (each : ∀ answer, Knows rules c (rules.after knows o answer) (f answer)) :
    Knows rules c knows ((Routine.ask o).attempt >>= f) := by
  refine ⟨⟨c, knows⟩, ⟨rfl, may⟩, fun answer _ => ?_⟩
  cases answer with
  | ok a => exact each (.ok a)
  | error e => exact each (.error e)

/-- A routine whose failure is caught: what was known before it is known of a state that came before. -/
theorem knows_attempt {r : Routine σ ω ε ρ α} {f : Except ε α → Routine σ ω ε ρ β} (inside : Knows rules c knows r)
    (rest : ∀ answer knows', (∀ s, knows' s → ∃ s₀, rules.later s₀ s ∧ knows s₀) → Knows rules c knows' (f answer)) :
    Knows rules c knows (r.attempt >>= f) := by
  induction r generalizing knows with
  | returns a => exact rest (.ok a) knows fun s here => ⟨s, rules.refl s, here⟩
  | throws e => exact rest (.error e) knows fun s here => ⟨s, rules.refl s, here⟩
  | sync next more ih =>
    intro s
    by_cases here : knows s
    · obtain ⟨m', ⟨_, goes⟩, follows⟩ := inside s
      obtain ⟨later, rfl⟩ := goes here
      refine ⟨⟨c, rules.later (next s)⟩, ⟨rfl, fun _ => ⟨later, rfl⟩⟩, ih s follows fun answer knows' before => ?_⟩
      refine rest answer knows' fun t known => ?_
      obtain ⟨s₀, onward, first⟩ := before t known
      exact ⟨s, rules.trans later (rules.trans first onward), here⟩
    · exact ⟨⟨c, fun _ => False⟩, ⟨rfl, fun known => absurd known here⟩, knows_never fun _ => id⟩
  | await o more ih =>
    obtain ⟨m', ⟨rfl, may⟩, follows⟩ := inside
    refine ⟨⟨c, knows⟩, ⟨rfl, may⟩, fun answer expected => ih answer (follows answer expected) fun result knows' before => ?_⟩
    refine rest result knows' fun t known => ?_
    obtain ⟨s₁, onward, s₀, first, here, _⟩ := before t known
    exact ⟨s₀, rules.trans first onward, here⟩

theorem knows_lift {x : Except ε α} (each : ∀ a, x = .ok a → Knows rules c knows (f a)) :
    Knows rules c knows ((liftM x : Routine σ ω ε ρ α) >>= f) := by
  cases x with
  | ok a => exact each a rfl
  | error e => trivial

end

/-! ### Runs -/

variable {η κ : Type} (host : Host γ σ ω ε ρ α η κ)

/-- All that may happen keeps to the order, and each answer to what may be asked tells what is so. -/
structure Bound : Prop where
  body : ∀ c, rules.starts c → Knows rules c rules.always (host.body c)
  serve : ∀ c o input s answer s', rules.may c o s → host.serve o input s = some (answer, s') →
    rules.later s s' ∧ rules.told o answer s'
  outside : ∀ k s, rules.later s (host.outside k s)
  restart : ∀ s, rules.across s (host.restart s)

/-- What a call knows is so, and stays so. -/
def Standing (s : σ) (c : γ) (m : Mode γ σ) : Prop :=
  m.call = c ∧ m.knows s ∧ ∀ s s', rules.later s s' → m.knows s → m.knows s'

def Started (a : Action γ η κ) : Prop := ∀ c, a = .start c → rules.starts c

structure Along (first s : σ) (ms : List (γ × Option (Mode γ σ))) (t : List (Event γ ω ε ρ α)) : Prop where
  across : rules.across first s
  always : rules.always s
  stands : ∀ (i : Nat) c m, ms[i]? = some (c, some m) → Standing rules s c m
  asked : ∀ i c o, .asked i c o ∈ t → ∃ s, rules.may c o s
  answered : ∀ i c o answer, .answered i c o answer ∈ t → ∃ s₀, rules.across s₀ s ∧ rules.told o answer s₀

section
variable {rules host} {first s s' : σ} {ms : List (γ × Option (Mode γ σ))} {t : List (Event γ ω ε ρ α)} {c : γ} {m : Mode γ σ}
  {i : Nat}

theorem Standing.later (stands : Standing rules s c m) (later : rules.later s s') : Standing rules s' c m :=
  ⟨stands.1, stands.2.2 s s' later stands.2.1, stands.2.2⟩

section
variable (along : Along rules first s ms t)
include along

theorem Along.on (later : rules.later s s') : Along rules first s' ms t where
  across := rules.across_trans along.across (rules.within later)
  always := rules.lasting (rules.within later) along.always
  stands i c m found := (along.stands i c m found).later later
  asked := along.asked
  answered i c o answer among := by
    obtain ⟨s₀, before, told⟩ := along.answered i c o answer among
    exact ⟨s₀, rules.across_trans before (rules.within later), told⟩

theorem Along.set (stands : Standing rules s c m) : Along rules first s (ms.set i (c, some m)) t :=
  { along with stands := fun _ _ _ found => all_set stands (fun j d m' _ => along.stands j d m') found }

theorem Along.event {e : Event γ ω ε ρ α} (may : ∀ i c o, e = .asked i c o → ∃ s, rules.may c o s)
    (told : ∀ i c o answer, e = .answered i c o answer → rules.told o answer s) : Along rules first s ms (t ++ [e]) :=
  { along with
    asked := fun i c o among => by
      rcases List.mem_append.mp among with old | last
      · exact along.asked i c o old
      · exact may i c o (List.mem_singleton.mp last).symm
    answered := fun i c o answer among => by
      rcases List.mem_append.mp among with old | last
      · exact along.answered i c o answer old
      · exact ⟨s, rules.within (rules.refl s), told i c o answer (List.mem_singleton.mp last).symm⟩ }

end

theorem stands_at (s : σ) (c : γ) : Standing rules s c ⟨c, rules.later s⟩ :=
  ⟨rfl, rules.refl s, fun _ _ later before => rules.trans before later⟩

theorem keeps (bound : Bound rules host) (first : σ) :
    Keeps host (steps rules) Ends (Along rules first) (fun _ => Along rules first) fun _ _ => Started rules where
  start {w ms t c} along _ may := by
    have stands : Standing rules w.shared c ⟨c, rules.always⟩ := ⟨rfl, along.always, fun _ _ later => rules.lasting (rules.within later)⟩
    exact ⟨⟨c, rules.always⟩, bound.body c (may c rfl),
      { along with stands := fun _ _ _ found => all_append stands along.stands found }⟩
  resume along _ _ := along
  sync {s ms t i c m s' m'} along mode step := by
    obtain ⟨rfl, known, _⟩ := along.stands i c m mode
    obtain ⟨_, goes⟩ := step
    obtain ⟨later, rfl⟩ := goes known
    exact (along.on later).set (stands_at s' m.call)
  ask {s ms t i c m o m' w a calls} along mode asks _ _ _ := by
    obtain ⟨rfl, may⟩ := asks
    obtain ⟨rfl, known, _⟩ := along.stands i c m' mode
    rw [set_same mode]
    refine along.event (fun j d o' same => ?_) fun _ _ _ _ same => nomatch same
    cases same
    exact ⟨s, may s known⟩
  serve {w ms t i c m m₀ o rest input answer s'} along _ mode _ _ asks served := by
    obtain ⟨rfl, may⟩ := asks
    obtain ⟨rfl, now, _⟩ := along.stands i c m mode
    obtain ⟨later, told⟩ := bound.serve m.call o input w.shared answer s' (may w.shared now) served
    obtain ⟨_, known, stable⟩ := (along.on later).stands i m.call m mode
    have stands : Standing rules s' m.call ⟨m.call, rules.after m.knows o answer⟩ := by
      refine ⟨rfl, ⟨s', rules.refl s', known, told⟩, ?_⟩
      rintro s₁ s₂ on ⟨s₀, before, here⟩
      exact ⟨s₀, rules.trans before on, here⟩
    refine ⟨trivial, ((along.on later).set stands).event (fun _ _ _ same => nomatch same) fun _ _ _ _ same => ?_⟩
    cases same
    exact told
  finish {s ms t i c m result w a calls} along _ _ _ _ := by
    have event : Along rules first s ms (t ++ [.finished i c result]) :=
      along.event (fun _ _ _ same => nomatch same) fun _ _ _ _ same => nomatch same
    exact { event with stands := fun _ _ _ found => all_over (fun j d m' _ => along.stands j d m') found }
  outside along _ := along.on (bound.outside _ _)
  crash along _ _ :=
    { across := rules.across_trans along.across (bound.restart _)
      always := rules.lasting (bound.restart _) along.always
      stands := fun _ _ _ found => nomatch mode_of_kill found
      asked := along.asked
      answered := fun i c o answer among => by
        obtain ⟨s₀, before, told⟩ := along.answered i c o answer among
        exact ⟨s₀, rules.across_trans before (bound.restart _), told⟩ }

/-- In a run, every state is later than those before it, what is always so is so, nothing is asked that may not be, and what was
    told was so in a state before. -/
theorem later_along (bound : Bound rules host) {s : σ} (begins : rules.always s) (before after : List (Action γ η κ))
    (started : ∀ c, .start c ∈ before ++ after → rules.starts c) :
    rules.across (exec (step host) ⟨s, []⟩ before).1.shared (exec (step host) ⟨s, []⟩ (before ++ after)).1.shared ∧
      rules.always (exec (step host) ⟨s, []⟩ before).1.shared ∧
      (∀ i c o, .asked i c o ∈ (exec (step host) ⟨s, []⟩ before).2 → ∃ s, rules.may c o s) ∧
      ∀ i c o answer, .answered i c o answer ∈ (exec (step host) ⟨s, []⟩ before).2 →
        ∃ s₀, rules.across s₀ (exec (step host) ⟨s, []⟩ before).1.shared ∧ rules.told o answer s₀ := by
  have start : Along rules s s [] ([] : List (Event γ ω ε ρ α)) := ⟨rules.within (rules.refl s), begins, nofun, nofun, nofun⟩
  obtain ⟨ms, along, aligned⟩ := kept_along (keeps bound s) (w := ⟨s, []⟩) ⟨[], start, aligned_nil⟩ before
    fun earlier a rest split c same => started c (by simp [split, same])
  refine ⟨?_, along.always, along.asked, along.answered⟩
  have again : Along rules (exec (step host) ⟨s, []⟩ before).1.shared (exec (step host) ⟨s, []⟩ before).1.shared
      ms ([] : List (Event γ ω ε ρ α)) := ⟨rules.within (rules.refl _), along.always, along.stands, nofun, nofun⟩
  obtain ⟨_, later, _⟩ := kept_along (keeps bound _) ⟨ms, again, aligned⟩ after
    fun earlier a rest split c same => started c (by simp [split, same])
  rw [Traces.exec_append]
  exact later.across

end

/-! ### Runs whose answers are fine -/

/-- A host that leaves waiting what it may not answer so. -/
def guarded (fine : ω → η → σ → Bool) : Host γ σ ω ε ρ α η κ :=
  { host with serve := fun o input s => if fine o input s then host.serve o input s else none }

/-- A question is answered as it may be. -/
def Allowed (fine : ω → η → σ → Bool) (w : System γ σ ω ε ρ α) : Action γ η κ → Bool
  | .perform i input =>
    match w.calls[i]? with
    | some (_, .waiting o _) => fine o input w.shared
    | _ => true
  | _ => true

variable {fine : ω → η → σ → Bool} {w : System γ σ ω ε ρ α}

theorem step_guarded {a : Action γ η κ} (allowed : Allowed fine w a) : step (guarded host fine) w a = step host w a := by
  cases a with
  | perform i input =>
    cases found : w.calls[i]? with
    | none => simp only [step, found]
    | some call =>
      obtain ⟨c, phase⟩ := call
      cases phase with
      | waiting o rest =>
        simp only [Allowed, found] at allowed
        simp only [step, found, guarded, allowed, if_true]
      | _ => simp only [step, found]
  | _ => rfl

theorem exec_guarded {actions : List (Action γ η κ)}
    (allowed : ∀ before a after, actions = before ++ a :: after → Allowed fine (exec (step host) w before).1 a) :
    exec (step (guarded host fine)) w actions = exec (step host) w actions := by
  induction actions generalizing w with
  | nil => rfl
  | cons a rest ih =>
    have first : step (guarded host fine) w a = step host w a := step_guarded host (allowed [] a rest rfl)
    have later := ih fun before b after split => allowed (a :: before) b after (by rw [split, List.cons_append])
    rw [exec_cons, exec_cons, first, later]

end AgentPey.Knowledge
