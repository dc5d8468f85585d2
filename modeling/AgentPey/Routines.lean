import AgentPey.Traces

/-!
Asynchronous functions of one process. What a routine does between two awaits is one act on
the shared state; at an await it asks something of the outside, and goes on, at some later
moment, with the answer or the exception. A process may be killed between any two acts, and
with it every routine that has not finished.
-/
namespace AgentPey.Routines

section
variable {σ ω ε : Type} {ρ : ω → Type} {α β : Type}

/-- A routine's remaining work. A synchronous step changes the shared state and goes on from what
    it saw; an await hands over a question. -/
inductive Routine (σ ω ε : Type) (ρ : ω → Type) (α : Type) where
  | returns (a : α)
  | throws (e : ε)
  | sync (next : σ → σ) (rest : σ → Routine σ ω ε ρ α)
  | await (o : ω) (rest : Except ε (ρ o) → Routine σ ω ε ρ α)

def Routine.bind : Routine σ ω ε ρ α → (α → Routine σ ω ε ρ β) → Routine σ ω ε ρ β
  | .returns a, f => f a
  | .throws e, _ => .throws e
  | .sync next rest, f => .sync next fun s => (rest s).bind f
  | .await o rest, f => .await o fun answer => (rest answer).bind f

instance : Monad (Routine σ ω ε ρ) where
  pure := .returns
  bind := Routine.bind

def Routine.ofExcept : Except ε α → Routine σ ω ε ρ α
  | .ok a => .returns a
  | .error e => .throws e

instance : MonadLift (Except ε) (Routine σ ω ε ρ) := ⟨Routine.ofExcept⟩

def Routine.read : Routine σ ω ε ρ σ := .sync id .returns

def Routine.modify (f : σ → σ) : Routine σ ω ε ρ PUnit := .sync f fun _ => .returns ⟨⟩

/-- A synchronous function, with its result and the state it leaves. -/
def Routine.atomic (f : σ → β × σ) : Routine σ ω ε ρ β := .sync (fun s => (f s).2) fun s => .returns (f s).1

def Routine.ask (o : ω) : Routine σ ω ε ρ (ρ o) := .await o .ofExcept

/-- `try`, with what it caught. -/
def Routine.attempt : Routine σ ω ε ρ α → Routine σ ω ε ρ (Except ε α)
  | .returns a => .returns (.ok a)
  | .throws e => .returns (.error e)
  | .sync next rest => .sync next fun s => (rest s).attempt
  | .await o rest => .await o fun answer => (rest answer).attempt

/-- `try … finally`, with a synchronous last step. -/
def Routine.finally_ (last : σ → σ) : Routine σ ω ε ρ α → Routine σ ω ε ρ α
  | .returns a => .sync last fun _ => .returns a
  | .throws e => .sync last fun _ => .throws e
  | .sync next rest => .sync next fun s => (rest s).finally_ last
  | .await o rest => .await o fun answer => (rest answer).finally_ last

/-- A part of a larger state. -/
structure View (τ σ : Type) where
  get : τ → σ
  set : σ → τ → τ

/-- A routine that runs on a part of a larger state, and asks its questions under other names. -/
def Routine.focus {τ ω' : Type} {ρ' : ω' → Type} (view : View τ σ) (name : ω → ω') (back : (o : ω) → ρ' (name o) → ρ o) :
    Routine σ ω ε ρ α → Routine τ ω' ε ρ' α
  | .returns a => .returns a
  | .throws e => .throws e
  | .sync next rest => .sync (fun t => view.set (next (view.get t)) t) fun t => (rest (view.get t)).focus view name back
  | .await o rest => .await (name o) fun answer => (rest (answer.map (back o))).focus view name back

/-! ### Processes -/

/-- Where a routine stands between two acts. -/
inductive Phase (σ ω ε : Type) (ρ : ω → Type) (α : Type) where
  | waiting (o : ω) (rest : Except ε (ρ o) → Routine σ ω ε ρ α)
  | answered (r : Routine σ ω ε ρ α)
  | finished (result : Except ε α)
  | killed

/-- One act: everything up to the next await, or to the end. -/
def Routine.advance : Routine σ ω ε ρ α → σ → Phase σ ω ε ρ α × σ
  | .returns a, s => (.finished (.ok a), s)
  | .throws e, s => (.finished (.error e), s)
  | .sync next rest, s => (rest s).advance (next s)
  | .await o rest, s => (.waiting o rest, s)

def Phase.over : Phase σ ω ε ρ α → Bool
  | .finished _ => true
  | .killed => true
  | _ => false

def Phase.kill : Phase σ ω ε ρ α → Phase σ ω ε ρ α
  | .finished result => .finished result
  | _ => .killed

end

/-- What the routines are, and what answers them: the routine of each call, the outside, which
    answers a question from the shared state and its own input or leaves it waiting, what else may
    happen to the shared state, and what is left of it after a crash. -/
structure Host (γ σ ω ε : Type) (ρ : ω → Type) (α η κ : Type) where
  body : γ → Routine σ ω ε ρ α
  serve : (o : ω) → η → σ → Option (Except ε (ρ o) × σ)
  outside : κ → σ → σ
  restart : σ → σ

variable {γ σ ω ε : Type} {ρ : ω → Type} {α η κ : Type}

/-- The shared state, and every call so far in the order of their starts. -/
structure System (γ σ ω ε : Type) (ρ : ω → Type) (α : Type) where
  shared : σ
  calls : List (γ × Phase σ ω ε ρ α)

inductive Action (γ η κ : Type) where
  | start (c : γ)
  | perform (i : Nat) (input : η)
  | resume (i : Nat)
  | outside (k : κ)
  | crash

inductive Event (γ ω ε : Type) (ρ : ω → Type) (α : Type) where
  | asked (i : Nat) (c : γ) (o : ω)
  | answered (i : Nat) (c : γ) (o : ω) (answer : Except ε (ρ o))
  | finished (i : Nat) (c : γ) (result : Except ε α)

/-- What is seen of a routine at the end of an act. -/
def announce (i : Nat) (c : γ) : Phase σ ω ε ρ α → List (Event γ ω ε ρ α)
  | .waiting o _ => [.asked i c o]
  | .answered _ => []
  | .finished result => [.finished i c result]
  | .killed => []

variable (host : Host γ σ ω ε ρ α η κ)

def step (w : System γ σ ω ε ρ α) : Action γ η κ → System γ σ ω ε ρ α × List (Event γ ω ε ρ α)
  | .start c =>
    let (phase, s) := (host.body c).advance w.shared
    (⟨s, w.calls ++ [(c, phase)]⟩, announce w.calls.length c phase)
  | .perform i input =>
    match w.calls[i]? with
    | some (c, .waiting o rest) =>
      match host.serve o input w.shared with
      | some (answer, s) => (⟨s, w.calls.set i (c, .answered (rest answer))⟩, [.answered i c o answer])
      | none => (w, [])
    | _ => (w, [])
  | .resume i =>
    match w.calls[i]? with
    | some (c, .answered r) =>
      let (phase, s) := r.advance w.shared
      (⟨s, w.calls.set i (c, phase)⟩, announce i c phase)
    | _ => (w, [])
  | .outside k => ({ w with shared := host.outside k w.shared }, [])
  | .crash => (⟨host.restart w.shared, w.calls.map fun call => (call.1, call.2.kill)⟩, [])

end AgentPey.Routines
