import AgentPey.Storefronts
import AgentPey.SessionPayments

/-!
The way of a request through a platform's pool, step by step: it looks the merchant up, ties itself to a build, perhaps
its own, and runs in the app of that build under the discipline of the checkout sessions.
-/
namespace AgentPey.StorefrontVisits
open Receipts CheckoutSessions Orders Routines Gateway UcpCheckout Disciplines SessionWrites Storefronts

/-- Where a request is: not tied to a build yet; tied to one; it has begun a build, or is making it; or it is in the app of
    a build, and stands there to the sessions as any request of one app. -/
inductive Place where
  | away
  | tied (b : Nat)
  | begun (b : Nat)
  | builds (b : Nat)
  | inside (b : Nat) (m : Stand)

def Place.tie : Place → Option Nat
  | .away => none
  | .tied b => some b
  | .begun b => some b
  | .builds b => some b
  | .inside b _ => some b

/-- It may still come to any build. -/
def Place.free : Place → Prop
  | .away => True
  | .tied _ => True
  | _ => False

abbrev Mode := Request × Place

variable (options : PoolOptions)

inductive Goes : Mode → Pool → Pool → Mode → Prop
  | same {c x p} (free : x.free) : Goes (c, x) p p (c, x)
  | looks {c p found} : Goes (c, .away) p { p with lookups := found } (c, .away)
  | finds {c p b} (kept : p.built = some b) : Goes (c, .away) p p (c, .tied b)
  | begins {c x p} (free : x.free) : Goes (c, x) p (beginBuild p).2 (c, .begun p.builds.length)
  | settles {c b p result} (new : ∀ built, result = .ok built → ∃ orders, built.memory = .opened orders) :
      Goes (c, .builds b) p (settleBuild b result p) (c, .tied b)
  | enters {c b p built} (ready : p.builds[b]? = some (some (.ok built))) : Goes (c, .tied b) p p (c, .inside b (.first c))
  | inner {c b config m p s m'} (moves : Moves { options.deps with config := config } m ((appView b).get p) s m') :
      Goes (c, .inside b m) p ((appView b).set s p) (c, .inside b m')

def Asks : Mode → PoolOp → Mode → Prop
  | (c, .away), .getBySlug, m' => m' = (c, .away)
  | (c, .away), .store, m' => m' = (c, .away)
  | (c, .tied b), .built other, m' => other = b ∧ m' = (c, .tied b)
  | (c, .tied b), .idle _, m' => m' = (c, .tied b)
  | (c, .tied b), .store, m' => m' = (c, .tied b)
  | (c, .begun b), .verifyEscrow _, m' => m' = (c, .builds b)
  | (c, .builds b), .openOrders, m' => m' = (c, .builds b)
  | (c, .inside b m), .app other o, m' => other = b ∧ ∃ m₁, SessionWrites.Asks m o m₁ ∧ m' = (c, .inside b m₁)
  | _, _, _ => False

def visits : Discipline Pool PoolOp Failure PoolOp.Answer Mode where
  sync := Goes options
  ask := Asks
  expects
    | .app _ o, answer => Expected o answer
    | _, _ => True
  answer m
    | .app _ o, answer =>
      match m with
      | (c, .inside b stand) => (c, .inside b ((sessions options.deps).answer stand o answer))
      | m => m
    | _, _ => m

/-- A request that is over makes no build, and has no lock of a session. -/
def Ends (_ : Request) (m : Mode) (_ : Except Failure Reply) : Prop :=
  m.2.free ∨ ∃ b stand, m.2 = .inside b stand ∧ stand.lock = none

/-! ### The routines keep to it -/

abbrev Visiting {α : Type} (m : Mode) (r : PoolGate α) (Q : Mode → Except Failure α → Prop) : Prop :=
  Follows (visits options) m r Q

variable {x : Place}

theorem visiting_ask {c : Request} {o : PoolOp} (asks : Asks (c, x) o (c, x))
    (stays : ∀ answer, (visits options).answer (c, x) o answer = (c, x)) :
    Visiting options (c, x) (askPool o) fun m _ => m = (c, x) :=
  ⟨(c, x), asks, fun answer _ => follows_ofExcept (stays answer)⟩

theorem follows_fetch (c : Request) : Visiting options (c, .away) fetch fun m _ => m = (c, .away) := by
  apply (visiting_ask options (x := .away) (o := .getBySlug) rfl fun _ => rfl).seq
  · rintro _ comercio rfl p
    exact ⟨(c, .away), .looks, rfl⟩
  · exact fun _ _ same => same

theorem follows_lookup (c : Request) : Visiting options (c, .away) (lookup options) fun m _ => m = (c, .away) := by
  intro p
  refine ⟨(c, .away), .same trivial, ?_⟩
  cases found : p.lookups with
  | none =>
    simp only [Routine.bind, found]
    exact follows_fetch options c
  | some hit =>
    simp only [Routine.bind, found]
    split
    · rfl
    · exact follows_fetch options c

/-- A build's app opens with the orders it has read. -/
def NewBuild (c : Request) (b : Nat) (m : Mode) (result : Except Failure Built) : Prop :=
  (m = (c, .builds b)) ∧ ∀ built, result = .ok built → ∃ orders, built.memory = .opened orders

theorem follows_build (c : Request) (b : Nat) (comercio : Comercio) :
    Visiting options (c, .begun b) (build comercio) (NewBuild c b) := by
  refine ⟨(c, .builds b), rfl, fun answer _ => ?_⟩
  cases answer with
  | error e => exact ⟨rfl, fun _ impossible => by cases impossible⟩
  | ok config =>
    refine ⟨(c, .builds b), rfl, fun answer _ => ?_⟩
    cases answer with
    | error e => exact ⟨rfl, fun _ impossible => by cases impossible⟩
    | ok orders =>
      refine ⟨rfl, ?_⟩
      rintro _ ⟨⟩
      exact ⟨orders, rfl⟩

/-- A request that has its build. -/
def Tied (c : Request) (m : Mode) : Except Failure Nat → Prop
  | .ok b => m = (c, .tied b)
  | .error _ => ∃ b, m = (c, .tied b)

theorem follows_rebuild (c : Request) (free : x.free) (comercio : Comercio) :
    Visiting options (c, x) (rebuild comercio) (Tied c) := by
  intro p
  refine ⟨_, .begins free, ?_⟩
  apply Follows.seq (R := fun m result => ∃ made, result = .ok made ∧ NewBuild c p.builds.length m made)
  · apply Follows.attempt
    exact (follows_build options c _ comercio).imp fun m result new => ⟨result, rfl, new⟩
  · rintro _ _ ⟨made, ⟨⟩, rfl, new⟩ p'
    refine ⟨_, .settles new, ?_⟩
    apply (visiting_ask options (x := .tied p.builds.length) (o := .built p.builds.length) ⟨rfl, rfl⟩ fun _ => rfl).seq
    · rintro _ _ rfl
      rfl
    · rintro _ _ rfl
      exact ⟨_, rfl⟩
  · rintro _ _ ⟨_, ⟨⟩, _⟩

/-- A request that has got its app, or none. -/
def Got (c : Request) (m : Mode) : Except Failure (Option Nat) → Prop
  | .ok none => m = (c, .away)
  | .ok (some b) => m = (c, .tied b)
  | .error _ => m.2.free

theorem follows_got (c : Request) (free : x.free) (comercio : Comercio) :
    Visiting options (c, x) (do let b ← rebuild comercio; pure (some b)) (Got c) := by
  apply (follows_rebuild options c free comercio).seq
  · rintro _ b rfl
    rfl
  · rintro _ e ⟨b, rfl⟩
    trivial

theorem follows_get (c : Request) : Visiting options (c, .away) (get options) (Got c) := by
  apply (follows_lookup options c).seq
  · rintro _ found rfl
    cases found with
    | none => rfl
    | some comercio =>
      dsimp only
      split
      · rfl
      · intro p
        cases kept : p.built with
        | none =>
          refine ⟨(c, .away), .same trivial, ?_⟩
          simp only [Routine.bind, kept]
          exact follows_got options c (x := .away) trivial comercio
        | some cached =>
          refine ⟨(c, .tied cached), .finds kept, ?_⟩
          simp only [Routine.bind, kept]
          apply Follows.seq (R := fun m _ => m = (c, .tied cached))
          · apply Follows.attempt
            exact visiting_ask options (x := .tied cached) (o := .built cached) ⟨rfl, rfl⟩ fun _ => rfl
          · rintro _ current rfl
            cases current with
            | ok which =>
              dsimp only
              split
              · rfl
              · apply (visiting_ask options (x := .tied cached) (o := .idle cached) rfl fun _ => rfl).seq
                · rintro _ _ rfl
                  exact follows_got options c (x := .tied cached) trivial comercio
                · rintro _ _ rfl
                  trivial
            | error e => exact follows_got options c (x := .tied cached) trivial comercio
          · rintro _ _ rfl
            trivial
  · rintro _ _ rfl
    trivial

theorem follows_inApp (c : Request) (b : Nat) (config : GatewayConfig) :
    Visiting options (c, .inside b (.first c)) (inApp options b config c) (Ends c) := by
  have follows : Visiting options (c, .inside b (.first c)) (inApp options b config c) fun m result =>
      ∃ stand, m = (c, .inside b stand) ∧ SessionWrites.Ends c stand result := by
    let inject : Stand → Mode := fun stand => (c, .inside b stand)
    let here : Deps := { options.deps with config := config }
    have follows : Follows (sessions here) (.first c) (route here c) (SessionWrites.Ends c) := follows_route c
    refine follows.focus inject ?_ ?_ ?_
    · exact fun m p s m' moves => .inner moves
    · exact fun m o m' asks => ⟨rfl, m', asks, rfl⟩
    · intro m o answer expected
      have same : answer.map id = answer := by cases answer <;> rfl
      rw [same]
      exact ⟨expected, rfl⟩
  apply follows.imp
  rintro _ result ⟨stand, rfl, unlocked⟩
  exact .inr ⟨b, stand, rfl, unlocked⟩

theorem follows_serveStore (c : Request) : Visiting options (c, .away) (serveStore options c) (Ends c) := by
  apply (follows_get options c).seq
  · intro m found got
    cases found with
    | none =>
      obtain rfl : m = (c, .away) := got
      apply (visiting_ask options (x := .away) (o := .store) rfl fun _ => rfl).seq
      · rintro _ _ rfl
        exact .inl trivial
      · rintro _ _ rfl
        exact .inl trivial
    | some b =>
      obtain rfl : m = (c, .tied b) := got
      apply (visiting_ask options (x := .tied b) (o := .store) rfl fun _ => rfl).seq
      · rintro _ _ rfl p
        rcases ready : p.builds[b]? with _ | _ | failed | built
        · exact ⟨_, .same (x := .tied b) trivial, by simp only [Routine.bind, ready]; exact .inl trivial⟩
        · exact ⟨_, .same (x := .tied b) trivial, by simp only [Routine.bind, ready]; exact .inl trivial⟩
        · exact ⟨_, .same (x := .tied b) trivial, by simp only [Routine.bind, ready]; exact .inl trivial⟩
        · refine ⟨_, .enters ready, ?_⟩
          simp only [Routine.bind, ready]
          exact follows_inApp options c b built.config
      · rintro _ _ rfl
        exact .inl trivial
  · intro m e free
    exact .inl free

end AgentPey.StorefrontVisits
