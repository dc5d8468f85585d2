import AgentPey.UcpCheckout

/-!
The stores of a platform (`platform/storefronts.ts`), for one merchant. A request first gets the merchant's app from the
pool: one that was built from the merchant's row as it is now, or a new one. Then it runs in that app, over the
memory of that app; the clock, the store's platform and the database are the same for all of them.
-/
namespace AgentPey.Storefronts
open Receipts CheckoutSessions Orders Routines Gateway UcpCheckout

/-- A merchant's row, with the settings an app is made from. -/
structure Comercio where
  id : String
  active : Bool
  updatedAt : String
  config : GatewayConfig

/-- An app with what it was built from. -/
structure Built where
  comercioId : String
  updatedAt : String
  config : GatewayConfig
  memory : Memory

/-- The merchant's row, the last answer of a lookup and when it came, the build the pool keeps, and every build so far:
    under way, failed or done. -/
structure Pool where
  shop : Commons
  comercio : Option Comercio
  lookups : Option (Int × Option Comercio)
  built : Option Nat
  builds : List (Option (Except Failure Built))

structure PoolOptions where
  deps : Deps
  lookupTtlMs : Int

def memoryOf (p : Pool) (b : Nat) : Memory :=
  match p.builds[b]? with
  | some (some (.ok built)) => built.memory
  | _ => .opened []

def setMemory (memory : Memory) : Option (Except Failure Built) → Option (Except Failure Built)
  | some (.ok built) => some (.ok { built with memory := memory })
  | build => build

def appView (b : Nat) : View Pool Storefront where
  get p := ⟨p.shop, memoryOf p b⟩
  set s p := { p with shop := s.toCommons, builds := p.builds.modify b (setMemory s.memory) }

/-! ### What is waited for -/

inductive PoolOp where
  | getBySlug
  | built (b : Nat)
  | idle (b : Nat)
  | verifyEscrow (config : GatewayConfig)
  | openOrders
  | store
  | app (b : Nat) (o : Op)

abbrev PoolOp.Answer : PoolOp → Type
  | .getBySlug => Option Comercio
  | .built _ => String × String
  | .idle _ => Unit
  | .verifyEscrow _ => GatewayConfig
  | .openOrders => List OrderRecord
  | .store => Unit
  | .app _ o => o.Answer

def poolAnswer {α : Type} (input : Input) (answer : α) (p : Pool) : Option (Except Failure α × Pool) :=
  match input.failure with
  | some e => some (.error e, p)
  | none => some (.ok answer, p)

def servePool : (o : PoolOp) → Input → Pool → Option (Except Failure o.Answer × Pool)
  | .getBySlug, input, p => poolAnswer input p.comercio p
  | .built b, _, p =>
    match p.builds[b]? with
    | some (some (.ok built)) => some (.ok (built.comercioId, built.updatedAt), p)
    | some (some (.error e)) => some (.error e, p)
    | _ => none
  | .idle _, _, p => some (.ok ⟨⟩, p)
  | .verifyEscrow config, input, p => poolAnswer input config p
  | .openOrders, input, p => poolAnswer input p.shop.orderRows p
  | .store, _, p => some (.ok ⟨⟩, p)
  | .app b o, input, p =>
    match serve o input ((appView b).get p) with
    | some (answer, s) => some (answer, (appView b).set s p)
    | none => none

abbrev PoolGate := Routine Pool PoolOp Failure PoolOp.Answer

abbrev askPool (o : PoolOp) : PoolGate o.Answer := Routine.ask o

/-! ### The pool -/

variable (options : PoolOptions)

def fetch : PoolGate (Option Comercio) := do
  let comercio ← askPool .getBySlug
  Routine.modify fun p => { p with lookups := some (p.shop.now, comercio) }
  pure comercio

/-- The merchant's row, as it was at most so long ago. -/
def lookup : PoolGate (Option Comercio) := do
  let p ← Routine.read
  match p.lookups with
  | some (at_, comercio) => if p.shop.now - at_ < options.lookupTtlMs then pure comercio else fetch
  | none => fetch

/-- What an app is built from, with the orders it opens with. -/
def build (comercio : Comercio) : PoolGate Built := do
  let config ← askPool (.verifyEscrow comercio.config)
  let orders ← askPool .openOrders
  pure ⟨comercio.id, comercio.updatedAt, config, .opened orders⟩

/-- A new build, which the pool keeps from now on. -/
def beginBuild (p : Pool) : Nat × Pool := (p.builds.length, { p with built := some p.builds.length, builds := p.builds ++ [none] })

def settleBuild (b : Nat) (result : Except Failure Built) (p : Pool) : Pool :=
  { p with
    built := if result.toBool then p.built else p.built.filter (· ≠ b)
    builds := p.builds.set b (some result) }

def rebuild (comercio : Comercio) : PoolGate Nat := do
  let b ← Routine.atomic beginBuild
  let result ← (build comercio).attempt
  Routine.modify (settleBuild b result)
  let _ ← askPool (.built b)
  pure b

/-- `StorefrontPool.get`: the number of the build whose app serves the request. -/
def get : PoolGate (Option Nat) := do
  let found ← lookup options
  match found with
  | none => pure none
  | some comercio =>
    if ¬comercio.active then pure none
    else
      let p ← Routine.read
      match p.built with
      | none =>
        let b ← rebuild comercio
        pure (some b)
      | some cached =>
        let current ← (askPool (.built cached)).attempt
        match current with
        | .ok (id, updatedAt) =>
          if id = comercio.id ∧ updatedAt = comercio.updatedAt then pure (some cached)
          else
            -- The old app stops delivering webhooks; the requests it is serving go on.
            askPool (.idle cached)
            let b ← rebuild comercio
            pure (some b)
        | .error _ =>
          let b ← rebuild comercio
          pure (some b)

def noStore : Failure := .vitrinee .comercioNotFound "no such store on this platform"

/-- A request in the app of a build. -/
def inApp (b : Nat) (config : GatewayConfig) (request : Request) : PoolGate Reply :=
  (route { options.deps with config := config } request).focus (appView b) (.app b) fun _ => id

def serveStore (request : Request) : PoolGate Reply := do
  let found ← get options
  askPool .store
  match found with
  | none => Routine.throws noStore
  | some b =>
    let p ← Routine.read
    match p.builds[b]? with
    | some (some (.ok built)) => inApp options b built.config request
    | _ => Routine.throws noStore

/-- The merchant's row changes; or something else happens to the store. -/
inductive PoolOutside where
  | configure (comercio : Option Comercio)
  | shop (k : Outside)

def poolOutside : PoolOutside → Pool → Pool
  | .configure comercio, p => { p with comercio := comercio }
  | .shop k, p => { p with shop := (outside k ⟨p.shop, .opened []⟩).toCommons }

def restartPool (p : Pool) : Pool :=
  { p with shop := { p.shop with ordersInFlight := fun _ => none }, lookups := none, built := none }

def host : Host Request Pool PoolOp Failure PoolOp.Answer Reply Input PoolOutside where
  body := serveStore options
  serve := servePool
  outside := poolOutside
  restart := restartPool

/-- A platform that has just opened, with a merchant whose store has no app yet. -/
def openedPool (now : Int) (platform : Platform) (comercio : Option Comercio) : Pool where
  shop := (opened now platform).toCommons
  comercio := comercio
  lookups := none
  built := none
  builds := []

end AgentPey.Storefronts
