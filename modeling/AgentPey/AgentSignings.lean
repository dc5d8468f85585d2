import AgentPey.Knowledge
import Mathlib.Data.List.DropRight

/-!
How an agent hired on RealOps gets its permission signed (`realops/src/app.ts`): `startSigning` opens a consent session on
AgentPey and stores it with the agent, and the return from signing asks AgentPey what became of it. Each reads the agent's whole
row, waits for AgentPey, and writes the whole row back (`saveAgent` of `store-postgres.ts`). AgentPey answers a repeated
idempotency key as it did the first time (`partner-api/src/idempotency.ts`).
-/
namespace AgentPey.AgentSignings
open Routines (Routine)

/-! ### Agents -/

inductive AgentKind where
  | market_brief
  | ai_credits
  | bazaar_shopper
  | vitrinee_shopper
  deriving DecidableEq

structure AgentPermissions where
  perTx : String
  perDay : String
  validForDays : ℕ
  deriving DecidableEq

structure AgentConfig where
  id : String
  accountId : String
  kind : AgentKind
  label : String
  permissions : AgentPermissions
  tenantId : Option String
  consentSessionId : Option String
  mandateId : Option String
  comercio : Option String
  signAttempt : ℕ
  createdAt : Int
  deriving DecidableEq

structure Account where
  id : String
  externalRef : String

/-- `agentId` is a ULID of its own. -/
def newAgent (agentId accountId : String) (kind : AgentKind) (label : String) (permissions : AgentPermissions) (now : Int)
    (comercio : Option String) : AgentConfig :=
  ⟨agentId, accountId, kind, label, permissions, none, none, none, comercio, 0, now⟩

/-! ### Grants -/

structure PilotTarget where
  venueId : String
  assetId : String
  products : List String
  payTo : List String

abbrev PilotTargets := AgentKind → PilotTarget

def PURCHASE_ACTION : String := "intent:create"
def CURRENCY : String := "USDC"

structure Limits where
  perTx : String
  perDay : String
  currency : String
  deriving DecidableEq

structure Grant where
  actions : List String
  venues : List String
  assets : List String
  products : List String
  payTo : List String
  limits : Limits
  deriving DecidableEq

structure ProposedGrant extends Grant where
  validFrom : Int
  validUntil : Int

/-- The dates are computed from the clock. -/
def translatePermissions (kind : AgentKind) (permissions : AgentPermissions) (targets : PilotTargets) (now : Int) : ProposedGrant where
  actions := [PURCHASE_ACTION]
  venues := [(targets kind).venueId]
  assets := [(targets kind).assetId]
  products := (targets kind).products
  payTo := (targets kind).payTo
  limits := ⟨permissions.perTx, permissions.perDay, CURRENCY⟩
  validFrom := now
  validUntil := now + permissions.validForDays * 24 * 60 * 60 * 1000

/-- What is asked for, without its date. -/
structure Proposal where
  tenantId : String
  grant : Grant
  returnUrl : String
  deriving DecidableEq

/-- The body of `POST /v1/consent_sessions`. -/
structure ConsentRequest extends Proposal where
  validUntil : Int
  deriving DecidableEq

/-! ### AgentPey -/

/-- Of a consent session that was just made, its id and where it is signed. -/
structure ConsentSession where
  id : String
  consentUrl : Option String
  deriving DecidableEq

/-- Of a consent session that is read, its mandate, which it has once it is completed. -/
structure SessionState where
  status : String
  mandateId : Option String

inductive Refusal where
  /-- `IdempotencyKeyConflict`. -/
  | conflict
  | other (code message : String)
  deriving DecidableEq

inductive Failure where
  /-- No answer, or none in time, or none that is JSON. -/
  | network (message : String)
  | refused (refusal : Refusal)
  | database

/-- What comes of a request that AgentPey carries out: a session, or the code and the message of a refusal. -/
abbrev Outcome := Except (String × String) ConsentSession

/-- What AgentPey keeps of a request with an idempotency key: the body, by its hash, and its answer. -/
structure Record where
  body : ConsentRequest
  answer : Outcome
  createdAt : Int

def IDEMPOTENCY_TTL_MS : Int := 24 * 60 * 60 * 1000

/-! ### The store -/

/-- The agent's row, what AgentPey keeps, and the clock. -/
structure Store where
  row : AgentConfig
  records : String → Option Record
  mandates : String → Option String
  now : Int

inductive Op where
  | findAgent (accountId : String)
  | listAgents (accountId : String)
  | mandateStatus (mandateId : String)
  | targetsFor (agent : AgentConfig)
  | ensureTenant (externalRef : String)
  | createConsentSession (body : ConsentRequest) (idempotencyKey : String)
  | readConsentSession (id : String)
  | saveAgent (agent : AgentConfig)
  /-- The pause before the second read. -/
  | pause

abbrev Op.Answer : Op → Type
  | .findAgent _ => Option AgentConfig
  | .listAgents _ => List AgentConfig
  | .mandateStatus _ => Option String
  | .targetsFor _ => Option PilotTargets
  | .ensureTenant _ => String
  | .createConsentSession _ _ => ConsentSession
  | .readConsentSession _ => SessionState
  | .saveAgent _ => Unit
  | .pause => Unit

abbrev Job := Routine Store Op Failure Op.Answer

def ask (o : Op) : Job o.Answer := Routine.ask o

/-- How a question is answered: with a failure, and whether a write or a request went through all the same; whether AgentPey
    looked the key up before another request with it was recorded; and what AgentPey and the shop answer. -/
structure Input where
  failure : Option String
  applied : Bool
  overlap : Bool
  outcome : Outcome
  tenantId : String
  targets : Option PilotTargets
  status : Option String
  completed : Bool

def Input.reply {α : Type} (input : Input) (e : String → Failure) (a : α) : Except Failure α :=
  match input.failure with
  | none => .ok a
  | some message => .error (e message)

def Input.arrives (input : Input) : Bool := input.failure.isNone || input.applied

def refusals : Outcome → Except Refusal ConsentSession
  | .ok session => .ok session
  | .error (code, message) => .error (.other code message)

def Store.found (s : Store) (key : String) (overlap : Bool) : Option Record :=
  if overlap then none else (s.records key).filter fun r => s.now < r.createdAt + IDEMPOTENCY_TTL_MS

/-- `resolveIdempotency`, and `respondOrCache` for a request it lets through. -/
def Store.consent (s : Store) (body : ConsentRequest) (key : String) (input : Input) : Except Refusal ConsentSession × Store :=
  match s.found key input.overlap with
  | some r => (if r.body = body then refusals r.answer else .error .conflict, s)
  | none =>
    -- an update keeps the first date
    let createdAt := ((s.records key).map Record.createdAt).getD s.now
    (refusals input.outcome,
      { s with records := fun other => if other = key then some ⟨body, input.outcome, createdAt⟩ else s.records other })

def serve : (o : Op) → Input → Store → Option (Except Failure o.Answer × Store)
  | .findAgent accountId, input, s =>
    some (input.reply (fun _ => .database) (if accountId = s.row.accountId then some s.row else none), s)
  | .listAgents accountId, input, s =>
    some (input.reply (fun _ => .database) (if accountId = s.row.accountId then [s.row] else []), s)
  | .mandateStatus _, input, s => some (.ok input.status, s)
  | .targetsFor _, input, s => some (.ok input.targets, s)
  | .ensureTenant _, input, s => some (input.reply .network input.tenantId, s)
  | .createConsentSession body key, input, s =>
    if input.arrives then
      let (answer, s') := s.consent body key input
      match input.failure, answer with
      | some message, _ => some (.error (.network message), s')
      | none, .ok session => some (.ok session, s')
      | none, .error refusal => some (.error (.refused refusal), s')
    else some (.error (.network (input.failure.getD "")), s)
  | .readConsentSession id, input, s =>
    match s.mandates id with
    | some mandate =>
      some (input.reply .network (if input.completed then ⟨"completed", some mandate⟩ else ⟨"pending", none⟩), s)
    | none => some (input.reply .network ⟨input.status.getD "pending", none⟩, s)
  | .saveAgent agent, input, s =>
    some (input.reply (fun _ => .database) ⟨⟩, if input.arrives then { s with row := agent } else s)
  | .pause, _, s => some (.ok ⟨⟩, s)

/-! ### The handlers -/

structure Config where
  /-- `config.agentpey` is there. -/
  connected : Bool
  baseUrl : String

inductive Reply where
  | errorPage (status : ℕ) (message : String)
  | redirect (location : String)

def NOT_CONNECTED : String := "This instance is not connected to AgentPey yet."
def NO_SUCH_AGENT : String := "That agent does not exist."
def STORE_UNAVAILABLE : String :=
  "This agent's store cannot be reached right now, so its permission cannot be shown or signed. Try again in a moment."
def NO_PENDING_SIGNATURE : String := "There is no pending signature for that agent."
def NO_INVITATION : String := "That invitation is no longer available. Try again."

def messageFor : Failure → String
  | .network message => "AgentPey did not accept the request (NetworkError): " ++ message
  | .refused .conflict => "AgentPey did not accept the request (IdempotencyKeyConflict): " ++
    "this Idempotency-Key was already used with a different request body"
  | .refused (.other code message) => "AgentPey did not accept the request (" ++ code ++ "): " ++ message
  | .database => "We could not reach AgentPey. Try again in a moment."

/-- `baseUrl.replace(/\/+$/, "")`. -/
def withoutSlashes (url : String) : String := String.ofList (url.toList.rdropWhile (· = '/'))

def idempotencyKey (agent : AgentConfig) (attempt : ℕ) : String := "consent-" ++ agent.id ++ "-" ++ toString attempt

variable (config : Config)

def proposal (agent : AgentConfig) (tenantId : String) (grant : Grant) : Proposal :=
  ⟨tenantId, grant, withoutSlashes config.baseUrl ++ "/agentes/" ++ agent.id ++ "/volver"⟩

/-- What `startSigning` tries. -/
def openSession (account : Account) (agent : AgentConfig) (targets : PilotTargets) : Job Reply := do
  let tenantId ← ask (.ensureTenant account.externalRef)
  let s ← Routine.read
  let granted := translatePermissions agent.kind agent.permissions targets s.now
  let attempt := agent.signAttempt + 1
  let session ← ask (.createConsentSession ⟨proposal config agent tenantId granted.toGrant, granted.validUntil⟩
    (idempotencyKey agent attempt))
  let _ ← ask (.saveAgent { agent with
    tenantId := some tenantId, consentSessionId := some session.id, mandateId := none, signAttempt := attempt })
  match session.consentUrl with
  | none => pure (.errorPage 409 NO_INVITATION)
  | some url => pure (.redirect url)

def startSigning (account : Account) (agent : AgentConfig) : Job Reply :=
  if config.connected then do
    let targets ← ask (.targetsFor agent)
    match targets with
    | none => pure (.errorPage 503 STORE_UNAVAILABLE)
    | some targets =>
      let tried ← (openSession config account agent targets).attempt
      match tried with
      | .ok reply => pure reply
      | .error e => pure (.errorPage 502 (messageFor e))
  else pure (.errorPage 503 NOT_CONNECTED)

/-- `POST /agentes/{id}/firmar`; and what the catalogue does for an agent that is not signed. -/
def firmar (account : Account) : Job Reply := do
  let agent ← ask (.findAgent account.id)
  match agent with
  | none => pure (.errorPage 404 NO_SUCH_AGENT)
  | some agent => startSigning config account agent

/-- One read of the session, and its mandate kept: whether the agent is signed now. -/
def readAndKeep (agent : AgentConfig) (consentSessionId : String) : Job Bool := do
  let session ← ask (.readConsentSession consentSessionId)
  match session.mandateId with
  | some mandate =>
    if session.status = "completed" then do
      let _ ← ask (.saveAgent { agent with mandateId := some mandate })
      pure true
    else pure false
  | none => pure false

def landing (agent : AgentConfig) (signed : Bool) : Reply :=
  if signed then .redirect ("/catalogo?agente=" ++ agent.id) else .redirect ("/agentes/" ++ agent.id)

/-- `GET /agentes/{id}/volver`. -/
def volver (account : Account) : Job Reply := do
  let agent ← ask (.findAgent account.id)
  match agent with
  | none => pure (.errorPage 404 NO_PENDING_SIGNATURE)
  | some agent =>
    match agent.consentSessionId with
    | none => pure (.errorPage 404 NO_PENDING_SIGNATURE)
    | some consentSessionId =>
      let signed := agent.mandateId.isSome
      if config.connected then do
        let first ← (readAndKeep agent consentSessionId).attempt
        match first with
        | .ok now => pure (landing agent (signed || now))
        | .error _ =>
          let _ ← ask .pause
          let second ← (readAndKeep agent consentSessionId).attempt
          match second with
          | .ok now => pure (landing agent (signed || now))
          | .error _ => pure (landing agent signed)
      else pure (landing agent signed)

/-- `POST /agentes` for a store that this account has a shopper at already. Another account gets an agent of its own. -/
def hireAgain (account : Account) (comercio : String) (signNow : Bool) : Job Reply := do
  let agents ← ask (.listAgents account.id)
  match agents.find? fun agent => agent.kind = .vitrinee_shopper && agent.comercio = some comercio with
  | none => pure (.redirect "/agentes")
  | some existing =>
    match existing.mandateId with
    | none => if signNow then startSigning config account existing else pure (.redirect ("/agentes/" ++ existing.id))
    | some mandateId =>
      let status ← ask (.mandateStatus mandateId)
      if signNow && (status = some "revoked" || status = some "expired") then startSigning config account existing
      else if signNow then pure (.redirect ("/catalogo?agente=" ++ existing.id))
      else pure (.redirect ("/agentes/" ++ existing.id))

inductive Request where
  | firmar (account : Account)
  | volver (account : Account)
  | hireAgain (account : Account) (comercio : String) (signNow : Bool)

def body : Request → Job Reply
  | .firmar account => firmar config account
  | .volver account => volver config account
  | .hireAgain account comercio signNow => hireAgain config account comercio signNow

/-- A consent session is completed, with the one mandate it gets; and time passes. -/
inductive Outside where
  | complete (consentSessionId mandateId : String)
  | tick (now : Int)

def outside : Outside → Store → Store
  | .complete consentSessionId mandateId, s =>
    { s with mandates := fun other =>
        if other = consentSessionId then some ((s.mandates other).getD mandateId) else s.mandates other }
  | .tick now, s => { s with now := now }

/-- Any number of processes over one row: a crash leaves the row and what AgentPey keeps. -/
def signings : Routines.Host Request Store Op Failure Op.Answer Reply Input Outside where
  body := body config
  serve := serve
  outside := outside
  restart s := s

/-- An agent that was just hired: the row that hiring stores, which its own signing reads first. -/
def hired (agentId accountId : String) (kind : AgentKind) (label : String) (permissions : AgentPermissions) (now : Int)
    (comercio : Option String) : Store :=
  ⟨newAgent agentId accountId kind label permissions now comercio, fun _ => none, fun _ => none, now⟩

end AgentPey.AgentSignings
