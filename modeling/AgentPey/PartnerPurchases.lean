import AgentPey.AgentPass
import AgentPey.HttpSignatures
import AgentPey.Routines

/-!
`POST /v1/purchases` (`apps/web/src/partner-routes.ts`): who is asked what before a purchase runs, and how its answer is
kept under the partner's `Idempotency-Key` (`packages/partner-api/src/idempotency.ts`, `packages/directory/src/directory.ts`).
Any number of processes serve requests over one database; each request is one routine.
-/
namespace AgentPey.PartnerPurchases
open AgentPass (Json Details)
open HttpSignatures (trim)
open Routines

/-- What a call throws: the project's typed error, or anything else, of which only the text is read. -/
inductive Failure where
  | AgentPassError (code message : String) (details : Details)
  | other (text : String)

def IDEMPOTENCY_TTL_MS : Int := 24 * 60 * 60 * 1000

structure IdempotencyRecord where
  partnerId : String
  key : String
  requestHash : String
  responseStatus : Nat
  responseBody : Json
  createdAt : Int

structure PartnerRouteResponse where
  status : Nat
  body : Json

/-- A body that has passed `createPurchaseRequestSchema`. -/
structure CreatePurchaseRequest where
  tenant_id : String
  venue : String
  product_id : String
  quantity : Nat
  max_total : Option String
  route_params : Option Details
  mandate_id : Option String

/-- What `executeTenantPurchase` answers. -/
inductive ExecutedPurchase where
  | settled (agentId mandateId intentId total asset : String) (payTo transactionHash : Option String) (resourceUrl : String)
      (resource : Json)
  | refused (agentId mandateId : Option String) (code reason : String) (intentId : Option String)

structure CreatePurchaseInput where
  tenantId : String
  agentId : Option String
  mandateId : Option String
  partnerId : String
  outcome : String
  code : Option String
  reason : Option String
  venue : String
  productId : String
  quantity : Nat
  intentId : Option String
  total : Option String
  asset : Option String
  payTo : Option String
  transactionHash : Option String
  delivery : Option Details

structure PurchaseRecord extends CreatePurchaseInput where
  id : String
  createdAt : Int

/-- What came of a write: when the row was written, if it was, and what the call did. A call that throws may have written. -/
structure Recording where
  writtenAt : Int
  outcome : Except Failure IdempotencyRecord

/-! ### Errors and envelopes -/

def STATUS_BY_CODE : List (String × Nat) :=
  [("MissingApiKey", 401), ("InvalidApiKey", 401), ("ScopeNotGranted", 403), ("IdempotencyKeyRequired", 400),
    ("IdempotencyKeyConflict", 409), ("InvalidArguments", 400), ("InvalidExternalRef", 400), ("TenantAlreadyExists", 409),
    ("PartnerNotFound", 404), ("TenantNotFound", 404), ("AgentNotFound", 404), ("MandateNotFound", 404),
    ("ConsentSessionNotFound", 404), ("ConsentSessionExpired", 410), ("ConsentSessionAlreadyCompleted", 409),
    ("ReturnUrlNotAllowed", 400), ("PurchaseNotFound", 404), ("WebhookUrlNotAllowed", 400),
    ("WebhookEndpointNotFound", 404), ("RateLimited", 429), ("RateLimiterUnavailable", 503), ("NotImplemented", 501)]

def statusForError : Failure → Nat
  | .AgentPassError code _ _ => (STATUS_BY_CODE.lookup code).getD 500
  | .other _ => 500

def toErrorEnvelope : Failure → Json
  | .AgentPassError code message details =>
    .object [("ok", .bool false), ("code", .string code), ("message", .string message), ("details", .object details)]
  | .other text => .object [("ok", .bool false), ("code", .string "unknown"), ("message", .string text), ("details", .object [])]

def successEnvelope (data : Json) : Json := .object [("ok", .bool true), ("data", data)]

def errorResponse (e : Failure) : PartnerRouteResponse := ⟨statusForError e, toErrorEnvelope e⟩

def keyRequired : Failure := .AgentPassError "IdempotencyKeyRequired" "this route requires an Idempotency-Key header" []

def keyConflict (key : String) : Failure :=
  .AgentPassError "IdempotencyKeyConflict" "this Idempotency-Key was already used with a different request body"
    [("key", .string key)]

/-! ### Requests and questions -/

/-- A request, with the clock of the process that serves it. -/
structure PartnerRouteRequest (Body : Type) where
  authorizationHeader : Option String
  idempotencyKeyHeader : Option String
  body : Body
  now : Int

inductive Op where
  | authorize (authorizationHeader : Option String) (scope : String)
  | findIdempotentResponse (partnerId key : String)
  | findTenant (tenantId : String)
  | findMandateById (mandateId : String)
  | executePurchase (request : CreatePurchaseRequest)
  | createPurchase (input : CreatePurchaseInput)
  | recordIdempotentResponse (partnerId key requestHash : String) (responseStatus : Nat) (responseBody : Json)

/-- Of a key, a tenant and a mandate, only whose they are is read. -/
abbrev Op.Answer : Op → Type
  | .authorize .. => String
  | .findIdempotentResponse .. => Option IdempotencyRecord
  | .findTenant _ => Option String
  | .findMandateById _ => Option String
  | .executePurchase _ => ExecutedPurchase
  | .createPurchase _ => PurchaseRecord
  | .recordIdempotentResponse .. => Recording

/-- The rows of `directory_idempotency`. -/
structure Directory where
  rows : List IdempotencyRecord

abbrev Route := Routine Directory Op Failure Op.Answer

/-- What is taken from outside: the schema of a body, its hash, and the resource of a stored purchase. -/
structure Deps (Body : Type) where
  createPurchaseRequestSchema : Body → Option CreatePurchaseRequest
  hashRequestBody : Body → String
  toPurchaseResource : PurchaseRecord → Except Failure Json

section
variable {Body : Type} (deps : Deps Body) (input : PartnerRouteRequest Body)

inductive IdempotencyOutcome where
  | proceed
  | replay (record : IdempotencyRecord)

/-- What is made of the stored response, once it has been looked up. -/
def decideIdempotency (key : String) (existing : Option IdempotencyRecord) : Except Failure IdempotencyOutcome :=
  match existing with
  | none => .ok .proceed
  | some existing =>
    if existing.createdAt + IDEMPOTENCY_TTL_MS ≤ input.now then .ok .proceed
    else if deps.hashRequestBody input.body ≠ existing.requestHash then .error (keyConflict key)
    else .ok (.replay existing)

def resolveIdempotency (partnerId : String) : Route IdempotencyOutcome := do
  match input.idempotencyKeyHeader.map trim with
  | none => .throws keyRequired
  | some key =>
    if key = "" then .throws keyRequired
    else do
      let existing ← Routine.ask (.findIdempotentResponse partnerId key)
      decideIdempotency deps input key existing

def requireOwnedTenant (tenantId partnerId : String) : Route PUnit := do
  let tenant ← Routine.ask (.findTenant tenantId)
  if tenant = some partnerId then pure ⟨⟩
  else .throws (.AgentPassError "TenantNotFound" "no tenant with that id" [("tenantId", .string tenantId)])

def requireMandateOfTenant (mandateId tenantId : String) : Route PUnit := do
  let mandate ← Routine.ask (.findMandateById mandateId)
  if mandate = some tenantId then pure ⟨⟩
  else .throws (.AgentPassError "MandateNotFound" "no mandate with that id" [("mandateId", .string mandateId)])

/-- A mandate that a request names must be its tenant's. -/
def requireNamedMandate (request : CreatePurchaseRequest) : Route PUnit :=
  match request.mandate_id with
  | some mandateId => requireMandateOfTenant mandateId request.tenant_id
  | none => pure ⟨⟩

def parseBody : Except Failure CreatePurchaseRequest :=
  match deps.createPurchaseRequestSchema input.body with
  | some request => .ok request
  | none => .error (.AgentPassError "InvalidArguments" "request body does not match the expected shape" [])

def purchaseInput (request : CreatePurchaseRequest) (partnerId : String) : ExecutedPurchase → CreatePurchaseInput
  | .settled agentId mandateId intentId total asset payTo transactionHash resourceUrl resource =>
    { tenantId := request.tenant_id, agentId := some agentId, mandateId := some mandateId, partnerId := partnerId,
      outcome := "settled", code := none, reason := none, venue := request.venue, productId := request.product_id,
      quantity := request.quantity, intentId := some intentId, total := some total, asset := some asset, payTo := payTo,
      transactionHash := transactionHash, delivery := some [("resource_url", .string resourceUrl), ("resource", resource)] }
  | .refused agentId mandateId code reason intentId =>
    { tenantId := request.tenant_id, agentId := agentId, mandateId := mandateId, partnerId := partnerId,
      outcome := "refused", code := some code, reason := some reason, venue := request.venue,
      productId := request.product_id, quantity := request.quantity, intentId := intentId, total := none, asset := none,
      payTo := none, transactionHash := none, delivery := none }

/-- The part of a purchase that is kept under the key, whatever comes of it. -/
def runPurchase (partnerId : String) : Route PartnerRouteResponse := do
  let request ← parseBody deps input
  requireOwnedTenant request.tenant_id partnerId
  requireNamedMandate request
  let result ← Routine.ask (.executePurchase request)
  let record ← Routine.ask (.createPurchase (purchaseInput request partnerId result))
  let resource ← deps.toPurchaseResource record
  pure ⟨201, successEnvelope resource⟩

def respond : Except Failure PartnerRouteResponse → PartnerRouteResponse
  | .ok response => response
  | .error e => errorResponse e

/-- The header as it came, not trimmed, is the key that the answer is kept under. -/
def respondOrCache (partnerId idempotencyKey : String) (execute : Route PartnerRouteResponse) :
    Route PartnerRouteResponse := do
  let result ← execute.attempt
  let response := respond result
  let recording : Recording ← Routine.ask (Op.recordIdempotentResponse partnerId idempotencyKey (deps.hashRequestBody input.body)
    response.status response.body)
  let _ ← recording.outcome
  pure response

def handleCreatePurchase : Route PartnerRouteResponse := do
  let partnerId ← Routine.ask (.authorize input.authorizationHeader "payments:authorize")
  let outcome ← resolveIdempotency deps input partnerId
  match outcome with
  | .replay record => pure ⟨record.responseStatus, record.responseBody⟩
  | .proceed => respondOrCache deps input partnerId (input.idempotencyKeyHeader.getD "") (runPurchase deps input partnerId)

def routePartnerRequest : Route PartnerRouteResponse := do
  let result ← (handleCreatePurchase deps input).attempt
  pure (respond result)

end

/-! ### The database -/

/-- `idempotencyRecordSchema`: what a row is read through. -/
def toIdempotencyRecord (row : IdempotencyRecord) : Except Failure IdempotencyRecord :=
  if 1 ≤ row.key.length ∧ row.key.length ≤ 255 ∧ 200 ≤ row.responseStatus ∧ row.responseStatus ≤ 599 then .ok row
  else .error (.other "ZodError")

def isRow (partnerId key : String) (row : IdempotencyRecord) : Bool := row.partnerId = partnerId ∧ row.key = key

def Directory.find (s : Directory) (partnerId key : String) : Option IdempotencyRecord := s.rows.find? (isRow partnerId key)

/-- `insert … on conflict (partner_id, key) do update`: an old row keeps its `created_at`. -/
def Directory.upsert (s : Directory) (row : IdempotencyRecord) : Directory :=
  match s.find row.partnerId row.key with
  | none => ⟨s.rows ++ [row]⟩
  | some _ => ⟨s.rows.map fun old => if isRow row.partnerId row.key old then { row with createdAt := old.createdAt } else old⟩

variable {key : String}

theorem isRow_iff {partnerId : String} {row : IdempotencyRecord} :
    isRow partnerId key row ↔ row.partnerId = partnerId ∧ row.key = key := by
  simp [isRow]

/-- The row that is found after it was written: a new one, or an old one with what was written and its first time. -/
theorem find_upsert (s : Directory) (row : IdempotencyRecord) : ∃ createdAt,
    (s.upsert row).find row.partnerId row.key = some { row with createdAt := createdAt } := by
  unfold Directory.upsert
  cases found : s.find row.partnerId row.key with
  | none =>
    refine ⟨row.createdAt, ?_⟩
    have here : isRow row.partnerId row.key row := isRow_iff.mpr ⟨rfl, rfl⟩
    rw [Directory.find] at found ⊢
    rw [List.find?_append, found]
    simp [here]
  | some old =>
    refine ⟨old.createdAt, ?_⟩
    have matches_ : isRow row.partnerId row.key old := List.find?_some found
    have keeps : ∀ other, isRow row.partnerId row.key (if isRow row.partnerId row.key other
        then { row with createdAt := other.createdAt } else other) = isRow row.partnerId row.key other := by
      intro other
      by_cases here : isRow row.partnerId row.key other
      · rw [if_pos here, here]
        exact isRow_iff.mpr ⟨rfl, rfl⟩
      · rw [if_neg here]
    rw [Directory.find] at found ⊢
    rw [List.find?_map, Function.comp_def]
    simp only [keeps]
    rw [found]
    simp [matches_]

theorem find_upsert_other (s : Directory) (row : IdempotencyRecord) {partnerId : String}
    (other : ¬(row.partnerId = partnerId ∧ row.key = key)) : (s.upsert row).find partnerId key = s.find partnerId key := by
  have not_new : ∀ createdAt, isRow partnerId key { row with createdAt := createdAt } = false := by
    intro createdAt
    rw [Bool.eq_false_iff]
    exact fun here => other (isRow_iff.mp here)
  unfold Directory.upsert
  cases found : s.find row.partnerId row.key with
  | none =>
    have here : isRow partnerId key row = false := not_new row.createdAt
    simp [Directory.find, List.find?_append, here]
  | some old =>
    simp only [Directory.find]
    induction s.rows with
    | nil => rfl
    | cons first rest ih =>
      rw [List.map_cons]
      by_cases written : isRow row.partnerId row.key first
      · have not_first : isRow partnerId key first = false := by
          obtain ⟨partner, name⟩ := isRow_iff.mp written
          rw [Bool.eq_false_iff]
          intro here
          obtain ⟨rfl, rfl⟩ := isRow_iff.mp here
          exact other ⟨partner.symm, name.symm⟩
        rw [if_pos written, List.find?_cons_of_neg (by simp [not_new]), List.find?_cons_of_neg (by simp [not_first]), ih]
      · rw [if_neg written, List.find?_cons, List.find?_cons, ih]

/-- What decides an answer, besides the rows. -/
inductive Input where
  | fails (e : Failure)
  | authorized (partnerId : String)
  | reads
  | owner (id : Option String)
  | purchased (result : ExecutedPurchase)
  | created (id : String) (createdAt : Int)
  /-- The row is written at a time of the database's clock; the call may throw all the same. -/
  | writes (writtenAt : Int) (thrown : Option Failure)

def find (partnerId key : String) (s : Directory) : Except Failure (Option IdempotencyRecord) :=
  match s.find partnerId key with
  | none => .ok none
  | some row => (toIdempotencyRecord row).map some

def written (s : Directory) (partnerId key : String) (thrown : Option Failure) : Except Failure IdempotencyRecord :=
  match thrown, s.find partnerId key with
  | some e, _ => .error e
  | none, some row => toIdempotencyRecord row
  | none, none => .error (.other "ZodError")

def serve : (o : Op) → Input → Directory → Option (Except Failure o.Answer × Directory)
  | _, .fails e, s => some (.error e, s)
  | .authorize .., .authorized partnerId, s => some (.ok partnerId, s)
  | .findIdempotentResponse partnerId key, .reads, s => some (find partnerId key s, s)
  | .findTenant _, .owner id, s => some (.ok id, s)
  | .findMandateById _, .owner id, s => some (.ok id, s)
  | .executePurchase _, .purchased result, s => some (.ok result, s)
  | .createPurchase input, .created id createdAt, s => some (.ok { input with id := id, createdAt := createdAt }, s)
  | .recordIdempotentResponse partnerId key requestHash status body, .writes writtenAt thrown, s =>
    let s' := s.upsert ⟨partnerId, key, requestHash, status, body, writtenAt⟩
    some (.ok ⟨writtenAt, written s' partnerId key thrown⟩, s')
  | _, _, _ => none

section
variable {Body : Type} (deps : Deps Body)

/-- Requests over one database; nothing else writes these rows, and they outlive a crash. -/
def host : Host (PartnerRouteRequest Body) Directory Op Failure Op.Answer PartnerRouteResponse Input Empty where
  body := routePartnerRequest deps
  serve := serve
  outside k := k.elim
  restart := id

end

end AgentPey.PartnerPurchases
