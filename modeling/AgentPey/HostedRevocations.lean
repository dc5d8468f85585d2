import AgentPey.PurchaseChecks
import AgentPey.RegistryWrites

/-!
The hosted revocation of a mandate (`revocation.ts`, the revocation routes of `server.ts`, `revokeMandate` of the
directory), on any number of processes. A wallet proves that it is the principal's and gets a transaction to sign; the
signed one is submitted under a mandate's URL, and the directory marks that mandate revoked.
-/
namespace AgentPey.HostedRevocations
open Soroban AgentPass PurchaseChecks RegistryWrites
open Routines (Routine Host)

/-! ### The directory -/

structure MandateRecord where
  id : String
  tenantId : String
  agentId : String
  principalId : String
  mandateHash : BytesN 32
  document : AgentPayMandate
  validUntil : Dates.TimeValue
  anchorTx : String
  revokedAt : Option Int
  revokeTx : Option String

structure Principal where
  id : String
  address : String

structure Tenant where
  id : String
  partnerId : String

structure WebhookEndpoint where
  id : String
  partnerId : String
  deleted : Bool
  events : List String

structure Delivery where
  id : String
  endpointId : String
  partnerId : String
  eventId : String
  type : String
  mandateId : String
  tenantId : String
  agentId : String

structure Hosted extends Writes where
  mandates : List MandateRecord
  principals : List Principal
  tenants : List Tenant
  endpoints : List WebhookEndpoint
  deliveries : List Delivery
  eventsDrawn : Nat

def MandateRecord.revoke (mandate : MandateRecord) (revokeTx : String) (at_ : Int) : MandateRecord :=
  { mandate with revokedAt := some at_, revokeTx := some revokeTx }

/-- A mandate that the update of `revokeMandate` finds. -/
def stands (mandateHash : BytesN 32) (mandate : MandateRecord) : Bool :=
  mandate.mandateHash = mandateHash && mandate.revokedAt.isNone

def revokedDelivery (eventId : String) (mandate : MandateRecord) (endpoint : WebhookEndpoint) : Delivery where
  id := eventId ++ ":" ++ endpoint.id
  endpointId := endpoint.id
  partnerId := endpoint.partnerId
  eventId := eventId
  type := "mandate.revoked"
  mandateId := mandate.id
  tenantId := mandate.tenantId
  agentId := mandate.agentId

def subscribed (s : Hosted) (type : String) (tenantId : String) : List WebhookEndpoint :=
  (s.tenants.filter (·.id = tenantId)).flatMap fun tenant =>
    s.endpoints.filter fun endpoint => endpoint.partnerId = tenant.partnerId && !endpoint.deleted && endpoint.events.contains type

/-- `revokeMandate`, in one statement: the mandate is marked, and its event queued for every endpoint. -/
def markRevoked (mandateHash : BytesN 32) (revokeTx : String) (at_ : Int) (eventId : String) (s : Hosted) : Hosted :=
  { s with
    mandates := s.mandates.map fun mandate => if stands mandateHash mandate then mandate.revoke revokeTx at_ else mandate
    deliveries := s.deliveries ++ (s.mandates.filter (stands mandateHash)).flatMap fun mandate =>
      (subscribed s "mandate.revoked" mandate.tenantId).map (revokedDelivery eventId mandate) }

/-! ### Routines -/

inductive Op where
  | write (o : WriteOp)
  | findMandateById (id : String)
  | findPrincipalByAddress (address : String)
  | revokeMandate (mandateHash : BytesN 32) (revokeTx : String) (at_ : Int) (eventId : String)

abbrev Op.Answer : Op → Type
  | .write o => o.Answer
  | .findMandateById _ => Option MandateRecord
  | .findPrincipalByAddress _ => Option Principal
  | .revokeMandate .. => PUnit

structure Deps where
  wallets : Wallets
  requestIds : Nat → String
  eventIds : Nat → String

variable (deps : Deps)

def serve : (o : Op) → Trouble → Hosted → Option (Result o.Answer × Hosted)
  | .write o, trouble, s =>
    let (answer, writes) := serveWrite deps.wallets o trouble s.toWrites
    some (answer, { s with toWrites := writes })
  | .findMandateById id, trouble, s => some (answerRead trouble (s.mandates.find? (·.id = id)) s)
  | .findPrincipalByAddress address, trouble, s => some (answerRead trouble (s.principals.find? (·.address = address)) s)
  | .revokeMandate mandateHash revokeTx at_ eventId, trouble, s =>
    some (answerWrite trouble ⟨⟩ (markRevoked mandateHash revokeTx at_ eventId s) s)

abbrev Work := Routine Hosted Op Thrown Op.Answer

abbrev ask (o : Op) : Work o.Answer := Routine.ask o

abbrev askWrite (o : WriteOp) : Work o.Answer := Routine.ask (Op.write o)

def now : Work Int := do
  let s ← Routine.read
  pure s.now

def newRequestId : Work String :=
  Routine.atomic fun s => (deps.requestIds s.requestsDrawn, { s with requestsDrawn := s.requestsDrawn + 1 })

def newEventId : Work String :=
  Routine.atomic fun s => (deps.eventIds s.eventsDrawn, { s with eventsDrawn := s.eventsDrawn + 1 })

inductive MandateStatus where
  | active
  | expired
  | revoked
  deriving DecidableEq

def statusOf (mandate : MandateRecord) (now : Int) : MandateStatus :=
  if mandate.revokedAt.isSome then .revoked
  else if mandate.validUntil.ms ≤ now then .expired
  else .active

def iso (t : Dates.TimeValue) : String := String.ofList t.text

structure PrivateRevocationView where
  mandateId : String
  status : MandateStatus
  validUntil : String
  mandateHash : BytesN 32
  grant : MandateGrant
  anchorTx : String

def toPrivateView (mandate : MandateRecord) (now : Int) : PrivateRevocationView where
  mandateId := mandate.id
  status := statusOf mandate now
  validUntil := iso mandate.validUntil
  mandateHash := mandate.mandateHash
  grant := mandate.document.credentialSubject.grant
  anchorTx := mandate.anchorTx

structure WalletProof where
  address : String
  nonce : String
  signature : String

def challengeMessage (nonce : String) : String := "AgentPey quiere confirmar que controlás esta wallet.\nNonce: " ++ nonce

def about (mandateId : String) : Details := [("mandateId", .string mandateId)]

def requireMandate (mandateId : String) : Work MandateRecord := do
  let mandate : Option MandateRecord ← ask (.findMandateById mandateId)
  match mandate with
  | none => .throws (.AgentPassError "MandateNotFound" "no existe ese permiso" (about mandateId))
  | some mandate => pure mandate

/-- The challenge is taken before anything is checked of the proof. -/
def proveOwnership (mandateId : String) (proof : WalletProof) : Work MandateRecord := do
  let mandate ← requireMandate mandateId
  let taken : Bool ← askWrite (.takeChallenge proof.nonce)
  if taken = false then
    .throws (.AgentPassError "InvalidArguments" "ese desafío no existe, ya se usó, o venció — pedí uno nuevo" (about mandateId))
  else if deps.wallets.verifyStellarMessage proof.address (challengeMessage proof.nonce) proof.signature = false then
    .throws (.AgentPassError "InvalidSignature" "la firma no corresponde a esa wallet" (about mandateId))
  else
    let principal : Option Principal ← ask (.findPrincipalByAddress proof.address)
    if principal.any (·.id = mandate.principalId) then pure mandate
    else
      .throws (.AgentPassError "MandatePrincipalMismatch"
        "esa wallet no es la que firmó este permiso — conectá la que usaste para firmarlo" (about mandateId))

def requireRevocable (mandate : MandateRecord) (now : Int) : Result PUnit :=
  match statusOf mandate now with
  | .revoked => .error (.AgentPassError "MandateRevoked" "este permiso ya estaba revocado"
      (about mandate.id ++ [("revokeTx", mandate.revokeTx.elim .null .string)]))
  | .expired => .error (.AgentPassError "MandateExpired" "este permiso ya venció, así que no autoriza nada"
      (about mandate.id ++ [("validUntil", .string (iso mandate.validUntil))]))
  | .active => .ok ⟨⟩

/-! ### Routes -/

/-- The members of a request's body that are strings. -/
inductive Request where
  | prepare (mandateId : String) (address nonce signature : Option String)
  | submit (mandateId : String) (requestId signedXdr : Option String)

def Request.mandateId : Request → String
  | .prepare mandateId .. => mandateId
  | .submit mandateId .. => mandateId

inductive Reply where
  | refused (status : Nat) (code message : String) (details : Details)
  | prepared (requestId xdr : String) (mandate : PrivateRevocationView)
  | revoked (mandateId : String) (mandateHash : BytesN 32) (revokeTx : String)

/-- `errorBody`, sent with 400. -/
def refusal : Thrown → Reply
  | .AgentPassError code message details => .refused 400 code message details
  | .RangeError message => .refused 400 "unknown" message []
  | .DatabaseError message => .refused 400 "unknown" message []

/-- `try … catch` around a route. -/
def caught (work : Work Reply) : Work Reply := do
  let result ← work.attempt
  match result with
  | .ok reply => pure reply
  | .error e => pure (refusal e)

def prepareRoute (mandateId : String) (proof : WalletProof) : Work Reply := caught do
  let mandate ← proveOwnership deps mandateId proof
  let checkedAt ← now
  let _ ← (liftM (requireRevocable mandate checkedAt) : Work PUnit)
  let (requestId, xdr) ← stashForSigning askWrite (newRequestId deps) now (.revoke proof.address mandate.mandateHash)
  let viewedAt ← now
  pure (.prepared requestId xdr (toPrivateView mandate viewedAt))

/-- The signed transaction is sent, and the mandate marked that was found under the URL's id. -/
def submitRoute (mandateId requestId signedXdr : String) : Work Reply := caught do
  let mandate : Option MandateRecord ← ask (.findMandateById mandateId)
  match mandate with
  | none => pure (.refused 404 "MandateNotFound" "no existe ese permiso" [])
  | some mandate =>
    let revokeTx ← submitSigned deps.wallets askWrite requestId signedXdr
    let revokedAt ← now
    let eventId ← newEventId deps
    let _ ← ask (.revokeMandate mandate.mandateHash revokeTx revokedAt eventId)
    pure (.revoked mandate.id mandate.mandateHash revokeTx)

def route : Request → Work Reply
  | .prepare mandateId (some address) (some nonce) (some signature) => prepareRoute deps mandateId ⟨address, nonce, signature⟩
  | .prepare .. => pure (.refused 400 "InvalidArguments" "falta address, nonce o signature" [])
  | .submit mandateId (some requestId) (some signedXdr) => submitRoute deps mandateId requestId signedXdr
  | .submit .. => pure (.refused 400 "InvalidArguments" "falta requestId o signedXdr" [])

/-- What else happens: time passes, a challenge is issued, other flows store a pending write or record a mandate, anybody
    sends a transaction, and partners change their tenants and endpoints. -/
inductive Outside where
  | clock (now : Int) (ledgerTime : UInt64)
  | challenge (nonce : String)
  | pend (requestId : String) (write : PendingWrite)
  | send (envelope : Envelope)
  | principal (principal : Principal)
  | mandate (mandate : MandateRecord)
  | tenant (tenant : Tenant)
  | endpoints (endpoints : List WebhookEndpoint)

/-- A new mandate stands, and its id and hash are new: both are unique in the directory. -/
def recordMandate (mandate : MandateRecord) (s : Hosted) : Hosted :=
  if s.mandates.any fun other => other.id = mandate.id || other.mandateHash = mandate.mandateHash then s
  else { s with mandates := s.mandates ++ [{ mandate with revokedAt := none, revokeTx := none }] }

def outside : Outside → Hosted → Hosted
  | .clock now ledgerTime, s => { s with now := now, ledger := { s.ledger with time := ledgerTime } }
  | .challenge nonce, s => { s with challenges := s.challenges ++ [(nonce, s.now + WALLET_CHALLENGE_TTL_MS)] }
  | .pend requestId write, s => { s with pending := s.pending ++ [(requestId, write, s.now + PENDING_WRITE_TTL_MS)] }
  | .send envelope, s =>
    match s.ledger.submit envelope with
    | some ledger => { s with ledger := ledger }
    | none => s
  | .principal principal, s => { s with principals := s.principals ++ [principal] }
  | .mandate mandate, s => recordMandate mandate s
  | .tenant tenant, s => { s with tenants := s.tenants ++ [tenant] }
  | .endpoints endpoints, s => { s with endpoints := endpoints }

def host : Host Request Hosted Op Thrown Op.Answer Reply Trouble Outside where
  body := route deps
  serve := serve deps
  outside := outside
  restart := id

def opened (admin : Address) : Hosted where
  now := 0
  ledger := ⟨admin, 0, []⟩
  challenges := []
  pending := []
  requestsDrawn := 0
  mandates := []
  principals := []
  tenants := []
  endpoints := []
  deliveries := []
  eventsDrawn := 0

end AgentPey.HostedRevocations
