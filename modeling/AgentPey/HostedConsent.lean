import AgentPey.MandateAnchor
import AgentPey.RegistryWrites

/-!
The hosted consent of a principal to a grant that a partner proposes (the consent routes of `server.ts`,
`wallet-session-store.ts`, the directory's consent sessions and mandates), on any number of processes. A wallet is
verified; a mandate for it is built and stored as pending; its signature is stored beside it with the request id of the
prepared anchoring; and when the signed transaction was sent, the mandate is recorded and the session completed.
-/
namespace AgentPey.HostedConsent
open Soroban AgentPass PurchaseChecks MandateAnchor RegistryWrites
open Routines (Routine Host)
open Dates (Date TimeValue before parse)

/-! ### Documents -/

/-- A mandate as a wallet signs it. -/
structure WalletMandate extends SignedMandateDocument where
  mandateId : String

structure AgentDescriptor where
  name : String
  model : String
  operator : String

structure AgentPassCredential where
  issuer : String
  validFrom : String
  validUntil : String
  subject : String
  agent : AgentDescriptor
  principal : String
  scope : Scope
  credentialStatus : CredentialStatus

structure Issued where
  jws : String
  hash : BytesN 32
  transactionHash : String

/-- What is taken from outside, and the platform's own configuration: its issuer's address, the keys it derives for
    agents, and the ids it draws. `grantRefusal` is what the grant's schema has against a grant. -/
structure Deps where
  wallets : Wallets
  keys : StrKeys
  mandateHash : WalletMandate → BytesN 32
  grantRefusal : MandateGrant → Option String
  issuerAddress : String
  agentAddress : Nat → String
  requestIds : Nat → String
  ids : Nat → String

/-! ### Stores -/

inductive SessionStatus where
  | pending
  | completed
  deriving DecidableEq

structure ConsentSession where
  id : String
  tenantId : String
  status : SessionStatus
  grant : MandateGrant
  validUntil : TimeValue
  expiresAt : Int
  mandateId : Option String

/-- A row of `pending_consent_sessions`. -/
structure PendingConsent where
  issuedCredentialJws : String
  credentialHash : BytesN 32
  credentialAnchorTx : String
  credential : AgentPassCredential
  mandate : WalletMandate
  walletAddress : String
  tenantId : String
  signature : Option String
  requestId : Option String

structure Tenant where
  id : String
  partnerId : String

structure Partner where
  id : String
  name : String

structure Agent where
  id : String
  tenantId : String
  keyIndex : Nat

structure Principal where
  id : String
  address : String
  did : String

structure CredentialRecord where
  agentId : String
  tenantId : String
  credentialHash : BytesN 32
  issuerDid : String
  principalDid : String
  jws : String
  validFrom : Date
  validUntil : Date
  anchorTx : String

structure RecordMandateInput where
  tenantId : String
  agentId : String
  principalId : String
  mandateHash : BytesN 32
  signatureKind : String
  document : WalletMandate
  signature : Option String
  validFrom : Date
  validUntil : Date
  anchorTx : String

/-- A mandate's row. The consent session it was recorded through is written beside it for the statements alone. -/
structure MandateRecord extends RecordMandateInput where
  id : String
  through : Option String

/-- The database, beside the writes of the registry. -/
structure Consents extends Writes where
  sessions : List ConsentSession
  pendingConsents : String → Option (PendingConsent × Int)
  walletAddresses : String → Option String
  tenants : List Tenant
  partners : List Partner
  agents : List Agent
  principals : List Principal
  credentials : List CredentialRecord
  mandates : List MandateRecord
  idsDrawn : Nat

def Consents.getPending (s : Consents) (id : String) : Option PendingConsent :=
  (s.pendingConsents id).bind fun (payload, expiresAt) => if s.now < expiresAt then some payload else none

/-- `payload || patch`. -/
def PendingConsent.patch (payload : PendingConsent) (signature requestId : String) : PendingConsent :=
  { payload with signature := some signature, requestId := some requestId }

def Consents.updatePending (s : Consents) (id signature requestId : String) : Consents :=
  match s.pendingConsents id with
  | none => s
  | some (payload, expiresAt) =>
    if s.now < expiresAt then
      { s with pendingConsents := Function.update s.pendingConsents id (some (payload.patch signature requestId, expiresAt)) }
    else s

def Consents.upsertPrincipal (s : Consents) (id address did : String) : Principal × Consents :=
  match s.principals.find? (·.address = address) with
  | some principal => (principal, s)
  | none => (⟨id, address, did⟩, { s with principals := s.principals ++ [⟨id, address, did⟩] })

def ConsentSession.complete (session : ConsentSession) (mandateId : String) : ConsentSession :=
  { session with status := .completed, mandateId := some mandateId }

def Consents.completeSession (s : Consents) (id mandateId : String) : Consents :=
  { s with
    sessions := s.sessions.map fun session =>
      if session.id = id ∧ session.status = .pending then session.complete mandateId else session }

/-! ### Questions -/

inductive Op where
  | write (o : WriteOp)
  | getWalletAddress (consentSessionId : String)
  | setWalletAddress (consentSessionId address : String)
  | deleteWalletAddress (consentSessionId : String)
  | findConsentSession (id : String)
  | findTenant (id : String)
  | findPartner (id : String)
  | listAgents (tenantId : String)
  | createAgent (id tenantId : String)
  | issue (credential : AgentPassCredential)
  | issuerStatus (address : String)
  | registerIssuer (address : String)
  | setPending (consentSessionId : String) (payload : PendingConsent) (expiresAt : Int)
  | getPending (consentSessionId : String)
  | updatePending (consentSessionId signature requestId : String)
  | deletePending (consentSessionId : String)
  | upsertPrincipal (id address did : String)
  | bindPrincipal (tenantId principalId proofNonce proofSignature : String)
  | recordCredential (input : CredentialRecord)
  | recordMandate (id : String) (input : RecordMandateInput) (through : String)
  | completeConsentSession (id mandateId : String)

abbrev Op.Answer : Op → Type
  | .write o => o.Answer
  | .getWalletAddress _ => Option String
  | .setWalletAddress .. => PUnit
  | .deleteWalletAddress _ => PUnit
  | .findConsentSession _ => Option ConsentSession
  | .findTenant _ => Option Tenant
  | .findPartner _ => Option Partner
  | .listAgents _ => List Agent
  | .createAgent .. => Agent
  | .issue _ => Issued
  | .issuerStatus _ => IssuerStatus
  | .registerIssuer _ => PUnit
  | .setPending .. => PUnit
  | .getPending _ => Option PendingConsent
  | .updatePending .. => PUnit
  | .deletePending _ => PUnit
  | .upsertPrincipal .. => Principal
  | .bindPrincipal .. => PUnit
  | .recordCredential _ => PUnit
  | .recordMandate .. => MandateRecord
  | .completeConsentSession .. => ConsentSession

/-- What the outside decides of an answer. A credential's issuance and a registration are transactions of the platform's
    own; what they do to the chain is what anybody's may. -/
structure Input extends Trouble where
  issued : Issued
  issuer : IssuerStatus

def duplicate (key : String) : Thrown :=
  .DatabaseError ("duplicate key value violates unique constraint \"" ++ key ++ "\"")

def completionRefused (s : Consents) (id : String) : Thrown :=
  if s.sessions.any (·.id = id) then
    .AgentPassError "ConsentSessionAlreadyCompleted" "this consent session was already completed"
      [("consentSessionId", .string id)]
  else .AgentPassError "ConsentSessionNotFound" "no consent session with that id" [("consentSessionId", .string id)]

variable (deps : Deps)

def serve : (o : Op) → Input → Consents → Option (Result o.Answer × Consents)
  | .write o, input, s =>
    let (answer, writes) := serveWrite deps.wallets o input.toTrouble s.toWrites
    some (answer, { s with toWrites := writes })
  | .getWalletAddress id, input, s => some (answerRead input.toTrouble (s.walletAddresses id) s)
  | .setWalletAddress id address, input, s =>
    some (answerWrite input.toTrouble ⟨⟩ { s with walletAddresses := Function.update s.walletAddresses id (some address) } s)
  | .deleteWalletAddress id, input, s =>
    some (answerWrite input.toTrouble ⟨⟩ { s with walletAddresses := Function.update s.walletAddresses id none } s)
  | .findConsentSession id, input, s => some (answerRead input.toTrouble (s.sessions.find? (·.id = id)) s)
  | .findTenant id, input, s => some (answerRead input.toTrouble (s.tenants.find? (·.id = id)) s)
  | .findPartner id, input, s => some (answerRead input.toTrouble (s.partners.find? (·.id = id)) s)
  | .listAgents tenantId, input, s => some (answerRead input.toTrouble (s.agents.filter (·.tenantId = tenantId)) s)
  | .createAgent id tenantId, input, s =>
    let agent : Agent := ⟨id, tenantId, s.agents.length⟩
    some (answerWrite input.toTrouble agent { s with agents := s.agents ++ [agent] } s)
  | .issue _, input, s => some (answerRead input.toTrouble input.issued s)
  | .issuerStatus _, input, s => some (answerRead input.toTrouble input.issuer s)
  | .registerIssuer _, input, s => some (answerRead input.toTrouble ⟨⟩ s)
  | .setPending id payload expiresAt, input, s =>
    some (answerWrite input.toTrouble ⟨⟩
      { s with pendingConsents := Function.update s.pendingConsents id (some (payload, expiresAt)) } s)
  | .getPending id, input, s => some (answerRead input.toTrouble (s.getPending id) s)
  | .updatePending id signature requestId, input, s =>
    some (answerWrite input.toTrouble ⟨⟩ (s.updatePending id signature requestId) s)
  | .deletePending id, input, s =>
    some (answerWrite input.toTrouble ⟨⟩ { s with pendingConsents := Function.update s.pendingConsents id none } s)
  | .upsertPrincipal id address did, input, s =>
    let (principal, written) := s.upsertPrincipal id address did
    some (answerWrite input.toTrouble principal written s)
  | .bindPrincipal .., input, s => some (answerWrite input.toTrouble ⟨⟩ s s)
  | .recordCredential credential, input, s =>
    if s.credentials.any (·.credentialHash = credential.credentialHash) then
      some (.error (duplicate "directory_credentials_credential_hash_key"), s)
    else some (answerWrite input.toTrouble ⟨⟩ { s with credentials := s.credentials ++ [credential] } s)
  | .recordMandate id mandate through, input, s =>
    if s.mandates.any (·.mandateHash = mandate.mandateHash) then
      some (.error (duplicate "directory_mandates_mandate_hash_key"), s)
    else
      let row : MandateRecord := ⟨mandate, id, some through⟩
      some (answerWrite input.toTrouble row { s with mandates := s.mandates ++ [row] } s)
  | .completeConsentSession id mandateId, input, s =>
    match s.sessions.find? fun session => session.id = id ∧ session.status = .pending with
    | none => some (.error (completionRefused s id), s)
    | some session => some (answerWrite input.toTrouble (session.complete mandateId) (s.completeSession id mandateId) s)

/-! ### Routines -/

abbrev Work := Routine Consents Op Thrown Op.Answer

abbrev ask (o : Op) : Work o.Answer := Routine.ask o

abbrev askWrite (o : WriteOp) : Work o.Answer := Routine.ask (Op.write o)

def now : Work Int := do
  let s ← Routine.read
  pure s.now

def newRequestId : Work String :=
  Routine.atomic fun s => (deps.requestIds s.requestsDrawn, { s with requestsDrawn := s.requestsDrawn + 1 })

def newId : Work String := Routine.atomic fun s => (deps.ids s.idsDrawn, { s with idsDrawn := s.idsDrawn + 1 })

def about (consentSessionId : String) : Details := [("consentSessionId", .string consentSessionId)]

def refused (code message consentSessionId : String) : Thrown := .AgentPassError code message (about consentSessionId)

def stellarAddressToDid (address : String) : Result String :=
  if deps.keys.isValidEd25519PublicKey address = false then
    .error (.AgentPassError "InvalidStellarAddress" "expected a Stellar Ed25519 account address (G...)"
      [("address", .string address)])
  else .ok (DID_SCHEME ++ ":" ++ DID_METHOD ++ ":" ++ "testnet" ++ ":" ++ address)

def PENDING_WALLET_SESSION_TTL_MS : Int := 10 * 60000

def toISOString (ms : Int) : Result String := Dates.toISOString (if h : _ then some ⟨ms, h⟩ else none)

/-- The tenant's own agent: found, or made; when making it fails, somebody else may have made it. -/
def ensureTenantAgent (tenantId : String) : Work Agent := do
  let existing : List Agent ← ask (.listAgents tenantId)
  match existing with
  | record :: _ => pure record
  | [] =>
    let id ← newId deps
    let created ← (ask (.createAgent id tenantId)).attempt
    match created with
    | .ok agent => pure agent
    | .error raceError =>
      let afterRace : List Agent ← ask (.listAgents tenantId)
      match afterRace with
      | winner :: _ => pure winner
      | [] => .throws raceError

/-- `createMandate`, of members that have been checked. -/
def createMandate (principal agent : String) (grant : MandateGrant) (validFrom validUntil mandateId : String) :
    Result WalletMandate :=
  if before (parse validUntil) (parse validFrom) then
    .error (.AgentPassError "InvalidMandate" "the mandate would expire before it begins"
      [("validFrom", .string validFrom), ("validUntil", .string validUntil)])
  else
    .ok
      { issuer := principal
        validFrom := validFrom
        validUntil := validUntil
        credentialSubject := ⟨agent, grant⟩
        credentialStatus := ⟨deps.wallets.contractId⟩
        mandateId := mandateId }

def buildSessionDocuments (agentAddress walletAddress : String) (descriptor : AgentDescriptor) (grant : MandateGrant)
    (startedAt : Int) (validUntil : TimeValue) (mandateId : String) : Result (AgentPassCredential × WalletMandate) := do
  let issuerDid ← stellarAddressToDid deps deps.issuerAddress
  let agentDid ← stellarAddressToDid deps agentAddress
  let principal ← stellarAddressToDid deps walletAddress
  let validFrom ← toISOString startedAt
  let untilText ← Dates.toISOString (some validUntil)
  let mandate ← createMandate deps principal agentDid grant validFrom untilText mandateId
  pure (⟨issuerDid, validFrom, untilText, agentDid, descriptor, principal, grant.scope, ⟨deps.wallets.contractId⟩⟩, mandate)

def ensureWalletIsRegisteredIssuer (walletAddress : String) : Work PUnit := do
  let existing : IssuerStatus ← ask (.issuerStatus walletAddress)
  if existing.registered && existing.active then pure ⟨⟩ else ask (.registerIssuer walletAddress)

def mandateGrantParse (grant : MandateGrant) : Result MandateGrant :=
  match deps.grantRefusal grant with
  | some issues => .error (.RangeError issues)
  | none => .ok grant

def mandateChallengeMessage (mandate : WalletMandate) : String :=
  let grant := mandate.credentialSubject.grant
  "\n".intercalate
    ["AgentPey Mandate",
      "Agent: " ++ mandate.credentialSubject.id,
      "Limit: " ++ grant.scope.limits.perTx ++ " per purchase, " ++ grant.scope.limits.perDay ++ " per day, " ++
        grant.scope.limits.currency,
      "Valid until: " ++ mandate.validUntil,
      "Hash: " ++ hexDigits (deps.mandateHash mandate)]

/-- An invitation that may still be signed. -/
def usableSession (consentSessionId : String) (session : Option ConsentSession) (at_ : Int) : Result ConsentSession :=
  match session with
  | none => .error (refused "ConsentSessionNotFound" "no existe esa invitación" consentSessionId)
  | some session =>
    if session.status ≠ .pending then
      .error (refused "ConsentSessionAlreadyCompleted" "esta invitación ya se firmó" consentSessionId)
    else if session.expiresAt < at_ then
      .error (refused "ConsentSessionExpired" "esta invitación venció" consentSessionId)
    else .ok session

def found {α : Type} (value : Option α) (missing : Thrown) : Result α :=
  match value with
  | some a => .ok a
  | none => .error missing

/-- The credential is issued, the mandate built of the partner's own grant and stored as pending, unsigned. -/
def startSession (consentSessionId : String) : Work (BytesN 32 × String) := do
  let stored : Option String ← ask (.getWalletAddress consentSessionId)
  let walletAddress ← (liftM (found stored (refused "ConfigError" "conectá la wallet primero" consentSessionId)) : Work String)
  let row : Option ConsentSession ← ask (.findConsentSession consentSessionId)
  let startedAt ← now
  let session ← (liftM (usableSession consentSessionId row startedAt) : Work ConsentSession)
  let tenant : Option Tenant ← ask (.findTenant session.tenantId)
  let tenant ← (liftM (found tenant
    (refused "TenantNotFound" "el tenant de esta invitación ya no existe" consentSessionId)) : Work Tenant)
  let partner : Option Partner ← ask (.findPartner tenant.partnerId)
  let partner ← (liftM (found partner
    (refused "PartnerNotFound" "el partner de esta invitación ya no existe" consentSessionId)) : Work Partner)
  let agent ← ensureTenantAgent deps session.tenantId
  let grant ← (liftM (mandateGrantParse deps session.grant) : Work MandateGrant)
  let mandateId ← newId deps
  let documents ← (liftM (buildSessionDocuments deps (deps.agentAddress agent.keyIndex) walletAddress
    ⟨"consent-" ++ session.id, "partner-managed", partner.name⟩ grant startedAt session.validUntil mandateId) :
    Work (AgentPassCredential × WalletMandate))
  let issued : Issued ← ask (.issue documents.1)
  let _ ← ensureWalletIsRegisteredIssuer walletAddress
  let storedAt ← now
  let _ ← ask (.setPending consentSessionId
    { issuedCredentialJws := issued.jws
      credentialHash := issued.hash
      credentialAnchorTx := issued.transactionHash
      credential := documents.1
      mandate := documents.2
      walletAddress := walletAddress
      tenantId := session.tenantId
      signature := none
      requestId := none } (storedAt + PENDING_WALLET_SESSION_TTL_MS))
  pure (issued.hash, mandateChallengeMessage deps documents.2)

/-- Signature, then the validity window; the document is the one that was built. -/
def verifyWalletSignedMandate (mandate : WalletMandate) (signature : String) (at_ : Int) : Result PUnit := do
  let address ← didToStellarAddress deps.keys mandate.issuer
  if deps.wallets.verifyStellarMessage address (mandateChallengeMessage deps mandate) signature = false then
    .error (.AgentPassError "InvalidSignature" "the wallet signature does not verify against the principal"
      [("principal", .string mandate.issuer)])
  else
    let iso ← toISOString at_
    if before (parse iso) (parse mandate.validFrom) then
      .error (.AgentPassError "MandateNotYetValid" "the mandate is not valid yet"
        [("now", .string iso), ("validFrom", .string mandate.validFrom)])
    else if before (parse mandate.validUntil) (parse iso) then
      .error (.AgentPassError "MandateExpired" "the mandate has expired"
        [("now", .string iso), ("validUntil", .string mandate.validUntil)])
    else pure ⟨⟩

def trustedRegistry (mandate : WalletMandate) : Result PUnit :=
  if mandate.credentialStatus.registry ≠ deps.wallets.contractId then
    .error (.AgentPassError "RegistryMismatch" "the mandate names a registry this client does not trust"
      [("mandateRegistry", .string mandate.credentialStatus.registry), ("trustedRegistry", .string deps.wallets.contractId)])
  else .ok ⟨⟩

def anchorWrite (mandate : WalletMandate) : Result PendingWrite := do
  let subject ← didToStellarAddress deps.keys mandate.credentialSubject.id
  let issuer ← didToStellarAddress deps.keys mandate.issuer
  pure (.anchor issuer (deps.mandateHash mandate) subject (((parse mandate.validUntil).map (·.ms)).getD 0))

def prepareWalletAnchor (mandate : WalletMandate) (signature : String) : Work (String × String) := do
  let _ ← (liftM (trustedRegistry deps mandate) : Work PUnit)
  let at_ ← now
  let _ ← (liftM (verifyWalletSignedMandate deps mandate signature at_) : Work PUnit)
  let write ← (liftM (anchorWrite deps mandate) : Work PendingWrite)
  stashForSigning askWrite (newRequestId deps) now write

/-! ### Routes -/

/-- The members of a request's body that are strings. -/
inductive Request where
  | verify (consentSessionId : String) (address nonce signature : Option String)
  | start (consentSessionId : String)
  | consent (consentSessionId : String) (signature : Option String)
  | anchor (consentSessionId : String) (requestId signedXdr : Option String)

def Request.consentSessionId : Request → String
  | .verify id .. => id
  | .start id => id
  | .consent id _ => id
  | .anchor id .. => id

inductive Reply where
  | refused (status : Nat) (code message : String) (details : Details)
  | verified (address : String)
  | started (credentialHash : BytesN 32) (challengeMessage : String)
  | prepared (requestId xdr : String)
  | anchored (status : SessionStatus) (mandateId : String) (mandateHash : BytesN 32) (transactionHash : String)

/-- `errorBody`, sent with 400. -/
def refusal : Thrown → Reply
  | .AgentPassError code message details => .refused 400 code message details
  | .RangeError message => .refused 400 "unknown" message []
  | .DatabaseError message => .refused 400 "unknown" message []

/-- `try … catch` around a route. -/
def caught (work : Work Reply) : Work Reply := do
  let result ← work.attempt
  match result with
  | .ok reply => pure reply
  | .error e => pure (refusal e)

def challengeMessage (nonce : String) : String := "AgentPey quiere confirmar que controlás esta wallet.\nNonce: " ++ nonce

/-- The wallet is bound to the invitation's tenant, and kept for the invitation. -/
def bindWallet (consentSessionId address nonce signature : String) : Work Reply := caught do
  let row : Option ConsentSession ← ask (.findConsentSession consentSessionId)
  match row with
  | none => pure (.refused 404 "ConsentSessionNotFound" "no existe esa invitación" [])
  | some session =>
    let did ← (liftM (stellarAddressToDid deps address) : Work String)
    let id ← newId deps
    let principal : Principal ← ask (.upsertPrincipal id address did)
    let _ ← ask (.bindPrincipal session.tenantId principal.id nonce signature)
    let _ ← ask (.setWalletAddress consentSessionId address)
    pure (.verified address)

def verifyRoute (consentSessionId address nonce signature : String) : Work Reply := do
  let taken : Bool ← askWrite (.takeChallenge nonce)
  if taken = false then
    pure (.refused 400 "InvalidArguments" "ese challenge no existe, ya se usó, o venció — pedí uno nuevo" [])
  else if deps.wallets.verifyStellarMessage address (challengeMessage nonce) signature = false then
    pure (.refused 400 "InvalidSignature" "la firma no corresponde a esa wallet" [])
  else bindWallet deps consentSessionId address nonce signature

def startRoute (consentSessionId : String) : Work Reply := caught do
  let (credentialHash, message) ← startSession deps consentSessionId
  pure (.started credentialHash message)

/-- What is read is prepared; what it says is merged into what is stored by then. -/
def signPending (consentSessionId : String) (pending : PendingConsent) (signature : String) : Work Reply := caught do
  let (requestId, xdr) ← prepareWalletAnchor deps pending.mandate signature
  let _ ← ask (.updatePending consentSessionId signature requestId)
  pure (.prepared requestId xdr)

def consentRoute (consentSessionId : String) (signature : Option String) : Work Reply := do
  let row : Option PendingConsent ← ask (.getPending consentSessionId)
  match row, signature with
  | none, _ => pure (.refused 400 "ConfigError"
      "no hay ninguna invitación esperando la firma de la wallet — empezá el flujo de nuevo" [])
  | some _, none => pure (.refused 400 "InvalidArguments" "falta signature" [])
  | some pending, some signature => signPending deps consentSessionId pending signature

def mandateInput (pending : PendingConsent) (agentId principalId transactionHash : String) : RecordMandateInput where
  tenantId := pending.tenantId
  agentId := agentId
  principalId := principalId
  mandateHash := deps.mandateHash pending.mandate
  signatureKind := "wallet-sep53"
  document := pending.mandate
  signature := pending.signature
  validFrom := parse pending.mandate.validFrom
  validUntil := parse pending.mandate.validUntil
  anchorTx := transactionHash

def credentialInput (pending : PendingConsent) (agentId : String) : CredentialRecord where
  agentId := agentId
  tenantId := pending.tenantId
  credentialHash := pending.credentialHash
  issuerDid := pending.credential.issuer
  principalDid := pending.credential.principal
  jws := pending.issuedCredentialJws
  validFrom := parse pending.credential.validFrom
  validUntil := parse pending.credential.validUntil
  anchorTx := pending.credentialAnchorTx

/-- The signed transaction is sent; the credential and the mandate are recorded, and the invitation completed. -/
def anchorPending (consentSessionId : String) (pending : PendingConsent) (requestId signedXdr : String) : Work Reply := caught do
  let transactionHash ← submitSigned deps.wallets askWrite requestId signedXdr
  let agent ← ensureTenantAgent deps pending.tenantId
  let did ← (liftM (stellarAddressToDid deps pending.walletAddress) : Work String)
  let principalId ← newId deps
  let principal : Principal ← ask (.upsertPrincipal principalId pending.walletAddress did)
  let _ ← ask (.recordCredential (credentialInput pending agent.id))
  let id ← newId deps
  let mandate : MandateRecord ←
    ask (.recordMandate id (mandateInput deps pending agent.id principal.id transactionHash) consentSessionId)
  let completed : ConsentSession ← ask (.completeConsentSession consentSessionId mandate.id)
  let _ ← ask (.deletePending consentSessionId)
  let _ ← ask (.deleteWalletAddress consentSessionId)
  pure (.anchored completed.status mandate.id mandate.mandateHash transactionHash)

def anchorRoute (consentSessionId : String) (requestId signedXdr : Option String) : Work Reply := do
  let row : Option PendingConsent ← ask (.getPending consentSessionId)
  match row.filter (·.signature.isSome), requestId, signedXdr with
  | none, _, _ => pure (.refused 400 "ConfigError"
      "no hay ninguna invitación esperando el anclaje — empezá el flujo de nuevo" [])
  | some pending, some requestId, some signedXdr =>
    if pending.requestId = some requestId then anchorPending deps consentSessionId pending requestId signedXdr
    else pure (.refused 400 "InvalidArguments" "falta requestId o signedXdr, o no coincide" [])
  | some _, _, _ => pure (.refused 400 "InvalidArguments" "falta requestId o signedXdr, o no coincide" [])

def route : Request → Work Reply
  | .verify id (some address) (some nonce) (some signature) => verifyRoute deps id address nonce signature
  | .verify .. => pure (.refused 400 "InvalidArguments" "falta address, nonce o signature" [])
  | .start id => startRoute deps id
  | .consent id signature => consentRoute deps id signature
  | .anchor id requestId signedXdr => anchorRoute deps id requestId signedXdr

/-- What else happens: time passes, a challenge is issued, expired rows are swept, other flows store a pending write or
    record a mandate, anybody sends a transaction, and partners invite. -/
inductive Outside where
  | clock (now : Int) (ledgerTime : UInt64)
  | challenge (nonce : String)
  | sweep
  | pend (requestId : String) (write : PendingWrite)
  | send (envelope : Envelope)
  | tenant (tenant : Tenant)
  | partner (partner : Partner)
  | invite (session : ConsentSession)
  | mandate (id : String) (mandate : RecordMandateInput)

def invite (session : ConsentSession) (s : Consents) : Consents :=
  if s.sessions.any (·.id = session.id) then s
  else { s with sessions := s.sessions ++ [{ session with status := .pending, mandateId := none }] }

def recordElsewhere (id : String) (mandate : RecordMandateInput) (s : Consents) : Consents :=
  if s.mandates.any (·.mandateHash = mandate.mandateHash) then s
  else { s with mandates := s.mandates ++ [⟨mandate, id, none⟩] }

def outside : Outside → Consents → Consents
  | .clock now ledgerTime, s => { s with now := now, ledger := { s.ledger with time := ledgerTime } }
  | .challenge nonce, s => { s with challenges := s.challenges ++ [(nonce, s.now + WALLET_CHALLENGE_TTL_MS)] }
  | .sweep, s => { s with pendingConsents := fun id => (s.pendingConsents id).filter fun row => s.now < row.2 }
  | .pend requestId write, s => { s with pending := s.pending ++ [(requestId, write, s.now + PENDING_WRITE_TTL_MS)] }
  | .send envelope, s =>
    match s.ledger.submit envelope with
    | some ledger => { s with ledger := ledger }
    | none => s
  | .tenant tenant, s => { s with tenants := s.tenants ++ [tenant] }
  | .partner partner, s => { s with partners := s.partners ++ [partner] }
  | .invite session, s => invite session s
  | .mandate id mandate, s => recordElsewhere id mandate s

def host : Host Request Consents Op Thrown Op.Answer Reply Input Outside where
  body := route deps
  serve := serve deps
  outside := outside
  restart := id

def opened (admin : Address) : Consents where
  now := 0
  ledger := ⟨admin, 0, []⟩
  challenges := []
  pending := []
  requestsDrawn := 0
  sessions := []
  pendingConsents _ := none
  walletAddresses _ := none
  tenants := []
  partners := []
  agents := []
  principals := []
  credentials := []
  mandates := []
  idsDrawn := 0

end AgentPey.HostedConsent
