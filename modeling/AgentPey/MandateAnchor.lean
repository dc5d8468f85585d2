import AgentPey.AgentRegistry
import AgentPey.PurchaseChecks

/-!
Verifying a mandate, offline and against the agent registry: `core/did.ts`,
`core/jws-document.ts`, `mandate/sign.ts` and `mandate/anchor.ts`. The JOSE
library, the schema library and the hash are parameters. A document's hash, which
travels as hex text, is taken as its bytes.
-/
namespace AgentPey.MandateAnchor
open AgentPass PurchaseChecks
open Soroban (Address BytesN)
open AgentRegistry (World CredStatus)

/-! ### `did:stellar` -/

/-- The key formats of the Stellar SDK. -/
structure StrKeys extends StrKey where
  decodeEd25519PublicKey : String → Option (BytesN 32)

def DID_SCHEME : String := "did"
def DID_METHOD : String := "stellar"
def STELLAR_NETWORKS : List String := ["testnet", "public"]

structure ParsedStellarDid where
  did : String
  network : String
  address : String

def invalidDid (did reason message : String) : Thrown :=
  .AgentPassError "InvalidDid" message [("did", .string did), ("reason", .string reason)]

def parseStellarDid (keys : StrKeys) (did : String) : Result ParsedStellarDid :=
  match (did.toList.splitOn ':').map String.ofList with
  | [scheme, method, network, address] =>
    if scheme ≠ DID_SCHEME then
      .error (invalidDid did "wrong-scheme" ("expected scheme \"did\", got \"" ++ scheme ++ "\""))
    else if method ≠ DID_METHOD then
      .error (invalidDid did "wrong-method" ("expected method \"stellar\", got \"" ++ method ++ "\""))
    else if STELLAR_NETWORKS.contains network = false then
      .error (invalidDid did "unsupported-network"
        ("unsupported network \"" ++ network ++ "\", expected one of " ++ ", ".intercalate STELLAR_NETWORKS))
    else if keys.isValidEd25519PublicKey address = false then
      .error (.AgentPassError "InvalidStellarAddress"
        "the DID's address segment is not a Stellar Ed25519 account address (G...)"
        [("did", .string did), ("address", .string address)])
    else .ok ⟨did, network, address⟩
  | segments => .error (invalidDid did "malformed"
      ("expected did:stellar:<network>:<address>, got " ++ toString segments.length ++ " segment(s)"))

def didToStellarAddress (keys : StrKeys) (did : String) : Result String := do
  let parsed ← parseStellarDid keys did
  pure parsed.address

def didToPublicKey (keys : StrKeys) (did : String) : Result (BytesN 32) := do
  let parsed ← parseStellarDid keys did
  match keys.decodeEd25519PublicKey parsed.address with
  | some key => pure key
  | none => .error (.AgentPassError "InvalidStellarAddress"
      "the DID's address passed validation but could not be decoded"
      [("did", .string did), ("address", .string parsed.address)])

/-! ### Signed documents -/

def AGENTPASS_JWS_ALG : String := "EdDSA"

/-- The members of a protected header that are read; `none` is a missing one. -/
structure JwsHeader where
  alg : Option Json
  typ : Option Json
  kid : Option Json

/-- What is taken from outside: the JOSE library, base64url and JSON reading, the hash,
    and the Stellar SDK's keys. `compactVerify` answers whether the signature over the
    header and the payload segment is the key's. -/
structure Libraries where
  keys : StrKeys
  decodeProtectedHeader : String → Option JwsHeader
  readSegment : String → Option Json
  compactVerify : String → BytesN 32 → Bool
  sha256 : String → BytesN 32

/-- What differs between one type of signed document and another. A schema that refuses
    lists its issues: a path and a message each. -/
structure JwsDocumentProfile (T : Type) where
  typ : String
  schema : Json → Except (List (String × String)) T
  signerField : String
  signerDid : T → String
  invalidCode : String

structure VerifiedJwsDocument (T : Type) where
  jws : String
  hash : BytesN 32
  document : T
  signer : String

def jwsDocumentHash (lib : Libraries) (jws : String) : BytesN 32 := lib.sha256 jws

/-- `value === text`. -/
def isText (value : Option Json) (text : String) : Bool :=
  match value with
  | some (.string s) => s = text
  | _ => false

/-- A member of a details object: a value that is undefined leaves none. -/
def member (name : String) (value : Option Json) : Details :=
  match value with
  | some v => [(name, v)]
  | none => []

variable {T : Type}

def parseDocument (profile : JwsDocumentProfile T) (value : Json) : Result T :=
  match profile.schema value with
  | .ok document => .ok document
  | .error issues => .error (.AgentPassError profile.invalidCode "the payload does not match the document schema"
      [("typ", .string profile.typ),
        ("issues", .array (issues.map fun (path, message) =>
          .object [("path", .string path), ("message", .string message)]))])

def decodePayload (lib : Libraries) (profile : JwsDocumentProfile T) (jws : String) : Result Json :=
  match (jws.toList.splitOn '.').map String.ofList with
  | [_, payload, _] =>
    match lib.readSegment payload with
    | some value => .ok value
    | none => .error (.AgentPassError profile.invalidCode "the JWS payload is not readable JSON"
        [("typ", .string profile.typ)])
  | segments => .error (.AgentPassError profile.invalidCode "expected a compact JWS with three segments"
      [("typ", .string profile.typ), ("segments", .number segments.length)])

def peekSigner (keys : StrKeys) (signerField : String) (payload : Json) : Option String :=
  match payload with
  | .object members =>
    match (members.find? fun (name, _) => name = signerField).map Prod.snd with
    | some (.string did) => if (parseStellarDid keys did).toOption.isSome then some did else none
    | _ => none
  | _ => none

/-- Header, signature and schema, offline. The key comes from the payload, never from `kid`. -/
def verifyJwsDocument (lib : Libraries) (profile : JwsDocumentProfile T) (jws : String) :
    Result (VerifiedJwsDocument T) :=
  match lib.decodeProtectedHeader jws with
  | none => .error (.AgentPassError profile.invalidCode "the JWS protected header is unreadable"
      [("typ", .string profile.typ)])
  | some header =>
    if isText header.alg AGENTPASS_JWS_ALG = false then
      .error (.AgentPassError profile.invalidCode "expected alg EdDSA" (member "alg" header.alg))
    else if isText header.typ profile.typ = false then
      .error (.AgentPassError profile.invalidCode ("expected typ " ++ profile.typ)
        (member "typ" header.typ ++ [("expected", .string profile.typ)]))
    else do
      let payload ← decodePayload lib profile jws
      match peekSigner lib.keys profile.signerField payload with
      | none => .error (.AgentPassError profile.invalidCode "the payload carries no usable signer DID"
          [("typ", .string profile.typ), ("signerField", .string profile.signerField)])
      | some signer =>
        if header.kid.isSome ∧ isText header.kid signer = false then
          .error (.AgentPassError profile.invalidCode "the header's kid disagrees with the payload"
            ([("typ", .string profile.typ)] ++ member "kid" header.kid ++ [("signer", .string signer)]))
        else
          let publicKey ← didToPublicKey lib.keys signer
          if lib.compactVerify jws publicKey = false then
            .error (.AgentPassError "InvalidSignature" "the signature does not verify against the signer"
              [("typ", .string profile.typ), ("signer", .string signer)])
          else
            let document ← parseDocument profile payload
            if profile.signerDid document ≠ signer then
              .error (.AgentPassError profile.invalidCode "the signed payload names a different signer"
                [("typ", .string profile.typ), ("peeked", .string signer),
                  ("parsed", .string (profile.signerDid document))])
            else
              pure ⟨jws, jwsDocumentHash lib jws, document, signer⟩

/-! ### Mandates -/

def AGENTPAY_MANDATE_TYP : String := "mandate+jwt"

structure CredentialStatus where
  registry : String

/-- The signed mandate: what the checks of a purchase read, and the registry that
    answers for its status. -/
structure SignedMandateDocument extends AgentPayMandate where
  credentialStatus : CredentialStatus

def mandateProfile (schema : Json → Except (List (String × String)) SignedMandateDocument) :
    JwsDocumentProfile SignedMandateDocument where
  typ := AGENTPAY_MANDATE_TYP
  schema := schema
  signerField := "issuer"
  signerDid mandate := mandate.issuer
  invalidCode := "InvalidMandate"

structure VerifiedMandate where
  jws : String
  hash : BytesN 32
  mandate : SignedMandateDocument
  principal : String
  agent : String

/-- The signature, then the validity window; both ends are inside. -/
def verifyMandate (lib : Libraries) (schema : Json → Except (List (String × String)) SignedMandateDocument)
    (jws : String) (now : Dates.Date) : Result VerifiedMandate := do
  let verified ← verifyJwsDocument lib (mandateProfile schema) jws
  let mandate := verified.document
  if Dates.before now (Dates.parse mandate.validFrom) then
    let iso ← Dates.toISOString now
    .error (.AgentPassError "MandateNotYetValid" "the mandate is not valid yet"
      [("now", .string iso), ("validFrom", .string mandate.validFrom)])
  else if Dates.before (Dates.parse mandate.validUntil) now then
    let iso ← Dates.toISOString now
    .error (.AgentPassError "MandateExpired" "the mandate has expired"
      [("now", .string iso), ("validUntil", .string mandate.validUntil)])
  else
    pure ⟨verified.jws, verified.hash, mandate, verified.signer, mandate.credentialSubject.id⟩

/-! ### The registry -/

structure IssuerStatus where
  registered : Bool
  active : Bool

/-- What a verifier asks the registry it trusts. -/
structure RegistryAccess where
  contractId : String
  status : BytesN 32 → Result CredStatus
  issuerStatus : String → Result IssuerStatus

def assertTrustedRegistry (mandate : SignedMandateDocument) (registry : RegistryAccess) : Result PUnit :=
  if mandate.credentialStatus.registry ≠ registry.contractId then
    .error (.AgentPassError "RegistryMismatch" "the mandate names a registry this client does not trust"
      [("mandateRegistry", .string mandate.credentialStatus.registry),
        ("trustedRegistry", .string registry.contractId)])
  else .ok ⟨⟩

def hexDigits (hash : BytesN 32) : String :=
  String.ofList (hash.1.flatMap fun byte => [Nat.digitChar (byte.toNat / 16), Nat.digitChar (byte.toNat % 16)])

/-- The network checks: the anchored hash is active, and the principal is registered and active. -/
def checkOnChainStatus (keys : StrKeys) (registry : RegistryAccess) (hash : BytesN 32)
    (mandate : SignedMandateDocument) (principal : String) : Result String := do
  assertTrustedRegistry mandate registry
  let hashDetail : String × Json := ("hash", .string (hexDigits hash))
  let registryDetail : String × Json := ("registry", .string registry.contractId)
  let status ← registry.status hash
  match status with
  | .Revoked => .error (.AgentPassError "MandateRevoked" "the registry reports this mandate as revoked"
      [hashDetail, registryDetail])
  | .Unknown => .error (.AgentPassError "MandateUnknown" "this mandate was never anchored in the registry"
      [hashDetail, registryDetail])
  | .Expired => .error (.AgentPassError "MandateExpired"
      "the registry reports this mandate as expired, though its signed window has not closed"
      [hashDetail, ("validUntil", .string mandate.validUntil)])
  | .Active =>
    let principalAddress ← didToStellarAddress keys principal
    let standing ← registry.issuerStatus principalAddress
    let principalDetail : String × Json := ("principalAddress", .string principalAddress)
    if standing.registered = false then
      .error (.AgentPassError "IssuerNotRegistered" "the mandate's principal is not registered in the registry"
        [principalDetail, registryDetail])
    else if standing.active = false then
      .error (.AgentPassError "IssuerInactive" "the mandate's principal has been deactivated"
        [principalDetail, registryDetail])
    else pure principalAddress

structure FullyVerifiedMandate extends VerifiedMandate where
  principalAddress : String

def verifyMandateOnChain (lib : Libraries)
    (schema : Json → Except (List (String × String)) SignedMandateDocument) (registry : RegistryAccess)
    (jws : String) (now : Dates.Date) : Result FullyVerifiedMandate := do
  let verified ← verifyMandate lib schema jws now
  let principalAddress ← checkOnChainStatus lib.keys registry verified.hash verified.mandate verified.principal
  pure ⟨verified, principalAddress⟩

/-! ### The registry on chain -/

def accountOf (keys : StrKeys) (text : String) : Option Address :=
  (keys.decodeEd25519PublicKey text).map Address.account

/-- The client of a deployed registry. Its two reads are two calls: the contract may
    have moved on from one to the other. -/
def onChain (keys : StrKeys) (contractId : String) (now : UInt64) (atStatus atIssuer : World) : RegistryAccess where
  contractId := contractId
  status hash := .ok (AgentRegistry.status now atStatus hash)
  issuerStatus text :=
    match accountOf keys text with
    | none => .error (.AgentPassError "NetworkError" "the registry call failed" [("contractId", .string contractId)])
    | some issuer =>
      let record := AgentRegistry.get_issuer atIssuer issuer
      .ok ⟨record.isSome, (record.map (·.active)).getD false⟩

/-- `revokeMandate`: the call that the principal's key signs. -/
def revokeMandate (principal : Address) (mandateHash : BytesN 32) : AgentRegistry.Call := .revoke principal mandateHash

end AgentPey.MandateAnchor
