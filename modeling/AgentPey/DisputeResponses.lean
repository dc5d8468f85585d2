import AgentPey.ArbiterCases
import AgentPey.WalletSign
import Mathlib.Data.List.DropRight

/-!
A dispute's two documents (`resolve/src/claim.ts`, `resolve/src/response.ts`): the schema of a merchant's response, how an
arbiter verifies one against the dispute, and how a claim is read, once by the arbiter, who verifies it, and once by the
gateway (`vitrinee-gateway/src/disputes.ts`), which only decodes it.
-/
namespace AgentPey.DisputeResponses
open JsonNumbers JsonValues JsonTexts JsonSchemas TextLines Utf8 WalletSign ArbiterCases

/-! ### Texts -/

/-- What `trim` takes off the ends: white space and line terminators. -/
def isSpace (u : CodeUnit) : Bool :=
  u.val ∈ [9, 10, 11, 12, 13, 32, 0xA0, 0x1680, 0x2028, 0x2029, 0x202F, 0x205F, 0x3000, 0xFEFF] ||
    (0x2000 ≤ u.val && u.val ≤ 0x200A)

def trim (text : Text) : Text := (text.dropWhile isSpace).rdropWhile isSpace

/-- `^[0-9a-f]{64}$`. -/
def isHex64 (text : Text) : Bool := text.length = 64 && text.all fun u => isDigit u || (97 ≤ u.val && u.val ≤ 102)

/-- `^[1-9]\d*$`. -/
def isAtomic (text : Text) : Bool := text.all isDigit && text.head?.any (· ≠ zero)

/-- `z.string().trim().min(1).max(limit)`. -/
def trimmed (limit : ℕ) (v : Value) : Option Text := do
  let text ← asText v
  if 1 ≤ (trim text).length ∧ (trim text).length ≤ limit then some (trim text) else none

def textThat (holds : Text → Bool) (v : Value) : Option Text := (asText v).filter holds

def asMembers : Value → Option (Members Value)
  | .object members => some members
  | _ => none

def strictMembers (known : List Text) (v : Value) : Option (Members Value) :=
  (asMembers v).filter fun members => members.all fun m => m.1 ∈ known ∨ m.1 = CanonicalJson.proto

def required {α : Type} (members : Members Value) (name : String) (read : Value → Option α) : Option α :=
  (member members (words name)).bind read

def literal (text : String) (v : Value) : Option Unit := if asText v = some (words text) then some ⟨⟩ else none

def nullable {α : Type} (read : Value → Option α) : Value → Option (Option α)
  | .null => some none
  | v => (read v).map some

def list {α : Type} (limit : ℕ) (read : Value → Option α) : Value → Option (List α)
  | .array vs => if vs.length ≤ limit then vs.mapM read else none
  | _ => none

/-! ### Responses -/

/-- What is taken from libraries besides: JWS signatures, the two decoders of base64url, and the reading of transactions. -/
structure Decoders extends Libraries where
  /-- The header and the signature of a compact JWS of this `typ` verify. -/
  isSigned : Text → Text → Bool
  decodeBase64url : Text → Option Bytes
  /-- `Buffer.from(part, "base64url")`, which answers for every text. -/
  bufferOf : Text → Bytes
  /-- `Buffer.toString("utf8")`. -/
  toText : Bytes → Text
  /-- A compact JWS is made of base64url and dots. -/
  compact : ∀ typ jws, isSigned typ jws → ∀ u ∈ jws, u.val < 0x80
  /-- The lenient decoder agrees with the strict one. -/
  bufferOf_eq : ∀ part bytes, decodeBase64url part = some bytes → bufferOf part = bytes
  /-- Only the bytes of an ASCII text decode to it. -/
  toText_ascii : ∀ bytes text, toText bytes = text → (∀ u ∈ text, u.val < 0x80) → bytes = utf8 text

variable (lib : Decoders)

abbrev Did := StellarDid lib.toLibraries

def stellarDid (v : Value) : Option (Did lib) :=
  match asText v with
  | some text => if valid : isStellarDid lib.toLibraries text then some ⟨text, valid⟩ else none
  | none => none

structure AgentResolveResponse where
  responseId : Text
  respondent : Did lib
  receiptHash : Text
  claimHash : Text
  claimId : Text
  position : ResponsePosition
  acceptedAtomic : Option Text
  statement : Text
  evidence : List ClaimEvidence
  createdAt : Text

def positions : List ResponsePosition := [.acceptFull, .acceptPartial, .contest]

def positionOf (v : Value) : Option ResponsePosition := positions.find? fun position => asText v = some position.text

def evidenceKinds : List EvidenceKind := [.text, .url]

def claimEvidenceSchema (v : Value) : Option ClaimEvidence := do
  let members ← strictMembers [words "kind", words "content"] v
  let kind ← required members "kind" fun v => evidenceKinds.find? fun kind => asText v = some kind.text_
  let content ← required members "content" (trimmed 2000)
  some ⟨kind, content⟩

def responseKeys : List Text :=
  ["type", "responseId", "respondent", "receiptHash", "claimHash", "claimId", "position", "acceptedAtomic", "statement",
    "evidence", "createdAt"].map words

def agentResolveResponseSchema (v : Value) : Option (AgentResolveResponse lib) := do
  let members ← strictMembers responseKeys v
  let _ ← required members "type" (literal "AgentResolveResponse")
  let responseId ← required members "responseId" (textThat isUuid)
  let respondent ← required members "respondent" (stellarDid lib)
  let receiptHash ← required members "receiptHash" (textThat isHex64)
  let claimHash ← required members "claimHash" (textThat isHex64)
  let claimId ← required members "claimId" (textThat isUuid)
  let position ← required members "position" positionOf
  let acceptedAtomic ← required members "acceptedAtomic" (nullable (textThat isAtomic))
  let statement ← required members "statement" (trimmed 2000)
  let evidence ← required members "evidence" (list 5 claimEvidenceSchema)
  let createdAt ← required members "createdAt" (textThat isDatetime)
  -- acceptedAtomic is required for accept_partial and must be null otherwise
  if decide (position = .acceptPartial) = acceptedAtomic.isSome then
    some ⟨responseId, respondent, receiptHash, claimHash, claimId, position, acceptedAtomic, statement, evidence, createdAt⟩
  else none

variable {lib}

def AgentResolveResponse.value (response : AgentResolveResponse lib) : Value := .object [
  (words "type", .string (words "AgentResolveResponse")),
  (words "responseId", .string response.responseId),
  (words "respondent", .string response.respondent.1),
  (words "receiptHash", .string response.receiptHash),
  (words "claimHash", .string response.claimHash),
  (words "claimId", .string response.claimId),
  (words "position", .string response.position.text),
  (words "acceptedAtomic", ofNullable response.acceptedAtomic),
  (words "statement", .string response.statement),
  (words "evidence", .array (response.evidence.map ClaimEvidence.value)),
  (words "createdAt", .string response.createdAt)]

variable (lib)

/-- The SHA-256 of a document's canonical JSON, in hex: `responseHash`, and `disputeResponseHash` of a document as it came. -/
def documentHash (document : Value) : Text := hexOf (lib.sha256 (utf8 (CanonicalJson.canonicalJson document)))

variable {lib}

def responseHash (response : AgentResolveResponse lib) : Text := documentHash lib response.value

/-! ### The arbiter's check -/

/-- Of the claims of a receipt, the payout account. -/
structure ReceiptClaims where
  merchantAccount : Text

structure ResponseContext where
  receipt : ReceiptClaims
  receiptHash : Text
  claimHash : Text
  claimId : Text
  disputedAtomic : ℕ

structure VerifiedResponse (lib : Decoders) where
  response : AgentResolveResponse lib
  hash : Text
  signature : Text

variable (lib)

def verifyEscrowResponse (document : Value) (context : ResponseContext) (onChainHash : Text) :
    Except Failure (VerifiedResponse lib) :=
  match agentResolveResponseSchema lib document with
  | none => .error ⟨"ResolveResponseInvalid", "the response does not match its schema"⟩
  | some response =>
    let hash := responseHash response
    if hash ≠ onChainHash ∨ CanonicalJson.canonicalJson document ≠ CanonicalJson.canonicalJson response.value then
      .error ⟨"ResolveResponseMismatch", "this is not the response whose hash the escrow holds"⟩
    else if didToStellarAddress response.respondent ≠ context.receipt.merchantAccount then
      .error ⟨"ResolveRespondentNotMerchant", "the response names another respondent than the receipt's payout account"⟩
    else if response.receiptHash ≠ context.receiptHash ∨ response.claimHash ≠ context.claimHash ∨
        response.claimId ≠ context.claimId then
      .error ⟨"ResolveResponseMismatch", "the response answers another receipt or claim than the dispute on chain"⟩
    else if response.acceptedAtomic.any fun accepted => context.disputedAtomic ≤ readDigits accepted then
      .error ⟨"ResolveResponseInvalid", "a partial acceptance must be less than the disputed amount"⟩
    else .ok ⟨response, hash, []⟩

/-! ### Claims -/

structure AgentResolveClaim where
  claimId : Text
  claimant : Did lib
  receiptHash : Text
  receiptJws : Text
  reason : ClaimReason
  description : Text
  evidence : List ClaimEvidence
  amountAtomic : Text
  createdAt : Text

def reasons : List ClaimReason := [.not_delivered, .not_as_described, .damaged, .unauthorized, .other]

def claimKeys : List Text :=
  ["type", "claimId", "claimant", "receipt", "reason", "description", "evidence", "amountAtomic", "createdAt"].map words

def agentResolveClaimSchema (v : Value) : Option (AgentResolveClaim lib) := do
  let members ← strictMembers claimKeys v
  let _ ← required members "type" (literal "AgentResolveClaim")
  let claimId ← required members "claimId" (textThat isUuid)
  let claimant ← required members "claimant" (stellarDid lib)
  let receipt ← required members "receipt" (strictMembers [words "hash", words "jws"])
  let receiptHash ← required receipt "hash" (textThat isHex64)
  let receiptJws ← required receipt "jws" (textThat isSome)
  let reason ← required members "reason" fun v => reasons.find? fun reason => asText v = some reason.text
  let description ← required members "description" (trimmed 2000)
  let evidence ← required members "evidence" (list 5 claimEvidenceSchema)
  let amountAtomic ← required members "amountAtomic" (textThat isAtomic)
  let createdAt ← required members "createdAt" (textThat isDatetime)
  some ⟨claimId, claimant, receiptHash, receiptJws, reason, description, evidence, amountAtomic, createdAt⟩

def AGENTRESOLVE_CLAIM_TYP : Text := words "agentresolve-claim+jwt"

def verifyClaim (jws : Text) : Option (AgentResolveClaim lib) :=
  if lib.isSigned AGENTRESOLVE_CLAIM_TYP jws then do
    let part ← (jws.splitOn (unit '.'))[1]?
    let bytes ← lib.decodeBase64url part
    let value ← parse (lib.toText bytes)
    agentResolveClaimSchema lib value
  else none

/-- The fields of a claim that the gateway holds an answer to. -/
structure ClaimPayload where
  claimId : Text
  amountAtomic : Text

def claimPayload (jws : Text) : Option ClaimPayload := do
  let part ← (jws.splitOn (unit '.'))[1]?
  let value ← parse (lib.toText (lib.bufferOf part))
  let members ← asMembers value
  let claimId ← required members "claimId" asText
  let amountAtomic ← required members "amountAtomic" (textThat isAtomic)
  some ⟨claimId, amountAtomic⟩

/-- What the escrow holds of a claim. -/
def jwsDocumentHash (jws : Text) : Text := hexOf (lib.sha256 (utf8 jws))

variable {lib}

theorem strictMembers_some {known : List Text} {v : Value} {members : Members Value}
    (read : strictMembers known v = some members) : asMembers v = some members :=
  (Option.filter_eq_some_iff.mp read).1

variable {jws : Text} {claim : AgentResolveClaim lib}

/-- What the gateway reads of a claim that the arbiter verifies. -/
theorem claimPayload_of_verified (verified : verifyClaim lib jws = some claim) :
    claimPayload lib jws = some ⟨claim.claimId, claim.amountAtomic⟩ := by
  unfold verifyClaim at verified
  split_ifs at verified
  simp only [Option.bind_eq_bind, Option.bind_eq_some_iff] at verified
  obtain ⟨part, second, bytes, decoded, value, parsed, read⟩ := verified
  simp only [agentResolveClaimSchema, Option.bind_eq_bind, Option.bind_eq_some_iff] at read
  obtain ⟨members, strict, _, _, claimId, named, _, _, _, _, _, _, _, _, _, _, _, _, _, _, amount, asked, _, _, same⟩ := read
  cases same
  have text : required members "claimId" asText = some claimId := by
    simp only [required, Option.bind_eq_some_iff] at named ⊢
    obtain ⟨v, there, read⟩ := named
    exact ⟨v, there, (Option.filter_eq_some_iff.mp read).1⟩
  simp only [claimPayload, second, lib.bufferOf_eq part bytes decoded, parsed, strictMembers_some strict, text, asked,
    Option.bind_eq_bind, Option.bind_some]

theorem verified_ascii (verified : verifyClaim lib jws = some claim) : ∀ u ∈ jws, u.val < 0x80 := by
  unfold verifyClaim at verified
  split_ifs at verified with signed
  exact lib.compact _ jws signed

end AgentPey.DisputeResponses
