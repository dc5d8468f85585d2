import AgentPey.Disclosures
import Mathlib.Data.Rat.Defs

/-!
The agent's closed checkout mandate (`packages/ap2/src/checkout.ts`): an open checkout mandate that a platform signed,
joined by `~~` to a hop that the agent signs over one checkout. JSON numbers are rational here. Of the mandates, in
the shapes of `packages/ap2/src/schemas.ts`, the members that nothing reads are left out.
-/
namespace AgentPey.CheckoutMandates
open SdJwt Disclosures

abbrev Json := Value ℚ

/-- The schemas whose reports go into the details of an error. -/
inductive Schema where
  | openCheckoutMandate | ap2PublicJwk | hopClaims | closedCheckout
  deriving DecidableEq, Repr

/-- What is taken from outside besides: a JWS verified with the key of a JWK object under ES256, the origin of a URL, and
    the issues a schema has with a value. -/
structure Ap2Libraries (K : Type) extends Libraries ℚ K where
  verifyJwk : Members ℚ → String → Option String
  origin : String → Option String
  issues : Schema → Option Json → Json

/-! ### Reading JSON -/

def textOf : Option Json → Option String
  | some (.string s) => some s
  | _ => none

def itemsOf : Option Json → Option (List Json)
  | some (.array items) => some items
  | _ => none

/-- `value?.name`, for a JSON value. -/
def field (name : String) : Option Json → Option Json
  | some (.object members) => members.lookup name
  | _ => none

def MAX_SAFE_INTEGER : Nat := 9007199254740991

/-- `z.int()`. -/
def intOf : Option Json → Option Int
  | some (.number q) => if q.den = 1 ∧ q.num.natAbs ≤ MAX_SAFE_INTEGER then some q.num else none
  | _ => none

def nonEmptyText (value : Option Json) : Option String := (textOf value).filter (· ≠ "")

def nonNegative (value : Option Json) : Option Int := (intOf value).filter (0 ≤ ·)

def positive (value : Option Json) : Option Int := (intOf value).filter (0 < ·)

/-- `/^[A-Za-z0-9_-]+$/`. -/
def isBase64Url (text : String) : Bool := text ≠ "" ∧ text.toList.all fun c => c.isAlphanum || c == '_' || c == '-'

/-! ### Schemas -/

def OPEN_CHECKOUT_MANDATE_VCT : String := "mandate.checkout.open.1"
def CLOSED_CHECKOUT_MANDATE_VCT : String := "mandate.checkout.1"
def AP2_KB_TYP : String := "kb+sd-jwt"
def AP2_CLOCK_SKEW_SECONDS : Int := 300

def coordinate (value : Option Json) : Option String :=
  (textOf value).filter fun text => isBase64Url text ∧ text.length = 43

def ap2PublicJwkSchema (jwk : Option Json) : Option Ap2PublicJwk :=
  if textOf (field "kty" jwk) = some "OKP" ∧ textOf (field "crv" jwk) = some "Ed25519" then do
    let x ← coordinate (field "x" jwk)
    some (.OKP x)
  else if textOf (field "kty" jwk) = some "EC" ∧ textOf (field "crv" jwk) = some "P-256" then do
    let x ← coordinate (field "x" jwk)
    let y ← coordinate (field "y" jwk)
    some (.EC x y)
  else none

structure Ap2Merchant where
  id : String
  name : String
  website : Option String
  deriving DecidableEq, Repr

structure Ap2Item where
  id : String
  title : String
  deriving DecidableEq, Repr

structure AllowedLine where
  id : String
  acceptable_items : List Ap2Item
  quantity : Int
  deriving DecidableEq, Repr

inductive CheckoutConstraint where
  | lineItems (items : List AllowedLine)
  | allowedMerchants (allowed : List Ap2Merchant)
  deriving DecidableEq, Repr

def ap2MerchantSchema (value : Json) : Option Ap2Merchant := do
  let id ← nonEmptyText (field "id" value)
  let name ← nonEmptyText (field "name" value)
  match field "website" value with
  | none => some ⟨id, name, none⟩
  | some (.string website) => some ⟨id, name, some website⟩
  | some _ => none

def ap2ItemSchema (value : Json) : Option Ap2Item := do
  let id ← nonEmptyText (field "id" value)
  let title ← nonEmptyText (field "title" value)
  some ⟨id, title⟩

/-- `z.array(schema).min(1)`. -/
def nonEmpty {α : Type} (schema : Json → Option α) (value : Option Json) : Option (List α) := do
  let items ← itemsOf value
  let read ← items.mapM schema
  if read.isEmpty then none else some read

def allowedLine (value : Json) : Option AllowedLine := do
  let id ← nonEmptyText (field "id" value)
  let acceptable_items ← nonEmpty ap2ItemSchema (field "acceptable_items" value)
  let quantity ← positive (field "quantity" value)
  some ⟨id, acceptable_items, quantity⟩

def checkoutConstraintSchema (value : Json) : Option CheckoutConstraint :=
  match textOf (field "type" value) with
  | some "checkout.line_items" => do
    let items ← nonEmpty allowedLine (field "items" value)
    some (.lineItems items)
  | some "checkout.allowed_merchants" => do
    let allowed ← nonEmpty ap2MerchantSchema (field "allowed" value)
    some (.allowedMerchants allowed)
  | _ => none

def knownConstraintTypes : List String := ["checkout.line_items", "checkout.allowed_merchants"]

def CheckoutConstraint.isLineItems : CheckoutConstraint → Bool
  | .lineItems _ => true
  | .allowedMerchants _ => false

structure OpenCheckoutMandate where
  vct : String
  constraints : List CheckoutConstraint
  /-- `cnf.jwk`, with all its members. -/
  jwk : Members ℚ
  iat : Int
  exp : Int

def openCheckoutMandateSchema (value : Option Json) : Option OpenCheckoutMandate := do
  let vct ← (textOf (field "vct" value)).filter (· = OPEN_CHECKOUT_MANDATE_VCT)
  let items ← itemsOf (field "constraints" value)
  let constraints ← (items.mapM checkoutConstraintSchema).filter (·.any (·.isLineItems))
  let jwk ← field "jwk" (field "cnf" value)
  let _ ← ap2PublicJwkSchema jwk
  let iat ← nonNegative (field "iat" value)
  let exp ← positive (field "exp" value)
  match jwk with
  | .object members => some ⟨vct, constraints, members, iat, exp⟩
  | _ => none

structure ClosedCheckout where
  checkout_jwt : String
  checkout_hash : String
  deriving DecidableEq, Repr

/-- `/^[A-Za-z0-9_-]+\.[A-Za-z0-9_-]+\.[A-Za-z0-9_-]+$/`. -/
def isCompactJws (text : String) : Bool := (split '.' text).length = 3 ∧ (split '.' text).all isBase64Url

def closedCheckoutSchema (value : Json) : Option ClosedCheckout := do
  let _ ← (textOf (field "vct" value)).filter (· = CLOSED_CHECKOUT_MANDATE_VCT)
  let checkout_jwt ← (textOf (field "checkout_jwt" value)).filter isCompactJws
  let checkout_hash ← (textOf (field "checkout_hash" value)).filter isBase64Url
  some ⟨checkout_jwt, checkout_hash⟩

structure HopClaims where
  iat : Int
  aud : String
  nonce : String
  sd_hash : String
  /-- The one element of `delegate_payload`. -/
  delegated : Json

def hopClaimsSchema (value : Json) : Option HopClaims := do
  let iat ← nonNegative (field "iat" value)
  let aud ← nonEmptyText (field "aud" value)
  let nonce ← nonEmptyText (field "nonce" value)
  let sd_hash ← nonEmptyText (field "sd_hash" value)
  match itemsOf (field "delegate_payload" value) with
  | some [delegated] => some ⟨iat, aud, nonce, sd_hash, delegated⟩
  | _ => none

/-! ### Closing a mandate -/

variable {K : Type} (lib : Ap2Libraries K)

def ES256 : String := Ap2SigningAlg.ES256.text

/-- `Math.floor(date.getTime() / 1000)`. -/
def seconds (milliseconds : Int) : Int := milliseconds / 1000

structure CloseCheckoutMandateInput (K : Type) where
  open_ : String
  holder : Ap2Signer K
  checkoutJwt : String
  aud : String
  nonce : String
  issuedAt : Int

variable (input : CloseCheckoutMandateInput K)

def closedCheckout : Json :=
  .object [("vct", .string CLOSED_CHECKOUT_MANDATE_VCT), ("checkout_jwt", .string input.checkoutJwt),
    ("checkout_hash", .string (lib.sha256Base64Url input.checkoutJwt))]

def hopPayload (delegated : List Json) (sd_hash : String) : Json :=
  .object [("delegate_payload", .array delegated), ("iat", .number (seconds input.issuedAt)), ("aud", .string input.aud),
    ("nonce", .string input.nonce), ("sd_hash", .string sd_hash), ("_sd_alg", .string AP2_SD_ALG)]

def hopHeader : ProtectedHeader ℚ := ⟨some (.string ES256), some (.string AP2_KB_TYP), some (.string input.holder.kid)⟩

def closeCheckoutMandate (salt : String) : Except (Ap2Error ℚ) String :=
  if input.open_.toList.getLast? ≠ some '~' then
    .error (invalid "the open mandate must be an issued SD-JWT ending in '~'" [])
  else if input.holder.alg ≠ .ES256 then
    .error (invalid "the agent closes with P-256 (R-5): AP2's SDK follows only an EC P-256 cnf" [])
  else do
    let (delegated, disclosures) := disclosableArray lib.toLibraries [(salt, closedCheckout lib input)] []
    let sd_hash ← sdHash lib.toLibraries input.open_
    let hop := lib.sign input.holder.privateJwk (hopHeader input) (lib.stringify (hopPayload input delegated sd_hash))
    pure (input.open_ ++ "~" ++ compact hop disclosures)

/-! ### Verifying a chain -/

/-- `chain.split("~~")`, of the characters. -/
def splitHops : List Char → List (List Char)
  | [] => [[]]
  | '~' :: '~' :: rest => [] :: splitHops rest
  | c :: rest => (splitHops rest).modifyHead (c :: ·)

structure VerifyCheckoutMandateOptions where
  platformKey : Option String → Option Ap2PublicJwk
  issuer : String
  aud : String
  nonce : String
  /-- The time, in milliseconds. -/
  now : Int

structure VerifiedCheckoutMandate where
  open_ : OpenCheckoutMandate
  checkoutJwt : String

def ensure (condition : Prop) [Decidable condition] (code message : String) (details : Members ℚ) : Resolving ℚ Unit :=
  if condition then .ok () else .error (.threw ⟨code, message, details⟩)

def orFail {α : Type} (value : Option α) (code message : String) (details : Members ℚ) : Resolving ℚ α :=
  match value with
  | some a => .ok a
  | none => .error (.threw ⟨code, message, details⟩)

variable (options : VerifyCheckoutMandateOptions)

/-- A `kid` that is a URL of another origin than the issuer's. -/
def foreign (kid : Option String) : Prop := ∃ origin, kid.bind lib.origin = some origin ∧ origin ≠ options.issuer

instance (kid : Option String) : Decidable (foreign lib options kid) :=
  decidable_of_iff (kid.bind lib.origin ≠ none ∧ kid.bind lib.origin ≠ some options.issuer) <| by
    cases known : kid.bind lib.origin <;> simp [foreign, known]

def unknownType (delegated : Option Json) : Option String :=
  match itemsOf (field "constraints" delegated) with
  | some constraints =>
    (constraints.filterMap fun constraint => textOf (field "type" constraint)).find? (· ∉ knownConstraintTypes)
  | none => none

/-- The open mandate: its signature, its issuer, its constraints and its window. -/
def verifyOpen (openText : String) : Resolving ℚ OpenCheckoutMandate := do
  let rootHeader ← orFail (lib.decodeProtectedHeader ((split '~' openText).headD ""))
    "Ap2MandateInvalid" "the open mandate header is unreadable" []
  let rootKid := textOf rootHeader.kid
  ensure (¬foreign lib options rootKid) "Ap2IssuerMismatch"
    "the open mandate's kid names another platform than the one whose profile is presented"
    (member "kid" (rootKid.map .string) ++ [("issuer", .string options.issuer)])
  let platformKey ← orFail (options.platformKey rootKid) "Ap2KeyNotFound"
    "the platform publishes no key for the open mandate's kid" (member "kid" (rootKid.map .string))
  let verified ← verifySdJwt lib.toLibraries openText platformKey
  let iss := field "iss" verified.payload
  ensure (textOf iss = some options.issuer) "Ap2IssuerMismatch"
    "the open mandate's iss is not the platform whose profile published its key"
    (member "iss" iss ++ [("issuer", .string options.issuer)])
  let delegated := (itemsOf (field "delegate_payload" verified.payload)).bind (·.head?)
  ensure (unknownType delegated = none) "Ap2ConstraintUnsupported"
    "the open mandate carries a constraint type this business does not know"
    (member "type" ((unknownType delegated).map .string))
  let opened ← orFail (openCheckoutMandateSchema delegated) "Ap2MandateInvalid"
    "the root of the chain is not an AP2 open checkout mandate" [("issues", lib.issues .openCheckoutMandate delegated)]
  ensure (opened.vct = OPEN_CHECKOUT_MANDATE_VCT) "Ap2MandateInvalid"
    "the root of the chain is not an AP2 open checkout mandate" [("issues", .array [])]
  let now := seconds options.now
  ensure (opened.iat ≤ now + AP2_CLOCK_SKEW_SECONDS) "Ap2MandateNotYetValid" "the open mandate is not valid yet"
    [("iat", .number opened.iat), ("now", .number now)]
  ensure (now ≤ opened.exp) "Ap2MandateExpired" "the open mandate has expired"
    [("exp", .number opened.exp), ("now", .number now)]
  pure opened

def resolveHopDisclosures (claims : HopClaims) (disclosures : List String) : Resolving ℚ Json :=
  match textOf (field DIGEST_KEY claims.delegated), disclosures with
  | some digest, [disclosure] => do
    ensure (lib.sha256Base64Url disclosure = digest) "Ap2MandateInvalid"
      "the closing hop's disclosure is not the one it signed" []
    let decoded ← orFail (lib.parse (lib.fromBase64Url disclosure)) "Ap2MandateInvalid"
      "the closing hop's disclosure is not base64url JSON" []
    match decoded with
    | .array [.string _, value] => pure value
    | _ => .error (.threw ⟨"Ap2MandateInvalid", "the closing hop's disclosure is not [salt, value]", []⟩)
  | _, _ => .error (.threw ⟨"Ap2MandateInvalid", "the closing hop must disclose exactly its one delegated mandate", []⟩)

/-- The closing hop: signed by the key the open mandate's `cnf` names, bound to that mandate, to the business and to the
    checkout. -/
def verifyHop (openText hop : String) (opened : OpenCheckoutMandate) : Resolving ℚ VerifiedCheckoutMandate := do
  let now := seconds options.now
  let holderKey ← orFail (ap2PublicJwkSchema (some (.object opened.jwk))) "Ap2KeyBindingInvalid"
    "the open mandate's cnf is not a public key" [("issues", lib.issues .ap2PublicJwk (some (.object opened.jwk)))]
  ensure (algForKey holderKey = .ES256) "Ap2KeyBindingInvalid"
    "the open mandate binds a key AP2 cannot close with (P-256 only)" []
  let hopJwt := (split '~' hop).headD ""
  let hopDisclosures := ((split '~' hop).drop 1).filter (· ≠ "")
  let header ← orFail (lib.decodeProtectedHeader hopJwt) "Ap2KeyBindingInvalid" "the closing hop header is unreadable" []
  ensure (isText header.typ AP2_KB_TYP ∧ isText header.alg ES256) "Ap2KeyBindingInvalid"
    ("the closing hop must be a " ++ AP2_KB_TYP ++ " signed ES256") (member "typ" header.typ ++ member "alg" header.alg)
  let hopText ← orFail (lib.verifyJwk opened.jwk hopJwt) "Ap2KeyBindingInvalid"
    "the closing hop is not signed by the agent the open mandate names" []
  let hopJson ← orFail (lib.parse hopText) "Ap2KeyBindingInvalid" "the closing hop payload is not JSON" []
  let claims ← orFail (hopClaimsSchema hopJson) "Ap2KeyBindingInvalid" "the closing hop is not an AP2 terminal hop"
    [("issues", lib.issues .hopClaims hopJson)]
  let sd_hash ← thrown (sdHash lib.toLibraries openText)
  ensure (claims.sd_hash = sd_hash) "Ap2KeyBindingInvalid" "the closing hop is bound to another open mandate" []
  ensure (claims.aud = options.aud) "Ap2KeyBindingInvalid" "the closing hop is for another business"
    [("aud", .string claims.aud)]
  ensure (claims.nonce = options.nonce) "Ap2ScopeMismatch" "the closing hop is for another checkout"
    [("nonce", .string claims.nonce)]
  ensure ((now - claims.iat).natAbs ≤ AP2_CLOCK_SKEW_SECONDS) "Ap2MandateExpired"
    "the closing hop is stale or from the future" [("iat", .number claims.iat), ("now", .number now)]
  let resolvedHop ← resolveHopDisclosures lib claims hopDisclosures
  let closed ← orFail (closedCheckoutSchema resolvedHop) "Ap2MandateInvalid"
    "the closing hop does not carry an AP2 closed checkout mandate" [("issues", lib.issues .closedCheckout resolvedHop)]
  ensure (closed.checkout_hash = lib.sha256Base64Url closed.checkout_jwt) "Ap2ScopeMismatch"
    "checkout_hash is not the hash of checkout_jwt" []
  pure ⟨opened, closed.checkout_jwt⟩

def verifyCheckoutMandateChain (chain : String) : Resolving ℚ VerifiedCheckoutMandate :=
  match (splitHops chain.toList).map String.ofList with
  | [openPart, hop] => do
    let openText := openPart ++ "~"
    let opened ← verifyOpen lib options openText
    verifyHop lib options openText hop opened
  | _ => .error (.threw ⟨"Ap2MandateInvalid", "a closed checkout mandate is a two-hop chain, open~~close", []⟩)

end AgentPey.CheckoutMandates
