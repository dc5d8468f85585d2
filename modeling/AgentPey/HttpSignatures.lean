import Mathlib.Data.Rat.Defs
import Mathlib.Data.List.Basic

/-!
HTTP message signatures (`packages/vitrinee-core/src/http-signatures.ts`): how a store signs an order webhook, and how a
receiver verifies one signature over a request.
-/
namespace AgentPey.HttpSignatures

def SIGNATURE_LABEL : String := "sig1"

def WEBHOOK_COMPONENTS : List String :=
  ["@method", "@authority", "@path", "content-digest", "content-type", "ucp-agent", "idempotency-key", "webhook-id",
    "webhook-timestamp"]

structure EcPublicJwk where
  kty : String
  crv : String
  x : String
  y : String
  deriving DecidableEq, Repr

structure EcPrivateJwk extends EcPublicJwk where
  d : String
  deriving DecidableEq, Repr

/-- The parts of a URL that are read. -/
structure Url where
  host : String
  pathname : String
  search : String
  deriving DecidableEq, Repr

/-- What `Number` makes of a text. -/
inductive Number where
  | nan | minusInfinity | infinity
  | finite (q : ℚ)

abbrev Bytes := List UInt8

/-- What is taken from outside: the URL parser, upper case, SHA-256 and base64, ECDSA, and numerals. -/
structure Libraries where
  url : String → Option Url
  toUpperCase : String → String
  sha256Base64 : Bytes → String
  base64 : Bytes → String
  fromBase64 : String → Bytes
  sign : EcPrivateJwk → String → Bytes
  /-- Whether a signature over a text is valid; `none` for a key that cannot be imported. -/
  verify : EcPublicJwk → String → Bytes → Option Bool
  number : String → Number

variable (lib : Libraries)

/-! ### The signature base -/

/-- White space and line terminators, as `trim` has them. -/
def isWhite (c : Char) : Bool :=
  c ∈ ['\t', '\n', '\x0b', '\x0c', '\r', ' ', '\u00a0', '\u1680', '\u2028', '\u2029', '\u202f', '\u205f', '\u3000', '\ufeff'] ∨
    0x2000 ≤ c.toNat ∧ c.toNat ≤ 0x200a

def trim (text : String) : String :=
  String.ofList ((text.toList.dropWhile isWhite).reverse.dropWhile isWhite).reverse

def contentDigest (body : Bytes) : String := "sha-256=:" ++ lib.sha256Base64 body ++ ":"

abbrev Headers := String → Option String

def componentValue (name method : String) (url : Url) (headers : Headers) : Option String :=
  if name = "@method" then some (lib.toUpperCase method)
  else if name = "@authority" then some url.host
  else if name = "@path" then some (if url.pathname = "" then "/" else url.pathname)
  else if name = "@query" then some (if url.search = "" then "?" else url.search)
  else if name.toList.head? = some '@' then none
  else (headers name).map trim

/-- A line of the base, when there is a value and no line break in it. -/
def componentLine (name : String) (value : Option String) : Option String :=
  match value with
  | some v => if '\r' ∈ v.toList ∨ '\n' ∈ v.toList then none else some ("\"" ++ name ++ "\": " ++ v)
  | none => none

/-- One line for every component, then `@signature-params`, joined by line feeds. -/
def signatureBase (components : List String) (params : String) (value : String → Option String) : Option String :=
  match components with
  | [] => some ("\"@signature-params\": " ++ params)
  | name :: rest => do
    let line ← componentLine name (value name)
    let base ← signatureBase rest params value
    some (line ++ "\n" ++ base)

/-! ### Signing -/

/-- `/^[\x20-\x21\x23-\x5b\x5d-\x7e]*$/`. -/
def sfString (text : String) : Bool :=
  text.toList.all fun c => 0x20 ≤ c.toNat ∧ c.toNat ≤ 0x7e ∧ c ≠ '"' ∧ c ≠ '\\'

structure VitrineeError where
  code : String
  message : String
  details : List (String × String)
  deriving DecidableEq, Repr

def configError (message : String) (details : List (String × String)) : VitrineeError := ⟨"ConfigError", message, details⟩

structure WebhookSigningInput where
  url : String
  /-- The body's bytes in UTF-8. -/
  body : Bytes
  profileUrl : String
  webhookId : String
  webhookTimestamp : Int
  created : Int
  privateJwk : EcPrivateJwk
  kid : String

variable (input : WebhookSigningInput)

def unsignable : Option String :=
  ([("kid", input.kid), ("profile URL", input.profileUrl), ("webhook id", input.webhookId)].find?
    fun (_, value) => value = "" ∨ ¬sfString value).map Prod.fst

def webhookComponents (url : Url) : List String :=
  if url.search = "" then WEBHOOK_COMPONENTS else WEBHOOK_COMPONENTS.take 3 ++ ["@query"] ++ WEBHOOK_COMPONENTS.drop 3

def webhookHeaders : List (String × String) :=
  [("content-type", "application/json"), ("content-digest", contentDigest lib input.body),
    ("ucp-agent", "profile=\"" ++ input.profileUrl ++ "\""), ("idempotency-key", input.webhookId),
    ("webhook-id", input.webhookId), ("webhook-timestamp", toString input.webhookTimestamp)]

def quotedList : List String → String
  | [] => ""
  | [name] => "\"" ++ name ++ "\""
  | name :: rest => "\"" ++ name ++ "\" " ++ quotedList rest

def webhookParams (components : List String) : String :=
  "(" ++ quotedList components ++ ");created=" ++ toString input.created ++ ";keyid=\"" ++ input.kid ++ "\""

def signedWebhookHeaders : Except VitrineeError (List (String × String)) :=
  match unsignable input with
  | some what => .error (configError ("the " ++ what ++ " cannot go in a signed header") [("what", what)])
  | none =>
    if input.privateJwk.kty ≠ "EC" ∨ input.privateJwk.crv ≠ "P-256" then
      .error (configError "webhooks are signed with a P-256 key (ES256)" [])
    else
      match lib.url input.url with
      | none => .error (configError "the webhook URL is not a URL" [])
      | some url =>
        let components := webhookComponents url
        let headers := webhookHeaders lib input
        let params := webhookParams input components
        match signatureBase components params fun name => componentValue lib name "POST" url (headers.lookup ·) with
        | none => .error (configError "a covered component has no value" [])
        | some base =>
          let signature := lib.sign input.privateJwk base
          .ok (headers ++ [("signature-input", SIGNATURE_LABEL ++ "=" ++ params),
            ("signature", SIGNATURE_LABEL ++ "=:" ++ lib.base64 signature ++ ":")])

/-! ### Reading a `Signature-Input` -/

def isLower (c : Char) : Bool := 'a' ≤ c ∧ c ≤ 'z'

def isName (c : Char) : Bool := isLower c || c.isDigit || c = '_' || c = '-'

def isQuoted (c : Char) : Bool := c ≠ '"' ∧ c ≠ '\\'

/-- A parameter `;name=value` at the start of a text, its quotes taken off, and its length. -/
def parameterAt : List Char → Option ((String × String) × Nat)
  | ';' :: rest =>
    let name := rest.takeWhile isName
    if name.head?.any isLower then
      match rest.dropWhile isName with
      | '=' :: '"' :: value =>
        let text := value.takeWhile isQuoted
        if (value.drop text.length).head? = some '"' then
          some ((String.ofList name, String.ofList text), name.length + text.length + 4)
        else none
      | '=' :: value =>
        let minus := value.takeWhile (· = '-')
        let digits := (value.dropWhile (· = '-')).takeWhile Char.isDigit
        if minus.length ≤ 1 ∧ digits ≠ [] then
          some ((String.ofList name, String.ofList (minus ++ digits)), name.length + minus.length + digits.length + 2)
        else none
      | _ => none
    else none
  | _ => none

/-- Whether a text is nothing but parameters, after so many characters. -/
def parametersFill : Nat → List Char → Bool
  | 0, [] => true
  | _ + 1, [] => false
  | 0, c :: rest =>
    match parameterAt (c :: rest) with
    | some (_, length) => parametersFill (length - 1) rest
    | none => false
  | skip + 1, _ :: rest => parametersFill skip rest

/-- The parameters found from left to right in a text, after so many characters. -/
def matchAll : Nat → List Char → List (String × String)
  | _, [] => []
  | 0, c :: rest =>
    match parameterAt (c :: rest) with
    | some (found, length) => found :: matchAll (length - 1) rest
    | none => matchAll 0 rest
  | skip + 1, _ :: rest => matchAll skip rest

/-- Where a reader of an inner list is: before a quote, in a quoted name or after one. -/
inductive Spot where
  | opening
  | inside (empty : Bool)
  | after

/-- The quoted names of an inner list up to its closing bracket, and what follows. -/
def innerList : Spot → List Char → Option (List Char × List Char)
  | .opening, '"' :: rest => onward '"' (innerList (.inside true) rest)
  | .inside empty, '"' :: rest => if empty then none else onward '"' (innerList .after rest)
  | .inside _, c :: rest => if c = '\\' then none else onward c (innerList (.inside false) rest)
  | .after, ' ' :: rest => onward ' ' (innerList .opening rest)
  | .after, ')' :: rest => some ([], rest)
  | _, _ => none
where
  onward (c : Char) (read : Option (List Char × List Char)) : Option (List Char × List Char) :=
    read.map fun (list, rest) => (c :: list, rest)

/-- One member of a `Signature-Input`: its label, everything after `label=`, and its inner list when that is not empty. -/
structure SignatureInputMember where
  label : String
  params : String
  list : Option (List Char)

def isLabel : List Char → Bool
  | [] => false
  | c :: rest => (isLower c || c = '*') && rest.all fun c => isLower c || c.isDigit || c ∈ ['_', '.', '*', '-']

def signatureInputMember (text : String) : Option SignatureInputMember :=
  let label := text.toList.takeWhile (· ≠ '=')
  match text.toList.dropWhile (· ≠ '=') with
  | '=' :: '(' :: rest => do
    let (list, parameters) ← inList rest
    if isLabel label ∧ parametersFill 0 parameters then some ⟨String.ofList label, String.ofList ('(' :: rest), list⟩
    else none
  | _ => none
where
  inList : List Char → Option (Option (List Char) × List Char)
    | ')' :: parameters => some (none, parameters)
    | rest => (innerList .opening rest).map fun (list, parameters) => (some list, parameters)

/-- `list.split(" ").map((c) => c.slice(1, -1))`. -/
def componentsOf (list : Option (List Char)) : List String :=
  match list with
  | none => []
  | some text => (text.splitOn ' ').map fun c => String.ofList (c.drop 1).dropLast

def parameter (params name : String) : Option String := (matchAll 0 params.toList).reverse.lookup name

/-! ### Verifying -/

inductive SignatureFailure where
  | missing_signature | digest_mismatch | bad_signature_input | missing_component | key_not_found | bad_signature | expired
  deriving DecidableEq, Repr

/-- Why a request was not accepted: a failure, or an exception of the URL parser. -/
inductive Refusal where
  | failed (reason : SignatureFailure)
  | threw
  deriving DecidableEq, Repr

structure SignatureCheck where
  keyid : String
  created : Option Number
  components : List String

structure VerifySignatureInput where
  method : String
  url : String
  headers : Headers
  body : Bytes
  keyFor : String → Option EcPublicJwk
  requiredComponents : List String
  now : Option Int

def ES256_ALGORITHM : String := "ecdsa-p256-sha256"

/-- `now > Number(expires)`. -/
def Number.isPast (n : Number) (now : Int) : Bool :=
  match n with
  | .nan => false
  | .minusInfinity => true
  | .infinity => false
  | .finite q => q < now

def expired (now : Option Int) (expires : Option String) : Bool :=
  match now, expires with
  | some now, some expires => (lib.number expires).isPast now
  | _, _ => false

def required (input : VerifySignatureInput) (url : Url) : List String :=
  ["@method", "@authority", "@path"] ++ (if url.search ≠ "" then ["@query"] else []) ++
    (if input.body ≠ [] then ["content-digest", "content-type"] else []) ++
    (if input.headers "idempotency-key" ≠ none then ["idempotency-key"] else []) ++
    (if input.headers "ucp-agent" ≠ none then ["ucp-agent"] else []) ++ input.requiredComponents

/-- `[A-Za-z0-9+/]+={0,2}`. -/
def isBase64 (text : List Char) : Bool :=
  let isDigit := fun (c : Char) => c.isAlphanum || c = '+' || c = '/'
  text.takeWhile isDigit ≠ [] ∧ text.dropWhile isDigit ∈ [[], ['='], ['=', '=']]

/-- What stands between `label=:` and `:`. -/
def signatureValue (label header : String) : Option String :=
  match header.toList.dropPrefix? (label.toList ++ ['=', ':']) with
  | some rest => if rest.getLast? = some ':' ∧ isBase64 rest.dropLast then some (String.ofList rest.dropLast) else none
  | none => none

def ensure (condition : Prop) [Decidable condition] (reason : SignatureFailure) : Except Refusal Unit :=
  if condition then .ok () else .error (.failed reason)

def orFail {α : Type} (value : Option α) (refusal : Refusal) : Except Refusal α :=
  match value with
  | some a => .ok a
  | none => .error refusal

def verifyHttpMessageSignature (input : VerifySignatureInput) : Except Refusal SignatureCheck := do
  let signatureInput ← orFail ((input.headers "signature-input").map trim) (.failed .missing_signature)
  let signatureHeader ← orFail ((input.headers "signature").map trim) (.failed .missing_signature)
  let digest := (input.headers "content-digest").map trim
  ensure (input.body ≠ [] → digest = some (contentDigest lib input.body)) .digest_mismatch
  let member ← orFail (signatureInputMember signatureInput) (.failed .bad_signature_input)
  let components := componentsOf member.list
  let keyid ← orFail (parameter member.params "keyid") (.failed .bad_signature_input)
  ensure components.Nodup .bad_signature_input
  ensure ((parameter member.params "alg").all (· = ES256_ALGORITHM)) .bad_signature_input
  ensure (¬expired lib input.now (parameter member.params "expires")) .expired
  let url ← orFail (lib.url input.url) .threw
  ensure (∀ name ∈ required input url, name ∈ components) .missing_component
  let signed ← orFail (signatureValue member.label signatureHeader) (.failed .bad_signature_input)
  let key ← orFail (input.keyFor keyid) (.failed .key_not_found)
  ensure (key.kty = "EC" ∧ key.crv = "P-256") .key_not_found
  let base ← orFail (signatureBase components member.params fun name =>
    componentValue lib name input.method url input.headers) (.failed .missing_component)
  let signature := lib.fromBase64 signed
  ensure (signature.length = 64) .bad_signature
  let valid ← orFail (lib.verify key base signature) (.failed .key_not_found)
  ensure (valid = true) .bad_signature
  pure ⟨keyid, (parameter member.params "created").map lib.number, components⟩

end AgentPey.HttpSignatures
