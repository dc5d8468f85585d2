import AgentPey.HttpSignatures
import AgentPey.InsertionMaps
import AgentPey.Routines
import AgentPey.Schemas
import AgentPey.TokenBuckets

/-!
Where stores tell AgentPey what happened to an order (`apps/web/src/ucp-webhooks.ts`): a delivery is kept when it verifies under
a webhook key of the store it names, and an id that was received is acknowledged. What is remembered is bounded, and all of it is
in the memory of one process. Rationals stand for the floating point numbers of the token bucket.
-/
namespace AgentPey.ReceivedWebhooks
open Routines (Routine)
open HttpSignatures InsertionMaps Schemas Store TokenBuckets

/-! ### Constants -/

def MAX_KEPT : ℕ := 50
def MAX_BODY_BYTES : ℕ := 256 * 1024
def SIGNATURE_MAX_AGE_SECONDS : ℚ := 300
def PROFILE_CACHE_MS : ℤ := 5 * 60000
def PROFILE_FAIL_CACHE_MS : ℤ := 60000
def MAX_CONCURRENT_PROFILE_READS : ℕ := 4
def PROFILE_READ_BURST : ℚ := 10
def PROFILE_READS_PER_SECOND : ℚ := 2
def PROFILES_KEPT : ℕ := 200
def SEEN_MAX : ℕ := 2000
def REQUIRED_COMPONENTS : List String := ["content-digest", "content-type", "ucp-agent", "webhook-id", "webhook-timestamp"]

/-! ### Texts -/

/-- `length`: UTF-16 units. -/
def lengthOf (text : String) : ℕ := (text.toList.map fun c => if c.toNat < 0x10000 then 1 else 2).sum

def isAlnum (c : Char) : Bool := isLower c || c.isDigit

/-- `[a-z0-9](?:[a-z0-9-]{0,61}[a-z0-9])?`. -/
def isStoreName (name : List Char) : Bool :=
  name.head?.any isAlnum && name.getLast?.any isAlnum && name.all (fun c => isAlnum c || c = '-') && decide (name.length ≤ 63)

def STORES_DOMAIN : String := "vitrinee.agentpey.com"

def isAgentPeyStoreHost (host : String) : Bool :=
  let domain := '.' :: STORES_DOMAIN.toList
  host = STORES_DOMAIN || domain.isSuffixOf host.toList && isStoreName (host.toList.take (host.toList.length - domain.length))

/-- `/^[A-Za-z0-9-]{8,64}$/`. -/
def isWebhookId (text : String) : Bool :=
  text.toList.all (fun c => c.isAlphanum || c = '-') && decide (8 ≤ text.toList.length ∧ text.toList.length ≤ 64)

/-- `/^\d{9,11}$/`. -/
def isTimestamp (text : String) : Bool :=
  text.toList.all Char.isDigit && decide (9 ≤ text.toList.length ∧ text.toList.length ≤ 11)

/-- `Number` of a text of digits. -/
def numeral (text : String) : ℕ := text.toList.foldl (fun n c => 10 * n + (c.toNat - '0'.toNat)) 0

/-- What `/^profile="([^"]+)"$/` finds. -/
def agentProfile (header : String) : Option String := do
  let rest ← header.toList.dropPrefix? "profile=\"".toList
  let url := rest.dropLast
  if rest.getLast? = some '"' ∧ url ≠ [] ∧ '"' ∉ url then some (String.ofList url) else none

/-- The parts of a page's URL that are read. -/
structure Page where
  href : String
  origin : String
  protocol : String
  port : String
  hostname : String
  pathname : String
  search : String
  deriving DecidableEq

/-- What is taken from outside besides: the URL parser, JSON in UTF-8, and SHA-256 in hexadecimal digits. -/
structure ReceiverLibraries extends HttpSignatures.Libraries where
  page : String → Option Page
  parseJson : Bytes → Option Value
  sha256Hex : String → String

variable (lib : ReceiverLibraries)

/-! ### Profiles and orders -/

structure WebhookKey extends EcPublicJwk where
  kid : String
  deriving DecidableEq

def atMost (limit : ℕ) : Reader String := textThat fun text => lengthOf text ≤ limit

/-- `/^[A-Za-z0-9_-]{43}$/`. -/
def isCoordinate (text : String) : Bool :=
  text.toList.all (fun c => c.isAlphanum || c = '_' || c = '-') && decide (text.toList.length = 43)

def webhookKeySchema : Reader WebhookKey := fun v => do
  let object ← members v
  let kty ← field object "kty" (textThat (· = "EC"))
  let crv ← field object "crv" (textThat (· = "P-256"))
  let x ← field object "x" (textThat isCoordinate)
  let y ← field object "y" (textThat isCoordinate)
  let kid ← field object "kid" (textThat fun kid => lengthOf kid ≤ 300 && "#ucp-p256".toList.isSuffixOf kid.toList)
  let _ ← optional object "use" (textThat (· = "sig"))
  some ⟨⟨kty, crv, x, y⟩, kid⟩

def shortList (limit : ℕ) : Reader (List Value) := fun v => do
  let l ← items v
  if l.length ≤ limit then some l else none

/-- The keys of both arrays, `signing_keys` first. -/
def profileKeysSchema : Reader (List Value) := fun v => do
  let object ← members v
  let keys ← optional object "keys" (shortList 50)
  let signingKeys ← optional object "signing_keys" (shortList 50)
  some (signingKeys.getD [] ++ keys.getD [])

def webhookKeys (profile : Value) : List WebhookKey := ((profileKeysSchema profile).getD []).filterMap webhookKeySchema

structure DeliveredEscrow where
  status : String
  refundAtomic : Option String
  refundOwedAtomic : Option String
  deriving DecidableEq

structure DeliveredOrder where
  id : String
  permalinkUrl : String
  version : Option String
  events : List String
  escrow : Option DeliveredEscrow

def escrowSchema : Reader DeliveredEscrow := fun v => do
  let object ← members v
  let status ← field object "status" (atMost 20)
  let refundAtomic ← optional object "refund_atomic" (atMost 40)
  let refundOwedAtomic ← optional object "refund_owed_atomic" (atMost 40)
  some ⟨status, refundAtomic, refundOwedAtomic⟩

def receiptEscrow (object : Members) : Option DeliveredEscrow := do
  let receipt ← field object "receipt" members
  field receipt "escrow" escrowSchema

def ucpVersion : Reader (Option String) := fun v => do
  let ucp ← members v
  optional ucp "version" (atMost 20)

def eventType : Reader String := fun v => do
  let event ← members v
  field event "type" (atMost 50)

def fulfillmentEvents : Reader (Option (List String)) := fun v => do
  let fulfillment ← members v
  optional fulfillment "events" fun v => do
    let events ← shortList 100 v
    events.mapM eventType

def deliveredOrderSchema : Reader DeliveredOrder := fun v => do
  let object ← members v
  let id ← field object "id" (textThat fun id => 1 ≤ lengthOf id && lengthOf id ≤ 200)
  let permalinkUrl ← field object "permalink_url" (atMost 2048)
  let version ← optional object "ucp" ucpVersion
  let events ← optional object "fulfillment" fulfillmentEvents
  some ⟨id, permalinkUrl, version.join, (events.join).getD [], receiptEscrow object⟩

def ESCROW_EVENT : List (String × String) :=
  [("disputed", "dispute.opened"), ("responded", "dispute.responded"), ("resolved", "dispute.resolved"),
    ("released", "escrow.released"), ("expired", "escrow.refunded")]

/-- Times are in milliseconds. -/
structure ReceivedWebhook where
  webhookId : String
  store : String
  orderRef : String
  event : String
  escrow : Option DeliveredEscrow
  occurredAt : ℤ
  receivedAt : ℤ
  deriving DecidableEq

/-! ### Answers -/

inductive AnswerBody where
  | refused (code message : String)
  | success (version : Option String)
  | duplicate
  deriving DecidableEq

structure WebhookAnswer where
  status : ℕ
  body : AnswerBody
  deriving DecidableEq

def refuse (status : ℕ) (code message : String) : WebhookAnswer := ⟨status, .refused code message⟩

inductive Failure where
  | networkError (message : String)
  /-- `new URL` of the target. -/
  | typeError

def SignatureFailure.text : SignatureFailure → String
  | .missing_signature => "missing_signature"
  | .digest_mismatch => "digest_mismatch"
  | .bad_signature_input => "bad_signature_input"
  | .missing_component => "missing_component"
  | .key_not_found => "key_not_found"
  | .bad_signature => "bad_signature"
  | .expired => "expired"

/-! ### The receiver -/

inductive CacheEntry where
  | keys (readAt : ℤ) (keys : List WebhookKey)
  | failed (readAt : ℤ)

/-- One read of a profile: what it brought, once it has (`none` where it failed), and whether it is still counted. -/
structure ProfileRead where
  url : String
  result : Option (Option Value)
  running : Bool

/-- `reading` holds the number of the read that is under way, `logged` what was logged as received, the newest first. -/
structure Receiver where
  kept : List ReceivedWebhook
  seen : List String
  receiving : List String
  profiles : Keyed String CacheEntry
  reading : Keyed String ℕ
  reads : List ProfileRead
  readsRunning : ℕ
  bucket : Bucket
  logged : List ReceivedWebhook
  now : ℤ

def createOrderWebhookReceiver (now : ℤ) : Receiver :=
  ⟨[], [], [], ∅, ∅, [], 0, .full PROFILE_READ_BURST now, [], now⟩

def Receiver.remember (s : Receiver) (profileUrl : String) (entry : CacheEntry) : Receiver :=
  let profiles := if PROFILES_KEPT ≤ size s.profiles ∧ profileUrl ∉ s.profiles then dropOldest s.profiles else s.profiles
  { s with profiles := put profiles profileUrl entry }

/-- What a call of `keysOf` comes to before it waits. -/
inductive Keys where
  | found (keys : List WebhookKey)
  | refused (message : String)
  | pending (read : ℕ)

def TOO_MANY_READS : String := "too many profile reads right now"
def FAILED_A_MOMENT_AGO : String := "the store's profile failed to read a moment ago"

def Receiver.startRead (s : Receiver) (profileUrl : String) : Keys × Receiver :=
  match s.reading.lookup profileUrl with
  | some n => (.pending n, s)
  | none =>
    if MAX_CONCURRENT_PROFILE_READS ≤ s.readsRunning then (.refused TOO_MANY_READS, s)
    else
      let (taken, bucket) := s.bucket.take PROFILE_READ_BURST PROFILE_READS_PER_SECOND s.now
      if taken then
        (.pending s.reads.length,
          { s with
            bucket := bucket
            readsRunning := s.readsRunning + 1
            reads := s.reads ++ [⟨profileUrl, none, true⟩]
            reading := put s.reading profileUrl s.reads.length })
      else (.refused TOO_MANY_READS, { s with bucket := bucket })

def Receiver.keysOf (s : Receiver) (profileUrl : String) : Keys × Receiver :=
  match s.profiles.lookup profileUrl with
  | some (.keys readAt keys) => if s.now - readAt < PROFILE_CACHE_MS then (.found keys, s) else s.startRead profileUrl
  | some (.failed readAt) =>
    if s.now - readAt < PROFILE_FAIL_CACHE_MS then (.refused FAILED_A_MOMENT_AGO, s) else s.startRead profileUrl
  | none => s.startRead profileUrl

/-- The profile is there, or its read has failed. -/
def Receiver.answerRead (s : Receiver) (n : ℕ) (profile : Option Value) : Receiver :=
  match s.reads[n]? with
  | some ⟨url, none, true⟩ =>
    let s := { s with reads := s.reads.set n ⟨url, some profile, true⟩ }
    match profile with
    | some profile => s.remember url (.keys s.now (webhookKeys profile))
    | none => s.remember url (.failed s.now)
  | _ => s

/-- The `finally` of a read. -/
def Receiver.settleRead (s : Receiver) (n : ℕ) : Receiver :=
  match s.reads[n]? with
  | some ⟨url, some profile, true⟩ =>
    { s with
      reads := s.reads.set n ⟨url, some profile, false⟩
      readsRunning := s.readsRunning - 1
      reading := s.reading.erase url }
  | _ => s

/-! ### Deliveries -/

structure Delivery where
  url : String
  headers : Headers
  body : Bytes

def Delivery.header (d : Delivery) (name : String) : String := ((d.headers name).map trim).getD ""

/-- A delivery whose headers are in order, and the profile of the store it names. -/
structure Addressed where
  webhookId : String
  timestamp : String
  profile : Page
  deriving DecidableEq

def addressed (d : Delivery) : Except WebhookAnswer Addressed :=
  if MAX_BODY_BYTES < d.body.length then .error (refuse 413 "TooLarge" "an order webhook is far smaller than this")
  else
    let webhookId := d.header "webhook-id"
    let timestamp := d.header "webhook-timestamp"
    if ¬isWebhookId webhookId ∨ ¬isTimestamp timestamp then
      .error (refuse 400 "BadHeaders" "Webhook-Id and Webhook-Timestamp are required")
    else
      match (agentProfile (d.header "ucp-agent")).bind lib.page with
      | none => .error (refuse 400 "BadHeaders" "UCP-Agent must name the store's profile")
      | some profile =>
        if profile.protocol ≠ "https:" ∨ profile.port ≠ "" ∨ profile.pathname ≠ "/.well-known/ucp" ∨ profile.search ≠ "" ∨
            ¬isAgentPeyStoreHost profile.hostname then
          .error (refuse 403 "UnknownStore" "only stores AgentPey runs deliver here")
        else .ok ⟨webhookId, timestamp, profile⟩

/-- `created === null || Math.abs(at - created) > 300`; what is not a number is not greater. -/
def isStale (seconds : ℤ) : Option Number → Bool
  | none => true
  | some .nan => false
  | some .infinity => true
  | some .minusInfinity => true
  | some (.finite created) => SIGNATURE_MAX_AGE_SECONDS < |(seconds : ℚ) - created|

def signatureInput (d : Delivery) (keys : List WebhookKey) (seconds : ℤ) : VerifySignatureInput where
  method := "POST"
  url := d.url
  headers := d.headers
  body := d.body
  keyFor keyid := (keys.find? fun k => k.kid = keyid).map WebhookKey.toEcPublicJwk
  requiredComponents := REQUIRED_COMPONENTS
  now := some seconds

def eventOf (order : DeliveredOrder) : String :=
  ((order.escrow.bind fun escrow => ESCROW_EVENT.lookup escrow.status).or order.events.getLast?).getD "created"

def received (sent : Addressed) (order : DeliveredOrder) (now : ℤ) : ReceivedWebhook where
  webhookId := sent.webhookId
  store := sent.profile.origin
  orderRef := String.ofList ((lib.sha256Hex order.id).toList.take 16)
  event := eventOf order
  escrow := order.escrow
  occurredAt := numeral sent.timestamp * 1000
  receivedAt := now

/-- `seen` forgets the oldest id when there are too many. -/
def Receiver.keep (s : Receiver) (r : ReceivedWebhook) : Receiver :=
  let seen := if r.webhookId ∈ s.seen then s.seen else s.seen ++ [r.webhookId]
  { s with
    seen := if SEEN_MAX < seen.length then seen.tail else seen
    kept := (r :: s.kept).take MAX_KEPT
    logged := r :: s.logged }

/-- The checks of `verifyAndKeep`, once the keys are there. -/
def verified (d : Delivery) (sent : Addressed) (keys : List WebhookKey) (now : ℤ) :
    Except Failure (Except WebhookAnswer DeliveredOrder) :=
  let seconds := now / 1000
  match verifyHttpMessageSignature lib.toLibraries (signatureInput d keys seconds) with
  | .error .threw => .error .typeError
  | .error (.failed reason) =>
    .ok (.error (refuse 401 "SignatureInvalid" ("the delivery does not verify: " ++ SignatureFailure.text reason)))
  | .ok check =>
    if isStale seconds check.created then
      .ok (.error (refuse 401 "SignatureStale" "the delivery was not signed in the last five minutes"))
    else
      match (lib.parseJson d.body).bind deliveredOrderSchema with
      | none => .ok (.error (refuse 400 "BadBody" "the body is not a UCP order"))
      | some order =>
        match lib.page order.permalinkUrl with
        | none => .ok (.error (refuse 403 "NotYourOrder" "the order in the body is not this store's"))
        | some page =>
          if page.origin = sent.profile.origin then .ok (.ok order)
          else .ok (.error (refuse 403 "NotYourOrder" "the order in the body is not this store's"))

def Receiver.check (s : Receiver) (d : Delivery) (sent : Addressed) (keys : List WebhookKey) :
    Except Failure WebhookAnswer × Receiver :=
  match verified lib d sent keys s.now with
  | .error e => (.error e, s)
  | .ok (.error answer) => (.ok answer, s)
  | .ok (.ok order) => (.ok ⟨200, .success order.version⟩, s.keep (received lib sent order s.now))

/-! ### The routines -/

inductive Op where
  /-- An await of what is there. -/
  | turn
  | read (n : ℕ)

abbrev Op.Answer : Op → Type
  | .turn => Unit
  | .read _ => List WebhookKey

abbrev Job := Routine Receiver Op Failure Op.Answer

def ask (o : Op) : Job o.Answer := Routine.ask o

def keysOf (profileUrl : String) : Job (List WebhookKey) := do
  let keys ← Routine.atomic fun s => s.keysOf profileUrl
  match keys with
  | .found keys => pure keys
  | .refused message => Routine.throws (.networkError message)
  | .pending n => ask (.read n)

def verifyAndKeep (d : Delivery) (sent : Addressed) : Job WebhookAnswer := do
  let keys ← (keysOf sent.profile.href).attempt
  let _ ← ask .turn
  match keys with
  | .error _ => pure (refuse 503 "ProfileUnavailable" "the store's profile could not be read")
  | .ok keys =>
    let answer ← Routine.atomic fun s => s.check lib d sent keys
    liftM answer

inductive Admission where
  | duplicate
  | inProgress
  | admitted

def Receiver.arrive (s : Receiver) (webhookId : String) : Admission × Receiver :=
  if webhookId ∈ s.seen then (.duplicate, s)
  else if webhookId ∈ s.receiving then (.inProgress, s)
  else (.admitted, { s with receiving := s.receiving ++ [webhookId] })

def Receiver.leave (s : Receiver) (webhookId : String) : Receiver :=
  { s with receiving := s.receiving.filter fun other => other ≠ webhookId }

/-- `return await verifyAndKeep(…)`. -/
def awaited (d : Delivery) (sent : Addressed) : Job WebhookAnswer := do
  let answer ← (verifyAndKeep lib d sent).attempt
  let _ ← ask .turn
  liftM answer

def receive (d : Delivery) : Job WebhookAnswer :=
  match addressed lib d with
  | .error answer => pure answer
  | .ok sent => do
    let admission ← Routine.atomic fun s => s.arrive sent.webhookId
    match admission with
    | .duplicate => pure ⟨200, .duplicate⟩
    | .inProgress => pure (refuse 503 "InProgress" "this delivery is being received right now")
    | .admitted => (awaited lib d sent).finally_ fun s => s.leave sent.webhookId

def PROFILE_UNREADABLE : String := "the store's profile could not be read"

def serve : (o : Op) → Unit → Receiver → Option (Except Failure o.Answer × Receiver)
  | .turn, _, s => some (.ok (), s)
  | .read n, _, s =>
    match s.reads[n]? with
    | some ⟨_, some (some profile), false⟩ => some (.ok (webhookKeys profile), s)
    | some ⟨_, some none, false⟩ => some (.error (.networkError PROFILE_UNREADABLE), s)
    | _ => none

/-- A read is answered, or settled; and time passes. -/
inductive Outside where
  | answer (read : ℕ) (profile : Option Value)
  | settle (read : ℕ)
  | tick (ms : ℕ)

def outside : Outside → Receiver → Receiver
  | .answer n profile, s => s.answerRead n profile
  | .settle n, s => s.settleRead n
  | .tick ms, s => { s with now := s.now + ms }

/-- A new process has the log of the one before it, and nothing else. -/
def restart (s : Receiver) : Receiver :=
  { createOrderWebhookReceiver s.now with
    reads := s.reads.map fun read => { read with running := false }
    logged := s.logged }

def receiver : Routines.Host Delivery Receiver Op Failure Op.Answer WebhookAnswer Unit Outside where
  body := receive lib
  serve := serve
  outside := outside
  restart := restart

end AgentPey.ReceivedWebhooks
