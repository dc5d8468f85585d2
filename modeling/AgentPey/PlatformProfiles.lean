import AgentPey.InsertionMaps
import AgentPey.Routines
import AgentPey.Schemas
import AgentPey.TokenBuckets
import AgentPey.WebhookUrls

/-!
The client for URLs that platforms dictate (`vitrinee-gateway/src/ucp/platform-profile.ts`): it reads their profiles and delivers
their webhooks. Each URL is vetted, its name resolved in the same call, and the connection pinned to what was resolved; reads and
deliveries have budgets of their own. A deadline is a failure of what it cuts. Rationals stand for the floating point numbers of
the token buckets.
-/
namespace AgentPey.PlatformProfiles
open Routines (Routine)
open InsertionMaps IpAddresses Schemas Store TokenBuckets WebhookUrls

/-! ### Constants -/

def MAX_CONCURRENT_READS : ℕ := 6
def READ_BURST : ℚ := 20
def READS_PER_SECOND : ℚ := 5
def OK_CACHE_MS : ℤ := 5 * 60000
def FAIL_CACHE_MS : ℤ := 60000
def HOST_BACKOFF_MS : ℤ := 60000
def HOST_BACKOFF_MAX_MS : ℤ := 10 * 60000
def CACHE_MAX : ℕ := 1000
def MAX_CAPABILITIES : ℕ := 64
def MAX_KEYS : ℕ := 10
def MAX_URL_LENGTH : ℕ := 2048
def MAX_CONCURRENT_SENDS : ℕ := 6
def SEND_BURST : ℚ := 20
def SENDS_PER_SECOND : ℚ := 5

/-! ### Profiles -/

/-- `length`: UTF-16 units. -/
def lengthOf (text : String) : ℕ := (text.toList.map fun c => if c.toNat < 0x10000 then 1 else 2).sum

structure PlatformP256Key where
  kty : String
  crv : String
  x : String
  y : String
  kid : Option String
  deriving DecidableEq

structure PlatformProfileSummary where
  version : String
  capabilities : List String
  keys : List PlatformP256Key
  orderWebhookUrl : Option String
  deriving DecidableEq

inductive ProfileFailure where
  | not_https | bad_url | blocked_address | unreachable | too_large | bad_status | malformed | busy | backoff
  deriving DecidableEq

abbrev ProfileResult := Except ProfileFailure PlatformProfileSummary

/-- `/^\d{4}-\d{2}-\d{2}$/`. -/
def isVersion (text : String) : Bool :=
  match text.toList with
  | [a, b, c, d, dash, e, f, dash', g, h] => [a, b, c, d, e, f, g, h].all Char.isDigit && dash = '-' && dash' = '-'
  | _ => false

structure PlatformProfile where
  version : String
  capabilities : Members
  keys : List Value

def platformProfileSchema : Reader PlatformProfile := fun v => do
  let object ← members v
  let ucp ← field object "ucp" members
  let version ← field ucp "version" (textThat isVersion)
  let capabilities ← optional ucp "capabilities" members
  let keys ← optional object "keys" items
  some ⟨version, capabilities.getD [], keys.getD []⟩

/-- `/^[A-Za-z0-9_-]{43}$/`. -/
def isCoordinate (text : String) : Bool :=
  text.toList.all (fun c => c.isAlphanum || c = '_' || c = '-') && decide (text.toList.length = 43)

def p256Jwk : Reader PlatformP256Key := fun v => do
  let object ← members v
  let kty ← field object "kty" (textThat (· = "EC"))
  let crv ← field object "crv" (textThat (· = "P-256"))
  let x ← field object "x" (textThat isCoordinate)
  let y ← field object "y" (textThat isCoordinate)
  let kid ← optional object "kid" (textThat fun kid => 1 ≤ lengthOf kid && lengthOf kid ≤ 200)
  some ⟨kty, crv, x, y, kid⟩

def capabilityConfig : Reader (Option String) := fun v => do
  let capability ← members v
  optional capability "config" fun config => do
    let config ← members config
    field config "webhook_url" (textThat fun url => 1 ≤ lengthOf url && lengthOf url ≤ MAX_URL_LENGTH)

/-- The first entry's webhook URL, when all are well formed. -/
def orderCapabilitySchema : Reader (Option String) := fun v => do
  let configs ← list capabilityConfig v
  configs.head?

def summary (profile : PlatformProfile) : PlatformProfileSummary where
  version := profile.version
  capabilities := ((profile.capabilities.map Prod.fst).filter fun name => lengthOf name ≤ 100).take MAX_CAPABILITIES
  keys := (profile.keys.filterMap p256Jwk).take MAX_KEYS
  orderWebhookUrl := (field profile.capabilities "dev.ucp.shopping.order" orderCapabilitySchema).join

/-! ### Addresses -/

/-- `BlockList`: addresses that begin with the first bits of one of these. -/
def check (width : ℕ) (parse : Text → Option ℕ) (blockList : List (String × ℕ)) (address : Text) : Bool :=
  blockList.any fun (net, length) =>
    match parse net.toList, parse address with
    | some base, some v => Range.contains width ⟨base, length⟩ v
    | _, _ => false

def blockedV4 : List (String × ℕ) :=
  [("0.0.0.0", 8), ("10.0.0.0", 8), ("100.64.0.0", 10), ("127.0.0.0", 8), ("169.254.0.0", 16), ("172.16.0.0", 12),
    ("192.0.0.0", 24), ("192.0.2.0", 24), ("192.88.99.0", 24), ("192.168.0.0", 16), ("198.18.0.0", 15), ("198.51.100.0", 24),
    ("203.0.113.0", 24), ("224.0.0.0", 4), ("240.0.0.0", 4)]

def globalV6 : List (String × ℕ) := [("2000::", 3)]

def blockedV6 : List (String × ℕ) := [("2001::", 23), ("2001:db8::", 32), ("2002::", 16)]

def isBlockedAddress (address : Text) : Bool :=
  let family := isIP address
  if family = 4 then check 32 parseIpv4 blockedV4 address
  else if family = 6 then !check 128 parseIpv6 globalV6 address || check 128 parseIpv6 blockedV6 address
  else true

structure Address where
  address : Text
  family : ℕ

/-! ### URLs -/

structure Url where
  href : String
  protocol : String
  username : String
  password : String
  hostname : Text
  port : String

/-- What is taken from outside: the URL parser, and JSON. -/
structure Libraries where
  url : String → Option Url
  parseJson : String → Option Value

/-- What flows and what is at once, of reads and of deliveries. -/
structure Budget where
  atOnce : ℕ
  burst : ℚ
  perSecond : ℚ
  burst_nonneg : 0 ≤ burst := by decide
  perSecond_nonneg : 0 ≤ perSecond := by decide

structure PlatformProfileReaderOptions where
  reads : Budget := { atOnce := MAX_CONCURRENT_READS, burst := READ_BURST, perSecond := READS_PER_SECOND }
  sends : Budget := { atOnce := MAX_CONCURRENT_SENDS, burst := SEND_BURST, perSecond := SENDS_PER_SECOND }
  allowLoopbackHttp : Bool := false

variable (lib : Libraries) (options : PlatformProfileReaderOptions)

def Url.isLoopback (url : Url) : Bool :=
  options.allowLoopbackHttp && url.protocol = "http:" && (url.hostname = "localhost".toList || url.hostname = "127.0.0.1".toList)

/-- `replace(/\.$/, "")`. -/
def withoutDot (host : Text) : Text := if host.getLast? = some '.' then host.dropLast else host

def vet (raw : String) : Except ProfileFailure Url :=
  match lib.url raw with
  | none => .error .bad_url
  | some url =>
    if url.username ≠ "" ∨ url.password ≠ "" then .error .bad_url
    else if url.isLoopback options then .ok url
    else if url.protocol ≠ "https:" ∨ url.port ≠ "" then .error .not_https
    else if isIP (unbracketed url.hostname) ≠ 0 then .error .blocked_address
    else
      let host := lowerCase (withoutDot url.hostname)
      if host = "localhost".toList ∨ ".localhost".toList.isSuffixOf host then .error .blocked_address else .ok url

def Url.host (url : Url) : Text := lowerCase url.hostname

/-! ### The client -/

/-- `until` and `wait`. -/
structure Backoff where
  ends : ℤ
  wait : ℤ
  deriving DecidableEq

/-- The promise of a read: of one that was refused at once, of one that is under way, and of one that is over. -/
inductive Work where
  | refused (reason : ProfileFailure)
  | fetching (host : Text)
  | fetched (host : Text) (result : ProfileResult)

structure CachedResult where
  result : ProfileResult
  readAt : ℤ

structure Client where
  cache : Keyed String CachedResult
  inFlight : Keyed String ℕ
  hostBackoff : Keyed Text Backoff
  running : ℕ
  readBucket : Bucket
  sending : ℕ
  sendBucket : Bucket
  works : List Work
  now : ℤ

def createPlatformProfileReader (now : ℤ) : Client where
  cache := ∅
  inFlight := ∅
  hostBackoff := ∅
  running := 0
  readBucket := .full options.reads.burst now
  sending := 0
  sendBucket := .full options.sends.burst now
  works := []
  now := now

def Client.remember (s : Client) (key : String) (result : ProfileResult) : Client :=
  { s with cache := put (if CACHE_MAX ≤ size s.cache then dropOldest s.cache else s.cache) key ⟨result, s.now⟩ }

/-- What a call of `read` comes to before it waits. -/
inductive Reading where
  | cached (result : ProfileResult)
  | joins (work : ℕ)
  | refused (reason : ProfileFailure)
  | starts (work : ℕ) (back : Option Backoff)

def Client.refuseRead (s : Client) (raw : String) (reason : ProfileFailure) : Reading × Client :=
  (.refused reason, { s with works := s.works ++ [.refused reason], inFlight := put s.inFlight raw s.works.length })

/-- `readOnce` up to its first await. -/
def Client.readOnce (s : Client) (raw : String) (url : Url) : Reading × Client :=
  let back := s.hostBackoff.lookup url.host
  if back.any fun back => s.now < back.ends then s.refuseRead raw .backoff
  else if options.reads.atOnce ≤ s.running then s.refuseRead raw .busy
  else
    let (taken, bucket) := s.readBucket.take options.reads.burst options.reads.perSecond s.now
    if taken then
      (.starts s.works.length back,
        { s with
          readBucket := bucket
          running := s.running + 1
          works := s.works ++ [.fetching url.host]
          inFlight := put s.inFlight raw s.works.length })
    else { s with readBucket := bucket }.refuseRead raw .busy

def Client.read (s : Client) (raw : String) (url : Url) : Reading × Client :=
  let again :=
    match s.inFlight.lookup raw with
    | some n => (.joins n, s)
    | none => s.readOnce options raw url
  match s.cache.lookup raw with
  | some ⟨result, readAt⟩ =>
    if s.now - readAt < (if result.isOk then OK_CACHE_MS else FAIL_CACHE_MS) then (.cached result, s) else again
  | none => again

/-- How a host's wait goes on from the last one. -/
def nextBackoff (back : Option Backoff) (now : ℤ) : Backoff :=
  let wait := min ((back.map Backoff.wait).getD (HOST_BACKOFF_MS / 2) * 2) HOST_BACKOFF_MAX_MS
  ⟨now + wait, wait⟩

def Client.backOff (s : Client) (host : Text) (back : Option Backoff) (result : ProfileResult) : Keyed Text Backoff :=
  match result with
  | .ok _ => s.hostBackoff.erase host
  | .error _ =>
    let hostBackoff := put s.hostBackoff host (nextBackoff back s.now)
    if CACHE_MAX < size hostBackoff then dropOldest hostBackoff else hostBackoff

/-- The rest of `readOnce`, once the profile is there or has failed. -/
def Client.endRead (s : Client) (raw : String) (url : Url) (work : ℕ) (back : Option Backoff) (result : ProfileResult) : Client :=
  { s with
    running := s.running - 1
    hostBackoff := s.backOff url.host back result
    works := s.works.set work (.fetched url.host result) }.remember raw result

/-- Whether a delivery may start, which it then does. -/
def Client.startSend (s : Client) : Bool × Client :=
  if options.sends.atOnce ≤ s.sending then (false, s)
  else
    let (taken, bucket) := s.sendBucket.take options.sends.burst options.sends.perSecond s.now
    (taken, { s with sendBucket := bucket, sending := if taken then s.sending + 1 else s.sending })

/-! ### The routines -/

structure OutboundRequest where
  body : String
  headers : List (String × String)

structure Response where
  status : ℕ
  body : String

inductive Failure where
  | ProfileError (reason : ProfileFailure)
  | other (message : String)

def Failure.reason : Failure → ProfileFailure
  | .ProfileError reason => reason
  | .other _ => .unreachable

inductive Op where
  | resolve (hostname : Text)
  /-- A connection to a pinned address. -/
  | get (url : Url) (address : Text) (family : ℕ)
  | post (url : Url) (address : Text) (family : ℕ) (request : OutboundRequest)
  | loopbackGet (url : Url)
  | loopbackPost (url : Url) (request : OutboundRequest)
  /-- The promise of another read. -/
  | join (work : ℕ)
  /-- An await of what is there. -/
  | turn

abbrev Op.Answer : Op → Type
  | .resolve _ => List Address
  | .get .. => Response
  | .post .. => ℕ
  | .loopbackGet _ => Response
  | .loopbackPost .. => ℕ
  | .join _ => ProfileResult
  | .turn => Unit

abbrev Job := Routine Client Op Failure Op.Answer

def ask (o : Op) : Job o.Answer := Routine.ask o

/-- What `fetchProfile` makes of a response. -/
def interpret (response : Response) : ProfileResult :=
  if response.status ≠ 200 then .error .bad_status
  else
    match (lib.parseJson response.body).bind platformProfileSchema with
    | none => .error .malformed
    | some profile => .ok (summary profile)

/-- The address to connect to, of those a name has: none of them is blocked. -/
def pinned : List Address → Except ProfileFailure Address
  | [] => .error .unreachable
  | first :: rest => if (first :: rest).any fun a => isBlockedAddress a.address then .error .blocked_address else .ok first

def fetchProfile (url : Url) : Job ProfileResult :=
  if url.isLoopback options then do
    let response ← ask (.loopbackGet url)
    pure (interpret lib response)
  else do
    let addresses ← ask (.resolve url.hostname)
    match pinned addresses with
    | .error reason => pure (.error reason)
    | .ok first => do
      let response ← ask (.get url first.address first.family)
      pure (interpret lib response)

/-- What comes of a read that was caught. -/
def caught : Except Failure ProfileResult → ProfileResult
  | .ok result => result
  | .error e => .error e.reason

def read (raw : String) : Job ProfileResult :=
  match vet lib options raw with
  | .error reason => pure (.error reason)
  | .ok url => do
    let reading ← Routine.atomic fun s => s.read options raw url
    match reading with
    | .cached result => pure result
    | .joins n => ask (.join n)
    | .refused reason => do
      let _ ← ask .turn
      let _ ← Routine.modify fun s => { s with inFlight := s.inFlight.erase raw }
      pure (.error reason)
    | .starts n back => do
      let tried ← (fetchProfile lib options url).attempt
      let _ ← ask .turn
      let _ ← Routine.modify fun s => s.endRead raw url n back (caught tried)
      let _ ← ask .turn
      let _ ← Routine.modify fun s => { s with inFlight := s.inFlight.erase raw }
      pure (caught tried)

abbrev SendResult := Except ProfileFailure ℕ

def deliver (url : Url) (request : OutboundRequest) : Job SendResult :=
  if url.isLoopback options then do
    let status ← ask (.loopbackPost url request)
    pure (.ok status)
  else do
    let addresses ← ask (.resolve url.hostname)
    match pinned addresses with
    | .error reason => pure (.error reason)
    | .ok first => do
      let status ← ask (.post url first.address first.family request)
      pure (.ok status)

def caughtSend : Except Failure SendResult → SendResult
  | .ok result => result
  | .error (.ProfileError .blocked_address) => .error .blocked_address
  | .error _ => .error .unreachable

def send (raw : String) (request : OutboundRequest) : Job SendResult :=
  if MAX_URL_LENGTH < lengthOf raw then pure (.error .bad_url)
  else
    match vet lib options raw with
    | .error reason => pure (.error (if reason = .not_https ∨ reason = .blocked_address then reason else .bad_url))
    | .ok url => do
      let started ← Routine.atomic fun s => s.startSend options
      if started then do
        let tried ← (deliver options url request).attempt
        let _ ← ask .turn
        let _ ← Routine.modify fun s => { s with sending := s.sending - 1 }
        pure (caughtSend tried)
      else pure (.error .busy)

inductive Call where
  | read (raw : String)
  | send (raw : String) (request : OutboundRequest)

inductive Outcome where
  | read (result : ProfileResult)
  | send (result : SendResult)

def body : Call → Job Outcome
  | .read raw => do
    let result ← read lib options raw
    pure (.read result)
  | .send raw request => do
    let result ← send lib options raw request
    pure (.send result)

/-- What the resolver and the servers answer. -/
structure Input where
  addresses : Except Failure (List Address)
  response : Except Failure Response
  status : Except Failure ℕ

def serve : (o : Op) → Input → Client → Option (Except Failure o.Answer × Client)
  | .resolve _, input, s => some (input.addresses, s)
  | .get .., input, s => some (input.response, s)
  | .post .., input, s => some (input.status, s)
  | .loopbackGet _, input, s => some (input.response, s)
  | .loopbackPost .., input, s => some (input.status, s)
  | .join n, _, s =>
    match s.works[n]? with
    | some (.refused reason) => some (.ok (.error reason), s)
    | some (.fetched _ result) => some (.ok result, s)
    | _ => none
  | .turn, _, s => some (.ok (), s)

def client : Routines.Host Call Client Op Failure Op.Answer Outcome Input ℕ where
  body := body lib options
  serve := serve
  outside ms s := { s with now := s.now + ms }
  restart s := createPlatformProfileReader options s.now

end AgentPey.PlatformProfiles
