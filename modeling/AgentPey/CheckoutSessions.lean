import AgentPey.Receipts

/-!
The UCP checkout sessions of a store (`ucp/sessions.ts`), the buyer's consent they carry (`ucp/consent.ts`)
and the messages they are answered with. Amounts in atomic units are numbers, and times are milliseconds.
-/
namespace AgentPey.CheckoutSessions
open Receipts

/-- `2026-04-08` and `2026-08-25`. -/
inductive UcpVersion where
  | april2026 | august2026
  deriving DecidableEq, Repr

inductive CheckoutSessionStatus where
  | incomplete | readyForComplete | completeInProgress | completed | canceled
  deriving DecidableEq, Repr

def MAX_CHECKOUT_LINES : Nat := 10
def SESSION_TTL_MS : Int := 6 * 60 * 60 * 1000

structure UcpAddress where
  firstName : Option String
  lastName : Option String
  streetAddress : Option String
  extendedAddress : Option String
  addressLocality : Option String
  addressRegion : Option String
  addressCountry : Option String
  postalCode : Option String
  phoneNumber : Option String
  deriving DecidableEq, Repr

structure Destination extends UcpAddress where
  id : String
  deriving DecidableEq, Repr

/-- The x402 requirements handed to the platform. -/
structure StoredRequirements where
  scheme : String
  network : String
  asset : String
  amount : Nat
  payTo : String
  maxTimeoutSeconds : Nat
  deriving DecidableEq, Repr

structure SessionLine where
  productId : String
  quantity : Nat
  deriving DecidableEq, Repr

structure SessionBuyer where
  firstName : Option String
  lastName : Option String
  email : Option String
  phoneNumber : Option String
  deriving DecidableEq, Repr

/-! ### Consent -/

inductive ConsentPurpose where
  | marketing | analytics | preferences | saleOrSharing
  deriving DecidableEq, Repr

def CONSENT_PURPOSES : List ConsentPurpose := [.marketing, .analytics, .preferences, .saleOrSharing]

inductive ConsentSource where
  | business | platform
  deriving DecidableEq, Repr

structure ConsentChoice where
  granted : Bool
  source : ConsentSource
  deriving DecidableEq, Repr

abbrev SessionConsent := ConsentPurpose → ConsentChoice
abbrev ConsentUpdate := ConsentPurpose → Option ConsentChoice
abbrev BuyerConsent := ConsentPurpose → Option Bool

/-- `BUSINESS_DEFAULT` grants no purpose. -/
def businessDefault (_ : ConsentPurpose) : ConsentChoice := ⟨false, .business⟩

def defaultConsent : SessionConsent := businessDefault

/-- Only the buyer's decision moves a purpose away from the store's default. -/
def applyConsent (current : SessionConsent) (update : ConsentUpdate) : SessionConsent := fun purpose =>
  match update purpose with
  | none => current purpose
  | some choice => if choice.source = .platform then ⟨choice.granted, .platform⟩ else businessDefault purpose

def sameConsent (a b : SessionConsent) : Bool := CONSENT_PURPOSES.all fun purpose => a purpose = b purpose

def buyerConsentOf (consent : Option SessionConsent) : BuyerConsent := fun purpose =>
  match consent with
  | none => none
  | some choices => if (choices purpose).source = .platform then some (choices purpose).granted else none

structure ConsentGap where
  path : String
  content : String
  deriving DecidableEq, Repr

def consentGaps (consent : Option SessionConsent) (email : Option String) : List ConsentGap :=
  match consent with
  | none => []
  | some choices =>
    let marketing := choices .marketing
    if marketing.source = .platform ∧ marketing.granted ∧ email = none then
      [⟨"$.buyer.email", "the buyer's email is required for the marketing consent they gave"⟩]
    else []

/-! ### Sessions -/

structure QuotedLine where
  productId : String
  unitAtomic : Nat
  totalAtomic : Nat
  unitLocal : String
  totalLocal : String
  productSku : String
  productName : String
  deriving DecidableEq, Repr

structure QuotedFx where
  quote : String
  rate : String
  asOf : Int
  deriving DecidableEq, Repr

structure SessionQuote where
  lines : List QuotedLine
  totalAtomic : Nat
  totalLocal : String
  currency : String
  fx : QuotedFx
  deriving DecidableEq, Repr

structure Settlement where
  txHash : String
  network : String
  payer : Option String
  payTo : String
  asset : String
  amountAtomic : Nat
  settledAt : Int
  deriving DecidableEq, Repr

/-- A settlement whose outcome nobody knows. -/
structure SettleAttempt where
  transaction : Option String
  error : String
  at_ : Int
  deriving DecidableEq, Repr

structure Ap2Lock where
  platformProfile : String
  mandate : Option String
  deriving DecidableEq, Repr

structure WebhookTarget where
  url : String
  platformProfile : String
  version : UcpVersion
  origin : String
  deriving DecidableEq, Repr

structure CheckoutSession where
  id : String
  status : CheckoutSessionStatus
  createdAt : Int
  updatedAt : Int
  expiresAt : Int
  lines : List SessionLine
  buyer : SessionBuyer
  consent : Option SessionConsent
  destination : Option Destination
  quote : Option SessionQuote
  requirements : Option StoredRequirements
  paymentKey : Option String
  completeIdempotencyKey : Option String
  orderId : Option String
  settlement : Option Settlement
  settleAttempt : Option SettleAttempt
  ap2 : Option Ap2Lock
  webhook : Option WebhookTarget

def CheckoutSession.live (session : CheckoutSession) : Bool :=
  session.status = .incomplete || session.status = .readyForComplete

/-- `^cs_[0-9a-z]{1,64}$`. -/
def sessionIdShape (id : String) : Bool :=
  match id.toList with
  | 'c' :: 's' :: '_' :: rest =>
    1 ≤ rest.length && rest.length ≤ 64 && rest.all fun c => c.isDigit || ('a' ≤ c && c ≤ 'z')
  | _ => false

/-- Where session ids come from: the clock and random bytes, which never give one twice. -/
structure SessionIds where
  newSessionId : Nat → String
  fresh : Function.Injective newSessionId

/-! ### Messages -/

inductive Severity where
  | recoverable | requiresBuyerInput | requiresBuyerReview | unrecoverable
  deriving DecidableEq, Repr

inductive UcpMessage where
  | error (code content : String) (severity : Severity) (path : Option String)
  | warning (code content : String) (path : Option String)
  deriving DecidableEq, Repr

end AgentPey.CheckoutSessions
