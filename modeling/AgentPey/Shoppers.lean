import AgentPey.InMemoryLedger
import AgentPey.Routines

/-!
The MCP server's shopper (`apps/mcp/src/shopper.ts`, `quotes.ts`, wired in `runtime.ts`): quotes, payments and what gives
a quote's budget back. Every quote has its intent signed by an agent of its own, which makes a local policy rail of its
own; payments and releases go through one more rail. All rails share one in-memory ledger, and each has its own queues.
-/
namespace AgentPey.Shoppers
open AgentPass Dates LocalPolicyRail PurchaseChecks Routines
open InMemoryLedger (InMemorySpendLedger createInMemorySpendLedger)

/-! ### Errors -/

def AuthorisationRejectionCode.text : AuthorisationRejectionCode → String
  | .TermsVenueMismatch => "TermsVenueMismatch"
  | .TermsAssetMismatch => "TermsAssetMismatch"
  | .TermsAmountMismatch => "TermsAmountMismatch"
  | .TermsPayeeNotAllowed => "TermsPayeeNotAllowed"
  | .ScopeActionNotAllowed => "ScopeActionNotAllowed"
  | .ScopeVenueNotAllowed => "ScopeVenueNotAllowed"
  | .ScopeAssetNotAllowed => "ScopeAssetNotAllowed"
  | .ScopeCurrencyMismatch => "ScopeCurrencyMismatch"
  | .ScopeAmountExceeded => "ScopeAmountExceeded"
  | .MandateAgentMismatch => "MandateAgentMismatch"
  | .MandatePrincipalMismatch => "MandatePrincipalMismatch"
  | .MandateActionNotAllowed => "MandateActionNotAllowed"
  | .MandateVenueNotAllowed => "MandateVenueNotAllowed"
  | .MandateProductNotAllowed => "MandateProductNotAllowed"
  | .MandateAssetNotAllowed => "MandateAssetNotAllowed"
  | .MandateCurrencyMismatch => "MandateCurrencyMismatch"
  | .MandateWindowMismatch => "MandateWindowMismatch"
  | .MandateAmountExceeded => "MandateAmountExceeded"
  | .ScopeDailyLimitExceeded => "ScopeDailyLimitExceeded"
  | .MandateDailyLimitExceeded => "MandateDailyLimitExceeded"

def policyRailError (refused : Denial) : Thrown :=
  .AgentPassError (AuthorisationRejectionCode.text refused.code) refused.reason refused.details

def PAYMENT_SENT_DETAIL : String := "paymentSent"

def message : Thrown → String
  | .AgentPassError _ message _ => message
  | .RangeError message => message
  | .DatabaseError message => message

/-- The error again, with whether a signed payment may have been sent. -/
def withPaymentSent (e : Thrown) (paymentSent : Bool) : Thrown :=
  match e with
  | .AgentPassError code message details =>
    .AgentPassError code message (details.filter (·.1 ≠ PAYMENT_SENT_DETAIL) ++ [(PAYMENT_SENT_DETAIL, .bool paymentSent)])
  | e =>
    if paymentSent then e
    else .AgentPassError "PaymentNotCreated" "the payment could not be built, and nothing was sent"
      [(PAYMENT_SENT_DETAIL, .bool false), ("cause", .string (message e))]

def mayHaveBeenPaid : Thrown → Bool
  | .AgentPassError _ _ details =>
    match details.lookup PAYMENT_SENT_DETAIL with
    | some (.bool false) => false
    | _ => true
  | _ => true

def reasonOf : Thrown → String
  | .AgentPassError code _ _ => code
  | _ => "UnexpectedError"

/-! ### Quotes -/

structure UcpLine where
  productId : String
  quantity : Nat

structure QuoteInput where
  store : String
  lines : List UcpLine

structure Store where
  url : String
  venueId : String

/-- A checkout that a store opened. -/
structure UcpQuote where
  storeUrl : String
  checkoutId : String
  amount : String
  payTo : String

/-- An intent, and when it goes stale. -/
structure DatedIntent where
  intent : PurchaseIntent
  expiresAt : Int

structure QuoteEntry where
  id : String
  quote : UcpQuote
  venueId : String
  intent : DatedIntent
  expiresAt : Int

def DEFAULT_QUOTE_TTL_MS : Int := 10 * 60000
def DEFAULT_MAX_QUOTES : Nat := 200

/-- What the process remembers: the ledger, who is in which queue of which rail, how many rails there are, and the book
    of quotes, the oldest first. -/
structure Process where
  ledger : InMemorySpendLedger
  held : List (Nat × String)
  rails : Nat
  quotes : List QuoteEntry

/-- The rail of payments and releases is made first. -/
def started : Process := ⟨createInMemorySpendLedger, [], 1, []⟩

def Process.newRail (p : Process) : Nat × Process := (p.rails, { p with rails := p.rails + 1 })

def QuoteEntry.expired (entry : QuoteEntry) (now : Int) : Bool := entry.expiresAt ≤ now

/-- `sweep`: the quotes past their window leave the book. -/
def Process.sweep (now : Int) (p : Process) : List QuoteEntry × Process :=
  (p.quotes.filter (·.expired now), { p with quotes := p.quotes.filter fun entry => !entry.expired now })

/-- `issue`: one more quote, and the oldest go while there is no room. -/
def Process.issue (quote : UcpQuote) (venueId : String) (intent : DatedIntent) (id : String) (now : Int) (p : Process) :
    QuoteEntry × Process :=
  let swept := (p.sweep now).2
  let room := swept.quotes.drop (swept.quotes.length + 1 - DEFAULT_MAX_QUOTES)
  let entry : QuoteEntry := ⟨id, quote, venueId, intent, min (now + DEFAULT_QUOTE_TTL_MS) intent.expiresAt⟩
  (entry, { swept with quotes := room ++ [entry] })

/-- `take`: a quote leaves the book, and is paid unless its window is over. -/
def Process.take (id : String) (now : Int) (p : Process) : Result QuoteEntry × Process :=
  match p.quotes.find? (·.id = id) with
  | none => (.error (.AgentPassError "QuoteNotFound"
      "no quote with that id is waiting to be paid: ask for a new quote" [("quoteId", .string id)]), p)
  | some entry =>
    let left := { p with quotes := p.quotes.filter (·.id ≠ id) }
    if entry.expired now then
      (.error (.AgentPassError "QuoteExpired" "the quote expired: ask for a new quote" [("quoteId", .string id)]), left)
    else (.ok entry, left)

/-! ### Questions -/

inductive Op where
  | clock
  /-- A turn in a queue of a rail. -/
  | enter (rail : Nat) (key : String)
  | spentOn (subject currency : String) (at_ : Date)
  | hasRecorded (intentId : String)
  | record (entry : SpendLedgerEntry)
  | release (input : ReleaseSpendInput)
  | venues
  | store (name : String)
  /-- What was dropped from the book has been released. -/
  | dropped (entries : List QuoteEntry)
  /-- An agent, with its credential and mandate checked on chain, and an intent for lines at the catalogue's prices. -/
  | prepareIntent (venueId : String) (lines : List UcpLine)
  | signIntent (intent : PurchaseIntent)
  | quoteUcpCheckout (url : String) (lines : List UcpLine)
  | quoteId
  /-- `payUcpQuote` up to its `authorise`: the store's profile and checkout read again, and the terms they make. -/
  | paymentTerms (entry : QuoteEntry)
  /-- And from there on: the payment is built, signed and sent. -/
  | completeCheckout (entry : QuoteEntry)

/-- What is prepared of an intent; its agent and principal are the credential's. -/
structure PreparedIntent where
  intentId : String
  issuedAt : String
  expiresAt : Int
  purchase : IntentPurchase

structure UcpPaymentReceipt where
  orderId : String
  transaction : Option String

abbrev Op.Answer : Op → Type
  | .clock => TimeValue
  | .enter .. => PUnit
  | .spentOn .. => String
  | .hasRecorded _ => Bool
  | .record _ => PUnit
  | .release _ => PUnit
  | .venues => PUnit
  | .store _ => Store
  | .dropped _ => PUnit
  | .prepareIntent .. => PreparedIntent
  | .signIntent _ => PUnit
  | .quoteUcpCheckout .. => UcpQuote
  | .quoteId => String
  | .paymentTerms _ => PaymentTerms
  | .completeCheckout _ => UcpPaymentReceipt

abbrev Work := Routine Process Op Thrown Op.Answer

/-! ### The rails -/

def asking : LockedSpendLedger Work where
  spentOn subject currency at_ := .ask (Op.spentOn subject currency at_)
  hasRecorded intentId := .ask (Op.hasRecorded intentId)
  record entry := .ask (Op.record entry)
  release input := .ask (Op.release input)

def leave (rail : Nat) (key : String) (p : Process) : Process := { p with held := p.held.erase (rail, key) }

/-- `serialise`: one at a time in a queue of a rail. -/
def criticalSection {α : Type} (rail : Nat) (key : String) (work : Work α) : Work α := do
  Routine.ask (Op.enter rail key)
  work.finally_ (leave rail key)

def policyRail : Nat := 0

/-- What the runtime has verified once: the mandate and the credential. -/
structure Runtime where
  strKey : StrKey
  subject : String
  principal : String
  scope : Scope
  mandate : AgentPayMandate

section
variable (runtime : Runtime)

def requestOf (intent : PurchaseIntent) (terms : Option PaymentTerms) : AuthorisationRequest :=
  ⟨intent, runtime.scope, runtime.mandate, terms⟩

/-- The rail of a quote reads the time at which its agent was made. -/
def authoriseOn (rail : Nat) (intent : PurchaseIntent) (at_ : TimeValue) : Work AuthorisationDecision :=
  criticalSection rail intent.agent (authorise runtime.strKey asking (requestOf runtime intent none) (some at_))

/-- The rail of payments reads its clock when its turn has come. -/
def authorisePayment (intent : PurchaseIntent) (terms : PaymentTerms) : Work AuthorisationDecision :=
  criticalSection policyRail intent.agent do
    let at_ : TimeValue ← Routine.ask Op.clock
    authorise runtime.strKey asking (requestOf runtime intent (some terms)) (some at_)

def granted : AuthorisationDecision → Result PUnit
  | .granted _ => .ok ⟨⟩
  | .refused d => .error (policyRailError d)

def releaseSpend (input : ReleaseSpendInput) : Work PUnit :=
  criticalSection policyRail input.intentId (asking.release input)

/-- `release`: a failure of the ledger is only logged. -/
def release (intentId : String) (cause : Thrown) : Work PUnit := do
  let _ ← (releaseSpend ⟨intentId, reasonOf cause⟩).attempt
  pure ⟨⟩

/-! ### Quoting -/

def intentOf (store : Store) (prepared : PreparedIntent) : DatedIntent :=
  ⟨⟨prepared.intentId, prepared.issuedAt, runtime.subject, runtime.principal, store.venueId, prepared.purchase⟩,
    prepared.expiresAt⟩

/-- A fresh agent signs an intent, once its own rail has authorised it. -/
def signIntent (store : Store) (lines : List UcpLine) : Work DatedIntent := do
  let rail ← Routine.atomic Process.newRail
  let now : TimeValue ← Routine.ask Op.clock
  let prepared : PreparedIntent ← Routine.ask (Op.prepareIntent store.venueId lines)
  let intent := intentOf runtime store prepared
  let decision ← authoriseOn runtime rail intent.intent now
  granted decision
  Routine.ask (Op.signIntent intent.intent)
  pure intent

/-- An error that the caller is given after the spend was released. -/
def releasing {α : Type} (intentId : String) : Except Thrown α → Work α
  | .ok a => pure a
  | .error e => do
    release intentId e
    .throws e

def quote (input : QuoteInput) : Work QuoteEntry := do
  let store : Store ← Routine.ask (Op.store input.store)
  let now : TimeValue ← Routine.ask Op.clock
  let expired ← Routine.atomic (Process.sweep now.ms)
  Routine.ask (Op.dropped expired)
  let intent ← signIntent runtime store input.lines
  let opened ← (Routine.ask (Op.quoteUcpCheckout store.url input.lines)).attempt
  let quote : UcpQuote ← releasing intent.intent.intentId opened
  let id : String ← Routine.ask Op.quoteId
  let issued : TimeValue ← Routine.ask Op.clock
  Routine.atomic (Process.issue quote store.venueId intent id issued.ms)

/-! ### Paying -/

structure PayInput where
  quoteId : String
  confirm : Option Bool

def confirmed (input : PayInput) : Result PUnit :=
  if input.confirm = some true then .ok ⟨⟩
  else .error (.AgentPassError "ConfirmationRequired"
    "pay only after the person confirmed this exact quote; call again with confirm: true" [("quoteId", .string input.quoteId)])

def takeQuote (input : PayInput) : Work QuoteEntry := do
  confirmed input
  Routine.ask Op.venues
  let now : TimeValue ← Routine.ask Op.clock
  let taken ← Routine.atomic (Process.take input.quoteId now.ms)
  taken

/-- `payUcpQuote` up to its door: every error says that nothing was sent. -/
def offer (entry : QuoteEntry) : Work PUnit := do
  let terms : PaymentTerms ← Routine.ask (Op.paymentTerms entry)
  let decision ← authorisePayment runtime entry.intent.intent terms
  granted decision

def unsent {α : Type} : Except Thrown α → Work α
  | .ok a => pure a
  | .error e => .throws (withPaymentSent e false)

def payUcpQuote (entry : QuoteEntry) : Work UcpPaymentReceipt := do
  let offered ← (offer runtime entry).attempt
  unsent offered
  Routine.ask (Op.completeCheckout entry)

/-- A payment that provably never left gives its budget back. -/
def releasingUnpaid {α : Type} (intentId : String) : Except Thrown α → Work α
  | .ok a => pure a
  | .error e => if mayHaveBeenPaid e then .throws e else releasing intentId (.error e)

def pay (input : PayInput) : Work UcpPaymentReceipt := do
  let taken ← (takeQuote input).attempt
  let entry ← unsent taken
  let paid ← (payUcpQuote runtime entry).attempt
  releasingUnpaid entry.intent.intent.intentId paid

/-! ### The process -/

/-- What is asked of the process; what leaves the book unpaid is released by a call of its own. -/
inductive Call where
  | quote (input : QuoteInput)
  | pay (input : PayInput)
  | sweep
  | drop (input : ReleaseSpendInput)

inductive Outcome where
  | quoted (entry : QuoteEntry)
  | paid (receipt : UcpPaymentReceipt)
  | done

def sweeps : Work PUnit := do
  let now : TimeValue ← Routine.ask Op.clock
  let expired ← Routine.atomic (Process.sweep now.ms)
  Routine.ask (Op.dropped expired)

def body : Call → Work Outcome
  | .quote input => do
    let entry ← quote runtime input
    pure (.quoted entry)
  | .pay input => do
    let receipt ← pay runtime input
    pure (.paid receipt)
  | .sweep => do
    sweeps
    pure .done
  | .drop input => do
    let _ ← (releaseSpend input).attempt
    pure .done

/-- What decides an answer that is not the ledger's. -/
inductive Input where
  | fails (e : Thrown)
  | nothing
  | time (t : TimeValue)
  | store (store : Store)
  | prepared (intent : PreparedIntent)
  | checkout (quote : UcpQuote)
  | id (id : String)
  | terms (terms : PaymentTerms)
  | receipt (receipt : UcpPaymentReceipt)

def enter (rail : Nat) (key : String) (p : Process) : Option (Except Thrown PUnit × Process) :=
  if (rail, key) ∈ p.held then none else some (.ok ⟨⟩, { p with held := (rail, key) :: p.held })

/-- A write of the ledger; one that throws leaves it as it was. -/
def written (write : Result InMemorySpendLedger) (p : Process) : Except Thrown PUnit × Process :=
  match write with
  | .ok l => (.ok ⟨⟩, { p with ledger := l })
  | .error e => (.error e, p)

def serve : (o : Op) → Input → Process → Option (Except Thrown o.Answer × Process)
  | .clock, .time t, p => some (.ok t, p)
  | .enter rail key, _, p => enter rail key p
  | .spentOn subject currency at_, _, p => some (InMemoryLedger.spentOn p.ledger subject currency at_, p)
  | .hasRecorded intentId, _, p => some (.ok (InMemoryLedger.hasRecorded p.ledger intentId), p)
  | .record entry, _, p => some (written (InMemoryLedger.record p.ledger entry) p)
  | .release input, _, p => some (written (InMemoryLedger.release p.ledger input) p)
  | .venues, .nothing, p => some (.ok ⟨⟩, p)
  | .venues, .fails e, p => some (.error e, p)
  | .store _, .store store, p => some (.ok store, p)
  | .store _, .fails e, p => some (.error e, p)
  | .dropped _, .nothing, p => some (.ok ⟨⟩, p)
  | .prepareIntent .., .prepared intent, p => some (.ok intent, p)
  | .prepareIntent .., .fails e, p => some (.error e, p)
  | .signIntent _, .nothing, p => some (.ok ⟨⟩, p)
  | .signIntent _, .fails e, p => some (.error e, p)
  | .quoteUcpCheckout .., .checkout quote, p => some (.ok quote, p)
  | .quoteUcpCheckout .., .fails e, p => some (.error e, p)
  | .quoteId, .id id, p => some (.ok id, p)
  | .paymentTerms _, .terms terms, p => some (.ok terms, p)
  | .paymentTerms _, .fails e, p => some (.error e, p)
  | .completeCheckout _, .receipt receipt, p => some (.ok receipt, p)
  | .completeCheckout _, .fails e, p => some (.error e, p)
  | _, _, _ => none

def host : Host Call Process Op Thrown Op.Answer Outcome Input Empty where
  body := body runtime
  serve := serve
  outside k _ := k.elim
  restart _ := started

end

end AgentPey.Shoppers
