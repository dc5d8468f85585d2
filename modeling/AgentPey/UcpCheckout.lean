import AgentPey.PaidOrders

/-!
The UCP checkout of a storefront (`ucp/checkout.ts`): sessions are created, changed, canceled and completed; a
completed one has settled its payment and has its order. A request whose body does not parse, or that is answered
from the idempotency memory, runs nothing of this.
-/
namespace AgentPey.UcpCheckout
open Receipts CheckoutSessions Orders Routines Gateway PaidOrders

/-! ### Requests and answers -/

structure FulfillmentMethod where
  pickup : Bool
  destination : Option (Option String × UcpAddress)

/-- The body of a create or an update. `consent` is what `parseConsent` makes of it in the request's version. -/
structure SessionInput where
  lines : List SessionLine
  buyer : SessionBuyer
  consent : Option (Except Failure ConsentUpdate)
  fulfillment : Option (Option FulfillmentMethod)

structure Credential where
  accepted : StoredRequirements
  transaction : String

/-- An instrument of a payment. Without a credential, what it carries is not one. -/
structure Instrument where
  handlerId : String
  type : String
  selected : Option Bool
  credential : Option Credential

structure CompleteInput where
  instruments : List Instrument
  checkoutMandate : Option String
  consent : Option (Except Failure ConsentUpdate)

structure PlatformProfile where
  url : String
  ap2 : Bool
  keys : List String
  orderWebhookUrl : Option String

structure View where
  origin : String
  version : UcpVersion
  platform : Option PlatformProfile

inductive Request where
  | create (input : SessionInput) (view : View)
  | read (id : String) (view : View)
  | update (id : String) (input : SessionInput) (view : View)
  | cancel (id : String) (view : View)
  | complete (id : String) (idempotencyKey : Option String) (input : CompleteInput) (view : View)

inductive Reply where
  | error (status : Nat) (code content : String) (severity : Severity)
  | checkout (status : Nat) (session : CheckoutSession) (order : Option OrderRecord) (messages : List UcpMessage)

def STELLAR_X402_HANDLER_ID : String := "stellar_x402"
def STELLAR_X402_INSTRUMENT_TYPE : String := "stellar_x402"
def MAX_MANDATE_LENGTH : Nat := 32000

def statusText : CheckoutSessionStatus → String
  | .incomplete => "incomplete"
  | .readyForComplete => "ready_for_complete"
  | .completeInProgress => "complete_in_progress"
  | .completed => "completed"
  | .canceled => "canceled"

def lineItemPath (index : Nat) : Option String := some ("$.line_items[" ++ toString index ++ "]")

def notFound (id : String) : Reply := .error 404 "not_found" ("no checkout session \"" ++ id ++ "\"") .unrecoverable

def invalidState (content : String) : Reply := .error 409 "invalid_state" content .unrecoverable

def held : UcpMessage :=
  .error "payment_pending"
    "a payment for this checkout may already have moved; it is held for reconciliation and will not be charged again"
    .requiresBuyerReview (some "$.payment")

variable (deps : Deps)

/-! ### Quoting -/

def joined (separator : String) (parts : List (Option String)) : Option String :=
  match parts.filterMap fun part => part.filter (· ≠ "") with
  | [] => none
  | some_ => some (separator.intercalate some_)

def bodyFor (session : CheckoutSession) : CheckoutBody where
  quantity := 1
  stellarAccount := none
  email := session.buyer.email
  shipping := session.destination.map fun d =>
    { country := d.addressCountry.getD "CL"
      name := joined " " [session.buyer.firstName <|> d.firstName, session.buyer.lastName <|> d.lastName]
      address := joined ", " [d.streetAddress, d.extendedAddress]
      city := d.addressLocality
      region := d.addressRegion
      notes := d.postalCode.map ("CP " ++ ·) }

def quoteCheckout (productId : String) (quantity reserved : Nat) : Gate CheckoutQuote := do
  let product ← ask (.getProduct productId)
  liftM (priceCheckout deps.config productId quantity reserved product)

structure Evaluation where
  quote : Option PurchaseQuote
  messages : List UcpMessage

/-- Each line is quoted on its own; the earlier lines' units of a product count as held. -/
def quoteLines (index : Nat) (asked : String → Nat) : List SessionLine → Gate (List CheckoutQuote × List UcpMessage)
  | [] => pure ([], [])
  | line :: rest => do
    let s ← Routine.read
    let reserved := s.memory.held line.productId + asked line.productId
    let asked := Function.update asked line.productId (asked line.productId + line.quantity)
    let quoted ← (quoteCheckout deps line.productId line.quantity reserved).attempt
    match quoted with
    | .ok quote =>
      let (lines, unavailable) ← quoteLines (index + 1) asked rest
      pure (quote :: lines, unavailable)
    | .error (.vitrinee .outOfStock content) =>
      let (lines, unavailable) ← quoteLines (index + 1) asked rest
      pure (lines, .error "out_of_stock" content .recoverable (lineItemPath index) :: unavailable)
    | .error e => Routine.throws e

/-- What is wrong with where a session is to be sent. -/
def destinationMessages (destination : Option Destination) : List UcpMessage :=
  match destination with
  | some d =>
    match d.streetAddress, d.addressLocality, d.addressCountry with
    | some _, some _, some country =>
      if country ∈ deps.config.shippingCountries then []
      else [.error "address_undeliverable" ("this store ships to " ++ ", ".intercalate deps.config.shippingCountries)
        .recoverable (some "$.fulfillment")]
    | _, _, _ => missing
  | none => missing
where
  missing : List UcpMessage :=
    [.error "missing" "a shipping destination with street_address, address_locality and address_country is required"
      .recoverable (some "$.fulfillment")]

def evaluate (session : CheckoutSession) : Gate Evaluation := do
  let (lines, unavailable) ← quoteLines deps 0 (fun _ => 0) session.lines
  if unavailable = [] then
    let quote ← liftM (purchaseQuote lines)
    pure ⟨some quote, destinationMessages deps session.destination⟩
  else pure ⟨none, unavailable⟩

/-- `storedRequirementsSchema.parse`. -/
def parseRequirements (requirements : StoredRequirements) : Except Failure StoredRequirements :=
  if requirements.scheme ≠ "exact" ∨ requirements.maxTimeoutSeconds = 0 then .error (.zod "not payment requirements")
  else .ok requirements

def requirementsFor (quote : PurchaseQuote) : Gate StoredRequirements := do
  ask .ready
  let built ← ask (.buildPaymentRequirements (payToOf deps.config) quote.totalAtomic deps.config.maxTimeoutSeconds)
  match built with
  | none => Routine.throws (.vitrinee .paymentError "the facilitator offers no way to pay on stellar:testnet")
  | some requirements => liftM (parseRequirements requirements)

def snapshot (quote : PurchaseQuote) (asOf : Int) : SessionQuote where
  lines := quote.lines.map fun line =>
    { productId := line.product.id
      unitAtomic := line.unitAtomic
      totalAtomic := line.totalAtomic
      unitLocal := line.product.priceLocal
      totalLocal := line.totalLocal
      productSku := line.product.sku
      productName := line.product.name }
  totalAtomic := quote.totalAtomic
  totalLocal := quote.totalLocal
  currency := quote.currency
  fx := ⟨deps.config.fx.quote, deps.config.fx.rate, asOf⟩

def sameQuotedLine (a b : QuotedLine) : Bool :=
  a.productId = b.productId && a.unitAtomic = b.unitAtomic && a.totalAtomic = b.totalAtomic &&
    a.totalLocal = b.totalLocal && a.productSku = b.productSku && a.productName = b.productName

def sameQuotedLines (a b : SessionQuote) : Bool :=
  a.lines.length = b.lines.length && a.currency = b.currency && (a.lines.zip b.lines).all fun (x, y) => sameQuotedLine x y

/-- The snapshot a session keeps: the one it has, while the same lines cost the same. -/
def keptQuote (session : CheckoutSession) (fresh : SessionQuote) : SessionQuote :=
  match session.quote with
  | none => fresh
  | some current => if current.totalAtomic = fresh.totalAtomic ∧ sameQuotedLines current fresh then current else fresh

def keptRequirements (session : CheckoutSession) (fresh : SessionQuote) : Option StoredRequirements :=
  if session.quote.any (·.totalAtomic = fresh.totalAtomic) then session.requirements else none

/-- The session quoted again, and what stands between it and `complete`. -/
def refresh (session : CheckoutSession) : Gate (CheckoutSession × List UcpMessage) := do
  let evaluation ← evaluate deps session
  match evaluation.quote with
  | none =>
    pure ({ session with status := .incomplete, requirements := none, quote := none }, evaluation.messages)
  | some quote =>
    let asOf ← now
    let fresh := snapshot deps quote asOf
    if evaluation.messages ≠ [] then
      pure ({ session with status := .incomplete, requirements := none, quote := some fresh }, evaluation.messages)
    else
      match keptRequirements session fresh with
      | some requirements =>
        pure ({ session with
          status := .readyForComplete, requirements := some requirements, quote := some (keptQuote session fresh) }, [])
      | none =>
        let requirements ← requirementsFor deps quote
        pure ({ session with
          status := .readyForComplete, requirements := some requirements, quote := some fresh }, [])

/-! ### Answers -/

/-- Every line's product is looked up again for the answer. -/
def render : List SessionLine → Gate PUnit
  | [] => pure ⟨⟩
  | line :: rest => do
    let _ ← ask (.getProduct line.productId)
    render rest

def gapWarnings (session : CheckoutSession) (messages : List UcpMessage) : List UcpMessage :=
  if deps.config.recordsBuyerConsent ∧ session.live then
    ((consentGaps session.consent session.buyer.email).filter fun gap => ¬messages.any (reports gap)).map fun gap =>
      .warning "missing_consent_data" gap.content (some gap.path)
  else []
where
  reports (gap : ConsentGap) : UcpMessage → Bool
    | .error code _ _ path => code = "missing_consent_data" && path = some gap.path
    | .warning code _ path => code = "missing_consent_data" && path = some gap.path

/-- Whether the answer is signed: the session is locked to AP2 and the request speaks 2026-08-25. -/
def signs (session : CheckoutSession) (view : View) : Bool := session.ap2.isSome && view.version = .august2026

def checkoutResponse (status : Nat) (session : CheckoutSession) (view : View) (messages : List UcpMessage) : Gate Reply := do
  render session.lines
  let s ← Routine.read
  let order := session.orderId.bind (getOrder s.memory.orders)
  if signs session view then
    ask .signMerchantAuthorization
  pure (.checkout status session order (messages ++ gapWarnings deps session messages))

/-! ### Session state -/

inductive ConsentOutcome where
  | none | applied | unadvertised
  deriving DecidableEq, Repr

def applyConsentInput (session : CheckoutSession) (raw : Option (Except Failure ConsentUpdate)) (version : UcpVersion)
    (advertised : Bool) : Except Failure (CheckoutSession × ConsentOutcome) :=
  match raw with
  | Option.none => .ok (session, .none)
  | some parsed =>
    if ¬deps.config.recordsBuyerConsent then .ok (session, .none)
    else if version = .august2026 ∧ ¬advertised then .ok (session, .unadvertised)
    else do
      let update ← parsed
      let next := applyConsent (session.consent.getD defaultConsent) update
      if session.consent.any (sameConsent · next) then pure (session, .none)
      else pure ({ session with consent := some next }, .applied)

def consentNotice : ConsentOutcome → List UcpMessage
  | .unadvertised =>
    [.warning "consent_not_advertised"
      "buyer.consent counts once this store has advertised its consent options; confirm it in an update to this checkout"
      (some "$.buyer.consent")]
  | _ => []

def destinationOf (input : SessionInput) (current : Option Destination) : Option Destination :=
  match input.fulfillment with
  | none => current
  | some method =>
    (method.bind FulfillmentMethod.destination).map fun (id, address) => { address with id := id.getD "dest_1" }

def applyInput (session : CheckoutSession) (input : SessionInput) (version : UcpVersion) (advertised : Bool) :
    Except Failure (CheckoutSession × ConsentOutcome) := do
  let session := { session with lines := input.lines, buyer := input.buyer }
  let (session, outcome) ← applyConsentInput deps session input.consent version advertised
  if (input.fulfillment.bind id).any FulfillmentMethod.pickup then
    throw (.vitrinee .validationError "this store only ships; pickup is not offered")
  pure ({ session with destination := destinationOf input session.destination }, outcome)

/-- The stored session; one that has expired is canceled as it is read. -/
def loadSession (id : String) : Gate (Option CheckoutSession) := do
  if ¬sessionIdShape id then pure none
  else
    let found ← ask (.getSession id)
    match found with
    | none => pure none
    | some session =>
      let readAt ← now
      if session.live ∧ session.expiresAt ≤ readAt then
        let canceled := { session with status := .canceled, updatedAt := readAt }
        ask (.saveSession canceled)
        pure (some canceled)
      else pure (some session)

/-! ### Settlement -/

def sameRequirements (a b : StoredRequirements) : Bool :=
  a.scheme = b.scheme && a.network = b.network && a.asset = b.asset && a.amount = b.amount && a.payTo = b.payTo &&
    a.maxTimeoutSeconds = b.maxTimeoutSeconds

inductive SettleOutcome where
  | settled (response : SettleResponse)
  | refused (reason : String)
  | unknown (reason : String) (transaction : Option String)

def SettleOutcome.isRefused : SettleOutcome → Bool
  | .refused _ => true
  | _ => false

def named (transaction : Option String) : Option String := transaction.filter (· ≠ "")

/-- What an error says of a settlement: a refusal of the store's own brake, or of the facilitator with nothing
    broadcast, is definite. -/
def thrownOutcome : Failure → SettleOutcome
  | .thrown message settleError response =>
    if settleError = some "payer_blocked" ∨ settleError = some "payer_rate_limited" then
      .refused (settleError.getD message)
    else
      let reason := (response.bind PartialSettleResponse.errorReason).getD message
      if response.any fun answered => answered.success = some false && answered.transaction.getD "" = "" then
        .refused reason
      else .unknown reason (named (response.bind PartialSettleResponse.transaction))
  | e => .unknown e.message none

def outcomeOf : Except Failure SettleResponse → SettleOutcome
  | .error e => thrownOutcome e
  | .ok response =>
    if response.success then .settled response
    else
      let reason := response.errorReason.getD "unknown reason"
      if response.transaction = "" then .refused reason else .unknown reason (some response.transaction)

def settle (requirements : StoredRequirements) (transaction : String) (hold : Hold) (checkoutId : String) :
    Gate SettleOutcome := do
  let answer ← (ask (.settlePayment requirements transaction hold (some checkoutId))).attempt
  pure (outcomeOf answer)

def includes (part text : String) : Bool := (text.toList.map Char.toLower).tails.any part.toList.isPrefixOf

def failureSeverity (reason : String) : Severity :=
  if ["insufficient", "trustline", "balance"].any (includes · reason) then .requiresBuyerInput
  else if ["auth", "contract", "limit"].any (includes · reason) then .requiresBuyerReview
  else .recoverable

def refusedPaymentMessage (reason : String) : UcpMessage :=
  if reason = "payer_blocked" then
    .error "payer_blocked" "this payer account is not allowed to buy from this store" .unrecoverable (some "$.payment")
  else if reason = "payer_rate_limited" then
    .error "payer_rate_limited" "this payer account has bought too often from this store; try again later" .recoverable
      (some "$.payment")
  else .error "payment_failed" ("the payment did not settle: " ++ reason) (failureSeverity reason) (some "$.payment")

/-! ### AP2 -/

def mandateRefusal (code text : String) : UcpMessage := .error code text .recoverable (some "$.ap2.checkout_mandate")

/-- The mandate a locked checkout is charged under, or why it is refused. The chain of signatures and the terms it
    closes over are checked by `verifyCheckoutMandate`. -/
def checkAp2Mandate (session : CheckoutSession) (lock : Ap2Lock) (view : View) (input : CompleteInput) :
    Gate (Except UcpMessage String) := do
  let mandate := input.checkoutMandate.getD ""
  if mandate = "" then
    pure (.error (mandateRefusal "mandate_required" "this checkout is AP2-locked: complete needs ap2.checkout_mandate"))
  else if MAX_MANDATE_LENGTH < mandate.length then
    pure (.error (mandateRefusal "mandate_invalid_signature" "the checkout mandate is too large"))
  else
    match view.platform with
    | none =>
      pure (.error (mandateRefusal "agent_missing_key"
        "the platform's profile could not be read, so there is no key to verify its mandate with"))
    | some platform =>
      if platform.url ≠ lock.platformProfile then
        pure (.error (mandateRefusal "mandate_invalid_signature"
          "this checkout was opened by another platform profile; only that platform's mandate completes it"))
      else if platform.keys = [] then
        pure (.error (mandateRefusal "agent_missing_key"
          "the platform's profile publishes no P-256 key to verify its mandate with"))
      else
        render session.lines
        let refusal ← ask (.verifyCheckoutMandate mandate)
        match refusal with
        | some (code, text) => pure (.error (mandateRefusal code text))
        | none => pure (.ok mandate)

def platformRefusal (view : View) : Option (String × String) :=
  let origin := view.platform.map fun platform => deps.originOf platform.url
  if deps.config.allowedPlatforms ≠ [] ∧ ¬origin.any (· ∈ deps.config.allowedPlatforms) then
    some ("platform_not_allowed", "this store only opens checkouts for the platforms it has approved")
  else if deps.config.requireAp2 ∧ ¬(view.version = .august2026 ∧ view.platform.any PlatformProfile.ap2) then
    some ("ap2_required", "this store only sells through platforms that sign an AP2 mandate: open the checkout in " ++
      "UCP 2026-08-25 with the AP2 extension")
  else none

/-- The platform's profile, when AP2 is negotiated on this request. -/
def ap2Negotiated (view : View) : Option PlatformProfile :=
  if view.version = .august2026 then view.platform.filter PlatformProfile.ap2 else none

/-! ### Completing -/

def quotedProduct (line : SessionLine) (quoted : QuotedLine) (currency : String) : CheckoutQuote where
  product :=
    { id := line.productId
      sku := quoted.productSku
      name := quoted.productName
      priceLocal := quoted.unitLocal
      currency := currency
      stock := none }
  quantity := line.quantity
  unitAtomic := quoted.unitAtomic
  totalAtomic := quoted.totalAtomic
  totalLocal := quoted.totalLocal

def lost : Failure := .vitrinee .storageError "a paid checkout lost its settlement or its quote"

def unaccountedFor (reason : String) : Failure := .vitrinee .settlementUnaccounted ("payment settled but " ++ reason)

/-- The purchase a paid session stands for, from its own snapshot. -/
def paidPurchase (session : CheckoutSession) : Except Failure PaidPurchase :=
  match session.settlement, session.quote with
  | some settlement, some quoted =>
    match settlement.payer <|> session.paymentKey.bind deps.crypto.payerFromTransactionXdr with
    | none => .error (.vitrinee .paymentError "payment settled but the payer account could not be determined")
    | some payer => do
      if quoted.lines.map QuotedLine.productId ≠ session.lines.map SessionLine.productId then
        throw (unaccountedFor "the checkout's quote is not for its lines")
      let quote ← purchaseQuote ((session.lines.zip quoted.lines).map fun (line, q) => quotedProduct line q quoted.currency)
      if quote.totalAtomic ≠ quoted.totalAtomic ∨ quote.totalAtomic ≠ settlement.amountAtomic then
        throw (unaccountedFor "the checkout's lines do not add up to it")
      pure
        { quote := quote
          body := bodyFor session
          idempotencyKey := session.completeIdempotencyKey
          settlement := { settlement with payer := some payer }
          payer := payer
          ucpCheckoutId := some session.id
          consent := if deps.config.recordsBuyerConsent then some (buyerConsentOf session.consent) else none }
  | _, _ => .error lost

/-- Money moved and the session holds the settlement: its order is made and the session closed. -/
def finish (session : CheckoutSession) : Gate CheckoutSession := do
  let purchase ← liftM (paidPurchase deps session)
  let (record, _) ← fulfilPaidPurchase deps purchase
  if record.ucpCheckoutId ≠ some session.id then
    Routine.throws (.vitrinee .paymentError "this settlement already produced another checkout's order")
  else
    let closedAt ← now
    let completed := { session with status := .completed, orderId := some record.orderId, updatedAt := closedAt }
    ask (.saveSession completed)
    match completed.webhook with
    | none => pure completed
    | some target =>
      let _ ← (ask (.attachWebhook record.orderId target)).attempt
      pure completed

def addUnits (units : List HeldUnits) (line : SessionLine) (stock : Option Nat) : List HeldUnits :=
  if units.any (·.productId = line.productId) then
    units.map fun u => if u.productId = line.productId then { u with quantity := u.quantity + line.quantity } else u
  else units ++ [⟨line.productId, line.quantity, stock⟩]

/-- Each product once, with the units of every line naming it. -/
def heldUnits (lines : List SessionLine) (quoted : List CheckoutQuote) : List HeldUnits :=
  (lines.zipIdx).foldl (fun units (line, i) => addUnits units line (quoted[i]?.bind (·.product.stock))) []

def reserveAll (units : List HeldUnits) (s : Storefront) : Except String Hold × Storefront :=
  match s.memory.held.tryReserveAll units with
  | .error short => (.error short, s)
  | .ok more =>
    let hold : Hold := ⟨s.tickets, units, false, none⟩
    (.ok hold, { s with
      tickets := s.tickets + 1
      memory := { s.memory with held := more, holds := s.memory.holds ++ [hold] } })

def shortMessage (session : CheckoutSession) (quote : PurchaseQuote) (short : String) : UcpMessage :=
  let index := session.lines.findIdx (·.productId = short)
  let name := (quote.lines[index]?.map (·.product.name)).getD short
  .error "out_of_stock" ("the last units of \"" ++ name ++ "\" are being bought right now") .recoverable (lineItemPath index)

def webhookOf (view : View) : Option WebhookTarget :=
  match view.platform with
  | none => none
  | some platform =>
    match platform.orderWebhookUrl with
    | none => none
    | some url =>
      if deps.isDeliverableUrl url ∧ platform.url.length ≤ 2048 ∧ view.origin.length ≤ 2048 then
        some ⟨url, platform.url, view.version, view.origin⟩
      else none

/-- What a request to complete brings to a session that may be charged. -/
structure Payment where
  credential : Credential
  idempotencyKey : Option String
  mandate : Option String
  view : View

/-- The session as it is stored before its payment is settled. -/
def inProgress (session : CheckoutSession) (payment : Payment) (startedAt : Int) : CheckoutSession :=
  { session with
    status := .completeInProgress
    paymentKey := some payment.credential.transaction
    completeIdempotencyKey := payment.idempotencyKey.map ("ucp:" ++ ·)
    settlement := none
    settleAttempt := none
    ap2 := session.ap2.map fun lock => { lock with mandate := payment.mandate }
    webhook := webhookOf deps payment.view
    updatedAt := startedAt }

def settledSession (session : CheckoutSession) (stored : StoredRequirements) (response : SettleResponse) (settledAt : Int) :
    CheckoutSession :=
  { session with
    settlement := some
      { txHash := response.transaction
        network := response.network
        payer := response.payer
        payTo := stored.payTo
        asset := stored.asset
        amountAtomic := stored.amount
        settledAt := settledAt }
    updatedAt := settledAt }

/-- `SettlementLedger.take`. -/
def ledgerTake (key : String) (s : Storefront) : Option Settlement × Storefront :=
  ((s.memory.ledger.lookup key).map Prod.fst,
    { s with memory := { s.memory with ledger := s.memory.ledger.filter (·.1 ≠ key) } })

/-- The settlement of a session whose units are held: an answer, when it did not settle, or the completed session. -/
def pay (session : CheckoutSession) (stored : StoredRequirements) (payment : Payment) (hold : Hold) :
    Gate (Reply ⊕ CheckoutSession) := do
  let startedAt ← now
  let session := inProgress deps session payment startedAt
  -- Stored before settling: from here on, a crash or a retry finds the checkout in progress.
  ask (.saveSession session)
  let outcome ← settle stored payment.credential.transaction hold session.id
  let answeredAt ← now
  match outcome with
  | .refused reason =>
    let session := { session with status := .readyForComplete, paymentKey := none, updatedAt := answeredAt }
    ask (.saveSession session)
    let reply ← checkoutResponse deps 200 session payment.view [refusedPaymentMessage reason]
    pure (.inl reply)
  | .unknown reason transaction =>
    let session := { session with settleAttempt := some ⟨transaction, reason, answeredAt⟩, updatedAt := answeredAt }
    ask (.saveSession session)
    let reply ← checkoutResponse deps 200 session payment.view [held]
    pure (.inl reply)
  | .settled response =>
    let session := settledSession session stored response answeredAt
    ask (.saveSession session)
    let _ ← Routine.atomic (ledgerTake payment.credential.transaction)
    let session ← finish deps session
    pure (.inr session)

def payHeld (session : CheckoutSession) (stored : StoredRequirements) (payment : Payment) (hold : Hold) : Gate Reply := do
  let paid ← (pay deps session stored payment hold).finally_ (releaseHold hold.ticket)
  match paid with
  | .inl reply => pure reply
  | .inr session => checkoutResponse deps 200 session payment.view []

/-- A ready session is quoted once more, and charged for exactly the requirements it handed out. -/
def charge (session : CheckoutSession) (payment : Payment) : Gate Reply := do
  match session.requirements, session.quote with
  | some stored, some _ =>
    let evaluation ← evaluate deps session
    match evaluation.quote.filter fun quote => evaluation.messages = [] ∧ quote.totalAtomic = stored.amount with
    | none =>
      let (session, _) ← refresh deps session
      let refreshedAt ← now
      let session := { session with updatedAt := refreshedAt }
      ask (.saveSession session)
      checkoutResponse deps 200 session payment.view (if evaluation.messages ≠ [] then evaluation.messages else
        [.error "payment_failed" "the total changed since these terms were issued; sign the refreshed requirements"
          .recoverable (some "$.totals")])
    | some quote =>
      if ¬sameRequirements payment.credential.accepted stored then
        checkoutResponse deps 200 session payment.view
          [.error "payment_failed" "the credential was signed for other payment requirements than this checkout's"
            .recoverable (some "$.payment.instruments[0].credential.accepted")]
      else
        let reserved ← Routine.atomic (reserveAll (heldUnits session.lines quote.lines))
        match reserved with
        | .error short => checkoutResponse deps 200 session payment.view [shortMessage session quote short]
        | .ok hold => payHeld deps session stored payment hold
  | _, _ => Routine.throws (.vitrinee .storageError "a ready checkout has no payment requirements")

/-- A locked session needs a mandate before it is charged. -/
def chargeMandated (session : CheckoutSession) (credential : Credential) (idempotencyKey : Option String)
    (input : CompleteInput) (view : View) : Gate Reply := do
  match session.ap2 with
  | none => charge deps session ⟨credential, idempotencyKey, none, view⟩
  | some lock =>
    let outcome ← checkAp2Mandate session lock view input
    match outcome with
    | .error refusal => checkoutResponse deps 200 session view [refusal]
    | .ok mandate => charge deps session ⟨credential, idempotencyKey, some mandate, view⟩

/-- 2026-08-25 lets the platform confirm the buyer's consent with the payment. -/
def confirmConsent (session : CheckoutSession) (input : CompleteInput) (view : View) : Gate CheckoutSession := do
  if view.version = .august2026 then
    let (session, outcome) ← liftM (applyConsentInput deps session input.consent view.version session.consent.isSome)
    if outcome = .applied then
      let appliedAt ← now
      let session := { session with updatedAt := appliedAt }
      ask (.saveSession session)
      pure session
    else pure session
  else pure session

/-- What a consent the store would act on still lacks. -/
def missingConsent (session : CheckoutSession) : List ConsentGap :=
  if deps.config.recordsBuyerConsent then consentGaps session.consent session.buyer.email else []

def completePayable (session : CheckoutSession) (credential : Credential) (idempotencyKey : Option String)
    (input : CompleteInput) (view : View) : Gate Reply := do
  let session ← confirmConsent deps session input view
  if session.status = .incomplete then
    let (session, messages) ← refresh deps session
    ask (.saveSession session)
    checkoutResponse deps 200 session view (if messages ≠ [] then messages else
      [.error "invalid_state" "checkout was not ready; review the refreshed terms and complete again" .recoverable none])
  else
    let gaps := missingConsent deps session
    if gaps ≠ [] then
      checkoutResponse deps 200 session view (gaps.map fun gap =>
        .error "missing_consent_data" gap.content .recoverable (some gap.path))
    else chargeMandated deps session credential idempotencyKey input view

/-- The one selected instrument of a payment, if it is this store's. -/
def selectedInstrument (instruments : List Instrument) : Option Instrument :=
  match instruments.filter (·.selected ≠ some false) with
  | [instrument] =>
    if instrument.handlerId = STELLAR_X402_HANDLER_ID ∧ instrument.type = STELLAR_X402_INSTRUMENT_TYPE then
      some instrument
    else none
  | _ => none

def completeLive (session : CheckoutSession) (idempotencyKey : Option String) (input : CompleteInput) (view : View) :
    Gate Reply :=
  match selectedInstrument input.instruments with
  | none =>
    checkoutResponse deps 200 session view
      [.error "payment_failed" ("select exactly one " ++ STELLAR_X402_INSTRUMENT_TYPE ++ " instrument of handler " ++
        STELLAR_X402_HANDLER_ID) .recoverable (some "$.payment.instruments")]
  | some instrument =>
    match instrument.credential with
    | none =>
      checkoutResponse deps 200 session view
        [.error "payment_failed" "the credential is not an x402_payment_payload of version 2" .recoverable
          (some "$.payment.instruments[0].credential")]
    | some credential => completePayable deps session credential idempotencyKey input view

def complete (id : String) (idempotencyKey : Option String) (input : CompleteInput) (view : View) : Gate Reply := do
  let found ← loadSession id
  match found with
  | none => pure (notFound id)
  | some session =>
    match session.status with
    | .completed =>
      if idempotencyKey.isSome ∧ session.completeIdempotencyKey ≠ idempotencyKey.map ("ucp:" ++ ·) then
        pure (invalidState "checkout is already completed")
      else checkoutResponse deps 200 session view []
    | .canceled => pure (invalidState "checkout is canceled")
    | .completeInProgress =>
      -- Money may already have moved: whatever this request carries, it is never settled.
      if session.settlement.isSome then
        let session ← finish deps session
        checkoutResponse deps 200 session view []
      else checkoutResponse deps 200 session view [held]
    | _ => completeLive deps session idempotencyKey input view

/-! ### Routes -/

def sessionLock (id : String) : String := "ucp:" ++ id

/-- Takes the lock, unless it is taken. -/
def lockSession (id : String) (s : Storefront) : Bool × Storefront :=
  if sessionLock id ∈ s.memory.inFlight then (false, s)
  else (true, { s with memory := { s.memory with inFlight := sessionLock id :: s.memory.inFlight } })

def unlockSession (id : String) (s : Storefront) : Storefront :=
  { s with memory := { s.memory with inFlight := s.memory.inFlight.filter (· ≠ sessionLock id) } }

/-- One writer per session at a time. -/
def withSessionLock (id : String) (work : Gate Reply) : Gate Reply := do
  let taken ← Routine.atomic (lockSession id)
  if taken then work.finally_ (unlockSession id)
  else pure (.error 409 "invalid_state" "this checkout is being changed or completed right now" .recoverable)

def newSession (deps : Deps) (drawn : Nat) (createdAt : Int) : CheckoutSession where
  id := deps.sessionIds.newSessionId drawn
  status := .incomplete
  createdAt := createdAt
  updatedAt := createdAt
  expiresAt := createdAt + SESSION_TTL_MS
  lines := []
  buyer := ⟨none, none, none, none⟩
  consent := if deps.config.recordsBuyerConsent then some defaultConsent else none
  destination := none
  quote := none
  requirements := none
  paymentKey := none
  completeIdempotencyKey := none
  orderId := none
  settlement := none
  settleAttempt := none
  ap2 := none
  webhook := none

def drawSession : Gate CheckoutSession :=
  Routine.atomic fun s => (newSession deps s.sessionsDrawn s.now, { s with sessionsDrawn := s.sessionsDrawn + 1 })

def create (input : SessionInput) (view : View) : Gate Reply := do
  let session ← drawSession deps
  match platformRefusal deps view with
  | some (code, content) => pure (.error 403 code content .unrecoverable)
  | none =>
    let session := { session with ap2 := (ap2Negotiated view).map fun platform => ⟨platform.url, none⟩ }
    let (session, consent) ← liftM (applyInput deps session input view.version false)
    let (session, messages) ← refresh deps session
    ask (.saveSession session)
    checkoutResponse deps 201 session view (messages ++ consentNotice consent)

def readRoute (id : String) (view : View) : Gate Reply := do
  let found ← loadSession id
  match found with
  | none => pure (notFound id)
  | some session => checkoutResponse deps 200 session view []

def update (id : String) (input : SessionInput) (view : View) : Gate Reply := do
  let found ← loadSession id
  match found with
  | none => pure (notFound id)
  | some session =>
    if ¬session.live then
      pure (invalidState ("checkout is " ++ statusText session.status ++ " and can no longer change"))
    else
      let (session, consent) ← liftM (applyInput deps session input view.version session.consent.isSome)
      let (session, messages) ← refresh deps session
      let updatedAt ← now
      let session := { session with updatedAt := updatedAt }
      ask (.saveSession session)
      checkoutResponse deps 200 session view (messages ++ consentNotice consent)

def cancel (id : String) (view : View) : Gate Reply := do
  let found ← loadSession id
  match found with
  | none => pure (notFound id)
  | some session =>
    if session.status = .completed ∨ session.status = .completeInProgress then
      pure (invalidState ("checkout is " ++ statusText session.status ++ " and cannot be canceled"))
    else
      let canceledAt ← now
      let session := { session with status := .canceled, updatedAt := canceledAt }
      ask (.saveSession session)
      checkoutResponse deps 200 session view []

def failureReply : Failure → Reply
  | .zod message => .error 400 "invalid_request" message .recoverable
  | .vitrinee .productNotFound message => .error 400 "item_unavailable" ("product not found: " ++ message) .recoverable
  | .vitrinee .validationError message => .error 400 "invalid_request" message .recoverable
  | .vitrinee code message =>
    .error code.httpStatus (if code = .networkError then "unavailable" else "internal_error") message .recoverable
  | .thrown .. => .error 500 "internal_error" "unexpected failure" .recoverable

def ucpRoute (handler : Gate Reply) : Gate Reply := do
  let result ← handler.attempt
  match result with
  | .ok reply => pure reply
  | .error e => pure (failureReply e)

def route : Request → Gate Reply
  | .create input view => ucpRoute (create deps input view)
  | .read id view => ucpRoute (readRoute deps id view)
  | .update id input view => ucpRoute (withSessionLock id (update deps id input view))
  | .cancel id view => ucpRoute (withSessionLock id (cancel deps id view))
  | .complete id key input view => ucpRoute (withSessionLock id (complete deps id key input view))

def host : Host Request Storefront Op Failure Op.Answer Reply Input Outside where
  body := route deps
  serve := serve
  outside := outside
  restart := restart

/-! ### A checkout of one tea -/

def teaView : View := ⟨"https://tea.example", .april2026, none⟩

def teaAddress : UcpAddress := ⟨none, none, some "Calle 1", none, some "Osorno", none, some "CL", none, none⟩

def createTea : Request :=
  .create ⟨[⟨"tea", 1⟩], ⟨none, none, none, none⟩, none, some (some ⟨false, some (none, teaAddress)⟩)⟩ teaView

def teaPayment : CompleteInput :=
  ⟨[⟨STELLAR_X402_HANDLER_ID, STELLAR_X402_INSTRUMENT_TYPE, none, some ⟨teaRequirements, "AAAA"⟩⟩], none, none⟩

def teaSession : String := teaShop.sessionIds.newSessionId 0

def completeTea : Request := .complete teaSession none teaPayment teaView

def readTea : Request := .read teaSession teaView

def goOn (i : Nat) : Nat → List (Action Request Input Outside)
  | 0 => []
  | n + 1 => .perform i answered :: .resume i :: goOn i n

end AgentPey.UcpCheckout
