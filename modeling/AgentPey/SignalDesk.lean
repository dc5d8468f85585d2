import AgentPey.Disciplines
import Mathlib.Algebra.Ring.Int.Defs
import Mathlib.Algebra.Ring.Nat

/-!
The paid routes of SignalDesk (`signaldesk/src/merchant.ts`) over its Postgres store (`store.ts`), served by any number of
processes. A request settles its payment and looks for a delivery against it; without one it delivers, and for the credits
product that is two writes: `grantCredits`, then `recordDelivery`.
-/
namespace AgentPey.SignalDesk
open Routines Disciplines

/-! ### The catalog -/

structure SignalDeskProduct where
  id : String
  priceAtomic : String
  path : String
  deriving DecidableEq

def MARKET_BRIEF : SignalDeskProduct := ⟨"signaldesk:market-brief-xlm-usdc", "2500000", "/api/x402/market-brief"⟩
def AI_CREDITS : SignalDeskProduct := ⟨"signaldesk:ai-credits-1000", "1000000", "/api/x402/ai-credits"⟩
def PRODUCTS : List SignalDeskProduct := [MARKET_BRIEF, AI_CREDITS]

def SUPPORTED_PAIR : String := "XLM/USDC"
def CREDITS_PER_PURCHASE : Nat := 1000

def productForPath (path : String) : Option SignalDeskProduct := PRODUCTS.find? (·.path = path)

def between (first last c : Char) : Bool := first ≤ c && c ≤ last

def isClassicAccount : List Char → Bool
  | 'G' :: rest => rest.length = 55 && rest.all fun c => between 'A' 'Z' c || between '2' '7' c
  | _ => false

/-- `<prefix>_<ulid>`. -/
def isReference (text : List Char) : Bool :=
  let name := text.takeWhile (· ≠ '_')
  match name, text.drop name.length with
  | first :: more, _ :: ulid =>
    between 'a' 'z' first && (1 ≤ more.length && more.length ≤ 15) &&
      (more.all fun c => between 'a' 'z' c || between '0' '9' c) && ulid.length = 26 &&
      ulid.all fun c => between '0' '9' c || between 'A' 'H' c || c = 'J' || c = 'K' || c = 'M' || c = 'N' ||
        between 'P' 'T' c || between 'V' 'Z' c
  | _, _ => false

def accountSchema (text : String) : Bool := isClassicAccount text.toList || isReference text.toList

/-! ### Payments and receipts -/

structure Failure where
  code : String
  status : Nat
  message : String
  deriving DecidableEq

structure PaymentRequirements where
  scheme : String
  network : String
  asset : String
  amount : String
  payTo : String
  maxTimeoutSeconds : Nat
  extra : String
  deriving DecidableEq

/-- A payload that passes `paymentPayloadSchema`; what only the facilitator reads of it is one text. -/
structure PaymentPayload where
  accepted : PaymentRequirements
  resourceUrl : Option String
  payload : String

structure VerifyResponse where
  isValid : Bool
  invalidMessage : Option String
  invalidReason : Option String

structure SettleResponse where
  success : Bool
  transaction : Option String
  payer : Option String
  amount : Option String
  errorMessage : Option String
  errorReason : Option String
  deriving DecidableEq

structure Receipt where
  delivery_id : String
  product_id : String
  buyer : String
  amount : String
  asset : String
  pay_to : String
  payment_tx : String
  artifact_hash : String
  delivered_at : String
  deriving DecidableEq

structure SignedReceipt where
  receipt : Receipt
  receiptHash : String
  signature : String
  signedBy : String
  deriving DecidableEq

structure DeliveryRecord where
  deliveryId : String
  productId : String
  buyer : String
  artifact : String
  artifactHash : String
  signedReceipt : SignedReceipt
  deliveredAt : String
  deriving DecidableEq

/-- The configuration, and what libraries and the page renderers compute. -/
structure Merchant where
  merchantPayTo : String
  asset : String
  decodePaymentSignature : String → Option PaymentPayload
  renderMarketBrief : String → String → String → String
  renderCreditsStatement : String → String → Nat → Nat → String → String
  artifactHash : String → String
  receiptHash : Receipt → String
  /-- A signature of a hash and the account that signed, or the error of a bad secret. -/
  sign : String → Except Failure (String × String)

/-- A `GET`, with the ULID and the time it will draw. -/
structure Request where
  path : String
  url : String
  baseUrl : String
  pair : Option String
  account : Option String
  paymentSignature : Option String
  deliveryId : String
  deliveredAt : String

/-- What a delivery answers beside the record. -/
inductive Extra where
  | replayed
  | brief (pair : String)
  | credits (account : String) (granted balance : Nat)
  deriving DecidableEq

structure DeliveryBody where
  delivery_id : String
  product_id : String
  artifact_url : String
  artifact_hash : String
  receipt_hash : String
  receipt_url : String
  delivered_at : String
  extra : Extra
  deriving DecidableEq

inductive Response where
  | notFound
  | paymentRequired (accepts : PaymentRequirements) (resourceUrl : String)
  | delivered (body : DeliveryBody) (settled : SettleResponse)

def deliveryBody (record : DeliveryRecord) (baseUrl : String) (extra : Extra) : DeliveryBody where
  delivery_id := record.deliveryId
  product_id := record.productId
  artifact_url := baseUrl ++ "/deliveries/" ++ record.deliveryId
  artifact_hash := record.artifactHash
  receipt_hash := record.signedReceipt.receiptHash
  receipt_url := baseUrl ++ "/deliveries/" ++ record.deliveryId ++ "/receipt"
  delivered_at := record.deliveredAt
  extra := extra

def requirements (desk : Merchant) (product : SignalDeskProduct) : PaymentRequirements where
  scheme := "exact"
  network := "stellar:testnet"
  asset := desk.asset
  amount := product.priceAtomic
  payTo := desk.merchantPayTo
  maxTimeoutSeconds := 60
  extra := "\x7b\"areFeesSponsored\":true\x7d"

def signReceipt (desk : Merchant) (receipt : Receipt) : Except Failure SignedReceipt := do
  let hash := desk.receiptHash receipt
  let (signature, signedBy) ← desk.sign hash
  pure ⟨receipt, hash, signature, signedBy⟩

/-! ### A request -/

inductive Op where
  | verify (payload : PaymentPayload) (expected : PaymentRequirements)
  | settle (payload : PaymentPayload) (expected : PaymentRequirements)
  | findDeliveryByPayment (paymentTx : String)
  | grantCredits (account : String) (amount : Nat)
  | insertDelivery (paymentTx : String) (record : DeliveryRecord)

def Op.Answer : Op → Type
  | .verify _ _ => VerifyResponse
  | .settle _ _ => SettleResponse
  | .findDeliveryByPayment _ => Option DeliveryRecord
  | .grantCredits _ _ => Nat
  | .insertDelivery _ _ => Unit

/-- The two tables: deliveries under their payments, and balances, zero where there is no row. -/
structure Store where
  deliveries : List (String × DeliveryRecord)
  credits : String → Nat

abbrev Job (α : Type) := Routine Store Op Failure Op.Answer α

def ask (o : Op) : Job o.Answer := Routine.ask o

def invalidPayment (message : String) : Failure := ⟨"InvalidPayment", 402, message⟩
def processingFailed (message : String) : Failure := ⟨"PaymentProcessingFailed", 502, message⟩
def unexpected : Failure := ⟨"InternalError", 500, "unexpected merchant error"⟩

/-- What a route asks of its inputs before it quotes a price. -/
def checkInputs (product : SignalDeskProduct) (request : Request) : Except Failure Unit :=
  if product.path = MARKET_BRIEF.path then
    if request.pair = some SUPPORTED_PAIR then .ok ⟨⟩
    else .error ⟨"InvalidRequest", 400, "pair must be XLM/USDC"⟩
  else if request.account.any accountSchema then .ok ⟨⟩
  else .error ⟨"InvalidRequest", 400, "account must be a Stellar classic account or an opaque platform reference"⟩

def paymentHeader (request : Request) : Option String :=
  request.paymentSignature.filter fun text => 1 ≤ text.length ∧ text.length ≤ 32768

def readPayment (desk : Merchant) (product : SignalDeskProduct) (request : Request) (signature : String) : Except Failure PaymentPayload :=
  match desk.decodePaymentSignature signature with
  | none => .error (invalidPayment "PAYMENT-SIGNATURE is not a valid x402 payment payload")
  | some payload =>
    if payload.accepted ≠ requirements desk product ∨ payload.resourceUrl ≠ some request.url then
      .error (invalidPayment "payment payload does not match this resource's terms")
    else .ok payload

def checkVerified : Except Failure VerifyResponse → Except Failure Unit
  | .error _ => .error (processingFailed "could not verify the payment against Stellar testnet")
  | .ok verified =>
    if verified.isValid then .ok ⟨⟩
    else .error (invalidPayment ((verified.invalidMessage.or verified.invalidReason).getD "payment verification failed"))

def checkSettled : Except Failure SettleResponse → Except Failure (SettleResponse × String)
  | .error _ => .error (processingFailed "could not settle the payment on Stellar testnet")
  | .ok settled =>
    if settled.success = false then
      .error (processingFailed ((settled.errorMessage.or settled.errorReason).getD "payment settlement failed"))
    else
      match settled.transaction.getD "" with
      | "" => .error (processingFailed "settlement reported success without a transaction")
      | paymentTx => .ok (settled, paymentTx)

structure Delivered where
  artifact : String
  buyer : String
  body : Extra

def deliver (desk : Merchant) (product : SignalDeskProduct) (request : Request) (settled : SettleResponse) : Job Delivered := do
  if product.path = MARKET_BRIEF.path then
    if request.pair = some SUPPORTED_PAIR then
      pure ⟨desk.renderMarketBrief request.deliveryId SUPPORTED_PAIR request.deliveredAt,
        settled.payer.getD "unknown", .brief SUPPORTED_PAIR⟩
    else .throws unexpected
  else
    match request.account with
    | none => .throws unexpected
    | some account =>
      if accountSchema account then do
        let balance : Nat ← ask (.grantCredits account CREDITS_PER_PURCHASE)
        let artifact :=
          desk.renderCreditsStatement request.deliveryId account CREDITS_PER_PURCHASE balance request.deliveredAt
        pure ⟨artifact, account, .credits account CREDITS_PER_PURCHASE balance⟩
      else .throws unexpected

def recordDelivery (paymentTx : String) (record : DeliveryRecord) : Job DeliveryRecord := do
  let _ ← ask (.insertDelivery paymentTx record)
  let stored : Option DeliveryRecord ← ask (.findDeliveryByPayment paymentTx)
  match stored with
  | none => .throws ⟨"CommandFailed", 400, "the delivery was neither inserted nor found"⟩
  | some stored => pure stored

def receiptOf (desk : Merchant) (product : SignalDeskProduct) (request : Request) (settled : SettleResponse)
    (paymentTx : String) (delivered : Delivered) : Receipt where
  delivery_id := request.deliveryId
  product_id := product.id
  buyer := delivered.buyer
  amount := settled.amount.getD (requirements desk product).amount
  asset := desk.asset
  pay_to := desk.merchantPayTo
  payment_tx := paymentTx
  artifact_hash := desk.artifactHash delivered.artifact
  delivered_at := request.deliveredAt

def recordOf (desk : Merchant) (product : SignalDeskProduct) (request : Request) (delivered : Delivered)
    (signedReceipt : SignedReceipt) : DeliveryRecord where
  deliveryId := request.deliveryId
  productId := product.id
  buyer := delivered.buyer
  artifact := delivered.artifact
  artifactHash := desk.artifactHash delivered.artifact
  signedReceipt := signedReceipt
  deliveredAt := request.deliveredAt

def fulfil (desk : Merchant) (product : SignalDeskProduct) (request : Request) (settled : SettleResponse)
    (paymentTx : String) : Job Response := do
  let already : Option DeliveryRecord ← ask (.findDeliveryByPayment paymentTx)
  match already with
  | some record => pure (.delivered (deliveryBody record request.baseUrl .replayed) settled)
  | none =>
    let delivered ← deliver desk product request settled
    let signedReceipt ← signReceipt desk (receiptOf desk product request settled paymentTx delivered)
    let record ← recordDelivery paymentTx (recordOf desk product request delivered signedReceipt)
    pure (.delivered (deliveryBody record request.baseUrl delivered.body) settled)

def handlePaidRoute (desk : Merchant) (product : SignalDeskProduct) (request : Request) : Job Response := do
  let _ ← checkInputs product request
  let expected := requirements desk product
  match paymentHeader request with
  | none => pure (.paymentRequired expected request.url)
  | some signature =>
    let payload ← readPayment desk product request signature
    let verified : Except Failure VerifyResponse ← (ask (.verify payload expected)).attempt
    let _ ← checkVerified verified
    let settling : Except Failure SettleResponse ← (ask (.settle payload expected)).attempt
    let (settled, paymentTx) ← checkSettled settling
    fulfil desk product request settled paymentTx

/-- A path that sells something; the others write nothing. -/
def handle (desk : Merchant) (request : Request) : Job Response :=
  match productForPath request.path with
  | none => pure .notFound
  | some product => handlePaidRoute desk product request

/-! ### What answers -/

/-- What the facilitator says, and for a query whether it fails, and whether it took effect all the same. -/
structure Input where
  verified : VerifyResponse
  settled : SettleResponse
  failure : Option Failure
  applied : Bool

def Input.writes (input : Input) : Bool := input.failure.isNone || input.applied

def reply {α : Type} (input : Input) (a : α) : Except Failure α :=
  match input.failure with
  | none => .ok a
  | some e => .error e

/-- The largest `bigint`. -/
def MAX_BIGINT : Nat := 2 ^ 63 - 1

def Store.delivery (s : Store) (paymentTx : String) : Option DeliveryRecord :=
  (s.deliveries.find? fun row => row.1 = paymentTx).map Prod.snd

def Store.grant (s : Store) (account : String) (amount : Nat) : Store :=
  { s with credits := Function.update s.credits account (s.credits account + amount) }

def Store.insert (s : Store) (paymentTx : String) (record : DeliveryRecord) : Store :=
  { s with deliveries := s.deliveries ++ [(paymentTx, record)] }

/-- No row has the payment, and none the primary key. -/
def Store.admits (s : Store) (paymentTx : String) (record : DeliveryRecord) : Prop :=
  ∀ row ∈ s.deliveries, row.1 ≠ paymentTx ∧ row.2.deliveryId ≠ record.deliveryId

instance (s : Store) (paymentTx : String) (record : DeliveryRecord) : Decidable (s.admits paymentTx record) := by
  unfold Store.admits
  infer_instance

def serve : (o : Op) → Input → Store → Option (Except Failure o.Answer × Store)
  | .verify _ _, input, s => some (reply input input.verified, s)
  | .settle _ _, input, s => some (reply input input.settled, s)
  | .findDeliveryByPayment paymentTx, input, s => some (reply input (s.delivery paymentTx), s)
  | .grantCredits account amount, input, s =>
    if s.credits account + amount ≤ MAX_BIGINT then
      some (reply input (s.credits account + amount), if input.writes then s.grant account amount else s)
    else some (.error unexpected, s)
  | .insertDelivery paymentTx record, input, s =>
    if s.admits paymentTx record then some (reply input ⟨⟩, if input.writes then s.insert paymentTx record else s)
    -- `on conflict (payment_tx) do nothing`; a conflict on the primary key alone is an error.
    else if (s.delivery paymentTx).isSome then some (reply input ⟨⟩, s)
    else some (.error unexpected, s)

def signalDesk (desk : Merchant) : Host Request Store Op Failure Op.Answer Response Input Empty where
  body := handle desk
  serve := serve
  outside k := nomatch k
  restart := id

def opened : Store := ⟨[], fun _ => 0⟩

end AgentPey.SignalDesk
