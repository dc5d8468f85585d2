import AgentPey.UcpCheckout

/-!
The x402 checkout of a storefront (`checkout.ts`): a request for one product passes the preflight, is charged up
front by the x402 middleware, and its settled payment becomes an order. A request whose path, body or idempotency key
does not parse runs nothing of this.
-/
namespace AgentPey.X402Checkout
open Receipts CheckoutSessions Orders Routines Gateway PaidOrders

/-- A checkout of one product. A request that pays carries the transaction its payer signed; `""` when its header has
    none that can be read. -/
structure CheckoutRequest where
  productId : String
  body : CheckoutBody
  idempotencyKey : Option String
  payment : Option String

inductive Reply where
  | order (record : OrderRecord) (replayed : Bool)
  | paymentRequired

variable (deps : Deps)

/-! ### Preflight -/

/-- Whether an order is the one the request asks for again. -/
def CheckoutRequest.repeats (req : CheckoutRequest) (existing : OrderRecord) : Bool :=
  match existing.items with
  | [only] => only.productId = req.productId && only.quantity = req.body.quantity
  | _ => false

def CheckoutRequest.existing (req : CheckoutRequest) (s : Storefront) : Option OrderRecord :=
  req.idempotencyKey.bind (findByIdempotencyKey s.memory.orders)

def idempotencyConflict (content : String) : Failure := .vitrinee .idempotencyConflict content

def replay (req : CheckoutRequest) (existing : OrderRecord) : Except Failure Reply :=
  if req.repeats existing then .ok (.order existing true)
  else .error (idempotencyConflict "this Idempotency-Key was already used for a different purchase")

/-- The key of a paying request is in flight from here on, and its units are held; or neither. -/
def hold (req : CheckoutRequest) (stock : Option Nat) (name : String) (s : Storefront) : Except Failure Hold × Storefront :=
  if req.idempotencyKey.any (· ∈ s.memory.inFlight) then
    (.error (idempotencyConflict "a payment with this Idempotency-Key is already being processed"), s)
  else
    match s.memory.held.tryReserve ⟨req.productId, req.body.quantity, stock⟩ with
    | none => (.error (.vitrinee .outOfStock ("the last units of \"" ++ name ++ "\" are being bought right now")), s)
    | some more =>
      let hold : Hold := ⟨s.tickets, [⟨req.productId, req.body.quantity, stock⟩], true, req.idempotencyKey⟩
      (.ok hold, { s with
        tickets := s.tickets + 1
        memory := { s.memory with
          held := more
          holds := s.memory.holds ++ [hold]
          inFlight := req.idempotencyKey.toList ++ s.memory.inFlight } })

/-! ### The middleware -/

/-- The price asked for, with what may be paid for it. -/
def requirementsFor (req : CheckoutRequest) : Gate (CheckoutQuote × StoredRequirements) := do
  let quote ← UcpCheckout.quoteCheckout deps req.productId req.body.quantity 0
  ask .ready
  let built ← ask (.buildPaymentRequirements (payToOf deps.config) quote.totalAtomic deps.config.maxTimeoutSeconds)
  match built with
  | none => Routine.throws (.vitrinee .paymentError "the facilitator offers no way to pay on stellar:testnet")
  | some requirements => pure (quote, requirements)

/-- Whether the payment has settled. The facilitator verifies it first, against the requirements it was signed for. -/
def settleUpfront (req : CheckoutRequest) (transaction : String) (held : Hold) : Gate Bool := do
  let (quote, _) ← requirementsFor deps req
  let verified ← ask (.verifyPayment quote.totalAtomic transaction)
  match verified with
  | none => pure false
  | some requirements =>
    let response ← ask (.settlePayment requirements transaction held none)
    pure response.success

/-- A request that does not pay is told the price. -/
def quoted (req : CheckoutRequest) : Gate Reply := do
  let _ ← requirementsFor deps req
  let _ ← UcpCheckout.quoteCheckout deps req.productId req.body.quantity 0
  pure .paymentRequired

/-! ### The handler -/

/-- The settlement of a signed transaction, picked up from the ledger, with the order it may already have. -/
def pickUp (transaction : String) (s : Storefront) : Option (Settlement × Option OrderRecord) × Storefront :=
  if transaction = "" then (none, s)
  else
    match UcpCheckout.ledgerTake transaction s with
    | (none, s) => (none, s)
    | (some settlement, s) => (some (settlement, findBySettlementTx s.memory.orders settlement.txHash), s)

def payerOf (req : CheckoutRequest) (transaction : String) (settlement : Settlement) (duplicate : Option OrderRecord) :
    Option String :=
  duplicate.map (·.settlement.payer) <|> settlement.payer <|> deps.crypto.payerFromTransactionXdr transaction <|>
    req.body.stellarAccount

def purchaseOf (req : CheckoutRequest) (quote : PurchaseQuote) (settlement : Settlement) (payer : String) : PaidPurchase where
  quote := quote
  body := req.body
  idempotencyKey := req.idempotencyKey
  settlement := settlement
  payer := payer
  ucpCheckoutId := none
  consent := none

def unaccounted (content : String) : Failure := .vitrinee .settlementUnaccounted content

/-- The purchase that a settlement pays for. -/
def paidPurchase (req : CheckoutRequest) (quote : CheckoutQuote) (transaction : String) :
    Option (Settlement × Option OrderRecord) → Except Failure PaidPurchase
  | none => .error (unaccounted "payment settled but no settlement record was found for this request")
  | some (settlement, duplicate) =>
    match payerOf deps req transaction settlement duplicate with
    | none => .error (unaccounted "payment settled but the payer account could not be determined")
    | some payer => do
      let quote ← purchaseQuote [quote]
      pure (purchaseOf req quote settlement payer)

def completeCheckout (req : CheckoutRequest) (quote : CheckoutQuote) (transaction : String) : Gate Reply := do
  let picked ← Routine.atomic (pickUp transaction)
  let purchase ← liftM (paidPurchase deps req quote transaction picked)
  let (record, replayed) ← fulfilPaidPurchase deps purchase
  pure (.order record replayed)

/-! ### The route -/

def charged (req : CheckoutRequest) (quote : CheckoutQuote) (transaction : String) (held : Hold) : Gate Reply := do
  let settled ← settleUpfront deps req transaction held
  if settled then completeCheckout deps req quote transaction else pure .paymentRequired

/-- What follows the preflight. A paying request gives up its hold and its key when its response is over. -/
def checkout (req : CheckoutRequest) (quote : CheckoutQuote) : Gate Reply :=
  match req.payment with
  | none => quoted deps req
  | some transaction => do
    let taken ← Routine.atomic (hold req quote.product.stock quote.product.name)
    match taken with
    | .error e => Routine.throws e
    | .ok held => (charged deps req quote transaction held).finally_ (releaseHold held.ticket)

/-- A repeated idempotency key is answered with the order it has; anything else is quoted first. -/
def route (req : CheckoutRequest) : Gate Reply := do
  let s ← Routine.read
  match req.existing s with
  | some existing => liftM (replay req existing)
  | none =>
    let quote ← UcpCheckout.quoteCheckout deps req.productId req.body.quantity (s.memory.held req.productId)
    checkout deps req quote

def host : Host CheckoutRequest Storefront Op Failure Op.Answer Reply Input Outside where
  body := route deps
  serve := serve
  outside := outside
  restart := restart

/-! ### Buying one tea -/

def buyTea (key : Option String) (transaction : String) : CheckoutRequest where
  productId := "tea"
  body := ⟨1, none, none, none⟩
  idempotencyKey := key
  payment := some transaction

def goOn (i : Nat) : Nat → List (Action CheckoutRequest Input Outside)
  | 0 => []
  | n + 1 => .perform i answered :: .resume i :: goOn i n

end AgentPey.X402Checkout
