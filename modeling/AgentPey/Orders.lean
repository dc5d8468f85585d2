import AgentPey.CheckoutSessions

/-!
The orders of a store: what a purchase costs (`quoteCheckout`, `purchaseQuote`), the record of a paid order and
its receipt claims (`checkout.ts`), and the `OrderStore` that keeps the records (`orders.ts`).
-/
namespace AgentPey.Orders
open Receipts CheckoutSessions

/-- What a storefront is set up with: its own settings, and those of its platform adapter. -/
structure GatewayConfig where
  merchantName : String
  merchantAccount : String
  signingAccount : String
  signingSecret : String
  escrowId : Option String
  refundWindowSeconds : Nat
  shippingCountries : List String
  maxTimeoutSeconds : Nat
  fx : FxRate
  receiptRegistryId : String
  requireAp2 : Bool
  allowedPlatforms : List String
  adapterName : String
  recordsBuyerConsent : Bool

/-- Where a payment goes: the escrow when the store has one, its payout account otherwise. -/
def payToOf (config : GatewayConfig) : String := config.escrowId.getD config.merchantAccount

/-- A product as the store's platform has it. No stock: the platform does not track it. -/
structure Product where
  id : String
  sku : String
  name : String
  priceLocal : String
  currency : String
  stock : Option Nat
  deriving DecidableEq, Repr

structure ShippingAddress where
  name : Option String
  address : Option String
  city : Option String
  region : Option String
  country : String
  notes : Option String
  deriving DecidableEq, Repr

structure Buyer where
  stellarAccount : String
  email : Option String
  shipping : Option ShippingAddress
  consent : Option BuyerConsent

/-- Who buys and where it goes. -/
structure CheckoutBody where
  quantity : Nat
  stellarAccount : Option String
  email : Option String
  shipping : Option ShippingAddress
  deriving DecidableEq, Repr

/-! ### Quotes -/

structure CheckoutQuote where
  product : Product
  quantity : Nat
  unitAtomic : Nat
  totalAtomic : Nat
  totalLocal : String
  deriving DecidableEq, Repr

structure PurchaseQuote where
  lines : List CheckoutQuote
  totalAtomic : Nat
  totalLocal : String
  currency : String
  deriving DecidableEq, Repr

/-- What is left of a product's stock besides the units already held; untracked stock has no end. -/
def available (product : Product) (reserved : Nat) : Option Int := product.stock.map fun stock => stock - reserved

/-- `quoteCheckout` once the platform has answered with the product. -/
def priceCheckout (config : GatewayConfig) (productId : String) (quantity reserved : Nat) :
    Option Product → Except Failure CheckoutQuote
  | none => .error (.vitrinee .productNotFound ("no product with id \"" ++ productId ++ "\""))
  | some product => do
    if (available product reserved).any fun left => decide (left < (quantity : Int)) then
      throw (.vitrinee .outOfStock ("only " ++ toString (max ((available product reserved).getD 0) 0) ++ " left of \"" ++
        product.name ++ "\""))
    let unitAtomic ← localToUsdcAtomic product.priceLocal product.currency config.fx
    let totalAtomic ← timesQuantity unitAtomic quantity
    let decimals ← currencyDecimals product.currency
    let unit ← parseDecimal product.priceLocal decimals
    pure ⟨product, quantity, unitAtomic, totalAtomic, formatUnits (unit * quantity) decimals⟩

def addLines (currency : String) (decimals : Nat) : List CheckoutQuote → Except Failure (Nat × Nat)
  | [] => .ok (0, 0)
  | line :: rest => do
    if line.product.currency ≠ currency then
      throw (.vitrinee .validationError "every line of a purchase must be priced in the same currency")
    let amount ← parseDecimal line.totalLocal decimals
    let (totalAtomic, totalLocal) ← addLines currency decimals rest
    pure (line.totalAtomic + totalAtomic, amount + totalLocal)

def purchaseQuote (lines : List CheckoutQuote) : Except Failure PurchaseQuote :=
  match lines with
  | [] => .error (.vitrinee .validationError "a purchase needs at least one line")
  | first :: _ => do
    let currency := first.product.currency
    let decimals ← currencyDecimals currency
    let (totalAtomic, totalLocal) ← addLines currency decimals lines
    pure ⟨lines, totalAtomic, formatUnits totalLocal decimals, currency⟩

/-! ### Records -/

inductive OrderStatus where
  | paid | paidUnfulfilled
  deriving DecidableEq, Repr

structure OrderItem where
  productId : String
  sku : String
  name : String
  quantity : Nat
  unitPriceUSDCAtomic : Nat
  unitPriceLocal : String
  deriving DecidableEq, Repr

structure OrderSettlement where
  txHash : String
  network : String
  payer : String
  payTo : String
  asset : String
  amountAtomic : Nat
  explorerUrl : String
  settledAt : Int
  deriving DecidableEq, Repr

/-- What waits to be written on chain for an order: its anchor in the receipt registry, its hold in the escrow. -/
structure PendingWrite where
  attempts : Nat
  contract : String
  deriving DecidableEq, Repr

structure OrderRecord where
  orderId : String
  status : OrderStatus
  createdAt : Int
  idempotencyKey : Option String
  items : List OrderItem
  amountUSDCAtomic : Nat
  amountUSDC : String
  totalLocal : String
  currency : String
  buyer : Buyer
  settlement : OrderSettlement
  platform : String
  platformOrderId : Option String
  platformError : Option String
  receipt : Option Receipt
  anchor : Option PendingWrite
  hold : Option PendingWrite
  ucpCheckoutId : Option String

/-- Where order ids come from: the clock and random bytes, which never give one twice. -/
structure OrderIds where
  newOrderId : Nat → String
  fresh : Function.Injective newOrderId

def stellarExpertTxUrl (txHash : String) : String := "https://stellar.expert/explorer/testnet/tx/" ++ txHash

def buildReceiptClaims (record : OrderRecord) (config : GatewayConfig) (issuedAt : Int) : ReceiptClaims where
  typ := RECEIPT_TYPE
  orderId := record.orderId
  platformOrderId := record.platformOrderId
  platform := record.platform
  merchantDid := "did:stellar:testnet:" ++ config.signingAccount
  merchantAccount := config.merchantAccount
  payerAccount := record.settlement.payer
  network := STELLAR_TESTNET_CAIP2
  asset := record.settlement.asset
  amountUSDC := record.amountUSDC
  amountUSDCAtomic := record.amountUSDCAtomic
  settlementTxHash := record.settlement.txHash
  items := record.items.map fun item =>
    ⟨item.productId, item.sku, item.name, item.quantity, usdcAtomicToDecimal item.unitPriceUSDCAtomic,
      item.unitPriceUSDCAtomic⟩
  issuedAt := issuedAt
  refundWindowEndsAt := issuedAt + config.refundWindowSeconds * 1000
  escrow := config.escrowId

/-- A purchase whose money has moved. -/
structure PaidPurchase where
  quote : PurchaseQuote
  body : CheckoutBody
  idempotencyKey : Option String
  settlement : Settlement
  payer : String
  ucpCheckoutId : Option String
  consent : Option BuyerConsent

def BuyerConsent.given (consent : BuyerConsent) : Bool := CONSENT_PURPOSES.any fun purpose => (consent purpose).isSome

def buyerOf (purchase : PaidPurchase) : Buyer where
  stellarAccount := purchase.payer
  email := purchase.body.email
  shipping := purchase.body.shipping
  consent := purchase.consent.filter BuyerConsent.given

/-- The record of a paid purchase before the platform has taken its order. -/
def newRecord (config : GatewayConfig) (purchase : PaidPurchase) (orderId : String) (now : Int) : OrderRecord where
  orderId := orderId
  status := .paid
  createdAt := now
  idempotencyKey := purchase.idempotencyKey
  items := purchase.quote.lines.map fun line =>
    ⟨line.product.id, line.product.sku, line.product.name, line.quantity, line.unitAtomic, line.product.priceLocal⟩
  amountUSDCAtomic := purchase.settlement.amountAtomic
  amountUSDC := usdcAtomicToDecimal purchase.settlement.amountAtomic
  totalLocal := purchase.quote.totalLocal
  currency := purchase.quote.currency
  buyer := buyerOf purchase
  settlement :=
    { txHash := purchase.settlement.txHash
      network := purchase.settlement.network
      payer := purchase.payer
      payTo := purchase.settlement.payTo
      asset := purchase.settlement.asset
      amountAtomic := purchase.settlement.amountAtomic
      explorerUrl := stellarExpertTxUrl purchase.settlement.txHash
      settledAt := purchase.settlement.settledAt }
  platform := config.adapterName
  platformOrderId := none
  platformError := none
  receipt := none
  anchor := none
  hold := none
  ucpCheckoutId := purchase.ucpCheckoutId

def OrderRecord.placed (record : OrderRecord) : Except Failure String → OrderRecord
  | .ok platformOrderId => { record with platformOrderId := some platformOrderId }
  | .error e => { record with status := .paidUnfulfilled, platformError := some e.message }

def OrderRecord.receipted (config : GatewayConfig) (record : OrderRecord) (receipt : Receipt) : OrderRecord :=
  { record with
    receipt := some receipt
    anchor := some ⟨0, config.receiptRegistryId⟩
    hold := config.escrowId.map fun escrow => ⟨0, escrow⟩ }

structure OrderLine where
  productId : String
  quantity : Nat
  deriving DecidableEq, Repr

structure CreateOrderInput where
  lines : List OrderLine
  buyer : Buyer
  reference : String
  txHash : String
  network : String
  asset : String
  amountUSDCAtomic : Nat
  payerAccount : String

/-- What `createPaidOrder` asks of the platform. -/
def orderInput (purchase : PaidPurchase) (orderId : String) : CreateOrderInput where
  lines := purchase.quote.lines.map fun line => ⟨line.product.id, line.quantity⟩
  buyer := buyerOf purchase
  reference := orderId
  txHash := purchase.settlement.txHash
  network := purchase.settlement.network
  asset := purchase.settlement.asset
  amountUSDCAtomic := purchase.settlement.amountAtomic
  payerAccount := purchase.payer

/-! ### The order store -/

/-- `Map.set`: in its place when the id is there, at the end otherwise. -/
def setOrder (orders : List OrderRecord) (order : OrderRecord) : List OrderRecord :=
  if orders.any (·.orderId = order.orderId) then orders.map fun o => if o.orderId = order.orderId then order else o
  else orders ++ [order]

def getOrder (orders : List OrderRecord) (orderId : String) : Option OrderRecord := orders.find? (·.orderId = orderId)

def findByIdempotencyKey (orders : List OrderRecord) (key : String) : Option OrderRecord :=
  orders.find? (·.idempotencyKey = some key)

def findBySettlementTx (orders : List OrderRecord) (txHash : String) : Option OrderRecord :=
  orders.find? (·.settlement.txHash = txHash)

end AgentPey.Orders
