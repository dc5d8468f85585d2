import AgentPey.Orders
import AgentPey.Routines

/-!
A storefront as one process runs it. `Storefront` is everything a request can reach: what the process keeps in memory,
the database, and the store's platform. `Op` is everything a request waits for, and `serve` what each answer does
when it comes: a write that throws may have been made, the facilitator and the platform answer as they like.
-/
namespace AgentPey.Gateway
open Receipts CheckoutSessions Orders Routines

/-- What surrounds the code: its settings, the libraries it calls, and its random ids. -/
structure Deps where
  config : GatewayConfig
  crypto : Crypto
  sessionIds : SessionIds
  orderIds : OrderIds
  originOf : String → String
  isDeliverableUrl : String → Bool

/-! ### Reservations -/

/-- The units of one product in a purchase, and the stock it was quoted from. -/
structure HeldUnits where
  productId : String
  quantity : Nat
  stock : Option Nat
  deriving DecidableEq, Repr

/-- Units held for a purchase until it releases them. A purchase of the x402 checkout releases them when its response
    is over, and with them its idempotency key. -/
structure Hold where
  ticket : Nat
  units : List HeldUnits
  x402 : Bool
  key : Option String
  deriving DecidableEq, Repr

/-- `Reservations.held`. -/
abbrev Held := String → Nat

def Held.tryReserve (held : Held) (request : HeldUnits) : Option Held :=
  if request.stock.any fun stock => decide ((stock : Int) - held request.productId < request.quantity) then none
  else some (Function.update held request.productId (held request.productId + request.quantity))

def Held.release (held : Held) (request : HeldUnits) : Held :=
  Function.update held request.productId (held request.productId - request.quantity)

def Held.releaseAll (held : Held) (requests : List HeldUnits) : Held := requests.foldl Held.release held

/-- All requests or none: the product that could not be held, or what is held then. -/
def Held.tryReserveAll (held : Held) : List HeldUnits → Except String Held
  | [] => .ok held
  | request :: rest =>
    match held.tryReserve request with
    | none => .error request.productId
    | some more => Held.tryReserveAll more rest

/-! ### The state -/

/-- What one app keeps in memory: the locks and keys in flight, the units held, its copy of the orders with the number
    of writes begun and over, and the settlements its handlers have not picked up yet. -/
structure Memory where
  inFlight : List String
  held : Held
  holds : List Hold
  orders : List OrderRecord
  writing : Nat
  written : Nat
  ledger : List (String × Settlement × Int)

/-- The memory of an app that has just been created over these orders. -/
def Memory.opened (orders : List OrderRecord) : Memory where
  inFlight := []
  held := fun _ => 0
  holds := []
  orders := orders
  writing := 0
  written := 0
  ledger := []

/-- The store's platform: its catalogue, its stock, and the orders it has taken. -/
structure Platform where
  products : String → Option Product
  stock : String → Option Nat
  orders : List CreateOrderInput

/-- What the apps of one store share: the clock, the platform and the database, and in the process the orders in flight
    with their promises, and the numbers of what was drawn. -/
structure Commons where
  now : Int
  platform : Platform
  sessions : String → Option CheckoutSession
  sessionsDrawn : Nat
  orderRows : List OrderRecord
  ordersDrawn : Nat
  ordersInFlight : String → Option Nat
  promises : List (Option (Except Failure OrderRecord))
  tickets : Nat

structure Storefront extends Commons where
  memory : Memory

def opened (now : Int) (platform : Platform) : Storefront where
  now := now
  platform := platform
  sessions := fun _ => none
  sessionsDrawn := 0
  orderRows := []
  ordersDrawn := 0
  ordersInFlight := fun _ => none
  promises := []
  tickets := 0
  memory := .opened []

def Platform.getProduct (platform : Platform) (id : String) : Option Product :=
  (platform.products id).map fun product => { product with id := id, stock := platform.stock id }

def unitsOf (id : String) (lines : List OrderLine) : Nat :=
  ((lines.filter (·.productId = id)).map OrderLine.quantity).sum

def Platform.take (platform : Platform) (input : CreateOrderInput) : Platform :=
  { platform with
    stock := fun id => (platform.stock id).map fun stock => stock - unitsOf id input.lines
    orders := platform.orders ++ [input] }

/-! ### What is waited for -/

structure SettleResponse where
  success : Bool
  transaction : String
  network : String
  payer : Option String
  errorReason : Option String
  deriving DecidableEq, Repr

/-- A settlement is asked for under a hold; the hold is written beside it for the statements alone, and so is the
    checkout session, if it is one's. -/
inductive Op where
  | getSession (id : String)
  | saveSession (session : CheckoutSession)
  | getProduct (productId : String)
  | ready
  | buildPaymentRequirements (payTo : String) (amount maxTimeoutSeconds : Nat)
  | signMerchantAuthorization
  | verifyCheckoutMandate (mandate : String)
  | verifyPayment (amount : Nat) (transaction : String)
  | settlePayment (requirements : StoredRequirements) (transaction : String) (hold : Hold) (checkoutId : Option String)
  | createOrder (input : CreateOrderInput)
  | saveOrder (turn : Nat) (order : OrderRecord)
  | orderInFlight (promise : Nat)
  | attachWebhook (orderId : String) (target : WebhookTarget)

abbrev Op.Answer : Op → Type
  | .getSession _ => Option CheckoutSession
  | .saveSession _ => PUnit
  | .getProduct _ => Option Product
  | .ready => PUnit
  | .buildPaymentRequirements .. => Option StoredRequirements
  | .signMerchantAuthorization => PUnit
  | .verifyCheckoutMandate _ => Option (String × String)
  | .verifyPayment .. => Option StoredRequirements
  | .settlePayment .. => SettleResponse
  | .createOrder _ => String
  | .saveOrder .. => PUnit
  | .orderInFlight _ => OrderRecord
  | .attachWebhook .. => PUnit

/-- What the outside puts into an answer. A write that throws may have been made all the same. -/
structure Input where
  failure : Option Failure
  lands : Bool
  requirements : Option StoredRequirements
  mandateRefusal : Option (String × String)
  settled : SettleResponse
  platformOrderId : String

/-- A read, or a call without an effect here. -/
def answerWith {α : Type} (input : Input) (answer : α) (s : Storefront) : Option (Except Failure α × Storefront) :=
  match input.failure with
  | some e => some (.error e, s)
  | none => some (.ok answer, s)

/-- A write, made when it answers and perhaps when it throws. -/
def answerWrite {α : Type} (input : Input) (answer : α) (write : Storefront → Storefront) (s : Storefront) :
    Option (Except Failure α × Storefront) :=
  match input.failure with
  | some e => some (.error e, if input.lands then write s else s)
  | none => some (.ok answer, write s)

variable {input : Input}

theorem answerWith_ok {α : Type} {value : α} {s s' : Storefront} {answer : Except Failure α}
    (served : answerWith input value s = some (answer, s')) : s' = s ∧ ∀ found, answer = .ok found → found = value := by
  unfold answerWith at served
  split at served
  · cases served
    exact ⟨rfl, fun found impossible => by cases impossible⟩
  · cases served
    exact ⟨rfl, fun found same => by cases same; rfl⟩

theorem answerWrite_ok {α : Type} {value : α} {write : Storefront → Storefront} {s s' : Storefront} {answer : Except Failure α}
    (served : answerWrite input value write s = some (answer, s')) : s' = write s ∨ (s' = s ∧ ∃ e, answer = .error e) := by
  unfold answerWrite at served
  split at served
  · cases served
    by_cases lands : input.lands
    · exact .inl (if_pos lands)
    · exact .inr ⟨if_neg lands, _, rfl⟩
  · cases served
    exact .inl rfl

def storeSession (session : CheckoutSession) (s : Storefront) : Storefront :=
  { s with sessions := Function.update s.sessions session.id (some session) }

def storeOrder (order : OrderRecord) (s : Storefront) : Storefront := { s with orderRows := setOrder s.orderRows order }

def takeOrder (input : CreateOrderInput) (s : Storefront) : Storefront := { s with platform := s.platform.take input }

def writeOver (s : Storefront) : Storefront := { s with memory := { s.memory with written := s.memory.written + 1 } }

def LEDGER_TTL_MS : Int := 15 * 60000

/-- `SettlementLedger.put`. -/
def ledgerPut (key : String) (settlement : Settlement) (s : Storefront) : Storefront :=
  let kept := s.memory.ledger.filter fun entry => decide (s.now - LEDGER_TTL_MS ≤ entry.2.2) && entry.1 ≠ key
  { s with memory := { s.memory with ledger := kept ++ [(key, settlement, s.now)] } }

/-- The hook after a settlement: a successful one is filed under the transaction the payer signed. -/
def onAfterSettle (requirements : StoredRequirements) (transaction : String) (response : SettleResponse) (s : Storefront) :
    Storefront :=
  if response.success ∧ transaction ≠ "" then
    ledgerPut transaction
      { txHash := response.transaction
        network := response.network
        payer := response.payer
        payTo := requirements.payTo
        asset := requirements.asset
        amountAtomic := requirements.amount
        settledAt := s.now } s
  else s

def serve : (o : Op) → Input → Storefront → Option (Except Failure o.Answer × Storefront)
  | .getSession id, input, s => answerWith input (s.sessions id) s
  | .saveSession session, input, s => answerWrite input ⟨⟩ (storeSession session) s
  | .getProduct id, input, s => answerWith input (s.platform.getProduct id) s
  | .ready, input, s => answerWith input ⟨⟩ s
  | .buildPaymentRequirements .., input, s => answerWith input input.requirements s
  | .signMerchantAuthorization, input, s => answerWith input ⟨⟩ s
  | .verifyCheckoutMandate _, input, s => answerWith input input.mandateRefusal s
  | .verifyPayment .., input, s => answerWith input input.requirements s
  | .settlePayment requirements transaction .., input, s =>
    match input.failure with
    | some e => some (.error e, s)
    | none => some (.ok input.settled, onAfterSettle requirements transaction input.settled s)
  | .createOrder order, input, s => answerWrite input input.platformOrderId (takeOrder order) s
  -- The writes of an order store reach the database one at a time, in their order.
  | .saveOrder turn order, input, s =>
    if turn = s.memory.written then answerWrite input ⟨⟩ (storeOrder order) (writeOver s) else none
  | .orderInFlight p, _, s =>
    match s.promises[p]? with
    | some (some result) => some (result, s)
    | _ => none
  | .attachWebhook .., input, s => answerWith input ⟨⟩ s

/-! ### What else may happen -/

def releaseHold (ticket : Nat) (s : Storefront) : Storefront :=
  match s.memory.holds.find? (·.ticket = ticket) with
  | none => s
  | some hold =>
    { s with memory :=
        { s.memory with
          held := s.memory.held.releaseAll hold.units
          holds := s.memory.holds.filter (·.ticket ≠ ticket)
          inFlight := s.memory.inFlight.filter fun key => some key ≠ hold.key } }

/-- The clock moves; the owner edits a product, or counts its stock; the connection of an x402 purchase closes. -/
inductive Outside where
  | clock (now : Int)
  | catalogue (id : String) (product : Option Product)
  | restock (id : String) (stock : Option Nat)
  | close (ticket : Nat)

def outside : Outside → Storefront → Storefront
  | .clock now, s => { s with now := now }
  | .catalogue id product, s =>
    { s with platform := { s.platform with products := Function.update s.platform.products id product } }
  | .restock id stock, s => { s with platform := { s.platform with stock := Function.update s.platform.stock id stock } }
  | .close ticket, s =>
    if s.memory.holds.any fun hold => hold.ticket = ticket && hold.x402 then releaseHold ticket s else s

/-- A crash, and the process that starts after it: the database and the platform are as they were, and the orders are
    read again. -/
def restart (s : Storefront) : Storefront :=
  { s with ordersInFlight := fun _ => none, memory := .opened s.orderRows }

/-! ### Routines of the gateway -/

abbrev Gate := Routine Storefront Op Failure Op.Answer

abbrev ask (o : Op) : Gate o.Answer := Routine.ask o

def now : Gate Int := do
  let s ← Routine.read
  pure s.now

def setMemory (f : Memory → Memory) : Gate PUnit := Routine.modify fun s => { s with memory := f s.memory }

/-! ### A tea shop -/

theorem numbered_injective (stem : String) :
    Function.Injective fun n => stem ++ String.ofList (List.replicate (n + 1) '0') := by
  intro n k same
  have tails := (String.append_right_inj stem).mp same
  have lengths := congrArg (fun text : String => text.toList.length) tails
  simpa using lengths

def teaShop : Deps where
  config :=
    { merchantName := "tea"
      merchantAccount := "GUJZDEGXDNCF32EPF3DHODZDOCIS2JHTLGMXGEDN73U55XTPLPFT7V4S"
      signingAccount := "GUJZDEGXDNCF32EPF3DHODZDOCIS2JHTLGMXGEDN73U55XTPLPFT7V4S"
      signingSecret := "secret"
      escrowId := none
      refundWindowSeconds := 604800
      shippingCountries := ["CL"]
      maxTimeoutSeconds := 300
      fx := ⟨"CLP", "1000"⟩
      receiptRegistryId := "registry"
      requireAp2 := false
      allowedPlatforms := []
      adapterName := "jumpseller"
      recordsBuyerConsent := false }
  crypto := ⟨fun _ => true, fun _ => true, fun _ _ => "jws", fun _ => "digest", fun _ => none⟩
  sessionIds := ⟨_, numbered_injective "cs_"⟩
  orderIds := ⟨_, numbered_injective "ord_"⟩
  originOf := id
  isDeliverableUrl _ := false

def teaPlatform (stock : Nat) : Platform where
  products _ := some ⟨"tea", "TEA-1", "Green tea", "1000", "CLP", none⟩
  stock _ := some stock
  orders := []

def teaRequirements : StoredRequirements where
  scheme := "exact"
  network := STELLAR_TESTNET_CAIP2
  asset := USDC_CONTRACT
  amount := 10000000
  payTo := teaShop.config.merchantAccount
  maxTimeoutSeconds := 300

def teaTx : String := "4770f58904dba41ecccc3fc1626e53a13043b026c48bbf33feff9243a8f506b4"

def answered : Input where
  failure := none
  lands := true
  requirements := some teaRequirements
  mandateRefusal := none
  settled := ⟨true, teaTx, STELLAR_TESTNET_CAIP2, some "GEH2KVJ72CEUVW75EFR6EDT4SYWB5WKH7DNSIPZZ7FK4ZRI3R2WYOJFL", none⟩
  platformOrderId := "7001"

end AgentPey.Gateway
