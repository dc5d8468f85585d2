import AgentPey.Gateway

/-!
A settled payment becomes an order (`fulfilPaidPurchase` in `checkout.ts`): the platform takes the order, the receipt
is signed, the record is stored. A settlement that already has an order is answered with that order, and one whose
order is being made waits for it.
-/
namespace AgentPey.PaidOrders
open Receipts CheckoutSessions Orders Routines Gateway

/-- `OrderStore.put`: in memory at once, in the database after the writes before it. -/
def put (order : OrderRecord) : Gate PUnit := do
  let turn ← Routine.atomic fun s =>
    (s.memory.writing, { s with memory :=
      { s.memory with orders := setOrder s.memory.orders order, writing := s.memory.writing + 1 } })
  ask (.saveOrder turn order)

/-- An order handed back for a settlement that has one is written again. -/
def keepReplayed (record : OrderRecord) : Gate OrderRecord := do
  put record
  pure record

def drawOrder (deps : Deps) : Gate (String × Int) :=
  Routine.atomic fun s => ((deps.orderIds.newOrderId s.ordersDrawn, s.now), { s with ordersDrawn := s.ordersDrawn + 1 })

def unaccounted (reason : String) : Failure :=
  .vitrinee .settlementUnaccounted ("payment settled but it cannot back a receipt: " ++ reason)

def signed (deps : Deps) (record : OrderRecord) (issuedAt : Int) : Except Failure OrderRecord := do
  let receipt ← signReceipt deps.crypto (buildReceiptClaims record deps.config issuedAt) deps.config.signingSecret
  pure (record.receipted deps.config receipt)

def createPaidOrder (deps : Deps) (purchase : PaidPurchase) : Gate OrderRecord := do
  let (orderId, createdAt) ← drawOrder deps
  let record := newRecord deps.config purchase orderId createdAt
  match receiptIncoherence (buildReceiptClaims record deps.config createdAt) with
  | some incoherence => Routine.throws (unaccounted incoherence)
  | none =>
    -- A platform that fails once the money has moved does not fail the purchase.
    let answer ← (ask (.createOrder (orderInput purchase orderId))).attempt
    let issuedAt ← now
    let issued ← liftM (signed deps (record.placed answer) issuedAt)
    put issued
    pure issued

/-- What a settlement finds: its order, the promise of the order another request is making, or nothing, and then its
    own promise. -/
inductive Found where
  | duplicate (record : OrderRecord)
  | running (promise : Nat)
  | free (promise : Nat)

def inFlightKey (deps : Deps) (txHash : String) : String := deps.config.signingAccount ++ ":" ++ txHash

def lookup (deps : Deps) (txHash : String) (s : Storefront) : Found × Storefront :=
  match findBySettlementTx s.memory.orders txHash with
  | some record => (.duplicate record, s)
  | none =>
    match s.ordersInFlight (inFlightKey deps txHash) with
    | some promise => (.running promise, s)
    | none =>
      (.free s.promises.length,
        { s with
          ordersInFlight := Function.update s.ordersInFlight (inFlightKey deps txHash) (some s.promises.length)
          promises := s.promises ++ [none] })

def settlePromise (promise : Nat) (result : Except Failure OrderRecord) (s : Storefront) : Storefront :=
  { s with promises := s.promises.set promise (some result) }

def forget (deps : Deps) (txHash : String) (s : Storefront) : Storefront :=
  { s with ordersInFlight := Function.update s.ordersInFlight (inFlightKey deps txHash) none }

/-- The order of a settled payment, and whether it was there before. -/
def fulfilPaidPurchase (deps : Deps) (purchase : PaidPurchase) : Gate (OrderRecord × Bool) := do
  let txHash := purchase.settlement.txHash
  let found ← Routine.atomic (lookup deps txHash)
  match found with
  | .duplicate record =>
    let record ← keepReplayed record
    pure (record, true)
  | .running promise =>
    let record ← ask (.orderInFlight promise)
    let record ← keepReplayed record
    pure (record, true)
  | .free promise =>
    let result ← (createPaidOrder deps purchase).attempt
    Routine.modify (settlePromise promise result)
    let record ← (ask (.orderInFlight promise)).finally_ (forget deps txHash)
    pure (record, false)

end AgentPey.PaidOrders
