import AgentPey.DisputeResponses
import AgentPey.EscrowReads

/-!
The dispute routes of a store's gateway (`vitrinee-gateway/src/disputes.ts`): a buyer's claim is kept with its order, and the
merchant's answer is prepared, sent and kept. Any number of requests are served at once, while anybody calls the escrow. An
order lives in memory and in what was saved of it; a restart leaves what was saved.
-/
namespace AgentPey.Disputes
open JsonNumbers JsonValues JsonTexts JsonSchemas TextLines Utf8 WalletSign DisputeResponses
open Routines (Routine)
open Soroban (BytesN)
open PurchaseEscrow (Host World)
open EscrowEvents (EscrowStatus)
open EscrowReads (EscrowPurchase)

/-! ### Orders -/

/-- A signed receipt: its hash, and of its claims the payout account. -/
structure OrderReceipt where
  hash : Text
  claims : ReceiptClaims

structure OrderResponse where
  document : Value
  hash : Text
  transaction : Option Text

structure OrderDisputeDocuments where
  claimJws : Option Text
  response : Option OrderResponse

/-- Of an order, what disputes are about: no receipt when it was paid and not fulfilled, and the escrow that holds it. -/
structure OrderRecord where
  receipt : Option OrderReceipt
  hold : Option Text
  dispute : Option OrderDisputeDocuments

def OrderRecord.documents (order : OrderRecord) : OrderDisputeDocuments := order.dispute.getD ⟨none, none⟩

/-! ### Transactions -/

inductive Native where
  | bytes (b : Bytes)
  | other

structure ContractCall where
  /-- The address, unless it cannot be read. -/
  contractAddress : Option Text
  functionName : Text
  /-- The arguments, unless one cannot be read. -/
  args : Option (List Native)

structure Operation where
  source : Option Text
  /-- Of each authorisation, whether it is the source account's. -/
  auth : List Bool
  /-- The call, of an `invokeHostFunction` that is one. -/
  invokeContract : Option ContractCall

inductive Envelope where
  | feeBump
  | transaction (source : Text) (fee : ℕ) (hash : Text) (operations : List Operation)

structure EscrowCall where
  source : Text
  feeStroops : ℕ
  hash : Text
  contract : Text
  fn : Text
  args : List Native

structure StoreEscrow where
  contract : Text
  payee : Text
  responseWindowSeconds : ℕ

/-- What a store's gateway is set up with. `verifyStoreEscrow` compared the payee with the payout account that the store writes
into its receipts. -/
structure DisputeDeps extends Decoders where
  fromXDR : Text → Option Envelope
  escrow : StoreEscrow
  stellarAccount : Text
  networkPassphrase : Text
  verified : escrow.payee = stellarAccount

variable (deps : DisputeDeps)

def decodeEscrowCall (envelopeXdr : Text) : Option EscrowCall :=
  match deps.fromXDR envelopeXdr with
  | some (.transaction source fee hash [op]) =>
    match op.invokeContract with
    | none => none
    | some call =>
      if op.source.any (· ≠ source) then none
      else if op.auth.any (· = false) then none
      else do
        let contract ← call.contractAddress
        let args ← call.args
        some ⟨source, fee, hash, contract, call.functionName, args⟩
  | _ => none

/-! ### Bodies -/

def MAX_RESPONSE_BYTES : ℕ := 16 * 1024
def MAX_CLAIM_BYTES : ℕ := 32 * 1024
def MAX_SIGNED_XDR : ℕ := 64 * 1024
def MAX_RESPOND_FEE_STROOPS : ℕ := 10000000

structure SubmitBody where
  response : Value
  signedXdr : Option Text

/-- `z.record(z.string(), z.unknown())`. -/
def anyRecord (v : Value) : Option Value := (asMembers v).map fun members => .object (CanonicalJson.kept members)

def claimBodySchema (v : Value) : Option Text := do
  let members ← strictMembers [words "claim_jws"] v
  required members "claim_jws" (trimmed MAX_CLAIM_BYTES)

def prepareBodySchema (v : Value) : Option Value := do
  let members ← strictMembers [words "response"] v
  required members "response" anyRecord

def submitBodySchema (v : Value) : Option SubmitBody := do
  let members ← strictMembers [words "response", words "signed_xdr"] v
  let response ← required members "response" anyRecord
  match member members (words "signed_xdr") with
  | none => some ⟨response, none⟩
  | some xdr => do
    let signedXdr ← textThat (fun text => 1 ≤ text.length ∧ text.length ≤ MAX_SIGNED_XDR) xdr
    some ⟨response, some signedXdr⟩

def refused (message : String) : Failure := ⟨"DisputeRefused", message⟩

def parseBody {α : Type} (schema : Value → Option α) (body : Value) : Except Failure α :=
  match schema body with
  | some request => .ok request
  | none => .error ⟨"ValidationError", "the request body does not have the expected shape"⟩

/-! ### The checks -/

/-- An order and its receipt, paid into the store's escrow. -/
structure HeldOrder where
  order : OrderRecord
  receipt : OrderReceipt

def payeeDid : Text := words "did:stellar:testnet:" ++ deps.escrow.payee

def hashText (hash : BytesN 32) : Text := hexOf hash.1

/-- A response that the arbiter will accept, answering this order's dispute. Answers with its hash. -/
def checkDocument (held : HeldOrder) (purchase : EscrowPurchase) (document : Value) : Except Failure Text :=
  if MAX_RESPONSE_BYTES < (utf8 (CanonicalJson.canonicalJson document)).length then .error (refused "the response is too long")
  else
    match agentResolveResponseSchema deps.toDecoders document with
    | none => .error ⟨"ValidationError", "the response does not have the expected shape"⟩
    | some response =>
      if CanonicalJson.canonicalJson response.value ≠ CanonicalJson.canonicalJson document then
        .error (refused "the response must be exactly as its schema reads it: trimmed text and no extra fields")
      else if response.respondent.1 ≠ payeeDid deps then
        .error (refused "only the store's payout account answers a dispute in its escrow")
      else if response.receiptHash ≠ held.receipt.hash then
        .error (refused "the response is about another receipt than this order's")
      else if purchase.claimHash.map hashText ≠ some response.claimHash then
        .error (refused "the response answers another claim than the one in the escrow")
      else
        match held.order.documents.claimJws.bind (claimPayload deps.toDecoders) with
        | none => .error (refused "the store does not have this dispute's claim yet, so it cannot check the answer against it")
        | some claim =>
          if response.claimId ≠ claim.claimId then
            .error (refused "the response answers another claim than the one in the escrow")
          else if response.acceptedAtomic.any fun accepted => readDigits claim.amountAtomic ≤ readDigits accepted ∨
              purchase.amountAtomic ≤ readDigits accepted then
            .error (refused "a partial acceptance must be less than the amount claimed")
          else .ok (documentHash deps.toDecoders document)

/-- `new Date((openedAt + window) * 1000)`, which is no date past the last one. -/
def respondBy (openedAt : ℕ) : Option Int :=
  let ms := (openedAt + deps.escrow.responseWindowSeconds) * 1000
  if ms ≤ 8640000000000000 then some ms else none

def toISOString : Option Int → Except Failure Int
  | some date => .ok date
  | none => .error ⟨"RangeError", "Invalid time value"⟩

/-- The escrow takes an answer now: a dispute is open and its window is not over. -/
def checkOpen (now : Int) (purchase : EscrowPurchase) : Except Failure (Option Int) :=
  if purchase.status = .responded then .error (refused "the store already answered this dispute")
  else
    match purchase.openedAt with
    | none => .error (refused "this order has no open dispute to answer")
    | some openedAt =>
      if purchase.status ≠ .disputed then .error (refused "this order has no open dispute to answer")
      else if (respondBy deps openedAt).any (· < now) then .error (refused "the time to answer ended")
      else .ok (respondBy deps openedAt)

/-- Sent only if it is exactly `respond` of this order and this document on this escrow, from the payout account. -/
def isExact (id hash : Text) (call : EscrowCall) : Bool :=
  match call.args with
  | [.bytes orderRef, .bytes signedHash] =>
    call.contract = deps.escrow.contract && call.fn = words "respond" && deps.toText orderRef = id && hexOf signedHash = hash &&
      call.source = deps.escrow.payee && call.feeStroops ≤ MAX_RESPOND_FEE_STROOPS
  | _ => false

/-! ### Answers -/

structure DisputeView where
  orderId : Text
  escrow : Text
  payee : Text
  respondBy : Option Int
  claimJws : Option Text
  response : Option OrderResponse

inductive Reply where
  | view (view : DisputeView)
  | prepared (xdr responseHash payee : Text) (respondBy : Int) (networkPassphrase : Text)

def view (id : Text) (order : OrderRecord) (purchase : EscrowPurchase) : Except Failure Reply := do
  let until_ ← match purchase.openedAt with
    | some openedAt =>
      if purchase.status = .disputed then (toISOString (respondBy deps openedAt)).map some else .ok none
    | none => .ok none
  pure (.view ⟨id, deps.escrow.contract, deps.escrow.payee, until_, order.documents.claimJws, order.documents.response⟩)

/-! ### The store -/

/-- The orders in memory, what was saved of them, all that happened to the escrow, and the clock. -/
structure Store (host : Host) where
  orders : Text → Option OrderRecord
  saved : Text → Option OrderRecord
  chain : List (PurchaseEscrow.Action host)
  now : Int

inductive Op where
  | get (id : Text)
  | prepareRespond (id responseHash : Text)
  | submitSigned (signedXdr : Text)
  | save (id : Text) (order : OrderRecord)

abbrev Op.Answer : Op → Type
  | .get _ => Option EscrowPurchase
  | .prepareRespond _ _ => Text
  | .submitSigned _ => Unit
  | .save _ _ => Unit

variable {host : Host}

abbrev Job (host : Host) := Routine (Store host) Op Failure Op.Answer

def ask (o : Op) : Job host o.Answer := Routine.ask o

def put (orders : Text → Option OrderRecord) (id : Text) (order : OrderRecord) : Text → Option OrderRecord :=
  fun other => if other = id then some order else orders other

def Store.put (s : Store host) (id : Text) (order : OrderRecord) : Store host := { s with orders := Disputes.put s.orders id order }

def heldOrder (s : Store host) (id : Text) : Except Failure HeldOrder :=
  match s.orders id with
  | some ⟨some receipt, some hold, dispute⟩ =>
    if hold = deps.escrow.contract then .ok ⟨⟨some receipt, some hold, dispute⟩, receipt⟩
    else .error ⟨"OrderNotFound", "no order paid into this store's escrow"⟩
  | _ => .error ⟨"OrderNotFound", "no order paid into this store's escrow"⟩

def heldNow (id : Text) : Job host HeldOrder := do
  let s ← Routine.read
  heldOrder deps s id

/-- `orders.update`: the record in memory changes at once, and is then saved. -/
def update (id : Text) (change : OrderRecord → OrderRecord) : Job host Unit := do
  let s ← Routine.read
  match s.orders id with
  | none => pure ⟨⟩
  | some order =>
    Routine.modify fun s => s.put id (change order)
    ask (.save id (change order))

def purchaseOf (id : Text) : Job host EscrowPurchase := do
  let answer ← (ask (.get id) : Job host _).attempt
  match answer with
  | .error _ => Routine.throws ⟨"NetworkError", "could not read the store's escrow on Stellar"⟩
  | .ok none => Routine.throws (refused "the escrow holds no purchase for this order")
  | .ok (some purchase) => pure purchase

def keep (id : Text) (document : Value) (hash : Text) (transaction : Option Text) : Job host Unit :=
  update id fun order => { order with dispute := some { order.documents with response := some ⟨document, hash, transaction⟩ } }

def viewNow (id : Text) (purchase : EscrowPurchase) : Job host Reply := do
  let held ← heldNow deps id
  view deps id held.order purchase

/-! ### The routes -/

def claimRoute (id : Text) (body : Value) : Job host Reply := do
  let held ← heldNow deps id
  let claimJws ← parseBody claimBodySchema body
  let purchase ← purchaseOf id
  match purchase.claimHash with
  | none => Routine.throws (refused "the escrow has no claim for this order")
  | some claimHash =>
    if jwsDocumentHash deps.toDecoders claimJws ≠ hashText claimHash then
      Routine.throws (refused "this claim is not the one the escrow holds")
    else if held.order.documents.claimJws = some claimJws then viewNow deps id purchase
    else
      update id fun order => { order with dispute := some { order.documents with claimJws := some claimJws } }
      viewNow deps id purchase

def prepareRoute (id : Text) (body : Value) : Job host Reply := do
  let held ← heldNow deps id
  let response ← parseBody prepareBodySchema body
  let purchase ← purchaseOf id
  let s ← Routine.read
  let respondBy ← checkOpen deps s.now purchase
  let hash ← checkDocument deps held purchase response
  let xdr ← ask (.prepareRespond id hash)
  let respondBy ← toISOString respondBy
  pure (.prepared xdr hash deps.escrow.payee respondBy deps.networkPassphrase)

def unconfirmed : Failure :=
  ⟨"EscrowError", "the answer could not be confirmed on Stellar; send the same answer again in a minute"⟩

def anotherAnswer : Failure := ⟨"EscrowError", "the respond transaction landed but the escrow holds another answer"⟩

def submitRoute (id : Text) (body : Value) : Job host Reply := do
  let held ← heldNow deps id
  let request ← parseBody submitBodySchema body
  let purchase ← purchaseOf id
  let hash ← checkDocument deps held purchase request.response
  let call := request.signedXdr.bind (decodeEscrowCall deps)
  if request.signedXdr.isSome ∧ call.any (isExact deps id hash) = false then
    Routine.throws (refused "the signed transaction is not this store's respond for this order and this response")
  -- the escrow already holds this answer: a send that landed earlier
  else if purchase.status = .responded ∧ purchase.responseHash.map hashText = some hash then
    keep id request.response hash
      ((call.map EscrowCall.hash).or (held.order.documents.response.bind OrderResponse.transaction))
    viewNow deps id purchase
  else
    match call, request.signedXdr with
    | some call, some signedXdr =>
      let s ← Routine.read
      let _ ← checkOpen deps s.now purchase
      let sent ← (ask (.submitSigned signedXdr) : Job host _).attempt
      match sent with
      | .error _ => Routine.throws unconfirmed
      | .ok _ =>
        let after ← purchaseOf id
        if after.responseHash.map hashText ≠ some hash then
          Routine.throws anotherAnswer
        else
          keep id request.response hash (some call.hash)
          viewNow deps id after
    | _, _ => Routine.throws (refused "the escrow does not hold this answer yet: send it with its signed transaction")

inductive Request where
  | claim (id : Text) (body : Value)
  | prepare (id : Text) (body : Value)
  | submit (id : Text) (body : Value)

def body : Request → Job host Reply
  | .claim id body => claimRoute deps id body
  | .prepare id body => prepareRoute deps id body
  | .submit id body => submitRoute deps id body

/-! ### What is outside -/

/-- How a question is answered: with a failure, and whether a write went in all the same; what a prepared transaction is. -/
structure Input where
  failure : Option Failure
  applied : Bool
  xdr : Text

variable (w₀ : World host)

def Store.world (s : Store host) : World host := (PurchaseEscrow.run w₀ s.chain).1

/-- `EscrowClient.get`. -/
def readPurchase (w : World host) (id : Text) : Except Failure (Option EscrowPurchase) :=
  match PurchaseEscrow.get w (utf8 id) with
  | none => .ok none
  | some p =>
    match EscrowReads.decodePurchase p with
    | none => .error ⟨"EscrowError", "the purchase does not have the expected shape"⟩
    | some purchase => .ok (some purchase)

def reply {α : Type} (input : Input) (answer : Except Failure α) : Except Failure α :=
  match input.failure with
  | none => answer
  | some e => .error e

/-- A transaction that was sent may land at any later moment, as any other call may: that is a step of the outside. -/
def serve : (o : Op) → Input → Store host → Option (Except Failure o.Answer × Store host)
  | .get id, input, s => some (reply input (readPurchase (s.world w₀) id), s)
  | .prepareRespond _ _, input, s => some (reply input (.ok input.xdr), s)
  | .submitSigned _, input, s => some (reply input (.ok ⟨⟩), s)
  | .save id order, input, s =>
    some (reply input (.ok ⟨⟩), if input.failure.isNone || input.applied then { s with saved := put s.saved id order } else s)

/-- An order id is ASCII: `ord_`, a time in base 36, and hex. -/
abbrev OrderId := { id : Text // ∀ u ∈ id, u.val < 0x80 }

/-- Anybody calls the escrow; a purchase becomes an order, signed or not yet; an order's receipt is signed; the escrow holds it;
and time passes. -/
inductive Outside (host : Host) where
  | chain (action : PurchaseEscrow.Action host)
  | place (id : OrderId) (receiptHash : Option Text)
  | sign (id : Text) (receiptHash : Text)
  | hold (id : Text) (escrow : Text)
  | tick (now : Int)

/-- `buildReceiptClaims`. -/
def receiptOf (hash : Text) : OrderReceipt := ⟨hash, ⟨deps.stellarAccount⟩⟩

def outside : Outside host → Store host → Store host
  | .chain action, s => { s with chain := s.chain ++ [action] }
  | .place id receiptHash, s =>
    match s.orders id.1 with
    | some _ => s
    | none => s.put id.1 ⟨receiptHash.map (receiptOf deps), none, none⟩
  | .sign id receiptHash, s =>
    match s.orders id with
    | some ⟨none, hold, dispute⟩ => s.put id ⟨some (receiptOf deps receiptHash), hold, dispute⟩
    | _ => s
  | .hold id escrow, s =>
    match s.orders id with
    | some order => s.put id { order with hold := some escrow }
    | none => s
  | .tick now, s => { s with now := now }

def disputes : Routines.Host Request (Store host) Op Failure Op.Answer Reply Input (Outside host) where
  body := body deps
  serve := serve w₀
  outside := outside deps
  restart s := { s with orders := s.saved }

def opened (now : Int) : Store host := ⟨fun _ => none, fun _ => none, [], now⟩

end AgentPey.Disputes
