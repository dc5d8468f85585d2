import AgentPey.EscrowEvents
import AgentPey.MandateAnchor
import AgentPey.ReceiptRegistry
import AgentPey.Receipts

/-!
What a verifier checks of a receipt: its signature (`vitrinee-core/jws.ts`, `receipt.ts`), its anchored record, the
settlement it cites and, when it declares an escrow, the purchase held there (`vitrinee-anchor/verify.ts`,
`settlement.ts`, and the readers of `registry.ts` and `escrow.ts`). Keys, hashes, JSON and base64url are libraries.
-/
namespace AgentPey.ReceiptChecks
open Soroban Receipts
open EscrowEvents (EscrowStatus statusMap)
open MandateAnchor (hexDigits)

/-! ### JWS -/

/-- The header of a receipt's JWS; its `alg` is `EdDSA`. -/
structure JwsHeader where
  typ : String
  kid : String
  deriving DecidableEq

/-- The members of a payload that has those of a receipt. Its amount in whole units is kept as it is written. -/
structure ReceiptPayload where
  members : ReceiptClaims
  amountUSDCAtomic : String

/-- `BigInt` of a text of digits. -/
def bigInt (text : String) : Nat := Nat.ofDigitChars 10 text.toList 0

def ReceiptPayload.claims (payload : ReceiptPayload) : ReceiptClaims :=
  { payload.members with amountUSDCAtomic := bigInt payload.amountUSDCAtomic }

/-- What is taken from outside: `StrKey` and key pairs, SHA-256, and segments of JSON and bytes in base64url. A header or a
    payload that is not JSON reads as `none`, one of another shape as `some none`. `replaced` is what `Buffer.toString`
    makes of bytes that are no UTF-8. -/
structure Libraries where
  isStellarAccount : String → Bool
  isStellarContractId : String → Bool
  strKey : Address → String
  publicKey : String → Option String
  sign : String → String → Bytes
  verify : String → String → Bytes → Bool
  sha256 : String → BytesN 32
  writeHeader : JwsHeader → String
  readHeader : String → Option (Option JwsHeader)
  writePayload : ReceiptClaims → String
  readPayload : String → Option (Option ReceiptPayload)
  writeSignature : Bytes → String
  readSignature : String → Bytes
  replaced : Bytes → String

variable (lib : Libraries)

def stellarDid (account : String) : Except Failure String :=
  if lib.isStellarAccount account = false then
    .error (.vitrinee .validationError "not a Stellar account public key (G...)")
  else .ok ("did:stellar:testnet:" ++ account)

def parseStellarDid (did : String) : Option String :=
  let account := String.ofList (did.toList.rtake 56)
  if stellarDidSchema did && lib.isStellarAccount account then some account else none

def signJws (payload : ReceiptClaims) (secret : String) : Except Failure String :=
  match lib.publicKey secret with
  | none => .error (.vitrinee .configError "signing secret is not a valid Stellar secret seed")
  | some account => do
    let did ← stellarDid lib account
    let signingInput := lib.writeHeader ⟨"JWT", did ++ "#key-1"⟩ ++ "." ++ lib.writePayload payload
    pure (signingInput ++ "." ++ lib.writeSignature (lib.sign secret signingInput))

structure DecodedJws where
  header : JwsHeader
  payload : Option ReceiptPayload
  signingInput : String
  signature : Bytes

/-- `[A-Za-z0-9_-]+`. -/
def isBase64url (segment : List Char) : Bool := segment ≠ [] && segment.all fun c => c.isAlphanum || c = '_' || c = '-'

def receiptInvalid {α : Type} (message : String) : Except Failure α := .error (.vitrinee .receiptInvalid message)

def decodeJws (compact : String) : Except Failure DecodedJws :=
  match (trim compact.toList).splitOn '.' with
  | [h, p, s] =>
    if [h, p, s].all isBase64url = false then receiptInvalid "not a compact JWS (three base64url segments)"
    else
      match lib.readHeader (String.ofList h), lib.readPayload (String.ofList p) with
      | some header, some payload =>
        match header with
        | none => receiptInvalid "JWS header must be {alg: EdDSA, typ, kid}"
        | some header => .ok ⟨header, payload, String.ofList h ++ "." ++ String.ofList p, lib.readSignature (String.ofList s)⟩
      | _, _ => receiptInvalid "JWS header or payload is not JSON"
  | _ => receiptInvalid "not a compact JWS (three base64url segments)"

def isLineTerminator (c : Char) : Bool := c = '\n' || c = '\r' || c = '\u2028' || c = '\u2029'

/-- `kid.replace(/#.*$/, "")`. -/
def withoutFragment : List Char → List Char
  | [] => []
  | c :: rest => if c = '#' && !rest.any isLineTerminator then [] else c :: withoutFragment rest

structure JwsVerification where
  ok : Bool
  signer : Option String
  reason : Option String

def verifyJws (decoded : DecodedJws) (expectedDid : String) : JwsVerification :=
  let did := String.ofList (withoutFragment decoded.header.kid.toList)
  match parseStellarDid lib did with
  | none => ⟨false, none, some ("kid is not a did:stellar key: " ++ decoded.header.kid)⟩
  | some account =>
    if did ≠ expectedDid then
      ⟨false, some account, some ("signed by " ++ did ++ ", but the receipt names " ++ expectedDid)⟩
    else if decoded.signature.length ≠ 64 then ⟨false, some account, some "Ed25519 signatures are 64 bytes"⟩
    else if lib.verify account decoded.signingInput decoded.signature then ⟨true, some account, none⟩
    else ⟨false, some account, some "signature does not match the content"⟩

/-! ### Receipts -/

/-- The keys and hashes as `signReceipt` uses them. -/
def crypto : Crypto where
  isStellarAccount := lib.isStellarAccount
  isStellarContractId := lib.isStellarContractId
  signJws claims secret := (signJws lib claims secret).toOption.getD ""
  sha256 text := hexDigits (lib.sha256 text)
  payerFromTransactionXdr _ := none

/-- `^\d+$`. -/
def atomicStringSchema (text : String) : Bool := text.toList ≠ [] && text.toList.all Char.isDigit

def payloadSchema (payload : ReceiptPayload) : Bool :=
  atomicStringSchema payload.amountUSDCAtomic && receiptClaimsSchema (crypto lib) payload.claims

structure ReceiptSignatureCheck extends JwsVerification where
  claims : Option ReceiptPayload
  hash : String

def checkReceiptSignature (jws : String) : ReceiptSignatureCheck :=
  let hash := receiptHash (crypto lib) (String.ofList (trim jws.toList))
  match decodeJws lib jws with
  | .error e => ⟨⟨false, none, some e.message⟩, none, hash⟩
  | .ok decoded =>
    match decoded.payload.filter (payloadSchema lib) with
    | none => ⟨⟨false, none, some "payload is not a vitrinee receipt"⟩, none, hash⟩
    | some payload =>
      let signature := verifyJws lib decoded payload.claims.merchantDid
      match if signature.ok then receiptIncoherence payload.claims else none with
      | some incoherence => ⟨⟨false, signature.signer, some ("incoherent receipt: " ++ incoherence)⟩, some payload, hash⟩
      | none => ⟨signature, some payload, hash⟩

/-! ### What is read of the contracts -/

def hexValue (c : Char) : Option Nat :=
  if c.isDigit then some (c.toNat - 48) else if 'a' ≤ c ∧ c ≤ 'f' then some (c.toNat - 87) else none

def hexBytes : List Char → Option Bytes
  | [] => some []
  | [_] => none
  | high :: low :: rest => do
    let h ← hexValue high
    let l ← hexValue low
    let bytes ← hexBytes rest
    pure (UInt8.ofNat (16 * h + l) :: bytes)

def hashToBytes (hashHex : String) : Except Failure (BytesN 32) :=
  match hexBytes hashHex.toList with
  | none => .error (.vitrinee .validationError "receipt hash must be 64 lowercase hex characters")
  | some bytes =>
    if length : bytes.length = 32 then .ok ⟨bytes, length⟩
    else .error (.vitrinee .validationError "receipt hash must be 64 lowercase hex characters")

/-- `Buffer.from(text, "utf8")`. -/
def utf8Bytes (text : String) : Bytes := text.toByteArray.data.toList

/-- `Buffer.from(bytes).toString("utf8")`. -/
def utf8Text (bytes : Bytes) : String :=
  if valid : (ByteArray.mk bytes.toArray).IsValidUTF8 then String.ofByteArray ⟨bytes.toArray⟩ valid else lib.replaced bytes

structure AnchoredRecord where
  merchant : String
  amount : Int
  orderRef : String
  ledger : UInt32
  timestamp : UInt64

structure RegistryReader where
  contractId : Option String
  get : String → Except Failure (Option AnchoredRecord)

def decodeRecord (record : ReceiptRegistry.ReceiptRecord) : AnchoredRecord where
  merchant := lib.strKey record.merchant
  amount := record.amount
  orderRef := utf8Text lib record.order_ref
  ledger := record.ledger
  timestamp := record.timestamp

def PURCHASE_ESCROW_WASM_HASHES : List String := ["f5c6bbb6a54a017b71efd62e1aa87bd9b1babf5a688c74e253100586d6602fc5"]

/-- What of an escrow's configuration is checked. -/
structure EscrowConfig where
  operator : String
  payee : String
  wasmHash : Option String

/-- What of a purchase is checked and answered. -/
structure EscrowPurchase where
  orderRef : String
  payer : String
  amountAtomic : Int
  receiptHash : String
  status : EscrowStatus

structure EscrowReader where
  config : Except Failure EscrowConfig
  byTx : String → Except Failure (Option EscrowPurchase)

def decodeEscrowConfig (config : PurchaseEscrow.Config) (wasmHash : Option String) : Except Failure EscrowConfig :=
  if 0 < config.release_window ∧ 0 < config.response_window ∧ 0 < config.resolve_window then
    .ok ⟨lib.strKey config.operator, lib.strKey config.payee, wasmHash⟩
  else .error (.thrown "purchase-escrow instance does not hold a Config" none none)

def decodePurchase (p : PurchaseEscrow.Purchase) : Except Failure EscrowPurchase :=
  match EscrowEvents.decodePurchase p with
  | none => .error (.thrown "purchase-escrow entry does not look like a Purchase" none none)
  | some _ =>
    .ok ⟨utf8Text lib p.order_ref, lib.strKey p.payer, p.amount, hexDigits p.receipt_hash, statusMap p.status⟩

/-! ### The settlement -/

structure HorizonTransaction where
  successful : Bool
  ledger : Nat
  created_at : String

structure HorizonEffect where
  type : String
  account : Option String
  contract : Option String
  amount : Option String
  asset_code : Option String
  asset_issuer : Option String

/-- What Horizon answers: 200 with a body, 404, another status; or the request fails. -/
inductive Fetched (α : Type) where
  | answered (body : α)
  | notFound
  | status (code : Nat)
  | failed (e : Failure)

/-- Its answers about a transaction, attempt by attempt, and about the first page of its effects, of this many. -/
structure Horizon where
  transaction : String → Nat → Fetched HorizonTransaction
  effects : String → Nat → Fetched (List HorizonEffect)

structure SettlementCheck where
  ok : Bool
  reason : Option String
  ledger : Option Nat
  closedAt : Option String

def unsettled (reason : String) (ledger : Option Nat) : SettlementCheck := ⟨false, some reason, ledger, none⟩

/-- `effects?limit=50`. -/
def EFFECTS_LIMIT : Nat := 50

def USDC_CODE : String := "USDC"
def USDC_ISSUER : String := "GBBD47IF6LWK7P7MDEVSCWR7DPUWV3NY3DTQEVFL4NAT4AQH3ZLLFLA5"

def usdc (e : HorizonEffect) : Bool := e.asset_code = some USDC_CODE && e.asset_issuer = some USDC_ISSUER

def amountMatches (expected : Nat) (e : HorizonEffect) : Except Failure Bool :=
  if usdc e then
    match e.amount with
    | none => .ok false
    | some text => do
      let amount ← parseDecimal text USDC_DECIMALS
      pure (amount = expected)
  else .ok false

/-- `effects.some`. -/
def someEffect (test : HorizonEffect → Except Failure Bool) : List HorizonEffect → Except Failure Bool
  | [] => .ok false
  | e :: rest => do
    let passes ← test e
    if passes then pure true else someEffect test rest

def moved (effects : List HorizonEffect) (expected : Nat) (type account : String) : Except Failure Bool :=
  someEffect (fun e => if e.type = type ∧ e.account = some account then amountMatches expected e else .ok false) effects

def movedContract (effects : List HorizonEffect) (expected : Nat) (type contract : String) : Except Failure Bool :=
  someEffect (fun e => if e.type = type ∧ e.contract = some contract then amountMatches expected e else .ok false) effects

/-- The attempts to find a transaction: another one only after a 404. -/
def findTransaction (answer : Nat → Fetched HorizonTransaction) :
    Nat → Nat → Except Failure (Except Nat (Option HorizonTransaction))
  | 0, _ => .ok (.ok none)
  | left + 1, attempt =>
    match answer attempt with
    | .answered tx => .ok (.ok (some tx))
    | .notFound => findTransaction answer left (attempt + 1)
    | .status code => .ok (.error code)
    | .failed e => .error e

/-- A contract that pays is debited as one: the account of that effect is the transaction's source. -/
def payerDebited (claims : ReceiptClaims) (effects : List HorizonEffect) : Except Failure Bool :=
  if "C".toList.isPrefixOf claims.payerAccount.toList then
    movedContract effects claims.amountUSDCAtomic "contract_debited" claims.payerAccount
  else moved effects claims.amountUSDCAtomic "account_debited" claims.payerAccount

def checkEffects (claims : ReceiptClaims) (tx : HorizonTransaction) (effects : List HorizonEffect) :
    Except Failure SettlementCheck := do
  let expected := claims.amountUSDCAtomic
  let debited ← payerDebited claims effects
  if debited = false then
    pure (unsettled "the payer was not debited the receipt's USDC amount in that transaction" (some tx.ledger))
  else
    match claims.escrow with
    | some escrow =>
      let credited ← movedContract effects expected "contract_credited" escrow
      if credited = false then
        pure (unsettled "the store's escrow was not credited the receipt's USDC amount in that transaction" (some tx.ledger))
      else pure ⟨true, none, some tx.ledger, some tx.created_at⟩
    | none =>
      let credited ← moved effects expected "account_credited" claims.merchantAccount
      if credited = false then
        pure (unsettled "the merchant was not credited the receipt's USDC amount in that transaction" (some tx.ledger))
      else pure ⟨true, none, some tx.ledger, some tx.created_at⟩

def checkSettlement (claims : ReceiptClaims) (horizon : Horizon) (attempts : Nat) : Except Failure SettlementCheck := do
  let found ← findTransaction (horizon.transaction claims.settlementTxHash) attempts 0
  match found with
  | .error code => pure (unsettled ("Horizon answered " ++ toString code) none)
  | .ok none => pure (unsettled "settlement transaction not found on Stellar testnet" none)
  | .ok (some tx) =>
    if tx.successful = false then pure (unsettled "settlement transaction failed on chain" (some tx.ledger))
    else
      match horizon.effects claims.settlementTxHash EFFECTS_LIMIT with
      | .answered effects => checkEffects claims tx effects
      | .notFound => pure (unsettled "Horizon effects answered 404" none)
      | .status code => pure (unsettled ("Horizon effects answered " ++ toString code) none)
      | .failed e => .error e

/-! ### Verification -/

structure HeldCheck where
  ok : Bool
  reason : Option String
  escrow : String
  status : Option EscrowStatus

structure AnchoredCheck where
  ok : Bool
  reason : Option String
  record : Option AnchoredRecord
  registry : Option String

structure ReceiptVerification where
  valid : Bool
  hash : String
  receipt : Option ReceiptPayload
  signature : JwsVerification
  anchored : AnchoredCheck
  settlement : SettlementCheck
  held : Option HeldCheck

structure VerifyOptions where
  registry : Option RegistryReader
  horizon : Horizon
  settlementAttempts : Nat
  escrows : Option (String → EscrowReader)

/-- What is wrong with the purchase that an escrow holds for a payment, if anything is. -/
def heldFault (payload : ReceiptPayload) (receiptHash : String) (config : EscrowConfig) (purchase : Option EscrowPurchase) :
    Option String :=
  let claims := payload.claims
  if config.wasmHash.all (fun hash => !PURCHASE_ESCROW_WASM_HASHES.contains hash) then
    some "the escrow does not run the purchase-escrow code this verifier knows"
  else if parseStellarDid lib claims.merchantDid ≠ some config.operator then
    some "the escrow's operator is not the account that signed the receipt"
  else if config.payee ≠ claims.merchantAccount then
    some "the escrow pays another account than the receipt's merchantAccount"
  else
    match purchase with
    | none => some "the escrow holds no purchase for this payment"
    | some purchase =>
      if purchase.receiptHash ≠ receiptHash then some "the escrow holds another receipt for this payment"
      else if purchase.orderRef ≠ claims.orderId then some "the escrow holds this payment for another order"
      else if purchase.payer ≠ claims.payerAccount then some "the escrow names another payer"
      else if toString purchase.amountAtomic ≠ payload.amountUSDCAtomic then some "the escrow holds another amount"
      else none

def checkHeld (payload : ReceiptPayload) (receiptHash : String) (escrows : Option (String → EscrowReader)) : HeldCheck :=
  let escrow := payload.claims.escrow.getD ""
  match escrows with
  | none => ⟨false, some "no escrow reader configured", escrow, none⟩
  | some escrows =>
    let reader := escrows escrow
    match reader.config, reader.byTx payload.claims.settlementTxHash with
    | .ok config, .ok purchase =>
      match heldFault lib payload receiptHash config purchase with
      | some reason => ⟨false, some reason, escrow, purchase.map EscrowPurchase.status⟩
      | none => ⟨true, none, escrow, purchase.map EscrowPurchase.status⟩
    | .error e, _ => ⟨false, some ("could not read the escrow: " ++ String.ofList (e.message.toList.take 200)), escrow, none⟩
    | .ok _, .error e =>
      ⟨false, some ("could not read the escrow: " ++ String.ofList (e.message.toList.take 200)), escrow, none⟩

/-- What is wrong with a receipt's anchored record, if anything is; the claims are those of a readable receipt. -/
def recordFault (claims : Option ReceiptPayload) (record : AnchoredRecord) : Option String :=
  match claims with
  | none => none
  | some payload =>
    if some record.merchant ≠ parseStellarDid lib payload.claims.merchantDid then
      some "anchored by a different merchant than the receipt names"
    else if toString record.amount ≠ payload.amountUSDCAtomic then some "anchored amount differs from the receipt"
    else if record.orderRef ≠ payload.claims.orderId then some "anchored order reference differs from the receipt"
    else none

def checkAnchored (claims : Option ReceiptPayload) (hash : String) (registry : Option RegistryReader) :
    Except Failure AnchoredCheck :=
  match registry with
  | none => .ok ⟨false, some "no receipt registry configured", none, none⟩
  | some registry => do
    let record ← registry.get hash
    match record with
    | none => pure ⟨false, some "this exact receipt is not anchored in the registry", none, registry.contractId⟩
    | some record =>
      let fault := recordFault lib claims record
      pure ⟨fault.isNone, fault, some record, registry.contractId⟩

def verifyReceipt (jws : String) (options : VerifyOptions) : Except Failure ReceiptVerification := do
  let signature := checkReceiptSignature lib jws
  let anchored ← checkAnchored lib signature.claims signature.hash options.registry
  let settlement ←
    match signature.claims with
    | none => pure (unsettled "no readable receipt claims to check against the chain" none)
    | some payload => checkSettlement payload.claims options.horizon options.settlementAttempts
  let held := (signature.claims.filter (·.claims.escrow.isSome)).map fun payload =>
    checkHeld lib payload signature.hash options.escrows
  pure
    { valid := signature.ok && anchored.ok && settlement.ok && held.all HeldCheck.ok
      hash := signature.hash
      receipt := signature.claims
      signature := signature.toJwsVerification
      anchored := anchored
      settlement := settlement
      held := held }

end AgentPey.ReceiptChecks
