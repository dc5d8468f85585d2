import AgentPey.AcceptedReceipts

/-!
A receipt as it is signed and read (`vitrinee-core/receipt.ts` and `jws.ts`), every amount and every time the text that
stands in the document: what a store signs, and what the check of a signature says of it.
-/
namespace AgentPey.ReceiptDocuments
open Receipts (Failure RECEIPT_TYPE STELLAR_TESTNET_CAIP2 USDC_CONTRACT USDC_DECIMALS stellarDidSchema txHashSchema
  decimalStringSchema parseDecimal didKey trim Receipt)
open ReceiptChecks (Libraries JwsHeader JwsVerification DecodedJws isBase64url atomicStringSchema bigInt receiptInvalid
  stellarDid parseStellarDid withoutFragment verifyJws)
open RealPayments (StrKeys)
open MandateAnchor (hexDigits)
open DecimalTexts (decimalValue)
open AcceptedReceipts (account_letters sampleLibraries_strKeys sample_asset sample_did sample_hash sample_key)

structure DocumentItem where
  productId : String
  sku : String
  name : String
  quantity : Nat
  unitPriceUSDC : String
  unitPriceUSDCAtomic : String
  deriving DecidableEq, Repr

structure Document where
  typ : String
  orderId : String
  platformOrderId : Option String
  platform : String
  merchantDid : String
  merchantAccount : String
  payerAccount : String
  network : String
  asset : String
  amountUSDC : String
  amountUSDCAtomic : String
  settlementTxHash : String
  items : List DocumentItem
  issuedAt : String
  refundWindowEndsAt : String
  escrow : Option String
  deriving DecidableEq, Repr

/-- Besides: which texts are times, and JSON in base64url. What is no JSON reads as `none`, and what has not the members of
    a receipt as `some none`. -/
structure DocumentLibraries extends Libraries where
  isoDatetime : String → Bool
  writeDocument : Document → String
  readDocument : String → Option (Option Document)

variable (lib : DocumentLibraries)

/-! ### Schemas -/

def MAX_SAFE_INTEGER : Nat := 9007199254740991

def receiptItemSchema (item : DocumentItem) : Bool :=
  item.productId ≠ "" && item.sku ≠ "" && item.name ≠ "" && 0 < item.quantity && item.quantity ≤ MAX_SAFE_INTEGER &&
    decimalStringSchema item.unitPriceUSDC && atomicStringSchema item.unitPriceUSDCAtomic

def stellarPayerSchema (text : String) : Bool := lib.isStellarAccount text || lib.isStellarContractId text

def receiptClaimsSchema (claims : Document) : Bool :=
  claims.typ = RECEIPT_TYPE && claims.orderId ≠ "" && claims.platformOrderId ≠ some "" && claims.platform ≠ "" &&
    stellarDidSchema claims.merchantDid && lib.isStellarAccount claims.merchantAccount &&
    stellarPayerSchema lib claims.payerAccount && claims.network = STELLAR_TESTNET_CAIP2 &&
    lib.isStellarContractId claims.asset && decimalStringSchema claims.amountUSDC &&
    atomicStringSchema claims.amountUSDCAtomic && txHashSchema claims.settlementTxHash && claims.items ≠ [] &&
    claims.items.all receiptItemSchema && lib.isoDatetime claims.issuedAt && lib.isoDatetime claims.refundWindowEndsAt &&
    claims.escrow.all lib.isStellarContractId

def sameAmount (decimal atomic : String) : Bool :=
  match parseDecimal decimal USDC_DECIMALS with
  | .ok n => n = bigInt atomic
  | .error _ => false

def itemsSum (claims : Document) : Nat := (claims.items.map fun item => bigInt item.unitPriceUSDCAtomic * item.quantity).sum

def receiptIncoherence (claims : Document) : Option String :=
  if claims.asset ≠ USDC_CONTRACT then
    some ("asset " ++ claims.asset ++ " is not the trusted USDC contract " ++ USDC_CONTRACT)
  else if ¬sameAmount claims.amountUSDC claims.amountUSDCAtomic then
    some ("amountUSDC " ++ claims.amountUSDC ++ " is not amountUSDCAtomic " ++ claims.amountUSDCAtomic)
  else
    match claims.items.find? fun item => ¬sameAmount item.unitPriceUSDC item.unitPriceUSDCAtomic with
    | some item => some ("unitPriceUSDC " ++ item.unitPriceUSDC ++ " is not unitPriceUSDCAtomic " ++
        item.unitPriceUSDCAtomic ++ " for item " ++ item.productId)
    | none =>
      if itemsSum claims ≠ bigInt claims.amountUSDCAtomic then
        some ("the items add up to " ++ toString (itemsSum claims) ++ " atomic units, not amountUSDCAtomic " ++
          claims.amountUSDCAtomic)
      else none

/-! ### Signing and checking -/

def signJws (payload : Document) (secret : String) : Except Failure String :=
  match lib.publicKey secret with
  | none => .error (.vitrinee .configError "signing secret is not a valid Stellar secret seed")
  | some account => do
    let did ← stellarDid lib.toLibraries account
    let signingInput := lib.writeHeader ⟨"JWT", did ++ "#key-1"⟩ ++ "." ++ lib.writeDocument payload
    pure (signingInput ++ "." ++ lib.writeSignature (lib.sign secret signingInput))

def receiptHash (compactJws : String) : String := hexDigits (lib.sha256 compactJws)

def signReceipt (claims : Document) (signingSecret : String) : Except Failure Receipt :=
  if ¬receiptClaimsSchema lib claims then .error (.zod "the claims are not those of a receipt")
  else
    match receiptIncoherence claims with
    | some incoherence => .error (.vitrinee .receiptInvalid ("refusing to sign an incoherent receipt: " ++ incoherence))
    | none => do
      let jws ← signJws lib claims signingSecret
      pure ⟨jws, receiptHash lib jws⟩

/-- A JWS and its payload. The payload plays no part in the verification of the signature. -/
def decodeJws (compact : String) : Except Failure (DecodedJws × Option Document) :=
  match (trim compact.toList).splitOn '.' with
  | [h, p, s] =>
    if [h, p, s].all isBase64url = false then receiptInvalid "not a compact JWS (three base64url segments)"
    else
      match lib.readHeader (String.ofList h), lib.readDocument (String.ofList p) with
      | some header, some payload =>
        match header with
        | none => receiptInvalid "JWS header must be {alg: EdDSA, typ, kid}"
        | some header =>
          .ok (⟨header, none, String.ofList h ++ "." ++ String.ofList p, lib.readSignature (String.ofList s)⟩, payload)
      | _, _ => receiptInvalid "JWS header or payload is not JSON"
  | _ => receiptInvalid "not a compact JWS (three base64url segments)"

structure ReceiptSignatureCheck extends JwsVerification where
  claims : Option Document
  hash : String

def checkReceiptSignature (jws : String) : ReceiptSignatureCheck :=
  let hash := receiptHash lib (String.ofList (trim jws.toList))
  match decodeJws lib jws with
  | .error e => ⟨⟨false, none, some e.message⟩, none, hash⟩
  | .ok (decoded, payload) =>
    match payload.filter (receiptClaimsSchema lib) with
    | none => ⟨⟨false, none, some "payload is not a vitrinee receipt"⟩, none, hash⟩
    | some claims =>
      let signature := verifyJws lib.toLibraries decoded claims.merchantDid
      match if signature.ok then receiptIncoherence claims else none with
      | some incoherence => ⟨⟨false, signature.signer, some ("incoherent receipt: " ++ incoherence)⟩, some claims, hash⟩
      | none => ⟨signature, some claims, hash⟩

/-! ### Coherence -/

/-- What is signed and accepted. -/
def Coherent (claims : Document) : Prop := receiptClaimsSchema lib claims = true ∧ receiptIncoherence claims = none

/-- Each amount is the same number twice, and the items add up to the total. -/
structure Consistent (claims : Document) : Prop where
  asset : claims.asset = USDC_CONTRACT
  total : decimalValue claims.amountUSDC = some ((bigInt claims.amountUSDCAtomic : ℚ) / 10 ^ USDC_DECIMALS)
  prices : ∀ item ∈ claims.items,
    decimalValue item.unitPriceUSDC = some ((bigInt item.unitPriceUSDCAtomic : ℚ) / 10 ^ USDC_DECIMALS)
  sum : itemsSum claims = bigInt claims.amountUSDCAtomic

theorem sameAmount_value {decimal atomic : String} (same : sameAmount decimal atomic = true) :
    decimalValue decimal = some ((bigInt atomic : ℚ) / 10 ^ USDC_DECIMALS) := by
  unfold sameAmount at same
  split at same
  · rename_i n parsed
    obtain rfl := of_decide_eq_true same
    obtain ⟨whole, fraction, read, _, exact_⟩ := DecimalTexts.parseDecimal_iff.mp parsed
    rw [decimalValue, read, Option.map_some, exact_]
    simp
  · cases same

theorem consistent_of_coherent {claims : Document} (coherent : receiptIncoherence claims = none) : Consistent claims := by
  unfold receiptIncoherence at coherent
  by_cases asset : claims.asset = USDC_CONTRACT
  · by_cases total : sameAmount claims.amountUSDC claims.amountUSDCAtomic = true
    · rw [if_neg (not_not_intro asset), if_neg (not_not_intro total)] at coherent
      split at coherent
      · cases coherent
      · rename_i none_
        split_ifs at coherent with sum
        rw [List.find?_eq_none] at none_
        exact ⟨asset, sameAmount_value total,
          fun item member => sameAmount_value (by simpa using none_ item member), not_not.mp sum⟩
    · simp [asset, total] at coherent
  · simp [asset] at coherent

/-! ### Signed receipts -/

def signingInput (account : String) (claims : Document) : String :=
  lib.writeHeader ⟨"JWT", "did:stellar:testnet:" ++ account ++ "#key-1"⟩ ++ "." ++ lib.writeDocument claims

/-- What is documented of the libraries, said of one receipt: JSON and bytes in base64url are read back, and a signature
    verifies with its own key. -/
structure Documented (secret account : String) (claims : Document) : Prop where
  valid : lib.isStellarAccount account = true
  header : isBase64url (lib.writeHeader ⟨"JWT", "did:stellar:testnet:" ++ account ++ "#key-1"⟩).toList = true ∧
    lib.readHeader (lib.writeHeader ⟨"JWT", "did:stellar:testnet:" ++ account ++ "#key-1"⟩) =
      some (some ⟨"JWT", "did:stellar:testnet:" ++ account ++ "#key-1"⟩)
  document : isBase64url (lib.writeDocument claims).toList = true ∧
    lib.readDocument (lib.writeDocument claims) = some (some claims)
  signature : isBase64url (lib.writeSignature (lib.sign secret (signingInput lib account claims))).toList = true ∧
    lib.readSignature (lib.writeSignature (lib.sign secret (signingInput lib account claims))) =
      lib.sign secret (signingInput lib account claims)
  verifies : (lib.sign secret (signingInput lib account claims)).length = 64 ∧
    lib.verify account (signingInput lib account claims) (lib.sign secret (signingInput lib account claims)) = true

/-- A text that carries a receipt with the signature of the key that the receipt names as its merchant's. -/
def SignedBy (jws : String) (claims : Document) : Prop := ∃ decoded account,
  decodeJws lib jws = .ok (decoded, some claims) ∧ parseStellarDid lib.toLibraries claims.merchantDid = some account ∧
    decoded.signature.length = 64 ∧ lib.verify account decoded.signingInput decoded.signature = true

variable {lib} {secret account jws : String} {claims : Document}

/-- What is accepted is signed and coherent. -/
theorem accepted_signed (accepted : (checkReceiptSignature lib jws).ok = true) :
    ∃ claims, (checkReceiptSignature lib jws).claims = some claims ∧ SignedBy lib jws claims ∧ Coherent lib claims := by
  unfold checkReceiptSignature at accepted ⊢
  cases decodes : decodeJws lib jws with
  | error e =>
    rw [decodes] at accepted
    cases accepted
  | ok read =>
    obtain ⟨decoded, payload⟩ := read
    rw [decodes] at accepted
    dsimp only at accepted ⊢
    cases reads : payload.filter (receiptClaimsSchema lib) with
    | none =>
      rw [reads] at accepted
      cases accepted
    | some claims =>
      rw [reads] at accepted
      dsimp only at accepted ⊢
      obtain ⟨rfl, schema⟩ := Option.filter_eq_some_iff.mp reads
      split at accepted
      · cases accepted
      · rename_i coherent
        dsimp only at accepted
        rw [if_pos accepted] at coherent
        obtain ⟨_, account, names, length, verified⟩ := (RealPayments.verifyJws_ok_iff decoded claims.merchantDid).mp accepted
        exact ⟨claims, rfl, ⟨decoded, account, decodes, names, length, verified⟩, schema, coherent⟩

theorem decodeJws_segments {h p s : String} {header : JwsHeader} {payload : Option Document}
    (headerText : isBase64url h.toList = true) (payloadText : isBase64url p.toList = true)
    (signatureText : isBase64url s.toList = true) (readHeader : lib.readHeader h = some (some header))
    (readDocument : lib.readDocument p = some payload) : decodeJws lib (h ++ "." ++ p ++ "." ++ s) =
      .ok (⟨header, none, h ++ "." ++ p, lib.readSignature s⟩, payload) := by
  unfold decodeJws
  rw [GatewayReceipts.segments_read headerText payloadText signatureText]
  dsimp only
  rw [if_neg (by simp [headerText, payloadText, signatureText])]
  simp only [String.ofList_toList, readHeader, readDocument]

theorem decodeJws_signed (documented : Documented lib secret account claims) :
    decodeJws lib (signingInput lib account claims ++ "." ++
      lib.writeSignature (lib.sign secret (signingInput lib account claims))) =
      .ok (⟨⟨"JWT", "did:stellar:testnet:" ++ account ++ "#key-1"⟩, none, signingInput lib account claims,
        lib.sign secret (signingInput lib account claims)⟩, some claims) := by
  have read := decodeJws_segments documented.header.1 documented.document.1 documented.signature.1 documented.header.2
    documented.document.2
  rw [documented.signature.2] at read
  exact read

theorem signReceipt_ok (key : lib.publicKey secret = some account) (documented : Documented lib secret account claims)
    (coherent : Coherent lib claims) : ∃ hash, signReceipt lib claims secret = .ok ⟨signingInput lib account claims ++ "." ++
      lib.writeSignature (lib.sign secret (signingInput lib account claims)), hash⟩ := by
  have signs : signJws lib claims secret = .ok (signingInput lib account claims ++ "." ++
      lib.writeSignature (lib.sign secret (signingInput lib account claims))) := by
    unfold signJws
    rw [key]
    dsimp only
    rw [stellarDid, if_neg (by rw [documented.valid]; simp)]
    rfl
  unfold signReceipt
  rw [if_neg (by simp [coherent.1]), coherent.2, signs]
  exact ⟨_, rfl⟩

theorem kid_did (didKey_ : didKey account.toList = true) :
    String.ofList (withoutFragment ("did:stellar:testnet:" ++ account ++ "#key-1").toList) =
      "did:stellar:testnet:" ++ account := by
  rw [String.toList_append, GatewayReceipts.withoutFragment_key, String.ofList_toList]
  rw [String.toList_append, List.mem_append, not_or]
  exact ⟨by decide, GatewayReceipts.didKey_plain didKey_⟩

/-- A store's signature is accepted when the receipt names the key that it is of. -/
theorem check_signed (strKeys : StrKeys lib.toLibraries) (documented : Documented lib secret account claims)
    (coherent : Coherent lib claims) : let check := checkReceiptSignature lib (signingInput lib account claims ++ "." ++
      lib.writeSignature (lib.sign secret (signingInput lib account claims)))
    check.claims = some claims ∧ (check.ok = true ↔ claims.merchantDid = "did:stellar:testnet:" ++ account) := by
  obtain ⟨_, didKey_⟩ := strKeys.account account documented.valid
  have verified : (verifyJws lib.toLibraries ⟨⟨"JWT", "did:stellar:testnet:" ++ account ++ "#key-1"⟩, none,
      signingInput lib account claims, lib.sign secret (signingInput lib account claims)⟩ claims.merchantDid).ok = true ↔
        claims.merchantDid = "did:stellar:testnet:" ++ account := by
    rw [RealPayments.verifyJws_ok_iff, kid_did didKey_]
    constructor
    · exact fun names => names.1.symm
    · intro names
      refine ⟨names.symm, account, ?_, documented.verifies⟩
      rw [names]
      exact GatewayReceipts.parseStellarDid_account documented.valid didKey_
  unfold checkReceiptSignature
  rw [decodeJws_signed documented]
  dsimp only
  rw [Option.filter_some, if_pos coherent.1]
  dsimp only
  rw [coherent.2, ite_self]
  exact ⟨rfl, verified⟩

theorem other_refused (strKeys : StrKeys lib.toLibraries) (key : lib.publicKey secret = some account)
    (documented : Documented lib secret account claims) (coherent : Coherent lib claims)
    (other : claims.merchantDid ≠ "did:stellar:testnet:" ++ account) :
    ∃ receipt, signReceipt lib claims secret = .ok receipt ∧ (checkReceiptSignature lib receipt.jws).ok = false := by
  obtain ⟨hash, signs⟩ := signReceipt_ok key documented coherent
  exact ⟨_, signs, Bool.eq_false_iff.mpr fun accepted =>
    other ((check_signed strKeys documented coherent).2.mp accepted)⟩

/-- A store signs each coherent receipt; the check of its signature gives the same receipt back, and accepts it when it
    names the key that has signed as its merchant's, and then only. Whatever the check accepts is a receipt that the key it
    names has signed, whose items add up to its total and whose amounts are the same number twice. -/
theorem signed_receipts (strKeys : StrKeys lib.toLibraries) (key : lib.publicKey secret = some account)
    (documented : Documented lib secret account claims) :
    (Coherent lib claims → ∃ receipt, signReceipt lib claims secret = .ok receipt ∧
      (checkReceiptSignature lib receipt.jws).claims = some claims ∧
      ((checkReceiptSignature lib receipt.jws).ok = true ↔ claims.merchantDid = "did:stellar:testnet:" ++ account)) ∧
    ∀ jws, (checkReceiptSignature lib jws).ok = true → ∃ accepted, (checkReceiptSignature lib jws).claims = some accepted ∧
      SignedBy lib jws accepted ∧ Consistent accepted := by
  constructor
  · intro coherent
    obtain ⟨hash, signs⟩ := signReceipt_ok key documented coherent
    exact ⟨_, signs, check_signed strKeys documented coherent⟩
  · intro jws accepted
    obtain ⟨claims, read, signed, coherent⟩ := accepted_signed accepted
    exact ⟨claims, read, signed, consistent_of_coherent coherent.2⟩

/-! ### A receipt for one unit -/

open AcceptedReceipts (sampleLibraries sampleMerchant sampleOther samplePayer sampleDid sampleTx)

def sampleDocument : Document where
  typ := RECEIPT_TYPE
  orderId := "order-1"
  platformOrderId := none
  platform := "mock"
  merchantDid := sampleDid
  merchantAccount := sampleMerchant
  payerAccount := samplePayer
  network := STELLAR_TESTNET_CAIP2
  asset := USDC_CONTRACT
  amountUSDC := "1"
  amountUSDCAtomic := "10000000"
  settlementTxHash := sampleTx
  items := [⟨"tea", "TEA-1", "Green tea", 1, "1", "10000000"⟩]
  issuedAt := "2026-09-22T12:00:00.000Z"
  refundWindowEndsAt := "2026-10-02T12:00:00.000Z"
  escrow := none

def sampleTexts : DocumentLibraries where
  toLibraries := { sampleLibraries with
    publicKey := fun secret => if secret = "SMERCHANT" then some sampleMerchant else
      if secret = "SOTHER" then some sampleOther else none
    writeHeader := fun header => if header.kid = sampleDid ++ "#key-1" then "header" else "other"
    readHeader := fun text => if text = "header" then some (some ⟨"JWT", sampleDid ++ "#key-1"⟩) else
      if text = "other" then some (some ⟨"JWT", "did:stellar:testnet:" ++ sampleOther ++ "#key-1"⟩) else none
    verify := fun _ _ signature => signature = List.replicate 64 0 }
  isoDatetime _ := true
  writeDocument _ := "document"
  readDocument text := if text = "document" then some (some sampleDocument) else none

theorem sampleTexts_documented {secret account : String} (known : secret = "SMERCHANT" ∧ account = sampleMerchant ∨
    secret = "SOTHER" ∧ account = sampleOther) : Documented sampleTexts secret account sampleDocument := by
  rcases known with ⟨rfl, rfl⟩ | ⟨rfl, rfl⟩
  · exact ⟨by decide, ⟨by decide, by decide⟩, ⟨by decide, by decide⟩,
      ⟨by decide, by decide⟩, by decide, by decide⟩
  · exact ⟨by decide, ⟨by decide, by decide⟩, ⟨by decide, by decide⟩,
      ⟨by decide, by decide⟩, by decide, by decide⟩

theorem sampleDocument_coherent : Coherent sampleTexts sampleDocument := by
  have account (address : String) : sampleTexts.isStellarAccount address = sampleLibraries.isStellarAccount address := rfl
  have merchant : sampleTexts.isStellarAccount sampleMerchant = true := by
    rw [account, sampleMerchant, sample_key (.inl rfl)]
  have payer : stellarPayerSchema sampleTexts samplePayer = true := by
    rw [stellarPayerSchema, account, samplePayer, sample_key (.inr (.inl rfl)), Bool.true_or]
  have contract : sampleTexts.isStellarContractId USDC_CONTRACT = true := sample_asset
  have dated (text : String) : sampleTexts.isoDatetime text = true := rfl
  have price : decimalStringSchema "1" = true ∧ atomicStringSchema "10000000" = true := by decide
  refine ⟨?_, by decide⟩
  simp only [receiptClaimsSchema, sampleDocument, sample_did, payer, sample_hash, price,
    Bool.and_eq_true, decide_eq_true_eq]
  simp [merchant, contract, dated, receiptItemSchema, price, MAX_SAFE_INTEGER]

theorem sampleTexts_strKeys : StrKeys sampleTexts.toLibraries :=
  ⟨sampleLibraries_strKeys.account, sampleLibraries_strKeys.contract⟩

/-- The merchant's own signature is accepted. -/
theorem signed_receipts_sample : ∃ receipt, signReceipt sampleTexts sampleDocument "SMERCHANT" = .ok receipt ∧
    (checkReceiptSignature sampleTexts receipt.jws).ok = true := by
  have key : sampleTexts.publicKey "SMERCHANT" = some sampleMerchant := rfl
  obtain ⟨receipt, signs, _, accepted⟩ :=
    (signed_receipts sampleTexts_strKeys key (sampleTexts_documented (.inl ⟨rfl, rfl⟩))).1 sampleDocument_coherent
  exact ⟨receipt, signs, accepted.mpr rfl⟩

/-- The signature of another key over the same receipt, which is made and then refused. -/
theorem foreign_signature : Coherent sampleTexts sampleDocument ∧
    ∃ receipt, signReceipt sampleTexts sampleDocument "SOTHER" = .ok receipt ∧
      (checkReceiptSignature sampleTexts receipt.jws).ok = false := by
  refine ⟨sampleDocument_coherent, other_refused sampleTexts_strKeys rfl (sampleTexts_documented (.inr ⟨rfl, rfl⟩))
    sampleDocument_coherent fun names => ?_⟩
  have letters := congrArg String.toList ((String.append_right_inj _).mp names)
  rw [sampleMerchant, sampleOther, account_letters, account_letters] at letters
  revert letters
  decide

end AgentPey.ReceiptDocuments
