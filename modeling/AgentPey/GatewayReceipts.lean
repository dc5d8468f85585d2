import Mathlib
import AgentPey.HeldReceipts

/-!
The receipts that a gateway itself issues: its signature is read back and verifies, the record that its own call has
anchored is the receipt's, and so is the purchase that its own call has held.
-/
namespace AgentPey.GatewayReceipts
open Soroban Store Receipts ReceiptChecks ReceiptHistories RealPayments HeldReceipts EscrowHistory
open PurchaseEscrow (Host World Purchase Action run)
open MandateAnchor (hexDigits)
open PurchaseEscrow (Call Env step)

variable {host : Host} (lib : Libraries)

/-! ### Issued receipts -/

def signingInput (account : String) (claims : ReceiptClaims) : String :=
  lib.writeHeader ⟨"JWT", "did:stellar:testnet:" ++ account ++ "#key-1"⟩ ++ "." ++ lib.writePayload claims

/-- What is documented of the libraries, said of one receipt: JSON and bytes in base64url are read back, and a signature
    verifies with its own key. -/
structure Documented (secret account : String) (claims : ReceiptClaims) : Prop where
  valid : lib.isStellarAccount account = true
  header : isBase64url (lib.writeHeader ⟨"JWT", "did:stellar:testnet:" ++ account ++ "#key-1"⟩).toList = true ∧
    lib.readHeader (lib.writeHeader ⟨"JWT", "did:stellar:testnet:" ++ account ++ "#key-1"⟩) =
      some (some ⟨"JWT", "did:stellar:testnet:" ++ account ++ "#key-1"⟩)
  payload : isBase64url (lib.writePayload claims).toList = true ∧
    lib.readPayload (lib.writePayload claims) = some (some ⟨claims, toString claims.amountUSDCAtomic⟩)
  signature : isBase64url (lib.writeSignature (lib.sign secret (signingInput lib account claims))).toList = true ∧
    lib.readSignature (lib.writeSignature (lib.sign secret (signingInput lib account claims))) =
      lib.sign secret (signingInput lib account claims)
  verifies : (lib.sign secret (signingInput lib account claims)).length = 64 ∧
    lib.verify account (signingInput lib account claims) (lib.sign secret (signingInput lib account claims)) = true

/-- A receipt that a gateway has signed with its store's key. -/
structure Issued (secret account : String) (claims : ReceiptClaims) (jws : String) : Prop where
  key : lib.publicKey secret = some account
  named : claims.merchantDid = "did:stellar:testnet:" ++ account
  signed : ∃ hash, signReceipt (crypto lib) claims secret = .ok ⟨jws, hash⟩
  documented : Documented lib secret account claims

section
variable {lib}

theorem base64url_char {segment : List Char} (base64url : isBase64url segment = true) {c : Char} (member : c ∈ segment) :
    c ≠ '.' ∧ isSpace c = false := by
  simp only [isBase64url, Bool.and_eq_true, List.all_eq_true] at base64url
  have one := base64url.2 c member
  constructor
  · rintro rfl
    simp at one
  · have range : 32 < c.toNat ∧ c.toNat < 127 := by
      simp only [Char.isAlphanum, Char.isAlpha, Char.isUpper, Char.isLower, Char.isDigit, UInt32.le_iff_toNat_le,
        Bool.or_eq_true, Bool.and_eq_true, decide_eq_true_eq] at one
      rcases one with (((one | one) | one) | rfl) | rfl
      · exact ⟨lt_of_lt_of_le (by decide) one.1, lt_of_le_of_lt one.2 (by decide)⟩
      · exact ⟨lt_of_lt_of_le (by decide) one.1, lt_of_le_of_lt one.2 (by decide)⟩
      · exact ⟨lt_of_lt_of_le (by decide) one.1, lt_of_le_of_lt one.2 (by decide)⟩
      · decide
      · decide
    exact DecimalTexts.not_space range.1 range.2

theorem segments_read {h p s : String} (header : isBase64url h.toList = true) (payload : isBase64url p.toList = true)
    (signature : isBase64url s.toList = true) :
    (trim (h ++ "." ++ p ++ "." ++ s).toList).splitOn '.' = [h.toList, p.toList, s.toList] := by
  have text : (h ++ "." ++ p ++ "." ++ s).toList = ['.'].intercalate [h.toList, p.toList, s.toList] := by
    simp [String.toList_append, List.intercalate]
  have plain : ∀ c ∈ (h ++ "." ++ p ++ "." ++ s).toList, isSpace c = false := by
    intro c member
    simp only [String.toList_append, List.mem_append] at member
    rcases member with ((((member | member) | member) | member) | member)
    · exact (base64url_char header member).2
    · rw [show c = '.' by simpa using member]
      rfl
    · exact (base64url_char payload member).2
    · rw [show c = '.' by simpa using member]
      rfl
    · exact (base64url_char signature member).2
  rw [DecimalTexts.trim_plain plain, text]
  refine List.splitOn_intercalate '.' (fun segment member => ?_) (by simp)
  simp only [List.mem_cons, List.not_mem_nil, or_false] at member
  rcases member with rfl | rfl | rfl
  · exact fun dot => (base64url_char header dot).1 rfl
  · exact fun dot => (base64url_char payload dot).1 rfl
  · exact fun dot => (base64url_char signature dot).1 rfl

theorem withoutFragment_key {did : List Char} (plain : '#' ∉ did) : withoutFragment (did ++ "#key-1".toList) = did := by
  induction did with
  | nil => rfl
  | cons c rest ih =>
    rw [List.cons_append, withoutFragment, if_neg, ih fun member => plain (List.mem_cons_of_mem _ member)]
    intro both
    simp only [Bool.and_eq_true, decide_eq_true_eq] at both
    exact plain (both.1 ▸ List.mem_cons_self)

theorem parseStellarDid_account {account : String} (valid : lib.isStellarAccount account = true)
    (key : didKey account.toList = true) : parseStellarDid lib ("did:stellar:testnet:" ++ account) = some account := by
  have length : account.toList.length = 56 := by
    unfold didKey at key
    split at key
    · rename_i rest text
      simp only [Bool.and_eq_true, decide_eq_true_eq] at key
      rw [text, List.length_cons, key.1]
    · cases key
  have last : ("did:stellar:testnet:" ++ account).toList.rtake 56 = account.toList := by
    rw [String.toList_append, List.rtake_eq_reverse_take_reverse, List.reverse_append, List.take_append_of_le_length,
      List.take_of_length_le, List.reverse_reverse]
    · simp [length]
    · simp [length]
  have schema : stellarDidSchema ("did:stellar:testnet:" ++ account) = true := by
    simp only [stellarDidSchema, List.any_cons, Bool.or_eq_true, Bool.and_eq_true, List.isPrefixOf_iff_prefix]
    left
    rw [String.toList_append]
    exact ⟨List.prefix_append _ _, by rw [List.drop_left]; exact key⟩
  unfold parseStellarDid
  rw [last, String.ofList_toList, if_pos (by rw [schema, valid]; rfl)]

theorem bigInt_toString (n : Nat) : bigInt (toString n) = n := by
  rw [bigInt, Nat.toString_eq_repr, Nat.toList_repr, Nat.ofDigitChars_ten_toDigits]

theorem payload_claims (claims : ReceiptClaims) :
    (ReceiptPayload.mk claims (toString claims.amountUSDCAtomic)).claims = claims := by
  rw [ReceiptPayload.claims, bigInt_toString]

theorem didKey_plain {account : List Char} (key : didKey account = true) : '#' ∉ account := by
  unfold didKey at key
  split at key
  · simp only [Bool.and_eq_true, List.all_eq_true] at key
    intro member
    rcases List.mem_cons.mp member with impossible | member
    · cases impossible
    · exact absurd (key.2 '#' member) (by decide)
  · cases key

abbrev written (claims : ReceiptClaims) : ReceiptPayload := ⟨claims, toString claims.amountUSDCAtomic⟩

variable {secret account jws : String} {claims : ReceiptClaims}

theorem signJws_ok (key : lib.publicKey secret = some account) (documented : Documented lib secret account claims) :
    signJws lib claims secret = .ok (signingInput lib account claims ++ "." ++
      lib.writeSignature (lib.sign secret (signingInput lib account claims))) := by
  unfold signJws
  rw [key]
  dsimp only
  rw [stellarDid, if_neg (by rw [documented.valid]; simp)]
  rfl

theorem decodeJws_segments {h p s : String} {header : JwsHeader} {payload : Option ReceiptPayload}
    (headerText : isBase64url h.toList = true) (payloadText : isBase64url p.toList = true)
    (signatureText : isBase64url s.toList = true) (readHeader : lib.readHeader h = some (some header))
    (readPayload : lib.readPayload p = some payload) : decodeJws lib (h ++ "." ++ p ++ "." ++ s) =
      .ok ⟨header, payload, h ++ "." ++ p, lib.readSignature s⟩ := by
  unfold decodeJws
  rw [segments_read headerText payloadText signatureText]
  dsimp only
  rw [if_neg (by simp [headerText, payloadText, signatureText])]
  simp only [String.ofList_toList, readHeader, readPayload]

theorem decodeJws_signed (documented : Documented lib secret account claims) :
    decodeJws lib (signingInput lib account claims ++ "." ++
      lib.writeSignature (lib.sign secret (signingInput lib account claims))) =
      .ok ⟨⟨"JWT", "did:stellar:testnet:" ++ account ++ "#key-1"⟩, some (written claims), signingInput lib account claims,
        lib.sign secret (signingInput lib account claims)⟩ := by
  have read := decodeJws_segments documented.header.1 documented.payload.1 documented.signature.1 documented.header.2
    documented.payload.2
  rw [documented.signature.2] at read
  exact read

theorem issued_signed (strKeys : StrKeys lib) (issued : Issued lib secret account claims jws) :
    Signed lib jws (written claims) := by
  obtain ⟨key, named, ⟨hash, signs⟩, documented⟩ := issued
  unfold signReceipt at signs
  split_ifs at signs with schema
  · split at signs
    · cases signs
    · rename_i coherent
      cases signs
      have text : (crypto lib).signJws claims secret = signingInput lib account claims ++ "." ++
          lib.writeSignature (lib.sign secret (signingInput lib account claims)) := by
        change (signJws lib claims secret).toOption.getD "" = _
        rw [signJws_ok key documented]
        rfl
      obtain ⟨_, didKey_⟩ := strKeys.account account documented.valid
      have fragment : String.ofList (withoutFragment ("did:stellar:testnet:" ++ account ++ "#key-1").toList) =
          "did:stellar:testnet:" ++ account := by
        rw [String.toList_append, withoutFragment_key, String.ofList_toList]
        rw [String.toList_append, List.mem_append, not_or]
        exact ⟨by decide, didKey_plain didKey_⟩
      rw [text]
      refine ⟨⟨_, account, decodeJws_signed documented, rfl, ?_, ?_, documented.verifies⟩, ?_, ?_⟩
      · rw [payload_claims, named]
        exact fragment
      · rw [payload_claims, named]
        exact parseStellarDid_account documented.valid didKey_
      · rw [payloadSchema, payload_claims, schema, Bool.and_true]
        simp only [atomicStringSchema, Nat.toString_eq_repr, Nat.toList_repr, Bool.and_eq_true, decide_eq_true_eq,
          List.all_eq_true]
        exact ⟨Nat.toDigits_ne_nil, fun c member => FixedPoint.isDigit_of_mem member⟩
      · rw [payload_claims]
        exact coherent

end

/-! ### Anchored and held receipts -/

/-- A gateway's own call has anchored its receipt. -/
def GatewayAnchored (h : History host) (account : String) (claims : ReceiptClaims) (jws : String) : Prop :=
  ∃ (before : List Anchoring) (a : Anchoring) (after : List Anchoring), h.anchorings = before ++ a :: after ∧
    (∃ w', a.invoke (registryAfter h.registryId before) = .ok w') ∧ lib.strKey a.merchant = account ∧
    a.hash = lib.sha256 (trimmed jws) ∧ a.amount = claims.amountUSDCAtomic ∧
    a.order_ref = utf8Bytes claims.orderId

def holding (claims : ReceiptClaims) (jws : String) (payer : Address) (tx : BytesN 32) : Call :=
  .hold (utf8Bytes claims.orderId) payer claims.amountUSDCAtomic tx (lib.sha256 (trimmed jws))

/-- And has held it, in an escrow of its store, when it declares one. -/
def GatewayHeld (h : History host) (account : String) (claims : ReceiptClaims) (jws : String) : Prop :=
  ∀ escrow, claims.escrow = some escrow → ∃ d before env payer tx after, h.contracts escrow = some (.purchaseEscrow d) ∧
    lib.strKey d.world.config.operator = account ∧ lib.strKey d.world.config.payee = claims.merchantAccount ∧
    d.actions = before ++ .call env (holding lib claims jws payer tx) :: after ∧
    (∃ w', PurchaseEscrow.invoke env (holding lib claims jws payer tx) (run d.world before).1 = .ok w') ∧
    lib.strKey payer = claims.payerAccount ∧ hashToBytes claims.settlementTxHash = .ok tx

section
variable {lib} {secret account jws : String} {claims : ReceiptClaims} {h : History host}

theorem issued_did (strKeys : StrKeys lib) (issued : Issued lib secret account claims jws) :
    parseStellarDid lib claims.merchantDid = some account := by
  rw [issued.named]
  exact parseStellarDid_account issued.documented.valid (strKeys.account account issued.documented.valid).2

theorem gateway_anchored (strKeys : StrKeys lib) (issued : Issued lib secret account claims jws)
    (anchored : GatewayAnchored lib h account claims jws) : Anchored lib h jws (written claims) := by
  obtain ⟨before, a, after, calls, ran, merchant, hash, amount, order⟩ := anchored
  refine ⟨account, a, ?_, ⟨before, after, calls, ran⟩, merchant, hash, ?_, ?_⟩
  · rw [payload_claims]
    exact issued_did strKeys issued
  · rw [amount]
    rfl
  · rw [order, utf8Text_utf8Bytes, payload_claims]

/-- What was held for a payment is read of it ever after. -/
theorem byTx_held (d : Deployment host) {before after : List (Action host)} {env : Env} {w' : World host}
    {order : String} {payer : Address} {amount : Int} {tx hash : BytesN 32} {txHash : String}
    (calls : d.actions = before ++ .call env (.hold (utf8Bytes order) payer amount tx hash) :: after)
    (ran : PurchaseEscrow.invoke env (.hold (utf8Bytes order) payer amount tx hash) (run d.world before).1 = .ok w')
    (decoded : hashToBytes txHash = .ok tx) : ∃ status, (escrowReader lib d.now).byTx txHash =
      .ok (some ⟨order, lib.strKey payer, amount, hexDigits hash, status⟩) := by
  have records := EscrowCalls.hold_ok ran
  have stepped : step (run d.world before).1 (.call env (.hold (utf8Bytes order) payer amount tx hash)) =
      (w', [⟨env, .hold (utf8Bytes order) payer amount tx hash, w'.moved⟩]) := by
    simp only [step, ran]
  have split : d.now = (run w' after).1 := by
    rw [Deployment.now, calls, run, Traces.exec_append, Traces.exec_cons]
    change (Traces.exec step (step (run d.world before).1 _).1 after).1 = _
    rw [stepped]
    rfl
  have recorded := recorded_step (run_recorded d.deployed before) (.call env (.hold (utf8Bytes order) payer amount tx hash))
  rw [stepped] at recorded
  obtain ⟨paid, q, found, same⟩ := run_holds recorded (by rw [records.payments, lookup_insert, if_pos rfl])
    (by rw [records.purchases, lookup_insert, if_pos rfl]) after
  rw [← split] at paid found
  obtain ⟨_, sound⟩ := (run_recorded d.deployed d.actions).solvent.stored _ _ found
  have read : EscrowEvents.decodePurchase q = some (EscrowEvents.asRead q) :=
    EscrowEvents.decodePurchase_sound sound (same.order_ref ▸ EscrowEvents.hold_referable ran)
  refine ⟨EscrowEvents.statusMap q.status, ?_⟩
  unfold escrowReader
  dsimp only
  rw [decoded]
  dsimp only [bind, Except.bind]
  rw [paid]
  dsimp only
  rw [utf8Text_utf8Bytes, found]
  dsimp only
  rw [decodePurchase, read]
  dsimp only [Except.map]
  rw [same.order_ref, same.payer, same.amount, same.receipt_hash]
  exact congrArg (fun text => Except.ok (some (EscrowPurchase.mk text _ _ _ _))) (utf8Text_utf8Bytes lib order)

theorem gateway_held (strKeys : StrKeys lib) (issued : Issued lib secret account claims jws)
    (held : GatewayHeld lib h account claims jws) : Held lib h jws (written claims) := by
  intro escrow has
  rw [payload_claims] at has
  obtain ⟨d, before, env, payer, tx, after, there, operator, payee, calls, ⟨w', ran⟩, paid, decoded⟩ := held escrow has
  obtain ⟨status, read⟩ := byTx_held d calls ran decoded
  have config : d.now.config = d.world.config := (run_recorded d.deployed d.actions).sameConfig
  refine ⟨d, ⟨claims.orderId, lib.strKey payer, claims.amountUSDCAtomic, hexDigits (lib.sha256 (trimmed jws)), status⟩, there,
    ?_, ?_, ?_, rfl, ?_, ?_, rfl⟩
  · rw [payload_claims, config, operator]
    exact issued_did strKeys issued
  · rw [payload_claims, config, payee]
  · rw [payload_claims]
    exact read
  · rw [payload_claims]
  · rw [payload_claims]
    exact paid

end

end AgentPey.GatewayReceipts
