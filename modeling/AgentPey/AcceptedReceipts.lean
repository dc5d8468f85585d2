import AgentPey.GatewayReceipts

/-!
What it means that a receipt is accepted, and when a gateway's own is. Where a debit of the payer and a credit of the payee
among the first effects are not those of one transfer, a receipt is accepted that nobody has paid; and where its transfer
is not among the first, one is refused that was paid.
-/
namespace AgentPey.AcceptedReceipts
open Soroban Receipts ReceiptChecks ReceiptHistories RealPayments HeldReceipts GatewayReceipts EscrowHistory
open PurchaseEscrow (Host)
open MandateAnchor (hexDigits)

variable {host : Host} (lib : Libraries)

/-! ### What a verdict promises -/

/-- A receipt that its merchant has signed and anchored, for one transfer of its amount from its payer to its payee. -/
structure Paid (h : History host) (jws : String) (payload : ReceiptPayload) : Prop where
  signed : Signed lib jws payload
  anchored : ∃ account a, parseStellarDid lib payload.claims.merchantDid = some account ∧
    AnchoredBy lib h account (lib.sha256 (trimmed jws)) payload a ∧ a.env.authorised a.merchant = true ∧
    a.amount = payload.claims.amountUSDCAtomic
  transferred : ∃ tx, Cites h payload tx ∧ Transferred payload.claims tx.transfers

/-- A receipt is accepted, as everything is now. -/
def Accepts (h : History host) (contractId : Option String) (attempts : Nat) (jws : String) (payload : ReceiptPayload) : Prop :=
  ∃ v, verifyReceipt lib jws (h.options lib contractId attempts) = .ok v ∧ v.valid = true ∧ v.receipt = some payload

/-- What the verdict on a receipt promises: an accepted one is paid; a gateway's own that is paid is accepted; and no two
    are ever accepted for one payment into an escrow. -/
structure Verified (h : History host) (contractId : Option String) (attempts : Nat) (jws : String) : Prop where
  sound : ∀ v, verifyReceipt lib jws (h.options lib contractId attempts) = .ok v → v.valid = true →
    ∃ payload, v.receipt = some payload ∧ Paid lib h jws payload
  complete : ∀ secret account claims tx, Issued lib secret account claims jws → GatewayAnchored lib h account claims jws →
    GatewayHeld lib h account claims jws → Cites h (written claims) tx → Transferred claims tx.transfers →
    Accepts lib h contractId attempts jws (written claims)
  once : ∀ (later : History host) jws' payload payload' escrow, h.Before later → Accepts lib h contractId attempts jws payload →
    Accepts lib later contractId attempts jws' payload' → payload.claims.escrow = some escrow →
    payload'.claims.escrow = some escrow → payload'.claims.settlementTxHash = payload.claims.settlementTxHash →
    lib.sha256 (trimmed jws') = lib.sha256 (trimmed jws)

/-- In the transaction that a signed, anchored and held receipt cites, a debit of its payer and a credit of its payee among
    the first 25 transfers are those of one transfer; and its transfer, if it is a gateway's own, has such ones there. -/
structure OneTransfer (h : History host) (jws : String) : Prop where
  paired : ∀ payload tx, Signed lib jws payload → Anchored lib h jws payload → Held lib h jws payload → Cites h payload tx →
    Debited payload.claims (tx.transfers.take 25) → Credited payload.claims (tx.transfers.take 25) →
    Transferred payload.claims tx.transfers
  listed : ∀ secret account claims tx, Issued lib secret account claims jws → GatewayAnchored lib h account claims jws →
    GatewayHeld lib h account claims jws → Cites h (written claims) tx → Transferred claims tx.transfers →
    Debited claims (tx.transfers.take 25) ∧ Credited claims (tx.transfers.take 25)

section
variable {lib} {h : History host} {jws : String} {payload : ReceiptPayload} {contractId : Option String} {attempts : Nat}

theorem accepts_iff (strKeys : StrKeys lib) : Accepts lib h contractId attempts jws payload ↔ Accepted lib h jws payload := by
  obtain ⟨v, ran, _, iff⟩ := verifyReceipt_ok strKeys h jws contractId attempts
  constructor
  · rintro ⟨v', ran', valid⟩
    rw [ran] at ran'
    cases ran'
    exact (iff payload).mp valid
  · intro accepted
    exact ⟨v, ran, (iff payload).mpr accepted⟩

theorem cites_unique {tx tx' : Transaction} (cites : Cites h payload tx) (cites' : Cites h payload tx') : tx = tx' :=
  Option.some.inj (cites.1.symm.trans cites'.1)

theorem anchored_amount {account : String} {hash : BytesN 32} {a : Anchoring} (anchored : AnchoredBy lib h account hash payload a) :
    a.env.authorised a.merchant = true ∧ a.amount = payload.claims.amountUSDCAtomic := by
  obtain ⟨before, after, _, w', ran⟩ := anchored.called
  obtain ⟨authorised, positive, _⟩ := ReceiptRegistry.invoke_effect ran
  refine ⟨authorised, ?_⟩
  obtain ⟨n, natural⟩ : ∃ n : Nat, a.amount = n := ⟨a.amount.toNat, by omega⟩
  have text := anchored.amount
  rw [natural] at text ⊢
  rw [show payload.claims.amountUSDCAtomic = bigInt payload.amountUSDCAtomic from rfl, ← text]
  exact congrArg Nat.cast (bigInt_toString n).symm

/-- An escrow names one receipt for a payment, at any two times. -/
theorem accepted_once {later : History host} {jws' : String} {payload' : ReceiptPayload} {escrow : String}
    (before : h.Before later) (accepted : Accepted lib h jws payload) (accepted' : Accepted lib later jws' payload')
    (has : payload.claims.escrow = some escrow) (has' : payload'.claims.escrow = some escrow)
    (same : payload'.claims.settlementTxHash = payload.claims.settlementTxHash) :
    lib.sha256 (trimmed jws') = lib.sha256 (trimmed jws) := by
  obtain ⟨d, p, there, held⟩ := accepted.held escrow has
  obtain ⟨d', p', there', held'⟩ := accepted'.held escrow has'
  obtain ⟨d'', more, there'', world, actions⟩ := before escrow d there
  rw [there''] at there'
  cases there'
  have read := held'.purchase
  rw [same, Deployment.now, world, actions] at read
  have hashes := byTx_later d more held.purchase read
  rw [held.receipt, held'.receipt] at hashes
  exact hexDigits_inj hashes

/-- A verdict keeps its promises exactly when debits and credits are those of one transfer. -/
theorem verified_iff (strKeys : StrKeys lib) (h : History host) (contractId : Option String) (attempts : Nat) (jws : String) :
    Verified lib h contractId attempts jws ↔ OneTransfer lib h jws := by
  constructor
  · intro verified
    refine ⟨fun payload tx signed anchored held cites debited credited => ?_,
      fun secret account claims tx issued anchored held cites transferred => ?_⟩
    · obtain ⟨v, ran, valid, read⟩ : Accepts lib h contractId attempts jws payload :=
        (accepts_iff strKeys).mpr ⟨signed, anchored, held, tx, cites, debited, credited⟩
      obtain ⟨payload', read', paid⟩ := verified.sound v ran valid
      rw [read] at read'
      cases read'
      obtain ⟨tx', cites', transferred⟩ := paid.transferred
      rwa [cites_unique cites cites']
    · obtain ⟨tx', cites', both⟩ :=
        ((accepts_iff strKeys).mp (verified.complete secret account claims tx issued anchored held cites transferred)).settled
      rw [cites_unique cites cites']
      rwa [payload_claims] at both
  · intro one
    refine ⟨fun v ran valid => ?_, fun secret account claims tx issued anchored held cites transferred => ?_,
      fun later jws' payload payload' escrow before accepts accepts' has has' same => ?_⟩
    · obtain ⟨v', ran', some_, iff⟩ := verifyReceipt_ok strKeys h jws contractId attempts
      rw [ran] at ran'
      cases ran'
      obtain ⟨payload, read⟩ := Option.isSome_iff_exists.mp (some_ valid)
      obtain ⟨signed, anchored, held, tx, cites, debited, credited⟩ := (iff payload).mp ⟨valid, read⟩
      obtain ⟨account, a, parsed, by_⟩ := anchored
      exact ⟨payload, read, signed, ⟨account, a, parsed, by_, anchored_amount by_⟩, tx, cites,
        one.paired payload tx signed ⟨account, a, parsed, by_⟩ held cites debited credited⟩
    · obtain ⟨debited, credited⟩ := one.listed secret account claims tx issued anchored held cites transferred
      refine (accepts_iff strKeys).mpr ⟨issued_signed strKeys issued, gateway_anchored strKeys issued anchored,
        gateway_held strKeys issued held, tx, cites, ?_, ?_⟩
      · rwa [payload_claims]
      · rwa [payload_claims]
    · exact accepted_once before ((accepts_iff strKeys).mp accepts) ((accepts_iff strKeys).mp accepts') has has' same

theorem oneTransfer_of_single (single : ∀ hash tx, h.transactions hash = some tx → ∃ t, tx.transfers = [t]) :
    OneTransfer lib h jws := by
  refine ⟨fun payload tx _ _ _ cites debited credited => ?_, fun secret account claims tx _ _ _ cites transferred => ?_⟩
  · obtain ⟨t, all⟩ := single _ tx cites.1
    rw [all] at debited credited ⊢
    obtain ⟨_, member, pays_, src⟩ := debited
    obtain ⟨_, member', _, dst⟩ := credited
    cases List.mem_singleton.mp member
    cases List.mem_singleton.mp member'
    exact ⟨t, List.mem_singleton_self t, pays_, src, dst⟩
  · obtain ⟨t, all⟩ := single _ tx cites.1
    rw [all] at transferred ⊢
    obtain ⟨t, member, pays_, src, dst⟩ := transferred
    exact ⟨⟨t, member, pays_, src⟩, t, member, pays_, dst⟩

end

/-! ### A receipt for one unit -/

def sampleMerchant : String := "G" ++ String.ofList (List.replicate 55 'A')
def samplePayer : String := "G" ++ String.ofList (List.replicate 55 'B')
def sampleOther : String := "G" ++ String.ofList (List.replicate 55 'D')
def sampleDid : String := "did:stellar:testnet:" ++ sampleMerchant
def sampleTx : String := String.ofList (List.replicate 64 'a')
def sampleReceiptHash : BytesN 32 := filled 7

def sampleClaims : ReceiptClaims where
  typ := RECEIPT_TYPE
  orderId := "order-1"
  platformOrderId := none
  platform := "mock"
  merchantDid := sampleDid
  merchantAccount := sampleMerchant
  payerAccount := samplePayer
  network := STELLAR_TESTNET_CAIP2
  asset := USDC_CONTRACT
  amountUSDC := "1"
  amountUSDCAtomic := 10000000
  settlementTxHash := sampleTx
  items := [⟨"tea", "TEA-1", "Green tea", 1, "1", 10000000⟩]
  issuedAt := 0
  refundWindowEndsAt := 0
  escrow := none

/-- One key, which signs with zeros, and one receipt. -/
def sampleLibraries : Libraries where
  isStellarAccount address := didKey address.toList
  isStellarContractId address := isContract address
  strKey _ := sampleMerchant
  publicKey secret := if secret = "SMERCHANT" then some sampleMerchant else none
  sign _ _ := List.replicate 64 0
  verify account _ signature := account = sampleMerchant && signature = List.replicate 64 0
  sha256 _ := sampleReceiptHash
  writeHeader _ := "header"
  readHeader text := if text = "header" then some (some ⟨"JWT", sampleDid ++ "#key-1"⟩) else none
  writePayload _ := "payload"
  readPayload text := if text = "payload" then some (some (written sampleClaims)) else none
  writeSignature _ := "signature"
  readSignature _ := List.replicate 64 0
  replaced _ := ""

theorem sampleLibraries_strKeys : StrKeys sampleLibraries where
  account address valid := by
    refine ⟨?_, valid⟩
    change didKey address.toList = true at valid
    unfold didKey at valid
    split at valid
    · rename_i text
      rw [isContract, text]
      rfl
    · cases valid
  contract _ valid := valid

def sampleAnchoring : Anchoring :=
  ⟨⟨0, 0, fun _ => true⟩, sampleReceiptHash, .account sampleReceiptHash, 10000000, utf8Bytes "order-1"⟩

/-- Its merchant has anchored the receipt, and its transaction has made these transfers. -/
def sampleHistory (transfers : List Transfer) : History PurchaseEscrow.sampleHost where
  registryId := sampleReceiptHash
  anchorings := [sampleAnchoring]
  transactions hash := if hash = sampleTx then some ⟨true, 1, "", sampleOther, transfers⟩ else none
  contracts _ := none

def unit (src dst : String) : Transfer := ⟨USDC_CODE, USDC_ISSUER, src, dst, 10000000⟩

theorem account_letters (c : Char) : ("G" ++ String.ofList (List.replicate 55 c)).toList = 'G' :: List.replicate 55 c := by
  simp

theorem sample_account (address : String) : sampleLibraries.isStellarAccount address = didKey address.toList := rfl

theorem sample_key {c : Char} (known : c = 'A' ∨ c = 'B' ∨ c = 'D') :
    sampleLibraries.isStellarAccount ("G" ++ String.ofList (List.replicate 55 c)) = true := by
  rw [sample_account, account_letters]
  obtain rfl | rfl | rfl := known
  all_goals decide

theorem sample_did : stellarDidSchema sampleDid = true := by
  unfold stellarDidSchema sampleDid
  rw [String.toList_append, sampleMerchant, account_letters]
  simp only [@String.toList_ofList _, List.any_cons]
  decide

theorem sample_asset : isContract USDC_CONTRACT = true := by
  rw [isContract, USDC_CONTRACT, String.toList_ofList, String.toList_ofList]
  decide

theorem sample_hash : txHashSchema sampleTx = true := by
  have letters : sampleTx.toList = List.replicate 64 'a' := String.toList_ofList
  unfold txHashSchema
  rw [letters]
  decide

theorem sample_documented : Documented sampleLibraries "SMERCHANT" sampleMerchant sampleClaims := by
  refine ⟨sample_key (.inl rfl), ⟨by decide, ?_⟩, ⟨by decide, rfl⟩, ⟨by decide, rfl⟩, by decide,
    by decide⟩
  rfl

theorem sample_schema : receiptClaimsSchema (crypto sampleLibraries) sampleClaims = true := by
  have merchant : sampleLibraries.isStellarAccount sampleMerchant = true := sample_key (.inl rfl)
  have payer : sampleLibraries.isStellarAccount samplePayer = true := sample_key (.inr (.inl rfl))
  have contract : sampleLibraries.isStellarContractId USDC_CONTRACT = true := sample_asset
  have amount : decimalStringSchema "1" = true := by decide
  simp only [receiptClaimsSchema, stellarPayerSchema, crypto, sampleClaims, sample_did, sample_hash, merchant, payer, contract,
    amount, Bool.and_eq_true, decide_eq_true_eq]
  simp [receiptItemSchema, amount, isoDatetime]

theorem sample_issued : Issued sampleLibraries "SMERCHANT" sampleMerchant sampleClaims "header.payload.signature" where
  key := rfl
  named := rfl
  signed := by
    have written : (signJws sampleLibraries sampleClaims "SMERCHANT").toOption.getD "" = "header.payload.signature" := by
      rw [signJws_ok rfl sample_documented]
      show signingInput sampleLibraries sampleMerchant sampleClaims ++ "." ++ "signature" = _
      decide
    have coherent : receiptIncoherence sampleClaims = none := by decide
    refine ⟨receiptHash (crypto sampleLibraries) "header.payload.signature", ?_⟩
    unfold signReceipt
    rw [if_neg (not_not_intro sample_schema), coherent]
    exact congrArg Except.ok (congrArg₂ Receipt.mk written (congrArg (receiptHash (crypto sampleLibraries)) written))
  documented := sample_documented

theorem sample_anchored (transfers : List Transfer) :
    GatewayAnchored sampleLibraries (sampleHistory transfers) sampleMerchant sampleClaims "header.payload.signature" :=
  ⟨[], sampleAnchoring, [], rfl, ⟨_, rfl⟩, rfl, rfl, rfl, rfl⟩

theorem sample_held (transfers : List Transfer) :
    GatewayHeld sampleLibraries (sampleHistory transfers) sampleMerchant sampleClaims "header.payload.signature" := by
  rintro escrow ⟨⟩

/-- The payer has paid the merchant: the receipt is accepted. -/
theorem verified_iff_sample : Verified sampleLibraries (sampleHistory [unit samplePayer sampleMerchant]) none 0
      "header.payload.signature" ∧
    Accepts sampleLibraries (sampleHistory [unit samplePayer sampleMerchant]) none 0 "header.payload.signature"
      (written sampleClaims) := by
  have single : ∀ hash tx, (sampleHistory [unit samplePayer sampleMerchant]).transactions hash = some tx →
      ∃ t, tx.transfers = [t] := by
    intro hash tx found
    change (if hash = sampleTx then _ else none) = some tx at found
    split_ifs at found
    cases found
    exact ⟨_, rfl⟩
  have verified : Verified sampleLibraries (sampleHistory [unit samplePayer sampleMerchant]) none 0
      "header.payload.signature" :=
    (verified_iff sampleLibraries_strKeys (sampleHistory [unit samplePayer sampleMerchant]) none 0
      "header.payload.signature").mpr (oneTransfer_of_single single)
  refine ⟨verified, verified.complete "SMERCHANT" sampleMerchant sampleClaims
    ⟨true, 1, "", sampleOther, [unit samplePayer sampleMerchant]⟩ sample_issued (sample_anchored _) (sample_held _) ?_ ?_⟩
  · exact ⟨rfl, rfl⟩
  · exact ⟨_, List.mem_singleton_self _, by decide, rfl, rfl⟩

/-- The payer has paid somebody else, and somebody else the merchant: it is accepted all the same. -/
theorem accepted_unpaid : ¬Verified sampleLibraries
    (sampleHistory [unit samplePayer sampleOther, unit sampleOther sampleMerchant]) none 0 "header.payload.signature" := by
  intro verified
  have settled : ∃ tx, Cites (sampleHistory [unit samplePayer sampleOther, unit sampleOther sampleMerchant])
      (written sampleClaims) tx ∧ Debited sampleClaims (tx.transfers.take 25) ∧
      Credited sampleClaims (tx.transfers.take 25) :=
    ⟨_, ⟨rfl, rfl⟩, ⟨_, .head _, by decide, rfl⟩, ⟨_, .tail _ (.head _), by decide, rfl⟩⟩
  have accepted : Accepted sampleLibraries (sampleHistory [unit samplePayer sampleOther, unit sampleOther sampleMerchant])
      "header.payload.signature" (written sampleClaims) :=
    ⟨issued_signed sampleLibraries_strKeys sample_issued,
      gateway_anchored sampleLibraries_strKeys sample_issued (sample_anchored _),
      gateway_held sampleLibraries_strKeys sample_issued (sample_held _), settled⟩
  obtain ⟨v, ran, valid, read⟩ := (accepts_iff sampleLibraries_strKeys).mpr accepted
  obtain ⟨payload, receipt, paid⟩ := verified.sound v ran valid
  rw [read] at receipt
  cases receipt
  obtain ⟨tx, ⟨cited, _⟩, t, member, _, src, dst⟩ := paid.transferred
  cases cited
  have unpaid : [unit samplePayer sampleOther, unit sampleOther sampleMerchant].all (fun t =>
      t.src ≠ sampleClaims.payerAccount || t.dst ≠ payee sampleClaims) = true := by
    decide
  have other := List.all_eq_true.mp unpaid t member
  rw [payload_claims] at src dst
  simp [src, dst] at other

end AgentPey.AcceptedReceipts
