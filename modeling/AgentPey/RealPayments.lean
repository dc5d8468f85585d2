import AgentPey.ReceiptHistories
import AgentPey.ReceiptedOrders

/-!
What an accepted receipt says. Its signature, its anchored record and the purchase that an escrow holds are what they
are called; but its payment is inferred from a debit of the payer and a credit of the merchant among the first effects
of a transaction, which need not be those of one transfer, nor of all transfers.
-/
namespace AgentPey.RealPayments
open Soroban Store Receipts ReceiptChecks ReceiptHistories
open PurchaseEscrow (Host World Purchase)
open MandateAnchor (hexDigits)

variable {host : Host} (lib : Libraries)

/-! ### Signatures -/

def trimmed (jws : String) : String := String.ofList (trim jws.toList)

/-- A receipt that the key in its merchant's DID has signed, and that does not contradict itself. -/
structure Signed (jws : String) (payload : ReceiptPayload) : Prop where
  signed : ∃ decoded account, decodeJws lib jws = .ok decoded ∧ decoded.payload = some payload ∧
    String.ofList (withoutFragment decoded.header.kid.toList) = payload.claims.merchantDid ∧
    parseStellarDid lib payload.claims.merchantDid = some account ∧ decoded.signature.length = 64 ∧
    lib.verify account decoded.signingInput decoded.signature = true
  schema : payloadSchema lib payload = true
  coherent : receiptIncoherence payload.claims = none

section
variable {lib} {jws : String} {payload : ReceiptPayload}

theorem verifyJws_ok_iff (decoded : DecodedJws) (did : String) : (verifyJws lib decoded did).ok = true ↔
    String.ofList (withoutFragment decoded.header.kid.toList) = did ∧ ∃ account, parseStellarDid lib did = some account ∧
      decoded.signature.length = 64 ∧ lib.verify account decoded.signingInput decoded.signature = true := by
  unfold verifyJws
  generalize String.ofList (withoutFragment decoded.header.kid.toList) = text
  dsimp only
  cases parsed : parseStellarDid lib text with
  | none =>
    constructor
    · rintro ⟨⟩
    · rintro ⟨rfl, account, found, _⟩
      rw [parsed] at found
      cases found
  | some account =>
    by_cases same : text = did
    · subst same
      by_cases long : decoded.signature.length = 64
      · by_cases verified : lib.verify account decoded.signingInput decoded.signature = true
        · simp [long, verified, parsed]
        · simp [long, verified, parsed]
      · simp [long, parsed]
    · simp [same]

theorem signature_hash (jws : String) : (checkReceiptSignature lib jws).hash = hexDigits (lib.sha256 (trimmed jws)) := by
  unfold checkReceiptSignature
  split
  · rfl
  · split
    · rfl
    · dsimp only
      split <;> rfl

theorem signature_ok_iff (jws : String) (payload : ReceiptPayload) :
    ((checkReceiptSignature lib jws).ok = true ∧ (checkReceiptSignature lib jws).claims = some payload) ↔
      Signed lib jws payload := by
  unfold checkReceiptSignature
  cases parsed : decodeJws lib jws with
  | error e =>
    constructor
    · rintro ⟨⟨⟩, _⟩
    · rintro ⟨⟨decoded, _, impossible, _⟩, _, _⟩
      rw [parsed] at impossible
      cases impossible
  | ok decoded =>
    dsimp only
    cases read : decoded.payload.filter (payloadSchema lib) with
    | none =>
      constructor
      · rintro ⟨⟨⟩, _⟩
      · rintro ⟨⟨other, _, same, has, _⟩, schema, _⟩
        rw [parsed] at same
        cases same
        rw [has, Option.filter_some, if_pos schema] at read
        cases read
    | some found =>
      obtain ⟨has, schema⟩ := Option.filter_eq_some_iff.mp read
      dsimp only
      have own : Signed lib jws payload ↔ payload = found ∧ (verifyJws lib decoded found.claims.merchantDid).ok = true ∧
          receiptIncoherence found.claims = none := by
        rw [verifyJws_ok_iff]
        constructor
        · rintro ⟨⟨other, account, same, has', rest⟩, _, coherent⟩
          rw [parsed] at same
          cases same
          rw [has] at has'
          cases has'
          exact ⟨rfl, ⟨rest.1, account, rest.2⟩, coherent⟩
        · rintro ⟨rfl, ⟨names, account, rest⟩, coherent⟩
          exact ⟨⟨decoded, account, parsed, has, names, rest⟩, schema, coherent⟩
      rw [own]
      by_cases verified : (verifyJws lib decoded found.claims.merchantDid).ok = true
      · cases coherent : receiptIncoherence found.claims with
        | none => simp [verified, eq_comm]
        | some reason => simp [verified]
      · simp [verified]

theorem signature_schema (read : (checkReceiptSignature lib jws).claims = some payload) : payloadSchema lib payload = true := by
  unfold checkReceiptSignature at read
  split at read
  · cases read
  · split at read
    · cases read
    · rename_i found
      dsimp only at read
      have schema := (Option.filter_eq_some_iff.mp found).2
      split at read <;> cases read <;> exact schema

theorem signature_claims (ok : (checkReceiptSignature lib jws).ok = true) : (checkReceiptSignature lib jws).claims.isSome := by
  unfold checkReceiptSignature at ok ⊢
  split at ok
  · cases ok
  · split at ok
    · cases ok
    · dsimp only at ok ⊢
      split <;> rfl

theorem schema_addresses (schema : payloadSchema lib payload = true) :
    lib.isStellarAccount payload.claims.merchantAccount = true ∧
      ∀ escrow, payload.claims.escrow = some escrow → lib.isStellarContractId escrow = true := by
  simp only [payloadSchema, receiptClaimsSchema, Bool.and_eq_true, crypto] at schema
  refine ⟨by simp [schema.2], fun escrow has => ?_⟩
  have all := schema.2.2
  rw [has] at all
  exact all

end

/-! ### Settlements -/

def payee (claims : ReceiptClaims) : String := claims.escrow.getD claims.merchantAccount

def pays (expected : Nat) (t : Transfer) : Bool :=
  t.asset_code = USDC_CODE && t.asset_issuer = USDC_ISSUER && t.amount = expected

/-- One of the transfers is the receipt's payment. -/
def Transferred (claims : ReceiptClaims) (transfers : List Transfer) : Prop :=
  ∃ t ∈ transfers, pays claims.amountUSDCAtomic t = true ∧ t.src = claims.payerAccount ∧ t.dst = payee claims

def Debited (claims : ReceiptClaims) (transfers : List Transfer) : Prop :=
  ∃ t ∈ transfers, pays claims.amountUSDCAtomic t = true ∧ t.src = claims.payerAccount

def Credited (claims : ReceiptClaims) (transfers : List Transfer) : Prop :=
  ∃ t ∈ transfers, pays claims.amountUSDCAtomic t = true ∧ t.dst = payee claims

/-- What is documented of `StrKey`: accounts and contracts are told apart by their first letter. -/
structure StrKeys (lib : Libraries) : Prop where
  account : ∀ address, lib.isStellarAccount address = true → isContract address = false ∧ didKey address.toList = true
  contract : ∀ address, lib.isStellarContractId address = true → isContract address = true

section
variable {lib} {tx : Transaction} {t : Transfer} {expected : Nat}

theorem amountMatches_effectOn (party onAccount onContract : String) :
    amountMatches expected (effectOn tx t party onAccount onContract) = .ok (pays expected t) := by
  unfold amountMatches effectOn usdc pays
  by_cases code : t.asset_code = USDC_CODE
  · by_cases issuer : t.asset_issuer = USDC_ISSUER
    · simp [code, issuer, usdcAtomicToDecimal, DecimalTexts.parseDecimal_formatUnits, pure, Except.pure, bind, Except.bind]
    · simp [issuer]
  · simp [code]

variable {f : Transfer → Bool} {account type : String} {claims : ReceiptClaims}

theorem someEffect_effects {test : HorizonEffect → Except Failure Bool}
    (each : ∀ t, ∃ onDebit onCredit, test (debit tx t) = .ok onDebit ∧ test (credit tx t) = .ok onCredit ∧
      (onDebit || onCredit) = f t) (transfers : List Transfer) :
    someEffect test (effectsOf tx transfers) = .ok (transfers.any f) := by
  induction transfers with
  | nil => rfl
  | cons t rest ih =>
    obtain ⟨onDebit, onCredit, debits, credits, same⟩ := each t
    rw [effectsOf, List.flatMap_cons, List.cons_append, List.cons_append, List.nil_append, someEffect, debits, List.any_cons,
      ← same]
    cases onDebit with
    | true => rfl
    | false =>
      change someEffect test (credit tx t :: effectsOf tx rest) = _
      rw [someEffect, credits]
      cases onCredit with
      | true => rfl
      | false => exact ih

theorem account_test (plain : isContract account = false) {onAccount onContract : String} (other : onContract ≠ type)
    (party : String) : (if (effectOn tx t party onAccount onContract).type = type ∧
        (effectOn tx t party onAccount onContract).account = some account then
      amountMatches expected (effectOn tx t party onAccount onContract) else .ok false) =
      .ok (onAccount = type && pays expected t && party = account) := by
  rw [amountMatches_effectOn]
  by_cases contract : isContract party = true
  · have different : party ≠ account := by
      rintro rfl
      rw [plain] at contract
      cases contract
    rw [if_neg (by simp [effectOn, contract, other])]
    simp [different]
  · by_cases same : onAccount = type ∧ party = account
    · rw [if_pos (by simpa [effectOn, contract] using same)]
      simp [same]
    · rw [if_neg (by simpa [effectOn, contract] using same)]
      by_cases named : onAccount = type
      · simp [show party ≠ account from fun own => same ⟨named, own⟩]
      · simp [named]

variable {contract : String}

theorem contract_test (plain : isContract contract = true) {onAccount onContract : String} (_other : onAccount ≠ type)
    (party : String) : (if (effectOn tx t party onAccount onContract).type = type ∧
        (effectOn tx t party onAccount onContract).contract = some contract then
      amountMatches expected (effectOn tx t party onAccount onContract) else .ok false) =
      .ok (onContract = type && pays expected t && party = contract) := by
  rw [amountMatches_effectOn]
  by_cases isOne : isContract party = true
  · by_cases same : onContract = type ∧ party = contract
    · rw [if_pos (by simpa [effectOn, isOne] using same)]
      simp [same]
    · rw [if_neg (by simpa [effectOn, isOne] using same)]
      by_cases named : onContract = type
      · simp [show party ≠ contract from fun own => same ⟨named, own⟩]
      · simp [named]
  · have different : party ≠ contract := by
      rintro rfl
      exact isOne plain
    rw [if_neg (by simp [effectOn, isOne])]
    simp [different]

theorem account_moved (plain : isContract account = false) (transfers : List Transfer) :
    moved (effectsOf tx transfers) expected "account_debited" account =
      .ok (transfers.any fun t => pays expected t && t.src = account) ∧
    moved (effectsOf tx transfers) expected "account_credited" account =
      .ok (transfers.any fun t => pays expected t && t.dst = account) := by
  constructor <;> exact someEffect_effects
    (fun t => ⟨_, _, account_test plain (by decide) t.src, account_test plain (by decide) t.dst, by simp⟩) transfers

theorem contract_moved (plain : isContract contract = true) (transfers : List Transfer) :
    movedContract (effectsOf tx transfers) expected "contract_debited" contract =
      .ok (transfers.any fun t => pays expected t && t.src = contract) ∧
    movedContract (effectsOf tx transfers) expected "contract_credited" contract =
      .ok (transfers.any fun t => pays expected t && t.dst = contract) := by
  constructor <;> exact someEffect_effects
    (fun t => ⟨_, _, contract_test plain (by decide) t.src, contract_test plain (by decide) t.dst, by simp⟩) transfers

theorem any_iff {transfers : List Transfer} {Q : Transfer → Prop} [DecidablePred Q] :
    (transfers.any fun t => f t && Q t) = true ↔ ∃ t ∈ transfers, f t = true ∧ Q t := by
  simp [List.any_eq_true]

theorem payerDebited_ok (tx : Transaction) (claims : ReceiptClaims) (transfers : List Transfer) :
    ∃ found, payerDebited claims (effectsOf tx transfers) = .ok found ∧ (found = true ↔ Debited claims transfers) := by
  refine ⟨transfers.any fun t => pays claims.amountUSDCAtomic t && t.src = claims.payerAccount, ?_, any_iff⟩
  by_cases contract : isContract claims.payerAccount = true
  · exact (if_pos contract).trans (contract_moved contract transfers).1
  · exact (if_neg contract).trans (account_moved (by simpa using contract) transfers).1

theorem checkEffects_ok (tx : Transaction) (merchant : isContract claims.merchantAccount = false)
    (escrow : ∀ escrow, claims.escrow = some escrow → isContract escrow = true) (found : HorizonTransaction)
    (transfers : List Transfer) : ∃ check, checkEffects claims found (effectsOf tx transfers) = .ok check ∧
      (check.ok = true ↔ Debited claims transfers ∧ Credited claims transfers) := by
  obtain ⟨debited, looked, debited_iff⟩ := payerDebited_ok tx claims transfers
  unfold checkEffects
  dsimp only
  rw [looked]
  cases debited with
  | false => exact ⟨_, rfl, by simpa [unsettled] using fun both _ => by simpa using debited_iff.mpr both⟩
  | true =>
    have debits := debited_iff.mp rfl
    have credits : (transfers.any fun t => pays claims.amountUSDCAtomic t && t.dst = payee claims) = true ↔
        Credited claims transfers := any_iff
    cases has : claims.escrow with
    | none =>
      rw [payee, has, Option.getD_none] at credits
      change ∃ check, (moved (effectsOf tx transfers) claims.amountUSDCAtomic "account_credited" claims.merchantAccount >>= _) =
        .ok check ∧ _
      rw [(account_moved merchant transfers).2, ← credits]
      cases transfers.any fun t => pays claims.amountUSDCAtomic t && t.dst = claims.merchantAccount with
      | false => exact ⟨_, rfl, by simp [unsettled]⟩
      | true => exact ⟨_, rfl, by simp [debits]⟩
    | some contract =>
      rw [payee, has, Option.getD_some] at credits
      change ∃ check, (movedContract (effectsOf tx transfers) claims.amountUSDCAtomic "contract_credited" contract >>= _) =
        .ok check ∧ _
      rw [(contract_moved (escrow contract has) transfers).2, ← credits]
      cases transfers.any fun t => pays claims.amountUSDCAtomic t && t.dst = contract with
      | false => exact ⟨_, rfl, by simp [unsettled]⟩
      | true => exact ⟨_, rfl, by simp [debits]⟩

/-- A settlement is accepted when among its first transfers one is from the payer and one is to the payee. -/
theorem checkSettlement_ok (merchant : isContract claims.merchantAccount = false)
    (escrow : ∀ escrow, claims.escrow = some escrow → isContract escrow = true) (transactions : String → Option Transaction)
    (attempts : Nat) : ∃ check, checkSettlement claims (horizonOf transactions) (attempts + 1) = .ok check ∧
      (check.ok = true ↔ ∃ tx, transactions claims.settlementTxHash = some tx ∧ tx.successful = true ∧
        Debited claims (tx.transfers.take 25) ∧ Credited claims (tx.transfers.take 25)) := by
  have looked : ∀ left attempt, findTransaction ((horizonOf transactions).transaction claims.settlementTxHash) (left + 1) attempt =
      .ok (.ok ((transactions claims.settlementTxHash).map fun tx => ⟨tx.successful, tx.ledger, tx.created_at⟩)) := by
    intro left
    induction left with
    | zero =>
      intro attempt
      cases found : transactions claims.settlementTxHash <;> simp [findTransaction, horizonOf, found]
    | succ left ih =>
      intro attempt
      rw [findTransaction]
      cases found : transactions claims.settlementTxHash with
      | some tx => simp [horizonOf, found]
      | none =>
        have later := ih (attempt + 1)
        rw [found] at later
        simpa [horizonOf, found] using later
  unfold checkSettlement
  rw [looked attempts 0]
  cases found : transactions claims.settlementTxHash with
  | none => exact ⟨_, rfl, by simp [unsettled]⟩
  | some tx =>
    change ∃ check, (if tx.successful = false then _ else _) = Except.ok check ∧ _
    by_cases successful : tx.successful = true
    · obtain ⟨check, ran, iff⟩ := checkEffects_ok tx merchant escrow ⟨tx.successful, tx.ledger, tx.created_at⟩
        (tx.transfers.take 25)
      refine ⟨check, ?_, by simpa [successful] using iff⟩
      rw [if_neg (by simp [successful]), ← ran, ← effects_page tx tx.transfers 25]
      simp [horizonOf, found, EFFECTS_LIMIT]
    · refine ⟨_, if_pos (by simpa using successful), by simp [unsettled, successful]⟩

end

/-! ### Records -/

/-- The merchant's own call has anchored this receipt, for its amount and its order. -/
structure AnchoredBy (h : History host) (account : String) (hash : BytesN 32) (payload : ReceiptPayload) (a : Anchoring) :
    Prop where
  called : ∃ before after, h.anchorings = before ++ a :: after ∧
    ∃ w', a.invoke (registryAfter h.registryId before) = .ok w'
  merchant : lib.strKey a.merchant = account
  hash : a.hash = hash
  amount : toString a.amount = payload.amountUSDCAtomic
  order : utf8Text lib a.order_ref = payload.claims.orderId

def Anchored (h : History host) (jws : String) (payload : ReceiptPayload) : Prop :=
  ∃ account a, parseStellarDid lib payload.claims.merchantDid = some account ∧
    AnchoredBy lib h account (lib.sha256 (trimmed jws)) payload a

/-- An escrow of the merchant holds this receipt for the payment it cites. -/
structure HeldBy (d : Deployment host) (hash : BytesN 32) (payload : ReceiptPayload) (p : EscrowPurchase) : Prop where
  operator : parseStellarDid lib payload.claims.merchantDid = some (lib.strKey d.now.config.operator)
  payee : lib.strKey d.now.config.payee = payload.claims.merchantAccount
  purchase : (escrowReader lib d.now).byTx payload.claims.settlementTxHash = .ok (some p)
  receipt : p.receiptHash = hexDigits hash
  order : p.orderRef = payload.claims.orderId
  payer : p.payer = payload.claims.payerAccount
  amount : toString p.amountAtomic = payload.amountUSDCAtomic

def Held (h : History host) (jws : String) (payload : ReceiptPayload) : Prop :=
  ∀ escrow, payload.claims.escrow = some escrow → ∃ d p, h.contracts escrow = some (.purchaseEscrow d) ∧
    HeldBy lib d (lib.sha256 (trimmed jws)) payload p

/-- A transaction that succeeded, as a receipt cites it. -/
def Cites (h : History host) (payload : ReceiptPayload) (tx : Transaction) : Prop :=
  h.transactions payload.claims.settlementTxHash = some tx ∧ tx.successful = true

section
variable {lib} {h : History host} {jws : String} {payload : ReceiptPayload}

theorem isNone_unless {α β : Type} [DecidableEq β] {a b : β} {fault : α} {rest : Option α} :
    (if a ≠ b then some fault else rest).isNone = true ↔ a = b ∧ rest.isNone = true := by
  by_cases same : a = b
  · rw [if_neg (not_not.mpr same)]
    simp [same]
  · rw [if_pos same]
    simp [same]

theorem recordFault_isNone_iff (record : AnchoredRecord) : (recordFault lib (some payload) record).isNone = true ↔
    some record.merchant = parseStellarDid lib payload.claims.merchantDid ∧ toString record.amount = payload.amountUSDCAtomic ∧
      record.orderRef = payload.claims.orderId := by
  rw [recordFault, isNone_unless, isNone_unless, isNone_unless]
  exact ⟨fun all => ⟨all.1, all.2.1, all.2.2.1⟩, fun all => ⟨all.1, all.2.1, all.2.2, rfl⟩⟩

theorem registry_get (contractId : Option String) (w : ReceiptRegistry.World) (hash : BytesN 32) :
    (registryReader lib contractId w).get (hexDigits hash) = .ok ((ReceiptRegistry.get w hash).map (decodeRecord lib)) := by
  change (hashToBytes (hexDigits hash) >>= fun bytes => pure ((ReceiptRegistry.get w bytes).map (decodeRecord lib))) = _
  rw [hashToBytes_hexDigits]
  rfl

theorem checkAnchored_ok (contractId : Option String) : ∃ check,
    checkAnchored lib (some payload) (hexDigits (lib.sha256 (trimmed jws)))
      (some (registryReader lib contractId (registryAfter h.registryId h.anchorings))) = .ok check ∧
    (check.ok = true ↔ Anchored lib h jws payload) := by
  unfold checkAnchored
  dsimp only
  rw [registry_get]
  cases found : ReceiptRegistry.get (registryAfter h.registryId h.anchorings) (lib.sha256 (trimmed jws)) with
  | none =>
    refine ⟨_, rfl, ?_⟩
    constructor
    · rintro ⟨⟩
    · rintro ⟨account, a, _, ⟨before, after, calls, ran⟩, _, hash, _⟩
      have there := (get_iff h.registryId h.anchorings a.hash a.record).mpr ⟨before, a, after, calls, ran, rfl, rfl⟩
      rw [hash, found] at there
      cases there
  | some record =>
    refine ⟨_, rfl, (recordFault_isNone_iff (decodeRecord lib record)).trans ?_⟩
    constructor
    · rintro ⟨merchant, amount, order⟩
      obtain ⟨before, a, after, calls, ran, hash, rfl⟩ := (get_iff _ _ _ _).mp found
      exact ⟨_, a, merchant.symm, ⟨before, after, calls, ran⟩, rfl, hash, amount, order⟩
    · rintro ⟨account, a, parsed, ⟨before, after, calls, ran⟩, merchant, hash, amount, order⟩
      have there := (get_iff h.registryId h.anchorings a.hash a.record).mpr ⟨before, a, after, calls, ran, rfl, rfl⟩
      rw [hash, found] at there
      cases there
      exact ⟨by rw [parsed, ← merchant]; rfl, amount, order⟩

theorem known_wasm :
    ¬PURCHASE_ESCROW_WASM_HASHES.head?.all (fun hash => !PURCHASE_ESCROW_WASM_HASHES.contains hash) = true := by
  decide

theorem heldFault_isNone_iff (receiptHash : String) (config : EscrowConfig) (purchase : EscrowPurchase)
    (known : config.wasmHash = PURCHASE_ESCROW_WASM_HASHES.head?) :
    (heldFault lib payload receiptHash config (some purchase)).isNone = true ↔
      parseStellarDid lib payload.claims.merchantDid = some config.operator ∧ config.payee = payload.claims.merchantAccount ∧
        purchase.receiptHash = receiptHash ∧ purchase.orderRef = payload.claims.orderId ∧
        purchase.payer = payload.claims.payerAccount ∧ toString purchase.amountAtomic = payload.amountUSDCAtomic := by
  unfold heldFault
  rw [if_neg (by rw [known]; exact known_wasm), isNone_unless, isNone_unless]
  dsimp only
  rw [isNone_unless, isNone_unless, isNone_unless, isNone_unless]
  exact ⟨fun all => ⟨all.1, all.2.1, all.2.2.1, all.2.2.2.1, all.2.2.2.2.1, all.2.2.2.2.2.1⟩,
    fun all => ⟨all.1, all.2.1, all.2.2.1, all.2.2.2.1, all.2.2.2.2.1, all.2.2.2.2.2, rfl⟩⟩

theorem deployment_config (d : Deployment host) : (escrowReader lib d.now).config =
    .ok ⟨lib.strKey d.now.config.operator, lib.strKey d.now.config.payee, PURCHASE_ESCROW_WASM_HASHES.head?⟩ := by
  obtain ⟨_, _, release, response, resolve⟩ := EscrowSolvency.deployed_ok d.deployed
  have config : d.now.config = d.world.config := (EscrowHistory.run_recorded d.deployed d.actions).sameConfig
  have positive {n : UInt64} (some_ : n ≠ 0) : 0 < n := UInt64.pos_iff_ne_zero.mpr some_
  rw [← config] at release response resolve
  exact if_pos ⟨positive release, positive response, positive resolve⟩

theorem checkHeld_ok_iff (receiptHash : String) (escrows : String → EscrowReader) :
    (checkHeld lib payload receiptHash (some escrows)).ok = true ↔ ∃ config purchase,
      (escrows (payload.claims.escrow.getD "")).config = .ok config ∧
      (escrows (payload.claims.escrow.getD "")).byTx payload.claims.settlementTxHash = .ok purchase ∧
      (heldFault lib payload receiptHash config purchase).isNone = true := by
  unfold checkHeld
  dsimp only
  cases read : (escrows (payload.claims.escrow.getD "")).config with
  | error e => simp
  | ok config =>
    cases found : (escrows (payload.claims.escrow.getD "")).byTx payload.claims.settlementTxHash with
    | error e => simp
    | ok purchase =>
      dsimp only
      cases fault : heldFault lib payload receiptHash config purchase with
      | none => simp [fault]
      | some reason => simp [fault]

theorem checkHeld_ok (contractId : Option String) (attempts : Nat) {escrow : String} (has : payload.claims.escrow = some escrow) :
    (checkHeld lib payload (hexDigits (lib.sha256 (trimmed jws))) (h.options lib contractId attempts).escrows).ok = true ↔
      Held lib h jws payload := by
  have only : Held lib h jws payload ↔ ∃ d p, h.contracts escrow = some (.purchaseEscrow d) ∧
      HeldBy lib d (lib.sha256 (trimmed jws)) payload p := by
    constructor
    · intro held
      exact held escrow has
    · intro held other same
      rw [has] at same
      cases same
      exact held
  rw [only]
  change (checkHeld lib payload _ (some fun id => ((h.contracts id).map (Contract.reader lib)).getD noContract)).ok = true ↔ _
  rw [checkHeld_ok_iff, has, Option.getD_some]
  cases there : h.contracts escrow with
  | none =>
    constructor
    · rintro ⟨_, _, ⟨⟩, _⟩
    · rintro ⟨_, _, ⟨⟩, _⟩
  | some contract =>
    cases contract with
    | other reader foreign =>
      constructor
      · rintro ⟨config, purchase, read, _, fault⟩
        have unknown : config.wasmHash.all (fun hash => !PURCHASE_ESCROW_WASM_HASHES.contains hash) = true := by
          cases wasm : config.wasmHash with
          | none => rfl
          | some hash => simpa using foreign config read hash wasm
        unfold heldFault at fault
        rw [if_pos unknown] at fault
        cases fault
      · rintro ⟨_, _, ⟨⟩, _⟩
    | purchaseEscrow d =>
      change (∃ config purchase, (escrowReader lib d.now).config = .ok config ∧
        (escrowReader lib d.now).byTx payload.claims.settlementTxHash = .ok purchase ∧ _) ↔ _
      rw [deployment_config]
      constructor
      · rintro ⟨_, purchase, ⟨⟩, found, fault⟩
        cases purchase with
        | none =>
          unfold heldFault at fault
          rw [if_neg known_wasm, isNone_unless, isNone_unless] at fault
          cases fault.2.2
        | some p =>
          obtain ⟨operator, payee, receipt, order, payer, amount⟩ := (heldFault_isNone_iff _ _ p rfl).mp fault
          exact ⟨d, p, rfl, operator, payee, found, receipt, order, payer, amount⟩
      · rintro ⟨_, p, ⟨⟩, held⟩
        exact ⟨_, some p, rfl, held.purchase, (heldFault_isNone_iff _ _ p rfl).mpr
          ⟨held.operator, held.payee, held.receipt, held.order, held.payer, held.amount⟩⟩

end

/-! ### Verdicts -/

/-- What a receipt is accepted for. -/
structure Accepted (h : History host) (jws : String) (payload : ReceiptPayload) : Prop where
  signed : Signed lib jws payload
  anchored : Anchored lib h jws payload
  held : Held lib h jws payload
  settled : ∃ tx, Cites h payload tx ∧ Debited payload.claims (tx.transfers.take 25) ∧
    Credited payload.claims (tx.transfers.take 25)

section
variable {lib}

theorem verifyReceipt_ok (strKeys : StrKeys lib) (h : History host) (jws : String) (contractId : Option String)
    (attempts : Nat) : ∃ v, verifyReceipt lib jws (h.options lib contractId attempts) = .ok v ∧
      (v.valid = true → v.receipt.isSome) ∧ ∀ payload, (v.valid = true ∧ v.receipt = some payload) ↔ Accepted lib h jws payload := by
  unfold verifyReceipt
  dsimp only
  rw [signature_hash]
  cases read : (checkReceiptSignature lib jws).claims with
  | none =>
    have none_ (payload : ReceiptPayload) : ¬Accepted lib h jws payload := by
      intro accepted
      have claims := ((signature_ok_iff jws payload).mpr accepted.signed).2
      rw [read] at claims
      cases claims
    obtain ⟨check, anchored⟩ : ∃ check, checkAnchored lib none (hexDigits (lib.sha256 (trimmed jws)))
        (h.options lib contractId attempts).registry = .ok check := by
      change ∃ check, checkAnchored lib none _ (some (registryReader lib contractId _)) = .ok check
      unfold checkAnchored
      dsimp only
      rw [registry_get]
      cases ReceiptRegistry.get (registryAfter h.registryId h.anchorings) (lib.sha256 (trimmed jws)) with
      | none => exact ⟨_, rfl⟩
      | some record => exact ⟨_, rfl⟩
    rw [anchored]
    refine ⟨_, rfl, fun valid => ?_, fun payload => ⟨fun both => (by cases both.2), fun accepted => (none_ payload accepted).elim⟩⟩
    simp only [Bool.and_eq_true] at valid
    have some_ := signature_claims valid.1.1.1
    rw [read] at some_
    cases some_
  | some found =>
    obtain ⟨account, contract⟩ := schema_addresses (signature_schema read)
    obtain ⟨anchored, ranAnchored, isAnchored⟩ : ∃ check,
        checkAnchored lib (some found) (hexDigits (lib.sha256 (trimmed jws)))
          (some (registryReader lib contractId (registryAfter h.registryId h.anchorings))) = .ok check ∧
        (check.ok = true ↔ Anchored lib h jws found) := checkAnchored_ok contractId
    obtain ⟨settled, ranSettled, isSettled⟩ := checkSettlement_ok (strKeys.account _ account).1
      (fun escrow has => strKeys.contract escrow (contract escrow has)) h.transactions attempts
    change ∃ v, (checkAnchored lib (some found) _ (some (registryReader lib contractId
      (registryAfter h.registryId h.anchorings))) >>= _) = .ok v ∧ _
    rw [ranAnchored]
    change ∃ v, (checkSettlement found.claims (horizonOf h.transactions) (attempts + 1) >>= _) = .ok v ∧ _
    rw [ranSettled]
    refine ⟨_, rfl, fun _ => rfl, fun payload => ?_⟩
    have held : (((some found).filter (·.claims.escrow.isSome)).map (fun payload => checkHeld lib payload
        (hexDigits (lib.sha256 (trimmed jws))) (h.options lib contractId attempts).escrows)).all HeldCheck.ok = true ↔
          Held lib h jws found := by
      cases has : found.claims.escrow with
      | none => simp [Option.filter, has, Held]
      | some escrow => simpa [Option.filter, has] using checkHeld_ok contractId attempts has
    constructor
    · rintro ⟨valid, same⟩
      cases same
      simp only [Bool.and_eq_true] at valid
      obtain ⟨⟨⟨signed, record⟩, paid⟩, holds⟩ := valid
      obtain ⟨tx, cited, successful, debited, credited⟩ := isSettled.mp paid
      exact ⟨(signature_ok_iff jws _).mp ⟨signed, read⟩, isAnchored.mp record, held.mp holds, tx, ⟨cited, successful⟩,
        debited, credited⟩
    · intro accepted
      obtain ⟨signed, same⟩ := (signature_ok_iff jws payload).mpr accepted.signed
      rw [read] at same
      cases same
      obtain ⟨tx, cited, both⟩ := accepted.settled
      refine ⟨?_, rfl⟩
      simp only [Bool.and_eq_true]
      exact ⟨⟨⟨signed, isAnchored.mpr accepted.anchored⟩, isSettled.mpr ⟨tx, cited.1, cited.2, both⟩⟩, held.mpr accepted.held⟩

end

end AgentPey.RealPayments
