import AgentPey.ReceiptChecks

/-!
What a receipt is checked against: the calls of the registry and of the escrows so far, and the transactions of the
ledger. A settlement is a list of token transfers, and its effects are a debit and a credit for each.
-/
namespace AgentPey.ReceiptHistories
open Soroban Store Receipts ReceiptChecks EscrowHistory EscrowCalls EscrowLife
open PurchaseEscrow (Host World Deployed Action Purchase)
open MandateAnchor (hexDigits)
open ReceiptRegistry (Env Error ReceiptRecord anchored deploy get_kept invoke_effect)

/-! ### The registry -/

/-- A call of the registry's `anchor`. -/
structure Anchoring where
  env : Env
  hash : BytesN 32
  merchant : Address
  amount : Int
  order_ref : Bytes

def Anchoring.invoke (a : Anchoring) (w : ReceiptRegistry.World) : Outcome Error ReceiptRegistry.World :=
  ReceiptRegistry.invoke a.env w a.hash a.merchant a.amount a.order_ref

def Anchoring.record (a : Anchoring) : ReceiptRecord :=
  anchored a.env a.merchant a.amount a.order_ref

def anchorStep (w : ReceiptRegistry.World) (a : Anchoring) : ReceiptRegistry.World :=
  match a.invoke w with
  | .ok w' => w'
  | .error _ => w

def registryAfter (id : BytesN 32) (anchorings : List Anchoring) : ReceiptRegistry.World :=
  anchorings.foldl anchorStep (deploy id)

theorem registryAfter_snoc (id : BytesN 32) (anchorings : List Anchoring) (a : Anchoring) :
    registryAfter id (anchorings ++ [a]) = anchorStep (registryAfter id anchorings) a := by
  simp [registryAfter]

variable {hash : BytesN 32}

theorem get_after {w : ReceiptRegistry.World} {record : ReceiptRecord}
    (found : ReceiptRegistry.get w hash = some record) (anchorings : List Anchoring) :
    ReceiptRegistry.get (anchorings.foldl anchorStep w) hash = some record := by
  induction anchorings generalizing w with
  | nil => exact found
  | cons a rest ih =>
    apply ih
    unfold anchorStep
    cases ran : a.invoke w with
    | error e => exact found
    | ok w' => exact get_kept ran found

/-- A record is there exactly when a call that succeeded has made it, which its merchant has authorised. -/
theorem get_iff (id : BytesN 32) (anchorings : List Anchoring) (hash : BytesN 32) (record : ReceiptRecord) :
    ReceiptRegistry.get (registryAfter id anchorings) hash = some record ↔
      ∃ before a after, anchorings = before ++ a :: after ∧ (∃ w', a.invoke (registryAfter id before) = .ok w') ∧
        a.hash = hash ∧ a.record = record := by
  constructor
  · intro found
    induction anchorings using List.reverseRec with
    | nil =>
      rw [registryAfter, List.foldl_nil, deploy, ReceiptRegistry.get, AList.lookup_empty] at found
      cases found
    | append_singleton before a ih =>
      rw [registryAfter_snoc, anchorStep] at found
      cases ran : a.invoke (registryAfter id before) with
      | error e =>
        rw [ran] at found
        obtain ⟨first, b, rest, rfl, made⟩ := ih found
        exact ⟨first, b, rest ++ [a], by simp, made⟩
      | ok w' =>
        rw [ran] at found
        obtain ⟨_, _, _, _, receipts⟩ := invoke_effect ran
        rw [ReceiptRegistry.get, receipts, lookup_insert] at found
        by_cases same : hash = a.hash
        · rw [if_pos same] at found
          exact ⟨before, a, [], rfl, ⟨w', ran⟩, same.symm, Option.some.inj found⟩
        · rw [if_neg same] at found
          obtain ⟨first, b, rest, rfl, made⟩ := ih found
          exact ⟨first, b, rest ++ [a], by simp, made⟩
  · rintro ⟨before, a, after, rfl, ⟨w', ran⟩, rfl, rfl⟩
    rw [registryAfter, List.foldl_append, List.foldl_cons]
    refine get_after ?_ after
    obtain ⟨_, _, _, _, receipts⟩ := invoke_effect ran
    have here : anchorStep (before.foldl anchorStep (deploy id)) a = w' := by
      rw [anchorStep, show a.invoke (before.foldl anchorStep (deploy id)) = .ok w' from ran]
    rw [here, ReceiptRegistry.get, receipts, lookup_insert, if_pos rfl]
    rfl

/-! ### Hashes and texts -/

theorem hexValue_digit {n : Nat} (digit : n < 16) : hexValue (Nat.digitChar n) = some n := by
  have all : ∀ n : Fin 16, hexValue (Nat.digitChar n) = some n.1 := by decide
  exact all ⟨n, digit⟩

theorem hexBytes_digits (bytes : Bytes) :
    hexBytes (bytes.flatMap fun byte => [Nat.digitChar (byte.toNat / 16), Nat.digitChar (byte.toNat % 16)]) = some bytes := by
  induction bytes with
  | nil => rfl
  | cons byte rest ih =>
    have small := byte.toNat_lt
    rw [List.flatMap_cons, List.cons_append, List.cons_append, List.nil_append, hexBytes,
      hexValue_digit (by omega), hexValue_digit (by omega), ih]
    have whole : 16 * (byte.toNat / 16) + byte.toNat % 16 = byte.toNat := Nat.div_add_mod byte.toNat 16
    show some (UInt8.ofNat (16 * (byte.toNat / 16) + byte.toNat % 16) :: rest) = some (byte :: rest)
    rw [whole, UInt8.ofNat_toNat]

theorem hashToBytes_hexDigits (hash : BytesN 32) : hashToBytes (hexDigits hash) = .ok hash := by
  unfold hashToBytes hexDigits
  rw [String.toList_ofList, hexBytes_digits]
  exact dif_pos hash.2

theorem hexDigits_inj {other : BytesN 32} (same : hexDigits hash = hexDigits other) : hash = other := by
  have read := hashToBytes_hexDigits hash
  rw [same, hashToBytes_hexDigits] at read
  exact (Except.ok.inj read).symm

theorem utf8Text_utf8Bytes (lib : Libraries) (text : String) : utf8Text lib (utf8Bytes text) = text := by
  have same : ByteArray.mk (utf8Bytes text).toArray = text.toByteArray := by simp [utf8Bytes]
  unfold utf8Text
  simp only [same]
  rw [dif_pos text.isValidUTF8]

/-! ### The ledger -/

structure Transfer where
  asset_code : String
  asset_issuer : String
  src : String
  dst : String
  amount : Nat

structure Transaction where
  successful : Bool
  ledger : Nat
  created_at : String
  source : String
  transfers : List Transfer

def isContract (address : String) : Bool := "C".toList.isPrefixOf address.toList

/-- An effect on an account, or on a contract: then its account is the transaction's source. -/
def effectOn (tx : Transaction) (t : Transfer) (party onAccount onContract : String) : HorizonEffect where
  type := if isContract party then onContract else onAccount
  account := some (if isContract party then tx.source else party)
  contract := if isContract party then some party else none
  amount := some (usdcAtomicToDecimal t.amount)
  asset_code := some t.asset_code
  asset_issuer := some t.asset_issuer

def debit (tx : Transaction) (t : Transfer) : HorizonEffect := effectOn tx t t.src "account_debited" "contract_debited"

def credit (tx : Transaction) (t : Transfer) : HorizonEffect := effectOn tx t t.dst "account_credited" "contract_credited"

def effectsOf (tx : Transaction) (transfers : List Transfer) : List HorizonEffect :=
  transfers.flatMap fun t => [debit tx t, credit tx t]

def horizonOf (transactions : String → Option Transaction) : Horizon where
  transaction hash _ :=
    match transactions hash with
    | some tx => .answered ⟨tx.successful, tx.ledger, tx.created_at⟩
    | none => .notFound
  effects hash limit :=
    match transactions hash with
    | some tx => .answered ((effectsOf tx tx.transfers).take limit)
    | none => .notFound

theorem effects_page (tx : Transaction) (transfers : List Transfer) (n : Nat) :
    (effectsOf tx transfers).take (2 * n) = effectsOf tx (transfers.take n) := by
  induction transfers generalizing n with
  | nil => simp [effectsOf]
  | cons t rest ih =>
    cases n with
    | zero => rfl
    | succ n =>
      have later := ih n
      simp only [effectsOf, List.flatMap_cons, List.take_succ_cons, List.cons_append, List.nil_append, Nat.mul_succ] at later ⊢
      rw [later]

/-! ### The escrows -/

/-- An escrow and what was called of it. -/
structure Deployment (host : Host) where
  world : World host
  deployed : Deployed world
  actions : List (Action host)

variable {host : Host} (lib : Libraries)

def Deployment.now (d : Deployment host) : World host := (PurchaseEscrow.run d.world d.actions).1

def escrowReader (w : World host) : EscrowReader where
  config := decodeEscrowConfig lib w.config PURCHASE_ESCROW_WASM_HASHES.head?
  byTx txHash := do
    let tx ← hashToBytes txHash
    match w.payments.lookup tx with
    | none => pure none
    | some ref =>
      match w.purchases.lookup (utf8Bytes (utf8Text lib ref)) with
      | none => pure none
      | some p => (decodePurchase lib p).map some

/-- A contract at an address: an escrow, or one that runs other code. -/
inductive Contract (host : Host) where
  | purchaseEscrow (d : Deployment host)
  | other (reader : EscrowReader)
      (foreign : ∀ config, reader.config = .ok config → ∀ hash ∈ config.wasmHash, hash ∉ PURCHASE_ESCROW_WASM_HASHES)

def Contract.reader : Contract host → EscrowReader
  | .purchaseEscrow d => escrowReader lib d.now
  | .other reader _ => reader

/-- All that happened so far. -/
structure History (host : Host) where
  registryId : BytesN 32
  anchorings : List Anchoring
  transactions : String → Option Transaction
  contracts : String → Option (Contract host)

def registryReader (contractId : Option String) (w : ReceiptRegistry.World) : RegistryReader where
  contractId := contractId
  get hash := do
    let bytes ← hashToBytes hash
    pure ((ReceiptRegistry.get w bytes).map (decodeRecord lib))

def noContract : EscrowReader where
  config := .error (.thrown "this contract is not a deployed purchase-escrow" none none)
  byTx _ := .ok none

/-- A verifier that reads the registry, the ledger and the escrows as they are. -/
def History.options (h : History host) (contractId : Option String) (attempts : Nat) : VerifyOptions where
  registry := some (registryReader lib contractId (registryAfter h.registryId h.anchorings))
  horizon := horizonOf h.transactions
  settlementAttempts := attempts + 1
  escrows := some fun id => ((h.contracts id).map (Contract.reader lib)).getD noContract

/-- Escrows go on, each from its own state. -/
def History.Before (h later : History host) : Prop :=
  ∀ id d, h.contracts id = some (.purchaseEscrow d) → ∃ d' more, later.contracts id = some (.purchaseEscrow d') ∧
    d'.world = d.world ∧ d'.actions = d.actions ++ more

end AgentPey.ReceiptHistories
