import AgentPey.DisputeResponses
import AgentPey.EscrowClocks
import AgentPey.EscrowConsent

/-!
A buyer's agent opens a dispute in the escrow that holds its payment (`openEscrowDispute` of `mcp/src/escrow-dispute.ts`): its
rail's owner signs the escrow's message (`resolve/src/escrow-open.ts`), and the call is simulated, sent and waited for
(`open` of `vitrinee-anchor/src/escrow.ts`). Meanwhile anybody may call the escrow. What the agent is then told of its call is
what has become of it.
-/
namespace AgentPey.OpenedDisputes
open JsonNumbers TextLines
open JsonTexts (hexValue hexDigit hexValue_hexDigit)
open Utf8 (utf8 utf8_ascii)
open WalletSign (hexOf)
open DisputeResponses (isHex64)
open Soroban Store PurchaseEscrow EscrowLife EscrowCalls EscrowHistory EscrowReads Dates
open EscrowClocks (Claim MayOpen isoText dateAt checkClaimableEscrow checkWindow)
open EscrowConsent (Continues run_continues)
open EscrowReleases (escrowContractError)

variable {host : Host}

/-! ### The message -/

def ESCROW_OPEN_DOMAIN : Text := words "agentpey/purchase-escrow/open/v1"
def ESCROW_MAX_ORDER_REF_BYTES : ℕ := 64

/-- `Buffer.from(text, "hex")`, which stops at what is not hex. -/
def hexBytes : Text → Bytes
  | a :: b :: rest =>
    match hexValue a, hexValue b with
    | some high, some low => UInt8.ofNat (16 * high + low) :: hexBytes rest
    | _, _ => []
  | _ => []

/-- `decodeContract` answers for the texts that `StrKey.isValidContract` admits. -/
def escrowOpenMessage (decodeContract : Text → Option (BytesN 32)) (escrowContractId orderRef claimHashHex : Text) :
    Except EscrowClocks.Failure Bytes :=
  match decodeContract escrowContractId with
  | none => .error ⟨"InvalidArguments", "the escrow is a contract address (C…)"⟩
  | some contract =>
    if isHex64 claimHashHex = false then
      .error ⟨"InvalidArguments", "the claim hash is 64 lowercase hex characters"⟩
    else if (utf8 orderRef).length = 0 ∨ ESCROW_MAX_ORDER_REF_BYTES < (utf8 orderRef).length then
      .error ⟨"InvalidArguments", "an order reference is 1 to 64 bytes"⟩
    else .ok (utf8 ESCROW_OPEN_DOMAIN ++ contract.1 ++ hexBytes claimHashHex ++ utf8 orderRef)

/-- An agent's keys, whose signatures verify. -/
structure AgentKey (host : Host) where
  publicKey : BytesN 32
  sign : Bytes → BytesN 64
  verifies : ∀ message, host.ed25519_verify publicKey message (sign message) = true

def signEscrowOpen (decodeContract : Text → Option (BytesN 32)) (escrowContractId orderRef claimHashHex : Text)
    (railOwner : AgentKey host) : Except EscrowClocks.Failure (BytesN 64) := do
  let message ← escrowOpenMessage decodeContract escrowContractId orderRef claimHashHex
  pure (railOwner.sign message)

/-! ### The call -/

/-- How far a submission came, where its error says so. -/
inductive Stage where
  | prepare
  | simulate
  | rejected
  | failed
  | unconfirmed
  | unnamed
  deriving DecidableEq, Repr

/-- The error of a submission, with the refusal that its text keeps. -/
structure Refusal where
  stage : Stage
  failure : Option (Soroban.Failure Error)
  deriving DecidableEq

/-- How the network takes a transaction: whether its account is found, what its simulation sees, what happens at the escrow
    until it is in, whether it is accepted, the ledger it enters, if it does, whether that is heard of, and what is then read
    of the purchase. -/
structure Sending (host : Host) where
  loaded : Bool
  simulated : Option Env
  meanwhile : List (Action host)
  accepted : Bool
  lands : Option Env
  confirmed : Bool
  txHash : String
  after : Option (Option EscrowPurchase)

def Sending.others (sending : Sending host) (w : World host) : World host := (run w sending.meanwhile).1

def submit (call : Call) (sending : Sending host) (w : World host) : World host × Except Refusal String :=
  match sending.simulated with
  | none => (sending.others w, .error ⟨.simulate, none⟩)
  | some env =>
    match invoke env call w with
    | .error failure => (sending.others w, .error ⟨.simulate, some failure⟩)
    | .ok _ =>
      if sending.accepted = false then (sending.others w, .error ⟨.rejected, none⟩)
      else
        -- What a send or a poll throws names no stage, and is told as this is.
        match sending.lands with
        | none => (sending.others w, .error ⟨.unconfirmed, none⟩)
        | some env =>
          match invoke env call (sending.others w) with
          | .ok landed => (landed, if sending.confirmed then .ok sending.txHash else .error ⟨.unconfirmed, none⟩)
          | .error _ => (sending.others w, .error ⟨if sending.confirmed then .failed else .unconfirmed, none⟩)

/-- The bytes of a hash; whatever passes the check has 32 of them. -/
def hashToBytes (hashHex : Text) : Option (BytesN 32) :=
  if fits : isHex64 hashHex = true ∧ (hexBytes hashHex).length = 32 then some ⟨hexBytes hashHex, fits.2⟩ else none

/-- `EscrowClient.open`. -/
def sendOpen (orderRef claimHash : Text) (sig : Option (BytesN 64)) (sending : Sending host) (w : World host) :
    World host × Except Refusal String :=
  if sending.loaded = false then (sending.others w, .error ⟨.prepare, none⟩)
  else
    match hashToBytes claimHash with
    | none => (sending.others w, .error ⟨.unnamed, none⟩)
    | some hash => submit (.openDispute (utf8 orderRef) hash sig) sending w

/-! ### What the agent is told -/

def certainlyNotOpened (error : Refusal) : Bool := error.stage ∈ [.prepare, .simulate, .rejected, .failed]

def notTaken : EscrowClocks.Failure :=
  ⟨"NetworkError", "Stellar did not take the dispute; nothing changed, try again in a minute"⟩

def unconfirmed : EscrowClocks.Failure :=
  ⟨"NetworkError", "the dispute could not be confirmed on Stellar; read the order with get_order before trying again"⟩

def refusal (error : Refusal) : EscrowClocks.Failure :=
  if error.failure = some (.trap .badSignature) then
    ⟨"ResolveClaimantNotPayer", "the escrow refused the claim's signature: it is not from the owner of the account that " ++
      "paid. The dispute was not opened"⟩
  else
    match error.failure.bind escrowContractError with
    | some 7 => ⟨"ResolveReceiptInvalid", "the escrow has no purchase for this order. The dispute was not opened"⟩
    | some 8 =>
      ⟨"ResolveDisputeExists",
        "the purchase is no longer open to a claim in the escrow (it changed meanwhile). The dispute was not opened"⟩
    | some 10 => ⟨"ResolveClaimWindowClosed", "the escrow's claim window closed. The dispute was not opened"⟩
    | some 11 | some 12 =>
      ⟨"ResolveClaimantNotPayer", "the escrow could not take this payer's consent. The dispute was not opened"⟩
    | _ => if certainlyNotOpened error then notTaken else unconfirmed

structure OpenedDispute where
  transaction : String
  respond_by : Option String
  resolve_by : Option String
  deriving DecidableEq

structure ClaimableEscrow where
  contract : Text
  orderRef : Text
  purchase : EscrowPurchase
  config : EscrowConfig

/-- When the dispute was opened, as it is read back, or nothing when that read failed. -/
def openedAt (claimHash : Text) (after : Option (Option EscrowPurchase)) : Option Nat := do
  let purchase ← after.join
  if purchase.status = .disputed ∧ purchase.claimHash.any (fun hash => hexOf hash.1 = claimHash) then purchase.openedAt
  else none

def answer (target : ClaimableEscrow) (claimHash : Text) (txHash : String) (after : Option (Option EscrowPurchase)) :
    Except EscrowClocks.Failure OpenedDispute := do
  let at_ := openedAt claimHash after
  let respondBy ← at_.mapM fun at_ => isoText (dateAt (at_ + target.config.responseWindowSeconds))
  let resolveBy ← at_.mapM fun at_ =>
    isoText (dateAt (at_ + target.config.responseWindowSeconds + target.config.resolveWindowSeconds))
  pure ⟨txHash, respondBy, resolveBy⟩

def startsWithC : Address → Bool
  | .contract _ => true
  | _ => false

/-- A classic payer sends no signature: its transaction is the consent. -/
def openEscrowDispute (decodeContract : Text → Option (BytesN 32)) (target : ClaimableEscrow) (claimHash : Text)
    (agentKey : AgentKey host) (sending : Sending host) (w : World host) :
    World host × Except EscrowClocks.Failure OpenedDispute :=
  let signed :=
    if startsWithC target.purchase.payer then
      (signEscrowOpen decodeContract target.contract target.orderRef claimHash agentKey).map some
    else .ok none
  match signed with
  | .error failure => (sending.others w, .error failure)
  | .ok sig =>
    match sendOpen target.orderRef claimHash sig sending w with
    | (w, .error error) => (w, .error (refusal error))
    | (w, .ok txHash) => (w, answer target claimHash txHash sending.after)

/-! ### The bytes that are signed -/

theorem hexBytes_hexOf (bytes : Bytes) : hexBytes (hexOf bytes) = bytes := by
  induction bytes with
  | nil => rfl
  | cons b rest ih =>
    have high : b.toNat / 16 < 16 := by
      have := b.toNat_lt
      omega
    have low : b.toNat % 16 < 16 := Nat.mod_lt _ (by decide)
    have head : hexOf (b :: rest) = hexDigit (b.toNat / 16) :: hexDigit (b.toNat % 16) :: hexOf rest := rfl
    rw [head, hexBytes, hexValue_hexDigit high, hexValue_hexDigit low]
    simp only [ih, Nat.div_add_mod, UInt8.ofNat_toNat]

theorem isHex64_hexOf (hash : BytesN 32) : isHex64 (hexOf hash.1) = true := by
  have digit : ∀ n < 16, (isDigit (hexDigit n) || (97 ≤ (hexDigit n).val && (hexDigit n).val ≤ 102)) = true := by decide
  have length : ∀ bytes : Bytes, (hexOf bytes).length = 2 * bytes.length := fun bytes => by
    simp [hexOf, List.length_flatMap, Nat.mul_comm]
  rw [isHex64, Bool.and_eq_true, decide_eq_true_eq, length, hash.2, List.all_eq_true]
  refine ⟨rfl, fun u member => ?_⟩
  obtain ⟨b, _, among⟩ := List.mem_flatMap.mp member
  have := b.toNat_lt
  rcases List.mem_cons.mp among with rfl | among
  · exact digit _ (by omega)
  · rw [List.mem_singleton.mp among]
    exact digit _ (Nat.mod_lt _ (by decide))

theorem hashToBytes_hexOf (hash : BytesN 32) : hashToBytes (hexOf hash.1) = some hash := by
  unfold hashToBytes
  rw [dif_pos ⟨isHex64_hexOf hash, by rw [hexBytes_hexOf, hash.2]⟩]
  exact congrArg some (Subtype.ext (hexBytes_hexOf hash.1))

theorem utf8_domain : utf8 ESCROW_OPEN_DOMAIN = OPEN_DOMAIN.1 := by
  have ascii : (ESCROW_OPEN_DOMAIN.all fun u => u.val < 0x80) = true := by decide
  have bytes : (ESCROW_OPEN_DOMAIN.map fun u => UInt8.ofNat u.val) = OPEN_DOMAIN.1 := by decide
  rw [utf8_ascii fun u among => of_decide_eq_true (List.all_eq_true.mp ascii u among), bytes]

/-- What an agent signs is what the escrow builds: for a claim on any order that an escrow may hold. -/
theorem escrowOpenMessage_eq {decodeContract : Text → Option (BytesN 32)} {contract orderRef : Text} {id : BytesN 32}
    (address : decodeContract contract = some id) (referable : EscrowEvents.Referable (utf8 orderRef)) (hash : BytesN 32) :
    escrowOpenMessage decodeContract contract orderRef (hexOf hash.1) = .ok (openMessage id (utf8 orderRef) hash) := by
  unfold escrowOpenMessage
  rw [address]
  simp only [isHex64_hexOf, Bool.true_eq_false, if_false]
  obtain ⟨some_, fits⟩ := referable
  rw [if_neg (by unfold ESCROW_MAX_ORDER_REF_BYTES; omega), utf8_domain, hexBytes_hexOf]
  rfl

/-! ### What becomes of the call -/

section
variable {w : World host} {order_ref : Bytes} {p : Purchase} {env : Env} {hash : BytesN 32} {sig : Option (BytesN 64)}

/-- The escrow with the dispute open. -/
def disputed (w : World host) (p : Purchase) (hash : BytesN 32) (env : Env) : World host :=
  publish (save (start w) { p with status := .Disputed, claim_hash := some hash, opened_at := env.timestamp })
    (.DisputeOpened p.order_ref p.payer hash)

/-- With the payer's consent, only the status and the time decide on a dispute. -/
theorem invoke_open (found : get w p.order_ref = some p) (consent : Consented host w.id env p hash sig) :
    invoke env (.openDispute p.order_ref hash sig) w =
      (may_open w.config p env.timestamp : Outcome Error Unit) >>= fun _ => .ok (disputed w p hash env) := by
  change w.purchases.lookup p.order_ref = some p at found
  have loaded : load (start w) p.order_ref = .ok p := okOr_eq_ok.mpr found
  have consents : payer_consents env (start w) p p.order_ref hash sig = .ok ⟨⟩ :=
    (payer_consents_ok (w := start w)).mpr consent
  simp only [invoke, openDispute, loaded, ok_bind, start_config, consents]
  rfl

end

/-- The agent pays from its own account, or from a rail that it owns. -/
structure Own (agentKey : AgentKey host) (payer : Address) (env : Env) : Prop where
  source : env.authorised (.account agentKey.publicKey) = true
  payer : payer = .account agentKey.publicKey ∨
    ∃ rail, payer = .contract rail ∧ env.owner payer = some agentKey.publicKey

def signatureOf (agentKey : AgentKey host) (payer : Address) (message : Bytes) : Option (BytesN 64) :=
  if startsWithC payer then some (agentKey.sign message) else none

variable {p : Purchase} {config : EscrowConfig} {purchase : EscrowPurchase}

theorem consented_own {agentKey : AgentKey host} {env : Env} (own : Own agentKey p.payer env) (id hash : BytesN 32) :
    Consented host id env p hash (signatureOf agentKey p.payer (openMessage id p.order_ref hash)) := by
  unfold Consented
  rcases own.payer with classic | ⟨rail, isRail, owned⟩
  · rw [classic]
    exact own.source
  · rw [isRail] at owned ⊢
    exact ⟨agentKey.publicKey, _, owned, rfl, agentKey.verifies _⟩

/-- What comes of a claim that was checked: the purchases that the simulation and the ledger find under its order, and whether
    the call takes effect. -/
structure Sending.Lands (sending : Sending host) (config : Config) (p p' : Purchase) (env : Env) : Prop where
  loaded : sending.loaded = true
  simulated : ∃ first, sending.simulated = some first ∧ MayOpen config p first.timestamp
  accepted : sending.accepted = true
  lands : sending.lands = some env
  inTime : MayOpen config p' env.timestamp

/-- What a failure says of the call, which is so: what the purchase was, and whether the dispute is open. -/
inductive Sending.Tells (sending : Sending host) (config : Config) (p p' : Purchase) (failure : EscrowClocks.Failure) : Prop
  | moved (name : failure.name = "ResolveDisputeExists") (past : p.status ≠ .Held ∧ p.status ≠ .Shipped)
      (nothing : ∀ env, ¬sending.Lands config p p' env)
  | late (name : failure.name = "ResolveClaimWindowClosed") (shipped : p.status = .Shipped)
      (nothing : ∀ env, ¬sending.Lands config p p' env)
  | notTaken (same : failure = notTaken) (nothing : ∀ env, ¬sending.Lands config p p' env)
  | unconfirmed (same : failure = unconfirmed) (silent : sending.lands = none ∨ sending.confirmed = false)
  -- The dispute is open, and one of its dates is past the last one.
  | noDate (name : failure.name = "RangeError") (opened : ∃ env, sending.Lands config p p' env)

theorem may_open_error {config : Config} {now : UInt64} {failure : Soroban.Failure Error}
    (refused : (may_open config p now : Outcome Error Unit) = .error failure) :
    failure = .error .WrongStatus ∧ p.status ≠ .Held ∧ p.status ≠ .Shipped ∨
      failure = .error .ClaimWindowClosed ∧ p.status = .Shipped := by
  unfold may_open at refused
  cases status : p.status with
  | Held => rw [status] at refused; cases refused
  | Shipped =>
    rw [status] at refused
    exact .inr ⟨(failIf_eq_error.mp refused).2.symm, rfl⟩
  | Released | Disputed | Responded | Resolved | Expired =>
    rw [status] at refused
    cases refused
    exact .inl ⟨rfl, by decide, by decide⟩

section
variable {config : Config} {p p' : Purchase} {sending : Sending host} {orderRef : Text} {hash : BytesN 32}
  {sig : Option (BytesN 64)} {w : World host}

/-- What a submission answers of a call that took no effect. -/
inductive Sending.Refuses (sending : Sending host) (p : Purchase) (error : Refusal) : Prop
  | moved (same : error.failure = some (.error .WrongStatus)) (past : p.status ≠ .Held ∧ p.status ≠ .Shipped)
  | late (same : error.failure = some (.error .ClaimWindowClosed)) (shipped : p.status = .Shipped)
  | notTaken (same : error.failure = none) (certain : certainlyNotOpened error = true)
  | unconfirmed (same : error = ⟨.unconfirmed, none⟩) (silent : sending.lands = none ∨ sending.confirmed = false)

/-- The call takes effect or nothing happens but what others do, and the answer tells. -/
theorem sendOpen_cases (configs : w.config = config ∧ (sending.others w).config = config)
    (first : ∀ env, sending.simulated = some env →
      invoke env (.openDispute (utf8 orderRef) hash sig) w =
        (may_open w.config p env.timestamp : Outcome Error Unit) >>= fun _ => .ok (disputed w p hash env))
    (second : ∀ env, sending.lands = some env →
      invoke env (.openDispute (utf8 orderRef) hash sig) (sending.others w) =
        (may_open (sending.others w).config p' env.timestamp : Outcome Error Unit) >>= fun _ =>
          .ok (disputed (sending.others w) p' hash env)) :
    (∃ env, sending.Lands config p p' env ∧ sendOpen orderRef (hexOf hash.1) sig sending w =
        (disputed (sending.others w) p' hash env,
          if sending.confirmed then .ok sending.txHash else .error ⟨.unconfirmed, none⟩)) ∨
      (∀ env, ¬sending.Lands config p p' env) ∧ ∃ error, sending.Refuses p error ∧
        sendOpen orderRef (hexOf hash.1) sig sending w = (sending.others w, .error error) := by
  unfold sendOpen submit
  rw [hashToBytes_hexOf]
  rw [configs.1] at first
  rw [configs.2] at second
  cases loaded : sending.loaded with
  | false => exact .inr ⟨fun env lands => by simpa [loaded] using lands.loaded, _, .notTaken rfl rfl, rfl⟩
  | true =>
    simp only [Bool.true_eq_false, if_false]
    cases simulated : sending.simulated with
    | none =>
      refine .inr ⟨fun env lands => ?_, _, .notTaken rfl rfl, rfl⟩
      obtain ⟨_, same, _⟩ := lands.simulated
      rw [simulated] at same
      cases same
    | some env =>
      simp only [first env simulated]
      cases passes : (may_open config p env.timestamp : Outcome Error Unit) with
      | error failure =>
        refine .inr ⟨fun later lands => ?_, ⟨.simulate, some failure⟩, ?_, rfl⟩
        · obtain ⟨_, same, may⟩ := lands.simulated
          rw [simulated] at same
          cases same
          rw [MayOpen, passes] at may
          cases may
        · rcases may_open_error passes with ⟨rfl, past⟩ | ⟨rfl, shipped⟩
          · exact .moved rfl past
          · exact .late rfl shipped
      | ok _ =>
        simp only [ok_bind]
        cases accepted : sending.accepted with
        | false => exact .inr ⟨fun env lands => by simpa [accepted] using lands.accepted, _, .notTaken rfl rfl, rfl⟩
        | true =>
          simp only [Bool.true_eq_false, if_false]
          cases enters : sending.lands with
          | none =>
            refine .inr ⟨fun env lands => ?_, _, .unconfirmed rfl (.inl enters), rfl⟩
            rw [lands.lands] at enters
            cases enters
          | some ledger =>
            simp only [second ledger enters]
            cases inTime : (may_open config p' ledger.timestamp : Outcome Error Unit) with
            | ok _ => exact .inl ⟨ledger, ⟨loaded, ⟨env, simulated, passes⟩, accepted, enters, inTime⟩, rfl⟩
            | error failure =>
              refine .inr ⟨fun other lands => ?_, ⟨if sending.confirmed then .failed else .unconfirmed, none⟩, ?_, rfl⟩
              · have same := lands.lands
                rw [enters] at same
                cases same
                have may := lands.inTime
                rw [MayOpen, inTime] at may
                cases may
              · cases confirmed : sending.confirmed with
                | true => exact .notTaken rfl rfl
                | false => exact .unconfirmed rfl (.inr confirmed)

end

/-! ### The agent's claim -/

/-- What a node that is up to date reads of an escrow. -/
def readEscrow (w : World host) (order_ref : Bytes) (wasmHash : Option String) :
    Option (Option EscrowPurchase × EscrowConfig) := do
  let config ← decodeEscrowConfig w.config wasmHash
  match get w order_ref with
  | none => some (none, config)
  | some p => (decodePurchase p).map fun purchase => (some purchase, config)

theorem readEscrow_some {w : World host} {order_ref : Bytes} {wasmHash : Option String}
    (read : readEscrow w order_ref wasmHash = some (some purchase, config)) :
    ∃ p, get w order_ref = some p ∧ decodePurchase p = some purchase := by
  unfold readEscrow at read
  simp only [Option.bind_eq_bind, Option.bind_eq_some_iff] at read
  obtain ⟨_, _, read⟩ := read
  cases found : get w order_ref with
  | none =>
    rw [found] at read
    simp at read
  | some p =>
    rw [found] at read
    simp only [Option.map_eq_some_iff, Prod.mk.injEq, Option.some.injEq] at read
    obtain ⟨told, decoded, rfl, _⟩ := read
    exact ⟨p, rfl, decoded⟩

theorem not_ok_of_throw {α β : Type} {e : EscrowClocks.Failure} {f : α → Except EscrowClocks.Failure β} {b : β} :
    (throw e >>= f : Except EscrowClocks.Failure β) ≠ .ok b := fun impossible => nomatch impossible

theorem checkClaimableEscrow_ok {claim : Claim} {read : Option (Option EscrowPurchase × EscrowConfig)}
    (checked : checkClaimableEscrow claim read = .ok (purchase, config)) :
    read = some (some purchase, config) ∧ purchase.payer = claim.payer ∧ purchase.amountAtomic = claim.amountAtomic := by
  unfold checkClaimableEscrow at checked
  cases known : claim.arbiters with
  | none => simp [known] at checked
  | some arbiters =>
    simp only [known] at checked
    by_cases noWay : claim.readers = false ∨ claim.openers = false
    · rw [if_pos noWay] at checked
      exact absurd checked not_ok_of_throw
    rw [if_neg noWay] at checked
    match read with
    | none => simp at checked
    | some (told, config') =>
      simp only at checked
      by_cases code : ¬config'.wasmHash.any (ReceiptChecks.PURCHASE_ESCROW_WASM_HASHES.contains ·) = true
      · rw [if_pos code] at checked
        exact absurd checked not_ok_of_throw
      rw [if_neg code] at checked
      by_cases arbiter : config'.arbiter ∉ arbiters
      · rw [if_pos arbiter] at checked
        exact absurd checked not_ok_of_throw
      rw [if_neg arbiter] at checked
      match told with
      | none => simp at checked
      | some told =>
        simp only at checked
        by_cases other : told.orderRef ≠ claim.orderId ∨ told.receiptHash ≠ claim.receiptHash ∨ told.txHash ≠ claim.txHash ∨
            told.amountAtomic ≠ claim.amountAtomic
        · rw [if_pos other] at checked
          exact absurd checked not_ok_of_throw
        rw [if_neg other] at checked
        by_cases payer : told.payer ≠ claim.payer
        · rw [if_pos payer] at checked
          exact absurd checked not_ok_of_throw
        rw [if_neg payer] at checked
        push Not at other payer
        cases window : checkWindow config' told claim.now with
        | error failure =>
          rw [window] at checked
          cases checked
        | ok _ =>
          rw [window] at checked
          cases checked
          exact ⟨rfl, payer, other.2.2.2⟩

theorem isoText_error {date : Date} {failure : EscrowClocks.Failure} (failed : isoText date = .error failure) :
    failure.name = "RangeError" := by
  cases date with
  | none =>
    cases failed
    rfl
  | some t => cases failed

theorem answer_cases (target : ClaimableEscrow) (claimHash : Text) (txHash : String) (after : Option (Option EscrowPurchase)) :
    (∃ told, answer target claimHash txHash after = .ok told ∧ told.transaction = txHash) ∨
      ∃ failure, answer target claimHash txHash after = .error failure ∧ failure.name = "RangeError" := by
  unfold answer
  cases openedAt claimHash after with
  | none => exact .inl ⟨⟨txHash, none, none⟩, rfl, rfl⟩
  | some at_ =>
    cases respond : isoText (dateAt (at_ + target.config.responseWindowSeconds)) with
    | error failure =>
      refine .inr ⟨failure, ?_, isoText_error respond⟩
      simp only [Option.mapM_some, respond]
      rfl
    | ok respondBy =>
      cases resolve : isoText (dateAt (at_ + target.config.responseWindowSeconds + target.config.resolveWindowSeconds)) with
      | error failure =>
        refine .inr ⟨failure, ?_, isoText_error resolve⟩
        simp only [Option.mapM_some, respond, resolve]
        rfl
      | ok resolveBy =>
        refine .inl ⟨⟨txHash, some respondBy, some resolveBy⟩, ?_, rfl⟩
        simp only [Option.mapM_some, respond, resolve]
        rfl

/-- What is so once the agent has been told of its call. -/
structure Told (sending : Sending host) (config : Config) (p p' : Purchase) (hash : BytesN 32) (others : World host)
    (told : World host × Except EscrowClocks.Failure OpenedDispute) : Prop where
  opens : ∀ env, sending.Lands config p p' env → told.1 = disputed others p' hash env
  nothing : (∀ env, ¬sending.Lands config p p' env) → told.1 = others
  answers : ∀ answer, told.2 = .ok answer → answer.transaction = sending.txHash ∧ ∃ env, sending.Lands config p p' env
  fails : ∀ failure, told.2 = .error failure → sending.Tells config p p' failure

theorem Sending.Refuses.tells {sending : Sending host} {config : Config} {p' : Purchase} {error : Refusal}
    (refuses : sending.Refuses p error) (nothing : ∀ env, ¬sending.Lands config p p' env) :
    sending.Tells config p p' (refusal error) := by
  cases refuses with
  | moved same past =>
    refine .moved ?_ past nothing
    simp [refusal, same, escrowContractError, EscrowReleases.errorCode]
  | late same shipped =>
    refine .late ?_ shipped nothing
    simp [refusal, same, escrowContractError, EscrowReleases.errorCode]
  | notTaken same certain =>
    refine .notTaken ?_ nothing
    simp [refusal, same, certain]
  | unconfirmed same silent =>
    subst same
    exact .unconfirmed rfl silent

section
variable {w₀ w : World host} {claim : Claim} {orderId contract : Text} {decodeContract : Text → Option (BytesN 32)}
  {wasmHash : Option String} {purchase : EscrowPurchase} {config : EscrowConfig} {agentKey : AgentKey host}
  {sending : Sending host} {p p' : Purchase}

/-- The agent signs what the escrow asks of its payer. -/
theorem openEscrowDispute_eq (address : decodeContract contract = some w₀.id)
    (referable : EscrowEvents.Referable (utf8 orderId)) (hash : BytesN 32) (w : World host) :
    openEscrowDispute decodeContract ⟨contract, orderId, purchase, config⟩ (hexOf hash.1) agentKey sending w =
      match sendOpen orderId (hexOf hash.1) (signatureOf agentKey purchase.payer (openMessage w₀.id (utf8 orderId) hash))
        sending w with
      | (w, .error error) => (w, .error (refusal error))
      | (w, .ok txHash) => (w, answer ⟨contract, orderId, purchase, config⟩ (hexOf hash.1) txHash sending.after) := by
  unfold openEscrowDispute signatureOf signEscrowOpen
  rw [escrowOpenMessage_eq address referable hash]
  cases startsWithC purchase.payer <;> rfl

/-- A state of the escrow with a purchase of this agent's under the order. -/
structure Holds (w₀ w : World host) (order_ref : Bytes) (payer : Address) (p : Purchase) : Prop where
  sameId : w.id = w₀.id
  sameConfig : w.config = w₀.config
  found : get w order_ref = some p
  named : p.order_ref = order_ref
  payer : p.payer = payer

theorem Holds.invoke {order_ref : Bytes} {payer : Address} {env : Env} (holds : Holds w₀ w order_ref payer p)
    (own : Own agentKey payer env) (hash : BytesN 32) :
    invoke env (.openDispute order_ref hash (signatureOf agentKey payer (openMessage w₀.id order_ref hash))) w =
      (may_open w.config p env.timestamp : Outcome Error Unit) >>= fun _ => .ok (disputed w p hash env) := by
  obtain ⟨sameId, _, found, rfl, rfl⟩ := holds
  exact invoke_open found (sameId ▸ consented_own own w.id hash)

theorem told_of_holds (address : decodeContract contract = some w₀.id) (referable : EscrowEvents.Referable (utf8 orderId))
    (holds : Holds w₀ w (utf8 orderId) purchase.payer p)
    (holds' : Holds w₀ (sending.others w) (utf8 orderId) purchase.payer p')
    (own : ∀ env, sending.simulated = some env ∨ sending.lands = some env → Own agentKey purchase.payer env)
    (hash : BytesN 32) : Told sending w₀.config p p' hash (sending.others w)
      (openEscrowDispute decodeContract ⟨contract, orderId, purchase, config⟩ (hexOf hash.1) agentKey sending w) := by
  rw [openEscrowDispute_eq address referable hash]
  rcases sendOpen_cases ⟨holds.sameConfig, holds'.sameConfig⟩
    (fun env simulated => holds.invoke (own env (.inl simulated)) hash)
    (fun env lands => holds'.invoke (own env (.inr lands)) hash) with
    ⟨env, lands, sent⟩ | ⟨nothing, error, refuses, sent⟩
  · have only : ∀ other, sending.Lands w₀.config p p' other → other = env := fun other also =>
      Option.some.inj (also.lands.symm.trans lands.lands)
    rw [sent]
    cases confirmed : sending.confirmed with
    | false =>
      exact ⟨fun other also => by rw [only other also]; rfl, fun nothing => absurd lands (nothing env),
        fun _ answered => (nomatch answered), fun failure failed => by
          cases failed
          exact .unconfirmed rfl (.inr confirmed)⟩
    | true =>
      rcases answer_cases ⟨contract, orderId, purchase, config⟩ (hexOf hash.1) sending.txHash sending.after with
        ⟨told, same, transaction⟩ | ⟨failure, same, undated⟩
      · simp only [if_true, same]
        exact ⟨fun other also => by rw [only other also], fun nothing => absurd lands (nothing env),
          fun answer answered => by
            cases answered
            exact ⟨transaction, env, lands⟩,
          fun _ failed => (nomatch failed)⟩
      · simp only [if_true, same]
        exact ⟨fun other also => by rw [only other also], fun nothing => absurd lands (nothing env),
          fun _ answered => (nomatch answered),
          fun failure failed => by
            cases failed
            exact .noDate undated ⟨env, lands⟩⟩
  · rw [sent]
    exact ⟨fun env lands => absurd lands (nothing env), fun _ => rfl, fun _ answered => (nomatch answered),
      fun failure failed => by
        cases failed
        exact refuses.tells nothing⟩

/-- A claim on what an escrow was seen to hold, whatever happens there until the call is in: the dispute is opened exactly
    when both the simulation and the ledger find it allowed, otherwise nothing is changed, and what the agent is told is so.
    Neither its receipt nor its consent is ever refused, and only what could not be confirmed may be either way. -/
theorem claim_is_told (deployed : Deployed w₀) (before between : List (Action host)) (ordered : utf8 orderId = claim.orderId)
    (address : decodeContract contract = some w₀.id)
    (checked : checkClaimableEscrow claim (readEscrow (run w₀ before).1 claim.orderId wasmHash) = .ok (purchase, config))
    (own : ∀ env, sending.simulated = some env ∨ sending.lands = some env → Own agentKey claim.payer env) (hash : BytesN 32) :
    ∃ p p', get (run w₀ (before ++ between)).1 claim.orderId = some p ∧
      get (sending.others (run w₀ (before ++ between)).1) claim.orderId = some p' ∧
      p'.payer = claim.payer ∧ p'.amount = claim.amountAtomic ∧
      Told sending w₀.config p p' hash (sending.others (run w₀ (before ++ between)).1)
        (openEscrowDispute decodeContract ⟨contract, orderId, purchase, config⟩ (hexOf hash.1) agentKey sending
          (run w₀ (before ++ between)).1) := by
  obtain ⟨read, payer, amount⟩ := checkClaimableEscrow_ok checked
  obtain ⟨seen, found, decoded⟩ := readEscrow_some read
  rw [decodePurchase_run deployed before found] at decoded
  obtain rfl := Option.some.inj decoded
  obtain ⟨named, referable⟩ := run_referable deployed before _ seen found
  rw [← ordered] at found named referable ⊢
  -- Whatever else is done, the order keeps the purchase that was seen.
  have later : ∀ more, ∃ p, Holds w₀ (run w₀ (before ++ more)).1 (utf8 orderId) seen.payer p ∧ p.amount = seen.amount := by
    intro more
    have recorded := run_recorded deployed (before ++ more)
    obtain ⟨p, stored, continues⟩ := run_continues (run_recorded deployed before).solvent found more
    have joined : (run w₀ (before ++ more)).1 = (run (run w₀ before).1 more).1 := by
      rw [run, Traces.exec_append]
      rfl
    exact ⟨p, ⟨recorded.sameId, recorded.sameConfig, joined ▸ stored, continues.order_ref.trans named, continues.payer⟩,
      continues.amount⟩
  have others : sending.others (run w₀ (before ++ between)).1 = (run w₀ (before ++ (between ++ sending.meanwhile))).1 := by
    rw [← List.append_assoc]
    exact (congrArg Prod.fst (Traces.exec_append w₀ (before ++ between) sending.meanwhile)).symm
  obtain ⟨p, holds, _⟩ := later between
  obtain ⟨p', holds', same⟩ := later (between ++ sending.meanwhile)
  rw [← others] at holds'
  exact ⟨p, p', holds.found, holds'.found, holds'.payer.trans payer, same.trans amount,
    told_of_holds address referable holds holds' (payer ▸ own) hash⟩

end

/-! ### One claim -/

/-- A check of signatures that start with their key. -/
def sampleSigning : Host := { sampleHost with ed25519_verify := fun key _ sig => decide (sig.1.take 32 = key.1) }

def sampleEscrow : World sampleSigning := ⟨sampleId, sampleConfig, 0, ∅, ∅, sampleLedger, [], []⟩

theorem sampleEscrow_deployed : Deployed sampleEscrow :=
  ⟨sampleId, sampleLedger, sampleAddress 2, sampleAddress 3, sampleAddress 4, .contract ⟨List.replicate 32 5, rfl⟩,
    10, 20, 30, rfl⟩

def sampleKey : AgentKey sampleSigning where
  publicKey := filled 1
  sign _ := ⟨(filled 1).1 ++ (filled 0).1, rfl⟩
  verifies _ := rfl

/-- Order 1 is held, paid from a rail. -/
def sampleHeld : List (Action sampleSigning) :=
  [.call (sampleEnv 0) (.hold [49] (.contract (filled 6)) 60 sampleHash sampleHash)]

def sampleClaim : Claim :=
  ⟨[49], sampleHash, sampleHash, 60, .contract (filled 6), some [sampleAddress 4], true, true, none⟩

def sampleSending : Sending sampleSigning :=
  ⟨true, some (sampleEnv 1), [.call (sampleEnv 1) (.mark_shipped [49])], true, some (sampleEnv 2), true, "tx", none⟩

theorem claim_is_told_sample : ∃ purchase config p p',
    checkClaimableEscrow sampleClaim (readEscrow (run sampleEscrow sampleHeld).1 [49]
      ReceiptChecks.PURCHASE_ESCROW_WASM_HASHES.head?) = .ok (purchase, config) ∧
    get (run sampleEscrow sampleHeld).1 [49] = some p ∧
    Told sampleSending sampleConfig p p' sampleHash (sampleSending.others (run sampleEscrow sampleHeld).1)
      (openEscrowDispute (fun _ => some sampleId) ⟨words "C", words "1", purchase, config⟩ (hexOf sampleHash.1) sampleKey
        sampleSending (run sampleEscrow sampleHeld).1) := by
  cases checked : checkClaimableEscrow sampleClaim (readEscrow (run sampleEscrow sampleHeld).1 [49]
      ReceiptChecks.PURCHASE_ESCROW_WASM_HASHES.head?) with
  | error failure =>
    have passes : (checkClaimableEscrow sampleClaim (readEscrow (run sampleEscrow sampleHeld).1 [49]
      ReceiptChecks.PURCHASE_ESCROW_WASM_HASHES.head?)).toBool = true := by decide
    rw [checked] at passes
    cases passes
  | ok claimable =>
    obtain ⟨purchase, config⟩ := claimable
    have own : ∀ env, sampleSending.simulated = some env ∨ sampleSending.lands = some env →
        Own sampleKey sampleClaim.payer env := by
      rintro env (same | same)
      · cases same
        exact ⟨rfl, .inr ⟨filled 6, rfl, rfl⟩⟩
      · cases same
        exact ⟨rfl, .inr ⟨filled 6, rfl, rfl⟩⟩
    obtain ⟨p, p', stored, _, _, _, told⟩ := @claim_is_told _ sampleEscrow sampleClaim (words "1") (words "C")
      (fun _ => some sampleId) _ _ _ sampleKey sampleSending sampleEscrow_deployed sampleHeld []
      (by decide) rfl checked
      own sampleHash
    exact ⟨purchase, config, p, p', rfl, stored, told⟩

end AgentPey.OpenedDisputes
