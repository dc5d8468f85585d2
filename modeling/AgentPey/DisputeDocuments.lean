import AgentPey.Disputes
import AgentPey.EscrowDocuments
import AgentPey.Knowledge
import AgentPey.ShownMandates

/-!
What is kept of a dispute is what the escrow holds of it: a claim or a response stays with its order only when its hash is the
one on chain, and there it never changes. The gateway's check of a response says all that the arbiter's asks.
-/
namespace AgentPey.DisputeDocuments
open JsonNumbers JsonValues JsonTexts TextLines Utf8 WalletSign DisputeResponses Disputes Knowledge
open Routines (Routine)
open Soroban (BytesN)
open PurchaseEscrow (Host World Purchase Deployed)
open EscrowReads (EscrowPurchase)
open EscrowDocuments (Lasts run_lasts)
open PurchaseEscrow (sampleAddress sampleEnv sampleHash sampleHost sampleWorld)

/-! ### The two checks -/

section
variable {deps : DisputeDeps}

theorem splitOn_payeeDid (payee : Text) : (words "did:stellar:testnet:" ++ payee).splitOn (unit ':') =
    [words "did", words "stellar", words "testnet"] ++ payee.splitOn (unit ':') := by
  have cut : words "did:stellar:testnet:" ++ payee =
      words "did" ++ unit ':' :: (words "stellar" ++ unit ':' :: (words "testnet" ++ unit ':' :: payee)) := rfl
  have whole : ∀ text : Text, unit ':' ∉ text → text.splitOn (unit ':') = [text] := fun _ => List.splitOn_eq_singleton
  rw [cut, List.splitOn_append_cons_self, List.splitOn_append_cons_self, List.splitOn_append_cons_self,
    whole _ (by decide), whole _ (by decide), whole _ (by decide)]
  rfl

theorem splitOn_of_parse {lib : Libraries} {did : Text} {parsed : ParsedStellarDid}
    (ran : parseStellarDid lib did = some parsed) : did.splitOn (unit ':') = [words "did", words "stellar", parsed.network, parsed.address] := by
  unfold parseStellarDid at ran
  split at ran
  next scheme method network address parts =>
    split_ifs at ran with right
    obtain ⟨rfl, rfl, _⟩ := right
    cases ran
    exact parts
  · cases ran

theorem address_of_payeeDid {did : Did deps.toDecoders} (payees : did.1 = payeeDid deps) :
    didToStellarAddress did = deps.escrow.payee := by
  obtain ⟨parsed, ran⟩ := Option.isSome_iff_exists.mp did.2
  have parts := splitOn_of_parse ran
  rw [payees, payeeDid, splitOn_payeeDid] at parts
  simp only [List.cons_append, List.nil_append, List.cons.injEq, true_and] at parts
  have alone : deps.escrow.payee = parsed.address := by
    have single := parts.2
    rw [List.splitOn_eq_singleton (not_mem_of_splitOn single)] at single
    exact List.singleton_injective single
  rw [alone, didToStellarAddress]
  simp only [ran, Option.get_some]

variable (deps) in
/-- A response that says of this receipt and this claim what an arbiter asks of it. -/
structure Agrees (receipt : OrderReceipt) (claim : ClaimPayload) (claimHash : Text) (amount : Int) (document : Value)
    (response : AgentResolveResponse deps.toDecoders) : Prop where
  read : agentResolveResponseSchema deps.toDecoders document = some response
  exact_ : CanonicalJson.canonicalJson response.value = CanonicalJson.canonicalJson document
  respondent : response.respondent.1 = payeeDid deps
  receiptHash : response.receiptHash = receipt.hash
  claimHash : response.claimHash = claimHash
  claimId : response.claimId = claim.claimId
  accepted : ∀ accepted, response.acceptedAtomic = some accepted →
    readDigits accepted < readDigits claim.amountAtomic ∧ readDigits accepted < amount

variable {document : Value}

theorem checkDocument_ok {held : HeldOrder} {purchase : EscrowPurchase} {hash : Text}
    (ran : checkDocument deps held purchase document = .ok hash) :
    ∃ jws claim onChain response, held.order.documents.claimJws = some jws ∧ claimPayload deps.toDecoders jws = some claim ∧
      purchase.claimHash = some onChain ∧
      Agrees deps held.receipt claim (hashText onChain) purchase.amountAtomic document response ∧
      hash = documentHash deps.toDecoders document := by
  unfold checkDocument at ran
  split_ifs at ran with long
  split at ran
  next => cases ran
  next response read =>
    split_ifs at ran with exact_ respondent receiptHash claimHash
    split at ran
    next => cases ran
    next claim payload =>
      split_ifs at ran with claimId accepted
      cases ran
      push Not at exact_ respondent receiptHash claimHash claimId
      obtain ⟨jws, kept, decoded⟩ := Option.bind_eq_some_iff.mp payload
      obtain ⟨onChain, there, same⟩ := Option.map_eq_some_iff.mp claimHash
      refine ⟨jws, claim, onChain, response, kept, decoded, there,
        ⟨read, exact_, respondent, receiptHash, same.symm, claimId, fun text given => ?_⟩, rfl⟩
      simpa [given, not_or] using accepted

/-- What a dispute is over: what the claim asks, and no more than the escrow holds. -/
def disputedOf (claimed : ℕ) (amount : Int) : ℕ := if claimed < amount then claimed else amount.toNat

/-- What the gateway checked, the arbiter accepts. -/
theorem verify_agrees {receipt : OrderReceipt} {claim : ClaimPayload} {claimHash onChain : Text} {amount : Int}
    {response : AgentResolveResponse deps.toDecoders} (agrees : Agrees deps receipt claim claimHash amount document response)
    (account : receipt.claims.merchantAccount = deps.stellarAccount) (hash : documentHash deps.toDecoders document = onChain) :
    verifyEscrowResponse deps.toDecoders document ⟨receipt.claims, receipt.hash, claimHash, claim.claimId,
      disputedOf (readDigits claim.amountAtomic) amount⟩ onChain = .ok ⟨response, onChain, []⟩ := by
  have same : responseHash response = onChain := by
    rw [← hash, responseHash, documentHash, agrees.exact_, documentHash]
  have merchant : didToStellarAddress response.respondent = receipt.claims.merchantAccount := by
    rw [address_of_payeeDid agrees.respondent, deps.verified, account]
  have less : (response.acceptedAtomic.any fun accepted =>
      disputedOf (readDigits claim.amountAtomic) amount ≤ readDigits accepted) = false := by
    cases given : response.acceptedAtomic with
    | none => rfl
    | some accepted =>
      obtain ⟨below, within⟩ := agrees.accepted accepted given
      have inside : readDigits accepted < disputedOf (readDigits claim.amountAtomic) amount := by
        unfold disputedOf
        split_ifs <;> omega
      simpa using inside
  unfold verifyEscrowResponse
  simp only [agrees.read, same, merchant, agrees.receiptHash, agrees.claimHash, agrees.claimId, agrees.exact_, less, ne_eq,
    not_true_eq_false, or_self, if_false, Bool.false_eq_true]

end

/-! ### Records -/

variable {host : Host} (deps : DisputeDeps) (w₀ : World host) (Brought : Text → Prop)

/-- A claim that was brought, and is the one on chain. -/
structure ClaimHeld (p : Purchase) (onChain : BytesN 32) (jws : Text) : Prop where
  brought : Brought jws
  stored : p.claim_hash = some onChain
  same : jwsDocumentHash deps.toDecoders jws = hashText onChain

/-- A response that is the one on chain, and agrees with a claim that is. -/
def ResponseHeld (p : Purchase) (receipt : OrderReceipt) (kept : OrderResponse) : Prop :=
  ∃ onChain jws claim response hash, ClaimHeld deps Brought p onChain jws ∧ claimPayload deps.toDecoders jws = some claim ∧
    Agrees deps receipt claim (hashText onChain) p.amount kept.document response ∧
    p.response_hash = some hash ∧ kept.hash = hashText hash ∧ kept.hash = documentHash deps.toDecoders kept.document

structure SoundRecord (w : World host) (id : Text) (order : OrderRecord) : Prop where
  ascii : ∀ u ∈ id, u.val < 0x80
  account : ∀ receipt, order.receipt = some receipt → receipt.claims.merchantAccount = deps.stellarAccount
  claim : ∀ jws, order.documents.claimJws = some jws →
    ∃ p onChain, PurchaseEscrow.get w (utf8 id) = some p ∧ ClaimHeld deps Brought p onChain jws
  response : ∀ kept, order.documents.response = some kept → order.documents.claimJws.isSome ∧
    ∃ p receipt, PurchaseEscrow.get w (utf8 id) = some p ∧ order.receipt = some receipt ∧ ResponseHeld deps Brought p receipt kept

def Keeps (s : Store host) (id : Text) (order : OrderRecord) : Prop := s.orders id = some order ∨ s.saved id = some order

def Sound (s : Store host) : Prop := ∀ id order, Keeps s id order → SoundRecord deps Brought (s.world w₀) id order

structure Later (s s' : Store host) : Prop where
  grows : s.chain <+: s'.chain
  sound : Sound deps w₀ Brought s → Sound deps w₀ Brought s'
  receipt : ∀ id order receipt, s.orders id = some order → order.receipt = some receipt →
    ∃ order', s'.orders id = some order' ∧ order'.receipt = some receipt ∧
      (order.documents.claimJws.isSome → order'.documents.claimJws.isSome)

/-- What a purchase that was read says of the one on chain, now and later. -/
def Seen (s : Store host) (id : Text) (purchase : EscrowPurchase) : Prop :=
  ∃ p, PurchaseEscrow.get (s.world w₀) (utf8 id) = some p ∧ (∀ hash, purchase.claimHash = some hash → p.claim_hash = some hash) ∧
    (∀ hash, purchase.responseHash = some hash → p.response_hash = some hash) ∧ p.amount = purchase.amountAtomic

/-- Exactly the answer to this order's dispute, with the hash of this document, from the payout account. -/
def Exact (c : Request) (signedXdr : Text) : Prop :=
  ∃ id body request call, c = .submit id body ∧ submitBodySchema body = some request ∧
    decodeEscrowCall deps signedXdr = some call ∧ call.contract = deps.escrow.contract ∧ call.fn = words "respond" ∧
    call.args = [.bytes (utf8 id), .bytes (deps.sha256 (utf8 (CanonicalJson.canonicalJson request.response)))] ∧
    call.source = deps.escrow.payee

section
variable {deps w₀ Brought}

variable {p : Purchase} {id : Text} {order : OrderRecord}

theorem ClaimHeld.lasts {p' : Purchase} {onChain : BytesN 32} {jws : Text} (held : ClaimHeld deps Brought p onChain jws)
    (lasts : Lasts p p') : ClaimHeld deps Brought p' onChain jws :=
  { held with stored := lasts.claim onChain held.stored }

theorem ResponseHeld.lasts {p' : Purchase} {receipt : OrderReceipt} {kept : OrderResponse}
    (held : ResponseHeld deps Brought p receipt kept) (lasts : Lasts p p') : ResponseHeld deps Brought p' receipt kept := by
  obtain ⟨onChain, jws, claim, response, hash, claimHeld, payload, agrees, stored, same⟩ := held
  rw [← lasts.amount] at agrees
  exact ⟨onChain, jws, claim, response, hash, claimHeld.lasts lasts, payload, agrees, lasts.response hash stored, same⟩

variable {s s' : Store host}

section
variable (deployed : Deployed w₀) (grows : s.chain <+: s'.chain)
include deployed grows

theorem purchase_lasts {order_ref : Soroban.Bytes} (found : PurchaseEscrow.get (s.world w₀) order_ref = some p) :
    ∃ p', PurchaseEscrow.get (s'.world w₀) order_ref = some p' ∧ Lasts p p' := by
  obtain ⟨more, longer⟩ := grows
  rw [Store.world, ← longer]
  exact run_lasts deployed found more

theorem SoundRecord.later
    (sound : SoundRecord deps Brought (s.world w₀) id order) : SoundRecord deps Brought (s'.world w₀) id order where
  ascii := sound.ascii
  account := sound.account
  claim jws kept := by
    obtain ⟨p, onChain, found, held⟩ := sound.claim jws kept
    obtain ⟨p', there, lasts⟩ := purchase_lasts deployed grows found
    exact ⟨p', onChain, there, held.lasts lasts⟩
  response kept among := by
    obtain ⟨claimed, p, receipt, found, signed, held⟩ := sound.response kept among
    obtain ⟨p', there, lasts⟩ := purchase_lasts deployed grows found
    exact ⟨claimed, p', receipt, there, signed, held.lasts lasts⟩

theorem Seen.later {purchase : EscrowPurchase} (seen : Seen w₀ s id purchase) : Seen w₀ s' id purchase := by
  obtain ⟨p, found, claim, response, amount⟩ := seen
  obtain ⟨p', there, lasts⟩ := purchase_lasts deployed grows found
  exact ⟨p', there, fun hash read => lasts.claim hash (claim hash read),
    fun hash read => lasts.response hash (response hash read), lasts.amount.trans amount⟩

end

theorem Later.refl (s : Store host) : Later deps w₀ Brought s s :=
  ⟨List.prefix_refl _, fun sound => sound, fun _ order _ found signed => ⟨order, found, signed, fun claimed => claimed⟩⟩

theorem Later.trans {s s' s'' : Store host} (first : Later deps w₀ Brought s s') (second : Later deps w₀ Brought s' s'') :
    Later deps w₀ Brought s s'' where
  grows := first.grows.trans second.grows
  sound := second.sound ∘ first.sound
  receipt id order receipt found signed := by
    obtain ⟨order', there, signed', claimed⟩ := first.receipt id order receipt found signed
    obtain ⟨order'', last, signed'', claimed'⟩ := second.receipt id order' receipt there signed'
    exact ⟨order'', last, signed'', claimed' ∘ claimed⟩

theorem later_put {s : Store host} (sound : Sound deps w₀ Brought s → SoundRecord deps Brought (s.world w₀) id order)
    (receipt : ∀ old receipt, s.orders id = some old → old.receipt = some receipt →
      order.receipt = some receipt ∧ (old.documents.claimJws.isSome → order.documents.claimJws.isSome)) :
    Later deps w₀ Brought s (s.put id order) where
  grows := List.prefix_refl _
  sound before other found := by
    rintro (memory | saved)
    · change (if other = id then some order else s.orders other) = some found at memory
      split_ifs at memory with same
      · cases memory
        exact same ▸ sound before
      · exact before other found (.inl memory)
    · exact before other found (.inr saved)
  receipt other old signed found has := by
    by_cases same : other = id
    · subst same
      obtain ⟨kept, claimed⟩ := receipt old signed found has
      exact ⟨order, if_pos rfl, kept, claimed⟩
    · exact ⟨old, (if_neg same).trans found, has, fun claimed => claimed⟩

end

/-! ### What the routes know -/

def told : (o : Op) → Except Failure o.Answer → Store host → Prop
  | .get id, .ok (some purchase), s => Seen w₀ s id purchase
  | _, _, _ => True

def may : Request → Op → Store host → Prop
  | _, .save id order, s => SoundRecord deps Brought (s.world w₀) id order
  | c, .submitSigned signedXdr, _ => Exact deps c signedXdr
  | _, _, _ => True

def rules : Rules Request (Store host) Op Failure Op.Answer where
  later := Later deps w₀ Brought
  across s s' := s.chain <+: s'.chain ∧ (Sound deps w₀ Brought s → Sound deps w₀ Brought s')
  always := Sound deps w₀ Brought
  told := told w₀
  starts c := ∀ id body jws, c = .claim id body → claimBodySchema body = some jws → Brought jws
  may := may deps w₀ Brought
  refl := Later.refl
  trans := Later.trans
  within later := ⟨later.grows, later.sound⟩
  across_trans first second := ⟨first.1.trans second.1, second.2 ∘ first.2⟩
  lasting across := across.2

section
variable {deps w₀ Brought} {α : Type} {c : Request} {knows : Store host → Prop} {id : Text}

theorem knows_heldNow {f : HeldOrder → Job host α}
    (each : ∀ s held, knows s → s.orders id = some held.order → held.order.receipt = some held.receipt →
      Knows (rules deps w₀ Brought) c (Later deps w₀ Brought s) (f held)) :
    Knows (rules deps w₀ Brought) c knows (heldNow deps id >>= f) := by
  refine knows_sync fun s here => ⟨Later.refl s, ?_⟩
  change Knows _ _ _ (liftM (heldOrder deps s id) >>= f)
  refine knows_lift fun held ran => each s held here ?_ ?_
  all_goals
    unfold heldOrder at ran
    split at ran
    next receipt hold dispute found =>
      split_ifs at ran
      cases ran
      first | exact found | rfl
    · cases ran

theorem knows_viewNow (purchase : EscrowPurchase) : Knows (rules deps w₀ Brought) c knows (viewNow deps id purchase) := by
  refine knows_heldNow fun s held _ _ _ => ?_
  cases view deps id held.order purchase with
  | ok reply => trivial
  | error e => trivial

theorem knows_purchaseOf {f : EscrowPurchase → Job host α} (each : ∀ purchase, Knows (rules deps w₀ Brought) c
      ((rules deps w₀ Brought).after knows (.get id) (.ok (some purchase))) (f purchase)) :
    Knows (rules deps w₀ Brought) c knows (purchaseOf id >>= f) := by
  refine ⟨⟨c, knows⟩, ⟨rfl, fun _ _ => trivial⟩, fun answer _ => ?_⟩
  match answer with
  | .error e => trivial
  | .ok none => trivial
  | .ok (some purchase) => exact each purchase

variable {f : Unit → Job host α} {s s₀ : Store host} {order : OrderRecord} {held : HeldOrder} {document : Value} {hash : Text}

theorem knows_update (deployed : Deployed w₀) (receipt : OrderReceipt) {change : OrderRecord → OrderRecord}
    (sound : ∀ s order, knows s → s.orders id = some order →
      order.receipt = some receipt ∧ (change order).receipt = some receipt ∧
      (change order).documents.claimJws.isSome ∧ SoundRecord deps Brought (s.world w₀) id (change order))
    (rest : ∀ knows, Knows (rules deps w₀ Brought) c knows (f ⟨⟩)) :
    Knows (rules deps w₀ Brought) c knows (update id change >>= f) := by
  refine knows_sync fun s here => ⟨Later.refl s, ?_⟩
  dsimp only [Routine.bind]
  cases found : s.orders id with
  | none => exact rest _
  | some order =>
    obtain ⟨signed, signed', claimed, record⟩ := sound s order here found
    refine knows_sync fun s' (later : Later deps w₀ Brought s s') => ⟨later_put (fun _ => record.later deployed later.grows)
      fun old other there has => ?_, ?_⟩
    · obtain ⟨order', now, same, _⟩ := later.receipt id order receipt found signed
      obtain rfl : old = order' := Option.some.inj (there.symm.trans now)
      exact ⟨signed'.trans (same.symm.trans has), fun _ => claimed⟩
    · refine knows_ask (fun s'' after => ?_) fun _ => rest _
      exact record.later deployed (later.grows.trans after.grows)

variable {body : Value}

theorem parseBody_ok {β : Type} {schema : Value → Option β} {request : β} (parsed : parseBody schema body = .ok request)
    : schema body = some request := by
  unfold parseBody at parsed
  split at parsed
  next read =>
    cases parsed
    exact read
  · cases parsed

theorem record_later {s' : Store host} {order' : OrderRecord} {receipt : OrderReceipt} (sound : Sound deps w₀ Brought s)
    (found : s.orders id = some order) (signed : order.receipt = some receipt) (later : Later deps w₀ Brought s s')
    (found' : s'.orders id = some order') : order'.receipt = some receipt ∧
      (order.documents.claimJws.isSome → order'.documents.claimJws.isSome) ∧ SoundRecord deps Brought (s'.world w₀) id order' := by
  obtain ⟨there, now, signed', claimed⟩ := later.receipt id order receipt found signed
  obtain rfl : order' = there := Option.some.inj (found'.symm.trans now)
  exact ⟨signed', claimed, later.sound sound id order' (.inl found')⟩

theorem knows_claim (deployed : Deployed w₀) (starts : ∀ jws, claimBodySchema body = some jws → Brought jws) :
    Knows (rules deps w₀ Brought) (.claim id body) (Sound deps w₀ Brought) (claimRoute deps id body) := by
  refine knows_heldNow fun s₀ held sound found signed => ?_
  refine knows_lift fun claimJws parsed => ?_
  refine knows_purchaseOf fun purchase => ?_
  split
  next => trivial
  next claimHash shown =>
    split_ifs with other kept
    · trivial
    · exact knows_viewNow purchase
    · push Not at other
      refine knows_update deployed held.receipt (fun s order after found' => ?_) fun _ => knows_viewNow purchase
      obtain ⟨s₁, later₁, later₀, seen⟩ := after
      obtain ⟨signed', _, record⟩ := record_later sound found signed (later₀.trans later₁) found'
      obtain ⟨p, there, claim, _⟩ := seen.later deployed later₁.grows
      refine ⟨signed', signed', rfl, { record with claim := fun jws same => ?_, response := fun kept among => ?_ }⟩
      · obtain rfl : claimJws = jws := Option.some.inj same
        exact ⟨p, claimHash, there, starts claimJws (parseBody_ok parsed), claim claimHash shown, other⟩
      · exact ⟨rfl, (record.response kept among).2⟩

theorem knows_prepare :
    Knows (rules deps w₀ Brought) (.prepare id body) (Sound deps w₀ Brought) (prepareRoute deps id body) := by
  refine knows_heldNow fun s₀ held sound found signed => ?_
  refine knows_lift fun response parsed => ?_
  refine knows_purchaseOf fun purchase => ?_
  refine knows_read fun s _ => ?_
  refine knows_lift fun respondBy checked => ?_
  refine knows_lift fun hash checked => ?_
  refine knows_ask (fun _ _ => trivial) fun xdr => ?_
  refine knows_lift fun date ran => ?_
  trivial

/-- A response that passed the check is the escrow's, once it holds the same hash. -/
theorem responseHeld_now (deployed : Deployed w₀) {purchase answered : EscrowPurchase} (transaction : Option Text)
    (sound : Sound deps w₀ Brought s₀) (found : s₀.orders id = some held.order) (later : Later deps w₀ Brought s₀ s)
    (checked : checkDocument deps held purchase document = .ok hash) (seen : Seen w₀ s id purchase)
    (seen' : Seen w₀ s id answered) (same : answered.responseHash.map hashText = some hash) :
    held.order.documents.claimJws.isSome ∧ ∃ p, PurchaseEscrow.get (s.world w₀) (utf8 id) = some p ∧
      ResponseHeld deps Brought p held.receipt ⟨document, hash, transaction⟩ := by
  obtain ⟨jws, claim, onChain, response, kept, payload, shown, agrees, rfl⟩ := checkDocument_ok checked
  obtain ⟨stored, read, hashed⟩ := Option.map_eq_some_iff.mp same
  obtain ⟨p, there, claims, _, amount⟩ := seen
  obtain ⟨p', there', _, responds, _⟩ := seen'
  obtain rfl : p = p' := Option.some.inj (there.symm.trans there')
  obtain ⟨p₀, onChain₀, before, claimHeld⟩ := (sound id held.order (.inl found)).claim jws kept
  obtain ⟨p'', there'', lasts⟩ := purchase_lasts deployed later.grows before
  obtain rfl : p = p'' := Option.some.inj (there.symm.trans there'')
  have now := claimHeld.lasts lasts
  obtain rfl : onChain = onChain₀ := Option.some.inj ((claims onChain shown).symm.trans now.stored)
  rw [← amount] at agrees
  exact ⟨by simp [kept], p, there, onChain, jws, claim, response, stored, now, payload, agrees, responds stored read, hashed.symm,
    rfl⟩

theorem knows_keep (deployed : Deployed w₀) {transaction : Option Text} (sound : Sound deps w₀ Brought s₀)
    (found : s₀.orders id = some held.order) (signed : held.order.receipt = some held.receipt)
    (claimed : held.order.documents.claimJws.isSome)
    (each : ∀ s, knows s → Later deps w₀ Brought s₀ s ∧ ∃ p, PurchaseEscrow.get (s.world w₀) (utf8 id) = some p ∧
      ResponseHeld deps Brought p held.receipt ⟨document, hash, transaction⟩)
    (rest : ∀ knows, Knows (rules deps w₀ Brought) c knows (f ⟨⟩)) :
    Knows (rules deps w₀ Brought) c knows (keep id document hash transaction >>= f) := by
  refine knows_update deployed held.receipt (fun s order here found' => ?_) rest
  obtain ⟨later, p, there, responseHeld⟩ := each s here
  obtain ⟨signed', claims, record⟩ := record_later sound found signed later found'
  refine ⟨signed', signed', claims claimed, { record with claim := record.claim, response := fun kept among => ?_ }⟩
  cases among
  exact ⟨claims claimed, p, held.receipt, there, signed', responseHeld⟩

theorem exact_of_isExact {request : SubmitBody} {signedXdr : Text} {call : EscrowCall}
    (parsed : submitBodySchema body = some request) (decoded : decodeEscrowCall deps signedXdr = some call)
    (ascii : ∀ u ∈ id, u.val < 0x80) (right : isExact deps id (documentHash deps.toDecoders request.response) call = true) :
    Exact deps (.submit id body) signedXdr := by
  unfold isExact at right
  split at right
  next orderRef signedHash args =>
    simp only [Bool.and_eq_true, decide_eq_true_eq] at right
    obtain ⟨⟨⟨⟨⟨contract, fn⟩, named⟩, hashed⟩, source⟩, _⟩ := right
    refine ⟨id, body, request, call, rfl, parsed, decoded, contract, fn, ?_, source⟩
    rw [args, deps.toText_ascii orderRef id named ascii, ShownMandates.hexOf_inj hashed]
  · cases right

theorem knows_submit (deployed : Deployed w₀) :
    Knows (rules deps w₀ Brought) (.submit id body) (Sound deps w₀ Brought) (submitRoute deps id body) := by
  refine knows_heldNow fun s₀ held sound found signed => ?_
  refine knows_lift fun request parsed => ?_
  refine knows_purchaseOf fun purchase => ?_
  refine knows_lift fun hash checked => ?_
  have claimed : held.order.documents.claimJws.isSome := by
    obtain ⟨jws, _, _, _, kept, _⟩ := checkDocument_ok checked
    simp [kept]
  dsimp only
  split_ifs with wrong landed
  · trivial
  · refine knows_keep deployed sound found signed claimed (fun s after => ?_) fun _ => knows_viewNow purchase
    obtain ⟨s₁, later₁, later₀, seen⟩ := after
    have now := seen.later deployed later₁.grows
    exact ⟨later₀.trans later₁, (responseHeld_now deployed _ sound found (later₀.trans later₁) checked now now landed.2).2⟩
  · split
    next call signedXdr decoded given =>
      refine knows_read fun s after => ?_
      obtain ⟨s₁, later₁, later₀, seen⟩ := after
      refine knows_lift fun respondBy opened => ?_
      refine knows_try (fun _ _ => ?_) fun sent => ?_
      · rw [given] at wrong
        have decodes : decodeEscrowCall deps signedXdr = some call := by simpa [given] using decoded
        obtain ⟨_, _, _, _, _, _, _, _, rfl⟩ := checkDocument_ok checked
        have right : isExact deps id (documentHash deps.toDecoders request.response) call = true := by
          simpa [decodes] using wrong
        exact exact_of_isExact (parseBody_ok parsed) decodes (sound id held.order (.inl found)).ascii right
      · cases sent with
        | error e => trivial
        | ok _ =>
          refine knows_purchaseOf fun answered => ?_
          split_ifs with other
          · trivial
          · push Not at other
            refine knows_keep deployed sound found signed claimed (fun s' last => ?_) fun _ => knows_viewNow answered
            obtain ⟨s₃, later₃, ⟨s₂, later₂, before, _⟩, seen'⟩ := last
            have first : Later deps w₀ Brought s₁ s' := (later₁.trans before).trans (later₂.trans later₃)
            exact ⟨later₀.trans first, (responseHeld_now deployed _ sound found (later₀.trans first) checked
              (seen.later deployed first.grows) (seen'.later deployed later₃.grows) other).2⟩
    next => trivial

theorem told_readPurchase (s : Store host) (input : Input) : told w₀ (.get id) (reply input (readPurchase (s.world w₀) id)) s := by
  unfold reply
  cases input.failure with
  | some e => trivial
  | none =>
    unfold readPurchase
    cases found : PurchaseEscrow.get (s.world w₀) (utf8 id) with
    | none => trivial
    | some p =>
      cases decoded : EscrowReads.decodePurchase p with
      | none => simp only [decoded, told]
      | some purchase =>
        obtain ⟨_, _, rfl⟩ := Option.map_eq_some_iff.mp decoded
        simp only [decoded, told]
        exact ⟨p, found, fun _ read => read, fun _ read => read, rfl⟩

theorem later_save (record : SoundRecord deps Brought (s.world w₀) id order) :
    Later deps w₀ Brought s { s with saved := put s.saved id order } where
  grows := List.prefix_refl _
  sound before other found := by
    rintro (memory | saved)
    · exact before other found (.inl memory)
    · change (if other = id then some order else s.saved other) = some found at saved
      split_ifs at saved with same
      · cases saved
        exact same ▸ record
      · exact before other found (.inr saved)
  receipt _ order _ found signed := ⟨order, found, signed, fun claimed => claimed⟩

theorem later_outside (deployed : Deployed w₀) (k : Outside host) (s : Store host) :
    Later deps w₀ Brought s (outside deps k s) := by
  have same : Later deps w₀ Brought s s := Later.refl s
  cases k with
  | chain action =>
    have grows : s.chain <+: s.chain ++ [action] := List.prefix_append _ _
    exact ⟨grows, fun sound id order keeps => (sound id order keeps).later deployed grows, same.receipt⟩
  | place id receiptHash =>
    simp only [outside]
    cases found : s.orders id.1 with
    | some order => exact same
    | none =>
      refine later_put (fun _ => ⟨id.2, fun receipt signed => ?_, (fun _ impossible => nomatch impossible),
        fun _ impossible => nomatch impossible⟩) fun old receipt there => ?_
      · obtain ⟨hash, _, rfl⟩ := Option.map_eq_some_iff.mp signed
        rfl
      · rw [found] at there
        cases there
  | sign id receiptHash =>
    simp only [outside]
    split
    next hold dispute found =>
      refine later_put (fun sound => ?_) fun old receipt there signed => ?_
      · have record := sound id _ (.inl found)
        refine ⟨record.ascii, fun receipt signed => ?_, record.claim, fun kept among => ?_⟩
        · cases signed
          rfl
        · obtain ⟨_, _, _, _, impossible, _⟩ := record.response kept among
          cases impossible
      · rw [found] at there
        cases there
        cases signed
    · exact same
  | hold id escrow =>
    simp only [outside]
    cases found : s.orders id with
    | none => exact same
    | some order =>
      refine later_put (fun sound => ?_) fun old receipt there signed => ?_
      · have record := sound id order (.inl found)
        exact ⟨record.ascii, record.account, record.claim, record.response⟩
      · rw [found] at there
        cases there
        exact ⟨signed, fun claimed => claimed⟩
  | tick now => exact ⟨List.prefix_refl _, fun sound => sound, same.receipt⟩

theorem bound (deployed : Deployed w₀) : Bound (rules deps w₀ Brought) (disputes deps w₀) where
  body c starts := by
    cases c with
    | claim id body => exact knows_claim deployed fun jws parsed => starts id body jws rfl parsed
    | prepare id body => exact knows_prepare
    | submit id body => exact knows_submit deployed
  serve c o input s answer s' may served := by
    cases o with
    | get id =>
      cases served
      exact ⟨Later.refl s, told_readPurchase s input⟩
    | prepareRespond id hash =>
      cases served
      exact ⟨Later.refl s, trivial⟩
    | submitSigned signedXdr =>
      cases served
      exact ⟨Later.refl s, trivial⟩
    | save id order =>
      cases served
      refine ⟨?_, trivial⟩
      split_ifs
      · exact later_save may
      · exact Later.refl s
  outside k s := later_outside deployed k s
  restart s := by
    refine ⟨List.prefix_refl _, fun sound id order keeps => sound id order (.inr ?_)⟩
    rcases keeps with memory | saved
    · exact memory
    · exact saved

end

/-! ### Runs -/

abbrev Act (host : Host) := Routines.Action Request Input (Outside host)

def run (now : Int) (actions : List (Act host)) : Routines.System Request (Store host) Op Failure Op.Answer Reply ×
    List (Routines.Event Request Op Failure Op.Answer Reply) :=
  Traces.exec (Routines.step (disputes deps w₀)) ⟨opened now, []⟩ actions

def Brings (actions : List (Act host)) (jws : Text) : Prop :=
  ∃ id body, .start (.claim id body) ∈ actions ∧ claimBodySchema body = some jws

/-- No two of these texts collide. -/
def Apart (texts : Text → Prop) : Prop :=
  ∀ a b, texts a → texts b → deps.sha256 (utf8 a) = deps.sha256 (utf8 b) → utf8 a = utf8 b

/-- The arbiter's context of a response: the receipt, the claim, and what is on chain. -/
def contextOf (receipt : OrderReceipt) (claimId amountAtomic : Text) (onChain : BytesN 32) (amount : Int) : ResponseContext :=
  ⟨receipt.claims, receipt.hash, hashText onChain, claimId, disputedOf (readDigits amountAtomic) amount⟩

/-- What is kept of an order's dispute is what the escrow holds, and a kept response is one that the arbiter accepts. -/
structure Matches (w : World host) (id : Text) (order : OrderRecord) : Prop where
  claim : ∀ jws, order.documents.claimJws = some jws → ∃ p onChain, PurchaseEscrow.get w (utf8 id) = some p ∧
    p.claim_hash = some onChain ∧ jwsDocumentHash deps.toDecoders jws = hashText onChain
  response : ∀ kept, order.documents.response = some kept → ∃ p onChain answered receipt jws,
    PurchaseEscrow.get w (utf8 id) = some p ∧ p.claim_hash = some onChain ∧ p.response_hash = some answered ∧
    documentHash deps.toDecoders kept.document = hashText answered ∧ kept.hash = hashText answered ∧
    order.receipt = some receipt ∧ order.documents.claimJws = some jws ∧
    ∀ claim, verifyClaim deps.toDecoders jws = some claim → ∃ verified, verifyEscrowResponse deps.toDecoders kept.document
      (contextOf receipt claim.claimId claim.amountAtomic onChain p.amount) (hashText answered) = .ok verified

/-- Documents of one order with the hashes of the same documents. -/
structure SameDocuments (order order' : OrderRecord) : Prop where
  claim : ∀ jws jws', order.documents.claimJws = some jws → order'.documents.claimJws = some jws' →
    jwsDocumentHash deps.toDecoders jws = jwsDocumentHash deps.toDecoders jws'
  response : ∀ kept kept', order.documents.response = some kept → order'.documents.response = some kept' →
    documentHash deps.toDecoders kept.document = documentHash deps.toDecoders kept'.document

section
variable {deps w₀ Brought}

variable {id : Text} {order : OrderRecord}

theorem SoundRecord.matches_ {w : World host} (record : SoundRecord deps Brought w id order)
    (apart : Apart deps Brought) : Matches deps w id order where
  claim jws kept := by
    obtain ⟨p, onChain, there, held⟩ := record.claim jws kept
    exact ⟨p, onChain, there, held.stored, held.same⟩
  response kept among := by
    obtain ⟨claimed, p, receipt, there, signed, onChain, jws, claim, response, answered, held, payload, agrees, stored, same,
      hashed⟩ := record.response kept among
    obtain ⟨jws', now⟩ := Option.isSome_iff_exists.mp claimed
    refine ⟨p, onChain, answered, receipt, jws', there, held.stored, stored, hashed ▸ same, same, signed, now,
      fun claim' verified => ?_⟩
    obtain ⟨p', onChain', there', held'⟩ := record.claim jws' now
    obtain rfl : p = p' := Option.some.inj (there.symm.trans there')
    obtain rfl : onChain = onChain' := Option.some.inj (held.stored.symm.trans held'.stored)
    -- a claim in ASCII is the only text with its bytes
    have bytes := apart jws' jws held'.brought held.brought (ShownMandates.hexOf_inj (held'.same.trans held.same.symm))
    obtain rfl : jws' = jws := utf8_ascii_inj (verified_ascii verified) bytes
    obtain rfl : claim = ⟨claim'.claimId, claim'.amountAtomic⟩ :=
      Option.some.inj (payload.symm.trans (claimPayload_of_verified verified))
    exact ⟨_, verify_agrees agrees (record.account receipt signed) (hashed ▸ same)⟩

/-- What was kept earlier has the hash of what is kept later: both are the one on chain. -/
theorem sameDocuments (deployed : Deployed w₀) {s s' : Store host} (grows : s.chain <+: s'.chain) {order' : OrderRecord}
    (before : SoundRecord deps Brought (s.world w₀) id order)
    (after : SoundRecord deps Brought (s'.world w₀) id order') : SameDocuments deps order order' where
  claim jws jws' kept kept' := by
    obtain ⟨p, onChain, there, held⟩ := (before.later deployed grows).claim jws kept
    obtain ⟨p', onChain', there', held'⟩ := after.claim jws' kept'
    obtain rfl : p = p' := Option.some.inj (there.symm.trans there')
    obtain rfl : onChain = onChain' := Option.some.inj (held.stored.symm.trans held'.stored)
    exact held.same.trans held'.same.symm
  response kept kept' among among' := by
    obtain ⟨_, p, _, there, _, _, _, _, _, answered, _, _, _, stored, same, hashed⟩ :=
      (before.later deployed grows).response kept among
    obtain ⟨_, p', _, there', _, _, _, _, _, answered', _, _, _, stored', same', hashed'⟩ := after.response kept' among'
    obtain rfl : p = p' := Option.some.inj (there.symm.trans there')
    obtain rfl : answered = answered' := Option.some.inj (stored.symm.trans stored')
    rw [← hashed, ← hashed', same, same']

/-- However requests and the escrow's own calls interleave, whatever fails, and wherever the gateway restarts: what is kept of
    a dispute is what the escrow holds, the arbiter accepts each kept response, no document gives way to one with another
    hash, and only exact answers are sent. -/
theorem documents_match (deployed : Deployed w₀) (now : Int) (before after : List (Act host))
    (apart : Apart deps (Brings (before ++ after))) : let s := (run deps w₀ now before).1.shared
    let s' := (run deps w₀ now (before ++ after)).1.shared
    (∀ id order, Keeps s id order → Matches deps (s.world w₀) id order) ∧
    (∀ id order order', Keeps s id order → Keeps s' id order' → SameDocuments deps order order') ∧
    ∀ i c signedXdr, .asked i c (.submitSigned signedXdr) ∈ (run deps w₀ now before).2 → Exact deps c signedXdr := by
  intro s s'
  have begins : Sound deps w₀ (Brings (before ++ after)) (opened now : Store host) := by
    rintro id order (memory | saved)
    · cases memory
    · cases saved
  have started : ∀ c : Request, .start c ∈ before ++ after →
      (rules deps w₀ (Brings (before ++ after))).starts c := by
    rintro c among id body jws rfl parsed
    exact ⟨id, body, among, parsed⟩
  obtain ⟨⟨grows, lasting⟩, sound, asked, _⟩ := later_along (bound deployed) begins before after started
  refine ⟨fun id order keeps => (sound id order keeps).matches_ apart, fun id order order' keeps keeps' => ?_,
    fun i c signedXdr among => ?_⟩
  · exact sameDocuments deployed grows (sound id order keeps) (lasting sound id order' keeps')
  · obtain ⟨_, exactly⟩ := asked i c _ among
    exact exactly

end

/-! ### A dispute, from its claim to the answer -/

def samplePayee : Text := words "GAAAAAAAAAAAAAAAAAAAAAAAAAAAAAAAAAAAAAAAAAAAAAAAAAAAAWHF"
def sampleOrder : OrderId where
  val := words "ord_1"
  property := by
    have ascii : (words "ord_1").all (fun u => u.val < 0x80) = true := by decide
    exact fun u among => of_decide_eq_true (List.all_eq_true.mp ascii u among)

def sampleReceiptHash : Text := List.replicate 64 (unit '1')
def samplePart : Text :=
  words "eyJ0eXBlIjoiQWdlbnRSZXNv" ++ words "bHZlQ2xhaW0iLCJjbGFpbUlk" ++ words "IjoiMTExMTExMTEtMTExMS00" ++
  words "MTExLTgxMTEtMTExMTExMTEx" ++ words "MTExIiwiY2xhaW1hbnQiOiJk" ++ words "aWQ6c3RlbGxhcjp0ZXN0bmV0" ++
  words "OkdBQUFBQUFBQUFBQUFBQUFB" ++ words "QUFBQUFBQUFBQUFBQUFBQUFB" ++ words "QUFBQUFBQUFBQUFBQUFBQUFB" ++
  words "V0hGIiwicmVjZWlwdCI6eyJo" ++ words "YXNoIjoiMTExMTExMTExMTEx" ++ words "MTExMTExMTExMTExMTExMTEx" ++
  words "MTExMTExMTExMTExMTExMTEx" ++ words "MTExMTExMTExMTExMTExMSIs" ++ words "Imp3cyI6InJlY2VpcHQifSwi" ++
  words "cmVhc29uIjoibm90X2RlbGl2" ++ words "ZXJlZCIsImRlc2NyaXB0aW9u" ++ words "IjoiTm90aGluZyBjYW1lIiwi" ++
  words "ZXZpZGVuY2UiOltdLCJhbW91" ++ words "bnRBdG9taWMiOiIzMCIsImNy" ++ words "ZWF0ZWRBdCI6IjIwMjYtMDEt" ++
  words "MDFUMDA6MDA6MDBaIn0"
def sampleClaim : Text :=
  words "\x7b\"type\":\"AgentResolveCla" ++ words "im\",\"claimId\":\"11111111-" ++ words "1111-4111-8111-111111111" ++
  words "111\",\"claimant\":\"did:ste" ++ words "llar:testnet:GAAAAAAAAAA" ++ words "AAAAAAAAAAAAAAAAAAAAAAAA" ++
  words "AAAAAAAAAAAAAAAAAAWHF\",\"" ++ words "receipt\":\x7b\"hash\":\"111111" ++ words "111111111111111111111111" ++
  words "111111111111111111111111" ++ words "1111111111\",\"jws\":\"recei" ++ words "pt\"\x7d,\"reason\":\"not_deliv" ++
  words "ered\",\"description\":\"Not" ++ words "hing came\",\"evidence\":[]" ++ words ",\"amountAtomic\":\"30\",\"cr" ++
  words "eatedAt\":\"2026-01-01T00:" ++ words "00:00Z\"\x7d"
def sampleJws : Text := words "e30." ++ samplePart ++ words ".c2ln"
def sampleClaimHash : BytesN 32 := ⟨[58, 201, 108, 220, 51, 10, 250, 235, 249, 250, 200, 59, 58, 37, 234, 115,
  226, 217, 74, 89, 136, 198, 251, 24, 171, 230, 81, 147, 137, 125, 185, 230], rfl⟩
def sampleResponseHash : BytesN 32 := ⟨[216, 1, 40, 78, 129, 196, 100, 32, 123, 121, 151, 68, 177, 66, 164, 29,
  195, 109, 57, 65, 23, 141, 17, 129, 173, 22, 227, 76, 98, 57, 70, 160], rfl⟩

theorem samplePayee_base32 : samplePayee.all isBase32 = true := by
  rw [samplePayee, words, String.toList_ofList]
  decide

theorem sampleJws_ascii : sampleJws.all (fun u => u.val < 0x80) = true := by
  unfold sampleJws samplePart
  simp only [words, @String.toList_ofList _]
  decide +kernel

/-- One account, one claim, and one transaction, which answers with this hash. -/
def sampleDeps : DisputeDeps where
  isValidEd25519PublicKey key := key = samplePayee
  isValidContract _ := false
  sha256 bytes := if bytes = utf8 sampleJws then sampleClaimHash.1 else sampleResponseHash.1
  verify _ _ _ := false
  base32 key valid := by
    obtain rfl : key = samplePayee := of_decide_eq_true valid
    exact List.all_eq_true.mp samplePayee_base32
  isSigned typ jws := typ = AGENTRESOLVE_CLAIM_TYP && jws = sampleJws
  decodeBase64url part := if part = samplePart then some (utf8 sampleClaim) else none
  bufferOf part := if part = samplePart then utf8 sampleClaim else []
  toText bytes := bytes.map fun b => ⟨b.toNat, by have := b.toNat_lt; omega⟩
  compact typ jws signed := by
    simp only [Bool.and_eq_true, decide_eq_true_eq] at signed
    rw [signed.2]
    exact fun u among => of_decide_eq_true (List.all_eq_true.mp sampleJws_ascii u among)
  bufferOf_eq part bytes decoded := by
    split_ifs at decoded ⊢
    exact Option.some.inj decoded
  toText_ascii bytes text same ascii := by
    subst same
    rw [utf8_ascii ascii, List.map_map]
    refine (List.map_id'' (fun b => ?_) bytes).symm
    simp
  fromXDR _ := some (.transaction samplePayee 100 (words "hash") [⟨none, [], some ⟨some (words "escrow"), words "respond",
    some [.bytes (utf8 sampleOrder.1), .bytes sampleResponseHash.1]⟩⟩])
  escrow := ⟨words "escrow", samplePayee, 20⟩
  stellarAccount := samplePayee
  networkPassphrase := words "Test SDF Network ; September 2015"
  verified := rfl

def sampleResponse : Value := .object [
  (words "type", .string (words "AgentResolveResponse")),
  (words "responseId", .string (words "22222222-2222-4222-8222-222222222222")),
  (words "respondent", .string (payeeDid sampleDeps)),
  (words "receiptHash", .string sampleReceiptHash),
  (words "claimHash", .string (hashText sampleClaimHash)),
  (words "claimId", .string (words "11111111-1111-4111-8111-111111111111")),
  (words "position", .string (words "contest")),
  (words "acceptedAtomic", .null),
  (words "statement", .string (words "It came")),
  (words "evidence", .array []),
  (words "createdAt", .string (words "2026-01-02T00:00:00Z"))]

def sampleBody : Value := .object [(words "claim_jws", .string sampleJws)]

/-- A question is answered without a failure, and the request goes on. -/
def answered (i : Nat) : List (Act sampleHost) := [.perform i ⟨none, true, []⟩, .resume i]

/-- An order is held and disputed, its claim is brought, and its payee answers. -/
def sampleRun : List (Act sampleHost) :=
  ([.outside (.place sampleOrder (some sampleReceiptHash)), .outside (.hold sampleOrder.1 (words "escrow")),
    .outside (.chain (.call (sampleEnv 0)
      (.hold (utf8 sampleOrder.1) (sampleAddress 9) 50 sampleHash sampleHash))),
    .outside (.chain (.call (sampleEnv 1) (.openDispute (utf8 sampleOrder.1) sampleClaimHash none))),
    .start (.claim sampleOrder.1 sampleBody)] : List (Act sampleHost)) ++ answered 0 ++ answered 0 ++
    ([.start (.submit sampleOrder.1 (.object [(words "response", sampleResponse), (words "signed_xdr", .string (words "signed"))]))] :
      List (Act sampleHost)) ++ answered 1 ++
    ([.outside (.chain (.call (sampleEnv 5) (.respond (utf8 sampleOrder.1) sampleResponseHash)))] :
      List (Act sampleHost)) ++ answered 1 ++ answered 1 ++ answered 1

theorem sampleBody_read : claimBodySchema sampleBody = some sampleJws := by
  unfold sampleBody sampleJws samplePart
  simp only [words, @String.toList_ofList _]
  decide +kernel

variable {jws : Text}

theorem sampleBrings (brings : Brings (sampleRun ++ []) jws) : jws = sampleJws := by
  obtain ⟨id, body, among, parsed⟩ := brings
  have only : body = sampleBody := by
    simp only [sampleRun, answered, List.append_nil, List.mem_append, List.mem_cons, List.not_mem_nil, reduceCtorEq, false_or,
      or_false, Routines.Action.start.injEq, Request.claim.injEq] at among
    exact among.2
  exact Option.some.inj (parsed.symm.trans (only ▸ sampleBody_read))

/-- A claim that the escrow holds is kept, and so is an answer to it that passes the check and is sent. -/
theorem run_answered {deps : DisputeDeps} {w₀ : World sampleHost} {order : OrderId}
    {receiptHash signed escrow : Text} {claim answer response : Value} {call : EscrowCall}
    {c₁ c₂ c₃ : PurchaseEscrow.Action sampleHost} {disputed : EscrowPurchase} {onChain hash : BytesN 32}
    {openedAt : ℕ} {date : Int} {actions : List (Act sampleHost)}
    (checked : checkDocument deps ⟨⟨some (receiptOf deps receiptHash), some escrow, some ⟨some jws, none⟩⟩,
      receiptOf deps receiptHash⟩ disputed response = .ok (hashText hash))
    (same : actions = [.outside (.place order (some receiptHash)), .outside (.hold order.1 escrow), .outside (.chain c₁),
      .outside (.chain c₂), .start (.claim order.1 claim)] ++ answered 0 ++ answered 0 ++
      [.start (.submit order.1 answer)] ++ answered 1 ++ [.outside (.chain c₃)] ++ answered 1 ++ answered 1 ++ answered 1)
    (contract : deps.escrow.contract = escrow)
    (before : readPurchase (PurchaseEscrow.run w₀ [c₁, c₂]).1 order.1 = .ok (some disputed))
    (isDisputed : disputed.claimHash = some onChain ∧ disputed.status = .disputed ∧ disputed.openedAt = some openedAt)
    (after : readPurchase (PurchaseEscrow.run w₀ [c₁, c₂, c₃]).1 order.1 =
      .ok (some { disputed with status := .responded, responseHash := some hash }))
    (claims : parseBody claimBodySchema claim = .ok jws) (hashed : jwsDocumentHash deps.toDecoders jws = hashText onChain)
    (answers : parseBody submitBodySchema answer = .ok ⟨response, some signed⟩)
    (called : decodeEscrowCall deps signed = some call) (exactly : isExact deps order.1 (hashText hash) call = true)
    (opens : checkOpen deps 0 disputed = .ok (some date)) (by_ : respondBy deps openedAt = some date) :
    (run deps w₀ 0 actions).1.shared.saved order.1 = some ⟨some (receiptOf deps receiptHash), some escrow,
      some ⟨some jws, some ⟨response, hashText hash, some call.hash⟩⟩⟩ := by
  subst same
  have lifted {α : Type} (a : α) :
      (liftM (Except.ok a : Except Failure α) : Job sampleHost α) = .returns a := rfl
  simp [answered, run, Routines.step, disputes, body, claimRoute, submitRoute, outside, serve, opened, Store.put,
    Disputes.put, Store.world, heldNow, heldOrder, purchaseOf, update, keep, viewNow, view, ask, reply, toISOString,
    OrderRecord.documents, pure, bind, Except.pure, Except.bind, Except.map, Routine.bind, Routine.read, Routine.modify,
    Routine.ask, Routine.ofExcept, Routine.attempt, Routine.advance, lifted, contract, before, isDisputed, after, claims,
    hashed, answers, checked, called, exactly, opens, by_]

/-- What the escrow holds of the order once its dispute is open. -/
def samplePurchase : EscrowPurchase :=
  ⟨utf8 sampleOrder.1, sampleAddress 9, 50, sampleHash, sampleHash, .disputed, 0,
    none, some sampleClaimHash, some 1, none, none, 0, 0, none⟩

theorem ok_of_toOption {ε α : Type} {x : Except ε α} {a : α} (same : x.toOption = some a) : x = .ok a := by
  cases x with
  | error e => cases same
  | ok b => exact congrArg Except.ok (Option.some.inj same)

theorem sample_checked : checkDocument sampleDeps ⟨⟨some (receiptOf sampleDeps sampleReceiptHash), some (words "escrow"),
    some ⟨some sampleJws, none⟩⟩, receiptOf sampleDeps sampleReceiptHash⟩ samplePurchase sampleResponse =
      .ok (hashText sampleResponseHash) := by
  refine ok_of_toOption ?_
  unfold sampleResponse sampleDeps sampleJws samplePart sampleClaim
  simp only [words, @String.toList_ofList _]
  decide +kernel

theorem sample_saved : (run sampleDeps sampleWorld 0 sampleRun).1.shared.saved sampleOrder.1 =
    some ⟨some (receiptOf sampleDeps sampleReceiptHash), some (words "escrow"), some ⟨some sampleJws,
      some ⟨sampleResponse, hashText sampleResponseHash, some (words "hash")⟩⟩⟩ := by
  have contract : sampleDeps.escrow.contract = words "escrow" := by simp only [sampleDeps]
  have claims : parseBody claimBodySchema sampleBody = .ok sampleJws := by rw [parseBody, sampleBody_read]
  have hashed : jwsDocumentHash sampleDeps.toDecoders sampleJws = hashText sampleClaimHash := by
    simp [jwsDocumentHash, sampleDeps, hashText]
  have called : decodeEscrowCall sampleDeps (words "signed") = some ⟨samplePayee, 100, words "hash", words "escrow",
      words "respond", [.bytes (utf8 sampleOrder.1), .bytes sampleResponseHash.1]⟩ := by
    simp [decodeEscrowCall, sampleDeps]
  have exactly : isExact sampleDeps sampleOrder.1 (hashText sampleResponseHash) ⟨samplePayee, 100, words "hash",
      words "escrow", words "respond", [.bytes (utf8 sampleOrder.1), .bytes sampleResponseHash.1]⟩ = true := by
    have text : sampleDeps.toText (utf8 sampleOrder.1) = sampleOrder.1 := by decide
    simp only [isExact, text]
    simp [sampleDeps, hashText, MAX_RESPOND_FEE_STROOPS]
  have opens : checkOpen sampleDeps 0 samplePurchase = .ok (some 21000) := by
    simp [checkOpen, samplePurchase, respondBy, sampleDeps]
  have by_ : respondBy sampleDeps 1 = some 21000 := by simp [respondBy, sampleDeps]
  have same : sampleRun = _ := rfl
  exact run_answered sample_checked same contract (by rfl) ⟨rfl, rfl, rfl⟩ (by rfl) claims hashed (by rfl) called exactly opens by_

theorem documents_match_sample : ∃ order,
    Keeps (run sampleDeps sampleWorld 0 sampleRun).1.shared sampleOrder.1 order ∧
    order.documents.claimJws = some sampleJws ∧ order.documents.response.isSome ∧
    Matches sampleDeps ((run sampleDeps sampleWorld 0 sampleRun).1.shared.world sampleWorld)
      sampleOrder.1 order := by
  have apart : Apart sampleDeps (Brings (sampleRun ++ [])) := fun a b first second _ => by
    rw [sampleBrings first, sampleBrings second]
  obtain ⟨matches_, _⟩ := documents_match PurchaseEscrow.sampleWorld_deployed 0 sampleRun [] apart
  exact ⟨_, .inr sample_saved, rfl, rfl, matches_ sampleOrder.1 _ (.inr sample_saved)⟩

end AgentPey.DisputeDocuments
