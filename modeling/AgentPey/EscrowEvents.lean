import AgentPey.EscrowHistory

/-!
What a change of a purchase in the escrow tells the platform that bought
(`ucp/escrow-events.ts`), from the purchase as it was read (`decodePurchase` of
`vitrinee-anchor/src/escrow.ts`). Reads may skip any steps of the contract: the
events between two states are those of all the states between them.
-/
namespace AgentPey.EscrowEvents
open Soroban Store PurchaseEscrow EscrowLife EscrowCalls EscrowSolvency EscrowHistory

/-! ### What is read -/

inductive EscrowStatus where
  | held
  | shipped
  | released
  | disputed
  | responded
  | resolved
  | expired
  deriving DecidableEq, Repr

/-- What of a purchase that was read its events depend on. -/
structure EscrowPurchase where
  amountAtomic : Int
  status : EscrowStatus
  responseHash : Option (BytesN 32)
  refundAtomic : Int

def statusMap : Status → EscrowStatus
  | .Held => .held
  | .Shipped => .shipped
  | .Released => .released
  | .Disputed => .disputed
  | .Responded => .responded
  | .Resolved => .resolved
  | .Expired => .expired

def asRead (p : Purchase) : EscrowPurchase := ⟨p.amount, statusMap p.status, p.response_hash, p.refund⟩

/-- A purchase that passes `purchaseScSchema`, as far as its fields' own types do not say it. -/
def decodePurchase (p : Purchase) : Option EscrowPurchase :=
  if (1 ≤ p.order_ref.length ∧ p.order_ref.length ≤ 64) ∧ 0 < p.amount ∧ 0 ≤ p.refund ∧ 0 ≤ p.refund_owed ∧
      p.refund ≤ p.amount ∧ p.refund_owed ≤ p.refund then
    some (asRead p)
  else none

inductive OrderWebhookEvent where
  | created
  | shipped
  | disputeOpened
  | disputeResponded
  | disputeResolved
  | escrowReleased
  | escrowRefunded
  deriving DecidableEq, Repr

/-! ### The events of a change -/

def IN_DISPUTE : List EscrowStatus := [.disputed, .responded, .resolved, .expired]

def ANSWERED : List EscrowStatus := [.responded, .resolved, .expired]

def escrowEvents (previous : EscrowStatus) (purchase : EscrowPurchase) : List OrderWebhookEvent :=
  let current := purchase.status
  if current = previous then []
  else
    let answered := current = .responded ∨ (current ∈ ANSWERED ∧ purchase.responseHash ≠ none)
    (if previous ∉ IN_DISPUTE ∧ current ∈ IN_DISPUTE then [OrderWebhookEvent.disputeOpened] else []) ++
      (if answered ∧ previous ∉ ANSWERED then [OrderWebhookEvent.disputeResponded] else []) ++
      -- The verdict splits the payment between the payer and the store.
      (if current = .resolved then
        OrderWebhookEvent.disputeResolved ::
          (if 0 < purchase.refundAtomic then [OrderWebhookEvent.escrowRefunded] else []) ++
          (if purchase.refundAtomic < purchase.amountAtomic then [OrderWebhookEvent.escrowReleased] else [])
      else []) ++
      (if current = .expired then [OrderWebhookEvent.escrowRefunded] else []) ++
      (if current = .released then [OrderWebhookEvent.escrowReleased] else [])

/-! ### Lives -/

variable {host : Host} {id : BytesN 32} {config : Config}

/-- One successful call of the contract, or several of them, later. -/
def Moved (host : Host) (id : BytesN 32) (config : Config) (p p' : Purchase) : Prop := ∃ e, Moves host id config p e p'

def Later (host : Host) (id : BytesN 32) (config : Config) : Purchase → Purchase → Prop :=
  Relation.ReflTransGen (Moved host id config)

def mayPrecede : Status → Status → Bool
  | .Held, _ => true
  | .Shipped, s => s ≠ .Held
  | .Disputed, s => s = .Disputed ∨ s = .Responded ∨ s = .Resolved ∨ s = .Expired
  | .Responded, s => s = .Responded ∨ s = .Resolved ∨ s = .Expired
  | closed, s => s = closed

theorem mayPrecede_refl (s : Status) : mayPrecede s s = true := by
  cases s <;> decide

variable {p p' : Purchase}

variable {e : Entry} {s : Status} {b : Purchase} {rest : List Purchase}

theorem mayPrecede_moves (moves : Moves host id config p e p')
    (earlier : mayPrecede s p.status = true) : mayPrecede s p'.status = true := by
  cases moves with
  | mark_shipped status _ => cases s <;> simp_all [mayPrecede]
  | release status _ => cases s <;> simp_all [mayPrecede, closedAs]
  | openDispute status _ => rcases status with status | ⟨status, _⟩ <;> cases s <;> simp_all [mayPrecede]
  | respond status _ _ => cases s <;> simp_all [mayPrecede]
  | resolve status _ _ _ _ _ => rcases status with status | ⟨status, _⟩ <;> cases s <;> simp_all [mayPrecede, closedAs]
  | expire status _ _ => rcases status with status | status <;> cases s <;> simp_all [mayPrecede, closedAs]
  | claim_refund _ => exact earlier

theorem mayPrecede_later (later : Later host id config p p') : mayPrecede p.status p'.status = true := by
  induction later with
  | refl => exact mayPrecede_refl p.status
  | tail _ moved ih =>
    obtain ⟨e, moves⟩ := moved
    exact mayPrecede_moves moves ih

/-- An answer is stored from `respond` on, and not before. -/
structure Answers (p : Purchase) : Prop where
  before : mayPrecede p.status .Disputed = true → p.response_hash = none
  after : p.status = .Responded → p.response_hash ≠ none

theorem Answers.moves (answers : Answers p) (moves : Moves host id config p e p') : Answers p' := by
  obtain ⟨before, after⟩ := answers
  cases moves with
  | mark_shipped status _ => constructor <;> simp_all [mayPrecede]
  | release status _ => constructor <;> simp_all [mayPrecede, closedAs]
  | openDispute status _ => rcases status with status | ⟨status, _⟩ <;> constructor <;> simp_all [mayPrecede]
  | respond status _ _ => constructor <;> simp_all [mayPrecede]
  | resolve status _ _ _ _ _ => constructor <;> simp [mayPrecede, closedAs]
  | expire status _ _ => constructor <;> simp [mayPrecede, closedAs]
  | claim_refund _ => exact ⟨before, after⟩

theorem answers_of_life {t : List Entry} {p : Purchase} (life : Life host id config t p) : Answers p := by
  induction life with
  | hold _ _ => exact ⟨fun _ => rfl, fun impossible => by cases impossible⟩
  | move _ moves ih => exact ih.moves moves

theorem Answers.later (answers : Answers p) (later : Later host id config p p') : Answers p' := by
  induction later with
  | refl => exact answers
  | tail _ moved ih =>
    obtain ⟨e, moves⟩ := moved
    exact ih.moves moves

/-! ### The law -/

theorem escrowEvents_self (p : Purchase) : escrowEvents (statusMap p.status) (asRead p) = [] := if_pos rfl

theorem escrowEvents_moves {c : Purchase} (answers : Answers b) (moves : Moves host id config b e c)
    (earlier : mayPrecede s b.status = true) :
    escrowEvents (statusMap s) (asRead c) = escrowEvents (statusMap s) (asRead b) ++ escrowEvents (statusMap b.status) (asRead c) := by
  obtain ⟨before, after⟩ := answers
  cases moves with
  | mark_shipped status _ =>
    cases s <;> simp_all [mayPrecede, escrowEvents, asRead, statusMap, IN_DISPUTE, ANSWERED]
  | release status _ =>
    cases s <;> simp_all [mayPrecede, escrowEvents, asRead, statusMap, IN_DISPUTE, ANSWERED, closedAs]
  | openDispute status _ =>
    rcases status with status | ⟨status, _⟩ <;> cases s <;>
      simp_all [mayPrecede, escrowEvents, asRead, statusMap, IN_DISPUTE, ANSWERED]
  | respond status _ _ =>
    cases s <;> simp_all [mayPrecede, escrowEvents, asRead, statusMap, IN_DISPUTE, ANSWERED]
  | resolve status _ _ _ _ _ =>
    rcases status with status | ⟨status, _⟩ <;> cases s <;>
      simp_all [mayPrecede, escrowEvents, asRead, statusMap, IN_DISPUTE, ANSWERED, closedAs]
  | expire status _ _ =>
    rcases status with status | status <;> cases s <;>
      simp_all [mayPrecede, escrowEvents, asRead, statusMap, IN_DISPUTE, ANSWERED, closedAs]
  | claim_refund _ =>
    change _ = escrowEvents (statusMap s) (asRead b) ++ escrowEvents (statusMap b.status) (asRead b)
    rw [escrowEvents_self, List.append_nil]
    rfl

/-- The events between two states of a purchase are those up to any state in between and those from there on. -/
theorem escrowEvents_later {a c : Purchase} (answers : Answers a) (first : Later host id config a b)
    (second : Later host id config b c) : escrowEvents (statusMap a.status) (asRead c) =
      escrowEvents (statusMap a.status) (asRead b) ++ escrowEvents (statusMap b.status) (asRead c) := by
  induction second with
  | refl => rw [escrowEvents_self, List.append_nil]
  | @tail c d second moved ih =>
    obtain ⟨e, moves⟩ := moved
    have atC : Answers c := (answers.later first).later second
    rw [escrowEvents_moves atC moves (mayPrecede_later (first.trans second)), ih, List.append_assoc,
      ← escrowEvents_moves atC moves (mayPrecede_later second)]

def derived : List Purchase → List OrderWebhookEvent
  | p :: q :: rest => escrowEvents (statusMap p.status) (asRead q) ++ derived (q :: rest)
  | _ => []

theorem later_of_chain {p : Purchase} (chain : List.IsChain (Moved host id config) (p :: rest)) :
    Later host id config p ((p :: rest).getLast (List.cons_ne_nil p rest)) := by
  induction rest generalizing p with
  | nil => exact .refl
  | cons q rest ih =>
    obtain ⟨moved, chain⟩ := List.isChain_cons_cons.mp chain
    rw [List.getLast_cons (List.cons_ne_nil q rest)]
    exact .head moved (ih chain)

theorem later_of_getElem {states : List Purchase} (chain : states.IsChain (Moved host id config)) {i j : Nat} (ordered : i ≤ j)
    {a : Purchase} (first : states[i]? = some a) (last : states[j]? = some b) : Later host id config a b := by
  induction j, ordered using Nat.le_induction generalizing b with
  | base =>
    rw [first] at last
    cases last
    exact .refl
  | succ j ordered ih =>
    obtain ⟨inside, rfl⟩ := List.getElem?_eq_some_iff.mp last
    exact (ih (List.getElem?_eq_getElem (by omega))).tail (List.isChain_iff_getElem.mp chain j inside)

/-- Whoever sees only the first and the last of several states derives the same. -/
theorem derived_eq {p : Purchase} (answers : Answers p) (chain : List.IsChain (Moved host id config) (p :: rest)) :
    derived (p :: rest) = escrowEvents (statusMap p.status) (asRead ((p :: rest).getLast (List.cons_ne_nil p rest))) := by
  induction rest generalizing p with
  | nil => exact (escrowEvents_self p).symm
  | cons q rest ih =>
    obtain ⟨moved, chain⟩ := List.isChain_cons_cons.mp chain
    have next : Later host id config p q := .single moved
    rw [derived, ih (answers.later next) chain, List.getLast_cons (List.cons_ne_nil q rest),
      escrowEvents_later answers next (later_of_chain chain)]

/-! ### In the runs of the contract -/

section
variable {w w' : World host} {t : List Entry} {order_ref : Bytes} {p : Purchase}

def Referable (order_ref : Bytes) : Prop := 1 ≤ order_ref.length ∧ order_ref.length ≤ 64

theorem hold_referable {env : Env} {payer : Address} {amount : Int} {tx_hash receipt_hash : BytesN 32}
    (ran : invoke env (.hold order_ref payer amount tx_hash receipt_hash) w = .ok w') : Referable order_ref := by
  simp only [invoke, hold, require_auth, bind_eq_ok, failIf_eq_ok] at ran
  obtain ⟨_, _, _, fits, _⟩ := ran
  rw [not_or, MAX_ORDER_REF_LEN] at fits
  have := List.length_pos_of_ne_nil fits.1
  exact ⟨by omega, by omega⟩

theorem decodePurchase_sound (sound : Sound p) (referable : Referable p.order_ref) : decodePurchase p = some (asRead p) :=
  if_pos ⟨referable, sound.positive, sound.refund_nonneg, sound.owed_nonneg, sound.refund_le, sound.owed_le⟩

theorem step_purchase (recorded : Recorded id config w t) (found : get w order_ref = some p) (action : Action host) :
    ∃ p', get (step w action).1 order_ref = some p' ∧ (p' = p ∨ Moved host id config p p') := by
  cases action with
  | external token =>
    simp only [step]
    split_ifs
    · exact ⟨p, found, .inl rfl⟩
    · exact ⟨p, found, .inl rfl⟩
  | call env call =>
    simp only [step]
    cases ran : invoke env call w with
    | error failure => exact ⟨p, found, .inl rfl⟩
    | ok after =>
      rw [PurchaseEscrow.get] at found
      cases invoke_cases recorded.solvent.stored ran with
      | @hold other payer amount tx_hash receipt_hash _ records =>
        refine ⟨p, ?_, .inl rfl⟩
        change after.purchases.lookup order_ref = some p
        rw [records.purchases, lookup_insert, if_neg, found]
        rintro rfl
        rw [records.free] at found
        cases found
      | @move _ q q' _ here moves updates =>
        have purchases := purchases_of_move moves updates
        by_cases same : order_ref = call.order_ref
        · subst same
          rw [here] at found
          cases found
          refine ⟨q', ?_, .inr ⟨_, recorded.sameId ▸ recorded.sameConfig ▸ moves⟩⟩
          change after.purchases.lookup call.order_ref = some q'
          rw [purchases, lookup_insert, if_pos rfl]
        · refine ⟨p, ?_, .inl rfl⟩
          change after.purchases.lookup order_ref = some p
          rw [purchases, lookup_insert, if_neg same, found]

theorem step_new (recorded : Recorded id config w t) (absent : get w order_ref = none) {action : Action host}
    (found : get (step w action).1 order_ref = some p) : p.status = .Held ∧ p.order_ref = order_ref ∧ Referable order_ref := by
  cases action with
  | external token =>
    simp only [step] at found
    split_ifs at found
    · change get w order_ref = some p at found
      rw [absent] at found
      cases found
    · rw [absent] at found
      cases found
  | call env call =>
    simp only [step] at found
    cases ran : invoke env call w with
    | error failure =>
      rw [ran, absent] at found
      cases found
    | ok after =>
      rw [ran] at found
      change after.purchases.lookup order_ref = some p at found
      rw [PurchaseEscrow.get] at absent
      cases invoke_cases recorded.solvent.stored ran with
      | @hold other payer amount tx_hash receipt_hash _ records =>
        rw [records.purchases, lookup_insert] at found
        split_ifs at found with same
        · subst same
          cases found
          exact ⟨rfl, rfl, hold_referable ran⟩
        · rw [absent] at found
          cases found
      | @move _ q q' _ here moves updates =>
        have purchases := purchases_of_move moves updates
        rw [purchases, lookup_insert] at found
        split_ifs at found with same
        · subst same
          rw [here] at absent
          cases absent
        · rw [absent] at found
          cases found

end

end AgentPey.EscrowEvents
