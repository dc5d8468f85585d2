import AgentPey.EscrowLife

/-!
What the entry points of the purchase escrow do to the world. Each successful
call records a new purchase or makes one move of a stored one (`invoke_cases`);
the allocation changes by exactly what that purchase keeps aside.
-/
namespace AgentPey.EscrowCalls
open Soroban Store Tokens PurchaseEscrow EscrowLife

variable {host : Host}

/-- The call replaces one purchase, moves these transfers and touches nothing else. -/
structure Updates (w : World host) (p p' : Purchase) (sent : List Transfer) (w' : World host) : Prop where
  id : w'.id = w.id
  config : w'.config = w.config
  payments : w'.payments = w.payments
  purchases : w'.purchases = w.purchases.insert p'.order_ref p'
  allocated : w'.allocated = w.allocated - keptAside p + keptAside p'
  moved : w'.moved = w.moved ++ sent
  sends : host.token.Sends w.current_contract_address w.token (sent.map Transfer.payment) w'.token

variable {w w' : World host}

variable {p : Purchase} {refund : Int}

theorem Updates.publish {p' : Purchase} {sent : List Transfer} (updates : Updates w p p' sent w') (event : Event)
    : Updates w p p' sent (publish w' event) :=
  ⟨updates.id, updates.config, updates.payments, updates.purchases, updates.allocated, updates.moved,
    updates.sends⟩

theorem try_transfer_eq_some {leg : Leg} {dst : Address} {amount : Int} : try_transfer w leg dst amount = some w' ↔
      ∃ token, host.token.transfer w.token w.current_contract_address dst amount = some token ∧
        w' = { w with token, moved := w.moved ++ [⟨leg, dst, amount⟩] } := by
  unfold try_transfer
  cases host.token.transfer w.token w.current_contract_address dst amount with
  | none => simp
  | some token => simp [eq_comm]

theorem open_message_eq (w : World host) (order_ref : Bytes) (claim_hash : BytesN 32) :
    open_message w order_ref claim_hash = .ok (openMessage w.id order_ref claim_hash) := rfl

theorem deliver_cases (w : World host) (payer : Address) (nonneg : 0 ≤ refund) :
    ∃ token owed, (owed = 0 ∨ owed = refund) ∧ (if (deliver w payer refund).2 then 0 else refund) = owed ∧
      (deliver w payer refund).1 = { w with token, moved := w.moved ++ leg .refund payer (refund - owed) } ∧
      host.token.Sends w.current_contract_address w.token
        ((leg .refund payer (refund - owed)).map Transfer.payment) token := by
  unfold deliver
  by_cases none : refund = 0
  · subst none
    exact ⟨w.token, 0, .inl rfl, by simp, by simp [leg], by simp [leg]⟩
  · have positive : 0 < refund := by omega
    rw [if_neg none]
    cases sent : try_transfer w .refund payer refund with
    | none => exact ⟨w.token, refund, .inr rfl, by simp, by simp [leg], by simp [leg]⟩
    | some w' =>
      obtain ⟨token, moves, rfl⟩ := try_transfer_eq_some.mp sent
      exact ⟨token, 0, .inl rfl, by simp, by simp [leg, positive], by simp [leg, positive, Transfer.payment, moves]⟩

theorem pay_store_ok {to_store : Int} (ran : pay_store w to_store = .ok w') :
    ∃ token, w' = { w with token, moved := w.moved ++ leg .payout w.config.payee to_store } ∧
      host.token.Sends w.current_contract_address w.token
        ((leg .payout w.config.payee to_store).map Transfer.payment) token := by
  unfold pay_store at ran
  split_ifs at ran with positive
  · obtain ⟨token, moves, rfl⟩ := try_transfer_eq_some.mp (okOr_eq_ok.mp ran)
    exact ⟨token, by simp [leg, positive], by simp [leg, positive, Transfer.payment, moves]⟩
  · cases ran
    exact ⟨w.token, by simp [leg, positive], by simp [leg, positive]⟩

theorem publish_owed_eq (w : World host) (p : Purchase) (owed : Int) :
    ∃ events, publish_owed w p owed = { w with events } := by
  unfold publish_owed
  split_ifs
  · exact ⟨_, rfl⟩
  · exact ⟨w.events, rfl⟩

theorem close_runs {w : World host} (status : Status) (now : UInt64) (nonneg : 0 ≤ refund) (atMost : refund ≤ p.amount)
    (allocated : p.amount ≤ w.allocated) (fits : w.allocated ≤ i128Max) : ∃ token owed, (owed = 0 ∨ owed = refund) ∧
      host.token.Sends w.current_contract_address w.token
        ((leg .refund p.payer (refund - owed)).map Transfer.payment) token ∧
      close w p status refund now =
        (do
          let paid ← pay_store
            { w with
              token
              moved := w.moved ++ leg .refund p.payer (refund - owed)
              allocated := w.allocated - p.amount + owed
              purchases := w.purchases.insert p.order_ref (closedAs p status refund owed now) }
            (p.amount - refund)
          pure (publish_owed paid (closedAs p status refund owed now) owed)) := by
  obtain ⟨token, owed, debt, owedIs, delivered, sends⟩ := deliver_cases w p.payer nonneg
  refine ⟨token, owed, debt, sends, ?_⟩
  have freed : sub (ε := Error) w.allocated p.amount = .ok (w.allocated - p.amount) :=
    sub_eq_ok.mpr ⟨inI128_of_range (by omega) (by omega), rfl⟩
  have kept : add (ε := Error) (w.allocated - p.amount) owed = .ok (w.allocated - p.amount + owed) :=
    add_eq_ok.mpr ⟨inI128_of_range (by omega) (by omega), rfl⟩
  have rest : sub (ε := Error) p.amount refund = .ok (p.amount - refund) :=
    sub_eq_ok.mpr ⟨inI128_of_range (by omega) (by omega), rfl⟩
  simp only [close, owedIs, delivered, closedAs, freed, kept, rest, set_allocated, save, ok_bind]

theorem close_ok {status : Status} {now : UInt64} (opened : isOpen p.status = true) (closes : isOpen status = false)
    (nonneg : 0 ≤ refund) (ran : close w p status refund now = .ok w') : ∃ owed, (owed = 0 ∨ owed = refund) ∧
      Updates w p (closedAs p status refund owed now) (legs w.config p refund owed) w' := by
  unfold close at ran
  simp only [bind_eq_ok, sub_eq_ok, add_eq_ok] at ran
  obtain ⟨token, owed, debt, owedIs, delivered, sendsRefund⟩ := deliver_cases w p.payer nonneg
  rw [owedIs, delivered] at ran
  obtain ⟨_, ⟨_, rfl⟩, _, ⟨_, rfl⟩, _, ⟨_, rfl⟩, paid, ranPay, last⟩ := ran
  obtain ⟨token', rfl, sendsRest⟩ := pay_store_ok ranPay
  obtain ⟨events, published⟩ := publish_owed_eq (_ : World host) _ owed
  rw [published] at last
  cases last
  refine ⟨owed, debt, rfl, rfl, rfl, rfl, ?_, ?_, ?_⟩
  · rw [keptAside_open opened, keptAside_closed closes]
    rfl
  · simp [legs, closedAs, set_allocated, save]
  · simp only [legs, List.map_append]
    exact sends_append.mpr ⟨token, sendsRefund, sendsRest⟩

/-- What `hold` checks and what it changes. -/
structure Records (w : World host) (env : Env) (order_ref : Bytes) (payer : Address) (amount : Int)
    (tx_hash receipt_hash : BytesN 32) (w' : World host) : Prop where
  operator : env.authorised w.config.operator = true
  positive : 0 < amount
  free : w.purchases.lookup order_ref = none
  unpaid : w.payments.lookup tx_hash = none
  available : amount ≤ w.balance - w.allocated
  id : w'.id = w.id
  config : w'.config = w.config
  purchases : w'.purchases =
    w.purchases.insert order_ref (fresh order_ref payer amount tx_hash receipt_hash env.timestamp)
  payments : w'.payments = w.payments.insert tx_hash order_ref
  allocated : w'.allocated = w.allocated + amount
  token : w'.token = w.token
  moved : w'.moved = []

/-- Every stored purchase is stored under its own order and is sound. -/
def Stored (w : World host) : Prop :=
  ∀ order_ref p, w.purchases.lookup order_ref = some p → p.order_ref = order_ref ∧ Sound p

/-- What a successful call is: a new purchase, or one move of a stored one. -/
inductive Effect (w : World host) (env : Env) : Call → World host → Prop
  | hold {order_ref : Bytes} {payer : Address} {amount : Int} {tx_hash receipt_hash : BytesN 32} {w' : World host}
      (records : Records w env order_ref payer amount tx_hash receipt_hash w') :
      Effect w env (.hold order_ref payer amount tx_hash receipt_hash) w'
  | move {call : Call} {p p' : Purchase} {w' : World host} (found : w.purchases.lookup call.order_ref = some p)
      (moves : Moves host w.id w.config p ⟨env, call, w'.moved⟩ p')
      (updates : Updates (start w) p p' w'.moved w') : Effect w env call w'

theorem purchases_of_move {env : Env} {call : Call} {p' : Purchase}
    (moves : Moves host w.id w.config p ⟨env, call, w'.moved⟩ p') (updates : Updates (start w) p p' w'.moved w') :
    w'.purchases = w.purchases.insert call.order_ref p' := by
  obtain ⟨about, sameOrder, _, _⟩ := moves.identity
  rw [updates.purchases, start_purchases, sameOrder]
  exact congrArg (w.purchases.insert · p') about.symm

section
variable {env : Env} {w w' : World host}
variable {order_ref : Bytes}

theorem hold_ok {payer : Address} {amount : Int} {tx_hash receipt_hash : BytesN 32}
    (ran : invoke env (.hold order_ref payer amount tx_hash receipt_hash) w = .ok w') :
    Records w env order_ref payer amount tx_hash receipt_hash w' := by
  simp only [invoke, hold, require_auth, unallocated, bind_eq_ok, failIf_eq_ok, sub_eq_ok, add_eq_ok] at ran
  obtain ⟨_, operator, _, _, _, positive, _, free, _, unpaid, _, ⟨_, rfl⟩, _, available, _, ⟨_, rfl⟩, last⟩ := ran
  cases last
  exact
    { operator := by simpa using operator
      positive := by omega
      free := by simpa using free
      unpaid := by simpa using unpaid
      available := Int.not_lt.mp available
      id := rfl
      config := rfl
      purchases := rfl
      payments := rfl
      allocated := rfl
      token := rfl
      moved := rfl }

variable {p : Purchase} {config : Config} {now : UInt64} {u : PUnit} {claim_hash : BytesN 32} {sig : Option (BytesN 64)}

private theorem updates_save {p' : Purchase} (w : World host) (event : Event)
    (same : keptAside p' = keptAside p) : Updates w p p' [] (publish (save w p') event) := by
  refine ⟨rfl, rfl, rfl, rfl, ?_, ?_, ?_⟩
  · simp [PurchaseEscrow.publish, save, same]
  · simp [PurchaseEscrow.publish, save]
  · simp [PurchaseEscrow.publish, save]

theorem mark_shipped_ok (stored : Stored w) (ran : invoke env (.mark_shipped order_ref) w = .ok w')
    : Effect w env (.mark_shipped order_ref) w' := by
  simp only [invoke, mark_shipped, require_auth, load, bind_eq_ok, failIf_eq_ok, okOr_eq_ok] at ran
  obtain ⟨_, operator, p, found, _, status, last⟩ := ran
  cases last
  obtain ⟨rfl, _⟩ := stored order_ref p found
  have held : p.status = .Held := by simpa using status
  exact .move found (.mark_shipped held (by simpa using operator)) 
    (updates_save _ _ (by rw [keptAside_open rfl, keptAside_open (by rw [held]; rfl)]))

private theorem effect_of_outcome (call : Call) {p' : Purchase} {sent : List Transfer} {mid : World host}
    (found : w.purchases.lookup call.order_ref = some p) (updates : Updates (start w) p p' sent mid)
    (moves : Moves host w.id w.config p ⟨env, call, sent⟩ p') (event : Event) :
    Effect w env call (PurchaseEscrow.publish mid event) := by
  have same : mid.moved = sent := by simpa using updates.moved
  subst same
  exact .move found moves (updates.publish event)

theorem release_ok (stored : Stored w) (ran : invoke env (.release order_ref) w = .ok w') :
    Effect w env (.release order_ref) w' := by
  simp only [invoke, release, load, bind_eq_ok, failIf_eq_ok, okOr_eq_ok] at ran
  obtain ⟨p, found, _, status, _, due, mid, closes, last⟩ := ran
  cases last
  obtain ⟨rfl, _⟩ := stored order_ref p found
  have shipped : p.status = .Shipped := by simpa using status
  obtain ⟨owed, debt, updates⟩ := close_ok (by rw [shipped]; rfl) rfl le_rfl closes
  have nothing : owed = 0 := by omega
  subst nothing
  exact effect_of_outcome (w := w) (.release _) found updates (.release shipped (by simpa using due)) _

theorem may_open_ok (allowed : may_open config p now = .ok u) :
    p.status = .Held ∨ p.status = .Shipped ∧ now < saturating_add p.shipped_at config.release_window := by
  unfold may_open at allowed
  split at allowed
  · exact .inl ‹_›
  · exact .inr ⟨‹_›, by simpa using allowed⟩
  · cases allowed

theorem payer_consents_ok :
    payer_consents env w p p.order_ref claim_hash sig = .ok u ↔ Consented host w.id env p claim_hash sig := by
  unfold payer_consents Consented
  cases payer : p.payer with
  | account key => simp [Address.to_payload, require_auth]
  | contract id =>
    simp only [Address.to_payload, open_message_eq, bind_eq_ok, okOr_eq_ok, failIf_eq_ok]
    constructor
    · rintro ⟨s, sigIs, owner, ownerIs, message, same, verified⟩
      cases same
      exact ⟨owner, s, ownerIs, sigIs, by simpa using verified⟩
    · rintro ⟨owner, s, ownerIs, sigIs, verified⟩
      exact ⟨s, sigIs, owner, ownerIs, _, rfl, by simp [verified]⟩
  | unknown raw => simp [Address.to_payload]

theorem openDispute_ok (stored : Stored w) (ran : invoke env (.openDispute order_ref claim_hash sig) w = .ok w') :
    Effect w env (.openDispute order_ref claim_hash sig) w' := by
  simp only [invoke, openDispute, load, bind_eq_ok, okOr_eq_ok] at ran
  obtain ⟨p, found, _, allowed, _, consent, last⟩ := ran
  cases last
  obtain ⟨rfl, _⟩ := stored order_ref p found
  have early := may_open_ok allowed
  have opened := isOpen_of_early early
  exact .move found (.openDispute early (payer_consents_ok.mp consent))
    (updates_save _ _ (by rw [keptAside_open rfl, keptAside_open opened]))

theorem respond_ok (stored : Stored w) {response_hash : BytesN 32}
    (ran : invoke env (.respond order_ref response_hash) w = .ok w') : Effect w env (.respond order_ref response_hash) w' := by
  simp only [invoke, respond, require_auth, load, bind_eq_ok, failIf_eq_ok, okOr_eq_ok] at ran
  obtain ⟨_, payee, p, found, _, status, _, inTime, last⟩ := ran
  cases last
  obtain ⟨rfl, _⟩ := stored order_ref p found
  have disputed : p.status = .Disputed := by simpa using status
  exact .move found (.respond disputed (by simpa using payee) (by simpa using inTime))
    (updates_save _ _ (by rw [keptAside_open rfl, keptAside_open (by rw [disputed]; rfl)]))

theorem may_resolve_ok (allowed : may_resolve config p now = .ok u) :
    p.status = .Responded ∨ p.status = .Disputed ∧ saturating_add p.opened_at config.response_window < now := by
  unfold may_resolve at allowed
  split at allowed
  · exact .inl ‹_›
  · exact .inr ⟨‹_›, by simpa using allowed⟩
  · cases allowed

theorem resolve_ok (stored : Stored w) {verdict_hash : BytesN 32} {refund : Int}
    (ran : invoke env (.resolve order_ref verdict_hash refund) w = .ok w') :
    Effect w env (.resolve order_ref verdict_hash refund) w' := by
  simp only [invoke, resolve, require_auth, load, bind_eq_ok, failIf_eq_ok, okOr_eq_ok] at ran
  obtain ⟨_, arbiter, p, found, _, allowed, _, inTime, _, nonneg, _, atMost, mid, closes, last⟩ := ran
  cases last
  obtain ⟨rfl, _⟩ := stored order_ref p found
  have ready := may_resolve_ok allowed
  have opened := isOpen_of_ready ready
  have positive : 0 ≤ refund := Int.not_lt.mp nonneg
  obtain ⟨owed, debt, updates⟩ := close_ok (p := { p with verdict_hash := some verdict_hash }) opened rfl positive closes
  exact effect_of_outcome (w := w) (.resolve _ _ _) (p := p) found
    ⟨updates.id, updates.config, updates.payments, updates.purchases, updates.allocated, updates.moved, updates.sends⟩
    (.resolve ready (by simpa using arbiter) (by simpa using inTime) positive (Int.not_lt.mp atMost) debt) _

theorem expire_ok (stored : Stored w) (ran : invoke env (.expire order_ref) w = .ok w') :
    Effect w env (.expire order_ref) w' := by
  simp only [invoke, expire, load, bind_eq_ok, failIf_eq_ok, okOr_eq_ok] at ran
  obtain ⟨p, found, _, status, _, late, mid, closes, last⟩ := ran
  cases last
  obtain ⟨rfl, sound⟩ := stored order_ref p found
  have disputed : p.status = .Disputed ∨ p.status = .Responded := by
    by_cases here : p.status = .Disputed
    · exact .inl here
    · exact .inr (by simpa [here] using status)
  have opened := isOpen_of_disputed disputed
  obtain ⟨owed, debt, updates⟩ := close_ok opened rfl sound.positive.le closes
  exact effect_of_outcome (w := w) (.expire _) found updates (.expire disputed (by simpa using late) debt) _

theorem claim_refund_ok (stored : Stored w) (ran : invoke env (.claim_refund order_ref) w = .ok w')
    : Effect w env (.claim_refund order_ref) w' := by
  simp only [invoke, claim_refund, load, bind_eq_ok, failIf_eq_ok, okOr_eq_ok, sub_eq_ok] at ran
  obtain ⟨p, found, _, owes, mid, sent, _, ⟨_, rfl⟩, last⟩ := ran
  cases last
  obtain ⟨rfl, sound⟩ := stored order_ref p found
  obtain ⟨token, moves, rfl⟩ := try_transfer_eq_some.mp sent
  have owes : 0 < p.refund_owed := Int.not_le.mp owes
  have closed := sound.closed_of_owes owes
  refine .move found (.claim_refund owes) ⟨rfl, rfl, rfl, rfl, ?_, rfl, ?_⟩
  · rw [keptAside_closed closed, keptAside_closed (p := { p with refund_owed := 0 }) closed]
    simp [PurchaseEscrow.publish, save, set_allocated]
  · exact sends_cons.mpr ⟨token, moves, rfl⟩

/-- Every successful call records a new purchase or makes one move of a stored one. -/
theorem invoke_cases (stored : Stored w) {call : Call} (ran : invoke env call w = .ok w') : Effect w env call w' := by
  cases call with
  | hold order_ref payer amount tx_hash receipt_hash => exact .hold (hold_ok ran)
  | mark_shipped order_ref => exact mark_shipped_ok stored ran
  | release order_ref => exact release_ok stored ran
  | openDispute order_ref claim_hash sig => exact openDispute_ok stored ran
  | respond order_ref response_hash => exact respond_ok stored ran
  | resolve order_ref verdict_hash refund => exact resolve_ok stored ran
  | expire order_ref => exact expire_ok stored ran
  | claim_refund order_ref => exact claim_refund_ok stored ran

end

end AgentPey.EscrowCalls
