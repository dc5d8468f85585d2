import AgentPey.EscrowEvents

/-!
What the escrow records of a purchase, over whole runs: what `hold` wrote stays, the status only moves forward, and the
payments and the purchases name each other one to one.
-/
namespace AgentPey.EscrowRecords
open Soroban Store Tokens PurchaseEscrow EscrowLife EscrowCalls EscrowSolvency EscrowHistory EscrowEvents

variable {host : Host}

/-- What `hold` writes once and for all. -/
structure SameTerms (p p' : Purchase) : Prop where
  order_ref : p'.order_ref = p.order_ref
  payer : p'.payer = p.payer
  amount : p'.amount = p.amount
  tx_hash : p'.tx_hash = p.tx_hash
  receipt_hash : p'.receipt_hash = p.receipt_hash

theorem SameTerms.refl (p : Purchase) : SameTerms p p := ⟨rfl, rfl, rfl, rfl, rfl⟩

theorem SameTerms.trans {p q r : Purchase} (first : SameTerms p q) (second : SameTerms q r) : SameTerms p r where
  order_ref := second.order_ref.trans first.order_ref
  payer := second.payer.trans first.payer
  amount := second.amount.trans first.amount
  tx_hash := second.tx_hash.trans first.tx_hash
  receipt_hash := second.receipt_hash.trans first.receipt_hash

/-- The steps of a status. -/
inductive Forward : Status → Status → Prop
  | shipped : Forward .Held .Shipped
  | disputedBeforeShipping : Forward .Held .Disputed
  | released : Forward .Shipped .Released
  | disputed : Forward .Shipped .Disputed
  | responded : Forward .Disputed .Responded
  | resolvedUnanswered : Forward .Disputed .Resolved
  | expiredUnanswered : Forward .Disputed .Expired
  | resolved : Forward .Responded .Resolved
  | expired : Forward .Responded .Expired

def Later : Status → Status → Prop := Relation.ReflTransGen Forward

theorem Later.closed {s s' : Status} (later : Later s s') (outcome : isOpen s = false) : s' = s := by
  induction later with
  | refl => rfl
  | tail _ forward ih =>
    subst ih
    cases forward <;> cases outcome

section
variable {id : BytesN 32} {config : Config} {p p' : Purchase} {e : Entry}

theorem sameTerms_moves (moves : Moves host id config p e p') : SameTerms p p' := by
  cases moves <;> exact ⟨rfl, rfl, rfl, rfl, rfl⟩

theorem forward_moves (moves : Moves host id config p e p') : p'.status = p.status ∨ Forward p.status p'.status := by
  cases moves with
  | mark_shipped status _ => exact .inr (status ▸ .shipped)
  | release status _ => exact .inr (status ▸ .released)
  | openDispute status _ =>
    rcases status with status | ⟨status, _⟩
    · exact .inr (status ▸ .disputedBeforeShipping)
    · exact .inr (status ▸ .disputed)
  | respond status _ _ => exact .inr (status ▸ .responded)
  | resolve status _ _ _ _ _ =>
    rcases status with status | ⟨status, _⟩
    · exact .inr (status ▸ .resolved)
    · exact .inr (status ▸ .resolvedUnanswered)
  | expire status _ _ =>
    rcases status with status | status
    · exact .inr (status ▸ .expiredUnanswered)
    · exact .inr (status ▸ .expired)
  | claim_refund _ => exact .inl rfl

end

/-! ### The two indexes -/

/-- The payments and the purchases name each other. -/
structure Indexed (w : World host) : Prop where
  paid : ∀ {order_ref p}, get w order_ref = some p → p.order_ref = order_ref ∧ w.payments.lookup p.tx_hash = some order_ref
  backed : ∀ {tx_hash order_ref}, w.payments.lookup tx_hash = some order_ref →
    ∃ p, get w order_ref = some p ∧ p.tx_hash = tx_hash

/-- Orders and payments are one to one, and `by_tx` and `get` agree. -/
structure OneToOne (w : World host) : Prop where
  by_tx : ∀ order_ref p, get w order_ref = some p → p.order_ref = order_ref ∧ by_tx w p.tx_hash = some p
  get : ∀ tx_hash p, PurchaseEscrow.by_tx w tx_hash = some p → p.tx_hash = tx_hash ∧ get w p.order_ref = some p
  apart : ∀ order_ref other p q, PurchaseEscrow.get w order_ref = some p → PurchaseEscrow.get w other = some q →
    p.tx_hash = q.tx_hash → order_ref = other

section
variable {w w' : World host} {env : Env} {call : Call}

variable {order_ref other : Bytes} {p : Purchase}

section
variable (indexed : Indexed w)
include indexed

theorem Indexed.by_tx (found : get w order_ref = some p) : PurchaseEscrow.by_tx w p.tx_hash = some p := by
  rw [PurchaseEscrow.by_tx, (indexed.paid found).2, Option.bind_some, found]

theorem Indexed.of_by_tx {tx_hash : BytesN 32}
    (found : PurchaseEscrow.by_tx w tx_hash = some p) : p.tx_hash = tx_hash ∧ get w p.order_ref = some p := by
  obtain ⟨order_ref, named, stored⟩ := Option.bind_eq_some_iff.mp found
  obtain ⟨q, found, same⟩ := indexed.backed named
  rw [stored] at found
  cases found
  exact ⟨same, by rw [(indexed.paid stored).1, stored]⟩

theorem Indexed.apart {q : Purchase} (found : get w order_ref = some p) (foundOther : get w other = some q)
    (same : p.tx_hash = q.tx_hash) : order_ref = other := by
  have one := (indexed.paid found).2
  rw [same, (indexed.paid foundOther).2] at one
  exact (Option.some.inj one).symm

theorem Indexed.oneToOne : OneToOne w where
  by_tx _ _ found := ⟨(indexed.paid found).1, indexed.by_tx found⟩
  get _ _ := indexed.of_by_tx
  apart _ _ _ _ := indexed.apart

theorem indexed_effect (effect : Effect w env call w') : Indexed w' := by
  cases effect with
  | @hold order_ref payer amount tx_hash receipt_hash _ records =>
    constructor
    · intro other p found
      change w'.purchases.lookup other = some p at found
      rw [records.purchases, lookup_insert] at found
      rw [records.payments, lookup_insert]
      split_ifs at found with same
      · subst same
        cases found
        exact ⟨rfl, if_pos rfl⟩
      · obtain ⟨own, named⟩ := indexed.paid found
        refine ⟨own, ?_⟩
        rw [if_neg, named]
        rintro again
        rw [again, records.unpaid] at named
        cases named
    · intro other_tx other named
      rw [records.payments, lookup_insert] at named
      split_ifs at named with same
      · cases named
        refine ⟨fresh order_ref payer amount tx_hash receipt_hash env.timestamp, ?_, same.symm⟩
        show w'.purchases.lookup order_ref = _
        rw [records.purchases, lookup_insert, if_pos rfl]
      · obtain ⟨p, found, own⟩ := indexed.backed named
        refine ⟨p, ?_, own⟩
        show w'.purchases.lookup other = some p
        rw [records.purchases, lookup_insert, if_neg]
        · exact found
        · rintro rfl
          change w.purchases.lookup _ = some p at found
          rw [records.free] at found
          cases found
  | @move _ p p' _ here moves updates =>
    have purchases := purchases_of_move moves updates
    have payments : w'.payments = w.payments := updates.payments
    have terms := sameTerms_moves moves
    constructor
    · intro other q found
      change w'.purchases.lookup other = some q at found
      rw [purchases, lookup_insert] at found
      rw [payments]
      split_ifs at found with same
      · subst same
        cases found
        rw [terms.order_ref, terms.tx_hash]
        exact indexed.paid here
      · exact indexed.paid found
    · intro tx_hash other named
      rw [payments] at named
      obtain ⟨q, found, own⟩ := indexed.backed named
      by_cases same : other = call.order_ref
      · subst same
        change w.purchases.lookup call.order_ref = some q at found
        rw [here] at found
        cases found
        refine ⟨p', ?_, terms.tx_hash.trans own⟩
        show w'.purchases.lookup call.order_ref = _
        rw [purchases, lookup_insert, if_pos rfl]
      · refine ⟨q, ?_, own⟩
        show w'.purchases.lookup other = some q
        rw [purchases, lookup_insert, if_neg same]
        exact found

end

theorem effect_other (effect : Effect w env call w') (apart : other ≠ call.order_ref) : get w' other = get w other := by
  show w'.purchases.lookup other = w.purchases.lookup other
  cases effect with
  | hold records =>
    rw [records.purchases, lookup_insert]
    exact if_neg apart
  | move _ moves updates => rw [purchases_of_move moves updates, lookup_insert, if_neg apart]

end

/-! ### Runs -/

section
variable {id : BytesN 32} {config : Config} {w : World host} {t : List Entry}

section
variable (recorded : Recorded id config w t)
include recorded

theorem indexed_step (indexed : Indexed w) (action : Action host) : Indexed (step w action).1 := by
  cases action with
  | call env call =>
    simp only [step]
    cases ran : invoke env call w with
    | ok after => exact indexed_effect indexed (invoke_cases recorded.solvent.stored ran)
    | error failure => exact indexed
  | external token =>
    simp only [step]
    split_ifs
    · exact ⟨indexed.paid, indexed.backed⟩
    · exact indexed

theorem step_other (env : Env) {call : Call} {other : Bytes}
    (apart : other ≠ call.order_ref) : get (step w (.call env call)).1 other = get w other := by
  simp only [step]
  cases ran : invoke env call w with
  | ok after => exact effect_other (invoke_cases recorded.solvent.stored ran) apart
  | error failure => rfl

theorem step_terms {order_ref : Bytes} {p : Purchase} (found : get w order_ref = some p)
    (action : Action host) : ∃ p', get (step w action).1 order_ref = some p' ∧ SameTerms p p' ∧
      (p'.status = p.status ∨ Forward p.status p'.status) := by
  obtain ⟨p', stored, rfl | ⟨e, moves⟩⟩ := step_purchase recorded found action
  · exact ⟨p', stored, .refl p', .inl rfl⟩
  · exact ⟨p', stored, sameTerms_moves moves, forward_moves moves⟩

end

end

variable {w₀ : World host}

theorem run_indexed (deployed : Deployed w₀) (actions : List (Action host)) : Indexed (run w₀ actions).1 := by
  have empty : Indexed w₀ := by
    obtain ⟨_, _, _, _, _, _, _, _, _, ran⟩ := deployed
    simp only [construct, bind_eq_ok, failIf_eq_ok] at ran
    obtain ⟨_, _, last⟩ := ran
    cases last
    constructor
    · rintro order_ref p ⟨⟩
    · rintro tx_hash order_ref ⟨⟩
  exact (Traces.exec_trace_invariant (I := fun w t => Recorded w₀.id w₀.config w t ∧ Indexed w)
    (fun _ _ action kept => ⟨recorded_step kept.1 action, indexed_step kept.1 kept.2 action⟩)
    ⟨run_recorded deployed [], empty⟩ actions).2

theorem run_terms (deployed : Deployed w₀) (before : List (Action host)) {order_ref : Bytes} {p : Purchase}
    (found : get (run w₀ before).1 order_ref = some p) (more : List (Action host)) :
    ∃ p', get (run w₀ (before ++ more)).1 order_ref = some p' ∧ SameTerms p p' ∧ Later p.status p'.status := by
  induction more using List.reverseRec with
  | nil => exact ⟨p, by rwa [List.append_nil], .refl p, .refl⟩
  | append_singleton more action ih =>
    obtain ⟨q, stored, terms, later⟩ := ih
    have one : (run w₀ (before ++ (more ++ [action]))).1 = (step (run w₀ (before ++ more)).1 action).1 := by
      rw [← List.append_assoc, run, Traces.exec_append]
      rfl
    obtain ⟨p', kept, same, forward⟩ := step_terms (run_recorded deployed (before ++ more)) stored action
    refine ⟨p', one ▸ kept, terms.trans same, ?_⟩
    rcases forward with unmoved | forward
    · exact unmoved ▸ later
    · exact later.tail forward

/-- In every state of a run the orders and the payments are one to one. Whatever happens next, a purchase keeps its terms
    and its status makes a step forward if any, and a call about one order leaves the others as they are; so at the end of
    any longer run it still has its terms, and its status has come forward by such steps, none of them out of an
    outcome. -/
theorem record_integrity (deployed : Deployed w₀) (before : List (Action host)) : OneToOne (run w₀ before).1 ∧
      (∀ order_ref p, get (run w₀ before).1 order_ref = some p →
        (∀ action, ∃ p', get (step (run w₀ before).1 action).1 order_ref = some p' ∧ SameTerms p p' ∧
          (p'.status = p.status ∨ Forward p.status p'.status)) ∧
        ∀ more, ∃ p', get (run w₀ (before ++ more)).1 order_ref = some p' ∧ SameTerms p p' ∧ Later p.status p'.status ∧
          (isOpen p.status = false → p'.status = p.status)) ∧
      ∀ env call other, other ≠ call.order_ref →
        get (step (run w₀ before).1 (.call env call)).1 other = get (run w₀ before).1 other := by
  have recorded := run_recorded deployed before
  refine ⟨(run_indexed deployed before).oneToOne, fun order_ref p found => ⟨step_terms recorded found, fun more => ?_⟩,
    fun env call other apart => step_other recorded env apart⟩
  obtain ⟨p', stored, terms, later⟩ := run_terms deployed before found more
  exact ⟨p', stored, terms, later, later.closed⟩

/-- A purchase that is held, shipped and released, and an order that claims its payment too. -/
theorem record_integrity_sample :
    let again := sampleRelease ++ [.call (sampleEnv 12) (.hold [2] (sampleAddress 9) 40 sampleHash sampleHash)]
    (get (run sampleWorld again).1 [1]).map (·.status) = some .Released ∧ get (run sampleWorld again).1 [2] = none ∧
      OneToOne (run sampleWorld again).1 :=
  ⟨by decide +kernel, by decide +kernel, (record_integrity sampleWorld_deployed _).1⟩

end AgentPey.EscrowRecords
