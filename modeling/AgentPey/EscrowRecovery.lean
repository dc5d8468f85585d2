import AgentPey.EscrowDeadlines
import AgentPey.EscrowPayments

/-!
No dispute is stuck and no debt is lost. After its last deadline anybody can
expire a dispute, whatever the parties do and whoever can receive the token; the
refund is then delivered or owed. A debt stays in the books, covered by the
contract's tokens, until its payer has received it.
-/
namespace AgentPey.EscrowRecovery
open Soroban Store Tokens PurchaseEscrow EscrowLife EscrowCalls EscrowSolvency EscrowHistory EscrowPayments
open EscrowDeadlines

variable {host : Host}

section
variable {w w' : World host} {env : Env} {call : Call} {order_ref : Bytes} {p : Purchase}

theorem effect_found (effect : Effect w env call w') (found : get w call.order_ref = some p) :
    ∃ p', Moves host w.id w.config p ⟨env, call, w'.moved⟩ p' ∧ get w' call.order_ref = some p' := by
  cases effect with
  | @hold order_ref payer amount tx_hash receipt_hash w' records =>
    have found : w.purchases.lookup order_ref = some p := found
    rw [records.free] at found
    cases found
  | @move call q p' w' stored moves updates =>
    rw [show w.purchases.lookup _ = some p from found] at stored
    cases stored
    obtain ⟨about, sameOrder, _, _⟩ := moves.identity
    refine ⟨p', moves, ?_⟩
    have key : call.order_ref = p'.order_ref := about.trans sameOrder.symm
    rw [PurchaseEscrow.get, updates.purchases, key, AList.lookup_insert]

theorem effect_other (stored : Stored w) (effect : Effect w env call w') (other : order_ref ≠ call.order_ref) :
    get w' order_ref = get w order_ref := by
  cases effect with
  | @hold held payer amount tx_hash receipt_hash w' records =>
    have other : order_ref ≠ held := other
    rw [PurchaseEscrow.get, records.purchases, AList.lookup_insert_ne other]
    rfl
  | @move call q p' w' found moves updates =>
    obtain ⟨key, _⟩ := stored _ q found
    obtain ⟨_, sameOrder, _, _⟩ := moves.identity
    rw [PurchaseEscrow.get, updates.purchases, sameOrder, key, AList.lookup_insert_ne other]
    rfl

theorem moves_expire {id : BytesN 32} {config : Config} {p' : Purchase} {sent : List Transfer}
    (moves : Moves host id config p ⟨env, .expire order_ref, sent⟩ p') :
    ∃ owed, (owed = 0 ∨ owed = p.amount) ∧ p' = closedAs p .Expired p.amount owed env.timestamp ∧
      sent = legs config p p.amount owed := by
  cases moves with
  | expire _ _ debt => exact ⟨_, debt, rfl, rfl⟩

/-- After the resolve deadline an open dispute closes with its whole refund, delivered or owed. -/
theorem expire_recovers (solvent : Solvent w) (found : get w order_ref = some p)
    (disputed : p.status = .Disputed ∨ p.status = .Responded) (late : resolve_deadline w.config p < env.timestamp) :
    ∃ w' owed, invoke env (.expire order_ref) w = .ok w' ∧
      get w' order_ref = some (closedAs p .Expired p.amount owed env.timestamp) ∧
      (owed = 0 ∧ w'.moved = [⟨.refund, p.payer, p.amount⟩] ∨ owed = p.amount ∧ w'.moved = []) := by
  have opened := isOpen_of_disputed disputed
  have sound := (solvent.stored _ p found).2
  have allocated := solvent.keptAside_le found
  rw [keptAside_open opened] at allocated
  -- the whole amount is the payer's, so no transfer to the store can fail
  have closes : ∃ w', close (start w) p .Expired p.amount env.timestamp = .ok w' :=
    close_succeeds sound.positive.le le_rfl allocated solvent.allocated_le fun part => absurd part (lt_irrefl _)
  obtain ⟨w', ran⟩ := expire_succeeds.mpr ⟨p, found, disputed, late, closes⟩
  obtain ⟨p', moves, stored⟩ := effect_found (invoke_cases solvent.stored ran) found
  obtain ⟨owed, debt, rfl, sent⟩ := moves_expire moves
  refine ⟨w', owed, ran, stored, ?_⟩
  have positive := sound.positive
  rcases debt with rfl | rfl
  · exact .inl ⟨rfl, by rw [sent]; simp [legs, leg, positive]⟩
  · exact .inr ⟨rfl, by rw [sent]; simp [legs, leg]⟩

/-- A debt is delivered as soon as its payer can receive it, and to nobody else. -/
theorem claim_refund_recovers (solvent : Solvent w) (found : get w order_ref = some p) (owes : 0 < p.refund_owed)
    (receives : host.token.Deliverable w.token w.current_contract_address p.payer p.refund_owed) :
    ∃ w', invoke env (.claim_refund order_ref) w = .ok w' ∧ w'.moved = [⟨.refund, p.payer, p.refund_owed⟩] ∧
      get w' order_ref = some { p with refund_owed := 0 } := by
  have sound := (solvent.stored _ p found).2
  have covered := (solvent.owed_le found).trans solvent.allocated_le
  have delivered := host.token.transfer_delivers owes.le covered receives.1 receives.2
  have succeeds : Succeeds w env (.claim_refund order_ref) :=
    (claim_refund_succeeds solvent).mpr ⟨p, found, owes, delivered⟩
  obtain ⟨w', ran⟩ := succeeds
  obtain ⟨p', moves, stored⟩ := effect_found (invoke_cases solvent.stored ran) found
  have closed := sound.closed_of_owes owes
  rcases moves.opened with opened | ⟨_, rfl, sent⟩
  · rw [closed] at opened
    cases opened
  · exact ⟨w', ran, sent, stored⟩

/-- A debt and its later fate: still owed in full, or delivered to its payer. -/
structure Traceable (order_ref : Bytes) (payer : Address) (debt : Int) (w : World host) (t : List Entry) : Prop where
  solvent : Solvent w
  purchase : ∃ p, get w order_ref = some p ∧ p.payer = payer ∧ isOpen p.status = false ∧
    (p.refund_owed = debt ∨ p.refund_owed = 0 ∧ ⟨.refund, payer, debt⟩ ∈ transfers (onAccount order_ref t))

variable {payer : Address} {debt : Int} {t : List Entry}

theorem traceable_effect (traceable : Traceable order_ref payer debt w t) (effect : Effect w env call w') :
    Traceable order_ref payer debt w' (t ++ [⟨env, call, w'.moved⟩]) := by
  obtain ⟨solvent, q, found, samePayer, closed, fate⟩ := traceable
  refine ⟨solvent_effect solvent effect, ?_⟩
  by_cases about : call.order_ref = order_ref
  · subst about
    obtain ⟨q', moves, stored⟩ := effect_found effect found
    rcases moves.opened with opened | ⟨owes, rfl, sent⟩
    · rw [closed] at opened
      cases opened
    refine ⟨_, stored, samePayer, closed, .inr ⟨rfl, ?_⟩⟩
    have same : q.refund_owed = debt := by
      rcases fate with same | ⟨none, _⟩
      · exact same
      · omega
    have sent : w'.moved = [⟨.refund, payer, debt⟩] := by rw [← samePayer, ← same]; exact sent
    rw [onAccount_append, onAccount_self rfl, transfers_snoc]
    exact List.mem_append_right _ (by rw [sent]; exact List.mem_singleton_self _)
  · refine ⟨q, (effect_other solvent.stored effect (Ne.symm about)).trans found, samePayer, closed, ?_⟩
    rw [onAccount_append, onAccount_other about, List.append_nil]
    exact fate

theorem traceable_step (traceable : Traceable order_ref payer debt w t)
    (action : Action host) : Traceable order_ref payer debt (step w action).1 (t ++ (step w action).2) := by
  have solvent := solvent_step traceable.solvent action
  cases action with
  | call env call =>
    simp only [step] at solvent ⊢
    cases ran : invoke env call w with
    | ok after => exact traceable_effect traceable (invoke_cases traceable.solvent.stored ran)
    | error failure => simpa using traceable
  | external token =>
    simp only [step] at solvent ⊢
    split_ifs at solvent ⊢ with kept
    · rw [List.append_nil]
      exact ⟨solvent, traceable.purchase⟩
    · simpa using traceable

/-- Whatever happens later, a debt is still owed or has reached its payer. -/
theorem debt_stays (solvent : Solvent w) (found : get w order_ref = some p) (owes : 0 < p.refund_owed)
    (later : List (Action host)) : ∃ p', get (run w later).1 order_ref = some p' ∧ p'.payer = p.payer ∧
      (p'.refund_owed = p.refund_owed ∨
        p'.refund_owed = 0 ∧ ⟨.refund, p.payer, p.refund_owed⟩ ∈ transfers (onAccount order_ref (run w later).2)) := by
  have begin : Traceable order_ref p.payer p.refund_owed w [] :=
    ⟨solvent, p, found, rfl, (solvent.stored _ p found).2.closed_of_owes owes, .inl rfl⟩
  have ending : Traceable order_ref p.payer p.refund_owed (run w later).1 (run w later).2 :=
    Traces.exec_trace_invariant (I := Traceable order_ref p.payer p.refund_owed)
      (fun _ _ action traceable => traceable_step traceable action) begin later
  obtain ⟨_, p', stored, samePayer, _, fate⟩ := ending
  exact ⟨p', stored, samePayer, fate⟩

end

/-- No dispute is stuck: whatever has happened, after the resolve deadline anybody
    closes it in full, and what is owed is covered, kept and delivered to its payer
    as soon as that payer can receive it. -/
theorem run_recovers {w₀ : World host} (deployed : Deployed w₀) (actions : List (Action host)) {order_ref : Bytes}
    {p : Purchase} (found : get (run w₀ actions).1 order_ref = some p) : let w := (run w₀ actions).1
    (p.status = .Disputed ∨ p.status = .Responded → ∀ env : Env,
      p.opened_at.toNat + w₀.config.response_window.toNat + w₀.config.resolve_window.toNat < env.timestamp.toNat →
      ∃ w' owed, invoke env (.expire order_ref) w = .ok w' ∧
        get w' order_ref = some (closedAs p .Expired p.amount owed env.timestamp) ∧
        (owed = 0 ∧ w'.moved = [⟨.refund, p.payer, p.amount⟩] ∨ owed = p.amount ∧ w'.moved = [])) ∧
    p.refund_owed ≤ w.balance ∧
    (0 < p.refund_owed →
      (∀ env, host.token.Deliverable w.token w.current_contract_address p.payer p.refund_owed →
        ∃ w', invoke env (.claim_refund order_ref) w = .ok w' ∧ w'.moved = [⟨.refund, p.payer, p.refund_owed⟩] ∧
          get w' order_ref = some { p with refund_owed := 0 }) ∧
      ∀ later, ∃ p', get (run w later).1 order_ref = some p' ∧ p'.payer = p.payer ∧
        (p'.refund_owed = p.refund_owed ∨ p'.refund_owed = 0 ∧
          ⟨.refund, p.payer, p.refund_owed⟩ ∈ transfers (onAccount order_ref (run w later).2))) := by
  intro w
  have recorded : Recorded w₀.id w₀.config w (run w₀ actions).2 := run_recorded deployed actions
  have solvent := recorded.solvent
  refine ⟨fun disputed env late => expire_recovers solvent found disputed ?_,
    (solvent.owed_le found).trans solvent.allocated_le, fun owes =>
    ⟨fun env receives => claim_refund_recovers solvent found owes receives, debt_stays solvent found owes⟩⟩
  have deadline : (resolve_deadline w.config p).toNat ≤
      p.opened_at.toNat + w₀.config.response_window.toNat + w₀.config.resolve_window.toNat := by
    rw [resolve_deadline, toNat_saturating_add, toNat_saturating_add, recorded.sameConfig]
    omega
  rw [UInt64.lt_iff_toNat_lt]
  omega

/-- The sample dispute expires when its arbiter stays silent; judged, its debt is
    collected once the payer can receive. -/
theorem run_recovers_sample :
    (∃ w', ∃ owed : Int, invoke (sampleEnv 52) (.expire [2]) (run sampleWorld (sampleDispute.take 2)).1 = .ok w' ∧
      (owed = 0 ∧ w'.moved = [⟨.refund, sampleAddress 9, 50⟩] ∨ owed = 50 ∧ w'.moved = [])) ∧
    ∃ w', invoke (sampleEnv 24) (.claim_refund [2]) (run sampleWorld (sampleDispute.take 5)).1 = .ok w' ∧
      w'.moved = [⟨.refund, sampleAddress 9, 20⟩] := by
  constructor
  · obtain ⟨expires, _⟩ := run_recovers sampleWorld_deployed (sampleDispute.take 2)
      (show get _ [2] = some _ from rfl)
    obtain ⟨w', owed, ran, _, fate⟩ := expires (.inl rfl) (sampleEnv 52) (by decide)
    exact ⟨w', owed, ran, fate⟩
  · obtain ⟨_, _, debt⟩ := run_recovers sampleWorld_deployed (sampleDispute.take 5)
      (show get _ [2] = some _ from rfl)
    obtain ⟨w', ran, sent, _⟩ := (debt (by decide)).1 (sampleEnv 24) ⟨rfl, .inr (by decide)⟩
    exact ⟨w', ran, sent⟩

end AgentPey.EscrowRecovery
