import AgentPey.EscrowSolvency

/-!
The history of one purchase. A run's trace holds its successful calls; the ones
for one order are the `Life` of the purchase stored under it, from `hold` on,
and an order nobody holds has none. What is kept by `hold` and by every move
then holds of every purchase of every run.
-/
namespace AgentPey.EscrowHistory
open Soroban Store Tokens PurchaseEscrow EscrowLife EscrowCalls EscrowSolvency

variable {host : Host}

def onAccount (order_ref : Bytes) (t : List Entry) : List Entry :=
  t.filter (fun e => decide (e.call.order_ref = order_ref))

theorem onAccount_append (order_ref : Bytes) (t t' : List Entry) :
    onAccount order_ref (t ++ t') = onAccount order_ref t ++ onAccount order_ref t' := List.filter_append ..

section
variable {env : Env} {call : Call} {sent : List Transfer} {order_ref : Bytes}

theorem onAccount_self (about : call.order_ref = order_ref) :
    onAccount order_ref [⟨env, call, sent⟩] = [⟨env, call, sent⟩] := by
  simp [onAccount, about]

theorem onAccount_other (about : call.order_ref ≠ order_ref) : onAccount order_ref [⟨env, call, sent⟩] = [] := by
  simp [onAccount, about]

end

/-- The calls that made a purchase what it is, the oldest first. -/
inductive Life (host : Host) (id : BytesN 32) (config : Config) : List Entry → Purchase → Prop
  | hold {env : Env} {order_ref : Bytes} {payer : Address} {amount : Int} {tx_hash receipt_hash : BytesN 32}
      (operator : env.authorised config.operator = true) (positive : 0 < amount) :
      Life host id config [⟨env, .hold order_ref payer amount tx_hash receipt_hash, []⟩]
        (fresh order_ref payer amount tx_hash receipt_hash env.timestamp)
  | move {t : List Entry} {p p' : Purchase} {e : Entry} (life : Life host id config t p)
      (moves : Moves host id config p e p') : Life host id config (t ++ [e]) p'

theorem Life.sound {id : BytesN 32} {config : Config} {t : List Entry} {p : Purchase}
    (life : Life host id config t p) : Sound p := by
  induction life with
  | hold _ positive => exact sound_fresh positive
  | move _ moves ih => exact moves.sound ih

/-- What a reachable state and the trace behind it agree on. -/
structure Recorded (id : BytesN 32) (config : Config) (w : World host) (t : List Entry) : Prop where
  solvent : Solvent w
  sameId : w.id = id
  sameConfig : w.config = config
  life : ∀ order_ref p, w.purchases.lookup order_ref = some p → Life host id config (onAccount order_ref t) p
  absent : ∀ order_ref, w.purchases.lookup order_ref = none → onAccount order_ref t = []

section
variable {id : BytesN 32} {config : Config} {w w' : World host} {t : List Entry} {env : Env} {call : Call}

theorem recorded_effect (recorded : Recorded id config w t) (effect : Effect w env call w') :
    Recorded id config w' (t ++ [⟨env, call, w'.moved⟩]) := by
  have solvent := solvent_effect recorded.solvent effect
  cases effect with
  | @hold order_ref payer amount tx_hash receipt_hash w' records =>
    have operator : env.authorised config.operator = true := by
      rw [← recorded.sameConfig]
      exact records.operator
    have about : (Call.hold order_ref payer amount tx_hash receipt_hash).order_ref = order_ref := rfl
    refine ⟨solvent, records.id.trans recorded.sameId, records.config.trans recorded.sameConfig, ?_, ?_⟩
    · intro other p found
      rw [records.purchases, lookup_insert] at found
      rw [onAccount_append]
      split_ifs at found with same
      · subst same
        cases found
        rw [recorded.absent _ records.free, onAccount_self about, records.moved]
        exact .hold operator records.positive
      · rw [onAccount_other (Ne.symm same), List.append_nil]
        exact recorded.life other p found
    · intro other absent
      rw [records.purchases, lookup_insert] at absent
      split_ifs at absent with same
      rw [onAccount_append, recorded.absent other absent, onAccount_other (Ne.symm same), List.append_nil]
  | @move call p p' w' found moves updates =>
    have purchases := purchases_of_move moves updates
    have moves : Moves host id config p ⟨env, call, w'.moved⟩ p' := by
      rw [← recorded.sameId, ← recorded.sameConfig]
      exact moves
    refine ⟨solvent, updates.id.trans recorded.sameId, updates.config.trans recorded.sameConfig, ?_, ?_⟩
    · intro other q stored
      rw [purchases, lookup_insert] at stored
      rw [onAccount_append]
      split_ifs at stored with same
      · subst same
        cases stored
        rw [onAccount_self rfl]
        exact .move (recorded.life _ p found) moves
      · rw [onAccount_other (Ne.symm same), List.append_nil]
        exact recorded.life other q stored
    · intro other absent
      rw [purchases, lookup_insert] at absent
      split_ifs at absent with same
      rw [onAccount_append, recorded.absent other absent, onAccount_other (Ne.symm same), List.append_nil]

theorem recorded_step (recorded : Recorded id config w t) (action : Action host) :
    Recorded id config (step w action).1 (t ++ (step w action).2) := by
  cases action with
  | call env call =>
    simp only [step]
    cases ran : invoke env call w with
    | ok after => exact recorded_effect recorded (invoke_cases recorded.solvent.stored ran)
    | error failure => simpa using recorded
  | external token =>
    have solvent := solvent_step recorded.solvent (.external token)
    simp only [step] at solvent ⊢
    split_ifs at solvent ⊢ with kept
    · rw [List.append_nil]
      exact ⟨solvent, recorded.sameId, recorded.sameConfig, recorded.life, recorded.absent⟩
    · simpa using recorded

end

theorem run_recorded {w₀ : World host} (deployed : Deployed w₀) (actions : List (Action host)) :
    Recorded w₀.id w₀.config (run w₀ actions).1 (run w₀ actions).2 := by
  have begin : Recorded w₀.id w₀.config w₀ [] := by
    refine ⟨deployed_solvent deployed, rfl, rfl, fun order_ref p found => ?_, fun _ _ => rfl⟩
    rw [(deployed_ok deployed).2.1] at found
    cases found
  exact Traces.exec_trace_invariant (I := Recorded w₀.id w₀.config)
    (fun _ _ action recorded => recorded_step recorded action) begin actions

end AgentPey.EscrowHistory
