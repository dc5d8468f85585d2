import AgentPey.EscrowCalls

/-!
Solvency of the purchase escrow: what it keeps aside for its purchases is what
it has allocated, and its tokens cover it, in every state of every run. One call
preserves it because a move pays out exactly what its purchase no longer keeps
aside (`Moves.paid`).
-/
namespace AgentPey.EscrowSolvency
open Soroban Store Tokens PurchaseEscrow EscrowLife EscrowCalls

variable {host : Host}

variable {kind : Leg} {dst : Address} {n : Int}

theorem leg_sum (nonneg : 0 ≤ n) : ((leg kind dst n).map Transfer.amount).sum = n := by
  unfold leg
  split_ifs with positive
  · simp
  · have none : n = 0 := by omega
    simp [none]

theorem legs_sum {config : Config} {p : Purchase} {refund owed : Int} (owedLe : owed ≤ refund)
    (atMost : refund ≤ p.amount) : ((legs config p refund owed).map Transfer.amount).sum = p.amount - owed := by
  unfold legs
  rw [List.map_append, List.sum_append, leg_sum (by omega), leg_sum (by omega)]
  omega

theorem leg_positive : ∀ t ∈ leg kind dst n, 0 < t.amount := by
  unfold leg
  intro t member
  split_ifs at member with positive
  · rw [List.mem_singleton.mp member]
    exact positive
  · simp at member

section
variable {id : BytesN 32} {config : Config} {p p' : Purchase} {e : Entry}

theorem Moves.positive (moves : Moves host id config p e p') : ∀ t ∈ e.moved, 0 < t.amount := by
  have outcome : ∀ refund owed, ∀ t ∈ legs config p refund owed, 0 < t.amount := by
    intro refund owed t member
    rcases List.mem_append.mp member with member | member
    · exact leg_positive t member
    · exact leg_positive t member
  cases moves with
  | release => exact outcome 0 0
  | resolve => exact outcome _ _
  | expire => exact outcome _ _
  | claim_refund owes =>
    intro t member
    rw [List.mem_singleton.mp member]
    exact owes
  | _ => simp

theorem Moves.paid (moves : Moves host id config p e p') (sound : Sound p) :
    (e.moved.map Transfer.amount).sum = keptAside p - keptAside p' := by
  have positive := sound.positive
  cases moves with
  | mark_shipped status _ =>
    rw [keptAside_open (by rw [status]; rfl), keptAside_open rfl]
    simp
  | release status _ =>
    rw [keptAside_open (by rw [status]; rfl), keptAside_closed rfl]
    exact legs_sum le_rfl positive.le
  | openDispute status _ =>
    have opened := isOpen_of_early status
    rw [keptAside_open opened, keptAside_open rfl]
    simp
  | respond status _ _ =>
    rw [keptAside_open (by rw [status]; rfl), keptAside_open rfl]
    simp
  | @resolve _ _ refund owed status _ _ nonneg atMost debt =>
    have opened := isOpen_of_ready status
    rw [keptAside_open opened, keptAside_closed rfl]
    exact legs_sum (by omega) atMost
  | expire status _ debt =>
    have opened := isOpen_of_disputed status
    rw [keptAside_open opened, keptAside_closed rfl]
    exact legs_sum (by omega) le_rfl
  | claim_refund owes =>
    have closed := sound.closed_of_owes owes
    rw [keptAside_closed closed, keptAside_closed (p := { p with refund_owed := 0 }) closed]
    simp

end

/-- The invariant of the escrow: its purchases are sound, what is allocated is what
    they keep aside, and the tokens cover it. -/
structure Solvent (w : World host) : Prop where
  stored : Stored w
  allocated : w.allocated = total keptAside w.purchases
  covered : Covered keptAside w.purchases w.balance

section
variable {env : Env} {w w' : World host} {call : Call}

theorem Solvent.allocated_nonneg (solvent : Solvent w) : 0 ≤ w.allocated := by
  rw [solvent.allocated]
  exact total_nonneg solvent.covered.each

theorem Solvent.allocated_le (solvent : Solvent w) : w.allocated ≤ w.balance := by
  rw [solvent.allocated]
  exact solvent.covered.enough

theorem balance_le (w : World host) : w.balance ≤ i128Max := host.token.balance_le _ _

variable {order_ref : Bytes}

variable {p : Purchase}

theorem Solvent.keptAside_le (solvent : Solvent w) (found : w.purchases.lookup order_ref = some p)
    : keptAside p ≤ w.allocated := by
  rw [solvent.allocated]
  exact weight_le_total solvent.covered.each found

theorem Solvent.owed_le (solvent : Solvent w) (found : w.purchases.lookup order_ref = some p)
    : p.refund_owed ≤ w.allocated := by
  have sound := (solvent.stored _ p found).2
  refine le_trans ?_ (solvent.keptAside_le found)
  by_cases opened : isOpen p.status = true
  · rw [keptAside_open opened, sound.open_owed opened]
    exact sound.positive.le
  · rw [keptAside_closed (by simpa using opened)]

theorem Records.solvent {payer : Address} {amount : Int} {tx_hash receipt_hash : BytesN 32}
    (records : Records w env order_ref payer amount tx_hash receipt_hash w') (solvent : Solvent w) : Solvent w' := by
  have sameBalance : w'.balance = w.balance := by
    unfold World.balance World.current_contract_address
    rw [records.token, records.id]
  refine ⟨?_, ?_, ?_⟩
  · intro order_ref' p found
    rw [records.purchases, lookup_insert] at found
    split_ifs at found with same
    · cases found
      exact ⟨same.symm, sound_fresh records.positive⟩
    · exact solvent.stored order_ref' p found
  · rw [records.allocated, records.purchases, total_insert_new _ _ records.free, solvent.allocated]
    rfl
  · rw [records.purchases, sameBalance]
    refine solvent.covered.commit records.free records.positive.le ?_
    rw [← solvent.allocated]
    exact records.available

theorem Updates.solvent {p' : Purchase} (found : w.purchases.lookup call.order_ref = some p)
    (moves : Moves host w.id w.config p ⟨env, call, w'.moved⟩ p') (updates : Updates (start w) p p' w'.moved w')
    (solvent : Solvent w) : Solvent w' := by
  obtain ⟨key, sound⟩ := solvent.stored _ p found
  obtain ⟨_, sameOrder, _, _⟩ := moves.identity
  have key' : p'.order_ref = call.order_ref := sameOrder.trans key
  have purchases := updates.purchases
  rw [key', start_purchases] at purchases
  have paid : (w'.moved.map Transfer.amount).sum = keptAside p - keptAside p' := Moves.paid moves sound
  refine ⟨?_, ?_, ?_⟩
  · intro order_ref q stored
    rw [purchases, lookup_insert] at stored
    split_ifs at stored with same
    · cases stored
      exact ⟨key'.trans same.symm, moves.sound sound⟩
    · exact solvent.stored order_ref q stored
  · rw [updates.allocated, purchases, total_insert_old _ _ found, start_allocated, solvent.allocated]
  · rw [purchases]
    have left := solvent.covered.discharge found (w'.moved.map Transfer.amount).sum
      (moves.sound sound).keptAside_nonneg (by omega)
    refine left.grow ?_
    -- a transfer to the escrow itself leaves more than the outcome pays out
    have sent := sends_balance_ge updates.sends (by
      intro payment member
      obtain ⟨t, listed, rfl⟩ := List.mem_map.mp member
      exact (Moves.positive moves t listed).le)
    have amounts : (w'.moved.map Transfer.payment).map Prod.snd = w'.moved.map Transfer.amount := by
      rw [List.map_map]
      rfl
    rw [amounts] at sent
    have sameId : w'.id = w.id := updates.id
    unfold World.balance World.current_contract_address at *
    rw [sameId]
    exact sent

theorem solvent_effect (solvent : Solvent w) (effect : Effect w env call w') : Solvent w' := by
  cases effect with
  | hold records => exact Records.solvent records solvent
  | move found moves updates => exact Updates.solvent found moves updates solvent

theorem solvent_step (solvent : Solvent w) (action : Action host) : Solvent (step w action).1 := by
  cases action with
  | call env call =>
    unfold step
    dsimp only
    cases ran : invoke env call w with
    | ok after => exact solvent_effect solvent (invoke_cases solvent.stored ran)
    | error failure => exact solvent
  | external token =>
    unfold step
    dsimp only
    split_ifs with kept
    · exact ⟨solvent.stored, solvent.allocated, solvent.covered.grow kept⟩
    · exact solvent

/-! ### No arithmetic overflows -/

theorem avoids_require_auth {a : Address} : Avoids (.trap .overflow) (require_auth env a) :=
  avoids_failIf (by decide)

theorem avoids_close {status : Status} {refund : Int} {now : UInt64} (nonneg : 0 ≤ refund) (atMost : refund ≤ p.amount)
    (allocated : p.amount ≤ w.allocated) (fits : w.allocated ≤ i128Max) :
    Avoids (.trap .overflow) (close w p status refund now) := by
  obtain ⟨token, owed, debt, _, closes⟩ := close_runs _ _ nonneg atMost allocated fits
  rw [closes]
  refine avoids_bind ?_ fun _ _ => avoids_ok _
  unfold pay_store
  split_ifs
  · exact avoids_okOr (by decide)
  · exact avoids_ok _

/-- Solvency leaves no room for an overflow in any call. -/
theorem Solvent.no_overflow (solvent : Solvent w) (env : Env) (call : Call) :
    invoke env call w ≠ .error (.trap .overflow) := by
  have nonneg := solvent.allocated_nonneg
  have covered := solvent.allocated_le
  have fits := balance_le w
  -- what a stored open purchase keeps aside is its amount
  have amount_le : ∀ {order_ref p}, w.purchases.lookup order_ref = some p → isOpen p.status = true →
      p.amount ≤ w.allocated := by
    intro order_ref p found opened
    rw [← keptAside_open opened]
    exact solvent.keptAside_le found
  cases call with
  | hold order_ref payer amount tx_hash receipt_hash =>
    refine avoids_guard fun _ => ?_
    refine avoids_guard fun _ => ?_
    refine avoids_guard fun positive => ?_
    refine avoids_guard fun _ => ?_
    refine avoids_guard fun _ => ?_
    refine avoids_bind (avoids_sub (inI128_of_range ?_ ?_)) fun free ran => ?_
    · exact Int.sub_nonneg.mpr covered
    · rw [start_balance, start_allocated]
      omega
    · obtain ⟨_, rfl⟩ := sub_eq_ok.mp ran
      refine avoids_guard fun enough => ?_
      rw [start_balance, start_allocated] at enough
      refine avoids_bind (avoids_add (inI128_of_range ?_ ?_)) fun _ _ => avoids_ok _
      · rw [start_allocated]
        omega
      · rw [start_allocated]
        omega
  | mark_shipped order_ref =>
    refine avoids_guard fun _ => ?_
    refine avoids_get fun _ _ => ?_
    exact avoids_guard fun _ => avoids_ok _
  | release order_ref =>
    refine avoids_get fun p found => ?_
    refine avoids_guard fun status => ?_
    have shipped : p.status = .Shipped := by simpa using status
    have allocated := amount_le found (by rw [shipped]; rfl)
    have positive := (solvent.stored _ p found).2.positive
    refine avoids_guard fun _ => ?_
    exact avoids_bind (avoids_close le_rfl positive.le allocated (covered.trans fits)) fun _ _ => avoids_ok _
  | openDispute order_ref claim_hash sig =>
    refine avoids_get fun p _ => ?_
    refine avoids_bind ?_ fun _ _ => avoids_bind ?_ fun _ _ => avoids_ok _
    · unfold may_open
      split
      · exact avoids_ok _
      · exact avoids_failIf (by decide)
      · exact fun failed => nomatch failed
    · unfold payer_consents
      split
      · exact avoids_require_auth
      · refine avoids_get fun _ _ => ?_
        refine avoids_get fun _ _ => ?_
        refine avoids_bind (avoids_ok _) fun _ _ => ?_
        exact avoids_failIf (by decide)
      · exact fun failed => nomatch failed
  | respond order_ref response_hash =>
    refine avoids_guard fun _ => ?_
    refine avoids_get fun _ _ => ?_
    refine avoids_guard fun _ => ?_
    exact avoids_guard fun _ => avoids_ok _
  | resolve order_ref verdict_hash refund =>
    refine avoids_guard fun _ => ?_
    refine avoids_get fun p found => ?_
    refine avoids_bind ?_ fun _ allowed => ?_
    · unfold may_resolve
      split
      · exact avoids_ok _
      · exact avoids_failIf (by decide)
      · exact fun failed => nomatch failed
    · have opened : isOpen p.status = true := by
        rcases may_resolve_ok allowed with responded | ⟨disputed, _⟩
        · rw [responded]; rfl
        · rw [disputed]; rfl
      refine avoids_guard fun _ => ?_
      refine avoids_guard fun nonneg => ?_
      refine avoids_guard fun atMost => ?_
      have allocated := amount_le found opened
      refine avoids_bind (avoids_close ?_ ?_ allocated (covered.trans fits)) fun _ _ => avoids_ok _
      · exact Int.not_lt.mp nonneg
      · exact Int.not_lt.mp atMost
  | expire order_ref =>
    refine avoids_get fun p found => ?_
    refine avoids_guard fun status => ?_
    have opened : isOpen p.status = true := by
      by_cases disputed : p.status = .Disputed
      · rw [disputed]; rfl
      · have responded : p.status = .Responded := by simpa [disputed] using status
        rw [responded]; rfl
    have positive := (solvent.stored _ p found).2.positive
    refine avoids_guard fun _ => ?_
    exact avoids_bind (avoids_close positive.le le_rfl (amount_le found opened) (covered.trans fits))
      fun _ _ => avoids_ok _
  | claim_refund order_ref =>
    refine avoids_get fun p found => ?_
    refine avoids_guard fun owes => ?_
    refine avoids_get fun mid sent => ?_
    obtain ⟨token, _, rfl⟩ := try_transfer_eq_some.mp sent
    have owes : 0 < p.refund_owed := Int.not_le.mp owes
    have sound := (solvent.stored _ p found).2
    have closed := sound.closed_of_owes owes
    have kept := solvent.keptAside_le found
    rw [keptAside_closed closed] at kept
    refine avoids_bind (avoids_sub (inI128_of_range ?_ ?_)) fun _ _ => avoids_ok _
    · exact Int.sub_nonneg.mpr kept
    · simp only [start_allocated]
      omega

end

/-! ### Every run -/

/-- The amount of a purchase in `Held`, `Shipped`, `Disputed` or `Responded`. -/
def openAmount (p : Purchase) : Int := if isOpen p.status then p.amount else 0
def closedDebt (p : Purchase) : Int := if isOpen p.status then 0 else p.refund_owed

theorem keptAside_eq (p : Purchase) : keptAside p = openAmount p + closedDebt p := by
  unfold keptAside openAmount closedDebt
  split_ifs <;> omega

section
variable {w₀ : World host}

theorem deployed_ok (deployed : Deployed w₀) :
    w₀.allocated = 0 ∧ w₀.purchases = ∅ ∧ w₀.config.release_window ≠ 0 ∧ w₀.config.response_window ≠ 0 ∧
      w₀.config.resolve_window ≠ 0 := by
  obtain ⟨_, _, _, _, _, _, _, _, _, ran⟩ := deployed
  simp only [construct, bind_eq_ok, failIf_eq_ok, not_or] at ran
  obtain ⟨_, windows, last⟩ := ran
  cases last
  exact ⟨rfl, rfl, windows⟩

theorem deployed_solvent (deployed : Deployed w₀) : Solvent w₀ := by
  obtain ⟨nothing, empty, _⟩ := deployed_ok deployed
  refine ⟨?_, ?_, ?_⟩
  · intro order_ref p found
    rw [empty] at found
    cases found
  · rw [nothing, empty]
    rfl
  · rw [empty]
    exact covered_empty (host.token.balance_nonneg _ _)

theorem run_solvent (deployed : Deployed w₀) (actions : List (Action host)) : Solvent (run w₀ actions).1 :=
  Traces.exec_invariant (I := Solvent) (fun _ action solvent => solvent_step solvent action)
    (deployed_solvent deployed) actions

/-- Solvency of every run: the allocation is the open amounts and the debts, it is
    covered by the contract's tokens, and no call overflows. -/
theorem run_solvency (deployed : Deployed w₀) (actions : List (Action host)) : let w := (run w₀ actions).1
    w.allocated = total openAmount w.purchases + total closedDebt w.purchases ∧
      0 ≤ w.allocated ∧ w.allocated ≤ w.balance ∧
      (∃ free, unallocated w = .ok free ∧ free = w.balance - w.allocated ∧ 0 ≤ free) ∧
      ∀ env call, invoke env call w ≠ .error (.trap .overflow) := by
  intro w
  have solvent : Solvent w := run_solvent deployed actions
  have nonneg := solvent.allocated_nonneg
  have covered := solvent.allocated_le
  have fits := balance_le w
  refine ⟨?_, nonneg, covered, ?_, solvent.no_overflow⟩
  · rw [solvent.allocated, ← total_add]
    exact congrArg (total · w.purchases) (funext keptAside_eq)
  · exact ⟨_, sub_eq_ok.mpr ⟨inI128_of_range (by omega) (by omega), rfl⟩, rfl, by omega⟩

end

/-- A purchase of 60 held and shipped on the sample escrow, whose payer is the escrow
    itself, released after its window to a payee that can receive. -/
theorem run_solvency_sample :
    let w := (run sampleWorld sampleRelease).1
    w.allocated = total openAmount w.purchases + total closedDebt w.purchases ∧
      0 ≤ w.allocated ∧ w.allocated ≤ w.balance ∧
      (∃ free, unallocated w = .ok free ∧ free = w.balance - w.allocated ∧ 0 ≤ free) ∧
      ∀ env call, invoke env call w ≠ .error (.trap .overflow) :=
  run_solvency sampleWorld_deployed sampleRelease

end AgentPey.EscrowSolvency
