import AgentPey.EscrowHistory

/-!
When the calls of the escrow succeed. In a solvent state a call fails only for
one of the reasons it names, so that each deadline splits time in two: before it
one party can act, after it another, and never both or nobody. The deadlines are
`u64` and saturate.
-/
namespace AgentPey.EscrowDeadlines
open Soroban Store Tokens PurchaseEscrow EscrowLife EscrowCalls EscrowSolvency EscrowHistory

variable {host : Host}

def Succeeds (w : World host) (env : Env) (call : Call) : Prop := ∃ w', invoke env call w = .ok w'

/-- The resolve window closes after the response window, also where the sums saturate. -/
theorem response_le_resolve (config : Config) (p : Purchase) :
    saturating_add p.opened_at config.response_window ≤ resolve_deadline config p :=
  le_saturating_add _ _

section
variable {w : World host} {env : Env} {order_ref : Bytes}

/-! ### What a call needs -/

theorem mark_shipped_succeeds :
    Succeeds w env (.mark_shipped order_ref) ↔
      env.authorised w.config.operator = true ∧ ∃ p, get w order_ref = some p ∧ p.status = .Held := by
  simp only [Succeeds, invoke, mark_shipped, require_auth, load, bind_eq_ok, failIf_eq_ok, okOr_eq_ok, PurchaseEscrow.get,
    start_purchases]
  simp only [start_config]
  constructor
  · rintro ⟨_, _, operator, p, found, _, status, _⟩
    exact ⟨by simpa using operator, p, found, by simpa using status⟩
  · rintro ⟨operator, p, found, status⟩
    exact ⟨_, ⟨⟩, by simp [operator], p, found, ⟨⟩, by simp [status], rfl⟩

theorem release_succeeds :
    Succeeds w env (.release order_ref) ↔
      ∃ p, get w order_ref = some p ∧ p.status = .Shipped ∧
        saturating_add p.shipped_at w.config.release_window ≤ env.timestamp ∧
        ∃ w', close (start w) p .Released 0 env.timestamp = .ok w' := by
  simp only [Succeeds, invoke, release, load, bind_eq_ok, failIf_eq_ok, okOr_eq_ok,
    PurchaseEscrow.get, start_purchases]
  simp only [start_config]
  constructor
  · rintro ⟨_, p, found, _, status, _, due, w', closes, _⟩
    exact ⟨p, found, by simpa using status, by simpa using due, w', closes⟩
  · rintro ⟨p, found, status, due, w', closes⟩
    exact ⟨_, p, found, ⟨⟩, by simp [status], ⟨⟩, by simpa using due, w', closes, rfl⟩

variable {config : Config} {p : Purchase} {now : UInt64} {u : PUnit}

theorem may_open_eq_ok : may_open config p now = .ok u ↔
      p.status = .Held ∨ p.status = .Shipped ∧ now < saturating_add p.shipped_at config.release_window := by
  refine ⟨may_open_ok, ?_⟩
  unfold may_open
  rintro (held | ⟨shipped, early⟩)
  · rw [held]
  · rw [shipped]
    simpa using early

theorem openDispute_succeeds {claim_hash : BytesN 32} {sig : Option (BytesN 64)} (stored : Stored w) :
    Succeeds w env (.openDispute order_ref claim_hash sig) ↔
      ∃ p, get w order_ref = some p ∧ Consented host w.id env p claim_hash sig ∧
        (p.status = .Held ∨
          p.status = .Shipped ∧ env.timestamp < saturating_add p.shipped_at w.config.release_window) := by
  simp only [Succeeds, invoke, openDispute, load, bind_eq_ok, okOr_eq_ok,
    PurchaseEscrow.get, start_purchases]
  simp only [start_config]
  constructor
  · rintro ⟨_, p, found, _, allowed, _, consent, _⟩
    obtain ⟨rfl, _⟩ := stored order_ref p found
    exact ⟨p, found, payer_consents_ok.mp consent, may_open_eq_ok.mp allowed⟩
  · rintro ⟨p, found, consent, early⟩
    obtain ⟨rfl, _⟩ := stored order_ref p found
    have signed : payer_consents env (start w) p p.order_ref claim_hash sig = .ok ⟨⟩ := payer_consents_ok.mpr consent
    exact ⟨_, p, found, ⟨⟩, may_open_eq_ok.mpr early, ⟨⟩, signed, rfl⟩

theorem respond_succeeds {response_hash : BytesN 32} : Succeeds w env (.respond order_ref response_hash) ↔
      env.authorised w.config.payee = true ∧ ∃ p, get w order_ref = some p ∧ p.status = .Disputed ∧
        env.timestamp ≤ saturating_add p.opened_at w.config.response_window := by
  simp only [Succeeds, invoke, respond, require_auth, load, bind_eq_ok, failIf_eq_ok, okOr_eq_ok, PurchaseEscrow.get,
    start_purchases]
  simp only [start_config]
  constructor
  · rintro ⟨_, _, payee, p, found, _, status, _, inTime, _⟩
    exact ⟨by simpa using payee, p, found, by simpa using status, by simpa using inTime⟩
  · rintro ⟨payee, p, found, status, inTime⟩
    exact ⟨_, ⟨⟩, by simp [payee], p, found, ⟨⟩, by simp [status], ⟨⟩, by simpa using inTime, rfl⟩

theorem may_resolve_eq_ok : may_resolve config p now = .ok u ↔
      p.status = .Responded ∨ p.status = .Disputed ∧ saturating_add p.opened_at config.response_window < now := by
  refine ⟨may_resolve_ok, ?_⟩
  unfold may_resolve
  rintro (responded | ⟨disputed, late⟩)
  · rw [responded]
  · rw [disputed]
    simpa using late

theorem resolve_succeeds {verdict_hash : BytesN 32} {refund : Int} : Succeeds w env (.resolve order_ref verdict_hash refund) ↔
      env.authorised w.config.arbiter = true ∧ ∃ p, get w order_ref = some p ∧
        (p.status = .Responded ∨
          p.status = .Disputed ∧ saturating_add p.opened_at w.config.response_window < env.timestamp) ∧
        env.timestamp ≤ resolve_deadline w.config p ∧ 0 ≤ refund ∧ refund ≤ p.amount ∧
        ∃ w', close (start w) { p with verdict_hash := some verdict_hash } .Resolved refund env.timestamp = .ok w' := by
  simp only [Succeeds, invoke, resolve, require_auth, load, bind_eq_ok, failIf_eq_ok, okOr_eq_ok, PurchaseEscrow.get,
    start_purchases, may_resolve_eq_ok]
  simp only [start_config]
  constructor
  · rintro ⟨_, _, arbiter, p, found, _, ready, _, inTime, _, nonneg, _, atMost, w', closes, _⟩
    exact ⟨by simpa using arbiter, p, found, ready, by simpa using inTime, Int.not_lt.mp nonneg,
      Int.not_lt.mp atMost, w', closes⟩
  · rintro ⟨arbiter, p, found, ready, inTime, nonneg, atMost, w', closes⟩
    exact ⟨_, ⟨⟩, by simp [arbiter], p, found, ⟨⟩, ready, ⟨⟩, by simpa using inTime, ⟨⟩, Int.not_lt.mpr nonneg, ⟨⟩,
      Int.not_lt.mpr atMost, w', closes, rfl⟩

theorem expire_succeeds :
    Succeeds w env (.expire order_ref) ↔
      ∃ p, get w order_ref = some p ∧ (p.status = .Disputed ∨ p.status = .Responded) ∧
        resolve_deadline w.config p < env.timestamp ∧
        ∃ w', close (start w) p .Expired p.amount env.timestamp = .ok w' := by
  simp only [Succeeds, invoke, expire, load, bind_eq_ok, failIf_eq_ok, okOr_eq_ok,
    PurchaseEscrow.get, start_purchases]
  simp only [start_config]
  constructor
  · rintro ⟨_, p, found, _, status, _, late, w', closes, _⟩
    exact ⟨p, found, by tauto, by simpa using late, w', closes⟩
  · rintro ⟨p, found, status, late, w', closes⟩
    exact ⟨_, p, found, ⟨⟩, by tauto, ⟨⟩, by simpa using late, w', closes, rfl⟩

end

/-! ### What solvency delivers -/

section
variable {w : World host} {env : Env}

variable {refund : Int}

/-- The refund's transfer leaves enough for the store, and the store no less able to
    receive it, also when the escrow, the payer and the payee are not three. -/
theorem payout_deliverable {payer payee : Address} {amount sent : Int} {token : host.token.State} {token₀ : host.token.State}
    {self : Address} (nonneg : 0 ≤ sent) (atMost : sent ≤ refund) (rest : refund ≤ amount)
    (covered : amount ≤ host.token.balance token₀ self) (receives : host.token.Deliverable token₀ self payee amount)
    (sends : host.token.Sends self token₀ ((leg .refund payer sent).map Transfer.payment) token) :
    (host.token.transfer token self payee (amount - refund)).isSome = true := by
  have sum : (((leg .refund payer sent).map Transfer.payment).map Prod.snd).sum = sent := by
    rw [List.map_map]
    exact leg_sum nonneg
  have reached : ∀ a, received ((leg .refund payer sent).map Transfer.payment) a = if a = payer then sent else 0 := by
    intro a
    unfold leg
    split_ifs with positive isPayer isPayer
    · simp [received, Transfer.payment, isPayer]
    · simp [received, Transfer.payment, isPayer]
    · simp only [List.map_nil, received, List.sum_nil]
      omega
    · rfl
  have balance := sends_balance sends
  rw [sum] at balance
  simp only [reached] at balance
  obtain ⟨can, room⟩ := receives
  refine host.token.transfer_delivers (by omega) ?_ ?_ ?_
  · rw [balance self, if_pos rfl]
    split_ifs <;> omega
  · rw [sends_receives sends]
    exact can
  · rcases room with same | room
    · exact .inl same
    · refine .inr ?_
      rw [balance payee]
      split_ifs <;> omega

theorem pay_store_runs {to_store : Int} (delivered : 0 < to_store →
      (host.token.transfer w.token w.current_contract_address w.config.payee to_store).isSome = true) :
    ∃ w', pay_store w to_store = .ok w' := by
  unfold pay_store
  split_ifs with positive
  · obtain ⟨token, paid⟩ := Option.isSome_iff_exists.mp (delivered positive)
    exact ⟨_, okOr_eq_ok.mpr (try_transfer_eq_some.mpr ⟨token, paid, rfl⟩)⟩
  · exact ⟨w, rfl⟩

theorem close_succeeds {p : Purchase} {status : Status} {now : UInt64} (nonneg : 0 ≤ refund) (atMost : refund ≤ p.amount)
    (allocated : p.amount ≤ w.allocated) (covered : w.allocated ≤ w.balance) (receives : refund < p.amount →
      host.token.Deliverable w.token w.current_contract_address w.config.payee p.amount) :
    ∃ w', close w p status refund now = .ok w' := by
  obtain ⟨token, owed, debt, sends, closes⟩ := close_runs status now nonneg atMost allocated
    (covered.trans (balance_le w))
  rw [closes]
  refine bind_runs (pay_store_runs fun positive => ?_) fun _ => ⟨_, rfl⟩
  exact payout_deliverable (by omega) (by omega) atMost (allocated.trans covered) (receives (by omega)) sends

/-- A debt is claimed whenever its payer can receive it: the escrow always has it. -/
theorem claim_refund_succeeds {order_ref : Bytes} (solvent : Solvent w) : Succeeds w env (.claim_refund order_ref) ↔
      ∃ p, get w order_ref = some p ∧ 0 < p.refund_owed ∧
        (host.token.transfer w.token w.current_contract_address p.payer p.refund_owed).isSome = true := by
  simp only [Succeeds, invoke, claim_refund, load, bind_eq_ok, failIf_eq_ok, okOr_eq_ok, PurchaseEscrow.get,
    start_purchases]
  constructor
  · rintro ⟨_, p, found, _, owes, mid, sent, _⟩
    obtain ⟨token, moves, _⟩ := try_transfer_eq_some.mp sent
    rw [start_token, start_current_contract_address] at moves
    exact ⟨p, found, Int.not_le.mp owes, by rw [moves]; rfl⟩
  · rintro ⟨p, found, owes, delivered⟩
    obtain ⟨token, moves⟩ := Option.isSome_iff_exists.mp delivered
    have kept := solvent.owed_le found
    have covered := solvent.allocated_le
    have fits := balance_le w
    have settles : InI128 (w.allocated - p.refund_owed) := inI128_of_range (by omega) (by omega)
    exact ⟨_, p, found, ⟨⟩, Int.not_le.mpr owes, _, try_transfer_eq_some.mpr ⟨token, moves, rfl⟩, _,
      sub_eq_ok.mpr ⟨settles, rfl⟩, rfl⟩

end

/-! ### One way forward at every instant -/

/-- Every party has authorised, the payer consents to a dispute, and both parties can
    receive what the purchase is about. -/
structure AllReady (w : World host) (env : Env) (p : Purchase) (claim_hash : BytesN 32) (sig : Option (BytesN 64)) :
    Prop where
  operator : env.authorised w.config.operator = true
  payee : env.authorised w.config.payee = true
  arbiter : env.authorised w.config.arbiter = true
  consent : Consented host w.id env p claim_hash sig
  payerReceives : host.token.Deliverable w.token w.current_contract_address p.payer p.amount
  payeeReceives : host.token.Deliverable w.token w.current_contract_address w.config.payee p.amount

def OneOf (a b c : Prop) : Prop := a ∧ ¬ b ∧ ¬ c ∨ ¬ a ∧ b ∧ ¬ c ∨ ¬ a ∧ ¬ b ∧ c

section
variable {w : World host} {env : Env} {order_ref : Bytes} {p : Purchase} {claim_hash : BytesN 32}
variable {sig : Option (BytesN 64)}

private theorem exists_found {holds : Purchase → Prop} (found : get w order_ref = some p) :
    (∃ q, get w order_ref = some q ∧ holds q) ↔ holds p := by
  rw [found]
  simp

variable {refund : Int}

section
variable (solvent : Solvent w) (found : get w order_ref = some p)
include solvent found

theorem outcome_runs (opened : isOpen p.status = true) (ready : AllReady w env p claim_hash sig) {q : Purchase}
    (sameAmount : q.amount = p.amount) {status : Status} {now : UInt64} (nonneg : 0 ≤ refund) (atMost : refund ≤ p.amount) :
    ∃ w', close (start w) q status refund now = .ok w' := by
  have allocated := solvent.keptAside_le found
  rw [keptAside_open opened] at allocated
  refine close_succeeds nonneg (by omega) (by rw [sameAmount]; exact allocated) solvent.allocated_le fun _ => ?_
  rw [sameAmount]
  exact ready.payeeReceives

theorem shipped_exclusive (shipped : p.status = .Shipped) (ready : AllReady w env p claim_hash sig) :
    Xor (Succeeds w env (.openDispute order_ref claim_hash sig)) (Succeeds w env (.release order_ref)) := by
  have pays : ∃ w', close (start w) p .Released 0 env.timestamp = .ok w' :=
    outcome_runs solvent found (by rw [shipped]; rfl) ready rfl le_rfl (solvent.stored _ p found).2.positive.le
  have opens : Succeeds w env (.openDispute order_ref claim_hash sig) ↔
      env.timestamp < saturating_add p.shipped_at w.config.release_window := by
    rw [openDispute_succeeds solvent.stored, exists_found found]
    simp [shipped, ready.consent]
  have releases : Succeeds w env (.release order_ref) ↔
      saturating_add p.shipped_at w.config.release_window ≤ env.timestamp := by
    rw [release_succeeds, exists_found found]
    simp [shipped, pays]
  rw [opens, releases, ← UInt64.not_lt]
  by_cases early : env.timestamp < saturating_add p.shipped_at w.config.release_window
  · exact .inl ⟨early, not_not.mpr early⟩
  · exact .inr ⟨early, early⟩

/-- A verdict or the expiry of an open dispute can be paid, so only the clock decides. -/
private theorem resolves_iff (opened : isOpen p.status = true) (ready : AllReady w env p claim_hash sig)
    (verdict_hash : BytesN 32) (nonneg : 0 ≤ refund) (atMost : refund ≤ p.amount) :
    Succeeds w env (.resolve order_ref verdict_hash refund) ↔
      (p.status = .Responded ∨
        p.status = .Disputed ∧ saturating_add p.opened_at w.config.response_window < env.timestamp) ∧
      env.timestamp ≤ resolve_deadline w.config p := by
  have pays : ∃ w', close (start w) { p with verdict_hash := some verdict_hash } .Resolved refund env.timestamp =
      .ok w' :=
    outcome_runs (q := { p with verdict_hash := some verdict_hash }) solvent found opened ready rfl nonneg atMost
  rw [resolve_succeeds, exists_found found]
  simp [ready.arbiter, pays, nonneg, atMost]

private theorem expires_iff (disputed : p.status = .Disputed ∨ p.status = .Responded)
    (ready : AllReady w env p claim_hash sig) :
    Succeeds w env (.expire order_ref) ↔ resolve_deadline w.config p < env.timestamp := by
  have opened := isOpen_of_disputed disputed
  have pays : ∃ w', close (start w) p .Expired p.amount env.timestamp = .ok w' :=
    outcome_runs solvent found opened ready rfl (solvent.stored _ p found).2.positive.le le_rfl
  rw [expire_succeeds, exists_found found]
  simp [disputed, pays]

theorem disputed_exclusive (disputed : p.status = .Disputed) (ready : AllReady w env p claim_hash sig)
    (response_hash verdict_hash : BytesN 32) (nonneg : 0 ≤ refund)
    (atMost : refund ≤ p.amount) : OneOf (Succeeds w env (.respond order_ref response_hash))
      (Succeeds w env (.resolve order_ref verdict_hash refund)) (Succeeds w env (.expire order_ref)) := by
  have responds : Succeeds w env (.respond order_ref response_hash) ↔
      env.timestamp ≤ saturating_add p.opened_at w.config.response_window := by
    rw [respond_succeeds, exists_found found]
    simp [disputed, ready.payee]
  have resolves := resolves_iff solvent found (by rw [disputed]; rfl) ready verdict_hash nonneg atMost
  have expires := expires_iff solvent found (.inl disputed) ready
  simp only [disputed, reduceCtorEq, false_or, true_and] at resolves
  rw [responds, resolves, expires]
  -- the two deadlines, in order, cut time into three parts
  have order := response_le_resolve w.config p
  by_cases first : env.timestamp ≤ saturating_add p.opened_at w.config.response_window
  · exact .inl ⟨first, fun second => absurd second.1 (UInt64.not_lt.mpr first), UInt64.not_lt.mpr (UInt64.le_trans first order)⟩
  · by_cases second : env.timestamp ≤ resolve_deadline w.config p
    · exact .inr (.inl ⟨first, ⟨UInt64.not_le.mp first, second⟩, UInt64.not_lt.mpr second⟩)
    · exact .inr (.inr ⟨first, fun inTime => second inTime.2, UInt64.not_le.mp second⟩)

theorem responded_exclusive (responded : p.status = .Responded) (ready : AllReady w env p claim_hash sig)
    (verdict_hash : BytesN 32) (nonneg : 0 ≤ refund) (atMost : refund ≤ p.amount) :
    Xor (Succeeds w env (.resolve order_ref verdict_hash refund)) (Succeeds w env (.expire order_ref)) := by
  have resolves := resolves_iff solvent found (by rw [responded]; rfl) ready verdict_hash nonneg atMost
  have expires := expires_iff solvent found (.inr responded) ready
  simp only [responded, true_or, true_and] at resolves
  rw [resolves, expires]
  by_cases inTime : env.timestamp ≤ resolve_deadline w.config p
  · exact .inl ⟨inTime, UInt64.not_lt.mpr inTime⟩
  · exact .inr ⟨UInt64.not_le.mp inTime, inTime⟩

end

/-- A closed purchase only waits for its payer to collect. -/
structure OnlyClaims (w : World host) (env : Env) (order_ref : Bytes) (p : Purchase) : Prop where
  mark_shipped : ¬ Succeeds w env (.mark_shipped order_ref)
  release : ¬ Succeeds w env (.release order_ref)
  openDispute : ∀ claim_hash sig, ¬ Succeeds w env (.openDispute order_ref claim_hash sig)
  respond : ∀ response_hash, ¬ Succeeds w env (.respond order_ref response_hash)
  resolve : ∀ verdict_hash refund, ¬ Succeeds w env (.resolve order_ref verdict_hash refund)
  expire : ¬ Succeeds w env (.expire order_ref)
  claim_refund : Succeeds w env (.claim_refund order_ref) ↔ 0 < p.refund_owed

theorem closed_exclusive (solvent : Solvent w) (found : get w order_ref = some p) (closed : isOpen p.status = false)
    (ready : AllReady w env p claim_hash sig) : OnlyClaims w env order_ref p := by
  have notOpen : ∀ status, isOpen status = true → p.status ≠ status := by
    rintro status opened rfl
    rw [opened] at closed
    cases closed
  have held := notOpen .Held rfl
  have shipped := notOpen .Shipped rfl
  have disputed := notOpen .Disputed rfl
  have responded := notOpen .Responded rfl
  refine ⟨?_, ?_, ?_, ?_, ?_, ?_, ?_⟩
  · rw [mark_shipped_succeeds, exists_found found]
    exact fun runs => held runs.2
  · rw [release_succeeds, exists_found found]
    exact fun runs => shipped runs.1
  · intro claim_hash sig
    rw [openDispute_succeeds solvent.stored, exists_found found]
    rintro ⟨_, here | ⟨here, _⟩⟩
    · exact held here
    · exact shipped here
  · intro response_hash
    rw [respond_succeeds, exists_found found]
    exact fun runs => disputed runs.2.1
  · intro verdict_hash refund
    rw [resolve_succeeds, exists_found found]
    rintro ⟨_, here | ⟨here, _⟩, _⟩
    · exact responded here
    · exact disputed here
  · rw [expire_succeeds, exists_found found]
    rintro ⟨here | here, _⟩
    · exact disputed here
    · exact responded here
  · rw [claim_refund_succeeds solvent, exists_found found]
    refine ⟨And.left, fun owes => ⟨owes, ?_⟩⟩
    have sound := (solvent.stored _ p found).2
    obtain ⟨can, room⟩ := ready.payerReceives
    have covered := (solvent.owed_le found).trans solvent.allocated_le
    have owedLe := sound.owed_le.trans sound.refund_le
    refine host.token.transfer_delivers owes.le covered can ?_
    rcases room with same | room
    · exact .inl same
    · exact .inr (by omega)

end

/-- At every instant exactly one outcome of a shipped or disputed purchase is possible,
    and none but its refund's delivery once it is closed. -/
theorem run_exclusive {w₀ : World host} (deployed : Deployed w₀) (actions : List (Action host)) {order_ref : Bytes} {p : Purchase}
    (found : get (run w₀ actions).1 order_ref = some p) {env : Env} {claim_hash : BytesN 32}
    {sig : Option (BytesN 64)} (ready : AllReady (run w₀ actions).1 env p claim_hash sig) :
    let Can := Succeeds (run w₀ actions).1 env
    (p.status = .Shipped → Xor (Can (.openDispute order_ref claim_hash sig)) (Can (.release order_ref))) ∧
    (p.status = .Disputed → ∀ response_hash verdict_hash refund, 0 ≤ refund → refund ≤ p.amount →
      OneOf (Can (.respond order_ref response_hash)) (Can (.resolve order_ref verdict_hash refund))
        (Can (.expire order_ref))) ∧
    (p.status = .Responded → ∀ verdict_hash refund, 0 ≤ refund → refund ≤ p.amount →
      Xor (Can (.resolve order_ref verdict_hash refund)) (Can (.expire order_ref))) ∧
    (isOpen p.status = false → OnlyClaims (run w₀ actions).1 env order_ref p) := by
  intro Can
  have solvent : Solvent (run w₀ actions).1 := run_solvent deployed actions
  refine ⟨fun shipped => ?_, fun disputed response_hash verdict_hash refund nonneg atMost => ?_,
    fun responded verdict_hash refund nonneg atMost => ?_, fun closed => ?_⟩
  · exact shipped_exclusive solvent found shipped ready
  · exact disputed_exclusive solvent found disputed ready response_hash verdict_hash nonneg atMost
  · exact responded_exclusive solvent found responded ready verdict_hash nonneg atMost
  · exact closed_exclusive solvent found closed ready

def sampleSignature : BytesN 64 := ⟨List.replicate 64 1, rfl⟩

/-- What the sample escrow stores of a purchase once it is shipped. -/
def sampleShipped : Purchase :=
  { fresh [1] (.contract sampleId) 60 sampleHash sampleHash 0 with status := .Shipped, shipped_at := 1 }

/-- A shipped purchase, five seconds into its claim window. -/
theorem run_exclusive_sample :
    let Can := Succeeds (run sampleWorld (sampleRelease.take 2)).1 (sampleEnv 6)
    Xor (Can (.openDispute [1] sampleHash (some sampleSignature))) (Can (.release [1])) := by
  have found : get (run sampleWorld (sampleRelease.take 2)).1 [1] = some sampleShipped := rfl
  have ready : AllReady (run sampleWorld (sampleRelease.take 2)).1 (sampleEnv 6) sampleShipped sampleHash
      (some sampleSignature) :=
    { operator := rfl
      payee := rfl
      arbiter := rfl
      consent := ⟨_, _, rfl, rfl, by decide⟩
      payerReceives := ⟨rfl, .inl rfl⟩
      payeeReceives := ⟨rfl, .inr (by decide)⟩ }
  exact (run_exclusive sampleWorld_deployed (sampleRelease.take 2) found ready).1 rfl

end AgentPey.EscrowDeadlines
