import AgentPey.EscrowHistory

/-!
What the escrow has sent on the account of one purchase: nothing while it is
open, then exactly its refund, now or later, and the rest to the store. The
books of one purchase add up over its whole life (`Books`), whichever transfers
could be delivered.
-/
namespace AgentPey.EscrowPayments
open Soroban Store Tokens PurchaseEscrow EscrowLife EscrowCalls EscrowSolvency EscrowHistory

variable {host : Host}

def transfers (t : List Entry) : List Transfer := t.flatMap Entry.moved

def sumOf (kind : Leg) (ts : List Transfer) : Int :=
  ((ts.filter (fun x => decide (x.leg = kind))).map Transfer.amount).sum

/-- What the escrow sent in these calls to the payer, or to the payee. -/
def sent (kind : Leg) (t : List Entry) : Int := sumOf kind (transfers t)

def closes : Call → Bool
  | .release _ | .resolve _ _ _ | .expire _ => true
  | _ => false

def claims : Call → Bool
  | .claim_refund _ => true
  | _ => false

def closings (t : List Entry) : Nat := t.countP (fun e => closes e.call)
def refundClaims (t : List Entry) : Nat := t.countP (fun e => claims e.call)

theorem sumOf_append (kind : Leg) (ts ts' : List Transfer) : sumOf kind (ts ++ ts') = sumOf kind ts + sumOf kind ts' := by
  simp [sumOf]

variable {dst payer : Address} {n : Int} {ts : List Transfer} {id : BytesN 32} {t : List Entry}

theorem sumOf_leg (kind : Leg) (nonneg : 0 ≤ n) : sumOf kind (leg kind dst n) = n := by
  unfold leg
  split_ifs with positive
  · simp [sumOf]
  · have none : n = 0 := by omega
    simp [sumOf, none]

theorem sumOf_other {kind other : Leg} (differ : other ≠ kind) : sumOf kind (leg other dst n) = 0 := by
  unfold leg
  split_ifs
  · simp [sumOf, differ]
  · rfl

variable {p : Purchase}

theorem sumOf_legs (config : Config) {refund owed : Int} (owedLe : owed ≤ refund) (atMost : refund ≤ p.amount) :
    sumOf .refund (legs config p refund owed) = refund - owed ∧
      sumOf .payout (legs config p refund owed) = p.amount - refund := by
  unfold legs
  constructor
  · rw [sumOf_append, sumOf_leg .refund (by omega), sumOf_other (by decide)]
    omega
  · rw [sumOf_append, sumOf_other (by decide), sumOf_leg .payout (by omega)]
    omega

def ToParties (config : Config) (payer : Address) (ts : List Transfer) : Prop :=
  ∀ x ∈ ts, x.dst = match x.leg with
    | .refund => payer
    | .payout => config.payee

variable {config : Config}

theorem toParties_append {ts' : List Transfer} :
    ToParties config payer (ts ++ ts') ↔ ToParties config payer ts ∧ ToParties config payer ts' :=
  List.forall_mem_append

theorem toParties_legs {refund owed : Int} : ToParties config p.payer (legs config p refund owed) := by
  refine toParties_append.mpr ⟨?_, ?_⟩
  · unfold leg
    split_ifs
    · simp [ToParties]
    · simp [ToParties]
  · unfold leg
    split_ifs
    · simp [ToParties]
    · simp [ToParties]

/-- What two parties get, when each leg goes to its own: one address may be both. -/
theorem received_legs (parties : ToParties config payer ts) (a : Address) : received (ts.map Transfer.payment) a =
      (if a = payer then sumOf .refund ts else 0) + (if a = config.payee then sumOf .payout ts else 0) := by
  induction ts with
  | nil => simp [received, sumOf]
  | cons x rest ih =>
    have here := parties x List.mem_cons_self
    have later := ih (fun y member => parties y (List.mem_cons_of_mem x member))
    simp only [received, List.map_cons, List.sum_cons] at later ⊢
    rw [later]
    cases kind : x.leg with
    | refund =>
      rw [kind] at here
      simp only [Transfer.payment, here, sumOf, kind, decide_true, List.filter_cons_of_pos, List.map_cons,
        List.sum_cons, reduceCtorEq, decide_false, Bool.false_eq_true, not_false_eq_true, List.filter_cons_of_neg]
      split_ifs <;> omega
    | payout =>
      rw [kind] at here
      simp only [Transfer.payment, here, sumOf, kind, decide_true, List.filter_cons_of_pos, List.map_cons,
        List.sum_cons, reduceCtorEq, decide_false, Bool.false_eq_true, not_false_eq_true, List.filter_cons_of_neg]
      split_ifs <;> omega

/-- The books of one purchase: what its calls sent, against what it records. -/
structure Books (config : Config) (t : List Entry) (p : Purchase) : Prop where
  opened : isOpen p.status = true → transfers t = [] ∧ closings t = 0 ∧ refundClaims t = 0
  closed : isOpen p.status = false → closings t = 1
  refunded : sent .refund t + p.refund_owed = p.refund
  paidOut : isOpen p.status = false → sent .payout t = p.amount - p.refund
  parties : ToParties config p.payer (transfers t)
  claimed : refundClaims t ≤ 1
  unclaimed : 0 < p.refund_owed → refundClaims t = 0

section
variable {config : Config} {t : List Entry} {p p' : Purchase} {e : Entry}

theorem transfers_snoc (t : List Entry) (e : Entry) : transfers (t ++ [e]) = transfers t ++ e.moved := by
  simp [transfers]

theorem sent_snoc (kind : Leg) (t : List Entry) (e : Entry) : sent kind (t ++ [e]) = sent kind t + sumOf kind e.moved := by
  rw [sent, transfers_snoc, sumOf_append]
  rfl

theorem closings_snoc (t : List Entry) (e : Entry) : closings (t ++ [e]) = closings t + if closes e.call then 1 else 0 := by
  simp [closings, List.countP_append, List.countP_singleton]

theorem refundClaims_snoc (t : List Entry) (e : Entry) :
    refundClaims (t ++ [e]) = refundClaims t + if claims e.call then 1 else 0 := by
  simp [refundClaims, List.countP_append, List.countP_singleton]

private theorem Books.quiet (books : Books config t p) (before : isOpen p.status = true) (after : isOpen p'.status = true)
    (refund : p'.refund = p.refund) (owed : p'.refund_owed = p.refund_owed) (moved : e.moved = [])
    (notClosing : closes e.call = false) (notClaim : claims e.call = false) : Books config (t ++ [e]) p' := by
  obtain ⟨nothing, noClosing, noClaim⟩ := books.opened before
  have none : transfers (t ++ [e]) = [] := by rw [transfers_snoc, nothing, moved]; rfl
  have claimsNone : refundClaims (t ++ [e]) = 0 := by rw [refundClaims_snoc, noClaim, notClaim]; rfl
  refine ⟨fun _ => ⟨none, ?_, claimsNone⟩, ?_, ?_, ?_, ?_, ?_, ?_⟩
  · rw [closings_snoc, noClosing, notClosing]
    rfl
  · intro closed
    rw [after] at closed
    cases closed
  · have same := books.refunded
    rw [sent_snoc, moved, refund, owed]
    simpa [sumOf] using same
  · intro closed
    rw [after] at closed
    cases closed
  · rw [none]
    exact fun _ member => nomatch member
  · omega
  · exact fun _ => claimsNone

private theorem Books.outcome {status : Status} {refund owed : Int} {now : UInt64} (books : Books config t p)
    (before : isOpen p.status = true) (after : isOpen status = false) (owedLe : owed ≤ refund) (atMost : refund ≤ p.amount)
    (moved : e.moved = legs config p refund owed) (closing : closes e.call = true) (notClaim : claims e.call = false) :
    Books config (t ++ [e]) (closedAs p status refund owed now) := by
  obtain ⟨nothing, noClosing, noClaim⟩ := books.opened before
  obtain ⟨refundSum, payoutSum⟩ := sumOf_legs config owedLe atMost
  have all : transfers (t ++ [e]) = legs config p refund owed := by rw [transfers_snoc, nothing, moved]; rfl
  have claimsNone : refundClaims (t ++ [e]) = 0 := by rw [refundClaims_snoc, noClaim, notClaim]; rfl
  refine ⟨?_, ?_, ?_, ?_, ?_, ?_, ?_⟩
  · intro opened
    have closed : isOpen (closedAs p status refund owed now).status = false := after
    rw [closed] at opened
    cases opened
  · intro _
    rw [closings_snoc, noClosing, closing]
    rfl
  · rw [sent, all, refundSum]
    show refund - owed + owed = refund
    omega
  · intro _
    rw [sent, all, payoutSum]
    rfl
  · rw [all]
    exact toParties_legs
  · omega
  · exact fun _ => claimsNone

private theorem Books.settled (books : Books config t p) (sound : Sound p) (owes : 0 < p.refund_owed)
    (moved : e.moved = [⟨.refund, p.payer, p.refund_owed⟩]) (notClosing : closes e.call = false)
    (claim : claims e.call = true) : Books config (t ++ [e]) { p with refund_owed := 0 } := by
  have closed := sound.closed_of_owes owes
  have noClaim := books.unclaimed owes
  have refunded := books.refunded
  refine ⟨?_, ?_, ?_, ?_, ?_, ?_, ?_⟩
  · intro opened
    rw [show isOpen p.status = false from closed] at opened
    cases opened
  · intro _
    rw [closings_snoc, books.closed closed, notClosing]
    rfl
  · rw [sent_snoc, moved]
    simp only [sumOf, decide_true, List.filter_cons_of_pos, List.filter_nil, List.map_cons, List.map_nil,
      List.sum_cons, List.sum_nil]
    omega
  · intro _
    rw [sent_snoc, moved, books.paidOut closed]
    simp [sumOf]
  · rw [transfers_snoc, moved]
    refine toParties_append.mpr ⟨books.parties, ?_⟩
    simp [ToParties]
  · rw [refundClaims_snoc, noClaim, claim]
    decide
  · intro still
    exact absurd still (lt_irrefl 0)

end

theorem Books.move {p p' : Purchase} {e : Entry} (books : Books config t p) (sound : Sound p)
    (moves : Moves host id config p e p') : Books config (t ++ [e]) p' := by
  have positive := sound.positive
  cases moves with
  | mark_shipped status _ => exact books.quiet (by rw [status]; rfl) rfl rfl rfl rfl rfl rfl
  | release status _ => exact books.outcome (by rw [status]; rfl) rfl le_rfl positive.le rfl rfl rfl
  | openDispute status _ =>
    have opened := isOpen_of_early status
    exact books.quiet opened rfl rfl rfl rfl rfl rfl
  | respond status _ _ => exact books.quiet (by rw [status]; rfl) rfl rfl rfl rfl rfl rfl
  | @resolve env verdict_hash refund owed status _ _ nonneg atMost debt =>
    have opened := isOpen_of_ready status
    have judged : Books config t { p with verdict_hash := some verdict_hash } :=
      ⟨books.opened, books.closed, books.refunded, books.paidOut, books.parties, books.claimed, books.unclaimed⟩
    exact judged.outcome opened rfl (by omega) atMost rfl rfl rfl
  | expire status _ debt =>
    have opened := isOpen_of_disputed status
    exact books.outcome opened rfl (by omega) le_rfl rfl rfl rfl
  | claim_refund owes => exact books.settled sound owes rfl rfl rfl

theorem life_books (life : Life host id config t p) : Books config t p := by
  induction life with
  | hold operator positive =>
    refine ⟨fun _ => ⟨rfl, rfl, rfl⟩, fun closed => ?_, rfl, fun closed => ?_, ?_, Nat.zero_le 1, fun _ => rfl⟩
    · cases closed
    · cases closed
    · exact fun _ member => nomatch member
  | move life moves books => exact books.move life.sound moves

/-! ### Every run -/

/-- What is conserved of one purchase, whose calls are `own`: nothing is sent while it is
    open; once closed, its refund is sent to its payer but for what it owes, and the
    rest to the payee. It is closed once, and a debt is claimed once. -/
structure Conserved (payee : Address) (own : List Entry) (p : Purchase) : Prop where
  opened : isOpen p.status = true → transfers own = []
  refunded : isOpen p.status = false → sent .refund own + p.refund_owed = p.refund
  paidOut : isOpen p.status = false → sent .payout own = p.amount - p.refund
  toPayer : ∀ x ∈ transfers own, x.leg = .refund → x.dst = p.payer
  toPayee : ∀ x ∈ transfers own, x.leg = .payout → x.dst = payee
  toAddress : isOpen p.status = false → ∀ a, received ((transfers own).map Transfer.payment) a =
    (if a = p.payer then p.refund - p.refund_owed else 0) + (if a = payee then p.amount - p.refund else 0)
  owed_nonneg : 0 ≤ p.refund_owed
  owed_le : p.refund_owed ≤ p.refund
  refund_le : p.refund ≤ p.amount
  released : p.status = .Released → p.refund = 0
  expired : p.status = .Expired → p.refund = p.amount
  closedOnce : closings own = if isOpen p.status then 0 else 1
  claimedOnce : refundClaims own ≤ 1

/-- A call does to the token exactly the transfers it made, or it fails and changes nothing. -/
def AllOrNothing (w : World host) (env : Env) (call : Call) : Prop :=
  (∃ w', invoke env call w = .ok w' ∧ step w (.call env call) = (w', [⟨env, call, w'.moved⟩]) ∧
    host.token.Sends w.current_contract_address w.token (w'.moved.map Transfer.payment) w'.token) ∨
  (∃ failure, invoke env call w = .error failure ∧ step w (.call env call) = (w, []))

theorem allOrNothing {w : World host} (stored : Stored w) (env : Env) (call : Call) : AllOrNothing w env call := by
  cases ran : invoke env call w with
  | ok after =>
    refine .inl ⟨after, ran, by simp only [step, ran], ?_⟩
    cases invoke_cases stored ran with
    | hold records =>
      rw [records.moved, records.token]
      exact sends_nil.mpr rfl
    | move _ _ updates => exact updates.sends
  | error failure => exact .inr ⟨failure, ran, by simp only [step, ran]⟩

theorem Books.conserved {own : List Entry} (books : Books config own p) (sound : Sound p) : Conserved config.payee own p := by
  refine ⟨fun opened => (books.opened opened).1, fun _ => books.refunded, books.paidOut, ?_, ?_, ?_,
    sound.owed_nonneg, sound.owed_le, sound.refund_le, sound.released_refund, sound.expired_refund, ?_, books.claimed⟩
  · intro x member kind
    rw [books.parties x member, kind]
  · intro x member kind
    rw [books.parties x member, kind]
  · intro closed a
    have refunded : sumOf .refund (transfers own) = p.refund - p.refund_owed := by
      have := books.refunded
      rw [sent] at this
      omega
    have paidOut : sumOf .payout (transfers own) = p.amount - p.refund := books.paidOut closed
    rw [received_legs books.parties a, refunded, paidOut]
  · by_cases opened : isOpen p.status = true
    · rw [if_pos opened]
      exact (books.opened opened).2.1
    · rw [if_neg opened]
      exact books.closed (by simpa using opened)

/-- Conservation of every purchase of every run; an order that is not held has no
    transfers, and a call that fails changes nothing. -/
theorem run_conservation {w₀ : World host} (deployed : Deployed w₀) (actions : List (Action host)) :
    let w := (run w₀ actions).1
    let t := (run w₀ actions).2
    (∀ order_ref p, get w order_ref = some p → Conserved w₀.config.payee (onAccount order_ref t) p) ∧
      (∀ order_ref, get w order_ref = none → onAccount order_ref t = []) ∧
      ∀ env call, AllOrNothing w env call := by
  intro w t
  have recorded : Recorded w₀.id w₀.config w t := run_recorded deployed actions
  refine ⟨fun order_ref p found => ?_, recorded.absent, allOrNothing recorded.solvent.stored⟩
  have life := recorded.life order_ref p found
  exact (life_books life).conserved life.sound

/-- A dispute whose refund could not be delivered at first. -/
theorem run_conservation_sample :
    let w := (run sampleWorld sampleDispute).1
    let t := (run sampleWorld sampleDispute).2
    (∀ order_ref p, get w order_ref = some p → Conserved (sampleAddress 3) (onAccount order_ref t) p) ∧
      (∀ order_ref, get w order_ref = none → onAccount order_ref t = []) ∧
      ∀ env call, AllOrNothing w env call :=
  run_conservation sampleWorld_deployed sampleDispute

end AgentPey.EscrowPayments
