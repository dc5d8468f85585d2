import AgentPey.EscrowRecovery

/-!
The payer's consent. Money goes back to a payer only after a dispute that the
payer opened; without one it goes to the store, in full and after the claim
window. The signed message names the escrow, the claim and the order, and a
purchase never becomes disputable again, so a signature opens one dispute.
-/
namespace AgentPey.EscrowConsent
open Soroban Store Tokens PurchaseEscrow EscrowLife EscrowCalls EscrowSolvency EscrowHistory EscrowPayments
open EscrowRecovery

variable {host : Host} {id : BytesN 32} {config : Config} {own : List Entry} {p p' : Purchase} {e : Entry}

def opens : Call → Bool
  | .openDispute _ _ _ => true
  | _ => false

def openings (t : List Entry) : Nat := t.countP (fun e => opens e.call)

theorem openings_snoc (t : List Entry) (e : Entry) : openings (t ++ [e]) = openings t + if opens e.call then 1 else 0 := by
  simp [openings, List.countP_append, List.countP_singleton]

/-- One of the calls opened the dispute with the consent of the purchase's payer. -/
def OpenedByPayer (host : Host) (id : BytesN 32) (own : List Entry) (p : Purchase) : Prop :=
  ∃ e ∈ own, ∃ claim_hash sig, e.call = .openDispute p.order_ref claim_hash sig ∧
    Consented host id e.env p claim_hash sig

variable {claim_hash : BytesN 32} {sig : Option (BytesN 64)} {w : World host}

theorem Consented.of_same {env : Env} (consent : Consented host id env p claim_hash sig) (payer : p'.payer = p.payer)
    (order : p'.order_ref = p.order_ref) : Consented host id env p' claim_hash sig := by
  unfold Consented at *
  rw [payer, order]
  exact consent

variable {order_ref : Bytes}

/-- Every successful `open` of a life carried the payer's consent. -/
theorem life_consented (life : Life host id config own p) (member : e ∈ own)
    (called : e.call = .openDispute order_ref claim_hash sig) :
    order_ref = p.order_ref ∧ Consented host id e.env p claim_hash sig := by
  induction life with
  | hold operator positive =>
    rw [List.mem_singleton.mp member] at called
    cases called
  | @move t q q' e' life moves ih =>
    obtain ⟨about, order, payer, _⟩ := moves.identity
    rcases List.mem_append.mp member with earlier | last
    · obtain ⟨same, consent⟩ := ih earlier
      exact ⟨same.trans order.symm, Consented.of_same consent payer order⟩
    · rw [List.mem_singleton.mp last] at called ⊢
      cases moves with
      | openDispute status consent =>
        cases called
        exact ⟨rfl, Consented.of_same consent rfl rfl⟩
      | _ => cases called

/-- A dispute is opened at most once, and not yet while the order waits for its payer. -/
theorem life_openings (life : Life host id config own p) :
    openings own ≤ 1 ∧ (p.status = .Held ∨ p.status = .Shipped → openings own = 0) := by
  induction life with
  | hold => exact ⟨Nat.zero_le 1, fun _ => rfl⟩
  | @move t q q' e life moves ih =>
    obtain ⟨atMost, none⟩ := ih
    rw [openings_snoc]
    cases moves with
    | openDispute status consent =>
      have before : openings t = 0 := by
        rcases status with held | ⟨shipped, _⟩
        · exact none (.inl held)
        · exact none (.inr shipped)
      rw [before]
      exact ⟨le_refl 1, fun waiting => by simp at waiting⟩
    | mark_shipped status operator => exact ⟨atMost, fun _ => none (.inl status)⟩
    | claim_refund owes => exact ⟨atMost, none⟩
    | release => exact ⟨atMost, fun waiting => by simp [closedAs] at waiting⟩
    | respond => exact ⟨atMost, fun waiting => by simp at waiting⟩
    | resolve => exact ⟨atMost, fun waiting => by simp [closedAs] at waiting⟩
    | expire => exact ⟨atMost, fun waiting => by simp [closedAs] at waiting⟩

/-- The lives without a dispute: held, then shipped, then paid to the store in full. -/
inductive Undisputed (config : Config) : List Entry → Purchase → Prop
  | held {h : Entry} {p : Purchase} (status : p.status = .Held) (owed : p.refund_owed = 0) (held : h.moved = []) :
      Undisputed config [h] p
  | shipped {h s : Entry} {p : Purchase} (status : p.status = .Shipped) (owed : p.refund_owed = 0)
      (held : h.moved = []) (shipped : s.moved = []) (call : s.call = .mark_shipped p.order_ref)
      (operator : s.env.authorised config.operator = true) (time : s.env.timestamp = p.shipped_at) :
      Undisputed config [h, s] p
  | released {h s r : Entry} {p : Purchase} (status : p.status = .Released) (owed : p.refund_owed = 0)
      (held : h.moved = []) (shipped : s.moved = []) (call : s.call = .mark_shipped p.order_ref)
      (operator : s.env.authorised config.operator = true) (time : s.env.timestamp = p.shipped_at)
      (release : r.call = .release p.order_ref)
      (due : saturating_add p.shipped_at config.release_window ≤ r.env.timestamp)
      (paid : r.moved = [⟨.payout, config.payee, p.amount⟩]) : Undisputed config [h, s, r] p

theorem life_undisputed (life : Life host id config own p) (never : openings own = 0) : Undisputed config own p := by
  induction life with
  | hold => exact .held rfl rfl rfl
  | @move t q q' e life moves ih =>
    rw [openings_snoc] at never
    have sound := life.sound
    have before := ih (by omega)
    cases moves with
    | openDispute => simp [opens] at never
    | mark_shipped status operator =>
      cases before with
      | held _ owed held => exact .shipped rfl owed held rfl rfl operator rfl
      | shipped here => rw [status] at here; cases here
      | released here => rw [status] at here; cases here
    | release status due =>
      cases before with
      | held here => rw [status] at here; cases here
      | shipped _ owed held shipped call operator time =>
        refine .released rfl rfl held shipped call operator time rfl due ?_
        simp [legs, leg, closedAs, sound.positive]
      | released here => rw [status] at here; cases here
    | respond status =>
      cases before with
      | held here => rw [status] at here; cases here
      | shipped here => rw [status] at here; cases here
      | released here => rw [status] at here; cases here
    | resolve status =>
      cases before with
      | held here => simp [here] at status
      | shipped here => simp [here] at status
      | released here => simp [here] at status
    | expire status =>
      cases before with
      | held here => simp [here] at status
      | shipped here => simp [here] at status
      | released here => simp [here] at status
    | claim_refund owes =>
      cases before with
      | held _ owed => omega
      | shipped _ owed => omega
      | released _ owed => omega

theorem opened_of_openings (life : Life host id config own p) (some : openings own ≠ 0) : OpenedByPayer host id own p := by
  obtain ⟨e, member, opening⟩ := List.countP_pos_iff.mp (Nat.pos_of_ne_zero some)
  cases called : e.call with
  | openDispute order_ref claim_hash sig =>
    obtain ⟨rfl, consent⟩ := life_consented life member called
    exact ⟨e, member, claim_hash, sig, called, consent⟩
  | _ =>
    rw [called] at opening
    cases opening

/-- What a payer can only get through a dispute of its own: an outcome of one, a
    refund, or the promise of a refund. -/
def Refunded (config : Config) (own : List Entry) (p : Purchase) : Prop :=
  p.status = .Resolved ∨ p.status = .Expired ∨ 0 < p.refund_owed ∨
    ∃ x ∈ transfers own, x.leg = .refund ∨ x.dst = p.payer ∧ p.payer ≠ config.payee

/-- Without a dispute the money leaves in full to the payee, by a release after
    `mark_shipped` and the whole claim window, or it stays. -/
def OnlyReleased (config : Config) (own : List Entry) (p : Purchase) : Prop :=
  transfers own = [] ∨ transfers own = [⟨.payout, config.payee, p.amount⟩] ∧
    ∃ h s r, own = [h, s, r] ∧ s.call = .mark_shipped p.order_ref ∧ s.env.authorised config.operator = true ∧
      r.call = .release p.order_ref ∧ saturating_add s.env.timestamp config.release_window ≤ r.env.timestamp

theorem Undisputed.onlyReleased (undisputed : Undisputed config own p) : OnlyReleased config own p := by
  cases undisputed with
  | held _ _ held => exact .inl (by simp [transfers, held])
  | shipped _ _ held shipped => exact .inl (by simp [transfers, held, shipped])
  | released _ _ held shipped call operator time release due paid =>
    refine .inr ⟨by simp [transfers, held, shipped, paid], _, _, _, rfl, call, operator, release, ?_⟩
    rw [time]
    exact due

theorem Undisputed.not_refunded (undisputed : Undisputed config own p) : ¬ Refunded config own p := by
  have owed : p.refund_owed = 0 := by cases undisputed <;> assumption
  have status : p.status ≠ .Resolved ∧ p.status ≠ .Expired := by
    cases undisputed with
    | held status => simp [status]
    | shipped status => simp [status]
    | released status => simp [status]
  rintro (resolved | expired | owes | ⟨x, member, party⟩)
  · exact status.1 resolved
  · exact status.2 expired
  · omega
  · rcases undisputed.onlyReleased with none | ⟨paid, _⟩
    · rw [none] at member
      cases member
    · rw [paid] at member
      rw [List.mem_singleton.mp member] at party
      rcases party with refund | ⟨payee, differ⟩
      · cases refund
      · exact differ payee.symm

/-! ### No way back -/

def rank : Status → Nat
  | .Held => 0
  | .Shipped => 1
  | .Disputed => 2
  | .Responded => 3
  | .Released | .Resolved | .Expired => 4

theorem moves_rank (moves : Moves host id config p e p') : rank p.status ≤ rank p'.status := by
  cases moves with
  | mark_shipped status =>
    rw [status]
    exact show rank .Held ≤ rank .Shipped by decide
  | release status =>
    rw [status]
    exact show rank .Shipped ≤ rank .Released by decide
  | openDispute status =>
    rcases status with held | ⟨shipped, _⟩
    · rw [held]
      exact show rank .Held ≤ rank .Disputed by decide
    · rw [shipped]
      exact show rank .Shipped ≤ rank .Disputed by decide
  | respond status =>
    rw [status]
    exact show rank .Disputed ≤ rank .Responded by decide
  | resolve status =>
    rcases status with responded | ⟨disputed, _⟩
    · rw [responded]
      exact show rank .Responded ≤ rank .Resolved by decide
    · rw [disputed]
      exact show rank .Disputed ≤ rank .Resolved by decide
  | expire status =>
    rcases status with disputed | responded
    · rw [disputed]
      exact show rank .Disputed ≤ rank .Expired by decide
    · rw [responded]
      exact show rank .Responded ≤ rank .Expired by decide
  | claim_refund => exact le_refl _

/-- A later purchase under an order is the same one, no less far. -/
structure Continues (p p' : Purchase) : Prop where
  order_ref : p'.order_ref = p.order_ref
  payer : p'.payer = p.payer
  amount : p'.amount = p.amount
  further : rank p.status ≤ rank p'.status

theorem Continues.trans {q : Purchase} (first : Continues p q) (second : Continues q p') : Continues p p' :=
  ⟨second.order_ref.trans first.order_ref, second.payer.trans first.payer, second.amount.trans first.amount,
    first.further.trans second.further⟩

/-- A purchase that nobody can dispute any more stays so. -/
theorem Continues.no_return (continues : Continues p p') (notHeld : p.status ≠ .Held) (notShipped : p.status ≠ .Shipped) :
    p'.status ≠ .Held ∧ p'.status ≠ .Shipped := by
  have past : 2 ≤ rank p.status := by
    cases status : p.status with
    | Held => exact absurd status notHeld
    | Shipped => exact absurd status notShipped
    | _ => decide
  have further := past.trans continues.further
  constructor
  · intro held
    rw [held] at further
    exact absurd further (by decide)
  · intro shipped
    rw [shipped] at further
    exact absurd further (by decide)

theorem continues_step (solvent : Solvent w) (found : get w order_ref = some p) (action : Action host)
    : ∃ p', get (step w action).1 order_ref = some p' ∧ Continues p p' := by
  have same : Continues p p := ⟨rfl, rfl, rfl, le_rfl⟩
  cases action with
  | call env call =>
    simp only [step]
    cases ran : invoke env call w with
    | ok after =>
      have effect := invoke_cases solvent.stored ran
      by_cases about : call.order_ref = order_ref
      · subst about
        obtain ⟨p', moves, stored⟩ := effect_found effect found
        obtain ⟨_, order, payer, amount⟩ := moves.identity
        exact ⟨p', stored, order, payer, amount, moves_rank moves⟩
      · exact ⟨p, (effect_other solvent.stored effect (Ne.symm about)).trans found, same⟩
    | error failure => exact ⟨p, found, same⟩
  | external token =>
    simp only [step]
    split_ifs
    · exact ⟨p, found, same⟩
    · exact ⟨p, found, same⟩

/-- An order is never freed, and its purchase never goes back. -/
theorem run_continues (solvent : Solvent w) (found : get w order_ref = some p)
    (later : List (Action host)) : ∃ p', get (run w later).1 order_ref = some p' ∧ Continues p p' := by
  have ending := Traces.exec_invariant
    (I := fun w => Solvent w ∧ ∃ p', get w order_ref = some p' ∧ Continues p p')
    (fun w action ⟨solvent, q, stored, continues⟩ => by
      obtain ⟨p', next, further⟩ := continues_step solvent stored action
      exact ⟨solvent_step solvent action, p', next, continues.trans further⟩)
    ⟨solvent, p, found, rfl, rfl, rfl, le_rfl⟩ later
  exact ending.2

/-! ### One signature, one dispute -/

/-- `open_message` tells escrows, claims and orders apart: only its last part varies in length. -/
theorem openMessage_injective {id id' : BytesN 32} {order_ref order_ref' : Bytes} {claim_hash' : BytesN 32}
    (same : openMessage id order_ref claim_hash = openMessage id' order_ref' claim_hash') :
    id = id' ∧ claim_hash = claim_hash' ∧ order_ref = order_ref' := by
  unfold openMessage at same
  rw [List.append_assoc, List.append_assoc, List.append_assoc, List.append_assoc] at same
  have tail := List.append_cancel_left same
  obtain ⟨sameId, tail⟩ := List.append_inj tail (id.2.trans id'.2.symm)
  obtain ⟨sameClaim, sameOrder⟩ := List.append_inj tail (claim_hash.2.trans claim_hash'.2.symm)
  exact ⟨Subtype.ext sameId, Subtype.ext sameClaim, sameOrder⟩

/-- A successful `open` for the rail of `owner`, with this signature, in the calls `t` of
    the escrow `id`. -/
def OpenedWith (t : List Entry) (order_ref : Bytes) (claim_hash : BytesN 32) (payer : Address) (owner : BytesN 32)
    (sig : BytesN 64) : Prop :=
  ∃ e ∈ t, e.call = .openDispute order_ref claim_hash (some sig) ∧ e.env.owner payer = some owner

section
variable {t : List Entry} {order_ref : Bytes} {claim_hash rail owner : BytesN 32} {sig : BytesN 64}

/-- The owner of the rail has signed the message of this escrow, claim and order. -/
theorem openedWith_signed {verify : BytesN 32 → Bytes → BytesN 64 → Bool} (sameCheck : host.ed25519_verify = verify)
    (log : SigningLog verify) (life : Life host id config (onAccount order_ref t) p)
    (isRail : p.payer = .contract rail) (opened : OpenedWith t order_ref claim_hash p.payer owner sig) :
    log.signed owner (openMessage id order_ref claim_hash) sig ∧ openings (onAccount order_ref t) = 1 := by
  obtain ⟨e, listed, called, ownerIs⟩ := opened
  have member : e ∈ onAccount order_ref t := List.mem_filter.mpr ⟨listed, by simp [called, Call.order_ref]⟩
  obtain ⟨rfl, consent⟩ := life_consented life member called
  constructor
  · unfold Consented at consent
    rw [isRail] at consent ownerIs
    obtain ⟨key, s, keyIs, sigIs, verified⟩ := consent
    rw [ownerIs] at keyIs
    cases keyIs
    cases sigIs
    rw [sameCheck] at verified
    exact log.unforgeable verified
  · have some : 0 < openings (onAccount p.order_ref t) := List.countP_pos_iff.mpr ⟨e, member, by rw [called]; rfl⟩
    have atMost := (life_openings life).1
    omega

end

/-- Consent to disputes, over any family of escrows. Refunds and judgements need the
    payer's own `open`, the message of a signature names its dispute, and one
    signature of one owner opens at most one dispute of all of them. -/
theorem runs_need_consent {ι : Type} {hosts : ι → Host} {verify : BytesN 32 → Bytes → BytesN 64 → Bool}
    (sameCheck : ∀ i, (hosts i).ed25519_verify = verify) (log : SigningLog verify) (oneMessage : log.OneMessage)
    {w₀ : ∀ i, World (hosts i)} (deployed : ∀ i, Deployed (w₀ i)) (distinct : ∀ i j, (w₀ i).id = (w₀ j).id → i = j)
    (actions : ∀ i, List (Action (hosts i))) : (∀ i order_ref p, get (run (w₀ i) (actions i)).1 order_ref = some p →
      let own := onAccount order_ref (run (w₀ i) (actions i)).2
      (Refunded (w₀ i).config own p → OpenedByPayer (hosts i) (w₀ i).id own p) ∧
      (¬ OpenedByPayer (hosts i) (w₀ i).id own p → OnlyReleased (w₀ i).config own p) ∧
      ∀ later, ∃ p', get (run (run (w₀ i) (actions i)).1 later).1 order_ref = some p' ∧ p'.payer = p.payer ∧
        (p.status ≠ .Held → p.status ≠ .Shipped → p'.status ≠ .Held ∧ p'.status ≠ .Shipped)) ∧
    (∀ id id' order_ref order_ref' claim_hash claim_hash',
      openMessage id order_ref claim_hash = openMessage id' order_ref' claim_hash' →
      id = id' ∧ claim_hash = claim_hash' ∧ order_ref = order_ref') ∧
    (∀ i j order_ref order_ref' claim_hash claim_hash' p p' rail rail' owner sig,
      get (run (w₀ i) (actions i)).1 order_ref = some p → get (run (w₀ j) (actions j)).1 order_ref' = some p' →
      p.payer = .contract rail → p'.payer = .contract rail' →
      OpenedWith (run (w₀ i) (actions i)).2 order_ref claim_hash p.payer owner sig →
      OpenedWith (run (w₀ j) (actions j)).2 order_ref' claim_hash' p'.payer owner sig →
      i = j ∧ order_ref = order_ref' ∧ claim_hash = claim_hash' ∧
        openings (onAccount order_ref (run (w₀ i) (actions i)).2) = 1) := by
  have recorded : ∀ i, Recorded (w₀ i).id (w₀ i).config (run (w₀ i) (actions i)).1 (run (w₀ i) (actions i)).2 :=
    fun i => run_recorded (deployed i) (actions i)
  refine ⟨?_, fun _ _ _ _ _ _ same => openMessage_injective same, ?_⟩
  · intro i order_ref p found own
    have life := (recorded i).life order_ref p found
    refine ⟨fun refunded => ?_, fun unopened => ?_, fun later => ?_⟩
    · refine opened_of_openings life fun never => ?_
      exact (life_undisputed life never).not_refunded refunded
    · by_cases never : openings own = 0
      · exact (life_undisputed life never).onlyReleased
      · exact absurd (opened_of_openings life never) unopened
    · obtain ⟨p', stored, continues⟩ := run_continues (recorded i).solvent found later
      exact ⟨p', stored, continues.payer, continues.no_return⟩
  · intro i j order_ref order_ref' claim_hash claim_hash' p p' rail rail' owner sig found found' isRail isRail' opened
      opened'
    obtain ⟨signed, once⟩ := openedWith_signed (sameCheck i) log ((recorded i).life _ p found) isRail opened
    obtain ⟨signed', _⟩ := openedWith_signed (sameCheck j) log ((recorded j).life _ p' found') isRail' opened'
    obtain ⟨sameId, sameClaim, sameOrder⟩ := openMessage_injective (oneMessage signed signed')
    exact ⟨distinct i j sameId, sameOrder, sameClaim, once⟩

def sampleLog : SigningLog sampleHost.ed25519_verify where
  signed _ message _ := message = OPEN_DOMAIN.1 ++ sampleId.1 ++ sampleHash.1 ++ [1]
  unforgeable verified := (of_decide_eq_true verified).2

def sampleOpen : List (Action sampleHost) :=
  [.call (sampleEnv 0) (.hold [1] (.contract sampleId) 60 sampleHash sampleHash),
    .call (sampleEnv 1) (.openDispute [1] sampleHash (some EscrowDeadlines.sampleSignature))]

/-- The signature of the sample dispute has opened one dispute. -/
theorem runs_need_consent_sample : openings (onAccount [1] (run sampleWorld sampleOpen).2) = 1 := by
  have opened : OpenedWith (run sampleWorld sampleOpen).2 [1] sampleHash (.contract sampleId)
      ⟨List.replicate 32 1, rfl⟩ EscrowDeadlines.sampleSignature := ⟨_, List.mem_cons_of_mem _ List.mem_cons_self, rfl, rfl⟩
  exact ((runs_need_consent (fun (_ : Unit) => rfl) sampleLog
    (fun signed signed' => signed.trans signed'.symm) (fun _ => sampleWorld_deployed) (fun _ _ _ => rfl)
    (fun _ => sampleOpen)).2.2 ⟨⟩ ⟨⟩ [1] [1] _ _ _ _ _ _ _ _ rfl rfl rfl rfl opened opened).2.2.2

end AgentPey.EscrowConsent
