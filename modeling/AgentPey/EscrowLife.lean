import AgentPey.PurchaseEscrow

/-!
The life of one purchase: what each call may make of it, under which conditions
and with which transfers. `invoke_cases` says that a successful call of the
contract is one such move of one purchase and changes nothing else; whatever
holds of every life then holds in every run.
-/
namespace AgentPey.EscrowLife
open Soroban Store Tokens PurchaseEscrow

variable {host : Host}

def isOpen : Status → Bool
  | .Held | .Shipped | .Disputed | .Responded => true
  | .Released | .Resolved | .Expired => false

/-- What a purchase keeps aside: its amount while it is open, then what it owes. -/
def keptAside (p : Purchase) : Int := if isOpen p.status then p.amount else p.refund_owed

variable {p : Purchase}

theorem keptAside_open (opened : isOpen p.status = true) : keptAside p = p.amount := if_pos opened

theorem keptAside_closed (closed : isOpen p.status = false) : keptAside p = p.refund_owed :=
  if_neg (by rw [closed]; decide)

section
variable {p : Purchase} {c : Prop}

theorem isOpen_of_early (early : p.status = .Held ∨ p.status = .Shipped ∧ c) : isOpen p.status = true := by
  rcases early with held | ⟨shipped, _⟩
  · rw [held]; rfl
  · rw [shipped]; rfl

theorem isOpen_of_ready (ready : p.status = .Responded ∨ p.status = .Disputed ∧ c) : isOpen p.status = true := by
  rcases ready with responded | ⟨disputed, _⟩
  · rw [responded]; rfl
  · rw [disputed]; rfl

theorem isOpen_of_disputed (disputed : p.status = .Disputed ∨ p.status = .Responded) : isOpen p.status = true := by
  rcases disputed with here | here
  · rw [here]; rfl
  · rw [here]; rfl

end

def leg (kind : Leg) (dst : Address) (amount : Int) : List Transfer :=
  if 0 < amount then [⟨kind, dst, amount⟩] else []

/-- The transfers of an outcome: the refund unless it is owed, then the rest. -/
def legs (config : Config) (p : Purchase) (refund owed : Int) : List Transfer :=
  leg .refund p.payer (refund - owed) ++ leg .payout config.payee (p.amount - refund)

/-- The bytes of `open_message` on the contract with that id. -/
def openMessage (id : BytesN 32) (order_ref : Bytes) (claim_hash : BytesN 32) : Bytes :=
  OPEN_DOMAIN.1 ++ id.1 ++ claim_hash.1 ++ order_ref

/-- The payer's own consent to a dispute: an account authorises the call, and the
    owner of a rail signs the message of this escrow, claim and order. -/
def Consented (host : Host) (id : BytesN 32) (env : Env) (p : Purchase) (claim_hash : BytesN 32)
    (sig : Option (BytesN 64)) : Prop :=
  match p.payer with
  | .account _ => env.authorised p.payer = true
  | .contract _ => ∃ owner s, env.owner p.payer = some owner ∧ sig = some s ∧
      host.ed25519_verify owner (openMessage id p.order_ref claim_hash) s = true
  | .unknown _ => False

/-- What one successful call may make of a purchase, and what the token moves for it. -/
inductive Moves (host : Host) (id : BytesN 32) (config : Config) : Purchase → Entry → Purchase → Prop
  | mark_shipped {p : Purchase} {env : Env} (status : p.status = .Held)
      (operator : env.authorised config.operator = true) :
      Moves host id config p ⟨env, .mark_shipped p.order_ref, []⟩
        { p with status := .Shipped, shipped_at := env.timestamp }
  | release {p : Purchase} {env : Env} (status : p.status = .Shipped)
      (due : saturating_add p.shipped_at config.release_window ≤ env.timestamp) :
      Moves host id config p ⟨env, .release p.order_ref, legs config p 0 0⟩
        (closedAs p .Released 0 0 env.timestamp)
  | openDispute {p : Purchase} {env : Env} {claim_hash : BytesN 32} {sig : Option (BytesN 64)}
      (status : p.status = .Held ∨
        p.status = .Shipped ∧ env.timestamp < saturating_add p.shipped_at config.release_window)
      (consent : Consented host id env p claim_hash sig) :
      Moves host id config p ⟨env, .openDispute p.order_ref claim_hash sig, []⟩
        { p with status := .Disputed, claim_hash := some claim_hash, opened_at := env.timestamp }
  | respond {p : Purchase} {env : Env} {response_hash : BytesN 32} (status : p.status = .Disputed)
      (payee : env.authorised config.payee = true)
      (inTime : env.timestamp ≤ saturating_add p.opened_at config.response_window) :
      Moves host id config p ⟨env, .respond p.order_ref response_hash, []⟩
        { p with status := .Responded, response_hash := some response_hash }
  | resolve {p : Purchase} {env : Env} {verdict_hash : BytesN 32} {refund owed : Int}
      (status : p.status = .Responded ∨
        p.status = .Disputed ∧ saturating_add p.opened_at config.response_window < env.timestamp)
      (arbiter : env.authorised config.arbiter = true)
      (inTime : env.timestamp ≤ resolve_deadline config p) (nonneg : 0 ≤ refund) (atMost : refund ≤ p.amount)
      (debt : owed = 0 ∨ owed = refund) :
      Moves host id config p ⟨env, .resolve p.order_ref verdict_hash refund, legs config p refund owed⟩
        (closedAs { p with verdict_hash := some verdict_hash } .Resolved refund owed env.timestamp)
  | expire {p : Purchase} {env : Env} {owed : Int} (status : p.status = .Disputed ∨ p.status = .Responded)
      (late : resolve_deadline config p < env.timestamp) (debt : owed = 0 ∨ owed = p.amount) :
      Moves host id config p ⟨env, .expire p.order_ref, legs config p p.amount owed⟩
        (closedAs p .Expired p.amount owed env.timestamp)
  | claim_refund {p : Purchase} {env : Env} (owes : 0 < p.refund_owed) :
      Moves host id config p ⟨env, .claim_refund p.order_ref, [⟨.refund, p.payer, p.refund_owed⟩]⟩
        { p with refund_owed := 0 }

/-- What holds of every purchase the contract stores. -/
structure Sound (p : Purchase) : Prop where
  positive : 0 < p.amount
  refund_nonneg : 0 ≤ p.refund
  refund_le : p.refund ≤ p.amount
  owed_nonneg : 0 ≤ p.refund_owed
  owed_le : p.refund_owed ≤ p.refund
  open_refund : isOpen p.status = true → p.refund = 0
  released_refund : p.status = .Released → p.refund = 0
  expired_refund : p.status = .Expired → p.refund = p.amount

theorem Sound.open_owed (sound : Sound p) (opened : isOpen p.status = true) : p.refund_owed = 0 := by
  have := sound.open_refund opened
  have := sound.owed_nonneg
  have := sound.owed_le
  omega

theorem Sound.keptAside_nonneg (sound : Sound p) : 0 ≤ keptAside p := by
  unfold keptAside
  split_ifs
  · exact sound.positive.le
  · exact sound.owed_nonneg

theorem sound_fresh {order_ref : Bytes} {payer : Address} {amount : Int} {tx_hash receipt_hash : BytesN 32} {held_at : UInt64}
    (positive : 0 < amount) : Sound (fresh order_ref payer amount tx_hash receipt_hash held_at) := by
  constructor <;> simp [fresh, positive, positive.le]

theorem Sound.closed_of_owes (sound : Sound p) (owes : 0 < p.refund_owed) : isOpen p.status = false := by
  by_contra opened
  have := sound.open_owed (by simpa using opened)
  omega

variable {id : BytesN 32} {config : Config} {p' : Purchase} {e : Entry}

theorem Moves.identity {p : Purchase} (moves : Moves host id config p e p') :
    e.call.order_ref = p.order_ref ∧ p'.order_ref = p.order_ref ∧ p'.payer = p.payer ∧ p'.amount = p.amount := by
  cases moves <;> exact ⟨rfl, rfl, rfl, rfl⟩

theorem Moves.opened {p : Purchase} (moves : Moves host id config p e p') : isOpen p.status = true ∨
      0 < p.refund_owed ∧ p' = { p with refund_owed := 0 } ∧ e.moved = [⟨.refund, p.payer, p.refund_owed⟩] := by
  cases moves with
  | mark_shipped status _ => exact .inl (by rw [status]; rfl)
  | release status _ => exact .inl (by rw [status]; rfl)
  | openDispute status _ => exact .inl (isOpen_of_early status)
  | respond status _ _ => exact .inl (by rw [status]; rfl)
  | resolve status _ _ _ _ _ => exact .inl (isOpen_of_ready status)
  | expire status _ _ => exact .inl (isOpen_of_disputed status)
  | claim_refund owes => exact .inr ⟨owes, rfl, rfl⟩

theorem Moves.sound {p : Purchase} (moves : Moves host id config p e p') (sound : Sound p) : Sound p' := by
  obtain ⟨positive, refund_nonneg, refund_le, owed_nonneg, owed_le, open_refund, released_refund, expired_refund⟩ :=
    sound
  cases moves with
  | mark_shipped status _ =>
    have none := open_refund (by rw [status]; rfl)
    constructor <;> simp_all [isOpen]
  | release status _ => constructor <;> simp_all [isOpen, closedAs, positive.le]
  | openDispute status _ =>
    have none := open_refund (isOpen_of_early status)
    constructor <;> simp_all [isOpen]
  | respond status _ _ =>
    have none := open_refund (by rw [status]; rfl)
    constructor <;> simp_all [isOpen]
  | resolve status _ _ nonneg atMost debt =>
    constructor <;> simp only [closedAs, isOpen] <;> first | omega | simp
  | expire status _ debt =>
    constructor <;> simp only [closedAs, isOpen] <;> first | omega | simp
  | claim_refund owes =>
    constructor <;> simp_all

end AgentPey.EscrowLife
