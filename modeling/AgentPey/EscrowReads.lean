import AgentPey.EscrowReleases
import AgentPey.ReceiptChecks

/-!
What a reader of the escrow sees (`vitrinee-anchor/src/escrow.ts`): a purchase and the configuration, decoded. Times are
whole numbers of seconds, and none of a time that was not set. Past the last date a double may round them; they are
compared with dates only. Whatever a run stores is read.
-/
namespace AgentPey.EscrowReads
open Soroban Store PurchaseEscrow EscrowLife EscrowSolvency EscrowHistory
open EscrowEvents (EscrowStatus statusMap Referable decodePurchase_sound step_purchase step_new Moved)
open EscrowReleases (orNull)

structure EscrowPurchase where
  orderRef : Bytes
  payer : Address
  amountAtomic : Int
  txHash : BytesN 32
  receiptHash : BytesN 32
  status : EscrowStatus
  heldAt : Nat
  shippedAt : Option Nat
  claimHash : Option (BytesN 32)
  openedAt : Option Nat
  responseHash : Option (BytesN 32)
  verdictHash : Option (BytesN 32)
  refundAtomic : Int
  refundOwedAtomic : Int
  closedAt : Option Nat
  deriving DecidableEq

structure EscrowConfig where
  operator : Address
  payee : Address
  arbiter : Address
  token : Address
  releaseWindowSeconds : Nat
  responseWindowSeconds : Nat
  resolveWindowSeconds : Nat
  wasmHash : Option String
  deriving DecidableEq

/-- What `decodePurchase` answers for a purchase that passes its schema. -/
def asRead (p : Purchase) : EscrowPurchase where
  orderRef := p.order_ref
  payer := p.payer
  amountAtomic := p.amount
  txHash := p.tx_hash
  receiptHash := p.receipt_hash
  status := statusMap p.status
  heldAt := p.held_at.toNat
  shippedAt := orNull p.shipped_at.toNat
  claimHash := p.claim_hash
  openedAt := orNull p.opened_at.toNat
  responseHash := p.response_hash
  verdictHash := p.verdict_hash
  refundAtomic := p.refund
  refundOwedAtomic := p.refund_owed
  closedAt := orNull p.closed_at.toNat

def decodePurchase (p : Purchase) : Option EscrowPurchase := (EscrowEvents.decodePurchase p).map fun _ => asRead p

def decodeEscrowConfig (c : Config) (wasmHash : Option String) : Option EscrowConfig :=
  if 0 < c.release_window ∧ 0 < c.response_window ∧ 0 < c.resolve_window then
    some ⟨c.operator, c.payee, c.arbiter, c.token, c.release_window.toNat, c.response_window.toNat,
      c.resolve_window.toNat, wasmHash⟩
  else none

/-! ### Runs are read -/

section
variable {host : Host} {w₀ : World host} {order_ref : Bytes} {p : Purchase}

section
variable (deployed : Deployed w₀) (actions : List (Action host))
include deployed actions

theorem run_referable :
    ∀ order_ref p, get (run w₀ actions).1 order_ref = some p → p.order_ref = order_ref ∧ Referable order_ref := by
  induction actions using List.reverseRecOn with
  | nil =>
    intro order_ref p found
    change w₀.purchases.lookup order_ref = some p at found
    rw [(deployed_ok deployed).2.1] at found
    cases found
  | append_singleton before action ih =>
    intro order_ref p found
    have recorded := run_recorded deployed before
    have one : (run w₀ (before ++ [action])).1 = (step (run w₀ before).1 action).1 := by
      rw [run, Traces.exec_append]
      rfl
    rw [one] at found
    cases earlier : get (run w₀ before).1 order_ref with
    | none => exact (step_new recorded earlier found).2
    | some q =>
      obtain ⟨named, referable⟩ := ih order_ref q earlier
      obtain ⟨p', kept, same⟩ := step_purchase recorded earlier action
      obtain rfl : p = p' := by simpa [found] using kept
      rcases same with rfl | ⟨e, moves⟩
      · exact ⟨named, referable⟩
      · exact ⟨moves.identity.2.1.trans named, referable⟩

theorem decodePurchase_run (found : get (run w₀ actions).1 order_ref = some p) : decodePurchase p = some (asRead p) := by
  obtain ⟨named, referable⟩ := run_referable deployed actions order_ref p found
  have sound : Sound p := ((run_recorded deployed actions).life order_ref p found).sound
  rw [decodePurchase, decodePurchase_sound sound (named ▸ referable), Option.map_some]

theorem decodeEscrowConfig_run (wasmHash : Option String) : decodeEscrowConfig (run w₀ actions).1.config wasmHash =
      some ⟨w₀.config.operator, w₀.config.payee, w₀.config.arbiter, w₀.config.token, w₀.config.release_window.toNat,
        w₀.config.response_window.toNat, w₀.config.resolve_window.toNat, wasmHash⟩ := by
  obtain ⟨_, _, release, response, resolve⟩ := deployed_ok deployed
  rw [(run_recorded deployed actions).sameConfig, decodeEscrowConfig, if_pos]
  exact ⟨UInt64.pos_iff_ne_zero.mpr release, UInt64.pos_iff_ne_zero.mpr response, UInt64.pos_iff_ne_zero.mpr resolve⟩

end

end

end AgentPey.EscrowReads
