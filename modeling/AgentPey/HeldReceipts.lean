import AgentPey.RealPayments

/-!
What becomes of a receipt that a gateway has issued: it is signed, its own calls have anchored and held it, and no later
call of anybody takes that back. So an escrow holds one receipt for a payment, for ever.
-/
namespace AgentPey.HeldReceipts
open Soroban Store Receipts ReceiptChecks ReceiptHistories RealPayments EscrowLife EscrowCalls EscrowHistory
open PurchaseEscrow (Host World Purchase Action Entry step run Config)
open MandateAnchor (hexDigits)

variable {host : Host}

/-! ### Purchases that stay -/

/-- What of a purchase no call changes. -/
structure SamePurchase (p p' : Purchase) : Prop where
  order_ref : p'.order_ref = p.order_ref
  payer : p'.payer = p.payer
  amount : p'.amount = p.amount
  receipt_hash : p'.receipt_hash = p.receipt_hash

theorem samePurchase_moves {id : BytesN 32} {config : Config} {p p' : Purchase} {e : Entry}
    (moves : Moves host id config p e p') : SamePurchase p p' := by
  cases moves <;> exact ⟨rfl, rfl, rfl, rfl⟩

section
variable {id : BytesN 32} {config : Config} {w : World host} {t : List Entry} {tx : BytesN 32} {ref key : Bytes} {p : Purchase}

section
variable (recorded : Recorded id config w t)
include recorded

theorem step_payments (paid : w.payments.lookup tx = some ref) (a : Action host) :
    (step w a).1.payments.lookup tx = some ref := by
  cases a with
  | external token =>
    simp only [step]
    split_ifs
    · exact paid
    · exact paid
  | call env call =>
    simp only [step]
    cases ran : PurchaseEscrow.invoke env call w with
    | error failure => exact paid
    | ok after =>
      cases invoke_cases recorded.solvent.stored ran with
      | @hold _ _ _ other _ _ records =>
        change after.payments.lookup tx = some ref
        rw [records.payments, lookup_insert, if_neg, paid]
        rintro rfl
        rw [records.unpaid] at paid
        cases paid
      | @move _ _ _ _ _ _ updates =>
        change after.payments.lookup tx = some ref
        rw [updates.payments]
        exact paid

theorem step_purchases (found : w.purchases.lookup key = some p) (a : Action host) :
    ∃ q, (step w a).1.purchases.lookup key = some q ∧ SamePurchase p q := by
  obtain ⟨q, there, same | ⟨e, moves⟩⟩ := EscrowEvents.step_purchase recorded found a
  · rw [same] at there
    exact ⟨p, there, rfl, rfl, rfl, rfl⟩
  · exact ⟨q, there, samePurchase_moves moves⟩

theorem run_holds (paid : w.payments.lookup tx = some ref) (found : w.purchases.lookup key = some p)
    (actions : List (Action host)) : (run w actions).1.payments.lookup tx = some ref ∧
      ∃ q, (run w actions).1.purchases.lookup key = some q ∧ SamePurchase p q := by
  let Held (w' : World host) (t' : List Entry) : Prop := Recorded id config w' (t ++ t') ∧
    w'.payments.lookup tx = some ref ∧ ∃ q, w'.purchases.lookup key = some q ∧ SamePurchase p q
  have along : Held (run w actions).1 (run w actions).2 := Traces.exec_trace_invariant (I := Held)
    (fun w' t' a holds => by
      obtain ⟨recorded, paid, q, found, same⟩ := holds
      obtain ⟨r, there, later⟩ := step_purchases recorded found a
      refine ⟨?_, step_payments recorded paid a, r, there, ?_⟩
      · have next := recorded_step recorded a
        rwa [List.append_assoc] at next
      · exact ⟨later.1.trans same.1, later.2.trans same.2, later.3.trans same.3, later.4.trans same.4⟩)
    ⟨by simpa using recorded, paid, p, found, rfl, rfl, rfl, rfl⟩ actions
  exact along.2

end

end

/-! ### One receipt for a payment -/

section
variable {lib : Libraries}

variable {txHash : String} {p : EscrowPurchase}

theorem byTx_ok {w : World host} (read : (escrowReader lib w).byTx txHash = .ok (some p)) :
    ∃ tx ref q, hashToBytes txHash = .ok tx ∧ w.payments.lookup tx = some ref ∧
      w.purchases.lookup (utf8Bytes (utf8Text lib ref)) = some q ∧ p.receiptHash = hexDigits q.receipt_hash := by
  unfold escrowReader at read
  dsimp only at read
  cases decoded : hashToBytes txHash with
  | error e =>
    rw [decoded] at read
    cases read
  | ok tx =>
    rw [decoded] at read
    dsimp only [bind, Except.bind] at read
    cases paid : w.payments.lookup tx with
    | none =>
      rw [paid] at read
      cases read
    | some ref =>
      rw [paid] at read
      dsimp only at read
      cases found : w.purchases.lookup (utf8Bytes (utf8Text lib ref)) with
      | none =>
        rw [found] at read
        cases read
      | some q =>
        rw [found] at read
        dsimp only at read
        unfold decodePurchase at read
        split at read
        · cases read
        · cases read
          exact ⟨tx, ref, q, rfl, paid, found, rfl⟩

/-- An escrow names the same receipt for a payment ever after. -/
theorem byTx_later (d : Deployment host) (more : List (Action host)) {p' : EscrowPurchase}
    (read : (escrowReader lib d.now).byTx txHash = .ok (some p))
    (later : (escrowReader lib (run d.world (d.actions ++ more)).1).byTx txHash = .ok (some p')) :
    p'.receiptHash = p.receiptHash := by
  obtain ⟨tx, ref, q, decoded, paid, found, hash⟩ := byTx_ok read
  obtain ⟨tx', ref', q', decoded', paid', found', hash'⟩ := byTx_ok later
  rw [decoded] at decoded'
  cases decoded'
  have split : (run d.world (d.actions ++ more)).1 = (run d.now more).1 := by
    rw [run, Traces.exec_append]
    rfl
  have recorded : Recorded d.world.id d.world.config d.now (run d.world d.actions).2 := run_recorded d.deployed d.actions
  obtain ⟨stays, r, there, same⟩ := run_holds recorded paid found more
  rw [split, stays] at paid'
  cases paid'
  rw [split, there] at found'
  cases found'
  rw [hash, hash', same.receipt_hash]

end

end AgentPey.HeldReceipts
