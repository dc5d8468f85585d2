import AgentPey.EscrowReads

/-!
The two hashes of a dispute in the escrow. A claim's hash is stored once, when the dispute opens, and a response's once, when
the payee answers; neither changes afterwards, whoever calls the contract.
-/
namespace AgentPey.EscrowDocuments
open Soroban PurchaseEscrow EscrowLife EscrowSolvency EscrowHistory
open EscrowEvents (step_purchase Moved)

variable {host : Host}

section
variable {id : BytesN 32} {config : Config} {p p' p'' : Purchase} {e : Entry} {t : List Entry}

/-- No claim before a dispute, and no response before it is answered. -/
structure Undisputed (p : Purchase) : Prop where
  unclaimed : p.status = .Held ∨ p.status = .Shipped → p.claim_hash = none
  unanswered : p.status = .Held ∨ p.status = .Shipped ∨ p.status = .Disputed → p.response_hash = none

theorem undisputed_move (undisputed : Undisputed p) (moves : Moves host id config p e p') : Undisputed p' := by
  cases moves with
  | mark_shipped status =>
    exact ⟨fun _ => undisputed.unclaimed (.inl status), fun _ => undisputed.unanswered (.inl status)⟩
  | release status => exact ⟨by simp [closedAs], by simp [closedAs]⟩
  | openDispute status =>
    refine ⟨by simp, fun _ => undisputed.unanswered ?_⟩
    rcases status with held | ⟨shipped, _⟩
    · exact .inl held
    · exact .inr (.inl shipped)
  | respond status => exact ⟨by simp, by simp⟩
  | resolve status => exact ⟨by simp [closedAs], by simp [closedAs]⟩
  | expire status => exact ⟨by simp [closedAs], by simp [closedAs]⟩
  | claim_refund owes => exact ⟨undisputed.unclaimed, undisputed.unanswered⟩

theorem undisputed_life (life : Life host id config t p) : Undisputed p := by
  induction life with
  | hold => exact ⟨fun _ => rfl, fun _ => rfl⟩
  | move _ moves ih => exact undisputed_move ih moves

/-- What was stored of a dispute stays, and the amount with it. -/
structure Lasts (p p' : Purchase) : Prop where
  claim : ∀ hash, p.claim_hash = some hash → p'.claim_hash = some hash
  response : ∀ hash, p.response_hash = some hash → p'.response_hash = some hash
  amount : p'.amount = p.amount

theorem Lasts.refl (p : Purchase) : Lasts p p := ⟨fun _ stored => stored, fun _ stored => stored, rfl⟩

theorem Lasts.trans (first : Lasts p p') (second : Lasts p' p'') : Lasts p p'' where
  claim hash stored := second.claim hash (first.claim hash stored)
  response hash stored := second.response hash (first.response hash stored)
  amount := second.amount.trans first.amount

theorem lasts_move (undisputed : Undisputed p) (moves : Moves host id config p e p') : Lasts p p' := by
  cases moves with
  | mark_shipped => exact ⟨fun _ stored => stored, fun _ stored => stored, rfl⟩
  | release => exact ⟨fun _ stored => stored, fun _ stored => stored, rfl⟩
  | openDispute status =>
    refine ⟨fun hash stored => ?_, fun _ stored => stored, rfl⟩
    have none : p.claim_hash = none := undisputed.unclaimed (status.imp_right And.left)
    rw [none] at stored
    cases stored
  | respond status =>
    refine ⟨fun _ stored => stored, fun hash stored => ?_, rfl⟩
    rw [undisputed.unanswered (.inr (.inr status))] at stored
    cases stored
  | resolve => exact ⟨fun _ stored => stored, fun _ stored => stored, rfl⟩
  | expire => exact ⟨fun _ stored => stored, fun _ stored => stored, rfl⟩
  | claim_refund => exact ⟨fun _ stored => stored, fun _ stored => stored, rfl⟩

end

theorem run_lasts {w₀ : World host} (deployed : Deployed w₀) {before : List (Action host)} {order_ref : Bytes} {p : Purchase}
    (found : get (run w₀ before).1 order_ref = some p) (more : List (Action host)) :
    ∃ p', get (run w₀ (before ++ more)).1 order_ref = some p' ∧ Lasts p p' := by
  induction more using List.reverseRecOn with
  | nil => exact ⟨p, by rwa [List.append_nil], Lasts.refl p⟩
  | append_singleton middle action ih =>
    obtain ⟨q, there, lasts⟩ := ih
    have recorded := run_recorded deployed (before ++ middle)
    have one : (run w₀ (before ++ (middle ++ [action]))).1 = (step (run w₀ (before ++ middle)).1 action).1 := by
      rw [← List.append_assoc, run, Traces.exec_append]
      rfl
    obtain ⟨p', here, same⟩ := step_purchase recorded there action
    rw [one]
    rcases same with rfl | ⟨e, moves⟩
    · exact ⟨_, here, lasts⟩
    · exact ⟨p', here, lasts.trans (lasts_move (undisputed_life (recorded.life order_ref q there)) moves)⟩

end AgentPey.EscrowDocuments
