import AgentPey.Soroban
import Mathlib.Algebra.Order.BigOperators.Group.List

/-!
Fungible tokens as other contracts use them: balances, addresses that can or
cannot receive, and a transfer that moves exactly the amount or fails with no
change. What a token does inside is a parameter; the laws say what its callers
rely on.
-/
namespace AgentPey.Tokens
open Soroban (i128Max)
universe u
variable {ρ : Type u} [DecidableEq ρ]

/-- Balances after `n` units moved from `src` to `dst`. -/
def moved (balance : ρ → Int) (src dst : ρ) (n : Int) : ρ → Int :=
  fun a => balance a - (if a = src then n else 0) + (if a = dst then n else 0)

/-- A token contract with addresses `ρ`. -/
structure Token (ρ : Type u) [DecidableEq ρ] where
  State : Type
  balance : State → ρ → Int
  /-- The address has what it needs to hold the token, such as an authorised trustline. -/
  receives : State → ρ → Bool
  transfer : State → ρ → ρ → Int → Option State
  balance_nonneg : ∀ s a, 0 ≤ balance s a
  balance_le : ∀ s a, balance s a ≤ i128Max
  transfer_moves : ∀ {s s' : State} {src dst : ρ} {n : Int}, transfer s src dst n = some s' →
    balance s' = moved (balance s) src dst n
  transfer_receives : ∀ {s s' : State} {src dst : ρ} {n : Int}, transfer s src dst n = some s' →
    receives s' = receives s
  transfer_delivers : ∀ {s : State} {src dst : ρ} {n : Int}, 0 ≤ n → n ≤ balance s src →
    receives s dst = true → (src = dst ∨ balance s dst + n ≤ i128Max) → (transfer s src dst n).isSome

variable (token : Token ρ)

/-- `dst` can receive `n` units from `src`: it holds the token, and its balance stays an `i128`. -/
def Token.Deliverable (s : token.State) (src dst : ρ) (n : Int) : Prop :=
  token.receives s dst = true ∧ (src = dst ∨ token.balance s dst + n ≤ i128Max)

/-- The transfers out of `src`, one after the other, lead from one state to the other. -/
def Token.Sends (src : ρ) : token.State → List (ρ × Int) → token.State → Prop
  | s, [], last => last = s
  | s, (dst, n) :: rest, last => ∃ next, token.transfer s src dst n = some next ∧ Token.Sends src next rest last

variable {token} {src : ρ} {s last : token.State}

@[simp] theorem sends_nil : token.Sends src s [] last ↔ last = s := Iff.rfl

@[simp] theorem sends_cons {payment : ρ × Int} {rest : List (ρ × Int)} : token.Sends src s (payment :: rest) last ↔
      ∃ next, token.transfer s src payment.1 payment.2 = some next ∧ token.Sends src next rest last := Iff.rfl

theorem sends_append {first second : List (ρ × Int)} : token.Sends src s (first ++ second) last ↔
      ∃ mid, token.Sends src s first mid ∧ token.Sends src mid second last := by
  induction first generalizing s with
  | nil => simp
  | cons payment rest ih =>
    simp only [List.cons_append, sends_cons, ih]
    constructor
    · rintro ⟨next, ran, mid, left, right⟩
      exact ⟨mid, ⟨next, ran, left⟩, right⟩
    · rintro ⟨mid, ⟨next, ran, left⟩, right⟩
      exact ⟨next, ran, mid, left, right⟩

variable {payments : List (ρ × Int)}

theorem sends_receives (sends : token.Sends src s payments last) : token.receives last = token.receives s := by
  induction payments generalizing s with
  | nil => rw [sends_nil.mp sends]
  | cons payment rest ih =>
    obtain ⟨next, ran, later⟩ := sends_cons.mp sends
    rw [ih later, token.transfer_receives ran]

def received (payments : List (ρ × Int)) (a : ρ) : Int :=
  (payments.map (fun payment => if a = payment.1 then payment.2 else 0)).sum

/-- Every balance after the transfers: the sender pays the sum, and each address
    gets what is sent to it. -/
theorem sends_balance (sends : token.Sends src s payments last) (a : ρ) : token.balance last a =
      token.balance s a - (if a = src then (payments.map Prod.snd).sum else 0) + received payments a := by
  induction payments generalizing s with
  | nil =>
    rw [sends_nil.mp sends]
    simp [received]
  | cons payment rest ih =>
    obtain ⟨next, ran, later⟩ := sends_cons.mp sends
    rw [ih later, token.transfer_moves ran]
    simp only [moved, received, List.map_cons, List.sum_cons]
    split_ifs <;> omega

theorem sends_balance_ge (sends : token.Sends src s payments last) (nonneg : ∀ payment ∈ payments, 0 ≤ payment.2) :
    token.balance s src - (payments.map Prod.snd).sum ≤ token.balance last src := by
  have back : 0 ≤ received payments src := by
    apply List.sum_nonneg
    intro n member
    obtain ⟨payment, listed, rfl⟩ := List.mem_map.mp member
    split_ifs
    · exact nonneg payment listed
    · exact le_refl 0
  rw [sends_balance sends src]
  simp only [↓reduceIte]
  omega

/-! ### A token that is only a ledger -/

/-- Balances in range, and who can receive. -/
structure Ledger (ρ : Type u) where
  balance : ρ → Int
  receives : ρ → Bool
  nonneg : ∀ a, 0 ≤ balance a
  fits : ∀ a, balance a ≤ i128Max

/-- A transfer succeeds when the amount is covered and can be received. -/
def Ledger.transfer (s : Ledger ρ) (src dst : ρ) (n : Int) : Option (Ledger ρ) :=
  if allowed : 0 ≤ n ∧ n ≤ s.balance src ∧ s.receives dst = true ∧ (src = dst ∨ s.balance dst + n ≤ i128Max) then
    some
      { s with
        balance := moved s.balance src dst n
        nonneg := by
          intro a
          have := s.nonneg a
          unfold moved
          split_ifs with isSrc isDst
          · omega
          · subst isSrc; omega
          · omega
          · omega
        fits := by
          intro a
          have := s.fits a
          unfold moved
          split_ifs with isSrc isDst isDst
          · omega
          · omega
          · subst isDst
            rcases allowed.2.2.2 with same | room
            · exact absurd same.symm isSrc
            · omega
          · omega }
  else none

/-- The token whose states are ledgers. -/
def ledgerToken (ρ : Type) [DecidableEq ρ] : Token ρ where
  State := Ledger ρ
  balance := Ledger.balance
  receives := Ledger.receives
  transfer := Ledger.transfer
  balance_nonneg := Ledger.nonneg
  balance_le := Ledger.fits
  transfer_moves := by
    intro s s' src dst n ran
    unfold Ledger.transfer at ran
    split_ifs at ran
    cases ran
    rfl
  transfer_receives := by
    intro s s' src dst n ran
    unfold Ledger.transfer at ran
    split_ifs at ran
    cases ran
    rfl
  transfer_delivers := by
    intro s src dst n nonneg covered receives room
    unfold Ledger.transfer
    rw [dif_pos ⟨nonneg, covered, receives, room⟩]
    rfl

end AgentPey.Tokens
