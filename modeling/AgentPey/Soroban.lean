import Mathlib.Order.MinMax
import Mathlib.Algebra.Ring.Int.Defs
import Mathlib.Algebra.Ring.Nat

/-!
The part of a Soroban host that contracts compute with: bytes and addresses,
checked `i128` and saturating `u64` arithmetic, and invocations that fail with a
contract's own error or with a trap of the host. A failed invocation carries no
state: the host rolls it back.
-/
namespace AgentPey.Soroban
universe u v

abbrev Bytes := List UInt8
/-- Bytes of a fixed length. -/
abbrev BytesN (n : Nat) := { bytes : Bytes // bytes.length = n }

def filled (b : UInt8) : BytesN 32 := ⟨List.replicate 32 b, rfl⟩

inductive AddressPayload where
  | AccountIdPublicKeyEd25519 (key : BytesN 32)
  | ContractIdHash (id : BytesN 32)
  deriving DecidableEq

/-- An address: an account, a contract, or a kind whose payload the contract
    does not know. -/
inductive Address where
  | account (key : BytesN 32)
  | contract (id : BytesN 32)
  | unknown (raw : Bytes)
  deriving DecidableEq

def Address.to_payload : Address → Option AddressPayload
  | .account key => some (.AccountIdPublicKeyEd25519 key)
  | .contract id => some (.ContractIdHash id)
  | .unknown _ => none

/-- The signatures that keys have made: with unforgeable signatures a check accepts no other. -/
structure SigningLog (verify : BytesN 32 → Bytes → BytesN 64 → Bool) where
  signed : BytesN 32 → Bytes → BytesN 64 → Prop
  unforgeable : ∀ {key message sig}, verify key message sig = true → signed key message sig

/-- No key has made one signature for two messages. -/
def SigningLog.OneMessage {verify : BytesN 32 → Bytes → BytesN 64 → Bool} (log : SigningLog verify) : Prop :=
  ∀ {key message message' sig}, log.signed key message sig → log.signed key message' sig → message = message'

/-- Why the host aborts an invocation without an error of the contract. -/
inductive Trap where
  | unauthorized
  | overflow
  | badSignature
  | callFailed
  | panic
  deriving DecidableEq, Repr

/-- How an invocation fails: with an error of the contract, or with a trap. -/
inductive Failure (ε : Type u) where
  | error (e : ε)
  | trap (t : Trap)
  deriving DecidableEq, Repr

abbrev Outcome (ε : Type u) (α : Type v) := Except (Failure ε) α

variable {ε : Type u} {α β : Type v}

/-- `if condition { return Err(failure) }`. -/
def failIf (condition : Prop) [Decidable condition] (failure : Failure ε) : Outcome ε PUnit :=
  if condition then .error failure else .ok ⟨⟩

/-- `value.ok_or(failure)?`. -/
def okOr (value : Option α) (failure : Failure ε) : Outcome ε α :=
  match value with
  | some a => .ok a
  | none => .error failure

@[simp] theorem ok_bind (a : α) (f : α → Outcome ε β) : (.ok a : Outcome ε α) >>= f = f a := rfl

variable {x : Outcome ε α} {f : α → Outcome ε β} {failure : Failure ε} {value : Option α} {b a : Int}

@[simp] theorem bind_eq_ok {b : β} : x >>= f = .ok b ↔ ∃ a, x = .ok a ∧ f a = .ok b := by
  cases x with
  | ok a =>
    constructor
    · intro ran
      exact ⟨a, rfl, ran⟩
    · rintro ⟨a', same, ran⟩
      cases same
      exact ran
  | error failure =>
    constructor
    · intro ran
      cases ran
    · rintro ⟨_, impossible, _⟩
      cases impossible

@[simp] theorem bind_eq_error : x >>= f = .error failure ↔ x = .error failure ∨ ∃ a, x = .ok a ∧ f a = .error failure := by
  cases x with
  | ok a =>
    constructor
    · intro ran
      exact .inr ⟨a, rfl, ran⟩
    · rintro (impossible | ⟨a', same, ran⟩)
      · cases impossible
      · cases same
        exact ran
  | error f' =>
    constructor
    · intro ran
      cases ran
      exact .inl rfl
    · rintro (same | ⟨_, impossible, _⟩)
      · cases same
        rfl
      · cases impossible

theorem bind_runs (first : ∃ a, x = .ok a) (rest : ∀ a, ∃ b, f a = .ok b) : ∃ b, x >>= f = .ok b := by
  obtain ⟨a, ran⟩ := first
  obtain ⟨b, later⟩ := rest a
  exact ⟨b, bind_eq_ok.mpr ⟨a, ran, later⟩⟩

@[simp] theorem failIf_eq_ok {condition : Prop} [Decidable condition] {u : PUnit} :
    failIf condition failure = .ok u ↔ ¬ condition := by
  unfold failIf
  split_ifs with holds <;> simp [holds]

@[simp] theorem failIf_eq_error {condition : Prop} [Decidable condition] {f : Failure ε} :
    failIf condition failure = .error f ↔ condition ∧ failure = f := by
  unfold failIf
  split_ifs with holds <;> simp [holds]

@[simp] theorem okOr_eq_ok {a : α} : okOr value failure = .ok a ↔ value = some a := by
  cases value <;> simp [okOr]

@[simp] theorem okOr_eq_error {f : Failure ε} : okOr value failure = .error f ↔ value = none ∧ failure = f := by
  cases value <;> simp [okOr]

/-! ### `i128` -/

def i128Max : Int := 2 ^ 127 - 1
def i128Min : Int := -2 ^ 127

/-- The integers an `i128` holds. -/
def InI128 (n : Int) : Prop := i128Min ≤ n ∧ n ≤ i128Max
instance (n : Int) : Decidable (InI128 n) := inferInstanceAs (Decidable (_ ∧ _))

theorem inI128_of_range {n : Int} (nonneg : 0 ≤ n) (fits : n ≤ i128Max) : InI128 n :=
  ⟨Int.le_trans (by decide) nonneg, fits⟩

/-- `a + b` with overflow checks on. -/
def add (a b : Int) : Outcome ε Int := if InI128 (a + b) then .ok (a + b) else .error (.trap .overflow)
/-- `a - b` with overflow checks on. -/
def sub (a b : Int) : Outcome ε Int := if InI128 (a - b) then .ok (a - b) else .error (.trap .overflow)
/-- `a.checked_add(b)`. -/
def checked_add (a b : Int) : Option Int := if InI128 (a + b) then some (a + b) else none

@[simp] theorem add_eq_ok {c : Int} : add (ε := ε) a b = .ok c ↔ InI128 (a + b) ∧ a + b = c := by
  unfold add
  split_ifs with fits <;> simp [fits]

@[simp] theorem add_eq_error {f : Failure ε} : add a b = .error f ↔ ¬ InI128 (a + b) ∧ .trap .overflow = f := by
  unfold add
  split_ifs with fits <;> simp [fits]

@[simp] theorem sub_eq_ok {c : Int} : sub (ε := ε) a b = .ok c ↔ InI128 (a - b) ∧ a - b = c := by
  unfold sub
  split_ifs with fits <;> simp [fits]

@[simp] theorem sub_eq_error {f : Failure ε} : sub a b = .error f ↔ ¬ InI128 (a - b) ∧ .trap .overflow = f := by
  unfold sub
  split_ifs with fits <;> simp [fits]

@[simp] theorem checked_add_eq_some {c : Int} : checked_add a b = some c ↔ InI128 (a + b) ∧ a + b = c := by
  unfold checked_add
  split_ifs with fits <;> simp [fits]

/-! ### Computations that avoid a failure -/

/-- The computation does not end with this failure. -/
def Avoids (f : Failure ε) (x : Outcome ε α) : Prop := x ≠ .error f

section
variable {f : Failure ε}

theorem avoids_ok (a : α) : Avoids f (.ok a : Outcome ε α) := fun failed => nomatch failed

theorem avoids_bind {x : Outcome ε α} {next : α → Outcome ε β} (first : Avoids f x)
    (rest : ∀ a, x = .ok a → Avoids f (next a)) : Avoids f (x >>= next) := by
  intro failed
  rcases bind_eq_error.mp failed with here | ⟨a, ran, later⟩
  · exact first here
  · exact rest a ran later

variable {failure : Failure ε}

theorem avoids_failIf {condition : Prop} [Decidable condition] (other : failure ≠ f) :
    Avoids f (failIf condition failure) := fun failed => other (failIf_eq_error.mp failed).2

theorem avoids_okOr {value : Option α} (other : failure ≠ f) :
    Avoids f (okOr value failure) := fun failed => other (okOr_eq_error.mp failed).2

/-- A check that fails with another failure: what follows may rely on it. -/
theorem avoids_guard {condition : Prop} [Decidable condition] {next : PUnit → Outcome ε β}
    (rest : ¬condition → Avoids f (next ⟨⟩)) (other : failure ≠ f := by decide) : Avoids f (failIf condition failure >>= next) :=
  avoids_bind (avoids_failIf other) fun _ passed => rest (failIf_eq_ok.mp passed)

theorem avoids_get {value : Option α} {next : α → Outcome ε β} (rest : ∀ a, value = some a → Avoids f (next a))
    (other : failure ≠ f := by decide) : Avoids f (okOr value failure >>= next) :=
  avoids_bind (avoids_okOr other) fun a there => rest a (okOr_eq_ok.mp there)

theorem avoids_add {a b : Int} (fits : InI128 (a + b)) : Avoids f (add a b) :=
  fun failed => (add_eq_error.mp failed).1 fits

theorem avoids_sub {a b : Int} (fits : InI128 (a - b)) : Avoids f (sub a b) :=
  fun failed => (sub_eq_error.mp failed).1 fits

end

/-! ### `u64` -/

def u64Max : Nat := 2 ^ 64 - 1

/-- `a.saturating_add(b)`. -/
def saturating_add (a b : UInt64) : UInt64 :=
  if a.toNat + b.toNat ≤ u64Max then a + b else UInt64.ofNat u64Max

theorem toNat_saturating_add (a b : UInt64) : (saturating_add a b).toNat = min (a.toNat + b.toNat) u64Max := by
  unfold saturating_add
  split_ifs with fits
  · have small : a.toNat + b.toNat < 2 ^ 64 := by unfold u64Max at fits; omega
    rw [UInt64.toNat_add, Nat.mod_eq_of_lt small, min_eq_left fits]
  · rw [min_eq_right (by omega)]
    decide

theorem le_saturating_add (a b : UInt64) : a ≤ saturating_add a b := by
  have fits := a.toNat_lt
  rw [UInt64.le_iff_toNat_le, toNat_saturating_add]
  unfold u64Max
  omega

end AgentPey.Soroban
