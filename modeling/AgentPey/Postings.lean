import AgentPey.Store
import Mathlib.Data.List.Induction

/-!
Spends against buckets, in double entry. A charge opens a spend under a free id and
a refund closes the very spend that stands under its id. `balance` adds charges and
subtracts refunds, as a ledger's running totals do; the `Book` keeps the spends that
stand. A history that posts without an exception has the balances of its book.
-/
namespace AgentPey.Postings
open Store
universe u v
variable {ι : Type u} {κ : Type v} [DecidableEq ι] [DecidableEq κ]

/-- An amount against one bucket. -/
structure Spend (κ : Type v) where
  bucket : κ
  amount : Nat
  deriving DecidableEq

/-- The spends that stand, at most one for each id. -/
abbrev Book (ι : Type u) (κ : Type v) := Keyed ι (Spend κ)

def Spend.weight (bucket : κ) (s : Spend κ) : Int := if s.bucket = bucket then s.amount else 0

/-- What stands against a bucket. -/
def held (bucket : κ) (b : Book ι κ) : Int := total (Spend.weight bucket) b

inductive Posting (ι : Type u) (κ : Type v) where
  | charge (id : ι) (s : Spend κ)
  | refund (id : ι) (s : Spend κ)
  deriving DecidableEq

def Posting.signed (bucket : κ) : Posting ι κ → Int
  | .charge _ s => s.weight bucket
  | .refund _ s => -s.weight bucket

def balance (bucket : κ) (ps : List (Posting ι κ)) : Int := (ps.map (Posting.signed bucket)).sum

def post (b : Book ι κ) : Posting ι κ → Option (Book ι κ)
  | .charge id s => if b.lookup id = none then some (b.insert id s) else none
  | .refund id s => if b.lookup id = some s then some (b.erase id) else none

/-- A history of postings, each of which fits the spends that stand. -/
def Balanced (ps : List (Posting ι κ)) (b : Book ι κ) : Prop := ps.foldlM post ∅ = some b

/-! ### What stands -/

omit [DecidableEq ι] in
@[simp] theorem held_empty (bucket : κ) : held bucket (∅ : Book ι κ) = 0 := rfl

omit [DecidableEq ι] in
@[simp] theorem balance_nil (bucket : κ) : balance bucket ([] : List (Posting ι κ)) = 0 := rfl

omit [DecidableEq ι] in
@[simp] theorem balance_append (bucket : κ) (ps qs : List (Posting ι κ)) :
    balance bucket (ps ++ qs) = balance bucket ps + balance bucket qs := by
  simp [balance]

omit [DecidableEq ι] in
@[simp] theorem balance_singleton (bucket : κ) (p : Posting ι κ) : balance bucket [p] = p.signed bucket := by
  simp [balance]

theorem Spend.weight_nonneg (bucket : κ) (s : Spend κ) : 0 ≤ s.weight bucket := by
  rw [Spend.weight]
  split_ifs <;> omega

variable {b : Book ι κ}

variable {id : ι} {s : Spend κ} {p : Posting ι κ}

theorem held_charge (bucket : κ) (s : Spend κ) (free : b.lookup id = none) :
    held bucket (b.insert id s) = held bucket b + s.weight bucket :=
  total_insert_new _ s free

theorem held_refund (bucket : κ) (stands : b.lookup id = some s) :
    held bucket (b.erase id) = held bucket b - s.weight bucket :=
  total_erase _ stands

theorem held_nonneg (bucket : κ) (b : Book ι κ) : 0 ≤ held bucket b :=
  total_nonneg fun _ s _ => s.weight_nonneg bucket

theorem held_erase_le (bucket : κ) (b : Book ι κ) (id : ι) : held bucket (b.erase id) ≤ held bucket b := by
  cases stands : b.lookup id with
  | none => rw [erase_absent stands]
  | some s =>
    have positive := s.weight_nonneg bucket
    rw [held_refund bucket stands]
    omega

theorem held_post {b c : Book ι κ} (posted : post b p = some c) (bucket : κ) :
    held bucket c = held bucket b + p.signed bucket := by
  cases p with
  | charge id s =>
    rw [post] at posted
    split_ifs at posted with free
    cases posted
    exact held_charge bucket s free
  | refund id s =>
    rw [post] at posted
    split_ifs at posted with stands
    cases posted
    rw [held_refund bucket stands, Posting.signed]
    omega

/-! ### Balanced histories -/

theorem balanced_nil : Balanced ([] : List (Posting ι κ)) ∅ := rfl

variable {ps : List (Posting ι κ)}

theorem Balanced.post {b c : Book ι κ} (balanced : Balanced ps b)
    (posted : Postings.post b p = some c) : Balanced (ps ++ [p]) c := by
  rw [Balanced, List.foldlM_append, show ps.foldlM Postings.post ∅ = some b from balanced]
  simpa using posted

theorem Balanced.charge (balanced : Balanced ps b) (s : Spend κ) (free : b.lookup id = none)
    : Balanced (ps ++ [.charge id s]) (b.insert id s) :=
  balanced.post (if_pos free)

theorem Balanced.refund (balanced : Balanced ps b) (stands : b.lookup id = some s)
    : Balanced (ps ++ [.refund id s]) (b.erase id) :=
  balanced.post (if_pos stands)

/-- What holds of the empty history and is kept by every posting holds of a balanced one. -/
theorem Balanced.induct {I : List (Posting ι κ) → Book ι κ → Prop} (start : I [] ∅)
    (kept : ∀ ps b p c, Balanced ps b → I ps b → Postings.post b p = some c → I (ps ++ [p]) c)
    (balanced : Balanced ps b) : I ps b := by
  induction ps using List.reverseRec generalizing b with
  | nil =>
    cases balanced
    exact start
  | append_singleton ps p ih =>
    rw [Balanced, List.foldlM_append] at balanced
    obtain ⟨middle, earlier, posted⟩ := Option.bind_eq_some_iff.mp balanced
    exact kept ps middle p b earlier (ih earlier) (by simpa using posted)

theorem Balanced.balance_eq (balanced : Balanced ps b) (bucket : κ) : balance bucket ps = held bucket b := by
  refine balanced.induct (I := fun ps b => balance bucket ps = held bucket b) rfl ?_
  intro ps b p c _ same posted
  rw [balance_append, balance_singleton, same, held_post posted]

/-! ### Charges and refunds of one id -/

def Posting.chargeOf (id : ι) : Posting ι κ → Bool
  | .charge i _ => i = id
  | .refund _ _ => false

def Posting.refundOf (id : ι) : Posting ι κ → Bool
  | .charge _ _ => false
  | .refund i _ => i = id

/-- An id has one charge more than refunds while its spend stands, and as many otherwise. -/
theorem Balanced.counts (balanced : Balanced ps b) (id : ι) :
    ps.countP (Posting.chargeOf id) = ps.countP (Posting.refundOf id) + if (b.lookup id).isSome then 1 else 0 := by
  refine balanced.induct (I := fun ps b => ps.countP (Posting.chargeOf id) =
    ps.countP (Posting.refundOf id) + if (b.lookup id).isSome then 1 else 0) (by simp) ?_
  intro ps b p c _ counted posted
  rw [List.countP_append, List.countP_append, counted]
  cases p with
  | charge i s =>
    rw [Postings.post] at posted
    split_ifs at posted with free
    cases posted
    by_cases same : id = i
    · subst same
      simp [Posting.chargeOf, Posting.refundOf, free]
    · simp [Posting.chargeOf, Posting.refundOf, same, Ne.symm same]
  | refund i s =>
    rw [Postings.post] at posted
    split_ifs at posted with stands
    cases posted
    by_cases same : id = i
    · subst same
      simp [Posting.chargeOf, Posting.refundOf, stands]
    · simp [Posting.chargeOf, Posting.refundOf, same, Ne.symm same]

end AgentPey.Postings
