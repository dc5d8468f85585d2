import AgentPey.ReceiptHistories
import Mathlib.Data.Set.Card

/-!
The registry's counters. A merchant's counter is an entry of its own beside the records; in every run it is the number
of the records that name the merchant, and it never wraps: the call that would is refused.
-/
namespace AgentPey.ReceiptCounts
open Soroban Store ReceiptRegistry ReceiptHistories

def receiptsOf (w : World) (merchant : Address) : Set (BytesN 32) :=
  {hash | ∃ record, get w hash = some record ∧ record.merchant = merchant}

theorem receiptsOf_finite (w : World) (merchant : Address) : (receiptsOf w merchant).Finite := by
  refine (List.finite_toSet w.receipts.keys).subset ?_
  rintro hash ⟨record, found, _⟩
  exact AList.lookup_isSome.mp (by rw [show w.receipts.lookup hash = some record from found]; rfl)

variable {env : Env} {w : World} {hash : BytesN 32} {merchant : Address} {amount : Int} {order_ref : Bytes}

theorem invoke_count {w' : World} (ran : invoke env w hash merchant amount order_ref = .ok w') (m : Address) :
    (count w' m).toNat = (count w m).toNat + if m = merchant then 1 else 0 := by
  simp only [invoke, anchor, add_one, bind_eq_ok, failIf_eq_ok] at ran
  obtain ⟨_, _, _, _, _, _, _, _, n, ⟨_, room, next⟩, made⟩ := ran
  cases made
  obtain rfl : _ = n := Except.ok.inj next
  have same : count (set_receipt { w with events := [] } hash (anchored env merchant amount order_ref)) merchant =
      count w merchant := rfl
  rw [same] at room
  simp only [count, publish, set_count, set_receipt, lookup_insert]
  by_cases own : m = merchant
  · subst own
    have small := UInt32.toNat_lt_size (count w m)
    simp only [↓reduceIte, Option.getD_some, UInt32.toNat_add, UInt32.reduceToNat]
    refine Nat.mod_eq_of_lt (Nat.lt_of_le_of_ne small ?_)
    exact room
  · simp [own]

/-- An accepted call adds its hash to its merchant's, and leaves those of every other. -/
theorem invoke_receiptsOf {w' : World} (ran : invoke env w hash merchant amount order_ref = .ok w') (m : Address) :
    receiptsOf w' m = if m = merchant then insert hash (receiptsOf w m) else receiptsOf w m := by
  obtain ⟨_, _, free, _, receipts⟩ := invoke_effect ran
  ext other
  have read : get w' other = if other = hash then some (anchored env merchant amount order_ref) else get w other := by
    rw [ReceiptRegistry.get, receipts, lookup_insert]
    rfl
  by_cases here : other = hash
  · subst here
    by_cases own : m = merchant
    · simp [receiptsOf, read, own, anchored]
    · simp [receiptsOf, read, own, Ne.symm own, anchored, free]
  · by_cases own : m = merchant
    · simp [receiptsOf, read, here, own]
    · simp [receiptsOf, read, here, own]

def Counted (w : World) : Prop := ∀ merchant, (count w merchant).toNat = (receiptsOf w merchant).ncard

theorem counted_deploy (id : BytesN 32) : Counted (deploy id) := by
  intro merchant
  have empty : receiptsOf (deploy id) merchant = ∅ := by
    ext hash
    simp [receiptsOf, deploy, ReceiptRegistry.get]
  rw [empty, Set.ncard_empty]
  rfl

theorem Counted.step (counted : Counted w) (a : Anchoring) : Counted (anchorStep w a) := by
  unfold anchorStep
  cases ran : a.invoke w with
  | error e => exact counted
  | ok w' =>
    intro merchant
    rw [invoke_count ran, invoke_receiptsOf ran, counted merchant]
    by_cases own : merchant = a.merchant
    · have fresh : a.hash ∉ receiptsOf w merchant := by
        rintro ⟨record, found, _⟩
        rw [(invoke_effect ran).2.2.1] at found
        cases found
      rw [if_pos own, if_pos own, Set.ncard_insert_of_notMem fresh (receiptsOf_finite w merchant)]
    · rw [if_neg own, if_neg own, Nat.add_zero]

theorem counted_after (id : BytesN 32) (anchorings : List Anchoring) : Counted (registryAfter id anchorings) := by
  induction anchorings using List.reverseRec with
  | nil => exact counted_deploy id
  | append_singleton before a ih =>
    rw [registryAfter_snoc]
    exact ih.step a

/-- A hash that has a record is refused, and the registry stays as it is. -/
theorem anchor_again {a : Anchoring} (there : (get w a.hash).isSome) : anchorStep w a = w := by
  unfold anchorStep
  cases ran : a.invoke w with
  | error e => rfl
  | ok w' =>
    rw [(invoke_effect ran).2.2.1] at there
    cases there

/-- In every run of `anchor` by anybody the counter of each merchant is the number of the records that name it, no
    record ever changes, and a call that is refused, as every repeated one is, changes nothing. -/
theorem count_is_number_of_records (id : BytesN 32) (anchorings : List Anchoring) :
    (∀ merchant, (receiptsOf (registryAfter id anchorings) merchant).Finite ∧
      (count (registryAfter id anchorings) merchant).toNat = (receiptsOf (registryAfter id anchorings) merchant).ncard) ∧
    (∀ hash record later, get (registryAfter id anchorings) hash = some record →
      get (registryAfter id (anchorings ++ later)) hash = some record) ∧
    (∀ a e, a.invoke (registryAfter id anchorings) = .error e →
      registryAfter id (anchorings ++ [a]) = registryAfter id anchorings) ∧
    ∀ a, (get (registryAfter id anchorings) a.hash).isSome →
      registryAfter id (anchorings ++ [a]) = registryAfter id anchorings := by
  refine ⟨fun merchant => ⟨receiptsOf_finite .., counted_after id anchorings merchant⟩, ?_, ?_, ?_⟩
  · intro hash record later found
    have kept := get_after found later
    rwa [registryAfter, ← List.foldl_append] at kept
  · intro a e refused
    rw [registryAfter_snoc, anchorStep, refused]
  · intro a there
    rw [registryAfter_snoc, anchor_again there]

end AgentPey.ReceiptCounts
