import Mathlib.Tactic.Linarith
import Mathlib.Tactic.Positivity
import Mathlib.Tactic.Ring

/-!
Token buckets: what is taken in any interval is bounded by the bucket's size and by what flows in while the interval lasts.
Times are in milliseconds and the rate in tokens a second.
-/
namespace AgentPey.TokenBuckets

structure Bucket where
  tokens : ℚ
  refilledAt : ℤ
  deriving DecidableEq

variable (size rate : ℚ)

def Bucket.full (now : ℤ) : Bucket := ⟨size, now⟩

def Bucket.available (b : Bucket) (now : ℤ) : ℚ := min size (b.tokens + (now - b.refilledAt) / 1000 * rate)

def Bucket.take (b : Bucket) (now : ℤ) : Bool × Bucket :=
  let tokens := b.available size rate now
  if tokens < 1 then (false, ⟨tokens, now⟩) else (true, ⟨tokens - 1, now⟩)

variable {size rate} {b : Bucket} {now now' : ℤ}

theorem available_le (b : Bucket) (now : ℤ) : b.available size rate now ≤ size := min_le_left ..

/-- A bucket fills no faster than its rate. -/
theorem available_later (fills : 0 ≤ rate) (passes : now ≤ now') :
    b.available size rate now' ≤ b.available size rate now + (now' - now) / 1000 * rate := by
  have inflow : 0 ≤ ((now' : ℚ) - now) / 1000 * rate := by
    have forward : (0 : ℚ) ≤ now' - now := by
      have := (Int.cast_le (R := ℚ)).mpr passes
      linarith
    positivity
  have split : b.tokens + ((now' : ℚ) - b.refilledAt) / 1000 * rate =
      b.tokens + (now - b.refilledAt) / 1000 * rate + (now' - now) / 1000 * rate := by
    ring
  unfold Bucket.available
  rw [split, ← min_add_add_right]
  exact min_le_min_right _ (by linarith)

theorem available_take (b : Bucket) (now : ℤ) : (b.take size rate now).2.available size rate now +
    (if (b.take size rate now).1 then 1 else 0) = b.available size rate now := by
  have most : b.available size rate now ≤ size := available_le b now
  by_cases empty : b.available size rate now < 1
  · simp only [Bucket.take, if_pos empty]
    simp [Bucket.available]
  · simp only [Bucket.take, if_neg empty]
    have room : b.available size rate now - 1 ≤ size := by linarith
    simp only [Bucket.available] at room ⊢
    simp [room]

/-- A bucket never owes a token, and is not refilled ahead of time. -/
structure Sound (b : Bucket) (now : ℤ) : Prop where
  tokens : 0 ≤ b.tokens
  refilled : b.refilledAt ≤ now

theorem Sound.available (sound : Sound b now) (some_ : 0 ≤ size) (fills : 0 ≤ rate) : 0 ≤ b.available size rate now := by
  have forward : (0 : ℚ) ≤ now - b.refilledAt := by
    have := (Int.cast_le (R := ℚ)).mpr sound.refilled
    linarith
  have tokens := sound.tokens
  exact le_min some_ (by positivity)

theorem Sound.later (sound : Sound b now) (passes : now ≤ now') : Sound b now' :=
  ⟨sound.tokens, sound.refilled.trans passes⟩

theorem sound_full (some_ : 0 ≤ size) (now : ℤ) : Sound (.full size now) now := ⟨some_, le_refl now⟩

theorem Sound.take (sound : Sound b now) (some_ : 0 ≤ size) (fills : 0 ≤ rate) : Sound (b.take size rate now).2 now := by
  by_cases empty : b.available size rate now < 1
  · simp only [Bucket.take, if_pos empty]
    exact ⟨sound.available some_ fills, le_refl now⟩
  · simp only [Bucket.take, if_neg empty]
    exact ⟨by linarith, le_refl now⟩

theorem available_mono (fills : 0 ≤ rate) (passes : now ≤ now') : b.available size rate now ≤ b.available size rate now' := by
  have forward : (now : ℚ) ≤ now' := Int.cast_le.mpr passes
  unfold Bucket.available
  gcongr

/-! ### What is taken over time -/

/-- So many tokens were taken since some time, when so much was there: no more than a full bucket and what flowed in, and nothing
    else is gone. -/
structure Spent (size rate : ℚ) (b : Bucket) (first : ℚ) (since : ℤ) (taken : ℕ) (now : ℤ) : Prop where
  most : taken + b.available size rate now ≤ size + (now - since) / 1000 * rate
  least : first ≤ taken + b.available size rate now

variable {first : ℚ} {since : ℤ} {taken : ℕ}

theorem spent_none (b : Bucket) (now : ℤ) : Spent size rate b (b.available size rate now) now 0 now := by
  have most : b.available size rate now ≤ size := available_le b now
  exact ⟨by simpa using most, by simp⟩

section
variable (spent : Spent size rate b first since taken now)
include spent

theorem Spent.take (token : (b.take size rate now).1 = true) :
    Spent size rate (b.take size rate now).2 first since (taken + 1) now := by
  have same : _ = b.available size rate now := available_take b now
  rw [if_pos token] at same
  obtain ⟨most, least⟩ := spent
  constructor
  · push_cast
    linarith
  · push_cast
    linarith

theorem Spent.vain (none : (b.take size rate now).1 = false) :
    Spent size rate (b.take size rate now).2 first since taken now := by
  have same : _ = b.available size rate now := available_take b now
  rw [if_neg (by simp [none])] at same
  obtain ⟨most, least⟩ := spent
  constructor
  · linarith
  · linarith

theorem Spent.later (fills : 0 ≤ rate) (passes : now ≤ now') : Spent size rate b first since taken now' := by
  have flows : b.available size rate now' ≤ _ := available_later fills passes
  have more : b.available size rate now ≤ b.available size rate now' := available_mono fills passes
  obtain ⟨most, least⟩ := spent
  have split : ((now' : ℚ) - since) / 1000 * rate = (now - since) / 1000 * rate + (now' - now) / 1000 * rate := by
    ring
  constructor
  · linarith
  · linarith

theorem Spent.bound (sound : Sound b now) (some_ : 0 ≤ size) (fills : 0 ≤ rate) :
    (taken : ℚ) ≤ size + (now - since) / 1000 * rate := by
  have left := sound.available some_ fills
  have most := spent.most
  linarith

end

end AgentPey.TokenBuckets
