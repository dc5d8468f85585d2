import AgentPey.Expiry

/-!
The ids of the codes, refresh tokens and challenges that were used, until they would have expired anyway
(`RedeemedCodes` of `apps/mcp/src/oauth/tokens.ts`): what keeps a token of one use from a second one.
-/
namespace AgentPey.RedeemedCodes

/-- A call of `redeem`, with the second that the clock shows. -/
structure Call where
  nowSeconds : Int
  jti : String
  expiresAtSeconds : Int

def unexpired (nowSeconds : Int) (entry : String × Int) : Bool := ¬entry.2 < nowSeconds

section
variable (max : Nat)

def redeem (seen : List (String × Int)) (call : Call) : Bool × List (String × Int) :=
  let seen := seen.filter (unexpired call.nowSeconds)
  if seen.any fun entry => entry.1 = call.jti then (false, seen)
  -- Full of unexpired ids, it refuses rather than forget one.
  else if max ≤ seen.length then (false, seen)
  else (true, seen ++ [(call.jti, call.expiresAtSeconds)])

/-- What is remembered after some calls, and all that was redeemed. -/
def run (calls : List Call) : List (String × Int) × List (String × Int) :=
  Traces.exec (fun seen call => ((redeem max seen call).2,
    if (redeem max seen call).1 then [(call.jti, call.expiresAtSeconds)] else [])) [] calls

def redeemed (unexpired : List (String × Int)) (call : Call) : List (String × Int) :=
  if unexpired.any (fun entry => entry.1 = call.jti) ∨ max ≤ unexpired.length then [] else [(call.jti, call.expiresAtSeconds)]

variable {max}

theorem run_eq (calls : List Call) :
    run max calls = Traces.exec (Expiry.remember unexpired Call.nowSeconds (redeemed max)) [] calls := by
  refine congrArg (fun step => Traces.exec step [] calls) (funext fun seen => funext fun call => ?_)
  simp only [redeem, Expiry.remember, redeemed]
  by_cases used : ((seen.filter (unexpired call.nowSeconds)).any fun entry => entry.1 = call.jti) = true
  · simp only [used, true_or, if_true, List.append_nil, Bool.false_eq_true, if_false]
  · by_cases full : max ≤ (seen.filter (unexpired call.nowSeconds)).length
    · simp only [if_neg used, full, or_true, if_true, List.append_nil, Bool.false_eq_true, if_false]
    · simp only [used, full, or_self, if_false, if_true, Bool.false_eq_true]

theorem unexpired_lapses : Expiry.Lapses unexpired := by
  intro now later entry after lasts
  simp only [unexpired, decide_eq_true_eq] at *
  omega

theorem redeem_iff (seen : List (String × Int)) (call : Call) : (redeem max seen call).1 = true ↔
    (∀ until_, (call.jti, until_) ∈ seen → until_ < call.nowSeconds) ∧ seen.countP (unexpired call.nowSeconds) < max := by
  have used : ((seen.filter (unexpired call.nowSeconds)).any fun entry => entry.1 = call.jti) = true ↔
      ∃ until_, (call.jti, until_) ∈ seen ∧ ¬until_ < call.nowSeconds := by
    simp [List.any_eq_true, unexpired]
  rw [List.countP_eq_length_filter, redeem]
  split_ifs with again full
  · obtain ⟨until_, among, lasts⟩ := used.mp again
    simp only [false_iff]
    exact fun free => absurd (free.1 until_ among) lasts
  · simp only [false_iff]
    exact fun free => absurd full (Nat.not_le_of_lt free.2)
  · refine ⟨fun _ => ⟨fun until_ among => ?_, Nat.lt_of_not_le full⟩, fun _ => rfl⟩
    by_contra lasts
    exact again (used.mpr ⟨until_, among, lasts⟩)

theorem run_snoc (calls : List Call) (call : Call) : (run max (calls ++ [call])).2 =
    (run max calls).2 ++ if (redeem max (run max calls).1 call).1 then [(call.jti, call.expiresAtSeconds)] else [] := by
  rw [run, Traces.exec_append, Traces.exec_cons, Traces.exec_nil, List.append_nil]
  rfl

variable {calls : List Call}

theorem redeem_run (ordered : calls.Pairwise fun a b => a.nowSeconds ≤ b.nowSeconds) {call : Call}
    (last : ∀ earlier ∈ calls, earlier.nowSeconds ≤ call.nowSeconds) : (redeem max (run max calls).1 call).1 = true ↔
      (∀ until_, (call.jti, until_) ∈ (run max calls).2 → until_ < call.nowSeconds) ∧
        (run max calls).2.countP (unexpired call.nowSeconds) < max := by
  have kept : (run max calls).1.filter (unexpired call.nowSeconds) = (run max calls).2.filter (unexpired call.nowSeconds) := by
    rw [run_eq]
    exact Expiry.kept_run unexpired_lapses ordered last
  rw [← redeem_iff, redeem, redeem, kept]

theorem one_redemption (ordered : calls.Pairwise fun a b => a.nowSeconds ≤ b.nowSeconds) {jti : String} {exp : Int}
    (own : ∀ call ∈ calls, call.jti = jti → call.expiresAtSeconds = exp ∧ call.nowSeconds ≤ exp) :
    (∀ entry ∈ (run max calls).2, entry.1 = jti → entry.2 = exp) ∧
      (run max calls).2.countP (fun entry => entry.1 = jti) ≤ 1 := by
  induction calls using List.reverseRec with
  | nil => exact ⟨fun entry impossible => absurd impossible List.not_mem_nil, Nat.zero_le _⟩
  | append_singleton before call ih =>
    obtain ⟨earlier, _, last⟩ := List.pairwise_append.mp ordered
    obtain ⟨expiries, few⟩ := ih earlier fun other among => own other (List.mem_append_left _ among)
    have mine := own call (List.mem_append_right _ (List.mem_singleton_self call))
    rw [run_snoc]
    split_ifs with accepted
    · have fresh := ((redeem_run earlier fun other among => last other among call (List.mem_singleton_self call)).mp accepted).1
      constructor
      · intro entry among same
        rcases List.mem_append.mp among with old | new
        · exact expiries entry old same
        · obtain rfl := List.mem_singleton.mp new
          exact (mine same).1
      · rw [List.countP_append, List.countP_singleton]
        by_cases same : call.jti = jti
        · have none_ : (run max before).2.countP (fun entry => entry.1 = jti) = 0 := by
            refine List.countP_eq_zero.mpr fun entry among used => ?_
            have used := of_decide_eq_true used
            have expired := fresh entry.2 (by rwa [same, ← used])
            have unexpired := (mine same).2
            rw [expiries entry among used] at expired
            omega
          rw [none_]
          split_ifs <;> omega
        · rw [if_neg (by simpa using same)]
          exact few
    · rw [List.append_nil]
      exact ⟨expiries, few⟩

end

/-- With a clock that does not go back, an id is redeemed exactly when no redemption of it lasts and there is room beside
    those that last, however much was forgotten; and a token that is only brought before it expires is redeemed once. -/
theorem redeemed_once (max : Nat) (calls : List Call) (ordered : calls.Pairwise fun a b => a.nowSeconds ≤ b.nowSeconds) :
    (∀ before call after, calls = before ++ call :: after → ((redeem max (run max before).1 call).1 = true ↔
      (∀ until_, (call.jti, until_) ∈ (run max before).2 → until_ < call.nowSeconds) ∧
        (run max before).2.countP (unexpired call.nowSeconds) < max)) ∧
    ∀ jti exp, (∀ call ∈ calls, call.jti = jti → call.expiresAtSeconds = exp ∧ call.nowSeconds ≤ exp) →
      (run max calls).2.countP (fun entry => entry.1 = jti) ≤ 1 := by
  constructor
  · rintro before call after rfl
    obtain ⟨earlier, _, last⟩ := List.pairwise_append.mp ordered
    exact redeem_run earlier fun other among => last other among call List.mem_cons_self
  · intro jti exp own
    exact (one_redemption ordered own).2

/-- A code is brought twice within its minute. -/
theorem redeemed_once_sample :
    (run 10000 [⟨0, "code", 60⟩, ⟨30, "code", 60⟩, ⟨60, "other", 120⟩]).2 = [("code", 60), ("other", 120)] ∧
    (run 10000 [⟨0, "code", 60⟩, ⟨30, "code", 60⟩, ⟨60, "other", 120⟩]).2.countP (fun entry => entry.1 = "code") ≤ 1 :=
  ⟨by decide, (redeemed_once 10000 [⟨0, "code", 60⟩, ⟨30, "code", 60⟩, ⟨60, "other", 120⟩] (by simp)).2 "code" 60 (by simp)⟩

end AgentPey.RedeemedCodes
