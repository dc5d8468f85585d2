import AgentPey.InProcessCalls
import Mathlib.Tactic.IntervalCases

/-!
The daily limit of one rail over the in-memory ledger, over every interleaving of its
calls at their awaits. The ledger always remembers what the run has granted and not
released. Its totals stay within the limit exactly as long as no call records, without
room for it, an intent that it found recorded and that a release has given back since.
-/
namespace AgentPey.InProcessLimit
open AgentPass Amounts Dates LocalPolicyRail Postings PurchaseChecks Store Tasks InMemoryLedger InProcessCalls
open VaultEntries (Bucket)

variable {strKey : StrKey}

/-- Any calls of the rail, interleaved in any way, on a ledger that starts empty. -/
def run (strKey : StrKey) (actions : List (Action Call)) :
    Pool InMemorySpendLedger Thrown Reply Call × List (Event Thrown Reply Call) :=
  Traces.exec (step queue (body strKey)) ⟨createInMemorySpendLedger, []⟩ actions

def FoundRecorded (strKey : StrKey) (before : List (Action Call)) (i : Nat) : Prop :=
  ∃ first between request at_ total spentToday, before = first ++ .run i :: between ∧
    (run strKey first).1.calls[i]? = some (.authorise request at_, hasRead request at_ total spentToday) ∧
    turn queue ((run strKey first).1.calls.take i) (.authorise request at_) = true ∧
    hasRecorded (run strKey first).1.shared request.intent.intentId = true

/-- A record of an intent that the call found recorded, and that has been released since,
    still has room in its day. -/
def RecordsWithRoom (strKey : StrKey) (limit : Nat) (before : List (Action Call)) (i : Nat) : Prop :=
  ∀ request t g n, FoundRecorded strKey before i →
    (run strKey before).1.calls[i]? = some (.authorise request (some t), recording request (some t) g) →
    turn queue ((run strKey before).1.calls.take i) (.authorise request (some t)) = true →
    hasRecorded (run strKey before).1.shared g.intentId = false → toScaledAmount g.total = .ok n →
    total (run strKey before).1.shared ⟨request.intent.agent, g.currency, t.dayKey⟩ + n ≤ limit

/-! ### Every run is sound -/

def bookOf (strKey : StrKey) (before : List (Action Call)) : Book String Bucket :=
  grantedNotReleased (run strKey before).2

/-- The ledger remembers what the run has granted, and every call is at one of its stages. -/
structure Sound (strKey : StrKey) (limit : Nat) (before : List (Action Call)) : Prop where
  remembers : Remembers (run strKey before).1.shared (bookOf strKey before)
  fifo : Fifo queue (body strKey) (run strKey before).1.calls
  carries : ∀ (i : Nat) c task, (run strKey before).1.calls[i]? = some (c, task) → Carries limit c
  stages : ∀ (i : Nat) c task, (run strKey before).1.calls[i]? = some (c, task) →
    Stage strKey limit (bookOf strKey before) (FoundRecorded strKey before i) c task

section
variable {limit : Nat} {before : List (Action Call)}

private theorem run_snoc (strKey : StrKey) (before : List (Action Call)) (action : Action Call) :
    run strKey (before ++ [action]) = ((step queue (body strKey) (run strKey before).1 action).1,
      (run strKey before).2 ++ (step queue (body strKey) (run strKey before).1 action).2) := by
  simp [run, Traces.exec_append]

variable {i : Nat}

private theorem FoundRecorded.later (found : FoundRecorded strKey before i) (action : Action Call) :
    FoundRecorded strKey (before ++ [action]) i := by
  obtain ⟨first, between, request, at_, total, spentToday, rfl, read⟩ := found
  exact ⟨first, between ++ [action], request, at_, total, spentToday, by simp, read⟩

theorem Sound.acts (sound : Sound strKey limit before) {c : Call} {next : InMemorySpendLedger → InMemorySpendLedger}
    {rest : InMemorySpendLedger → Task InMemorySpendLedger Thrown Reply}
    (found : (run strKey before).1.calls[i]? = some (c, .act next rest))
    (first : turn queue ((run strKey before).1.calls.take i) c = true) :
    Acts strKey limit (FoundRecorded strKey before i) (FoundRecorded strKey (before ++ [.run i]) i)
      (run strKey before).1.shared (bookOf strKey before) c next rest := by
  refine (sound.stages i c _ found).acts sound.remembers (sound.carries i c _ found) ?_
  intro request at_ total spentToday call task recorded
  subst call
  rw [task] at found
  exact ⟨before, [], request, at_, total, spentToday, by simp, found, first, recorded⟩

/-- A charge moves only its own day, and no other begun call of its queue has read that day. -/
private theorem Sound.others (sound : Sound strKey limit before) {j : Nat} {c c' : Call}
    {task task' : Task InMemorySpendLedger Thrown Reply} {b' : Book String Bucket} {found : Prop} (other : j ≠ i)
    (runs : (run strKey before).1.calls[i]? = some (c, task))
    (first : turn queue ((run strKey before).1.calls.take i) c = true)
    (waits : (run strKey before).1.calls[j]? = some (c', task'))
    (effect : Effect limit found (run strKey before).1.shared (bookOf strKey before) c task b') :
    Stage strKey limit b' (FoundRecorded strKey (before ++ [.run i]) j) c' task' := by
  have stage := sound.stages j c' task' waits
  cases effect with
  | lowers lower => exact stage.mono (fun found => found.later _) fun _ _ _ => lower _
  | @charges request t g n _ _ amount free fits charged =>
    by_cases same : queue c' = queue (.authorise request (some t))
    · rcases Nat.lt_or_gt_of_ne other with before | after
      · exact .settles (turn_settled first before waits (by simp [queue]) same)
      · rcases sound.fifo i j _ c' _ task' after runs waits (by rw [same]; simp [queue]) same.symm with settled | fresh
        · cases settled
        · subst fresh
          exact .begins c'
    · refine stage.mono (fun found => found.later _) fun request' t' call => ?_
      subst call
      have apart : bucketOf request' t' ≠ bucketOf request t := by
        intro equal
        exact same (congrArg (fun bucket : Bucket => some bucket.subject) equal)
      rw [charged, if_neg apart, Int.add_zero]

private theorem bookOf_snoc (strKey : StrKey) (before : List (Action Call)) (action : Action Call) :
    bookOf strKey (before ++ [action]) =
      (step queue (body strKey) (run strKey before).1 action).2.foldl enter (bookOf strKey before) := by
  rw [bookOf, run_snoc, grantedNotReleased, List.foldl_append]
  rfl

theorem Sound.step (sound : Sound strKey limit before) (action : Action Call)
    (carry : ∀ c, action = .call c → Carries limit c) : Sound strKey limit (before ++ [action]) := by
  have fifo := step_fifo sound.fifo action
  have move : Move queue (body strKey) (run strKey before).1 action _ _ := step_move _ action
  have book := bookOf_snoc strKey before action
  have after := congrArg Prod.fst (run_snoc strKey before action)
  generalize Tasks.step queue (body strKey) (run strKey before).1 action = result at fifo move book after
  obtain ⟨p', events⟩ := result
  simp only at fifo move book after
  cases move with
  | idle =>
    refine ⟨?_, ?_, ?_, ?_⟩ <;> simp only [after, book]
    · exact sound.remembers
    · exact fifo
    · exact sound.carries
    · exact fun j c task found => (sound.stages j c task found).mono (fun found => found.later _) fun _ _ _ => le_rfl
  | @called c =>
    change _ = closes (bookOf strKey before) c (body strKey c) at book
    rw [closes_body] at book
    refine ⟨?_, ?_, ?_, ?_⟩ <;> simp only [after, book]
    · exact sound.remembers
    · exact fifo
    · intro j c' task found
      rw [List.getElem?_append] at found
      split_ifs at found with old
      · exact sound.carries j c' task found
      · rw [List.getElem?_singleton] at found
        split_ifs at found
        cases found
        exact carry c rfl
    · intro j c' task found
      rw [List.getElem?_append] at found
      split_ifs at found with old
      · exact (sound.stages j c' task found).mono (fun found => found.later _) fun _ _ _ => le_rfl
      · rw [List.getElem?_singleton] at found
        split_ifs at found
        cases found
        exact .begins c
  | @ran i c next rest running first =>
    have acts := sound.acts running first
    change _ = closes (bookOf strKey before) c (rest _) at book
    refine ⟨?_, ?_, ?_, ?_⟩ <;> simp only [after, book]
    · exact acts.remembers
    · exact fifo
    · intro j c' task found
      rw [List.getElem?_set] at found
      split_ifs at found with here
      · cases found
        exact sound.carries i c _ running
      · exact sound.carries j c' task found
    · intro j c' task found
      rw [List.getElem?_set] at found
      split_ifs at found with here
      · cases found
        subst here
        exact acts.stage
      · exact sound.others (Ne.symm here) running first found acts.effect

theorem sound_nil : Sound strKey limit [] where
  remembers := remembers_empty
  fifo i j c c' t t' _ found := by simp [run] at found
  carries i c task found := by simp [run] at found
  stages i c task found := by simp [run] at found

theorem run_sound (strKey : StrKey) (actions : List (Action Call)) (carry : ∀ c, .call c ∈ actions → Carries limit c) :
    Sound strKey limit actions := by
  induction actions using List.reverseRec with
  | nil => exact sound_nil
  | append_singleton before action ih =>
    refine (ih fun c called => carry c (List.mem_append_left _ called)).step action fun c same => ?_
    exact carry c (by simp [same])

/-- No total grows but by the record of a call, into a day with room unless the call found its intent recorded. -/
private theorem Sound.effect (sound : Sound strKey limit before) (action : Action Call) :
    (∀ bucket, held bucket (bookOf strKey (before ++ [action])) ≤ held bucket (bookOf strKey before)) ∨
      ∃ i c task, action = .run i ∧ (run strKey before).1.calls[i]? = some (c, task) ∧
        turn queue ((run strKey before).1.calls.take i) c = true ∧
        Effect limit (FoundRecorded strKey before i) (run strKey before).1.shared (bookOf strKey before) c task
          (bookOf strKey (before ++ [action])) := by
  have move : Move queue (body strKey) (run strKey before).1 action _ _ := step_move _ action
  rw [bookOf_snoc]
  generalize (Tasks.step queue (body strKey) (run strKey before).1 action).1 = p' at move
  generalize (Tasks.step queue (body strKey) (run strKey before).1 action).2 = events at move ⊢
  cases move with
  | idle => exact .inl fun _ => le_rfl
  | @called c =>
    refine .inl fun bucket => ?_
    change held bucket (closes (bookOf strKey before) c (body strKey c)) ≤ _
    rw [closes_body]
  | @ran i c next rest running first => exact .inr ⟨i, c, _, rfl, running, first, (sound.acts running first).effect⟩

/-- With room for every late record, what stands against a day is within the limit. -/
theorem run_held_le {actions : List (Action Call)} (carry : ∀ c, .call c ∈ actions → Carries limit c)
    (rooms : ∀ before i after, actions = before ++ .run i :: after → RecordsWithRoom strKey limit before i)
    (bucket : Bucket) : held bucket (bookOf strKey actions) ≤ limit := by
  induction actions using List.reverseRec generalizing bucket with
  | nil => exact Int.natCast_nonneg limit
  | append_singleton before action ih =>
    have carry' : ∀ c, .call c ∈ before → Carries limit c := fun c called => carry c (List.mem_append_left _ called)
    have within : ∀ bucket, held bucket (bookOf strKey before) ≤ limit := by
      refine ih carry' ?_
      rintro first i rest rfl
      exact rooms first i (rest ++ [action]) (by simp)
    have sound := run_sound strKey before carry'
    rcases sound.effect action with lower | ⟨i, c, task, rfl, running, first, effect⟩
    · exact (lower bucket).trans (within bucket)
    · cases effect with
      | lowers lower => exact (lower bucket).trans (within bucket)
      | @charges request t g n _ sameCurrency amount free fits charged =>
        have room : held (bucketOf request t) (bookOf strKey before) + n ≤ limit := by
          rcases fits with found | fits
          · have room := rooms before i [] rfl request t g n found running first free amount
            rw [sameCurrency, sound.remembers.totals] at room
            exact room
          · exact fits
        rw [charged]
        split_ifs with here
        · rw [here]
          exact room
        · rw [Int.add_zero]
          exact within bucket

private theorem total_after {request : AuthorisationRequest} {t : TimeValue} {g : AuthorisationGranted} {n : Nat}
    (running : (run strKey before).1.calls[i]? =
      some (.authorise request (some t), recording request (some t) g))
    (first : turn queue ((run strKey before).1.calls.take i) (.authorise request (some t)) = true)
    (free : hasRecorded (run strKey before).1.shared g.intentId = false) (amount : toScaledAmount g.total = .ok n) :
    total (run strKey (before ++ [.run i])).1.shared ⟨request.intent.agent, g.currency, t.dayKey⟩ =
      total (run strKey before).1.shared ⟨request.intent.agent, g.currency, t.dayKey⟩ + n := by
  obtain ⟨l', recorded, added⟩ := record_adds (e := entryOf request (some t) g) free amount rfl
  rw [recording, replying] at running
  rw [run_snoc, step_run running first]
  simp only [recorded]
  exact added

end

/-- Over every interleaving the ledger's totals are those of what was granted and not
    released, and they are within the limit exactly when every late record has room. -/
theorem interleavings_within_limit {limit : Nat} {actions : List (Action Call)}
    (carry : ∀ c, .call c ∈ actions → Carries limit c) : (∀ before after, actions = before ++ after → ∀ bucket,
      total (run strKey before).1.shared bucket ≤ limit ∧
        total (run strKey before).1.shared bucket = held bucket (grantedNotReleased (run strKey before).2)) ↔
      ∀ before i after, actions = before ++ .run i :: after → RecordsWithRoom strKey limit before i := by
  constructor
  · intro within before i after same request t g n _ running first free amount
    obtain ⟨bound, _⟩ := within (before ++ [.run i]) after (by rw [same, List.append_assoc]; rfl)
      ⟨request.intent.agent, g.currency, t.dayKey⟩
    rw [total_after running first free amount] at bound
    exact bound
  · rintro rooms before after rfl bucket
    have carry' : ∀ c, .call c ∈ before → Carries limit c := fun c called => carry c (List.mem_append_left _ called)
    have remembers := (run_sound strKey before carry').remembers
    refine ⟨?_, remembers.totals bucket⟩
    rw [remembers.totals]
    refine run_held_le carry' ?_ bucket
    rintro first i rest rfl
    exact rooms first i (rest ++ after) (by simp)

def authorised (i : Nat) (intentId : String) (days : Nat) : List (Action Call) :=
  [.call (.authorise (sampleRequest intentId "60.00") (sampleNoon days)), .run i, .run i, .run i]

private theorem carries_sample (intentId price : String) (at_ : Date) :
    Carries 1000000000 (.authorise (sampleRequest intentId price) at_) := by
  have hundred : toScaledAmount "100" = .ok 1000000000 := by rfl
  exact .inl hundred

theorem interleavings_within_limit_sample :
    total (run sampleStrKey (authorised 0 "tea" 0)).1.shared ⟨"did:agent", "USDC", "2026-09-30"⟩ ≤ 1000000000 := by
  have carry : ∀ c, .call c ∈ authorised 0 "tea" 0 → Carries 1000000000 c := by
    intro c called
    simp only [authorised, List.mem_cons, Action.call.injEq, reduceCtorEq, List.not_mem_nil, or_false] at called
    subst called
    exact carries_sample _ _ _
  -- before the last act of the only call nothing is recorded
  have empty : ∀ k ≤ 2, (run sampleStrKey ((authorised 0 "tea" 0).take k)).1.shared = createInMemorySpendLedger := by
    intro k few
    interval_cases k <;> rfl
  refine ((interleavings_within_limit carry).mpr ?_ _ [] (List.append_nil _).symm _).1
  rintro before i after same request t g n ⟨first, between, _, _, _, _, rfl, _, _, recorded⟩
  have few : first.length ≤ 2 := by
    have lengths := congrArg List.length same
    simp only [authorised, List.length_append, List.length_cons, List.length_nil] at lengths
    omega
  have taken : (authorised 0 "tea" 0).take first.length = first := by simp [same]
  rw [← taken, empty _ few] at recorded
  simp [hasRecorded, createInMemorySpendLedger] at recorded

/-! ### A release between the read and the record -/

/-- Tea is granted on one day, and coffee on the next; then tea is authorised again, and
    released after that call has read it as recorded. -/
def overtaken : List (Action Call) :=
  authorised 0 "tea" 0 ++ authorised 1 "coffee" 1 ++
    ([.call (.authorise (sampleRequest "tea" "60.00") (sampleNoon 1)), .run 2, .run 2,
      .call (.release ⟨"tea", "PaymentFailed"⟩), .run 3, .run 2] : List (Action Call))

private theorem total_overtaken :
    total (run sampleStrKey overtaken).1.shared ⟨"did:agent", "USDC", "2026-10-01"⟩ = 1200000000 := by
  decide +kernel

/-- Two spends of sixty against one day with a limit of a hundred. -/
theorem overtaken_exceeds : (∀ c, .call c ∈ overtaken → Carries 1000000000 c) ∧
    ¬∀ bucket, total (run sampleStrKey overtaken).1.shared bucket ≤ 1000000000 := by
  refine ⟨fun c called => ?_, fun within => ?_⟩
  · simp only [overtaken, authorised, List.mem_append, List.mem_cons, Action.call.injEq, reduceCtorEq,
      List.not_mem_nil, or_false, false_or] at called
    rcases called with (rfl | rfl) | rfl | rfl
    · exact carries_sample _ _ _
    · exact carries_sample _ _ _
    · exact carries_sample _ _ _
    · trivial
  · have exceeds := within ⟨"did:agent", "USDC", "2026-10-01"⟩
    rw [total_overtaken] at exceeds
    omega

end AgentPey.InProcessLimit
