import AgentPey.Expiry
import Mathlib.Algebra.Ring.Int.Defs
import Mathlib.Data.List.Pairwise

/-!
How often a partner asks, and a wallet is registered. The requests of an API key are counted in the directory, minute by
minute (`partner-api/src/rate-limit.ts`, `countRateLimitedRequest` and `sweepRateLimitWindows`), for processes that each
have their own clock; registrations are counted by one process in a rolling window (`issuer-registration-limit.ts`).
-/
namespace AgentPey.RateLimits
open Traces (along along_run exec)
open Expiry (exec_snoc remember)

inductive RateLimitTier
  | standard
  | costly
  deriving DecidableEq

/-- `API_SCOPES`. -/
inductive ApiScope
  | tenantsRead
  | tenantsWrite
  | agentsRead
  | consentSessionsRead
  | consentSessionsWrite
  | mandatesRead
  | paymentsAuthorize
  | paymentsPreview
  | paymentsRead
  | vaultRead
  | webhooksRead
  | webhooksWrite

def RATE_LIMITS : RateLimitTier → Nat
  | .standard => 120
  | .costly => 10

def RATE_LIMIT_WINDOW_MS : Int := 60000

def tierForScope : ApiScope → RateLimitTier
  | .paymentsAuthorize | .consentSessionsWrite | .webhooksWrite => .costly
  | _ => .standard

def windowStartFor (now : Int) : Int := now / RATE_LIMIT_WINDOW_MS * RATE_LIMIT_WINDOW_MS

/-- The key of a row of `directory_rate_limit_windows`. -/
structure Window where
  apiKeyId : String
  tier : RateLimitTier
  windowStart : Int
  deriving DecidableEq

def windowOf (apiKeyId : String) (scope : ApiScope) (now : Int) : Window :=
  ⟨apiKeyId, tierForScope scope, windowStartFor now⟩

/-- The counts that are stored. -/
abbrev Rows := Window → Option Nat

/-- The upsert, unless the count leaves the column's range. -/
def countRateLimitedRequest (w : Window) (rows : Rows) : Option (Nat × Rows) :=
  let count := (rows w).getD 0 + 1
  if count ≤ 2147483647 then some (count, fun v => if v = w then some count else rows v) else none

def sweepRateLimitWindows (before : Int) (rows : Rows) : Rows := fun w => if w.windowStart < before then none else rows w

/-- A count is answered, is lost on its way back, or is never made. -/
inductive Reply
  | answered
  | lost
  | failed

inductive Verdict
  | passes (count : Option Nat)
  | rateLimited (tier : RateLimitTier) (limit : Nat) (resetAt retryAfterSeconds : Int)
  | rateLimiterUnavailable (tier : RateLimitTier)

def enforceRateLimit (scope : ApiScope) (now : Int) : Option Nat → Verdict
  | none => if tierForScope scope = .standard then .passes none else .rateLimiterUnavailable (tierForScope scope)
  | some count =>
    if count ≤ RATE_LIMITS (tierForScope scope) then .passes (some count)
    else
      let resetAt := windowStartFor now + RATE_LIMIT_WINDOW_MS
      -- Rounded up to whole seconds.
      .rateLimited (tierForScope scope) (RATE_LIMITS (tierForScope scope)) resetAt (max 1 (-(-(resetAt - now) / 1000)))

inductive Act
  | request (apiKeyId : String) (scope : ApiScope) (now : Int) (reply : Reply)
  | sweep (now : Int)

inductive Event
  | decided (apiKeyId : String) (scope : ApiScope) (now : Int) (stored : Bool) (verdict : Verdict)
  | swept (before : Int)

def step (rows : Rows) : Act → Rows × List Event
  | .request apiKeyId scope now reply =>
    let w := windowOf apiKeyId scope now
    match countRateLimitedRequest w rows, reply with
    | some (count, rows), .answered => (rows, [.decided apiKeyId scope now true (enforceRateLimit scope now (some count))])
    | some (_, rows), .lost => (rows, [.decided apiKeyId scope now true (enforceRateLimit scope now none)])
    | _, _ => (rows, [.decided apiKeyId scope now false (enforceRateLimit scope now none)])
  | .sweep now =>
    let before := now - 3600000
    (sweepRateLimitWindows before rows, [.swept before])

def run (acts : List Act) : Rows × List Event := exec step (fun _ => none) acts

/-- No window that a request falls in was swept. -/
def InTime (_ : Rows) (t : List Event) : Act → Bool
  | .request _ _ now _ => t.all fun e => match e with
    | .swept before => before ≤ windowStartFor now
    | _ => true
  | .sweep _ => true

/-! ### Requests -/

/-- The counts of a window that were stored. -/
def landed (w : Window) (t : List Event) : Nat := t.countP fun e => match e with
  | .decided apiKeyId scope now true _ => windowOf apiKeyId scope now = w
  | _ => false

/-- A request that was counted, and passes. -/
def Event.passes (among : String → RateLimitTier → Int → Bool) : Event → Bool
  | .decided apiKeyId scope now _ (.passes (some _)) => among apiKeyId (tierForScope scope) now
  | _ => false

def inWindow (w : Window) (apiKeyId : String) (tier : RateLimitTier) (now : Int) : Bool :=
  Window.mk apiKeyId tier (windowStartFor now) = w

/-- A minute of the processes' clocks, which need not start with a window. -/
def inMinute (key : String) (tier : RateLimitTier) (start : Int) (apiKeyId : String) (other : RateLimitTier) (now : Int) : Bool :=
  apiKeyId = key ∧ other = tier ∧ start ≤ now ∧ now < start + RATE_LIMIT_WINDOW_MS

/-- The verdict of a request that is the last of those seen. -/
def Judged (seen : List Event) (apiKeyId : String) (scope : ApiScope) (now : Int) : Verdict → Prop
  | .passes (some count) =>
    count = landed (windowOf apiKeyId scope now) seen ∧ count ≤ RATE_LIMITS (tierForScope scope)
  | .passes none => tierForScope scope = .standard
  | .rateLimited tier limit resetAt retryAfterSeconds =>
    tier = tierForScope scope ∧ limit = RATE_LIMITS tier ∧ limit < landed (windowOf apiKeyId scope now) seen ∧
      1 ≤ retryAfterSeconds ∧ retryAfterSeconds ≤ 60 ∧ resetAt ≤ now + 1000 * retryAfterSeconds ∧
      ∀ later, windowStartFor later = windowStartFor now → later < resetAt
  | .rateLimiterUnavailable tier => tier = .costly ∧ tierForScope scope = .costly

structure Kept (rows : Rows) (t : List Event) : Prop where
  counts : ∀ w, (∀ before, .swept before ∈ t → before ≤ w.windowStart) → (rows w).getD 0 = landed w t
  fewer : ∀ w, t.countP (Event.passes (inWindow w)) ≤ landed w t
  within : ∀ w, t.countP (Event.passes (inWindow w)) ≤ RATE_LIMITS w.tier

theorem windowStartFor_le (now : Int) : windowStartFor now ≤ now ∧ now < windowStartFor now + RATE_LIMIT_WINDOW_MS := by
  unfold windowStartFor RATE_LIMIT_WINDOW_MS
  omega

theorem judged_none (seen : List Event) (apiKeyId : String) (scope : ApiScope) (now : Int) :
    Judged seen apiKeyId scope now (enforceRateLimit scope now none) := by
  unfold enforceRateLimit
  split_ifs with standard
  · exact standard
  · cases tier : tierForScope scope with
    | standard => exact absurd tier standard
    | costly => exact ⟨rfl, tier⟩

theorem judged_some {seen : List Event} {apiKeyId : String} {scope : ApiScope} {now : Int} {count : Nat}
    (counts : count = landed (windowOf apiKeyId scope now) seen) :
    Judged seen apiKeyId scope now (enforceRateLimit scope now (some count)) := by
  by_cases room : count ≤ RATE_LIMITS (tierForScope scope)
  · simp only [enforceRateLimit, if_pos room]
    exact ⟨counts, room⟩
  · simp only [enforceRateLimit, if_neg room]
    obtain ⟨begun, open_⟩ := windowStartFor_le now
    unfold RATE_LIMIT_WINDOW_MS at *
    refine ⟨rfl, rfl, counts ▸ Nat.lt_of_not_le room, by omega, by omega, by omega, fun later same => ?_⟩
    exact same ▸ (windowStartFor_le later).2

section
variable (among : String → RateLimitTier → Int → Bool) (apiKeyId : String) (scope : ApiScope) (now : Int) (stored : Bool)
include among apiKeyId scope now stored

theorem passes_none : Event.passes among (.decided apiKeyId scope now stored (enforceRateLimit scope now none)) = false := by
  unfold enforceRateLimit
  split_ifs <;> rfl

theorem passes_some (count : Nat) :
    Event.passes among (.decided apiKeyId scope now stored (enforceRateLimit scope now (some count))) =
      (among apiKeyId (tierForScope scope) now && decide (count ≤ RATE_LIMITS (tierForScope scope))) := by
  by_cases room : count ≤ RATE_LIMITS (tierForScope scope)
  · simp [enforceRateLimit, Event.passes, room]
  · simp [enforceRateLimit, Event.passes, room]

end

/-- A request is decided by its count, when that is stored and comes back, or without one. -/
theorem step_request (rows : Rows) (apiKeyId : String) (scope : ApiScope) (now : Int) (reply : Reply) :
    ∃ stored answer, (answer = none ∨ stored = true ∧ answer = some ((rows (windowOf apiKeyId scope now)).getD 0 + 1)) ∧
      step rows (.request apiKeyId scope now reply) =
        (fun w => if stored = true ∧ w = windowOf apiKeyId scope now then some ((rows w).getD 0 + 1) else rows w,
          [.decided apiKeyId scope now stored (enforceRateLimit scope now answer)]) := by
  have upserted : (fun w => if w = windowOf apiKeyId scope now then
      some ((rows (windowOf apiKeyId scope now)).getD 0 + 1) else rows w) =
        fun w => if true = true ∧ w = windowOf apiKeyId scope now then some ((rows w).getD 0 + 1) else rows w := by
    funext w
    by_cases own : w = windowOf apiKeyId scope now <;> simp [own]
  simp only [step, countRateLimitedRequest]
  split_ifs with inRange
  · cases reply with
    | answered => exact ⟨true, some _, .inr ⟨rfl, rfl⟩, by rw [upserted]⟩
    | lost => exact ⟨true, none, .inl rfl, by rw [upserted]⟩
    | failed => exact ⟨false, none, .inl rfl, by simp⟩
  · exact ⟨false, none, .inl rfl, by simp⟩

theorem Kept.next (kept : Kept rows t) {a : Act} (inTime : InTime rows t a = true) :
    Kept (step rows a).1 (t ++ (step rows a).2) ∧
    ∀ apiKeyId scope now stored verdict, .decided apiKeyId scope now stored verdict ∈ (step rows a).2 →
      Judged (t ++ (step rows a).2) apiKeyId scope now verdict := by
  cases a with
  | sweep now =>
    refine ⟨⟨fun w unswept => ?_, fun w => ?_, fun w => ?_⟩, by simp [step]⟩
    · have stays : ¬w.windowStart < now - 3600000 := by
        have late := unswept (now - 3600000) (by simp [step])
        omega
      have same := kept.counts w fun before among => unswept before (List.mem_append_left _ among)
      simpa [step, sweepRateLimitWindows, stays, landed] using same
    · simpa [step, landed, Event.passes] using kept.fewer w
    · simpa [step, Event.passes] using kept.within w
  | request apiKeyId scope now reply =>
    have here : (rows (windowOf apiKeyId scope now)).getD 0 = landed (windowOf apiKeyId scope now) t := by
      refine kept.counts _ fun before among => ?_
      simpa [windowOf] using List.all_eq_true.mp inTime _ among
    obtain ⟨stored, answer, answered, stepped⟩ := step_request rows apiKeyId scope now reply
    rw [here] at answered
    rw [stepped]
    have next (w : Window) : landed w (t ++ [.decided apiKeyId scope now stored (enforceRateLimit scope now answer)]) =
        landed w t + if stored = true ∧ w = windowOf apiKeyId scope now then 1 else 0 := by
      cases stored <;> simp [landed, List.countP_singleton, eq_comm]
    have passes (w : Window) (passed : Event.passes (inWindow w)
        (.decided apiKeyId scope now stored (enforceRateLimit scope now answer)) = true) :
        (stored = true ∧ w = windowOf apiKeyId scope now) ∧ landed w t + 1 ≤ RATE_LIMITS w.tier := by
      rcases answered with rfl | ⟨rfl, rfl⟩
      · rw [passes_none] at passed
        cases passed
      · simp only [passes_some, inWindow, Bool.and_eq_true, decide_eq_true_eq] at passed
        obtain ⟨rfl, room⟩ := passed
        exact ⟨⟨rfl, rfl⟩, room⟩
    refine ⟨⟨fun w unswept => ?_, fun w => ?_, fun w => ?_⟩, fun id s n kept_ verdict decided => ?_⟩
    · have same := kept.counts w fun before among => unswept before (List.mem_append_left _ among)
      rw [next, ← same]
      by_cases own : stored = true ∧ w = windowOf apiKeyId scope now
      · simp only [if_pos own, Option.getD_some]
      · simp only [if_neg own, Nat.add_zero]
    · have fewer := kept.fewer w
      rw [next, List.countP_append, List.countP_singleton]
      split_ifs with passed own
      · omega
      · exact absurd (passes w passed).1 own
      · omega
      · omega
    · have fewer := kept.fewer w
      have within := kept.within w
      rw [List.countP_append, List.countP_singleton]
      split_ifs with passed
      · have room := (passes w passed).2
        omega
      · exact within
    · simp only [List.mem_singleton, Event.decided.injEq] at decided
      obtain ⟨rfl, rfl, rfl, rfl, rfl⟩ := decided
      rcases answered with rfl | ⟨rfl, rfl⟩
      · exact judged_none _ _ _ _
      · exact judged_some (by rw [next, if_pos ⟨rfl, rfl⟩])

theorem countP_minute (key : String) (tier : RateLimitTier) (start : Int) (t : List Event) :
    t.countP (Event.passes (inMinute key tier start)) ≤
      t.countP (Event.passes (inWindow ⟨key, tier, windowStartFor start⟩)) +
        t.countP (Event.passes (inWindow ⟨key, tier, windowStartFor start + RATE_LIMIT_WINDOW_MS⟩)) := by
  have one (e : Event) (passes : Event.passes (inMinute key tier start) e = true) :
      Event.passes (inWindow ⟨key, tier, windowStartFor start⟩) e = true ∨
        Event.passes (inWindow ⟨key, tier, windowStartFor start + RATE_LIMIT_WINDOW_MS⟩) e = true := by
    unfold Event.passes at *
    split at passes
    · rename_i apiKeyId scope now stored count
      simp only [inMinute, decide_eq_true_eq] at passes
      obtain ⟨rfl, rfl, from_, until_⟩ := passes
      have two : windowStartFor now = windowStartFor start ∨
          windowStartFor now = windowStartFor start + RATE_LIMIT_WINDOW_MS := by
        unfold windowStartFor RATE_LIMIT_WINDOW_MS at *
        omega
      simpa [inWindow] using two
    · cases passes
  induction t with
  | nil => simp
  | cons e t ih =>
    simp only [List.countP_cons]
    have either := one e
    split_ifs <;> first | omega | tauto

theorem kept_run {acts : List Act} (inTime : along step InTime (fun _ => none) [] acts = true) {before after : List Act}
    (split : acts = before ++ after) : Kept (run before).1 (run before).2 := by
  refine Traces.exec_invariant_along ⟨fun w _ => rfl, fun w => le_refl _, fun w => Nat.zero_le _⟩ before ?_
  rintro first a rest rfl kept
  exact (kept.next (along_run inTime first a (rest ++ after) (by simpa using split))).1

/-- Over every interleaving of requests and sweeps in which no window is swept that a request still falls in: a request
    whose count comes back passes exactly when its window has room, no costly one passes uncounted, who is refused is told
    a time that leads out of the window, a window admits its limit, and a minute at most twice that. -/
theorem requests_limited (acts : List Act) (inTime : along step InTime (fun _ => none) [] acts = true) :
    (∀ before a after, acts = before ++ a :: after → ∀ apiKeyId scope now stored verdict,
      .decided apiKeyId scope now stored verdict ∈ (step (run before).1 a).2 →
        Judged (run (before ++ [a])).2 apiKeyId scope now verdict) ∧
    (∀ w, (run acts).2.countP (Event.passes (inWindow w)) ≤ RATE_LIMITS w.tier) ∧
    ∀ key tier start, (run acts).2.countP (Event.passes (inMinute key tier start)) ≤ 2 * RATE_LIMITS tier := by
  have all := kept_run inTime (List.append_nil acts).symm
  refine ⟨fun before a after split apiKeyId scope now stored verdict decided => ?_, all.within, fun key tier start => ?_⟩
  · have judged := ((kept_run inTime split).next (along_run inTime before a after split)).2 _ _ _ _ _ decided
    rw [run, Traces.exec_append]
    simpa [run] using judged
  · have minute := countP_minute key tier start (run acts).2
    have first := all.within ⟨key, tier, windowStartFor start⟩
    have second := all.within ⟨key, tier, windowStartFor start + RATE_LIMIT_WINDOW_MS⟩
    dsimp only at first second
    omega

/-- A loop of eleven purchases: the last is told to come back in a second, when the next window begins. -/
def loop : List Act := List.replicate 11 (.request "key" .paymentsAuthorize 59000 .answered)

theorem requests_limited_loop :
    (run loop).2[10]? = some (.decided "key" .paymentsAuthorize 59000 true (.rateLimited .costly 10 60000 1)) ∧
    (run loop).2.countP (Event.passes (inMinute "key" .costly 30000)) ≤ 20 :=
  ⟨by rfl, (requests_limited loop (by decide)).2.2 "key" .costly 30000⟩

/-! ### Registrations -/

structure IssuerRegistrationLimiterOptions where
  maxPerWindow : Nat
  windowMs : Int

section
variable (options : IssuerRegistrationLimiterOptions)

def stillCounts (now at_ : Int) : Bool := now - options.windowMs < at_

/-- The registrations it keeps, oldest first, and the wait that it tells of when it refuses. -/
def consume (timestamps : List Int) (now : Int) : List Int × Except Int Unit :=
  let timestamps := timestamps.filter (stillCounts options now)
  if options.maxPerWindow ≤ timestamps.length then (timestamps, .error (timestamps.headD now + options.windowMs - now))
  else (timestamps ++ [now], .ok ())

/-- What is kept after some readings of the clock, and all registrations that were let through. -/
def registrations (clocks : List Int) : List Int × List Int :=
  exec (fun timestamps now =>
    ((consume options timestamps now).1, if (consume options timestamps now).2.isOk then [now] else [])) [] clocks

def room (timestamps : List Int) (now : Int) : List Int := if options.maxPerWindow ≤ timestamps.length then [] else [now]

variable {options} {clocks : List Int}

theorem registrations_eq (clocks : List Int) :
    registrations options clocks = exec (remember (stillCounts options) id (room options)) [] clocks := by
  refine congrArg (fun step => exec step [] clocks) (funext fun timestamps => funext fun now => ?_)
  by_cases full : options.maxPerWindow ≤ (timestamps.filter (stillCounts options now)).length
  · simp [consume, remember, room, full, Except.isOk, Except.toBool]
  · simp [consume, remember, room, full, Except.isOk, Except.toBool]

theorem stillCounts_lapses : Expiry.Lapses (stillCounts options) := by
  intro now later at_ after counts
  simp only [stillCounts, decide_eq_true_eq] at *
  omega

theorem registrations_kept {now : Int} (ordered : clocks.Pairwise (· ≤ ·)) (after : ∀ earlier ∈ clocks, earlier ≤ now) :
    (registrations options clocks).1.filter (stillCounts options now) =
      (registrations options clocks).2.filter (stillCounts options now) := by
  rw [registrations_eq]
  exact Expiry.kept_run stillCounts_lapses ordered after

theorem registrations_read (clocks : List Int) : (registrations options clocks).2.Sublist clocks := by
  rw [registrations_eq]
  induction clocks using List.reverseRec with
  | nil => exact .slnil
  | append_singleton before now ih =>
    rw [exec_snoc]
    refine ih.append ?_
    unfold remember room
    split_ifs
    · exact List.nil_sublist _
    · exact .refl _

theorem registrations_few (clocks : List Int) : (registrations options clocks).1.length ≤ options.maxPerWindow := by
  rw [registrations_eq]
  refine Traces.exec_invariant (I := fun timestamps : List Int => timestamps.length ≤ options.maxPerWindow) (fun timestamps now few => ?_)
    (Nat.zero_le _) clocks
  have fewer := List.length_filter_le (stillCounts options now) timestamps
  rw [remember, List.length_append, room]
  split_ifs with full
  · exact Nat.le_trans fewer few
  · exact Nat.lt_of_not_le full

theorem registrations_within (ordered : clocks.Pairwise (· ≤ ·)) (start : Int) :
    ((registrations options clocks).2.countP fun at_ => start ≤ at_ ∧ at_ < start + options.windowMs) ≤ options.maxPerWindow := by
  induction clocks using List.reverseRec with
  | nil => exact Nat.zero_le _
  | append_singleton before now ih =>
    obtain ⟨earlier, _, last⟩ := List.pairwise_append.mp ordered
    have kept : (registrations options before).1.filter (stillCounts options now) =
        (registrations options before).2.filter (stillCounts options now) :=
      registrations_kept earlier fun at_ among => last at_ among now (List.mem_singleton_self now)
    have old := ih earlier
    rw [registrations_eq] at kept old ⊢
    rw [exec_snoc, List.countP_append, remember, id, kept, room, ← List.countP_eq_length_filter]
    split_ifs with full
    · exact old
    · rw [List.countP_singleton]
      split_ifs with inside
      · -- Who is in the window with this registration still counts for it.
        have fewer : (exec (remember (stillCounts options) id (room options)) [] before).2.countP
            (fun at_ => start ≤ at_ ∧ at_ < start + options.windowMs) ≤
              (exec (remember (stillCounts options) id (room options)) [] before).2.countP (stillCounts options now) := by
          refine List.countP_mono_left fun at_ _ among => ?_
          simp only [stillCounts, decide_eq_true_eq] at among inside ⊢
          omega
        omega
      · exact old

theorem consume_full {kept : List Int} (sorted : kept.Pairwise (· ≤ ·)) (full : kept.length = options.maxPerWindow)
    (some_ : 0 < options.maxPerWindow) (now : Int) {later : Int} :
    (consume options kept later).2.isOk ↔ kept.headD now + options.windowMs ≤ later := by
  cases kept with
  | nil => exact absurd full (Nat.ne_of_lt some_)
  | cons first rest =>
    by_cases gone : first + options.windowMs ≤ later
    · have left : (first :: rest).filter (stillCounts options later) = rest.filter (stillCounts options later) :=
        List.filter_cons_of_neg (by simpa [stillCounts] using by omega)
      have fewer : (rest.filter (stillCounts options later)).length ≤ rest.length := List.length_filter_le _ _
      have room : ¬options.maxPerWindow ≤ ((first :: rest).filter (stillCounts options later)).length := by
        rw [left, ← full, List.length_cons]
        omega
      simp [consume, room, gone, Except.isOk, Except.toBool]
    · have all : (first :: rest).filter (stillCounts options later) = first :: rest := by
        refine List.filter_eq_self.mpr fun at_ among => decide_eq_true ?_
        rcases List.mem_cons.mp among with rfl | other
        · omega
        · have oldest := List.rel_of_pairwise_cons sorted other
          omega
      have none_ : options.maxPerWindow ≤ ((first :: rest).filter (stillCounts options later)).length := by
        rw [all, full]
      simp [consume, none_, gone, Except.isOk, Except.toBool]

end

/-- The admin key pays for no more registrations in any window than it may, wherever the window begins, and a refusal tells
    exactly how long none will be let through. -/
theorem registrations_limited (options : IssuerRegistrationLimiterOptions) (clocks : List Int) (ordered : clocks.Pairwise (· ≤ ·)) :
    (∀ start, ((registrations options clocks).2.countP fun at_ => start ≤ at_ ∧ at_ < start + options.windowMs) ≤
      options.maxPerWindow) ∧
    ∀ before now after wait, clocks = before ++ now :: after → 0 < options.maxPerWindow →
      (consume options (registrations options before).1 now).2 = .error wait →
        ∀ later, now ≤ later →
          ((consume options (consume options (registrations options before).1 now).1 later).2.isOk ↔ now + wait ≤ later) := by
  refine ⟨registrations_within ordered, ?_⟩
  rintro before now after wait rfl some_ refused later passed
  obtain ⟨earlier, _, last⟩ := List.pairwise_append.mp ordered
  have few : ((registrations options before).1.filter (stillCounts options now)).length ≤ options.maxPerWindow :=
    Nat.le_trans (List.length_filter_le _ _) (registrations_few before)
  have sorted : ((registrations options before).1.filter (stillCounts options now)).Pairwise (· ≤ ·) := by
    rw [registrations_kept earlier fun at_ among => last at_ among now List.mem_cons_self]
    exact (earlier.sublist (registrations_read before)).filter _
  by_cases full : options.maxPerWindow ≤ ((registrations options before).1.filter (stillCounts options now)).length
  · have kept : consume options (registrations options before).1 now =
        ((registrations options before).1.filter (stillCounts options now),
          .error (((registrations options before).1.filter (stillCounts options now)).headD now + options.windowMs - now)) := by
      simp [consume, full]
    rw [kept] at refused
    rw [kept, consume_full sorted (Nat.le_antisymm few full) some_ now]
    cases refused
    exact ⟨fun free => by omega, fun free => by omega⟩
  · simp [consume, full] at refused

/-- Two registrations a minute, a minute apart. -/
theorem registrations_limited_sample :
    ((registrations ⟨2, 60000⟩ [0, 30000, 50000, 60000]).2 = [0, 30000, 60000]) ∧
    ((consume ⟨2, 60000⟩ [0, 30000] 60000).2.isOk ↔ (50000 : Int) + 10000 ≤ 60000) :=
  ⟨by decide, (registrations_limited ⟨2, 60000⟩ [0, 30000, 50000, 60000] (by decide)).2 [0, 30000] 50000 [60000] 10000 rfl
    (by decide) (by rfl) 60000 (by decide)⟩

end AgentPey.RateLimits
