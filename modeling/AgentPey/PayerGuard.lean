import AgentPey.Traces
import Mathlib.Data.List.Sort

/-!
A store's limit on who may pay it (`payer-guard.ts`): at most so many purchases of one payer in a sliding window. The
guard keeps the times of a payer's admissions, and a release takes the last one away; beside it stands what it is for,
the admissions themselves, each with its own place.
-/
namespace AgentPey.PayerGuard
open List (append_assoc append_nil filter_append mem_append mem_cons mem_singleton)

structure PayerLimit where
  max : Nat
  windowSeconds : Nat
  deriving DecidableEq

structure PayerGuardSettings where
  blocked : List String
  limit : Option PayerLimit

inductive PayerAdmission where
  | ok
  | payer_blocked
  | payer_rate_limited (retryAfterSeconds : Int)
  deriving DecidableEq

/-- When each payer's recent purchases were admitted, oldest first; a payer without any has an empty list. -/
structure Guard where
  settings : PayerGuardSettings
  recent : String → List Int

def Guard.setRecent (g : Guard) (payer : String) (times : List Int) : Guard :=
  { g with recent := fun p => if p = payer then times else g.recent p }

def push (g : Guard) (payer : String) (at_ : Int) : Guard :=
  g.setRecent payer ((g.recent payer ++ [at_]).insertionSort (· ≤ ·))

/-- The guard of a store that has some purchases; a time that could not be read is `none`. -/
def Guard.new (settings : PayerGuardSettings) (seed : List (String × Option Int)) : Guard :=
  seed.foldl (fun g purchase => match purchase.2 with
    | some at_ => push g purchase.1 at_
    | none => g) ⟨settings, fun _ => []⟩

def PayerLimit.windowMs (limit : PayerLimit) : Int := limit.windowSeconds * 1000

def PayerLimit.inWindow (limit : PayerLimit) (now at_ : Int) : Bool := now - at_ < limit.windowMs

def admitPayer (g : Guard) (now : Int) (payer : Option String) : PayerAdmission × Guard :=
  match payer with
  | none => (.ok, g)
  | some payer =>
    if payer ∈ g.settings.blocked then (.payer_blocked, g)
    else
      match g.settings.limit with
      | none => (.ok, g)
      | some limit =>
        let inWindow := (g.recent payer).filter (limit.inWindow now)
        if limit.max ≤ inWindow.length then
          let oldest := inWindow.headD now
          (.payer_rate_limited (max 1 (-((now - oldest - limit.windowMs) / 1000))), g.setRecent payer inWindow)
        else (.ok, g.setRecent payer (inWindow ++ [now]))

def release (g : Guard) (payer : Option String) : Guard :=
  match payer, g.settings.limit with
  | some payer, some _ => g.setRecent payer (g.recent payer).dropLast
  | _, _ => g

/-! ### Admissions and their releases -/

structure Admission where
  payer : Option String
  at_ : Int
  released : Bool
  deriving DecidableEq

/-- The guard, the clock in milliseconds, and every admission so far. -/
structure World where
  guard : Guard
  now : Int
  admissions : List Admission

inductive Action where
  | tick (ms : Nat)
  | admitPayer (payer : Option String)
  | release (admission : Nat)

def step (w : World) : Action → World × List PayerAdmission
  | .tick ms => ({ w with now := w.now + ms }, [])
  | .admitPayer payer =>
    let (answer, guard) := admitPayer w.guard w.now payer
    ({ w with guard := guard,
              admissions := if answer = .ok then w.admissions ++ [⟨payer, w.now, false⟩] else w.admissions }, [answer])
  | .release i =>
    match w.admissions[i]? with
    | some a =>
      if a.released then (w, [])
      else ({ w with guard := release w.guard a.payer, admissions := w.admissions.set i { a with released := true } }, [])
    | none => (w, [])

def start (settings : PayerGuardSettings) (seed : List (String × Option Int)) (now : Int) : World :=
  ⟨Guard.new settings seed, now, []⟩

abbrev run (w : World) (actions : List Action) : World := (Traces.exec step w actions).1

def Admission.open_ (payer : String) (a : Admission) : Bool := a.payer = some payer ∧ a.released = false

def admitted (admissions : List Admission) (payer : String) : List Int :=
  (admissions.filter (Admission.open_ payer)).map (·.at_)

section
variable (seed : List (String × Option Int)) (limit : PayerLimit) (blocked : List String)

/-- The places that are taken: the purchases that the store already had, and the admissions not released. -/
def places (w : World) (payer : String) : List Int :=
  (Guard.new ⟨blocked, some limit⟩ seed).recent payer ++ admitted w.admissions payer

/-- No sliding window holds more admissions of one payer than the maximum. -/
def Bounded (w : World) : Prop :=
  ∀ payer now, ((admitted w.admissions payer).filter fun at_ => at_ ≤ now ∧ limit.inWindow now at_).length ≤ limit.max

/-- What the guard counts in the window are the places that are taken, and nothing else. -/
def Exact (w : World) : Prop :=
  ∀ payer, (w.guard.recent payer).filter (limit.inWindow w.now) =
    (places seed limit blocked w payer).filter (limit.inWindow w.now)

/-- A release is in order when no later place of the same payer is still in the window. -/
def InOrder (w : World) : Action → Prop
  | .release i => ∀ a payer, w.admissions[i]? = some a → a.released = false → a.payer = some payer →
      ∀ at_ ∈ places seed limit blocked w payer, a.at_ < at_ → limit.inWindow w.now at_ = false
  | _ => True

end

/-! ### Lists of times -/

section
variable {limit : PayerLimit} {now now' : Int} {l : List Int}

theorem inWindow_mono {a b : Int} (le : a ≤ b) (inside : limit.inWindow now a = true) : limit.inWindow now b = true := by
  simp only [PayerLimit.inWindow, decide_eq_true_eq] at inside ⊢
  omega

theorem inWindow_later {a : Int} (le : now ≤ now') (inside : limit.inWindow now' a = true) : limit.inWindow now a = true := by
  simp only [PayerLimit.inWindow, decide_eq_true_eq] at inside ⊢
  omega

theorem filter_later (le : now ≤ now') :
    l.filter (limit.inWindow now') = (l.filter (limit.inWindow now)).filter (limit.inWindow now') := by
  rw [List.filter_filter]
  apply List.filter_congr
  intro a _
  by_cases inside : limit.inWindow now' a
  · simp [inside, inWindow_later le inside]
  · simp [inside]

theorem filter_dropLast (sorted : l.Pairwise (· ≤ ·)) :
    l.dropLast.filter (limit.inWindow now) = (l.filter (limit.inWindow now)).dropLast := by
  induction l using List.reverseRec with
  | nil => rfl
  | append_singleton l last _ =>
    rw [List.dropLast_concat, filter_append]
    by_cases inside : limit.inWindow now last
    · simp [inside]
    · have none_ : l.filter (limit.inWindow now) = [] := by
        rw [List.filter_eq_nil_iff]
        intro a member within
        have le : a ≤ last := (List.pairwise_append.mp sorted).2.2 a member last (by simp)
        exact inside (inWindow_mono le within)
      simp [none_, inside]

variable {x : Int}

theorem dropLast_eq_tail {l : List Int} (same : (x :: l).dropLast = l) : ∀ a ∈ l, a = x := by
  induction l generalizing x with
  | nil => simp
  | cons y rest ih =>
    rw [List.dropLast_cons_cons] at same
    obtain ⟨rfl, same⟩ := List.cons.inj same
    intro a member
    rcases mem_cons.mp member with here | later
    · exact here
    · exact ih same a later

theorem dropLast_replicate {l : List Int} (all : ∀ a ∈ l, a = x) : (x :: l).dropLast = l := by
  rw [List.eq_replicate_of_mem all, ← List.replicate_succ, List.dropLast_replicate]
  rfl

/-- The last of the times in the window goes exactly when no time after `x` is in it. -/
theorem pop_exact {before after : List Int} (sorted : (before ++ x :: after).Pairwise (· ≤ ·)) :
    ((before ++ x :: after).filter (limit.inWindow now)).dropLast = (before ++ after).filter (limit.inWindow now) ↔
      ∀ a ∈ before ++ x :: after, x < a → limit.inWindow now a = false := by
  obtain ⟨_, sortedAfter, le⟩ := List.pairwise_append.mp sorted
  have early : ∀ a ∈ before, a ≤ x := fun a member => le a member x List.mem_cons_self
  have late : ∀ a ∈ after, x ≤ a := (List.pairwise_cons.mp sortedAfter).1
  by_cases inside : limit.inWindow now x
  · have all : after.filter (limit.inWindow now) = after :=
      List.filter_eq_self.mpr fun a member => inWindow_mono (late a member) inside
    have cut : (before.filter (limit.inWindow now) ++ x :: after).dropLast =
        before.filter (limit.inWindow now) ++ (x :: after).dropLast := List.dropLast_append_of_ne_nil (by simp)
    rw [filter_append, filter_append, List.filter_cons_of_pos inside, all, cut, List.append_cancel_left_eq]
    constructor
    · intro same a member later
      rcases mem_append.mp member with first | rest
      · have := early a first
        omega
      · rcases mem_cons.mp rest with rfl | rest
        · omega
        · have := dropLast_eq_tail same a rest
          omega
    · intro none_
      apply dropLast_replicate
      intro a member
      by_contra differs
      have out := none_ a (by simp [member]) (by have := late a member; omega)
      rw [inWindow_mono (late a member) inside] at out
      cases out
  · have stale : before.filter (limit.inWindow now) = [] :=
      List.filter_eq_nil_iff.mpr fun a member within => inside (inWindow_mono (early a member) within)
    rw [filter_append, filter_append, stale, List.filter_cons_of_neg inside, List.nil_append]
    constructor
    · intro same a member later
      by_contra within
      have within : limit.inWindow now a = true := by simpa using within
      have short : (after.filter (limit.inWindow now)).length = 0 := by
        have lengths := congrArg List.length same
        rw [List.length_dropLast] at lengths
        omega
      rcases mem_append.mp member with first | rest
      · have := early a first
        omega
      · rcases mem_cons.mp rest with rfl | rest
        · omega
        · have there : a ∈ after.filter (limit.inWindow now) := List.mem_filter.mpr ⟨rest, within⟩
          rw [List.length_eq_zero_iff.mp short] at there
          cases there
    · intro none_
      have empty : after.filter (limit.inWindow now) = [] := by
        rw [List.filter_eq_nil_iff]
        intro a member within
        by_cases same : a = x
        · exact inside (same ▸ within)
        · have out := none_ a (by simp [member]) (by have := late a member; omega)
          rw [within] at out
          cases out
      rw [empty]
      rfl

end

/-! ### The invariant -/

section
variable {settings : PayerGuardSettings} {seed : List (String × Option Int)} {limit : PayerLimit} {blocked : List String}

/-- What a guard holds is in order of time, and not of the future. -/
def Timely (now : Int) (times : List Int) : Prop := times.Pairwise (· ≤ ·) ∧ ∀ at_ ∈ times, at_ ≤ now

variable (seed limit blocked) in
structure Sound (w : World) : Prop where
  settings : w.guard.settings = ⟨blocked, some limit⟩
  recent : ∀ payer, Timely w.now (w.guard.recent payer)
  places : ∀ payer, Timely w.now (places seed limit blocked w payer)

variable {times : List Int} {other : String}

theorem Timely.later {now now' : Int} (timely : Timely now times) (le : now ≤ now') : Timely now' times :=
  ⟨timely.1, fun at_ member => (timely.2 at_ member).trans le⟩

variable {now : Int}

theorem Timely.sublist {fewer : List Int} (timely : Timely now times) (sub : fewer.Sublist times) : Timely now fewer :=
  ⟨timely.1.sublist sub, fun at_ member => timely.2 at_ (sub.subset member)⟩

theorem Timely.snoc (timely : Timely now times) : Timely now (times ++ [now]) := by
  refine ⟨List.pairwise_append.mpr ⟨timely.1, List.pairwise_singleton .., fun a member b last => ?_⟩, fun at_ member => ?_⟩
  · rw [mem_singleton.mp last]
    exact timely.2 a member
  · rcases mem_append.mp member with old | new
    · exact timely.2 at_ old
    · rw [mem_singleton.mp new]

@[simp] theorem setRecent_same (g : Guard) (payer : String) (times : List Int) :
    (g.setRecent payer times).recent payer = times := if_pos rfl

theorem setRecent_other (g : Guard) {payer : String} (times : List Int) (differs : other ≠ payer) :
    (g.setRecent payer times).recent other = g.recent other := if_neg differs

variable {g : Guard}

theorem push_timely {payer : String} {at_ now : Int} (timely : ∀ p, Timely now (g.recent p)) (past : at_ ≤ now)
    (p : String) : Timely now ((push g payer at_).recent p) := by
  by_cases same : p = payer
  · subst same
    rw [push, setRecent_same]
    refine ⟨List.pairwise_insertionSort .., fun a member => ?_⟩
    rw [List.mem_insertionSort] at member
    rcases mem_append.mp member with old | new
    · exact (timely p).2 a old
    · rw [mem_singleton.mp new]
      exact past
  · rw [push, setRecent_other g _ same]
    exact timely p

variable (settings) in
section
variable (past : ∀ payer at_, (payer, some at_) ∈ seed → at_ ≤ now)
include past

theorem new_timely :
    (Guard.new settings seed).settings = settings ∧ ∀ payer, Timely now ((Guard.new settings seed).recent payer) := by
  suffices ∀ g : Guard, (∀ p, Timely now (g.recent p)) →
      (seed.foldl (fun g purchase => match purchase.2 with
        | some at_ => push g purchase.1 at_
        | none => g) g).settings = g.settings ∧
      ∀ p, Timely now ((seed.foldl (fun g purchase => match purchase.2 with
        | some at_ => push g purchase.1 at_
        | none => g) g).recent p) from
    this ⟨settings, fun _ => []⟩ fun p => ⟨List.Pairwise.nil, fun at_ member => by cases member⟩
  induction seed with
  | nil => exact fun g timely => ⟨rfl, timely⟩
  | cons purchase rest ih =>
    intro g timely
    have later := ih fun payer at_ member => past payer at_ (List.mem_cons_of_mem _ member)
    obtain ⟨payer, time⟩ := purchase
    cases time with
    | none => exact later g timely
    | some at_ => exact later _ (push_timely timely (past payer at_ List.mem_cons_self))

theorem sound_start : Sound seed limit blocked (start ⟨blocked, some limit⟩ seed now) := by
  obtain ⟨same, timely⟩ := new_timely ⟨blocked, some limit⟩ past
  exact ⟨same, timely, fun payer => by simpa [places, admitted, start] using timely payer⟩

end

theorem exact_start : Exact seed limit blocked (start ⟨blocked, some limit⟩ seed now) := by
  intro payer
  simp [places, admitted, start]

theorem bounded_start : Bounded limit (start settings seed now) := by
  intro payer now
  simp [admitted, start]

/-! ### What one step does -/

variable {w : World}

theorem admit_cases (same : g.settings = ⟨blocked, some limit⟩) (payer : Option String) :
    (admitPayer g now payer = (.ok, g) ∧ payer = none) ∨
    (∃ answer, admitPayer g now payer = (answer, g) ∧ answer ≠ .ok) ∨
    ∃ p, payer = some p ∧
      ((∃ answer, admitPayer g now payer = (answer, g.setRecent p ((g.recent p).filter (limit.inWindow now))) ∧ answer ≠ .ok) ∨
        (admitPayer g now payer = (.ok, g.setRecent p ((g.recent p).filter (limit.inWindow now) ++ [now])) ∧
          ((g.recent p).filter (limit.inWindow now)).length < limit.max)) := by
  cases payer with
  | none => exact .inl ⟨rfl, rfl⟩
  | some p =>
    by_cases refused : p ∈ blocked
    · exact .inr (.inl ⟨.payer_blocked, by simp [admitPayer, same, refused], by simp⟩)
    · refine .inr (.inr ⟨p, rfl, ?_⟩)
      by_cases full : limit.max ≤ ((g.recent p).filter (limit.inWindow now)).length
      · left
        simp only [admitPayer, same, if_neg refused, if_pos full]
        exact ⟨_, rfl, by simp⟩
      · right
        simp only [admitPayer, same, if_neg refused, if_neg full]
        exact ⟨trivial, by omega⟩

theorem admitted_snoc (admissions : List Admission) (payer p : Option String) (q : String) (at_ : Int) (same : payer = p) :
    admitted (admissions ++ [⟨payer, at_, false⟩]) q = admitted admissions q ++ if p = some q then [at_] else [] := by
  subst same
  by_cases own : payer = some q
  · simp [admitted, Admission.open_, own]
  · simp [admitted, Admission.open_, own]

variable {payer : Option String}

theorem step_admit_refused {answer : PayerAdmission} (ran : admitPayer w.guard w.now payer = (answer, g))
    (refused : answer ≠ .ok) : (step w (.admitPayer payer)).1 = { w with guard := g } := by
  simp [step, ran, refused]

theorem step_admit_ok (ran : admitPayer w.guard w.now payer = (.ok, g)) :
    (step w (.admitPayer payer)).1 = { w with guard := g, admissions := w.admissions ++ [⟨payer, w.now, false⟩] } := by
  simp [step, ran]

/-- What a release does: nothing, or an admission is marked, and its payer's last time goes. -/
theorem step_release (i : Nat) : ((step w (.release i)).1 = w ∧ ∀ a, w.admissions[i]? = some a → a.released = true) ∨
    ∃ before after a, w.admissions = before ++ a :: after ∧ w.admissions[i]? = some a ∧ a.released = false ∧
      (step w (.release i)).1 =
        { w with guard := release w.guard a.payer, admissions := before ++ { a with released := true } :: after } := by
  cases found : w.admissions[i]? with
  | none => exact .inl ⟨by simp [step, found], fun a none_ => by cases none_⟩
  | some a =>
    by_cases released : a.released
    · refine .inl ⟨by simp [step, found, released], fun b same => ?_⟩
      cases same
      exact released
    · have released : a.released = false := by simpa using released
      obtain ⟨inside, value⟩ := List.getElem?_eq_some_iff.mp found
      refine .inr ⟨w.admissions.take i, w.admissions.drop (i + 1), a, ?_, rfl, released, ?_⟩
      · rw [← value, List.getElem_cons_drop, List.take_append_drop]
      · simp only [step, found, released, Bool.false_eq_true, if_false]
        rw [List.set_eq_take_append_cons_drop, if_pos inside]

theorem admitted_release {before after : List Admission} {a : Admission} (payer : String) (open_ : a.released = false) :
    admitted (before ++ a :: after) payer =
        admitted before payer ++ (if a.payer = some payer then [a.at_] else []) ++ admitted after payer ∧
      admitted (before ++ { a with released := true } :: after) payer = admitted before payer ++ admitted after payer := by
  by_cases own : a.payer = some payer
  · simp [admitted, Admission.open_, own, open_]
  · simp [admitted, Admission.open_, own]

theorem release_same (same : g.settings = ⟨blocked, some limit⟩) (payer : String) :
    release g (some payer) = g.setRecent payer (g.recent payer).dropLast := by
  simp [release, same]

theorem release_other (differs : payer ≠ some other) : (release g payer).recent other = g.recent other := by
  cases payer with
  | none => rfl
  | some p =>
    have differs : other ≠ p := fun same => differs (congrArg some same.symm)
    cases limited : g.settings.limit with
    | none => simp [release, limited]
    | some limit =>
      simp only [release, limited]
      exact setRecent_other g _ differs

theorem release_settings (g : Guard) (payer : Option String) : (release g payer).settings = g.settings := by
  unfold release
  split <;> rfl

theorem sound_step (sound : Sound seed limit blocked w) (a : Action) : Sound seed limit blocked (step w a).1 := by
  obtain ⟨same, recent, taken⟩ := sound
  cases a with
  | tick ms =>
    have le : w.now ≤ w.now + ms := by omega
    exact ⟨same, fun p => (recent p).later le, fun p => (taken p).later le⟩
  | admitPayer payer =>
    rcases admit_cases same payer with ⟨ran, rfl⟩ | ⟨answer, ran, refused⟩ | ⟨p, rfl, ⟨answer, ran, refused⟩ | ⟨ran, _⟩⟩
    · rw [step_admit_ok ran]
      refine ⟨same, recent, fun q => ?_⟩
      simpa [places, admitted_snoc _ _ _ _ _ rfl] using taken q
    · rw [step_admit_refused ran refused]
      exact ⟨same, recent, taken⟩
    · rw [step_admit_refused ran refused]
      refine ⟨same, fun q => ?_, taken⟩
      by_cases own : q = p
      · subst own
        rw [setRecent_same]
        exact (recent q).sublist List.filter_sublist
      · rw [setRecent_other _ _ own]
        exact recent q
    · rw [step_admit_ok ran]
      refine ⟨same, fun q => ?_, fun q => ?_⟩
      · by_cases own : q = p
        · subst own
          rw [setRecent_same]
          exact ((recent q).sublist List.filter_sublist).snoc
        · rw [setRecent_other _ _ own]
          exact recent q
      · rw [places, admitted_snoc _ _ _ _ _ rfl, ← append_assoc]
        split
        · exact (taken q).snoc
        · rw [append_nil]
          exact taken q
  | release i =>
    rcases step_release (w := w) i with ⟨nothing, _⟩ | ⟨before, after, a, split_, _, open_, ran⟩
    · rw [nothing]
      exact ⟨same, recent, taken⟩
    · rw [ran]
      refine ⟨by rw [release_settings]; exact same, fun q => ?_, fun q => ?_⟩
      · by_cases own : a.payer = some q
        · rw [own, release_same same, setRecent_same]
          exact (recent q).sublist (List.dropLast_sublist _)
        · rw [release_other own]
          exact recent q
      · have had := taken q
        rw [places, split_, (admitted_release q open_).1] at had
        rw [places, (admitted_release q open_).2]
        refine had.sublist (List.Sublist.append_left (List.Sublist.append_right ?_ _) _)
        exact List.sublist_append_left ..

theorem exact_tick (exact_ : Exact seed limit blocked w) (ms : Nat) : Exact seed limit blocked (step w (.tick ms)).1 := by
  intro payer
  have le : w.now ≤ w.now + ms := by omega
  change (w.guard.recent payer).filter (limit.inWindow (w.now + ms)) =
    (places seed limit blocked w payer).filter (limit.inWindow (w.now + ms))
  rw [filter_later le, exact_ payer, ← filter_later le]

section
variable (sound : Sound seed limit blocked w) (exact_ : Exact seed limit blocked w)
include sound exact_

theorem exact_admission (payer : Option String) : Exact seed limit blocked (step w (.admitPayer payer)).1 := by
  rcases admit_cases sound.settings payer with ⟨ran, rfl⟩ | ⟨answer, ran, refused⟩ | ⟨p, rfl, ⟨answer, ran, refused⟩ | ⟨ran, _⟩⟩
  · rw [step_admit_ok ran]
    intro q
    simpa [places, admitted_snoc _ _ _ _ _ rfl] using exact_ q
  · rw [step_admit_refused ran refused]
    exact exact_
  · rw [step_admit_refused ran refused]
    intro q
    change ((w.guard.setRecent p _).recent q).filter _ = _
    by_cases own : q = p
    · subst own
      rw [setRecent_same, ← filter_later (le_refl _)]
      exact exact_ q
    · rw [setRecent_other _ _ own]
      exact exact_ q
  · rw [step_admit_ok ran]
    intro q
    change ((w.guard.setRecent p _).recent q).filter _ = (places seed limit blocked { w with admissions := _ } q).filter _
    rw [places, admitted_snoc _ _ _ _ _ rfl, ← append_assoc]
    by_cases own : q = p
    · subst own
      rw [setRecent_same, if_pos rfl, filter_append, filter_append, ← filter_later (le_refl _)]
      exact congrArg (· ++ _) (exact_ q)
    · rw [setRecent_other _ _ own, if_neg (by simpa using Ne.symm own), append_nil]
      exact exact_ q

theorem bounded_admission (bounded : Bounded limit w)
    (payer : Option String) : Bounded limit (step w (.admitPayer payer)).1 := by
  rcases admit_cases sound.settings payer with ⟨ran, rfl⟩ | ⟨answer, ran, refused⟩ | ⟨p, rfl, ⟨answer, ran, refused⟩ | ⟨ran, room⟩⟩
  · rw [step_admit_ok ran]
    intro q now
    simpa [admitted_snoc _ _ _ _ _ rfl] using bounded q now
  · rw [step_admit_refused ran refused]
    exact bounded
  · rw [step_admit_refused ran refused]
    exact bounded
  · rw [step_admit_ok ran]
    intro q now
    change ((admitted (w.admissions ++ _) q).filter _).length ≤ _
    rw [admitted_snoc _ _ _ _ _ rfl]
    by_cases own : q = p
    · subst own
      rw [if_pos rfl, filter_append, List.length_append]
      by_cases covers : w.now ≤ now ∧ limit.inWindow now w.now = true
      · -- Whatever else is in a window with the new admission was in the window when it was admitted.
        have fewer : ((admitted w.admissions q).filter fun at_ => at_ ≤ now ∧ limit.inWindow now at_).length ≤
            ((w.guard.recent q).filter (limit.inWindow w.now)).length := by
          rw [exact_ q, places, filter_append, List.length_append]
          refine le_trans (List.Sublist.length_le (List.monotone_filter_right _ ?_)) (Nat.le_add_left ..)
          intro at_ within
          simp only [Bool.decide_and, Bool.decide_eq_true, Bool.and_eq_true] at within
          exact inWindow_later covers.1 within.2
        have one : ([w.now].filter fun at_ => at_ ≤ now ∧ limit.inWindow now at_).length ≤ 1 := List.length_filter_le ..
        omega
      · have none_ : [w.now].filter (fun at_ => at_ ≤ now ∧ limit.inWindow now at_) = [] := by simpa using covers
        rw [none_, List.length_nil, Nat.add_zero]
        exact bounded q now
    · rw [if_neg (by simpa using Ne.symm own), append_nil]
      exact bounded q now

end

theorem bounded_release (bounded : Bounded limit w) (i : Nat) : Bounded limit (step w (.release i)).1 := by
  rcases step_release (w := w) i with ⟨nothing, _⟩ | ⟨before, after, a, split_, _, open_, ran⟩
  · rw [nothing]
    exact bounded
  · rw [ran]
    intro q now
    have had := bounded q now
    rw [split_, (admitted_release q open_).1] at had
    change ((admitted (before ++ _ :: after) q).filter _).length ≤ _
    rw [(admitted_release q open_).2]
    refine le_trans (List.Sublist.length_le (List.Sublist.filter _ ?_)) had
    exact List.Sublist.append_right (List.sublist_append_left ..) _

/-- A release keeps the guard exact when it is in order, and only then. -/
theorem exact_release (sound : Sound seed limit blocked w) (exact_ : Exact seed limit blocked w) (i : Nat) :
    Exact seed limit blocked (step w (.release i)).1 ↔ InOrder seed limit blocked w (.release i) := by
  rcases step_release (w := w) i with ⟨nothing, finished⟩ | ⟨before, after, a, split_, found, open_, ran⟩
  · rw [nothing]
    refine ⟨fun _ a payer there open_ => ?_, fun _ => exact_⟩
    rw [finished a there] at open_
    cases open_
  · rw [ran]
    have others (q : String) (differs : a.payer ≠ some q) :
        ((release w.guard a.payer).recent q).filter (limit.inWindow w.now) =
          ((Guard.new ⟨blocked, some limit⟩ seed).recent q ++
            admitted (before ++ { a with released := true } :: after) q).filter (limit.inWindow w.now) := by
      rw [release_other differs, (admitted_release q open_).2]
      have had := exact_ q
      rwa [places, split_, (admitted_release q open_).1, if_neg differs, append_nil] at had
    have own (q : String) (payer : a.payer = some q) :
        ((release w.guard a.payer).recent q).filter (limit.inWindow w.now) =
            ((Guard.new ⟨blocked, some limit⟩ seed).recent q ++
              admitted (before ++ { a with released := true } :: after) q).filter (limit.inWindow w.now) ↔
          ∀ at_ ∈ places seed limit blocked w q, a.at_ < at_ → limit.inWindow w.now at_ = false := by
      have split_places : places seed limit blocked w q =
          ((Guard.new ⟨blocked, some limit⟩ seed).recent q ++ admitted before q) ++ a.at_ :: admitted after q := by
        rw [places, split_, (admitted_release q open_).1, if_pos payer]
        simp
      have taken := sound.places q
      have had := exact_ q
      have last := release_same sound.settings q
      rw [← payer] at last
      rw [split_places] at taken had ⊢
      rw [← pop_exact taken.1, ← had, ← filter_dropLast (sound.recent q).1, last, setRecent_same,
        (admitted_release q open_).2, ← append_assoc]
    constructor
    · intro kept b q there _ same
      rw [found] at there
      cases there
      exact (own q same).mp (kept q)
    · intro inOrder q
      by_cases same : a.payer = some q
      · exact (own q same).mpr (inOrder a q found open_ same)
      · exact others q same

theorem step_iff (sound : Sound seed limit blocked w) (holds : Exact seed limit blocked w ∧ Bounded limit w) (a : Action) :
    Exact seed limit blocked (step w a).1 ∧ Bounded limit (step w a).1 ↔ InOrder seed limit blocked w a := by
  obtain ⟨exact_, bounded⟩ := holds
  cases a with
  | tick ms => exact ⟨fun _ => trivial, fun _ => ⟨exact_tick exact_ ms, bounded⟩⟩
  | admitPayer payer => exact ⟨fun _ => trivial, fun _ => ⟨exact_admission sound exact_ payer, bounded_admission sound exact_ bounded payer⟩⟩
  | release i =>
    rw [← exact_release sound exact_ i]
    exact ⟨And.left, fun kept => ⟨kept, bounded_release bounded i⟩⟩

end

/-- All along a run, no window of one payer holds more than the maximum, and the guard counts exactly the places that are
    taken, when every release is in order; and the guard counts something else as soon as one is not. -/
theorem limit_kept_iff (seed : List (String × Option Int)) (limit : PayerLimit) (blocked : List String) (now : Int)
    (past : ∀ payer at_, (payer, some at_) ∈ seed → at_ ≤ now) (actions : List Action) :
    (∀ before after, actions = before ++ after →
      Exact seed limit blocked (run (start ⟨blocked, some limit⟩ seed now) before) ∧
        Bounded limit (run (start ⟨blocked, some limit⟩ seed now) before)) ↔
    ∀ before a after, actions = before ++ a :: after →
      InOrder seed limit blocked (run (start ⟨blocked, some limit⟩ seed now) before) a :=
  Traces.exec_always_iff (I := Sound seed limit blocked)
    (V := fun w => Exact seed limit blocked w ∧ Bounded limit w) (fun _ a sound => sound_step sound a)
    (fun _ a sound holds => step_iff sound holds a) (sound_start past) ⟨exact_start, bounded_start⟩ actions

def sampleLimit : PayerLimit := ⟨1, 10⟩

def sampleInOrder : List Action := [.admitPayer (some "G"), .tick 4000, .release 0, .admitPayer (some "G")]

theorem limit_kept_iff_sample :
    (∀ before after, sampleInOrder = before ++ after →
      Exact [] sampleLimit [] (run (start ⟨[], some sampleLimit⟩ [] 0) before) ∧
        Bounded sampleLimit (run (start ⟨[], some sampleLimit⟩ [] 0) before)) ↔
    ∀ before a after, sampleInOrder = before ++ a :: after →
      InOrder [] sampleLimit [] (run (start ⟨[], some sampleLimit⟩ [] 0) before) a :=
  limit_kept_iff [] sampleLimit [] 0 (by intro payer at_ member; cases member) sampleInOrder

/-- A payment that is refused after its place has left the window takes the place of a later one with it. -/
def sampleLate : List Action := [.admitPayer (some "G"), .tick 10000, .admitPayer (some "G"), .tick 1000, .release 0, .admitPayer (some "G")]

/-- Two purchases of one payer within a second, both admitted and not released, where one in ten seconds is allowed. -/
theorem late_release :
    (run (start ⟨[], some sampleLimit⟩ [] 0) sampleLate).admissions =
        [⟨some "G", 0, true⟩, ⟨some "G", 10000, false⟩, ⟨some "G", 11000, false⟩] ∧
      ¬Bounded sampleLimit (run (start ⟨[], some sampleLimit⟩ [] 0) sampleLate) := by
  refine ⟨by decide, fun bounded => ?_⟩
  have two := bounded "G" 11000
  revert two
  decide

end AgentPey.PayerGuard
