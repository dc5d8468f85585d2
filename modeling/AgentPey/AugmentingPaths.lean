import Mathlib.Data.Finset.Card

/-!
Matching by augmenting paths. Lines take entries that fit them, one line an entry: a line with no entry left takes one
that is held when the line that holds it can be given another. A line that finds nothing leaves a set of entries that has
fewer entries than the lines that fit nothing else, so no choice of different entries serves all lines.
-/
namespace AgentPey.AugmentingPaths

variable {α β : Type} [DecidableEq β]

/-- The entries that the search for one line has looked at, and the lines that hold entries. -/
structure Search (α β : Type) where
  seen : β → Bool
  lineOfEntry : β → Option α

namespace Search
variable (s : Search α β)

def see (entry : β) : Search α β := { s with seen := Function.update s.seen entry true }

def give (entry : β) (line : α) : Search α β :=
  { s with lineOfEntry := Function.update s.lineOfEntry entry (some line) }

@[simp] theorem see_lineOfEntry (entry : β) : (s.see entry).lineOfEntry = s.lineOfEntry := rfl

@[simp] theorem see_seen (entry e : β) : (s.see entry).seen e = true ↔ e = entry ∨ s.seen e = true := by
  by_cases same : e = entry <;> simp [see, same]

@[simp] theorem see_unseen (entry e : β) : (s.see entry).seen e = false ↔ e ≠ entry ∧ s.seen e = false := by
  by_cases same : e = entry <;> simp [see, same]

@[simp] theorem give_seen (entry : β) (line : α) : (s.give entry line).seen = s.seen := rfl

@[simp] theorem give_same (entry : β) (line : α) : (s.give entry line).lineOfEntry entry = some line := by
  simp [give]

theorem give_other {entry e : β} (other : e ≠ entry) (line : α) :
    (s.give entry line).lineOfEntry e = s.lineOfEntry e := by simp [give, other]

theorem give_holds {entry e : β} {line l : α} (given : (s.give entry line).lineOfEntry e = some l) :
    e = entry ∧ l = line ∨ e ≠ entry ∧ s.lineOfEntry e = some l := by
  by_cases same : e = entry
  · subst same
    exact .inl ⟨rfl, by simpa using given.symm⟩
  · exact .inr ⟨same, by simpa [give_other s same] using given⟩

end Search

variable (fits : α → β → Bool) (entries : List β)

/-- The loop over the entries for one line. `displace` finds another entry for the line that holds one. -/
def scan (displace : α → Search α β → Option (Bool × Search α β)) (line : α) :
    List β → Search α β → Option (Bool × Search α β)
  | [], s => some (false, s)
  | entry :: rest, s =>
    if s.seen entry || !fits line entry then scan displace line rest s
    else
      match s.lineOfEntry entry with
      | none => some (true, (s.see entry).give entry line)
      | some holder =>
        match displace holder (s.see entry) with
        | none => none
        | some (true, s') => some (true, s'.give entry line)
        | some (false, s') => scan displace line rest s'

/-- The search for an entry for one line. The first argument bounds how many lines are displaced in turn; there is no
    answer when it runs out. -/
def assign : Nat → α → Search α β → Option (Bool × Search α β)
  | 0, _, _ => none
  | fuel + 1, line, s => scan fits (assign fuel) line entries s

/-- Every line in turn, from what the lines before it hold. -/
def place (fuel : Nat) : List α → (β → Option α) → Option Bool
  | [], _ => some true
  | line :: rest, held =>
    match assign fits entries fuel line ⟨fun _ => false, held⟩ with
    | none => none
    | some (true, s) => place fuel rest s.lineOfEntry
    | some (false, _) => some false

/-! ### What a search answers -/

/-- Entries not yet seen hold different lines, none of them the one in hand, and every line fits what it holds. -/
structure Ready (line : α) (s : Search α β) : Prop where
  apart : ∀ {e e' l}, s.seen e = false → s.seen e' = false → s.lineOfEntry e = some l → s.lineOfEntry e' = some l → e = e'
  free : ∀ {e}, s.seen e = false → s.lineOfEntry e ≠ some line
  fitting : ∀ {e l}, s.lineOfEntry e = some l → fits l e = true

/-- The line has found an entry, and the lines that were displaced have others. -/
structure Placed (line : α) (s s' : Search α β) : Prop where
  kept : ∀ {e}, s.seen e = true → s'.lineOfEntry e = s.lineOfEntry e
  apart : ∀ {e e' l}, s.seen e = false → s.seen e' = false →
    s'.lineOfEntry e = some l → s'.lineOfEntry e' = some l → e = e'
  lines : ∀ l, (∃ e, s.seen e = false ∧ s'.lineOfEntry e = some l) ↔
    l = line ∨ ∃ e, s.seen e = false ∧ s.lineOfEntry e = some l
  fitting : ∀ {e l}, s'.lineOfEntry e = some l → fits l e = true
  within : ∀ {e}, s'.lineOfEntry e ≠ none → s.lineOfEntry e ≠ none ∨ e ∈ entries

/-- The line has found none of `tried`: what it fits there has been seen, and so has all that the holders of the entries
    seen on the way fit. -/
structure Stuck (line : α) (tried : List β) (s s' : Search α β) : Prop where
  lineOfEntry : s'.lineOfEntry = s.lineOfEntry
  grows : ∀ {e}, s.seen e = true → s'.seen e = true
  within : ∀ {e}, s'.seen e = true → s.seen e = true ∨ e ∈ entries
  closed : ∀ {e}, s'.seen e = true → s.seen e = false →
    ∃ holder, s.lineOfEntry e = some holder ∧ ∀ e' ∈ entries, fits holder e' = true → s'.seen e' = true
  tried : ∀ e ∈ tried, fits line e = true → s'.seen e = true

/-- One of the two, with its meaning. -/
def Answers (line : α) (tried : List β) (s : Search α β) (answer : Option (Bool × Search α β)) : Prop :=
  ∃ s', answer = some (true, s') ∧ Placed fits entries line s s' ∨
    answer = some (false, s') ∧ Stuck fits entries line tried s s'

def unseen (s : Search α β) : Finset β := entries.toFinset.filter (s.seen · = false)

variable {fits entries} {line : α} {s s' s'' : Search α β}
variable {entry : β}

theorem unseen_see (among : entry ∈ entries) (fresh : s.seen entry = false) :
    (unseen entries (s.see entry)).card < (unseen entries s).card := by
  apply Finset.card_lt_card
  rw [Finset.ssubset_iff_of_subset]
  · exact ⟨entry, by simp [unseen, among, fresh], by simp [unseen]⟩
  · intro e
    simp only [unseen, Finset.mem_filter, Search.see_unseen]
    exact fun ⟨listed, _, still⟩ => ⟨listed, still⟩

omit [DecidableEq β] in
theorem fresh_before (grows : ∀ {e}, s.seen e = true → s'.seen e = true) {e : β} (still : s'.seen e = false) :
    s.seen e = false := by
  cases seen : s.seen e with
  | false => rfl
  | true => simp [grows seen] at still

theorem unseen_le (grows : ∀ {e}, s.seen e = true → s'.seen e = true) :
    (unseen entries s').card ≤ (unseen entries s).card := by
  apply Finset.card_le_card
  intro e
  simp only [unseen, Finset.mem_filter]
  exact fun ⟨listed, still⟩ => ⟨listed, fresh_before grows still⟩

variable {holder : α} {fuel : ℕ}

theorem Ready.displace (ready : Ready fits line s) (fresh : s.seen entry = false)
    (held : s.lineOfEntry entry = some holder) : Ready fits holder (s.see entry) where
  apart e e' one other := by simp at e e'; exact ready.apart e.2 e'.2 one other
  free unmarked same := by
    simp at unmarked
    exact unmarked.1 (ready.apart unmarked.2 fresh same held)
  fitting := ready.fitting

omit [DecidableEq β] in
theorem Ready.later (ready : Ready fits line s) (same : s'.lineOfEntry = s.lineOfEntry)
    (grows : ∀ {e}, s.seen e = true → s'.seen e = true) : Ready fits line s' := by
  constructor
  · intro e e' l unseen unseen' one other
    rw [same] at one other
    exact ready.apart (fresh_before grows unseen) (fresh_before grows unseen') one other
  · intro e unseen
    rw [same]
    exact ready.free (fresh_before grows unseen)
  · intro e l holds
    rw [same] at holds
    exact ready.fitting holds

theorem Ready.take (ready : Ready fits line s) (among : entry ∈ entries) (fresh : s.seen entry = false)
    (fit : fits line entry = true) (nobody : s.lineOfEntry entry = none) :
    Placed fits entries line s ((s.see entry).give entry line) := by
  have holds {e : β} {l : α} : ((s.see entry).give entry line).lineOfEntry e = some l →
      e = entry ∧ l = line ∨ e ≠ entry ∧ s.lineOfEntry e = some l := (s.see entry).give_holds
  constructor
  · intro e seen
    have other : e ≠ entry := by rintro rfl; simp [fresh] at seen
    simp [Search.give_other _ other]
  · intro e e' l unseen unseen' one other
    obtain ⟨rfl, rfl⟩ | ⟨_, first⟩ := holds one <;> obtain ⟨rfl, same⟩ | ⟨_, second⟩ := holds other
    · rfl
    · exact absurd second (ready.free unseen')
    · exact absurd (same ▸ first) (ready.free unseen)
    · exact ready.apart unseen unseen' first second
  · intro l
    constructor
    · rintro ⟨e, unseen, given⟩
      obtain ⟨_, same⟩ | ⟨_, given⟩ := holds given
      · exact .inl same
      · exact .inr ⟨e, unseen, given⟩
    · rintro (rfl | ⟨e, unseen, held⟩)
      · exact ⟨entry, fresh, by simp⟩
      · have other : e ≠ entry := by rintro rfl; simp [nobody] at held
        exact ⟨e, unseen, by simpa [Search.give_other _ other] using held⟩
  · intro e l given
    obtain ⟨rfl, rfl⟩ | ⟨_, given⟩ := holds given
    · exact fit
    · exact ready.fitting given
  · intro e given
    obtain ⟨l, given⟩ := Option.ne_none_iff_exists'.mp given
    obtain ⟨rfl, _⟩ | ⟨_, given⟩ := holds given
    · exact .inr among
    · exact .inl (by simp [given])

theorem Placed.replace (placed : Placed fits entries holder (s.see entry) s') (ready : Ready fits line s)
    (among : entry ∈ entries) (fresh : s.seen entry = false) (fit : fits line entry = true)
    (held : s.lineOfEntry entry = some holder) : Placed fits entries line s (s'.give entry line) := by
  have old {e : β} {l : α} (other : e ≠ entry) (unseen : s.seen e = false) (given : s'.lineOfEntry e = some l) :
      ∃ e, s.seen e = false ∧ s.lineOfEntry e = some l := by
    obtain rfl | ⟨e', unseen', held'⟩ := (placed.lines l).mp ⟨e, by simp [other, unseen], given⟩
    · exact ⟨entry, fresh, held⟩
    · simp at unseen'
      exact ⟨e', unseen'.2, held'⟩
  have apart_line {e : β} (other : e ≠ entry) (unseen : s.seen e = false) : s'.lineOfEntry e ≠ some line := by
    intro given
    obtain ⟨e', unseen', held'⟩ := old other unseen given
    exact ready.free unseen' held'
  constructor
  · intro e seen
    have other : e ≠ entry := by rintro rfl; simp [fresh] at seen
    rw [Search.give_other _ other, placed.kept (by simp [seen])]
    rfl
  · intro e e' l unseen unseen' one other
    obtain ⟨rfl, rfl⟩ | ⟨apart, first⟩ := s'.give_holds one <;>
      obtain ⟨rfl, same⟩ | ⟨apart', second⟩ := s'.give_holds other
    · rfl
    · exact absurd second (apart_line apart' unseen')
    · exact absurd (same ▸ first) (apart_line apart unseen)
    · exact placed.apart (by simp [apart, unseen]) (by simp [apart', unseen']) first second
  · intro l
    constructor
    · rintro ⟨e, unseen, given⟩
      obtain ⟨_, same⟩ | ⟨other, given⟩ := s'.give_holds given
      · exact .inl same
      · exact .inr (old other unseen given)
    · rintro (rfl | ⟨e, unseen, before⟩)
      · exact ⟨entry, fresh, by simp⟩
      · have moved : l = holder ∨ ∃ e, (s.see entry).seen e = false ∧ (s.see entry).lineOfEntry e = some l := by
          by_cases same : e = entry
          · subst same
            exact .inl (by simpa [held] using before.symm)
          · exact .inr ⟨e, by simp [same, unseen], before⟩
        obtain ⟨e', unseen', after⟩ := (placed.lines l).mpr moved
        simp at unseen'
        exact ⟨e', unseen'.2, by rw [Search.give_other _ unseen'.1]; exact after⟩
  · intro e l given
    obtain ⟨rfl, rfl⟩ | ⟨_, given⟩ := s'.give_holds given
    · exact fit
    · exact placed.fitting given
  · intro e given
    obtain ⟨l, given⟩ := Option.ne_none_iff_exists'.mp given
    obtain ⟨rfl, _⟩ | ⟨_, given⟩ := s'.give_holds given
    · exact .inr among
    · exact placed.within (by simp [given])

omit [DecidableEq β] in
theorem Placed.earlier (placed : Placed fits entries line s' s'') (ready : Ready fits line s)
    (same : s'.lineOfEntry = s.lineOfEntry) (grows : ∀ {e}, s.seen e = true → s'.seen e = true) :
    Placed fits entries line s s'' := by
  have kept {e : β} (seen : s'.seen e = true) : s''.lineOfEntry e = s.lineOfEntry e := by
    rw [placed.kept seen, same]
  -- an entry that was seen in between holds none of the lines that are moved
  have settled {e e' : β} {l : α} (fresh : s.seen e = false) (fresh' : s.seen e' = false) (seen : s'.seen e = true)
      (unseen : s'.seen e' = false) (one : s''.lineOfEntry e = some l) (other : s''.lineOfEntry e' = some l) :
      e = e' := by
    rw [kept seen] at one
    obtain rfl | ⟨d, still, held⟩ := (placed.lines l).mp ⟨e', unseen, other⟩
    · exact absurd one (ready.free fresh)
    · rw [same] at held
      obtain rfl := ready.apart fresh (fresh_before grows still) one held
      simp [seen] at still
  constructor
  · exact fun seen => kept (grows seen)
  · intro e e' l fresh fresh' one other
    cases seen : s'.seen e <;> cases seen' : s'.seen e'
    · exact placed.apart seen seen' one other
    · exact (settled fresh' fresh seen' seen other one).symm
    · exact settled fresh fresh' seen seen' one other
    · rw [kept seen] at one
      rw [kept seen'] at other
      exact ready.apart fresh fresh' one other
  · intro l
    constructor
    · rintro ⟨e, fresh, holds⟩
      cases seen : s'.seen e with
      | true => exact .inr ⟨e, fresh, by rwa [kept seen] at holds⟩
      | false =>
        obtain same_line | ⟨e', unseen', held⟩ := (placed.lines l).mp ⟨e, seen, holds⟩
        · exact .inl same_line
        · exact .inr ⟨e', fresh_before grows unseen', same ▸ held⟩
    · rintro (same_line | ⟨e, fresh, held⟩)
      · obtain ⟨e, unseen, holds⟩ := (placed.lines l).mpr (.inl same_line)
        exact ⟨e, fresh_before grows unseen, holds⟩
      · cases seen : s'.seen e with
        | true => exact ⟨e, fresh, (kept seen).trans held⟩
        | false =>
          obtain ⟨e', unseen, holds⟩ := (placed.lines l).mpr (.inr ⟨e, seen, by rwa [same]⟩)
          exact ⟨e', fresh_before grows unseen, holds⟩
  · exact placed.fitting
  · exact fun given => same ▸ placed.within given

omit [DecidableEq β] in
theorem Stuck.skip {rest : List β} (stuck : Stuck fits entries line rest s s')
    (passed : s.seen entry = true ∨ fits line entry = false) : Stuck fits entries line (entry :: rest) s s' where
  lineOfEntry := stuck.lineOfEntry
  grows := stuck.grows
  within := stuck.within
  closed := stuck.closed
  tried e among fit := by
    obtain rfl | among := List.mem_cons.mp among
    · obtain seen | unfit := passed
      · exact stuck.grows seen
      · simp [unfit] at fit
    · exact stuck.tried e among fit

theorem Stuck.then {rest : List β} (first : Stuck fits entries holder entries (s.see entry) s')
    (held : s.lineOfEntry entry = some holder) (among : entry ∈ entries) (stuck : Stuck fits entries line rest s' s'')
    : Stuck fits entries line (entry :: rest) s s'' where
  lineOfEntry := by rw [stuck.lineOfEntry, first.lineOfEntry]; rfl
  grows seen := stuck.grows (first.grows (by simp [seen]))
  within seen := by
    obtain seen | among := stuck.within seen
    · obtain seen | among := first.within seen
      · obtain rfl | seen := (Search.see_seen ..).mp seen
        · exact .inr among
        · exact .inl seen
      · exact .inr among
    · exact .inr among
  closed {e} seen fresh := by
    cases between : s'.seen e with
    | false =>
      obtain ⟨l, holds, all⟩ := stuck.closed seen between
      exact ⟨l, by simpa [first.lineOfEntry] using holds, all⟩
    | true =>
      by_cases same : e = entry
      · subst same
        exact ⟨holder, held, fun e' among fit => stuck.grows (first.tried e' among fit)⟩
      · obtain ⟨l, holds, all⟩ := first.closed between (by simp [same, fresh])
        exact ⟨l, holds, fun e' among fit => stuck.grows (all e' among fit)⟩
  tried e listed fit := by
    obtain rfl | listed := List.mem_cons.mp listed
    · exact stuck.grows (first.grows (by simp))
    · exact stuck.tried e listed fit

/-! ### What the search does -/

theorem scan_answers {displace : α → Search α β → Option (Bool × Search α β)}
    (displaces : ∀ {holder s}, Ready fits holder s → (unseen entries s).card < fuel →
      Answers fits entries holder entries s (displace holder s)) :
    ∀ {rest s}, rest ⊆ entries → Ready fits line s → (unseen entries s).card ≤ fuel →
      Answers fits entries line rest s (scan fits displace line rest s) := by
  intro rest
  induction rest with
  | nil =>
    intro s _ _ _
    exact ⟨s, .inr ⟨rfl, rfl, id, .inl, fun seen fresh => by simp [seen] at fresh, by simp⟩⟩
  | cons entry rest ih =>
    intro s listed ready enough
    have among : entry ∈ entries := listed (by simp)
    have others : rest ⊆ entries := fun e inside => listed (by simp [inside])
    by_cases passed : s.seen entry = true ∨ fits line entry = false
    · have skipped : scan fits displace line (entry :: rest) s = scan fits displace line rest s := by
        rw [scan, if_pos (by simpa using passed)]
      obtain ⟨s', ⟨found, placed⟩ | ⟨none, stuck⟩⟩ := ih others ready enough
      · exact ⟨s', .inl ⟨skipped.trans found, placed⟩⟩
      · exact ⟨s', .inr ⟨skipped.trans none, stuck.skip passed⟩⟩
    · obtain ⟨fresh, fit⟩ : s.seen entry = false ∧ fits line entry = true := by simpa using passed
      cases held : s.lineOfEntry entry with
      | none => exact ⟨_, .inl ⟨by simp [scan, fresh, fit, held], ready.take among fresh fit held⟩⟩
      | some holder =>
        have fewer := unseen_see among fresh
        obtain ⟨s', ⟨moved, placed⟩ | ⟨stays, stuck⟩⟩ := displaces (ready.displace fresh held) (by omega)
        · exact ⟨_, .inl ⟨by simp [scan, fresh, fit, held, moved], placed.replace ready among fresh fit held⟩⟩
        · have grows {e : β} (seen : s.seen e = true) : s'.seen e = true := stuck.grows (by simp [seen])
          have later : Ready fits line s' := ready.later stuck.lineOfEntry grows
          have on : scan fits displace line (entry :: rest) s = scan fits displace line rest s' := by
            simp [scan, fresh, fit, held, stays]
          obtain ⟨s'', ⟨found, placed⟩ | ⟨none, more⟩⟩ := ih others later (le_trans (unseen_le grows) enough)
          · exact ⟨s'', .inl ⟨on.trans found, placed.earlier ready stuck.lineOfEntry grows⟩⟩
          · exact ⟨s'', .inr ⟨on.trans none, stuck.then held among more⟩⟩

theorem assign_answers : ∀ {fuel line s}, Ready fits line s → (unseen entries s).card < fuel →
    Answers fits entries line entries s (assign fits entries fuel line s) := by
  intro fuel
  induction fuel with
  | zero => intro line s _ enough; omega
  | succ fuel ih =>
    intro line s ready enough
    exact scan_answers ih (fun _ inside => inside) ready (by omega)

/-! ### Serving all lines -/

variable (fits entries) in
/-- A choice of different entries for lines, each fitting. -/
def Served (lines : List α) : Prop :=
  ∃ choice : {line // line ∈ lines} → {entry // entry ∈ entries},
    Function.Injective choice ∧ ∀ line, fits line.1 (choice line).1 = true

variable (fits entries) in
/-- The lines of `done` hold different entries, each fitting, and no other line holds any. -/
structure Held (done : List α) (held : β → Option α) : Prop where
  apart : ∀ {e e' l}, held e = some l → held e' = some l → e = e'
  fitting : ∀ {e l}, held e = some l → fits l e = true
  within : ∀ {e}, held e ≠ none → e ∈ entries
  lines : ∀ l, (∃ e, held e = some l) ↔ l ∈ done

variable {done rest : List α} {held : β → Option α}

omit [DecidableEq β] in
theorem Held.served (all : Held fits entries done held) : Served fits entries done := by
  have holds (line : {line // line ∈ done}) : ∃ e, held e = some line.1 := (all.lines line.1).mpr line.2
  choose entry holds using holds
  refine ⟨fun line => ⟨entry line, all.within (by simp [holds])⟩, ?_, fun line => all.fitting (holds line)⟩
  intro line other same
  have same : entry line = entry other := by simpa using same
  have both : some line.1 = some other.1 := by rw [← holds line, same, holds other]
  exact Subtype.ext (by simpa using both)

omit [DecidableEq β] in
theorem Held.ready (all : Held fits entries done held) (fresh : line ∉ done) : Ready fits line ⟨fun _ => false, held⟩ where
  apart _ _ := all.apart
  free {e} _ holds := fresh ((all.lines line).mp ⟨e, holds⟩)
  fitting := all.fitting

omit [DecidableEq β] in
theorem Held.placed (all : Held fits entries done held) (placed : Placed fits entries line ⟨fun _ => false, held⟩ s') :
    Held fits entries (done ++ [line]) s'.lineOfEntry where
  apart := placed.apart rfl rfl
  fitting := placed.fitting
  within given := (placed.within given).elim all.within id
  lines l := by
    have moved := placed.lines l
    simp only [true_and, all.lines] at moved
    rw [moved]
    simp [or_comm]

/-- The entries seen by a line that is stuck are fewer than the lines that fit nothing else. -/
theorem Stuck.unserved (stuck : Stuck fits entries line entries ⟨fun _ => false, held⟩ s')
    (all : Held fits entries done held) (fresh : line ∉ done) : ¬Served fits entries (done ++ line :: rest) := by
  classical
  rintro ⟨choice, different, fit⟩
  let seen : Finset β := entries.toFinset.filter (s'.seen · = true)
  have mem_seen {e : β} : e ∈ seen ↔ s'.seen e = true := by
    simp only [seen, Finset.mem_filter, List.mem_toFinset, and_iff_right_iff_imp]
    exact fun looked => (stuck.within looked).elim (by simp) id
  have holders (e : {e // e ∈ seen}) : ∃ holder, held e.1 = some holder ∧
      ∀ e' ∈ entries, fits holder e' = true → s'.seen e' = true := stuck.closed (mem_seen.mp e.2) rfl
  choose holder holds closed using holders
  let few : Finset α := insert line (seen.attach.image holder)
  have known {l : α} (inside : l ∈ few) : l ∈ done ++ line :: rest := by
    obtain rfl | inside := Finset.mem_insert.mp inside
    · simp
    · obtain ⟨e, _, rfl⟩ := Finset.mem_image.mp inside
      exact List.mem_append_left _ ((all.lines _).mp ⟨e, holds e⟩)
  have only {l : α} (inside : l ∈ few) : ∀ e' ∈ entries, fits l e' = true → s'.seen e' = true := by
    obtain rfl | inside := Finset.mem_insert.mp inside
    · exact stuck.tried
    · obtain ⟨e, _, rfl⟩ := Finset.mem_image.mp inside
      exact closed e
  have size : few.card = seen.card + 1 := by
    rw [Finset.card_insert_of_notMem, Finset.card_image_of_injective, Finset.card_attach]
    · intro e e' same
      exact Subtype.ext (all.apart (holds e) (same ▸ holds e'))
    · intro inside
      obtain ⟨e, _, same⟩ := Finset.mem_image.mp inside
      exact fresh ((all.lines line).mp ⟨e, same ▸ holds e⟩)
  have fits_in : few.attach.card ≤ seen.card := by
    refine Finset.card_le_card_of_injOn (fun l => (choice ⟨l.1, known l.2⟩).1) ?_ ?_
    · intro l _
      exact mem_seen.mpr (only l.2 _ (choice ⟨l.1, known l.2⟩).2 (fit ⟨l.1, known l.2⟩))
    · intro l _ l' _ same
      have same := different (Subtype.ext same)
      exact Subtype.ext (by simpa using same)
  rw [Finset.card_attach] at fits_in
  omega

theorem place_answers (enough : entries.toFinset.card < fuel) : ∀ {rest done held},
    (done ++ rest).Nodup → Held fits entries done held →
    ∃ answer, place fits entries fuel rest held = some answer ∧ (answer = true ↔ Served fits entries (done ++ rest)) := by
  intro rest
  induction rest with
  | nil => exact fun _ all => ⟨true, rfl, by simpa using all.served⟩
  | cons line rest ih =>
    intro done held once all
    have fresh : line ∉ done := fun inside =>
      (List.nodup_append.mp once).2.2 line inside line (by simp) rfl
    have fewer : (unseen entries (⟨fun _ => false, held⟩ : Search α β)).card < fuel := by
      simpa [unseen] using enough
    obtain ⟨s', ⟨found, placed⟩ | ⟨none, stuck⟩⟩ := assign_answers (all.ready fresh) fewer
    · have split : done ++ line :: rest = (done ++ [line]) ++ rest := by simp
      rw [split] at once ⊢
      simpa [place, found] using ih once (all.placed placed)
    · exact ⟨false, by simp [place, none], by simpa using stuck.unserved all fresh⟩

/-- With enough fuel there is an answer: whether different entries can serve all lines. -/
theorem place_iff (enough : entries.toFinset.card < fuel) {lines : List α} (once : lines.Nodup) :
    ∃ answer, place fits entries fuel lines (fun _ => none) = some answer ∧
      (answer = true ↔ Served fits entries lines) := by
  have nobody : Held fits entries [] (fun _ : β => (none : Option α)) := ⟨by simp, by simp, by simp, by simp⟩
  have whole : ([] ++ lines).Nodup := by simpa using once
  simpa using place_answers enough whole nobody

end AgentPey.AugmentingPaths
