import AgentPey.Store
import AgentPey.Traces

/-!
Transactions of many sessions on one table, one lock for each group of rows. A
program is a sequence of statements; every statement sees the committed rows as
they are at that moment and its own transaction's rows. A section holds the lock
of its tenant from its first statement until it commits or is rolled back, which
may happen at any point; a read without a transaction holds no lock. The main
result is that sections which touch only their tenant's rows behave as if each
ran whole, on the rows committed just before its commit.
-/
namespace AgentPey.Transactions
open Store

/-! ### Programs -/

section
variable {ρ ω ε α β : Type}

/-- A program of statements over rows `ρ`. It may insert rows of `ω`: every row, or
    none at all when `ω` is empty. -/
inductive Txn (ρ ω ε α : Type) where
  | done (a : α)
  | fail (e : ε)
  | select (rest : List ρ → Txn ρ ω ε α)
  | insert (row : ω) (rest : Txn ρ ω ε α)

def Txn.bind : Txn ρ ω ε α → (α → Txn ρ ω ε β) → Txn ρ ω ε β
  | .done a, f => f a
  | .fail e, _ => .fail e
  | .select rest, f => .select fun rows => (rest rows).bind f
  | .insert row rest, f => .insert row (rest.bind f)

instance : Monad (Txn ρ ω ε) where
  pure := .done
  bind := Txn.bind

def Txn.ofExcept : Except ε α → Txn ρ ω ε α
  | .ok a => .done a
  | .error e => .fail e

instance : MonadLift (Except ε) (Txn ρ ω ε) := ⟨Txn.ofExcept⟩

/-- A program whose exceptions are caught. The database's own are not: after one of them no
    statement of the transaction succeeds. -/
def Txn.attempt : Txn ρ ω ε α → Txn ρ ω ε (Except ε α)
  | .done a => .done (.ok a)
  | .fail e => .done (.error e)
  | .select rest => .select fun rows => (rest rows).attempt
  | .insert row rest => .insert row rest.attempt

def Txn.query (f : List ρ → Except ε α) : Txn ρ ω ε α := .select fun rows => .ofExcept (f rows)

abbrev Query (ρ ε α : Type) := Txn ρ Empty ε α

end

/-- The tenants whose rows are kept apart, the lock of each, and the primary key. -/
structure Schema (ρ τ κ ε : Type) where
  tenant : ρ → τ
  lock : τ → κ
  clash : ρ → ρ → Bool
  violation : ε
  clash_tenant : ∀ {r r' : ρ}, clash r r' = true → tenant r = tenant r'

variable {ρ τ κ ε α β γ : Type} [DecidableEq τ] (schema : Schema ρ τ κ ε)

/-- A whole program at once, over rows that stay as they are; the rows it inserts
    are added to the pending ones. -/
def Txn.run (committed : List ρ) : Txn ρ ρ ε α → List ρ → Except ε (α × List ρ)
  | .done a, pending => .ok (a, pending)
  | .fail e, _ => .error e
  | .select rest, pending => (rest (committed ++ pending)).run committed pending
  | .insert row rest, pending =>
    if (committed ++ pending).any (schema.clash row) then .error schema.violation
    else rest.run committed (pending ++ [row])

/-- A program that depends on the rows of one tenant and inserts no others. -/
def Txn.Confined (t : τ) : Txn ρ ρ ε α → Prop
  | .done _ => True
  | .fail _ => True
  | .select rest => ∀ rows, (rest rows).Confined t ∧
      rest rows = rest (rows.filter fun r => schema.tenant r = t)
  | .insert row rest => schema.tenant row = t ∧ rest.Confined t

section
variable {schema}

omit [DecidableEq τ] in
theorem run_bind (committed : List ρ) (x : Txn ρ ρ ε α) (f : α → Txn ρ ρ ε β) (pending : List ρ) :
    (x >>= f).run schema committed pending =
      (x.run schema committed pending) >>= fun r => (f r.1).run schema committed r.2 := by
  induction x generalizing pending with
  | done a => rfl
  | fail e => rfl
  | select rest ih => exact ih _ pending
  | insert row rest ih =>
    show Txn.run schema committed (.insert row (rest.bind f)) pending = _
    simp only [Txn.run]
    split_ifs
    · rfl
    · exact ih _

omit [DecidableEq τ] in
omit [DecidableEq τ] in
theorem run_ofExcept (committed : List ρ) (x : Except ε α) (pending : List ρ) :
    (Txn.ofExcept x : Txn ρ ρ ε α).run schema committed pending = x.map fun a => (a, pending) := by
  cases x <;> rfl

omit [DecidableEq τ] in
theorem run_lift (committed : List ρ) (x : Except ε α) (pending : List ρ) :
    (liftM x : Txn ρ ρ ε α).run schema committed pending = x.map fun a => (a, pending) :=
  run_ofExcept committed x pending

omit [DecidableEq τ] in
theorem run_query (committed : List ρ) (f : List ρ → Except ε α) (pending : List ρ) :
    (Txn.query f : Txn ρ ρ ε α).run schema committed pending =
      (f (committed ++ pending)).map fun a => (a, pending) :=
  run_ofExcept committed _ pending

variable {t : τ}

variable {x p : Txn ρ ρ ε α}

theorem confined_bind {f : α → Txn ρ ρ ε β} (first : x.Confined schema t)
    (rest : ∀ a, (f a).Confined schema t) : (x >>= f).Confined schema t := by
  induction x with
  | done a => exact rest a
  | fail e => trivial
  | select k ih =>
    intro rows
    obtain ⟨inside, local_⟩ := first rows
    exact ⟨ih rows inside, congrArg (Txn.bind · f) local_⟩
  | insert row k ih => exact ⟨first.1, ih first.2⟩

theorem confined_ofExcept (x : Except ε α) : (Txn.ofExcept x : Txn ρ ρ ε α).Confined schema t := by
  cases x <;> trivial

theorem confined_lift (x : Except ε α) : (liftM x : Txn ρ ρ ε α).Confined schema t := confined_ofExcept x

theorem confined_attempt (confined : x.Confined schema t) : x.attempt.Confined schema t := by
  induction x with
  | done a => trivial
  | fail e => trivial
  | select rest ih =>
    intro rows
    obtain ⟨inside, local_⟩ := confined rows
    exact ⟨ih rows inside, congrArg Txn.attempt local_⟩
  | insert row rest ih => exact ⟨confined.1, ih confined.2⟩

theorem confined_query {f : List ρ → Except ε α} (confined : ∀ rows, f rows = f (rows.filter fun r => schema.tenant r = t)) :
    (Txn.query f : Txn ρ ρ ε α).Confined schema t :=
  fun rows => ⟨confined_ofExcept _, congrArg Txn.ofExcept (confined rows)⟩

private theorem any_clash {row : ρ} (own : schema.tenant row = t) (rows : List ρ) :
    rows.any (schema.clash row) = (rows.filter fun r => schema.tenant r = t).any (schema.clash row) := by
  rw [List.any_filter]
  apply List.any_congr
  · rfl
  · intro r
    by_cases clashes : schema.clash row r = true
    · simp [clashes, ← own, schema.clash_tenant clashes]
    · simp [clashes]

theorem run_congr (confined : p.Confined schema t) {c c' : List ρ}
    (same : (c.filter fun r => schema.tenant r = t) = c'.filter fun r => schema.tenant r = t) (pending : List ρ) :
    p.run schema c pending = p.run schema c' pending := by
  have seen : ∀ pending, ((c ++ pending).filter fun r => schema.tenant r = t) =
      (c' ++ pending).filter fun r => schema.tenant r = t := by
    intro pending
    rw [List.filter_append, List.filter_append, same]
  induction p generalizing pending with
  | done a => rfl
  | fail e => rfl
  | select rest ih =>
    have here : rest (c ++ pending) = rest (c' ++ pending) := by
      rw [(confined (c ++ pending)).2, (confined (c' ++ pending)).2, seen]
    rw [Txn.run, Txn.run, here]
    exact ih _ (confined (c' ++ pending)).1 pending
  | insert row rest ih =>
    rw [Txn.run, Txn.run, any_clash confined.1 (c ++ pending), any_clash confined.1 (c' ++ pending), seen,
      ih confined.2]

theorem run_rows (confined : p.Confined schema t) {c pending rows : List ρ} {a : α}
    (ran : p.run schema c pending = .ok (a, rows)) (own : ∀ r ∈ pending, schema.tenant r = t) :
    ∀ r ∈ rows, schema.tenant r = t := by
  induction p generalizing pending with
  | done a =>
    cases ran
    exact own
  | fail e => cases ran
  | select rest ih => exact ih _ (confined _).1 ran own
  | insert row rest ih =>
    rw [Txn.run] at ran
    split_ifs at ran
    refine ih confined.2 ran ?_
    intro r member
    rcases List.mem_append.mp member with earlier | new
    · exact own r earlier
    · rw [List.mem_singleton.mp new]
      exact confined.1

end

/-! ### Sessions -/

/-- What a call does: a section under its tenant's lock, or a read without one. -/
inductive Body (ρ τ ε α : Type) where
  | locked (t : τ) (p : Txn ρ ρ ε α)
  | reads (q : Query ρ ε α)

/-- A call under way: an open transaction with the rows it has inserted, or a read. -/
inductive Session (ρ τ ε α γ : Type) where
  | opened (call : γ) (t : τ) (p : Txn ρ ρ ε α) (pending : List ρ)
  | reading (call : γ) (q : Query ρ ε α)

structure System (ρ τ ε α γ : Type) where
  committed : List ρ
  sessions : Keyed Nat (Session ρ τ ε α γ)

/-- The scheduler's choices: a call starts, executes one statement, ends, or is aborted. -/
inductive Action (γ : Type) where
  | start (id : Nat) (call : γ)
  | statement (id : Nat)
  | finish (id : Nat)
  | abort (id : Nat)

inductive Event (ε α γ : Type) where
  | returned (call : γ) (a : α)
  | threw (call : γ) (e : ε)
  | aborted (call : γ)

def Session.call : Session ρ τ ε α γ → γ
  | .opened call _ _ _ => call
  | .reading call _ => call

def Event.call : Event ε α γ → γ
  | .returned call _ => call
  | .threw call _ => call
  | .aborted call => call

def Session.holds [DecidableEq κ] (k : κ) : Session ρ τ ε α γ → Bool
  | .opened _ t _ _ => schema.lock t = k
  | .reading _ _ => false

/-- One statement of an open transaction. -/
def Txn.statement (committed : List ρ) : Txn ρ ρ ε α → List ρ → Except ε (Txn ρ ρ ε α × List ρ)
  | .done a, pending => .ok (.done a, pending)
  | .fail e, pending => .ok (.fail e, pending)
  | .select rest, pending => .ok (rest (committed ++ pending), pending)
  | .insert row rest, pending =>
    if (committed ++ pending).any (schema.clash row) then .error schema.violation
    else .ok (rest, pending ++ [row])

def Query.statement (committed : List ρ) : Query ρ ε α → Query ρ ε α
  | .select rest => rest committed
  | q => q

def System.locked [DecidableEq κ] (s : System ρ τ ε α γ) (k : κ) : Bool := s.sessions.entries.any fun e => e.2.holds schema k

def System.put (s : System ρ τ ε α γ) (id : Nat) (session : Session ρ τ ε α γ) : System ρ τ ε α γ :=
  { s with sessions := s.sessions.insert id session }

def System.drop (s : System ρ τ ε α γ) (id : Nat) : System ρ τ ε α γ := { s with sessions := s.sessions.erase id }

variable (body : γ → Body ρ τ ε α)

/-- A section starts when its lock is free. -/
def System.start [DecidableEq κ] (s : System ρ τ ε α γ) (id : Nat) (call : γ) : System ρ τ ε α γ :=
  match s.sessions.lookup id, body call with
  | none, .locked t p => if s.locked schema (schema.lock t) then s else s.put id (.opened call t p [])
  | none, .reads q => s.put id (.reading call q)
  | some _, _ => s

def step [DecidableEq κ] (s : System ρ τ ε α γ) : Action γ → System ρ τ ε α γ × List (Event ε α γ)
  | .start id call => (s.start schema body id call, [])
  | .statement id =>
    match s.sessions.lookup id with
    | some (.opened call t p pending) =>
      match p.statement schema s.committed pending with
      | .ok (p', pending') => (s.put id (.opened call t p' pending'), [])
      | .error e => (s.drop id, [.threw call e])
    | some (.reading call q) => (s.put id (.reading call (Query.statement s.committed q)), [])
    | none => (s, [])
  | .finish id =>
    match s.sessions.lookup id with
    | some (.opened call _ (.done a) pending) =>
      ({ committed := s.committed ++ pending, sessions := s.sessions.erase id }, [.returned call a])
    | some (.opened call _ (.fail e) _) => (s.drop id, [.threw call e])
    | some (.reading call (.done a)) => (s.drop id, [.returned call a])
    | some (.reading call (.fail e)) => (s.drop id, [.threw call e])
    | _ => (s, [])
  | .abort id =>
    match s.sessions.lookup id with
    | some session => (s.drop id, [.aborted session.call])
    | none => (s, [])

/-! ### Sections run as a whole -/

/-- Every section is confined to its tenant. -/
def Separate : Prop := ∀ call t p, body call = .locked t p → p.Confined schema t

/-- One section holds a lock, and what is left of it does what is left of its whole program. -/
structure Serial (s : System ρ τ ε α γ) : Prop where
  alone : ∀ {id id' call call' t t' p p' w w'}, s.sessions.lookup id = some (.opened call t p w) →
    s.sessions.lookup id' = some (.opened call' t' p' w') → schema.lock t = schema.lock t' → id = id'
  rest : ∀ {id call t p w}, s.sessions.lookup id = some (.opened call t p w) →
    ∃ whole, body call = .locked t whole ∧ p.Confined schema t ∧
      p.run schema s.committed w = whole.run schema s.committed []
  reads : ∀ {id call q}, s.sessions.lookup id = some (.reading call q) → ∃ q₀, body call = .reads q₀

/-- What a step does to the committed rows: a section ran whole on them and added
    its rows, or they stay and no section has returned. -/
inductive Effect (c : List ρ) : List ρ → List (Event ε α γ) → Prop where
  | still {events} (reads : ∀ call a, .returned call a ∈ events → ∃ q, body call = .reads q) : Effect c c events
  | commit {call t whole a rows} (section_ : body call = .locked t whole)
      (ran : whole.run schema c [] = .ok (a, rows)) : Effect c (c ++ rows) [.returned call a]

/-- What a step does to the sessions and the committed rows. -/
inductive Change (s : System ρ τ ε α γ) : System ρ τ ε α γ → Prop where
  | idle : Change s s
  | opens {id call t p} (section_ : body call = .locked t p) : Change s (s.put id (.opened call t p []))
  | reads {id call q} : Change s (s.put id (.reading call q))
  | states {id call t p w p' w'} (found : s.sessions.lookup id = some (.opened call t p w))
      (ran : p.statement schema s.committed w = .ok (p', w')) : Change s (s.put id (.opened call t p' w'))
  | commits {id call t a w} (found : s.sessions.lookup id = some (.opened call t (.done a) w)) :
      Change s { committed := s.committed ++ w, sessions := s.sessions.erase id }
  | drops {id} : Change s (s.drop id)

variable {schema} {body}

omit [DecidableEq τ] in
private theorem finish_change (s : System ρ τ ε α γ) [DecidableEq κ] (id : Nat) :
    Change schema body s (step schema body s (.finish id)).1 := by
  rw [step]
  cases found : s.sessions.lookup id with
  | none => exact .idle
  | some session =>
    cases session with
    | opened call t p w =>
      cases p with
      | done a => exact .commits found
      | fail e => exact .drops
      | select rest => exact .idle
      | insert row rest => exact .idle
    | reading call q =>
      cases q with
      | done a => exact .drops
      | fail e => exact .drops
      | select rest => exact .idle
      | insert row rest => exact row.elim

omit [DecidableEq τ] in
theorem step_change [DecidableEq κ] (s : System ρ τ ε α γ) (action : Action γ) :
    Change schema body s (step schema body s action).1 := by
  cases action with
  | start id call =>
    change Change schema body s (s.start schema body id call)
    rw [System.start]
    cases s.sessions.lookup id with
    | some session => exact .idle
    | none =>
      cases what : body call with
      | reads q => exact .reads
      | locked t p =>
        dsimp only
        split_ifs
        · exact .idle
        · exact .opens what
  | statement id =>
    rw [step]
    cases found : s.sessions.lookup id with
    | none => exact .idle
    | some session =>
      cases session with
      | reading call q => exact .reads
      | opened call t p w =>
        cases ran : p.statement schema s.committed w with
        | error e =>
          dsimp only
          rw [ran]
          exact .drops
        | ok next =>
          dsimp only
          rw [ran]
          exact .states found ran
  | finish id => exact finish_change s id
  | abort id =>
    rw [step]
    cases s.sessions.lookup id with
    | none => exact .idle
    | some session => exact .drops

theorem serial_empty : Serial schema body ⟨[], ∅⟩ where
  alone found := by simp at found
  rest found := by simp at found
  reads found := by simp at found

variable {s : System ρ τ ε α γ}

omit [DecidableEq τ] in
private theorem not_locked [DecidableEq κ] {k : κ} (free : s.locked schema k = false) {id call t p w}
    (found : s.sessions.lookup id = some (.opened call t p w)) : schema.lock t ≠ k := by
  intro same
  have member := AList.mem_lookup_iff.mp found
  have absent := List.any_eq_false.mp free _ member
  simp [Session.holds, same] at absent

section
variable {s : System ρ τ ε α γ} {id : Nat}

private theorem Serial.drop (serial : Serial schema body s) : Serial schema body (s.drop id) where
  alone found found' same := by
    simp only [System.drop, lookup_erase] at found found'
    split_ifs at found found'
    exact serial.alone found found' same
  rest found := by
    simp only [System.drop, lookup_erase] at found
    split_ifs at found
    exact serial.rest found
  reads found := by
    simp only [System.drop, lookup_erase] at found
    split_ifs at found
    exact serial.reads found

variable {call : γ} {t : τ} {w : List ρ}

private theorem Serial.read (serial : Serial schema body s) {q q₀ : Query ρ ε α}
    (reads : body call = .reads q₀) : Serial schema body (s.put id (.reading call q)) where
  alone found found' same := by
    simp only [System.put, lookup_insert] at found found'
    split_ifs at found found'
    · cases found
    · cases found
    · cases found'
    · exact serial.alone found found' same
  rest found := by
    simp only [System.put, lookup_insert] at found
    split_ifs at found
    · cases found
    · exact serial.rest found
  reads found := by
    simp only [System.put, lookup_insert] at found
    split_ifs at found
    · cases found
      exact ⟨q₀, reads⟩
    · exact serial.reads found

private theorem Serial.put (serial : Serial schema body s) {p whole : Txn ρ ρ ε α} (section_ : body call = .locked t whole)
    (confined : p.Confined schema t) (same : p.run schema s.committed w = whole.run schema s.committed [])
    (alone : ∀ {id' call' t' p' w'}, s.sessions.lookup id' = some (.opened call' t' p' w') →
      schema.lock t = schema.lock t' → id = id') : Serial schema body (s.put id (.opened call t p w)) where
  alone {i j _ _ _ _ _ _ _ _} found found' locks := by
    simp only [System.put, lookup_insert] at found found'
    by_cases here : i = id
    · by_cases there : j = id
      · rw [here, there]
      · rw [if_pos here] at found
        rw [if_neg there] at found'
        cases found
        rw [here]
        exact alone found' locks
    · rw [if_neg here] at found
      by_cases there : j = id
      · rw [if_pos there] at found'
        cases found'
        rw [there]
        exact (alone found locks.symm).symm
      · rw [if_neg there] at found'
        exact serial.alone found found' locks
  rest found := by
    simp only [System.put, lookup_insert] at found
    split_ifs at found
    · cases found
      exact ⟨whole, section_, confined, same⟩
    · exact serial.rest found
  reads found := by
    simp only [System.put, lookup_insert] at found
    split_ifs at found
    · cases found
    · exact serial.reads found

private theorem statement_run {c : List ρ} {p p' : Txn ρ ρ ε α} {w' : List ρ} (confined : p.Confined schema t)
    (ran : p.statement schema c w = .ok (p', w')) : p'.Confined schema t ∧ p'.run schema c w' = p.run schema c w := by
  cases p with
  | done a =>
    cases ran
    exact ⟨confined, rfl⟩
  | fail e =>
    cases ran
    exact ⟨confined, rfl⟩
  | select rest =>
    cases ran
    exact ⟨(confined _).1, rfl⟩
  | insert row rest =>
    rw [Txn.statement] at ran
    split_ifs at ran with clashes
    cases ran
    exact ⟨confined.2, by rw [Txn.run, if_neg clashes]⟩

section
variable (separate : Separate schema body) (serial : Serial schema body s)
include separate serial

private theorem serial_start [DecidableEq κ] (call : γ) : Serial schema body (s.start schema body id call) := by
  rw [System.start]
  cases found : s.sessions.lookup id with
  | some session => exact serial
  | none =>
    cases what : body call with
    | locked t p =>
      dsimp only
      by_cases held : s.locked schema (schema.lock t) = true
      · rw [if_pos held]
        exact serial
      · rw [if_neg held]
        refine serial.put what (separate call t p what) rfl ?_
        intro id' call' t' p' w' other locks
        exact absurd locks.symm (not_locked (Bool.not_eq_true _ ▸ held) other)
    | reads q => exact serial.read what

private theorem serial_commit {a : α} (found : s.sessions.lookup id = some (.opened call t (.done a) w)) :
    Serial schema body { committed := s.committed ++ w, sessions := s.sessions.erase id } := by
  have dropped : Serial schema body (s.drop id) := serial.drop
  refine ⟨dropped.alone, ?_, dropped.reads⟩
  intro id' call' t' p' w' other
  obtain ⟨whole', section', confined', same'⟩ := dropped.rest other
  obtain ⟨whole, section_, _, ran⟩ := serial.rest found
  have rows := run_rows (separate call t whole section_) ran.symm (by simp)
  have others : t' ≠ t := by
    rintro rfl
    simp only [lookup_erase] at other
    split_ifs at other with here
    exact here (serial.alone other found rfl)
  have foreign : (w.filter fun r => schema.tenant r = t') = [] := by
    rw [List.filter_eq_nil_iff]
    intro r member own
    exact others ((of_decide_eq_true own).symm.trans (rows r member))
  have unseen : ((s.committed ++ w).filter fun r => schema.tenant r = t') =
      s.committed.filter fun r => schema.tenant r = t' := by
    rw [List.filter_append, foreign, List.append_nil]
  refine ⟨whole', section', confined', ?_⟩
  show p'.run schema (s.committed ++ w) w' = _
  rw [run_congr confined' unseen, run_congr (separate call' t' whole' section') unseen]
  exact same'

/-- Sections run as a whole: each step keeps this, and changes the committed rows
    only as one whole section would. -/
theorem step_serial [DecidableEq κ] (action : Action γ) : Serial schema body (step schema body s action).1 ∧
      Effect schema body s.committed (step schema body s action).1.committed (step schema body s action).2 := by
  cases action with
  | start id call =>
    refine ⟨serial_start separate serial call, ?_⟩
    have kept : (s.start schema body id call).committed = s.committed := by
      rw [System.start]
      split <;> try split_ifs
      all_goals rfl
    rw [show (step schema body s (.start id call)).1.committed = s.committed from kept]
    exact .still (by simp [step])
  | statement id =>
    cases found : s.sessions.lookup id with
    | none =>
      simp only [step, found]
      exact ⟨serial, .still (by simp)⟩
    | some session =>
      cases session with
      | reading call q =>
        obtain ⟨q₀, reads⟩ := serial.reads found
        simp only [step, found]
        exact ⟨serial.read reads, .still (by simp)⟩
      | opened call t p w =>
        obtain ⟨whole, section_, confined, same⟩ := serial.rest found
        cases ran : p.statement schema s.committed w with
        | error e =>
          simp only [step, found, ran]
          exact ⟨serial.drop, .still (by simp)⟩
        | ok next =>
          obtain ⟨confined', same'⟩ := statement_run confined ran
          simp only [step, found, ran]
          exact ⟨serial.put section_ confined' (same'.trans same) (serial.alone found), .still (by simp)⟩
  | finish id =>
    cases found : s.sessions.lookup id with
    | none =>
      simp only [step, found]
      exact ⟨serial, .still (by simp)⟩
    | some session =>
      cases session with
      | reading call q =>
        obtain ⟨q₀, reads⟩ := serial.reads found
        cases q with
        | done a =>
          simp only [step, found]
          refine ⟨serial.drop, .still ?_⟩
          intro call' a' member
          cases List.mem_singleton.mp member
          exact ⟨q₀, reads⟩
        | fail e =>
          simp only [step, found]
          exact ⟨serial.drop, .still (by simp)⟩
        | select rest =>
          simp only [step, found]
          exact ⟨serial, .still (by simp)⟩
        | insert row rest => exact row.elim
      | opened call t p w =>
        cases p with
        | done a =>
          obtain ⟨whole, section_, _, ran⟩ := serial.rest found
          simp only [step, found]
          exact ⟨serial_commit separate serial found, .commit section_ ran.symm⟩
        | fail e =>
          simp only [step, found]
          exact ⟨serial.drop, .still (by simp)⟩
        | select rest =>
          simp only [step, found]
          exact ⟨serial, .still (by simp)⟩
        | insert row rest =>
          simp only [step, found]
          exact ⟨serial, .still (by simp)⟩
  | abort id =>
    cases found : s.sessions.lookup id with
    | none =>
      simp only [step, found]
      exact ⟨serial, .still (by simp)⟩
    | some session =>
      simp only [step, found]
      exact ⟨serial.drop, .still (by simp)⟩

end

end

theorem run_serial [DecidableEq κ] (separate : Separate schema body) (actions : List (Action γ)) :
    Serial schema body (Traces.exec (step schema body) ⟨[], ∅⟩ actions).1 :=
  Traces.exec_invariant (I := Serial schema body) (fun _ action serial => (step_serial separate serial action).1)
    serial_empty actions

theorem run_committed [DecidableEq κ] (separate : Separate schema body) {I : List ρ → Prop} (start : I [])
    (kept : ∀ c call t whole a rows, I c → body call = .locked t whole → whole.run schema c [] = .ok (a, rows) →
      I (c ++ rows)) (actions : List (Action γ)) : I (Traces.exec (step schema body) ⟨[], ∅⟩ actions).1.committed := by
  have both : Serial schema body (Traces.exec (step schema body) ⟨[], ∅⟩ actions).1 ∧
      I (Traces.exec (step schema body) ⟨[], ∅⟩ actions).1.committed := by
    refine Traces.exec_invariant (I := fun s => Serial schema body s ∧ I s.committed) ?_ ⟨serial_empty, start⟩ actions
    rintro s action ⟨serial, holds⟩
    obtain ⟨serial', effect⟩ := step_serial separate serial action
    refine ⟨serial', ?_⟩
    generalize (step schema body s action).1.committed = c' at effect
    generalize (step schema body s action).2 = events at effect
    cases effect with
    | still _ => exact holds
    | commit section_ ran => exact kept _ _ _ _ _ _ holds section_ ran
  exact both.2

/-! ### Calls under way were started -/

variable {action : Action γ}

omit [DecidableEq τ] in
private theorem step_sessions [DecidableEq κ] {id : Nat} {session : Session ρ τ ε α γ}
    (found : (step schema body s action).1.sessions.lookup id = some session) :
    (∃ earlier, s.sessions.lookup id = some earlier ∧ earlier.call = session.call) ∨
      ∃ j, action = .start j session.call := by
  have dropped : ∀ {j}, (s.drop j).sessions.lookup id = some session → s.sessions.lookup id = some session := by
    intro j found
    simp only [System.drop, lookup_erase] at found
    split_ifs at found
    exact found
  have put : ∀ {j new}, (s.put j new).sessions.lookup id = some session →
      (id = j ∧ new = session) ∨ s.sessions.lookup id = some session := by
    intro j new found
    simp only [System.put, lookup_insert] at found
    split_ifs at found with here
    · cases found
      exact .inl ⟨here, rfl⟩
    · exact .inr found
  cases action with
  | start j call =>
    simp only [step, System.start] at found
    cases free : s.sessions.lookup j with
    | some other =>
      rw [free] at found
      exact .inl ⟨session, found, rfl⟩
    | none =>
      rw [free] at found
      cases what : body call with
      | locked t p =>
        rw [what] at found
        dsimp only at found
        split_ifs at found
        · exact .inl ⟨session, found, rfl⟩
        · rcases put found with ⟨_, rfl⟩ | earlier
          · exact .inr ⟨j, rfl⟩
          · exact .inl ⟨session, earlier, rfl⟩
      | reads q =>
        rw [what] at found
        rcases put found with ⟨_, rfl⟩ | earlier
        · exact .inr ⟨j, rfl⟩
        · exact .inl ⟨session, earlier, rfl⟩
  | statement j =>
    simp only [step] at found
    split at found
    · next call t p pending running =>
      split at found
      · rcases put found with ⟨rfl, rfl⟩ | earlier
        · exact .inl ⟨_, running, rfl⟩
        · exact .inl ⟨session, earlier, rfl⟩
      · exact .inl ⟨session, dropped found, rfl⟩
    · next call q running =>
      rcases put found with ⟨rfl, rfl⟩ | earlier
      · exact .inl ⟨_, running, rfl⟩
      · exact .inl ⟨session, earlier, rfl⟩
    · exact .inl ⟨session, found, rfl⟩
  | finish j =>
    simp only [step] at found
    split at found
    · exact .inl ⟨session, dropped found, rfl⟩
    · exact .inl ⟨session, dropped found, rfl⟩
    · exact .inl ⟨session, dropped found, rfl⟩
    · exact .inl ⟨session, dropped found, rfl⟩
    · exact .inl ⟨session, found, rfl⟩
  | abort j =>
    simp only [step] at found
    split at found
    · exact .inl ⟨session, dropped found, rfl⟩
    · exact .inl ⟨session, found, rfl⟩

omit [DecidableEq τ] in
private theorem step_events [DecidableEq κ] {e : Event ε α γ} (emitted : e ∈ (step schema body s action).2) :
    ∃ id session, s.sessions.lookup id = some session ∧ session.call = e.call := by
  cases action with
  | start j call => simp [step] at emitted
  | statement j =>
    simp only [step] at emitted
    split at emitted
    · next running =>
      split at emitted
      · simp at emitted
      · rw [List.mem_singleton.mp emitted]
        exact ⟨j, _, running, rfl⟩
    · simp at emitted
    · simp at emitted
  | finish j =>
    simp only [step] at emitted
    split at emitted
    · next running =>
      rw [List.mem_singleton.mp emitted]
      exact ⟨j, _, running, rfl⟩
    · next running =>
      rw [List.mem_singleton.mp emitted]
      exact ⟨j, _, running, rfl⟩
    · next running =>
      rw [List.mem_singleton.mp emitted]
      exact ⟨j, _, running, rfl⟩
    · next running =>
      rw [List.mem_singleton.mp emitted]
      exact ⟨j, _, running, rfl⟩
    · simp at emitted
  | abort j =>
    simp only [step] at emitted
    split at emitted
    · next running =>
      rw [List.mem_singleton.mp emitted]
      exact ⟨j, _, running, rfl⟩
    · simp at emitted

omit [DecidableEq τ] in
theorem session_started [DecidableEq κ] (actions : List (Action γ)) {id : Nat} {session : Session ρ τ ε α γ}
    (found : (Traces.exec (step schema body) ⟨[], ∅⟩ actions).1.sessions.lookup id = some session) :
    ∃ j, .start j session.call ∈ actions := by
  induction actions using List.reverseRec generalizing id session with
  | nil => simp at found
  | append_singleton actions action ih =>
    rw [Traces.exec_append, Traces.exec_cons, Traces.exec_nil] at found
    rcases step_sessions found with ⟨earlier, before, same⟩ | ⟨j, rfl⟩
    · obtain ⟨j, member⟩ := ih before
      exact ⟨j, List.mem_append_left _ (same ▸ member)⟩
    · exact ⟨j, by simp⟩

omit [DecidableEq τ] in
theorem event_started [DecidableEq κ] {before : List (Action γ)} {e : Event ε α γ}
    (emitted : e ∈ (step schema body (Traces.exec (step schema body) ⟨[], ∅⟩ before).1 action).2) :
    ∃ j, .start j e.call ∈ before := by
  obtain ⟨id, session, found, same⟩ := step_events emitted
  obtain ⟨j, member⟩ := session_started before found
  exact ⟨j, same ▸ member⟩

end AgentPey.Transactions
