import AgentPey.LocalPolicyRail
import AgentPey.Tasks
import AgentPey.VaultEntries
import Mathlib.Data.Finset.Basic

/-!
The in-memory spend ledger, `ledger/spend-ledger.ts`, and the local policy rail over
it. None of the ledger's functions awaits anything, so each is one act. The ledger
remembers a book: the spends it has recorded and not released.
-/
namespace AgentPey.InMemoryLedger
open AgentPass Amounts Dates LocalPolicyRail Postings PurchaseChecks Store Tasks
open VaultEntries (Bucket)

/-- The three maps of the ledger; the nested map of totals has one key for each path. -/
structure InMemorySpendLedger where
  totals : Keyed Bucket Int
  recorded : Keyed String SpendLedgerEntry
  released : Finset String

def createInMemorySpendLedger : InMemorySpendLedger := ⟨∅, ∅, ∅⟩

variable (l : InMemorySpendLedger)

def total (bucket : Bucket) : Int := (l.totals.lookup bucket).getD 0

def addToTotals (bucket : Bucket) (amount : Int) : InMemorySpendLedger :=
  { l with totals := l.totals.insert bucket (total l bucket + amount) }

/-- The date is read only where the subject has some total in the currency. -/
def spentOn (subject currency : String) (at_ : Date) : Result String :=
  if l.totals.keys.any fun bucket => bucket.subject = subject && bucket.currency = currency then do
    let day ← utcDayKey at_
    fromScaledAmount (total l ⟨subject, currency, day⟩)
  else
    fromScaledAmount 0

def hasRecorded (intentId : String) : Bool := (l.recorded.lookup intentId).isSome && intentId ∉ l.released

/-- What `record` leaves when it does not return early. -/
def recordNew (entry : SpendLedgerEntry) : Result InMemorySpendLedger := do
  let amount ← toScaledAmount entry.amount
  let day ← utcDayKey entry.at_
  let added := addToTotals l ⟨entry.subject, entry.currency, day⟩ amount
  pure { added with
    recorded := added.recorded.insert entry.intentId entry
    released := added.released.erase entry.intentId }

def record (entry : SpendLedgerEntry) : Result InMemorySpendLedger :=
  if hasRecorded l entry.intentId then .ok l else recordNew l entry

def release (input : ReleaseSpendInput) : Result InMemorySpendLedger :=
  if input.intentId ∈ l.released then .ok l
  else match l.recorded.lookup input.intentId with
  | none => .error (VaultEntries.spendNotRecorded "no recorded spend to release for that intent" input.intentId)
  | some entry => do
    let day ← utcDayKey entry.at_
    let amount ← toScaledAmount entry.amount
    let added := addToTotals l ⟨entry.subject, entry.currency, day⟩ (-amount)
    pure { added with released := insert input.intentId added.released }

/-! ### The ledger's functions as acts -/

def reads {α : Type} (f : InMemorySpendLedger → Result α) : Task InMemorySpendLedger Thrown α :=
  .atomic fun l => (f l, l)

/-- A function that writes; one that throws leaves the ledger as it was. -/
def writes (f : InMemorySpendLedger → Result InMemorySpendLedger) : Task InMemorySpendLedger Thrown PUnit :=
  .atomic fun l => match f l with
    | .ok l' => (.ok ⟨⟩, l')
    | .error e => (.error e, l)

def ledger : LockedSpendLedger (Task InMemorySpendLedger Thrown) where
  spentOn subject currency at_ := reads fun l => spentOn l subject currency at_
  hasRecorded intentId := reads fun l => .ok (hasRecorded l intentId)
  record entry := writes fun l => record l entry
  release input := writes fun l => release l input

/-! ### The rail over it -/

/-- The rail's calls, each with what its clock reads when its work starts. -/
inductive Call where
  | authorise (request : AuthorisationRequest) (at_ : Date)
  | preview (request : AuthorisationRequest) (at_ : Date)
  | release (input : ReleaseSpendInput)

inductive Reply where
  | decision (d : AuthorisationDecision)
  | released

/-- The key of `serialise`: the agent, or the intent; a preview has none. -/
def queue : Call → Option String
  | .authorise request _ => some request.intent.agent
  | .preview _ _ => none
  | .release input => some input.intentId

def body (strKey : StrKey) : Call → Task InMemorySpendLedger Thrown Reply
  | .authorise request at_ => do
    let decision ← authorise strKey ledger request at_
    pure (.decision decision)
  | .preview request at_ => do
    let decision ← decide strKey ledger.toReader request at_
    pure (.decision decision)
  | .release input => do
    ledger.release input
    pure .released

/-! ### The book of a ledger -/

def standing (intentId : String) : Option SpendLedgerEntry :=
  if intentId ∈ l.released then none else l.recorded.lookup intentId

def spendOf (entry : SpendLedgerEntry) : Spend Bucket :=
  ⟨⟨entry.subject, entry.currency, (entry.at_.map TimeValue.dayKey).getD ""⟩,
    (toScaledAmount entry.amount).toOption.getD 0⟩

/-- The ledger's maps say what stands, and its totals are those of what stands. -/
structure Remembers (b : Book String Bucket) : Prop where
  stands : ∀ id, b.lookup id = (standing l id).map spendOf
  totals : ∀ bucket, total l bucket = held bucket b
  usable : ∀ id e, l.recorded.lookup id = some e → ∃ n t, toScaledAmount e.amount = .ok n ∧ e.at_ = some t

variable {l} {b : Book String Bucket}

theorem remembers_empty : Remembers createInMemorySpendLedger ∅ where
  stands id := by simp [createInMemorySpendLedger, standing]
  totals bucket := by simp [createInMemorySpendLedger, total]
  usable id e found := by simp [createInMemorySpendLedger] at found

theorem hasRecorded_eq (intentId : String) : hasRecorded l intentId = (standing l intentId).isSome := by
  by_cases released : intentId ∈ l.released <;> simp [hasRecorded, standing, released]

theorem Remembers.isSome_lookup (remembers : Remembers l b) (intentId : String) :
    (b.lookup intentId).isSome = hasRecorded l intentId := by
  rw [remembers.stands, hasRecorded_eq, Option.isSome_map]

theorem Remembers.spentOn (remembers : Remembers l b) (subject currency : String) (t : TimeValue) :
    spentOn l subject currency (some t) = fromScaledAmount (held ⟨subject, currency, t.dayKey⟩ b) := by
  rw [InMemoryLedger.spentOn]
  split_ifs with any
  · rw [utcDayKey_some, ok_bind, remembers.totals]
  · have absent : l.totals.lookup ⟨subject, currency, t.dayKey⟩ = none := by
      rw [AList.lookup_eq_none]
      intro member
      exact any (List.any_eq_true.mpr ⟨_, AList.mem_keys.mp member, by simp⟩)
    rw [← remembers.totals, total, absent, Option.getD_none]

private theorem total_addToTotals (bucket bucket' : Bucket) (amount : Int) :
    total (addToTotals l bucket amount) bucket' = total l bucket' + if bucket' = bucket then amount else 0 := by
  rw [total, addToTotals, lookup_insert]
  split_ifs with same
  · rw [same, Option.getD_some]
  · rw [Int.add_zero, total]

variable {e : SpendLedgerEntry}

variable {n : Nat} {t : TimeValue} {l' : InMemorySpendLedger}

/-- A record of an intent that does not stand adds its amount to its day. -/
theorem record_adds (free : hasRecorded l e.intentId = false) (amount : toScaledAmount e.amount = .ok n)
    (time : e.at_ = some t) : ∃ l', record l e = .ok l' ∧
      total l' ⟨e.subject, e.currency, t.dayKey⟩ = total l ⟨e.subject, e.currency, t.dayKey⟩ + n := by
  rw [record, free, if_neg (by decide), recordNew, amount, time, utcDayKey_some]
  refine ⟨_, rfl, ?_⟩
  show total (addToTotals l _ _) _ = _
  rw [total_addToTotals, if_pos rfl]

theorem weight_spendOf (amount : toScaledAmount e.amount = .ok n) (time : e.at_ = some t) (bucket : Bucket) :
    (spendOf e).weight bucket = if bucket = ⟨e.subject, e.currency, t.dayKey⟩ then (n : Int) else 0 := by
  rw [Spend.weight, spendOf, amount, time]
  by_cases same : bucket = ⟨e.subject, e.currency, t.dayKey⟩
  · subst same
    simp [Except.toOption]
  · simp [same, Ne.symm same]

/-- A record charges its intent when nothing of it stands, and throws or does nothing otherwise. -/
theorem Remembers.record (remembers : Remembers l b) (recorded : record l e = .ok l') :
    (hasRecorded l e.intentId = true ∧ l' = l) ∨
      (hasRecorded l e.intentId = false ∧ (∃ n t, toScaledAmount e.amount = .ok n ∧ e.at_ = some t) ∧
        Remembers l' (b.insert e.intentId (spendOf e))) := by
  rw [InMemoryLedger.record] at recorded
  split_ifs at recorded with already
  · cases recorded
    exact .inl ⟨already, rfl⟩
  · have fresh : hasRecorded l e.intentId = false := Bool.eq_false_iff.mpr already
    simp only [recordNew, bind_eq_ok] at recorded
    obtain ⟨n, amount, day, keyed, same⟩ := recorded
    cases same
    obtain ⟨t, time, rfl⟩ := utcDayKey_eq_ok keyed
    have free : b.lookup e.intentId = none := by
      rw [← Option.not_isSome_iff_eq_none, remembers.isSome_lookup]
      exact already
    refine .inr ⟨fresh, ⟨n, t, amount, time⟩, ?_, ?_, ?_⟩
    · intro id
      rw [lookup_insert]
      by_cases same : id = e.intentId
      · subst same
        simp [standing, addToTotals]
      · rw [if_neg same, remembers.stands]
        simp [standing, addToTotals, same]
    · intro bucket
      rw [held_charge bucket _ free, weight_spendOf amount time]
      show total (addToTotals l _ _) bucket = _
      rw [total_addToTotals, remembers.totals]
    · intro id e' found
      show ∃ n t, _
      simp only [addToTotals, lookup_insert] at found
      split_ifs at found with same
      · cases found
        exact ⟨n, t, amount, time⟩
      · exact remembers.usable id e' found

theorem Remembers.release (remembers : Remembers l b) {input : ReleaseSpendInput}
    (released : release l input = .ok l') : Remembers l' (b.erase input.intentId) := by
  rw [InMemoryLedger.release] at released
  split_ifs at released with already
  · cases released
    have gone : b.lookup input.intentId = none := by rw [remembers.stands, standing, if_pos already, Option.map_none]
    rw [erase_absent gone]
    exact remembers
  · cases found : l.recorded.lookup input.intentId with
    | none =>
      rw [found] at released
      cases released
    | some e =>
      obtain ⟨n, t, amount, time⟩ := remembers.usable _ e found
      have stands : b.lookup input.intentId = some (spendOf e) := by
        rw [remembers.stands, standing, if_neg already, found, Option.map_some]
      simp only [found, time, utcDayKey_some, amount, ok_bind] at released
      cases released
      refine ⟨?_, ?_, remembers.usable⟩
      · intro id
        rw [lookup_erase]
        by_cases same : id = input.intentId
        · simp [standing, same]
        · rw [if_neg same, remembers.stands]
          simp [standing, addToTotals, same]
      · intro bucket
        rw [held_refund bucket stands, weight_spendOf amount time]
        show total (addToTotals l _ _) bucket = _
        rw [total_addToTotals, remembers.totals]
        split_ifs <;> omega

end AgentPey.InMemoryLedger
