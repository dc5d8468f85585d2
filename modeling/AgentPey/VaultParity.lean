import AgentPey.PostgresSections
import AgentPey.VaultReload

/-!
The file vault and the Postgres vault, asked the same questions one after the other.
The file vault keeps totals, grants and two sets of intents as it goes; the Postgres
vault recomputes each of them from the tenant's rows. The two answer alike except
where a date has no ten-character day: a total that Postgres then never finds, and a
date that one of them does not read.
-/
namespace AgentPey.VaultParity
open AgentPass Amounts Dates LocalPolicyRail Postings VaultEntries FileVault PostgresVault PostgresSections
open Transactions
open Store (lookup_insert lookup_erase)
open VaultReload (anchoredIn anchoredIn_snoc)
open VaultReload (anchors granting releasing)

/-! ### One sequence of calls -/

/-- The calls on a vault, each with its time: the given one, or what the clock reads. -/
inductive Call where
  | record (entry : SpendLedgerEntry)
  | release (input : ReleaseSpendInput)
  | recordRefusal (input : RecordRefusalInput) (at_ : Date)
  | recordAnchor (input : RecordAnchorInput) (at_ : Date)
  | spentOn (subject currency : String) (at_ : Date)
  | hasRecorded (intentId : String)
  | verify

inductive Answer where
  | nothing
  | amount (text : String)
  | recorded (b : Bool)
  | verified (v : VaultVerification)

/-- A write that returns has no value. -/
def written {σ : Type} (call : Result PUnit × σ) : Result Answer × σ := (call.1.map fun _ => .nothing, call.2)

def fileCall (sha256 : String → String) (v : FileMandateVault) : Call → Result Answer × FileMandateVault
  | .record entry => written (FileVault.record v sha256 entry)
  | .release input => written (FileVault.release v sha256 input)
  | .recordRefusal input at_ => written (FileVault.recordRefusal v sha256 input at_)
  | .recordAnchor input at_ => written (FileVault.recordAnchor v sha256 input at_)
  | .spentOn subject currency at_ => ((FileVault.spentOn v subject currency at_).map .amount, v)
  | .hasRecorded intentId => (.ok (.recorded (FileVault.hasRecorded v intentId)), v)
  | .verify => (.ok (.verified (verify sha256 v.records)), v)

/-- A live instance of the Postgres vault: the table, and the instance's own list. -/
structure PostgresMandateVault where
  rows : List VaultRow
  records : List VaultRecord

def asRecord (row : VaultRow) : VaultRecord := ⟨row.seq, row.prev_hash, row.hash, row.entry⟩

def PostgresMandateVault.chain (s : PostgresMandateVault) (tenantId : String) : List VaultRecord :=
  (orderBySeq (ofTenant tenantId s.rows)).map asRecord

section
variable (host : Host) (tenantId : String) (s : PostgresMandateVault)

/-- A section of its own: what it inserts is pushed to the instance's list. Each of these
    sections inserts at most one row, as its last statement. -/
def withOwnLock (p : Txn VaultRow VaultRow Thrown PUnit) : Result PUnit × PostgresMandateVault :=
  match p.run (schema host) s.rows [] with
  | .ok (_, new) => (.ok ⟨⟩, ⟨s.rows ++ new, s.records ++ new.map asRecord⟩)
  | .error e => (.error e, s)

/-- A statement on the pool. -/
def onPool {α : Type} (q : Txn VaultRow VaultRow Thrown α) : Result α := (q.run (schema host) s.rows []).map Prod.fst

def postgresCall : Call → Result Answer × PostgresMandateVault
  | .record entry => written (withOwnLock host s (recordVia host tenantId entry))
  | .release input => written (withOwnLock host s (releaseVia host tenantId input))
  | .recordRefusal input at_ => written (withOwnLock host s (PostgresVault.recordRefusal host tenantId input at_))
  | .recordAnchor input at_ => written (withOwnLock host s (PostgresVault.recordAnchor host tenantId input at_))
  | .spentOn subject currency at_ => ((onPool host s (spentOnVia tenantId subject currency at_)).map .amount, s)
  | .hasRecorded intentId => ((onPool host s (hasRecordedVia tenantId intentId)).map .recorded, s)
  | .verify => (.ok (.verified (verify host.sha256 s.records)), s)

end

/-- Asked the same calls, the vaults answer the same, and after each call they hold the
    same chain: in the file, in the table and in the instance's list. -/
def Agree (host : Host) (tenantId : String) : FileMandateVault → PostgresMandateVault → List Call → Prop
  | _, _, [] => True
  | v, s, call :: rest =>
    (fileCall host.sha256 v call).1 = (postgresCall host tenantId s call).1 ∧
      (fileCall host.sha256 v call).2.records = (postgresCall host tenantId s call).2.chain tenantId ∧
      (fileCall host.sha256 v call).2.records = (postgresCall host tenantId s call).2.records ∧
      Agree host tenantId (fileCall host.sha256 v call).2 (postgresCall host tenantId s call).2 rest

/-- Before a call the vaults are about to answer it alike. A total is asked for a year of
    four digits, or is zero; an invalid date is asked where the file vault reads it too; and an
    intent that is released is not one whose only anchor was refused for its date. -/
def Alike (v : FileMandateVault) : Call → Prop
  | .spentOn subject currency none =>
    (v.totals.keys.any fun bucket => bucket.subject = subject && bucket.currency = currency) = true
  | .spentOn subject currency (some t) => t.FourDigits ∨ total v ⟨subject, currency, t.dayKey⟩ = 0
  | .release input => FileVault.hasRecorded v input.intentId = true → input.intentId ∈ v.anchoredIntents →
      input.intentId ∈ anchoredIn v.records
  | _ => True

/-- Every call of the sequence is one that the vaults answer alike. -/
def AllAlike (sha256 : String → String) : FileMandateVault → List Call → Prop
  | _, [] => True
  | v, call :: rest => Alike v call ∧ AllAlike sha256 (fileCall sha256 v call).2 rest

/-! ### What a live file vault has read -/

def entries (v : FileMandateVault) : List VaultEntry := v.records.map VaultRecord.entry

def timeOf : VaultEntry → Option String
  | .granted e => some e.at_
  | .released e => some e.at_
  | .refused _ => none
  | .anchored _ => none

/-- What the instance holds is what its chain says. -/
structure Read (sha256 : String → String) (v : FileMandateVault) : Prop where
  numbered : v.records.map VaultRecord.seq = List.range v.records.length
  intact : HashChains.Intact (recordChain sha256) "" v.records
  dated : ∀ e ∈ entries v, ∀ text, timeOf e = some text → ∃ t : TimeValue, text = String.ofList t.text
  totals : ∃ b, Accounts sliceToT (entries v) b ∧ ∀ bucket, total v bucket = held bucket b
  granted : ∀ id, v.grants.lookup id = (grantState id (entries v)).granted
  released : ∀ id, id ∈ v.releasedIntents ↔ (grantState id (entries v)).released = true
  marked : anchoredIn v.records ⊆ v.anchoredIntents

section
variable {sha256 : String → String} {v v' : FileMandateVault}

theorem anchoredIn_iff (records : List VaultRecord) (id : String) :
    id ∈ anchoredIn records ↔ (grantState id (records.map VaultRecord.entry)).anchored = true := by
  induction records using List.reverseRec with
  | nil => simp [anchoredIn, grantState, GrantState.fresh]
  | append_singleton records record ih =>
    rw [anchoredIn_snoc, List.map_append, List.map_singleton, grantState_append]
    cases entry : record.entry with
    | granted e => by_cases own : e.intentId = id <;> simp [anchors, VaultEntry.intentId, own, GrantState.see, ih]
    | released e => by_cases own : e.intentId = id <;> simp [anchors, VaultEntry.intentId, own, GrantState.see, ih]
    | refused e => by_cases own : e.intentId = id <;> simp [anchors, VaultEntry.intentId, own, GrantState.see, ih]
    | anchored e =>
      by_cases own : e.intentId = id
      · simp [anchors, VaultEntry.intentId, own, GrantState.see]
      · simp [anchors, VaultEntry.intentId, own, Ne.symm own, ih]

theorem Read.standing (read : Read sha256 v) (id : String) :
    FileVault.hasRecorded v id = (grantState id (entries v)).standing.isSome := by
  have released := read.released id
  rw [FileVault.hasRecorded, read.granted id, GrantState.standing]
  cases state : (grantState id (entries v)).released with
  | true => simp [released.mpr state]
  | false =>
    have live : id ∉ v.releasedIntents := by
      intro member
      rw [released.mp member] at state
      cases state
    simp [live]

theorem Read.nonneg (read : Read sha256 v) (bucket : Bucket) : 0 ≤ total v bucket := by
  obtain ⟨b, _, held⟩ := read.totals
  rw [held]
  exact held_nonneg bucket b

theorem total_absent {subject currency day : String}
    (absent : ¬(v.totals.keys.any fun bucket => bucket.subject = subject && bucket.currency = currency) = true) :
    total v ⟨subject, currency, day⟩ = 0 := by
  rw [total, AList.lookup_eq_none.mpr]
  · rfl
  · intro member
    exact absent (List.any_eq_true.mpr ⟨_, member, by simp⟩)

/-- On a valid date the answer is the day's total, whether or not the date was read. -/
theorem spentOn_some (subject currency : String) (t : TimeValue) :
    FileVault.spentOn v subject currency (some t) = .ok (unscaleAmount (total v ⟨subject, currency, t.dayKey⟩)) := by
  rw [FileVault.spentOn]
  by_cases known : (v.totals.keys.any fun bucket => bucket.subject = subject && bucket.currency = currency) = true
  · rw [if_pos known, utcDayKey_some]
    rfl
  · rw [if_neg known, total_absent known]
    rfl

/-! ### One more record -/

theorem entries_append (entry : VaultEntry) : entries (append v sha256 entry) = entries v ++ [entry] := by
  simp [entries, append]

theorem numbered_append (entry : VaultEntry) (numbered : v.records.map VaultRecord.seq = List.range v.records.length) :
    (append v sha256 entry).records.map VaultRecord.seq = List.range (append v sha256 entry).records.length := by
  simp [append, List.range_succ, numbered]

theorem intact_append (entry : VaultEntry) (intact : HashChains.Intact (recordChain sha256) "" v.records) :
    HashChains.Intact (recordChain sha256) "" (append v sha256 entry).records :=
  HashChains.intact_snoc.mpr ⟨intact, rfl, rfl⟩

variable {entry : VaultEntry} {e : VaultGrantedEntry} {scaled : Nat}

private theorem dated_append
    (dated : ∀ e ∈ entries v, ∀ text, timeOf e = some text → ∃ t : TimeValue, text = String.ofList t.text)
    (last : ∀ text, timeOf entry = some text → ∃ t : TimeValue, text = String.ofList t.text) :
    ∀ e ∈ entries v ++ [entry], ∀ text, timeOf e = some text → ∃ t : TimeValue, text = String.ofList t.text := by
  intro e member
  rcases List.mem_append.mp member with earlier | here
  · exact dated e earlier
  · rw [List.mem_singleton.mp here]
    exact last

theorem total_addToTotals (bucket other : Bucket) (scaled : Int) :
    total (addToTotals v bucket scaled) other = total v other + (if bucket = other then scaled else 0) := by
  rw [total, addToTotals, lookup_insert]
  by_cases same : other = bucket
  · subst same
    simp
  · simp [same, Ne.symm same, total]

/-! ### What each call leaves -/

section
variable (read : Read sha256 v)
include read

theorem Read.grant {t : TimeValue} (at_ : e.at_ = String.ofList t.text) (usable : scaleAmount e.amount = .ok scaled)
    (free : (grantState e.intentId (entries v)).standing = none) : Read sha256 (granting v sha256 e scaled) := by
  have es : entries (granting v sha256 e scaled) = entries v ++ [.granted e] := entries_append _
  obtain ⟨b, accounts, totals⟩ := read.totals
  refine ⟨numbered_append _ read.numbered, intact_append _ read.intact, ?_, ?_, ?_, ?_, ?_⟩
  · rw [es]
    refine dated_append read.dated fun text time => ⟨t, ?_⟩
    cases time
    exact at_
  · rw [es]
    refine ⟨_, accounts.grant ⟨scaled, usable⟩ free, fun bucket => ?_⟩
    have unused : b.lookup e.intentId = none := by rw [accounts.stands, free, Option.map_none]
    change total (addToTotals (append v sha256 (.granted e)) _ _) bucket = _
    rw [total_addToTotals, held_charge bucket _ unused, Spend.weight, VaultGrantedEntry.spend, amount_spendOf usable]
    exact congrArg (· + _) (totals bucket)
  · intro id
    rw [es, grantState_append, VaultEntry.intentId]
    change (v.grants.insert e.intentId e).lookup id = _
    rw [lookup_insert]
    by_cases same : id = e.intentId
    · rw [if_pos same, if_pos same.symm]
      rfl
    · rw [if_neg same, if_neg (Ne.symm same)]
      exact read.granted id
  · intro id
    rw [es, grantState_append, VaultEntry.intentId]
    change id ∈ v.releasedIntents.erase e.intentId ↔ _
    by_cases same : id = e.intentId
    · rw [if_pos same.symm]
      simp [same, GrantState.see]
    · rw [if_neg (Ne.symm same), ← read.released id]
      simp [same]
  · have records : (granting v sha256 e scaled).records = v.records ++ [_] := rfl
    rw [records, anchoredIn_snoc]
    exact read.marked

theorem Read.release {reason : String} (usable : scaleAmount e.amount = .ok scaled)
    (stands : (grantState e.intentId (entries v)).standing = some e) : Read sha256 (releasing v sha256 e reason scaled) := by
  have es : entries (releasing v sha256 e reason scaled) = entries v ++ [.released (e.release reason)] :=
    entries_append _
  obtain ⟨b, accounts, totals⟩ := read.totals
  refine ⟨numbered_append _ read.numbered, intact_append _ read.intact, ?_, ?_, ?_, ?_, ?_⟩
  · rw [es]
    refine dated_append read.dated fun text time => ?_
    have granted := grantState_granted (GrantState.standing_eq_some.mp stands).2
    exact read.dated _ granted.1 text time
  · rw [es]
    refine ⟨_, accounts.release reason stands, fun bucket => ?_⟩
    have standing : b.lookup e.intentId = some (e.spend sliceToT) := by rw [accounts.stands, stands, Option.map_some]
    change total (addToTotals (append v sha256 (.released (e.release reason))) _ _) bucket = _
    rw [total_addToTotals, held_refund bucket standing, Spend.weight, VaultGrantedEntry.spend, amount_spendOf usable]
    have before := totals bucket
    change total v bucket + _ = _
    rw [before, spendOf]
    dsimp only
    split_ifs
    · omega
    · omega
  · intro id
    rw [es, grantState_append]
    change v.grants.lookup id = _
    rw [read.granted id]
    split_ifs
    · rfl
    · rfl
  · intro id
    rw [es, grantState_append, VaultEntry.intentId, VaultGrantedEntry.release]
    change id ∈ insert e.intentId v.releasedIntents ↔ _
    by_cases same : id = e.intentId
    · rw [if_pos same.symm]
      simp [same, GrantState.see]
    · rw [if_neg (Ne.symm same), ← read.released id]
      simp [same]
  · have records : (releasing v sha256 e reason scaled).records = v.records ++ [_] := rfl
    rw [records, anchoredIn_snoc]
    exact read.marked

private theorem Read.silent {anchored : Finset String} (silent : timeOf entry = none)
    (notSpend : entry.posting sliceToT = none)
    (same : ∀ state : GrantState, (state.see entry).granted = state.granted ∧ (state.see entry).released = state.released)
    (marked : anchoredIn (append v sha256 entry).records ⊆ anchored) :
    Read sha256 { append v sha256 entry with anchoredIntents := anchored } := by
  have es : entries { append v sha256 entry with anchoredIntents := anchored } = entries v ++ [entry] :=
    entries_append entry
  obtain ⟨b, accounts, totals⟩ := read.totals
  refine ⟨numbered_append _ read.numbered, intact_append _ read.intact, ?_, ?_, ?_, ?_, marked⟩
  · rw [es]
    refine dated_append read.dated fun text time => ?_
    rw [silent] at time
    cases time
  · rw [es]
    exact ⟨b, accounts.note notSpend, totals⟩
  · intro id
    rw [es, grantState_append]
    split_ifs
    · rw [(same _).1]
      exact read.granted id
    · exact read.granted id
  · intro id
    rw [es, grantState_append]
    split_ifs
    · rw [(same _).2]
      exact read.released id
    · exact read.released id

theorem Read.refusal (e : VaultRefusedEntry) : Read sha256 (append v sha256 (.refused e)) := by
  refine read.silent rfl rfl (fun state => ⟨rfl, rfl⟩) ?_
  have records : (append v sha256 (.refused e)).records = v.records ++ [_] := rfl
  rw [records, anchoredIn_snoc]
  exact read.marked

theorem Read.anchor (e : VaultAnchoredEntry) :
    Read sha256 (append { v with anchoredIntents := insert e.intentId v.anchoredIntents } sha256 (.anchored e)) := by
  refine read.silent rfl rfl (fun state => ⟨rfl, rfl⟩) ?_
  have records : (append v sha256 (.anchored e)).records = v.records ++ [_] := rfl
  rw [records, anchoredIn_snoc]
  exact Finset.insert_subset_insert _ read.marked

theorem Read.mark (id : String) : Read sha256 { v with anchoredIntents := insert id v.anchoredIntents } :=
  ⟨read.numbered, read.intact, read.dated, read.totals, read.granted, read.released,
    read.marked.trans (Finset.subset_insert _ _)⟩

end

end

end AgentPey.VaultParity
