import AgentPey.LocalPolicyRail
import AgentPey.VaultEntries
import Mathlib.Data.Finset.Basic

/-!
The vault on a file of JSON lines: `createFileMandateVault` in `packages/vault/src/vault.ts`.
An instance holds the chain and what it has read off it; no function of it awaits. The file
has one line for each record, and is given here as the records that its lines parse to.
-/
namespace AgentPey.FileVault
open AgentPass Amounts Dates LocalPolicyRail Store VaultEntries

/-- What an instance holds. Its `records` are the file, line by line; the nested map of
    totals has one key for each path. -/
structure FileMandateVault where
  records : List VaultRecord
  totals : Keyed Bucket Int
  grants : Keyed String VaultGrantedEntry
  releasedIntents : Finset String
  anchoredIntents : Finset String

variable (v : FileMandateVault)

def total (bucket : Bucket) : Int := (v.totals.lookup bucket).getD 0

def addToTotals (bucket : Bucket) (scaled : Int) : FileMandateVault :=
  { v with totals := v.totals.insert bucket (total v bucket + scaled) }

/-! ### Opening a file -/

/-- What the constructor does with a line. -/
def load (record : VaultRecord) : Result FileMandateVault :=
  let v := { v with records := v.records ++ [record] }
  match record.entry with
  | .granted e => do
    let v := { v with grants := v.grants.insert e.intentId e }
    let scaled ← scaleAmount e.amount
    pure (addToTotals v ⟨e.subject, e.currency, sliceToT e.at_⟩ scaled)
  | .released e => do
    let v := { v with releasedIntents := insert e.intentId v.releasedIntents }
    let scaled ← scaleAmount e.amount
    pure (addToTotals v ⟨e.subject, e.currency, sliceToT e.at_⟩ (-scaled))
  | .anchored e => pure { v with anchoredIntents := insert e.intentId v.anchoredIntents }
  | .refused _ => pure v

def createFileMandateVault (file : List VaultRecord) : Result FileMandateVault := file.foldlM load ⟨[], ∅, ∅, ∅, ∅⟩

/-! ### The functions of an instance -/

/-- The date is read only where the subject has some total in the currency. -/
def spentOn (subject currency : String) (at_ : Date) : Result String :=
  if v.totals.keys.any fun bucket => bucket.subject = subject && bucket.currency = currency then do
    let day ← utcDayKey at_
    pure (unscaleAmount (total v ⟨subject, currency, day⟩))
  else
    pure (unscaleAmount 0)

def hasRecorded (intentId : String) : Bool := (v.grants.lookup intentId).isSome && intentId ∉ v.releasedIntents

section
variable (sha256 : String → String)

def append (entry : VaultEntry) : FileMandateVault :=
  let seq := v.records.length
  let prevHash := (v.records.getLast?.map VaultRecord.hash).getD ""
  { v with records := v.records ++ [⟨seq, prevHash, computeHash sha256 seq prevHash entry, entry⟩] }

/-- A call's result, and what it leaves behind also when it throws. -/
def record (entry : SpendLedgerEntry) : Result PUnit × FileMandateVault :=
  if hasRecorded v entry.intentId then (.ok ⟨⟩, v)
  else match scaleAmount entry.amount with
  | .error e => (.error e, v)
  | .ok scaled => match toISOString entry.at_ with
    | .error e => (.error e, v)
    | .ok iso =>
      let granted : VaultGrantedEntry := ⟨entry.subject, entry.intentId, entry.currency, entry.amount, iso⟩
      let appended := append v sha256 (.granted granted)
      match utcDayKey entry.at_ with
      | .error e => (.error e, appended)
      | .ok day =>
        let added := addToTotals appended ⟨entry.subject, entry.currency, day⟩ scaled
        (.ok ⟨⟩, { added with
          grants := added.grants.insert entry.intentId granted
          releasedIntents := added.releasedIntents.erase entry.intentId })

def release (input : ReleaseSpendInput) : Result PUnit × FileMandateVault :=
  if input.intentId ∈ v.releasedIntents then (.ok ⟨⟩, v)
  else match v.grants.lookup input.intentId with
  | none => (.error (spendNotRecorded "no granted spend to release for that intent" input.intentId), v)
  | some granted =>
    if input.intentId ∈ v.anchoredIntents then (.error (spendAlreadySettled input.intentId), v)
    else
      let appended := append v sha256 (.released (granted.release input.reason))
      match scaleAmount granted.amount with
      | .error e => (.error e, appended)
      | .ok scaled =>
        let added := addToTotals appended ⟨granted.subject, granted.currency, sliceToT granted.at_⟩ (-scaled)
        (.ok ⟨⟩, { added with releasedIntents := insert input.intentId added.releasedIntents })

def recordRefusal (input : RecordRefusalInput) (at_ : Date) : Result PUnit × FileMandateVault :=
  match toISOString at_ with
  | .error e => (.error e, v)
  | .ok iso =>
    (.ok ⟨⟩, append v sha256
      (.refused ⟨input.subject, input.intentId, input.code, input.reason, input.details, iso⟩))

/-- The intent is marked before its time is read. -/
def recordAnchor (input : RecordAnchorInput) (at_ : Date) : Result PUnit × FileMandateVault :=
  let marked := { v with anchoredIntents := insert input.intentId v.anchoredIntents }
  match toISOString at_ with
  | .error e => (.error e, marked)
  | .ok iso =>
    (.ok ⟨⟩, append marked sha256
      (.anchored ⟨input.subject, input.intentId, input.paymentTx, input.linkHash, input.anchorTx, iso⟩))

end

/-! ### Sequences of operations -/

/-- The operations that write, each with its time: the given one, or what the clock reads. -/
inductive Operation where
  | record (entry : SpendLedgerEntry)
  | release (input : ReleaseSpendInput)
  | recordRefusal (input : RecordRefusalInput) (at_ : Date)
  | recordAnchor (input : RecordAnchorInput) (at_ : Date)

def perform (sha256 : String → String) : Operation → Result PUnit × FileMandateVault
  | .record entry => record v sha256 entry
  | .release input => release v sha256 input
  | .recordRefusal input at_ => recordRefusal v sha256 input at_
  | .recordAnchor input at_ => recordAnchor v sha256 input at_

/-- The instance after a sequence of operations, whether or not some of them threw. -/
def run (sha256 : String → String) (operations : List Operation) : FileMandateVault :=
  operations.foldl (fun v operation => (perform v sha256 operation).2) v

end AgentPey.FileVault
