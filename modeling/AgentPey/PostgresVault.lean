import AgentPey.LocalPolicyRail
import AgentPey.Transactions
import AgentPey.VaultEntries
import Mathlib.Data.List.Sort

/-!
The Postgres vault: `packages/vault/src/postgres-vault.ts`. One table holds the
records of every tenant; the statements are modelled one by one, and a section is
the program between `begin` and `commit`. An instance's own list of records is left
out, since no statement reads it.
-/
namespace AgentPey.PostgresVault
open AgentPass Amounts Dates LocalPolicyRail PurchaseChecks Transactions VaultEntries

structure VaultRow where
  tenant_id : String
  seq : Nat
  prev_hash : String
  hash : String
  entry : VaultEntry

/-- The hex digest of the runtime, and the database's `hashtext`. -/
structure Host where
  sha256 : String → String
  hashtext : String → Int

/-- The table's primary key, and the advisory lock of each tenant. Two tenants may
    share a lock. -/
def schema (host : Host) : Schema VaultRow String Int Thrown where
  tenant := VaultRow.tenant_id
  lock := host.hashtext
  clash r r' := r.tenant_id == r'.tenant_id && r.seq == r'.seq
  violation := .DatabaseError "duplicate key value violates unique constraint \"vault_records_pkey\""
  clash_tenant clashes := by
    rw [Bool.and_eq_true, beq_iff_eq] at clashes
    exact clashes.1

/-- `where tenant_id = $1`. -/
def ofTenant (tenantId : String) (rows : List VaultRow) : List VaultRow := rows.filter fun r => r.tenant_id = tenantId

/-- `order by seq asc`. -/
def orderBySeq (rows : List VaultRow) : List VaultRow := rows.insertionSort fun r r' => r.seq ≤ r'.seq

/-- `order by seq desc limit 1`. -/
def lastBySeq (rows : List VaultRow) : Option VaultRow := (rows.insertionSort fun r r' => r'.seq ≤ r.seq).head?

/-- `left(text, 10)`. -/
def leftTen (text : String) : String := String.ofList (text.toList.take 10)

/-! ### Statements -/

section
variable {ω : Type}

/-- `entry->>'kind' in ('granted', 'released')` with the subject, the currency and the day. -/
def countsFor (subject currency day : String) : VaultEntry → Bool
  | .granted e => e.subject = subject && e.currency = currency && leftTen e.at_ = day
  | .released e => e.subject = subject && e.currency = currency && leftTen e.at_ = day
  | .refused _ => false
  | .anchored _ => false

def addEntry (total : Int) : VaultEntry → Result Int
  | .granted e => do
    let scaled ← scaleAmount e.amount
    pure (total + scaled)
  | .released e => do
    let scaled ← scaleAmount e.amount
    pure (total - scaled)
  | .refused _ => pure total
  | .anchored _ => pure total

def spentOnVia (tenantId subject currency : String) (at_ : Date) : Txn VaultRow ω Thrown String := do
  let day ← liftM (utcDayKey at_)
  Txn.query fun rows => do
    let entries := ((ofTenant tenantId rows).map VaultRow.entry).filter (countsFor subject currency day)
    let total ← entries.foldlM addEntry 0
    pure (unscaleAmount total)

/-- `entry->>'kind' in ('granted', 'released', 'anchored')` with the intent. -/
def concerns (intentId : String) : VaultEntry → Bool
  | .refused _ => false
  | e => e.intentId = intentId

def grantStateVia (tenantId intentId : String) : Txn VaultRow ω Thrown GrantState :=
  Txn.query fun rows =>
    let entries := ((orderBySeq (ofTenant tenantId rows)).map VaultRow.entry).filter (concerns intentId)
    pure (entries.foldl GrantState.see .fresh)

def hasRecordedVia (tenantId intentId : String) : Txn VaultRow ω Thrown Bool := do
  let state ← grantStateVia tenantId intentId
  pure (state.granted.isSome && !state.released)

end

variable (host : Host)

def nextRow (tenantId : String) (tail : Option VaultRow) (entry : VaultEntry) : VaultRow :=
  let seq := match tail with
    | some row => row.seq + 1
    | none => 0
  let prevHash := match tail with
    | some row => row.hash
    | none => ""
  ⟨tenantId, seq, prevHash, computeHash host.sha256 seq prevHash entry, entry⟩

def appendVia (tenantId : String) (entry : VaultEntry) : Txn VaultRow VaultRow Thrown PUnit := do
  let tail ← Txn.query fun rows => pure (lastBySeq (ofTenant tenantId rows))
  .insert (nextRow host tenantId tail entry) (.done ⟨⟩)

def recordVia (tenantId : String) (entry : SpendLedgerEntry) : Txn VaultRow VaultRow Thrown PUnit := do
  if ← hasRecordedVia tenantId entry.intentId then
    pure ⟨⟩
  else
    let _ ← liftM (scaleAmount entry.amount)
    let iso ← liftM (toISOString entry.at_)
    appendVia host tenantId (.granted ⟨entry.subject, entry.intentId, entry.currency, entry.amount, iso⟩)

/-- What `releaseVia` appends, or why it throws; nothing for an intent already released. -/
def releasedEntry (state : GrantState) (input : ReleaseSpendInput) : Result (Option VaultEntry) :=
  if state.released then .ok none
  else match state.granted with
  | none => .error (spendNotRecorded "no granted spend to release for that intent" input.intentId)
  | some granted =>
    if state.anchored then .error (spendAlreadySettled input.intentId)
    else .ok (some (.released (granted.release input.reason)))

def releaseVia (tenantId : String) (input : ReleaseSpendInput) : Txn VaultRow VaultRow Thrown PUnit := do
  let state ← grantStateVia tenantId input.intentId
  match ← liftM (releasedEntry state input) with
  | none => pure ⟨⟩
  | some entry => appendVia host tenantId entry

/-- The ledger outside any section: each call is a statement on the committed rows. -/
def reader {ω : Type} (tenantId : String) : Reader (Txn VaultRow ω Thrown) where
  spentOn := spentOnVia tenantId
  hasRecorded := hasRecordedVia tenantId

/-- The ledger that `atomically` hands to its work. -/
def lockedLedger (tenantId : String) : LockedSpendLedger (Txn VaultRow VaultRow Thrown) where
  toReader := reader tenantId
  record := recordVia host tenantId
  release := releaseVia host tenantId

/-! ### Calls of the rail and the vault -/

/-- The calls on one tenant's vault: the rail's three, and the vault's two other
    appends. A call carries what its clock reads when its work starts. -/
inductive Call where
  | authorise (tenantId : String) (request : AuthorisationRequest) (at_ : Date)
  | preview (tenantId : String) (request : AuthorisationRequest) (at_ : Date)
  | release (tenantId : String) (input : ReleaseSpendInput)
  | recordRefusal (tenantId : String) (input : RecordRefusalInput) (at_ : Date)
  | recordAnchor (tenantId : String) (input : RecordAnchorInput) (at_ : Date)

inductive Reply where
  | decision (d : AuthorisationDecision)
  | nothing

def recordRefusal (tenantId : String) (input : RecordRefusalInput) (at_ : Date) :
    Txn VaultRow VaultRow Thrown PUnit := do
  let iso ← liftM (toISOString at_)
  appendVia host tenantId
    (.refused ⟨input.subject, input.intentId, input.code, input.reason, input.details, iso⟩)

def recordAnchor (tenantId : String) (input : RecordAnchorInput) (at_ : Date) :
    Txn VaultRow VaultRow Thrown PUnit := do
  let iso ← liftM (toISOString at_)
  appendVia host tenantId
    (.anchored ⟨input.subject, input.intentId, input.paymentTx, input.linkHash, input.anchorTx, iso⟩)

/-- Every writer holds its tenant's lock for its whole section; a preview holds none. -/
def body (strKey : StrKey) : Call → Body VaultRow String Thrown Reply
  | .authorise tenantId request at_ => .locked tenantId do
    let decision ← authorise strKey (lockedLedger host tenantId) request at_
    pure (.decision decision)
  | .preview tenantId request at_ => .reads do
    let decision ← decide strKey (reader tenantId) request at_
    pure (.decision decision)
  | .release tenantId input => .locked tenantId do
    releaseVia host tenantId input
    pure .nothing
  | .recordRefusal tenantId input at_ => .locked tenantId do
    recordRefusal host tenantId input at_
    pure .nothing
  | .recordAnchor tenantId input at_ => .locked tenantId do
    recordAnchor host tenantId input at_
    pure .nothing

end AgentPey.PostgresVault
