import AgentPey.PostgresLimits
import AgentPey.VaultParity

/-!
Several instances of the Postgres vault at once: `packages/vault/src/postgres-vault.ts`.
An instance reads its tenant's records when it is created; from then on its own list, which
is what `verify` recomputes, grows with what the instance itself inserts. The table stays
intact in every interleaving; an instance's list does as long as each of its inserts comes
where the list and the table end alike.
-/
namespace AgentPey.VaultInstances
open AgentPass Amounts Dates LocalPolicyRail Transactions VaultEntries PostgresVault PostgresSections PostgresLimits
open HashChains
open Store (Keyed lookup_insert lookup_erase)
open VaultParity (asRecord)

/-! ### Calls on an instance -/

/-- The work that `atomically` is handed: calls of the locked ledger, one after the other, and
    what it does on the answer or the exception of each. -/
inductive Work (α : Type) where
  | returns (a : α)
  | throws (e : Thrown)
  | spentOn (subject currency : String) (at_ : Date) (rest : Result String → Work α)
  | hasRecorded (intentId : String) (rest : Result Bool → Work α)
  | record (entry : SpendLedgerEntry) (rest : Result PUnit → Work α)
  | release (input : ReleaseSpendInput) (rest : Result PUnit → Work α)

/-- The calls, each with its time: the given one, or what the clock reads. -/
inductive Operation (α : Type) where
  | spentOn (subject currency : String) (at_ : Date)
  | atomically (work : Work α)
  | record (entry : SpendLedgerEntry)
  | hasRecorded (intentId : String)
  | release (input : ReleaseSpendInput)
  | recordRefusal (input : RecordRefusalInput) (at_ : Date)
  | recordAnchor (input : RecordAnchorInput) (at_ : Date)

inductive Reply (α : Type) where
  | nothing
  | amount (text : String)
  | recorded (b : Bool)
  | result (a : α)

/-- A call on the instance with the given number. -/
structure Call (α : Type) where
  vault : Nat
  tenantId : String
  operation : Operation α

section
variable {α : Type} (host : Host)

def Work.program (tenantId : String) : Work α → Txn VaultRow VaultRow Thrown α
  | .returns a => .done a
  | .throws e => .fail e
  | .spentOn subject currency at_ rest =>
    (spentOnVia tenantId subject currency at_).attempt >>= fun r => (rest r).program tenantId
  | .hasRecorded intentId rest => (hasRecordedVia tenantId intentId).attempt >>= fun r => (rest r).program tenantId
  | .record entry rest => (recordVia host tenantId entry).attempt >>= fun r => (rest r).program tenantId
  | .release input rest => (releaseVia host tenantId input).attempt >>= fun r => (rest r).program tenantId

/-- Every writer opens a section under its tenant's lock; the two reads are statements on the pool. -/
def body (call : Call α) : Body VaultRow String Thrown (Reply α) :=
  match call.operation with
  | .spentOn subject currency at_ => .reads do
    let text ← spentOnVia call.tenantId subject currency at_
    pure (.amount text)
  | .atomically work => .locked call.tenantId do
    let a ← work.program host call.tenantId
    pure (.result a)
  | .record entry => .locked call.tenantId do
    recordVia host call.tenantId entry
    pure .nothing
  | .hasRecorded intentId => .reads do
    let b ← hasRecordedVia call.tenantId intentId
    pure (.recorded b)
  | .release input => .locked call.tenantId do
    releaseVia host call.tenantId input
    pure .nothing
  | .recordRefusal input at_ => .locked call.tenantId do
    recordRefusal host call.tenantId input at_
    pure .nothing
  | .recordAnchor input at_ => .locked call.tenantId do
    recordAnchor host call.tenantId input at_
    pure .nothing

end

/-! ### Instances over one table -/

/-- A live instance: its tenant, and its own list of records. -/
structure MandateVault where
  tenantId : String
  records : List VaultRecord

/-- The table with its sessions, and the live instances. -/
structure World (α : Type) where
  system : System VaultRow String Thrown (Reply α) (Call α)
  vaults : Keyed Nat MandateVault

inductive Action (α : Type) where
  | create (vault : Nat) (tenantId : String)
  | start (id vault : Nat) (operation : Operation α)
  | statement (id : Nat)
  | finish (id : Nat)
  | abort (id : Nat)

section
variable {α : Type} (host : Host) (w : World α)

/-- `records.push(record)`, once the insert has returned. -/
def push (vaults : Keyed Nat MandateVault) (vault : Nat) (row : VaultRow) : Keyed Nat MandateVault :=
  match vaults.lookup vault with
  | some v => vaults.insert vault { v with records := v.records ++ [asRecord row] }
  | none => vaults

/-- What a session's next statement inserts, and for which instance. -/
def inserted (id : Nat) : Option (Nat × VaultRow) :=
  match w.system.sessions.lookup id with
  | some (.opened call _ (.insert row _) pending) =>
    if (w.system.committed ++ pending).any ((schema host).clash row) then none else some (call.vault, row)
  | _ => none

/-- The instances after a session's next statement. -/
def pushed (id : Nat) : Keyed Nat MandateVault :=
  match inserted host w id with
  | some (vault, row) => push w.vaults vault row
  | none => w.vaults

/-- What an instance reads when it is created. -/
def load (tenantId : String) (rows : List VaultRow) : List VaultRecord :=
  (orderBySeq (ofTenant tenantId rows)).map asRecord

def inTable (action : Transactions.Action (Call α)) (vaults : Keyed Nat MandateVault) :
    World α × List (Event Thrown (Reply α) (Call α)) :=
  let next := Transactions.step (schema host) (body host) w.system action
  (⟨next.1, vaults⟩, next.2)

/-- An abort may come at any point: the caller's work threw, the connection was lost, or the commit failed. -/
def step : Action α → World α × List (Event Thrown (Reply α) (Call α))
  | .create vault tenantId =>
    match w.vaults.lookup vault with
    | some _ => (w, [])
    | none => ({ w with vaults := w.vaults.insert vault ⟨tenantId, load tenantId w.system.committed⟩ }, [])
  | .start id vault operation =>
    match w.vaults.lookup vault with
    | some v => inTable host w (.start id ⟨vault, v.tenantId, operation⟩) w.vaults
    | none => (w, [])
  | .statement id => inTable host w (.statement id) (pushed host w id)
  | .finish id => inTable host w (.finish id) w.vaults
  | .abort id => inTable host w (.abort id) w.vaults

/-- The world after a list of actions on an empty table. -/
def run (actions : List (Action α)) : World α := (Traces.exec (step host) ⟨⟨[], ∅⟩, ∅⟩ actions).1

/-- `verify()` reports no tampering on any live instance. -/
def Verified : Prop := ∀ vault v, w.vaults.lookup vault = some v → verify host.sha256 v.records = .ok

def endOf (records : List VaultRecord) : String := lastHash (recordChain host.sha256) "" records

/-- A statement that inserts comes where the own list of its instance ends like the table that it sees. -/
def InStep : Action α → Prop
  | .statement id => ∀ call tenantId row rest pending v,
      w.system.sessions.lookup id = some (.opened call tenantId (.insert row rest) pending) →
      w.vaults.lookup call.vault = some v →
      endOf host v.records = endOf host ((ofTenant tenantId (w.system.committed ++ pending)).map asRecord)
  | _ => True

end

end AgentPey.VaultInstances
