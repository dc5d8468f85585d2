import AgentPey.Soroban
import AgentPey.Store
import AgentPey.Traces

/-!
The agent registry: `contracts/agent-registry/src/lib.rs`, entry point by entry
point. It keeps the issuers its admin trusts, and for the hash of a credential
who anchored it, until when it is valid and whether it was revoked. Storage rent
has no effect on what the calls compute and is left out.
-/
namespace AgentPey.AgentRegistry
open Soroban Store

inductive Error where
  | NotInitialized
  | IssuerNotRegistered
  | IssuerInactive
  | CredentialAlreadyAnchored
  | CredentialUnknown
  | NotCredentialIssuer
  deriving DecidableEq, Repr

structure IssuerRecord where
  active : Bool
  meta_hash : BytesN 32
  deriving DecidableEq

structure CredRecord where
  issuer : Address
  subject : Address
  issued_at : UInt64
  expires_at : UInt64
  revoked : Bool
  deriving DecidableEq

inductive CredStatus where
  | Unknown
  | Active
  | Revoked
  | Expired
  deriving DecidableEq, Repr

inductive Event where
  | Anchored (issuer subject : Address) (cred_hash : BytesN 32) (expires_at : UInt64)
  | Revoked (issuer : Address) (cred_hash : BytesN 32)
  | IssuerRegistered (issuer : Address) (meta_hash : BytesN 32)
  | IssuerDeactivated (issuer : Address)
  deriving DecidableEq

/-- The ledger an invocation runs in: its time, and who has authorised it. -/
structure Env where
  timestamp : UInt64
  authorised : Address → Bool

/-- The contract's storage, and what the current invocation has published. -/
structure World where
  admin : Option Address
  issuers : Keyed Address IssuerRecord
  creds : Keyed (BytesN 32) CredRecord
  events : List Event

/-- `__constructor`. -/
def construct (admin : Address) : World := ⟨some admin, ∅, ∅, []⟩

def require_auth (env : Env) (a : Address) : Outcome Error PUnit :=
  failIf (env.authorised a = false) (.trap .unauthorized)

def get_admin (w : World) : Outcome Error Address := okOr w.admin (.error .NotInitialized)

def require_admin (env : Env) (w : World) : Outcome Error PUnit := do
  let admin ← get_admin w
  require_auth env admin

def publish (w : World) (event : Event) : World := { w with events := w.events ++ [event] }

def set_issuer (w : World) (issuer : Address) (record : IssuerRecord) : World :=
  { w with issuers := w.issuers.insert issuer record }

def set_cred (w : World) (cred_hash : BytesN 32) (record : CredRecord) : World :=
  { w with creds := w.creds.insert cred_hash record }

def register_issuer (env : Env) (w : World) (issuer : Address) (meta_hash : BytesN 32) : Outcome Error World := do
  require_admin env w
  let w := set_issuer w issuer ⟨true, meta_hash⟩
  pure (publish w (.IssuerRegistered issuer meta_hash))

def get_issuer (w : World) (issuer : Address) : Option IssuerRecord := w.issuers.lookup issuer

def deactivate_issuer (env : Env) (w : World) (issuer : Address) : Outcome Error World := do
  require_admin env w
  let record ← okOr (get_issuer w issuer) (.error .IssuerNotRegistered)
  let w := set_issuer w issuer { record with active := false }
  pure (publish w (.IssuerDeactivated issuer))

def get_credential (w : World) (cred_hash : BytesN 32) : Option CredRecord := w.creds.lookup cred_hash

/-- A credential as `anchor` records it: `expires_at` is not compared with the time. -/
def anchored (env : Env) (issuer subject : Address) (expires_at : UInt64) : CredRecord where
  issuer := issuer
  subject := subject
  issued_at := env.timestamp
  expires_at := expires_at
  revoked := false

def anchor (env : Env) (w : World) (issuer : Address) (cred_hash : BytesN 32) (subject : Address)
    (expires_at : UInt64) : Outcome Error World := do
  require_auth env issuer
  let record ← okOr (get_issuer w issuer) (.error .IssuerNotRegistered)
  failIf (record.active = false) (.error .IssuerInactive)
  failIf ((get_credential w cred_hash).isSome) (.error .CredentialAlreadyAnchored)
  let w := set_cred w cred_hash (anchored env issuer subject expires_at)
  pure (publish w (.Anchored issuer subject cred_hash expires_at))

/-- `revoke`: revoking twice is no error and publishes nothing the second time. -/
def revoke (env : Env) (w : World) (issuer : Address) (cred_hash : BytesN 32) : Outcome Error World := do
  require_auth env issuer
  let record ← okOr (get_credential w cred_hash) (.error .CredentialUnknown)
  failIf (record.issuer ≠ issuer) (.error .NotCredentialIssuer)
  if record.revoked then pure w
  else
    let w := set_cred w cred_hash { record with revoked := true }
    pure (publish w (.Revoked issuer cred_hash))

/-- Revocation outranks expiry, and at `expires_at` itself a credential is still active. -/
def status (now : UInt64) (w : World) (cred_hash : BytesN 32) : CredStatus :=
  match get_credential w cred_hash with
  | none => .Unknown
  | some record =>
    if record.revoked then .Revoked
    else if record.expires_at < now then .Expired
    else .Active

/-! ### Runs -/

/-- The entry points that change the contract's state. -/
inductive Call where
  | register_issuer (issuer : Address) (meta_hash : BytesN 32)
  | deactivate_issuer (issuer : Address)
  | anchor (issuer : Address) (cred_hash : BytesN 32) (subject : Address) (expires_at : UInt64)
  | revoke (issuer : Address) (cred_hash : BytesN 32)
  deriving DecidableEq

def invoke (env : Env) (call : Call) (before : World) : Outcome Error World :=
  let w := { before with events := [] }
  match call with
  | .register_issuer issuer meta_hash => register_issuer env w issuer meta_hash
  | .deactivate_issuer issuer => deactivate_issuer env w issuer
  | .anchor issuer cred_hash subject expires_at => anchor env w issuer cred_hash subject expires_at
  | .revoke issuer cred_hash => revoke env w issuer cred_hash

/-- A call by anybody. -/
structure Action where
  env : Env
  call : Call

/-- The host rolls a failed call back. The trace holds the successful ones. -/
def step (w : World) (action : Action) : World × List Action :=
  match invoke action.env action.call w with
  | .ok after => (after, [action])
  | .error _ => (w, [])

def run (w : World) (actions : List Action) : World × List Action := Traces.exec step w actions

/-! ### What one call does -/

/-- What a call that succeeds leaves of the stored issuers and credentials. -/
inductive Effect (env : Env) (w : World) : Call → World → Prop
  | register {issuer : Address} {meta_hash : BytesN 32} {admin : Address} {events : List Event}
      (isAdmin : w.admin = some admin) (authorised : env.authorised admin = true) :
      Effect env w (.register_issuer issuer meta_hash)
        { w with issuers := w.issuers.insert issuer ⟨true, meta_hash⟩, events := events }
  | deactivate {issuer : Address} {record : IssuerRecord} {admin : Address} {events : List Event}
      (isAdmin : w.admin = some admin) (authorised : env.authorised admin = true)
      (registered : get_issuer w issuer = some record) :
      Effect env w (.deactivate_issuer issuer)
        { w with issuers := w.issuers.insert issuer { record with active := false }, events := events }
  | anchor {issuer subject : Address} {cred_hash : BytesN 32} {expires_at : UInt64} {record : IssuerRecord}
      {events : List Event} (authorised : env.authorised issuer = true)
      (registered : get_issuer w issuer = some record) (active : record.active = true)
      (free : get_credential w cred_hash = none) :
      Effect env w (.anchor issuer cred_hash subject expires_at)
        { w with creds := w.creds.insert cred_hash (anchored env issuer subject expires_at), events := events }
  | revoke {issuer : Address} {cred_hash : BytesN 32} {record : CredRecord} {events : List Event}
      (authorised : env.authorised issuer = true) (found : get_credential w cred_hash = some record)
      (own : record.issuer = issuer) (standing : record.revoked = false) :
      Effect env w (.revoke issuer cred_hash)
        { w with creds := w.creds.insert cred_hash { record with revoked := true }, events := events }
  | again {issuer : Address} {cred_hash : BytesN 32} {record : CredRecord} {events : List Event}
      (authorised : env.authorised issuer = true) (found : get_credential w cred_hash = some record)
      (own : record.issuer = issuer) (already : record.revoked = true) :
      Effect env w (.revoke issuer cred_hash) { w with events := events }

variable {env : Env} {u : PUnit}

@[simp] theorem require_auth_eq_ok {a : Address} : require_auth env a = .ok u ↔ env.authorised a = true := by
  simp [require_auth]

@[simp] theorem require_admin_eq_ok {w : World} :
    require_admin env w = .ok u ↔ ∃ admin, w.admin = some admin ∧ env.authorised admin = true := by
  simp [require_admin, get_admin]

section
variable {env : Env} {w w' : World}

variable {issuer : Address} {cred_hash : BytesN 32}

theorem register_effect {meta_hash : BytesN 32} (ran : register_issuer env { w with events := [] } issuer meta_hash = .ok w') :
    Effect env w (.register_issuer issuer meta_hash) w' := by
  simp only [register_issuer, bind_eq_ok, require_admin_eq_ok] at ran
  obtain ⟨_, ⟨admin, isAdmin, authorised⟩, made⟩ := ran
  cases made
  exact .register isAdmin authorised

theorem deactivate_effect (ran : deactivate_issuer env { w with events := [] } issuer = .ok w') :
    Effect env w (.deactivate_issuer issuer) w' := by
  simp only [deactivate_issuer, bind_eq_ok, require_admin_eq_ok, okOr_eq_ok] at ran
  obtain ⟨_, ⟨admin, isAdmin, authorised⟩, record, registered, made⟩ := ran
  cases made
  exact .deactivate isAdmin authorised registered

theorem anchor_effect {subject : Address} {expires_at : UInt64}
    (ran : anchor env { w with events := [] } issuer cred_hash subject expires_at = .ok w') :
    Effect env w (.anchor issuer cred_hash subject expires_at) w' := by
  simp only [anchor, bind_eq_ok, require_auth_eq_ok, okOr_eq_ok, failIf_eq_ok] at ran
  obtain ⟨_, authorised, record, registered, _, active, _, free, made⟩ := ran
  cases made
  exact .anchor authorised registered (by simpa using active) (Option.not_isSome_iff_eq_none.mp free)

theorem revoke_effect (ran : revoke env { w with events := [] } issuer cred_hash = .ok w') :
    Effect env w (.revoke issuer cred_hash) w' := by
  simp only [revoke, bind_eq_ok, require_auth_eq_ok, okOr_eq_ok, failIf_eq_ok, not_not] at ran
  obtain ⟨_, authorised, record, found, _, own, made⟩ := ran
  by_cases already : record.revoked = true
  · rw [if_pos already] at made
    cases made
    exact .again authorised found own already
  · rw [if_neg already] at made
    cases made
    exact .revoke authorised found own (by simpa using already)

theorem invoke_cases {call : Call} (ran : invoke env call w = .ok w') : Effect env w call w' := by
  cases call with
  | register_issuer issuer meta_hash => exact register_effect ran
  | deactivate_issuer issuer => exact deactivate_effect ran
  | anchor issuer cred_hash subject expires_at => exact anchor_effect ran
  | revoke issuer cred_hash => exact revoke_effect ran

end

theorem step_cases (w : World) (action : Action) :
    (Effect action.env w action.call (step w action).1 ∧ (step w action).2 = [action] ∧
        invoke action.env action.call w = .ok (step w action).1) ∨
      ((step w action).1 = w ∧ (step w action).2 = [] ∧
        ∃ failure, invoke action.env action.call w = .error failure) := by
  unfold step
  cases ran : invoke action.env action.call w with
  | ok after => exact .inl ⟨invoke_cases ran, rfl, rfl⟩
  | error failure => exact .inr ⟨rfl, rfl, failure, rfl⟩

/-! ### Runs to try -/

def sampleAccount (n : UInt8) : Address := .account (filled n)
def sampleHash : BytesN 32 := filled 7

def signedBy (account : Address) (timestamp : UInt64) : Env := ⟨timestamp, fun a => decide (a = account)⟩

end AgentPey.AgentRegistry
