import AgentPey.TemporaryStorage
import AgentPey.Tokens
import AgentPey.Traces

/-!
The policy rail: `contracts/policy-rail/src/lib.rs`, a contract account that
authorises its owner's transfers of one asset within two limits. `__check_auth`
is its authorisation hook; `withdraw` and `set_owner` belong to its principal.
The counter of a day is a temporary entry, which the network may evict; the
lifetime of the instance entry has no effect on what the calls compute and is
left out.
-/
namespace AgentPey.PolicyRail
open Soroban Store Tokens

def LEDGERS_PER_DAY : Nat := 17280
def SPEND_ENTRY_TTL_THRESHOLD : Nat := LEDGERS_PER_DAY / 2
def SPEND_ENTRY_TTL_EXTEND_TO : Nat := 2 * LEDGERS_PER_DAY
def SECONDS_PER_DAY : UInt64 := 86400
def TRANSFER_FN : String := "transfer"

inductive Error where
  | NotInitialized
  | UnknownSigner
  | AlreadyExpired
  | InvalidLimit
  | Expired
  | UnexpectedInvocation
  | PerTxExceeded
  | PerDayExceeded
  | InvalidWithdrawAmount
  deriving DecidableEq, Repr

structure Signature where
  public_key : BytesN 32
  signature : BytesN 64
  deriving DecidableEq

structure Config where
  owner : BytesN 32
  principal : Address
  asset : Address
  per_tx : Int
  per_day : Int
  valid_until : UInt64
  deriving DecidableEq

/-- An argument of a call: an address, an `i128`, or anything that is neither. -/
inductive Val where
  | address (a : Address)
  | i128 (n : { n : Int // InI128 n })
  | other (raw : Bytes)
  deriving DecidableEq

def Val.toAddress : Val → Option Address
  | .address a => some a
  | _ => none

def Val.toI128 : Val → Option Int
  | .i128 n => some n.1
  | _ => none

structure ContractContext where
  contract : Address
  fn_name : String
  args : List Val
  deriving DecidableEq

/-- What the host asks an account to authorise: a call, or the creation of a contract. -/
inductive Context where
  | Contract (call : ContractContext)
  | CreateContractHostFn (raw : Bytes)
  | CreateContractWithCtorHostFn (raw : Bytes)
  deriving DecidableEq

def Context.toContract : Context → Option ContractContext
  | .Contract call => some call
  | _ => none

def only {α : Type} : List α → Option α
  | [a] => some a
  | _ => none

/-- What the rail is deployed on: its asset, the host's signature check, and the
    lifetime the network gives a new temporary entry. -/
structure Host where
  token : Token Address
  ed25519_verify : BytesN 32 → Bytes → BytesN 64 → Bool
  min_temp_entry_ttl : Nat

/-- The ledger an invocation runs in, and who has authorised it. -/
structure Env where
  timestamp : UInt64
  sequence : Nat
  authorised : Address → Bool

structure World (host : Host) where
  id : BytesN 32
  config : Option Config
  spent : TemporaryStorage.Temporary UInt64 Int
  token : host.token.State

variable {host : Host}

def World.current_contract_address (w : World host) : Address := .contract w.id

def Env.day (env : Env) : UInt64 := env.timestamp / SECONDS_PER_DAY

/-- `__constructor`. -/
def construct (env : Env) (id : BytesN 32) (token : host.token.State) (owner : BytesN 32) (principal asset : Address)
    (per_tx per_day : Int) (valid_until : UInt64) : Outcome Error (World host) := do
  failIf (per_tx ≤ 0 ∨ per_day ≤ 0) (.error .InvalidLimit)
  failIf (valid_until ≤ env.timestamp) (.error .AlreadyExpired)
  let config : Config := ⟨owner, principal, asset, per_tx, per_day, valid_until⟩
  pure ⟨id, some config, ∅, token⟩

def Deployed (w : World host) : Prop :=
  ∃ env id token owner principal asset per_tx per_day valid_until,
    construct env id token owner principal asset per_tx per_day valid_until = .ok w

def load (w : World host) : Outcome Error Config := okOr w.config (.error .NotInitialized)

def spent_on (w : World host) (env : Env) (day : UInt64) : Int :=
  (TemporaryStorage.get w.spent env.sequence day).getD 0

def require_auth (env : Env) (a : Address) : Outcome Error PUnit :=
  failIf (env.authorised a = false) (.trap .unauthorized)

def withdraw (env : Env) (w : World host) (dst : Address) (amount : Int) : Outcome Error (World host) := do
  let config ← load w
  require_auth env config.principal
  failIf (amount ≤ 0) (.error .InvalidWithdrawAmount)
  let token ← okOr (host.token.transfer w.token w.current_contract_address dst amount) (.trap .callFailed)
  pure { w with token }

def set_owner (env : Env) (w : World host) (new_owner : BytesN 32) : Outcome Error (World host) := do
  let config ← load w
  require_auth env config.principal
  pure { w with config := some { config with owner := new_owner } }

/-- The one signature has to be the owner's: another key is refused, and a wrong
    signature aborts. -/
def check_signature (host : Host) (config : Config) (signature_payload : Bytes) (signatures : List Signature) :
    Outcome Error PUnit := do
  let sig ← okOr (only signatures) (.error .UnknownSigner)
  failIf (sig.public_key ≠ config.owner) (.error .UnknownSigner)
  failIf (host.ed25519_verify sig.public_key signature_payload sig.signature = false) (.trap .badSignature)

/-- The amount of the one call that may be authorised: a transfer of the rail's asset
    from the rail. -/
def check_invocation (w : World host) (config : Config) (auth_contexts : List Context) : Outcome Error Int := do
  let context ← okOr (only auth_contexts) (.error .UnexpectedInvocation)
  let call ← okOr context.toContract (.error .UnexpectedInvocation)
  failIf (call.contract ≠ config.asset ∨ call.fn_name ≠ TRANSFER_FN ∨ call.args.length ≠ 3)
    (.error .UnexpectedInvocation)
  let payer ← okOr (call.args[0]? >>= Val.toAddress) (.error .UnexpectedInvocation)
  failIf (payer ≠ w.current_contract_address) (.error .UnexpectedInvocation)
  let amount ← okOr (call.args[2]? >>= Val.toI128) (.error .UnexpectedInvocation)
  failIf (amount ≤ 0) (.error .UnexpectedInvocation)
  pure amount

/-- `__check_auth`. -/
def check_auth (env : Env) (w : World host) (signature_payload : Bytes) (signatures : List Signature)
    (auth_contexts : List Context) : Outcome Error (World host) := do
  let config ← load w
  failIf (config.valid_until < env.timestamp) (.error .Expired)
  check_signature host config signature_payload signatures
  let amount ← check_invocation w config auth_contexts
  failIf (config.per_tx < amount) (.error .PerTxExceeded)
  let day := env.day
  let spent_before := spent_on w env day
  let spent_after ← okOr (checked_add spent_before amount) (.error .PerDayExceeded)
  failIf (config.per_day < spent_after) (.error .PerDayExceeded)
  let spent := TemporaryStorage.set host.min_temp_entry_ttl w.spent env.sequence day spent_after
  pure
    { w with
      spent := TemporaryStorage.extend_ttl spent env.sequence day SPEND_ENTRY_TTL_THRESHOLD SPEND_ENTRY_TTL_EXTEND_TO }

/-! ### Runs -/

inductive Call where
  | check_auth (signature_payload : Bytes) (signatures : List Signature) (auth_contexts : List Context)
  | withdraw (dst : Address) (amount : Int)
  | set_owner (new_owner : BytesN 32)
  deriving DecidableEq

def invoke (env : Env) (call : Call) (w : World host) : Outcome Error (World host) :=
  match call with
  | .check_auth signature_payload signatures auth_contexts =>
    check_auth env w signature_payload signatures auth_contexts
  | .withdraw dst amount => withdraw env w dst amount
  | .set_owner new_owner => set_owner env w new_owner

/-- What a run keeps of an authorisation the rail has given. -/
structure Grant where
  env : Env
  signature_payload : Bytes
  signatures : List Signature
  auth_contexts : List Context

def granted (env : Env) : Call → List Grant
  | .check_auth signature_payload signatures auth_contexts => [⟨env, signature_payload, signatures, auth_contexts⟩]
  | .withdraw _ _ => []
  | .set_owner _ => []

/-- A call in its ledger, or anything that happens to the asset: the transfers that
    were authorised, payments into the rail, and others. -/
inductive Action (host : Host) where
  | call (env : Env) (call : Call)
  | external (token : host.token.State)

def step (w : World host) : Action host → World host × List Grant
  | .call env call =>
    match invoke env call w with
    | .ok after => (after, granted env call)
    | .error _ => (w, [])
  | .external token => ({ w with token := token }, [])

/-- The world a run leads to, and the authorisations the rail gave, in order. -/
def run (w : World host) (actions : List (Action host)) : World host × List Grant :=
  Traces.exec step w actions

/-! ### A rail to run -/

def sampleRailId : BytesN 32 := ⟨List.replicate 32 1, rfl⟩
def sampleOwner : BytesN 32 := ⟨List.replicate 32 2, rfl⟩
def sampleAsset : Address := .contract ⟨List.replicate 32 3, rfl⟩
def samplePrincipal : Address := .account ⟨List.replicate 32 4, rfl⟩

def sampleFunds : Ledger Address where
  balance a := if a = .contract sampleRailId then 500 else 0
  receives _ := true
  nonneg a := by
    split_ifs <;> decide
  fits a := by
    split_ifs <;> decide

/-- A network with the given lifetime of temporary entries, whose check accepts the
    signatures that start with their key. -/
def sampleHost (min_temp_entry_ttl : Nat) : Host where
  token := ledgerToken Address
  ed25519_verify key _ sig := decide (sig.1.take 32 = key.1)
  min_temp_entry_ttl := min_temp_entry_ttl

variable {ttl : Nat}

def sampleRail (ttl : Nat) : World (sampleHost ttl) :=
  ⟨sampleRailId, some ⟨sampleOwner, samplePrincipal, sampleAsset, 60, 100, 1000000⟩, ∅, sampleFunds⟩

def sampleEnv (timestamp : UInt64) (sequence : Nat) : Env := ⟨timestamp, sequence, fun _ => true⟩

theorem sampleRail_deployed : Deployed (sampleRail ttl) :=
  ⟨sampleEnv 0 0, sampleRailId, sampleFunds, sampleOwner, samplePrincipal, sampleAsset, 60, 100, 1000000, rfl⟩

/-- A payment of `n`, signed by the sample owner, five seconds for each ledger. -/
def samplePayment (sequence : Nat) (n : { n : Int // InI128 n }) : Action (sampleHost ttl) :=
  .call (sampleEnv (5 * .ofNat sequence) sequence)
    (.check_auth [] [⟨sampleOwner, ⟨List.replicate 64 2, rfl⟩⟩]
      [.Contract ⟨sampleAsset, TRANSFER_FN, [.address (.contract sampleRailId), .address samplePrincipal, .i128 n]⟩])

end AgentPey.PolicyRail
