import AgentPey.AgentPass
import AgentPey.RegistryHistories
import AgentPey.Routines

/-!
Writes to the agent registry that a wallet signs (`sdk/registry.ts`): a call is simulated and stored under a request id,
and later sent as the wallet has signed it. The store is taken from once. What is sent is the signed transaction, whatever
it holds; the stored call is only simulated again. Beside them are the wallet challenges and the ledger.
-/
namespace AgentPey.RegistryWrites
open Soroban AgentRegistry RegistryHistories AgentPass
open Routines (Routine)

/-! ### The ledger -/

/-- A signed transaction: its hash, the call of the registry that it makes, if any, and who has signed. -/
structure Envelope where
  hash : String
  call : Option Call
  signers : Address → Bool

/-- The registry with its admin, and the calls that changed the chain so far under the hashes of their transactions. -/
structure Ledger where
  admin : Address
  time : UInt64
  landed : List (String × Action)

def worldOf (admin : Address) (landed : List (String × Action)) : World := (run (construct admin) (landed.map Prod.snd)).1

def Ledger.world (ledger : Ledger) : World := worldOf ledger.admin ledger.landed

def Ledger.action (ledger : Ledger) (envelope : Envelope) (call : Call) : Action :=
  ⟨⟨ledger.time, envelope.signers⟩, call⟩

/-- A transaction that succeeds; `none` when the registry refuses its call. -/
def Ledger.submit (ledger : Ledger) (envelope : Envelope) : Option Ledger :=
  match envelope.call with
  | none => some ledger
  | some call =>
    match invoke (ledger.action envelope call).env call ledger.world with
    | .ok _ => some { ledger with landed := ledger.landed ++ [(envelope.hash, ledger.action envelope call)] }
    | .error _ => none

/-- This transaction revoked the hash: it was its issuer's, who signed, and stood until then. -/
def Ledger.RevokedBy (ledger : Ledger) (tx : String) (principal : Address) (hash : BytesN 32) : Prop :=
  ∃ before env after r, ledger.landed = before ++ (tx, ⟨env, .revoke principal hash⟩) :: after ∧
    env.authorised principal = true ∧ get_credential (worldOf ledger.admin before) hash = some r ∧ r.issuer = principal ∧
    r.revoked = false

/-- This transaction anchored the hash, and its issuer signed. -/
def Ledger.AnchoredBy (ledger : Ledger) (tx : String) (principal : Address) (hash : BytesN 32) : Prop :=
  ∃ before env subject expiresAt after,
    ledger.landed = before ++ (tx, ⟨env, .anchor principal hash subject expiresAt⟩) :: after ∧
    env.authorised principal = true ∧ get_credential (worldOf ledger.admin before) hash = none

def Ledger.revoked (ledger : Ledger) (hash : BytesN 32) : Bool := (get_credential ledger.world hash).any CredRecord.revoked

def Ledger.Extends (ledger later : Ledger) : Prop := later.admin = ledger.admin ∧ ledger.landed <+: later.landed

theorem Ledger.Extends.refl (ledger : Ledger) : ledger.Extends ledger := ⟨rfl, List.prefix_refl _⟩

section
variable {ledger later : Ledger} {envelope : Envelope} {tx : String} {principal : Address} {hash : BytesN 32}

theorem worldOf_snoc (admin : Address) (landed : List (String × Action)) (tx : String) (action : Action) :
    worldOf admin (landed ++ [(tx, action)]) = (step (worldOf admin landed) action).1 := by
  rw [worldOf, List.map_append]
  exact run_snoc _ _ _

theorem submit_some (sent : ledger.submit envelope = some later) : (envelope.call = none ∧ later = ledger) ∨
      ∃ call w', envelope.call = some call ∧ invoke (ledger.action envelope call).env call ledger.world = .ok w' ∧
        later = { ledger with landed := ledger.landed ++ [(envelope.hash, ledger.action envelope call)] } ∧
        later.world = w' := by
  unfold Ledger.submit at sent
  cases made : envelope.call with
  | none =>
    simp only [made] at sent
    cases sent
    exact .inl ⟨rfl, rfl⟩
  | some call =>
    simp only [made] at sent
    split at sent
    · rename_i w' ran
      cases sent
      refine .inr ⟨call, w', rfl, ran, rfl, ?_⟩
      rw [Ledger.world, worldOf_snoc, step, show invoke (ledger.action envelope call).env (ledger.action envelope call).call
        (worldOf ledger.admin ledger.landed) = .ok w' from ran]
    · cases sent

theorem submit_extends (sent : ledger.submit envelope = some later) : ledger.Extends later := by
  rcases submit_some sent with ⟨_, rfl⟩ | ⟨call, w', _, _, rfl, _⟩
  · exact .refl later
  · exact ⟨rfl, List.prefix_append _ _⟩

theorem Ledger.RevokedBy.extends (revoked : ledger.RevokedBy tx principal hash) (more : ledger.Extends later) :
    later.RevokedBy tx principal hash := by
  obtain ⟨before, env, after, r, landed, rest⟩ := revoked
  obtain ⟨same, added, more⟩ := more
  refine ⟨before, env, after ++ added, r, ?_, same ▸ rest⟩
  rw [← more, landed]
  simp

theorem Ledger.AnchoredBy.extends (anchored : ledger.AnchoredBy tx principal hash) (more : ledger.Extends later) :
    later.AnchoredBy tx principal hash := by
  obtain ⟨before, env, subject, expiresAt, after, landed, rest⟩ := anchored
  obtain ⟨same, added, more⟩ := more
  refine ⟨before, env, subject, expiresAt, after ++ added, ?_, same ▸ rest⟩
  rw [← more, landed]
  simp

theorem Ledger.RevokedBy.status (revoked : ledger.RevokedBy tx principal hash) (now : UInt64) :
    status now ledger.world hash = .Revoked := by
  obtain ⟨before, env, after, r, landed, signed, found, rfl, _⟩ := revoked
  obtain ⟨w', ran⟩ := revoke_runs found signed
  have then_ : (step (worldOf ledger.admin before) ⟨env, .revoke r.issuer hash⟩).1 = w' := by
    simp [step, ran]
  obtain ⟨r', found', _, revoked⟩ := revoke_revokes ran
  have split : ledger.world = (run w' (after.map Prod.snd)).1 := by
    rw [Ledger.world, worldOf, landed, List.map_append, List.map_cons, List.append_cons, run_append, run_snoc]
    exact congrArg (fun w => (run w _).1) then_
  obtain ⟨r'', found'', continues⟩ := run_continues (after.map Prod.snd) found'
  rw [split]
  exact status_revoked found'' (continues.revoked revoked) now

theorem submit_revokes (sent : ledger.submit envelope = some later) (call : envelope.call = some (.revoke principal hash))
    (standing : ledger.revoked hash = false) : later.RevokedBy envelope.hash principal hash := by
  rcases submit_some sent with ⟨none_, _⟩ | ⟨made, w', same, ran, rfl, _⟩
  · rw [call] at none_
    cases none_
  · rw [call] at same
    cases same
    have effect := invoke_cases ran
    generalize revoking : Call.revoke principal hash = call at effect
    cases effect with
    | register | deactivate | anchor => cases revoking
    | @revoke issuer other record events authorised found own stands =>
      cases revoking
      exact ⟨ledger.landed, _, [], record, rfl, authorised, found, own, stands⟩
    | @again issuer other record events authorised found own already =>
      cases revoking
      simp [Ledger.revoked, found, already] at standing

/-- A transaction that anchors a hash is the one that anchored it. -/
theorem submit_anchors {subject : Address} {expiresAt : UInt64} (sent : ledger.submit envelope = some later)
    (call : envelope.call = some (.anchor principal hash subject expiresAt)) :
    later.AnchoredBy envelope.hash principal hash := by
  rcases submit_some sent with ⟨none_, _⟩ | ⟨made, w', same, ran, rfl, _⟩
  · rw [call] at none_
    cases none_
  · rw [call] at same
    cases same
    have effect := invoke_cases ran
    generalize anchoring : Call.anchor principal hash subject expiresAt = call at effect
    cases effect with
    | register | deactivate | revoke | again => cases anchoring
    | anchor authorised registered active free =>
      cases anchoring
      exact ⟨ledger.landed, _, subject, expiresAt, [], rfl, authorised, free⟩

end

/-! ### Pending writes -/

inductive PendingWrite where
  | anchor (issuerAddress : String) (credentialHash : BytesN 32) (subject : String) (expiresAt : Int)
  | revoke (issuerAddress : String) (credentialHash : BytesN 32)
  deriving DecidableEq

/-- The registry's contract. Taken from outside: the verification of a wallet's signature, and the Stellar SDK's reading of
    a transaction and the unsigned ones it builds. -/
structure Wallets where
  contractId : String
  verifyStellarMessage : String → String → String → Bool
  decode : String → Option Envelope
  toXdr : PendingWrite → String

def PENDING_WRITE_TTL_MS : Int := 10 * 60000
def WALLET_CHALLENGE_TTL_MS : Int := 5 * 60000

/-- The database's challenges and pending writes, each with the time it expires at, and the ledger. -/
structure Writes where
  now : Int
  ledger : Ledger
  challenges : List (String × Int)
  pending : List (String × PendingWrite × Int)
  requestsDrawn : Nat

inductive WriteOp where
  | takeChallenge (nonce : String)
  | simulate (write : PendingWrite)
  | save (requestId : String) (write : PendingWrite) (expiresAt : Int)
  | take (requestId : String)
  | signAndSend (signedTxXdr : String)

abbrev WriteOp.Answer : WriteOp → Type
  | .takeChallenge _ => Bool
  | .simulate _ => String
  | .save .. => PUnit
  | .take _ => Option PendingWrite
  | .signAndSend _ => String

/-- What may go wrong with an answer: it may be lost, before or after the write it answers. -/
structure Trouble where
  failure : Option Thrown
  lands : Bool

def fine : Trouble := ⟨none, true⟩

section
variable {σ α : Type}

def answerRead (trouble : Trouble) (value : α) (s : σ) : Result α × σ :=
  match trouble.failure with
  | some e => (.error e, s)
  | none => (.ok value, s)

def answerWrite (trouble : Trouble) (value : α) (written : σ) (s : σ) : Result α × σ :=
  match trouble.failure with
  | some e => (.error e, if trouble.lands then written else s)
  | none => (.ok value, written)

variable {trouble : Trouble} {answer : Result α}

variable {value : α} {s s' : σ}

theorem answerRead_eq (answered : answerRead trouble value s = (answer, s'))
    : s' = s ∧ ∀ given, answer = .ok given → given = value := by
  unfold answerRead at answered
  split at answered <;> cases answered
  · exact ⟨rfl, fun _ impossible => by cases impossible⟩
  · exact ⟨rfl, fun _ same => by cases same; rfl⟩

theorem answerWrite_eq {written : σ} (answered : answerWrite trouble value written s = (answer, s')) :
    (s' = written ∨ s' = s) ∧ ∀ given, answer = .ok given → given = value ∧ s' = written := by
  unfold answerWrite at answered
  split at answered
  · cases answered
    by_cases lands : trouble.lands
    · exact ⟨.inl (if_pos lands), fun _ impossible => by cases impossible⟩
    · exact ⟨.inr (if_neg lands), fun _ impossible => by cases impossible⟩
  · cases answered
    exact ⟨.inl rfl, fun _ same => by cases same; exact ⟨rfl, rfl⟩⟩

theorem answerWrite_cases {written : σ} (answered : answerWrite trouble value written s = (answer, s')) :
    (s' = written ∧ ∀ given, answer = .ok given → given = value) ∨ (s' = s ∧ ∃ e, answer = .error e) := by
  obtain ⟨made | not_made, given⟩ := answerWrite_eq answered
  · exact .inl ⟨made, fun a ok => (given a ok).1⟩
  · cases answer with
    | error e => exact .inr ⟨not_made, e, rfl⟩
    | ok a =>
      obtain ⟨same, made⟩ := given a rfl
      exact .inl ⟨made, by rintro _ ⟨⟩; exact same⟩

end

variable (wallets : Wallets)

/-- A call is built and simulated by the SDK whatever the registry would answer to it. -/
def serveWrite : (o : WriteOp) → Trouble → Writes → Result o.Answer × Writes
  | .takeChallenge nonce, trouble, s =>
    answerWrite trouble (s.challenges.any fun row => row.1 = nonce ∧ s.now < row.2)
      { s with challenges := s.challenges.filter fun row => ¬(row.1 = nonce ∧ s.now < row.2) } s
  | .simulate write, trouble, s => answerRead trouble (wallets.toXdr write) s
  | .save requestId write expiresAt, trouble, s =>
    answerWrite trouble ⟨⟩ { s with pending := s.pending ++ [(requestId, write, expiresAt)] } s
  | .take requestId, trouble, s =>
    answerWrite trouble ((s.pending.find? fun row => row.1 = requestId ∧ s.now < row.2.2).map fun row => row.2.1)
      { s with pending := s.pending.filter fun row => ¬(row.1 = requestId ∧ s.now < row.2.2) } s
  | .signAndSend signedTxXdr, trouble, s =>
    match wallets.decode signedTxXdr with
    | none => (.error (.RangeError "XDR Read Error"), s)
    | some envelope =>
      match s.ledger.submit envelope with
      | none => (.error (.RangeError "transaction failed"), s)
      | some ledger => answerWrite trouble envelope.hash { s with ledger := ledger } s

variable {trouble : Trouble}

variable {o : WriteOp} {s s' : Writes} {answer : Result o.Answer}

theorem serveWrite_cases (served : serveWrite wallets o trouble s = (answer, s')) :
    s'.ledger = s.ledger ∨ ∃ signedXdr envelope, o = .signAndSend signedXdr ∧ wallets.decode signedXdr = some envelope ∧
      s.ledger.submit envelope = some s'.ledger := by
  cases o with
  | takeChallenge nonce =>
    rcases (answerWrite_eq served).1 with rfl | rfl <;> exact .inl rfl
  | simulate write =>
    obtain ⟨rfl, _⟩ := answerRead_eq served
    exact .inl rfl
  | save requestId write expiresAt =>
    rcases (answerWrite_eq served).1 with rfl | rfl <;> exact .inl rfl
  | take requestId =>
    rcases (answerWrite_eq served).1 with rfl | rfl <;> exact .inl rfl
  | signAndSend signedXdr =>
    rw [serveWrite] at served
    split at served
    · cases served
      exact .inl rfl
    · rename_i envelope decoded
      split at served
      · cases served
        exact .inl rfl
      · rename_i ledger sent
        rcases (answerWrite_eq served).1 with rfl | rfl
        · exact .inr ⟨signedXdr, envelope, rfl, decoded, sent⟩
        · exact .inl rfl

theorem serveWrite_extends (served : serveWrite wallets o trouble s = (answer, s')) : s.ledger.Extends s'.ledger := by
  rcases serveWrite_cases wallets served with same | ⟨_, _, _, _, sent⟩
  · exact same ▸ .refl _
  · exact submit_extends sent

theorem send_ok {signedXdr : String} {hash : String}
    (served : serveWrite wallets (.signAndSend signedXdr) trouble s = (.ok hash, s')) :
    ∃ envelope, wallets.decode signedXdr = some envelope ∧ hash = envelope.hash ∧
      s.ledger.submit envelope = some s'.ledger := by
  rw [serveWrite] at served
  split at served
  · cases served
  · rename_i envelope decoded
    split at served
    · cases served
    · rename_i ledger sent
      obtain ⟨rfl, rfl⟩ := (answerWrite_eq served).2 hash rfl
      exact ⟨envelope, decoded, rfl, sent⟩

section
variable {σ ω : Type} {ρ : ω → Type}

def stashForSigning (ask : (o : WriteOp) → Routine σ ω Thrown ρ o.Answer) (newRequestId : Routine σ ω Thrown ρ String)
    (now : Routine σ ω Thrown ρ Int) (write : PendingWrite) : Routine σ ω Thrown ρ (String × String) := do
  let xdr : String ← ask (.simulate write)
  let requestId ← newRequestId
  let savedAt ← now
  let _ ← ask (.save requestId write (savedAt + PENDING_WRITE_TTL_MS))
  pure (requestId, xdr)

def noPendingTransaction (requestId : String) : Thrown :=
  .AgentPassError "ConfigError" "no pending transaction for this requestId — it may have expired"
    [("requestId", .string requestId)]

def rejected (requestId : String) : Thrown :=
  .AgentPassError "NetworkError" "the wallet-signed transaction was rejected by the network"
    [("requestId", .string requestId), ("contractId", .string wallets.contractId)]

/-- `submitSigned`: the stored call is simulated again, and the signed transaction sent. -/
def submitSigned (ask : (o : WriteOp) → Routine σ ω Thrown ρ o.Answer) (requestId signedTxXdr : String) :
    Routine σ ω Thrown ρ String := do
  let write : Option PendingWrite ← ask (.take requestId)
  match write with
  | none => .throws (noPendingTransaction requestId)
  | some write =>
    let _ ← ask (.simulate write)
    let sent ← (ask (.signAndSend signedTxXdr)).attempt
    match sent with
    | .ok hash => pure hash
    | .error _ => .throws (rejected wallets requestId)

end

end AgentPey.RegistryWrites
