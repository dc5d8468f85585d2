import AgentPey.Disciplines
import AgentPey.HostedConsent

/-!
What each hosted-consent request may do, step by step: a start stores what it built of the invitation it read; a consent
signs the mandate it read; an anchoring records the mandate it read, under the transaction it sent, for the principal of
that mandate's wallet, and completes its own invitation with it.
-/
namespace AgentPey.ConsentSteps
open Soroban AgentPass PurchaseChecks MandateAnchor RegistryWrites HostedConsent Disciplines
open Routines (Routine)

/-- What a request has read, sent and recorded. -/
structure Mode where
  sessionId : String
  session : Option ConsentSession
  read : Option PendingConsent
  sent : Option String
  principal : Option Principal
  recorded : Option MandateRecord

def Request.mode (request : Request) : Mode where
  sessionId := request.consentSessionId
  session := none
  read := none
  sent := none
  principal := none
  recorded := none

variable (deps : Deps)

/-- A mandate built of an invitation, for a wallet: its grant, until its end. -/
structure Built (grant : MandateGrant) (validUntil : Dates.TimeValue) (payload : PendingConsent) : Prop where
  grant : payload.mandate.credentialSubject.grant = grant
  validUntil : Dates.toISOString (some validUntil) = .ok payload.mandate.validUntil
  principal : stellarAddressToDid deps payload.walletAddress = .ok payload.mandate.issuer

/-- A mandate that its own issuer's key has signed. -/
def Verified (mandate : WalletMandate) (signature : String) : Prop :=
  ∃ address, didToStellarAddress deps.keys mandate.issuer = .ok address ∧
    deps.wallets.verifyStellarMessage address (mandateChallengeMessage deps mandate) signature = true

/-- The chain and what is stored of the invitations are left alone. -/
structure Same (s s' : Consents) : Prop where
  ledger : s'.ledger = s.ledger
  sessions : s'.sessions = s.sessions
  pendingConsents : s'.pendingConsents = s.pendingConsents
  principals : s'.principals = s.principals
  mandates : s'.mandates = s.mandates

/-- A row of a mandate that was read, for a principal of its wallet, under what was sent. -/
def Records (m : Mode) (input : RecordMandateInput) : Prop :=
  ∃ payload principal transactionHash agentId, m.read = some payload ∧ payload.signature.isSome ∧
    m.principal = some principal ∧ principal.address = payload.walletAddress ∧ m.sent = some transactionHash ∧
    input = mandateInput deps payload agentId principal.id transactionHash

def May (m : Mode) : Op → Prop
  | .findConsentSession id => id = m.sessionId
  | .setPending id payload _ => id = m.sessionId ∧ payload.signature = none ∧
      ∃ session, m.session = some session ∧ Built deps session.grant session.validUntil payload
  | .getPending id => id = m.sessionId
  | .updatePending id signature _ => id = m.sessionId ∧ ∃ payload, m.read = some payload ∧ Verified deps payload.mandate signature
  | .write (.signAndSend _) => m.read.isSome
  | .recordMandate _ input through => through = m.sessionId ∧ Records deps m input
  | .completeConsentSession id mandateId => id = m.sessionId ∧ ∃ row, m.recorded = some row ∧ row.id = mandateId
  | _ => True

def Known : (o : Op) → Result o.Answer → Prop
  | .findConsentSession id, .ok (some session) => session.id = id
  | .upsertPrincipal _ address _, .ok principal => principal.address = address
  | _, _ => True

def after (m : Mode) : (o : Op) → Result o.Answer → Mode
  | .findConsentSession _, .ok (some session) => { m with session := some session }
  | .getPending _, .ok (some payload) => { m with read := some payload, sent := none, principal := none, recorded := none }
  | .write (.signAndSend _), .ok hash => { m with sent := some hash }
  | .upsertPrincipal .., .ok principal => { m with principal := some principal }
  | .recordMandate .., .ok row => { m with recorded := some row }
  | _, _ => m

def steps : Discipline Consents Op Thrown Op.Answer Mode where
  sync m s s' m' := Same s s' ∧ m' = m
  ask m o m' := May deps m o ∧ m' = m
  expects := Known
  answer := after

section
variable {deps} {α : Type} {m : Mode}

theorem same_refl (s : Consents) : Same s s := ⟨rfl, rfl, rfl, rfl, rfl⟩

variable {o : Op} {at_ : Int} {grant : MandateGrant} {signature : String} {pending : PendingConsent}

theorem stays_ask (may : May deps m o) (same : ∀ answer, after m o answer = m) : Stays (steps deps) m (ask o) fun _ => True :=
  ⟨m, ⟨may, rfl⟩, fun answer _ => follows_ofExcept ⟨same answer, trivial⟩⟩

theorem ask_then {f : o.Answer → Work α} (may : May deps m o)
    (goes_on : ∀ answer, Known o (.ok answer) → Obeys (steps deps) (after m o (.ok answer)) (f answer)) :
    Obeys (steps deps) m (ask o >>= f) := by
  refine ⟨m, ⟨may, rfl⟩, fun answer known => ?_⟩
  cases answer with
  | error e => trivial
  | ok answer => exact goes_on answer known

theorem stays_now : Stays (steps deps) m now fun _ => True := fun s => ⟨m, ⟨same_refl s, rfl⟩, rfl, trivial⟩

theorem stays_newId : Stays (steps deps) m (newId deps) fun _ => True :=
  fun _ => ⟨m, ⟨⟨rfl, rfl, rfl, rfl, rfl⟩, rfl⟩, rfl, trivial⟩

theorem stays_newRequestId : Stays (steps deps) m (newRequestId deps) fun _ => True :=
  fun _ => ⟨m, ⟨⟨rfl, rfl, rfl, rfl, rfl⟩, rfl⟩, rfl, trivial⟩

theorem stays_lift (x : Result α) : Stays (steps deps) m (liftM x : Work α) fun result => result = x :=
  follows_lift ⟨rfl, rfl⟩

theorem obeys_caught {work : Work Reply} (obeys : Obeys (steps deps) m work) : Obeys (steps deps) m (caught work) := by
  apply Obeys.anyhow (Follows.attempt obeys)
  intro m result
  cases result <;> trivial

theorem stays_ensureTenantAgent (tenantId : String) :
    Stays (steps deps) m (ensureTenantAgent deps tenantId) fun _ => True := by
  apply (stays_ask (o := .listAgents tenantId) trivial fun _ => rfl).seq (fun existing _ => ?_) fun _ _ => trivial
  cases existing with
  | cons record _ => exact ⟨rfl, trivial⟩
  | nil =>
    apply stays_newId.seq (fun id _ => ?_) fun _ _ => trivial
    apply Stays.seq (R := fun _ => True) _ (fun created _ => ?_) fun _ _ => trivial
    · exact Follows.attempt ((stays_ask (o := .createAgent id tenantId) trivial fun _ => rfl).imp fun _ _ ends => ends)
    · cases created with
      | ok agent => exact ⟨rfl, trivial⟩
      | error raceError =>
        apply (stays_ask (o := .listAgents tenantId) trivial fun _ => rfl).seq (fun afterRace _ => ?_) fun _ _ => trivial
        cases afterRace <;> exact ⟨rfl, trivial⟩

theorem stays_ensureWalletIsRegisteredIssuer (walletAddress : String) :
    Stays (steps deps) m (ensureWalletIsRegisteredIssuer walletAddress) fun _ => True := by
  apply (stays_ask (o := .issuerStatus walletAddress) trivial fun _ => rfl).seq (fun existing _ => ?_) fun _ _ => trivial
  split
  · exact ⟨rfl, trivial⟩
  · exact stays_ask trivial fun _ => rfl

variable {id : String}

theorem usableSession_ok {row : Option ConsentSession} {session : ConsentSession}
    (ok : usableSession id row at_ = .ok session) : row = some session := by
  cases row with
  | none => cases ok
  | some stored =>
    rw [usableSession] at ok
    split at ok
    · cases ok
    · split at ok
      · cases ok
      · cases ok
        rfl

theorem mandateGrantParse_ok {parsed : MandateGrant} (ok : mandateGrantParse deps grant = .ok parsed) : parsed = grant := by
  unfold mandateGrantParse at ok
  split at ok
  · cases ok
  · cases ok
    rfl

/-- The mandate of a session's documents: for the wallet's own DID, with the grant as it is, until the given end. -/
theorem buildSessionDocuments_ok {agentAddress walletAddress : String} {descriptor : AgentDescriptor} {startedAt : Int}
    {validUntil : Dates.TimeValue} {mandateId : String} {documents : AgentPassCredential × WalletMandate}
    (ok : buildSessionDocuments deps agentAddress walletAddress descriptor grant startedAt validUntil mandateId =
      .ok documents) :
    documents.2.credentialSubject.grant = grant ∧ Dates.toISOString (some validUntil) = .ok documents.2.validUntil ∧
      stellarAddressToDid deps walletAddress = .ok documents.2.issuer := by
  simp only [buildSessionDocuments, AgentPass.bind_eq_ok] at ok
  obtain ⟨issuerDid, _, agentDid, _, principal, wallet, validFrom, _, untilText, ends, mandate, made, ok⟩ := ok
  cases ok
  unfold createMandate at made
  split at made
  · cases made
  · cases made
    exact ⟨rfl, ends, wallet⟩

theorem obeys_startSession (own : id = m.sessionId) : Obeys (steps deps) m (startSession deps id) := by
  apply (stays_ask (o := .getWalletAddress id) trivial fun _ => rfl).then_
  intro stored _
  apply (stays_lift _).then_
  intro walletAddress _
  apply ask_then (o := .findConsentSession id) own
  intro row _
  obtain ⟨m', named, has, asked⟩ : ∃ m', m'.sessionId = m.sessionId ∧
      (∀ session, row = some session → m'.session = some session) ∧ after m (.findConsentSession id) (.ok row) = m' := by
    cases row with
    | none => exact ⟨m, rfl, (by rintro _ ⟨⟩), rfl⟩
    | some session => exact ⟨{ m with session := some session }, rfl, (by rintro _ ⟨⟩; rfl), rfl⟩
  rw [asked]
  apply stays_now.then_
  intro startedAt _
  apply (stays_lift _).then_
  intro session usable
  have has := has session (usableSession_ok usable.symm)
  apply (stays_ask (o := .findTenant _) trivial fun _ => rfl).then_
  intro tenant _
  apply (stays_lift _).then_
  intro tenant _
  apply (stays_ask (o := .findPartner _) trivial fun _ => rfl).then_
  intro partner _
  apply (stays_lift _).then_
  intro partner _
  apply (stays_ensureTenantAgent _).then_
  intro agent _
  apply (stays_lift _).then_
  intro grant parsed
  have same := mandateGrantParse_ok parsed.symm
  subst same
  apply stays_newId.then_
  intro mandateId _
  apply (stays_lift _).then_
  intro documents built
  obtain ⟨granted, ends, principal⟩ := buildSessionDocuments_ok built.symm
  apply (stays_ask (o := .issue _) trivial fun _ => rfl).then_
  intro issued _
  apply (stays_ensureWalletIsRegisteredIssuer _).then_
  intro _ _
  apply stays_now.then_
  intro storedAt _
  apply (stays_ask (o := .setPending ..) ⟨own.trans named.symm, rfl, session, has, granted, ends, principal⟩ fun _ => rfl).then_
  intro _ _
  trivial

theorem verifyWalletSignedMandate_ok {mandate : WalletMandate} {u : PUnit}
    (ok : verifyWalletSignedMandate deps mandate signature at_ = .ok u) : Verified deps mandate signature := by
  rw [verifyWalletSignedMandate, AgentPass.bind_eq_ok] at ok
  obtain ⟨address, decoded, ok⟩ := ok
  refine ⟨address, decoded, ?_⟩
  by_contra unsigned
  rw [if_pos (by simpa using unsigned)] at ok
  cases ok

theorem stays_stashForSigning (write : PendingWrite) :
    Stays (steps deps) m (stashForSigning askWrite (newRequestId deps) now write) fun _ => True := by
  apply (stays_ask (o := .write (.simulate write)) trivial fun _ => rfl).seq (fun xdr _ => ?_) fun _ _ => trivial
  apply stays_newRequestId.seq (fun requestId _ => ?_) fun _ _ => trivial
  apply stays_now.seq (fun savedAt _ => ?_) fun _ _ => trivial
  apply (stays_ask (o := .write (.save requestId write _)) trivial fun _ => rfl).seq (fun _ _ => ?_) fun _ _ => trivial
  exact ⟨rfl, trivial⟩

theorem stays_prepareWalletAnchor (mandate : WalletMandate) (signature : String) :
    Stays (steps deps) m (prepareWalletAnchor deps mandate signature) fun result =>
      ∀ prepared, result = .ok prepared → Verified deps mandate signature := by
  apply (stays_lift _).seq (fun _ _ => ?_) fun _ _ _ impossible => by cases impossible
  apply stays_now.seq (fun at_ _ => ?_) fun _ _ _ impossible => by cases impossible
  apply (stays_lift _).seq (fun _ verified => ?_) fun _ _ _ impossible => by cases impossible
  have verified := verifyWalletSignedMandate_ok verified.symm
  apply (stays_lift _).seq (fun write _ => ?_) fun _ _ _ impossible => by cases impossible
  exact (stays_stashForSigning write).imp fun _ _ ends => ⟨ends.1, fun _ _ => verified⟩

theorem obeys_signPending {id : String} (own : id = m.sessionId)
    (read : m.read = some pending) : Obeys (steps deps) m (signPending deps id pending signature) := by
  apply obeys_caught
  apply (stays_prepareWalletAnchor pending.mandate signature).then_
  rintro ⟨requestId, xdr⟩ verified
  apply (stays_ask (o := .updatePending id signature requestId) ⟨own, pending, read, verified _ rfl⟩ fun _ => rfl).then_
  intro _ _
  trivial

theorem obeys_consentRoute {signature : Option String} (own : id = m.sessionId) :
    Obeys (steps deps) m (consentRoute deps id signature) := by
  apply ask_then (o := .getPending id) own
  intro row _
  cases row with
  | none => trivial
  | some pending =>
    cases signature with
    | none => trivial
    | some signature => exact obeys_signPending own rfl

theorem follows_submitSigned (read : m.read.isSome) (requestId signedXdr : String) :
    Follows (steps deps) m (submitSigned deps.wallets askWrite requestId signedXdr) fun m' result =>
      ∀ hash, result = .ok hash → m' = { m with sent := some hash } := by
  apply Follows.seq (stays_ask (o := .write (.take requestId)) trivial fun _ => rfl)
  · rintro m' write ⟨rfl, _⟩
    cases write with
    | none =>
      rintro _ ⟨⟩
    | some write =>
      apply Follows.seq (stays_ask (o := .write (.simulate write)) trivial fun _ => rfl)
      · rintro m' _ ⟨rfl, _⟩
        refine ⟨m', ⟨read, rfl⟩, fun answer _ => ?_⟩
        cases answer with
        | ok hash =>
          rintro _ ⟨⟩
          rfl
        | error e =>
          rintro _ ⟨⟩
      · rintro _ _ _ _ ⟨⟩
  · rintro _ _ _ _ ⟨⟩

/-- An anchoring records the mandate it read, under what it sent, and completes its own session with it. -/
theorem obeys_anchorPending {id requestId signedXdr : String} (own : id = m.sessionId) (read : m.read = some pending)
    (signed : pending.signature.isSome) : Obeys (steps deps) m (anchorPending deps id pending requestId signedXdr) := by
  apply obeys_caught
  apply Follows.seq (follows_submitSigned (by simp [read]) requestId signedXdr) _ fun _ _ _ => trivial
  intro m' transactionHash sent
  cases sent transactionHash rfl
  apply (stays_ensureTenantAgent _).then_
  intro agent _
  apply (stays_lift _).then_
  intro did _
  apply stays_newId.then_
  intro principalId _
  apply ask_then (o := .upsertPrincipal principalId pending.walletAddress did) trivial
  intro principal known
  apply (stays_ask (o := .recordCredential _) trivial fun _ => rfl).then_
  intro _ _
  apply stays_newId.then_
  intro rowId _
  refine ask_then (o := .recordMandate rowId _ id) ?_ fun row _ => ?_
  · exact ⟨own, pending, principal, transactionHash, agent.id, read, signed, rfl, known, rfl, rfl⟩
  refine (stays_ask (o := .completeConsentSession id row.id) ?_ fun _ => rfl).then_ ?_
  · exact ⟨own, row, rfl, rfl⟩
  intro completed _
  apply (stays_ask (o := .deletePending id) trivial fun _ => rfl).then_
  intro _ _
  apply (stays_ask (o := .deleteWalletAddress id) trivial fun _ => rfl).then_
  intro _ _
  trivial

theorem obeys_anchorRoute {requestId signedXdr : Option String} (own : id = m.sessionId) :
    Obeys (steps deps) m (anchorRoute deps id requestId signedXdr) := by
  apply ask_then (o := .getPending id) own
  intro row _
  cases row with
  | none => trivial
  | some pending =>
    cases signed : pending.signature.isSome with
    | false => simp only [Option.filter, signed]; trivial
    | true =>
      simp only [Option.filter, signed, if_true]
      cases requestId with
      | none => trivial
      | some requestId =>
        cases signedXdr with
        | none => trivial
        | some signedXdr =>
          dsimp only
          split
          · exact obeys_anchorPending own rfl signed
          · trivial

theorem obeys_bindWallet {id address nonce : String} (own : id = m.sessionId) :
    Obeys (steps deps) m (bindWallet deps id address nonce signature) := by
  apply obeys_caught
  apply ask_then (o := .findConsentSession id) own
  intro row _
  cases row with
  | none => trivial
  | some session =>
    apply (stays_lift _).then_
    intro did _
    apply stays_newId.then_
    intro principalId _
    apply ask_then (o := .upsertPrincipal principalId address did) trivial
    intro principal _
    apply (stays_ask (o := .bindPrincipal ..) trivial fun _ => rfl).then_
    intro _ _
    apply (stays_ask (o := .setWalletAddress id address) trivial fun _ => rfl).then_
    intro _ _
    trivial

theorem obeys_verifyRoute {id address nonce : String} (own : id = m.sessionId) :
    Obeys (steps deps) m (verifyRoute deps id address nonce signature) := by
  apply (stays_ask (o := .write (.takeChallenge nonce)) trivial fun _ => rfl).then_
  intro taken _
  split
  · trivial
  · split
    · trivial
    · exact obeys_bindWallet own

theorem obeys_route (request : HostedConsent.Request) : Obeys (steps deps) (Request.mode request) (route deps request) := by
  unfold route
  split
  · exact obeys_verifyRoute rfl
  · trivial
  · apply obeys_caught
    apply Obeys.anyhow (obeys_startSession rfl)
    intro m _
    trivial
  · exact obeys_consentRoute rfl
  · exact obeys_anchorRoute rfl

end

end AgentPey.ConsentSteps
