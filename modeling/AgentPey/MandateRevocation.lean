import AgentPey.MandateAnchor
import AgentPey.RegistryHistories

/-!
Who can end a mandate that verifies on chain. The verifier asks the registry about
the mandate's hash and about its principal, but not who anchored the hash: the
principal can revoke exactly when no other issuer anchored it first.
-/
namespace AgentPey.MandateRevocation
open AgentPass MandateAnchor AgentRegistry RegistryHistories
open Soroban (Address BytesN)

variable {lib : Libraries} {schema : Json → Except (List (String × String)) SignedMandateDocument}

/-! ### What an accepted mandate has passed -/

variable {jws : String}

theorem verifyJwsDocument_ok {T : Type} {profile : JwsDocumentProfile T} {v : VerifiedJwsDocument T}
    (accepted : verifyJwsDocument lib profile jws = .ok v) :
    v.hash = jwsDocumentHash lib jws ∧ ∃ key, didToPublicKey lib.keys v.signer = .ok key := by
  unfold verifyJwsDocument at accepted
  split at accepted
  · cases accepted
  · split_ifs at accepted
    obtain ⟨payload, _, accepted⟩ := bind_eq_ok.mp accepted
    split at accepted
    · cases accepted
    · split_ifs at accepted
      obtain ⟨key, decoded, accepted⟩ := bind_eq_ok.mp accepted
      split_ifs at accepted
      obtain ⟨document, _, accepted⟩ := bind_eq_ok.mp accepted
      split_ifs at accepted
      cases accepted
      exact ⟨rfl, key, decoded⟩

variable {now : Dates.Date} {registry : RegistryAccess} {w w₀ : World} {action : Action} {r : CredRecord} {env : Env}

theorem verifyMandate_ok {v : VerifiedMandate} (accepted : verifyMandate lib schema jws now = .ok v) :
    v.hash = jwsDocumentHash lib jws ∧ ∃ key, didToPublicKey lib.keys v.principal = .ok key := by
  obtain ⟨document, verified, accepted⟩ := bind_eq_ok.mp accepted
  have checked := verifyJwsDocument_ok verified
  dsimp only at accepted
  split_ifs at accepted
  · obtain ⟨_, _, impossible⟩ := bind_eq_ok.mp accepted
    cases impossible
  · obtain ⟨_, _, impossible⟩ := bind_eq_ok.mp accepted
    cases impossible
  · cases accepted
    exact checked

variable {hash : BytesN 32}

theorem checkOnChainStatus_ok {mandate : SignedMandateDocument} {principal address : String}
    (accepted : checkOnChainStatus lib.keys registry hash mandate principal = .ok address) :
    registry.status hash = .ok .Active ∧ didToStellarAddress lib.keys principal = .ok address := by
  obtain ⟨_, _, accepted⟩ := bind_eq_ok.mp accepted
  obtain ⟨status, answered, accepted⟩ := bind_eq_ok.mp accepted
  cases status with
  | Unknown | Revoked | Expired => cases accepted
  | Active =>
    obtain ⟨found, parsed, accepted⟩ := bind_eq_ok.mp accepted
    obtain ⟨standing, _, accepted⟩ := bind_eq_ok.mp accepted
    dsimp only at accepted
    split_ifs at accepted
    cases accepted
    exact ⟨answered, parsed⟩

theorem accountOf_address {keys : StrKeys} {did address : String} {key : BytesN 32}
    (decoded : didToPublicKey keys did = .ok key) (parsed : didToStellarAddress keys did = .ok address) :
    accountOf keys address = some (.account key) := by
  obtain ⟨p, read, decoded⟩ := bind_eq_ok.mp decoded
  obtain ⟨p', read', same⟩ := bind_eq_ok.mp parsed
  rw [read] at read'
  cases read'
  cases same
  cases found : keys.decodeEd25519PublicKey p.address with
  | none => simp [found] at decoded
  | some k =>
    simp only [found] at decoded
    cases decoded
    simp [accountOf, found]

/-- The registry answered `Active` for the hash of the very text that was verified. -/
theorem verifyMandateOnChain_ok {v : FullyVerifiedMandate}
    (accepted : verifyMandateOnChain lib schema registry jws now = .ok v) :
    v.hash = jwsDocumentHash lib jws ∧ registry.status (jwsDocumentHash lib jws) = .ok .Active ∧
      ∃ principal, accountOf lib.keys v.principalAddress = some principal := by
  obtain ⟨verified, offline, accepted⟩ := bind_eq_ok.mp accepted
  obtain ⟨address, checked, accepted⟩ := bind_eq_ok.mp accepted
  cases accepted
  obtain ⟨hash, key, decoded⟩ := verifyMandate_ok offline
  obtain ⟨active, parsed⟩ := checkOnChainStatus_ok checked
  exact ⟨hash, hash ▸ active, .account key, accountOf_address decoded parsed⟩

/-! ### Who anchored the hash -/

/-- No other account has anchored the hash: in the trace of a run, every call that
    anchored it is the principal's. -/
def OnlyAnchoredBy (principal : Address) (hash : BytesN 32) (t : List Action) : Prop :=
  ∀ env issuer subject expires_at, ⟨env, .anchor issuer hash subject expires_at⟩ ∈ t → issuer = principal

/-- The principal can end the mandate: it is the issuer of the anchored record, its
    `revoke` succeeds, and after that no verification of the mandate does. -/
structure Withdrawable (lib : Libraries) (schema : Json → Except (List (String × String)) SignedMandateDocument)
    (w : World) (jws : String) (principal : Address) : Prop where
  issuer : ∃ r, get_credential w (jwsDocumentHash lib jws) = some r ∧ r.issuer = principal
  revokes : ∀ env, env.authorised principal = true →
    ∃ w', invoke env (revokeMandate principal (jwsDocumentHash lib jws)) w = .ok w'
  ends : ∀ env w', invoke env (revokeMandate principal (jwsDocumentHash lib jws)) w = .ok w' →
    ∀ later contractId time atIssuer now v,
      verifyMandateOnChain lib schema (onChain lib.keys contractId time (run w' later).1 atIssuer) jws now ≠ .ok v

theorem status_active {now : UInt64} (active : status now w hash = .Active) :
    ∃ r, get_credential w hash = some r ∧ r.revoked = false := by
  unfold status at active
  cases found : get_credential w hash with
  | none => simp [found] at active
  | some r =>
    refine ⟨r, rfl, ?_⟩
    cases revoked : r.revoked with
    | false => rfl
    | true => simp [found, revoked] at active

theorem mem_trace {w' : World} {before after : List Action}
    (succeeded : invoke action.env action.call (run w before).1 = .ok w') :
    action ∈ (run w (before ++ action :: after)).2 := by
  have emitted : (step (run w before).1 action).2 = [action] := by
    simp only [step, succeeded]
  simp only [run] at emitted ⊢
  rw [Traces.exec_append, Traces.exec_cons, emitted]
  exact List.mem_append_right _ (List.mem_append_left _ (List.mem_singleton.mpr rfl))

variable {actions : List Action}

theorem mem_actions (listed : action ∈ (run w actions).2) : action ∈ actions := by
  obtain ⟨before, sent, after, rfl, emitted⟩ := Traces.mem_exec listed
  change _ ∈ (step (run w before).1 sent).2 at emitted
  rcases step_cases (run w before).1 sent with ⟨_, kept, _⟩ | ⟨_, kept, _⟩
  · rw [kept] at emitted
    rw [List.mem_singleton.mp emitted]
    simp
  · rw [kept] at emitted
    cases emitted

/-- The issuer of a record is the issuer of every call of the run that anchored its hash. -/
theorem issuer_of_anchor (found : get_credential (run w₀ actions).1 hash = some r) {issuer subject : Address}
    {expires_at : UInt64} (listed : ⟨env, .anchor issuer hash subject expires_at⟩ ∈ (run w₀ actions).2) :
    r.issuer = issuer := by
  obtain ⟨before, action, after, rfl, emitted⟩ := Traces.mem_exec listed
  change _ ∈ (step (run w₀ before).1 action).2 at emitted
  rcases step_cases (run w₀ before).1 action with ⟨_, kept, ran⟩ | ⟨_, kept, _⟩
  · rw [kept] at emitted
    cases List.mem_singleton.mp emitted
    obtain ⟨r', anchored, own⟩ := anchor_anchors ran
    rw [← run_snoc] at anchored
    obtain ⟨r'', found', continues⟩ := run_continues after anchored
    rw [← run_append, List.append_assoc] at found'
    have same : some r = some r'' := found.symm.trans found'
    cases same
    rw [continues.issuer, own]
  · rw [kept] at emitted
    cases emitted

/-- A record is the principal's exactly when nobody else anchored its hash. -/
theorem issuer_iff (empty : w₀.creds = ∅) (found : get_credential (run w₀ actions).1 hash = some r) (principal : Address) :
    r.issuer = principal ↔ OnlyAnchoredBy principal hash (run w₀ actions).2 := by
  constructor
  · intro own env issuer subject expires_at listed
    rw [← issuer_of_anchor found listed, own]
  · intro only
    obtain ⟨before, env, after, rfl, origin⟩ := run_origin empty actions found
    obtain ⟨w', ran⟩ := origin.runs
    have listed : ⟨env, .anchor r.issuer hash r.subject r.expires_at⟩ ∈
        (run w₀ (before ++ ⟨env, .anchor r.issuer hash r.subject r.expires_at⟩ :: after)).2 := mem_trace ran
    exact only env r.issuer r.subject r.expires_at listed

/-- After the principal's own `revoke` no verification of the mandate is accepted. -/
theorem revoked_refused {w' : World} {principal : Address}
    (ran : invoke env (revokeMandate principal (jwsDocumentHash lib jws)) w = .ok w') (later : List Action)
    (contractId : String) (time : UInt64) (atIssuer : World) (now : Dates.Date) (v : FullyVerifiedMandate) :
    verifyMandateOnChain lib schema (onChain lib.keys contractId time (run w' later).1 atIssuer) jws now ≠ .ok v := by
  intro accepted
  obtain ⟨_, active, _⟩ := verifyMandateOnChain_ok accepted
  obtain ⟨r, found, _, revoked⟩ := revoke_revokes ran
  obtain ⟨r', found', continues⟩ := run_continues later found
  have reads : AgentRegistry.status time (run w' later).1 (jwsDocumentHash lib jws) = .Active := Except.ok.inj active
  rw [status_revoked found' (continues.revoked revoked)] at reads
  cases reads

/-- For a mandate that verifies on chain: its principal can end it exactly when no other
    account has anchored its hash. The registry may move on between the verifier's reads. -/
theorem withdrawable_iff (admin : Address) (actions between : List Action) (contractId : String) (time : UInt64) (jws : String)
    (now : Dates.Date) (v : FullyVerifiedMandate) (accepted : verifyMandateOnChain lib schema
      (onChain lib.keys contractId time (run (construct admin) actions).1 (run (construct admin) (actions ++ between)).1)
      jws now = .ok v) : ∃ principal, accountOf lib.keys v.principalAddress = some principal ∧
      (Withdrawable lib schema (run (construct admin) (actions ++ between)).1 jws principal ↔
        OnlyAnchoredBy principal v.hash (run (construct admin) (actions ++ between)).2) := by
  obtain ⟨hash, active, principal, account⟩ := verifyMandateOnChain_ok accepted
  obtain ⟨r₀, anchored, _⟩ := status_active (Except.ok.inj active)
  obtain ⟨r, found, _⟩ := run_continues between anchored
  rw [← run_append] at found
  refine ⟨principal, account, ?_⟩
  rw [hash, ← issuer_iff rfl found principal]
  constructor
  · rintro ⟨⟨r', found', own⟩, _, _⟩
    have same : some r = some r' := found.symm.trans found'
    cases same
    exact own
  · intro own
    refine ⟨⟨r, found, own⟩, fun env authorised => ?_, fun env w' ran => revoked_refused ran⟩
    subst own
    exact revoke_runs found authorised

/-! ### A mandate that another issuer anchored first -/

def samplePrincipalAddress : String := "GCFIRY65OQE7DFP5KLNS2PF2LVZMUZYJX4OZIEQ36N2IQANUB5XVYOJR"
def samplePrincipalKey : BytesN 32 :=
  ⟨[138, 136, 227, 221, 116, 9, 241, 149, 253, 82, 219, 45, 60, 186, 93, 114, 202, 103, 9, 191, 29, 148, 18, 27, 243, 116, 136, 1, 180, 15, 111, 92], rfl⟩
def sampleRegistry : String := "CACAIBAEAQCAIBAEAQCAIBAEAQCAIBAEAQCAIBAEAQCAIBAEAQCAINCW"

def sampleJws : String :=
  "eyJhbGciOiJFZERTQSIsInR5cCI6Im1hbmRhdGUrand0Iiwia2lkIjoiZGlkOnN0ZWxsYXI6dGVzdG5ldDpHQ0ZJUlk2NU9RRTdERlA1S0xOUzJQRjJMVlpNVVpZSlg0T1pJRVEzNk4ySVFBTlVCNVhWWU9KUiJ9.eyJAY29udGV4dCI6WyJodHRwczovL3d3dy53My5vcmcvbnMvY3JlZGVudGlhbHMvdjIiXSwidHlwZSI6WyJWZXJpZmlhYmxlQ3JlZGVudGlhbCIsIkFnZW50UGF5TWFuZGF0ZSJdLCJtYW5kYXRlSWQiOiIzZjBjMmE4ZS01ZDFiLTRjN2EtOWUyZi02YjhkNGExYzBlNTciLCJpc3N1ZXIiOiJkaWQ6c3RlbGxhcjp0ZXN0bmV0OkdDRklSWTY1T1FFN0RGUDVLTE5TMlBGMkxWWk1VWllKWDRPWklFUTM2TjJJUUFOVUI1WFZZT0pSIiwidmFsaWRGcm9tIjoiMjAyNi0wOS0wMVQwMDowMDowMFoiLCJ2YWxpZFVudGlsIjoiMjAyNi0xMC0zMVQwMDowMDowMFoiLCJjcmVkZW50aWFsU3ViamVjdCI6eyJpZCI6ImRpZDpzdGVsbGFyOnRlc3RuZXQ6R0NBVFM1WU9WQjZST1gyV1VOS0dOUTJNUDNHTVhETUtTRzJPNE41Q0xYM0E2VzRQWkdaWkk1NVUiLCJncmFudCI6eyJhY3Rpb25zIjpbImludGVudDpjcmVhdGUiXSwidmVudWVzIjpbInNob3A6QzEiXSwiYXNzZXRzIjpbIlVTREM6R0RXVVNLR0dGREk0RlJYSzVFQlRSRUNaU1ZRU1NXSkhISk9HSDZKV0czQVVNRkZNUTQzNURJQUciXSwibGltaXRzIjp7InBlclR4IjoiMTAwIiwicGVyRGF5IjoiMTAwIiwiY3VycmVuY3kiOiJVU0RDIn19fSwiY3JlZGVudGlhbFN0YXR1cyI6eyJ0eXBlIjoiQWdlbnRQYXNzUmVnaXN0cnkyMDI2IiwicmVnaXN0cnkiOiJDQUNBSUJBRUFRQ0FJQkFFQVFDQUlCQUVBUUNBSUJBRUFRQ0FJQkFFQVFDQUlCQUVBUUNBSU5DVyJ9fQ.Lm-5mXDGdqF9Qs_wN9kD9YYX3cCmatnI-5SOvGJFAlSJr-yV3vtiQK_q_NyYqDBoY_0ztYBTQPEJUbx6Ia38Aw"

def sampleJwsHash : BytesN 32 :=
  ⟨[90, 89, 119, 230, 73, 130, 193, 126, 253, 8, 160, 103, 51, 170, 200, 102, 232, 18, 149, 238, 96, 81, 254, 88, 79, 166, 130, 209, 175, 251, 234, 165], rfl⟩

def sampleMandate : SignedMandateDocument where
  issuer := "did:stellar:testnet:" ++ samplePrincipalAddress
  validFrom := "2026-09-01T00:00:00Z"
  validUntil := "2026-10-31T00:00:00Z"
  credentialSubject := ⟨"did:stellar:testnet:GCATS5YOVB6ROX2WUNKGNQ2MP3GMXDMKSG2O4N5CLX3A6W4PZGZZI55U",
    ⟨⟨["intent:create"], ["shop:C1"], ["USDC:GDWUSKGGFDI4FRXK5EBTRECZSVQSSWJHHJOGH6JWG3AUMFFMQ435DIAG"], ⟨"100", "100", "USDC"⟩⟩, none, none⟩⟩
  credentialStatus := ⟨sampleRegistry⟩

def samplePayload : Json :=
  .object [("@context", strings ["https://www.w3.org/ns/credentials/v2"]),
    ("type", strings ["VerifiableCredential", "AgentPayMandate"]),
    ("mandateId", .string "3f0c2a8e-5d1b-4c7a-9e2f-6b8d4a1c0e57"),
    ("issuer", .string sampleMandate.issuer),
    ("validFrom", .string "2026-09-01T00:00:00Z"), ("validUntil", .string "2026-10-31T00:00:00Z"),
    ("credentialSubject", .object [("id", .string sampleMandate.credentialSubject.id),
      ("grant", .object [("actions", strings ["intent:create"]), ("venues", strings ["shop:C1"]),
        ("assets", strings sampleMandate.credentialSubject.grant.scope.assets),
        ("limits", .object [("perTx", .string "100"), ("perDay", .string "100"), ("currency", .string "USDC")])])]),
    ("credentialStatus", .object [("type", .string "AgentPassRegistry2026"), ("registry", .string sampleRegistry)])]

/-- The libraries on the sample mandate: each answers what it does for this very text. -/
def sampleLibraries : Libraries where
  keys :=
    { isValidEd25519PublicKey := fun text => text = samplePrincipalAddress
      isValidContract := fun _ => false
      decodeEd25519PublicKey := fun text => if text = samplePrincipalAddress then some samplePrincipalKey else none }
  decodeProtectedHeader _ :=
    some ⟨some (.string "EdDSA"), some (.string "mandate+jwt"), some (.string sampleMandate.issuer)⟩
  readSegment _ := some samplePayload
  compactVerify _ key := key = samplePrincipalKey
  sha256 _ := sampleJwsHash

def sampleNow : Dates.Date := Dates.parse "2026-09-15T12:00:00Z"

/-- The principal and another account are registered; one of them anchors the mandate. -/
def sampleAnchoring (issuer : Address) : List Action :=
  [⟨signedBy (sampleAccount 1) 10, .register_issuer (.account samplePrincipalKey) sampleHash⟩,
    ⟨signedBy (sampleAccount 1) 20, .register_issuer (sampleAccount 2) sampleHash⟩,
    ⟨signedBy issuer 30, .anchor issuer sampleJwsHash (sampleAccount 3) 1793404800⟩]

def sampleWorld (issuer : Address) : World := (run (construct (sampleAccount 1)) (sampleAnchoring issuer)).1

def sampleVerification (issuer : Address) : Result FullyVerifiedMandate :=
  verifyMandateOnChain sampleLibraries (fun _ => .ok sampleMandate)
    (onChain sampleLibraries.keys sampleRegistry 1789473600 (sampleWorld issuer) (sampleWorld issuer)) sampleJws sampleNow

theorem decodePayload_ofList {profile : JwsDocumentProfile SignedMandateDocument} {cs : List Char} {value : Json}
    (reads : ∀ text, lib.readSegment text = some value) (three : (cs.splitOn '.').length = 3) :
    decodePayload lib profile (String.ofList cs) = .ok value := by
  obtain ⟨a, b, c, split⟩ := List.length_eq_three.mp three
  simp [decodePayload, String.toList_ofList, split, reads]

theorem sample_payload (profile : JwsDocumentProfile SignedMandateDocument) :
    decodePayload sampleLibraries profile sampleJws = .ok samplePayload := by
  unfold sampleJws
  apply decodePayload_ofList
  · intro text
    rfl
  · decide +kernel

private theorem sample_accepted (issuer : Address) (listed : issuer ∈ [.account samplePrincipalKey, sampleAccount 2]) :
    ∃ v, sampleVerification issuer = .ok v ∧ v.principalAddress = samplePrincipalAddress := by
  have evaluated : (sampleVerification issuer).toOption.map (·.principalAddress) = some samplePrincipalAddress := by
    simp only [sampleVerification, verifyMandateOnChain, verifyMandate, verifyJwsDocument, sample_payload, ok_bind]
    rcases List.mem_pair.mp listed with rfl | rfl
    · decide
    · decide
  cases verified : sampleVerification issuer with
  | error e =>
    rw [verified] at evaluated
    cases evaluated
  | ok v =>
    rw [verified] at evaluated
    exact ⟨v, rfl, Option.some.inj evaluated⟩

private theorem sample_hash : jwsDocumentHash sampleLibraries sampleJws = sampleJwsHash := rfl

private theorem sample_account : accountOf sampleLibraries.keys samplePrincipalAddress = some (.account samplePrincipalKey) := by
  decide

/-- The other account anchored the mandate first. It verifies, and its principal cannot revoke it. -/
theorem seized_mandate :
    ∃ v, sampleVerification (sampleAccount 2) = .ok v ∧
      accountOf sampleLibraries.keys v.principalAddress = some (.account samplePrincipalKey) ∧
      ¬ Withdrawable sampleLibraries (fun _ => .ok sampleMandate) (sampleWorld (sampleAccount 2)) sampleJws
          (.account samplePrincipalKey) ∧
      ∀ env w', invoke env (revokeMandate (.account samplePrincipalKey) sampleJwsHash)
        (sampleWorld (sampleAccount 2)) ≠ .ok w' := by
  obtain ⟨v, verified, address⟩ := sample_accepted (sampleAccount 2) (by simp)
  have found : get_credential (sampleWorld (sampleAccount 2)) sampleJwsHash =
      some ⟨sampleAccount 2, sampleAccount 3, 30, 1793404800, false⟩ := by
    decide
  have other : sampleAccount 2 ≠ .account samplePrincipalKey := by
    decide
  refine ⟨v, verified, ?_, ?_, ?_⟩
  · rw [address]
    exact sample_account
  · rintro ⟨⟨r, found', own⟩, _, _⟩
    rw [sample_hash, found] at found'
    cases found'
    exact other own
  · intro env w' ran
    exact other (revoke_owner found ran).1.symm

theorem withdrawable_iff_sample :
    ∃ v, sampleVerification (.account samplePrincipalKey) = .ok v ∧
      Withdrawable sampleLibraries (fun _ => .ok sampleMandate) (sampleWorld (.account samplePrincipalKey)) sampleJws
        (.account samplePrincipalKey) := by
  obtain ⟨v, verified, address⟩ := sample_accepted (.account samplePrincipalKey) (by simp)
  have accepted : verifyMandateOnChain sampleLibraries (fun _ => .ok sampleMandate)
      (onChain sampleLibraries.keys sampleRegistry 1789473600
        (run (construct (sampleAccount 1)) (sampleAnchoring (.account samplePrincipalKey))).1
        (run (construct (sampleAccount 1)) (sampleAnchoring (.account samplePrincipalKey) ++ [])).1)
      sampleJws sampleNow = .ok v := by
    rw [List.append_nil]
    exact verified
  obtain ⟨principal, account, iff⟩ := withdrawable_iff (sampleAccount 1) (sampleAnchoring (.account samplePrincipalKey))
    [] sampleRegistry 1789473600 sampleJws sampleNow v accepted
  rw [address, sample_account] at account
  cases account
  refine ⟨v, verified, iff.mpr ?_⟩
  intro env issuer subject expires_at listed
  have sent := mem_actions listed
  simp only [sampleAnchoring, List.append_nil, List.mem_cons, AgentRegistry.Action.mk.injEq, reduceCtorEq, and_false, false_or,
    List.not_mem_nil, or_false, Call.anchor.injEq] at sent
  exact sent.2.1

end AgentPey.MandateRevocation
