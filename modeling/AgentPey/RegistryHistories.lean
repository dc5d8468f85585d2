import AgentPey.AgentRegistry

/-!
The history of one credential in the agent registry. A record, once anchored,
only ever becomes revoked; a run that holds a record holds the call that
anchored it, and a run that holds a revoked one the call that revoked it.
-/
namespace AgentPey.RegistryHistories
open Soroban Store AgentRegistry

/-- The record with another revocation flag at most: what was revoked stays revoked. -/
structure Continues (r r' : CredRecord) : Prop where
  issuer : r'.issuer = r.issuer
  subject : r'.subject = r.subject
  issued_at : r'.issued_at = r.issued_at
  expires_at : r'.expires_at = r.expires_at
  revoked : r.revoked = true → r'.revoked = true

theorem Continues.refl (r : CredRecord) : Continues r r := ⟨rfl, rfl, rfl, rfl, id⟩

theorem Continues.trans {r r' r'' : CredRecord} (first : Continues r r') (second : Continues r' r'') : Continues r r'' where
  issuer := second.issuer.trans first.issuer
  subject := second.subject.trans first.subject
  issued_at := second.issued_at.trans first.issued_at
  expires_at := second.expires_at.trans first.expires_at
  revoked revoked := second.revoked (first.revoked revoked)

/-! ### One step -/

section
variable {env : Env} {call : Call} {w w' : World} {cred_hash : BytesN 32} {r : CredRecord}

theorem effect_continues (effect : Effect env w call w') (found : get_credential w cred_hash = some r) :
    ∃ r', get_credential w' cred_hash = some r' ∧ Continues r r' := by
  cases effect with
  | register | deactivate | again => exact ⟨r, found, .refl r⟩
  | @anchor issuer subject other expires_at record events authorised registered active free =>
    refine ⟨r, ?_, .refl r⟩
    have different : cred_hash ≠ other := by
      rintro rfl
      rw [free] at found
      cases found
    simpa [get_credential, lookup_insert, different] using found
  | @revoke issuer other record events authorised stored own standing =>
    by_cases same : cred_hash = other
    · subst same
      rw [stored] at found
      cases found
      exact ⟨{ r with revoked := true }, by simp [get_credential], ⟨rfl, rfl, rfl, rfl, fun _ => rfl⟩⟩
    · exact ⟨r, by simpa [get_credential, lookup_insert, same] using found, .refl r⟩

theorem effect_origin (effect : Effect env w call w') (found : get_credential w' cred_hash = some r) :
    (∃ r₀, get_credential w cred_hash = some r₀ ∧ Continues r₀ r ∧
        (r₀.revoked = false → r.revoked = true → call = .revoke r.issuer cred_hash ∧ env.authorised r.issuer = true)) ∨
      (call = .anchor r.issuer cred_hash r.subject r.expires_at ∧ r = anchored env r.issuer r.subject r.expires_at ∧
        env.authorised r.issuer = true ∧ get_credential w cred_hash = none ∧
        ∃ record, get_issuer w r.issuer = some record ∧ record.active = true) := by
  have unchanged (before : get_credential w cred_hash = some r) :
      ∃ r₀, get_credential w cred_hash = some r₀ ∧ Continues r₀ r ∧ (r₀.revoked = false → r.revoked = true →
        call = .revoke r.issuer cred_hash ∧ env.authorised r.issuer = true) := by
    refine ⟨r, before, .refl r, fun standing revoked => ?_⟩
    rw [standing] at revoked
    cases revoked
  cases effect with
  | register | deactivate | again => exact .inl (unchanged found)
  | @anchor issuer subject other expires_at record events authorised registered active free =>
    by_cases same : cred_hash = other
    · subst same
      have made : anchored env issuer subject expires_at = r := by simpa [get_credential] using found
      subst made
      exact .inr ⟨rfl, rfl, authorised, free, record, registered, active⟩
    · exact .inl (unchanged (by simpa [get_credential, lookup_insert, same] using found))
  | @revoke issuer other record events authorised stored own standing =>
    by_cases same : cred_hash = other
    · subst same
      have made : { record with revoked := true } = r := by simpa [get_credential] using found
      subst made
      subst own
      exact .inl ⟨record, stored, ⟨rfl, rfl, rfl, rfl, fun _ => rfl⟩, fun _ _ => ⟨rfl, authorised⟩⟩
    · exact .inl (unchanged (by simpa [get_credential, lookup_insert, same] using found))

variable {issuer : Address}

theorem anchor_anchors {subject : Address} {expires_at : UInt64}
    (ran : invoke env (.anchor issuer cred_hash subject expires_at) w = .ok w') :
    ∃ r, get_credential w' cred_hash = some r ∧ r.issuer = issuer := by
  have effect := invoke_cases ran
  generalize sent : Call.anchor issuer cred_hash subject expires_at = call at effect
  cases effect with
  | register | deactivate | revoke | again => cases sent
  | anchor _ _ _ _ =>
    cases sent
    exact ⟨anchored env issuer subject expires_at, by simp [get_credential], rfl⟩

theorem revoke_revokes (ran : invoke env (.revoke issuer cred_hash) w = .ok w') :
    ∃ r, get_credential w' cred_hash = some r ∧ r.issuer = issuer ∧ r.revoked = true := by
  have effect := invoke_cases ran
  generalize sent : Call.revoke issuer cred_hash = call at effect
  cases effect with
  | register | deactivate | anchor => cases sent
  | @revoke _ _ record _ _ _ own _ =>
    cases sent
    exact ⟨{ record with revoked := true }, by simp [get_credential], own, rfl⟩
  | @again _ _ record _ _ found own already =>
    cases sent
    exact ⟨record, found, own, already⟩

theorem revoke_runs (found : get_credential w cred_hash = some r) (authorised : env.authorised r.issuer = true) :
    ∃ w', invoke env (.revoke r.issuer cred_hash) w = .ok w' := by
  simp only [invoke, revoke, bind_eq_ok, require_auth_eq_ok, okOr_eq_ok, failIf_eq_ok, not_not]
  by_cases already : r.revoked = true
  · exact ⟨_, ⟨⟩, authorised, r, found, ⟨⟩, rfl, if_pos already⟩
  · exact ⟨_, ⟨⟩, authorised, r, found, ⟨⟩, rfl, if_neg already⟩

/-- Nobody else's authorisation revokes. -/
theorem revoke_owner (found : get_credential w cred_hash = some r)
    (ran : invoke env (.revoke issuer cred_hash) w = .ok w') : issuer = r.issuer ∧ env.authorised r.issuer = true := by
  simp only [invoke, revoke, bind_eq_ok, require_auth_eq_ok, okOr_eq_ok, failIf_eq_ok, not_not] at ran
  obtain ⟨_, authorised, record, stored, _, own, _⟩ := ran
  have same : some record = some r := stored.symm.trans found
  cases same
  exact ⟨own.symm, own ▸ authorised⟩

end

variable {cred_hash : BytesN 32} {r : CredRecord}

variable {w w₀ : World}

theorem status_revoked (found : get_credential w cred_hash = some r) (revoked : r.revoked = true) (now : UInt64) :
    status now w cred_hash = .Revoked := by
  simp [status, found, revoked]

/-! ### Runs -/

section
variable {w : World} {cred_hash : BytesN 32} {r : CredRecord}

theorem step_continues (action : Action) (found : get_credential w cred_hash = some r) :
    ∃ r', get_credential (step w action).1 cred_hash = some r' ∧ Continues r r' := by
  rcases step_cases w action with ⟨effect, _, _⟩ | ⟨same, _, _⟩
  · exact effect_continues effect found
  · rw [same]
    exact ⟨r, found, .refl r⟩

theorem run_continues (actions : List Action) (found : get_credential w cred_hash = some r) :
    ∃ r', get_credential (run w actions).1 cred_hash = some r' ∧ Continues r r' := by
  refine Traces.exec_invariant (I := fun w => ∃ r', get_credential w cred_hash = some r' ∧ Continues r r') ?_
    ⟨r, found, .refl r⟩ actions
  rintro later action ⟨r', found', continues⟩
  obtain ⟨r'', found'', more⟩ := step_continues action found'
  exact ⟨r'', found'', continues.trans more⟩

theorem run_append (w : World) (first second : List Action) :
    (run w (first ++ second)).1 = (run (run w first).1 second).1 := by
  simp only [run, Traces.exec_append]

theorem run_snoc (w : World) (before : List Action) (action : Action) :
    (run w (before ++ [action])).1 = (step (run w before).1 action).1 := by
  rw [run_append]
  rfl

end

/-- The call that anchored a record: authorised by an issuer that was registered and
    active, of a hash that was free. -/
structure AnchoredBy (w : World) (env : Env) (cred_hash : BytesN 32) (r : CredRecord) : Prop where
  authorised : env.authorised r.issuer = true
  active : ∃ record, get_issuer w r.issuer = some record ∧ record.active = true
  free : get_credential w cred_hash = none
  issued_at : r.issued_at = env.timestamp

theorem AnchoredBy.runs {env : Env} (origin : AnchoredBy w env cred_hash r) :
    ∃ w', invoke env (.anchor r.issuer cred_hash r.subject r.expires_at) w = .ok w' := by
  obtain ⟨record, registered, active⟩ := origin.active
  simp only [invoke, anchor, bind_eq_ok, require_auth_eq_ok, okOr_eq_ok, failIf_eq_ok]
  refine ⟨_, ⟨⟩, origin.authorised, record, registered, ⟨⟩, ?_, ⟨⟩, ?_, rfl⟩
  · simp [active]
  · exact Option.not_isSome_iff_eq_none.mpr origin.free

section
variable (empty : w₀.creds = ∅) (actions : List Action) (found : get_credential (run w₀ actions).1 cred_hash = some r)
include empty actions found

theorem run_origin : ∃ before env after,
      actions = before ++ ⟨env, .anchor r.issuer cred_hash r.subject r.expires_at⟩ :: after ∧
        AnchoredBy (run w₀ before).1 env cred_hash r := by
  induction actions using List.reverseRec generalizing r with
  | nil =>
    change w₀.creds.lookup cred_hash = some r at found
    rw [empty] at found
    cases found
  | append_singleton earlier action ih =>
    rw [run_snoc] at found
    have before (r₀ : CredRecord) (stored : get_credential (run w₀ earlier).1 cred_hash = some r₀)
        (continues : Continues r₀ r) : ∃ before env after,
          earlier ++ [action] = before ++ ⟨env, .anchor r.issuer cred_hash r.subject r.expires_at⟩ :: after ∧
            AnchoredBy (run w₀ before).1 env cred_hash r := by
      obtain ⟨before, env, after, split, origin⟩ := ih stored
      refine ⟨before, env, after ++ [action], ?_, ?_⟩
      · rw [split, continues.issuer, continues.subject, continues.expires_at]
        simp
      · exact ⟨continues.issuer ▸ origin.authorised, continues.issuer ▸ origin.active, origin.free,
          continues.issued_at.trans origin.issued_at⟩
    rcases step_cases (run w₀ earlier).1 action with ⟨effect, _, _⟩ | ⟨same, _, _⟩
    · rcases effect_origin effect found with
        ⟨r₀, stored, continues, _⟩ | ⟨sent, made, authorised, free, active⟩
      · exact before r₀ stored continues
      · refine ⟨earlier, action.env, [], ?_, authorised, active, free, ?_⟩
        · rw [← sent]
        · rw [made]
          rfl
    · rw [same] at found
      exact before r found (.refl r)

/-- A revoked record of a run was revoked by one of the run's calls, under the
    authorisation of its issuer. -/
theorem run_revoker (revoked : r.revoked = true) : ∃ before env after,
      actions = before ++ ⟨env, .revoke r.issuer cred_hash⟩ :: after ∧ env.authorised r.issuer = true := by
  induction actions using List.reverseRec generalizing r with
  | nil =>
    change w₀.creds.lookup cred_hash = some r at found
    rw [empty] at found
    cases found
  | append_singleton earlier action ih =>
    rw [run_snoc] at found
    have before (r₀ : CredRecord) (stored : get_credential (run w₀ earlier).1 cred_hash = some r₀)
        (continues : Continues r₀ r) (already : r₀.revoked = true) : ∃ before env after,
          earlier ++ [action] = before ++ ⟨env, .revoke r.issuer cred_hash⟩ :: after ∧
            env.authorised r.issuer = true := by
      obtain ⟨before, env, after, split, authorised⟩ := ih stored already
      refine ⟨before, env, after ++ [action], ?_, continues.issuer ▸ authorised⟩
      rw [split, continues.issuer]
      simp
    rcases step_cases (run w₀ earlier).1 action with ⟨effect, _, _⟩ | ⟨same, _, _⟩
    · rcases effect_origin effect found with ⟨r₀, stored, continues, revokes⟩ | ⟨_, made, _⟩
      · cases standing : r₀.revoked with
        | true => exact before r₀ stored continues standing
        | false =>
          obtain ⟨sent, authorised⟩ := revokes standing revoked
          exact ⟨earlier, action.env, [], by rw [← sent], authorised⟩
      · rw [made] at revoked
        cases revoked
    · rw [same] at found
      exact before r found (.refl r) revoked

end

/-- A hash with a record cannot be anchored: by nobody, at no time. -/
theorem anchor_taken {w' : World} (found : get_credential w cred_hash = some r) (env : Env) (issuer subject : Address)
    (expires_at : UInt64) : invoke env (.anchor issuer cred_hash subject expires_at) w ≠ .ok w' := by
  intro ran
  have effect := invoke_cases ran
  generalize sent : Call.anchor issuer cred_hash subject expires_at = call at effect
  cases effect with
  | register | deactivate | revoke | again => cases sent
  | anchor _ _ _ free =>
    cases sent
    rw [free] at found
    cases found

/-- What the registry promises about credentials, over a run from its deployment by `admin`. -/
theorem registry_histories (admin : Address) (actions : List Action) :
    -- once `revoke` has succeeded the status is `Revoked`, whenever it is read
    (∀ before env issuer cred_hash after, actions = before ++ ⟨env, .revoke issuer cred_hash⟩ :: after →
      (∃ w', invoke env (.revoke issuer cred_hash) (run (construct admin) before).1 = .ok w') →
        ∀ now, status now (run (construct admin) actions).1 cred_hash = .Revoked) ∧
    -- a record keeps its parties and its times, and its hash is never anchored again
    (∀ before after cred_hash r, actions = before ++ after →
      get_credential (run (construct admin) before).1 cred_hash = some r →
        (∃ r', get_credential (run (construct admin) actions).1 cred_hash = some r' ∧ r'.issuer = r.issuer ∧
          r'.subject = r.subject ∧ r'.issued_at = r.issued_at ∧ r'.expires_at = r.expires_at) ∧
        ∀ env issuer subject expires_at w',
          invoke env (.anchor issuer cred_hash subject expires_at) (run (construct admin) actions).1 ≠ .ok w') ∧
    -- every record was anchored under the authorisation of an issuer that was active then
    (∀ cred_hash r, get_credential (run (construct admin) actions).1 cred_hash = some r →
      ∃ before env after, actions = before ++ ⟨env, .anchor r.issuer cred_hash r.subject r.expires_at⟩ :: after ∧
        AnchoredBy (run (construct admin) before).1 env cred_hash r) ∧
    -- only the issuer's authorisation revokes, and it always does, active or not
    (∀ cred_hash r, get_credential (run (construct admin) actions).1 cred_hash = some r →
      (r.revoked = true → ∃ before env after,
        actions = before ++ ⟨env, .revoke r.issuer cred_hash⟩ :: after ∧ env.authorised r.issuer = true) ∧
      ∀ env, (∀ issuer w', invoke env (.revoke issuer cred_hash) (run (construct admin) actions).1 = .ok w' →
          issuer = r.issuer ∧ env.authorised r.issuer = true) ∧
        (env.authorised r.issuer = true →
          ∃ w', invoke env (.revoke r.issuer cred_hash) (run (construct admin) actions).1 = .ok w')) := by
  refine ⟨?_, ?_, ?_, ?_⟩
  · rintro before env issuer cred_hash after rfl ⟨w', ran⟩ now
    obtain ⟨r, found, _, revoked⟩ := revoke_revokes ran
    have first : (run (construct admin) (before ++ [⟨env, .revoke issuer cred_hash⟩])).1 = w' := by
      rw [run_snoc]
      simp only [step, ran]
    rw [← first] at found
    obtain ⟨r', found', continues⟩ := run_continues after found
    rw [← run_append, List.append_assoc] at found'
    exact status_revoked found' (continues.revoked revoked) now
  · rintro before after cred_hash r rfl found
    obtain ⟨r', found', continues⟩ := run_continues after found
    rw [← run_append] at found'
    exact ⟨⟨r', found', continues.issuer, continues.subject, continues.issued_at, continues.expires_at⟩,
      fun env issuer subject expires_at w' => anchor_taken found' env issuer subject expires_at⟩
  · intro cred_hash r found
    exact run_origin rfl actions found
  · intro cred_hash r found
    refine ⟨run_revoker rfl actions found, fun env => ⟨fun issuer w' ran => ?_, revoke_runs found⟩⟩
    exact revoke_owner found ran

/-- Account 1 registers account 2, which anchors a hash until time 50. It is then
    deactivated, and revokes the hash after it expired. -/
def sampleHistory : List Action :=
  [⟨signedBy (sampleAccount 1) 10, .register_issuer (sampleAccount 2) sampleHash⟩,
    ⟨signedBy (sampleAccount 2) 20, .anchor (sampleAccount 2) sampleHash (sampleAccount 3) 50⟩,
    ⟨signedBy (sampleAccount 1) 30, .deactivate_issuer (sampleAccount 2)⟩,
    ⟨signedBy (sampleAccount 2) 60, .revoke (sampleAccount 2) sampleHash⟩]

theorem registry_histories_sample : status 40 (run (construct (sampleAccount 1)) sampleHistory).1 sampleHash = .Revoked :=
  (registry_histories (sampleAccount 1) sampleHistory).1 (sampleHistory.take 3) (signedBy (sampleAccount 2) 60)
    (sampleAccount 2) sampleHash [] rfl ⟨_, rfl⟩ 40

end AgentPey.RegistryHistories
