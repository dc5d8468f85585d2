import AgentPey.PostgresSections

/-!
Daily limits of a tenant on one Postgres database, over every interleaving of the
statements of any number of processes. Sections are confined to their tenant, so
each runs as a whole; a granted authorisation then leaves a total within both of its
request's limits, and only grants and releases move a total at all.
-/
namespace AgentPey.PostgresLimits
open AgentPass Amounts Dates LocalPolicyRail Postings PurchaseChecks Transactions VaultEntries PostgresVault
open PostgresSections

variable {host : Host} {strKey : StrKey}

/-! ### Sections read and write one tenant's rows -/

section
variable {tenantId : String}

theorem ofTenant_filter (host : Host) (rows : List VaultRow) :
    ofTenant tenantId rows = ofTenant tenantId (rows.filter fun r => (schema host).tenant r = tenantId) := by
  rw [ofTenant, ofTenant, List.filter_filter]
  apply List.filter_congr
  intro r _
  show decide (r.tenant_id = tenantId) = (decide (r.tenant_id = tenantId) && decide (r.tenant_id = tenantId))
  rw [Bool.and_self]

theorem confined_spentOn (subject currency : String) (at_ : Date) :
    (spentOnVia tenantId subject currency at_).Confined (schema host) tenantId := by
  refine confined_bind (confined_lift _) fun day => confined_query fun rows => ?_
  rw [← ofTenant_filter host]

theorem confined_grantState (intentId : String) : (grantStateVia tenantId intentId).Confined (schema host) tenantId := by
  refine confined_query fun rows => ?_
  rw [← ofTenant_filter host]

theorem confined_hasRecorded (intentId : String) : (hasRecordedVia tenantId intentId).Confined (schema host) tenantId :=
  confined_bind (confined_grantState intentId) fun _ => trivial

theorem confined_append (entry : VaultEntry) : (appendVia host tenantId entry).Confined (schema host) tenantId := by
  refine confined_bind (confined_query fun rows => ?_) fun _ => ⟨rfl, trivial⟩
  rw [← ofTenant_filter host]

theorem confined_record (entry : SpendLedgerEntry) : (recordVia host tenantId entry).Confined (schema host) tenantId := by
  refine confined_bind (confined_hasRecorded _) fun recorded => ?_
  split
  · trivial
  · exact confined_bind (confined_lift _) fun _ => confined_bind (confined_lift _) fun _ => confined_append _

theorem confined_release (input : ReleaseSpendInput) : (releaseVia host tenantId input).Confined (schema host) tenantId := by
  refine confined_bind (confined_grantState _) fun state => confined_bind (confined_lift _) fun entry => ?_
  cases entry with
  | none => trivial
  | some entry => exact confined_append entry

theorem confined_authorise (request : AuthorisationRequest) (at_ : Date) :
    (authorise strKey (lockedLedger host tenantId) request at_).Confined (schema host) tenantId := by
  refine confined_bind (confined_bind (confined_lift _) fun check => ?_) fun decision => ?_
  · cases check with
    | denied d => trivial
    | allowed total =>
      exact confined_bind (confined_spentOn _ _ at_) fun _ =>
        confined_bind (confined_hasRecorded _) fun _ => confined_lift _
  · cases decision with
    | refused d => trivial
    | granted g => exact confined_bind (confined_record _) fun _ => trivial

end

theorem separate (host : Host) (strKey : StrKey) : Separate (schema host) (body host strKey) := by
  intro call t p section_
  cases call with
  | authorise tenantId request at_ =>
    cases section_
    exact confined_bind (confined_authorise request at_) fun _ => trivial
  | preview tenantId request at_ => cases section_
  | release tenantId input =>
    cases section_
    exact confined_bind (confined_release input) fun _ => trivial
  | recordRefusal tenantId input at_ =>
    cases section_
    exact confined_bind (confined_bind (confined_lift _) fun _ => confined_append _) fun _ => trivial
  | recordAnchor tenantId input at_ =>
    cases section_
    exact confined_bind (confined_bind (confined_lift _) fun _ => confined_append _) fun _ => trivial

/-! ### Totals -/

/-- A day's total as a tenant's rows have it: grants less releases. -/
def recordedOn (tenantId : String) (bucket : Bucket) (rows : List VaultRow) : Int :=
  balance bucket (postings leftTen (entriesOf tenantId rows))

/-- A run of any number of processes on a database that starts without records. -/
def run (host : Host) (strKey : StrKey) (actions : List (Action Call)) :
    System VaultRow String Thrown Reply Call × List (Event Thrown Reply Call) :=
  Traces.exec (step (schema host) (body host strKey)) ⟨[], ∅⟩ actions

def stepAfter (host : Host) (strKey : StrKey) (before : List (Action Call)) (action : Action Call) :
    System VaultRow String Thrown Reply Call × List (Event Thrown Reply Call) :=
  step (schema host) (body host strKey) (run host strKey before).1 action

/-- What the clocks of the hosts read when an authorisation starts its work. -/
def HostClocks (actions : List (Action Call)) : Prop :=
  ∀ id tenantId request t, .start id (.authorise tenantId request (some t)) ∈ actions → t.FourDigits

/-- A granted authorisation, or a release that returns. -/
def Spends : Event Thrown Reply Call → Prop
  | .returned (.authorise _ _ _) (.decision (.granted _)) => True
  | .returned (.release _ _) _ => True
  | _ => False

theorem run_kept (host : Host) (strKey : StrKey) (actions : List (Action Call)) (tenantId : String) :
    ∃ b, Kept tenantId (run host strKey actions).1.committed b := by
  refine run_committed (separate host strKey) (I := fun rows => ∀ tenantId, ∃ b, Kept tenantId rows b) ?_ ?_ actions tenantId
  · exact fun tenantId => ⟨∅, kept_nil⟩
  · intro rows call t whole reply new kept section_ ran tenantId
    obtain ⟨b, own⟩ := kept t
    obtain ⟨b', outcome⟩ := locked_outcome own section_ ran
    by_cases same : tenantId = t
    · subst same
      exact ⟨b', outcome.kept own⟩
    · obtain ⟨c, other⟩ := kept tenantId
      exact ⟨c, other.congr (outcome.others same)⟩

section
variable {tenantId : String} {rows : List VaultRow} {b : Book String Bucket}

theorem recordedOn_eq (kept : Kept tenantId rows b) (bucket : Bucket) : recordedOn tenantId bucket rows = held bucket b :=
  kept.accounts.balanced.balance_eq bucket

variable {new : List VaultRow}

variable {request : AuthorisationRequest} {t : TimeValue} {g : AuthorisationGranted} {b' : Book String Bucket}

private theorem grants_room (grants : Grants strKey host tenantId rows b request t g new) :
    ∃ addition limit limit', toScaledAmount (if (grantState request.intent.intentId
        (entriesOf tenantId rows)).standing.isSome then "0" else g.total) = .ok addition ∧
      toScaledAmount request.scope.limits.perDay = .ok limit ∧
      toScaledAmount request.grant.scope.limits.perDay = .ok limit' ∧
      held ⟨request.intent.agent, request.scope.limits.currency, t.dayKey⟩ b + addition ≤ limit ∧
      held ⟨request.intent.agent, request.scope.limits.currency, t.dayKey⟩ b + addition ≤ limit' := by
  obtain ⟨already, addition, spent, amount, ⟨limit, perDay, fits⟩, limit', perDay', fits'⟩ := grants.allowed.room
  obtain ⟨n, total⟩ := Int.eq_ofNat_of_zero_le
    (held_nonneg ⟨request.intent.agent, request.scope.limits.currency, t.dayKey⟩ b)
  rw [total, unscaleAmount_natCast, toScaledAmount_fromScaled] at spent
  cases spent
  refine ⟨addition, limit, limit', amount, perDay, perDay', ?_, ?_⟩ <;> rw [total] <;> omega

theorem granted_within (kept : Kept tenantId rows b) (fourDigits : t.FourDigits)
    (outcome : Outcome strKey host tenantId rows b (.authorise tenantId request (some t)) (.decision (.granted g))
      new b') : ∃ limit limit', toScaledAmount request.scope.limits.perDay = .ok limit ∧
      toScaledAmount request.grant.scope.limits.perDay = .ok limit' ∧
      held ⟨request.intent.agent, request.scope.limits.currency, t.dayKey⟩ b' ≤ limit ∧
      held ⟨request.intent.agent, request.scope.limits.currency, t.dayKey⟩ b' ≤ limit' := by
  cases outcome with
  | confirms grants stands =>
    obtain ⟨addition, limit, limit', amount, perDay, perDay', fits, fits'⟩ := grants_room grants
    refine ⟨limit, limit', perDay, perDay', ?_, ?_⟩ <;> omega
  | charges grants free entry appended =>
    obtain ⟨addition, limit, limit', amount, perDay, perDay', fits, fits'⟩ := grants_room grants
    have unused : b.lookup request.intent.intentId = none := by rw [kept.accounts.stands, free, Option.map_none]
    rw [free, if_neg (by simp)] at amount
    subst entry
    have counted : Spend.weight ⟨request.intent.agent, request.scope.limits.currency, t.dayKey⟩
        (VaultGrantedEntry.spend leftTen ⟨request.intent.agent, request.intent.intentId,
          request.scope.limits.currency, g.total, String.ofList t.text⟩) = addition := by
      rw [VaultGrantedEntry.spend, Spend.weight, amount_spendOf (scaleAmount_eq_ok.mpr amount), spendOf,
        leftTen_text fourDigits, if_pos rfl]
    refine ⟨limit, limit', perDay, perDay', ?_, ?_⟩ <;> rw [held_charge _ _ unused, counted] <;> assumption

theorem quiet_total {call : Call} {reply : Reply} (outcome : Outcome strKey host tenantId rows b call reply new b')
    (quiet : ¬Spends (.returned call reply)) (t : String)
    (bucket : Bucket) : recordedOn t bucket (rows ++ new) = recordedOn t bucket rows := by
  by_cases own : t = tenantId
  · subst own
    have noted : ∀ entry : VaultEntry, entry.posting leftTen = none →
        recordedOn t bucket (rows ++ [nextRow host t (ofTenant t rows).getLast? entry]) = recordedOn t bucket rows := by
      intro entry silent
      rw [recordedOn, entriesOf_next, postings_append, balance_append]
      simp [recordedOn, postings, silent]
    cases outcome with
    | refuses => rw [List.append_nil]
    | confirms => rw [List.append_nil]
    | charges grants free entry appended => exact absurd trivial quiet
    | releasedBefore => rw [List.append_nil]
    | refunds stands => exact absurd trivial quiet
    | refusal => exact noted _ rfl
    | anchor => exact noted _ rfl
  · rw [recordedOn, entriesOf, outcome.others own]
    rfl

end

def sampleHost : Host := ⟨fun _ => "digest", fun _ => 0⟩

def sampleCall : Call := .authorise "tenant" (sampleRequest "tea" "60.00") (sampleNoon 0)

/-- An authorisation of sixty under a limit of a hundred, up to its commit. -/
def sampleSection : List (Action Call) :=
  [.start 0 sampleCall, .statement 0, .statement 0, .statement 0, .statement 0, .statement 0]

theorem sampleSection_grants : (stepAfter sampleHost sampleStrKey sampleSection (.finish 0)).2 =
    [.returned sampleCall (.decision (.granted ⟨"tea", "60.0000000", "USDC", "60.0000000", false⟩))] := rfl

theorem sampleClocks : HostClocks (sampleSection ++ [.finish 0]) := by
  intro id tenantId request t started
  have read : sampleNoon 0 = some t := by
    simp only [sampleSection, sampleCall, List.mem_append, List.mem_cons, Action.start.injEq, Call.authorise.injEq,
      reduceCtorEq, or_false, List.not_mem_nil] at started
    exact started.2.2.2.symm
  cases read
  constructor <;> decide

end AgentPey.PostgresLimits
