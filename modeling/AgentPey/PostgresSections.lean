import AgentPey.PostgresVault

/-!
What a section of the Postgres vault does as a whole. A tenant's table is `Kept`
when its rows are numbered in order and its entries are a balanced history; over
such a table the queries compute what stands, and every section appends at most one
row, which keeps the table.
-/
namespace AgentPey.PostgresSections
open AgentPass Amounts Dates LocalPolicyRail Postings PurchaseChecks Transactions VaultEntries PostgresVault

def entriesOf (tenantId : String) (rows : List VaultRow) : List VaultEntry :=
  (ofTenant tenantId rows).map VaultRow.entry

def Ordered (rows : List VaultRow) : Prop := rows.Pairwise fun r r' => r.seq < r'.seq

structure Kept (tenantId : String) (rows : List VaultRow) (b : Book String Bucket) : Prop where
  ordered : Ordered (ofTenant tenantId rows)
  accounts : Accounts leftTen (entriesOf tenantId rows) b

theorem leftTen_text {t : TimeValue} (fourDigits : t.FourDigits) : leftTen (String.ofList t.text) = t.dayKey := by
  rw [leftTen, String.toList_ofList, dayText_take fourDigits]
  rfl

/-! ### Rows in order -/

variable {rows : List VaultRow}

section
variable (ordered : Ordered rows)
include ordered

theorem Ordered.orderBySeq : orderBySeq rows = rows :=
  List.Pairwise.insertionSort_eq (ordered.imp Nat.le_of_lt)

private theorem Ordered.same {r r' : VaultRow} (member : r ∈ rows) (member' : r' ∈ rows) (same : r.seq = r'.seq) : r = r' := by
  induction rows with
  | nil => simp at member
  | cons first rest ih =>
    obtain ⟨least, later⟩ := List.pairwise_cons.mp ordered
    rcases List.mem_cons.mp member with rfl | inRest
    · rcases List.mem_cons.mp member' with rfl | inRest'
      · rfl
      · exact absurd same (Nat.ne_of_lt (least r' inRest'))
    · rcases List.mem_cons.mp member' with rfl | inRest'
      · exact absurd same.symm (Nat.ne_of_lt (least r inRest))
      · exact ih later inRest inRest'

theorem Ordered.lastBySeq : lastBySeq rows = rows.getLast? := by
  have descending : (rows.insertionSort fun r r' => r'.seq ≤ r.seq).Pairwise fun r r' => r'.seq ≤ r.seq := by
    have : IsTrans VaultRow (fun r r' => r'.seq ≤ r.seq) := ⟨fun _ _ _ after before => before.trans after⟩
    have : Std.Total (fun r r' : VaultRow => r'.seq ≤ r.seq) := ⟨fun _ _ => Nat.le_total _ _⟩
    exact List.pairwise_insertionSort _ rows
  have reversed : rows.reverse.Pairwise fun r r' => r'.seq ≤ r.seq :=
    List.pairwise_reverse.mpr (ordered.imp Nat.le_of_lt)
  have sorted : (rows.insertionSort fun r r' => r'.seq ≤ r.seq) = rows.reverse := by
    refine List.Perm.eq_of_pairwise ?_ descending reversed
      ((List.perm_insertionSort _ rows).trans (List.reverse_perm rows).symm)
    intro r r' member member' below above
    exact ordered.same ((List.mem_insertionSort _).mp member) (List.mem_reverse.mp member') (above.antisymm below)
  rw [PostgresVault.lastBySeq, sorted, List.head?_reverse]

theorem Ordered.next (host : Host) (tenantId : String) (entry : VaultEntry)
    : Ordered (rows ++ [nextRow host tenantId rows.getLast? entry]) := by
  refine List.pairwise_append.mpr ⟨ordered, List.pairwise_singleton _ _, ?_⟩
  intro r member r' last
  rw [List.mem_singleton.mp last]
  induction rows using List.reverseRec with
  | nil => simp at member
  | append_singleton rows tail _ =>
    rw [List.getLast?_concat]
    rcases List.mem_append.mp member with earlier | here
    · have below := (List.pairwise_append.mp ordered).2.2 r earlier tail (by simp)
      exact Nat.lt_succ_of_lt below
    · rw [List.mem_singleton.mp here]
      exact Nat.lt_succ_self _

end

theorem Ordered.next_free {tenantId : String} (ordered : Ordered (ofTenant tenantId rows)) (host : Host) (entry : VaultEntry) :
    rows.any ((schema host).clash (nextRow host tenantId (ofTenant tenantId rows).getLast? entry)) = false := by
  have later := (List.pairwise_append.mp (ordered.next host tenantId entry)).2.2
  rw [List.any_eq_false]
  intro r member clashes
  simp only [schema, Bool.and_eq_true, beq_iff_eq] at clashes
  have own : r ∈ ofTenant tenantId rows := List.mem_filter.mpr ⟨member, decide_eq_true clashes.1.symm⟩
  exact absurd clashes.2.symm (Nat.ne_of_lt (later r own _ (by simp)))

/-! ### What the queries compute -/

section
variable {subject currency day : String}

private theorem spend_counted {s c amount at_ : String} (counted : s = subject ∧ c = currency ∧ leftTen at_ = day) {n : Nat}
    (usable : scaleAmount amount = .ok n) : (spendOf leftTen s c amount at_).weight ⟨subject, currency, day⟩ = n := by
  obtain ⟨rfl, rfl, rfl⟩ := counted
  rw [Spend.weight, amount_spendOf usable]
  exact if_pos rfl

private theorem spend_uncounted {s c amount at_ : String} (uncounted : ¬(s = subject ∧ c = currency ∧ leftTen at_ = day)) :
    (spendOf leftTen s c amount at_).weight ⟨subject, currency, day⟩ = 0 := by
  rw [Spend.weight, if_neg]
  intro same
  cases same
  exact uncounted ⟨rfl, rfl, rfl⟩

variable {e : VaultEntry}

private theorem addEntry_counted (usable : e.Usable) (counted : countsFor subject currency day e = true) (sum : Int) :
    addEntry sum e = .ok (sum + balance ⟨subject, currency, day⟩ (postings leftTen [e])) := by
  cases e with
  | granted g =>
    obtain ⟨n, amount⟩ := usable
    have which : g.subject = subject ∧ g.currency = currency ∧ leftTen g.at_ = day := by
      simpa [countsFor, and_assoc] using counted
    have weight := spend_counted which amount
    simp only [addEntry, amount, ok_bind]
    rw [← weight]
    simp [postings, VaultEntry.posting, balance, Posting.signed, VaultGrantedEntry.spend]
    rfl
  | released g =>
    obtain ⟨n, amount⟩ := usable
    have which : g.subject = subject ∧ g.currency = currency ∧ leftTen g.at_ = day := by
      simpa [countsFor, and_assoc] using counted
    have weight := spend_counted which amount
    simp only [addEntry, amount, ok_bind]
    rw [← weight]
    simp [postings, VaultEntry.posting, balance, Posting.signed, VaultReleasedEntry.spend, Int.sub_eq_add_neg]
    rfl
  | refused g => cases counted
  | anchored g => cases counted

private theorem balance_uncounted (uncounted : countsFor subject currency day e = false) :
    balance ⟨subject, currency, day⟩ (postings leftTen [e]) = 0 := by
  cases e with
  | granted g =>
    have other : ¬(g.subject = subject ∧ g.currency = currency ∧ leftTen g.at_ = day) := by
      simpa [countsFor, and_assoc] using uncounted
    simpa [postings, VaultEntry.posting, balance, Posting.signed, VaultGrantedEntry.spend] using spend_uncounted other
  | released g =>
    have other : ¬(g.subject = subject ∧ g.currency = currency ∧ leftTen g.at_ = day) := by
      simpa [countsFor, and_assoc] using uncounted
    simpa [postings, VaultEntry.posting, balance, Posting.signed, VaultReleasedEntry.spend] using spend_uncounted other
  | refused g => rfl
  | anchored g => rfl

/-- The sum of a day's rows is the balance of its bucket. -/
theorem foldlM_addEntry {es : List VaultEntry} (usable : ∀ e ∈ es, e.Usable) (sum : Int) :
    (es.filter (countsFor subject currency day)).foldlM addEntry sum =
      .ok (sum + balance ⟨subject, currency, day⟩ (postings leftTen es)) := by
  induction es generalizing sum with
  | nil =>
    rw [show balance ⟨subject, currency, day⟩ (postings leftTen []) = 0 from rfl, Int.add_zero]
    rfl
  | cons e es ih =>
    have later := ih fun f member => usable f (List.mem_cons_of_mem e member)
    have split : balance ⟨subject, currency, day⟩ (postings leftTen (e :: es)) =
        balance ⟨subject, currency, day⟩ (postings leftTen [e]) +
          balance ⟨subject, currency, day⟩ (postings leftTen es) := by
      rw [← List.singleton_append, postings_append, balance_append]
    rw [split]
    by_cases counted : countsFor subject currency day e = true
    · rw [List.filter_cons_of_pos counted, List.foldlM_cons,
        addEntry_counted (usable e List.mem_cons_self) counted, ok_bind, later, Int.add_assoc]
    · rw [List.filter_cons_of_neg counted, later, balance_uncounted (Bool.eq_false_iff.mpr counted), Int.zero_add]

end

theorem foldl_see (id : String) (es : List VaultEntry) :
    (es.filter (concerns id)).foldl GrantState.see .fresh = grantState id es := by
  rw [grantState]
  generalize GrantState.fresh = state
  induction es generalizing state with
  | nil => rfl
  | cons e es ih =>
    cases e with
    | refused r =>
      rw [List.filter_cons_of_neg (by simp [concerns]), ih]
      by_cases own : r.intentId = id
      · simp [VaultEntry.intentId, own, GrantState.see]
      · simp [VaultEntry.intentId, own]
    | granted g => by_cases own : g.intentId = id <;> simp [concerns, VaultEntry.intentId, own, ih]
    | released g => by_cases own : g.intentId = id <;> simp [concerns, VaultEntry.intentId, own, ih]
    | anchored g => by_cases own : g.intentId = id <;> simp [concerns, VaultEntry.intentId, own, ih]

/-! ### Sections over a kept table -/

section
variable {host : Host} {tenantId : String} {rows : List VaultRow} {b : Book String Bucket}

theorem kept_nil : Kept tenantId [] ∅ := ⟨List.Pairwise.nil, accounts_nil⟩

section
variable (kept : Kept tenantId rows b)
include kept

theorem spentOnVia_run (subject currency : String) (at_ : Date) :
    (spentOnVia tenantId subject currency at_).run (schema host) rows [] =
      (utcDayKey at_).map fun day => (unscaleAmount (held ⟨subject, currency, day⟩ b), []) := by
  simp only [spentOnVia, run_bind, run_query]
  cases utcDayKey at_ with
  | error e => rfl
  | ok day =>
    show Except.map _ _ = _
    simp only [List.append_nil]
    have sum : ((entriesOf tenantId rows).filter (countsFor subject currency day)).foldlM addEntry 0 = _ :=
      foldlM_addEntry kept.accounts.usable 0
    rw [show (ofTenant tenantId rows).map VaultRow.entry = entriesOf tenantId rows from rfl, sum, ok_bind,
      kept.accounts.balanced.balance_eq, Int.zero_add]
    rfl

theorem grantStateVia_run (intentId : String) : (grantStateVia tenantId intentId).run (schema host) rows [] =
      .ok (grantState intentId (entriesOf tenantId rows), []) := by
  rw [grantStateVia, run_query, List.append_nil]
  show Except.ok _ = _
  rw [kept.ordered.orderBySeq, foldl_see]
  rfl

theorem hasRecordedVia_run (intentId : String) : (hasRecordedVia tenantId intentId).run (schema host) rows [] =
      .ok ((grantState intentId (entriesOf tenantId rows)).standing.isSome, []) := by
  rw [hasRecordedVia, run_bind, grantStateVia_run kept, ok_bind]
  show Except.ok _ = _
  generalize grantState intentId (entriesOf tenantId rows) = state
  cases released : state.released <;> simp [GrantState.standing, released]

theorem appendVia_run (entry : VaultEntry) : (appendVia host tenantId entry).run (schema host) rows [] =
      .ok (⟨⟩, [nextRow host tenantId (ofTenant tenantId rows).getLast? entry]) := by
  have free := kept.ordered.next_free host entry
  rw [appendVia, run_bind, run_query]
  show Txn.run (schema host) rows (.insert (nextRow host tenantId (lastBySeq (ofTenant tenantId (rows ++ []))) entry) _)
    [] = _
  rw [List.append_nil, kept.ordered.lastBySeq, Txn.run, List.append_nil, if_neg (by simp [free])]
  rfl

theorem recordVia_run (entry : SpendLedgerEntry) : (recordVia host tenantId entry).run (schema host) rows [] =
      if (grantState entry.intentId (entriesOf tenantId rows)).standing.isSome then .ok (⟨⟩, [])
      else (do
        let _ ← scaleAmount entry.amount
        let iso ← toISOString entry.at_
        pure (⟨⟩, [nextRow host tenantId (ofTenant tenantId rows).getLast?
          (.granted ⟨entry.subject, entry.intentId, entry.currency, entry.amount, iso⟩)])) := by
  rw [recordVia, run_bind, hasRecordedVia_run kept, ok_bind]
  split_ifs
  · rfl
  · rw [run_bind, run_lift]
    cases scaleAmount entry.amount with
    | error e => rfl
    | ok n =>
      simp only [Except.map, ok_bind]
      rw [run_bind, run_lift]
      cases toISOString entry.at_ with
      | error e => rfl
      | ok iso => exact appendVia_run kept _

theorem releaseVia_run (input : ReleaseSpendInput) : (releaseVia host tenantId input).run (schema host) rows [] =
      (releasedEntry (grantState input.intentId (entriesOf tenantId rows)) input).map fun entry =>
        (⟨⟩, entry.toList.map (nextRow host tenantId (ofTenant tenantId rows).getLast?)) := by
  rw [releaseVia, run_bind, grantStateVia_run kept, ok_bind, run_bind, run_lift]
  cases releasedEntry (grantState input.intentId (entriesOf tenantId rows)) input with
  | error e => rfl
  | ok entry =>
    cases entry with
    | none => rfl
    | some entry => exact appendVia_run kept entry

end

/-- A section that grants: what both limits had room for, and the row it appends
    unless the intent's spend stands already. -/
structure Grants (strKey : StrKey) (host : Host) (tenantId : String) (rows : List VaultRow) (b : Book String Bucket)
    (request : AuthorisationRequest) (t : TimeValue) (g : AuthorisationGranted) (new : List VaultRow) : Prop where
  eligible : eligible strKey request = .ok (.allowed g.total)
  allowed : Allowed request g.total
    (unscaleAmount (held ⟨request.intent.agent, request.scope.limits.currency, t.dayKey⟩ b))
    (grantState request.intent.intentId (entriesOf tenantId rows)).standing.isSome g
  new : new = if (grantState request.intent.intentId (entriesOf tenantId rows)).standing.isSome then []
    else [nextRow host tenantId (ofTenant tenantId rows).getLast? (.granted
      ⟨request.intent.agent, request.intent.intentId, request.scope.limits.currency, g.total, String.ofList t.text⟩)]

variable {strKey : StrKey} {new : List VaultRow}

theorem authorise_run (kept : Kept tenantId rows b) {request : AuthorisationRequest} {at_ : Date} {d : AuthorisationDecision}
    (ran : (authorise strKey (lockedLedger host tenantId) request at_).run (schema host) rows [] = .ok (d, new)) :
    (∃ r, d = .refused r ∧ new = []) ∨
      ∃ t g, at_ = some t ∧ d = .granted g ∧ Grants strKey host tenantId rows b request t g new := by
  simp only [authorise, LocalPolicyRail.decide, run_bind, bind_eq_ok] at ran
  obtain ⟨⟨decision, w⟩, ⟨⟨check, w'⟩, checked, decided⟩, ran⟩ := ran
  simp only [run_lift, map_eq_ok] at checked
  obtain ⟨check', eligible, same⟩ := checked
  cases same
  cases check with
  | denied r =>
    cases decided
    cases ran
    exact .inl ⟨r, rfl, rfl⟩
  | allowed total =>
    simp only [run_bind, bind_eq_ok] at decided
    obtain ⟨⟨spent, w₁⟩, spentOn, ⟨recorded, w₂⟩, hasRecorded, limits⟩ := decided
    have spentOn' := (spentOnVia_run kept _ _ at_).symm.trans spentOn
    rw [map_eq_ok] at spentOn'
    obtain ⟨day, keyed, same⟩ := spentOn'
    cases same
    have hasRecorded' := (hasRecordedVia_run kept _).symm.trans hasRecorded
    cases hasRecorded'
    simp only [run_lift, map_eq_ok] at limits
    obtain ⟨decision', within, same⟩ := limits
    cases same
    cases decision with
    | refused r =>
      cases ran
      exact .inl ⟨r, rfl, rfl⟩
    | granted g =>
      simp only [run_bind, bind_eq_ok] at ran
      obtain ⟨⟨_, w₃⟩, record, ran⟩ := ran
      cases ran
      obtain ⟨t, rfl, rfl⟩ := utcDayKey_eq_ok keyed
      have allowed := withinLimits_granted within
      refine .inr ⟨t, g, rfl, rfl, ?_, ?_, ?_⟩
      · rw [allowed.sameTotal]
        exact eligible
      · rw [allowed.sameTotal]
        exact allowed
      · have appended := (recordVia_run kept _).symm.trans record
        simp only [toISOString, ok_bind, allowed.sameIntent, allowed.sameCurrency] at appended
        split_ifs at appended with stands
        · cases appended
          rw [if_pos stands]
        · obtain ⟨_, _, same⟩ := bind_eq_ok.mp appended
          cases same
          rw [if_neg stands]

/-! ### What a section does to the book -/

/-- What a section of one tenant replies, appends, and makes of the spends that stand. -/
inductive Outcome (strKey : StrKey) (host : Host) (tenantId : String) (rows : List VaultRow)
    (b : Book String Bucket) : Call → Reply → List VaultRow → Book String Bucket → Prop where
  | refuses {request at_ r} : Outcome strKey host tenantId rows b
      (.authorise tenantId request at_) (.decision (.refused r)) [] b
  | confirms {request t g} (grants : Grants strKey host tenantId rows b request t g [])
      (stands : (grantState request.intent.intentId (entriesOf tenantId rows)).standing.isSome = true) :
      Outcome strKey host tenantId rows b (.authorise tenantId request (some t)) (.decision (.granted g)) [] b
  | charges {request t g new e} (grants : Grants strKey host tenantId rows b request t g new)
      (free : (grantState request.intent.intentId (entriesOf tenantId rows)).standing = none)
      (entry : e = ⟨request.intent.agent, request.intent.intentId, request.scope.limits.currency, g.total,
        String.ofList t.text⟩)
      (appended : new = [nextRow host tenantId (ofTenant tenantId rows).getLast? (.granted e)]) :
      Outcome strKey host tenantId rows b (.authorise tenantId request (some t)) (.decision (.granted g)) new
        (b.insert e.intentId (e.spend leftTen))
  | releasedBefore {input} : Outcome strKey host tenantId rows b (.release tenantId input) .nothing [] b
  | refunds {input g} (stands : (grantState input.intentId (entriesOf tenantId rows)).standing = some g) :
      Outcome strKey host tenantId rows b (.release tenantId input) .nothing
        [nextRow host tenantId (ofTenant tenantId rows).getLast? (.released (g.release input.reason))]
        (b.erase input.intentId)
  | refusal {input at_ e} : Outcome strKey host tenantId rows b (.recordRefusal tenantId input at_) .nothing
      [nextRow host tenantId (ofTenant tenantId rows).getLast? (.refused e)] b
  | anchor {input at_ e} : Outcome strKey host tenantId rows b (.recordAnchor tenantId input at_) .nothing
      [nextRow host tenantId (ofTenant tenantId rows).getLast? (.anchored e)] b

theorem releasedEntry_eq_ok {state : GrantState} {input : ReleaseSpendInput} {entry : Option VaultEntry}
    (appended : releasedEntry state input = .ok entry) :
    entry = none ∨ ∃ g, state.standing = some g ∧ entry = some (.released (g.release input.reason)) := by
  rw [releasedEntry] at appended
  cases released : state.released with
  | true =>
    rw [released] at appended
    cases appended
    exact .inl rfl
  | false =>
    cases granted : state.granted with
    | none => simp [released, granted] at appended
    | some g =>
      simp only [released, granted, Bool.false_eq_true, if_false] at appended
      split_ifs at appended
      cases appended
      exact .inr ⟨g, GrantState.standing_eq_some.mpr ⟨released, granted⟩, rfl⟩

variable {call : Call} {reply : Reply}

theorem locked_outcome (kept : Kept tenantId rows b) {whole : Txn VaultRow VaultRow Thrown Reply}
    (section_ : body host strKey call = .locked tenantId whole) (ran : whole.run (schema host) rows [] = .ok (reply, new)) :
    ∃ b', Outcome strKey host tenantId rows b call reply new b' := by
  cases call with
  | authorise t request at_ =>
    cases section_
    simp only [run_bind, bind_eq_ok] at ran
    obtain ⟨⟨d, w⟩, authorised, ran⟩ := ran
    cases ran
    rcases authorise_run kept authorised with ⟨r, rfl, rfl⟩ | ⟨time, g, rfl, rfl, grants⟩
    · exact ⟨b, .refuses⟩
    · have appended := grants.new
      by_cases stands : (grantState request.intent.intentId (entriesOf tenantId rows)).standing.isSome = true
      · rw [if_pos stands] at appended
        subst appended
        exact ⟨b, .confirms grants stands⟩
      · rw [if_neg stands] at appended
        exact ⟨_, .charges grants (Option.not_isSome_iff_eq_none.mp stands) rfl appended⟩
  | preview t request at_ => cases section_
  | release t input =>
    cases section_
    rw [run_bind, releaseVia_run kept] at ran
    cases appended : releasedEntry (grantState input.intentId (entriesOf tenantId rows)) input with
    | error e =>
      rw [appended] at ran
      cases ran
    | ok entry =>
      rw [appended] at ran
      cases ran
      rcases releasedEntry_eq_ok appended with rfl | ⟨g, stands, rfl⟩
      · exact ⟨b, .releasedBefore⟩
      · exact ⟨_, .refunds stands⟩
  | recordRefusal t input at_ =>
    cases section_
    rw [run_bind, recordRefusal, run_bind, run_lift] at ran
    cases written : toISOString at_ with
    | error e =>
      rw [written] at ran
      cases ran
    | ok iso =>
      rw [written] at ran
      simp only [Except.map, ok_bind, appendVia_run kept] at ran
      cases ran
      exact ⟨b, .refusal⟩
  | recordAnchor t input at_ =>
    cases section_
    rw [run_bind, recordAnchor, run_bind, run_lift] at ran
    cases written : toISOString at_ with
    | error e =>
      rw [written] at ran
      cases ran
    | ok iso =>
      rw [written] at ran
      simp only [Except.map, ok_bind, appendVia_run kept] at ran
      cases ran
      exact ⟨b, .anchor⟩

/-! ### Kept tables stay kept -/

@[simp] theorem ofTenant_append (t : String) (rows new : List VaultRow) :
    ofTenant t (rows ++ new) = ofTenant t rows ++ ofTenant t new :=
  List.filter_append ..

theorem entriesOf_next (tail : Option VaultRow) (entry : VaultEntry) :
    entriesOf tenantId (rows ++ [nextRow host tenantId tail entry]) = entriesOf tenantId rows ++ [entry] := by
  simp [entriesOf, ofTenant, nextRow]

theorem Kept.congr (kept : Kept tenantId rows b) {rows' : List VaultRow}
    (same : ofTenant tenantId rows' = ofTenant tenantId rows) : Kept tenantId rows' b where
  ordered := by
    rw [same]
    exact kept.ordered
  accounts := by
    rw [entriesOf, same]
    exact kept.accounts

variable {b' : Book String Bucket}

theorem Kept.next (kept : Kept tenantId rows b) {entry : VaultEntry}
    (accounts : Accounts leftTen (entriesOf tenantId rows ++ [entry]) b') :
    Kept tenantId (rows ++ [nextRow host tenantId (ofTenant tenantId rows).getLast? entry]) b' where
  ordered := by
    rw [ofTenant_append, show ofTenant tenantId [nextRow host tenantId (ofTenant tenantId rows).getLast? entry] =
      [nextRow host tenantId (ofTenant tenantId rows).getLast? entry] by simp [ofTenant, nextRow]]
    exact kept.ordered.next host tenantId entry
  accounts := by
    rw [entriesOf_next]
    exact accounts

section
variable (outcome : Outcome strKey host tenantId rows b call reply new b')
include outcome

theorem Outcome.kept (kept : Kept tenantId rows b) : Kept tenantId (rows ++ new) b' := by
  cases outcome with
  | refuses => simpa using kept
  | confirms => simpa using kept
  | charges grants free entry appended =>
    subst entry appended
    obtain ⟨n, usable⟩ := eligible_amount grants.eligible
    exact kept.next (kept.accounts.grant ⟨n, scaleAmount_eq_ok.mpr usable⟩ free)
  | releasedBefore => simpa using kept
  | refunds stands => exact kept.next (kept.accounts.release _ stands)
  | refusal => exact kept.next (kept.accounts.note rfl)
  | anchor => exact kept.next (kept.accounts.note rfl)

theorem Outcome.others {t : String} (other : t ≠ tenantId) : ofTenant t (rows ++ new) = ofTenant t rows := by
  have foreign : ∀ entry, ofTenant t [nextRow host tenantId (ofTenant tenantId rows).getLast? entry] = [] := by
    intro entry
    simp [ofTenant, nextRow, Ne.symm other]
  rw [ofTenant_append]
  cases outcome with
  | charges grants free entry appended => simp [appended, foreign]
  | refuses => simp [ofTenant]
  | confirms => simp [ofTenant]
  | releasedBefore => simp [ofTenant]
  | refunds stands => simp [foreign]
  | refusal => simp [foreign]
  | anchor => simp [foreign]

end

end

end AgentPey.PostgresSections
