import AgentPey.ConsentRecords

/-!
The mandates that are recorded through one hosted-consent session. As long as no start overwrites what a consent or an
anchoring has read, and each anchoring is handed the anchoring of the mandate it read, all requests of the session are
about one mandate: it is recorded once, as its principal has signed it.
-/
namespace AgentPey.ConsentedMandates
open Soroban AgentPass PurchaseChecks MandateAnchor RegistryWrites HostedConsent Disciplines ConsentSteps ConsentRecords
open AgentRegistry (sampleAccount sampleHash)
open Routines (Routine Host System Phase Event step)
open HostedConsent (Request)
open Traces (along exec)

/-! ### Runs that nothing disturbs -/

variable (deps : Deps) (id : String)

abbrev Running := System Request Consents Op Thrown Op.Answer Reply
abbrev Acting := Routines.Action Request Input Outside
abbrev Seen := Event Request Op Thrown Op.Answer Reply

def laterRead (i : Nat) (last : Option PendingConsent) : Seen → Option PendingConsent
  | .answered j _ (.getPending _) (.ok (some payload)) => if j = i then some payload else last
  | _ => last

def lastRead (i : Nat) (t : List Seen) : Option PendingConsent := t.foldl (laterRead i) none

@[simp] theorem lastRead_append (i : Nat) (t : List Seen) (e : Seen) :
    lastRead i (t ++ [e]) = laterRead i (lastRead i t) e := by
  simp [lastRead]

def anchors (envelope : Envelope) (hash : BytesN 32) : Bool :=
  match envelope.call with
  | some (.anchor _ anchored _ _) => anchored = hash
  | _ => false

/-- No request of the session that is under way has read a pending row, and no mandate was recorded through it. -/
def untouched (w : Running) (t : List Seen) : Bool :=
  (w.calls.zipIdx.all fun (call, i) => call.1.consentSessionId ≠ id || call.2.over || (lastRead i t).isNone) &&
    w.shared.mandates.all (·.through ≠ some id)

/-- A transaction anchors the hash of the mandate that was read; or the directory has that hash already. -/
def ownAnchoring (s : Consents) (read : Option PendingConsent) (signedXdr : String) : Bool :=
  read.all fun payload =>
    (deps.wallets.decode signedXdr).any (anchors · (deps.mandateHash payload.mandate)) ||
      s.mandates.any (·.mandateHash = deps.mandateHash payload.mandate)

/-- A start of the session stores its pending row only when the session is untouched; and when an anchoring of it has a
    transaction sent that succeeds, it is the anchoring of the mandate it has read. -/
def undisturbed (w : Running) (t : List Seen) : Acting → Bool
  | .perform i input =>
    match w.calls[i]? with
    | some (c, .waiting (.setPending ..) _) => c.consentSessionId ≠ id || untouched id w t
    | some (c, .waiting (.write (.signAndSend signedXdr)) _) =>
      c.consentSessionId ≠ id ||
        match serveWrite deps.wallets (.signAndSend signedXdr) input.toTrouble w.shared.toWrites with
        | (.ok _, _) => ownAnchoring deps w.shared (lastRead i t) signedXdr
        | _ => true
    | _ => true
  | _ => true

/-- What is said of the state, the requests and the trace. -/
structure Tells (s : Consents) (ms : Modes) (t : List Seen) : Prop where
  invited : Invited deps id s
  agree : Agree deps id s ms
  placed : ∀ (i : Nat) c m, ms[i]? = some (c, some m) → Placed deps id s c m
  reading : ∀ (i : Nat) c m, ms[i]? = some (c, some m) → lastRead i t = m.read
  unborn : ∀ i, ms.length ≤ i → lastRead i t = none

variable {s : Consents} {ms : Modes}

theorem Tells.moved {deps : Deps} {id : String} {s' : Consents} {t : List Seen} (tells : Tells deps id s ms t)
    (kept : Invited deps id s' ∧ Later s s' ∧ Agree deps id s' ms) : Tells deps id s' ms t :=
  ⟨kept.1, kept.2.2, fun i c m found => (tells.placed i c m found).later kept.2.1, tells.reading, tells.unborn⟩

section
variable {deps id} {w : Running} {ms : Modes} {t : List Seen} {i : Nat} {c : Request} {m : Mode} {o : Op}

theorem untouched_unread (aligned : Aligned (steps deps) (fun _ _ _ => True) w.calls ms) (calm : untouched id w t)
    (reading : ∀ (i : Nat) c m, ms[i]? = some (c, some m) → lastRead i t = m.read) :
    ∀ (j : Nat) d m, ms[j]? = some (d, some m) → d.consentSessionId = id → m.read = none := by
  intro j d m found about
  obtain ⟨phase, there, mode⟩ := aligned.call found
  have one := List.all_eq_true.mp (Bool.and_eq_true_iff.mp calm).1 (_, j) (List.mem_zipIdx_iff_getElem?.mpr there)
  have one : phase.over = true ∨ m.read = none := by simpa [about, reading j d m found] using one
  rcases one with finished | unread
  · cases mode.over finished
  · exact unread

theorem after_fixed (m : Mode) (o : Op) (answer : Result o.Answer) : (after m o answer).sessionId = m.sessionId := by
  unfold after
  split <;> rfl

theorem after_read (m : Mode) (o : Op) (answer : Result o.Answer) (i : Nat) (c : Request) :
    laterRead i m.read (.answered i c o answer) = (after m o answer).read := by
  cases o with
  | getPending other =>
    cases answer with
    | error e => rfl
    | ok row =>
      cases row with
      | none => rfl
      | some payload => exact if_pos rfl
  | write o => cases o <;> cases answer <;> rfl
  | findConsentSession other =>
    cases answer with
    | error e => rfl
    | ok row => cases row <;> rfl
  | upsertPrincipal => cases answer <;> rfl
  | recordMandate => cases answer <;> rfl
  | _ => rfl

theorem laterRead_other {i j : Nat} (different : j ≠ i) (last : Option PendingConsent) (c : Request) (o : Op)
    (answer : Result o.Answer) : laterRead i last (.answered j c o answer) = last := by
  unfold laterRead
  split
  · rename_i same
    cases same
    exact if_neg different
  · rfl

/-- A question that leaves the chain and what is stored of the sessions alone. -/
def Plain : Op → Prop
  | .write (.signAndSend _) => False
  | .setPending .. => False
  | .updatePending .. => False
  | .deletePending _ => False
  | .upsertPrincipal .. => False
  | .recordMandate .. => False
  | .completeConsentSession .. => False
  | _ => True

variable {answer : Result o.Answer}

variable {s : Consents} {payload : PendingConsent}

theorem serve_plain {input : Input} {s' : Consents} (plain : Plain o)
    (served : serve deps o input s = some (answer, s')) : Same s s' := by
  have reads {value : o.Answer} (served : some (answerRead input.toTrouble value s) = some (answer, s')) : Same s s' := by
    rw [(answerRead_eq (Option.some.inj served)).1]
    exact same_refl s
  have writes {value : o.Answer} {written : Consents}
      (served : some (answerWrite input.toTrouble value written s) = some (answer, s')) (same : Same s written) : Same s s' := by
    rcases (answerWrite_eq (Option.some.inj served)).1 with rfl | rfl
    · exact same
    · exact same_refl s'
  cases o with
  | write o =>
    obtain ⟨writes, given, rfl⟩ : ∃ writes, serveWrite deps.wallets o input.toTrouble s.toWrites = (answer, writes) ∧
        s' = { s with toWrites := writes } := by
      cases served
      exact ⟨_, rfl, rfl⟩
    rcases serveWrite_cases deps.wallets given with same | ⟨signedXdr, _, rfl, _⟩
    · exact ⟨same, rfl, rfl, rfl, rfl⟩
    · exact plain.elim
  | getWalletAddress => exact reads served
  | setWalletAddress => exact writes served ⟨rfl, rfl, rfl, rfl, rfl⟩
  | deleteWalletAddress => exact writes served ⟨rfl, rfl, rfl, rfl, rfl⟩
  | findConsentSession => exact reads served
  | findTenant => exact reads served
  | findPartner => exact reads served
  | listAgents => exact reads served
  | createAgent => exact writes served ⟨rfl, rfl, rfl, rfl, rfl⟩
  | issue => exact reads served
  | issuerStatus => exact reads served
  | registerIssuer => exact reads served
  | getPending => exact reads served
  | bindPrincipal => exact writes served (same_refl s)
  | recordCredential credential =>
    rw [serve] at served
    split at served
    · cases served
      exact same_refl _
    · exact writes served ⟨rfl, rfl, rfl, rfl, rfl⟩
  | setPending => exact plain.elim
  | updatePending => exact plain.elim
  | deletePending => exact plain.elim
  | upsertPrincipal => exact plain.elim
  | recordMandate => exact plain.elim
  | completeConsentSession => exact plain.elim

/-- What holds once a question is answered. -/
structure Outcome (deps : Deps) (id : String) (s s' : Consents) (ms : Modes) (i : Nat) (c : Request) (m : Mode)
    (o : Op) (answer : Result o.Answer) : Prop where
  known : Known o answer
  invited : Invited deps id s'
  later : Later s s'
  agree : Agree deps id s' (ms.set i (c, some (after m o answer)))
  stands : c.consentSessionId = id → Stands deps id s' (after m o answer)

theorem outcome_of {s' : Consents} (known : Known o answer)
    (kept : Invited deps id s' ∧ Later s s' ∧ Agree deps id s' (ms.set i (c, some (after m o answer))))
    (stands : c.consentSessionId = id → Later s s' → Stands deps id s' (after m o answer)) :
    Outcome deps id s s' ms i c m o answer := ⟨known, kept.1, kept.2.1, kept.2.2, fun about => stands about kept.2.1⟩

variable {input : Input} {s' : Consents}

theorem sent_settled {signedXdr transactionHash : String} {writes : Writes}
    (own : ownAnchoring deps s (some payload) signedXdr)
    (given : serveWrite deps.wallets (.signAndSend signedXdr) input.toTrouble s.toWrites = (.ok transactionHash, writes)) :
    Settled deps { s with toWrites := writes } transactionHash payload.mandate := by
  obtain ⟨envelope, decoded, rfl, sent⟩ := send_ok deps.wallets given
  rw [ownAnchoring, Option.all_some, decoded, Option.any_some] at own
  rcases Bool.or_eq_true_iff.mp own with anchoring | known
  · unfold anchors at anchoring
    split at anchoring
    · rename_i issuer anchored subject expiresAt call
      have same : anchored = deps.mandateHash payload.mandate := by simpa using anchoring
      subst same
      exact .inl ⟨issuer, submit_anchors sent call⟩
    · cases anchoring
  · obtain ⟨row, member, same⟩ := List.any_eq_true.mp known
    exact .inr ⟨row, member, by simpa using same⟩

theorem split_did (address : String) :
    (DID_SCHEME ++ ":" ++ DID_METHOD ++ ":" ++ "testnet" ++ ":" ++ address).toList.splitOn ':' =
      "did".toList :: "stellar".toList :: "testnet".toList :: address.toList.splitOn ':' := by
  obtain ⟨first, others, split⟩ : ∃ first others, address.toList.splitOn ':' = first :: others :=
    List.exists_cons_of_ne_nil (List.splitOn_ne_nil _ _)
  simp [DID_SCHEME, DID_METHOD, String.toList_append, List.splitOn_cons_eq_if_modifyHead, split]

theorem wallet_of_did {address did decoded : String} (made : stellarAddressToDid deps address = .ok did)
    (read : didToStellarAddress deps.keys did = .ok decoded) : decoded = address := by
  unfold stellarAddressToDid at made
  split at made
  · cases made
  · cases made
    rw [didToStellarAddress, AgentPass.bind_eq_ok] at read
    obtain ⟨parsed, parses, read⟩ := read
    cases read
    obtain ⟨first, others, split⟩ : ∃ first others, address.toList.splitOn ':' = first :: others :=
      List.exists_cons_of_ne_nil (List.splitOn_ne_nil _ _)
    rw [parseStellarDid, split_did, split] at parses
    cases others with
    | cons second others => simp at parses
    | nil =>
      have joined : [':'].intercalate (address.toList.splitOn ':') = address.toList := List.intercalate_splitOn ':'
      have whole : first = address.toList := by simpa [split] using joined
      subst whole
      simp only [List.map_cons, List.map_nil, String.ofList_toList] at parses
      split_ifs at parses
      cases parses
      rfl

theorem records_genuine {input : RecordMandateInput} (rowId : String) (stands : Stands deps id s m)
    (records : Records deps m input) (fresh : s.mandates.any (·.mandateHash = input.mandateHash) = false) :
    Genuine deps id s ⟨input, rowId, some id⟩ ∧ ∃ payload, m.read = some payload ∧
      input.mandateHash = deps.mandateHash payload.mandate := by
  obtain ⟨payload, principal, transactionHash, agentId, read, signed, has, address, sent, rfl⟩ := records
  have stored := stands.read payload read
  obtain ⟨signature, signed⟩ := Option.isSome_iff_exists.mp signed
  obtain ⟨signer, decoded, verified⟩ := stored.signed signature signed
  refine ⟨⟨stored.granted, rfl, ⟨principal, stands.principal principal has, rfl, signature, signed, ?_⟩, ?_⟩, payload, read, rfl⟩
  · rw [address, ← wallet_of_did stored.principal decoded]
    exact verified
  · rcases stands.sent payload transactionHash read sent with anchored | ⟨row, member, same⟩
    · exact anchored
    · -- The directory does not have this hash yet.
      have other : ∀ row ∈ s.mandates, row.mandateHash ≠ deps.mandateHash payload.mandate :=
        fun row member same => List.any_eq_false.mp fresh row member (decide_eq_true same)
      exact absurd same (other row member)

section
variable (invited : Invited deps id w.shared) (agree : Agree deps id w.shared ms) (placed : Placed deps id w.shared c m)
  (mode : ms[i]? = some (c, some m))
include invited agree placed mode

theorem outcome_still {answer : Result o.Answer} (known : Known o answer) (changes : after m o answer = m) :
    Outcome deps id w.shared w.shared ms i c m o answer := by
  refine outcome_of known (same_keeps (same_refl _) invited agree (readsNoMore_set mode (by rintro _ ⟨⟩; rw [changes])))
    fun about later => ?_
  rw [changes]
  exact (placed.stands about).later later

theorem outcome_plain (plain : Plain o) (served : serve deps o input w.shared = some (answer, s')) (known : Known o answer)
    (changes : after m o answer = m) : Outcome deps id w.shared s' ms i c m o answer := by
  refine outcome_of known (same_keeps (serve_plain plain served) invited agree ?_) fun about later => ?_
  · exact readsNoMore_set mode (by rintro _ ⟨⟩; rw [changes])
  · rw [changes]
    exact (placed.stands about).later later

variable {other : String}

theorem outcome_session {answer : Result (Op.findConsentSession other).Answer} (may : other = m.sessionId)
    (served : serve deps (.findConsentSession other) input w.shared = some (answer, s')) :
    Outcome deps id w.shared s' ms i c m (.findConsentSession other) answer := by
  cases answer with
  | error e => exact outcome_plain invited agree placed mode trivial served trivial rfl
  | ok row =>
    cases row with
    | none => exact outcome_plain invited agree placed mode trivial served trivial rfl
    | some session =>
      have found := ((answerRead_eq (Option.some.inj served)).2 _ rfl).symm
      have named : session.id = other := by simpa using List.find?_some found
      refine outcome_of named (same_keeps (serve_plain (o := .findConsentSession other) trivial served)
        invited agree (readsNoMore_set mode (by rintro _ ⟨⟩; rfl))) fun about later => ?_
      have stands := (placed.stands about).later later
      refine ⟨?_, stands.read, stands.principal, stands.sent, stands.recorded⟩
      rintro _ ⟨⟩
      obtain ⟨row, member, same, rest⟩ := later.sessions session (List.mem_of_find?_eq_some found)
      exact ⟨row, member, by rw [same, named, may, placed.named, about], rest⟩

theorem outcome_read {answer : Result (Op.getPending other).Answer} (may : other = m.sessionId)
    (served : serve deps (.getPending other) input w.shared = some (answer, s')) :
    Outcome deps id w.shared s' ms i c m (.getPending other) answer := by
  cases answer with
  | error e => exact outcome_plain invited agree placed mode trivial served trivial rfl
  | ok row =>
    cases row with
    | none => exact outcome_plain invited agree placed mode trivial served trivial rfl
    | some payload =>
      obtain ⟨rfl, read⟩ := answerRead_eq (Option.some.inj served)
      have own : c.consentSessionId = id → ∃ expiresAt, w.shared.pendingConsents id = some (payload, expiresAt) := by
        intro about
        have found := (read _ rfl).symm
        rw [may, placed.named, about, Consents.getPending, Option.bind_eq_some_iff] at found
        obtain ⟨⟨stored, expiresAt⟩, there, alive⟩ := found
        dsimp only at alive
        split_ifs at alive
        cases alive
        exact ⟨expiresAt, there⟩
      have later : Later w.shared w.shared := later_same (.refl _) rfl rfl rfl
      refine outcome_of trivial ⟨invited, later, agree.keep (fun stored e there => ⟨stored, e, there, rfl⟩)
        (fun _ member _ => member) fun j d m' read found about has => ?_⟩ fun about _ => ?_
      · rcases mode_of_set found with ⟨rfl, rfl, same⟩ | ⟨_, old⟩
        · cases same
          cases has
          exact .inr (own about)
        · exact .inl ⟨m', old, has⟩
      · have stands := placed.stands about
        obtain ⟨expiresAt, there⟩ := own about
        refine ⟨stands.session, ?_, ?_, ?_, ?_⟩
        · rintro _ ⟨⟩
          exact invited.pending payload expiresAt there
        · rintro _ ⟨⟩
        · rintro _ _ _ ⟨⟩
        · rintro _ ⟨⟩

theorem outcome_send {signedXdr : String} {answer : Result String} {rest : Result String → Work Reply}
    (here : w.calls[i]? = some (c, .waiting (.write (.signAndSend signedXdr)) rest)) (reading : lastRead i t = m.read)
    (calm : undisturbed deps id w t (.perform i input))
    (served : serve deps (.write (.signAndSend signedXdr)) input w.shared = some (answer, s')) :
    Outcome deps id w.shared s' ms i c m (.write (.signAndSend signedXdr)) answer := by
  obtain ⟨writes, given, rfl⟩ : ∃ writes,
      serveWrite deps.wallets (.signAndSend signedXdr) input.toTrouble w.shared.toWrites = (answer, writes) ∧
        s' = { w.shared with toWrites := writes } := by
    cases served
    exact ⟨_, rfl, rfl⟩
  refine outcome_of trivial (sent_keeps _ (serveWrite_extends deps.wallets given) invited agree (readsNoMore_set mode ?_))
    fun about later => ?_
  · rintro _ ⟨⟩
    cases answer <;> rfl
  · have stands := (placed.stands about).later later
    cases answer with
    | error e => exact stands
    | ok hash =>
      refine ⟨stands.session, stands.read, stands.principal, ?_, stands.recorded⟩
      rintro payload transactionHash has ⟨⟩
      have own : ownAnchoring deps w.shared (lastRead i t) signedXdr := by
        simpa [undisturbed, here, about, given] using calm
      rw [reading, show m.read = some payload from has] at own
      exact sent_settled own given

theorem outcome_update {other signature requestId : String} {answer : Result PUnit}
    (may : May deps m (.updatePending other signature requestId))
    (served : serve deps (.updatePending other signature requestId) input w.shared = some (answer, s')) :
    Outcome deps id w.shared s' ms i c m (.updatePending other signature requestId) answer := by
  obtain ⟨rfl, payload, has, verified⟩ := may
  have reads : ReadsNoMore ms (ms.set i (c, some m)) := readsNoMore_set mode (by rintro _ ⟨⟩; rfl)
  rcases (answerWrite_eq (Option.some.inj served)).1 with rfl | rfl
  · refine outcome_of trivial (merge_keeps (fun stored expiresAt about there => ?_) invited agree reads) fun about later =>
      (placed.stands about).later later
    obtain ⟨mandate, read, pending, _⟩ := agree
    have same := (read i c m payload mode (placed.named.symm.trans about) has).symm.trans (pending stored expiresAt there)
    rw [← Option.some.inj same]
    exact verified
  · exact outcome_still invited agree placed mode trivial rfl

theorem outcome_clear {answer : Result PUnit} (served : serve deps (.deletePending other) input w.shared = some (answer, s')) :
    Outcome deps id w.shared s' ms i c m (.deletePending other) answer := by
  have reads : ReadsNoMore ms (ms.set i (c, some m)) := readsNoMore_set mode (by rintro _ ⟨⟩; rfl)
  rcases (answerWrite_eq (Option.some.inj served)).1 with rfl | rfl
  · exact outcome_of trivial (clear_keeps other invited agree reads) fun about later => (placed.stands about).later later
  · exact outcome_still invited agree placed mode trivial rfl

theorem outcome_upsert {newId address did : String} {answer : Result Principal}
    (served : serve deps (.upsertPrincipal newId address did) input w.shared = some (answer, s')) :
    Outcome deps id w.shared s' ms i c m (.upsertPrincipal newId address did) answer := by
  have reads : ReadsNoMore ms (ms.set i (c, some (after m (.upsertPrincipal newId address did) answer))) := by
    apply readsNoMore_set mode
    rintro _ ⟨⟩
    cases answer <;> rfl
  obtain ⟨address_, there⟩ := upsert_answer (s := w.shared) newId address did
  rcases answerWrite_cases (Option.some.inj served) with ⟨rfl, given⟩ | ⟨rfl, e, rfl⟩
  · refine outcome_of ?_ (upsert_keeps newId address did invited agree reads) fun about later => ?_
    · cases answer with
      | error e => trivial
      | ok principal =>
        rw [given principal rfl]
        exact address_
    · have stands := (placed.stands about).later later
      cases answer with
      | error e => exact stands
      | ok principal =>
        refine ⟨stands.session, stands.read, ?_, stands.sent, stands.recorded⟩
        rintro _ ⟨⟩
        rw [given principal rfl]
        exact there
  · exact outcome_still invited agree placed mode trivial rfl

theorem outcome_record {rowId through : String} {mandate : RecordMandateInput} {answer : Result MandateRecord}
    (may : May deps m (.recordMandate rowId mandate through))
    (served : serve deps (.recordMandate rowId mandate through) input w.shared = some (answer, s')) :
    Outcome deps id w.shared s' ms i c m (.recordMandate rowId mandate through) answer := by
  have reads : ReadsNoMore ms (ms.set i (c, some (after m (.recordMandate rowId mandate through) answer))) := by
    apply readsNoMore_set mode
    rintro _ ⟨⟩
    cases answer <;> rfl
  obtain ⟨rfl, records⟩ := may
  rw [serve] at served
  split at served
  · cases served
    exact outcome_still invited agree placed mode trivial rfl
  · rename_i fresh
    have fresh : w.shared.mandates.any (·.mandateHash = mandate.mandateHash) = false := by simpa using fresh
    rcases answerWrite_cases (Option.some.inj served) with ⟨rfl, given⟩ | ⟨rfl, e, rfl⟩
    · have own (through : (some m.sessionId : Option String) = some id) : c.consentSessionId = id :=
        placed.named.symm.trans (Option.some.inj through)
      refine outcome_of trivial (record_keeps _ fresh (fun through => ?_) (fun through => ?_) invited agree reads) fun about later => ?_
      · have genuine := (records_genuine rowId (placed.stands (own through)) records fresh).1
        rw [Option.some.inj through]
        exact genuine
      · obtain ⟨payload, read, same⟩ := (records_genuine rowId (placed.stands (own through)) records fresh).2
        exact ⟨i, c, m, payload, mode, own through, read, same⟩
      · have stands := (placed.stands about).later later
        cases answer with
        | error e => exact stands
        | ok row =>
          refine ⟨stands.session, stands.read, stands.principal, stands.sent, ?_⟩
          rintro _ ⟨⟩
          rw [given row rfl]
          exact ⟨by simp, by rw [placed.named, about]⟩
    · exact outcome_still invited agree placed mode trivial rfl

theorem outcome_complete {other mandateId : String} {answer : Result ConsentSession}
    (may : May deps m (.completeConsentSession other mandateId))
    (served : serve deps (.completeConsentSession other mandateId) input w.shared = some (answer, s')) :
    Outcome deps id w.shared s' ms i c m (.completeConsentSession other mandateId) answer := by
  have reads : ReadsNoMore ms (ms.set i (c, some m)) := readsNoMore_set mode (by rintro _ ⟨⟩; rfl)
  obtain ⟨rfl, row, recorded, rfl⟩ := may
  rw [serve] at served
  split at served
  · cases served
    exact outcome_still invited agree placed mode trivial rfl
  · rcases (answerWrite_eq (Option.some.inj served)).1 with rfl | rfl
    · refine outcome_of trivial (complete_keeps (fun about => ?_) invited agree reads) fun about later =>
        (placed.stands about).later later
      obtain ⟨member, through⟩ := (placed.stands (placed.named.symm.trans about)).recorded row recorded
      exact ⟨row, member, through, rfl⟩
    · exact outcome_still invited agree placed mode trivial rfl

end

section
variable (tells : Tells deps id w.shared ms t) (aligned : Aligned (steps deps) (fun _ _ _ => True) w.calls ms)
   (mode : ms[i]? = some (c, some m))
include tells aligned mode

theorem outcome_store {expiresAt : Int} {answer : Result PUnit} {rest : Result PUnit → Work Reply}
    (here : w.calls[i]? = some (c, .waiting (.setPending other payload expiresAt) rest))
    (may : May deps m (.setPending other payload expiresAt)) (calm : undisturbed deps id w t (.perform i input))
    (served : serve deps (.setPending other payload expiresAt) input w.shared = some (answer, s')) :
    Outcome deps id w.shared s' ms i c m (.setPending other payload expiresAt) answer := by
  have placed := tells.placed i c m mode
  obtain ⟨rfl, unsigned, session, has, built⟩ := may
  have reads : ReadsNoMore ms (ms.set i (c, some m)) := readsNoMore_set mode (by rintro _ ⟨⟩; rfl)
  rcases (answerWrite_eq (Option.some.inj served)).1 with rfl | rfl
  · have calm (about : m.sessionId = id) : untouched id w t := by
      simpa [undisturbed, here, placed.named.symm.trans about] using calm
    refine outcome_of trivial (store_keeps (fun about => ?_) (fun about => ?_) (fun about => ?_) tells.invited tells.agree reads)
      fun about later => (placed.stands about).later later
    · obtain ⟨row, member, named, grant, ends⟩ := (placed.stands (placed.named.symm.trans about)).session session has
      refine ⟨⟨row, member, named, built.grant.trans grant.symm, ends ▸ built.validUntil⟩, built.principal, ?_⟩
      rw [unsigned]
      rintro _ ⟨⟩
    · exact untouched_unread aligned (calm about) tells.reading
    · simpa using (Bool.and_eq_true_iff.mp (calm about)).2
  · exact outcome_still tells.invited tells.agree placed mode trivial rfl

theorem served {rest : Result o.Answer → Work Reply} (here : w.calls[i]? = some (c, .waiting o rest)) (may : May deps m o)
    (calm : undisturbed deps id w t (.perform i input)) (served : serve deps o input w.shared = some (answer, s'))
    : Outcome deps id w.shared s' ms i c m o answer := by
  have invited := tells.invited
  have agree := tells.agree
  have placed := tells.placed i c m mode
  cases o with
  | write o =>
    cases o with
    | signAndSend => exact outcome_send invited agree placed mode here (tells.reading i c m mode) calm served
    | _ => exact outcome_plain invited agree placed mode trivial served trivial rfl
  | findConsentSession => exact outcome_session invited agree placed mode may served
  | setPending => exact outcome_store tells aligned mode here may calm served
  | getPending => exact outcome_read invited agree placed mode may served
  | updatePending => exact outcome_update invited agree placed mode may served
  | deletePending => exact outcome_clear invited agree placed mode served
  | upsertPrincipal => exact outcome_upsert invited agree placed mode served
  | recordMandate => exact outcome_record invited agree placed mode may served
  | completeConsentSession => exact outcome_complete invited agree placed mode may served
  | _ => exact outcome_plain invited agree placed mode trivial served trivial rfl

end

theorem outside_keeps (invited : Invited deps id s) (agree : Agree deps id s ms) (k : Outside) :
    Invited deps id (outside k s) ∧ Later s (outside k s) ∧ Agree deps id (outside k s) ms := by
  have reads := readsNoMore_refl ms
  have same {s' : Consents} (same : Same s s') := same_keeps same invited agree reads
  cases k with
  | clock now ledgerTime =>
    exact sent_keeps { s.toWrites with now := now, ledger := { s.ledger with time := ledgerTime } }
      ⟨rfl, List.prefix_refl _⟩ invited agree reads
  | challenge nonce => exact same ⟨rfl, rfl, rfl, rfl, rfl⟩
  | sweep => exact sweep_keeps invited agree
  | pend requestId write => exact same ⟨rfl, rfl, rfl, rfl, rfl⟩
  | send envelope =>
    rw [outside]
    split
    · rename_i ledger sent
      exact sent_keeps { s.toWrites with ledger := ledger } (submit_extends sent) invited agree reads
    · exact same (same_refl s)
  | tenant tenant => exact same ⟨rfl, rfl, rfl, rfl, rfl⟩
  | partner partner => exact same ⟨rfl, rfl, rfl, rfl, rfl⟩
  | invite session => exact invite_keeps session invited agree
  | mandate rowId mandate =>
    rw [outside, recordElsewhere]
    split
    · exact same (same_refl s)
    · rename_i fresh
      exact record_keeps ⟨mandate, rowId, none⟩ (by simpa using fresh) (by rintro ⟨⟩) (by rintro ⟨⟩) invited agree reads

end

theorem keeps_consents :
    Keeps (host deps) (steps deps) (fun _ _ _ => True) (Tells deps id) (fun _ => Tells deps id)
      fun w t a => undisturbed deps id w t a where
  start {w ms t c} tells _ _ := by
    refine ⟨_, obeys_route c, tells.invited, ?_, fun i d m found => ?_, fun i d m found => ?_, fun i later => ?_⟩
    · refine tells.agree.keep (fun payload e there => ⟨payload, e, there, rfl⟩) (fun _ member _ => member)
        fun i d m payload found _ has => ?_
      rcases mode_of_append found with ⟨_, rfl, same⟩ | old
      · cases same
        cases has
      · exact .inl ⟨m, old, has⟩
    · rcases mode_of_append found with ⟨_, rfl, same⟩ | old
      · cases same
        exact ⟨rfl, fun _ => ⟨(by rintro _ ⟨⟩), (by rintro _ ⟨⟩), (by rintro _ ⟨⟩), (by rintro _ _ ⟨⟩), by rintro _ ⟨⟩⟩⟩
      · exact tells.placed i d m old
    · rcases mode_of_append found with ⟨rfl, rfl, same⟩ | old
      · cases same
        exact tells.unborn _ (Nat.le_refl _)
      · exact tells.reading i d m old
    · rw [List.length_append, List.length_singleton] at later
      exact tells.unborn i (by omega)
  resume tells _ _ := tells
  sync {s ms t i c m s' m'} tells mode step := by
    obtain ⟨same, rfl⟩ := step
    rw [set_same mode]
    exact tells.moved (same_keeps same tells.invited tells.agree (readsNoMore_refl ms))
  ask {s ms t i c m o m' w a calls} tells mode asks _ _ _ := by
    obtain ⟨_, rfl⟩ := asks
    rw [set_same mode]
    exact ⟨tells.invited, tells.agree, tells.placed, fun j d m found => by simpa [laterRead] using tells.reading j d m found,
      fun j later => by simpa [laterRead] using tells.unborn j later⟩
  serve {w ms t i c m m₀ o rest input answer s'} tells aligned mode here calm asks performed := by
    obtain ⟨may, rfl⟩ := asks
    obtain ⟨known, invited, later, agree, stands⟩ := served tells aligned mode here may calm performed
    refine ⟨known, invited, agree, fun j d m' found => ?_, fun j d m' found => ?_, fun j late => ?_⟩
    · rcases mode_of_set found with ⟨rfl, rfl, same⟩ | ⟨_, old⟩
      · cases same
        exact ⟨(after_fixed m o answer).trans (tells.placed j d m mode).named, stands⟩
      · exact (tells.placed j d m' old).later later
    · rw [lastRead_append]
      rcases mode_of_set found with ⟨rfl, rfl, same⟩ | ⟨different, old⟩
      · cases same
        rw [tells.reading j d m mode]
        exact after_read m o answer j d
      · rw [laterRead_other (Ne.symm different)]
        exact tells.reading j d m' old
    · obtain ⟨inside, _⟩ := List.getElem?_eq_some_iff.mp mode
      rw [List.length_set] at late
      rw [lastRead_append, laterRead_other (by omega)]
      exact tells.unborn j late
  finish {s ms t i c m result w a calls} tells mode _ _ _ := by
    refine ⟨tells.invited, ?_, fun j d m' found => ?_, fun j d m' found => ?_, fun j late => ?_⟩
    · exact (same_keeps (same_refl s) tells.invited tells.agree (readsNoMore_set mode (by rintro _ ⟨⟩))).2.2
    · rcases mode_of_set found with ⟨_, _, same⟩ | ⟨_, old⟩
      · cases same
      · exact tells.placed j d m' old
    · rcases mode_of_set found with ⟨_, _, same⟩ | ⟨_, old⟩
      · cases same
      · simpa [laterRead] using tells.reading j d m' old
    · rw [List.length_set] at late
      simpa [laterRead] using tells.unborn j late
  outside tells _ := tells.moved (outside_keeps tells.invited tells.agree _)
  crash {w ms t} tells _ _ := by
    refine ⟨tells.invited, tells.agree.keep (fun payload e there => ⟨payload, e, there, rfl⟩) (fun _ member _ => member)
      fun i c m payload found _ _ => ?_, fun i c m found => ?_, fun i c m found => ?_, fun i late => ?_⟩
    · cases mode_of_kill found
    · cases mode_of_kill found
    · cases mode_of_kill found
    · exact tells.unborn i (by simpa using late)

/-! ### What is recorded -/

/-- At most one mandate was recorded through the session; a completed session names it; and it is genuine. -/
structure Consented (s : Consents) : Prop where
  once : (s.mandates.filter fun row => row.through = some id).length ≤ 1
  named : ∀ session ∈ s.sessions, session.id = id → session.status = .completed →
    ∃ row ∈ s.mandates, row.through = some id ∧ session.mandateId = some row.id
  genuine : ∀ row ∈ s.mandates, row.through = some id → Genuine deps id s row

theorem length_le_one {α β : Type} {f : α → β} {l : List α} (nodup : (l.map f).Nodup) (same : ∀ a ∈ l, ∀ b ∈ l, f a = f b) :
    l.length ≤ 1 := by
  match l, nodup, same with
  | [], _, _ => simp
  | [_], _, _ => simp
  | a :: b :: rest, nodup, same =>
    rw [List.map_cons, List.map_cons] at nodup
    exact absurd (List.mem_cons.mpr (.inl (same a (by simp) b (by simp)))) (List.nodup_cons.mp nodup).1

/-- What is stored and read of the session being one genuine mandate, it was recorded once. -/
theorem consented_of {deps : Deps} {id : String} (invited : Invited deps id s)
    (agree : Agree deps id s ms) : Consented deps id s := by
  refine ⟨length_le_one (f := fun row : MandateRecord => row.mandateHash) (invited.hashes.sublist (List.filter_sublist.map _)) ?_,
    invited.completed, invited.rows⟩
  intro a a_ b b_
  simp only [List.mem_filter, decide_eq_true_eq] at a_ b_
  obtain ⟨mandate, _, _, recorded⟩ := agree
  exact Option.some.inj ((recorded a a_.1 a_.2).symm.trans (recorded b b_.1 b_.2))

/-- In every run in which no start stores over what was read or recorded, and each transaction that an anchoring has sent
    anchors the mandate it read, the session's mandate is recorded once, as its principal signed it. -/
theorem consents_recorded (admin : Address) (actions : List Acting)
    (calm : ∀ before a after, actions = before ++ a :: after →
      undisturbed deps id (exec (step (host deps)) ⟨opened admin, []⟩ before).1
        (exec (step (host deps)) ⟨opened admin, []⟩ before).2 a) :
    Consented deps id (exec (step (host deps)) ⟨opened admin, []⟩ actions).1.shared := by
  have start : Holds (steps deps) (fun _ _ _ => True) (Tells deps id) (⟨opened admin, []⟩ : Running) [] := by
    refine ⟨[], ⟨⟨List.nodup_nil, ?_, ?_, ?_⟩, ⟨none, ?_, ?_, ?_⟩, ?_, ?_, fun _ _ => rfl⟩, aligned_nil⟩
    · rintro _ _ ⟨⟩
    · rintro _ ⟨⟩
    · rintro _ ⟨⟩
    · rintro i c m payload found
      simp at found
    · rintro _ _ ⟨⟩
    · rintro _ ⟨⟩
    · rintro i c m found
      simp at found
    · rintro i c m found
      simp at found
  obtain ⟨ms, tells, _⟩ := kept_along (keeps_consents deps id) start actions calm
  exact consented_of tells.invited tells.agree

/-! ### One invitation -/

def wallet : Address := sampleAccount 2
def mandateHash : BytesN 32 := filled 2

/-- What the wallet has signed: its mandate's anchoring, or a transaction that is about something else. -/
def signedEnvelope (xdr : String) : Option Envelope :=
  if xdr = "anchoring" then
    some ⟨"anchor-tx", some (.anchor wallet mandateHash (sampleAccount 4) 1000), fun a => decide (a = wallet)⟩
  else if xdr = "payment" then some ⟨"payment-tx", none, fun a => decide (a = wallet)⟩
  else none

def sampleDeps : Deps where
  wallets := ⟨"registry", fun _ _ signature => signature = "signature", signedEnvelope, fun _ => "unsigned"⟩
  keys := ⟨⟨fun address => !address.isEmpty, fun _ => false⟩, fun _ => none⟩
  mandateHash _ := mandateHash
  grantRefusal _ := none
  issuerAddress := "GISSUER"
  agentAddress _ := "GAGENT"
  requestIds n := "request-" ++ toString n
  ids n := "id-" ++ toString n

def invitation : ConsentSession where
  id := "session"
  tenantId := "tenant"
  status := .pending
  grant := ⟨⟨[], [], [], ⟨"1", "1", "USDC"⟩⟩, none, none⟩
  validUntil := ⟨86400000, by decide⟩
  expiresAt := 3600000
  mandateId := none

def goOn (i : Nat) : List Acting :=
  (List.replicate 12 [.perform i ⟨fine, ⟨"jws", sampleHash, "credential-tx"⟩, ⟨true, true⟩⟩, .resume i]).flatten

/-- The wallet is verified, the session started and signed, and this transaction sent for its anchoring. -/
def anchoredBy (signedXdr : String) : List Acting :=
  ([.outside (.send ⟨"tx", some (.register_issuer wallet sampleHash), fun _ => true⟩), .outside (.tenant ⟨"tenant", "partner"⟩),
    .outside (.partner ⟨"partner", "Partner"⟩), .outside (.invite invitation), .outside (.challenge "nonce")] : List Acting) ++
  .start (.verify "session" (some "GWALLET") (some "nonce") (some "signature")) :: goOn 0 ++
  .start (.start "session") :: goOn 1 ++
  .start (.consent "session" (some "signature")) :: goOn 2 ++
  .start (.anchor "session" (some "request-0") (some signedXdr)) :: goOn 3

theorem consents_recorded_sample :
    Consented sampleDeps "session"
        (exec (step (host sampleDeps)) ⟨opened (sampleAccount 1), []⟩ (anchoredBy "anchoring")).1.shared ∧
      (exec (step (host sampleDeps)) ⟨opened (sampleAccount 1), []⟩ (anchoredBy "anchoring")).1.shared.mandates.map
        (fun row => row.anchorTx) = ["anchor-tx"] :=
  ⟨consents_recorded sampleDeps "session" (sampleAccount 1) (anchoredBy "anchoring")
    (Traces.along_run (show along _ (fun w t a => undisturbed sampleDeps "session" w t a) _ [] (anchoredBy "anchoring")
      from by decide +kernel)), by decide +kernel⟩

def isAnchoring (landed : String × AgentRegistry.Action) : Bool :=
  match landed.2.call with
  | .anchor .. => true
  | _ => false

/-- A transaction that anchors nothing is sent for the anchoring: the mandate is recorded all the same. -/
theorem recorded_unanchored : ¬Consented sampleDeps "session"
    (exec (step (host sampleDeps)) ⟨opened (sampleAccount 1), []⟩ (anchoredBy "payment")).1.shared := by
  rintro ⟨_, _, genuine⟩
  have recorded : (exec (step (host sampleDeps)) ⟨opened (sampleAccount 1), []⟩ (anchoredBy "payment")).1.shared.mandates.any
      (fun row => row.through = some "session") = true := by
    decide +kernel
  obtain ⟨row, member, through⟩ := List.any_eq_true.mp recorded
  obtain ⟨issuer, before, env, subject, expiresAt, after, landed, _⟩ := (genuine row member (of_decide_eq_true through)).anchored
  have nothing : (exec (step (host sampleDeps)) ⟨opened (sampleAccount 1), []⟩ (anchoredBy "payment")).1.shared.ledger.landed.any
      isAnchoring = false := by
    decide +kernel
  rw [landed] at nothing
  simp [isAnchoring] at nothing

end AgentPey.ConsentedMandates
