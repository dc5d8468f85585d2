import AgentPey.ConsentSteps

/-!
What is stored of one hosted-consent session, and what all its requests have read of it: everything pending, read and
recorded is about one mandate, and what is recorded is as its principal has signed it. Each change of the stores keeps
this on its own condition.
-/
namespace AgentPey.ConsentRecords
open Soroban AgentPass PurchaseChecks MandateAnchor RegistryWrites HostedConsent Disciplines ConsentSteps
open Function (update update_of_ne update_self)
open HostedConsent (Request)

/-! ### States -/

/-- A state after another: no transaction is gone, no principal or mandate, and no invitation or what it is for. -/
structure Later (s s' : Consents) : Prop where
  ledger : s.ledger.Extends s'.ledger
  sessions : ∀ session ∈ s.sessions, ∃ session' ∈ s'.sessions, session'.id = session.id ∧ session'.grant = session.grant ∧
    session'.validUntil = session.validUntil
  principals : ∀ principal ∈ s.principals, principal ∈ s'.principals
  mandates : ∀ row ∈ s.mandates, row ∈ s'.mandates

variable (deps : Deps) (id : String)

/-- A mandate that grants exactly what the session proposes, until its end. -/
def Granted (s : Consents) (mandate : WalletMandate) : Prop :=
  ∃ session ∈ s.sessions, session.id = id ∧ mandate.credentialSubject.grant = session.grant ∧
    Dates.toISOString (some session.validUntil) = .ok mandate.validUntil

/-- A pending payload of the session: what it proposes, for the wallet's own DID, signed by it if at all. -/
structure Stored (s : Consents) (payload : PendingConsent) : Prop where
  granted : Granted id s payload.mandate
  principal : stellarAddressToDid deps payload.walletAddress = .ok payload.mandate.issuer
  signed : ∀ signature, payload.signature = some signature → Verified deps payload.mandate signature

/-- A mandate's row: its document is what the session proposes, its signature its principal's over that document, and its
    transaction one that anchored that document's hash. -/
structure Genuine (s : Consents) (row : MandateRecord) : Prop where
  granted : Granted id s row.document
  hash : row.mandateHash = deps.mandateHash row.document
  signed : ∃ principal ∈ s.principals, principal.id = row.principalId ∧ ∃ signature, row.signature = some signature ∧
    deps.wallets.verifyStellarMessage principal.address (mandateChallengeMessage deps row.document) signature = true
  anchored : ∃ issuer, s.ledger.AnchoredBy row.anchorTx issuer row.mandateHash

/-- What is said of the stores. -/
structure Invited (s : Consents) : Prop where
  hashes : (s.mandates.map fun row => row.mandateHash).Nodup
  pending : ∀ payload expiresAt, s.pendingConsents id = some (payload, expiresAt) → Stored deps id s payload
  rows : ∀ row ∈ s.mandates, row.through = some id → Genuine deps id s row
  completed : ∀ session ∈ s.sessions, session.id = id → session.status = .completed →
    ∃ row ∈ s.mandates, row.through = some id ∧ session.mandateId = some row.id

/-- A transaction that anchored the mandate's hash; or the directory has that hash already. -/
def Settled (s : Consents) (transactionHash : String) (mandate : WalletMandate) : Prop :=
  (∃ issuer, s.ledger.AnchoredBy transactionHash issuer (deps.mandateHash mandate)) ∨
    ∃ row ∈ s.mandates, row.mandateHash = deps.mandateHash mandate

/-- What the mode of a request of the session says of the state. -/
structure Stands (s : Consents) (m : Mode) : Prop where
  session : ∀ session, m.session = some session → ∃ row ∈ s.sessions, row.id = id ∧ row.grant = session.grant ∧
    row.validUntil = session.validUntil
  read : ∀ payload, m.read = some payload → Stored deps id s payload
  principal : ∀ principal, m.principal = some principal → principal ∈ s.principals
  sent : ∀ payload transactionHash, m.read = some payload → m.sent = some transactionHash →
    Settled deps s transactionHash payload.mandate
  recorded : ∀ row, m.recorded = some row → row ∈ s.mandates ∧ row.through = some id

/-- A request's mode is its own, and stands when the request is about the session. -/
structure Placed (s : Consents) (c : Request) (m : Mode) : Prop where
  named : m.sessionId = c.consentSessionId
  stands : c.consentSessionId = id → Stands deps id s m

abbrev Modes := List (Request × Option Mode)

/-- All that is pending, read and recorded for the session is one mandate. -/
def Agree (s : Consents) (ms : Modes) : Prop :=
  ∃ mandate : Option WalletMandate,
    (∀ (i : Nat) c m payload, ms[i]? = some (c, some m) → c.consentSessionId = id → m.read = some payload →
      mandate = some payload.mandate) ∧
    (∀ payload expiresAt, s.pendingConsents id = some (payload, expiresAt) → mandate = some payload.mandate) ∧
    ∀ row ∈ s.mandates, row.through = some id → mandate.map deps.mandateHash = some row.mandateHash

section
variable {deps id} {s s' : Consents}

variable {mandate : WalletMandate} {m : Mode}

theorem Granted.later (granted : Granted id s mandate) (later : Later s s') : Granted id s' mandate := by
  obtain ⟨session, member, named, grant, ends⟩ := granted
  obtain ⟨session', member', named', grant', ends'⟩ := later.sessions session member
  exact ⟨session', member', named'.trans named, grant.trans grant'.symm, ends' ▸ ends⟩

theorem Stored.later {payload : PendingConsent} (stored : Stored deps id s payload) (later : Later s s') :
    Stored deps id s' payload := ⟨stored.granted.later later, stored.principal, stored.signed⟩

theorem Genuine.later {row : MandateRecord} (genuine : Genuine deps id s row) (later : Later s s') :
    Genuine deps id s' row where
  granted := genuine.granted.later later
  hash := genuine.hash
  signed := by
    obtain ⟨principal, member, rest⟩ := genuine.signed
    exact ⟨principal, later.principals principal member, rest⟩
  anchored := by
    obtain ⟨issuer, anchored⟩ := genuine.anchored
    exact ⟨issuer, anchored.extends later.ledger⟩

theorem Settled.later {transactionHash : String} (settled : Settled deps s transactionHash mandate)
    (later : Later s s') : Settled deps s' transactionHash mandate := by
  rcases settled with ⟨issuer, anchored⟩ | ⟨row, member, same⟩
  · exact .inl ⟨issuer, anchored.extends later.ledger⟩
  · exact .inr ⟨row, later.mandates row member, same⟩

theorem Stands.later (stands : Stands deps id s m) (later : Later s s') : Stands deps id s' m where
  session session has := by
    obtain ⟨row, member, named, grant, ends⟩ := stands.session session has
    obtain ⟨row', member', named', grant', ends'⟩ := later.sessions row member
    exact ⟨row', member', named'.trans named, grant'.trans grant, ends'.trans ends⟩
  read payload has := (stands.read payload has).later later
  principal principal has := later.principals principal (stands.principal principal has)
  sent payload transactionHash has sent := (stands.sent payload transactionHash has sent).later later
  recorded row has := ⟨later.mandates row (stands.recorded row has).1, (stands.recorded row has).2⟩

theorem Placed.later {c : Request} (placed : Placed deps id s c m) (later : Later s s') :
    Placed deps id s' c m := ⟨placed.named, fun about => (placed.stands about).later later⟩

/-- A state in which the sessions, principals and mandates are the same, and the pending rows of the session are among
    those there were. -/
theorem later_same (ledger : s.ledger.Extends s'.ledger) (sessions : s'.sessions = s.sessions)
    (principals : s'.principals = s.principals) (mandates : s'.mandates = s.mandates) : Later s s' where
  ledger := ledger
  sessions session member := ⟨session, sessions ▸ member, rfl, rfl, rfl⟩
  principals _ member := principals ▸ member
  mandates _ member := mandates ▸ member

theorem Invited.keep (invited : Invited deps id s) (later : Later s s') (mandates : s'.mandates = s.mandates)
    (pending : ∀ payload expiresAt, s'.pendingConsents id = some (payload, expiresAt) →
      s.pendingConsents id = some (payload, expiresAt) ∨ Stored deps id s' payload)
    (completed : ∀ session ∈ s'.sessions, session.id = id → session.status = .completed → session ∈ s.sessions ∨
      ∃ row ∈ s.mandates, row.through = some id ∧ session.mandateId = some row.id) : Invited deps id s' where
  hashes := by
    rw [mandates]
    exact invited.hashes
  pending payload expiresAt found := by
    rcases pending payload expiresAt found with old | stored
    · exact (invited.pending payload expiresAt old).later later
    · exact stored
  rows row member through := by
    rw [mandates] at member
    exact (invited.rows row member through).later later
  completed session member named status := by
    rw [mandates]
    rcases completed session member named status with old | row
    · exact invited.completed session old named status
    · exact row

theorem Agree.keep {ms ms' : Modes} (agree : Agree deps id s ms)
    (pending : ∀ payload expiresAt, s'.pendingConsents id = some (payload, expiresAt) → ∃ payload₀ expiresAt₀,
      s.pendingConsents id = some (payload₀, expiresAt₀) ∧ payload₀.mandate = payload.mandate)
    (rows : ∀ row ∈ s'.mandates, row.through = some id → row ∈ s.mandates)
    (reads : ∀ (i : Nat) c m payload, ms'[i]? = some (c, some m) → c.consentSessionId = id → m.read = some payload →
      (∃ m₀, ms[i]? = some (c, some m₀) ∧ m₀.read = some payload) ∨
        ∃ expiresAt, s.pendingConsents id = some (payload, expiresAt)) : Agree deps id s' ms' := by
  obtain ⟨mandate, read, stored, recorded⟩ := agree
  refine ⟨mandate, fun i c m payload found about has => ?_, fun payload expiresAt found => ?_, fun row member through => ?_⟩
  · rcases reads i c m payload found about has with ⟨m₀, found₀, has₀⟩ | ⟨expiresAt, pending⟩
    · exact read i c m₀ payload found₀ about has₀
    · exact stored payload expiresAt pending
  · obtain ⟨payload₀, expiresAt₀, found₀, same⟩ := pending payload expiresAt found
    rw [← same]
    exact stored payload₀ expiresAt₀ found₀
  · exact recorded row (rows row member through) through

end

/-! ### What an answer leaves -/

/-- A list of modes in which no request has read more. -/
def ReadsNoMore (ms ms' : Modes) : Prop :=
  ∀ (i : Nat) c m payload, ms'[i]? = some (c, some m) → m.read = some payload →
    ∃ m₀, ms[i]? = some (c, some m₀) ∧ m₀.read = some payload

theorem readsNoMore_refl (ms : Modes) : ReadsNoMore ms ms := fun _ _ m _ found has => ⟨m, found, has⟩

theorem readsNoMore_set {ms : Modes} {i : Nat} {c : Request} {m : Mode} {mode : Option Mode}
    (here : ms[i]? = some (c, some m)) (same : ∀ m', mode = some m' → m'.read = m.read) :
    ReadsNoMore ms (ms.set i (c, mode)) := by
  intro j d m' payload found has
  rcases mode_of_set found with ⟨rfl, rfl, rfl⟩ | ⟨_, old⟩
  · exact ⟨m, here, (same m' rfl) ▸ has⟩
  · exact ⟨m', old, has⟩

section
variable {deps id} {s s' : Consents} {ms ms' : Modes}

/-- Nothing more is pending, and no session is completed but with a mandate that came through it. -/
theorem fewer_keeps (later : Later s s') (mandates : s'.mandates = s.mandates)
    (pending : ∀ payload expiresAt, s'.pendingConsents id = some (payload, expiresAt) →
      s.pendingConsents id = some (payload, expiresAt))
    (completed : ∀ session ∈ s'.sessions, session.id = id → session.status = .completed → session ∈ s.sessions ∨
      ∃ row ∈ s.mandates, row.through = some id ∧ session.mandateId = some row.id)
    (invited : Invited deps id s) (agree : Agree deps id s ms) (reads : ReadsNoMore ms ms') :
    Invited deps id s' ∧ Later s s' ∧ Agree deps id s' ms' :=
  ⟨invited.keep later mandates (fun payload expiresAt found => .inl (pending payload expiresAt found)) completed, later,
    agree.keep (fun payload expiresAt found => ⟨payload, expiresAt, pending payload expiresAt found, rfl⟩)
      (fun _ member _ => mandates ▸ member) fun i c m payload found _ has => .inl (reads i c m payload found has)⟩

theorem same_keeps (same : Same s s') (invited : Invited deps id s) (agree : Agree deps id s ms)
    (reads : ReadsNoMore ms ms') : Invited deps id s' ∧ Later s s' ∧ Agree deps id s' ms' := by
  refine fewer_keeps (later_same (same.ledger ▸ .refl _) same.sessions same.principals same.mandates) same.mandates
    (fun payload expiresAt found => ?_) (fun session member _ _ => ?_) invited agree reads
  · rwa [same.pendingConsents] at found
  · rw [same.sessions] at member
    exact .inl member

theorem sent_keeps (writes : Writes) (more : s.ledger.Extends writes.ledger) (invited : Invited deps id s)
    (agree : Agree deps id s ms) (reads : ReadsNoMore ms ms') :
    Invited deps id { s with toWrites := writes } ∧ Later s { s with toWrites := writes } ∧
      Agree deps id { s with toWrites := writes } ms' :=
  fewer_keeps (later_same more rfl rfl rfl) rfl (fun _ _ found => found) (fun _ member _ _ => .inl member) invited agree reads

theorem upsert_keeps (newId address did : String) (invited : Invited deps id s) (agree : Agree deps id s ms)
    (reads : ReadsNoMore ms ms') :
    Invited deps id (s.upsertPrincipal newId address did).2 ∧ Later s (s.upsertPrincipal newId address did).2 ∧
      Agree deps id (s.upsertPrincipal newId address did).2 ms' := by
  unfold Consents.upsertPrincipal
  split
  · exact same_keeps (same_refl s) invited agree reads
  · have later : Later s { s with principals := s.principals ++ [⟨newId, address, did⟩] } :=
      ⟨.refl _, fun session member => ⟨session, member, rfl, rfl, rfl⟩, fun _ member => List.mem_append_left _ member,
        fun _ member => member⟩
    exact fewer_keeps later rfl (fun _ _ found => found) (fun _ member _ _ => .inl member) invited agree reads

theorem upsert_answer (newId address did : String) : (s.upsertPrincipal newId address did).1.address = address ∧
      (s.upsertPrincipal newId address did).1 ∈ (s.upsertPrincipal newId address did).2.principals := by
  unfold Consents.upsertPrincipal
  split
  · rename_i principal found
    exact ⟨by simpa using List.find?_some found, List.mem_of_find?_eq_some found⟩
  · exact ⟨rfl, by simp⟩

theorem clear_keeps (other : String) (invited : Invited deps id s) (agree : Agree deps id s ms) (reads : ReadsNoMore ms ms') :
    let cleared := { s with pendingConsents := update s.pendingConsents other none }
    Invited deps id cleared ∧ Later s cleared ∧ Agree deps id cleared ms' := by
  intro cleared
  refine fewer_keeps (later_same (.refl _) rfl rfl rfl) rfl (fun payload expiresAt found => ?_)
    (fun _ member _ _ => .inl member) invited agree reads
  by_cases same : id = other
  · subst same
    simp [cleared] at found
  · simpa [cleared, update_of_ne same] using found

theorem sweep_keeps (invited : Invited deps id s) (agree : Agree deps id s ms) :
    Invited deps id (outside .sweep s) ∧ Later s (outside .sweep s) ∧ Agree deps id (outside .sweep s) ms :=
  fewer_keeps (later_same (.refl _) rfl rfl rfl) rfl (fun _ _ found => (Option.filter_eq_some_iff.mp found).1)
    (fun _ member _ _ => .inl member) invited agree (readsNoMore_refl ms)

theorem invite_keeps (session : ConsentSession) (invited : Invited deps id s) (agree : Agree deps id s ms) :
    Invited deps id (invite session s) ∧ Later s (invite session s) ∧ Agree deps id (invite session s) ms := by
  unfold invite
  split
  · exact same_keeps (same_refl s) invited agree (readsNoMore_refl ms)
  · have later : Later s { s with sessions := s.sessions ++ [{ session with status := .pending, mandateId := none }] } :=
      ⟨.refl _, fun old member => ⟨old, List.mem_append_left _ member, rfl, rfl, rfl⟩, fun _ member => member,
        fun _ member => member⟩
    refine fewer_keeps later rfl (fun _ _ found => found) (fun old member _ status => ?_) invited agree (readsNoMore_refl ms)
    rcases List.mem_append.mp member with old_ | new
    · exact .inl old_
    · rw [List.mem_singleton.mp new] at status
      cases status

variable {other : String}

/-- A signature is merged into what is pending: it is for the mandate that was read, and all read one mandate. -/
theorem merge_keeps {signature requestId : String} (verified : ∀ payload expiresAt, other = id →
      s.pendingConsents id = some (payload, expiresAt) → Verified deps payload.mandate signature) (invited : Invited deps id s)
    (agree : Agree deps id s ms) (reads : ReadsNoMore ms ms') :
    Invited deps id (s.updatePending other signature requestId) ∧ Later s (s.updatePending other signature requestId) ∧
      Agree deps id (s.updatePending other signature requestId) ms' := by
  unfold Consents.updatePending
  split
  · exact same_keeps (same_refl s) invited agree reads
  · rename_i stored expires there
    split
    · have later : Later s { s with
          pendingConsents := update s.pendingConsents other (some (stored.patch signature requestId, expires)) } :=
        later_same (.refl _) rfl rfl rfl
      refine ⟨invited.keep later rfl (fun payload expiresAt found => ?_) fun _ member _ _ => .inl member, later,
        agree.keep (fun payload expiresAt found => ?_) (fun _ member _ => member)
          fun i c m payload found _ has => .inl (reads i c m payload found has)⟩
      · by_cases same : id = other
        · subst same
          simp only [update_self, Option.some.injEq, Prod.mk.injEq] at found
          obtain ⟨rfl, rfl⟩ := found
          have old := (invited.pending stored expires there).later later
          refine .inr ⟨old.granted, old.principal, ?_⟩
          rintro _ ⟨⟩
          exact verified stored expires rfl there
        · exact .inl (by simpa [update_of_ne same] using found)
      · by_cases same : id = other
        · subst same
          simp only [update_self, Option.some.injEq, Prod.mk.injEq] at found
          obtain ⟨rfl, rfl⟩ := found
          exact ⟨stored, expires, there, rfl⟩
        · exact ⟨payload, expiresAt, by simpa [update_of_ne same] using found, rfl⟩
    · exact same_keeps (same_refl s) invited agree reads

theorem complete_keeps {mandateId : String} (recorded : other = id →
      ∃ row ∈ s.mandates, row.through = some id ∧ mandateId = row.id) (invited : Invited deps id s)
    (agree : Agree deps id s ms) (reads : ReadsNoMore ms ms') :
    Invited deps id (s.completeSession other mandateId) ∧ Later s (s.completeSession other mandateId) ∧
      Agree deps id (s.completeSession other mandateId) ms' := by
  have later : Later s (s.completeSession other mandateId) := by
    refine ⟨.refl _, fun session member => ⟨_, List.mem_map.mpr ⟨session, member, rfl⟩, ?_⟩, fun _ member => member,
      fun _ member => member⟩
    split <;> exact ⟨rfl, rfl, rfl⟩
  refine fewer_keeps later rfl (fun _ _ found => found) (fun session member named status => ?_) invited agree reads
  obtain ⟨old, there, rfl⟩ := List.mem_map.mp member
  by_cases own : old.id = other ∧ old.status = .pending
  · rw [if_pos own] at named ⊢
    obtain ⟨row, recorded, through, same⟩ := recorded (own.1.symm.trans named)
    exact .inr ⟨row, recorded, through, congrArg some same⟩
  · rw [if_neg own]
    exact .inl there

theorem store_keeps {payload : PendingConsent} {expiresAt : Int} (stored : other = id → Stored deps id s payload)
    (unread : other = id → ∀ (i : Nat) c m, ms[i]? = some (c, some m) → c.consentSessionId = id → m.read = none)
    (unrecorded : other = id → ∀ row ∈ s.mandates, row.through ≠ some id) (invited : Invited deps id s)
    (agree : Agree deps id s ms) (reads : ReadsNoMore ms ms') :
    let written := { s with pendingConsents := update s.pendingConsents other (some (payload, expiresAt)) }
    Invited deps id written ∧ Later s written ∧ Agree deps id written ms' := by
  intro written
  have later : Later s written := later_same (.refl _) rfl rfl rfl
  by_cases same : other = id
  · subst same
    refine ⟨invited.keep later rfl (fun found e there => ?_) fun _ member _ _ => .inl member, later, some payload.mandate,
      fun i c m read found about has => ?_, fun found e there => ?_, fun row member through => ?_⟩
    · simp only [written, update_self, Option.some.injEq, Prod.mk.injEq] at there
      obtain ⟨rfl, rfl⟩ := there
      exact .inr ((stored rfl).later later)
    · obtain ⟨m₀, found₀, has₀⟩ := reads i c m read found has
      rw [unread rfl i c m₀ found₀ about] at has₀
      cases has₀
    · simp only [written, update_self, Option.some.injEq, Prod.mk.injEq] at there
      rw [there.1]
    · exact absurd through (unrecorded rfl row member)
  · have others : ∀ found e, written.pendingConsents id = some (found, e) → s.pendingConsents id = some (found, e) := by
      intro found e there
      simpa [written, update_of_ne (Ne.symm same)] using there
    exact ⟨invited.keep later rfl (fun found e there => .inl (others found e there)) fun _ member _ _ => .inl member, later,
      agree.keep (fun found e there => ⟨found, e, others found e there, rfl⟩) (fun _ member _ => member)
        fun i c m read found _ has => .inl (reads i c m read found has)⟩

theorem record_keeps (row : MandateRecord) (fresh : s.mandates.any (·.mandateHash = row.mandateHash) = false)
    (genuine : row.through = some id → Genuine deps id s row)
    (read : row.through = some id → ∃ (i : Nat) (c : Request) (m : Mode) (payload : PendingConsent),
      ms[i]? = some (c, some m) ∧ c.consentSessionId = id ∧ m.read = some payload ∧ row.mandateHash = deps.mandateHash payload.mandate)
    (invited : Invited deps id s) (agree : Agree deps id s ms) (reads : ReadsNoMore ms ms') :
    let written := { s with mandates := s.mandates ++ [row] }
    Invited deps id written ∧ Later s written ∧ Agree deps id written ms' := by
  intro written
  have later : Later s written :=
    ⟨.refl _, fun session member => ⟨session, member, rfl, rfl, rfl⟩, fun _ member => member,
      fun _ member => List.mem_append_left _ member⟩
  have other : ∀ old ∈ s.mandates, old.mandateHash ≠ row.mandateHash := by simpa using fresh
  refine ⟨⟨?_, fun payload expiresAt found => (invited.pending payload expiresAt found).later later,
    fun old member through => ?_, fun session member named status => ?_⟩, later, ?_⟩
  · simp only [written, List.map_append, List.map_cons, List.map_nil, List.nodup_append, List.nodup_cons]
    refine ⟨invited.hashes, by simp, ?_⟩
    simp only [List.mem_map, List.mem_singleton, forall_eq, forall_exists_index, and_imp]
    rintro _ old member rfl
    exact other old member
  · rcases List.mem_append.mp member with old_ | new
    · exact (invited.rows old old_ through).later later
    · rw [List.mem_singleton.mp new] at through ⊢
      exact (genuine through).later later
  · obtain ⟨old, there, rest⟩ := invited.completed session member named status
    exact ⟨old, List.mem_append_left _ there, rest⟩
  · obtain ⟨mandate, asRead, pending, recorded⟩ := agree
    refine ⟨mandate, fun i c m payload found about has => ?_, pending, fun old member through => ?_⟩
    · obtain ⟨m₀, found₀, has₀⟩ := reads i c m payload found has
      exact asRead i c m₀ payload found₀ about has₀
    · rcases List.mem_append.mp member with old_ | new
      · exact recorded old old_ through
      · rw [List.mem_singleton.mp new] at through ⊢
        obtain ⟨i, c, m, payload, found, about, has, same⟩ := read through
        rw [asRead i c m payload found about has, same]
        rfl

end

end AgentPey.ConsentRecords
