import AgentPey.Disciplines
import AgentPey.HostedRevocations

/-!
What the directory's revocations say of the chain. A submit marks the mandate that its URL names, under the hash of
whatever transaction it was handed. When that transaction revokes the mandate's own hash, which stood until then, a mark
is the chain's.
-/
namespace AgentPey.MirroredRevocations
open Soroban AgentPass AgentRegistry RegistryWrites HostedRevocations Disciplines
open Routines (Routine Host System Phase Event step)
open Traces (along exec)

/-! ### The discipline -/

/-- What a request has found and sent: the mandate its URL names, that mandate's hash, and the transaction. -/
structure Mode where
  mandateId : String
  found : Option (BytesN 32)
  sent : Option String

/-- The chain and the mandates are left alone. -/
structure Same (s s' : Hosted) : Prop where
  ledger : s'.ledger = s.ledger
  mandates : s'.mandates = s.mandates
  deliveries : s'.deliveries = s.deliveries

/-- A mandate is read by the URL's id; a transaction is sent once it was found; and what is marked is what was found,
    under what was sent. -/
def May (m : Mode) : Op → Prop
  | .findMandateById id => id = m.mandateId
  | .write (.signAndSend _) => m.found.isSome
  | .revokeMandate mandateHash revokeTx _ _ => m.found = some mandateHash ∧ m.sent = some revokeTx
  | _ => True

def Known : (o : Op) → Result o.Answer → Prop
  | .findMandateById id, .ok (some mandate) => mandate.id = id
  | _, _ => True

def after (m : Mode) : (o : Op) → Result o.Answer → Mode
  | .findMandateById _, .ok (some mandate) => { m with found := some mandate.mandateHash, sent := none }
  | .write (.signAndSend _), .ok hash => { m with sent := some hash }
  | _, _ => m

def mirrors : Discipline Hosted Op Thrown Op.Answer Mode where
  sync m s s' m' := Same s s' ∧ m' = m
  ask m o m' := May m o ∧ m' = m
  expects := Known
  answer := after

section
variable {α β : Type} {m : Mode}

variable {o : Op}

theorem keeps_ask (may : May m o) : Obeys mirrors m (ask o) :=
  ⟨m, ⟨may, rfl⟩, fun _ _ => follows_ofExcept trivial⟩

theorem same_ask (may : May m o) (same : ∀ answer, after m o answer = m) : Follows mirrors m (ask o) fun m' _ => m' = m :=
  ⟨m, ⟨may, rfl⟩, fun answer _ => follows_ofExcept (same answer)⟩

theorem same_now : Follows mirrors m now fun m' _ => m' = m := fun _ => ⟨m, ⟨⟨rfl, rfl, rfl⟩, rfl⟩, rfl⟩

variable (deps : Deps)

theorem same_newRequestId : Follows mirrors m (newRequestId deps) fun m' _ => m' = m :=
  fun _ => ⟨m, ⟨⟨rfl, rfl, rfl⟩, rfl⟩, rfl⟩

theorem same_newEventId : Follows mirrors m (newEventId deps) fun m' _ => m' = m :=
  fun _ => ⟨m, ⟨⟨rfl, rfl, rfl⟩, rfl⟩, rfl⟩

theorem keeps_caught {work : Work Reply} (keeps : Obeys mirrors m work) : Obeys mirrors m (caught work) := by
  apply Obeys.anyhow (Follows.attempt keeps)
  intro m result
  cases result <;> trivial

variable {id : String}

theorem keeps_requireMandate (named : m.mandateId = id) : Obeys mirrors m (requireMandate id) := by
  apply Obeys.anyhow (keeps_ask (o := .findMandateById id) named.symm)
  intro m mandate
  cases mandate with
  | none => trivial
  | some mandate => trivial

theorem keeps_proveOwnership (named : m.mandateId = id) (proof : WalletProof) :
    Obeys mirrors m (proveOwnership deps id proof) := by
  apply Obeys.anyhow (keeps_requireMandate named)
  intro m mandate
  apply Obeys.anyhow (keeps_ask (o := .write (.takeChallenge _)) trivial)
  intro m taken
  split
  · trivial
  · split
    · trivial
    · apply Obeys.anyhow (keeps_ask (o := .findPrincipalByAddress _) trivial)
      intro m principal
      split
      · trivial
      · trivial

theorem keeps_stashForSigning (write : PendingWrite) :
    Obeys mirrors m (stashForSigning askWrite (newRequestId deps) now write) := by
  apply Obeys.anyhow (keeps_ask (o := .write (.simulate write)) trivial)
  intro m xdr
  apply Obeys.anyhow ((same_newRequestId deps).imp fun _ _ _ => trivial)
  intro m requestId
  apply Obeys.anyhow (same_now.imp fun _ _ _ => trivial)
  intro m savedAt
  apply Obeys.anyhow (keeps_ask (o := .write (.save ..)) trivial)
  intro m _
  trivial

theorem keeps_prepareRoute (named : m.mandateId = id) (proof : WalletProof) :
    Obeys mirrors m (prepareRoute deps id proof) := by
  apply keeps_caught
  apply Obeys.anyhow (keeps_proveOwnership deps named proof)
  intro m mandate
  apply Obeys.anyhow (same_now.imp fun _ _ _ => trivial)
  intro m checkedAt
  apply Obeys.anyhow (follows_lift trivial)
  intro m _
  apply Obeys.anyhow (keeps_stashForSigning deps _)
  intro m _
  exact Obeys.anyhow (same_now.imp fun _ _ _ => trivial) fun _ _ => trivial

theorem follows_submitSigned (hash : BytesN 32) (found : m.found = some hash) (requestId signedXdr : String) :
    Follows mirrors m (submitSigned deps.wallets askWrite requestId signedXdr) fun m' result =>
      ∀ revokeTx, result = .ok revokeTx → m'.found = some hash ∧ m'.sent = some revokeTx := by
  apply Follows.seq (same_ask (o := .write (.take requestId)) trivial fun _ => rfl)
  · rintro m' write rfl
    cases write with
    | none =>
      rintro _ ⟨⟩
    | some write =>
      apply Follows.seq (same_ask (o := .write (.simulate write)) trivial fun _ => rfl)
      · rintro m' _ rfl
        refine ⟨m', ⟨by simp [May, found], rfl⟩, fun answer _ => ?_⟩
        cases answer with
        | ok hash =>
          rintro _ ⟨⟩
          exact ⟨found, rfl⟩
        | error e =>
          rintro _ ⟨⟩
      · rintro _ _ _ _ ⟨⟩
  · rintro _ _ _ _ ⟨⟩

theorem keeps_submitRoute (named : m.mandateId = id) (requestId signedXdr : String) :
    Obeys mirrors m (submitRoute deps id requestId signedXdr) := by
  apply keeps_caught
  refine ⟨m, ⟨named.symm, rfl⟩, fun answer _ => ?_⟩
  cases answer with
  | error e => trivial
  | ok mandate =>
    cases mandate with
    | none => trivial
    | some mandate =>
      apply Follows.seq (follows_submitSigned deps mandate.mandateHash rfl requestId signedXdr)
      · intro m' revokeTx sent
        obtain ⟨found, sent⟩ := sent revokeTx rfl
        apply Follows.seq same_now
        · rintro m' revokedAt rfl
          apply Follows.seq (same_newEventId deps)
          · rintro m' eventId rfl
            exact Obeys.anyhow (keeps_ask ⟨found, sent⟩) fun _ _ => trivial
          · exact fun _ _ _ => trivial
        · exact fun _ _ _ => trivial
      · exact fun _ _ _ => trivial

theorem keeps_route (request : Request) : Obeys mirrors ⟨request.mandateId, none, none⟩ (route deps request) := by
  unfold route
  split
  · exact keeps_prepareRoute deps rfl _
  · trivial
  · exact keeps_submitRoute deps rfl _ _
  · trivial

end

/-! ### The directory and the chain -/

/-- A state after another: no transaction is gone, and no mandate or mark. -/
structure Later (s s' : Hosted) : Prop where
  ledger : s.ledger.Extends s'.ledger
  rows : ∀ row ∈ s.mandates, ∃ row' ∈ s'.mandates, row'.id = row.id ∧ row'.mandateHash = row.mandateHash ∧
    (row.revokedAt.isSome → row'.revokedAt.isSome)

/-- Each mark is the chain's: the recorded transaction revoked the mandate's own hash, signed by who anchored it. And each
    queued event is about a marked mandate. -/
structure Mirrored (s : Hosted) : Prop where
  ids : (s.mandates.map MandateRecord.id).Nodup
  hashes : (s.mandates.map MandateRecord.mandateHash).Nodup
  marked : ∀ row ∈ s.mandates, row.revokedAt.isSome → ∃ revokeTx principal, row.revokeTx = some revokeTx ∧
    s.ledger.RevokedBy revokeTx principal row.mandateHash
  queued : ∀ delivery ∈ s.deliveries, delivery.type = "mandate.revoked" →
    ∃ row ∈ s.mandates, row.id = delivery.mandateId ∧ row.revokedAt.isSome

/-- A hash that this transaction revoked, or whose mandate is marked already. -/
def Settled (s : Hosted) (revokeTx : String) (hash : BytesN 32) : Prop :=
  (∃ principal, s.ledger.RevokedBy revokeTx principal hash) ∨
    ∃ row ∈ s.mandates, row.mandateHash = hash ∧ row.revokedAt.isSome

/-- What the mode of a request says of the state. -/
structure Placed (s : Hosted) (c : Request) (m : Mode) : Prop where
  named : m.mandateId = c.mandateId
  found : ∀ hash, m.found = some hash → ∃ row ∈ s.mandates, row.id = m.mandateId ∧ row.mandateHash = hash
  sent : ∀ hash revokeTx, m.found = some hash → m.sent = some revokeTx → Settled s revokeTx hash

section
variable {s s' : Hosted}

theorem later_same (ledger : s.ledger.Extends s'.ledger) (mandates : s'.mandates = s.mandates) : Later s s' := by
  refine ⟨ledger, fun row member => ⟨row, ?_, rfl, rfl, id⟩⟩
  rw [mandates]
  exact member

theorem Mirrored.same (mirrored : Mirrored s) (ledger : s.ledger.Extends s'.ledger) (mandates : s'.mandates = s.mandates)
    (deliveries : s'.deliveries = s.deliveries) : Mirrored s' where
  ids := mandates ▸ mirrored.ids
  hashes := mandates ▸ mirrored.hashes
  marked row member marked := by
    rw [mandates] at member
    obtain ⟨revokeTx, principal, recorded, revoked⟩ := mirrored.marked row member marked
    exact ⟨revokeTx, principal, recorded, revoked.extends ledger⟩
  queued delivery member type := by
    rw [deliveries] at member
    rw [mandates]
    exact mirrored.queued delivery member type

theorem Settled.later {revokeTx : String} {hash : BytesN 32} (settled : Settled s revokeTx hash) (later : Later s s') :
    Settled s' revokeTx hash := by
  rcases settled with ⟨principal, revoked⟩ | ⟨row, member, same, marked⟩
  · exact .inl ⟨principal, revoked.extends later.ledger⟩
  · obtain ⟨row', member', _, same', marked'⟩ := later.rows row member
    exact .inr ⟨row', member', same'.trans same, marked' marked⟩

theorem Placed.later {c : Request} {m : Mode} (placed : Placed s c m) (later : Later s s') : Placed s' c m where
  named := placed.named
  found hash found := by
    obtain ⟨row, member, id, same⟩ := placed.found hash found
    obtain ⟨row', member', id', same', _⟩ := later.rows row member
    exact ⟨row', member', id'.trans id, same'.trans same⟩
  sent hash revokeTx found sent := (placed.sent hash revokeTx found sent).later later

variable {mandateHash : BytesN 32} {revokeTx : String} {at_ : Int} {eventId : String}

theorem later_mark : Later s (markRevoked mandateHash revokeTx at_ eventId s) := by
  refine ⟨.refl _, fun row member => ⟨_, List.mem_map.mpr ⟨row, member, rfl⟩, ?_⟩⟩
  split
  · exact ⟨rfl, rfl, fun _ => rfl⟩
  · exact ⟨rfl, rfl, id⟩

theorem mark_keeps {α : Type} {f : MandateRecord → α} (same : ∀ row, f (row.revoke revokeTx at_) = f row) :
    (markRevoked mandateHash revokeTx at_ eventId s).mandates.map f = s.mandates.map f := by
  rw [markRevoked, List.map_map]
  apply List.map_congr_left
  intro row _
  dsimp only [Function.comp]
  split
  · exact same row
  · rfl

theorem Mirrored.mark (mirrored : Mirrored s) (settled : Settled s revokeTx mandateHash) :
    Mirrored (markRevoked mandateHash revokeTx at_ eventId s) where
  ids := by
    rw [mark_keeps fun _ => rfl]
    exact mirrored.ids
  hashes := by
    rw [mark_keeps fun _ => rfl]
    exact mirrored.hashes
  marked row' member marked := by
    obtain ⟨row, here, rfl⟩ := List.mem_map.mp member
    by_cases found : stands mandateHash row
    · rw [if_pos found]
      obtain ⟨same, standing⟩ : row.mandateHash = mandateHash ∧ row.revokedAt.isNone := by simpa [stands] using found
      rcases settled with ⟨principal, revoked⟩ | ⟨other, there, same', marked'⟩
      · exact ⟨revokeTx, principal, rfl, by rw [← same] at revoked; exact revoked⟩
      · -- The mandate of this hash is this one, and it stood.
        have one : other = row := List.inj_on_of_nodup_map mirrored.hashes there here (same'.trans same.symm)
        rw [one] at marked'
        simp [Option.isNone_iff_eq_none.mp standing] at marked'
    · rw [if_neg found] at marked ⊢
      exact mirrored.marked row here marked
  queued delivery member type := by
    rcases List.mem_append.mp member with old | new
    · obtain ⟨row, there, id, marked⟩ := mirrored.queued delivery old type
      obtain ⟨row', there', id', _, marked'⟩ := (later_mark (s := s)).rows row there
      exact ⟨row', there', id'.trans id, marked' marked⟩
    · obtain ⟨row, there, queued⟩ := List.mem_flatMap.mp new
      obtain ⟨endpoint, _, rfl⟩ := List.mem_map.mp queued
      obtain ⟨member, found⟩ := List.mem_filter.mp there
      exact ⟨_, List.mem_map.mpr ⟨row, member, rfl⟩, by rw [if_pos found]; exact ⟨rfl, rfl⟩⟩

theorem record_mirrored (mirrored : Mirrored s) (mandate : MandateRecord) :
    Mirrored (recordMandate mandate s) ∧ Later s (recordMandate mandate s) := by
  rw [recordMandate]
  split
  · exact ⟨mirrored, later_same (.refl _) rfl⟩
  · rename_i new
    have other : ∀ row ∈ s.mandates, row.id ≠ mandate.id ∧ row.mandateHash ≠ mandate.mandateHash := by simpa using new
    refine ⟨⟨?_, ?_, ?_, ?_⟩, ⟨.refl _, fun row member => ⟨row, List.mem_append_left _ member, rfl, rfl, id⟩⟩⟩
    · simp only [List.map_append, List.map_cons, List.map_nil, List.nodup_append, List.nodup_cons]
      refine ⟨mirrored.ids, by simp, ?_⟩
      simp only [List.mem_map, List.mem_singleton, forall_eq, forall_exists_index, and_imp]
      rintro _ row member rfl
      exact (other row member).1
    · simp only [List.map_append, List.map_cons, List.map_nil, List.nodup_append, List.nodup_cons]
      refine ⟨mirrored.hashes, by simp, ?_⟩
      simp only [List.mem_map, List.mem_singleton, forall_eq, forall_exists_index, and_imp]
      rintro _ row member rfl
      exact (other row member).2
    · intro row member marked
      rcases List.mem_append.mp member with old | new
      · exact mirrored.marked row old marked
      · rw [List.mem_singleton.mp new] at marked
        cases marked
    · intro delivery member type
      obtain ⟨row, there, rest⟩ := mirrored.queued delivery member type
      exact ⟨row, List.mem_append_left _ there, rest⟩

end

/-! ### Whole runs -/

variable (deps : Deps)

abbrev Hosting := System Request Hosted Op Thrown Op.Answer Reply
abbrev Acting := Routines.Action Request Trouble Outside

def revokes (envelope : Envelope) (hash : BytesN 32) : Bool :=
  match envelope.call with
  | some (.revoke _ revoked) => revoked = hash
  | _ => false

/-- A transaction sent for a mandate revokes that mandate's own hash, which stands; or the mandate is marked already. -/
def ownRevocation (s : Hosted) (mandateId signedXdr : String) : Bool :=
  (s.mandates.find? (·.id = mandateId)).any fun mandate =>
    mandate.revokedAt.isSome ||
      ((deps.wallets.decode signedXdr).any (revokes · mandate.mandateHash) && !s.ledger.revoked mandate.mandateHash)

/-- Whenever a submit has a transaction sent that succeeds, it is the revocation of the mandate its URL names. -/
def revokesOwn (w : Hosting) : Acting → Bool
  | .perform i trouble =>
    match w.calls[i]? with
    | some (c, .waiting (.write (.signAndSend signedXdr)) _) =>
      match serveWrite deps.wallets (.signAndSend signedXdr) trouble w.shared.toWrites with
      | (.ok _, _) => ownRevocation deps w.shared c.mandateId signedXdr
      | _ => true
    | _ => true
  | _ => true

variable {s s' : Hosted} {ms : List (Request × Option Mode)} {i : Nat} {c : Request} {trouble : Trouble}

theorem placed_set {mode : Option Mode} (placed : ∀ (j : Nat) d m, ms[j]? = some (d, some m) → Placed s d m)
    (here : ∀ m, mode = some m → Placed s c m) :
    ∀ (j : Nat) d m, (ms.set i (c, mode))[j]? = some (d, some m) → Placed s d m := by
  intro j d m found
  rcases mode_of_set found with ⟨rfl, rfl, same⟩ | ⟨_, old⟩
  · exact here m same.symm
  · exact placed j d m old

theorem sent_settled {writes : Writes} {mandateId signedXdr revokeTx : String} {hash : BytesN 32}
    (ids : (s.mandates.map MandateRecord.id).Nodup) (own : ownRevocation deps s mandateId signedXdr)
    (found : ∃ row ∈ s.mandates, row.id = mandateId ∧ row.mandateHash = hash)
    (served : serveWrite deps.wallets (.signAndSend signedXdr) trouble s.toWrites = (.ok revokeTx, writes)) :
    Settled { s with toWrites := writes } revokeTx hash := by
  obtain ⟨row, member, id, rfl⟩ := found
  obtain ⟨envelope, decoded, rfl, sent⟩ := send_ok deps.wallets served
  obtain ⟨mandate, first, own⟩ := (Option.any_eq_true _ _).mp own
  have one : mandate = row := by
    apply List.inj_on_of_nodup_map ids (List.mem_of_find?_eq_some first) member
    rw [id]
    simpa using List.find?_some first
  subst one
  rcases Bool.or_eq_true_iff.mp own with marked | own
  · exact .inr ⟨mandate, member, rfl, marked⟩
  · obtain ⟨revoking, standing⟩ := Bool.and_eq_true_iff.mp own
    rw [decoded, Option.any_some, revokes] at revoking
    split at revoking
    · rename_i principal revoked call
      have same : revoked = mandate.mandateHash := by simpa using revoking
      subst same
      exact .inl ⟨principal, submit_revokes sent call (by simpa using standing)⟩
    · cases revoking

theorem served {w : Hosting} {m m₀ : Mode} {o : Op} {rest : Result o.Answer → Work Reply} {answer : Result o.Answer}
    (mirrored : Mirrored w.shared) (placed : Placed w.shared c m) (here : w.calls[i]? = some (c, .waiting o rest))
    (own : revokesOwn deps w (.perform i trouble)) (may : May m₀ o ∧ m = m₀)
    (served : serve deps o trouble w.shared = some (answer, s')) :
    Known o answer ∧ Mirrored s' ∧ Later w.shared s' ∧ Placed s' c (after m o answer) := by
  obtain ⟨may, rfl⟩ := may
  cases o with
  | findMandateById id =>
    obtain ⟨rfl, read⟩ := answerRead_eq (Option.some.inj served)
    cases answer with
    | error e => exact ⟨trivial, mirrored, later_same (.refl _) rfl, placed⟩
    | ok found =>
      cases found with
      | none => exact ⟨trivial, mirrored, later_same (.refl _) rfl, placed⟩
      | some mandate =>
        have found := (read _ rfl).symm
        have same : mandate.id = id := by simpa using List.find?_some found
        refine ⟨same, mirrored, later_same (.refl _) rfl, ⟨placed.named, ?_, ?_⟩⟩
        · rintro hash ⟨⟩
          exact ⟨mandate, List.mem_of_find?_eq_some found, same.trans may, rfl⟩
        · rintro hash revokeTx _ ⟨⟩
  | findPrincipalByAddress address =>
    obtain ⟨rfl, _⟩ := answerRead_eq (Option.some.inj served)
    exact ⟨trivial, mirrored, later_same (.refl _) rfl, placed⟩
  | revokeMandate mandateHash revokeTx at_ eventId =>
    obtain ⟨marked | same, _⟩ := answerWrite_eq (Option.some.inj served)
    · rw [marked]
      exact ⟨trivial, mirrored.mark (placed.sent _ _ may.1 may.2), later_mark, placed.later later_mark⟩
    · rw [same]
      exact ⟨trivial, mirrored, later_same (.refl _) rfl, placed⟩
  | write o =>
    obtain ⟨writes, given, rfl⟩ : ∃ writes, serveWrite deps.wallets o trouble w.shared.toWrites = (answer, writes) ∧
        s' = { w.shared with toWrites := writes } := by
      cases served
      exact ⟨_, rfl, rfl⟩
    have later : Later w.shared { w.shared with toWrites := writes } :=
      ⟨serveWrite_extends deps.wallets given, fun row member => ⟨row, member, rfl, rfl, id⟩⟩
    have mirrored : Mirrored { w.shared with toWrites := writes } := mirrored.same later.ledger rfl rfl
    cases o with
    | takeChallenge => exact ⟨trivial, mirrored, later, placed.later later⟩
    | simulate => exact ⟨trivial, mirrored, later, placed.later later⟩
    | save => exact ⟨trivial, mirrored, later, placed.later later⟩
    | take => exact ⟨trivial, mirrored, later, placed.later later⟩
    | signAndSend signedXdr =>
      cases answer with
      | error e => exact ⟨trivial, mirrored, later, placed.later later⟩
      | ok hash =>
        refine ⟨trivial, mirrored, later, ⟨placed.named, (placed.later later).found, ?_⟩⟩
        rintro own_hash revokeTx found ⟨⟩
        simp only [revokesOwn, here, given] at own
        exact sent_settled deps mirrored.ids own (placed.named ▸ placed.found own_hash found) given

/-- What is said of the state and the requests in it. -/
def Tells (s : Hosted) (ms : List (Request × Option Mode)) : Prop :=
  Mirrored s ∧ ∀ (i : Nat) c m, ms[i]? = some (c, some m) → Placed s c m

theorem Tells.later (tells : Tells s ms) (mirrored : Mirrored s')
    (later : Later s s') : Tells s' ms := ⟨mirrored, fun i c m found => (tells.2 i c m found).later later⟩

theorem outside_mirrored (mirrored : Mirrored s) (k : Outside) : Mirrored (outside k s) ∧ Later s (outside k s) := by
  have same {s' : Hosted} (ledger : s.ledger.Extends s'.ledger) (mandates : s'.mandates = s.mandates)
      (deliveries : s'.deliveries = s.deliveries) : Mirrored s' ∧ Later s s' :=
    ⟨mirrored.same ledger mandates deliveries, later_same ledger mandates⟩
  cases k with
  | clock now ledgerTime => exact same ⟨rfl, List.prefix_refl _⟩ rfl rfl
  | challenge nonce => exact same (.refl _) rfl rfl
  | pend requestId write => exact same (.refl _) rfl rfl
  | send envelope =>
    rw [outside]
    split
    · rename_i ledger sent
      exact same (submit_extends sent) rfl rfl
    · exact same (.refl _) rfl rfl
  | principal principal => exact same (.refl _) rfl rfl
  | mandate mandate => exact record_mirrored mirrored mandate
  | tenant tenant => exact same (.refl _) rfl rfl
  | endpoints endpoints => exact same (.refl _) rfl rfl

theorem keeps_mirrored :
    Keeps (host deps) mirrors (fun _ _ _ => True) (fun s ms _ => Tells s ms) (fun _ s ms _ => Tells s ms)
      fun w _ a => revokesOwn deps w a where
  start {w ms t c} tells _ _ := by
    refine ⟨_, keeps_route deps c, tells.1, fun i d m found => ?_⟩
    rcases mode_of_append found with ⟨_, rfl, same⟩ | old
    · cases same
      exact ⟨rfl, (by rintro _ ⟨⟩), by rintro _ _ ⟨⟩⟩
    · exact tells.2 i d m old
  resume tells _ _ := tells
  sync {s ms t i c m s' m'} tells mode step := by
    obtain ⟨same, rfl⟩ := step
    have later := later_same (same.ledger ▸ .refl _) same.mandates
    refine ⟨tells.1.same later.ledger same.mandates same.deliveries, ?_⟩
    rw [set_same mode]
    exact fun j d m found => (tells.2 j d m found).later later
  ask {s ms t i c m o m' w a calls} tells mode asks _ _ _ := by
    obtain ⟨_, rfl⟩ := asks
    rw [set_same mode]
    exact tells
  serve {w ms t i c m m₀ o rest trouble answer s'} tells _ mode here own asks performed := by
    obtain ⟨known, mirrored, later, placed⟩ := served deps tells.1 (tells.2 i c m mode) here own asks performed
    refine ⟨known, mirrored, placed_set (fun j d m found => (tells.2 j d m found).later later) ?_⟩
    rintro _ ⟨⟩
    exact placed
  finish tells _ _ _ _ := ⟨tells.1, placed_set tells.2 fun _ impossible => by cases impossible⟩
  outside tells _ := tells.later (outside_mirrored tells.1 _).1 (outside_mirrored tells.1 _).2
  crash tells _ _ := ⟨tells.1, fun i c m found => by cases mode_of_kill found⟩

/-- Every mandate that the directory has marked is revoked in the registry, by the recorded transaction, which its issuer
    there has signed; and an event of it is queued for marked mandates only. -/
def MirrorsChain (s : Hosted) : Prop :=
  (∀ row ∈ s.mandates, row.revokedAt.isSome → ∃ revokeTx principal, row.revokeTx = some revokeTx ∧
    s.ledger.RevokedBy revokeTx principal row.mandateHash ∧ ∀ now, status now s.ledger.world row.mandateHash = .Revoked) ∧
  ∀ delivery ∈ s.deliveries, delivery.type = "mandate.revoked" →
    ∃ row ∈ s.mandates, row.id = delivery.mandateId ∧ row.revokedAt.isSome

/-- In every run in which each transaction that a submit has sent is the standing mandate's own revocation, the directory
    mirrors the chain at every moment. -/
theorem revocations_mirrored (admin : Address) (actions : List Acting)
    (own : ∀ before a after, actions = before ++ a :: after →
      revokesOwn deps (exec (step (host deps)) ⟨opened admin, []⟩ before).1 a) :
    MirrorsChain (exec (step (host deps)) ⟨opened admin, []⟩ actions).1.shared := by
  have start : Holds mirrors (fun _ _ _ => True) (fun s ms _ => Tells s ms) (⟨opened admin, []⟩ : Hosting) [] := by
    refine ⟨[], ⟨⟨List.nodup_nil, List.nodup_nil, ?_, ?_⟩, fun i c m found => by simp at found⟩, aligned_nil⟩
    · rintro row ⟨⟩
    · rintro delivery ⟨⟩
  obtain ⟨ms, ⟨mirrored, _⟩, _⟩ := kept_along (keeps_mirrored deps) start actions own
  refine ⟨fun row member marked => ?_, mirrored.queued⟩
  obtain ⟨revokeTx, principal, recorded, revoked⟩ := mirrored.marked row member marked
  exact ⟨revokeTx, principal, recorded, revoked, revoked.status⟩

/-! ### Two mandates -/

def principalOf (n : UInt8) : Address := sampleAccount n
def hashOf (n : UInt8) : BytesN 32 := filled n

def signed (account : Address) (hash : String) (call : Call) : Envelope := ⟨hash, some call, fun a => decide (a = account)⟩

/-- The wallet of principal 2 has signed the revocation of its own mandate. -/
def revocation : Envelope := signed (principalOf 2) "revoke-2" (.revoke (principalOf 2) (hashOf 2))

def sampleDeps : Deps where
  wallets := ⟨"registry", fun _ _ _ => true, fun xdr => if xdr = "signed" then some revocation else none, fun _ => "unsigned"⟩
  requestIds n := "request-" ++ toString n
  eventIds n := "event-" ++ toString n

def sampleMandate (id : String) (n : UInt8) : MandateRecord where
  id := id
  tenantId := "tenant"
  agentId := "agent"
  principalId := "principal"
  mandateHash := hashOf n
  document := ⟨"did", "2026-01-01", "2027-01-01", ⟨"agent", ⟨⟨[], [], [], ⟨"1", "1", "USDC"⟩⟩, none, none⟩⟩⟩
  validUntil := ⟨1000000, by decide⟩
  anchorTx := "anchor"
  revokedAt := none
  revokeTx := none

/-- Two principals have anchored a mandate each, and the revocation of the first one's is pending. -/
def twoMandates : List Acting :=
  ([signed (principalOf 1) "tx" (.register_issuer (principalOf 2) sampleHash),
    signed (principalOf 1) "tx" (.register_issuer (principalOf 3) sampleHash),
    signed (principalOf 2) "tx" (.anchor (principalOf 2) (hashOf 2) (principalOf 4) 1000),
    signed (principalOf 3) "tx" (.anchor (principalOf 3) (hashOf 3) (principalOf 4) 1000)].map (.outside <| .send ·) :
      List Acting) ++
  ([.outside (.mandate (sampleMandate "first" 2)), .outside (.mandate (sampleMandate "second" 3)),
    .outside (.pend "request" (.revoke "G2" (hashOf 2)))] : List Acting)

def submitted (mandateId : String) : List Acting :=
  twoMandates ++ .start (.submit mandateId (some "request") (some "signed")) ::
    (List.replicate 5 [.perform 0 fine, .resume 0]).flatten

theorem revocations_mirrored_sample :
    MirrorsChain (exec (step (host sampleDeps)) ⟨opened (principalOf 1), []⟩ (submitted "first")).1.shared ∧
      (exec (step (host sampleDeps)) ⟨opened (principalOf 1), []⟩ (submitted "first")).1.shared.mandates.map
        MandateRecord.revokeTx = [some "revoke-2", none] :=
  ⟨revocations_mirrored sampleDeps (principalOf 1) (submitted "first")
    (Traces.along_run (show along _ (fun w _ a => revokesOwn sampleDeps w a) _ [] (submitted "first") from by
      decide +kernel)), by decide +kernel⟩

/-- Under the other mandate's URL it marks that mandate, which nobody has revoked. -/
theorem revoked_by_another :
    ¬MirrorsChain (exec (step (host sampleDeps)) ⟨opened (principalOf 1), []⟩ (submitted "second")).1.shared := by
  rintro ⟨mirrors, _⟩
  have marked : (exec (step (host sampleDeps)) ⟨opened (principalOf 1), []⟩ (submitted "second")).1.shared.mandates.any
      (fun row => row.revokedAt.isSome && row.mandateHash = hashOf 3) = true := by
    decide +kernel
  obtain ⟨row, member, marked⟩ := List.any_eq_true.mp marked
  obtain ⟨marked, same⟩ := Bool.and_eq_true_iff.mp marked
  obtain ⟨_, _, _, _, revoked⟩ := mirrors row member marked
  have active : status 0 (exec (step (host sampleDeps)) ⟨opened (principalOf 1), []⟩
      (submitted "second")).1.shared.ledger.world (hashOf 3) = .Active := by
    decide +kernel
  rw [of_decide_eq_true same] at revoked
  rw [revoked 0] at active
  cases active

end AgentPey.MirroredRevocations
