import AgentPey.Disciplines
import Mathlib.Data.List.Pairwise
import Mathlib.Data.List.Sort
import Mathlib.Algebra.Ring.Int.Defs
import Mathlib.Algebra.Ring.Nat

/-!
Each tenant's own agent: `ensureTenantAgent` of `web/src/tenant-agent.ts` over `createAgent` and `listAgents` of
`directory/src/directory.ts`, called by any number of processes over one directory. A call looks the agent up, inserts it
when there is none, and looks again when anything failed. The tenant is not among the unique columns of `directory_agents`.
-/
namespace AgentPey.TenantAgents
open Routines Disciplines

/-! ### The directory -/

/-- A row of `directory_agents`, without its rail and its dates. -/
structure AgentInstance where
  id : String
  tenantId : String
  keyIndex : Nat
  address : String
  did : String
  label : Option String
  status : String
  onchainState : String
  deriving DecidableEq

/-- What no update changes of a row. -/
structure Identity where
  id : String
  tenantId : String
  keyIndex : Nat
  address : String
  did : String
  deriving DecidableEq

def AgentInstance.identity (a : AgentInstance) : Identity := ⟨a.id, a.tenantId, a.keyIndex, a.address, a.did⟩

/-- The tables, and the sequence `directory_key_index_seq`. -/
structure Directory where
  tenants : List String
  nextKeyIndex : Nat
  agents : List AgentInstance

def Directory.identities (d : Directory) : List Identity := d.agents.map AgentInstance.identity

/-- `primary key`, and `unique` on the key index, the address and the DID. -/
def Apart (a b : Identity) : Prop := a.id ≠ b.id ∧ a.keyIndex ≠ b.keyIndex ∧ a.address ≠ b.address ∧ a.did ≠ b.did

instance (a b : Identity) : Decidable (Apart a b) := by
  unfold Apart
  infer_instance

def Directory.admits (d : Directory) (row : AgentInstance) : Prop :=
  row.tenantId ∈ d.tenants ∧ ∀ a ∈ d.identities, Apart a row.identity

instance (d : Directory) (row : AgentInstance) : Decidable (d.admits row) := by
  unfold Directory.admits
  infer_instance

def Directory.add (d : Directory) (row : AgentInstance) : Directory := { d with agents := d.agents ++ [row] }

/-- `where tenant_id = $1 order by key_index asc`. -/
def Directory.listed (d : Directory) (tenantId : String) : List AgentInstance :=
  (d.agents.filter fun a => a.tenantId = tenantId).insertionSort fun a b => a.keyIndex ≤ b.keyIndex

theorem mem_listed {d : Directory} {tenantId : String} {a : AgentInstance} :
    a ∈ d.listed tenantId ↔ a ∈ d.agents ∧ a.tenantId = tenantId := by
  simp [Directory.listed]

/-! ### Keys -/

structure Failure where
  code : String
  message : String
  deriving DecidableEq

inductive TenantKeyRole where
  | agent
  | issuer
  deriving DecidableEq, Repr

structure TenantKeypair where
  publicKey : String
  secret : String
  deriving DecidableEq

/-- What the libraries make of the one master mnemonic, and which texts are Stellar addresses. -/
structure Seed where
  validMnemonic : Bool
  wallet : Nat → TenantKeypair
  isStellarAddress : String → Bool

def MAX_HARDENED_INDEX : Nat := 2 ^ 31 - 1

def accountIndexFor (tenantIndex : Nat) (role : TenantKeyRole) : Except Failure Nat :=
  let accountIndex := tenantIndex * 2 + if role = .agent then 0 else 1
  if MAX_HARDENED_INDEX < accountIndex then
    .error ⟨"InvalidTenantIndex", s!"tenantIndex {tenantIndex} exceeds the derivable range"⟩
  else .ok accountIndex

def deriveTenantKeypair (seed : Seed) (tenantIndex : Nat) (role : TenantKeyRole) : Except Failure TenantKeypair := do
  let accountIndex ← accountIndexFor tenantIndex role
  if seed.validMnemonic then pure (seed.wallet accountIndex)
  else .error ⟨"ConfigError", "the master mnemonic is not a valid BIP-39 phrase"⟩

def stellarAddressToDid (seed : Seed) (address : String) : Except Failure String :=
  if seed.isStellarAddress address then .ok s!"did:stellar:testnet:{address}"
  else .error ⟨"InvalidStellarAddress", "expected a Stellar Ed25519 account address (G...)"⟩

def deriveKeypair (seed : Seed) (keyIndex : Nat) : Except Failure TenantKeypair := deriveTenantKeypair seed keyIndex .agent

/-! ### Tenant ids -/

def CROCKFORD_ALPHABET : List Char := "0123456789ABCDEFGHJKMNPQRSTVWXYZ".toList
def ULID_LENGTH : Nat := 26

def isUlid (text : List Char) : Bool := text.length = ULID_LENGTH && text.all (CROCKFORD_ALPHABET.contains ·)

def isPartnerId (text : List Char) : Bool := text.take 4 = "ptn_".toList && isUlid (text.drop 4)

def parseTenantId (value : String) : Except Failure Unit :=
  let partnerId := value.toList.takeWhile (· ≠ ':')
  if ':' ∈ value.toList ∧ isPartnerId partnerId ∧ isUlid (value.toList.drop (partnerId.length + 1)) then .ok ⟨⟩
  else .error ⟨"InvalidArguments", "a tenant id must be `<partner id>:<ULID>`"⟩

/-! ### The calls -/

/-- The values of an insert; its id is drawn with it. -/
structure NewAgent where
  tenantId : String
  keyIndex : Nat
  address : String
  did : String
  label : Option String

def NewAgent.row (new : NewAgent) (id : String) : AgentInstance :=
  ⟨id, new.tenantId, new.keyIndex, new.address, new.did, new.label, "active", "derived"⟩

inductive Op where
  | listAgents (tenantId : String)
  | findTenant (id : String)
  | nextval
  | insert (new : NewAgent)

def Op.Answer : Op → Type
  | .listAgents _ => List AgentInstance
  | .findTenant _ => Option String
  | .nextval => Nat
  | .insert _ => AgentInstance

abbrev Job (α : Type) := Routine Directory Op Failure Op.Answer α

def ask (o : Op) : Job o.Answer := Routine.ask o

structure TenantAgent where
  instance_ : AgentInstance
  keypair : TenantKeypair
  deriving DecidableEq

def MAX_SAFE_INTEGER : Nat := 2 ^ 53 - 1

def toSafeInteger (value : Nat) (field : String) : Except Failure Nat :=
  if value ≤ MAX_SAFE_INTEGER then .ok value
  else .error ⟨"ConfigError", s!"the directory returned a {field} that is not a safe integer"⟩

/-- The `derive` that `ensureTenantAgent` passes: an address and its DID. -/
def derive (seed : Seed) (keyIndex : Nat) : Except Failure (String × String) := do
  let keys ← deriveTenantKeypair seed keyIndex .agent
  let did ← stellarAddressToDid seed keys.publicKey
  pure (keys.publicKey, did)

def createAgent (seed : Seed) (tenantId : String) (label : Option String) : Job AgentInstance := do
  let _ ← parseTenantId tenantId
  let existing : Option String ← ask (.findTenant tenantId)
  match existing with
  | none => .throws ⟨"TenantNotFound", "no tenant with that id"⟩
  | some _ =>
    let next : Nat ← ask .nextval
    let keyIndex ← toSafeInteger next "key_index"
    let identity ← derive seed keyIndex
    ask (.insert ⟨tenantId, keyIndex, identity.1, identity.2, label⟩)

def withKey (seed : Seed) (record : AgentInstance) : Job TenantAgent := do
  let keypair ← deriveKeypair seed record.keyIndex
  pure ⟨record, keypair⟩

def create (seed : Seed) (tenantId : String) : Job TenantAgent := do
  let created ← createAgent seed tenantId
    (some "Identidad del agente — derivada por SEP-0005 desde el seed maestro (F4/T40)")
  withKey seed created

def ensureTenantAgent (seed : Seed) (tenantId : String) : Job TenantAgent := do
  let existing : List AgentInstance ← ask (.listAgents tenantId)
  match existing with
  | record :: _ => withKey seed record
  | [] =>
    let tried ← (create seed tenantId).attempt
    match tried with
    | .ok agent => pure agent
    | .error raceError =>
      let afterRace : List AgentInstance ← ask (.listAgents tenantId)
      match afterRace with
      | [] => .throws raceError
      | winner :: _ => withKey seed winner

/-! ### What the database answers -/

/-- Whether a query fails, and then whether it took effect all the same; and the id an insert draws. -/
structure Input where
  failure : Option Failure
  applied : Bool
  id : String

def Input.writes (input : Input) : Bool := input.failure.isNone || input.applied

def reply {α : Type} (input : Input) (a : α) : Except Failure α :=
  match input.failure with
  | none => .ok a
  | some e => .error e

def uniqueViolation : Failure := ⟨"23505", "duplicate key value violates unique constraint"⟩

def serve : (o : Op) → Input → Directory → Option (Except Failure o.Answer × Directory)
  | .listAgents tenantId, input, d => some (reply input (d.listed tenantId), d)
  | .findTenant id, input, d => some (reply input (d.tenants.find? (· = id)), d)
  | .nextval, input, d =>
    some (reply input d.nextKeyIndex, if input.writes then { d with nextKeyIndex := d.nextKeyIndex + 1 } else d)
  | .insert new, input, d =>
    let row := new.row input.id
    if d.admits row then some (reply input row, if input.writes then d.add row else d)
    else some (.error (input.failure.getD uniqueViolation), d)

/-- What else happens to the tables: tenants are created, and agents change their states. -/
inductive Outside where
  | createTenant (id : String)
  | setState (id status onchainState : String)

def outside : Outside → Directory → Directory
  | .createTenant id, d => { d with tenants := id :: d.tenants }
  | .setState id status onchainState, d =>
    { d with agents := d.agents.map fun a => if a.id = id then { a with status, onchainState } else a }

/-- The calls of every process over the directory, each for a tenant. -/
def directory (seed : Seed) : Host String Directory Op Failure Op.Answer TenantAgent Input Outside where
  body := ensureTenantAgent seed
  serve := serve
  outside := outside
  restart := id

def opened (tenants : List String) (nextKeyIndex : Nat) : Directory := ⟨tenants, nextKeyIndex, []⟩

/-! ### One identity -/

abbrev Seen := List (Event String Op Failure Op.Answer TenantAgent)

/-- A tenant has one row at most; a key index, an address and a DID are of one tenant; every answer of a call names the row
    of its tenant, with the key of that row; and so all answers for a tenant are the same. -/
structure OneIdentity (seed : Seed) (d : Directory) (t : Seen) : Prop where
  one : ∀ tenantId, (d.agents.filter fun a => a.tenantId = tenantId).length ≤ 1
  apart : ∀ a ∈ d.agents, ∀ b ∈ d.agents, a.keyIndex = b.keyIndex ∨ a.address = b.address ∨ a.did = b.did →
    a.tenantId = b.tenantId
  named : ∀ i c agent, .finished i c (.ok agent) ∈ t → ∃ a ∈ d.agents, a.tenantId = c ∧
    a.identity = agent.instance_.identity ∧ deriveKeypair seed a.keyIndex = .ok agent.keypair ∧
      a.address = agent.keypair.publicKey
  same : ∀ i j c a b, .finished i c (.ok a) ∈ t → .finished j c (.ok b) ∈ t →
    a.instance_.identity = b.instance_.identity ∧ a.keypair = b.keypair

abbrev World := System String Directory Op Failure Op.Answer TenantAgent
abbrev Act := Action String Input Outside

/-- An insert that the table lets in finds its tenant without an agent still. -/
def Fresh (w : World) : Act → Prop
  | .perform i input => ∀ c new rest, w.calls[i]? = some (c, .waiting (.insert new) rest) → input.writes = true →
      w.shared.admits (new.row input.id) → ∀ a ∈ w.shared.agents, a.tenantId ≠ new.tenantId
  | _ => True

def run (seed : Seed) (w : World) (actions : List Act) : World × Seen := Traces.exec (step (directory seed)) w actions

/-! ### The steps of a call -/

/-- Whose agent a call is about, and which one it was last told of. -/
structure Mode where
  tenantId : String
  told : Option Identity

def Asks (seed : Seed) (tenantId : String) : Op → Prop
  | .listAgents id => id = tenantId
  | .insert new => new.tenantId = tenantId ∧ derive seed new.keyIndex = .ok (new.address, new.did)
  | _ => True

def Mode.hears (m : Mode) : (o : Op) → Except Failure o.Answer → Mode
  | .listAgents _, .ok (a :: _) => { m with told := some a.identity }
  | .insert _, .ok a => { m with told := some a.identity }
  | _, _ => m

def steps (seed : Seed) : Discipline Directory Op Failure Op.Answer Mode where
  sync _ _ _ _ := False
  ask m o m' := m' = ⟨m.tenantId, none⟩ ∧ Asks seed m.tenantId o
  expects _ _ := True
  answer := Mode.hears

/-- A call returns the agent it was last told of, with its key. -/
def Ends (seed : Seed) (c : String) (m : Mode) (result : Except Failure TenantAgent) : Prop :=
  m.tenantId = c ∧ ∀ agent, result = .ok agent →
    m.told = some agent.instance_.identity ∧ deriveKeypair seed agent.instance_.keyIndex = .ok agent.keypair

section
variable {seed : Seed} {c : String}
variable {m : Mode}

theorem ends_error (own : m.tenantId = c) (e : Failure) : Ends seed c m (.error e) := ⟨own, nofun⟩

theorem follows_withKey (own : m.tenantId = c) {record : AgentInstance} (told : m.told = some record.identity) :
    Follows (steps seed) m (withKey seed record) (Ends seed c) := by
  unfold withKey
  cases derived : deriveKeypair seed record.keyIndex with
  | error e => exact ends_error own e
  | ok keypair =>
    refine ⟨own, fun agent same => ?_⟩
    cases same
    exact ⟨told, derived⟩

theorem hears_tenantId (m : Mode) (o : Op) (answer : Except Failure o.Answer) : (m.hears o answer).tenantId = m.tenantId := by
  unfold Mode.hears
  split <;> rfl

section
variable (own : m.tenantId = c)
include own

theorem follows_asks {o : Op} (may : Asks seed c o) :
    Follows (steps seed) m (ask o) fun m' answer => m'.tenantId = c ∧ m' = (⟨c, none⟩ : Mode).hears o answer := by
  subst own
  exact follows_ask ⟨rfl, may⟩ fun answer _ => ⟨hears_tenantId _ o answer, rfl⟩

theorem follows_pure {α : Type} (x : Except Failure α) :
    Follows (steps seed) m (liftM x : Job α) fun m' result => m'.tenantId = c ∧ result = x :=
  follows_lift ⟨own, rfl⟩

theorem follows_createAgent (label : Option String) : Follows (steps seed) m (createAgent seed c label) fun m' result =>
      m'.tenantId = c ∧ ∀ a, result = .ok a → m'.told = some a.identity := by
  unfold createAgent
  apply Follows.seq (follows_pure own _) _ fun _ _ ends => ⟨ends.1, nofun⟩
  rintro m _ ⟨own, _⟩
  apply Follows.seq (follows_asks own (o := .findTenant c) trivial) _ fun _ _ ends => ⟨ends.1, nofun⟩
  rintro m existing ⟨own, _⟩
  match existing with
  | none => exact ⟨own, nofun⟩
  | some _ =>
    apply Follows.seq (follows_asks own (o := .nextval) trivial) _ fun _ _ ends => ⟨ends.1, nofun⟩
    rintro m next ⟨own, _⟩
    apply Follows.seq (follows_pure own _) _ fun _ _ ends => ⟨ends.1, nofun⟩
    rintro m keyIndex ⟨own, _⟩
    apply Follows.seq (follows_pure own _) _ fun _ _ ends => ⟨ends.1, nofun⟩
    rintro m identity ⟨own, derived⟩
    apply (follows_asks own (o := .insert _) ⟨rfl, derived.symm⟩).imp
    rintro m result ⟨own, told⟩
    refine ⟨own, fun a same => ?_⟩
    subst same
    exact congrArg Mode.told told

theorem follows_create : Follows (steps seed) m (create seed c) (Ends seed c) := by
  unfold create
  apply Follows.seq (follows_createAgent own _) _ fun _ _ ends => ends_error ends.1 _
  rintro m created ⟨own, told⟩
  exact follows_withKey own (told created rfl)

theorem follows_lookup {rest : List AgentInstance → Job TenantAgent}
    (found : ∀ m record records, m.tenantId = c → m.told = some record.identity →
      Follows (steps seed) m (rest (record :: records)) (Ends seed c))
    (absent : ∀ m, m.tenantId = c → Follows (steps seed) m (rest []) (Ends seed c)) :
    Follows (steps seed) m ((ask (.listAgents c) : Job (List AgentInstance)) >>= rest) (Ends seed c) := by
  apply Follows.seq (follows_asks own (o := .listAgents c) rfl) _ fun _ _ ends => ends_error ends.1 _
  rintro m rows ⟨own, told⟩
  match rows with
  | [] => exact absent m own
  | record :: records => exact found m record records own (congrArg Mode.told told)

end

theorem follows_ensure (c : String) : Follows (steps seed) ⟨c, none⟩ (ensureTenantAgent seed c) (Ends seed c) := by
  unfold ensureTenantAgent
  refine follows_lookup (c := c) rfl (fun m record _ own told => follows_withKey own told) fun m own => ?_
  have tried : Follows (steps seed) m (create seed c).attempt fun m' result =>
      ∃ inner, result = .ok inner ∧ Ends seed c m' inner :=
    Follows.attempt ((follows_create own).imp fun _ result ends => ⟨result, rfl, ends⟩)
  apply Follows.seq tried
  · rintro m tried ⟨inner, same, ends⟩
    cases same
    cases tried with
    | ok agent => exact ends
    | error raceError =>
      exact follows_lookup ends.1 (fun m winner _ own told => follows_withKey own told) fun m own => ends_error own _
  · rintro m e ⟨_, impossible, _⟩
    cases impossible

end

/-! ### What every state keeps -/

section
variable {seed : Seed} {d d' : Directory} {ms : List (String × Option Mode)} {t : Seen} {i : Nat} {c : String} {m : Mode}

/-- What a call has been told of is in the directory, and is of its tenant. -/
def Knows (d : Directory) (c : String) (m : Mode) : Prop :=
  m.tenantId = c ∧ ∀ a, m.told = some a → a ∈ d.identities ∧ a.tenantId = c

structure Kept (seed : Seed) (d : Directory) (ms : List (String × Option Mode)) (t : Seen) : Prop where
  unique : d.identities.Pairwise Apart
  one : d.identities.Pairwise fun a b => a.tenantId ≠ b.tenantId
  derived : ∀ a ∈ d.identities, derive seed a.keyIndex = .ok (a.address, a.did)
  knows : ∀ (i : Nat) c m, ms[i]? = some (c, some m) → Knows d c m
  results : ∀ i c agent, .finished i c (.ok agent) ∈ t → agent.instance_.identity ∈ d.identities ∧
    agent.instance_.tenantId = c ∧ deriveKeypair seed agent.instance_.keyIndex = .ok agent.keypair

theorem identity_mem {a : AgentInstance} (among : a ∈ d.agents) : a.identity ∈ d.identities := List.mem_map_of_mem among

theorem Knows.more (knows : Knows d c m) (more : ∀ a ∈ d.identities, a ∈ d'.identities) : Knows d' c m :=
  ⟨knows.1, fun a told => ⟨more a (knows.2 a told).1, (knows.2 a told).2⟩⟩

section
variable (kept : Kept seed d ms t)
include kept

theorem Kept.same (same : d'.identities = d.identities) : Kept seed d' ms t where
  unique := same ▸ kept.unique
  one := same ▸ kept.one
  derived := same ▸ kept.derived
  knows i c m mode := (kept.knows i c m mode).more fun _ among => same ▸ among
  results i c agent finished := same ▸ kept.results i c agent finished

theorem Kept.insert {row : AgentInstance} (admits : d.admits row) (fresh : ∀ a ∈ d.agents, a.tenantId ≠ row.tenantId)
    (derived : derive seed row.keyIndex = .ok (row.address, row.did)) : Kept seed (d.add row) ms t := by
  have identities : (d.add row).identities = d.identities ++ [row.identity] := List.map_append
  have more : ∀ a ∈ d.identities, a ∈ (d.add row).identities := fun a among => by
    rw [identities]
    exact List.mem_append_left _ among
  refine ⟨?_, ?_, ?_, fun i c m mode => (kept.knows i c m mode).more more, fun i c agent finished => ?_⟩
  · rw [identities, List.pairwise_append]
    refine ⟨kept.unique, List.pairwise_singleton .., fun a among b last => ?_⟩
    rw [List.mem_singleton.mp last]
    exact admits.2 a among
  · rw [identities, List.pairwise_append]
    refine ⟨kept.one, List.pairwise_singleton .., fun a among b last => ?_⟩
    rw [List.mem_singleton.mp last]
    obtain ⟨a', here, rfl⟩ := List.mem_map.mp among
    exact fresh a' here
  · rw [identities]
    intro a among
    rcases List.mem_append.mp among with old | last
    · exact kept.derived a old
    · rw [List.mem_singleton.mp last]
      exact derived
  · exact ⟨more _ (kept.results i c agent finished).1, (kept.results i c agent finished).2⟩

theorem Kept.mode (knows : Knows d c m) : Kept seed d (ms.set i (c, some m)) t :=
  { kept with knows := fun _ _ _ found => all_set knows (fun j d' m' _ => kept.knows j d' m') found }

theorem Kept.quiet {e : Event String Op Failure Op.Answer TenantAgent}
    (quiet : ∀ i c result, e ≠ .finished i c result) : Kept seed d ms (t ++ [e]) :=
  { kept with
    results := fun i c agent finished => by
      rcases List.mem_append.mp finished with old | last
      · exact kept.results i c agent old
      · exact absurd (List.mem_singleton.mp last).symm (quiet i c _) }

end

variable {input : Input} {tenantId : String}

theorem reply_ok {α : Type} {a b : α} (replied : reply input a = .ok b) : b = a := by
  unfold reply at replied
  split at replied
  · exact (Except.ok.inj replied).symm
  · cases replied

theorem knows_nothing (tenantId : String) (own : tenantId = c) : Knows d c ⟨tenantId, none⟩ := ⟨own, fun _ told => nomatch told⟩

theorem knows_listed {id : String} {answer : Except Failure (List AgentInstance)} (own : tenantId = c)
    (each : ∀ rows, answer = .ok rows → ∀ a ∈ rows, a ∈ d.agents ∧ a.tenantId = c) :
    Knows d c ((⟨tenantId, none⟩ : Mode).hears (.listAgents id) answer) := by
  match answer with
  | .error e => exact knows_nothing _ own
  | .ok [] => exact knows_nothing _ own
  | .ok (record :: records) =>
    refine ⟨own, fun a told => ?_⟩
    obtain rfl : record.identity = a := Option.some.inj told
    obtain ⟨here, tenant⟩ := each _ rfl record List.mem_cons_self
    exact ⟨identity_mem here, tenant⟩

theorem knows_inserted {new : NewAgent} {answer : Except Failure AgentInstance} (own : tenantId = c)
    (each : ∀ a, answer = .ok a → a ∈ d.agents ∧ a.tenantId = c) :
    Knows d c ((⟨tenantId, none⟩ : Mode).hears (.insert new) answer) := by
  match answer with
  | .error e => exact knows_nothing _ own
  | .ok record =>
    refine ⟨own, fun a told => ?_⟩
    obtain rfl : record.identity = a := Option.some.inj told
    obtain ⟨here, tenant⟩ := each record rfl
    exact ⟨identity_mem here, tenant⟩

/-- An answer of the database keeps it all, when an insert that goes in finds its tenant without an agent. -/
theorem Kept.serve (kept : Kept seed d ms t) {m₀ : Mode} {o : Op} {answer : Except Failure o.Answer}
    (mode : ms[i]? = some (c, some m)) (asks : (steps seed).ask m₀ o m) (served : serve o input d = some (answer, d'))
    (fresh : ∀ new, o = .insert new → input.writes = true → d.admits (new.row input.id) →
      ∀ a ∈ d.agents, a.tenantId ≠ new.tenantId) : Kept seed d' (ms.set i (c, some (m.hears o answer))) t := by
  obtain ⟨own, _⟩ := kept.knows i c m mode
  obtain ⟨rfl, may⟩ := asks
  cases o with
  | listAgents id =>
    cases served
    refine kept.mode (knows_listed own fun rows replied a among => ?_)
    rw [reply_ok replied] at among
    obtain ⟨here, tenant⟩ := mem_listed.mp among
    exact ⟨here, tenant.trans (may.trans own)⟩
  | findTenant id =>
    cases served
    exact kept.mode (knows_nothing _ own)
  | nextval =>
    cases served
    refine (kept.same ?_).mode (knows_nothing _ own)
    split_ifs <;> rfl
  | insert new =>
    obtain ⟨tenant, derived⟩ := may
    rw [TenantAgents.serve] at served
    split_ifs at served with admits writes
    · cases served
      refine (kept.insert admits (fresh new rfl writes admits) derived).mode (knows_inserted own fun row replied => ?_)
      rw [reply_ok replied]
      exact ⟨List.mem_append_right _ (List.mem_singleton_self _), tenant.trans own⟩
    · cases served
      refine kept.mode (knows_inserted own fun row replied => ?_)
      -- Nothing was written, so nothing was answered.
      unfold Input.writes at writes
      unfold reply at replied
      cases failure : input.failure with
      | none => simp [failure] at writes
      | some e =>
        rw [failure] at replied
        cases replied
    · cases served
      exact kept.mode (knows_inserted own fun _ answered => nomatch answered)

theorem Kept.outside (kept : Kept seed d ms t) (k : Outside) : Kept seed (outside k d) ms t := by
  refine kept.same ?_
  cases k with
  | createTenant id => rfl
  | setState id status onchainState =>
    unfold Directory.identities TenantAgents.outside
    rw [List.map_map]
    refine List.map_congr_left fun a _ => ?_
    simp only [Function.comp_apply]
    split_ifs <;> rfl

theorem keeps (seed : Seed) : Keeps (directory seed) (steps seed) (Ends seed) (Kept seed) (fun _ => Kept seed)
    fun w _ a => Fresh w a where
  start {w ms t c} kept _ _ := by
    refine ⟨_, follows_ensure c, ?_⟩
    exact { kept with
      knows := fun _ _ _ found =>
        all_append (P := fun _ => Knows w.shared) (knows_nothing c rfl) (fun j d' m' => kept.knows j d' m') found }
  resume kept _ _ := kept
  sync _ _ step := step.elim
  ask {_ _ _ i c m _ _ _ _ _} kept mode asks _ _ _ := by
    have knows := kept.knows i c m mode
    obtain ⟨rfl, _⟩ := asks
    exact (kept.mode (knows_nothing _ knows.1)).quiet fun _ _ _ same => nomatch same
  serve {w _ _ i c m m₀ o rest input answer s'} kept _ mode here may asks served := by
    refine ⟨trivial, (kept.serve mode asks served fun new same => ?_).quiet fun _ _ _ same => nomatch same⟩
    subst same
    exact may c new rest here
  finish {s ms t i c m result w a calls} kept mode ends _ _ := by
    obtain ⟨own, told⟩ := ends
    have knows := kept.knows i c m mode
    refine { kept with knows := ?_, results := ?_ }
    · exact fun _ _ _ found => all_over (P := fun _ => Knows s) (fun j d' m' _ => kept.knows j d' m') found
    · intro i' c' agent finished
      rcases List.mem_append.mp finished with old | last
      · exact kept.results i' c' agent old
      · cases List.mem_singleton.mp last
        obtain ⟨told, keyed⟩ := told agent rfl
        obtain ⟨among, tenant⟩ := knows.2 _ told
        exact ⟨among, tenant, keyed⟩
  outside kept _ := kept.outside _
  crash kept _ _ := { kept with knows := fun _ _ _ found => nomatch mode_of_kill found }

end

/-! ### Runs -/

section
variable {seed : Seed} {d : Directory} {ms : List (String × Option Mode)} {t : Seen}

instance : Std.Symm Apart :=
  ⟨fun _ _ apart => ⟨Ne.symm apart.1, Ne.symm apart.2.1, Ne.symm apart.2.2.1, Ne.symm apart.2.2.2⟩⟩

instance : Std.Symm fun a b : Identity => a.tenantId ≠ b.tenantId := ⟨fun _ _ => Ne.symm⟩

theorem Kept.row (kept : Kept seed d ms t) {a b : Identity} (first : a ∈ d.identities) (second : b ∈ d.identities)
    (tenant : a.tenantId = b.tenantId) : a = b := by
  by_contra different
  exact kept.one.forall first second different tenant

theorem length_le_one {rows : List AgentInstance} {tenantId : String}
    (apart : rows.Pairwise fun a b => a.tenantId ≠ b.tenantId) : (rows.filter fun a => a.tenantId = tenantId).length ≤ 1 := by
  have filtered := apart.filter fun a => decide (a.tenantId = tenantId)
  have each : ∀ a ∈ rows.filter fun a => decide (a.tenantId = tenantId), a.tenantId = tenantId := fun a among =>
    of_decide_eq_true (List.mem_filter.mp among).2
  generalize rows.filter (fun a => decide (a.tenantId = tenantId)) = own at filtered each ⊢
  match own with
  | [] => exact Nat.zero_le 1
  | [_] => exact Nat.le_refl 1
  | a :: b :: _ =>
    have first := each a List.mem_cons_self
    have second := each b (List.mem_cons_of_mem _ List.mem_cons_self)
    exact absurd (first.trans second.symm) (List.rel_of_pairwise_cons filtered List.mem_cons_self)

theorem derived_address {keyIndex : Nat} {address did : String} {keypair : TenantKeypair}
    (derived : derive seed keyIndex = .ok (address, did)) (keyed : deriveKeypair seed keyIndex = .ok keypair) :
    address = keypair.publicKey := by
  unfold derive at derived
  rw [deriveKeypair] at keyed
  rw [keyed] at derived
  change (stellarAddressToDid seed keypair.publicKey >>= fun did => pure (keypair.publicKey, did)) = _ at derived
  cases named : stellarAddressToDid seed keypair.publicKey with
  | error e =>
    rw [named] at derived
    cases derived
  | ok did =>
    rw [named] at derived
    cases derived
    rfl

theorem Kept.oneIdentity (kept : Kept seed d ms t) : OneIdentity seed d t := by
  have named : ∀ i c agent, .finished i c (.ok agent) ∈ t → ∃ a ∈ d.agents, a.tenantId = c ∧
      a.identity = agent.instance_.identity ∧ deriveKeypair seed a.keyIndex = .ok agent.keypair ∧
        a.address = agent.keypair.publicKey := by
    intro i c agent finished
    obtain ⟨among, tenant, keyed⟩ := kept.results i c agent finished
    obtain ⟨a, here, same⟩ := List.mem_map.mp among
    have index : a.keyIndex = agent.instance_.keyIndex := congrArg Identity.keyIndex same
    refine ⟨a, here, (congrArg Identity.tenantId same).trans tenant, same, index ▸ keyed, ?_⟩
    exact derived_address (kept.derived _ (identity_mem here)) (show deriveKeypair seed a.keyIndex = _ from index ▸ keyed)
  have tenants : d.agents.Pairwise fun a b => a.tenantId ≠ b.tenantId := by
    have one := kept.one
    unfold Directory.identities at one
    rw [List.pairwise_map] at one
    exact one
  refine ⟨fun tenantId => length_le_one tenants, ?_, named, ?_⟩
  · intro a first b second shared
    by_contra different
    have apart : Apart a.identity b.identity :=
      kept.unique.forall (identity_mem first) (identity_mem second) fun same =>
        different (congrArg Identity.tenantId same)
    rcases shared with keyIndex | address | did
    · exact apart.2.1 keyIndex
    · exact apart.2.2.1 address
    · exact apart.2.2.2 did
  · intro i j c a b first second
    obtain ⟨rowA, hereA, tenantA, sameA, keyA, _⟩ := named i c a first
    obtain ⟨rowB, hereB, tenantB, sameB, keyB, _⟩ := named j c b second
    have one : rowA.identity = rowB.identity :=
      kept.row (identity_mem hereA) (identity_mem hereB) (tenantA.trans tenantB.symm)
    refine ⟨by rw [← sameA, ← sameB, one], ?_⟩
    rw [show rowA.keyIndex = rowB.keyIndex from congrArg Identity.keyIndex one, keyB] at keyA
    exact (Except.ok.inj keyA).symm

theorem two_rows {w : World} {i : Nat} {input : Input} {c : String} {new : NewAgent}
    {rest : Except Failure AgentInstance → Job TenantAgent} (here : w.calls[i]? = some (c, .waiting (.insert new) rest))
    (writes : input.writes = true) (admits : w.shared.admits (new.row input.id)) {a : AgentInstance}
    (among : a ∈ w.shared.agents) (tenant : a.tenantId = new.tenantId) :
    ¬OneIdentity seed (step (directory seed) w (.perform i input)).1.shared t := by
  intro one
  have after : (step (directory seed) w (.perform i input)).1.shared = w.shared.add (new.row input.id) := by
    have served : (directory seed).serve (.insert new) input w.shared =
        some (reply input (new.row input.id), w.shared.add (new.row input.id)) := by
      change TenantAgents.serve (.insert new) input w.shared = _
      rw [TenantAgents.serve, if_pos admits, if_pos writes]
      rfl
    rw [step, here]
    simp only [served]
  have fewer := one.one new.tenantId
  have already : 0 < (w.shared.agents.filter fun a => a.tenantId = new.tenantId).length :=
    List.length_pos_of_mem (List.mem_filter.mpr ⟨among, decide_eq_true tenant⟩)
  rw [after, Directory.add, List.filter_append, List.length_append] at fewer
  have last : ([new.row input.id].filter fun a => a.tenantId = new.tenantId).length = 1 := by
    simp [NewAgent.row]
  omega

end

/-- Over a directory that begins without agents, one identity for each tenant holds in every state of a run exactly when
    no insert of it goes in once its tenant has an agent: when no two first calls of a tenant overlap so. -/
theorem one_identity_iff (seed : Seed) (tenants : List String) (nextKeyIndex : Nat) (actions : List Act) :
    (∀ before after, actions = before ++ after →
      OneIdentity seed (run seed ⟨opened tenants nextKeyIndex, []⟩ before).1.shared
        (run seed ⟨opened tenants nextKeyIndex, []⟩ before).2) ↔
      ∀ before a after, actions = before ++ a :: after →
        Fresh (run seed ⟨opened tenants nextKeyIndex, []⟩ before).1 a := by
  constructor
  · intro always before a after split
    cases a with
    | perform i input =>
      intro c new rest here writes admits a among tenant
      have one := always (before ++ [.perform i input]) after (by simp [split])
      rw [run, Traces.exec_append] at one
      exact two_rows here writes admits among tenant one
    | start _ => trivial
    | resume _ => trivial
    | outside _ => trivial
    | crash => trivial
  · intro fresh before after split
    have begins : Kept seed (opened tenants nextKeyIndex) [] [] := ⟨.nil, .nil, nofun, nofun, nofun⟩
    obtain ⟨ms, kept, _⟩ := kept_along (keeps seed) (w := ⟨opened tenants nextKeyIndex, []⟩) ⟨[], begins, aligned_nil⟩ before
      fun earlier a later cut => fresh earlier a (later ++ after) (by simp [split, cut])
    exact kept.oneIdentity

/-! ### Two first calls -/

def sampleSeed : Seed := ⟨true, fun i => ⟨s!"G{i}", s!"S{i}"⟩, fun _ => true⟩

def sampleTenant : String := "ptn_00000000000000000000000000:00000000000000000000000000"

def sampleStep (i : Nat) (id : String) : List Act := [.perform i ⟨none, true, id⟩, .resume i]

/-- Two calls look for the agent of a new tenant, and then each inserts one. -/
def sampleRace : List Act :=
  [.start sampleTenant, .start sampleTenant] ++ sampleStep 0 "" ++ sampleStep 1 "" ++
    sampleStep 0 "" ++ sampleStep 0 "" ++ sampleStep 0 "agt_1" ++ sampleStep 1 "" ++ sampleStep 1 "" ++ sampleStep 1 "agt_2"

theorem race_two_agents :
    ¬∀ (seed : Seed) (tenants : List String) (nextKeyIndex : Nat) (actions : List Act),
      OneIdentity seed (run seed ⟨opened tenants nextKeyIndex, []⟩ actions).1.shared
        (run seed ⟨opened tenants nextKeyIndex, []⟩ actions).2 := by
  intro always
  have two := (always sampleSeed [sampleTenant] 0 sampleRace).one sampleTenant
  revert two
  decide +kernel

end AgentPey.TenantAgents
