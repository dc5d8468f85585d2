import AgentPey.Amounts
import AgentPey.Dates
import AgentPey.HashChains
import AgentPey.Postings

/-!
The entries of a mandate vault and their hash chain: `packages/vault/src/vault.ts`
and `internal/amount.ts`. Whatever a vault keeps its entries in, they post spends:
a grant charges its intent and a release refunds it. `Accounts` says that a list of
entries is a balanced history, and each kind of entry keeps it under its condition.
-/
namespace AgentPey.VaultEntries
open AgentPass Amounts Dates Postings Store

structure VaultGrantedEntry where
  subject : String
  intentId : String
  currency : String
  amount : String
  at_ : String
  deriving DecidableEq

structure VaultRefusedEntry where
  subject : String
  intentId : String
  code : String
  reason : String
  details : Details
  at_ : String

structure VaultAnchoredEntry where
  subject : String
  intentId : String
  paymentTx : String
  linkHash : String
  anchorTx : String
  at_ : String
  deriving DecidableEq

structure VaultReleasedEntry where
  subject : String
  intentId : String
  currency : String
  amount : String
  at_ : String
  reason : String
  deriving DecidableEq

inductive VaultEntry where
  | granted (e : VaultGrantedEntry)
  | refused (e : VaultRefusedEntry)
  | anchored (e : VaultAnchoredEntry)
  | released (e : VaultReleasedEntry)

def VaultEntry.subject : VaultEntry → String
  | .granted e => e.subject
  | .refused e => e.subject
  | .anchored e => e.subject
  | .released e => e.subject

def VaultEntry.intentId : VaultEntry → String
  | .granted e => e.intentId
  | .refused e => e.intentId
  | .anchored e => e.intentId
  | .released e => e.intentId

def VaultEntry.json : VaultEntry → Json
  | .granted e => .object [("kind", .string "granted"), ("subject", .string e.subject),
      ("intentId", .string e.intentId), ("currency", .string e.currency), ("amount", .string e.amount),
      ("at", .string e.at_)]
  | .refused e => .object [("kind", .string "refused"), ("subject", .string e.subject),
      ("intentId", .string e.intentId), ("code", .string e.code), ("reason", .string e.reason),
      ("details", .object e.details), ("at", .string e.at_)]
  | .anchored e => .object [("kind", .string "anchored"), ("subject", .string e.subject),
      ("intentId", .string e.intentId), ("paymentTx", .string e.paymentTx), ("linkHash", .string e.linkHash),
      ("anchorTx", .string e.anchorTx), ("at", .string e.at_)]
  | .released e => .object [("kind", .string "released"), ("subject", .string e.subject),
      ("intentId", .string e.intentId), ("currency", .string e.currency), ("amount", .string e.amount),
      ("at", .string e.at_), ("reason", .string e.reason)]

structure VaultRecord where
  seq : Nat
  prevHash : String
  hash : String
  entry : VaultEntry

/-- `sha256` is the hex digest of a text's UTF-8 bytes. -/
def computeHash (sha256 : String → String) (seq : Nat) (prevHash : String) (entry : VaultEntry) : String :=
  sha256 (Json.object [("seq", .number seq), ("prevHash", .string prevHash), ("entry", entry.json)]).stringify

/-- The answer of `verify`. -/
inductive VaultVerification where
  | ok
  | broken (brokenAtSeq : Nat)
  deriving DecidableEq

/-- The loop of `verify`, after a record with the given hash. -/
def verifyFrom (sha256 : String → String) (prevHash : String) : List VaultRecord → VaultVerification
  | [] => .ok
  | record :: rest =>
    let expected := computeHash sha256 record.seq prevHash record.entry
    if record.hash ≠ expected ∨ record.prevHash ≠ prevHash then .broken record.seq
    else verifyFrom sha256 record.hash rest

/-- `verify`, over the records that an instance of a vault holds. -/
def verify (sha256 : String → String) (records : List VaultRecord) : VaultVerification := verifyFrom sha256 "" records

/-- The chain that `verify` follows. -/
def recordChain (sha256 : String → String) : HashChains.Chain VaultRecord String where
  prev := VaultRecord.prevHash
  hash := VaultRecord.hash
  digest prevHash record := computeHash sha256 record.seq prevHash record.entry

variable {sha256 : String → String} {records : List VaultRecord}

private theorem verifyFrom_eq_ok {prevHash : String} :
    verifyFrom sha256 prevHash records = .ok ↔ HashChains.Intact (recordChain sha256) prevHash records := by
  induction records generalizing prevHash with
  | nil => simp [verifyFrom]
  | cons record rest ih =>
    rw [verifyFrom, HashChains.Intact]
    split_ifs with altered
    · constructor
      · intro impossible
        cases impossible
      · rintro ⟨⟨linked, hashed⟩, _⟩
        rcases altered with wrongHash | wrongLink
        · exact absurd hashed wrongHash
        · exact absurd linked wrongLink
    · obtain ⟨hashed, linked⟩ := not_or.mp altered
      rw [ih]
      constructor
      · exact fun later => ⟨⟨not_not.mp linked, not_not.mp hashed⟩, later⟩
      · exact fun intact => intact.2

theorem verify_eq_ok : verify sha256 records = .ok ↔ HashChains.Intact (recordChain sha256) "" records := verifyFrom_eq_ok

/-! ### What callers hand over -/

structure RecordRefusalInput where
  subject : String
  intentId : String
  code : String
  reason : String
  details : Details

structure RecordAnchorInput where
  subject : String
  intentId : String
  paymentTx : String
  linkHash : String
  anchorTx : String

def spendNotRecorded (reason intentId : String) : Thrown :=
  .AgentPassError "SpendNotRecorded" reason [("intentId", .string intentId)]

def spendAlreadySettled (intentId : String) : Thrown :=
  .AgentPassError "SpendAlreadySettled" "that intent's payment is anchored on-chain and cannot be released"
    [("intentId", .string intentId)]

/-- The release of a granted entry: its own subject, currency, amount and day. -/
def VaultGrantedEntry.release (e : VaultGrantedEntry) (reason : String) : VaultReleasedEntry :=
  ⟨e.subject, e.intentId, e.currency, e.amount, e.at_, reason⟩

/-! ### The latest grant of an intent -/

structure GrantState where
  granted : Option VaultGrantedEntry
  released : Bool
  anchored : Bool

def GrantState.fresh : GrantState := ⟨none, false, false⟩

def GrantState.see (state : GrantState) : VaultEntry → GrantState
  | .granted e => { state with granted := some e, released := false }
  | .released _ => { state with released := true }
  | .anchored _ => { state with anchored := true }
  | .refused _ => state

/-- The latest granted entry of an intent, and what has happened to it since. -/
def grantState (intentId : String) (es : List VaultEntry) : GrantState :=
  (es.filter fun e => e.intentId = intentId).foldl GrantState.see .fresh

/-- The granted entry whose spend stands. -/
def GrantState.standing (state : GrantState) : Option VaultGrantedEntry :=
  if state.released then none else state.granted

/-! ### Postings -/

/-- A subject's budget in one currency on one day. -/
structure Bucket where
  subject : String
  currency : String
  day : String
  deriving DecidableEq

section
variable (dayOf : String → String)

/-- The spend of an entry, on the day that `dayOf` reads off its time. -/
def spendOf (subject currency amount at_ : String) : Spend Bucket :=
  ⟨⟨subject, currency, dayOf at_⟩, ((FixedPoint.scale AMOUNT_DECIMALS amount.toList).getD 0)⟩

def VaultGrantedEntry.spend (e : VaultGrantedEntry) : Spend Bucket := spendOf dayOf e.subject e.currency e.amount e.at_

def VaultReleasedEntry.spend (e : VaultReleasedEntry) : Spend Bucket := spendOf dayOf e.subject e.currency e.amount e.at_

def VaultEntry.posting : VaultEntry → Option (Posting String Bucket)
  | .granted e => some (.charge e.intentId (e.spend dayOf))
  | .released e => some (.refund e.intentId (e.spend dayOf))
  | .refused _ => none
  | .anchored _ => none

def postings (es : List VaultEntry) : List (Posting String Bucket) := es.filterMap (VaultEntry.posting dayOf)

def VaultEntry.Usable : VaultEntry → Prop
  | .granted e => ∃ n, scaleAmount e.amount = .ok n
  | .released e => ∃ n, scaleAmount e.amount = .ok n
  | .refused _ => True
  | .anchored _ => True

/-- The entries are a balanced history of the spends that stand. -/
structure Accounts (es : List VaultEntry) (b : Book String Bucket) : Prop where
  balanced : Balanced (postings dayOf es) b
  stands : ∀ id, b.lookup id = (grantState id es).standing.map (VaultGrantedEntry.spend dayOf)
  usable : ∀ e ∈ es, e.Usable

variable {dayOf}

theorem amount_spendOf {subject currency amount at_ : String} {n : Nat} (usable : scaleAmount amount = .ok n) :
    (spendOf dayOf subject currency amount at_).amount = n := by
  rw [scaleAmount] at usable
  cases read : FixedPoint.scale AMOUNT_DECIMALS amount.toList with
  | none =>
    rw [read] at usable
    cases usable
  | some m =>
    rw [read] at usable
    cases usable
    simp [spendOf, read]

@[simp] theorem postings_append (es fs : List VaultEntry) :
    postings dayOf (es ++ fs) = postings dayOf es ++ postings dayOf fs :=
  List.filterMap_append

theorem grantState_append (id : String) (es : List VaultEntry) (e : VaultEntry) :
    grantState id (es ++ [e]) = if e.intentId = id then (grantState id es).see e else grantState id es := by
  rw [grantState, List.filter_append, List.foldl_append]
  by_cases own : e.intentId = id
  · simp [own, grantState]
  · simp [own, grantState]

variable {es : List VaultEntry} {g : VaultGrantedEntry}

theorem grantState_granted {id : String}
    (granted : (grantState id es).granted = some g) : .granted g ∈ es ∧ g.intentId = id := by
  induction es using List.reverseRec with
  | nil => cases granted
  | append_singleton es e ih =>
    have earlier : (grantState id es).granted = some g → .granted g ∈ es ++ [e] ∧ g.intentId = id := by
      intro before
      exact ⟨List.mem_append_left _ (ih before).1, (ih before).2⟩
    rw [grantState_append] at granted
    split_ifs at granted with own
    · cases e with
      | granted e =>
        cases granted
        exact ⟨by simp, own⟩
      | refused e => exact earlier granted
      | anchored e => exact earlier granted
      | released e => exact earlier granted
    · exact earlier granted

theorem GrantState.standing_eq_some {state : GrantState} :
    state.standing = some g ↔ state.released = false ∧ state.granted = some g := by
  rw [GrantState.standing]
  split_ifs with released <;> simp [released]

theorem accounts_nil : Accounts dayOf [] ∅ where
  balanced := balanced_nil
  stands id := by simp [grantState, GrantState.fresh, GrantState.standing]
  usable e member := by simp at member

private theorem usable_append {e : VaultEntry} (usable : ∀ e ∈ es, e.Usable) (last : e.Usable) :
    ∀ f ∈ es ++ [e], f.Usable := by
  intro f member
  rcases List.mem_append.mp member with earlier | here
  · exact usable f earlier
  · rw [List.mem_singleton.mp here]
    exact last

section
variable {es : List VaultEntry} {b : Book String Bucket}

theorem Accounts.grant (accounts : Accounts dayOf es b) {e : VaultGrantedEntry}
    (usable : ∃ n, scaleAmount e.amount = .ok n) (free : (grantState e.intentId es).standing = none) :
    Accounts dayOf (es ++ [.granted e]) (b.insert e.intentId (e.spend dayOf)) where
  balanced := by
    have unused : b.lookup e.intentId = none := by rw [accounts.stands, free, Option.map_none]
    rw [postings_append]
    exact accounts.balanced.charge _ unused
  stands id := by
    rw [lookup_insert, grantState_append, VaultEntry.intentId]
    by_cases same : id = e.intentId
    · rw [if_pos same, if_pos same.symm]
      rfl
    · rw [if_neg same, if_neg (Ne.symm same)]
      exact accounts.stands id
  usable := usable_append accounts.usable usable

theorem Accounts.release (accounts : Accounts dayOf es b) {g : VaultGrantedEntry} {id : String} (reason : String)
    (stands : (grantState id es).standing = some g) : Accounts dayOf (es ++ [.released (g.release reason)]) (b.erase id) := by
  obtain ⟨entry, own⟩ := grantState_granted (GrantState.standing_eq_some.mp stands).2
  subst own
  have usable : VaultEntry.Usable (.granted g) := accounts.usable _ entry
  refine ⟨?_, ?_, usable_append accounts.usable usable⟩
  · have held : b.lookup g.intentId = some (g.spend dayOf) := by rw [accounts.stands, stands, Option.map_some]
    rw [postings_append]
    exact accounts.balanced.refund held
  · intro id
    rw [lookup_erase, grantState_append, VaultEntry.intentId, VaultGrantedEntry.release]
    by_cases same : id = g.intentId
    · rw [if_pos same, if_pos same.symm]
      rfl
    · rw [if_neg same, if_neg (Ne.symm same)]
      exact accounts.stands id

theorem Accounts.note (accounts : Accounts dayOf es b) {e : VaultEntry} (silent : e.posting dayOf = none) :
    Accounts dayOf (es ++ [e]) b where
  balanced := by
    rw [postings_append, show postings dayOf [e] = [] by simp [postings, silent], List.append_nil]
    exact accounts.balanced
  stands id := by
    rw [grantState_append]
    split_ifs with own
    · cases e with
      | granted e => cases silent
      | released e => cases silent
      | refused e => exact accounts.stands id
      | anchored e => exact accounts.stands id
    · exact accounts.stands id
  usable := by
    refine usable_append accounts.usable ?_
    cases e with
    | granted e => cases silent
    | released e => cases silent
    | refused e => trivial
    | anchored e => trivial

end

end

end AgentPey.VaultEntries
