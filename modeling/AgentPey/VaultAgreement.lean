import AgentPey.VaultParity

/-!
The file vault and the Postgres vault hold the same chain as long as they answer alike:
`Twin` relates an instance of each, every call that is alike keeps it, and a call that is
not alike is one where they differ.
-/
namespace AgentPey.VaultAgreement
open AgentPass Amounts Dates LocalPolicyRail Postings VaultEntries FileVault PostgresVault PostgresSections
open Transactions VaultParity
open VaultReload (anchoredIn)

/-! ### One day in two keys -/

private theorem leftTen_length (text : String) : (leftTen text).toList.length ≤ 10 := by
  rw [leftTen, String.toList_ofList]
  exact List.length_take_le _ _

variable {t : TimeValue}

private theorem leftTen_signed {u : TimeValue} (fourDigits : t.FourDigits) (others : ¬u.FourDigits) :
    leftTen (String.ofList u.text) ≠ t.dayKey ∧ u.dayKey ≠ t.dayKey := by
  obtain ⟨_, c, rest, begins, sign⟩ := dayText_signed others
  constructor
  · intro same
    have texts := congrArg String.toList same
    rw [leftTen, TimeValue.dayKey, String.toList_ofList, String.toList_ofList, String.toList_ofList, TimeValue.text,
      begins, List.cons_append, List.take_succ_cons] at texts
    rw [dayText_digit fourDigits texts.symm] at sign
    cases sign
  · intro same
    rw [TimeValue.dayKey, TimeValue.dayKey, String.ofList_inj, begins] at same
    rw [dayText_digit fourDigits same.symm] at sign
    cases sign

/-- Both keys are a day of four digits for the same times. -/
private theorem sameDay (fourDigits : t.FourDigits) (u : TimeValue) :
    sliceToT (String.ofList u.text) = t.dayKey ↔ leftTen (String.ofList u.text) = t.dayKey := by
  rw [sliceToT_text]
  by_cases here : u.FourDigits
  · rw [leftTen_text here]
  · obtain ⟨left, whole⟩ := leftTen_signed fourDigits here
    exact ⟨fun same => absurd same whole, fun same => absurd same left⟩

private theorem leftTen_ne (others : ¬t.FourDigits) (text : String) : leftTen text ≠ t.dayKey := by
  intro same
  have short := leftTen_length text
  rw [same, TimeValue.dayKey, String.toList_ofList] at short
  have long := (dayText_signed others).1
  omega

/-! ### One total in two keys -/

section
variable {dayOf dayOf' : String → String} {bucket : Bucket}

private theorem weight_congr {subject currency amount at_ : String} (same : dayOf at_ = bucket.day ↔ dayOf' at_ = bucket.day) :
    (spendOf dayOf subject currency amount at_).weight bucket =
      (spendOf dayOf' subject currency amount at_).weight bucket := by
  obtain ⟨subject', currency', day⟩ := bucket
  have days : dayOf at_ = day ↔ dayOf' at_ = day := same
  simp only [Spend.weight, spendOf, Bucket.mk.injEq, days]

private theorem balance_cons (e : VaultEntry) (es : List VaultEntry) :
    balance bucket (postings dayOf (e :: es)) = balance bucket (postings dayOf [e]) + balance bucket (postings dayOf es) := by
  rw [← List.singleton_append, postings_append, balance_append]

private theorem balance_congr {es : List VaultEntry}
    (same : ∀ e ∈ es, ∀ text, timeOf e = some text → (dayOf text = bucket.day ↔ dayOf' text = bucket.day)) :
    balance bucket (postings dayOf es) = balance bucket (postings dayOf' es) := by
  induction es with
  | nil => rfl
  | cons e es ih =>
    rw [balance_cons e es, balance_cons e es, ih fun f member => same f (List.mem_cons_of_mem e member)]
    have first := same e List.mem_cons_self
    cases e with
    | granted g =>
      have weight : (g.spend dayOf).weight bucket = (g.spend dayOf').weight bucket := weight_congr (first g.at_ rfl)
      simp [postings, VaultEntry.posting, Posting.signed, weight]
    | released g =>
      have weight : (g.spend dayOf).weight bucket = (g.spend dayOf').weight bucket := weight_congr (first g.at_ rfl)
      simp [postings, VaultEntry.posting, Posting.signed, weight]
    | refused g => rfl
    | anchored g => rfl

private theorem balance_elsewhere (elsewhere : ∀ text, dayOf text ≠ bucket.day) (es : List VaultEntry) :
    balance bucket (postings dayOf es) = 0 := by
  have weightless : ∀ subject currency amount at_, (spendOf dayOf subject currency amount at_).weight bucket = 0 := by
    intro subject currency amount at_
    rw [Spend.weight, if_neg]
    intro same
    exact elsewhere at_ (congrArg Bucket.day same)
  induction es with
  | nil => rfl
  | cons e es ih =>
    rw [balance_cons e es, ih]
    cases e with
    | granted g => simp [postings, VaultEntry.posting, Posting.signed, VaultGrantedEntry.spend, weightless]
    | released g => simp [postings, VaultEntry.posting, Posting.signed, VaultReleasedEntry.spend, weightless]
    | refused g => rfl
    | anchored g => rfl

end

/-! ### Two vaults with one chain -/

/-- The instance has read its chain, and the table, the other instance and its own list hold
    that chain too. -/
structure Twin (host : Host) (tenantId : String) (v : FileMandateVault) (s : PostgresMandateVault) : Prop where
  read : Read host.sha256 v
  stored : (ofTenant tenantId s.rows).map asRecord = v.records
  own : s.records = v.records
  book : ∃ b, Kept tenantId s.rows b

section
variable {host : Host} {tenantId : String} {v v' : FileMandateVault} {s : PostgresMandateVault}

section
variable (twin : Twin host tenantId v s)
include twin

theorem Twin.entries : entriesOf tenantId s.rows = entries v := by
  rw [VaultParity.entries, ← twin.stored, List.map_map]
  rfl

theorem Twin.chain : s.chain tenantId = v.records := by
  obtain ⟨b, kept⟩ := twin.book
  rw [PostgresMandateVault.chain, kept.ordered.orderBySeq, twin.stored]

private theorem Twin.tail : (ofTenant tenantId s.rows).getLast?.map asRecord = v.records.getLast? := by
  rw [← twin.stored, List.getLast?_map]

theorem Twin.nextRow (entry : VaultEntry) : (append v host.sha256 entry).records =
      v.records ++ [asRecord (nextRow host tenantId (ofTenant tenantId s.rows).getLast? entry)] := by
  have tail := twin.tail
  have numbered := twin.read.numbered
  rw [append]
  refine congrArg (v.records ++ [·]) ?_
  cases last : (ofTenant tenantId s.rows).getLast? with
  | none =>
    rw [last, Option.map_none, eq_comm, List.getLast?_eq_none_iff] at tail
    rw [tail]
    rfl
  | some row =>
    rw [last, Option.map_some, eq_comm] at tail
    obtain ⟨earlier, records⟩ := List.getLast?_eq_some_iff.mp tail
    have seq : row.seq + 1 = v.records.length := by
      rw [records] at numbered ⊢
      rw [List.map_append, List.length_append, List.length_singleton, List.range_succ] at numbered
      have lasts := (List.append_inj_right' numbered rfl)
      rw [List.length_append, List.length_singleton]
      exact congrArg (· + 1) (List.singleton_inj.mp lasts)
    rw [tail, PostgresVault.nextRow, asRecord, seq]
    rfl

theorem Twin.append {entry : VaultEntry} (read : Read host.sha256 v')
    (appended : v'.records = (append v host.sha256 entry).records)
    (balances : ∀ b, Accounts leftTen (VaultParity.entries v) b →
      ∃ b', Accounts leftTen (VaultParity.entries v ++ [entry]) b') :
    Twin host tenantId v' ⟨s.rows ++ [PostgresVault.nextRow host tenantId (ofTenant tenantId s.rows).getLast? entry],
      s.records ++ [asRecord (PostgresVault.nextRow host tenantId (ofTenant tenantId s.rows).getLast? entry)]⟩ := by
  have own : ofTenant tenantId [PostgresVault.nextRow host tenantId (ofTenant tenantId s.rows).getLast? entry] =
      [PostgresVault.nextRow host tenantId (ofTenant tenantId s.rows).getLast? entry] := by
    simp [ofTenant, PostgresVault.nextRow]
  rw [twin.nextRow] at appended
  refine ⟨read, ?_, ?_, ?_⟩
  · rw [appended, ofTenant_append, own, List.map_append, twin.stored]
    rfl
  · rw [appended, twin.own]
  · obtain ⟨b, kept⟩ := twin.book
    obtain ⟨b', accounts⟩ := balances b (twin.entries ▸ kept.accounts)
    exact ⟨b', kept.next (twin.entries ▸ accounts)⟩

end

/-! ### What Postgres answers -/

variable {p : Txn VaultRow VaultRow Thrown PUnit}

private theorem withOwnLock_ok {new : List VaultRow} (ran : p.run (schema host) s.rows [] = .ok (⟨⟩, new)) :
    withOwnLock host s p = (.ok ⟨⟩, ⟨s.rows ++ new, s.records ++ new.map asRecord⟩) := by
  rw [withOwnLock, ran]

private theorem withOwnLock_idle (ran : p.run (schema host) s.rows [] = .ok (⟨⟩, []))
    : withOwnLock host s p = (.ok ⟨⟩, s) := by
  rw [withOwnLock_ok ran, List.append_nil, List.map_nil, List.append_nil]

private theorem withOwnLock_error {e : Thrown} (ran : p.run (schema host) s.rows [] = .error e)
    : withOwnLock host s p = (.error e, s) := by
  rw [withOwnLock, ran]

variable {b : Book String Bucket} {t : TimeValue}

/-- A day of four digits has one total in both vaults. -/
private theorem Twin.held_eq (twin : Twin host tenantId v s) (kept : Kept tenantId s.rows b) (fourDigits : t.FourDigits)
    (subject currency : String) : held ⟨subject, currency, t.dayKey⟩ b = total v ⟨subject, currency, t.dayKey⟩ := by
  obtain ⟨b', accounts, totals⟩ := twin.read.totals
  have accounts' := twin.entries ▸ kept.accounts
  rw [totals, ← accounts.balanced.balance_eq, ← accounts'.balanced.balance_eq]
  refine (balance_congr fun e member text time => ?_).symm
  obtain ⟨u, rfl⟩ := twin.read.dated e member text time
  exact sameDay fourDigits u

private theorem Twin.held_zero (twin : Twin host tenantId v s) (kept : Kept tenantId s.rows b) (others : ¬t.FourDigits)
    (subject currency : String) : held ⟨subject, currency, t.dayKey⟩ b = 0 := by
  have accounts := twin.entries ▸ kept.accounts
  rw [← accounts.balanced.balance_eq]
  exact balance_elsewhere (leftTen_ne others) _

/-- Totals that are not negative are told apart by their texts. -/
private theorem unscaleAmount_inj {m n : Int} (nonneg : 0 ≤ m) (nonneg' : 0 ≤ n)
    (same : unscaleAmount m = unscaleAmount n) : m = n := by
  obtain ⟨m, rfl⟩ := Int.eq_ofNat_of_zero_le nonneg
  obtain ⟨n, rfl⟩ := Int.eq_ofNat_of_zero_le nonneg'
  rw [unscaleAmount_natCast, unscaleAmount_natCast] at same
  have reads := congrArg scaleAmount same
  rw [scaleAmount_fromScaled, scaleAmount_fromScaled] at reads
  cases reads
  rfl

/-- The totals are the same exactly when the date is one that they read alike. -/
theorem Twin.spentOn (twin : Twin host tenantId v s) (subject currency : String) (at_ : Date) :
    FileVault.spentOn v subject currency at_ = onPool host s (spentOnVia tenantId subject currency at_) ↔
      Alike v (.spentOn subject currency at_) := by
  obtain ⟨b, kept⟩ := twin.book
  rw [onPool, spentOnVia_run kept]
  cases at_ with
  | none =>
    rw [utcDayKey_none, Alike, FileVault.spentOn]
    by_cases known : (v.totals.keys.any fun bucket => bucket.subject = subject && bucket.currency = currency) = true
    · rw [if_pos known]
      exact ⟨fun _ => known, fun _ => rfl⟩
    · rw [if_neg known]
      constructor
      · intro impossible
        cases impossible
      · exact fun alike => absurd alike known
  | some t =>
    rw [spentOn_some, utcDayKey_some, Alike]
    change Except.ok _ = Except.ok (unscaleAmount (held ⟨subject, currency, t.dayKey⟩ b)) ↔ _
    rw [Except.ok.injEq]
    by_cases fourDigits : t.FourDigits
    · rw [twin.held_eq kept fourDigits]
      exact ⟨fun _ => .inl fourDigits, fun _ => rfl⟩
    · rw [twin.held_zero kept fourDigits]
      constructor
      · intro same
        exact .inr (unscaleAmount_inj (twin.read.nonneg _) (le_refl 0) same)
      · intro alike
        rw [alike.resolve_left fourDigits]

theorem Twin.hasRecorded (twin : Twin host tenantId v s) (intentId : String) :
    onPool host s (hasRecordedVia tenantId intentId) = .ok (FileVault.hasRecorded v intentId) := by
  obtain ⟨b, kept⟩ := twin.book
  rw [onPool, hasRecordedVia_run kept, twin.entries, twin.read.standing]
  rfl

/-! ### What the writes leave -/

/-- Two calls return the same, and leave two vaults with one chain. -/
def Same (host : Host) (tenantId : String) (file : Result PUnit × FileMandateVault)
    (table : Result PUnit × PostgresMandateVault) : Prop :=
  file.1 = table.1 ∧ Twin host tenantId file.2 table.2

theorem Same.written {file : Result PUnit × FileMandateVault} {table : Result PUnit × PostgresMandateVault}
    (same : Same host tenantId file table) : (written file).1 = (written table).1 :=
  congrArg (Except.map fun _ => Answer.nothing) same.1

section
variable (twin : Twin host tenantId v s)
include twin

theorem Twin.record (entry : SpendLedgerEntry) :
    Same host tenantId (FileVault.record v host.sha256 entry) (withOwnLock host s (recordVia host tenantId entry)) := by
  obtain ⟨b, kept⟩ := twin.book
  have ran : (recordVia host tenantId entry).run (schema host) s.rows [] = _ := recordVia_run kept entry
  rw [twin.entries, ← twin.read.standing] at ran
  rw [FileVault.record]
  by_cases already : FileVault.hasRecorded v entry.intentId = true
  · rw [if_pos already] at ran ⊢
    rw [withOwnLock_idle ran]
    exact ⟨rfl, twin⟩
  · rw [if_neg already] at ran ⊢
    cases scales : scaleAmount entry.amount with
    | error e =>
      rw [scales] at ran
      rw [withOwnLock_error ran]
      exact ⟨rfl, twin⟩
    | ok scaled =>
      rw [scales, ok_bind] at ran
      cases time : entry.at_ with
      | none =>
        rw [time] at ran
        rw [withOwnLock_error ran]
        exact ⟨rfl, twin⟩
      | some t =>
        rw [time, toISOString, ok_bind] at ran
        rw [withOwnLock_ok ran]
        have free : (grantState entry.intentId (VaultParity.entries v)).standing = none := by
          rw [twin.read.standing] at already
          exact Option.not_isSome_iff_eq_none.mp already
        simp only [toISOString, utcDayKey_some, ← sliceToT_text]
        refine ⟨rfl, twin.append (twin.read.grant (t := t) rfl scales free) rfl fun b accounts => ?_⟩
        exact ⟨_, accounts.grant ⟨scaled, scales⟩ free⟩

theorem Twin.recordRefusal (input : RecordRefusalInput) (at_ : Date) :
    Same host tenantId (FileVault.recordRefusal v host.sha256 input at_)
      (withOwnLock host s (PostgresVault.recordRefusal host tenantId input at_)) := by
  obtain ⟨b, kept⟩ := twin.book
  cases at_ with
  | none => exact ⟨rfl, twin⟩
  | some t =>
    rw [show withOwnLock host s (PostgresVault.recordRefusal host tenantId input (some t)) = _ from
      withOwnLock_ok (appendVia_run kept _)]
    exact ⟨rfl, twin.append (twin.read.refusal _) rfl fun b accounts => ⟨b, accounts.note rfl⟩⟩

theorem Twin.recordAnchor (input : RecordAnchorInput) (at_ : Date) :
    Same host tenantId (FileVault.recordAnchor v host.sha256 input at_)
      (withOwnLock host s (PostgresVault.recordAnchor host tenantId input at_)) := by
  obtain ⟨b, kept⟩ := twin.book
  cases at_ with
  | none => exact ⟨rfl, twin.read.mark _, twin.stored, twin.own, twin.book⟩
  | some t =>
    rw [show withOwnLock host s (PostgresVault.recordAnchor host tenantId input (some t)) = _ from
      withOwnLock_ok (appendVia_run kept _)]
    exact ⟨rfl, twin.append (twin.read.anchor _) rfl fun b accounts => ⟨b, accounts.note rfl⟩⟩

private theorem Twin.release_branches (input : ReleaseSpendInput) : Alike v (.release input) ∧
        Same host tenantId (FileVault.release v host.sha256 input) (withOwnLock host s (releaseVia host tenantId input)) ∨
      ¬Alike v (.release input) ∧
        (FileVault.release v host.sha256 input).1 ≠ (withOwnLock host s (releaseVia host tenantId input)).1 := by
  obtain ⟨b, kept⟩ := twin.book
  have ran : (releaseVia host tenantId input).run (schema host) s.rows [] = _ := releaseVia_run kept input
  have granted := twin.read.granted input.intentId
  have released := twin.read.released input.intentId
  have anchored : input.intentId ∈ anchoredIn v.records ↔
    (grantState input.intentId (VaultParity.entries v)).anchored = true := anchoredIn_iff v.records input.intentId
  rw [twin.entries, releasedEntry] at ran
  by_cases already : input.intentId ∈ v.releasedIntents
  · rw [if_pos (released.mp already)] at ran
    rw [FileVault.release, if_pos already, withOwnLock_idle ran]
    exact .inl ⟨fun recorded => by simp [FileVault.hasRecorded, already] at recorded, rfl, twin⟩
  · rw [if_neg (already ∘ released.mpr)] at ran
    rw [FileVault.release, if_neg already]
    cases found : v.grants.lookup input.intentId with
    | none =>
      rw [granted.symm.trans found] at ran
      rw [withOwnLock_error ran]
      exact .inl ⟨fun recorded => by simp [FileVault.hasRecorded, found] at recorded, rfl, twin⟩
    | some g =>
      have state : (grantState input.intentId (VaultParity.entries v)).granted = some g := granted.symm.trans found
      have recorded : FileVault.hasRecorded v input.intentId = true := by simp [FileVault.hasRecorded, found, already]
      rw [state] at ran
      dsimp only at ran ⊢
      by_cases settled : input.intentId ∈ anchoredIn v.records
      · rw [if_pos (anchored.mp settled)] at ran
        rw [if_pos (twin.read.marked settled), withOwnLock_error ran]
        exact .inl ⟨fun _ _ => settled, rfl, twin⟩
      · rw [if_neg (settled ∘ anchored.mpr)] at ran
        by_cases marked : input.intentId ∈ v.anchoredIntents
        · refine .inr ⟨fun alike => settled (alike recorded marked), ?_⟩
          rw [if_pos marked, withOwnLock_ok ran]
          intro impossible
          cases impossible
        · obtain ⟨entry, own⟩ := grantState_granted state
          have stands : (grantState g.intentId (VaultParity.entries v)).standing = some g := by
            rw [own]
            exact GrantState.standing_eq_some.mpr ⟨Bool.eq_false_iff.mpr (already ∘ released.mpr), state⟩
          obtain ⟨scaled, usable⟩ : ∃ scaled, scaleAmount g.amount = .ok scaled :=
            kept.accounts.usable (.granted g) (twin.entries ▸ entry)
          rw [if_neg marked, withOwnLock_ok ran, usable, ← own]
          refine .inl ⟨fun _ here => absurd (own ▸ here) marked, rfl, ?_⟩
          exact twin.append (twin.read.release usable stands) rfl fun b accounts =>
            ⟨_, accounts.release input.reason stands⟩

/-- The releases are the same exactly when the file vault marks no anchor that its chain lacks. -/
theorem Twin.release (input : ReleaseSpendInput) :
    (FileVault.release v host.sha256 input).1 = (withOwnLock host s (releaseVia host tenantId input)).1 ↔
      Alike v (.release input) := by
  rcases twin.release_branches input with ⟨alike, same⟩ | ⟨unlike, differ⟩
  · exact ⟨fun _ => alike, fun _ => same.1⟩
  · exact ⟨fun same => absurd same differ, fun alike => absurd alike unlike⟩

end

/-! ### Whole sequences of calls -/

private theorem map_inj {α β : Type} {f : α → β} (injective : f.Injective) {x y : Result α} : x.map f = y.map f ↔ x = y := by
  cases x with
  | error e => cases y <;> simp [Except.map]
  | ok a =>
    cases y with
    | error e => simp [Except.map]
    | ok a' => simpa [Except.map] using injective.eq_iff

section
variable (twin : Twin host tenantId v s)
include twin

/-- Both answer a call alike exactly under its condition. -/
theorem Twin.answers (call : VaultParity.Call) :
    (fileCall host.sha256 v call).1 = (postgresCall host tenantId s call).1 ↔ Alike v call := by
  cases call with
  | record entry => exact ⟨fun _ => trivial, fun _ => (twin.record entry).written⟩
  | release input =>
    rw [← twin.release input]
    exact map_inj fun _ _ _ => rfl
  | recordRefusal input at_ => exact ⟨fun _ => trivial, fun _ => (twin.recordRefusal input at_).written⟩
  | recordAnchor input at_ => exact ⟨fun _ => trivial, fun _ => (twin.recordAnchor input at_).written⟩
  | spentOn subject currency at_ =>
    rw [← twin.spentOn subject currency at_]
    exact map_inj fun _ _ same => Answer.amount.inj same
  | hasRecorded intentId =>
    refine ⟨fun _ => trivial, fun _ => ?_⟩
    rw [postgresCall, twin.hasRecorded]
    rfl
  | verify =>
    refine ⟨fun _ => trivial, fun _ => ?_⟩
    rw [postgresCall, twin.own]
    rfl

theorem Twin.call {call : VaultParity.Call} (alike : Alike v call) :
    Twin host tenantId (fileCall host.sha256 v call).2 (postgresCall host tenantId s call).2 := by
  cases call with
  | record entry => exact (twin.record entry).2
  | release input =>
    rcases twin.release_branches input with ⟨_, same⟩ | ⟨unlike, _⟩
    · exact same.2
    · exact absurd alike unlike
  | recordRefusal input at_ => exact (twin.recordRefusal input at_).2
  | recordAnchor input at_ => exact (twin.recordAnchor input at_).2
  | spentOn subject currency at_ => exact twin
  | hasRecorded intentId => exact twin
  | verify => exact twin

theorem Twin.agree (calls : List VaultParity.Call) : Agree host tenantId v s calls ↔ AllAlike host.sha256 v calls := by
  induction calls generalizing v s with
  | nil => exact Iff.rfl
  | cons call rest ih =>
    rw [Agree, AllAlike, twin.answers call]
    constructor
    · rintro ⟨alike, _, _, later⟩
      exact ⟨alike, (ih (twin.call alike)).mp later⟩
    · rintro ⟨alike, later⟩
      have next := twin.call alike
      exact ⟨alike, next.chain.symm, next.own.symm, (ih next).mpr later⟩

end

/-- Nothing is in either vault yet; other tenants may have rows in the table. -/
theorem twin_empty {rows : List VaultRow} (fresh : ofTenant tenantId rows = []) :
    Twin host tenantId VaultReload.emptyVault ⟨rows, []⟩ where
  read :=
    { numbered := rfl
      intact := trivial
      dated := fun e member => by cases member
      totals := ⟨∅, accounts_nil, fun bucket => rfl⟩
      granted := fun id => rfl
      released := fun id => by simp [VaultReload.emptyVault, VaultParity.entries, grantState, GrantState.fresh]
      marked := Finset.empty_subset _ }
  stored := by
    rw [fresh]
    rfl
  own := rfl
  book := ⟨∅, kept_nil.congr (by rw [fresh]; rfl)⟩

end

def newYear10000 : TimeValue := ⟨253402300800000, by decide⟩

def distantEntry : SpendLedgerEntry := ⟨"did:agent", "tea", "USDC", "60.00", some newYear10000⟩

def distantHost : Host := ⟨fun _ => "4e2f213aa797d2da7323e2ba2155dac6de486f3deb661879aeff74343b5b66e5", fun _ => 0⟩

def distantCalls (at_ : TimeValue) : List VaultParity.Call :=
  [.record distantEntry, .hasRecorded "tea", .spentOn "did:agent" "USDC" (some at_), .verify]

end AgentPey.VaultAgreement
