import AgentPey.Shoppers
import AgentPey.Disciplines

/-!
The daily limit under the shopper's many rails. A rail decides on what it has read of the ledger; what it has read may be
overtaken, by a record of another rail or by a release of its own intent, before it records itself. The day's total stays
within the mandate's limit exactly as long as every record that comes late in this way still has room in its day.
-/
namespace AgentPey.ShopperLimit
open AgentPass Amounts Dates LocalPolicyRail Postings PurchaseChecks Store Routines Disciplines Shoppers
open InMemoryLedger (InMemorySpendLedger Remembers total hasRecorded)
open VaultEntries (Bucket)

abbrev Seen := Event Call Op Thrown Op.Answer Outcome

abbrev World := System Call Process Op Thrown Op.Answer Outcome

abbrev Act := Action Call Input Empty

/-! ### Records that come late -/

/-- Another call has recorded since this one read its day's total. -/
def overtaken (i : Nat) (t : List Seen) : Bool :=
  t.foldl (fun late e =>
    match e with
    | .answered j _ (.spentOn ..) (.ok _) => if j = i then false else late
    | .answered j _ (.record _) (.ok _) => if j = i then late else true
    | _ => late) false

/-- An intent has been released since this call asked whether it is recorded. -/
def givenBack (i : Nat) (intentId : String) (t : List Seen) : Bool :=
  t.foldl (fun late e =>
    match e with
    | .answered j _ (.hasRecorded _) (.ok _) => if j = i then false else late
    | .answered _ _ (.release input) (.ok _) => if input.intentId = intentId then true else late
    | _ => late) false

/-- What a call has read of an intent's day no longer stands. -/
def late (i : Nat) (intentId : String) (t : List Seen) : Bool := overtaken i t || givenBack i intentId t

/-- A record of an intent that is not counted has room in its day. -/
def HasRoom (limit : Nat) (l : InMemorySpendLedger) (e : SpendLedgerEntry) : Prop :=
  hasRecorded l e.intentId = false → ∀ n t, toScaledAmount e.amount = .ok n → e.at_ = some t →
    total l ⟨e.subject, e.currency, t.dayKey⟩ + n ≤ limit

/-- A record that comes late has room. -/
def LateHasRoom (limit : Nat) (w : World) (t : List Seen) : Act → Prop
  | .perform i _ =>
    match w.calls[i]? with
    | some (_, .waiting (.record e) _) => late i e.intentId t = true → HasRoom limit w.shared.ledger e
    | _ => True
  | _ => True

variable (runtime : Runtime)

def runOf (actions : List Act) : World × List Seen := Traces.exec (step (host runtime)) ⟨started, []⟩ actions

/-! ### What a call has read -/

/-- A day's total as it was read. -/
structure Reading where
  subject : String
  currency : String
  at_ : Date
  spentToday : String

inductive Mode where
  | calm
  | summed (r : Reading)
  | known (r : Reading) (intentId : String) (counted : Bool)

/-- What an authorisation records fits what it has read, unless it found its intent recorded. -/
inductive Records (limit : Nat) : Mode → SpendLedgerEntry → Prop where
  | fits {r intentId counted text n already} (amount : toScaledAmount text = .ok n)
      (spent : toScaledAmount r.spentToday = .ok already) (room : counted = true ∨ already + n ≤ limit) :
      Records limit (.known r intentId counted) ⟨r.subject, intentId, r.currency, text, r.at_⟩

/-- What a call knows after an answer. -/
def learns : Mode → (o : Op) → Except Thrown o.Answer → Mode
  | _, .spentOn subject currency at_, .ok text => .summed ⟨subject, currency, at_, text⟩
  | .summed r, .hasRecorded intentId, .ok counted => .known r intentId counted
  | .known r _ _, .hasRecorded intentId, .ok counted => .known r intentId counted
  | _, .record _, _ => .calm
  | m, _, _ => m

def reading (limit : Nat) : Discipline Process Op Thrown Op.Answer Mode where
  sync m s s' m' := m' = m ∧ s'.ledger = s.ledger
  ask m o m' := m' = m ∧ ∀ e, o = .record e → Records limit m e
  expects _ _ := True
  answer := learns

/-- Questions that teach nothing of the ledger. -/
def Aside : Op → Prop
  | .spentOn .. => False
  | .hasRecorded _ => False
  | .record _ => False
  | _ => True

section
variable {limit : Nat} {runtime} {m : Mode} {α : Type}

variable {o : Op} {strKey : StrKey} {request : AuthorisationRequest} {at_ : Date} {rail : Nat} {key : String}
   {work r : Work α}

theorem learns_aside (aside : Aside o) (answer : Except Thrown o.Answer) : learns m o answer = m := by
  cases o <;> first | exact aside.elim | (cases m <;> rfl)

theorem follows_aside {Q : Mode → Except Thrown o.Answer → Prop} (aside : Aside o) (later : ∀ answer, Q m answer) :
    Follows (reading limit) m (.ask o) Q := by
  refine follows_ask ⟨rfl, fun e same => ?_⟩ fun answer _ => ?_
  · subst same
    exact aside.elim
  · change Q (learns m o answer) answer
    rw [learns_aside aside]
    exact later answer

theorem follows_atomic {β : Type} {f : Process → β × Process} {Q : Mode → Except Thrown β → Prop}
    (same : ∀ s, (f s).2.ledger = s.ledger) (later : ∀ b, Q m (.ok b)) : Follows (reading limit) m (.atomic f) Q :=
  fun s => ⟨m, ⟨rfl, same s⟩, later _⟩

theorem follows_authorise (perDay : toScaledAmount request.grant.scope.limits.perDay = .ok limit) :
    Follows (reading limit) m (authorise strKey asking request at_) fun _ _ => True := by
  unfold authorise LocalPolicyRail.decide
  apply Follows.bind
  apply Follows.bind
  apply follows_lift
  cases allowed : eligible strKey request with
  | error e => trivial
  | ok check =>
    cases check with
    | denied d => trivial
    | allowed text =>
      obtain ⟨n, amount⟩ := eligible_amount allowed
      apply Follows.bind
      refine follows_ask ⟨rfl, fun e impossible => nomatch impossible⟩ fun answer _ => ?_
      cases answer with
      | error e => trivial
      | ok spentToday =>
        apply Follows.bind
        refine follows_ask ⟨rfl, fun e impossible => nomatch impossible⟩ fun answer _ => ?_
        cases answer with
        | error e => trivial
        | ok counted =>
          apply follows_lift
          cases decided : withinLimits request text spentToday counted with
          | error e => trivial
          | ok decision =>
            cases decision with
            | refused d => trivial
            | granted g =>
              have within := withinLimits_granted decided
              obtain ⟨already, addition, spent, added, _, limit', perDay', fits⟩ := within.room
              rw [perDay] at perDay'
              cases perDay'
              rw [← within.sameTotal] at amount
              apply Follows.bind
              refine follows_ask ⟨rfl, fun e same => ?_⟩ fun answer _ => ?_
              · cases same
                rw [within.sameIntent, within.sameCurrency]
                refine .fits amount spent ?_
                cases counted with
                | true => exact .inl rfl
                | false =>
                  rw [if_neg (by decide), ← within.sameTotal, amount] at added
                  cases added
                  exact .inr fits
              · cases answer <;> trivial

theorem follows_section {Q : Mode → Except Thrown α → Prop} (fails : ∀ e, Q m (.error e))
    (follows : Follows (reading limit) m work Q) : Follows (reading limit) m (criticalSection rail key work) Q := by
  unfold criticalSection
  apply Follows.bind
  refine follows_aside (o := .enter rail key) trivial fun answer => ?_
  cases answer with
  | error e => exact fails e
  | ok _ =>
    apply Follows.finally_
    apply follows.imp
    exact fun m result holds s => ⟨m, ⟨rfl, rfl⟩, holds⟩

/-- A part of the shopper, from any mode. -/
abbrev Fits (limit : Nat) (r : Work α) : Prop := ∀ m, Follows (reading limit) m r fun _ _ => True

theorem Fits.bind {β : Type} {f : α → Work β} (first : Fits limit r) (later : ∀ a, Fits limit (f a)) :
    Fits limit (r >>= f) := by
  intro m
  exact (first m).seq (fun m' a _ => later a m') fun _ _ _ => trivial

theorem Fits.attempt (fits : Fits limit r) : Fits limit r.attempt := fun m => (fits m).attempt

theorem fits_pure (a : α) : Fits limit (pure a : Work α) := fun _ => trivial

theorem fits_throws (e : Thrown) : Fits limit (.throws e : Work α) := fun _ => trivial

theorem fits_lift (x : Result α) : Fits limit (liftM x : Work α) := fun _ => follows_lift trivial

theorem fits_ask (aside : Aside o) : Fits limit (.ask o) := fun _ => follows_aside aside fun _ => trivial

theorem fits_atomic {f : Process → α × Process} (same : ∀ s, (f s).2.ledger = s.ledger) : Fits limit (.atomic f : Work α) :=
  fun _ => follows_atomic same fun _ => trivial

theorem fits_section (fits : Fits limit work) :
    Fits limit (criticalSection rail key work) := fun m => follows_section (fun _ => trivial) (fits m)

theorem fits_releaseSpend (input : ReleaseSpendInput) : Fits limit (releaseSpend input) :=
  fits_section (fits_ask (o := .release input) trivial)

theorem fits_release (intentId : String) (cause : Thrown) : Fits limit (release intentId cause) :=
  (fits_releaseSpend _).attempt.bind fun _ => fits_pure _

theorem fits_releasing (intentId : String) (given : Except Thrown α) : Fits limit (releasing intentId given) := by
  cases given with
  | ok a => exact fits_pure a
  | error e => exact (fits_release intentId e).bind fun _ => fits_throws e

theorem fits_authorise (perDay : toScaledAmount request.grant.scope.limits.perDay = .ok limit) :
    Fits limit (authorise strKey asking request at_) := fun _ => follows_authorise perDay

theorem fits_sweeps : Fits limit sweeps :=
  (fits_ask (o := .clock) trivial).bind fun now =>
    (fits_atomic (f := Process.sweep now.ms) fun _ => rfl).bind fun expired => fits_ask (o := .dropped expired) trivial

theorem issue_ledger (p : Process) {quote : UcpQuote} {venueId : String} {intent : DatedIntent} {id : String} {now : Int} :
    (p.issue quote venueId intent id now).2.ledger = p.ledger := by
  simp only [Process.issue, Process.sweep]

end

section
variable {limit : Nat} {runtime} (perDay : toScaledAmount runtime.mandate.credentialSubject.grant.scope.limits.perDay = .ok limit)
include perDay

theorem fits_requested {intent : PurchaseIntent} {terms : Option PaymentTerms} {at_ : Date} :
    Fits limit (authorise runtime.strKey asking (requestOf runtime intent terms) at_) := fits_authorise perDay

theorem fits_signIntent (store : Store) (lines : List UcpLine) : Fits limit (signIntent runtime store lines) := by
  unfold signIntent
  refine (fits_atomic (f := Process.newRail) fun _ => rfl).bind fun rail => ?_
  refine (fits_ask (o := .clock) trivial).bind fun now => ?_
  refine (fits_ask (o := .prepareIntent store.venueId lines) trivial).bind fun prepared => ?_
  refine (fits_section (fits_requested perDay)).bind fun decision => ?_
  refine (fits_lift (granted decision)).bind fun _ => ?_
  exact (fits_ask (o := .signIntent (intentOf runtime store prepared).intent) trivial).bind fun _ => fits_pure _

theorem fits_quote (input : QuoteInput) : Fits limit (quote runtime input) := by
  unfold quote
  refine (fits_ask (o := .store input.store) trivial).bind fun store => ?_
  refine (fits_ask (o := .clock) trivial).bind fun now => ?_
  refine (fits_atomic (f := Process.sweep now.ms) fun _ => rfl).bind fun expired => ?_
  refine (fits_ask (o := .dropped expired) trivial).bind fun _ => ?_
  refine (fits_signIntent perDay store input.lines).bind fun intent => ?_
  refine (fits_ask (o := .quoteUcpCheckout store.url input.lines) trivial).attempt.bind fun opened => ?_
  refine (fits_releasing _ opened).bind fun quote => ?_
  refine (fits_ask (o := .quoteId) trivial).bind fun id => ?_
  exact (fits_ask (o := .clock) trivial).bind fun issued => fits_atomic fun s => issue_ledger s

theorem fits_pay (input : PayInput) : Fits limit (pay runtime input) := by
  have unsent_fits : ∀ {β : Type} (given : Except Thrown β), Fits limit (unsent given) := by
    intro β given
    cases given with
    | ok a => exact fits_pure a
    | error e => exact fits_throws _
  have taking : Fits limit (takeQuote input) := by
    refine (fits_lift (confirmed input)).bind fun _ => ?_
    refine (fits_ask (o := .venues) trivial).bind fun _ => ?_
    refine (fits_ask (o := .clock) trivial).bind fun now => ?_
    refine (fits_atomic fun s => ?_).bind fun taken => fits_lift taken
    unfold Process.take
    split
    · rfl
    · split <;> rfl
  have offering : ∀ entry, Fits limit (offer runtime entry) := by
    intro entry
    unfold offer
    refine (fits_ask (o := .paymentTerms entry) trivial).bind fun terms => ?_
    refine (fits_section ?_).bind fun decision => fits_lift (granted decision)
    exact (fits_ask (o := .clock) trivial).bind fun at_ => fits_requested perDay
  refine taking.attempt.bind fun taken => (unsent_fits taken).bind fun entry => ?_
  have paying : Fits limit (payUcpQuote runtime entry) :=
    (offering entry).attempt.bind fun offered => (unsent_fits offered).bind fun _ => fits_ask (o := .completeCheckout entry) trivial
  refine paying.attempt.bind fun paid => ?_
  cases paid with
  | ok receipt => exact fits_pure receipt
  | error e =>
    by_cases sent : mayHaveBeenPaid e = true
    · rw [releasingUnpaid, if_pos sent]
      exact fits_throws e
    · rw [releasingUnpaid, if_neg sent]
      exact fits_releasing _ _

theorem fits_body (c : Call) : Fits limit (body runtime c) := by
  cases c with
  | quote input => exact (fits_quote perDay input).bind fun entry => fits_pure _
  | pay input => exact (fits_pay perDay input).bind fun receipt => fits_pure _
  | sweep => exact fits_sweeps.bind fun _ => fits_pure _
  | drop input => exact (fits_releaseSpend input).attempt.bind fun _ => fits_pure _

end

/-! ### Every run -/

section
variable {l : InMemorySpendLedger} {t : List Seen} {i j : Nat} {c : Call}

/-- What a call has read still bounds its day from above, unless it was overtaken; and what it found recorded still is,
    unless it was given back. -/
def Stands (l : InMemorySpendLedger) (t : List Seen) (i : Nat) : Mode → Prop
  | .calm => True
  | .summed r => SumStands r
  | .known r intentId counted => SumStands r ∧
      (counted = true → givenBack i intentId t = false → hasRecorded l intentId = true)
where
  SumStands (r : Reading) : Prop := overtaken i t = false → ∀ n time, toScaledAmount r.spentToday = .ok n →
    r.at_ = some time → total l ⟨r.subject, r.currency, time.dayKey⟩ ≤ n

/-- The ledger remembers what stands, no day is over the limit, and the calls' readings stand. -/
structure Within (limit : Nat) (p : Process) (ms : List (Call × Option Mode)) (t : List Seen) : Prop where
  remembers : ∃ b, Remembers p.ledger b
  within : ∀ bucket, total p.ledger bucket ≤ limit
  stands : ∀ (i : Nat) c m, ms[i]? = some (c, some m) → Stands p.ledger t i m

theorem overtaken_snoc (e : Seen) : overtaken i (t ++ [e]) =
    match e with
    | .answered j _ (.spentOn ..) (.ok _) => if j = i then false else overtaken i t
    | .answered j _ (.record _) (.ok _) => if j = i then overtaken i t else true
    | _ => overtaken i t := by
  rw [overtaken, List.foldl_append]
  rfl

theorem givenBack_snoc (intentId : String) (e : Seen) : givenBack i intentId (t ++ [e]) =
    match e with
    | .answered j _ (.hasRecorded _) (.ok _) => if j = i then false else givenBack i intentId t
    | .answered _ _ (.release input) (.ok _) => if input.intentId = intentId then true else givenBack i intentId t
    | _ => givenBack i intentId t := by
  rw [givenBack, List.foldl_append]
  rfl

variable {l' : InMemorySpendLedger}

theorem Stands.frame {t' : List Seen} {m : Mode} (stands : Stands l t i m)
    (sums : overtaken i t' = false → overtaken i t = false ∧ ∀ bucket, total l' bucket ≤ total l bucket)
    (kept : ∀ intentId, givenBack i intentId t' = false →
      givenBack i intentId t = false ∧ (hasRecorded l intentId = true → hasRecorded l' intentId = true)) :
    Stands l' t' i m := by
  have sum : ∀ r, Stands.SumStands l t i r → Stands.SumStands l' t' i r := by
    intro r earlier fresh n time amount at_
    obtain ⟨fresh', less⟩ := sums fresh
    exact (less _).trans (earlier fresh' n time amount at_)
  cases m with
  | calm => trivial
  | summed r => exact sum r stands
  | known r intentId counted =>
    refine ⟨sum r stands.1, fun found fresh => ?_⟩
    obtain ⟨fresh', still⟩ := kept intentId fresh
    exact still (stands.2 found fresh')

variable {p p' : Process} {ms : List (Call × Option Mode)} {t' : List Seen} {m m' : Mode} {limit : Nat}

theorem Within.moved (holds : Within limit p ms t) (remembers : ∃ b, Remembers p'.ledger b)
    (within : ∀ bucket, total p'.ledger bucket ≤ limit)
    (others : ∀ j m, j ≠ i → Stands p.ledger t j m → Stands p'.ledger t' j m) (own : Stands p'.ledger t' i m') :
    Within limit p' (ms.set i (c, some m')) t' := by
  refine ⟨remembers, within, fun j d m found => ?_⟩
  rcases mode_of_set found with ⟨rfl, _, same⟩ | ⟨other, found⟩
  · cases same
    exact own
  · exact others j m other (holds.stands j d m found)

theorem Within.quiet (holds : Within limit p ms t) (mode : ms[i]? = some (c, some m)) (same : p'.ledger = p.ledger)
    (sums : ∀ j, overtaken j t' = overtaken j t) (kept : ∀ j intentId, givenBack j intentId t' = givenBack j intentId t) :
    Within limit p' (ms.set i (c, some m)) t' := by
  have frame : ∀ j m, Stands p.ledger t j m → Stands p'.ledger t' j m := by
    intro j m stands
    apply stands.frame
    · intro fresh
      rw [sums] at fresh
      exact ⟨fresh, fun bucket => by rw [same]⟩
    · intro intentId fresh
      rw [kept] at fresh
      exact ⟨fresh, fun found => by rw [same]; exact found⟩
  refine holds.moved ?_ ?_ (fun j m _ => frame j m) (frame i m (holds.stands i c m mode))
  · rw [same]
    exact holds.remembers
  · rw [same]
    exact holds.within

/-! ### What the ledger's writes do to the days -/

variable {b : Book String Bucket} {e : SpendLedgerEntry} {input : Input} {o : Op} {answer : Except Thrown o.Answer}

theorem record_within (remembers : Remembers l b) (within : ∀ bucket, total l bucket ≤ limit) (room : HasRoom limit l e)
    (recorded : InMemoryLedger.record l e = .ok l') : (∃ b', Remembers l' b') ∧ (∀ bucket, total l' bucket ≤ limit) ∧
      ∀ intentId, hasRecorded l intentId = true → hasRecorded l' intentId = true := by
  rcases remembers.record recorded with ⟨_, same⟩ | ⟨fresh, ⟨n, time, amount, at_⟩, remembers'⟩
  · rw [same]
    exact ⟨⟨b, remembers⟩, within, fun _ => id⟩
  · have free : b.lookup e.intentId = none := by
      rw [← Option.not_isSome_iff_eq_none, remembers.isSome_lookup, fresh]
      decide
    refine ⟨⟨_, remembers'⟩, fun bucket => ?_, fun intentId found => ?_⟩
    · rw [remembers'.totals, held_charge bucket _ free, InMemoryLedger.weight_spendOf amount at_, ← remembers.totals]
      split_ifs with here
      · rw [here]
        exact room fresh n time amount at_
      · rw [Int.add_zero]
        exact within bucket
    · rw [← remembers.isSome_lookup] at found
      rw [← remembers'.isSome_lookup, lookup_insert]
      split_ifs
      · rfl
      · exact found

theorem release_lowers {input : ReleaseSpendInput} (remembers : Remembers l b)
    (released : InMemoryLedger.release l input = .ok l') :
    (∃ b', Remembers l' b') ∧ (∀ bucket, total l' bucket ≤ total l bucket) ∧
      ∀ intentId, intentId ≠ input.intentId → hasRecorded l intentId = true → hasRecorded l' intentId = true := by
  have remembers' := remembers.release released
  refine ⟨⟨_, remembers'⟩, fun bucket => ?_, fun intentId other found => ?_⟩
  · rw [remembers'.totals, remembers.totals]
    exact held_erase_le bucket b input.intentId
  · rw [← remembers.isSome_lookup] at found
    rw [← remembers'.isSome_lookup, lookup_erase, if_neg other]
    exact found

theorem Records.room (records : Records limit m e) (stands : Stands l t i m)
    (inTime : late i e.intentId t = false) : HasRoom limit l e := by
  cases records with
  | @fits r intentId counted text n already amount spent room =>
    simp only [late, Bool.or_eq_false_iff] at inTime
    intro free n' time amount' at_
    have same : n' = n := by
      have := amount.symm.trans amount'
      cases this
      rfl
    subst same
    have bound := stands.1 inTime.1 _ time spent at_
    rcases room with found | room
    · rw [stands.2 found inTime.2] at free
      cases free
    · change total l ⟨r.subject, r.currency, time.dayKey⟩ + n' ≤ limit
      omega

/-! ### What the answers do -/

section
variable (holds : Within limit p ms t)
include holds

theorem Within.record (e : SpendLedgerEntry) (mode : ms[i]? = some (c, some m)) (records : Records limit m e)
    (room : late i e.intentId t = true → HasRoom limit p.ledger e) :
    Within limit (written (InMemoryLedger.record p.ledger e) p).2 (ms.set i (c, some .calm))
      (t ++ [.answered i c (.record e) (written (InMemoryLedger.record p.ledger e) p).1]) := by
  have fits : HasRoom limit p.ledger e := by
    by_cases tooLate : late i e.intentId t = true
    · exact room tooLate
    · exact records.room (holds.stands i c m mode) (Bool.eq_false_iff.mpr tooLate)
  cases recorded : InMemoryLedger.record p.ledger e with
  | error refused =>
    refine holds.moved holds.remembers holds.within (fun j m _ stands => ?_) trivial
    apply stands.frame <;> simp [written, overtaken_snoc, givenBack_snoc]
  | ok l' =>
    obtain ⟨b, remembers⟩ := holds.remembers
    obtain ⟨remembers', within, still⟩ := record_within remembers holds.within fits recorded
    refine holds.moved remembers' within (fun j m other stands => ?_) trivial
    apply stands.frame
    · simp [written, overtaken_snoc, Ne.symm other]
    · simpa [written, givenBack_snoc] using fun intentId fresh => ⟨fresh, still intentId⟩

theorem Within.release (input : ReleaseSpendInput) (mode : ms[i]? = some (c, some m)) :
    Within limit (written (InMemoryLedger.release p.ledger input) p).2 (ms.set i (c, some m))
      (t ++ [.answered i c (.release input) (written (InMemoryLedger.release p.ledger input) p).1]) := by
  have own := holds.stands i c m mode
  cases released : InMemoryLedger.release p.ledger input with
  | error refused =>
    refine holds.quiet mode rfl ?_ ?_ <;> simp [written, overtaken_snoc, givenBack_snoc]
  | ok l' =>
    obtain ⟨b, remembers⟩ := holds.remembers
    obtain ⟨remembers', lower, still⟩ := release_lowers remembers released
    have frame : ∀ j m, Stands p.ledger t j m →
        Stands l' (t ++ [.answered i c (.release input) (.ok ⟨⟩)]) j m := by
      intro j m stands
      apply stands.frame
      · simpa [overtaken_snoc] using fun fresh => ⟨fresh, lower⟩
      · intro intentId fresh
        simp only [givenBack_snoc] at fresh
        split_ifs at fresh with same
        exact ⟨fresh, still intentId (Ne.symm same)⟩
    exact holds.moved remembers' (fun bucket => (lower bucket).trans (holds.within bucket)) (fun j m _ => frame j m)
      (frame i m own)

theorem Within.spentOn (subject currency : String) (at_ : Date) (mode : ms[i]? = some (c, some m)) : Within limit p
      (ms.set i (c, some (learns m (.spentOn subject currency at_) (InMemoryLedger.spentOn p.ledger subject currency at_))))
      (t ++ [.answered i c (.spentOn subject currency at_) (InMemoryLedger.spentOn p.ledger subject currency at_)]) := by
  cases answer : InMemoryLedger.spentOn p.ledger subject currency at_ with
  | error e =>
    refine holds.quiet (m := m) mode rfl ?_ ?_ <;> simp [overtaken_snoc, givenBack_snoc]
  | ok text =>
    refine holds.moved holds.remembers holds.within (fun j m other stands => ?_) ?_
    · apply stands.frame <;> simp [overtaken_snoc, givenBack_snoc, Ne.symm other]
    · intro _ n time amount at_time
      change at_ = some time at at_time
      change toScaledAmount text = .ok n at amount
      obtain ⟨b, remembers⟩ := holds.remembers
      rw [at_time, remembers.spentOn] at answer
      rw [fromScaledAmount_eq_ok answer] at amount
      cases amount
      rw [remembers.totals]
      exact Int.self_le_toNat _

theorem Within.hasRecorded (intentId : String) (mode : ms[i]? = some (c, some m)) :
    Within limit p (ms.set i (c, some (learns m (.hasRecorded intentId) (.ok (InMemoryLedger.hasRecorded p.ledger intentId)))))
      (t ++ [.answered i c (.hasRecorded intentId) (.ok (InMemoryLedger.hasRecorded p.ledger intentId))]) := by
  have own := holds.stands i c m mode
  have sum : ∀ r, Stands.SumStands p.ledger t i r → Stands.SumStands p.ledger
      (t ++ [.answered i c (.hasRecorded intentId) (.ok (InMemoryLedger.hasRecorded p.ledger intentId))]) i r := by
    intro r stands fresh
    exact stands (by simpa [overtaken_snoc] using fresh)
  refine holds.moved holds.remembers holds.within (fun j m other stands => ?_) ?_
  · apply stands.frame <;> simp [overtaken_snoc, givenBack_snoc, Ne.symm other]
  · cases m with
    | calm => trivial
    | summed r => exact ⟨sum r own, fun found _ => found⟩
    | known r _ _ => exact ⟨sum r own.1, fun found _ => found⟩

end

theorem serve_aside (aside : Aside o) (other : ∀ input, o ≠ .release input)
    (served : serve o input p = some (answer, p')) : p'.ledger = p.ledger := by
  cases o with
  | spentOn => exact aside.elim
  | hasRecorded => exact aside.elim
  | record => exact aside.elim
  | release input => exact absurd rfl (other input)
  | enter rail key =>
    simp only [serve, enter] at served
    split_ifs at served
    cases served
    rfl
  | _ =>
    cases input <;> cases served <;> rfl

theorem Within.serve (holds : Within limit p ms t) (mode : ms[i]? = some (c, some m))
    (records : ∀ e, o = .record e → Records limit m e)
    (room : ∀ e, o = .record e → late i e.intentId t = true → HasRoom limit p.ledger e)
    (served : Shoppers.serve o input p = some (answer, p')) :
    Within limit p' (ms.set i (c, some (learns m o answer))) (t ++ [.answered i c o answer]) := by
  by_cases aside : Aside o ∧ ∀ input, o ≠ .release input
  · rw [learns_aside aside.1]
    have same := serve_aside aside.1 aside.2 served
    refine holds.quiet mode same (fun j => ?_) fun j intentId => ?_
    · rw [overtaken_snoc]
      cases o <;> first | rfl | exact aside.1.elim
    · rw [givenBack_snoc]
      cases o <;> first | rfl | exact aside.1.elim | exact absurd rfl (aside.2 _)
  · cases o with
    | spentOn subject currency at_ =>
      cases served
      exact holds.spentOn subject currency at_ mode
    | hasRecorded intentId =>
      cases served
      exact holds.hasRecorded intentId mode
    | record e =>
      have answers := Option.some.inj served
      have recorded := holds.record e mode (records e rfl) (room e rfl)
      rw [answers] at recorded
      cases m <;> exact recorded
    | release given =>
      have answers := Option.some.inj served
      have released := holds.release given mode
      rw [answers] at released
      rw [learns_aside (o := .release given) trivial]
      exact released
    | _ => exact absurd ⟨trivial, fun _ => Op.noConfusion⟩ aside

/-- Every kind of step keeps the ledger within the limit, as long as the records that come late have room. -/
theorem keeps_within (runtime : Runtime)
    (perDay : toScaledAmount runtime.mandate.credentialSubject.grant.scope.limits.perDay = .ok limit) :
    Keeps (host runtime) (reading limit) (fun _ _ _ => True) (fun p ms t => Within limit p ms t)
      (fun _ p ms t => Within limit p ms t) (LateHasRoom limit) where
  start {w ms t c} holds aligned may := by
    refine ⟨.calm, fits_body perDay c .calm, holds.remembers, holds.within, fun i d m found => ?_⟩
    rcases mode_of_append found with ⟨_, _, same⟩ | found
    · cases same
      trivial
    · exact holds.stands i d m found
  resume holds _ _ := holds
  sync {s ms t i c m s' m'} holds mode step := by
    obtain ⟨rfl, same⟩ := step
    exact holds.quiet mode same (fun _ => rfl) fun _ _ => rfl
  ask {s ms t i c m o m' w a calls} holds mode asks _ _ _ := by
    obtain ⟨rfl, _⟩ := asks
    refine holds.quiet mode rfl (fun j => ?_) fun j intentId => ?_
    · rw [overtaken_snoc]
    · rw [givenBack_snoc]
  serve {w ms t i c m m₀ o rest input answer s'} holds aligned mode here may asks served := by
    refine ⟨trivial, holds.serve mode ?_ ?_ served⟩
    · obtain ⟨rfl, records⟩ := asks
      exact records
    · rintro e rfl
      simpa [LateHasRoom, here] using may
  finish {s ms t i c m result w a calls} holds mode _ _ _ := by
    refine ⟨holds.remembers, holds.within, fun j d m found => ?_⟩
    rcases mode_of_set found with ⟨_, _, impossible⟩ | ⟨_, found⟩
    · cases impossible
    · apply (holds.stands j d m found).frame <;> simp [overtaken_snoc, givenBack_snoc]
  outside {w ms t k} _ _ := k.elim
  crash {w ms t} _ _ _ := by
    refine ⟨⟨_, InMemoryLedger.remembers_empty⟩, fun bucket => Int.natCast_nonneg limit, fun i c m found => ?_⟩
    cases mode_of_kill found

end

/-- Over every interleaving the days stay within the mandate's limit exactly when every record that comes late has room
    in its day. -/
theorem days_within_limit {limit : Nat} {runtime : Runtime} {actions : List Act}
    (perDay : toScaledAmount runtime.mandate.credentialSubject.grant.scope.limits.perDay = .ok limit) :
    (∀ before after, actions = before ++ after → ∀ bucket, total (runOf runtime before).1.shared.ledger bucket ≤ limit) ↔
      ∀ before a after, actions = before ++ a :: after →
        LateHasRoom limit (runOf runtime before).1 (runOf runtime before).2 a := by
  constructor
  · intro within before a after same
    have bound := within (before ++ [a]) after (by rw [same, List.append_assoc]; rfl)
    have stepped : (runOf runtime (before ++ [a])).1 = (step (host runtime) (runOf runtime before).1 a).1 := by
      simp [runOf, Traces.exec_append]
    rw [stepped] at bound
    generalize (runOf runtime before).1 = w at bound ⊢
    cases a with
    | perform i input =>
      rw [LateHasRoom]
      cases found : w.calls[i]? with
      | none => trivial
      | some call =>
        obtain ⟨c, phase⟩ := call
        cases phase with
        | waiting o rest =>
          cases o with
          | record e =>
            intro _ fresh n time amount at_
            obtain ⟨l', recorded, added⟩ := InMemoryLedger.record_adds fresh amount at_
            have later := bound ⟨e.subject, e.currency, time.dayKey⟩
            rw [← added]
            simpa [step, found, host, Shoppers.serve, recorded, written] using later
          | _ => trivial
        | _ => trivial
    | _ => trivial
  · rintro rooms before after rfl bucket
    have start : Holds (reading limit) (fun _ _ _ => True) (fun p ms t => Within limit p ms t)
        (⟨started, []⟩ : World) [] := by
      refine ⟨[], ⟨⟨_, InMemoryLedger.remembers_empty⟩, fun bucket => Int.natCast_nonneg limit, ?_⟩, aligned_nil⟩
      intro i c m found
      simp at found
    obtain ⟨_, holds, _⟩ := kept_along (keeps_within runtime perDay) start before fun first a rest same =>
      rooms first a (rest ++ after) (by rw [same, List.append_assoc]; rfl)
    exact holds.within bucket

/-! ### Two quotes that read the same day -/

def sampleRuntime : Runtime where
  strKey := sampleStrKey
  subject := "did:agent"
  principal := "did:principal"
  scope := sampleScope
  mandate := (sampleRequest "tea" "60.00").mandate

def samplePrepared (intentId : String) : PreparedIntent where
  intentId := intentId
  issuedAt := "2026-09-30T09:00:00Z"
  expiresAt := MS_PER_DAY * 20727
  purchase := .single ⟨"tea", 1, "60.00"⟩ "USDC:G1"

def sampleTime : TimeValue := ⟨MS_PER_DAY * 20726 + 43200000, by decide⟩

def quoting (i : Nat) (intentId : String) : List Act :=
  .start (.quote ⟨"tea", [⟨"tea", 1⟩]⟩) ::
    [Input.store ⟨"https://tea.example", "shop:C1"⟩, .time sampleTime, .nothing, .time sampleTime,
      .prepared (samplePrepared intentId), .nothing, .nothing, .nothing].flatMap fun answer =>
        [.perform i answer, .resume i]

def recording (i : Nat) : Act := .perform i .nothing

/-- A step that is a late record. -/
def comesLate (w : World) (t : List Seen) : Act → Bool
  | .perform i _ =>
    match w.calls[i]? with
    | some (_, .waiting (.record e) _) => late i e.intentId t
    | _ => false
  | _ => false

theorem lateHasRoom_of_inTime {limit : Nat} {w : World} {t : List Seen} {a : Act} (inTime : comesLate w t a = false) :
    LateHasRoom limit w t a := by
  cases a with
  | perform i input =>
    rw [comesLate] at inTime
    rw [LateHasRoom]
    split
    next c e rest found =>
      rw [found] at inTime
      intro tooLate
      simp [tooLate] at inTime
    next => trivial
  | _ => trivial

private theorem sample_perDay :
    toScaledAmount sampleRuntime.mandate.credentialSubject.grant.scope.limits.perDay = .ok 1000000000 := by rfl

def turns : List Act := quoting 0 "tea" ++ [recording 0] ++ quoting 1 "coffee" ++ [recording 1]

/-- The second quote reads the first one's record, and is refused. -/
theorem days_within_limit_sample :
    total (runOf sampleRuntime turns).1.shared.ledger ⟨"did:agent", "USDC", "2026-09-30"⟩ ≤ 1000000000 := by
  refine (days_within_limit sample_perDay).mpr ?_ _ [] (List.append_nil _).symm _
  intro before a after same
  have checked : ∀ k < turns.length, (turns[k]?).all (fun a =>
      !comesLate (runOf sampleRuntime (turns.take k)).1 (runOf sampleRuntime (turns.take k)).2 a) = true := by
    decide +kernel
  change turns = before ++ a :: after at same
  have here := checked before.length (by simp [same])
  rw [show turns.take before.length = before by simp [same], show turns[before.length]? = some a by simp [same]] at here
  exact lateHasRoom_of_inTime (by simpa using here)

/-- Both quotes read the day before either records: a hundred and twenty stand against a limit of a hundred. -/
theorem quotes_exceed :
    toScaledAmount sampleRuntime.mandate.credentialSubject.grant.scope.limits.perDay = .ok 1000000000 ∧
      ¬total (runOf sampleRuntime (quoting 0 "tea" ++ quoting 1 "coffee" ++ [recording 0, recording 1])).1.shared.ledger
        ⟨"did:agent", "USDC", "2026-09-30"⟩ ≤ 1000000000 := by
  have spent : total (runOf sampleRuntime
      (quoting 0 "tea" ++ quoting 1 "coffee" ++ [recording 0, recording 1])).1.shared.ledger
      ⟨"did:agent", "USDC", "2026-09-30"⟩ = 1200000000 := by
    decide +kernel
  refine ⟨sample_perDay, ?_⟩
  rw [spent]
  decide

end AgentPey.ShopperLimit
