import AgentPey.InMemoryLedger

/-!
The calls of one rail over the in-memory ledger, between their awaits. An authorisation
reads the day's total, then whether its intent is recorded, then records. Authorisations
of one agent follow each other, but a release is queued under its intent, so it may
come between an authorisation's reads and its record. What a call has read stays an
upper bound all the same, unless it read its intent as recorded: such a call asks for no
room, and a release before its record lets it charge an amount that no check has seen.
-/
namespace AgentPey.InProcessCalls
open AgentPass Amounts Dates LocalPolicyRail Postings PurchaseChecks Store Tasks InMemoryLedger
open VaultEntries (Bucket)

variable {strKey : StrKey}

/-! ### An authorisation between its awaits -/

def entryOf (request : AuthorisationRequest) (at_ : Date) (g : AuthorisationGranted) : SpendLedgerEntry :=
  ⟨request.intent.agent, g.intentId, g.currency, g.total, at_⟩

def bucketOf (request : AuthorisationRequest) (t : TimeValue) : Bucket :=
  ⟨request.intent.agent, request.scope.limits.currency, t.dayKey⟩

/-- A write and the call's reply to it. -/
def replying (f : InMemorySpendLedger → Result InMemorySpendLedger) (reply : Reply) :
    Task InMemorySpendLedger Thrown Reply :=
  .act (fun l => match f l with
      | .ok l' => l'
      | .error _ => l)
    fun l => match f l with
      | .ok _ => .done reply
      | .error e => .fail e

/-- A granted authorisation that has its record before it. -/
def recording (request : AuthorisationRequest) (at_ : Date) (g : AuthorisationGranted) :
    Task InMemorySpendLedger Thrown Reply :=
  replying (fun l => record l (entryOf request at_ g)) (.decision (.granted g))

/-- An authorisation that has read the day's total, and asks next whether its intent is recorded. -/
def hasRead (request : AuthorisationRequest) (at_ : Date) (total spentToday : String) :
    Task InMemorySpendLedger Thrown Reply :=
  .act (fun l => l) fun l =>
    match withinLimits request total spentToday (hasRecorded l request.intent.intentId) with
    | .ok (.granted g) => recording request at_ g
    | .ok (.refused d) => .done (.decision (.refused d))
    | .error e => .fail e

private theorem writes_bind (f : InMemorySpendLedger → Result InMemorySpendLedger) (reply : Reply) :
    ((writes f).bind fun _ => Task.done reply) = replying f reply := by
  change Task.act _ _ = Task.act _ _
  congr 1
  · funext l
    cases written : f l <;> simp only [written]
  · funext l
    cases written : f l <;> simp only [written] <;> rfl

theorem body_release (input : ReleaseSpendInput) :
    body strKey (.release input) = replying (fun l => InMemoryLedger.release l input) .released :=
  writes_bind _ _

theorem body_authorise {request : AuthorisationRequest} {total : String}
    (allowed : eligible strKey request = .ok (.allowed total)) (at_ : Date) :
    body strKey (.authorise request at_) = .act (fun l => l) fun l =>
      match InMemoryLedger.spentOn l request.intent.agent request.scope.limits.currency at_ with
      | .ok spentToday => hasRead request at_ total spentToday
      | .error e => .fail e := by
  simp only [body, authorise, LocalPolicyRail.decide, allowed]
  refine congrArg (Task.act _) (funext fun l => ?_)
  beta_reduce
  cases InMemoryLedger.spentOn l request.intent.agent request.scope.limits.currency at_ with
  | error e => rfl
  | ok spentToday =>
    refine congrArg (Task.act _) (funext fun l => ?_)
    change ((Task.ofExcept (withinLimits request total spentToday (hasRecorded l request.intent.intentId))).bind
      _).bind _ = _
    cases withinLimits request total spentToday (hasRecorded l request.intent.intentId) with
    | error e => rfl
    | ok decision =>
      cases decision with
      | refused d => rfl
      | granted g => exact (Task.bind_assoc (writes fun l => record l (entryOf request at_ g))
          (fun _ => .done (AuthorisationDecision.granted g)) fun d => .done (Reply.decision d)).trans (writes_bind _ _)

/-! ### What has been granted and not released -/

/-- A granted intent counts once, for the day of the call that granted it, until its release. -/
def enter (b : Book String Bucket) : Event Thrown Reply Call → Book String Bucket
  | .returned (.authorise request at_) (.decision (.granted g)) =>
    if (b.lookup g.intentId).isSome then b else b.insert g.intentId (spendOf (entryOf request at_ g))
  | .returned (.release input) _ => b.erase input.intentId
  | _ => b

def grantedNotReleased (events : List (Event Thrown Reply Call)) : Book String Bucket := events.foldl enter ∅

/-- A request carries a daily limit, as one of its two authorities sets it. -/
def Carries (limit : Nat) : Call → Prop
  | .authorise request _ => toScaledAmount request.scope.limits.perDay = .ok limit ∨
      toScaledAmount request.grant.scope.limits.perDay = .ok limit
  | _ => True

/-! ### The stages of a call -/

/-- Where a call stands, and what its reads still say of the day; `found` is whether it
    has read its intent as already recorded. -/
inductive Stage (strKey : StrKey) (limit : Nat) (b : Book String Bucket) (found : Prop) :
    Call → Task InMemorySpendLedger Thrown Reply → Prop where
  | begins (c : Call) : Stage strKey limit b found c (body strKey c)
  | settles {c task} (settled : task.settled = true) : Stage strKey limit b found c task
  | looks {request at_ task} (readOnly : task.ReadOnly) : Stage strKey limit b found (.preview request at_) task
  | totals {request at_ total spentToday} (amount : ∃ n, toScaledAmount total = .ok n)
      (below : ∀ t m, at_ = some t → toScaledAmount spentToday = .ok m → held (bucketOf request t) b ≤ m) :
      Stage strKey limit b found (.authorise request at_) (hasRead request at_ total spentToday)
  | records {request at_ g n} (sameCurrency : g.currency = request.scope.limits.currency)
      (amount : toScaledAmount g.total = .ok n)
      (fits : found ∨ ∀ t, at_ = some t → held (bucketOf request t) b + n ≤ limit) :
      Stage strKey limit b found (.authorise request at_) (recording request at_ g)

/-- What an act of a call does to the book. -/
inductive Effect (limit : Nat) (found : Prop) (l : InMemorySpendLedger) (b : Book String Bucket) :
    Call → Task InMemorySpendLedger Thrown Reply → Book String Bucket → Prop where
  | lowers {c task b'} (lower : ∀ bucket, held bucket b' ≤ held bucket b) : Effect limit found l b c task b'
  | charges {request t g n b'} (sameCurrency : g.currency = request.scope.limits.currency)
      (amount : toScaledAmount g.total = .ok n) (free : hasRecorded l g.intentId = false)
      (fits : found ∨ held (bucketOf request t) b + n ≤ limit)
      (charged : ∀ bucket, held bucket b' = held bucket b + if bucket = bucketOf request t then (n : Int) else 0) :
      Effect limit found l b (.authorise request (some t)) (recording request (some t) g) b'

section
variable {limit : Nat} {b b' : Book String Bucket} {found found' : Prop} {l : InMemorySpendLedger} {c : Call}
  {task : Task InMemorySpendLedger Thrown Reply}

theorem Stage.mono (stage : Stage strKey limit b found c task) (later : found → found')
    (lower : ∀ request t, c = .authorise request (some t) →
      held (bucketOf request t) b' ≤ held (bucketOf request t) b) : Stage strKey limit b' found' c task := by
  cases stage with
  | begins => exact .begins c
  | settles settled => exact .settles settled
  | looks readOnly => exact .looks readOnly
  | totals amount below =>
    refine .totals amount fun t m time spent => ?_
    subst time
    exact Int.le_trans (lower _ t rfl) (below t m rfl spent)
  | records sameCurrency amount fits =>
    refine .records sameCurrency amount ?_
    rcases fits with earlier | fits
    · exact .inl (later earlier)
    · refine .inr fun t time => ?_
      subst time
      have before := fits t rfl
      have now := lower _ t rfl
      omega

/-- The book after what a call's remaining work says of its end. -/
def closes (b : Book String Bucket) (c : Call) (task : Task InMemorySpendLedger Thrown Reply) : Book String Bucket :=
  (outcome c task).foldl enter b

/-- An act of a call: the ledger and the book it leaves, the call's next stage, and its effect. -/
structure Acts (strKey : StrKey) (limit : Nat) (found found' : Prop) (l : InMemorySpendLedger)
    (b : Book String Bucket) (c : Call) (next : InMemorySpendLedger → InMemorySpendLedger)
    (rest : InMemorySpendLedger → Task InMemorySpendLedger Thrown Reply) : Prop where
  remembers : Remembers (next l) (closes b c (rest l))
  stage : Stage strKey limit (closes b c (rest l)) found' c (rest l)
  effect : Effect limit found l b c (.act next rest) (closes b c (rest l))

private theorem closes_preview (request : AuthorisationRequest) (at_ : Date) : closes b (.preview request at_) task = b := by
  cases task <;> rfl

theorem closes_body (b : Book String Bucket) (c : Call) : closes b c (body strKey c) = b := by
  cases c with
  | authorise request at_ =>
    simp only [body, authorise, LocalPolicyRail.decide]
    cases eligible strKey request with
    | error e => rfl
    | ok check => cases check <;> rfl
  | preview request at_ => exact closes_preview request at_
  | release input => rfl

private theorem readOnly_preview (request : AuthorisationRequest) (at_ : Date) :
    (body strKey (.preview request at_)).ReadOnly := by
  refine Task.ReadOnly.bind ?_ fun _ => trivial
  refine Task.ReadOnly.bind (Task.readOnly_ofExcept _) fun check => ?_
  cases check with
  | denied d => trivial
  | allowed total =>
    refine Task.ReadOnly.bind ⟨fun _ => rfl, fun _ => Task.readOnly_ofExcept _⟩ fun spentToday => ?_
    exact Task.ReadOnly.bind ⟨fun _ => rfl, fun _ => Task.readOnly_ofExcept _⟩ fun _ => Task.readOnly_ofExcept _

section
variable {next : InMemorySpendLedger → InMemorySpendLedger}
  {rest : InMemorySpendLedger → Task InMemorySpendLedger Thrown Reply} {request : AuthorisationRequest} {at_ : Date}

private theorem acts_still (remembers : Remembers l b) (unchanged : next l = l) (kept : closes b c (rest l) = b)
    (stage : Stage strKey limit b found' c (rest l)) : Acts strKey limit found found' l b c next rest := by
  refine ⟨?_, ?_, ?_⟩ <;> rw [kept]
  · rw [unchanged]
    exact remembers
  · exact stage
  · exact .lowers fun _ => Int.le_refl _

private theorem acts_preview (remembers : Remembers l b) (readOnly : (Task.act next rest).ReadOnly) :
    Acts strKey limit found found' l b (.preview request at_) next rest :=
  acts_still remembers (readOnly.1 l) (closes_preview request at_) (.looks (readOnly.2 l))

private theorem acts_release (remembers : Remembers l b) {input : ReleaseSpendInput}
    (same : Task.act next rest = body strKey (.release input)) :
    Acts strKey limit found found' l b (.release input) next rest := by
  rw [body_release, replying] at same
  cases same
  cases released : InMemoryLedger.release l input with
  | error e =>
    refine acts_still remembers ?_ ?_ ?_ <;> simp only [released]
    · rfl
    · exact .settles rfl
  | ok l' =>
    refine ⟨?_, ?_, ?_⟩ <;> simp only [released]
    · exact remembers.release released
    · exact .settles rfl
    · exact .lowers fun bucket => held_erase_le bucket b input.intentId

variable {total : String} {g : AuthorisationGranted} {n : Nat}

private theorem acts_spentOn (remembers : Remembers l b) (allowed : eligible strKey request = .ok (.allowed total))
    (same : Task.act next rest = body strKey (.authorise request at_)) :
    Acts strKey limit found found' l b (.authorise request at_) next rest := by
  rw [body_authorise allowed] at same
  cases same
  cases read : InMemoryLedger.spentOn l request.intent.agent request.scope.limits.currency at_ with
  | error e =>
    refine acts_still remembers rfl ?_ ?_ <;> simp only [read]
    · rfl
    · exact .settles rfl
  | ok spentToday =>
    refine acts_still remembers rfl ?_ ?_ <;> simp only [read]
    · rfl
    · refine .totals (eligible_amount allowed) fun t m time spent => ?_
      subst time
      rw [remembers.spentOn] at read
      rw [fromScaledAmount_eq_ok read] at spent
      cases spent
      exact Int.self_le_toNat _

private theorem room {spentToday : String} {already : Bool} (carries : Carries limit (.authorise request at_))
    (allowed : Allowed request total spentToday already g) (fresh : already = false) (amount : toScaledAmount total = .ok n) :
    ∃ m, toScaledAmount spentToday = .ok m ∧ m + n ≤ limit := by
  subst fresh
  obtain ⟨m, addition, spent, added, ⟨limit₁, perDay₁, fits₁⟩, limit₂, perDay₂, fits₂⟩ := allowed.room
  rw [if_neg (by decide), amount] at added
  cases added
  refine ⟨m, spent, ?_⟩
  rcases carries with scope | mandate
  · rw [scope] at perDay₁
    cases perDay₁
    exact fits₁
  · rw [mandate] at perDay₂
    cases perDay₂
    exact fits₂

private theorem acts_hasRecorded (remembers : Remembers l b) (carries : Carries limit (.authorise request at_))
    {spentToday : String} (amount : ∃ n, toScaledAmount total = .ok n)
    (below : ∀ t m, at_ = some t → toScaledAmount spentToday = .ok m → held (bucketOf request t) b ≤ m)
    (reads : hasRecorded l request.intent.intentId = true → found')
    (same : Task.act next rest = hasRead request at_ total spentToday) :
    Acts strKey limit found found' l b (.authorise request at_) next rest := by
  rw [hasRead] at same
  cases same
  cases verdict : withinLimits request total spentToday (hasRecorded l request.intent.intentId) with
  | error e =>
    refine acts_still remembers rfl ?_ ?_ <;> simp only [verdict]
    · rfl
    · exact .settles rfl
  | ok decision =>
    cases decision with
    | refused d =>
      refine acts_still remembers rfl ?_ ?_ <;> simp only [verdict]
      · rfl
      · exact .settles rfl
    | granted g =>
      have allowed := withinLimits_granted verdict
      refine acts_still remembers rfl ?_ ?_ <;> simp only [verdict]
      · rfl
      · obtain ⟨n, amount⟩ := amount
        refine .records (n := n) allowed.sameCurrency (by rw [allowed.sameTotal, amount]) ?_
        cases already : hasRecorded l request.intent.intentId with
        | true => exact .inl (reads already)
        | false =>
          obtain ⟨m, spent, fits⟩ := room carries allowed already amount
          refine .inr fun t time => ?_
          have low := below t m time spent
          omega

private theorem acts_record (remembers : Remembers l b) (sameCurrency : g.currency = request.scope.limits.currency)
    (amount : toScaledAmount g.total = .ok n) (fits : found ∨ ∀ t, at_ = some t → held (bucketOf request t) b + n ≤ limit)
    (same : Task.act next rest = recording request at_ g) :
    Acts strKey limit found found' l b (.authorise request at_) next rest := by
  rw [recording, replying] at same
  cases same
  cases recorded : record l (entryOf request at_ g) with
  | error e =>
    refine acts_still remembers ?_ ?_ ?_ <;> simp only [recorded]
    · rfl
    · exact .settles rfl
  | ok l' =>
    have entered : closes b (.authorise request at_) (.done (.decision (.granted g))) =
        if (b.lookup g.intentId).isSome then b else b.insert g.intentId (spendOf (entryOf request at_ g)) := rfl
    rcases remembers.record recorded with ⟨already, unchanged⟩ | ⟨free, ⟨n', t, amount', time⟩, charged⟩
    · have stands : (b.lookup g.intentId).isSome = true := by rw [remembers.isSome_lookup]; exact already
      rw [if_pos stands] at entered
      refine acts_still remembers ?_ ?_ ?_ <;> simp only [recorded]
      · exact unchanged
      · exact entered
      · exact .settles rfl
    · have free' : ¬(b.lookup g.intentId).isSome = true := by
        rw [remembers.isSome_lookup]
        exact Bool.eq_false_iff.mp free
      rw [if_neg free'] at entered
      refine ⟨?_, ?_, ?_⟩ <;> simp only [recorded, entered]
      · exact charged
      · exact .settles rfl
      · change at_ = some t at time
        subst time
        rw [show toScaledAmount (entryOf request (some t) g).amount = _ from amount] at amount'
        cases amount'
        have unused : b.lookup g.intentId = none := by simpa using free'
        have spend := fun bucket => weight_spendOf (e := entryOf request (some t) g) amount rfl bucket
        refine .charges sameCurrency amount free (fits.imp_right fun fits => fits t rfl) fun bucket => ?_
        rw [held_charge bucket _ unused, spend, entryOf, bucketOf, sameCurrency]

theorem Stage.acts (stage : Stage strKey limit b found c (.act next rest)) (remembers : Remembers l b)
    (carries : Carries limit c) (reads : ∀ request at_ total spentToday, c = .authorise request at_ →
      Task.act next rest = hasRead request at_ total spentToday →
      hasRecorded l request.intent.intentId = true → found') : Acts strKey limit found found' l b c next rest := by
  generalize same : Task.act next rest = task at stage
  cases stage with
  | begins =>
    cases c with
    | authorise request at_ =>
      cases checked : eligible strKey request with
      | error e =>
        have failed : body strKey (.authorise request at_) = .fail e := by
          simp only [body, authorise, LocalPolicyRail.decide, checked]
          rfl
        rw [failed] at same
        cases same
      | ok check =>
        cases check with
        | denied d =>
          have denied : body strKey (.authorise request at_) = .done (.decision (.refused d)) := by
            simp only [body, authorise, LocalPolicyRail.decide, checked]
            rfl
          rw [denied] at same
          cases same
        | allowed total => exact acts_spentOn remembers checked same
    | preview request at_ =>
      refine acts_preview remembers ?_
      rw [same]
      exact readOnly_preview request at_
    | release input => exact acts_release remembers same
  | settles settled =>
    subst same
    cases settled
  | looks readOnly =>
    subst same
    exact acts_preview remembers readOnly
  | totals amount below => exact acts_hasRecorded remembers carries amount below (reads _ _ _ _ rfl same) same
  | records sameCurrency amount fits => exact acts_record remembers sameCurrency amount fits same

end

end

end AgentPey.InProcessCalls
