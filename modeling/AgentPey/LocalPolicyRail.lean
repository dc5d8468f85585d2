import AgentPey.PurchaseChecks

/-!
The off-chain policy rail: `policy/policy-rail.ts` over any ledger of the port in
`ledger/spend-ledger.ts`. The rail is written once, over the monad its ledger's
calls run in; what a critical section is, and which calls run between two reads,
is the ledger's business. The checks that read no ledger come first.
-/
namespace AgentPey.LocalPolicyRail
open AgentPass Amounts Dates PurchaseChecks

/-- Everything the rail needs to decide, passed in rather than held. -/
structure AuthorisationRequest where
  intent : PurchaseIntent
  scope : Scope
  mandate : AgentPayMandate
  terms : Option PaymentTerms

def AuthorisationRequest.grant (request : AuthorisationRequest) : MandateGrant :=
  request.mandate.credentialSubject.grant

structure AuthorisationGranted where
  intentId : String
  total : String
  currency : String
  spentToday : String
  reconciled : Bool

inductive AuthorisationDecision where
  | granted (g : AuthorisationGranted)
  | refused (d : Denial)

structure SpendLedgerEntry where
  subject : String
  intentId : String
  currency : String
  amount : String
  at_ : Date

structure ReleaseSpendInput where
  intentId : String
  reason : String

/-- The read-only half of a ledger. -/
structure Reader (m : Type → Type) where
  spentOn : String → String → Date → m String
  hasRecorded : String → m Bool

/-- The ledger inside one critical section. -/
structure LockedSpendLedger (m : Type → Type) extends Reader m where
  record : SpendLedgerEntry → m PUnit
  release : ReleaseSpendInput → m PUnit

/-! ### The decision -/

/-- The terms are reconciled when there are any. -/
def reconciled (request : AuthorisationRequest) : Result (Check PUnit) :=
  match request.terms with
  | none => pure (.allowed ⟨⟩)
  | some terms => reconcileTerms request.intent terms request.grant.payTo

/-- The checks that need no memory: terms, scope, mandate. What they allow is the
    scope check's total. -/
def eligible (strKey : StrKey) (request : AuthorisationRequest) : Result (Check String) := do
  match ← reconciled request with
  | .denied d => pure (.denied d)
  | .allowed _ =>
    let asked ← scopeRequestOf request.intent
    match ← checkScope strKey request.scope asked with
    | .denied d => pure (.denied d)
    | .allowed inScope =>
      match ← checkMandate strKey request.mandate request.intent with
      | .denied d => pure (.denied d)
      | .allowed _ => pure (.allowed inScope.total)

/-- Both daily limits against one running total; a purchase already recorded adds nothing to it. -/
def withinLimits (request : AuthorisationRequest) (total spentToday : String) (alreadyRecorded : Bool) :
    Result AuthorisationDecision := do
  let addition := if alreadyRecorded then "0" else total
  match ← checkDailyLimit request.scope.limits.perDay spentToday addition .ScopeDailyLimitExceeded with
  | .denied d => pure (.refused d)
  | .allowed underScope =>
    match ← checkDailyLimit request.grant.scope.limits.perDay spentToday addition .MandateDailyLimitExceeded with
    | .denied d => pure (.refused d)
    | .allowed _ =>
      pure (.granted ⟨request.intent.intentId, total, request.scope.limits.currency, underScope.total,
        request.terms.isSome⟩)

section
variable {m : Type → Type} [Monad m] [MonadLiftT Result m]

/-- Every check, and no way to record anything. -/
def decide (strKey : StrKey) (reader : Reader m) (request : AuthorisationRequest) (at_ : Date) :
    m AuthorisationDecision := do
  match ← liftM (eligible strKey request) with
  | .denied d => pure (.refused d)
  | .allowed total =>
    let spentToday ← reader.spentOn request.intent.agent request.scope.limits.currency at_
    let alreadyRecorded ← reader.hasRecorded request.intent.intentId
    liftM (withinLimits request total spentToday alreadyRecorded)

/-- The work of `authorise` inside its critical section, at the time its clock reads. -/
def authorise (strKey : StrKey) (locked : LockedSpendLedger m) (request : AuthorisationRequest) (at_ : Date) :
    m AuthorisationDecision := do
  match ← decide strKey locked.toReader request at_ with
  | .refused d => pure (.refused d)
  | .granted g => do
    locked.record ⟨request.intent.agent, g.intentId, g.currency, g.total, at_⟩
    pure (.granted g)

end

/-! ### What a decision has checked -/

variable {request : AuthorisationRequest} {total : String}

theorem eligible_amount {strKey : StrKey}
    (allowed : eligible strKey request = .ok (.allowed total)) : ∃ n, toScaledAmount total = .ok n := by
  simp only [eligible, bind_eq_ok] at allowed
  obtain ⟨terms, _, allowed⟩ := allowed
  cases terms with
  | denied d => cases allowed
  | allowed u =>
    simp only [bind_eq_ok] at allowed
    obtain ⟨asked, _, inScope, checked, allowed⟩ := allowed
    cases inScope with
    | denied d => cases allowed
    | allowed inScope =>
      simp only [bind_eq_ok] at allowed
      obtain ⟨mandated, _, allowed⟩ := allowed
      cases mandated with
      | denied d => cases allowed
      | allowed m =>
        cases allowed
        simp only [checkScope] at checked
        split_ifs at checked
        · cases checked
        · cases checked
        · cases checked
        · simp only [bind_eq_ok] at checked
          obtain ⟨parsed, _, checked⟩ := checked
          split_ifs at checked
          · cases checked
          · simp only [bind_eq_ok] at checked
            obtain ⟨sum, _, limit, _, text, written, checked⟩ := checked
            split_ifs at checked
            · cases checked
            · cases checked
              exact ⟨_, fromScaledAmount_eq_ok written⟩

theorem checkDailyLimit_allowed {perDay spentToday amount : String} {code : AuthorisationRejectionCode}
    {a : DailyLimitAllowed} (allowed : checkDailyLimit perDay spentToday amount code = .ok (.allowed a)) :
    ∃ limit already addition, toScaledAmount perDay = .ok limit ∧ toScaledAmount spentToday = .ok already ∧
      toScaledAmount amount = .ok addition ∧ already + addition ≤ limit := by
  simp only [checkDailyLimit, bind_eq_ok] at allowed
  obtain ⟨limit, perDayIs, already, spentIs, addition, amountIs, total, _, allowed⟩ := allowed
  split_ifs at allowed with exceeded
  · cases allowed
  · exact ⟨limit, already, addition, perDayIs, spentIs, amountIs, by omega⟩

/-- What a grant says of its request, and the room both limits had for it. -/
structure Allowed (request : AuthorisationRequest) (total spentToday : String) (alreadyRecorded : Bool)
    (g : AuthorisationGranted) : Prop where
  sameIntent : g.intentId = request.intent.intentId
  sameTotal : g.total = total
  sameCurrency : g.currency = request.scope.limits.currency
  room : ∃ already addition, toScaledAmount spentToday = .ok already ∧
    toScaledAmount (if alreadyRecorded then "0" else total) = .ok addition ∧
    (∃ limit, toScaledAmount request.scope.limits.perDay = .ok limit ∧ already + addition ≤ limit) ∧
    ∃ limit, toScaledAmount request.grant.scope.limits.perDay = .ok limit ∧ already + addition ≤ limit

theorem withinLimits_granted {spentToday : String} {alreadyRecorded : Bool} {g : AuthorisationGranted}
    (granted : withinLimits request total spentToday alreadyRecorded = .ok (.granted g)) :
    Allowed request total spentToday alreadyRecorded g := by
  simp only [withinLimits, bind_eq_ok] at granted
  obtain ⟨underScope, inScope, granted⟩ := granted
  cases underScope with
  | denied d => cases granted
  | allowed a =>
    simp only [bind_eq_ok] at granted
    obtain ⟨underMandate, mandated, granted⟩ := granted
    cases underMandate with
    | denied d => cases granted
    | allowed b =>
      cases granted
      obtain ⟨limit, already, addition, perDay, spent, amount, fits⟩ := checkDailyLimit_allowed inScope
      obtain ⟨limit', already', addition', perDay', spent', amount', fits'⟩ := checkDailyLimit_allowed mandated
      rw [spent] at spent'
      rw [amount] at amount'
      cases spent'
      cases amount'
      exact ⟨rfl, rfl, rfl, already, addition, spent, amount, ⟨limit, perDay, fits⟩, ⟨limit', perDay', fits'⟩⟩

@[simp] theorem toScaledAmount_zero : toScaledAmount "0" = .ok 0 := by rfl

/-! ### A sample request -/

def sampleStrKey : StrKey := ⟨fun _ => true, fun _ => false⟩

def sampleScope : Scope := ⟨["intent:create"], ["shop:C1"], ["USDC:G1"], ⟨"100", "100", "USDC"⟩⟩

/-- One unit at a price, with a daily limit of a hundred from both authorities. -/
def sampleRequest (intentId price : String) : AuthorisationRequest where
  intent := ⟨intentId, "2026-09-30T09:00:00Z", "did:agent", "did:principal", "shop:C1",
    .single ⟨"tea", 1, price⟩ "USDC:G1"⟩
  scope := sampleScope
  mandate := ⟨"did:principal", "2026-09-01T00:00:00Z", "2026-10-31T00:00:00Z", ⟨"did:agent", ⟨sampleScope, none, none⟩⟩⟩
  terms := none

def sampleNoon (days : Nat) : Date := TimeValue.ofMs (MS_PER_DAY * (20726 + days) + 43200000)

end AgentPey.LocalPolicyRail
