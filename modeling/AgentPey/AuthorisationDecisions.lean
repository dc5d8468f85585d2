import AgentPey.InMemoryLedger

/-!
What the local policy rail decides, on any ledger: `authorise` grants exactly what the terms, the scope, the mandate and
both daily limits admit, all at one amount. What each of them admits is said first, without the order of the checks;
then the rail runs alone over a ledger whose state is passed along.
-/
namespace AgentPey.AuthorisationDecisions
open AgentPass Amounts Dates LocalPolicyRail PurchaseChecks
open LocalPolicyRail (reconciled)

def amountText (n : Nat) : String := String.ofList (FixedPoint.unscale AMOUNT_DECIMALS n)

/-! ### What each authority admits -/

/-- Some limit is not below an amount. -/
def Within (limit : String) (n : Nat) : Prop := ∃ l, toScaledAmount limit = .ok l ∧ n ≤ l

/-- The asset's code is the currency of the limits. -/
def Denominated (strKey : StrKey) (asset currency : String) : Prop :=
  ∃ parsed, parseAssetId strKey asset = .ok parsed ∧ parsed.code = currency

structure TermsAdmit (intent : PurchaseIntent) (terms : PaymentTerms) (allowedPayTo : Option (List String)) (n : Nat) :
    Prop where
  sameVenue : terms.venue = intent.venue
  sameAsset : terms.asset = intent.purchase.asset
  amount : toScaledAmount terms.amount = .ok n
  payee : ∀ permitted payTo, allowedPayTo = some permitted → terms.payTo = some payTo → payTo ∈ permitted

structure ScopeAdmits (strKey : StrKey) (scope : Scope) (venue asset : String) (n : Nat) : Prop where
  permitsAction : INTENT_CREATE_ACTION ∈ scope.actions
  permitsVenue : venue ∈ scope.venues
  permitsAsset : asset ∈ scope.assets
  denominated : Denominated strKey asset scope.limits.currency
  within : Within scope.limits.perTx n

structure MandateAdmits (strKey : StrKey) (mandate : AgentPayMandate) (intent : PurchaseIntent) (n : Nat) : Prop where
  agent : mandate.credentialSubject.id = intent.agent
  principal : mandate.issuer = intent.principal
  products : ∀ permitted, mandate.credentialSubject.grant.products = some permitted →
    ∀ line ∈ intentLines intent.purchase, line.productId ∈ permitted
  window : before (parse intent.issuedAt) (parse mandate.validFrom) = false ∧
    before (parse mandate.validUntil) (parse intent.issuedAt) = false
  grant : ScopeAdmits strKey mandate.credentialSubject.grant.scope intent.venue intent.purchase.asset n

def LimitAdmits (perDay spentToday : String) (addition : Nat) : Prop :=
  ∃ already, toScaledAmount spentToday = .ok already ∧ Within perDay (already + addition)

/-- What does not depend on the ledger. -/
structure Admitted (strKey : StrKey) (request : AuthorisationRequest) (n : Nat) : Prop where
  total : intentTotal request.intent.purchase = .ok n
  terms : ∀ terms, request.terms = some terms → TermsAdmit request.intent terms request.grant.payTo n
  scope : ScopeAdmits strKey request.scope request.intent.venue request.intent.purchase.asset n
  mandate : MandateAdmits strKey request.mandate request.intent n

/-! ### The checks -/

section
variable {strKey : StrKey} {request : AuthorisationRequest} {intent : PurchaseIntent} {n : Nat}

theorem fromScaledAmount_text : fromScaledAmount ((n : Nat) : Int) = .ok (amountText n) := fromScaledAmount_natCast n

@[simp] theorem toScaledAmount_text : toScaledAmount (amountText n) = .ok n := toScaledAmount_fromScaled n

variable {terms : PaymentTerms} {payTo : Option (List String)} {asked : ScopeRequest} {text : String}

theorem refusedPayee_none : refusedPayee terms payTo = none ↔
    ∀ permitted account, payTo = some permitted → terms.payTo = some account → account ∈ permitted := by
  cases payTo with
  | none => simp [refusedPayee]
  | some permitted =>
    cases named : terms.payTo with
    | none => simp [refusedPayee, named]
    | some account => simp [refusedPayee, named]

theorem reconcileTerms_allowed (total : intentTotal intent.purchase = .ok n) :
    reconcileTerms intent terms payTo = .ok (.allowed ⟨⟩) ↔ TermsAdmit intent terms payTo n := by
  by_cases venue : terms.venue = intent.venue
  · by_cases asset : terms.asset = intent.purchase.asset
    · rw [reconcileTerms, if_neg (not_not.mpr venue), if_neg (not_not.mpr asset)]
      constructor
      · intro allowed
        simp only [bind_eq_ok, total] at allowed
        obtain ⟨m, asked, _, ⟨rfl⟩, allowed⟩ := allowed
        split_ifs at allowed with same
        · cases allowed
        · cases refused : refusedPayee terms payTo with
          | some pair =>
            rw [refused] at allowed
            cases allowed
          | none =>
            rw [not_not.mp same] at asked
            exact ⟨venue, asset, asked, refusedPayee_none.mp refused⟩
      · intro admits
        rw [admits.amount, total, ok_bind, ok_bind, if_neg (by simp), refusedPayee_none.mpr admits.payee]
        rfl
    · rw [reconcileTerms, if_neg (not_not.mpr venue), if_pos asset]
      exact ⟨fun impossible => (by cases impossible), fun admits => absurd admits.sameAsset asset⟩
  · rw [reconcileTerms, if_pos venue]
    exact ⟨fun impossible => (by cases impossible), fun admits => absurd admits.sameVenue venue⟩

theorem scope_checked {scope : Scope} {a : ScopeAllowed} : checkScope strKey scope asked = .ok (.allowed a) ↔
      ∃ n, multiplyAmount asked.unitAmount asked.quantity = .ok n ∧ ScopeAdmits strKey scope asked.venue asked.asset n ∧
        a = ⟨asked, amountText n, scope.limits.perTx⟩ := by
  constructor
  · intro allowed
    simp only [checkScope] at allowed
    split_ifs at allowed with action venue asset
    · cases allowed
    · cases allowed
    · cases allowed
    · simp only [bind_eq_ok] at allowed
      obtain ⟨parsed, parses, allowed⟩ := allowed
      split_ifs at allowed with code
      · cases allowed
      · simp only [bind_eq_ok] at allowed
        obtain ⟨n, total, limit, perTx, text, written, allowed⟩ := allowed
        rw [fromScaledAmount_text] at written
        cases written
        split_ifs at allowed with exceeds
        · cases allowed
        · cases allowed
          exact ⟨n, total, ⟨by simpa using action, by simpa using venue, by simpa using asset,
            ⟨parsed, parses, not_not.mp code⟩, limit, perTx, by omega⟩, rfl⟩
  · rintro ⟨n, total, admits, rfl⟩
    obtain ⟨parsed, parses, code⟩ := admits.denominated
    obtain ⟨limit, perTx, fits⟩ := admits.within
    have action : scope.actions.contains INTENT_CREATE_ACTION = true := by simpa using admits.permitsAction
    have venue : scope.venues.contains asked.venue = true := by simpa using admits.permitsVenue
    have asset : scope.assets.contains asked.asset = true := by simpa using admits.permitsAsset
    simp only [checkScope, action, venue, asset, parses, ok_bind, code, total, perTx, fromScaledAmount_text]
    simp [Nat.not_lt.mpr fits]
    rfl

theorem refusedLine_none {grant : MandateGrant} {lines : List IntentLine} : refusedLine grant lines = none ↔
    ∀ permitted, grant.products = some permitted → ∀ line ∈ lines, line.productId ∈ permitted := by
  cases products : grant.products with
  | none => simp [refusedLine, products]
  | some permitted =>
    simp only [refusedLine, products, Option.map_eq_none_iff, List.find?_eq_none, Option.some.injEq, forall_eq']
    constructor
    · intro all line member
      obtain ⟨k, here⟩ := List.getElem?_of_mem member
      simpa using all (line, k) (List.mem_zipIdx_iff_getElem?.mpr here)
    · rintro all ⟨line, k⟩ member
      simpa using all line (List.mem_of_getElem? (List.mem_zipIdx_iff_getElem?.mp member))

theorem mandate_checked {mandate : AgentPayMandate} {a : MandateAllowed} :
    checkMandate strKey mandate intent = .ok (.allowed a) ↔
      ∃ n, intentTotal intent.purchase = .ok n ∧ MandateAdmits strKey mandate intent n ∧
        a = ⟨amountText n, mandate.credentialSubject.grant.scope.limits.perTx⟩ := by
  constructor
  · intro allowed
    cases refused : refusedLine mandate.credentialSubject.grant (intentLines intent.purchase) with
    | some pair =>
      simp only [checkMandate, refused] at allowed
      split_ifs at allowed <;> cases allowed
    | none =>
      simp only [checkMandate, refused] at allowed
      split_ifs at allowed with agent principal action venue asset window
      · cases allowed
      · cases allowed
      · cases allowed
      · cases allowed
      · cases allowed
      · simp only [bind_eq_ok] at allowed
        obtain ⟨parsed, _, allowed⟩ := allowed
        split_ifs at allowed <;> cases allowed
      · simp only [bind_eq_ok] at allowed
        obtain ⟨parsed, parses, allowed⟩ := allowed
        split_ifs at allowed with code
        · cases allowed
        · simp only [bind_eq_ok] at allowed
          obtain ⟨n, total, limit, perTx, text, written, allowed⟩ := allowed
          rw [fromScaledAmount_text] at written
          cases written
          split_ifs at allowed with exceeds
          · cases allowed
          · cases allowed
            refine ⟨n, total, ⟨not_not.mp agent, not_not.mp principal, refusedLine_none.mp refused, ?_, ?_⟩, rfl⟩
            · simpa using window
            · exact ⟨by simpa using action, by simpa using venue, by simpa using asset,
                ⟨parsed, parses, not_not.mp code⟩, limit, perTx, by omega⟩
  · rintro ⟨n, total, admits, rfl⟩
    obtain ⟨parsed, parses, code⟩ := admits.grant.denominated
    obtain ⟨limit, perTx, fits⟩ := admits.grant.within
    have action : mandate.credentialSubject.grant.scope.actions.contains INTENT_CREATE_ACTION = true := by
      simpa using admits.grant.permitsAction
    have venue : mandate.credentialSubject.grant.scope.venues.contains intent.venue = true := by
      simpa using admits.grant.permitsVenue
    have asset : mandate.credentialSubject.grant.scope.assets.contains intent.purchase.asset = true := by
      simpa using admits.grant.permitsAsset
    simp only [checkMandate, admits.agent, admits.principal, action, venue, refusedLine_none.mpr admits.products, asset,
      parses, ok_bind, code, admits.window.1, admits.window.2, total, perTx, fromScaledAmount_text]
    simp [Nat.not_lt.mpr fits]
    rfl

theorem scopeRequestOf_total (requested : scopeRequestOf intent = .ok asked) :
    asked.venue = intent.venue ∧ asked.asset = intent.purchase.asset ∧
      multiplyAmount asked.unitAmount asked.quantity = intentTotal intent.purchase := by
  cases purchase : intent.purchase with
  | single line asset =>
    simp only [scopeRequestOf, purchase] at requested
    cases requested
    refine ⟨rfl, rfl, ?_⟩
    cases total : multiplyAmount line.unitAmount line.quantity <;> simp [intentTotal, intentLines, total, pure, Except.pure]
  | cart lines asset =>
    simp only [scopeRequestOf, purchase, bind_eq_ok] at requested
    obtain ⟨n, total, text, written, same⟩ := requested
    cases same
    rw [fromScaledAmount_text] at written
    cases written
    refine ⟨rfl, rfl, ?_⟩
    have one : ¬((1 : Int) < 0 ∨ MAX_SAFE_INTEGER < 1) := by decide
    rw [total, multiplyAmount, if_neg one, toScaledAmount_text, ok_bind]
    simp [pure, Except.pure]

theorem scopeRequestOf_ok (total : intentTotal intent.purchase = .ok n) : ∃ asked, scopeRequestOf intent = .ok asked := by
  cases purchase : intent.purchase with
  | single line asset => exact ⟨_, by simp only [scopeRequestOf, purchase]; rfl⟩
  | cart lines asset =>
    rw [purchase] at total
    exact ⟨_, by simp only [scopeRequestOf, purchase, total, ok_bind, fromScaledAmount_text]; rfl⟩

/-- The checks that need no memory allow a request at its one total, exactly when it is admitted. -/
theorem eligible_allowed :
    eligible strKey request = .ok (.allowed text) ↔ ∃ n, Admitted strKey request n ∧ text = amountText n := by
  constructor
  · intro allowed
    simp only [eligible, bind_eq_ok] at allowed
    obtain ⟨terms, reconciles, allowed⟩ := allowed
    cases terms with
    | denied d => cases allowed
    | allowed u =>
      simp only [bind_eq_ok] at allowed
      obtain ⟨asked, requested, inScope, looked, allowed⟩ := allowed
      cases inScope with
      | denied d => cases allowed
      | allowed inScope =>
        simp only [bind_eq_ok] at allowed
        obtain ⟨mandated, checked, allowed⟩ := allowed
        cases mandated with
        | denied d => cases allowed
        | allowed m =>
          cases allowed
          obtain ⟨n, total, admits, _⟩ := mandate_checked.mp checked
          obtain ⟨venue, asset, product⟩ := scopeRequestOf_total requested
          obtain ⟨n', total', inScopeAdmits, rfl⟩ := scope_checked.mp looked
          rw [product, total] at total'
          cases total'
          rw [venue, asset] at inScopeAdmits
          refine ⟨n, ⟨total, fun terms given => ?_, inScopeAdmits, admits⟩, rfl⟩
          rw [reconciled, given] at reconciles
          exact (reconcileTerms_allowed total).mp reconciles
  · rintro ⟨n, admitted, rfl⟩
    have reconciles : reconciled request = .ok (.allowed ⟨⟩) := by
      cases given : request.terms with
      | none => rw [reconciled, given]; rfl
      | some terms =>
        rw [reconciled, given]
        exact (reconcileTerms_allowed admitted.total).mpr (admitted.terms terms given)
    obtain ⟨asked, requested⟩ := scopeRequestOf_ok admitted.total
    obtain ⟨venue, asset, product⟩ := scopeRequestOf_total requested
    have looked := scope_checked.mpr ⟨n, product.trans admitted.total, by rw [venue, asset]; exact admitted.scope, rfl⟩
    have checked := mandate_checked.mpr ⟨n, admitted.total, admitted.mandate, rfl⟩
    simp only [eligible, reconciles, requested, looked, checked, ok_bind]
    rfl

theorem checkDailyLimit_admits (code : AuthorisationRejectionCode) {perDay spentToday amount : String}
    (addition : toScaledAmount amount = .ok n) :
    (∃ a, checkDailyLimit perDay spentToday amount code = .ok (.allowed a)) ↔ LimitAdmits perDay spentToday n := by
  constructor
  · rintro ⟨a, allowed⟩
    obtain ⟨limit, already, m, perDayIs, spentIs, amountIs, fits⟩ := checkDailyLimit_allowed allowed
    rw [addition] at amountIs
    cases amountIs
    exact ⟨already, spentIs, limit, perDayIs, fits⟩
  · rintro ⟨already, spentIs, limit, perDayIs, fits⟩
    refine ⟨⟨amountText (already + n), perDay⟩, ?_⟩
    rw [checkDailyLimit, perDayIs, spentIs, addition]
    simp only [ok_bind, fromScaledAmount_text]
    rw [if_neg (Nat.not_lt.mpr fits)]
    rfl

theorem withinLimits_allows {spentToday : String} {counted : Bool}
    (addition : toScaledAmount (if counted then "0" else text) = .ok n) :
    (∃ g, withinLimits request text spentToday counted = .ok (.granted g)) ↔
      LimitAdmits request.scope.limits.perDay spentToday n ∧ LimitAdmits request.grant.scope.limits.perDay spentToday n := by
  constructor
  · rintro ⟨g, granted⟩
    simp only [withinLimits, bind_eq_ok] at granted
    obtain ⟨underScope, inScope, granted⟩ := granted
    cases underScope with
    | denied d => cases granted
    | allowed a =>
      simp only [bind_eq_ok] at granted
      obtain ⟨underMandate, mandated, granted⟩ := granted
      cases underMandate with
      | denied d => cases granted
      | allowed b => exact ⟨(checkDailyLimit_admits _ addition).mp ⟨a, inScope⟩, (checkDailyLimit_admits _ addition).mp ⟨b, mandated⟩⟩
  · rintro ⟨inScope, mandated⟩
    obtain ⟨a, allowed⟩ := (checkDailyLimit_admits .ScopeDailyLimitExceeded addition).mpr inScope
    obtain ⟨b, consented⟩ := (checkDailyLimit_admits .MandateDailyLimitExceeded addition).mpr mandated
    simp only [withinLimits, allowed, consented, ok_bind]
    exact ⟨_, rfl⟩

end

/-! ### The rail alone over a ledger -/

/-- A ledger whose state is passed along. Its reads leave the state as it is, and a call that throws leaves none. -/
structure Port (σ : Type) where
  spentOn : String → String → Date → σ → Result String
  hasRecorded : String → σ → Result Bool
  record : SpendLedgerEntry → σ → Result σ
  release : ReleaseSpendInput → σ → Result σ

def Port.locked {σ : Type} (port : Port σ) : LockedSpendLedger (StateT σ Result) where
  spentOn subject currency at_ := fun s => (port.spentOn subject currency at_ s).map fun text => (text, s)
  hasRecorded intentId := fun s => (port.hasRecorded intentId s).map fun known => (known, s)
  record entry := fun s => (port.record entry s).map fun s' => (⟨⟩, s')
  release input := fun s => (port.release input s).map fun s' => (⟨⟩, s')

/-- An intent as it is signed, with the total it states itself. -/
structure SignedIntent extends PurchaseIntent where
  totalAmount : String

def requestOf (signed : SignedIntent) (scope : Scope) (mandate : AgentPayMandate) (terms : Option PaymentTerms) :
    AuthorisationRequest := ⟨signed.toPurchaseIntent, scope, mandate, terms⟩

section
variable {σ : Type} (strKey : StrKey) (port : Port σ) (request : AuthorisationRequest) (at_ : Date) (s : σ)

/-- The verdict alone, and what the ledger is then like. -/
def previewed : Result (AuthorisationDecision × σ) := (decide strKey port.locked.toReader request at_).run s

def authorised : Result (AuthorisationDecision × σ) := (authorise strKey port.locked request at_).run s

/-- Both daily limits have room, for an intent that is not counted yet and for one that is. -/
def Room (n : Nat) : Prop :=
  ∃ spentToday counted, port.spentOn request.intent.agent request.scope.limits.currency at_ s = .ok spentToday ∧
    port.hasRecorded request.intent.intentId s = .ok counted ∧
    LimitAdmits request.scope.limits.perDay spentToday (if counted then 0 else n) ∧
    LimitAdmits request.grant.scope.limits.perDay spentToday (if counted then 0 else n)

def entryFor (n : Nat) : SpendLedgerEntry :=
  ⟨request.intent.agent, request.intent.intentId, request.scope.limits.currency, amountText n, at_⟩

variable {strKey port request at_ s}

private theorem run_bind {α β : Type} (m : StateT σ Result α) (f : α → StateT σ Result β) (s : σ) :
    (m >>= f).run s = m.run s >>= fun (a, s') => (f a).run s' := rfl

theorem previewed_eq : previewed strKey port request at_ s = (do
    match ← eligible strKey request with
    | .denied d => pure (.refused d, s)
    | .allowed text =>
      let spentToday ← port.spentOn request.intent.agent request.scope.limits.currency at_ s
      let counted ← port.hasRecorded request.intent.intentId s
      let decision ← withinLimits request text spentToday counted
      pure (decision, s)) := by
  rw [previewed, LocalPolicyRail.decide, run_bind]
  cases eligible strKey request with
  | error e => rfl
  | ok check =>
    cases check with
    | denied d => rfl
    | allowed text =>
      change ((port.spentOn request.intent.agent request.scope.limits.currency at_ s).map fun text => (text, s)) >>= _ =
        port.spentOn request.intent.agent request.scope.limits.currency at_ s >>= _
      cases port.spentOn request.intent.agent request.scope.limits.currency at_ s with
      | error e => rfl
      | ok spentToday =>
        change ((port.hasRecorded request.intent.intentId s).map fun known => (known, s)) >>= _ =
          port.hasRecorded request.intent.intentId s >>= _
        cases port.hasRecorded request.intent.intentId s with
        | error e => rfl
        | ok counted => rfl

variable {d : AuthorisationDecision}

variable {s' : σ}

theorem previewed_same (verdict : previewed strKey port request at_ s = .ok (d, s')) : s' = s := by
  rw [previewed_eq, bind_eq_ok] at verdict
  obtain ⟨check, _, verdict⟩ := verdict
  cases check with
  | denied d =>
    cases verdict
    rfl
  | allowed text =>
    simp only [bind_eq_ok] at verdict
    obtain ⟨_, _, _, _, _, _, verdict⟩ := verdict
    cases verdict
    rfl

theorem authorised_eq : authorised strKey port request at_ s = (do
    let (decision, s) ← previewed strKey port request at_ s
    match decision with
    | .refused d => pure (.refused d, s)
    | .granted g =>
      let s' ← port.record ⟨request.intent.agent, g.intentId, g.currency, g.total, at_⟩ s
      pure (.granted g, s')) := by
  rw [authorised, LocalPolicyRail.authorise, run_bind]
  change previewed strKey port request at_ s >>= _ = _
  cases previewed strKey port request at_ s with
  | error e => rfl
  | ok pair =>
    obtain ⟨decision, s⟩ := pair
    cases decision with
    | refused d => rfl
    | granted g =>
      change ((port.record ⟨request.intent.agent, g.intentId, g.currency, g.total, at_⟩ s).map fun s' => (PUnit.unit, s')) >>=
        _ = port.record ⟨request.intent.agent, g.intentId, g.currency, g.total, at_⟩ s >>= _
      cases port.record ⟨request.intent.agent, g.intentId, g.currency, g.total, at_⟩ s <;> rfl

theorem previewed_granted {g : AuthorisationGranted} (verdict : previewed strKey port request at_ s = .ok (.granted g, s)) :
    ∃ n, Admitted strKey request n ∧ Room port request at_ s n ∧ g.intentId = request.intent.intentId ∧
      g.currency = request.scope.limits.currency ∧ g.total = amountText n := by
  rw [previewed_eq, bind_eq_ok] at verdict
  obtain ⟨check, allowed, verdict⟩ := verdict
  cases check with
  | denied d => cases verdict
  | allowed text =>
    simp only [bind_eq_ok] at verdict
    obtain ⟨spentToday, spent, counted, known, decision, decided, verdict⟩ := verdict
    cases verdict
    obtain ⟨n, admitted, rfl⟩ := eligible_allowed.mp allowed
    have addition : toScaledAmount (if counted then "0" else amountText n) = .ok (if counted then 0 else n) := by
      cases counted <;> simp
    have within := withinLimits_granted decided
    obtain ⟨inScope, mandated⟩ := (withinLimits_allows addition).mp ⟨g, decided⟩
    exact ⟨n, admitted, ⟨spentToday, counted, spent, known, inScope, mandated⟩, within.sameIntent, within.sameCurrency,
      within.sameTotal⟩

theorem previewed_admitted {n : Nat} (admitted : Admitted strKey request n) (room : Room port request at_ s n) :
    ∃ g, previewed strKey port request at_ s = .ok (.granted g, s) := by
  obtain ⟨spentToday, counted, spent, known, inScope, mandated⟩ := room
  have addition : toScaledAmount (if counted then "0" else amountText n) = .ok (if counted then 0 else n) := by
    cases counted <;> simp
  obtain ⟨g, decided⟩ := (withinLimits_allows addition).mpr ⟨inScope, mandated⟩
  refine ⟨g, ?_⟩
  rw [previewed_eq, eligible_allowed.mpr ⟨n, admitted, rfl⟩]
  simp only [ok_bind, spent, known, decided]
  rfl

theorem authorised_granted : (∃ g, authorised strKey port request at_ s = .ok (.granted g, s')) ↔
    ∃ n, Admitted strKey request n ∧ Room port request at_ s n ∧ port.record (entryFor request at_ n) s = .ok s' := by
  constructor
  · rintro ⟨g, granted⟩
    rw [authorised_eq, bind_eq_ok] at granted
    obtain ⟨⟨decision, s₁⟩, verdict, granted⟩ := granted
    cases previewed_same verdict
    cases decision with
    | refused d => cases granted
    | granted g' =>
      simp only [bind_eq_ok] at granted
      obtain ⟨s₂, recorded, granted⟩ := granted
      cases granted
      obtain ⟨n, admitted, room, sameIntent, sameCurrency, sameTotal⟩ := previewed_granted verdict
      rw [sameIntent, sameCurrency, sameTotal] at recorded
      exact ⟨n, admitted, room, recorded⟩
  · rintro ⟨n, admitted, room, recorded⟩
    obtain ⟨g, verdict⟩ := previewed_admitted admitted room
    obtain ⟨n', admitted', _, sameIntent, sameCurrency, sameTotal⟩ := previewed_granted verdict
    have same : n' = n := Except.ok.inj (admitted'.total.symm.trans admitted.total)
    refine ⟨g, ?_⟩
    rw [authorised_eq, verdict, ok_bind]
    simp only [sameIntent, sameCurrency, sameTotal, same]
    change port.record (entryFor request at_ n) s >>= _ = _
    rw [recorded]
    rfl

/-- What `authorise` decides, `preview` would have said. -/
theorem previewed_of_authorised (decided : authorised strKey port request at_ s = .ok (d, s'))
    : previewed strKey port request at_ s = .ok (d, s) := by
  rw [authorised_eq, bind_eq_ok] at decided
  obtain ⟨⟨decision, s₁⟩, verdict, decided⟩ := decided
  cases previewed_same verdict
  cases decision with
  | refused d =>
    cases decided
    exact verdict
  | granted g =>
    simp only [bind_eq_ok] at decided
    obtain ⟨s₂, _, decided⟩ := decided
    cases decided
    exact verdict

theorem authorised_of_previewed (verdict : previewed strKey port request at_ s = .ok (d, s)) :
    (∃ s', authorised strKey port request at_ s = .ok (d, s')) ∨
      ∃ n e, intentTotal request.intent.purchase = .ok n ∧ port.record (entryFor request at_ n) s = .error e := by
  cases d with
  | refused d =>
    refine .inl ⟨s, ?_⟩
    rw [authorised_eq, verdict]
    rfl
  | granted g =>
    obtain ⟨n, admitted, room, sameIntent, sameCurrency, sameTotal⟩ := previewed_granted verdict
    cases recorded : port.record (entryFor request at_ n) s with
    | error e => exact .inr ⟨n, e, admitted.total, recorded⟩
    | ok s' =>
      refine .inl ⟨s', ?_⟩
      rw [authorised_eq, verdict, ok_bind]
      simp only [sameIntent, sameCurrency, sameTotal]
      change port.record (entryFor request at_ n) s >>= _ = _
      rw [recorded]
      rfl

end

/-! ### The in-memory ledger -/

open InMemoryLedger in
def inMemory : Port InMemorySpendLedger where
  spentOn subject currency at_ l := InMemoryLedger.spentOn l subject currency at_
  hasRecorded intentId l := .ok (InMemoryLedger.hasRecorded l intentId)
  record entry l := InMemoryLedger.record l entry
  release input l := InMemoryLedger.release l input

open InMemoryLedger in

/-! ### One total -/

/-- Every check looks at the intent's own total, and so does the record, whatever total the intent states; an intent
    that is counted already adds nothing to its day. A preview says the same and changes nothing. -/
theorem decides_at_one_total {σ : Type} (strKey : StrKey) (port : Port σ) (signed : SignedIntent) (scope : Scope)
    (mandate : AgentPayMandate) (terms : Option PaymentTerms) (at_ : Date) (s : σ) :
    (∀ s', (∃ g, authorised strKey port (requestOf signed scope mandate terms) at_ s = .ok (.granted g, s')) ↔
      ∃ n, Admitted strKey (requestOf signed scope mandate terms) n ∧
        Room port (requestOf signed scope mandate terms) at_ s n ∧
        port.record (entryFor (requestOf signed scope mandate terms) at_ n) s = .ok s') ∧
    (∀ d s', authorised strKey port (requestOf signed scope mandate terms) at_ s = .ok (d, s') →
      previewed strKey port (requestOf signed scope mandate terms) at_ s = .ok (d, s)) ∧
    ∀ d s', previewed strKey port (requestOf signed scope mandate terms) at_ s = .ok (d, s') → s' = s ∧
      ((∃ s'', authorised strKey port (requestOf signed scope mandate terms) at_ s = .ok (d, s'')) ∨
        ∃ n e, intentTotal signed.purchase = .ok n ∧
          port.record (entryFor (requestOf signed scope mandate terms) at_ n) s = .error e) := by
  refine ⟨fun s' => authorised_granted, fun d s' decided => previewed_of_authorised decided, fun d s' verdict => ?_⟩
  have same := previewed_same verdict
  subst same
  exact ⟨rfl, authorised_of_previewed verdict⟩

def counted : InMemoryLedger.InMemorySpendLedger :=
  match authorised sampleStrKey inMemory (sampleRequest "tea" "60.00") (sampleNoon 0) InMemoryLedger.createInMemorySpendLedger with
  | .ok (_, l) => l
  | .error _ => InMemoryLedger.createInMemorySpendLedger

/-- The same intent is granted again, though a limit of a hundred has no room for sixty on top of sixty. -/
def grants {σ : Type} : Result (AuthorisationDecision × σ) → Bool
  | .ok (.granted _, _) => true
  | _ => false

theorem granted_again :
    (∃ g l, authorised sampleStrKey inMemory (sampleRequest "tea" "60.00") (sampleNoon 0) counted = .ok (.granted g, l)) ∧
      ∃ spentToday, inMemory.spentOn "did:agent" "USDC" (sampleNoon 0) counted = .ok spentToday ∧
        intentTotal (sampleRequest "tea" "60.00").intent.purchase = .ok 600000000 ∧
        ¬LimitAdmits (sampleRequest "tea" "60.00").scope.limits.perDay spentToday 600000000 := by
  have granted : grants (authorised sampleStrKey inMemory (sampleRequest "tea" "60.00") (sampleNoon 0) counted) = true := by
    decide +kernel
  refine ⟨?_, "60.0000000", by rfl, by rfl, ?_⟩
  · unfold grants at granted
    split at granted
    · exact ⟨_, _, by assumption⟩
    · cases granted
  · rintro ⟨already, spent, limit, perDay, fits⟩
    have sixty : toScaledAmount "60.0000000" = .ok 600000000 := by rfl
    have hundred : toScaledAmount "100" = .ok 1000000000 := by rfl
    cases sixty.symm.trans spent
    cases hundred.symm.trans perDay
    omega

end AgentPey.AuthorisationDecisions
