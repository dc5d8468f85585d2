import AgentPey.Amounts
import AgentPey.Dates

/-!
What a purchase intent asks for, and the checks the rail runs on it:
`intent/intent.ts`, `catalog/ids.ts`, `scope/scope.ts`, `mandate/check-mandate.ts`,
`policy/terms.ts` and `ledger/check-daily-limit.ts`. A check denies by returning,
with a code, a reason and details, and throws on a text that is no amount or no
asset id. Fields of the documents that no check reads are left out.
-/
namespace AgentPey.PurchaseChecks
open AgentPass Amounts

/-! ### Intents -/

structure IntentLine where
  productId : String
  quantity : Int
  unitAmount : String
  deriving DecidableEq

/-- What the intent buys: one product, or a cart. -/
inductive IntentPurchase where
  | single (line : IntentLine) (asset : String)
  | cart (lines : List IntentLine) (asset : String)

def IntentPurchase.asset : IntentPurchase → String
  | .single _ asset => asset
  | .cart _ asset => asset

structure PurchaseIntent where
  intentId : String
  issuedAt : String
  agent : String
  principal : String
  venue : String
  purchase : IntentPurchase

/-- The lines a purchase is for, in order: one for the single form. -/
def intentLines : IntentPurchase → List IntentLine
  | .single line _ => [line]
  | .cart lines _ => lines

/-- The sum of `unitAmount x quantity` over the lines. -/
def intentTotal (purchase : IntentPurchase) : Result Nat :=
  (intentLines purchase).foldlM (fun sum line => do
    let amount ← multiplyAmount line.unitAmount line.quantity
    pure (sum + amount)) 0

structure ScopeRequest where
  venue : String
  asset : String
  unitAmount : String
  quantity : Int

def scopeRequestOf (intent : PurchaseIntent) : Result ScopeRequest :=
  match intent.purchase with
  | .single line asset => pure ⟨intent.venue, asset, line.unitAmount, line.quantity⟩
  | .cart _ asset => do
    let total ← intentTotal intent.purchase
    let unitAmount ← fromScaledAmount total
    pure ⟨intent.venue, asset, unitAmount, 1⟩

/-! ### Asset ids -/

/-- The validity checks of the Stellar SDK. -/
structure StrKey where
  isValidEd25519PublicKey : String → Bool
  isValidContract : String → Bool

inductive IssuerKind where
  | account
  | contract
  deriving DecidableEq

structure ParsedAssetId where
  code : String
  issuer : String
  issuerKind : IssuerKind

def invalidAssetId (value reason message : String) : Thrown :=
  .AgentPassError "InvalidAssetId" message [("assetId", .string value), ("reason", .string reason)]

/-- `^[A-Za-z0-9]{1,12}$`. -/
def ASSET_CODE_PATTERN (code : List Char) : Bool :=
  1 ≤ code.length && code.length ≤ 12 && code.all Char.isAlphanum

/-- Splits `<CODE>:<issuer>`, validating both halves. -/
def parseAssetId (strKey : StrKey) (value : String) : Result ParsedAssetId :=
  match value.toList.splitOn ':' with
  | [codeText, issuerText] =>
    let code := String.ofList codeText
    let issuer := String.ofList issuerText
    if ASSET_CODE_PATTERN codeText = false then
      .error (invalidAssetId value "malformed-code"
        ("\"" ++ code ++ "\" is not a Stellar asset code: 1–12 alphanumeric characters"))
    else if strKey.isValidEd25519PublicKey issuer then .ok ⟨code, issuer, .account⟩
    else if strKey.isValidContract issuer then .ok ⟨code, issuer, .contract⟩
    else .error (invalidAssetId value "malformed-issuer"
      "the issuer is neither a Stellar account (G...) nor a Soroban contract (C...)")
  | segments => .error (invalidAssetId value "malformed"
      ("expected <CODE>:<issuer>, got " ++ toString segments.length ++ " segment(s)"))

/-! ### Decisions -/

inductive AuthorisationRejectionCode where
  | TermsVenueMismatch
  | TermsAssetMismatch
  | TermsAmountMismatch
  | TermsPayeeNotAllowed
  | ScopeActionNotAllowed
  | ScopeVenueNotAllowed
  | ScopeAssetNotAllowed
  | ScopeCurrencyMismatch
  | ScopeAmountExceeded
  | MandateAgentMismatch
  | MandatePrincipalMismatch
  | MandateActionNotAllowed
  | MandateVenueNotAllowed
  | MandateProductNotAllowed
  | MandateAssetNotAllowed
  | MandateCurrencyMismatch
  | MandateWindowMismatch
  | MandateAmountExceeded
  | ScopeDailyLimitExceeded
  | MandateDailyLimitExceeded
  deriving DecidableEq, Repr

structure Denial where
  code : AuthorisationRejectionCode
  reason : String
  details : Details

inductive Check (α : Type) where
  | allowed (a : α)
  | denied (d : Denial)

def deny {α : Type} (code : AuthorisationRejectionCode) (reason : String) (details : Details) : Result (Check α) :=
  .ok (.denied ⟨code, reason, details⟩)

/-! ### The credential's scope -/

def INTENT_CREATE_ACTION : String := "intent:create"

structure ScopeAllowed where
  request : ScopeRequest
  total : String
  limit : String

def checkScope (strKey : StrKey) (scope : Scope) (request : ScopeRequest) : Result (Check ScopeAllowed) :=
  if scope.actions.contains INTENT_CREATE_ACTION = false then
    deny .ScopeActionNotAllowed ("this credential does not permit \"" ++ INTENT_CREATE_ACTION ++ "\"")
      [("required", .string INTENT_CREATE_ACTION), ("permitted", strings scope.actions)]
  else if scope.venues.contains request.venue = false then
    deny .ScopeVenueNotAllowed "this credential does not permit this venue"
      [("venue", .string request.venue), ("permitted", strings scope.venues),
        ("permitsNothing", .bool scope.venues.isEmpty)]
  else if scope.assets.contains request.asset = false then
    deny .ScopeAssetNotAllowed "this credential does not permit this asset"
      [("asset", .string request.asset), ("permitted", strings scope.assets),
        ("permitsNothing", .bool scope.assets.isEmpty)]
  else do
    let parsed ← parseAssetId strKey request.asset
    if parsed.code ≠ scope.limits.currency then
      deny .ScopeCurrencyMismatch "the spending limit is denominated in a different asset than the price"
        [("priceAsset", .string request.asset), ("priceCurrency", .string parsed.code),
          ("limitCurrency", .string scope.limits.currency)]
    else
      let total ← multiplyAmount request.unitAmount request.quantity
      let limit ← toScaledAmount scope.limits.perTx
      let totalText ← fromScaledAmount total
      if limit < total then
        deny .ScopeAmountExceeded "the total exceeds this credential's per-transaction limit"
          [("unitAmount", .string request.unitAmount), ("quantity", .number request.quantity),
            ("total", .string totalText), ("limit", .string scope.limits.perTx),
            ("currency", .string scope.limits.currency)]
      else
        pure (.allowed ⟨request, totalText, scope.limits.perTx⟩)

/-! ### The principal's mandate -/

/-- What the principal authorises: a scope, and optionally who may be paid and
    what may be bought. -/
structure MandateGrant where
  scope : Scope
  payTo : Option (List String)
  products : Option (List String)

structure MandateSubject where
  id : String
  grant : MandateGrant

structure AgentPayMandate where
  issuer : String
  validFrom : String
  validUntil : String
  credentialSubject : MandateSubject

structure MandateAllowed where
  total : String
  limit : String

def refusedLine (grant : MandateGrant) (lines : List IntentLine) : Option (Nat × IntentLine) :=
  match grant.products with
  | none => none
  | some products => (lines.zipIdx.find? fun (line, _) => !products.contains line.productId).map Prod.swap

/-- What the details of a total say of the purchase: its price, or how many lines it has. -/
def purchaseDetails : IntentPurchase → Details
  | .single line _ => [("unitAmount", .string line.unitAmount), ("quantity", .number line.quantity)]
  | .cart lines _ => [("lines", .number lines.length)]

def checkMandate (strKey : StrKey) (mandate : AgentPayMandate) (intent : PurchaseIntent) :
    Result (Check MandateAllowed) :=
  let grant := mandate.credentialSubject.grant
  if mandate.credentialSubject.id ≠ intent.agent then
    deny .MandateAgentMismatch "this mandate does not empower this agent"
      [("mandateAgent", .string mandate.credentialSubject.id), ("intentAgent", .string intent.agent)]
  else if mandate.issuer ≠ intent.principal then
    deny .MandatePrincipalMismatch "this mandate was not signed by the intent's principal"
      [("mandateIssuer", .string mandate.issuer), ("intentPrincipal", .string intent.principal)]
  else if grant.scope.actions.contains INTENT_CREATE_ACTION = false then
    deny .MandateActionNotAllowed ("this mandate does not permit \"" ++ INTENT_CREATE_ACTION ++ "\"")
      [("required", .string INTENT_CREATE_ACTION), ("permitted", strings grant.scope.actions)]
  else if grant.scope.venues.contains intent.venue = false then
    deny .MandateVenueNotAllowed "this mandate does not permit this venue"
      [("venue", .string intent.venue), ("permitted", strings grant.scope.venues),
        ("permitsNothing", .bool grant.scope.venues.isEmpty)]
  else match refusedLine grant (intentLines intent.purchase) with
  | some (index, line) =>
    let products := grant.products.getD []
    deny .MandateProductNotAllowed "this mandate does not permit this product"
      ([("productId", .string line.productId)] ++
        (if 1 < (intentLines intent.purchase).length then [("line", .number index)] else []) ++
        [("permitted", strings products), ("permitsNothing", .bool products.isEmpty)])
  | none =>
    if grant.scope.assets.contains intent.purchase.asset = false then
      deny .MandateAssetNotAllowed "this mandate does not permit this asset"
        [("asset", .string intent.purchase.asset), ("permitted", strings grant.scope.assets),
          ("permitsNothing", .bool grant.scope.assets.isEmpty)]
    else do
      let parsed ← parseAssetId strKey intent.purchase.asset
      if parsed.code ≠ grant.scope.limits.currency then
        deny .MandateCurrencyMismatch
          "the mandate's spending limit is denominated in a different asset than the price"
          [("priceAsset", .string intent.purchase.asset), ("priceCurrency", .string parsed.code),
            ("limitCurrency", .string grant.scope.limits.currency)]
      else if Dates.before (Dates.parse intent.issuedAt) (Dates.parse mandate.validFrom) ||
          Dates.before (Dates.parse mandate.validUntil) (Dates.parse intent.issuedAt) then
        deny .MandateWindowMismatch "the intent was issued outside the mandate's validity window"
          [("issuedAt", .string intent.issuedAt), ("validFrom", .string mandate.validFrom),
            ("validUntil", .string mandate.validUntil)]
      else
        let total ← intentTotal intent.purchase
        let limit ← toScaledAmount grant.scope.limits.perTx
        let totalText ← fromScaledAmount total
        if limit < total then
          deny .MandateAmountExceeded "the total exceeds this mandate's per-transaction limit"
            (purchaseDetails intent.purchase ++
              [("total", .string totalText), ("limit", .string grant.scope.limits.perTx),
                ("currency", .string grant.scope.limits.currency)])
        else
          pure (.allowed ⟨totalText, grant.scope.limits.perTx⟩)

/-! ### The venue's terms -/

structure PaymentTerms where
  venue : String
  asset : String
  amount : String
  payTo : Option String

def refusedPayee (terms : PaymentTerms) (allowedPayTo : Option (List String)) : Option (String × List String) := do
  let permitted ← allowedPayTo
  let payTo ← terms.payTo
  if permitted.contains payTo then none else some (payTo, permitted)

def reconcileTerms (intent : PurchaseIntent) (terms : PaymentTerms) (allowedPayTo : Option (List String)) :
    Result (Check PUnit) :=
  if terms.venue ≠ intent.venue then
    deny .TermsVenueMismatch "the payment terms name a different venue than the intent"
      [("termsVenue", .string terms.venue), ("intentVenue", .string intent.venue)]
  else if terms.asset ≠ intent.purchase.asset then
    deny .TermsAssetMismatch "the payment terms name a different asset than the intent"
      [("termsAsset", .string terms.asset), ("intentAsset", .string intent.purchase.asset)]
  else do
    let asked ← toScaledAmount terms.amount
    let authorised ← intentTotal intent.purchase
    if asked ≠ authorised then
      let authorisedText ← fromScaledAmount authorised
      deny .TermsAmountMismatch "the payment terms ask for a different amount than the intent"
        [("termsAmount", .string terms.amount), ("intentTotal", .string authorisedText),
          ("asset", .string intent.purchase.asset)]
    else match refusedPayee terms allowedPayTo with
    | some (payTo, permitted) =>
      deny .TermsPayeeNotAllowed "the mandate does not permit paying this account"
        [("payTo", .string payTo), ("permitted", strings permitted), ("permitsNothing", .bool permitted.isEmpty)]
    | none => pure (.allowed ⟨⟩)

/-! ### The daily limit -/

structure DailyLimitAllowed where
  total : String
  limit : String

/-- Whether `spentToday + amount` stays within `perDay`; the bound is inclusive. -/
def checkDailyLimit (perDay spentToday amount : String) (code : AuthorisationRejectionCode) :
    Result (Check DailyLimitAllowed) := do
  let limit ← toScaledAmount perDay
  let already ← toScaledAmount spentToday
  let addition ← toScaledAmount amount
  let total ← fromScaledAmount ((already + addition : Nat) : Int)
  if limit < already + addition then
    deny code "the total for today would exceed the per-day limit"
      [("spentToday", .string spentToday), ("amount", .string amount), ("total", .string total),
        ("limit", .string perDay)]
  else
    pure (.allowed ⟨total, perDay⟩)

end AgentPey.PurchaseChecks
