import Mathlib.Data.List.DropRight
import Mathlib.Algebra.Ring.Int.Defs
import Mathlib.Algebra.Ring.Nat

/-!
What every part of a store shares, from `vitrinee-core`: the errors (`errors.ts`), money in
whole units (`money.ts`), and the receipt a store signs for a sale (`receipt.ts`). Keys, hashes and
signatures come from libraries and are the parameters `Crypto` of the model.
-/
namespace AgentPey.Receipts

inductive ErrorCode where
  | configError | validationError | productNotFound | outOfStock | idempotencyConflict | adapterError | paymentError
  | receiptInvalid | settlementUnaccounted | networkError | comercioNotFound | storageError
  deriving DecidableEq, Repr

def ErrorCode.httpStatus : ErrorCode → Nat
  | .configError => 500
  | .validationError => 400
  | .productNotFound => 404
  | .outOfStock => 409
  | .idempotencyConflict => 409
  | .adapterError => 502
  | .paymentError => 402
  | .receiptInvalid => 422
  | .settlementUnaccounted => 500
  | .networkError => 503
  | .comercioNotFound => 404
  | .storageError => 503

/-- What an error may carry of the facilitator's answer. -/
structure PartialSettleResponse where
  success : Option Bool
  errorReason : Option String
  transaction : Option String
  deriving DecidableEq, Repr

/-- What a function throws. `settleError` is the reason of an x402 `SettleError`. -/
inductive Failure where
  | vitrinee (code : ErrorCode) (message : String)
  | zod (message : String)
  | thrown (message : String) (settleError : Option String) (response : Option PartialSettleResponse)
  deriving DecidableEq, Repr

def Failure.message : Failure → String
  | .vitrinee _ message => message
  | .zod message => message
  | .thrown message _ _ => message

/-! ### Money -/

def USDC_DECIMALS : Nat := 7

def CURRENCY_DECIMALS : List (String × Nat) :=
  [("CLP", 0), ("ARS", 2), ("BRL", 2), ("COP", 2), ("MXN", 2), ("PEN", 2), ("UYU", 2), ("USD", 2), ("USDC", USDC_DECIMALS)]

/-- Outside ASCII only the long s has a letter of these codes as its upper case. -/
def upper (c : Char) : Char := if c = 'ſ' then 'S' else c.toUpper

def toUpperCase (text : String) : String := String.ofList (text.toList.map upper)

def currencyDecimals (currency : String) : Except Failure Nat :=
  match CURRENCY_DECIMALS.lookup (toUpperCase currency) with
  | some decimals => .ok decimals
  | none => .error (.vitrinee .validationError ("unsupported currency \"" ++ currency ++ "\""))

/-- White space and line terminators, as `trim` has them. -/
def isSpace (c : Char) : Bool :=
  (9 ≤ c.toNat ∧ c.toNat ≤ 13) ∨ (8192 ≤ c.toNat ∧ c.toNat ≤ 8202) ∨
    c.toNat ∈ [32, 160, 5760, 8232, 8233, 8239, 8287, 12288, 65279]

def trim (cs : List Char) : List Char := (cs.dropWhile isSpace).rdropWhile isSpace

/-- `^(\d+)(?:\.(\d+))?$`: the digits before and after the point. -/
def decimalParts (cs : List Char) : Option (List Char × List Char) :=
  let whole := cs.takeWhile Char.isDigit
  match cs.dropWhile Char.isDigit with
  | [] => if whole = [] then none else some (whole, [])
  | '.' :: fraction => if whole = [] ∨ fraction = [] ∨ ¬fraction.all Char.isDigit then none else some (whole, fraction)
  | _ => none

def notDecimal (value : String) : Failure := .vitrinee .validationError ("not a decimal string: \"" ++ value ++ "\"")

def decimalPlaces (value : String) : Except Failure Nat :=
  match decimalParts (trim value.toList) with
  | some (_, fraction) => .ok fraction.length
  | none => .error (notDecimal value)

def parseDecimal (value : String) (decimals : Nat) : Except Failure Nat :=
  match decimalParts (trim value.toList) with
  | none => .error (notDecimal value)
  | some (whole, fraction) =>
    if decimals < fraction.length then
      .error (.vitrinee .validationError ("\"" ++ value ++ "\" has more than " ++ toString decimals ++ " decimal place" ++
        if decimals = 1 then "" else "s"))
    else .ok (Nat.ofDigitChars 10 (whole ++ fraction.rightpad decimals '0') 0)

def formatUnits (atomic decimals : Nat) : String :=
  let digits := (Nat.toDigits 10 atomic).leftpad (decimals + 1) '0'
  if decimals = 0 then String.ofList digits
  else String.ofList (digits.rdrop decimals ++ '.' :: digits.rtake decimals)

def divRoundHalfUp (numerator denominator : Nat) : Except Failure Nat :=
  if denominator = 0 then .error (.vitrinee .validationError "division by a non-positive denominator")
  else .ok ((numerator * 2 + denominator) / (denominator * 2))

/-- Units of `quote` for one US dollar. -/
structure FxRate where
  quote : String
  rate : String
  deriving DecidableEq, Repr

def localToUsdcAtomic (amountLocal currency : String) (fx : FxRate) : Except Failure Nat := do
  if toUpperCase fx.quote ≠ toUpperCase currency then
    throw (.vitrinee .validationError ("fx rate is USD/" ++ fx.quote ++ " but the amount is in " ++ currency))
  let localDecimals ← currencyDecimals currency
  let localAtomic ← parseDecimal amountLocal localDecimals
  let rateDecimals ← decimalPlaces fx.rate
  let rateAtomic ← parseDecimal fx.rate rateDecimals
  if rateAtomic = 0 then
    throw (.vitrinee .validationError "fx rate must be positive")
  divRoundHalfUp (localAtomic * 10 ^ rateDecimals * 10 ^ USDC_DECIMALS) (rateAtomic * 10 ^ localDecimals)

def usdcAtomicToDecimal (atomic : Nat) : String := formatUnits atomic USDC_DECIMALS

def timesQuantity (atomic quantity : Nat) : Except Failure Nat :=
  if quantity = 0 then .error (.vitrinee .validationError "quantity must be a positive integer")
  else .ok (atomic * quantity)

/-! ### Receipts -/

def STELLAR_TESTNET_CAIP2 : String := "stellar:testnet"
def USDC_CONTRACT : String := "CBIELTK6YBZJU5UP2WWQEUCYKLPU6AUNZ2BQ4WWFEIE3USCIHMXQDAMA"
def RECEIPT_TYPE : String := "vitrinee-receipt/0.1"

structure ReceiptItem where
  productId : String
  sku : String
  name : String
  quantity : Nat
  unitPriceUSDC : String
  unitPriceUSDCAtomic : Nat
  deriving DecidableEq, Repr

/-- Atomic amounts are numbers here, and times are milliseconds. -/
structure ReceiptClaims where
  typ : String
  orderId : String
  platformOrderId : Option String
  platform : String
  merchantDid : String
  merchantAccount : String
  payerAccount : String
  network : String
  asset : String
  amountUSDC : String
  amountUSDCAtomic : Nat
  settlementTxHash : String
  items : List ReceiptItem
  issuedAt : Int
  refundWindowEndsAt : Int
  escrow : Option String
  deriving DecidableEq, Repr

/-- The keys and signatures of the libraries: `StrKey`, `signJws`, SHA-256, and who paid according to a signed
    transaction. -/
structure Crypto where
  isStellarAccount : String → Bool
  isStellarContractId : String → Bool
  signJws : ReceiptClaims → String → String
  sha256 : String → String
  payerFromTransactionXdr : String → Option String

variable (crypto : Crypto)

/-- `^[0-9a-f]{64}$`. -/
def txHashSchema (text : String) : Bool :=
  text.toList.length = 64 && text.toList.all fun c => c.isDigit || ('a' ≤ c && c ≤ 'f')

/-- `^\d+(\.\d+)?$`. -/
def decimalStringSchema (text : String) : Bool := (decimalParts text.toList).isSome

def stellarPayerSchema (text : String) : Bool := crypto.isStellarAccount text || crypto.isStellarContractId text

def didKey (cs : List Char) : Bool :=
  match cs with
  | 'G' :: key => key.length = 55 && key.all fun c => ('A' ≤ c && c ≤ 'Z') || ('2' ≤ c && c ≤ '7')
  | _ => false

/-- `^did:stellar:(testnet|pubnet):(G[A-Z2-7]{55})$`. -/
def stellarDidSchema (text : String) : Bool :=
  ["did:stellar:testnet:", "did:stellar:pubnet:"].any fun start =>
    start.toList.isPrefixOf text.toList && didKey (text.toList.drop start.toList.length)

/-- The milliseconds whose ISO text has a year of four digits, as `z.iso.datetime` asks. -/
def isoDatetime (ms : Int) : Bool := -62167219200000 ≤ ms && ms < 253402300800000

def receiptItemSchema (item : ReceiptItem) : Bool :=
  item.productId ≠ "" && item.sku ≠ "" && item.name ≠ "" && 0 < item.quantity && decimalStringSchema item.unitPriceUSDC

def receiptClaimsSchema (claims : ReceiptClaims) : Bool :=
  claims.typ = RECEIPT_TYPE && claims.orderId ≠ "" && claims.platformOrderId ≠ some "" && claims.platform ≠ "" &&
    stellarDidSchema claims.merchantDid && crypto.isStellarAccount claims.merchantAccount &&
    stellarPayerSchema crypto claims.payerAccount && claims.network = STELLAR_TESTNET_CAIP2 &&
    crypto.isStellarContractId claims.asset && decimalStringSchema claims.amountUSDC &&
    txHashSchema claims.settlementTxHash && claims.items ≠ [] && claims.items.all receiptItemSchema &&
    isoDatetime claims.issuedAt && isoDatetime claims.refundWindowEndsAt &&
    claims.escrow.all crypto.isStellarContractId

def sameAmount (decimal : String) (atomic : Nat) : Bool :=
  match parseDecimal decimal USDC_DECIMALS with
  | .ok n => n = atomic
  | .error _ => false

def receiptIncoherence (claims : ReceiptClaims) : Option String :=
  if claims.asset ≠ USDC_CONTRACT then
    some ("asset " ++ claims.asset ++ " is not the trusted USDC contract " ++ USDC_CONTRACT)
  else if ¬sameAmount claims.amountUSDC claims.amountUSDCAtomic then
    some ("amountUSDC " ++ claims.amountUSDC ++ " is not amountUSDCAtomic " ++ toString claims.amountUSDCAtomic)
  else
    match claims.items.find? fun item => ¬sameAmount item.unitPriceUSDC item.unitPriceUSDCAtomic with
    | some item => some ("unitPriceUSDC " ++ item.unitPriceUSDC ++ " is not unitPriceUSDCAtomic " ++
        toString item.unitPriceUSDCAtomic ++ " for item " ++ item.productId)
    | none =>
      let sum := (claims.items.map fun item => item.unitPriceUSDCAtomic * item.quantity).sum
      if sum ≠ claims.amountUSDCAtomic then
        some ("the items add up to " ++ toString sum ++ " atomic units, not amountUSDCAtomic " ++
          toString claims.amountUSDCAtomic)
      else none

structure Receipt where
  jws : String
  hash : String
  deriving DecidableEq, Repr

def receiptHash (compactJws : String) : String := crypto.sha256 compactJws

def signReceipt (claims : ReceiptClaims) (signingSecret : String) : Except Failure Receipt :=
  if ¬receiptClaimsSchema crypto claims then .error (.zod "the claims are not those of a receipt")
  else
    match receiptIncoherence claims with
    | some incoherence => .error (.vitrinee .receiptInvalid ("refusing to sign an incoherent receipt: " ++ incoherence))
    | none =>
      let jws := crypto.signJws claims signingSecret
      .ok ⟨jws, receiptHash crypto jws⟩

end AgentPey.Receipts
