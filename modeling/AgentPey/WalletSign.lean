import AgentPey.Dates
import AgentPey.JsonSchemas
import AgentPey.TextLines
import AgentPey.Utf8

/-!
Mandates that a connected wallet signs: the schema of a mandate (`mandate/src/mandate.ts` over `core/src/credential.ts` and
`did.ts`), the message that the wallet shows and signs (`mandate/src/wallet-sign.ts`), and the check of that signature
(`core/src/sep53.ts`). Texts are UTF-16, as they are in JavaScript, line breaks and lone surrogates included.
-/
namespace AgentPey.WalletSign
open JsonNumbers JsonTexts JsonValues JsonSchemas TextLines Utf8

def isBase32 (u : CodeUnit) : Bool := (65 ≤ u.val && u.val ≤ 90) || (50 ≤ u.val && u.val ≤ 55)

/-- What is taken from libraries: the checksums of Stellar's keys, which are written in base32; SHA-256 and Ed25519. -/
structure Libraries where
  isValidEd25519PublicKey : Text → Bool
  isValidContract : Text → Bool
  sha256 : Bytes → Bytes
  /-- `Keypair.fromPublicKey(publicKey).verify(hash, Buffer.from(signature, "base64"))`, an exception being no. -/
  verify : Text → Bytes → Text → Bool
  base32 : ∀ key, isValidEd25519PublicKey key → ∀ u ∈ key, isBase32 u

variable (lib : Libraries)

/-! ### Texts with a format -/

/-- `^(0|[1-9]\d*)(\.\d{1,7})?$`. -/
def isDecimalAmount (text : Text) : Bool :=
  let whole := text.takeWhile isDigit
  (whole = [zero] || (whole ≠ [] && whole.head? ≠ some zero)) &&
    match text.dropWhile isDigit with
    | [] => true
    | dot :: fraction => dot = unit '.' && 1 ≤ fraction.length && fraction.length ≤ 7 && fraction.all isDigit

/-- `z.string().min(1)`. -/
def isSome (text : Text) : Bool := text ≠ []

def isHex (u : CodeUnit) : Bool := isDigit u || (65 ≤ u.val && u.val ≤ 70) || (97 ≤ u.val && u.val ≤ 102)

/-- `z.uuid()`. -/
def isUuid (text : Text) : Bool :=
  match text.splitOn (unit '-') with
  | [a, b, c, d, e] =>
    (a.length = 8 && b.length = 4 && c.length = 4 && d.length = 4 && e.length = 12 && (a ++ b ++ c ++ d ++ e).all isHex) &&
      ((c.head?.any fun u => 49 ≤ u.val && u.val ≤ 56) && (d.head?.any fun u => u ∈ units ['8', '9', 'a', 'b', 'A', 'B']) ||
        (a ++ b ++ c ++ d ++ e).all (· = zero) || (a ++ b ++ c ++ d ++ e).all (· = unit 'f'))
  | _ => false

def isLeapYear (year : ℕ) : Bool := year % 4 = 0 && (year % 100 ≠ 0 || year % 400 = 0)

def daysIn (year month : ℕ) : ℕ :=
  if month = 2 then if isLeapYear year then 29 else 28
  else if month ∈ [4, 6, 9, 11] then 30
  else 31

/-- A day, `YYYY-MM-DD`. -/
def isDay (text : Text) : Bool :=
  match text.splitOn (unit '-') with
  | [year, month, day] =>
    (year.length = 4 && month.length = 2 && day.length = 2 && (year ++ month ++ day).all isDigit) &&
      (1 ≤ readDigits month && readDigits month ≤ 12) &&
      (1 ≤ readDigits day && readDigits day ≤ daysIn (readDigits year) (readDigits month))
  | _ => false

def isSeconds (text : Text) : Bool :=
  match text with
  | s₁ :: s₂ :: rest =>
    isDigit s₁ && isDigit s₂ && readDigits [s₁] ≤ 5 &&
      match rest with
      | [] => true
      | dot :: fraction => dot = unit '.' && fraction ≠ [] && fraction.all isDigit
  | _ => false

/-- A time of the day, `HH:MM`, with or without seconds and a fraction of them. -/
def isTime (text : Text) : Bool :=
  match text.splitOn (unit ':') with
  | hours :: minutes :: rest =>
    (hours.length = 2 && minutes.length = 2 && (hours ++ minutes).all isDigit && readDigits hours ≤ 23 && readDigits minutes ≤ 59) &&
      match rest with
      | [] => true
      | [seconds] => isSeconds seconds
      | _ => false
  | _ => false

/-- `z.iso.datetime()`. -/
def isDatetime (text : Text) : Bool :=
  match text.splitOn (unit 'T') with
  | [day, time] => isDay day && time.getLast? = some (unit 'Z') && isTime time.dropLast
  | _ => false

structure ParsedStellarDid where
  network : Text
  address : Text

def parseStellarDid (did : Text) : Option ParsedStellarDid :=
  match did.splitOn (unit ':') with
  | [scheme, method, network, address] =>
    if scheme = words "did" ∧ method = words "stellar" ∧ (network = words "testnet" ∨ network = words "public") ∧
        lib.isValidEd25519PublicKey address then some ⟨network, address⟩
    else none
  | _ => none

def isStellarDid (did : Text) : Bool := (parseStellarDid lib did).isSome

/-! ### The documents -/

abbrev DecimalAmount := { text : Text // isDecimalAmount text }
abbrev Named := { text : Text // isSome text }
abbrev StellarDid := { text : Text // isStellarDid lib text }
abbrev Payee := { text : Text // (lib.isValidEd25519PublicKey text || lib.isValidContract text) = true }

structure ScopeLimits where
  perTx : DecimalAmount
  perDay : DecimalAmount
  currency : Named

structure MandateGrant where
  actions : List Named
  venues : List Named
  assets : List Named
  limits : ScopeLimits
  payTo : Option (List (Payee lib))
  products : Option (List Named)

structure MandateSubject where
  id : StellarDid lib
  grant : MandateGrant lib

structure CredentialStatus where
  registry : { text : Text // lib.isValidContract text }

structure AgentPayMandate where
  mandateId : { text : Text // isUuid text }
  issuer : StellarDid lib
  validFrom : { text : Text // isDatetime text }
  validUntil : { text : Text // isDatetime text }
  credentialSubject : MandateSubject lib
  credentialStatus : CredentialStatus lib

/-! ### Their schemas -/

def decimalAmountSchema : Schema DecimalAmount := text isDecimalAmount
def named : Schema Named := text isSome
def stellarDidSchema : Schema (StellarDid lib) := text (isStellarDid lib)
def payeeSchema : Schema (Payee lib) := text fun key => lib.isValidEd25519PublicKey key || lib.isValidContract key

/-- `z.literal`. -/
def literal (s : Text) : Schema Unit where
  read v := ((text (· = s)).read v).map fun _ => ()
  write _ := .string s
  distinct _ := trivial
  tells _ := rfl
  keeps distinct ran := by
    obtain ⟨⟨t, same⟩, read, _⟩ := Option.map_eq_some_iff.mp ran
    obtain rfl := of_decide_eq_true same
    exact (text _).keeps distinct read

def scopeLimitsSchema : Schema ScopeLimits :=
  strictObject <|
    ((field (words "perTx") decimalAmountSchema).and <| (field (words "perDay") decimalAmountSchema).and <|
      field (words "currency") named).into
    (fun (perTx, perDay, currency) => ⟨perTx, perDay, currency⟩) (fun limits => (limits.perTx, limits.perDay, limits.currency))
    fun _ => rfl

/-- `scopeSchema`, extended. -/
def mandateGrantSchema : Schema (MandateGrant lib) :=
  strictObject <|
    ((field (words "actions") (array 1 named)).and <| (field (words "venues") (array 0 named)).and <|
      (field (words "assets") (array 0 named)).and <| (field (words "limits") scopeLimitsSchema).and <|
        (optional (words "payTo") (array 0 (payeeSchema lib))).and <| optional (words "products") (array 0 named)).into
    (fun (actions, venues, assets, limits, payTo, products) => ⟨actions, venues, assets, limits, payTo, products⟩)
    (fun grant => (grant.actions, grant.venues, grant.assets, grant.limits, grant.payTo, grant.products)) fun _ => rfl

def mandateSubjectSchema : Schema (MandateSubject lib) :=
  strictObject <|
    ((field (words "id") (stellarDidSchema lib)).and <| field (words "grant") (mandateGrantSchema lib)).into
    (fun (id, grant) => ⟨id, grant⟩) (fun subject => (subject.id, subject.grant)) fun _ => rfl

def credentialStatusSchema : Schema (CredentialStatus lib) :=
  strictObject <|
    ((field (words "type") (literal (words "AgentPassRegistry2026"))).and <|
      field (words "registry") (text lib.isValidContract)).into
    (fun (_, registry) => ⟨registry⟩) (fun status => ((), status.registry)) fun _ => rfl

def agentPayMandateSchema : Schema (AgentPayMandate lib) :=
  strictObject <|
    ((field (words "@context") (literals [words "https://www.w3.org/ns/credentials/v2"])).and <|
      (field (words "type") (literals [words "VerifiableCredential", words "AgentPayMandate"])).and <|
        (field (words "mandateId") (text isUuid)).and <| (field (words "issuer") (stellarDidSchema lib)).and <|
          (field (words "validFrom") (text isDatetime)).and <| (field (words "validUntil") (text isDatetime)).and <|
            (field (words "credentialSubject") (mandateSubjectSchema lib)).and <|
              field (words "credentialStatus") (credentialStatusSchema lib)).into
    (fun (_, _, mandateId, issuer, validFrom, validUntil, credentialSubject, credentialStatus) =>
      ⟨mandateId, issuer, validFrom, validUntil, credentialSubject, credentialStatus⟩)
    (fun mandate => ((), (), mandate.mandateId, mandate.issuer, mandate.validFrom, mandate.validUntil, mandate.credentialSubject,
      mandate.credentialStatus)) fun _ => rfl

variable {lib}

def AgentPayMandate.value (mandate : AgentPayMandate lib) : Value := (agentPayMandateSchema lib).write mandate

/-! ### What a wallet shows and signs -/

def canonicalMandateJson (mandate : AgentPayMandate lib) : Text := CanonicalJson.canonicalJson mandate.value

def hexOf (bytes : Bytes) : Text := bytes.flatMap fun b => [hexDigit (b.toNat / 16), hexDigit (b.toNat % 16)]

def walletMandateHash (mandate : AgentPayMandate lib) : Text := hexOf (lib.sha256 (utf8 (canonicalMandateJson mandate)))

def limitLine (limits : ScopeLimits) : Text :=
  words "Limit: " ++ limits.perTx.1 ++ words " per purchase, " ++ limits.perDay.1 ++ words " per day, " ++ limits.currency.1

def challengeLines (mandate : AgentPayMandate lib) : List Text :=
  [words "AgentPey Mandate", words "Agent: " ++ mandate.credentialSubject.id.1, limitLine mandate.credentialSubject.grant.limits,
    words "Valid until: " ++ mandate.validUntil.1, words "Hash: " ++ walletMandateHash mandate]

def mandateChallengeMessage (mandate : AgentPayMandate lib) : Text := [newline].intercalate (challengeLines mandate)

/-! ### The signature -/

structure Failure where
  code : String
  message : String
  deriving DecidableEq

structure WalletVerifiedMandate (lib : Libraries) where
  hash : Text
  mandate : AgentPayMandate lib
  principal : StellarDid lib
  agent : StellarDid lib

def STELLAR_MESSAGE_PREFIX : Text := words "Stellar Signed Message:\n"

def sep53Hash (lib : Libraries) (message : Text) : Bytes := lib.sha256 (utf8 STELLAR_MESSAGE_PREFIX ++ utf8 message)

def verifyStellarMessage (lib : Libraries) (publicKey message signature : Text) : Bool :=
  lib.verify publicKey (sep53Hash lib message) signature

def didToStellarAddress (did : StellarDid lib) : Text := ((parseStellarDid lib did.1).get did.2).address

def dateOf (text : Text) : Dates.Date := Dates.parse (String.ofList (text.map fun u => Char.ofNat u.val))

def verifyWalletSignedMandate (lib : Libraries) (mandate : JsonValue) (signature : Text) (now : Dates.Date) :
    Except Failure (WalletVerifiedMandate lib) :=
  match (agentPayMandateSchema lib).read mandate.1 with
  | none => .error ⟨"InvalidMandate", "the payload does not match the mandate schema"⟩
  | some document =>
    if verifyStellarMessage lib (didToStellarAddress document.issuer) (mandateChallengeMessage document) signature = false then
      .error ⟨"InvalidSignature", "the wallet signature does not verify against the principal"⟩
    else if Dates.before now (dateOf document.validFrom.1) then .error ⟨"MandateNotYetValid", "the mandate is not valid yet"⟩
    else if Dates.before (dateOf document.validUntil.1) now then .error ⟨"MandateExpired", "the mandate has expired"⟩
    else .ok ⟨walletMandateHash document, document, document.issuer, document.credentialSubject.id⟩

end AgentPey.WalletSign
