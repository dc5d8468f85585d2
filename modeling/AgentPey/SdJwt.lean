import Mathlib.Data.List.Basic

/-!
The slice of SD-JWT that the AP2 mandates use (`packages/ap2/src/sd-jwt.ts`): an issuer JWT followed by disclosures
and a trailing `~`. A disclosure is committed to by its digest, which stands in the signed payload in the place of an
array element or in the `_sd` list of an object.
-/
namespace AgentPey.SdJwt

/-- A JSON value. Numbers are of any kind: nothing here reads them. -/
inductive Value (N : Type) where
  | null
  | bool (b : Bool)
  | number (n : N)
  | string (s : String)
  | array (items : List (Value N))
  | object (members : List (String × Value N))

abbrev Members (N : Type) := List (String × Value N)

variable {N : Type}

/-- An `AgentPassError` of this package. -/
structure Ap2Error (N : Type) where
  code : String
  message : String
  details : Members N

def names (members : Members N) : List String := members.map Prod.fst

/-! ### Keys and libraries -/

def AP2_SD_JWT_TYP : String := "dc+sd-jwt"
def AP2_SD_ALG : String := "sha-256"
def DIGEST_KEY : String := "..."

inductive Ap2SigningAlg where
  | EdDSA | ES256
  deriving DecidableEq, Repr

def Ap2SigningAlg.text : Ap2SigningAlg → String
  | .EdDSA => "EdDSA"
  | .ES256 => "ES256"

inductive Ap2PublicJwk where
  | OKP (x : String)
  | EC (x y : String)
  deriving DecidableEq, Repr

def algForKey : Ap2PublicJwk → Ap2SigningAlg
  | .OKP _ => .EdDSA
  | .EC .. => .ES256

/-- A signer: its private key, whose texts stay with the library, its algorithm and the `kid` of its headers. -/
structure Ap2Signer (K : Type) where
  alg : Ap2SigningAlg
  privateJwk : K
  kid : String

/-- The members of a protected header that are read; `none` is a missing one. -/
structure ProtectedHeader (N : Type) where
  alg : Option (Value N)
  typ : Option (Value N)
  kid : Option (Value N)

/-- What is taken from outside: the JOSE library, JSON and base64url texts, and SHA-256. -/
structure Libraries (N K : Type) where
  sha256Base64Url : String → String
  stringify : Value N → String
  parse : String → Option (Value N)
  base64Url : String → String
  fromBase64Url : String → String
  sign : K → ProtectedHeader N → String → String
  decodeProtectedHeader : String → Option (ProtectedHeader N)
  compactVerify : Ap2PublicJwk → Ap2SigningAlg → String → Option String

variable {K : Type} (lib : Libraries N K)

/-! ### Disclosing -/

/-- The disclosure of a value, with the salt that was drawn for it. -/
def disclosure (salt : String) (value : Value N) : String :=
  lib.base64Url (lib.stringify (.array [.string salt, value]))

def placeholder (digest : String) : Value N := .object [(DIGEST_KEY, .string digest)]

/-- The placeholders of salted values, and the sink with their disclosures. -/
def disclosableArray (values : List (String × Value N)) (sink : List String) : List (Value N) × List String :=
  (values.map fun (salt, value) => placeholder (lib.sha256Base64Url (disclosure lib salt value)),
    sink ++ values.map fun (salt, value) => disclosure lib salt value)

/-- A property of an object literal: in its place when the name is there, at the end otherwise. -/
def setMember (members : Members N) (name : String) (value : Value N) : Members N :=
  if name ∈ names members then members.map fun (n, v) => if n = name then (n, value) else (n, v)
  else members ++ [(name, value)]

/-- `jwt~d1~…~dn~`. -/
def compact (jwt : String) (disclosures : List String) : String :=
  jwt ++ "~" ++ String.join (disclosures.map (· ++ "~"))

def issuedPayload (claims : Members N) : Value N := .object (setMember claims "_sd_alg" (.string AP2_SD_ALG))

def issuedHeader (signer : Ap2Signer K) : ProtectedHeader N :=
  ⟨some (.string signer.alg.text), some (.string AP2_SD_JWT_TYP), some (.string signer.kid)⟩

def issuerJwt (claims : Members N) (signer : Ap2Signer K) : String :=
  lib.sign signer.privateJwk (issuedHeader signer) (lib.stringify (issuedPayload claims))

def issueSdJwt (claims : Members N) (disclosures : List String) (signer : Ap2Signer K) : String :=
  compact (issuerJwt lib claims signer) disclosures

/-! ### Parsing -/

def invalid (message : String) (details : Members N) : Ap2Error N := ⟨"Ap2MandateInvalid", message, details⟩

/-- `text.split(separator)` for one character. -/
def split (separator : Char) (text : String) : List String := (text.toList.splitOn separator).map String.ofList

variable {separator : Char} {jwt : String} {texts : List String}

theorem split_first {mark text : String} (one : mark.toList = [separator]) (plain : separator ∉ text.toList)
    (rest : String) : split separator (text ++ mark ++ rest) = text :: split separator rest := by
  have texts : (text ++ mark ++ rest).toList = text.toList ++ separator :: rest.toList := by simp [one]
  rw [split, texts, List.splitOn_append_cons_self_of_not_mem plain, List.map_cons, String.ofList_toList]
  rfl

variable {text : String}

theorem split_append (plain : '~' ∉ text.toList) (rest : String) :
    split '~' (text ++ "~" ++ rest) = text :: split '~' rest := split_first rfl plain rest

theorem split_plain (plain : separator ∉ text.toList) : split separator text = [text] := by
  rw [split, List.splitOn_eq_singleton plain, List.map_singleton, String.ofList_toList]

/-- A text of base64url characters has neither of the two separators. -/
def Segment (text : String) : Prop := ∀ c ∈ text.toList, c ≠ '.' ∧ c ≠ '~'

theorem segment_ofList {characters : List Char} (plain : (characters.all fun c => c ≠ '.' ∧ c ≠ '~') = true) :
    Segment (String.ofList characters) := by
  rw [Segment, String.toList_ofList]
  exact fun c mem => of_decide_eq_true (List.all_eq_true.mp plain c mem)

theorem Segment.append {a b : String} (first : Segment a) (second : Segment b) : Segment (a ++ b) := by
  intro c member
  rw [String.toList_append, List.mem_append] at member
  exact member.elim (first c) (second c)

theorem Segment.no_tilde (segment : Segment text) : '~' ∉ text.toList :=
  fun member => (segment _ member).2 rfl

theorem compactJws_segments {a b c : String} (first : Segment a) (second : Segment b) (third : Segment c) :
    split '.' (a ++ "." ++ b ++ "." ++ c) = [a, b, c] ∧ '~' ∉ (a ++ "." ++ b ++ "." ++ c).toList := by
  have dots : ∀ {text : String}, Segment text → '.' ∉ text.toList := fun segment member => (segment _ member).1 rfl
  constructor
  · have joined : a ++ "." ++ b ++ "." ++ c = a ++ "." ++ (b ++ "." ++ c) := by simp only [String.append_assoc]
    rw [joined, split_first rfl (dots first), split_first rfl (dots second), split_plain (dots third)]
  · intro member
    simp only [String.toList_append, List.mem_append] at member
    rcases member with (((here | dot) | here) | dot) | here
    · exact (first _ here).2 rfl
    · exact absurd dot (by decide)
    · exact (second _ here).2 rfl
    · exact absurd dot (by decide)
    · exact (third _ here).2 rfl

theorem split_compact (jwtText : '~' ∉ jwt.toList)
    (plain : ∀ text ∈ texts, '~' ∉ text.toList) : split '~' (compact jwt texts) = jwt :: (texts ++ [""]) := by
  have joined : split '~' (String.join (texts.map (· ++ "~"))) = texts ++ [""] := by
    clear jwtText
    induction texts with
    | nil => rfl
    | cons text rest ih =>
      have rests := ih fun other member => plain other (List.mem_cons_of_mem _ member)
      rw [List.map_cons, String.join_cons, split_append (plain text List.mem_cons_self), rests, List.cons_append]
  rw [compact, split_append jwtText, joined]

theorem compact_last (jwt : String) (texts : List String) : (compact jwt texts).toList.getLast? = some '~' := by
  have joined : ∀ before : String, before.toList.getLast? = some '~' →
      (before ++ String.join (texts.map (· ++ "~"))).toList.getLast? = some '~' := by
    induction texts with
    | nil => simp
    | cons text rest ih =>
      intro before _
      rw [List.map_cons, String.join_cons, ← String.append_assoc]
      exact ih _ (by simp)
  exact joined _ (by simp)

structure ParsedSdJwt where
  issuerJwt : String
  disclosures : List String

def parseSdJwt (token : String) : Except (Ap2Error N) ParsedSdJwt :=
  if token.toList.getLast? ≠ some '~' then
    .error (invalid "an AP2 open mandate is an SD-JWT with no Key Binding JWT, so it must end with '~'" [])
  else
    let parts := split '~' token
    let issuerJwt := parts.headD ""
    let disclosures := (parts.drop 1).dropLast
    if (split '.' issuerJwt).length ≠ 3 ∨ "" ∈ disclosures then .error (invalid "the SD-JWT is not `jwt~disclosure~…~`" [])
    else .ok ⟨issuerJwt, disclosures⟩

/-- A compact token is read back. -/
theorem parseSdJwt_compact (jwtText : '~' ∉ jwt.toList) (segments : (split '.' jwt).length = 3)
    (plain : ∀ text ∈ texts, text ≠ "" ∧ '~' ∉ text.toList) : parseSdJwt (N := N) (compact jwt texts) = .ok ⟨jwt, texts⟩ := by
  have parts := split_compact jwtText fun text member => (plain text member).2
  have nonempty : "" ∉ texts := fun member => (plain "" member).1 rfl
  rw [parseSdJwt, if_neg (not_not.mpr (compact_last jwt texts)), parts]
  simp [segments, nonempty]

/-- `sd_hash`: the digest of the whole token, disclosures included. -/
def sdHash (token : String) : Except (Ap2Error N) String := do
  let _ ← parseSdJwt token
  pure (lib.sha256Base64Url token)

/-! ### Resolving -/

def mismatch (message : String) (details : Members N) : Ap2Error N := ⟨"Ap2DisclosureMismatch", message, details⟩

inductive DecodedDisclosure (N : Type) where
  | element (value : Value N)
  | property (name : String) (value : Value N)

def decodeDisclosure (text : String) : Except (Ap2Error N) (DecodedDisclosure N) :=
  match lib.parse (lib.fromBase64Url text) with
  | none => .error (mismatch "a disclosure is not base64url JSON" [])
  | some (.array [.string _, value]) => .ok (.element value)
  | some (.array [.string _, .string name, value]) =>
    if name ≠ "_sd" ∧ name ≠ DIGEST_KEY then .ok (.property name value) else .error neither
  | some (.array (.string _ :: _)) => .error neither
  | some _ => .error (mismatch "a disclosure is not [salt, …]" [])
where
  neither : Ap2Error N := mismatch "a disclosure is neither [salt, value] nor [salt, name, value]" []

/-- `byDigest`: the decoded disclosures under their digests, in their order. -/
abbrev Table (N : Type) := List (String × DecodedDisclosure N)

def byDigest (table : Table N) : List String → Except (Ap2Error N) (Table N)
  | [] => .ok table
  | text :: rest => do
    let digest := lib.sha256Base64Url text
    if digest ∈ table.map Prod.fst then
      .error (mismatch "the same disclosure appears twice" [("digest", .string digest)])
    else
      let decoded ← decodeDisclosure lib text
      byDigest (table ++ [(digest, decoded)]) rest

/-- Why a resolution has no result: the code threw, or the depth it was given was too little. -/
inductive Halt (N : Type) where
  | threw (e : Ap2Error N)
  | tooDeep

abbrev Resolving (N α : Type) := Except (Halt N) α

abbrev Seen := List String

def throws {α : Type} (message : String) (details : Members N) : Resolving N α := .error (.threw (mismatch message details))

/-- The disclosure a digest points at, if there is one. Every digest is seen once. -/
def take (table : Table N) (digest : Value N) (seen : Seen) : Resolving N (Option (DecodedDisclosure N) × Seen) :=
  match digest with
  | .string d =>
    if d ∈ seen then throws "a digest appears twice in the signed payload" [("digest", .string d)]
    else .ok (table.lookup d, seen ++ [d])
  | _ => throws "a digest is not a string" []

/-- An array element that is an object with a `...` member: its members, and the digest. -/
def marked : Value N → Option (Members N × Value N)
  | .object members => (members.lookup DIGEST_KEY).map fun digest => (members, digest)
  | _ => none

/-- The value of a disclosure is resolved in turn, by `deeper`. -/
abbrev Deeper (N : Type) := Value N → Seen → Resolving N (Value N × Seen)

section
variable (table : Table N) (deeper : Deeper N)

/-- The `_sd` digests of an object, after its own members. -/
def resolveDigests (out : Members N) : List (Value N) → Seen → Resolving N (Members N × Seen)
  | [], seen => .ok (out, seen)
  | digest :: rest, seen => do
    let (disclosed, seen) ← take table digest seen
    match disclosed with
    | none => resolveDigests out rest seen
    | some (.element _) => throws "an _sd digest points at an array element disclosure" []
    | some (.property name value) =>
      if name ∈ names out then throws "a disclosure would overwrite a signed claim" [("claim", .string name)]
      else
        let (resolved, seen) ← deeper value seen
        resolveDigests (out ++ [(name, resolved)]) rest seen

mutual

def resolveWith : Value N → Seen → Resolving N (Value N × Seen)
  | .array items, seen => do
    let (out, seen) ← resolveElements items seen
    pure (.array out, seen)
  | .object members, seen => do
    let (out, seen) ← resolveMembers members seen
    match members.lookup "_sd" with
    | none => pure (.object out, seen)
    | some (.array digests) =>
      let (out, seen) ← resolveDigests table deeper out digests seen
      pure (.object out, seen)
    | some _ => throws "_sd is not an array" []
  | value, seen => .ok (value, seen)

def resolveElements : List (Value N) → Seen → Resolving N (List (Value N) × Seen)
  | [], seen => .ok ([], seen)
  | item :: rest, seen =>
    match marked item with
    | some (members, digest) => do
      if members.length ≠ 1 then throws "an array digest placeholder carries other members" []
      else
        let (disclosed, seen) ← take table digest seen
        match disclosed with
        -- Undisclosed: the element is withheld, not invented.
        | none => resolveElements rest seen
        | some (.property ..) => throws "an array element points at a property disclosure" []
        | some (.element value) =>
          let (resolved, seen) ← deeper value seen
          let (out, seen) ← resolveElements rest seen
          pure (resolved :: out, seen)
    | none => do
      let (resolved, seen) ← resolveWith item seen
      let (out, seen) ← resolveElements rest seen
      pure (resolved :: out, seen)

def resolveMembers : Members N → Seen → Resolving N (Members N × Seen)
  | [], seen => .ok ([], seen)
  | (name, member) :: rest, seen =>
    if name = "_sd" then resolveMembers rest seen
    else do
      let (resolved, seen) ← resolveWith member seen
      let (out, seen) ← resolveMembers rest seen
      pure ((name, resolved) :: out, seen)

end

end

/-- To so many disclosures within one another. -/
def resolve (table : Table N) : Nat → Deeper N
  | 0 => resolveWith table fun _ _ => .error .tooDeep
  | depth + 1 => resolveWith table (resolve table depth)

def thrown {α : Type} : Except (Ap2Error N) α → Resolving N α
  | .ok a => .ok a
  | .error e => .error (.threw e)

/-- The claims with every digest that was signed replaced by the disclosure that hashes to it. -/
def resolveDisclosuresTo (depth : Nat) (claims : Members N) (disclosures : List String) : Resolving N (Value N) := do
  let table ← thrown (byDigest lib [] disclosures)
  let (resolved, seen) ← resolve table depth (.object claims) []
  let unused := (table.map Prod.fst).filter fun digest => digest ∉ seen
  if unused ≠ [] then
    throws "a disclosure matches no digest the issuer signed" [("digests", .array (unused.map .string))]
  else pure resolved

/-- No more disclosures stand within one another than were given. -/
def resolveDisclosures (claims : Members N) (disclosures : List String) : Resolving N (Value N) :=
  resolveDisclosuresTo lib disclosures.length claims disclosures

/-! ### Verifying -/

/-- `value === text`. -/
def isText (value : Option (Value N)) (text : String) : Bool :=
  match value with
  | some (.string s) => s = text
  | _ => false

/-- A member of an object literal: a value that is undefined leaves none. -/
def member (name : String) (value : Option (Value N)) : Members N :=
  match value with
  | some v => [(name, v)]
  | none => []

structure VerifiedSdJwt (N : Type) where
  header : ProtectedHeader N
  payload : Value N

/-- The claims of a signed payload, without `_sd_alg`. -/
def signedClaims (payload : Option (Value N)) : Except (Ap2Error N) (Members N) :=
  match payload with
  | none => .error (invalid "the SD-JWT payload is not JSON" [])
  | some (.object members) =>
    let sdAlg := members.lookup "_sd_alg"
    if sdAlg.isSome ∧ ¬isText sdAlg AP2_SD_ALG then
      .error (invalid ("only " ++ AP2_SD_ALG ++ " disclosure digests are accepted") (member "_sd_alg" sdAlg))
    else .ok (members.filter (·.1 ≠ "_sd_alg"))
  | some _ => .error (invalid "the SD-JWT payload is not a JSON object" [])

/-- What the issuer's key signed: header, signature and payload, in this order. -/
def verifyIssuer (issuerJwt : String) (issuerKey : Ap2PublicJwk) : Except (Ap2Error N) (ProtectedHeader N × Members N) :=
  let alg := algForKey issuerKey
  match lib.decodeProtectedHeader issuerJwt with
  | none => .error (invalid "the SD-JWT protected header is unreadable" [])
  | some header =>
    if ¬isText header.alg alg.text then
      .error (invalid ("expected alg " ++ alg.text ++ ", the algorithm of the trusted issuer key")
        (member "alg" header.alg ++ [("expected", .string alg.text)]))
    else if ¬isText header.typ AP2_SD_JWT_TYP then
      .error (invalid ("expected typ " ++ AP2_SD_JWT_TYP)
        (member "typ" header.typ ++ [("expected", .string AP2_SD_JWT_TYP)]))
    else
      match lib.compactVerify issuerKey alg issuerJwt with
      | none => .error ⟨"Ap2SignatureInvalid", "the SD-JWT is not signed by the trusted issuer key",
          member "kid" header.kid ++ [("alg", .string alg.text)]⟩
      | some signedText => do
        let claims ← signedClaims (lib.parse signedText)
        pure (header, claims)

theorem verifyIssuer_eq {issuerKey : Ap2PublicJwk} {header : ProtectedHeader N} {claims : Members N}
    (headed : lib.decodeProtectedHeader jwt = some header) (alg : isText header.alg (algForKey issuerKey).text)
    (typ : isText header.typ AP2_SD_JWT_TYP) (verifies : lib.compactVerify issuerKey (algForKey issuerKey) jwt = some text)
    (claimed : signedClaims (lib.parse text) = .ok claims) : verifyIssuer lib jwt issuerKey = .ok (header, claims) := by
  rw [verifyIssuer, headed]
  dsimp only
  rw [if_neg (not_not.mpr alg), if_neg (not_not.mpr typ), verifies]
  dsimp only
  rw [claimed]
  rfl

def verifySdJwt (token : String) (issuerKey : Ap2PublicJwk) : Resolving N (VerifiedSdJwt N) := do
  let parsed ← thrown (parseSdJwt token)
  let (header, claims) ← thrown (verifyIssuer lib parsed.issuerJwt issuerKey)
  let payload ← resolveDisclosures lib claims parsed.disclosures
  pure ⟨header, payload⟩

end AgentPey.SdJwt
