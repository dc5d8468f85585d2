import AgentPey.CheckoutMandates

/-!
What an accepted `open~~close` chain shows, and that the chain an agent closes is accepted.
-/
namespace AgentPey.MandateChains
open SdJwt Disclosures CheckoutMandates

variable {K : Type} {lib : Ap2Libraries K} {options : VerifyCheckoutMandateOptions}

/-! ### Splitting a chain -/

/-- No two `~` stand side by side. -/
def Single (text : List Char) : Prop := ¬['~', '~'] <:+: text

variable {c : Char} {rest : List Char} {text token openPart chain openText : String} {key : Ap2PublicJwk}

theorem Single.tail (single : Single (c :: rest)) : Single rest :=
  fun pair => single (pair.trans (List.suffix_cons c rest).isInfix)

theorem Single.head (single : Single ('~' :: rest)) : rest.head? ≠ some '~' := by
  intro first
  cases rest with
  | nil => cases first
  | cons c rest =>
    cases first
    exact single ⟨[], rest, rfl⟩

theorem splitHops_cons (apart : c = '~' → rest.head? ≠ some '~') :
    splitHops (c :: rest) = (splitHops rest).modifyHead (c :: ·) := by
  cases rest with
  | nil => simp [splitHops]
  | cons d rest =>
    rw [splitHops]
    rintro _ rfl same
    cases same
    exact apart rfl rfl

theorem splitHops_single {text : List Char} (single : Single text) : splitHops text = [text] := by
  induction text with
  | nil => rfl
  | cons c rest ih =>
    rw [splitHops_cons, ih single.tail]
    · rfl
    · rintro rfl
      exact single.head

theorem splitHops_append {first : List Char} (single : Single (first ++ ['~'])) (rest : List Char) :
    splitHops (first ++ '~' :: '~' :: rest) = first :: splitHops rest := by
  induction first with
  | nil => rfl
  | cons c first ih =>
    rw [List.cons_append] at single ⊢
    rw [splitHops_cons, ih single.tail]
    · rfl
    · rintro rfl
      have next := single.head
      cases first with
      | nil => exact next
      | cons d first => exact next

/-- A text has no `~~` when only its first and its last part may be empty. -/
theorem single_of_split (parts : "" ∉ ((split '~' text).drop 1).dropLast) : Single text.toList := by
  rintro ⟨before, after, same⟩
  apply parts
  have joined : text.toList = before ++ '~' :: '~' :: after := by rw [← same]; simp
  have pieces : text.toList.splitOn '~' = before.splitOn '~' ++ ([] :: after.splitOn '~') := by
    rw [joined, List.splitOn_append_cons_self]
    have empty : ('~' :: after).splitOn '~' = [] :: after.splitOn '~' := List.splitOn_append_cons_self [] after
    rw [empty]
  obtain ⟨piece, pieces_, some_⟩ := List.exists_cons_of_ne_nil (List.splitOn_ne_nil '~' before)
  rw [split, pieces, some_, List.cons_append, List.map_cons, List.drop_succ_cons, List.drop_zero, List.map_append,
    List.map_cons, List.dropLast_append_of_ne_nil (by simp), List.dropLast_cons_of_ne_nil (by simp)]
  simp

/-! ### What an accepted chain shows -/

/-- The two hops of a chain, and the disclosures of each. -/
structure Hops where
  openText : String
  openDisclosures : List String
  hopJwt : String
  hopDisclosures : List String

def hopsFrom (openPart hop : String) : Hops where
  openText := openPart ++ "~"
  openDisclosures := ((split '~' (openPart ++ "~")).drop 1).dropLast
  hopJwt := (split '~' hop).headD ""
  hopDisclosures := ((split '~' hop).drop 1).filter (· ≠ "")

def hopsOf (chain : String) : Option Hops :=
  match (splitHops chain.toList).map String.ofList with
  | [openPart, hop] => some (hopsFrom openPart hop)
  | _ => none

/-- The payloads that the owner of a key signed. -/
structure Signatures where
  byKey : Ap2PublicJwk → String → Prop
  byJwk : Members ℚ → String → Prop

/-- What verifies was signed by the owner of the key. -/
structure Unforgeable (lib : Ap2Libraries K) (signatures : Signatures) : Prop where
  key : ∀ key alg jwt text, lib.compactVerify key alg jwt = some text → signatures.byKey key text
  jwk : ∀ jwk jwt text, lib.verifyJwk jwk jwt = some text → signatures.byJwk jwk text

/-- The open mandate was signed by a key that the platform publishes, in the issuer's name, and is in its window. -/
def OpenSigned (lib : Ap2Libraries K) (signatures : Signatures) (options : VerifyCheckoutMandateOptions) (hops : Hops)
    (opened : OpenCheckoutMandate) : Prop :=
  ∃ kid key text claims payload, options.platformKey kid = some key ∧ signatures.byKey key text ∧
    signedClaims (lib.parse text) = .ok claims ∧
    resolveDisclosures lib.toLibraries claims hops.openDisclosures = .ok payload ∧
    textOf (field "iss" payload) = some options.issuer ∧
    openCheckoutMandateSchema ((itemsOf (field "delegate_payload" payload)).bind (·.head?)) = some opened ∧
    opened.iat ≤ seconds options.now + AP2_CLOCK_SKEW_SECONDS ∧ seconds options.now ≤ opened.exp

/-- The hop was signed by the P-256 key that the open mandate names, over this open mandate, for this business and this
    checkout, and over the digest of its one disclosure, which carries the checkout JWT and its hash. -/
def HopSigned (lib : Ap2Libraries K) (signatures : Signatures) (options : VerifyCheckoutMandateOptions) (hops : Hops)
    (opened : OpenCheckoutMandate) (checkoutJwt : String) : Prop :=
  ∃ x y text json claims disclosure salt value, ap2PublicJwkSchema (some (.object opened.jwk)) = some (.EC x y) ∧
    lib.verifyJwk opened.jwk hops.hopJwt = some text ∧ signatures.byJwk opened.jwk text ∧ lib.parse text = some json ∧ hopClaimsSchema json = some claims ∧
    claims.sd_hash = lib.sha256Base64Url hops.openText ∧ claims.aud = options.aud ∧ claims.nonce = options.nonce ∧
    (seconds options.now - claims.iat).natAbs ≤ AP2_CLOCK_SKEW_SECONDS ∧
    hops.hopDisclosures = [disclosure] ∧
    textOf (field DIGEST_KEY claims.delegated) = some (lib.sha256Base64Url disclosure) ∧
    lib.parse (lib.fromBase64Url disclosure) = some (.array [.string salt, value]) ∧
    closedCheckoutSchema value = some ⟨checkoutJwt, lib.sha256Base64Url checkoutJwt⟩

variable {code message : String} {details : Members ℚ}

theorem ensure_ok {condition : Prop} [Decidable condition] {u : Unit}
    (ok : ensure condition code message details = .ok u) : condition := by
  unfold ensure at ok
  split at ok
  · assumption
  · cases ok

theorem orFail_ok {α : Type} {value : Option α} {a : α} (ok : orFail value code message details = .ok a) : value = some a := by
  cases value with
  | none => cases ok
  | some found =>
    cases ok
    rfl

theorem thrown_ok {N α : Type} {x : Except (Ap2Error N) α} {a : α} (ok : thrown x = .ok a) : x = .ok a := by
  cases x with
  | error e => cases ok
  | ok found =>
    cases ok
    rfl

theorem verifyIssuer_ok {N : Type} {lib : Libraries N K} {jwt : String} {header : ProtectedHeader N} {claims : Members N}
    (ok : verifyIssuer lib jwt key = .ok (header, claims)) : lib.decodeProtectedHeader jwt = some header ∧
      ∃ text, lib.compactVerify key (algForKey key) jwt = some text ∧ signedClaims (lib.parse text) = .ok claims := by
  unfold verifyIssuer at ok
  cases header_ : lib.decodeProtectedHeader jwt with
  | none =>
    rw [header_] at ok
    cases ok
  | some found =>
    rw [header_] at ok
    dsimp only at ok
    split at ok
    · cases ok
    split at ok
    · cases ok
    cases verified : lib.compactVerify key (algForKey key) jwt with
    | none =>
      rw [verified] at ok
      cases ok
    | some text =>
      rw [verified] at ok
      dsimp only at ok
      cases claimed : signedClaims (lib.parse text) with
      | error e =>
        rw [claimed] at ok
        cases ok
      | ok claims_ =>
        rw [claimed] at ok
        cases ok
        exact ⟨rfl, text, rfl, claimed⟩

theorem parseSdJwt_ok {N : Type} {parsed : ParsedSdJwt} (ok : parseSdJwt (N := N) token = .ok parsed) :
    token.toList.getLast? = some '~' ∧ "" ∉ ((split '~' token).drop 1).dropLast ∧
      parsed = ⟨(split '~' token).headD "", ((split '~' token).drop 1).dropLast⟩ := by
  unfold parseSdJwt at ok
  split at ok
  · cases ok
  rename_i ends
  dsimp only at ok
  split at ok
  · cases ok
  rename_i parts
  cases ok
  exact ⟨not_not.mp ends, fun empty => parts (.inr empty), rfl⟩

theorem verifySdJwt_ok {N : Type} {lib : Libraries N K} {verified : VerifiedSdJwt N}
    (ok : verifySdJwt lib token key = .ok verified) : ∃ parsed text claims, parseSdJwt (N := N) token = .ok parsed ∧
      lib.compactVerify key (algForKey key) parsed.issuerJwt = some text ∧ signedClaims (lib.parse text) = .ok claims ∧
      resolveDisclosures lib claims parsed.disclosures = .ok verified.payload := by
  obtain ⟨parsed, parses, ok⟩ := bind_ok ok
  obtain ⟨⟨header, claims⟩, issued, ok⟩ := bind_ok ok
  obtain ⟨payload, resolved, ok⟩ := bind_ok ok
  cases ok
  obtain ⟨_, text, verifies, claimed⟩ := verifyIssuer_ok (thrown_ok issued)
  exact ⟨parsed, text, claims, thrown_ok parses, verifies, claimed, resolved⟩

variable {signatures : Signatures} {opened : OpenCheckoutMandate}

theorem verifyOpen_ok (unforgeable : Unforgeable lib signatures) (hop : String)
    (ok : verifyOpen lib options (openPart ++ "~") = .ok opened) :
    OpenSigned lib signatures options (hopsFrom openPart hop) opened := by
  obtain ⟨header, _, ok⟩ := bind_ok ok
  obtain ⟨_, _, ok⟩ := bind_ok ok
  obtain ⟨key, published, ok⟩ := bind_ok ok
  obtain ⟨verified, verifies, ok⟩ := bind_ok ok
  obtain ⟨_, iss, ok⟩ := bind_ok ok
  obtain ⟨_, _, ok⟩ := bind_ok ok
  obtain ⟨opened_, read, ok⟩ := bind_ok ok
  obtain ⟨_, _, ok⟩ := bind_ok ok
  obtain ⟨_, begun, ok⟩ := bind_ok ok
  obtain ⟨_, current, ok⟩ := bind_ok ok
  cases ok
  obtain ⟨parsed, text, claims, parses, signed, claimed, resolved⟩ := verifySdJwt_ok verifies
  obtain ⟨_, _, rfl⟩ := parseSdJwt_ok parses
  exact ⟨_, key, text, claims, verified.payload, orFail_ok published, unforgeable.key _ _ _ _ signed, claimed, resolved,
    ensure_ok iss, orFail_ok read, ensure_ok begun, ensure_ok current⟩

theorem sdHash_ok {N : Type} {lib : Libraries N K} {hash : String} (ok : sdHash lib token = .ok hash) :
    hash = lib.sha256Base64Url token := by
  unfold sdHash at ok
  cases parsed : parseSdJwt (N := N) token with
  | error e =>
    rw [parsed] at ok
    cases ok
  | ok found =>
    rw [parsed] at ok
    cases ok
    rfl

theorem resolveHopDisclosures_ok {claims : HopClaims} {disclosures : List String} {value : Json}
    (ok : resolveHopDisclosures lib claims disclosures = .ok value) : ∃ disclosure salt, disclosures = [disclosure] ∧
      textOf (field DIGEST_KEY claims.delegated) = some (lib.sha256Base64Url disclosure) ∧
      lib.parse (lib.fromBase64Url disclosure) = some (.array [.string salt, value]) := by
  unfold resolveHopDisclosures at ok
  split at ok
  · rename_i digest disclosure signed
    obtain ⟨_, same, decoding⟩ := bind_ok ok
    obtain ⟨decoded, parsed, reading⟩ := bind_ok decoding
    rw [← ensure_ok same] at signed
    split at reading
    · rename_i salt found
      cases reading
      exact ⟨disclosure, salt, rfl, signed, orFail_ok parsed⟩
    · cases reading
  · cases ok

variable {verified : VerifiedCheckoutMandate}

theorem verifyHop_ok (unforgeable : Unforgeable lib signatures) {hop : String}
    (ok : verifyHop lib options (openPart ++ "~") hop opened = .ok verified) :
    verified.open_ = opened ∧ HopSigned lib signatures options (hopsFrom openPart hop) opened verified.checkoutJwt := by
  obtain ⟨key, read, ok⟩ := bind_ok ok
  obtain ⟨_, p256, ok⟩ := bind_ok ok
  obtain ⟨header, _, ok⟩ := bind_ok ok
  obtain ⟨_, _, ok⟩ := bind_ok ok
  obtain ⟨text, signed, ok⟩ := bind_ok ok
  obtain ⟨json, parsed, ok⟩ := bind_ok ok
  obtain ⟨claims, claimed, ok⟩ := bind_ok ok
  obtain ⟨sd_hash, hashed, ok⟩ := bind_ok ok
  obtain ⟨_, same, ok⟩ := bind_ok ok
  obtain ⟨_, aud, ok⟩ := bind_ok ok
  obtain ⟨_, nonce, ok⟩ := bind_ok ok
  obtain ⟨_, fresh, ok⟩ := bind_ok ok
  obtain ⟨value, resolved, ok⟩ := bind_ok ok
  obtain ⟨closed, closes, ok⟩ := bind_ok ok
  obtain ⟨_, hash, ok⟩ := bind_ok ok
  cases ok
  obtain ⟨disclosure, salt, one, digest, decoded⟩ := resolveHopDisclosures_ok resolved
  have hashed := sdHash_ok (thrown_ok hashed)
  have same := ensure_ok same
  have hash := ensure_ok hash
  refine ⟨rfl, ?_⟩
  cases key with
  | OKP x => exact absurd (ensure_ok p256) (fun same => by cases same)
  | EC x y =>
    refine ⟨x, y, text, json, claims, disclosure, salt, value, orFail_ok read, orFail_ok signed,
      unforgeable.jwk _ _ _ (orFail_ok signed), orFail_ok parsed, orFail_ok claimed, same.trans hashed, ensure_ok aud,
      ensure_ok nonce, ensure_ok fresh, one, digest, decoded, ?_⟩
    rw [orFail_ok closes, ← hash]

theorem verifyChain_ok (ok : verifyCheckoutMandateChain lib options chain = .ok verified) :
    ∃ openPart hop opened, (splitHops chain.toList).map String.ofList = [openPart, hop] ∧
      verifyOpen lib options (openPart ++ "~") = .ok opened ∧
      verifyHop lib options (openPart ++ "~") hop opened = .ok verified := by
  unfold verifyCheckoutMandateChain at ok
  split at ok
  · rename_i openPart hop parts
    obtain ⟨opened, opens, ok⟩ := bind_ok ok
    exact ⟨openPart, hop, opened, parts, opens, ok⟩
  · cases ok

/-- An accepted chain was signed by the issuer and by the holder that the issuer names. -/
theorem chain_signed (unforgeable : Unforgeable lib signatures)
    (ok : verifyCheckoutMandateChain lib options chain = .ok verified) :
    ∃ hops, hopsOf chain = some hops ∧ OpenSigned lib signatures options hops verified.open_ ∧
      HopSigned lib signatures options hops verified.open_ verified.checkoutJwt := by
  obtain ⟨openPart, hop, opened, parts, opens, closes⟩ := verifyChain_ok ok
  obtain ⟨same, signed⟩ := verifyHop_ok unforgeable closes
  refine ⟨hopsFrom openPart hop, by rw [hopsOf, parts], ?_⟩
  rw [same]
  exact ⟨verifyOpen_ok unforgeable hop opens, signed⟩

/-! ### One hop, one chain -/

/-- The payload of a JWS is in its text: whichever key it verifies with, it is the same. -/
def OnePayload (lib : Ap2Libraries K) : Prop :=
  ∀ jwk jwk' jwt text text', lib.verifyJwk jwk jwt = some text → lib.verifyJwk jwk' jwt = some text' → text = text'

/-- No two of the texts that are hashed of two chains have one digest. -/
def CollisionFree (lib : Ap2Libraries K) (hops hops' : Hops) : Prop :=
  ∀ a ∈ hops.openText :: hops.hopDisclosures, ∀ b ∈ hops'.openText :: hops'.hopDisclosures,
    lib.sha256Base64Url a = lib.sha256Base64Url b → a = b

variable {options' : VerifyCheckoutMandateOptions} {signatures : Signatures}

/-- A hop that is accepted twice is accepted for one business and one checkout, with one open mandate and one disclosure. -/
theorem hop_bound (onePayload : OnePayload lib) {hops hops' : Hops} {opened opened' : OpenCheckoutMandate}
    {checkoutJwt checkoutJwt' : String} (one : HopSigned lib signatures options hops opened checkoutJwt)
    (other : HopSigned lib signatures options' hops' opened' checkoutJwt') (same : hops.hopJwt = hops'.hopJwt) :
    options.aud = options'.aud ∧ options.nonce = options'.nonce ∧
      (CollisionFree lib hops hops' → hops.openText = hops'.openText ∧ hops.hopDisclosures = hops'.hopDisclosures) := by
  obtain ⟨_, _, text, json, claims, disclosure, _, _, _, verifies, _, parsed, claimed, sd_hash, aud, nonce, _, disclosed,
    digest, _, _⟩ := one
  obtain ⟨_, _, text', json', claims', disclosure', _, _, _, verifies', _, parsed', claimed', sd_hash', aud', nonce', _,
    disclosed', digest', _, _⟩ := other
  rw [← same] at verifies'
  have texts := onePayload _ _ _ _ _ verifies verifies'
  subst texts
  rw [parsed] at parsed'
  cases parsed'
  rw [claimed] at claimed'
  cases claimed'
  refine ⟨aud.symm.trans aud', nonce.symm.trans nonce', fun collisionFree => ⟨?_, ?_⟩⟩
  · exact collisionFree _ List.mem_cons_self _ List.mem_cons_self (sd_hash.symm.trans sd_hash')
  · have digests : lib.sha256Base64Url disclosure = lib.sha256Base64Url disclosure' :=
      Option.some.inj (digest.symm.trans digest')
    have disclosures : disclosure = disclosure' :=
      collisionFree _ (by simp [disclosed]) _ (by simp [disclosed']) digests
    rw [disclosed, disclosed', disclosures]

/-! ### Closing and verifying -/

/-- What is documented of the libraries, said of one closing: the hop that the holder signs has a JWS's text and verifies
    with the key that the open mandate names, JSON and base64url texts are read back, and digests are base64url. -/
structure Documented (lib : Ap2Libraries K) (opened : OpenCheckoutMandate) (input : CloseCheckoutMandateInput K)
    (salt disclosed hopText : String) : Prop where
  disclosed_eq : disclosed = disclosure lib.toLibraries salt (closedCheckout lib input)
  hopText_eq : hopText = lib.sign input.holder.privateJwk (hopHeader input) (lib.stringify
    (hopPayload input [placeholder (lib.sha256Base64Url disclosed)] (lib.sha256Base64Url input.open_)))
  header : lib.decodeProtectedHeader hopText = some (hopHeader input)
  verifies : lib.verifyJwk opened.jwk hopText = some (lib.stringify
    (hopPayload input [placeholder (lib.sha256Base64Url disclosed)] (lib.sha256Base64Url input.open_)))
  compactText : '~' ∉ hopText.toList
  payload : lib.parse (lib.stringify
      (hopPayload input [placeholder (lib.sha256Base64Url disclosed)] (lib.sha256Base64Url input.open_))) =
    some (hopPayload input [placeholder (lib.sha256Base64Url disclosed)] (lib.sha256Base64Url input.open_))
  decoded : lib.parse (lib.fromBase64Url disclosed) = some (.array [.string salt, closedCheckout lib input])
  disclosedText : disclosed ≠ "" ∧ '~' ∉ disclosed.toList
  openHash : lib.sha256Base64Url input.open_ ≠ ""
  checkoutHash : isBase64Url (lib.sha256Base64Url input.checkoutJwt)

/-- A closing that the verifier's own checks let through: the holder has a P-256 key that the mandate names, the checkout
    JWT is one, audience and nonce are the verifier's and not empty, and the clocks are not too far apart. -/
structure Closable (opened : OpenCheckoutMandate) (options : VerifyCheckoutMandateOptions)
    (input : CloseCheckoutMandateInput K) : Prop where
  alg : input.holder.alg = .ES256
  p256 : ∃ x y, ap2PublicJwkSchema (some (.object opened.jwk)) = some (.EC x y)
  checkoutJwt : isCompactJws input.checkoutJwt
  aud : input.aud = options.aud ∧ input.aud ≠ ""
  nonce : input.nonce = options.nonce ∧ input.nonce ≠ ""
  issued : 0 ≤ seconds input.issuedAt ∧ (seconds input.issuedAt).natAbs ≤ MAX_SAFE_INTEGER
  fresh : (seconds options.now - seconds input.issuedAt).natAbs ≤ AP2_CLOCK_SKEW_SECONDS

theorem ensure_bind {β : Type} {condition : Prop} [Decidable condition] {f : Unit → Resolving ℚ β} (holds : condition)
    : (ensure condition code message details >>= f) = f () := by
  rw [ensure, if_pos holds]
  rfl

theorem orFail_bind {α β : Type} {value : Option α} {a : α} {f : α → Resolving ℚ β} (found : value = some a)
    : (orFail value code message details >>= f) = f a := by
  rw [found]
  rfl

theorem thrown_bind {N α β : Type} {x : Except (Ap2Error N) α} {a : α} {f : α → Resolving N β} (ok : x = .ok a) :
    (thrown x >>= f) = f a := by
  rw [ok]
  rfl

theorem verifyOpen_text (ok : verifyOpen lib options openText = .ok opened) :
    openText.toList.getLast? = some '~' ∧ Single openText.toList ∧
      sdHash lib.toLibraries openText = .ok (lib.sha256Base64Url openText) := by
  obtain ⟨_, _, ok⟩ := bind_ok ok
  obtain ⟨_, _, ok⟩ := bind_ok ok
  obtain ⟨_, _, ok⟩ := bind_ok ok
  obtain ⟨_, verifies, _⟩ := bind_ok ok
  obtain ⟨parsed, _, _, parses, _⟩ := verifySdJwt_ok verifies
  obtain ⟨ends, empties, _⟩ := parseSdJwt_ok parses
  refine ⟨ends, single_of_split empties, ?_⟩
  rw [sdHash, parses]
  rfl

theorem intOf_cast {n : Int} (safe : n.natAbs ≤ MAX_SAFE_INTEGER) : intOf (some (.number (n : ℚ))) = some n := by
  rw [intOf, if_pos ⟨Rat.den_intCast n, by rwa [Rat.num_intCast]⟩, Rat.num_intCast]

theorem nonEmptyText_string (nonempty : text ≠ "") : nonEmptyText (some (.string text)) = some text := by
  simp [nonEmptyText, textOf, nonempty]

variable {input : CloseCheckoutMandateInput K} {opened : OpenCheckoutMandate} {salt disclosed hopText : String}

section
variable (closable : Closable opened options input)
include closable

theorem hopClaims_closed {digest hash : String} (nonempty : hash ≠ "") :
    hopClaimsSchema (hopPayload input [placeholder digest] hash) =
      some ⟨seconds input.issuedAt, input.aud, input.nonce, hash, placeholder digest⟩ := by
  have iat : nonNegative (some (.number (seconds input.issuedAt : ℚ))) = some (seconds input.issuedAt) := by
    rw [nonNegative, intOf_cast closable.issued.2]
    simp [closable.issued.1]
  have aud := nonEmptyText_string closable.aud.2
  have nonce := nonEmptyText_string closable.nonce.2
  have sd_hash := nonEmptyText_string nonempty
  simp only [hopClaimsSchema, hopPayload, field, List.lookup_cons, String.reduceBEq, iat, aud, nonce, sd_hash, itemsOf,
    Option.bind_eq_bind, Option.bind_some]

theorem closedCheckout_read (documented : Documented lib opened input salt disclosed hopText) :
    closedCheckoutSchema (closedCheckout lib input) = some ⟨input.checkoutJwt, lib.sha256Base64Url input.checkoutJwt⟩ := by
  simp [closedCheckoutSchema, closedCheckout, field, textOf, List.lookup_cons, Option.filter, closable.checkoutJwt,
    documented.checkoutHash]

/-- The closed chain is the open mandate, one more `~`, and the hop with its disclosure. -/
theorem close_chain (documented : Documented lib opened input salt disclosed hopText)
    (opens : verifyOpen lib options input.open_ = .ok opened) :
    closeCheckoutMandate lib input salt = .ok (input.open_ ++ "~" ++ compact hopText [disclosed]) := by
  obtain ⟨ends, _, hashed⟩ := verifyOpen_text opens
  rw [closeCheckoutMandate, if_neg (not_not.mpr ends), if_neg (not_not.mpr closable.alg)]
  change (sdHash lib.toLibraries input.open_ >>= _) = _
  rw [hashed]
  rw [documented.hopText_eq, documented.disclosed_eq]
  rfl

end

theorem splitHops_close (ends : openText.toList.getLast? = some '~') (single : Single openText.toList)
    (hopText_ : '~' ∉ hopText.toList) (disclosed_ : disclosed ≠ "" ∧ '~' ∉ disclosed.toList) :
    ∃ openPart, openPart ++ "~" = openText ∧
      (splitHops (openText ++ "~" ++ compact hopText [disclosed]).toList).map String.ofList =
        [openPart, compact hopText [disclosed]] := by
  obtain ⟨before, same⟩ := List.getLast?_eq_some_iff.mp ends
  have openText_ : openText = String.ofList before ++ "~" := by
    rw [← String.toList_inj, same]
    simp
  have parts : split '~' (compact hopText [disclosed]) = hopText :: ([disclosed] ++ [""]) :=
    split_compact hopText_ (by simpa using disclosed_.2)
  have hop : Single (compact hopText [disclosed]).toList := by
    apply single_of_split
    rw [parts]
    simpa using Ne.symm disclosed_.1
  refine ⟨String.ofList before, openText_.symm, ?_⟩
  have joined : (openText ++ "~" ++ compact hopText [disclosed]).toList =
      before ++ '~' :: '~' :: (compact hopText [disclosed]).toList := by
    rw [String.toList_append, String.toList_append, same]
    simp
  rw [joined, splitHops_append (same ▸ single), splitHops_single hop]
  simp

/-- A chain that was closed for a business and a checkout is accepted for them. -/
theorem chain_accepted (closable : Closable opened options input)
    (documented : Documented lib opened input salt disclosed hopText)
    (opens : verifyOpen lib options input.open_ = .ok opened) :
    verifyCheckoutMandateChain lib options (input.open_ ++ "~" ++ compact hopText [disclosed]) =
      .ok ⟨opened, input.checkoutJwt⟩ := by
  obtain ⟨ends, single, hashed⟩ := verifyOpen_text opens
  obtain ⟨openPart, joined, parts⟩ := splitHops_close ends single documented.compactText documented.disclosedText
  obtain ⟨x, y, p256⟩ := closable.p256
  have hop : split '~' (compact hopText [disclosed]) = hopText :: ([disclosed] ++ [""]) :=
    split_compact documented.compactText (by simpa using documented.disclosedText.2)
  have hopDisclosures : ((split '~' (compact hopText [disclosed])).drop 1).filter (· ≠ "") = [disclosed] := by
    rw [hop]
    simp [documented.disclosedText.1]
  rw [verifyCheckoutMandateChain, parts]
  dsimp only
  rw [joined, opens]
  change verifyHop lib options input.open_ (compact hopText [disclosed]) opened = _
  have es256 : algForKey (.EC x y) = .ES256 := rfl
  rw [verifyHop]
  dsimp only
  rw [hopDisclosures, hop, List.headD_cons, orFail_bind p256, ensure_bind es256, orFail_bind documented.header,
    ensure_bind ⟨by simp [hopHeader, isText], by simp [hopHeader, isText]⟩, orFail_bind documented.verifies,
    orFail_bind documented.payload, orFail_bind (hopClaims_closed closable documented.openHash), thrown_bind hashed,
    ensure_bind rfl, ensure_bind closable.aud.1, ensure_bind closable.nonce.1, ensure_bind closable.fresh]
  have resolved : resolveHopDisclosures lib ⟨seconds input.issuedAt, input.aud, input.nonce,
      lib.sha256Base64Url input.open_, placeholder (lib.sha256Base64Url disclosed)⟩ [disclosed] =
      .ok (closedCheckout lib input) := by
    change (ensure (lib.sha256Base64Url disclosed = lib.sha256Base64Url disclosed) _ _ _ >>= _) = _
    rw [ensure_bind rfl, orFail_bind documented.decoded]
    rfl
  rw [resolved]
  change (orFail (closedCheckoutSchema (closedCheckout lib input)) _ _ _ >>= _) = _
  rw [orFail_bind (closedCheckout_read closable documented), ensure_bind rfl]
  rfl

def openJwtHeader : String := "eyJhbGciOiJFUzI1NiIsInR5cCI6ImRjK3NkLWp3dCIsImtpZCI6InBsYXRmb3JtIn0"
def openJwtPayload : String :=
  "eyJpc3MiOiJodHRwczovL2FnZW50cGV5LmNvbSIsImlhdCI6MTAwLCJkZWxlZ2F0ZV9wYXlsb2FkIjpbeyIuLi4iOiJCSFplVHB5MjVo" ++
    "TUMyMUFQWlhGa25Ia0pNaVZKUVgtVEFuSnRvMmJoY2MwIn1dLCJfc2RfYWxnIjoic2hhLTI1NiJ9"
def openJwtSignature : String :=
  "FQt6cFGIebJqu9S_4UULCbpv-YMkntU4nZtAno68HJOp8urQBNW_6qfsKfufyRBsX9pWHTmnXqHqLj2pwg2oKg"
def openJwt : String := openJwtHeader ++ "." ++ openJwtPayload ++ "." ++ openJwtSignature

def teaJwtHeader : String := "eyJhbGciOiJFUzI1NiIsImtpZCI6InRlYSJ9"
def teaJwtPayload : String := "eyJpZCI6ImNzXzEifQ"
def teaJwtSignature : String :=
  "34seg4q9W3gQSk2i2MJ6orn0DXofVlGEkOhk9kO7A6BeXy1TCPHs3Ihr0oh2MEgjk1b7j2mpbObVSdO_YLbARA"
def teaJwt : String := teaJwtHeader ++ "." ++ teaJwtPayload ++ "." ++ teaJwtSignature

def hopJwtHeader : String := "eyJhbGciOiJFUzI1NiIsInR5cCI6ImtiK3NkLWp3dCIsImtpZCI6ImFnZW50In0"
def hopJwtPayload : String :=
  "eyJkZWxlZ2F0ZV9wYXlsb2FkIjpbeyIuLi4iOiJvVm5aSDc5dzBFMFptVjlJU0NxVWtjbG96TmV3dkJIU0RLeXNtZGpNRmJBIn1dLCJp" ++
    "YXQiOjIwMCwiYXVkIjoiaHR0cHM6Ly9zaG9wLmV4YW1wbGUiLCJub25jZSI6ImNzXzEiLCJzZF9oYXNoIjoiUmwtZDdNZXlIQzNYaV9Z" ++
    "eF9EOUVZT3JTZWhObl9iTkk2QkJRVXJaOVdnUSIsIl9zZF9hbGciOiJzaGEtMjU2In0"
def hopJwtSignature : String :=
  "VptoCBMZMLbn4CFzMPVs6ztmw2SGCsjkqIxtkXzxPP15VlXDucYRAD9hrfMjL9COkaJ9CovVJYrOkd5RLZ-AYA"
def hopJwt : String := hopJwtHeader ++ "." ++ hopJwtPayload ++ "." ++ hopJwtSignature

/-- The disclosures of the open mandate and of the closed one, and what they encode. -/
def openDisclosure : String :=
  "WyJiM0JsYmciLHsidmN0IjoibWFuZGF0ZS5jaGVja291dC5vcGVuLjEiLCJjb25zdHJhaW50cyI6W3sidHlwZSI6ImNoZWNrb3V0Lmxp" ++
    "bmVfaXRlbXMiLCJpdGVtcyI6W3siaWQiOiJsaW5lXzEiLCJhY2NlcHRhYmxlX2l0ZW1zIjpbeyJpZCI6InRlYSIsInRpdGxlIjoiVGVh" ++
    "In1dLCJxdWFudGl0eSI6MX1dfV0sImNuZiI6eyJqd2siOnsia3R5IjoiRUMiLCJjcnYiOiJQLTI1NiIsIngiOiJyVlAxd3JPR3psNGZN" ++
    "M1E5RmxTcTRsOVBhUjdvS3JuRjRpTEdvaHE4akdJIiwieSI6ImhhWWp3d1ZDOEhmQ0FFeXptcEY2OEh0Zlc5RW0tbmF0T3RKTjBBRHBa" ++
    "OXcifX0sImlhdCI6MTAwLCJleHAiOjEwMDB9XQ"
def closedDisclosure : String :=
  "WyJhRzl3Iix7InZjdCI6Im1hbmRhdGUuY2hlY2tvdXQuMSIsImNoZWNrb3V0X2p3dCI6ImV5SmhiR2NpT2lKRlV6STFOaUlzSW10cFpD" ++
    "STZJblJsWVNKOS5leUpwWkNJNkltTnpYekVpZlEuMzRzZWc0cTlXM2dRU2syaTJNSjZvcm4wRFhvZlZsR0VrT2hrOWtPN0E2QmVYeTFU" ++
    "Q1BIczNJaHIwb2gyTUVnamsxYjdqMm1wYk9iVlNkT19ZTGJBUkEiLCJjaGVja291dF9oYXNoIjoibE9LcW1mQllxbS05YXFSNzZCMWN2" ++
    "b2FMRjNxUEFNUFdwb2pWZUcwY3NBOCJ9XQ"
def openDisclosed : String :=
  "[\"b3Blbg\",\x7b\"vct\":\"mandate.checkout.open.1\",\"constraints\":[\x7b\"type\":\"checkout.line_items" ++
    "\",\"items\":[\x7b\"id\":\"line_1\",\"acceptable_items\":[\x7b\"id\":\"tea\",\"title\":\"Tea\"\x7d],\"qu" ++
    "antity\":1\x7d]\x7d],\"cnf\":\x7b\"jwk\":\x7b\"kty\":\"EC\",\"crv\":\"P-256\",\"x\":\"rVP1wrOGzl4fM3Q9Fl" ++
    "Sq4l9PaR7oKrnF4iLGohq8jGI\",\"y\":\"haYjwwVC8HfCAEyzmpF68HtfW9Em-natOtJN0ADpZ9w\"\x7d\x7d,\"iat\":100,\"" ++
    "exp\":1000\x7d]"
def closedDisclosed : String :=
  "[\"aG9w\",\x7b\"vct\":\"mandate.checkout.1\",\"checkout_jwt\":\"eyJhbGciOiJFUzI1NiIsImtpZCI6InRlYSJ9.eyJ" ++
    "pZCI6ImNzXzEifQ.34seg4q9W3gQSk2i2MJ6orn0DXofVlGEkOhk9kO7A6BeXy1TCPHs3Ihr0oh2MEgjk1b7j2mpbObVSdO_YLbARA\"" ++
    ",\"checkout_hash\":\"lOKqmfBYqm-9aqR76B1cvoaLF3qPAMPWpojVeG0csA8\"\x7d]"

def openClaims : String :=
  "\x7b\"iss\":\"https://agentpey.com\",\"iat\":100,\"delegate_payload\":[\x7b\"...\":\"BHZeTpy25hMC21APZXF" ++
    "knHkJMiVJQX-TAnJto2bhcc0\"\x7d],\"_sd_alg\":\"sha-256\"\x7d"
def hopClaims : String :=
  "\x7b\"delegate_payload\":[\x7b\"...\":\"oVnZH79w0E0ZmV9ISCqUkclozNewvBHSDKysmdjMFbA\"\x7d],\"iat\":200," ++
    "\"aud\":\"https://shop.example\",\"nonce\":\"cs_1\",\"sd_hash\":\"Rl-d7MeyHC3Xi_Yx_D9EYOrSehNn_bNI6BBQUr" ++
    "Z9WgQ\",\"_sd_alg\":\"sha-256\"\x7d"

def openDigest : String := "BHZeTpy25hMC21APZXFknHkJMiVJQX-TAnJto2bhcc0"
def closedDigest : String := "oVnZH79w0E0ZmV9ISCqUkclozNewvBHSDKysmdjMFbA"
def openHash : String := "Rl-d7MeyHC3Xi_Yx_D9EYOrSehNn_bNI6BBQUrZ9WgQ"
def teaHash : String := "lOKqmfBYqm-9aqR76B1cvoaLF3qPAMPWpojVeG0csA8"

def openMandate : String := compact openJwt [openDisclosure]

def agentJwk : Members ℚ :=
  [("kty", .string "EC"), ("crv", .string "P-256"), ("x", .string "rVP1wrOGzl4fM3Q9FlSq4l9PaR7oKrnF4iLGohq8jGI"),
    ("y", .string "haYjwwVC8HfCAEyzmpF68HtfW9Em-natOtJN0ADpZ9w")]

def platformJwk : Ap2PublicJwk :=
  .EC "ptyCnbLrSaU-kn16FdyK7dN35UYiRaEF2HePnDseKBI"
    "UptHC1GwOqwjkj7emMgdwqq8dwYGD30VFM5_2eoD5ds"

def teaItems : Json :=
  .array [.object [("id", .string "line_1"),
    ("acceptable_items", .array [.object [("id", .string "tea"), ("title", .string "Tea")]]), ("quantity", .number 1)]]

def teaMandate : Json :=
  .object [("vct", .string OPEN_CHECKOUT_MANDATE_VCT),
    ("constraints", .array [.object [("type", .string "checkout.line_items"), ("items", teaItems)]]),
    ("cnf", .object [("jwk", .object agentJwk)]), ("iat", .number 100), ("exp", .number 1000)]

def teaOpened : OpenCheckoutMandate :=
  ⟨OPEN_CHECKOUT_MANDATE_VCT, [.lineItems [⟨"line_1", [⟨"tea", "Tea"⟩], 1⟩]], agentJwk, 100, 1000⟩

def closing : CloseCheckoutMandateInput Unit where
  open_ := openMandate
  holder := ⟨.ES256, (), "agent"⟩
  checkoutJwt := teaJwt
  aud := "https://shop.example"
  nonce := "cs_1"
  issuedAt := 200500

def teaOptions : VerifyCheckoutMandateOptions where
  platformKey kid := if kid = some "platform" then some platformJwk else none
  issuer := "https://agentpey.com"
  aud := "https://shop.example"
  nonce := "cs_1"
  now := 260000

@[irreducible] def teaDigest (text : String) : String :=
  if text = openMandate then openHash else if text = teaJwt then teaHash
  else if text = openDisclosure then openDigest else closedDigest

def teaPayload : Members ℚ :=
  [("iss", .string "https://agentpey.com"), ("iat", .number 100), ("delegate_payload", .array [placeholder openDigest])]

def teaClosed : Json :=
  .object [("vct", .string CLOSED_CHECKOUT_MANDATE_VCT), ("checkout_jwt", .string teaJwt), ("checkout_hash", .string teaHash)]

@[irreducible] def teaParse (text : String) : Option Json :=
  if text = openClaims then some (.object (teaPayload ++ [("_sd_alg", .string AP2_SD_ALG)]))
  else if text = openDisclosed then some (.array [.string "b3Blbg", teaMandate])
  else if text = closedDisclosed then some (.array [.string "aG9w", teaClosed])
  else some (hopPayload closing [placeholder closedDigest] openHash)

@[irreducible] def teaText (text : String) : String := if text = openDisclosure then openDisclosed else closedDisclosed

def openHeader : ProtectedHeader ℚ := ⟨some (.string ES256), some (.string AP2_SD_JWT_TYP), some (.string "platform")⟩

@[irreducible] def teaHeader (text : String) : Option (ProtectedHeader ℚ) :=
  if text = openJwt then some openHeader else some (hopHeader closing)

def teaLibraries : Ap2Libraries Unit where
  sha256Base64Url := teaDigest
  stringify value :=
    match value with
    | .array _ => closedDisclosed
    | _ => hopClaims
  parse := teaParse
  base64Url _ := closedDisclosure
  fromBase64Url := teaText
  sign _ _ _ := hopJwt
  decodeProtectedHeader := teaHeader
  compactVerify _ _ _ := some openClaims
  verifyJwk _ _ := some hopClaims
  origin _ := none
  issues _ _ := .null

theorem openJwt_segments : split '.' openJwt = [openJwtHeader, openJwtPayload, openJwtSignature] ∧ '~' ∉ openJwt.toList := by
  refine compactJws_segments ?_ ?_ ?_
  · unfold openJwtHeader
    exact segment_ofList (by decide)
  · unfold openJwtPayload
    exact (segment_ofList (by decide)).append (segment_ofList (by decide))
  · unfold openJwtSignature
    exact segment_ofList (by decide)

theorem teaJwt_segments : split '.' teaJwt = [teaJwtHeader, teaJwtPayload, teaJwtSignature] ∧ '~' ∉ teaJwt.toList := by
  refine compactJws_segments ?_ ?_ ?_
  · unfold teaJwtHeader
    exact segment_ofList (by decide)
  · unfold teaJwtPayload
    exact segment_ofList (by decide)
  · unfold teaJwtSignature
    exact segment_ofList (by decide)

theorem hopJwt_segments : split '.' hopJwt = [hopJwtHeader, hopJwtPayload, hopJwtSignature] ∧ '~' ∉ hopJwt.toList := by
  refine compactJws_segments ?_ ?_ ?_
  · unfold hopJwtHeader
    exact segment_ofList (by decide)
  · unfold hopJwtPayload
    exact ((segment_ofList (by decide)).append (segment_ofList (by decide))).append (segment_ofList (by decide))
  · unfold hopJwtSignature
    exact segment_ofList (by decide)

theorem disclosure_segments : Segment openDisclosure ∧ Segment closedDisclosure := by
  constructor
  · unfold openDisclosure
    exact ((((segment_ofList (by decide)).append (segment_ofList (by decide))).append (segment_ofList (by decide))).append
      (segment_ofList (by decide))).append (segment_ofList (by decide))
  · unfold closedDisclosure
    exact (((segment_ofList (by decide)).append (segment_ofList (by decide))).append (segment_ofList (by decide))).append
      (segment_ofList (by decide))

theorem teaDigest_open : teaDigest openMandate = openHash := by rw [teaDigest, if_pos rfl]

theorem teaDigest_jwt : teaDigest teaJwt = teaHash := by
  have other : teaJwt ≠ openMandate := by decide
  rw [teaDigest, if_neg other, if_pos rfl]

theorem teaDigest_openDisclosure : teaDigest openDisclosure = openDigest := by
  have other : openDisclosure ≠ openMandate := by decide
  have another : openDisclosure ≠ teaJwt := by decide
  rw [teaDigest, if_neg other, if_neg another, if_pos rfl]

theorem teaDigest_closedDisclosure : teaDigest closedDisclosure = closedDigest := by
  have other : closedDisclosure ≠ openMandate := by decide
  have another : closedDisclosure ≠ teaJwt := by decide
  have third : closedDisclosure ≠ openDisclosure := by decide
  rw [teaDigest, if_neg other, if_neg another, if_neg third]

theorem teaParse_open : teaParse openClaims = some (.object (teaPayload ++ [("_sd_alg", .string AP2_SD_ALG)])) := by
  rw [teaParse, if_pos rfl]

theorem teaParse_openDisclosure : teaParse (teaText openDisclosure) = some (.array [.string "b3Blbg", teaMandate]) := by
  have other : openDisclosed ≠ openClaims := by decide
  rw [teaText, if_pos rfl, teaParse, if_neg other, if_pos rfl]

theorem teaParse_closedDisclosure : teaParse (teaText closedDisclosure) = some (.array [.string "aG9w", teaClosed]) := by
  have other : closedDisclosed ≠ openClaims := by decide
  have another : closedDisclosed ≠ openDisclosed := by decide
  have text : closedDisclosure ≠ openDisclosure := by decide
  rw [teaText, if_neg text, teaParse, if_neg other, if_neg another, if_pos rfl]

theorem teaParse_hop : teaParse hopClaims = some (hopPayload closing [placeholder closedDigest] openHash) := by
  have other : hopClaims ≠ openClaims := by decide
  have another : hopClaims ≠ openDisclosed := by decide
  have third : hopClaims ≠ closedDisclosed := by decide
  rw [teaParse, if_neg other, if_neg another, if_neg third]

theorem open_parsed : parseSdJwt (N := ℚ) openMandate = .ok ⟨openJwt, [openDisclosure]⟩ := by
  refine parseSdJwt_compact openJwt_segments.2 (congrArg List.length openJwt_segments.1) ?_
  intro text one
  rw [List.mem_singleton.mp one]
  exact ⟨by decide, disclosure_segments.1.no_tilde⟩

theorem teaHeader_open : teaHeader openJwt = some openHeader := by rw [teaHeader, if_pos rfl]

theorem teaHeader_hop : teaHeader hopJwt = some (hopHeader closing) := by
  have other : hopJwt ≠ openJwt := by decide
  rw [teaHeader, if_neg other]

theorem open_issued : verifyIssuer teaLibraries.toLibraries openJwt platformJwk = .ok (openHeader, teaPayload) := by
  have claimed : signedClaims (teaParse openClaims) = .ok teaPayload := by
    rw [teaParse_open]
    rfl
  exact verifyIssuer_eq _ teaHeader_open rfl rfl rfl claimed

def teaRoot : Json :=
  .object [("iss", .string "https://agentpey.com"), ("iat", .number 100), ("delegate_payload", .array [teaMandate])]

theorem open_resolved : resolveDisclosures teaLibraries.toLibraries teaPayload [openDisclosure] = .ok teaRoot := by
  have decoded : decodeDisclosure teaLibraries.toLibraries openDisclosure = .ok (.element teaMandate) :=
    decodeDisclosure_element teaParse_openDisclosure
  have hash : teaLibraries.sha256Base64Url openDisclosure = openDigest := teaDigest_openDisclosure
  rw [resolveDisclosures, resolveDisclosuresTo, byDigest_one decoded, hash]
  rfl

theorem open_verified : verifySdJwt teaLibraries.toLibraries openMandate platformJwk = .ok ⟨openHeader, teaRoot⟩ := by
  rw [verifySdJwt, thrown_bind open_parsed, thrown_bind open_issued]
  change (resolveDisclosures _ teaPayload [openDisclosure] >>= _) = _
  rw [open_resolved]
  rfl

theorem open_opens : verifyOpen teaLibraries teaOptions openMandate = .ok teaOpened := by
  have first : (split '~' openMandate).headD "" = openJwt := by
    have parts : split '~' openMandate = openJwt :: ([openDisclosure] ++ [""]) :=
      split_compact openJwt_segments.2 (by simpa using disclosure_segments.1.no_tilde)
    rw [parts]
    rfl
  have header : teaLibraries.decodeProtectedHeader openJwt = some openHeader := teaHeader_open
  have kid : textOf openHeader.kid = some "platform" := rfl
  have home : ¬foreign teaLibraries teaOptions (some "platform") := by
    rintro ⟨_, known, _⟩
    cases known
  have key : teaOptions.platformKey (some "platform") = some platformJwk := rfl
  rw [verifyOpen, first, orFail_bind header]
  dsimp only
  rw [kid, ensure_bind home, orFail_bind key, open_verified]
  rfl

theorem tea_closable : Closable teaOpened teaOptions closing where
  alg := rfl
  p256 := ⟨_, _, rfl⟩
  checkoutJwt := by
    have parts : split '.' closing.checkoutJwt = [teaJwtHeader, teaJwtPayload, teaJwtSignature] := teaJwt_segments.1
    rw [isCompactJws, parts]
    decide
  aud := ⟨rfl, by decide⟩
  nonce := ⟨rfl, by decide⟩
  issued := by decide
  fresh := by decide

theorem tea_documented : Documented teaLibraries teaOpened closing "aG9w" closedDisclosure hopJwt := by
  have hash : teaLibraries.sha256Base64Url closedDisclosure = closedDigest := teaDigest_closedDisclosure
  have openHash_ : teaLibraries.sha256Base64Url closing.open_ = openHash := teaDigest_open
  have teaHash_ : teaLibraries.sha256Base64Url closing.checkoutJwt = teaHash := teaDigest_jwt
  have closed : closedCheckout teaLibraries closing = teaClosed := by
    rw [closedCheckout, teaHash_]
    rfl
  refine ⟨rfl, rfl, teaHeader_hop, rfl, hopJwt_segments.2, ?_, ?_, ?_, ?_, ?_⟩
  · rw [hash, openHash_]
    exact teaParse_hop
  · rw [closed]
    exact teaParse_closedDisclosure
  · exact ⟨by decide, disclosure_segments.2.no_tilde⟩
  · rw [openHash_]
    decide
  · rw [teaHash_]
    decide

def teaSignatures : Signatures := ⟨fun _ text => text = openClaims, fun _ text => text = hopClaims⟩

end AgentPey.MandateChains
