import AgentPey.MessageSignatures

/-!
A webhook that a store signs is accepted: its `Signature-Input` is read back, and the base that is verified is the one
that was signed.
-/
namespace AgentPey.SignedWebhooks
open HttpSignatures MessageSignatures
open String (ofList_toList toList_append toList_ofList)

variable {lib : Libraries}

/-! ### Reading parameters back -/

variable {text rest : List Char}

theorem scan_stops {p : Char → Bool} (all : ∀ c ∈ text, p c = true) (stops : ∀ c, rest.head? = some c → p c = false) :
    (text ++ rest).takeWhile p = text ∧ (text ++ rest).dropWhile p = rest := by
  rw [List.takeWhile_append_of_pos all, List.dropWhile_append_of_pos all]
  cases rest with
  | nil => simp
  | cons c rest => simp [stops c rfl]

theorem integer_characters (n : Int) : ∃ sign digits, (toString n).toList = sign ++ digits ∧ (sign = [] ∨ sign = ['-']) ∧
    digits ≠ [] ∧ ∀ c ∈ digits, c.isDigit = true := by
  have natural : ∀ m : Nat, m.repr.toList ≠ [] ∧ ∀ c ∈ m.repr.toList, c.isDigit = true := by
    intro m
    rw [Nat.toList_repr]
    exact ⟨Nat.toDigits_ne_nil, fun c member => Nat.isDigit_of_mem_toDigits (by decide) (by decide) member⟩
  cases n with
  | ofNat m => exact ⟨[], m.repr.toList, rfl, .inl rfl, (natural m).1, (natural m).2⟩
  | negSucc m =>
    refine ⟨['-'], (m + 1).repr.toList, ?_, .inr rfl, (natural (m + 1)).1, (natural (m + 1)).2⟩
    change ("-" ++ (m + 1).repr).toList = _
    simp

def Lower (name : List Char) : Prop := name ≠ [] ∧ ∀ c ∈ name, isLower c = true

variable {name : List Char} {c : Char} {found : String × String} {params : String} {url : Url}

theorem isName_lower (lower : Lower name) : ∀ c ∈ name, isName c = true :=
  fun c member => by simp [isName, lower.2 c member]

theorem head_lower (lower : Lower name) : name.head?.any isLower = true := by
  obtain ⟨first, others, rfl⟩ := List.exists_cons_of_ne_nil lower.1
  simp [lower.2 first List.mem_cons_self]

theorem parameterAt_quoted {text rest : List Char} (lower : Lower name) (plain : ∀ c ∈ text, isQuoted c = true) :
    parameterAt (';' :: (name ++ '=' :: '"' :: (text ++ '"' :: rest))) =
      some ((String.ofList name, String.ofList text), name.length + text.length + 4) := by
  have equals : ∀ c, ('=' :: '"' :: (text ++ '"' :: rest)).head? = some c → isName c = false := by
    intro c same
    cases same
    decide
  have quote : ∀ c, ('"' :: rest).head? = some c → isQuoted c = false := by
    intro c same
    cases same
    decide
  have names := scan_stops (isName_lower lower) equals
  have texts := scan_stops plain quote
  rw [parameterAt, names.1, names.2, if_pos (head_lower lower)]
  simp [texts.1]

theorem parameterAt_integer {rest : List Char} (lower : Lower name) (n : Int)
    (stops : ∀ c, rest.head? = some c → c.isDigit = false) :
    parameterAt (';' :: (name ++ '=' :: ((toString n).toList ++ rest))) =
      some ((String.ofList name, toString n), name.length + (toString n).toList.length + 2) := by
  obtain ⟨sign, digits, characters, one, some_, all⟩ := integer_characters n
  obtain ⟨first, others, rfl⟩ := List.exists_cons_of_ne_nil some_
  have minus : first ≠ '-' ∧ first ≠ '"' := by
    constructor
    · rintro rfl
      exact absurd (all _ List.mem_cons_self) (by decide)
    · rintro rfl
      exact absurd (all _ List.mem_cons_self) (by decide)
  have equals : ∀ c, ('=' :: ((toString n).toList ++ rest)).head? = some c → isName c = false := by
    intro c same
    cases same
    decide
  have names := scan_stops (isName_lower lower) equals
  have digits := scan_stops all stops
  have text : toString n = String.ofList (sign ++ (first :: others)) := by rw [← characters, ofList_toList]
  rw [parameterAt, names.1, names.2, if_pos (head_lower lower), text, toList_ofList]
  rw [List.cons_append] at digits
  have stop : ('-' : Char) ≠ '"' := by decide
  rcases one with rfl | rfl
  · simp [minus, digits]
  · have signs : (first :: (others ++ rest)).takeWhile (fun c => decide (c = '-')) = [] ∧
        (first :: (others ++ rest)).dropWhile (fun c => decide (c = '-')) = first :: (others ++ rest) := by
      simp [minus.1]
    simp [stop, signs, digits]
    omega

/-! ### Reading an inner list back -/

/-- A name that can stand in an inner list. -/
def Listable (name : List Char) : Prop := name ≠ [] ∧ '"' ∉ name ∧ '\\' ∉ name ∧ ' ' ∉ name

theorem innerList_inside {rest list after : List Char} (plain : '"' ∉ name ∧ '\\' ∉ name) {empty : Bool}
    (some_ : name ≠ [] ∨ empty = false) (read : innerList .after rest = some (list, after)) :
    innerList (.inside empty) (name ++ '"' :: rest) = some (name ++ '"' :: list, after) := by
  induction name generalizing empty with
  | nil =>
    have more : empty = false := some_.resolve_left fun none_ => none_ rfl
    subst more
    simp [innerList, read, innerList.onward]
  | cons c name ih =>
    obtain ⟨quote, slash⟩ := plain
    rw [List.mem_cons, not_or] at quote slash
    have later := ih ⟨quote.2, slash.2⟩ (.inr rfl : name ≠ [] ∨ false = false)
    rw [List.cons_append, innerList]
    · rw [if_neg (Ne.symm slash.1), later]
      rfl
    · exact fun same => quote.1 same.symm

variable {names : List (List Char)}

theorem innerList_listOf (some_ : names ≠ []) (listable : ∀ name ∈ names, Listable name) (rest : List Char)
    : innerList .opening (listOf names ++ ')' :: rest) = some (listOf names, rest) := by
  induction names with
  | nil => exact (some_ rfl).elim
  | cons name names ih =>
    obtain ⟨nonempty, quote, slash, _⟩ := listable name List.mem_cons_self
    cases names with
    | nil =>
      have close : innerList .after (')' :: rest) = some ([], rest) := rfl
      have read : innerList (.inside true) (name ++ '"' :: ')' :: rest) = some (name ++ ['"'], rest) :=
        innerList_inside ⟨quote, slash⟩ (.inl nonempty) close
      rw [listOf, List.cons_append, List.append_assoc]
      change innerList.onward '"' (innerList (.inside true) (name ++ '"' :: ')' :: rest)) = _
      rw [read]
      rfl
    | cons next names =>
      have later := ih (List.cons_ne_nil _ _) fun name member => listable name (List.mem_cons_of_mem _ member)
      have space : innerList .after (' ' :: (listOf (next :: names) ++ ')' :: rest)) =
          some (' ' :: listOf (next :: names), rest) := by
        change innerList.onward ' ' (innerList .opening _) = _
        rw [later]
        rfl
      have read : innerList (.inside true) (name ++ '"' :: ' ' :: (listOf (next :: names) ++ ')' :: rest)) =
          some (name ++ '"' :: ' ' :: listOf (next :: names), rest) :=
        innerList_inside ⟨quote, slash⟩ (.inl nonempty) space
      have shape : listOf (name :: next :: names) ++ ')' :: rest =
          '"' :: (name ++ '"' :: ' ' :: (listOf (next :: names) ++ ')' :: rest)) := by simp [listOf]
      rw [shape]
      change innerList.onward '"' (innerList (.inside true) _) = _
      rw [read]
      simp [listOf, innerList.onward]

theorem componentsOf_listOf (some_ : names ≠ []) (listable : ∀ name ∈ names, Listable name) :
    componentsOf (some (listOf names)) = names.map String.ofList := by
  have quoted : ∀ {name : List Char}, Listable name → ('"' :: (name ++ ['"'])).splitOn ' ' = ['"' :: (name ++ ['"'])] := by
    intro name listable
    apply List.splitOn_eq_singleton
    simp [listable.2.2.2]
  rw [componentsOf]
  induction names with
  | nil => exact (some_ rfl).elim
  | cons name names ih =>
    have here := listable name List.mem_cons_self
    cases names with
    | nil =>
      rw [listOf, quoted here]
      simp
    | cons next names =>
      have later := ih (List.cons_ne_nil _ _) fun name member => listable name (List.mem_cons_of_mem _ member)
      rw [listOf, List.splitOn_append_cons_self, quoted here]
      · rw [List.singleton_append, List.map_cons, later]
        simp
      · exact List.cons_ne_nil _ _

theorem quotedList_toList (names : List String) : (quotedList names).toList = listOf (names.map String.toList) := by
  induction names with
  | nil => rfl
  | cons name names ih =>
    cases names with
    | nil => simp [quotedList, listOf]
    | cons next names =>
      rw [List.map_cons] at ih
      simp [quotedList, listOf, ih]

/-! ### Reading a `Signature-Input` back -/

theorem matchAll_skip {skipped rest : List Char} (plain : ';' ∉ skipped) : matchAll 0 (skipped ++ rest) = matchAll 0 rest := by
  induction skipped with
  | nil => rfl
  | cons c skipped ih =>
    rw [List.mem_cons, not_or] at plain
    have none_ : parameterAt (c :: (skipped ++ rest)) = none := by
      unfold parameterAt
      split
      · rename_i same
        cases same
        exact (plain.1 rfl).elim
      · rfl
    rw [List.cons_append, matchAll, none_]
    exact ih plain.2

theorem matchAll_drop (text rest : List Char) : matchAll text.length (text ++ rest) = matchAll 0 rest := by
  induction text with
  | nil => rfl
  | cons c text ih =>
    rw [List.cons_append, List.length_cons, matchAll]
    exact ih

theorem matchAll_found (at_ : parameterAt (c :: (text ++ rest)) = some (found, text.length + 1)) :
    matchAll 0 (c :: (text ++ rest)) = found :: matchAll 0 rest := by
  rw [matchAll, at_]
  exact congrArg _ (matchAll_drop text rest)

theorem parametersFill_drop (text rest : List Char) : parametersFill text.length (text ++ rest) = parametersFill 0 rest := by
  induction text with
  | nil => rfl
  | cons c text ih =>
    rw [List.cons_append, List.length_cons, parametersFill]
    exact ih

theorem parametersFill_found (at_ : parameterAt (c :: (text ++ rest)) = some (found, text.length + 1)) :
    parametersFill 0 (c :: (text ++ rest)) = parametersFill 0 rest := by
  rw [parametersFill, at_]
  exact parametersFill_drop text rest

variable {input : WebhookSigningInput}

/-- A parameter, without its semicolon: with an integer, and with a quoted text. -/
def integerText (name : List Char) (n : Int) : List Char := name ++ '=' :: (toString n).toList

def quotedText (name text : List Char) : List Char := name ++ '=' :: '"' :: (text ++ ['"'])

theorem integer_at (lower : Lower name) (n : Int) {rest : List Char} (stops : ∀ c, rest.head? = some c → c.isDigit = false) :
    parameterAt (';' :: (integerText name n ++ rest)) =
      some ((String.ofList name, toString n), (integerText name n).length + 1) := by
  have shape : integerText name n ++ rest = name ++ '=' :: ((toString n).toList ++ rest) := by
    simp [integerText]
  have long : name.length + (toString n).toList.length + 2 = (integerText name n).length + 1 := by
    rw [integerText, List.length_append, List.length_cons]
    omega
  rw [shape, parameterAt_integer lower n stops, long]

theorem quoted_at {text : List Char} (lower : Lower name) (plain : ∀ c ∈ text, isQuoted c = true) (rest : List Char) :
    parameterAt (';' :: (quotedText name text ++ rest)) =
      some ((String.ofList name, String.ofList text), (quotedText name text).length + 1) := by
  have shape : quotedText name text ++ rest = name ++ '=' :: '"' :: (text ++ '"' :: rest) := by
    simp [quotedText]
  have long : name.length + text.length + 4 = (quotedText name text).length + 1 := by
    simp only [quotedText, List.length_append, List.length_cons, List.length_nil]
    omega
  rw [shape, parameterAt_quoted lower plain, long]

def createdName : List Char := ['c', 'r', 'e', 'a', 't', 'e', 'd']

def keyidName : List Char := ['k', 'e', 'y', 'i', 'd']

theorem lower_names : Lower createdName ∧ Lower keyidName := by
  constructor <;> exact ⟨by decide, List.all_eq_true.mp (by decide)⟩

def parametersText (input : WebhookSigningInput) : List Char :=
  ';' :: (integerText createdName input.created ++ ';' :: (quotedText keyidName input.kid.toList ++ []))

theorem parameters_found (signable : ∀ c ∈ input.kid.toList, isQuoted c = true) :
    matchAll 0 (parametersText input) = [("created", toString input.created), ("keyid", input.kid)] ∧
      parametersFill 0 (parametersText input) = true := by
  have stops : ∀ c, (';' :: (quotedText keyidName input.kid.toList ++ [])).head? = some c → c.isDigit = false := by
    intro c same
    cases same
    decide
  have created := integer_at lower_names.1 input.created stops
  have keyid := quoted_at lower_names.2 signable []
  rw [ofList_toList] at keyid
  constructor
  · rw [parametersText, matchAll_found created, matchAll_found keyid]
    rfl
  · rw [parametersText, parametersFill_found created, parametersFill_found keyid]
    rfl

def namesOf (components : List String) : List (List Char) := components.map String.toList

theorem webhookParams_toList (components : List String) :
    (webhookParams input components).toList = '(' :: (listOf (namesOf components) ++ ')' :: parametersText input) := by
  simp [webhookParams, quotedList_toList, namesOf, parametersText, integerText, quotedText, createdName, keyidName]

/-- Components that can be listed, with no semicolon in their list. -/
structure Listed (components : List String) : Prop where
  some_ : components ≠ []
  listable : ∀ name ∈ namesOf components, Listable name
  plain : ';' ∉ listOf (namesOf components)

theorem listed_webhook (url : Url) : Listed (webhookComponents url) := by
  rw [webhookComponents]
  split
  · exact ⟨by decide, by unfold Listable; decide, by decide⟩
  · exact ⟨by decide, by unfold Listable; decide, by decide⟩

variable {components : List String}

theorem namesOf_ne (listed : Listed components) : namesOf components ≠ [] := by
  simpa [namesOf] using listed.some_

theorem listOf_head (some_ : names ≠ []) : (listOf names).head? = some '"' := by
  cases names with
  | nil => exact (some_ rfl).elim
  | cons name names => cases names <;> rfl

section
variable (listed : Listed components)
include listed

theorem member_read {text : String} {parameters : List Char} (fill : parametersFill 0 parameters = true)
    (written : text.toList = SIGNATURE_LABEL.toList ++ '=' :: params.toList)
    (shape : params.toList = '(' :: (listOf (namesOf components) ++ ')' :: parameters)) :
    signatureInputMember text = some ⟨SIGNATURE_LABEL, params, some (listOf (namesOf components))⟩ := by
  have label : SIGNATURE_LABEL.toList = ['s', 'i', 'g', '1'] := String.toList_ofList
  rw [label, shape] at written
  have equals : ∀ c, ('=' :: '(' :: (listOf (namesOf components) ++ ')' :: parameters)).head? = some c →
      decide (c ≠ '=') = false := by
    intro c same
    cases same
    decide
  have scan := scan_stops (by simp : ∀ c ∈ ['s', 'i', 'g', '1'], decide (c ≠ '=') = true) equals
  have list := innerList_listOf (namesOf_ne listed) listed.listable parameters
  have inList : signatureInputMember.inList (listOf (namesOf components) ++ ')' :: parameters) =
      some (some (listOf (namesOf components)), parameters) := by
    have first := listOf_head (namesOf_ne listed)
    cases chars : listOf (namesOf components) with
    | nil =>
      rw [chars] at first
      cases first
    | cons c rest =>
      rw [chars] at first list
      cases first
      change Option.map _ (innerList .opening ('"' :: rest ++ ')' :: parameters)) = _
      rw [list]
      rfl
  rw [signatureInputMember, written]
  dsimp only
  rw [scan.1, scan.2]
  change (signatureInputMember.inList _ >>= _) = _
  rw [inList]
  change (if _ then _ else _) = _
  rw [if_pos ⟨by decide, fill⟩, ← shape, ofList_toList]
  rfl

theorem signatureInput_read (signable : ∀ c ∈ input.kid.toList, isQuoted c = true) :
    signatureInputMember (SIGNATURE_LABEL ++ "=" ++ webhookParams input components) =
      some ⟨SIGNATURE_LABEL, webhookParams input components, some (listOf (namesOf components))⟩ :=
  member_read listed (parameters_found signable).2 (by simp) (webhookParams_toList components)

theorem parameter_read (signable : ∀ c ∈ input.kid.toList, isQuoted c = true) (name : String) :
    parameter (webhookParams input components) name =
      [("keyid", input.kid), ("created", toString input.created)].lookup name := by
  have skipped : ';' ∉ '(' :: (listOf (namesOf components) ++ [')']) := by
    simp [listed.plain]
  have shape : '(' :: (listOf (namesOf components) ++ ')' :: parametersText input) =
      '(' :: (listOf (namesOf components) ++ [')']) ++ parametersText input := by simp
  rw [parameter, webhookParams_toList, shape, matchAll_skip skipped, (parameters_found signable).1]
  rfl

theorem components_read : componentsOf (some (listOf (namesOf components))) = components := by
  rw [componentsOf_listOf (namesOf_ne listed) listed.listable, namesOf, List.map_map]
  simp [Function.comp_def]

end

/-! ### What a store signs is accepted -/

theorem trim_ends {text : String} (first last : Char) (inner : List Char) (shape : text.toList = first :: (inner ++ [last]))
    (starts : isWhite first = false) (ends : isWhite last = false) : trim text = text := by
  have backwards : (first :: (inner ++ [last])).reverse = last :: (first :: inner).reverse := by simp
  rw [trim, shape, List.dropWhile_cons_of_neg (by simp [starts]), backwards, List.dropWhile_cons_of_neg (by simp [ends]),
    ← backwards, List.reverse_reverse, ← shape, ofList_toList]

theorem trim_signatureInput (components : List String) : trim (SIGNATURE_LABEL ++ "=" ++ webhookParams input components) =
      SIGNATURE_LABEL ++ "=" ++ webhookParams input components := by
  refine trim_ends 's' '"' (['i', 'g', '1', '=', '('] ++ (listOf (namesOf components) ++
    ')' :: ';' :: (integerText createdName input.created ++ ';' :: (keyidName ++ '=' :: '"' :: input.kid.toList))))
    ?_ (by decide) (by decide)
  rw [toList_append, toList_append, webhookParams_toList]
  simp [SIGNATURE_LABEL, parametersText, quotedText]

theorem trim_digest (body : Bytes) : trim (contentDigest lib body) = contentDigest lib body := by
  refine trim_ends 's' ':' (['h', 'a', '-', '2', '5', '6', '=', ':'] ++
    (lib.sha256Base64 body).toList) ?_ (by decide) (by decide)
  simp [contentDigest]

theorem trim_signature (text : String) :
    trim (SIGNATURE_LABEL ++ "=:" ++ text ++ ":") = SIGNATURE_LABEL ++ "=:" ++ text ++ ":" := by
  refine trim_ends 's' ':' (['i', 'g', '1', '=', ':'] ++ text.toList) ?_ (by decide) (by decide)
  simp [SIGNATURE_LABEL]

theorem signatureValue_read {text : String} (base64 : isBase64 text.toList) :
    signatureValue SIGNATURE_LABEL (SIGNATURE_LABEL ++ "=:" ++ text ++ ":") = some text := by
  have dropped : (SIGNATURE_LABEL ++ "=:" ++ text ++ ":").toList.dropPrefix? (SIGNATURE_LABEL.toList ++ ['=', ':']) =
      some (text.toList ++ [':']) := by
    rw [List.dropPrefix?_eq_some_iff]
    exact ⟨SIGNATURE_LABEL.toList ++ ['=', ':'], by simp, by simp⟩
  rw [signatureValue, dropped]
  simp [base64]

theorem signatureBase_congr {value value' : String → Option String} (same : ∀ name ∈ components, value name = value' name) :
    signatureBase components params value = signatureBase components params value' := by
  induction components with
  | nil => rfl
  | cons name rest ih =>
    rw [signatureBase, signatureBase, same name List.mem_cons_self,
      ih fun name member => same name (List.mem_cons_of_mem _ member)]

def baseOf (lib : Libraries) (input : WebhookSigningInput) (url : Url) : Option String :=
  signatureBase (webhookComponents url) (webhookParams input (webhookComponents url)) fun name =>
    componentValue lib name "POST" url ((webhookHeaders lib input).lookup ·)

/-- What is documented of ECDSA and base64, said of one signature. -/
structure Documented (lib : Libraries) (input : WebhookSigningInput) (base : String) : Prop where
  valid : lib.verify input.privateJwk.toEcPublicJwk base (lib.sign input.privateJwk base) = some true
  raw : (lib.sign input.privateJwk base).length = 64
  text : isBase64 (lib.base64 (lib.sign input.privateJwk base)).toList
  bytes : lib.fromBase64 (lib.base64 (lib.sign input.privateJwk base)) = lib.sign input.privateJwk base

variable {signed : List (String × String)}

theorem signed_ok (ok : signedWebhookHeaders lib input = .ok signed) :
    ∃ url base, lib.url input.url = some url ∧ baseOf lib input url = some base ∧ unsignable input = none ∧
      input.privateJwk.kty = "EC" ∧ input.privateJwk.crv = "P-256" ∧
      signed = webhookHeaders lib input ++
        [("signature-input", SIGNATURE_LABEL ++ "=" ++ webhookParams input (webhookComponents url)),
          ("signature", SIGNATURE_LABEL ++ "=:" ++ lib.base64 (lib.sign input.privateJwk base) ++ ":")] := by
  unfold signedWebhookHeaders at ok
  cases what : unsignable input with
  | some what_ =>
    rw [what] at ok
    cases ok
  | none =>
    rw [what] at ok
    dsimp only at ok
    split at ok
    · cases ok
    rename_i key
    rw [not_or, not_not, not_not] at key
    cases located : lib.url input.url with
    | none =>
      rw [located] at ok
      cases ok
    | some url =>
      rw [located] at ok
      dsimp only at ok
      split at ok
      · cases ok
      · rename_i base based
        cases ok
        exact ⟨url, base, rfl, based, rfl, key.1, key.2, rfl⟩

theorem signed_of {base : String} (signable : unsignable input = none)
    (key : ¬(input.privateJwk.kty ≠ "EC" ∨ input.privateJwk.crv ≠ "P-256")) (located : lib.url input.url = some url)
    (based : baseOf lib input url = some base) : signedWebhookHeaders lib input = .ok (webhookHeaders lib input ++
      [("signature-input", SIGNATURE_LABEL ++ "=" ++ webhookParams input (webhookComponents url)),
        ("signature", SIGNATURE_LABEL ++ "=:" ++ lib.base64 (lib.sign input.privateJwk base) ++ ":")]) := by
  rw [baseOf] at based
  unfold signedWebhookHeaders
  rw [signable]
  dsimp only
  rw [if_neg key, located]
  dsimp only
  rw [based]

theorem signable_kid (signable : unsignable input = none) : ∀ c ∈ input.kid.toList, isQuoted c = true := by
  rw [unsignable, Option.map_eq_none_iff, List.find?_eq_none] at signable
  have kid := signable ("kid", input.kid) List.mem_cons_self
  simp only [decide_eq_true_eq, not_or, not_not] at kid
  intro c member
  have quoted := List.all_eq_true.mp kid.2 c member
  simp only [decide_eq_true_eq] at quoted
  simp [isQuoted, quoted.2.2.1, quoted.2.2.2]

/-- A request with the headers of a signed webhook. -/
structure Delivers (input : WebhookSigningInput) (signed : List (String × String)) (request : VerifySignatureInput) :
    Prop where
  method : request.method = "POST"
  url : request.url = input.url
  body : request.body = input.body
  headers : ∀ name value, (name, value) ∈ signed → request.headers name = some value
  key : request.keyFor input.kid = some input.privateJwk.toEcPublicJwk
  requiredComponents : ∀ name ∈ request.requiredComponents, name ∈ WEBHOOK_COMPONENTS

theorem webhook_component (url : Url) {name : String} (own : name ∈ WEBHOOK_COMPONENTS) : name ∈ webhookComponents url := by
  rw [webhookComponents]
  split
  · exact own
  · rw [List.append_assoc, List.mem_append, List.mem_append]
    rw [← List.take_append_drop 3 WEBHOOK_COMPONENTS, List.mem_append] at own
    exact own.imp id .inr

variable {request : VerifySignatureInput}

theorem required_webhook (more : ∀ name ∈ request.requiredComponents, name ∈ WEBHOOK_COMPONENTS) :
    ∀ name ∈ required request url, name ∈ webhookComponents url := by
  intro name needed
  rw [required] at needed
  simp only [List.mem_append] at needed
  rcases needed with ((((always | query) | body) | key) | agent) | own
  · exact webhook_component url (by simp [WEBHOOK_COMPONENTS] at always ⊢; tauto)
  · split at query
    · rename_i searching
      rw [List.mem_singleton.mp query, webhookComponents, if_neg searching]
      simp
    · cases query
  · split at body
    · exact webhook_component url (by simp [WEBHOOK_COMPONENTS] at body ⊢; tauto)
    · cases body
  · split at key
    · exact webhook_component url (by simp [WEBHOOK_COMPONENTS] at key ⊢; tauto)
    · cases key
  · split at agent
    · exact webhook_component url (by simp [WEBHOOK_COMPONENTS] at agent ⊢; tauto)
    · cases agent
  · exact webhook_component url (more name own)

theorem webhook_names (url : Url) : ∀ name ∈ webhookComponents url, name ∈ "@query" :: WEBHOOK_COMPONENTS := by
  intro name member
  rw [webhookComponents] at member
  split at member
  · exact List.mem_cons_of_mem _ member
  · have all : ∀ name ∈ WEBHOOK_COMPONENTS.take 3 ++ ["@query"] ++ WEBHOOK_COMPONENTS.drop 3,
        name ∈ "@query" :: WEBHOOK_COMPONENTS := by decide
    exact all name member

theorem delivered_value (delivers : Delivers input signed request) (has : ∀ entry ∈ webhookHeaders lib input, entry ∈ signed) :
    ∀ name ∈ webhookComponents url, componentValue lib name request.method url request.headers =
      componentValue lib name "POST" url ((webhookHeaders lib input).lookup ·) := by
  have field : ∀ name value, (webhookHeaders lib input).lookup name = some value →
      (request.headers name).map trim = ((webhookHeaders lib input).lookup name).map trim := by
    intro name value known
    obtain ⟨before, after, split, _⟩ := List.lookup_eq_some_iff.mp known
    rw [known, delivers.headers name value (has _ (by simp [split]))]
  intro name own
  have listed := webhook_names url name own
  simp only [WEBHOOK_COMPONENTS, List.mem_cons, List.not_mem_nil, or_false] at listed
  rw [delivers.method]
  rcases listed with rfl | rfl | rfl | rfl | rfl | rfl | rfl | rfl | rfl | rfl
  · simp [componentValue]
  · simp [componentValue]
  · simp [componentValue]
  · simp [componentValue]
  all_goals
    simp only [componentValue, String.reduceEq, if_false, String.reduceToList, List.head?_cons, Option.some.injEq,
      Char.reduceEq]
    exact field _ _ (by simp [webhookHeaders, List.lookup_cons]; rfl)

theorem webhook_nodup (url : Url) : (webhookComponents url).Nodup := by
  rw [webhookComponents]
  split <;> decide

/-- A delivered webhook is accepted under its key, whatever the time: its signature has no time at which it ends. -/
theorem webhook_accepted (ok : signedWebhookHeaders lib input = .ok signed)
    (documented : ∀ url base, lib.url input.url = some url → baseOf lib input url = some base → Documented lib input base)
    (delivers : Delivers input signed request) :
    ∃ check, verifyHttpMessageSignature lib request = .ok check ∧ check.keyid = input.kid := by
  obtain ⟨url, base, located, based, signable, kty, crv, signed_⟩ := signed_ok ok
  have one := documented url base located based
  have kid := signable_kid signable
  have listed := listed_webhook url
  have has : ∀ entry ∈ webhookHeaders lib input, entry ∈ signed := by
    intro entry member
    rw [signed_]
    exact List.mem_append_left _ member
  have inputHeader := delivers.headers "signature-input"
    (SIGNATURE_LABEL ++ "=" ++ webhookParams input (webhookComponents url)) (by simp [signed_])
  have signatureHeader := delivers.headers "signature"
    (SIGNATURE_LABEL ++ "=:" ++ lib.base64 (lib.sign input.privateJwk base) ++ ":") (by simp [signed_])
  have digestHeader := delivers.headers "content-digest" (contentDigest lib input.body)
    (has _ (by simp [webhookHeaders]))
  have listing := components_read listed
  have sameBase : signatureBase (componentsOf (some (listOf (namesOf (webhookComponents url)))))
      (webhookParams input (webhookComponents url))
      (fun name => componentValue lib name request.method url request.headers) = some base := by
    rw [listing, ← based]
    exact signatureBase_congr (delivered_value delivers has)
  have read := parameter_read listed kid
  refine ⟨_, verify_accepts (congrArg (Option.map trim) inputHeader) (congrArg (Option.map trim) signatureHeader) ?_
    (by rw [trim_signatureInput, signatureInput_read listed kid]) (by rw [read]; rfl) ?_ (by rw [read]; rfl)
    (by rw [read]; rfl) (by rw [delivers.url, located]) ?_ (by rw [trim_signature, signatureValue_read one.text])
    delivers.key ⟨kty, crv⟩ sameBase ?_ ?_, rfl⟩
  · intro _
    rw [digestHeader, delivers.body, Option.map_some, trim_digest]
  · rw [listing]
    exact webhook_nodup url
  · rw [listing]
    exact required_webhook delivers.requiredComponents
  · rw [one.bytes]
    exact one.raw
  · rw [one.bytes]
    exact one.valid

/-- What a store signs is accepted under its key, and two requests that are accepted under one `Signature` are one request. -/
theorem signature_binds (lib : Libraries) :
    (∀ (input : WebhookSigningInput) (signed : List (String × String)) (request : VerifySignatureInput),
      signedWebhookHeaders lib input = .ok signed →
      (∀ url base, lib.url input.url = some url → baseOf lib input url = some base → Documented lib input base) →
      Delivers input signed request →
      ∃ check, verifyHttpMessageSignature lib request = .ok check ∧ check.keyid = input.kid) ∧
    ∀ (Signed : EcPublicJwk → String → Bytes → Prop) (a b : VerifySignatureInput) (check check' : SignatureCheck),
      Unforgeable lib Signed → Searches lib →
      (lib.sha256Base64 a.body = lib.sha256Base64 b.body → a.body = b.body) →
      verifyHttpMessageSignature lib a = .ok check → verifyHttpMessageSignature lib b = .ok check' →
      (a.headers "signature").map trim = (b.headers "signature").map trim → SameRequest lib a b := by
  refine ⟨fun input signed request ok documented delivers => webhook_accepted ok documented delivers, ?_⟩
  intro Signed a b check check' unforgeable searches collisionFree ok ok' signatures
  exact same_request unforgeable searches ok ok' signatures collisionFree

/-! ### A signed webhook and a signed request without a body -/

def hookUrl : Url := ⟨"agentpey.test", "/hooks", ""⟩

def hookKey : EcPrivateJwk :=
  { kty := "EC", crv := "P-256", x := "UzwL98y9CxyxvMSqWYNetY8YVdROQ3GQQIQBgUXyWFw",
    y := "COiEDnQerTndw8qZWTBG7UGepzoOx1d8c8TMT9nDdk8", d := "OCU8NihrIl3m3fpmfQnbMZCPTfrYvVNl4I3ODxRaUpo" }

def hookBase : String := "\"@method\": POST\n\"@authority\": agentpey.test\n\"@path\": /hooks\n" ++
  "\"content-digest\": sha-256=:SBQPgLhwdHReqjmvu+jrl1QduJ7f1sPTdSbLmJX2Nic=:\n\"content-type\": application/json\n" ++
  "\"ucp-agent\": profile=\"https://shop.test/.well-known/ucp\"\n\"idempotency-key\": evt1\n\"webhook-id\": evt1\n" ++
  "\"webhook-timestamp\": 7\n\"@signature-params\": (\"@method\" \"@authority\" \"@path\" \"content-digest\" " ++
  "\"content-type\" \"ucp-agent\" \"idempotency-key\" \"webhook-id\" \"webhook-timestamp\");created=9;keyid=\"k1\""

def hookSignature : Bytes :=
  [34, 38, 224, 77, 130, 108, 41, 114, 174, 176, 28, 167, 81, 70, 21, 57, 207, 16, 8, 69, 94, 150, 8, 36, 162, 254, 104,
    43, 114, 206, 189, 203, 124, 198, 60, 196, 254, 203, 78, 138, 33, 232, 138, 148, 194, 99, 42, 103, 44, 103, 124, 244,
    205, 197, 214, 135, 160, 62, 202, 121, 208, 122, 123, 89]

def hookText : String := "IibgTYJsKXKusBynUUYVOc8QCEVelggkov5oK3LOvct8xjzE/stOiiHoipTCYypnLGd89M3F1oegPsp50Hp7WQ=="

def pingBase : String := "\"@method\": GET\n\"@authority\": agentpey.test\n\"@path\": /hooks\n" ++
  "\"@signature-params\": (\"@method\" \"@authority\" \"@path\");keyid=\"k1\""

def pingSignature : Bytes :=
  [28, 180, 3, 76, 129, 253, 34, 132, 135, 33, 227, 177, 188, 111, 180, 59, 22, 32, 253, 127, 157, 147, 82, 20, 5, 235,
    152, 85, 188, 104, 161, 115, 183, 86, 118, 252, 204, 105, 250, 100, 132, 77, 158, 37, 247, 211, 159, 187, 157, 107,
    40, 28, 63, 95, 7, 207, 231, 142, 32, 14, 224, 102, 53, 225]

def pingText : String := "HLQDTIH9IoSHIeOxvG+0OxYg/X+dk1IUBeuYVbxooXO3Vnb8zGn6ZIRNniX305+7nWsoHD9fB8/njiAO4GY14Q=="

def hookBody : Bytes := [123, 34, 105, 100, 34, 58, 34, 111, 49, 34, 125]

def hookLib : Libraries where
  url text := if text = "https://agentpey.test/hooks" then some hookUrl else none
  toUpperCase := String.toUpper
  sha256Base64 body := if body = hookBody then "SBQPgLhwdHReqjmvu+jrl1QduJ7f1sPTdSbLmJX2Nic=" else ""
  base64 bytes := if bytes = hookSignature then hookText else if bytes = pingSignature then pingText else ""
  fromBase64 text := if text = hookText then hookSignature else if text = pingText then pingSignature else []
  sign _ base := if base = hookBase then hookSignature else if base = pingBase then pingSignature else []
  verify key base signature :=
    some (decide (key = hookKey.toEcPublicJwk ∧ (base = hookBase ∧ signature = hookSignature ∨
      base = pingBase ∧ signature = pingSignature)))
  number _ := .nan

def hookInput : WebhookSigningInput :=
  { url := "https://agentpey.test/hooks", body := hookBody, profileUrl := "https://shop.test/.well-known/ucp",
    webhookId := "evt1", webhookTimestamp := 7, created := 9, privateJwk := hookKey, kid := "k1" }

def ping (method : String) (type_ : Option String) : VerifySignatureInput where
  method := method
  url := "https://agentpey.test/hooks"
  headers name :=
    if name = "signature-input" then some "sig1=(\"@method\" \"@authority\" \"@path\");keyid=\"k1\""
    else if name = "signature" then some ("sig1=:" ++ pingText ++ ":")
    else if name = "content-type" then type_
    else none
  body := []
  keyFor kid := if kid = "k1" then some hookKey.toEcPublicJwk else none
  requiredComponents := []
  now := none

/-- Whoever holds the key signed these two texts, and no other. -/
def HookSigned (key : EcPublicJwk) (base : String) (signature : Bytes) : Prop :=
  hookLib.verify key base signature = some true

theorem hook_unforgeable : Unforgeable hookLib HookSigned := by
  have different : hookSignature ≠ pingSignature := by decide
  refine ⟨fun _ _ _ valid => valid, ?_⟩
  intro key key' base base' signature valid valid'
  simp only [HookSigned, hookLib, Option.some.injEq, decide_eq_true_eq] at valid valid'
  obtain ⟨_, ⟨rfl, rfl⟩ | ⟨rfl, rfl⟩⟩ := valid
  · obtain ⟨_, ⟨rfl, _⟩ | ⟨_, same⟩⟩ := valid'
    · rfl
    · exact (different same).elim
  · obtain ⟨_, ⟨_, same⟩ | ⟨rfl, _⟩⟩ := valid'
    · exact (different same.symm).elim
    · rfl

theorem hook_searches : Searches hookLib := by
  intro text url located
  simp only [hookLib] at located
  split at located
  · cases located
    decide
  · cases located

theorem hook_components : webhookComponents hookUrl = WEBHOOK_COMPONENTS := if_pos (show hookUrl.search = "" from rfl)

theorem hook_based : baseOf hookLib hookInput hookUrl = some hookBase := by
  have agent : trim "profile=\"https://shop.test/.well-known/ucp\"" = "profile=\"https://shop.test/.well-known/ucp\"" := by
    rw [trim, toList_ofList]
    decide
  have known : WEBHOOK_COMPONENTS.map (fun name =>
        componentValue hookLib name "POST" hookUrl ((webhookHeaders hookLib hookInput).lookup ·)) =
      ["POST", "agentpey.test", "/hooks", "sha-256=:SBQPgLhwdHReqjmvu+jrl1QduJ7f1sPTdSbLmJX2Nic=:", "application/json",
        "profile=\"https://shop.test/.well-known/ucp\"", "evt1", "evt1", "7"].map some := by
    simp [WEBHOOK_COMPONENTS, componentValue, webhookHeaders, hookInput, List.lookup_cons, trim_digest, agent]
    decide +kernel
  rw [baseOf, hook_components]
  refine signatureBase_lines known ?_ ?_
  · simp only [List.forall_mem_cons, @toList_ofList _]
    decide
  · unfold hookBase
    simp only [webhookParams, quotedList, hookInput, WEBHOOK_COMPONENTS, List.zip_cons_cons, List.flatMap_cons,
      toList_append, @toList_ofList _]
    decide +kernel

theorem hook_signs : hookLib.sign hookKey hookBase = hookSignature := by
  simp [hookLib]

theorem hook_text : hookLib.base64 hookSignature = hookText ∧ hookLib.fromBase64 hookText = hookSignature := by
  simp [hookLib]

theorem hook_documented : ∀ url base, hookLib.url hookInput.url = some url → baseOf hookLib hookInput url = some base →
    Documented hookLib hookInput base := by
  intro url base located based
  have same : hookUrl = url := Option.some.inj located
  subst same
  rw [hook_based] at based
  cases based
  have signs : hookLib.sign hookInput.privateJwk hookBase = hookSignature := hook_signs
  constructor
  · rw [signs]
    simp [hookLib, hookInput]
  · rw [signs]
    rfl
  · rw [signs, hook_text.1, hookText, toList_ofList]
    decide
  · rw [signs, hook_text.1, hook_text.2]

def hookSigned : List (String × String) :=
  [("content-type", "application/json"), ("content-digest", "sha-256=:SBQPgLhwdHReqjmvu+jrl1QduJ7f1sPTdSbLmJX2Nic=:"),
    ("ucp-agent", "profile=\"https://shop.test/.well-known/ucp\""), ("idempotency-key", "evt1"), ("webhook-id", "evt1"),
    ("webhook-timestamp", "7"),
    ("signature-input", "sig1=(\"@method\" \"@authority\" \"@path\" \"content-digest\" \"content-type\" \"ucp-agent\" " ++
      "\"idempotency-key\" \"webhook-id\" \"webhook-timestamp\");created=9;keyid=\"k1\""),
    ("signature", "sig1=:" ++ hookText ++ ":")]

theorem hook_signed : signedWebhookHeaders hookLib hookInput = .ok hookSigned := by
  have signable : unsignable hookInput = none := by
    have agent : sfString "https://shop.test/.well-known/ucp" = true := by
      rw [sfString, toList_ofList]
      decide
    simp [unsignable, hookInput, agent]
    decide
  have located : hookLib.url hookInput.url = some hookUrl := by
    simp [hookLib, hookInput]
  have headers : webhookHeaders hookLib hookInput = hookSigned.take 6 := by
    decide
  have given : SIGNATURE_LABEL ++ "=" ++ webhookParams hookInput WEBHOOK_COMPONENTS =
      "sig1=(\"@method\" \"@authority\" \"@path\" \"content-digest\" \"content-type\" \"ucp-agent\" " ++
        "\"idempotency-key\" \"webhook-id\" \"webhook-timestamp\");created=9;keyid=\"k1\"" := by
    apply String.toList_inj.mp
    simp only [SIGNATURE_LABEL, webhookParams, quotedList, hookInput, WEBHOOK_COMPONENTS, toList_append,
      @toList_ofList _]
    rfl
  have signs : hookLib.sign hookInput.privateJwk hookBase = hookSignature := hook_signs
  rw [signed_of signable (by decide) located hook_based, signs, hook_text.1, hook_components, headers, given]
  rfl

def hookRequest : VerifySignatureInput where
  method := "POST"
  url := "https://agentpey.test/hooks"
  headers name := hookSigned.lookup name
  body := hookBody
  keyFor kid := if kid = "k1" then some hookKey.toEcPublicJwk else none
  requiredComponents := ["webhook-id", "webhook-timestamp"]
  now := some 10

theorem hook_delivers : Delivers hookInput hookSigned hookRequest where
  method := rfl
  url := rfl
  body := rfl
  headers := by
    have all : ∀ entry ∈ hookSigned, hookRequest.headers entry.1 = some entry.2 := by decide +kernel
    exact fun name value member => all (name, value) member
  key := rfl
  requiredComponents := by decide

theorem listed_ping : Listed ["@method", "@authority", "@path"] :=
  ⟨by decide, by unfold Listable; decide, by decide⟩

theorem ping_accepted {method : String} (upper : hookLib.toUpperCase method = "GET") (type_ : Option String) :
    (verifyHttpMessageSignature hookLib (ping method type_)).isOk = true := by
  have given : ((ping method type_).headers "signature-input").map trim =
      some "sig1=(\"@method\" \"@authority\" \"@path\");keyid=\"k1\"" := by
    change some (trim _) = _
    rw [trim, toList_ofList]
    decide
  have headed : ((ping method type_).headers "signature").map trim = some ("sig1=:" ++ pingText ++ ":") :=
    congrArg some (trim_signature pingText)
  have read : signatureInputMember "sig1=(\"@method\" \"@authority\" \"@path\");keyid=\"k1\"" =
      some ⟨SIGNATURE_LABEL, "(\"@method\" \"@authority\" \"@path\");keyid=\"k1\"",
        some (listOf (namesOf ["@method", "@authority", "@path"]))⟩ := by
    rw [signatureInputMember, toList_ofList]
    rfl
  have parameters : matchAll 0 "(\"@method\" \"@authority\" \"@path\");keyid=\"k1\"".toList = [("keyid", "k1")] := by
    rw [toList_ofList]
    decide
  have listing := components_read listed_ping
  have base64 : isBase64 pingText.toList = true := by
    rw [pingText, toList_ofList]
    decide
  have signed : hookLib.fromBase64 pingText = pingSignature := by
    simp [hookLib]
    decide
  have based : signatureBase (componentsOf (some (listOf (namesOf ["@method", "@authority", "@path"]))))
      "(\"@method\" \"@authority\" \"@path\");keyid=\"k1\""
      (fun name => componentValue hookLib name method hookUrl (ping method type_).headers) = some pingBase := by
    have known : ["@method", "@authority", "@path"].map (fun name =>
        componentValue hookLib name method hookUrl (ping method type_).headers) =
        ["GET", "agentpey.test", "/hooks"].map some := by
      simp [componentValue, upper, hookUrl]
    rw [listing]
    refine signatureBase_lines known (by decide) ?_
    unfold pingBase
    simp only [List.zip_cons_cons, List.flatMap_cons, toList_append, @toList_ofList _]
    decide
  have ok := verify_accepts given headed (fun some_ => absurd rfl some_) read
    (congrArg (fun found => found.reverse.lookup "keyid") parameters) (by rw [listing]; decide)
    (congrArg (fun found => found.reverse.lookup "alg") parameters)
    (congrArg (fun found => found.reverse.lookup "expires") parameters) (show _ = some hookUrl by simp [hookLib, ping])
    (by rw [listing]; simp [required, hookUrl, ping]) (signatureValue_read base64)
    (show _ = some hookKey.toEcPublicJwk by simp [ping]) ⟨rfl, rfl⟩ based
    (by rw [signed]; rfl) (by rw [signed]; simp [hookLib])
  rw [ok]
  rfl

/-- A request without a body, and the same with its method in lower case and a content type. -/
theorem pings_accepted : (verifyHttpMessageSignature hookLib (ping "GET" none)).isOk = true ∧
    (verifyHttpMessageSignature hookLib (ping "get" (some "text/html"))).isOk = true :=
  ⟨ping_accepted (by decide +kernel) none, ping_accepted (by decide +kernel) (some "text/html")⟩

theorem isOk_some {α β : Type} {x : Except α β} (ok : x.isOk = true) : ∃ b, x = .ok b := by
  cases x with
  | error a => cases ok
  | ok b => exact ⟨b, rfl⟩

theorem signature_binds_hook :
    (∃ check, verifyHttpMessageSignature hookLib hookRequest = .ok check ∧ check.keyid = "k1") ∧
      SameRequest hookLib (ping "GET" none) (ping "get" (some "text/html")) := by
  obtain ⟨check, ok⟩ := isOk_some pings_accepted.1
  obtain ⟨check', ok'⟩ := isOk_some pings_accepted.2
  exact ⟨(signature_binds hookLib).1 hookInput hookSigned hookRequest hook_signed hook_documented hook_delivers,
    (signature_binds hookLib).2 HookSigned _ _ check check' hook_unforgeable hook_searches (fun _ => rfl) ok ok' rfl⟩

/-- The method is signed in upper case, and without a body a content type need not be signed: with a method in lower case and
    a content type that is added, the request is accepted under the same signature. -/
theorem content_type_unbound : Unforgeable hookLib HookSigned ∧ Searches hookLib ∧
    (verifyHttpMessageSignature hookLib (ping "GET" none)).isOk = true ∧
    (verifyHttpMessageSignature hookLib (ping "get" (some "text/html"))).isOk = true ∧
    (ping "GET" none).headers "signature" = (ping "get" (some "text/html")).headers "signature" ∧
    (ping "GET" none).method ≠ (ping "get" (some "text/html")).method ∧
    (ping "GET" none).headers "content-type" ≠ (ping "get" (some "text/html")).headers "content-type" :=
  ⟨hook_unforgeable, hook_searches, pings_accepted.1, pings_accepted.2, rfl, by decide, by decide⟩

end AgentPey.SignedWebhooks
