import AgentPey.Disclosures
import Mathlib.Data.List.Perm.Subperm

/-!
An SD-JWT that is issued and then presented with some of its disclosures. A draft is what its issuer starts from: claims
with some of their array elements, at any depth, marked to be hidden. The verifier gets the claims back with exactly the
elements missing whose disclosures were withheld.
-/
namespace AgentPey.SdJwtRoundTrip
open SdJwt Disclosures
open List (map_cons mem_append mem_cons mem_map nil_subperm not_mem_nil)

variable {N K : Type}

/-- A claims value; an element with a salt is to be hidden. -/
inductive Draft (N : Type) where
  | null
  | bool (b : Bool)
  | number (n : N)
  | string (s : String)
  | array (items : List (Option String × Draft N))
  | object (members : List (String × Draft N))

variable (lib : Libraries N K)

/-! ### Issuing -/

mutual

/-- The value that is signed, with the sink of disclosures: an element's own comes after those within it. -/
def conceal : Draft N → List String → Value N × List String
  | .null, sink => (.null, sink)
  | .bool b, sink => (.bool b, sink)
  | .number n, sink => (.number n, sink)
  | .string s, sink => (.string s, sink)
  | .array items, sink =>
    let (out, sink) := concealItems items sink
    (.array out, sink)
  | .object members, sink =>
    let (out, sink) := concealMembers members sink
    (.object out, sink)

def concealItems : List (Option String × Draft N) → List String → List (Value N) × List String
  | [], sink => ([], sink)
  | (none, item) :: rest, sink =>
    let (value, sink) := conceal item sink
    let (out, sink) := concealItems rest sink
    (value :: out, sink)
  | (some salt, item) :: rest, sink =>
    let (value, sink) := conceal item sink
    let (marks, sink) := disclosableArray lib [(salt, value)] sink
    let (out, sink) := concealItems rest sink
    (marks ++ out, sink)

def concealMembers : List (String × Draft N) → List String → Members N × List String
  | [], sink => ([], sink)
  | (name, member) :: rest, sink =>
    let (value, sink) := conceal member sink
    let (out, sink) := concealMembers rest sink
    ((name, value) :: out, sink)

end

/-- A token with some of its disclosures, in any order. -/
def present (token : String) (chosen : List String) : String := compact ((split '~' token).headD "") chosen

/-! ### What is hidden and what is shown -/

mutual

def signedValue : Draft N → Value N
  | .null => .null
  | .bool b => .bool b
  | .number n => .number n
  | .string s => .string s
  | .array items => .array (signedItems items)
  | .object members => .object (signedMembers members)

def signedItems : List (Option String × Draft N) → List (Value N)
  | [] => []
  | (none, item) :: rest => signedValue item :: signedItems rest
  | (some salt, item) :: rest =>
    placeholder (lib.sha256Base64Url (disclosure lib salt (signedValue item))) :: signedItems rest

def signedMembers : List (String × Draft N) → Members N
  | [] => []
  | (name, member) :: rest => (name, signedValue member) :: signedMembers rest

end

mutual

def hidden : Draft N → List (String × Value N)
  | .array items => hiddenItems items
  | .object members => hiddenMembers members
  | _ => []

def hiddenItems : List (Option String × Draft N) → List (String × Value N)
  | [] => []
  | (none, item) :: rest => hidden item ++ hiddenItems rest
  | (some salt, item) :: rest => hidden item ++ (salt, signedValue lib item) :: hiddenItems rest

def hiddenMembers : List (String × Draft N) → List (String × Value N)
  | [] => []
  | (_, member) :: rest => hidden member ++ hiddenMembers rest

end

def disclosures (values : List (String × Value N)) : List String := values.map fun (salt, value) => disclosure lib salt value

mutual

/-- The claims with exactly the hidden elements missing whose disclosures were not chosen. -/
def shown (chosen : List String) : Draft N → Value N
  | .null => .null
  | .bool b => .bool b
  | .number n => .number n
  | .string s => .string s
  | .array items => .array (shownItems chosen items)
  | .object members => .object (shownMembers chosen members)

def shownItems (chosen : List String) : List (Option String × Draft N) → List (Value N)
  | [] => []
  | (none, item) :: rest => shown chosen item :: shownItems chosen rest
  | (some salt, item) :: rest =>
    if disclosure lib salt (signedValue lib item) ∈ chosen then shown chosen item :: shownItems chosen rest
    else shownItems chosen rest

def shownMembers (chosen : List String) : List (String × Draft N) → Members N
  | [] => []
  | (name, member) :: rest => (name, shown chosen member) :: shownMembers chosen rest

end

mutual

/-- With a disclosure, those of the hidden elements around it are chosen. -/
def Closed (chosen : List String) : Draft N → Prop
  | .array items => ClosedItems chosen items
  | .object members => ClosedMembers chosen members
  | _ => True

def ClosedItems (chosen : List String) : List (Option String × Draft N) → Prop
  | [] => True
  | (none, item) :: rest => Closed chosen item ∧ ClosedItems chosen rest
  | (some salt, item) :: rest =>
    (disclosure lib salt (signedValue lib item) ∉ chosen → ∀ text ∈ disclosures lib (hidden lib item), text ∉ chosen) ∧
      Closed chosen item ∧ ClosedItems chosen rest

def ClosedMembers (chosen : List String) : List (String × Draft N) → Prop
  | [] => True
  | (_, member) :: rest => Closed chosen member ∧ ClosedMembers chosen rest

end

mutual

/-- No object has a member of a reserved name. -/
def Free : Draft N → Prop
  | .array items => FreeItems items
  | .object members => FreeMembers members
  | _ => True

def FreeItems : List (Option String × Draft N) → Prop
  | [] => True
  | (_, item) :: rest => Free item ∧ FreeItems rest

def FreeMembers : List (String × Draft N) → Prop
  | [] => True
  | (name, member) :: rest => (name ≠ "_sd" ∧ name ≠ DIGEST_KEY) ∧ Free member ∧ FreeMembers rest

end

mutual

/-- The digests that are met: a hidden element's own, and those within it when it is shown. -/
def met (chosen : List String) : Draft N → List String
  | .array items => metItems chosen items
  | .object members => metMembers chosen members
  | _ => []

def metItems (chosen : List String) : List (Option String × Draft N) → List String
  | [] => []
  | (none, item) :: rest => met chosen item ++ metItems chosen rest
  | (some salt, item) :: rest =>
    let text := disclosure lib salt (signedValue lib item)
    if text ∈ chosen then lib.sha256Base64Url text :: (met chosen item ++ metItems chosen rest)
    else lib.sha256Base64Url text :: metItems chosen rest

def metMembers (chosen : List String) : List (String × Draft N) → List String
  | [] => []
  | (_, member) :: rest => met chosen member ++ metMembers chosen rest

end

variable {lib} {chosen : List String}

theorem disclosures_append (a b : List (String × Value N)) : disclosures lib (a ++ b) = disclosures lib a ++ disclosures lib b :=
  List.map_append

mutual

theorem conceal_eq (draft : Draft N) (sink : List String) :
    conceal lib draft sink = (signedValue lib draft, sink ++ disclosures lib (hidden lib draft)) := by
  cases draft with
  | array items => rw [conceal, concealItems_eq items sink]; rfl
  | object members => rw [conceal, concealMembers_eq members sink]; rfl
  | _ => simp [conceal, signedValue, hidden, disclosures]

theorem concealItems_eq (items : List (Option String × Draft N)) (sink : List String) :
    concealItems lib items sink = (signedItems lib items, sink ++ disclosures lib (hiddenItems lib items)) := by
  cases items with
  | nil => simp [concealItems, signedItems, hiddenItems, disclosures]
  | cons entry rest =>
    obtain ⟨mark, item⟩ := entry
    cases mark with
    | none =>
      rw [concealItems, conceal_eq item sink]
      simp only [concealItems_eq rest]
      simp [signedItems, hiddenItems, disclosures_append]
    | some salt =>
      rw [concealItems, conceal_eq item sink]
      simp only [disclosableArray, concealItems_eq rest]
      simp [signedItems, hiddenItems, disclosures]

theorem concealMembers_eq (members : List (String × Draft N)) (sink : List String) :
    concealMembers lib members sink = (signedMembers lib members, sink ++ disclosures lib (hiddenMembers lib members)) := by
  cases members with
  | nil => simp [concealMembers, signedMembers, hiddenMembers, disclosures]
  | cons entry rest =>
    obtain ⟨name, member⟩ := entry
    rw [concealMembers, conceal_eq member sink]
    simp only [concealMembers_eq rest]
    simp [signedMembers, hiddenMembers, disclosures_append]

end

/-! ### Resolving what was presented -/

theorem names_signedMembers (members : List (String × Draft N)) :
    names (signedMembers lib members) = members.map Prod.fst := by
  induction members with
  | nil => rfl
  | cons entry rest ih =>
    obtain ⟨name, member⟩ := entry
    rw [signedMembers, names, map_cons, map_cons]
    exact congrArg _ ih

variable {members : List (String × Draft N)} {given : List String}

theorem freeMembers_names (free : FreeMembers members) : ∀ name ∈ members.map Prod.fst, name ≠ "_sd" ∧ name ≠ DIGEST_KEY := by
  induction members with
  | nil => exact fun name member => (not_mem_nil member).elim
  | cons entry rest ih =>
    obtain ⟨name, member⟩ := entry
    obtain ⟨plain, _, others⟩ := free
    exact List.forall_mem_cons.mpr ⟨plain, ih others⟩

theorem marked_signedValue {draft : Draft N} (free : Free draft) : marked (signedValue lib draft) = none := by
  cases draft with
  | object members =>
    rw [signedValue, marked_object, names_signedMembers]
    exact fun member => (freeMembers_names free _ member).2 rfl
  | _ => rfl

/-- The table has the chosen disclosures of hidden values, and none of the others. -/
def Shows (lib : Libraries N K) (chosen : List String) (table : Table N) (values : List (String × Value N)) : Prop :=
  ∀ salt value, (salt, value) ∈ values → table.lookup (lib.sha256Base64Url (disclosure lib salt value)) =
    if disclosure lib salt value ∈ chosen then some (.element value) else none

theorem shows_append {table : Table N} {a b : List (String × Value N)} (shows_ : Shows lib chosen table (a ++ b)) :
    Shows lib chosen table a ∧ Shows lib chosen table b :=
  ⟨fun salt value member => shows_ salt value (List.mem_append_left _ member),
    fun salt value member => shows_ salt value (List.mem_append_right _ member)⟩

variable {table : Table N}

mutual

theorem resolves_shown {draft : Draft N} (free : Free draft) (shows_ : Shows lib chosen table (hidden lib draft)) :
    Resolves table (.value (signedValue lib draft)) (met lib chosen draft) (.value (shown lib chosen draft)) := by
  cases draft with
  | array items => exact .array (resolves_shownItems free shows_)
  | object members =>
    refine .object ?_ (resolves_shownMembers free shows_)
    rw [List.lookup_eq_none_iff]
    intro entry member
    have name : entry.1 ∈ names (signedMembers lib members) := List.mem_map_of_mem member
    rw [names_signedMembers] at name
    rw [bne_iff_ne]
    exact Ne.symm (freeMembers_names free _ name).1
  | null => exact .leaf rfl
  | bool b => exact .leaf rfl
  | number n => exact .leaf rfl
  | string s => exact .leaf rfl

theorem resolves_shownItems {items : List (Option String × Draft N)} (free : FreeItems items)
    (shows_ : Shows lib chosen table (hiddenItems lib items)) :
    Resolves table (.elements (signedItems lib items)) (metItems lib chosen items) (.elements (shownItems lib chosen items)) := by
  cases items with
  | nil => exact .noElement
  | cons entry rest =>
    obtain ⟨mark, item⟩ := entry
    obtain ⟨freeItem, freeRest⟩ := free
    cases mark with
    | none =>
      obtain ⟨here, others⟩ := shows_append shows_
      exact .element (marked_signedValue freeItem) (resolves_shown freeItem here) (resolves_shownItems freeRest others)
    | some salt =>
      obtain ⟨here, others⟩ := shows_append shows_
      have own := others salt _ List.mem_cons_self
      have others : Shows lib chosen table (hiddenItems lib rest) :=
        fun salt value member => others salt value (List.mem_cons_of_mem _ member)
      rw [signedItems, metItems, shownItems]
      by_cases chosen_ : disclosure lib salt (signedValue lib item) ∈ chosen
      · rw [if_pos chosen_, if_pos chosen_]
        rw [if_pos chosen_] at own
        exact .disclosed own (resolves_shown freeItem here) (resolves_shownItems freeRest others)
      · rw [if_neg chosen_, if_neg chosen_]
        rw [if_neg chosen_] at own
        exact .withheld own (resolves_shownItems freeRest others)

theorem resolves_shownMembers {members : List (String × Draft N)} (free : FreeMembers members)
    (shows_ : Shows lib chosen table (hiddenMembers lib members)) :
    Resolves table (.members (signedMembers lib members)) (metMembers lib chosen members)
      (.members (shownMembers lib chosen members)) := by
  cases members with
  | nil => exact .noMember
  | cons entry rest =>
    obtain ⟨name, member⟩ := entry
    obtain ⟨plain, freeMember, freeRest⟩ := free
    obtain ⟨here, others⟩ := shows_append shows_
    exact .member plain.1 (resolves_shown freeMember here) (resolves_shownMembers freeRest others)

end

/-! ### The digests that are met -/

def digests (lib : Libraries N K) (values : List (String × Value N)) : List String :=
  (disclosures lib values).map lib.sha256Base64Url

theorem digests_append (a b : List (String × Value N)) : digests lib (a ++ b) = digests lib a ++ digests lib b := by
  simp [digests, disclosures_append]

mutual

theorem met_subperm (draft : Draft N) : (met lib chosen draft).Subperm (digests lib (hidden lib draft)) := by
  cases draft with
  | array items => exact metItems_subperm items
  | object members => exact metMembers_subperm members
  | _ => exact nil_subperm

theorem metItems_subperm (items : List (Option String × Draft N)) :
    (metItems lib chosen items).Subperm (digests lib (hiddenItems lib items)) := by
  cases items with
  | nil => exact nil_subperm
  | cons entry rest =>
    obtain ⟨mark, item⟩ := entry
    cases mark with
    | none =>
      rw [metItems, hiddenItems, digests_append]
      exact (met_subperm item).append (metItems_subperm rest)
    | some salt =>
      rw [metItems, hiddenItems, digests_append]
      have own : digests lib ((salt, signedValue lib item) :: hiddenItems lib rest) =
        lib.sha256Base64Url (disclosure lib salt (signedValue lib item)) :: digests lib (hiddenItems lib rest) := rfl
      rw [own]
      have later : (metItems lib chosen rest).Subperm (digests lib (hiddenItems lib rest)) := metItems_subperm rest
      split
      · exact ((List.subperm_cons _).mpr ((met_subperm item).append later)).trans List.perm_middle.symm.subperm
      · exact ((List.subperm_cons _).mpr later).trans (List.sublist_append_right _ _).subperm

theorem metMembers_subperm (members : List (String × Draft N)) :
    (metMembers lib chosen members).Subperm (digests lib (hiddenMembers lib members)) := by
  cases members with
  | nil => exact nil_subperm
  | cons entry rest =>
    obtain ⟨name, member⟩ := entry
    rw [metMembers, hiddenMembers, digests_append]
    exact (met_subperm member).append (metMembers_subperm rest)

end

mutual

variable {text : String}

/-- Every chosen disclosure of a draft is met, when those around it are chosen. -/
theorem mem_met {draft : Draft N} (closed : Closed lib chosen draft) (own : text ∈ disclosures lib (hidden lib draft))
    (chosen_ : text ∈ chosen) : lib.sha256Base64Url text ∈ met lib chosen draft := by
  cases draft with
  | array items => exact mem_metItems closed own chosen_
  | object members => exact mem_metMembers closed own chosen_
  | null => exact (not_mem_nil own).elim
  | bool b => exact (not_mem_nil own).elim
  | number n => exact (not_mem_nil own).elim
  | string s => exact (not_mem_nil own).elim

theorem mem_metItems {items : List (Option String × Draft N)} (closed : ClosedItems lib chosen items)
    (own : text ∈ disclosures lib (hiddenItems lib items)) (chosen_ : text ∈ chosen) :
    lib.sha256Base64Url text ∈ metItems lib chosen items := by
  cases items with
  | nil => exact (not_mem_nil own).elim
  | cons entry rest =>
    obtain ⟨mark, item⟩ := entry
    cases mark with
    | none =>
      obtain ⟨inner, others⟩ := closed
      rw [hiddenItems, disclosures_append, mem_append] at own
      rw [metItems, mem_append]
      rcases own with here | later
      · exact .inl (mem_met inner here chosen_)
      · exact .inr (mem_metItems others later chosen_)
    | some salt =>
      obtain ⟨around, inner, others⟩ := closed
      rw [hiddenItems, disclosures_append, mem_append] at own
      rw [metItems]
      by_cases outer : disclosure lib salt (signedValue lib item) ∈ chosen
      · rw [if_pos outer, mem_cons, mem_append]
        rcases own with here | later
        · exact .inr (.inl (mem_met inner here chosen_))
        · rcases mem_cons.mp later with rfl | later
          · exact .inl rfl
          · exact .inr (.inr (mem_metItems others later chosen_))
      · rw [if_neg outer, mem_cons]
        rcases own with here | later
        · exact (around outer text here chosen_).elim
        · rcases mem_cons.mp later with rfl | later
          · exact .inl rfl
          · exact .inr (mem_metItems others later chosen_)

theorem mem_metMembers {members : List (String × Draft N)} (closed : ClosedMembers lib chosen members)
    (own : text ∈ disclosures lib (hiddenMembers lib members)) (chosen_ : text ∈ chosen) :
    lib.sha256Base64Url text ∈ metMembers lib chosen members := by
  cases members with
  | nil => exact (not_mem_nil own).elim
  | cons entry rest =>
    obtain ⟨name, member⟩ := entry
    obtain ⟨inner, others⟩ := closed
    rw [hiddenMembers, disclosures_append, mem_append] at own
    rw [metMembers, mem_append]
    rcases own with here | later
    · exact .inl (mem_met inner here chosen_)
    · exact .inr (mem_metMembers others later chosen_)

end

/-! ### Issuing and verifying -/

/-- What is documented of the libraries, said of one token: JSON and base64url texts are read back, a compact JWS has
    three segments of base64url and verifies with the signer's public key, and SHA-256 does not collide. -/
structure Documented (lib : Libraries N K) (signer : Ap2Signer K) (issuerKey : Ap2PublicJwk) (claims : Members N)
    (values : List (String × Value N)) : Prop where
  header : lib.decodeProtectedHeader (issuerJwt lib claims signer) = some (issuedHeader signer)
  verifies : lib.compactVerify issuerKey (algForKey issuerKey) (issuerJwt lib claims signer) =
    some (lib.stringify (issuedPayload claims))
  segments : (split '.' (issuerJwt lib claims signer)).length = 3
  compactText : '~' ∉ (issuerJwt lib claims signer).toList
  payload : lib.parse (lib.stringify (issuedPayload claims)) = some (issuedPayload claims)
  disclosed : ∀ salt value, (salt, value) ∈ values →
    lib.parse (lib.fromBase64Url (disclosure lib salt value)) = some (.array [.string salt, value])
  base64Url : ∀ text ∈ disclosures lib values, text ≠ "" ∧ '~' ∉ text.toList
  collisionFree : ∀ a ∈ disclosures lib values, ∀ b ∈ disclosures lib values,
    lib.sha256Base64Url a = lib.sha256Base64Url b → a = b

variable {signer : Ap2Signer K} {issuerKey : Ap2PublicJwk} {claims : Members N} {values : List (String × Value N)}

theorem Documented.decodes (documented : Documented lib signer issuerKey claims values) {salt : String} {value : Value N}
    (member : (salt, value) ∈ values) : decodeDisclosure lib (disclosure lib salt value) = .ok (.element value) :=
  decodeDisclosure_element (documented.disclosed salt value member)

/-- Fresh salts make different disclosures, and these have different digests. -/
theorem Documented.distinct (documented : Documented lib signer issuerKey claims values) (salts : (values.map Prod.fst).Nodup) :
    (digests lib values).Nodup := by
  rw [digests, List.nodup_map_iff_inj_on]
  · exact documented.collisionFree
  · rw [disclosures, List.nodup_map_iff_inj_on]
    · rintro ⟨salt, value⟩ first ⟨salt', value'⟩ second same
      have read := documented.disclosed salt value first
      dsimp only at same
      rw [same, documented.disclosed salt' value' second] at read
      cases read
      rfl
    · exact salts.of_map

theorem signedClaims_issued (free : "_sd_alg" ∉ names claims) : signedClaims (some (issuedPayload claims)) = .ok claims := by
  have added : setMember claims "_sd_alg" (.string AP2_SD_ALG) = claims ++ [("_sd_alg", .string AP2_SD_ALG)] := if_neg free
  have other : ∀ entry ∈ claims, entry.1 ≠ "_sd_alg" := by
    intro entry member same
    exact free (mem_map.mpr ⟨entry, member, same⟩)
  have absent : claims.lookup "_sd_alg" = none := by
    rw [List.lookup_eq_none_iff]
    exact fun entry member => bne_iff_ne.mpr (Ne.symm (other entry member))
  have found : (claims ++ [("_sd_alg", Value.string AP2_SD_ALG)]).lookup "_sd_alg" = some (.string AP2_SD_ALG) := by
    rw [List.lookup_append, absent]
    rfl
  have kept : (claims ++ [("_sd_alg", Value.string AP2_SD_ALG)]).filter (·.1 ≠ "_sd_alg") = claims := by
    rw [List.filter_append, List.filter_eq_self.mpr fun entry member => decide_eq_true (other entry member)]
    simp
  rw [issuedPayload, added, signedClaims, found, kept]
  simp [isText]

section
variable (documented : Documented lib signer issuerKey claims values)
include documented

theorem Documented.issuer (free : "_sd_alg" ∉ names claims) (alg : signer.alg = algForKey issuerKey) :
    verifyIssuer lib (issuerJwt lib claims signer) issuerKey = .ok (issuedHeader signer, claims) := by
  refine verifyIssuer_eq lib documented.header ?_ ?_ documented.verifies ?_
  · simp [issuedHeader, isText, alg]
  · simp [issuedHeader, isText]
  · rw [documented.payload, signedClaims_issued free]

theorem Documented.tabled (distinct : chosen.Nodup)
    (own : ∀ text ∈ chosen, text ∈ disclosures lib values) : ∃ table, byDigest lib [] chosen = .ok table := by
  apply byDigest_runs
  · intro text member
    obtain ⟨⟨salt, value⟩, hides, rfl⟩ := mem_map.mp (own text member)
    exact ⟨_, documented.decodes hides⟩
  · rw [List.map_nil, List.nil_append, List.nodup_map_iff_inj_on distinct]
    exact fun a first b second => documented.collisionFree a (own a first) b (own b second)

theorem Documented.shows_ {table : Table N} (built : byDigest lib [] chosen = .ok table)
    (own : ∀ text ∈ chosen, text ∈ disclosures lib values) : Shows lib chosen table values := by
  intro salt value member
  have of := tableOf_ok built
  have mine : disclosure lib salt value ∈ disclosures lib values := mem_map.mpr ⟨_, member, rfl⟩
  split
  · rename_i chosen_
    exact of.lookup_iff.mpr ⟨_, chosen_, rfl, documented.decodes member⟩
  · rename_i withheld
    rw [Option.eq_none_iff_forall_ne_some]
    intro found known
    obtain ⟨text, presented, same, _⟩ := of.lookup_iff.mp known
    rw [documented.collisionFree _ mine _ (own text presented) same] at withheld
    exact withheld presented

end

/-- A presented token is verified to the claims, with the elements missing that were withheld. -/
theorem verify_present (free : FreeMembers members)
    (documented : Documented lib signer issuerKey (signedMembers lib members) (hiddenMembers lib members))
    (unnamed : "_sd_alg" ∉ members.map Prod.fst) (alg : signer.alg = algForKey issuerKey)
    (salts : ((hiddenMembers lib members).map Prod.fst).Nodup) (distinct : chosen.Nodup)
    (own : ∀ text ∈ chosen, text ∈ disclosures lib (hiddenMembers lib members)) (closed : ClosedMembers lib chosen members)
    (given : List String) :
    verifySdJwt lib (present (issueSdJwt lib (signedMembers lib members) given signer) chosen) issuerKey =
      .ok ⟨issuedHeader signer, .object (shownMembers lib chosen members)⟩ := by
  have jwt : (split '~' (issueSdJwt lib (signedMembers lib members) given signer)).headD "" =
      issuerJwt lib (signedMembers lib members) signer := by
    rw [issueSdJwt, compact, split_append documented.compactText]
    rfl
  have parsed := parseSdJwt_compact (N := N) documented.compactText documented.segments
    fun text member => documented.base64Url text (own text member)
  have issuer := documented.issuer (by rw [names_signedMembers]; exact unnamed) alg
  obtain ⟨table, built⟩ := documented.tabled distinct own
  have resolves : Resolves table (.value (.object (signedMembers lib members))) (metMembers lib chosen members)
      (.value (.object (shownMembers lib chosen members))) :=
    have open_ : Free (Draft.object members) := free
    resolves_shown open_ (documented.shows_ built own)
  have once : (metMembers lib chosen members).Nodup := by
    have part : (metMembers lib chosen members).Subperm (digests lib (hiddenMembers lib members)) :=
      metMembers_subperm members
    obtain ⟨met, perm, sublist⟩ := part
    exact perm.nodup_iff.mp ((documented.distinct salts).sublist sublist)
  have resolved := resolveDisclosures_complete built resolves once
    fun text member => mem_metMembers closed (own text member) member
  rw [present, jwt, verifySdJwt, parsed]
  change (thrown (verifyIssuer lib _ issuerKey) >>= _) = _
  rw [issuer]
  change (resolveDisclosures lib _ _ >>= _) = _
  rw [resolved]
  rfl

/-! ### What resolving disclosures promises -/

/-- What accepted claims become: the table has the disclosures under their digests, the claims are processed with it, every
    disclosure is used and none twice, and no object loses a signed claim to a disclosed one. -/
def Processed (lib : Libraries N K) (claims : Members N) (given : List String) (result : Value N) : Prop :=
  ∃ table used, TableOf lib given table ∧ Resolves table (.value (.object claims)) used (.value result) ∧
    used.Nodup ∧ (given.map lib.sha256Base64Url).Nodup ∧ (∀ text ∈ given, lib.sha256Base64Url text ∈ used) ∧
    ∀ ms used out, Resolves table (.value (.object ms)) used (.value (.object out)) → (names ms).Nodup →
      (names out).Nodup ∧ ∀ name v, (name, v) ∈ ms → name ≠ "_sd" →
        ∃ used r, (name, r) ∈ out ∧ Resolves table (.value v) used (.value r)

/-- No disclosed element is itself an object with a `...` member. -/
def PlainElements (lib : Libraries N K) (given : List String) : Prop :=
  ∀ text ∈ given, ∀ v, decodeDisclosure lib text = .ok (.element v) → marked v = none

/-- Every digest of a disclosure was used, so those that were used are plain when the disclosures are. -/
theorem plainElements_iff {used : List String} (of : TableOf lib given table)
    (all : ∀ text ∈ given, lib.sha256Base64Url text ∈ used) : Plain table used ↔ PlainElements lib given := by
  constructor
  · intro plain text member v decodes
    exact plain _ (all text member) v (of.lookup_iff.mpr ⟨text, member, rfl, decodes⟩)
  · intro plain d _ v known
    obtain ⟨text, member, _, decodes⟩ := of.lookup_iff.mp known
    exact plain text member v decodes

theorem processed {result : Value N} (ok : resolveDisclosures lib claims given = .ok result) :
    Processed lib claims given result ∧ everywhere Unreserved result ∧
      (everywhere Unmarked result ↔ PlainElements lib given) := by
  obtain ⟨table, used, built, resolves, once, all⟩ := resolveDisclosuresTo_ok ok
  have of := tableOf_ok built
  have distinct : (given.map lib.sha256Base64Url).Nodup := of.digests ▸ of.distinct
  refine ⟨⟨table, used, of, resolves, once, distinct, all, ?_⟩, unreservedOf of.named resolves, ?_⟩
  · exact fun ms used out object names_ => object.not_overwritten of.named names_
  · exact (unmarkedOf of.named resolves).trans (plainElements_iff of all)

/-- A draft, and a choice of its disclosures that can be presented. -/
structure Presentable (lib : Libraries N K) (signer : Ap2Signer K) (issuerKey : Ap2PublicJwk)
    (members : List (String × Draft N)) (chosen : List String) : Prop where
  free : FreeMembers members
  unnamed : "_sd_alg" ∉ members.map Prod.fst
  salts : ((hiddenMembers lib members).map Prod.fst).Nodup
  alg : signer.alg = algForKey issuerKey
  documented : Documented lib signer issuerKey (signedMembers lib members) (hiddenMembers lib members)
  distinct : chosen.Nodup
  own : ∀ text ∈ chosen, text ∈ disclosures lib (hiddenMembers lib members)
  closed : ClosedMembers lib chosen members

/-- Resolving disclosures ends on whatever it is given. What it accepts is processed as it should be, but for a `...`
    placeholder that a disclosed element brings with it. And what was issued is verified to what was chosen to be shown. -/
theorem disclosures_resolve (lib : Libraries N K) : (∀ claims given,
      (∀ depth, given.length ≤ depth → resolveDisclosuresTo lib depth claims given = resolveDisclosures lib claims given) ∧
      resolveDisclosures lib claims given ≠ .error .tooDeep ∧
      ∀ result, resolveDisclosures lib claims given = .ok result →
        Processed lib claims given result ∧ everywhere Unreserved result ∧
          (everywhere Unmarked result ↔ PlainElements lib given)) ∧
    ∀ signer issuerKey members chosen, Presentable lib signer issuerKey members chosen →
      ∀ claims sink, concealMembers lib members [] = (claims, sink) →
        verifySdJwt lib (present (issueSdJwt lib claims sink signer) chosen) issuerKey =
          .ok ⟨issuedHeader signer, .object (shownMembers lib chosen members)⟩ := by
  refine ⟨fun claims given => ⟨fun depth enough => ?_, ?_, fun result ok => processed ok⟩, ?_⟩
  · exact (resolveDisclosures_ends claims given enough).1
  · exact (resolveDisclosures_ends claims given (Nat.le_refl _)).2
  · intro signer issuerKey members chosen ready claims sink concealed
    rw [concealMembers_eq] at concealed
    cases concealed
    exact verify_present ready.free ready.documented ready.unnamed ready.alg ready.salts ready.distinct ready.own
      ready.closed _

/-! ### Two regions, one of them withheld -/

/-- The disclosures of two regions, and of an element that is a placeholder itself. -/
def france : String := "WyJjMkZzZERFIiwiRlIiXQ"
def germany : String := "WyJjMkZzZERJIiwiREUiXQ"
def nested : String := "WyJjMkZzZERNIix7Ii4uLiI6IngifV0"

def franceDigest : String := "lAthELSw5B6Seu6T--bXMshJkXBFJVIgmyvc3UkvEVA"
def germanyDigest : String := "Hjp_IcqHSejWhiTC6UaRDv7mxcS38rlLUuxM4CSOhEA"
def nestedDigest : String := "sJkFo3mEQvPgfjB2sbQ6aNPvqlVa6E1JSOZ1YXWmYcU"

def agentHeader : String := "eyJhbGciOiJFZERTQSIsInR5cCI6ImRjK3NkLWp3dCIsImtpZCI6ImFnZW50In0"
def agentClaims : String :=
  "eyJyZWdpb25zIjpbeyIuLi4iOiJsQXRoRUxTdzVCNlNldTZULS1iWE1zaEprWEJGSlZJZ215dmMzVWt2RVZBIn0seyIuLi4iOiJIanBfSWNxSFNl" ++
    "aldoaVRDNlVhUkR2N214Y1MzOHJsTFV1eE00Q1NPaEVBIn1dLCJfc2RfYWxnIjoic2hhLTI1NiJ9"
def agentSignature : String :=
  "ehis1OX2kDhRCm7FuPirg-8syt0R29zvnt19i05meH1d2y4FYPE9b-klPkptdx6XH5waDfe4xVhb-dX-VArKCA"
def agentJwt : String := agentHeader ++ "." ++ agentClaims ++ "." ++ agentSignature

def agentSigner : Ap2Signer String := ⟨.EdDSA, "FTntLDCXywsqASGXR_exWiBKK6c4mBWktVwww_uM9K8", "agent"⟩
def agentKey : Ap2PublicJwk := .OKP "xiuM8J0vPzsKeHiZ1O5YqzKp2qIKEXfyEJ-tS47C6OM"

def regions : List (String × Draft Nat) :=
  [("regions", .array [(some "c2FsdDE", .string "FR"), (some "c2FsdDI", .string "DE")])]

def regionLibraries : Libraries Nat String where
  sha256Base64Url text :=
    if text = france then franceDigest else if text = germany then germanyDigest else nestedDigest
  stringify value :=
    match value with
    | .array [.string salt, .string region] => "[\"" ++ salt ++ "\",\"" ++ region ++ "\"]"
    | _ => "\x7b\"regions\":[\x7b\"...\":\"" ++ franceDigest ++ "\"\x7d,\x7b\"...\":\"" ++ germanyDigest ++
        "\"\x7d],\"_sd_alg\":\"sha-256\"\x7d"
  parse text :=
    if text = "[\"c2FsdDE\",\"FR\"]" then some (.array [.string "c2FsdDE", .string "FR"])
    else if text = "[\"c2FsdDI\",\"DE\"]" then some (.array [.string "c2FsdDI", .string "DE"])
    else if text = "[\"c2FsdDM\",\x7b\"...\":\"x\"\x7d]" then some (.array [.string "c2FsdDM", placeholder "x"])
    else some (.object [("regions", .array [placeholder franceDigest, placeholder germanyDigest]),
      ("_sd_alg", .string "sha-256")])
  base64Url text := if text = "[\"c2FsdDE\",\"FR\"]" then france else germany
  fromBase64Url text :=
    if text = france then "[\"c2FsdDE\",\"FR\"]" else if text = germany then "[\"c2FsdDI\",\"DE\"]"
    else "[\"c2FsdDM\",\x7b\"...\":\"x\"\x7d]"
  sign _ _ _ := agentJwt
  decodeProtectedHeader _ := some (issuedHeader agentSigner)
  compactVerify _ _ _ := some ("\x7b\"regions\":[\x7b\"...\":\"" ++ franceDigest ++ "\"\x7d,\x7b\"...\":\"" ++
    germanyDigest ++ "\"\x7d],\"_sd_alg\":\"sha-256\"\x7d")

/-- A disclosed element that is a placeholder itself is left in the result. -/
theorem nested_placeholder_disclosed : ∃ result,
    resolveDisclosures regionLibraries [("regions", .array [placeholder nestedDigest])] [nested] = .ok result ∧
      ¬everywhere Unmarked result := by
  refine ⟨.object [("regions", .array [placeholder "x"])], rfl, ?_⟩
  rintro ⟨_, ⟨unmarked, _⟩, _⟩
  have none_ := unmarked (placeholder "x") List.mem_cons_self
  cases none_

theorem agentJwt_segments : split '.' agentJwt = [agentHeader, agentClaims, agentSignature] ∧ '~' ∉ agentJwt.toList := by
  refine compactJws_segments ?_ ?_ ?_
  · unfold agentHeader
    exact segment_ofList (by decide)
  · unfold agentClaims
    exact (segment_ofList (by decide)).append (segment_ofList (by decide))
  · unfold agentSignature
    exact segment_ofList (by decide)

theorem regions_presentable : Presentable regionLibraries agentSigner agentKey regions [germany] where
  free := ⟨by decide, ⟨trivial, trivial, trivial⟩, trivial⟩
  unnamed := by decide
  salts := by decide
  alg := rfl
  documented :=
    { header := rfl
      verifies := rfl
      segments := congrArg List.length agentJwt_segments.1
      compactText := agentJwt_segments.2
      payload := rfl
      disclosed := by
        intro salt value member
        have one : (salt, value) = ("c2FsdDE", .string "FR") ∨ (salt, value) = ("c2FsdDI", .string "DE") := by
          simpa [regions, hiddenMembers, hiddenItems, hidden, signedValue] using member
        rcases one with france_ | germany_
        · cases france_
          rfl
        · cases germany_
          rfl
      base64Url := by decide
      collisionFree := by decide }
  distinct := by decide
  own := by decide
  closed := by
    refine ⟨⟨fun _ text member => ?_, trivial, fun _ text member => ?_, trivial, trivial⟩, trivial⟩
    · cases member
    · cases member

theorem regions_resolve :
    verifySdJwt regionLibraries
        (present (issueSdJwt regionLibraries (signedMembers regionLibraries regions) [france, germany] agentSigner) [germany])
        agentKey =
      .ok ⟨issuedHeader agentSigner, .object [("regions", .array [.string "DE"])]⟩ :=
  (disclosures_resolve regionLibraries).2 agentSigner agentKey regions [germany] regions_presentable _ _ rfl

end AgentPey.SdJwtRoundTrip
