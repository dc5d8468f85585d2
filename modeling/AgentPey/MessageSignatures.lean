import AgentPey.HttpSignatures
import Mathlib.Data.List.TakeWhile

/-!
Two requests that are accepted under one signature are one request, and what a store signs is accepted. The base of a
request is read from the left: no name in it has a quote and no value a line break, so one base has one reading.
-/
namespace AgentPey.MessageSignatures
open HttpSignatures
open List (append_assoc append_inj' cons_append cons_eq_cons map_cons mem_cons mem_cons_of_mem mem_cons_self)

variable {lib : Libraries}

/-! ### Names without quotes -/

variable {mark c : Char} {rest part name list : List Char} {names : List (List Char)} {text params base header : String}
   {member : SignatureInputMember} {components components' : List String} {reason : SignatureFailure} {refusal : Refusal}
   {input : VerifySignatureInput} {check : SignatureCheck} {url : Url} {key : EcPublicJwk}

theorem before_mark {a b rest' : List Char} (plain : mark ∉ a) (plain' : mark ∉ b)
    (same : a ++ mark :: rest = b ++ mark :: rest') : a = b ∧ rest = rest' := by
  induction a generalizing b with
  | nil =>
    cases b with
    | nil =>
      cases same
      exact ⟨rfl, rfl⟩
    | cons c b =>
      cases same
      exact (plain' mem_cons_self).elim
  | cons c a ih =>
    cases b with
    | nil =>
      cases same
      exact (plain mem_cons_self).elim
    | cons d b =>
      rw [cons_append, cons_append, cons_eq_cons] at same
      obtain ⟨rfl, same⟩ := same
      obtain ⟨rfl, rests⟩ := ih (fun member => plain (mem_cons_of_mem _ member))
        (fun member => plain' (mem_cons_of_mem _ member)) same
      exact ⟨rfl, rests⟩

theorem splitOn_infix (mark : Char) (text : List Char) :
    ∃ first others, text.splitOn mark = first :: others ∧ first <+: text ∧ ∀ part ∈ others, part <:+: text := by
  induction text with
  | nil => exact ⟨[], [], rfl, List.prefix_refl _, fun part member => (List.not_mem_nil member).elim⟩
  | cons c rest ih =>
    obtain ⟨first, others, split, starts, within⟩ := ih
    have later : ∀ part, part <:+: rest → part <:+: c :: rest := fun part infix_ => infix_.trans (List.suffix_cons c rest).isInfix
    rw [List.splitOn_cons_eq_if_modifyHead, split]
    split
    · refine ⟨[], first :: others, rfl, List.nil_prefix, fun part member => later part ?_⟩
      rcases mem_cons.mp member with rfl | member
      · exact starts.isInfix
      · exact within part member
    · exact ⟨c :: first, others, rfl, List.cons_prefix_cons.mpr ⟨rfl, starts⟩, fun part member => later part (within part member)⟩

theorem infix_of_splitOn {text : List Char} (member : part ∈ text.splitOn mark) : part <:+: text := by
  obtain ⟨first, others, split, starts, within⟩ := splitOn_infix mark text
  rw [split] at member
  rcases mem_cons.mp member with rfl | member
  · exact starts.isInfix
  · exact within part member

theorem inner_of_infix (plain : '"' ∉ name) (within : part <:+: '"' :: (name ++ ['"'])) : '"' ∉ (part.drop 1).dropLast := by
  obtain ⟨before, after, same⟩ := within
  cases part with
  | nil => simp
  | cons first part =>
    rcases List.eq_nil_or_concat part with rfl | ⟨inner, last, rfl⟩
    · simp
    intro quote
    rw [List.drop_succ_cons, List.drop_zero, List.concat_eq_append, List.dropLast_concat] at quote
    -- The inner part stands between the first and the last character of the quoted name.
    have shape : (before ++ [first]) ++ inner ++ (last :: after) = ['"'] ++ (name ++ ['"']) := by
      simpa [append_assoc] using same
    have tail : inner <:+: name := by
      cases before with
      | nil =>
        rw [List.nil_append, append_assoc, List.singleton_append, List.singleton_append, cons_eq_cons] at shape
        obtain ⟨_, shape⟩ := shape
        rcases List.eq_nil_or_concat after with rfl | ⟨after, d, rfl⟩
        · obtain ⟨rfl, _⟩ := append_inj' shape rfl
          exact List.infix_refl _
        · rw [List.concat_eq_append, ← cons_append, ← append_assoc] at shape
          obtain ⟨rfl, _⟩ := append_inj' shape rfl
          exact ⟨[], last :: after, by simp⟩
      | cons b before =>
        rw [cons_append, cons_append, cons_append, List.singleton_append, cons_eq_cons] at shape
        obtain ⟨_, shape⟩ := shape
        rcases List.eq_nil_or_concat after with rfl | ⟨after, d, rfl⟩
        · obtain ⟨rfl, _⟩ := append_inj' shape rfl
          exact ⟨before ++ [first], [], by simp⟩
        · rw [List.concat_eq_append, ← cons_append, ← append_assoc] at shape
          obtain ⟨rfl, _⟩ := append_inj' shape rfl
          exact ⟨before ++ [first], last :: after, by simp⟩
    exact plain (tail.subset quote)

def listOf : List (List Char) → List Char
  | [] => []
  | [name] => '"' :: (name ++ ['"'])
  | name :: rest => '"' :: (name ++ ['"']) ++ ' ' :: listOf rest

theorem inner_of_listOf (plain : ∀ name ∈ names, '"' ∉ name)
    (member : part ∈ (listOf names).splitOn ' ') : '"' ∉ (part.drop 1).dropLast := by
  induction names with
  | nil =>
    rw [listOf] at member
    rw [List.mem_singleton.mp member]
    simp
  | cons name rest ih =>
    have here := plain name mem_cons_self
    cases rest with
    | nil => exact inner_of_infix here (infix_of_splitOn member)
    | cons next rest =>
      rw [listOf, List.splitOn_append_cons_self, List.mem_append] at member
      · rcases member with first | later
        · exact inner_of_infix here (infix_of_splitOn first)
        · exact ih (fun name member => plain name (mem_cons_of_mem _ member)) later
      · exact List.cons_ne_nil _ _

/-- What a reader of an inner list reads, by where it starts: names, the rest of a name and more names, or more names. -/
def ReadFrom : Spot → List Char → Prop
  | .opening, list => ∃ first names, list = listOf (first :: names) ∧ ∀ name ∈ first :: names, '"' ∉ name
  | .inside _, list => ∃ first names, '"' :: list = listOf (first :: names) ∧ ∀ name ∈ first :: names, '"' ∉ name
  | .after, list =>
    list = [] ∨ ∃ first names, list = ' ' :: listOf (first :: names) ∧ ∀ name ∈ first :: names, '"' ∉ name

theorem listOf_inside (same : '"' :: list = listOf (name :: names)) : '"' :: c :: list = listOf ((c :: name) :: names) := by
  cases names with
  | nil =>
    cases same
    rfl
  | cons next rest =>
    cases same
    rfl

theorem onward_some {read : Option (List Char × List Char)}
    (ok : innerList.onward c read = some (list, rest)) : ∃ list', list = c :: list' ∧ read = some (list', rest) := by
  cases read with
  | none => cases ok
  | some found =>
    obtain ⟨list', rest'⟩ := found
    cases ok
    exact ⟨list', rfl, rfl⟩

theorem innerList_read {text : List Char} : ∀ {spot : Spot}, innerList spot text = some (list, rest) →
    ReadFrom spot list := by
  induction text generalizing list rest with
  | nil =>
    intro spot ok
    cases spot <;> cases ok
  | cons c text ih =>
    intro spot ok
    cases spot with
    | opening =>
      by_cases quote : c = '"'
      · subst quote
        obtain ⟨list, rfl, read⟩ := onward_some ok
        have inside : ReadFrom (.inside true) list := ih read
        exact inside
      · simp [innerList, quote] at ok
    | inside empty =>
      by_cases quote : c = '"'
      · subst quote
        rw [innerList] at ok
        split at ok
        · cases ok
        · obtain ⟨list, rfl, read⟩ := onward_some ok
          rcases ih read with rfl | ⟨next, names, rfl, plain⟩
          · exact ⟨[], [], rfl, by simp⟩
          · exact ⟨[], next :: names, rfl, by simpa using plain⟩
      · rw [innerList] at ok
        split at ok
        · cases ok
        · obtain ⟨list, rfl, read⟩ := onward_some ok
          obtain ⟨name, names, same, plain⟩ := ih read
          refine ⟨c :: name, names, listOf_inside same, ?_⟩
          intro other member
          rcases mem_cons.mp member with same | member
          · have before := plain name mem_cons_self
            simp [same, before, Ne.symm quote]
          · exact plain other (mem_cons_of_mem _ member)
        · exact fun same => quote same
    | after =>
      by_cases space : c = ' '
      · subst space
        obtain ⟨list, rfl, read⟩ := onward_some ok
        obtain ⟨first, names, rfl, plain⟩ := ih read
        exact .inr ⟨first, names, rfl, plain⟩
      · by_cases close : c = ')'
        · subst close
          cases ok
          exact .inl rfl
        · simp [innerList, space, close] at ok

theorem components_plain (ok : signatureInputMember text = some member) :
    ∀ name ∈ componentsOf member.list, '"' ∉ name.toList := by
  have read : ∀ list, member.list = some list → ReadFrom .opening list := by
    unfold signatureInputMember at ok
    dsimp only at ok
    split at ok
    · obtain ⟨⟨list, parameters⟩, inList, ok⟩ := Option.bind_eq_some_iff.mp ok
      dsimp only at ok
      split at ok
      · cases ok
        intro text same
        cases same
        unfold signatureInputMember.inList at inList
        split at inList
        · cases inList
        · obtain ⟨⟨found, rest⟩, listed, same⟩ := Option.map_eq_some_iff.mp inList
          cases same
          exact innerList_read listed
      · cases ok
    · cases ok
  intro name mem
  cases listed : member.list with
  | none =>
    rw [listed] at mem
    cases mem
  | some list =>
    rw [listed] at mem
    obtain ⟨part, within, rfl⟩ := List.mem_map.mp mem
    obtain ⟨first, names, rfl, plain⟩ := read list listed
    rw [String.toList_ofList]
    exact inner_of_listOf plain within

/-! ### One base, one reading -/

theorem componentLine_some {name line : String} {value : Option String} (ok : componentLine name value = some line) :
    ∃ v, value = some v ∧ '\n' ∉ v.toList ∧ line.toList = '"' :: (name.toList ++ '"' :: ':' :: ' ' :: v.toList) := by
  cases value with
  | none => cases ok
  | some v =>
    unfold componentLine at ok
    dsimp only at ok
    split at ok
    · cases ok
    · rename_i plain
      cases ok
      exact ⟨v, rfl, fun member => plain (.inr member), by simp⟩

/-- The last line is no component's: `@signature-params` has no value. -/
def Unsigned (value : String → Option String) : Prop := value "@signature-params" = none

variable {value : String → Option String}

theorem signatureBase_nil (ok : signatureBase [] params value = some base) :
    base.toList = '"' :: ("@signature-params".toList ++ '"' :: ':' :: ' ' :: params.toList) := by
  cases ok
  simp

theorem signatureBase_cons {name : String} {rest : List String} (ok : signatureBase (name :: rest) params value = some base) :
    ∃ v later, value name = some v ∧ '\n' ∉ v.toList ∧ signatureBase rest params value = some later ∧
      base.toList = '"' :: (name.toList ++ '"' :: ':' :: ' ' :: (v.toList ++ '\n' :: later.toList)) := by
  rw [signatureBase] at ok
  obtain ⟨line, lined, ok⟩ := Option.bind_eq_some_iff.mp ok
  obtain ⟨later, rests, ok⟩ := Option.bind_eq_some_iff.mp ok
  obtain ⟨v, known, plain, characters⟩ := componentLine_some lined
  cases ok
  exact ⟨v, later, known, plain, rests, by simp [characters]⟩

theorem names_eq {name' : List Char} {rest' : List Char} (plain : '"' ∉ name) (plain' : '"' ∉ name')
    (same : '"' :: (name ++ '"' :: ':' :: ' ' :: rest) = '"' :: (name' ++ '"' :: ':' :: ' ' :: rest')) :
    name = name' ∧ rest = rest' := by
  rw [List.cons_eq_cons] at same
  obtain ⟨names, rests⟩ := before_mark plain plain' same.2
  cases rests
  exact ⟨names, rfl⟩

/-- A base has one reading: its components, their values and the parameters. -/
theorem signatureBase_inj {params' : String} {value value' : String → Option String}
    (plain : ∀ name ∈ components, '"' ∉ name.toList) (plain' : ∀ name ∈ components', '"' ∉ name.toList)
    (unsigned : Unsigned value) (unsigned' : Unsigned value') (ok : signatureBase components params value = some base)
    (ok' : signatureBase components' params' value' = some base) :
    components = components' ∧ params = params' ∧ ∀ name ∈ components, value name = value' name := by
  have last : '"' ∉ "@signature-params".toList := by decide
  induction components generalizing components' base with
  | nil =>
    have lines := signatureBase_nil ok
    cases components' with
    | nil =>
      rw [signatureBase_nil ok', cons_eq_cons] at lines
      have params_ := List.append_cancel_left lines.2
      have same : params = params' := String.toList_inj.mp (by simpa using params_.symm)
      exact ⟨rfl, same, by simp⟩
    | cons name' rest' =>
      obtain ⟨v, _, known, _, _, lines'⟩ := signatureBase_cons ok'
      rw [lines] at lines'
      obtain ⟨same, _⟩ := names_eq last (plain' name' mem_cons_self) lines'
      rw [← String.toList_inj.mp same, unsigned'] at known
      cases known
  | cons name rest ih =>
    obtain ⟨v, later, known, line, rests, lines⟩ := signatureBase_cons ok
    cases components' with
    | nil =>
      rw [signatureBase_nil ok'] at lines
      obtain ⟨same, _⟩ := names_eq last (plain name mem_cons_self) lines
      rw [← String.toList_inj.mp same, unsigned] at known
      cases known
    | cons name' rest' =>
      obtain ⟨v', later', known', line', rests', lines'⟩ := signatureBase_cons ok'
      rw [lines] at lines'
      obtain ⟨same, tails⟩ := names_eq (plain name mem_cons_self) (plain' name' mem_cons_self) lines'
      obtain ⟨values, laters⟩ := before_mark line line' tails
      have same := String.toList_inj.mp same
      have values := String.toList_inj.mp values
      have laters := String.toList_inj.mp laters
      subst same values laters
      obtain ⟨rfl, rfl, agree⟩ := ih (fun name member => plain name (mem_cons_of_mem _ member))
        (fun name member => plain' name (mem_cons_of_mem _ member)) rests rests'
      refine ⟨rfl, rfl, fun other member => ?_⟩
      rcases mem_cons.mp member with rfl | member
      · exact known.trans known'.symm
      · exact agree other member

theorem signatureBase_values
    (ok : signatureBase components params value = some base) : ∀ name ∈ components, value name ≠ none := by
  induction components generalizing base with
  | nil => exact fun name member => (List.not_mem_nil member).elim
  | cons first rest ih =>
    obtain ⟨v, later, known, _, rests, _⟩ := signatureBase_cons ok
    intro name member
    rcases mem_cons.mp member with rfl | member
    · simp [known]
    · exact ih rests name member

/-- The base of these values, when no value has a line break. -/
theorem signatureBase_lines {names values : List String} (known : names.map value = values.map some)
    (plain : ∀ v ∈ values, '\r' ∉ v.toList ∧ '\n' ∉ v.toList)
    (written : base.toList = ((names.zip values).flatMap fun line =>
      '"' :: (line.1.toList ++ '"' :: ':' :: ' ' :: (line.2.toList ++ ['\n']))) ++
        ("\"@signature-params\": " ++ params).toList) : signatureBase names params value = some base := by
  induction names generalizing values base with
  | nil => exact congrArg some (String.toList_inj.mp written.symm)
  | cons name names ih =>
    cases values with
    | nil => cases known
    | cons v values =>
      rw [map_cons, map_cons, cons_eq_cons] at known
      have here := plain v mem_cons_self
      have later := ih known.2 (fun v member => plain v (mem_cons_of_mem _ member)) String.toList_ofList
      rw [signatureBase, known.1, componentLine, if_neg (by tauto), later]
      exact congrArg some (String.toList_inj.mp (by simp [written]))

/-! ### Accepted requests -/

theorem bind_ok {α β : Type} {x : Except Refusal α} {f : α → Except Refusal β} {b : β} (ok : (x >>= f) = .ok b) :
    ∃ a, x = .ok a ∧ f a = .ok b := by
  cases x with
  | error e => cases ok
  | ok a => exact ⟨a, rfl, ok⟩

theorem ensure_ok {condition : Prop} [Decidable condition] {u : Unit} (ok : ensure condition reason = .ok u) : condition := by
  unfold ensure at ok
  split at ok
  · assumption
  · cases ok

theorem orFail_ok {α : Type} {value : Option α} {a : α} (ok : orFail value refusal = .ok a) : value = some a := by
  cases value with
  | none => cases ok
  | some found =>
    cases ok
    rfl

/-- What an accepted request shows. -/
structure Accepted (lib : Libraries) (input : VerifySignatureInput) (header : String) (url : Url) (components : List String)
    (params : String) (base : String) (key : EcPublicJwk) (signature : Bytes) : Prop where
  headed : (input.headers "signature").map trim = some header
  located : lib.url input.url = some url
  digest : input.body ≠ [] → (input.headers "content-digest").map trim = some (contentDigest lib input.body)
  covers : ∀ name ∈ required input url, name ∈ components
  plain : ∀ name ∈ components, '"' ∉ name.toList
  valued : ∃ label text, '=' ∉ label.toList ∧ signatureValue label header = some text ∧ lib.fromBase64 text = signature
  based : signatureBase components params (fun name => componentValue lib name input.method url input.headers) = some base
  verified : lib.verify key base signature = some true

theorem label_plain (ok : signatureInputMember text = some member) : '=' ∉ member.label.toList := by
  unfold signatureInputMember at ok
  dsimp only at ok
  split at ok
  · obtain ⟨⟨list, parameters⟩, _, ok⟩ := Option.bind_eq_some_iff.mp ok
    dsimp only at ok
    split at ok
    · cases ok
      rw [String.toList_ofList]
      intro equals
      have all := List.mem_takeWhile_imp equals
      simp at all
    · cases ok
  · cases ok

theorem verify_accepted (ok : verifyHttpMessageSignature lib input = .ok check) : ∃ header url member base key signature,
      Accepted lib input header url (componentsOf member.list) member.params base key signature ∧
        ((input.headers "signature-input").map trim).bind signatureInputMember = some member ∧
        input.keyFor check.keyid = some key ∧ check.created = (parameter member.params "created").map lib.number := by
  obtain ⟨signatureInput, given, ok⟩ := bind_ok ok
  obtain ⟨header, headed, ok⟩ := bind_ok ok
  obtain ⟨_, digest, ok⟩ := bind_ok ok
  obtain ⟨member, read, ok⟩ := bind_ok ok
  obtain ⟨keyid, _, ok⟩ := bind_ok ok
  obtain ⟨_, _, ok⟩ := bind_ok ok
  obtain ⟨_, _, ok⟩ := bind_ok ok
  obtain ⟨_, _, ok⟩ := bind_ok ok
  obtain ⟨url, located, ok⟩ := bind_ok ok
  obtain ⟨_, covers, ok⟩ := bind_ok ok
  obtain ⟨text, valued, ok⟩ := bind_ok ok
  obtain ⟨key, known, ok⟩ := bind_ok ok
  obtain ⟨_, _, ok⟩ := bind_ok ok
  obtain ⟨base, based, ok⟩ := bind_ok ok
  obtain ⟨_, _, ok⟩ := bind_ok ok
  obtain ⟨valid, verified, ok⟩ := bind_ok ok
  obtain ⟨_, valid_, ok⟩ := bind_ok ok
  have read := orFail_ok read
  have valid_ := ensure_ok valid_
  subst valid_
  cases ok
  exact ⟨header, url, member, base, key, lib.fromBase64 text, ⟨orFail_ok headed,
    orFail_ok located, ensure_ok digest, ensure_ok covers, components_plain read,
    ⟨member.label, text, label_plain read, orFail_ok valued, rfl⟩, orFail_ok based, orFail_ok verified⟩,
    by rw [orFail_ok given]; exact read, orFail_ok known, rfl⟩

theorem ensure_bind {β : Type} {condition : Prop} [Decidable condition] {f : Unit → Except Refusal β}
    (holds : condition) : (ensure condition reason >>= f) = f () := by
  rw [ensure, if_pos holds]
  rfl

theorem orFail_bind {α β : Type} {value : Option α} {a : α} {f : α → Except Refusal β}
    (found : value = some a) : (orFail value refusal >>= f) = f a := by
  rw [found]
  rfl

/-- What a request needs to be accepted. -/
theorem verify_accepts {keyid signed : String} (given : (input.headers "signature-input").map trim = some text)
    (headed : (input.headers "signature").map trim = some header)
    (digest : input.body ≠ [] → (input.headers "content-digest").map trim = some (contentDigest lib input.body))
    (read : signatureInputMember text = some member) (named : parameter member.params "keyid" = some keyid)
    (distinct : (componentsOf member.list).Nodup) (es256 : parameter member.params "alg" = none)
    (lasts : parameter member.params "expires" = none) (located : lib.url input.url = some url)
    (covers : ∀ name ∈ required input url, name ∈ componentsOf member.list)
    (valued : signatureValue member.label header = some signed) (known : input.keyFor keyid = some key)
    (p256 : key.kty = "EC" ∧ key.crv = "P-256") (based : signatureBase (componentsOf member.list) member.params
      (fun name => componentValue lib name input.method url input.headers) = some base)
    (raw : (lib.fromBase64 signed).length = 64) (verified : lib.verify key base (lib.fromBase64 signed) = some true) :
    verifyHttpMessageSignature lib input =
      .ok ⟨keyid, (parameter member.params "created").map lib.number, componentsOf member.list⟩ := by
  have any : Option.all (fun alg => decide (alg = ES256_ALGORITHM)) none = true := rfl
  have endless : expired lib input.now none = false := by cases input.now <;> rfl
  unfold verifyHttpMessageSignature
  rw [orFail_bind given, orFail_bind headed, ensure_bind digest, orFail_bind read]
  dsimp only
  rw [orFail_bind named, ensure_bind distinct, es256, ensure_bind any, lasts, endless, ensure_bind Bool.false_ne_true,
    orFail_bind located, ensure_bind covers, orFail_bind valued, orFail_bind known, ensure_bind p256, orFail_bind based,
    ensure_bind raw, orFail_bind verified, ensure_bind rfl]
  rfl

theorem verify_ok (ok : verifyHttpMessageSignature lib input = .ok check) : ∃ header url components params base key signature,
      Accepted lib input header url components params base key signature := by
  obtain ⟨header, url, member, base, key, signature, accepted, _⟩ := verify_accepted ok
  exact ⟨header, url, componentsOf member.list, member.params, base, key, signature, accepted⟩

theorem signatureValue_some {label : String} (ok : signatureValue label header = some text) :
    header.toList = label.toList ++ '=' :: ':' :: (text.toList ++ [':']) := by
  unfold signatureValue at ok
  split at ok
  · rename_i rest dropped
    obtain ⟨front, joined, same⟩ := List.dropPrefix?_eq_some_iff.mp dropped
    have same := eq_of_beq same
    subst same
    split at ok
    · rename_i closed
      cases ok
      obtain ⟨before, shape⟩ := List.getLast?_eq_some_iff.mp closed.1
      rw [joined, shape]
      simp
    · cases ok
  · cases ok

/-- A `Signature` header has one signature. -/
theorem signatureValue_inj {label label' text' : String} (plain : '=' ∉ label.toList) (plain' : '=' ∉ label'.toList)
    (ok : signatureValue label header = some text) (ok' : signatureValue label' header = some text') : text = text' := by
  have same := (signatureValue_some ok).symm.trans (signatureValue_some ok')
  obtain ⟨_, rests⟩ := before_mark plain plain' same
  have texts := List.append_cancel_right (List.cons_eq_cons.mp rests).2
  exact String.toList_inj.mp texts

/-! ### One signature, one request -/

/-- What is signed with a key verifies, and nothing else does; and a signature is over one text. -/
structure Unforgeable (lib : Libraries) (Signed : EcPublicJwk → String → Bytes → Prop) : Prop where
  signed : ∀ key base signature, lib.verify key base signature = some true → Signed key base signature
  once : ∀ key key' base base' signature, Signed key base signature → Signed key' base' signature → base = base'

/-- What is documented of the URL parser: a search is empty or has more than its question mark. -/
def Searches (lib : Libraries) : Prop := ∀ text url, lib.url text = some url → url.search ≠ "?"

def pathOf (url : Url) : String := if url.pathname = "" then "/" else url.pathname

/-- Two requests that are one under the signature: method, target, agent and idempotency key are the same, and so are body
    and content type when both have a body. -/
def SameRequest (lib : Libraries) (a b : VerifySignatureInput) : Prop :=
  ∃ url url', lib.url a.url = some url ∧ lib.url b.url = some url' ∧
    lib.toUpperCase a.method = lib.toUpperCase b.method ∧ url.host = url'.host ∧ pathOf url = pathOf url' ∧
    url.search = url'.search ∧ (a.headers "ucp-agent").map trim = (b.headers "ucp-agent").map trim ∧
    (a.headers "idempotency-key").map trim = (b.headers "idempotency-key").map trim ∧
    (a.body ≠ [] → b.body ≠ [] → a.body = b.body ∧
      (a.headers "content-type").map trim = (b.headers "content-type").map trim ∧ a.headers "content-type" ≠ none)

theorem componentValue_params (lib : Libraries) (method : String) (url : Url) (headers : Headers) :
    Unsigned fun name => componentValue lib name method url headers := by
  simp [Unsigned, componentValue]

theorem componentValue_field {name : String} (field : name ∈ ["content-digest", "content-type", "ucp-agent", "idempotency-key"])
    (method : String) (url : Url) (headers : Headers) :
    componentValue lib name method url headers = (headers name).map trim := by
  simp only [List.mem_cons, List.not_mem_nil, or_false] at field
  rcases field with rfl | rfl | rfl | rfl <;> simp [componentValue]

theorem contentDigest_inj {body body' : Bytes} (same : contentDigest lib body = contentDigest lib body') :
    lib.sha256Base64 body = lib.sha256Base64 body' := by
  have characters := congrArg String.toList same
  simp only [contentDigest, String.toList_append, List.append_assoc] at characters
  exact String.toList_inj.mp (List.append_cancel_right (List.append_cancel_left characters))

theorem accepted_agree {Signed : EcPublicJwk → String → Bytes → Prop} (unforgeable : Unforgeable lib Signed)
    {a b : VerifySignatureInput} {url' : Url} {params' base' : String} {key' : EcPublicJwk} {signature signature' : Bytes}
    (one : Accepted lib a header url components params base key signature)
    (other : Accepted lib b header url' components' params' base' key' signature') :
    components = components' ∧ ∀ name ∈ components,
      componentValue lib name a.method url a.headers = componentValue lib name b.method url' b.headers := by
  obtain ⟨label, text, plain, valued, same⟩ := one.valued
  obtain ⟨label', text', plain', valued', same'⟩ := other.valued
  have texts := signatureValue_inj plain plain' valued valued'
  subst texts
  subst same same'
  have bases := unforgeable.once _ _ _ _ _ (unforgeable.signed _ _ _ one.verified) (unforgeable.signed _ _ _ other.verified)
  subst bases
  obtain ⟨components_, _, values⟩ := signatureBase_inj one.plain other.plain
    (componentValue_params ..) (componentValue_params ..) one.based other.based
  exact ⟨components_, values⟩

theorem same_request {Signed : EcPublicJwk → String → Bytes → Prop} (unforgeable : Unforgeable lib Signed)
    (searches : Searches lib) {a b : VerifySignatureInput} {check' : SignatureCheck}
    (ok : verifyHttpMessageSignature lib a = .ok check) (ok' : verifyHttpMessageSignature lib b = .ok check')
    (signatures : (a.headers "signature").map trim = (b.headers "signature").map trim)
    (collisionFree : lib.sha256Base64 a.body = lib.sha256Base64 b.body → a.body = b.body) : SameRequest lib a b := by
  obtain ⟨header, url, components, params, base, key, signature, one⟩ := verify_ok ok
  obtain ⟨header', url', components', params', base', key', signature', other⟩ := verify_ok ok'
  have headers : header = header' := Option.some.inj (one.headed.symm.trans (signatures.trans other.headed))
  subst headers
  obtain ⟨rfl, values⟩ := accepted_agree unforgeable one other
  have field : ∀ name ∈ ["content-digest", "content-type", "ucp-agent", "idempotency-key"], name ∈ components →
      (a.headers name).map trim = (b.headers name).map trim := by
    intro name field covered
    have value := values name covered
    rwa [componentValue_field field, componentValue_field field] at value
  -- A field that either request must cover is covered in both.
  have present : ∀ name ∈ ["ucp-agent", "idempotency-key"], (a.headers name).map trim = (b.headers name).map trim := by
    intro name pair
    have known : name ∈ ["content-digest", "content-type", "ucp-agent", "idempotency-key"] := by
      simp only [List.mem_cons, List.not_mem_nil, or_false] at pair ⊢
      tauto
    have needed : ∀ input url, input.headers name ≠ none → name ∈ required input url := by
      intro input url given
      simp only [List.mem_cons, List.not_mem_nil, or_false] at pair
      rcases pair with rfl | rfl <;> simp [required, given]
    by_cases given : a.headers name = none
    · by_cases given' : b.headers name = none
      · rw [given, given']
      · exact field name known (other.covers _ (needed b url' given'))
    · exact field name known (one.covers _ (needed a url given))
  refine ⟨url, url', one.located, other.located, ?_, ?_, ?_, ?_, present _ (by simp), present _ (by simp), ?_⟩
  · have value := values "@method" (one.covers _ (by simp [required]))
    simpa [componentValue] using value
  · have value := values "@authority" (one.covers _ (by simp [required]))
    simpa [componentValue] using value
  · have value := values "@path" (one.covers _ (by simp [required]))
    simpa [componentValue, pathOf] using value
  · have query : "@query" ∈ components → (if url.search = "" then "?" else url.search) =
        (if url'.search = "" then "?" else url'.search) := by
      intro covered
      have value := values "@query" covered
      simpa [componentValue] using value
    by_cases empty : url.search = ""
    · by_cases empty' : url'.search = ""
      · rw [empty, empty']
      · have same := query (other.covers _ (by simp [required, empty']))
        rw [if_pos empty, if_neg empty'] at same
        exact absurd same.symm (searches _ _ other.located)
    · have same := query (one.covers _ (by simp [required, empty]))
      rw [if_neg empty] at same
      split at same
      · exact absurd same (searches _ _ one.located)
      · exact same
  · intro body body'
    have digests := field "content-digest" (by simp) (one.covers _ (by simp [required, body]))
    have type_ := one.covers "content-type" (by simp [required, body])
    rw [one.digest body, other.digest body'] at digests
    refine ⟨collisionFree ?_, field "content-type" (by simp) type_, ?_⟩
    · exact contentDigest_inj (Option.some.inj digests)
    · have value := signatureBase_values one.based "content-type" type_
      rw [componentValue_field (by simp)] at value
      intro missing
      rw [missing] at value
      exact value rfl

end AgentPey.MessageSignatures
