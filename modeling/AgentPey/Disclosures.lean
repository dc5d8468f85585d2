import AgentPey.SdJwt
import Mathlib.Data.List.Nodup

/-!
What the resolution of disclosures comes to. `Resolves` says which value a value stands for under the disclosures that
are known by their digests, and which digests were used on the way: it is the processing of RFC 9901 that the code
names, without its order of work. The code ends, and what it accepts is related so, with every disclosure used once.
-/
namespace AgentPey.Disclosures
open SdJwt
open List (append_assoc append_nil lookup_cons map_cons mem_append mem_cons mem_cons_self mem_map nil_append not_mem_nil)

variable {N K : Type}

/-- What is resolved: a value, the elements of an array, the members of an object, or the `_sd` digests of an object
    after the members it has by then. -/
inductive Work (N : Type) where
  | value (v : Value N)
  | elements (items : List (Value N))
  | members (ms : Members N)
  | digests (out : Members N) (ds : List (Value N))

def leaf : Value N → Bool
  | .array _ => false
  | .object _ => false
  | _ => true

inductive Resolves (table : Table N) : Work N → List String → Work N → Prop
  | leaf {v} (plain : leaf v) : Resolves table (.value v) [] (.value v)
  | array {items used out} (each : Resolves table (.elements items) used (.elements out)) :
      Resolves table (.value (.array items)) used (.value (.array out))
  | object {ms used out} (none_ : ms.lookup "_sd" = none) (each : Resolves table (.members ms) used (.members out)) :
      Resolves table (.value (.object ms)) used (.value (.object out))
  | disclosing {ms ds used used' out out'} (listed : ms.lookup "_sd" = some (.array ds))
      (each : Resolves table (.members ms) used (.members out))
      (hidden : Resolves table (.digests out ds) used' (.members out')) :
      Resolves table (.value (.object ms)) (used ++ used') (.value (.object out'))
  | noElement : Resolves table (.elements []) [] (.elements [])
  | withheld {d rest used out} (unknown : table.lookup d = none)
      (others : Resolves table (.elements rest) used (.elements out)) :
      Resolves table (.elements (placeholder d :: rest)) (d :: used) (.elements out)
  | disclosed {d v r rest used used' out} (known : table.lookup d = some (.element v))
      (deeper : Resolves table (.value v) used (.value r))
      (others : Resolves table (.elements rest) used' (.elements out)) :
      Resolves table (.elements (placeholder d :: rest)) (d :: (used ++ used')) (.elements (r :: out))
  | element {item r rest used used' out} (plain : marked item = none)
      (here : Resolves table (.value item) used (.value r))
      (others : Resolves table (.elements rest) used' (.elements out)) :
      Resolves table (.elements (item :: rest)) (used ++ used') (.elements (r :: out))
  | noMember : Resolves table (.members []) [] (.members [])
  | reserved {v rest used out} (others : Resolves table (.members rest) used (.members out)) :
      Resolves table (.members (("_sd", v) :: rest)) used (.members out)
  | member {name v r rest used used' out} (plain : name ≠ "_sd") (here : Resolves table (.value v) used (.value r))
      (others : Resolves table (.members rest) used' (.members out)) :
      Resolves table (.members ((name, v) :: rest)) (used ++ used') (.members ((name, r) :: out))
  | noDigest {out} : Resolves table (.digests out []) [] (.members out)
  | unknown {d out rest used out'} (unknown : table.lookup d = none)
      (others : Resolves table (.digests out rest) used (.members out')) :
      Resolves table (.digests out (.string d :: rest)) (d :: used) (.members out')
  | property {d name v r out rest used used' out'} (known : table.lookup d = some (.property name v))
      (new : name ∉ names out) (deeper : Resolves table (.value v) used (.value r))
      (others : Resolves table (.digests (out ++ [(name, r)]) rest) used' (.members out')) :
      Resolves table (.digests out (.string d :: rest)) (d :: (used ++ used')) (.members out')

/-! ### What the code accepts -/

section
variable {α β : Type}

theorem bind_ok {x : Resolving N α} {f : α → Resolving N β} {b : β} (ok : (x >>= f) = .ok b) :
    ∃ a, x = .ok a ∧ f a = .ok b := by
  cases x with
  | error e => cases ok
  | ok a => exact ⟨a, rfl, ok⟩

variable {digest : Value N} {seen : Seen} {d : String}

theorem take_ok {table : Table N} {seen' : Seen} {found : Option (DecodedDisclosure N)}
    (took : take table digest seen = .ok (found, seen')) :
    ∃ d, digest = .string d ∧ d ∉ seen ∧ found = table.lookup d ∧ seen' = seen ++ [d] := by
  cases digest with
  | string d =>
    rw [take] at took
    split at took
    · cases took
    · rename_i unseen
      cases took
      exact ⟨d, rfl, unseen, rfl, rfl⟩
  | null => cases took
  | bool b => cases took
  | number n => cases took
  | array items => cases took
  | object ms => cases took

/-- A resolution from the digests seen so far adds those it uses, none of them seen before. -/
structure Uses (table : Table N) (w : Work N) (seen : Seen) (w' : Work N) (seen' : Seen) (used : List String) : Prop where
  resolves : Resolves table w used w'
  seen_eq : seen' = seen ++ used
  fresh : seen.Nodup → seen'.Nodup

theorem nodup_snoc (unseen : d ∉ seen) (nodup : seen.Nodup) : (seen ++ [d]).Nodup := by
  rw [List.nodup_append]
  refine ⟨nodup, by simp, ?_⟩
  rintro a before b last rfl
  rw [List.mem_singleton] at last
  exact unseen (last ▸ before)

theorem unseen_of_nodup {used : List String} (nodup : (seen ++ d :: used).Nodup) :
    d ∉ seen ∧ ((seen ++ [d]) ++ used).Nodup := by
  refine ⟨fun before => ?_, by simpa using nodup⟩
  exact (List.nodup_append.mp nodup).2.2 d before d mem_cons_self rfl

variable {table : Table N} {deeper : Deeper N}

def Sound (table : Table N) (deeper : Deeper N) : Prop :=
  ∀ v seen r seen', deeper v seen = .ok (r, seen') → ∃ used, Uses table (.value v) seen (.value r) seen' used

theorem resolveDigests_sound (sound : Sound table deeper) {out out' : Members N} {ds : List (Value N)} {seen' : Seen}
    (ok : resolveDigests table deeper out ds seen = .ok (out', seen')) :
    ∃ used, Uses table (.digests out ds) seen (.members out') seen' used := by
  induction ds generalizing out seen with
  | nil =>
    cases ok
    exact ⟨[], .noDigest, (append_nil _).symm, id⟩
  | cons digest rest ih =>
    obtain ⟨⟨found, next⟩, took, ok⟩ := bind_ok ok
    obtain ⟨d, rfl, unseen, rfl, rfl⟩ := take_ok took
    cases known : table.lookup d with
    | none =>
      simp only [known] at ok
      obtain ⟨used, others, same, fresh⟩ := ih ok
      exact ⟨d :: used, .unknown known others, by simp [same], fun nodup => fresh (nodup_snoc unseen nodup)⟩
    | some found =>
      cases found with
      | element v =>
        simp only [known] at ok
        cases ok
      | property name v =>
        simp only [known] at ok
        split at ok
        · cases ok
        · rename_i new
          obtain ⟨⟨r, later⟩, deep, ok⟩ := bind_ok ok
          obtain ⟨used, here, rfl, before⟩ := sound _ _ _ _ deep
          obtain ⟨used', others, same, fresh⟩ := ih ok
          exact ⟨d :: (used ++ used'), .property known new here others, by simp [same],
            fun nodup => fresh (before (nodup_snoc unseen nodup))⟩

theorem marked_some {item : Value N} {ms : Members N} (mark : marked item = some (ms, digest))
    (single : ms.length = 1) : item = .object [(DIGEST_KEY, digest)] := by
  cases item with
  | object members =>
    rw [marked, Option.map_eq_some_iff] at mark
    obtain ⟨_, found, same⟩ := mark
    cases same
    obtain ⟨⟨name, value⟩, rfl⟩ := List.length_eq_one_iff.mp single
    rw [lookup_cons] at found
    split at found
    · rename_i same
      cases found
      rw [beq_iff_eq] at same
      rw [same]
    · cases found
  | null => cases mark
  | bool b => cases mark
  | number n => cases mark
  | string s => cases mark
  | array items => cases mark

mutual

theorem resolveWith_sound (sound : Sound table deeper) (v : Value N) {r : Value N} {seen seen' : Seen}
    (ok : resolveWith table deeper v seen = .ok (r, seen')) : ∃ used, Uses table (.value v) seen (.value r) seen' used := by
  cases v with
  | array items =>
    obtain ⟨⟨out, later⟩, each, ok⟩ := bind_ok (by rwa [resolveWith] at ok)
    cases ok
    obtain ⟨used, here, same, fresh⟩ := resolveElements_sound sound items each
    exact ⟨used, .array here, same, fresh⟩
  | object ms =>
    obtain ⟨⟨out, later⟩, each, ok⟩ := bind_ok (by rwa [resolveWith] at ok)
    obtain ⟨used, here, rfl, fresh⟩ := resolveMembers_sound sound ms each
    cases listed : ms.lookup "_sd" with
    | none =>
      simp only [listed] at ok
      cases ok
      exact ⟨used, .object listed here, rfl, fresh⟩
    | some list =>
      cases list with
      | array ds =>
        simp only [listed] at ok
        obtain ⟨⟨out', last⟩, hidden, ok⟩ := bind_ok ok
        cases ok
        obtain ⟨used', there, same, after⟩ := resolveDigests_sound sound hidden
        exact ⟨used ++ used', .disclosing listed here there, by simp [same], fun nodup => after (fresh nodup)⟩
      | null => simp only [listed] at ok; cases ok
      | bool b => simp only [listed] at ok; cases ok
      | number n => simp only [listed] at ok; cases ok
      | string s => simp only [listed] at ok; cases ok
      | object ms => simp only [listed] at ok; cases ok
  | null => cases ok; exact ⟨[], .leaf rfl, (append_nil _).symm, id⟩
  | bool b => cases ok; exact ⟨[], .leaf rfl, (append_nil _).symm, id⟩
  | number n => cases ok; exact ⟨[], .leaf rfl, (append_nil _).symm, id⟩
  | string s => cases ok; exact ⟨[], .leaf rfl, (append_nil _).symm, id⟩

theorem resolveElements_sound (sound : Sound table deeper) (items : List (Value N)) {out : List (Value N)} {seen seen' : Seen}
    (ok : resolveElements table deeper items seen = .ok (out, seen')) :
    ∃ used, Uses table (.elements items) seen (.elements out) seen' used := by
  cases items with
  | nil =>
    cases ok
    exact ⟨[], .noElement, (append_nil _).symm, id⟩
  | cons item rest =>
    rw [resolveElements] at ok
    cases mark : marked item with
    | none =>
      simp only [mark] at ok
      obtain ⟨⟨r, later⟩, here, ok⟩ := bind_ok ok
      obtain ⟨⟨rs, last⟩, others, ok⟩ := bind_ok ok
      cases ok
      obtain ⟨used, first, rfl, before⟩ := resolveWith_sound sound item here
      obtain ⟨used', second, same, after⟩ := resolveElements_sound sound rest others
      exact ⟨used ++ used', .element mark first second, by simp [same], fun nodup => after (before nodup)⟩
    | some found =>
      obtain ⟨ms, digest⟩ := found
      simp only [mark] at ok
      split at ok
      · cases ok
      · rename_i single
        obtain rfl := marked_some mark (not_not.mp single)
        obtain ⟨⟨found, next⟩, took, ok⟩ := bind_ok ok
        obtain ⟨d, rfl, unseen, rfl, rfl⟩ := take_ok took
        cases known : table.lookup d with
        | none =>
          simp only [known] at ok
          obtain ⟨used, others, same, fresh⟩ := resolveElements_sound sound rest ok
          exact ⟨d :: used, .withheld known others, by simp [same], fun nodup => fresh (nodup_snoc unseen nodup)⟩
        | some found =>
          cases found with
          | property name v =>
            simp only [known] at ok
            cases ok
          | element v =>
            simp only [known] at ok
            obtain ⟨⟨r, later⟩, deep, ok⟩ := bind_ok ok
            obtain ⟨⟨rs, last⟩, others, ok⟩ := bind_ok ok
            cases ok
            obtain ⟨used, first, rfl, before⟩ := sound _ _ _ _ deep
            obtain ⟨used', second, same, after⟩ := resolveElements_sound sound rest others
            exact ⟨d :: (used ++ used'), .disclosed known first second, by simp [same],
              fun nodup => after (before (nodup_snoc unseen nodup))⟩

theorem resolveMembers_sound (sound : Sound table deeper) (ms : Members N) {out : Members N} {seen seen' : Seen}
    (ok : resolveMembers table deeper ms seen = .ok (out, seen')) :
    ∃ used, Uses table (.members ms) seen (.members out) seen' used := by
  cases ms with
  | nil =>
    cases ok
    exact ⟨[], .noMember, (append_nil _).symm, id⟩
  | cons m rest =>
    obtain ⟨name, v⟩ := m
    rw [resolveMembers] at ok
    split at ok
    · rename_i reserved
      subst reserved
      obtain ⟨used, others, same, fresh⟩ := resolveMembers_sound sound rest ok
      exact ⟨used, .reserved others, same, fresh⟩
    · rename_i plain
      obtain ⟨⟨r, later⟩, here, ok⟩ := bind_ok ok
      obtain ⟨⟨rs, last⟩, others, ok⟩ := bind_ok ok
      cases ok
      obtain ⟨used, first, rfl, before⟩ := resolveWith_sound sound v here
      obtain ⟨used', second, same, after⟩ := resolveMembers_sound sound rest others
      exact ⟨used ++ used', .member plain first second, by simp [same], fun nodup => after (before nodup)⟩

end

theorem resolve_sound (table : Table N) (depth : Nat) : Sound table (resolve table depth) := by
  induction depth with
  | zero => exact fun v _ _ _ ok => resolveWith_sound (fun _ _ _ _ impossible => by cases impossible) v ok
  | succ depth ih => exact fun v _ _ _ ok => resolveWith_sound ih v ok

end

/-! ### The resolution ends -/

def remaining (table : Table N) (seen : Seen) : Nat := (table.map Prod.fst).countP (· ∉ seen)

variable {table : Table N}

variable {seen : Seen} {d text : String} {texts used : List String} {v result : Value N} {depth : Nat} {claims : Members N}

theorem remaining_le {seen' : Seen} (grows : seen ⊆ seen') : remaining table seen' ≤ remaining table seen := by
  apply List.countP_mono_left
  intro d _ unseen
  simp only [decide_eq_true_eq] at unseen ⊢
  exact fun before => unseen (grows before)

theorem remaining_cons (entry : String × DecodedDisclosure N) (rest : Table N) (seen : Seen) :
    remaining (entry :: rest) seen = remaining rest seen + if entry.1 ∈ seen then 0 else 1 := by
  by_cases before : entry.1 ∈ seen <;> simp [remaining, before]

theorem remaining_nil (table : Table N) : remaining table [] = table.length := by simp [remaining]

variable {found : DecodedDisclosure N}

theorem remaining_take (known : table.lookup d = some found) (unseen : d ∉ seen)
    : remaining table (seen ++ [d]) < remaining table seen := by
  induction table with
  | nil => cases known
  | cons entry rest ih =>
    obtain ⟨digest, decoded⟩ := entry
    have shrinks : remaining rest (seen ++ [d]) ≤ remaining rest seen := remaining_le (List.subset_append_left _ _)
    rw [remaining_cons, remaining_cons]
    by_cases same : d = digest
    · subst same
      rw [if_pos (List.mem_append_right _ (List.mem_singleton_self _)), if_neg unseen]
      omega
    · have later := ih (by simpa [lookup_cons, beq_eq_false_iff_ne.mpr same] using known)
      by_cases before : digest ∈ seen
      · rw [if_pos (List.mem_append_left _ before), if_pos before]
        omega
      · rw [if_neg (by simp [before, Ne.symm same]), if_neg before]
        omega

/-- Two runs from the digests seen so far that come to the same end, within the depth they are given. -/
structure Settled {α : Type} (seen : Seen) (a b : Resolving N (α × Seen)) : Prop where
  same : a = b
  ends : a ≠ .error .tooDeep
  grows : ∀ x seen', a = .ok (x, seen') → seen ⊆ seen'

section
variable {α β : Type} {seen : Seen}

theorem settled_ok (a : α) : Settled (N := N) seen (.ok (a, seen)) (.ok (a, seen)) :=
  ⟨rfl, (fun impossible => by cases impossible), fun _ _ same => by cases same; exact List.Subset.refl _⟩

theorem settled_throws (message : String) (details : Members N) :
    Settled seen (throws (α := α × Seen) message details) (throws message details) :=
  ⟨rfl, (fun impossible => by cases impossible), fun _ _ impossible => by cases impossible⟩

theorem Settled.bind {a b : Resolving N (α × Seen)} {f g : α × Seen → Resolving N (β × Seen)} (first : Settled seen a b)
    (goes_on : ∀ x seen', a = .ok (x, seen') → seen ⊆ seen' → Settled seen' (f (x, seen')) (g (x, seen'))) :
    Settled seen (a >>= f) (b >>= g) := by
  obtain ⟨rfl, ends, grows⟩ := first
  cases a with
  | error e => exact ⟨rfl, fun deep => ends (by cases deep; rfl), fun _ _ impossible => by cases impossible⟩
  | ok found =>
    obtain ⟨x, next⟩ := found
    have more := grows x next rfl
    have later := goes_on x next rfl more
    exact ⟨later.same, later.ends, fun y last ok => List.Subset.trans more (later.grows y last ok)⟩

theorem settled_take (table : Table N) (digest : Value N) : Settled seen (take table digest seen) (take table digest seen) := by
  refine ⟨rfl, ?_, ?_⟩
  · cases digest with
    | string d =>
      rw [take]
      split <;> exact fun impossible => by cases impossible
    | null => exact fun impossible => by cases impossible
    | bool b => exact fun impossible => by cases impossible
    | number n => exact fun impossible => by cases impossible
    | array items => exact fun impossible => by cases impossible
    | object ms => exact fun impossible => by cases impossible
  · intro found seen' took
    obtain ⟨d, _, _, _, rfl⟩ := take_ok took
    exact List.subset_append_left _ _

end

section
variable {table : Table N} {a b : Deeper N} {bound : Nat}

/-- Two resolvers of deeper values that come to the same while fewer than so many disclosures remain. -/
def Agree (table : Table N) (bound : Nat) (a b : Deeper N) : Prop :=
  ∀ v seen, remaining table seen < bound → Settled seen (a v seen) (b v seen)

variable {seen : Seen}

theorem settled_taken {α : Type} {digest : Value N} (few : remaining table seen ≤ bound)
    {f g : Option (DecodedDisclosure N) × Seen → Resolving N (α × Seen)}
    (nothing : ∀ seen', remaining table seen' ≤ bound → Settled seen' (f (none, seen')) (g (none, seen')))
    (found : ∀ disclosed seen', remaining table seen' < bound →
      Settled seen' (f (some disclosed, seen')) (g (some disclosed, seen'))) :
    Settled seen (take table digest seen >>= f) (take table digest seen >>= g) := by
  apply (settled_take table digest).bind
  intro disclosed seen' took grows
  obtain ⟨d, _, unseen, same, rfl⟩ := take_ok took
  cases known : table.lookup d with
  | none =>
    rw [same, known]
    exact nothing _ (Nat.le_trans (remaining_le grows) few)
  | some decoded =>
    rw [same, known]
    exact found decoded _ (Nat.lt_of_lt_of_le (remaining_take known unseen) few)

theorem settled_resolveDigests (agree : Agree table bound a b) {ds : List (Value N)} {out : Members N}
    (few : remaining table seen ≤ bound) :
    Settled seen (resolveDigests table a out ds seen) (resolveDigests table b out ds seen) := by
  induction ds generalizing out seen with
  | nil => exact settled_ok out
  | cons digest rest ih =>
    rw [resolveDigests, resolveDigests]
    apply settled_taken few
    · exact fun seen' few => ih few
    · intro disclosed seen' fewer
      cases disclosed with
      | element v => exact settled_throws _ _
      | property name v =>
        dsimp only
        split
        · exact settled_throws _ _
        · apply (agree v seen' fewer).bind
          exact fun r last _ grows => ih (Nat.le_trans (remaining_le grows) (Nat.le_of_lt fewer))

mutual

theorem settled_resolveWith (agree : Agree table bound a b) (v : Value N) {seen : Seen} (few : remaining table seen ≤ bound) :
    Settled seen (resolveWith table a v seen) (resolveWith table b v seen) := by
  cases v with
  | array items =>
    rw [resolveWith, resolveWith]
    apply (settled_resolveElements agree items few).bind
    exact fun out seen' _ _ => settled_ok _
  | object ms =>
    rw [resolveWith, resolveWith]
    apply (settled_resolveMembers agree ms few).bind
    intro out seen' _ grows
    cases ms.lookup "_sd" with
    | none => exact settled_ok _
    | some listed =>
      cases listed with
      | array ds =>
        apply (settled_resolveDigests agree (Nat.le_trans (remaining_le grows) few)).bind
        exact fun out last _ _ => settled_ok _
      | null => exact settled_throws _ _
      | bool b => exact settled_throws _ _
      | number n => exact settled_throws _ _
      | string s => exact settled_throws _ _
      | object ms => exact settled_throws _ _
  | null => exact settled_ok _
  | bool b => exact settled_ok _
  | number n => exact settled_ok _
  | string s => exact settled_ok _

theorem settled_resolveElements (agree : Agree table bound a b) (items : List (Value N)) {seen : Seen}
    (few : remaining table seen ≤ bound) :
    Settled seen (resolveElements table a items seen) (resolveElements table b items seen) := by
  cases items with
  | nil => exact settled_ok _
  | cons item rest =>
    rw [resolveElements, resolveElements]
    cases marked item with
    | none =>
      apply (settled_resolveWith agree item few).bind
      intro r seen' _ grows
      apply (settled_resolveElements agree rest (Nat.le_trans (remaining_le grows) few)).bind
      exact fun out last _ _ => settled_ok _
    | some found =>
      obtain ⟨ms, digest⟩ := found
      dsimp only
      split
      · exact settled_throws _ _
      · apply settled_taken few
        · exact fun seen' few => settled_resolveElements agree rest few
        · intro disclosed seen' fewer
          cases disclosed with
          | property name v => exact settled_throws _ _
          | element v =>
            apply (agree v seen' fewer).bind
            intro r next _ grows
            apply (settled_resolveElements agree rest (Nat.le_trans (remaining_le grows) (Nat.le_of_lt fewer))).bind
            exact fun out last _ _ => settled_ok _

theorem settled_resolveMembers (agree : Agree table bound a b) (ms : Members N) {seen : Seen}
    (few : remaining table seen ≤ bound) : Settled seen (resolveMembers table a ms seen) (resolveMembers table b ms seen) := by
  cases ms with
  | nil => exact settled_ok _
  | cons m rest =>
    obtain ⟨name, v⟩ := m
    rw [resolveMembers, resolveMembers]
    split
    · exact settled_resolveMembers agree rest few
    · apply (settled_resolveWith agree v few).bind
      intro r seen' _ grows
      apply (settled_resolveMembers agree rest (Nat.le_trans (remaining_le grows) few)).bind
      exact fun out last _ _ => settled_ok _

end

/-- A depth of as many disclosures as remain is enough: a greater one comes to the same. -/
theorem resolve_settled {depth deeper : Nat} (more : depth ≤ deeper) {v : Value N}
    (few : remaining table seen ≤ depth) : Settled seen (resolve table depth v seen) (resolve table deeper v seen) := by
  induction depth generalizing deeper v seen with
  | zero =>
    cases deeper with
    | zero => exact settled_resolveWith (fun _ _ none_ => absurd none_ (Nat.not_lt_zero _)) v few
    | succ deeper => exact settled_resolveWith (fun _ _ none_ => absurd none_ (Nat.not_lt_zero _)) v few
  | succ depth ih =>
    cases deeper with
    | zero => exact absurd more (Nat.not_succ_le_zero _)
    | succ deeper =>
      have agree : Agree table (depth + 1) (resolve table depth) (resolve table deeper) :=
        fun v seen fewer => ih (Nat.le_of_succ_le_succ more) (Nat.le_of_lt_succ fewer)
      exact settled_resolveWith agree v few

end

/-! ### The table of disclosures -/

theorem mem_of_lookup (known : table.lookup d = some found) : (d, found) ∈ table := by
  obtain ⟨before, after, rfl, _⟩ := List.lookup_eq_some_iff.mp known
  simp

theorem lookup_of_mem (nodup : (table.map Prod.fst).Nodup) (member : (d, found) ∈ table)
    : table.lookup d = some found := by
  induction table with
  | nil => cases member
  | cons entry rest ih =>
    obtain ⟨digest, decoded⟩ := entry
    rw [map_cons, List.nodup_cons] at nodup
    rcases mem_cons.mp member with here | later
    · cases here
      simp
    · have different : d ≠ digest := by
        rintro rfl
        exact nodup.1 (mem_map.mpr ⟨_, later, rfl⟩)
      simpa [lookup_cons, beq_eq_false_iff_ne.mpr different] using ih nodup.2 later

variable {lib : Libraries N K}

def EntryOf (lib : Libraries N K) (text : String) (entry : String × DecodedDisclosure N) : Prop :=
  entry.1 = lib.sha256Base64Url text ∧ decodeDisclosure lib text = .ok entry.2

theorem byDigest_ok {table table' : Table N} (ok : byDigest lib table texts = .ok table')
    (nodup : (table.map Prod.fst).Nodup) :
    ∃ new, table' = table ++ new ∧ List.Forall₂ (EntryOf lib) texts new ∧ (table'.map Prod.fst).Nodup := by
  induction texts generalizing table with
  | nil =>
    cases ok
    exact ⟨[], (append_nil _).symm, .nil, nodup⟩
  | cons text rest ih =>
    rw [byDigest] at ok
    split at ok
    · cases ok
    · rename_i new_
      cases decoded : decodeDisclosure lib text with
      | error e =>
        rw [decoded] at ok
        cases ok
      | ok found =>
        rw [decoded] at ok
        obtain ⟨new, rfl, entries, distinct⟩ := ih ok (by simpa using nodup_snoc new_ nodup)
        exact ⟨(lib.sha256Base64Url text, found) :: new, by simp, .cons ⟨rfl, decoded⟩ entries, distinct⟩

theorem byDigest_runs (decode : ∀ text ∈ texts, ∃ found, decodeDisclosure lib text = .ok found)
    (distinct : (table.map Prod.fst ++ texts.map lib.sha256Base64Url).Nodup) :
    ∃ table', byDigest lib table texts = .ok table' := by
  induction texts generalizing table with
  | nil => exact ⟨table, rfl⟩
  | cons text rest ih =>
    obtain ⟨found, decodes⟩ := decode text mem_cons_self
    have unseen := (unseen_of_nodup distinct).1
    rw [byDigest, if_neg unseen, decodes]
    apply ih fun other member => decode other (List.mem_cons_of_mem _ member)
    simpa using distinct

/-- The table of accepted disclosures. -/
structure TableOf (lib : Libraries N K) (disclosures : List String) (table : Table N) : Prop where
  entries : List.Forall₂ (EntryOf lib) disclosures table
  distinct : (table.map Prod.fst).Nodup

variable {disclosures : List String}

theorem tableOf_ok (ok : byDigest lib [] disclosures = .ok table) : TableOf lib disclosures table := by
  obtain ⟨new, same, entries, distinct⟩ := byDigest_ok ok List.nodup_nil
  rw [nil_append] at same
  subst same
  exact ⟨entries, distinct⟩

theorem TableOf.digests (of : TableOf lib disclosures table) : table.map Prod.fst = disclosures.map lib.sha256Base64Url := by
  have entries := of.entries
  clear of
  induction entries with
  | nil => rfl
  | cons entry _ ih => simp [ih, entry.1]

theorem TableOf.lookup_iff (of : TableOf lib disclosures table) :
    table.lookup d = some found ↔ ∃ text ∈ disclosures, d = lib.sha256Base64Url text ∧ decodeDisclosure lib text = .ok found := by
  have member : ∀ {disclosures : List String} {table : Table N}, List.Forall₂ (EntryOf lib) disclosures table →
      ((d, found) ∈ table ↔ ∃ text ∈ disclosures, d = lib.sha256Base64Url text ∧ decodeDisclosure lib text = .ok found) := by
    intro disclosures table entries
    induction entries with
    | nil => simp
    | @cons text entry _ _ here _ ih =>
      obtain ⟨digest, decoded⟩ := entry
      obtain ⟨rfl, decodes⟩ := here
      rw [mem_cons, ih, List.exists_mem_cons_iff]
      refine or_congr ?_ Iff.rfl
      simp only [decodes, Prod.mk.injEq, Except.ok.injEq]
      exact and_congr_right fun _ => eq_comm
  rw [← member of.entries]
  exact ⟨mem_of_lookup, lookup_of_mem of.distinct⟩

theorem TableOf.length (of : TableOf lib disclosures table) : table.length = disclosures.length := by
  have lengths := congrArg List.length of.digests
  simpa using lengths

theorem decodeDisclosure_element {salt : String}
    (decoded : lib.parse (lib.fromBase64Url text) = some (.array [.string salt, v])) :
    decodeDisclosure lib text = .ok (.element v) := by
  rw [decodeDisclosure, decoded]

theorem byDigest_one (decodes : decodeDisclosure lib text = .ok found) :
    byDigest lib [] [text] = .ok [(lib.sha256Base64Url text, found)] := by
  rw [byDigest, decodes]
  rfl

/-- A property is never disclosed under a reserved name. -/
theorem decodeDisclosure_property {name : String}
    (decodes : decodeDisclosure lib text = .ok (.property name v)) : name ≠ "_sd" ∧ name ≠ DIGEST_KEY := by
  unfold decodeDisclosure at decodes
  split at decodes
  · cases decodes
  · cases decodes
  · split at decodes
    · rename_i plain
      cases decodes
      exact plain
    · cases decodes
  · cases decodes
  · cases decodes

/-- A digest that stands for a property stands for one with a name of its own. -/
def Named (table : Table N) : Prop :=
  ∀ d name v, table.lookup d = some (.property name v) → name ≠ "_sd" ∧ name ≠ DIGEST_KEY

theorem TableOf.named (of : TableOf lib disclosures table) : Named table := by
  intro d name v known
  obtain ⟨text, _, _, decodes⟩ := of.lookup_iff.mp known
  exact decodeDisclosure_property decodes

/-! ### What a result looks like -/

section
variable {table : Table N} {w w' : Work N} {used : List String}

/-- The members of a resolved object: its own, and disclosed ones under new names that are not reserved. -/
def NamesOf : Work N → Work N → Prop
  | .members ms, .members out => names out = (names ms).filter (· ≠ "_sd")
  | .digests out _, .members out' => ∃ new, out' = out ++ new ∧ ((names out).Nodup → (names out').Nodup) ∧
      ∀ name ∈ names new, name ≠ "_sd" ∧ name ≠ DIGEST_KEY
  | _, _ => True

theorem names_append (a b : Members N) : names (a ++ b) = names a ++ names b := List.map_append

theorem namesOf (named : Named table) (resolves : Resolves table w used w') : NamesOf w w' := by
  induction resolves with
  | noMember => rfl
  | reserved _ ih =>
    rw [NamesOf] at ih ⊢
    simpa [names] using ih
  | member plain _ _ _ ih =>
    rw [NamesOf] at ih ⊢
    simp only [names, map_cons] at ih ⊢
    rw [List.filter_cons_of_pos (by simpa using plain), ih]
  | noDigest => exact ⟨[], (append_nil _).symm, id, fun name member => by cases member⟩
  | unknown _ _ ih => exact ih
  | @property d name v r out rest used used' out' known new _ _ _ ih =>
    obtain ⟨more, rfl, distinct, plain⟩ := ih
    refine ⟨(name, r) :: more, by simp, ?_, ?_⟩
    · intro nodup
      apply distinct
      rw [names_append]
      exact nodup_snoc new nodup
    · exact List.forall_mem_cons.mpr ⟨named d _ v known, plain⟩
  | _ => trivial

theorem Resolves.object_names (named : Named table) {ms out : Members N}
    (resolves : Resolves table (.value (.object ms)) used (.value (.object out))) :
    ∃ new, names out = (names ms).filter (· ≠ "_sd") ++ new ∧ (∀ name ∈ new, name ≠ "_sd" ∧ name ≠ DIGEST_KEY) ∧
      ((names ms).Nodup → (names out).Nodup) := by
  cases resolves with
  | leaf plain => cases plain
  | object none_ each =>
    have same : names out = (names ms).filter (· ≠ "_sd") := namesOf named each
    refine ⟨[], by rw [same, append_nil], fun name member => (not_mem_nil member).elim, fun nodup => ?_⟩
    rw [same]
    exact nodup.filter _
  | @disclosing _ _ _ _ own _ listed each hidden =>
    have same : names own = (names ms).filter (· ≠ "_sd") := namesOf named each
    obtain ⟨new, rfl, distinct, plain⟩ := namesOf named hidden
    refine ⟨names new, by rw [names_append, same], plain, fun nodup => distinct ?_⟩
    rw [same]
    exact nodup.filter _

theorem marked_object (ms : Members N) : marked (.object ms) = none ↔ DIGEST_KEY ∉ names ms := by
  rw [marked, Option.map_eq_none_iff, List.lookup_eq_none_iff]
  simp only [names, mem_map, not_exists, not_and, bne_iff_ne, ne_eq]
  exact forall_congr' fun entry => forall_congr' fun _ => not_congr eq_comm

variable {v : Value N} {d : String}

/-- A resolved value has a `...` member when the value has one. -/
theorem Resolves.marked_iff (named : Named table) {r : Value N} (resolves : Resolves table (.value v) used (.value r)) :
    marked r = none ↔ marked v = none := by
  have object : ∀ {ms out : Members N}, Resolves table (.value (.object ms)) used (.value (.object out)) →
      (marked (.object out) = none ↔ marked (.object ms) = none) := by
    intro ms out resolves
    obtain ⟨new, same, plain, _⟩ := resolves.object_names named
    rw [marked_object, marked_object, same, mem_append, List.mem_filter, not_or]
    constructor
    · rintro ⟨own, _⟩ member
      exact own ⟨member, by decide⟩
    · exact fun absent => ⟨fun own => absent own.1, fun member => (plain _ member).2 rfl⟩
  cases resolves with
  | leaf plain => exact Iff.rfl
  | array each => exact Iff.rfl
  | object none_ each => exact object (.object none_ each)
  | disclosing listed each hidden => exact object (.disclosing listed each hidden)

mutual

/-- What is said of a value is said of it and of every value in it. -/
def everywhere (p : Value N → Prop) : Value N → Prop
  | .array items => p (.array items) ∧ everywhereIn p items
  | .object ms => p (.object ms) ∧ everywhereOf p ms
  | v => p v

def everywhereIn (p : Value N → Prop) : List (Value N) → Prop
  | [] => True
  | item :: rest => everywhere p item ∧ everywhereIn p rest

def everywhereOf (p : Value N → Prop) : Members N → Prop
  | [] => True
  | (_, v) :: rest => everywhere p v ∧ everywhereOf p rest

end

theorem everywhereOf_append (p : Value N → Prop) (a b : Members N) :
    everywhereOf p (a ++ b) ↔ everywhereOf p a ∧ everywhereOf p b := by
  induction a with
  | nil => simp [everywhereOf]
  | cons entry rest ih => simp [everywhereOf, ih, and_assoc]

/-- No member of an object is named `_sd`. -/
def Unreserved : Value N → Prop
  | .object ms => "_sd" ∉ names ms
  | _ => True

/-- No element of an array is an object with a `...` member. -/
def Unmarked : Value N → Prop
  | .array items => ∀ item ∈ items, marked item = none
  | _ => True

def UnreservedOf : Work N → Work N → Prop
  | .value _, .value r => everywhere Unreserved r
  | .elements _, .elements out => everywhereIn Unreserved out
  | .members _, .members out => everywhereOf Unreserved out
  | .digests out _, .members out' => everywhereOf Unreserved out → everywhereOf Unreserved out'
  | _, _ => True

theorem unreservedOf (named : Named table) (resolves : Resolves table w used w') : UnreservedOf w w' := by
  have object : ∀ {ms out : Members N} {used : List String},
      Resolves table (.value (.object ms)) used (.value (.object out)) → "_sd" ∉ names out := by
    intro ms out used resolves member
    obtain ⟨new, same, plain, _⟩ := resolves.object_names named
    rw [same] at member
    rcases mem_append.mp member with own | disclosed
    · simp at own
    · exact (plain _ disclosed).1 rfl
  induction resolves with
  | @leaf v plain =>
    cases v with
    | array items => cases plain
    | object ms => cases plain
    | _ => trivial
  | array _ ih => exact ⟨trivial, ih⟩
  | object none_ each ih => exact ⟨object (.object none_ each), ih⟩
  | disclosing listed each hidden own more => exact ⟨object (.disclosing listed each hidden), more own⟩
  | noElement => trivial
  | withheld _ _ ih => exact ih
  | disclosed _ _ _ here others => exact ⟨here, others⟩
  | element _ _ _ here others => exact ⟨here, others⟩
  | noMember => trivial
  | reserved _ ih => exact ih
  | member _ _ _ here others => exact ⟨here, others⟩
  | noDigest => exact id
  | unknown _ _ ih => exact ih
  | property _ _ _ _ here others => exact fun own => others ((everywhereOf_append _ _ _).mpr ⟨own, here, trivial⟩)

/-- No digest that was used stands for an element that is itself an object with a `...` member. -/
def Plain (table : Table N) (used : List String) : Prop :=
  ∀ d ∈ used, ∀ v, table.lookup d = some (.element v) → marked v = none

theorem plain_nil : Plain table [] := fun _ member => (not_mem_nil member).elim

theorem plain_append {used used' : List String} : Plain table (used ++ used') ↔ Plain table used ∧ Plain table used' := by
  simp only [Plain, mem_append, or_imp, forall_and]

variable {used : List String}

theorem plain_cons :
    Plain table (d :: used) ↔ (∀ v, table.lookup d = some (.element v) → marked v = none) ∧ Plain table used := by
  simp only [Plain, mem_cons, forall_eq_or_imp]

theorem plain_other (other : ∀ v, table.lookup d ≠ some (.element v)) : Plain table (d :: used) ↔ Plain table used := by
  rw [plain_cons]
  exact and_iff_right fun v known => (other v known).elim

theorem plain_element (known : table.lookup d = some (.element v)) :
    Plain table (d :: used) ↔ marked v = none ∧ Plain table used := by
  rw [plain_cons, known]
  refine and_congr_left fun _ => ⟨fun all => all v rfl, ?_⟩
  rintro plain _ ⟨⟩
  exact plain

def UnmarkedOf (table : Table N) (used : List String) : Work N → Work N → Prop
  | .value _, .value r => everywhere Unmarked r ↔ Plain table used
  | .elements _, .elements out => ((∀ r ∈ out, marked r = none) ∧ everywhereIn Unmarked out) ↔ Plain table used
  | .members _, .members out => everywhereOf Unmarked out ↔ Plain table used
  | .digests out _, .members out' => everywhereOf Unmarked out' ↔ everywhereOf Unmarked out ∧ Plain table used
  | _, _ => True

/-- An array of a result has a placeholder exactly when a disclosure that was used put one there. -/
theorem unmarkedOf (named : Named table) (resolves : Resolves table w used w') : UnmarkedOf table used w w' := by
  induction resolves with
  | @leaf v plain =>
    cases v with
    | array items => cases plain
    | object ms => cases plain
    | _ => exact iff_of_true trivial plain_nil
  | array _ ih => exact ih
  | object _ _ ih => exact (and_iff_right trivial).trans ih
  | disclosing _ _ _ own more =>
    dsimp only [UnmarkedOf] at own more ⊢
    rw [everywhere, plain_append, more, own]
    exact and_iff_right trivial
  | noElement => exact iff_of_true ⟨fun _ member => (not_mem_nil member).elim, trivial⟩ plain_nil
  | withheld unknown _ ih =>
    dsimp only [UnmarkedOf] at ih ⊢
    rw [plain_other (by rw [unknown]; exact fun _ impossible => by cases impossible)]
    exact ih
  | disclosed known deeper _ here others =>
    dsimp only [UnmarkedOf] at here others ⊢
    rw [plain_element known, plain_append, ← here, ← others, ← deeper.marked_iff named]
    simp only [mem_cons, forall_eq_or_imp, everywhereIn]
    tauto
  | element plain first _ here others =>
    dsimp only [UnmarkedOf] at here others ⊢
    rw [plain_append, ← here, ← others]
    simp only [mem_cons, forall_eq_or_imp, everywhereIn, (first.marked_iff named).mpr plain, true_and]
    tauto
  | noMember => exact iff_of_true trivial plain_nil
  | reserved _ ih => exact ih
  | member _ _ _ here others =>
    dsimp only [UnmarkedOf] at here others ⊢
    rw [plain_append, ← here, ← others]
    rfl
  | noDigest => exact (and_iff_left plain_nil).symm
  | unknown unknown _ ih =>
    dsimp only [UnmarkedOf] at ih ⊢
    rw [plain_other (by rw [unknown]; exact fun _ impossible => by cases impossible)]
    exact ih
  | property known _ _ _ here others =>
    dsimp only [UnmarkedOf] at here others ⊢
    rw [plain_other (by rw [known]; exact fun _ impossible => by cases impossible), others, plain_append,
      everywhereOf_append, ← here]
    simp only [everywhereOf, and_true]
    tauto

/-! ### Overwriting -/

def KeptIn (table : Table N) : Work N → Work N → Prop
  | .members ms, .members out => ∀ name v, (name, v) ∈ ms → name ≠ "_sd" →
      ∃ used r, (name, r) ∈ out ∧ Resolves table (.value v) used (.value r)
  | _, _ => True

theorem keptIn (resolves : Resolves table w used w') : KeptIn table w w' := by
  induction resolves with
  | noMember => exact fun _ _ member => (not_mem_nil member).elim
  | reserved _ ih =>
    intro name v member plain
    rcases mem_cons.mp member with here | later
    · cases here
      exact (plain rfl).elim
    · exact ih name v later plain
  | @member name v r rest used used' out plain here _ _ ih =>
    intro other value member plain
    rcases mem_cons.mp member with first | later
    · cases first
      exact ⟨used, r, mem_cons_self, here⟩
    · obtain ⟨used, r, found, resolved⟩ := ih other value later plain
      exact ⟨used, r, List.mem_cons_of_mem _ found, resolved⟩
  | _ => trivial

/-- A resolved object has every member that was signed, resolved, and no disclosed one of the same name. -/
theorem Resolves.not_overwritten (named : Named table) {ms out : Members N}
    (resolves : Resolves table (.value (.object ms)) used (.value (.object out))) (distinct : (names ms).Nodup) :
    (names out).Nodup ∧ ∀ name v, (name, v) ∈ ms → name ≠ "_sd" →
      ∃ used r, (name, r) ∈ out ∧ Resolves table (.value v) used (.value r) := by
  obtain ⟨_, _, _, nodup⟩ := resolves.object_names named
  refine ⟨nodup distinct, ?_⟩
  cases resolves with
  | leaf plain => cases plain
  | object _ each => exact keptIn each
  | disclosing _ each hidden =>
    obtain ⟨new, rfl, _⟩ := namesOf named hidden
    intro name v member plain
    obtain ⟨used, r, found, resolved⟩ := keptIn each name v member plain
    exact ⟨used, r, List.mem_append_left _ found, resolved⟩

end

/-! ### The resolution of claims -/

theorem resolveDisclosuresTo_ok (ok : resolveDisclosuresTo lib depth claims disclosures = .ok result) :
    ∃ table used, byDigest lib [] disclosures = .ok table ∧ Resolves table (.value (.object claims)) used (.value result) ∧
      used.Nodup ∧ ∀ text ∈ disclosures, lib.sha256Base64Url text ∈ used := by
  obtain ⟨table, built, ok⟩ := bind_ok ok
  have built : byDigest lib [] disclosures = .ok table := by
    cases tabled : byDigest lib [] disclosures with
    | error e => rw [tabled] at built; cases built
    | ok found => rw [tabled] at built; cases built; rfl
  obtain ⟨⟨resolved, seen⟩, run, ok⟩ := bind_ok ok
  obtain ⟨used, resolves, same, fresh⟩ := resolve_sound table depth _ _ _ _ run
  rw [nil_append] at same
  subst same
  dsimp only at ok
  split at ok
  · cases ok
  · rename_i all
    cases ok
    refine ⟨table, seen, built, resolves, fresh List.nodup_nil, fun text member => ?_⟩
    have digest : lib.sha256Base64Url text ∈ table.map Prod.fst := by
      rw [(tableOf_ok built).digests]
      exact List.mem_map_of_mem member
    by_contra unseen
    apply all
    intro none_
    have there : lib.sha256Base64Url text ∈ (table.map Prod.fst).filter (· ∉ seen) := by simp [digest, unseen]
    rw [none_] at there
    cases there

/-- Whatever the claims and the disclosures are, the resolution ends: no depth beyond their number is ever needed. -/
theorem resolveDisclosures_ends (claims : Members N) (disclosures : List String) (enough : disclosures.length ≤ depth) :
    resolveDisclosuresTo lib depth claims disclosures = resolveDisclosures lib claims disclosures ∧
      resolveDisclosures lib claims disclosures ≠ .error .tooDeep := by
  rw [resolveDisclosures, resolveDisclosuresTo, resolveDisclosuresTo]
  cases built : byDigest lib [] disclosures with
  | error e => exact ⟨rfl, fun impossible => by cases impossible⟩
  | ok table =>
    have few : remaining table [] ≤ disclosures.length :=
      Nat.le_of_eq (by rw [remaining_nil, (tableOf_ok built).length])
    obtain ⟨same, ends, _⟩ := resolve_settled enough (v := .object claims) few
    change (resolve table depth (.object claims) [] >>= _) = (resolve table disclosures.length (.object claims) [] >>= _) ∧
      (resolve table disclosures.length (.object claims) [] >>= _) ≠ _
    rw [← same]
    refine ⟨rfl, ?_⟩
    cases run : resolve table disclosures.length (.object claims) [] with
    | error e =>
      intro deep
      cases deep
      exact ends run
    | ok found =>
      obtain ⟨resolved, seen⟩ := found
      intro deep
      change (if _ then _ else _ : Resolving N (Value N)) = _ at deep
      split at deep
      · cases deep
      · cases deep

/-! ### What is related is accepted -/

def below (table : Table N) : Nat → Deeper N
  | 0 => fun _ _ => .error .tooDeep
  | depth + 1 => resolve table depth

theorem resolve_below (table : Table N) (depth : Nat) : resolve table depth = resolveWith table (below table depth) := by
  cases depth <;> rfl

/-- What the code comes to, from the digests seen so far. -/
def Runs (table : Table N) (used : List String) (w w' : Work N) : Prop :=
  ∀ depth seen, remaining table seen ≤ depth → (seen ++ used).Nodup →
    match w, w' with
    | .value v, .value r => resolveWith table (below table depth) v seen = .ok (r, seen ++ used)
    | .elements items, .elements out => resolveElements table (below table depth) items seen = .ok (out, seen ++ used)
    | .members ms, .members out => resolveMembers table (below table depth) ms seen = .ok (out, seen ++ used)
    | .digests out ds, .members out' => resolveDigests table (below table depth) out ds seen = .ok (out', seen ++ used)
    | _, _ => True

section
variable {table : Table N} {depth : Nat} {seen : Seen} {d : String} {used used' : List String}

theorem take_string (unseen : d ∉ seen) : take table (.string d) seen = .ok (table.lookup d, seen ++ [d]) := if_neg unseen

theorem resolveElements_placeholder (deeper : Deeper N) (rest : List (Value N)) :
    resolveElements table deeper (placeholder d :: rest) seen = (do
      let (disclosed, seen) ← take table (.string d) seen
      match disclosed with
      | none => resolveElements table deeper rest seen
      | some (.property ..) => throws "an array element points at a property disclosure" []
      | some (.element value) =>
        let (resolved, seen) ← deeper value seen
        let (out, seen) ← resolveElements table deeper rest seen
        pure (resolved :: out, seen)) := by
  rw [resolveElements]
  rfl

theorem fewer (few : remaining table seen ≤ depth) (more : List String) : remaining table (seen ++ more) ≤ depth :=
  Nat.le_trans (remaining_le (List.subset_append_left _ _)) few

end

theorem runs {w w' : Work N} (resolves : Resolves table w used w') : Runs table used w w' := by
  induction resolves with
  | @leaf v plain =>
    intro depth seen _ _
    cases v with
    | array items => cases plain
    | object ms => cases plain
    | _ => simp [resolveWith]
  | array _ ih =>
    intro depth seen few nodup
    dsimp only
    rw [resolveWith, ih depth seen few nodup]
    rfl
  | object none_ _ ih =>
    intro depth seen few nodup
    dsimp only
    rw [resolveWith, ih depth seen few nodup]
    simp only [none_]
    rfl
  | @disclosing ms ds used used' out out' listed _ _ own more =>
    intro depth seen few nodup
    rw [← append_assoc] at nodup
    dsimp only
    rw [resolveWith, own depth seen few nodup.of_append_left, ← append_assoc]
    have later := more depth (seen ++ used) (fewer few used) nodup
    dsimp only at later
    simp only [listed]
    change (resolveDigests _ _ _ _ _ >>= _) = _
    rw [later]
    rfl
  | noElement =>
    intro depth seen _ _
    simp [resolveElements]
  | @withheld d rest used out unknown _ ih =>
    intro depth seen few nodup
    obtain ⟨unseen, later⟩ := unseen_of_nodup nodup
    have others := ih depth (seen ++ [d]) (fewer few [d]) later
    dsimp only at others ⊢
    rw [resolveElements_placeholder, take_string unseen, unknown]
    change resolveElements _ _ rest _ = _
    rw [others]
    simp
  | @disclosed d v r rest used used' out known _ _ here others =>
    intro depth seen few nodup
    obtain ⟨unseen, later⟩ := unseen_of_nodup nodup
    rw [← append_assoc] at later
    have less : remaining table (seen ++ [d]) < depth := Nat.lt_of_lt_of_le (remaining_take known unseen) few
    cases depth with
    | zero => exact absurd less (Nat.not_lt_zero _)
    | succ depth =>
      have first := here depth (seen ++ [d]) (Nat.le_of_lt_succ less) later.of_append_left
      have second := others (depth + 1) (seen ++ [d] ++ used) (fewer (fewer few [d]) used) later
      dsimp only at first second ⊢
      rw [resolveElements_placeholder, take_string unseen, known]
      change (resolve table depth v _ >>= _) = _
      rw [resolve_below, first]
      change (resolveElements _ _ rest _ >>= _) = _
      rw [second]
      simp
  | @element item r rest used used' out plain _ _ here others =>
    intro depth seen few nodup
    rw [← append_assoc] at nodup
    have first := here depth seen few nodup.of_append_left
    have second := others depth (seen ++ used) (fewer few used) nodup
    dsimp only at first second ⊢
    rw [resolveElements, plain]
    change (resolveWith _ _ item _ >>= _) = _
    rw [first]
    change (resolveElements _ _ rest _ >>= _) = _
    rw [second, ← append_assoc]
    rfl
  | noMember =>
    intro depth seen _ _
    simp [resolveMembers]
  | reserved _ ih =>
    intro depth seen few nodup
    have others := ih depth seen few nodup
    dsimp only at others ⊢
    rw [resolveMembers, if_pos rfl, others]
  | @member name v r rest used used' out plain _ _ here others =>
    intro depth seen few nodup
    rw [← append_assoc] at nodup
    have first := here depth seen few nodup.of_append_left
    have second := others depth (seen ++ used) (fewer few used) nodup
    dsimp only at first second ⊢
    rw [resolveMembers, if_neg plain, first]
    change (resolveMembers _ _ rest _ >>= _) = _
    rw [second, ← append_assoc]
    rfl
  | noDigest =>
    intro depth seen _ _
    simp [resolveDigests]
  | @unknown d out rest used out' unknown _ ih =>
    intro depth seen few nodup
    obtain ⟨unseen, later⟩ := unseen_of_nodup nodup
    have others := ih depth (seen ++ [d]) (fewer few [d]) later
    dsimp only at others ⊢
    rw [resolveDigests, take_string unseen, unknown]
    change resolveDigests _ _ _ rest _ = _
    rw [others]
    simp
  | @property d name v r out rest used used' out' known new _ _ here others =>
    intro depth seen few nodup
    obtain ⟨unseen, later⟩ := unseen_of_nodup nodup
    rw [← append_assoc] at later
    have less : remaining table (seen ++ [d]) < depth := Nat.lt_of_lt_of_le (remaining_take known unseen) few
    cases depth with
    | zero => exact absurd less (Nat.not_lt_zero _)
    | succ depth =>
      have first := here depth (seen ++ [d]) (Nat.le_of_lt_succ less) later.of_append_left
      have second := others (depth + 1) (seen ++ [d] ++ used) (fewer (fewer few [d]) used) later
      dsimp only at first second ⊢
      rw [resolveDigests, take_string unseen, known]
      change (if name ∈ names out then _ else (resolve table depth v _ >>= _)) = _
      rw [if_neg new, resolve_below, first]
      change resolveDigests _ _ _ rest _ = _
      rw [second]
      simp

/-- What the processing relates is what the code returns, when every disclosure is used, and none twice. -/
theorem resolveDisclosures_complete (built : byDigest lib [] disclosures = .ok table)
    (resolves : Resolves table (.value (.object claims)) used (.value result)) (nodup : used.Nodup)
    (all : ∀ text ∈ disclosures, lib.sha256Base64Url text ∈ used)
    : resolveDisclosures lib claims disclosures = .ok result := by
  have few : remaining table [] ≤ disclosures.length :=
    Nat.le_of_eq (by rw [remaining_nil, (tableOf_ok built).length])
  have run := runs resolves disclosures.length [] few nodup
  dsimp only at run
  rw [nil_append, ← resolve_below] at run
  have unused : (table.map Prod.fst).filter (· ∉ used) = [] := by
    rw [List.filter_eq_nil_iff, (tableOf_ok built).digests]
    intro digest member
    obtain ⟨text, presented, rfl⟩ := mem_map.mp member
    simpa using all text presented
  rw [resolveDisclosures, resolveDisclosuresTo, built]
  change (resolve table disclosures.length (.object claims) [] >>= _) = _
  rw [run]
  change (if (table.map Prod.fst).filter _ ≠ [] then _ else _ : Resolving N (Value N)) = _
  rw [unused]
  rfl

end AgentPey.Disclosures
