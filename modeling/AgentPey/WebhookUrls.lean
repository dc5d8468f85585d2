import AgentPey.AgentPass
import AgentPey.IpAddresses
import Mathlib.Data.List.Induction
import Mathlib.Data.List.TakeWhile

/-!
Where a webhook may be sent: `webhook-url.ts`. Delivery resolves the endpoint's host and refuses it when any of its
addresses is one that the public internet does not route to; `isPrivateAddress` tells that from the address's text.
-/
namespace AgentPey.WebhookUrls
open AgentPass IpAddresses

/-- `isIP` of `node:net`. -/
def isIP (text : Text) : Nat :=
  if (parseIpv4 text).isSome then 4 else if (parseIpv6 text).isSome then 6 else 0

/-! ### The check -/

def isDecimal (c : Char) : Bool := (digitValue 10 c).isSome

/-- `Number.parseInt(part, 10)` of a part with neither white space nor a sign: `none` is `NaN`. -/
def parseInt (part : Text) : Option Nat :=
  if part.takeWhile isDecimal = [] then none else numeral 10 (part.takeWhile isDecimal)

/-- The ranges of `isPrivateIpv4`, by the first two octets. -/
def notRouted (a b : Nat) : Bool :=
  if a = 0 then true -- "this network"
  else if a = 10 then true -- RFC 1918
  else if a = 127 then true -- loopback
  else if a = 169 ∧ b = 254 then true -- link-local
  else if a = 172 ∧ b ≥ 16 ∧ b ≤ 31 then true -- RFC 1918
  else if a = 192 ∧ b = 168 then true -- RFC 1918
  else if a = 100 ∧ b ≥ 64 ∧ b ≤ 127 then true -- RFC 6598
  else if a = 192 ∧ b = 0 then true -- RFC 6890
  else if a ≥ 224 then true -- multicast, reserved, broadcast
  else false

def isPrivateIpv4 (address : Text) : Bool :=
  let parts := (address.splitOn '.').map parseInt
  match parts with
  | some a :: some b :: rest => if rest.any Option.isNone then true else notRouted a b
  | _ => true

/-- `replace(/^\[|\]$/g, "")`. -/
def unbracketed (text : Text) : Text :=
  let text := if text.head? = some '[' then text.tail else text
  if text.getLast? = some ']' then text.dropLast else text

def isLineTerminator (c : Char) : Bool := c = '\n' ∨ c = '\r' ∨ c.toNat = 0x2028 ∨ c.toNat = 0x2029

/-- The group of `/^::ffff:(.+)$/`. -/
def mappedTail (lower : Text) : Option Text :=
  if "::ffff:".toList.isPrefixOf lower then
    let inner := lower.drop 7
    if inner ≠ [] ∧ ¬inner.any isLineTerminator then some inner else none
  else none

def isPrivateIpv6 (address : Text) : Bool :=
  let lower := unbracketed (lowerCase address)
  if lower = "::".toList ∨ lower = "::1".toList then true -- unspecified, loopback
  else if "fe80".toList.isPrefixOf lower then true -- link-local
  else if "fc".toList.isPrefixOf lower ∨ "fd".toList.isPrefixOf lower then true -- unique local
  else if "ff".toList.isPrefixOf lower then true -- multicast
  else match mappedTail lower with
    -- The hex form: anything that cannot be read is private.
    | some inner => if isIP inner = 4 then isPrivateIpv4 inner else true
    | none => false

/-- True when `address` is one the public internet does not route to. -/
def isPrivateAddress (address : String) : Bool :=
  let family := isIP address.toList
  if family = 4 then isPrivateIpv4 address.toList
  else if family = 6 then isPrivateIpv6 address.toList
  else true

def refuse (reason : String) (details : Details) : Thrown := .AgentPassError "WebhookUrlNotAllowed" reason details

/-- `resolved` is what the resolver answers: the text of the error it throws, or the addresses of the name. -/
def assertWebhookUrlResolvesPublicly (hostname : String) (resolved : Except String (List String)) : Result Unit :=
  match resolved with
  | .error cause =>
    .error (refuse "could not resolve that webhook endpoint's host" [("host", .string hostname), ("cause", .string cause)])
  | .ok addresses =>
    if addresses = [] then
      .error (refuse "that webhook endpoint's host resolves to nothing" [("host", .string hostname)])
    else
      let privateAddresses := addresses.filter isPrivateAddress
      if privateAddresses = [] then .ok ()
      else .error (refuse "that webhook endpoint's host resolves to a private address"
        [("host", .string hostname), ("addresses", strings privateAddresses)])

/-! ### The law -/

/-- Unspecified, loopback, link-local, private and multicast IPv4 addresses. -/
def ranges4 : List Range :=
  [⟨0, 32⟩, ⟨0x7f000000, 8⟩, ⟨0xa9fe0000, 16⟩, ⟨0x0a000000, 8⟩, ⟨0xac100000, 12⟩, ⟨0xc0a80000, 16⟩, ⟨0xe0000000, 4⟩]

def unspecified : Range := ⟨0, 128⟩
def loopback : Range := ⟨1, 128⟩
def linkLocal : Range := ⟨0xfe80 * 2 ^ 112, 10⟩
def uniqueLocal : Range := ⟨0xfc00 * 2 ^ 112, 7⟩
def multicast : Range := ⟨0xff00 * 2 ^ 112, 8⟩
/-- `::ffff:0:0/96`, the IPv4 addresses as IPv6 ones. -/
def mapped : Range := ⟨0xffff * 2 ^ 32, 96⟩

def Inward4 (v : Nat) : Prop := ∃ r ∈ ranges4, r.contains 32 v = true

def Inward6 (v : Nat) : Prop :=
  (∃ r ∈ [unspecified, loopback, linkLocal, uniqueLocal, multicast], r.contains 128 v = true) ∨
    mapped.contains 128 v = true ∧ Inward4 (v % 2 ^ 32)

/-- A text of an address that must not be reached. -/
def Inward (address : String) : Prop :=
  (∃ v, parseIpv4 address.toList = some v ∧ Inward4 v) ∨ ∃ v, parseIpv6 address.toList = some v ∧ Inward6 v

/-- The spellings the check knows, of an IPv6 address in lower case. -/
def Spelled (lower : Text) (v : Nat) : Prop :=
  (unspecified.contains 128 v = true → lower = "::".toList) ∧ (loopback.contains 128 v = true → lower = "::1".toList) ∧
    (linkLocal.contains 128 v = true → v / 2 ^ 112 = 0xfe80) ∧
    (mapped.contains 128 v = true → "::ffff:".toList.isPrefixOf lower = true)

/-- What is recognised: every IPv4 address, and the IPv6 addresses in the spellings the check knows. -/
def Recognised (address : String) : Prop :=
  (∃ v, parseIpv4 address.toList = some v) ∨
    ∃ v, parseIpv6 address.toList = some v ∧ Spelled (lowerCase address.toList) v

/-! ### IPv4 -/

theorem parseInt_octet {part : Text} {n : Nat} (read : octet part = some n) : parseInt part = some n := by
  have number := (octet_eq read).1
  have whole : part.takeWhile isDecimal = part := by
    refine List.takeWhile_eq_self_iff.mpr fun c member => ?_
    obtain ⟨d, digit⟩ := numeralFrom_digits number c member
    simp [isDecimal, digit]
  have filled : part ≠ [] := by
    rintro rfl
    simp [octet] at read
  rw [parseInt, whole, if_neg filled, number]

variable {v g : Nat} {text inner : Text} {address : String}

theorem octets_of {a b : Nat} (first : v / 65536 = a * 256 + b) (small : b < 256) (inward : Inward4 v) :
    a = 0 ∨ a = 10 ∨ a = 127 ∨ a = 169 ∧ b = 254 ∨ a = 172 ∧ b ≥ 16 ∧ b ≤ 31 ∨ a = 192 ∧ b = 168 ∨ a ≥ 224 := by
  obtain ⟨r, listed, within⟩ := inward
  have top : ∀ n, v / (65536 * n) = (a * 256 + b) / n := fun n => by rw [← Nat.div_div_eq_div_mul, first]
  have octet := top 256
  have nibble := top 4096
  have twelve := top 16
  simp only [ranges4, List.mem_cons, List.not_mem_nil, or_false] at listed
  rcases listed with rfl | rfl | rfl | rfl | rfl | rfl | rfl
  all_goals
    simp only [Range.contains, decide_eq_true_eq, Nat.reduceSub, Nat.reducePow, Nat.reduceDiv, Nat.reduceMul] at *
    omega

theorem notRouted_of {a b : Nat}
    (outside : a = 0 ∨ a = 10 ∨ a = 127 ∨ a = 169 ∧ b = 254 ∨ a = 172 ∧ b ≥ 16 ∧ b ≤ 31 ∨ a = 192 ∧ b = 168 ∨ a ≥ 224) :
    notRouted a b = true := by
  unfold notRouted
  rcases outside with rfl | rfl | rfl | ⟨rfl, rfl⟩ | ⟨rfl, low, high⟩ | ⟨rfl, rfl⟩ | top
  · rfl
  · rfl
  · rfl
  · rfl
  · simp [low, high]
  · rfl
  · simp [top]

theorem isPrivateIpv4_of (parsed : parseIpv4 text = some v) (inward : Inward4 v) : isPrivateIpv4 text = true := by
  obtain ⟨p, q, r, s, a, b, c, d, split, ha, hb, hc, hd, rfl⟩ := parseIpv4_eq parsed
  have small := (octet_eq hb).2
  have last := (octet_eq hc).2
  have last' := (octet_eq hd).2
  have first : (((a * 256 + b) * 256 + c) * 256 + d) / 65536 = a * 256 + b := by omega
  have routed := notRouted_of (octets_of first small inward)
  simp [isPrivateIpv4, split, parseInt_octet ha, parseInt_octet hb, parseInt_octet hc, parseInt_octet hd, routed]

/-! ### IPv6 -/

variable {lower : Text} {groups : List Nat}

theorem groupsOf_eq (read : groupsOf lower = some groups) :
    ∃ addr zone, lower = addr ++ zone ∧ addr = lower.takeWhile (· ≠ '%') ∧ isZone zone = true ∧
      readAddress addr = some groups := by
  unfold groupsOf at read
  split_ifs at read with zoned
  exact ⟨_, _, List.takeWhile_append_dropWhile.symm, rfl, zoned, read⟩

theorem digits_all {P : Char → Prop} [DecidablePred P] (checked : digits.all (fun c => decide (P c)) = true) :
    ∀ c ∈ digits, P c := fun c member => of_decide_eq_true (List.all_eq_true.mp checked c member)

theorem plain_chars (read : groupsOf lower = some groups) : ∀ c ∈ lower, c ≠ '[' ∧ c ≠ ']' ∧ isLineTerminator c = false := by
  have digit : ∀ c ∈ digits, c ≠ '[' ∧ c ≠ ']' ∧ isLineTerminator c = false := digits_all (by decide)
  have alphanumeric : ∀ c : Char, c.isAlphanum = true → c ≠ '[' ∧ c ≠ ']' ∧ isLineTerminator c = false := by
    intro c shown
    refine ⟨?_, ?_, ?_⟩
    · rintro rfl
      exact absurd shown (by decide)
    · rintro rfl
      exact absurd shown (by decide)
    · rw [isLineTerminator, decide_eq_false_iff_not]
      rintro (rfl | rfl | wide | wide)
      · exact absurd shown (by decide)
      · exact absurd shown (by decide)
      all_goals
        rw [← Char.ofNat_toNat c, wide] at shown
        exact absurd shown (by decide)
  obtain ⟨addr, zone, rfl, _, zoned, address⟩ := groupsOf_eq read
  rw [List.forall_mem_append]
  constructor
  · intro c member
    have shown := (readAddress_spec address).2.2 c member
    simp only [addressChar, decide_eq_true_eq] at shown
    rcases shown with among | rfl | rfl
    · exact digit c among
    · decide
    · decide
  · cases zone with
    | nil => simp
    | cons c name =>
      simp only [isZone, decide_eq_true_eq] at zoned
      obtain ⟨rfl, _, shown⟩ := zoned
      rw [List.forall_mem_cons]
      refine ⟨by decide, fun c member => ?_⟩
      have kind := List.all_eq_true.mp shown c member
      simp only [zoneChar, decide_eq_true_eq] at kind
      rcases kind with among | among | rfl | rfl | rfl
      · exact digit c among
      · exact alphanumeric c among
      · decide
      · decide
      · decide

theorem unbracketed_eq (read : groupsOf lower = some groups) : unbracketed lower = lower := by
  have plain := plain_chars read
  have noFirst : lower.head? ≠ some '[' := fun first => (plain '[' (List.mem_of_mem_head? first)).1 rfl
  have noLast : lower.getLast? ≠ some ']' := fun last => (plain ']' (List.mem_of_mem_getLast? last)).2.1 rfl
  simp only [unbracketed, noFirst, noLast, ↓reduceIte]

variable {more : List Nat}

theorem first_pos {rest : Text} (read : groupsOf ('f' :: rest) = some (g :: more)) : 0 < g := by
  obtain ⟨addr, zone, same, taken, _, address⟩ := groupsOf_eq read
  rw [List.takeWhile_cons, if_pos (by decide)] at taken
  subst taken
  rcases readAddress_first address with ⟨_, _, impossible, _⟩ | ⟨piece, rest', g', _, split, parsed, groups⟩
  · cases impossible
  · obtain ⟨rfl, _⟩ := List.cons.inj groups
    cases piece with
    | nil => exact absurd rfl (hexGroup_eq parsed).1
    | cons c piece =>
      obtain ⟨rfl, _⟩ := List.cons.inj split
      exact hexGroup_pos parsed (d := 15) (by decide) (by decide)

theorem first_four (read : groupsOf lower = some (g :: more)) (large : 4096 ≤ g) :
    ∃ c₀ c₁ c₂ c₃ rest d₀ d₁ d₂ d₃, lower = c₀ :: c₁ :: c₂ :: c₃ :: rest ∧ digitValue 16 c₀ = some d₀ ∧
      digitValue 16 c₁ = some d₁ ∧ digitValue 16 c₂ = some d₂ ∧ digitValue 16 c₃ = some d₃ ∧
      g = ((d₀ * 16 + d₁) * 16 + d₂) * 16 + d₃ := by
  obtain ⟨addr, zone, rfl, _, _, address⟩ := groupsOf_eq read
  rcases readAddress_first address with ⟨_, _, _, zero⟩ | ⟨piece, rest, g', _, rfl, parsed, groups⟩
  · obtain ⟨rfl, _⟩ := List.cons.inj zero
    omega
  · obtain ⟨rfl, _⟩ := List.cons.inj groups
    obtain ⟨c₀, c₁, c₂, c₃, d₀, d₁, d₂, d₃, rfl, v₀, v₁, v₂, v₃, total⟩ := hexGroup_four parsed large
    exact ⟨c₀, c₁, c₂, c₃, rest ++ zone, d₀, d₁, d₂, d₃, rfl, v₀, v₁, v₂, v₃, total⟩

theorem mapped_groups (read : groupsOf ("::ffff:".toList ++ inner) = some groups) :
    ∃ more, readGroups true ((inner.takeWhile (· ≠ '%')).splitOn ':') = some more ∧ more ≠ [] ∧ more.length < 7 ∧
      groups = List.replicate (7 - more.length) 0 ++ 0xffff :: more := by
  obtain ⟨addr, zone, _, taken, _, address⟩ := groupsOf_eq read
  have head : ("::ffff:".toList ++ inner).takeWhile (· ≠ '%') = "::ffff:".toList ++ inner.takeWhile (· ≠ '%') := by
    rw [List.takeWhile_append_of_pos (List.all_eq_true.mp (by decide))]
  rw [head] at taken
  subst taken
  have opened : "::ffff:".toList ++ inner.takeWhile (· ≠ '%') =
      ':' :: ':' :: ("ffff:".toList ++ inner.takeWhile (· ≠ '%')) := rfl
  rw [opened] at address
  obtain ⟨after, side, few, rfl⟩ := readAddress_zeros address
  have pieces : ("ffff:".toList ++ inner.takeWhile (· ≠ '%')).splitOn ':' =
      "ffff".toList :: (inner.takeWhile (· ≠ '%')).splitOn ':' := by
    have split := List.splitOn_append_cons_self (a := ':') "ffff".toList (inner.takeWhile (· ≠ '%'))
    have alone : "ffff".toList.splitOn ':' = ["ffff".toList] := by decide
    rw [alone] at split
    exact split
  rw [readSide, if_neg (by simp), pieces] at side
  obtain ⟨here, more, rfl, rest, form⟩ := readGroups_cons side
  have group : here = [0xffff] := by
    rcases form with ⟨_, none, _⟩ | ⟨g, parsed, rfl⟩
    · exact absurd none (List.splitOn_ne_nil ':' _)
    · have ffff : hexGroup "ffff".toList = some 0xffff := by decide
      rw [ffff] at parsed
      rw [Option.some.inj parsed]
  subst group
  have filled : more ≠ [] := by
    rintro rfl
    obtain ⟨piece, pieces, split⟩ := List.exists_cons_of_ne_nil (List.splitOn_ne_nil ':' (inner.takeWhile (· ≠ '%')))
    rw [split] at rest
    obtain ⟨here, more, empty, _, form⟩ := readGroups_cons rest
    rcases form with ⟨_, _, _, _, rfl⟩ | ⟨_, _, rfl⟩ <;> simp at empty
  simp only [List.cons_append, List.nil_append, List.length_cons] at few ⊢
  refine ⟨more, rest, filled, by omega, ?_⟩
  rw [show 8 - (more.length + 1) = 7 - more.length by omega]

theorem mapped_ipv4 {w : Nat} (parsed : parseIpv4 inner = some w)
    (read : readGroups true ((inner.takeWhile (· ≠ '%')).splitOn ':') = some more) : more = [w / 65536, w % 65536] := by
  have chars := parseIpv4_chars parsed
  have percent : '%' ∉ inner := fun member => by
    rcases chars _ member with among | same
    · exact absurd among (by decide)
    · exact absurd same (by decide)
  have colon : ':' ∉ inner := fun member => by
    rcases chars _ member with among | same
    · exact absurd among (by decide)
    · exact absurd same (by decide)
  have whole : inner.takeWhile (· ≠ '%') = inner := by
    refine List.takeWhile_eq_self_iff.mpr fun c member => ?_
    have other : c ≠ '%' := fun same => percent (same ▸ member)
    simpa using other
  rw [whole, List.splitOn_eq_singleton colon] at read
  obtain ⟨here, none, rfl, rest, form⟩ := readGroups_cons read
  obtain rfl : [] = none := Option.some.inj rest
  rcases form with ⟨_, _, v, again, rfl⟩ | ⟨g, group, rfl⟩
  · obtain rfl : w = v := Option.some.inj (parsed.symm.trans again)
    rw [List.append_nil]
  · -- A group has no dots, and four octets have.
    have dot : '.' ∉ inner := fun member => by
      have among := numeral_chars (hexGroup_eq group).2.2 _ member
      exact absurd among (by decide)
    obtain ⟨_, _, _, _, _, _, _, _, split, _⟩ := parseIpv4_eq parsed
    rw [List.splitOn_eq_singleton dot] at split
    simp at split

/-! ### Values and spellings -/

theorem value_append (before after : List Nat) : value (before ++ after) = value before * 65536 ^ after.length + value after := by
  induction after using List.reverseRecOn with
  | nil => simp [value]
  | append_singleton after g ih =>
    have step : ∀ groups : List Nat, value (groups ++ [g]) = 65536 * value groups + g := fun groups => by simp [value]
    rw [← List.append_assoc, step, step, ih, List.length_append, List.length_singleton, Nat.pow_succ]
    have product : 65536 * (value before * 65536 ^ after.length) = value before * (65536 ^ after.length * 65536) := by
      rw [← Nat.mul_assoc, Nat.mul_comm 65536, Nat.mul_assoc, Nat.mul_comm 65536]
    omega

theorem value_lt (small : ∀ g ∈ groups, g < 65536) : value groups < 65536 ^ groups.length := by
  induction groups using List.reverseRecOn with
  | nil => decide
  | append_singleton groups g ih =>
    have last := small g (by simp)
    have earlier := ih fun g member => small g (by simp [member])
    have step : value (groups ++ [g]) = 65536 * value groups + g := by simp [value]
    rw [step, List.length_append, List.length_singleton, Nat.pow_succ]
    omega

theorem value_zeros (n : Nat) (after : List Nat) : value (List.replicate n 0 ++ after) = value after := by
  have zero : value (List.replicate n 0) = 0 := by
    induction n with
    | zero => rfl
    | succ n ih => simpa [List.replicate_succ, value] using ih
  rw [value_append, zero, Nat.zero_mul, Nat.zero_add]

theorem value_first (eight : (g :: more).length = 8) (small : ∀ g' ∈ g :: more, g' < 65536) :
    value (g :: more) / 2 ^ 112 = g := by
  have seven : more.length = 7 := by simpa using eight
  have rest : value more < 65536 ^ 7 := seven ▸ value_lt fun g' member => small g' (List.mem_cons_of_mem g member)
  have split := value_append [g] more
  have one : value [g] = g := by simp [value]
  rw [List.singleton_append, seven, one] at split
  rw [split]
  omega

/-- An address that begins with `::ffff:` is neither the unspecified nor the loopback one. -/
theorem mapped_large (read : groupsOf ("::ffff:".toList ++ inner) = some groups) : 1 < value groups := by
  obtain ⟨more, _, filled, _, rfl⟩ := mapped_groups read
  have positive : 65536 ≤ 65536 ^ more.length := Nat.le_self_pow (by simpa using filled) 65536
  have split := value_append [0xffff] more
  have one : value [0xffff] = 0xffff := by decide
  rw [List.singleton_append, one] at split
  rw [value_zeros, split]
  omega

theorem digit_eq {c x : Char} {d e : Nat} (value : digitValue 16 c = some d) (other : digitValue 16 x = some e) :
    x = c ↔ d = e := by
  constructor
  · rintro rfl
    exact Option.some.inj (value.symm.trans other)
  · rintro rfl
    exact Option.some.inj ((digitValue_eq other).2.symm.trans (digitValue_eq value).2)

theorem prefixes (read : groupsOf lower = some (g :: more)) (large : 4096 ≤ g) :
    ("fe80".toList.isPrefixOf lower = true ↔ g = 0xfe80) ∧ ("fc".toList.isPrefixOf lower = true ↔ g / 256 = 0xfc) ∧
      ("fd".toList.isPrefixOf lower = true ↔ g / 256 = 0xfd) ∧ ("ff".toList.isPrefixOf lower = true ↔ g / 256 = 0xff) ∧
      ":".toList.isPrefixOf lower = false := by
  obtain ⟨c₀, c₁, c₂, c₃, rest, d₀, d₁, d₂, d₃, rfl, v₀, v₁, v₂, v₃, rfl⟩ := first_four read large
  have s₀ := (digitValue_eq v₀).1
  have s₁ := (digitValue_eq v₁).1
  have s₂ := (digitValue_eq v₂).1
  have s₃ := (digitValue_eq v₃).1
  have f₀ := digit_eq v₀ (x := 'f') (e := 15) (by decide)
  have c₁' := digit_eq v₁ (x := 'c') (e := 12) (by decide)
  have d₁' := digit_eq v₁ (x := 'd') (e := 13) (by decide)
  have e₁ := digit_eq v₁ (x := 'e') (e := 14) (by decide)
  have f₁ := digit_eq v₁ (x := 'f') (e := 15) (by decide)
  have e₂ := digit_eq v₂ (x := '8') (e := 8) (by decide)
  have z₃ := digit_eq v₃ (x := '0') (e := 0) (by decide)
  have colon : ':' ≠ c₀ := by
    rintro rfl
    have none : digitValue 16 ':' = none := by decide
    rw [none] at v₀
    cases v₀
  simp only [List.isPrefixOf_iff_prefix, show "fe80".toList = ['f', 'e', '8', '0'] from rfl,
    show "fc".toList = ['f', 'c'] from rfl, show "fd".toList = ['f', 'd'] from rfl, show "ff".toList = ['f', 'f'] from rfl,
    ← Bool.not_eq_true, show ":".toList = [':'] from rfl, List.cons_prefix_cons, List.nil_prefix, and_true, f₀, c₁', d₁', e₁,
    f₁, e₂, z₃, colon, not_false_eq_true]
  omega

theorem prefixed {pre lower : Text} : pre.isPrefixOf lower = true ↔ ∃ rest, lower = pre ++ rest := by
  rw [List.isPrefixOf_iff_prefix]
  exact ⟨fun ⟨rest, same⟩ => ⟨rest, same.symm⟩, fun ⟨rest, same⟩ => ⟨rest, same.symm⟩⟩

theorem isPrivateIpv6_branches {address : Text} (read : groupsOf (lowerCase address) = some groups) :
    isPrivateIpv6 address = true ↔
      lowerCase address = "::".toList ∨ lowerCase address = "::1".toList ∨
        "fe80".toList.isPrefixOf (lowerCase address) = true ∨ "fc".toList.isPrefixOf (lowerCase address) = true ∨
        "fd".toList.isPrefixOf (lowerCase address) = true ∨ "ff".toList.isPrefixOf (lowerCase address) = true ∨
        ∃ inner, lowerCase address = "::ffff:".toList ++ inner ∧ inner ≠ [] ∧
          (isIP inner = 4 → isPrivateIpv4 inner = true) := by
  have tail : mappedTail (lowerCase address) = if "::ffff:".toList.isPrefixOf (lowerCase address) = true ∧
      (lowerCase address).drop 7 ≠ [] then some ((lowerCase address).drop 7) else none := by
    have plain : ((lowerCase address).drop 7).any isLineTerminator = false := by
      refine List.any_eq_false.mpr fun c member => ?_
      simpa using (plain_chars read c (List.mem_of_mem_drop member)).2.2
    unfold mappedTail
    by_cases opened : "::ffff:".toList.isPrefixOf (lowerCase address) = true
    · rw [if_pos opened]
      by_cases filled : (lowerCase address).drop 7 ≠ []
      · exact (if_pos ⟨filled, Bool.eq_false_iff.mp plain⟩).trans (if_pos ⟨opened, filled⟩).symm
      · exact (if_neg fun both => filled both.1).trans (if_neg fun both => filled both.2).symm
    · exact (if_neg opened).trans (if_neg fun both => opened both.1).symm
  have behind : ∀ inner, lowerCase address = "::ffff:".toList ++ inner → (lowerCase address).drop 7 = inner := by
    intro inner same
    rw [same]
    rfl
  unfold isPrivateIpv6
  rw [unbracketed_eq read]
  dsimp only
  rw [tail]
  by_cases known : lowerCase address = "::".toList ∨ lowerCase address = "::1".toList
  · rw [if_pos known]
    refine iff_of_true rfl ?_
    rcases known with same | same
    · exact .inl same
    · exact .inr (.inl same)
  rw [if_neg known]
  by_cases link : "fe80".toList.isPrefixOf (lowerCase address) = true
  · rw [if_pos link]
    exact iff_of_true rfl (.inr (.inr (.inl link)))
  rw [if_neg link]
  by_cases unique : "fc".toList.isPrefixOf (lowerCase address) = true ∨ "fd".toList.isPrefixOf (lowerCase address) = true
  · rw [if_pos unique]
    refine iff_of_true rfl ?_
    rcases unique with same | same
    · exact .inr (.inr (.inr (.inl same)))
    · exact .inr (.inr (.inr (.inr (.inl same))))
  rw [if_neg unique]
  by_cases multi : "ff".toList.isPrefixOf (lowerCase address) = true
  · rw [if_pos multi]
    exact iff_of_true rfl (.inr (.inr (.inr (.inr (.inr (.inl multi))))))
  rw [if_neg multi]
  by_cases opened : "::ffff:".toList.isPrefixOf (lowerCase address) = true ∧ (lowerCase address).drop 7 ≠ []
  · obtain ⟨inner, same⟩ := prefixed.mp opened.1
    have rest := behind inner same
    rw [if_pos opened, rest]
    have filled : inner ≠ [] := rest ▸ opened.2
    have answer : (if isIP inner = 4 then isPrivateIpv4 inner else true) = true ↔
        (isIP inner = 4 → isPrivateIpv4 inner = true) := by
      by_cases four : isIP inner = 4
      · simp only [four, ↓reduceIte, forall_const]
      · simp only [four, ↓reduceIte, false_imp_iff]
    refine answer.trans ⟨fun outcome => .inr (.inr (.inr (.inr (.inr (.inr ⟨inner, same, filled, outcome⟩))))), ?_⟩
    rintro (same' | same' | same' | same' | same' | same' | ⟨inner', same', _, outcome⟩)
    · exact absurd (.inl same') known
    · exact absurd (.inr same') known
    · exact absurd same' link
    · exact absurd (.inl same') unique
    · exact absurd (.inr same') unique
    · exact absurd same' multi
    · rwa [← rest, behind inner' same']
  · rw [if_neg opened]
    refine iff_of_false (by simp) ?_
    rintro (same | same | same | same | same | same | ⟨inner, same, filled, _⟩)
    · exact known (.inl same)
    · exact known (.inr same)
    · exact link same
    · exact unique (.inl same)
    · exact unique (.inr same)
    · exact multi same
    · exact opened ⟨prefixed.mpr ⟨inner, same⟩, by rwa [behind inner same]⟩

/-! ### The ranges by their bits -/

theorem contains_iff (width : Nat) (r : Range) (v : Nat) :
    r.contains width v = true ↔ v / 2 ^ (width - r.length) = r.base / 2 ^ (width - r.length) := decide_eq_true_iff

theorem unspecified_iff (v : Nat) : unspecified.contains 128 v = true ↔ v = 0 := by
  rw [contains_iff, show 128 - unspecified.length = 0 from rfl, Nat.pow_zero, Nat.div_one, Nat.div_one]
  rfl

theorem loopback_iff (v : Nat) : loopback.contains 128 v = true ↔ v = 1 := by
  rw [contains_iff, show 128 - loopback.length = 0 from rfl, Nat.pow_zero, Nat.div_one, Nat.div_one]
  rfl

theorem linkLocal_iff (v : Nat) : linkLocal.contains 128 v = true ↔ v / 2 ^ 112 / 64 = 0xfe80 / 64 := by
  rw [contains_iff, Nat.div_div_eq_div_mul]
  rfl

theorem uniqueLocal_iff (v : Nat) : uniqueLocal.contains 128 v = true ↔ v / 2 ^ 112 / 512 = 0xfc00 / 512 := by
  rw [contains_iff, Nat.div_div_eq_div_mul]
  rfl

theorem multicast_iff (v : Nat) : multicast.contains 128 v = true ↔ v / 2 ^ 112 / 256 = 0xff := by
  rw [contains_iff, Nat.div_div_eq_div_mul]
  rfl

theorem mapped_iff (v : Nat) : mapped.contains 128 v = true ↔ v / 2 ^ 32 = 0xffff := by
  rw [contains_iff]
  rfl

/-! ### What is recognised -/

theorem value_colons (read : groupsOf lower = some groups) :
    (lower = "::".toList → value groups = 0) ∧ (lower = "::1".toList → value groups = 1) := by
  constructor
  · rintro rfl
    rw [show groupsOf "::".toList = some [0, 0, 0, 0, 0, 0, 0, 0] by decide] at read
    rw [← Option.some.inj read]
    rfl
  · rintro rfl
    rw [show groupsOf "::1".toList = some [0, 0, 0, 0, 0, 0, 0, 1] by decide] at read
    rw [← Option.some.inj read]
    rfl

theorem isIP_four (four : isIP text = 4) : ∃ w, parseIpv4 text = some w := by
  cases parsed : parseIpv4 text with
  | some w => exact ⟨w, rfl⟩
  | none =>
    simp only [isIP, parsed, Option.isSome_none, Bool.false_eq_true, ↓reduceIte] at four
    by_cases six : (parseIpv6 text).isSome = true
    · simp [six] at four
    · simp [six] at four

section
variable {address : Text} {g : Nat} {more : List Nat} (read : groupsOf (lowerCase address) = some (g :: more))
include read

theorem noLetter (none : g = 0) (pre : Text) : ('f' :: pre).isPrefixOf (lowerCase address) ≠ true := by
  intro opened
  obtain ⟨rest, same⟩ := prefixed.mp opened
  rw [same] at read
  have positive := first_pos read
  omega

theorem recognised_tiny (none : g = 0) (tiny : value (g :: more) ≤ 1) :
    isPrivateIpv6 address = true ↔ lowerCase address = "::".toList ∨ lowerCase address = "::1".toList := by
  rw [isPrivateIpv6_branches read]
  constructor
  · rintro (same | same | opened | opened | opened | opened | ⟨inner, same, _⟩)
    · exact .inl same
    · exact .inr same
    · exact absurd opened (noLetter read none _)
    · exact absurd opened (noLetter read none _)
    · exact absurd opened (noLetter read none _)
    · exact absurd opened (noLetter read none _)
    · rw [same] at read
      have large := mapped_large read
      omega
  · rintro (same | same)
    · exact .inl same
    · exact .inr (.inl same)

theorem recognised_wide (large : 4096 ≤ g) :
    isPrivateIpv6 address = true ↔ g = 0xfe80 ∨ g / 256 = 0xfc ∨ g / 256 = 0xfd ∨ g / 256 = 0xff := by
  obtain ⟨link, unique, unique', multi, colon⟩ := prefixes read large
  rw [isPrivateIpv6_branches read, link, unique, unique', multi]
  have noColon : ∀ rest, lowerCase address ≠ ':' :: rest := by
    intro rest same
    rw [prefixed.mpr ⟨rest, same⟩] at colon
    cases colon
  constructor
  · rintro (same | same | first | first | first | first | ⟨inner, same, _⟩)
    · exact absurd same (noColon _)
    · exact absurd same (noColon _)
    · exact .inl first
    · exact .inr (.inl first)
    · exact .inr (.inr (.inl first))
    · exact .inr (.inr (.inr first))
    · exact absurd same (noColon _)
  · rintro (first | first | first | first)
    · exact .inr (.inr (.inl first))
    · exact .inr (.inr (.inr (.inl first)))
    · exact .inr (.inr (.inr (.inr (.inl first))))
    · exact .inr (.inr (.inr (.inr (.inr (.inl first)))))

theorem recognised_mapped (none : g = 0) (within : value (g :: more) / 2 ^ 32 = 0xffff)
    (inward : Inward4 (value (g :: more) % 2 ^ 32)) :
    isPrivateIpv6 address = true ↔ "::ffff:".toList.isPrefixOf (lowerCase address) = true := by
  obtain ⟨zero, one⟩ := value_colons read
  rw [isPrivateIpv6_branches read]
  constructor
  · rintro (same | same | opened | opened | opened | opened | ⟨inner, same, _⟩)
    · have := zero same
      omega
    · have := one same
      omega
    · exact absurd opened (noLetter read none _)
    · exact absurd opened (noLetter read none _)
    · exact absurd opened (noLetter read none _)
    · exact absurd opened (noLetter read none _)
    · exact prefixed.mpr ⟨inner, same⟩
  · intro opened
    obtain ⟨inner, same⟩ := prefixed.mp opened
    have read' := read
    rw [same] at read'
    obtain ⟨tail, parts, filled, _, groups⟩ := mapped_groups read'
    refine .inr (.inr (.inr (.inr (.inr (.inr ⟨inner, same, ?_, fun four => ?_⟩)))))
    · rintro rfl
      rw [List.takeWhile_nil, List.splitOn_nil] at parts
      obtain ⟨_, _, _, _, form⟩ := readGroups_cons parts
      rcases form with ⟨_, _, w, empty, _⟩ | ⟨w, empty, _⟩
      · exact absurd empty (by simp [parseIpv4, octet])
      · exact absurd rfl (hexGroup_eq empty).1
    · -- Two groups stand for the IPv4 address, so they are the last 32 bits of the value.
      obtain ⟨w, parsed⟩ := isIP_four four
      obtain rfl := mapped_ipv4 parsed parts
      have bound := parseIpv4_lt parsed
      have whole : value (g :: more) = 0xffff * 2 ^ 32 + w := by
        rw [groups, value_zeros]
        simp only [value, List.foldl_cons, List.foldl_nil]
        omega
      have last : value (g :: more) % 2 ^ 32 = w := by omega
      exact isPrivateIpv4_of parsed (last ▸ inward)

end

/-- Of an IPv6 address that must not be reached, the check knows these spellings and no others. -/
theorem isPrivateIpv6_iff {address : Text} (parsed : parseIpv6 address = some v) (inward : Inward6 v) :
    isPrivateIpv6 address = true ↔ Spelled (lowerCase address) v := by
  obtain ⟨groups, read, rfl⟩ := Option.map_eq_some_iff.mp parsed
  obtain ⟨_, _, _, _, _, read'⟩ := groupsOf_eq read
  obtain ⟨eight, small, _⟩ := readAddress_spec read'
  obtain ⟨g, more, rfl⟩ := List.exists_cons_of_length_eq_add_one eight
  have first := value_first eight small
  obtain ⟨zero, one⟩ := value_colons read
  unfold Spelled
  rw [unspecified_iff, loopback_iff, linkLocal_iff, mapped_iff, first]
  rcases inward with ⟨r, listed, within⟩ | ⟨within, inner4⟩
  · simp only [List.mem_cons, List.not_mem_nil, or_false] at listed
    rcases listed with rfl | rfl | rfl | rfl | rfl
    · have none := (unspecified_iff _).mp within
      rw [recognised_tiny read (by omega) (by omega), none]
      refine ⟨?_, fun spelled => .inl (spelled.1 rfl)⟩
      rintro (same | same)
      · exact ⟨fun _ => same, by omega, by omega, by omega⟩
      · have := one same
        omega
    · have single := (loopback_iff _).mp within
      rw [recognised_tiny read (by omega) (by omega), single]
      refine ⟨?_, fun spelled => .inr (spelled.2.1 rfl)⟩
      rintro (same | same)
      · have := zero same
        omega
      · exact ⟨by omega, fun _ => same, by omega, by omega⟩
    · have link := (linkLocal_iff _).mp within
      rw [first] at link
      rw [recognised_wide read (by omega)]
      constructor
      · intro known
        exact ⟨by omega, by omega, by omega, by omega⟩
      · rintro ⟨_, _, exact', _⟩
        exact .inl (exact' link)
    · have unique := (uniqueLocal_iff _).mp within
      rw [first] at unique
      rw [recognised_wide read (by omega)]
      refine iff_of_true (by omega) ⟨by omega, by omega, by omega, by omega⟩
    · have multi := (multicast_iff _).mp within
      rw [first] at multi
      rw [recognised_wide read (by omega)]
      refine iff_of_true (by omega) ⟨by omega, by omega, by omega, by omega⟩
  · have bits := (mapped_iff _).mp within
    rw [recognised_mapped read (by omega) bits inner4]
    refine ⟨fun opened => ⟨by omega, by omega, by omega, fun _ => opened⟩, fun spelled => spelled.2.2.2 bits⟩

theorem isPrivateAddress_six (parsed : parseIpv6 address.toList = some v)
    (other : parseIpv4 address.toList = none) : isPrivateAddress address = isPrivateIpv6 address.toList := by
  have six : isIP address.toList = 6 := by simp [isIP, other, parsed]
  simp [isPrivateAddress, six]

theorem isPrivateAddress_four (parsed : parseIpv4 address.toList = some v) :
    isPrivateAddress address = isPrivateIpv4 address.toList := by
  have four : isIP address.toList = 4 := by simp [isIP, parsed]
  simp [isPrivateAddress, four]

theorem not_both {w : Nat} (four : parseIpv4 text = some v) (six : parseIpv6 text = some w) : False := by
  have chars := parseIpv4_chars four
  have lower : lowerCase text = text := by
    refine (List.map_congr_left fun c member => ?_).trans (List.map_id text)
    rcases chars c member with among | rfl
    · exact digits_all (P := fun c => c.toLower = c) (by decide) c among
    · decide
  have colon : ':' ∉ text := fun member => by
    rcases chars _ member with among | same
    · exact absurd among (by decide)
    · exact absurd same (by decide)
  have percent : text.takeWhile (· ≠ '%') = text := by
    refine List.takeWhile_eq_self_iff.mpr fun c member => ?_
    rcases chars c member with among | rfl
    · exact digits_all (P := fun c => decide (c ≠ '%') = true) (by decide) c among
    · decide
  obtain ⟨groups, read, _⟩ := Option.map_eq_some_iff.mp six
  obtain ⟨addr, _, _, taken, _, address⟩ := groupsOf_eq read
  rw [lower, percent] at taken
  subst taken
  have whole : cut addr = none := by
    refine Option.eq_none_iff_forall_ne_some.mpr fun sides found => ?_
    rw [cut_eq found] at colon
    simp at colon
  unfold readAddress at address
  rw [whole] at address
  obtain ⟨side, eight⟩ := Option.filter_eq_some_iff.mp address
  unfold readSide at side
  split_ifs at side with empty
  · obtain rfl := Option.some.inj side
    simp at eight
  · rw [List.splitOn_eq_singleton colon] at side
    obtain ⟨here, more, rfl, rest, form⟩ := readGroups_cons side
    obtain rfl : [] = more := Option.some.inj rest
    rcases form with ⟨_, _, _, _, rfl⟩ | ⟨_, _, rfl⟩ <;> simp at eight

theorem isPrivateAddress_iff (inward : Inward address) : isPrivateAddress address = true ↔ Recognised address := by
  cases four : parseIpv4 address.toList with
  | some v =>
    refine iff_of_true ?_ (.inl ⟨v, four⟩)
    rw [isPrivateAddress_four four]
    rcases inward with ⟨w, parsed, inward⟩ | ⟨w, parsed, _⟩
    · exact isPrivateIpv4_of parsed inward
    · exact (not_both four parsed).elim
  | none =>
    rcases inward with ⟨w, parsed, _⟩ | ⟨w, parsed, inward⟩
    · rw [four] at parsed
      cases parsed
    · rw [isPrivateAddress_six parsed four, isPrivateIpv6_iff parsed inward]
      constructor
      · exact fun spelled => .inr ⟨w, parsed, spelled⟩
      · rintro (⟨v, impossible⟩ | ⟨v, again, spelled⟩)
        · rw [four] at impossible
          cases impossible
        · obtain rfl : w = v := Option.some.inj (parsed.symm.trans again)
          exact spelled

/-- An address that must not be reached is recognised exactly in the spellings the check knows. A name that resolves to
    one of those is refused, and one that resolves to others only is accepted. -/
theorem inward_recognised_iff (address hostname : String) (addresses : List String) :
    (Inward address → (isPrivateAddress address = true ↔ Recognised address)) ∧
    ((∃ address ∈ addresses, Inward address ∧ Recognised address) →
      assertWebhookUrlResolvesPublicly hostname (.ok addresses) ≠ .ok ()) ∧
    (addresses ≠ [] → (∀ address ∈ addresses, Inward address ∧ ¬Recognised address) →
      assertWebhookUrlResolvesPublicly hostname (.ok addresses) = .ok ()) := by
  refine ⟨isPrivateAddress_iff, ?_, ?_⟩
  · rintro ⟨address, among, inward, known⟩
    have private' : address ∈ addresses.filter isPrivateAddress :=
      List.mem_filter.mpr ⟨among, (isPrivateAddress_iff inward).mpr known⟩
    have some' : addresses ≠ [] := List.ne_nil_of_mem among
    simp [assertWebhookUrlResolvesPublicly, some', List.ne_nil_of_mem private']
  · intro some' unknown
    have none : addresses.filter isPrivateAddress = [] := by
      refine List.filter_eq_nil_iff.mpr fun address among => ?_
      obtain ⟨inward, unknown⟩ := unknown address among
      exact mt (isPrivateAddress_iff inward).mp unknown
    simp [assertWebhookUrlResolvesPublicly, some', none]

/-- `fe90::1` is a link-local address, in the spelling a resolver gives it, and is taken for a public one. -/
theorem link_local_accepted : Inward "fe90::1" ∧ isPrivateAddress "fe90::1" = false ∧
    assertWebhookUrlResolvesPublicly "partner.example" (.ok ["fe90::1"]) = .ok () := by
  have routed : isPrivateAddress "fe90::1" = false := by decide
  refine ⟨.inr ⟨0xfe90 * 2 ^ 112 + 1, by decide, .inl ⟨linkLocal, by simp, by decide⟩⟩, routed, ?_⟩
  simp [assertWebhookUrlResolvesPublicly, routed]

end AgentPey.WebhookUrls
