import Mathlib
import AgentPey.PlatformVenues
import AgentPey.TextLines

/-!
What the directories of the platforms can change about a registry. Each adds merchants of its own platform and nothing else, and
no directory has a say in where another platform's merchant is, as long as no platform's slug starts with another platform's
slug and a hyphen, short of the slugs that leave no room for a merchant.
-/
namespace AgentPey.MerchantVenues
open AgentPass PurchaseChecks Schemas VenueRegistries PlatformVenues

/-! ### Slugs -/

section Slugs
variable {text a b : List Char} {c : Char}

theorem pattern_append (a b : List Char) :
    VENUE_SLUG_PATTERN (a ++ '-' :: b) = (VENUE_SLUG_PATTERN a && VENUE_SLUG_PATTERN b) := by
  simp only [VENUE_SLUG_PATTERN, List.splitOn_append_cons_self, List.all_append]

theorem pattern_mem (pattern : VENUE_SLUG_PATTERN text = true) (among : c ∈ text) : c = '-' ∨ lowerAlphanumeric c = true := by
  have split : text.splitOn '-' = text.splitOn '-' := rfl
  rcases TextLines.mem_splitOn split among with same | ⟨part, there, inside⟩
  · exact .inl same
  · have part_ := List.all_eq_true.mp pattern part there
    simp only [Bool.and_eq_true] at part_
    exact .inr (List.all_eq_true.mp part_.2 c inside)

theorem pattern_nonempty (pattern : VENUE_SLUG_PATTERN text = true) : text ≠ [] := by
  rintro rfl
  exact absurd pattern (by decide)

theorem lower_bounds (lower : c = '-' ∨ lowerAlphanumeric c = true) : c.toNat < 123 ∧ c ≠ '.' ∧ c ≠ ':' ∧ c ≠ '/' := by
  rcases lower with rfl | lower
  · decide
  · have letters : (97 ≤ c.toNat ∧ c.toNat ≤ 122) ∨ (48 ≤ c.toNat ∧ c.toNat ≤ 57) := by
      simp only [lowerAlphanumeric, Char.isLower, Char.isDigit, Bool.or_eq_true, Bool.and_eq_true, decide_eq_true_eq] at lower
      exact lower
    refine ⟨by omega, ?_, ?_, ?_⟩
    all_goals
      rintro rfl
      revert letters
      decide

theorem pattern_without (pattern : VENUE_SLUG_PATTERN text = true) : '.' ∉ text ∧ ':' ∉ text ∧ '/' ∉ text :=
  ⟨fun among => (lower_bounds (pattern_mem pattern among)).2.1 rfl,
    fun among => (lower_bounds (pattern_mem pattern among)).2.2.1 rfl,
    fun among => (lower_bounds (pattern_mem pattern among)).2.2.2 rfl⟩

theorem lengthOf_append (a b : List Char) : lengthOf (a ++ b) = lengthOf a + lengthOf b := by
  simp [lengthOf]

theorem lengthOf_cons (c : Char) (a : List Char) : lengthOf (c :: a) = lengthOf [c] + lengthOf a := lengthOf_append [c] a

theorem lengthOf_pos (some : text ≠ []) : 0 < lengthOf text := by
  obtain ⟨c, rest, rfl⟩ := List.exists_cons_of_ne_nil some
  rw [lengthOf_cons]
  have one : 0 < lengthOf [c] := by
    simp only [lengthOf, List.map_cons, List.map_nil, List.sum_cons, List.sum_nil]
    split <;> omega
  omega

theorem slug_eq {s s' : Slug} (same : s.text = s'.text) : s = s' := by
  cases s
  cases s'
  cases same
  rfl

end Slugs

/-! ### Ids -/

section Ids
variable {strKey : StrKey} {value : String} {x y : List Char}

/-- What the two halves of a venue id are. -/
structure Halves (strKey : StrKey) (slug address : List Char) : Prop where
  short : lengthOf slug ≤ VENUE_SLUG_MAX_LENGTH
  pattern : VENUE_SLUG_PATTERN slug = true
  plain : ':' ∉ address
  address : strKey.isValidContract (String.ofList address) = true ∨ strKey.isValidEd25519PublicKey (String.ofList address) = true

variable {slug address : String}

theorem parseVenueId_iff :
    (∃ parsed, parseVenueId strKey (slug ++ ":" ++ address) = .ok parsed) ↔ Halves strKey slug.toList address.toList := by
  have whole : (slug ++ ":" ++ address).toList = slug.toList ++ ':' :: address.toList := by simp
  constructor
  · rintro ⟨parsed, ok⟩
    unfold parseVenueId at ok
    split at ok
    next first second pair =>
      rw [whole] at pair
      obtain ⟨_, plain, rfl, rfl⟩ := TextLines.splitOn_pair pair
      dsimp only at ok
      split_ifs at ok with long bad contract account
      · exact ⟨by omega, by simpa using bad, plain, .inl contract⟩
      · exact ⟨by omega, by simpa using bad, plain, .inr account⟩
    next => cases ok
  · intro halves
    have pair : (slug ++ ":" ++ address).toList.splitOn ':' = [slug.toList, address.toList] := by
      rw [whole, List.splitOn_append_cons_self, List.splitOn_eq_singleton (pattern_without halves.pattern).2.1,
        List.splitOn_eq_singleton halves.plain]
      rfl
    unfold parseVenueId
    simp only [pair]
    rw [if_neg (by have := halves.short; omega), if_neg (by simp [halves.pattern])]
    by_cases contract : strKey.isValidContract (String.ofList address.toList) = true
    · exact ⟨_, if_pos contract⟩
    · rw [if_neg contract, if_pos (halves.address.resolve_left contract)]
      exact ⟨_, rfl⟩

theorem makeVenueId_ok {venueId : VenueId strKey} (made : makeVenueId strKey slug address = .ok venueId) :
    venueId.text = slug ++ ":" ++ address ∧ Halves strKey slug.toList address.toList := by
  unfold makeVenueId at made
  split at made
  next venue parsed =>
    cases made
    exact ⟨rfl, parseVenueId_iff.mp ⟨venue, parsed⟩⟩
  next => cases made

theorem makeVenueId_of (halves : Halves strKey slug.toList address.toList) :
    makeVenueId strKey slug address = .ok ⟨slug ++ ":" ++ address, parseVenueId_iff.mpr halves⟩ := by
  obtain ⟨venue, parsed⟩ := parseVenueId_iff.mpr halves
  unfold makeVenueId
  split
  next => rfl
  next thrown failed => rw [parsed] at failed; cases failed

end Ids

section Merchants
variable {strKey : StrKey} {registry : VenueRegistry strKey} {platform p q : ResolvedPlatform strKey}

/-! ### Merchants -/

/-- A venue that is the merchant a directory entry names, and nothing more than that. -/
structure IsMerchant (platform : ResolvedPlatform strKey) (entry : DirectoryEntry) (venue : ResolvedVenue strKey) : Prop where
  named : venue.venueId.text = platform.slug.text ++ "-" ++ entry.slug ++ ":" ++ entry.payTo
  paid : venue.payTo = some entry.payTo
  account : strKey.isValidEd25519PublicKey entry.payTo = true
  reached : venue.baseUrl = some (storeUrl platform entry.slug)
  label : VENUE_SLUG_PATTERN entry.slug.toList = true ∧ '.' ∉ entry.slug.toList
  quoted : venue.assets = platform.assets

theorem platform_front (platform : ResolvedPlatform strKey) (slug : String) :
    (platform.slug.text ++ "-" ++ slug).toList = platform.slug.text.toList ++ '-' :: slug.toList := by
  simp

variable {venue : ResolvedVenue strKey}

variable {raw : Value} {entries : Option (List Value)} {platforms : List (ResolvedPlatform strKey)}
   {registry' : VenueRegistry strKey}

theorem toVenue_ok (made : toVenue platform raw = .ok venue) :
    ∃ entry, directoryEntrySchema raw = some entry ∧ IsMerchant platform entry venue ∧
      Halves strKey (platform.slug.text ++ "-" ++ entry.slug).toList entry.payTo.toList := by
  unfold toVenue at made
  split at made
  next => cases made
  next entry read =>
    split_ifs at made with invalid
    split at made
    next => cases made
    next venueId named =>
      dsimp only at made
      split_ifs at made with elsewhere
      cases made
      obtain ⟨text, halves⟩ := makeVenueId_ok named
      have label := halves.pattern
      rw [platform_front, pattern_append, platform.slug.pattern, Bool.true_and] at label
      exact ⟨entry, read, ⟨text, rfl, by simpa using invalid, rfl, ⟨label, (pattern_without label).1⟩, rfl⟩, halves⟩

/-- No platform's slug starts with another one and a hyphen, where it leaves room for a merchant. -/
def SlugsApart (platforms : List (ResolvedPlatform strKey)) : Prop :=
  ∀ p ∈ platforms, ∀ q ∈ platforms, ∀ rest, q.slug.text.toList = p.slug.text.toList ++ '-' :: rest →
    VENUE_SLUG_MAX_LENGTH < lengthOf q.slug.text.toList + 2

theorem mem_merchants (among : venue ∈ merchants platform entries) :
    ∃ raw ∈ entries.getD [], ∃ entry, directoryEntrySchema raw = some entry ∧ IsMerchant platform entry venue ∧
      Halves strKey (platform.slug.text ++ "-" ++ entry.slug).toList entry.payTo.toList := by
  obtain ⟨raw, there, made⟩ := List.mem_filterMap.mp among
  cases turned : toVenue platform raw with
  | error reason => simp [turned, Except.toOption] at made
  | ok turnedVenue =>
    obtain rfl : turnedVenue = venue := by simpa [turned, Except.toOption] using made
    obtain ⟨entry, facts⟩ := toVenue_ok turned
    exact ⟨raw, there, entry, facts⟩

theorem room_of_halves {slug address : List Char} {front rest : List Char} (halves : Halves strKey slug address)
    (joined : slug = front ++ '-' :: rest) (label : VENUE_SLUG_PATTERN rest = true) :
    lengthOf front + 2 ≤ VENUE_SLUG_MAX_LENGTH := by
  have short := halves.short
  have some := lengthOf_pos (pattern_nonempty label)
  have hyphen : lengthOf ['-'] = 1 := rfl
  rw [joined, lengthOf_append, lengthOf_cons, hyphen] at short
  omega

/-- Merchants of two platforms have two ids. -/
theorem merchant_apart (apart : SlugsApart platforms) (here : p ∈ platforms) (there : q ∈ platforms)
    {entries' : Option (List Value)} {venue venue' : ResolvedVenue strKey} (among : venue ∈ merchants p entries)
    (among' : venue' ∈ merchants q entries') (same : venue.venueId = venue'.venueId) : p.slug = q.slug := by
  obtain ⟨_, _, entry, _, merchant, halves⟩ := mem_merchants among
  obtain ⟨_, _, entry', _, merchant', halves'⟩ := mem_merchants among'
  have texts : p.slug.text.toList ++ '-' :: entry.slug.toList ++ ':' :: entry.payTo.toList =
      q.slug.text.toList ++ '-' :: entry'.slug.toList ++ ':' :: entry'.payTo.toList := by
    have text : venue.venueId.text = venue'.venueId.text := by rw [same]
    rw [merchant.named, merchant'.named] at text
    simpa using congrArg String.toList text
  have colonless := (pattern_without halves.pattern).2.1
  have colonless' := (pattern_without halves'.pattern).2.1
  rw [platform_front] at colonless colonless'
  obtain ⟨slugs, _⟩ := TextLines.cut_first texts colonless colonless'
  rcases TextLines.joined_cut slugs with ⟨equal, _⟩ | ⟨rest, longer⟩ | ⟨rest, longer⟩
  · have text : p.slug.text = q.slug.text := String.toList_inj.mp equal
    exact slug_eq text
  · have room := room_of_halves halves' (platform_front q entry'.slug) merchant'.label.1
    have none := apart p here q there rest longer
    omega
  · have room := room_of_halves halves (platform_front p entry.slug) merchant.label.1
    have none := apart q there p here rest longer
    omega

/-! ### Loaded registries -/

/-- What `loadVenueRegistry` makes sure of. -/
structure Loaded (registry : VenueRegistry strKey) : Prop where
  slugs : (registry.platforms.map ResolvedPlatform.slug).Nodup
  outside : ∀ venue ∈ registry.venues, platformUnder registry.platforms venue.venueId = none

theorem addRow_slugs {row : RegistryRow} (slugs : (registry.platforms.map ResolvedPlatform.slug).Nodup)
    (added : addRow registry row = .ok registry') : (registry'.platforms.map ResolvedPlatform.slug).Nodup := by
  cases row with
  | platform row =>
    simp only [addRow] at added
    split_ifs at added with twice
    obtain ⟨assets, _, added⟩ := bind_eq_ok.mp added
    cases added
    have fresh : ∀ platform ∈ registry.platforms, platform.slug ≠ row.slug := by
      simpa using twice
    rw [List.map_append, List.map_singleton, List.nodup_append]
    refine ⟨slugs, List.nodup_singleton _, fun slug there other here => ?_⟩
    obtain ⟨platform, among, rfl⟩ := List.mem_map.mp there
    rw [List.mem_singleton.mp here]
    exact fresh platform among
  | venue row =>
    simp only [addRow] at added
    obtain ⟨venueId, _, added⟩ := bind_eq_ok.mp added
    split_ifs at added
    obtain ⟨assets, _, added⟩ := bind_eq_ok.mp added
    cases added
    exact slugs

theorem rows_slugs {rows : List RegistryRow} (slugs : (registry.platforms.map ResolvedPlatform.slug).Nodup)
    (added : rows.foldlM addRow registry = .ok registry') : (registry'.platforms.map ResolvedPlatform.slug).Nodup := by
  induction rows generalizing registry with
  | nil =>
    cases added
    exact slugs
  | cons row rest ih =>
    rw [List.foldlM_cons] at added
    obtain ⟨next, first, later⟩ := bind_eq_ok.mp added
    exact ih (addRow_slugs slugs first) later

theorem refuseUnder_ok (passed : refuseUnder platforms venue = .ok ⟨⟩)
    : platformUnder platforms venue.venueId = none := by
  unfold refuseUnder at passed
  split at passed
  next => cases passed
  next outside => exact outside

theorem forM_ok {α : Type} {check : α → Result Unit} {l : List α} (passed : l.forM check = .ok ⟨⟩) :
    ∀ a ∈ l, check a = .ok ⟨⟩ := by
  induction l with
  | nil => exact fun a among => nomatch among
  | cons first rest ih =>
    have inTurn : (check first >>= fun _ => rest.forM check) = .ok ⟨⟩ := passed
    obtain ⟨_, one, others⟩ := bind_eq_ok.mp inTurn
    exact List.forall_mem_cons.mpr ⟨one, ih others⟩

theorem loaded {urls : Urls} (loads : loadVenueRegistry strKey urls raw = .ok registry) : Loaded registry := by
  unfold loadVenueRegistry at loads
  split at loads
  next => cases loads
  next rows _ =>
    obtain ⟨all, added, loads⟩ := bind_eq_ok.mp loads
    obtain ⟨_, passed, loads⟩ := bind_eq_ok.mp loads
    cases loads
    have none : ((⟨[], []⟩ : VenueRegistry strKey).platforms.map ResolvedPlatform.slug).Nodup := List.nodup_nil
    exact ⟨rows_slugs none added, fun venue among => refuseUnder_ok (forM_ok passed venue among)⟩

/-- A fixed venue is nobody's merchant. -/
theorem fixed_apart (loaded : Loaded registry) (here : platform ∈ registry.platforms)
    (among : venue ∈ merchants platform entries) :
    FirstEntries.get ResolvedVenue.venueId registry.venues venue.venueId = none := by
  refine FirstEntries.get_none.mpr fun fixed there same => ?_
  obtain ⟨_, _, entry, _, merchant, _⟩ := mem_merchants among
  have outside := loaded.outside fixed there
  rw [platformUnder, List.find?_eq_none] at outside
  refine outside platform here ?_
  have front : (platform.slug.text ++ "-").toList <+: fixed.venueId.text.toList := by
    rw [same, merchant.named]
    exact ⟨(entry.slug ++ ":" ++ entry.payTo).toList, by simp⟩
  rw [List.isPrefixOf_iff_prefix.mpr front, Bool.true_or]

end Merchants

end AgentPey.MerchantVenues
