import AgentPey.MerchantVenues

/-!
A platform's directory only adds its own merchants. What that means of a registry, and for which registries it holds: those in
which no platform's slug goes on from another one's with a hyphen, short of the slugs too long for any merchant.
-/
namespace AgentPey.SeparateDirectories
open AgentPass PurchaseChecks Schemas VenueRegistries PlatformVenues MerchantVenues

section
variable {strKey : StrKey} {registry : VenueRegistry strKey}

/-! ### What a directory may do -/

def asked (registry : VenueRegistry strKey) (onlyFor : Option String) : List (ResolvedPlatform strKey) :=
  registry.platforms.filter (isAsked onlyFor)

def expanded (run : Run) (onlyFor : Option String) (registry : VenueRegistry strKey) : VenueRegistry strKey :=
  (expandPlatformVenues run onlyFor registry).registry

/-- Every fixed venue stays what it is and where it is. -/
def KeepsFixed (registry : VenueRegistry strKey) : Prop :=
  ∀ run onlyFor, registry.venues <+: (expanded run onlyFor registry).venues ∧
    ∀ venueId venue, registry.get venueId = some venue → (expanded run onlyFor registry).get venueId = some venue

/-- Every other venue is the merchant of an entry that its platform's directory told. -/
def AddsMerchants (registry : VenueRegistry strKey) : Prop :=
  ∀ run onlyFor, ∀ venue ∈ (expanded run onlyFor registry).venues, venue ∈ registry.venues ∨
    ∃ platform ∈ registry.platforms, ∃ raw ∈ (told run (asked registry onlyFor) platform).getD [],
      ∃ entry, directoryEntrySchema raw = some entry ∧ IsMerchant platform entry venue

/-- Two runs, through the platforms in any two orders, in which one directory tells the same and all the others what they like:
what that directory's merchants resolve to is the same. -/
def KeepsApart (registry : VenueRegistry strKey) : Prop :=
  ∀ order order', order.Perm registry.platforms → order'.Perm registry.platforms → ∀ run run',
    ∀ platform ∈ registry.platforms, told run order platform = told run' order' platform →
      ∀ merchant ∈ merchants platform (told run order platform),
        (expanded run none { registry with platforms := order }).get merchant.venueId =
          (expanded run' none { registry with platforms := order' }).get merchant.venueId

/-- Reading only the platforms that a venue could be of, from directories that tell the same, resolves it alike. -/
def OneAsAll (registry : VenueRegistry strKey) : Prop :=
  ∀ (run run' : Run) (venueId : VenueId strKey),
    (∀ platform ∈ asked registry (some venueId.text),
      told run (asked registry (some venueId.text)) platform = told run' registry.platforms platform) →
      (expanded run (some venueId.text) registry).get venueId = (expanded run' none registry).get venueId

structure OnlyAddsMerchants (registry : VenueRegistry strKey) : Prop where
  fixed : KeepsFixed registry
  added : AddsMerchants registry
  apart : KeepsApart registry
  one : OneAsAll registry

/-! ### What a run resolves -/

theorem asked_all (registry : VenueRegistry strKey) : asked registry none = registry.platforms :=
  List.filter_eq_self.mpr fun _ _ => rfl

section
variable (loaded : Loaded registry)
include loaded

theorem expanded_venues (run : Run) (onlyFor : Option String) :
    (expanded run onlyFor registry).venues = FirstEntries.addAll ResolvedVenue.venueId registry.venues
      ((asked registry onlyFor).flatMap fun platform => merchants platform (told run (asked registry onlyFor) platform)) :=
  venues_expand run onlyFor loaded.slugs

theorem expanded_get (run : Run) (onlyFor : Option String) (venueId : VenueId strKey) :
    (expanded run onlyFor registry).get venueId = (registry.get venueId).or
      (FirstEntries.get ResolvedVenue.venueId ((asked registry onlyFor).flatMap fun platform =>
        merchants platform (told run (asked registry onlyFor) platform)) venueId) := by
  unfold VenueRegistry.get
  rw [expanded_venues loaded, FirstEntries.get_addAll, FirstEntries.get_append]

theorem keepsFixed : KeepsFixed registry := by
  intro run onlyFor
  refine ⟨?_, fun venueId venue found => ?_⟩
  · rw [expanded_venues loaded]
    exact FirstEntries.addAll_prefix _ _
  · rw [expanded_get loaded, found, Option.some_or]

theorem addsMerchants : AddsMerchants registry := by
  intro run onlyFor venue among
  rw [expanded_venues loaded] at among
  rcases FirstEntries.mem_addAll among with old | new
  · exact .inl old
  · obtain ⟨platform, here, brought⟩ := List.mem_flatMap.mp new
    obtain ⟨raw, there, entry, read, merchant, _⟩ := mem_merchants brought
    exact .inr ⟨platform, (List.mem_filter.mp here).1, raw, there, entry, read, merchant⟩

theorem oneAsAll : OneAsAll registry := by
  intro run run' venueId same
  rw [expanded_get loaded, expanded_get loaded, asked_all]
  congr 1
  have told_ : ((asked registry (some venueId.text)).flatMap fun platform =>
        merchants platform (told run (asked registry (some venueId.text)) platform)) =
      (asked registry (some venueId.text)).flatMap fun platform => merchants platform (told run' registry.platforms platform) :=
    List.flatMap_congr fun platform here => by rw [same platform here]
  rw [told_]
  refine FirstEntries.get_flatMap_filter _ _ _ fun platform _ aside merchant brought named => ?_
  obtain ⟨_, _, entry, _, isMerchant, _⟩ := mem_merchants brought
  -- a merchant's id starts with its platform's slug and a hyphen
  have front : (platform.slug.text ++ "-").toList <+: venueId.text.toList := by
    rw [← named, isMerchant.named]
    exact ⟨(entry.slug ++ ":" ++ entry.payTo).toList, by simp⟩
  have asked_ : isAsked (some venueId.text) platform = true := List.isPrefixOf_iff_prefix.mpr front
  rw [asked_] at aside
  exact Bool.noConfusion aside

end

/-! ### Slugs apart -/

variable {order : List (ResolvedPlatform strKey)} {platform : ResolvedPlatform strKey}

theorem loaded_order (loaded : Loaded registry) (perm : order.Perm registry.platforms) :
    Loaded { registry with platforms := order } where
  slugs := (perm.map ResolvedPlatform.slug).nodup_iff.mpr loaded.slugs
  outside := by
    intro venue among
    have outside := loaded.outside venue among
    rw [platformUnder, List.find?_eq_none] at outside ⊢
    exact fun platform here => outside platform (perm.mem_iff.mp here)

theorem slug_inj (loaded : Loaded registry) {p q : ResolvedPlatform strKey} (here : p ∈ registry.platforms)
    (there : q ∈ registry.platforms) (same : p.slug = q.slug) : p = q :=
  List.inj_on_of_nodup_map loaded.slugs here there same

theorem merchant_get (loaded : Loaded registry) (apart : SlugsApart registry.platforms) (run : Run)
    (here : platform ∈ registry.platforms) {merchant : ResolvedVenue strKey}
    (told_ : merchant ∈ merchants platform (told run registry.platforms platform)) :
    (expanded run none registry).get merchant.venueId =
      FirstEntries.get ResolvedVenue.venueId (merchants platform (told run registry.platforms platform)) merchant.venueId := by
  have outside : registry.get merchant.venueId = none := fixed_apart loaded here told_
  rw [expanded_get loaded, asked_all, outside, Option.none_or]
  refine FirstEntries.get_flatMap_only (fun platform => merchants platform (told run registry.platforms platform)) here ?_
  intro other there different venue brought same
  exact different (slug_inj loaded there here (merchant_apart apart there here brought told_ same))

theorem slugsApart_order {platforms : List (ResolvedPlatform strKey)} (apart : SlugsApart platforms)
    (perm : order.Perm platforms) : SlugsApart order :=
  fun p here q there => apart p (perm.mem_iff.mp here) q (perm.mem_iff.mp there)

theorem keepsApart (loaded : Loaded registry) (apart : SlugsApart registry.platforms) : KeepsApart registry := by
  intro order order' perm perm' run run' platform here same merchant told_
  have told_' : merchant ∈ merchants platform (told run' order' platform) := same ▸ told_
  rw [merchant_get (loaded_order loaded perm) (slugsApart_order apart perm) run (perm.mem_iff.mpr here) told_,
    merchant_get (loaded_order loaded perm') (slugsApart_order apart perm') run' (perm'.mem_iff.mpr here) told_']
  exact congrArg (fun entries => FirstEntries.get ResolvedVenue.venueId (merchants platform entries) merchant.venueId) same

/-! ### Slugs that meet -/

/-- Each directory gives one answer, and none is reused. -/
def answering (answers : String → Option (List Value)) : Run where
  ttlMs := 0
  cache := fun _ => none
  visit := fun slug => ⟨0, match answers slug with
    | some entries => .answered 200 (.object [("comercios", .array entries)])
    | none => .unreachable "connection refused", 0⟩

theorem read_answering (answers : String → Option (List Value)) {cache : Cache}
    (stale : ∀ url directory, cache url = some directory → directory.storedAt = 0) (platform : ResolvedPlatform strKey) :
    let reading := readDirectory 0 cache platform ((answering answers).visit platform.slug.text)
    reading.entries = answers platform.slug.text ∧
      ∀ url directory, reading.cache url = some directory → directory.storedAt = 0 := by
  intro reading
  have miss : ((cache platform.directoryUrl).filter fun directory => (0 : Int) - directory.storedAt < 0) = none := by
    rw [Option.filter_eq_none_iff]
    intro directory found
    simp [stale _ _ found]
  cases given : answers platform.slug.text with
  | none =>
    have read : reading = ⟨none, cache,
        [⟨platform.slug.text, "directory could not be reached", [("error", .string "connection refused")]⟩]⟩ := by
      simp only [reading, readDirectory, answering, miss, given]
    rw [read]
    exact ⟨rfl, stale⟩
  | some entries =>
    have shape : directorySchema (.object [("comercios", .array entries)]) = some entries := rfl
    have read : reading = ⟨some entries, cache.set platform.directoryUrl ⟨0, entries⟩, []⟩ := by
      simp only [reading, readDirectory, answering, miss, given, shape]
      rw [if_neg (by decide)]
    rw [read]
    refine ⟨rfl, fun url directory found => ?_⟩
    dsimp only [Cache.set] at found
    split_ifs at found with same
    · cases found
      rfl
    · exact stale url directory found

theorem told_answering (answers : String → Option (List Value)) (here : platform ∈ order) :
    told (answering answers) order platform = answers platform.slug.text := by
  have fresh : ∀ url directory, (answering answers).cache url = some directory → directory.storedAt = 0 :=
    fun _ _ found => nomatch found
  unfold told
  generalize (answering answers).cache = cache at fresh
  induction order generalizing cache with
  | nil => exact nomatch here
  | cons first rest ih =>
    obtain ⟨entries, later⟩ := read_answering answers fresh first
    unfold toldFrom
    by_cases same : first.slug = platform.slug
    · rw [if_pos same, ← same]
      exact entries
    · rw [if_neg same]
      have among : platform ∈ rest := (List.mem_cons.mp here).resolve_left fun equal => same (equal ▸ rfl)
      exact ih among _ later

def entryOf (slug url payTo : String) : Value := .object [("slug", .string slug), ("url", .string url), ("payTo", .string payTo)]

theorem host_last (host : Host) (front : List Char) : (front ++ host.text.toList).rdropWhile (· = '/') = front ++ host.text.toList := by
  have nonempty : host.text.toList ≠ [] := by
    intro empty
    have pattern := host.pattern
    rw [empty] at pattern
    exact absurd pattern (by decide)
  rw [List.rdropWhile_eq_self_iff]
  intro some
  rw [List.getLast_append_of_ne_nil some nonempty]
  have split : host.text.toList.splitOn '.' = host.text.toList.splitOn '.' := rfl
  rcases TextLines.mem_splitOn split (List.getLast_mem nonempty) with dot | ⟨part, there, inside⟩
  · simp [dot]
  · have label := List.all_eq_true.mp host.pattern part there
    simpa using (lower_bounds (pattern_mem label inside)).2.2.2

theorem withoutSlashes_storeUrl (platform : ResolvedPlatform strKey) (slug : String) :
    withoutSlashes (storeUrl platform slug) = storeUrl platform slug := by
  unfold withoutSlashes storeUrl
  rw [String.toList_append, host_last, ← String.toList_append, String.ofList_toList]

theorem storeUrl_inj {p q : ResolvedPlatform strKey} {slug slug' : String} (same : storeUrl p slug = storeUrl q slug')
    (label : '.' ∉ slug.toList) (label' : '.' ∉ slug'.toList) : slug = slug' := by
  have lists := congrArg String.toList same
  have rest : slug.toList ++ '.' :: p.host.text.toList = slug'.toList ++ '.' :: q.host.text.toList := by
    by_cases near : p.host.text = "localhost"
    · by_cases near' : q.host.text = "localhost"
      · simpa [storeUrl, near, near'] using lists
      · simp [storeUrl, near, near'] at lists
    · by_cases near' : q.host.text = "localhost"
      · simp [storeUrl, near, near'] at lists
      · simpa [storeUrl, near, near'] using lists
  exact String.toList_inj.mp (TextLines.cut_first rest label label').1

section Meet
variable {address : String}

variable {platform : ResolvedPlatform strKey} {slug : String}

theorem toVenue_entry (isAccount : strKey.isValidEd25519PublicKey address = true)
    (halves : Halves strKey (platform.slug.text ++ "-" ++ slug).toList address.toList) :
    toVenue platform (entryOf slug (storeUrl platform slug) address) =
      .ok ⟨⟨platform.slug.text ++ "-" ++ slug ++ ":" ++ address, parseVenueId_iff.mpr halves⟩,
        some (storeUrl platform slug), platform.assets, some address⟩ := by
  have read : directoryEntrySchema (entryOf slug (storeUrl platform slug) address) =
      some ⟨slug, none, storeUrl platform slug, address⟩ := rfl
  simp [toVenue, read, isAccount, makeVenueId_of halves, withoutSlashes_storeUrl]

theorem alone_get (loaded : Loaded registry) (apart : KeepsApart registry) (here : platform ∈ registry.platforms) {raw : Value}
    {venue : ResolvedVenue strKey} (made : toVenue platform raw = .ok venue) {answers : String → Option (List Value)}
    (tells : answers platform.slug.text = some [raw]) :
    (expanded (answering answers) none registry).get venue.venueId = some venue := by
  have brings : merchants platform (some [raw]) = [venue] := by
    simp [merchants, made, Except.toOption]
  let only (slug : String) : Option (List Value) := if slug = platform.slug.text then some [raw] else none
  have tells' : only platform.slug.text = some [raw] := if_pos rfl
  have single : venue ∈ merchants platform (some [raw]) := brings ▸ List.mem_singleton_self venue
  have same : told (answering answers) registry.platforms platform = told (answering only) registry.platforms platform := by
    rw [told_answering answers here, told_answering only here, tells, tells']
  have among : venue ∈ merchants platform (told (answering answers) registry.platforms platform) := by
    rw [told_answering answers here, tells]
    exact single
  have resolves := apart _ _ (List.Perm.refl _) (List.Perm.refl _) _ _ platform here same venue among
  have outside : registry.get venue.venueId = none := fixed_apart loaded here single
  have others : ∀ other ∈ registry.platforms, other ≠ platform →
      ∀ merchant ∈ merchants other (told (answering only) registry.platforms other), merchant.venueId ≠ venue.venueId := by
    intro other there different merchant brought
    have slugs : other.slug.text ≠ platform.slug.text := fun equal => different (slug_inj loaded there here (slug_eq equal))
    rw [told_answering only there] at brought
    simp [only, slugs, merchants] at brought
  have alone := FirstEntries.get_flatMap_only (fun other => merchants other (told (answering only) registry.platforms other))
    here others
  rw [resolves, expanded_get loaded, asked_all, outside, Option.none_or, alone, told_answering only here, tells', brings,
    FirstEntries.get_cons, if_pos rfl]

/-- Two merchants of one id and two stores, that two directories tell of: one of the two loses its store. -/
theorem meet (isAccount : strKey.isValidEd25519PublicKey address = true) (loaded : Loaded registry)
    {p q : ResolvedPlatform strKey} (here : p ∈ registry.platforms) (there : q ∈ registry.platforms)
    (different : p.slug.text ≠ q.slug.text) {slug' : String}
    (halves : Halves strKey (p.slug.text ++ "-" ++ slug).toList address.toList)
    (same : p.slug.text ++ "-" ++ slug = q.slug.text ++ "-" ++ slug') (stores : storeUrl p slug ≠ storeUrl q slug') :
    ¬KeepsApart registry := by
  intro apart
  have halves' : Halves strKey (q.slug.text ++ "-" ++ slug').toList address.toList := same ▸ halves
  have made := toVenue_entry isAccount halves
  have made' := toVenue_entry isAccount halves'
  let rawP := entryOf slug (storeUrl p slug) address
  let rawQ := entryOf slug' (storeUrl q slug') address
  let both (slug : String) : Option (List Value) :=
    if slug = p.slug.text then some [rawP] else if slug = q.slug.text then some [rawQ] else none
  have bothP : both p.slug.text = some [rawP] := if_pos rfl
  have bothQ : both q.slug.text = some [rawQ] := by simp [both, Ne.symm different]
  have resolvesP := alone_get loaded apart here made bothP
  have resolvesQ := alone_get loaded apart there made' bothQ
  have ids : (⟨p.slug.text ++ "-" ++ slug ++ ":" ++ address, parseVenueId_iff.mpr halves⟩ : VenueId strKey) =
      ⟨q.slug.text ++ "-" ++ slug' ++ ":" ++ address, parseVenueId_iff.mpr halves'⟩ := by
    simp only [same]
  rw [ids, resolvesQ] at resolvesP
  injection resolvesP with venues
  injection venues with _ urls
  exact stores (Option.some.inj urls).symm

end Meet

/-- A merchant that two platforms could both have. -/
theorem slugsApart (loaded : Loaded registry) {address : String} (isAccount : strKey.isValidEd25519PublicKey address = true)
    (plain : ':' ∉ address.toList) (apart : KeepsApart registry) : SlugsApart registry.platforms := by
  intro p here q there rest longer
  by_contra short
  have pattern : VENUE_SLUG_PATTERN rest = true := by
    have whole := q.slug.pattern
    rw [longer, pattern_append, Bool.and_eq_true] at whole
    exact whole.2
  have different : p.slug.text ≠ q.slug.text := by
    intro same
    rw [same] at longer
    have lengths := congrArg List.length longer
    simp at lengths
  have same : p.slug.text ++ "-" ++ String.ofList (rest ++ "-a".toList) = q.slug.text ++ "-" ++ "a" := by
    rw [← String.toList_inj, platform_front, platform_front, longer]
    simp
  have halves : Halves strKey (p.slug.text ++ "-" ++ String.ofList (rest ++ "-a".toList)).toList address.toList := by
    rw [same, platform_front]
    refine ⟨?_, ?_, plain, .inr (by simpa using isAccount)⟩
    · have two : lengthOf ('-' :: "a".toList) = 2 := rfl
      rw [lengthOf_append, two]
      omega
    · rw [pattern_append, q.slug.pattern]
      rfl
  refine meet isAccount loaded here there different halves same (fun stores => ?_) apart
  have label : '.' ∉ (String.ofList (rest ++ "-a".toList)).toList := by
    simpa using (pattern_without pattern).1
  have equal := congrArg (fun slug => slug.toList.length) (storeUrl_inj stores label (by decide))
  simp at equal

/-- The directories only add their own platforms' merchants exactly where the platforms' slugs are apart. -/
theorem only_adds_merchants_iff {urls : Urls} {raw : Value} {address : String}
    (isAccount : strKey.isValidEd25519PublicKey address = true) (plain : ':' ∉ address.toList)
    (loads : loadVenueRegistry strKey urls raw = .ok registry) :
    OnlyAddsMerchants registry ↔ SlugsApart registry.platforms := by
  have loaded := loaded loads
  constructor
  · intro holds
    exact slugsApart loaded isAccount plain holds.apart
  · intro apart
    exact ⟨keepsFixed loaded, addsMerchants loaded, keepsApart loaded apart, oneAsAll loaded⟩

end

/-! ### Two platforms -/

def sampleAccount : String := "GB4D4PLLFEIKZK6MDW42MZRQ5XMPC6QRJN4FFRODO6D3PRB3MDGGYOOF"
def sampleIssuer : String := "CBIELTK6YBZJU5UP2WWQEUCYKLPU6AUNZ2BQ4WWFEIE3USCIHMXQDAMA"

def sampleStrKey : StrKey := ⟨(· = sampleAccount), (· = sampleIssuer)⟩

def sampleUrls : Urls := ⟨some⟩

def samplePlatform (slug host : String) : Value :=
  .object [("kind", .string "platform"), ("slug", .string slug), ("host", .string host),
    ("directoryUrl", .string ("https://" ++ host ++ "/api/comercios")),
    ("assets", .array [.object [("code", .string "USDC"), ("issuer", .string sampleIssuer)]])]

def sampleRows : Value :=
  .array [.object [("slug", .string "signaldesk"), ("address", .string sampleAccount),
      ("baseUrl", .string "https://signaldesk.example"),
      ("assets", .array [.object [("code", .string "USDC"), ("issuer", .string sampleIssuer)]])],
    samplePlatform "vitrinee" "vitrinee.example"]

theorem only_adds_merchants_sample : ∃ registry, loadVenueRegistry sampleStrKey sampleUrls sampleRows = .ok registry ∧
    OnlyAddsMerchants registry := by
  have slugs : (loadVenueRegistry sampleStrKey sampleUrls sampleRows).toOption.map
      (fun registry => registry.platforms.map fun platform => platform.slug.text) = some ["vitrinee"] := by decide +kernel
  cases loads : loadVenueRegistry sampleStrKey sampleUrls sampleRows with
  | error thrown => simp [loads, Except.toOption] at slugs
  | ok registry =>
    have named : ∀ platform ∈ registry.platforms, platform.slug.text = "vitrinee" := by
      intro platform here
      have all : registry.platforms.map (fun platform => platform.slug.text) = ["vitrinee"] := by
        simpa [loads, Except.toOption] using slugs
      have among := List.mem_map_of_mem (f := fun platform => platform.slug.text) here
      rw [all] at among
      exact List.mem_singleton.mp among
    have isAccount : sampleStrKey.isValidEd25519PublicKey sampleAccount = true := by decide
    refine ⟨registry, rfl, (only_adds_merchants_iff isAccount (by decide) loads).mpr ?_⟩
    intro p here q there rest longer
    rw [named p here, named q there] at longer
    have lengths := congrArg List.length longer
    simp at lengths

/-- Where a run that the given directories answer finds a merchant's store. -/
def storeOf {strKey : StrKey} (answers : String → Option (List Value)) (registry : VenueRegistry strKey) (venueId : String) :
    Option String :=
  ((expanded (answering answers) none registry).venues.find? fun venue => venue.venueId.text = venueId).bind
    ResolvedVenue.baseUrl

def sampleClash : Value := .array [samplePlatform "shop" "shop.example", samplePlatform "shop-mx" "mx.example"]

/-- `deli` of the platform `shop-mx`, and `mx-deli` of the platform `shop`. -/
def sampleAnswers (both : Bool) (slug : String) : Option (List Value) :=
  if slug = "shop-mx" then some [entryOf "deli" "https://deli.mx.example" sampleAccount]
  else if both ∧ slug = "shop" then some [entryOf "mx-deli" "https://mx-deli.shop.example" sampleAccount]
  else none

/-- What the directory of `shop` says moves a merchant of `shop-mx` to another store. -/
theorem merchant_moved : ∃ registry, loadVenueRegistry sampleStrKey sampleUrls sampleClash = .ok registry ∧
    storeOf (sampleAnswers false) registry ("shop-mx-deli:" ++ sampleAccount) = some "https://deli.mx.example" ∧
    storeOf (sampleAnswers true) registry ("shop-mx-deli:" ++ sampleAccount) = some "https://mx-deli.shop.example" ∧
    ¬OnlyAddsMerchants registry := by
  have stores : (loadVenueRegistry sampleStrKey sampleUrls sampleClash).toOption.map (fun registry =>
      (registry.platforms.map (fun platform => platform.slug.text),
        storeOf (sampleAnswers false) registry ("shop-mx-deli:" ++ sampleAccount),
        storeOf (sampleAnswers true) registry ("shop-mx-deli:" ++ sampleAccount))) =
      some (["shop", "shop-mx"], some "https://deli.mx.example", some "https://mx-deli.shop.example") := by decide +kernel
  cases loads : loadVenueRegistry sampleStrKey sampleUrls sampleClash with
  | error thrown => simp [loads, Except.toOption] at stores
  | ok registry =>
    simp only [loads, Except.toOption, Option.map_some, Option.some.injEq, Prod.mk.injEq] at stores
    obtain ⟨slugs, alone, both⟩ := stores
    refine ⟨registry, rfl, alone, both, fun holds => ?_⟩
    obtain ⟨p, here, shop⟩ := List.mem_map.mp (slugs ▸ (by decide : "shop" ∈ ["shop", "shop-mx"]))
    obtain ⟨q, there, mx⟩ := List.mem_map.mp (slugs ▸ (by decide : "shop-mx" ∈ ["shop", "shop-mx"]))
    have apart := slugsApart (loaded loads) (by decide : sampleStrKey.isValidEd25519PublicKey sampleAccount = true)
      (by decide) holds.apart p here q there "mx".toList (by rw [shop, mx]; rfl)
    rw [mx] at apart
    exact absurd apart (by decide)

end AgentPey.SeparateDirectories
