import AgentPey.VenueRegistries
import Mathlib.Data.List.DropRight

/-!
Merchants of a platform, read from its directory: `catalog/platforms.ts`. A run of `expandPlatformVenues` visits the platforms
one after the other. What a directory answers at a visit, and what the clock shows before and after, come from outside.
-/
namespace AgentPey.PlatformVenues
open AgentPass PurchaseChecks Schemas VenueRegistries
open FirstEntries (add addAll addAll_append get)

/-! ### Directories -/

def DEFAULT_DIRECTORY_TTL_MS : Int := 30000

structure DirectoryEntry where
  slug : String
  name : Option String
  url : String
  payTo : String

def directoryEntrySchema : Reader DirectoryEntry := fun v => do
  let object ← members v
  let slug ← field object "slug" text
  let name ← optional object "name" text
  let url ← field object "url" text
  let payTo ← field object "payTo" text
  some ⟨slug, name, url, payTo⟩

def directorySchema : Reader (List Value) := fun v => do
  let object ← members v
  field object "comercios" items

structure CachedDirectory where
  storedAt : Int
  entries : List Value

/-- The cache of one `fetch` implementation, by directory URL. -/
abbrev Cache := String → Option CachedDirectory

def Cache.set (cache : Cache) (directoryUrl : String) (directory : CachedDirectory) : Cache :=
  fun url => if url = directoryUrl then some directory else cache url

inductive Answer where
  /-- The request failed, or its body is no JSON. -/
  | unreachable (error : String)
  | answered (status : Nat) (body : Value)

/-- What one platform's turn meets. -/
structure Visit where
  asked : Int
  answer : Answer
  kept : Int

structure Issue where
  platform : String
  issue : String
  details : Members

structure Reading where
  entries : Option (List Value)
  cache : Cache
  issues : List Issue

section
variable {strKey : StrKey}

def readDirectory (ttlMs : Int) (cache : Cache) (platform : ResolvedPlatform strKey) (visit : Visit) : Reading :=
  let hit := (cache platform.directoryUrl).filter fun directory => visit.asked - directory.storedAt < ttlMs
  match hit with
  | some directory => ⟨some directory.entries, cache, []⟩
  | none =>
    match visit.answer with
    | .unreachable error =>
      ⟨none, cache, [⟨platform.slug.text, "directory could not be reached", [("error", .string error)]⟩]⟩
    | .answered status body =>
      if ¬(200 ≤ status ∧ status < 300) then
        ⟨none, cache, [⟨platform.slug.text, "directory answered with a non-2xx status", [("status", .number status)]⟩]⟩
      else
        match directorySchema body with
        | none => ⟨none, cache, [⟨platform.slug.text, "directory answered with an unexpected shape", []⟩]⟩
        | some comercios => ⟨some comercios, cache.set platform.directoryUrl ⟨visit.kept, comercios⟩, []⟩

/-! ### Entries -/

def storeUrl (platform : ResolvedPlatform strKey) (slug : String) : String :=
  let scheme := if platform.host.text = "localhost" then "http" else "https"
  scheme ++ "://" ++ slug ++ "." ++ platform.host.text

/-- `url.replace(/\/+$/, "")`. -/
def withoutSlashes (url : String) : String := String.ofList (url.toList.rdropWhile (· = '/'))

/-- Why an entry is dropped. -/
structure Dropped where
  dropped : String
  details : Members

/-- The venue a directory entry becomes, or the reason it is dropped. -/
def toVenue (platform : ResolvedPlatform strKey) (raw : Value) : Except Dropped (ResolvedVenue strKey) :=
  match directoryEntrySchema raw with
  | none => .error ⟨"malformed entry", []⟩
  | some entry =>
    if strKey.isValidEd25519PublicKey entry.payTo = false then
      .error ⟨"payout account is not a Stellar account", [("slug", .string entry.slug)]⟩
    else
      match makeVenueId strKey (platform.slug.text ++ "-" ++ entry.slug) entry.payTo with
      | .error _ => .error ⟨"slug does not make a valid venue id", [("slug", .string entry.slug)]⟩
      | .ok venueId =>
        let expected := storeUrl platform entry.slug
        if withoutSlashes entry.url ≠ expected then
          .error ⟨"store URL is not the platform's own subdomain for this merchant",
            [("slug", .string entry.slug), ("url", .string entry.url), ("expected", .string expected)]⟩
        else .ok ⟨venueId, some expected, platform.assets, some entry.payTo⟩

/-! ### The expansion -/

/-- Whether a platform is read: each one, or those whose merchants could be the one venue. -/
def isAsked (onlyFor : Option String) (platform : ResolvedPlatform strKey) : Bool :=
  match onlyFor with
  | none => true
  | some venue => (platform.slug.text ++ "-").toList.isPrefixOf venue.toList

structure Expansion (strKey : StrKey) where
  venues : List (ResolvedVenue strKey)
  cache : Cache
  issues : List Issue

def addEntry (platform : ResolvedPlatform strKey) (expansion : Expansion strKey) (raw : Value) : Expansion strKey :=
  match toVenue platform raw with
  | .error reason => { expansion with
      issues := expansion.issues ++ [⟨platform.slug.text, "directory entry dropped: " ++ reason.dropped, reason.details⟩] }
  | .ok venue =>
    if (get ResolvedVenue.venueId expansion.venues venue.venueId).isSome then
      { expansion with issues := expansion.issues ++ [⟨platform.slug.text, "directory entry dropped: venue already registered",
        [("venueId", .string venue.venueId.text)]⟩] }
    else { expansion with venues := expansion.venues ++ [venue] }

/-- What the directories answer while one run goes through the platforms, by the platforms' slugs. -/
structure Run where
  ttlMs : Int
  cache : Cache
  visit : String → Visit

def addPlatform (run : Run) (expansion : Expansion strKey) (platform : ResolvedPlatform strKey) : Expansion strKey :=
  let reading := readDirectory run.ttlMs expansion.cache platform (run.visit platform.slug.text)
  let read : Expansion strKey := { expansion with cache := reading.cache, issues := expansion.issues ++ reading.issues }
  match reading.entries with
  | none => read
  | some entries => entries.foldl (addEntry platform) read

structure Expanded (strKey : StrKey) where
  registry : VenueRegistry strKey
  cache : Cache
  issues : List Issue

/-- The registry with every platform's current merchants added as venues. -/
def expandPlatformVenues (run : Run) (onlyFor : Option String) (registry : VenueRegistry strKey) : Expanded strKey :=
  let platforms := registry.platforms.filter (isAsked onlyFor)
  if platforms.isEmpty then ⟨registry, run.cache, []⟩
  else
    let expansion := platforms.foldl (addPlatform run) ⟨registry.venues, run.cache, []⟩
    ⟨{ registry with venues := expansion.venues }, expansion.cache, expansion.issues⟩

/-! ### What a run adds -/

def merchants (platform : ResolvedPlatform strKey) (entries : Option (List Value)) : List (ResolvedVenue strKey) :=
  (entries.getD []).filterMap fun raw => (toVenue platform raw).toOption

/-- What a platform's directory tells in a run that goes through these platforms. -/
def toldFrom (run : Run) (platform : ResolvedPlatform strKey) : Cache → List (ResolvedPlatform strKey) → Option (List Value)
  | _, [] => none
  | cache, first :: rest =>
    let reading := readDirectory run.ttlMs cache first (run.visit first.slug.text)
    if first.slug = platform.slug then reading.entries else toldFrom run platform reading.cache rest

def told (run : Run) (order : List (ResolvedPlatform strKey)) (platform : ResolvedPlatform strKey) : Option (List Value) :=
  toldFrom run platform run.cache order

section
variable (platform : ResolvedPlatform strKey)
include platform

theorem venues_addEntry (expansion : Expansion strKey) (raw : Value) : (addEntry platform expansion raw).venues =
      addAll ResolvedVenue.venueId expansion.venues (merchants platform (some [raw])) := by
  unfold addEntry merchants
  cases made : toVenue platform raw with
  | error reason => simp [made, Except.toOption, addAll]
  | ok venue =>
    by_cases there : (get ResolvedVenue.venueId expansion.venues venue.venueId).isSome
    · simp [made, Except.toOption, addAll, add, there]
    · simp [made, Except.toOption, addAll, add, there]

theorem cache_addEntry (expansion : Expansion strKey) (raw : Value) :
    (addEntry platform expansion raw).cache = expansion.cache := by
  unfold addEntry
  split
  · rfl
  · split <;> rfl

theorem merchants_cons (raw : Value) (rest : List Value) :
    merchants platform (some (raw :: rest)) = merchants platform (some [raw]) ++ merchants platform (some rest) := by
  simp only [merchants, Option.getD_some]
  rw [← List.filterMap_append, List.singleton_append]

theorem addEntries (entries : List Value) (expansion : Expansion strKey) :
    (entries.foldl (addEntry platform) expansion).venues =
        addAll ResolvedVenue.venueId expansion.venues (merchants platform (some entries)) ∧
      (entries.foldl (addEntry platform) expansion).cache = expansion.cache := by
  induction entries generalizing expansion with
  | nil => exact ⟨rfl, rfl⟩
  | cons raw rest ih =>
    obtain ⟨venues, cache⟩ := ih (addEntry platform expansion raw)
    rw [List.foldl_cons, venues, cache, venues_addEntry, cache_addEntry, merchants_cons platform raw rest,
      addAll_append]
    exact ⟨rfl, rfl⟩

end

theorem addPlatform_spec (run : Run) (expansion : Expansion strKey) (platform : ResolvedPlatform strKey) :
    let reading := readDirectory run.ttlMs expansion.cache platform (run.visit platform.slug.text)
    (addPlatform run expansion platform).venues =
        addAll ResolvedVenue.venueId expansion.venues (merchants platform reading.entries) ∧
      (addPlatform run expansion platform).cache = reading.cache := by
  intro reading
  unfold addPlatform
  cases entries : reading.entries with
  | none => exact ⟨by simp [reading, entries, merchants, addAll], by simp [reading, entries]⟩
  | some list =>
    simp only [reading, entries]
    exact addEntries platform list _

theorem venues_foldl (run : Run) (order : List (ResolvedPlatform strKey)) (apart : (order.map ResolvedPlatform.slug).Nodup)
    (expansion : Expansion strKey) : (order.foldl (addPlatform run) expansion).venues =
      addAll ResolvedVenue.venueId expansion.venues
        (order.flatMap fun platform => merchants platform (toldFrom run platform expansion.cache order)) := by
  induction order generalizing expansion with
  | nil => rfl
  | cons first rest ih =>
    obtain ⟨fresh, later⟩ := List.nodup_cons.mp apart
    obtain ⟨venues, cache⟩ := addPlatform_spec run expansion first
    have others : (rest.flatMap fun platform => merchants platform (toldFrom run platform expansion.cache (first :: rest))) =
        rest.flatMap fun platform => merchants platform
          (toldFrom run platform (readDirectory run.ttlMs expansion.cache first (run.visit first.slug.text)).cache rest) := by
      refine List.flatMap_congr fun platform among => ?_
      have other : first.slug ≠ platform.slug := fun same => fresh (same ▸ List.mem_map_of_mem among)
      rw [toldFrom, if_neg other]
    rw [List.foldl_cons, ih later, venues, cache, List.flatMap_cons, others, toldFrom, if_pos rfl, addAll_append]

theorem venues_expand (run : Run) (onlyFor : Option String) {registry : VenueRegistry strKey}
    (apart : (registry.platforms.map ResolvedPlatform.slug).Nodup) :
    (expandPlatformVenues run onlyFor registry).registry.venues =
      addAll ResolvedVenue.venueId registry.venues
        ((registry.platforms.filter (isAsked onlyFor)).flatMap fun platform =>
          merchants platform (told run (registry.platforms.filter (isAsked onlyFor)) platform)) := by
  unfold expandPlatformVenues
  by_cases none : (registry.platforms.filter (isAsked onlyFor)).isEmpty
  · rw [if_pos none, List.isEmpty_iff.mp none]
    rfl
  · rw [if_neg none]
    exact venues_foldl run _ (apart.sublist (List.filter_sublist.map _)) _

end

end AgentPey.PlatformVenues
