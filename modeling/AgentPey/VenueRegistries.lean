import AgentPey.FirstEntries
import AgentPey.PurchaseChecks
import AgentPey.Schemas

/-!
The table of venues and platforms: `catalog/ids.ts` and `catalog/registry.ts` of the agent. A venue is named by a slug and an
address, a platform by a slug that its merchants' venues start with. A table that names anything twice is refused.
-/
namespace AgentPey.VenueRegistries
open AgentPass PurchaseChecks Schemas

/-! ### Slugs and hosts -/

def lowerAlphanumeric (c : Char) : Bool := c.isLower || c.isDigit

/-- `^[a-z0-9]+(?:-[a-z0-9]+)*$`. -/
def VENUE_SLUG_PATTERN (text : List Char) : Bool :=
  (text.splitOn '-').all fun part => !part.isEmpty && part.all lowerAlphanumeric

def VENUE_SLUG_MAX_LENGTH : Nat := 40

/-- The `length` of a string, in UTF-16 code units. -/
def lengthOf (text : List Char) : Nat := (text.map fun c => if c.toNat < 0x10000 then 1 else 2).sum

def HOST_PATTERN (text : List Char) : Bool := (text.splitOn '.').all VENUE_SLUG_PATTERN

/-- What `venueSlugSchema` lets through. -/
structure Slug where
  text : String
  pattern : VENUE_SLUG_PATTERN text.toList = true
  short : lengthOf text.toList ≤ VENUE_SLUG_MAX_LENGTH
  deriving DecidableEq

/-- A lowercase hostname, no scheme, port or path. -/
structure Host where
  text : String
  pattern : HOST_PATTERN text.toList = true
  short : lengthOf text.toList ≤ 253
  deriving DecidableEq

def venueSlugSchema : Reader Slug := fun v => do
  let s ← text v
  if ok : VENUE_SLUG_PATTERN s.toList = true ∧ lengthOf s.toList ≤ VENUE_SLUG_MAX_LENGTH then some ⟨s, ok.1, ok.2⟩ else none

def hostSchema : Reader Host := fun v => do
  let s ← text v
  if ok : HOST_PATTERN s.toList = true ∧ lengthOf s.toList ≤ 253 then some ⟨s, ok.1, ok.2⟩ else none

/-! ### Ids -/

section Ids
variable (strKey : StrKey)

structure ParsedVenueId where
  venueId : String
  slug : String
  address : String
  addressKind : IssuerKind

def invalidVenueId (value reason message : String) : Thrown :=
  .AgentPassError "InvalidVenueId" message [("venueId", .string value), ("reason", .string reason)]

/-- Splits `<slug>:<address>`, validating both halves. -/
def parseVenueId (value : String) : Result ParsedVenueId :=
  match value.toList.splitOn ':' with
  | [slugText, addressText] =>
    let slug := String.ofList slugText
    let address := String.ofList addressText
    if VENUE_SLUG_MAX_LENGTH < lengthOf slugText then
      .error (invalidVenueId value "slug-too-long"
        ("a venue slug is at most 40 characters, got " ++ toString (lengthOf slugText)))
    else if VENUE_SLUG_PATTERN slugText = false then
      .error (invalidVenueId value "malformed-slug"
        ("\"" ++ slug ++ "\" is not a venue slug: lowercase letters, digits and single hyphens only"))
    else if strKey.isValidContract address then .ok ⟨value, slug, address, .contract⟩
    else if strKey.isValidEd25519PublicKey address then .ok ⟨value, slug, address, .account⟩
    else .error (invalidVenueId value "malformed-address"
      "the second segment is neither a Soroban contract (C...) nor a Stellar account (G...)")
  | segments => .error (invalidVenueId value "malformed"
      ("expected <slug>:<address>, got " ++ toString segments.length ++ " segment(s)"))

/-- A text that `parseVenueId` takes: the brand of `ids.ts`. -/
structure VenueId where
  text : String
  parses : ∃ parsed, parseVenueId strKey text = .ok parsed

instance : DecidableEq (VenueId strKey) := fun a b =>
  decidable_of_iff (a.text = b.text) ⟨fun same => by cases a; cases b; cases same; rfl, fun same => same ▸ rfl⟩

/-- The same for an asset. -/
structure AssetId where
  text : String
  parses : ∃ parsed, parseAssetId strKey text = .ok parsed

def makeVenueId (slug address : String) : Result (VenueId strKey) :=
  match parsed : parseVenueId strKey (slug ++ ":" ++ address) with
  | .ok venue => .ok ⟨slug ++ ":" ++ address, venue, parsed⟩
  | .error thrown => .error thrown

def makeAssetId (code issuer : String) : Result (AssetId strKey) :=
  match parsed : parseAssetId strKey (code ++ ":" ++ issuer) with
  | .ok asset => .ok ⟨code ++ ":" ++ issuer, asset, parsed⟩
  | .error thrown => .error thrown

/-! ### Rows -/

/-- A `strictObject` has no member that its schema does not name. -/
def onlyKeys (keys : List String) (object : Members) : Option Unit :=
  if object.all fun member => keys.contains member.1 then some ⟨⟩ else none

structure RegistryAsset where
  code : String
  issuer : String

def registryAssetSchema : Reader RegistryAsset := fun v => do
  let object ← members v
  onlyKeys ["code", "issuer"] object
  let code ← field object "code" (textThat fun code => ASSET_CODE_PATTERN code.toList)
  let issuer ← field object "issuer" text
  some ⟨code, issuer⟩

def assetsSchema : Reader (List RegistryAsset) := fun v => do
  let assets ← list registryAssetSchema v
  if assets.isEmpty then none else some assets

structure RegistryVenueRow where
  slug : Slug
  address : String
  baseUrl : Option String
  assets : List RegistryAsset

structure RegistryPlatformRow where
  slug : Slug
  host : Host
  directoryUrl : String
  assets : List RegistryAsset

/-- The text that `z.url()` keeps of a URL. -/
structure Urls where
  url : String → Option String

def Urls.schema (urls : Urls) : Reader String := fun v => do
  let s ← text v
  urls.url s

def registryVenueSchema (urls : Urls) : Reader RegistryVenueRow := fun v => do
  let object ← members v
  onlyKeys ["slug", "address", "baseUrl", "assets"] object
  let slug ← field object "slug" venueSlugSchema
  let address ← field object "address" text
  let baseUrl ← optional object "baseUrl" urls.schema
  let assets ← field object "assets" assetsSchema
  some ⟨slug, address, baseUrl, assets⟩

def registryPlatformSchema (urls : Urls) : Reader RegistryPlatformRow := fun v => do
  let object ← members v
  onlyKeys ["kind", "slug", "host", "directoryUrl", "assets"] object
  let _ ← field object "kind" (textThat (· = "platform"))
  let slug ← field object "slug" venueSlugSchema
  let host ← field object "host" hostSchema
  let directoryUrl ← field object "directoryUrl" urls.schema
  let assets ← field object "assets" assetsSchema
  some ⟨slug, host, directoryUrl, assets⟩

inductive RegistryRow where
  | venue (row : RegistryVenueRow)
  | platform (row : RegistryPlatformRow)

def venueRegistrySchema (urls : Urls) : Reader (List RegistryRow) := list fun v =>
  match registryVenueSchema urls v with
  | some row => some (.venue row)
  | none => (registryPlatformSchema urls v).map .platform

/-! ### The registry -/

/-- The assets of one row, under their codes and under their issuers. -/
structure AssetIndex where
  byCode : List (String × AssetId strKey)
  byIssuer : List (String × AssetId strKey)

structure ResolvedVenue where
  venueId : VenueId strKey
  baseUrl : Option String
  assets : AssetIndex strKey
  payTo : Option String

structure ResolvedPlatform where
  slug : Slug
  host : Host
  directoryUrl : String
  assets : AssetIndex strKey

/-- The maps of the source, in the order of their insertion. -/
structure VenueRegistry where
  venues : List (ResolvedVenue strKey)
  platforms : List (ResolvedPlatform strKey)

variable {strKey}

def VenueRegistry.get (registry : VenueRegistry strKey) (venueId : VenueId strKey) : Option (ResolvedVenue strKey) :=
  FirstEntries.get ResolvedVenue.venueId registry.venues venueId

def invalidRegistry (message : String) (details : Details) : Thrown := .AgentPassError "InvalidVenueRegistry" message details

def addAsset (owner : String) (index : AssetIndex strKey) (asset : RegistryAsset) : Result (AssetIndex strKey) := do
  let assetId ← makeAssetId strKey asset.code asset.issuer
  if (index.byCode.lookup asset.code).isSome then
    .error (invalidRegistry (owner ++ " names asset code \"" ++ asset.code ++ "\" more than once")
      [("owner", .string owner), ("code", .string asset.code)])
  else if (index.byIssuer.lookup asset.issuer).isSome then
    .error (invalidRegistry (owner ++ " names issuer \"" ++ asset.issuer ++ "\" more than once")
      [("owner", .string owner), ("issuer", .string asset.issuer)])
  else .ok ⟨index.byCode ++ [(asset.code, assetId)], index.byIssuer ++ [(asset.issuer, assetId)]⟩

def indexAssets (owner : String) (assets : List RegistryAsset) : Result (AssetIndex strKey) :=
  assets.foldlM (addAsset owner) ⟨[], []⟩

def addRow (registry : VenueRegistry strKey) : RegistryRow → Result (VenueRegistry strKey)
  | .platform row => do
    if registry.platforms.any (fun platform => platform.slug = row.slug) then
      .error (invalidRegistry ("the registry names platform \"" ++ row.slug.text ++ "\" more than once")
        [("platform", .string row.slug.text)])
    else
      let assets ← indexAssets ("platform \"" ++ row.slug.text ++ "\"") row.assets
      .ok { registry with platforms := registry.platforms ++ [⟨row.slug, row.host, row.directoryUrl, assets⟩] }
  | .venue row => do
    let venueId ← makeVenueId strKey row.slug.text row.address
    if (registry.get venueId).isSome then
      .error (invalidRegistry ("the registry names venue \"" ++ venueId.text ++ "\" more than once")
        [("venueId", .string venueId.text)])
    else
      let assets ← indexAssets ("venue \"" ++ venueId.text ++ "\"") row.assets
      .ok { registry with venues := registry.venues ++ [⟨venueId, row.baseUrl, assets, none⟩] }

/-- The platform whose venues' prefix a fixed venue uses. -/
def platformUnder (platforms : List (ResolvedPlatform strKey)) (venueId : VenueId strKey) : Option (ResolvedPlatform strKey) :=
  platforms.find? fun platform => (platform.slug.text ++ "-").toList.isPrefixOf venueId.text.toList ||
    (platform.slug.text ++ ":").toList.isPrefixOf venueId.text.toList

def refuseUnder (platforms : List (ResolvedPlatform strKey)) (venue : ResolvedVenue strKey) : Result Unit :=
  match platformUnder platforms venue.venueId with
  | some platform => .error (invalidRegistry
      ("venue \"" ++ venue.venueId.text ++ "\" uses the slug of platform \"" ++ platform.slug.text ++ "\"")
      [("venueId", .string venue.venueId.text), ("platform", .string platform.slug.text)])
  | none => .ok ⟨⟩

variable (strKey)

def loadVenueRegistry (urls : Urls) (raw : Value) : Result (VenueRegistry strKey) :=
  match venueRegistrySchema urls raw with
  | none => .error (invalidRegistry "the venue registry does not match the expected schema" [])
  | some rows => do
    let registry ← rows.foldlM addRow (⟨[], []⟩ : VenueRegistry strKey)
    registry.venues.forM (refuseUnder registry.platforms)
    .ok registry

end Ids

end AgentPey.VenueRegistries
