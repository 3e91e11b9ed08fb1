/-
  From a request to a brief (`TripBriefFactory.build` in `intake.py`).

  The geocoder is a function of the request it is asked with.  What it returns is
  what its models check; the brief checks each part again, by the bounds of the
  contracts.
-/
import RoutePilot.Intake.Request
import RoutePilot.Planning.Built
import RoutePilot.Planning.Patched
import RoutePilot.Provider.Model

namespace RoutePilot.Intake

open Lib Contracts
open Planning (strip Hex newId newConstraint newPreference)

/-! ## What is read by libraries -/

/-- Time zones, the texts of floats, and the decimals and floats read from each other. -/
structure Numbers where
  /-- the names that `ZoneInfo` accepts -/
  zoneInfo : String → Bool
  floatText : FloatText
  /-- `Decimal` -/
  decimal : String → Option ℚ
  /-- `float` of a decimal -/
  float : ℚ → ℚ
  /-- the text of a float is a decimal, on the same side of the degrees of a circle -/
  decimal_float : ∀ q, ∃ d, decimal (strip (String.ofList (floatText.repr q))) = some d ∧
    ∀ n : ℤ, n.natAbs ≤ 180 → (q ≤ n → d ≤ n) ∧ (n ≤ q → n ≤ d)
  /-- so is the float of a decimal -/
  float_between : ∀ (d : ℚ) (n : ℤ), n.natAbs ≤ 180 → (d ≤ n → float d ≤ n) ∧ (n ≤ d → n ≤ float d)

/-! ## The geocoder -/

/-- `^[a-z0-9][a-z0-9._-]*$`, of at most 80 characters. -/
def isProviderId (s : String) : Bool :=
  s.toList.head?.any (fun c => c.isLower || c.isDigit) &&
    s.toList.all (fun c => c.isLower || c.isDigit || c == '.' || c == '_' || c == '-') && s.length ≤ 80

structure ProviderProvenance where
  providerId : { s : String // isProviderId s }
  providerVersion : { s : String // IsText 1 80 s }
  capability : Provider.ProviderCapability
  observedAt : Time
  validUntil : Time
  freshnessStatus : Provider.FreshnessStatus
  /-- `validate_window` -/
  window : observedAt ≤ validUntil ∧ (freshnessStatus = .fresh → observedAt ≠ validUntil)

/-- `GeocodeCandidate`, with the fields that are read of it. -/
structure GeocodeCandidate where
  formattedAddress : { s : String // IsText 1 500 s }
  coordinate : Provider.Coordinate

structure GeocodeResult where
  candidates : List GeocodeCandidate
  provenance : ProviderProvenance
  bounded : candidates.length ≤ 10

/-- `GeocodeRequest(address=..., city=...)`. -/
def geocodeRequest (address city : String) : Except PyError Provider.GeocodeRequest :=
  check ((2 ≤ (strip address).length ∧ (strip address).length ≤ 500) ∧ (strip city).length ≤ 80)
    (.validationError "GeocodeRequest") fun h =>
      { address := strip address, city := some (strip city), address_length := h.1 }

/-! ## The brief -/

/-- A brief with the place and the source its contract has. -/
structure SourcedBrief where
  brief : TripBrief
  destination : SourcedPlace
  source : SourceRef
  valid : brief.Valid
  located : brief.destination = destination.toPlaceRef

/-- The digests and the identifiers of one brief. -/
structure BriefDraws where
  sourceDigest : Hex 32
  userSource : Hex 24
  placeDigest : Hex 32
  actorDigest : Hex 32
  artifact : Hex 24
  preference : ℕ → Hex 24
  dateConstraint : Hex 24
  budgetConstraint : Hex 24

inductive BuildError where
  /-- `TripIntakeError` -/
  | intake (code message : String)
  | py (e : PyError)

/-- `_stable_identifier`. -/
def stableIdentifier (kind : String) (digest : Hex 32) : String := kind ++ ":" ++ digest.text

/-- The source of what a provider returned. -/
def providerSource (p : ProviderProvenance) (sourceId label : String) : SourceFields where
  sourceId := sourceId
  kind := .provider
  name := p.providerId.1 ++ label
  version := p.providerVersion.1
  retrievedAt := p.observedAt
  publisher := some p.providerId.1

/-- The user as a source. -/
def userSource (d : BriefDraws) (now : Time) : SourceFields where
  sourceId := newId "source" d.userSource
  kind := .user
  name := "Trip workbench constraints"
  version := "1"
  retrievedAt := now
  publisher := some "RoutePilot user"

/-- `"WGS84" if ... == "WGS-84" else ...` -/
def contractSystem : Provider.CoordinateSystem → CoordinateSystem
  | .wgs84 => .wgs84
  | .gcj02 => .gcj02

variable (N : Numbers)

/-- The point of a coordinate, through the texts of its floats. -/
def pointOf (x : Provider.Coordinate) : Except PyError GeoPoint :=
  geoPoint N.decimal (String.ofList (N.floatText.repr x.latitude)) (String.ofList (N.floatText.repr x.longitude))
    (contractSystem x.coordinateSystem)

/-- The arguments of `PlaceRef(...)` that are texts, and its parts. -/
structure PlaceFields where
  placeId : String
  displayName : String
  address : Option String
  countryCode : String
  timezone : String
  location : GeoPoint
  providerIds : List ProviderPlaceId := []
  source : SourceRef

/-- `PlaceRef(...)`. -/
def sourcedPlace (f : PlaceFields) : Except PyError SourcedPlace := do
  let placeId ← identifier "PlaceRef" f.placeId
  let displayName ← text "PlaceRef" 1 256 f.displayName
  let address ← optionalText "PlaceRef" 1 256 f.address
  let timezone ← ianaTimezone N.zoneInfo "PlaceRef" f.timezone
  check (isCountryCode (strip f.countryCode) ∧ f.providerIds.length ≤ 16) (.validationError "PlaceRef")
    fun h =>
      { placeId, displayName, timezone, address, countryCode := ⟨strip f.countryCode, h.1⟩, location := f.location
        providerIds := f.providerIds, source := f.source }

/-- The place of the first candidate. -/
def destination (d : BriefDraws) (request : StructuredTripRequest) (p : ProviderProvenance)
    (candidate : GeocodeCandidate) : Except PyError SourcedPlace := do
  let source ← sourceRef (fun _ => none) (providerSource p (stableIdentifier "source" d.sourceDigest) " geocode")
  let location ← pointOf N candidate.coordinate
  sourcedPlace N
    { placeId := stableIdentifier "place" d.placeDigest, displayName := request.destination.1
      address := some candidate.formattedAddress.1, countryCode := request.countryCode.1
      timezone := request.timezone.1, location, source }

/-- `MoneyRange(...)` of the request. -/
def budget (request : StructuredTripRequest) : Except PyError MoneyRange := do
  let minAmount ← Planning.decimalAmount (strip request.budgetMin.1)
  let maxAmount ← Planning.decimalAmount (strip request.budgetMax.1)
  check (isCurrencyCode (strip request.currency.1)) (.validationError "MoneyRange")
    (fun h => (⟨strip request.currency.1, h⟩ : CurrencyCode)) >>= fun currency =>
      moneyRange minAmount maxAmount currency .total

/-- `TripDateRange(...)` of the request. -/
def dateWindow (request : StructuredTripRequest) : Except PyError TripDateRange := do
  let timezone ← ianaTimezone N.zoneInfo "TripDateRange" request.timezone.1
  tripDateRange request.startDate request.endDate timezone

/-- `TravelerGroup(...)` of the request. -/
def travelers (request : StructuredTripRequest) : Except PyError TravelerGroup := do
  let needs ← request.accessibilityNeeds.1.mapM fun s => text "TravelerGroup" 1 256 s.1
  check ((request.adults.1 ≤ 99 ∧ request.childrenAges.1.length ≤ 30 ∧ (∀ age ∈ request.childrenAges.1, age ≤ 17) ∧
        request.seniors.1 ≤ 99 ∧ 0 ≤ 50 ∧ needs.length ≤ 20) ∧
      1 ≤ request.adults.1 + request.childrenAges.1.length + request.seniors.1) (.validationError "TravelerGroup")
    fun h =>
      { adults := request.adults.1, childrenAges := request.childrenAges.1, seniors := request.seniors.1
        accessibilityNeeds := needs, bounded := h.1, traveler := h.2 }

/-- `f"preference_{index}_{new_id('pref')}"` -/
def preferenceId (d : BriefDraws) (index : ℕ) : String :=
  "preference_" ++ toString index ++ "_" ++ newId "pref" (d.preference index)

/-- The preferences, from an index on. -/
def preferences (d : BriefDraws) : ℕ → List ShortText → Except PyError (List TravelPreference)
  | _, [] => .ok []
  | index, s :: ss => do
    let value ← text "TravelPreference" 1 256 s.1
    let preference ← newPreference (preferenceId d index) value
    let rest ← preferences d (index + 1) ss
    return preference :: rest

/-- The descriptions of the dates and of the budget. -/
def dateDescription (request : StructuredTripRequest) : String :=
  "旅行日期为 " ++ request.startDate.isoformat ++ " 至 " ++ request.endDate.isoformat ++ "。"

def budgetDescription (request : StructuredTripRequest) : String :=
  "总预算为 " ++ request.budgetMin.1 ++ "–" ++ request.budgetMax.1 ++ " " ++ request.currency.1 ++ "。"

def constraints (d : BriefDraws) (request : StructuredTripRequest) : Except PyError (List ConstraintSpec) := do
  let date ← newConstraint (newId "constraint" d.dateConstraint) .date (dateDescription request)
  let money ← newConstraint (newId "constraint" d.budgetConstraint) .budget (budgetDescription request)
  return [date, money]

/-- The reason of every brief. -/
def briefReason : String := "将用户显式约束和经批准 Provider 解析的目的地固化为规划输入。"

/-- `TripBrief(...)`. -/
def tripBrief (d : BriefDraws) (place : SourcedPlace) (source : SourceRef) (dateWindow : TripDateRange)
    (travelers : TravelerGroup) (budget : MoneyRange) (preferences : List TravelPreference)
    (constraints : List ConstraintSpec) : Except PyError SourcedBrief := do
  let createdBy ← Planning.actor d.actorDigest
  let brief : TripBrief :=
    { artifactId := newId "artifact" d.artifact, version := 1, createdBy, reason := briefReason
      destination := place.toPlaceRef, dateWindow, travelers, budget, preferences, constraints }
  check brief.Valid (.validationError "TripBrief") fun h =>
    { brief, destination := place, source, valid := h, located := rfl }

/-- What is built once the place is known. -/
def briefOf (d : BriefDraws) (now : Time) (request : StructuredTripRequest) (p : ProviderProvenance)
    (candidate : GeocodeCandidate) : Except PyError SourcedBrief := do
  let user ← sourceRef (fun _ => none) (userSource d now)
  let place ← destination N d request p candidate
  let money ← budget request
  let window ← dateWindow N request
  let group ← travelers request
  let wishes ← preferences d 0 request.preferences.1
  let specs ← constraints d request
  tripBrief d place user window group money wishes specs

/-- `build`. -/
def build (geocode : Provider.GeocodeRequest → GeocodeResult) (d : BriefDraws) (now : Time)
    (request : StructuredTripRequest) : Except BuildError SourcedBrief :=
  match geocodeRequest request.destination.1 request.destination.1 with
  | .error e => .error (.py e)
  | .ok asked =>
    match (geocode asked).candidates with
    | [] => .error (.intake "DESTINATION_NOT_FOUND" "The destination could not be resolved by an approved provider.")
    | candidate :: _ =>
      match briefOf N d now request (geocode asked).provenance candidate with
      | .error e => .error (.py e)
      | .ok brief => .ok brief

end RoutePilot.Intake
