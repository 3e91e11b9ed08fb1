/-
  The contracts of the live providers (`providers/models.py`, `providers/errors.py`).

  A request checks what it is built from, so a value of it carries the checked
  bounds.  Coordinates and temperatures are rationals.  The fields of a request
  are those of `model_dump(mode="json")`, in the order of its class.
-/
import Mathlib.Data.Rat.Defs
import Mathlib.Algebra.Order.Ring.Unbundled.Rat
import RoutePilot.Model.Entities

namespace RoutePilot.Provider

inductive ProviderCapability where
  | placeSearch
  | geocode
  | routeMatrix
  | openingHours
  | weather
  deriving DecidableEq, Repr

def ProviderCapability.value : ProviderCapability → String
  | placeSearch => "place_search"
  | geocode => "geocode"
  | routeMatrix => "route_matrix"
  | openingHours => "opening_hours"
  | weather => "weather"

inductive FreshnessStatus where
  | fresh
  | stale
  | unknown
  deriving DecidableEq, Repr

/-! ## Errors -/

/-- The classes of the error taxonomy. -/
inductive ErrorKind where
  | input
  | unavailable
  | timeout
  | rateLimited
  | circuitOpen
  | authentication
  | response
  | cancelled
  | idempotencyConflict
  | notAllowed
  deriving DecidableEq, Repr

/-- `retryable`. -/
def ErrorKind.retryable : ErrorKind → Bool
  | unavailable | timeout | rateLimited | circuitOpen | response => true
  | input | authentication | cancelled | idempotencyConflict | notAllowed => false

/-- `counts_toward_circuit`. -/
def ErrorKind.countsTowardCircuit : ErrorKind → Bool
  | unavailable | timeout | authentication | response => true
  | input | rateLimited | circuitOpen | cancelled | idempotencyConflict | notAllowed => false

structure ProviderError where
  kind : ErrorKind
  providerId : Option String := none
  deriving DecidableEq, Repr

/-! ## Requests -/

inductive CoordinateSystem where
  | gcj02
  | wgs84
  deriving DecidableEq, Repr

def CoordinateSystem.value : CoordinateSystem → String
  | gcj02 => "GCJ-02"
  | wgs84 => "WGS-84"

@[ext]
structure Coordinate where
  longitude : ℚ
  latitude : ℚ
  coordinateSystem : CoordinateSystem
  longitude_le : -180 ≤ longitude ∧ longitude ≤ 180
  latitude_le : -90 ≤ latitude ∧ latitude ≤ 90

@[ext]
structure PlaceSearchRequest where
  query : String
  city : Option String := none
  center : Option Coordinate := none
  radiusMeters : ℕ := 3000
  categoryCodes : List String := []
  limit : ℕ := 20
  page : ℕ := 1
  query_length : 1 ≤ query.length ∧ query.length ≤ 100
  radius_le : 1 ≤ radiusMeters ∧ radiusMeters ≤ 50000
  codes_le : categoryCodes.length ≤ 20
  limit_le : 1 ≤ limit ∧ limit ≤ 25
  page_le : 1 ≤ page ∧ page ≤ 100

@[ext]
structure GeocodeRequest where
  address : String
  city : Option String := none
  address_length : 2 ≤ address.length ∧ address.length ≤ 500

inductive RouteMode where
  | driving
  | walking
  deriving DecidableEq, Repr

def RouteMode.value : RouteMode → String
  | driving => "driving"
  | walking => "walking"

@[ext]
structure RouteMatrixRequest where
  origins : List Coordinate
  destinations : List Coordinate
  mode : RouteMode := .driving
  origins_le : 1 ≤ origins.length ∧ origins.length ≤ 25
  destinations_le : 1 ≤ destinations.length ∧ destinations.length ≤ 10

@[ext]
structure OpeningHoursRequest where
  providerPlaceIds : List String
  localDate : Option String := none
  ids_le : 1 ≤ providerPlaceIds.length ∧ providerPlaceIds.length ≤ 50
  ids_nodup : providerPlaceIds.Nodup

@[ext]
structure WeatherRequest where
  coordinate : Coordinate
  timezone : String
  forecastHours : ℕ := 48
  timezone_length : 1 ≤ timezone.length ∧ timezone.length ≤ 64
  hours_le : 1 ≤ forecastHours ∧ forecastHours ≤ 168

/-- A request, of one of the classes. -/
inductive Request where
  | placeSearch (r : PlaceSearchRequest)
  | geocode (r : GeocodeRequest)
  | routeMatrix (r : RouteMatrixRequest)
  | openingHours (r : OpeningHoursRequest)
  | weather (r : WeatherRequest)

/-- The capability of the method that takes the request. -/
def Request.capability : Request → ProviderCapability
  | placeSearch _ => .placeSearch
  | geocode _ => .geocode
  | routeMatrix _ => .routeMatrix
  | openingHours _ => .openingHours
  | weather _ => .weather

/-- `None` or a text. -/
def textOrNone : Option String → Json
  | none => .null
  | some text => .str text

def Coordinate.dump (c : Coordinate) : Json :=
  .obj [("longitude", .float c.longitude), ("latitude", .float c.latitude),
    ("coordinate_system", .str c.coordinateSystem.value)]

def Request.fields : Request → Obj
  | placeSearch r =>
    [("query", .str r.query), ("city", textOrNone r.city),
      ("center", match r.center with | none => .null | some center => center.dump),
      ("radius_meters", .int r.radiusMeters), ("category_codes", .arr (r.categoryCodes.map .str)),
      ("limit", .int r.limit), ("page", .int r.page)]
  | geocode r => [("address", .str r.address), ("city", textOrNone r.city)]
  | routeMatrix r =>
    [("origins", .arr (r.origins.map Coordinate.dump)), ("destinations", .arr (r.destinations.map Coordinate.dump)),
      ("mode", .str r.mode.value)]
  | openingHours r =>
    [("provider_place_ids", .arr (r.providerPlaceIds.map .str)), ("local_date", textOrNone r.localDate)]
  | weather r =>
    [("coordinate", r.coordinate.dump), ("timezone", .str r.timezone), ("forecast_hours", .int r.forecastHours)]

/-- `request.model_dump(mode="json")` -/
def Request.dump (request : Request) : Json := .obj request.fields

/-- `ProviderGateway._rate_cost`. -/
def rateCost : ProviderCapability → Request → ℕ
  | .routeMatrix, .routeMatrix r => r.destinations.length
  | .openingHours, .openingHours r => (r.providerPlaceIds.length + 9) / 10
  | _, _ => 1

end RoutePilot.Provider
