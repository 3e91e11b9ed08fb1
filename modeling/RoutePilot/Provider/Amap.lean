/-
  The AMap adapter (`providers/amap.py`).

  Each method is a coroutine that awaits HTTP requests.  What the adapter takes
  from libraries is in `Ports`: the models of the responses about places,
  addresses and the weather, the reading and writing of floats, and the clock
  arithmetic of forecasts.  The models of a status, of distances and of details
  are defined.
-/
import RoutePilot.Contracts.Common
import RoutePilot.Lib.Co
import RoutePilot.Lib.Strip
import RoutePilot.Model.Json
import RoutePilot.Provider.Model

namespace RoutePilot.Provider.Amap

open Lib

def providerId : String := "amap"

def maxResponseBytes : ℕ := 2 * 1024 * 1024

/-! ## HTTP -/

/-- `marker in text`. -/
def occursIn (marker text : String) : Bool := text.toList.tails.any marker.toList.isPrefixOf

/-- A `GET` of a fixed path. -/
structure Get where
  path : String
  params : List (String × String)
  deriving DecidableEq, Repr

/-- What `json.loads` makes of a body. -/
inductive Body where
  | json (value : Json)
  /-- not JSON, or not a text: an exception that is caught -/
  | malformed
  /-- an exception that is not: an integer of too many digits is a `ValueError`, and brackets nested too deeply are a
      `RecursionError` -/
  | unreadable

structure HttpResponse where
  isRedirect : Bool := false
  statusCode : ℕ := 200
  /-- in lower case -/
  contentType : String := "application/json"
  /-- the header, as an integer if it is one -/
  contentLength : Option (Option ℤ) := none
  /-- the sizes of the chunks of the body -/
  chunks : List ℕ := []
  body : Body

/-- What is raised: an error of the taxonomy, of the HTTP client, of `json.loads` or of a result model, or a
    cancellation. -/
inductive Err where
  | provider (e : ProviderError)
  | httpTimeout
  | httpError
  | jsonError
  | validationError (model : String)
  | cancelledError
  deriving DecidableEq, Repr

inductive Act where
  /-- `context.cancellation_event.is_set()` -/
  | isCancelled
  | utcNow

def effects : Effects where
  Op := Get
  Ans _ := HttpResponse
  Act := Act
  Res
    | .isCancelled => Bool
    | .utcNow => Time
  Err := Err

abbrev AmapM := Co effects

def fail {α : Type} (kind : ErrorKind) : AmapM α := Co.raise (E := effects) (.provider ⟨kind, some providerId⟩)

/-- Raise unless `c` holds. -/
def check (c : Prop) [Decidable c] (kind : ErrorKind) : AmapM Unit := if c then pure () else fail kind

/-- The checks of a response before its body is decoded. -/
def checkResponse (response : HttpResponse) : AmapM Unit := do
  check (response.isRedirect = false) .response
  check (response.statusCode ≠ 429) .rateLimited
  check (response.statusCode ≠ 401 ∧ response.statusCode ≠ 403) .authentication
  check (response.statusCode < 500) .unavailable
  check (response.statusCode = 200) .response
  check (occursIn "json" response.contentType) .response
  check (∀ header ∈ response.contentLength, ∃ n ∈ header, n ≤ maxResponseBytes) .response
  check (response.chunks.sum ≤ maxResponseBytes) .response

/-- `_get`, with the key of the account. -/
def get (key path : String) (params : List (String × String)) : AmapM Json := do
  let request : AmapM HttpResponse := do
    let response ← Co.call (E := effects) ⟨path, params ++ [("key", key), ("output", "JSON")]⟩
    checkResponse response
    return response
  let response ← request.tryCatch fun
    | .httpTimeout => fail .timeout
    | .httpError => fail .unavailable
    | e => Co.raise (E := effects) e
  match response.body with
  | .json payload => return payload
  | .malformed => fail .response
  | .unreadable => Co.raise (E := effects) .jsonError

/-! ## Response models -/

/-- `str | list[Any] | None`. -/
inductive Scalar where
  | str (s : String)
  | list
  | none

/-- `str | int`. -/
inductive Number where
  | str (s : String)
  | int (z : ℤ)

structure StatusResponse where
  status : String
  infocode : Option String

structure Poi where
  id : String
  name : String
  location : String
  address : Scalar
  type : Scalar
  typecode : Scalar
  adcode : Scalar

structure PlaceResponse extends StatusResponse where
  pois : List Poi

structure Geocode where
  formattedAddress : String
  country : Scalar
  province : Scalar
  city : Scalar
  district : Scalar
  adcode : Scalar
  location : String

structure GeocodeResponse extends StatusResponse where
  geocodes : List Geocode

structure Distance where
  originId : Number
  destId : Number
  distance : Number
  duration : Number
  info : Option String

structure DistanceResponse extends StatusResponse where
  results : List Distance

structure RegeoResponse extends StatusResponse where
  adcode : String

structure Forecast where
  adcode : String
  reporttime : String
  /-- date, day and night weather, day and night temperature -/
  casts : List (String × String × String × Number × Number)

structure WeatherResponse extends StatusResponse where
  forecasts : List Forecast

structure DetailPoi where
  id : String
  opentimeToday : Option String
  opentimeWeek : Option String

structure PlaceDetailResponse extends StatusResponse where
  pois : List DetailPoi

/-! ## Validation -/

/-- A text, without the white space around it. -/
def string : Json → Option String
  | .str s => some (String.ofList (stripEnds Contracts.isWhitespace s.toList))
  | _ => none

/-- `str | None`. -/
def optionalString : Option Json → Option (Option String)
  | none | some .null => some none
  | some value => (string value).map some

/-- `str | int`: an integer is read from `true` and `false`, and from a float without a fraction. -/
def number : Json → Option Number
  | .int z => some (.int z)
  | .bool b => some (.int b.toNat)
  | .float q => if q.den = 1 ∧ -2 ^ 63 < q ∧ q < 2 ^ 63 then some (.int q.num) else none
  | value => (string value).map .str

/-- A list that is empty if it is left out. -/
def list {α : Type} (read : Json → Option α) : Option Json → Option (List α)
  | none => some []
  | some (.arr items) => items.mapM read
  | _ => none

/-- `_AMapStatusResponse`. -/
def statusResponse : Json → Option StatusResponse
  | .obj fields => do
    let status ← (fields.lookup "status").bind string
    let _ ← optionalString (fields.lookup "info")
    let infocode ← optionalString (fields.lookup "infocode")
    return ⟨status, infocode⟩
  | _ => none

/-- `_AMapDistance`. -/
def distance : Json → Option Distance
  | .obj fields => do
    let originId ← (fields.lookup "origin_id").bind number
    let destId ← (fields.lookup "dest_id").bind number
    let distance ← (fields.lookup "distance").bind number
    let duration ← (fields.lookup "duration").bind number
    let info ← optionalString (fields.lookup "info")
    return { originId, destId, distance, duration, info }
  | _ => none

/-- `_AMapDistanceResponse`. -/
def distanceResponse : Json → Option DistanceResponse
  | .obj fields => do
    let status ← statusResponse (.obj fields)
    let results ← list distance (fields.lookup "results")
    return { status with results }
  | _ => none

/-- A field of `_AMapBusiness`, of which an empty list is none. -/
def openTime : Option Json → Option (Option String)
  | some (.arr []) => some none
  | value => (optionalString value).filter fun text => ∀ s ∈ text, s.length ≤ 500

/-- `_AMapBusiness | None`: today and the week. -/
def business : Option Json → Option (Option String × Option String)
  | none | some .null | some (.arr []) => some (none, none)
  | some (.obj fields) => do
    let opentimeToday ← openTime (fields.lookup "opentime_today")
    let opentimeWeek ← openTime (fields.lookup "opentime_week")
    return (opentimeToday, opentimeWeek)
  | _ => none

/-- `^[A-Za-z0-9._:-]+$`, of at most 128 characters. -/
def isPlaceId (s : String) : Bool :=
  s.toList.all (fun c => c.isAlphanum || c == '.' || c == '_' || c == ':' || c == '-') && 1 ≤ s.length && s.length ≤ 128

/-- `_AMapDetailPoi`. -/
def detailPoi : Json → Option DetailPoi
  | .obj fields => do
    let id ← ((fields.lookup "id").bind string).filter isPlaceId
    let (opentimeToday, opentimeWeek) ← business (fields.lookup "business")
    return { id, opentimeToday, opentimeWeek }
  | _ => none

/-- `_AMapPlaceDetailResponse`. -/
def placeDetailResponse : Json → Option PlaceDetailResponse
  | .obj fields => do
    let status ← statusResponse (.obj fields)
    let pois ← (list detailPoi (fields.lookup "pois")).filter fun pois => pois.length ≤ 10
    return { status with pois }
  | _ => none

/-! ## Numerals and intervals -/

/-- The code points of the digits zero. -/
def zeros : List ℕ :=
  [0x30, 0x660, 0x6f0, 0x7c0, 0x966, 0x9e6, 0xa66, 0xae6, 0xb66, 0xbe6, 0xc66, 0xce6, 0xd66, 0xde6, 0xe50, 0xed0,
    0xf20, 0x1040, 0x1090, 0x17e0, 0x1810, 0x1946, 0x19d0, 0x1a80, 0x1a90, 0x1b50, 0x1bb0, 0x1c40, 0x1c50, 0xa620,
    0xa8d0, 0xa900, 0xa9d0, 0xa9f0, 0xaa50, 0xabf0, 0xff10, 0x104a0, 0x10d30, 0x11066, 0x110f0, 0x11136, 0x111d0,
    0x112f0, 0x11450, 0x114d0, 0x11650, 0x116c0, 0x11730, 0x118e0, 0x11950, 0x11c50, 0x11d50, 0x11da0, 0x11f50,
    0x16a60, 0x16ac0, 0x16b50, 0x1d7ce, 0x1d7d8, 0x1d7e2, 0x1d7ec, 0x1d7f6, 0x1e140, 0x1e2f0, 0x1e4f0, 0x1e950,
    0x1fbf0]

/-- The value of a digit. -/
def decimal (c : Char) : Option ℕ := (zeros.find? fun z => z ≤ c.toNat ∧ c.toNat < z + 10).map (c.toNat - ·)

/-- `\d`. -/
def isDecimal (c : Char) : Bool := (decimal c).isSome

/-- The white space that `int` skips. -/
def isIntSpace (c : Char) : Bool := isPySpace c && !(28 ≤ c.toNat && c.toNat ≤ 31)

/-- The digits of a numeral, at most 4300, in groups that are joined by `_`. -/
def parseDigits (cs : List Char) : Option ℕ := do
  let digits ← (cs.filter (· ≠ '_')).mapM decimal
  if (cs.splitOn '_').all (fun group => !group.isEmpty) ∧ digits.length ≤ 4300 then
    some (digits.foldl (fun n digit => 10 * n + digit) 0)
  else none

/-- `int(s)`. -/
def pyInt (s : String) : Option ℤ :=
  match stripEnds isIntSpace s.toList with
  | '-' :: ds => (parseDigits ds).map fun n => -(n : ℤ)
  | '+' :: ds => (parseDigits ds).map (↑)
  | ds => (parseDigits ds).map (↑)

/-- `(?:[01]\d|2[0-3]):[0-5]\d`. -/
def isClock : List Char → Bool
  | [h, h', ':', m, m'] =>
    ((h == '0' || h == '1') && isDecimal h' || h == '2' && '0' ≤ h' && h' ≤ '3') && '0' ≤ m && m ≤ '5' && isDecimal m'
  | _ => false

/-- What `_OPEN_INTERVAL_RE` matches, what stands around it aside. -/
def isInterval (cs : List Char) : Bool :=
  isClock (cs.take 5) && cs[5]? == some '-' && (isClock (cs.drop 6) || cs.drop 6 == "24:00".toList)

/-- The matches of `_OPEN_INTERVAL_RE`; `skip` characters belong to the one before. -/
def findIntervals (afterDigit : Bool) (skip : ℕ) : List Char → List String
  | [] => []
  | c :: cs =>
    if skip = 0 ∧ afterDigit = false ∧ isInterval ((c :: cs).take 11) ∧ ¬ (cs.drop 10).head?.any isDecimal then
      String.ofList ((c :: cs).take 11) :: findIntervals (isDecimal c) 10 cs
    else findIntervals (isDecimal c) (skip - 1) cs

/-- The opening intervals in a text, each once. -/
def intervals (text : String) : List String := (findIntervals false 0 text.toList).eraseDups

/-! ## Result models -/

structure Place where
  providerPlaceId : String
  name : String
  coordinate : Coordinate
  address : Option String
  category : Option String
  categoryCode : Option String
  administrativeCode : Option String

structure GeocodeCandidate where
  formattedAddress : String
  coordinate : Coordinate
  country : Option String
  province : Option String
  city : Option String
  district : Option String
  administrativeCode : Option String

structure RouteMatrixCell where
  originIndex : ℕ
  destinationIndex : ℕ
  distanceMeters : ℕ
  durationSeconds : ℕ

inductive OpeningStatus where
  | closed
  | unknown

structure OpeningHoursEntry where
  providerPlaceId : String
  status : OpeningStatus
  intervals : List String := []
  note : Option String

structure WeatherPeriod where
  startsAt : Time
  endsAt : Time
  condition : String
  temperatureCelsius : ℚ

/-- What a method returns, its provenance aside. -/
inductive Result where
  | places (places : List Place)
  | candidates (candidates : List GeocodeCandidate)
  | matrix (cells : List RouteMatrixCell)
  | hours (entries : List OpeningHoursEntry)
  | weather (periods : List WeatherPeriod) (observedAt : Time)

/-- What the adapter takes from libraries. -/
structure Ports where
  /-- the key of the account -/
  key : String
  /-- `model_validate` of the response models -/
  placeResponse : Json → Option PlaceResponse
  geocodeResponse : Json → Option GeocodeResponse
  regeoResponse : Json → Option RegeoResponse
  weatherResponse : Json → Option WeatherResponse
  /-- `float` of a text -/
  float : String → Option ℚ
  /-- a number with six decimals -/
  format6 : ℚ → String
  /-- `strptime` in a timezone -/
  reportedAt : String → String → Option Time
  /-- the day and night periods of a cast in a timezone, if its date is one -/
  periods : String → String × String × String × Number × Number → Option (List WeatherPeriod)

/-! ## Status -/

def authenticationCodes : List String :=
  ["10001", "10002", "10005", "10006", "10007", "10008", "10009", "10011", "10012", "10013", "10026", "10041",
    "40000", "40002", "40003"]

def rateLimitCodes : List String :=
  ["10003", "10004", "10010", "10014", "10015", "10019", "10020", "10021", "10029", "10044", "10045"]

def inputCodes : List String :=
  ["20000", "20001", "20002", "20011", "20012", "20800", "20801", "20802", "20803"]

/-- `_validate_status`. -/
def validateStatus (r : StatusResponse) : AmapM Unit :=
  match r.infocode with
  | none => check (r.status = "1") .response
  | some code =>
    if r.status = "1" ∧ (code = "" ∨ code = "10000") then pure ()
    else if code ∈ authenticationCodes then fail .authentication
    else if code ∈ rateLimitCodes then fail .rateLimited
    else if code ∈ inputCodes then fail .input
    else if code ∈ ["10016", "10017", "20003"] ∨ code.toList.head? = some '3' then fail .unavailable
    else fail .response

/-- A validated payload. -/
def validated {α : Type} : Option α → AmapM α
  | some r => pure r
  | none => fail .response

/-- `_validate_payload_status`. -/
def validatePayloadStatus (payload : Json) : AmapM Unit := do
  validateStatus (← validated (statusResponse payload))

/-! ## Values -/

def safeText : Scalar → Option String
  | .str s => some (pyStrip s) |>.filter (· ≠ "")
  | .list | .none => none

section
variable (c : Ports)

/-- `_coordinate`. -/
def coordinate (value : String) : AmapM Coordinate := do
  match value.splitOn "," with
  | [longitude, latitude] =>
    match c.float longitude, c.float latitude with
    | some longitude, some latitude =>
      if h : (-180 ≤ longitude ∧ longitude ≤ 180) ∧ -90 ≤ latitude ∧ latitude ≤ 90 then
        return ⟨longitude, latitude, .gcj02, h.1, h.2⟩
      else fail .response
    | _, _ => fail .response
  | _ => fail .response

/-- `_amap_parameter`. -/
def amapParameter (x : Coordinate) : AmapM String := do
  check (x.coordinateSystem = .gcj02) .input
  return c.format6 x.longitude ++ "," ++ c.format6 x.latitude

def checkCancelled : AmapM Unit := do
  let cancelled : Bool ← Co.act (E := effects) .isCancelled
  check (cancelled = false) .cancelled

/-- The lengths that a result model demands of texts. -/
def lengths (model : String) (texts : List (Option String × ℕ × ℕ)) : AmapM Unit :=
  if ∀ t ∈ texts, ∀ s ∈ t.1, t.2.1 ≤ s.length ∧ s.length ≤ t.2.2 then pure ()
  else Co.raise (E := effects) (.validationError model)

/-! ## Methods -/

def place (poi : Poi) : AmapM Place := do
  let coordinate ← coordinate c poi.location
  let place : Place :=
    ⟨poi.id, poi.name, coordinate, safeText poi.address, safeText poi.type, safeText poi.typecode,
      safeText poi.adcode⟩
  lengths "Place" [(place.providerPlaceId, 1, 128), (place.name, 1, 300), (place.address, 0, 500),
    (place.category, 0, 300), (place.categoryCode, 0, 40), (place.administrativeCode, 0, 20)]
  return place

/-- `search_places`. -/
def searchPlaces (request : PlaceSearchRequest) : AmapM Result := do
  checkCancelled
  let city := match request.city.filter (· ≠ "") with
    | some city => [("city", city), ("citylimit", "true")]
    | none => []
  let types := if request.categoryCodes.isEmpty then []
    else [("types", "|".intercalate request.categoryCodes)]
  let params := [("keywords", request.query), ("offset", toString request.limit), ("page", toString request.page),
    ("extensions", "base")] ++ city ++ types
  let payload ← match request.center with
    | none => get c.key "/v3/place/text" params
    | some center => do
      let location ← amapParameter c center
      get c.key "/v3/place/around" (params ++ [("location", location), ("radius", toString request.radiusMeters)])
  let envelope ← validated (c.placeResponse payload)
  validateStatus envelope.toStatusResponse
  return .places (← (envelope.pois.take request.limit).mapM (place c))

def candidate (item : Geocode) : AmapM GeocodeCandidate := do
  let coordinate ← coordinate c item.location
  let candidate : GeocodeCandidate :=
    ⟨item.formattedAddress, coordinate, safeText item.country, safeText item.province, safeText item.city,
      safeText item.district, safeText item.adcode⟩
  lengths "GeocodeCandidate" [(candidate.formattedAddress, 1, 500), (candidate.country, 0, 80),
    (candidate.province, 0, 80), (candidate.city, 0, 80), (candidate.district, 0, 80),
    (candidate.administrativeCode, 0, 20)]
  return candidate

/-- `geocode`. -/
def geocode (request : GeocodeRequest) : AmapM Result := do
  checkCancelled
  let city := match request.city.filter (· ≠ "") with
    | some city => [("city", city)]
    | none => []
  let payload ← get c.key "/v3/geocode/geo" ([("address", request.address)] ++ city)
  let envelope ← validated (c.geocodeResponse payload)
  validateStatus envelope.toStatusResponse
  return .candidates (← (envelope.geocodes.take 10).mapM (candidate c))

/-- `int(value)`. -/
def integer : Number → AmapM ℤ
  | .int z => pure z
  | .str s => validated (pyInt s)

/-- One cell of the matrix. -/
def cell (destinationIndex : ℕ) (item : Distance × ℕ) : AmapM RouteMatrixCell := do
  check (∀ info ∈ item.1.info, info = "" ∨ info = "OK") .response
  let originId ← integer item.1.originId
  let destinationId ← integer item.1.destId
  let distance ← integer item.1.distance
  let duration ← integer item.1.duration
  check (originId - 1 = item.2 ∧ destinationId = 1 ∧ 0 ≤ distance ∧ 0 ≤ duration) .response
  return ⟨item.2, destinationIndex, distance.toNat, duration.toNat⟩

/-- `route_matrix`: one request for each destination. -/
def routeMatrix (request : RouteMatrixRequest) : AmapM Result := do
  checkCancelled
  let routeType := match request.mode with
    | .driving => "1"
    | .walking => "3"
  let origins ← request.origins.mapM (amapParameter c)
  let cells ← request.destinations.zipIdx.foldlM (fun cells (destination, destinationIndex) => do
    checkCancelled
    let destination ← amapParameter c destination
    let payload ← get c.key "/v3/distance"
      [("origins", "|".intercalate origins), ("destination", destination), ("type", routeType)]
    validatePayloadStatus payload
    let envelope ← validated (distanceResponse payload)
    validateStatus envelope.toStatusResponse
    check (envelope.results.length = request.origins.length) .response
    return cells ++ (← envelope.results.zipIdx.mapM (cell destinationIndex))) []
  return .matrix cells

/-- What is shown of the opening hours of a place. -/
def openingEntry (request : OpeningHoursRequest) (poi : DetailPoi) : OpeningHoursEntry :=
  let today := poi.opentimeToday.filter (· ≠ "")
  let intervals := match today, request.localDate with
    | some today, none => Amap.intervals today
    | _, _ => []
  let closed := today.any fun today =>
    ["暂停营业", "停止营业", "休息", "关闭"].any fun marker => occursIn marker today
  let weekly := poi.opentimeWeek.filter (· ≠ "")
  let note := match weekly with
    | some weekly => some weekly
    | none => if request.localDate.isSome then some "Provider did not return a schedule for the requested date."
      else if intervals.isEmpty then some "Provider did not return opening-hour details." else poi.opentimeWeek
  ⟨poi.id, if closed ∧ request.localDate = none then .closed else .unknown, intervals, note⟩

/-- The entry of a place that was found. -/
def found (request : OpeningHoursRequest) (batch : List String) (entries : List (String × OpeningHoursEntry))
    (poi : DetailPoi) : AmapM (List (String × OpeningHoursEntry)) := do
  check (poi.id ∈ batch ∧ entries.lookup poi.id = none) .response
  let entry := openingEntry request poi
  check (entry.intervals.length ≤ 14) .response
  lengths "OpeningHoursEntry" [(poi.id, 1, 128), (entry.note, 0, 500)]
  return entries ++ [(poi.id, entry)]

/-- What is shown of a place of which nothing is known. -/
def missingEntry (placeId : String) : OpeningHoursEntry :=
  ⟨placeId, .unknown, [], "Provider did not return opening-hour details."⟩

/-- The entry of a place that was not; it is made whether it is needed or not. -/
def missing (entries : List (String × OpeningHoursEntry)) (placeId : String) :
    AmapM (List (String × OpeningHoursEntry)) := do
  lengths "OpeningHoursEntry" [(placeId, 1, 128), ((missingEntry placeId).note, 0, 500)]
  return match entries.lookup placeId with
    | some _ => entries
    | none => entries ++ [(placeId, missingEntry placeId)]

/-- `range(0, len(ids), 10)`. -/
def batchStarts (ids : List String) : List ℕ := (List.range ((ids.length + 9) / 10)).map (· * 10)

/-- `opening_hours`: one request for each ten places. -/
def openingHours (request : OpeningHoursRequest) : AmapM Result := do
  checkCancelled
  let entries ← (batchStarts request.providerPlaceIds).foldlM (fun entries start => do
    checkCancelled
    let batch := (request.providerPlaceIds.drop start).take 10
    let payload ← get c.key "/v5/place/detail" [("id", "|".intercalate batch), ("show_fields", "business")]
    validatePayloadStatus payload
    let envelope ← validated (placeDetailResponse payload)
    validateStatus envelope.toStatusResponse
    let entries ← envelope.pois.foldlM (found request batch) entries
    batch.foldlM missing entries) []
  return .hours (request.providerPlaceIds.filterMap fun placeId => entries.lookup placeId)

def hours (n : ℕ) : Time := n * 3_600_000_000

/-- `weather`: one request for the place, and one for the forecast. -/
def weather (request : WeatherRequest) : AmapM Result := do
  checkCancelled
  let location ← amapParameter c request.coordinate
  let regeoPayload ← get c.key "/v3/geocode/regeo" [("location", location), ("extensions", "base"), ("radius", "0")]
  validatePayloadStatus regeoPayload
  let regeo ← validated (c.regeoResponse regeoPayload)
  validateStatus regeo.toStatusResponse
  checkCancelled
  let weatherPayload ← get c.key "/v3/weather/weatherInfo" [("city", regeo.adcode), ("extensions", "all")]
  validatePayloadStatus weatherPayload
  let response ← validated (c.weatherResponse weatherPayload)
  validateStatus response.toStatusResponse
  match response.forecasts with
  | [forecast] =>
    check (forecast.adcode = regeo.adcode) .response
    let observedAt ← validated (c.reportedAt forecast.reporttime request.timezone)
    let now : Time ← Co.act (E := effects) .utcNow
    check (observedAt ≤ now + 600_000_000) .response
    check (forecast.casts.map (·.1) |>.Nodup) .response
    let now : Time ← Co.act (E := effects) .utcNow
    let casts ← forecast.casts.mapM fun cast => validated (c.periods request.timezone cast)
    let periods := casts.flatten.filter fun p => now < p.endsAt ∧ p.startsAt < now + hours request.forecastHours
    check (∀ p ∈ periods, 1 ≤ p.condition.length ∧ p.condition.length ≤ 100 ∧ -100 ≤ p.temperatureCelsius ∧
      p.temperatureCelsius ≤ 80) .response
    check (periods ≠ []) .response
    return .weather (periods.mergeSort fun a b => a.startsAt ≤ b.startsAt) observedAt
  | _ => fail .response

/-- The method of a request. -/
def serve : Request → AmapM Result
  | .placeSearch r => searchPlaces c r
  | .geocode r => geocode c r
  | .routeMatrix r => routeMatrix c r
  | .openingHours r => openingHours c r
  | .weather r => weather c r

end
end RoutePilot.Provider.Amap
