/-
  What the quota charges, and what the adapter requests.

  Every method is bounded by the rules of `Co.AtMost`: a check awaits nothing,
  `get` one request, and a loop one request in each round.  The cost of a
  capability is that bound, except for weather, which takes two requests.
-/
import Mathlib.Tactic.Common
import RoutePilot.Lib.Cost
import RoutePilot.Provider.Amap

namespace RoutePilot.Provider.Amap

open Lib Lib.Co

variable (c : Ports)

/-! ## Checks -/

theorem check_atMost {p : Prop} [Decidable p] {kind : ErrorKind} : (check p kind).AtMost 0 := by
  unfold check
  split <;> trivial

theorem validated_atMost {α : Type} (r : Option α) : (validated r).AtMost 0 := by
  cases r <;> trivial

theorem validateStatus_atMost (r : StatusResponse) : (validateStatus r).AtMost 0 := by
  unfold validateStatus
  split
  · exact check_atMost
  · split_ifs <;> trivial

theorem validatePayloadStatus_atMost (payload : Json) : (validatePayloadStatus payload).AtMost 0 :=
  (validated_atMost _).bind fun _ => validateStatus_atMost _

theorem checkCancelled_atMost : checkCancelled.AtMost 0 := by
  unfold checkCancelled
  refine .skip .act fun cancelled => ?_
  exact check_atMost

theorem amapParameter_atMost (x : Coordinate) : (amapParameter c x).AtMost 0 := by
  unfold amapParameter
  exact .skip check_atMost fun _ => .ret

theorem lengths_atMost (model : String) (texts : List (Option String × ℕ × ℕ)) : (lengths model texts).AtMost 0 := by
  unfold lengths
  split <;> trivial

theorem coordinate_atMost (value : String) : (coordinate c value).AtMost 0 := by
  unfold coordinate
  repeat' split
  all_goals trivial

theorem place_atMost (poi : Poi) : (place c poi).AtMost 0 := by
  unfold place
  exact .skip (coordinate_atMost c _) fun _ => .skip (lengths_atMost ..) fun _ => .ret

theorem candidate_atMost (item : Geocode) : (candidate c item).AtMost 0 := by
  unfold candidate
  exact .skip (coordinate_atMost c _) fun _ => .skip (lengths_atMost ..) fun _ => .ret

theorem integer_atMost (n : Number) : (integer n).AtMost 0 := by
  cases n with
  | str s => exact validated_atMost _
  | int z => trivial

theorem cell_atMost (i : ℕ) (item : Distance × ℕ) : (cell i item).AtMost 0 := by
  unfold cell
  refine .skip check_atMost fun _ => ?_
  refine .skip (integer_atMost _) fun _ => .skip (integer_atMost _) fun _ => ?_
  refine .skip (integer_atMost _) fun _ => .skip (integer_atMost _) fun _ => ?_
  exact .skip check_atMost fun _ => .ret

theorem found_atMost (request : OpeningHoursRequest) (batch : List String)
    (entries : List (String × OpeningHoursEntry)) (poi : DetailPoi) :
    (found request batch entries poi).AtMost 0 := by
  unfold found
  refine .skip check_atMost fun _ => .skip check_atMost fun _ => ?_
  exact .skip (lengths_atMost ..) fun _ => .ret

theorem missing_atMost (entries : List (String × OpeningHoursEntry)) (placeId : String) :
    (missing entries placeId).AtMost 0 := by
  unfold missing
  exact .skip (lengths_atMost ..) fun _ => .ret

/-! ## Requests -/

theorem checkResponse_atMost (response : HttpResponse) : (checkResponse response).AtMost 0 := by
  unfold checkResponse
  refine .skip check_atMost fun _ => .skip check_atMost fun _ => .skip check_atMost fun _ => ?_
  refine .skip check_atMost fun _ => .skip check_atMost fun _ => .skip check_atMost fun _ => ?_
  exact .skip check_atMost fun _ => check_atMost

theorem get_atMost (key path : String) (params : List (String × String)) : (get key path params).AtMost 1 := by
  unfold get
  refine AtMost.bind (n := 1) (m := 0) (AtMost.tryCatch (n := 1) (m := 0) ?_ fun e => ?_) fun response => ?_
  · refine AtMost.bind (n := 1) (m := 0) AtMost.call fun response => ?_
    exact .skip (checkResponse_atMost response) fun _ => .ret
  · cases e <;> trivial
  · split <;> trivial

theorem searchPlaces_atMost (request : PlaceSearchRequest) : (searchPlaces c request).AtMost 1 := by
  have hrest : ∀ payload, (do
      let envelope ← validated (c.placeResponse payload)
      validateStatus envelope.toStatusResponse
      return .places (← (envelope.pois.take request.limit).mapM (place c)) : AmapM Result).AtMost 0 := by
    intro payload
    refine .skip (validated_atMost _) fun envelope => .skip (validateStatus_atMost _) fun _ => ?_
    exact .skip ((AtMost.mapM (place_atMost c) _).mono (Nat.mul_zero _).le) fun _ => .ret
  unfold searchPlaces
  refine .skip checkCancelled_atMost fun _ => ?_
  dsimp only
  split
  · exact AtMost.bind (get_atMost ..) hrest
  · exact .skip (amapParameter_atMost c _) fun _ => AtMost.bind (get_atMost ..) hrest

theorem geocode_atMost (request : GeocodeRequest) : (geocode c request).AtMost 1 := by
  unfold geocode
  refine .skip checkCancelled_atMost fun _ => ?_
  refine AtMost.bind (n := 1) (m := 0) (get_atMost ..) fun payload => ?_
  refine .skip (validated_atMost _) fun envelope => .skip (validateStatus_atMost _) fun _ => ?_
  exact .skip ((AtMost.mapM (candidate_atMost c) _).mono (Nat.mul_zero _).le) fun _ => .ret

theorem routeMatrix_atMost (request : RouteMatrixRequest) :
    (routeMatrix c request).AtMost request.destinations.length := by
  unfold routeMatrix
  refine .skip checkCancelled_atMost fun _ => ?_
  refine .skip ((AtMost.mapM (amapParameter_atMost c) _).mono (Nat.mul_zero _).le) fun origins => ?_
  refine AtMost.bind (m := 0) ((AtMost.foldlM (c := 1) (fun cells destination => ?_)).mono ?_) fun _ => .ret
  · refine .skip checkCancelled_atMost fun _ => .skip (amapParameter_atMost c _) fun _ => ?_
    refine AtMost.bind (n := 1) (m := 0) (get_atMost ..) fun payload => ?_
    refine .skip (validatePayloadStatus_atMost _) fun _ => .skip (validated_atMost _) fun envelope => ?_
    refine .skip (validateStatus_atMost _) fun _ => .skip check_atMost fun _ => ?_
    exact .skip ((AtMost.mapM (cell_atMost _) _).mono (Nat.mul_zero _).le) fun _ => .ret
  · rw [Nat.mul_one, List.length_zipIdx]

theorem openingHours_atMost (request : OpeningHoursRequest) :
    (openingHours c request).AtMost ((request.providerPlaceIds.length + 9) / 10) := by
  unfold openingHours
  refine .skip checkCancelled_atMost fun _ => ?_
  refine AtMost.bind (m := 0) ((AtMost.foldlM (c := 1) (fun entries start => ?_)).mono ?_) fun _ => .ret
  · refine .skip checkCancelled_atMost fun _ => ?_
    refine AtMost.bind (n := 1) (m := 0) (get_atMost ..) fun payload => ?_
    refine .skip (validatePayloadStatus_atMost _) fun _ => .skip (validated_atMost _) fun envelope => ?_
    refine .skip (validateStatus_atMost _) fun _ => ?_
    refine .skip ((AtMost.foldlM (found_atMost _ _)).mono (Nat.mul_zero _).le) fun _ => ?_
    exact (AtMost.foldlM missing_atMost).mono (Nat.mul_zero _).le
  · rw [Nat.mul_one, batchStarts, List.length_map, List.length_range]
    exact le_rfl

/-! ## Weather -/

/-- A forecast for another datum is refused before any request. -/
theorem weather_refused {request : WeatherRequest} (h : request.coordinate.coordinateSystem ≠ .gcj02) :
    (weather c request).AtMost 0 := by
  have hparameter : amapParameter c request.coordinate = fail .input := by
    unfold amapParameter check
    rw [if_neg h]
    rfl
  unfold weather
  refine .skip checkCancelled_atMost fun _ => ?_
  rw [hparameter]
  trivial

/-- A response that the adapter accepts as the place of a coordinate. -/
structure Ports.Locates (payload : Json) (adcode : String) : Prop where
  status : statusResponse payload = some ⟨"1", some "10000"⟩
  regeo : c.regeoResponse payload = some ⟨⟨"1", some "10000"⟩, adcode⟩

theorem get_issues (key path : String) (params : List (String × String)) {α : Type} (f : Json → AmapM α) :
    (get key path params >>= f).Calls [⟨path, params ++ [("key", key), ("output", "JSON")]⟩] := .issue ..

theorem check_pos {p : Prop} [Decidable p] (h : p) (kind : ErrorKind) : check p kind = pure () := if_pos h

/-- A response that passes its checks. -/
theorem checkResponse_default (body : Body) : checkResponse { body } = pure () := by
  have hjson : occursIn "json" "application/json" = true := by decide
  unfold checkResponse
  dsimp only
  rw [check_pos rfl, check_pos (by decide), check_pos (by decide), check_pos (by decide), check_pos rfl,
    check_pos hjson, check_pos (by simp), check_pos (by simp)]
  rfl

/-- `get` goes on with the payload of a response that passes its checks. -/
theorem get_calls (key path : String) (params : List (String × String)) {α : Type} {f : Json → AmapM α}
    {ops : List Get} (payload : Json) (h : (f payload).Calls ops) :
    (get key path params >>= f).Calls (⟨path, params ++ [("key", key), ("output", "JSON")]⟩ :: ops) := by
  refine Calls.await (.ok { body := .json payload }) ?_
  simp only [Co.ofExcept, Co.handle]
  rw [checkResponse_default]
  exact h

def regeoRequest (x : Coordinate) : Get :=
  ⟨"/v3/geocode/regeo", [("location", c.format6 x.longitude ++ "," ++ c.format6 x.latitude), ("extensions", "base"),
    ("radius", "0"), ("key", c.key), ("output", "JSON")]⟩

def forecastRequest (adcode : String) : Get :=
  ⟨"/v3/weather/weatherInfo", [("city", adcode), ("extensions", "all"), ("key", c.key), ("output", "JSON")]⟩

/-- Once the place is known, the forecast is requested. -/
theorem weather_calls {payload : Json} {adcode : String} (hpayload : c.Locates payload adcode)
    {request : WeatherRequest} (h : request.coordinate.coordinateSystem = .gcj02) :
    (weather c request).Calls [regeoRequest c request.coordinate, forecastRequest c adcode] := by
  have hparameter : amapParameter c request.coordinate =
      pure (c.format6 request.coordinate.longitude ++ "," ++ c.format6 request.coordinate.latitude) := by
    unfold amapParameter
    rw [check_pos h]
    rfl
  have hforecast : ∀ k : RegeoResponse → AmapM Result, (do
      validatePayloadStatus payload
      let regeo ← validated (c.regeoResponse payload)
      validateStatus regeo.toStatusResponse
      k regeo) = k ⟨⟨"1", some "10000"⟩, adcode⟩ := by
    intro k
    unfold validatePayloadStatus
    rw [hpayload.status, hpayload.regeo]
    rfl
  unfold weather checkCancelled
  rw [hparameter]
  refine Calls.bind_now (E := effects) false (get_calls _ _ _ payload ?_)
  rw [hforecast]
  exact Calls.bind_now (E := effects) false (get_issues ..)

/-! ## The charge -/

/-- The number of requests that serving `request` takes is within its cost. -/
def Charged (request : Request) : Prop :=
  ∀ ops, (serve c request).Calls ops → ops.length ≤ rateCost request.capability request

/-- A request for a forecast of a place that the adapter can look up. -/
def NeedsForecast : Request → Prop
  | .weather r => r.coordinate.coordinateSystem = .gcj02
  | _ => False

/-- Every request is charged for, except those for forecasts. -/
theorem quota_covers_requests (hlocates : ∃ payload adcode, c.Locates payload adcode) (request : Request) :
    Charged c request ↔ ¬ NeedsForecast request := by
  cases request with
  | placeSearch r => exact iff_of_true (fun ops h => (searchPlaces_atMost c r).calls h) id
  | geocode r => exact iff_of_true (fun ops h => (geocode_atMost c r).calls h) id
  | routeMatrix r => exact iff_of_true (fun ops h => (routeMatrix_atMost c r).calls h) id
  | openingHours r => exact iff_of_true (fun ops h => (openingHours_atMost c r).calls h) id
  | weather r =>
    constructor
    · intro h hforecast
      obtain ⟨payload, adcode, hpayload⟩ := hlocates
      have htwo : 2 ≤ 1 := h _ (weather_calls c hpayload hforecast)
      omega
    · intro h ops hops
      exact ((weather_refused c h).mono (Nat.zero_le 1)).calls hops

/-! ## A forecast for Beijing -/

/-- The place in a response. -/
def regeoOf (payload : Json) : Option RegeoResponse := do
  let status ← statusResponse payload
  match payload with
  | .obj fields =>
    match fields.lookup "regeocode" with
    | some (.obj [("addressComponent", .obj [("adcode", .str adcode)])]) => some ⟨status, adcode⟩
    | _ => none
  | _ => none

/-- An adapter of which only the look-up of places is given. -/
def lookup : Ports where
  key := "key"
  placeResponse _ := none
  geocodeResponse _ := none
  regeoResponse := regeoOf
  weatherResponse _ := none
  float _ := none
  format6 q := toString q.floor ++ "." ++ ((toString (1_000_000 + ((q - q.floor) * 1_000_000).floor)).drop 1)
  reportedAt _ _ := none
  periods _ _ := none

def beijing : Coordinate where
  longitude := 116
  latitude := 40
  coordinateSystem := .gcj02
  longitude_le := by decide +kernel
  latitude_le := by decide +kernel

def forecastForBeijing : WeatherRequest where
  coordinate := beijing
  timezone := "Asia/Shanghai"
  timezone_length := by decide
  hours_le := by decide

theorem lookup_locates : lookup.Locates (.obj [("status", .str "1"), ("infocode", .str "10000"),
    ("regeocode", .obj [("addressComponent", .obj [("adcode", .str "110101")])])]) "110101" :=
  ⟨rfl, rfl⟩

theorem forecast_undercharged : ¬ ∀ (c : Ports) (request : Request), Charged c request := by
  intro h
  have htwo : 2 ≤ 1 := h lookup (.weather forecastForBeijing) _ (weather_calls lookup lookup_locates rfl)
  omega

theorem quota_covers_requests_beijing :
    Charged lookup (.weather forecastForBeijing) ↔ ¬ NeedsForecast (.weather forecastForBeijing) :=
  quota_covers_requests lookup ⟨_, _, lookup_locates⟩ _

end RoutePilot.Provider.Amap
