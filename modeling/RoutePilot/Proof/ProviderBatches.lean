/-
  What the adapter assembles from several responses (`route_matrix` and `opening_hours` in
  `providers/amap.py`).

  Every method runs against any upstream (`Upstream`): responses, and errors of the HTTP
  client.  A matrix has one cell for each pair, with what the response to the request for
  its destination reports of it, unless a body cannot be read; opening hours have one entry
  for each place, in order, with what its batch reports of it.
-/
import Mathlib.Data.List.Nodup
import RoutePilot.Lib.CoRuns
import RoutePilot.Proof.ProviderCost

namespace RoutePilot.Provider.Amap

open Lib Lib.Co

/-! ## Upstream -/

/-- What an upstream answers. -/
def Upstream : Answers effects := fun _ r => ∀ e, r = .error e → e = Err.httpTimeout ∨ e = Err.httpError

/-- A request that was answered. -/
def answered (get : Get) (r : Except Err HttpResponse) : Exchange effects := ⟨get, r⟩

/-- A response whose body is decoded. -/
structure Accepted (response : HttpResponse) : Prop where
  direct : response.isRedirect = false
  status : response.statusCode = 200
  contentType : occursIn "json" response.contentType
  contentLength : ∀ header ∈ response.contentLength, ∃ n ∈ header, n ≤ maxResponseBytes
  size : response.chunks.sum ≤ maxResponseBytes

/-- An answer that does not make `json.loads` raise an exception that is not caught. -/
def ReadableAnswer (answer : Exchange effects) : Prop :=
  ∀ response : HttpResponse, answer.2 = .ok response → Accepted response → response.body ≠ .unreadable

/-- A history of such answers. -/
def Readable (t : Trace effects) : Prop := ∀ answer ∈ t, ReadableAnswer answer

theorem Readable.concat {t : Trace effects} {answer : Exchange effects} (h : Readable t)
    (hanswer : ReadableAnswer answer) : Readable (t ++ [answer]) := by
  intro a ha
  rcases List.mem_append.1 ha with ha | ha
  · exact h a ha
  · rw [List.mem_singleton.1 ha]
    exact hanswer

/-! ## Checks -/

theorem check_bind {α : Type} (p : Prop) [Decidable p] (kind : ErrorKind) (f : Unit → AmapM α) :
    (check p kind >>= f) = if p then f () else fail kind := by
  unfold check
  split <;> rfl

/-- The checks of a response. -/
theorem checkResponse_cases (response : HttpResponse) : Accepted response ∧ checkResponse response = pure () ∨
    ¬ Accepted response ∧ ∃ kind, checkResponse response = fail kind := by
  unfold checkResponse
  simp only [check_bind]
  split_ifs with hdirect hlimited hauthentication havailable hstatus htype hlength
  · by_cases hsize : response.chunks.sum ≤ maxResponseBytes
    · exact .inl ⟨⟨hdirect, hstatus, htype, hlength, hsize⟩, if_pos hsize⟩
    · exact .inr ⟨fun h => hsize h.size, _, if_neg hsize⟩
  · exact .inr ⟨fun h => hlength h.contentLength, _, rfl⟩
  · exact .inr ⟨fun h => htype h.contentType, _, rfl⟩
  · exact .inr ⟨fun h => hstatus h.status, _, rfl⟩
  · exact .inr ⟨fun h => havailable (by rw [h.status]; decide), _, rfl⟩
  · exact .inr ⟨fun h => hauthentication (by rw [h.status]; decide), _, rfl⟩
  · exact .inr ⟨fun h => hlimited (by rw [h.status]; decide), _, rfl⟩
  · exact .inr ⟨fun h => hdirect h.direct, _, rfl⟩

section
variable {F : Trace effects → Err → Prop} {t : Trace effects}

/-- Where errors of the taxonomy may be raised. -/
def MayFail (F : Trace effects → Err → Prop) (t : Trace effects) : Prop := ∀ e, F t (.provider e)

variable (hfail : MayFail F t)
include hfail

theorem fail_triple {α : Type} {R : Trace effects → α → Prop} (kind : ErrorKind) :
    Triple Upstream (fail kind : AmapM α) t R F := .raise (hfail _)

theorem check_triple (p : Prop) [Decidable p] (kind : ErrorKind) :
    Triple Upstream (check p kind) t (fun t' _ => t' = t ∧ p) F := by
  unfold check
  split
  · rename_i h
    exact .ret ⟨rfl, h⟩
  · exact fail_triple hfail kind

theorem validated_triple {α : Type} (r : Option α) :
    Triple Upstream (validated r) t (fun t' a => t' = t ∧ r = some a) F := by
  cases r with
  | none => exact fail_triple hfail _
  | some a => exact .ret ⟨rfl, rfl⟩

theorem validateStatus_triple (r : StatusResponse) :
    Triple Upstream (validateStatus r) t (fun t' _ => t' = t ∧ True) F := by
  have hcheck : ∀ (p : Prop) [Decidable p] (kind : ErrorKind),
      Triple Upstream (check p kind) t (fun t' _ => t' = t ∧ True) F := fun p _ kind =>
    (check_triple hfail p kind).mono fun _ _ h => ⟨h.1, trivial⟩
  unfold validateStatus
  split
  · exact hcheck _ _
  · split_ifs
    · exact .ret ⟨rfl, trivial⟩
    · exact fail_triple hfail _
    · exact fail_triple hfail _
    · exact fail_triple hfail _
    · exact fail_triple hfail _
    · exact fail_triple hfail _

theorem validatePayloadStatus_triple (payload : Json) :
    Triple Upstream (validatePayloadStatus payload) t (fun t' _ => t' = t ∧ True) F :=
  .skip (validated_triple hfail _) fun r _ => validateStatus_triple hfail r

theorem checkCancelled_triple : Triple Upstream checkCancelled t (fun t' _ => t' = t ∧ True) F := by
  refine .skip .act fun cancelled _ => ?_
  exact (check_triple hfail _ _).mono fun _ _ h => ⟨h.1, trivial⟩

end

/-- The text of a coordinate. -/
def parameter (c : Ports) (x : Coordinate) : String := c.format6 x.longitude ++ "," ++ c.format6 x.latitude

theorem amapParameter_triple {F : Trace effects → Err → Prop} {t : Trace effects} (hfail : MayFail F t) (c : Ports)
    (x : Coordinate) : Triple Upstream (amapParameter c x) t (fun t' s => t' = t ∧ s = parameter c x) F :=
  .skip (check_triple hfail _ _) fun _ _ => .ret ⟨rfl, rfl⟩

/-- The request of `get`. -/
def request (c : Ports) (path : String) (params : List (String × String)) : Get :=
  ⟨path, params ++ [("key", c.key), ("output", "JSON")]⟩

/-- What `get` raises before a body is decoded. -/
def Refused (t : Trace effects) (get : Get) (t' : Trace effects) (e : Err) : Prop :=
  ∃ r, t' = t ++ [answered get r] ∧ ReadableAnswer (answered get r) ∧
    (e = .httpTimeout ∨ e = .httpError ∨ ∃ p, e = .provider p)

/-- The answer of `get`, while its body has not been decoded. -/
theorem accepted_triple {t : Trace effects} (get : Get) :
    Triple Upstream (do
      let response ← Co.call (E := effects) get
      checkResponse response
      return response : AmapM HttpResponse) t
      (fun t' response => t' = t ++ [answered get (.ok response)] ∧ Accepted response) (Refused t get) := by
  refine Triple.bind (R := fun t' response => t' = t ++ [answered get (.ok response)]) (.call fun r hr => ?_) ?_
  · cases r with
    | ok response => exact rfl
    | error e => exact ⟨.error e, rfl, (fun _ h => nomatch h), (hr e rfl).imp_right Or.inl⟩
  · rintro _ response rfl
    rcases checkResponse_cases response with ⟨haccepted, heq⟩ | ⟨hrefused, kind, heq⟩
    · rw [heq]
      exact .ret ⟨rfl, haccepted⟩
    · rw [heq]
      refine .raise ⟨.ok response, rfl, fun response' h haccepted => ?_, .inr (.inr ⟨_, rfl⟩)⟩
      cases h
      exact absurd haccepted hrefused

/-- **A request**: its payload is the body of an answer; what is raised is of the taxonomy, unless the body cannot be
    read. -/
theorem get_triple {F : Trace effects → Err → Prop} {t : Trace effects} (c : Ports) (path : String)
    (params : List (String × String))
    (hfail : ∀ answer, ReadableAnswer answer → MayFail F (t ++ [answer]))
    (hunreadable : ∀ answer, ¬ ReadableAnswer answer → F (t ++ [answer]) .jsonError) :
    Triple Upstream (get c.key path params) t (fun t' payload => ∃ response : HttpResponse,
      t' = t ++ [answered (request c path params) (.ok response)] ∧ response.body = .json payload ∧
        ReadableAnswer (answered (request c path params) (.ok response))) F := by
  refine Triple.bind (R := fun t' response => t' = t ++ [answered (request c path params) (.ok response)] ∧
    Accepted response) (.tryCatch (accepted_triple (request c path params)) ?_) ?_
  · rintro _ e ⟨r, rfl, hreadable, rfl | rfl | ⟨p, rfl⟩⟩
    · exact fail_triple (hfail _ hreadable) _
    · exact fail_triple (hfail _ hreadable) _
    · exact .raise (hfail _ hreadable p)
  · rintro _ response ⟨rfl, haccepted⟩
    have hreadable : response.body ≠ .unreadable →
        ReadableAnswer (answered (request c path params) (.ok response)) := by
      rintro hbody response' h -
      cases h
      exact hbody
    cases hbody : response.body with
    | json payload => exact .ret ⟨response, rfl, hbody, hreadable (by rw [hbody]; exact Body.noConfusion)⟩
    | malformed => exact fail_triple (hfail _ (hreadable (by rw [hbody]; exact Body.noConfusion))) _
    | unreadable => exact .raise (hunreadable _ fun h => h response rfl haccepted hbody)

/-! ## Matrices -/

/-- `int(value)` is an integer. -/
def Reads (value : Number) (z : ℤ) : Prop :=
  match value with
  | .int n => n = z
  | .str s => pyInt s = some z

theorem integer_triple {F : Trace effects → Err → Prop} {t : Trace effects} (hfail : MayFail F t)
    (value : Number) : Triple Upstream (integer value) t (fun t' z => t' = t ∧ Reads value z) F := by
  cases value with
  | int z => exact .ret ⟨rfl, rfl⟩
  | str s => exact validated_triple hfail _

/-- A cell is what an item of a response reports. -/
structure Reports (item : Distance) (cell : RouteMatrixCell) : Prop where
  origin : Reads item.originId (cell.originIndex + 1)
  destination : Reads item.destId 1
  distance : Reads item.distance cell.distanceMeters
  duration : Reads item.duration cell.durationSeconds

theorem cell_triple {F : Trace effects → Err → Prop} {t : Trace effects} (hfail : MayFail F t)
    (destinationIndex : ℕ) (item : Distance × ℕ) :
    Triple Upstream (cell destinationIndex item) t (fun t' cell => t' = t ∧
      cell.originIndex = item.2 ∧ cell.destinationIndex = destinationIndex ∧ Reports item.1 cell) F := by
  refine .skip (check_triple hfail _ _) fun _ _ => ?_
  refine .skip (integer_triple hfail _) fun originId horigin => ?_
  refine .skip (integer_triple hfail _) fun destinationId hdestination => ?_
  refine .skip (integer_triple hfail _) fun distance hdistance => ?_
  refine .skip (integer_triple hfail _) fun duration hduration => ?_
  refine .skip (check_triple hfail _ _) fun _ hok => ?_
  obtain ⟨horiginId, rfl, hdistancePos, hdurationPos⟩ := hok
  refine .ret ⟨rfl, rfl, rfl, ?_, hdestination, ?_, ?_⟩
  · rw [show ((item.2 : ℤ) + 1) = originId by omega]
    exact horigin
  · dsimp only
    rw [Int.toNat_of_nonneg hdistancePos]
    exact hdistance
  · dsimp only
    rw [Int.toNat_of_nonneg hdurationPos]
    exact hduration

/-- The request for a destination. -/
def distanceRequest (c : Ports) (r : RouteMatrixRequest) (destination : Coordinate) : Get :=
  request c "/v3/distance" [("origins", "|".intercalate (r.origins.map (parameter c))),
    ("destination", parameter c destination), ("type", match r.mode with | .driving => "1" | .walking => "3")]

/-- The response to the request for the destination of a cell reports it of its origin. -/
def FromUpstream (c : Ports) (r : RouteMatrixRequest) (t : Trace effects) (cell : RouteMatrixCell) : Prop :=
  ∃ destination response payload envelope item,
    r.destinations[cell.destinationIndex]? = some destination ∧
    t[cell.destinationIndex]? = some (answered (distanceRequest c r destination) (.ok response)) ∧
    response.body = .json payload ∧ distanceResponse payload = some envelope ∧
    envelope.results[cell.originIndex]? = some item ∧ Reports item cell

theorem FromUpstream.append {c : Ports} {r : RouteMatrixRequest} {t : Trace effects} {cell : RouteMatrixCell}
    (h : FromUpstream c r t cell) (t' : Trace effects) : FromUpstream c r (t ++ t') cell := by
  obtain ⟨destination, response, payload, envelope, item, hdestination, hanswer, hrest⟩ := h
  refine ⟨destination, response, payload, envelope, item, hdestination, ?_, hrest⟩
  exact List.getElem?_append_left (List.getElem?_eq_some_iff.1 hanswer).1 ▸ hanswer

/-- The pairs of some cells. -/
def pairs (cells : List RouteMatrixCell) : List (ℕ × ℕ) :=
  cells.map fun cell => (cell.originIndex, cell.destinationIndex)

/-- All pairs of origins and of the first destinations. -/
def allPairs (origins destinations : ℕ) : List (ℕ × ℕ) :=
  (List.range destinations).flatMap fun j => (List.range origins).map fun i => (i, j)

theorem mem_allPairs {n m i j : ℕ} : (i, j) ∈ allPairs n m ↔ i < n ∧ j < m := by
  unfold allPairs
  simp only [List.mem_flatMap, List.mem_map, List.mem_range, Prod.mk.injEq]
  constructor
  · rintro ⟨j', hj, i', hi, rfl, rfl⟩
    exact ⟨hi, hj⟩
  · rintro ⟨hi, hj⟩
    exact ⟨j, hj, i, hi, rfl, rfl⟩

theorem allPairs_nodup (n m : ℕ) : (allPairs n m).Nodup := by
  unfold allPairs
  rw [List.nodup_flatMap]
  refine ⟨fun j _ => (List.nodup_range).map fun i i' h => (Prod.ext_iff.1 h).1, ?_⟩
  refine List.nodup_range.imp fun {j j'} hne p hp hp' => ?_
  obtain ⟨i, -, rfl⟩ := List.mem_map.1 hp
  obtain ⟨i', -, h⟩ := List.mem_map.1 hp'
  exact hne (Prod.ext_iff.1 h).2.symm

theorem allPairs_succ (n m : ℕ) : allPairs n (m + 1) = allPairs n m ++ (List.range n).map fun i => (i, m) := by
  unfold allPairs
  rw [List.range_succ, List.flatMap_append, List.flatMap_singleton]

/-- The cells of one response. -/
theorem pairs_of_forall₂ {results : List Distance} {j : ℕ} {cells : List RouteMatrixCell}
    (h : List.Forall₂ (fun item cell => cell.originIndex = item.2 ∧ cell.destinationIndex = j ∧ Reports item.1 cell)
      results.zipIdx cells) : pairs cells = (List.range results.length).map fun i => (i, j) := by
  have hpairs : pairs cells = results.zipIdx.map fun item => (item.2, j) := by
    generalize results.zipIdx = items at h
    induction h with
    | nil => rfl
    | cons hcell _ ih =>
      unfold pairs at ih ⊢
      rw [List.map_cons, List.map_cons, ih, hcell.1, hcell.2.1]
  rw [hpairs, List.range_eq_range', ← List.zipIdx_map_snd 0 results, List.map_map]
  rfl

/-- What may be raised: an error of the taxonomy, or what a body that cannot be read makes `json.loads` raise. -/
def Fault (t : Trace effects) (e : Err) : Prop :=
  Readable t ∧ (∃ p, e = .provider p) ∨ ¬ Readable t ∧ e = .jsonError

theorem Readable.mayFail {t : Trace effects} (h : Readable t) : MayFail Fault t := fun p => .inl ⟨h, p, rfl⟩

/-- A request whose answers may make the method fail. -/
theorem get_fault {t : Trace effects} (h : Readable t) (c : Ports) (path : String) (params : List (String × String)) :
    Triple Upstream (get c.key path params) t (fun t' payload => ∃ response : HttpResponse,
      t' = t ++ [answered (request c path params) (.ok response)] ∧ response.body = .json payload ∧
        Readable t') Fault := by
  refine (get_triple c path params (fun answer hanswer => (h.concat hanswer).mayFail) fun answer hanswer => ?_).mono ?_
  · exact .inr ⟨fun hreadable => hanswer (hreadable answer (List.mem_append_right _ (List.mem_singleton_self _))), rfl⟩
  · rintro _ payload ⟨response, rfl, hbody, hreadable⟩
    exact ⟨response, rfl, hbody, h.concat hreadable⟩

/-- The cells of the first destinations. -/
structure Measured (c : Ports) (r : RouteMatrixRequest) (done : ℕ) (t : Trace effects) (cells : List RouteMatrixCell) :
    Prop where
  readable : Readable t
  length : t.length = done
  pairs : pairs cells = allPairs r.origins.length done
  reported : ∀ cell ∈ cells, FromUpstream c r t cell

/-- One more destination. -/
theorem Measured.round {c : Ports} {r : RouteMatrixRequest} {done : ℕ} {t : Trace effects}
    {cells : List RouteMatrixCell} (h : Measured c r done t cells) {destination : Coordinate}
    (hdestination : r.destinations[done]? = some destination) {response : HttpResponse} {payload : Json}
    {envelope : DistanceResponse} {new : List RouteMatrixCell}
    (hreadable : Readable (t ++ [answered (distanceRequest c r destination) (.ok response)]))
    (hbody : response.body = .json payload) (henvelope : distanceResponse payload = some envelope)
    (hlength : envelope.results.length = r.origins.length)
    (hnew : List.Forall₂ (fun item cell => cell.originIndex = item.2 ∧ cell.destinationIndex = done ∧
      Reports item.1 cell) envelope.results.zipIdx new) :
    Measured c r (done + 1) (t ++ [answered (distanceRequest c r destination) (.ok response)]) (cells ++ new) := by
  constructor
  · exact hreadable
  · rw [List.length_append, h.length]
    rfl
  · rw [allPairs_succ, ← hlength, ← pairs_of_forall₂ hnew, hlength, ← h.pairs]
    exact List.map_append
  · intro cell hcell
    rcases List.mem_append.1 hcell with hcell | hcell
    · exact (h.reported cell hcell).append _
    · obtain ⟨item, hitem, horigin, hdone, hreports⟩ := Triple.exists_mem_of_forall₂ hnew hcell
      have hget := List.mk_mem_zipIdx_iff_getElem?.1 hitem
      refine ⟨destination, response, payload, envelope, item.1, ?_, ?_, hbody, henvelope, ?_, hreports⟩
      · rw [hdone]
        exact hdestination
      · rw [hdone, ← h.length]
        exact List.getElem?_concat_length
      · rw [horigin]
        exact hget

theorem Measured.zero (c : Ports) (r : RouteMatrixRequest) {t : Trace effects} (h : Readable t) (hnil : t = []) :
    Measured c r 0 t [] := by
  subst hnil
  exact ⟨h, rfl, rfl, fun _ hcell => nomatch hcell⟩

theorem routeMatrix_triple (c : Ports) (r : RouteMatrixRequest) :
    Triple Upstream (routeMatrix c r) [] (fun t result => ∃ cells, result = .matrix cells ∧
      Measured c r r.destinations.length t cells) Fault := by
  have hreadable : Readable ([] : Trace effects) := fun _ h => nomatch h
  have hfail := hreadable.mayFail
  unfold routeMatrix
  refine .skip (checkCancelled_triple hfail) fun _ _ => ?_
  refine .skip (.mapM fun x _ => amapParameter_triple hfail c x) fun origins horigins => ?_
  have hparameters : origins = r.origins.map (parameter c) := by
    rw [← List.forall₂_eq_eq_eq, List.forall₂_map_right_iff]
    exact horigins.flip.imp fun _ _ h => h
  subst hparameters
  refine .bind (.foldlM (I := fun done t cells => Measured c r done.length t cells) ?_ (List.nil_append _).symm
    (Measured.zero c r hreadable rfl)) fun t cells hcells => ?_
  · rintro done ⟨destination, j⟩ rest t cells hsplit hcells
    -- the item is the one whose turn it is
    have hitem : r.destinations.zipIdx[done.length]? = some (destination, j) := by
      rw [hsplit]
      exact List.getElem?_append_right (Nat.le_refl _) ▸ by simp
    have hj : r.destinations[done.length]? = some destination ∧ j = done.length := by
      rw [List.getElem?_zipIdx, Nat.zero_add, Option.map_eq_some_iff] at hitem
      obtain ⟨x, hx, heq⟩ := hitem
      cases heq
      exact ⟨hx, rfl⟩
    obtain ⟨hdestination, rfl⟩ := hj
    rw [List.length_append, List.length_singleton]
    have hfail := hcells.readable.mayFail
    dsimp only
    refine .skip (checkCancelled_triple hfail) fun _ _ => ?_
    refine .skip (amapParameter_triple hfail c destination) ?_
    rintro _ rfl
    refine .bind (get_fault hcells.readable c _ _) ?_
    rintro _ payload ⟨response, rfl, hbody, hreadable⟩
    have hfail := hreadable.mayFail
    refine .skip (validatePayloadStatus_triple hfail payload) fun _ _ => ?_
    refine .skip (validated_triple hfail _) fun envelope henvelope => ?_
    refine .skip (validateStatus_triple hfail _) fun _ _ => ?_
    refine .skip (check_triple hfail _ _) fun _ hlength => ?_
    refine .skip (.mapM fun item _ => cell_triple hfail done.length item) fun new hnew => ?_
    exact .ret (hcells.round hdestination hreadable hbody henvelope hlength hnew)
  · rw [List.length_zipIdx] at hcells
    exact .ret ⟨cells, rfl, hcells⟩

/-! ## Opening hours -/

/-- Anything may be raised. -/
def Anything (_ : Trace effects) (_ : Err) : Prop := True

theorem mayFail_anything (t : Trace effects) : MayFail Anything t := fun _ => trivial

theorem lengths_triple {t : Trace effects} (model : String) (texts : List (Option String × ℕ × ℕ)) :
    Triple Upstream (lengths model texts) t (fun t' _ => t' = t ∧ True) Anything := by
  unfold lengths
  split
  · exact .ret ⟨rfl, trivial⟩
  · exact .raise trivial

/-- The ids of a batch. -/
def batch (r : OpeningHoursRequest) (n : ℕ) : List String := (r.providerPlaceIds.drop (n * 10)).take 10

/-- The request for a batch. -/
def detailRequest (c : Ports) (r : OpeningHoursRequest) (n : ℕ) : Get :=
  request c "/v5/place/detail" [("id", "|".intercalate (batch r n)), ("show_fields", "business")]

/-- What is known of a place after some places of a response. -/
def knownEntry (r : OpeningHoursRequest) (pois : List DetailPoi) (placeId : String) : Option OpeningHoursEntry :=
  (pois.find? fun poi => poi.id = placeId).map (openingEntry r)

/-- An entry is what the answer to the request for a batch says of a place: the data of the place, if it is one of the
    response, or that nothing is known of it. -/
def Tells (c : Ports) (r : OpeningHoursRequest) (n : ℕ) (answer : Exchange effects) (placeId : String)
    (entry : OpeningHoursEntry) : Prop :=
  ∃ response payload envelope, answer = answered (detailRequest c r n) (.ok response) ∧ response.body = .json payload ∧
    placeDetailResponse payload = some envelope ∧
    entry = (knownEntry r envelope.pois placeId).getD (missingEntry placeId)

theorem Tells.id {c : Ports} {r : OpeningHoursRequest} {n : ℕ} {answer : Exchange effects} {placeId : String}
    {entry : OpeningHoursEntry} (h : Tells c r n answer placeId entry) : entry.providerPlaceId = placeId := by
  obtain ⟨_, _, envelope, -, -, -, rfl⟩ := h
  unfold knownEntry
  cases hfind : envelope.pois.find? fun poi => poi.id = placeId with
  | none => rfl
  | some poi =>
    have hid := List.find?_some hfind
    exact of_decide_eq_true hid

theorem lookup_concat {α β : Type} [BEq α] [LawfulBEq α] [DecidableEq α] (es : List (α × β)) (k k' : α) (v : β) :
    (es ++ [(k, v)]).lookup k' = (es.lookup k').or (if k = k' then some v else none) := by
  rw [List.lookup_append, List.lookup_cons, List.lookup_nil]
  by_cases h : k = k'
  · rw [if_pos h, h, beq_self_eq_true]
  · rw [if_neg h, beq_false_of_ne fun h' => h h'.symm]

/-- The places of a response. -/
theorem found_triple (r : OpeningHoursRequest) (batch : List String) {t : Trace effects}
    (entries : List (String × OpeningHoursEntry)) (pois : List DetailPoi) :
    Triple Upstream (pois.foldlM (found r batch) entries) t (fun t' entries' => t' = t ∧
      (∀ poi ∈ pois, poi.id ∈ batch) ∧
      ∀ placeId, entries'.lookup placeId = (entries.lookup placeId).or (knownEntry r pois placeId)) Anything := by
  refine .foldlM (I := fun done t' (entries' : List (String × OpeningHoursEntry)) => t' = t ∧
    (∀ poi ∈ done, poi.id ∈ batch) ∧
    ∀ placeId, entries'.lookup placeId = (entries.lookup placeId).or (knownEntry r done placeId)) ?_
    (List.nil_append _).symm ⟨rfl, fun _ h => (nomatch h), fun placeId => (Option.or_none).symm⟩
  rintro done poi rest _ entries' - ⟨rfl, hbatch, hlookup⟩
  refine .skip (check_triple (mayFail_anything _) _ _) fun _ hnew => ?_
  obtain ⟨hpoi, hfresh⟩ := hnew
  refine .skip (check_triple (mayFail_anything _) _ _) fun _ _ => ?_
  refine .skip (lengths_triple _ _) fun _ _ => ?_
  refine .ret ⟨rfl, fun poi' hpoi' => ?_, fun placeId => ?_⟩
  · rcases List.mem_append.1 hpoi' with hpoi' | hpoi'
    · exact hbatch poi' hpoi'
    · rw [List.mem_singleton.1 hpoi']
      exact hpoi
  · rw [lookup_concat, hlookup, Option.or_assoc]
    congr 1
    unfold knownEntry
    rw [List.find?_append, List.find?_singleton, Option.map_or]
    congr 1
    by_cases h : poi.id = placeId
    · rw [if_pos h, if_pos (decide_eq_true h)]
      rfl
    · rw [if_neg h, if_neg (by simpa using h)]
      rfl

/-- A place of which nothing was known. -/
theorem lookup_missing (entries : List (String × OpeningHoursEntry)) (id placeId : String) :
    (match entries.lookup id with
      | some _ => entries
      | none => entries ++ [(id, missingEntry id)]).lookup placeId =
      (entries.lookup placeId).or (if id = placeId then some (missingEntry placeId) else none) := by
  by_cases h : id = placeId
  · subst h
    rw [if_pos rfl]
    cases hget : entries.lookup id with
    | some entry => exact hget
    | none =>
      dsimp only
      rw [lookup_concat, hget, if_pos rfl]
  · rw [if_neg h, Option.or_none]
    cases entries.lookup id with
    | some entry => rfl
    | none =>
      dsimp only
      rw [lookup_concat, if_neg h, Option.or_none]

/-- The places of a batch that are not in its response. -/
theorem missing_triple {t : Trace effects} (entries : List (String × OpeningHoursEntry)) (ids : List String) :
    Triple Upstream (ids.foldlM missing entries) t (fun t' entries' => t' = t ∧
      ∀ placeId, entries'.lookup placeId =
        (entries.lookup placeId).or (if placeId ∈ ids then some (missingEntry placeId) else none)) Anything := by
  refine .foldlM (I := fun done t' (entries' : List (String × OpeningHoursEntry)) => t' = t ∧
    ∀ placeId, entries'.lookup placeId =
      (entries.lookup placeId).or (if placeId ∈ done then some (missingEntry placeId) else none)) ?_
    (List.nil_append _).symm ⟨rfl, fun placeId => ?_⟩
  · rintro done id rest _ entries' - ⟨rfl, hlookup⟩
    refine .skip (lengths_triple _ _) fun _ _ => .ret ⟨rfl, fun placeId => ?_⟩
    refine (lookup_missing entries' id placeId).trans ?_
    rw [hlookup, Option.or_assoc]
    congr 1
    by_cases hdone : placeId ∈ done
    · rw [if_pos hdone, if_pos (List.mem_append_left _ hdone)]
      rfl
    · rw [if_neg hdone, Option.none_or]
      refine if_congr ?_ rfl rfl
      rw [List.mem_append, List.mem_singleton]
      exact ⟨fun h => .inr h.symm, fun h => (h.resolve_left hdone).symm⟩
  · rw [if_neg List.not_mem_nil, Option.or_none]

/-! ### Batches -/

theorem mem_batch_iff {r : OpeningHoursRequest} {n : ℕ} {placeId : String} :
    placeId ∈ batch r n ↔ ∃ k, r.providerPlaceIds[k]? = some placeId ∧ n * 10 ≤ k ∧ k < (n + 1) * 10 := by
  unfold batch
  rw [List.mem_iff_getElem?]
  constructor
  · rintro ⟨i, hi⟩
    rw [List.getElem?_take] at hi
    split at hi
    · rw [List.getElem?_drop] at hi
      exact ⟨n * 10 + i, hi, by omega, by omega⟩
    · cases hi
  · rintro ⟨k, hk, hle, hlt⟩
    refine ⟨k - n * 10, ?_⟩
    rw [List.getElem?_take, if_pos (by omega), List.getElem?_drop, show n * 10 + (k - n * 10) = k by omega]
    exact hk

/-- What the answers to the requests for some batches say of their places. -/
structure Told (c : Ports) (r : OpeningHoursRequest) (done : ℕ) (t : Trace effects)
    (entries : List (String × OpeningHoursEntry)) : Prop where
  length : t.length = done
  told : ∀ k placeId, r.providerPlaceIds[k]? = some placeId → k < done * 10 → ∃ answer entry,
    t[k / 10]? = some answer ∧ entries.lookup placeId = some entry ∧ Tells c r (k / 10) answer placeId entry
  only : ∀ placeId, (entries.lookup placeId).isSome → ∃ k, r.providerPlaceIds[k]? = some placeId ∧ k < done * 10

/-- One more batch. -/
theorem Told.round {c : Ports} {r : OpeningHoursRequest} {done : ℕ} {t : Trace effects}
    {entries found filled : List (String × OpeningHoursEntry)} (h : Told c r done t entries) {response : HttpResponse}
    {payload : Json} {envelope : PlaceDetailResponse} (hbody : response.body = .json payload)
    (henvelope : placeDetailResponse payload = some envelope) (hbatch : ∀ poi ∈ envelope.pois, poi.id ∈ batch r done)
    (hfound : ∀ placeId, found.lookup placeId = (entries.lookup placeId).or (knownEntry r envelope.pois placeId))
    (hfilled : ∀ placeId, filled.lookup placeId =
      (found.lookup placeId).or (if placeId ∈ batch r done then some (missingEntry placeId) else none)) :
    Told c r (done + 1) (t ++ [answered (detailRequest c r done) (.ok response)]) filled := by
  have hlookup : ∀ placeId, filled.lookup placeId = (entries.lookup placeId).or ((knownEntry r envelope.pois placeId).or
      (if placeId ∈ batch r done then some (missingEntry placeId) else none)) := fun placeId => by
    rw [hfilled, hfound, Option.or_assoc]
  constructor
  · rw [List.length_append, h.length]
    rfl
  · intro k placeId hk hlt
    by_cases hearlier : k < done * 10
    · obtain ⟨answer, entry, hanswer, hentry, htells⟩ := h.told k placeId hk hearlier
      refine ⟨answer, entry, ?_, ?_, htells⟩
      · rw [List.getElem?_append_left (by rw [h.length]; omega)]
        exact hanswer
      · rw [hlookup, hentry]
        rfl
    · have hdiv : k / 10 = done := by omega
      have hmem : placeId ∈ batch r done := mem_batch_iff.2 ⟨k, hk, by omega, hlt⟩
      -- an id occurs once, so it was not in an earlier batch
      have hnew : entries.lookup placeId = none := by
        rw [← Option.not_isSome_iff_eq_none]
        intro hsome
        obtain ⟨k', hk', hlt'⟩ := h.only placeId hsome
        have hlen := (List.getElem?_eq_some_iff.1 hk).1
        have heq := (List.getElem?_inj hlen r.ids_nodup).1 (hk.trans hk'.symm)
        omega
      refine ⟨answered (detailRequest c r done) (.ok response),
        (knownEntry r envelope.pois placeId).getD (missingEntry placeId), ?_, ?_, ?_⟩
      · rw [hdiv, ← h.length]
        exact List.getElem?_concat_length
      · rw [hlookup, hnew, if_pos hmem, Option.none_or]
        cases knownEntry r envelope.pois placeId with
        | none => rfl
        | some entry => rfl
      · rw [hdiv]
        exact ⟨response, payload, envelope, rfl, hbody, henvelope, rfl⟩
  · intro placeId hsome
    have hlater : placeId ∈ batch r done → ∃ k, r.providerPlaceIds[k]? = some placeId ∧ k < (done + 1) * 10 :=
      fun hmem => by
      obtain ⟨k, hk, -, hlt⟩ := mem_batch_iff.1 hmem
      exact ⟨k, hk, hlt⟩
    rw [hlookup, Option.isSome_or, Option.isSome_or, Bool.or_eq_true, Bool.or_eq_true] at hsome
    rcases hsome with hentry | hknown | hmissing
    · obtain ⟨k, hk, hlt⟩ := h.only placeId hentry
      exact ⟨k, hk, by omega⟩
    · unfold knownEntry at hknown
      rw [Option.isSome_map] at hknown
      obtain ⟨poi, hfind⟩ := Option.isSome_iff_exists.1 hknown
      have hid := List.find?_some hfind
      rw [← of_decide_eq_true hid]
      exact (of_decide_eq_true hid) ▸ hlater ((of_decide_eq_true hid) ▸ hbatch poi (List.mem_of_find?_eq_some hfind))
    · split at hmissing
      · rename_i hmem
        exact hlater hmem
      · cases hmissing

theorem openingHours_triple (c : Ports) (r : OpeningHoursRequest) :
    Triple Upstream (openingHours c r) [] (fun t result => ∃ entries n, Told c r n t entries ∧
      r.providerPlaceIds.length ≤ n * 10 ∧
      result = .hours (r.providerPlaceIds.filterMap fun placeId => entries.lookup placeId)) Anything := by
  unfold openingHours
  refine .skip (checkCancelled_triple (mayFail_anything _)) fun _ _ => ?_
  refine .bind (.foldlM (I := fun done t entries => Told c r done.length t entries) ?_ (List.nil_append _).symm
    ⟨rfl, fun k placeId _ hlt => ?_, fun placeId h => nomatch h⟩) fun t entries hentries => ?_
  · rintro done start rest t entries hsplit htold
    have hstart : start = done.length * 10 := by
      have hitem : (batchStarts r.providerPlaceIds)[done.length]? = some start := by
        rw [hsplit]
        exact List.getElem?_append_right (Nat.le_refl _) ▸ by simp
      unfold batchStarts at hitem
      rw [List.getElem?_map, Option.map_eq_some_iff] at hitem
      obtain ⟨n, hn, rfl⟩ := hitem
      obtain ⟨hlt, rfl⟩ := List.getElem?_eq_some_iff.1 hn
      rw [List.getElem_range]
    subst hstart
    rw [List.length_append, List.length_singleton]
    refine .skip (checkCancelled_triple (mayFail_anything _)) fun _ _ => ?_
    refine .bind (get_triple c _ _ (fun _ _ => mayFail_anything _) fun _ _ => trivial) ?_
    rintro _ payload ⟨response, rfl, hbody, -⟩
    refine .skip (validatePayloadStatus_triple (mayFail_anything _) payload) fun _ _ => ?_
    refine .skip (validated_triple (mayFail_anything _) _) fun envelope henvelope => ?_
    refine .skip (validateStatus_triple (mayFail_anything _) _) fun _ _ => ?_
    refine .skip (found_triple r _ entries envelope.pois) fun found hfound => ?_
    refine (missing_triple found _).mono ?_
    rintro _ filled ⟨rfl, hfilled⟩
    exact htold.round hbody henvelope hfound.1 hfound.2 hfilled
  · exact absurd hlt (by simp)
  · refine .ret ⟨entries, _, hentries, ?_, rfl⟩
    rw [batchStarts, List.length_map, List.length_range]
    omega

theorem getElem?_filterMap_of_isSome {α β : Type} {f : α → Option β} {l : List α} (h : ∀ a ∈ l, (f a).isSome) (k : ℕ) :
    (l.filterMap f)[k]? = l[k]?.bind f := by
  induction l generalizing k with
  | nil => rfl
  | cons a l ih =>
    obtain ⟨ha, hl⟩ := List.forall_mem_cons.1 h
    obtain ⟨b, hb⟩ := Option.isSome_iff_exists.1 ha
    rw [List.filterMap_cons, hb]
    cases k with
    | zero => exact hb.symm
    | succ k => exact ih hl k

/-! ## Batches -/

/-- Every pair of a request has one cell, which is what the upstream reports of it. -/
structure CompleteMatrix (c : Ports) (r : RouteMatrixRequest) (t : Trace effects) (cells : List RouteMatrixCell) : Prop
    where
  once : (pairs cells).Nodup
  all : ∀ i j, (i, j) ∈ pairs cells ↔ i < r.origins.length ∧ j < r.destinations.length
  reported : ∀ cell ∈ cells, FromUpstream c r t cell

/-- Every place of a request has one entry, in order, which is what the answer to the request for its batch
    says of it. -/
structure CompleteHours (c : Ports) (r : OpeningHoursRequest) (t : Trace effects)
    (entries : List OpeningHoursEntry) : Prop
    where
  ids : entries.map (fun entry => entry.providerPlaceId) = r.providerPlaceIds
  told : ∀ k entry, entries[k]? = some entry →
    ∃ answer, t[k / 10]? = some answer ∧ Tells c r (k / 10) answer entry.providerPlaceId entry

/-- A matrix, or an error of the taxonomy. -/
def MatrixOrError (c : Ports) (r : RouteMatrixRequest) (t : Trace effects) : Except Err Result → Prop
  | .ok (.matrix cells) => CompleteMatrix c r t cells
  | .error (.provider _) => True
  | _ => False

/-- Opening hours, or an exception. -/
def HoursOrError (c : Ports) (r : OpeningHoursRequest) (t : Trace effects) : Except Err Result → Prop
  | .ok (.hours entries) => CompleteHours c r t entries
  | .ok _ => False
  | .error _ => True

theorem Measured.complete {c : Ports} {r : RouteMatrixRequest} {t : Trace effects} {cells : List RouteMatrixCell}
    (h : Measured c r r.destinations.length t cells) : CompleteMatrix c r t cells := by
  constructor
  · rw [h.pairs]
    exact allPairs_nodup _ _
  · intro i j
    rw [h.pairs]
    exact mem_allPairs
  · exact h.reported

theorem Told.complete {c : Ports} {r : OpeningHoursRequest} {n : ℕ} {t : Trace effects}
    {entries : List (String × OpeningHoursEntry)} (h : Told c r n t entries)
    (hall : r.providerPlaceIds.length ≤ n * 10) :
    CompleteHours c r t (r.providerPlaceIds.filterMap fun placeId => entries.lookup placeId) := by
  have htold : ∀ k placeId, r.providerPlaceIds[k]? = some placeId → ∃ answer entry, t[k / 10]? = some answer ∧
      entries.lookup placeId = some entry ∧ Tells c r (k / 10) answer placeId entry := fun k placeId hk =>
    h.told k placeId hk (lt_of_lt_of_le (List.getElem?_eq_some_iff.1 hk).1 hall)
  have hget := @getElem?_filterMap_of_isSome _ _ (fun placeId => entries.lookup placeId) r.providerPlaceIds
    fun placeId hmem => by
      obtain ⟨k, hk⟩ := List.mem_iff_getElem?.1 hmem
      obtain ⟨_, entry, -, hentry, -⟩ := htold k placeId hk
      rw [hentry]
      rfl
  constructor
  · refine List.ext_getElem? fun k => ?_
    rw [List.getElem?_map, hget]
    cases hk : r.providerPlaceIds[k]? with
    | none => rfl
    | some placeId =>
      obtain ⟨answer, entry, -, hentry, htells⟩ := htold k placeId hk
      rw [Option.bind_some, hentry, Option.map_some, htells.id]
  · intro k entry hentry
    rw [hget] at hentry
    obtain ⟨placeId, hk, hlookup⟩ := Option.bind_eq_some_iff.1 hentry
    obtain ⟨answer, entry', hanswer, hentry', htells⟩ := htold k placeId hk
    rw [hlookup] at hentry'
    cases hentry'
    refine ⟨answer, hanswer, ?_⟩
    rw [htells.id]
    exact htells

theorem matrixOrError_iff {c : Ports} {r : RouteMatrixRequest} {t : Trace effects} {out : Except Err Result}
    (h : (routeMatrix c r).Ends Upstream t out) : MatrixOrError c r t out ↔ Readable t := by
  have hout := routeMatrix_triple c r t out h
  rw [List.nil_append] at hout
  cases out with
  | ok result =>
    obtain ⟨cells, rfl, hcells⟩ := hout
    exact iff_of_true hcells.complete hcells.readable
  | error e =>
    rcases hout with ⟨hreadable, p, rfl⟩ | ⟨hunreadable, rfl⟩
    · exact iff_of_true trivial hreadable
    · exact iff_of_false id hunreadable

theorem hoursOrError {c : Ports} {r : OpeningHoursRequest} {t : Trace effects} {out : Except Err Result}
    (h : (openingHours c r).Ends Upstream t out) : HoursOrError c r t out := by
  have hout := openingHours_triple c r t out h
  rw [List.nil_append] at hout
  cases out with
  | ok result =>
    obtain ⟨entries, n, htold, hall, rfl⟩ := hout
    exact htold.complete hall
  | error e => exact trivial

/-- **Batches lose and invent nothing**: opening hours always, and a matrix unless an accepted response has a body that
    cannot be read. -/
theorem batches_complete_iff (c : Ports) :
    (∀ r t out, (routeMatrix c r).Ends Upstream t out → (MatrixOrError c r t out ↔ Readable t)) ∧
      ∀ r t out, (openingHours c r).Ends Upstream t out → HoursOrError c r t out :=
  ⟨fun _ _ _ h => matrixOrError_iff h, fun _ _ _ h => hoursOrError h⟩

/-! ### One pair -/

def beijingToBeijing : RouteMatrixRequest where
  origins := [beijing]
  destinations := [beijing]
  origins_le := by decide
  destinations_le := by decide

/-- The answer that reports of the one pair. -/
def measured : HttpResponse :=
  { body := .json (.obj [("status", .str "1"), ("infocode", .str "10000"), ("results", .arr [.obj
      [("origin_id", .str "1"), ("dest_id", .str "1"), ("distance", .str "120"), ("duration", .str "60")]])]) }

/-- The run in which the response is that answer. -/
theorem beijingToBeijing_measured : ∃ t, (routeMatrix lookup beijingToBeijing).Ends Upstream t
    (.ok (.matrix [⟨0, 0, 120, 60⟩])) ∧ MatrixOrError lookup beijingToBeijing t (.ok (.matrix [⟨0, 0, 120, 60⟩])) := by
  let answer : Exchange effects := answered (distanceRequest lookup beijingToBeijing beijing) (.ok measured)
  have hanswer : Upstream answer.1 answer.2 := fun e h => nomatch h
  have hend : (routeMatrix lookup beijingToBeijing).Ends Upstream [answer] (.ok (.matrix [⟨0, 0, 120, 60⟩])) := by
    refine .now (E := effects) false (.now (E := effects) false (.await _ hanswer ?_))
    simp only [Co.ofExcept, Co.handle, measured]
    rw [checkResponse_default]
    exact .ret _
  have hreadable : Readable [answer] := by
    intro a ha response hresponse _
    obtain rfl := List.mem_singleton.1 ha
    cases hresponse
    exact Body.noConfusion
  exact ⟨_, hend, ((batches_complete_iff lookup).1 _ _ _ hend).2 hreadable⟩

/-- The run in which the first response has a body that cannot be read. -/
theorem beijingToBeijing_unreadable : ∃ t,
    (routeMatrix lookup beijingToBeijing).Ends Upstream t (.error Err.jsonError) ∧
    ¬ MatrixOrError lookup beijingToBeijing t (.error Err.jsonError) := by
  have hanswer : Upstream (distanceRequest lookup beijingToBeijing beijing)
    (.ok ({ body := .unreadable } : HttpResponse)) :=
    fun e h => nomatch h
  have hend : (routeMatrix lookup beijingToBeijing).Ends Upstream
      [answered (distanceRequest lookup beijingToBeijing beijing) (.ok { body := .unreadable })]
        (.error Err.jsonError) := by
    refine .now (E := effects) false (.now (E := effects) false (.await _ hanswer ?_))
    simp only [Co.ofExcept, Co.handle]
    rw [checkResponse_default]
    exact .raise _
  exact ⟨_, hend, id⟩

end RoutePilot.Provider.Amap
