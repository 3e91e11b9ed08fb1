/-
  Where the facts of an artifact come from (`SourceRef`, `GeoPoint` and `Freshness`
  in `routepilot_contracts/common.py`), and the places and questions that carry it.

  A contract strips the texts it is given; it accepts a text if what is left has the
  length it asks (`text_ok_iff`).
-/
import RoutePilot.Contracts.Brief
import RoutePilot.Planning.Catalog
import RoutePilot.Planning.Schedule

namespace RoutePilot.Contracts

open Lib
open Planning (strip stripBy)

/-! ## Texts that enter a contract -/

theorem isStripped_stripBy {drop : Char → Bool} (s : String) (hdrop : ∀ c, isWhitespace c → drop c) :
    isStripped (stripBy drop s).toList := by
  have hnot : ∀ c, drop c = false → isWhitespace c = false := fun c hc => by
    by_contra hw
    rw [Bool.not_eq_false] at hw
    rw [hdrop c hw] at hc
    cases hc
  rw [stripBy, String.toList_ofList, isStripped, Bool.and_eq_true]
  generalize hl : s.toList.dropWhile drop = l
  constructor
  · -- the first character is the first that is kept
    cases hr : (l.rdropWhile drop).head? with
    | none => rfl
    | some c =>
      have hprefix := l.rdropWhile_prefix drop
      obtain ⟨t, ht⟩ := hprefix
      have hc : l.head? = some c := by
        rw [← ht, List.head?_append, hr]
        rfl
      have hfirst := List.head?_dropWhile_not drop s.toList
      rw [hl, hc] at hfirst
      simpa using hnot c (by simpa using hfirst)
  · cases hr : (l.rdropWhile drop).getLast? with
    | none => rfl
    | some c =>
      have hne : l.rdropWhile drop ≠ [] := fun hnil => by rw [hnil] at hr; cases hr
      have hlast := List.rdropWhile_last_not drop l hne
      rw [List.getLast?_eq_getLast_of_ne_nil hne, Option.some_inj] at hr
      rw [hr] at hlast
      simpa using hnot c (by simpa using hlast)

theorem isPySpace_of_isWhitespace {c : Char} (h : isWhitespace c) : isPySpace c := by
  unfold isWhitespace at h
  unfold isPySpace
  simp only [Bool.or_eq_true, Bool.and_eq_true, decide_eq_true_eq, beq_iff_eq] at h ⊢
  omega

theorem pyStrip_eq_stripBy (s : String) : pyStrip s = stripBy isPySpace s := rfl

theorem isStripped_pyStrip (s : String) : isStripped (pyStrip s).toList := by
  rw [pyStrip_eq_stripBy]
  exact isStripped_stripBy s fun _ => isPySpace_of_isWhitespace

theorem isStripped_strip (s : String) : isStripped (strip s).toList := isStripped_stripBy s fun _ => id

/-- A stripped text is not changed. -/
theorem strip_eq_self {s : String} (h : isStripped s.toList) : strip s = s := by
  rw [isStripped, Bool.and_eq_true] at h
  obtain ⟨hfirst, hlast⟩ := h
  have hdrop : s.toList.dropWhile isWhitespace = s.toList := by
    cases hs : s.toList with
    | nil => rfl
    | cons c l =>
      rw [hs] at hfirst
      exact List.dropWhile_cons_of_neg (by simpa using hfirst)
  have hrdrop : s.toList.rdropWhile isWhitespace = s.toList := by
    rw [List.rdropWhile_eq_self_iff]
    intro hne hw
    rw [List.getLast?_eq_getLast_of_ne_nil hne] at hlast
    simp [hw] at hlast
  rw [strip, stripBy, hdrop, hrdrop, String.ofList_toList]

theorem isStripped_of_forall {l : List Char} (h : ∀ c ∈ l, isWhitespace c = false) : isStripped l := by
  simp only [isStripped, Bool.and_eq_true, Option.all_eq_true, Bool.not_eq_true']
  exact ⟨fun c hc => h c (List.mem_of_mem_head? hc), fun c hc => h c (List.mem_of_getLast? hc)⟩

theorem isWhitespace_of_isUpper {c : Char} (h : c.isUpper) : isWhitespace c = false := by
  have hc : 65 ≤ c.toNat ∧ c.toNat ≤ 90 := by
    obtain ⟨hlow, hhigh⟩ := of_decide_eq_true h
    rw [ge_iff_le, UInt32.le_iff_toNat_le] at hlow
    rw [UInt32.le_iff_toNat_le] at hhigh
    exact ⟨hlow, hhigh⟩
  unfold isWhitespace
  simp only [Bool.or_eq_false_iff, Bool.and_eq_false_iff, decide_eq_false_iff_not, beq_eq_false_iff_ne]
  omega

/-- A code of capital letters has no white space to strip. -/
theorem strip_of_isUpper {s : String} (h : s.toList.all Char.isUpper) : strip s = s :=
  strip_eq_self (isStripped_of_forall fun c hc => isWhitespace_of_isUpper (List.all_eq_true.1 h c hc))

theorem strip_pyStrip (s : String) : strip (pyStrip s) = pyStrip s := strip_eq_self (isStripped_pyStrip s)

/-- Between two stripped texts anything may stand. -/
theorem isStripped_between {a c : List Char} (b : List Char) (ha : isStripped a) (hc : isStripped c) (hane : a ≠ [])
    (hcne : c ≠ []) : isStripped (a ++ b ++ c) := by
  simp only [isStripped, Bool.and_eq_true] at ha hc ⊢
  constructor
  · rw [List.append_assoc, List.head?_append_of_ne_nil _ hane]
    exact ha.1
  · rw [List.getLast?_append_of_ne_nil _ hcne]
    exact hc.2

theorem isText_mono {least most most' : ℕ} {s : String} (h : IsText least most s) (hle : most ≤ most') :
    IsText least most' s := ⟨h.1, h.2.1, h.2.2.trans hle⟩

/-- A text that is not empty. -/
theorem ne_nil_of_isText {most : ℕ} {s : String} (h : IsText 1 most s) : s.toList ≠ [] := fun hnil => by
  have := h.2.1
  rw [← String.length_toList, hnil] at this
  cases this

/-- Two texts with something between them. -/
theorem isText_between {most most' least : ℕ} {s t : String} (between : String) (hs : IsText 1 most s)
    (ht : IsText 1 most' t) (hlen : s.length + between.length + t.length ≤ least) :
    IsText 1 least (s ++ between ++ t) := by
  refine ⟨?_, ?_, ?_⟩
  · rw [String.toList_append, String.toList_append]
    exact isStripped_between _ hs.1 ht.1 (ne_nil_of_isText hs) (ne_nil_of_isText ht)
  · have := hs.2.1
    rw [String.length_append, String.length_append]
    omega
  · rw [String.length_append, String.length_append]
    exact hlen

/-! ### Identifiers of parts -/

/-- A kind, and a rest of the characters of identifiers. -/
theorem isIdentifier_append {kind rest : String} (hhead : kind.toList.head?.any Char.isLower)
    (hkind : kind.toList.all isIdentifierChar) (hrest : rest.toList.all isIdentifierChar)
    (hmin : 3 ≤ kind.length + rest.length) (hmax : kind.length + rest.length ≤ 128) : isIdentifier (kind ++ rest) := by
  have hne : kind.toList ≠ [] := fun hnil => by rw [hnil] at hhead; cases hhead
  simp only [isIdentifier, String.toList_append, String.length_append, Bool.and_eq_true, decide_eq_true_eq,
    List.all_append]
  refine ⟨⟨⟨?_, hkind, hrest⟩, hmin⟩, hmax⟩
  rw [List.head?_append_of_ne_nil _ hne]
  exact hhead

theorem all_append {p : Char → Bool} {s t : String} (hs : s.toList.all p) (ht : t.toList.all p) :
    (s ++ t).toList.all p := by
  rw [String.toList_append, List.all_append, hs, ht]
  rfl

theorem all_hex {width : ℕ} (h : Planning.Hex width) : h.text.toList.all isIdentifierChar :=
  List.all_eq_true.2 fun _ hc => h.isIdentifierChar_text hc

theorem all_toString (n : ℕ) : (toString n).toList.all isIdentifierChar :=
  List.all_eq_true.2 fun _ hc => Planning.isIdentifierChar_toString hc

/-! ### Reading -/

/-- A text that enters a contract. -/
def text (model : String) (least most : ℕ) (s : String) : Except PyError { t : String // IsText least most t } :=
  check (IsText least most (strip s)) (.validationError model) fun h => ⟨strip s, h⟩

/-- `... | None`. -/
def optionalText (model : String) (least most : ℕ) :
    Option String → Except PyError (Option { t : String // IsText least most t })
  | none => .ok none
  | some s => (text model least most s).map some

def identifier (model s : String) : Except PyError Identifier :=
  check (isIdentifier (strip s)) (.validationError model) fun h => ⟨strip s, h⟩

section
variable {model : String} {least most : ℕ} {s : String}

theorem text_ok_iff : (∃ t, text model least most s = .ok t) ↔ least ≤ (strip s).length ∧ (strip s).length ≤ most := by
  constructor
  · rintro ⟨t, h⟩
    obtain ⟨hs, -⟩ := check_eq_ok.1 h
    exact hs.2
  · intro h
    exact ⟨_, check_pos ⟨isStripped_strip s, h⟩⟩

theorem text_of_isText (h : IsText least most s) : text model least most s = .ok ⟨s, h⟩ := by
  have hs : strip s = s := strip_eq_self h.1
  unfold text
  rw [check_pos (by rwa [hs])]
  simp [hs]

theorem isStripped_of_isIdentifier (h : isIdentifier s) : isStripped s.toList := by
  simp only [isIdentifier, Bool.and_eq_true] at h
  obtain ⟨⟨⟨-, hall⟩, -⟩, -⟩ := h
  exact isStripped_of_forall fun c hc => isWhitespace_of_isIdentifierChar (List.all_eq_true.1 hall c hc)

theorem identifier_of_isIdentifier (h : isIdentifier s) : identifier model s = .ok ⟨s, h⟩ := by
  have hs : strip s = s := strip_eq_self (isStripped_of_isIdentifier h)
  unfold identifier
  rw [check_pos (by rwa [hs])]
  simp [hs]

end

/-! ## Sources -/

inductive SourceKind where
  | user
  | rag
  | provider
  | agent
  | policy
  | system
  deriving DecidableEq, Repr

structure SourceRef where
  sourceId : Identifier
  kind : SourceKind
  name : ShortText
  version : { s : String // IsText 1 128 s }
  uri : Option String := none
  retrievedAt : Time
  publisher : Option ShortText := none
  license : Option ShortText := none
  deriving DecidableEq

/-- The arguments of `SourceRef(...)`. -/
structure SourceFields where
  sourceId : String
  kind : SourceKind
  name : String
  version : String
  uri : Option String := none
  retrievedAt : Time
  publisher : Option String := none
  license : Option String := none

/-- `AnyHttpUrl | None`. -/
def optionalUrl (httpUrl : String → Option String) : Option String → Except PyError (Option String)
  | none => .ok none
  | some s =>
    match httpUrl (strip s) with
    | some url => .ok (some url)
    | none => .error (.validationError "SourceRef")

/-- `SourceRef(...)`, with the reading of URLs. -/
def sourceRef (httpUrl : String → Option String) (f : SourceFields) : Except PyError SourceRef := do
  let sourceId ← identifier "SourceRef" f.sourceId
  let name ← text "SourceRef" 1 256 f.name
  let version ← text "SourceRef" 1 128 f.version
  let uri ← optionalUrl httpUrl f.uri
  let publisher ← optionalText "SourceRef" 1 256 f.publisher
  let license ← optionalText "SourceRef" 1 256 f.license
  return { sourceId, kind := f.kind, name, version, uri, retrievedAt := f.retrievedAt, publisher, license }

/-- Every field is within its bounds. -/
structure SourceFields.Fit (f : SourceFields) : Prop where
  sourceId : isIdentifier f.sourceId
  name : IsText 1 256 f.name
  version : IsText 1 128 f.version
  uri : f.uri = none
  publisher : ∀ p ∈ f.publisher, IsText 1 256 p
  license : f.license = none

theorem sourceRef_of_fit {httpUrl : String → Option String} {f : SourceFields} (h : f.Fit) :
    ∃ s, sourceRef httpUrl f = .ok s ∧ s.kind = f.kind := by
  obtain ⟨sourceId, kind, name, version, uri, retrievedAt, publisher, license⟩ := f
  obtain ⟨hid, hname, hversion, huri, hpublisher, hlicense⟩ := h
  simp only at *
  subst huri hlicense
  simp only [sourceRef, identifier_of_isIdentifier hid, text_of_isText hname, text_of_isText hversion, ok_bind,
    optionalUrl]
  cases publisher with
  | none => exact ⟨_, rfl, rfl⟩
  | some p =>
    simp only [optionalText, text_of_isText (hpublisher p rfl)]
    exact ⟨_, rfl, rfl⟩

/-! ## Places -/

inductive CoordinateSystem where
  | wgs84
  | gcj02
  | bd09
  deriving DecidableEq, Repr

structure GeoPoint where
  latitude : ℚ
  longitude : ℚ
  coordinateSystem : CoordinateSystem
  latitude_le : -90 ≤ latitude ∧ latitude ≤ 90
  longitude_le : -180 ≤ longitude ∧ longitude ≤ 180
  deriving DecidableEq

/-- `GeoPoint(...)`, with the reading of decimals. -/
def geoPoint (decimal : String → Option ℚ) (latitude longitude : String) (coordinateSystem : CoordinateSystem) :
    Except PyError GeoPoint :=
  match decimal (strip latitude), decimal (strip longitude) with
  | some latitude, some longitude =>
    check ((-90 ≤ latitude ∧ latitude ≤ 90) ∧ -180 ≤ longitude ∧ longitude ≤ 180) (.validationError "GeoPoint")
      fun h => ⟨latitude, longitude, coordinateSystem, h.1, h.2⟩
  | _, _ => .error (.validationError "GeoPoint")

/-- `^[A-Z]{2}$`. -/
def isCountryCode (s : String) : Bool := s.toList.all Char.isUpper && s.length == 2

abbrev CountryCode := { s : String // isCountryCode s }

structure ProviderPlaceId where
  provider : ShortText
  placeId : ShortText
  version : { s : String // IsText 1 128 s }
  deriving DecidableEq

/-- A place with what describes it and where it comes from. -/
structure SourcedPlace extends PlaceRef where
  address : Option ShortText := none
  countryCode : CountryCode
  location : GeoPoint
  providerIds : List ProviderPlaceId := []
  source : SourceRef
  deriving DecidableEq

/-- `IanaTimezone`, with the names that `ZoneInfo` accepts. -/
def ianaTimezone (zoneInfo : String → Bool) (model s : String) : Except PyError Timezone :=
  check (IsText 1 64 (strip s) ∧ zoneInfo (strip s)) (.validationError model) fun _ => strip s

/-! ## Questions of travelers -/

structure TravelQuestion where
  artifactId : Identifier
  version : ℕ
  createdAt : Time
  createdBy : ActorRef
  reason : NonEmptyText
  question : NonEmptyText
  locale : { s : String // IsText 2 32 s }
  destinationHint : Option ShortText := none
  askedAt : Time
  source : SourceRef
  positive : 1 ≤ version
  /-- `validate_source` -/
  userAuthored : source.kind = .user

/-- The arguments of `TravelQuestion(...)` that are texts, and its parts. -/
structure QuestionFields where
  artifactId : String
  createdAt : Time
  createdBy : ActorRef
  reason : String
  question : String
  locale : String
  destinationHint : Option String
  askedAt : Time
  source : SourceRef

/-- `TravelQuestion(...)`, of the first version. -/
def travelQuestion (f : QuestionFields) : Except PyError TravelQuestion := do
  let artifactId ← identifier "TravelQuestion" f.artifactId
  let reason ← text "TravelQuestion" 1 2000 f.reason
  let question ← text "TravelQuestion" 1 2000 f.question
  let locale ← text "TravelQuestion" 2 32 f.locale
  let destinationHint ← optionalText "TravelQuestion" 1 256 f.destinationHint
  check (f.source.kind = .user) (.validationError "TravelQuestion") fun h =>
    { artifactId, version := 1, createdAt := f.createdAt, createdBy := f.createdBy, reason, question, locale
      destinationHint, askedAt := f.askedAt, source := f.source, positive := firstVersion, userAuthored := h }

end RoutePilot.Contracts
