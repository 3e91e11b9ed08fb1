/-
  What intake accepts, and what the pipeline accepts of it.

  Three ways lead from a user to the agents: the form of the workbench, a request of
  the interface with its plan, and a question.  On each, every text is checked again
  by models with bounds of their own; `intake_accepts_iff` says which accepted inputs
  pass all of them.
-/
import Mathlib.Data.Rat.Floor
import RoutePilot.Intake.Pipeline
import RoutePilot.Lib.Strip
import RoutePilot.Model.Canonical
import RoutePilot.Proof.FormBudget
import RoutePilot.Proof.ResumeInput
import RoutePilot.Web.TripForm

namespace RoutePilot.Intake

open Lib Contracts
open Knowledge (Checked noExtra)
open Planning (strip Hex newId newPublicId newConstraint newPreference)

theorem length_strip_le (s : String) : (strip s).length ≤ s.length := by
  have hle := length_stripEnds_le (p := isWhitespace) s.toList
  rw [String.length_toList] at hle
  show (String.ofList _).length ≤ _
  rw [String.length_ofList]
  exact hle

/-! ## The form -/

section
open Web

section
variable {upper : String → String} {draft : TravelConstraintDraft} {today : String} {request : TripRequestInput}

/-- A date of the form is a day, written as it is. -/
theorem realIsoDate_eq_some {value : String} {date : Date} (h : realIsoDate value = some date) :
    date.Valid ∧ date.isoformat = value := by
  unfold realIsoDate at h
  split at h
  · rw [Option.filter_eq_some_iff] at h
    obtain ⟨hdate, hsame⟩ := h
    rw [Bool.and_eq_true, beq_iff_eq] at hsame
    exact ⟨valid_of_mkDate hdate, hsame.2⟩
  · cases h

/-- The days of an accepted draft. -/
theorem days_of_dateErrors (h : dateErrors draft today = []) :
    ∃ start finish, realIsoDate draft.startDate = some start ∧ realIsoDate draft.endDate = some finish ∧
      start.toordinal ≤ finish.toordinal ∧ finish.toordinal - start.toordinal ≤ 30 := by
  unfold dateErrors at h
  cases hs : realIsoDate draft.startDate with
  | none =>
    cases hf : realIsoDate draft.endDate with
    | none => rw [hs, hf] at h; cases h
    | some finish => rw [hs, hf] at h; cases h
  | some start =>
    cases hf : realIsoDate draft.endDate with
    | none =>
      rw [hs, hf] at h
      exact absurd (List.append_eq_nil_iff.1 h).2 (List.cons_ne_nil _ _)
    | some finish =>
      rw [hs, hf] at h
      simp only [List.append_eq_nil_iff] at h
      have hdifference := h.2
      split_ifs at hdifference with hnegative
      rw [errorIf_eq_nil, decide_eq_false_iff_not] at hdifference
      exact ⟨start, finish, rfl, rfl, by omega, by omega⟩

theorem le_of_validateTraveler {value : String} {n : ℕ} (h : validateTraveler value = some n) : n ≤ 99 := by
  unfold validateTraveler at h
  simp only at h
  split_ifs at h with hdigits
  cases h
  exact hdigits.2.2

end

/-! ### Lists -/

/-- A text that the server does not strip away. -/
def Visible (blank : Char → Bool) (s : String) : Prop := ∃ c ∈ s.toList, blank c = false

theorem one_le_length_stripBy {blank : Char → Bool} {s : String} :
    1 ≤ (Planning.stripBy blank s).length ↔ Visible blank s := by
  show 1 ≤ (String.ofList (stripEnds blank s.toList)).length ↔ _
  rw [String.length_ofList, Nat.one_le_iff_ne_zero, Ne, List.length_eq_zero_iff]
  exact stripEnds_ne_nil_iff

/-- To strip the white space of a contract first makes no difference. -/
theorem pyStrip_strip (s : String) : pyStrip (strip s) = pyStrip s := by
  show String.ofList (stripEnds isPySpace (String.ofList (stripEnds isWhitespace s.toList)).toList) =
    String.ofList (stripEnds isPySpace s.toList)
  rw [String.toList_ofList, stripEnds_stripEnds fun _ => isPySpace_of_isWhitespace]

section
variable {items : List String}

theorem each_strings (loc : String) (i : ℕ) : each (string loc) i (items.map .str) = .ok (items.map strip) := by
  induction items generalizing i with
  | nil => rfl
  | cons s items ih =>
    rw [List.map_cons, each, ih]
    rfl

theorem boundedList_strings (loc : String) (h : items.length ≤ 20) :
    ∃ l, boundedList loc 20 (string loc) (.arr (items.map .str)) = .ok l ∧ l.1 = items.map strip := by
  unfold boundedList
  simp only [List.length_map]
  rw [dif_neg (by omega)]
  split
  · next l hl =>
    rw [each_strings] at hl
    exact ⟨_, rfl, (Except.ok.inj hl).symm⟩
  · next hl =>
    rw [each_strings] at hl
    cases hl

/-- A list of the form is accepted if no item is stripped away. -/
theorem textList_ok_iff (loc : String) (h : items.length ≤ 20) (hlen : ∀ item ∈ items, item.length ≤ 256) :
    (∃ l, textList loc (.arr (items.map .str)) = .ok l) ↔ ∀ item ∈ items, Visible isPySpace item := by
  obtain ⟨l, hl, hitems⟩ := boundedList_strings loc h
  have hshort : ∀ item ∈ items, (pyStrip item).length ≤ 256 := by
    intro item hitem
    have hle := length_stripEnds_le (p := isPySpace) item.toList
    have := hlen item hitem
    rw [String.length_toList] at hle
    show (String.ofList (stripEnds isPySpace item.toList)).length ≤ 256
    rw [String.length_ofList]
    omega
  have hclean : l.1.map pyStrip = items.map pyStrip := by
    rw [hitems, List.map_map]
    exact List.map_congr_left fun s _ => pyStrip_strip s
  have hall : (∀ s ∈ l.1.map pyStrip, 1 ≤ s.length ∧ s.length ≤ 256) ↔ ∀ item ∈ items, Visible isPySpace item := by
    rw [hclean]
    simp only [List.forall_mem_map]
    exact forall₂_congr fun item hitem =>
      ⟨fun hboth => one_le_length_stripBy.1 hboth.1, fun hv => ⟨one_le_length_stripBy.2 hv, hshort item hitem⟩⟩
  rw [← hall]
  unfold textList
  rw [hl]
  show (∃ x, boundTextList loc l = .ok x) ↔ _
  unfold boundTextList
  simp only
  constructor
  · rintro ⟨x, hx⟩
    split at hx
    · next hok => exact hok
    · cases hx
  · intro hok
    rw [dif_pos hok]
    exact ⟨_, rfl⟩

end

/-! ### Drafts -/

/-- What the server asks of a draft beyond the checks of the form. -/
structure DraftFits (draft : TravelConstraintDraft) : Prop where
  destination : Visible isWhitespace (jsTrim draft.destination)
  preferences : ∀ item ∈ parseTextList draft.preferences, Visible isPySpace item
  accessibilityNeeds : ∀ item ∈ parseTextList draft.accessibilityNeeds, Visible isPySpace item

theorem of_listErrors {field value : String} (h : listErrors field value = []) :
    (parseTextList value).length ≤ 20 ∧ ∀ item ∈ parseTextList value, item.length ≤ 256 := by
  unfold listErrors at h
  split at h
  · cases h
  · next hnone =>
    unfold listError at hnone
    split_ifs at hnone with hmany hlong
    refine ⟨by omega, fun item hitem => ?_⟩
    rw [Bool.not_eq_true, List.any_eq_false] at hlong
    have := hlong item hitem
    rw [decide_eq_true_eq] at this
    exact (length_le_jsLength item).trans (by omega)

section
variable {R : Readers} {upper : String → String} {draft : TravelConstraintDraft} {today : String}
  {request : TripRequestInput}

/-- A request of the form is accepted if and only if no text of it is stripped away. -/
theorem modelValidate_json_iff (h : buildTripRequest upper draft today = .ok request) :
    (∃ r, StructuredTripRequest.modelValidate R request.json = .ok r) ↔ DraftFits draft := by
  obtain ⟨hmin, hmax, horder⟩ := budget_of_buildTripRequest h
  obtain ⟨herrors, hadults, hseniors, hrequest⟩ := buildTripRequest_eq_ok h
  have hminAmount := isDecimalAmount_of_isBudget hmin
  have hmaxAmount := isDecimalAmount_of_isBudget hmax
  have hdestination : request.destination = jsTrim draft.destination := by rw [hrequest]
  have hpreferences : request.preferences = parseTextList draft.preferences := by rw [hrequest]
  have hneeds : request.accessibilityNeeds = parseTextList draft.accessibilityNeeds := by rw [hrequest]
  have hcurrency : request.currency = upper (jsTrim draft.currency) := by rw [hrequest]
  have hstart : request.startDate = draft.startDate := by rw [hrequest]
  have hend : request.endDate = draft.endDate := by rw [hrequest]
  simp only [draftErrors, List.append_eq_nil_iff] at herrors
  obtain ⟨⟨⟨⟨⟨⟨hdest, hdates⟩, htravelers⟩, -⟩, hcode⟩, hwishes⟩, hlist⟩ := herrors
  obtain ⟨start, finish, hs, hf, hordered, hwindow⟩ := days_of_dateErrors hdates
  obtain ⟨hsvalid, hsiso⟩ := realIsoDate_eq_some hs
  obtain ⟨hfvalid, hfiso⟩ := realIsoDate_eq_some hf
  obtain ⟨hplen, hpitems⟩ := of_listErrors hwishes
  obtain ⟨hnlen, hnitems⟩ := of_listErrors hlist
  have hupper : isCurrencyCode request.currency := by
    rw [errorIf_eq_nil, Bool.not_eq_false'] at hcode
    rw [hcurrency]
    exact hcode
  have hlong : (jsTrim draft.destination).length ≤ 100 := by
    unfold destinationErrors at hdest
    simp only at hdest
    split_ifs at hdest with hempty
    rw [errorIf_eq_nil, decide_eq_false_iff_not] at hdest
    exact (length_le_jsLength _).trans (by omega)
  have htraveler : 1 ≤ request.adults + request.seniors := by
    unfold travelerErrors at htravelers
    rw [hadults, hseniors] at htravelers
    simp only [errorIf_eq_nil, decide_eq_false_iff_not] at htravelers
    omega
  have hnumeral : ∀ {s : String}, isDecimalAmount s → Lib.Decimal.isNumeral 4 s.toList :=
    fun h => (Bool.and_eq_true_iff.1 h).1
  rw [compareDecimal_eq (hnumeral hminAmount) (hnumeral hmaxAmount), Ne, compare_gt_iff_gt, not_lt] at horder
  rw [modelValidate_ok_iff]
  constructor
  · rintro ⟨f, hfields, -⟩
    obtain ⟨⟨hd, -, -⟩, -, ⟨-, -, -, hn⟩, -, hp, -⟩ := tripFields_eq_ok.1 hfields
    rw [required_eq rfl, boundedText_str] at hd
    rw [optional_eq rfl] at hn hp
    refine ⟨?_, ?_, ?_⟩
    · rw [← hdestination]
      have hone := f.destination.2.2.1
      rw [← hd] at hone
      exact one_le_length_stripBy.1 hone
    · rw [← hpreferences]
      rw [← hpreferences] at hplen hpitems
      exact (textList_ok_iff _ hplen hpitems).1 ⟨_, hp⟩
    · rw [← hneeds]
      rw [← hneeds] at hnlen hnitems
      exact (textList_ok_iff _ hnlen hnitems).1 ⟨_, hn⟩
  · intro hfits
    have htext : IsText 1 100 (strip request.destination) := by
      rw [hdestination]
      exact ⟨isStripped_strip _, one_le_length_stripBy.2 hfits.destination, (length_strip_le _).trans hlong⟩
    rw [← hpreferences] at hplen hpitems
    rw [← hneeds] at hnlen hnitems
    obtain ⟨wishes, hwishes⟩ := (textList_ok_iff "preferences" hplen hpitems).2 (hpreferences ▸ hfits.preferences)
    obtain ⟨needs, hneeds'⟩ := (textList_ok_iff "accessibility_needs" hnlen hnitems).2
      (hneeds ▸ hfits.accessibilityNeeds)
    refine ⟨⟨⟨strip request.destination, htext⟩, ⟨"CN", by decide⟩, ⟨"Asia/Shanghai", by decide⟩,
      start.toDay hsvalid, finish.toDay hfvalid, ⟨request.adults, le_of_validateTraveler hadults⟩,
      ⟨request.seniors, le_of_validateTraveler hseniors⟩, ⟨[], by decide⟩, needs, ⟨_, hminAmount⟩, ⟨_, hmaxAmount⟩,
      ⟨request.currency, hupper⟩, wishes⟩,
      tripFields_eq_ok.2 ⟨⟨?_, rfl, rfl⟩, ⟨?_, ?_⟩, ⟨?_, ?_, rfl, ?_⟩, ⟨?_, ?_, ?_⟩, ?_, rfl⟩,
      ⟨hordered, hwindow, by simpa using htraveler, horder⟩⟩
    · rw [required_eq rfl, boundedText_str]
    · rw [required_eq rfl, hstart, ← hsiso, day_isoformat hsvalid]
    · rw [required_eq rfl, hend, ← hfiso, day_isoformat hfvalid]
    · rw [optional_eq rfl, headcount_eq_ok, R.int_int]
    · rw [optional_eq rfl, headcount_eq_ok, R.int_int]
    · rw [optional_eq rfl, hneeds']
    · rw [required_eq rfl, patterned_str]
      exact strip_of_isDecimalAmount hminAmount
    · rw [required_eq rfl, patterned_str]
      exact strip_of_isDecimalAmount hmaxAmount
    · rw [optional_eq rfl, patterned_str]
      exact strip_of_isUpper (Bool.and_eq_true_iff.1 hupper).1
    · rw [optional_eq rfl, hwishes]

end

end

/-! ## Sources -/

theorem isIdentifier_stable (kind : String) (digest : Hex 32) (hhead : kind.toList.head?.any Char.isLower)
    (hall : kind.toList.all isIdentifierChar) (hlen : kind.length ≤ 95) :
    isIdentifier (stableIdentifier kind digest) := by
  have hdigest := digest.text_length (by decide)
  unfold stableIdentifier
  have hcolon : (kind ++ ":").toList.all isIdentifierChar := all_append hall (by decide)
  have hlen' : (kind ++ ":").length = kind.length + 1 := by rw [String.length_append]; rfl
  refine isIdentifier_append ?_ hcolon (all_hex digest) (by omega) (by omega)
  cases hk : kind.toList with
  | nil => rw [hk] at hhead; cases hhead
  | cons c cs => simpa [String.toList_append, hk] using hhead

theorem isWhitespace_providerChar {c : Char}
    (h : c.isLower || c.isDigit || c == '.' || c == '_' || c == '-') : isWhitespace c = false := by
  by_cases hid : isIdentifierChar c
  · exact isWhitespace_of_isIdentifierChar hid
  · obtain rfl : c = '.' := by
      simp only [isIdentifierChar, Bool.or_eq_true, not_or] at hid
      simp only [Bool.or_eq_true, beq_iff_eq] at h
      rcases h with (((h | h) | h) | h) | h
      · exact absurd h hid.1.1.1.1
      · exact absurd h hid.1.1.1.2
      · exact h
      · exact absurd (by simpa using h) hid.1.1.2
      · exact absurd (by simpa using h) hid.2
    decide

theorem isText_providerId (p : { s : String // isProviderId s }) : IsText 1 80 p.1 := by
  obtain ⟨s, hs⟩ := p
  simp only [isProviderId, Bool.and_eq_true, decide_eq_true_eq] at hs
  obtain ⟨⟨hhead, hall⟩, hlen⟩ := hs
  refine ⟨isStripped_of_forall fun c hc => isWhitespace_providerChar (List.all_eq_true.1 hall c hc), ?_, hlen⟩
  · rw [← String.length_toList]
    cases hl : s.toList with
    | nil => rw [hl] at hhead; cases hhead
    | cons c cs => simp

/-- A source without an address that fits is made. -/
theorem sourceRef_ok {f : SourceFields} (h : f.Fit) : ∃ s, sourceRef (fun _ => none) f = .ok s ∧ s.kind = f.kind :=
  sourceRef_of_fit h

/-- The source of what a provider returned. -/
theorem providerSource_fit (p : ProviderProvenance) {sourceId : String} (label : String) (hid : isIdentifier sourceId)
    (hlabel : IsText 1 100 label) : (providerSource p sourceId (" " ++ label)).Fit where
  sourceId := hid
  name := by
    have hprovider := isText_providerId p.providerId
    have hname : IsText 1 256 (p.providerId.1 ++ " " ++ label) :=
      isText_between " " hprovider hlabel (by
        have := hprovider.2.2
        have := hlabel.2.2
        have : " ".length = 1 := rfl
        omega)
    rwa [String.append_assoc] at hname
  version := isText_mono p.providerVersion.2 (by decide)
  uri := rfl
  publisher := by
    rintro _ ⟨rfl⟩
    exact isText_mono (isText_providerId p.providerId) (by decide)
  license := rfl

theorem userSource_fit (d : BriefDraws) (now : Time) : (userSource d now).Fit where
  sourceId := Planning.isIdentifier_newId (by decide) (by decide) (by decide)
  name := by
    show IsText 1 256 "Trip workbench constraints"
    decide
  version := by
    show IsText 1 128 "1"
    decide
  uri := rfl
  publisher := by
    rintro _ ⟨rfl⟩
    decide
  license := rfl

/-! ## The place -/

variable {N : Numbers}

/-- Every coordinate is a point. -/
theorem pointOf_ok (x : Provider.Coordinate) :
    ∃ point, pointOf N x = .ok point ∧ point.coordinateSystem = contractSystem x.coordinateSystem := by
  obtain ⟨latitude, hlat, hlat'⟩ := N.decimal_float x.latitude
  obtain ⟨longitude, hlong, hlong'⟩ := N.decimal_float x.longitude
  have hbounds : (-90 ≤ latitude ∧ latitude ≤ 90) ∧ -180 ≤ longitude ∧ longitude ≤ 180 := by
    refine ⟨⟨?_, ?_⟩, ?_, ?_⟩
    · exact_mod_cast (hlat' (-90) (by decide)).2 (by exact_mod_cast x.latitude_le.1)
    · exact_mod_cast (hlat' 90 (by decide)).1 (by exact_mod_cast x.latitude_le.2)
    · exact_mod_cast (hlong' (-180) (by decide)).2 (by exact_mod_cast x.longitude_le.1)
    · exact_mod_cast (hlong' 180 (by decide)).1 (by exact_mod_cast x.longitude_le.2)
  unfold pointOf geoPoint
  rw [hlat, hlong]
  exact ⟨_, check_pos hbounds, rfl⟩

theorem geocodeRequest_ok_iff {s : String} (h : IsText 1 100 s) :
    (∃ asked, geocodeRequest s s = .ok asked) ↔ 2 ≤ s.length ∧ s.length ≤ 80 := by
  have hs := strip_eq_self h.1
  unfold geocodeRequest
  constructor
  · rintro ⟨asked, hasked⟩
    obtain ⟨hlen, -⟩ := check_eq_ok.1 hasked
    rw [hs] at hlen
    exact ⟨hlen.1.1, hlen.2⟩
  · rintro ⟨hmin, hmax⟩
    refine ⟨_, check_pos ?_⟩
    rw [hs]
    exact ⟨⟨hmin, by omega⟩, hmax⟩

/-- The geocoder is asked for the destination, in the destination. -/
theorem asked_of_geocodeRequest {s : String} (h : IsText 1 100 s) {asked : Provider.GeocodeRequest}
    (hasked : geocodeRequest s s = .ok asked) : asked.address = s ∧ asked.city = some s := by
  obtain ⟨-, rfl⟩ := check_eq_ok.1 hasked
  exact ⟨strip_eq_self h.1, congrArg some (strip_eq_self h.1)⟩

theorem ianaTimezone_ok_iff (model : String) {s t : String} (h : IsText 1 64 s) :
    ianaTimezone N.zoneInfo model s = .ok t ↔ N.zoneInfo s = true ∧ s = t := by
  unfold ianaTimezone
  rw [strip_eq_self h.1, check_eq_ok]
  exact ⟨fun ⟨hboth, ht⟩ => ⟨hboth.2, ht⟩, fun ⟨hz, ht⟩ => ⟨⟨h, hz⟩, ht⟩⟩

section
variable {d : BriefDraws} {request : StructuredTripRequest} {p : ProviderProvenance} {candidate : GeocodeCandidate}

/-- The place of a candidate, and what the later requests read of it. -/
theorem destination_ok (hzone : N.zoneInfo request.timezone.1 = true)
    (haddress : candidate.formattedAddress.1.length ≤ 256) :
    ∃ place, destination N d request p candidate = .ok place ∧ place.displayName.1 = request.destination.1 ∧
      place.timezone = request.timezone.1 ∧
      place.location.coordinateSystem = contractSystem candidate.coordinate.coordinateSystem := by
  obtain ⟨source, hsource, -⟩ := sourceRef_ok (providerSource_fit p "geocode"
    (isIdentifier_stable "source" d.sourceDigest (by decide) (by decide) (by decide)) (by decide))
  obtain ⟨location, hlocation, hsystem⟩ := pointOf_ok (N := N) candidate.coordinate
  have hid := isIdentifier_stable "place" d.placeDigest (by decide) (by decide) (by decide)
  have hname := isText_mono request.destination.2 (by decide : 100 ≤ 256)
  have haddr : IsText 1 256 candidate.formattedAddress.1 :=
    ⟨candidate.formattedAddress.2.1, candidate.formattedAddress.2.2.1, haddress⟩
  have hcode : isCountryCode (strip request.countryCode.1) ∧ ([] : List ProviderPlaceId).length ≤ 16 := by
    have hupper := (Bool.and_eq_true_iff.1 request.countryCode.2).1
    rw [strip_of_isUpper hupper]
    exact ⟨request.countryCode.2, Nat.zero_le _⟩
  have hz := (ianaTimezone_ok_iff "PlaceRef" request.timezone.2).2 ⟨hzone, rfl⟩
  unfold destination
  rw [show " geocode" = " " ++ "geocode" from rfl, hsource, ok_bind, hlocation, ok_bind]
  unfold sourcedPlace
  simp only [identifier_of_isIdentifier hid, text_of_isText hname, optionalText, text_of_isText haddr, hz, ok_bind,
    Except.map]
  rw [check_pos hcode]
  exact ⟨_, rfl, rfl, rfl, hsystem⟩

theorem of_destination_ok {place : SourcedPlace} (h : destination N d request p candidate = .ok place) :
    N.zoneInfo request.timezone.1 = true ∧ candidate.formattedAddress.1.length ≤ 256 := by
  unfold destination at h
  obtain ⟨source, -, h⟩ := bind_eq_ok.1 h
  obtain ⟨location, -, h⟩ := bind_eq_ok.1 h
  unfold sourcedPlace at h
  obtain ⟨placeId, -, h⟩ := bind_eq_ok.1 h
  obtain ⟨name, -, h⟩ := bind_eq_ok.1 h
  obtain ⟨address, haddress, h⟩ := bind_eq_ok.1 h
  obtain ⟨zone, hzone, h⟩ := bind_eq_ok.1 h
  refine ⟨((ianaTimezone_ok_iff _ request.timezone.2).1 hzone).1, ?_⟩
  cases ht : text "PlaceRef" 1 256 candidate.formattedAddress.1 with
  | error e =>
    rw [optionalText, ht] at haddress
    cases haddress
  | ok t =>
    have hlen := text_ok_iff.1 ⟨t, ht⟩
    rw [strip_eq_self candidate.formattedAddress.2.1] at hlen
    exact hlen.2

/-! ## The parts of a brief -/

theorem decimalAmount_strip (a : DecimalAmount) : Planning.decimalAmount (strip a.1) = .ok a := by
  have hstrip := Web.strip_of_isDecimalAmount a.2
  unfold Planning.decimalAmount
  rw [check_pos (by rw [hstrip]; exact a.2)]
  exact congrArg _ (Subtype.ext hstrip)

theorem budget_ok (request : StructuredTripRequest) : ∃ range, budget request = .ok range := by
  have hcurrency : isCurrencyCode (strip request.currency.1) := by
    rw [strip_of_isUpper (Bool.and_eq_true_iff.1 request.currency.2).1]
    exact request.currency.2
  unfold budget
  rw [decimalAmount_strip, ok_bind, decimalAmount_strip, ok_bind, check_pos hcurrency, ok_bind]
  exact ⟨_, check_pos request.coherent.budget⟩

theorem dateWindow_ok (hzone : N.zoneInfo request.timezone.1 = true) :
    ∃ window, dateWindow N request = .ok window ∧ window.timezone = request.timezone.1 := by
  unfold dateWindow
  rw [(ianaTimezone_ok_iff _ request.timezone.2).2 ⟨hzone, rfl⟩, ok_bind]
  exact ⟨_, check_pos request.coherent.ordered, rfl⟩

theorem mapM_text {model : String} (items : List ShortText) :
    (items.mapM fun s => text model 1 256 s.1) = .ok items := by
  induction items with
  | nil => rfl
  | cons s items ih =>
    rw [List.mapM_cons, text_of_isText s.2, ok_bind, ih]
    rfl

theorem travelers_ok (request : StructuredTripRequest) : ∃ group, travelers request = .ok group := by
  unfold travelers
  rw [mapM_text, ok_bind]
  refine ⟨_, check_pos ⟨⟨request.adults.2, request.childrenAges.2.1, request.childrenAges.2.2, request.seniors.2,
    by decide, request.accessibilityNeeds.2⟩, ?_⟩⟩
  have := request.coherent.traveler
  omega

theorem isIdentifier_preferenceId (d : BriefDraws) {index : ℕ} (h : index < 10 ^ 40) :
    isIdentifier (preferenceId d index) := by
  have hindex := Planning.length_toString_le (by decide) h
  have htoken := (d.preference index).text_length (by decide)
  have hlen : (toString index ++ ("_" ++ newId "pref" (d.preference index))).length = (toString index).length + 30 := by
    simp only [newId, String.length_append, htoken]
    rfl
  have hkind : "preference_".length = 11 := rfl
  unfold preferenceId
  rw [String.append_assoc, String.append_assoc]
  refine isIdentifier_append (by decide) (by decide) ?_ (by omega) (by omega)
  exact all_append (all_toString index) (all_append (by decide) (all_append (by decide) (all_hex _)))

theorem preferences_ok (d : BriefDraws) (items : List ShortText) (index : ℕ) (h : index + items.length ≤ 10 ^ 40) :
    ∃ ps, preferences d index items = .ok ps ∧ ps.length = items.length := by
  induction items generalizing index with
  | nil => exact ⟨[], rfl, rfl⟩
  | cons s items ih =>
    rw [List.length_cons] at h
    obtain ⟨ps, hps, hlen⟩ := ih (index + 1) (by omega)
    have hid := isIdentifier_preferenceId d (show index < 10 ^ 40 by omega)
    rw [preferences, text_of_isText s.2, ok_bind, newPreference, check_pos hid, ok_bind, hps]
    exact ⟨_, rfl, congrArg (· + 1) hlen⟩

theorem isText_dateDescription (request : StructuredTripRequest) : IsText 1 2000 (dateDescription request) :=
  (⟨request.startDate, request.endDate, request.coherent.ordered, request.coherent.window⟩ :
    Planning.ReplanDatePatch).isText

theorem isText_budgetDescription (request : StructuredTripRequest) : IsText 1 2000 (budgetDescription request) :=
  Planning.isText_budgetDescription
    ⟨request.budgetMin, request.budgetMax, request.currency, .total, request.coherent.budget⟩

theorem constraints_ok (d : BriefDraws) (request : StructuredTripRequest) :
    ∃ specs, constraints d request = .ok specs ∧ specs.length = 2 := by
  unfold constraints newConstraint
  rw [check_pos ⟨Planning.isIdentifier_newId (by decide) (by decide) (by decide), isText_dateDescription request⟩,
    ok_bind, check_pos ⟨Planning.isIdentifier_newId (by decide) (by decide) (by decide),
      isText_budgetDescription request⟩, ok_bind]
  exact ⟨_, rfl, rfl⟩

theorem tripBrief_ok (d : BriefDraws) (place : SourcedPlace) (source : SourceRef) (window : TripDateRange)
    (group : TravelerGroup) (range : MoneyRange) {ps : List TravelPreference} {specs : List ConstraintSpec}
    (hps : ps.length ≤ 50) (hspecs : specs.length ≤ 100) (hzone : place.timezone = window.timezone) :
    ∃ b, tripBrief d place source window group range ps specs = .ok b ∧ b.destination = place := by
  obtain ⟨actor, hactor⟩ := Planning.actor_ok d.actorDigest
  unfold tripBrief
  rw [hactor, ok_bind]
  refine ⟨_, check_pos ⟨Planning.isIdentifier_newId (by decide) (by decide) (by decide), rfl, le_rfl, ?_, hps, hspecs,
    Nat.zero_le _, hzone⟩, rfl⟩
  show IsText 1 2000 briefReason
  decide +kernel

/-! ## The brief -/

/-- The brief of a candidate. -/
theorem briefOf_ok (now : Time) (hzone : N.zoneInfo request.timezone.1 = true)
    (haddress : candidate.formattedAddress.1.length ≤ 256) :
    ∃ b, briefOf N d now request p candidate = .ok b ∧ b.destination.displayName.1 = request.destination.1 ∧
      b.destination.location.coordinateSystem = contractSystem candidate.coordinate.coordinateSystem := by
  obtain ⟨user, huser, -⟩ := sourceRef_ok (userSource_fit d now)
  obtain ⟨place, hplace, hname, htimezone, hsystem⟩ := destination_ok (d := d) (p := p) hzone haddress
  obtain ⟨range, hrange⟩ := budget_ok request
  obtain ⟨window, hwindow, hwzone⟩ := dateWindow_ok hzone
  obtain ⟨group, hgroup⟩ := travelers_ok request
  have hwishes := request.preferences.2
  obtain ⟨ps, hps, hpslen⟩ := preferences_ok d request.preferences.1 0 (by omega)
  obtain ⟨specs, hspecs, hspecslen⟩ := constraints_ok d request
  obtain ⟨b, hb, rfl⟩ := tripBrief_ok d place user window group range (show ps.length ≤ 50 by omega)
    (show specs.length ≤ 100 by omega) (htimezone.trans hwzone.symm)
  unfold briefOf
  simp only [huser, hplace, hrange, hwindow, hgroup, hps, hspecs, ok_bind]
  exact ⟨b, hb, hname, hsystem⟩

theorem of_briefOf_ok {now : Time} {b : SourcedBrief} (h : briefOf N d now request p candidate = .ok b) :
    N.zoneInfo request.timezone.1 = true ∧ candidate.formattedAddress.1.length ≤ 256 := by
  unfold briefOf at h
  obtain ⟨user, -, h⟩ := bind_eq_ok.1 h
  obtain ⟨place, hplace, -⟩ := bind_eq_ok.1 h
  exact of_destination_ok hplace

/-! ## Research -/

theorem providerCoordinate_ok {point : GeoPoint} {system : Provider.CoordinateSystem}
    (h : point.coordinateSystem = contractSystem system) : ∃ x, providerCoordinate N point = .ok x := by
  have hlong := N.float_between point.longitude
  have hlat := N.float_between point.latitude
  have hbounds : (-180 ≤ N.float point.longitude ∧ N.float point.longitude ≤ 180) ∧
      -90 ≤ N.float point.latitude ∧ N.float point.latitude ≤ 90 := by
    refine ⟨⟨?_, ?_⟩, ?_, ?_⟩
    · exact_mod_cast (hlong (-180) (by decide)).2 (by exact_mod_cast point.longitude_le.1)
    · exact_mod_cast (hlong 180 (by decide)).1 (by exact_mod_cast point.longitude_le.2)
    · exact_mod_cast (hlat (-90) (by decide)).2 (by exact_mod_cast point.latitude_le.1)
    · exact_mod_cast (hlat 90 (by decide)).1 (by exact_mod_cast point.latitude_le.2)
  unfold providerCoordinate
  cases system with
  | wgs84 =>
    rw [h]
    exact ⟨_, check_pos hbounds⟩
  | gcj02 =>
    rw [h]
    exact ⟨_, check_pos hbounds⟩

end

section
variable {query scope revision : String} {topK : ℕ} {now : Time}

theorem researchQuery_ok (scope revision : String) (topK : ℕ) (now : Time) (hquery : IsText 1 2000 query)
    (hscope : IsText 1 128 scope) (hrevision : IsText 1 128 revision) (htop : 1 ≤ topK ∧ topK ≤ 20) : ∃ q,
      researchQuery query scope revision topK now = .ok q := by
  unfold researchQuery
  rw [text_of_isText hquery, ok_bind, text_of_isText hscope, ok_bind, text_of_isText hrevision, ok_bind]
  exact ⟨_, check_pos htop⟩

theorem length_of_researchQuery (hquery : isStripped query.toList) {q : Knowledge.ResearchQuery ℚ}
    (h : researchQuery query scope revision topK now = .ok q) : query.length ≤ 2000 := by
  unfold researchQuery at h
  obtain ⟨t, ht, -⟩ := bind_eq_ok.1 h
  have hlen := text_ok_iff.1 ⟨t, ht⟩
  rw [strip_eq_self hquery] at hlen
  exact hlen.2

theorem agentInvocation_ok_iff (goal : Message) (contracts : List String)
    (hcontracts : 1 ≤ contracts.length ∧ contracts.length ≤ 8) :
    (∃ invocation, agentInvocation goal.1 contracts = .ok invocation) ↔ goal.1.length ≤ 4000 := by
  unfold agentInvocation
  constructor
  · rintro ⟨invocation, h⟩
    obtain ⟨t, ht, -⟩ := bind_eq_ok.1 h
    have hlen := text_ok_iff.1 ⟨t, ht⟩
    rw [strip_eq_self goal.2.1] at hlen
    exact hlen.2
  · intro hlen
    rw [text_of_isText ⟨goal.2.1, goal.2.2.1, hlen⟩, ok_bind]
    exact ⟨_, check_pos hcontracts⟩

theorem placeSearchRequest_ok (query city : String) (center : Option Provider.Coordinate) (limit : ℕ)
    (hquery : 1 ≤ (strip query).length ∧ (strip query).length ≤ 100) (hcity : IsText 0 80 city)
    (hlimit : 1 ≤ limit ∧ limit ≤ 25) : ∃ search, placeSearchRequest query city center limit = .ok search := by
  obtain ⟨t, ht⟩ := (@text_ok_iff "PlaceSearchRequest" 1 100 query).2 hquery
  unfold placeSearchRequest
  rw [ht, ok_bind, text_of_isText hcity, ok_bind]
  exact ⟨_, check_pos hlimit⟩

theorem length_of_placeSearchRequest {city : String} {center : Option Provider.Coordinate} {limit : ℕ}
    {search : Provider.PlaceSearchRequest} (hcity : isStripped city.toList)
    (h : placeSearchRequest query city center limit = .ok search) : city.length ≤ 80 := by
  unfold placeSearchRequest at h
  obtain ⟨t, -, h⟩ := bind_eq_ok.1 h
  obtain ⟨t', ht', -⟩ := bind_eq_ok.1 h
  have hlen := text_ok_iff.1 ⟨t', ht'⟩
  rw [strip_eq_self hcity] at hlen
  exact hlen.2

end

/-! ## Plans -/

/-- The lengths and the names that the models behind the intake ask of a plan. -/
structure PlanFits (N : Numbers) (geocode : Provider.GeocodeRequest → GeocodeResult) (request : StructuredTripRequest)
    (message : Message) : Prop where
  /-- `GeocodeRequest` -/
  destination : 2 ≤ request.destination.1.length ∧ request.destination.1.length ≤ 80
  /-- `PlaceRef` and `TripDateRange` -/
  timezone : N.zoneInfo request.timezone.1 = true
  /-- `PlaceRef`, of the first candidate -/
  address : ∀ asked : Provider.GeocodeRequest, asked.address = request.destination.1 →
    asked.city = some request.destination.1 →
    ∀ candidate ∈ (geocode asked).candidates.head?, candidate.formattedAddress.1.length ≤ 256
  /-- `ResearchQuery` -/
  query : request.destination.1.length + 1 + message.1.length ≤ 2000

section
variable {geocode : Provider.GeocodeRequest → GeocodeResult} {d : BriefDraws} {now : Time}
  {directive : Option { s : String // IsText 1 32 s }} {request : StructuredTripRequest} {message : Message}

theorem build_ok (d : BriefDraws) (now : Time) (hfound : ∀ asked, (geocode asked).candidates ≠ [])
    (hdestination : 2 ≤ request.destination.1.length ∧ request.destination.1.length ≤ 80)
    (hzone : N.zoneInfo request.timezone.1 = true)
    (haddress : ∀ asked : Provider.GeocodeRequest, asked.address = request.destination.1 →
      asked.city = some request.destination.1 →
      ∀ candidate ∈ (geocode asked).candidates.head?, candidate.formattedAddress.1.length ≤ 256) :
    ∃ b system, build N geocode d now request = .ok b ∧ b.destination.displayName.1 = request.destination.1 ∧
      b.destination.location.coordinateSystem = contractSystem system := by
  obtain ⟨asked, hasked⟩ := (geocodeRequest_ok_iff request.destination.2).2 hdestination
  unfold build
  rw [hasked]
  simp only
  cases hc : (geocode asked).candidates with
  | nil => exact absurd hc (hfound asked)
  | cons candidate rest =>
    obtain ⟨haddr, hcity⟩ := asked_of_geocodeRequest request.destination.2 hasked
    have hshort := haddress asked haddr hcity candidate (by rw [hc]; rfl)
    obtain ⟨b, hb, hname, hsystem⟩ := briefOf_ok (d := d) (p := (geocode asked).provenance) now hzone hshort
    simp only [hb]
    exact ⟨b, _, rfl, hname, hsystem⟩

theorem of_build_ok {b : SourcedBrief} (h : build N geocode d now request = .ok b) :
    (2 ≤ request.destination.1.length ∧ request.destination.1.length ≤ 80) ∧ N.zoneInfo request.timezone.1 = true ∧
      ∀ asked : Provider.GeocodeRequest,
        asked.address = request.destination.1 → asked.city = some request.destination.1 →
        ∀ candidate ∈ (geocode asked).candidates.head?, candidate.formattedAddress.1.length ≤ 256 := by
  unfold build at h
  cases hasked : geocodeRequest request.destination.1 request.destination.1 with
  | error e => rw [hasked] at h; cases h
  | ok asked =>
    rw [hasked] at h
    simp only at h
    cases hc : (geocode asked).candidates with
    | nil => rw [hc] at h; cases h
    | cons candidate rest =>
      rw [hc] at h
      simp only at h
      cases hb : briefOf N d now request (geocode asked).provenance candidate with
      | error e => rw [hb] at h; cases h
      | ok b' =>
        obtain ⟨hzone, haddress⟩ := of_briefOf_ok hb
        refine ⟨(geocodeRequest_ok_iff request.destination.2).1 ⟨asked, hasked⟩, hzone, ?_⟩
        intro asked' haddr' hcity' candidate' hcandidate
        obtain ⟨haddr, hcity⟩ := asked_of_geocodeRequest request.destination.2 hasked
        obtain rfl : asked' = asked := by
          obtain ⟨address', city', hlen'⟩ := asked'
          obtain ⟨address, city, hlen⟩ := asked
          simp only at haddr hcity haddr' hcity'
          subst haddr hcity haddr' hcity'
          rfl
        rw [hc] at hcandidate
        cases hcandidate
        exact haddress

theorem planInvocations_ok (message : Message) (hlen : message.1.length ≤ 4000) : ∃ invocations,
    planInvocations message.1 = .ok invocations := by
  have hgoal : ∀ contracts : List String, 1 ≤ contracts.length ∧ contracts.length ≤ 8 →
      ∃ invocation, agentInvocation message.1 contracts = .ok invocation := fun _ hcontracts =>
    (agentInvocation_ok_iff message _ hcontracts).2 hlen
  have hown : ∀ (goal : String) (contracts : List String),
    IsText 1 4000 goal → 1 ≤ contracts.length ∧ contracts.length ≤ 8 →
      ∃ invocation, agentInvocation goal contracts = .ok invocation := fun goal _ htext hcontracts => by
    unfold agentInvocation
    rw [text_of_isText htext, ok_bind]
    exact ⟨_, check_pos hcontracts⟩
  obtain ⟨brief, hbrief⟩ := hgoal ["TripBrief@1"] (by decide)
  obtain ⟨plan, hplan⟩ := hgoal ["TripBrief@1", "EvidenceBundle@1", "CandidateSet@1"] (by decide)
  obtain ⟨check, hcheck⟩ := hown "独立校验候选行程，不修改方案" ["TripBrief@1", "ItineraryPlan@1", "EvidenceBundle@1"]
    (by decide +kernel) (by decide)
  obtain ⟨review, hreview⟩ := hown "审查证据覆盖、来源冲突、假设与软风险，不修改方案"
    ["TripBrief@1", "ItineraryPlan@1", "EvidenceBundle@1", "ConstraintReport@1"] (by decide +kernel) (by decide)
  refine ⟨[brief, plan, check, review], ?_⟩
  simp only [planInvocations, planDispatches, List.mapM_cons, List.mapM_nil, hbrief, hplan, hcheck, hreview, ok_bind]
  rfl

/-- The query of research: the destination and the message, with a blank between them. -/
theorem length_query (destination message : String) :
    (destination ++ " " ++ message).length = destination.length + 1 + message.length := by
  rw [String.length_append, String.length_append]
  rfl

theorem researchRequests_ok (directive : Option { s : String // IsText 1 32 s }) (now : Time) {b : SourcedBrief}
    {system : Provider.CoordinateSystem} (hname : b.destination.displayName.1 = request.destination.1)
    (hsystem : b.destination.location.coordinateSystem = contractSystem system)
    (h : PlanFits N geocode request message) : ∃ requests,
      researchRequests N directive now b message.1 = .ok requests := by
  have hname' : b.brief.destination.displayName.1 = request.destination.1 := by
    rw [b.located]
    exact hname
  have hquery : IsText 1 2000 (request.destination.1 ++ " " ++ message.1) :=
    isText_between " " request.destination.2 message.2 (by
      have := h.query
      have : " ".length = 1 := rfl
      omega)
  obtain ⟨q, hq⟩ := researchQuery_ok "travel.destination" (pyTake 128 defaultCorpusRevision)
    (min 20 (max 3 defaultTopK)) now
    hquery (by decide +kernel) (by decide +kernel) (by decide)
  obtain ⟨center, hcenter⟩ := providerCoordinate_ok (N := N) hsystem
  have hcity : IsText 0 80 request.destination.1 := ⟨request.destination.2.1, Nat.zero_le _, h.destination.2⟩
  have hsearch : ∀ query : String, 1 ≤ (strip query).length ∧ (strip query).length ≤ 100 →
      ∃ search, placeSearchRequest query request.destination.1 (some center) (min 20 (max 3 defaultTopK)) =
        .ok search :=
    fun _ hplace => placeSearchRequest_ok _ _ _ _ hplace hcity (by decide)
  unfold researchRequests
  rw [hname', hq, ok_bind]
  cases directive with
  | none =>
    obtain ⟨search, hsearch⟩ := hsearch (pyTake 100 "景点") (by decide +kernel)
    simp only [hcenter, ok_bind, hsearch]
    exact ⟨_, rfl⟩
  | some d =>
    obtain ⟨search, hsearch⟩ := hsearch d.1 (by
      rw [strip_eq_self d.2.1]
      exact ⟨d.2.2.1, d.2.2.2.trans (by decide)⟩)
    simp only [hcenter, ok_bind, hsearch]
    exact ⟨_, rfl⟩

theorem length_of_researchRequests {b : SourcedBrief} (hname : b.destination.displayName.1 = request.destination.1)
    {requests : Knowledge.ResearchQuery ℚ × Provider.PlaceSearchRequest}
    (h : researchRequests N directive now b message.1 = .ok requests) :
    request.destination.1.length + 1 + message.1.length ≤ 2000 := by
  have hname' : b.brief.destination.displayName.1 = request.destination.1 := by
    rw [b.located]
    exact hname
  unfold researchRequests at h
  obtain ⟨q, hq, -⟩ := bind_eq_ok.1 h
  rw [hname'] at hq
  have hstripped : isStripped (request.destination.1 ++ " " ++ message.1).toList := by
    rw [String.toList_append, String.toList_append]
    exact isStripped_between _ request.destination.2.1 message.2.1 (ne_nil_of_isText request.destination.2)
      (ne_nil_of_isText message.2)
  rw [← length_query]
  exact length_of_researchQuery hstripped hq

/-- A plan passes the models behind the intake if and only if it fits. -/
theorem planInputs_ok_iff (hfound : ∀ asked, (geocode asked).candidates ≠ []) :
    (∃ inputs, planInputs N geocode d directive now request message = .ok inputs) ↔
      PlanFits N geocode request message := by
  constructor
  · rintro ⟨inputs, h⟩
    unfold planInputs at h
    cases hb : build N geocode d now request with
    | error e => rw [hb] at h; cases h
    | ok b =>
      rw [hb] at h
      simp only at h
      cases hi : planInputsOf N directive now message b with
      | error e => rw [hi] at h; cases h
      | ok inputs' =>
        obtain ⟨hdestination, hzone, haddress⟩ := of_build_ok hb
        obtain ⟨b', system, hb', hname, -⟩ := build_ok d now hfound hdestination hzone haddress
        obtain rfl : b = b' := by
          rw [hb] at hb'
          exact Except.ok.inj hb'
        unfold planInputsOf at hi
        obtain ⟨invocations, -, hi⟩ := bind_eq_ok.1 hi
        obtain ⟨requests, hrequests, -⟩ := bind_eq_ok.1 hi
        exact ⟨hdestination, hzone, haddress, length_of_researchRequests hname hrequests⟩
  · intro h
    obtain ⟨b, system, hb, hname, hsystem⟩ := build_ok d now hfound h.destination h.timezone h.address
    obtain ⟨invocations, hinvocations⟩ := planInvocations_ok message (by have := h.query; omega)
    obtain ⟨requests, hrequests⟩ := researchRequests_ok directive now hname hsystem h
    unfold planInputs planInputsOf
    rw [hb]
    simp only [hinvocations, ok_bind, hrequests]
    exact ⟨_, rfl⟩

end

/-! ## Questions -/

/-- What the contract of a command checks of its locale and its hint. -/
theorem fields_of_askPayload {payload : Obj} {p : AskPayload} (h : askPayload payload = .ok p) :
    (payload.get? "locale" = none ∨ ∃ s, payload.get? "locale" = some (.str s) ∧ IsText 2 32 (strip s)) ∧
      ∀ s, payload.get? "destination_hint" = some (.str s) → IsText 1 100 (strip s) := by
  unfold askPayload at h
  simp only [Checked.seq_eq_ok] at h
  obtain ⟨g, u, ⟨g, hint, ⟨g, locale, ⟨g, title, hg, -, rfl⟩, hlocale, rfl⟩, hhint, rfl⟩, -, -⟩ := h
  constructor
  · cases hv : payload.get? "locale" with
    | none => exact .inl rfl
    | some v =>
      rw [optional_eq hv] at hlocale
      cases v with
      | str s =>
        have hs := boundedText_str.1 hlocale
        exact .inr ⟨s, rfl, hs ▸ locale.2⟩
      | _ => cases hlocale
  · intro s hs
    rw [optional_eq hs] at hhint
    change (boundedText "destination_hint" 1 100 (.str s)).map some = .ok hint at hhint
    cases hb : boundedText "destination_hint" 1 100 (.str s) with
    | error e => rw [hb] at hhint; cases hhint
    | ok t => exact boundedText_str.1 hb ▸ t.2

/-- The lengths that the models behind the intake ask of a question. -/
structure AskFits (message : Message) (payload : Obj) : Prop where
  /-- `TravelQuestion` and `ResearchQuery` -/
  question : message.1.length ≤ 2000
  /-- `TravelQuestion`, of what is left of the locale when it is cut -/
  locale : ∀ s, payload.get? "locale" = some (.str s) → 2 ≤ (strip (pyTake 32 s)).length
  /-- `PlaceSearchRequest` -/
  hint : ∀ s, payload.get? "destination_hint" = some (.str s) → (pyStrip s).length ≤ 80

theorem length_pyTake_le (n : ℕ) (s : String) : (pyTake n s).length ≤ n := by
  rw [pyTake, String.length_ofList]
  exact List.length_take_le n _

/-- The beginning of a text is not blank. -/
theorem one_le_length_strip_pyTake {most n : ℕ} {s : String} (h : IsText 1 most s) (hn : 1 ≤ n) :
    1 ≤ (strip (pyTake n s)).length := by
  have hne := ne_nil_of_isText h
  cases hs : s.toList with
  | nil => exact absurd hs hne
  | cons c cs =>
    have hc : isWhitespace c = false := by
      have hfirst := h.1
      rw [hs] at hfirst
      simp only [isStripped, List.head?_cons, Option.all_some, Bool.and_eq_true, Bool.not_eq_true'] at hfirst
      exact hfirst.1
    have hmem : c ∈ s.toList.take n := by
      rw [hs]
      cases n with
      | zero => cases hn
      | succ n => exact List.mem_cons_self
    have hkept : stripEnds isWhitespace (s.toList.take n) ≠ [] := stripEnds_ne_nil_iff.2 ⟨c, hmem, hc⟩
    rw [← List.length_pos_iff] at hkept
    show 1 ≤ (String.ofList _).length
    rw [String.length_ofList, pyTake, String.toList_ofList]
    exact hkept

theorem hintOf_eq_some {payload : Obj} {hint : String} :
    hintOf payload = some hint ↔ ∃ s, payload.get? "destination_hint" = some (.str s) ∧ pyStrip s ≠ "" ∧
      pyStrip s = hint := by
  unfold hintOf
  split
  · next s hs =>
    rw [hs]
    split_ifs with hempty
    · constructor
      · intro h
        cases h
      · rintro ⟨t, ⟨rfl⟩, hne, -⟩
        exact absurd hempty hne
    · rw [Option.some.injEq]
      constructor
      · intro h
        exact ⟨s, rfl, hempty, h⟩
      · rintro ⟨t, ⟨rfl⟩, -, h⟩
        exact h
  · next hother =>
    constructor
    · intro h
      cases h
    · rintro ⟨s, hs, -⟩
      exact absurd hs (hother s)

/-- The locale of an accepted payload, cut. -/
theorem locale_iff {R : Readers} {payload : Obj} {p : AskPayload} (h : askPayload payload = .ok p) :
    2 ≤ (strip (localeOf R payload)).length ↔
      ∀ s, payload.get? "locale" = some (.str s) → 2 ≤ (strip (pyTake 32 s)).length := by
  obtain hnone | ⟨s, hs, htext⟩ := (fields_of_askPayload h).1
  · have hdefault : localeOf R payload = pyTake 32 "zh-CN" := by rw [localeOf, hnone]
    rw [hdefault, hnone]
    refine ⟨fun _ s hs => (by cases hs), fun _ => (by decide +kernel)⟩
  · have hne : s ≠ "" := by
      rintro rfl
      exact absurd htext.2.1 (by decide)
    have hlocale : localeOf R payload = pyTake 32 s := by
      have hfalsy : falsy (.str s) = false := beq_eq_false_iff_ne.2 hne
      rw [localeOf, hs]
      simp only [hfalsy]
      rfl
    rw [hlocale, hs]
    refine ⟨fun hlen t ht => ?_, fun hall => hall s rfl⟩
    cases ht
    exact hlen

/-- The hint of an accepted payload is a text. -/
theorem isText_hint {payload : Obj} {p : AskPayload} (h : askPayload payload = .ok p) :
    ∀ hint ∈ hintOf payload, IsText 1 100 hint := by
  intro hint hhint
  obtain ⟨s, hs, hne, rfl⟩ := hintOf_eq_some.1 hhint
  have htext := (fields_of_askPayload h).2 s hs
  refine ⟨isStripped_pyStrip s, ?_, ?_⟩
  · rw [Nat.one_le_iff_ne_zero, Ne, String.length_eq_zero_iff]
    exact hne
  · have hstrip := stripEnds_stripEnds (p := isPySpace) (q := isWhitespace)
      (fun _ => isPySpace_of_isWhitespace) s.toList
    have hle := length_stripEnds_le (p := isPySpace) (stripEnds isWhitespace s.toList)
    rw [hstrip] at hle
    have hmax := htext.2.2
    rw [strip, Planning.stripBy, String.length_ofList] at hmax
    rw [pyStrip_eq_stripBy, Planning.stripBy, String.length_ofList]
    exact le_trans hle hmax

section
variable {R : Readers} {d : QuestionDraws} {now : Time} {message : Message} {payload : Obj}

theorem askingActor_ok (digest : Hex 24) : ∃ actor, askingActor digest = .ok actor := by
  have hdigest := digest.text_length (by decide)
  have hkind : "user:".length = 5 := rfl
  have hid : isIdentifier ("user:" ++ digest.text) :=
    isIdentifier_append (by decide) (by decide) (all_hex digest) (by omega) (by omega)
  unfold askingActor
  rw [identifier_of_isIdentifier hid]
  exact ⟨_, rfl⟩

/-- Identifiers are lower case. -/
theorem toLower_of_isIdentifierChar {c : Char} (h : isIdentifierChar c) : c.toLower = c := by
  unfold Char.toLower
  refine dif_neg ?_
  rintro ⟨hmin, hmax⟩
  simp only [isIdentifierChar, Char.isDigit, Bool.or_eq_true, Bool.and_eq_true, decide_eq_true_eq,
    beq_iff_eq, ge_iff_le, UInt32.le_iff_toNat_le] at h hmin hmax
  have hA : ('A'.val).toNat = 65 := rfl
  have hZ : ('Z'.val).toNat = 90 := rfl
  have h0 : ('0'.val).toNat = 48 := rfl
  have h9 : ('9'.val).toNat = 57 := rfl
  have ha : ('a'.val).toNat = 97 := rfl
  rcases h with (((h | h) | rfl) | rfl) | rfl
  · have hlow := (Bool.and_eq_true_iff.1 h).1
    rw [decide_eq_true_eq, ge_iff_le, UInt32.le_iff_toNat_le] at hlow
    omega
  · omega
  · revert hmax; decide
  · revert hmin; decide
  · revert hmin; decide

theorem pyLower_of_all {s : String} (h : s.toList.all isIdentifierChar) : pyLower s = s := by
  have hmap : s.toList.map Char.toLower = s.toList := by
    conv_rhs => rw [← List.map_id s.toList]
    exact List.map_congr_left fun c hc => toLower_of_isIdentifierChar (List.all_eq_true.1 h c hc)
  rw [pyLower, hmap, String.ofList_toList]

theorem travelerSource_fit (d : QuestionDraws) (now : Time) : (travelerSource d now).Fit where
  sourceId := by
    have hrun : isIdentifier (newPublicId "run" d.run.1 d.run.2) :=
      Planning.isIdentifier_newPublicId _ _ (by decide) (by decide) (by decide)
    simp only [isIdentifier, Bool.and_eq_true, decide_eq_true_eq] at hrun
    obtain ⟨⟨⟨-, hall⟩, hmin⟩, hmax⟩ := hrun
    show isIdentifier ("source:user:" ++ pyTake 96 (pyLower (newPublicId "run" d.run.1 d.run.2)))
    rw [pyLower_of_all hall]
    refine isIdentifier_append (by decide) (by decide) ?_ ?_ ?_
    · rw [pyTake, String.toList_ofList]
      exact List.all_eq_true.2 fun c hc => List.all_eq_true.1 hall c (List.mem_of_mem_take hc)
    · have hkind : "source:user:".length = 12 := rfl
      omega
    · have hkind : "source:user:".length = 12 := rfl
      have htake := length_pyTake_le 96 (newPublicId "run" d.run.1 d.run.2)
      omega
  name := by
    show IsText 1 256 "旅行者提问"
    decide +kernel
  version := by
    show IsText 1 128 "1"
    decide
  uri := rfl
  publisher _ h := by cases h
  license := rfl

theorem questionOf_ok (R : Readers) (d : QuestionDraws) (now : Time) {p : AskPayload}
    (hp : askPayload payload = .ok p) (hmessage : message.1.length ≤ 2000)
    (hlocale : 2 ≤ (strip (localeOf R payload)).length) :
    ∃ question, questionOf R d now message payload = .ok question ∧ question.question.1 = message.1 ∧
      question.destinationHint.map Subtype.val = hintOf payload := by
  obtain ⟨actor, hactor⟩ := askingActor_ok d.actorDigest
  obtain ⟨source, hsource, hkind⟩ := sourceRef_ok (travelerSource_fit d now)
  have hid : isIdentifier (newPublicId "question" d.question.1 d.question.2) :=
    Planning.isIdentifier_newPublicId _ _ (by decide) (by decide) (by decide)
  have hreason : IsText 1 2000 "User submitted a lightweight travel question" := by decide +kernel
  have hquestion : IsText 1 2000 message.1 := ⟨message.2.1, message.2.2.1, hmessage⟩
  obtain ⟨locale, hlocale⟩ := (@text_ok_iff "TravelQuestion" 2 32 (localeOf R payload)).2
    ⟨hlocale, (length_strip_le _).trans (length_pyTake_le 32 _)⟩
  unfold questionOf
  rw [hactor, ok_bind, hsource, ok_bind]
  unfold travelQuestion
  simp only [identifier_of_isIdentifier hid, text_of_isText hreason, text_of_isText hquestion, ok_bind]
  rw [hlocale, ok_bind]
  cases hhint : hintOf payload with
  | none =>
    simp only [optionalText, ok_bind]
    exact ⟨_, check_pos hkind, rfl, rfl⟩
  | some hint =>
    have htext := isText_mono (isText_hint hp hint hhint) (by decide : 100 ≤ 256)
    simp only [optionalText, text_of_isText htext, Except.map, ok_bind]
    exact ⟨_, check_pos hkind, rfl, rfl⟩

theorem of_questionOf_ok {question : TravelQuestion} (h : questionOf R d now message payload = .ok question) :
    message.1.length ≤ 2000 ∧ 2 ≤ (strip (localeOf R payload)).length := by
  unfold questionOf at h
  obtain ⟨actor, -, h⟩ := bind_eq_ok.1 h
  obtain ⟨source, -, h⟩ := bind_eq_ok.1 h
  unfold travelQuestion at h
  obtain ⟨artifactId, -, h⟩ := bind_eq_ok.1 h
  obtain ⟨reason, -, h⟩ := bind_eq_ok.1 h
  obtain ⟨text, htext, h⟩ := bind_eq_ok.1 h
  obtain ⟨locale, hlocale, -⟩ := bind_eq_ok.1 h
  have hquestion := text_ok_iff.1 ⟨text, htext⟩
  rw [strip_eq_self message.2.1] at hquestion
  exact ⟨hquestion.2, (text_ok_iff.1 ⟨locale, hlocale⟩).1⟩

/-- A question passes the models behind the intake if and only if it fits. -/
theorem askInputs_ok_iff {p : AskPayload} (hp : askPayload payload = .ok p) :
    (∃ inputs, askInputs R d now message payload = .ok inputs) ↔ AskFits message payload := by
  constructor
  · rintro ⟨inputs, h⟩
    unfold askInputs at h
    obtain ⟨question, hquestion, h⟩ := bind_eq_ok.1 h
    obtain ⟨invocation, -, h⟩ := bind_eq_ok.1 h
    obtain ⟨query, -, h⟩ := bind_eq_ok.1 h
    obtain ⟨search, hsearch, -⟩ := bind_eq_ok.1 h
    obtain ⟨hshort, hlocale⟩ := of_questionOf_ok hquestion
    refine ⟨hshort, (locale_iff hp).1 hlocale, fun s hs => ?_⟩
    by_cases hempty : pyStrip s = ""
    · rw [hempty]
      exact Nat.zero_le _
    have hhint := hintOf_eq_some.2 ⟨s, hs, hempty, rfl⟩
    obtain ⟨question', hquestion', -, hfield⟩ := questionOf_ok R d now hp hshort hlocale
    obtain rfl : question = question' := by
      rw [hquestion] at hquestion'
      exact Except.ok.inj hquestion'
    rw [hhint] at hfield
    unfold hintSearch at hsearch
    cases hq : question.destinationHint with
    | none => rw [hq] at hfield; cases hfield
    | some t =>
      rw [hq] at hfield hsearch
      have ht : t.1 = pyStrip s := Option.some.inj hfield
      simp only at hsearch
      cases hs : placeSearchRequest (pyTake 100 question.question.1) t.1 none 5 with
      | error e => rw [hs] at hsearch; cases hsearch
      | ok search => exact ht ▸ length_of_placeSearchRequest t.2.1 hs
  · intro h
    obtain ⟨question, hquestion, hmessage, hhint⟩ := questionOf_ok R d now hp h.question
      ((locale_iff hp).2 h.locale)
    have hinvocation := (agentInvocation_ok_iff message ["TravelQuestion@1"] (by decide)).2
      (h.question.trans (by decide))
    obtain ⟨invocation, hinvocation⟩ := hinvocation
    obtain ⟨query, hquery⟩ := researchQuery_ok "travel.answer" defaultCorpusRevision 6 now
      question.question.2 (by decide +kernel) (by decide +kernel) (by decide)
    have hsearch : ∃ search, hintSearch question = .ok search := by
      unfold hintSearch
      cases hq : question.destinationHint with
      | none => exact ⟨_, rfl⟩
      | some t =>
        rw [hq] at hhint
        obtain ⟨s, hs, -, hst⟩ := hintOf_eq_some.1 hhint.symm
        have hlen : t.1.length ≤ 80 := hst ▸ h.hint s hs
        obtain ⟨search, hsearch⟩ := placeSearchRequest_ok (pyTake 100 question.question.1) t.1 none 5
          ⟨one_le_length_strip_pyTake question.question.2 (by decide),
            (length_strip_le _).trans (length_pyTake_le 100 _)⟩ ⟨t.2.1, Nat.zero_le _, hlen⟩ (by decide)
        simp only [hsearch]
        exact ⟨_, rfl⟩
    obtain ⟨search, hsearch⟩ := hsearch
    unfold askInputs
    simp only [hquestion, hinvocation, hquery, hsearch, ok_bind]
    exact ⟨_, rfl⟩

end

/-! ## Everything that is accepted -/

/-- **What the intake accepts, and what the models behind it accept.**  A request of the form is accepted by the
    interface exactly if no text of it is stripped away there; a plan and a question pass every model behind the
    intake exactly if they fit. -/
theorem intake_accepts_iff (R : Readers) (N : Numbers) :
    (∀ upper draft today request, Web.buildTripRequest upper draft today = .ok request →
      ((∃ r, StructuredTripRequest.modelValidate R request.json = .ok r) ↔ DraftFits draft)) ∧
    (∀ geocode d directive now request message, (∀ asked, (geocode asked).candidates ≠ []) →
      ((∃ inputs, planInputs N geocode d directive now request message = .ok inputs) ↔
        PlanFits N geocode request message)) ∧
    ∀ payload p d now message, askPayload payload = .ok p →
      ((∃ inputs, askInputs R d now message payload = .ok inputs) ↔ AskFits message payload) :=
  ⟨fun _ _ _ _ h => modelValidate_json_iff h, fun _ _ _ _ _ _ hfound => planInputs_ok_iff hfound,
    fun _ _ _ _ _ hp => askInputs_ok_iff hp⟩

namespace Sample

/-- Floats as whole degrees. -/
def wholeDegrees : FloatText where
  repr q := (toString ⌊q⌋).toList ++ ['.', '0']
  oneLine q := Json.OneLine.append (Json.toString_int_oneLine ⌊q⌋) (by decide)

/-- The degrees of a text. -/
def degrees (s : String) : Option ℚ :=
  match s.toList with
  | '-' :: ds => some (-(Nat.ofDigitChars 10 (ds.takeWhile Char.isDigit) 0 : ℚ))
  | ds => some (Nat.ofDigitChars 10 (ds.takeWhile Char.isDigit) 0 : ℚ)

theorem takeWhile_toDigits (n : ℕ) : (Nat.toDigits 10 n ++ ['.', '0']).takeWhile Char.isDigit = Nat.toDigits 10 n := by
  rw [List.takeWhile_append_of_pos fun c hc => Lib.Decimal.isDigit_toDigits hc, List.takeWhile_cons_of_neg (by decide),
    List.append_nil]

theorem degrees_repr (q : ℚ) : degrees (strip (String.ofList (wholeDegrees.repr q))) = some (⌊q⌋ : ℚ) := by
  have hstripped : isStripped (wholeDegrees.repr q) := by
    refine isStripped_of_forall fun c hc => ?_
    rcases List.mem_append.1 hc with hc | hc
    · rcases Json.toString_int_letters _ hc with hc | rfl
      · exact Web.isWhitespace_of_isDigit hc
      · decide
    · simp only [List.mem_cons, List.not_mem_nil, or_false] at hc
      rcases hc with rfl | rfl <;> decide
  rw [strip_eq_self (by rwa [String.toList_ofList])]
  have hrepr : wholeDegrees.repr q = (toString ⌊q⌋).toList ++ ['.', '0'] := rfl
  rw [degrees, String.toList_ofList, hrepr, Json.toList_toString_int]
  cases ⌊q⌋ with
  | ofNat n =>
    have hread := Nat.ofDigitChars_ten_toDigits (n := n)
    simp only
    split
    · next ds heq =>
      have hminus : '-' ∈ Nat.toDigits 10 n := by
        cases hd : Nat.toDigits 10 n with
        | nil => exact absurd hd Nat.toDigits_ne_nil
        | cons c cs =>
          rw [hd, List.cons_append, List.cons.injEq] at heq
          rw [heq.1]
          exact List.mem_cons_self
      exact absurd (Lib.Decimal.isDigit_toDigits hminus) (by decide)
    · rw [takeWhile_toDigits, hread]
      rfl
  | negSucc n =>
    have hread := Nat.ofDigitChars_ten_toDigits (n := n + 1)
    simp only [List.cons_append]
    rw [takeWhile_toDigits, hread]
    push_cast [Int.negSucc_eq]
    rfl

/-- One time zone, and floats of whole degrees. -/
def numbers : Numbers where
  zoneInfo s := s == "Asia/Shanghai"
  floatText := wholeDegrees
  decimal := degrees
  float q := q
  decimal_float q := by
    refine ⟨⌊q⌋, degrees_repr q, fun n _ => ⟨fun h => ?_, fun h => ?_⟩⟩
    · exact (Int.floor_le q).trans h
    · exact_mod_cast Int.le_floor.2 h
  float_between _ _ _ := ⟨id, id⟩

/-- A geocoder that knows one address. -/
def geocode (_ : Provider.GeocodeRequest) : GeocodeResult where
  candidates := [⟨⟨"杭州市", by decide⟩, ⟨120, 30, .wgs84, by norm_num, by norm_num⟩⟩]
  provenance := { providerId := ⟨"catalog", by decide⟩, providerVersion := ⟨"1", by decide⟩, capability := .geocode
                  observedAt := 0, validUntil := 1, freshnessStatus := .fresh, window := by decide }
  bounded := by decide

def briefDraws : BriefDraws where
  sourceDigest := ⟨1, by decide⟩
  userSource := ⟨2, by decide⟩
  placeDigest := ⟨3, by decide⟩
  actorDigest := ⟨4, by decide⟩
  artifact := ⟨5, by decide⟩
  preference _ := ⟨6, by decide⟩
  dateConstraint := ⟨7, by decide⟩
  budgetConstraint := ⟨8, by decide⟩

/-- Three days of two travelers. -/
def request (destination : { s : String // IsText 1 100 s }) : StructuredTripRequest where
  destination := destination
  countryCode := ⟨"CN", isCountryCode_cn⟩
  timezone := ⟨"Asia/Shanghai", isText_shanghai⟩
  startDate := ⟨739_800, by decide, by decide⟩
  endDate := ⟨739_802, by decide, by decide⟩
  adults := ⟨2, by decide⟩
  seniors := ⟨0, noSeniors⟩
  childrenAges := ⟨[], noChildren⟩
  accessibilityNeeds := ⟨[], noTexts⟩
  budgetMin := ⟨"1000", by decide⟩
  budgetMax := ⟨"3000", by decide⟩
  currency := ⟨"CNY", isCurrencyCode_cny⟩
  preferences := ⟨[], noTexts⟩
  coherent := by
    refine ⟨?_, ?_, ?_, ?_⟩
    · show 739_800 ≤ 739_802
      decide
    · show 739_802 - 739_800 ≤ 30
      decide
    · show 1 ≤ 2 + 0 + 0
      decide
    · show DecimalAmount.value ⟨"1000", _⟩ ≤ DecimalAmount.value ⟨"3000", _⟩
      decide +kernel

def message : Message := ⟨"周末去哪里", by decide⟩

def questionDraws : QuestionDraws :=
  ⟨(⟨1, by decide⟩, ⟨2, by decide⟩), (⟨3, by decide⟩, ⟨4, by decide⟩), ⟨5, by decide⟩⟩

end Sample

open Sample in
theorem intake_accepts_hangzhou :
    (∃ request r, Web.buildTripRequest id Web.cheapDraft "2026-07-01" = .ok request ∧
      StructuredTripRequest.modelValidate plainReaders request.json = .ok r) ∧
    (∃ inputs, planInputs numbers geocode briefDraws none 0 (request ⟨"杭州", by decide⟩) message = .ok inputs) ∧
    ∃ inputs, askInputs plainReaders questionDraws 0 message [("destination_hint", .str "杭州")] = .ok inputs := by
  obtain ⟨hform, hplan, hask⟩ := intake_accepts_iff plainReaders numbers
  refine ⟨?_, ?_, ?_⟩
  · obtain ⟨made, hmade, -⟩ := exists_ok (x := Web.buildTripRequest id Web.cheapDraft "2026-07-01") (P := fun _ => True)
      (by decide +kernel)
    have hlists : Web.parseTextList Web.cheapDraft.preferences = [] ∧
        Web.parseTextList Web.cheapDraft.accessibilityNeeds = [] := by decide +kernel
    obtain ⟨r, hr⟩ := (hform _ _ _ _ hmade).2 ⟨⟨'北', by decide +kernel, by decide⟩,
      hlists.1 ▸ List.forall_mem_nil _, hlists.2 ▸ List.forall_mem_nil _⟩
    exact ⟨made, r, hmade, hr⟩
  · refine (hplan _ _ _ _ _ _ fun _ => List.cons_ne_nil _ _).2 ⟨by decide, rfl,
      fun _ _ _ candidate hcandidate => ?_, by decide⟩
    cases hcandidate
    decide
  · obtain ⟨p, hp, -⟩ := exists_ok (x := askPayload [("destination_hint", .str "杭州")]) (P := fun _ => True)
      (by decide +kernel)
    refine (hask _ p _ _ _ hp).2 ⟨by decide, fun s hs => (by cases hs), fun s hs => ?_⟩
    cases hs
    decide +kernel

open Sample in
/-- A destination of one character is accepted, and the geocoder cannot be asked for it. -/
theorem one_character_is_not_geocoded : ¬ ∀ (N : Numbers) (geocode : Provider.GeocodeRequest → GeocodeResult)
    (d : BriefDraws) (directive : Option { s : String // IsText 1 32 s }) (now : Time)
    (request : StructuredTripRequest) (message : Message), (∀ asked, (geocode asked).candidates ≠ []) →
    ∃ inputs, planInputs N geocode d directive now request message = .ok inputs := by
  intro h
  have hfound : ∀ asked, (geocode asked).candidates ≠ [] := fun _ => List.cons_ne_nil _ _
  have hok := h numbers geocode briefDraws none 0 (request ⟨"京", by decide⟩) message hfound
  have hshort := ((planInputs_ok_iff hfound).1 hok).destination.1
  exact absurd hshort (by decide)

end RoutePilot.Intake
