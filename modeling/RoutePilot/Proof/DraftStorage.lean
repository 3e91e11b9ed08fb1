/-
  A saved draft can be loaded back (`travel-constraints.ts`).

  Saving bounds the fields of a draft, loading bounds the text that was stored.  The
  escapes of `JSON.stringify` make the text longer than the fields (`length_storedText`),
  so that a draft may be stored and then be passed over.
-/
import Mathlib.Algebra.GroupWithZero.Nat
import RoutePilot.Web.DraftStorage

namespace RoutePilot.Web.DraftStorage

/-! ## Fields -/

/-- The names of the fields of a draft. -/
def fieldNames : List String :=
  ["destination", "start_date", "end_date", "adults", "seniors", "budget_min", "budget_max", "currency", "preferences",
    "accessibility_needs"]

theorem map_fst_fields (draft : TravelConstraintDraft) : draft.fields.map Prod.fst = fieldNames := rfl

/-- The code units tell the names apart. -/
theorem units_inj_on_fieldNames : ∀ name ∈ fieldNames, ∀ name' ∈ fieldNames,
    units name' = units name → name' = name := by
  decide +kernel

theorem lookup_units {fields : List (String × JsString)} {name : String}
    (hinj : ∀ field ∈ fields, units field.1 = units name → field.1 = name) :
    (fields.map fun field => (units field.1, JsValue.string field.2)).lookup (units name) =
      (fields.lookup name).map .string := by
  induction fields with
  | nil => rfl
  | cons field fields ih =>
    rw [List.map_cons, List.lookup_cons, List.lookup_cons, ih fun f hf => hinj f (List.mem_cons_of_mem _ hf)]
    by_cases hname : field.1 = name
    · subst hname
      simp
    · have hunits : units name ≠ units field.1 := fun h => hname (hinj field List.mem_cons_self h.symm)
      rw [show (units name == units field.1) = false by simpa using hunits,
        show (name == field.1) = false by simpa using Ne.symm hname]

/-- A field of a draft as an object. -/
theorem get?_value (draft : TravelConstraintDraft) {name : String} (h : name ∈ fieldNames) :
    draft.value.get? name = (draft.fields.lookup name).map .string := by
  refine lookup_units fun field hfield heq => ?_
  refine units_inj_on_fieldNames name h field.1 ?_ heq
  rw [← map_fst_fields draft]
  exact List.mem_map_of_mem hfield

/-- The fields within their bounds. -/
structure Bounded (draft : TravelConstraintDraft) : Prop where
  destination : draft.destination.length ≤ 100
  startDate : draft.startDate.length ≤ 10
  endDate : draft.endDate.length ≤ 10
  adults : draft.adults.length ≤ 3
  seniors : draft.seniors.length ≤ 3
  budgetMin : draft.budgetMin.length ≤ 32
  budgetMax : draft.budgetMax.length ≤ 32
  currency : draft.currency.length ≤ 3
  preferences : draft.preferences.length ≤ 5_200
  accessibilityNeeds : draft.accessibilityNeeds.length ≤ 5_200

theorem boundedString_string {s t : JsString} {n : ℕ} :
    boundedString (some (.string s)) n = some t ↔ s.length ≤ n ∧ s = t := by
  unfold boundedString
  dsimp only
  split
  · rename_i h
    simp [h]
  · rename_i h
    simp [h]

/-- A draft passes if it is bounded, and then as it is. -/
theorem allowlistedDraft_value {draft draft' : TravelConstraintDraft} :
    allowlistedDraft (some draft.value) = some draft' ↔ Bounded draft ∧ draft = draft' := by
  have hget : ∀ {name : String} {s : JsString}, name ∈ fieldNames → draft.fields.lookup name = some s →
      draft.value.get? name = some (.string s) := fun hname hs => by rw [get?_value draft hname, hs]; rfl
  have h1 : draft.value.get? "destination" = some (.string draft.destination) := hget (by decide) rfl
  have h2 : draft.value.get? "start_date" = some (.string draft.startDate) := hget (by decide) rfl
  have h3 : draft.value.get? "end_date" = some (.string draft.endDate) := hget (by decide) rfl
  have h4 : draft.value.get? "adults" = some (.string draft.adults) := hget (by decide) rfl
  have h5 : draft.value.get? "seniors" = some (.string draft.seniors) := hget (by decide) rfl
  have h6 : draft.value.get? "budget_min" = some (.string draft.budgetMin) := hget (by decide) rfl
  have h7 : draft.value.get? "budget_max" = some (.string draft.budgetMax) := hget (by decide) rfl
  have h8 : draft.value.get? "currency" = some (.string draft.currency) := hget (by decide) rfl
  have h9 : draft.value.get? "preferences" = some (.string draft.preferences) := hget (by decide) rfl
  have h10 : draft.value.get? "accessibility_needs" = some (.string draft.accessibilityNeeds) := hget (by decide) rfl
  simp only [allowlistedDraft, Option.bind_eq_bind, Option.bind_some, Option.pure_def, Option.bind_eq_some_iff,
    Option.some.injEq, h1, h2, h3, h4, h5, h6, h7, h8, h9, h10, boundedString_string]
  constructor
  · rintro ⟨_, ⟨b₁, rfl⟩, _, ⟨b₂, rfl⟩, _, ⟨b₃, rfl⟩, _, ⟨b₄, rfl⟩, _, ⟨b₅, rfl⟩, _, ⟨b₆, rfl⟩, _, ⟨b₇, rfl⟩, _,
      ⟨b₈, rfl⟩, _, ⟨b₉, rfl⟩, _, ⟨b₁₀, rfl⟩, rfl⟩
    exact ⟨⟨b₁, b₂, b₃, b₄, b₅, b₆, b₇, b₈, b₉, b₁₀⟩, rfl⟩
  · rintro ⟨b, rfl⟩
    exact ⟨_, ⟨b.destination, rfl⟩, _, ⟨b.startDate, rfl⟩, _, ⟨b.endDate, rfl⟩, _, ⟨b.adults, rfl⟩, _, ⟨b.seniors, rfl⟩,
      _, ⟨b.budgetMin, rfl⟩, _, ⟨b.budgetMax, rfl⟩, _, ⟨b.currency, rfl⟩, _, ⟨b.preferences, rfl⟩,
      _, ⟨b.accessibilityNeeds, rfl⟩, rfl⟩

/-! ## The stored text -/

theorem length_intercalate (texts : List JsString) :
    (([0x2C] : JsString).intercalate texts).length = (texts.map List.length).sum + (texts.length - 1) := by
  induction texts with
  | nil => rfl
  | cons text texts ih =>
    cases texts with
    | nil => simp [List.intercalate]
    | cons text' texts =>
      rw [List.intercalate_cons_cons, List.length_append, List.length_append, ih]
      simp only [List.map_cons, List.sum_cons, List.length_cons, List.length_nil]
      omega

/-- The code units of the fields once they are escaped. -/
def escapedFields (draft : TravelConstraintDraft) : ℕ := (draft.fields.map fun field => escapedLength field.2).sum

theorem escapedLength_fieldNames : fieldNames.map (fun name => escapedLength (units name)) =
    [11, 10, 8, 6, 7, 10, 10, 8, 11, 19] := by
  decide +kernel

theorem length_member (field : String × JsString) :
    (member field).length = escapedLength (units field.1) + escapedLength field.2 + 5 := by
  rw [member, List.length_append, List.length_cons, length_quote, length_quote]
  omega

/-- What is stored is the fields, escaped, and 183 code units around them. -/
theorem length_storedText (draft : TravelConstraintDraft) : (storedText draft).length = escapedFields draft + 183 := by
  have hmembers : ((draft.fields.map member).map List.length).sum = escapedFields draft + 150 := by
    have hsplit : ∀ fields : List (String × JsString), ((fields.map member).map List.length).sum =
        ((fields.map Prod.fst).map fun name => escapedLength (units name)).sum +
          (fields.map fun field => escapedLength field.2).sum + 5 * fields.length := fun fields => by
      induction fields with
      | nil => rfl
      | cons field fields ih =>
        simp only [List.map_cons, List.sum_cons, List.length_cons, length_member] at ih ⊢
        omega
    rw [hsplit, map_fst_fields, escapedLength_fieldNames]
    show 100 + escapedFields draft + 5 * 10 = _
    omega
  have hprefix : (units "\x7b\"version\":1,\"draft\":\x7b").length = 22 := by decide +kernel
  have hsuffix : (units "\x7d\x7d").length = 2 := by decide +kernel
  rw [storedText, List.length_append, List.length_append, length_intercalate, hmembers, hprefix, hsuffix]
  show 22 + (escapedFields draft + 150 + 9) + 2 = _
  omega

/-! ## Saving and loading -/

section
variable {B : Browser} {tripId : JsString} {draft : TravelConstraintDraft} {target : Storage}

/-- What saving writes, if it does. -/
theorem writeOf_eq_some {call : JsString × JsString} (h : writeOf B tripId draft = some call) :
    storageKey B tripId = some call.1 ∧ call.2 = storedText draft := by
  simp only [writeOf, Option.bind_eq_bind, Option.pure_def, Option.bind_eq_some_iff, Option.some.injEq] at h
  obtain ⟨draft', hdraft, key, hkey, rfl⟩ := h
  obtain ⟨-, rfl⟩ := allowlistedDraft_value.1 hdraft
  exact ⟨hkey, rfl⟩

theorem bounded_of_writeOf {call : JsString × JsString} (h : writeOf B tripId draft = some call) : Bounded draft := by
  simp only [writeOf, Option.bind_eq_bind, Option.pure_def, Option.bind_eq_some_iff] at h
  obtain ⟨draft', hdraft, -⟩ := h
  exact (allowlistedDraft_value.1 hdraft).1

/-- The stored value is of this version, and passes. -/
theorem versioned_storedValue (h : Bounded draft) : versioned (storedValue draft) = some draft := by
  have hversion : (storedValue draft).get? "version" = some (.number 1) := by
    simp [storedValue, JsValue.get?]
  have hdraft : (storedValue draft).get? "draft" = some draft.value := by
    have hne : (units "draft" == units "version") = false := by decide +kernel
    simp [storedValue, JsValue.get?, List.lookup_cons, hne]
  rw [versioned, hversion, hdraft]
  exact (if_pos rfl).trans (allowlistedDraft_value.2 ⟨h, rfl⟩)

/-- What is loaded after a write: the draft, if its text is not too long. -/
theorem load_save (hwrites : Writes B tripId draft target)
    (hparse : B.parse (storedText draft) = some (storedValue draft)) :
    loadTravelConstraintDraft B tripId (saveTravelConstraintDraft B tripId draft target) =
      if escapedFields draft ≤ 15_817 then some draft else none := by
  obtain ⟨⟨key, text⟩, hcall, htakes⟩ := hwrites
  obtain ⟨hkey, rfl⟩ := writeOf_eq_some hcall
  have hsave : saveTravelConstraintDraft B tripId draft target =
    Function.update target key (some (storedText draft)) := by
    rw [saveTravelConstraintDraft, hcall]
    exact if_pos htakes
  have hlength := length_storedText draft
  have hne : storedText draft ≠ [] := fun hnil => by
    rw [hnil] at hlength
    simp at hlength
  rw [hsave, loadTravelConstraintDraft]
  simp only [hkey, Option.bind_eq_bind, Option.bind_some, Function.update_self, hne, false_or, hlength]
  by_cases hshort : escapedFields draft ≤ 15_817
  · rw [if_neg (by omega), if_pos hshort, hparse, Option.bind_some]
    exact versioned_storedValue (bounded_of_writeOf hcall)
  · rw [if_pos (by omega), if_neg hshort]

/-- Another trip has another key. -/
theorem load_save_other (hencode : ∀ a b key, B.encodeURIComponent a = some key → B.encodeURIComponent b = some key →
    a = b)
    {tripId' : JsString} (hne : tripId' ≠ tripId) :
    loadTravelConstraintDraft B tripId' (saveTravelConstraintDraft B tripId draft target) =
      loadTravelConstraintDraft B tripId' target := by
  rw [saveTravelConstraintDraft]
  cases hcall : writeOf B tripId draft with
  | none => rfl
  | some call =>
    obtain ⟨key, text⟩ := call
    obtain ⟨hkey, -⟩ := writeOf_eq_some hcall
    dsimp only
    split
    · rw [loadTravelConstraintDraft, loadTravelConstraintDraft]
      cases hkey' : storageKey B tripId' with
      | none => rfl
      | some key' =>
        have hkeys : key' ≠ key := by
          rintro rfl
          obtain ⟨code, hcode, hprefix⟩ := Option.map_eq_some_iff.1 hkey
          obtain ⟨code', hcode', hprefix'⟩ := Option.map_eq_some_iff.1 hkey'
          have hcodes : code' = code := List.append_cancel_left (hprefix'.trans hprefix.symm)
          exact hne (hencode tripId' tripId code' hcode' (hcodes ▸ hcode))
        simp only [Option.bind_eq_bind, Option.bind_some, Function.update_of_ne hkeys]
    · rfl

/-- **A draft that was written is loaded back if and only if its fields have at most 15817 code units once they are
    escaped; and what another trip loads stays the same.** -/
theorem saved_draft_loads_iff
    (hencode : ∀ a b key, B.encodeURIComponent a = some key → B.encodeURIComponent b = some key → a = b)
    (hparse : B.parse (storedText draft) = some (storedValue draft)) :
    (Writes B tripId draft target →
      (loadTravelConstraintDraft B tripId (saveTravelConstraintDraft B tripId draft target) = some draft ↔
        escapedFields draft ≤ 15_817)) ∧
    ∀ tripId', tripId' ≠ tripId →
      loadTravelConstraintDraft B tripId' (saveTravelConstraintDraft B tripId draft target) =
        loadTravelConstraintDraft B tripId' target := by
  refine ⟨fun hwrites => ?_, fun tripId' hne => load_save_other hencode hne⟩
  rw [load_save hwrites hparse]
  split
  · rename_i h
    simp [h]
  · rename_i h
    simp [h]

end

/-! ## Runs -/

/-- A draft of a trip to Rome. -/
def romeDraft (preferences accessibilityNeeds : JsString) : TravelConstraintDraft where
  destination := units "Rome"
  startDate := units "2026-08-01"
  endDate := units "2026-08-03"
  adults := units "1"
  seniors := units "0"
  budgetMin := units "1000"
  budgetMax := units "5000"
  currency := units "EUR"
  preferences
  accessibilityNeeds

/-- A browser whose storage takes what it is given, of one draft. -/
def plainBrowser (draft : TravelConstraintDraft) : Browser where
  encodeURIComponent := some
  parse raw := if raw = storedText draft then some (storedValue draft) else none
  takes _ _ _ := true

theorem writes_romeDraft {preferences accessibilityNeeds : JsString} (hp : preferences.length ≤ 5_200)
    (ha : accessibilityNeeds.length ≤ 5_200) :
    Writes (plainBrowser (romeDraft preferences accessibilityNeeds)) (units "trip-1")
      (romeDraft preferences accessibilityNeeds) fun _ => none := by
  have hbounded : Bounded (romeDraft preferences accessibilityNeeds) :=
    ⟨(length_units "Rome").trans_le (by decide), (length_units "2026-08-01").trans_le (by decide),
      (length_units "2026-08-03").trans_le (by decide), (length_units "1").trans_le (by decide),
      (length_units "0").trans_le (by decide), (length_units "1000").trans_le (by decide),
      (length_units "5000").trans_le (by decide), (length_units "EUR").trans_le (by decide), hp, ha⟩
  refine ⟨(units "routepilot.trip-constraints.v1." ++ units "trip-1",
    storedText (romeDraft preferences accessibilityNeeds)), ?_, rfl⟩
  rw [writeOf, allowlistedDraft_value.2 ⟨hbounded, rfl⟩]
  rfl

theorem parse_plainBrowser (draft : TravelConstraintDraft) :
    (plainBrowser draft).parse (storedText draft) = some (storedValue draft) := if_pos rfl

def museumDraft : TravelConstraintDraft := romeDraft (units "museum\n") []

/-- A museum, and a line break. -/
theorem saved_draft_loads_museum :
    loadTravelConstraintDraft (plainBrowser museumDraft) (units "trip-1")
      (saveTravelConstraintDraft (plainBrowser museumDraft) (units "trip-1") museumDraft fun _ => none) =
        some museumDraft := by
  have hwrites : Writes (plainBrowser museumDraft) (units "trip-1") museumDraft fun _ => none :=
    writes_romeDraft ((length_units "museum\n").trans_le (by decide)) (Nat.zero_le _)
  have hencode : ∀ a b key, (plainBrowser museumDraft).encodeURIComponent a = some key →
      (plainBrowser museumDraft).encodeURIComponent b = some key → a = b :=
    fun _ _ _ ha hb => (Option.some.inj ha).trans (Option.some.inj hb).symm
  exact ((saved_draft_loads_iff hencode (parse_plainBrowser museumDraft)).1 hwrites).2 (by decide +kernel)

/-- Two lists as long as a field may be, of quotation marks: each is stored with a backslash. -/
theorem quoted_draft_not_loaded :
    let draft := romeDraft (List.replicate 5_200 0x22) (List.replicate 5_200 0x22)
    Writes (plainBrowser draft) (units "trip-1") draft (fun _ => none) ∧
      loadTravelConstraintDraft (plainBrowser draft) (units "trip-1")
        (saveTravelConstraintDraft (plainBrowser draft) (units "trip-1") draft fun _ => none) = none := by
  intro draft
  have hwrites : Writes (plainBrowser draft) (units "trip-1") draft fun _ => none :=
    writes_romeDraft (by rw [List.length_replicate]) (by rw [List.length_replicate])
  refine ⟨hwrites, ?_⟩
  rw [load_save hwrites (parse_plainBrowser draft), if_neg]
  have hquotes : escapedLength (List.replicate 5_200 0x22) = 10_400 := escapedLength_replicate rfl _
  simp only [escapedFields, TravelConstraintDraft.fields, draft, romeDraft, List.map_cons, List.map_nil, List.sum_cons,
    List.sum_nil, hquotes]
  omega

end RoutePilot.Web.DraftStorage
