/-
  The answers to the clarification form, and the request they are read as.

  The form accepts any answers of the types of its fields: `Usable` is what more the
  trip request asks of them (`planRequest_resumed_iff`).  Every answer is read from
  the supplied values field by field (`Supplied`); each reader of the request then
  accepts what it accepts by itself, and the validator of the whole request what is
  left.
-/
import RoutePilot.Intake.Request
import RoutePilot.Runtime.Coordinator

namespace RoutePilot.Intake

open Lib Contracts
open Knowledge (Checked noExtra)
open Planning (strip)

/-! ## What the form hands on -/

section
variable {ε : Type} {f : String × Json → Except ε (String × Json)}

/-- A value of a mapped object is the mapped value of its key. -/
theorem lookup_of_mapM (hkey : ∀ kv kv', f kv = .ok kv' → kv'.1 = kv.1) (k : String) {d d' : Obj}
    (h : d.mapM f = .ok d') :
    (d.get? k = none ∧ d'.get? k = none) ∨
      ∃ v w, d.get? k = some v ∧ f (k, v) = .ok (k, w) ∧ d'.get? k = some w := by
  induction d generalizing d' with
  | nil => cases h; exact .inl ⟨rfl, rfl⟩
  | cons kv d ih =>
    obtain ⟨kv', d', rfl, hkv, hd⟩ := mapM_cons_ok h
    obtain ⟨k', v⟩ := kv
    obtain ⟨k'', w⟩ := kv'
    obtain rfl : k'' = k' := hkey _ _ hkv
    by_cases hk : k = k''
    · subst hk
      exact .inr ⟨v, w, by simp [Obj.get?], hkv, by simp [Obj.get?]⟩
    · have hne : (k == k'') = false := by simpa using hk
      simpa only [Obj.get?, List.lookup_cons, hne] using ih hd

end

section
variable {pending : RunPendingInput} {supplied values : Obj}

/-- The value of a field of the form: absent if it may be, or normalized. -/
theorem value_of_field (h : validateRunInputValues pending supplied = .ok values) {k : String}
    {field : RunInputField} (hfield : pending.fields.reverse.find? (·.fieldId == k) = some field) :
    (supplied.get? k = none ∧ values.get? k = none ∧ field.required = false) ∨
      ∃ v w, supplied.get? k = some v ∧ normalizeValue field v = .ok w ∧ values.get? k = some w := by
  unfold validateRunInputValues at h
  simp only at h
  split at h
  · cases h
  · split at h
    · cases h
    · next hrequired =>
      obtain hnone | ⟨v, w, hv, hw, hvalue⟩ := lookup_of_mapM (k := k) (fun kv kv' hkv => by
        cases hf : pending.fields.reverse.find? (·.fieldId == kv.1) with
        | none => rw [hf] at hkv; cases hkv
        | some field =>
          rw [hf] at hkv
          simp only at hkv
          cases hn : normalizeValue field kv.2 with
          | error e => rw [hn] at hkv; cases hkv
          | ok v => rw [hn] at hkv; cases hkv; rfl) h
      · refine .inl ⟨hnone.1, hnone.2, ?_⟩
        by_contra hreq
        have hmem := List.mem_reverse.1 (List.mem_of_find?_eq_some hfield)
        have hid : field.fieldId = k := by simpa using List.find?_some hfield
        exact hrequired (List.any_eq_true.2 ⟨field, hmem, by simp [hreq, hid, hnone.1]⟩)
      · simp only [hfield] at hw
        cases hn : normalizeValue field v with
        | error e => rw [hn] at hw; cases hw
        | ok v' =>
          rw [hn] at hw
          cases hw
          exact .inr ⟨v, _, hv, hn, hvalue⟩

/-- A key that no field has is not supplied. -/
theorem value_of_unknown (h : validateRunInputValues pending supplied = .ok values) {k : String}
    (hk : pending.fields.reverse.find? (·.fieldId == k) = none) : values.get? k = none := by
  obtain ⟨hanswered, -⟩ := validateRunInputValues_ok h
  by_contra hsome
  obtain ⟨kv, hkv, rfl⟩ := List.mem_map.1 (Obj.mem_keys_of_get? (Option.isSome_iff_ne_none.2 hsome))
  obtain ⟨field, hfield, hid, -⟩ := hanswered.known kv hkv
  have := List.find?_eq_none.1 hk field (List.mem_reverse.2 hfield)
  simp [hid] at this

end

/-- A number of JSON. -/
def IsNumber (v : Json) : Prop := (∃ z, v = .int z) ∨ ∃ q, v = .float q

/-- The answers to the clarification form, as supplied and as stored. -/
structure Supplied (supplied values : Obj) : Prop where
  destination : ∃ s, supplied.get? "destination" = some (.str s) ∧ pyStrip s ≠ "" ∧
    values.get? "destination" = some (.str (pyStrip s))
  date : ∀ k, k = "start_date" ∨ k = "end_date" → ∃ s d, supplied.get? k = some (.str s) ∧
    dateFromIsoformat s = some d ∧ values.get? k = some (.str d.isoformat)
  number : ∀ k, k = "adults" ∨ k = "budget_min" ∨ k = "budget_max" →
    ∃ v, IsNumber v ∧ supplied.get? k = some v ∧ values.get? k = some v
  seniors : (supplied.get? "seniors" = none ∧ values.get? "seniors" = none) ∨
    ∃ v, IsNumber v ∧ supplied.get? "seniors" = some v ∧ values.get? "seniors" = some v
  currency : ∃ s ∈ ["CNY", "USD", "EUR", "JPY"], values.get? "currency" = some (.str s)
  others : values.get? "preferences" = none ∧ values.get? "accessibility_needs" = none

section
variable {field : RunInputField} {v w : Json}

theorem normalizeValue_text (ht : field.inputType = .text) (h : normalizeValue field v = .ok w) :
    ∃ s, v = .str s ∧ pyStrip s ≠ "" ∧ w = .str (pyStrip s) := by
  unfold normalizeValue at h
  rw [ht] at h
  cases v with
  | str s =>
    simp only at h
    split at h
    · cases h
    · next hno =>
      cases h
      refine ⟨s, rfl, fun hempty => hno ?_, rfl⟩
      simp [hempty]
  | _ => cases h

theorem normalizeValue_date (ht : field.inputType = .date) (h : normalizeValue field v = .ok w) :
    ∃ s d, v = .str s ∧ dateFromIsoformat s = some d ∧ w = .str d.isoformat := by
  unfold normalizeValue at h
  rw [ht] at h
  cases v with
  | str s =>
    simp only at h
    cases hd : dateFromIsoformat s with
    | none => rw [hd] at h; cases h
    | some d => rw [hd] at h; cases h; exact ⟨s, d, rfl, hd, rfl⟩
  | _ => cases h

theorem normalizeValue_number (ht : field.inputType = .number) (h : normalizeValue field v = .ok w) :
    IsNumber v ∧ w = v := by
  unfold normalizeValue at h
  rw [ht] at h
  cases v with
  | int z =>
    simp only at h
    split at h
    · cases h; exact ⟨.inl ⟨z, rfl⟩, rfl⟩
    · cases h
  | float q => cases h; exact ⟨.inr ⟨q, rfl⟩, rfl⟩
  | _ => cases h

theorem normalizeValue_singleSelect (ht : field.inputType = .singleSelect)
    (h : normalizeValue field v = .ok w) : ∃ s ∈ field.options, w = .str s := by
  unfold normalizeValue at h
  rw [ht] at h
  cases v with
  | str s =>
    simp only at h
    split at h
    · next hs => cases h; exact ⟨s, by simpa using hs, rfl⟩
    · cases h
  | _ => cases h

end

/-- What the form accepts. -/
theorem supplied_of_validated {requestId : String} {now : Time} {supplied values : Obj}
    (h : validateRunInputValues (clarification requestId now) supplied = .ok values) :
    Supplied supplied values := by
  have present : ∀ {k : String} {field : RunInputField},
      (clarification requestId now).fields.reverse.find? (·.fieldId == k) = some field → field.required = true →
      ∃ v w, supplied.get? k = some v ∧ normalizeValue field v = .ok w ∧ values.get? k = some w := by
    intro k field hfield hrequired
    obtain ⟨-, -, hoptional⟩ | hvalue := value_of_field h hfield
    · rw [hrequired] at hoptional; cases hoptional
    · exact hvalue
  have date : ∀ {k : String} {field : RunInputField},
      (∃ v w, supplied.get? k = some v ∧ normalizeValue field v = .ok w ∧ values.get? k = some w) →
      field.inputType = .date → ∃ s d, supplied.get? k = some (.str s) ∧ dateFromIsoformat s = some d ∧
        values.get? k = some (.str d.isoformat) := by
    rintro k field ⟨v, w, hv, hw, hvalue⟩ ht
    obtain ⟨s, d, rfl, hd, rfl⟩ := normalizeValue_date ht hw
    exact ⟨s, d, hv, hd, hvalue⟩
  have number : ∀ {k : String} {field : RunInputField},
      (∃ v w, supplied.get? k = some v ∧ normalizeValue field v = .ok w ∧ values.get? k = some w) →
      field.inputType = .number → ∃ v, IsNumber v ∧ supplied.get? k = some v ∧ values.get? k = some v := by
    rintro k field ⟨v, w, hv, hw, hvalue⟩ ht
    obtain ⟨hnumber, rfl⟩ := normalizeValue_number ht hw
    exact ⟨_, hnumber, hv, hvalue⟩
  constructor
  case destination =>
    obtain ⟨v, w, hv, hw, hvalue⟩ := present (k := "destination") rfl rfl
    obtain ⟨s, rfl, hne, rfl⟩ := normalizeValue_text rfl hw
    exact ⟨s, hv, hne, hvalue⟩
  case date =>
    rintro k (rfl | rfl)
    · exact date (present (k := "start_date") rfl rfl) rfl
    · exact date (present (k := "end_date") rfl rfl) rfl
  case number =>
    rintro k (rfl | rfl | rfl)
    · exact number (present (k := "adults") rfl rfl) rfl
    · exact number (present (k := "budget_min") rfl rfl) rfl
    · exact number (present (k := "budget_max") rfl rfl) rfl
  case seniors =>
    obtain ⟨hs, hv, -⟩ | hvalue := value_of_field h (k := "seniors") rfl
    · exact .inl ⟨hs, hv⟩
    · exact .inr (number hvalue rfl)
  case currency =>
    obtain ⟨v, w, -, hw, hvalue⟩ := present (k := "currency") rfl rfl
    obtain ⟨s, hs, rfl⟩ := normalizeValue_singleSelect rfl hw
    exact ⟨s, hs, hvalue⟩
  case others => exact ⟨value_of_unknown h rfl, value_of_unknown h rfl⟩

/-! ## What the request asks -/

/-- The integer that a number is read as. -/
def wholeNumber : Json → Option ℤ
  | .int z => some z
  | .float q => if q.den = 1 then some q.num else none
  | _ => none

/-- The answers are those of a trip request: a destination of at most 100 characters, at most 31
    days in order, whole numbers of travelers from 0 to 99 with at least one of them, and amounts
    that are written as decimals, the lower one first. -/
structure Usable (R : Readers) (supplied : Obj) : Prop where
  destination : ∃ s, supplied.get? "destination" = some (.str s) ∧ (pyStrip s).length ≤ 100
  dates : ∃ s e d d', supplied.get? "start_date" = some (.str s) ∧ dateFromIsoformat s = some d ∧
    supplied.get? "end_date" = some (.str e) ∧ dateFromIsoformat e = some d' ∧
    d.toordinal ≤ d'.toordinal ∧ d'.toordinal - d.toordinal ≤ 30
  travelers : ∃ a n : ℕ, wholeNumber (getOr supplied "adults" (.int 1)) = some (a : ℤ) ∧
    wholeNumber (getOr supplied "seniors" (.int 0)) = some (n : ℤ) ∧ a ≤ 99 ∧ n ≤ 99 ∧ 1 ≤ a + n
  budget : ∃ low high : DecimalAmount,
    strip (pyStr R (getOr supplied "budget_min" (.str ""))) = low.1 ∧
    strip (pyStr R (getOr supplied "budget_max" (.str ""))) = high.1 ∧ low.value ≤ high.value

section
variable {R : Readers} {loc : String}

theorem boundedText_str {least most : ℕ} {s : String} {x : { s : String // IsText least most s }} :
    boundedText loc least most (.str s) = .ok x ↔ strip s = x.1 := by
  obtain ⟨t, ht⟩ := x
  unfold boundedText
  simp only
  split
  · simp
  · next hno =>
    refine ⟨nofun, ?_⟩
    rintro rfl
    exact absurd ht hno

theorem patterned_str {most : ℕ} {pattern : String → Bool} {s : String} {x : { s : String // pattern s }} :
    patterned loc most pattern (.str s) = .ok x ↔ strip s = x.1 := by
  obtain ⟨t, ht⟩ := x
  unfold patterned
  simp only
  split
  · simp
  · next hno =>
    refine ⟨nofun, ?_⟩
    rintro rfl
    exact absurd ht hno

theorem headcount_eq_ok {v : Json} {n : { n : ℕ // n ≤ 99 }} :
    headcount R loc v = .ok n ↔ R.int v = some (n.1 : ℤ) := by
  obtain ⟨n, hn⟩ := n
  unfold headcount
  cases R.int v with
  | none => exact ⟨nofun, nofun⟩
  | some z =>
    simp only [Option.some_inj]
    split
    · next hneg => exact ⟨nofun, fun h => by omega⟩
    · next hpos =>
      split
      · next hle =>
        simp only [Except.ok.injEq, Subtype.mk.injEq]
        omega
      · next hlt => exact ⟨nofun, fun h => by omega⟩

theorem int_of_number {v : Json} (hv : IsNumber v) : R.int v = wholeNumber v := by
  obtain ⟨z, rfl⟩ | ⟨q, rfl⟩ := hv
  · exact R.int_int z
  · exact R.int_float q

theorem day_isoformat {d : Date} (h : d.Valid) : day R loc (.str d.isoformat) = .ok (d.toDay h) := by
  rw [day, R.date_isoformat d h]

theorem tripFields_eq_ok {body : Obj} {f : TripFields} :
    tripFields R body = .ok f ↔
      (required body "destination" (fun loc => boundedText loc 1 100) = .ok f.destination ∧
        optional body "country_code" ⟨"CN", by decide⟩ (fun loc => patterned loc 2 isCountryCode) = .ok f.countryCode ∧
        optional body "timezone" ⟨"Asia/Shanghai", by decide⟩ (fun loc => boundedText loc 1 64) = .ok f.timezone) ∧
      (required body "start_date" (day R) = .ok f.startDate ∧ required body "end_date" (day R) = .ok f.endDate) ∧
      (optional body "adults" ⟨1, by decide⟩ (headcount R) = .ok f.adults ∧
        optional body "seniors" ⟨0, by decide⟩ (headcount R) = .ok f.seniors ∧
        optional body "children_ages" ⟨[], by decide⟩ (fun loc v =>
          (boundedList loc 30 (integer R loc) v).bind (validateChildAges loc)) = .ok f.childrenAges ∧
        optional body "accessibility_needs" ⟨[], by decide⟩ textList = .ok f.accessibilityNeeds) ∧
      (required body "budget_min" (fun loc => patterned loc 32 isDecimalAmount) = .ok f.budgetMin ∧
        required body "budget_max" (fun loc => patterned loc 32 isDecimalAmount) = .ok f.budgetMax ∧
        optional body "currency" ⟨"CNY", by decide⟩ (fun loc => patterned loc 3 isCurrencyCode) = .ok f.currency) ∧
      optional body "preferences" ⟨[], by decide⟩ textList = .ok f.preferences ∧
      noExtra body tripFieldNames = .ok () := by
  unfold tripFields
  simp only [Checked.seq_eq_ok]
  constructor
  · rintro ⟨g, u, ⟨g, m, ⟨g, l, ⟨g, k, ⟨g, j, ⟨g, i, ⟨g, h, ⟨g, s, ⟨g, a, ⟨g, e, ⟨g, d, ⟨g, t, ⟨g, c, ⟨g, b,
      hg, hb, rfl⟩, hc, rfl⟩, ht, rfl⟩, hd, rfl⟩, he, rfl⟩, ha, rfl⟩, hs, rfl⟩, hh, rfl⟩, hi, rfl⟩, hj, rfl⟩,
      hk, rfl⟩, hl, rfl⟩, hm, rfl⟩, hu, rfl⟩
    cases hg
    exact ⟨⟨hb, hc, ht⟩, ⟨hd, he⟩, ⟨ha, hs, hh, hi⟩, ⟨hj, hk, hl⟩, hm, hu⟩
  · rintro ⟨⟨hb, hc, ht⟩, ⟨hd, he⟩, ⟨ha, hs, hh, hi⟩, ⟨hj, hk, hl⟩, hm, hu⟩
    exact ⟨_, _, ⟨_, _, ⟨_, _, ⟨_, _, ⟨_, _, ⟨_, _, ⟨_, _, ⟨_, _, ⟨_, _, ⟨_, _, ⟨_, _, ⟨_, _, ⟨_, _, ⟨_, _,
      rfl, hb, rfl⟩, hc, rfl⟩, ht, rfl⟩, hd, rfl⟩, he, rfl⟩, ha, rfl⟩, hs, rfl⟩, hh, rfl⟩, hi, rfl⟩, hj, rfl⟩,
      hk, rfl⟩, hl, rfl⟩, hm, rfl⟩, hu, rfl⟩

theorem validateRequest_eq_ok {f : TripFields} : (∃ r, validateRequest f = .ok r) ↔ f.Coherent := by
  unfold validateRequest
  constructor
  · rintro ⟨r, h⟩
    split_ifs at h with hordered hwindow htraveler hbudget
    exact ⟨hordered, hwindow, htraveler, hbudget⟩
  · rintro ⟨hordered, hwindow, htraveler, hbudget⟩
    rw [dif_pos hordered, dif_pos hwindow, dif_pos htraveler, dif_pos hbudget]
    exact ⟨_, rfl⟩

/-- A request is accepted if its fields are, and they fit. -/
theorem modelValidate_ok_iff {body : Obj} :
    (∃ request, StructuredTripRequest.modelValidate R body = .ok request) ↔
      ∃ f, tripFields R body = .ok f ∧ f.Coherent := by
  unfold StructuredTripRequest.modelValidate
  cases hf : tripFields R body with
  | error es => simp [Except.bind]
  | ok f => simp [Except.bind, validateRequest_eq_ok]

/-! ## The answers as a request -/

section
variable {values supplied : Obj}

theorem required_eq {α : Type} {body : Obj} {read : String → Json → Checked α} {v : Json} (h : body.get? loc = some v) :
    required body loc read = read loc v := by rw [required, h]

theorem optional_eq {α : Type} {body : Obj} {read : String → Json → Checked α} {v : Json} {default : α}
    (h : body.get? loc = some v) : optional body loc default read = read loc v := by rw [optional, h]

theorem getOr_eq {key : String} {v default : Json} (h : values.get? key = some v) : getOr values key default = v := by
  rw [getOr, h, Option.getD_some]

/-- A number of travelers or an amount is stored as it was supplied. -/
theorem Supplied.getOr_eq (hs : Supplied supplied values) {key : String} (default : Json)
    (hkey : key = "adults" ∨ key = "seniors" ∨ key = "budget_min" ∨ key = "budget_max") :
    getOr values key default = getOr supplied key default := by
  have stored : values.get? key = supplied.get? key := by
    rcases hkey with rfl | rfl | rfl | rfl
    · obtain ⟨v, -, hsup, hval⟩ := hs.number "adults" (by simp)
      rw [hsup, hval]
    · obtain ⟨hsup, hval⟩ | ⟨v, -, hsup, hval⟩ := hs.seniors
      · rw [hsup, hval]
      · rw [hsup, hval]
    · obtain ⟨v, -, hsup, hval⟩ := hs.number "budget_min" (by simp)
      rw [hsup, hval]
    · obtain ⟨v, -, hsup, hval⟩ := hs.number "budget_max" (by simp)
      rw [hsup, hval]
  rw [getOr, getOr, stored]

/-- The number of travelers of a kind is read as a whole number. -/
theorem Supplied.int_eq (hs : Supplied supplied values) {key : String} (default : ℤ)
    (hkey : key = "adults" ∨ key = "seniors") :
    R.int (getOr supplied key (.int default)) = wholeNumber (getOr supplied key (.int default)) := by
  refine int_of_number ?_
  rcases hkey with rfl | rfl
  · obtain ⟨v, hv, hsup, -⟩ := hs.number "adults" (by simp)
    rwa [Intake.getOr_eq hsup]
  · obtain ⟨hsup, -⟩ | ⟨v, hv, hsup, -⟩ := hs.seniors
    · rw [getOr, hsup]
      exact .inl ⟨default, rfl⟩
    · rwa [Intake.getOr_eq hsup]

theorem usable_of_fields (hs : Supplied supplied values) {f : TripFields}
    (hf : tripFields R (answeredRequest R values) = .ok f) (hco : f.Coherent) : Usable R supplied := by
  obtain ⟨⟨hdest, -, -⟩, ⟨hstart, hend⟩, ⟨hadults, hseniors, hchildren, -⟩, ⟨hmin, hmax, -⟩, -, -⟩ :=
    tripFields_eq_ok.1 hf
  constructor
  case destination =>
    obtain ⟨s, hsup, -, hval⟩ := hs.destination
    rw [required_eq rfl, Intake.getOr_eq hval, boundedText_str, strip_pyStrip] at hdest
    exact ⟨s, hsup, hdest ▸ f.destination.2.2.2⟩
  case dates =>
    obtain ⟨s, d, hsup, hd, hval⟩ := hs.date "start_date" (.inl rfl)
    obtain ⟨e, d', hsup', hd', hval'⟩ := hs.date "end_date" (.inr rfl)
    have hv := valid_of_dateFromIsoformat hd
    have hv' := valid_of_dateFromIsoformat hd'
    rw [required_eq rfl, Intake.getOr_eq hval, day_isoformat hv, Except.ok.injEq] at hstart
    rw [required_eq rfl, Intake.getOr_eq hval', day_isoformat hv', Except.ok.injEq] at hend
    have hordered := hco.ordered
    have hwindow := hco.window
    rw [← hstart, ← hend] at hordered hwindow
    exact ⟨s, e, d, d', hsup, hd, hsup', hd', hordered, hwindow⟩
  case travelers =>
    rw [optional_eq rfl, hs.getOr_eq _ (by simp), headcount_eq_ok, hs.int_eq _ (by simp)] at hadults
    rw [optional_eq rfl, hs.getOr_eq _ (by simp), headcount_eq_ok, hs.int_eq _ (by simp)] at hseniors
    have hnone : f.childrenAges = ⟨[], by decide⟩ := (Except.ok.inj hchildren).symm
    have htraveler := hco.traveler
    rw [hnone] at htraveler
    exact ⟨_, _, hadults, hseniors, f.adults.2, f.seniors.2, htraveler⟩
  case budget =>
    rw [required_eq rfl, hs.getOr_eq _ (by simp), patterned_str] at hmin
    rw [required_eq rfl, hs.getOr_eq _ (by simp), patterned_str] at hmax
    exact ⟨f.budgetMin, f.budgetMax, hmin, hmax, hco.budget⟩

theorem fields_of_usable (hs : Supplied supplied values) (h : Usable R supplied) :
    ∃ f, tripFields R (answeredRequest R values) = .ok f ∧ f.Coherent := by
  obtain ⟨s, hsup, hlong⟩ := h.destination
  obtain ⟨s', hsup', hne, hval⟩ := hs.destination
  obtain rfl : s' = s := by rw [hsup'] at hsup; cases hsup; rfl
  obtain ⟨t, e, d, d', ht, hd, he, hd', hordered, hwindow⟩ := h.dates
  obtain ⟨t', b, ht', hb, hstart⟩ := hs.date "start_date" (.inl rfl)
  obtain ⟨e', b', he', hb', hend⟩ := hs.date "end_date" (.inr rfl)
  obtain rfl : b = d := by rw [ht'] at ht; cases ht; rw [hb] at hd; cases hd; rfl
  obtain rfl : b' = d' := by rw [he'] at he; cases he; rw [hb'] at hd'; cases hd'; rfl
  obtain ⟨a, n, ha, hn, ha', hn', htraveler⟩ := h.travelers
  obtain ⟨low, high, hlow, hhigh, hle⟩ := h.budget
  obtain ⟨c, hc, hcurrency⟩ := hs.currency
  have hcode : isCurrencyCode (strip c) := by
    simp only [List.mem_cons, List.not_mem_nil, or_false] at hc
    rcases hc with rfl | rfl | rfl | rfl <;> decide
  have htext : IsText 1 100 (pyStrip s') := by
    refine ⟨isStripped_pyStrip s', ?_, hlong⟩
    rw [Nat.one_le_iff_ne_zero, Ne, String.length_eq_zero_iff]
    exact hne
  refine ⟨⟨⟨pyStrip s', htext⟩, ⟨"CN", by decide⟩, ⟨"Asia/Shanghai", by decide⟩,
    b.toDay (valid_of_dateFromIsoformat hb), b'.toDay (valid_of_dateFromIsoformat hb'), ⟨a, ha'⟩, ⟨n, hn'⟩,
    ⟨[], by decide⟩, ⟨[], by decide⟩, low, high, ⟨strip c, hcode⟩, ⟨[], by decide⟩⟩,
    tripFields_eq_ok.2 ⟨⟨?_, rfl, rfl⟩, ⟨?_, ?_⟩, ⟨?_, ?_, rfl, ?_⟩, ⟨?_, ?_, ?_⟩, ?_, rfl⟩,
      ⟨hordered, hwindow, htraveler, hle⟩⟩
  · rw [required_eq rfl, Intake.getOr_eq hval, boundedText_str, strip_pyStrip]
  · rw [required_eq rfl, Intake.getOr_eq hstart, day_isoformat (valid_of_dateFromIsoformat hb)]
  · rw [required_eq rfl, Intake.getOr_eq hend, day_isoformat (valid_of_dateFromIsoformat hb')]
  · rw [optional_eq rfl, hs.getOr_eq _ (by simp), headcount_eq_ok, hs.int_eq _ (by simp), ha]
  · rw [optional_eq rfl, hs.getOr_eq _ (by simp), headcount_eq_ok, hs.int_eq _ (by simp), hn]
  · rw [optional_eq rfl, getOr, hs.others.2]
    rfl
  · rw [required_eq rfl, hs.getOr_eq _ (by simp), patterned_str, hlow]
  · rw [required_eq rfl, hs.getOr_eq _ (by simp), patterned_str, hhigh]
  · rw [optional_eq rfl, Intake.getOr_eq hcurrency, patterned_str]
  · rw [optional_eq rfl, getOr, hs.others.1]
    rfl

end

/-! ## The stored input -/

/-- A plan without its request takes it from the stored answers. -/
theorem rawRequest_resumed {run : RunView} (h : needsInput run) (env : Env) (requestId : String) (values : Obj) :
    rawRequest R (run.resumed env requestId values).command.payload = some (answeredRequest R values) := by
  have hstored : (run.resumed env requestId values).command.payload.get? "resume_input" =
      some (.obj [("request_id", .str requestId), ("values", .obj values)]) := Obj.get?_set_self ..
  have hother : (run.resumed env requestId values).command.payload.get? "trip_request" =
      run.command.payload.get? "trip_request" := Obj.get?_set_ne _ (by decide)
  have hnone : (run.command.payload.get? "trip_request").any Json.isDict = false := by
    simp only [needsInput, Bool.and_eq_true, Bool.not_eq_true'] at h
    exact h.1.2
  unfold rawRequest
  rw [hother, hstored]
  split
  · next request hrequest => rw [hrequest] at hnone; cases hnone
  · rfl

theorem planRequest_ok_iff {payload body : Obj} (h : rawRequest R payload = some body) :
    (∃ request, planRequest R payload = .ok request) ↔
      ∃ request, StructuredTripRequest.modelValidate R body = .ok request := by
  unfold planRequest
  rw [h]
  simp only
  cases StructuredTripRequest.modelValidate R body with
  | ok request => exact ⟨fun _ => ⟨request, rfl⟩, fun _ => ⟨request, rfl⟩⟩
  | error es =>
    constructor
    · rintro ⟨_, hrequest⟩
      cases hrequest
    · rintro ⟨_, hrequest⟩
      cases hrequest

/-- **Accepted answers are usable when they are those of a trip request.**  For every plan that waits
    for its clarification form and all answers the form accepts, the request that the executor
    derives from the stored answers is valid if and only if the answers are `Usable`. -/
theorem planRequest_resumed_iff {R : Readers} {run : RunView} (hneeds : needsInput run) (env : Env)
    {requestId : String} {now : Time} {supplied values : Obj}
    (h : validateRunInputValues (clarification requestId now) supplied = .ok values) :
    (∃ request, planRequest R (run.resumed env requestId values).command.payload = .ok request) ↔
      Usable R supplied := by
  have hs := supplied_of_validated h
  rw [planRequest_ok_iff (rawRequest_resumed hneeds env requestId values), modelValidate_ok_iff]
  constructor
  · rintro ⟨f, hf, hco⟩
    exact usable_of_fields hs hf hco
  · exact fields_of_usable hs

end

/-! ## A form -/

/-- How the whole numbers among the floats are written. -/
def wholeFloats : FloatText where
  repr q := (toString q.num).toList ++ ['.', '0']
  oneLine q c hc := by
    rcases List.mem_append.1 hc with hc | hc
    · exact Json.toString_int_oneLine q.num c hc
    · exact (by decide : Json.OneLine ['.', '0']) c hc

/-- The readings of numbers and of ISO dates. -/
def plainReaders : Readers where
  floatText := wholeFloats
  container _ := ""
  int := wholeNumber
  date
    | .str s => (dateFromIsoformat s).pmap Date.toDay fun _ hd => valid_of_dateFromIsoformat hd
    | _ => none
  int_int _ := rfl
  int_float _ := rfl
  date_isoformat d h := by simp [dateFromIsoformat_isoformat h]

/-- An interactive plan without its request. -/
def interactivePlan : RunView where
  runId := "run_1"
  tripId := "trip_1"
  tenantId := "tenant_1"
  actorId := "user_1"
  traceId := "trace_1"
  lifecycleState := .waitingInput
  phase := "waiting_input"
  controlVersion := 3
  command := { type := .tripPlan, message := "周末去哪里", payload := [("interactive", .bool true)] }
  createdAt := 0
  updatedAt := 0

/-- Answers for three days of two adults. -/
def answers (startDate endDate : String) : Obj :=
  [("destination", .str "杭州"), ("start_date", .str startDate), ("end_date", .str endDate), ("adults", .int 2),
    ("budget_min", .int 1000), ("budget_max", .int 3000), ("currency", .str "CNY")]

def sampleEnv : Env where
  now := 0
  token _ := "1"

theorem read_first : dateFromIsoformat "2026-08-01" = some ⟨2026, 8, 1⟩ := by decide +kernel

theorem read_third : dateFromIsoformat "2026-08-03" = some ⟨2026, 8, 3⟩ := by decide +kernel

theorem answers_usable : Usable plainReaders (answers "2026-08-01" "2026-08-03") where
  destination := ⟨"杭州", rfl, by decide +kernel⟩
  dates := ⟨_, _, _, _, rfl, read_first, rfl, read_third, by decide, by decide⟩
  travelers := ⟨2, 0, rfl, rfl, by decide, by decide, by decide⟩
  budget := ⟨⟨"1000", by decide +kernel⟩, ⟨"3000", by decide +kernel⟩, by decide +kernel, by decide +kernel,
    by decide +kernel⟩

/-- A plan of three days goes on with its answers. -/
theorem planRequest_resumed_three_days : ∃ values request,
    validateRunInputValues (clarification "input_1" 0) (answers "2026-08-01" "2026-08-03") = .ok values ∧
      planRequest plainReaders (interactivePlan.resumed sampleEnv "input_1" values).command.payload = .ok request := by
  obtain ⟨values, h, -⟩ := exists_ok (P := fun _ => True) (x := validateRunInputValues (clarification "input_1" 0)
    (answers "2026-08-01" "2026-08-03")) (by decide +kernel)
  obtain ⟨request, hrequest⟩ :=
    (planRequest_resumed_iff (show needsInput interactivePlan by decide +kernel) sampleEnv h).2 answers_usable
  exact ⟨values, request, h, hrequest⟩

/-- The form accepts dates the wrong way round, and the plan is resumed without a valid request. -/
theorem planRequest_dates_reversed : ∃ values,
    validateRunInputValues (clarification "input_1" 0) (answers "2026-08-03" "2026-08-01") = .ok values ∧
      ∀ request,
        planRequest plainReaders (interactivePlan.resumed sampleEnv "input_1" values).command.payload ≠
          .ok request := by
  obtain ⟨values, h, -⟩ := exists_ok (P := fun _ => True) (x := validateRunInputValues (clarification "input_1" 0)
    (answers "2026-08-03" "2026-08-01")) (by decide +kernel)
  refine ⟨values, h, fun request hrequest => ?_⟩
  have hneeds : needsInput interactivePlan := by decide +kernel
  obtain ⟨f, hf, hco⟩ := modelValidate_ok_iff.1
    ((planRequest_ok_iff (rawRequest_resumed hneeds sampleEnv "input_1" values)).1 ⟨request, hrequest⟩)
  obtain ⟨s, e, d, d', hs, hd, he, hd', hordered, -⟩ := (usable_of_fields (supplied_of_validated h) hf hco).dates
  cases hs
  cases he
  rw [read_third] at hd
  rw [read_first] at hd'
  cases hd
  cases hd'
  revert hordered
  decide

end RoutePilot.Intake
