/-
  The trip request of the intake (`StructuredTripRequest` in `intake.py`), and how
  the executor of a plan comes to one (`OrchestratedWholeRunExecutor.execute` in
  `runtime.py`): from the command, or from the answers to the clarification form.

  A request carries what its validators checked.  The errors of its fields are
  collected; the validator of the whole request runs on checked fields only.
-/
import RoutePilot.Contracts.Brief
import RoutePilot.Contracts.Calendar
import RoutePilot.Contracts.Sources
import RoutePilot.Knowledge.Request

namespace RoutePilot.Intake

open Lib Contracts
open Knowledge (Checked FieldError noExtra)
open Planning (strip)

/-! ## What is read and written by libraries -/

/-- `str` of floats and containers, and the lax readings of integers and dates. -/
structure Readers where
  floatText : FloatText
  /-- `str` of a list, an object or a float that is not finite -/
  container : Json → String
  int : Json → Option ℤ
  date : Json → Option Day
  /-- an integer is read as itself -/
  int_int : ∀ z, int (.int z) = some z
  /-- a float is read as an integer if it has no fractional part -/
  int_float : ∀ q : ℚ, int (.float q) = if q.den = 1 then some q.num else none
  /-- a date is read from its ISO text -/
  date_isoformat : ∀ (d : Date) (h : d.Valid), date (.str d.isoformat) = some (d.toDay h)

variable (R : Readers)

/-- `str(v)`. -/
def pyStr : Json → String
  | .null => "None"
  | .bool b => if b then "True" else "False"
  | .int z => toString z
  | .float q => String.ofList (R.floatText.repr q)
  | .str s => s
  | v => R.container v

/-! ## The request -/

/-- The fields of a request, each checked by itself. -/
structure TripFields where
  destination : { s : String // IsText 1 100 s }
  countryCode : { s : String // isCountryCode s }
  timezone : { s : String // IsText 1 64 s }
  startDate : Day
  endDate : Day
  adults : { n : ℕ // n ≤ 99 }
  seniors : { n : ℕ // n ≤ 99 }
  childrenAges : { ages : List ℕ // ages.length ≤ 30 ∧ ∀ age ∈ ages, age ≤ 17 }
  accessibilityNeeds : { items : List ShortText // items.length ≤ 20 }
  budgetMin : DecimalAmount
  budgetMax : DecimalAmount
  currency : CurrencyCode
  preferences : { items : List ShortText // items.length ≤ 20 }

/-- What `validate_request` checks. -/
structure TripFields.Coherent (f : TripFields) : Prop where
  ordered : f.startDate.ordinal ≤ f.endDate.ordinal
  window : f.endDate.ordinal - f.startDate.ordinal ≤ 30
  traveler : 1 ≤ f.adults.1 + f.seniors.1 + f.childrenAges.1.length
  budget : f.budgetMin.value ≤ f.budgetMax.value

/-- `StructuredTripRequest`. -/
structure StructuredTripRequest extends TripFields where
  coherent : toTripFields.Coherent

/-! ## Its validation -/

section
variable (loc : String)

def boundedText (least most : ℕ) : Json → Checked { s : String // IsText least most s }
  | .str s =>
    if h : IsText least most (strip s) then .ok ⟨strip s, h⟩
    else .fail loc (if (strip s).length < least then "string_too_short" else "string_too_long")
  | _ => .fail loc "string_type"

/-- A text of a pattern, and of at most `most` characters. -/
def patterned (most : ℕ) (pattern : String → Bool) : Json → Checked { s : String // pattern s }
  | .str s =>
    if h : pattern (strip s) then .ok ⟨strip s, h⟩
    else .fail loc (if most < (strip s).length then "string_too_long" else "string_pattern_mismatch")
  | _ => .fail loc "string_type"

def day (v : Json) : Checked Day :=
  match R.date v with
  | some d => .ok d
  | none => .fail loc "date_type"

/-- `ge=0, le=99`. -/
def headcount (v : Json) : Checked { n : ℕ // n ≤ 99 } :=
  match R.int v with
  | none => .fail loc "int_type"
  | some z =>
    if z < 0 then .fail loc "greater_than_equal"
    else if h : z.toNat ≤ 99 then .ok ⟨z.toNat, h⟩
    else .fail loc "less_than_equal"

/-- The values of a list, read one by one; an error names its index. -/
def each {α : Type} (read : Json → Checked α) : ℕ → List Json → Checked (List α)
  | _, [] => .ok []
  | i, v :: vs =>
    let value := (read v).mapError fun es => es.map fun e => { e with loc := e.loc ++ [toString i] }
    .seq (.seq (.ok List.cons) value) (each read (i + 1) vs)

end

theorem Checked.seq_eq_ok {α β : Type} {f : Checked (α → β)} {a : Checked α} {b : β} :
    Checked.seq f a = .ok b ↔ ∃ g x, f = .ok g ∧ a = .ok x ∧ g x = b := by
  cases f <;> cases a <;> simp [Checked.seq]

theorem each_length {α : Type} {read : Json → Checked α} {items : List Json} :
    ∀ {i l}, each read i items = .ok l → l.length = items.length := by
  induction items with
  | nil => rintro i l h; cases h; rfl
  | cons v vs ih =>
    intro i l h
    rw [each, Checked.seq_eq_ok] at h
    obtain ⟨g, rest, hg, hrest, rfl⟩ := h
    obtain ⟨cons, x, hcons, -, rfl⟩ := Checked.seq_eq_ok.1 hg
    cases hcons
    rw [List.length_cons, List.length_cons, ih hrest]

section
variable (loc : String)

def integer (v : Json) : Checked ℤ :=
  match R.int v with
  | some z => .ok z
  | none => .fail loc "int_type"

def string : Json → Checked String
  | .str s => .ok (strip s)
  | _ => .fail loc "string_type"

/-- A list of at most `most` values. -/
def boundedList {α : Type} (most : ℕ) (read : Json → Checked α) : Json → Checked { l : List α // l.length ≤ most }
  | .arr items =>
    if hlong : most < items.length then .fail loc "too_long"
    else
      match h : each read 0 items with
      | .ok l => .ok ⟨l, by rw [each_length h]; omega⟩
      | .error es => .error es
  | _ => .fail loc "list_type"

/-- `validate_child_ages`. -/
def validateChildAges (ages : { l : List ℤ // l.length ≤ 30 }) :
    Checked { ages : List ℕ // ages.length ≤ 30 ∧ ∀ age ∈ ages, age ≤ 17 } :=
  if h : ∀ age ∈ ages.1, 0 ≤ age ∧ age ≤ 17 then
    .ok ⟨ages.1.map Int.toNat, by simpa using ages.2, by
      intro age hage
      obtain ⟨z, hz, rfl⟩ := List.mem_map.1 hage
      have := h z hz
      omega⟩
  else .fail loc "children ages must be between 0 and 17"

end

/-- `bound_text_list`. -/
def boundTextList (loc : String) (items : { l : List String // l.length ≤ 20 }) :
    Checked { l : List ShortText // l.length ≤ 20 } :=
  let cleaned := items.1.map pyStrip
  if h : ∀ s ∈ cleaned, 1 ≤ s.length ∧ s.length ≤ 256 then
    .ok ⟨cleaned.attach.map fun s => ⟨s.1, by
      obtain ⟨t, -, ht⟩ := List.mem_map.1 s.2
      exact ⟨ht ▸ isStripped_pyStrip t, h s.1 s.2⟩⟩, by simpa [cleaned] using items.2⟩
  else .fail loc "list values must contain between 1 and 256 characters"

section
variable (body : Obj)

def required {α : Type} (loc : String) (read : String → Json → Checked α) : Checked α :=
  match body.get? loc with
  | some v => read loc v
  | none => .fail loc "missing"

def optional {α : Type} (loc : String) (default : α) (read : String → Json → Checked α) : Checked α :=
  match body.get? loc with
  | some v => read loc v
  | none => .ok default

def textList (loc : String) (v : Json) : Checked { l : List ShortText // l.length ≤ 20 } :=
  (boundedList loc 20 (string loc) v).bind (boundTextList loc)

def tripFieldNames : List String :=
  ["destination", "country_code", "timezone", "start_date", "end_date", "adults", "seniors", "children_ages",
    "accessibility_needs", "budget_min", "budget_max", "currency", "preferences"]

/-! The defaults are valid. -/

theorem isCountryCode_cn : isCountryCode "CN" := by decide

theorem isText_shanghai : IsText 1 64 "Asia/Shanghai" := by decide

theorem noSeniors : 0 ≤ 99 := by decide

theorem noChildren : ([] : List ℕ).length ≤ 30 ∧ ∀ age ∈ ([] : List ℕ), age ≤ 17 := by decide

theorem noTexts : ([] : List ShortText).length ≤ 20 := by decide

/-- The fields of a body. -/
def tripFields : Checked TripFields :=
  .seq (.seq (.seq (.seq (.seq (.seq (.seq (.seq (.seq (.seq (.seq (.seq (.seq (.seq
    (.ok fun a b c d e f g h i j k l m (_ : Unit) => ⟨a, b, c, d, e, f, g, h, i, j, k, l, m⟩)
    (required body "destination" fun loc => boundedText loc 1 100))
    (optional body "country_code" ⟨"CN", isCountryCode_cn⟩ fun loc => patterned loc 2 isCountryCode))
    (optional body "timezone" ⟨"Asia/Shanghai", isText_shanghai⟩ fun loc => boundedText loc 1 64))
    (required body "start_date" (day R)))
    (required body "end_date" (day R)))
    (optional body "adults" ⟨1, by decide⟩ (headcount R)))
    (optional body "seniors" ⟨0, noSeniors⟩ (headcount R)))
    (optional body "children_ages" ⟨[], noChildren⟩ fun loc v =>
      (boundedList loc 30 (integer R loc) v).bind (validateChildAges loc)))
    (optional body "accessibility_needs" ⟨[], noTexts⟩ textList))
    (required body "budget_min" fun loc => patterned loc 32 isDecimalAmount))
    (required body "budget_max" fun loc => patterned loc 32 isDecimalAmount))
    (optional body "currency" ⟨"CNY", isCurrencyCode_cny⟩ fun loc => patterned loc 3 isCurrencyCode))
    (optional body "preferences" ⟨[], noTexts⟩ textList))
    (noExtra body tripFieldNames)

end

/-- `validate_request`. -/
def validateRequest (f : TripFields) : Checked StructuredTripRequest :=
  if hordered : f.startDate.ordinal ≤ f.endDate.ordinal then
    if hwindow : f.endDate.ordinal - f.startDate.ordinal ≤ 30 then
      if htraveler : 1 ≤ f.adults.1 + f.seniors.1 + f.childrenAges.1.length then
        if hbudget : f.budgetMin.value ≤ f.budgetMax.value then
          .ok { f with coherent := ⟨hordered, hwindow, htraveler, hbudget⟩ }
        else .error [⟨[], "budget_min cannot exceed budget_max"⟩]
      else .error [⟨[], "at least one traveler is required"⟩]
    else .error [⟨[], "a V1 planning window cannot exceed 31 days"⟩]
  else .error [⟨[], "end_date cannot be before start_date"⟩]

/-- `StructuredTripRequest.model_validate`. -/
def StructuredTripRequest.modelValidate (body : Obj) : Checked StructuredTripRequest :=
  (tripFields R body).bind validateRequest

/-! ## The request of a plan -/

/-- What `execute` raises before it has a request. -/
inductive IntakeError where
  | valueError (message : String)
  | validationError (errors : List FieldError)

/-- `values.get(key, default)`. -/
def getOr (values : Obj) (key : String) (default : Json) : Json := (values.get? key).getD default

/-- The request written from the answers to the clarification form. -/
def answeredRequest (values : Obj) : Obj :=
  [("destination", getOr values "destination" .null),
    ("start_date", getOr values "start_date" .null),
    ("end_date", getOr values "end_date" .null),
    ("adults", getOr values "adults" (.int 1)),
    ("seniors", getOr values "seniors" (.int 0)),
    ("budget_min", .str (pyStr R (getOr values "budget_min" (.str "")))),
    ("budget_max", .str (pyStr R (getOr values "budget_max" (.str "")))),
    ("currency", getOr values "currency" (.str "CNY")),
    ("preferences", getOr values "preferences" (.arr [])),
    ("accessibility_needs", getOr values "accessibility_needs" (.arr []))]

/-- The raw request of a command: its own, or the one of the supplied answers. -/
def rawRequest (payload : Obj) : Option Obj :=
  match payload.get? "trip_request" with
  | some (.obj request) => some request
  | _ =>
    match payload.get? "resume_input" with
    | some (.obj resumeInput) =>
      match Obj.get? resumeInput "values" with
      | some (.obj values) => some (answeredRequest R values)
      | _ => none
    | _ => none

/-- The request of a plan that has no brief. -/
def planRequest (payload : Obj) : Except IntakeError StructuredTripRequest :=
  match rawRequest R payload with
  | some body =>
    match StructuredTripRequest.modelValidate R body with
    | .ok request => .ok request
    | .error errors => .error (.validationError errors)
  | none => .error (.valueError "v2 execution requires command.payload.trip_brief or trip_request")

end RoutePilot.Intake
