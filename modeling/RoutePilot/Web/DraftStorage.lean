/-
  Drafts of the trip form in the storage of the browser (`travel-constraints.ts`).

  `encodeURIComponent` (`none` if it throws, as it does on half a surrogate pair),
  `JSON.parse` (`none` if it throws) and whether the storage takes an entry are left
  open.  The text of a draft that is stored is written as `JSON.stringify` does.
-/
import Mathlib.Logic.Function.Basic
import RoutePilot.Web.JsText

namespace RoutePilot.Web.DraftStorage

structure TravelConstraintDraft where
  destination : JsString
  startDate : JsString
  endDate : JsString
  adults : JsString
  seniors : JsString
  budgetMin : JsString
  budgetMax : JsString
  currency : JsString
  preferences : JsString
  accessibilityNeeds : JsString
  deriving DecidableEq

/-- The fields of a draft, in the order in which they are stored. -/
def TravelConstraintDraft.fields (draft : TravelConstraintDraft) : List (String × JsString) :=
  [("destination", draft.destination), ("start_date", draft.startDate), ("end_date", draft.endDate),
    ("adults", draft.adults), ("seniors", draft.seniors), ("budget_min", draft.budgetMin),
    ("budget_max", draft.budgetMax), ("currency", draft.currency), ("preferences", draft.preferences),
    ("accessibility_needs", draft.accessibilityNeeds)]

/-- The draft as an object. -/
def TravelConstraintDraft.value (draft : TravelConstraintDraft) : JsValue :=
  .object (draft.fields.map fun field => (units field.1, .string field.2))

/-- `boundedString`. -/
def boundedString (value : Option JsValue) (maxLength : ℕ) : Option JsString :=
  match value with
  | some (.string s) => if s.length ≤ maxLength then some s else none
  | _ => none

/-- `allowlistedDraft`. -/
def allowlistedDraft (value : Option JsValue) : Option TravelConstraintDraft := do
  let source ← value
  let destination ← boundedString (source.get? "destination") 100
  let startDate ← boundedString (source.get? "start_date") 10
  let endDate ← boundedString (source.get? "end_date") 10
  let adults ← boundedString (source.get? "adults") 3
  let seniors ← boundedString (source.get? "seniors") 3
  let budgetMin ← boundedString (source.get? "budget_min") 32
  let budgetMax ← boundedString (source.get? "budget_max") 32
  let currency ← boundedString (source.get? "currency") 3
  let preferences ← boundedString (source.get? "preferences") 5_200
  let accessibilityNeeds ← boundedString (source.get? "accessibility_needs") 5_200
  return ⟨destination, startDate, endDate, adults, seniors, budgetMin, budgetMax, currency, preferences,
    accessibilityNeeds⟩

/-! ## The storage -/

/-- What is stored, by key. -/
abbrev Storage := JsString → Option JsString

/-- What the browser provides. -/
structure Browser where
  encodeURIComponent : JsString → Option JsString
  parse : JsString → Option JsValue
  /-- `setItem` does not throw. -/
  takes : Storage → (key value : JsString) → Bool

section
variable (B : Browser)

/-- `storageKey`. -/
def storageKey (tripId : JsString) : Option JsString :=
  (B.encodeURIComponent tripId).map fun encoded => units "routepilot.trip-constraints.v1." ++ encoded

/-- `{ version: STORAGE_VERSION, draft }` -/
def storedValue (draft : TravelConstraintDraft) : JsValue :=
  .object [(units "version", .number 1), (units "draft", draft.value)]

/-- A field of an object, as it is written. -/
def member (field : String × JsString) : JsString := quote (units field.1) ++ 0x3A :: quote field.2

/-- `JSON.stringify({ version: STORAGE_VERSION, draft })` -/
def storedText (draft : TravelConstraintDraft) : JsString :=
  units "\x7b\"version\":1,\"draft\":\x7b" ++ ([0x2C] : JsString).intercalate (draft.fields.map member) ++
    units "\x7d\x7d"

/-- The value that was parsed is of this version; `null` has no version to read, which throws. -/
def versioned (parsed : JsValue) : Option TravelConstraintDraft :=
  match parsed.get? "version" with
  | some (.number q) => if q = 1 then allowlistedDraft (parsed.get? "draft") else none
  | _ => none

/-- `loadTravelConstraintDraft`, where there is a storage; what throws is taken for nothing. -/
def loadTravelConstraintDraft (tripId : JsString) (target : Storage) : Option TravelConstraintDraft := do
  let key ← storageKey B tripId
  let raw ← target key
  if raw = [] ∨ 16_000 < raw.length then none
  else
    let parsed ← B.parse raw
    versioned parsed

/-- The call of `setItem` that saving a draft comes to. -/
def writeOf (tripId : JsString) (draft : TravelConstraintDraft) : Option (JsString × JsString) := do
  let safeDraft ← allowlistedDraft (some draft.value)
  let key ← storageKey B tripId
  return (key, storedText safeDraft)

/-- Saving writes to the storage. -/
def Writes (tripId : JsString) (draft : TravelConstraintDraft) (target : Storage) : Prop :=
  ∃ call, writeOf B tripId draft = some call ∧ B.takes target call.1 call.2

/-- `saveTravelConstraintDraft`, where there is a storage. -/
def saveTravelConstraintDraft (tripId : JsString) (draft : TravelConstraintDraft) (target : Storage) : Storage :=
  match writeOf B tripId draft with
  | none => target
  | some (key, text) => if B.takes target key text then Function.update target key (some text) else target

end

end RoutePilot.Web.DraftStorage
