/-
  The browser's final event filter and its reducer, as JavaScript runs them
  (`public-event.ts`, `reducer.ts`).

  `value in DATA_ALLOWLIST` also holds of the names that every object inherits.  What is
  looked up of such a name is no set, and no case of the reducer is its own.  The reducer
  turns a lifecycle into a text, which can fail, and keeps the value itself.
-/
import RoutePilot.Web.Reducer

namespace RoutePilot.Web

/-! ## The filter -/

/-- The names that `Object.prototype` has. -/
def inheritedNames : List String :=
  ["constructor", "__defineGetter__", "__defineSetter__", "hasOwnProperty", "__lookupGetter__", "__lookupSetter__",
    "isPrototypeOf", "propertyIsEnumerable", "toString", "valueOf", "__proto__", "toLocaleString"]

/-- A name that is in `DATA_ALLOWLIST`. -/
inductive EventName where
  | contract (type : EventType)
  | inherited (name : String)
  deriving DecidableEq

/-- `isPublicRunEventType`, with the name. -/
def eventName? (value : String) : Option EventName :=
  match publicRunEventType? value with
  | some type => some (.contract type)
  | none => if value ∈ inheritedNames then some (.inherited value) else none

/-- The envelope of an event, its type aside. -/
structure Envelope where
  eventId : String
  seq : ℤ
  occurredAt : String
  tripId : String
  runId : String
  traceId : String

/-- The envelope of a value that may be an event. -/
def envelope? (value : Obj) : Option Envelope := do
  guard (integer? (Obj.get? value "schema_version") = some 1)
  let seq ← integer? (Obj.get? value "seq")
  guard (1 ≤ seq)
  let eventId ← string? (Obj.get? value "event_id")
  let occurredAt ← string? (Obj.get? value "occurred_at")
  let tripId ← string? (Obj.get? value "trip_id")
  let runId ← string? (Obj.get? value "run_id")
  let traceId ← string? (Obj.get? value "trace_id")
  guard (string? (Obj.get? value "audience") = some "trip_members")
  return ⟨eventId, seq, occurredAt, tripId, runId, traceId⟩

/-- An event that is let through. -/
structure FilteredEvent where
  envelope : Envelope
  type : EventName
  data : Obj

inductive Raised where
  | typeError

/-- `cleanData`, of a name; there is no `has` in what an inherited name stands for, and it is called for every entry. -/
def filterData (type : EventName) (value : Option Json) : Except Raised Obj :=
  match type, value with
  | .contract type, value => .ok (cleanData type value)
  | .inherited _, some (.obj (_ :: _)) => .error .typeError
  | .inherited _, _ => .ok []

/-- `parsePublicRunEvent`. -/
def filterEvent : Json → Except Raised (Option FilteredEvent)
  | .obj value =>
    match (string? (Obj.get? value "type")).bind eventName?, envelope? value with
    | some type, some envelope => (filterData type (Obj.get? value "data")).map fun data => some ⟨envelope, type, data⟩
    | _, _ => .ok none
  | _ => .ok none

/-! ## The reducer -/

/-- How numbers are written. -/
structure NumberText where
  text : ℚ → String
  begins : ∀ q, ∃ c cs, (text q).toList = c :: cs ∧ (c = '-' ∨ c.isDigit = true)

section
variable (N : NumberText)

mutual

/-- `String(value)`, the sign of an infinity aside; `none` if it throws, as it does for an object with a `toString` of
    its own. -/
def textOf : Json → Option String
  | .null => some "null"
  | .bool true => some "true"
  | .bool false => some "false"
  | .int z => some (N.text z)
  | .float q => some (N.text q)
  | .nonfinite => some "Infinity"
  | .str s => some s
  | .arr items => (itemTexts items).map fun texts => ",".intercalate texts
  | .obj record => if (Obj.get? record "toString").isSome then none else some "[object Object]"

/-- The texts of the items of a list. -/
def itemTexts : List Json → Option (List String)
  | [] => some []
  | .null :: items => (itemTexts items).map fun texts => "" :: texts
  | item :: items => do
    let text ← textOf item
    let texts ← itemTexts items
    return text :: texts

end

/-- What `lifecycle(value, fallback)` is. -/
inductive Coerced where
  | raised
  | lifecycle (lifecycle : Lifecycle)
  | untyped (value : Json)

/-- `lifecycle(value, fallback)`: a value whose text is a lifecycle stays what it is. -/
def coerceLifecycle (value : Option Json) (fallback : Lifecycle) : Coerced :=
  match value with
  | none => .lifecycle fallback
  | some value =>
    match textOf N value with
    | none => .raised
    | some text =>
      match Lifecycle.ofValue? text with
      | none => .lifecycle fallback
      | some lifecycle => if isString value then .lifecycle lifecycle else .untyped value

/-- What the reducer returns: a state, a state whose lifecycle is no text, nothing, or it throws. -/
inductive Reduced where
  | state (state : RunUiState)
  | untyped (state : RunUiState) (lifecycle : Json)
  | undefined
  | raised

/-- An event of a type of the contract. -/
def FilteredEvent.event (filtered : FilteredEvent) (type : EventType) : PublicRunEvent where
  eventId := filtered.envelope.eventId
  seq := filtered.envelope.seq
  type := type
  occurredAt := filtered.envelope.occurredAt
  tripId := filtered.envelope.tripId
  runId := filtered.envelope.runId
  traceId := filtered.envelope.traceId
  data := filtered.data

/-- What an event of the contract does to the state that has counted it. -/
def reduceType (next : RunUiState) (event : PublicRunEvent) : Reduced :=
  match event.type with
  | .runLifecycleChanged =>
    match coerceLifecycle N (event.data.get? "lifecycle_state") next.lifecycle with
    | .raised => .raised
    | .lifecycle lifecycle => .state { next with lifecycle }
    | .untyped value => .untyped next value
  | _ => .state (applyType next event)

/-- `runEventReducer`, of an event. -/
def reduceEvent (state : RunUiState) (filtered : FilteredEvent) : Reduced :=
  if state.runId.any fun runId => runId ≠ "" ∧ filtered.envelope.runId ≠ runId then .state state
  else if filtered.envelope.seq ≤ state.lastSeq then .state state
  else
    match filtered.type with
    | .inherited _ => .undefined
    | .contract type => reduceType N (countEvent state (filtered.event type)) (filtered.event type)

end

end RoutePilot.Web
