/-
  The browser's projection of a Run event (`public-event.ts`).

  A JavaScript value that `JSON.parse` gives is a JSON value, and a property
  that is missing is `none`.  A property set to `undefined` is left out, and so
  are the names that every object inherits.
-/
import RoutePilot.Model.Entities

namespace RoutePilot.Web

structure PublicRunEvent where
  eventId : String
  seq : ℤ
  type : EventType
  occurredAt : String
  tripId : String
  runId : String
  traceId : String
  data : Obj := []
  deriving Inhabited

/-- The data a type of event may have. -/
def dataAllowlist : EventType → List String
  | .runAccepted => ["lifecycle_state", "phase", "control_version"]
  | .runLifecycleChanged => ["previous_state", "lifecycle_state", "control_version", "reason_code", "reason"]
  | .runPhaseChanged =>
    ["previous_phase", "phase", "progress_percent", "progress", "label", "control_version"]
  | .agentActivity => ["agent", "activity", "status", "duration_ms", "sources", "control_version"]
  | .artifactCandidateUpdated =>
    ["artifact_ref", "artifact_id", "artifact_version", "artifact_type", "status", "control_version"]
  | .artifactPublished =>
    ["artifact_ref", "artifact_id", "artifact_version", "artifact_type", "status", "control_version"]
  | .citationAdded => ["citation", "artifact_ref", "control_version"]
  | .riskDetected => ["risk_id", "severity", "message", "artifact_ref", "control_version"]
  | .inputRequired => ["request_id", "prompt", "kind", "fields", "expires_at", "control_version"]
  | .approvalRequired =>
    ["approval_id", "prompt", "kind", "summary", "artifact_ref", "expires_at", "control_version"]
  | .runCompleted =>
    ["lifecycle_state", "snapshot_ref", "artifact_id", "artifact_version", "duration_ms", "control_version"]
  | .runFailed => ["lifecycle_state", "failed_phase", "error", "error_code", "control_version"]
  | .runCanceled => ["lifecycle_state", "canceled_by", "reason", "control_version"]
  | .heartbeat => ["server_time"]

/-! ## Parts of the data -/

/-- `{ ...record, [key]: value }`. -/
def assign (record : Obj) (key : String) : Option Json → Obj
  | some value => record.set key value
  | none => record.filter (·.1 ≠ key)

/-- Some properties of a record. -/
def pick (value : Option Json) (keys : List String) : Option Obj :=
  match value with
  | some (.obj record) => some (keys.filterMap fun key => (Obj.get? record key).map fun v => (key, v))
  | _ => none

def cleanArtifactRef (value : Option Json) : Option Json :=
  (pick value ["artifact_type", "artifact_id", "schema_version", "version"]).map .obj

def cleanSource (value : Option Json) : Option Json :=
  (pick value ["source_id", "kind", "name", "version", "uri", "retrieved_at", "publisher", "license"]).map .obj

def cleanCitation (value : Option Json) : Option Json :=
  match pick value ["citation_id", "evidence_id", "title", "locator"], value with
  | some citation, some (.obj record) =>
    match cleanSource (Obj.get? record "source") with
    | some source => some (.obj (assign citation "source" source))
    | none => some (.obj citation)
  | _, _ => none

/-- A source of an activity. -/
def cleanActivitySource (source : Json) : Option Json := (pick source ["kind", "name", "version"]).map .obj

/-- `typeof option === "string"`. -/
def isString : Json → Bool
  | .str _ => true
  | _ => false

/-- A field of a form. -/
def cleanField (field : Json) : Option Json :=
  match pick field ["field_id", "label", "input_type", "required"], field with
  | some safe, .obj record =>
    match Obj.get? record "options" with
    | some (.arr options) => some (.obj (assign safe "options" (some (.arr (options.filter isString)))))
    | _ => some (.obj safe)
  | _, _ => none

/-- `if (key in clean) clean[key] = f(clean[key])`. -/
def amend (key : String) (f : Option Json → Option Json) (clean : Obj) : Obj :=
  match clean.get? key with
  | some value => assign clean key (f (some value))
  | none => clean

/-- `if (Array.isArray(clean[key])) clean[key] = clean[key].map(f).filter(Boolean)`. -/
def amendItems (key : String) (f : Json → Option Json) (clean : Obj) : Obj :=
  match clean.get? key with
  | some (.arr items) => assign clean key (some (.arr (items.filterMap f)))
  | _ => clean

/-- What is done for one type of event. -/
def amendType (type : EventType) (clean : Obj) : Obj :=
  match type with
  | .agentActivity => amendItems "sources" cleanActivitySource clean
  | .citationAdded => assign clean "citation" (cleanCitation (clean.get? "citation"))
  | .inputRequired => amendItems "fields" cleanField clean
  | .runFailed => amend "error" (fun error => (pick error ["code", "message", "retryable"]).map .obj) clean
  | _ => clean

def cleanData (type : EventType) : Option Json → Obj
  | some (.obj value) =>
    let clean := value.filter (·.1 ∈ dataAllowlist type)
    amendType type (amend "snapshot_ref" cleanArtifactRef (amend "artifact_ref" cleanArtifactRef clean))
  | _ => []

/-! ## The event -/

/-- `isPublicRunEventType`. -/
def publicRunEventType? (value : String) : Option EventType :=
  [.runAccepted, .runLifecycleChanged, .runPhaseChanged, .agentActivity, .artifactCandidateUpdated, .artifactPublished,
    .citationAdded, .riskDetected, .inputRequired, .approvalRequired, .runCompleted, .runFailed, .runCanceled,
    .heartbeat].find? (·.value == value)

theorem publicRunEventType?_value (type : EventType) : publicRunEventType? type.value = some type := by
  cases type <;> decide

/-- `Number.isInteger(value)`, with the number. -/
def integer? : Option Json → Option ℤ
  | some (.int z) => some z
  | some (.float q) => if q.den = 1 then some q.num else none
  | _ => none

def string? : Option Json → Option String
  | some (.str s) => some s
  | _ => none

def parsePublicRunEvent : Json → Option PublicRunEvent
  | .obj value => do
    let type ← (string? (Obj.get? value "type")).bind publicRunEventType?
    guard (integer? (Obj.get? value "schema_version") = some 1)
    let seq ← integer? (Obj.get? value "seq")
    guard (1 ≤ seq)
    let eventId ← string? (Obj.get? value "event_id")
    let occurredAt ← string? (Obj.get? value "occurred_at")
    let tripId ← string? (Obj.get? value "trip_id")
    let runId ← string? (Obj.get? value "run_id")
    let traceId ← string? (Obj.get? value "trace_id")
    guard (string? (Obj.get? value "audience") = some "trip_members")
    return {
      eventId := eventId, seq := seq, type := type, occurredAt := occurredAt, tripId := tripId, runId := runId
      traceId := traceId, data := cleanData type (Obj.get? value "data") }
  | _ => none

end RoutePilot.Web
