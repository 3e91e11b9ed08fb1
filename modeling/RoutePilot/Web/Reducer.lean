/-
  The state of a Run in the browser (`reducer.ts`).

  Numbers are rationals.  What is read from the data of an event is checked
  where it is read, with a fallback.  (What `String(value)` makes of a value that
  is no text stands in `Web/EventFilter`.)
-/
import Mathlib.Algebra.Order.Ring.Rat
import RoutePilot.Web.PublicEvent

namespace RoutePilot.Web

/-! ## The state -/

/-- `RunLifecycle | "idle"`. -/
inductive Lifecycle where
  | idle
  | queued
  | running
  | waitingInput
  | waitingApproval
  | cancelRequested
  | completed
  | failed
  | canceled
  deriving DecidableEq, Repr, Inhabited

/-- The states an event can carry. -/
def Lifecycle.ofValue? (value : String) : Option Lifecycle :=
  ([("queued", .queued), ("running", .running), ("waiting_input", .waitingInput),
    ("waiting_approval", .waitingApproval), ("cancel_requested", .cancelRequested), ("completed", .completed),
    ("failed", .failed), ("canceled", .canceled)] : List (String × Lifecycle)).lookup value

inductive PointerStatus where
  | candidate
  | published
  deriving DecidableEq, Repr, Inhabited

structure ArtifactPointer where
  artifactId : String
  version : ℚ
  artifactType : Option String := none
  status : PointerStatus
  deriving DecidableEq, Repr, Inhabited

structure ActivityItem where
  id : String
  label : String
  status : String
  «at» : String
  deriving DecidableEq, Repr, Inhabited

structure Risk where
  id : String
  severity : String
  message : String
  deriving DecidableEq, Repr, Inhabited

structure PendingField where
  fieldId : String
  label : String
  inputType : String
  required : Bool
  options : List String
  deriving DecidableEq, Repr, Inhabited

structure PendingInput where
  requestId : String
  prompt : String
  expiresAt : String
  fields : List PendingField
  deriving DecidableEq, Repr, Inhabited

structure PublicError where
  code : String
  message : String
  retryable : Bool
  deriving DecidableEq, Repr, Inhabited

inductive StreamConnection where
  | idle
  | connecting
  | live
  | reconnecting
  | offline
  | closed
  | error
  deriving DecidableEq, Repr, Inhabited

/-- `RunUiState`; its defaults are `emptyRunState`. -/
structure RunUiState where
  runId : Option String := none
  tripId : Option String := none
  lifecycle : Lifecycle := .idle
  phase : String := ""
  phaseLabel : String := ""
  progress : ℚ := 0
  controlVersion : ℚ := 0
  lastSeq : ℤ := 0
  connection : StreamConnection := .idle
  candidate : Option ArtifactPointer := none
  published : Option ArtifactPointer := none
  activities : List ActivityItem := []
  risks : List Risk := []
  needsInput : Bool := false
  pendingInput : Option PendingInput := none
  needsApproval : Bool := false
  publicError : Option PublicError := none
  deriving DecidableEq, Repr, Inhabited

/-- `RunView`, as the API returns it. -/
structure RunSnapshot where
  runId : String
  tripId : String
  lifecycleState : Lifecycle
  phase : String
  controlVersion : ℕ
  resultArtifactId : Option String
  resultArtifactVersion : Option ℕ
  pendingInput : Option PendingInput
  deriving DecidableEq, Repr, Inhabited

inductive RunAction where
  | snapshot (run : RunSnapshot) (lastSeq : ℤ)
  | event (event : PublicRunEvent)
  | connection (connection : StreamConnection)
  | reset

/-! ## Reading data -/

/-- `number(value, fallback)`. -/
def number (value : Option Json) (fallback : ℚ) : ℚ :=
  match value with
  | some (.int z) => z
  | some (.float q) => q
  | _ => fallback

/-- `string(value, fallback)`. -/
def string (value : Option Json) (fallback : String := "") : String := (string? value).getD fallback

/-- `a ?? b`. -/
def coalesce (a b : Option Json) : Option Json :=
  match a with
  | none | some .null => b
  | a => a

/-- `value && typeof value === "object"`, as a record. -/
def record? : Option Json → Option Obj
  | some (.obj record) => some record
  | _ => none

/-- `record?.key`. -/
def property (record : Option Obj) (key : String) : Option Json := record.bind fun record => Obj.get? record key

def lifecycle (value : Option Json) (fallback : Lifecycle) : Lifecycle :=
  ((string? value).bind Lifecycle.ofValue?).getD fallback

/-- A text that is not empty. -/
def truthy (s : String) : Option String := if s = "" then none else some s

def pointer (data : Obj) (status : PointerStatus) : Option ArtifactPointer :=
  let contractRef := record? (data.get? "artifact_ref")
  let artifactId := string (coalesce (property contractRef "artifact_id") (data.get? "artifact_id"))
  let version := number (coalesce (property contractRef "version") (data.get? "artifact_version")) 0
  if artifactId = "" ∨ version < 1 then none
  else some {
    artifactId := artifactId, version := version
    artifactType := truthy (string (coalesce (property contractRef "artifact_type") (data.get? "artifact_type")))
    status := status }

def inputTypes : List String := ["text", "date", "number", "single_select", "multi_select", "confirmation"]

/-- A field of a form, if it can be shown. -/
def pendingField : Json → Option PendingField
  | .obj field =>
    let fieldId := string (Obj.get? field "field_id")
    let label := string (Obj.get? field "label")
    let inputType := string (Obj.get? field "input_type")
    if fieldId = "" ∨ label = "" ∨ inputType ∉ inputTypes then none
    else some {
      fieldId := fieldId, label := label, inputType := inputType
      required := match Obj.get? field "required" with
        | some (.bool false) => false
        | _ => true
      options := match Obj.get? field "options" with
        | some (.arr options) => options.filterMap Json.asStr?
        | _ => [] }
  | _ => none

def pendingInput (data : Obj) : Option PendingInput :=
  let requestId := string (data.get? "request_id")
  let prompt := string (data.get? "prompt")
  let expiresAt := string (data.get? "expires_at")
  match data.get? "fields" with
  | some (.arr fields) =>
    if requestId = "" ∨ prompt = "" ∨ expiresAt = "" then none
    else
      let shown := fields.filterMap pendingField
      if shown = [] then none
      else some { requestId := requestId, prompt := prompt, expiresAt := expiresAt, fields := shown }
  | _ => none

/-- `items.slice(-n)`. -/
def lastItems {α : Type} (n : ℕ) (items : List α) : List α := items.drop (items.length - n)

/-! ## The reducer -/

/-- What an event does to the state that has counted it. -/
def applyType (next : RunUiState) (event : PublicRunEvent) : RunUiState :=
  let data := event.data
  match event.type with
  | .runAccepted =>
    { next with
      lifecycle := .queued, phase := string (data.get? "phase") "accepted", phaseLabel := "请求已进入处理队列" }
  | .runLifecycleChanged => { next with lifecycle := lifecycle (data.get? "lifecycle_state") next.lifecycle }
  | .runPhaseChanged =>
    let progress := number (coalesce (data.get? "progress_percent") (data.get? "progress")) next.progress
    { next with
      phase := string (data.get? "phase") next.phase, phaseLabel := string (data.get? "label") next.phaseLabel
      progress := max 0 (min 100 progress) }
  | .agentActivity =>
    { next with
      activities := lastItems 12 (next.activities ++ [{
        id := event.eventId, label := string (data.get? "activity") "专业 Agent 正在处理"
        status := string (data.get? "status") "progress", «at» := event.occurredAt }]) }
  | .artifactCandidateUpdated => { next with candidate := pointer data .candidate <|> next.candidate }
  | .artifactPublished =>
    { next with published := pointer data .published <|> next.published, progress := max 95 next.progress }
  | .riskDetected =>
    { next with
      risks := lastItems 20 (next.risks ++ [{
        id := string (data.get? "risk_id") event.eventId, severity := string (data.get? "severity") "medium"
        message := string (data.get? "message") "发现一项需要确认的风险" }]) }
  | .inputRequired =>
    { next with
      lifecycle := .waitingInput, needsInput := true, pendingInput := pendingInput data <|> next.pendingInput }
  | .approvalRequired => { next with lifecycle := .waitingApproval, needsApproval := true }
  | .runCompleted =>
    { next with
      lifecycle := .completed, phase := "finished", progress := 100, connection := .closed, needsInput := false
      pendingInput := none }
  | .runFailed =>
    let publicError := record? (data.get? "error")
    { next with
      lifecycle := .failed, connection := .closed
      publicError := some {
        code := string (coalesce (property publicError "code") (data.get? "error_code")) "RUN_FAILED"
        message := string (property publicError "message") "本次处理未能完成，请稍后重试"
        retryable := (property publicError "retryable").any Json.isTrue } }
  | .runCanceled => { next with lifecycle := .canceled, connection := .closed }
  | .citationAdded | .heartbeat => next

/-- The state that has counted an event. -/
def countEvent (state : RunUiState) (event : PublicRunEvent) : RunUiState :=
  { state with
    runId := some event.runId, tripId := some event.tripId, lastSeq := event.seq
    controlVersion := max state.controlVersion
      (number (event.data.get? "control_version") state.controlVersion) }

def applyEvent (state : RunUiState) (event : PublicRunEvent) : RunUiState :=
  if state.runId.any fun runId => runId ≠ "" ∧ event.runId ≠ runId then state
  else if event.seq ≤ state.lastSeq then state
  else applyType (countEvent state event) event

/-- `action.run.result_artifact_id && action.run.result_artifact_version`. -/
def RunSnapshot.result (run : RunSnapshot) : Option ArtifactPointer :=
  match run.resultArtifactId.bind truthy, run.resultArtifactVersion with
  | some artifactId, some version =>
    if version = 0 then none else some { artifactId := artifactId, version := version, status := .published }
  | _, _ => none

def applySnapshot (state : RunUiState) (run : RunSnapshot) (lastSeq : ℤ) : RunUiState :=
  let sameRun := state.runId = some run.runId
  { runId := some run.runId, tripId := some run.tripId, lifecycle := run.lifecycleState, phase := run.phase
    phaseLabel := run.phase, controlVersion := run.controlVersion, lastSeq := lastSeq
    connection := if sameRun then state.connection else .idle
    candidate := if sameRun then state.candidate else none
    activities := if sameRun then state.activities else []
    risks := if sameRun then state.risks else []
    progress := if run.lifecycleState = .completed then 100 else 0
    published := run.result <|> if sameRun then state.published else none
    needsInput := run.lifecycleState = .waitingInput
    pendingInput := run.pendingInput }

def runEventReducer (state : RunUiState) : RunAction → RunUiState
  | .reset => {}
  | .connection connection => { state with connection := connection }
  | .snapshot run lastSeq => applySnapshot state run lastSeq
  | .event event => applyEvent state event

def isRunTerminal (state : RunUiState) : Bool := state.lifecycle ∈ [.completed, .failed, .canceled]

/-- The state after some events. -/
def receive (state : RunUiState) (events : List PublicRunEvent) : RunUiState :=
  events.foldl (fun state event => runEventReducer state (.event event)) state

@[simp] theorem receive_nil (state : RunUiState) : receive state [] = state := rfl

@[simp] theorem receive_cons (state : RunUiState) (event : PublicRunEvent) (events : List PublicRunEvent) :
    receive state (event :: events) = receive (applyEvent state event) events := rfl

theorem receive_append (state : RunUiState) (events events' : List PublicRunEvent) :
    receive state (events ++ events') = receive (receive state events) events' := List.foldl_append

end RoutePilot.Web
