/-
  The run coordinator (`RunCoordinator` in `runtime.py`): submission,
  resumption, execution and cancellation of Runs, in the order of their awaits.
-/
import RoutePilot.Runtime.Effects

namespace RoutePilot

open Lib

/-! ## What a coordinator is built from -/

/-- One contract-valid Artifact proposed by an execution. -/
structure ExecutionArtifact where
  artifactId : Option String
  artifactType : String
  schemaVersion : ℕ
  content : Obj
  status : ArtifactStatus := .validated

/-- The Artifacts returned by one execution. -/
structure ExecutionResult where
  artifactType : String
  schemaVersion : ℕ
  content : Obj
  artifactId : Option String := none
  supportingArtifacts : List ExecutionArtifact := []
  publishable : Bool := true

/-- What a `WholeRunExecutor` does: report progress, await anything else, return or raise.  It
    decides how to go on from every outcome of an await.  (A finite tree has every finite part of
    an execution that never ends.) -/
inductive Script where
  | done (result : ExecutionResult)
  | raise (e : Exc)
  | progress (phase label : String) (percent : ℤ) (k : Except Exc Unit → Script)
  | external (k : Except Exc Unit → Script)

/-- Every result the executor can return satisfies `P`. -/
def Script.Yields (P : ExecutionResult → Prop) : Script → Prop
  | .done result => P result
  | .raise _ => True
  | .progress _ _ _ k => ∀ r, (k r).Yields P
  | .external k => ∀ r, (k r).Yields P

/-- Without a restriction every result is allowed. -/
theorem Script.yields_of_forall {P : ExecutionResult → Prop} (h : ∀ r, P r) :
    ∀ x : Script, x.Yields P
  | .done r => h r
  | .raise _ => trivial
  | .progress _ _ _ k => fun r => Script.yields_of_forall h (k r)
  | .external k => fun r => Script.yields_of_forall h (k r)

/-- A coordinator: its executor, its flags, and the functions on requests it uses. -/
structure Coordinator where
  executor : RunView → Principal → Script
  inProcessExecution : Bool := true
  /-- whether `cancel_run_tasks` is set -/
  cancelsRunTasks : Bool := true
  /-- `canonical_request_hash` of a submission -/
  submitHash : String → RunCreateRequest → String
  /-- `canonical_request_hash` of a resumption -/
  resumeHash : String → RunResumeRequest → String
  /-- the patched brief of a replan: the base validated as a `TripSnapshot`, the patch applied -/
  patchedBrief : ArtifactView → RunCommand → Principal → Except Exc Json

/-! ## Transitions -/

/-- The keyword arguments of `_transition`. -/
structure Transition where
  lifecycleState : Option RunLifecycle := none
  phase : Option String := none
  pendingInput : Option RunPendingInput := none
  artifact : Option ArtifactView := none
  errorCode : Option String := none
  executionLease : Option RunExecutionLease := none
  eventType : EventType
  data : Obj

/-- The `mutate_run` call of a transition of `run`. -/
def Transition.mutation (t : Transition) (run : RunView) (eventData : Obj) : RunMutation where
  expectedControlVersion := run.controlVersion
  lifecycleState := t.lifecycleState
  phase := t.phase
  pendingInput := t.pendingInput
  resultArtifact := t.artifact
  publicErrorCode := t.errorCode
  executionLease := t.executionLease
  eventType := t.eventType
  eventData := eventData

/-- `_transition`: compare-and-set against the version of `run`. -/
def transition (p : Principal) (run : RunView) (t : Transition) : Async RunView := do
  let now ← Co.act (E := rt) .utcNow
  match projectPublicEventData now t.eventType t.data
      ⟨run, t.lifecycleState, t.phase, t.artifact, t.errorCode⟩ with
  | none => raise (.exception "ValueError")
  | some eventData =>
    let updated ← callStore (.mutateRun p run.runId (t.mutation run eventData))
    return updated.1

def getRunC (p : Principal) (runId : String) : Async RunView := callStore (.getRun p runId)

/-- `_progress`. -/
def reportProgress (p : Principal) (runId phase label : String) (percent : ℤ)
    (lease : Option RunExecutionLease) : Async Unit := do
  let current ← getRunC p runId
  if current.lifecycleState.isTerminal ∨ current.lifecycleState = .cancelRequested then
    raise .cancelled
  else
    let _ ← transition p current {
      phase := some phase, executionLease := lease, eventType := .runPhaseChanged
      data := [("phase", .str phase), ("label", .str (pyTake 160 label)),
        ("progress", .int (max 0 (min 100 percent)))] }
    return ()

/-- `_finish_canceled`. -/
def finishCanceled (p : Principal) (runId : String) : Async Unit := do
  let current ← getRunC p runId
  if current.lifecycleState.isTerminal then return ()
  else
    Co.tryCatch (do
      let _ ← transition p current {
        lifecycleState := some .canceled, phase := some "canceled", eventType := .runCanceled
        data := [("lifecycle_state", .str RunLifecycle.canceled.value)] }
      return ()) fun
    | .store (.versionConflict _) => return ()
    | e => raise e

/-- `_finish_failed`. -/
def finishFailed (p : Principal) (runId errorCode : String) (lease : Option RunExecutionLease) :
    Async Unit := do
  let current ← getRunC p runId
  if current.lifecycleState = .cancelRequested then finishCanceled p runId
  else if current.lifecycleState.isTerminal then return ()
  else
    Co.tryCatch (do
      let _ ← transition p current {
        lifecycleState := some .failed, phase := some "failed", errorCode := some errorCode
        executionLease := lease, eventType := .runFailed
        data := [("lifecycle_state", .str RunLifecycle.failed.value),
          ("error_code", .str errorCode)] }
      return ()) fun
    | .store (.versionConflict _) => return ()
    | .store (.runExecutionLeaseLost _) => return ()
    | e => raise e

/-! ## Input a Run waits for -/

/-- The Run is an interactive plan without its request. -/
def needsInput (run : RunView) : Bool :=
  run.command.type = .tripPlan &&
    (run.command.payload.get? "interactive").any Json.isTrue &&
    !(run.command.payload.get? "trip_brief").any Json.isDict &&
    !(run.command.payload.get? "trip_request").any Json.isDict &&
    !(run.command.payload.get? "resume_input").any Json.isDict

/-- Thirty minutes in microseconds. -/
def inputLife : ℕ := 1_800_000_000

/-- The clarification request of an incomplete plan. -/
def clarification (requestId : String) (now : Time) : RunPendingInput where
  requestId := requestId
  prompt := "请补充目的地、日期、同行人数和预算后继续规划。"
  fields :=
    [{ fieldId := "destination", label := "目的地", inputType := .text },
      { fieldId := "start_date", label := "开始日期", inputType := .date },
      { fieldId := "end_date", label := "结束日期", inputType := .date },
      { fieldId := "adults", label := "成人数量", inputType := .number },
      { fieldId := "seniors", label := "老人数量", inputType := .number, required := false },
      { fieldId := "budget_min", label := "最低预算", inputType := .number },
      { fieldId := "budget_max", label := "最高预算", inputType := .number },
      { fieldId := "currency", label := "币种", inputType := .singleSelect
        options := ["CNY", "USD", "EUR", "JPY"] }]
  expiresAt := now + inputLife

/-- `_required_input`. -/
def requiredInput (run : RunView) : Async (Option RunPendingInput) :=
  if needsInput run then do
    let requestId ← Co.act (E := rt) (.newPublicId "input")
    let now ← Co.act (E := rt) .utcNow
    return some (clarification requestId now)
  else return none

/-- `field.model_dump(mode="json")`. -/
def RunInputField.dump (f : RunInputField) : Json :=
  .obj [("field_id", .str f.fieldId), ("label", .str f.label), ("input_type", .str f.inputType.value),
    ("required", .bool f.required), ("options", .arr (f.options.map .str))]

/-- `pending_input.model_dump(mode="json")`. -/
def RunPendingInput.dump (p : RunPendingInput) : Obj :=
  [("request_id", .str p.requestId), ("prompt", .str p.prompt),
    ("fields", .arr (p.fields.map RunInputField.dump)), ("expires_at", .str (Time.dumped p.expiresAt))]

/-! ## Execution -/

/-- An execution with its progress reports. -/
def Script.run (report : String → String → ℤ → Async Unit) : Script → Async ExecutionResult
  | .done result => .ret result
  | .raise e => .raise e
  | .progress phase label percent k =>
    (report phase label percent).handle fun r => Script.run report (k r)
  | .external k => .await (E := rt) .external fun r => Script.run report (k r)

/-- The Run, if it is still running. -/
def getRunning (p : Principal) (runId : String) : Async RunView := do
  let current ← getRunC p runId
  if current.lifecycleState ≠ .running then raise .cancelled
  else return current

def ExecutionArtifact.creation (a : ExecutionArtifact) (tripId : String)
    (lease : Option RunExecutionLease) : ArtifactCreation where
  tripId := tripId
  artifactId := a.artifactId
  artifactType := a.artifactType
  schemaVersion := a.schemaVersion
  content := a.content
  status := a.status
  executionLease := lease

def ExecutionResult.creation (r : ExecutionResult) (tripId : String)
    (lease : Option RunExecutionLease) : ArtifactCreation where
  tripId := tripId
  artifactId := r.artifactId
  artifactType := r.artifactType
  schemaVersion := r.schemaVersion
  content := r.content
  status := .candidate
  executionLease := lease

/-- Create the supporting Artifacts, one after the other. -/
def createSupporting (p : Principal) (tripId : String) (lease : Option RunExecutionLease) :
    List ExecutionArtifact → Async Unit
  | [] => return ()
  | a :: as => do
    let _ ← callStore (.createArtifact p (a.creation tripId lease))
    createSupporting p tripId lease as

/-- A result that is not publishable fails the Run. -/
def failValidation (p : Principal) (run : RunView) (artifact : ArtifactView)
    (lease : Option RunExecutionLease) : Async Unit := do
  let current ← transition p run {
    phase := some "validation", executionLease := lease, eventType := .artifactCandidateUpdated
    data := [("artifact_id", .str artifact.artifactId), ("artifact_version", .int artifact.version),
      ("artifact_type", .str artifact.artifactType), ("schema_version", .int artifact.schemaVersion),
      ("status", .str ArtifactStatus.candidate.value)] }
  let _ ← transition p current {
    lifecycleState := some .failed, phase := some "validation"
    errorCode := some "VALIDATION_BLOCKED", executionLease := lease, eventType := .runFailed
    data := [("lifecycle_state", .str RunLifecycle.failed.value),
      ("error_code", .str "VALIDATION_BLOCKED")] }
  return ()

/-- A publishable result is published, and the Run completed. -/
def publishAndComplete (p : Principal) (run : RunView) (artifact : ArtifactView)
    (lease : Option RunExecutionLease) : Async Unit := do
  let current ← transition p run {
    phase := some "published", artifact := some artifact, executionLease := lease
    eventType := .artifactPublished
    data := [("artifact_id", .str artifact.artifactId), ("artifact_version", .int artifact.version),
      ("artifact_type", .str artifact.artifactType),
      ("status", .str ArtifactStatus.published.value)] }
  let _ ← transition p current {
    lifecycleState := some .completed, phase := some "completed", executionLease := lease
    eventType := .runCompleted
    data := [("lifecycle_state", .str RunLifecycle.completed.value),
      ("artifact_id", .str artifact.artifactId), ("artifact_version", .int artifact.version),
      ("artifact_type", .str artifact.artifactType),
      ("schema_version", .int artifact.schemaVersion)] }
  return ()

/-- The Artifacts of an execution, and the end of its Run. -/
def finishExecution (p : Principal) (runId : String) (lease : Option RunExecutionLease)
    (result : ExecutionResult) : Async Unit := do
  let current ← getRunning p runId
  createSupporting p current.tripId lease result.supportingArtifacts
  let current ← getRunning p runId
  let artifact ← callStore (.createArtifact p (result.creation current.tripId lease))
  let current ← getRunning p runId
  if result.publishable then publishAndComplete p current artifact lease
  else failValidation p current artifact lease

/-- The execution of a running Run. -/
def executeRunning (X : Coordinator) (p : Principal) (runId : String)
    (lease : Option RunExecutionLease) (current : RunView) : Async Unit := do
  match ← requiredInput current with
  | some pendingInput =>
    let _ ← transition p current {
      lifecycleState := some .waitingInput, phase := some "clarification"
      pendingInput := some pendingInput, executionLease := lease, eventType := .inputRequired
      data := pendingInput.dump }
    return ()
  | none =>
    let result ← (X.executor current p).run fun phase label percent =>
      reportProgress p runId phase label percent lease
    finishExecution p runId lease result

/-- The `try` block of `_execute`. -/
def executeBody (X : Coordinator) (p : Principal) (runId : String)
    (lease : Option RunExecutionLease) : Async Unit := do
  let current ← getRunC p runId
  match current.lifecycleState with
  | .queued =>
    let current ← transition p current {
      lifecycleState := some .running, phase := some "starting", executionLease := lease
      eventType := .runLifecycleChanged
      data := [("lifecycle_state", .str RunLifecycle.running.value)] }
    executeRunning X p runId lease current
  | .running => executeRunning X p runId lease current
  | _ => return ()

/-- The cancellation of a leased execution: finish a canceled Run, leave any other to its lease. -/
def cancelLeased (p : Principal) (runId : String) : Async Unit := do
  let current ← getRunC p runId
  if current.lifecycleState = .cancelRequested then finishCanceled p runId
  else if current.lifecycleState.isTerminal then return ()
  else raise .cancelled

/-- A conflicting version: finish a canceled Run. -/
def settleConflict (p : Principal) (runId : String) : Async Unit := do
  let current ← getRunC p runId
  if current.lifecycleState = .cancelRequested then finishCanceled p runId
  else return ()

/-- The `except` clauses of `_execute`. -/
def executeHandler (p : Principal) (runId : String) (lease : Option RunExecutionLease) :
    Exc → Async Unit
  | .cancelled =>
    match lease with
    | none => finishCanceled p runId
    | some _ => cancelLeased p runId
  | .store (.runExecutionLeaseLost message) => raise (.runExecutionLeaseLost message)
  | .store (.versionConflict _) => settleConflict p runId
  | .baseException name => raise (.baseException name)
  | _ => finishFailed p runId "RUN_EXECUTION_FAILED" lease

/-- `_execute`. -/
def execute (X : Coordinator) (runId : String) (p : Principal) (lease : Option RunExecutionLease) :
    Async Unit := do
  Co.act (E := rt) .enterTry
  (executeBody X p runId lease).handle fun r => do
    Co.act (E := rt) .leaveTry
    match r with
    | .ok _ => return ()
    | .error e => executeHandler p runId lease e

/-! ## Submission and resumption -/

/-- Start the local task of a Run. -/
def startLocal (c : ℕ) (p : Principal) (runId : String) : Async Unit := do
  let task ← Co.act (E := rt) (.createTask (.execute c runId p none))
  Co.call (E := rt) (.setTask c runId task)
  Co.act (E := rt) (.addDoneCallback task (.forget c runId))

/-- Start the local task of a Run that was created or resumed, not replayed. -/
def startUnlessReplayed (X : Coordinator) (c : ℕ) (p : Principal) (result : IdempotentRunResult) :
    Async IdempotentRunResult :=
  if !result.replayed && X.inProcessExecution then do
    startLocal c p result.run.runId
    return result
  else return result

/-- The command of a replan: the patched brief of its pinned base. -/
def replanCommand (X : Coordinator) (p : Principal) (tripId : String) (request : RunCreateRequest) :
    Async RunCommand :=
  match request.baseArtifactId, request.baseArtifactVersion with
  | some id, some version => do
    let base ← callStore (.getArtifact p id (some version))
    if base.tripId ≠ tripId ∨ base.artifactType ≠ "TripSnapshot" then
      raise (.store (.versionConflict base.version))
    else
      let brief ← Co.ofExcept (E := rt) (X.patchedBrief base request.command p)
      return { request.command with
        payload := (request.command.payload.set "trip_brief" brief).set "base_snapshot_ref"
          (.obj [("artifact_id", .str base.artifactId), ("version", .int base.version)]) }
  | _, _ => raise (.exception "ValueError")

/-- The command a submission creates its Run with. -/
def submittedCommand (X : Coordinator) (p : Principal) (tripId : String)
    (request : RunCreateRequest) : Async RunCommand :=
  if request.command.type = .tripReplan then replanCommand X p tripId request
  else return request.command

def submit (X : Coordinator) (c : ℕ) (p : Principal) (tripId : String) (request : RunCreateRequest)
    (idempotencyKey traceId : String) : Async IdempotentRunResult := do
  let command ← submittedCommand X p tripId request
  let result ← callStore (.createRun p {
    tripId := tripId, command := command, baseArtifactId := request.baseArtifactId
    baseArtifactVersion := request.baseArtifactVersion, idempotencyKey := idempotencyKey
    requestHash := X.submitHash tripId request, traceId := traceId })
  startUnlessReplayed X c p result

def resume (X : Coordinator) (c : ℕ) (p : Principal) (runId : String) (request : RunResumeRequest)
    (idempotencyKey : String) : Async IdempotentRunResult := do
  let result ← callStore (.resumeRun p runId {
    expectedControlVersion := request.expectedControlVersion, requestId := request.requestId
    values := request.values, idempotencyKey := idempotencyKey
    requestHash := X.resumeHash runId request })
  startUnlessReplayed X c p result

/-! ## Cancellation -/

/-- Request the cancellation of a Run that is neither terminal nor already requested to cancel:
    compare-and-set against the version the client gave. -/
def requestCancel (p : Principal) (current : RunView) (expectedControlVersion : ℕ) : Async RunView :=
  if current.lifecycleState = .cancelRequested then return current
  else transition p { current with controlVersion := expectedControlVersion } {
    lifecycleState := some .cancelRequested, phase := some "canceling"
    eventType := .runLifecycleChanged
    data := [("lifecycle_state", .str RunLifecycle.cancelRequested.value),
      ("reason", .str "user_requested")] }

/-- `except Exception` around the propagation to the A2A Tasks: the error is kept for later. -/
def propagateCancel (X : Coordinator) (p : Principal) (runId : String) : Async (Option Exc) :=
  if X.cancelsRunTasks then
    Co.tryCatch (do
      Co.call (E := rt) (.cancelRunTasks p runId)
      return none) fun
    | .cancelled => raise .cancelled
    | .baseException name => raise (.baseException name)
    | e => return some e
  else return none

/-- Cancel the local task of a Run, if there is one. -/
def cancelLocal (c : ℕ) (runId : String) : Async (Option ℕ) := do
  match ← Co.call (E := rt) (.getTask c runId) with
  | some task =>
    Co.act (E := rt) (.cancelTask task)
    return some task
  | none => return none

/-- The end of a cancellation, once it is requested: the propagation, the local task (also when the
    propagation is interrupted), and the last transition if there is no local task. -/
def stopExecution (X : Coordinator) (c : ℕ) (p : Principal) (runId : String) (updated : RunView) :
    Async RunView :=
  (propagateCancel X p runId).handle fun r => do
    let task ← cancelLocal c runId
    match r with
    | .error e => raise e
    | .ok (some e) => raise e
    | .ok none =>
      match task with
      | some _ => return updated
      | none => do
        finishCanceled p runId
        return updated

def cancel (X : Coordinator) (c : ℕ) (p : Principal) (runId : String) (expectedControlVersion : ℕ) :
    Async RunView := do
  let current ← getRunC p runId
  if current.lifecycleState.isTerminal then return current
  else
    let updated ← requestCancel p current expectedControlVersion
    stopExecution X c p runId updated

/-- `_forget`. -/
def forget (c : ℕ) (runId : String) : Async Unit := Co.call (E := rt) (.popTask c runId)

end RoutePilot
