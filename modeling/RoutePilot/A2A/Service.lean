/-
  The Task service (`travel_agent/a2a/service.py`) as coroutines over the Task
  store: creation, typed input, execution under a lease, and cancellation.

  A message comes decoded: what `_dispatch_metadata`, `_parse_invocation` and
  `_parse_input_response` make of its parts (or nothing, where they reject it),
  with its fingerprint.  `_launch` starts `_execute_job` as a task; jobs of the
  model start at any time, so nothing stands for it here.
-/
import RoutePilot.A2A.Backend
import RoutePilot.Lib.Procs

namespace RoutePilot.A2A

open Lib

/-! ## Effects -/

inductive ServiceError where
  | store (e : TaskStoreError)
  | timeoutError
  /-- `asyncio.CancelledError`, which is no `Exception` -/
  | cancelled
  | invalidParams (message : String)
  | taskNotFound
  | taskNotCancelable
  /-- any other `Exception` -/
  | exception (name : String)
  deriving DecidableEq, Repr

structure ArtifactOutput where
  contract : String
  payload : Obj
  artifactId : Option String := none
  name : String
  description : Option String := none
  deriving Repr, Inhabited

/-- What an executor returns. -/
inductive ExecutionResult where
  | completed (artifacts : List ArtifactOutput)
  | inputRequired (requestId : String) (request : Obj)
  | authRequired (dependency message : String)
  | failed (code message : String)
  | unsupported

/-- Awaited operations. -/
inductive ServiceOp where
  | store (o : TaskOp)
  /-- `_execute_with_heartbeat`: the executor, under its deadline and heartbeat -/
  | execute (record : TaskRecord) (input : Option InputResponse)
  /-- never answered -/
  | forever

@[reducible] def ServiceOp.Ans : ServiceOp → Type
  | .store o => o.Ans
  | .execute .. => ExecutionResult
  | .forever => Empty

/-- Actions between awaits. -/
inductive ServiceAct where
  | utcNow
  | uuid4
  /-- `is_set()` of an `asyncio.Event` of the job -/
  | isSet

@[reducible] def ServiceAct.Res : ServiceAct → Type
  | .utcNow => Time
  | .uuid4 => String
  | .isSet => Bool

@[reducible] def svc : Effects where
  Op := ServiceOp
  Ans := ServiceOp.Ans
  Act := ServiceAct
  Res := ServiceAct.Res
  Err := ServiceError

/-- A coroutine of the service. -/
abbrev Svc := Co svc

def callStore (o : TaskOp) : Svc o.Ans := Co.call (E := svc) (.store o)

def utcNow : Svc Time := Co.act (E := svc) .utcNow

def uuid4 : Svc String := Co.act (E := svc) .uuid4

def isSet : Svc Bool := Co.act (E := svc) .isSet

def raise {α : Type} (e : ServiceError) : Svc α := Co.raise e

def forever {α : Type} : Svc α := .await (E := svc) .forever fun
  | .error e => .raise e
  | .ok a => a.elim

/-! ## Configuration -/

/-- What a service knows of the agent and its contracts, and the length of its leases. -/
structure ServiceConfig where
  allowedOutputContracts : List String
  /-- `_contract_validator(contract, payload)` does not raise -/
  validates : String → Obj → Bool
  executionLease : ℕ

def publicErrorSchemaUri : String := "urn:routepilot:a2a:public-error:v1"
def inputRequestSchemaUri : String := "urn:routepilot:a2a:input-request:v1"
def dependencyAuthSchemaUri : String := "urn:routepilot:a2a:dependency-auth-request:v1"

/-! ## Transitions -/

/-- The record `_transition` proposes. -/
def TaskRecord.transitioned (r : TaskRecord) (newState : TaskState) (message : Option StatusMessage)
    (artifacts : List TaskArtifact) (pending : Option String) (timestamp updatedAt : Time) : TaskRecord :=
  let nextVersion := r.version + 1
  let status : TaskStatus := { state := newState, timestamp := timestamp, message := message }
  { r with
    task := { r.task with status := status, artifacts := r.task.artifacts ++ artifacts }
    version := nextVersion
    updatedAt := some updatedAt
    pendingInputRequestId := pending
    executionInput := if newState = .working then r.executionInput else none
    events := r.events ++ (artifacts.map fun a => ⟨nextVersion, .artifact a⟩) ++
      [⟨nextVersion, .status status⟩] }

/-- `except TaskMissing` around a read. -/
def getOrNone (key : TaskKey) : Svc (Option TaskRecord) :=
  Co.tryCatch (do
    let current ← callStore (.get key)
    return some current) fun
    | .store .taskMissing => return none
    | e => raise e

/-- A replacement, whose version conflict goes round once more. -/
def tryReplace (record : TaskRecord) (expectedVersion : ℕ) (lease : Option TaskExecutionLease) :
    Svc (TaskRecord ⊕ Unit) :=
  Co.tryCatch (do
    let stored ← callStore (.replace record expectedVersion lease)
    return .inl stored) fun
    | .store .taskVersionConflict => return .inr ()
    | e => raise e

def transition (n : ℕ) (record : TaskRecord) (allowedStates : List TaskState) (newState : TaskState)
    (message : Option StatusMessage) (artifacts : List TaskArtifact) (pending : Option String)
    (executionLease : Option TaskExecutionLease) : Svc TaskRecord :=
  Co.loop forever (fun _ => do
    match ← getOrNone record.key with
    | none => return .inl record
    | some current =>
      if current.state ∉ allowedStates then return .inl current
      else
        let timestamp ← utcNow
        let updatedAt ← utcNow
        tryReplace (current.transitioned newState message artifacts pending timestamp updatedAt)
          current.version executionLease) n ()

def failIfWorking (n : ℕ) (record : TaskRecord) (code message : String)
    (executionLease : Option TaskExecutionLease) : Svc Unit := do
  let messageId ← uuid4
  let payload : Obj := [("code", .str code), ("message", .str message), ("retryable", .bool false)]
  let _ ← transition n record [.working, .submitted] .failed
    (some ⟨messageId, publicErrorSchemaUri, payload⟩) [] none executionLease

/-! ## Execution -/

/-- `_validated_output_artifacts`, with the identifiers seen so far. -/
def validatedOutputArtifacts (cfg : ServiceConfig) (record : TaskRecord) :
    List String → List ArtifactOutput → Svc (List TaskArtifact)
  | _, [] => return []
  | identifiers, output :: outputs => do
    if output.contract ∉ cfg.allowedOutputContracts then raise (.exception "ValueError")
    else if cfg.validates output.contract output.payload = false then raise (.exception "ValueError")
    else
      let artifactId ← (match output.artifactId with
        | some id => pure id
        | none => uuid4)
      if artifactId ∈ identifiers then raise (.exception "ValueError")
      else
        let artifacts ← validatedOutputArtifacts cfg record (artifactId :: identifiers) outputs
        return { artifactId := artifactId, name := output.name
                 description := output.description.getD "", contract := output.contract
                 runId := record.runId, payload := output.payload } :: artifacts

def applyExecutionResult (cfg : ServiceConfig) (n : ℕ) (record : TaskRecord) (result : ExecutionResult)
    (lease : TaskExecutionLease) : Svc Unit := do
  match result with
  | .completed outputs =>
    let artifacts ← validatedOutputArtifacts cfg record [] outputs
    let _ ← transition n record [.working] .completed none artifacts none (some lease)
  | .inputRequired requestId request =>
    let messageId ← uuid4
    let _ ← transition n record [.working] .inputRequired
      (some ⟨messageId, inputRequestSchemaUri, request⟩) [] (some requestId) (some lease)
  | .authRequired dependency message =>
    let messageId ← uuid4
    let payload : Obj := [("dependency", .str dependency), ("message", .str message)]
    let _ ← transition n record [.working] .authRequired
      (some ⟨messageId, dependencyAuthSchemaUri, payload⟩) [] none (some lease)
  | .failed code message => failIfWorking n record code message (some lease)
  | .unsupported => raise (.exception "ValueError")

/-- The `try` block of `_execute_job`, once the lease is claimed. -/
def executeClaimed (cfg : ServiceConfig) (n : ℕ) (record : TaskRecord) (input : Option InputResponse)
    (alreadyWorking : Bool) (lease : TaskExecutionLease) : Svc Unit := do
  let current ← (if alreadyWorking then callStore (.get record.key)
    else transition n record [.submitted] .working none [] none (some lease))
  if current.state ≠ .working then return ()
  else
    let result ← Co.call (E := svc) (.execute current (current.executionInput <|> input))
    let canceled ← isSet
    if canceled then return ()
    else applyExecutionResult cfg n current result lease

/-- The `except` clauses of `_execute_job`; `lease` is what was claimed before. -/
def executeFailed (n : ℕ) (record : TaskRecord) (lease : Option TaskExecutionLease) :
    ServiceError → Svc Unit
  | .timeoutError =>
    failIfWorking n record "AGENT_DEADLINE_EXCEEDED" "The agent task exceeded its deadline." lease
  | .store .taskExecutionLeaseLost => return ()
  | .cancelled => return ()
  | _ => failIfWorking n record "AGENT_EXECUTION_FAILED" "The agent task could not be completed." lease

/-- `_execute_job`, for an owner drawn by `uuid4`.  Its `try` block begins with the claim. -/
def executeJob (cfg : ServiceConfig) (n : ℕ) (record : TaskRecord) (input : Option InputResponse)
    (alreadyWorking : Bool) (owner : String) : Svc Unit :=
  (callStore (.claimExecution record.key owner cfg.executionLease)).handle fun
    | .error e => executeFailed n record none e
    | .ok none => return ()
    | .ok (some lease) =>
      ((executeClaimed cfg n record input alreadyWorking lease).tryCatch
        (executeFailed n record (some lease))).tryFinally (callStore (.releaseExecution lease))

/-- `_heartbeat_execution`, which renews the lease of a job. -/
def heartbeatExecution (cfg : ServiceConfig) (n : ℕ) (lease : TaskExecutionLease) : Svc Unit :=
  Co.loop forever (fun _ => do
    let stopped ← isSet
    if stopped then return .inl ()
    else
      let renewed ← Co.tryCatch (callStore (.renewExecution lease cfg.executionLease)) fun
        | .cancelled => raise .cancelled
        | _ => return none
      match renewed with
      | none => return .inl ()
      | some _ => return .inr ()) n ()

/-! ## Messages -/

/-- Dispatch metadata of a message, with the deadline it asks for. -/
structure DispatchMetadata where
  dispatchId : String
  runId : String
  deadline : Option Time := none
  deriving Repr, Inhabited

/-- A user message, decoded. -/
structure Message where
  messageId : String
  contextId : String := ""
  taskId : String := ""
  referenceTaskIds : List String := []
  metadata : DispatchMetadata
  invocation : Option AgentInvocation := none
  inputResponse : Option InputResponse := none
  fingerprint : String
  deriving Repr, Inhabited

/-- A decoded request, with the tenant it names. -/
structure SendMessageRequest where
  tenant : String
  message : Message
  returnImmediately : Bool := true
  deriving Repr, Inhabited

structure Actor where
  tenantId : String
  actorId : String
  deriving Repr, Inhabited

def defaultTaskTimeout : ℕ := 60_000_000
def maxTaskTimeout : ℕ := 1_800_000_000
def maxReferenceTasks : ℕ := 10

/-- `_deadline`. -/
def taskDeadline (metadata : DispatchMetadata) (now : Time) : Except ServiceError Time :=
  let deadline := metadata.deadline.getD (now + defaultTaskTimeout)
  if deadline ≤ now then .error (.invalidParams "deadline must be in the future")
  else if maxTaskTimeout < deadline - now then
    .error (.invalidParams "deadline exceeds the maximum task timeout")
  else .ok deadline

/-- `_validate_references`. -/
def validateReferences (tenantId interfaceId runId : String) : List String → Svc Unit
  | [] => return ()
  | reference :: references => do
    match ← getOrNone (tenantId, interfaceId, reference) with
    | none => raise (.invalidParams "Referenced Task does not exist")
    | some referenced =>
      if referenced.runId ≠ runId then
        raise (.invalidParams "Referenced Task belongs to another Product Run")
      else validateReferences tenantId interfaceId runId references

/-- The record `_resume_input` proposes. -/
def TaskRecord.answered (r : TaskRecord) (message : Message) (response : InputResponse)
    (timestamp updatedAt : Time) : TaskRecord :=
  let nextVersion := r.version + 1
  let status : TaskStatus := { state := .working, timestamp := timestamp }
  { r with
    task := { r.task with status := status }
    version := nextVersion
    updatedAt := some updatedAt
    pendingInputRequestId := none
    executionInput := some response
    messageFingerprints := r.messageFingerprints.set message.messageId message.fingerprint
    events := r.events ++ [⟨nextVersion, .status status⟩] }

/-- The retry loop of `_resume_input`. -/
def answerLoop (n : ℕ) (key : TaskKey) (message : Message) (response : InputResponse) : Svc TaskRecord :=
  Co.loop forever (fun _ => do
    let current ← callStore (.get key)
    if current.state ≠ .inputRequired then
      if current.messageFingerprints.get? message.messageId = some message.fingerprint then
        return .inl current
      else raise (.invalidParams "Task is not waiting for caller input")
    else
      let timestamp ← utcNow
      let updatedAt ← utcNow
      tryReplace (current.answered message response timestamp updatedAt) current.version none) n ()

def resumeInput (n : ℕ) (actor : Actor) (interfaceId : String) (message : Message) : Svc TaskRecord := do
  let key := (actor.tenantId, interfaceId, message.taskId)
  match ← getOrNone key with
  | none => raise .taskNotFound
  | some current =>
    match current.messageFingerprints.get? message.messageId with
    | some prior =>
      if prior ≠ message.fingerprint then
        raise (.invalidParams "messageId was reused with different content")
      else return current
    | none =>
      if current.state ≠ .inputRequired then
        raise (.invalidParams "Task is not waiting for caller input")
      else if message.contextId = "" ∨ message.contextId ≠ current.task.contextId then
        raise (.invalidParams "contextId does not match the Task")
      else if message.metadata.dispatchId ≠ current.dispatchId ∨
          message.metadata.runId ≠ current.runId then
        raise (.invalidParams "Dispatch metadata does not match the Task")
      else
        match message.inputResponse with
        | none => raise (.invalidParams "Invalid typed input response")
        | some response =>
          if some response.requestId ≠ current.pendingInputRequestId then
            raise (.invalidParams "Input response does not match the pending request")
          else answerLoop n key message response

/-- `_wait_until_settled`; a Task past its deadline is failed without a lease. -/
def waitUntilSettled (n : ℕ) (record : TaskRecord) : Svc TaskRecord :=
  Co.loop forever (fun current => do
    if current.state.isSettled then return .inl current
    else
      match ← callStore (.waitForChange record.key current.version) with
      | some changed => return .inr changed
      | none =>
        let now ← utcNow
        (if current.deadline ≤ now then failIfWorking n current "AGENT_DEADLINE_EXCEEDED"
          "The agent task exceeded its deadline." none else pure ())
        let current ← callStore (.get record.key)
        return .inr current) n record

/-- The record of a new Task. -/
def draftRecord (actor : Actor) (interfaceId taskId contextId : String) (message : Message)
    (invocation : AgentInvocation) (deadline createdAt : Time) : TaskRecord :=
  { tenantId := actor.tenantId, actorId := actor.actorId, agentInterfaceId := interfaceId
    runId := message.metadata.runId, dispatchId := message.metadata.dispatchId
    requestFingerprint := message.fingerprint
    task := { id := taskId, contextId := contextId
              status := { state := .submitted, timestamp := createdAt } }
    invocation := invocation, deadline := deadline, referenceTaskIds := message.referenceTaskIds
    createdAt := some createdAt, updatedAt := some createdAt
    messageFingerprints := (∅ : Dict String String).set message.messageId message.fingerprint }

/-- The first message of a Task. -/
def createTask (actor : Actor) (interfaceId : String) (message : Message) : Svc TaskRecord := do
  if message.metadata.dispatchId ≠ message.messageId then
    raise (.invalidParams "Initial messageId must equal dispatch_id")
  else
    match message.invocation with
    | none => raise (.invalidParams "Invalid agent invocation schema")
    | some invocation =>
      let now ← utcNow
      match taskDeadline message.metadata now with
      | .error e => raise e
      | .ok deadline =>
        if maxReferenceTasks < message.referenceTaskIds.length ∨ ¬ message.referenceTaskIds.Nodup then
          raise (.invalidParams "Invalid referenceTaskIds")
        else
          validateReferences actor.tenantId interfaceId message.metadata.runId message.referenceTaskIds
          let taskId ← uuid4
          if 96 < message.contextId.length then
            raise (.invalidParams "contextId exceeds the size limit")
          else
            let contextId ← (if message.contextId = "" then uuid4 else pure message.contextId)
            let createdAt ← utcNow
            let (record, _) ← Co.tryCatch (callStore (.createOrGet
              (draftRecord actor interfaceId taskId contextId message invocation deadline createdAt))) fun
              | .store (.dispatchConflict _) =>
                raise (.invalidParams "dispatch_id was reused with another request")
              | e => raise e
            return record

def sendMessage (n : ℕ) (actor : Actor) (interfaceId : String) (params : SendMessageRequest) :
    Svc Task := do
  if params.tenant = "" ∨ params.tenant ≠ actor.tenantId then raise .taskNotFound
  else
    let record ← (if params.message.taskId ≠ "" then resumeInput n actor interfaceId params.message
      else createTask actor interfaceId params.message)
    if params.returnImmediately then return record.task
    else
      let settled ← waitUntilSettled n record
      return settled.task

/-- `recover_dispatch` of a dispatch that is already stored. -/
def recoverDispatch (n : ℕ) (actor : Actor) (interfaceId runId dispatchId : String) (wait : Bool) :
    Svc (Option Task) := do
  let found ← Co.tryCatch (do
    let record ← callStore (.getByDispatch (actor.tenantId, interfaceId, dispatchId))
    return some record) fun
    | .store .taskMissing => return none
    | e => raise e
  match found with
  | none => return none
  | some record =>
    if record.runId ≠ runId then raise (.invalidParams "Dispatch belongs to another Product Run")
    else if wait then
      let settled ← waitUntilSettled n record
      return some settled.task
    else return some record.task

/-! ## Cancellation -/

/-- `cancel_task`; the local job is stopped at any time, as far as the model is concerned. -/
def cancelTask (n : ℕ) (actor : Actor) (interfaceId tenant taskId : String) : Svc Task := do
  if tenant = "" ∨ tenant ≠ actor.tenantId then raise .taskNotFound
  else
    match ← getOrNone (actor.tenantId, interfaceId, taskId) with
    | none => raise .taskNotFound
    | some current =>
      if current.state ∉ cancelableStates then raise .taskNotCancelable
      else
        let canceled ← transition n current cancelableStates .canceled none [] none none
        return canceled.task

/-- Cancel the listed Tasks one after another. -/
def cancelListed (n : ℕ) : List TaskRecord → Svc (List Task)
  | [] => return []
  | record :: records => do
    let current ← (if record.state ∈ cancelableStates then
        transition n record cancelableStates .canceled none [] none none
      else pure record)
    let canceled ← cancelListed n records
    return if current.state = .canceled then current.task :: canceled else canceled

def cancelRunTasks (n : ℕ) (actor : Actor) (runId : String) : Svc (List Task) := do
  let records ← callStore (.listForRun actor.tenantId runId)
  cancelListed n records

end RoutePilot.A2A
