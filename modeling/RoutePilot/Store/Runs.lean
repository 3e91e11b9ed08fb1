/-
  Runs in the in-memory store: creation, execution leases, the `mutate_run`
  transition with its publication, and the resumption of a waiting Run.

  `mutateRun` follows the order of the source: the Artifact statuses are
  rewritten before the write access to the Trip is checked, so an exception
  there leaves them rewritten (`publishResult`).
-/
import RoutePilot.Store.State

namespace RoutePilot

open Lib

/-! ## Events -/

/-- The event of a transition of `run`, with number `seq`. -/
def newEvent (env : Env) (run : RunView) (seq : ℕ) (type : EventType) (data : Obj)
    (traceId : String) : RunEvent := {
  eventId := env.newPublicId "evt", seq := seq, type := type, occurredAt := env.now
  tripId := run.tripId, runId := run.runId, traceId := traceId, data := data }

/-- `_append_event_locked`: append an event, numbered by the length of the list. -/
def appendEventLocked (env : Env) (run : RunView) (type : EventType) (data : Obj) (traceId : String) :
    StoreM RunEvent := do
  let st ← get
  let events := st.events.getD run.runId []
  let event := newEvent env run (events.length + 1) type data traceId
  modify fun st => { st with events := st.events.set run.runId (events ++ [event]) }
  return event

/-! ## Creation -/

/-- The result of atomically creating, resuming or replaying a Run. -/
structure IdempotentRunResult where
  run : RunView
  event : Option RunEvent
  replayed : Bool
  deriving Repr, Inhabited

structure RunCreation where
  tripId : String
  command : RunCommand
  baseArtifactId : Option String := none
  baseArtifactVersion : Option ℕ := none
  idempotencyKey : String
  requestHash : String
  traceId : String
  deriving Repr, Inhabited

/-- The Artifact version a Trip points to, if it is stored. -/
def currentSnapshot (st : Store) (trip : TripView) : Option ArtifactView := do
  let id ← trip.currentArtifactId
  let v ← trip.currentArtifactVersion
  findVersion (st.artifacts.getD id []) v

/-- `artifact_type == "TripSnapshot" and status == PUBLISHED`. -/
def ArtifactView.isPublishedSnapshot (a : ArtifactView) : Bool :=
  a.artifactType == "TripSnapshot" && a.status == .published

/-- The comparison of a planning command with the Trip's current snapshot. -/
def checkPlanningBase (c : RunCreation) (trip : TripView) (snapshot : Option ArtifactView) :
    Except StoreError Unit :=
  match c.command.type with
  | .tripPlan =>
    match snapshot with
    | some a => if a.isPublishedSnapshot then .error (.versionConflict a.version) else .ok ()
    | none => .ok ()
  | .tripReplan =>
    let conflict := .error (.versionConflict (trip.currentArtifactVersion.getD 1))
    match snapshot with
    | some a =>
      if a.isPublishedSnapshot ∧ c.baseArtifactId = some a.artifactId ∧
          c.baseArtifactVersion = some a.version then .ok () else conflict
    | none => conflict
  | _ => .ok ()

/-- The Run a creation makes. -/
def newRun (env : Env) (p : Principal) (c : RunCreation) (trip : TripView) : RunView := {
  runId := env.newPublicId "run", tripId := trip.tripId, tenantId := p.tenantId
  actorId := p.userId, traceId := c.traceId, lifecycleState := .queued, phase := "accepted"
  controlVersion := 1, command := c.command, baseArtifactId := c.baseArtifactId
  baseArtifactVersion := c.baseArtifactVersion, createdAt := env.now, updatedAt := env.now }

/-- The data of the `run.accepted` event. -/
def acceptedData (run : RunView) : Obj :=
  [("lifecycle_state", .str run.lifecycleState.value), ("phase", .str run.phase),
    ("control_version", .int run.controlVersion)]

/-- The first creation under an idempotency key. -/
def insertRun (env : Env) (p : Principal) (c : RunCreation) (trip : TripView) :
    StoreM IdempotentRunResult := do
  let st ← get
  let _ ← ask fun _ => checkPlanningBase c trip (currentSnapshot st trip)
  let run := newRun env p c trip
  modify fun st => { st with
    runs := st.runs.set run.runId run
    events := st.events.set run.runId [] }
  let event ← appendEventLocked env run .runAccepted (acceptedData run) c.traceId
  modify fun st => { st with
    idempotency := st.idempotency.set (p.tenantId, p.userId, c.idempotencyKey)
      (c.requestHash, run.runId) }
  return { run := run, event := some event, replayed := false }

def createRun (env : Env) (p : Principal) (c : RunCreation) : StoreM IdempotentRunResult := do
  let trip ← ask (tripLocked p c.tripId true)
  ensure (trip.status = .active) (.versionConflict trip.version)
  let st ← get
  match st.idempotency.get? (p.tenantId, p.userId, c.idempotencyKey) with
  | some (existingHash, existingRunId) =>
    ensure (existingHash = c.requestHash)
      (.idempotencyConflict "idempotency key reused with different request")
    let run ← ask fun st => match st.runs.get? existingRunId with
      | some run => .ok run
      | none => .error (.keyError existingRunId)
    return { run := run, event := none, replayed := true }
  | none => insertRun env p c trip

def getRun (p : Principal) (runId : String) : StoreM RunView := ask (runLocked p runId)

/-! ## Execution leases -/

/-- `validate_execution_lease_request`; durations are in microseconds. -/
def validateExecutionLeaseRequest (owner : String) (duration : ℕ) : Except StoreError Unit :=
  if owner = "" ∨ 128 < owner.length then
    .error (.valueError "execution lease owner must be between 1 and 128 characters")
  else if ¬ (50_000 ≤ duration ∧ duration ≤ 3_600_000_000) then
    .error (.valueError "execution lease duration must be between 0.05 and 3600 seconds")
  else .ok ()

/-- Store a new lease with the next attempt number. -/
def grantLease (env : Env) (runId owner : String) (duration : ℕ) : StoreM RunExecutionLease := do
  let st ← get
  let attempt := st.executionAttempts.getD runId 0 + 1
  let lease : RunExecutionLease := ⟨runId, owner, attempt, env.now + duration⟩
  modify fun st => { st with
    executionAttempts := st.executionAttempts.set runId attempt
    executionLeases := st.executionLeases.set runId lease }
  return lease

def claimRunExecution (env : Env) (p : Principal) (runId owner : String) (duration : ℕ) :
    StoreM (Option RunExecutionLease) := do
  let _ ← ask fun _ => validateExecutionLeaseRequest owner duration
  let run ← ask (runLocked p runId)
  let st ← get
  if !run.lifecycleState.isExecutable ∨
      (st.executionLeases.get? runId).any (env.now < ·.leaseUntil) then
    return none
  else
    let lease ← grantLease env runId owner duration
    return some lease

def renewRunExecution (env : Env) (p : Principal) (lease : RunExecutionLease) (duration : ℕ) :
    StoreM (Option RunExecutionLease) := do
  let _ ← ask fun _ => validateExecutionLeaseRequest lease.owner duration
  let st ← get
  match assertExecutionLeaseLocked env p lease none st with
  | .error (.runExecutionLeaseLost _) => return none
  | .error e => throw e
  | .ok _ =>
    let renewed := { lease with leaseUntil := env.now + duration }
    modify fun st => { st with executionLeases := st.executionLeases.set lease.runId renewed }
    return some renewed

def releaseRunExecution (p : Principal) (lease : RunExecutionLease) : StoreM Bool := do
  let _ ← ask (runLocked p lease.runId)
  let st ← get
  if (st.executionLeases.get? lease.runId).any fun c =>
      c.owner = lease.owner ∧ c.attempt = lease.attempt then
    modify fun st => { st with executionLeases := st.executionLeases.pop lease.runId }
    return true
  else
    return false

/-! ## Transitions -/

/-- The keyword arguments of `mutate_run`. -/
structure RunMutation where
  expectedControlVersion : ℕ
  lifecycleState : Option RunLifecycle := none
  phase : Option String := none
  pendingInput : Option RunPendingInput := none
  resultArtifact : Option ArtifactView := none
  publicErrorCode : Option String := none
  executionLease : Option RunExecutionLease := none
  eventType : EventType
  eventData : Obj
  deriving Repr, Inhabited

/-- The lease check of a fenced transition. -/
def checkFence (env : Env) (p : Principal) (runId : String) (m : RunMutation) (st : Store) :
    Except StoreError Unit :=
  match m.executionLease with
  | none => .ok ()
  | some lease =>
    if lease.runId ≠ runId then
      .error (.runExecutionLeaseLost "run execution lease targets another run")
    else (assertExecutionLeaseLocked env p lease none st).map fun _ => ()

/-- `versions[versions.index(stored)] = updated`: replace the first version that is `stored`.
    (Version numbers identify the versions of one Artifact.) -/
def replaceVersion (versions : List ArtifactView) (updated : ArtifactView) : List ArtifactView :=
  versions.map fun a => if a.version = updated.version then updated else a

/-- Mark the published versions selected by `p` as superseded. -/
def supersede (p : ArtifactView → Bool) (versions : List ArtifactView) : List ArtifactView :=
  versions.map fun a => if a.status = .published ∧ p a then { a with status := .superseded } else a

/-- The stored version of a Run's result, if it belongs to the Run's Trip. -/
def storedResult (result : ArtifactView) (tripId : String) (st : Store) :
    Except StoreError ArtifactView :=
  match findVersion (st.artifacts.getD result.artifactId []) result.version with
  | some stored =>
    if stored.tripId = tripId then .ok stored else .error (.resourceNotFound "artifact not found")
  | none => .error (.resourceNotFound "artifact not found")

/-- Point a Trip to an Artifact version. -/
def pointTrip (env : Env) (trip : TripView) (id : Option String) (version : Option ℕ) : TripView :=
  { trip with
    currentArtifactId := id, currentArtifactVersion := version
    version := trip.version + 1, updatedAt := env.now }

/-- Publish the result of a Run: its status, then (for a `TripSnapshot`) the superseded versions
    and the Trip's pointer. -/
def publishResult (env : Env) (p : Principal) (run : RunView) (result : ArtifactView) :
    StoreM Unit := do
  let stored ← ask (storedResult result run.tripId)
  modify fun st => { st with
    artifacts := st.artifacts.set result.artifactId (replaceVersion
      (st.artifacts.getD result.artifactId []) { stored with status := .published }) }
  if stored.artifactType = "TripSnapshot" then
    modify fun st => { st with
      artifacts := st.artifacts.mapValues (supersede fun a =>
        a.tripId = run.tripId ∧ a.artifactType = "TripSnapshot" ∧
          ¬ (a.artifactId = stored.artifactId ∧ a.version = stored.version)) }
    let trip ← ask (tripLocked p run.tripId true)
    modify fun st => { st with
      trips := st.trips.set run.tripId
        (pointTrip env trip (some stored.artifactId) (some stored.version)) }

/-- The Run after a transition (`current.model_copy(update=updates)`). -/
def RunMutation.apply (env : Env) (m : RunMutation) (run : RunView) : RunView :=
  { run with
    controlVersion := run.controlVersion + 1
    updatedAt := env.now
    lifecycleState := m.lifecycleState.getD run.lifecycleState
    phase := m.phase.getD run.phase
    pendingInput := m.pendingInput <|> run.pendingInput
    publicErrorCode := m.publicErrorCode <|> run.publicErrorCode
    resultArtifactId := (m.resultArtifact.map (·.artifactId)) <|> run.resultArtifactId
    resultArtifactVersion := (m.resultArtifact.map (·.version)) <|> run.resultArtifactVersion }

/-- Store a Run, and drop its lease if its state allows none. -/
def storeRun (runId : String) (run : RunView) (st : Store) : Store :=
  { st with
    runs := st.runs.set runId run
    executionLeases := if run.lifecycleState.dropsLease then st.executionLeases.pop runId
      else st.executionLeases }

def mutateRun (env : Env) (p : Principal) (runId : String) (m : RunMutation) :
    StoreM (RunView × RunEvent) := do
  let current ← ask (runLocked p runId)
  let _ ← ask (checkFence env p runId m)
  ensure (current.controlVersion = m.expectedControlVersion) (.versionConflict current.controlVersion)
  let _ ← m.resultArtifact.forM (publishResult env p current)
  let updated := m.apply env current
  modify (storeRun runId updated)
  let event ← appendEventLocked env updated m.eventType
    (m.eventData.set "control_version" (.int updated.controlVersion)) updated.traceId
  return (updated, event)

/-! ## Resumption -/

structure RunResumption where
  expectedControlVersion : ℕ
  requestId : String
  values : Obj
  idempotencyKey : String
  requestHash : String
  deriving Repr, Inhabited

/-- The pending request a resumption answers, with its normalized values. -/
def checkResumption (env : Env) (r : RunResumption) (run : RunView) : Except StoreError Obj :=
  match run.pendingInput with
  | none => .error (.runInputInvalid "run is not waiting for input")
  | some pending =>
    if run.lifecycleState ≠ .waitingInput then
      .error (.runInputInvalid "run is not waiting for input")
    else if pending.requestId ≠ r.requestId then
      .error (.runInputInvalid "input request does not match the pending request")
    else if pending.expiresAt ≤ env.now then .error (.runInputExpired "pending input has expired")
    else match validateRunInputValues pending r.values with
      | .ok normalized => .ok normalized
      | .error (.valueError _) =>
        .error (.runInputInvalid "resume input does not satisfy the pending schema")
      | .error .overflowError => .error .overflowError

/-- The command of a resumed Run. -/
def RunCommand.withResumeInput (c : RunCommand) (requestId : String) (values : Obj) : RunCommand :=
  { c with
    payload := c.payload.set "resume_input"
      (.obj [("request_id", .str requestId), ("values", .obj values)]) }

/-- The Run after its resumption. -/
def RunView.resumed (env : Env) (run : RunView) (requestId : String) (values : Obj) : RunView :=
  { run with
    lifecycleState := .queued, phase := "accepted", controlVersion := run.controlVersion + 1
    command := run.command.withResumeInput requestId values, pendingInput := none
    updatedAt := env.now }

/-- The data of the event of a resumption. -/
def resumedData (run : RunView) : Obj :=
  [("previous_state", .str RunLifecycle.waitingInput.value),
    ("lifecycle_state", .str RunLifecycle.queued.value),
    ("reason_code", .str "INPUT_SUPPLIED"), ("control_version", .int run.controlVersion)]

/-- The first resumption under an idempotency key. -/
def applyResumption (env : Env) (p : Principal) (runId : String) (run : RunView) (r : RunResumption) :
    StoreM IdempotentRunResult := do
  ensure (run.controlVersion = r.expectedControlVersion) (.versionConflict run.controlVersion)
  let normalized ← ask fun _ => checkResumption env r run
  let updated := run.resumed env r.requestId normalized
  modify fun st => { st with runs := st.runs.set runId updated }
  let event ← appendEventLocked env updated .runLifecycleChanged (resumedData updated) updated.traceId
  modify fun st => { st with
    runControlIdempotency := st.runControlIdempotency.set
      (p.tenantId, p.userId, "run.resume", r.idempotencyKey) (r.requestHash, runId) }
  return { run := updated, event := some event, replayed := false }

def resumeRun (env : Env) (p : Principal) (runId : String) (r : RunResumption) :
    StoreM IdempotentRunResult := do
  let current ← ask (runLocked p runId)
  let st ← get
  match st.runControlIdempotency.get? (p.tenantId, p.userId, "run.resume", r.idempotencyKey) with
  | some (existingHash, existingRunId) =>
    ensure (existingHash = r.requestHash ∧ existingRunId = runId)
      (.idempotencyConflict "idempotency key reused with different request")
    return { run := current, event := none, replayed := true }
  | none => applyResumption env p runId current r

/-! ## Reading the event log -/

def listEvents (p : Principal) (runId : String) (afterSeq : ℕ) : StoreM (List RunEvent) := do
  let _ ← ask (runLocked p runId)
  let st ← get
  return (st.events.getD runId []).filter (afterSeq < ·.seq)

/-- `event_available`: what `wait_for_events` waits for. -/
def eventAvailable (p : Principal) (runId : String) (afterSeq : ℕ) : StoreM Bool := do
  let current ← ask (runLocked p runId)
  let st ← get
  return (st.events.getD runId []).any (afterSeq < ·.seq) || current.lifecycleState.isTerminal

end RoutePilot
