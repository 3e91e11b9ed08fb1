/-
  Runs in the PostgreSQL store.  An event takes the new control version as its
  number, and a publication checks the write access to the Trip before it
  rewrites any status.
-/
import RoutePilot.Postgres.State

namespace RoutePilot.Postgres

open Lib

/-! ## Creation -/

/-- The payload of the `run.dispatch.requested` outbox record. -/
def dispatchPayload (run : RunView) : Obj :=
  [("tenant_id", .str run.tenantId), ("actor_id", .str run.actorId), ("trip_id", .str run.tripId),
    ("run_id", .str run.runId), ("trace_id", .str run.traceId),
    ("control_version", .int run.controlVersion)]

/-- `event.model_dump(mode="json")`; a timestamp is dumped as its number of microseconds. -/
def eventPayload (e : RunEvent) : Obj :=
  [("event_id", .str e.eventId), ("schema_version", .int e.schemaVersion), ("seq", .int e.seq),
    ("type", .str e.type.value), ("occurred_at", .int e.occurredAt),
    ("trip_id", .str e.tripId), ("run_id", .str e.runId), ("trace_id", .str e.traceId),
    ("audience", .str e.audience), ("data", .obj e.data)]

/-- Store an event of a Run and its outbox record. -/
def appendEventTx (env : Env) (run : RunView) (event : RunEvent) : TxM Unit := do
  insertEvent run.tenantId event
  insertOutbox env run.tenantId "run" run.runId event.type.value (eventPayload event)

/-- Request the execution of a Run. -/
def requestDispatch (env : Env) (run : RunView) : TxM Unit :=
  insertOutbox env run.tenantId "run" run.runId "run.dispatch.requested" (dispatchPayload run)

/-- The Trip's current version, which must be readable if it is set. -/
def currentSnapshotTx (p : Principal) (trip : TripView) (db : Database) :
    Except StoreError (Option ArtifactView) :=
  match trip.currentArtifactId with
  | none => .ok none
  | some id => (getArtifactTx p id trip.currentArtifactVersion false db).map some

/-- One day in microseconds: the life of an idempotency key. -/
def idempotencyLife : ℕ := 86_400_000_000

/-- Insert the Run and its first event. -/
def insertRun (env : Env) (run : RunView) : TxM IdempotentRunResult := do
  let db ← get
  ensure (db.runs.get? run.runId).isNone (.integrityError "v1_runs_pkey")
  modify fun db => { db with runs := db.runs.set run.runId { run := run } }
  let event := newEvent env.toEnv run 1 .runAccepted (acceptedData run) run.traceId
  appendEventTx env run event
  requestDispatch env run
  return { run := run, event := some event, replayed := false }

def createRun (env : Env) (p : Principal) (c : RunCreation) : TxM IdempotentRunResult :=
  transaction do
    let trip ← ask (getTripTx p c.tripId true)
    ensure (trip.status = .active) (.versionConflict trip.version)
    let key := (p.tenantId, p.userId, "run.create", c.idempotencyKey)
    let db ← get
    match db.idempotencyKeys.get? key with
    | some existing =>
      ensure (existing.requestHash = c.requestHash)
        (.idempotencyConflict "idempotency key reused with different request")
      let run ← ask (getRunTx p existing.responseRunId)
      return { run := run, event := none, replayed := true }
    | none =>
      let run := newRun env.toEnv p c trip
      modify fun db => { db with
        idempotencyKeys := db.idempotencyKeys.set key
          ⟨c.requestHash, run.runId, env.now, env.now + idempotencyLife⟩ }
      let snapshot ← ask (currentSnapshotTx p trip)
      let _ ← ask fun _ => checkPlanningBase c trip snapshot
      insertRun env run

def getRun (p : Principal) (runId : String) : TxM RunView := ask (getRunTx p runId)

/-! ## Execution leases -/

/-- The row holds an unexpired lease. -/
def RunRow.isLeased (env : Env) (row : RunRow) : Bool :=
  row.leaseOwner.isSome && row.leaseUntil.any (env.databaseNow < ·)

def claimRunExecution (env : Env) (p : Principal) (runId owner : String) (duration : ℕ) :
    TxM (Option RunExecutionLease) := transaction do
  let _ ← ask fun _ => validateExecutionLeaseRequest owner duration
  let run ← ask (getRunTx p runId)
  if !run.lifecycleState.isExecutable then return none
  else
    let row ← ask fun db => match db.runs.get? runId with
      | some row => .ok row
      | none => .error (.keyError runId)
    if row.isLeased env then return none
    else
      let claimed ← updateRun runId
        (fun r => r.run.tenantId == p.tenantId && r.attempt == row.attempt &&
          r.run.lifecycleState.isExecutable)
        (fun r => { r with
          leaseOwner := some owner, leaseUntil := some (env.databaseNow + duration)
          attempt := row.attempt + 1 })
      return claimed.bind fun r => r.leaseUntil.map fun t => ⟨runId, owner, row.attempt + 1, t⟩

/-- The row holds this lease. -/
def RunRow.holds (row : RunRow) (p : Principal) (lease : RunExecutionLease) : Bool :=
  row.run.tenantId == p.tenantId && row.leaseOwner == some lease.owner &&
    row.attempt == lease.attempt

def renewRunExecution (env : Env) (p : Principal) (lease : RunExecutionLease) (duration : ℕ) :
    TxM (Option RunExecutionLease) := transaction do
  let _ ← ask fun _ => validateExecutionLeaseRequest lease.owner duration
  let _ ← ask (getRunTx p lease.runId)
  let renewed ← updateRun lease.runId
    (fun r => r.holds p lease && r.leaseUntil.any (env.databaseNow < ·) &&
      r.run.lifecycleState.isExecutable)
    (fun r => { r with leaseUntil := some (env.databaseNow + duration) })
  return renewed.bind fun r => r.leaseUntil.map fun t => { lease with leaseUntil := t }

def releaseRunExecution (p : Principal) (lease : RunExecutionLease) : TxM Bool := transaction do
  let _ ← ask (getRunTx p lease.runId)
  let released ← updateRun lease.runId (fun r => r.holds p lease)
    (fun r => { r with leaseOwner := none, leaseUntil := none })
  return released.isSome

/-! ## Transitions -/

/-- The lease check of a fenced transition. -/
def checkFence (env : Env) (run : RunView) (m : RunMutation) (db : Database) :
    Except StoreError Unit :=
  match m.executionLease with
  | none => .ok ()
  | some lease => assertExecutionLeaseTx env run lease none db

/-- The stored version of a Run's result, in the Run's Trip. -/
def resultRow (p : Principal) (tripId : String) (result : ArtifactView) (db : Database) :
    Except StoreError Unit :=
  match (db.artifacts.get? result.artifactId).filter
      (fun a => a.tripId == tripId && a.tenantId == p.tenantId),
    db.versions.get? (result.artifactId, result.version) with
  | some _, some _ => .ok ()
  | _, _ => .error (.resourceNotFound "artifact not found")

/-- Supersede the version a Trip points to, if it is published and another one. -/
def supersedeCurrent (trip : TripView) (result : ArtifactView) : TxM Unit := do
  match trip.currentArtifactId, trip.currentArtifactVersion with
  | some id, some v =>
    if id = "" ∨ (id = result.artifactId ∧ v = result.version) then pure ()
    else
      let _ ← updateVersion (id, v) (fun r => r.status == .published)
        (fun r => { r with status := .superseded })
  | _, _ => pure ()

/-- Publish the result of a Run. -/
def publishResult (env : Env) (p : Principal) (run : RunView) (result : ArtifactView) :
    TxM Unit := do
  let trip ← ask (getTripTx p run.tripId true)
  let _ ← ask (resultRow p run.tripId result)
  let _ ← updateVersion (result.artifactId, result.version) (fun _ => true)
    (fun r => { r with status := .published })
  if result.artifactType = "TripSnapshot" then
    supersedeCurrent trip result
    let _ ← updateTrip trip.tripId
      (fun t => t.tenantId == p.tenantId && t.version == trip.version)
      (fun t => { t with
        currentArtifactId := some result.artifactId
        currentArtifactVersion := some result.version
        version := trip.version + 1, updatedAt := env.now })

/-- The columns a transition sets. -/
def applyTx (env : Env) (m : RunMutation) (row : RunRow) : RunRow :=
  let dropped := m.lifecycleState.any (·.dropsLease)
  { row with
    run := m.apply env.toEnv row.run
    leaseOwner := if dropped then none else row.leaseOwner
    leaseUntil := if dropped then none else row.leaseUntil }

def mutateRun (env : Env) (p : Principal) (runId : String) (m : RunMutation) :
    TxM (RunView × RunEvent) := transaction do
  let current ← ask (getRunTx p runId)
  let _ ← ask (checkFence env current m)
  ensure (current.controlVersion = m.expectedControlVersion) (.versionConflict current.controlVersion)
  let _ ← m.resultArtifact.forM (publishResult env p current)
  let row ← updateRun runId
    (fun r => r.run.tenantId == p.tenantId && r.run.controlVersion == m.expectedControlVersion)
    (applyTx env m)
  match row with
  | none => throw (.versionConflict current.controlVersion)
  | some row =>
    let newVersion := current.controlVersion + 1
    let event := newEvent env.toEnv row.run newVersion m.eventType
      (m.eventData.set "control_version" (.int newVersion)) row.run.traceId
    appendEventTx env row.run event
    return (row.run, event)

/-! ## Resumption -/

/-- The first resumption under an idempotency key. -/
def applyResumption (env : Env) (p : Principal) (runId : String) (current : RunView)
    (r : RunResumption) : TxM IdempotentRunResult := do
  ensure (current.controlVersion = r.expectedControlVersion)
    (.versionConflict current.controlVersion)
  let normalized ← ask fun _ => checkResumption { env.toEnv with now := env.databaseNow } r current
  let row ← updateRun runId
    (fun row => row.run.tenantId == p.tenantId &&
      row.run.controlVersion == r.expectedControlVersion && row.run.lifecycleState == .waitingInput)
    (fun row => { row with run := row.run.resumed env.toEnv r.requestId normalized })
  match row with
  | none => throw (.versionConflict current.controlVersion)
  | some row =>
    let event := newEvent env.toEnv row.run (current.controlVersion + 1) .runLifecycleChanged
      (resumedData row.run) row.run.traceId
    appendEventTx env row.run event
    requestDispatch env row.run
    return { run := row.run, event := some event, replayed := false }

def resumeRun (env : Env) (p : Principal) (runId : String) (r : RunResumption) :
    TxM IdempotentRunResult := transaction do
  let current ← ask (getRunTx p runId)
  let _ ← ask (getTripTx p current.tripId true)
  let key := (p.tenantId, p.userId, "run.resume", r.idempotencyKey)
  let db ← get
  match db.idempotencyKeys.get? key with
  | some existing =>
    ensure (existing.requestHash = r.requestHash ∧ existing.responseRunId = runId)
      (.idempotencyConflict "idempotency key reused with different request")
    let run ← ask (getRunTx p runId)
    return { run := run, event := none, replayed := true }
  | none =>
    modify fun db => { db with
      idempotencyKeys := db.idempotencyKeys.set key
        ⟨r.requestHash, runId, env.now, env.now + idempotencyLife⟩ }
    applyResumption env p runId current r

/-! ## Reading the event log -/

/-- The events of a Run a principal's tenant sees, by number. -/
def eventsOf (tenantId runId : String) (afterSeq : ℕ) (db : Database) : List RunEvent :=
  ((db.events.filter fun r => r.tenantId == tenantId && r.event.runId == runId &&
    decide (afterSeq < r.event.seq)).map (·.event)).mergeSort fun a b => a.seq ≤ b.seq

def listEvents (p : Principal) (runId : String) (afterSeq : ℕ) : TxM (List RunEvent) := do
  let _ ← ask (getRunTx p runId)
  let db ← get
  return eventsOf p.tenantId runId afterSeq db

end RoutePilot.Postgres
