/-
  A2A Tasks and their in-memory store (`travel_agent/a2a/store.py`).

  A Task is replaced as a whole, under a comparison of versions and, for an
  execution, of its lease.  The store is guarded by one `asyncio.Condition`, so
  every operation is a single atomic step.  Protobuf values are their fields;
  the Task's metadata, which repeats fields of its record, is left out.
-/
import RoutePilot.Lib.Dict
import RoutePilot.Lib.EState
import RoutePilot.Model.Entities

namespace RoutePilot.A2A

open Lib

/-! ## Tasks -/

/-- The states of A2A 1.0. -/
inductive TaskState where
  | submitted
  | working
  | completed
  | failed
  | canceled
  | inputRequired
  | rejected
  | authRequired
  deriving DecidableEq, Repr, Inhabited

/-- `int(state) in {1, 2}`: submitted or working. -/
def TaskState.isExecutable : TaskState → Bool
  | submitted | working => true
  | _ => false

/-- `SETTLED_STATES`. -/
def TaskState.isSettled : TaskState → Bool
  | submitted | working => false
  | _ => true

/-- `CANCELABLE_STATES`. -/
def cancelableStates : List TaskState := [.submitted, .working, .inputRequired, .authRequired]

/-- A message of the agent (`_structured_message`). -/
structure StatusMessage where
  messageId : String
  schemaUri : String
  payload : Obj
  deriving Repr, Inhabited

structure TaskStatus where
  state : TaskState
  timestamp : Time
  message : Option StatusMessage := none
  deriving Repr, Inhabited

/-- An output Artifact of a Task. -/
structure TaskArtifact where
  artifactId : String
  name : String
  description : String
  contract : String
  runId : String
  payload : Obj
  deriving Repr, Inhabited

structure Task where
  id : String
  contextId : String
  status : TaskStatus
  artifacts : List TaskArtifact := []
  deriving Repr, Inhabited

/-- `TaskStatusUpdateEvent` and `TaskArtifactUpdateEvent`. -/
inductive TaskEvent where
  | status (status : TaskStatus)
  | artifact (artifact : TaskArtifact)
  deriving Repr, Inhabited

/-- One monotonic Task event retained for streaming subscribers. -/
structure VersionedEvent where
  version : ℕ
  event : TaskEvent
  deriving Repr, Inhabited

/-- The invocation envelope of the curated agents. -/
structure AgentInvocation where
  goal : String
  /-- contract and payload of each input Artifact -/
  artifacts : List (String × Obj)
  options : Obj
  deriving Repr, Inhabited

/-- Response to the current input-required interruption. -/
structure InputResponse where
  requestId : String
  values : Obj
  deriving Repr, Inhabited

/-- A scope of the store: tenant, agent interface, and Task (or dispatch). -/
abbrev TaskKey := String × String × String

/-- Durable state required to recover and reconcile one A2A Task. -/
structure TaskRecord where
  tenantId : String
  actorId : String
  agentInterfaceId : String
  runId : String
  dispatchId : String
  requestFingerprint : String
  task : Task
  invocation : AgentInvocation
  deadline : Time
  referenceTaskIds : List String := []
  version : ℕ := 1
  createdAt : Option Time := none
  updatedAt : Option Time := none
  pendingInputRequestId : Option String := none
  executionInput : Option InputResponse := none
  messageFingerprints : Dict String String := ∅
  events : List VersionedEvent := []
  deriving Repr, Inhabited

def TaskRecord.key (r : TaskRecord) : TaskKey := (r.tenantId, r.agentInterfaceId, r.task.id)

def TaskRecord.dispatchKey (r : TaskRecord) : TaskKey := (r.tenantId, r.agentInterfaceId, r.dispatchId)

def TaskRecord.state (r : TaskRecord) : TaskState := r.task.status.state

/-- Fencing token for one submitted or working Task execution attempt. -/
structure TaskExecutionLease where
  tenantId : String
  agentInterfaceId : String
  taskId : String
  owner : String
  attempt : ℕ
  leaseUntil : Time
  deriving DecidableEq, Repr, Inhabited

def TaskExecutionLease.key (l : TaskExecutionLease) : TaskKey :=
  (l.tenantId, l.agentInterfaceId, l.taskId)

/-- The two leases are one claim: owner and attempt agree. -/
def TaskExecutionLease.Matches (active lease : TaskExecutionLease) : Prop :=
  active.owner = lease.owner ∧ active.attempt = lease.attempt

instance (active lease : TaskExecutionLease) : Decidable (active.Matches lease) :=
  inferInstanceAs (Decidable (_ ∧ _))

/-! ## Errors -/

inductive TaskStoreError where
  | taskMissing
  | taskVersionConflict
  | taskExecutionLeaseLost
  | dispatchConflict (message : String)
  /-- the base class, and whatever a database raises -/
  | taskStoreError (message : String)
  deriving DecidableEq, Repr

/-! ## The in-memory store -/

/-- The tables of `InMemoryAgentTaskStore`. -/
structure TaskStore where
  records : Dict TaskKey TaskRecord := ∅
  dispatchIndex : Dict TaskKey TaskKey := ∅
  executionLeases : Dict TaskKey TaskExecutionLease := ∅
  executionAttempts : Dict TaskKey ℕ := ∅
  deriving Inhabited

abbrev TaskM := EStateM TaskStoreError TaskStore

/-- The record under a key. -/
def loadRecord (key : TaskKey) (st : TaskStore) : Except TaskStoreError TaskRecord :=
  match st.records.get? key with
  | some record => .ok record
  | none => .error .taskMissing

def createOrGet (record : TaskRecord) : TaskM (TaskRecord × Bool) := do
  let st ← get
  match st.dispatchIndex.get? record.dispatchKey with
  | some existingKey =>
    let existing ← ask (loadRecord existingKey)
    ensure (existing.requestFingerprint = record.requestFingerprint)
      (.dispatchConflict "dispatch identifier already has another request")
    return (existing, false)
  | none =>
    ensure (st.records.get? record.key).isNone (.dispatchConflict "task identifier already exists")
    modify fun st => { st with
      records := st.records.set record.key record
      dispatchIndex := st.dispatchIndex.set record.dispatchKey record.key }
    return (record, true)

def getTaskRecord (key : TaskKey) : TaskM TaskRecord := ask (loadRecord key)

def getByDispatch (dispatchKey : TaskKey) : TaskM TaskRecord := do
  let st ← get
  match st.dispatchIndex.get? dispatchKey with
  | some key => ask (loadRecord key)
  | none => throw .taskMissing

/-- The check of a fenced replacement. -/
def checkExecutionLease (now : Time) (key : TaskKey) (lease : Option TaskExecutionLease)
    (st : TaskStore) : Except TaskStoreError Unit :=
  match lease with
  | none => .ok ()
  | some lease =>
    match st.executionLeases.get? key with
    | none => .error .taskExecutionLeaseLost
    | some active =>
      if active.Matches lease ∧ now < active.leaseUntil then .ok () else .error .taskExecutionLeaseLost

/-- Store a record, and drop the lease of a Task that is not executed any more. -/
def storeRecord (record : TaskRecord) (st : TaskStore) : TaskStore :=
  { st with
    records := st.records.set record.key record
    executionLeases := if record.state.isExecutable then st.executionLeases
      else st.executionLeases.pop record.key }

def replaceRecord (now : Time) (record : TaskRecord) (expectedVersion : ℕ)
    (executionLease : Option TaskExecutionLease) : TaskM TaskRecord := do
  let current ← ask (loadRecord record.key)
  let _ ← ask (checkExecutionLease now record.key executionLease)
  ensure (current.version = expectedVersion ∧ record.version = expectedVersion + 1)
    .taskVersionConflict
  modify (storeRecord record)
  return record

/-- The end of a lease taken at `now`; durations are in microseconds. -/
def leaseEnd (now duration : ℕ) : Time := now + max 50_000 duration

def claimExecution (now : Time) (key : TaskKey) (owner : String) (duration : ℕ) :
    TaskM (Option TaskExecutionLease) := do
  let record ← ask (loadRecord key)
  let st ← get
  if !record.state.isExecutable ∨ (st.executionLeases.get? key).any (now < ·.leaseUntil) then
    return none
  else
    let attempt := st.executionAttempts.getD key 0 + 1
    let lease : TaskExecutionLease :=
      ⟨key.1, key.2.1, key.2.2, owner, attempt, leaseEnd now duration⟩
    modify fun st => { st with
      executionAttempts := st.executionAttempts.set key attempt
      executionLeases := st.executionLeases.set key lease }
    return some lease

def renewExecution (now : Time) (lease : TaskExecutionLease) (duration : ℕ) :
    TaskM (Option TaskExecutionLease) := do
  let st ← get
  match st.records.get? lease.key, st.executionLeases.get? lease.key with
  | some record, some active =>
    if record.state.isExecutable ∧ active.Matches lease ∧ now < active.leaseUntil then
      let renewed := { active with leaseUntil := leaseEnd now duration }
      modify fun st => { st with executionLeases := st.executionLeases.set lease.key renewed }
      return some renewed
    else return none
  | _, _ => return none

def releaseExecution (lease : TaskExecutionLease) : TaskM Unit := do
  let st ← get
  if (st.executionLeases.get? lease.key).any fun active => decide (active.Matches lease) then
    modify fun st => { st with executionLeases := st.executionLeases.pop lease.key }

/-- The Tasks of a Product Run, stored under their own keys.  (Their order, oldest first, is not
    modelled.) -/
def listForRun (tenantId runId : String) : TaskM (List TaskRecord) := do
  let st ← get
  return st.records.values.filter fun r => r.tenantId = tenantId ∧ r.runId = runId

end RoutePilot.A2A
