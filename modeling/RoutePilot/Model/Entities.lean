/-
  The public models of the V1 control plane (`models.py`): principals, Trips
  and their members, Runs, Run events and Artifacts, field by field.

  Timestamps are microseconds since the epoch (`Time`), as `datetime` has no
  finer resolution.  Length bounds of the request models are checked at the API
  boundary and not repeated here; a definition that reads one states it.
-/
import RoutePilot.Model.Json

namespace RoutePilot

/-- A UTC timestamp, in microseconds. -/
abbrev Time := ℕ

/-- Authenticated actor and server-derived tenant context. -/
structure Principal where
  tenantId : String
  userId : String
  roles : List String := []
  authorizationEpoch : ℕ := 0
  deriving DecidableEq, Repr, Inhabited

/-- `principal.roles.intersection({"admin", "tenant_admin"})`. -/
def Principal.isTenantAdmin (p : Principal) : Bool :=
  p.roles.contains "admin" || p.roles.contains "tenant_admin"

/-! ## Trips -/

inductive TripStatus where
  | active
  | archived
  deriving DecidableEq, Repr, Inhabited

def TripStatus.value : TripStatus → String
  | active => "active"
  | archived => "archived"

structure TripCreateRequest where
  title : String
  locale : String := "zh-CN"
  timezone : String := "Asia/Shanghai"
  deriving DecidableEq, Repr, Inhabited

/-- The fields set by a patch (`model_dump(exclude_unset=True)`). -/
structure TripPatchRequest where
  title : Option String := none
  locale : Option String := none
  timezone : Option String := none
  deriving DecidableEq, Repr, Inhabited

structure TripView where
  tripId : String
  tenantId : String
  ownerId : String
  title : String
  locale : String
  timezone : String
  status : TripStatus
  version : ℕ
  currentArtifactId : Option String := none
  currentArtifactVersion : Option ℕ := none
  createdAt : Time
  updatedAt : Time
  deriving DecidableEq, Repr, Inhabited

inductive TripMemberRole where
  | owner
  | editor
  | viewer
  deriving DecidableEq, Repr, Inhabited

def TripMemberRole.value : TripMemberRole → String
  | owner => "owner"
  | editor => "editor"
  | viewer => "viewer"

/-- The roles a member can be given. -/
inductive GrantedRole where
  | editor
  | viewer
  deriving DecidableEq, Repr, Inhabited

def GrantedRole.toRole : GrantedRole → TripMemberRole
  | editor => .editor
  | viewer => .viewer

structure TripMemberView where
  tripId : String
  tenantId : String
  userId : String
  role : TripMemberRole
  version : ℕ
  createdAt : Time
  updatedAt : Time
  deriving DecidableEq, Repr, Inhabited

/-! ## Runs -/

inductive RunLifecycle where
  | queued
  | running
  | waitingInput
  | cancelRequested
  | completed
  | failed
  | canceled
  deriving DecidableEq, Repr, Inhabited

namespace RunLifecycle

/-- The wire value of a lifecycle state. -/
def value : RunLifecycle → String
  | queued => "queued"
  | running => "running"
  | waitingInput => "waiting_input"
  | cancelRequested => "cancel_requested"
  | completed => "completed"
  | failed => "failed"
  | canceled => "canceled"

/-- `state in TERMINAL_RUN_STATES`. -/
def isTerminal : RunLifecycle → Bool
  | completed | failed | canceled => true
  | _ => false

/-- `state in {RunLifecycle.QUEUED, RunLifecycle.RUNNING}`. -/
def isExecutable : RunLifecycle → Bool
  | queued | running => true
  | _ => false

/-- `state in TERMINAL_RUN_STATES | {CANCEL_REQUESTED, WAITING_INPUT}`: a Run in such a state
    holds no execution lease. -/
def dropsLease : RunLifecycle → Bool
  | completed | failed | canceled | cancelRequested | waitingInput => true
  | _ => false

theorem dropsLease_eq (l : RunLifecycle) : l.dropsLease = !l.isExecutable := by cases l <;> rfl

end RunLifecycle

inductive CommandType where
  | tripAsk
  | tripPlan
  | tripReplan
  | artifactSelect
  | artifactPublish
  | artifactRevoke
  deriving DecidableEq, Repr, Inhabited

structure RunCommand where
  type : CommandType
  message : String
  payload : Obj := []
  deriving Repr, Inhabited

inductive InputType where
  | text
  | date
  | number
  | singleSelect
  | multiSelect
  | confirmation
  deriving DecidableEq, Repr, Inhabited

def InputType.value : InputType → String
  | text => "text"
  | date => "date"
  | number => "number"
  | singleSelect => "single_select"
  | multiSelect => "multi_select"
  | confirmation => "confirmation"

structure RunInputField where
  fieldId : String
  label : String
  inputType : InputType
  required : Bool := true
  options : List String := []
  deriving DecidableEq, Repr, Inhabited

structure RunPendingInput where
  requestId : String
  prompt : String
  fields : List RunInputField
  expiresAt : Time
  deriving DecidableEq, Repr, Inhabited

structure RunView where
  runId : String
  tripId : String
  tenantId : String
  actorId : String
  traceId : String
  lifecycleState : RunLifecycle
  phase : String
  controlVersion : ℕ
  command : RunCommand
  baseArtifactId : Option String := none
  baseArtifactVersion : Option ℕ := none
  pendingInput : Option RunPendingInput := none
  resultArtifactId : Option String := none
  resultArtifactVersion : Option ℕ := none
  publicErrorCode : Option String := none
  createdAt : Time
  updatedAt : Time
  deriving Repr, Inhabited

/-- `PUBLIC_EVENT_TYPES`. -/
inductive EventType where
  | runAccepted
  | runLifecycleChanged
  | runPhaseChanged
  | agentActivity
  | artifactCandidateUpdated
  | artifactPublished
  | citationAdded
  | riskDetected
  | inputRequired
  | approvalRequired
  | runCompleted
  | runFailed
  | runCanceled
  | heartbeat
  deriving DecidableEq, Repr, Inhabited

/-- The wire value of an event type. -/
def EventType.value : EventType → String
  | runAccepted => "run.accepted"
  | runLifecycleChanged => "run.lifecycle_changed"
  | runPhaseChanged => "run.phase_changed"
  | agentActivity => "agent.activity"
  | artifactCandidateUpdated => "artifact.candidate_updated"
  | artifactPublished => "artifact.published"
  | citationAdded => "citation.added"
  | riskDetected => "risk.detected"
  | inputRequired => "input.required"
  | approvalRequired => "approval.required"
  | runCompleted => "run.completed"
  | runFailed => "run.failed"
  | runCanceled => "run.canceled"
  | heartbeat => "heartbeat"

structure RunEvent where
  eventId : String
  schemaVersion : ℕ := 1
  seq : ℕ
  type : EventType
  occurredAt : Time
  tripId : String
  runId : String
  traceId : String
  audience : String := "trip_members"
  data : Obj := []
  deriving Repr, Inhabited

/-! ## Artifacts -/

inductive ArtifactStatus where
  | candidate
  | selected
  | validated
  | published
  | superseded
  | revoked
  deriving DecidableEq, Repr, Inhabited

def ArtifactStatus.value : ArtifactStatus → String
  | candidate => "candidate"
  | selected => "selected"
  | validated => "validated"
  | published => "published"
  | superseded => "superseded"
  | revoked => "revoked"

/-- `ArtifactStatus(value)`. -/
def ArtifactStatus.ofValue? (s : String) : Option ArtifactStatus :=
  [.candidate, .selected, .validated, .published, .superseded, .revoked].find? (·.value == s)

structure ArtifactView where
  artifactId : String
  version : ℕ
  tripId : String
  tenantId : String
  artifactType : String
  schemaVersion : ℕ
  status : ArtifactStatus
  content : Obj
  createdBy : String
  createdAt : Time
  parentVersion : Option ℕ := none
  deriving Repr, Inhabited

structure ArtifactPatchRequest where
  baseVersion : ℕ
  content : Obj
  deriving Repr, Inhabited

inductive ArtifactCommand where
  | select
  | publish
  | revoke
  deriving DecidableEq, Repr, Inhabited

def ArtifactCommand.value : ArtifactCommand → String
  | select => "artifact.select"
  | publish => "artifact.publish"
  | revoke => "artifact.revoke"

/-- The status a command requires and the one it sets (`transitions`). -/
def ArtifactCommand.transition : ArtifactCommand → ArtifactStatus × ArtifactStatus
  | select => (.candidate, .selected)
  | publish => (.validated, .published)
  | revoke => (.published, .revoked)

structure ArtifactCommandRequest where
  type : ArtifactCommand
  baseVersion : ℕ
  deriving DecidableEq, Repr, Inhabited

/-! ## Execution leases -/

/-- Opaque worker fencing token; `attempt` never decreases for a Run. -/
structure RunExecutionLease where
  runId : String
  owner : String
  attempt : ℕ
  leaseUntil : Time
  deriving DecidableEq, Repr, Inhabited

end RoutePilot
