/-
  The public data of Run events (`_contract_phase`, `project_public_event_data`
  in `runtime.py`): what an event may carry, whatever the transition passes.
-/
import RoutePilot.Model.RunInput

namespace RoutePilot

/-- `PUBLIC_EVENT_DATA_FIELDS`; a heartbeat carries no data and is no event of a Run. -/
def publicEventDataFields : EventType → Option (List String)
  | .runAccepted => some ["lifecycle_state", "phase", "control_version"]
  | .runLifecycleChanged =>
    some ["previous_state", "lifecycle_state", "reason_code", "control_version"]
  | .runPhaseChanged =>
    some ["previous_phase", "phase", "label", "progress_percent", "control_version"]
  | .agentActivity => some ["agent", "activity", "status", "duration_ms", "sources", "control_version"]
  | .artifactCandidateUpdated => some ["artifact_ref", "status", "control_version"]
  | .artifactPublished => some ["artifact_ref", "status", "control_version"]
  | .citationAdded => some ["citation", "artifact_ref", "control_version"]
  | .riskDetected => some ["risk_id", "severity", "message", "artifact_ref", "control_version"]
  | .inputRequired => some ["request_id", "prompt", "fields", "expires_at", "control_version"]
  | .approvalRequired =>
    some ["approval_id", "prompt", "artifact_ref", "expires_at", "control_version"]
  | .runCompleted => some ["lifecycle_state", "snapshot_ref", "duration_ms", "control_version"]
  | .runFailed => some ["lifecycle_state", "failed_phase", "error", "control_version"]
  | .runCanceled => some ["lifecycle_state", "canceled_by", "reason", "control_version"]
  | .heartbeat => none

/-- `_contract_phase`. -/
def contractPhase (phase : String) : String :=
  let normalized := pyLower (pyStrip phase)
  if normalized ∈ ["accepted", "clarification", "research", "planning", "validation", "approval",
      "publishing", "finalizing", "finished"] then normalized
  else if normalized ∈ ["starting"] then "accepted"
  else if normalized ∈ ["understanding", "intent", "clarify"] then "clarification"
  else if normalized ∈ ["composing", "compose"] then "finalizing"
  else if normalized ∈ ["published"] then "publishing"
  else if normalized ∈ ["completed", "failed", "canceled", "canceling"] then "finished"
  else "planning"

/-- The string `data.get(k)`, if it is truthy.  (Transitions pass strings and integers.) -/
def Obj.str? (d : Obj) (k : String) : Option String :=
  ((d.get? k).bind Json.asStr?).filter (· ≠ "")

/-- The integer `data.get(k)`, if it is truthy. -/
def Obj.int? (d : Obj) (k : String) : Option ℤ :=
  match d.get? k with
  | some (.int z) => if z = 0 then none else some z
  | _ => none

/-- The keyword arguments of `project_public_event_data`, but the event type and its data. -/
structure EventContext where
  run : RunView
  lifecycleState : Option RunLifecycle := none
  phase : Option String := none
  artifact : Option ArtifactView := none
  errorCode : Option String := none

/-- The reference of an event to an Artifact version. -/
def artifactRef (artifactType artifactId : String) (schemaVersion version : ℤ) : Json :=
  .obj [("artifact_type", .str artifactType), ("artifact_id", .str artifactId),
    ("schema_version", .int schemaVersion), ("version", .int version)]

/-- The reference an Artifact event carries: the Artifact, or what the data says of it. -/
def eventArtifactRef (data : Obj) : Option ArtifactView → Json
  | some a => artifactRef a.artifactType a.artifactId a.schemaVersion a.version
  | none => artifactRef ((data.str? "artifact_type").getD "") ((data.str? "artifact_id").getD "")
      ((data.int? "schema_version").getD 1) ((data.int? "artifact_version").getD 1)

/-- `project_public_event_data`: whitelist the data of an event.  `none` is the `ValueError` of an
    unsupported event type. -/
def projectPublicEventData (now : Time) (type : EventType) (data : Obj) (c : EventContext) :
    Option Obj :=
  (publicEventDataFields type).map fun allowed =>
    match type with
    | .runLifecycleChanged =>
      [("previous_state", .str c.run.lifecycleState.value),
        ("lifecycle_state", .str (c.lifecycleState.getD c.run.lifecycleState).value),
        ("reason_code", .str (pyTake 128
          ((data.str? "reason_code" <|> data.str? "reason").getD "state_transition")))]
    | .runPhaseChanged =>
      [("previous_phase", .str (contractPhase c.run.phase)),
        ("phase", .str (contractPhase ((c.phase.filter (· ≠ "")).getD
          ((data.str? "phase").getD c.run.phase)))),
        ("progress_percent", .int (max 0 (min 100
          ((data.int? "progress_percent" <|> data.int? "progress").getD 0)))),
        ("label", .str (pyTake 256 ((data.str? "label").getD "进度已更新")))]
    | .artifactCandidateUpdated | .artifactPublished =>
      [("artifact_ref", eventArtifactRef data c.artifact),
        ("status", .str ((data.str? "status").getD "candidate"))]
    | .runCompleted =>
      [("lifecycle_state", .str RunLifecycle.completed.value),
        ("snapshot_ref", artifactRef ((data.str? "artifact_type").getD "TripSnapshot")
          ((data.str? "artifact_id" <|> c.run.resultArtifactId).getD "")
          ((data.int? "schema_version").getD 1)
          ((data.int? "artifact_version" <|> c.run.resultArtifactVersion.map Int.ofNat).getD 1)),
        ("duration_ms", .int ((now - c.run.createdAt : ℕ) / 1000 : ℕ))]
    | .runFailed =>
      let code := pyTake 64
        ((c.errorCode.filter (· ≠ "") <|> data.str? "error_code").getD "RUN_EXECUTION_FAILED")
      [("lifecycle_state", .str RunLifecycle.failed.value),
        ("failed_phase", .str (contractPhase ((c.phase.filter (· ≠ "")).getD c.run.phase))),
        ("error", .obj [("code", .str code), ("message", .str "本次处理未能完成，请稍后重试。"),
          ("retryable", .bool (code ≠ "VALIDATION_BLOCKED"))])]
    | .runCanceled =>
      [("lifecycle_state", .str RunLifecycle.canceled.value),
        ("canceled_by", .str ((data.str? "canceled_by").getD "user")),
        ("reason", .str (pyTake 2000 ((data.str? "reason").getD "用户已取消本次任务。")))]
    | _ => data.filter fun e => e.1 ∈ allowed

end RoutePilot
