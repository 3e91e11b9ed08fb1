/-
  The commands that a page sends (`idempotency.ts`, `artifact-lifecycle.ts` and their use in
  `TripWorkspace.tsx`).

  The session storage holds texts of `JSON.stringify`: an entry is the value that its text
  stands for.  An Artifact of a page is a version as the API returned it.
-/
import Mathlib.Logic.Function.Basic
import RoutePilot.Web.Reducer

namespace RoutePilot.Web

/-! ## The pending submission of a Trip -/

/-- `KeyValueStorage`. -/
abbrev KeyValueStorage := String → Option Json

structure PendingRunSubmission where
  tripId : String
  fingerprint : String
  idempotencyKey : String
  createdAt : String
  deriving DecidableEq, Repr

/-- The submission as an object. -/
def PendingRunSubmission.value (pending : PendingRunSubmission) : Json :=
  .obj [("tripId", .str pending.tripId), ("fingerprint", .str pending.fingerprint),
    ("idempotencyKey", .str pending.idempotencyKey), ("createdAt", .str pending.createdAt)]

/-- `${PENDING_PREFIX}${tripId}` -/
def pendingKey (tripId : String) : String := "routepilot.pending-run.v1." ++ tripId

def readRunSubmission (tripId : String) (target : KeyValueStorage) : Option PendingRunSubmission := do
  let parsed := record? (target (pendingKey tripId))
  let storedId ← string? (property parsed "tripId")
  let fingerprint ← string? (property parsed "fingerprint")
  let idempotencyKey ← string? (property parsed "idempotencyKey")
  let createdAt ← string? (property parsed "createdAt")
  if storedId = tripId then some ⟨storedId, fingerprint, idempotencyKey, createdAt⟩ else none

/-- `reserveRunSubmission`, for a key and a time that are drawn; `takes`: `setItem` does not throw. -/
def reserveRunSubmission (tripId fingerprint newKey createdAt : String) (takes : Bool) (target : KeyValueStorage) :
    PendingRunSubmission × KeyValueStorage :=
  let pending : PendingRunSubmission := ⟨tripId, fingerprint, newKey, createdAt⟩
  match (readRunSubmission tripId target).filter (·.fingerprint = fingerprint) with
  | some existing => (existing, target)
  | none => (pending, if takes then Function.update target (pendingKey tripId) (some pending.value) else target)

/-- `clearRunSubmission`. -/
def clearRunSubmission (tripId key : String) (target : KeyValueStorage) : KeyValueStorage :=
  if (readRunSubmission tripId target).any (·.idempotencyKey = key) then
    Function.update target (pendingKey tripId) none
  else target

/-! ## The action on an Artifact -/

structure ArtifactLifecycleAction where
  type : ArtifactCommand
  label : String
  confirmation : Option String := none
  deriving DecidableEq, Repr

structure ArtifactLifecycleContext where
  tripStatus : TripStatus
  busy : Bool
  currentArtifactId : Option String
  currentArtifactVersion : Option ℕ

/-- `value === n` -/
def isNumber (n : ℕ) : Option Json → Bool
  | some (.int z) => z == n
  | some (.float q) => q == n
  | _ => false

def hasMatchingEnvelope (artifact : ArtifactView) (expectedType : String) : Bool :=
  string? (artifact.content.get? "artifact_type") == some expectedType &&
    string? (artifact.content.get? "artifact_id") == some artifact.artifactId &&
    isNumber artifact.schemaVersion (artifact.content.get? "schema_version") &&
    isNumber artifact.version (artifact.content.get? "version")

/-- `latestArtifactVersion`, of an Artifact. -/
def latestArtifactVersion (artifact : ArtifactView) (artifacts : List ArtifactView) : ℕ :=
  let versions := (artifacts.filter (·.artifactId = artifact.artifactId)).map (·.version)
  versions.max?.getD artifact.version

/-- `availableArtifactAction`, of an Artifact. -/
def availableArtifactAction (artifact : ArtifactView) (artifacts : List ArtifactView)
    (context : ArtifactLifecycleContext) : Option ArtifactLifecycleAction :=
  if context.busy ∨ context.tripStatus ≠ .active then none
  else if artifact.version ≠ latestArtifactVersion artifact artifacts then none
  else if artifact.artifactType = "ItineraryPlan" ∧ artifact.status = .candidate ∧
      hasMatchingEnvelope artifact "ItineraryPlan" then
    some { type := .select, label := "选择这个候选" }
  else if artifact.artifactType = "TripSnapshot" ∧ artifact.status = .validated ∧
      hasMatchingEnvelope artifact "TripSnapshot" then
    some {
      type := .publish
      label := "发布为正式方案"
      confirmation := some "确认将这个已验证整案设为当前正式方案？旧正式版本会保留，但状态会变为已替代。" }
  else if artifact.artifactType = "TripSnapshot" ∧ artifact.status = .published ∧
      (some artifact.artifactId = context.currentArtifactId ∧
        some artifact.version = context.currentArtifactVersion) ∧
      hasMatchingEnvelope artifact "TripSnapshot" then
    some {
      type := .revoke
      label := "撤销正式方案"
      confirmation := some "确认撤销当前正式方案？历史版本仍会保留。" }
  else none

/-! ## The page after a command -/

/-- `trip` and `artifacts`. -/
structure TripPage where
  trip : TripView
  artifacts : List ArtifactView

def TripPage.context (page : TripPage) (busy : Bool) : ArtifactLifecycleContext :=
  ⟨page.trip.status, busy, page.trip.currentArtifactId, page.trip.currentArtifactVersion⟩

/-- The two are one version. -/
def sameVersion (updated item : ArtifactView) : Bool :=
  item.artifactId = updated.artifactId ∧ item.version = updated.version

/-- `next` of `setArtifacts`: the version takes its place, or is the first one. -/
def placeArtifact (updated : ArtifactView) (reconciled : List ArtifactView) : List ArtifactView :=
  match reconciled.findIdx? (sameVersion updated) with
  | none => updated :: reconciled
  | some index => reconciled.set index updated

/-- `setArtifacts`, once a command has returned. -/
def reconcileArtifacts (command : ArtifactCommand) (updated : ArtifactView) (current : List ArtifactView) :
    List ArtifactView :=
  placeArtifact updated <|
    if command = .publish then
      current.map fun item =>
        if item.status = .published ∧ ¬ sameVersion updated item then { item with status := .superseded } else item
    else current

/-- `setTrip`, once a command has returned. -/
def reconcileTrip (command : ArtifactCommand) (updated : ArtifactView) (current : TripView) : TripView :=
  if command = .publish then
    { current with
      currentArtifactId := some updated.artifactId
      currentArtifactVersion := some updated.version }
  else if command = .revoke ∧ current.currentArtifactId = some updated.artifactId ∧
      current.currentArtifactVersion = some updated.version then
    { current with currentArtifactId := none, currentArtifactVersion := none }
  else current

/-- The page after a command. -/
def TripPage.reconcile (page : TripPage) (command : ArtifactCommand) (updated : ArtifactView) : TripPage where
  trip := reconcileTrip command updated page.trip
  artifacts := reconcileArtifacts command updated page.artifacts

end RoutePilot.Web
