/-
  Artifacts in the in-memory store: creation, immutable versions, and the
  lifecycle commands with their publication pointer.
-/
import RoutePilot.Store.Runs

namespace RoutePilot

open Lib

structure ArtifactCreation where
  tripId : String
  artifactId : Option String := none
  artifactType : String
  schemaVersion : ℕ
  content : Obj
  status : ArtifactStatus
  parentVersion : Option ℕ := none
  executionLease : Option RunExecutionLease := none
  deriving Repr, Inhabited

/-- `artifact_id or new_public_id("artifact")`. -/
def ArtifactCreation.resolvedId (c : ArtifactCreation) (env : Env) : String :=
  match c.artifactId with
  | some id => if id = "" then env.newPublicId "artifact" else id
  | none => env.newPublicId "artifact"

/-- The first version a creation makes. -/
def ArtifactCreation.artifact (c : ArtifactCreation) (env : Env) (p : Principal) : ArtifactView := {
  artifactId := c.resolvedId env, version := 1, tripId := c.tripId, tenantId := p.tenantId
  artifactType := c.artifactType, schemaVersion := c.schemaVersion, status := c.status
  content := c.content, createdBy := p.userId, createdAt := env.now, parentVersion := c.parentVersion }

/-- The lease check of a fenced creation. -/
def checkArtifactFence (env : Env) (p : Principal) (c : ArtifactCreation) (st : Store) :
    Except StoreError Unit :=
  match c.executionLease with
  | none => .ok ()
  | some lease => (assertExecutionLeaseLocked env p lease (some c.tripId) st).map fun _ => ()

def createArtifact (env : Env) (p : Principal) (c : ArtifactCreation) : StoreM ArtifactView := do
  let _ ← ask (tripLocked p c.tripId true)
  let _ ← ask (checkArtifactFence env p c)
  let st ← get
  let artifact := c.artifact env p
  ensure (st.artifacts.get? artifact.artifactId).isNone
    (.versionConflict (st.artifacts.getD artifact.artifactId []).length)
  modify fun st => { st with artifacts := st.artifacts.set artifact.artifactId [artifact] }
  return artifact

/-- The Artifact versions of a Trip.  (Their order, newest first, is not modelled.) -/
def listArtifacts (p : Principal) (tripId : String) : StoreM (List ArtifactView) := do
  let _ ← ask (tripLocked p tripId false)
  let st ← get
  return st.artifacts.values.flatten.filter fun a => a.tripId = tripId ∧ a.tenantId = p.tenantId

def getArtifact (p : Principal) (artifactId : String) (version : Option ℕ) : StoreM ArtifactView :=
  ask (artifactLocked p artifactId version false)

/-! ## Versions -/

/-- The contract of an Artifact (`Name@major`). -/
def ArtifactView.contract (a : ArtifactView) : String := a.artifactType ++ "@" ++ toString a.schemaVersion

/-- `ensure_artifact_mutable`: fail closed unless the contract is registered. -/
def ensureArtifactMutable (a : ArtifactView) : Except StoreError Unit :=
  if a.contract ∈ contractModels then .ok () else .error (.artifactReadOnly a.artifactType a.version)

/-- The value is the string `s`. -/
def isStr (s : String) : Option Json → Bool
  | some (.str t) => s == t
  | _ => false

/-- The value equals the integer `n` (also as a float, or as `true` for `1`). -/
def isInt (n : ℕ) : Option Json → Bool
  | some (.int z) => z == n
  | some (.float q) => q == n
  | some (.bool b) => b.toNat == n
  | _ => false

/-- `validate_artifact_patch_content`: the header of the next version, then its contract. -/
def validateArtifactPatchContent (env : Env) (current : ArtifactView) (request : ArtifactPatchRequest) :
    Except StoreError Obj :=
  match ensureArtifactMutable current with
  | .error e => .error e
  | .ok () =>
    if isStr current.artifactId (request.content.get? "artifact_id") ∧
        isStr current.artifactType (request.content.get? "artifact_type") ∧
        isInt current.schemaVersion (request.content.get? "schema_version") ∧
        isInt (current.version + 1) (request.content.get? "version") then
      match env.validateContract current.contract request.content with
      | some dumped => .ok dumped
      | none => .error (.artifactContentInvalid current.version)
    else .error (.artifactContentInvalid current.version)

/-- The version a patch appends. -/
def nextVersion (env : Env) (current : ArtifactView) (content : Obj) : ArtifactView :=
  { current with
    version := current.version + 1, status := .candidate, content := content
    createdAt := env.now, parentVersion := some current.version }

def patchArtifact (env : Env) (p : Principal) (artifactId : String) (request : ArtifactPatchRequest) :
    StoreM ArtifactView := do
  let current ← ask (artifactLocked p artifactId none true)
  let _ ← ask fun _ => ensureArtifactMutable current
  ensure (current.version = request.baseVersion) (.versionConflict current.version)
  let content ← ask fun _ => validateArtifactPatchContent env current request
  let updated := nextVersion env current content
  modify fun st => { st with
    artifacts := st.artifacts.set artifactId (st.artifacts.getD artifactId [] ++ [updated]) }
  return updated

/-! ## Lifecycle commands -/

/-- The result of applying or replaying an Artifact lifecycle command. -/
structure IdempotentArtifactResult where
  artifact : ArtifactView
  replayed : Bool
  deriving Repr, Inhabited

/-- Publication by command: supersede every other published version of the Trip, and point the
    Trip to this one. -/
def publishByCommand (env : Env) (p : Principal) (current : ArtifactView) : StoreM Unit := do
  modify fun st => { st with
    artifacts := st.artifacts.mapValues (supersede fun a =>
      a.tripId = current.tripId ∧
        ¬ (a.artifactId = current.artifactId ∧ a.version = current.version)) }
  let trip ← ask (tripLocked p current.tripId true)
  modify fun st => { st with
    trips := st.trips.set trip.tripId
      (pointTrip env trip (some current.artifactId) (some current.version)) }

/-- Revocation: clear the Trip's pointer if it targets this version. -/
def revokeByCommand (env : Env) (p : Principal) (current : ArtifactView) : StoreM Unit := do
  let trip ← ask (tripLocked p current.tripId true)
  if trip.currentArtifactId = some current.artifactId ∧
      trip.currentArtifactVersion = some current.version then
    modify fun st => { st with trips := st.trips.set trip.tripId (pointTrip env trip none none) }

/-- The effect of a command on the Trip's other versions and its pointer. -/
def applyTarget (env : Env) (p : Principal) (current : ArtifactView) : ArtifactStatus → StoreM Unit
  | .published => publishByCommand env p current
  | .revoked => revokeByCommand env p current
  | _ => pure ()

/-- The first application of a command under an idempotency key. -/
def applyCommand (env : Env) (p : Principal) (current : ArtifactView) (request : ArtifactCommandRequest)
    (artifactId key requestHash : String) : StoreM IdempotentArtifactResult := do
  ensure (current.version = request.baseVersion) (.versionConflict current.version)
  let (required, target) := request.type.transition
  ensure (current.status = required)
    (.artifactTransitionConflict current.version current.status request.type.value)
  let updated := { current with status := target }
  modify fun st => { st with
    artifacts := st.artifacts.set artifactId (replaceVersion (st.artifacts.getD artifactId []) updated) }
  let _ ← applyTarget env p current target
  modify fun st => { st with
    artifactIdempotency := st.artifactIdempotency.set (p.tenantId, p.userId, artifactId, key)
      (requestHash, updated) }
  return { artifact := updated, replayed := false }

def commandArtifact (env : Env) (p : Principal) (artifactId : String) (request : ArtifactCommandRequest)
    (key requestHash : String) : StoreM IdempotentArtifactResult := do
  let current ← ask (artifactLocked p artifactId none true)
  let _ ← ask fun _ => ensureArtifactMutable current
  let st ← get
  match st.artifactIdempotency.get? (p.tenantId, p.userId, artifactId, key) with
  | some (existingHash, response) =>
    ensure (existingHash = requestHash)
      (.idempotencyConflict "idempotency key reused with different request")
    return { artifact := response, replayed := true }
  | none => applyCommand env p current request artifactId key requestHash

end RoutePilot
