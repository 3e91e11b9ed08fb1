/-
  Trips, members and Artifacts in the PostgreSQL store.  The replay journal of
  the Artifact commands is the outbox.
-/
import RoutePilot.Postgres.Runs
import RoutePilot.Store.Artifacts
import RoutePilot.Store.Trips

namespace RoutePilot.Postgres

open Lib

/-! ## Trips -/

def createTrip (env : Env) (p : Principal) (request : TripCreateRequest) : TxM TripView :=
  transaction do
    let trip : TripView := {
      tripId := env.newPublicId "trip", tenantId := p.tenantId, ownerId := p.userId
      title := request.title, locale := request.locale, timezone := request.timezone
      status := .active, version := 1, createdAt := env.now, updatedAt := env.now }
    let db ← get
    ensure (db.trips.get? trip.tripId).isNone (.integrityError "v1_trips_pkey")
    ensure (db.members.get? (trip.tripId, p.userId)).isNone (.integrityError "pk_v1_trip_members")
    modify fun db => { db with
      trips := db.trips.set trip.tripId trip
      members := db.members.set (trip.tripId, p.userId) {
        tripId := trip.tripId, tenantId := trip.tenantId, userId := p.userId, role := .owner
        version := 1, createdAt := env.now, updatedAt := env.now } }
    insertOutbox env trip.tenantId "trip" trip.tripId "trip.created"
      [("trip_id", .str trip.tripId), ("version", .int trip.version)]
    return trip

/-- The Trips a principal can read.  (Their order, newest first, is not modelled.) -/
def listTrips (p : Principal) : TxM (List TripView) := do
  let db ← get
  return db.trips.values.filter fun trip =>
    trip.tenantId = p.tenantId ∧ (p.isTenantAdmin ∨
      ((db.members.get? (trip.tripId, p.userId)).filter (·.tenantId == p.tenantId)).isSome)

def getTrip (p : Principal) (tripId : String) : TxM TripView := ask (getTripTx p tripId false)

/-- Write a Trip that was read at the version `v`, and its outbox record. -/
def writeTrip (env : Env) (p : Principal) (tripId : String) (v : ℕ) (f : TripView → TripView)
    (eventType : String) : TxM TripView := do
  let row ← updateTrip tripId (fun t => t.tenantId == p.tenantId && t.version == v)
    (fun t => { f t with version := v + 1, updatedAt := env.now })
  match row with
  | none => throw (.versionConflict v)
  | some trip =>
    insertOutbox env p.tenantId "trip" tripId eventType
      [("trip_id", .str tripId), ("version", .int trip.version)]
    return trip

def patchTrip (env : Env) (p : Principal) (tripId : String) (request : TripPatchRequest) :
    TxM TripView := transaction do
  let current ← ask (getTripTx p tripId true)
  writeTrip env p tripId current.version request.apply "trip.updated"

def setTripStatus (env : Env) (p : Principal) (tripId : String) (status : TripStatus) :
    TxM TripView := transaction do
  let current ← ask (getTripTx p tripId true)
  writeTrip env p tripId current.version (fun t => { t with status := status })
    ("trip." ++ status.value)

/-! ## Members -/

/-- The members of a Trip.  (Their order, the owner first, is not modelled.) -/
def listTripMembers (p : Principal) (tripId : String) : TxM (List TripMemberView) := do
  let _ ← ask (getTripTx p tripId false)
  let db ← get
  return db.members.values.filter fun m => m.tenantId = p.tenantId ∧ m.tripId = tripId

/-- Only the owner and tenant admins manage members, and never the owner's own membership. -/
def ensureManagesMembers (p : Principal) (trip : TripView) (userId : String) : TxM Unit := do
  ensure (trip.ownerId = p.userId ∨ p.isTenantAdmin)
    (.resourceForbidden "only the owner can manage members")
  ensure (userId ≠ trip.ownerId) (.versionConflict trip.version)

def upsertTripMember (env : Env) (p : Principal) (tripId userId : String) (role : GrantedRole) :
    TxM TripMemberView := transaction do
  ensure (userId ≠ "" ∧ userId.length ≤ 128) (.resourceNotFound "user not found")
  let trip ← ask (getTripTx p tripId true)
  ensureManagesMembers p trip userId
  let db ← get
  let current := (db.members.get? (tripId, userId)).filter (·.tenantId == p.tenantId)
  -- a row of another tenant under the same key would violate the primary key
  ensure (current.isSome ∨ (db.members.get? (tripId, userId)).isNone)
    (.integrityError "pk_v1_trip_members")
  let member : TripMemberView := {
    tripId := tripId, tenantId := p.tenantId, userId := userId, role := role.toRole
    version := (current.map (·.version + 1)).getD 1
    createdAt := (current.map (·.createdAt)).getD env.now, updatedAt := env.now }
  modify fun db => { db with members := db.members.set (tripId, userId) member }
  insertOutbox env p.tenantId "trip" tripId "trip.member_upserted"
    [("trip_id", .str tripId), ("user_id", .str userId),
      ("role", .str (member.role.value)), ("version", .int member.version)]
  return member

def removeTripMember (env : Env) (p : Principal) (tripId userId : String) : TxM Unit :=
  transaction do
    let trip ← ask (getTripTx p tripId true)
    ensureManagesMembers p trip userId
    let db ← get
    ensure ((db.members.get? (tripId, userId)).any (·.tenantId == p.tenantId))
      (.resourceNotFound "member not found")
    modify fun db => { db with members := db.members.pop (tripId, userId) }
    insertOutbox env p.tenantId "trip" tripId "trip.member_removed"
      [("trip_id", .str tripId), ("user_id", .str userId)]

/-! ## Artifacts -/

/-- The lease check of a fenced creation. -/
def checkArtifactFence (env : Env) (p : Principal) (c : ArtifactCreation) (db : Database) :
    Except StoreError Unit :=
  match c.executionLease with
  | none => .ok ()
  | some lease =>
    match getRunTx p lease.runId db with
    | .error e => .error e
    | .ok run => assertExecutionLeaseTx env run lease (some c.tripId) db

/-- The version row of an Artifact version. -/
def versionRow (a : ArtifactView) : VersionRow := {
  artifactId := a.artifactId, tenantId := a.tenantId, version := a.version
  schemaVersion := a.schemaVersion, status := a.status, content := a.content
  parentVersion := a.parentVersion, createdAt := a.createdAt }

/-- `insert(artifact_versions_table)`. -/
def insertVersion (a : ArtifactView) : TxM Unit := do
  let db ← get
  ensure (db.versions.get? (a.artifactId, a.version)).isNone
    (.integrityError "pk_v1_artifact_versions")
  modify fun db => { db with versions := db.versions.set (a.artifactId, a.version) (versionRow a) }

def createArtifact (env : Env) (p : Principal) (c : ArtifactCreation) : TxM ArtifactView :=
  transaction do
    let a := c.artifact env.toEnv p
    let _ ← ask (checkArtifactFence env p c)
    let _ ← ask (getTripTx p c.tripId true)
    let db ← get
    ensure (db.artifacts.get? a.artifactId).isNone (.integrityError "v1_artifacts_pkey")
    modify fun db => { db with
      artifacts := db.artifacts.set a.artifactId
        ⟨a.artifactId, a.tripId, a.tenantId, a.artifactType, a.createdBy, a.createdAt⟩ }
    insertVersion a
    insertOutbox env a.tenantId "artifact" a.artifactId "artifact.created"
      [("artifact_id", .str a.artifactId), ("version", .int a.version), ("trip_id", .str c.tripId),
        ("status", .str a.status.value)]
    return a

/-- The Artifact versions of a Trip.  (Their order, newest first, is not modelled.) -/
def listArtifacts (p : Principal) (tripId : String) : TxM (List ArtifactView) := do
  let _ ← ask (getTripTx p tripId false)
  let db ← get
  return db.versions.values.filterMap fun v =>
    ((db.artifacts.get? v.artifactId).filter
      fun a => a.tenantId == p.tenantId && a.tripId == tripId).map (·.view v)

def getArtifact (p : Principal) (artifactId : String) (version : Option ℕ) : TxM ArtifactView :=
  ask (getArtifactTx p artifactId version false)

def patchArtifact (env : Env) (p : Principal) (artifactId : String)
    (request : ArtifactPatchRequest) : TxM ArtifactView := transaction do
  let current ← ask (getArtifactTx p artifactId none true)
  let _ ← ask fun _ => ensureArtifactMutable current
  ensure (current.version = request.baseVersion) (.versionConflict current.version)
  let content ← ask fun _ => validateArtifactPatchContent env.toEnv current request
  let updated := nextVersion env.toEnv current content
  insertVersion updated
  insertOutbox env updated.tenantId "artifact" updated.artifactId "artifact.version_created"
    [("artifact_id", .str updated.artifactId), ("version", .int updated.version),
      ("parent_version", .int current.version), ("trip_id", .str updated.tripId),
      ("status", .str updated.status.value)]
  return updated

/-! ## Lifecycle commands -/

/-- `_artifact_idempotency_fingerprint`. -/
def artifactIdempotencyFingerprint (env : Env) (p : Principal) (artifactId key : String) : String :=
  env.sha256 ("\x1f".intercalate [p.tenantId, p.userId, artifactId, key])

/-- The record of the first application of a command: the newest outbox record of the Artifact
    with this fingerprint. -/
def replayPayload (p : Principal) (artifactId fingerprint : String) (db : Database) : Option Obj :=
  ((db.outbox.filter fun r => r.tenantId == p.tenantId && r.aggregateType == "artifact" &&
    r.aggregateId == artifactId &&
    isStr fingerprint (r.payload.get? "idempotency_fingerprint")).getLast?).map (·.payload)

/-- The response of a replayed command. -/
def replayCommand (p : Principal) (artifactId requestHash : String) (payload : Obj)
    (db : Database) : Except StoreError IdempotentArtifactResult :=
  if ¬ isStr requestHash (payload.get? "request_hash") then
    .error (.idempotencyConflict "idempotency key reused with different request")
  else match payload.get? "response_version", payload.get? "response_status" with
    | some (.int v), some (.str s) =>
      match getArtifactTx p artifactId (some v.toNat) true db, ArtifactStatus.ofValue? s with
      | .error e, _ => .error e
      | .ok _, none => .error (.valueError s)
      | .ok a, some status => .ok { artifact := { a with status := status }, replayed := true }
    | _, _ => .error (.keyError "response_version")

/-- Supersede every published version of a Trip but one. -/
def supersedeOthers (p : Principal) (current : ArtifactView) (db : Database) : Database :=
  { db with
    versions := db.versions.mapValues fun v =>
      if (db.artifacts.get? v.artifactId).any
            (fun a => a.tenantId == p.tenantId && a.tripId == current.tripId) ∧
          v.status = .published ∧
          ¬ (v.artifactId = current.artifactId ∧ v.version = current.version) then
        { v with status := .superseded }
      else v }

/-- The other versions of the Trip after a command. -/
def supersedeByCommand (p : Principal) (current : ArtifactView) : ArtifactStatus → TxM Unit
  | .published => modify (supersedeOthers p current)
  | _ => pure ()

/-- Set the pointer of a Trip that was read at its present version. -/
def pointTripTx (env : Env) (p : Principal) (trip : TripView) (id : Option String)
    (version : Option ℕ) : TxM Unit := do
  let row ← updateTrip trip.tripId
    (fun t => t.tenantId == p.tenantId && t.version == trip.version)
    (fun t => { t with
      currentArtifactId := id, currentArtifactVersion := version
      version := trip.version + 1, updatedAt := env.now })
  ensure row.isSome (.versionConflict trip.version)

/-- The Trip's pointer after a command. -/
def pointByCommand (env : Env) (p : Principal) (trip : TripView) (current : ArtifactView) :
    ArtifactStatus → TxM Unit
  | .published => pointTripTx env p trip (some current.artifactId) (some current.version)
  | .revoked =>
    if trip.currentArtifactId = some current.artifactId ∧
        trip.currentArtifactVersion = some current.version then
      pointTripTx env p trip none none
    else pure ()
  | _ => pure ()

/-- The outbox event of a command. -/
def commandEventType : ArtifactCommand → String
  | .select => "artifact.selected"
  | .publish => "artifact.published"
  | .revoke => "artifact.revoked"

/-- The first application of a command under an idempotency key. -/
def applyCommand (env : Env) (p : Principal) (artifactId fingerprint : String)
    (request : ArtifactCommandRequest) (requestHash : String) : TxM IdempotentArtifactResult := do
  let current ← ask (getArtifactTx p artifactId none true)
  ensure (current.version = request.baseVersion) (.versionConflict current.version)
  let (required, target) := request.type.transition
  ensure (current.status = required)
    (.artifactTransitionConflict current.version current.status request.type.value)
  let trip ← ask (getTripTx p current.tripId true)
  supersedeByCommand p current target
  let changed ← updateVersion (current.artifactId, current.version) (·.status == required)
    (fun v => { v with status := target })
  ensure changed.isSome (.versionConflict current.version)
  pointByCommand env p trip current target
  insertOutbox env current.tenantId "artifact" current.artifactId (commandEventType request.type)
    [("artifact_id", .str current.artifactId), ("version", .int current.version),
      ("trip_id", .str current.tripId), ("previous_status", .str current.status.value),
      ("status", .str target.value), ("command", .str request.type.value),
      ("idempotency_fingerprint", .str fingerprint), ("request_hash", .str requestHash),
      ("response_version", .int current.version), ("response_status", .str target.value)]
  return { artifact := { current with status := target }, replayed := false }

def commandArtifact (env : Env) (p : Principal) (artifactId : String)
    (request : ArtifactCommandRequest) (key requestHash : String) : TxM IdempotentArtifactResult :=
  transaction do
    let fingerprint := artifactIdempotencyFingerprint env p artifactId key
    let authorized ← ask (getArtifactTx p artifactId none true)
    let _ ← ask fun _ => ensureArtifactMutable authorized
    let db ← get
    match replayPayload p artifactId fingerprint db with
    | some payload => ask (replayCommand p artifactId requestHash payload)
    | none => applyCommand env p artifactId fingerprint request requestHash

end RoutePilot.Postgres
