/-
  The values of the share service (`share_models.py`, `share_service.py`).

  A share hands out a capability secret; who presents the secret gets a session
  token, and who presents the token reads the snapshot.  Secrets and tokens are
  never stored, only their HMACs.  `Ports` is what the service takes from
  libraries: HMAC-SHA256 under its pepper in the two encodings it uses, the
  request hash, and the contracts it parses, projects and dumps.
-/
import RoutePilot.Lib.Limiter
import RoutePilot.Postgres.State

namespace RoutePilot.Share

open Lib

inductive ShareStatus where
  | active
  | revoked
  deriving DecidableEq, Repr, Inhabited

structure ShareCreateRequest where
  artifactId : String
  artifactVersion : ℕ
  deriving DecidableEq, Repr

structure ShareView where
  shareId : String
  publicId : String
  tripId : String
  sourceArtifactId : String
  sourceArtifactVersion : ℕ
  status : ShareStatus
  version : ℕ
  capabilityEpoch : ℕ
  createdBy : String
  createdAt : Time
  updatedAt : Time
  revokedAt : Option Time := none
  deriving DecidableEq, Repr, Inhabited

structure ShareMutationResponse where
  share : ShareView
  capabilitySecret : Option String := none
  replayed : Bool := false
  deriving DecidableEq, Repr

structure ShareExchangeResponse where
  sessionToken : String
  expiresAt : Time
  deriving DecidableEq, Repr

structure PublicShareSnapshotResponse (Snapshot : Type) where
  publicId : String
  snapshot : Snapshot
  deriving DecidableEq, Repr

/-- What a call raises: an error of the service, of the platform store or of a contract, or one
    the service does not foresee (`KeyError`, `IntegrityError`, `NoResultFound`, `AssertionError`). -/
inductive ShareError where
  | notFound (message : String)
  | conflict (message : String) (currentVersion : Option ℕ)
  | capabilityInvalid (message : String)
  | rateLimited (retryAfterSeconds : ℕ)
  | store (e : StoreError)
  | validationError (contract : String)
  | unforeseen (kind : String)
  deriving DecidableEq, Repr

/-! ## What the service is given -/

/-- The row a transaction reads again before it creates a share: the Trip joined with a version of
    one of its Artifacts. -/
structure CurrentSource where
  currentArtifactId : Option String
  currentArtifactVersion : Option ℕ
  status : ArtifactStatus

/-- What the service reads of the platform store. -/
structure Platform where
  getTrip : Principal → String → Except StoreError TripView
  getArtifact : Principal → String → ℕ → Except StoreError ArtifactView
  /-- by tenant, Trip, Artifact and version -/
  currentSource : String → String → String → ℕ → Option CurrentSource

/-- The in-memory platform store. -/
def Platform.ofStore (st : Store) : Platform where
  getTrip p tripId := tripLocked p tripId false st
  getArtifact p artifactId version := artifactLocked p artifactId (some version) false st
  currentSource _ _ _ _ := none

/-- The database of the platform store. -/
def Platform.ofDatabase (db : Postgres.Database) : Platform where
  getTrip p tripId := Postgres.getTripTx p tripId false db
  getArtifact p artifactId version := Postgres.getArtifactTx p artifactId (some version) false db
  currentSource tenantId tripId artifactId version := do
    let trip ← (db.trips.get? tripId).filter (·.tenantId == tenantId)
    let _ ← (db.artifacts.get? artifactId).filter (·.tripId == tripId)
    let row ← db.versions.get? (artifactId, version)
    return ⟨trip.currentArtifactId, trip.currentArtifactVersion, row.status⟩

/-- What one call reads from outside: the clock, the identifiers and the session token it draws
    (`secrets.token_bytes`), the clock of the projection, and the platform store. -/
structure Env extends RoutePilot.Env where
  sessionToken : String
  projectedAt : Time
  platform : Platform

structure Ports (Source Snapshot : Type) where
  /-- `_base64url(hmac.new(pepper, message, sha256).digest())` -/
  base64url : String → String
  /-- `hmac.new(pepper, message, sha256).hexdigest()` -/
  hexdigest : String → String
  canonicalRequestHash : Obj → String
  /-- `validate_contract("TripSnapshot@1", content)` -/
  tripSnapshot : Obj → Option Source
  artifactId : Source → String
  version : Source → ℕ
  /-- `project_share_snapshot(source, public_id=...)` -/
  project : Env → Source → String → Snapshot
  /-- `snapshot.model_dump(mode="json")` -/
  dump : Snapshot → Obj
  /-- `validate_contract("ShareSnapshot@1", snapshot)` -/
  shareSnapshot : Obj → Option Snapshot

/-! ## Limits -/

def minutes (n : ℕ) : Time := n * 60_000_000

/-- Five failed attempts in ten minutes block exchanges for fifteen. -/
def limits : Limits where
  limit := 5
  window := minutes 10
  block := minutes 15

/-- `now + timedelta(minutes=15)`. -/
def sessionExpiry (now : Time) : Time := now + minutes 15

/-- `int((blocked_until - now).total_seconds()) + 1`. -/
def retryAfter (blockedUntil now : Time) : ℕ := (blockedUntil - now) / 1_000_000 + 1

/-! ## Secrets and hashes -/

/-- An idempotency key of an actor, under an operation. -/
structure Scope where
  tenantId : String
  actorId : String
  operation : String
  idempotencyKey : String
  deriving DecidableEq, Repr

def createOperation : String := "share.create"

def rotateOperation (shareId : String) : String := "share.rotate:" ++ shareId

def revokeOperation (shareId : String) : String := "share.revoke:" ++ shareId

def scope (p : Principal) (operation idempotencyKey : String) : Scope :=
  ⟨p.tenantId, p.userId, operation, idempotencyKey⟩

/-- The field separator of a message. -/
def sep : String := "\x1f"

/-- The message a capability secret is the HMAC of. -/
def secretMessage (operation : String) (p : Principal) (idempotencyKey requestHash shareId : String)
    (epoch : ℕ) : String :=
  "capability" ++ sep ++ operation ++ sep ++ p.tenantId ++ sep ++ p.userId ++ sep ++ idempotencyKey ++
    sep ++ requestHash ++ sep ++ shareId ++ sep ++ toString epoch

section
variable {Source Snapshot : Type} (c : Ports Source Snapshot)

/-- `_derive_secret`. -/
def deriveSecret (operation : String) (p : Principal) (idempotencyKey requestHash shareId : String)
    (epoch : ℕ) : String :=
  c.base64url (secretMessage operation p idempotencyKey requestHash shareId epoch)

/-- `_capability_hash`. -/
def capabilityHash (publicId secret : String) : String :=
  c.hexdigest ("capability-hash" ++ sep ++ publicId ++ sep ++ secret)

/-- `_session_hash`. -/
def sessionHash (token : String) : String := c.hexdigest ("share-session" ++ sep ++ token)

def createHash (tripId : String) (request : ShareCreateRequest) : String :=
  c.canonicalRequestHash [("trip_id", .str tripId), ("request", .obj [
    ("artifact_id", .str request.artifactId), ("artifact_version", .int request.artifactVersion)])]

/-- The request hash of a rotation or revocation. -/
def transitionHash (operation shareId : String) (expectedVersion : ℕ) : String :=
  c.canonicalRequestHash [("share_id", .str shareId), ("expected_version", .int expectedVersion),
    ("operation", .str operation)]

/-! ## The source of a share -/

/-- `_source`: the current published TripSnapshot of the Trip. -/
def source (env : Env) (p : Principal) (tripId : String) (request : ShareCreateRequest) :
    Except ShareError Source := do
  let trip ← (env.platform.getTrip p tripId).mapError .store
  if trip.currentArtifactId ≠ some request.artifactId ∨
      trip.currentArtifactVersion ≠ some request.artifactVersion then
    throw (.conflict "only the current published TripSnapshot can be shared" none)
  let artifact ← (env.platform.getArtifact p request.artifactId request.artifactVersion).mapError .store
  if artifact.tripId ≠ tripId ∨ artifact.artifactType ≠ "TripSnapshot" ∨ artifact.status ≠ .published then
    throw (.conflict "only a published TripSnapshot can be shared" none)
  match c.tripSnapshot artifact.content with
  | some parsed => return parsed
  | none => throw (.validationError "TripSnapshot@1")

/-- A share that was just created. -/
def newShare (env : Env) (p : Principal) (tripId : String) (source : Source) : ShareView where
  shareId := env.newPublicId "share"
  publicId := env.newPublicId "public"
  tripId := tripId
  sourceArtifactId := c.artifactId source
  sourceArtifactVersion := c.version source
  status := .active
  version := 1
  capabilityEpoch := 1
  createdBy := p.userId
  createdAt := env.now
  updatedAt := env.now

end

/-- A share with a new capability. -/
def ShareView.rotated (v : ShareView) (now : Time) : ShareView :=
  { v with version := v.version + 1, capabilityEpoch := v.capabilityEpoch + 1, updatedAt := now }

/-- A share that is closed for good. -/
def ShareView.closed (v : ShareView) (now : Time) : ShareView :=
  { v with status := .revoked, version := v.version + 1, capabilityEpoch := v.capabilityEpoch + 1
           updatedAt := now, revokedAt := some now }

/-! ## Calls -/

/-- A call of the service. -/
inductive ShareOp where
  | create (p : Principal) (tripId : String) (request : ShareCreateRequest) (idempotencyKey : String)
  | rotate (p : Principal) (shareId : String) (expectedVersion : ℕ) (idempotencyKey : String)
  | revoke (p : Principal) (shareId : String) (expectedVersion : ℕ) (idempotencyKey : String)
  | exchange (publicId secret : String)
  | publicSnapshot (publicId sessionToken : String)
  deriving DecidableEq, Repr

/-- What a call returns. -/
inductive ShareResponse (Snapshot : Type) where
  | mutation (r : ShareMutationResponse)
  | exchange (r : ShareExchangeResponse)
  | snapshot (r : PublicShareSnapshotResponse Snapshot)
  deriving DecidableEq, Repr

end RoutePilot.Share
