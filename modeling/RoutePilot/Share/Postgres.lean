/-
  The share service over PostgreSQL (`ShareService` with an engine).

  Each call is one transaction, after `exchange` and `public_snapshot` have
  resolved the tenant of a public identifier.  Every statement runs in the scope
  of one tenant, which the row-level security of the tables repeats.
-/
import RoutePilot.Share.Memory

namespace RoutePilot.Share

open Lib

/-- `shares_table`: the columns of the view, and the ones the view leaves out. -/
structure ShareRow where
  tenantId : String
  view : ShareView
  capabilitySecretHash : String
  failedAttempts : ℕ := 0
  failureWindowStartedAt : Option Time := none
  blockedUntil : Option Time := none
  deriving DecidableEq, Repr

/-- `share_public_lookup_table`. -/
structure LookupRow where
  tenantId : String
  shareId : String
  deriving DecidableEq, Repr

/-- The tables, keyed by their primary keys (the snapshots by the share they are unique for). -/
structure Tables where
  shares : Dict String ShareRow := ∅
  publicLookup : Dict String LookupRow := ∅
  snapshots : Dict String Obj := ∅
  sessions : Dict String Session := ∅
  idempotencyKeys : Dict Scope Replay := ∅

abbrev TablesM := EStateM ShareError Tables

namespace Tables

/-! ## Statements -/

def insertShare (row : ShareRow) : TablesM Unit := do
  let db ← get
  ensure (db.shares.get? row.view.shareId = none) (.unforeseen "IntegrityError")
  ensure (∀ r ∈ db.shares.values, r.view.publicId ≠ row.view.publicId) (.unforeseen "IntegrityError")
  modify fun db => { db with shares := db.shares.set row.view.shareId row }

def insertLookup (publicId : String) (row : LookupRow) : TablesM Unit := do
  let db ← get
  ensure (db.publicLookup.get? publicId = none) (.unforeseen "IntegrityError")
  ensure (∀ r ∈ db.publicLookup.values, r.shareId ≠ row.shareId) (.unforeseen "IntegrityError")
  modify fun db => { db with publicLookup := db.publicLookup.set publicId row }

def insertSnapshot (shareId : String) (snapshot : Obj) : TablesM Unit := do
  let db ← get
  ensure (db.snapshots.get? shareId = none) (.unforeseen "IntegrityError")
  modify fun db => { db with snapshots := db.snapshots.set shareId snapshot }

def insertSession (hash : String) (session : Session) : TablesM Unit := do
  let db ← get
  ensure (db.sessions.get? hash = none) (.unforeseen "IntegrityError")
  modify fun db => { db with sessions := db.sessions.set hash session }

def insertIdempotencyKey (scope : Scope) (row : Replay) : TablesM Unit := do
  let db ← get
  ensure (db.idempotencyKeys.get? scope = none) (.unforeseen "IntegrityError")
  modify fun db => { db with idempotencyKeys := db.idempotencyKeys.set scope row }

/-- `update(shares_table).where(share_id, version).values(f).returning(shares_table)`, of one row. -/
def updateVersion (shareId : String) (version : ℕ) (f : ShareRow → ShareRow) : TablesM ShareRow := do
  let db ← get
  match (db.shares.get? shareId).filter (·.view.version == version) with
  | none => throw (.unforeseen "NoResultFound")
  | some row =>
    modify fun db => { db with shares := db.shares.set shareId (f row) }
    return f row

/-- `delete(share_sessions_table).where(share_id)`. -/
def deleteSessions (shareId : String) : TablesM Unit :=
  modify fun db => { db with sessions := db.sessions.filterValues (·.shareId ≠ shareId) }

/-- The share of its creator, for an update. -/
def owned (p : Principal) (shareId : String) (db : Tables) : Except ShareError ShareRow :=
  match (db.shares.get? shareId).filter fun row =>
      row.tenantId == p.tenantId && row.view.createdBy == p.userId with
  | none => .error (.notFound "share not found")
  | some row => .ok row

/-- The share of a tenant with a public identifier. -/
def published (tenantId publicId : String) (db : Tables) : Option ShareRow :=
  db.shares.values.find? fun row => row.tenantId == tenantId && row.view.publicId == publicId

/-- `_resolve_public_tenant`. -/
def resolvePublicTenant (publicId : String) (db : Tables) : Option String :=
  ((db.publicLookup.get? publicId).map (·.tenantId)).filter (· ≠ "")

/-! ## Calls -/

section
variable {Source Snapshot : Type} (c : Ports Source Snapshot) (env : Env)

/-- `_create_postgres`. -/
def createPostgres (p : Principal) (tripId : String) (source : Source)
    (requestHash idempotencyKey : String) : TablesM ShareMutationResponse := atomic do
  let scope := scope p createOperation idempotencyKey
  let db ← get
  match db.idempotencyKeys.get? scope with
  | some idem =>
    ensure (idem.requestHash = requestHash) (.conflict "idempotency key reused with another request" none)
    match db.shares.get? idem.shareId with
    | none => throw (.unforeseen "NoResultFound")
    | some row =>
      let secret := deriveSecret c createOperation p idempotencyKey requestHash idem.shareId idem.epoch
      return { share := row.view, capabilitySecret := some secret, replayed := true }
  | none =>
    let view := newShare c env p tripId source
    let secret := deriveSecret c createOperation p idempotencyKey requestHash view.shareId 1
    insertIdempotencyKey scope ⟨requestHash, view.shareId, 1, 1⟩
    let current := env.platform.currentSource p.tenantId tripId (c.artifactId source) (c.version source)
    ensure (current.any fun row => row.currentArtifactId = some (c.artifactId source) ∧
        row.currentArtifactVersion = some (c.version source) ∧ row.status = .published)
      (.conflict "source snapshot changed before share creation" none)
    insertShare { tenantId := p.tenantId, view
                  capabilitySecretHash := capabilityHash c view.publicId secret }
    insertLookup view.publicId ⟨p.tenantId, view.shareId⟩
    insertSnapshot view.shareId (c.dump (c.project env source view.publicId))
    return { share := view, capabilitySecret := some secret }

/-- `create`. -/
def create (p : Principal) (tripId : String) (request : ShareCreateRequest) (idempotencyKey : String) :
    TablesM ShareMutationResponse := do
  let source ← ask fun _ => source c env p tripId request
  createPostgres c env p tripId source (createHash c tripId request) idempotencyKey

/-- `_rotate_postgres`. -/
def rotatePostgres (p : Principal) (shareId : String) (expectedVersion : ℕ)
    (idempotencyKey requestHash : String) : TablesM ShareMutationResponse := atomic do
  let scope := scope p (rotateOperation shareId) idempotencyKey
  let secret := deriveSecret c "share.rotate" p idempotencyKey requestHash shareId
  let current ← ask (owned p shareId)
  let db ← get
  match db.idempotencyKeys.get? scope with
  | some replay =>
    ensure (replay.requestHash = requestHash) (.conflict "idempotency key reused with another request" none)
    let fresh := current.view.version = replay.version ∧ current.view.capabilityEpoch = replay.epoch
    return { share := current.view, capabilitySecret := if fresh then some (secret replay.epoch) else none
             replayed := true }
  | none =>
    ensure (current.view.status = .active ∧ current.view.version = expectedVersion)
      (.conflict "share changed" (some current.view.version))
    let epoch := current.view.capabilityEpoch + 1
    let row ← updateVersion shareId expectedVersion fun row => { row with
      view := { row.view with
        version := current.view.version + 1, capabilityEpoch := epoch, updatedAt := env.now }
      capabilitySecretHash := capabilityHash c current.view.publicId (secret epoch)
      failedAttempts := 0, failureWindowStartedAt := none, blockedUntil := none }
    deleteSessions shareId
    insertIdempotencyKey scope ⟨requestHash, shareId, current.view.version + 1, epoch⟩
    return { share := row.view, capabilitySecret := some (secret epoch) }

/-- `rotate`. -/
def rotate (p : Principal) (shareId : String) (expectedVersion : ℕ) (idempotencyKey : String) :
    TablesM ShareMutationResponse :=
  rotatePostgres c env p shareId expectedVersion idempotencyKey
    (transitionHash c "rotate" shareId expectedVersion)

/-- `revoke`. -/
def revoke (p : Principal) (shareId : String) (expectedVersion : ℕ) (idempotencyKey : String) :
    TablesM ShareMutationResponse := atomic do
  let requestHash := transitionHash c "revoke" shareId expectedVersion
  let scope := scope p (revokeOperation shareId) idempotencyKey
  let current ← ask (owned p shareId)
  let db ← get
  match db.idempotencyKeys.get? scope with
  | some replay =>
    ensure (replay.requestHash = requestHash) (.conflict "idempotency key reused with another request" none)
    return { share := current.view, replayed := true }
  | none =>
    ensure (current.view.status = .active ∧ current.view.version = expectedVersion)
      (.conflict "share changed" (some current.view.version))
    let version := current.view.version + 1
    let epoch := current.view.capabilityEpoch + 1
    let row ← updateVersion shareId expectedVersion fun row => { row with
      view := { row.view with
        status := .revoked, version := version, capabilityEpoch := epoch
        updatedAt := env.now, revokedAt := some env.now } }
    deleteSessions shareId
    insertIdempotencyKey scope ⟨requestHash, shareId, version, epoch⟩
    return { share := row.view }

/-- The share whose secret an exchange compares; or what it raises before. -/
def compared (now : Time) (publicId : String) (db : Tables) : Except ShareError ShareRow :=
  match db.resolvePublicTenant publicId with
  | none => .error (.capabilityInvalid "invalid share capability")
  | some tenantId =>
    match (db.published tenantId publicId).filter (·.view.status == .active) with
    | none => .error (.capabilityInvalid "invalid share capability")
    | some row =>
      match row.blockedUntil.filter (now < ·) with
      | some blockedUntil => .error (.rateLimited (retryAfter blockedUntil now))
      | none => .ok row

/-- The failures of a row, those of a row without a window counted from now. -/
def ShareRow.failures (now : Time) (row : ShareRow) : Failures :=
  match row.failureWindowStartedAt with
  | none => ⟨0, now, row.blockedUntil⟩
  | some windowStart => ⟨row.failedAttempts, windowStart, row.blockedUntil⟩

/-- `exchange`.  A failed attempt is committed before it is raised. -/
def exchange (publicId secret : String) : TablesM ShareExchangeResponse := do
  let row ← ask (compared env.now publicId)
  if capabilityHash c publicId secret ≠ row.capabilitySecretHash then
    let failures := limits.fail env.now (ShareRow.failures env.now row)
    modify fun db => { db with shares := db.shares.set row.view.shareId { row with
      failedAttempts := failures.attempts, failureWindowStartedAt := some failures.windowStart
      blockedUntil := failures.blockedUntil } }
    throw (if failures.blockedUntil.isSome then .rateLimited (15 * 60)
      else .capabilityInvalid "invalid share capability")
  else
    let session : Session := ⟨row.view.shareId, row.view.capabilityEpoch, sessionExpiry env.now⟩
    atomic do
      modify fun db => { db with shares := db.shares.set row.view.shareId { row with
        failedAttempts := 0, failureWindowStartedAt := none, blockedUntil := none } }
      insertSession (sessionHash c env.sessionToken) session
    return ⟨env.sessionToken, session.expiresAt⟩

/-- The join of a share, a session and its snapshot. -/
def joined (tenantId publicId sessionHash : String) (db : Tables) : Option (ShareRow × Session × Obj) := do
  let row ← db.published tenantId publicId
  let session ← (db.sessions.get? sessionHash).filter (·.shareId == row.view.shareId)
  let snapshot ← db.snapshots.get? row.view.shareId
  return (row, session, snapshot)

/-- `public_snapshot`. -/
def publicSnapshot (publicId sessionToken : String) : TablesM (PublicShareSnapshotResponse Snapshot) := do
  let invalid := .capabilityInvalid "invalid share session"
  let db ← get
  match db.resolvePublicTenant publicId with
  | none => throw invalid
  | some tenantId =>
    match db.joined tenantId publicId (sessionHash c sessionToken) with
    | none => throw invalid
    | some (row, session, stored) =>
      ensure (row.view.status = .active) invalid
      ensure (env.now < session.expiresAt) invalid
      ensure (session.capabilityEpoch = row.view.capabilityEpoch) invalid
      match c.shareSnapshot stored with
      | none => throw (.validationError "ShareSnapshot@1")
      | some snapshot => return ⟨publicId, snapshot⟩

/-- A call of the service. -/
def call : ShareOp → TablesM (ShareResponse Snapshot)
  | .create p tripId request key => .mutation <$> create c env p tripId request key
  | .rotate p shareId version key => .mutation <$> rotate c env p shareId version key
  | .revoke p shareId version key => .mutation <$> revoke c env p shareId version key
  | .exchange publicId secret => .exchange <$> exchange c env publicId secret
  | .publicSnapshot publicId token => .snapshot <$> publicSnapshot c env publicId token

end
end Tables
end RoutePilot.Share
