/-
  The PostgreSQL store (`postgres_store.py`, `sql_tables.py`): its tables, its
  transactions, and the access checks every operation starts with.

  An operation is one transaction: it sees no intermediate state of another,
  and an exception rolls it back.  Row locks and the tenant scope of the
  connection are what makes that so, and are not modelled again.  The random
  primary keys of the outbox are left out, as are the column widths.
-/
import RoutePilot.Store.Runs

namespace RoutePilot.Postgres

open Lib

/-- What one operation reads from outside the database, with the database's own clock and the
    digest of the idempotency fingerprints. -/
structure Env extends RoutePilot.Env where
  databaseNow : Time
  sha256 : String → String := id

/-! ## Rows -/

/-- A row of `v1_runs`: the Run and its lease columns. -/
structure RunRow where
  run : RunView
  leaseOwner : Option String := none
  leaseUntil : Option Time := none
  attempt : ℕ := 0
  deriving Repr, Inhabited

structure EventRow where
  tenantId : String
  event : RunEvent
  deriving Repr, Inhabited

structure ArtifactRow where
  artifactId : String
  tripId : String
  tenantId : String
  artifactType : String
  createdBy : String
  createdAt : Time
  deriving DecidableEq, Repr, Inhabited

structure VersionRow where
  artifactId : String
  tenantId : String
  version : ℕ
  schemaVersion : ℕ
  status : ArtifactStatus
  content : Obj
  parentVersion : Option ℕ
  createdAt : Time
  deriving Repr, Inhabited

structure IdempotencyRow where
  requestHash : String
  responseRunId : String
  createdAt : Time
  expiresAt : Time
  deriving DecidableEq, Repr, Inhabited

structure OutboxRow where
  tenantId : String
  aggregateType : String
  aggregateId : String
  eventType : String
  payload : Obj
  createdAt : Time
  deriving Repr, Inhabited

/-- The tables, keyed by their primary keys (the events and the outbox in insertion order). -/
structure Database where
  trips : Dict String TripView := ∅
  members : Dict (String × String) TripMemberView := ∅
  runs : Dict String RunRow := ∅
  events : List EventRow := []
  artifacts : Dict String ArtifactRow := ∅
  versions : Dict (String × ℕ) VersionRow := ∅
  /-- `(tenant, actor, operation, key)` -/
  idempotencyKeys : Dict (String × String × String × String) IdempotencyRow := ∅
  outbox : List OutboxRow := []
  deriving Inhabited

/-- Code inside a transaction. -/
abbrev TxM := EStateM StoreError Database

/-- `async with self.engine.begin()`: an exception undoes every change. -/
def transaction {α : Type} (x : TxM α) : TxM α := fun db =>
  match x db with
  | .ok a db' => .ok a db'
  | .error e _ => .error e db

theorem transaction_run {α : Type} (x : TxM α) (db : Database) : (transaction x).run db = match x.run db with
    | .ok a db' => .ok a db'
    | .error e _ => .error e db := rfl

/-! ## Statements -/

/-- `update(table).where(key, c).values(f).returning(table)`, for one key. -/
def updateRow {K V : Type} [DecidableEq K] (table : Database → Dict K V)
    (put : Dict K V → Database → Database) (k : K) (c : V → Bool) (f : V → V) :
    TxM (Option V) := do
  let db ← get
  match (table db).get? k with
  | none => return none
  | some v =>
    if c v then
      modify (put ((table db).set k (f v)))
      return some (f v)
    else
      return none

def updateTrip : String → (TripView → Bool) → (TripView → TripView) → TxM (Option TripView) :=
  updateRow Database.trips fun t db => { db with trips := t }

def updateRun : String → (RunRow → Bool) → (RunRow → RunRow) → TxM (Option RunRow) :=
  updateRow Database.runs fun t db => { db with runs := t }

def updateVersion : String × ℕ → (VersionRow → Bool) → (VersionRow → VersionRow) →
    TxM (Option VersionRow) :=
  updateRow Database.versions fun t db => { db with versions := t }

/-- `insert(run_public_events_table)`, with its primary key and `uq_v1_run_public_events_run_seq`. -/
def insertEvent (tenantId : String) (event : RunEvent) : TxM Unit := do
  let db ← get
  ensure (∀ r ∈ db.events, r.event.eventId ≠ event.eventId) (.integrityError "event_id")
  ensure (∀ r ∈ db.events, ¬ (r.event.runId = event.runId ∧ r.event.seq = event.seq))
    (.integrityError "uq_v1_run_public_events_run_seq")
  modify fun db => { db with events := db.events ++ [⟨tenantId, event⟩] }

/-- `_insert_outbox`. -/
def insertOutbox (env : Env) (tenantId aggregateType aggregateId eventType : String)
    (payload : Obj) : TxM Unit :=
  modify fun db => { db with
    outbox := db.outbox ++ [⟨tenantId, aggregateType, aggregateId, eventType, payload, env.now⟩] }

/-! ## Access -/

/-- `_get_trip_tx`. -/
def getTripTx (p : Principal) (tripId : String) (write : Bool) (db : Database) :
    Except StoreError TripView :=
  match db.trips.get? tripId with
  | none => .error (.resourceNotFound "trip not found")
  | some trip =>
    if trip.tenantId ≠ p.tenantId then .error (.resourceNotFound "trip not found")
    else if trip.ownerId ≠ p.userId ∧ ¬ p.isTenantAdmin then
      match (db.members.get? (tripId, p.userId)).filter (·.tenantId == p.tenantId) with
      | none => .error (.resourceForbidden "trip access denied")
      | some member =>
        if write ∧ member.role ≠ .editor then .error (.resourceForbidden "trip access denied")
        else .ok trip
    else .ok trip

/-- `_get_run_tx`. -/
def getRunTx (p : Principal) (runId : String) (db : Database) : Except StoreError RunView :=
  match db.runs.get? runId with
  | none => .error (.resourceNotFound "run not found")
  | some row =>
    if row.run.tenantId ≠ p.tenantId then .error (.resourceNotFound "run not found")
    else (getTripTx p row.run.tripId false db).map fun _ => row.run

/-- `_assert_execution_lease_tx`: the lease against the locked Run row, by database time. -/
def assertExecutionLeaseTx (env : Env) (run : RunView) (lease : RunExecutionLease)
    (tripId : Option String) (db : Database) : Except StoreError Unit :=
  if lease.runId ≠ run.runId ∨ tripId.any (· ≠ run.tripId) then
    .error (.runExecutionLeaseLost "run execution lease targets another aggregate")
  else
    let lost := .error (.runExecutionLeaseLost "run execution lease is no longer valid")
    match (db.runs.get? run.runId).filter (·.run.tenantId == run.tenantId) with
    | none => lost
    | some row =>
      if row.leaseOwner ≠ some lease.owner ∨ row.attempt ≠ lease.attempt ∨
          row.leaseUntil.all (· ≤ env.databaseNow) ∨ !row.run.lifecycleState.isExecutable then lost
      else .ok ()

/-- `_artifact_from_row`: an Artifact joined with one of its versions. -/
def ArtifactRow.view (a : ArtifactRow) (v : VersionRow) : ArtifactView := {
  artifactId := a.artifactId, version := v.version, tripId := a.tripId, tenantId := a.tenantId
  artifactType := a.artifactType, schemaVersion := v.schemaVersion, status := v.status
  content := v.content, createdBy := a.createdBy, createdAt := v.createdAt
  parentVersion := v.parentVersion }

/-- The version of an Artifact with the greatest number. -/
def latestRow (artifactId : String) (db : Database) : Option VersionRow :=
  match db.versions.values.filter (·.artifactId == artifactId) with
  | [] => none
  | v :: vs => some (vs.foldl (fun m w => if m.version < w.version then w else m) v)

/-- `_get_artifact_tx`. -/
def getArtifactTx (p : Principal) (artifactId : String) (version : Option ℕ) (write : Bool)
    (db : Database) : Except StoreError ArtifactView :=
  match (db.artifacts.get? artifactId).filter (·.tenantId == p.tenantId) with
  | none => .error (.resourceNotFound "artifact not found")
  | some metadata =>
    match getTripTx p metadata.tripId write db with
    | .error e => .error e
    | .ok _ =>
      let row := match version with
        | none => latestRow artifactId db
        | some v => db.versions.get? (artifactId, v)
      match row with
      | none => .error (.resourceNotFound "artifact version not found")
      | some v => .ok (metadata.view v)

end RoutePilot.Postgres
