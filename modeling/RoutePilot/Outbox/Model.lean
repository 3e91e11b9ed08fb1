/-
  The transactional outbox (`outbox.py`).

  A dispatcher claims a batch of unpublished rows under a lease, publishes them
  one after the other, and marks each as published or failed.  A statement of the
  repository is a function on the table; what a `SELECT ... SKIP LOCKED` gets to
  see, and in which order, is its argument `scan`.

  Dispatchers run next to each other.  Each worker goes through
  `OutboxDispatcher.dispatch_once`: it claims a batch, and for every record of it
  publishes, then marks.  A step of a worker is one of these calls; a crash loses
  what the worker held in memory.
-/
import Mathlib.Algebra.Group.Nat.Defs
import RoutePilot.Lib.Dict
import RoutePilot.Lib.Lts
import RoutePilot.Model.Entities
import RoutePilot.Model.Json

namespace RoutePilot.Outbox

open Lib

/-- `outbox_events_table`. -/
structure OutboxRow where
  outboxId : String
  tenantId : String
  aggregateType : String
  aggregateId : String
  eventType : String
  payload : Json
  createdAt : Time
  availableAt : Time
  publishedAt : Option Time := none
  lockedAt : Option Time := none
  lockedBy : Option String := none
  publishAttempts : ℕ := 0
  lastError : Option String := none

abbrev Table := Dict String OutboxRow

structure OutboxRecord where
  outboxId : String
  tenantId : String
  aggregateType : String
  aggregateId : String
  eventType : String
  payload : Obj
  publishAttempts : ℕ

/-- What a publisher sends of a record. -/
structure Envelope where
  outboxId : String
  tenantId : String
  aggregateType : String
  aggregateId : String
  eventType : String
  payload : Obj

def OutboxRecord.envelope (r : OutboxRecord) : Envelope :=
  ⟨r.outboxId, r.tenantId, r.aggregateType, r.aggregateId, r.eventType, r.payload⟩

/-- `dict(row["payload"]) if isinstance(row["payload"], dict) else {}`. -/
def payloadOf : Json → Obj
  | .obj fields => fields
  | _ => []

/-- The record of a row that was just claimed. -/
def OutboxRow.record (row : OutboxRow) : OutboxRecord where
  outboxId := row.outboxId
  tenantId := row.tenantId
  aggregateType := row.aggregateType
  aggregateId := row.aggregateId
  eventType := row.eventType
  payload := payloadOf row.payload
  publishAttempts := row.publishAttempts + 1

def OutboxRow.envelope (row : OutboxRow) : Envelope := row.record.envelope

def seconds (n : ℕ) : Time := n * 1_000_000

/-- `PostgresOutboxRepository`. -/
structure Repository where
  workerId : String
  /-- as configured -/
  lease : ℕ

namespace Repository
variable (self : Repository)

def leaseSeconds : ℕ := max 10 self.lease

/-! ## `claim_batch` -/

/-- The rows that a batch may have. -/
def claimable (now : Time) (row : OutboxRow) : Bool :=
  row.publishedAt.isNone && decide (row.availableAt ≤ now) &&
    row.lockedAt.all fun lockedAt => decide (lockedAt + seconds self.leaseSeconds < now)

/-- `max(1, min(limit, 500))`. -/
def batchSize (limit : ℤ) : ℕ := (max 1 (min limit 500)).toNat

/-- The rows of a batch, of those the statement gets to lock. -/
def selected (now : Time) (limit : ℤ) (scan : List OutboxRow) : List OutboxRow :=
  ((scan.filter (self.claimable now)).mergeSort fun a b => a.createdAt ≤ b.createdAt).take (batchSize limit)

/-- The lease of a batch. -/
def leased (now : Time) (ids : List String) (rows : Table) : Table :=
  rows.mapValues fun row =>
    if row.outboxId ∈ ids then
      { row with lockedAt := some now, lockedBy := some self.workerId, publishAttempts := row.publishAttempts + 1 }
    else row

def claimBatch (now : Time) (limit : ℤ) (scan : List OutboxRow) (rows : Table) : List OutboxRecord × Table :=
  let batch := self.selected now limit scan
  (batch.map (·.record), self.leased now (batch.map (·.outboxId)) rows)

/-! ## Marks -/

/-- The row of a record, as long as this worker holds it. -/
def holds (r : OutboxRecord) (row : OutboxRow) : Bool :=
  row.outboxId == r.outboxId && row.lockedBy == some self.workerId && row.publishedAt.isNone

def markPublished (r : OutboxRecord) (now : Time) (rows : Table) : Table :=
  rows.mapValues fun row =>
    if self.holds r row then
      { row with publishedAt := some now, lockedAt := none, lockedBy := none, lastError := none }
    else row

/-- `re.sub(r"[^A-Z0-9_]", "_", code.upper())[:96] or "PUBLISH_FAILED"`, of a code in upper case. -/
def safeCode (upper : String) : String :=
  let safe := (upper.toList.map fun c => if c.isUpper || c.isDigit || c == '_' then c else '_').take 96
  if safe.isEmpty then "PUBLISH_FAILED" else String.ofList safe

/-- `min(300, 2 ** min(record.publish_attempts, 8))`. -/
def delaySeconds (r : OutboxRecord) : ℕ := min 300 (2 ^ min r.publishAttempts 8)

def markFailed (r : OutboxRecord) (errorCode : String) (now : Time) (rows : Table) : Table :=
  rows.mapValues fun row =>
    if self.holds r row then
      { row with
        availableAt := now + seconds (delaySeconds r), lockedAt := none, lockedBy := none
        lastError := some (safeCode errorCode) }
    else row

end Repository

/-! ## Workers -/

/-- Where a worker is in `dispatch_once`, with the records that it has still to publish. -/
inductive Phase where
  | idle
  | publishing (r : OutboxRecord) (rest : List OutboxRecord)
  | published (r : OutboxRecord) (rest : List OutboxRecord)
  | failed (r : OutboxRecord) (errorCode : String) (rest : List OutboxRecord)

namespace Phase

/-- The next record, or the end of the batch. -/
def next : List OutboxRecord → Phase
  | [] => idle
  | r :: rest => publishing r rest

/-- The records in memory. -/
def records : Phase → List OutboxRecord
  | idle => []
  | publishing r rest | published r rest | failed r _ rest => r :: rest

@[simp] theorem records_next (rs : List OutboxRecord) : (next rs).records = rs := by
  cases rs <;> rfl

/-- The record that is to be marked. -/
def marks : Phase → Option OutboxRecord
  | published r _ | failed r _ _ => some r
  | idle | publishing _ _ => none

end Phase

structure World where
  rows : Table := ∅
  workers : String → Phase := fun _ => .idle
  /-- the publishes that succeeded -/
  delivered : List Envelope := []

inductive Label where
  /-- a transaction commits a row -/
  | insert (row : OutboxRow)
  | claim (worker : String) (now : Time) (limit : ℤ) (scan : List OutboxRow)
  /-- a publish returns, or raises an exception with this name -/
  | publish (worker : String) (error : Option String)
  | mark (worker : String) (now : Time)
  | crash (worker : String)

/-- A row as `_insert_outbox` writes it. -/
structure OutboxRow.New (row : OutboxRow) : Prop where
  publishedAt : row.publishedAt = none
  lockedAt : row.lockedAt = none
  lockedBy : row.lockedBy = none
  publishAttempts : row.publishAttempts = 0

variable (lease : String → ℕ) (upper : String → String)

/-- The repository of a worker. -/
def repository (worker : String) : Repository := ⟨worker, lease worker⟩

inductive Step (w : World) : Label → World → Prop
  | insert (row : OutboxRow) (hnew : row.New) (hkey : w.rows.get? row.outboxId = none) :
      Step w (.insert row) { w with rows := w.rows.set row.outboxId row }
  | claim {worker : String} {now : Time} {limit : ℤ} {scan : List OutboxRow} {batch : List OutboxRecord} {rows : Table}
      (hidle : w.workers worker = .idle) (hscan : scan.Subperm w.rows.values)
      (hclaim : (repository lease worker).claimBatch now limit scan w.rows = (batch, rows)) :
      Step w (.claim worker now limit scan)
        { w with rows, workers := Function.update w.workers worker (.next batch) }
  | publish {worker : String} {r : OutboxRecord} {rest : List OutboxRecord}
      (hphase : w.workers worker = .publishing r rest) :
      Step w (.publish worker none)
        { w with
          workers := Function.update w.workers worker (.published r rest)
          delivered := r.envelope :: w.delivered }
  | publishRaises {worker error : String} {r : OutboxRecord} {rest : List OutboxRecord}
      (hphase : w.workers worker = .publishing r rest) :
      Step w (.publish worker (some error))
        { w with workers := Function.update w.workers worker (.failed r error rest) }
  | markPublished {worker : String} {now : Time} {r : OutboxRecord} {rest : List OutboxRecord}
      (hphase : w.workers worker = .published r rest) :
      Step w (.mark worker now)
        { w with
          rows := (repository lease worker).markPublished r now w.rows
          workers := Function.update w.workers worker (.next rest) }
  | markFailed {worker error : String} {now : Time} {r : OutboxRecord} {rest : List OutboxRecord}
      (hphase : w.workers worker = .failed r error rest) :
      Step w (.mark worker now)
        { w with
          rows := (repository lease worker).markFailed r (upper error) now w.rows
          workers := Function.update w.workers worker (.next rest) }
  | crash (worker : String) :
      Step w (.crash worker) { w with workers := Function.update w.workers worker .idle }

/-- The dispatchers, with a lease for every worker. -/
def dispatchers : Lts World Label where
  init w := w = {}
  step := Step lease upper

end RoutePilot.Outbox
