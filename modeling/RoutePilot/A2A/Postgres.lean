/-
  The PostgreSQL Task store (`travel_agent/a2a/postgres_store.py`): one
  transaction for each operation, with the lease of a Task in three columns of
  its row.  `func.now()` is the time of the transaction.
-/
import RoutePilot.A2A.Backend

namespace RoutePilot.A2A.Postgres

open Lib

/-- A row of `agent_tasks`, with the record it loads as. -/
structure TaskRow where
  record : TaskRecord
  executionLeaseOwner : Option String := none
  executionLeaseUntil : Option Time := none
  executionAttempt : ℕ := 0
  deriving Inhabited

/-- The tables `agent_tasks` (with its events) and `agent_dispatch_inbox`, which maps a dispatch to
    its Task and the fingerprint of its request. -/
structure TaskDatabase where
  tasks : Dict TaskKey TaskRow := ∅
  inbox : Dict TaskKey (String × String) := ∅
  deriving Inhabited

abbrev TaskTx := EStateM TaskStoreError TaskDatabase

/-- `_load_tx`. -/
def loadTx (key : TaskKey) (db : TaskDatabase) : Except TaskStoreError TaskRow :=
  match db.tasks.get? key with
  | some row => .ok row
  | none => .error .taskMissing

def createOrGet (record : TaskRecord) : TaskTx (TaskRecord × Bool) := do
  let db ← get
  match db.inbox.get? record.dispatchKey with
  | some (taskId, fingerprint) =>
    ensure (fingerprint = record.requestFingerprint)
      (.dispatchConflict "dispatch identifier already has another request")
    let existing ← ask (loadTx (record.tenantId, record.agentInterfaceId, taskId))
    return (existing.record, false)
  | none =>
    ensure (db.tasks.get? record.key).isNone (.dispatchConflict "task identifier already exists")
    modify fun db => { db with
      tasks := db.tasks.set record.key { record := record }
      inbox := db.inbox.set record.dispatchKey (record.task.id, record.requestFingerprint) }
    return (record, true)

def getTaskRecord (key : TaskKey) : TaskTx TaskRecord := do
  let row ← ask (loadTx key)
  return row.record

def getByDispatch (dispatchKey : TaskKey) : TaskTx TaskRecord := do
  let db ← get
  match db.inbox.get? dispatchKey with
  | some (taskId, _) =>
    let row ← ask (loadTx (dispatchKey.1, dispatchKey.2.1, taskId))
    return row.record
  | none => throw .taskMissing

/-- `execution_lease_owner = owner AND execution_attempt = attempt`. -/
def TaskRow.Owned (row : TaskRow) (lease : TaskExecutionLease) : Prop :=
  row.executionLeaseOwner = some lease.owner ∧ row.executionAttempt = lease.attempt

/-- `execution_lease_until > now()`. -/
def TaskRow.Active (row : TaskRow) (now : Time) : Prop :=
  ∃ leaseUntil ∈ row.executionLeaseUntil, now < leaseUntil

instance (row : TaskRow) (lease : TaskExecutionLease) : Decidable (row.Owned lease) :=
  inferInstanceAs (Decidable (_ ∧ _))

instance (row : TaskRow) (now : Time) : Decidable (row.Active now) :=
  match h : row.executionLeaseUntil with
  | none => .isFalse (by rintro ⟨_, hm, _⟩; rw [h] at hm; cases hm)
  | some t => if ht : now < t then .isTrue ⟨t, h, ht⟩
    else .isFalse (by rintro ⟨_, hm, hlt⟩; rw [h] at hm; cases hm; exact ht hlt)

/-- The row after a replacement: its lease columns are kept while the Task is executable. -/
def TaskRow.replaced (row : TaskRow) (record : TaskRecord) : TaskRow :=
  if record.state.isExecutable then { row with record := record }
  else { row with record := record, executionLeaseOwner := none, executionLeaseUntil := none }

/-- What `_assert_immutable_fields` compares, but the invocation, which no caller changes. -/
structure ImmutableFields where
  key : TaskKey
  actorId : String
  runId : String
  dispatchId : String
  requestFingerprint : String
  contextId : String
  deadline : Time
  referenceTaskIds : List String
  createdAt : Option Time
  deriving DecidableEq

def immutableFields (r : TaskRecord) : ImmutableFields :=
  ⟨r.key, r.actorId, r.runId, r.dispatchId, r.requestFingerprint, r.task.contextId, r.deadline,
    r.referenceTaskIds, r.createdAt⟩

/-- `_assert_event_prefix`, on the versions of the events. -/
def keepsEvents (current replacement : TaskRecord) : Bool :=
  (current.events.map (·.version)).isPrefixOf (replacement.events.map (·.version))

def replaceRecord (now : Time) (record : TaskRecord) (expectedVersion : ℕ)
    (executionLease : Option TaskExecutionLease) : TaskTx TaskRecord := do
  ensure (record.version = expectedVersion + 1) .taskVersionConflict
  let row ← ask (loadTx record.key)
  ensure (row.record.version = expectedVersion) .taskVersionConflict
  ensure (immutableFields row.record = immutableFields record)
    (.taskStoreError "immutable Task fields changed during replacement")
  ensure (keepsEvents row.record record) (.taskStoreError "Task replacement rewrote retained events")
  ensure (∀ lease ∈ executionLease, row.Owned lease ∧ row.Active now) .taskExecutionLeaseLost
  modify fun db => { db with tasks := db.tasks.set record.key (row.replaced record) }
  return record

/-- The end of a lease taken at `now`: at least 50 ms, at most 300 s. -/
def leaseEnd (now duration : ℕ) : Time := now + max 50_000 (min duration 300_000_000)

def claimExecution (now : Time) (key : TaskKey) (owner : String) (duration : ℕ) :
    TaskTx (Option TaskExecutionLease) := do
  ensure (owner ≠ "" ∧ owner.length ≤ 128) (.taskStoreError "invalid Task execution owner")
  let row ← ask (loadTx key)
  if row.record.state.isExecutable ∧ (row.executionLeaseOwner = none ∨
      (row.executionLeaseUntil.any (· ≤ now))) then
    let attempt := row.executionAttempt + 1
    modify fun db => { db with
      tasks := db.tasks.set key { row with
        executionLeaseOwner := some owner
        executionLeaseUntil := some (leaseEnd now duration)
        executionAttempt := attempt } }
    return some ⟨key.1, key.2.1, key.2.2, owner, attempt, leaseEnd now duration⟩
  else return none

def renewExecution (now : Time) (lease : TaskExecutionLease) (duration : ℕ) :
    TaskTx (Option TaskExecutionLease) := do
  let db ← get
  match db.tasks.get? lease.key with
  | some row =>
    if row.record.state.isExecutable ∧ row.Owned lease ∧ row.Active now then
      modify fun db => { db with
        tasks := db.tasks.set lease.key { row with executionLeaseUntil := some (leaseEnd now duration) } }
      return some { lease with leaseUntil := leaseEnd now duration }
    else return none
  | none => return none

def releaseExecution (lease : TaskExecutionLease) : TaskTx Unit := do
  let db ← get
  match db.tasks.get? lease.key with
  | some row =>
    if row.Owned lease then
      modify fun db => { db with
        tasks := db.tasks.set lease.key
          { row with executionLeaseOwner := none, executionLeaseUntil := none } }
  | none => pure ()

def listForRun (tenantId runId : String) : TaskTx (List TaskRecord) := do
  let db ← get
  return (db.tasks.values.map (·.record)).filter fun r => r.tenantId = tenantId ∧ r.runId = runId

/-! ## Refinement -/

/-- The lease of a row under its key, if it has one. -/
def TaskRow.lease (key : TaskKey) (row : TaskRow) : Option TaskExecutionLease :=
  match row.executionLeaseOwner, row.executionLeaseUntil with
  | some owner, some leaseUntil => some ⟨key.1, key.2.1, key.2.2, owner, row.executionAttempt, leaseUntil⟩
  | _, _ => none

def TaskDatabase.view (db : TaskDatabase) : TaskView where
  record key := (db.tasks.get? key).map (·.record)
  lease key := (db.tasks.get? key).bind (TaskRow.lease key)
  attempts key := ((db.tasks.get? key).map (·.executionAttempt)).getD 0

/-- The operations of `PostgresAgentTaskStore`. -/
def postgresExec (now : Time) :
    (o : TaskOp) → TaskDatabase → Except TaskStoreError o.Ans → TaskDatabase → Prop
  | .createOrGet record, db, r, db' => Ran ((createOrGet record).run db) r db'
  | .get key, db, r, db' => Ran ((getTaskRecord key).run db) r db'
  | .getByDispatch dispatchKey, db, r, db' => Ran ((getByDispatch dispatchKey).run db) r db'
  | .replace record version lease, db, r, db' =>
    Ran ((replaceRecord now record version lease).run db) r db'
  | .claimExecution key owner duration, db, r, db' =>
    Ran ((claimExecution now key owner duration).run db) r db'
  | .renewExecution lease duration, db, r, db' => Ran ((renewExecution now lease duration).run db) r db'
  | .releaseExecution lease, db, r, db' => Ran ((releaseExecution lease).run db) r db'
  | .listForRun tenantId runId, db, r, db' => Ran ((listForRun tenantId runId).run db) r db'
  | .waitForChange key afterVersion, db, r, db' =>
    Waited ((db.tasks.get? key).map (·.record)) afterVersion r ∧ db' = db

section
variable {now : Time} {db db' : TaskDatabase}

theorem loadTx_ok {key : TaskKey} {row : TaskRow} (h : loadTx key db = .ok row) :
    db.tasks.get? key = some row := by
  unfold loadTx at h
  split at h
  · next r hr => cases h; exact hr
  · cases h

theorem loadTx_error {key : TaskKey} {e : TaskStoreError} (h : loadTx key db = .error e) :
    e = .taskMissing ∧ db.tasks.get? key = none := by
  unfold loadTx at h
  split at h
  · cases h
  · next hr => cases h; exact ⟨rfl, hr⟩

theorem record_eq {key : TaskKey} {row : TaskRow} (h : db.tasks.get? key = some row) :
    db.view.record key = some row.record := by
  simp [TaskDatabase.view, h]

theorem record_eq_none {key : TaskKey} (h : db.tasks.get? key = none) : db.view.record key = none := by
  simp [TaskDatabase.view, h]

/-- Writing one row, in the view. -/
theorem view_set (db : TaskDatabase) (inbox : Dict TaskKey (String × String)) (key : TaskKey)
    (row : TaskRow) :
    TaskDatabase.view ⟨db.tasks.set key row, inbox⟩ =
      ⟨Function.update db.view.record key (some row.record),
        Function.update db.view.lease key (row.lease key),
        Function.update db.view.attempts key row.executionAttempt⟩ := by
  unfold TaskDatabase.view
  congr 1 <;> funext k <;> rw [Function.update_apply, Dict.get?_set]
  · split <;> rfl
  · split
    · next hk => rw [hk]; rfl
    · rfl
  · split <;> rfl

/-- The active lease of a row. -/
theorem TaskRow.Owned.lease {row : TaskRow} {lease : TaskExecutionLease} (h : row.Owned lease)
    {leaseUntil : Time} (hu : row.executionLeaseUntil = some leaseUntil) (key : TaskKey) :
    row.lease key = some ⟨key.1, key.2.1, key.2.2, lease.owner, lease.attempt, leaseUntil⟩ := by
  rw [TaskRow.lease, h.1, hu, h.2]

theorem holds_of_owned {key : TaskKey} {row : TaskRow} {lease : TaskExecutionLease}
    (hrow : db.tasks.get? key = some row) (h : row.Owned lease) (ha : row.Active now) :
    db.view.Holds now key lease := by
  obtain ⟨leaseUntil, hu, hlt⟩ := ha
  refine ⟨⟨key.1, key.2.1, key.2.2, lease.owner, lease.attempt, leaseUntil⟩, ?_, ⟨rfl, rfl⟩, hlt⟩
  show (db.tasks.get? key).bind (TaskRow.lease key) = _
  rw [hrow]
  exact h.lease hu key

theorem lease_eq {key : TaskKey} {row : TaskRow} (h : db.tasks.get? key = some row) :
    db.view.lease key = row.lease key := by
  simp [TaskDatabase.view, h]

theorem attempts_eq {key : TaskKey} {row : TaskRow} (h : db.tasks.get? key = some row) :
    db.view.attempts key = row.executionAttempt := by
  simp [TaskDatabase.view, h]

theorem createOrGet_effect {record : TaskRecord} {r : Except TaskStoreError (TaskRecord × Bool)}
    (h : Ran ((createOrGet record).run db) r db') :
    TaskEffect now db.view (.createOrGet record) r db'.view := by
  cases r with
  | ok x =>
    simp only [Ran, createOrGet, bind_ok, EStateM.run_get, EStateM.Result.ok.injEq, existsAndEq,
      true_and] at h
    split at h
    · simp only [bind_ok, ask_ok, ensure_ok, EStateM.run_pure, EStateM.Result.ok.injEq, existsAndEq,
        true_and, exists_const, and_assoc] at h
      obtain ⟨-, row, hload, rfl, rfl⟩ := h
      exact .existing record row.record _ (record_eq (loadTx_ok hload))
    · simp only [bind_ok, ensure_ok, EStateM.run_modify, EStateM.run_pure, EStateM.Result.ok.injEq,
        existsAndEq, true_and, exists_const, and_assoc] at h
      obtain ⟨hfresh, rfl, rfl⟩ := h
      have hnone := Option.isNone_iff_eq_none.1 hfresh
      have hlease : db.view.lease record.key = none := by simp [TaskDatabase.view, hnone]
      have hattempts : db.view.attempts record.key = 0 := by simp [TaskDatabase.view, hnone]
      rw [view_set, show TaskRow.lease record.key { record := record } = none from rfl, ← hlease,
        Function.update_eq_self, show ({ record := record } : TaskRow).executionAttempt = 0 from rfl,
        ← hattempts, Function.update_eq_self]
      exact .created record (record_eq_none hnone)
  | error e =>
    have hdb : db' = db := by
      simp only [Ran, createOrGet, bind_error, EStateM.run_get, EStateM.Result.ok.injEq, existsAndEq,
        true_and, reduceCtorEq, false_or] at h
      split at h
      · simp only [bind_error, ask_ok, ask_error, ensure_ok, ensure_error, EStateM.run_pure,
          existsAndEq, true_and, exists_const, and_assoc, reduceCtorEq, and_false, or_false] at h
        rcases h with ⟨-, -, rfl⟩ | ⟨-, -, rfl⟩ <;> rfl
      · simp only [bind_error, ensure_ok, ensure_error, EStateM.run_modify, EStateM.run_pure,
          exists_const, reduceCtorEq, and_false, or_false] at h
        obtain ⟨-, -, rfl⟩ := h
        rfl
    rw [hdb]
    exact .conflict record e

theorem getTaskRecord_effect {key : TaskKey} {r : Except TaskStoreError TaskRecord}
    (h : Ran ((getTaskRecord key).run db) r db') : TaskEffect now db.view (.get key) r db'.view := by
  cases r with
  | ok record =>
    simp only [Ran, getTaskRecord, bind_ok, ask_ok, EStateM.run_pure, EStateM.Result.ok.injEq,
      existsAndEq, true_and, and_assoc] at h
    obtain ⟨row, hload, rfl, rfl⟩ := h
    exact .got key row.record (record_eq (loadTx_ok hload))
  | error e =>
    simp only [Ran, getTaskRecord, bind_error, ask_error, EStateM.run_pure, reduceCtorEq, and_false,
      exists_const, or_false] at h
    obtain ⟨hload, rfl⟩ := h
    obtain ⟨rfl, hnone⟩ := loadTx_error hload
    exact .missing key (record_eq_none hnone)

theorem getByDispatch_effect {dispatchKey : TaskKey} {r : Except TaskStoreError TaskRecord}
    (h : Ran ((getByDispatch dispatchKey).run db) r db') :
    TaskEffect now db.view (.getByDispatch dispatchKey) r db'.view := by
  cases r with
  | ok record =>
    simp only [Ran, getByDispatch, bind_ok, EStateM.run_get, EStateM.Result.ok.injEq, existsAndEq,
      true_and] at h
    split at h
    · simp only [bind_ok, ask_ok, EStateM.run_pure, EStateM.Result.ok.injEq, existsAndEq, true_and,
        and_assoc] at h
      obtain ⟨row, hload, rfl, rfl⟩ := h
      exact .found dispatchKey _ row.record (record_eq (loadTx_ok hload))
    · cases h
  | error e =>
    simp only [Ran, getByDispatch, bind_error, EStateM.run_get, EStateM.Result.ok.injEq, existsAndEq,
      true_and, reduceCtorEq, false_or] at h
    split at h
    · simp only [bind_error, ask_error, EStateM.run_pure, reduceCtorEq, and_false, exists_const,
        or_false] at h
      obtain ⟨hload, rfl⟩ := h
      obtain ⟨rfl, -⟩ := loadTx_error hload
      exact .notFound dispatchKey
    · cases h
      exact .notFound dispatchKey

/-- A replaced row, in the view. -/
theorem replaced_view {row : TaskRow} {record : TaskRecord}
    (hrow : db.tasks.get? record.key = some row) :
    TaskDatabase.view ⟨db.tasks.set record.key (row.replaced record), db.inbox⟩ = db.view.store record := by
  have hattempt : (row.replaced record).executionAttempt = row.executionAttempt := by
    unfold TaskRow.replaced; split <;> rfl
  have hrecord : (row.replaced record).record = record := by
    unfold TaskRow.replaced; split <;> rfl
  rw [view_set, hattempt, hrecord, ← attempts_eq hrow, Function.update_eq_self, TaskView.store]
  split
  · next hex =>
    have hlease : (row.replaced record).lease record.key = row.lease record.key := by
      rw [TaskRow.replaced, if_pos hex]; rfl
    rw [hlease, ← lease_eq hrow, Function.update_eq_self]
  · next hex =>
    have hlease : (row.replaced record).lease record.key = none := by
      rw [TaskRow.replaced, if_neg hex]; rfl
    rw [hlease]

theorem replaceRecord_effect {record : TaskRecord} {version : ℕ} {lease : Option TaskExecutionLease}
    {r : Except TaskStoreError TaskRecord}
    (h : Ran ((replaceRecord now record version lease).run db) r db') :
    TaskEffect now db.view (.replace record version lease) r db'.view := by
  cases r with
  | ok x =>
    simp only [Ran, replaceRecord, bind_ok, ask_ok, ensure_ok, EStateM.run_modify, EStateM.run_pure,
      EStateM.Result.ok.injEq, existsAndEq, true_and, exists_const, and_assoc] at h
    obtain ⟨hversion, row, hload, rfl, -, -, hlease, rfl, rfl⟩ := h
    have hrow := loadTx_ok hload
    rw [replaced_view hrow]
    exact .replaced record row.record lease (record_eq hrow) hversion fun l hl =>
      holds_of_owned hrow (hlease l hl).1 (hlease l hl).2
  | error e =>
    have hdb : db' = db := by
      simp only [Ran, replaceRecord, bind_error, ask_ok, ask_error, ensure_ok, ensure_error,
        EStateM.run_modify, EStateM.run_pure, existsAndEq, true_and, exists_const, and_assoc,
        reduceCtorEq, and_false, or_false] at h
      rcases h with ⟨-, -, rfl⟩ | ⟨-, ⟨-, rfl⟩ | ⟨_, -, ⟨-, -, rfl⟩ | ⟨-, ⟨-, -, rfl⟩ | ⟨-,
        ⟨-, -, rfl⟩ | ⟨-, -, -, rfl⟩⟩⟩⟩⟩ <;> rfl
    rw [hdb]
    exact .notReplaced record version lease e

theorem claimExecution_effect {key : TaskKey} {owner : String} {duration : ℕ}
    {r : Except TaskStoreError (Option TaskExecutionLease)}
    (h : Ran ((claimExecution now key owner duration).run db) r db') :
    TaskEffect now db.view (.claimExecution key owner duration) r db'.view := by
  cases r with
  | ok x =>
    simp only [Ran, claimExecution, bind_ok, ask_ok, ensure_ok, existsAndEq, true_and, and_assoc] at h
    obtain ⟨-, -, -, row, hload, h⟩ := h
    have hrow := loadTx_ok hload
    split at h
    · simp only [bind_ok, EStateM.run_modify, EStateM.run_pure, EStateM.Result.ok.injEq, existsAndEq,
        true_and, exists_const] at h
      obtain ⟨rfl, rfl⟩ := h
      have := @TaskEffect.claimed now db.view key owner duration row.record
        ⟨key.1, key.2.1, key.2.2, owner, row.executionAttempt + 1, leaseEnd now duration⟩
        (record_eq hrow) rfl rfl (by rw [attempts_eq hrow])
      rw [view_set, ← record_eq hrow, Function.update_eq_self]
      exact this
    · cases h
      exact .notClaimed key owner duration
  | error e =>
    simp only [Ran, claimExecution, bind_error, ask_ok, ask_error, ensure_ok, ensure_error, existsAndEq,
      true_and, and_assoc] at h
    obtain ⟨-, rfl, rfl⟩ | ⟨-, -, -, ⟨hload, rfl⟩ | ⟨row, -, h⟩⟩ := h
    · exact .claimInvalid key owner duration _
    · obtain ⟨rfl, hnone⟩ := loadTx_error hload
      exact .claimMissing key owner duration (record_eq_none hnone)
    · split at h <;> cases h

theorem renewExecution_effect {lease : TaskExecutionLease} {duration : ℕ}
    {r : Except TaskStoreError (Option TaskExecutionLease)}
    (h : Ran ((renewExecution now lease duration).run db) r db') :
    TaskEffect now db.view (.renewExecution lease duration) r db'.view := by
  cases r with
  | ok x =>
    simp only [Ran, renewExecution, bind_ok, EStateM.run_get, EStateM.Result.ok.injEq, existsAndEq,
      true_and] at h
    split at h
    · next row hrow =>
      split at h
      · next hc =>
        cases h
        obtain ⟨leaseUntil, hu, hlt⟩ := hc.2.2
        have hold := hc.2.1.lease hu lease.key
        have := @TaskEffect.renewed now db.view lease _ duration
          (leaseEnd now duration) ((lease_eq hrow).trans hold) ⟨rfl, rfl⟩ hlt
        have hlease : TaskRow.lease lease.key
            { row with executionLeaseUntil := some (leaseEnd now duration) } =
            some { lease with leaseUntil := leaseEnd now duration } := by
          rw [TaskRow.lease, show _ = some lease.owner from hc.2.1.1,
            show _ = lease.attempt from hc.2.1.2]
          rfl
        rw [view_set, hlease, ← record_eq hrow, Function.update_eq_self, ← attempts_eq hrow,
          Function.update_eq_self]
        exact this
      · cases h
        exact .notRenewed lease duration
    · cases h
      exact .notRenewed lease duration
  | error e =>
    simp only [Ran, renewExecution, bind_error, EStateM.run_get, EStateM.Result.ok.injEq, existsAndEq,
      true_and, reduceCtorEq, false_or] at h
    split at h
    · split at h <;> cases h
    · cases h

theorem releaseExecution_effect {lease : TaskExecutionLease} {r : Except TaskStoreError Unit}
    (h : Ran ((releaseExecution lease).run db) r db') :
    TaskEffect now db.view (.releaseExecution lease) r db'.view := by
  cases r with
  | ok x =>
    simp only [Ran, releaseExecution, bind_ok, EStateM.run_get, EStateM.Result.ok.injEq, existsAndEq,
      true_and] at h
    split at h
    · next row hrow =>
      split at h
      · next hc =>
        cases h
        rw [view_set, show TaskRow.lease lease.key _ = none from rfl, ← record_eq hrow,
          Function.update_eq_self, ← attempts_eq hrow, Function.update_eq_self]
        cases hu : row.executionLeaseUntil with
        | some leaseUntil =>
          exact .released lease _ ((lease_eq hrow).trans (hc.lease hu lease.key)) ⟨rfl, rfl⟩
        | none =>
          -- without an end the row has no lease
          have hnone : db.view.lease lease.key = none := by
            rw [lease_eq hrow, TaskRow.lease, hc.1, hu]
          rw [← hnone, Function.update_eq_self]
          exact .notReleased lease
      · cases h
        exact .notReleased lease
    · cases h
      exact .notReleased lease
  | error e =>
    simp only [Ran, releaseExecution, bind_error, EStateM.run_get, EStateM.Result.ok.injEq, existsAndEq,
      true_and, reduceCtorEq, false_or] at h
    split at h
    · split at h <;> cases h
    · cases h

end

/-- The PostgreSQL store. -/
def postgresTasks : TaskBackend TaskDatabase where
  init := {}
  exec := postgresExec
  view := TaskDatabase.view
  init_view := rfl
  refines now o db r db' h := by
    cases o with
    | createOrGet => exact createOrGet_effect h
    | get => exact getTaskRecord_effect h
    | getByDispatch => exact getByDispatch_effect h
    | replace => exact replaceRecord_effect h
    | claimExecution => exact claimExecution_effect h
    | renewExecution => exact renewExecution_effect h
    | releaseExecution => exact releaseExecution_effect h
    | listForRun tenantId runId =>
      cases r with
      | ok records =>
        cases h
        refine .listed tenantId runId _ fun r hr => ?_
        obtain ⟨row, hrow, rfl⟩ := List.mem_map.1 (List.mem_filter.1 hr).1
        obtain ⟨key, hkey⟩ := Dict.exists_get?_of_mem_values hrow
        exact ⟨key, record_eq hkey⟩
      | error e => cases h
    | waitForChange key afterVersion =>
      obtain ⟨hw, rfl⟩ := h
      cases hw with
      | timeout => exact .timeout key afterVersion
      | changed r hr _ => exact .changed key afterVersion r hr
      | missing hnone => exact .waitMissing key afterVersion hnone

end RoutePilot.A2A.Postgres
