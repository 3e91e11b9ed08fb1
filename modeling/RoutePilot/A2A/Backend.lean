/-
  The operations of the Task store as data, what every store does to its Tasks
  and leases (`TaskEffect`), and the two stores that refine it.

  An operation of `PostgresAgentTaskStore` is one transaction; its rows hold
  the record of a Task with the columns of its lease.  How a record is encoded
  in columns and event rows is left out, and so are the errors of the encoding:
  an unexpected error of a database is a step of its own in the system of
  services.
-/
import RoutePilot.A2A.Tasks

namespace RoutePilot.A2A

open Lib

/-! ## Operations -/

/-- The operations of `AgentTaskPersistence`. -/
inductive TaskOp where
  | createOrGet (record : TaskRecord)
  | get (key : TaskKey)
  | getByDispatch (dispatchKey : TaskKey)
  | replace (record : TaskRecord) (expectedVersion : ℕ) (executionLease : Option TaskExecutionLease)
  | claimExecution (key : TaskKey) (owner : String) (duration : ℕ)
  | renewExecution (lease : TaskExecutionLease) (duration : ℕ)
  | releaseExecution (lease : TaskExecutionLease)
  | listForRun (tenantId runId : String)
  | waitForChange (key : TaskKey) (afterVersion : ℕ)

@[reducible] def TaskOp.Ans : TaskOp → Type
  | createOrGet .. => TaskRecord × Bool
  | get .. | getByDispatch .. | replace .. => TaskRecord
  | claimExecution .. | renewExecution .. => Option TaskExecutionLease
  | releaseExecution .. => Unit
  | listForRun .. => List TaskRecord
  | waitForChange .. => Option TaskRecord

/-! ## Tasks and leases, whatever the store -/

/-- The Tasks of a store, their leases, and the attempts counted so far. -/
structure TaskView where
  record : TaskKey → Option TaskRecord
  lease : TaskKey → Option TaskExecutionLease
  attempts : TaskKey → ℕ

/-- The lease is the active one of its Task, and has not expired. -/
def TaskView.Holds (v : TaskView) (now : Time) (key : TaskKey) (lease : TaskExecutionLease) : Prop :=
  ∃ active, v.lease key = some active ∧ active.Matches lease ∧ now < active.leaseUntil

/-- The view with another record for one Task, whose lease is dropped unless it is executable. -/
def TaskView.store (v : TaskView) (record : TaskRecord) : TaskView :=
  { v with
    record := Function.update v.record record.key (some record)
    lease := if record.state.isExecutable then v.lease else Function.update v.lease record.key none }

/-- What an operation may answer, and what it then does. -/
inductive TaskEffect (now : Time) (v : TaskView) :
    (o : TaskOp) → Except TaskStoreError o.Ans → TaskView → Prop
  | created (draft : TaskRecord) (h : v.record draft.key = none) :
      TaskEffect now v (.createOrGet draft) (.ok (draft, true))
        { v with record := Function.update v.record draft.key (some draft) }
  | existing (draft existing : TaskRecord) (key : TaskKey) (h : v.record key = some existing) :
      TaskEffect now v (.createOrGet draft) (.ok (existing, false)) v
  | conflict (draft : TaskRecord) (e : TaskStoreError) :
      TaskEffect now v (.createOrGet draft) (.error e) v
  | got (key : TaskKey) (record : TaskRecord) (h : v.record key = some record) :
      TaskEffect now v (.get key) (.ok record) v
  | missing (key : TaskKey) (h : v.record key = none) :
      TaskEffect now v (.get key) (.error .taskMissing) v
  | found (dispatchKey key : TaskKey) (record : TaskRecord) (h : v.record key = some record) :
      TaskEffect now v (.getByDispatch dispatchKey) (.ok record) v
  | notFound (dispatchKey : TaskKey) :
      TaskEffect now v (.getByDispatch dispatchKey) (.error .taskMissing) v
  | replaced (record current : TaskRecord) (lease : Option TaskExecutionLease)
      (h : v.record record.key = some current) (hversion : record.version = current.version + 1)
      (hlease : ∀ l ∈ lease, v.Holds now record.key l) :
      TaskEffect now v (.replace record current.version lease) (.ok record) (v.store record)
  | notReplaced (record : TaskRecord) (version : ℕ) (lease : Option TaskExecutionLease)
      (e : TaskStoreError) : TaskEffect now v (.replace record version lease) (.error e) v
  | claimed (key : TaskKey) (owner : String) (duration : ℕ) (record : TaskRecord)
      (lease : TaskExecutionLease) (h : v.record key = some record) (hkey : lease.key = key)
      (howner : lease.owner = owner) (hattempt : lease.attempt = v.attempts key + 1) :
      TaskEffect now v (.claimExecution key owner duration) (.ok (some lease))
        { v with
          lease := Function.update v.lease key (some lease)
          attempts := Function.update v.attempts key lease.attempt }
  | notClaimed (key : TaskKey) (owner : String) (duration : ℕ) :
      TaskEffect now v (.claimExecution key owner duration) (.ok none) v
  | claimMissing (key : TaskKey) (owner : String) (duration : ℕ) (h : v.record key = none) :
      TaskEffect now v (.claimExecution key owner duration) (.error .taskMissing) v
  | claimInvalid (key : TaskKey) (owner : String) (duration : ℕ) (message : String) :
      TaskEffect now v (.claimExecution key owner duration) (.error (.taskStoreError message)) v
  | renewed (lease active : TaskExecutionLease) (duration : ℕ) (leaseUntil : Time)
      (h : v.lease lease.key = some active) (hmatch : active.Matches lease)
      (hnow : now < active.leaseUntil) :
      TaskEffect now v (.renewExecution lease duration)
        (.ok (some { active with leaseUntil := leaseUntil }))
        { v with
          lease := Function.update v.lease lease.key (some { active with leaseUntil := leaseUntil }) }
  | notRenewed (lease : TaskExecutionLease) (duration : ℕ) :
      TaskEffect now v (.renewExecution lease duration) (.ok none) v
  | released (lease active : TaskExecutionLease) (h : v.lease lease.key = some active)
      (hmatch : active.Matches lease) :
      TaskEffect now v (.releaseExecution lease) (.ok ())
        { v with lease := Function.update v.lease lease.key none }
  | notReleased (lease : TaskExecutionLease) :
      TaskEffect now v (.releaseExecution lease) (.ok ()) v
  | listed (tenantId runId : String) (records : List TaskRecord)
      (h : ∀ r ∈ records, ∃ key, v.record key = some r) :
      TaskEffect now v (.listForRun tenantId runId) (.ok records) v
  | timeout (key : TaskKey) (afterVersion : ℕ) :
      TaskEffect now v (.waitForChange key afterVersion) (.ok none) v
  | changed (key : TaskKey) (afterVersion : ℕ) (record : TaskRecord) (h : v.record key = some record) :
      TaskEffect now v (.waitForChange key afterVersion) (.ok (some record)) v
  | waitMissing (key : TaskKey) (afterVersion : ℕ) (h : v.record key = none) :
      TaskEffect now v (.waitForChange key afterVersion) (.error .taskMissing) v

/-- A Task store: its operations, and its Tasks and leases. -/
structure TaskBackend (σ : Type) where
  init : σ
  exec : Time → (o : TaskOp) → σ → Except TaskStoreError o.Ans → σ → Prop
  view : σ → TaskView
  init_view : view init = ⟨fun _ => none, fun _ => none, fun _ => 0⟩
  refines : ∀ now o s r s', exec now o s r s' → TaskEffect now (view s) o r (view s')

/-! ## The in-memory store -/

/-- What `wait_for_change` answers in a state: the record once it is newer, an error without one,
    and nothing after the timeout. -/
inductive Waited (record : Option TaskRecord) (afterVersion : ℕ) :
    Except TaskStoreError (Option TaskRecord) → Prop
  | timeout : Waited record afterVersion (.ok none)
  | changed (r : TaskRecord) (h : record = some r) (hnew : afterVersion < r.version) :
      Waited record afterVersion (.ok (some r))
  | missing (h : record = none) : Waited record afterVersion (.error .taskMissing)

def TaskStore.view (st : TaskStore) : TaskView where
  record := st.records.get?
  lease := st.executionLeases.get?
  attempts key := st.executionAttempts.getD key 0

/-- The operations of `InMemoryAgentTaskStore`. -/
def memoryExec (now : Time) : (o : TaskOp) → TaskStore → Except TaskStoreError o.Ans → TaskStore → Prop
  | .createOrGet record, st, r, st' => Ran ((createOrGet record).run st) r st'
  | .get key, st, r, st' => Ran ((getTaskRecord key).run st) r st'
  | .getByDispatch dispatchKey, st, r, st' => Ran ((getByDispatch dispatchKey).run st) r st'
  | .replace record version lease, st, r, st' => Ran ((replaceRecord now record version lease).run st) r st'
  | .claimExecution key owner duration, st, r, st' =>
    Ran ((claimExecution now key owner duration).run st) r st'
  | .renewExecution lease duration, st, r, st' => Ran ((renewExecution now lease duration).run st) r st'
  | .releaseExecution lease, st, r, st' => Ran ((releaseExecution lease).run st) r st'
  | .listForRun tenantId runId, st, r, st' => Ran ((listForRun tenantId runId).run st) r st'
  | .waitForChange key afterVersion, st, r, st' => Waited (st.records.get? key) afterVersion r ∧ st' = st

section
variable {now : Time} {st st' : TaskStore}

theorem loadRecord_ok {key : TaskKey} {record : TaskRecord} (h : loadRecord key st = .ok record) :
    st.records.get? key = some record := by
  unfold loadRecord at h
  split at h
  · next r hr => cases h; exact hr
  · cases h

theorem loadRecord_error {key : TaskKey} {e : TaskStoreError} (h : loadRecord key st = .error e) :
    e = .taskMissing ∧ st.records.get? key = none := by
  unfold loadRecord at h
  split at h
  · cases h
  · next hr => cases h; exact ⟨rfl, hr⟩

theorem checkExecutionLease_ok {key : TaskKey} {lease : Option TaskExecutionLease}
    (h : checkExecutionLease now key lease st = .ok ()) : ∀ l ∈ lease, st.view.Holds now key l := by
  rintro l hl
  cases hl
  unfold checkExecutionLease at h
  simp only at h
  split at h
  · cases h
  · next active hactive =>
    split at h
    · next hc => exact ⟨active, hactive, hc⟩
    · cases h

theorem get?_set_update {V : Type} (d : Dict TaskKey V) (k : TaskKey) (v : V) :
    (d.set k v).get? = Function.update d.get? k (some v) := by
  funext k'
  rw [Dict.get?_set, Function.update_apply]

theorem get?_pop_update {V : Type} (d : Dict TaskKey V) (k : TaskKey) :
    (d.pop k).get? = Function.update d.get? k none := by
  funext k'
  rw [Dict.get?_pop, Function.update_apply]

theorem getD_set_update (d : Dict TaskKey ℕ) (k : TaskKey) (n : ℕ) :
    (fun k' => (d.set k n).getD k' 0) = Function.update (fun k' => d.getD k' 0) k n := by
  funext k'
  rw [Dict.getD_set, Function.update_apply]

/-- Storing a record, in the view. -/
theorem storeRecord_view (record : TaskRecord) (st : TaskStore) :
    (storeRecord record st).view = st.view.store record := by
  unfold TaskStore.view TaskView.store storeRecord
  simp only [get?_set_update]
  split <;> simp only [get?_pop_update]

theorem createOrGet_effect {record : TaskRecord} {r : Except TaskStoreError (TaskRecord × Bool)}
    (h : Ran ((createOrGet record).run st) r st') :
    TaskEffect now st.view (.createOrGet record) r st'.view := by
  cases r with
  | ok x =>
    simp only [Ran, createOrGet, bind_ok, EStateM.run_get, EStateM.Result.ok.injEq, existsAndEq,
      true_and] at h
    split at h
    · simp only [bind_ok, ask_ok, ensure_ok, EStateM.run_pure, EStateM.Result.ok.injEq, existsAndEq,
        true_and, exists_const, and_assoc] at h
      obtain ⟨existing, hload, -, rfl, rfl⟩ := h
      exact .existing record existing _ (loadRecord_ok hload)
    · simp only [bind_ok, ensure_ok, EStateM.run_modify, EStateM.run_pure, EStateM.Result.ok.injEq,
        existsAndEq, true_and, exists_const, and_assoc] at h
      obtain ⟨hfresh, rfl, rfl⟩ := h
      have := @TaskEffect.created now st.view record (Option.isNone_iff_eq_none.1 hfresh)
      unfold TaskStore.view at this ⊢
      simp only [get?_set_update]
      exact this
  | error e =>
    have hst : st' = st := by
      simp only [Ran, createOrGet, bind_error, EStateM.run_get, EStateM.Result.ok.injEq, existsAndEq,
        true_and, reduceCtorEq, false_or] at h
      split at h
      · simp only [bind_error, ask_ok, ask_error, ensure_ok, ensure_error, EStateM.run_pure,
          existsAndEq, true_and, exists_const, and_assoc, reduceCtorEq, and_false, or_false] at h
        rcases h with ⟨-, rfl⟩ | ⟨_, -, -, -, rfl⟩ <;> rfl
      · simp only [bind_error, ensure_ok, ensure_error, EStateM.run_modify, EStateM.run_pure,
          exists_const, reduceCtorEq, and_false, or_false] at h
        obtain ⟨-, -, rfl⟩ := h
        rfl
    rw [hst]
    exact .conflict record e

theorem getTaskRecord_effect {key : TaskKey} {r : Except TaskStoreError TaskRecord}
    (h : Ran ((getTaskRecord key).run st) r st') : TaskEffect now st.view (.get key) r st'.view := by
  cases r with
  | ok record =>
    obtain ⟨hload, rfl⟩ := ask_ok.1 h
    exact .got key record (loadRecord_ok hload)
  | error e =>
    obtain ⟨hload, rfl⟩ := ask_error.1 h
    obtain ⟨rfl, hnone⟩ := loadRecord_error hload
    exact .missing key hnone

theorem getByDispatch_effect {dispatchKey : TaskKey} {r : Except TaskStoreError TaskRecord}
    (h : Ran ((getByDispatch dispatchKey).run st) r st') :
    TaskEffect now st.view (.getByDispatch dispatchKey) r st'.view := by
  cases r with
  | ok record =>
    simp only [Ran, getByDispatch, bind_ok, EStateM.run_get, EStateM.Result.ok.injEq, existsAndEq,
      true_and] at h
    split at h
    · next key _ =>
      obtain ⟨hload, rfl⟩ := ask_ok.1 h
      exact .found dispatchKey key record (loadRecord_ok hload)
    · cases h
  | error e =>
    simp only [Ran, getByDispatch, bind_error, EStateM.run_get, EStateM.Result.ok.injEq, existsAndEq,
      true_and, reduceCtorEq, false_or] at h
    split at h
    · obtain ⟨hload, rfl⟩ := ask_error.1 h
      obtain ⟨rfl, -⟩ := loadRecord_error hload
      exact .notFound dispatchKey
    · cases h
      exact .notFound dispatchKey

theorem replaceRecord_effect {record : TaskRecord} {version : ℕ} {lease : Option TaskExecutionLease}
    {r : Except TaskStoreError TaskRecord}
    (h : Ran ((replaceRecord now record version lease).run st) r st') :
    TaskEffect now st.view (.replace record version lease) r st'.view := by
  cases r with
  | ok x =>
    simp only [Ran, replaceRecord, bind_ok, ask_ok, ensure_ok, EStateM.run_modify, EStateM.run_pure,
      EStateM.Result.ok.injEq, existsAndEq, true_and, exists_const, and_assoc] at h
    obtain ⟨current, hload, u, hlease, rfl, hversion, rfl, rfl⟩ := h
    rw [storeRecord_view]
    exact .replaced record current lease (loadRecord_ok hload) hversion (checkExecutionLease_ok hlease)
  | error e =>
    have hst : st' = st := by
      simp only [Ran, replaceRecord, bind_error, ask_ok, ask_error, ensure_ok, ensure_error,
        EStateM.run_modify, EStateM.run_pure, existsAndEq, true_and, exists_const, and_assoc,
        reduceCtorEq, and_false, or_false] at h
      rcases h with ⟨-, rfl⟩ | ⟨_, -, ⟨-, rfl⟩ | ⟨_, -, -, -, rfl⟩⟩ <;> rfl
    rw [hst]
    exact .notReplaced record version lease e

theorem claimExecution_error {key : TaskKey} {owner : String} {duration : ℕ} {e : TaskStoreError}
    (h : (claimExecution now key owner duration).run st = .error e st') :
    e = .taskMissing ∧ st' = st ∧ st.records.get? key = none := by
  simp only [claimExecution, bind_error, ask_ok, ask_error, EStateM.run_get, EStateM.Result.ok.injEq,
    existsAndEq, true_and, and_assoc, reduceCtorEq, false_or] at h
  obtain ⟨hload, rfl⟩ | ⟨record, -, h⟩ := h
  · obtain ⟨rfl, hnone⟩ := loadRecord_error hload
    exact ⟨rfl, rfl, hnone⟩
  · split at h <;> cases h

theorem claimExecution_effect {key : TaskKey} {owner : String} {duration : ℕ}
    {r : Except TaskStoreError (Option TaskExecutionLease)}
    (h : Ran ((claimExecution now key owner duration).run st) r st') :
    TaskEffect now st.view (.claimExecution key owner duration) r st'.view := by
  cases r with
  | ok x =>
    simp only [Ran, claimExecution, bind_ok, ask_ok, EStateM.run_get, EStateM.Result.ok.injEq,
      existsAndEq, true_and, and_assoc] at h
    obtain ⟨record, hload, h⟩ := h
    split at h
    · cases h
      exact .notClaimed key owner duration
    · simp only [bind_ok, EStateM.run_modify, EStateM.run_pure, EStateM.Result.ok.injEq, existsAndEq,
        true_and, exists_const] at h
      obtain ⟨rfl, rfl⟩ := h
      have := @TaskEffect.claimed now st.view key owner duration record
        ⟨key.1, key.2.1, key.2.2, owner, st.executionAttempts.getD key 0 + 1, leaseEnd now duration⟩
        (loadRecord_ok hload) rfl rfl rfl
      unfold TaskStore.view at this ⊢
      simp only [get?_set_update, getD_set_update]
      exact this
  | error e =>
    obtain ⟨rfl, rfl, hnone⟩ := claimExecution_error h
    exact .claimMissing key owner duration hnone

theorem renewExecution_effect {lease : TaskExecutionLease} {duration : ℕ}
    {r : Except TaskStoreError (Option TaskExecutionLease)}
    (h : Ran ((renewExecution now lease duration).run st) r st') :
    TaskEffect now st.view (.renewExecution lease duration) r st'.view := by
  cases r with
  | ok x =>
    simp only [Ran, renewExecution, bind_ok, EStateM.run_get, EStateM.Result.ok.injEq, existsAndEq,
      true_and] at h
    split at h
    · next record active _ hactive =>
      split at h
      · next hc =>
        cases h
        have := @TaskEffect.renewed now st.view lease active duration
          (leaseEnd now duration) hactive hc.2.1 hc.2.2
        unfold TaskStore.view at this ⊢
        simp only [get?_set_update]
        exact this
      · cases h
        exact .notRenewed lease duration
    · cases h
      exact .notRenewed lease duration
  | error e =>
    simp only [Ran, renewExecution, bind_error, EStateM.run_get, EStateM.Result.ok.injEq, existsAndEq,
      true_and, reduceCtorEq, false_or] at h
    split at h
    · split at h <;> cases h
    · cases h

theorem releaseExecution_effect {lease : TaskExecutionLease} {r : Except TaskStoreError Unit}
    (h : Ran ((releaseExecution lease).run st) r st') :
    TaskEffect now st.view (.releaseExecution lease) r st'.view := by
  cases r with
  | ok x =>
    simp only [Ran, releaseExecution, bind_ok, EStateM.run_get, EStateM.Result.ok.injEq, existsAndEq,
      true_and] at h
    split at h
    · next hany =>
      cases h
      obtain ⟨active, hactive, hm⟩ := (Option.any_eq_true _ _).1 hany
      have := @TaskEffect.released now st.view lease active hactive
        (of_decide_eq_true hm)
      unfold TaskStore.view at this ⊢
      simp only [get?_pop_update]
      exact this
    · cases h
      exact .notReleased lease
  | error e =>
    simp only [Ran, releaseExecution, bind_error, EStateM.run_get, EStateM.Result.ok.injEq, existsAndEq,
      true_and, reduceCtorEq, false_or] at h
    split at h <;> cases h

end

/-- The in-memory store. -/
def memoryTasks : TaskBackend TaskStore where
  init := {}
  exec := memoryExec
  view := TaskStore.view
  init_view := rfl
  refines now o st r st' h := by
    cases o with
    | createOrGet => exact createOrGet_effect h
    | get => exact getTaskRecord_effect h
    | getByDispatch => exact getByDispatch_effect h
    | replace => exact replaceRecord_effect h
    | claimExecution => exact claimExecution_effect h
    | renewExecution => exact renewExecution_effect h
    | releaseExecution => exact releaseExecution_effect h
    | listForRun tenantId runId =>
      cases r with
      | ok records =>
        cases h
        refine .listed tenantId runId _ fun r hr => ?_
        exact Dict.exists_get?_of_mem_values (List.mem_filter.1 hr).1
      | error e => cases h
    | waitForChange key afterVersion =>
      obtain ⟨hw, rfl⟩ := h
      cases hw with
      | timeout => exact .timeout key afterVersion
      | changed r hr _ => exact .changed key afterVersion r hr
      | missing hnone => exact .waitMissing key afterVersion hnone

end RoutePilot.A2A
