/-
  Any number of Task services over one store: the calls they serve and the jobs
  they run, interleaved at every await, with store calls that may fail.

  `Guar` says what a step may do to the Tasks, and `taskContract` is the
  contract every coroutine of the service meets.
-/
import RoutePilot.A2A.Postgres
import RoutePilot.A2A.Service

namespace RoutePilot.A2A

open Lib

/-! ## The machine -/

/-- The coroutines that run next to each other. -/
inductive Call where
  | sendMessage (actor : Actor) (interfaceId : String) (params : SendMessageRequest)
  | recoverDispatch (actor : Actor) (interfaceId runId dispatchId : String) (wait : Bool)
  | cancelTask (actor : Actor) (interfaceId tenant taskId : String)
  | cancelRunTasks (actor : Actor) (runId : String)
  | executeJob (record : TaskRecord) (input : Option InputResponse) (alreadyWorking : Bool)
      (owner : String)
  | heartbeatExecution (lease : TaskExecutionLease)

/-- The code of a call, whose loops go round at most `n` times. -/
def Call.body (cfg : ServiceConfig) (n : ℕ) : Call → Svc Unit
  | sendMessage actor interfaceId params => do let _ ← A2A.sendMessage n actor interfaceId params
  | recoverDispatch actor interfaceId runId dispatchId wait => do
    let _ ← A2A.recoverDispatch n actor interfaceId runId dispatchId wait
  | cancelTask actor interfaceId tenant taskId => do
    let _ ← A2A.cancelTask n actor interfaceId tenant taskId
  | cancelRunTasks actor runId => do let _ ← A2A.cancelRunTasks n actor runId
  | executeJob record input alreadyWorking owner =>
    A2A.executeJob cfg n record input alreadyWorking owner
  | heartbeatExecution lease => A2A.heartbeatExecution cfg n lease

/-- What may be raised at an await instead of its operation: the await is cancelled, or the store
    fails unexpectedly. -/
def ServiceError.IsFault : ServiceError → Prop
  | .cancelled | .timeoutError | .exception _ | .store (.taskStoreError _) => True
  | _ => False

/-- The answer of the store, as the service sees it. -/
def fromStore {α : Type} : Except TaskStoreError α → Except ServiceError α
  | .ok a => .ok a
  | .error e => .error (.store e)

/-- Services over a store.  A job is launched for a record of the store only. -/
def services {σ : Type} (B : TaskBackend σ) (cfg : ServiceConfig) (n : ℕ) : Machine svc Call σ where
  init := B.init
  body := Call.body cfg n
  ready
    | .executeJob record .., s => ((B.view s).record record.key).isSome
    | _, _ => True
  exec
    | .store o, s, r, s' => (∃ now r₀, B.exec now o s r₀ s' ∧ r = fromStore r₀) ∨
        s' = s ∧ ∃ e, r = .error e ∧ e.IsFault
    | .execute .., s, _, s' => s' = s
    | .forever, s, r, s' => s' = s ∧ r = .error .cancelled
  acts _ _ := True

/-- A step of the services, on the Tasks and leases. -/
def ServiceStep : (o : ServiceOp) → TaskView → Except ServiceError o.Ans → TaskView → Prop
  | .store o, v, r, v' => (∃ now r₀, TaskEffect now v o r₀ v' ∧ r = fromStore r₀) ∨
      v' = v ∧ ∃ e, r = .error e ∧ e.IsFault
  | _, v, _, v' => v' = v

/-! ## What a step does to a Task -/

/-- The transitions of `_transition`: the states, the new Artifacts and the pending request. -/
inductive Allowed : TaskState → TaskState → List TaskArtifact → Option String → Prop
  | start : Allowed .submitted .working [] none
  | complete (artifacts : List TaskArtifact) : Allowed .working .completed artifacts none
  | ask (requestId : String) : Allowed .working .inputRequired [] (some requestId)
  | auth : Allowed .working .authRequired [] none
  | fail {s : TaskState} (h : s ∈ [TaskState.working, .submitted]) : Allowed s .failed [] none
  | cancel {s : TaskState} (h : s ∈ cancelableStates) : Allowed s .canceled [] none

/-- What a step of a call does to one Task.  Under `strict`, an input response answers the pending
    request of the record it replaces, and its message is new to it. -/
inductive RecordStep (strict : Prop) (c : Call) : Option TaskRecord → Option TaskRecord → Prop
  | same (x : Option TaskRecord) : RecordStep strict c x x
  | created (actor : Actor) (interfaceId taskId contextId : String) (message : Message)
      (invocation : AgentInvocation) (deadline createdAt : Time) :
      RecordStep strict c none
        (some (draftRecord actor interfaceId taskId contextId message invocation deadline createdAt))
  | moved (r : TaskRecord) {newState : TaskState} {artifacts : List TaskArtifact}
      {pending : Option String} (message : Option StatusMessage) (timestamp updatedAt : Time)
      (h : Allowed r.state newState artifacts pending) :
      RecordStep strict c (some r)
        (some (r.transitioned newState message artifacts pending timestamp updatedAt))
  | answered (r : TaskRecord) (actor : Actor) (interfaceId : String) (params : SendMessageRequest)
      (response : InputResponse) (timestamp updatedAt : Time)
      (hc : c = .sendMessage actor interfaceId params) (hstate : r.state = .inputRequired)
      (hstrict : strict → r.pendingInputRequestId = some response.requestId ∧
        r.messageFingerprints.get? params.message.messageId = none) :
      RecordStep strict c (some r) (some (r.answered params.message response timestamp updatedAt))

/-- What a step may do: every Task moves by a `RecordStep`; under `fenced`, a job changes a Task
    only by a replacement under a lease of its own. -/
structure Guar (strict fenced : Prop) (c : Call) (v : TaskView) (o : ServiceOp) (v' : TaskView) :
    Prop where
  record : ∀ key, RecordStep strict c (v.record key) (v'.record key)
  fence : fenced → ∀ record input alreadyWorking owner,
    c = .executeJob record input alreadyWorking owner → v'.record ≠ v.record →
      ∃ proposed version lease, o = .store (.replace proposed version (some lease)) ∧
        lease.owner = owner

/-! ## Invariant and rely -/

/-- The state of each version, as the status events tell it. -/
def TaskRecord.statuses (r : TaskRecord) : List (ℕ × TaskState) :=
  r.events.filterMap fun e => match e.event with
    | .status s => some (e.version, s.state)
    | .artifact _ => none

/-- The invariant of one record. -/
structure RecordOk (r : TaskRecord) : Prop where
  positive : 1 ≤ r.version
  pending : r.pendingInputRequestId.isSome ↔ r.state = .inputRequired
  artifacts : r.task.artifacts ≠ [] → r.state = .completed
  versions : r.statuses.map Prod.fst = List.range' 2 (r.version - 1)
  current : 2 ≤ r.version → (r.version, r.state) ∈ r.statuses

structure TaskView.Ok (v : TaskView) : Prop where
  key : ∀ key r, v.record key = some r → r.key = key
  record : ∀ key r, v.record key = some r → RecordOk r
  lease : ∀ key l, v.lease key = some l → l.attempt = v.attempts key

/-- A later record of the Task: of a greater version, or the same. -/
def TaskRecord.Le (r r' : TaskRecord) : Prop := r.version ≤ r'.version ∧ (r'.version = r.version → r' = r)

theorem TaskRecord.Le.refl (r : TaskRecord) : r.Le r := ⟨le_rfl, fun _ => rfl⟩

theorem TaskRecord.Le.trans {r₁ r₂ r₃ : TaskRecord} (h : r₁.Le r₂) (h' : r₂.Le r₃) : r₁.Le r₃ := by
  refine ⟨h.1.trans h'.1, fun he => ?_⟩
  have h₂ : r₂.version = r₁.version := le_antisymm (he ▸ h'.1) h.1
  rw [h'.2 (he.trans h₂.symm), h.2 h₂]

/-- Tasks only move on. -/
def TaskView.Le (v v' : TaskView) : Prop :=
  (∀ key r, v.record key = some r → ∃ r', v'.record key = some r' ∧ r.Le r') ∧
    ∀ key, v.attempts key ≤ v'.attempts key

theorem TaskView.Le.refl (v : TaskView) : v.Le v :=
  ⟨fun _ r h => ⟨r, h, .refl r⟩, fun _ => le_rfl⟩

theorem TaskView.Le.trans {v₁ v₂ v₃ : TaskView} (h : v₁.Le v₂) (h' : v₂.Le v₃) : v₁.Le v₃ := by
  refine ⟨fun key r hr => ?_, fun key => (h.2 key).trans (h'.2 key)⟩
  obtain ⟨r₂, hr₂, hle₂⟩ := h.1 key r hr
  obtain ⟨r₃, hr₃, hle₃⟩ := h'.1 key r₂ hr₂
  exact ⟨r₃, hr₃, hle₂.trans hle₃⟩

/-! ### Steps keep the invariant -/

theorem Allowed.pending_iff {s s' : TaskState} {artifacts : List TaskArtifact} {pending : Option String}
    (h : Allowed s s' artifacts pending) : pending.isSome ↔ s' = .inputRequired := by
  cases h <;> simp

theorem Allowed.artifacts {s s' : TaskState} {artifacts : List TaskArtifact} {pending : Option String}
    (h : Allowed s s' artifacts pending) (hne : artifacts ≠ []) : s' = .completed := by
  cases h with
  | complete => rfl
  | _ => exact absurd rfl hne

theorem Allowed.not_completed {s s' : TaskState} {artifacts : List TaskArtifact} {pending : Option String}
    (h : Allowed s s' artifacts pending) : s ≠ .completed := by
  cases h with
  | fail h | cancel h => rintro rfl; simp [cancelableStates] at h
  | _ => nofun

theorem transitioned_statuses (r : TaskRecord) (newState : TaskState) (message : Option StatusMessage)
    (artifacts : List TaskArtifact) (pending : Option String) (timestamp updatedAt : Time) :
    (r.transitioned newState message artifacts pending timestamp updatedAt).statuses =
      r.statuses ++ [(r.version + 1, newState)] := by
  have hnone : (artifacts.map fun a => (⟨r.version + 1, .artifact a⟩ : VersionedEvent)).filterMap
      (fun e => match e.event with
        | .status s => some (e.version, s.state)
        | .artifact _ => none) = [] := by
    rw [List.filterMap_map, List.filterMap_eq_nil_iff]
    exact fun _ _ => rfl
  simp only [TaskRecord.statuses, TaskRecord.transitioned, List.filterMap_append, hnone,
    List.append_nil]
  rfl

theorem answered_statuses (r : TaskRecord) (message : Message) (response : InputResponse)
    (timestamp updatedAt : Time) :
    (r.answered message response timestamp updatedAt).statuses =
      r.statuses ++ [(r.version + 1, .working)] := by
  simp only [TaskRecord.statuses, TaskRecord.answered, List.filterMap_append]
  rfl

/-- One more status event, for the next version. -/
theorem RecordOk.versions_next {r : TaskRecord} (h : RecordOk r) (s : TaskState) :
    (r.statuses ++ [(r.version + 1, s)]).map Prod.fst = List.range' 2 (r.version + 1 - 1) := by
  have hpos := h.positive
  rw [List.map_append, h.versions, List.map_singleton]
  obtain ⟨k, hk⟩ : ∃ k, r.version = k + 1 := ⟨r.version - 1, by omega⟩
  rw [hk]
  simp only [Nat.add_sub_cancel]
  rw [List.range'_1_concat]
  congr 2
  omega

theorem RecordStep.recordOk {strict : Prop} {c : Call} {x y : Option TaskRecord}
    (h : RecordStep strict c x y) (hx : ∀ r, x = some r → RecordOk r) {r' : TaskRecord}
    (hy : y = some r') : RecordOk r' := by
  cases h with
  | same => exact hx r' hy
  | created =>
    cases hy
    refine ⟨le_rfl, ?_, ?_, rfl, ?_⟩
    · simp [draftRecord, TaskRecord.state]
    · intro h; exact absurd rfl h
    · intro h; simp [draftRecord] at h
  | moved r message timestamp updatedAt hallowed =>
    cases hy
    have hr := hx r rfl
    refine ⟨?_, hallowed.pending_iff, fun hne => ?_, ?_, fun _ => ?_⟩
    · simp [TaskRecord.transitioned]
    · -- the record had no Artifacts before, or it would have been completed
      have hnil : r.task.artifacts = [] := by
        by_contra hne'
        exact hallowed.not_completed (hr.artifacts hne')
      refine hallowed.artifacts fun hnil' => hne ?_
      simp [TaskRecord.transitioned, hnil, hnil']
    · rw [transitioned_statuses]
      exact hr.versions_next _
    · rw [transitioned_statuses]
      exact List.mem_append_right _ (List.mem_singleton.2 rfl)
  | answered r actor interfaceId params response timestamp updatedAt hc hstate hstrict =>
    cases hy
    have hr := hx r rfl
    refine ⟨?_, ?_, fun hne => ?_, ?_, fun _ => ?_⟩
    · simp [TaskRecord.answered]
    · simp [TaskRecord.answered, TaskRecord.state]
    · have := hr.artifacts hne
      rw [hstate] at this; cases this
    · rw [answered_statuses]
      exact hr.versions_next _
    · rw [answered_statuses]
      exact List.mem_append_right _ (List.mem_singleton.2 rfl)

theorem RecordStep.le {strict : Prop} {c : Call} {r : TaskRecord} {y : Option TaskRecord}
    (h : RecordStep strict c (some r) y) : ∃ r', y = some r' ∧ r.Le r' ∧ r'.key = r.key := by
  have hlt : ∀ r' : TaskRecord, r'.version = r.version + 1 → r.Le r' := fun r' hv =>
    ⟨by omega, fun he => absurd (hv.symm.trans he) (by omega)⟩
  cases h with
  | same => exact ⟨r, rfl, .refl r, rfl⟩
  | moved => exact ⟨_, rfl, hlt _ rfl, rfl⟩
  | answered => exact ⟨_, rfl, hlt _ rfl, rfl⟩

end RoutePilot.A2A
