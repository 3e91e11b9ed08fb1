/-
  What coordinators and workers write: the events of their transitions, with
  their data as it is projected and the state they move the Run to.

  What they write depends on the executors only by the labels of their progress
  reports and by the Artifacts that are created from their results, so a
  property of these is a parameter (`Script.Reports`, `Answered`).
-/
import RoutePilot.Runtime.Pool

namespace RoutePilot

open Lib

/-! ## The events -/

/-- The label of a progress report, as it is shown. -/
def progressText (label : String) : String :=
  pyTake 256 (((some (pyTake 160 label)).filter (· ≠ "")).getD "进度已更新")

/-- Nothing of the reference of an Artifact is empty. -/
structure ArtifactView.Referable (a : ArtifactView) : Prop where
  artifactType : a.artifactType ≠ ""
  artifactId : a.artifactId ≠ ""
  schemaVersion : a.schemaVersion ≠ 0
  version : a.version ≠ 0

def ArtifactView.ref (a : ArtifactView) : Json := artifactRef a.artifactType a.artifactId a.schemaVersion a.version

/-- The events of transitions: their types, the states they move a Run to, and their data.  `Label` holds of the labels
    that are reported, and `Made` of the Artifacts that are created. -/
inductive Announcement (Label : String → Prop) (Made : ArtifactView → Prop) :
    EventType → Option RunLifecycle → Obj → Prop
  | changed (previous : RunLifecycle) {next : RunLifecycle} {reason : String}
      (hnext : next = .running ∨ next = .cancelRequested)
        (h : reason = "state_transition" ∨ reason = "user_requested") :
    Announcement Label Made .runLifecycleChanged (some next)
      [("previous_state", .str previous.value), ("lifecycle_state", .str next.value), ("reason_code", .str reason)]
  | progressed (previous phase : String) {percent : ℤ} {label : String} (hpercent : 0 ≤ percent ∧ percent ≤ 100)
      (hlabel : Label label) :
    Announcement Label Made .runPhaseChanged none
      [("previous_phase", .str (contractPhase previous)), ("phase", .str (contractPhase phase)),
        ("progress_percent", .int percent), ("label", .str (progressText label))]
  | asked (requestId : String) (now : Time) :
    Announcement Label Made .inputRequired (some .waitingInput) (clarification requestId now).dump
  | candidate {a : ArtifactView} {ref : Json} (ha : Made a) (href : a.Referable → ref = a.ref) :
    Announcement Label Made .artifactCandidateUpdated none [("artifact_ref", ref), ("status", .str "candidate")]
  | published {a : ArtifactView} {ref : Json} (ha : Made a) (href : a.Referable → ref = a.ref) :
    Announcement Label Made .artifactPublished none [("artifact_ref", ref), ("status", .str "published")]
  | completed {a : ArtifactView} {ref : Json} (duration : ℕ) (ha : Made a) (href : a.Referable → ref = a.ref) :
    Announcement Label Made .runCompleted (some .completed)
      [("lifecycle_state", .str "completed"), ("snapshot_ref", ref), ("duration_ms", .int duration)]
  | failed (phase : String) {code : String} (h : code = "VALIDATION_BLOCKED" ∨ code = "RUN_EXECUTION_FAILED") :
    Announcement Label Made .runFailed (some .failed)
      [("lifecycle_state", .str "failed"), ("failed_phase", .str (contractPhase phase)),
        ("error", .obj [("code", .str code), ("message", .str "本次处理未能完成，请稍后重试。"),
          ("retryable", .bool (code ≠ "VALIDATION_BLOCKED"))])]
  | canceled :
    Announcement Label Made .runCanceled (some .canceled)
      [("lifecycle_state", .str "canceled"), ("canceled_by", .str "user"), ("reason", .str "用户已取消本次任务。")]

/-! ## The data of transitions -/

theorem Obj.str?_of {d : Obj} {k s : String} (h : d.get? k = some (.str s)) (hs : s ≠ "") : d.str? k = some s := by
  rw [str?, h, Option.bind_some]
  show (some s).filter _ = some s
  simp [hs]

theorem Obj.int?_of {d : Obj} {k : String} {n : ℕ} (h : d.get? k = some (.int n)) (hn : n ≠ 0) :
    d.int? k = some (n : ℤ) := by
  unfold int?
  rw [h]
  simp [hn]

/-- Data names an Artifact. -/
structure Names (data : Obj) (a : ArtifactView) : Prop where
  artifactType : data.get? "artifact_type" = some (.str a.artifactType)
  artifactId : data.get? "artifact_id" = some (.str a.artifactId)
  schemaVersion : data.get? "schema_version" = some (.int a.schemaVersion)
  version : data.get? "artifact_version" = some (.int a.version)

theorem Names.ref_eq {data : Obj} {a : ArtifactView} (h : Names data a) (ha : a.Referable) :
    eventArtifactRef data none = a.ref := by
  unfold eventArtifactRef
  rw [Obj.str?_of h.artifactType ha.artifactType, Obj.str?_of h.artifactId ha.artifactId,
    Obj.int?_of h.schemaVersion ha.schemaVersion, Obj.int?_of h.version ha.version]
  rfl

/-! ## The transitions -/

/-- Every label an executor reports satisfies `P`. -/
def Script.Reports (P : String → Prop) : Script → Prop
  | .done _ => True
  | .raise _ => True
  | .progress _ label _ k => P label ∧ ∀ r, (k r).Reports P
  | .external k => ∀ r, (k r).Reports P

/-- A transition writes one of the events, whatever the time is. -/
def Transition.Announces (Label : String → Prop) (Made : ArtifactView → Prop) (t : Transition) (run : RunView) : Prop :=
  ∀ now data, projectPublicEventData now t.eventType t.data ⟨run, t.lifecycleState, t.phase, t.artifact, t.errorCode⟩ =
    some data → Announcement Label Made t.eventType t.lifecycleState data

section
variable (Label : String → Prop) (Made : ArtifactView → Prop) (Answered : ArtifactCreation → ArtifactView → Prop)

/-- An operation writes one of the events, if it writes any by a transition. -/
def Writes : Op → Prop
  | .store (.mutateRun _ _ m) => Announcement Label Made m.eventType m.lifecycleState m.eventData
  | _ => True

/-- What is known of the answers. -/
def Answers : (o : Op) → Except Exc o.Ans → Prop
  | .store (.createArtifact _ c), .ok a => Answered c a
  | _, _ => True

/-- Every transition of a coroutine writes one of the events. -/
def Announcing {α : Type} (x : Async α) (Q : α → Prop := fun _ => True) : Prop :=
  x.Within (Writes Label Made) (Answers Answered) Q

/-- Results of which the Artifacts are made. -/
def ExecutionResult.Makes (result : ExecutionResult) : Prop :=
  ∀ tripId lease a, Answered (result.creation tripId lease) a → Made a

end

section
variable {Label : String → Prop} {Made : ArtifactView → Prop} {Answered : ArtifactCreation → ArtifactView → Prop}

theorem announcing_callStore {o : StoreOp} {Q : o.Ans → Prop} (h : Writes Label Made (.store o))
    (hQ : ∀ a, Answers Answered (.store o) (.ok a) → Q a) : Announcing Label Made Answered (callStore o) Q :=
  Co.Within.call (E := rt) h hQ

/-- Another operation. -/
theorem announcing_call {o : Op} (h : Writes Label Made o) : Announcing Label Made Answered (Co.call (E := rt) o) :=
  Co.Within.call (E := rt) h fun _ _ => trivial

theorem announcing_act {n : Act} : Announcing Label Made Answered (Co.act (E := rt) n) := Co.Within.act

theorem announcing_transition {p : Principal} {run : RunView} {t : Transition} (h : t.Announces Label Made run) :
    Announcing Label Made Answered (transition p run t) := by
  refine Co.Within.bind (Q := fun _ => True) (fun _ => trivial) fun now _ => ?_
  split
  · trivial
  · next data hdata =>
    exact Co.Within.bind (announcing_callStore (Q := fun _ => True) (h now data hdata) fun _ _ => trivial) fun _ _ =>
      trivial

/-- A read. -/
theorem announcing_getRun {p : Principal} {runId : String} : Announcing Label Made Answered (getRunC p runId) :=
  announcing_callStore trivial fun _ _ => trivial

theorem announces_canceled {run : RunView} : Transition.Announces Label Made {
    lifecycleState := some .canceled, phase := some "canceled", eventType := .runCanceled
    data := [("lifecycle_state", .str RunLifecycle.canceled.value)] } run := by
  rintro now data h
  cases h
  exact .canceled

theorem announces_failed {run : RunView} {lease : Option RunExecutionLease} {phase code : String}
    (hcode : code = "VALIDATION_BLOCKED" ∨ code = "RUN_EXECUTION_FAILED") : Transition.Announces Label Made {
      lifecycleState := some .failed, phase := some phase, errorCode := some code, executionLease := lease
      eventType := .runFailed
      data := [("lifecycle_state", .str RunLifecycle.failed.value), ("error_code", .str code)] } run := by
  rintro now data h
  have htaken : ∀ rest : Option String,
      pyTake 64 (((some code).filter (· ≠ "") <|> rest).getD "RUN_EXECUTION_FAILED") = code := by
    intro rest
    have hsome : (some code).filter (· ≠ "") = some code := by rcases hcode with rfl | rfl <;> decide
    have hshort : pyTake 64 code = code := by rcases hcode with rfl | rfl <;> decide
    rw [hsome]
    exact hshort
  simp only [projectPublicEventData, publicEventDataFields, Option.map_some, Option.some.injEq, htaken] at h
  rw [← h]
  exact .failed _ hcode

theorem announces_lifecycle {run : RunView} {t : Transition} {next : RunLifecycle}
    (htype : t.eventType = .runLifecycleChanged) (hnext : t.lifecycleState = some next)
    (hstate : next = .running ∨ next = .cancelRequested)
    (hreason : (t.data.str? "reason_code" <|> t.data.str? "reason") = none ∨
      (t.data.str? "reason_code" <|> t.data.str? "reason") = some "user_requested") : t.Announces Label Made run := by
  rintro now data h
  rw [htype, hnext] at h ⊢
  simp only [projectPublicEventData, publicEventDataFields, Option.map_some, Option.some.injEq, Option.getD_some] at h
  rw [← h]
  refine .changed _ hstate ?_
  rcases hreason with h | h
  · rw [h]
    exact .inl (by decide)
  · rw [h]
    exact .inr (by decide)

theorem announces_progress {run : RunView} {lease : Option RunExecutionLease} {phase label : String} {percent : ℤ}
    (hlabel : Label label) : Transition.Announces Label Made {
      phase := some phase, executionLease := lease, eventType := .runPhaseChanged
      data := [("phase", .str phase), ("label", .str (pyTake 160 label)),
        ("progress", .int (max 0 (min 100 percent)))] }
      run := by
  rintro now data h
  simp only [projectPublicEventData, publicEventDataFields, Option.map_some, Option.some.injEq] at h
  rw [← h]
  exact .progressed _ _ ⟨by omega, by omega⟩ hlabel

theorem announces_asked {run : RunView} {lease : Option RunExecutionLease} {requestId : String} {time : Time} :
    Transition.Announces Label Made {
      lifecycleState := some .waitingInput, phase := some "clarification"
      pendingInput := some (clarification requestId time), executionLease := lease, eventType := .inputRequired
      data := (clarification requestId time).dump } run := by
  rintro now data h
  simp only [projectPublicEventData, publicEventDataFields, Option.map_some, Option.some.injEq] at h
  rw [← h]
  exact .asked requestId time

/-- A transition that names an Artifact. -/
theorem announces_candidate {run : RunView} {t : Transition} {a : ArtifactView} (ha : Made a) (hn : Names t.data a)
    (htype : t.eventType = .artifactCandidateUpdated) (hnone : t.lifecycleState = none) (hart : t.artifact = none)
    (hstatus : t.data.str? "status" = some "candidate") : t.Announces Label Made run := by
  rintro now data h
  rw [htype, hart, hnone] at h
  rw [htype, hnone]
  simp only [projectPublicEventData, publicEventDataFields, Option.map_some, Option.some.injEq, hstatus,
    Option.getD_some] at h
  rw [← h]
  exact .candidate ha hn.ref_eq

theorem announces_published {run : RunView} {t : Transition} {a : ArtifactView} (ha : Made a)
    (htype : t.eventType = .artifactPublished) (hnone : t.lifecycleState = none) (hart : t.artifact = some a)
    (hstatus : t.data.str? "status" = some "published") : t.Announces Label Made run := by
  rintro now data h
  rw [htype, hart, hnone] at h
  rw [htype, hnone]
  simp only [projectPublicEventData, publicEventDataFields, Option.map_some, Option.some.injEq, hstatus,
    Option.getD_some] at h
  rw [← h]
  exact .published ha fun _ => rfl

theorem announces_completed {run : RunView} {t : Transition} {a : ArtifactView} (ha : Made a) (hn : Names t.data a)
    (htype : t.eventType = .runCompleted) (hnext : t.lifecycleState = some .completed) :
    t.Announces Label Made run := by
  rintro now data h
  rw [htype] at h
  rw [htype, hnext]
  simp only [projectPublicEventData, publicEventDataFields, Option.map_some, Option.some.injEq] at h
  rw [← h]
  refine .completed _ ha fun hr => ?_
  rw [Obj.str?_of hn.artifactType hr.artifactType, Obj.str?_of hn.artifactId hr.artifactId,
    Obj.int?_of hn.schemaVersion hr.schemaVersion, Obj.int?_of hn.version hr.version]
  rfl

/-! ## The coordinators -/

theorem announcing_reportProgress {p : Principal} {runId phase label : String} {percent : ℤ}
    {lease : Option RunExecutionLease} (hlabel : Label label) :
    Announcing Label Made Answered (reportProgress p runId phase label percent lease) := by
  refine Co.Within.bind announcing_getRun fun current _ => ?_
  split
  · trivial
  · exact Co.Within.bind (announcing_transition (announces_progress hlabel)) fun _ _ => trivial

theorem announcing_finishCanceled {p : Principal} {runId : String} :
    Announcing Label Made Answered (finishCanceled p runId) := by
  refine Co.Within.bind announcing_getRun fun current _ => ?_
  split
  · trivial
  · refine Co.Within.tryCatch (Co.Within.bind (announcing_transition announces_canceled) fun _ _ => trivial) fun e => ?_
    split <;> trivial

theorem announcing_finishFailed {p : Principal} {runId : String} {lease : Option RunExecutionLease} :
    Announcing Label Made Answered (finishFailed p runId "RUN_EXECUTION_FAILED" lease) := by
  refine Co.Within.bind announcing_getRun fun current _ => ?_
  split
  · exact announcing_finishCanceled
  · split
    · trivial
    · refine Co.Within.tryCatch
        (Co.Within.bind (announcing_transition (announces_failed (.inr rfl))) fun _ _ => trivial) fun e => ?_
      split <;> trivial

theorem announcing_run {report : String → String → ℤ → Async Unit} {Result : ExecutionResult → Prop}
    (hreport : ∀ phase label percent, Label label → Announcing Label Made Answered (report phase label percent)) :
    ∀ {x : Script}, x.Reports Label → x.Yields Result → Announcing Label Made Answered (x.run report) Result
  | .done _, _, hresult => hresult
  | .raise _, _, _ => trivial
  | .progress phase label percent k, hx, hresult => by
    refine Co.Within.handle (fun a _ => ?_) (fun e => ?_) (hreport phase label percent hx.1)
    · exact announcing_run hreport (hx.2 (.ok a)) (hresult (.ok a))
    · exact announcing_run hreport (hx.2 (.error e)) (hresult (.error e))
  | .external k, hx, hresult => ⟨trivial, fun r _ => announcing_run hreport (hx r) (hresult r)⟩

theorem announcing_getRunning {p : Principal} {runId : String} :
    Announcing Label Made Answered (getRunning p runId) := by
  refine Co.Within.bind announcing_getRun fun current _ => ?_
  split <;> trivial

theorem announcing_createSupporting {p : Principal} {tripId : String} {lease : Option RunExecutionLease} :
    ∀ artifacts, Announcing Label Made Answered (createSupporting p tripId lease artifacts)
  | [] => trivial
  | _ :: artifacts =>
    Co.Within.bind (announcing_callStore (Q := fun _ => True) trivial fun _ _ => trivial)
      fun _ _ => announcing_createSupporting artifacts

theorem announcing_failValidation {p : Principal} {run : RunView} {a : ArtifactView} {lease : Option RunExecutionLease}
    (ha : Made a) : Announcing Label Made Answered (failValidation p run a lease) := by
  refine Co.Within.bind (announcing_transition (announces_candidate ha ⟨rfl, rfl, rfl, rfl⟩ rfl rfl rfl ?_))
    fun current _ => ?_
  · exact Obj.str?_of rfl (by decide)
  · exact Co.Within.bind (announcing_transition (announces_failed (.inl rfl))) fun _ _ => trivial

theorem announcing_publishAndComplete {p : Principal} {run : RunView} {a : ArtifactView}
    {lease : Option RunExecutionLease} (ha : Made a) :
    Announcing Label Made Answered (publishAndComplete p run a lease) := by
  refine Co.Within.bind (announcing_transition (announces_published ha rfl rfl rfl ?_)) fun current _ => ?_
  · exact Obj.str?_of rfl (by decide)
  · exact Co.Within.bind (announcing_transition (announces_completed ha ⟨rfl, rfl, rfl, rfl⟩ rfl rfl)) fun _ _ =>
      trivial

theorem announcing_finishExecution {p : Principal} {runId : String} {lease : Option RunExecutionLease}
    {result : ExecutionResult} (hresult : result.Makes Made Answered) :
    Announcing Label Made Answered (finishExecution p runId lease result) := by
  refine Co.Within.bind announcing_getRunning fun current _ => ?_
  refine Co.Within.bind (announcing_createSupporting _) fun _ _ => ?_
  refine Co.Within.bind announcing_getRunning fun current _ => ?_
  refine Co.Within.bind (announcing_callStore (o := .createArtifact p (result.creation current.tripId lease))
    (Q := Made)
    trivial fun a ha => hresult _ _ a ha) fun a ha => ?_
  refine Co.Within.bind announcing_getRunning fun current _ => ?_
  split
  · exact announcing_publishAndComplete ha
  · exact announcing_failValidation ha

theorem announcing_executeRunning {X : Coordinator} {p : Principal} {runId : String} {lease : Option RunExecutionLease}
    {current : RunView} (hreports : (X.executor current p).Reports Label)
    (hyields : (X.executor current p).Yields fun result => result.Makes Made Answered) :
    Announcing Label Made Answered (executeRunning X p runId lease current) := by
  unfold executeRunning requiredInput
  split
  · intro requestId now
    exact Co.Within.bind (announcing_transition announces_asked) fun _ _ => trivial
  · have hrun : Announcing Label Made Answered
        ((X.executor current p).run fun phase label percent => reportProgress p runId phase label percent lease)
        fun result => result.Makes Made Answered :=
      announcing_run (fun _ _ _ h => announcing_reportProgress h) hreports hyields
    have hfinish : Announcing Label Made Answered
        (((X.executor current p).run fun phase label percent => reportProgress p runId phase label percent lease) >>=
          finishExecution p runId lease) :=
      Co.Within.bind hrun fun result hresult => announcing_finishExecution hresult
    exact hfinish

/-- What the executor of a coordinator supplies. -/
structure Coordinator.Supplies (X : Coordinator) (Label : String → Prop) (Made : ArtifactView → Prop)
    (Answered : ArtifactCreation → ArtifactView → Prop) : Prop where
  reports : ∀ run p, (X.executor run p).Reports Label
  yields : ∀ run p, (X.executor run p).Yields fun result => result.Makes Made Answered

theorem announcing_execute {X : Coordinator} {runId : String} {p : Principal} {lease : Option RunExecutionLease}
    (hX : X.Supplies Label Made Answered) : Announcing Label Made Answered (execute X runId p lease) := by
  have hbody : Announcing Label Made Answered (executeBody X p runId lease) := by
    refine Co.Within.bind announcing_getRun fun current _ => ?_
    split
    · exact Co.Within.bind (announcing_transition (announces_lifecycle rfl rfl (.inl rfl) (.inl rfl)))
        fun current _ => announcing_executeRunning (hX.reports _ _) (hX.yields _ _)
    · exact announcing_executeRunning (hX.reports _ _) (hX.yields _ _)
    · trivial
  have hhandler : ∀ e, Announcing Label Made Answered (executeHandler p runId lease e) := by
    intro e
    unfold executeHandler
    split
    · split
      · exact announcing_finishCanceled
      · refine Co.Within.bind announcing_getRun fun current _ => ?_
        split
        · exact announcing_finishCanceled
        · split <;> trivial
    · trivial
    · refine Co.Within.bind announcing_getRun fun current _ => ?_
      split
      · exact announcing_finishCanceled
      · trivial
    · trivial
    · exact announcing_finishFailed
  refine Co.Within.bind announcing_act fun _ _ => ?_
  refine Co.Within.handle (fun _ _ => ?_) (fun e => ?_) hbody
  · exact Co.Within.bind announcing_act fun _ _ => trivial
  · exact Co.Within.bind announcing_act fun _ _ => hhandler e

theorem announcing_startUnlessReplayed {X : Coordinator} {c : ℕ} {p : Principal} {result : IdempotentRunResult} :
    Announcing Label Made Answered (startUnlessReplayed X c p result) := by
  unfold startUnlessReplayed
  split
  · refine Co.Within.bind (Q := fun _ => True) (fun task => ⟨trivial, fun r _ => ?_⟩) fun _ _ => trivial
    cases r with
    | ok _ => exact fun _ => trivial
    | error _ => trivial
  · trivial

theorem announcing_submit {X : Coordinator} {c : ℕ} {p : Principal} {tripId key traceId : String}
    {request : RunCreateRequest} : Announcing Label Made Answered (submit X c p tripId request key traceId) := by
  refine Co.Within.bind (Q := fun _ => True) ?_ fun command _ => ?_
  · unfold submittedCommand
    split
    · unfold replanCommand
      split
      · refine Co.Within.bind (announcing_callStore (Q := fun _ => True) trivial fun _ _ => trivial) fun base _ => ?_
        split
        · trivial
        · refine Co.Within.bind (Q := fun _ => True) ?_ fun _ _ => trivial
          cases X.patchedBrief base request.command p <;> trivial
      · trivial
    · trivial
  · exact Co.Within.bind (announcing_callStore (Q := fun _ => True) trivial fun _ _ => trivial)
      fun _ _ => announcing_startUnlessReplayed

theorem announcing_resume {X : Coordinator} {c : ℕ} {p : Principal} {runId key : String} {request : RunResumeRequest} :
    Announcing Label Made Answered (resume X c p runId request key) :=
  Co.Within.bind (announcing_callStore (Q := fun _ => True) trivial fun _ _ => trivial)
    fun _ _ => announcing_startUnlessReplayed

theorem announcing_stopExecution {X : Coordinator} {c : ℕ} {p : Principal} {runId : String} {updated : RunView} :
    Announcing Label Made Answered (stopExecution X c p runId updated) := by
  have hpropagate : Announcing Label Made Answered (propagateCancel X p runId) := by
    unfold propagateCancel
    split
    · refine Co.Within.tryCatch (Co.Within.bind (announcing_call trivial)
        fun _ _ => trivial) fun e => ?_
      split <;> trivial
    · trivial
  have hlocal : Announcing Label Made Answered (cancelLocal c runId) := by
    refine Co.Within.bind (announcing_call trivial) fun task _ => ?_
    cases task with
    | some task => exact Co.Within.bind announcing_act fun _ _ => trivial
    | none => trivial
  refine Co.Within.handle (fun kept _ => ?_) (fun e => ?_) hpropagate
  · refine Co.Within.bind hlocal fun task _ => ?_
    cases kept with
    | some e => trivial
    | none =>
      cases task with
      | some task => trivial
      | none => exact Co.Within.bind announcing_finishCanceled fun _ _ => trivial
  · exact Co.Within.bind hlocal fun _ _ => trivial

theorem announcing_cancel {X : Coordinator} {c : ℕ} {p : Principal} {runId : String} {v : ℕ} :
    Announcing Label Made Answered (cancel X c p runId v) := by
  refine Co.Within.bind announcing_getRun fun current _ => ?_
  split
  · trivial
  · refine Co.Within.bind (Q := fun _ => True) ?_ fun _ _ => announcing_stopExecution
    unfold requestCancel
    split
    · trivial
    · exact announcing_transition (announces_lifecycle rfl rfl (.inr rfl) (.inr rfl))

/-! ## The workers -/

theorem announcing_executeExisting {c : ℕ} {p : Principal} {runId : String} {owner : Option String} {duration : ℕ} :
    Announcing Label Made Answered (executeExisting c p runId owner duration) := by
  have howner : Announcing Label Made Answered (resolvedOwner owner) := by
    unfold resolvedOwner
    split
    · split
      · exact Co.Within.act
      · trivial
    · exact Co.Within.act
  refine Co.Within.bind announcing_getRun fun current _ => ?_
  split
  · trivial
  · refine Co.Within.bind howner fun owner _ => ?_
    refine Co.Within.bind (announcing_callStore (Q := fun _ => True) trivial fun _ _ => trivial) fun lease _ => ?_
    cases lease with
    | none =>
      refine Co.Within.bind announcing_getRun fun current _ => ?_
      split <;> trivial
    | some lease =>
      intro leaseLost stop executionTask heartbeatTask
      refine Co.Within.bind (Q := fun _ => True) (Co.Within.tryFinally ?_ ?_) fun _ _ => announcing_getRun
      · refine Co.Within.bind (Q := fun _ => True) (Co.Within.tryCatch
          (announcing_call trivial) fun e => ?_) fun _ _ lost => ?_
        · split
          · intro lost
            show Co.Within _ _ _ (if lost = true then _ else _)
            split <;> trivial
          · trivial
        · show Co.Within _ _ _ (if lost = true then _ else _)
          split <;> trivial
      · intro _ _
        refine Co.Within.bind (announcing_call trivial) fun _ _ => ?_
        exact Co.Within.bind (announcing_callStore (Q := fun _ => True) trivial fun _ _ => trivial) fun _ _ => trivial

theorem announcing_heartbeatNext {stop : ℕ} : Announcing Label Made Answered (heartbeatNext stop) := by
  intro stopped
  show Co.Within _ _ _ (if stopped = true then _ else _)
  split <;> trivial

theorem announcing_heartbeatRound {p : Principal} {lease : RunExecutionLease}
    {duration stop leaseLost executionTask : ℕ} :
    Announcing Label Made Answered (heartbeatRound p lease duration stop leaseLost executionTask) := by
  refine Co.Within.bind (announcing_call trivial) fun stopped _ => ?_
  split
  · trivial
  · refine Co.Within.bind (Q := fun _ => True) (Co.Within.tryCatch
      (announcing_callStore (Q := fun _ => True) trivial fun _ _ => trivial) fun e => ?_) fun renewed _ => ?_
    · cases e with
      | store | cancelled | exception | baseException => trivial
    · cases renewed with
      | none => exact fun _ _ => trivial
      | some _ => exact announcing_heartbeatNext

theorem announcing_processEntry {K : Codec} {c : ℕ} {consumer entryId : String} {fields : Obj} {duration : ℕ} :
    Announcing Label Made Answered (processEntry K c consumer entryId fields duration) := by
  have hdead : Announcing Label Made Answered deadLetter := announcing_call trivial
  unfold processEntry
  split
  · trivial
  · exact Co.Within.bind hdead fun _ _ => trivial
  · refine Co.Within.tryCatch (Co.Within.bind announcing_getRun fun run _ => ?_) fun e => ?_
    · split
      · exact Co.Within.bind announcing_executeExisting fun _ _ => trivial
      · exact Co.Within.bind hdead fun _ _ => trivial
    · split <;> trivial

/-! ## The calls -/

theorem Call.announcing {D : Deployment} (hD : ∀ c, (D.coordinator c).Supplies Label Made Answered) (call : Call) :
    Announcing Label Made Answered (call.program D) := by
  refine Co.Within.bind (announcing_call trivial) fun _ _ => ?_
  cases call with
  | submit => exact Co.Within.bind announcing_submit fun _ _ => trivial
  | resume => exact Co.Within.bind announcing_resume fun _ _ => trivial
  | cancel => exact Co.Within.bind announcing_cancel fun _ _ => trivial
  | execute c => exact Co.Within.bind (announcing_execute (hD c)) fun _ _ => trivial
  | forget => exact Co.Within.bind (announcing_call trivial) fun _ _ => trivial
  | executeExisting => exact Co.Within.bind announcing_executeExisting fun _ _ => trivial
  | heartbeat => exact announcing_heartbeatNext
  | processEntry => exact Co.Within.bind announcing_processEntry fun _ _ => trivial

theorem Call.round_announcing (call : Call) : Announcing Label Made Answered call.round := by
  cases call with
  | heartbeat => exact announcing_heartbeatRound
  | _ => trivial

end
end RoutePilot
