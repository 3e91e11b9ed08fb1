/-
  What the operations do to Runs, events and leases.

  `runChange` is the inversion lemma of the store for the Run tables: a call
  leaves Runs and events as they are, or creates one Run, or makes one
  transition of one Run, or resumes one waiting Run.  Every invariant of Runs
  is derived from it.
-/
import RoutePilot.Store.Ops

namespace RoutePilot

open Lib

/-- The tables of Runs. -/
def Store.runLog (st : Store) : Dict String RunView × Dict String (List RunEvent) :=
  (st.runs, st.events)

/-- The tables of Runs and leases. -/
def Store.runPart (st : Store) :
    (Dict String RunView × Dict String (List RunEvent)) ×
      Dict String RunExecutionLease × Dict String ℕ :=
  (st.runLog, st.executionLeases, st.executionAttempts)

/-- Trips and Artifacts are written together, and no other table with them. -/
theorem publishResult_keeps {τ : Type} {f : Store → τ} (hf : ∀ (st : Store) x y,
    f { st with artifacts := x, trips := y } = f st) (env : Env) (p : Principal) (run : RunView)
    (a : ArtifactView) : Keeps f (publishResult env p run a) := by
  unfold publishResult
  refine .bind (.ask _) fun stored => .bind (.modify fun st => hf st _ st.trips) fun _ => .ite ?_ (.pure _)
  refine .bind (.modify fun st => hf st _ st.trips) fun _ => .bind (.ask _) fun trip => ?_
  exact .modify fun st => hf st st.artifacts _

theorem publish_keeps {τ : Type} {f : Store → τ} (hf : ∀ (st : Store) x y,
    f { st with artifacts := x, trips := y } = f st) (env : Env) (p : Principal) (run : RunView)
    (a : Option ArtifactView) : Keeps f (a.forM (publishResult env p run) : StoreM Unit) := by
  cases a with
  | none => exact .pure _
  | some a => exact publishResult_keeps hf env p run a

theorem applyTarget_keeps {τ : Type} {f : Store → τ} (hf : ∀ (st : Store) x y,
    f { st with artifacts := x, trips := y } = f st) (env : Env) (p : Principal)
    (current : ArtifactView) (target : ArtifactStatus) : Keeps f (applyTarget env p current target) := by
  cases target with
  | published =>
    exact .bind (.modify fun st => hf st _ st.trips) fun _ => .bind (.ask _) fun _ =>
      .modify fun st => hf st st.artifacts _
  | revoked =>
    exact .bind (.ask _) fun _ => .ite (.modify fun st => hf st st.artifacts _) (.pure _)
  | _ => exact .pure _

/-! ## Transitions -/

/-- The event a transition appends. -/
def transitionEvent (env : Env) (m : RunMutation) (run : RunView) (st : Store) : RunEvent :=
  newEvent env (m.apply env run) ((st.events.getD run.runId []).length + 1) m.eventType
    (m.eventData.set "control_version" (.int (run.controlVersion + 1 : ℕ))) run.traceId

/-- The checks and effects of a successful transition; `st₁` is the store after the publication
    of its result. -/
structure Mutated (env : Env) (p : Principal) (runId : String) (m : RunMutation) (run : RunView)
    (st st₁ st' : Store) : Prop where
  read : runLocked p runId st = .ok run
  fence : checkFence env p runId m st = .ok ()
  version : run.controlVersion = m.expectedControlVersion
  publish : (m.resultArtifact.forM (publishResult env p run) : StoreM Unit).run st = .ok () st₁
  final : st' = { storeRun runId (m.apply env run) st₁ with
    events := st.events.set run.runId
      (st.events.getD run.runId [] ++ [transitionEvent env m run st]) }

theorem mutateRun_ok {env : Env} {p : Principal} {runId : String} {m : RunMutation}
    {st st' : Store} {r : RunView × RunEvent} (h : (mutateRun env p runId m).run st = .ok r st') :
    ∃ run st₁, Mutated env p runId m run st st₁ st' ∧ r.1 = m.apply env run := by
  simp only [mutateRun, bind_ok, ask_ok, ensure_ok, EStateM.run_modify, EStateM.run_pure,
    appendEventLocked, EStateM.run_get, EStateM.Result.ok.injEq, existsAndEq, true_and,
    exists_const, and_assoc] at h
  obtain ⟨run, hread, u, hfence, hver, v, st₁, hpub, hr, hst⟩ := h
  have hev : st₁.events = st.events := by
    have := publish_keeps (f := Store.events) (fun _ _ _ => rfl) env p run m.resultArtifact st
    rwa [hpub] at this
  refine ⟨run, st₁, ⟨hread, hfence, hver, hpub, ?_⟩, by rw [← hr]⟩
  rw [← hst, transitionEvent, ← hev]
  rfl

/-- A transition that raises changes nothing, unless the publication of its result raises. -/
theorem mutateRun_error {env : Env} {p : Principal} {runId : String} {m : RunMutation}
    {st st' : Store} {e : StoreError} (h : (mutateRun env p runId m).run st = .error e st') :
    st' = st ∨ ∃ run, runLocked p runId st = .ok run ∧ checkFence env p runId m st = .ok () ∧
      run.controlVersion = m.expectedControlVersion ∧
      (m.resultArtifact.forM (publishResult env p run) : StoreM Unit).run st = .error e st' := by
  simp only [mutateRun, bind_error, ask_ok, ask_error, ensure_ok, ensure_error, EStateM.run_modify,
    EStateM.run_pure, appendEventLocked, EStateM.run_get, existsAndEq, true_and, exists_const,
    and_assoc, reduceCtorEq, or_false, and_false] at h
  rcases h with ⟨-, rfl⟩ | ⟨run, hread, ⟨-, rfl⟩ | ⟨u, hfence, ⟨-, -, rfl⟩ | ⟨hver, hpub⟩⟩⟩
  · exact .inl rfl
  · exact .inl rfl
  · exact .inl rfl
  · exact .inr ⟨run, hread, hfence, hver, hpub⟩

section
variable {env : Env} {p : Principal} {runId : String} {m : RunMutation} {run : RunView} {st st₁ : Store}
  (hread : runLocked p runId st = .ok run) (hfence : checkFence env p runId m st = .ok ())
  (hversion : run.controlVersion = m.expectedControlVersion)
include hread hfence hversion

/-- A transition that passes its checks is made when its result is published. -/
theorem mutateRun_of_publish
    (hpublish : (m.resultArtifact.forM (publishResult env p run) : StoreM Unit).run st = .ok () st₁) :
    ∃ x st', (mutateRun env p runId m).run st = .ok x st' := by
  simp only [mutateRun, EStateM.run_bind, run_ask, hread, hfence, ensure, hversion, if_true, EStateM.run_pure, hpublish]
  exact ⟨_, _, rfl⟩

/-- It raises where the publication raises. -/
theorem mutateRun_of_publish_error {e : StoreError}
    (hpublish : (m.resultArtifact.forM (publishResult env p run) : StoreM Unit).run st = .error e st₁) :
    (mutateRun env p runId m).run st = .error e st₁ := by
  simp only [mutateRun, EStateM.run_bind, run_ask, hread, hfence, ensure, hversion, if_true, EStateM.run_pure, hpublish]

end

/-! ## Creation -/

/-- The event of a creation. -/
def acceptedEvent (env : Env) (run : RunView) : RunEvent :=
  newEvent env run 1 .runAccepted (acceptedData run) run.traceId

/-- The checks and effects of a creation that is no replay. -/
structure Created (env : Env) (p : Principal) (c : RunCreation) (trip : TripView)
    (st st' : Store) : Prop where
  write : tripLocked p c.tripId true st = .ok trip
  active : trip.status = .active
  fresh : st.idempotency.get? (p.tenantId, p.userId, c.idempotencyKey) = none
  base : checkPlanningBase c trip (currentSnapshot st trip) = .ok ()
  final : st' = { st with
    runs := st.runs.set (env.newPublicId "run") (newRun env p c trip)
    events := (st.events.set (env.newPublicId "run") []).set (env.newPublicId "run")
      [acceptedEvent env (newRun env p c trip)]
    idempotency := st.idempotency.set (p.tenantId, p.userId, c.idempotencyKey)
      (c.requestHash, env.newPublicId "run") }

theorem createRun_ok {env : Env} {p : Principal} {c : RunCreation} {st st' : Store}
    {r : IdempotentRunResult} (h : (createRun env p c).run st = .ok r st') :
    (r.replayed = true ∧ st' = st ∧ ∃ runId, st.idempotency.get?
        (p.tenantId, p.userId, c.idempotencyKey) = some (c.requestHash, runId) ∧
        st.runs.get? runId = some r.run) ∨
      (r.replayed = false ∧ ∃ trip, Created env p c trip st st' ∧ r.run = newRun env p c trip) := by
  simp only [createRun, bind_ok, ask_ok, ensure_ok, EStateM.run_get, EStateM.Result.ok.injEq,
    existsAndEq, true_and, exists_const, and_assoc] at h
  obtain ⟨trip, hwrite, hact, h⟩ := h
  split at h
  · next hash id hidem =>
    simp only [bind_ok, ask_ok, ensure_ok, EStateM.run_pure, EStateM.Result.ok.injEq, existsAndEq,
      true_and, exists_const, and_assoc] at h
    obtain ⟨rfl, run, hrun, rfl, rfl⟩ := h
    split at hrun
    · next run' hget => cases hrun; exact .inl ⟨rfl, rfl, id, hidem, hget⟩
    · cases hrun
  · next hidem =>
    simp only [insertRun, bind_ok, ask_ok, EStateM.run_modify, EStateM.run_pure,
      appendEventLocked, EStateM.run_get, EStateM.Result.ok.injEq, existsAndEq, true_and,
      exists_const, and_assoc] at h
    obtain ⟨u, hbase, rfl, rfl⟩ := h
    refine .inr ⟨rfl, trip, ⟨hwrite, hact, hidem, hbase, ?_⟩, rfl⟩
    simp [acceptedEvent, newRun, Dict.getD]

theorem createRun_error {env : Env} {p : Principal} {c : RunCreation} {st st' : Store}
    {e : StoreError} (h : (createRun env p c).run st = .error e st') : st' = st := by
  simp only [createRun, bind_error, ask_ok, ask_error, ensure_ok, ensure_error, EStateM.run_get,
    existsAndEq, true_and, exists_const, and_assoc, reduceCtorEq, false_or,
    EStateM.Result.ok.injEq] at h
  rcases h with ⟨-, rfl⟩ | ⟨trip, -, ⟨-, -, rfl⟩ | ⟨-, h⟩⟩
  · rfl
  · rfl
  · split at h
    · simp only [bind_error, ask_ok, ask_error, ensure_ok, ensure_error, EStateM.run_pure,
        existsAndEq, true_and, exists_const, and_assoc, reduceCtorEq, and_false, or_false] at h
      rcases h with ⟨-, -, rfl⟩ | ⟨-, -, rfl⟩ <;> rfl
    · simp only [insertRun, bind_error, ask_ok, ask_error, EStateM.run_get, EStateM.run_modify,
        EStateM.run_pure, appendEventLocked, existsAndEq, true_and, exists_const, and_assoc,
        reduceCtorEq, and_false, or_false, false_or, EStateM.Result.ok.injEq] at h
      obtain ⟨-, rfl⟩ := h; rfl

/-! ## Resumption -/

/-- The event of a resumption. -/
def resumedEvent (env : Env) (run : RunView) (st : Store) : RunEvent :=
  newEvent env run ((st.events.getD run.runId []).length + 1) .runLifecycleChanged
    (resumedData run) run.traceId

/-- The checks and effects of a resumption that is no replay. -/
structure Resumed (env : Env) (p : Principal) (runId : String) (r : RunResumption) (run : RunView)
    (values : Obj) (st st' : Store) : Prop where
  read : runLocked p runId st = .ok run
  fresh : st.runControlIdempotency.get? (p.tenantId, p.userId, "run.resume", r.idempotencyKey) = none
  version : run.controlVersion = r.expectedControlVersion
  waiting : checkResumption env r run = .ok values
  final : st' = { st with
    runs := st.runs.set runId (run.resumed env r.requestId values)
    events := st.events.set run.runId (st.events.getD run.runId [] ++
      [resumedEvent env (run.resumed env r.requestId values) st])
    runControlIdempotency := st.runControlIdempotency.set
      (p.tenantId, p.userId, "run.resume", r.idempotencyKey) (r.requestHash, runId) }

/-- A resumption answers the request its Run waits for, in time, with values it accepts. -/
theorem checkResumption_answers {env : Env} {r : RunResumption} {run : RunView} {values : Obj}
    (h : checkResumption env r run = .ok values) :
    ∃ pending, run.pendingInput = some pending ∧ run.lifecycleState = .waitingInput ∧
      pending.requestId = r.requestId ∧ env.now < pending.expiresAt ∧
      validateRunInputValues pending r.values = .ok values := by
  unfold checkResumption at h
  split at h
  · cases h
  · next pending hp =>
    split at h
    · cases h
    · next hw =>
      split at h
      · cases h
      · next hid =>
        split at h
        · cases h
        · next htime =>
          refine ⟨pending, hp, not_not.1 hw, not_not.1 hid, not_le.1 htime, ?_⟩
          split at h
          · next hv => cases h; exact hv
          · cases h
          · cases h

theorem checkResumption_ok {env : Env} {r : RunResumption} {run : RunView} {values : Obj}
    (h : checkResumption env r run = .ok values) : run.lifecycleState = .waitingInput := by
  obtain ⟨_, -, hw, -⟩ := checkResumption_answers h
  exact hw

theorem resumeRun_ok {env : Env} {p : Principal} {runId : String} {r : RunResumption}
    {st st' : Store} {x : IdempotentRunResult} (h : (resumeRun env p runId r).run st = .ok x st') :
    (x.replayed = true ∧ st' = st ∧ runLocked p runId st = .ok x.run ∧
        st.runControlIdempotency.get? (p.tenantId, p.userId, "run.resume", r.idempotencyKey) =
          some (r.requestHash, runId)) ∨
      (x.replayed = false ∧ ∃ run values, Resumed env p runId r run values st st' ∧
        x.run = run.resumed env r.requestId values) := by
  simp only [resumeRun, bind_ok, ask_ok, EStateM.run_get, EStateM.Result.ok.injEq, existsAndEq,
    true_and, and_assoc] at h
  obtain ⟨run, hread, h⟩ := h
  split at h
  · next hash id hkey =>
    simp only [bind_ok, ensure_ok, EStateM.run_pure, EStateM.Result.ok.injEq, existsAndEq, true_and,
      exists_const, and_assoc] at h
    obtain ⟨rfl, rfl, rfl, rfl⟩ := h
    exact .inl ⟨rfl, rfl, hread, hkey⟩
  · next hkey =>
    simp only [applyResumption, bind_ok, ask_ok, ensure_ok, EStateM.run_modify, EStateM.run_pure,
      appendEventLocked, EStateM.run_get, EStateM.Result.ok.injEq, existsAndEq, true_and,
      exists_const, and_assoc] at h
    obtain ⟨hver, values, hwait, rfl, rfl⟩ := h
    exact .inr ⟨rfl, run, values, ⟨hread, hkey, hver, hwait, rfl⟩, rfl⟩

theorem resumeRun_error {env : Env} {p : Principal} {runId : String} {r : RunResumption}
    {st st' : Store} {e : StoreError} (h : (resumeRun env p runId r).run st = .error e st') :
    st' = st := by
  simp only [resumeRun, bind_error, ask_ok, ask_error, EStateM.run_get, EStateM.Result.ok.injEq,
    existsAndEq, true_and, and_assoc, reduceCtorEq, false_or] at h
  rcases h with ⟨-, rfl⟩ | ⟨run, -, h⟩
  · rfl
  · split at h
    · simp only [bind_error, ensure_ok, ensure_error, EStateM.run_pure,
        and_assoc, reduceCtorEq, and_false, or_false, exists_const] at h
      obtain ⟨-, -, rfl⟩ := h; rfl
    · simp only [applyResumption, bind_error, ask_ok, ask_error, ensure_ok, ensure_error,
        EStateM.run_modify, EStateM.run_pure, appendEventLocked, EStateM.run_get, existsAndEq,
        true_and, exists_const, and_assoc, reduceCtorEq, and_false, or_false] at h
      rcases h with ⟨-, -, rfl⟩ | ⟨-, -, rfl⟩ <;> rfl

/-! ## Every other operation leaves Runs, events and leases alone -/

/-- The operations that write Runs, events or leases. -/
def StoreOp.WritesRuns : StoreOp → Prop
  | .createRun .. | .mutateRun .. | .resumeRun .. | .claimRunExecution .. | .renewRunExecution ..
  | .releaseRunExecution .. => True
  | _ => False

/-- The operations that write members of a Trip. -/
def StoreOp.WritesMembers : StoreOp → Prop
  | .createTrip .. | .upsertTripMember .. | .removeTripMember .. => True
  | _ => False

/-- Those write Trips, members, Artifacts and the keys of Artifact commands only. -/
theorem StoreOp.keeps_of_not_writesRuns {τ : Type} {f : Store → τ} (hf : ∀ (st : Store) x y z w,
    f { st with trips := x, members := y, artifacts := z, artifactIdempotency := w } = f st)
    (env : Env) (o : StoreOp) (h : ¬ o.WritesRuns) : Keeps f (o.run env) := by
  cases o with
  | createRun | mutateRun | resumeRun | claimRunExecution | renewRunExecution
  | releaseRunExecution => exact absurd trivial h
  | createTrip => exact .bind (.modify fun st => hf st _ _ _ _) fun _ => .pure _
  | listTrips => exact .bind .get fun _ => .pure _
  | getTrip => exact .ask _
  | patchTrip | setTripStatus =>
    exact .bind (.ask _) fun _ => .bind (.modify fun st => hf st _ _ _ _) fun _ => .pure _
  | listTripMembers => exact .bind (.ask _) fun _ => .bind .get fun _ => .pure _
  | upsertTripMember =>
    exact .bind (.ensure _ _) fun _ => .bind (.ask _) fun _ =>
      .bind (.bind (.ensure _ _) fun _ => .ensure _ _) fun _ => .bind .get fun _ =>
      .bind (.modify fun st => hf st _ _ _ _) fun _ => .pure _
  | removeTripMember =>
    exact .bind (.ask _) fun _ => .bind (.bind (.ensure _ _) fun _ => .ensure _ _) fun _ =>
      .bind .get fun _ => .bind (.ensure _ _) fun _ => .modify fun st => hf st _ _ _ _
  | getRun => exact .ask _
  | listEvents | waitForEvents => exact .bind (.ask _) fun _ => .bind .get fun _ => .pure _
  | createArtifact =>
    exact .bind (.ask _) fun _ => .bind (.ask _) fun _ => .bind .get fun _ =>
      .bind (.ensure _ _) fun _ => .bind (.modify fun st => hf st _ _ _ _) fun _ => .pure _
  | listArtifacts => exact .bind (.ask _) fun _ => .bind .get fun _ => .pure _
  | getArtifact => exact .ask _
  | patchArtifact =>
    exact .bind (.ask _) fun _ => .bind (.ask _) fun _ => .bind (.ensure _ _) fun _ =>
      .bind (.ask _) fun _ => .bind (.modify fun st => hf st _ _ _ _) fun _ => .pure _
  | commandArtifact p artifactId request key requestHash =>
    refine .bind (.ask _) fun current => .bind (.ask _) fun _ => .bind .get fun st => ?_
    split
    · exact .bind (.ensure _ _) fun _ => .pure _
    · exact .bind (.ensure _ _) fun _ => .bind (.ensure _ _) fun _ =>
        .bind (.modify fun st => hf st _ _ _ _) fun _ =>
          .bind (applyTarget_keeps (fun st _ _ => hf st _ _ _ _) _ _ _ _) fun _ =>
        .bind (.modify fun st => hf st _ _ _ _) fun _ => .pure _

theorem StoreOp.keeps_runPart (env : Env) (o : StoreOp) (h : ¬ o.WritesRuns) :
    Keeps Store.runPart (o.run env) :=
  o.keeps_of_not_writesRuns (fun _ _ _ _ _ => rfl) env h

/-! ## Leases -/

/-- Leases are granted, renewed and released without touching Runs or events. -/
theorem grantLease_keeps (env : Env) (runId owner : String) (duration : ℕ) :
    Keeps Store.runLog (grantLease env runId owner duration) :=
  .bind .get fun _ => .bind (.modify fun _ => rfl) fun _ => .pure _

theorem claimRunExecution_keeps (env : Env) (p : Principal) (runId owner : String) (duration : ℕ) :
    Keeps Store.runLog (claimRunExecution env p runId owner duration) :=
  .bind (.ask _) fun _ => .bind (.ask _) fun _ => .bind .get fun _ =>
    .ite (.pure _) (.bind (grantLease_keeps env runId owner duration) fun _ => .pure _)

theorem renewRunExecution_keeps (env : Env) (p : Principal) (lease : RunExecutionLease)
    (duration : ℕ) : Keeps Store.runLog (renewRunExecution env p lease duration) := by
  refine .bind (.ask _) fun _ => .bind .get fun st => ?_
  split
  · exact .pure _
  · exact .throw _
  · exact .bind (.modify fun _ => rfl) fun _ => .pure _

theorem releaseRunExecution_keeps (p : Principal) (lease : RunExecutionLease) :
    Keeps Store.runLog (releaseRunExecution p lease) :=
  .bind (.ask _) fun _ => .bind .get fun _ =>
    .ite (.bind (.modify fun _ => rfl) fun _ => .pure _) (.pure _)

/-! ## The inversion lemma -/

/-- What a call does to Runs and events. -/
inductive RunChange (c : StoreCall) (st st' : Store) : Prop
  | same (h : st'.runLog = st.runLog)
  | created {p : Principal} {r : RunCreation} {trip : TripView} (hop : c.op = .createRun p r)
      (h : Created c.env p r trip st st')
  | mutated {p : Principal} {runId : String} {m : RunMutation} {run : RunView} {st₁ : Store}
      (hop : c.op = .mutateRun p runId m) (h : Mutated c.env p runId m run st st₁ st')
  | resumed {p : Principal} {runId : String} {r : RunResumption} {run : RunView} {values : Obj}
      (hop : c.op = .resumeRun p runId r) (h : Resumed c.env p runId r run values st st')

theorem mutateRun_error_runPart {env : Env} {p : Principal} {runId : String} {m : RunMutation}
    {st st' : Store} {e : StoreError} (h : (mutateRun env p runId m).run st = .error e st') :
    st'.runPart = st.runPart := by
  obtain rfl | ⟨run, -, -, -, hpub⟩ := mutateRun_error h
  · rfl
  · have := publish_keeps (f := Store.runPart) (fun _ _ _ => rfl) env p run m.resultArtifact st
    rwa [hpub] at this

theorem StoreCall.runChange (c : StoreCall) (st : Store) : RunChange c st (c.next st) := by
  obtain ⟨env, o⟩ := c
  by_cases hw : o.WritesRuns
  · cases o with
    | claimRunExecution => exact .same (claimRunExecution_keeps ..)
    | renewRunExecution => exact .same (renewRunExecution_keeps ..)
    | releaseRunExecution => exact .same (releaseRunExecution_keeps ..)
    | createRun p r =>
      cases h : (createRun env p r).run st with
      | error e st' =>
        refine .same (congrArg Store.runLog ?_)
        exact (congrArg final h).trans (createRun_error h)
      | ok x st' =>
        have hn : StoreCall.next ⟨env, .createRun p r⟩ st = st' := congrArg final h
        rw [hn]
        obtain ⟨-, rfl, -⟩ | ⟨-, trip, hc, -⟩ := createRun_ok h
        · exact .same rfl
        · exact .created rfl hc
    | mutateRun p runId m =>
      cases h : (mutateRun env p runId m).run st with
      | error e st' =>
        have hp : (StoreCall.next ⟨env, .mutateRun p runId m⟩ st).runPart = st.runPart :=
          (congrArg (fun x => (final x).runPart) h).trans (mutateRun_error_runPart h)
        exact .same (congrArg Prod.fst hp)
      | ok x st' =>
        have hn : StoreCall.next ⟨env, .mutateRun p runId m⟩ st = st' := congrArg final h
        rw [hn]
        obtain ⟨run, st₁, hm, -⟩ := mutateRun_ok h
        exact .mutated rfl hm
    | resumeRun p runId r =>
      cases h : (resumeRun env p runId r).run st with
      | error e st' =>
        refine .same (congrArg Store.runLog ?_)
        exact (congrArg final h).trans (resumeRun_error h)
      | ok x st' =>
        have hn : StoreCall.next ⟨env, .resumeRun p runId r⟩ st = st' := congrArg final h
        rw [hn]
        obtain ⟨-, rfl, -⟩ | ⟨-, run, values, hr, -⟩ := resumeRun_ok h
        · exact .same rfl
        · exact .resumed rfl hr
    | _ => exact absurd hw id
  · exact .same (congrArg Prod.fst (o.keeps_runPart env hw st))

end RoutePilot
