/-
  Terminal Runs are absorbing, in the in-memory store under any number of
  coordinators.

  No store operation refuses to move a terminal Run; the coordinators do, by
  reading it first.  Only a cancellation compares against a version it has not
  read, the one of its client, so the result needs that no client is ahead of
  the Run its cancellation reads (`cancelsAsRead`).
-/
import RoutePilot.Proof.Discipline
import RoutePilot.Runtime.Play

namespace RoutePilot

open Lib Lts

/-- The calls of coordinators. -/
def Call.isCoordinators : Call → Bool
  | .submit .. | .resume .. | .cancel .. | .execute .. | .forget .. => true
  | _ => false

/-- Clients of the coordinators, at any time and with any arguments; every task may be canceled, and
    the store is used otherwise by operations that write no Runs. -/
def coordinatorClients {ε : Type} : RtLabel ε → Prop
  | .call call => call.isCoordinators
  | .store l => l.op.writesLog = false
  | _ => True

/-- An empty store, and no task. -/
def World.Empty (w : World Store) : Prop := w = { store := {} }

/-- Coordinators over the in-memory store. -/
def coordinators (D : Deployment) : Lts (World Store) (RtLabel Env) :=
  runtimeSystem memoryBackend D World.Empty coordinatorClients

/-- A cancellation that reads a Run it may request to cancel was given a version that is not ahead
    of the Run. -/
def cancelsAsRead : Call → Env → Store → StoreOp → Prop
  | .cancel _ _ runId v, _, st, .getRun _ _ => ∀ run, st.runs.get? runId = some run →
      run.lifecycleState.isTerminal = false → run.lifecycleState ≠ .cancelRequested →
      v ≤ run.controlVersion
  | _, _, _, _ => True

/-- Runs move by the lifecycle, if the clients of cancellations are not ahead. -/
def lifecycleDiscipline : Discipline memoryRuns where
  Edge := RunLifecycle.Moves
  Keep _ _ := True
  Made _ _ _ _ := True
  Creates _ := True
  Submits := True
  Executes _ := True
  Starts _ _ _ := True
  asks := cancelsAsRead
  edge _ _ h := h
  keep_refl _ := trivial
  keep_trans _ _ _ _ _ := trivial
  keep _ _ _ _ _ _ _ _ _ := trivial
  made _ _ _ _ _ _ _ _ := trivial
  made_keep _ _ _ _ _ _ _ := trivial
  executes _ _ := trivial
  starts_create _ _ _ _ _ _ _ _ _ _ _ := trivial
  starts_resume _ _ _ _ _ _ _ _ _ _ _ := trivial
  cancel_edge c p runId v env st hasks run events run' events' L hL hlive hcr hadv hL' hv := by
    -- the Run has the version the client gave, which is at most the one that was read
    have hle := hasks run (Store.log_eq_some.1 hL).1 hlive hcr
    obtain ⟨run₁, events₁, hL₁, -, ⟨rfl, -⟩ | hlt⟩ := hadv runId run events hL
    · rw [hL'] at hL₁
      cases hL₁
      revert hlive hcr
      cases run'.lifecycleState <;> decide
    · rw [hL'] at hL₁
      cases hL₁
      omega

theorem lifecycleDiscipline_sound (D : Deployment) :
    PoolSound lifecycleDiscipline.pool memoryBackend D cancelsAsRead coordinatorClients := by
  refine lifecycleDiscipline.sound ?_ ?_ ?_
  · exact fun c run p => Script.yields_of_forall (fun r tripId lease => ⟨trivial, fun _ _ => trivial⟩) _
  · intro call s hc
    cases call with
    | executeExisting | heartbeat | processEntry => cases hc
    | execute => exact ⟨trivial, trivial⟩
    | _ => trivial
  · intro l st st' hc hok hfresh hx
    exact ⟨(memoryRuns.change _ _ _ _ _ hok hfresh hx).log_eq hc, trivial⟩

/-- What a step does to a Run: nothing, or a move of its lifecycle. -/
theorem coordinators_step {D : Deployment} {w w' : World Store} {l : RtLabel Env}
    (hw : PoolOk lifecycleDiscipline.pool w) (hA : awaitsMeet cancelsAsRead w l)
    (hs : (coordinators D).step w l w') {runId : String} {run : RunView} {events : List RunEvent}
    (hrun : w.store.log runId = some (run, events)) :
    ∃ run' events', w'.store.log runId = some (run', events') ∧
      (run' = run ∧ events' = events ∨ run.lifecycleState.Moves run'.lifecycleState) := by
  obtain ⟨-, hmove⟩ := (lifecycleDiscipline_sound D).step hw hA hs.1 hs.2
  cases hmove with
  | still h => exact ⟨run, events, by rw [h]; exact hrun, .inl ⟨rfl, rfl⟩⟩
  | own h h' ht hprog hx hguar =>
    obtain ⟨run', events', hrun', -⟩ := hguar.advance runId run events hrun
    exact ⟨run', events', hrun', hguar.moves runId run events run' events' hrun hrun'⟩
  | other h h' hrely =>
    rename_i l
    obtain ⟨hfresh, hx, -⟩ := hs.2
    have hlog := (memoryRuns.change _ _ _ _ _ h hfresh hx).log_eq hs.1
    refine ⟨run, events, ?_, .inl ⟨rfl, rfl⟩⟩
    rw [show w'.store.log = w.store.log from hlog]
    exact hrun

theorem coordinators_poolOk {D : Deployment} {w : World Store}
    (h : (coordinators D).Reach (awaitsMeet cancelsAsRead) w) :
    PoolOk lifecycleDiscipline.pool w := by
  refine (lifecycleDiscipline_sound D).invariant (fun _ _ h => h) ?_ h
  rintro w rfl
  exact ⟨Store.logOk_empty, by simp⟩

/-- **Terminal Runs are absorbing.**  For all coordinators and clients, as long as no client of a
    cancellation is ahead of the Run it reads: once a Run is terminal, it and its events never
    change again; and every change of a lifecycle state is one of `changesTo`. -/
theorem terminal_runs_absorbing (D : Deployment) {w : World Store}
    (h : (coordinators D).Reach (awaitsMeet cancelsAsRead) w) {runId : String} {run : RunView}
    {events : List RunEvent} (hrun : w.store.log runId = some (run, events)) :
    (run.lifecycleState.isTerminal → ∀ w', (coordinators D).Steps (awaitsMeet cancelsAsRead) w w' →
      w'.store.log runId = some (run, events)) ∧
    ∀ l w' run' events', awaitsMeet cancelsAsRead w l → (coordinators D).step w l w' →
      w'.store.log runId = some (run', events') →
      run'.lifecycleState = run.lifecycleState ∨
        run.lifecycleState.changesTo run'.lifecycleState := by
  constructor
  · intro hterm w' hsteps
    -- along the run, by the step lemma: a terminal Run makes no move
    induction hsteps with
    | refl => exact hrun
    | @tail w₁ w₂ hsteps hstep ih =>
      obtain ⟨l, hA, hs⟩ := hstep
      obtain ⟨run', events', hrun', ⟨rfl, rfl⟩ | hmoves⟩ :=
        coordinators_step (coordinators_poolOk (h.steps hsteps)) hA hs ih
      · exact hrun'
      · rw [hmoves.1] at hterm; cases hterm
  · intro l w' run' events' hA hs hrun'
    obtain ⟨run₁, events₁, hrun₁, hmove⟩ := coordinators_step (coordinators_poolOk h) hA hs hrun
    rw [hrun'] at hrun₁
    cases hrun₁
    obtain ⟨rfl, -⟩ | ⟨-, hsame | hchange⟩ := hmove
    · exact .inl rfl
    · exact .inl hsame.symm
    · exact .inr hchange

/-! ## A cancellation ahead of its Run -/

namespace LateCancel

open Play

/-- A Run is submitted and started; its task waits to read it again. -/
def started : List Move :=
  [.store (env 1) (.createTrip owner { title := "Kyoto" }),
    .call (.submit 0 owner "trip_1" plan "key" "trace"), .run 0 (env 2), .run 0 (env 3),
    .run 0 (env 4), .run 1 (env 5), .run 1 (env 6), .run 1 (env 7)]

/-- It is canceled at the version that was read, and its task settles it. -/
def canceled : List Move := started ++
  [.call (.cancel 0 owner "run_3" 2), .run 2 (env 8), .run 2 (env 9), .run 2 (env 10), .run 2 (env 11),
    .run 2 (env 12), .interrupt 1 (env 13), .run 1 (env 14), .run 1 (env 15)]

/-- A cancellation reads it as running, and it is completed before the cancellation goes on. -/
def completed : List Move := started ++
  [.call (.cancel 0 owner "run_3" 4), .run 2 (env 8), .run 2 (env 9), .run 1 (env 10),
    .run 1 (env 11), .run 1 (env 12), .run 1 (env 13), .run 1 (env 14), .run 1 (env 15)]

/-- The move is one of coordinators and their clients. -/
def isClients : Move → Bool
  | .call call => call.isCoordinators
  | .store _ op => !op.writesLog
  | _ => true

/-- The client of a cancellation is not ahead of its Run. -/
def isBehind (st : Store) : Call → Bool
  | .cancel _ _ runId v => (st.runs.get? runId).all fun run =>
      run.lifecycleState.isTerminal || run.lifecycleState == .cancelRequested ||
        v ≤ run.controlVersion
  | _ => true

/-- A cancellation goes on only at a Run that its client is not ahead of. -/
def isAsRead (w : World Store) : Move → Bool
  | .run i _ => (w.tasks[i]?).all fun t => isBehind w.store t.call
  | _ => true

theorem clients_of_isClients {m : Move} {l : RtLabel Env} (h : isClients m = true)
    (hl : m.Labels l) : coordinatorClients l := by
  cases hl with
  | call c => exact h
  | store env op r =>
    show op.writesLog = false
    simpa [isClients] using h
  | _ => trivial

theorem awaitsMeet_of_isAsRead {w : World Store} {m : Move} {l : RtLabel Env}
    (h : isAsRead w m = true) (hl : m.Labels l) : awaitsMeet cancelsAsRead w l := by
  cases hl with
  | run i env =>
    intro t o k ht _
    have hb : isBehind w.store t.call = true := by
      have h' : (w.tasks[i]?).all (fun t => isBehind w.store t.call) = true := h
      rwa [ht] at h'
    revert hb
    cases t.call with
    | cancel c p runId v =>
      intro hb
      cases o with
      | getRun =>
        intro run hrun hlive hcr
        simp only [isBehind, hrun, Option.all_some, hlive, Bool.false_or, Bool.or_eq_true,
          beq_iff_eq, decide_eq_true_eq] at hb
        exact hb.resolve_left hcr
      | _ => trivial
    | _ => exact fun _ => trivial
  | _ => trivial

/-- The world in which the Run is canceled. -/
def canceledWorld : World Store :=
  (World.plays (deployment snapshot) (fun w m => isClients m && isAsRead w m) { store := {} } canceled).get
    (by decide)

/-- The world in which the Run is completed, and the cancellation still waits. -/
def completedWorld : World Store :=
  (World.plays (deployment snapshot) (fun _ m => isClients m) { store := {} } completed).get (by decide)

/-- The world in which the cancellation has gone on. -/
def revivedWorld : World Store :=
  (completedWorld.plays (deployment snapshot) (fun _ m => isClients m) [.run 2 (env 16)]).get (by decide)

theorem canceledWorld_reachable :
    (coordinators (deployment snapshot)).Reach (awaitsMeet cancelsAsRead) canceledWorld := by
  refine ⟨_, rfl, steps_plays (fun w m l hm hl => ?_) (Option.some_get _).symm⟩
  rw [Bool.and_eq_true] at hm
  exact ⟨clients_of_isClients hm.1 hl, awaitsMeet_of_isAsRead hm.2 hl⟩

theorem completedWorld_reachable : (coordinators (deployment snapshot)).Reach anyStep completedWorld :=
  ⟨_, rfl, steps_plays (fun _ _ _ hm hl => ⟨clients_of_isClients hm hl, trivial⟩)
    (Option.some_get _).symm⟩

theorem revivedWorld_steps : (coordinators (deployment snapshot)).Steps anyStep completedWorld revivedWorld :=
  steps_plays (fun _ _ _ hm hl => ⟨clients_of_isClients hm hl, trivial⟩) (Option.some_get _).symm

end LateCancel

/-- A canceled Run stays as it is. -/
theorem terminal_runs_absorbing_canceled :
    (LateCancel.canceledWorld.store.log "run_3").map (·.1.lifecycleState) = some .canceled ∧
      ∀ w', (coordinators (Play.deployment Play.snapshot)).Steps (awaitsMeet cancelsAsRead)
        LateCancel.canceledWorld w' →
        w'.store.log "run_3" = LateCancel.canceledWorld.store.log "run_3" := by
  have hstate : (LateCancel.canceledWorld.store.log "run_3").map (·.1.lifecycleState) =
      some .canceled := by decide
  refine ⟨hstate, fun w' hw' => ?_⟩
  obtain ⟨⟨run, events⟩, hlog, hl⟩ := Option.map_eq_some_iff.1 hstate
  rw [hlog]
  refine (terminal_runs_absorbing _ LateCancel.canceledWorld_reachable hlog).1 ?_ w' hw'
  rw [show run.lifecycleState = .canceled from hl]
  rfl

/-- Without the condition a completed Run is moved: the cancellation read it as running, and its
    client gave the version that the Run has after its completion. -/
theorem late_cancel_revives_run : ¬ ∀ (D : Deployment) (w : World Store),
    (coordinators D).Reach anyStep w → ∀ runId run events,
      w.store.log runId = some (run, events) → run.lifecycleState.isTerminal →
      ∀ w', (coordinators D).Steps anyStep w w' → w'.store.log runId = some (run, events) := by
  intro h
  have hstate : (LateCancel.completedWorld.store.log "run_3").map (·.1.lifecycleState) =
      some .completed := by decide
  obtain ⟨⟨run, events⟩, hlog, hl⟩ := Option.map_eq_some_iff.1 hstate
  have hsame := h _ _ LateCancel.completedWorld_reachable _ _ _ hlog
    (by rw [show run.lifecycleState = .completed from hl]; rfl) _ LateCancel.revivedWorld_steps
  have hmoved : (LateCancel.revivedWorld.store.log "run_3").map (·.1.lifecycleState) =
      some .cancelRequested := by decide
  rw [hsame, Option.map_some, show run.lifecycleState = .completed from hl] at hmoved
  cases hmoved

end RoutePilot
