/-
  A canceled or failed Run has published nothing.

  Publication and completion are two transitions.  A Run that is moved in
  between by anything else (a cancellation, a failure, another attempt) keeps
  what it has published, so the result is for runs in which a Run with a result
  is moved by its completion only (`completesOncePublished`).
-/
import RoutePilot.Proof.Terminal
import RoutePilot.Spec.Planning

namespace RoutePilot

open Lib Lts

/-- Executions and cancellations of one Run, while leases are claimed, renewed and released. -/
def oneRunClients (runId : String) : RtLabel Env → Prop
  | .call (.execute _ r _ _) => r = runId
  | .call (.cancel _ _ r _) => r = runId
  | .call _ => False
  | .store l => l.op.isLeases = true
  | _ => True

/-- One Run of the store `st₀`, with the attempts to execute it and to cancel it. -/
def oneRun (D : Deployment) (runId : String) (st₀ : Store) : Lts (World Store) (RtLabel Env) :=
  runtimeSystem memoryBackend D (fun w => w = { store := st₀ }) (oneRunClients runId)

/-- A transition of a Run that has a result completes the Run. -/
def completesOncePublished : Call → Env → Store → StoreOp → Prop
  | _, _, st, .mutateRun _ runId m => ∀ run, st.runs.get? runId = some run →
      run.resultArtifactId.isSome → run.controlVersion = m.expectedControlVersion →
      m.lifecycleState = some .completed
  | _, _, _, _ => True

/-- Executions of one Run whose other Artifacts are not published. -/
def publicationDiscipline (runId : String) : Discipline memoryRuns where
  Edge _ _ := True
  Keep := Store.Preserved
  Made p tripId a st := st.Holds p tripId a
  Creates c := c.status ≠ .published
  Submits := False
  Executes r := r = runId
  Starts _ _ _ := True
  asks := completesOncePublished
  edge _ _ _ := trivial
  keep_refl := .refl
  keep_trans _ _ _ h h' := h.trans h'
  keep _ _ _ _ _ _ hfresh hx ho := memory_preserved hfresh hx (.inl ho)
  made _ _ _ _ _ _ _ hx := memory_holds hx
  made_keep _ _ _ _ _ h hp := h.preserved hp
  executes h := h.elim
  starts_create h := h.elim
  starts_resume h := h.elim
  cancel_edge _ _ _ _ _ _ _ _ _ _ _ _ _ _ _ _ _ _ := trivial

/-- The executors of a deployment publish no supporting Artifact by themselves. -/
def Deployment.Unpublished (D : Deployment) : Prop := ∀ c run p,
  ((D.coordinator c).executor run p).Yields fun r => ∀ a ∈ r.supportingArtifacts,
    a.status ≠ .published

theorem Script.Yields.mono {P Q : ExecutionResult → Prop} (h : ∀ r, P r → Q r) :
    ∀ {x : Script}, x.Yields P → x.Yields Q
  | .done r, hx => h r hx
  | .raise _, _ => trivial
  | .progress _ _ _ _, hx => fun r => Script.Yields.mono h (hx r)
  | .external _, hx => fun r => Script.Yields.mono h (hx r)

theorem publicationDiscipline_sound {D : Deployment} (hD : D.Unpublished) (runId : String) :
    PoolSound (publicationDiscipline runId).pool memoryBackend D completesOncePublished
      (oneRunClients runId) := by
  refine (publicationDiscipline runId).sound ?_ ?_ ?_
  · intro c run p
    refine (hD c run p).mono fun r hr tripId lease => ⟨?_, fun a ha => hr a ha⟩
    exact fun h : ArtifactStatus.candidate = .published => nomatch h
  · intro call s hc
    cases call with
    | execute => exact ⟨hc, trivial⟩
    | cancel => trivial
    | _ => exact hc.elim
  · intro l st st' hc hok hfresh hx
    have hkeep : st'.accessPart = st.accessPart := by
      rw [hx.2]; exact l.op.keeps_of_isLeases (fun _ _ _ => rfl) _ hc st
    exact ⟨(memoryRuns.change _ _ _ _ _ hok hfresh hx).log_eq (StoreOp.writesLog_of_isLeases hc),
      .of_accessPart hkeep⟩

/-! ## What a Run has published -/

/-- Nothing was published since `st₀`: the Trips are the same, and every published version was
    stored already. -/
structure Withheld (st₀ st : Store) : Prop where
  trips : st.trips = st₀.trips
  versions : ∀ id a, a ∈ st.artifacts.getD id [] → a.status = .published →
    ∃ a₀ ∈ st₀.artifacts.getD id [], a₀.version = a.version

/-- A Run without a result has published nothing; a Run with one is running or completed. -/
structure OutcomeOk (st₀ : Store) (runId : String) (st : Store) : Prop where
  stored : (st.runs.get? runId).isSome
  withheld : ∀ run, st.runs.get? runId = some run → run.resultArtifactId = none → Withheld st₀ st
  published : ∀ run, st.runs.get? runId = some run → run.resultArtifactId.isSome →
    run.lifecycleState = .running ∨ run.lifecycleState = .completed

theorem Withheld.congr {st₀ st st' : Store} (h : Withheld st₀ st)
    (hp : st'.artifactPart = st.artifactPart) : Withheld st₀ st' := by
  have ht : st'.trips = st.trips := congrArg Prod.fst hp
  have ha : st'.artifacts = st.artifacts := congrArg Prod.snd hp
  exact ⟨ht.trans h.trips, by rw [ha]; exact h.versions⟩

/-- An operation that leaves Runs, Trips and Artifacts alone. -/
theorem OutcomeOk.congr {st₀ st st' : Store} {runId : String} (h : OutcomeOk st₀ runId st)
    (hruns : st'.runs = st.runs) (hp : st'.artifactPart = st.artifactPart) :
    OutcomeOk st₀ runId st' where
  stored := by rw [hruns]; exact h.stored
  withheld run hrun hnone := (h.withheld run (hruns ▸ hrun) hnone).congr hp
  published run hrun := h.published run (hruns ▸ hrun)

/-- A new version that is not published. -/
theorem OutcomeOk.createArtifact {st₀ st st' : Store} {runId : String} {env : Env} {p : Principal}
    {c : ArtifactCreation} {a : ArtifactView} (h : OutcomeOk st₀ runId st)
    (hstatus : c.status ≠ .published) (hx : (createArtifact env p c).run st = .ok a st') :
    OutcomeOk st₀ runId st' := by
  obtain ⟨-, -, -, -, rfl⟩ := createArtifact_ok hx
  refine ⟨h.stored, fun run hrun hnone => ?_, h.published⟩
  have hw := h.withheld run hrun hnone
  refine ⟨hw.trips, fun id b hb hpub => ?_⟩
  simp only [Dict.getD_set] at hb
  split at hb
  · rw [List.mem_singleton.1 hb] at hpub
    exact absurd hpub hstatus
  · exact hw.versions id b hb hpub

/-- A transition without a result leaves Trips and Artifacts alone. -/
theorem Mutated.artifactPart {env : Env} {p : Principal} {r : String} {m : RunMutation}
    {run : RunView} {st st₁ st' : Store} (h : Mutated env p r m run st st₁ st')
    (hm : m.resultArtifact = none) : st'.artifactPart = st.artifactPart := by
  have hp := h.publish
  rw [hm] at hp
  cases hp
  rw [h.final]
  rfl

/-- The Run of a transition, and every other one. -/
theorem Mutated.runs {env : Env} {p : Principal} {r : String} {m : RunMutation} {run : RunView}
    {st st₁ st' : Store} (h : Mutated env p r m run st st₁ st') :
    st.runs.get? r = some run ∧ st'.runs = st.runs.set r (m.apply env run) := by
  have hruns := publish_keeps (f := Store.runs) (fun _ _ _ => rfl) env p run m.resultArtifact st
  rw [h.publish] at hruns
  refine ⟨(runLocked_ok h.read).1, ?_⟩
  rw [h.final, ← hruns]
  rfl

/-- A transition of the Run: the result is set on a running Run, and a Run with a result is
    completed. -/
theorem OutcomeOk.mutateRun {st₀ st st₁ st' : Store} {runId r : String} {env : Env} {p : Principal}
    {m : RunMutation} {run : RunView} (h : OutcomeOk st₀ runId st)
    (hx : Mutated env p r m run st st₁ st')
    (hasks : run.resultArtifactId.isSome → m.lifecycleState = some .completed)
    (hresult : ∀ a, m.resultArtifact = some a →
      r = runId ∧ m.lifecycleState = none ∧ run.lifecycleState = .running) :
    OutcomeOk st₀ runId st' := by
  obtain ⟨hget, hruns⟩ := hx.runs
  by_cases hr : r = runId
  · subst hr
    have hself : st'.runs.get? r = some (m.apply env run) := by rw [hruns, Dict.get?_set_self]
    refine ⟨by rw [hself]; rfl, fun run' hrun' hnone => ?_, fun run' hrun' hsome => ?_⟩
    · rw [hself] at hrun'
      cases hrun'
      -- neither the Run nor the transition has a result
      cases hm : m.resultArtifact with
      | some a => simp [RunMutation.apply, hm] at hnone
      | none =>
        have hnone' : run.resultArtifactId = none := by
          simpa [RunMutation.apply, hm] using hnone
        exact (h.withheld run hget hnone').congr (hx.artifactPart hm)
    · rw [hself] at hrun'
      cases hrun'
      cases hm : m.resultArtifact with
      | some a =>
        obtain ⟨-, hstays, hrunning⟩ := hresult a hm
        exact .inl (by simp [RunMutation.apply, hstays, hrunning])
      | none =>
        have hsome' : run.resultArtifactId.isSome := by
          simpa [RunMutation.apply, hm] using hsome
        exact .inr (by simp [RunMutation.apply, hasks hsome'])
  · -- another Run is moved, without a result
    have hm : m.resultArtifact = none := by
      cases hm : m.resultArtifact with
      | none => rfl
      | some a => exact absurd (hresult a hm).1 hr
    have hother : st'.runs.get? runId = st.runs.get? runId := by
      rw [hruns, Dict.get?_set, if_neg (Ne.symm hr)]
    refine ⟨by rw [hother]; exact h.stored, fun run' hrun' hnone => ?_, fun run' hrun' hsome => ?_⟩
    · rw [hother] at hrun'
      exact (h.withheld run' hrun' hnone).congr (hx.artifactPart hm)
    · rw [hother] at hrun'
      exact h.published run' hrun' hsome

/-- **Step lemma.**  An operation of an execution or a cancellation keeps the invariant. -/
theorem OutcomeOk.step {st₀ st st' : Store} {runId : String} {call : Call} {env : Env} {o : StoreOp}
    {r : Except StoreError o.Ans} (h : OutcomeOk st₀ runId st)
    (hx : memoryBackend.exec env o st r st') (hasks : completesOncePublished call env st o)
    (hw : (publicationDiscipline runId).Writes call st o) : OutcomeOk st₀ runId st' := by
  have hlog : ∀ {k run}, st.runs.get? k = some run → st.log k = some (run, st.events.getD k []) :=
    fun hrun => Store.log_eq_some.2 ⟨hrun, rfl⟩
  cases o with
  | getRun p k =>
    have hst : st' = st := by rw [hx.2]; exact Keeps.ask (f := id) _ st
    rw [hst]; exact h
  | getArtifact p k v =>
    have hst : st' = st := by rw [hx.2]; exact Keeps.ask (f := id) _ st
    rw [hst]; exact h
  | createArtifact p c =>
    cases r with
    | ok a => exact h.createArtifact hw (memoryBackend_exec_ok hx)
    | error e => rw [createArtifact_error (memoryBackend_exec_error hx)]; exact h
  | mutateRun p k m =>
    cases r with
    | ok x =>
      obtain ⟨run, st₁, hm, -⟩ := mutateRun_ok (memoryBackend_exec_ok hx)
      have hget := hm.runs.1
      refine h.mutateRun hm (fun hsome => hasks run hget hsome hm.version) fun a ha => ?_
      obtain ⟨-, hrun, hstays, hknown⟩ := hw.2 a ha
      exact ⟨hrun, hstays, (hknown run _ (hlog hget)).2 hm.version⟩
    | error e =>
      rw [mutateRun_error_held (memoryBackend_exec_error hx) fun a run ha hget => ?_]
      · exact h
      · exact ((hw.2 a ha).2.2.2 run _ (hlog hget)).1
  | createRun | resumeRun => exact hw.elim
  | _ => exact hw.elim

theorem oneRun_poolOk {D : Deployment} (hD : D.Unpublished) {runId : String} {st₀ : Store}
    (hst₀ : LogOk st₀.log) {w : World Store}
    (h : (oneRun D runId st₀).Reach (awaitsMeet completesOncePublished) w) :
    PoolOk (publicationDiscipline runId).pool w := by
  refine (publicationDiscipline_sound hD runId).invariant (fun _ _ h => h) ?_ h
  rintro w rfl
  exact ⟨hst₀, by simp⟩

theorem oneRun_outcomeOk {D : Deployment} (hD : D.Unpublished) {runId : String} {st₀ : Store}
    (hst₀ : LogOk st₀.log) {run₀ : RunView} (hrun₀ : st₀.runs.get? runId = some run₀)
    (hnew : run₀.resultArtifactId = none) {w : World Store}
    (h : (oneRun D runId st₀).Reach (awaitsMeet completesOncePublished) w) :
    OutcomeOk st₀ runId w.store := by
  refine h.invariant (I := fun w => OutcomeOk st₀ runId w.store) ?_ ?_
  · rintro w rfl
    refine ⟨Option.isSome_iff_exists.2 ⟨run₀, hrun₀⟩,
      fun _ _ _ => ⟨rfl, fun id a ha _ => ⟨a, ha, rfl⟩⟩, fun run hrun hsome => ?_⟩
    rw [show st₀.runs.get? runId = some run from hrun] at hrun₀
    cases hrun₀
    rw [hnew] at hsome; cases hsome
  · intro w l w' hw hok hA hs
    obtain ⟨-, hmove⟩ :=
      (publicationDiscipline_sound hD runId).step (oneRun_poolOk hD hst₀ hw) hA hs.1 hs.2
    cases hmove with
    | still hst => rw [hst]; exact hok
    | own _ _ ht hprog hx hguar => exact hok.step hx (hA _ _ _ ht hprog) hguar.writes
    | @other l =>
      obtain ⟨hfresh, hx, -⟩ := hs.2
      have hc : l.op.isLeases = true := hs.1
      have hkeep : ∀ {τ : Type} {f : Store → τ}, (∀ (st : Store) x y,
          f { st with executionLeases := x, executionAttempts := y } = f st) →
          f w'.store = f w.store := by
        intro τ f hf
        rw [hx.2]; exact l.op.keeps_of_isLeases hf _ hc _
      exact hok.congr (hkeep fun _ _ _ => rfl) (hkeep fun _ _ _ => rfl)

/-- The result of a Run stays set along a run. -/
theorem oneRun_result_set {D : Deployment} (hD : D.Unpublished) {runId : String} {st₀ : Store}
    (hst₀ : LogOk st₀.log) {w w' : World Store}
    (hw : (oneRun D runId st₀).Reach (awaitsMeet completesOncePublished) w)
    (hs : (oneRun D runId st₀).Steps (awaitsMeet completesOncePublished) w w') {run : RunView}
    (hrun : w.store.runs.get? runId = some run) (hset : run.resultArtifactId.isSome) :
    ∃ run', w'.store.runs.get? runId = some run' ∧ run'.resultArtifactId.isSome := by
  induction hs with
  | refl => exact ⟨run, hrun, hset⟩
  | @tail w₁ w₂ hs hl ih =>
    obtain ⟨l, hA, -, hstep⟩ := hl
    obtain ⟨run₁, hrun₁, hset₁⟩ := ih
    obtain ⟨hok, -⟩ := oneRun_poolOk hD hst₀ (hw.steps hs)
    obtain hsame | ⟨env, o, r, hfresh, hx⟩ := hstep.store
    · rw [hsame]; exact ⟨run₁, hrun₁, hset₁⟩
    · obtain ⟨run₂, events₂, hrun₂, hset₂⟩ :=
        (memoryRuns.change _ _ _ _ _ hok hfresh hx).result_set
          (Store.log_eq_some.2 ⟨hrun₁, rfl⟩) hset₁
      exact ⟨run₂, (Store.log_eq_some.1 hrun₂).1, hset₂⟩

/-- **A canceled or failed Run has published nothing.**  From every store in which the Run has no
    result, in every run whose transitions of a Run with a result complete it: if the Run is
    canceled or failed in the end, then at no time before had a pointer of a Trip been changed or
    a version created since been published. -/
theorem settled_run_published_nothing {D : Deployment} (hD : D.Unpublished) {runId : String}
    {st₀ : Store} (hst₀ : LogOk st₀.log) {run₀ : RunView} (hrun₀ : st₀.runs.get? runId = some run₀)
    (hnew : run₀.resultArtifactId = none) {w w' : World Store}
    (hw : (oneRun D runId st₀).Steps (awaitsMeet completesOncePublished) { store := st₀ } w)
    (hw' : (oneRun D runId st₀).Steps (awaitsMeet completesOncePublished) w w') {run : RunView}
    (hrun : w'.store.runs.get? runId = some run)
    (hend : run.lifecycleState = .canceled ∨ run.lifecycleState = .failed) :
    Withheld st₀ w.store := by
  have hreach : (oneRun D runId st₀).Reach (awaitsMeet completesOncePublished) w := ⟨_, rfl, hw⟩
  have hok := oneRun_outcomeOk hD hst₀ hrun₀ hnew hreach
  obtain ⟨run₁, hrun₁⟩ := Option.isSome_iff_exists.1 hok.stored
  cases hset : run₁.resultArtifactId with
  | none => exact hok.withheld run₁ hrun₁ hset
  | some id =>
    -- a Run with a result is running or completed in the end
    obtain ⟨run₂, hrun₂, hset₂⟩ := oneRun_result_set hD hst₀ hreach hw' hrun₁ (by rw [hset]; rfl)
    rw [hrun] at hrun₂
    cases hrun₂
    have := (oneRun_outcomeOk hD hst₀ hrun₀ hnew (hreach.steps hw')).published run hrun hset₂
    obtain h | h := hend <;> simp [h] at this

/-! ## A cancellation between publication and completion -/

namespace Halfway

open Play

def runId : String := "run_2"

def planned : RunCreation :=
  { tripId := "trip_1", command := plan.command, idempotencyKey := "key", requestHash := "hash"
    traceId := "trace" }

/-- A Trip with one new Run. -/
def store₀ : Store :=
  StoreCall.next ⟨env 2, .createRun owner planned⟩
    (StoreCall.next ⟨env 1, .createTrip owner { title := "Kyoto" }⟩ {})

theorem store₀_logOk : LogOk store₀.log := by
  refine @memoryStore_logOk anyStep _ ?_
  exact .step (l := ⟨env 2, .createRun owner planned⟩)
    (.step (l := ⟨env 1, .createTrip owner { title := "Kyoto" }⟩) (.init rfl) trivial rfl) trivial rfl

/-- The Run is executed up to the publication of its snapshot. -/
def executed : List Move :=
  [.call (.execute 0 runId owner none), .run 0 (env 3), .run 0 (env 4), .run 0 (env 5),
    .run 0 (env 6), .run 0 (env 7), .run 0 (env 8), .run 0 (env 9)]

/-- It is canceled before the publication. -/
def canceled : List Move := executed ++
  [.call (.cancel 0 owner runId 2), .run 1 (env 10), .run 1 (env 11), .run 1 (env 12),
    .run 1 (env 13), .run 1 (env 14), .run 1 (env 15), .run 1 (env 16)]

/-- It is canceled after the publication. -/
def halfway : List Move := executed ++
  [.run 0 (env 10), .call (.cancel 0 owner runId 3), .run 1 (env 11), .run 1 (env 12),
    .run 1 (env 13), .run 1 (env 14), .run 1 (env 15), .run 1 (env 16), .run 1 (env 17)]

/-- The move is one of executions and cancellations of the Run. -/
def isOneRuns : Move → Bool
  | .call (.execute _ r _ _) | .call (.cancel _ _ r _) => r == runId
  | .call _ => false
  | .store _ op => op.isLeases
  | _ => true

theorem clients_of_isOneRuns {m : Move} {l : RtLabel Env} (h : isOneRuns m = true)
    (hl : m.Labels l) : oneRunClients runId l := by
  cases hl with
  | call c =>
    cases c with
    | execute | cancel => exact eq_of_beq h
    | _ => cases h
  | store env op r => exact h
  | _ => trivial

/-- No transition goes to a Run that has a result. -/
def isBeforeResult (w : World Store) : Move → Bool
  | .run i _ => (w.tasks[i]?).all fun t => match t.prog with
    | .await (.store (.mutateRun _ k _)) _ =>
      (w.store.runs.get? k).all (·.resultArtifactId.isNone)
    | _ => true
  | _ => true

theorem awaitsMeet_of_isBeforeResult {w : World Store} {m : Move} {l : RtLabel Env}
    (h : isBeforeResult w m = true) (hl : m.Labels l) : awaitsMeet completesOncePublished w l := by
  cases hl with
  | run i env =>
    intro t o k ht hprog
    cases o with
    | mutateRun p r m =>
      intro run hrun hsome
      have h' : (w.tasks[i]?).all (fun t => match t.prog with
        | .await (.store (.mutateRun _ k _)) _ =>
          (w.store.runs.get? k).all (·.resultArtifactId.isNone)
        | _ => true) = true := h
      simp only [ht, Option.all_some, hprog, hrun, Option.isNone_iff_eq_none] at h'
      rw [h'] at hsome; cases hsome
    | _ => trivial
  | _ => trivial

/-- The world in which the Run is canceled before it publishes. -/
def canceledWorld : World Store :=
  (World.plays (deployment snapshot) (fun w m => isOneRuns m && isBeforeResult w m)
    { store := store₀ } canceled).get (by decide)

/-- The world in which the Run is canceled after it has published. -/
def halfwayWorld : World Store :=
  (World.plays (deployment snapshot) (fun _ m => isOneRuns m) { store := store₀ } halfway).get
    (by decide)

theorem canceledWorld_steps : (oneRun (deployment snapshot) runId store₀).Steps
    (awaitsMeet completesOncePublished) { store := store₀ } canceledWorld := by
  refine steps_plays (fun w m l hm hl => ?_) (Option.some_get _).symm
  rw [Bool.and_eq_true] at hm
  exact ⟨clients_of_isOneRuns hm.1 hl, awaitsMeet_of_isBeforeResult hm.2 hl⟩

theorem halfwayWorld_steps : (oneRun (deployment snapshot) runId store₀).Steps anyStep
    { store := store₀ } halfwayWorld :=
  steps_plays (fun _ _ _ hm hl => ⟨clients_of_isOneRuns hm hl, trivial⟩) (Option.some_get _).symm

theorem snapshot_unpublished : (deployment snapshot).Unpublished :=
  fun _ _ _ a ha => by cases ha

end Halfway

/-- A Run that is canceled before it publishes has published nothing. -/
theorem settled_run_published_nothing_canceled :
    (Halfway.canceledWorld.store.runs.get? Halfway.runId).map (·.lifecycleState) = some .canceled ∧
      Withheld Halfway.store₀ Halfway.canceledWorld.store := by
  have hstate : (Halfway.canceledWorld.store.runs.get? Halfway.runId).map (·.lifecycleState) =
      some .canceled := by decide
  obtain ⟨run, hrun, hl⟩ := Option.map_eq_some_iff.1 hstate
  have hnew : (Halfway.store₀.runs.get? Halfway.runId).map (·.resultArtifactId) = some none := by
    decide
  obtain ⟨run₀, hrun₀, hnone⟩ := Option.map_eq_some_iff.1 hnew
  exact ⟨hstate, settled_run_published_nothing Halfway.snapshot_unpublished Halfway.store₀_logOk
    hrun₀ hnone Halfway.canceledWorld_steps .refl hrun (.inl hl)⟩

/-- Without the condition a canceled Run may have published: it was canceled between the
    publication of its snapshot and its completion. -/
theorem canceled_run_has_published : ¬ ∀ (D : Deployment), D.Unpublished → ∀ (runId : String)
    (st₀ : Store), LogOk st₀.log → ∀ run₀, st₀.runs.get? runId = some run₀ →
      run₀.resultArtifactId = none → ∀ w w' : World Store,
      (oneRun D runId st₀).Steps anyStep { store := st₀ } w → (oneRun D runId st₀).Steps anyStep w w' →
      ∀ run, w'.store.runs.get? runId = some run →
        (run.lifecycleState = .canceled ∨ run.lifecycleState = .failed) → Withheld st₀ w.store := by
  intro h
  have hstate : (Halfway.halfwayWorld.store.runs.get? Halfway.runId).map (·.lifecycleState) =
      some .canceled := by decide
  obtain ⟨run, hrun, hl⟩ := Option.map_eq_some_iff.1 hstate
  have hnew : (Halfway.store₀.runs.get? Halfway.runId).map (·.resultArtifactId) = some none := by
    decide
  obtain ⟨run₀, hrun₀, hnone⟩ := Option.map_eq_some_iff.1 hnew
  have hw := h _ Halfway.snapshot_unpublished _ _ Halfway.store₀_logOk run₀ hrun₀ hnone _ _
    Halfway.halfwayWorld_steps .refl run hrun (.inl hl)
  -- the Trip points to the snapshot of the canceled Run
  have hpoints : (Halfway.halfwayWorld.store.trips.get? "trip_1").map (·.currentArtifactId) =
      some (some "artifact_8") := by decide
  rw [hw.trips] at hpoints
  revert hpoints
  decide

end RoutePilot
