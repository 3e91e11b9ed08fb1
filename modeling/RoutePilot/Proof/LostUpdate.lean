/-
  Planning Runs publish on their base, as long as no other publication comes
  between.

  The base of a Run is compared with the current snapshot of its Trip when the
  Run is created, and never again: a publication moves the pointer of the Trip
  whatever it is.  So the result holds for every Run between whose creation and
  publication no snapshot of its Trip is published; the rest of the run is
  arbitrary.
-/
import RoutePilot.Proof.Outcome

namespace RoutePilot

open Lib Lts

section
variable {σ ε : Type} {B : Backend σ ε} {R : RunBackend B}

/-- Clients of the coordinators; every task may be canceled, Trips are opened, and leases are
    claimed, renewed and released. -/
def planningClients : RtLabel ε → Prop
  | .call call => call.isCoordinators
  | .store l => l.op.isPlannings = true
  | _ => True

/-- Coordinators over an empty store. -/
def planning (B : Backend σ ε) (D : Deployment) : Lts (World σ) (RtLabel ε) :=
  runtimeSystem B D (fun w => w = { store := B.init }) planningClients

/-- The step publishes the snapshot of the Run: a transition with that result is applied to it. -/
def Publishes (R : RunBackend B) (runId : String) (w : World σ) (l : RtLabel ε) (w' : World σ) : Prop :=
  ∃ i env t p m k a, l = .run i env ∧ w.tasks[i]? = some t ∧
    t.prog = .await (.store (.mutateRun p runId m)) k ∧ m.resultArtifact = some a ∧
    a.artifactType = "TripSnapshot" ∧ R.log w'.store runId ≠ R.log w.store runId

/-- The step publishes no snapshot of the Trip. -/
def Quiet (R : RunBackend B) (tripId : String) (w : World σ) (l : RtLabel ε) (w' : World σ) : Prop :=
  ∀ runId run events, R.log w.store runId = some (run, events) → run.tripId = tripId →
    ¬ Publishes R runId w l w'

/-- A re-planning Run is based on the current snapshot of its Trip; before a planning Run, the Trip
    has no published snapshot. -/
structure PlanningBackend.OnBase (P : PlanningBackend R) (run : RunView) (s : σ) : Prop where
  replan : run.command.type = .tripReplan → ∃ trip a, P.trips s run.tripId = some trip ∧
    trip.current (P.artifacts s) = some a ∧ a.isPublishedSnapshot = true ∧
    run.baseArtifactId = some a.artifactId ∧ run.baseArtifactVersion = some a.version
  plan : run.command.type = .tripPlan → ∀ id v a, P.artifacts s id v = some a →
    a.tripId = run.tripId → a.isPublishedSnapshot = false

/-- The creation of a Run, the steps that follow, and the publication of its snapshot. -/
structure PublishedRun (R : RunBackend B) (D : Deployment)
    (between : String → World σ → RtLabel ε → World σ → Prop) (runId : String) (run : RunView)
    (w : World σ) : Prop where
  history : ∃ w₁ l₁ w₂ events, (planning B D).Reach anyStep w₁ ∧ (planning B D).step w₁ l₁ w₂ ∧
    R.log w₁.store runId = none ∧ R.log w₂.store runId = some (run, events) ∧
    ((planning B D).restrict (between run.tripId)).Steps anyStep w₂ w
  publication : ∃ l w', (planning B D).step w l w' ∧ Publishes R runId w l w'

/-! ## The discipline of planning Runs -/

def PlanningBackend.discipline (P : PlanningBackend R) : Discipline R where
  Edge _ _ := True
  Keep := P.Keep
  Made := P.Made
  Creates c := c.status ≠ .published
  Submits := True
  Executes _ := True
  Starts _ _ _ := True
  asks _ _ _ _ := True
  edge _ _ _ := trivial
  keep_refl := P.keep_refl
  keep_trans := P.keep_trans
  keep env o s r s' _ hfresh hx ho := P.keep env o s r s' hfresh hx (.inl ho)
  made env p c s a s' _ hx := P.made env p c s a s' hx
  made_keep := P.made_keep
  executes _ _ := trivial
  starts_create _ _ _ _ _ _ _ _ _ _ _ := trivial
  starts_resume _ _ _ _ _ _ _ _ _ _ _ := trivial
  cancel_edge _ _ _ _ _ _ _ _ _ _ _ _ _ _ _ _ _ _ := trivial

variable {P : PlanningBackend R} {D : Deployment}

theorem planning_sound (P : PlanningBackend R) (hD : D.Unpublished) :
    PoolSound P.discipline.pool B D P.discipline.asks planningClients := by
  refine P.discipline.sound ?_ ?_ ?_
  · intro c run p
    refine (hD c run p).mono fun r hr tripId lease => ⟨?_, fun a ha => hr a ha⟩
    exact fun h : ArtifactStatus.candidate = .published => nomatch h
  · intro call s hc
    cases call with
    | submit | resume | cancel | forget => trivial
    | execute => exact ⟨trivial, trivial⟩
    | _ => cases hc
  · intro l s s' hc hok hfresh hx
    exact ⟨(R.change _ _ _ _ _ hok hfresh hx).log_eq (StoreOp.writesLog_of_isPlannings hc),
      P.keep _ _ _ _ _ hfresh hx (.inr hc)⟩

/-- What planning Runs keep: every task follows the discipline, over a store that keeps the
    publication invariant. -/
structure PlanningOk (P : PlanningBackend R) (w : World σ) : Prop where
  pool : PoolOk P.discipline.pool w
  store : P.Ok w.store

theorem Discipline.Writes.planning {call : Call} {s : σ} {o : StoreOp}
    (h : P.discipline.Writes call s o) :
    o.IsCoordinators ∧ PlanningWrites (R.log s) (fun p k a => P.Made p k a s) o := by
  cases o with
  | mutateRun p runId m =>
    exact ⟨trivial, fun a ha run events hL => ((h.2 a ha).2.2.2 run events hL).1⟩
  | createArtifact => exact ⟨trivial, h⟩
  | createRun | resumeRun | getRun | getArtifact => exact ⟨trivial, trivial⟩
  | _ => exact h.elim

/-- What one step does to Runs, Artifacts and Trips. -/
structure PlanningStep (P : PlanningBackend R) (w : World σ) (l : RtLabel ε) (w' : World σ) : Prop where
  ok : PlanningOk P w'
  advance : (R.log w.store).Advance (R.log w'.store)
  keep : P.Keep w.store w'.store
  trips : ∀ k t, P.trips w.store k = some t → ∃ t', P.trips w'.store k = some t' ∧
    (t'.pointer = t.pointer ∨ ∃ runId run events, R.log w.store runId = some (run, events) ∧
      run.tripId = k ∧ Publishes R runId w l w')

/-- A transition that is applied changes the Run. -/
theorem LogChange.mutateRun_ne {L L' : RunLog} {p : Principal} {runId : String} {m : RunMutation}
    {x : RunView × RunEvent} (h : LogChange L L' (.mutateRun p runId m) (.ok x)) :
    L' runId ≠ L runId := by
  obtain ⟨run, events, e, hL, -, -, hL'⟩ := h.mutateRun
  rw [hL', hL, Function.update_self]
  intro he
  have := congrArg Prod.snd (Option.some.inj he)
  simp at this

/-- **Step lemma.** -/
theorem planning_step (hD : D.Unpublished) {w w' : World σ} {l : RtLabel ε} (h : PlanningOk P w)
    (hs : (planning B D).step w l w') : PlanningStep P w l w' := by
  have hA : awaitsMeet P.discipline.asks w l := by
    cases l with
    | run => exact fun _ _ _ _ _ => trivial
    | _ => trivial
  obtain ⟨hpool, hmove⟩ := (planning_sound P hD).step h.pool hA hs.1 hs.2
  cases hmove with
  | still hst =>
    refine ⟨⟨hpool, hst ▸ h.store⟩, ?_, ?_, fun k t ht => ⟨t, hst ▸ ht, .inl rfl⟩⟩
    · rw [hst]; exact .refl _
    · rw [hst]; exact P.keep_refl _
  | @own i env t o k r hok hok' ht hprog hx hguar =>
    obtain ⟨t₀, o₀, k₀, r₀, w₁, ht₀, hprog₀, -, hcomp, -⟩ := hs.2
    rw [ht] at ht₀
    cases ht₀
    rw [hprog] at hprog₀
    cases hprog₀
    have hfresh : B.fresh env w.store := hcomp.1
    obtain ⟨ho, hw⟩ := hguar.writes.planning
    obtain ⟨hst', hre⟩ := P.step env o _ r _ h.store hfresh hx (.inl ho) hw
    refine ⟨⟨hpool, hst'⟩, hguar.advance, hguar.keep, fun j u hu => ?_⟩
    obtain ⟨u', hu', hp | hp⟩ := hre j u hu
    · exact ⟨u', hu', .inl hp⟩
    · refine ⟨u', hu', .inr ?_⟩
      have hchange := R.change env o _ r _ hok hfresh hx
      cases o with
      | mutateRun p runId m =>
        cases r with
        | error e => exact hp.elim
        | ok x =>
          obtain ⟨a, run, events, ha, hty, hL, hk⟩ := hp
          exact ⟨runId, run, events, hL, hk, i, env, t, p, m, k, a, rfl, ht, hprog, ha, hty,
            hchange.mutateRun_ne⟩
      | _ => exact hp.elim
  | @other l hok hok' hrely =>
    obtain ⟨hfresh, hx, -⟩ := hs.2
    have hc : l.op.isPlannings = true := hs.1
    have hw : PlanningWrites (R.log w.store) (fun p k a => P.Made p k a w.store) l.op := by
      revert hc
      cases l.op with
      | createArtifact | mutateRun => intro hc; cases hc
      | _ => exact fun _ => trivial
    obtain ⟨hst', hre⟩ := P.step _ _ _ _ _ h.store hfresh hx (.inr hc) hw
    have hr := hrely (.forget 0 "")
    refine ⟨⟨hpool, hst'⟩, hr.1, hr.2, fun j u hu => ?_⟩
    obtain ⟨u', hu', hp | hp⟩ := hre j u hu
    · exact ⟨u', hu', .inl hp⟩
    · obtain ⟨env, o, r⟩ := l
      cases o with
      | mutateRun => cases hc
      | _ => exact hp.elim

/-- **Run lemma.** -/
theorem planning_ok (hD : D.Unpublished) {w : World σ} (h : (planning B D).Reach anyStep w) :
    PlanningOk P w := by
  refine h.invariant (I := PlanningOk P) ?_ fun w l w' _ hok _ hs => (planning_step hD hok hs).ok
  rintro w rfl
  exact ⟨⟨P.init.1, by simp⟩, P.init.2⟩

/-! ## From creation to publication -/

/-- The store in which a Run was created: its command was compared with the Trip. -/
structure CreatedOn (P : PlanningBackend R) (run : RunView) (s : σ) (trip : TripView) : Prop where
  stored : P.trips s run.tripId = some trip
  base : ∃ c : RunCreation, checkPlanningBase c trip (trip.current (P.artifacts s)) = .ok () ∧
    run.command = c.command ∧ run.baseArtifactId = c.baseArtifactId ∧
    run.baseArtifactVersion = c.baseArtifactVersion

/-- A Run comes into being by its creation. -/
theorem planning_created (hD : D.Unpublished) {w w' : World σ} {l : RtLabel ε} (h : PlanningOk P w)
    (hs : (planning B D).step w l w') {runId : String} {run : RunView} {events : List RunEvent}
    (hnone : R.log w.store runId = none) (hsome : R.log w'.store runId = some (run, events)) :
    ∃ trip, CreatedOn P run w.store trip ∧ run.runId = runId ∧
      ∃ t', P.trips w'.store run.tripId = some t' ∧ t'.pointer = trip.pointer := by
  have hA : awaitsMeet P.discipline.asks w l := by
    cases l with
    | run => exact fun _ _ _ _ _ => trivial
    | _ => trivial
  have hsame : R.log w'.store = R.log w.store → False := fun he => by
    rw [he, hnone] at hsome; cases hsome
  have hupdate : ∀ {k y}, (∃ z, R.log w.store k = some z) →
      R.log w'.store = Function.update (R.log w.store) k (some y) → False := by
    rintro k y ⟨z, hz⟩ he
    have hk : runId ≠ k := by
      rintro rfl
      rw [hnone] at hz; cases hz
    rw [he, Function.update_of_ne hk, hnone] at hsome; cases hsome
  obtain ⟨-, hmove⟩ := (planning_sound P hD).step h.pool hA hs.1 hs.2
  cases hmove with
  | still hst => exact (hsame (by rw [hst])).elim
  | @other l hok hok' hrely =>
    obtain ⟨hfresh, hx, -⟩ := hs.2
    exact (hsame ((R.change _ _ _ _ _ hok hfresh hx).log_eq
      (StoreOp.writesLog_of_isPlannings hs.1))).elim
  | @own i env t o k r hok hok' ht hprog hx hguar =>
    obtain ⟨t₀, o₀, k₀, r₀, w₁, ht₀, hprog₀, -, hcomp, -⟩ := hs.2
    rw [ht] at ht₀
    cases ht₀
    rw [hprog] at hprog₀
    cases hprog₀
    have hfresh : B.fresh env w.store := hcomp.1
    have hchange := R.change env o _ r _ hok hfresh hx
    by_cases hwl : o.writesLog = false
    · exact (hsame (hchange.log_eq hwl)).elim
    cases r with
    | error e => exact (hsame hchange.error).elim
    | ok x =>
      cases o with
      | createRun p c =>
        obtain ⟨-, he⟩ | ⟨hnew, -, -, e, he⟩ := hchange.createRun
        · exact (hsame he).elim
        · obtain ⟨trip, env', htrip, hbase, hrun⟩ := P.base env p c _ x _ h.store hx hnew
          obtain rfl : runId = x.run.runId := by
            by_contra hne
            rw [he, Function.update_of_ne hne, hnone] at hsome; cases hsome
          rw [he, Function.update_self] at hsome
          cases hsome
          obtain ⟨-, hre⟩ := P.step _ _ _ _ _ h.store hfresh hx (.inl trivial) trivial
          obtain ⟨t', ht', hp | hp⟩ := hre _ trip htrip
          · exact ⟨trip, ⟨htrip, c, hbase, by rw [hrun]; exact ⟨rfl, rfl, rfl⟩⟩, rfl, t', ht', hp⟩
          · exact hp.elim
      | mutateRun =>
        obtain ⟨run₁, events₁, e, hL, -, -, he⟩ := hchange.mutateRun
        exact (hupdate ⟨_, hL⟩ he).elim
      | resumeRun =>
        obtain ⟨-, he⟩ | ⟨-, run₁, events₁, e, hL, -, -, he⟩ := hchange.resumeRun
        · exact (hsame he).elim
        · exact (hupdate ⟨_, hL⟩ he).elim
      | _ => exact absurd rfl hwl

/-- Along a run without publications the Trip keeps its pointer. -/
theorem quiet_pointer (hD : D.Unpublished) {tripId : String} {w w' : World σ} (h : PlanningOk P w)
    (hs : ((planning B D).restrict (Quiet R tripId)).Steps anyStep w w') {t : TripView}
    (ht : P.trips w.store tripId = some t) :
    PlanningOk P w' ∧ P.Keep w.store w'.store ∧
      ∃ t', P.trips w'.store tripId = some t' ∧ t'.pointer = t.pointer := by
  induction hs with
  | refl => exact ⟨h, P.keep_refl _, t, ht, rfl⟩
  | tail _ hstep ih =>
    obtain ⟨l, -, hs, hquiet⟩ := hstep
    obtain ⟨hok, hkeep, t₁, ht₁, hp₁⟩ := ih
    have hst := planning_step hD hok hs
    obtain ⟨t₂, ht₂, hp₂ | ⟨runId, run, events, hL, hk, hpub⟩⟩ := hst.trips _ t₁ ht₁
    · exact ⟨hst.ok, P.keep_trans _ _ _ hkeep hst.keep, t₂, ht₂, hp₂.trans hp₁⟩
    · exact absurd hpub (hquiet runId run events hL hk)

theorem TripView.current_eq_some {t : TripView} {A : ArtifactTable} {a : ArtifactView} :
    t.current A = some a ↔ ∃ id v, t.PointsTo id v ∧ A id v = some a := by
  simp [TripView.current, TripView.PointsTo, Option.bind_eq_some_iff, and_assoc]

theorem TripView.pointsTo_congr {t t' : TripView} (h : t'.pointer = t.pointer) {id : String} {v : ℕ} :
    t'.PointsTo id v ↔ t.PointsTo id v := by
  have h₁ : t'.currentArtifactId = t.currentArtifactId := congrArg Prod.fst h
  have h₂ : t'.currentArtifactVersion = t.currentArtifactVersion := congrArg Prod.snd h
  rw [TripView.PointsTo, TripView.PointsTo, h₁, h₂]

/-- A version that a Trip points to before and after is the same snapshot. -/
theorem current_kept {s s' : σ} (hok : P.Ok s) (hok' : P.Ok s') (hkeep : P.Keep s s') {k : String}
    {t t' : TripView} (ht : P.trips s k = some t) (ht' : P.trips s' k = some t')
    (hp : t'.pointer = t.pointer) {id : String} {v : ℕ} (hpt : t.PointsTo id v) :
    ∃ a a', P.artifacts s id v = some a ∧ P.artifacts s' id v = some a' ∧
      a.status = .published ∧ a'.status = .published ∧ a'.artifactType = a.artifactType := by
  obtain ⟨v₁, a, hv₁, ha, -, hpub⟩ := (P.pub s hok).target k t id ht hpt.1
  obtain ⟨h₁, h₂⟩ := (TripView.pointsTo_congr hp).2 hpt
  obtain ⟨v₂, a', hv₂, ha', -, hpub'⟩ := (P.pub s' hok').target k t' id ht' h₁
  rw [hpt.2] at hv₁
  cases hv₁
  rw [h₂] at hv₂
  cases hv₂
  exact ⟨a, a', ha, ha', hpub, hpub', P.types s s' id v a a' hkeep ha ha'⟩

theorem isPublishedSnapshot_iff {a : ArtifactView} :
    a.isPublishedSnapshot = true ↔ a.artifactType = "TripSnapshot" ∧ a.status = .published := by
  simp [ArtifactView.isPublishedSnapshot]

/-- A Run whose Trip has kept its pointer since it was created is on its base. -/
theorem CreatedOn.onBase {run : RunView} {s s' : σ} {trip trip' : TripView}
    (h : CreatedOn P run s trip) (hok : P.Ok s) (hok' : P.Ok s') (hkeep : P.Keep s s')
    (ht' : P.trips s' run.tripId = some trip') (hp : trip'.pointer = trip.pointer) :
    P.OnBase run s' := by
  obtain ⟨ht, c, hbase, hcommand, hid, hversion⟩ := h
  unfold checkPlanningBase at hbase
  refine ⟨fun htype => ?_, fun htype id v b hb hk => ?_⟩
  · rw [hcommand] at htype
    rw [htype] at hbase
    simp only at hbase
    split at hbase
    · next a ha =>
      split at hbase
      · next hcond =>
        obtain ⟨hsnap, hbid, hbv⟩ := hcond
        obtain ⟨id, v, hpt, ha⟩ := TripView.current_eq_some.1 ha
        obtain ⟨a₁, a', ha₁, ha', -, hpub', hty⟩ := current_kept hok hok' hkeep ht ht' hp hpt
        rw [ha] at ha₁
        cases ha₁
        obtain ⟨k₁, k₂⟩ := (P.pub s hok).key _ _ _ ha
        obtain ⟨k₁', k₂'⟩ := (P.pub s' hok').key _ _ _ ha'
        refine ⟨trip', a', ht', TripView.current_eq_some.2
          ⟨id, v, (TripView.pointsTo_congr hp).2 hpt, ha'⟩, isPublishedSnapshot_iff.2 ⟨?_, hpub'⟩, ?_, ?_⟩
        · exact hty.trans (isPublishedSnapshot_iff.1 hsnap).1
        · rw [hid, hbid, k₁, k₁']
        · rw [hversion, hbv, k₂, k₂']
      · cases hbase
    · cases hbase
  · rw [hcommand] at htype
    rw [htype] at hbase
    by_contra hsnap
    rw [Bool.not_eq_false] at hsnap
    obtain ⟨hty, hpub⟩ := isPublishedSnapshot_iff.1 hsnap
    -- a published snapshot is the one the Trip points to, now and then
    have hpt' := (P.pub s' hok').only _ trip' id v b ht' hb hk hty hpub
    have hpt := (TripView.pointsTo_congr hp).1 hpt'
    obtain ⟨a, b', ha, hb', hpub₁, -, hty'⟩ := current_kept hok hok' hkeep ht ht' hp hpt
    rw [hb] at hb'
    cases hb'
    have hcur : trip.current (P.artifacts s) = some a :=
      TripView.current_eq_some.2 ⟨id, v, hpt, ha⟩
    have hsnap₁ : a.isPublishedSnapshot = true :=
      isPublishedSnapshot_iff.2 ⟨hty'.symm.trans hty, hpub₁⟩
    simp [hcur, hsnap₁] at hbase

theorem PublishedRun.onBase (hD : D.Unpublished) {runId : String} {run : RunView} {w : World σ}
    (h : PublishedRun R D (Quiet R) runId run w) : P.OnBase run w.store := by
  obtain ⟨w₁, l₁, w₂, events, hw₁, hs, hnone, hsome, hsteps⟩ := h.history
  have hok₁ : PlanningOk P w₁ := planning_ok hD hw₁
  obtain ⟨trip, hcreated, -, t₂, ht₂, hp₂⟩ := planning_created hD hok₁ hs hnone hsome
  have hst := planning_step hD hok₁ hs
  obtain ⟨hok, hkeep, t, ht, hp⟩ := quiet_pointer hD hst.ok hsteps ht₂
  exact hcreated.onBase hok₁.store hok.store (P.keep_trans _ _ _ hst.keep hkeep) ht (hp.trans hp₂)

end

/-- **No lost update between planning Runs**, in either store: if no snapshot of the Trip is
    published between the creation of a Run and the publication of its own snapshot, then the Trip
    points to the base of the Run right before (re-planning), or has no published snapshot
    (planning). -/
theorem planning_runs_publish_on_base {D : Deployment} (hD : D.Unpublished) (runId : String)
    (run : RunView) :
    (∀ w, PublishedRun memoryRuns D (Quiet memoryRuns) runId run w →
      memoryPlanning.OnBase run w.store) ∧
    ∀ w, PublishedRun postgresRuns D (Quiet postgresRuns) runId run w →
      postgresPlanning.OnBase run w.store :=
  ⟨fun _ h => h.onBase hD, fun _ h => h.onBase hD⟩

/-! ## Two Runs on one base -/

namespace TwoPlans

open Play

/-- A Trip is opened, and a Run is about to be created by task 0. -/
def opened : List Move :=
  [.store (env 1) (.createTrip owner { title := "Kyoto" }),
    .call (.submit 0 owner "trip_1" plan "key" "trace"), .run 0 (env 2)]

/-- The Run is executed up to its publication. -/
def executed : List Move :=
  [.run 0 (env 4), .run 1 (env 5), .run 1 (env 6), .run 1 (env 7), .run 1 (env 8), .run 1 (env 9),
    .run 1 (env 10), .run 1 (env 11)]

/-- Meanwhile another Run is created on the same base, and publishes first. -/
def overtaken : List Move :=
  [.call (.submit 0 owner "trip_1" plan "other" "trace"), .run 2 (env 12), .run 2 (env 13),
    .run 2 (env 14), .run 3 (env 15), .run 3 (env 16), .run 3 (env 17), .run 3 (env 18), .run 3 (env 19),
    .run 3 (env 20), .run 3 (env 21), .run 3 (env 22)]

/-- The move is one of clients of the coordinators. -/
def isPlannings : Move → Bool
  | .call call => call.isCoordinators
  | .store _ op => op.isPlannings
  | _ => true

theorem clients_of_isPlannings {m : Move} {l : RtLabel Env} (h : isPlannings m = true)
    (hl : m.Labels l) : planningClients l := by
  cases hl with
  | call c => exact h
  | store env op r => exact h
  | _ => trivial

/-- The task that moves does not publish. -/
def isUnpublished (w : World Store) : Move → Bool
  | .run i _ => (w.tasks[i]?).all fun t => match t.prog with
    | .await (.store (.mutateRun _ _ m)) _ => m.resultArtifact.isNone
    | _ => true
  | _ => true

/-- A task that does not publish is awaited. -/
def WithoutResult (w : World Store) (l : RtLabel Env) : Prop :=
  ∀ i env t p runId m k, l = .run i env → w.tasks[i]? = some t →
    t.prog = .await (.store (.mutateRun p runId m)) k → m.resultArtifact = none

theorem withoutResult_of_isUnpublished {w : World Store} {m : Move} {l : RtLabel Env}
    (h : isUnpublished w m = true) (hl : m.Labels l) : WithoutResult w l := by
  intro i env t p runId m' k hrun ht hprog
  cases hl with
  | run i' env' =>
    cases hrun
    have h' : (w.tasks[i]?).all (fun t => match t.prog with
      | .await (.store (.mutateRun _ _ m)) _ => m.resultArtifact.isNone
      | _ => true) = true := h
    simpa only [ht, Option.all_some, hprog, Option.isNone_iff_eq_none] using h'
  | _ => cases hrun

theorem quiet_of_withoutResult {tripId : String} {w w' : World Store} {l : RtLabel Env}
    (h : WithoutResult w l) : Quiet memoryRuns tripId w l w' := by
  rintro runId run events - - ⟨i, env, t, p, m, k, a, hl, ht, hprog, ha, -⟩
  rw [h i env t p runId m k hl ht hprog] at ha
  cases ha

def D : Deployment := deployment snapshot

theorem unpublished : D.Unpublished := fun _ _ _ a ha => by cases ha

/-- The worlds before and after the creation, before the publication, and before the publication
    that is overtaken. -/
def openedWorld : World Store :=
  (World.plays D (fun _ m => isPlannings m) { store := {} } opened).get (by decide)

def createdWorld : World Store :=
  (openedWorld.plays D (fun _ m => isPlannings m) [.run 0 (env 3)]).get (by decide)

def executedWorld : World Store :=
  (createdWorld.plays D (fun w m => isPlannings m && isUnpublished w m) executed).get (by decide)

def overtakenWorld : World Store :=
  (executedWorld.plays D (fun _ m => isPlannings m) overtaken).get (by decide)

def run : RunView := (createdWorld.store.runs.get? "run_3").get (by decide)

theorem created : (planning memoryBackend D).step openedWorld (.run 0 (env 3)) createdWorld := by
  refine ⟨trivial, World.playRun_step ?_⟩
  exact (Option.some_get _).symm

theorem opened_reachable : (planning memoryBackend D).Reach anyStep openedWorld :=
  ⟨_, rfl, steps_plays (fun _ _ _ hm hl => ⟨clients_of_isPlannings hm hl, trivial⟩)
    (Option.some_get _).symm⟩

theorem executed_steps : ((planning memoryBackend D).restrict (Quiet memoryRuns run.tripId)).Steps
    anyStep createdWorld executedWorld := by
  have h : (planning memoryBackend D).Steps WithoutResult createdWorld executedWorld := by
    refine steps_plays (fun w m l hm hl => ?_) (Option.some_get _).symm
    rw [Bool.and_eq_true] at hm
    exact ⟨clients_of_isPlannings hm.1 hl, withoutResult_of_isUnpublished hm.2 hl⟩
  refine Relation.ReflTransGen.mono ?_ _ _ h
  rintro w w' ⟨l, hl, hs⟩
  exact ⟨l, trivial, hs, quiet_of_withoutResult hl⟩

theorem overtaken_steps : ((planning memoryBackend D).restrict fun _ _ _ => True).Steps anyStep
    createdWorld overtakenWorld := by
  have h₁ : (planning memoryBackend D).Steps anyStep executedWorld overtakenWorld :=
    steps_plays (fun _ _ _ hm hl => ⟨clients_of_isPlannings hm hl, trivial⟩) (Option.some_get _).symm
  have h : ((planning memoryBackend D).restrict fun _ _ _ => True).Steps anyStep createdWorld
      executedWorld := by
    refine Relation.ReflTransGen.mono ?_ _ _ executed_steps
    rintro w w' ⟨l, -, hs, -⟩
    exact ⟨l, trivial, hs, trivial⟩
  refine h.trans (Relation.ReflTransGen.mono ?_ _ _ h₁)
  rintro w w' ⟨l, -, hs⟩
  exact ⟨l, trivial, hs, trivial⟩

theorem history {between : String → World Store → RtLabel Env → World Store → Prop} {w : World Store}
    (h : ((planning memoryBackend D).restrict (between run.tripId)).Steps anyStep createdWorld w) :
    ∃ w₁ l₁ w₂ events, (planning memoryBackend D).Reach anyStep w₁ ∧
      (planning memoryBackend D).step w₁ l₁ w₂ ∧ memoryRuns.log w₁.store "run_3" = none ∧
      memoryRuns.log w₂.store "run_3" = some (run, events) ∧
      ((planning memoryBackend D).restrict (between run.tripId)).Steps anyStep w₂ w := by
  have hlog : createdWorld.store.log "run_3" =
      some (run, createdWorld.store.events.getD "run_3" []) :=
    Store.log_eq_some.2 ⟨(Option.some_get _).symm, rfl⟩
  exact ⟨openedWorld, _, createdWorld, _, opened_reachable, created, by rfl, hlog, h⟩

/-- Task 1 publishes its snapshot. -/
theorem publishes {w w' : World Store} (h : w.playRun D 1 (env 23) = some w')
    (hprog : (w.tasks[1]?).any (fun t => match t.prog with
      | .await (.store (.mutateRun _ k m)) _ =>
        k == "run_3" && m.resultArtifact.any (·.artifactType == "TripSnapshot")
      | _ => false) = true)
    (hlog : (w'.store.runs.get? "run_3").map (·.controlVersion) ≠
      (w.store.runs.get? "run_3").map (·.controlVersion)) :
    ∃ l w', (planning memoryBackend D).step w l w' ∧ Publishes memoryRuns "run_3" w l w' := by
  refine ⟨.run 1 (env 23), w', ⟨trivial, World.playRun_step h⟩, ?_⟩
  obtain ⟨t, ht, hprog⟩ := (Option.any_eq_true _ _).1 hprog
  split at hprog
  · next p k m kont hp =>
    rw [Bool.and_eq_true, beq_iff_eq] at hprog
    obtain ⟨rfl, hm⟩ := hprog
    obtain ⟨a, ha, hty⟩ := (Option.any_eq_true _ _).1 hm
    refine ⟨1, env 23, t, p, m, kont, a, rfl, ht, hp, ha, eq_of_beq hty, fun he => hlog ?_⟩
    have he' : w'.store.log "run_3" = w.store.log "run_3" := he
    simp only [Store.log] at he'
    cases h₁ : w'.store.runs.get? "run_3" <;> cases h₂ : w.store.runs.get? "run_3" <;>
      simp_all
  · cases hprog

theorem executed_published :
    PublishedRun memoryRuns D (Quiet memoryRuns) "run_3" run executedWorld where
  history := history executed_steps
  publication := @publishes executedWorld ((executedWorld.playRun D 1 (env 23)).get (by decide))
    (Option.some_get _).symm (by decide) (by decide)

theorem overtaken_published :
    PublishedRun memoryRuns D (fun _ _ _ _ => True) "run_3" run overtakenWorld where
  history := @history (fun _ _ _ _ => True) _ overtaken_steps
  publication := @publishes overtakenWorld ((overtakenWorld.playRun D 1 (env 23)).get (by decide))
    (Option.some_get _).symm (by decide) (by decide)

end TwoPlans

/-- A planning Run publishes on an unplanned Trip. -/
theorem planning_runs_publish_on_base_first :
    TwoPlans.run.command.type = .tripPlan ∧
      memoryPlanning.OnBase TwoPlans.run TwoPlans.executedWorld.store :=
  ⟨by decide, (planning_runs_publish_on_base TwoPlans.unpublished "run_3" TwoPlans.run).1 _
    TwoPlans.executed_published⟩

/-- Without the condition an update is lost: two Runs are created before either publishes, and the
    second one publishes over the snapshot of the first. -/
theorem overtaken_run_publishes : ¬ ∀ D : Deployment, D.Unpublished → ∀ runId run w,
    PublishedRun memoryRuns D (fun _ _ _ _ => True) runId run w →
      memoryPlanning.OnBase run w.store := by
  intro h
  have hbase := h _ TwoPlans.unpublished _ _ _ TwoPlans.overtaken_published
  -- the snapshot of the other Run is published
  have hsnap : (TwoPlans.overtakenWorld.store.artifactTable "artifact_20" 1).map
      (fun a => (a.tripId, a.isPublishedSnapshot)) = some ("trip_1", true) := by decide
  obtain ⟨a, ha, he⟩ := Option.map_eq_some_iff.1 hsnap
  have hno := hbase.plan (by decide) "artifact_20" 1 a ha (congrArg Prod.fst he)
  rw [show a.isPublishedSnapshot = true from congrArg Prod.snd he] at hno
  cases hno

end RoutePilot
