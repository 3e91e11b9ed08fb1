/-
  A store as planning Runs use it: Trips that point to their current snapshots,
  Artifact versions, and the comparison of a new Run with the current snapshot
  of its Trip.  Both stores are instances.
-/
import RoutePilot.Postgres.Publication
import RoutePilot.Spec.RunBackend
import RoutePilot.Store.Publication

namespace RoutePilot

open Lib

/-- What a Trip points to. -/
def TripView.pointer (t : TripView) : Option String × Option ℕ :=
  (t.currentArtifactId, t.currentArtifactVersion)

/-- The stored version a Trip points to. -/
def TripView.current (t : TripView) (A : ArtifactTable) : Option ArtifactView := do
  let id ← t.currentArtifactId
  let v ← t.currentArtifactVersion
  A id v

/-- Opening a Trip, and what happens around the executions of its Runs. -/
def StoreOp.isPlannings : StoreOp → Bool
  | .createTrip .. => true
  | o => o.isLeases

theorem StoreOp.writesLog_of_isPlannings {o : StoreOp} (h : o.isPlannings = true) :
    o.writesLog = false := by
  cases o with
  | createRun | mutateRun | resumeRun => cases h
  | _ => rfl

/-- The operation publishes a snapshot of the Trip. -/
def PublishesOn (L : RunLog) (k : String) : (o : StoreOp) → Except StoreError o.Ans → Prop
  | .mutateRun _ runId m, .ok _ => ∃ a run events, m.resultArtifact = some a ∧
      a.artifactType = "TripSnapshot" ∧ L runId = some (run, events) ∧ run.tripId = k
  | _, _ => False

/-- Every Trip keeps its pointer, unless a snapshot of it is published. -/
def Repoints (L : RunLog) (o : StoreOp) (r : Except StoreError o.Ans) (T T' : TripTable) : Prop :=
  ∀ k t, T k = some t → ∃ t', T' k = some t' ∧ (t'.pointer = t.pointer ∨ PublishesOn L k o r)

theorem Repoints.of_eq {L : RunLog} {o : StoreOp} {r : Except StoreError o.Ans} {T T' : TripTable}
    (h : T' = T) : Repoints L o r T T' := fun _ t ht => ⟨t, h ▸ ht, .inl rfl⟩

/-- A new Trip. -/
theorem Repoints.of_insert {L : RunLog} {o : StoreOp} {r : Except StoreError o.Ans} {T : TripTable}
    {k : String} {t : TripView} (hk : T k = none) :
    Repoints L o r T (Function.update T k (some t)) := by
  intro k' t' ht'
  refine ⟨t', ?_, .inl rfl⟩
  rw [Function.update_of_ne]
  · exact ht'
  · rintro rfl
    rw [hk] at ht'; cases ht'

/-- One Trip is rewritten. -/
theorem Repoints.of_update {L : RunLog} {o : StoreOp} {r : Except StoreError o.Ans} {T : TripTable}
    {k : String} {t' : TripView} (h : PublishesOn L k o r) :
    Repoints L o r T (Function.update T k (some t')) := by
  intro k₁ t₁ h₁
  rw [Function.update_apply]
  split
  · next hk => exact ⟨t', rfl, .inr (hk ▸ h)⟩
  · exact ⟨t₁, h₁, .inl rfl⟩

/-- What planning Runs write: Artifacts that are not published, and results that were created. -/
def PlanningWrites (L : RunLog) (Made : Principal → String → ArtifactView → Prop) : StoreOp → Prop
  | .createArtifact _ c => c.status ≠ .published
  | .mutateRun p runId m => ∀ a, m.resultArtifact = some a →
      ∀ run events, L runId = some (run, events) → Made p run.tripId a
  | _ => True

/-- A store with Trips and Artifacts.  `Ok` holds in the states planning Runs reach, `Keep` is kept
    by the operations they use, and `Made` is what is known of a created version. -/
structure PlanningBackend {σ ε : Type} {B : Backend σ ε} (R : RunBackend B) where
  trips : σ → TripTable
  artifacts : σ → ArtifactTable
  Ok : σ → Prop
  Keep : σ → σ → Prop
  Made : Principal → String → ArtifactView → σ → Prop
  init : R.Ok B.init ∧ Ok B.init
  pub : ∀ s, Ok s → PublicationOk (trips s) (artifacts s)
  keep_refl : ∀ s, Keep s s
  keep_trans : ∀ s₁ s₂ s₃, Keep s₁ s₂ → Keep s₂ s₃ → Keep s₁ s₃
  keep : ∀ env o s r s', B.fresh env s → B.exec env o s r s' →
    o.IsCoordinators ∨ o.isPlannings = true → Keep s s'
  /-- an Artifact keeps its type -/
  types : ∀ s s' id v a a', Keep s s' → artifacts s id v = some a → artifacts s' id v = some a' →
    a'.artifactType = a.artifactType
  made : ∀ env p c s a s', B.exec env (.createArtifact p c) s (.ok a) s' → Made p c.tripId a s'
  made_keep : ∀ p tripId a s s', Made p tripId a s → Keep s s' → Made p tripId a s'
  step : ∀ env o s r s', Ok s → B.fresh env s → B.exec env o s r s' →
    o.IsCoordinators ∨ o.isPlannings = true →
    PlanningWrites (R.log s) (fun p k a => Made p k a s) o →
    Ok s' ∧ Repoints (R.log s) o r (trips s) (trips s')
  /-- a new Run was compared with the current version of its Trip -/
  base : ∀ env p c s x s', Ok s → B.exec env (.createRun p c) s (.ok x) s' → x.replayed = false →
    ∃ trip env', trips s x.run.tripId = some trip ∧
      checkPlanningBase c trip (trip.current (artifacts s)) = .ok () ∧
      x.run = newRun env' p c trip

/-! ## The in-memory store -/

theorem memory_preserved {env : Env} {o : StoreOp} {st st' : Store} {r : Except StoreError o.Ans}
    (hfresh : memoryBackend.fresh env st) (h : memoryBackend.exec env o st r st')
    (ho : o.IsCoordinators ∨ o.isPlannings = true) : st.Preserved st' := by
  rw [h.2]
  by_cases hl : o.isLeases = true
  · exact .of_accessPart (o.keeps_of_isLeases (fun _ _ _ => rfl) env hl st)
  cases o with
  | createTrip => exact createTrip_preserved hfresh.1
  | getArtifact p id version => exact .of_accessPart (Keeps.ask _ st)
  | createRun => exact createRun_preserved
  | mutateRun => exact mutateRun_preserved
  | resumeRun => exact resumeRun_preserved
  | createArtifact => exact createArtifact_preserved
  | _ => first | exact absurd rfl hl | exact ho.elim False.elim (fun h => nomatch h)

theorem memory_holds {env : Env} {p : Principal} {c : ArtifactCreation} {st st' : Store}
    {a : ArtifactView} (h : memoryBackend.exec env (.createArtifact p c) st (.ok a) st') :
    st'.Holds p c.tripId a := by
  obtain ⟨⟨trip, hwrite⟩, -, -, rfl, rfl⟩ := createArtifact_ok (memoryBackend_exec_ok h)
  refine ⟨⟨trip, hwrite⟩, c.artifact env p, ?_, rfl⟩
  show findVersion (Dict.getD _ (c.resolvedId env) []) 1 = _
  rw [Dict.getD_set, if_pos rfl]
  rfl

theorem memory_step {env : Env} {o : StoreOp} {st st' : Store} {r : Except StoreError o.Ans}
    (hok : StorePublicationOk st) (hfresh : memoryBackend.fresh env st)
    (h : memoryBackend.exec env o st r st')
    (ho : o.IsCoordinators ∨ o.isPlannings = true)
    (hw : PlanningWrites st.log (fun p k a => st.Holds p k a) o) :
    StorePublicationOk st' ∧ Repoints st.log o r st.tripTable st'.tripTable := by
  have hlog : ∀ {k run}, st.runs.get? k = some run → st.log k = some (run, st.events.getD k []) :=
    fun hrun => Store.log_eq_some.2 ⟨hrun, rfl⟩
  constructor
  · rw [memoryBackend_step h]
    refine StoreCall.publicationOk hok hfresh.1 ?_ ?_
    · rintro p c rfl
      exact hw
    · rintro ⟨p, runId, m, run, a, stored, e, rfl, hread, -, -, hm, -, -, hno⟩
      obtain ⟨⟨trip, hwrite⟩, -⟩ := hw a hm run _ (hlog (runLocked_ok hread).1)
      rw [hwrite] at hno; cases hno
  · have htable : st'.trips = st.trips → st'.tripTable = st.tripTable := fun h => by
      unfold Store.tripTable; rw [h]
    by_cases hwr : o.WritesArtifacts
    · cases o with
      | createTrip p request =>
        obtain ⟨-, rfl⟩ := h
        have ht := @Store.tripTable_set st (final ((createTrip env p request).run st)) _ _ rfl
        exact ht ▸ .of_insert hfresh.1
      | createArtifact p c =>
        cases r with
        | error e => rw [createArtifact_error (memoryBackend_exec_error h)]; exact .of_eq rfl
        | ok a =>
          obtain ⟨-, -, -, -, rfl⟩ := createArtifact_ok (memoryBackend_exec_ok h)
          exact .of_eq rfl
      | mutateRun p runId m =>
        cases r with
        | error e =>
          rw [mutateRun_error_held (memoryBackend_exec_error h) fun a run ha hget => ?_]
          · exact .of_eq rfl
          · exact hw a ha run _ (hlog hget)
        | ok x =>
          obtain ⟨run, st₁, hm, -⟩ := mutateRun_ok (memoryBackend_exec_ok h)
          have hfinal : st'.trips = st₁.trips := by rw [hm.final]; rfl
          have hget := (runLocked_ok hm.read).1
          have hp := hm.publish
          cases hr : m.resultArtifact with
          | none =>
            rw [hr] at hp
            cases hp
            exact .of_eq (htable hfinal)
          | some a =>
            rw [hr] at hp
            obtain ⟨stored, hstored, ⟨-, rfl⟩ | ⟨htype, trip, -, htrips, -⟩⟩ := publishResult_ok hp
            · exact .of_eq (htable hfinal)
            · -- the stored version has the type of the result
              obtain ⟨-, b, hb, horigin⟩ := hw a hr run _ (hlog hget)
              rw [(storedResult_ok hstored).1] at hb
              cases hb
              have hty : a.artifactType = "TripSnapshot" := (congrArg Prod.snd horigin).symm.trans htype
              rw [Store.tripTable_set (hfinal.trans htrips)]
              exact .of_update ⟨a, run, _, hr, hty, hlog hget, rfl⟩
      | patchTrip | setTripStatus | patchArtifact | commandArtifact =>
        exact ho.elim False.elim (fun h => nomatch h)
      | _ => exact absurd hwr id
    · refine .of_eq (htable ?_)
      rw [h.2]
      exact congrArg Prod.fst (o.keeps_artifactPart env hwr st)

def memoryPlanning : PlanningBackend memoryRuns where
  trips := Store.tripTable
  artifacts := Store.artifactTable
  Ok := StorePublicationOk
  Keep := Store.Preserved
  Made p k a st := st.Holds p k a
  init := ⟨Store.logOk_empty, storePublicationOk_init⟩
  pub _ h := h.pub
  keep_refl := .refl
  keep_trans _ _ _ h h' := h.trans h'
  keep _ _ _ _ _ hfresh hx ho := memory_preserved hfresh hx ho
  types _ _ id v a a' hkeep ha ha' := by
    obtain ⟨b, hb, horigin⟩ := hkeep.versions id v a ha
    rw [ha'] at hb
    cases hb
    exact congrArg Prod.snd horigin
  made _ _ _ _ _ _ hx := memory_holds hx
  made_keep _ _ _ _ _ h hp := h.preserved hp
  step _ _ _ _ _ hok hfresh hx ho hw := memory_step hok hfresh hx ho hw
  base env p c st x st' hok hx hnew := by
    obtain ⟨hrep, -⟩ | ⟨-, trip, hc, hrun⟩ := createRun_ok (memoryBackend_exec_ok hx)
    · rw [hnew] at hrep; cases hrep
    · obtain ⟨htrip, -⟩ := tripLocked_ok hc.write
      refine ⟨trip, env, ?_, hc.base, hrun⟩
      rw [hrun]
      show st.trips.get? trip.tripId = _
      rw [hok.pub.tripKey _ _ htrip]
      exact htrip

/-! ## The PostgreSQL store -/

namespace Postgres

/-- Artifacts keep their rows. -/
def Database.KeepsRows (db db' : Database) : Prop :=
  ∀ id row, db.artifacts.get? id = some row → db'.artifacts.get? id = some row

theorem Database.KeepsRows.of_eq {db db' : Database} (h : db'.artifacts = db.artifacts) :
    db.KeepsRows db' := fun _ _ hrow => h ▸ hrow

theorem runOp_keepsRows {env : Env} {o : StoreOp} {db db' : Database} {x : o.Ans}
    (h : (runOp env o).run db = .ok x db') (ho : o.IsCoordinators ∨ o.isPlannings = true) :
    db.KeepsRows db' := by
  by_cases hw : o.WritesArtifacts
  · cases o with
    | createTrip =>
      obtain ⟨-, -, hpart⟩ := createTrip_ok h
      exact .of_eq (congrArg (·.2.1) hpart)
    | createArtifact =>
      obtain ⟨-, -, hfresh, -, hpart⟩ := createArtifact_ok h
      intro id row hget
      have ha : db'.artifacts = _ := congrArg (·.2.1) hpart
      rw [ha, Dict.get?_set_ne]
      · exact hget
      · rintro rfl
        rw [hfresh] at hget; cases hget
    | mutateRun p runId m =>
      obtain ⟨run, db₁, u, -, hp, hpart⟩ := mutateRun_publish h
      have hk := publish_keeps (g := Database.artifacts) (fun _ _ _ => rfl) env p run
        m.resultArtifact db
      rw [hp] at hk
      exact .of_eq ((congrArg (·.2.1) hpart).trans hk)
    | patchTrip | setTripStatus | patchArtifact | commandArtifact =>
      exact ho.elim False.elim (fun h => nomatch h)
    | _ => exact absurd hw id
  · have hk := runOp_keeps_artifactPart env o hw db
    rw [h] at hk
    exact .of_eq (congrArg (·.2.1) hk)

/-- A created version has the type of its Artifact. -/
def Database.Typed (db : Database) (a : ArtifactView) : Prop :=
  ∃ row, db.artifacts.get? a.artifactId = some row ∧ row.artifactType = a.artifactType

theorem createArtifact_typed {env : Env} {p : Principal} {c : ArtifactCreation} {db db' : Database}
    {a : ArtifactView} (h : (createArtifact env p c).run db = .ok a db') : db'.Typed a := by
  obtain ⟨-, -, -, -, hpart⟩ := createArtifact_ok h
  have ha : db'.artifacts = _ := congrArg (·.2.1) hpart
  exact ⟨artifactRow a, by rw [ha, Dict.get?_set_self], rfl⟩

theorem postgres_step {env : Env} {o : StoreOp} {db db' : Database} {x : o.Ans}
    (hok : DatabasePublicationOk db) (h : (runOp env o).run db = .ok x db')
    (ho : o.IsCoordinators ∨ o.isPlannings = true)
    (hw : PlanningWrites db.log (fun _ _ a => db.Typed a) o) :
    DatabasePublicationOk db' ∧ Repoints db.log o (.ok x) db.tripTable db'.tripTable := by
  have hlog : ∀ {p k run}, getRunTx p k db = .ok run → db.log k = some (run, db.runEvents k) := by
    intro p k run hread
    obtain ⟨row, hrow, hrun, -⟩ := getRunTx_ok hread
    exact Database.log_eq_some.2 ⟨row, hrow, hrun, rfl⟩
  constructor
  · refine (runOp_publicationOk hok ?_ ?_ h).1
    · rintro p c rfl
      exact hw
    · rintro p runId m result rfl hm a ha
      obtain ⟨run, -, -, hread, -⟩ := mutateRun_publish h
      obtain ⟨row, hrow, hty⟩ := hw result hm run _ (hlog hread)
      obtain ⟨row', v, hrow', -, rfl⟩ := artifactTable_eq_some.1 ha
      rw [hrow] at hrow'
      cases hrow'
      exact hty
  · have htable : db'.trips = db.trips → db'.tripTable = db.tripTable := fun h => by
      unfold Database.tripTable; rw [h]
    by_cases hwr : o.WritesArtifacts
    · cases o with
      | createTrip =>
        obtain ⟨hfresh, -, hpart⟩ := createTrip_ok h
        rw [tripTable_set (congrArg Prod.fst hpart)]
        exact .of_insert hfresh
      | createArtifact =>
        obtain ⟨-, -, -, -, hpart⟩ := createArtifact_ok h
        exact .of_eq (htable (congrArg Prod.fst hpart))
      | mutateRun p runId m =>
        obtain ⟨run, db₁, u, hread, hp, hpart⟩ := mutateRun_publish h
        have hfinal : db'.trips = db₁.trips := congrArg Prod.fst hpart
        cases hr : m.resultArtifact with
        | none =>
          rw [hr] at hp
          cases hp
          exact .of_eq (htable hfinal)
        | some a =>
          rw [hr] at hp
          obtain ⟨-, trip, htrip, -, hpub⟩ := publishResult_ok hok.pub.tripKey hp
          cases hpub with
          | other _ htrips _ => exact .of_eq (htable (hfinal.trans htrips))
          | snapshot hty htrips =>
            have hkey := hok.pub.tripKey _ _ (getTripTx_ok htrip).1
            rw [tripTable_set (hfinal.trans htrips)]
            exact .of_update ⟨a, run, _, hr, hty, hlog hread, hkey.symm⟩
      | patchTrip | setTripStatus | patchArtifact | commandArtifact =>
        exact ho.elim False.elim (fun h => nomatch h)
      | _ => exact absurd hwr id
    · have hk := runOp_keeps_artifactPart env o hwr db
      rw [h] at hk
      exact .of_eq (htable (congrArg Prod.fst hk))

/-- `create_run` reads the version the Trip points to. -/
theorem currentSnapshotTx_ok {p : Principal} {k : String} {trip : TripView} {db : Database}
    {snapshot : Option ArtifactView} (hok : DatabasePublicationOk db)
    (htrip : db.trips.get? k = some trip) (h : currentSnapshotTx p trip db = .ok snapshot) :
    snapshot = trip.current db.artifactTable := by
  unfold currentSnapshotTx at h
  unfold TripView.current
  split at h
  · next hid => cases h; rw [hid]; rfl
  · next id hid =>
    obtain ⟨v, a, hv, ha, -⟩ := hok.pub.target k trip id htrip hid
    obtain ⟨row, r, hrow, hr, rfl⟩ := artifactTable_eq_some.1 ha
    rw [hv] at h
    rw [hid, hv]
    show snapshot = db.artifactTable id v
    rw [ha]
    unfold getArtifactTx at h
    rw [hrow] at h
    split at h
    · cases h
    · next metadata hmeta =>
      obtain ⟨hrow', -⟩ := Option.filter_eq_some_iff.1 hmeta
      cases hrow'
      simp only [hr] at h
      split at h
      · cases h
      · cases h; rfl

end Postgres

def postgresPlanning : PlanningBackend postgresRuns where
  trips := Postgres.Database.tripTable
  artifacts := Postgres.Database.artifactTable
  Ok := Postgres.DatabasePublicationOk
  Keep := Postgres.Database.KeepsRows
  Made _ _ a db := db.Typed a
  init := ⟨@Postgres.postgresStore_ok (fun _ _ => True) _ (.init rfl), Postgres.databasePublicationOk_init⟩
  pub _ h := h.pub
  keep_refl _ _ _ h := h
  keep_trans _ _ _ h h' id row hrow := h' id row (h id row hrow)
  keep _ o db r db' _ hx ho := by
    cases r with
    | error e => rw [postgresBackend_exec_error hx]; exact .of_eq rfl
    | ok x => exact Postgres.runOp_keepsRows (postgresBackend_exec_ok hx) ho
  types _ _ id v a a' hkeep ha ha' := by
    obtain ⟨row, r, hrow, -, rfl⟩ := Postgres.artifactTable_eq_some.1 ha
    obtain ⟨row', r', hrow', -, rfl⟩ := Postgres.artifactTable_eq_some.1 ha'
    rw [hkeep _ _ hrow] at hrow'
    cases hrow'
    rfl
  made _ _ _ _ _ _ hx := Postgres.createArtifact_typed (postgresBackend_exec_ok hx)
  made_keep _ _ _ _ _ h hk := by
    obtain ⟨row, hrow, hty⟩ := h
    exact ⟨row, hk _ _ hrow, hty⟩
  step _ o db r db' hok _ hx ho hw := by
    cases r with
    | error e => rw [postgresBackend_exec_error hx]; exact ⟨hok, .of_eq rfl⟩
    | ok x => exact Postgres.postgres_step hok (postgresBackend_exec_ok hx) ho hw
  base env p c db x db' hok hx hnew := by
    obtain ⟨trip, snapshot, htrip, hsnap, hbase, hrun⟩ :=
      Postgres.createRun_base (postgresBackend_exec_ok hx) hnew
    obtain ⟨hget, -⟩ := Postgres.getTripTx_ok htrip
    rw [Postgres.currentSnapshotTx_ok hok hget hsnap] at hbase
    refine ⟨trip, env.toEnv, ?_, hbase, hrun⟩
    rw [hrun]
    show db.trips.get? trip.tripId = _
    rw [hok.pub.tripKey _ _ hget]
    exact hget

end RoutePilot
