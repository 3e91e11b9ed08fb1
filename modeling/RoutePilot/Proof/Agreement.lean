/-
  Publication in the two stores.

  Two reachable states correspond when they hold the same Trips with their
  members, the same Runs with their leases, and the same Artifact versions.
  Both stores then accept the same publications by the same rules, with two
  exceptions.  For the snapshot of a Run, the in-memory store supersedes the
  published snapshots of the Trip, the PostgreSQL store the version the Trip
  points to: the publication invariant makes the two the same, unless the Trip
  points to a published version that is no snapshot.  And only the PostgreSQL
  store checks the write access to the Trip before it publishes the result of a
  Run: the in-memory store checks it for a snapshot, and then after the status
  has been written.
-/
import RoutePilot.Postgres.Log
import RoutePilot.Proof.Atomicity

namespace RoutePilot

open Lib Lts

/-- The two stores hold the same Trips, Runs, leases and Artifact versions, and the members of a Trip are the
    rows of its tenant. -/
structure Corresponds (st : Store) (db : Postgres.Database) : Prop where
  trips : st.tripTable = db.tripTable
  members : ∀ k t u, db.tripTable k = some t →
    st.members.get? (k, u) = (db.members.get? (k, u)).filter (·.tenantId == t.tenantId)
  runs : ∀ id, st.runs.get? id = (db.runs.get? id).map (·.run)
  leases : st.leaseTable = db.leaseTable
  artifacts : st.artifactTable = db.artifactTable

/-- The pointer of a Trip and its version. -/
def TripView.publication (t : TripView) : Option String × Option ℕ × ℕ :=
  (t.currentArtifactId, t.currentArtifactVersion, t.version)

/-- The same statuses, pointers and Trip versions. -/
structure SamePublication (st : Store) (db : Postgres.Database) : Prop where
  statuses : ∀ id v, (st.artifactTable id v).map (·.status) = (db.artifactTable id v).map (·.status)
  pointers : ∀ k, (st.tripTable k).map (·.publication) = (db.tripTable k).map (·.publication)

/-- The same call of both stores: at the same time, with a new identifier of the event, and with a key that both
    stores know or neither. -/
structure SameCall (env : Env) (env' : Postgres.Env) (o : StoreOp) (st : Store) (db : Postgres.Database) : Prop where
  clock : env'.databaseNow = env.now
  event : ∀ r ∈ db.events, r.event.eventId ≠ env'.newPublicId "evt"
  key : ∀ p id request key requestHash, o = .commandArtifact p id request key requestHash →
    (st.artifactIdempotency.get? (p.tenantId, p.userId, id, key) = none ↔
      Postgres.replayPayload p id (Postgres.artifactIdempotencyFingerprint env' p id key) db = none)

/-- The call is to publish a version: the result of a Run, or by command. -/
def StoreOp.Publishes : StoreOp → Prop
  | .mutateRun _ _ m => m.resultArtifact.isSome
  | .commandArtifact _ _ request _ _ => request.type = .publish
  | _ => False

/-- A transition passes the checks before its result is published. -/
structure PublishesRun (env : Env) (p : Principal) (runId : String) (m : RunMutation) (st : Store) (run : RunView)
    (result stored : ArtifactView) : Prop where
  read : runLocked p runId st = .ok run
  fence : checkFence env p runId m st = .ok ()
  version : run.controlVersion = m.expectedControlVersion
  result_eq : m.resultArtifact = some result
  stored_ok : storedResult result run.tripId st = .ok stored

/-- A Run's snapshot replaces a version of another type that its Trip points to. -/
def StoreOp.Displaces (o : StoreOp) (env : Env) (st : Store) : Prop :=
  ∃ p runId m run result stored t id v a, o = .mutateRun p runId m ∧
    PublishesRun env p runId m st run result stored ∧ stored.artifactType = "TripSnapshot" ∧
    tripLocked p run.tripId true st = .ok t ∧ t.PointsTo id v ∧ st.artifactTable id v = some a ∧
    a.artifactType ≠ "TripSnapshot"

/-- A Run's result is to be published for a principal who may not write the Trip, and is not published yet. -/
def StoreOp.Oversteps (o : StoreOp) (env : Env) (st : Store) : Prop :=
  ∃ p runId m run result stored e, o = .mutateRun p runId m ∧
    PublishesRun env p runId m st run result stored ∧ tripLocked p run.tripId true st = .error e ∧
    stored.status ≠ .published

theorem PublishesRun.unique {env : Env} {p : Principal} {runId : String} {m : RunMutation} {st : Store}
    {run run' : RunView} {result result' stored stored' : ArtifactView}
    (h : PublishesRun env p runId m st run result stored) (h' : PublishesRun env p runId m st run' result' stored') :
    run = run' ∧ result = result' ∧ stored = stored' := by
  obtain rfl := Except.ok.inj (h.read.symm.trans h'.read)
  obtain rfl := Option.some.inj (h.result_eq.symm.trans h'.result_eq)
  exact ⟨rfl, rfl, Except.ok.inj (h.stored_ok.symm.trans h'.stored_ok)⟩

/-- The first condition, where the Run, the result and the stored version are known. -/
theorem PublishesRun.displaces_iff {env : Env} {p : Principal} {runId : String} {m : RunMutation} {st : Store}
    {run : RunView} {result stored : ArtifactView} (h : PublishesRun env p runId m st run result stored) :
    (StoreOp.mutateRun p runId m).Displaces env st ↔ stored.artifactType = "TripSnapshot" ∧
      ∃ t id v a, tripLocked p run.tripId true st = .ok t ∧ t.PointsTo id v ∧ st.artifactTable id v = some a ∧
        a.artifactType ≠ "TripSnapshot" := by
  constructor
  · rintro ⟨_, _, _, _, _, _, t, id, v, a, ho, h', hsnap, hrest⟩
    cases ho
    obtain ⟨rfl, -, rfl⟩ := h.unique h'
    exact ⟨hsnap, t, id, v, a, hrest⟩
  · rintro ⟨hsnap, t, id, v, a, hrest⟩
    exact ⟨p, runId, m, run, result, stored, t, id, v, a, rfl, h, hsnap, hrest⟩

/-- The second one. -/
theorem PublishesRun.oversteps_iff {env : Env} {p : Principal} {runId : String} {m : RunMutation} {st : Store}
    {run : RunView} {result stored : ArtifactView} (h : PublishesRun env p runId m st run result stored) :
    (StoreOp.mutateRun p runId m).Oversteps env st ↔
      (∃ e, tripLocked p run.tripId true st = .error e) ∧ stored.status ≠ .published := by
  constructor
  · rintro ⟨_, _, _, _, _, _, e, ho, h', herr, hstatus⟩
    cases ho
    obtain ⟨rfl, -, rfl⟩ := h.unique h'
    exact ⟨⟨e, herr⟩, hstatus⟩
  · rintro ⟨⟨e, herr⟩, hstatus⟩
    exact ⟨p, runId, m, run, result, stored, e, rfl, h, herr, hstatus⟩

/-! ## What the stores decide alike -/

section
variable {st : Store} {db : Postgres.Database} (hc : Corresponds st db) {env : Env} {env' : Postgres.Env}
  {p : Principal}
include hc

theorem Corresponds.trip_iff {k : String} {w : Bool} {t : TripView} :
    tripLocked p k w st = .ok t ↔ Postgres.getTripTx p k w db = .ok t := by
  have hget : st.trips.get? k = db.trips.get? k := congrFun hc.trips k
  unfold tripLocked Postgres.getTripTx
  rw [hget]
  cases htrip : db.trips.get? k with
  | none => simp
  | some trip =>
    dsimp only
    rw [hc.members k trip p.userId htrip]
    by_cases htenant : trip.tenantId = p.tenantId
    · rw [htenant, if_neg (not_not.2 rfl), if_neg (not_not.2 rfl)]
      by_cases howner : trip.ownerId = p.userId ∨ p.isTenantAdmin = true
      · rw [if_pos howner, if_neg]
        rintro ⟨h₁, h₂⟩
        exact howner.elim h₁ h₂
      · refine iff_of_eq (congrArg (· = Except.ok t) ((if_neg howner).trans ?_))
        exact (if_pos (not_or.1 howner)).symm
    · rw [if_pos (Ne.symm htenant), if_pos htenant]
      exact iff_of_false nofun nofun

theorem Corresponds.run_iff {runId : String} {run : RunView} :
    runLocked p runId st = .ok run ↔ Postgres.getRunTx p runId db = .ok run := by
  unfold runLocked Postgres.getRunTx
  rw [hc.runs]
  cases db.runs.get? runId with
  | none => exact .rfl
  | some row =>
    dsimp only [Option.map_some]
    by_cases htenant : row.run.tenantId = p.tenantId
    · rw [if_neg (not_not.2 htenant.symm), if_neg (not_not.2 htenant)]
      have hmap : ∀ {x y : Except StoreError TripView}, (∀ t, x = .ok t ↔ y = .ok t) →
          ((x.map fun _ => row.run) = .ok run ↔ (y.map fun _ => row.run) = .ok run) := by
        intro x y hxy
        cases x with
        | ok t => rw [(hxy t).1 rfl]
        | error e =>
          cases y with
          | ok t => cases (hxy t).2 rfl
          | error e' => simp [Except.map]
      exact hmap fun t => hc.trip_iff
    · rw [if_pos (Ne.symm htenant), if_pos htenant]
      exact iff_of_false nofun nofun

/-- A fence of the Run is passed in both stores at the same time. -/
theorem Corresponds.fence_iff {runId : String} {run : RunView} {m : RunMutation} (hclock : env'.databaseNow = env.now)
    (hread : runLocked p runId st = .ok run) (hid : run.runId = runId) :
    checkFence env p runId m st = .ok () ↔ Postgres.checkFence env' run m db = .ok () := by
  unfold checkFence Postgres.checkFence
  cases m.executionLease with
  | none => exact .rfl
  | some lease =>
    dsimp only
    obtain ⟨row, hrow, rfl, htenant⟩ := Postgres.getRunTx_ok (hc.run_iff.1 hread)
    unfold Postgres.assertExecutionLeaseTx
    rw [hid, hrow]
    by_cases hlease : lease.runId = runId
    swap
    · rw [if_pos hlease, if_pos (.inl hlease)]
      exact iff_of_false nofun nofun
    · rw [if_neg (not_not.2 hlease), if_neg (by simp [hlease])]
      have hstored : st.executionLeases.get? runId = row.lease runId := by
        have := congrArg (·.current) (congrFun hc.leases runId)
        rwa [Postgres.leaseTable_some hrow] at this
      unfold assertExecutionLeaseLocked
      rw [hlease, hread, hstored]
      simp only [Option.filter_some, beq_self_eq_true, if_true]
      cases howner : row.leaseOwner with
      | none => simp [Postgres.RunRow.lease, howner, Except.map]
      | some owner =>
        cases huntil : row.leaseUntil with
        | none => simp [Postgres.RunRow.lease, howner, huntil, Except.map]
        | some u =>
          simp only [Postgres.RunRow.lease, howner, huntil, Option.bind_eq_bind, Option.bind_some, Option.pure_def,
            Option.all_some, Option.any_none, hclock]
          by_cases hvalid : owner = lease.owner ∧ row.attempt = lease.attempt ∧ env.now < u ∧
              row.run.lifecycleState.isExecutable = true
          · obtain ⟨h₁, h₂, h₃, h₄⟩ := hvalid
            simp [h₁, h₂, not_le.2 h₃, h₄, Except.map]
          · have hlost : owner ≠ lease.owner ∨ row.attempt ≠ lease.attempt ∨ u ≤ env.now ∨
                row.run.lifecycleState.isExecutable = false := by
              by_contra hno
              simp only [not_or, not_not, not_le, Bool.not_eq_false, ne_eq] at hno
              exact hvalid hno
            rw [if_pos, if_pos]
            · simp [Except.map]
            · simpa using hlost
            · simpa using hlost

end

section
variable {st : Store} {db : Postgres.Database} (hst : st.ArtifactsOk) (hdb : Postgres.DatabasePublicationOk db)
  (hc : Corresponds st db) {p : Principal}
include hdb hc

/-- The result of a Run whose Trip the principal may read. -/
theorem Corresponds.result_iff {tripId : String} {result : ArtifactView} {w : Bool} {t : TripView}
    (ht : Postgres.getTripTx p tripId w db = .ok t) :
    (∃ stored, storedResult result tripId st = .ok stored) ↔ Postgres.resultRow p tripId result db = .ok () := by
  constructor
  · rintro ⟨stored, hstored⟩
    obtain ⟨hget, rfl⟩ := storedResult_ok hstored
    rw [hc.artifacts] at hget
    obtain ⟨row, v, hrow, hv, rfl⟩ := Postgres.artifactTable_eq_some.1 hget
    have htenant := hdb.row_tenant hrow ht
    have htrip : (row.view v).tripId = row.tripId := rfl
    unfold Postgres.resultRow
    rw [hrow, hv, Option.filter_some, if_pos (by simp [htenant, htrip])]
  · intro hresult
    obtain ⟨row, v, hrow, hrt, hv⟩ := Postgres.resultRow_ok hresult
    have hget : st.artifactTable result.artifactId result.version = some (row.view v) := by
      rw [hc.artifacts]
      exact Postgres.artifactTable_eq_some.2 ⟨row, v, hrow, hv, rfl⟩
    refine ⟨row.view v, ?_⟩
    unfold storedResult
    rw [show findVersion (st.artifacts.getD result.artifactId []) result.version = some (row.view v) from hget]
    exact if_pos hrt

include hst in
/-- Both stores read the same newest version. -/
theorem Corresponds.artifact_iff {id : String} {a : ArtifactView} :
    artifactLocked p id none true st = .ok a ↔ Postgres.getArtifactTx p id none true db = .ok a := by
  constructor
  · intro hread
    obtain ⟨hlatest, trip, htrip⟩ := artifactLocked_latest hread
    obtain ⟨hmem, hle⟩ := latestVersion_spec hlatest
    have hget : db.artifactTable id a.version = some a := by
      rw [← hc.artifacts]
      exact (findVersion_eq_some (hst id)).2 ⟨hmem, rfl⟩
    obtain ⟨row, v, hrow, hv, rfl⟩ := Postgres.artifactTable_eq_some.1 hget
    have htripTx : Postgres.getTripTx p row.tripId true db = .ok trip := hc.trip_iff.1 htrip
    have htenant := hdb.row_tenant hrow htripTx
    have hlatestRow : Postgres.latestRow id db = some v := by
      refine Postgres.latestRow_of_greatest hdb.versionKey hv fun n r hr => ?_
      have hb : st.artifactTable id n = some (row.view r) := by
        rw [hc.artifacts]
        exact Postgres.artifactTable_eq_some.2 ⟨row, r, hrow, hr, rfl⟩
      have hversion : r.version = n := congrArg Prod.snd (hdb.versionKey _ _ hr)
      rw [← hversion]
      exact hle _ ((findVersion_eq_some (hst id)).1 hb).1
    unfold Postgres.getArtifactTx
    rw [hrow, Option.filter_some, if_pos (by simpa using htenant)]
    dsimp only
    rw [htripTx, hlatestRow]
  · intro hread
    obtain ⟨row, v, hrow, htenant, hv, rfl, ⟨trip, htrip⟩, hle⟩ := Postgres.getArtifactTx_ok hdb.versionKey hread
    have hget : st.artifactTable id v.version = some (row.view v) := by
      rw [hc.artifacts]
      exact Postgres.artifactTable_eq_some.2 ⟨row, v, hrow, hv, rfl⟩
    have hlatest : latestVersion (st.artifacts.getD id []) = some (row.view v) := by
      refine latestVersion_of_greatest (hst id) ((findVersion_eq_some (hst id)).1 hget).1 fun b hb => ?_
      have hb' : db.artifactTable id b.version = some b := by
        rw [← hc.artifacts]
        exact (findVersion_eq_some (hst id)).2 ⟨hb, rfl⟩
      obtain ⟨_, r, -, hr, -⟩ := Postgres.artifactTable_eq_some.1 hb'
      exact hle _ r hr
    have htripLocked : tripLocked p (row.view v).tripId true st = .ok trip := hc.trip_iff.2 htrip
    unfold artifactLocked
    rw [hlatest]
    dsimp only
    rw [if_neg (not_not.2 (show p.tenantId = (row.view v).tenantId from htenant.symm)), htripLocked]
    rfl

end

/-! ## The states of the stores -/

theorem memory_artifactsOk {w : PublicationWorld Store}
    (h : (publicationSystem memoryBackend).Reach anyStep w) : w.store.ArtifactsOk := by
  suffices htidy : w.store.Tidy from htidy.versions
  refine h.invariant (I := fun w => w.store.Tidy) ?_ ?_
  · rintro w rfl
    exact Store.tidy_init
  · rintro w ⟨env, o, r⟩ w' - hok - ⟨-, -, hexec, -⟩
    rw [memoryBackend_step hexec]
    exact StoreCall.tidy hok

theorem postgres_databaseOk {v : PublicationWorld Postgres.Database}
    (h : (publicationSystem postgresBackend).Reach anyStep v) : Postgres.DatabaseOk v.store := by
  refine h.invariant (I := fun v => Postgres.DatabaseOk v.store) ?_ ?_
  · rintro v rfl
    exact @Postgres.postgresStore_ok anyStep _ (.init rfl)
  · rintro v ⟨env, o, r⟩ v' - hok - ⟨-, -, hexec, -⟩
    exact Postgres.postgresStore_step_ok hok (postgresBackend_step hexec)

/-! ## Statuses -/

/-- The statuses after the in-memory store published a Run's snapshot. -/
def snapshotStatus (stored a : ArtifactView) : ArtifactStatus :=
  supersededBy (otherSnapshots stored.tripId stored)
    { a with status := statusAt stored.artifactId stored.version .published a }

theorem snapshotStatus_this {stored a : ArtifactView}
    (h : a.artifactId = stored.artifactId ∧ a.version = stored.version) :
    snapshotStatus stored a = .published := by
  simp [snapshotStatus, supersededBy, otherSnapshots, statusAt, h]

theorem snapshotStatus_other {stored a : ArtifactView}
    (h : ¬ (a.artifactId = stored.artifactId ∧ a.version = stored.version)) :
    snapshotStatus stored a =
      if a.status = .published ∧ a.tripId = stored.tripId ∧ a.artifactType = "TripSnapshot" then
        .superseded
      else a.status := by
  simp [snapshotStatus, supersededBy, otherSnapshots, statusAt, h]

section
variable {T : TripTable} {A : ArtifactTable} (h : PublicationOk T A)
include h

/-- The version a Trip points to, as an entry of the tables. -/
theorem PublicationOk.pointed {k id : String} {v : ℕ} {t : TripView} {a : ArtifactView}
    (ht : T k = some t) (hp : t.PointsTo id v) (ha : A id v = some a) :
    a.tripId = k ∧ a.status = .published := by
  obtain ⟨w, b, hw, hb, hk, hpub⟩ := h.target k t id ht hp.1
  rw [hp.2] at hw; cases hw
  rw [ha] at hb; cases hb
  exact ⟨hk, hpub⟩

/-- A version is determined by its key. -/
theorem PublicationOk.eq_of_key {id : String} {v : ℕ} {a b : ArtifactView} (ha : A id v = some a)
    (hb : A b.artifactId b.version = some b) (he : a.artifactId = b.artifactId ∧ a.version = b.version) : a = b := by
  obtain ⟨rfl, rfl⟩ := h.key id v a ha
  rw [he.1, he.2, hb] at ha
  exact (Option.some.inj ha).symm

/-- Both stores give a version the same status when a Run's snapshot is published, unless it is the
    version the Trip pointed to and no snapshot. -/
theorem snapshotStatus_eq_iff (hne : ∀ id v a, A id v = some a → id ≠ "") {t : TripView}
    {result stored : ArtifactView} (ht : T stored.tripId = some t)
    (hres : A result.artifactId result.version = some stored)
    (hsnap : stored.artifactType = "TripSnapshot") {id : String} {v : ℕ} {a : ArtifactView}
    (ha : A id v = some a) :
    snapshotStatus stored a = Postgres.publishedStatus t result a ↔
      ¬ (t.PointsTo id v ∧ a.artifactType ≠ "TripSnapshot") := by
  obtain ⟨rfl, rfl⟩ := h.key id v a ha
  obtain ⟨hid, hver⟩ := h.key _ _ _ hres
  unfold Postgres.publishedStatus
  rw [← hid, ← hver]
  by_cases hthis : a.artifactId = stored.artifactId ∧ a.version = stored.version
  · -- the snapshot itself
    have : a = stored := h.eq_of_key ha (by rw [hid, hver]; exact hres) hthis
    rw [snapshotStatus_this hthis, if_pos hthis]
    simp [this, hsnap]
  · have hkey : (a.artifactId, a.version) ≠ (result.artifactId, result.version) := fun he =>
      hthis (by rw [hid, hver]; exact Prod.mk.inj he)
    rw [snapshotStatus_other hthis, if_neg hthis]
    by_cases hpoint : t.PointsTo a.artifactId a.version
    · obtain ⟨htrip, hpub⟩ := h.pointed ht hpoint ha
      have hcur : Postgres.SupersededCurrent t result (a.artifactId, a.version) :=
        ⟨hpoint, hne _ _ _ ha, hkey⟩
      by_cases hty : a.artifactType = "TripSnapshot" <;> simp [hpub, htrip, hpoint, hcur, hty]
    · have hcur : ¬ Postgres.SupersededCurrent t result (a.artifactId, a.version) := fun hc =>
        hpoint hc.1
      -- a published snapshot of the Trip would be the pointer's target
      have hno : ¬ (a.status = .published ∧ a.tripId = stored.tripId ∧
          a.artifactType = "TripSnapshot") := fun ⟨h₁, h₂, h₃⟩ =>
        hpoint (h.only _ _ _ _ _ ht ha h₂ h₃ h₁)
      simp [hno, hcur, hpoint]

end

/-- A publish command gives the same statuses in both stores. -/
theorem commandPublished_eq {db : Postgres.Database} (h : Postgres.DatabasePublicationOk db)
    {p : Principal} {current a : ArtifactView} {t : TripView} {id : String} {v : ℕ}
    (ht : db.tripTable current.tripId = some t) (hten : t.tenantId = p.tenantId)
    (ha : db.artifactTable id v = some a) :
    supersededBy (otherVersions current)
        { a with status := statusAt current.artifactId current.version .published a } =
      Postgres.commandPublished p current a := by
  unfold Postgres.commandPublished
  by_cases hthis : a.artifactId = current.artifactId ∧ a.version = current.version
  · simp [supersededBy, otherVersions, statusAt, hthis]
  · -- a version of the Trip belongs to the tenant of the Trip
    have htenant : a.tripId = current.tripId → a.tenantId = p.tenantId := by
      intro htrip
      obtain ⟨row, r, hrow, -, rfl⟩ := Postgres.artifactTable_eq_some.1 ha
      obtain ⟨t', ht', hrten⟩ := h.tenant _ _ hrow
      rw [show row.tripId = current.tripId from htrip] at ht'
      rw [show db.trips.get? current.tripId = some t from ht] at ht'
      cases ht'
      exact hrten.symm.trans hten
    rw [if_neg hthis, supersededBy, statusAt, if_neg hthis]
    by_cases htrip : a.tripId = current.tripId
    · simp [otherVersions, hthis, htrip, htenant htrip]
    · simp [otherVersions, hthis, htrip]

/-! ## What a publication writes, in either store -/

theorem memory_mutateRun_tables {env : Env} {p : Principal} {runId : String} {m : RunMutation}
    {result : ArtifactView} {st st' : Store} {x : RunView × RunEvent} (hok : StorePublicationOk st)
    (hres : m.resultArtifact = some result) (h : (mutateRun env p runId m).run st = .ok x st') :
    ∃ stored, st.artifactTable result.artifactId result.version = some stored ∧
      ((stored.artifactType ≠ "TripSnapshot" ∧ st'.tripTable = st.tripTable ∧
          st'.artifactTable =
            restatus (statusAt result.artifactId result.version .published) st.artifactTable) ∨
        stored.artifactType = "TripSnapshot" ∧ ∃ t, st.tripTable stored.tripId = some t ∧
          st'.tripTable = Function.update st.tripTable stored.tripId
            (some (pointTrip env t (some result.artifactId) (some result.version))) ∧
          st'.artifactTable = restatus (snapshotStatus stored) st.artifactTable) := by
  obtain ⟨run, st₁, hm, -⟩ := mutateRun_ok h
  have hp := hm.publish
  rw [hres] at hp
  obtain ⟨stored, hstored, hp⟩ := publishResult_ok hp
  obtain ⟨hmem, hid, -, htrip⟩ := storedResult_key hok hstored
  have hget := (storedResult_ok hstored).1
  obtain ⟨-, hver⟩ := hok.pub.key _ _ _ hget
  have hr := restatused_replaceVersion hok.versions (s := .published) hmem
  -- the transition itself writes no Trip and no Artifact
  have htable : st'.tripTable = st₁.tripTable ∧ st'.artifactTable = st₁.artifactTable := by
    rw [hm.final]
    exact ⟨rfl, rfl⟩
  rw [htable.1, htable.2]
  refine ⟨stored, hget, ?_⟩
  obtain ⟨htype, rfl⟩ | ⟨htype, trip, hwrite, htrips, harts⟩ := hp
  · refine .inl ⟨htype, rfl, ?_⟩
    rw [hr.table, hver]
  · refine .inr ⟨htype, trip, ?_, ?_, ?_⟩
    · rw [htrip]
      exact (tripLocked_ok hwrite).1
    · rw [Store.tripTable_set htrips, htrip, hid, hver]
    · have hsup := (hr.trans (restatused_supersede hr.ok (otherSnapshots run.tripId stored))).congr harts
      rw [hsup.table, ← hid, ← htrip]
      rfl

theorem postgres_mutateRun_tables {env : Postgres.Env} {p : Principal} {runId : String}
    {m : RunMutation} {result : ArtifactView} {db db' : Postgres.Database} {x : RunView × RunEvent}
    (hok : Postgres.DatabasePublicationOk db) (hres : m.resultArtifact = some result)
    (h : (Postgres.mutateRun env p runId m).run db = .ok x db') :
    ∃ stored, db.artifactTable result.artifactId result.version = some stored ∧
      ((result.artifactType ≠ "TripSnapshot" ∧ db'.tripTable = db.tripTable ∧
          db'.artifactTable =
            restatus (statusAt result.artifactId result.version .published) db.artifactTable) ∨
        result.artifactType = "TripSnapshot" ∧ ∃ t t', db.tripTable stored.tripId = some t ∧
          db'.tripTable = Function.update db.tripTable stored.tripId (some t') ∧
          t'.publication = (some result.artifactId, some result.version, t.version + 1) ∧
          db'.artifactTable = restatus (Postgres.publishedStatus t result) db.artifactTable) := by
  obtain ⟨run, db₁, u, -, hp, hpart⟩ := Postgres.mutateRun_publish h
  rw [hres] at hp
  obtain ⟨harts, trip, htrip, ⟨row, v, hrow, hrt, hver⟩, hp⟩ :=
    Postgres.publishResult_ok hok.pub.tripKey hp
  obtain ⟨htget, -⟩ := Postgres.getTripTx_ok htrip
  have hkey := hok.pub.tripKey _ _ htget
  have htable : db'.tripTable = db₁.tripTable ∧ db'.artifactTable = db₁.artifactTable := by
    have h₁ : db'.trips = db₁.trips := congrArg Prod.fst hpart
    have h₂ : db'.versions = db₁.versions := congrArg (·.2.2) hpart
    exact ⟨by unfold Postgres.Database.tripTable; rw [h₁],
      Postgres.artifactTable_congr (congrArg (·.2.1) hpart) fun k => by rw [h₂]⟩
  rw [htable.1, htable.2]
  refine ⟨row.view v, Postgres.artifactTable_eq_some.2 ⟨row, v, hrow, hver, rfl⟩, ?_⟩
  have htripId : (row.view v).tripId = run.tripId := hrt
  rw [htripId]
  cases hp with
  | other htype htrips hversions =>
    refine .inl ⟨htype, ?_, (hok.keyed.statusAt harts hversions).table⟩
    unfold Postgres.Database.tripTable
    rw [htrips]
  | @snapshot t' htype htrips _ _ hpoint hversion hversions =>
    refine .inr ⟨htype, trip, t', htget, ?_, ?_, (hok.keyed.publishedStatus harts hversions).table⟩
    · rw [Postgres.tripTable_set htrips, hkey]
    · rw [TripView.publication, hpoint.1, hpoint.2, hversion]

/-! ## Agreement -/

theorem map_status_restatus (f : ArtifactView → ArtifactStatus) (A : ArtifactTable) (id : String)
    (v : ℕ) : (restatus f A id v).map (·.status) = (A id v).map f := by
  rw [restatus, Option.map_map]
  rfl

theorem map_publication_update (T : TripTable) (k : String) {t t' : TripView}
    (h : t.publication = t'.publication) (j : String) :
    (Function.update T k (some t) j).map (·.publication) =
      (Function.update T k (some t') j).map (·.publication) := by
  rw [Function.update_apply, Function.update_apply]
  split
  · exact congrArg some h
  · rfl

/-- Statuses rewritten by `f` and by `g`. -/
theorem samePublication_iff {st : Store} {db : Postgres.Database} {A : ArtifactTable}
    {f g : ArtifactView → ArtifactStatus} (hst : st.artifactTable = restatus f A)
    (hdb : db.artifactTable = restatus g A)
    (hp : ∀ k, (st.tripTable k).map (·.publication) = (db.tripTable k).map (·.publication)) :
    SamePublication st db ↔ ∀ id v a, A id v = some a → f a = g a := by
  constructor
  · intro h id v a ha
    have hs := h.statuses id v
    rw [hst, hdb, map_status_restatus, map_status_restatus, ha] at hs
    exact Option.some.inj hs
  · intro h
    refine ⟨fun id v => ?_, hp⟩
    rw [hst, hdb, map_status_restatus, map_status_restatus]
    cases ha : A id v with
    | none => rfl
    | some a => exact congrArg some (h id v a ha)

section
variable {st st' : Store} {db db' : Postgres.Database} (hst : st.ArtifactsOk)
  (hdb : Postgres.DatabasePublicationOk db) (hc : Corresponds st db)
include hst hdb hc

/-- The invariant holds of both of two corresponding states. -/
theorem Corresponds.publicationOk : StorePublicationOk st :=
  ⟨by rw [hc.trips, hc.artifacts]; exact hdb.pub, hst⟩

omit hst hdb in
theorem Corresponds.samePublication : SamePublication st db where
  statuses id v := by rw [hc.artifacts]
  pointers k := by rw [hc.trips]

section
variable {env : Env} {env' : Postgres.Env} {p : Principal} {runId : String} {m : RunMutation} {run : RunView}
  {result stored : ArtifactView} (hp : PublishesRun env p runId m st run result stored)
include hp

/-- Where both stores publish the result of a Run. -/
theorem mutateRun_agree {t : TripView} {x y : RunView × RunEvent} (ht : tripLocked p run.tripId true st = .ok t)
    (htype : stored.artifactType = result.artifactType) (hm : (mutateRun env p runId m).run st = .ok x st')
    (hd : (Postgres.mutateRun env' p runId m).run db = .ok y db') :
    SamePublication st' db' ↔ ¬ (StoreOp.mutateRun p runId m).Displaces env st := by
  obtain ⟨hstored, htrip⟩ := storedResult_ok hp.stored_ok
  have hget : st.tripTable stored.tripId = some t := by
    rw [htrip]
    exact (tripLocked_ok ht).1
  obtain ⟨stored₁, hstored₁, hm⟩ := memory_mutateRun_tables (hc.publicationOk hst hdb) hp.result_eq hm
  obtain ⟨stored₂, hstored₂, hd⟩ := postgres_mutateRun_tables hdb hp.result_eq hd
  obtain rfl : stored = stored₁ := Option.some.inj (hstored.symm.trans hstored₁)
  rw [← hc.artifacts] at hstored₂ hd
  rw [← hc.trips] at hd
  obtain rfl : stored = stored₂ := Option.some.inj (hstored.symm.trans hstored₂)
  obtain ⟨hsnap, hT, hA⟩ | ⟨hsnap, t₁, ht₁, hT, hA⟩ := hm
  · -- no snapshot: one status, and no pointer
    obtain ⟨-, hT', hA'⟩ | ⟨hsnap', -⟩ := hd
    · refine iff_of_true ((samePublication_iff hA hA' fun k => by rw [hT, hT']).2 fun _ _ _ _ => rfl) ?_
      exact fun hdisplaces => hsnap (hp.displaces_iff.1 hdisplaces).1
    · exact absurd (htype.trans hsnap') hsnap
  · obtain rfl : t = t₁ := Option.some.inj (hget.symm.trans ht₁)
    obtain ⟨hsnap', -⟩ | ⟨-, t₂, t', ht₂, hT', hpoint, hA'⟩ := hd
    · exact absurd (htype.symm.trans hsnap) hsnap'
    · obtain rfl : t = t₂ := Option.some.inj (hget.symm.trans ht₂)
      have hne : ∀ id v a, st.artifactTable id v = some a → id ≠ "" := by
        intro id v a ha
        rw [hc.artifacts] at ha
        obtain ⟨row, -, hrow, -⟩ := Postgres.artifactTable_eq_some.1 ha
        exact (hdb.artifactKey id row hrow).2
      have hpointers : ∀ k, (st'.tripTable k).map (·.publication) = (db'.tripTable k).map (·.publication) := by
        rw [hT, hT']
        exact map_publication_update _ _ hpoint.symm
      have hpub := (hc.publicationOk hst hdb).pub
      rw [samePublication_iff hA hA' hpointers, hp.displaces_iff]
      constructor
      · rintro h ⟨-, u, id, v, a, hu, hpt, ha, hno⟩
        obtain rfl : t = u := Except.ok.inj (ht.symm.trans hu)
        exact (snapshotStatus_eq_iff hpub hne hget hstored hsnap ha).1 (h id v a ha) ⟨hpt, hno⟩
      · intro h id v a ha
        refine (snapshotStatus_eq_iff hpub hne hget hstored hsnap ha).2 fun ⟨hpt, hno⟩ => h ?_
        exact ⟨hsnap, t, id, v, a, ht, hpt, ha, hno⟩

/-- The tables of the in-memory store after a publication for a principal who may not write the Trip: the result
    is published, no Trip is written, and no status changes if it was published before. -/
theorem memory_unwritable_tables {e : StoreError} (herr : tripLocked p run.tripId true st = .error e) :
    ∃ f, (final ((mutateRun env p runId m).run st)).artifactTable = restatus f st.artifactTable ∧
      (final ((mutateRun env p runId m).run st)).tripTable = st.tripTable ∧ f stored = .published ∧
      (stored.status = .published → ∀ id v a, st.artifactTable id v = some a → f a = a.status) := by
  have hok := hc.publicationOk hst hdb
  obtain ⟨hmem, hid, hget, htrip⟩ := storedResult_key hok hp.stored_ok
  have hver : stored.version = result.version := (storedResult_mem hst hp.stored_ok).2
  by_cases hsnap : stored.artifactType = "TripSnapshot"
  · -- the exception leaves the statuses rewritten
    have hraise := mutateRun_of_publish_error hp.read hp.fence hp.version (by
      rw [hp.result_eq]
      exact publishResult_half env hp.stored_ok hsnap herr)
    rw [hraise, final_error]
    have hr := restatused_replaceVersion hst (s := .published) hmem
    refine ⟨snapshotStatus stored, ?_, rfl, snapshotStatus_this ⟨rfl, rfl⟩, fun hpub id v a ha => ?_⟩
    · rw [(hr.trans (restatused_supersede hr.ok (otherSnapshots run.tripId stored))).table, ← hid, ← htrip]
      rfl
    · obtain ⟨trip, htripRead⟩ := (runLocked_ok hp.read).2.2
      have htripGet : st.tripTable stored.tripId = some trip := by
        rw [htrip]
        exact (tripLocked_ok htripRead).1
      by_cases he : a.artifactId = stored.artifactId ∧ a.version = stored.version
      · rw [snapshotStatus_this he, hok.pub.eq_of_key ha hget he, hpub]
      · -- a published snapshot is the only one of its Trip
        rw [snapshotStatus_other he, if_neg]
        rintro ⟨h₁, h₂, h₃⟩
        obtain ⟨rfl, rfl⟩ := hok.pub.key id v a ha
        have hpoint := hok.pub.only _ _ _ _ _ htripGet ha h₂ h₃ h₁
        have hpoint' := hok.pub.only _ _ _ _ _ htripGet hget rfl hsnap hpub
        exact he ⟨Option.some.inj (hpoint.1.symm.trans hpoint'.1), Option.some.inj (hpoint.2.symm.trans hpoint'.2)⟩
  · obtain ⟨st₁, hpublish⟩ := publishResult_accepted env hp.stored_ok fun h => absurd h hsnap
    obtain ⟨x, st', hx⟩ := mutateRun_of_publish hp.read hp.fence hp.version (by rw [hp.result_eq]; exact hpublish)
    rw [hx, final_ok]
    obtain ⟨stored₁, hstored₁, ⟨-, hT, hA⟩ | ⟨hsnap', -⟩⟩ := memory_mutateRun_tables hok hp.result_eq hx
    · rw [← hid, ← hver] at hA
      refine ⟨_, hA, hT, if_pos ⟨rfl, rfl⟩, fun hpub id v a ha => ?_⟩
      by_cases he : a.artifactId = stored.artifactId ∧ a.version = stored.version
      · rw [statusAt, if_pos he, hok.pub.eq_of_key ha hget he, hpub]
      · rw [statusAt, if_neg he]
    · rw [← hid, ← hver, hget] at hstored₁
      cases hstored₁
      exact absurd hsnap' hsnap

/-- Where the principal may not write the Trip, only the in-memory store changes, and it leaves the result
    published. -/
theorem mutateRun_unwritable {e : StoreError} (herr : tripLocked p run.tripId true st = .error e) :
    SamePublication (final ((mutateRun env p runId m).run st)) db ↔ stored.status = .published := by
  have hself : db.artifactTable = restatus (·.status) st.artifactTable := by
    rw [hc.artifacts]
    funext id v
    exact Option.map_id'.symm
  obtain ⟨-, -, hget, -⟩ := storedResult_key (hc.publicationOk hst hdb) hp.stored_ok
  obtain ⟨f, hA, hT, hstatus, hsame⟩ := memory_unwritable_tables hst hdb hc hp herr
  rw [samePublication_iff hA hself fun k => by rw [hT, hc.trips]]
  constructor
  · intro h
    rw [← h _ _ stored hget, hstatus]
  · intro hpub id v a ha
    exact hsame hpub id v a ha

end

section
variable {env : Env} {env' : Postgres.Env} {p : Principal} {runId : String} {m : RunMutation} {result : ArtifactView}
  (hres : m.resultArtifact = some result)
include hres

omit hst in
/-- What the PostgreSQL store checks, in the terms of the other one. -/
theorem Corresponds.accepted_iff (hlog : Postgres.DatabaseOk db)
    (hcall : SameCall env env' (.mutateRun p runId m) st db) :
    (∃ y db', (Postgres.mutateRun env' p runId m).run db = .ok y db') ↔
      ∃ run stored t, PublishesRun env p runId m st run result stored ∧ tripLocked p run.tripId true st = .ok t := by
  have hid : ∀ {run}, runLocked p runId st = .ok run → run.runId = runId := by
    intro run hread
    obtain ⟨row, hrow, rfl, -⟩ := Postgres.getRunTx_ok (hc.run_iff.1 hread)
    exact (hlog.log runId row.run _ (Postgres.Database.log_eq_some.2 ⟨row, hrow, rfl, rfl⟩)).1
  have hseq : ∀ run, Postgres.getRunTx p runId db = .ok run →
      ∀ r ∈ db.events, ¬ (r.event.runId = run.runId ∧ r.event.seq = run.controlVersion + 1) := by
    intro run hread
    obtain ⟨row, hrow, rfl, -⟩ := Postgres.getRunTx_ok hread
    exact hlog.next_unused hrow
  rw [Postgres.mutateRun_accepted_iff hres hcall.event hseq]
  constructor
  · rintro ⟨run, t, hread, hfence, hversion, htrip, hrow⟩
    have hread' := hc.run_iff.2 hread
    obtain ⟨stored, hstored⟩ := (hc.result_iff hdb htrip).2 hrow
    exact ⟨run, stored, t, ⟨hread', (hc.fence_iff hcall.clock hread' (hid hread')).2 hfence, hversion, hres, hstored⟩,
      hc.trip_iff.2 htrip⟩
  · rintro ⟨run, stored, t, hp, hwrite⟩
    have htrip := hc.trip_iff.1 hwrite
    exact ⟨run, t, hc.run_iff.1 hp.read, (hc.fence_iff hcall.clock hp.read (hid hp.read)).1 hp.fence, hp.version,
      htrip, (hc.result_iff hdb htrip).1 ⟨stored, hp.stored_ok⟩⟩

omit hst hdb hc in
theorem memory_mutateRun_refused (hno : ¬ ∃ run stored, PublishesRun env p runId m st run result stored) :
    final ((mutateRun env p runId m).run st) = st := by
  cases hm : (mutateRun env p runId m).run st with
  | ok x st' =>
    obtain ⟨run, st₁, hmut, -⟩ := mutateRun_ok hm
    have hpublish := hmut.publish
    rw [hres] at hpublish
    obtain ⟨stored, hstored, -⟩ := publishResult_ok hpublish
    exact absurd ⟨run, stored, hmut.read, hmut.fence, hmut.version, hres, hstored⟩ hno
  | error e st' =>
    obtain rfl | ⟨run, hread, hfence, hversion, hpublish⟩ := mutateRun_error hm
    · rfl
    · rw [hres] at hpublish
      obtain rfl | ⟨stored, hstored, -⟩ := publishResult_error hpublish
      · rfl
      · exact absurd ⟨run, stored, hread, hfence, hversion, hres, hstored⟩ hno

/-- Every outcome of a transition with a result: both stores publish it, or the in-memory store only, or
    neither. -/
theorem mutateRun_alike (hlog : Postgres.DatabaseOk db) (hcall : SameCall env env' (.mutateRun p runId m) st db)
    (htype : ∀ a, db.artifactTable result.artifactId result.version = some a → a.artifactType = result.artifactType) :
    SamePublication (final ((mutateRun env p runId m).run st)) (final ((Postgres.mutateRun env' p runId m).run db)) ↔
      ¬ (StoreOp.mutateRun p runId m).Displaces env st ∧ ¬ (StoreOp.mutateRun p runId m).Oversteps env st := by
  have haccepted := hc.accepted_iff hdb hres hlog hcall
  have hrefused : (¬ ∃ y db', (Postgres.mutateRun env' p runId m).run db = .ok y db') →
      final ((Postgres.mutateRun env' p runId m).run db) = db := by
    intro hno
    cases hd : (Postgres.mutateRun env' p runId m).run db with
    | ok y db' => exact absurd ⟨y, db', hd⟩ hno
    | error e db' => exact Postgres.transaction_error hd
  by_cases hpub : ∃ run stored, PublishesRun env p runId m st run result stored
  · obtain ⟨run, stored, hp⟩ := hpub
    cases hwrite : tripLocked p run.tripId true st with
    | ok t =>
      obtain ⟨st₁, hpublish⟩ := publishResult_accepted env hp.stored_ok fun _ => ⟨t, hwrite⟩
      obtain ⟨x, st', hm⟩ := mutateRun_of_publish hp.read hp.fence hp.version (by rw [hres]; exact hpublish)
      obtain ⟨y, db', hd⟩ := haccepted.2 ⟨run, stored, t, hp, hwrite⟩
      have hstored := (storedResult_ok hp.stored_ok).1
      rw [hc.artifacts] at hstored
      rw [hm, hd, final_ok, final_ok, mutateRun_agree hst hdb hc hp hwrite (htype _ hstored) hm hd]
      refine (and_iff_left fun hoversteps => ?_).symm
      obtain ⟨⟨e, herr⟩, -⟩ := hp.oversteps_iff.1 hoversteps
      rw [hwrite] at herr
      cases herr
    | error e =>
      have hno : ∀ t, tripLocked p run.tripId true st ≠ .ok t := by
        intro t ht
        rw [hwrite] at ht
        cases ht
      have hdisplaces : ¬ (StoreOp.mutateRun p runId m).Displaces env st := by
        intro hdisplaces
        obtain ⟨-, t, _, _, _, ht, -⟩ := hp.displaces_iff.1 hdisplaces
        exact hno t ht
      rw [hrefused, mutateRun_unwritable hst hdb hc hp hwrite, and_iff_right hdisplaces, hp.oversteps_iff,
        and_iff_right ⟨e, hwrite⟩, not_not]
      rw [haccepted]
      rintro ⟨run', stored', t, hp', ht⟩
      obtain ⟨rfl, -⟩ := hp.unique hp'
      exact hno t ht
  · have hno : ∀ {run stored : _}, ∀ result', PublishesRun env p runId m st run result' stored → False := by
      intro run stored result' hp
      obtain rfl := Option.some.inj (hres.symm.trans hp.result_eq)
      exact hpub ⟨run, stored, hp⟩
    rw [memory_mutateRun_refused hres hpub, hrefused]
    · refine iff_of_true hc.samePublication ⟨?_, ?_⟩
      · rintro ⟨_, _, _, _, _, _, _, _, _, _, ho, hp, -⟩
        cases ho
        exact hno _ hp
      · rintro ⟨_, _, _, _, _, _, _, ho, hp, -⟩
        cases ho
        exact hno _ hp
    · rw [haccepted]
      rintro ⟨run, stored, t, hp, -⟩
      exact hno _ hp

end

theorem commandArtifact_agree {env : Env} {env' : Postgres.Env} {p : Principal} {id : String}
    {request : ArtifactCommandRequest} {key requestHash : String} {x y : IdempotentArtifactResult}
    (hpub : request.type = .publish) (hx : x.replayed = false) (hy : y.replayed = false)
    (hm : (commandArtifact env p id request key requestHash).run st = .ok x st')
    (hd : (Postgres.commandArtifact env' p id request key requestHash).run db = .ok y db') :
    SamePublication st' db' := by
  have hok := hc.publicationOk hst hdb
  obtain ⟨-, hx'⟩ | ⟨current, trip, hread, htrip, hm⟩ := commandArtifact_ok hm
  · rw [hx] at hx'; cases hx'
  obtain ⟨-, hy'⟩ | ⟨current', trip', hread', htrip', harts, hd⟩ :=
    Postgres.commandArtifact_ok hdb.pub.tripKey hd
  · rw [hy] at hy'; cases hy'
  -- both read the newest version
  obtain ⟨hmem, hle⟩ := latestVersion_spec (artifactLocked_latest hread).1
  have hget : st.artifactTable id current.version = some current :=
    (findVersion_eq_some (hst id)).2 ⟨hmem, rfl⟩
  obtain ⟨rfl, hget', -, hle'⟩ := Postgres.getArtifactTx_table hdb.keyed hread'
  have hle₁ := hle' _ _ (hc.artifacts ▸ hget)
  have hle₂ := hle _ ((findVersion_eq_some (hst _)).1 (hc.artifacts ▸ hget')).1
  obtain rfl : current = current' := by
    rw [hc.artifacts, Nat.le_antisymm hle₁ hle₂, hget'] at hget
    exact (Option.some.inj hget).symm
  obtain ⟨htget, -⟩ := tripLocked_ok htrip
  obtain ⟨htget', hten⟩ := Postgres.getTripTx_ok htrip'
  obtain rfl : trip = trip' := by
    have h₁ : st.tripTable current.tripId = some trip := htget
    rw [hc.trips] at h₁
    exact Option.some.inj (h₁.symm.trans htget')
  rw [hpub] at hm hd
  cases hm with
  | publish _ htrips harts₁ =>
    cases hd with
    | publish _ htrips' hversions =>
      have hr := restatused_replaceVersion hst (s := .published) hmem
      have hsup := (hr.trans (restatused_supersede hr.ok (otherVersions current))).congr harts₁
      have hA := hsup.table
      rw [hc.artifacts] at hA
      refine (samePublication_iff hA (hdb.keyed.commandPublished harts hversions).table ?_).2
        fun id v a ha => commandPublished_eq hdb htget' hten ha
      rw [Store.tripTable_set htrips, Postgres.tripTable_set htrips', hc.trips]
      exact map_publication_update _ _ rfl

/-- Every outcome of a publish command. -/
theorem commandArtifact_alike {env : Env} {env' : Postgres.Env} {p : Principal} {id : String}
    {request : ArtifactCommandRequest} {key requestHash : String} (hpub : request.type = .publish)
    (hcall : SameCall env env' (.commandArtifact p id request key requestHash) st db) :
    SamePublication (final ((commandArtifact env p id request key requestHash).run st))
      (final ((Postgres.commandArtifact env' p id request key requestHash).run db)) := by
  have happlied : (∃ x st', (commandArtifact env p id request key requestHash).run st = .ok x st' ∧
      x.replayed = false) ↔
      ∃ y db', (Postgres.commandArtifact env' p id request key requestHash).run db = .ok y db' ∧
        y.replayed = false := by
    rw [commandArtifact_applied_iff, Postgres.publishCommand_applied_iff hdb hpub, hcall.key _ _ _ _ _ rfl]
    simp only [hc.artifact_iff hst hdb]
  by_cases hnew : ∃ x st', (commandArtifact env p id request key requestHash).run st = .ok x st' ∧ x.replayed = false
  · obtain ⟨y, db', hd, hy⟩ := happlied.1 hnew
    obtain ⟨x, st', hm, hx⟩ := hnew
    rw [hm, hd]
    exact commandArtifact_agree hst hdb hc hpub hx hy hm hd
  · have hkeeps : final ((commandArtifact env p id request key requestHash).run st) = st := by
      cases hm : (commandArtifact env p id request key requestHash).run st with
      | ok x st' =>
        refine commandArtifact_replayed hm ?_
        by_contra hx
        exact hnew ⟨x, st', hm, by simpa using hx⟩
      | error e st' => exact commandArtifact_error hm
    have hkeepsTx : final ((Postgres.commandArtifact env' p id request key requestHash).run db) = db := by
      cases hd : (Postgres.commandArtifact env' p id request key requestHash).run db with
      | ok y db' =>
        refine Postgres.commandArtifact_replayed hd ?_
        by_contra hy
        exact hnew (happlied.2 ⟨y, db', hd, by simpa using hy⟩)
      | error e db' => exact Postgres.transaction_error hd
    rw [hkeeps, hkeepsTx]
    exact hc.samePublication

end

/-- The world after one operation of the PostgreSQL store. -/
def PublicationWorld.afterTx (w : PublicationWorld Postgres.Database) (env : Postgres.Env)
    (o : StoreOp) : PublicationWorld Postgres.Database where
  store := final ((Postgres.runOp env o).run w.store)
  returned := (OpLabel.created ⟨env, o, outcome ((Postgres.runOp env o).run w.store)⟩).toList ++ w.returned

theorem reach_afterTx {w : PublicationWorld Postgres.Database} (env : Postgres.Env) (o : StoreOp)
    (h : (publicationSystem postgresBackend).Reach anyStep w) (hdisc : o.Disciplined w.returned) :
    (publicationSystem postgresBackend).Reach anyStep (w.afterTx env o) :=
  h.step trivial ⟨trivial, hdisc, .inl ⟨rfl, rfl⟩, rfl⟩

/-- **The stores publish alike.**  Whatever the outcome of a publication in corresponding reachable states, the
    two stores end with the same statuses, pointers and Trip versions, exactly if it neither replaces a version of
    another type by the snapshot of a Run as the target of its Trip, nor publishes the result of a Run for a
    principal who may not write the Trip. -/
theorem stores_publish_alike {w : PublicationWorld Store} {v : PublicationWorld Postgres.Database}
    (hw : (publicationSystem memoryBackend).Reach anyStep w)
    (hv : (publicationSystem postgresBackend).Reach anyStep v) (hc : Corresponds w.store v.store) {env : Env}
    {env' : Postgres.Env} {o : StoreOp} (hcall : SameCall env env' o w.store v.store) (hpub : o.Publishes)
    (hdisc : o.Disciplined v.returned) :
    SamePublication (w.after env o).store (v.afterTx env' o).store ↔
      ¬ o.Displaces env w.store ∧ ¬ o.Oversteps env w.store := by
  have hst := memory_artifactsOk hw
  have hdb := postgres_publicationOk hv
  cases o with
  | mutateRun p runId m =>
    obtain ⟨result, hres⟩ := Option.isSome_iff_exists.1 hpub
    exact mutateRun_alike hst hdb.pub hc hres (postgres_databaseOk hv) hcall (hdb.resultType (hdisc result hres))
  | commandArtifact p id request key requestHash =>
    refine iff_of_true (commandArtifact_alike hst hdb.pub hc hpub hcall) ⟨?_, ?_⟩
    · rintro ⟨_, _, _, _, _, _, _, _, _, _, ho, -⟩
      cases ho
    · rintro ⟨_, _, _, _, _, _, _, ho, -⟩
      cases ho
  | _ => exact absurd hpub id

/-! ## A supporting version in the place of the snapshot -/

namespace Displacement

def owner : Principal := { tenantId := "tenant", userId := "owner" }

def env (n : ℕ) : Postgres.Env := { now := n, token := fun _ => toString n, databaseNow := n }

def plan : RunCreation :=
  { tripId := "trip_1", command := { type := .tripPlan, message := "plan" }
    idempotencyKey := "key", requestHash := "hash", traceId := "trace" }

def artifact (id type : String) : ArtifactCreation :=
  { tripId := "trip_1", artifactId := some id, artifactType := type, schemaVersion := 1
    content := [], status := .validated }

/-- The Run publishes its snapshot. -/
def publication : StoreOp :=
  .mutateRun owner "run_2"
    { expectedControlVersion := 1
      resultArtifact := some ((artifact "snapshot" "TripSnapshot").artifact (env 3).toEnv owner)
      eventType := .artifactPublished, eventData := [] }

/-- A Trip, its Run, and the snapshot of the Run. -/
def planned : PublicationWorld Store :=
  ((({ store := {} } : PublicationWorld Store).after (env 1).toEnv
      (.createTrip owner { title := "Kyoto" })).after (env 2).toEnv (.createRun owner plan)).after
    (env 3).toEnv (.createArtifact owner (artifact "snapshot" "TripSnapshot"))

def plannedTx : PublicationWorld Postgres.Database :=
  ((({ store := {} } : PublicationWorld Postgres.Database).afterTx (env 1)
      (.createTrip owner { title := "Kyoto" })).afterTx (env 2) (.createRun owner plan)).afterTx
    (env 3) (.createArtifact owner (artifact "snapshot" "TripSnapshot"))

/-- The command that publishes the candidates. -/
def command : StoreOp :=
  .commandArtifact owner "candidates" { baseVersion := 1, type := .publish } "publish" "hash"

/-- The owner publishes a set of candidates. -/
def supported : PublicationWorld Store :=
  (planned.after (env 4).toEnv (.createArtifact owner (artifact "candidates" "CandidateSet"))).after
    (env 5).toEnv command

def supportedTx : PublicationWorld Postgres.Database :=
  (plannedTx.afterTx (env 4) (.createArtifact owner (artifact "candidates" "CandidateSet"))).afterTx
    (env 5) command

theorem planned_reachable : (publicationSystem memoryBackend).Reach anyStep planned := by
  have h₀ : (publicationSystem memoryBackend).Reach anyStep { store := {} } := .init rfl
  have h₁ := reach_after (env 1).toEnv (.createTrip owner { title := "Kyoto" }) h₀ trivial
    ⟨rfl, rfl⟩ trivial
  have h₂ := reach_after (env 2).toEnv (.createRun owner plan) h₁ trivial ⟨rfl, rfl⟩ trivial
  exact reach_after (env 3).toEnv _ h₂ trivial ⟨rfl, rfl⟩ (.inr rfl)

theorem plannedTx_reachable : (publicationSystem postgresBackend).Reach anyStep plannedTx := by
  have h₁ := reach_afterTx (env 1) (.createTrip owner { title := "Kyoto" }) (.init rfl) trivial
  have h₂ := reach_afterTx (env 2) (.createRun owner plan) h₁ trivial
  exact reach_afterTx (env 3) _ h₂ (.inr rfl)

theorem supported_reachable : (publicationSystem memoryBackend).Reach anyStep supported := by
  have h₄ := reach_after (env 4).toEnv (.createArtifact owner (artifact "candidates" "CandidateSet"))
    planned_reachable trivial ⟨rfl, rfl⟩ (.inr rfl)
  exact reach_after (env 5).toEnv command h₄ trivial ⟨rfl, rfl⟩ trivial

theorem supportedTx_reachable : (publicationSystem postgresBackend).Reach anyStep supportedTx := by
  have h₄ := reach_afterTx (env 4) (.createArtifact owner (artifact "candidates" "CandidateSet"))
    plannedTx_reachable (.inr rfl)
  exact reach_afterTx (env 5) command h₄ trivial

/-- The stored versions. -/
def snapshot : ArtifactView := (artifact "snapshot" "TripSnapshot").artifact (env 3).toEnv owner

def candidates : ArtifactView :=
  { (artifact "candidates" "CandidateSet").artifact (env 4).toEnv owner with status := .published }

/-- The only version of an Artifact, in the tables of both stores. -/
theorem findVersion_single {a : ArtifactView} (hone : a.version = 1)
    (hview : (Postgres.artifactRow a).view (Postgres.versionRow a) = a) (v : ℕ) :
    findVersion [a] v = (if v = 1 then some (Postgres.versionRow a) else none).map
      (Postgres.artifactRow a).view := by
  by_cases h : v = 1
  · simp [findVersion, h, hone, hview]
  · have : ¬ 1 = v := fun he => h he.symm
    simp [findVersion, h, hone, this]

theorem artifactTable_eq_bind (db : Postgres.Database) (id : String) (v : ℕ) :
    db.artifactTable id v =
      (db.artifacts.get? id).bind fun row => (db.versions.get? (id, v)).map row.view := by
  unfold Postgres.Database.artifactTable
  cases db.artifacts.get? id <;> cases db.versions.get? (id, v) <;> rfl

/-- Stores without leases that have the same tables, with one tenant. -/
theorem corresponds_of {st : Store} {db : Postgres.Database} (htrips : st.trips = db.trips)
    (hmembers : st.members = db.members)
    (htenants : ∀ t ∈ db.trips.entries, ∀ m ∈ db.members.entries, m.2.tenantId = t.2.tenantId)
    (hruns : st.runs = db.runs.mapValues (·.run))
    (hleases : st.executionLeases = ∅ ∧ st.executionAttempts = ∅)
    (hrows : ∀ r ∈ db.runs.entries, r.2.leaseOwner = none ∧ r.2.attempt = 0)
    (hartifacts : st.artifactTable = db.artifactTable) : Corresponds st db where
  trips := congrArg Dict.get? htrips
  members k t u ht := by
    rw [hmembers]
    cases hm : db.members.get? (k, u) with
    | none => rfl
    | some m =>
      have htenant := htenants _ (Dict.mem_entries_of_get? ht) _ (Dict.mem_entries_of_get? hm)
      rw [Option.filter_some, if_pos (beq_iff_eq.2 htenant)]
  runs id := by rw [hruns, Dict.get?_mapValues]
  leases := by
    funext r
    rw [Store.leaseTable, hleases.1, hleases.2, Postgres.Database.leaseTable]
    cases hr : db.runs.get? r with
    | none => rfl
    | some row =>
      obtain ⟨howner, hattempt⟩ := hrows _ (Dict.mem_entries_of_get? hr)
      replace howner : row.leaseOwner = none := howner
      replace hattempt : row.attempt = 0 := hattempt
      simp [Postgres.RunRow.cell, Postgres.RunRow.lease, howner, hattempt, Dict.getD]
  artifacts := hartifacts

theorem planned_corresponds : Corresponds planned.store plannedTx.store := by
  have hst : planned.store.artifacts = (∅ : Dict _ _).set "snapshot" [snapshot] := rfl
  have hA : plannedTx.store.artifacts =
    (∅ : Dict _ _).set "snapshot" (Postgres.artifactRow snapshot) := rfl
  have hV : plannedTx.store.versions =
    (∅ : Dict _ _).set ("snapshot", 1) (Postgres.versionRow snapshot) := rfl
  refine corresponds_of rfl rfl (by decide +kernel) rfl ⟨rfl, rfl⟩ (by decide +kernel) ?_
  funext id v
  rw [artifactTable_eq_bind, Store.artifactTable, hst, hA, hV]
  simp only [Dict.getD_set, Dict.get?_set, Prod.mk.injEq]
  by_cases h : id = "snapshot"
  · rw [if_pos h, if_pos h, findVersion_single rfl rfl]
    simp [h]
  · rw [if_neg h, if_neg h]
    rfl

theorem supported_corresponds : Corresponds supported.store supportedTx.store := by
  have hst : supported.store.artifacts =
    ((∅ : Dict _ _).set "snapshot" [snapshot]).set "candidates" [candidates] := rfl
  have hA : supportedTx.store.artifacts =
    ((∅ : Dict _ _).set "snapshot" (Postgres.artifactRow snapshot)).set "candidates"
      (Postgres.artifactRow candidates) := rfl
  have hV : supportedTx.store.versions =
    ((∅ : Dict _ _).set ("snapshot", 1) (Postgres.versionRow snapshot)).set ("candidates", 1)
      (Postgres.versionRow candidates) := rfl
  refine corresponds_of rfl rfl (by decide +kernel) rfl ⟨rfl, rfl⟩ (by decide +kernel) ?_
  funext id v
  rw [artifactTable_eq_bind, Store.artifactTable, hst, hA, hV]
  simp only [Dict.getD_set, Dict.get?_set, Prod.mk.injEq]
  by_cases h₁ : id = "candidates"
  · rw [if_pos h₁, if_pos h₁, findVersion_single rfl rfl]
    simp [h₁]
  · rw [if_neg h₁, if_neg h₁]
    by_cases h₂ : id = "snapshot"
    · rw [if_pos h₂, if_pos h₂, findVersion_single rfl rfl]
      simp [h₂]
    · rw [if_neg h₂, if_neg h₂]
      rfl

theorem publication_disciplined {returned : List ArtifactView}
    (h : (artifact "snapshot" "TripSnapshot").artifact (env 3).toEnv owner ∈ returned) :
    publication.Disciplined returned := by
  intro a ha
  cases ha
  exact h

/-- The publication is the same call of both stores. -/
theorem publication_sameCall {st : Store} {db : Postgres.Database}
    (h : ∀ r ∈ db.events, r.event.eventId ≠ "evt_6") : SameCall (env 6).toEnv (env 6) publication st db where
  clock := rfl
  event := h
  key := by
    intro _ _ _ _ _ ho
    cases ho

end Displacement

/-- The first publication of a Trip: in both stores the snapshot is published. -/
theorem stores_publish_alike_first :
    SamePublication (Displacement.planned.after (Displacement.env 6).toEnv Displacement.publication).store
      (Displacement.plannedTx.afterTx (Displacement.env 6) Displacement.publication).store ∧
    ((Displacement.plannedTx.afterTx (Displacement.env 6) Displacement.publication).store.artifactTable
      "snapshot" 1).map (·.status) = some .published := by
  refine ⟨(stores_publish_alike Displacement.planned_reachable Displacement.plannedTx_reachable
    Displacement.planned_corresponds (Displacement.publication_sameCall (by decide +kernel)) rfl
    (Displacement.publication_disciplined List.mem_cons_self)).2 ⟨?_, ?_⟩, rfl⟩
  · -- the Trip has no pointer yet
    rintro ⟨_, _, _, run, _, _, t, id, v, a, ho, hp, -, ht, hpoint, -⟩
    cases ho
    cases hp.read
    cases ht
    cases hpoint.1
  · -- its owner may write it
    rintro ⟨_, _, _, run, _, _, e, ho, hp, herr, -⟩
    cases ho
    cases hp.read
    cases herr

/-- A Run's snapshot replaces published candidates: the in-memory store leaves them published, the
    PostgreSQL store supersedes them. -/
theorem displaced_version_differs :
    ¬ ∀ (w : PublicationWorld Store) (v : PublicationWorld Postgres.Database) (env : Env) (env' : Postgres.Env)
      (o : StoreOp), (publicationSystem memoryBackend).Reach anyStep w →
      (publicationSystem postgresBackend).Reach anyStep v → Corresponds w.store v.store →
      SameCall env env' o w.store v.store → o.Publishes → o.Disciplined v.returned →
      SamePublication (w.after env o).store (v.afterTx env' o).store := by
  intro h
  have hs := h _ _ _ _ _ Displacement.supported_reachable Displacement.supportedTx_reachable
    Displacement.supported_corresponds (Displacement.publication_sameCall (by decide +kernel)) rfl
    (Displacement.publication_disciplined (List.mem_cons_of_mem _ List.mem_cons_self))
  have hcandidates := hs.statuses "candidates" 1
  cases hcandidates

end RoutePilot
