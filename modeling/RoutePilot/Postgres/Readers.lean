/-
  Who changes a Trip in the PostgreSQL store.

  Every operation that writes checks the write access to the Trip it writes,
  except `mutate_run` without a result and the operations on a lease, which
  only check that the caller may read the Run (`UncheckedWrite`).
-/
import RoutePilot.Proof.Lease
import RoutePilot.Spec.Readers
import RoutePilot.Store.Readers

namespace RoutePilot.Postgres

open Lib

/-- What the PostgreSQL store holds of its Trips. -/
def Database.view (db : Database) : PlatformView where
  trips := db.tripTable
  members := db.members.get?
  runs := db.log
  leases := db.leaseTable
  artifacts := db.artifactTable

/-- The row of the Run passes the check of the operation on its lease. -/
def LeaseWritable (env : Env) (db : Database) : StoreOp → Prop
  | .claimRunExecution _ runId _ _ => ∃ row, db.runs.get? runId = some row ∧
      row.run.lifecycleState.isExecutable = true ∧ row.isLeased env = false
  | .renewRunExecution p lease _ => ∃ row, db.runs.get? lease.runId = some row ∧
      row.holds p lease = true ∧ row.leaseUntil.any (env.databaseNow < ·) = true ∧
      row.run.lifecycleState.isExecutable = true
  | .releaseRunExecution p lease => ∃ row, db.runs.get? lease.runId = some row ∧
      row.holds p lease = true
  | _ => False

/-- What an operation on a lease checks first: the lease that it asks for, and that the caller may
    read the Run. -/
def LeaseReadable (db : Database) (tripId : String) : StoreOp → Prop
  | .claimRunExecution p runId owner duration => ∃ run, getRunTx p runId db = .ok run ∧
      run.tripId = tripId ∧ validateExecutionLeaseRequest owner duration = .ok ()
  | .renewRunExecution p lease duration => ∃ run, getRunTx p lease.runId db = .ok run ∧
      run.tripId = tripId ∧ validateExecutionLeaseRequest lease.owner duration = .ok ()
  | .releaseRunExecution p lease => ∃ run, getRunTx p lease.runId db = .ok run ∧ run.tripId = tripId
  | _ => False

/-- A transition of a Run of this Trip that passes its checks and publishes nothing, or a claim, a
    renewal or a release of the lease of such a Run that passes its checks. -/
def UncheckedWrite (env : Env) (db : Database) (tripId : String) : StoreOp → Prop
  | .mutateRun p runId m => ∃ run, getRunTx p runId db = .ok run ∧ run.tripId = tripId ∧
      checkFence env run m db = .ok () ∧ run.controlVersion = m.expectedControlVersion ∧
      m.resultArtifact = none
  | o => LeaseReadable db tripId o ∧ LeaseWritable env db o

/-- The call returns without a write: an operation on a lease that may be read and not be written. -/
def AnswersUnwritten (env : Env) (db : Database) (o : StoreOp) : Prop :=
  (∃ tripId, LeaseReadable db tripId o) ∧ ¬ LeaseWritable env db o

/-- Who passes the write check is no reader. -/
theorem getTripTx_write {p : Principal} {k : String} {db : Database} {trip : TripView}
    (h : getTripTx p k true db = .ok trip) : ¬ db.view.ReadOnly p k := by
  rintro ⟨t, ht, hread⟩
  obtain ⟨hget, hten⟩ := getTripTx_ok h
  have htrip : db.trips.get? k = some t := ht
  rw [hget] at htrip; cases htrip
  obtain ⟨howner, hadmin, hmember⟩ := hread hten.symm
  unfold getTripTx at h
  rw [hget] at h
  simp only [hten, ne_eq, not_true_eq_false, if_false, howner, hadmin, Bool.false_eq_true,
    not_false_eq_true, and_self, if_true] at h
  split at h
  · cases h
  · next member hm =>
    split at h
    · cases h
    · next hrole => exact hrole ⟨trivial, hmember member (Option.filter_eq_some_iff.1 hm).1⟩

/-! ## Operations that check the write access -/

section
variable {env : Env} {p : Principal} {k userId : String} {db db' : Database}

theorem patchTrip_write {request : TripPatchRequest} {x : TripView}
    (h : (patchTrip env p k request).run db = .ok x db') :
    ∃ trip, getTripTx p k true db = .ok trip := by
  simp only [patchTrip, transaction_ok, bind_ok, ask_ok, existsAndEq, true_and, and_assoc] at h
  obtain ⟨trip, hwrite, -⟩ := h
  exact ⟨trip, hwrite⟩

theorem setTripStatus_write {status : TripStatus} {x : TripView}
    (h : (setTripStatus env p k status).run db = .ok x db') :
    ∃ trip, getTripTx p k true db = .ok trip := by
  simp only [setTripStatus, transaction_ok, bind_ok, ask_ok, existsAndEq, true_and, and_assoc] at h
  obtain ⟨trip, hwrite, -⟩ := h
  exact ⟨trip, hwrite⟩

theorem createTrip_members {request : TripCreateRequest} {x : TripView}
    (h : (createTrip env p request).run db = .ok x db') :
    ∀ j u, j ≠ x.tripId → db'.members.get? (j, u) = db.members.get? (j, u) := by
  simp only [createTrip, transaction_ok, bind_ok, ensure_ok, EStateM.run_get, EStateM.run_modify,
    EStateM.run_pure, EStateM.Result.ok.injEq, existsAndEq, true_and, exists_const, and_assoc] at h
  obtain ⟨-, -, _, hout, rfl, -⟩ := h
  cases hout
  intro j u hj
  exact Dict.get?_set_ne _ (fun he => hj (congrArg Prod.fst he)) _

theorem upsertTripMember_write {role : GrantedRole} {x : TripMemberView}
    (h : (upsertTripMember env p k userId role).run db = .ok x db') :
    (∃ trip, getTripTx p k true db = .ok trip) ∧
      ∀ j u, j ≠ k → db'.members.get? (j, u) = db.members.get? (j, u) := by
  simp only [upsertTripMember, ensureManagesMembers, transaction_ok, bind_ok, ask_ok, ensure_ok,
    EStateM.run_get, EStateM.run_modify, EStateM.run_pure, EStateM.Result.ok.injEq, existsAndEq,
    true_and, exists_const, and_assoc] at h
  obtain ⟨-, -, trip, hwrite, -, -, -, _, hout, -⟩ := h
  cases hout
  refine ⟨⟨trip, hwrite⟩, fun j u hj => ?_⟩
  exact Dict.get?_set_ne _ (fun he => hj (congrArg Prod.fst he)) _

theorem removeTripMember_write {x : Unit} (h : (removeTripMember env p k userId).run db = .ok x db') :
    (∃ trip, getTripTx p k true db = .ok trip) ∧
      ∀ j u, j ≠ k → db'.members.get? (j, u) = db.members.get? (j, u) := by
  simp only [removeTripMember, ensureManagesMembers, transaction_ok, bind_ok, ask_ok, ensure_ok,
    EStateM.run_get, EStateM.run_modify, EStateM.Result.ok.injEq, existsAndEq,
    true_and, exists_const, and_assoc] at h
  obtain ⟨trip, hwrite, -, -, -, hout⟩ := h
  cases hout
  refine ⟨⟨trip, hwrite⟩, fun j u hj => ?_⟩
  exact Dict.get?_pop_ne _ fun he => hj (congrArg Prod.fst he)

theorem createRun_write {c : RunCreation} {x : IdempotentRunResult}
    (h : (createRun env p c).run db = .ok x db') : ∃ trip, getTripTx p c.tripId true db = .ok trip := by
  simp only [createRun, transaction_ok, bind_ok, ask_ok, existsAndEq, true_and, and_assoc] at h
  obtain ⟨trip, hwrite, -⟩ := h
  exact ⟨trip, hwrite⟩

theorem commandArtifact_write {artifactId key requestHash : String}
    {request : ArtifactCommandRequest} {x : IdempotentArtifactResult}
    (h : (commandArtifact env p artifactId request key requestHash).run db = .ok x db') :
    ∃ current, getArtifactTx p artifactId none true db = .ok current := by
  simp only [commandArtifact, transaction_ok, bind_ok, ask_ok, existsAndEq, true_and, and_assoc] at h
  obtain ⟨current, hread, -⟩ := h
  exact ⟨current, hread⟩

theorem resumeRun_write {runId : String} {r : RunResumption} {x : IdempotentRunResult}
    (h : (resumeRun env p runId r).run db = .ok x db') :
    ∃ run trip, getRunTx p runId db = .ok run ∧ getTripTx p run.tripId true db = .ok trip := by
  simp only [resumeRun, transaction_ok, bind_ok, ask_ok, existsAndEq, true_and, and_assoc] at h
  obtain ⟨run, hread, trip, hwrite, -⟩ := h
  exact ⟨run, trip, hread, hwrite⟩

end

/-! ## What an operation writes -/

/-- The tables `db'` differ from `db` in the Trip `k` and the versions of it, and stay consistent. -/
structure TripWrite (k : String) (db db' : Database) : Prop where
  trips : db'.trips = db.trips ∨ ∃ t, db'.trips = db.trips.set k t ∧ t.tripId = k ∧
    ∀ id v, t.PointsTo id v → ∃ a, db.artifactTable id v = some a ∧ a.tripId = k
  keyed : db'.Keyed
  keep : ∀ id v a, db.artifactTable id v = some a →
    ∃ a', db'.artifactTable id v = some a' ∧ a'.tripId = a.tripId
  other : ∀ id v a, a.tripId ≠ k →
    (db'.artifactTable id v = some a ↔ db.artifactTable id v = some a)

/-- What the reachable databases satisfy. -/
structure Database.Accessible (db : Database) : Prop where
  ok : DatabaseOk db
  leases : LeasesOk db
  keyed : db.Keyed
  tripKey : ∀ k t, db.trips.get? k = some t → t.tripId = k
  pointers : PointersOwn db.tripTable db.artifactTable

section
variable {db db' : Database} {k : String}

theorem Database.Keyed.table_key (h : db.Keyed) {id : String} {v : ℕ} {a : ArtifactView}
    (ha : db.artifactTable id v = some a) : a.artifactId = id ∧ a.version = v := by
  obtain ⟨row, r, hrow, hr, rfl⟩ := artifactTable_eq_some.1 ha
  exact ⟨h.artifactKey id row hrow, congrArg Prod.snd (h.versionKey _ r hr)⟩

/-- Neither Trips nor Artifacts are written. -/
theorem TripWrite.same (hok : db.Keyed) (k : String) (h : db'.artifactPart = db.artifactPart) :
    TripWrite k db db' := by
  have ha : db'.artifacts = db.artifacts := congrArg (·.2.1) h
  have hv : db'.versions = db.versions := congrArg (·.2.2) h
  have htable : db'.artifactTable = db.artifactTable := artifactTable_congr ha fun k => by rw [hv]
  refine ⟨.inl (congrArg Prod.fst h), ?_, fun id v a hget => ⟨a, by rw [htable]; exact hget, rfl⟩,
    fun id v a _ => by rw [htable]⟩
  exact ⟨ha ▸ hok.artifactKey, hv ▸ hok.versionKey, by rw [ha, hv]; exact hok.owner⟩

/-- A Trip is written. -/
theorem TripWrite.trip (hok : db.Keyed) {t : TripView}
    (h : db'.artifactPart = (db.trips.set k t, db.artifacts, db.versions)) (ht : t.tripId = k)
    (hp : ∀ id v, t.PointsTo id v → ∃ a, db.artifactTable id v = some a ∧ a.tripId = k) :
    TripWrite k db db' := by
  have ha : db'.artifacts = db.artifacts := congrArg (·.2.1) h
  have hv : db'.versions = db.versions := congrArg (·.2.2) h
  have htable : db'.artifactTable = db.artifactTable := artifactTable_congr ha fun k => by rw [hv]
  refine ⟨.inr ⟨t, congrArg Prod.fst h, ht, hp⟩, ?_,
    fun id v a hget => ⟨a, by rw [htable]; exact hget, rfl⟩, fun id v a _ => by rw [htable]⟩
  exact ⟨ha ▸ hok.artifactKey, hv ▸ hok.versionKey, by rw [ha, hv]; exact hok.owner⟩

/-- Statuses of the Trip are written. -/
theorem TripWrite.restatused (hok : db.Keyed) {f : ArtifactView → ArtifactStatus}
    (hr : Restatused f db db')
    (hf : ∀ id v a, db.artifactTable id v = some a → a.tripId ≠ k → f a = a.status)
    (htrips : db'.trips = db.trips ∨ ∃ t, db'.trips = db.trips.set k t ∧ t.tripId = k ∧
      ∀ id v, t.PointsTo id v → ∃ a, db.artifactTable id v = some a ∧ a.tripId = k) :
    TripWrite k db db' := by
  refine ⟨htrips, hr.keyed hok, fun id v a ha => ?_, fun id v a hk => ?_⟩
  · rw [hr.table]
    exact ⟨_, restatus_eq_some.2 ⟨a, ha, rfl⟩, rfl⟩
  · rw [hr.table]
    exact restatus_other hf hk

/-- A version of the Trip is added. -/
theorem TripWrite.version (hkeyed : db'.Keyed) {b : ArtifactView} (htrips : db'.trips = db.trips)
    (hnone : db.artifactTable b.artifactId b.version = none)
    (htable : ∀ id v, db'.artifactTable id v =
      if id = b.artifactId ∧ v = b.version then some b else db.artifactTable id v) :
    TripWrite b.tripId db db' := by
  refine ⟨.inl htrips, hkeyed, fun id v a ha => ⟨a, ?_, rfl⟩, fun id v a hk => ?_⟩
  · rw [htable, if_neg]
    · exact ha
    · rintro ⟨rfl, rfl⟩
      rw [hnone] at ha; cases ha
  · exact newVersion_other htable hnone hk

/-- The database stays consistent. -/
theorem TripWrite.accessible (h : TripWrite k db db') (hok : db.Accessible) (hlog : LeaseOk db') :
    db'.Accessible := by
  have hmono : PointersOwn db.tripTable db'.artifactTable := hok.pointers.mono h.keep
  obtain htrips | ⟨t, htrips, hkey, hp⟩ := h.trips
  · refine ⟨hlog.1, hlog.2, h.keyed, htrips ▸ hok.tripKey, ?_⟩
    rw [show db'.tripTable = db.tripTable by unfold Database.tripTable; rw [htrips]]
    exact hmono
  · refine ⟨hlog.1, hlog.2, h.keyed, fun j u hget => ?_, ?_⟩
    · rw [htrips, Dict.get?_set] at hget
      split at hget
      · next hj => cases hget; rw [hj]; exact hkey
      · exact hok.tripKey j u hget
    · rw [tripTable_set htrips]
      refine hmono.update fun id v hpt => ?_
      obtain ⟨a, ha, hk⟩ := hp id v hpt
      obtain ⟨a', ha', hk'⟩ := h.keep id v a ha
      exact ⟨a', ha', hk'.trans hk⟩

/-- Only the tables of Trips and Artifacts matter. -/
theorem TripWrite.congr {db₁ : Database} (h : TripWrite k db db₁)
    (hp : db'.artifactPart = db₁.artifactPart) : TripWrite k db db' := by
  have ht : db'.trips = db₁.trips := congrArg Prod.fst hp
  have ha : db'.artifacts = db₁.artifacts := congrArg (·.2.1) hp
  have hv : db'.versions = db₁.versions := congrArg (·.2.2) hp
  have htable : db'.artifactTable = db₁.artifactTable := artifactTable_congr ha fun k => by rw [hv]
  refine ⟨ht ▸ h.trips, ?_, htable ▸ h.keep, htable ▸ h.other⟩
  exact ⟨ha ▸ h.keyed.artifactKey, hv ▸ h.keyed.versionKey, by rw [ha, hv]; exact h.keyed.owner⟩

/-- Every other Trip is as before. -/
theorem TripWrite.confined (h : TripWrite k db db')
    (hm : ∀ j userId, j ≠ k → db'.members.get? (j, userId) = db.members.get? (j, userId))
    (hr : ∀ id run events, run.tripId ≠ k →
      (db'.log id = some (run, events) ↔ db.log id = some (run, events)))
    (hl : ∀ id run events, db.log id = some (run, events) → run.tripId ≠ k →
      db'.leaseTable id = db.leaseTable id) :
    Confined k db.view db'.view := by
  refine .of (fun j hj => ?_) hm hr hl h.other
  show db'.trips.get? j = db.trips.get? j
  obtain htrips | ⟨t, htrips, -⟩ := h.trips
  · rw [htrips]
  · rw [htrips, Dict.get?_set_ne _ hj]

end

/-! ## Every call -/

/-- The call writes one Trip, which its caller may write, or makes an unchecked write of it. -/
structure Touched (env : Env) (o : StoreOp) (k : String) (db db' : Database) : Prop where
  write : TripWrite k db db'
  members : ∀ j userId, j ≠ k → db'.members.get? (j, userId) = db.members.get? (j, userId)
  runs : ∀ id run events, run.tripId ≠ k →
    (db'.log id = some (run, events) ↔ db.log id = some (run, events))
  leases : ∀ id run events, db.log id = some (run, events) → run.tripId ≠ k →
    db'.leaseTable id = db.leaseTable id
  guarded : ¬ db.view.ReadOnly o.principal k ∨ UncheckedWrite env db k o

section
variable {env : Env} {p : Principal} {db db' : Database}

/-- The publication of a Run's result writes the Trip of the Run. -/
theorem publishResult_tripWrite {run : RunView} {result : ArtifactView} {u : Unit}
    (hok : db.Accessible) (h : (publishResult env p run result).run db = .ok u db') :
    TripWrite run.tripId db db' ∧ ∃ trip, getTripTx p run.tripId true db = .ok trip := by
  obtain ⟨ha, trip, hwrite, ⟨row, v, hrow, hrt, hver⟩, hp⟩ := publishResult_ok hok.tripKey h
  refine ⟨?_, trip, hwrite⟩
  have hresult : db.artifactTable result.artifactId result.version = some (row.view v) :=
    artifactTable_eq_some.2 ⟨row, v, hrow, hver, rfl⟩
  -- a version of another Trip is not the result
  have hne : ∀ id n a, db.artifactTable id n = some a → a.tripId ≠ run.tripId →
      ¬ (a.artifactId = result.artifactId ∧ a.version = result.version) := by
    rintro id n a hget hk ⟨h₁, h₂⟩
    obtain ⟨rfl, rfl⟩ := hok.keyed.table_key hget
    rw [h₁, h₂, hresult] at hget
    cases hget
    exact hk hrt
  obtain ⟨htget, -⟩ := getTripTx_ok hwrite
  have hkey := hok.tripKey _ _ htget
  cases hp with
  | other _ htrips hversions =>
    refine .restatused hok.keyed (hok.keyed.statusAt ha hversions) (fun id n a hget hk => ?_)
      (.inl htrips)
    rw [RoutePilot.statusAt, if_neg (hne id n a hget hk)]
  | @snapshot t' _ htrips hid _ hpoint _ hversions =>
    refine .restatused hok.keyed (hok.keyed.publishedStatus ha hversions) (fun id n a hget hk => ?_)
      (.inr ⟨t', hkey ▸ htrips, hid.trans hkey, fun id n hp => ?_⟩)
    · rw [Postgres.publishedStatus, if_neg (hne id n a hget hk), if_neg]
      -- the Trip points to its own versions only
      rintro ⟨⟨hp, -⟩, -⟩
      obtain ⟨b, hb, hbk⟩ := hok.pointers _ _ _ _ htget hp
      obtain ⟨rfl, rfl⟩ := hok.keyed.table_key hget
      rw [hget] at hb; cases hb
      exact hk hbk
    · obtain ⟨h₁, h₂⟩ := hpoint
      obtain ⟨h₃, h₄⟩ := hp
      rw [h₁] at h₃; rw [h₂] at h₄
      cases h₃; cases h₄
      exact ⟨_, hresult, hrt⟩

/-- A lifecycle command writes the Trip of its Artifact. -/
theorem Commanded.tripWrite {id : String} {current : ArtifactView} {trip : TripView}
    {command : ArtifactCommand} (hok : db.Accessible)
    (hread : getArtifactTx p id none true db = .ok current)
    (htrip : getTripTx p current.tripId true db = .ok trip) (ha : db'.artifacts = db.artifacts)
    (h : Commanded env p current trip db db' command) : TripWrite current.tripId db db' := by
  obtain ⟨-, hget, -, -⟩ := getArtifactTx_table hok.keyed hread
  have hkey := hok.tripKey _ _ (getTripTx_ok htrip).1
  have hne : ∀ id n a, db.artifactTable id n = some a → a.tripId ≠ current.tripId →
      ¬ (a.artifactId = current.artifactId ∧ a.version = current.version) := by
    rintro id n a hget' hk ⟨h₁, h₂⟩
    obtain ⟨rfl, rfl⟩ := hok.keyed.table_key hget'
    rw [h₁, h₂, hget] at hget'
    cases hget'
    exact hk rfl
  cases h with
  | select _ htrips hversions =>
    refine .restatused hok.keyed (hok.keyed.statusAt ha hversions) (fun id n a hget' hk => ?_)
      (.inl htrips)
    rw [RoutePilot.statusAt, if_neg (hne id n a hget' hk)]
  | publish _ htrips hversions =>
    refine .restatused hok.keyed (hok.keyed.commandPublished ha hversions)
      (fun id n a hget' hk => ?_) (.inr ⟨pointTrip env.toEnv trip _ _, hkey ▸ htrips, hkey, fun id n hp => ?_⟩)
    · rw [Postgres.commandPublished, if_neg (hne id n a hget' hk), if_neg fun h => hk h.1.2]
    · obtain ⟨h₁, h₂⟩ := hp
      cases h₁; cases h₂
      exact ⟨current, hget, rfl⟩
  | revoke _ htrips hversions =>
    refine .restatused hok.keyed (hok.keyed.statusAt ha hversions) (fun id n a hget' hk => ?_) ?_
    · rw [RoutePilot.statusAt, if_neg (hne id n a hget' hk)]
    · split at htrips
      · refine .inr ⟨pointTrip env.toEnv trip none none, hkey ▸ htrips, hkey, fun id n hp => ?_⟩
        cases hp.1
      · exact .inl htrips

/-- Nothing of the Trips changes. -/
theorem view_congr (hp : db'.artifactPart = db.artifactPart) (hm : db'.members = db.members)
    (hl : db'.log = db.log) (hleases : db'.leaseTable = db.leaseTable) : db'.view = db.view := by
  have ht : db'.trips = db.trips := congrArg Prod.fst hp
  have ha : db'.artifacts = db.artifacts := congrArg (·.2.1) hp
  have hv : db'.versions = db.versions := congrArg (·.2.2) hp
  have htable : db'.artifactTable = db.artifactTable := artifactTable_congr ha fun k => by rw [hv]
  unfold Database.view Database.tripTable
  rw [ht, hm, hl, htable, hleases]

/-- The Run a read check returns, as an entry of the log. -/
theorem getRunTx_log {runId : String} {run : RunView} (h : getRunTx p runId db = .ok run)
    (run' : RunView) (events : List RunEvent) (hL : db.log runId = some (run', events)) :
    run'.tripId = run.tripId := by
  obtain ⟨row, hrow, rfl, -⟩ := Database.log_eq_some.1 hL
  obtain ⟨row', hrow', rfl, -⟩ := getRunTx_ok h
  rw [hrow] at hrow'
  cases hrow'
  rfl

/-- The leases of the Runs of other Trips, when only those of one Run may change. -/
theorem leases_of_read {runId : String} {run : RunView} (h : getRunTx p runId db = .ok run)
    (hother : ∀ id, some runId ≠ some id → db'.leaseTable id = db.leaseTable id) (id : String)
    (run' : RunView) (events : List RunEvent) (hL : db.log id = some (run', events))
    (hk : run'.tripId ≠ run.tripId) : db'.leaseTable id = db.leaseTable id := by
  refine hother id fun hid => hk ?_
  obtain rfl : runId = id := Option.some.inj hid
  exact getRunTx_log h run' events hL

/-- An operation on a lease that writes it changes the Trip of its Run only. -/
theorem lease_touched {o : StoreOp} {runId : String} {run : RunView} (hok : db.Accessible)
    (hread : getRunTx p runId db = .ok run)
    (hother : ∀ id, some runId ≠ some id → db'.leaseTable id = db.leaseTable id)
    (hlog : db'.log = db.log) (hst : ∃ rows, db' = { db with runs := rows })
    (hunchecked : UncheckedWrite env db run.tripId o) : Touched env o run.tripId db db' := by
  have hleases := leases_of_read hread hother
  obtain ⟨rows, rfl⟩ := hst
  exact ⟨.same hok.keyed _ rfl, fun _ _ _ => rfl, fun _ _ _ _ => by rw [hlog], hleases,
    .inr hunchecked⟩

theorem claimRunExecution_read {runId owner : String} {duration : ℕ} {x : Option RunExecutionLease}
    (h : (claimRunExecution env p runId owner duration).run db = .ok x db') :
    validateExecutionLeaseRequest owner duration = .ok () ∧ ∃ run, getRunTx p runId db = .ok run := by
  simp only [claimRunExecution, transaction_ok, bind_ok, ask_ok, existsAndEq, true_and,
    and_assoc] at h
  obtain ⟨_, hvalid, run, hread, -⟩ := h
  exact ⟨hvalid, run, hread⟩

theorem renewRunExecution_read {lease : RunExecutionLease} {duration : ℕ}
    {x : Option RunExecutionLease}
    (h : (renewRunExecution env p lease duration).run db = .ok x db') :
    validateExecutionLeaseRequest lease.owner duration = .ok () ∧
      ∃ run, getRunTx p lease.runId db = .ok run := by
  simp only [renewRunExecution, transaction_ok, bind_ok, ask_ok, existsAndEq, true_and,
    and_assoc] at h
  obtain ⟨_, hvalid, run, hread, -⟩ := h
  exact ⟨hvalid, run, hread⟩

theorem releaseRunExecution_read {lease : RunExecutionLease} {x : Bool}
    (h : (releaseRunExecution p lease).run db = .ok x db') :
    ∃ run, getRunTx p lease.runId db = .ok run := by
  simp only [releaseRunExecution, transaction_ok, bind_ok, ask_ok, existsAndEq, true_and,
    and_assoc] at h
  obtain ⟨run, hread, -⟩ := h
  exact ⟨run, hread⟩

theorem mutateRun_touched {runId : String} {m : RunMutation} {x : RunView × RunEvent}
    (hok : db.Accessible) (hchange : LogChange db.log db'.log (.mutateRun p runId m) (.ok x))
    (hother : ∀ id, some runId ≠ some id → db'.leaseTable id = db.leaseTable id)
    (h : (mutateRun env p runId m).run db = .ok x db') :
    ∃ k, Touched env (.mutateRun p runId m) k db db' := by
  obtain ⟨run, db₁, u, hread, hpub, hpart⟩ := mutateRun_publish h
  have hmembers : db'.members = db.members := by
    have hk : (final ((mutateRun env p runId m).run db)).members = db.members :=
      runOp_keeps_members env (.mutateRun p runId m) id db
    rwa [h] at hk
  have hwrite : TripWrite run.tripId db db' ∧
      (¬ db.view.ReadOnly p run.tripId ∨ UncheckedWrite env db run.tripId (.mutateRun p runId m)) := by
    cases hr : m.resultArtifact with
    | none =>
      rw [hr] at hpub
      cases hpub
      obtain ⟨row, hrow, hfence, hversion, -⟩ := mutateRun_ok h
      obtain ⟨row', hrow', rfl, -⟩ := getRunTx_ok hread
      rw [hrow] at hrow'; cases hrow'
      exact ⟨.same hok.keyed _ hpart, .inr ⟨row.run, hread, rfl, hfence, hversion, hr⟩⟩
    | some result =>
      rw [hr] at hpub
      obtain ⟨hw, trip, hcheck⟩ := publishResult_tripWrite hok hpub
      exact ⟨hw.congr hpart, .inl (getTripTx_write hcheck)⟩
  exact ⟨run.tripId, hwrite.1, fun _ _ _ => by rw [hmembers],
    fun id run' events hk => hchange.mutateRun_other (getRunTx_log hread) hk,
    leases_of_read hread hother, hwrite.2⟩

/-- **Step lemma.**  What a call that returns changes, and who may call it. -/
theorem runOp_touched {o : StoreOp} {x : o.Ans} (hok : db.Accessible)
    (hchange : LogChange db.log db'.log o (.ok x))
    (hother : ∀ id, o.leasedRun ≠ some id → db'.leaseTable id = db.leaseTable id)
    (h : (runOp env o).run db = .ok x db') :
    (db'.artifactPart = db.artifactPart ∧ db'.view = db.view) ∨
      ∃ k, Touched env o k db db' := by
  have hmembers : ¬ o.WritesMembers → db'.members = db.members := by
    intro hw
    have hk := runOp_keeps_members env o hw db
    rwa [h] at hk
  have hpart : ¬ o.WritesArtifacts → db'.artifactPart = db.artifactPart := by
    intro hw
    have hk := runOp_keeps_artifactPart env o hw db
    rwa [h] at hk
  have hlog : o.writesLog = false → db'.log = db.log := hchange.log_eq
  have hunleased : o.leasedRun = none → ∀ id, db'.leaseTable id = db.leaseTable id :=
    fun hnone id => hother id (hnone ▸ (Option.some_ne_none id).symm)
  have hleases : ∀ {k}, o.leasedRun = none → ∀ id run events, db.log id = some (run, events) →
      run.tripId ≠ k → db'.leaseTable id = db.leaseTable id := fun hnone id _ _ _ _ =>
    hunleased hnone id
  by_cases hw : o.WritesTrips
  · cases o with
    | mutateRun p runId m => exact .inr (mutateRun_touched hok hchange hother h)
    | claimRunExecution p runId owner duration =>
      obtain ⟨hvalid, run, hread⟩ := claimRunExecution_read h
      obtain ⟨-, rfl⟩ | ⟨row, hrow, hfree, hexec, -, hst⟩ := claimRunExecution_ok h
      · exact .inl ⟨rfl, rfl⟩
      · exact .inr ⟨_, lease_touched hok hread hother (hlog rfl) ⟨_, hst⟩
          ⟨⟨run, hread, rfl, hvalid⟩, row, hrow, hexec, hfree⟩⟩
    | renewRunExecution p lease duration =>
      obtain ⟨hvalid, run, hread⟩ := renewRunExecution_read h
      obtain ⟨-, rfl⟩ | ⟨row, hrow, hholds, hlive, hexec, -, hst⟩ := renewRunExecution_ok h
      · exact .inl ⟨rfl, rfl⟩
      · exact .inr ⟨_, lease_touched hok hread hother (hlog rfl) ⟨_, hst⟩
          ⟨⟨run, hread, rfl, hvalid⟩, row, hrow, hholds, hlive, hexec⟩⟩
    | releaseRunExecution p lease =>
      obtain ⟨run, hread⟩ := releaseRunExecution_read h
      obtain ⟨-, rfl⟩ | ⟨row, hrow, hholds, -, hst⟩ := releaseRunExecution_ok h
      · exact .inl ⟨rfl, rfl⟩
      · exact .inr ⟨_, lease_touched hok hread hother (hlog rfl) ⟨_, hst⟩
          ⟨⟨run, hread, rfl⟩, row, hrow, hholds⟩⟩
    | createTrip p request =>
      obtain ⟨hfresh, hnone, hp⟩ := createTrip_ok h
      refine .inr ⟨x.tripId, .trip hok.keyed hp rfl (fun id v hpt => ?_), createTrip_members h,
        fun _ _ _ _ => by rw [hlog rfl], hleases rfl, .inl ?_⟩
      · cases hnone.symm.trans hpt.1
      · rintro ⟨t, ht, -⟩
        rw [show db.view.trips _ = none from hfresh] at ht
        cases ht
    | patchTrip p k request =>
      obtain ⟨v, t, ht, hp⟩ := patchTrip_ok h
      obtain ⟨trip, hwrite⟩ := patchTrip_write h
      exact .inr ⟨k, .trip hok.keyed hp (hok.tripKey k t ht) fun id n hpt =>
        hok.pointers k t id n ht hpt, fun _ _ _ => by rw [hmembers id],
        fun _ _ _ _ => by rw [hlog rfl], hleases rfl, .inl (getTripTx_write hwrite)⟩
    | setTripStatus p k status =>
      obtain ⟨v, t, ht, hp⟩ := setTripStatus_ok h
      obtain ⟨trip, hwrite⟩ := setTripStatus_write h
      exact .inr ⟨k, .trip hok.keyed hp (hok.tripKey k t ht) fun id n hpt =>
        hok.pointers k t id n ht hpt, fun _ _ _ => by rw [hmembers id],
        fun _ _ _ _ => by rw [hlog rfl], hleases rfl, .inl (getTripTx_write hwrite)⟩
    | upsertTripMember p k userId role =>
      obtain ⟨⟨trip, hwrite⟩, hmember⟩ := upsertTripMember_write h
      exact .inr ⟨k, .same hok.keyed k (hpart id), hmember, fun _ _ _ _ => by rw [hlog rfl],
        hleases rfl, .inl (getTripTx_write hwrite)⟩
    | removeTripMember p k userId =>
      obtain ⟨⟨trip, hwrite⟩, hmember⟩ := removeTripMember_write h
      exact .inr ⟨k, .same hok.keyed k (hpart id), hmember, fun _ _ _ _ => by rw [hlog rfl],
        hleases rfl, .inl (getTripTx_write hwrite)⟩
    | createRun p c =>
      obtain ⟨-, rfl⟩ | ⟨_, ⟨-, hnew⟩, -⟩ := createRun_ok h
      · exact .inl ⟨rfl, rfl⟩
      · obtain ⟨trip, _, hwrite, -, -, hrun⟩ := createRun_base h hnew
        have hkey : x.run.tripId = c.tripId := by
          rw [hrun]
          exact hok.tripKey _ _ (getTripTx_ok hwrite).1
        exact .inr ⟨c.tripId, .same hok.keyed _ (hpart id), fun _ _ _ => by rw [hmembers id],
          fun id run events hk => hchange.createRun_other (hkey ▸ hk), hleases rfl,
          .inl (getTripTx_write hwrite)⟩
    | resumeRun p runId r =>
      obtain ⟨run, trip, hread, hwrite⟩ := resumeRun_write h
      exact .inr ⟨run.tripId, .same hok.keyed _ (hpart id), fun _ _ _ => by rw [hmembers id],
        fun id run' events hk => hchange.resumeRun_other (getRunTx_log hread) hk,
        hleases rfl, .inl (getTripTx_write hwrite)⟩
    | createArtifact p c =>
      obtain ⟨hkeyed, hnone, htable⟩ := createArtifact_rows hok.keyed h
      obtain ⟨ha, ⟨trip, hwrite⟩, -, -, hp⟩ := createArtifact_ok h
      have hk : x.tripId = c.tripId := by rw [ha]; rfl
      exact .inr ⟨x.tripId, .version hkeyed (congrArg Prod.fst hp) hnone htable,
        fun _ _ _ => by rw [hmembers id], fun _ _ _ _ => by rw [hlog rfl], hleases rfl,
        .inl (getTripTx_write (hk ▸ hwrite))⟩
    | patchArtifact p artifactId request =>
      obtain ⟨⟨trip, hwrite⟩, -, htrips, -, hkeyed, hnone, htable⟩ := patchArtifact_rows hok.keyed h
      exact .inr ⟨x.tripId, .version hkeyed htrips hnone htable, fun _ _ _ => by rw [hmembers id],
        fun _ _ _ _ => by rw [hlog rfl], hleases rfl, .inl (getTripTx_write hwrite)⟩
    | commandArtifact p artifactId request key requestHash =>
      obtain ⟨rfl, -⟩ | ⟨current, trip, hread, htrip, ha, hc⟩ := commandArtifact_ok hok.tripKey h
      · exact .inl ⟨rfl, rfl⟩
      · exact .inr ⟨current.tripId, hc.tripWrite hok hread htrip ha,
          fun _ _ _ => by rw [hmembers id], fun _ _ _ _ => by rw [hlog rfl], hleases rfl,
          .inl (getTripTx_write htrip)⟩
    | _ => exact absurd hw id
  · have hkeep : ¬ o.WritesMembers ∧ ¬ o.WritesArtifacts ∧ o.writesLog = false ∧
        o.leasedRun = none := by
      cases o with
      | listTrips | getTrip | listTripMembers | getRun | listEvents | waitForEvents | listArtifacts
      | getArtifact => exact ⟨id, id, rfl, rfl⟩
      | _ => exact absurd trivial hw
    obtain ⟨h₁, h₂, h₃, h₄⟩ := hkeep
    exact .inl ⟨hpart h₂, view_congr (hpart h₂) (hmembers h₁) (hlog h₃) (funext (hunleased h₄))⟩

end

/-- **Step lemma.**  The reachable databases stay consistent. -/
theorem Database.Accessible.exec {env : Env} {o : StoreOp} {db db' : Database}
    {r : Except StoreError o.Ans} (hok : db.Accessible) (hx : postgresBackend.exec env o db r db') :
    db'.Accessible := by
  have hlog : LeaseOk db' := leaseInterface.exec_ok ⟨hok.ok, hok.leases⟩ hx
  cases r with
  | error e =>
    rw [postgresBackend_exec_error hx]
    exact hok
  | ok x =>
    have h := postgresBackend_exec_ok hx
    obtain ⟨hp, -⟩ | ⟨k, ht⟩ := runOp_touched hok (postgres_logChange hok.ok hx)
      (fun id hid => leases_other ⟨hok.ok, hok.leases⟩ hx hid) h
    · exact (TripWrite.same hok.keyed "" hp).accessible hok hlog
    · exact ht.write.accessible hok hlog

/-- What a call changes, and who may call it. -/
theorem postgres_guarded {env : Env} {o : StoreOp} {db db' : Database} {r : Except StoreError o.Ans}
    (hok : db.Accessible) (hx : postgresBackend.exec env o db r db') :
    db'.view = db.view ∨ ∃ k, Confined k db.view db'.view ∧
      (¬ db.view.ReadOnly o.principal k ∨ UncheckedWrite env db k o) := by
  cases r with
  | error e => exact .inl (by rw [postgresBackend_exec_error hx])
  | ok x =>
    obtain ⟨-, hv⟩ | ⟨k, ht⟩ := runOp_touched hok (postgres_logChange hok.ok hx)
      (fun id hid => leases_other ⟨hok.ok, hok.leases⟩ hx hid) (postgresBackend_exec_ok hx)
    · exact .inl hv
    · exact .inr ⟨k, ht.write.confined ht.members ht.runs ht.leases, ht.guarded⟩

/-! ## Calls that raise -/

/-- The latest version is in the table, and its Trip may be written. -/
theorem getArtifactTx_write {p : Principal} {artifactId : String} {db : Database} {a : ArtifactView}
    (hok : db.Keyed) (h : getArtifactTx p artifactId none true db = .ok a) :
    db.artifactTable artifactId a.version = some a ∧ ¬ db.view.ReadOnly p a.tripId := by
  obtain ⟨hid, hget, -⟩ := getArtifactTx_table hok h
  obtain ⟨row, v, -, -, -, rfl, ⟨trip, hwrite⟩, -⟩ := getArtifactTx_ok hok.versionKey h
  exact ⟨hid ▸ hget, getTripTx_write hwrite⟩

theorem getRunTx_targets {p : Principal} {runId tripId : String} {db : Database} {run : RunView}
    (h : getRunTx p runId db = .ok run)
    (ht : ∀ run events, db.log runId = some (run, events) → run.tripId = tripId) :
    run.tripId = tripId := by
  obtain ⟨row, hrow, rfl, -⟩ := getRunTx_ok h
  exact ht row.run _ (Database.log_eq_some.2 ⟨row, hrow, rfl, rfl⟩)

/-- The write that such an operation makes is unchecked. -/
theorem LeaseReadable.unchecked {env : Env} {o : StoreOp} {db : Database} {tripId : String}
    (hread : LeaseReadable db tripId o) (hwrite : LeaseWritable env db o) :
    UncheckedWrite env db tripId o := by
  cases o with
  | claimRunExecution | renewRunExecution | releaseRunExecution => exact ⟨hread, hwrite⟩
  | _ => exact hread.elim

theorem postgres_refuses {env : Env} {o : StoreOp} {db db' : Database} {x : o.Ans} {tripId : String}
    (hok : db.Accessible) (h : (runOp env o).run db = .ok x db') (ht : db.view.Targets tripId o) :
    ¬ db.view.ReadOnly o.principal tripId ∨ UncheckedWrite env db tripId o ∨ AnswersUnwritten env db o := by
  have hlease : LeaseReadable db tripId o → UncheckedWrite env db tripId o ∨ AnswersUnwritten env db o := by
    intro hread
    by_cases hwrite : LeaseWritable env db o
    · exact .inl (LeaseReadable.unchecked hread hwrite)
    · exact .inr ⟨⟨tripId, hread⟩, hwrite⟩
  cases o with
  | claimRunExecution p runId owner duration =>
    obtain ⟨hvalid, run, hread⟩ := claimRunExecution_read h
    exact .inr (hlease ⟨run, hread, getRunTx_targets hread ht, hvalid⟩)
  | renewRunExecution p lease duration =>
    obtain ⟨hvalid, run, hread⟩ := renewRunExecution_read h
    exact .inr (hlease ⟨run, hread, getRunTx_targets hread ht, hvalid⟩)
  | releaseRunExecution p lease =>
    obtain ⟨run, hread⟩ := releaseRunExecution_read h
    exact .inr (hlease ⟨run, hread, getRunTx_targets hread ht⟩)
  | patchTrip p k request =>
    obtain rfl : k = tripId := ht
    obtain ⟨t, hwrite⟩ := patchTrip_write h
    exact .inl (getTripTx_write hwrite)
  | setTripStatus p k status =>
    obtain rfl : k = tripId := ht
    obtain ⟨t, hwrite⟩ := setTripStatus_write h
    exact .inl (getTripTx_write hwrite)
  | upsertTripMember p k userId role =>
    obtain rfl : k = tripId := ht
    obtain ⟨⟨t, hwrite⟩, -⟩ := upsertTripMember_write h
    exact .inl (getTripTx_write hwrite)
  | removeTripMember p k userId =>
    obtain rfl : k = tripId := ht
    obtain ⟨⟨t, hwrite⟩, -⟩ := removeTripMember_write h
    exact .inl (getTripTx_write hwrite)
  | createRun p c =>
    obtain rfl : c.tripId = tripId := ht
    obtain ⟨t, hwrite⟩ := createRun_write h
    exact .inl (getTripTx_write hwrite)
  | createArtifact p c =>
    obtain rfl : c.tripId = tripId := ht
    obtain ⟨-, ⟨t, hwrite⟩, -⟩ := createArtifact_ok h
    exact .inl (getTripTx_write hwrite)
  | mutateRun p runId m =>
    obtain ⟨run, db₁, u, hread, hpub, -⟩ := mutateRun_publish h
    have hk := getRunTx_targets hread ht
    cases hr : m.resultArtifact with
    | none =>
      obtain ⟨row, hrow, hfence, hversion, -⟩ := mutateRun_ok h
      obtain ⟨row', hrow', rfl, -⟩ := getRunTx_ok hread
      rw [hrow] at hrow'; cases hrow'
      exact .inr (.inl ⟨row.run, hread, hk, hfence, hversion, hr⟩)
    | some result =>
      rw [hr] at hpub
      obtain ⟨-, trip, hwrite⟩ := publishResult_tripWrite hok hpub
      exact .inl (hk ▸ getTripTx_write hwrite)
  | resumeRun p runId r =>
    obtain ⟨run, trip, hread, hwrite⟩ := resumeRun_write h
    exact .inl (getRunTx_targets hread ht ▸ getTripTx_write hwrite)
  | patchArtifact p artifactId request =>
    obtain ⟨current, _, hread, -⟩ := patchArtifact_ok h
    obtain ⟨hget, hwrite⟩ := getArtifactTx_write hok.keyed hread
    exact .inl (ht _ _ hget ▸ hwrite)
  | commandArtifact p artifactId request key requestHash =>
    obtain ⟨current, hread⟩ := commandArtifact_write h
    obtain ⟨hget, hwrite⟩ := getArtifactTx_write hok.keyed hread
    exact .inl (ht _ _ hget ▸ hwrite)
  | _ => exact ht.elim

theorem Database.accessible_init : ({} : Database).Accessible := by
  refine ⟨⟨fun id run events h => ?_, fun r h => ?_⟩, fun r row h => ?_, ⟨fun id row h => ?_, fun k r h => ?_,
    fun k r h => ?_⟩, fun k t h => ?_, fun k t id v h _ => ?_⟩
  all_goals cases h

def postgresGuard : TripGuard postgresBackend where
  Ok := Database.Accessible
  view := Database.view
  unchecked := UncheckedWrite
  answers := AnswersUnwritten
  init := Database.accessible_init
  keep _ _ _ _ _ hok _ hx := hok.exec hx
  guarded _ _ _ _ _ hok _ hx := postgres_guarded hok hx
  refuses _ _ _ _ _ _ hok hx ht := postgres_refuses hok (postgresBackend_exec_ok hx) ht

end RoutePilot.Postgres
