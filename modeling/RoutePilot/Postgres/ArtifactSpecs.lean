/-
  What the operations of the PostgreSQL store do to Trips and Artifacts: the
  checks each one passed and the rows it wrote.
-/
import RoutePilot.Postgres.RunSpecs
import RoutePilot.Store.ArtifactSpecs

namespace RoutePilot.Postgres

open Lib

/-- The tables of Trips and Artifacts. -/
def Database.artifactPart (db : Database) :
    Dict String TripView × Dict String ArtifactRow × Dict (String × ℕ) VersionRow :=
  (db.trips, db.artifacts, db.versions)

theorem insertOutbox_part {env : Env} {t a i e : String} {x : Obj} {db db' : Database} {u : Unit}
    (h : (insertOutbox env t a i e x).run db = .ok u db') : db'.artifactPart = db.artifactPart := by
  cases h; rfl

/-! ## Access -/

theorem getTripTx_ok {p : Principal} {k : String} {w : Bool} {db : Database} {trip : TripView}
    (h : getTripTx p k w db = .ok trip) :
    db.trips.get? k = some trip ∧ trip.tenantId = p.tenantId := by
  unfold getTripTx at h
  split at h
  · cases h
  · next trip' htrip =>
    split at h
    · cases h
    · next hten =>
      split at h
      · split at h
        · cases h
        · split at h
          · cases h
          · cases h; exact ⟨htrip, not_not.1 hten⟩
      · cases h; exact ⟨htrip, not_not.1 hten⟩

theorem latestRow_spec {id : String} {db : Database} {v : VersionRow}
    (h : latestRow id db = some v) : (v ∈ db.versions.values ∧ v.artifactId = id) ∧
      ∀ w ∈ db.versions.values, w.artifactId = id → w.version ≤ v.version := by
  unfold latestRow at h
  split at h
  · cases h
  · next w ws heq =>
    obtain ⟨hm, hle⟩ := foldl_greatest VersionRow.version w ws
    obtain rfl := Option.some.inj h
    rw [← heq] at hm hle
    obtain ⟨h₁, h₂⟩ := List.mem_filter.1 hm
    exact ⟨⟨h₁, eq_of_beq h₂⟩, fun x hx hid => hle x (List.mem_filter.2 ⟨hx, beq_iff_eq.2 hid⟩)⟩

theorem latestRow_of_greatest {id : String} {db : Database} {v : VersionRow}
    (hkey : ∀ k r, db.versions.get? k = some r → (r.artifactId, r.version) = k)
    (hv : db.versions.get? (id, v.version) = some v)
    (hle : ∀ n r, db.versions.get? (id, n) = some r → n ≤ v.version) : latestRow id db = some v := by
  have hid : v.artifactId = id := congrArg Prod.fst (hkey _ _ hv)
  have hmem : v ∈ db.versions.values.filter (·.artifactId == id) :=
    List.mem_filter.2 ⟨Dict.mem_values_of_get? hv, beq_iff_eq.2 hid⟩
  cases hlatest : latestRow id db with
  | none =>
    unfold latestRow at hlatest
    split at hlatest
    · next hnil =>
      rw [hnil] at hmem
      cases hmem
    · cases hlatest
  | some l =>
    obtain ⟨⟨hl, hlid⟩, hge⟩ := latestRow_spec hlatest
    obtain ⟨k, hk⟩ := Dict.exists_get?_of_mem_values hl
    rw [← hkey k l hk, hlid] at hk
    have hsame := le_antisymm (hle _ _ hk) (hge v (Dict.mem_values_of_get? hv) hid)
    rw [hsame, hv] at hk
    exact hk.symm

/-- The version `_get_artifact_tx` reads, as rows of the two tables. -/
theorem getArtifactTx_ok {p : Principal} {id : String} {w : Bool} {db : Database} {a : ArtifactView}
    (hkey : ∀ k r, db.versions.get? k = some r → (r.artifactId, r.version) = k)
    (h : getArtifactTx p id none w db = .ok a) :
    ∃ row v, db.artifacts.get? id = some row ∧ row.tenantId = p.tenantId ∧
      db.versions.get? (id, v.version) = some v ∧ a = row.view v ∧
      (∃ trip, getTripTx p row.tripId w db = .ok trip) ∧
      ∀ n r, db.versions.get? (id, n) = some r → n ≤ v.version := by
  unfold getArtifactTx at h
  split at h
  · cases h
  · next row hrow =>
    obtain ⟨hget, hten⟩ := Option.filter_eq_some_iff.1 hrow
    split at h
    · cases h
    · next trip htrip =>
      simp only at h
      split at h
      · cases h
      · next v hv =>
        cases h
        obtain ⟨⟨hmem, rfl⟩, hle⟩ := latestRow_spec hv
        obtain ⟨k, hk⟩ := Dict.exists_get?_of_mem_values hmem
        rw [← hkey k v hk] at hk
        refine ⟨row, v, hget, eq_of_beq hten, hk, rfl, ⟨trip, htrip⟩, fun n r hr => ?_⟩
        obtain ⟨h₁, rfl⟩ := Prod.mk.inj (hkey _ r hr)
        exact hle r (Dict.mem_values_of_get? hr) h₁

/-! ## Trips -/

theorem createTrip_ok {env : Env} {p : Principal} {request : TripCreateRequest} {db db' : Database}
    {x : TripView} (h : (createTrip env p request).run db = .ok x db') :
    db.trips.get? x.tripId = none ∧ x.currentArtifactId = none ∧
      db'.artifactPart = (db.trips.set x.tripId x, db.artifacts, db.versions) := by
  simp only [createTrip, transaction_ok, bind_ok, ensure_ok, EStateM.run_get, EStateM.run_modify,
    EStateM.run_pure, EStateM.Result.ok.injEq, existsAndEq, true_and, exists_const, and_assoc] at h
  obtain ⟨hfresh, -, _, h, rfl, -⟩ := h
  exact ⟨Option.isNone_iff_eq_none.1 hfresh, rfl, insertOutbox_part h⟩

/-- Writing a Trip keeps its key and, if `f` does, its pointer. -/
theorem writeTrip_ok {env : Env} {p : Principal} {k : String} {v : ℕ} {f : TripView → TripView}
    {e : String} {db db' : Database} {x : TripView}
    (h : (writeTrip env p k v f e).run db = .ok x db') :
    ∃ t, db.trips.get? k = some t ∧
      db'.artifactPart = (db.trips.set k { f t with version := v + 1, updatedAt := env.now },
        db.artifacts, db.versions) := by
  simp only [writeTrip, bind_ok] at h
  obtain ⟨row, db₁, hup, h⟩ := h
  split at h
  · cases h
  · simp only [bind_ok, EStateM.run_pure, EStateM.Result.ok.injEq, existsAndEq] at h
    obtain ⟨_, h, -⟩ := h
    obtain ⟨t, ht, -, -, rfl⟩ := updateRow_some hup
    exact ⟨t, ht, insertOutbox_part h⟩

theorem patchTrip_ok {env : Env} {p : Principal} {k : String} {request : TripPatchRequest}
    {db db' : Database} {x : TripView} (h : (patchTrip env p k request).run db = .ok x db') :
    ∃ v t, db.trips.get? k = some t ∧
      db'.artifactPart = (db.trips.set k
        { request.apply t with version := v + 1, updatedAt := env.now }, db.artifacts, db.versions) := by
  simp only [patchTrip, transaction_ok, bind_ok, ask_ok, existsAndEq, true_and, and_assoc] at h
  obtain ⟨current, -, h⟩ := h
  exact ⟨_, writeTrip_ok h⟩

theorem setTripStatus_ok {env : Env} {p : Principal} {k : String} {status : TripStatus}
    {db db' : Database} {x : TripView} (h : (setTripStatus env p k status).run db = .ok x db') :
    ∃ v t, db.trips.get? k = some t ∧
      db'.artifactPart = (db.trips.set k
        { t with status := status, version := v + 1, updatedAt := env.now },
        db.artifacts, db.versions) := by
  simp only [setTripStatus, transaction_ok, bind_ok, ask_ok, existsAndEq, true_and, and_assoc] at h
  obtain ⟨current, -, h⟩ := h
  exact ⟨_, writeTrip_ok h⟩

/-! ## Artifacts -/

theorem insertVersion_ok {a : ArtifactView} {db db' : Database} {u : Unit}
    (h : (insertVersion a).run db = .ok u db') :
    db.versions.get? (a.artifactId, a.version) = none ∧
      db' = { db with versions := db.versions.set (a.artifactId, a.version) (versionRow a) } := by
  simp only [insertVersion, bind_ok, ensure_ok, EStateM.run_get, EStateM.run_modify,
    EStateM.Result.ok.injEq, existsAndEq, true_and, exists_const, and_assoc] at h
  obtain ⟨hfresh, -, rfl⟩ := h
  exact ⟨Option.isNone_iff_eq_none.1 hfresh, rfl⟩

/-- The row of a new Artifact. -/
def artifactRow (a : ArtifactView) : ArtifactRow :=
  ⟨a.artifactId, a.tripId, a.tenantId, a.artifactType, a.createdBy, a.createdAt⟩

theorem createArtifact_ok {env : Env} {p : Principal} {c : ArtifactCreation} {db db' : Database}
    {a : ArtifactView} (h : (createArtifact env p c).run db = .ok a db') :
    a = c.artifact env.toEnv p ∧ (∃ trip, getTripTx p c.tripId true db = .ok trip) ∧
      db.artifacts.get? a.artifactId = none ∧ db.versions.get? (a.artifactId, a.version) = none ∧
      db'.artifactPart = (db.trips, db.artifacts.set a.artifactId (artifactRow a),
        db.versions.set (a.artifactId, a.version) (versionRow a)) := by
  simp only [createArtifact, transaction_ok, bind_ok, ask_ok, ensure_ok, EStateM.run_get,
    EStateM.run_modify, EStateM.run_pure, EStateM.Result.ok.injEq, existsAndEq, true_and,
    exists_const, and_assoc] at h
  obtain ⟨_, -, trip, htrip, hfresh, _, db₁, hins, _, hout, rfl, -⟩ := h
  obtain ⟨hv, rfl⟩ := insertVersion_ok hins
  exact ⟨rfl, ⟨trip, htrip⟩, Option.isNone_iff_eq_none.1 hfresh, hv, insertOutbox_part hout⟩

theorem patchArtifact_ok {env : Env} {p : Principal} {id : String} {request : ArtifactPatchRequest}
    {db db' : Database} {x : ArtifactView}
    (h : (patchArtifact env p id request).run db = .ok x db') :
    ∃ current content, getArtifactTx p id none true db = .ok current ∧
      x = nextVersion env.toEnv current content ∧
      db.versions.get? (x.artifactId, x.version) = none ∧
      db'.artifactPart = (db.trips, db.artifacts,
        db.versions.set (x.artifactId, x.version) (versionRow x)) := by
  simp only [patchArtifact, transaction_ok, bind_ok, ask_ok, ensure_ok, EStateM.run_pure,
    EStateM.Result.ok.injEq, existsAndEq, true_and, exists_const, and_assoc] at h
  obtain ⟨current, hread, _, -, -, content, -, _, db₁, hins, _, hout, rfl, -⟩ := h
  obtain ⟨hv, rfl⟩ := insertVersion_ok hins
  exact ⟨current, content, hread, rfl, hv, insertOutbox_part hout⟩

/-! ## Publication by a Run -/

/-- The Trip points to this version, which is not the result. -/
def SupersededCurrent (trip : TripView) (result : ArtifactView) (k : String × ℕ) : Prop :=
  trip.PointsTo k.1 k.2 ∧ k.1 ≠ "" ∧ k ≠ (result.artifactId, result.version)

instance (trip : TripView) (result : ArtifactView) (k : String × ℕ) :
    Decidable (SupersededCurrent trip result k) :=
  inferInstanceAs (Decidable ((_ ∧ _) ∧ _ ∧ _))

/-- The version superseded by a new publication. -/
def supersededRow (trip : TripView) (result : ArtifactView) (k : String × ℕ) (v : VersionRow) :
    VersionRow :=
  if SupersededCurrent trip result k ∧ v.status = .published then { v with status := .superseded }
  else v

theorem supersedeCurrent_ok {trip : TripView} {result : ArtifactView} {db db' : Database} {u : Unit}
    (h : (supersedeCurrent trip result).run db = .ok u db') :
    ∃ V, db' = { db with versions := V } ∧
      ∀ k, V.get? k = (db.versions.get? k).map (supersededRow trip result k) := by
  -- a version that is not superseded stays as it is
  have hid : ∀ k, ¬ (SupersededCurrent trip result k ∧
      ∃ v, db.versions.get? k = some v ∧ v.status = .published) →
      db.versions.get? k = (db.versions.get? k).map (supersededRow trip result k) := by
    intro k hk
    cases hv : db.versions.get? k with
    | none => rfl
    | some v =>
      rw [Option.map_some, supersededRow, if_neg]
      rintro ⟨h₁, h₂⟩
      exact hk ⟨h₁, v, hv, h₂⟩
  unfold supersedeCurrent at h
  split at h
  · next id v hcid hcv =>
    split at h
    · next hskip =>
      cases h
      refine ⟨db.versions, rfl, fun k => hid k ?_⟩
      rintro ⟨⟨⟨h₁, h₂⟩, h₃, h₄⟩, -⟩
      rw [hcid] at h₁; rw [hcv] at h₂
      cases h₁; cases h₂
      obtain he | ⟨h₅, h₆⟩ := hskip
      · exact h₃ he
      · exact h₄ (by rw [← h₅, ← h₆])
    · next hkeep =>
      rw [not_or] at hkeep
      simp only [bind_ok, EStateM.run_pure, EStateM.Result.ok.injEq, existsAndEq, and_true] at h
      obtain ⟨row, h⟩ := h
      cases row with
      | none =>
        obtain ⟨rfl, hno⟩ := updateRow_none h
        refine ⟨db'.versions, rfl, fun k => hid k ?_⟩
        rintro ⟨⟨⟨h₁, h₂⟩, -⟩, w, hw, hp⟩
        rw [hcid] at h₁; rw [hcv] at h₂
        cases h₁; cases h₂
        have := hno w hw
        rw [hp] at this; cases this
      | some w =>
        obtain ⟨w₀, hw₀, hp, rfl, rfl⟩ := updateRow_some h
        refine ⟨_, rfl, fun k => ?_⟩
        rw [Dict.get?_set]
        split
        · next hk =>
          subst hk
          rw [show db.versions.get? (id, v) = some w₀ from hw₀, Option.map_some, supersededRow,
            if_pos]
          refine ⟨⟨⟨hcid, hcv⟩, hkeep.1, fun he => hkeep.2 ?_⟩, eq_of_beq hp⟩
          exact ⟨congrArg Prod.fst he, congrArg Prod.snd he⟩
        · next hk =>
          refine hid k ?_
          rintro ⟨⟨⟨h₁, h₂⟩, -⟩, -⟩
          rw [hcid] at h₁; rw [hcv] at h₂
          exact hk (Prod.ext (Option.some.inj h₁).symm (Option.some.inj h₂).symm)
  · next hno =>
    cases h
    refine ⟨db.versions, rfl, fun k => hid k ?_⟩
    rintro ⟨⟨⟨h₁, h₂⟩, -⟩, -⟩
    exact hno k.1 k.2 h₁ h₂

theorem resultRow_ok {p : Principal} {tripId : String} {result : ArtifactView} {db : Database}
    {u : Unit} (h : resultRow p tripId result db = .ok u) :
    ∃ row v, db.artifacts.get? result.artifactId = some row ∧ row.tripId = tripId ∧
      db.versions.get? (result.artifactId, result.version) = some v := by
  unfold resultRow at h
  split at h
  · next row v hrow hv =>
    obtain ⟨hget, hc⟩ := Option.filter_eq_some_iff.1 hrow
    simp only [Bool.and_eq_true, beq_iff_eq] at hc
    exact ⟨row, v, hget, hc.1, hv⟩
  · cases h

/-- The rows a Run's publication writes. -/
inductive PublishedBy (p : Principal) (run : RunView) (result : ArtifactView)
    (trip : TripView) (db db' : Database) : Prop
  | other (htype : result.artifactType ≠ "TripSnapshot") (htrips : db'.trips = db.trips)
      (hversions : ∀ k, db'.versions.get? k =
        if k = (result.artifactId, result.version) then
          (db.versions.get? k).map fun v => { v with status := .published }
        else db.versions.get? k)
  | snapshot {t' : TripView} (htype : result.artifactType = "TripSnapshot")
      (htrips : db'.trips = db.trips.set trip.tripId t') (hid : t'.tripId = trip.tripId)
      (hten : t'.tenantId = trip.tenantId) (hpoint : t'.PointsTo result.artifactId result.version)
      (hversion : t'.version = trip.version + 1)
      (hversions : ∀ k, db'.versions.get? k =
        if k = (result.artifactId, result.version) then
          (db.versions.get? k).map fun v => { v with status := .published }
        else (db.versions.get? k).map (supersededRow trip result k))

theorem publishResult_ok {env : Env} {p : Principal} {run : RunView} {result : ArtifactView}
    {db db' : Database} {u : Unit}
    (hkey : ∀ k t, db.trips.get? k = some t → t.tripId = k)
    (h : (publishResult env p run result).run db = .ok u db') :
    db'.artifacts = db.artifacts ∧ ∃ trip, getTripTx p run.tripId true db = .ok trip ∧
      (∃ row v, db.artifacts.get? result.artifactId = some row ∧ row.tripId = run.tripId ∧
        db.versions.get? (result.artifactId, result.version) = some v) ∧
      PublishedBy p run result trip db db' := by
  simp only [publishResult, bind_ok, ask_ok, existsAndEq, true_and, and_assoc] at h
  obtain ⟨trip, htrip, _, hrow, row', db₁, hup, h⟩ := h
  obtain ⟨row, v, hget, hrt, hv⟩ := resultRow_ok hrow
  have hset : db₁ = { db with
      versions := db.versions.set (result.artifactId, result.version)
        { v with status := .published } } := by
    cases row' with
    | none =>
      obtain ⟨-, hno⟩ := updateRow_none hup
      cases hno v hv
    | some w =>
      obtain ⟨v₀, hv₀, -, -, rfl⟩ := updateRow_some hup
      rw [show db.versions.get? _ = some v₀ from hv₀] at hv
      cases hv; rfl
  have hversions : ∀ k, db₁.versions.get? k =
      if k = (result.artifactId, result.version) then
        (db.versions.get? k).map fun v => { v with status := .published }
      else db.versions.get? k := by
    intro k
    rw [hset, Dict.get?_set]
    split
    · next hk => rw [hk, hv]; rfl
    · rfl
  split at h
  · next htype =>
    simp only [bind_ok, EStateM.run_pure, EStateM.Result.ok.injEq, existsAndEq, and_true] at h
    obtain ⟨_, db₂, hsup, trow, h⟩ := h
    obtain ⟨V, rfl, hV⟩ := supersedeCurrent_ok hsup
    obtain ⟨htget, hten⟩ := getTripTx_ok htrip
    have hkey' := hkey _ _ htget
    cases trow with
    | none =>
      obtain ⟨-, hno⟩ := updateRow_none h
      have := hno trip (by rw [hset, hkey']; exact htget)
      simp [hten] at this
    | some t' =>
      obtain ⟨t₀, ht₀, -, rfl, rfl⟩ := updateRow_some h
      have : t₀ = trip := by
        rw [hset, hkey'] at ht₀
        exact Option.some.inj (ht₀.symm.trans htget)
      subst this
      let pointed : TripView := { t₀ with
        currentArtifactId := some result.artifactId
        currentArtifactVersion := some result.version
        version := t₀.version + 1, updatedAt := env.now }
      refine ⟨by rw [hset], t₀, htrip, ⟨row, v, hget, hrt, hv⟩,
        @PublishedBy.snapshot p run result t₀ db _ pointed htype ?_ rfl rfl ⟨rfl, rfl⟩ rfl ?_⟩
      · rw [hset]
      · intro k
        show V.get? k = _
        rw [hV, hversions]
        split
        · next hk =>
          rw [hk, hv]
          simp [supersededRow, SupersededCurrent]
        · rfl
  · next htype =>
    cases h
    exact ⟨by rw [hset], trip, htrip, ⟨row, v, hget, hrt, hv⟩, .other htype (by rw [hset]) hversions⟩

theorem supersedeCurrent_returns (trip : TripView) (result : ArtifactView) (db : Database) :
    ∃ db', (supersedeCurrent trip result).run db = .ok () db' := by
  unfold supersedeCurrent
  split
  · next id v _ _ =>
    split
    · exact ⟨_, rfl⟩
    · have hreturns : ∃ row db', (updateVersion (id, v) (fun r => r.status == .published)
          fun r => { r with status := .superseded }).run db = .ok row db' := updateRow_returns db
      obtain ⟨row, db', h⟩ := hreturns
      refine ⟨db', ?_⟩
      rw [EStateM.run_bind, h]
      rfl
  · exact ⟨_, rfl⟩

/-- A result of the Run's Trip is published by who may write the Trip. -/
theorem publishResult_accepted (env : Env) {p : Principal} {run : RunView} {result : ArtifactView} {trip : TripView}
    {db : Database} (htrip : getTripTx p run.tripId true db = .ok trip)
    (hrow : resultRow p run.tripId result db = .ok ()) :
    ∃ db', (publishResult env p run result).run db = .ok () db' := by
  have hversion : ∀ k c f (db : Database), ∃ row db', (updateVersion k c f).run db = .ok row db' :=
    fun _ _ _ db => updateRow_returns db
  have htripRow : ∀ k c f (db : Database), ∃ row db', (updateTrip k c f).run db = .ok row db' :=
    fun _ _ _ db => updateRow_returns db
  obtain ⟨row, db₁, h₁⟩ := hversion (result.artifactId, result.version) (fun _ => true)
    (fun r => { r with status := .published }) db
  simp only [publishResult, EStateM.run_bind, run_ask, htrip, hrow, h₁]
  split
  · obtain ⟨db₂, h₂⟩ := supersedeCurrent_returns trip result db₁
    rw [EStateM.run_bind, h₂]
    dsimp only
    obtain ⟨t, db₃, h₃⟩ := htripRow trip.tripId (fun t => t.tenantId == p.tenantId && t.version == trip.version)
      (fun t => { t with
        currentArtifactId := some result.artifactId
        currentArtifactVersion := some result.version
        version := trip.version + 1, updatedAt := env.now }) db₂
    rw [EStateM.run_bind, h₃]
    exact ⟨_, rfl⟩
  · exact ⟨_, rfl⟩

theorem mutateRun_publish {env : Env} {p : Principal} {runId : String} {m : RunMutation}
    {db db' : Database} {x : RunView × RunEvent} (h : (mutateRun env p runId m).run db = .ok x db') :
    ∃ run db₁ u, getRunTx p runId db = .ok run ∧
      (m.resultArtifact.forM (publishResult env p run) : TxM Unit).run db = .ok u db₁ ∧
      db'.artifactPart = db₁.artifactPart := by
  simp only [mutateRun, transaction_ok, bind_ok, ask_ok, ensure_ok,
    existsAndEq, true_and, exists_const, and_assoc] at h
  obtain ⟨run, hread, _, -, -, u, db₁, hpub, row', db₂, hup, h⟩ := h
  refine ⟨run, db₁, u, hread, hpub, ?_⟩
  split at h
  · cases h
  · simp only [appendEventTx, bind_ok, EStateM.run_pure, EStateM.Result.ok.injEq, existsAndEq] at h
    obtain ⟨_, h₃, -⟩ := h
    obtain ⟨_, db₃, h₃, h₄⟩ := h₃
    obtain ⟨row, hrow, -, rfl, rfl⟩ := updateRow_some hup
    rw [insertOutbox_part h₄, insertEvent_ok h₃]
    rfl

/-- When a transition with a result is made. -/
theorem mutateRun_accepted_iff {env : Env} {p : Principal} {runId : String} {m : RunMutation} {result : ArtifactView}
    {db : Database} (hres : m.resultArtifact = some result)
    (hid : ∀ r ∈ db.events, r.event.eventId ≠ env.newPublicId "evt")
    (hseq : ∀ run, getRunTx p runId db = .ok run →
      ∀ r ∈ db.events, ¬ (r.event.runId = run.runId ∧ r.event.seq = run.controlVersion + 1)) :
    (∃ x db', (mutateRun env p runId m).run db = .ok x db') ↔
      ∃ run trip, getRunTx p runId db = .ok run ∧ checkFence env run m db = .ok () ∧
        run.controlVersion = m.expectedControlVersion ∧ getTripTx p run.tripId true db = .ok trip ∧
        resultRow p run.tripId result db = .ok () := by
  constructor
  · rintro ⟨x, db', h⟩
    simp only [mutateRun, transaction_ok, bind_ok, ask_ok, ensure_ok, existsAndEq, true_and, exists_const,
      and_assoc, hres] at h
    obtain ⟨run, hread, _, hfence, hversion, _, db₁, hpublish, -⟩ := h
    have hchecks : ∃ trip, getTripTx p run.tripId true db = .ok trip ∧ resultRow p run.tripId result db = .ok () := by
      replace hpublish : (publishResult env p run result).run db = .ok _ db₁ := hpublish
      simp only [publishResult, bind_ok, ask_ok, existsAndEq, true_and, and_assoc] at hpublish
      obtain ⟨trip, htrip, _, hrow, -⟩ := hpublish
      exact ⟨trip, htrip, hrow⟩
    obtain ⟨trip, htrip, hrow⟩ := hchecks
    exact ⟨run, trip, hread, hfence, hversion, htrip, hrow⟩
  · rintro ⟨run, trip, hread, hfence, hversion, htrip, hrow⟩
    obtain ⟨db₁, hpublish⟩ := publishResult_accepted env htrip hrow
    exact mutateRun_of_publish hread hfence hversion (by rw [hres]; exact hpublish) hid (hseq run hread)

/-! ## Lifecycle commands -/

theorem pointTripTx_ok {env : Env} {p : Principal} {trip : TripView} {i : Option String}
    {v : Option ℕ} {db db' : Database} {u : Unit}
    (h : (pointTripTx env p trip i v).run db = .ok u db')
    (htrip : db.trips.get? trip.tripId = some trip) :
    db' = { db with trips := db.trips.set trip.tripId (pointTrip env.toEnv trip i v) } := by
  simp only [pointTripTx, bind_ok, ensure_ok, existsAndEq, and_true] at h
  obtain ⟨row, hup, hsome⟩ := h
  cases row with
  | none => cases hsome
  | some t' =>
    obtain ⟨t, ht, -, -, rfl⟩ := updateRow_some hup
    rw [show db.trips.get? _ = some t from ht] at htrip
    cases htrip
    rfl

/-- The rows a command writes, when it is no replay. -/
inductive Commanded (env : Env) (p : Principal) (current : ArtifactView) (trip : TripView)
    (db db' : Database) : ArtifactCommand → Prop
  | select (hstatus : current.status = .candidate) (htrips : db'.trips = db.trips)
      (hversions : ∀ k, db'.versions.get? k =
        if k = (current.artifactId, current.version) then
          (db.versions.get? k).map fun v => { v with status := .selected }
        else db.versions.get? k) : Commanded env p current trip db db' .select
  | publish (hstatus : current.status = .validated)
      (htrips : db'.trips = db.trips.set trip.tripId
        (pointTrip env.toEnv trip (some current.artifactId) (some current.version)))
      (hversions : ∀ k, db'.versions.get? k =
        if k = (current.artifactId, current.version) then
          ((supersedeOthers p current db).versions.get? k).map fun v => { v with status := .published }
        else (supersedeOthers p current db).versions.get? k) :
      Commanded env p current trip db db' .publish
  | revoke (hstatus : current.status = .published)
      (htrips : db'.trips = if trip.currentArtifactId = some current.artifactId ∧
          trip.currentArtifactVersion = some current.version then
        db.trips.set trip.tripId (pointTrip env.toEnv trip none none) else db.trips)
      (hversions : ∀ k, db'.versions.get? k =
        if k = (current.artifactId, current.version) then
          (db.versions.get? k).map fun v => { v with status := .revoked }
        else db.versions.get? k) : Commanded env p current trip db db' .revoke

/-- The status update of a command. -/
theorem updateStatus_ok {k : String × ℕ} {c : VersionRow → Bool} {target : ArtifactStatus}
    {db db' : Database} {row : Option VersionRow} (hsome : row.isSome = true)
    (h : (updateVersion k c fun v => { v with status := target }).run db = .ok row db') :
    ∃ V, db' = { db with versions := V } ∧ ∀ k', V.get? k' =
      if k' = k then (db.versions.get? k').map fun v => { v with status := target }
      else db.versions.get? k' := by
  cases row with
  | none => cases hsome
  | some w =>
    obtain ⟨v, hv, -, -, rfl⟩ := updateRow_some h
    refine ⟨_, rfl, fun k' => ?_⟩
    rw [Dict.get?_set]
    split
    · next hk => rw [hk, show db.versions.get? k = some v from hv]; rfl
    · rfl

theorem applyCommand_ok {env : Env} {p : Principal} {id fingerprint : String}
    {request : ArtifactCommandRequest} {requestHash : String} {db db' : Database}
    {x : IdempotentArtifactResult} (hkey : ∀ k t, db.trips.get? k = some t → t.tripId = k)
    (h : (applyCommand env p id fingerprint request requestHash).run db = .ok x db') :
    ∃ current trip, getArtifactTx p id none true db = .ok current ∧
      getTripTx p current.tripId true db = .ok trip ∧ db'.artifacts = db.artifacts ∧
      Commanded env p current trip db db' request.type := by
  simp only [applyCommand, bind_ok, ask_ok, ensure_ok, EStateM.run_pure, EStateM.Result.ok.injEq,
    existsAndEq, true_and, exists_const, and_assoc] at h
  obtain ⟨current, hread, -, hstatus, trip, htrip, _, db₁, hsup, row, db₂, hup, hsome, _, db₃, hpoint,
    _, hout, -, -⟩ := h
  have hpart := insertOutbox_part hout
  have ht' : db'.trips = db₃.trips := congrArg Prod.fst hpart
  have ha' : db'.artifacts = db₃.artifacts := congrArg (·.2.1) hpart
  have hv' : db'.versions = db₃.versions := congrArg (·.2.2) hpart
  obtain ⟨htget, -⟩ := getTripTx_ok htrip
  rw [← hkey _ _ htget] at htget
  obtain ⟨V, rfl, hV⟩ := updateStatus_ok hsome hup
  refine ⟨current, trip, hread, htrip, ?_⟩
  cases ht : request.type with
  | select =>
    rw [ht] at hstatus hsup hpoint hV
    cases hsup; cases hpoint
    exact ⟨ha', .select hstatus ht' fun k => by rw [hv']; exact hV k⟩
  | publish =>
    rw [ht] at hstatus hsup hpoint hV
    cases hsup
    simp only [ArtifactCommand.transition, pointByCommand] at hpoint
    obtain rfl := pointTripTx_ok hpoint htget
    exact ⟨ha', .publish hstatus ht' fun k => by rw [hv']; exact hV k⟩
  | revoke =>
    rw [ht] at hstatus hsup hpoint hV
    cases hsup
    simp only [ArtifactCommand.transition, pointByCommand] at hpoint
    split at hpoint
    · next hp =>
      obtain rfl := pointTripTx_ok hpoint htget
      exact ⟨ha', .revoke hstatus (by rw [if_pos hp]; exact ht') fun k => by rw [hv']; exact hV k⟩
    · next hp =>
      cases hpoint
      exact ⟨ha', .revoke hstatus (by rw [if_neg hp]; exact ht') fun k => by rw [hv']; exact hV k⟩

theorem replayCommand_ok {p : Principal} {id requestHash : String} {payload : Obj} {db : Database}
    {x : IdempotentArtifactResult} (h : replayCommand p id requestHash payload db = .ok x) :
    x.replayed = true := by
  unfold replayCommand at h
  split at h
  · cases h
  · split at h
    · split at h
      · cases h
      · cases h
      · cases h; rfl
    · cases h

theorem commandArtifact_ok {env : Env} {p : Principal} {id : String}
    {request : ArtifactCommandRequest} {key requestHash : String} {db db' : Database}
    {x : IdempotentArtifactResult} (hkey : ∀ k t, db.trips.get? k = some t → t.tripId = k)
    (h : (commandArtifact env p id request key requestHash).run db = .ok x db') :
    (db' = db ∧ x.replayed = true) ∨ ∃ current trip, getArtifactTx p id none true db = .ok current ∧
      getTripTx p current.tripId true db = .ok trip ∧ db'.artifacts = db.artifacts ∧
      Commanded env p current trip db db' request.type := by
  simp only [commandArtifact, transaction_ok, bind_ok, ask_ok, EStateM.run_get,
    EStateM.Result.ok.injEq, existsAndEq, true_and, and_assoc] at h
  obtain ⟨_, -, _, -, h⟩ := h
  split at h
  · rw [ask_ok] at h
    exact .inl ⟨h.2.symm, replayCommand_ok h.1⟩
  · exact .inr (applyCommand_ok hkey h)

/-- A replay changes nothing. -/
theorem commandArtifact_replayed {env : Env} {p : Principal} {id : String} {request : ArtifactCommandRequest}
    {key requestHash : String} {db db' : Database} {x : IdempotentArtifactResult}
    (h : (commandArtifact env p id request key requestHash).run db = .ok x db') (hx : x.replayed = true) :
    db' = db := by
  simp only [commandArtifact, transaction_ok, bind_ok, ask_ok, EStateM.run_get,
    EStateM.Result.ok.injEq, existsAndEq, true_and, and_assoc] at h
  obtain ⟨_, -, _, -, h⟩ := h
  split at h
  · rw [ask_ok] at h
    exact h.2.symm
  · simp only [applyCommand, bind_ok, ask_ok, ensure_ok, EStateM.run_pure, EStateM.Result.ok.injEq,
      existsAndEq, true_and, exists_const, and_assoc] at h
    obtain ⟨_, -, -, -, _, -, _, _, -, _, _, -, -, _, _, -, _, -, rfl, -⟩ := h
    cases hx

end RoutePilot.Postgres
