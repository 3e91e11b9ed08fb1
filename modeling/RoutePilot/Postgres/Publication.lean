/-
  The PostgreSQL store keeps the publication invariant in every reachable
  state: it checks the write access first, and a failed transaction leaves
  nothing behind.
-/
import RoutePilot.Postgres.ArtifactSpecs

namespace RoutePilot.Postgres

open Lib

def Database.tripTable (db : Database) : TripTable := db.trips.get?

/-- The Artifacts joined with their versions. -/
def Database.artifactTable (db : Database) : ArtifactTable := fun id v =>
  match db.artifacts.get? id, db.versions.get? (id, v) with
  | some a, some r => some (a.view r)
  | _, _ => none

/-- The version is stored. -/
def Database.Stores (db : Database) (a : ArtifactView) : Prop :=
  ∃ id v, db.artifactTable id v = some a

theorem artifactTable_eq_some {db : Database} {id : String} {v : ℕ} {a : ArtifactView} :
    db.artifactTable id v = some a ↔
      ∃ row r, db.artifacts.get? id = some row ∧ db.versions.get? (id, v) = some r ∧
        row.view r = a := by
  unfold Database.artifactTable
  cases db.artifacts.get? id with
  | none => simp
  | some row =>
    cases db.versions.get? (id, v) with
    | none => simp
    | some r => simp

/-- The primary keys of Artifacts and versions, and every version belongs to an Artifact. -/
structure Database.Keyed (db : Database) : Prop where
  artifactKey : ∀ id row, db.artifacts.get? id = some row → row.artifactId = id
  versionKey : ∀ k r, db.versions.get? k = some r → (r.artifactId, r.version) = k
  owner : ∀ k r, db.versions.get? k = some r → ∃ row, db.artifacts.get? k.1 = some row

/-- What the reachable databases satisfy: the publication invariant, the primary keys, the tenant of
    every Artifact is the one of its Trip, and every version belongs to an Artifact. -/
structure DatabasePublicationOk (db : Database) : Prop where
  pub : PublicationOk db.tripTable db.artifactTable
  artifactKey : ∀ id row, db.artifacts.get? id = some row → row.artifactId = id ∧ id ≠ ""
  versionKey : ∀ k r, db.versions.get? k = some r → (r.artifactId, r.version) = k
  tenant : ∀ id row, db.artifacts.get? id = some row →
    ∃ t, db.trips.get? row.tripId = some t ∧ t.tenantId = row.tenantId
  owner : ∀ k r, db.versions.get? k = some r → ∃ row, db.artifacts.get? k.1 = some row

theorem databasePublicationOk_init : DatabasePublicationOk {} := by
  constructor
  · exact .of_empty (fun _ => rfl) fun _ _ => rfl
  · exact fun _ _ h => (Dict.not_get?_empty h).elim
  · exact fun _ _ h => (Dict.not_get?_empty h).elim
  · exact fun _ _ h => (Dict.not_get?_empty h).elim
  · exact fun _ _ h => (Dict.not_get?_empty h).elim

theorem DatabasePublicationOk.keyed {db : Database} (h : DatabasePublicationOk db) : db.Keyed :=
  ⟨fun id row hrow => (h.artifactKey id row hrow).1, h.versionKey, h.owner⟩

/-- An Artifact of a Trip that the principal may read is of the principal's tenant. -/
theorem DatabasePublicationOk.row_tenant {db : Database} (h : DatabasePublicationOk db) {id : String}
    {row : ArtifactRow} (hrow : db.artifacts.get? id = some row) {p : Principal} {w : Bool} {t : TripView}
    (ht : getTripTx p row.tripId w db = .ok t) : row.tenantId = p.tenantId := by
  obtain ⟨t', ht', htenant⟩ := h.tenant _ _ hrow
  obtain ⟨hget, hp⟩ := getTripTx_ok ht
  have hsame : t' = t := Option.some.inj (ht'.symm.trans hget)
  rw [← htenant, hsame, hp]

theorem DatabasePublicationOk.stores_iff {db : Database} (h : DatabasePublicationOk db)
    (a : ArtifactView) : db.Stores a ↔ db.artifactTable a.artifactId a.version = some a := by
  constructor
  · rintro ⟨id, v, ha⟩
    obtain ⟨rfl, rfl⟩ := h.pub.key id v a ha
    exact ha
  · intro ha
    exact ⟨_, _, ha⟩

/-! ## Tables -/

theorem tripTable_set {db db' : Database} {k : String} {t : TripView}
    (h : db'.trips = db.trips.set k t) :
    db'.tripTable = Function.update db.tripTable k (some t) := by
  funext k'
  rw [Function.update_apply, Database.tripTable, h, Dict.get?_set]
  rfl

theorem artifactTable_congr {db db' : Database} (ha : db'.artifacts = db.artifacts)
    (hv : ∀ k, db'.versions.get? k = db.versions.get? k) : db'.artifactTable = db.artifactTable := by
  funext id v
  rw [Database.artifactTable, Database.artifactTable, ha, hv]

/-- The tables `db'` differ from `db` in statuses only, which become `f`. -/
structure Restatused (f : ArtifactView → ArtifactStatus) (db db' : Database) : Prop where
  artifacts : db'.artifacts = db.artifacts
  versions : ∀ k r', db'.versions.get? k = some r' →
    ∃ r, db.versions.get? k = some r ∧ { r with status := r'.status } = r'
  status : ∀ id v row r, db.artifacts.get? id = some row → db.versions.get? (id, v) = some r →
    db'.versions.get? (id, v) = some { r with status := f (row.view r) }

theorem Restatused.table {f : ArtifactView → ArtifactStatus} {db db' : Database}
    (h : Restatused f db db') : db'.artifactTable = restatus f db.artifactTable := by
  funext id v
  unfold restatus Database.artifactTable
  rw [h.artifacts]
  cases hrow : db.artifacts.get? id with
  | none => rfl
  | some row =>
    cases hr : db.versions.get? (id, v) with
    | none =>
      cases hr' : db'.versions.get? (id, v) with
      | none => rfl
      | some r' =>
        obtain ⟨r, hr₁, -⟩ := h.versions _ _ hr'
        rw [hr] at hr₁; cases hr₁
    | some r => rw [h.status id v row r hrow hr]; rfl

theorem Restatused.keyed {f : ArtifactView → ArtifactStatus} {db db' : Database}
    (h : Restatused f db db') (hok : db.Keyed) : db'.Keyed where
  artifactKey := by rw [h.artifacts]; exact hok.artifactKey
  versionKey k r' hr' := by
    obtain ⟨r, hr₁, he⟩ := h.versions k r' hr'
    rw [← he]
    exact hok.versionKey k r hr₁
  owner k r' hr' := by
    obtain ⟨r, hr₁, -⟩ := h.versions k r' hr'
    rw [h.artifacts]
    exact hok.owner k r hr₁

/-- The keys of the tables after a change of statuses and Trips. -/
theorem DatabasePublicationOk.restatused {db db' : Database} (hok : DatabasePublicationOk db)
    {f : ArtifactView → ArtifactStatus} (hr : Restatused f db db')
    (hpub : PublicationOk db'.tripTable (restatus f db.artifactTable))
    (htrips : ∀ k t, db.trips.get? k = some t →
      ∃ t', db'.trips.get? k = some t' ∧ t'.tenantId = t.tenantId) : DatabasePublicationOk db' where
  pub := by rw [hr.table]; exact hpub
  artifactKey := by rw [hr.artifacts]; exact hok.artifactKey
  versionKey := (hr.keyed hok.keyed).versionKey
  tenant id row hrow := by
    rw [hr.artifacts] at hrow
    obtain ⟨t, ht, hten⟩ := hok.tenant id row hrow
    obtain ⟨t', ht', hten'⟩ := htrips _ t ht
    exact ⟨t', ht', hten'.trans hten⟩
  owner := (hr.keyed hok.keyed).owner

theorem restatused_of {db db' : Database} {f : ArtifactView → ArtifactStatus}
    (S : String × ℕ → VersionRow → ArtifactStatus) (ha : db'.artifacts = db.artifacts)
    (hv : ∀ k, db'.versions.get? k = (db.versions.get? k).map fun v => { v with status := S k v })
    (hS : ∀ k row v, db.artifacts.get? k.1 = some row → db.versions.get? k = some v →
      S k v = f (row.view v)) : Restatused f db db' where
  artifacts := ha
  versions k r' hr' := by
    rw [hv] at hr'
    obtain ⟨r, hr, rfl⟩ := Option.map_eq_some_iff.1 hr'
    exact ⟨r, hr, rfl⟩
  status id v row r hrow hr := by
    rw [hv, hr, Option.map_some, hS (id, v) row r hrow hr]

/-- One version with another status. -/
theorem Database.Keyed.statusAt {db db' : Database} (hok : db.Keyed)
    {id₀ : String} {v₀ : ℕ} {s : ArtifactStatus} (ha : db'.artifacts = db.artifacts)
    (hv : ∀ k, db'.versions.get? k =
      if k = (id₀, v₀) then (db.versions.get? k).map fun v => { v with status := s }
      else db.versions.get? k) : Restatused (statusAt id₀ v₀ s) db db' := by
  refine restatused_of (fun k v => if k = (id₀, v₀) then s else v.status) ha (fun k => ?_)
    fun k row v hrow hver => ?_
  · rw [hv]
    by_cases hk : k = (id₀, v₀)
    · simp [hk]
    · cases db.versions.get? k <;> simp [hk]
  · have h₁ := hok.artifactKey _ _ hrow
    have h₂ := congrArg Prod.snd (hok.versionKey _ _ hver)
    unfold RoutePilot.statusAt
    by_cases hk : k = (id₀, v₀)
    · have he : (row.view v).artifactId = id₀ ∧ (row.view v).version = v₀ :=
        ⟨h₁.trans (congrArg Prod.fst hk), h₂.trans (congrArg Prod.snd hk)⟩
      rw [if_pos hk, if_pos he]
    · have he : ¬ ((row.view v).artifactId = id₀ ∧ (row.view v).version = v₀) := fun he =>
        hk (Prod.ext (h₁.symm.trans he.1) (h₂.symm.trans he.2))
      rw [if_neg hk, if_neg he]
      rfl

/-- A Trip that keeps its key and tenant. -/
theorem trips_set {db : Database} {k : String} {t t' : TripView}
    (ht : db.trips.get? k = some t) (hten : t'.tenantId = t.tenantId) :
    ∀ k₁ t₁, db.trips.get? k₁ = some t₁ →
      ∃ t₂, (db.trips.set k t').get? k₁ = some t₂ ∧ t₂.tenantId = t₁.tenantId := by
  intro k₁ t₁ h₁
  rw [Dict.get?_set]
  split
  · next hk => rw [hk, ht] at h₁; cases h₁; exact ⟨t', rfl, hten⟩
  · exact ⟨t₁, h₁, rfl⟩

/-- The version `_get_artifact_tx` reads, as an entry of the table. -/
theorem getArtifactTx_table {db : Database} (hok : db.Keyed) {p : Principal}
    {id : String} {w : Bool} {a : ArtifactView} (h : getArtifactTx p id none w db = .ok a) :
    a.artifactId = id ∧ db.artifactTable a.artifactId a.version = some a ∧
      a.tenantId = p.tenantId ∧ ∀ n b, db.artifactTable id n = some b → n ≤ a.version := by
  obtain ⟨row, v, hrow, hten, hv, rfl, -, hle⟩ := getArtifactTx_ok hok.versionKey h
  have hid := hok.artifactKey _ _ hrow
  refine ⟨hid, ?_, hten, fun n b hb => ?_⟩
  · show db.artifactTable row.artifactId v.version = _
    rw [hid]
    exact artifactTable_eq_some.2 ⟨row, v, hrow, hv, rfl⟩
  · obtain ⟨_, r, -, hr, -⟩ := artifactTable_eq_some.1 hb
    exact hle n r hr

/-- Trips only. -/
theorem DatabasePublicationOk.of_trips {db db' : Database} (hok : DatabasePublicationOk db)
    (ha : db'.artifacts = db.artifacts) (hv : db'.versions = db.versions)
    (hpub : PublicationOk db'.tripTable db.artifactTable)
    (htrips : ∀ k t, db.trips.get? k = some t →
      ∃ t', db'.trips.get? k = some t' ∧ t'.tenantId = t.tenantId) : DatabasePublicationOk db' where
  pub := by rw [artifactTable_congr ha fun k => by rw [hv]]; exact hpub
  artifactKey := by rw [ha]; exact hok.artifactKey
  versionKey := by rw [hv]; exact hok.versionKey
  tenant id row hrow := by
    rw [ha] at hrow
    obtain ⟨t, ht, hten⟩ := hok.tenant id row hrow
    obtain ⟨t', ht', hten'⟩ := htrips _ t ht
    exact ⟨t', ht', hten'.trans hten⟩
  owner := by rw [ha, hv]; exact hok.owner

/-- Only the tables of Trips and Artifacts matter. -/
theorem DatabasePublicationOk.congr {db db' : Database} (hok : DatabasePublicationOk db)
    (h : db'.artifactPart = db.artifactPart) : DatabasePublicationOk db' := by
  have ht : db'.trips = db.trips := congrArg Prod.fst h
  refine hok.of_trips (congrArg (·.2.1) h) (congrArg (·.2.2) h) ?_ fun k t hk => ⟨t, ht ▸ hk, rfl⟩
  rw [show db'.tripTable = db.tripTable by unfold Database.tripTable; rw [ht]]
  exact hok.pub

/-! ## Trips -/

theorem createTrip_publicationOk {env : Env} {p : Principal} {request : TripCreateRequest}
    {db db' : Database} {x : TripView} (hok : DatabasePublicationOk db)
    (h : (createTrip env p request).run db = .ok x db') : DatabasePublicationOk db' := by
  obtain ⟨hfresh, hcur, hpart⟩ := createTrip_ok h
  have ht : db'.trips = db.trips.set x.tripId x := congrArg Prod.fst hpart
  refine hok.of_trips (congrArg (·.2.1) hpart) (congrArg (·.2.2) hpart) ?_ fun k t hk => ?_
  · rw [tripTable_set ht]
    exact hok.pub.newTrip hfresh hcur
  · rw [ht, Dict.get?_set_ne]
    · exact ⟨t, hk, rfl⟩
    · rintro rfl
      rw [hfresh] at hk; cases hk

theorem DatabasePublicationOk.editTrip {db db' : Database} (hok : DatabasePublicationOk db)
    {k : String} {t t' : TripView} (ht : db.trips.get? k = some t)
    (hpart : db'.artifactPart = (db.trips.set k t', db.artifacts, db.versions))
    (hid : t'.tripId = t.tripId) (hten : t'.tenantId = t.tenantId)
    (hcur : t'.currentArtifactId = t.currentArtifactId)
    (hver : t'.currentArtifactVersion = t.currentArtifactVersion) : DatabasePublicationOk db' := by
  have htrips : db'.trips = db.trips.set k t' := congrArg Prod.fst hpart
  refine hok.of_trips (congrArg (·.2.1) hpart) (congrArg (·.2.2) hpart) ?_
    (htrips ▸ trips_set ht hten)
  obtain rfl := hok.pub.tripKey k t ht
  rw [tripTable_set htrips]
  exact hok.pub.editTrip ht hid hcur hver

/-! ## Creation and versions -/

/-- A new version, in the tables. -/
theorem artifactTable_newVersion {db db' : Database} {b : ArtifactView} {row : ArtifactRow}
    (hart : ∀ id, db'.artifacts.get? id = if id = b.artifactId then some row else db.artifacts.get? id)
    (hver : ∀ k, db'.versions.get? k =
      if k = (b.artifactId, b.version) then some (versionRow b) else db.versions.get? k)
    (hview : row.view (versionRow b) = b)
    (hold : ∀ v r, db.versions.get? (b.artifactId, v) = some r →
      db.artifacts.get? b.artifactId = some row)
    (id : String) (v : ℕ) :
    db'.artifactTable id v =
      if id = b.artifactId ∧ v = b.version then some b else db.artifactTable id v := by
  unfold Database.artifactTable
  rw [hart, hver]
  by_cases hid : id = b.artifactId
  · subst hid
    by_cases hv : v = b.version
    · subst hv; simp [hview]
    · have hne : ((b.artifactId, v) : String × ℕ) ≠ (b.artifactId, b.version) := by simpa using hv
      rw [if_pos rfl, if_neg hne, if_neg fun h => hv h.2]
      cases hr : db.versions.get? (b.artifactId, v) with
      | none => cases db.artifacts.get? b.artifactId <;> rfl
      | some r => rw [hold v r hr]
  · have hne : ((id, v) : String × ℕ) ≠ (b.artifactId, b.version) := fun h => hid (congrArg Prod.fst h)
    rw [if_neg hid, if_neg hne, if_neg fun h => hid h.1]

theorem newPublicId_ne (env : RoutePilot.Env) {kind : String} (h : kind ≠ "") :
    env.newPublicId kind ≠ "" := by
  simp [Env.newPublicId, h]

theorem resolvedId_ne (c : ArtifactCreation) (env : RoutePilot.Env) : c.resolvedId env ≠ "" := by
  unfold ArtifactCreation.resolvedId
  split
  · split
    · exact newPublicId_ne env (by decide)
    · assumption
  · exact newPublicId_ne env (by decide)

/-- The rows after a creation: their keys, and the new version. -/
theorem createArtifact_rows {env : Env} {p : Principal} {c : ArtifactCreation} {db db' : Database}
    {a : ArtifactView} (hok : db.Keyed) (h : (createArtifact env p c).run db = .ok a db') :
    db'.Keyed ∧ db.artifactTable a.artifactId a.version = none ∧
      ∀ id v, db'.artifactTable id v =
        if id = a.artifactId ∧ v = a.version then some a else db.artifactTable id v := by
  obtain ⟨rfl, -, hfresh, -, hpart⟩ := createArtifact_ok h
  have ha : db'.artifacts = _ := congrArg (·.2.1) hpart
  have hv : db'.versions = _ := congrArg (·.2.2) hpart
  have hgetA : ∀ id, db'.artifacts.get? id = _ := fun id => by rw [ha, Dict.get?_set]
  have hgetV : ∀ k, db'.versions.get? k = _ := fun k => by rw [hv, Dict.get?_set]
  -- a version row of the new identifier would belong to a stored Artifact
  have hold : ∀ v r, db.versions.get? ((c.artifact env.toEnv p).artifactId, v) = some r →
      db.artifacts.get? (c.artifact env.toEnv p).artifactId =
        some (artifactRow (c.artifact env.toEnv p)) := by
    intro v r hr
    obtain ⟨row, hrow⟩ := hok.owner _ _ hr
    rw [hfresh] at hrow; cases hrow
  refine ⟨⟨fun id row hrow => ?_, fun k r hr => ?_, fun k r hr => ?_⟩, ?_,
    artifactTable_newVersion hgetA hgetV rfl hold⟩
  · rw [hgetA] at hrow
    split at hrow
    · next hid => cases hrow; exact hid.symm
    · exact hok.artifactKey id row hrow
  · rw [hgetV] at hr
    split at hr
    · next hk => cases hr; exact hk.symm
    · exact hok.versionKey k r hr
  · rw [hgetV] at hr
    rw [hgetA]
    split at hr
    · next hk => rw [hk, if_pos rfl]; exact ⟨_, rfl⟩
    · split
      · exact ⟨_, rfl⟩
      · exact hok.owner k r hr
  · unfold Database.artifactTable
    rw [hfresh]

theorem createArtifact_publicationOk {env : Env} {p : Principal} {c : ArtifactCreation}
    {db db' : Database} {a : ArtifactView} (hok : DatabasePublicationOk db)
    (hstatus : c.status ≠ .published) (h : (createArtifact env p c).run db = .ok a db') :
    DatabasePublicationOk db' := by
  obtain ⟨hkeyed, hnone, htable⟩ := createArtifact_rows hok.keyed h
  obtain ⟨rfl, ⟨trip, htrip⟩, -, -, hpart⟩ := createArtifact_ok h
  obtain ⟨htget, hten⟩ := getTripTx_ok htrip
  have ht : db'.trips = db.trips := congrArg Prod.fst hpart
  have ha : db'.artifacts = _ := congrArg (·.2.1) hpart
  have hgetA : ∀ id, db'.artifacts.get? id = _ := fun id => by rw [ha, Dict.get?_set]
  refine ⟨?_, fun id row hrow => ?_, hkeyed.versionKey, fun id row hrow => ?_, hkeyed.owner⟩
  · rw [show db'.tripTable = db.tripTable by unfold Database.tripTable; rw [ht]]
    exact hok.pub.newVersion htable hnone ⟨trip, htget⟩ hstatus
  · rw [hgetA] at hrow
    split at hrow
    · next hid =>
      cases hrow
      exact ⟨hid.symm, hid ▸ resolvedId_ne c env.toEnv⟩
    · exact hok.artifactKey id row hrow
  · rw [ht]
    rw [hgetA] at hrow
    split at hrow
    · cases hrow; exact ⟨trip, htget, hten⟩
    · exact hok.tenant id row hrow

/-- The rows after a patch: their keys, and the next version. -/
theorem patchArtifact_rows {env : Env} {p : Principal} {id : String}
    {request : ArtifactPatchRequest} {db db' : Database} {x : ArtifactView} (hok : db.Keyed)
    (h : (patchArtifact env p id request).run db = .ok x db') :
    (∃ trip, getTripTx p x.tripId true db = .ok trip) ∧ x.status ≠ .published ∧
      db'.trips = db.trips ∧ db'.artifacts = db.artifacts ∧ db'.Keyed ∧
      db.artifactTable x.artifactId x.version = none ∧
      ∀ i v, db'.artifactTable i v =
        if i = x.artifactId ∧ v = x.version then some x else db.artifactTable i v := by
  obtain ⟨current, content, hread, rfl, hfresh, hpart⟩ := patchArtifact_ok h
  obtain ⟨row, v, hrow, -, hver, rfl, htrip, -⟩ := getArtifactTx_ok hok.versionKey hread
  have hid := hok.artifactKey _ _ hrow
  have ha : db'.artifacts = db.artifacts := congrArg (·.2.1) hpart
  have hv : db'.versions = _ := congrArg (·.2.2) hpart
  have hgetV : ∀ k, db'.versions.get? k = _ := fun k => by rw [hv, Dict.get?_set]
  have hrow' : db.artifacts.get? (nextVersion env.toEnv (row.view v) content).artifactId = some row := by
    show db.artifacts.get? row.artifactId = some row
    rw [hid]; exact hrow
  have hgetA : ∀ i, db'.artifacts.get? i =
      if i = (nextVersion env.toEnv (row.view v) content).artifactId then some row
      else db.artifacts.get? i := by
    intro i
    rw [ha]
    split
    · next hi => rw [hi, hrow']
    · rfl
  refine ⟨htrip, by simp [nextVersion], congrArg Prod.fst hpart, ha,
    ⟨ha ▸ hok.artifactKey, fun k r hr => ?_, fun k r hr => ?_⟩, ?_,
    artifactTable_newVersion hgetA hgetV rfl fun _ _ _ => hrow'⟩
  · rw [hgetV] at hr
    split at hr
    · next hk => cases hr; exact hk.symm
    · exact hok.versionKey k r hr
  · rw [hgetV] at hr
    rw [ha]
    split at hr
    · next hk => rw [hk]; exact ⟨row, hrow'⟩
    · exact hok.owner k r hr
  · unfold Database.artifactTable
    rw [hfresh]
    cases db.artifacts.get? _ <;> rfl

theorem patchArtifact_publicationOk {env : Env} {p : Principal} {id : String}
    {request : ArtifactPatchRequest} {db db' : Database} {x : ArtifactView}
    (hok : DatabasePublicationOk db) (h : (patchArtifact env p id request).run db = .ok x db') :
    DatabasePublicationOk db' := by
  obtain ⟨⟨trip, htrip⟩, hstatus, ht, ha, hkeyed, hnone, htable⟩ := patchArtifact_rows hok.keyed h
  refine ⟨?_, ha ▸ hok.artifactKey, hkeyed.versionKey, ?_, hkeyed.owner⟩
  · rw [show db'.tripTable = db.tripTable by unfold Database.tripTable; rw [ht]]
    exact hok.pub.newVersion htable hnone ⟨trip, (getTripTx_ok htrip).1⟩ hstatus
  · rw [ha, ht]; exact hok.tenant

/-! ## Publication by a Run -/

/-- The statuses after a Run published `result`. -/
def publishedStatus (trip : TripView) (result a : ArtifactView) : ArtifactStatus :=
  if a.artifactId = result.artifactId ∧ a.version = result.version then .published
  else if SupersededCurrent trip result (a.artifactId, a.version) ∧ a.status = .published then
    .superseded
  else a.status

theorem Database.Keyed.publishedStatus {db db' : Database} (hok : db.Keyed)
    {trip : TripView} {result : ArtifactView} (ha : db'.artifacts = db.artifacts)
    (hv : ∀ k, db'.versions.get? k =
      if k = (result.artifactId, result.version) then
        (db.versions.get? k).map fun v => { v with status := .published }
      else (db.versions.get? k).map (supersededRow trip result k)) :
    Restatused (publishedStatus trip result) db db' := by
  refine restatused_of (fun k v => if k = (result.artifactId, result.version) then .published
    else if SupersededCurrent trip result k ∧ v.status = .published then .superseded
    else v.status) ha (fun k => ?_) fun k row v hrow hver => ?_
  · rw [hv]
    by_cases hk : k = (result.artifactId, result.version)
    · simp only [if_pos hk]
    · simp only [if_neg hk]
      congr 1
      funext v
      unfold supersededRow
      by_cases hs : SupersededCurrent trip result k ∧ v.status = .published
      · rw [if_pos hs, if_pos hs]
      · rw [if_neg hs, if_neg hs]
  · obtain ⟨id, n⟩ := k
    have h₁ : row.artifactId = id := hok.artifactKey _ _ hrow
    have h₂ : v.version = n := congrArg Prod.snd (hok.versionKey _ _ hver)
    subst h₁ h₂
    unfold Postgres.publishedStatus
    by_cases hk : (row.artifactId, v.version) = (result.artifactId, result.version)
    · rw [if_pos hk, if_pos]
      exact ⟨congrArg Prod.fst hk, congrArg Prod.snd hk⟩
    · have he : ¬ ((row.view v).artifactId = result.artifactId ∧
          (row.view v).version = result.version) := fun he => hk (Prod.ext he.1 he.2)
      rw [if_neg hk, if_neg he]
      rfl

theorem publishResult_publicationOk {env : Env} {p : Principal} {run : RunView}
    {result : ArtifactView} {db db' : Database} {u : Unit} (hok : DatabasePublicationOk db)
    (htype : ∀ a, db.artifactTable result.artifactId result.version = some a →
      a.artifactType = result.artifactType)
    (h : (publishResult env p run result).run db = .ok u db') : DatabasePublicationOk db' := by
  obtain ⟨ha, trip, htrip, ⟨row, v, hrow, hrt, hver⟩, hp⟩ := publishResult_ok hok.pub.tripKey h
  obtain ⟨htget, -⟩ := getTripTx_ok htrip
  have hkey := hok.pub.tripKey _ _ htget
  have hget : db.artifactTable result.artifactId result.version = some (row.view v) :=
    artifactTable_eq_some.2 ⟨row, v, hrow, hver, rfl⟩
  obtain ⟨hid, hvn⟩ := hok.pub.key _ _ _ hget
  cases hp with
  | other hty htrips hversions =>
    refine hok.restatused (hok.keyed.statusAt ha hversions) ?_ fun k t hk => ⟨t, htrips ▸ hk, rfl⟩
    rw [show db'.tripTable = db.tripTable by unfold Database.tripTable; rw [htrips]]
    refine hok.pub.restatused (fun k t id n a _ _ _ _ hpub => ?_) fun id n a hget' hsnap hpub => ?_
    · rw [RoutePilot.statusAt]; split
      · rfl
      · exact hpub
    · rw [RoutePilot.statusAt] at hpub
      split at hpub
      · next he =>
        obtain ⟨rfl, rfl⟩ := hok.pub.key _ _ _ hget'
        rw [he.1, he.2] at hget'
        exact absurd ((htype a hget').symm.trans hsnap) hty
      · exact hpub
  | snapshot hty htrips hid' hten' hpoint _ hversions =>
    have hr : Restatused (Postgres.publishedStatus trip result) db db' := hok.keyed.publishedStatus ha hversions
    refine hok.restatused hr ?_ (htrips ▸ trips_set (hkey ▸ htget) hten')
    rw [tripTable_set htrips]
    have hthis : Postgres.publishedStatus trip result (row.view v) = .published := by
      rw [Postgres.publishedStatus, if_pos ⟨hid, hvn⟩]
    refine hok.pub.publish (a := row.view v) (by rw [hid, hvn]; exact hget) (hrt.trans hkey.symm) hid'
      (by rw [hid, hvn]; exact hpoint) hthis (fun id n b hb hne => ?_) fun id n b hb hbk hsnap hpub => ?_
    · obtain ⟨rfl, rfl⟩ := hok.pub.key _ _ _ hb
      have hno : ¬ (b.artifactId = result.artifactId ∧ b.version = result.version) := by
        rintro ⟨h₁, h₂⟩
        rw [h₁, h₂, hget] at hb; cases hb
        exact hne (hrt.trans hkey.symm)
      -- the pointer of the Trip targets a version of the Trip
      have hcur : ¬ SupersededCurrent trip result (b.artifactId, b.version) := by
        rintro ⟨⟨h₁, h₂⟩, -⟩
        obtain ⟨w, a, hw, hget', hak, -⟩ := hok.pub.target _ _ _ htget h₁
        rw [h₂] at hw; cases hw
        rw [hb] at hget'; cases hget'
        exact hne (hak.trans hkey.symm)
      rw [Postgres.publishedStatus, if_neg hno, if_neg fun h => hcur h.1]
    · obtain ⟨rfl, rfl⟩ := hok.pub.key _ _ _ hb
      by_contra hno
      rw [hid, hvn] at hno
      rw [Postgres.publishedStatus, if_neg hno] at hpub
      split at hpub
      · cases hpub
      · next hns =>
        have hpt := hok.pub.only _ _ _ _ _ htget hb (hbk.trans hkey) hsnap hpub
        obtain ⟨row', -, hrow', -⟩ := artifactTable_eq_some.1 hb
        refine hns ⟨⟨hpt, (hok.artifactKey _ _ hrow').2, fun he => hno ?_⟩, hpub⟩
        exact ⟨congrArg Prod.fst he, congrArg Prod.snd he⟩

/-! ## Lifecycle commands -/

/-- The statuses after a publish command. -/
def commandPublished (p : Principal) (current a : ArtifactView) : ArtifactStatus :=
  if a.artifactId = current.artifactId ∧ a.version = current.version then .published
  else if (a.tenantId = p.tenantId ∧ a.tripId = current.tripId) ∧ a.status = .published then .superseded
  else a.status

theorem supersedeOthers_get? {p : Principal} {current : ArtifactView} {db : Database} {k : String × ℕ} :
    (supersedeOthers p current db).versions.get? k = (db.versions.get? k).map fun v =>
      if (db.artifacts.get? v.artifactId).any
            (fun a => a.tenantId == p.tenantId && a.tripId == current.tripId) ∧
          v.status = .published ∧
          ¬ (v.artifactId = current.artifactId ∧ v.version = current.version) then
        { v with status := .superseded }
      else v := by
  rw [supersedeOthers, Dict.get?_mapValues]

theorem Database.Keyed.commandPublished {db db' : Database} (hok : db.Keyed)
    {p : Principal} {current : ArtifactView} (ha : db'.artifacts = db.artifacts)
    (hv : ∀ k, db'.versions.get? k =
      if k = (current.artifactId, current.version) then
        ((supersedeOthers p current db).versions.get? k).map fun v => { v with status := .published }
      else (supersedeOthers p current db).versions.get? k) :
    Restatused (commandPublished p current) db db' := by
  refine ⟨ha, fun k r' hr' => ?_, fun id n row v hrow hver => ?_⟩
  · rw [hv, supersedeOthers_get?] at hr'
    split at hr'
    · rw [Option.map_map] at hr'
      obtain ⟨r, hr, rfl⟩ := Option.map_eq_some_iff.1 hr'
      refine ⟨r, hr, ?_⟩
      simp only [Function.comp_apply]
      split <;> rfl
    · obtain ⟨r, hr, rfl⟩ := Option.map_eq_some_iff.1 hr'
      refine ⟨r, hr, ?_⟩
      split <;> rfl
  · have h₁ : row.artifactId = id := hok.artifactKey _ _ hrow
    have hk := hok.versionKey _ _ hver
    have h₂ : v.artifactId = id := congrArg Prod.fst hk
    have h₃ : v.version = n := congrArg Prod.snd hk
    have hstatus : Postgres.commandPublished p current (row.view v) =
        if id = current.artifactId ∧ n = current.version then .published
        else if (row.tenantId = p.tenantId ∧ row.tripId = current.tripId) ∧ v.status = .published then
          .superseded
        else v.status := by
      subst h₁ h₃; rfl
    rw [hstatus, hv, supersedeOthers_get?, hver, Option.map_some]
    clear hstatus h₁ hk
    subst h₂ h₃
    rw [hrow]
    simp only [Prod.mk.injEq, Option.any_some, Bool.and_eq_true, beq_iff_eq]
    by_cases hcur : v.artifactId = current.artifactId ∧ v.version = current.version
    · rw [if_pos hcur, Option.map_some, if_neg fun h => h.2.2 hcur, if_pos hcur]
    · rw [if_neg hcur, if_neg hcur]
      by_cases hs : (row.tenantId = p.tenantId ∧ row.tripId = current.tripId) ∧ v.status = .published
      · rw [if_pos ⟨hs.1, hs.2, hcur⟩, if_pos hs]
      · rw [if_neg fun h => hs ⟨h.1, h.2.1⟩, if_neg hs]

theorem Commanded.publicationOk {env : Env} {p : Principal} {id : String} {current : ArtifactView}
    {trip : TripView} {command : ArtifactCommand} {db db' : Database}
    (hok : DatabasePublicationOk db) (hread : getArtifactTx p id none true db = .ok current)
    (htrip : getTripTx p current.tripId true db = .ok trip) (ha : db'.artifacts = db.artifacts)
    (h : Commanded env p current trip db db' command) : DatabasePublicationOk db' := by
  obtain ⟨rfl, hget, -, -⟩ := getArtifactTx_table hok.keyed hread
  obtain ⟨htget, hten⟩ := getTripTx_ok htrip
  have hkey := hok.pub.tripKey _ _ htget
  have htrips' : ∀ t', t'.tenantId = trip.tenantId → db'.trips = db.trips.set trip.tripId t' →
      ∀ k t, db.trips.get? k = some t → ∃ t₂, db'.trips.get? k = some t₂ ∧ t₂.tenantId = t.tenantId :=
    fun t' h₁ h₂ => h₂ ▸ trips_set (hkey ▸ htget) h₁
  cases h with
  | select hstatus htrips hversions =>
    refine hok.restatused (hok.keyed.statusAt ha hversions) ?_ fun k t hk => ⟨t, htrips ▸ hk, rfl⟩
    rw [show db'.tripTable = db.tripTable by unfold Database.tripTable; rw [htrips]]
    refine hok.pub.restatused (fun k t i n a _ _ hget' _ hpub => ?_) fun i n a hget' _ hpub => ?_
    · obtain ⟨rfl, rfl⟩ := hok.pub.key _ _ _ hget'
      rw [RoutePilot.statusAt, if_neg]
      · exact hpub
      · rintro ⟨h₁, h₂⟩
        rw [h₁, h₂, hget] at hget'; cases hget'
        rw [hstatus] at hpub; cases hpub
    · rw [RoutePilot.statusAt] at hpub
      split at hpub
      · cases hpub
      · exact hpub
  | publish hstatus htrips hversions =>
    refine hok.restatused (hok.keyed.commandPublished ha hversions) ?_
      (htrips' (pointTrip env.toEnv trip _ _) rfl htrips)
    rw [tripTable_set htrips]
    refine hok.pub.publish hget hkey.symm rfl ⟨rfl, rfl⟩ (if_pos ⟨rfl, rfl⟩)
      (fun i n b hb hne => ?_) fun i n b hb hbk hsnap hpub => ?_
    · obtain ⟨rfl, rfl⟩ := hok.pub.key _ _ _ hb
      rw [Postgres.commandPublished, if_neg, if_neg]
      · exact fun h => hne (h.1.2.trans hkey.symm)
      · rintro ⟨h₁, h₂⟩
        rw [h₁, h₂, hget] at hb; cases hb
        exact hne hkey.symm
    · obtain ⟨rfl, rfl⟩ := hok.pub.key _ _ _ hb
      by_contra hno
      rw [Postgres.commandPublished, if_neg hno] at hpub
      split at hpub
      · cases hpub
      · next hns =>
        -- a version of the Trip belongs to the tenant of the Trip
        obtain ⟨row, v, hrow, -, rfl⟩ := artifactTable_eq_some.1 hb
        obtain ⟨t, ht, hrten⟩ := hok.tenant _ _ hrow
        have hbt : row.tripId = current.tripId := hbk.trans hkey
        rw [hbt, htget] at ht; cases ht
        exact hns ⟨⟨hrten.symm.trans hten, hbt⟩, hpub⟩
  | revoke hstatus htrips hversions =>
    have hr := hok.keyed.statusAt ha hversions
    split at htrips
    · next hpoint =>
      refine hok.restatused hr ?_ (htrips' (pointTrip env.toEnv trip none none) rfl htrips)
      rw [tripTable_set htrips]
      refine hok.pub.revokeCurrent (hkey ▸ htget) rfl rfl hpoint (by simp [RoutePilot.statusAt]) hget ?_
      intro i n b hb hne
      obtain ⟨rfl, rfl⟩ := hok.pub.key _ _ _ hb
      rw [RoutePilot.statusAt, if_neg hne]
    · next hpoint =>
      refine hok.restatused hr ?_ fun k t hk => ⟨t, htrips ▸ hk, rfl⟩
      rw [show db'.tripTable = db.tripTable by unfold Database.tripTable; rw [htrips]]
      refine hok.pub.restatused (fun k t i n a ht hp hget' hk hpub => ?_) fun i n a hget' _ hpub => ?_
      · obtain ⟨rfl, rfl⟩ := hok.pub.key _ _ _ hget'
        rw [RoutePilot.statusAt, if_neg]
        · exact hpub
        · rintro ⟨h₁, h₂⟩
          -- the pointer of this Trip targets another version
          rw [h₁, h₂, hget] at hget'; cases hget'
          have ht' : db.trips.get? k = some t := ht
          rw [← hk, htget] at ht'; cases ht'
          exact hpoint hp
      · rw [RoutePilot.statusAt] at hpub
        split at hpub
        · cases hpub
        · exact hpub

/-! ## The step lemma -/

/-- Every other operation leaves Trips and Artifacts alone. -/
theorem runOp_keeps_artifactPart (env : Env) (o : StoreOp) (h : ¬ o.WritesArtifacts) :
    Keeps Database.artifactPart (runOp env o) := by
  by_cases hw : o.WritesRuns
  · refine runOp_keeps_of_writesRuns env o (fun _ _ _ _ _ => rfl) ?_ hw
    rintro ⟨p, runId, m, rfl⟩
    exact absurd trivial h
  · have ho : ∀ t a i e x, Keeps Database.artifactPart (insertOutbox env t a i e x) :=
      fun _ _ _ _ _ => .modify fun _ => rfl
    cases o with
    | createTrip | patchTrip | setTripStatus | mutateRun | createArtifact | patchArtifact
    | commandArtifact => exact absurd trivial h
    | createRun | resumeRun | claimRunExecution | renewRunExecution | releaseRunExecution =>
      exact absurd trivial hw
    | listTrips => exact .bind .get fun _ => .pure _
    | getTrip | getRun | getArtifact => exact .ask _
    | listTripMembers | listEvents | waitForEvents | listArtifacts =>
      exact .bind (.ask _) fun _ => .bind .get fun _ => .pure _
    | upsertTripMember =>
      exact transaction_keeps (.bind (.ensure _ _) fun _ => .bind (.ask _) fun _ =>
        .bind (.bind (.ensure _ _) fun _ => .ensure _ _) fun _ => .bind .get fun _ =>
        .bind (.ensure _ _) fun _ => .bind (.modify fun _ => rfl) fun _ =>
        .bind (ho _ _ _ _ _) fun _ => .pure _)
    | removeTripMember =>
      exact transaction_keeps (.bind (.ask _) fun _ =>
        .bind (.bind (.ensure _ _) fun _ => .ensure _ _) fun _ => .bind .get fun _ =>
        .bind (.ensure _ _) fun _ => .bind (.modify fun _ => rfl) fun _ => ho _ _ _ _ _)

/-- A call whose new Artifacts are not published, and whose Run results have the type of the stored
    Artifact, keeps the invariant, and no stored Artifact loses its row. -/
theorem runOp_publicationOk {env : Env} {o : StoreOp} {db db' : Database} {x : o.Ans}
    (hok : DatabasePublicationOk db)
    (hstatus : ∀ p a, o = .createArtifact p a → a.status ≠ .published)
    (htype : ∀ p runId m result, o = .mutateRun p runId m → m.resultArtifact = some result →
      ∀ a, db.artifactTable result.artifactId result.version = some a →
        a.artifactType = result.artifactType)
    (h : (runOp env o).run db = .ok x db') :
    DatabasePublicationOk db' ∧
      ∀ id row, db.artifacts.get? id = some row → db'.artifacts.get? id = some row := by
  -- most calls leave the table of Artifacts alone
  have hsame : ∀ (h : db'.artifacts = db.artifacts) id row, db.artifacts.get? id = some row →
      db'.artifacts.get? id = some row := fun h _ _ hget => h ▸ hget
  by_cases hw : o.WritesArtifacts
  · cases o with
    | createTrip p request =>
      obtain ⟨-, -, hpart⟩ := createTrip_ok h
      exact ⟨createTrip_publicationOk hok h, hsame (congrArg (·.2.1) hpart)⟩
    | patchTrip p k request =>
      obtain ⟨v, t, ht, hpart⟩ := patchTrip_ok h
      exact ⟨hok.editTrip ht hpart rfl rfl rfl rfl, hsame (congrArg (·.2.1) hpart)⟩
    | setTripStatus p k status =>
      obtain ⟨v, t, ht, hpart⟩ := setTripStatus_ok h
      exact ⟨hok.editTrip ht hpart rfl rfl rfl rfl, hsame (congrArg (·.2.1) hpart)⟩
    | createArtifact p c =>
      obtain ⟨-, -, hfresh, -, hpart⟩ := createArtifact_ok h
      refine ⟨createArtifact_publicationOk hok (hstatus p c rfl) h, fun id row hget => ?_⟩
      have ha : db'.artifacts = _ := congrArg (·.2.1) hpart
      rw [ha, Dict.get?_set_ne]
      · exact hget
      · rintro rfl
        rw [hfresh] at hget; cases hget
    | patchArtifact p id request =>
      obtain ⟨_, _, -, -, -, hpart⟩ := patchArtifact_ok h
      exact ⟨patchArtifact_publicationOk hok h, hsame (congrArg (·.2.1) hpart)⟩
    | commandArtifact p id request key requestHash =>
      obtain ⟨rfl, -⟩ | ⟨current, trip, hread, htrip, ha, hc⟩ := commandArtifact_ok hok.pub.tripKey h
      · exact ⟨hok, hsame rfl⟩
      · exact ⟨hc.publicationOk hok hread htrip ha, hsame ha⟩
    | mutateRun p runId m =>
      obtain ⟨run, db₁, u, -, hp, hpart⟩ := mutateRun_publish h
      cases hr : m.resultArtifact with
      | none =>
        rw [hr] at hp
        cases hp
        exact ⟨hok.congr hpart, hsame (congrArg (·.2.1) hpart)⟩
      | some result =>
        rw [hr] at hp
        have h₁ := publishResult_publicationOk hok (htype p runId m result rfl hr) hp
        obtain ⟨ha, -⟩ := publishResult_ok hok.pub.tripKey hp
        exact ⟨h₁.congr hpart, hsame ((congrArg (·.2.1) hpart).trans ha)⟩
    | _ => exact absurd hw id
  · have hk := runOp_keeps_artifactPart env o hw db
    rw [h] at hk
    exact ⟨hok.congr hk, hsame (congrArg (·.2.1) hk)⟩

/-! ## Commands that are applied -/

/-- A publish command that applies to the newest version is applied under a new key. -/
theorem publishCommand_accepted {env : Env} {p : Principal} {id : String} {request : ArtifactCommandRequest}
    {key requestHash : String} {db : Database} {current : ArtifactView} (hdb : DatabasePublicationOk db)
    (hread : getArtifactTx p id none true db = .ok current)
    (hkey : replayPayload p id (artifactIdempotencyFingerprint env p id key) db = none)
    (hpub : request.type = .publish) (happlies : request.AppliesTo current) :
    ∃ x db', (commandArtifact env p id request key requestHash).run db = .ok x db' ∧ x.replayed = false := by
  obtain ⟨hmutable, hversion, hstatus⟩ := happlies
  rw [hpub] at hstatus
  replace hstatus : current.status = .validated := hstatus
  obtain ⟨row, v, hrow, -, hv, hview, ⟨trip, htrip⟩, -⟩ := getArtifactTx_ok hdb.versionKey hread
  have hid := (hdb.artifactKey _ _ hrow).1
  obtain ⟨htget, htenant⟩ := getTripTx_ok htrip
  have hcurrent : getTripTx p current.tripId true db = .ok trip := by rw [hview]; exact htrip
  -- the version itself is not superseded
  have hupdate : ∃ versions, (updateVersion (current.artifactId, current.version) (fun r => r.status == .validated)
      fun v => { v with status := .published }).run (supersedeOthers p current db) =
      .ok (some { v with status := .published }) { supersedeOthers p current db with versions := versions } := by
    refine ⟨_, updateRow_of ?_ ?_⟩
    · have hsame : v.artifactId = current.artifactId ∧ v.version = current.version := by
        rw [hview]
        exact ⟨(congrArg Prod.fst (hdb.versionKey _ _ hv)).trans hid.symm, rfl⟩
      have hget : db.versions.get? (current.artifactId, current.version) = some v := by
        rw [hview]
        exact (congrArg (fun i => db.versions.get? (i, v.version)) hid).trans hv
      show (db.versions.mapValues _).get? _ = _
      rw [Dict.get?_mapValues, hget, Option.map_some, if_neg fun h => h.2.2 hsame]
    · rw [hview] at hstatus
      exact beq_iff_eq.2 hstatus
  have hpoint : ∀ versions, ∃ db', (pointTripTx env p trip (some current.artifactId) (some current.version)).run
      { supersedeOthers p current db with versions := versions } = .ok () db' := by
    intro versions
    have hpointed : (updateTrip trip.tripId (fun t => t.tenantId == p.tenantId && t.version == trip.version)
        (fun t => { t with
          currentArtifactId := some current.artifactId, currentArtifactVersion := some current.version
          version := trip.version + 1, updatedAt := env.now })).run
        { supersedeOthers p current db with versions := versions } = .ok (some _) _ :=
      updateRow_of (by rw [hdb.pub.tripKey _ _ htget]; exact htget) (by simp [htenant])
    simp only [pointTripTx, EStateM.run_bind, hpointed, ensure, Option.isSome_some, if_true]
    exact ⟨_, rfl⟩
  obtain ⟨versions, hupdated⟩ := hupdate
  obtain ⟨db₁, hpointed⟩ := hpoint versions
  simp only [commandArtifact, transaction_run, EStateM.run_bind, run_ask, hread, hmutable, EStateM.run_get, hkey,
    applyCommand, ensure, hversion, hstatus, hpub, ArtifactCommand.transition, if_true, EStateM.run_pure, hcurrent,
    supersedeByCommand, EStateM.run_modify]
  rw [← hversion, hupdated]
  simp only [Option.isSome_some, if_true, EStateM.run_pure, pointByCommand, hpointed]
  exact ⟨_, _, rfl, rfl⟩

/-- When a publish command is applied, and not replayed. -/
theorem publishCommand_applied_iff {env : Env} {p : Principal} {id : String} {request : ArtifactCommandRequest}
    {key requestHash : String} {db : Database} (hdb : DatabasePublicationOk db) (hpub : request.type = .publish) :
    (∃ x db', (commandArtifact env p id request key requestHash).run db = .ok x db' ∧ x.replayed = false) ↔
      replayPayload p id (artifactIdempotencyFingerprint env p id key) db = none ∧
      ∃ current, getArtifactTx p id none true db = .ok current ∧ request.AppliesTo current := by
  constructor
  · rintro ⟨x, db', h, hx⟩
    simp only [commandArtifact, transaction_ok, bind_ok, ask_ok, EStateM.run_get, EStateM.Result.ok.injEq,
      existsAndEq, true_and, and_assoc] at h
    obtain ⟨authorized, hread, _, hregistered, h⟩ := h
    split at h
    · rw [ask_ok] at h
      rw [replayCommand_ok h.1] at hx
      cases hx
    · next hkey =>
      simp only [applyCommand, bind_ok, ask_ok, ensure_ok, existsAndEq, true_and, exists_const, and_assoc] at h
      obtain ⟨current, hread', hversion, hstatus, -⟩ := h
      obtain rfl : authorized = current := Except.ok.inj (hread.symm.trans hread')
      exact ⟨hkey, authorized, hread, hregistered, hversion, hstatus⟩
  · rintro ⟨hkey, current, hread, happlies⟩
    exact publishCommand_accepted hdb hread hkey hpub happlies

end RoutePilot.Postgres
