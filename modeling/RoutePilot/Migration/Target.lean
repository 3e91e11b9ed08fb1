/-
  The target of a backfill (`scripts/migration_v1/core.py`): four tables, into
  which the rows of a record are inserted, or found to be there already.

  A row that is found must be equal to the expected one, column by column; no
  row is overwritten, so a record that is migrated is settled
  (`migrateRecord_settles`) and stays so while other records are migrated.
-/
import RoutePilot.Lib.Durable
import RoutePilot.Migration.Sources

namespace RoutePilot.Migration

open Lib

variable (P : Python)

/-! ## Tables -/

structure Target where
  trips : List TripRow
  members : List MemberRow
  artifacts : List ArtifactRow
  versions : List VersionRow

/-- The constraints of the target's schema: whether it takes a row. -/
structure Integrity where
  trip : Target → TripRow → Bool
  member : Target → MemberRow → Bool
  artifact : Target → ArtifactRow → Bool
  version : Target → VersionRow → Bool

/-- What `_insert_or_validate` returns. -/
inductive RowStatus where
  | inserted
  | alreadyApplied
  deriving DecidableEq

/-- The columns whose values differ. -/
def mismatched (columns : List (String × Bool)) : List String := (columns.filter fun c => !c.2).map Prod.fst

variable {ρ : Type}

/-- `_insert_or_validate`: the table afterwards, and what was done.  `isKey` finds the primary key,
    `admits` is whether the schema takes the row, and `mismatches` compares the columns. -/
def insertOrValidate (name : String) (table : List ρ) (isKey : ρ → Bool) (admits : Bool) (mismatches : ρ → List String)
    (expected : ρ) : Except String (List ρ × RowStatus) :=
  match table.find? isKey with
  | none =>
    if admits then pure (table ++ [expected], .inserted)
    else throw ("target uniqueness conflict in " ++ name)
  | some existing =>
    if mismatches existing ≠ [] then
      throw ("refusing to overwrite changed target row " ++ name ++ "; fields: " ++
        ", ".intercalate ((mismatches existing).insertionSort (· ≤ ·)))
    else pure (table, .alreadyApplied)

/-- `_same_value` of the columns of `v1_trips`. -/
def tripMismatches (expected actual : TripRow) : List String :=
  mismatched [("trip_id", actual.tripId = expected.tripId), ("tenant_id", actual.tenantId = expected.tenantId),
    ("owner_id", actual.ownerId = expected.ownerId), ("title", actual.title = expected.title),
    ("locale", actual.locale = expected.locale), ("timezone", actual.timezone = expected.timezone),
    ("status", actual.status = expected.status), ("version", actual.version = expected.version),
    ("current_artifact_id", actual.currentArtifactId = expected.currentArtifactId),
    ("current_artifact_version", actual.currentArtifactVersion = expected.currentArtifactVersion),
    ("created_at", actual.createdAt = expected.createdAt), ("updated_at", actual.updatedAt = expected.updatedAt)]

def memberMismatches (expected actual : MemberRow) : List String :=
  mismatched [("tenant_id", actual.tenantId = expected.tenantId), ("trip_id", actual.tripId = expected.tripId),
    ("user_id", actual.userId = expected.userId), ("role", actual.role = expected.role),
    ("version", actual.version = expected.version), ("created_at", actual.createdAt = expected.createdAt),
    ("updated_at", actual.updatedAt = expected.updatedAt)]

def artifactMismatches (expected actual : ArtifactRow) : List String :=
  mismatched [("artifact_id", actual.artifactId = expected.artifactId), ("trip_id", actual.tripId = expected.tripId),
    ("tenant_id", actual.tenantId = expected.tenantId), ("artifact_type", actual.artifactType = expected.artifactType),
    ("created_by", actual.createdBy = expected.createdBy), ("created_at", actual.createdAt = expected.createdAt)]

/-- The content is compared by its hash. -/
def versionMismatches (expected actual : VersionRow) : List String :=
  mismatched [("artifact_id", actual.artifactId = expected.artifactId),
    ("tenant_id", actual.tenantId = expected.tenantId), ("version", actual.version = expected.version),
      ("schema_version", actual.schemaVersion = expected.schemaVersion),
    ("status", actual.status = expected.status),
    ("content", sha256Json P actual.content = sha256Json P expected.content),
    ("parent_version", actual.parentVersion = expected.parentVersion),
    ("created_at", actual.createdAt = expected.createdAt)]

/-! ## One record -/

/-- An entry of the archive manifest, its timestamp aside. -/
structure ArchiveEntry where
  sourceKey : String
  sourceKind : String
  sourceId : String
  sourceChecksum : String
  targetTripId : String
  targetArtifactId : String
  targetArtifactVersion : ℕ
  targetContentChecksum : String
  status : String

def archiveEntry (record : SourceRecord) (rows : Rows) (status : String) : ArchiveEntry where
  sourceKey := record.key
  sourceKind := record.sourceKind
  sourceId := record.sourceId
  sourceChecksum := record.sourceChecksum P
  targetTripId := rows.trip.tripId
  targetArtifactId := rows.artifact.artifactId
  targetArtifactVersion := 1
  targetContentChecksum := sha256Json P rows.artifactVersion.content
  status := status

/-- The rows of a record in the target, and what was done with each. -/
def insertRows (I : Integrity) (target : Target) (rows : Rows) : Except String (Target × List RowStatus) := do
  let (trips, onTrip) ← insertOrValidate "v1_trips" target.trips (fun row => row.tripId = rows.trip.tripId)
    (I.trip target rows.trip) (tripMismatches rows.trip) rows.trip
  let target := { target with trips }
  let (members, onMember) ← insertOrValidate "v1_trip_members" target.members
    (fun row => row.tripId = rows.member.tripId ∧ row.userId = rows.member.userId)
    (I.member target rows.member) (memberMismatches rows.member) rows.member
  let target := { target with members }
  let (artifacts, onArtifact) ← insertOrValidate "v1_artifacts" target.artifacts
    (fun row => row.artifactId = rows.artifact.artifactId)
    (I.artifact target rows.artifact) (artifactMismatches rows.artifact) rows.artifact
  let target := { target with artifacts }
  let (versions, onVersion) ← insertOrValidate "v1_artifact_versions" target.versions
    (fun row => row.artifactId = rows.artifactVersion.artifactId ∧ row.version = 1)
    (I.version target rows.artifactVersion) (versionMismatches P rows.artifactVersion) rows.artifactVersion
  pure ({ target with versions }, [onTrip, onMember, onArtifact, onVersion])

/-- `_target_rows(record, mappings[record.key])`. -/
def mappedRows (mappings : Dict String OwnerMapping) (record : SourceRecord) : Except String Rows :=
  match mappings.get? record.key with
  | none => throw "KeyError"
  | some owner => match targetRows P record owner with
    | none => throw "OverflowError"
    | some rows => pure rows

/-- The body of the loop over a batch. -/
def migrateRecord (I : Integrity) (mappings : Dict String OwnerMapping) (target : Target) (record : SourceRecord) :
    Except String (Target × ArchiveEntry) := do
  let rows ← mappedRows P mappings record
  let (target, statuses) ← insertRows P I target rows
  let status := if statuses.all (· = .alreadyApplied) then "already_applied" else "migrated"
  pure (target, archiveEntry P record rows status)

/-- The transaction of a batch. -/
def migrateBatch (I : Integrity) (mappings : Dict String OwnerMapping) :
    Target → List SourceRecord → Except String (Target × List ArchiveEntry)
  | target, [] => pure (target, [])
  | target, record :: records => do
    let (target, entry) ← migrateRecord P I mappings target record
    let (target, entries) ← migrateBatch I mappings target records
    pure (target, entry :: entries)

/-! ## What a table holds -/

section
variable {name : String} {table table' : List ρ} {isKey : ρ → Bool} {admits : Bool} {mismatches : ρ → List String}
  {expected : ρ} {status : RowStatus}

/-- The row under a key is the expected one. -/
def Found (table : List ρ) (isKey : ρ → Bool) (mismatches : ρ → List String) : Prop :=
  ∃ existing, table.find? isKey = some existing ∧ mismatches existing = []

theorem Found.of_prefix (h : Found table isKey mismatches) (hpre : table <+: table') :
    Found table' isKey mismatches := by
  obtain ⟨existing, hfind, hsame⟩ := h
  obtain ⟨more, rfl⟩ := hpre
  refine ⟨existing, ?_, hsame⟩
  rw [List.find?_append, hfind, Option.some_or]

theorem insertOrValidate_found (h : Found table isKey mismatches) :
    insertOrValidate name table isKey admits mismatches expected = .ok (table, .alreadyApplied) := by
  obtain ⟨existing, hfind, hsame⟩ := h
  unfold insertOrValidate
  rw [hfind]
  exact if_neg (not_not.2 hsame)

/-- Afterwards the row is there, after the rows that were there before. -/
theorem insertOrValidate_ok (hkey : isKey expected = true) (hsame : mismatches expected = [])
    (h : insertOrValidate name table isKey admits mismatches expected = .ok (table', status)) :
    Found table' isKey mismatches ∧ table <+: table' := by
  unfold insertOrValidate at h
  split at h
  · rename_i hnone
    split at h
    · cases h
      refine ⟨⟨expected, ?_, hsame⟩, List.prefix_append _ _⟩
      rw [List.find?_append, hnone, Option.none_or, List.find?_singleton, if_pos hkey]
    · cases h
  · rename_i existing hfind
    split at h
    · cases h
    · rename_i hmatch
      cases h
      exact ⟨⟨existing, hfind, not_not.1 hmatch⟩, List.prefix_rfl⟩

end

@[simp] theorem mismatched_nil : mismatched [] = [] := rfl

@[simp] theorem mismatched_true (column : String) (columns : List (String × Bool)) :
    mismatched ((column, true) :: columns) = mismatched columns := rfl

theorem tripMismatches_self (row : TripRow) : tripMismatches row row = [] := by simp [tripMismatches]

theorem memberMismatches_self (row : MemberRow) : memberMismatches row row = [] := by simp [memberMismatches]

theorem artifactMismatches_self (row : ArtifactRow) : artifactMismatches row row = [] := by simp [artifactMismatches]

theorem versionMismatches_self (row : VersionRow) : versionMismatches P row row = [] := by simp [versionMismatches]

/-! ## Settled records -/

/-- A target with more rows after those of another. -/
structure Target.Extends (target' target : Target) : Prop where
  trips : target.trips <+: target'.trips
  members : target.members <+: target'.members
  artifacts : target.artifacts <+: target'.artifacts
  versions : target.versions <+: target'.versions

/-- The rows of a record are in the target. -/
structure Applied (P : Python) (target : Target) (rows : Rows) : Prop where
  trip : Found target.trips (fun row => row.tripId = rows.trip.tripId) (tripMismatches rows.trip)
  member : Found target.members (fun row => row.tripId = rows.member.tripId ∧ row.userId = rows.member.userId)
    (memberMismatches rows.member)
  artifact : Found target.artifacts (fun row => row.artifactId = rows.artifact.artifactId)
    (artifactMismatches rows.artifact)
  version : Found target.versions (fun row => row.artifactId = rows.artifactVersion.artifactId ∧ row.version = 1)
    (versionMismatches P rows.artifactVersion)

theorem Applied.of_extends {target target' : Target} {rows : Rows} (h : Applied P target rows)
    (hext : target'.Extends target) : Applied P target' rows where
  trip := h.trip.of_prefix hext.trips
  member := h.member.of_prefix hext.members
  artifact := h.artifact.of_prefix hext.artifacts
  version := h.version.of_prefix hext.versions

variable {P} {I : Integrity} {mappings : Dict String OwnerMapping}

theorem insertRows_applied {target : Target} {rows : Rows} (h : Applied P target rows) :
    insertRows P I target rows = .ok (target,
      [.alreadyApplied, .alreadyApplied, .alreadyApplied, .alreadyApplied]) := by
  unfold insertRows
  rw [insertOrValidate_found h.trip, ok_bind]
  simp only
  rw [insertOrValidate_found h.member, ok_bind]
  simp only
  rw [insertOrValidate_found h.artifact, ok_bind]
  simp only
  rw [insertOrValidate_found h.version, ok_bind]
  rfl

/-- The rows of one artifact version are the first of it. -/
theorem insertRows_ok {target target' : Target} {rows : Rows} {statuses : List RowStatus}
    (hversion : rows.artifactVersion.version = 1) (h : insertRows P I target rows = .ok (target', statuses)) :
    Applied P target' rows ∧ target'.Extends target := by
  unfold insertRows at h
  obtain ⟨⟨trips, onTrip⟩, htrip, h⟩ := bind_eq_ok.1 h
  obtain ⟨⟨members, onMember⟩, hmember, h⟩ := bind_eq_ok.1 h
  obtain ⟨⟨artifacts, onArtifact⟩, hartifact, h⟩ := bind_eq_ok.1 h
  obtain ⟨⟨versions, onVersion⟩, hversions, h⟩ := bind_eq_ok.1 h
  cases h
  obtain ⟨hft, hpt⟩ := insertOrValidate_ok (by simp) (tripMismatches_self _) htrip
  obtain ⟨hfm, hpm⟩ := insertOrValidate_ok (by simp) (memberMismatches_self _) hmember
  obtain ⟨hfa, hpa⟩ := insertOrValidate_ok (by simp) (artifactMismatches_self _) hartifact
  obtain ⟨hfv, hpv⟩ := insertOrValidate_ok (by simp [hversion]) (versionMismatches_self P _) hversions
  exact ⟨⟨hft, hfm, hfa, hfv⟩, ⟨hpt, hpm, hpa, hpv⟩⟩

/-- The target after one record. -/
def applyRecord (P : Python) (I : Integrity) (mappings : Dict String OwnerMapping) (target : Target)
    (record : SourceRecord) : Except String Target := do
  let rows ← mappedRows P mappings record
  let (target, _) ← insertRows P I target rows
  pure target

theorem mappedRows_version {record : SourceRecord} {rows : Rows} (h : mappedRows P mappings record = .ok rows) :
    rows.artifactVersion.version = 1 := by
  unfold mappedRows at h
  split at h
  · cases h
  · split at h
    · cases h
    · rename_i htarget
      cases h
      obtain ⟨createdAt, -, rfl⟩ := Option.map_eq_some_iff.1 htarget
      rfl

theorem applyRecord_ok {target target' : Target} {record : SourceRecord}
    (h : applyRecord P I mappings target record = .ok target') :
    ∃ rows, mappedRows P mappings record = .ok rows ∧ Applied P target' rows ∧ target'.Extends target := by
  obtain ⟨rows, hrows, h⟩ := bind_eq_ok.1 h
  obtain ⟨⟨target₁, statuses⟩, hinsert, h⟩ := bind_eq_ok.1 h
  cases h
  exact ⟨rows, hrows, insertRows_ok (mappedRows_version hrows) hinsert⟩

theorem applyRecord_applied {target : Target} {record : SourceRecord} {rows : Rows}
    (hrows : mappedRows P mappings record = .ok rows) (h : Applied P target rows) :
    applyRecord P I mappings target record = .ok target := by
  unfold applyRecord
  rw [hrows, ok_bind, insertRows_applied h]
  rfl

/-- A migrated record is settled, whatever is migrated after it. -/
theorem applyRecord_settles : Settles (applyRecord P I mappings) where
  done h := by
    obtain ⟨rows, hrows, happlied, -⟩ := applyRecord_ok h
    exact applyRecord_applied hrows happlied
  keep ha hb := by
    obtain ⟨rows, hrows, happlied, -⟩ := applyRecord_ok ha
    obtain ⟨-, -, -, hext⟩ := applyRecord_ok hb
    exact applyRecord_applied hrows (happlied.of_extends P hext)

/-! ## Batches -/

/-- The entry of a record, whatever its status. -/
def EntryOf (P : Python) (mappings : Dict String OwnerMapping) (record : SourceRecord) (entry : ArchiveEntry) : Prop :=
  ∃ rows status, mappedRows P mappings record = .ok rows ∧ entry = archiveEntry P record rows status

theorem migrateRecord_ok {target target' : Target} {record : SourceRecord} {entry : ArchiveEntry}
    (h : migrateRecord P I mappings target record = .ok (target', entry)) :
    applyRecord P I mappings target record = .ok target' ∧ EntryOf P mappings record entry := by
  obtain ⟨rows, hrows, h⟩ := bind_eq_ok.1 h
  obtain ⟨⟨target₁, statuses⟩, hinsert, h⟩ := bind_eq_ok.1 h
  cases h
  refine ⟨?_, rows, _, hrows, rfl⟩
  unfold applyRecord
  rw [hrows, ok_bind, hinsert]
  rfl

theorem exists_migrateRecord {target target' : Target} {record : SourceRecord}
    (h : applyRecord P I mappings target record = .ok target') :
    ∃ entry, migrateRecord P I mappings target record = .ok (target', entry) := by
  obtain ⟨rows, hrows, h⟩ := bind_eq_ok.1 h
  obtain ⟨⟨target₁, statuses⟩, hinsert, h⟩ := bind_eq_ok.1 h
  cases h
  refine ⟨archiveEntry P record rows
    (if statuses.all (· = .alreadyApplied) then "already_applied" else "migrated"), ?_⟩
  unfold migrateRecord
  rw [hrows, ok_bind, hinsert]
  rfl

theorem migrateBatch_ok {records : List SourceRecord} : ∀ {target target' : Target} {entries : List ArchiveEntry},
    migrateBatch P I mappings target records = .ok (target', entries) →
      records.foldlM (applyRecord P I mappings) target = .ok target' ∧
        List.Forall₂ (EntryOf P mappings) records entries := by
  induction records with
  | nil =>
    intro target target' entries h
    cases h
    exact ⟨rfl, .nil⟩
  | cons record records ih =>
    intro target target' entries h
    obtain ⟨⟨next, entry⟩, hrecord, h⟩ := bind_eq_ok.1 h
    obtain ⟨⟨last, rest⟩, hrest, h⟩ := bind_eq_ok.1 h
    cases h
    obtain ⟨happly, hentry⟩ := migrateRecord_ok hrecord
    obtain ⟨hfold, hentries⟩ := ih hrest
    refine ⟨?_, .cons hentry hentries⟩
    rw [List.foldlM_cons, happly]
    exact hfold

theorem exists_migrateBatch {records : List SourceRecord} : ∀ {target target' : Target},
    records.foldlM (applyRecord P I mappings) target = .ok target' →
      ∃ entries, migrateBatch P I mappings target records = .ok (target', entries) := by
  induction records with
  | nil =>
    intro target target' h
    cases h
    exact ⟨[], rfl⟩
  | cons record records ih =>
    intro target target' h
    rw [List.foldlM_cons, bind_eq_ok] at h
    obtain ⟨next, hrecord, h⟩ := h
    obtain ⟨entry, hentry⟩ := exists_migrateRecord hrecord
    obtain ⟨entries, hentries⟩ := ih h
    refine ⟨entry :: entries, ?_⟩
    unfold migrateBatch
    rw [hentry, ok_bind]
    simp only
    rw [hentries]
    rfl

end RoutePilot.Migration
