/-
  The reconciliation of a migration (`scripts/migration_v1/core.py`): what is in
  the target is compared with the sources, the owners and the manifest, and
  every difference is an issue.
-/
import RoutePilot.Migration.Backfill

namespace RoutePilot.Migration

open Lib

/-- An issue of a report. -/
inductive Issue where
  | record (code sourceKey : String)
  | counted (code : String) (count : ℕ)
  | mismatch (counts : List (String × ℕ))
  deriving DecidableEq

variable (P : Python) (R : Request)

/-! ## The manifest -/

/-- `sorted(a - b)`. -/
def sortedDifference (a b : List String) : List String := (a.filter (· ∉ b)).insertionSort (· ≤ ·)

def manifestIssues (expectedKeys manifestKeys : List String) : List Issue :=
  (sortedDifference expectedKeys manifestKeys).map (.record "manifest_entry_missing") ++
    (sortedDifference manifestKeys expectedKeys).map (.record "manifest_orphan_entry")

/-! ## Counts -/

/-- The entries of the expected keys. -/
def expectedEntries (expectedKeys : List String) (entries : Dict String ArchiveEntry) : List ArchiveEntry :=
  expectedKeys.filterMap entries.get?

def targetCounts (target : Target) (expected : List ArchiveEntry) : List (String × ℕ) :=
  let tripIds := expected.map (·.targetTripId)
  let artifactIds := expected.map (·.targetArtifactId)
  [("target_trips", target.trips.countP fun row => row.tripId ∈ tripIds),
    ("target_artifacts", target.artifacts.countP fun row => row.artifactId ∈ artifactIds),
    ("target_artifact_versions", target.versions.countP fun row => row.artifactId ∈ artifactIds ∧ row.version = 1),
    ("target_owner_memberships", target.members.countP fun row => row.tripId ∈ tripIds ∧ row.role = "owner")]

/-- The number of rows of a join on a condition. -/
def joinCount {α β : Type} (left : List α) (right : List β) (on : α → β → Bool) : ℕ :=
  (left.map fun a => right.countP (on a)).sum

/-- The number of rows of an outer join that have no partner. -/
def orphanCount {α β : Type} (left : List α) (right : List β) (on : α → β → Bool) : ℕ :=
  left.countP fun a => !right.any (on a)

def globalIntegrity (target : Target) : List (String × ℕ) :=
  [("orphan_trip_members", orphanCount target.members target.trips fun m t => m.tripId = t.tripId),
    ("orphan_artifacts", orphanCount target.artifacts target.trips fun a t => a.tripId = t.tripId),
    ("orphan_artifact_versions", orphanCount target.versions target.artifacts fun v a => v.artifactId = a.artifactId),
    ("cross_tenant_members", joinCount target.members target.trips fun m t => m.tripId = t.tripId ∧
      m.tenantId ≠ t.tenantId),
    ("cross_tenant_artifacts", joinCount target.artifacts target.trips fun a t => a.tripId = t.tripId ∧
      a.tenantId ≠ t.tenantId),
    ("cross_tenant_artifact_versions",
      joinCount target.versions target.artifacts fun v a => v.artifactId = a.artifactId ∧ v.tenantId ≠ a.tenantId),
    ("invalid_current_artifact_refs",
      orphanCount (target.trips.filter fun t => t.currentArtifactId.isSome) target.versions
        fun t v => t.currentArtifactId = some v.artifactId ∧ t.currentArtifactVersion = some v.version)]

/-! ## Records -/

/-- The rows that the target has for a record. -/
def selectRows (target : Target) (rows : Rows) : Option Rows := do
  let trip ← target.trips.find? fun row => row.tripId = rows.trip.tripId
  let member ← target.members.find? fun row => row.tripId = rows.member.tripId ∧ row.userId = rows.member.userId
  let artifact ← target.artifacts.find? fun row => row.artifactId = rows.artifact.artifactId
  let artifactVersion ← target.versions.find? fun row =>
    row.artifactId = rows.artifactVersion.artifactId ∧ row.version = 1
  pure { trip, member, artifact, artifactVersion }

/-- `issues.append(…)` under a condition. -/
def issueIf (condition : Bool) (code sourceKey : String) : List Issue :=
  if condition then [.record code sourceKey] else []

/-- The comparison of the rows found with the expected ones. -/
def rowIssues (record : SourceRecord) (entry : ArchiveEntry) (owner : OwnerMapping) (rows found : Rows) : List Issue :=
  let key := record.key
  let actualContentChecksum := sha256Json P found.artifactVersion.content
  issueIf (¬ (found.trip.tenantId = owner.tenantId ∧ found.member.tenantId = owner.tenantId ∧
      found.artifact.tenantId = owner.tenantId ∧ found.artifactVersion.tenantId = owner.tenantId))
      "cross_tenant_reference" key ++
    issueIf (found.trip.ownerId ≠ owner.ownerId ∨ found.member.userId ≠ owner.ownerId ∨ found.member.role ≠ "owner")
      "owner_mismatch" key ++
    issueIf (found.artifact.tripId ≠ found.trip.tripId) "artifact_trip_orphan" key ++
    issueIf (found.trip.currentArtifactId ≠ some found.artifact.artifactId ∨ found.trip.currentArtifactVersion ≠ some 1)
      "current_artifact_ref_mismatch" key ++
    issueIf (found.artifact.artifactType ≠ artifactType ∨ found.artifactVersion.status ≠ "published")
      "imported_archive_contract_mismatch" key ++
    issueIf (actualContentChecksum ≠ sha256Json P rows.artifactVersion.content) "target_content_hash_mismatch" key ++
    issueIf (entry.sourceChecksum ≠ record.sourceChecksum P) "manifest_source_hash_mismatch" key ++
    issueIf (entry.targetContentChecksum ≠ actualContentChecksum) "manifest_target_hash_mismatch" key

def recordIssues (target : Target) (entries : Dict String ArchiveEntry) (record : SourceRecord) :
    Except String (List Issue) :=
  match entries.get? record.key, R.mappings.get? record.key with
  | some entry, some owner => match targetRows P record owner with
    | none => throw "OverflowError"
    | some rows => match selectRows target rows with
      | none => pure [.record "target_reference_missing" record.key]
      | some found => pure (rowIssues P record entry owner rows found)
  | _, _ => pure [.record "owner_or_manifest_unresolved" record.key]

/-- The issues that `verify` reports: it passes if there are none. -/
def verify (world : World) : Except String (List Issue) := do
  let loaded ← loadSources P R.sessionsFile R.shareLinksFile R.sourceDatabase
  let records ← validateSourceSnapshot P loaded R.inventory
  checkMapping R "owner mapping changed after inventory"
  let entries := entriesByKey (loadArchive world.manifest).entries
  let expectedKeys := records.map SourceRecord.key
  let manifestKeys := entries.entries.map Prod.fst
  let counts := targetCounts world.target (expectedEntries expectedKeys entries)
  let integrity := globalIntegrity world.target
  let perRecord ← records.mapM (recordIssues P R world.target entries)
  let allCounts := [("source_records", records.length), ("manifest_entries", manifestKeys.length)] ++ counts ++
    integrity
  pure (manifestIssues expectedKeys manifestKeys ++
    (integrity.filter fun c => c.2 ≠ 0).map (fun c => .counted c.1 c.2) ++ perRecord.flatten ++
    (if counts.any fun c => c.2 ≠ records.length then [.mismatch allCounts] else []))

end RoutePilot.Migration
