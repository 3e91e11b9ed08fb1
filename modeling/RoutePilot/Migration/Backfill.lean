/-
  The backfill (`scripts/migration_v1/core.py`): batches of records are migrated
  in transactions of their own, each followed by a write of the archive manifest
  and one of the resume state.

  Three places are durable: the target, the manifest and the state.  A run may
  be killed at any point: a transaction that is not committed leaves no trace,
  and a file is replaced as a whole.
-/
import RoutePilot.Lib.Durable
import RoutePilot.Migration.Target

namespace RoutePilot.Migration

open Lib

/-! ## What is durable -/

/-- The archive manifest, its timestamps aside. -/
structure Manifest where
  status : String
  entries : List ArchiveEntry
  sourceFingerprint : Option Value
  requestHash : Option String

/-- The resume state, its timestamp aside. -/
structure ResumeState where
  requestHash : String
  lastCommittedCursor : Option String
  batchesCommitted : ℕ
  recordsCommitted : ℕ
  status : String

structure World where
  target : Target
  manifest : Option Manifest
  state : Option ResumeState

/-- A run of the program, which may raise with a message. -/
abbrev Run := Killable String World

/-! ## The request -/

/-- What a backfill is asked to migrate: the sources, their inventory, and the owners. -/
structure Request where
  inventory : Inventory
  mappings : Dict String OwnerMapping
  mappingChecksum : String
  sessionsFile : Option (String × Option Value)
  shareLinksFile : Option (String × Option Value)
  sourceDatabase : Option SqlTables
  /-- `sha256_json(request)`, of values that are fixed with the request. -/
  requestHash : String

variable (P : Python) (I : Integrity) (R : Request)

/-- The owners are those that the inventory was made with. -/
def checkMapping (message : String) : Except String Unit :=
  match Mapping.get R.inventory "owner_mapping_checksum" with
  | .str checksum => if R.mappingChecksum ≠ checksum then throw message else pure ()
  | _ => throw message

/-- Every record has an owner. -/
def checkOwners (selected : List SourceRecord) : Except String Unit :=
  let unresolved := selected.filter fun record => (R.mappings.get? record.key).isNone
  if unresolved ≠ [] then
    throw ("owner mapping is incomplete for " ++ toString unresolved.length ++ " source records")
  else pure ()

/-- The records to migrate, each with an owner. -/
def selectedRecords : Except String (List SourceRecord) := do
  let records ← loadSources P R.sessionsFile R.shareLinksFile R.sourceDatabase
  let selected ← validateSourceSnapshot P records R.inventory
  checkMapping R "owner mapping changed after inventory; create a new inventory"
  checkOwners R selected
  pure selected

/-- `_load_archive`. -/
def loadArchive (manifest : Option Manifest) : Manifest :=
  manifest.getD { status := "in_progress", entries := [], sourceFingerprint := none, requestHash := none }

/-- `_load_state`. -/
def loadState (state : Option ResumeState) : Except String ResumeState :=
  match state with
  | none => pure {
      requestHash := R.requestHash, lastCommittedCursor := none, batchesCommitted := 0, recordsCommitted := 0
      status := "not_started" }
  | some state =>
    if state.requestHash ≠ R.requestHash then throw "resume state request hash does not match this backfill request"
    else pure state

/-- The records after the last committed cursor. -/
def pendingRecords (lastCursor : Option String) (selected : List SourceRecord) : List SourceRecord :=
  selected.filter fun record => match lastCursor with
    | none => true
    | some cursor => cursor < record.key

/-! ## The run -/

/-- What a run holds in memory between two batches. -/
structure Memory where
  state : ResumeState
  archive : Manifest
  /-- `existing_entries`. -/
  existing : Dict String ArchiveEntry

/-- `{str(entry.get("source_key")): entry for entry in entries}`. -/
def entriesByKey (entries : List ArchiveEntry) : Dict String ArchiveEntry :=
  (∅ : Dict String ArchiveEntry).setAll (entries.map fun entry => (entry.sourceKey, entry))

/-- `[existing[key] for key in sorted(existing)]`. -/
def sortedEntries (existing : Dict String ArchiveEntry) : List ArchiveEntry :=
  ((existing.entries.map Prod.fst).insertionSort (· ≤ ·)).filterMap existing.get?

/-- The manifest with the entries of a committed batch. -/
def Memory.withEntries (memory : Memory) (entries : List ArchiveEntry) : Memory :=
  let existing := memory.existing.setAll (entries.map fun entry => (entry.sourceKey, entry))
  { memory with
    existing
    archive := { memory.archive with entries := sortedEntries existing, status := "in_progress" } }

/-- The state after a committed batch. -/
def Memory.advanced (memory : Memory) (batch : List SourceRecord) : Memory :=
  { memory with state := { memory.state with
      status := "in_progress"
      lastCommittedCursor := (batch.getLast?.map SourceRecord.key).or memory.state.lastCommittedCursor
      batchesCommitted := memory.state.batchesCommitted + 1
      recordsCommitted := memory.state.recordsCommitted + batch.length } }

/-- The transaction of a batch, up to its commit. -/
def commitBatch (batch : List SourceRecord) : Run (List ArchiveEntry) := do
  let world ← look
  let (target, entries) ← raising (migrateBatch P I R.mappings world.target batch)
  durable fun world => { world with target }
  pure entries

def writeManifest (archive : Manifest) : Run Unit := durable fun world => { world with manifest := some archive }

def writeState (state : ResumeState) : Run Unit := durable fun world => { world with state := some state }

/-- One turn of the loop over the batches. -/
def backfillBatch (memory : Memory) (batch : List SourceRecord) : Run Memory := do
  let entries ← commitBatch P I R batch
  let memory := memory.withEntries entries
  writeManifest memory.archive
  let memory := memory.advanced batch
  writeState memory.state
  pure memory

/-- The turns from batch `i` on, of which `count` are left. -/
def backfillBatches (batchSize : ℕ) (pending : List SourceRecord) : (count i : ℕ) → Memory → Run Memory
  | 0, _, memory => pure memory
  | count + 1, i, memory => do
    let memory ← backfillBatch P I R memory ((pending.drop (i * batchSize)).take batchSize)
    backfillBatches batchSize pending count (i + 1) memory

/-- The last writes: the state and the manifest are complete. -/
def finish (memory : Memory) : Run Unit := do
  writeState { memory.state with status := "complete" }
  writeManifest { memory.archive with
    status := "backfill_complete"
    sourceFingerprint := some (Mapping.get R.inventory "source_fingerprint")
    requestHash := some R.requestHash }

/-- `backfill` with `dry_run=False`. -/
def backfill (batchSize : ℕ) : Run Unit := do
  raising (if 1 ≤ batchSize ∧ batchSize ≤ 10_000 then pure () else throw "batch_size must be between 1 and 10000")
  let selected ← raising (selectedRecords P R)
  let world ← look
  let state ← raising (loadState R world.state)
  let pending := pendingRecords state.lastCommittedCursor selected
  let archive := loadArchive world.manifest
  let memory ← backfillBatches P I R batchSize pending ((pending.length + batchSize - 1) / batchSize) 0
    { state, archive, existing := entriesByKey archive.entries }
  finish R memory

/-- The durable world after runs with their batch sizes, each killed after a number of durable writes
    if it lives that long. -/
def afterRuns (world : World) (runs : List (ℕ × ℕ)) : World :=
  runs.foldl (fun world run => leaves (backfill P I R run.1) world run.2) world

end RoutePilot.Migration
