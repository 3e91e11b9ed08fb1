/-
  The legacy sources and the inventory of them (`scripts/migration_v1/core.py`).

  A file snapshot or a database gives a collection of records under their keys.
  Collections are merged, and a record that two of them hold must have one
  checksum in both: what is kept is the payload of the copy met first
  (`mergeRecords_ok`).  The inventory records keys and checksums, and the records
  of a later run are validated against it (`validateSourceSnapshot_ok`).
-/
import RoutePilot.Lib.Dict
import RoutePilot.Lib.EState
import RoutePilot.Migration.Records

namespace RoutePilot.Migration

open Lib

variable (P : Python)

/-! ## Collections -/

/-- Records under their keys. -/
structure Collection where
  records : Dict String SourceRecord
  distinct : records.DistinctKeys
  keyed : ∀ key record, records.get? key = some record → record.key = key

namespace Collection

def empty : Collection := ⟨∅, List.nodup_nil, nofun⟩

/-- `records[record.key] = record`. -/
def insert (collection : Collection) (record : SourceRecord) : Collection where
  records := collection.records.set record.key record
  distinct := collection.distinct.set record.key record
  keyed := by
    intro key found h
    rw [Dict.get?_set] at h
    split at h
    · rename_i hkey
      rw [← Option.some.inj h, hkey]
    · exact collection.keyed key found h

theorem get?_insert_self (collection : Collection) (record : SourceRecord) :
    (collection.insert record).records.get? record.key = some record := Dict.get?_set_self _ _ _

theorem get?_insert_ne (collection : Collection) {record : SourceRecord} {key : String} (h : key ≠ record.key) :
    (collection.insert record).records.get? key = collection.records.get? key := Dict.get?_set_ne _ h _

end Collection

/-- `_normalize_messages`. -/
def normalizeMessages : Value → Value
  | .list items => .list (items.filter fun item => match item with
    | .dict _ => true
    | _ => false)
  | _ => .list []

/-- `_load_snapshot`, of a file that holds a JSON value. -/
def loadSnapshot (path kind : String) (payload : Value) : Except String Collection :=
  match payload with
  | .dict records => records.foldlM (fun collection entry => match entry.2 with
      | .dict raw =>
        let normalized := Mapping.setdefault raw (kind ++ "_id") (.str entry.1)
        let normalized := if kind = "session" then
          Mapping.set normalized "messages" (normalizeMessages (Mapping.get normalized "messages")) else normalized
        pure (collection.insert ⟨kind, entry.1, normalized, ["file:" ++ path]⟩)
      | _ => throw ("legacy record must be an object: " ++ kind ++ ":" ++ entry.1)) .empty
  | _ => throw ("legacy snapshot must be a JSON object: " ++ path)

/-- The rows of the compatibility tables that a legacy database has, in the order they are selected. -/
structure SqlTables where
  sessions : Option (List Mapping)
  sessionMessages : Option (List Mapping)
  shareLinks : Option (List Mapping)

/-- The messages of one session in the table of messages. -/
def SqlTables.messagesOf (tables : SqlTables) (sessionId : String) : List Value :=
  ((tables.sessionMessages.getD []).filter fun row => P.toStr (Mapping.get row "session_id") = sessionId).map .dict

/-- The record of one row of `sessions`. -/
def SqlTables.sessionRecord (tables : SqlTables) (row : Mapping) : Except String SourceRecord :=
  let sourceId := P.text (Mapping.get row "session_id")
  let messages := tables.messagesOf P sourceId
  if sourceId = "" then throw "legacy sessions table contains an empty session_id"
  else pure ⟨"session", sourceId, Mapping.set row "messages"
    (if messages.isEmpty then normalizeMessages (Mapping.get row "messages") else .list messages), ["sql:sessions"]⟩

/-- The record of one row of `share_links`. -/
def shareRecord (row : Mapping) : Except String SourceRecord :=
  let sourceId := P.text (Mapping.get row "share_id")
  if sourceId = "" then throw "legacy share_links table contains an empty share_id"
  else pure ⟨"share", sourceId, row, ["sql:share_links"]⟩

/-- The sessions that messages name and `sessions` does not have. -/
def SqlTables.orphans (tables : SqlTables) (sessions : List Mapping) : List String :=
  ((tables.sessionMessages.getD []).map fun row => P.toStr (Mapping.get row "session_id")).dedup.filter fun sessionId =>
    sessionId ∉ sessions.map fun row => P.text (Mapping.get row "session_id")

def loadSqlRecords (tables : SqlTables) : Except String Collection := do
  let collection ← match tables.sessions with
    | some sessions => do
      let collection ← sessions.foldlM (fun collection row => do
        let record ← tables.sessionRecord P row
        pure (Collection.insert collection record)) .empty
      let orphans := tables.orphans P sessions
      if orphans ≠ [] then
        throw ("legacy session_messages contains " ++ toString orphans.length ++ " orphan session references")
      pure collection
    | none =>
      if tables.sessionMessages.getD [] ≠ [] then throw "legacy session_messages exists without a sessions table"
      pure .empty
  (tables.shareLinks.getD []).foldlM (fun collection row => do
    let record ← shareRecord P row
    pure (Collection.insert collection record)) collection

/-! ## Merging -/

/-- The order of `sorted(…, key=lambda item: item.cursor)`. -/
def CursorLE (a b : SourceRecord) : Prop := a.key ≤ b.key

instance : DecidableRel CursorLE := fun a b => inferInstanceAs (Decidable (a.key ≤ b.key))

def sortedByCursor (records : List SourceRecord) : List SourceRecord := records.insertionSort CursorLE

/-- `tuple(sorted(set(a + b)))`. -/
def mergedOrigins (a b : List String) : List String := (a ++ b).dedup.insertionSort (· ≤ ·)

/-- One record met while merging. -/
def mergeRecord (merged : Collection) (incoming : SourceRecord) : Except String Collection :=
  match merged.records.get? incoming.key with
  | none => pure (merged.insert incoming)
  | some existing =>
    if existing.sourceChecksum P ≠ incoming.sourceChecksum P then
      throw ("conflicting legacy copies for " ++ incoming.key)
    else pure (merged.insert { existing with origins := mergedOrigins existing.origins incoming.origins })

/-- The records of the collections, in the order they are met. -/
def allRecords (collections : List Collection) : List SourceRecord :=
  collections.flatMap fun collection => collection.records.entries.map Prod.snd

def mergeRecords (collections : List Collection) : Except String (List SourceRecord) := do
  let merged ← (allRecords collections).foldlM (mergeRecord P) .empty
  pure (sortedByCursor (merged.records.entries.map Prod.snd))

/-- `load_sources`: the file snapshots and the database that are configured. -/
def loadSources (sessionsFile shareLinksFile : Option (String × Option Value)) (sourceDatabase : Option SqlTables) :
    Except String (List SourceRecord) := do
  if sessionsFile.isNone ∧ shareLinksFile.isNone ∧ sourceDatabase.isNone then
    throw "at least one legacy source is required"
  -- a file that does not exist gives no records
  let snapshot := fun (kind : String) (file : String × Option Value) =>
    match file.2 with
    | none => pure Collection.empty
    | some payload => loadSnapshot file.1 kind payload
  let sessions ← sessionsFile.toList.mapM (snapshot "session")
  let shares ← shareLinksFile.toList.mapM (snapshot "share")
  let tables ← sourceDatabase.toList.mapM (loadSqlRecords P)
  mergeRecords P (sessions ++ shares ++ tables)

/-! ## The inventory -/

/-- A key and a checksum, as they are in the inventory and under its fingerprint. -/
def fingerprintItem (record : SourceRecord) : Json :=
  .obj [("source_key", .str record.key), ("source_checksum", .str (record.sourceChecksum P))]

def sourceFingerprint (records : List SourceRecord) : String := sha256Json P (.arr (records.map (fingerprintItem P)))

/-- `inventory["records"]` and its other fields, as a mapping. -/
abbrev Inventory := Mapping

/-- The checksums that an inventory expects: an item that is no object is skipped. -/
def expectedChecksums (items : List Value) : Dict String String :=
  (∅ : Dict String String).setAll (items.filterMap fun item => match item with
    | .dict entries =>
      some (P.toStr (Mapping.get entries "source_key"), P.toStr (Mapping.get entries "source_checksum"))
    | _ => none)

/-- `{record.key: record for record in records}`. -/
def currentRecords (records : List SourceRecord) : Dict String SourceRecord :=
  (∅ : Dict String SourceRecord).setAll (records.map fun record => (record.key, record))

def validateSourceSnapshot (records : List SourceRecord) (inventory : Inventory) : Except String (List SourceRecord) :=
  match Mapping.get inventory "records" with
  | .list items =>
    let expected := expectedChecksums P items
    let current := currentRecords records
    let keys := expected.entries.map Prod.fst
    let missing := keys.filter fun key => (current.get? key).isNone
    let changed := keys.filter fun key =>
      (current.get? key).any fun record => expected.get? key ≠ some (record.sourceChecksum P)
    if missing ≠ [] ∨ changed ≠ [] then throw "legacy source changed at or below the recorded high-water mark"
    else
      let selected := sortedByCursor (keys.filterMap current.get?)
      if P.text (Mapping.get inventory "source_fingerprint") ≠ sourceFingerprint P selected then
        throw "inventory fingerprint is internally inconsistent"
      else pure selected
  | _ => throw "inventory records are missing"

/-- The records of some collections that an inventory selects. -/
def validatedSources (collections : List Collection) (inventory : Inventory) : Except String (List SourceRecord) := do
  let records ← mergeRecords P collections
  validateSourceSnapshot P records inventory

/-- The part of `build_inventory` that a later run is validated against. -/
def buildInventory (records : List SourceRecord) (mappingChecksum : String) : Inventory :=
  [("records", .list (records.map fun record => .dict [("source_key", .str record.key),
      ("source_kind", .str record.sourceKind), ("source_id", .str record.sourceId), ("cursor", .str record.key),
      ("source_checksum", .str (record.sourceChecksum P)), ("origins", .list (record.origins.map .str))])),
    ("source_fingerprint", .str (sourceFingerprint P records)), ("owner_mapping_checksum", .str mappingChecksum)]

end RoutePilot.Migration
