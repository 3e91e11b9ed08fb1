/-
  Status changes and rank fusion in the PostgreSQL repository (`rag/postgres.py`).

  A call is one transaction, which locks the row of the document and the key.  A replay
  is rebuilt: the row of the document as it is now, with what the row of the command
  keeps of its result.
-/
import RoutePilot.Knowledge.Retrieval

namespace RoutePilot.Knowledge

open Lib

/-- A row of `documents_table`; whether the license allows indexing is not stored. -/
structure DocumentRow where
  scopeKey : String
  columns : KnowledgeDocument

/-- A row of `document_commands_table`. -/
structure CommandRow where
  requestHash : String
  documentId : String
  actorId : String
  targetStatus : IngestionStatus
  reason : Option String
  resultStatus : IngestionStatus
  resultReason : Option String
  resultVersion : ℕ
  resultUpdatedAt : Time

structure Database where
  documents : Dict String DocumentRow := ∅
  /-- the document of each chunk -/
  chunks : Dict String String := ∅
  /-- by scope and key -/
  documentCommands : Dict (String × String) CommandRow := ∅

namespace Database

/-- `_admin_document_from_row`. -/
def adminDocument (db : Database) (row : DocumentRow) : DocumentAdminView where
  toKnowledgeDocument := { row.columns with license := { row.columns.license with indexingAllowed := true } }
  chunkCount := db.chunks.values.countP fun documentId => documentId = row.columns.documentId

/-- `_get_admin_document_tx`. -/
def getAdminDocument (db : Database) (documentId : String) : Except KnowledgeError (DocumentRow × DocumentAdminView) :=
  match db.documents.get? documentId with
  | none => .error (.notFound "knowledge document not found")
  | some row => .ok (row, db.adminDocument row)

/-- `UPDATE ... WHERE document_id = ... AND version = ...`, with the version it returns. -/
def updateStatus (db : Database) (documentId : String) (command : StatusCommand) (updatedAt : Time) :
    Option (ℕ × Database) :=
  match db.documents.get? documentId with
  | none => none
  | some row =>
    if row.columns.version = command.expectedVersion then
      let columns := { row.columns with
        status := command.targetStatus
        quarantineReason := if command.targetStatus = .published then none else command.reason
        version := row.columns.version + 1
        updatedAt }
      some (columns.version, { db with documents := db.documents.set documentId { row with columns } })
    else none

/-- The caller may change the status of the document. -/
def checkManaged (context : AuthorizedKnowledgeContext) (document : DocumentAdminView) : Except KnowledgeError Unit :=
  if document.visibilityScope ≠ .public_ ∧ document.tenantId ≠ some context.tenantId then
    .error (.notFound "knowledge document not found")
  else if document.visibilityScope = .public_ ∧ context.canManagePublicKnowledge = false then
    .error (.authorization "global admin role is required for public knowledge")
  else .ok ()

/-- The document that a replay describes. -/
def replayed (document : DocumentAdminView) (existing : CommandRow) : DocumentAdminView :=
  { document with
    status := existing.resultStatus
    quarantineReason := existing.resultReason
    version := existing.resultVersion
    updatedAt := existing.resultUpdatedAt }

/-- The document after the update, and the database. -/
def applied (db : Database) (documentId : String) (document : DocumentAdminView) (command : StatusCommand)
    (updatedAt : Time) : Except KnowledgeError (DocumentAdminView × Database) :=
  if document.status ≠ command.targetStatus then
    match db.updateStatus documentId command updatedAt with
    | none =>
      .error (.versionConflict "knowledge document version changed; refresh and retry"
        (((db.documents.get? documentId).map (·.columns.version)).getD command.expectedVersion))
    | some (version, db') =>
      .ok ({ document with
        status := command.targetStatus
        quarantineReason := if command.targetStatus = .published then none else command.reason
        version
        updatedAt }, db')
  else .ok (document, db)

/-- `change_document_status`. -/
def changeDocumentStatus (T : TextTools) (now : Time) (context : AuthorizedKnowledgeContext) (documentId : String)
    (command : StatusCommand) (idempotencyKey : String) : EStateM KnowledgeError Database StatusResult := atomic do
  ask fun _ => checkStatusCall context idempotencyKey
  let requestHash := T.sha256 (T.commandText command)
  let db ← get
  let (row, document) ← ask fun db => db.getAdminDocument documentId
  ask fun _ => checkManaged context document
  let key := (row.scopeKey, idempotencyKey)
  match db.documentCommands.get? key with
  | some existing =>
    ensure (existing.requestHash = requestHash ∧ existing.documentId = documentId)
      (.conflict "idempotency key was already used with a different command")
    return { document := replayed document existing, idempotentReplay := true }
  | none =>
    ensure (document.version = command.expectedVersion)
      (.versionConflict "knowledge document version changed; refresh and retry" document.version)
    let (updated, db) ← ask fun db => db.applied documentId document command now
    set { db with
      documentCommands := db.documentCommands.set key {
        requestHash
        documentId
        actorId := context.actorId
        targetStatus := command.targetStatus
        reason := command.reason
        resultStatus := updated.status
        resultReason := updated.quarantineReason
        resultVersion := updated.version
        resultUpdatedAt := updated.updatedAt } }
    return { document := updated }

end Database

/-! ## `_fuse_rows` -/

/-- `TrustTier.value` -/
def TrustTier.value : TrustTier → String
  | .official => "official"
  | .operator => "operator"
  | .trustedMedia => "trusted_media"
  | .community => "community"
  | .userPrivate => "user_private"

/-- `_TRUST_ORDER.get(tier, 0)` -/
def trustOrderOf (tier : String) : ℕ :=
  ([(TrustTier.official.value, 5), (TrustTier.operator.value, 4), (TrustTier.trustedMedia.value, 3),
    (TrustTier.community.value, 2), (TrustTier.userPrivate.value, 1)].lookup tier).getD 0

/-- The columns of a ranking that its fusion reads. -/
structure RankingRow (F : Type) where
  chunkId : String
  trustTier : String
  lexicalScore : Option F := none
  vectorScore : Option F := none

structure RankedRow (F : Type) where
  row : RankingRow F
  lexicalScore : Option F := none
  vectorScore : Option F := none
  lexicalRank : Option ℕ := none
  vectorRank : Option ℕ := none

section
variable {F : Type} [LinearOrder F] [Zero F] [One F] [Add F] [Div F] [NatCast F]

/-- `max(scores, default=1.0)` -/
def maxLexical : List F → F
  | [] => 1
  | score :: scores => scores.foldl max score

/-- The rows of both rankings. -/
def rankedRows (lexicalRows vectorRows : List (RankingRow F)) : Dict String (RankedRow F) :=
  let greatest := maxLexical (lexicalRows.map fun row => row.lexicalScore.getD 0)
  let byId := lexicalRows.zipIdx.foldl (fun byId e =>
    byId.set e.1.chunkId
      { row := e.1
        lexicalScore := some (min 1 (e.1.lexicalScore.getD 0 / max greatest (1 / (1_000_000_000 : ℕ))))
        lexicalRank := some (e.2 + 1) }) ∅
  vectorRows.zipIdx.foldl (fun byId e =>
    let previous := byId.get? e.1.chunkId
    byId.set e.1.chunkId
      { row := (previous.map (·.row)).getD e.1
        lexicalScore := previous.bind (·.lexicalScore)
        vectorScore := some (max 0 (min 1 (e.1.vectorScore.getD 0)))
        lexicalRank := previous.bind (·.lexicalRank)
        vectorRank := some (e.2 + 1) }) byId

/-- `_fuse_rows`. -/
def fuseRows (K : Ranking F) (lexicalRows vectorRows : List (RankingRow F)) : List (RankedRow F × F) :=
  let maximum := (K.rrfLexicalWeight + (if vectorRows.isEmpty then 0 else K.rrfVectorWeight)) / (61 : ℕ)
  sortedDown (fun e => (e.2, trustOrderOf e.1.row.trustTier, e.1.row.chunkId)) <|
    (rankedRows lexicalRows vectorRows).values.map fun candidate =>
      let raw := (candidate.lexicalRank.map fun rank => K.rrfLexicalWeight / (60 + rank : ℕ)).getD 0
      let raw := raw + (candidate.vectorRank.map fun rank => K.rrfVectorWeight / (60 + rank : ℕ)).getD 0
      (candidate, if maximum ≠ 0 then min 1 (raw / maximum) else 0)

end

end RoutePilot.Knowledge
