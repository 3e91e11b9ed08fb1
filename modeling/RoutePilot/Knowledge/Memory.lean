/-
  The in-memory knowledge repository (`rag/memory.py`).

  Each operation holds the lock of the repository from its first to its last access,
  so that it is one step.
-/
import Mathlib.Order.Basic
import RoutePilot.Knowledge.Pipeline
import RoutePilot.Lib.Dict
import RoutePilot.Lib.EState

namespace RoutePilot.Knowledge

open Lib

/-! ## State -/

structure IdempotencyRecord where
  requestHash : String
  result : IngestResult

structure StatusIdempotencyRecord where
  requestHash : String
  result : StatusResult

/-- Scope, URI, source version, corpus revision and content hash. -/
abbrev ContentKey := String × String × String × String × String

structure Repository (F : Type) where
  /-- by scope and URI -/
  sourcesByScopeUri : Dict (String × String) String := ∅
  documents : Dict String KnowledgeDocument := ∅
  chunks : Dict String KnowledgeChunk := ∅
  vectors : Dict String (List F) := ∅
  idempotency : Dict (String × String) IdempotencyRecord := ∅
  contentResults : Dict ContentKey IngestResult := ∅
  statusIdempotency : Dict (String × String) StatusIdempotencyRecord := ∅

structure EmbeddingProvider (F : Type) where
  modelVersion : String
  dimension : ℕ
  semanticCapable : Bool
  isFinite : F → Bool
  embedQuery : String → List F

/-- What a repository is built with. -/
structure RepositoryConfig (F : Type) where
  tools : TextTools
  provider : Option (EmbeddingProvider F)

abbrev KnowledgeM (F : Type) := EStateM KnowledgeError (Repository F)

variable {F : Type}

/-- `validate_embedding`. -/
def EmbeddingProvider.validateEmbedding (provider : EmbeddingProvider F) (vector : List F) :
    Except KnowledgeError (List F) :=
  if vector.length ≠ provider.dimension then
    .error (.value ("embedding dimension mismatch: expected " ++ toString provider.dimension ++ ", got " ++
      toString vector.length))
  else if vector.any fun x => ¬ provider.isFinite x then .error (.value "embedding contains a non-finite value")
  else .ok vector

/-- `result.model_copy(update={"idempotent_replay": True})`. -/
def IngestResult.replay (result : IngestResult) : IngestResult := { result with idempotentReplay := true }

def StatusResult.replay (result : StatusResult) : StatusResult := { result with idempotentReplay := true }

/-- What is raised, or what is returned, in a section. -/
def raiseOr {α : Type} (x : Except KnowledgeError α) : KnowledgeM F α := ask fun _ => x

namespace RepositoryConfig
variable (c : RepositoryConfig F)

/-! ## `ingest` -/

/-- `_authorize_ingest`. -/
def authorizeIngest (context : AuthorizedKnowledgeContext) (request : IngestDocumentRequest) :
    Except KnowledgeError Unit :=
  if context.canManageTenantKnowledge = false then .error (.authorization "knowledge administration role is required")
  else if request.visibilityScope = .public_ ∧ context.canManagePublicKnowledge = false then
    .error (.authorization "global admin role is required for public knowledge")
  else .ok ()

/-- The checks that precede the lock, with the probe. -/
def probe (env : Env F) (context : AuthorizedKnowledgeContext) (request : IngestDocumentRequest)
    (idempotencyKey : String) : Except KnowledgeError PreparedIngestion := do
  authorizeIngest context request
  if ¬ (8 ≤ idempotencyKey.length ∧ idempotencyKey.length ≤ 200) then
    throw (.value "idempotency key must contain 8-200 characters")
  prepareIngestion c.tools env context.tenantId request none

/-- The vectors of the chunks, and what is reported of them. -/
def embedChunks (env : Env F) (chunks : List KnowledgeChunk) :
    Except KnowledgeError (List (List F) × IngestVectorStatus) :=
  match c.provider with
  | none => .ok ([], .disabled)
  | some provider =>
    if provider.semanticCapable then
      match env.embedded with
      | .error message => .error (.runtime message)
      | .ok vectors =>
        (vectors.mapM provider.validateEmbedding).bind fun vectors =>
          if vectors.length ≠ chunks.length then
            .error (.value "embedding provider returned an unexpected vector count")
          else .ok (vectors, .indexed)
    else .ok ([], .providerNotSemantic)

def contentKey (scope : String) (request : IngestDocumentRequest) (contentHash : String) : ContentKey :=
  (scope, request.canonicalSourceUri, request.sourceVersion, request.corpusRevision, contentHash)

/-- A new document, with its chunks and vectors. -/
def stored (prepared : PreparedIngestion) (vectors : List (List F)) (r : Repository F) : Repository F :=
  { r with
    documents := r.documents.set prepared.document.documentId prepared.document
    chunks := r.chunks.setAll (prepared.chunks.map fun chunk => (chunk.chunkId, chunk))
    vectors := r.vectors.setAll ((prepared.chunks.zip vectors).map fun e => (e.1.chunkId, e.2)) }

def resultOf (prepared : PreparedIngestion) (vectors : List (List F)) (vectorStatus : IngestVectorStatus) :
    IngestResult where
  sourceId := prepared.document.sourceId
  documentId := prepared.document.documentId
  contentHash := prepared.document.contentHash
  chunkCount := prepared.chunks.length
  status := prepared.document.status
  vectorIndexed := ¬ vectors.isEmpty
  vectorStatus

/-- `ingest`. -/
def ingest (env : Env F) (context : AuthorizedKnowledgeContext) (request : IngestDocumentRequest)
    (idempotencyKey : String) : KnowledgeM F IngestResult := do
  let prepared ← raiseOr (c.probe env context request idempotencyKey)
  let scope := scopeKey context.tenantId request.visibilityScope
  let key := (scope, idempotencyKey)
  let r ← get
  match r.idempotency.get? key with
  | some existing =>
    ensure (existing.requestHash = prepared.requestHash)
      (.conflict "idempotency key was already used with different content")
    return existing.result.replay
  | none =>
    let contentKey := contentKey scope request prepared.document.contentHash
    match r.contentResults.get? contentKey with
    | some result =>
      set { r with idempotency := r.idempotency.set key ⟨prepared.requestHash, result⟩ }
      return result.replay
    | none =>
      let sourceKey := (scope, request.canonicalSourceUri)
      let prepared ← raiseOr (prepareIngestion c.tools env context.tenantId request
        (r.sourcesByScopeUri.get? sourceKey))
      let (vectors, vectorStatus) ← raiseOr (c.embedChunks env prepared.chunks)
      let result := resultOf prepared vectors vectorStatus
      let r := stored prepared vectors r
      set { r with
        sourcesByScopeUri := r.sourcesByScopeUri.set sourceKey prepared.document.sourceId
        idempotency := r.idempotency.set key ⟨prepared.requestHash, result⟩
        contentResults := r.contentResults.set contentKey result }
      return result

end RepositoryConfig

/-! ## Documents -/

/-- `_document_visible`. -/
def documentVisible (context : AuthorizedKnowledgeContext) (document : KnowledgeDocument) : Bool :=
  document.visibilityScope = .public_ ∨ document.tenantId = some context.tenantId

/-- `_admin_view`. -/
def Repository.adminView (r : Repository F) (document : KnowledgeDocument) : DocumentAdminView where
  toKnowledgeDocument := document
  chunkCount := r.chunks.values.countP fun chunk => chunk.documentId = document.documentId

/-- `_authorize_management`. -/
def authorizeManagement (context : AuthorizedKnowledgeContext) : Except KnowledgeError Unit :=
  if context.canManageTenantKnowledge = false then .error (.authorization "knowledge administration role is required")
  else .ok ()

/-- `list_documents`. -/
def Repository.listDocuments (r : Repository F) (context : AuthorizedKnowledgeContext) (status : Option IngestionStatus)
    (limit : ℤ) (cursor : Option String) : Except KnowledgeError DocumentPage := do
  authorizeManagement context
  if h : 1 ≤ limit ∧ limit ≤ 100 then
    let documents := r.documents.values.mergeSort fun a b => a.documentId ≤ b.documentId
    let visible := documents.filter fun document =>
      documentVisible context document ∧ (∀ s ∈ status, document.status = s) ∧ ∀ after ∈ cursor,
        after < document.documentId
    let selected := visible.take (limit.toNat + 1)
    return {
      items := (selected.take limit.toNat).map r.adminView
      nextCursor :=
        if limit.toNat < selected.length then ((selected.take limit.toNat).map r.adminView).getLast?.map (·.documentId)
        else none
      items_length := by
        rw [List.length_map, List.length_take]
        omega }
  else throw (.value "limit must be between 1 and 100")

/-- The checks of a status change that precede the lock. -/
def checkStatusCall (context : AuthorizedKnowledgeContext) (idempotencyKey : String) : Except KnowledgeError Unit := do
  authorizeManagement context
  if ¬ (8 ≤ idempotencyKey.length ∧ idempotencyKey.length ≤ 200) then
    throw (.value "idempotency key must contain 8-200 characters")

/-- A document that the caller may manage. -/
def manageable (context : AuthorizedKnowledgeContext) : Option KnowledgeDocument →
    Except KnowledgeError KnowledgeDocument
  | none => .error (.notFound "knowledge document not found")
  | some document =>
    if documentVisible context document = false then .error (.notFound "knowledge document not found")
    else if document.visibilityScope = .public_ ∧ context.canManagePublicKnowledge = false then
      .error (.authorization "global admin role is required for public knowledge")
    else .ok document

/-- The document after a command: one that has the status already is left alone. -/
def KnowledgeDocument.commanded (document : KnowledgeDocument) (command : StatusCommand) (now : Time) :
    KnowledgeDocument :=
  if document.status ≠ command.targetStatus then
    { document with
      status := command.targetStatus
      quarantineReason := if command.targetStatus = .published then none else command.reason
      version := document.version + 1
      updatedAt := now }
  else document

/-- `change_document_status`. -/
def RepositoryConfig.changeDocumentStatus (c : RepositoryConfig F) (now : Time) (context : AuthorizedKnowledgeContext)
    (documentId : String) (command : StatusCommand) (idempotencyKey : String) : KnowledgeM F StatusResult := do
  raiseOr (checkStatusCall context idempotencyKey)
  let requestHash := c.tools.sha256 (c.tools.commandText command)
  let r ← get
  let document ← raiseOr (manageable context (r.documents.get? documentId))
  let key := (scopeKey context.tenantId document.visibilityScope, idempotencyKey)
  match r.statusIdempotency.get? key with
  | some existing =>
    ensure (existing.requestHash = requestHash)
      (.conflict "idempotency key was already used with a different command")
    return existing.result.replay
  | none =>
    ensure (document.version = command.expectedVersion)
      (.versionConflict "knowledge document version changed; refresh and retry" document.version)
    let updated := document.commanded command now
    let result : StatusResult := { document := r.adminView updated }
    set { r with
      documents := if document.status ≠ command.targetStatus then r.documents.set documentId updated else r.documents
      statusIdempotency := r.statusIdempotency.set key ⟨requestHash, result⟩ }
    return result

end RoutePilot.Knowledge
