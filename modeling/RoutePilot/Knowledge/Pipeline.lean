/-
  Preparation of an ingestion (`rag/pipeline.py`).

  The tokenizer, the sanitizer and the chunker are the ones a repository is given,
  and `sha256` and the JSON text of a request are left open.  What a call draws from
  outside is in its `Env`: the clock, its identifiers, and the answer of the
  embedding provider.
-/
import RoutePilot.Knowledge.Request

namespace RoutePilot.Knowledge

/-! ## Hashes -/

/-- `request.model_dump(mode="json", exclude={"content"})`, with the content hash. -/
structure RequestPayload where
  canonicalSourceUri : String
  sourceType : String
  sourceVersion : String
  title : String
  visibilityScope : VisibilityScope
  language : String
  geoEntities : List String
  tags : List String
  publishedAt : Option Time
  observedAt : Time
  validFrom : Option Time
  validUntil : Option Time
  corpusRevision : String
  trustTier : TrustTier
  license : LicenseMetadata
  parserVersion : String
  chunkerVersion : String
  metadata : Json
  contentHash : String

mutual

/-- The value with the keys of its objects sorted. -/
def sortKeys : Json → Json
  | .arr items => .arr (sortKeysItems items)
  | .obj fields => .obj ((sortKeysFields fields).mergeSort fun a b => a.1 ≤ b.1)
  | j => j

def sortKeysItems : List Json → List Json
  | [] => []
  | item :: items => sortKeys item :: sortKeysItems items

def sortKeysFields : List (String × Json) → List (String × Json)
  | [] => []
  | (key, value) :: fields => (key, sortKeys value) :: sortKeysFields fields

end

structure SanitizedText where
  content : String
  injectionSuspected : Bool

/-- The text tools of a repository. -/
structure TextTools where
  sanitize : String → Except String SanitizedText
  tokenizerVersion : String
  tokenize : String → List String
  split : String → Except String (List String)
  /-- `hashlib.sha256(...).hexdigest()` -/
  sha256 : String → String
  /-- `json.dumps(request_payload, sort_keys=True, ...)` -/
  payloadText : RequestPayload → String
  /-- `command.model_dump_json()` -/
  commandText : StatusCommand → String

/-- What a call draws from outside. -/
structure Env (F : Type) where
  now : Time
  newSourceId : String
  newDocumentId : String
  newChunkId : ℕ → String
  /-- the answer of `embed_documents` -/
  embedded : Except String (List (List F))

/-! ## Preparation -/

/-- `scope_key`. -/
def scopeKey (tenantId : String) : VisibilityScope → String
  | .public_ => "__public__"
  | .tenant => tenantId

/-- The tenant that is stored with a document. -/
def persistedTenant (tenantId : String) : VisibilityScope → Option String
  | .public_ => none
  | .tenant => some tenantId

/-- `ParagraphWindowChunker.version`. -/
def chunkerVersion : String := "paragraph-window@1"

structure PreparedIngestion where
  document : KnowledgeDocument
  chunks : List KnowledgeChunk
  requestHash : String

def IngestDocumentRequest.payload (request : IngestDocumentRequest) (contentHash : String) : RequestPayload where
  canonicalSourceUri := request.canonicalSourceUri
  sourceType := request.sourceType
  sourceVersion := request.sourceVersion
  title := request.title
  visibilityScope := request.visibilityScope
  language := request.language
  geoEntities := request.geoEntities
  tags := request.tags
  publishedAt := request.publishedAt
  observedAt := request.observedAt
  validFrom := request.validFrom
  validUntil := request.validUntil
  corpusRevision := request.corpusRevision
  trustTier := request.trustTier
  license := request.license
  parserVersion := request.parserVersion
  chunkerVersion := request.chunkerVersion
  metadata := sortKeys (.obj request.metadata)
  contentHash

variable {F : Type} (T : TextTools)

/-- The fields of one chunk. -/
def chunkFields (env : Env F) (tenantId : String) (request : IngestDocumentRequest) (sourceId : String)
    (suspected : Bool) (ordinal : ℕ) (content : String) : KnowledgeChunk where
  chunkId := env.newChunkId ordinal
  documentId := env.newDocumentId
  sourceId
  tenantId := persistedTenant tenantId request.visibilityScope
  visibilityScope := request.visibilityScope
  ordinal
  content := pyStrip content
  contentHash := T.sha256 content
  tokenCount := max 1 (T.tokenize content).length
  lexicalTerms := pyStrip (" ".intercalate (T.tokenize content))
  canonicalSourceUri := request.canonicalSourceUri
  sourceVersion := request.sourceVersion
  sourceType := request.sourceType
  sourceTitle := request.title
  language := request.language
  geoEntities := request.geoEntities
  tags := request.tags
  publishedAt := request.publishedAt
  observedAt := request.observedAt
  validFrom := request.validFrom
  validUntil := request.validUntil
  corpusRevision := request.corpusRevision
  tokenizerVersion := T.tokenizerVersion
  trustTier := request.trustTier
  license := request.license
  injectionSuspected := suspected

/-- The `ValidationError` of a chunk whose text is empty or too long. -/
def chunkError : KnowledgeError := .value "content must contain 1-8000 characters"

/-- One chunk; its model strips and bounds the text. -/
def chunkOf (env : Env F) (tenantId : String) (request : IngestDocumentRequest) (sourceId : String) (suspected : Bool)
    (ordinal : ℕ) (content : String) : Except KnowledgeError KnowledgeChunk :=
  if 1 ≤ (pyStrip content).length ∧ (pyStrip content).length ≤ 8_000 then
    .ok (chunkFields T env tenantId request sourceId suspected ordinal content)
  else .error chunkError

/-- The chunks of the parts, numbered from `ordinal`. -/
def chunksOf (env : Env F) (tenantId : String) (request : IngestDocumentRequest) (sourceId : String)
    (suspected : Bool) : ℕ → List String → Except KnowledgeError (List KnowledgeChunk)
  | _, [] => .ok []
  | ordinal, content :: contents => do
    let chunk ← chunkOf T env tenantId request sourceId suspected ordinal content
    return chunk :: (← chunksOf env tenantId request sourceId suspected (ordinal + 1) contents)

/-- The document of a request. -/
def documentOf (env : Env F) (tenantId : String) (request : IngestDocumentRequest) (sourceId contentHash : String)
    (suspected : Bool) : KnowledgeDocument where
  documentId := env.newDocumentId
  sourceId
  tenantId := persistedTenant tenantId request.visibilityScope
  visibilityScope := request.visibilityScope
  sourceVersion := request.sourceVersion
  title := request.title
  language := request.language
  geoEntities := request.geoEntities
  tags := request.tags
  publishedAt := request.publishedAt
  observedAt := request.observedAt
  validFrom := request.validFrom
  validUntil := request.validUntil
  contentHash
  parserVersion := request.parserVersion
  chunkerVersion := chunkerVersion
  tokenizerVersion := T.tokenizerVersion
  corpusRevision := request.corpusRevision
  trustTier := request.trustTier
  license := request.license
  status := if suspected then .quarantined else .published
  quarantineReason :=
    if suspected then some "automated prompt-injection signal requires administrator review" else none
  injectionSuspected := suspected
  metadata := request.metadata
  createdAt := env.now
  updatedAt := env.now

/-- A `ValueError`. -/
def valueError {α : Type} : Except String α → Except KnowledgeError α
  | .ok a => .ok a
  | .error message => .error (.value message)

/-- The versions a request may ask for. -/
def checkVersions (request : IngestDocumentRequest) : Except KnowledgeError Unit :=
  if request.parserVersion ≠ "plain-text@1" then
    .error (.value "V1 direct ingestion supports only parser_version=plain-text@1")
  else if request.chunkerVersion ≠ chunkerVersion then
    .error (.value ("chunker version mismatch: requested " ++ request.chunkerVersion ++ ", runtime " ++ chunkerVersion))
  else .ok ()

/-- What is prepared from the sanitized text. -/
def prepareText (env : Env F) (tenantId : String) (request : IngestDocumentRequest) (sourceId : String)
    (sanitized : SanitizedText) : Except KnowledgeError PreparedIngestion := do
  let contentHash := T.sha256 sanitized.content
  let contents ← valueError (T.split sanitized.content)
  let chunks ← chunksOf T env tenantId request sourceId sanitized.injectionSuspected 0 contents
  return {
    document := documentOf T env tenantId request sourceId contentHash sanitized.injectionSuspected
    chunks
    requestHash := T.sha256 (T.payloadText (request.payload contentHash)) }

/-- `prepare_ingestion`. -/
def prepareIngestion (env : Env F) (tenantId : String) (request : IngestDocumentRequest) (sourceId : Option String) :
    Except KnowledgeError PreparedIngestion := do
  checkVersions request
  let sanitized ← valueError (T.sanitize request.content)
  prepareText T env tenantId request (sourceId.getD env.newSourceId) sanitized

end RoutePilot.Knowledge
