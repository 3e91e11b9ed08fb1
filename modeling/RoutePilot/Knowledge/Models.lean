/-
  The contracts of the knowledge base (`rag/models.py`, `rag/ports.py`).

  A context and a status command check what they are built from, so their values
  carry the checked bounds.  What an embedding or a score is made of is left open:
  `F` stands for the floats.
-/
import RoutePilot.Model.RunInput

namespace RoutePilot.Knowledge

inductive VisibilityScope where
  | public_
  | tenant
  deriving DecidableEq, Repr

inductive TrustTier where
  | official
  | operator
  | trustedMedia
  | community
  | userPrivate
  deriving DecidableEq, Repr

inductive IngestionStatus where
  | published
  | quarantined
  | tombstoned
  deriving DecidableEq, Repr

inductive FreshnessStatus where
  | fresh
  | stale
  | notYetValid
  | unknown
  deriving DecidableEq, Repr

structure LicenseMetadata where
  licenseId : String
  licenseUrl : Option String := none
  usagePolicy : String
  indexingAllowed : Bool := true
  retentionDays : Option ℕ := none
  deriving DecidableEq, Repr

/-! ## Errors -/

/-- What a repository raises; `value` is a `ValueError`, `runtime` comes from the embedding provider. -/
inductive KnowledgeError where
  | authorization (message : String)
  | conflict (message : String)
  | notFound (message : String)
  | versionConflict (message : String) (currentVersion : ℕ)
  | value (message : String)
  | runtime (message : String)
  deriving DecidableEq, Repr

/-! ## Who calls -/

/-- Server-derived identity; strings are stripped and not empty. -/
structure AuthorizedKnowledgeContext where
  tenantId : String
  actorId : String
  roles : List String := []
  authorizationEpoch : ℕ := 0
  tenant_stripped : pyStrip tenantId = tenantId
  tenant_length : 1 ≤ tenantId.length ∧ tenantId.length ≤ 128
  actor_stripped : pyStrip actorId = actorId
  actor_length : 1 ≤ actorId.length ∧ actorId.length ≤ 128

namespace AuthorizedKnowledgeContext
variable (context : AuthorizedKnowledgeContext)

def canManageTenantKnowledge : Bool := "admin" ∈ context.roles ∨ "tenant_admin" ∈ context.roles

def canManagePublicKnowledge : Bool := "admin" ∈ context.roles

end AuthorizedKnowledgeContext

/-! ## Documents -/

structure KnowledgeDocument where
  documentId : String
  sourceId : String
  tenantId : Option String
  visibilityScope : VisibilityScope
  sourceVersion : String
  title : String
  language : String
  geoEntities : List String
  tags : List String
  publishedAt : Option Time
  observedAt : Time
  validFrom : Option Time
  validUntil : Option Time
  contentHash : String
  parserVersion : String
  chunkerVersion : String
  tokenizerVersion : String
  corpusRevision : String
  trustTier : TrustTier
  license : LicenseMetadata
  status : IngestionStatus
  quarantineReason : Option String := none
  injectionSuspected : Bool := false
  metadata : Obj := []
  version : ℕ := 1
  createdAt : Time
  updatedAt : Time

/-- `KnowledgeDocumentAdminView`. -/
structure DocumentAdminView extends KnowledgeDocument where
  chunkCount : ℕ

/-- `KnowledgeDocumentPage`. -/
structure DocumentPage where
  items : List DocumentAdminView
  nextCursor : Option String := none
  items_length : items.length ≤ 100

structure KnowledgeChunk where
  chunkId : String
  documentId : String
  sourceId : String
  tenantId : Option String
  visibilityScope : VisibilityScope
  ordinal : ℕ
  content : String
  contentHash : String
  tokenCount : ℕ
  lexicalTerms : String
  canonicalSourceUri : String
  sourceVersion : String
  sourceType : String
  sourceTitle : String
  language : String
  geoEntities : List String
  tags : List String
  publishedAt : Option Time
  observedAt : Time
  validFrom : Option Time
  validUntil : Option Time
  corpusRevision : String
  tokenizerVersion : String
  trustTier : TrustTier
  license : LicenseMetadata
  injectionSuspected : Bool

inductive IngestVectorStatus where
  | indexed
  | disabled
  | unavailable
  | providerNotSemantic
  deriving DecidableEq, Repr

structure IngestResult where
  sourceId : String
  documentId : String
  contentHash : String
  chunkCount : ℕ
  status : IngestionStatus
  idempotentReplay : Bool := false
  vectorIndexed : Bool := false
  vectorStatus : IngestVectorStatus
  deriving DecidableEq, Repr

/-! ## Status commands -/

/-- `KnowledgeDocumentStatusCommand`. -/
structure StatusCommand where
  targetStatus : IngestionStatus
  expectedVersion : ℕ
  reason : Option String := none
  version_pos : 1 ≤ expectedVersion
  reason_length : ∀ text ∈ reason, 3 ≤ text.length ∧ text.length ≤ 512
  reason_given : targetStatus ≠ .published → reason.isSome

/-- `KnowledgeDocumentStatusResult`. -/
structure StatusResult where
  document : DocumentAdminView
  idempotentReplay : Bool := false

/-! ## Queries -/

structure RetrievalFilters where
  languages : List String := []
  sourceTypes : List String := []
  trustTiers : List TrustTier := []
  geoEntities : List String := []
  tags : List String := []
  validAt : Time
  includeStale : Bool := false

structure ResearchQuery (F : Type) where
  query : String
  claimScope : String := "travel.general"
  corpusRevision : String
  filters : RetrievalFilters
  topK : ℕ := 10
  scoreThreshold : F
  topK_le : 1 ≤ topK ∧ topK ≤ 20

structure EvidenceScores (F : Type) where
  lexical : Option F
  vector : Option F
  fused : F

inductive MatchedBy where
  | lexical
  | vector
  deriving DecidableEq, Repr

structure EvidenceItem (F : Type) where
  evidenceId : String
  chunkId : String
  documentId : String
  sourceId : String
  contentHash : String
  claimScope : String
  snippet : String
  sourceUri : String
  sourceTitle : String
  sourceType : String
  sourceVersion : String
  publishedAt : Option Time
  observedAt : Time
  retrievedAt : Time
  validUntil : Option Time
  freshnessStatus : FreshnessStatus
  trustTier : TrustTier
  licenseId : String
  visibilityScope : VisibilityScope
  corpusRevision : String
  scores : EvidenceScores F
  matchedBy : List MatchedBy
  injectionSuspected : Bool

inductive RetrievalMode where
  | lexical
  | hybrid
  deriving DecidableEq, Repr

inductive VectorStatus where
  | used
  | disabled
  | unavailable
  | providerNotSemantic
  deriving DecidableEq, Repr

structure RetrievalTrace where
  queryId : String
  queryHash : String
  corpusRevision : String
  tokenizerVersion : String
  embeddingModelVersion : Option String
  retrievalMode : RetrievalMode
  vectorStatus : VectorStatus
  degradedReason : Option String := none
  lexicalCandidates : ℕ
  vectorCandidates : ℕ
  returnedItems : ℕ

structure RetrievalResult (F : Type) where
  queryId : String
  corpusRevision : String
  items : List (EvidenceItem F)
  trace : RetrievalTrace

/-- `freshness_status`. -/
def freshnessStatus (validFrom validUntil : Option Time) (at_ : Time) : FreshnessStatus :=
  if validFrom.any fun t => at_ < t then .notYetValid
  else if validUntil.any fun t => t < at_ then .stale
  else if validFrom.isNone ∧ validUntil.isNone then .unknown
  else .fresh

end RoutePilot.Knowledge
