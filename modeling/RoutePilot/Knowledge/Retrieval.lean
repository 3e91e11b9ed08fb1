/-
  Retrieval from the in-memory repository (`retrieve`, `_eligible`, `_fuse`).

  Nothing is assumed of the arithmetic of floats, but that they are ordered.
-/
import Mathlib.Data.List.Dedup
import Mathlib.Order.Lattice
import RoutePilot.Knowledge.Memory

namespace RoutePilot.Knowledge

open Lib

/-- The constants and the similarity of the ranking. -/
structure Ranking (F : Type) where
  rrfLexicalWeight : F
  rrfVectorWeight : F
  cosineSimilarity : List F → List F → F

/-- `_TRUST_ORDER`. -/
def trustOrder : TrustTier → ℕ
  | .official => 5
  | .operator => 4
  | .trustedMedia => 3
  | .community => 2
  | .userPrivate => 1

/-- `s.split()`. -/
def pyWords (s : String) : List String :=
  ((s.toList.splitOnP isPySpace).filter (· ≠ [])).map String.ofList

structure Candidate (F : Type) where
  chunk : KnowledgeChunk
  lexical : Option F := none
  vector : Option F := none
  lexicalRank : Option ℕ := none
  vectorRank : Option ℕ := none

/-- What a retrieval draws from outside. -/
structure RetrieveEnv where
  queryId : String
  evidenceId : ℕ → String
  retrievedAt : ℕ → Time

variable {F : Type}

/-- The document of a chunk is published. -/
def Repository.publishes (r : Repository F) (chunk : KnowledgeChunk) : Bool :=
  (r.documents.get? chunk.documentId).any fun document => document.status = .published

/-- `_eligible`. -/
def RepositoryConfig.eligible (c : RepositoryConfig F) (context : AuthorizedKnowledgeContext) (query : ResearchQuery F)
    (chunk : KnowledgeChunk) : Bool :=
  let filters := query.filters
  let freshness := freshnessStatus chunk.validFrom chunk.validUntil filters.validAt
  ¬ (chunk.visibilityScope = .tenant ∧ chunk.tenantId ≠ some context.tenantId) ∧
    chunk.corpusRevision = query.corpusRevision ∧
    chunk.tokenizerVersion = c.tools.tokenizerVersion ∧
    (filters.languages = [] ∨ chunk.language ∈ filters.languages) ∧
    (filters.sourceTypes = [] ∨ chunk.sourceType ∈ filters.sourceTypes) ∧
    (filters.trustTiers = [] ∨ chunk.trustTier ∈ filters.trustTiers) ∧
    (filters.geoEntities = [] ∨ ∃ e ∈ filters.geoEntities, e ∈ chunk.geoEntities) ∧
    (filters.tags = [] ∨ ∃ t ∈ filters.tags, t ∈ chunk.tags) ∧
    (filters.includeStale ∨ ¬ (freshness = .stale ∨ freshness = .notYetValid))

/-- The chunks that a query may see. -/
def RepositoryConfig.eligibleChunks (c : RepositoryConfig F) (context : AuthorizedKnowledgeContext)
    (query : ResearchQuery F) (r : Repository F) : List KnowledgeChunk :=
  r.chunks.values.filter fun chunk => r.publishes chunk ∧ c.eligible context query chunk

section
variable [LinearOrder F] [Zero F] [One F] [Add F] [Div F] [NatCast F]

/-! ## Rankings -/

/-- Order of the keys of a ranking: a score, a trust and a chunk. -/
def keyLe (a b : F × ℕ × String) : Bool :=
  a.1 < b.1 ∨ a.1 = b.1 ∧ (a.2.1 < b.2.1 ∨ a.2.1 = b.2.1 ∧ a.2.2 ≤ b.2.2)

/-- `items.sort(key=key, reverse=True)`. -/
def sortedDown {α : Type} (key : α → F × ℕ × String) (items : List α) : List α :=
  items.mergeSort fun a b => keyLe (key b) (key a)

/-- The lexical ranking. -/
def lexicalScored (queryTerms : List String) (eligible : List KnowledgeChunk) : List (KnowledgeChunk × F) :=
  sortedDown (fun e => (e.2, trustOrder e.1.trustTier, e.1.chunkId)) <|
    eligible.filterMap fun chunk =>
      let overlap := queryTerms.countP fun term => term ∈ pyWords chunk.lexicalTerms
      if overlap = 0 then none else some (chunk, min 1 ((overlap : F) / (max 1 queryTerms.length : ℕ)))

/-- The vector ranking. -/
def vectorScored (K : Ranking F) (queryVector : List F) (vectors : String → Option (List F))
    (eligible : List KnowledgeChunk) : List (KnowledgeChunk × F) :=
  sortedDown (fun e => (e.2, 0, e.1.chunkId)) <|
    eligible.filterMap fun chunk =>
      (vectors chunk.chunkId).bind fun vector =>
        let similarity := max 0 (K.cosineSimilarity queryVector vector)
        if 0 < similarity then some (chunk, similarity) else none

/-- The candidates of both rankings. -/
def candidates (lexical vector : List (KnowledgeChunk × F)) : Dict String (Candidate F) :=
  let byId := lexical.zipIdx.foldl (fun byId e =>
    byId.set e.1.1.chunkId { chunk := e.1.1, lexical := some e.1.2, lexicalRank := some (e.2 + 1) }) ∅
  vector.zipIdx.foldl (fun byId e =>
    let previous := byId.get? e.1.1.chunkId
    byId.set e.1.1.chunkId
      { chunk := e.1.1
        lexical := previous.bind (·.lexical)
        vector := some e.1.2
        lexicalRank := previous.bind (·.lexicalRank)
        vectorRank := some (e.2 + 1) }) byId

/-- `_fuse`. -/
def fuse (K : Ranking F) (lexical vector : List (KnowledgeChunk × F)) : List (Candidate F × F) :=
  let maximum := (K.rrfLexicalWeight + (if vector.isEmpty then 0 else K.rrfVectorWeight)) / (61 : ℕ)
  sortedDown (fun e => (e.2, trustOrder e.1.chunk.trustTier, e.1.chunk.chunkId)) <|
    (candidates lexical vector).values.map fun candidate =>
      let raw := (candidate.lexicalRank.map fun rank => K.rrfLexicalWeight / (60 + rank : ℕ)).getD 0
      let raw := raw + (candidate.vectorRank.map fun rank => K.rrfVectorWeight / (60 + rank : ℕ)).getD 0
      (candidate, if maximum ≠ 0 then min 1 (raw / maximum) else 0)

/-- The candidates that are returned: relevant ones with different contents, `topK` at most. -/
def selected (query : ResearchQuery F) : List (Candidate F × F) → (seen : List String) → (count : ℕ) →
    List (Candidate F × F)
  | [], _, _ => []
  | (candidate, fused) :: rest, seen, count =>
    let componentScore := max (candidate.lexical.getD 0) (candidate.vector.getD 0)
    if fused < query.scoreThreshold ∨ componentScore < query.scoreThreshold ∨ candidate.chunk.contentHash ∈ seen then
      selected query rest seen count
    else
      (candidate, fused) ::
        if query.topK ≤ count + 1 then []
        else selected query rest (candidate.chunk.contentHash :: seen) (count + 1)

/-- `_to_evidence`. -/
def toEvidence (query : ResearchQuery F) (evidenceId : String) (retrievedAt : Time) (candidate : Candidate F)
    (fused : F) : EvidenceItem F where
  evidenceId
  chunkId := candidate.chunk.chunkId
  documentId := candidate.chunk.documentId
  sourceId := candidate.chunk.sourceId
  contentHash := candidate.chunk.contentHash
  claimScope := query.claimScope
  snippet := pyTake 2_000 candidate.chunk.content
  sourceUri := candidate.chunk.canonicalSourceUri
  sourceTitle := candidate.chunk.sourceTitle
  sourceType := candidate.chunk.sourceType
  sourceVersion := candidate.chunk.sourceVersion
  publishedAt := candidate.chunk.publishedAt
  observedAt := candidate.chunk.observedAt
  retrievedAt
  validUntil := candidate.chunk.validUntil
  freshnessStatus := freshnessStatus candidate.chunk.validFrom candidate.chunk.validUntil query.filters.validAt
  trustTier := candidate.chunk.trustTier
  licenseId := candidate.chunk.license.licenseId
  visibilityScope := candidate.chunk.visibilityScope
  corpusRevision := candidate.chunk.corpusRevision
  scores := { lexical := candidate.lexical, vector := candidate.vector, fused }
  matchedBy := (candidate.lexicalRank.map fun _ => MatchedBy.lexical).toList ++
    (candidate.vectorRank.map fun _ => MatchedBy.vector).toList
  injectionSuspected := candidate.chunk.injectionSuspected

/-- What is said of a ranking without vectors. -/
def degradedReason : VectorStatus → Option String
  | .used => none
  | .providerNotSemantic => some "configured embedding provider is explicitly non-semantic"
  | .unavailable => some "semantic vectors are unavailable; lexical results only"
  | .disabled => some "no semantic embedding provider is configured"

/-! ## `retrieve` -/

namespace RepositoryConfig
variable (c : RepositoryConfig F) (K : Ranking F)

/-- The vector ranking of a query, where there is one, and what is reported of it. -/
def rankVectors (query : ResearchQuery F) (eligible : List KnowledgeChunk) (r : Repository F) :
    Except KnowledgeError (List (KnowledgeChunk × F) × VectorStatus) :=
  match c.provider with
  | none => .ok ([], .disabled)
  | some provider =>
    if provider.semanticCapable = false then .ok ([], .providerNotSemantic)
    else if r.vectors.entries.isEmpty then .ok ([], .unavailable)
    else (provider.validateEmbedding (provider.embedQuery query.query)).map fun queryVector =>
      (vectorScored K queryVector r.vectors.get? eligible, .used)

/-- The result of a query, from its rankings. -/
def retrievalResult (env : RetrieveEnv) (query : ResearchQuery F) (lexical vector : List (KnowledgeChunk × F))
    (vectorStatus : VectorStatus) : RetrievalResult F :=
  let items := (selected query (fuse K lexical vector) [] 0).zipIdx.map fun e =>
    toEvidence query (env.evidenceId e.2) (env.retrievedAt e.2) e.1.1 e.1.2
  { queryId := env.queryId
    corpusRevision := query.corpusRevision
    items
    trace := {
      queryId := env.queryId
      queryHash := c.tools.sha256 query.query
      corpusRevision := query.corpusRevision
      tokenizerVersion := c.tools.tokenizerVersion
      embeddingModelVersion := c.provider.map (·.modelVersion)
      retrievalMode := if vectorStatus = .used then .hybrid else .lexical
      vectorStatus
      degradedReason := degradedReason vectorStatus
      lexicalCandidates := lexical.length
      vectorCandidates := vector.length
      returnedItems := items.length } }

/-- `retrieve`. -/
def retrieve (env : RetrieveEnv) (context : AuthorizedKnowledgeContext) (query : ResearchQuery F) (r : Repository F) :
    Except KnowledgeError (RetrievalResult F) :=
  let queryTerms := (c.tools.tokenize query.query).dedup
  let eligible := c.eligibleChunks context query r
  let lexical := lexicalScored queryTerms eligible
  (c.rankVectors K query eligible r).map fun ranked => c.retrievalResult K env query lexical ranked.1 ranked.2

end RepositoryConfig
end
end RoutePilot.Knowledge
