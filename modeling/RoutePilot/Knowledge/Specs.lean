/-
  What the operations of the in-memory repository do.

  What the preparation of a request gives depends on the call by its identifiers
  and its clock only (`prepareIngestion_cases`); `ingest_cases` and
  `changeDocumentStatus_cases` say how an operation ends and what it leaves behind.
-/
import Mathlib.Tactic.Common
import RoutePilot.Knowledge.World

namespace RoutePilot.Knowledge

open Lib

variable {F : Type}

/-! ## Preparation -/

section
variable (T : TextTools)

/-- Whose a chunk is. -/
structure KnowledgeChunk.Of (chunk : KnowledgeChunk) (env : Env F) (tenantId : String)
    (request : IngestDocumentRequest) : Prop where
  id : ∃ n, chunk.chunkId = env.newChunkId n
  document : chunk.documentId = env.newDocumentId
  tenant : chunk.tenantId = persistedTenant tenantId request.visibilityScope
  scope : chunk.visibilityScope = request.visibilityScope

theorem chunkOf_error {content : String} (h : ¬ (1 ≤ (pyStrip content).length ∧ (pyStrip content).length ≤ 8_000))
    (env : Env F) (tenantId : String) (request : IngestDocumentRequest) (sourceId : String) (suspected : Bool)
    (ordinal : ℕ) : chunkOf T env tenantId request sourceId suspected ordinal content = .error chunkError := if_neg h

theorem chunkOf_ok {content : String} (h : 1 ≤ (pyStrip content).length ∧ (pyStrip content).length ≤ 8_000)
    (env : Env F) (tenantId : String) (request : IngestDocumentRequest) (sourceId : String) (suspected : Bool)
    (ordinal : ℕ) : ∃ chunk, chunkOf T env tenantId request sourceId suspected ordinal content = .ok chunk ∧
      chunk.Of env tenantId request := by
  refine ⟨chunkFields T env tenantId request sourceId suspected ordinal content, if_pos h, ?_⟩
  exact ⟨⟨ordinal, rfl⟩, rfl, rfl, rfl⟩

/-- Whether parts can be chunks depends on the parts only. -/
theorem chunksOf_cases (contents : List String) :
    (∀ (env : Env F) tenantId request sourceId suspected ordinal,
      chunksOf T env tenantId request sourceId suspected ordinal contents = .error chunkError) ∨
    ∀ (env : Env F) tenantId request sourceId suspected ordinal, ∃ chunks,
      chunksOf T env tenantId request sourceId suspected ordinal contents = .ok chunks ∧
        chunks.length = contents.length ∧ ∀ chunk ∈ chunks, chunk.Of env tenantId request := by
  induction contents with
  | nil => exact .inr fun _ _ _ _ _ _ => ⟨[], by rw [chunksOf], rfl, List.forall_mem_nil _⟩
  | cons content contents ih =>
    by_cases hlength : 1 ≤ (pyStrip content).length ∧ (pyStrip content).length ≤ 8_000
    · obtain hbad | hgood := ih
      · refine .inl fun env tenantId request sourceId suspected ordinal => ?_
        obtain ⟨chunk, hchunk, -⟩ := chunkOf_ok T hlength env tenantId request sourceId suspected ordinal
        rw [chunksOf, hchunk, hbad]
        rfl
      · refine .inr fun env tenantId request sourceId suspected ordinal => ?_
        obtain ⟨chunk, hchunk, hof⟩ := chunkOf_ok T hlength env tenantId request sourceId suspected ordinal
        obtain ⟨chunks, hchunks, hlen, hall⟩ := hgood env tenantId request sourceId suspected (ordinal + 1)
        rw [chunksOf, hchunk, hchunks]
        exact ⟨chunk :: chunks, rfl, congrArg (· + 1) hlen, List.forall_mem_cons.2 ⟨hof, hall⟩⟩
    · refine .inl fun env tenantId request sourceId suspected ordinal => ?_
      rw [chunksOf, chunkOf_error T hlength]
      rfl

/-- What a preparation gives. -/
structure PreparedIngestion.Of (p : PreparedIngestion) (env : Env F) (tenantId : String)
    (request : IngestDocumentRequest) (sourceId contentHash : String) (suspected : Bool) (count : ℕ) : Prop where
  document : p.document = documentOf T env tenantId request sourceId contentHash suspected
  requestHash : p.requestHash = T.sha256 (T.payloadText (request.payload contentHash))
  count : p.chunks.length = count
  chunks : ∀ chunk ∈ p.chunks, chunk.Of env tenantId request

/-- The sanitized content of a request. -/
def sanitizedText (request : IngestDocumentRequest) : Except KnowledgeError SanitizedText := do
  checkVersions request
  valueError (T.sanitize request.content)

theorem sanitizedText_error {request : IngestDocumentRequest} {e : KnowledgeError}
    (h : sanitizedText T request = .error e) : ∃ message, e = .value message := by
  unfold sanitizedText checkVersions at h
  split at h
  · cases h
    exact ⟨_, rfl⟩
  · split at h
    · cases h
      exact ⟨_, rfl⟩
    · cases hsanitize : T.sanitize request.content with
      | error message =>
        rw [hsanitize] at h
        cases h
        exact ⟨message, rfl⟩
      | ok sanitized =>
        rw [hsanitize] at h
        cases h

theorem sanitizedText_ok {request : IngestDocumentRequest} {sanitized : SanitizedText}
    (h : sanitizedText T request = .ok sanitized) : T.sanitize request.content = .ok sanitized := by
  unfold sanitizedText at h
  cases hversions : checkVersions request with
  | error e =>
    rw [hversions] at h
    cases h
  | ok u =>
    rw [hversions] at h
    cases hsanitize : T.sanitize request.content with
    | error message =>
      rw [hsanitize] at h
      cases h
    | ok sanitized' =>
      rw [hsanitize] at h
      cases h
      rfl

theorem prepareIngestion_eq (env : Env F) (tenantId : String) (request : IngestDocumentRequest)
    (sourceId : Option String) : prepareIngestion T env tenantId request sourceId =
      sanitizedText T request >>= prepareText T env tenantId request (sourceId.getD env.newSourceId) := by
  unfold prepareIngestion sanitizedText
  cases checkVersions request <;> rfl

/-- A text is refused whoever sends it and whenever, or it is prepared in the same way. -/
theorem prepareText_cases (sanitized : SanitizedText) :
    (∃ message, ∀ (env : Env F) tenantId request sourceId,
      prepareText T env tenantId request sourceId sanitized = .error (.value message)) ∨
    ∃ count, ∀ (env : Env F) tenantId request sourceId, ∃ p : PreparedIngestion,
      prepareText T env tenantId request sourceId sanitized = .ok p ∧
        p.Of T env tenantId request sourceId (T.sha256 sanitized.content) sanitized.injectionSuspected count := by
  unfold prepareText
  cases hsplit : T.split sanitized.content with
  | error message => exact .inl ⟨message, fun _ _ _ _ => rfl⟩
  | ok contents =>
    obtain hbad | hgood := chunksOf_cases (F := F) T contents
    · refine .inl ⟨"content must contain 1-8000 characters", fun env tenantId request sourceId => ?_⟩
      show chunksOf T env tenantId request sourceId sanitized.injectionSuspected 0 contents >>= _ = _
      rw [hbad]
      rfl
    · refine .inr ⟨contents.length, fun env tenantId request sourceId => ?_⟩
      obtain ⟨chunks, hchunks, hlen, hof⟩ := hgood env tenantId request sourceId sanitized.injectionSuspected 0
      refine ⟨⟨_, chunks, _⟩, ?_, rfl, rfl, hlen, hof⟩
      show chunksOf T env tenantId request sourceId sanitized.injectionSuspected 0 contents >>= _ = _
      rw [hchunks]
      rfl

/-- The requests have the same text. -/
structure IngestDocumentRequest.SameText (a b : IngestDocumentRequest) : Prop where
  content : a.content = b.content
  parserVersion : a.parserVersion = b.parserVersion
  chunkerVersion : a.chunkerVersion = b.chunkerVersion

theorem IngestDocumentRequest.SameText.refl (a : IngestDocumentRequest) : a.SameText a := ⟨rfl, rfl, rfl⟩

theorem sanitizedText_congr {a b : IngestDocumentRequest} (h : a.SameText b) :
    sanitizedText T a = sanitizedText T b := by
  unfold sanitizedText checkVersions
  rw [h.content, h.parserVersion, h.chunkerVersion]

/-- A text is refused in whatever request, or it is prepared in the same way. -/
theorem prepareIngestion_cases (text : IngestDocumentRequest) :
    (∃ message, ∀ (env : Env F) tenantId request sourceId, IngestDocumentRequest.SameText request text →
      prepareIngestion T env tenantId request sourceId = .error (.value message)) ∨
    ∃ sanitized count, sanitizedText T text = .ok sanitized ∧
      ∀ (env : Env F) tenantId request sourceId, IngestDocumentRequest.SameText request text → ∃ p : PreparedIngestion,
        prepareIngestion T env tenantId request sourceId = .ok p ∧
          p.Of T env tenantId request (sourceId.getD env.newSourceId) (T.sha256 sanitized.content)
            sanitized.injectionSuspected count := by
  cases hsanitized : sanitizedText T text with
  | error e =>
    obtain ⟨message, rfl⟩ := sanitizedText_error T hsanitized
    refine .inl ⟨message, fun env tenantId request sourceId hsame => ?_⟩
    rw [prepareIngestion_eq, sanitizedText_congr T hsame, hsanitized]
    rfl
  | ok sanitized =>
    obtain ⟨message, hbad⟩ | ⟨count, hgood⟩ := prepareText_cases (F := F) T sanitized
    · refine .inl ⟨message, fun env tenantId request sourceId hsame => ?_⟩
      rw [prepareIngestion_eq, sanitizedText_congr T hsame, hsanitized]
      exact hbad env tenantId request _
    · refine .inr ⟨sanitized, count, rfl, fun env tenantId request sourceId hsame => ?_⟩
      rw [prepareIngestion_eq, sanitizedText_congr T hsame, hsanitized]
      exact hgood env tenantId request _

end

/-! ## Ingestion -/

namespace RepositoryConfig
variable (c : RepositoryConfig F)

/-- The calls that pass the checks. -/
structure Accepts (context : AuthorizedKnowledgeContext) (request : IngestDocumentRequest) (key : String) : Prop where
  authorized : authorizeIngest context request = .ok ()
  key : 8 ≤ key.length ∧ key.length ≤ 200

theorem probe_ok {env : Env F} {context : AuthorizedKnowledgeContext} {request : IngestDocumentRequest} {key : String}
    {p : PreparedIngestion} : c.probe env context request key = .ok p ↔
      Accepts context request key ∧ prepareIngestion c.tools env context.tenantId request none = .ok p := by
  unfold probe
  cases hauth : authorizeIngest context request with
  | error e =>
    refine iff_of_false nofun fun h => ?_
    have := h.1.authorized
    rw [hauth] at this
    cases this
  | ok u =>
    by_cases hkey : 8 ≤ key.length ∧ key.length ≤ 200
    · simp only [hkey, not_true_eq_false, if_false, and_self]
      exact ⟨fun h => ⟨⟨hauth, hkey⟩, h⟩, fun h => h.2⟩
    · simp only [hkey, not_false_eq_true, if_true]
      exact iff_of_false nofun fun h => hkey h.1.key

/-- The preparation of a probed request. -/
theorem probe_of {env : Env F} {context : AuthorizedKnowledgeContext} {request : IngestDocumentRequest} {key : String}
    {p : PreparedIngestion} (h : c.probe env context request key = .ok p) :
    ∃ sanitized, sanitizedText c.tools request = .ok sanitized ∧
      p.requestHash = c.tools.sha256 (c.tools.payloadText (request.payload (c.tools.sha256 sanitized.content))) := by
  obtain ⟨message, hbad⟩ | ⟨sanitized, count, hsanitized, hgood⟩ := prepareIngestion_cases (F := F) c.tools request
  · cases (hbad env context.tenantId request none (.refl request)).symm.trans (c.probe_ok.1 h).2
  · obtain ⟨q, hq, hof⟩ := hgood env context.tenantId request none (.refl request)
    cases hq.symm.trans (c.probe_ok.1 h).2
    exact ⟨sanitized, hsanitized, hof.requestHash⟩

/-- The preparation that is stored has the hash of the probe. -/
theorem prepareIngestion_hash {env : Env F} {context : AuthorizedKnowledgeContext} {request : IngestDocumentRequest}
    {key : String} {probed prepared : PreparedIngestion} {sourceId : Option String}
    (hprobe : c.probe env context request key = .ok probed)
    (h : prepareIngestion c.tools env context.tenantId request sourceId = .ok prepared) :
    prepared.requestHash = probed.requestHash := by
  obtain ⟨message, hbad⟩ | ⟨sanitized, count, hsanitized, hgood⟩ := prepareIngestion_cases (F := F) c.tools request
  · cases (hbad env context.tenantId request sourceId (.refl request)).symm.trans h
  · obtain ⟨q, hq, hof⟩ := hgood env context.tenantId request sourceId (.refl request)
    obtain ⟨q', hq', hof'⟩ := hgood env context.tenantId request none (.refl request)
    cases hq.symm.trans h
    cases hq'.symm.trans (c.probe_ok.1 hprobe).2
    rw [hof.requestHash, hof'.requestHash]

/-- The preparation that is stored has as many chunks as the probe. -/
theorem prepareIngestion_length {env : Env F} {context : AuthorizedKnowledgeContext} {request : IngestDocumentRequest}
    {key : String} {probed prepared : PreparedIngestion} {sourceId : Option String}
    (hprobe : c.probe env context request key = .ok probed)
    (h : prepareIngestion c.tools env context.tenantId request sourceId = .ok prepared) :
    prepared.chunks.length = probed.chunks.length := by
  obtain ⟨message, hbad⟩ | ⟨sanitized, count, hsanitized, hgood⟩ := prepareIngestion_cases (F := F) c.tools request
  · cases (hbad env context.tenantId request sourceId (.refl request)).symm.trans h
  · obtain ⟨q, hq, hof⟩ := hgood env context.tenantId request sourceId (.refl request)
    obtain ⟨q', hq', hof'⟩ := hgood env context.tenantId request none (.refl request)
    cases hq.symm.trans h
    cases hq'.symm.trans (c.probe_ok.1 hprobe).2
    rw [hof.count, hof'.count]

/-- Chunks are embedded for their number only. -/
theorem embedChunks_congr (env : Env F) {chunks chunks' : List KnowledgeChunk} (h : chunks.length = chunks'.length) :
    c.embedChunks env chunks = c.embedChunks env chunks' := by
  unfold embedChunks
  rw [h]

/-- A request that was probed is prepared under any source. -/
theorem prepareIngestion_of_probe {env : Env F} {context : AuthorizedKnowledgeContext}
    {request : IngestDocumentRequest} {key : String} {p : PreparedIngestion}
    (h : c.probe env context request key = .ok p) (sourceId : Option String) :
    ∃ q, prepareIngestion c.tools env context.tenantId request sourceId = .ok q := by
  obtain ⟨e, hbad⟩ | ⟨sanitized, count, -, hgood⟩ := prepareIngestion_cases (F := F) c.tools request
  · cases (hbad env context.tenantId request none (.refl request)).symm.trans (c.probe_ok.1 h).2
  · obtain ⟨q, hq, -⟩ := hgood env context.tenantId request sourceId (.refl request)
    exact ⟨q, hq⟩

/-- A call that is refused before it looks at the repository raises no conflict. -/
theorem probe_error {env : Env F} {context : AuthorizedKnowledgeContext} {request : IngestDocumentRequest}
    {key : String} {e : KnowledgeError} (h : c.probe env context request key = .error e) :
    (∃ message, e = .authorization message) ∨ ∃ message, e = .value message := by
  unfold probe at h
  cases hauth : authorizeIngest context request with
  | error e' =>
    rw [hauth] at h
    cases h
    unfold authorizeIngest at hauth
    split at hauth
    · cases hauth
      exact .inl ⟨_, rfl⟩
    · split at hauth
      · cases hauth
        exact .inl ⟨_, rfl⟩
      · cases hauth
  | ok u =>
    rw [hauth] at h
    by_cases hkey : 8 ≤ key.length ∧ key.length ≤ 200
    · simp only [hkey, not_true_eq_false, if_false, and_self] at h
      obtain ⟨message, hbad⟩ | ⟨sanitized, count, -, hgood⟩ := prepareIngestion_cases (F := F) c.tools request
      · cases (hbad env context.tenantId request none (.refl request)).symm.trans h
        exact .inr ⟨message, rfl⟩
      · obtain ⟨q, hq, -⟩ := hgood env context.tenantId request none (.refl request)
        cases hq.symm.trans h
    · simp only [hkey, not_false_eq_true, if_true] at h
      cases h
      exact .inr ⟨_, rfl⟩

/-- A call is refused for its text, its scope, its sender and its key only. -/
theorem probe_error_congr {env env' : Env F} {context : AuthorizedKnowledgeContext}
    {request request' : IngestDocumentRequest} {key : String} {e : KnowledgeError} (htext : request'.SameText request)
    (hscope : request'.visibilityScope = request.visibilityScope) (h : c.probe env context request key = .error e) :
    c.probe env' context request' key = .error e := by
  have hauth : authorizeIngest context request' = authorizeIngest context request := by
    unfold authorizeIngest
    rw [hscope]
  unfold probe at h ⊢
  rw [hauth]
  obtain ⟨message, hbad⟩ | ⟨sanitized, count, -, hgood⟩ := prepareIngestion_cases (F := F) c.tools request
  · rw [hbad env context.tenantId request none (.refl request)] at h
    rw [hbad env' context.tenantId request' none htext]
    exact h
  · obtain ⟨q, hq, -⟩ := hgood env context.tenantId request none (.refl request)
    obtain ⟨q', hq', -⟩ := hgood env' context.tenantId request' none htext
    rw [hq] at h
    rw [hq']
    cases hauthorized : authorizeIngest context request with
    | error e' =>
      rw [hauthorized] at h
      exact h
    | ok u =>
      rw [hauthorized] at h
      by_cases hkey : 8 ≤ key.length ∧ key.length ≤ 200
      · simp only [hkey, not_true_eq_false, if_false, and_self] at h
        cases h
      · simp only [hkey, not_false_eq_true, if_true] at h ⊢
        exact h

/-- What is wrong with a vector is a `ValueError`. -/
theorem mapM_validateEmbedding_error {provider : EmbeddingProvider F} {vectors : List (List F)} {e : KnowledgeError}
    (h : vectors.mapM provider.validateEmbedding = .error e) : ∃ message, e = .value message := by
  induction vectors generalizing e with
  | nil => cases h
  | cons vector vectors ih =>
    rw [List.mapM_cons] at h
    cases hvector : provider.validateEmbedding vector with
    | error e' =>
      rw [hvector] at h
      cases h
      unfold EmbeddingProvider.validateEmbedding at hvector
      split at hvector
      · cases hvector
        exact ⟨_, rfl⟩
      · split at hvector
        · cases hvector
          exact ⟨_, rfl⟩
        · cases hvector
    | ok v =>
      rw [hvector] at h
      cases hrest : vectors.mapM provider.validateEmbedding with
      | error e' =>
        rw [hrest] at h
        cases h
        exact ih hrest
      | ok vs =>
        rw [hrest] at h
        cases h

/-- A failing embedding raises no conflict. -/
theorem embedChunks_error {env : Env F} {chunks : List KnowledgeChunk} {e : KnowledgeError}
    (h : c.embedChunks env chunks = .error e) : (∃ message, e = .runtime message) ∨ ∃ message, e = .value message := by
  unfold embedChunks at h
  cases hprovider : c.provider with
  | none =>
    rw [hprovider] at h
    cases h
  | some provider =>
    simp only [hprovider] at h
    split at h
    · cases hembedded : env.embedded with
      | error message =>
        rw [hembedded] at h
        cases h
        exact .inl ⟨message, rfl⟩
      | ok vectors =>
        simp only [hembedded] at h
        cases hvalid : vectors.mapM provider.validateEmbedding with
        | error e' =>
          rw [hvalid] at h
          cases h
          exact .inr (mapM_validateEmbedding_error hvalid)
        | ok vectors' =>
          rw [hvalid] at h
          simp only [Except.bind] at h
          split at h
          · cases h
            exact .inr ⟨_, rfl⟩
          · cases h
    · cases h

/-- How an ingestion ends. -/
inductive Ingested (env : Env F) (context : AuthorizedKnowledgeContext) (request : IngestDocumentRequest)
    (key : String) (r : Repository F) : Except KnowledgeError IngestResult → Repository F → Prop
  /-- the call is refused before it looks at the repository -/
  | refused (e : KnowledgeError) (h : c.probe env context request key = .error e) :
      Ingested env context request key r (.error e) r
  | conflict (prepared : PreparedIngestion) (existing : IdempotencyRecord)
      (h : c.probe env context request key = .ok prepared)
      (hkey : r.idempotency.get? (scopeKey context.tenantId request.visibilityScope, key) = some existing)
      (hne : existing.requestHash ≠ prepared.requestHash) :
      Ingested env context request key r
        (.error (.conflict "idempotency key was already used with different content")) r
  | replayed (prepared : PreparedIngestion) (existing : IdempotencyRecord)
      (h : c.probe env context request key = .ok prepared)
      (hkey : r.idempotency.get? (scopeKey context.tenantId request.visibilityScope, key) = some existing)
      (heq : existing.requestHash = prepared.requestHash) :
      Ingested env context request key r (.ok existing.result.replay) r
  | known (prepared : PreparedIngestion) (result : IngestResult)
      (h : c.probe env context request key = .ok prepared)
      (hkey : r.idempotency.get? (scopeKey context.tenantId request.visibilityScope, key) = none)
      (hcontent : r.contentResults.get? (contentKey (scopeKey context.tenantId request.visibilityScope) request
        prepared.document.contentHash) = some result) :
      Ingested env context request key r (.ok result.replay)
        { r with idempotency :=
            r.idempotency.set (scopeKey context.tenantId request.visibilityScope, key) ⟨prepared.requestHash, result⟩ }
  /-- the embedding provider fails -/
  | unembedded (probed prepared : PreparedIngestion) (e : KnowledgeError)
      (h : c.probe env context request key = .ok probed)
      (hkey : r.idempotency.get? (scopeKey context.tenantId request.visibilityScope, key) = none)
      (hcontent : r.contentResults.get? (contentKey (scopeKey context.tenantId request.visibilityScope) request
        probed.document.contentHash) = none)
      (hprepared : prepareIngestion c.tools env context.tenantId request
        (r.sourcesByScopeUri.get? (scopeKey context.tenantId request.visibilityScope, request.canonicalSourceUri)) =
          .ok prepared)
      (hembed : c.embedChunks env prepared.chunks = .error e) :
      Ingested env context request key r (.error e) r
  | new (probed prepared : PreparedIngestion) (vectors : List (List F)) (vectorStatus : IngestVectorStatus)
      (h : c.probe env context request key = .ok probed)
      (hkey : r.idempotency.get? (scopeKey context.tenantId request.visibilityScope, key) = none)
      (hcontent : r.contentResults.get? (contentKey (scopeKey context.tenantId request.visibilityScope) request
        probed.document.contentHash) = none)
      (hprepared : prepareIngestion c.tools env context.tenantId request
        (r.sourcesByScopeUri.get? (scopeKey context.tenantId request.visibilityScope, request.canonicalSourceUri)) =
          .ok prepared)
      (hembed : c.embedChunks env prepared.chunks = .ok (vectors, vectorStatus)) :
      Ingested env context request key r (.ok (resultOf prepared vectors vectorStatus))
        { stored prepared vectors r with
          sourcesByScopeUri := r.sourcesByScopeUri.set
            (scopeKey context.tenantId request.visibilityScope, request.canonicalSourceUri) prepared.document.sourceId
          idempotency := r.idempotency.set (scopeKey context.tenantId request.visibilityScope, key)
            ⟨prepared.requestHash, resultOf prepared vectors vectorStatus⟩
          contentResults := r.contentResults.set (contentKey (scopeKey context.tenantId request.visibilityScope) request
            probed.document.contentHash) (resultOf prepared vectors vectorStatus) }

theorem ingest_of_refused {env : Env F} {context : AuthorizedKnowledgeContext} {request : IngestDocumentRequest}
    {key : String} {e : KnowledgeError} (h : c.probe env context request key = .error e) (r : Repository F) :
    (c.ingest env context request key).run r = .error e r := by
  rw [ingest, EStateM.run_bind, raiseOr, run_ask, h]

theorem ingest_of_same_key {env : Env F} {context : AuthorizedKnowledgeContext} {request : IngestDocumentRequest}
    {key : String} {r : Repository F} {prepared : PreparedIngestion} {existing : IdempotencyRecord}
    (hprobe : c.probe env context request key = .ok prepared)
    (hkey : r.idempotency.get? (scopeKey context.tenantId request.visibilityScope, key) = some existing)
    (heq : existing.requestHash = prepared.requestHash) :
    (c.ingest env context request key).run r = .ok existing.result.replay r := by
  simp only [ingest, raiseOr, EStateM.run_bind, run_ask, hprobe, EStateM.run_get, hkey, ensure, heq, if_true,
    EStateM.run_pure]

theorem ingest_of_other_key {env : Env F} {context : AuthorizedKnowledgeContext} {request : IngestDocumentRequest}
    {key : String} {r : Repository F} {prepared : PreparedIngestion} {existing : IdempotencyRecord}
    (hprobe : c.probe env context request key = .ok prepared)
    (hkey : r.idempotency.get? (scopeKey context.tenantId request.visibilityScope, key) = some existing)
    (hne : existing.requestHash ≠ prepared.requestHash) : (c.ingest env context request key).run r =
      .error (.conflict "idempotency key was already used with different content") r := by
  simp only [ingest, raiseOr, EStateM.run_bind, run_ask, hprobe, EStateM.run_get, hkey, ensure, hne, if_false,
    EStateM.run_throw]

theorem ingest_cases (env : Env F) (context : AuthorizedKnowledgeContext) (request : IngestDocumentRequest)
    (key : String) (r : Repository F) :
    c.Ingested env context request key r (outcome ((c.ingest env context request key).run r))
      (final ((c.ingest env context request key).run r)) := by
  have hrun : ∀ x, (c.ingest env context request key).run r = x →
      c.Ingested env context request key r (outcome x) (final x) →
      c.Ingested env context request key r (outcome ((c.ingest env context request key).run r))
        (final ((c.ingest env context request key).run r)) := by
    rintro x rfl h
    exact h
  cases hprobe : c.probe env context request key with
  | error e => exact hrun _ (c.ingest_of_refused hprobe r) (.refused e hprobe)
  | ok prepared =>
    cases hkey : r.idempotency.get? (scopeKey context.tenantId request.visibilityScope, key) with
    | some existing =>
      by_cases heq : existing.requestHash = prepared.requestHash
      · exact hrun _ (c.ingest_of_same_key hprobe hkey heq) (.replayed prepared existing hprobe hkey heq)
      · exact hrun _ (c.ingest_of_other_key hprobe hkey heq) (.conflict prepared existing hprobe hkey heq)
    | none =>
      cases hcontent : r.contentResults.get? (contentKey (scopeKey context.tenantId request.visibilityScope) request
          prepared.document.contentHash) with
      | some result =>
        refine hrun (.ok result.replay _) ?_ (.known prepared result hprobe hkey hcontent)
        simp only [ingest, raiseOr, EStateM.run_bind, run_ask, hprobe, EStateM.run_get, hkey, hcontent,
          EStateM.run_set, EStateM.run_pure]
      | none =>
        obtain ⟨q, hq⟩ := c.prepareIngestion_of_probe hprobe
          (r.sourcesByScopeUri.get? (scopeKey context.tenantId request.visibilityScope, request.canonicalSourceUri))
        cases hembed : c.embedChunks env q.chunks with
        | error e =>
          refine hrun (.error e r) ?_ (.unembedded prepared q e hprobe hkey hcontent hq hembed)
          simp only [ingest, raiseOr, EStateM.run_bind, run_ask, hprobe, EStateM.run_get, hkey, hcontent, hq, hembed]
        | ok embedded =>
          refine hrun (.ok (resultOf q embedded.1 embedded.2) _) ?_
            (.new prepared q embedded.1 embedded.2 hprobe hkey hcontent hq hembed)
          simp only [ingest, raiseOr, EStateM.run_bind, run_ask, hprobe, EStateM.run_get, hkey, hcontent, hq, hembed,
            EStateM.run_set, EStateM.run_pure]
          rfl

/-! ## Status changes -/

/-- How a status change ends. -/
inductive Changed (now : Time) (context : AuthorizedKnowledgeContext) (documentId : String) (command : StatusCommand)
    (key : String) (r : Repository F) : Except KnowledgeError StatusResult → Repository F → Prop
  | unchecked (e : KnowledgeError) (h : checkStatusCall context key = .error e) :
      Changed now context documentId command key r (.error e) r
  | unmanageable (e : KnowledgeError) (h : checkStatusCall context key = .ok ())
      (hdocument : manageable context (r.documents.get? documentId) = .error e) :
      Changed now context documentId command key r (.error e) r
  | conflict (document : KnowledgeDocument) (existing : StatusIdempotencyRecord)
    (h : checkStatusCall context key = .ok ())
      (hdocument : manageable context (r.documents.get? documentId) = .ok document)
      (hkey : r.statusIdempotency.get? (scopeKey context.tenantId document.visibilityScope, key) = some existing)
      (hne : existing.requestHash ≠ c.tools.sha256 (c.tools.commandText command)) :
      Changed now context documentId command key r
        (.error (.conflict "idempotency key was already used with a different command")) r
  | replayed (document : KnowledgeDocument) (existing : StatusIdempotencyRecord)
    (h : checkStatusCall context key = .ok ())
      (hdocument : manageable context (r.documents.get? documentId) = .ok document)
      (hkey : r.statusIdempotency.get? (scopeKey context.tenantId document.visibilityScope, key) = some existing)
      (heq : existing.requestHash = c.tools.sha256 (c.tools.commandText command)) :
      Changed now context documentId command key r (.ok existing.result.replay) r
  | outdated (document : KnowledgeDocument) (h : checkStatusCall context key = .ok ())
      (hdocument : manageable context (r.documents.get? documentId) = .ok document)
      (hkey : r.statusIdempotency.get? (scopeKey context.tenantId document.visibilityScope, key) = none)
      (hversion : document.version ≠ command.expectedVersion) :
      Changed now context documentId command key r
        (.error (.versionConflict "knowledge document version changed; refresh and retry" document.version)) r
  | new (document : KnowledgeDocument) (h : checkStatusCall context key = .ok ())
      (hdocument : manageable context (r.documents.get? documentId) = .ok document)
      (hkey : r.statusIdempotency.get? (scopeKey context.tenantId document.visibilityScope, key) = none)
      (hversion : document.version = command.expectedVersion) :
      Changed now context documentId command key r (.ok { document := r.adminView (document.commanded command now) })
        { r with
          documents :=
            if document.status ≠ command.targetStatus then r.documents.set documentId (document.commanded command now)
            else r.documents
          statusIdempotency := r.statusIdempotency.set (scopeKey context.tenantId document.visibilityScope, key)
            ⟨c.tools.sha256 (c.tools.commandText command),
              { document := r.adminView (document.commanded command now) }⟩ }

theorem changeDocumentStatus_cases (now : Time) (context : AuthorizedKnowledgeContext) (documentId : String)
    (command : StatusCommand) (key : String) (r : Repository F) :
    c.Changed now context documentId command key r
      (outcome ((c.changeDocumentStatus now context documentId command key).run r))
      (final ((c.changeDocumentStatus now context documentId command key).run r)) := by
  have hrun : ∀ x, (c.changeDocumentStatus now context documentId command key).run r = x →
      c.Changed now context documentId command key r (outcome x) (final x) →
      c.Changed now context documentId command key r
        (outcome ((c.changeDocumentStatus now context documentId command key).run r))
        (final ((c.changeDocumentStatus now context documentId command key).run r)) := by
    rintro x rfl h
    exact h
  cases hcheck : checkStatusCall context key with
  | error e =>
    refine hrun (.error e r) ?_ (.unchecked e hcheck)
    rw [changeDocumentStatus, EStateM.run_bind, raiseOr, run_ask, hcheck]
  | ok u =>
    cases hdocument : manageable context (r.documents.get? documentId) with
    | error e =>
      refine hrun (.error e r) ?_ (.unmanageable e hcheck hdocument)
      simp only [changeDocumentStatus, raiseOr, EStateM.run_bind, run_ask, hcheck, EStateM.run_get, hdocument]
    | ok document =>
      cases hkey : r.statusIdempotency.get? (scopeKey context.tenantId document.visibilityScope, key) with
      | some existing =>
        by_cases heq : existing.requestHash = c.tools.sha256 (c.tools.commandText command)
        · refine hrun (.ok existing.result.replay r) ?_ (.replayed document existing hcheck hdocument hkey heq)
          simp only [changeDocumentStatus, raiseOr, EStateM.run_bind, run_ask, hcheck, EStateM.run_get, hdocument, hkey,
            ensure, heq, if_true, EStateM.run_pure]
        · refine hrun (.error _ r) ?_ (.conflict document existing hcheck hdocument hkey heq)
          simp only [changeDocumentStatus, raiseOr, EStateM.run_bind, run_ask, hcheck, EStateM.run_get, hdocument, hkey,
            ensure, heq, if_false, EStateM.run_throw]
      | none =>
        by_cases hversion : document.version = command.expectedVersion
        · refine hrun (.ok _ _) ?_ (.new document hcheck hdocument hkey hversion)
          simp only [changeDocumentStatus, raiseOr, EStateM.run_bind, run_ask, hcheck, EStateM.run_get, hdocument, hkey,
            ensure, hversion, if_true, EStateM.run_pure, EStateM.run_set]
        · refine hrun (.error _ r) ?_ (.outdated document hcheck hdocument hkey hversion)
          simp only [changeDocumentStatus, raiseOr, EStateM.run_bind, run_ask, hcheck, EStateM.run_get, hdocument, hkey,
            ensure, hversion, if_false, EStateM.run_throw]

end RepositoryConfig

/-- A document that may be managed is visible. -/
theorem manageable_ok {context : AuthorizedKnowledgeContext} {found : Option KnowledgeDocument}
    {document : KnowledgeDocument} (h : manageable context found = .ok document) :
    found = some document ∧ documentVisible context document = true := by
  cases found with
  | none => cases h
  | some d =>
    rw [manageable] at h
    split at h
    · cases h
    · next hvisible =>
      split at h
      · cases h
      · cases h
        exact ⟨rfl, by simpa using hvisible⟩

/-- A command leaves everything of a document but its status, the reason, the version and the time of the update. -/
theorem commanded_frame (document : KnowledgeDocument) (command : StatusCommand) (now : Time) :
    ∃ status reason version updatedAt, document.commanded command now =
      { document with status := status, quarantineReason := reason, version := version, updatedAt := updatedAt } := by
  unfold KnowledgeDocument.commanded
  split
  · exact ⟨_, _, _, _, rfl⟩
  · exact ⟨document.status, document.quarantineReason, document.version, document.updatedAt, rfl⟩

/-- The documents after a status change: the one of the call is replaced. -/
theorem get?_changed (r : Repository F) (documentId : String) (document : KnowledgeDocument) (command : StatusCommand)
    (now : Time) (hdocument : r.documents.get? documentId = some document) (k : String) :
    (if document.status ≠ command.targetStatus then r.documents.set documentId (document.commanded command now)
      else r.documents).get? k =
      if k = documentId then some (document.commanded command now) else r.documents.get? k := by
  by_cases hstatus : document.status = command.targetStatus
  · rw [if_neg (not_not.2 hstatus), KnowledgeDocument.commanded, if_neg (not_not.2 hstatus)]
    split
    · next h => rw [h, hdocument]
    · rfl
  · rw [if_pos hstatus, Dict.get?_set]

end RoutePilot.Knowledge
