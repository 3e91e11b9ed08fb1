/-
  What the knowledge base promises.

  A request belongs to an owner: the caller's tenant, or nobody where it is PUBLIC.
  `KeptInScope` is the isolation of owners over a history of calls, and `Apart` says
  that a call does not meet the request of another owner under the same scope string.
  `Listed` is what a caller gets that lists the documents page by page.
-/
import RoutePilot.Knowledge.Retrieval
import RoutePilot.Knowledge.World

namespace RoutePilot.Knowledge

open Lib Lts

variable {F : Type}

/-! ## Owners -/

/-- The tenant a request is of, if it is not PUBLIC. -/
def ownerOf (context : AuthorizedKnowledgeContext) (request : IngestDocumentRequest) : Option String :=
  persistedTenant context.tenantId request.visibilityScope

/-- The string under which a request is looked up. -/
def scopeOf (context : AuthorizedKnowledgeContext) (request : IngestDocumentRequest) : String :=
  scopeKey context.tenantId request.visibilityScope

/-- The call is an ingestion that returned `result`. -/
structure Entry.Ingested (e : Entry F) (context : AuthorizedKnowledgeContext) (request : IngestDocumentRequest)
    (key : String) (result : IngestResult) : Prop where
  op : e.op = .ingest context request key
  result : e.result = .ok (.ingested result)

/-- The call is an ingestion that conflicts. -/
structure Entry.Conflicts (e : Entry F) (context : AuthorizedKnowledgeContext) (request : IngestDocumentRequest)
    (key : String) : Prop where
  op : e.op = .ingest context request key
  result : ∃ message, e.result = .error (.conflict message)

abbrev KnowledgeHistory (F : Type) := List (Taken (Repository F) (Entry F))

/-- An earlier ingestion, with what it returned. -/
def Earlier (K : KnowledgeHistory F)
    (P : AuthorizedKnowledgeContext → IngestDocumentRequest → String → IngestResult → Prop) : Prop :=
  ∃ e ∈ K, ∃ context request key result, e.label.Ingested context request key result ∧ P context request key result

/-- What holds of every ingestion stays in its scope. -/
structure KeptInScope (r : Repository F) (H : KnowledgeHistory F) : Prop where
  /-- a result names a document of the request's scope -/
  stored : ∀ e ∈ H, ∀ context request key result, e.label.Ingested context request key result →
    ∃ d, r.documents.get? result.documentId = some d ∧ d.visibilityScope = request.visibilityScope ∧
      d.tenantId = ownerOf context request
  /-- the documents of one source have one scope -/
  sources : ∀ k d k' d', r.documents.get? k = some d → r.documents.get? k' = some d' → d.sourceId = d'.sourceId →
    d.visibilityScope = d'.visibilityScope ∧ d.tenantId = d'.tenantId
  /-- a conflict is with an earlier request of the same owner -/
  conflicts : Every (fun K e => ∀ context request key, e.label.Conflicts context request key →
    Earlier K fun context' request' key' _ => key' = key ∧ ownerOf context' request' = ownerOf context request) H
  /-- what is replayed was returned to an earlier request of the same owner, and to no other -/
  replays : Every (fun K e => ∀ context request key result, e.label.Ingested context request key result →
    result.idempotentReplay = true →
      (Earlier K fun context' request' _ result' => result'.documentId = result.documentId ∧
        result'.sourceId = result.sourceId ∧ ownerOf context' request' = ownerOf context request) ∧
      ∀ e' ∈ K, ∀ context' request' key' result', e'.label.Ingested context' request' key' result' →
        result'.documentId = result.documentId → ownerOf context' request' = ownerOf context request) H

/-- No earlier request of another owner, under the same scope string, has the key or the URI of the call. -/
def Apart (c : RepositoryConfig F) (K : KnowledgeHistory F) (e : Taken (Repository F) (Entry F)) : Prop :=
  ∀ context request key prepared, e.label.op = .ingest context request key →
    c.probe e.label.env context request key = .ok prepared →
    ∀ e' ∈ K, ∀ context' request' key' result', e'.label.Ingested context' request' key' result' →
      scopeOf context request = scopeOf context' request' →
      key = key' ∨ request.canonicalSourceUri = request'.canonicalSourceUri →
      ownerOf context request = ownerOf context' request'

/-! ## Retries -/

/-- How a submitted body fails. -/
inductive SubmitError where
  | invalid (errors : List FieldError)
  | raised (e : KnowledgeError)

/-- What a body, an idempotency key and its sender ask for. -/
structure Submission where
  context : AuthorizedKnowledgeContext
  body : Json
  key : String

/-- The body, parsed at the time `parsedAt`, and its ingestion. -/
def RepositoryConfig.submit (c : RepositoryConfig F) (R : Readers) (s : Submission) (env : Env F) (parsedAt : Time) :
    EStateM SubmitError (Repository F) IngestResult := fun r =>
  match parseIngestRequest R parsedAt s.body with
  | .error errors => .error (.invalid errors) r
  | .ok request =>
    match (c.ingest env s.context request s.key).run r with
    | .ok result r' => .ok result r'
    | .error e r' => .error (.raised e) r'

/-- The submission fails with the error `e` whenever it is made. -/
def RepositoryConfig.Rejects (c : RepositoryConfig F) (R : Readers) (s : Submission) (e : SubmitError) : Prop :=
  ∀ env parsedAt r, (c.submit R s env parsedAt).run r = .error e r

/-- Where and when a submission is made. -/
structure Occasion (F : Type) where
  env : Env F
  parsedAt : Time
  before : Repository F

def RepositoryConfig.submitted (c : RepositoryConfig F) (R : Readers) (s : Submission) (o : Occasion F) :
    EStateM.Result SubmitError (Repository F) IngestResult :=
  (c.submit R s o.env o.parsedAt).run o.before

/-- The second submission fails as the first one did, for the same input error, or it repeats the answer of the first
    one and stores nothing. -/
def RepositoryConfig.Retried (c : RepositoryConfig F) (R : Readers) (s : Submission) (first second : Occasion F) :
    Prop :=
  (∃ e, c.Rejects R s e) ∨
  ∃ a b, outcome (c.submitted R s first) = .ok a ∧ outcome (c.submitted R s second) = .ok b ∧
    b.sourceId = a.sourceId ∧ b.documentId = a.documentId ∧ b.contentHash = a.contentHash ∧
    b.chunkCount = a.chunkCount ∧ b.idempotentReplay = true ∧
    (final (c.submitted R s second)).documents = second.before.documents ∧
    (final (c.submitted R s second)).chunks = second.before.chunks ∧
    (final (c.submitted R s second)).vectors = second.before.vectors

/-- The body is refused for what it says, its sender or its key. -/
def RepositoryConfig.Refuses (c : RepositoryConfig F) (R : Readers) (s : Submission) (o : Occasion F) : Prop :=
  match parseIngestRequest R o.parsedAt s.body with
  | .error _ => True
  | .ok request => ∃ e, c.probe o.env s.context request s.key = .error e

/-- The key was not used for another request before, and where the text is new its embedding succeeds. -/
def RepositoryConfig.Accepting (c : RepositoryConfig F) (R : Readers) (s : Submission) (o : Occasion F) : Prop :=
  ∃ request prepared, parseIngestRequest R o.parsedAt s.body = .ok request ∧
    c.probe o.env s.context request s.key = .ok prepared ∧
    match o.before.idempotency.get? (scopeOf s.context request, s.key) with
    | some record => record.requestHash = prepared.requestHash
    | none =>
      o.before.contentResults.get? (RepositoryConfig.contentKey (scopeOf s.context request) request
        prepared.document.contentHash) = none →
      ∃ embedded, c.embedChunks o.env prepared.chunks = .ok embedded

/-- The body says when its document was observed. -/
def GivesObservedAt (R : Readers) (body : Json) : Prop :=
  ∃ given, givenFields R body = .ok given ∧ given.observedAt.isSome

/-- The texts of the two payloads have different digests, if they differ. -/
def TextTools.Distinguishes (T : TextTools) (p q : RequestPayload) : Prop :=
  T.sha256 (T.payloadText p) = T.sha256 (T.payloadText q) → p = q

/-- The requests say the same, up to the time that an omitted `observed_at` stands for. -/
def GivenFields.SaySame (given given' : GivenFields) (content content' : String) : Prop :=
  ∃ t t', (given.request t).payload content = (given'.request t').payload content'

/-- After `s` was accepted, another submission under its key and in its scope that says something else conflicts, and
    changes nothing. -/
def RepositoryConfig.RejectsOther (c : RepositoryConfig F) (R : Readers) (s : Submission) (first second : Occasion F) :
    Prop :=
  ∀ (s' : Submission) (given given' : GivenFields) (sanitized sanitized' : SanitizedText),
    c.Accepting R s first → ¬ c.Refuses R s' second →
    givenFields R s.body = .ok given → givenFields R s'.body = .ok given' →
    c.tools.sanitize given.content = .ok sanitized → c.tools.sanitize given'.content = .ok sanitized' →
    s'.key = s.key → scopeOf s'.context (given'.request second.parsedAt) =
      scopeOf s.context (given.request first.parsedAt) →
    ¬ given.SaySame given' sanitized.content sanitized'.content →
    (c.tools.sha256 sanitized.content = c.tools.sha256 sanitized'.content → sanitized.content = sanitized'.content) →
    c.tools.Distinguishes ((given.request first.parsedAt).payload (c.tools.sha256 sanitized.content))
      ((given'.request second.parsedAt).payload (c.tools.sha256 sanitized'.content)) →
    c.submitted R s' second =
      .error (.raised (.conflict "idempotency key was already used with different content")) second.before

/-! ## Observation -/

/-- The chunk is of the caller's tenant, or PUBLIC. -/
def chunkVisible (context : AuthorizedKnowledgeContext) (chunk : KnowledgeChunk) : Bool :=
  ¬ (chunk.visibilityScope = .tenant ∧ chunk.tenantId ≠ some context.tenantId)

/-- The repositories hold the same of what the caller may see. -/
structure SameFor (context : AuthorizedKnowledgeContext) (r₁ r₂ : Repository F) : Prop where
  documents : ∀ k d, documentVisible context d = true → (r₁.documents.get? k = some d ↔ r₂.documents.get? k = some d)
  chunks : r₁.chunks.values.filter (chunkVisible context) = r₂.chunks.values.filter (chunkVisible context)
  vectors : ∀ chunk ∈ r₁.chunks.values, chunkVisible context chunk = true →
    r₁.vectors.get? chunk.chunkId = r₂.vectors.get? chunk.chunkId

/-- The result without what is generated for it. -/
def RetrievalResult.anonymous (result : RetrievalResult F) : RetrievalResult F :=
  { result with
    queryId := ""
    items := result.items.map fun item => { item with evidenceId := "", retrievedAt := 0 }
    trace := { result.trace with queryId := "" } }

/-- The query is ranked by vectors, if there are any. -/
def RepositoryConfig.Semantic (c : RepositoryConfig F) : Prop :=
  ∃ provider, c.provider = some provider ∧ provider.semanticCapable = true

/-! ## Listing -/

/-- A document with the identifier is visible. -/
def Repository.Visible (context : AuthorizedKnowledgeContext) (r : Repository F) (k : String) : Prop :=
  ∃ d, r.documents.get? k = some d ∧ documentVisible context d = true

/-- The calls of the history draw new identifiers. -/
def NewDocuments (H : List (Taken (Listing F) (ListingStep F))) : Prop :=
  ∀ taken ∈ H, ∀ e, taken.label = .write e → newDocument taken.before.repository e

/-- What a listing that began with the documents of `r` has returned. -/
structure Listed (context : AuthorizedKnowledgeContext) (r : Repository F) (s : Listing F) : Prop where
  once : (s.items.map (·.documentId)).Nodup
  visible : ∀ item ∈ s.items, documentVisible context item.toKnowledgeDocument = true
  complete : s.position = .ended → ∀ k d, r.documents.get? k = some d → documentVisible context d = true →
    (s.items.map (·.documentId)).count k = 1

/-- No call of the history adds a visible document that the listing has still to come to. -/
def NothingAhead (context : AuthorizedKnowledgeContext) (H : List (Taken (Listing F) (ListingStep F))) : Prop :=
  ∀ taken ∈ H, ∀ k, ¬ taken.before.position.Passed k → taken.after.repository.Visible context k →
    taken.before.repository.Visible context k

def ListingStep.isPage : ListingStep F → Bool
  | .page _ => true
  | .write _ => false

/-- The listing can go on, until it has ended, and it ends unless documents are added ahead of it. -/
structure Terminates (c : RepositoryConfig F) (context : AuthorizedKnowledgeContext) (s : Listing F) : Prop where
  goesOn : s.position ≠ .ended → context.canManageTenantKnowledge = true → ∀ limit : ℤ, 1 ≤ limit ∧ limit ≤ 100 →
    ∃ s', (c.listing context).step s (.page limit) s'
  ends : ∀ H t, (c.listing context).Trace s H t → NothingAhead context H →
    H.countP (·.label.isPage) ≤ s.repository.documents.entries.length + 1

/-! ## A small repository -/

/-- A manager of the knowledge of a tenant. -/
def manager (tenantId : String) (h : pyStrip tenantId = tenantId)
    (hlength : 1 ≤ tenantId.length ∧ tenantId.length ≤ 128) (roles : List String) : AuthorizedKnowledgeContext where
  tenantId
  actorId := "ann"
  roles
  tenant_stripped := h
  tenant_length := hlength
  actor_stripped := by decide +kernel
  actor_length := by decide +kernel

theorem north_stripped : pyStrip "north" = "north" := by decide +kernel

theorem north_length : 1 ≤ "north".length ∧ "north".length ≤ 128 := by decide +kernel

theorem south_stripped : pyStrip "south" = "south" := by decide +kernel

theorem south_length : 1 ≤ "south".length ∧ "south".length ≤ 128 := by decide +kernel

/-- 2026-07-01T00:00:00Z. -/
def july : Time := 1_782_864_000_000_000

/-- The text of the requests below, which differ in the scope and the time of the observation. -/
def lakeText (observedAt visibilityScope : String) : String :=
  "\x7b\"canonical_source_uri\":\"https://example.org/lake\",\"chunker_version\":\"paragraph-window@1\"," ++
  "\"content_hash\":\"2cf24dba5fb0a30e26e83b2ac5b9e29e1b161e5c1fa7425e73043362938b9824\"," ++
  "\"corpus_revision\":\"r1\",\"geo_entities\":[],\"language\":\"zh-CN\"," ++
  "\"license\":\x7b\"indexing_allowed\":true,\"license_id\":\"cc0\",\"license_url\":null," ++
  "\"retention_days\":null,\"usage_policy\":\"any\"\x7d,\"metadata\":\x7b\x7d,\"observed_at\":\"" ++
  observedAt ++
  "\",\"parser_version\":\"plain-text@1\",\"published_at\":null,\"source_type\":\"guide\"," ++
  "\"source_version\":\"1\",\"tags\":[],\"title\":\"Lake\",\"trust_tier\":\"operator\"," ++
  "\"valid_from\":null,\"valid_until\":null,\"visibility_scope\":\"" ++
  visibilityScope ++ "\"\x7d"

/-- The digests of the texts below. -/
def lakeDigest (text : String) : String :=
  if text = "hello" then "2cf24dba5fb0a30e26e83b2ac5b9e29e1b161e5c1fa7425e73043362938b9824"
  else if text = lakeText "2026-07-01T00:00:00Z" "public" then
    "624acdc28f51a88761642f3ce2d2f3a8b4d388132bad3868b4b153a87fb30807"
  else if text = lakeText "2026-07-01T00:00:00Z" "tenant" then
    "8c4c68719431af3b024ecef7d40dbd3d5507d4c24bd0915e56a6b9cec219232c"
  else if text = lakeText "2026-07-01T00:00:01Z" "tenant" then
    "e8591d79c6b840b28dcf4889ff93c10857ca24690554d50cf3de4c8893eb86c1"
  else text

/-- The tools, on texts of one lowercase word. -/
def wordTools : TextTools where
  sanitize content := .ok { content, injectionSuspected := false }
  tokenizerVersion := "routepilot-cjk-bigram@1"
  tokenize content := [content]
  split content := .ok [content]
  sha256 := lakeDigest
  payloadText payload :=
    lakeText (if payload.observedAt = july then "2026-07-01T00:00:00Z" else "2026-07-01T00:00:01Z")
      (if payload.visibilityScope = .public_ then "public" else "tenant")
  commandText command :=
    "\x7b\"target_status\":\"" ++
    (match command.targetStatus with
      | .published => "published"
      | .quarantined => "quarantined"
      | .tombstoned => "tombstoned") ++
    "\",\"expected_version\":" ++ toString command.expectedVersion ++ ",\"reason\":" ++
    (match command.reason with
      | none => "null"
      | some reason => "\"" ++ reason ++ "\"") ++ "\x7d"

/-- A repository without embeddings. -/
def plainRepository : RepositoryConfig ℕ where
  tools := wordTools
  provider := none

/-- The identifiers of a call. -/
def callEnv (now : Time) (name : Char) : Env ℕ where
  now
  newSourceId := String.ofList ['s', name]
  newDocumentId := String.ofList ['d', name]
  newChunkId n := String.ofList (name :: List.replicate n 'x')
  embedded := .ok []

def lakeRequest (v : VisibilityScope) (observedAt : Time) : IngestDocumentRequest where
  canonicalSourceUri := "https://example.org/lake"
  sourceType := "guide"
  sourceVersion := "1"
  title := "Lake"
  content := "hello"
  visibilityScope := v
  observedAt
  corpusRevision := "r1"
  trustTier := .operator
  license := { licenseId := "cc0", usagePolicy := "any" }

/-- A call of the small repository. -/
def called (r : Repository ℕ) (env : Env ℕ) (op : KnowledgeOp) : Entry ℕ where
  env
  op
  result := outcome ((plainRepository.call env op).run r)

def calledState (r : Repository ℕ) (env : Env ℕ) (op : KnowledgeOp) : Repository ℕ :=
  final ((plainRepository.call env op).run r)

/-- A history of two calls. -/
def twoCalls (env env' : Env ℕ) (op op' : KnowledgeOp) : KnowledgeHistory ℕ :=
  let r := calledState {} env op
  [⟨{}, called {} env op, r⟩, ⟨r, called r env' op', calledState r env' op'⟩]

def afterTwo (env env' : Env ℕ) (op op' : KnowledgeOp) : Repository ℕ := calledState (calledState {} env op) env' op'

/-- A PUBLIC text about the lake. -/
def publishLake : KnowledgeOp :=
  .ingest (manager "acme" (by decide +kernel) (by decide +kernel) ["admin"]) (lakeRequest .public_ july) "publish-1"

/-- A TENANT text about the lake. -/
def keepLake (context : AuthorizedKnowledgeContext) : KnowledgeOp :=
  .ingest context (lakeRequest .tenant july) "private-1"

end RoutePilot.Knowledge
