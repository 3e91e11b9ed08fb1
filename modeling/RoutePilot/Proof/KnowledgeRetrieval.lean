/-
  What a retrieval observes.

  A chunk of another tenant is not eligible, so that the rankings, their fusion and the
  result depend on what the caller may see (`retrieve_congr`), but for one thing: whether
  the repository holds any vector at all decides the mode of a semantic retrieval.
-/
import Mathlib.Algebra.Field.Rat
import Mathlib.Algebra.Order.Ring.Unbundled.Rat
import RoutePilot.Knowledge.Specs
import RoutePilot.Spec.Knowledge

namespace RoutePilot.Knowledge

open Lib Lts

variable {F : Type} {c : RepositoryConfig F}

/-! ## Repositories -/

/-- A chunk is of its document. -/
def Repository.WellFormed (r : Repository F) : Prop :=
  ∀ k chunk, r.chunks.get? k = some chunk → ∃ d, r.documents.get? chunk.documentId = some d ∧
    d.visibilityScope = chunk.visibilityScope ∧ d.tenantId = chunk.tenantId

theorem wellFormed_stored {r : Repository F} (h : r.WellFormed) {env : Env F} {tenantId : String}
    {request : IngestDocumentRequest} {sourceId contentHash : String} {suspected : Bool} {count : ℕ}
    {prepared : PreparedIngestion} {vectors : List (List F)} {T : TextTools}
    (hof : prepared.Of T env tenantId request sourceId contentHash suspected count)
    (hfresh : r.documents.get? env.newDocumentId = none) :
    (RepositoryConfig.stored prepared vectors r).WellFormed := by
  have hid : prepared.document.documentId = env.newDocumentId := by
    rw [hof.document]
    rfl
  intro k chunk hchunk
  show ∃ d, (r.documents.set prepared.document.documentId prepared.document).get? chunk.documentId = some d ∧ _
  obtain hold | hnew := Dict.get?_setAll hchunk
  · obtain ⟨d, hd, hrest⟩ := h k chunk hold
    refine ⟨d, (Dict.get?_set_ne _ ?_ _).trans hd, hrest⟩
    intro heq
    rw [heq, hid, hfresh] at hd
    cases hd
  · obtain ⟨chunk', hmem, heq⟩ := List.mem_map.1 hnew
    cases heq
    have hchunk := hof.chunks _ hmem
    refine ⟨prepared.document, ?_, ?_⟩
    · rw [hchunk.document, ← hid]
      exact Dict.get?_set_self ..
    · rw [hof.document, hchunk.scope, hchunk.tenant]
      exact ⟨rfl, rfl⟩

theorem wellFormed_step {r r' : Repository F} (h : r.WellFormed) {e : Entry F} (hfresh : e.Fresh r)
    (hstep : c.knowledge.step r e r') : r'.WellFormed := by
  obtain ⟨-, hfinal⟩ := hstep
  cases hop : e.op with
  | ingest context request key =>
    rw [hop, RepositoryConfig.call, final_map] at hfinal
    have hcases := c.ingest_cases e.env context request key r
    rw [← hfinal] at hcases
    generalize outcome ((c.ingest e.env context request key).run r) = out at hcases
    cases hcases with
    | refused => exact h
    | conflict => exact h
    | replayed => exact h
    | unembedded => exact h
    | known => exact h
    | new probed prepared vectors vectorStatus hprobe _ _ hprepared =>
      obtain ⟨message, hbad⟩ | ⟨sanitized, count, -, hgood⟩ := prepareIngestion_cases (F := F) c.tools request
      · cases (hbad e.env context.tenantId request _ (.refl request)).symm.trans hprepared
      · obtain ⟨q, hq, hof⟩ := hgood e.env context.tenantId request _ (.refl request)
        cases hq.symm.trans hprepared
        have hstored : (RepositoryConfig.stored prepared vectors r).WellFormed :=
          wellFormed_stored h hof hfresh.document
        exact hstored
  | changeStatus context documentId command key =>
    rw [hop, RepositoryConfig.call, final_map] at hfinal
    have hcases := c.changeDocumentStatus_cases e.env.now context documentId command key r
    rw [← hfinal] at hcases
    generalize outcome ((c.changeDocumentStatus e.env.now context documentId command key).run r) = out at hcases
    cases hcases with
    | unchecked => exact h
    | unmanageable => exact h
    | conflict => exact h
    | replayed => exact h
    | outdated => exact h
    | new document _ hdocument =>
      intro k chunk hchunk
      obtain ⟨d, hd, hscope, htenant⟩ := h k chunk hchunk
      have hget := get?_changed r documentId document command e.env.now (manageable_ok hdocument).1 chunk.documentId
      by_cases hk : chunk.documentId = documentId
      · rw [hk, (manageable_ok hdocument).1] at hd
        cases hd
        refine ⟨_, hget.trans (if_pos hk), ?_⟩
        obtain ⟨status, reason, version, updatedAt, hframe⟩ := commanded_frame document command e.env.now
        rw [hframe]
        exact ⟨hscope, htenant⟩
      · exact ⟨d, (hget.trans (if_neg hk)).trans hd, hscope, htenant⟩

theorem wellFormed_of_trace {r : Repository F} {H : KnowledgeHistory F} (hrun : c.knowledge.Trace {} H r)
    (hfresh : ∀ e ∈ H, e.label.Fresh e.before) : r.WellFormed := by
  refine hrun.invariant (I := fun u K => (∀ e ∈ K, e.label.Fresh e.before) → u.WellFormed) ?_ ?_ hfresh
  · intro _ k chunk h
    cases h
  · intro u e u' K ih hstep hfresh
    refine wellFormed_step (ih fun e' he' => hfresh e' (List.mem_append_left _ he')) ?_ hstep
    exact hfresh _ (List.mem_append_right _ (List.mem_singleton_self _))

/-! ## What is eligible -/

section
variable {context : AuthorizedKnowledgeContext} {query : ResearchQuery F} {r r₁ r₂ : Repository F}

theorem visible_of_eligible {chunk : KnowledgeChunk} (h : c.eligible context query chunk = true) :
    chunkVisible context chunk = true := by
  unfold RepositoryConfig.eligible at h
  unfold chunkVisible
  simp only [decide_eq_true_eq, Bool.decide_and, Bool.and_eq_true] at h ⊢
  exact h.1

/-- A document of a visible chunk is visible. -/
theorem documentVisible_of_chunk {chunk : KnowledgeChunk} {d : KnowledgeDocument}
    (h : chunkVisible context chunk = true) (hscope : d.visibilityScope = chunk.visibilityScope)
    (htenant : d.tenantId = chunk.tenantId) :
    documentVisible context d = true := by
  unfold chunkVisible at h
  unfold documentVisible
  rw [hscope, htenant]
  cases hv : chunk.visibilityScope with
  | public_ => simp
  | tenant => simpa [hv] using h

theorem publishes_congr (h₁ : r₁.WellFormed) (h : SameFor context r₁ r₂) {chunk : KnowledgeChunk}
    (hchunk : chunk ∈ r₁.chunks.values) (hvisible : chunkVisible context chunk = true) :
    r₁.publishes chunk = r₂.publishes chunk := by
  obtain ⟨k, hk⟩ := Dict.exists_get?_of_mem_values hchunk
  obtain ⟨d, hd, hscope, htenant⟩ := h₁ k chunk hk
  have hd' := (h.documents _ d (documentVisible_of_chunk hvisible hscope htenant)).1 hd
  unfold Repository.publishes
  rw [hd, hd']

/-- The eligible chunks are the same. -/
theorem eligibleChunks_congr (h₁ : r₁.WellFormed) (h : SameFor context r₁ r₂) :
    c.eligibleChunks context query r₁ = c.eligibleChunks context query r₂ := by
  have hfilter : ∀ r : Repository F, c.eligibleChunks context query r =
      (r.chunks.values.filter (chunkVisible context)).filter fun chunk =>
        r.publishes chunk ∧ c.eligible context query chunk := by
    intro r
    unfold RepositoryConfig.eligibleChunks
    rw [List.filter_filter]
    refine List.filter_congr fun chunk _ => ?_
    cases heligible : c.eligible context query chunk with
    | false => simp
    | true => simp [visible_of_eligible heligible]
  rw [hfilter, hfilter, ← h.chunks]
  refine List.filter_congr fun chunk hchunk => ?_
  obtain ⟨hmem, hvisible⟩ := List.mem_filter.1 hchunk
  rw [publishes_congr h₁ h hmem hvisible]

theorem mem_eligibleChunks {chunk : KnowledgeChunk} (h : chunk ∈ c.eligibleChunks context query r) :
    chunk ∈ r.chunks.values ∧ chunkVisible context chunk = true := by
  obtain ⟨hmem, heligible⟩ := List.mem_filter.1 h
  simp only [decide_eq_true_eq, Bool.decide_and, Bool.and_eq_true] at heligible
  exact ⟨hmem, visible_of_eligible heligible.2⟩

end

/-! ## What is returned -/

section
variable [LinearOrder F] [Zero F] {K : Ranking F} {context : AuthorizedKnowledgeContext} {query : ResearchQuery F}
  {r₁ r₂ : Repository F}

theorem vectorScored_congr (queryVector : List F) {vectors₁ vectors₂ : String → Option (List F)}
    {eligible : List KnowledgeChunk} (h : ∀ chunk ∈ eligible, vectors₁ chunk.chunkId = vectors₂ chunk.chunkId) :
    vectorScored K queryVector vectors₁ eligible = vectorScored K queryVector vectors₂ eligible := by
  unfold vectorScored
  congr 1
  refine List.filterMap_congr fun chunk hchunk => ?_
  rw [h chunk hchunk]

/-- The ranking by vectors depends on what is visible, and on whether there are vectors. -/
theorem rankVectors_congr (h : SameFor context r₁ r₂)
    (hempty : c.Semantic → (r₁.vectors.entries = [] ↔ r₂.vectors.entries = [])) :
    c.rankVectors K query (c.eligibleChunks context query r₁) r₁ =
      c.rankVectors K query (c.eligibleChunks context query r₁) r₂ := by
  unfold RepositoryConfig.rankVectors
  cases hprovider : c.provider with
  | none => rfl
  | some provider =>
    cases hsemantic : provider.semanticCapable with
    | false => simp only [hsemantic, if_true]
    | true =>
      have hiff := hempty ⟨provider, hprovider, hsemantic⟩
      simp only [hsemantic, List.isEmpty_iff, reduceCtorEq, if_false]
      by_cases h₁ : r₁.vectors.entries = []
      · rw [if_pos h₁, if_pos (hiff.1 h₁)]
      · rw [if_neg h₁, if_neg (hiff.not.1 h₁)]
        have hscored : ∀ queryVector, vectorScored K queryVector r₁.vectors.get? (c.eligibleChunks context query r₁) =
            vectorScored K queryVector r₂.vectors.get? (c.eligibleChunks context query r₁) := fun queryVector =>
          vectorScored_congr queryVector fun chunk hchunk =>
            h.vectors chunk (mem_eligibleChunks hchunk).1 (mem_eligibleChunks hchunk).2
        simp only [hscored]

theorem rankVectors_unavailable {provider : EmbeddingProvider F} (hprovider : c.provider = some provider)
    (hsemantic : provider.semanticCapable = true) {eligible : List KnowledgeChunk} {r : Repository F} :
    (c.rankVectors K query eligible r).map (·.2) = .ok .unavailable ↔ r.vectors.entries = [] := by
  unfold RepositoryConfig.rankVectors
  simp only [hprovider, hsemantic, List.isEmpty_iff, reduceCtorEq, if_false]
  by_cases hempty : r.vectors.entries = []
  · rw [if_pos hempty]
    exact iff_of_true rfl hempty
  · rw [if_neg hempty]
    refine iff_of_false (fun h => ?_) hempty
    cases hvalid : provider.validateEmbedding (provider.embedQuery query.query) with
    | error e =>
      rw [hvalid] at h
      cases h
    | ok v =>
      rw [hvalid] at h
      cases h

variable [One F] [Add F] [Div F] [NatCast F]

/-- What is returned does not depend on what is generated for it. -/
theorem anonymous_congr (env₁ env₂ : RetrieveEnv) (lexical vector : List (KnowledgeChunk × F)) (status : VectorStatus) :
    (c.retrievalResult K env₁ query lexical vector status).anonymous =
      (c.retrievalResult K env₂ query lexical vector status).anonymous := by
  unfold RepositoryConfig.retrievalResult RetrievalResult.anonymous
  simp only [List.map_map, List.length_map]
  congr 1

omit [LinearOrder F] [Zero F] [One F] [Add F] [Div F] [NatCast F] in
theorem map_anonymous_status (x : Except KnowledgeError (RetrievalResult F)) :
    (x.map (·.anonymous)).map (·.trace.vectorStatus) = x.map (·.anonymous.trace.vectorStatus) := by
  cases x <;> rfl

/-- A retrieval says whether it used vectors. -/
theorem retrieve_status (env : RetrieveEnv) (r : Repository F) :
    (c.retrieve K env context query r).map (·.anonymous.trace.vectorStatus) =
      (c.rankVectors K query (c.eligibleChunks context query r) r).map (·.2) := by
  unfold RepositoryConfig.retrieve
  dsimp only
  cases c.rankVectors K query (c.eligibleChunks context query r) r <;> rfl

/-- **Observation.**  Where two repositories hold the same of what the caller may see, a query is answered alike exactly
    if it is not semantic, or both hold vectors, or neither does. -/
theorem retrieve_alike_iff {H₁ : KnowledgeHistory F} (hrun₁ : c.knowledge.Trace {} H₁ r₁)
    (hfresh₁ : ∀ e ∈ H₁, e.label.Fresh e.before) (h : SameFor context r₁ r₂) (env₁ env₂ : RetrieveEnv) :
    (c.retrieve K env₁ context query r₁).map (·.anonymous) = (c.retrieve K env₂ context query r₂).map (·.anonymous) ↔
      (c.Semantic → (r₁.vectors.entries = [] ↔ r₂.vectors.entries = [])) := by
  constructor
  · rintro hsame ⟨provider, hprovider, hsemantic⟩
    have hstatus : (c.rankVectors K query (c.eligibleChunks context query r₁) r₁).map (·.2) =
        (c.rankVectors K query (c.eligibleChunks context query r₂) r₂).map (·.2) := by
      rw [← retrieve_status env₁, ← retrieve_status env₂, ← map_anonymous_status, ← map_anonymous_status, hsame]
    rw [← rankVectors_unavailable hprovider hsemantic, hstatus, rankVectors_unavailable hprovider hsemantic]
  · intro hempty
    unfold RepositoryConfig.retrieve
    dsimp only
    rw [← eligibleChunks_congr (wellFormed_of_trace hrun₁ hfresh₁) h, rankVectors_congr h hempty]
    cases c.rankVectors K query (c.eligibleChunks context query r₁) r₂ with
    | error e => rfl
    | ok ranked => exact congrArg Except.ok (anonymous_congr env₁ env₂ _ _ _)

end

/-! ## The vectors of another tenant -/

/-- A repository with embeddings. -/
def vectorRepository : RepositoryConfig ℚ where
  tools := wordTools
  provider := some {
    modelVersion := "embedding@1"
    dimension := 2
    semanticCapable := true
    isFinite := fun _ => true
    embedQuery := fun _ => [1, 0] }

/-- `RRF_LEXICAL_WEIGHT` and `RRF_VECTOR_WEIGHT`. -/
def rrfRanking : Ranking ℚ where
  rrfLexicalWeight := 45 / 100
  rrfVectorWeight := 55 / 100
  cosineSimilarity v w := (List.zipWith (· * ·) v w).sum

def northEntry : Entry ℚ :=
  let env : Env ℚ := {
    now := july
    newSourceId := "s"
    newDocumentId := "d"
    newChunkId := fun n => String.ofList (List.replicate n 'x')
    embedded := .ok [[1, 0]] }
  let op := keepLake (manager "north" north_stripped north_length ["tenant_admin"])
  ⟨env, op, outcome ((vectorRepository.call env op).run {})⟩

/-- After an ingestion of the tenant `north`. -/
def northRepository : Repository ℚ := final ((vectorRepository.call northEntry.env northEntry.op).run {})

def south : AuthorizedKnowledgeContext := manager "south" south_stripped south_length []

def lakeQuery : ResearchQuery ℚ where
  query := "hello"
  corpusRevision := "r1"
  filters := { validAt := july }
  scoreThreshold := 1 / 100
  topK_le := by decide

/-- A call of `south`. -/
def southEnv : RetrieveEnv := ⟨"q", fun _ => "e", fun _ => july⟩

theorem trace_north : vectorRepository.knowledge.Trace {} [⟨{}, northEntry, northRepository⟩] northRepository :=
  .cons ⟨rfl, rfl⟩ (.nil _)

theorem sameFor_south : SameFor south ({} : Repository ℚ) northRepository := by
  have hdocuments : northRepository.documents.entries.all fun e =>
    documentVisible south e.2 = false := by decide +kernel
  have hchunks : (northRepository.chunks.values.filter (chunkVisible south)).isEmpty = true := by decide +kernel
  refine ⟨fun k d hvisible => ⟨fun h => (by cases h), fun h => ?_⟩, ?_, fun chunk h => absurd h List.not_mem_nil⟩
  · have hhidden := List.all_eq_true.1 hdocuments _ (Dict.mem_entries_of_get? h)
    rw [decide_eq_true_eq, hvisible] at hhidden
    cases hhidden
  · exact (List.isEmpty_iff.1 hchunks).symm

/-- The tenant `south` is told whether `north` has stored vectors. -/
theorem retrieve_observes_other_tenant : ¬ ∀ (H₁ H₂ : KnowledgeHistory ℚ) (r₁ r₂ : Repository ℚ),
    vectorRepository.knowledge.Trace {} H₁ r₁ → (∀ e ∈ H₁, e.label.Fresh e.before) →
    vectorRepository.knowledge.Trace {} H₂ r₂ → (∀ e ∈ H₂, e.label.Fresh e.before) → SameFor south r₁ r₂ →
    ∀ env₁ env₂, (vectorRepository.retrieve rrfRanking env₁ south lakeQuery r₁).map (·.anonymous) =
      (vectorRepository.retrieve rrfRanking env₂ south lakeQuery r₂).map (·.anonymous) := by
  intro h
  have hfresh : northEntry.Fresh {} := by
    refine ⟨rfl, (fun k d h => by cases h), fun _ => rfl, fun n m h => ?_⟩
    have := congrArg List.length (String.ofList_injective h)
    simpa using this
  have hsame := h [] _ {} northRepository (.nil _) (fun e he => absurd he List.not_mem_nil) trace_north
    (fun e he => by rw [List.mem_singleton.1 he]; exact hfresh) sameFor_south southEnv southEnv
  have hstatus : (vectorRepository.rankVectors rrfRanking lakeQuery
      (vectorRepository.eligibleChunks south lakeQuery {}) {}).map (·.2) = .ok .unavailable := rfl
  rw [← retrieve_status southEnv] at hstatus
  rw [← map_anonymous_status, hsame, map_anonymous_status, retrieve_status, rankVectors_unavailable rfl rfl] at hstatus
  have hvectors : northRepository.vectors.entries.isEmpty = false := by decide +kernel
  rw [hstatus] at hvectors
  cases hvectors

theorem retrieve_alike_iff_south :
    (vectorRepository.retrieve rrfRanking southEnv south lakeQuery {}).map (·.anonymous) =
        (vectorRepository.retrieve rrfRanking southEnv south lakeQuery northRepository).map (·.anonymous) ↔
      (vectorRepository.Semantic → (([] : List (String × List ℚ)) = [] ↔ northRepository.vectors.entries = [])) :=
  retrieve_alike_iff (.nil _) (fun _ he => absurd he List.not_mem_nil) sameFor_south southEnv southEnv

end RoutePilot.Knowledge
