/-
  Ingested knowledge stays in its scope.

  The three tables of an ingestion are keyed by a scope string, which a tenant of the
  name `__public__` shares with the PUBLIC scope.  Where no two owners meet under one
  string (`Apart`), every entry of the tables comes from an earlier call of the owner
  that finds it (`ScopeInv`).
-/
import RoutePilot.Knowledge.Specs
import RoutePilot.Spec.Knowledge

namespace RoutePilot.Knowledge

open Lib Lts

variable {F : Type}

/-! ## Owners -/

theorem persistedTenant_inj {t t' : String} {v v' : VisibilityScope}
    (h : persistedTenant t v = persistedTenant t' v') : v = v' := by
  cases v <;> cases v' <;> first | rfl | cases h

namespace Earlier
variable {K : KnowledgeHistory F}
  {P Q : AuthorizedKnowledgeContext → IngestDocumentRequest → String → IngestResult → Prop}

theorem mono (h : Earlier K P) (e : Taken (Repository F) (Entry F)) : Earlier (K ++ [e]) P := by
  obtain ⟨e', he', h⟩ := h
  exact ⟨e', List.mem_append_left _ he', h⟩

theorem imp (h : Earlier K P) (himp : ∀ context request key result, P context request key result →
    Q context request key result) : Earlier K Q := by
  obtain ⟨e, he, context, request, key, result, hing, hP⟩ := h
  exact ⟨e, he, context, request, key, result, hing, himp _ _ _ _ hP⟩

theorem last {e : Taken (Repository F) (Entry F)} {context : AuthorizedKnowledgeContext}
    {request : IngestDocumentRequest} {key : String} {result : IngestResult}
    (h : e.label.Ingested context request key result) (hP : P context request key result) : Earlier (K ++ [e]) P :=
  ⟨e, List.mem_append_right _ (List.mem_singleton_self e), context, request, key, result, h, hP⟩

end Earlier

/-! ## Invariant -/

/-- A document of the given owner. -/
def Repository.Owned (r : Repository F) (documentId sourceId : String) (v : VisibilityScope) (owner : Option String) :
    Prop :=
  ∃ d, r.documents.get? documentId = some d ∧ d.sourceId = sourceId ∧ d.visibilityScope = v ∧ d.tenantId = owner

/-- The tables come from the history. -/
structure ScopeInv (r : Repository F) (K : KnowledgeHistory F) : Prop where
  stored : ∀ e ∈ K, ∀ context request key result, e.label.Ingested context request key result →
    r.Owned result.documentId result.sourceId request.visibilityScope (ownerOf context request)
  sources : ∀ k d k' d', r.documents.get? k = some d → r.documents.get? k' = some d' → d.sourceId = d'.sourceId →
    d.visibilityScope = d'.visibilityScope ∧ d.tenantId = d'.tenantId
  idempotency : ∀ scope key record, r.idempotency.get? (scope, key) = some record →
    Earlier K fun context request key' result => scopeOf context request = scope ∧ key' = key ∧
      record.result.documentId = result.documentId ∧ record.result.sourceId = result.sourceId
  content : ∀ scope uri rest found, r.contentResults.get? (scope, uri, rest) = some found →
    Earlier K fun context request _ result => scopeOf context request = scope ∧ request.canonicalSourceUri = uri ∧
      found.documentId = result.documentId ∧ found.sourceId = result.sourceId
  source : ∀ scope uri sourceId, r.sourcesByScopeUri.get? (scope, uri) = some sourceId →
    Earlier K fun context request _ result => scopeOf context request = scope ∧ request.canonicalSourceUri = uri ∧
      result.sourceId = sourceId

namespace ScopeInv
variable {r : Repository F} {K : KnowledgeHistory F} {e : Taken (Repository F) (Entry F)}

theorem init : ScopeInv ({} : Repository F) [] where
  stored e he := absurd he List.not_mem_nil
  sources k d k' d' h := by cases h
  idempotency scope key record h := by cases h
  content scope uri rest found h := by cases h
  source scope uri sourceId h := by cases h

/-- A call that returns nothing of an ingestion, and changes no table and no owner. -/
theorem step_other {r' : Repository F} (h : ScopeInv r K)
    (hother : ∀ context request key result, ¬ e.label.Ingested context request key result)
    (hdocuments : ∀ k d', r'.documents.get? k = some d' → ∃ d, r.documents.get? k = some d ∧
      d.sourceId = d'.sourceId ∧ d.visibilityScope = d'.visibilityScope ∧ d.tenantId = d'.tenantId)
    (hkept : ∀ k sourceId v owner, r.Owned k sourceId v owner → r'.Owned k sourceId v owner)
    (hidempotency : r'.idempotency = r.idempotency) (hcontent : r'.contentResults = r.contentResults)
    (hsource : r'.sourcesByScopeUri = r.sourcesByScopeUri) : ScopeInv r' (K ++ [e]) where
  stored e' he' context request key result hing := by
    obtain he' | he' := List.mem_append.1 he'
    · exact hkept _ _ _ _ (h.stored e' he' context request key result hing)
    · cases List.mem_singleton.1 he'
      exact absurd hing (hother _ _ _ _)
  sources k d k' d' hd hd' hsame := by
    obtain ⟨d₀, h₀, hs₀, hv₀, ht₀⟩ := hdocuments k d hd
    obtain ⟨d₁, h₁, hs₁, hv₁, ht₁⟩ := hdocuments k' d' hd'
    have := h.sources k d₀ k' d₁ h₀ h₁ (hs₀.trans (hsame.trans hs₁.symm))
    exact ⟨hv₀.symm.trans (this.1.trans hv₁), ht₀.symm.trans (this.2.trans ht₁)⟩
  idempotency scope key record hrec := (h.idempotency scope key record (hidempotency ▸ hrec)).mono e
  content scope uri rest found hfound := (h.content scope uri rest found (hcontent ▸ hfound)).mono e
  source scope uri sourceId hfound := (h.source scope uri sourceId (hsource ▸ hfound)).mono e

/-- A call that returns what was returned to its owner before. -/
theorem step_replay {r' : Repository F} {context : AuthorizedKnowledgeContext} {request : IngestDocumentRequest}
    {key : String} {result : IngestResult} (h : ScopeInv r K) (hing : e.label.Ingested context request key result)
    (howned : r.Owned result.documentId result.sourceId request.visibilityScope (ownerOf context request))
    (hdocuments : r'.documents = r.documents)
    (hidempotency : ∀ k record, r'.idempotency.get? k = some record → r.idempotency.get? k = some record ∨
      k = (scopeOf context request, key) ∧ record.result.documentId = result.documentId ∧
        record.result.sourceId = result.sourceId)
    (hcontent : r'.contentResults = r.contentResults) (hsource : r'.sourcesByScopeUri = r.sourcesByScopeUri) :
    ScopeInv r' (K ++ [e]) where
  stored e' he' context' request' key' result' hing' := by
    unfold Repository.Owned
    rw [hdocuments]
    obtain he' | he' := List.mem_append.1 he'
    · exact h.stored e' he' context' request' key' result' hing'
    · cases List.mem_singleton.1 he'
      obtain ⟨hop, hres⟩ := hing'
      rw [hing.op] at hop
      rw [hing.result] at hres
      cases hop
      cases hres
      exact howned
  sources := by
    rw [hdocuments]
    exact h.sources
  idempotency scope key' record hrec := by
    obtain hrec | ⟨hk, hdoc, hsrc⟩ := hidempotency _ record hrec
    · exact (h.idempotency scope key' record hrec).mono e
    · cases hk
      exact .last hing ⟨rfl, rfl, hdoc, hsrc⟩
  content scope uri rest found hfound := (h.content scope uri rest found (hcontent ▸ hfound)).mono e
  source scope uri sourceId hfound := (h.source scope uri sourceId (hsource ▸ hfound)).mono e

/-- A call that stores a new document, under a source of its owner or a new one. -/
theorem step_new {r' : Repository F} {context : AuthorizedKnowledgeContext} {request : IngestDocumentRequest}
    {key : String} {result : IngestResult} (document : KnowledgeDocument) {contentHash : String × String × String}
    (h : ScopeInv r K) (hing : e.label.Ingested context request key result)
    (hfresh : r.documents.get? result.documentId = none)
    (hscope : document.visibilityScope = request.visibilityScope) (howner : document.tenantId = ownerOf context request)
    (hsource : document.sourceId = result.sourceId)
    (hshared : ∀ k d, r.documents.get? k = some d → d.sourceId = result.sourceId →
      d.visibilityScope = request.visibilityScope ∧ d.tenantId = ownerOf context request)
    (hdocuments : r'.documents = r.documents.set result.documentId document)
    (hidempotency : ∃ hash, r'.idempotency = r.idempotency.set (scopeOf context request, key) ⟨hash, result⟩)
    (hcontent : r'.contentResults =
      r.contentResults.set (scopeOf context request, request.canonicalSourceUri, contentHash) result)
    (hsources : r'.sourcesByScopeUri =
      r.sourcesByScopeUri.set (scopeOf context request, request.canonicalSourceUri) result.sourceId) :
    ScopeInv r' (K ++ [e]) where
  stored e' he' context' request' key' result' hing' := by
    unfold Repository.Owned
    rw [hdocuments]
    obtain he' | he' := List.mem_append.1 he'
    · obtain ⟨d, hd, hrest⟩ := h.stored e' he' context' request' key' result' hing'
      refine ⟨d, ?_, hrest⟩
      rw [Dict.get?_set_ne _ fun heq => by rw [heq, hfresh] at hd; cases hd]
      exact hd
    · cases List.mem_singleton.1 he'
      obtain ⟨hop, hres⟩ := hing'
      rw [hing.op] at hop
      rw [hing.result] at hres
      cases hop
      cases hres
      exact ⟨document, Dict.get?_set_self .., hsource, hscope, howner⟩
  sources k d k' d' hd hd' hsame := by
    rw [hdocuments, Dict.get?_set] at hd hd'
    split at hd
    · cases hd
      split at hd'
      · cases hd'
        exact ⟨rfl, rfl⟩
      · obtain ⟨hv, ht⟩ := hshared k' d' hd' (hsame.symm.trans hsource)
        exact ⟨hscope.trans hv.symm, howner.trans ht.symm⟩
    · split at hd'
      · cases hd'
        obtain ⟨hv, ht⟩ := hshared k d hd (hsame.trans hsource)
        exact ⟨hv.trans hscope.symm, ht.trans howner.symm⟩
      · exact h.sources k d k' d' hd hd' hsame
  idempotency scope key' record hrec := by
    obtain ⟨hash, hset⟩ := hidempotency
    rw [hset, Dict.get?_set] at hrec
    split at hrec
    · next hk =>
      cases hk
      cases hrec
      exact .last hing ⟨rfl, rfl, rfl, rfl⟩
    · exact (h.idempotency scope key' record hrec).mono e
  content scope uri rest found hfound := by
    rw [hcontent, Dict.get?_set] at hfound
    split at hfound
    · next hk =>
      cases hk
      cases hfound
      exact .last hing ⟨rfl, rfl, rfl, rfl⟩
    · exact (h.content scope uri rest found hfound).mono e
  source scope uri sourceId hfound := by
    rw [hsources, Dict.get?_set] at hfound
    split at hfound
    · next hk =>
      cases hk
      cases hfound
      exact .last hing ⟨rfl, rfl, rfl⟩
    · exact (h.source scope uri sourceId hfound).mono e

end ScopeInv

/-! ## Steps -/

namespace RepositoryConfig
variable (c : RepositoryConfig F) {r r' : Repository F} {K : KnowledgeHistory F}

/-- What an earlier call of the same key or URI returned is of the owner of the call. -/
theorem owned_of_apart (h : ScopeInv r K) {e : Taken (Repository F) (Entry F)} (hapart : Apart c K e)
    {context : AuthorizedKnowledgeContext} {request : IngestDocumentRequest} {key : String}
    {prepared : PreparedIngestion} (hop : e.label.op = .ingest context request key)
    (hprobe : c.probe e.label.env context request key = .ok prepared) {documentId sourceId : String}
    (hearlier : Earlier K fun context' request' key' result => scopeOf context' request' = scopeOf context request ∧
      (key = key' ∨ request.canonicalSourceUri = request'.canonicalSourceUri) ∧
      documentId = result.documentId ∧ sourceId = result.sourceId) :
    r.Owned documentId sourceId request.visibilityScope (ownerOf context request) := by
  obtain ⟨e', he', context', request', key', result, hing, hscope, hmeet, rfl, rfl⟩ := hearlier
  have howner :=
    hapart context request key prepared hop hprobe e' he' context' request' key' result hing hscope.symm hmeet
  rw [persistedTenant_inj howner, howner]
  exact h.stored e' he' context' request' key' result hing

/-- The source of a new document is of the owner of the call. -/
theorem source_of_apart (h : ScopeInv r K) {e : Taken (Repository F) (Entry F)} (hapart : Apart c K e)
    (hfresh : e.label.Fresh r) {context : AuthorizedKnowledgeContext} {request : IngestDocumentRequest} {key : String}
    {prepared : PreparedIngestion} (hop : e.label.op = .ingest context request key)
    (hprobe : c.probe e.label.env context request key = .ok prepared) (k : String) (d : KnowledgeDocument)
    (hd : r.documents.get? k = some d)
    (hsource : d.sourceId = (r.sourcesByScopeUri.get?
      (scopeKey context.tenantId request.visibilityScope, request.canonicalSourceUri)).getD e.label.env.newSourceId) :
    d.visibilityScope = request.visibilityScope ∧ d.tenantId = ownerOf context request := by
  cases hfound : r.sourcesByScopeUri.get?
      (scopeKey context.tenantId request.visibilityScope, request.canonicalSourceUri) with
  | none =>
    rw [hfound] at hsource
    exact absurd hsource (hfresh.source k d hd)
  | some sourceId =>
    rw [hfound] at hsource
    obtain ⟨e', he', context', request', key', result, hing, hscope, huri, hres⟩ := h.source _ _ _ hfound
    have howner :=
      hapart context request key prepared hop hprobe e' he' context' request' key' result hing hscope.symm
        (.inr huri.symm)
    obtain ⟨d', hd', hs', hv', ht'⟩ := h.stored e' he' context' request' key' result hing
    obtain ⟨hv, ht⟩ := h.sources k d _ d' hd hd' (hsource.trans (hres.symm.trans hs'.symm))
    exact ⟨hv.trans (hv'.trans (persistedTenant_inj howner).symm), ht.trans (ht'.trans howner.symm)⟩

/-- One call keeps the invariant. -/
theorem scopeInv_step (h : ScopeInv r K) {e : Entry F} (hapart : Apart c K ⟨r, e, r'⟩) (hfresh : e.Fresh r)
    (hstep : c.knowledge.step r e r') : ScopeInv r' (K ++ [⟨r, e, r'⟩]) := by
  obtain ⟨hresult, hfinal⟩ := hstep
  cases hop : e.op with
  | ingest context request key =>
    rw [hop, call, outcome_map] at hresult
    rw [hop, call, final_map] at hfinal
    have hcases := c.ingest_cases e.env context request key r
    generalize hout : outcome ((c.ingest e.env context request key).run r) = out at hcases hresult
    rw [← hfinal] at hcases
    have hnone : ∀ error, out = .error error →
        ∀ context request key result, ¬ e.Ingested context request key result := by
      rintro error rfl context' request' key' result' hing
      rw [hing.result] at hresult
      cases hresult
    have herror : ∀ error, out = .error error → r' = r → ScopeInv r' (K ++ [⟨r, e, r'⟩]) := by
      rintro error herr rfl
      exact h.step_other (hnone error herr) (fun k d hd => ⟨d, hd, rfl, rfl, rfl⟩) (fun _ _ _ _ hk => hk) rfl rfl rfl
    cases hcases with
    | refused error => exact herror error rfl rfl
    | conflict => exact herror _ rfl rfl
    | unembedded _ _ error => exact herror error rfl rfl
    | replayed prepared existing hprobe hkey =>
      refine h.step_replay ⟨hop, hresult⟩ ?_ rfl (fun _ _ hrec => .inl hrec) rfl rfl
      refine c.owned_of_apart h hapart hop hprobe ((h.idempotency _ _ _ hkey).imp ?_)
      rintro context' request' key' result ⟨hscope, hk, hdoc, hsrc⟩
      exact ⟨hscope, .inl hk.symm, hdoc, hsrc⟩
    | known prepared result hprobe hkey hcontent =>
      refine h.step_replay ⟨hop, hresult⟩ ?_ rfl (fun k record hrec => ?_) rfl rfl
      · refine c.owned_of_apart h hapart hop hprobe ((h.content _ _ _ _ hcontent).imp ?_)
        rintro context' request' key' result ⟨hscope, huri, hdoc, hsrc⟩
        exact ⟨hscope, .inr huri.symm, hdoc, hsrc⟩
      · rw [Dict.get?_set] at hrec
        split at hrec
        · next hk =>
          cases hrec
          exact .inr ⟨hk, rfl, rfl⟩
        · exact .inl hrec
    | new probed prepared vectors vectorStatus hprobe hkey hcontent hprepared hembed =>
      obtain ⟨error, hbad⟩ | ⟨sanitized, count, hsanitized, hgood⟩ := prepareIngestion_cases (F := F) c.tools request
      · cases (hbad e.env context.tenantId request _ (.refl request)).symm.trans hprepared
      obtain ⟨prepared', hprepared', hof⟩ := hgood e.env context.tenantId request _ (.refl request)
      rw [hprepared] at hprepared'
      cases hprepared'
      have hdocument := hof.document
      refine h.step_new prepared.document ⟨hop, hresult⟩ ?_ ?_ ?_ rfl ?_ rfl ⟨_, rfl⟩ rfl rfl
      · show r.documents.get? prepared.document.documentId = none
        rw [hdocument]
        exact hfresh.document
      · rw [hdocument]
        rfl
      · rw [hdocument]
        rfl
      · intro k d hd hsource
        refine c.source_of_apart h hapart hfresh hop hprobe k d hd (hsource.trans ?_)
        show prepared.document.sourceId = _
        rw [hdocument]
        rfl
  | changeStatus context documentId command key =>
    rw [hop, call, outcome_map] at hresult
    rw [hop, call, final_map] at hfinal
    have hother : ∀ context request key result, ¬ e.Ingested context request key result := by
      intro context' request' key' result' hing
      rw [hing.op] at hop
      cases hop
    have hcases := c.changeDocumentStatus_cases e.env.now context documentId command key r
    rw [← hfinal] at hcases
    have hsame : r' = r → ScopeInv r' (K ++ [⟨r, e, r'⟩]) := by
      rintro rfl
      exact h.step_other hother (fun k d hd => ⟨d, hd, rfl, rfl, rfl⟩) (fun _ _ _ _ hk => hk) rfl rfl rfl
    generalize outcome ((c.changeDocumentStatus e.env.now context documentId command key).run r) = out at hcases
    cases hcases with
    | unchecked => exact hsame rfl
    | unmanageable => exact hsame rfl
    | conflict => exact hsame rfl
    | replayed => exact hsame rfl
    | outdated => exact hsame rfl
    | new document _ hdocument =>
      have hget := get?_changed r documentId document command e.env.now (manageable_ok hdocument).1
      obtain ⟨status, reason, version, updatedAt, hframe⟩ := commanded_frame document command e.env.now
      refine h.step_other hother (fun k d hd => ?_) (fun k sourceId v owner hk => ?_) rfl rfl rfl
      · rw [hget] at hd
        split at hd
        · next hk =>
          cases hd
          rw [hframe, hk]
          exact ⟨document, (manageable_ok hdocument).1, rfl, rfl, rfl⟩
        · exact ⟨d, hd, rfl, rfl, rfl⟩
      · obtain ⟨d, hd, hrest⟩ := hk
        by_cases hk : k = documentId
        · rw [hk, (manageable_ok hdocument).1] at hd
          cases hd
          refine ⟨document.commanded command e.env.now, (hget k).trans (if_pos hk), ?_⟩
          rw [hframe]
          exact hrest
        · exact ⟨d, ((hget k).trans (if_neg hk)).trans hd, hrest⟩

/-- One call conflicts with an earlier request of its owner only. -/
theorem conflicts_step (h : ScopeInv r K) {e : Entry F} (hapart : Apart c K ⟨r, e, r'⟩)
    (hstep : c.knowledge.step r e r') {context : AuthorizedKnowledgeContext} {request : IngestDocumentRequest}
    {key : String} (hconflict : e.Conflicts context request key) :
    Earlier K fun context' request' key' _ => key' = key ∧ ownerOf context' request' = ownerOf context request := by
  obtain ⟨hop, message, hmessage⟩ := hconflict
  have hresult := hstep.1
  rw [hop, call, outcome_map, hmessage] at hresult
  have hcases := c.ingest_cases e.env context request key r
  generalize outcome ((c.ingest e.env context request key).run r) = out at hcases hresult
  generalize final ((c.ingest e.env context request key).run r) = after at hcases
  cases hcases with
  | refused error hprobe =>
    cases hresult
    obtain ⟨_, h⟩ | ⟨_, h⟩ := c.probe_error hprobe <;> cases h
  | unembedded _ _ error _ _ _ _ hembed =>
    cases hresult
    obtain ⟨_, h⟩ | ⟨_, h⟩ := c.embedChunks_error hembed <;> cases h
  | conflict prepared existing hprobe hkey =>
    obtain ⟨e', he', context', request', key', result, hing, hscope, rfl, -, -⟩ := h.idempotency _ _ _ hkey
    exact ⟨e', he', context', request', key', result, hing, rfl,
      (hapart context request key' prepared hop hprobe e' he' context' request' key' result hing hscope.symm
        (.inl rfl)).symm⟩
  | replayed => cases hresult
  | known => cases hresult
  | new => cases hresult

/-- One call replays an earlier request of its owner only. -/
theorem replays_step (h : ScopeInv r K) {e : Entry F} (hapart : Apart c K ⟨r, e, r'⟩)
    (hstep : c.knowledge.step r e r') {context : AuthorizedKnowledgeContext} {request : IngestDocumentRequest}
    {key : String} {result : IngestResult} (hing : e.Ingested context request key result)
    (hreplay : result.idempotentReplay = true) :
    (Earlier K fun context' request' _ result' => result'.documentId = result.documentId ∧
      result'.sourceId = result.sourceId ∧ ownerOf context' request' = ownerOf context request) ∧
    ∀ e' ∈ K, ∀ context' request' key' result', e'.label.Ingested context' request' key' result' →
      result'.documentId = result.documentId → ownerOf context' request' = ownerOf context request := by
  obtain ⟨hop, hres⟩ := hing
  have hresult := hstep.1
  rw [hop, call, outcome_map, hres] at hresult
  -- both tables answer with the result of an earlier call of the same key or URI
  have hearlier : ∃ prepared, c.probe e.env context request key = .ok prepared ∧
      Earlier K fun context' request' key' result' => scopeOf context' request' = scopeOf context request ∧
        (key = key' ∨ request.canonicalSourceUri = request'.canonicalSourceUri) ∧
        result.documentId = result'.documentId ∧ result.sourceId = result'.sourceId := by
    have hcases := c.ingest_cases e.env context request key r
    generalize outcome ((c.ingest e.env context request key).run r) = out at hcases hresult
    generalize final ((c.ingest e.env context request key).run r) = after at hcases
    cases hcases with
    | refused => cases hresult
    | unembedded => cases hresult
    | conflict => cases hresult
    | replayed prepared existing hprobe hkey =>
      cases hresult
      refine ⟨prepared, hprobe, (h.idempotency _ _ _ hkey).imp ?_⟩
      rintro context' request' key' result ⟨hscope, hk, hdoc, hsrc⟩
      exact ⟨hscope, .inl hk.symm, hdoc, hsrc⟩
    | known prepared found hprobe hkey hcontent =>
      cases hresult
      refine ⟨prepared, hprobe, (h.content _ _ _ _ hcontent).imp ?_⟩
      rintro context' request' key' result ⟨hscope, huri, hdoc, hsrc⟩
      exact ⟨hscope, .inr huri.symm, hdoc, hsrc⟩
    | new =>
      cases hresult
      cases hreplay
  obtain ⟨prepared, hprobe, hearlier⟩ := hearlier
  refine ⟨?_, fun e' he' context' request' key' result' hing' hdoc => ?_⟩
  · obtain ⟨e', he', context', request', key', result', hing', hscope, hmeet, hdoc, hsrc⟩ := hearlier
    exact ⟨e', he', context', request', key', result', hing', hdoc.symm, hsrc.symm,
      (hapart context request key prepared hop hprobe e' he' context' request' key' result' hing'
        hscope.symm hmeet).symm⟩
  · obtain ⟨d, hd, -, -, howner⟩ := c.owned_of_apart h hapart hop hprobe hearlier
    obtain ⟨d', hd', -, -, howner'⟩ := h.stored e' he' context' request' key' result' hing'
    rw [hdoc, hd] at hd'
    cases hd'
    exact howner'.symm.trans howner

/-- **Isolation of owners.**  Where no call meets the request of another owner under its scope string, what is
    ingested stays in the scope of its request. -/
theorem ingest_keptInScope {H : KnowledgeHistory F} (hrun : c.knowledge.Trace {} H r)
    (hfresh : ∀ e ∈ H, e.label.Fresh e.before) (hapart : Every (Apart c) H) : KeptInScope r H := by
  have hinv := hrun.invariant (I := fun u K => (∀ e ∈ K, e.label.Fresh e.before) → Every (Apart c) K →
      ScopeInv u K ∧ KeptInScope u K) ?_ ?_
  · exact (hinv hfresh hapart).2
  · exact fun _ _ => ⟨.init, fun e he => absurd he List.not_mem_nil, (fun _ _ _ _ h => by cases h), .nil, .nil⟩
  · intro u e u' K ih hstep hfresh hapart
    obtain ⟨hapart, hlast⟩ := every_snoc.1 hapart
    obtain ⟨h, hkept⟩ := ih (fun e he => hfresh e (List.mem_append_left _ he)) hapart
    have h' := c.scopeInv_step h hlast (hfresh _ (List.mem_append_right _ (List.mem_singleton_self _))) hstep
    refine ⟨h', fun e' he' context request key result hing => ?_, h'.sources, every_snoc.2 ⟨hkept.conflicts, ?_⟩,
      every_snoc.2 ⟨hkept.replays, ?_⟩⟩
    · obtain ⟨d, hd, -, hv, ht⟩ := h'.stored e' he' context request key result hing
      exact ⟨d, hd, hv, ht⟩
    · exact fun context request key hconflict => c.conflicts_step h hlast hstep hconflict
    · exact fun context request key result hing hreplay => c.replays_step h hlast hstep hing hreplay

end RepositoryConfig

/-! ## Two calls -/

theorem trace_twoCalls (env env' : Env ℕ) (op op' : KnowledgeOp) :
    plainRepository.knowledge.Trace {} (twoCalls env env' op op') (afterTwo env env' op op') :=
  .cons ⟨rfl, rfl⟩ (.cons ⟨rfl, rfl⟩ (.nil _))

theorem callEnv_chunk_ne {now now' : Time} {a b : Char} (h : a ≠ b) (n m : ℕ) :
    (callEnv now a).newChunkId n ≠ (callEnv now' b).newChunkId m := by
  intro heq
  have := String.ofList_injective heq
  exact h (List.cons.inj this).1

/-- The identifiers of the calls of a small history are new. -/
theorem fresh_twoCalls {now now' : Time} {a b : Char} (hne : a ≠ b) {op op' : KnowledgeOp}
    (hdocuments : ∀ k d, (calledState {} (callEnv now a) op).documents.get? k = some d →
      k = (callEnv now a).newDocumentId ∧ d.sourceId = (callEnv now a).newSourceId)
    (hchunks : ∀ k chunk, (calledState {} (callEnv now a) op).chunks.get? k = some chunk →
      ∃ n, k = (callEnv now a).newChunkId n) :
    ∀ e ∈ twoCalls (callEnv now a) (callEnv now' b) op op', e.label.Fresh e.before := by
  have hinjective : ∀ (now : Time) (name : Char), Function.Injective (callEnv now name).newChunkId := by
    intro now name n m h
    have := congrArg List.length (String.ofList_injective h)
    simpa using this
  have hids : ∀ x : Char, String.ofList [x, a] ≠ String.ofList [x, b] := by
    intro x h
    have := String.ofList_injective h
    exact hne (List.cons.inj (List.cons.inj this).2).1
  intro e he
  obtain rfl | he := List.mem_cons.1 he
  · exact ⟨rfl, (fun k d h => by cases h), fun _ => rfl, hinjective now a⟩
  · obtain rfl := List.mem_singleton.1 he
    refine ⟨?_, fun k d hd heq => ?_, fun n => ?_, hinjective now' b⟩
    · refine Option.eq_none_iff_forall_ne_some.2 fun d hd => ?_
      exact hids 'd' (hdocuments _ d hd).1.symm
    · exact hids 's' ((hdocuments k d hd).2.symm.trans heq)
    · refine Option.eq_none_iff_forall_ne_some.2 fun chunk hchunk => ?_
      obtain ⟨m, hm⟩ := hchunks _ chunk hchunk
      exact callEnv_chunk_ne hne m n hm.symm

theorem publishLake_documents (k : String) (d : KnowledgeDocument)
    (h : (calledState {} (callEnv july 'a') publishLake).documents.get? k = some d) :
    k = (callEnv july 'a').newDocumentId ∧ d.sourceId = (callEnv july 'a').newSourceId ∧
      d.visibilityScope = .public_ := by
  have hkeys : (calledState {} (callEnv july 'a') publishLake).documents.entries.all fun e =>
      e.1 = (callEnv july 'a').newDocumentId ∧ e.2.sourceId = (callEnv july 'a').newSourceId ∧
        e.2.visibilityScope = .public_ := by decide +kernel
  simpa using List.all_eq_true.1 hkeys (k, d) (Dict.mem_entries_of_get? h)

theorem publishLake_chunks (k : String) (chunk : KnowledgeChunk)
    (h : (calledState {} (callEnv july 'a') publishLake).chunks.get? k = some chunk) :
    ∃ n, k = (callEnv july 'a').newChunkId n := by
  have hkeys : (calledState {} (callEnv july 'a') publishLake).chunks.entries.all fun e =>
      e.1 = (callEnv july 'a').newChunkId 0 := by decide +kernel
  exact ⟨0, by simpa using List.all_eq_true.1 hkeys (k, chunk) (Dict.mem_entries_of_get? h)⟩

theorem publishLake_fresh (op : KnowledgeOp) :
    ∀ e ∈ twoCalls (callEnv july 'a') (callEnv july 'b') publishLake op, e.label.Fresh e.before :=
  fresh_twoCalls (by decide) (fun k d h => ⟨(publishLake_documents k d h).1, (publishLake_documents k d h).2.1⟩)
    publishLake_chunks

/-- A tenant of the name `__public__` gets the PUBLIC document for its own. -/
theorem ingest_leaves_scope : ¬ ∀ (H : KnowledgeHistory ℕ) (r : Repository ℕ), plainRepository.knowledge.Trace {} H r →
    (∀ e ∈ H, e.label.Fresh e.before) → KeptInScope r H := by
  intro h
  let context := manager "__public__" (by decide +kernel) (by decide +kernel) ["tenant_admin"]
  have hkept := h _ _ (trace_twoCalls (callEnv july 'a') (callEnv july 'b') publishLake (keepLake context))
    (publishLake_fresh _)
  have hanswer : ((called (calledState {} (callEnv july 'a') publishLake) (callEnv july 'b')
    (keepLake context)).result.map
      fun a => match a with
        | .ingested result => result.documentId
        | .changed _ => "").toOption = some "da" := by decide +kernel
  have hdocument : ((afterTwo (callEnv july 'a') (callEnv july 'b') publishLake
    (keepLake context)).documents.get? "da").map
      (·.visibilityScope) = some .public_ := by decide +kernel
  generalize hresult : (called (calledState {} (callEnv july 'a') publishLake) (callEnv july 'b')
    (keepLake context)).result =
    result at hanswer
  match result with
  | .error _ => cases hanswer
  | .ok (.changed _) => exact absurd (Option.some.inj hanswer : "" = "da") (by decide)
  | .ok (.ingested result) =>
    obtain ⟨d, hd, hscope, -⟩ := hkept.stored _ (List.mem_cons_of_mem _ List.mem_cons_self) context
      (lakeRequest .tenant july) "private-1" result ⟨rfl, hresult⟩
    have hid : result.documentId = "da" := Option.some.inj hanswer
    rw [← hid, hd] at hdocument
    cases hscope.symm.trans (Option.some.inj hdocument)

theorem ingest_keptInScope_lake :
    let context := manager "north" north_stripped north_length ["tenant_admin"]
    KeptInScope (afterTwo (callEnv july 'a') (callEnv july 'b') publishLake (keepLake context))
      (twoCalls (callEnv july 'a') (callEnv july 'b') publishLake (keepLake context)) := by
  intro context
  refine plainRepository.ingest_keptInScope (trace_twoCalls ..) (publishLake_fresh _) ?_
  refine every_snoc (H := [_]).2 ⟨every_snoc (H := []).2 ⟨.nil, ?_⟩, ?_⟩
  · exact fun _ _ _ _ _ _ e' he' => absurd he' List.not_mem_nil
  · intro context' request' key' prepared hop _ e' he' context'' request'' key'' result'' hing hscope
    cases hop
    cases List.mem_singleton.1 he'
    cases hing.op
    exact absurd hscope (by decide +kernel)

end RoutePilot.Knowledge
