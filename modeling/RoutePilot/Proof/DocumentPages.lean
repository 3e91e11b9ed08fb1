/-
  Listing documents while they are ingested and change their status.

  A document keeps its identifier and its owner, so that it stays visible to whoever
  saw it (`Visible`); what a page shows is cut from the visible documents by their
  identifiers, and `Keyset.Walked` is carried from page to page.
-/
import RoutePilot.Knowledge.Specs
import RoutePilot.Knowledge.World
import RoutePilot.Lib.EState
import RoutePilot.Spec.Knowledge

namespace RoutePilot.Knowledge

open Lib Lts Keyset

variable {F : Type}

/-! ## Documents -/

/-- What a call does to the documents. -/
inductive DocumentsStep (r : Repository F) (e : Entry F) : Dict String KnowledgeDocument → Prop
  | kept : DocumentsStep r e r.documents
  | added (d : KnowledgeDocument) (h : d.documentId = e.env.newDocumentId) :
      DocumentsStep r e (r.documents.set e.env.newDocumentId d)
  | changed (k : String) (d : KnowledgeDocument) (command : StatusCommand) (now : Time)
    (h : r.documents.get? k = some d) :
      DocumentsStep r e (r.documents.set k (d.commanded command now))

theorem RepositoryConfig.documents_step (c : RepositoryConfig F) {r r' : Repository F} {e : Entry F}
    (hstep : c.knowledge.step r e r') : DocumentsStep r e r'.documents := by
  have hfinal := hstep.2
  cases hop : e.op with
  | ingest context request key =>
    rw [hop, call, final_map] at hfinal
    have hcases := c.ingest_cases e.env context request key r
    rw [← hfinal] at hcases
    generalize outcome ((c.ingest e.env context request key).run r) = out at hcases
    cases hcases with
    | refused | conflict | replayed | known | unembedded => exact .kept
    | new probed prepared vectors vectorStatus _ _ _ hprepared =>
      obtain ⟨_, hbad⟩ | ⟨_, _, _, hgood⟩ := prepareIngestion_cases (F := F) c.tools request
      · cases (hbad e.env context.tenantId request _ (.refl request)).symm.trans hprepared
      · obtain ⟨prepared', hprepared', hof⟩ := hgood e.env context.tenantId request _ (.refl request)
        cases hprepared.symm.trans hprepared'
        have hid : prepared.document.documentId = e.env.newDocumentId := by
          rw [hof.document]
          rfl
        have hadded := DocumentsStep.added (r := r) (e := e) prepared.document hid
        rw [← hid] at hadded
        exact hadded
  | changeStatus context documentId command key =>
    rw [hop, call, final_map] at hfinal
    have hcases := c.changeDocumentStatus_cases e.env.now context documentId command key r
    rw [← hfinal] at hcases
    generalize outcome ((c.changeDocumentStatus e.env.now context documentId command key).run r) = out at hcases
    cases hcases with
    | unchecked | unmanageable | conflict | replayed | outdated => exact .kept
    | new document _ hdocument =>
      show DocumentsStep r e (if document.status ≠ command.targetStatus then _ else _)
      split
      · exact .changed documentId document command e.env.now (manageable_ok hdocument).1
      · exact .kept

/-- Documents are stored under their identifiers. -/
structure Repository.Keyed (r : Repository F) : Prop where
  distinct : r.documents.DistinctKeys
  id : ∀ k d, r.documents.get? k = some d → d.documentId = k

section
variable {context : AuthorizedKnowledgeContext} {r r' : Repository F} {e : Entry F}

theorem Repository.Keyed.step (h : r.Keyed) (hstep : DocumentsStep r e r'.documents) : r'.Keyed := by
  obtain ⟨hdistinct, hid⟩ := h
  generalize hdocuments : r'.documents = documents at hstep
  have hset : ∀ k d, d.documentId = k → ({ r' with documents := r.documents.set k d } : Repository F).Keyed := by
    rintro _ d rfl
    refine ⟨hdistinct.set .., fun k' d' hd' => ?_⟩
    rw [Dict.get?_set] at hd'
    split at hd'
    · next hk =>
      cases hd'
      exact hk.symm
    · exact hid k' d' hd'
  cases hstep with
  | kept => exact ⟨hdocuments ▸ hdistinct, hdocuments ▸ hid⟩
  | added d hd =>
    obtain ⟨h₁, h₂⟩ := hset _ d hd
    exact ⟨hdocuments ▸ h₁, hdocuments ▸ h₂⟩
  | changed k d command now hd =>
    obtain ⟨_, _, _, _, hframe⟩ := commanded_frame d command now
    have hk : (d.commanded command now).documentId = k := by
      rw [hframe]
      exact hid k d hd
    obtain ⟨h₁, h₂⟩ := hset _ _ hk
    exact ⟨hdocuments ▸ h₁, hdocuments ▸ h₂⟩

/-- A visible document stays visible, unless a new one takes its identifier. -/
theorem Repository.Visible.step {k : String} (h : r.Visible context k) (hnew : newDocument r e)
    (hstep : DocumentsStep r e r'.documents) : r'.Visible context k := by
  obtain ⟨d, hd, hvisible⟩ := h
  unfold Repository.Visible
  generalize r'.documents = documents at hstep
  cases hstep with
  | kept => exact ⟨d, hd, hvisible⟩
  | added d' =>
    refine ⟨d, ?_, hvisible⟩
    rw [Dict.get?_set_ne _ fun hk => ?_, hd]
    rw [hk, hnew] at hd
    cases hd
  | changed k' d' command now hd' =>
    rw [Dict.get?_set]
    split
    · next hk =>
      obtain ⟨_, _, _, _, hframe⟩ := commanded_frame d' command now
      rw [hk, hd'] at hd
      cases hd
      rw [hframe]
      exact ⟨_, rfl, hvisible⟩
    · exact ⟨d, hd, hvisible⟩

theorem RepositoryConfig.keyed (c : RepositoryConfig F) {ok : Repository F → Entry F → Prop}
    (h : c.knowledge.Reach ok r) : r.Keyed :=
  h.invariant (fun _ hinit => hinit ▸ ⟨List.nodup_nil, fun _ _ hd => nomatch hd⟩)
    fun _ _ _ _ ih _ hstep => ih.step (c.documents_step hstep)

end

/-! ## Pages -/

section
variable (context : AuthorizedKnowledgeContext) (r : Repository F)

/-- The visible documents, in the order of their identifiers. -/
def Repository.visible : List KnowledgeDocument :=
  (r.documents.values.mergeSort fun a b => a.documentId ≤ b.documentId).filter (documentVisible context)

def Repository.visibleIds : List String := (r.visible context).map (·.documentId)

variable {context r}

variable (context) in
theorem visibleIds_sorted (h : r.Keyed) : (r.visibleIds context).Pairwise (· < ·) := by
  have hids : r.documents.values.map (·.documentId) = r.documents.entries.map Prod.fst := by
    rw [Dict.values_eq h.distinct, List.map_map]
    exact List.map_congr_left fun e he => h.id e.1 e.2 (Dict.get?_of_mem h.distinct he)
  have hnodup : ((r.documents.values.mergeSort fun a b => a.documentId ≤ b.documentId).map (·.documentId)).Nodup :=
    ((List.mergeSort_perm ..).map _).nodup_iff.2 (hids ▸ h.distinct)
  have hsorted := List.pairwise_map.2 (pairwise_mergeSort_key KnowledgeDocument.documentId r.documents.values)
  exact ((hsorted.and hnodup).imp fun h => lt_of_le_of_ne h.1 h.2).sublist (List.filter_sublist.map _)

theorem mem_visibleIds (h : r.Keyed) {k : String} : k ∈ r.visibleIds context ↔ r.Visible context k := by
  rw [Repository.visibleIds, List.mem_map]
  constructor
  · rintro ⟨d, hd, rfl⟩
    obtain ⟨hd, hvisible⟩ := List.mem_filter.1 hd
    obtain ⟨k, hk⟩ := Dict.exists_get?_of_mem_values (List.mem_mergeSort.1 hd)
    exact ⟨d, by rwa [h.id k d hk], hvisible⟩
  · rintro ⟨d, hd, hvisible⟩
    exact ⟨d, List.mem_filter.2 ⟨List.mem_mergeSort.2 (Dict.mem_values_of_get? hd), hvisible⟩, h.id k d hd⟩

variable (context) in
theorem length_visibleIds (h : r.Keyed) : (r.visibleIds context).length ≤ r.documents.entries.length := by
  rw [Repository.visibleIds, List.length_map]
  refine (List.length_filter_le ..).trans ?_
  rw [List.length_mergeSort, Dict.values_eq h.distinct, List.length_map]

/-- A manager is always answered. -/
theorem exists_page (hmanager : context.canManageTenantKnowledge = true) {limit : ℤ} (hlimit : 1 ≤ limit ∧ limit ≤ 100)
    (cursor : Option String) : ∃ page, r.listDocuments context none limit cursor = .ok page := by
  unfold Repository.listDocuments authorizeManagement
  rw [hmanager]
  simp only [Bool.true_eq_false, if_false, dif_pos hlimit]
  exact ⟨_, rfl⟩

/-- What a page holds: the next identifiers, and the cursor that is cut from them. -/
theorem page_of_ok {limit : ℤ} {cursor : Option String} {page : DocumentPage}
    (h : r.listDocuments context none limit cursor = .ok page) :
    0 < limit.toNat ∧ (∀ item ∈ page.items, documentVisible context item.toKnowledgeDocument = true) ∧
    page.items.map (·.documentId) =
      ((r.visibleIds context).filter fun k => ∀ after ∈ cursor, after < k).take limit.toNat ∧
    page.nextCursor = nextKey limit.toNat ((r.visibleIds context).filter fun k => ∀ after ∈ cursor, after < k) := by
  have hleft : (r.visibleIds context).filter (fun k => ∀ after ∈ cursor, after < k) =
      ((r.documents.values.mergeSort fun a b => a.documentId ≤ b.documentId).filter fun document =>
        documentVisible context document ∧ (∀ s ∈ (none : Option IngestionStatus), document.status = s) ∧
          ∀ after ∈ cursor, after < document.documentId).map (·.documentId) := by
    rw [Repository.visibleIds, Repository.visible, List.filter_map, List.filter_filter]
    congr 1
    refine List.filter_congr fun d _ => ?_
    rw [Bool.eq_iff_iff]
    simp only [Function.comp_apply, Bool.and_eq_true, decide_eq_true_eq]
    exact ⟨fun h => ⟨h.2, (fun _ hs => nomatch hs), h.1⟩, fun h => ⟨h.2.2, h.1⟩⟩
  unfold Repository.listDocuments at h
  cases hauth : authorizeManagement context with
  | error e =>
    rw [hauth] at h
    cases h
  | ok =>
    rw [hauth] at h
    by_cases hlimit : 1 ≤ limit ∧ limit ≤ 100
    · simp only [dif_pos hlimit, ok_bind] at h
      cases h
      rw [hleft]
      refine ⟨by omega, fun item hitem => ?_, ?_, ?_⟩
      · obtain ⟨d, hd, rfl⟩ := List.mem_map.1 hitem
        have := (List.mem_filter.1 (List.mem_of_mem_take (List.mem_of_mem_take hd))).2
        simp only [decide_eq_true_eq] at this
        exact this.1
      · show ((List.take limit.toNat (List.take (limit.toNat + 1) _)).map r.adminView).map _ = _
        rw [List.take_take, min_eq_left (Nat.le_succ _), List.map_map, ← List.map_take]
        rfl
      · show (if limit.toNat < (List.take (limit.toNat + 1) _).length then
          Option.map _ ((List.take limit.toNat (List.take (limit.toNat + 1) _)).map r.adminView).getLast? else none) = _
        rw [nextKey, List.length_map, List.take_take, min_eq_left (Nat.le_succ _), List.getLast?_map, Option.map_map,
          ← List.map_take, List.getLast?_map, List.length_take]
        refine if_congr ?_ rfl rfl
        omega
    · simp only [dif_neg hlimit] at h
      cases h

end

/-! ## Listings -/

/-- What a listing keeps. -/
structure ListingInv (context : AuthorizedKnowledgeContext) (r : Repository F) (s : Listing F) : Prop where
  keyed : s.repository.Keyed
  kept : ∀ k, r.Visible context k → s.repository.Visible context k
  walked : Walked (r.Visible context) s.position (s.items.map (·.documentId))
  visible : ∀ item ∈ s.items, documentVisible context item.toKnowledgeDocument = true

namespace RepositoryConfig
variable (c : RepositoryConfig F) {context : AuthorizedKnowledgeContext} {r : Repository F} {s s' : Listing F}

/-- The identifiers that a listing has still to come to. -/
theorem left_eq (h : s.position ≠ .ended) :
    ((s.repository.visibleIds context).filter fun k => ∀ after ∈ s.position.cursor, after < k) =
      (s.repository.visibleIds context).filter fun k => ¬ s.position.Passed k :=
  List.filter_congr fun k _ => by rw [decide_eq_decide, Position.not_passed_iff h]

theorem listingInv_step (h : ListingInv context r s) {l : ListingStep F}
    (hnew : ∀ e, l = .write e → newDocument s.repository e) (hstep : (c.listing context).step s l s') :
    ListingInv context r s' := by
  obtain ⟨hkeyed, hkept, hwalked, hvisible⟩ := h
  cases l with
  | page limit =>
    obtain ⟨hgoing, page, hpage, rfl⟩ := hstep
    obtain ⟨hlimit, hitems, hids, hnext⟩ := page_of_ok hpage
    rw [left_eq hgoing] at hids hnext
    refine ⟨hkeyed, hkept, ?_, fun item hitem => ?_⟩
    · simp only [List.map_append]
      rw [hids, hnext]
      refine hwalked.page ((visibleIds_sorted context hkeyed).sublist List.filter_sublist) hlimit (fun k hk => ?_)
        fun k hk hp => ?_
      · simpa using (List.mem_filter.1 hk).2
      · exact List.mem_filter.2 ⟨(mem_visibleIds hkeyed).2 (hkept k hk), by simpa using hp⟩
    · obtain hitem | hitem := List.mem_append.1 hitem
      · exact hvisible item hitem
      · exact hitems item hitem
  | write e =>
    obtain ⟨hwrite, hs'⟩ := hstep
    have hdocuments := c.documents_step hwrite
    rw [hs']
    exact ⟨hkeyed.step hdocuments, fun k hk => (hkept k hk).step (hnew e rfl) hdocuments, hwalked, hvisible⟩

theorem listingInv {s₀ : Listing F} {H : List (Taken (Listing F) (ListingStep F))} (h₀ : (c.listing context).init s₀)
    (h : (c.listing context).Trace s₀ H s) (hnew : NewDocuments H) : ListingInv context s₀.repository s := by
  obtain ⟨hreach, hposition, hitems⟩ := h₀
  refine h.invariant (I := fun u K => NewDocuments K → ListingInv context s₀.repository u) (fun _ => ?_)
    (fun u l u' K ih hstep hnew => ?_) hnew
  · refine ⟨c.keyed hreach, fun _ hk => hk, ?_, ?_⟩
    · rw [hposition, hitems]
      exact .begin
    · rw [hitems]
      exact fun _ hitem => absurd hitem List.not_mem_nil
  · exact c.listingInv_step (ih fun taken htaken => hnew taken (List.mem_append_left _ htaken))
      (fun e he => hnew _ (List.mem_append_right _ (List.mem_singleton_self _)) e he) hstep

/-- The pages that are left. -/
theorem pagesLeft_step (hkeyed : s.repository.Keyed) {l : ListingStep F} (hstep : (c.listing context).step s l s')
    (hahead : ∀ k, ¬ s.position.Passed k → s'.repository.Visible context k → s.repository.Visible context k) :
    (if l.isPage then 1 else 0) + pagesLeft (s'.repository.visibleIds context) s'.position ≤
      pagesLeft (s.repository.visibleIds context) s.position := by
  cases l with
  | page limit =>
    obtain ⟨hgoing, page, hpage, rfl⟩ := hstep
    obtain ⟨-, -, -, hnext⟩ := page_of_ok hpage
    rw [left_eq hgoing] at hnext
    have := pagesLeft_page hgoing (visibleIds_sorted context hkeyed) limit.toNat
    simp only [ListingStep.isPage, if_true, hnext]
    omega
  | write e =>
    obtain ⟨hwrite, hs'⟩ := hstep
    have hkeyed' := hkeyed.step (c.documents_step hwrite)
    rw [hs'] at hahead ⊢
    simp only [ListingStep.isPage, Bool.false_eq_true, if_false, zero_add]
    refine pagesLeft_mono ((visibleIds_sorted context hkeyed').imp ne_of_lt) fun k hk hp => ?_
    exact (mem_visibleIds hkeyed).2 (hahead k hp ((mem_visibleIds hkeyed').1 hk))

theorem pages_le {H : List (Taken (Listing F) (ListingStep F))} {t : Listing F}
    (h : (c.listing context).Trace s H t) (hkeyed : s.repository.Keyed) (hahead : NothingAhead context H) :
    H.countP (·.label.isPage) + pagesLeft (t.repository.visibleIds context) t.position ≤
      pagesLeft (s.repository.visibleIds context) s.position := by
  induction h with
  | nil s => simp
  | @cons s s' t l H hl _ ih =>
    have hstep := c.pagesLeft_step hkeyed hl (hahead _ List.mem_cons_self)
    have hkeyed' : s'.repository.Keyed := by
      cases l with
      | page limit =>
        obtain ⟨-, -, -, rfl⟩ := hl
        exact hkeyed
      | write e => exact hkeyed.step (c.documents_step hl.1)
    have := ih hkeyed' fun taken htaken => hahead taken (List.mem_cons_of_mem _ htaken)
    simp only [List.countP_cons]
    omega

/-- **Pages over a moving repository.**  A listing returns what it began with once, and nothing twice or unseen; and it
    ends. -/
theorem listing_stable {s₀ : Listing F} {H : List (Taken (Listing F) (ListingStep F))}
    (h₀ : (c.listing context).init s₀) (h : (c.listing context).Trace s₀ H s) (hnew : NewDocuments H) :
    Listed context s₀.repository s ∧ Terminates c context s := by
  have hinv := c.listingInv h₀ h hnew
  refine ⟨⟨hinv.walked.nodup, hinv.visible, fun hended k d hd hvisible => ?_⟩, fun hgoing hmanager limit hlimit => ?_,
    fun H t hH hahead => ?_⟩
  · refine List.count_eq_one_of_mem hinv.walked.nodup (hinv.walked.covered k ⟨d, hd, hvisible⟩ ?_)
    rw [hended]
    trivial
  · obtain ⟨page, hpage⟩ := exists_page hmanager hlimit (r := s.repository) s.position.cursor
    exact ⟨_, hgoing, page, hpage, rfl⟩
  · have := c.pages_le hH hinv.keyed hahead
    have := pagesLeft_le (s.repository.visibleIds context) s.position
    have := length_visibleIds context hinv.keyed
    omega

end RepositoryConfig

/-! ## Two pages -/

section
variable {context : AuthorizedKnowledgeContext} {r : Repository F}

/-- The visible documents, where they are stored in the order of their identifiers. -/
theorem visibleIds_of_sorted (h : r.documents.values.Pairwise fun a b => decide (a.documentId ≤ b.documentId) = true) :
    r.visibleIds context = (r.documents.values.filter (documentVisible context)).map (·.documentId) := by
  rw [Repository.visibleIds, Repository.visible, List.mergeSort_of_pairwise h]

/-- The page of one document after a cursor. -/
theorem exists_page_one (hmanager : context.canManageTenantKnowledge = true) (cursor : Option String) {k : String}
    {next : List String} (hleft : (r.visibleIds context).filter (fun k => ∀ after ∈ cursor, after < k) = k :: next) :
    ∃ page, r.listDocuments context none 1 cursor = .ok page ∧ page.items.map (·.documentId) = [k] ∧
      page.nextCursor = if next = [] then none else some k := by
  obtain ⟨page, hpage⟩ := exists_page hmanager (show 1 ≤ (1 : ℤ) ∧ (1 : ℤ) ≤ 100 by decide) cursor (r := r)
  obtain ⟨-, -, hitems, hnext⟩ := page_of_ok hpage
  rw [hleft] at hitems hnext
  refine ⟨page, hpage, hitems, hnext.trans ?_⟩
  cases next with
  | nil => rfl
  | cons k' next => exact if_pos (Nat.lt_of_sub_eq_succ rfl)

end

/-- A listing of two documents, one on each page; another tenant's text is ingested in between. -/
theorem listing_stable_lake :
    let context := manager "south" south_stripped south_length ["tenant_admin"]
    let r := afterTwo (callEnv july 'a') (callEnv july 'b') publishLake (keepLake context)
    ∃ H s, (plainRepository.listing context).Trace ⟨r, .start, []⟩ H s ∧ H.map (·.label.isPage) = [true, false, true] ∧
      s.position = .ended ∧ s.items.map (·.documentId) = ["da", "db"] ∧ Listed context r s ∧
      Terminates plainRepository context s := by
  intro context r
  let op := keepLake (manager "north" north_stripped north_length ["tenant_admin"])
  let r' := calledState r (callEnv july 'c') op
  have hmanager : context.canManageTenantKnowledge = true := by decide +kernel
  have hids : r.visibleIds context = ["da", "db"] :=
    (visibleIds_of_sorted (by decide +kernel)).trans (by decide +kernel)
  have hids' : r'.visibleIds context = ["da", "db"] :=
    (visibleIds_of_sorted (by decide +kernel)).trans (by decide +kernel)
  obtain ⟨page, hpage, hitems, hnext⟩ := exists_page_one (r := r) hmanager none (by rw [hids]; rfl)
  obtain ⟨page', hpage', hitems', hnext'⟩ := exists_page_one (r := r') hmanager (some "da")
    (show _ = ["db"] by rw [hids']; decide +kernel)
  let s : Listing ℕ := ⟨r, .ofNext page.nextCursor, [] ++ page.items⟩
  have hposition : s.position = .after "da" := congrArg Position.ofNext hnext
  have hread : (plainRepository.listing context).step ⟨r, .start, []⟩ (.page 1) s := ⟨(nomatch ·), page, hpage, rfl⟩
  have hwrite : (plainRepository.listing context).step s (.write (called r (callEnv july 'c') op))
      { s with repository := r' } := ⟨⟨rfl, rfl⟩, rfl⟩
  have hread' : (plainRepository.listing context).step { s with repository := r' } (.page 1)
      ⟨r', .ofNext page'.nextCursor, s.items ++ page'.items⟩ := by
    refine ⟨fun h => ?_, page', ?_, rfl⟩
    · cases hposition.symm.trans h
    · rw [hposition]
      exact hpage'
  have htrace := Trace.cons hread (.cons hwrite (.cons hread' (.nil _)))
  have hreach : plainRepository.knowledge.Reach newDocument r := by
    let r₀ := calledState {} (callEnv july 'a') publishLake
    have hfirst : plainRepository.knowledge.Reach newDocument r₀ :=
      ⟨{}, rfl, .single ⟨called {} (callEnv july 'a') publishLake, rfl, rfl, rfl⟩⟩
    have hnew : newDocument r₀ (called r₀ (callEnv july 'b') (keepLake context)) :=
      Option.isNone_iff_eq_none.1 (by decide +kernel)
    exact hfirst.step hnew ⟨rfl, rfl⟩
  have hnew : newDocument r (called r (callEnv july 'c') op) := Option.isNone_iff_eq_none.1 (by decide +kernel)
  refine ⟨_, _, htrace, rfl, congrArg Position.ofNext hnext', ?_,
    plainRepository.listing_stable ⟨hreach, rfl, rfl⟩ htrace fun taken htaken e he => ?_⟩
  · rw [List.map_append, hitems']
    exact congrArg (· ++ ["db"]) hitems
  · rcases List.mem_cons.1 htaken with rfl | htaken
    · cases he
    · rcases List.mem_cons.1 htaken with rfl | htaken
      · cases he
        exact hnew
      · cases List.mem_singleton.1 htaken
        cases he

end RoutePilot.Knowledge
