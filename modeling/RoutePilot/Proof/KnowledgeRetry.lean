/-
  Retries of an ingestion.

  An accepted call leaves its hash under its key, and no later call of anyone removes
  it (`idempotency_kept`).  A retry finds it, and repeats the answer if the two bodies
  were parsed to the same payload, which an omitted `observed_at` prevents.
-/
import RoutePilot.Knowledge.Specs
import RoutePilot.Spec.Knowledge

namespace RoutePilot.Knowledge

open Lib Lts

variable {F : Type}

/-! ## Payloads -/

/-- Two parsings give one payload, if the body says when its document was observed, or both are made at one time. -/
theorem payload_eq_iff {given : GivenFields} {t t' : Time} {contentHash : String} :
    (given.request t).payload contentHash = (given.request t').payload contentHash ↔
      given.observedAt.isSome ∨ t = t' := by
  constructor
  · intro h
    have hobserved : given.observedAt.getD t = given.observedAt.getD t' := congrArg RequestPayload.observedAt h
    cases hgiven : given.observedAt with
    | none =>
      rw [hgiven] at hobserved
      exact .inr hobserved
    | some observedAt => exact .inl rfl
  · rintro (h | rfl)
    · obtain ⟨observedAt, hgiven⟩ := Option.isSome_iff_exists.1 h
      unfold GivenFields.request IngestDocumentRequest.payload
      rw [hgiven]
      rfl
    · rfl

/-- The content aside, payloads agree whatever the content. -/
theorem payload_congr {request request' : IngestDocumentRequest} {contentHash contentHash' : String}
    (h : request.payload contentHash = request'.payload contentHash') (content : String) :
    request.payload content = request'.payload content :=
  congrArg (fun p => { p with contentHash := content }) h

theorem sameText_request (given : GivenFields) (t t' : Time) : (given.request t).SameText (given.request t') :=
  ⟨rfl, rfl, rfl⟩

theorem replay_fields {a b : IngestResult} (h : a.replay = b.replay) : b.sourceId = a.sourceId ∧
    b.documentId = a.documentId ∧ b.contentHash = a.contentHash ∧ b.chunkCount = a.chunkCount := by
  cases a
  cases b
  cases h
  exact ⟨rfl, rfl, rfl, rfl⟩

namespace RepositoryConfig
variable (c : RepositoryConfig F)

/-! ## The table of keys -/

/-- A successful ingestion leaves its hash and its answer under the key. -/
theorem ingest_entry {env : Env F} {context : AuthorizedKnowledgeContext} {request : IngestDocumentRequest}
    {key : String} {r : Repository F} {a : IngestResult}
    (h : outcome ((c.ingest env context request key).run r) = .ok a) :
    ∃ prepared result, c.probe env context request key = .ok prepared ∧
      (final ((c.ingest env context request key).run r)).idempotency.get? (scopeOf context request, key) =
        some ⟨prepared.requestHash, result⟩ ∧ a.replay = result.replay := by
  have hcases := c.ingest_cases env context request key r
  rw [h] at hcases
  generalize final ((c.ingest env context request key).run r) = after at hcases
  cases hcases with
  | replayed prepared existing hprobe hkey heq =>
    refine ⟨prepared, existing.result, hprobe, ?_, rfl⟩
    rw [← heq]
    exact hkey
  | known prepared result hprobe => exact ⟨prepared, result, hprobe, Dict.get?_set_self .., rfl⟩
  | new probed prepared vectors vectorStatus hprobe _ _ hprepared =>
    refine ⟨probed, _, hprobe, ?_, rfl⟩
    rw [← c.prepareIngestion_hash hprobe hprepared]
    exact Dict.get?_set_self ..

/-- No call changes what is kept under a key. -/
theorem idempotency_kept_step {r r' : Repository F} {e : Entry F} (hstep : c.knowledge.step r e r')
    {k : String × String} {record : IdempotencyRecord} (h : r.idempotency.get? k = some record) :
    r'.idempotency.get? k = some record := by
  obtain ⟨-, hfinal⟩ := hstep
  have hset : ∀ {k' : String × String} {record'}, r.idempotency.get? k' = none →
      (r.idempotency.set k' record').get? k = some record := by
    intro k' record' hnone
    rw [Dict.get?_set_ne _ fun heq => by rw [heq, hnone] at h; cases h]
    exact h
  cases hop : e.op with
  | ingest context request key =>
    rw [hop, call, final_map] at hfinal
    have hcases := c.ingest_cases e.env context request key r
    rw [← hfinal] at hcases
    generalize outcome ((c.ingest e.env context request key).run r) = out at hcases
    cases hcases with
    | refused => exact h
    | conflict => exact h
    | replayed => exact h
    | unembedded => exact h
    | known _ _ _ hkey => exact hset hkey
    | new _ _ _ _ _ hkey => exact hset hkey
  | changeStatus context documentId command key =>
    rw [hop, call, final_map] at hfinal
    have hcases := c.changeDocumentStatus_cases e.env.now context documentId command key r
    rw [← hfinal] at hcases
    generalize outcome ((c.changeDocumentStatus e.env.now context documentId command key).run r) = out at hcases
    cases hcases <;> exact h

theorem idempotency_kept {r r' : Repository F} (h : c.knowledge.Steps anyStep r r') {k : String × String}
    {record : IdempotencyRecord} (hk : r.idempotency.get? k = some record) : r'.idempotency.get? k = some record := by
  induction h with
  | refl => exact hk
  | tail _ hstep ih =>
    obtain ⟨e, -, hstep⟩ := hstep
    exact c.idempotency_kept_step hstep ih

/-! ## Submissions -/

section
variable {c} (R : Readers) {s : Submission} {o : Occasion F}

theorem submitted_of_parsed {request : IngestDocumentRequest}
    (h : parseIngestRequest R o.parsedAt s.body = .ok request) :
    outcome (c.submitted R s o) = (outcome ((c.ingest o.env s.context request s.key).run o.before)).mapError .raised ∧
      final (c.submitted R s o) = final ((c.ingest o.env s.context request s.key).run o.before) := by
  show outcome ((c.submit R s o.env o.parsedAt) o.before) = _ ∧ final ((c.submit R s o.env o.parsedAt) o.before) = _
  simp only [submit, h]
  cases (c.ingest o.env s.context request s.key).run o.before <;> exact ⟨rfl, rfl⟩

/-- What is refused once is refused always. -/
theorem rejects_of_refuses (h : c.Refuses R s o) : ∃ e, c.Rejects R s e := by
  unfold Refuses at h
  obtain ⟨errors, hbad⟩ | ⟨given, -, hgood⟩ := parseIngestRequest_cases R s.body
  · refine ⟨.invalid errors, fun env parsedAt r => ?_⟩
    show (c.submit R s env parsedAt) r = _
    simp only [submit, hbad]
  · simp only [hgood] at h
    obtain ⟨e, he⟩ := h
    refine ⟨.raised e, fun env parsedAt r => ?_⟩
    show (c.submit R s env parsedAt) r = _
    have hprobe : c.probe env s.context (given.request parsedAt) s.key = .error e :=
      c.probe_error_congr (sameText_request given parsedAt o.parsedAt) rfl he
    simp only [submit, hgood, c.ingest_of_refused hprobe]

/-- An accepted submission is rejected on no other occasion for what it says. -/
theorem not_rejects {request : IngestDocumentRequest} {prepared : PreparedIngestion}
    (hparse : parseIngestRequest R o.parsedAt s.body = .ok request)
    (hprobe : c.probe o.env s.context request s.key = .ok prepared) (e : SubmitError) : ¬ c.Rejects R s e := by
  intro h
  let result : IngestResult := ⟨"", "", "", 0, .published, false, false, .disabled⟩
  let r : Repository F :=
    { idempotency :=
        Dict.empty.set (scopeKey s.context.tenantId request.visibilityScope, s.key) ⟨prepared.requestHash, result⟩ }
  have hrun := (submitted_of_parsed (c := c) R (o := { o with before := r }) hparse).1
  rw [c.ingest_of_same_key hprobe (Dict.get?_set_self ..) rfl] at hrun
  have hbad : c.submitted R s { o with before := r } = .error e r := h o.env o.parsedAt r
  rw [hbad] at hrun
  cases hrun

/-- The parsing and the probe of a submission that is not refused. -/
theorem parsed_of_not_refuses (h : ¬ c.Refuses R s o) : ∃ given prepared, givenFields R s.body = .ok given ∧
    (∀ t, parseIngestRequest R t s.body = .ok (given.request t)) ∧
    c.probe o.env s.context (given.request o.parsedAt) s.key = .ok prepared := by
  unfold Refuses at h
  obtain ⟨errors, hbad⟩ | ⟨given, hgiven, hgood⟩ := parseIngestRequest_cases R s.body
  · simp only [hbad, not_true_eq_false] at h
  · simp only [hgood] at h
    cases hprobe : c.probe o.env s.context (given.request o.parsedAt) s.key with
    | error e => exact absurd ⟨e, hprobe⟩ h
    | ok prepared => exact ⟨given, prepared, hgiven, hgood, hprobe⟩

/-- Which submissions succeed. -/
theorem submitted_ok_iff : (∃ a, outcome (c.submitted R s o) = .ok a) ↔ c.Accepting R s o := by
  constructor
  · rintro ⟨a, ha⟩
    obtain ⟨errors, hbad⟩ | ⟨given, -, hgood⟩ := parseIngestRequest_cases R s.body
    · have : c.submitted R s o = .error (.invalid errors) o.before := by
        show c.submit R s o.env o.parsedAt o.before = _
        simp only [submit, hbad]
      rw [this] at ha
      cases ha
    · rw [(submitted_of_parsed R (hgood o.parsedAt)).1] at ha
      have hcases := c.ingest_cases o.env s.context (given.request o.parsedAt) s.key o.before
      generalize outcome ((c.ingest o.env s.context (given.request o.parsedAt) s.key).run o.before) = out at hcases ha
      generalize final ((c.ingest o.env s.context (given.request o.parsedAt) s.key).run o.before) = after at hcases
      cases hcases with
      | refused => cases ha
      | conflict => cases ha
      | unembedded => cases ha
      | replayed prepared existing hprobe hkey heq =>
        refine ⟨_, prepared, hgood _, hprobe, ?_⟩
        simp only [scopeOf, hkey]
        exact heq
      | known prepared result hprobe hkey hcontent =>
        refine ⟨_, prepared, hgood _, hprobe, ?_⟩
        simp only [scopeOf, hkey, hcontent]
        exact nofun
      | new probed prepared vectors vectorStatus hprobe hkey hcontent hprepared hembed =>
        refine ⟨_, probed, hgood _, hprobe, ?_⟩
        simp only [scopeOf, hkey]
        rw [c.embedChunks_congr o.env (c.prepareIngestion_length hprobe hprepared)] at hembed
        exact fun _ => ⟨_, hembed⟩
  · rintro ⟨request, prepared, hparse, hprobe, htable⟩
    rw [(submitted_of_parsed R hparse).1]
    have hcases := c.ingest_cases o.env s.context request s.key o.before
    generalize outcome ((c.ingest o.env s.context request s.key).run o.before) = out at hcases
    generalize final ((c.ingest o.env s.context request s.key).run o.before) = after at hcases
    cases hcases with
    | refused e h => cases hprobe.symm.trans h
    | conflict prepared' existing h hkey hne =>
      cases hprobe.symm.trans h
      simp only [scopeOf, hkey] at htable
      exact absurd htable hne
    | unembedded probed prepared' e h hkey hcontent hprepared hembed =>
      cases hprobe.symm.trans h
      simp only [scopeOf, hkey] at htable
      obtain ⟨embedded, hok⟩ := htable hcontent
      rw [c.embedChunks_congr o.env (c.prepareIngestion_length hprobe hprepared)] at hembed
      cases hembed.symm.trans hok
    | replayed _ existing => exact ⟨_, rfl⟩
    | known _ result => exact ⟨_, rfl⟩
    | new => exact ⟨_, rfl⟩

/-- An accepted submission is refused on no occasion. -/
theorem not_refuses {o o' : Occasion F} (h : c.Accepting R s o) : ¬ c.Refuses R s o' := by
  intro hrefuses
  obtain ⟨request, prepared, hparsed, hprobe, -⟩ := h
  obtain ⟨e, hrejects⟩ := rejects_of_refuses R hrefuses
  exact not_rejects R hparsed hprobe e hrejects

/-- What an accepted submission leaves for the later ones. -/
theorem entry_of_submitted {s' : Submission} {first second : Occasion F} {a : IngestResult}
    (hbetween : c.knowledge.Steps anyStep (final (c.submitted R s first)) second.before)
    (ha : outcome (c.submitted R s first) = .ok a) {given : GivenFields}
    (hparse : ∀ t, parseIngestRequest R t s.body = .ok (given.request t)) {scope : String}
    (hkey : s'.key = s.key) (hscope : scope = scopeOf s.context (given.request first.parsedAt)) :
    ∃ sanitized result, sanitizedText c.tools (given.request first.parsedAt) = .ok sanitized ∧
      second.before.idempotency.get? (scope, s'.key) =
        some ⟨c.tools.sha256 (c.tools.payloadText
          ((given.request first.parsedAt).payload (c.tools.sha256 sanitized.content))), result⟩ ∧
      a.replay = result.replay := by
  have hrun := submitted_of_parsed R (c := c) (o := first) (hparse first.parsedAt)
  rw [hrun.2] at hbetween
  have hok : outcome ((c.ingest first.env s.context (given.request first.parsedAt) s.key).run first.before) =
    .ok a := by
    rw [hrun.1] at ha
    cases hout : outcome ((c.ingest first.env s.context (given.request first.parsedAt) s.key).run first.before) with
    | error e =>
      rw [hout] at ha
      cases ha
    | ok a' =>
      rw [hout] at ha
      cases ha
      rfl
  obtain ⟨prepared, result, hprobe, hentry, hreplay⟩ := c.ingest_entry hok
  obtain ⟨sanitized, hsanitized, hhash⟩ := c.probe_of hprobe
  refine ⟨sanitized, result, hsanitized, ?_, hreplay⟩
  rw [hkey, hscope, ← hhash]
  exact c.idempotency_kept hbetween hentry

/-- The hash of what is submitted, if it can be read. -/
def hashOf (c : RepositoryConfig F) (R : Readers) (s : Submission) (o : Occasion F) : Option String :=
  (parseIngestRequest R o.parsedAt s.body).toOption.bind fun request =>
    (c.probe o.env s.context request s.key).toOption.map (·.requestHash)

/-- A retry succeeds with the hash of the first submission only. -/
theorem hashOf_retried {first second : Occasion F}
    (hbetween : c.knowledge.Steps anyStep (final (c.submitted R s first)) second.before) {a b : IngestResult}
    (ha : outcome (c.submitted R s first) = .ok a) (hb : outcome (c.submitted R s second) = .ok b) :
    hashOf c R s first = hashOf c R s second := by
  obtain ⟨request, prepared, hparse, hprobe, -⟩ := (submitted_ok_iff R).1 ⟨a, ha⟩
  obtain ⟨request', prepared', hparse', hprobe', htable⟩ := (submitted_ok_iff R).1 ⟨b, hb⟩
  obtain ⟨errors, hbad⟩ | ⟨given, -, hgood⟩ := parseIngestRequest_cases R s.body
  · cases (hbad _).symm.trans hparse
  cases (hgood _).symm.trans hparse
  cases (hgood _).symm.trans hparse'
  obtain ⟨sanitized, result, hsanitized, hentry, -⟩ := entry_of_submitted R hbetween ha hgood (show s.key = _ from rfl)
    (show scopeOf s.context (given.request second.parsedAt) = _ from rfl)
  simp only [hentry] at htable
  obtain ⟨sanitized', hsanitized', hhash⟩ := c.probe_of hprobe
  cases hsanitized'.symm.trans hsanitized
  simp only [hashOf, hparse, hparse', hprobe, hprobe', Except.toOption, Option.bind_some, Option.map_some, hhash,
    htable]

/-- **Retries.**  A retried body is answered as before exactly if it is refused, or its first submission is accepted
    and both are parsed to the same time of observation; a body that says something else always conflicts. -/
theorem submit_retried_iff {first second : Occasion F}
    (hbetween : c.knowledge.Steps anyStep (final (c.submitted R s first)) second.before)
    (hdigest : ∀ given contentHash, givenFields R s.body = .ok given →
      c.tools.Distinguishes ((given.request first.parsedAt).payload contentHash)
        ((given.request second.parsedAt).payload contentHash)) :
    (c.Retried R s first second ↔ c.Refuses R s first ∨
      c.Accepting R s first ∧ (GivesObservedAt R s.body ∨ first.parsedAt = second.parsedAt)) ∧
    c.RejectsOther R s first second := by
  refine ⟨⟨fun h => ?_, ?_⟩, ?_⟩
  · by_cases hrefuses : c.Refuses R s first
    · exact .inl hrefuses
    obtain ⟨given, prepared, hgiven, hparse, hprobe⟩ := parsed_of_not_refuses R hrefuses
    obtain ⟨e, hrejects⟩ | ⟨a, b, ha, hb, -⟩ := h
    · exact absurd hrejects (not_rejects R (hparse _) hprobe e)
    refine .inr ⟨(submitted_ok_iff R).1 ⟨a, ha⟩, ?_⟩
    obtain ⟨sanitized, result, hsanitized, hentry, -⟩ :=
      entry_of_submitted R hbetween ha hparse (show s.key = _ from rfl)
      (show scopeOf s.context (given.request second.parsedAt) = _ from rfl)
    obtain ⟨request₂, prepared₂, hparse₂, hprobe₂, htable⟩ := (submitted_ok_iff R).1 ⟨b, hb⟩
    cases (hparse _).symm.trans hparse₂
    simp only [hentry] at htable
    obtain ⟨sanitized₂, hsanitized₂, hhash₂⟩ := c.probe_of hprobe₂
    cases (sanitizedText_congr c.tools (sameText_request given _ _)).symm.trans hsanitized |>.symm.trans hsanitized₂
    have hpayload := payload_eq_iff.1 (hdigest given _ hgiven (htable.trans hhash₂))
    exact hpayload.imp_left fun h => ⟨given, hgiven, h⟩
  · rintro (hrefuses | ⟨haccepting, hobserved⟩)
    · exact .inl (rejects_of_refuses R hrefuses)
    obtain ⟨a, ha⟩ := (submitted_ok_iff R).2 haccepting
    obtain ⟨given, prepared₂, hgiven, hparse, hprobe₂⟩ := parsed_of_not_refuses R
      (show ¬ c.Refuses R s second from not_refuses R haccepting)
    obtain ⟨sanitized, result, hsanitized, hentry, hreplay⟩ :=
      entry_of_submitted R hbetween ha hparse (show s.key = _ from rfl)
      (show scopeOf s.context (given.request second.parsedAt) = _ from rfl)
    obtain ⟨sanitized₂, hsanitized₂, hhash₂⟩ := c.probe_of hprobe₂
    cases (sanitizedText_congr c.tools (sameText_request given _ _)).symm.trans hsanitized |>.symm.trans hsanitized₂
    have hobserved' : given.observedAt.isSome ∨ first.parsedAt = second.parsedAt := by
      refine hobserved.imp_left ?_
      rintro ⟨given', hgiven', hsome⟩
      cases hgiven.symm.trans hgiven'
      exact hsome
    have hrun := submitted_of_parsed R (c := c) (o := second) (hparse second.parsedAt)
    rw [c.ingest_of_same_key hprobe₂ hentry
      ((congrArg (fun p => c.tools.sha256 (c.tools.payloadText p))
        (payload_eq_iff.2 hobserved')).trans hhash₂.symm)] at hrun
    obtain ⟨hsource, hdocument, hcontent, hcount⟩ := replay_fields hreplay
    refine .inr ⟨a, result.replay, ha, hrun.1, hsource, hdocument, hcontent, hcount, rfl, ?_, ?_, ?_⟩
    · rw [hrun.2]
      rfl
    · rw [hrun.2]
      rfl
    · rw [hrun.2]
      rfl
  · intro s' given given' sanitized sanitized' haccepting hrefuses hgiven hgiven' hclean hclean' hkey hscope hother
      hcontent hdistinct
    obtain ⟨a, ha⟩ := (submitted_ok_iff R).2 haccepting
    obtain ⟨given₁, -, hgiven₁, hparse, -⟩ := parsed_of_not_refuses R
      (show ¬ c.Refuses R s first from not_refuses R haccepting)
    cases hgiven.symm.trans hgiven₁
    obtain ⟨given₂, prepared, hgiven₂, hparse', hprobe⟩ := parsed_of_not_refuses R hrefuses
    cases hgiven'.symm.trans hgiven₂
    obtain ⟨_, result, hsanitized, hentry, -⟩ := entry_of_submitted R hbetween ha hparse hkey hscope
    cases hclean.symm.trans (sanitizedText_ok c.tools hsanitized)
    obtain ⟨_, hsanitized', hhash⟩ := c.probe_of hprobe
    cases hclean'.symm.trans (sanitizedText_ok c.tools hsanitized')
    have hne : c.tools.sha256 (c.tools.payloadText ((given.request first.parsedAt).payload
        (c.tools.sha256 sanitized.content))) ≠ prepared.requestHash := by
      intro heq
      have hpayload := hdistinct (heq.trans hhash)
      have hsame := hcontent (congrArg RequestPayload.contentHash hpayload)
      refine hother ⟨first.parsedAt, second.parsedAt, ?_⟩
      rw [← hsame]
      exact payload_congr hpayload _
    show c.submit R s' second.env second.parsedAt second.before = _
    simp only [submit, hparse', c.ingest_of_other_key hprobe hentry hne]

end

end RepositoryConfig

/-! ## A body with and without a time of observation -/

/-- The libraries, on the values below. -/
def lakeReaders : Readers where
  urlsplit _ := .ok { scheme := "https", hostname := some "example.org", username := none, password := none,
                      port := none, path := "/lake", query := "" }
  ipAddress _ := none
  urlunsplit scheme netloc path _ _ := scheme ++ "://" ++ netloc ++ path
  datetime
    | .str "2026-07-01T00:00:00Z" => some (some july)
    | _ => none
  bool
    | .bool b => some b
    | _ => none
  int
    | .int n => some n
    | _ => none
  floatText := { repr := fun _ => ['0', '.', '5'], oneLine := fun _ => (by decide : Json.OneLine ['0', '.', '5']) }

def lakeBody (observedAt : Obj) : Json :=
  .obj ([("canonical_source_uri", .str "https://example.org/lake"), ("source_type", .str "guide"),
    ("source_version", .str "1"), ("title", .str "Lake"), ("content", .str "hello"), ("corpus_revision", .str "r1"),
    ("trust_tier", .str "operator"),
    ("license", .obj [("license_id", .str "cc0"), ("usage_policy", .str "any")])] ++ observedAt)

def lakeSubmission (observedAt : Obj) : Submission where
  context := manager "north" north_stripped north_length ["tenant_admin"]
  body := lakeBody observedAt
  key := "private-1"

def firstOccasion : Occasion ℕ := ⟨callEnv july 'a', july, {}⟩

/-- A second later, with nothing in between. -/
def secondOccasion (observedAt : Obj) : Occasion ℕ :=
  ⟨callEnv (july + 1_000_000) 'b', july + 1_000_000,
    final (plainRepository.submitted lakeReaders (lakeSubmission observedAt) firstOccasion)⟩

/-- A retry of a body without `observed_at` conflicts with its first submission. -/
theorem retry_conflicts : ¬ ∀ (s : Submission) (first second : Occasion ℕ),
    plainRepository.knowledge.Steps anyStep (final (plainRepository.submitted lakeReaders s first)) second.before →
    plainRepository.Retried lakeReaders s first second := by
  intro h
  have hfirst : (outcome (plainRepository.submitted lakeReaders (lakeSubmission []) firstOccasion)).isOk = true := by
    decide +kernel
  have hother : plainRepository.hashOf lakeReaders (lakeSubmission []) firstOccasion ≠
      plainRepository.hashOf lakeReaders (lakeSubmission []) (secondOccasion []) := by decide +kernel
  obtain ⟨e, hrejects⟩ | ⟨a, b, ha, hb, -⟩ := h (lakeSubmission []) firstOccasion (secondOccasion []) .refl
  · have hbad : plainRepository.submitted lakeReaders (lakeSubmission []) firstOccasion = .error e {} := hrejects _ _ _
    rw [hbad] at hfirst
    cases hfirst
  · exact hother (RepositoryConfig.hashOf_retried lakeReaders .refl ha hb)

theorem submit_retried_iff_lake :
    let given : Obj := [("observed_at", .str "2026-07-01T00:00:00Z")]
    (plainRepository.Retried lakeReaders (lakeSubmission given) firstOccasion (secondOccasion given) ↔
      plainRepository.Refuses lakeReaders (lakeSubmission given) firstOccasion ∨
        plainRepository.Accepting lakeReaders (lakeSubmission given) firstOccasion ∧
          (GivesObservedAt lakeReaders (lakeSubmission given).body ∨ july = july + 1_000_000)) ∧
    plainRepository.RejectsOther lakeReaders (lakeSubmission given) firstOccasion (secondOccasion given) := by
  intro given
  refine RepositoryConfig.submit_retried_iff lakeReaders .refl ?_
  intro fields contentHash hfields _
  have hobserved : (givenFields lakeReaders (lakeSubmission given).body).map (fun g => g.observedAt.isSome) =
    .ok true := by
    decide +kernel
  rw [hfields] at hobserved
  exact payload_eq_iff.2 (.inl (Except.ok.inj hobserved))

end RoutePilot.Knowledge
