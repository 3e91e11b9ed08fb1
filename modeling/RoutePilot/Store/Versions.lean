/-
  Artifact versions are immutable and linearly numbered.

  An operation appends at most one version to one Artifact, and otherwise
  rewrites statuses in place: without their statuses (`frozen`), the versions
  of an Artifact only grow at their end.
-/
import RoutePilot.Store.ArtifactSpecs

namespace RoutePilot

open Lib Lts

/-- A version without its status. -/
def ArtifactView.frozen (a : ArtifactView) : ArtifactView := { a with status := .candidate }

/-- What the versions of one Artifact share. -/
def ArtifactView.identity (a : ArtifactView) : String × String × String × ℕ :=
  (a.tripId, a.tenantId, a.artifactType, a.schemaVersion)

/-- The header of a content names this version. -/
def ArtifactView.Heads (a : ArtifactView) (content : Obj) : Prop :=
  isStr a.artifactId (content.get? "artifact_id") = true ∧
    isStr a.artifactType (content.get? "artifact_type") = true ∧
    isInt a.schemaVersion (content.get? "schema_version") = true ∧
    isInt a.version (content.get? "version") = true

/-- The versions of one Artifact: numbered from 1, of one identity, each patched one with its
    parent and its header. -/
structure Lineage (id : String) (versions : List ArtifactView) : Prop where
  numbers : versions.map (·.version) = List.range' 1 versions.length
  key : ∀ a ∈ versions, a.artifactId = id
  identity : ∀ a ∈ versions, ∀ b ∈ versions, a.identity = b.identity
  parent : ∀ a ∈ versions, 1 < a.version → a.parentVersion = some (a.version - 1)
  header : ∀ a ∈ versions, 1 < a.version → a.Heads a.content

theorem Lineage.nil (id : String) : Lineage id [] where
  numbers := rfl
  key _ ha := absurd ha List.not_mem_nil
  identity _ ha := absurd ha List.not_mem_nil
  parent _ ha := absurd ha List.not_mem_nil
  header _ ha := absurd ha List.not_mem_nil

/-- The statuses do not matter. -/
theorem Lineage.congr {id : String} {versions versions' : List ArtifactView} (h : Lineage id versions)
    (hf : versions'.map ArtifactView.frozen = versions.map ArtifactView.frozen) :
    Lineage id versions' := by
  have hlen : versions'.length = versions.length := by simpa using congrArg List.length hf
  have hmem : ∀ a ∈ versions', ∃ b ∈ versions, a.frozen = b.frozen := by
    intro a ha
    have : a.frozen ∈ versions'.map ArtifactView.frozen := List.mem_map_of_mem ha
    rw [hf] at this
    obtain ⟨b, hb, he⟩ := List.mem_map.1 this
    exact ⟨b, hb, he.symm⟩
  have hfield : ∀ {α : Type} (g : ArtifactView → α), (∀ a, g a.frozen = g a) →
      ∀ {a b : ArtifactView}, a.frozen = b.frozen → g a = g b := by
    intro α g hg a b he
    rw [← hg a, ← hg b, he]
  refine ⟨?_, fun a ha => ?_, fun a ha b hb => ?_, fun a ha hv => ?_, fun a ha hv => ?_⟩
  · have hmap : ∀ l : List ArtifactView, l.map (·.version) = (l.map ArtifactView.frozen).map (·.version) := by
      intro l
      rw [List.map_map]
      rfl
    rw [hmap, hf, ← hmap, h.numbers, hlen]
  · obtain ⟨b, hb, he⟩ := hmem a ha
    exact (hfield (·.artifactId) (fun _ => rfl) he).trans (h.key b hb)
  · obtain ⟨a', ha', hea⟩ := hmem a ha
    obtain ⟨b', hb', heb⟩ := hmem b hb
    rw [hfield ArtifactView.identity (fun _ => rfl) hea,
      hfield ArtifactView.identity (fun _ => rfl) heb]
    exact h.identity a' ha' b' hb'
  · obtain ⟨b, hb, he⟩ := hmem a ha
    have hver := hfield (·.version) (fun _ => rfl) he
    have hpar := hfield (·.parentVersion) (fun _ => rfl) he
    rw [hpar, hver]
    exact h.parent b hb (hver ▸ hv)
  · obtain ⟨b, hb, he⟩ := hmem a ha
    have hver := hfield (·.version) (fun _ => rfl) he
    have hhead := hfield (fun a => a.Heads a.content) (fun _ => rfl) he
    rw [hhead]
    exact h.header b hb (hver ▸ hv)

theorem Lineage.mem_version {id : String} {versions : List ArtifactView} (h : Lineage id versions)
    {a : ArtifactView} (ha : a ∈ versions) : 1 ≤ a.version ∧ a.version ≤ versions.length := by
  have hm : a.version ∈ List.range' 1 versions.length := by
    rw [← h.numbers]
    exact List.mem_map_of_mem ha
  rw [List.mem_range'_1] at hm
  omega

theorem Lineage.versionsOk {id : String} {versions : List ArtifactView} (h : Lineage id versions) :
    VersionsOk id versions where
  key := h.key
  distinct := by
    have hn : (versions.map (·.version)).Nodup := by
      rw [h.numbers]
      exact List.nodup_range'
    exact List.pairwise_map.1 hn

/-- The newest version has the greatest number. -/
theorem Lineage.latest {id : String} {versions : List ArtifactView} (h : Lineage id versions)
    {a : ArtifactView} (ha : latestVersion versions = some a) : a.version = versions.length := by
  obtain ⟨hm, hle⟩ := latestVersion_spec ha
  obtain ⟨hpos, hbound⟩ := h.mem_version hm
  have hlast : versions.length ∈ versions.map (·.version) := by
    rw [h.numbers, List.mem_range'_1]
    omega
  obtain ⟨b, hb, he⟩ := List.mem_map.1 hlast
  have := hle b hb
  omega

/-! ## What an operation does to the versions of one Artifact -/

/-- The versions keep all but their statuses, or one version is appended. -/
inductive VersionStep (id : String) (versions versions' : List ArtifactView) : Prop
  | same (h : versions'.map ArtifactView.frozen = versions.map ArtifactView.frozen)
  | first (a : ArtifactView) (h : versions = []) (h' : versions' = [a]) (hid : a.artifactId = id)
      (hversion : a.version = 1)
  | next (current a : ArtifactView) (hlatest : latestVersion versions = some current)
      (h' : versions' = versions ++ [a]) (hid : a.artifactId = current.artifactId)
      (hversion : a.version = current.version + 1) (hparent : a.parentVersion = some current.version)
      (hidentity : a.identity = current.identity) (hheads : a.Heads a.content)

theorem VersionStep.lineage {id : String} {versions versions' : List ArtifactView}
    (hs : VersionStep id versions versions') (h : Lineage id versions) : Lineage id versions' := by
  cases hs with
  | same hf => exact h.congr hf
  | first a hn hn' hid hversion =>
    subst hn'
    refine ⟨by simp [hversion], ?_, ?_, ?_, ?_⟩
    · intro b hb
      rw [List.mem_singleton.1 hb]; exact hid
    · intro b hb c hc
      rw [List.mem_singleton.1 hb, List.mem_singleton.1 hc]
    · intro b hb hv
      rw [List.mem_singleton.1 hb, hversion] at hv; omega
    · intro b hb hv
      rw [List.mem_singleton.1 hb, hversion] at hv; omega
  | next current a hlatest hn' hid hversion hparent hidentity hheads =>
    subst hn'
    obtain ⟨hm, -⟩ := latestVersion_spec hlatest
    have hlen := h.latest hlatest
    have hall : ∀ b ∈ versions ++ [a], b.identity = current.identity := by
      intro b hb
      obtain hb | hb := List.mem_append.1 hb
      · exact h.identity b hb current hm
      · rw [List.mem_singleton.1 hb]; exact hidentity
    refine ⟨?_, fun b hb => ?_, fun b hb c hc => ?_, fun b hb hv => ?_, fun b hb hv => ?_⟩
    · rw [List.map_append, h.numbers, List.length_append, List.map_singleton, hversion, hlen]
      rw [List.length_singleton, List.range'_1_concat, Nat.add_comm]
    · obtain hb | hb := List.mem_append.1 hb
      · exact h.key b hb
      · rw [List.mem_singleton.1 hb, hid]; exact h.key current hm
    · rw [hall b hb, hall c hc]
    · obtain hb | hb := List.mem_append.1 hb
      · exact h.parent b hb hv
      · rw [List.mem_singleton.1 hb, hparent, hversion]; rfl
    · obtain hb | hb := List.mem_append.1 hb
      · exact h.header b hb hv
      · rw [List.mem_singleton.1 hb]; exact hheads

theorem VersionStep.grows {id : String} {versions versions' : List ArtifactView}
    (hs : VersionStep id versions versions') :
    versions.map ArtifactView.frozen <+: versions'.map ArtifactView.frozen := by
  cases hs with
  | same hf => exact ⟨[], by rw [hf, List.append_nil]⟩
  | first a hn hn' => rw [hn]; exact List.nil_prefix
  | next current a hlatest hn' => rw [hn', List.map_append]; exact List.prefix_append _ _

/-! ## The operations -/

/-- `versions[versions.index(stored)] = updated` for a change of the status. -/
theorem replaceVersion_frozen {id : String} {versions : List ArtifactView} (h : VersionsOk id versions)
    {stored : ArtifactView} (hm : stored ∈ versions) (s : ArtifactStatus) :
    (replaceVersion versions { stored with status := s }).map ArtifactView.frozen =
      versions.map ArtifactView.frozen := by
  rw [replaceVersion, List.map_map]
  refine List.map_congr_left fun a ha => ?_
  simp only [Function.comp_apply]
  split
  · next hv =>
    -- version numbers are distinct, so this is the stored version
    have h₁ := (findVersion_eq_some h).2 ⟨ha, hv⟩
    have h₂ := (findVersion_eq_some h).2 ⟨hm, rfl⟩
    rw [h₂] at h₁
    cases h₁
    rfl
  · rfl

theorem supersede_frozen (q : ArtifactView → Bool) (versions : List ArtifactView) :
    (supersede q versions).map ArtifactView.frozen = versions.map ArtifactView.frozen := by
  rw [supersede, List.map_map]
  refine List.map_congr_left fun a _ => ?_
  simp only [Function.comp_apply]
  split <;> rfl

/-- The versions of the store keep all but their statuses. -/
def Store.SameVersions (st st' : Store) : Prop := ∀ id,
  (st'.artifacts.getD id []).map ArtifactView.frozen = (st.artifacts.getD id []).map ArtifactView.frozen

theorem Store.SameVersions.of_artifacts {st st' : Store} (h : st'.artifacts = st.artifacts) :
    st.SameVersions st' := fun id => by rw [h]

theorem Store.SameVersions.trans {st₁ st₂ st₃ : Store} (h : st₁.SameVersions st₂)
    (h' : st₂.SameVersions st₃) : st₁.SameVersions st₃ := fun id => (h' id).trans (h id)

theorem withStatus_same {st : Store} {id : String} {stored : ArtifactView}
    (h : VersionsOk id (st.artifacts.getD id [])) (hm : stored ∈ st.artifacts.getD id [])
    (s : ArtifactStatus) : st.SameVersions (withStatus id stored s st) := by
  intro k
  simp only [withStatus, Dict.getD_set]
  split
  · next hk => rw [hk]; exact replaceVersion_frozen h hm s
  · rfl

theorem withSuperseded_same (q : ArtifactView → Bool) (st : Store) :
    st.SameVersions (withSuperseded q st) := by
  intro k
  have hget : (st.artifacts.mapValues (supersede q)).getD k [] =
      supersede q (st.artifacts.getD k []) := Dict.getD_mapValues _ (supersede q) k []
  show ((st.artifacts.mapValues (supersede q)).getD k []).map _ = _
  rw [hget]
  exact supersede_frozen q _

theorem publishResult_same {env : Env} {p : Principal} {run : RunView} {result : ArtifactView}
    {st : Store} (hok : st.ArtifactsOk) :
    st.SameVersions (final ((publishResult env p run result).run st)) := by
  have hmem : ∀ {stored}, storedResult result run.tripId st = .ok stored →
      stored ∈ st.artifacts.getD result.artifactId [] := fun hs =>
    ((findVersion_eq_some (hok result.artifactId)).1 (storedResult_ok hs).1).1
  cases h : (publishResult env p run result).run st with
  | ok u st' =>
    obtain ⟨stored, hstored, ⟨-, rfl⟩ | ⟨-, trip, -, -, harts⟩⟩ := publishResult_ok h
    · exact withStatus_same (hok _) (hmem hstored) _
    · have hs := (withStatus_same (hok _) (hmem hstored) .published).trans
        (withSuperseded_same (otherSnapshots run.tripId stored) _)
      exact hs.trans (.of_artifacts harts)
  | error e st' =>
    obtain rfl | ⟨stored, hstored, -, -, rfl⟩ := publishResult_error h
    · exact .of_artifacts rfl
    · exact (withStatus_same (hok _) (hmem hstored) _).trans (withSuperseded_same _ _)

theorem mutateRun_same {env : Env} {p : Principal} {runId : String} {m : RunMutation} {st : Store}
    (hok : st.ArtifactsOk) : st.SameVersions (final ((mutateRun env p runId m).run st)) := by
  have hpub : ∀ run, st.SameVersions
      (final ((m.resultArtifact.forM (publishResult env p run) : StoreM Unit).run st)) := by
    intro run
    cases m.resultArtifact with
    | none => exact .of_artifacts rfl
    | some a => exact publishResult_same hok
  cases h : (mutateRun env p runId m).run st with
  | ok x st' =>
    obtain ⟨run, st₁, hm, -⟩ := mutateRun_ok h
    have h₁ := hpub run
    rw [hm.publish] at h₁
    exact h₁.trans (.of_artifacts (by rw [final_ok, hm.final]; rfl))
  | error e st' =>
    obtain rfl | ⟨run, -, -, -, hp⟩ := mutateRun_error h
    · exact .of_artifacts rfl
    · have h₁ := hpub run
      rwa [hp] at h₁

theorem Commanded.same {env : Env} {artifactId : String} {current : ArtifactView} {trip : TripView}
    {command : ArtifactCommand} {st st' : Store} (hok : st.ArtifactsOk)
    (hlatest : latestVersion (st.artifacts.getD artifactId []) = some current)
    (h : Commanded env artifactId current trip st st' command) : st.SameVersions st' := by
  have hs : ∀ s, st.SameVersions (withStatus artifactId current s st) := fun s =>
    withStatus_same (hok artifactId) (latestVersion_spec hlatest).1 s
  cases h with
  | select _ _ h => exact (hs _).trans (.of_artifacts h)
  | publish _ _ h => exact ((hs _).trans (withSuperseded_same _ _)).trans (.of_artifacts h)
  | revoke _ _ h => exact (hs _).trans (.of_artifacts h)

/-- The checks of a patch. -/
theorem patchArtifact_checked {env : Env} {p : Principal} {artifactId : String}
    {request : ArtifactPatchRequest} {st st' : Store} {a : ArtifactView}
    (h : (patchArtifact env p artifactId request).run st = .ok a st') :
    ∃ current content, artifactLocked p artifactId none true st = .ok current ∧
      current.version = request.baseVersion ∧
      validateArtifactPatchContent env current request = .ok content ∧
      st' = { st with
        artifacts := st.artifacts.set artifactId
          (st.artifacts.getD artifactId [] ++ [nextVersion env current content]) } := by
  simp only [patchArtifact, bind_ok, ask_ok, ensure_ok, EStateM.run_modify, EStateM.run_pure,
    EStateM.Result.ok.injEq, existsAndEq, true_and, exists_const, and_assoc] at h
  obtain ⟨current, hread, _, -, hbase, content, hcontent, rfl, rfl⟩ := h
  exact ⟨current, content, hread, hbase, hcontent, rfl⟩

theorem validateArtifactPatchContent_ok {env : Env} {current : ArtifactView}
    {request : ArtifactPatchRequest} {content : Obj}
    (h : validateArtifactPatchContent env current request = .ok content) :
    { current with version := current.version + 1 : ArtifactView }.Heads request.content ∧
      env.validateContract current.contract request.content = some content := by
  unfold validateArtifactPatchContent at h
  split at h
  · cases h
  · split at h
    · next hheader =>
      split at h
      · next dumped hd => cases h; exact ⟨hheader, hd⟩
      · cases h
    · cases h

/-- A contract dumps the header it has validated.  It is asked only of a content that names the
    version to be appended.  (A contract strips the id in the header, and the id of a stored
    Artifact has no surrounding white space.) -/
def KeepsHeader (st : Store) (c : StoreCall) : Prop :=
  ∀ p id request, c.op = .patchArtifact p id request →
    ∀ current, latestVersion (st.artifacts.getD id []) = some current →
    let next : ArtifactView := { current with version := current.version + 1 }
    next.Heads request.content →
    ∀ dumped, c.env.validateContract current.contract request.content = some dumped → next.Heads dumped

/-- Every version list of the store is a lineage. -/
def Store.Lineages (st : Store) : Prop := ∀ id, Lineage id (st.artifacts.getD id [])

theorem Store.Lineages.artifactsOk {st : Store} (h : st.Lineages) : st.ArtifactsOk :=
  fun id => (h id).versionsOk

/-- **Step lemma.**  What a call does to the versions of every Artifact. -/
theorem StoreCall.versionStep {c : StoreCall} {st : Store} (hok : st.Lineages)
    (hkeep : KeepsHeader st c) (id : String) :
    VersionStep id (st.artifacts.getD id []) ((c.next st).artifacts.getD id []) := by
  obtain ⟨env, o⟩ := c
  by_cases hw : o.WritesArtifacts
  · cases o with
    | createTrip => exact .same rfl
    | patchTrip p tripId request =>
      obtain ⟨x, st', h, hn⟩ | ⟨e, st', h, hn⟩ := next_cases env (.patchTrip p tripId request) st
      · obtain ⟨t, -, rfl⟩ := patchTrip_ok h
        rw [hn]; exact .same rfl
      · rw [hn, patchTrip_error h]; exact .same rfl
    | setTripStatus p tripId status =>
      obtain ⟨x, st', h, hn⟩ | ⟨e, st', h, hn⟩ := next_cases env (.setTripStatus p tripId status) st
      · obtain ⟨t, -, rfl⟩ := setTripStatus_ok h
        rw [hn]; exact .same rfl
      · rw [hn, setTripStatus_error h]; exact .same rfl
    | mutateRun p runId m => exact .same (mutateRun_same hok.artifactsOk id)
    | createArtifact p a =>
      obtain ⟨x, st', h, hn⟩ | ⟨e, st', h, hn⟩ := next_cases env (.createArtifact p a) st
      · obtain ⟨-, -, hfresh, -, rfl⟩ := createArtifact_ok h
        rw [hn, Dict.getD_set]
        split
        · next hid =>
          subst hid
          refine .first (a.artifact env p) ?_ rfl rfl rfl
          rw [Dict.getD, hfresh]; rfl
        · exact .same rfl
      · rw [hn, createArtifact_error h]; exact .same rfl
    | patchArtifact p artifactId request =>
      obtain ⟨x, st', h, hn⟩ | ⟨e, st', h, hn⟩ :=
        next_cases env (.patchArtifact p artifactId request) st
      · obtain ⟨current, content, hread, -, hcontent, rfl⟩ := patchArtifact_checked h
        obtain ⟨hheads, hvalid⟩ := validateArtifactPatchContent_ok hcontent
        rw [hn, Dict.getD_set]
        split
        · next hid =>
          subst hid
          refine .next current (nextVersion env current content) (artifactLocked_latest hread).1
            rfl rfl rfl rfl rfl ?_
          exact hkeep p id request rfl current (artifactLocked_latest hread).1 hheads content hvalid
        · exact .same rfl
      · rw [hn, patchArtifact_error h]; exact .same rfl
    | commandArtifact p artifactId request key requestHash =>
      obtain ⟨x, st', h, hn⟩ | ⟨e, st', h, hn⟩ :=
        next_cases env (.commandArtifact p artifactId request key requestHash) st
      · rw [hn]
        obtain ⟨rfl, -⟩ | ⟨current, trip, hread, -, hc⟩ := commandArtifact_ok h
        · exact .same rfl
        · exact .same (hc.same hok.artifactsOk (artifactLocked_latest hread).1 id)
      · rw [hn, commandArtifact_error h]; exact .same rfl
    | _ => exact absurd hw False.elim
  · have hp : (StoreCall.next ⟨env, o⟩ st).artifacts = st.artifacts :=
      congrArg Prod.snd (o.keeps_artifactPart env hw st)
    rw [hp]
    exact .same rfl

/-- **Run lemma.** -/
theorem memoryStore_lineages {st : Store} (h : memoryStore.Reach KeepsHeader st) : st.Lineages := by
  refine h.invariant (I := Store.Lineages) ?_ ?_
  · rintro st rfl id
    exact .nil id
  · rintro st c st' - hok hkeep rfl id
    exact (StoreCall.versionStep hok hkeep id).lineage (hok id)

/-- The call patches this version of the Artifact, and succeeds. -/
def StoreCall.Patches (c : StoreCall) (st : Store) (id : String) (baseVersion : ℕ) : Prop :=
  ∃ p request a st', c.op = .patchArtifact p id request ∧ request.baseVersion = baseVersion ∧
    (patchArtifact c.env p id request).run st = .ok a st'

/-- A patch that succeeds is based on the newest version, and leaves one more. -/
theorem StoreCall.Patches.length {c : StoreCall} {st : Store} {id : String} {baseVersion : ℕ}
    (hok : st.Lineages) (h : c.Patches st id baseVersion) :
    (st.artifacts.getD id []).length = baseVersion ∧
      ((c.next st).artifacts.getD id []).length = baseVersion + 1 := by
  obtain ⟨env, o⟩ := c
  obtain ⟨p, request, a, st', rfl, rfl, h⟩ := h
  obtain ⟨current, content, hread, hbase, -, hst'⟩ := patchArtifact_checked h
  have hlen := (hok id).latest (artifactLocked_latest hread).1
  have hn : StoreCall.next ⟨env, .patchArtifact p id request⟩ st = st' := congrArg final h
  refine ⟨by rw [← hlen, hbase], ?_⟩
  rw [hn, hst', Dict.getD_set, if_pos rfl, List.length_append, ← hlen, hbase]
  rfl

namespace Patched

def owner : Principal := { tenantId := "tenant", userId := "owner" }

/-- A contract registry that accepts every content as it is. -/
def env (n : ℕ) : Env :=
  { now := n, token := fun _ => toString n, validateContract := fun _ content => some content }

def brief (version : ℤ) : Obj :=
  [("artifact_id", .str "brief"), ("artifact_type", .str "TripBrief"), ("schema_version", .int 1),
    ("version", .int version)]

/-- A Trip, a brief, and a patch of it. -/
def calls : List StoreCall :=
  [⟨env 1, .createTrip owner { title := "Kyoto" }⟩,
    ⟨env 2, .createArtifact owner
      { tripId := "trip_1", artifactId := some "brief", artifactType := "TripBrief", schemaVersion := 1
        content := brief 1, status := .validated }⟩,
    ⟨env 3, .patchArtifact owner "brief" { baseVersion := 1, content := brief 2 }⟩]

def store : Store := Store.after {} calls

theorem keepsHeader (st : Store) (n : ℕ) (o : StoreOp) : KeepsHeader st ⟨env n, o⟩ := by
  intro p id request _ current _ next hnext dumped h
  cases h
  exact hnext

theorem store_reachable : memoryStore.Reach KeepsHeader store := by
  refine memoryStore_after (fun c hc st => ?_) (.init rfl)
  simp only [calls, List.mem_cons, List.not_mem_nil, or_false] at hc
  obtain rfl | rfl | rfl := hc <;> exact keepsHeader st _ _

end Patched

end RoutePilot
