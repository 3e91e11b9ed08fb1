/-
  The in-memory store keeps the publication invariant, except where a Run's
  `TripSnapshot` is published for a principal without write access to the
  Trip: `mutate_run` rewrites the statuses before that check raises
  (`UnwritablePublication`).
-/
import RoutePilot.Store.ArtifactSpecs

namespace RoutePilot

open Lib

/-- What the reachable states of the in-memory store satisfy. -/
structure StorePublicationOk (st : Store) : Prop where
  pub : PublicationOk st.tripTable st.artifactTable
  versions : st.ArtifactsOk

theorem storePublicationOk_init : StorePublicationOk {} := by
  constructor
  · exact .of_empty (fun _ => rfl) fun _ _ => rfl
  · intro id
    exact ⟨fun a ha => absurd ha List.not_mem_nil, .nil⟩

/-- A transition that passes its lease and version checks and publishes a stored `TripSnapshot`,
    for a principal who may read the Run but not write its Trip. -/
def UnwritablePublication (c : StoreCall) (st : Store) : Prop :=
  ∃ p runId m run a stored e, c.op = .mutateRun p runId m ∧ runLocked p runId st = .ok run ∧
    checkFence c.env p runId m st = .ok () ∧ run.controlVersion = m.expectedControlVersion ∧
    m.resultArtifact = some a ∧ storedResult a run.tripId st = .ok stored ∧
    stored.artifactType = "TripSnapshot" ∧ tripLocked p run.tripId true st = .error e

/-! ## Tables -/

theorem Store.tripTable_set {st st' : Store} {k : String} {t : TripView}
    (h : st'.trips = st.trips.set k t) :
    st'.tripTable = Function.update st.tripTable k (some t) := by
  funext k'
  rw [Function.update_apply, Store.tripTable, h, Dict.get?_set]
  rfl

theorem Store.artifactTable_congr {st st' : Store} (h : st'.artifacts = st.artifacts) :
    st'.artifactTable = st.artifactTable := by
  funext id v
  rw [Store.artifactTable, Store.artifactTable, h]

/-- The same Artifacts, and other tables that keep the invariant of the Trips. -/
theorem StorePublicationOk.of_trips {st st' : Store} (h : StorePublicationOk st)
    (ha : st'.artifacts = st.artifacts) (ht : PublicationOk st'.tripTable st.artifactTable) :
    StorePublicationOk st' :=
  ⟨by rw [Store.artifactTable_congr ha]; exact ht, fun id => by rw [ha]; exact h.versions id⟩

theorem StorePublicationOk.congr {st st' : Store} (h : StorePublicationOk st)
    (hp : st'.artifactPart = st.artifactPart) : StorePublicationOk st' := by
  have ht : st'.trips = st.trips := congrArg Prod.fst hp
  refine h.of_trips (congrArg Prod.snd hp) ?_
  rw [show st'.tripTable = st.tripTable by unfold Store.tripTable; rw [ht]]
  exact h.pub

theorem Restatused.congr {f : ArtifactView → ArtifactStatus} {st st₁ st' : Store}
    (h : Restatused f st st₁) (ha : st'.artifacts = st₁.artifacts) : Restatused f st st' :=
  ⟨by rw [Store.artifactTable_congr ha]; exact h.table, fun id => by rw [ha]; exact h.ok id⟩

/-! ## Trips -/

/-- Overwriting a Trip that keeps its pointer. -/
theorem StorePublicationOk.editTrip {st st' : Store} (h : StorePublicationOk st) {k : String}
    {t t' : TripView} (ht : st.trips.get? k = some t)
    (hst : st' = { st with trips := st.trips.set k t' }) (hid : t'.tripId = t.tripId)
    (hcur : t'.currentArtifactId = t.currentArtifactId)
    (hver : t'.currentArtifactVersion = t.currentArtifactVersion) : StorePublicationOk st' := by
  obtain rfl := h.pub.tripKey k t ht
  subst hst
  refine h.of_trips rfl ?_
  rw [Store.tripTable_set rfl]
  exact h.pub.editTrip ht hid hcur hver

/-! ## Artifacts -/

theorem tripLocked_exists {p : Principal} {k : String} {w : Bool} {st : Store} {trip : TripView}
    (h : tripLocked p k w st = .ok trip) : ∃ t, st.tripTable k = some t :=
  ⟨trip, (tripLocked_ok h).1⟩

theorem createArtifact_artifactsOk {env : Env} {p : Principal} {c : ArtifactCreation}
    {st st' : Store} {a : ArtifactView} (hok : st.ArtifactsOk)
    (h : (createArtifact env p c).run st = .ok a st') : st'.ArtifactsOk := by
  obtain ⟨-, -, -, -, rfl⟩ := createArtifact_ok h
  intro id
  rw [Dict.getD_set]
  split
  · next hid =>
    subst hid
    refine ⟨fun b hb => ?_, List.pairwise_singleton ..⟩
    obtain rfl := List.mem_singleton.1 hb
    rfl
  · exact hok id

/-- The first version of an Artifact, in the table. -/
theorem createArtifact_table {env : Env} {p : Principal} {c : ArtifactCreation} {st st' : Store}
    {a : ArtifactView} (h : (createArtifact env p c).run st = .ok a st') :
    st.artifactTable (c.artifact env p).artifactId (c.artifact env p).version = none ∧
      ∀ id v, st'.artifactTable id v = if id = (c.artifact env p).artifactId ∧
        v = (c.artifact env p).version then some (c.artifact env p) else st.artifactTable id v := by
  obtain ⟨-, -, hfresh, -, rfl⟩ := createArtifact_ok h
  have hget : st.artifacts.getD (c.resolvedId env) [] = [] := by rw [Dict.getD, hfresh]; rfl
  refine ⟨?_, fun id v => ?_⟩
  · show findVersion (st.artifacts.getD (c.resolvedId env) []) 1 = none
    rw [hget]; rfl
  · simp only [Store.artifactTable, Dict.getD_set]
    by_cases hid : id = c.resolvedId env
    · subst hid
      rw [if_pos rfl, hget]
      by_cases hv : v = 1
      · subst hv; simp [findVersion, ArtifactCreation.artifact]
      · have : ¬ (1 == v) = true := by simpa using fun h => hv h.symm
        simp [findVersion, ArtifactCreation.artifact, hv, this]
    · rw [if_neg hid, if_neg fun he => hid he.1]

theorem createArtifact_publicationOk {env : Env} {p : Principal} {c : ArtifactCreation}
    {st st' : Store} {a : ArtifactView} (hok : StorePublicationOk st)
    (hstatus : c.status ≠ .published) (h : (createArtifact env p c).run st = .ok a st') :
    StorePublicationOk st' := by
  have hversions := createArtifact_artifactsOk hok.versions h
  obtain ⟨hfresh, htable⟩ := createArtifact_table h
  obtain ⟨⟨trip, hwrite⟩, -, -, -, rfl⟩ := createArtifact_ok h
  exact ⟨hok.pub.newVersion htable hfresh (tripLocked_exists hwrite) hstatus, hversions⟩

/-- The version `patch_artifact` appends has a number no stored version has. -/
theorem nextVersion_new (env : Env) (content : Obj) {p : Principal} {artifactId : String}
    {st : Store} {current : ArtifactView} (hok : st.ArtifactsOk)
    (hread : artifactLocked p artifactId none true st = .ok current) :
    (nextVersion env current content).artifactId = artifactId ∧
      ∀ b ∈ st.artifacts.getD artifactId [], b.version ≠ (nextVersion env current content).version := by
  obtain ⟨hmem, hle⟩ := latestVersion_spec (artifactLocked_latest hread).1
  refine ⟨(hok artifactId).key current hmem, fun b hb => ?_⟩
  have := hle b hb
  show b.version ≠ current.version + 1
  omega

theorem patchArtifact_artifactsOk {env : Env} {p : Principal} {artifactId : String}
    {request : ArtifactPatchRequest} {st st' : Store} {a : ArtifactView} (hok : st.ArtifactsOk)
    (h : (patchArtifact env p artifactId request).run st = .ok a st') : st'.ArtifactsOk := by
  obtain ⟨current, content, hread, rfl⟩ := patchArtifact_ok h
  obtain ⟨hid, hnew⟩ := nextVersion_new env content hok hread
  intro id
  rw [Dict.getD_set]
  split
  · next he =>
    subst he
    refine ⟨fun b hb => ?_, ?_⟩
    · obtain hb | hb := List.mem_append.1 hb
      · exact (hok id).key b hb
      · rw [List.mem_singleton.1 hb]; exact hid
    · rw [List.pairwise_append]
      refine ⟨(hok id).distinct, List.pairwise_singleton .., fun b hb c hc => ?_⟩
      rw [List.mem_singleton.1 hc]
      exact hnew b hb
  · exact hok id

/-- The next version of an Artifact, in the table. -/
theorem nextVersion_table (env : Env) (content : Obj) {p : Principal} {artifactId : String}
    {st st' : Store} {current : ArtifactView} (hok : st.ArtifactsOk)
    (hread : artifactLocked p artifactId none true st = .ok current)
    (hst : st'.artifacts = st.artifacts.set artifactId
      (st.artifacts.getD artifactId [] ++ [nextVersion env current content])) :
    st.artifactTable (nextVersion env current content).artifactId
        (nextVersion env current content).version = none ∧
      ∀ id v, st'.artifactTable id v = if id = (nextVersion env current content).artifactId ∧
        v = (nextVersion env current content).version then some (nextVersion env current content)
        else st.artifactTable id v := by
  obtain ⟨hid, hnew⟩ := nextVersion_new env content hok hread
  have hfresh : findVersion (st.artifacts.getD artifactId [])
      (nextVersion env current content).version = none := by
    rw [findVersion, List.find?_eq_none]
    intro b hb
    simpa using hnew b hb
  refine ⟨?_, fun id v => ?_⟩
  · show findVersion (st.artifacts.getD (nextVersion env current content).artifactId []) _ = none
    rw [hid]
    exact hfresh
  · simp only [Store.artifactTable, hst, Dict.getD_set, hid]
    by_cases he : id = artifactId
    · subst he
      rw [if_pos rfl, findVersion, List.find?_append]
      by_cases hve : v = (nextVersion env current content).version
      · subst hve
        rw [show List.find? _ (st.artifacts.getD id []) = none from hfresh]
        simp
      · have : ((nextVersion env current content).version == v) = false := by
          simpa using fun h => hve h.symm
        simp [hve, this, findVersion]
    · simp [he]

theorem patchArtifact_publicationOk {env : Env} {p : Principal} {artifactId : String}
    {request : ArtifactPatchRequest} {st st' : Store} {a : ArtifactView}
    (hok : StorePublicationOk st) (h : (patchArtifact env p artifactId request).run st = .ok a st') :
    StorePublicationOk st' := by
  have hversions := patchArtifact_artifactsOk hok.versions h
  obtain ⟨current, content, hread, hst⟩ := patchArtifact_ok h
  obtain ⟨-, trip, hwrite⟩ := artifactLocked_latest hread
  obtain ⟨hfresh, htable⟩ := nextVersion_table env content hok.versions hread (congrArg Store.artifacts hst)
  subst hst
  exact ⟨hok.pub.newVersion htable hfresh (tripLocked_exists hwrite) (by simp [nextVersion]),
    hversions⟩

/-! ## Publication by a Run -/

/-- The stored result of a Run, as an entry of the table. -/
theorem storedResult_key {st : Store} (hok : StorePublicationOk st) {result stored : ArtifactView}
    {tripId : String} (h : storedResult result tripId st = .ok stored) :
    stored ∈ st.artifacts.getD result.artifactId [] ∧ stored.artifactId = result.artifactId ∧
      st.artifactTable stored.artifactId stored.version = some stored ∧ stored.tripId = tripId := by
  obtain ⟨hget, htrip⟩ := storedResult_ok h
  obtain ⟨hid, hver⟩ := hok.pub.key _ _ _ hget
  refine ⟨((findVersion_eq_some (hok.versions result.artifactId)).1 hget).1, hid, ?_, htrip⟩
  rw [hid, hver]
  exact hget

/-- Publication, on the tables of the store. -/
theorem StorePublicationOk.publish {st st' : Store} (hok : StorePublicationOk st)
    {f : ArtifactView → ArtifactStatus} {t t' : TripView} {a : ArtifactView}
    (htrips : st'.trips = st.trips.set t.tripId t') (hr : Restatused f st st')
    (ha : st.artifactTable a.artifactId a.version = some a) (hk : a.tripId = t.tripId)
    (hid : t'.tripId = t.tripId) (hpoint : t'.PointsTo a.artifactId a.version)
    (hthis : f a = .published)
    (hsame : ∀ b, b.tripId ≠ t.tripId →
      ¬ (b.artifactId = a.artifactId ∧ b.version = a.version) → f b = b.status)
    (hothers : ∀ b, b.tripId = t.tripId → b.artifactType = "TripSnapshot" → f b = .published →
      b.artifactId = a.artifactId ∧ b.version = a.version) : StorePublicationOk st' := by
  refine ⟨?_, hr.ok⟩
  rw [Store.tripTable_set htrips, hr.table]
  refine hok.pub.publish ha hk hid hpoint hthis (fun id v b hb hne => ?_) fun id v b hb hbk hty hp => ?_
  · obtain ⟨rfl, rfl⟩ := hok.pub.key _ _ _ hb
    refine hsame b hne fun ⟨h₁, h₂⟩ => hne ?_
    rw [h₁, h₂, ha] at hb
    cases hb
    exact hk
  · obtain ⟨rfl, rfl⟩ := hok.pub.key _ _ _ hb
    exact hothers b hbk hty hp

/-- New statuses under the same Trips. -/
theorem StorePublicationOk.restatused {st st' : Store} (hok : StorePublicationOk st)
    {f : ArtifactView → ArtifactStatus} (htrips : st'.trips = st.trips) (hr : Restatused f st st')
    (htarget : ∀ k t a, st.tripTable k = some t → t.PointsTo a.artifactId a.version →
      a.tripId = k → st.artifactTable a.artifactId a.version = some a →
      a.status = .published → f a = .published)
    (honly : ∀ a, st.artifactTable a.artifactId a.version = some a →
      a.artifactType = "TripSnapshot" → f a = .published → a.status = .published) :
    StorePublicationOk st' := by
  refine ⟨?_, hr.ok⟩
  rw [show st'.tripTable = st.tripTable by unfold Store.tripTable; rw [htrips], hr.table]
  refine hok.pub.restatused (fun k t id v a ht hp ha hk hpub => ?_) fun id v a ha hty hpub => ?_
  · obtain ⟨rfl, rfl⟩ := hok.pub.key _ _ _ ha
    exact htarget k t a ht hp hk ha hpub
  · obtain ⟨rfl, rfl⟩ := hok.pub.key _ _ _ ha
    exact honly a ha hty hpub

theorem publishResult_publicationOk {env : Env} {p : Principal} {run : RunView}
    {result : ArtifactView} {st st' : Store} {u : Unit} (hok : StorePublicationOk st)
    (h : (publishResult env p run result).run st = .ok u st') : StorePublicationOk st' := by
  obtain ⟨stored, hstored, h⟩ := publishResult_ok h
  obtain ⟨hmem, hid, hget, htrip⟩ := storedResult_key hok hstored
  have hr := restatused_replaceVersion hok.versions (s := .published) hmem
  obtain ⟨htype, rfl⟩ | ⟨htype, trip, hwrite, htrips, harts⟩ := h
  · -- a result of another type is published without a pointer
    refine hok.restatused rfl hr (fun k t a ht hp hk ha hpub => ?_) fun a ha hty hpub => ?_
    · rw [statusAt]; split
      · rfl
      · exact hpub
    · rw [statusAt] at hpub
      split at hpub
      · next he =>
        rw [he.1, he.2, ← hid, hget] at ha; cases ha
        exact absurd hty htype
      · exact hpub
  · have hsup := (hr.trans (restatused_supersede hr.ok (otherSnapshots run.tripId stored))).congr harts
    obtain ⟨htget, -⟩ := tripLocked_ok hwrite
    have hkey := hok.pub.tripKey _ _ htget
    rw [← hkey] at htrips
    refine hok.publish htrips hsup hget (htrip.trans hkey.symm) rfl ⟨rfl, rfl⟩ ?_ ?_ ?_
    · simp [supersededBy, otherSnapshots, statusAt, hid]
    · intro b hne hno
      rw [hkey] at hne
      simp [supersededBy, otherSnapshots, statusAt, ← hid, hno, hne]
    · intro b hbk hty hpub
      by_contra hno
      rw [hkey] at hbk
      simp only [supersededBy, otherSnapshots, statusAt, ← hid, hbk, hty, hno,
        not_false_eq_true, and_self, decide_true, and_true] at hpub
      by_cases hs : b.status = .published <;> simp [hs] at hpub

/-! ## Lifecycle commands -/

theorem Commanded.publicationOk {env : Env} {p : Principal} {artifactId : String}
    {current : ArtifactView} {trip : TripView} {command : ArtifactCommand} {st st' : Store}
    (hok : StorePublicationOk st) (hread : artifactLocked p artifactId none true st = .ok current)
    (htrip : tripLocked p current.tripId true st = .ok trip)
    (h : Commanded env artifactId current trip st st' command) : StorePublicationOk st' := by
  obtain ⟨hlatest, -⟩ := artifactLocked_latest hread
  obtain ⟨hmem, -⟩ := latestVersion_spec hlatest
  obtain rfl := (hok.versions artifactId).key current hmem
  have hget : st.artifactTable current.artifactId current.version = some current :=
    (findVersion_eq_some (hok.versions _)).2 ⟨hmem, rfl⟩
  obtain ⟨htget, -⟩ := tripLocked_ok htrip
  have hkey := hok.pub.tripKey _ _ htget
  cases h with
  | select hstatus htrips h =>
    have hr := (restatused_replaceVersion hok.versions (s := .selected) hmem).congr h
    refine hok.restatused htrips hr (fun k t a ht hp hk ha hpub => ?_) fun a ha hty hpub => ?_
    · rw [statusAt, if_neg]
      · exact hpub
      · rintro ⟨h₁, h₂⟩
        rw [h₁, h₂, hget] at ha; cases ha
        rw [hstatus] at hpub; cases hpub
    · rw [statusAt] at hpub
      split at hpub
      · cases hpub
      · exact hpub
  | publish hstatus htrips h =>
    have hr := restatused_replaceVersion hok.versions (s := .published) hmem
    have hsup := (hr.trans (restatused_supersede hr.ok (otherVersions current))).congr h
    refine hok.publish htrips hsup hget hkey.symm rfl ⟨rfl, rfl⟩ ?_ ?_ ?_
    · simp [supersededBy, otherVersions, statusAt]
    · intro b hne hno
      rw [hkey] at hne
      simp [supersededBy, otherVersions, statusAt, hno, hne]
    · intro b hbk hty hpub
      by_contra hno
      rw [hkey] at hbk
      simp only [supersededBy, otherVersions, statusAt, hbk, hno, not_false_eq_true,
        and_self, decide_true, and_true] at hpub
      by_cases hs : b.status = .published <;> simp [hs] at hpub
  | revoke hstatus htrips h =>
    have hr := (restatused_replaceVersion hok.versions (s := .revoked) hmem).congr h
    split at htrips
    · next hpoint =>
      refine ⟨?_, hr.ok⟩
      rw [Store.tripTable_set htrips, hr.table]
      refine hok.pub.revokeCurrent (hkey ▸ htget) rfl rfl hpoint (by simp [statusAt]) hget ?_
      intro id v b hb hne
      obtain ⟨rfl, rfl⟩ := hok.pub.key _ _ _ hb
      rw [statusAt, if_neg hne]
    · next hpoint =>
      refine hok.restatused htrips hr (fun k t a ht hp hk ha hpub => ?_) fun a ha hty hpub => ?_
      · rw [statusAt, if_neg]
        · exact hpub
        · rintro ⟨h₁, h₂⟩
          -- the pointer of this Trip targets another version
          rw [h₁, h₂, hget] at ha; cases ha
          have ht' : st.trips.get? k = some t := ht
          rw [← hk, htget] at ht'; cases ht'
          exact hpoint hp
      · rw [statusAt] at hpub
        split at hpub
        · cases hpub
        · exact hpub

/-! ## The step lemma -/

/-- A call with a fresh Trip identifier, whose new Artifacts are not published, keeps the invariant
    unless it publishes a snapshot for a principal without write access. -/
theorem StoreCall.publicationOk {c : StoreCall} {st : Store} (hok : StorePublicationOk st)
    (hfresh : st.trips.get? (c.env.newPublicId "trip") = none)
    (hstatus : ∀ p a, c.op = .createArtifact p a → a.status ≠ .published)
    (hwritable : ¬ UnwritablePublication c st) : StorePublicationOk (c.next st) := by
  obtain ⟨env, o⟩ := c
  by_cases hw : o.WritesArtifacts
  · cases o with
    | createTrip p request =>
      refine hok.of_trips rfl ?_
      rw [Store.tripTable_set (show _ = st.trips.set _ _ from rfl)]
      exact hok.pub.newTrip hfresh rfl
    | patchTrip p tripId request =>
      obtain ⟨x, st', h, hn⟩ | ⟨e, st', h, hn⟩ := next_cases env (.patchTrip p tripId request) st
      · obtain ⟨t, ht, hst⟩ := patchTrip_ok h
        exact hn ▸ hok.editTrip (tripLocked_ok ht).1 hst rfl rfl rfl
      · rw [hn, patchTrip_error h]; exact hok
    | setTripStatus p tripId status =>
      obtain ⟨x, st', h, hn⟩ | ⟨e, st', h, hn⟩ := next_cases env (.setTripStatus p tripId status) st
      · obtain ⟨t, ht, hst⟩ := setTripStatus_ok h
        exact hn ▸ hok.editTrip (tripLocked_ok ht).1 hst rfl rfl rfl
      · rw [hn, setTripStatus_error h]; exact hok
    | createArtifact p a =>
      obtain ⟨x, st', h, hn⟩ | ⟨e, st', h, hn⟩ := next_cases env (.createArtifact p a) st
      · exact hn ▸ createArtifact_publicationOk hok (hstatus p a rfl) h
      · rw [hn, createArtifact_error h]; exact hok
    | patchArtifact p artifactId request =>
      obtain ⟨x, st', h, hn⟩ | ⟨e, st', h, hn⟩ :=
        next_cases env (.patchArtifact p artifactId request) st
      · exact hn ▸ patchArtifact_publicationOk hok h
      · rw [hn, patchArtifact_error h]; exact hok
    | commandArtifact p artifactId request key requestHash =>
      obtain ⟨x, st', h, hn⟩ | ⟨e, st', h, hn⟩ :=
        next_cases env (.commandArtifact p artifactId request key requestHash) st
      · rw [hn]
        obtain ⟨rfl, -⟩ | ⟨current, trip, hread, htrip, hc⟩ := commandArtifact_ok h
        · exact hok
        · exact hc.publicationOk hok hread htrip
      · rw [hn, commandArtifact_error h]; exact hok
    | mutateRun p runId m =>
      obtain ⟨x, st', h, hn⟩ | ⟨e, st', h, hn⟩ := next_cases env (.mutateRun p runId m) st
      · rw [hn]
        obtain ⟨run, st₁, hm, -⟩ := mutateRun_ok h
        have h₁ : StorePublicationOk st₁ := by
          have hp := hm.publish
          cases hr : m.resultArtifact with
          | none => rw [hr] at hp; cases hp; exact hok
          | some a => rw [hr] at hp; exact publishResult_publicationOk hok hp
        exact h₁.congr (by rw [hm.final]; rfl)
      · rw [hn]
        obtain rfl | ⟨run, hread, hfence, hversion, hp⟩ := mutateRun_error h
        · exact hok
        · cases hr : m.resultArtifact with
          | none => rw [hr] at hp; cases hp
          | some a =>
            rw [hr] at hp
            obtain rfl | ⟨stored, hstored, htype, hwrite, -⟩ := publishResult_error hp
            · exact hok
            · exact absurd ⟨p, runId, m, run, a, stored, e, rfl, hread, hfence, hversion, hr, hstored,
                htype, hwrite⟩ hwritable
    | _ => exact absurd hw id
  · exact hok.congr (o.keeps_artifactPart env hw st)

end RoutePilot
