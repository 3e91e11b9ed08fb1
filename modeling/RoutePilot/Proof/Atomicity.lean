/-
  Failed calls of the in-memory store.

  Every operation makes its checks before its first write, with one exception:
  `mutate_run` rewrites the statuses of a published snapshot, and only then
  checks the write access to the Trip.  A call that raises leaves the store as
  it was, unless it raises there after a status has changed.
-/
import RoutePilot.Proof.Lease
import RoutePilot.Proof.Publication
import RoutePilot.Store.Versions

namespace RoutePilot

open Lib Lts

/-! ## How Artifacts are stored -/

/-- The versions of every Artifact are well-formed, and no Artifact is stored twice. -/
structure Store.Tidy (st : Store) : Prop where
  versions : st.ArtifactsOk
  keys : st.artifacts.DistinctKeys

theorem Store.tidy_init : ({} : Store).Tidy := ⟨fun _ => ⟨nofun, .nil⟩, List.nodup_nil⟩

theorem Store.Tidy.congr {st st' : Store} (h : st.Tidy) (ha : st'.artifacts = st.artifacts) :
    st'.Tidy := by
  refine ⟨fun id => ?_, ?_⟩
  · rw [ha]; exact h.versions id
  · rw [ha]; exact h.keys

theorem Store.Tidy.withStatus {st : Store} (h : st.Tidy) {id : String} {stored : ArtifactView}
    (hm : stored ∈ st.artifacts.getD id []) (s : ArtifactStatus) : (withStatus id stored s st).Tidy :=
  ⟨(restatused_replaceVersion h.versions hm).ok, h.keys.set _ _⟩

theorem Store.Tidy.withSuperseded {st : Store} (h : st.Tidy) (q : ArtifactView → Bool) :
    (withSuperseded q st).Tidy :=
  ⟨(restatused_supersede h.versions q).ok, h.keys.mapValues _⟩

theorem storedResult_mem {st : Store} (h : st.ArtifactsOk) {result stored : ArtifactView}
    {tripId : String} (hs : storedResult result tripId st = .ok stored) :
    stored ∈ st.artifacts.getD result.artifactId [] ∧ stored.version = result.version :=
  (findVersion_eq_some (h result.artifactId)).1 (storedResult_ok hs).1

theorem publishResult_tidy {env : Env} {p : Principal} {run : RunView} {result : ArtifactView}
    {st : Store} (h : st.Tidy) : (final ((publishResult env p run result).run st)).Tidy := by
  cases hx : (publishResult env p run result).run st with
  | ok u st' =>
    obtain ⟨stored, hstored, ⟨-, rfl⟩ | ⟨-, trip, -, -, harts⟩⟩ := publishResult_ok hx
    · exact h.withStatus (storedResult_mem h.versions hstored).1 _
    · have h₁ := h.withStatus (storedResult_mem h.versions hstored).1 .published
      exact (h₁.withSuperseded (otherSnapshots run.tripId stored)).congr harts
  | error e st' =>
    obtain rfl | ⟨stored, hstored, -, -, rfl⟩ := publishResult_error hx
    · exact h
    · exact (h.withStatus (storedResult_mem h.versions hstored).1 _).withSuperseded _

theorem mutateRun_tidy {env : Env} {p : Principal} {runId : String} {m : RunMutation} {st : Store}
    (h : st.Tidy) : (final ((mutateRun env p runId m).run st)).Tidy := by
  have hpub : ∀ run,
      (final ((m.resultArtifact.forM (publishResult env p run) : StoreM Unit).run st)).Tidy := by
    intro run
    cases m.resultArtifact with
    | none => exact h
    | some a => exact publishResult_tidy h
  cases hx : (mutateRun env p runId m).run st with
  | ok x st' =>
    obtain ⟨run, st₁, hm, -⟩ := mutateRun_ok hx
    have h₁ := hpub run
    rw [hm.publish] at h₁
    exact h₁.congr (by rw [final_ok, hm.final]; rfl)
  | error e st' =>
    obtain rfl | ⟨run, -, -, -, hp⟩ := mutateRun_error hx
    · exact h
    · have h₁ := hpub run
      rwa [hp] at h₁

theorem createArtifact_tidy {env : Env} {p : Principal} {c : ArtifactCreation} {st st' : Store}
    {a : ArtifactView} (h : st.Tidy) (hx : (createArtifact env p c).run st = .ok a st') :
    st'.Tidy := by
  refine ⟨createArtifact_artifactsOk h.versions hx, ?_⟩
  obtain ⟨-, -, -, -, rfl⟩ := createArtifact_ok hx
  exact h.keys.set _ _

theorem patchArtifact_tidy {env : Env} {p : Principal} {artifactId : String}
    {request : ArtifactPatchRequest} {st st' : Store} {a : ArtifactView} (h : st.Tidy)
    (hx : (patchArtifact env p artifactId request).run st = .ok a st') : st'.Tidy := by
  refine ⟨patchArtifact_artifactsOk h.versions hx, ?_⟩
  obtain ⟨current, content, -, rfl⟩ := patchArtifact_ok hx
  exact h.keys.set _ _

theorem Commanded.tidy {env : Env} {artifactId : String} {current : ArtifactView} {trip : TripView}
    {command : ArtifactCommand} {st st' : Store} (h : st.Tidy)
    (hm : current ∈ st.artifacts.getD artifactId [])
    (hc : Commanded env artifactId current trip st st' command) : st'.Tidy := by
  cases hc with
  | select _ _ ha => exact (h.withStatus hm _).congr ha
  | publish _ _ ha => exact ((h.withStatus hm _).withSuperseded _).congr ha
  | revoke _ _ ha => exact (h.withStatus hm _).congr ha

/-- **Step lemma.** -/
theorem StoreCall.tidy {c : StoreCall} {st : Store} (h : st.Tidy) : (c.next st).Tidy := by
  obtain ⟨env, o⟩ := c
  by_cases hw : o.WritesArtifacts
  · cases o with
    | createTrip => exact h.congr rfl
    | patchTrip p tripId request =>
      obtain ⟨x, st', hx, hn⟩ | ⟨e, st', hx, hn⟩ := next_cases env (.patchTrip p tripId request) st
      · obtain ⟨t, -, rfl⟩ := patchTrip_ok hx
        rw [hn]; exact h.congr rfl
      · rw [hn, patchTrip_error hx]; exact h
    | setTripStatus p tripId status =>
      obtain ⟨x, st', hx, hn⟩ | ⟨e, st', hx, hn⟩ := next_cases env (.setTripStatus p tripId status) st
      · obtain ⟨t, -, rfl⟩ := setTripStatus_ok hx
        rw [hn]; exact h.congr rfl
      · rw [hn, setTripStatus_error hx]; exact h
    | mutateRun p runId m => exact mutateRun_tidy h
    | createArtifact p a =>
      obtain ⟨x, st', hx, hn⟩ | ⟨e, st', hx, hn⟩ := next_cases env (.createArtifact p a) st
      · rw [hn]; exact createArtifact_tidy h hx
      · rw [hn, createArtifact_error hx]; exact h
    | patchArtifact p artifactId request =>
      obtain ⟨x, st', hx, hn⟩ | ⟨e, st', hx, hn⟩ :=
        next_cases env (.patchArtifact p artifactId request) st
      · rw [hn]; exact patchArtifact_tidy h hx
      · rw [hn, patchArtifact_error hx]; exact h
    | commandArtifact p artifactId request key requestHash =>
      obtain ⟨x, st', hx, hn⟩ | ⟨e, st', hx, hn⟩ :=
        next_cases env (.commandArtifact p artifactId request key requestHash) st
      · rw [hn]
        obtain ⟨rfl, -⟩ | ⟨current, trip, hread, -, hc⟩ := commandArtifact_ok hx
        · exact h
        · exact hc.tidy h (latestVersion_spec (artifactLocked_latest hread).1).1
      · rw [hn, commandArtifact_error hx]; exact h
    | _ => exact absurd hw False.elim
  · exact h.congr (congrArg Prod.snd (o.keeps_artifactPart env hw st))

/-- **Run lemma.** -/
theorem memoryStore_tidy {st : Store} (h : memoryStore.Reach anyStep st) : st.Tidy := by
  refine h.invariant (I := Store.Tidy) ?_ ?_
  · rintro st rfl
    exact Store.tidy_init
  · rintro st c st' - hok - rfl
    exact StoreCall.tidy hok

/-! ## Calls that raise -/

theorem upsertTripMember_error {env : Env} {p : Principal} {tripId userId : String}
    {role : GrantedRole} {st st' : Store} {e : StoreError}
    (h : (upsertTripMember env p tripId userId role).run st = .error e st') : st' = st := by
  simp only [upsertTripMember, ensureManagesMembers, bind_error, bind_ok, ask_ok, ask_error, ensure_ok,
    ensure_error, EStateM.run_get, EStateM.run_modify, EStateM.run_pure, EStateM.Result.ok.injEq,
    existsAndEq, true_and, exists_const, and_assoc, reduceCtorEq, and_false, or_false] at h
  rcases h with ⟨-, -, rfl⟩ | ⟨-, -, ⟨-, rfl⟩ | ⟨_, -, ⟨-, -, rfl⟩ | ⟨-, -, -, rfl⟩⟩⟩ <;> rfl

theorem removeTripMember_error {p : Principal} {tripId userId : String} {st st' : Store}
    {e : StoreError} (h : (removeTripMember p tripId userId).run st = .error e st') : st' = st := by
  simp only [removeTripMember, ensureManagesMembers, bind_error, bind_ok, ask_ok, ask_error, ensure_ok,
    ensure_error, EStateM.run_get, EStateM.run_modify, EStateM.Result.ok.injEq,
    existsAndEq, true_and, exists_const, and_assoc, reduceCtorEq, false_or, and_false, or_false] at h
  rcases h with ⟨-, rfl⟩ | ⟨_, -, (⟨-, -, rfl⟩ | ⟨-, -, -, rfl⟩) | ⟨-, -, -, -, rfl⟩⟩ <;> rfl

/-- A transition that fails on the write access to the Trip, after it has changed the status of its
    snapshot or of another one. -/
def HalfPublication (c : StoreCall) (st : Store) : Prop :=
  ∃ p runId m run a stored e, c.op = .mutateRun p runId m ∧ runLocked p runId st = .ok run ∧
    checkFence c.env p runId m st = .ok () ∧ run.controlVersion = m.expectedControlVersion ∧
    m.resultArtifact = some a ∧ storedResult a run.tripId st = .ok stored ∧
    stored.artifactType = "TripSnapshot" ∧ tripLocked p run.tripId true st = .error e ∧
    (stored.status ≠ .published ∨
      ∃ b, st.Stores b ∧ b.status = .published ∧ otherSnapshots run.tripId stored b = true)

theorem withStatus_eq_self {st : Store} (h : st.Tidy) {id : String} {stored : ArtifactView}
    {s : ArtifactStatus} (hm : stored ∈ st.artifacts.getD id []) (hs : stored.status = s) :
    withStatus id stored s st = st := by
  subst hs
  have hversions : replaceVersion (st.artifacts.getD id []) stored = st.artifacts.getD id [] := by
    rw [replaceVersion]
    refine (List.map_congr_left fun a ha => ?_).trans (List.map_id _)
    split
    · next hv =>
      have h₁ := (findVersion_eq_some (h.versions id)).2 ⟨ha, hv⟩
      have h₂ := (findVersion_eq_some (h.versions id)).2 ⟨hm, rfl⟩
      exact Option.some.inj (h₂.symm.trans h₁)
    · rfl
  have hget : st.artifacts.get? id = some (st.artifacts.getD id []) := by
    rw [Dict.getD] at hm ⊢
    cases hd : st.artifacts.get? id with
    | none => rw [hd] at hm; cases hm
    | some versions => rfl
  show { st with artifacts := _ } = st
  rw [hversions, Dict.set_get? h.keys hget]

theorem withSuperseded_eq_self {st : Store} (h : st.Tidy) {q : ArtifactView → Bool}
    (hq : ∀ b, st.Stores b → b.status = .published → q b = false) : withSuperseded q st = st := by
  have hmap : st.artifacts.mapValues (supersede q) = st.artifacts := by
    refine Dict.mapValues_eq_self h.keys fun k versions hget => ?_
    rw [supersede]
    refine (List.map_congr_left fun b hb => ?_).trans (List.map_id _)
    have hstores : st.Stores b := ⟨k, by rw [Dict.getD, hget]; exact hb⟩
    split
    · next hpub =>
      have := hq b hstores hpub.1
      rw [hpub.2] at this; cases this
    · rfl
  show { st with artifacts := _ } = st
  rw [hmap]

/-- When the rewriting of the statuses changes nothing. -/
theorem rewritten_eq_self {st : Store} (h : st.Tidy) {id tripId : String} {stored : ArtifactView}
    (hm : stored ∈ st.artifacts.getD id []) :
    withSuperseded (otherSnapshots tripId stored) (withStatus id stored .published st) = st ↔
      ¬ (stored.status ≠ .published ∨
        ∃ b, st.Stores b ∧ b.status = .published ∧ otherSnapshots tripId stored b = true) := by
  have hid := (h.versions id).key stored hm
  constructor
  · intro heq
    have hr := restatused_replaceVersion h.versions (s := .published) hm
    have htable := (hr.trans (restatused_supersede hr.ok (otherSnapshots tripId stored))).table
    rw [heq] at htable
    -- every stored version keeps its status
    have hsame : ∀ b, st.Stores b → supersededBy (otherSnapshots tripId stored)
        { b with status := statusAt id stored.version .published b } = b.status := by
      intro b hb
      have hget := (h.versions.stores_iff b).1 hb
      have := congrFun (congrFun htable b.artifactId) b.version
      rw [hget, restatus, hget] at this
      exact (congrArg ArtifactView.status (Option.some.inj this)).symm
    rintro (hne | ⟨b, hb, hpub, hother⟩)
    · refine hne ?_
      rw [← hsame stored ⟨id, hm⟩]
      simp [supersededBy, otherSnapshots, statusAt, hid]
    · have hb' := hsame b hb
      have hno : ¬ (b.artifactId = id ∧ b.version = stored.version) := by
        simp only [otherSnapshots, decide_eq_true_eq] at hother
        rw [← hid]; exact hother.2.2
      rw [supersededBy, statusAt, if_neg hno, hpub] at hb'
      rw [if_pos ⟨rfl, by simpa [otherSnapshots] using hother⟩] at hb'
      cases hb'
  · intro hno
    rw [not_or, not_not] at hno
    rw [withStatus_eq_self h hm hno.1]
    refine withSuperseded_eq_self h fun b hb hpub => ?_
    rw [← Bool.not_eq_true]
    exact fun hother => hno.2 ⟨b, hb, hpub, hother⟩

/-- What a transition that raises leaves behind. -/
theorem mutateRun_error_keeps {env : Env} {p : Principal} {runId : String} {m : RunMutation}
    {st st' : Store} {e : StoreError} (hok : st.Tidy)
    (h : (mutateRun env p runId m).run st = .error e st')
    (hno : ¬ HalfPublication ⟨env, .mutateRun p runId m⟩ st) : st' = st := by
  obtain rfl | ⟨run, hread, hfence, hversion, hp⟩ := mutateRun_error h
  · rfl
  · cases hr : m.resultArtifact with
    | none => rw [hr] at hp; cases hp
    | some a =>
      rw [hr] at hp
      obtain rfl | ⟨stored, hstored, htype, hwrite, rfl⟩ := publishResult_error hp
      · rfl
      · refine (rewritten_eq_self hok (storedResult_mem hok.versions hstored).1).2 fun hchange => hno ?_
        exact ⟨p, runId, m, run, a, stored, e, rfl, hread, hfence, hversion, hr, hstored, htype, hwrite,
          hchange⟩

/-- A half publication raises, and leaves the store changed. -/
theorem HalfPublication.changes {c : StoreCall} {st : Store} (hok : st.Tidy)
    (h : HalfPublication c st) :
    ∃ e st', (c.op.run c.env).run st = .error e st' ∧ st' ≠ st := by
  obtain ⟨env, o⟩ := c
  obtain ⟨p, runId, m, run, a, stored, e, rfl, hread, hfence, hversion, hr, hstored, htype, hwrite,
    hchange⟩ := h
  have hm := (storedResult_mem hok.versions hstored).1
  refine ⟨e, _, ?_, fun heq => (rewritten_eq_self hok hm).1 heq hchange⟩
  refine mutateRun_of_publish_error hread hfence hversion ?_
  rw [hr]
  exact publishResult_half _ hstored htype hwrite

/-- A call that raises and is no half publication changes nothing. -/
theorem StoreCall.error_keeps {c : StoreCall} {st st' : Store} {e : StoreError} (hok : st.Tidy)
    (hno : ¬ HalfPublication c st) (hx : (c.op.run c.env).run st = .error e st') : st' = st := by
  obtain ⟨env, o⟩ := c
  have hread : ∀ {α : Type} {x : StoreM α}, Keeps id x → x.run st = .error e st' → st' = st :=
    fun hk he => KeepsOnRaise.of_keeps hk st e st' he
  cases o with
  | createTrip => cases hx
  | listTrips => cases hx
  | getTrip | getRun | getArtifact => exact hread (.ask _) hx
  | listTripMembers | listEvents | waitForEvents | listArtifacts =>
    exact hread (.bind (.ask _) fun _ => .bind .get fun _ => .pure _) hx
  | patchTrip => exact patchTrip_error hx
  | setTripStatus => exact setTripStatus_error hx
  | upsertTripMember => exact upsertTripMember_error hx
  | removeTripMember => exact removeTripMember_error hx
  | createRun => exact createRun_error hx
  | claimRunExecution => exact claimRunExecution_error hx
  | renewRunExecution => exact renewRunExecution_error hx
  | releaseRunExecution => exact releaseRunExecution_error hx
  | mutateRun => exact mutateRun_error_keeps hok hx hno
  | resumeRun => exact resumeRun_error hx
  | createArtifact => exact createArtifact_error hx
  | patchArtifact => exact patchArtifact_error hx
  | commandArtifact => exact commandArtifact_error hx

/-- **Failed calls.**  In every reachable state of the in-memory store, a call that raises leaves the
    store exactly as it was if and only if it is no half publication. -/
theorem failed_calls_change_nothing {st : Store} (h : memoryStore.Reach anyStep st) (c : StoreCall) :
    (∀ e st', (c.op.run c.env).run st = .error e st' → st' = st) ↔ ¬ HalfPublication c st := by
  have hok := memoryStore_tidy h
  constructor
  · intro hkeeps hhalf
    obtain ⟨e, st', hx, hne⟩ := hhalf.changes hok
    exact hne (hkeeps e st' hx)
  · intro hno e st' hx
    exact StoreCall.error_keeps hok hno hx

namespace Demotion

/-- The calls up to the demotion of the editor. -/
def calls : List StoreCall :=
  [⟨env 1 "1", .createTrip owner { title := "Kyoto" }⟩,
    ⟨env 2 "2", .upsertTripMember owner "trip_1" "editor" .editor⟩,
    ⟨env 3 "3", .createRun editor plan⟩, ⟨env 4 "4", .createArtifact editor snapshot⟩,
    ⟨env 5 "5", .upsertTripMember owner "trip_1" "editor" .viewer⟩]

/-- The publication by the demoted editor. -/
def publication : StoreCall := ⟨env 6 "6", publish⟩

/-- The publication of the snapshot, at a control version that the Run does not have. -/
def stale : RunMutation :=
  { expectedControlVersion := 2, resultArtifact := some (snapshot.artifact (env 4 "4") editor)
    eventType := .artifactPublished, eventData := [] }

def store : Store := Store.after {} calls

theorem store_reachable : memoryStore.Reach anyStep store :=
  memoryStore_after (fun _ _ _ => trivial) (.init rfl)

end Demotion

/-- The owner's own attempt to publish the snapshot fails on the version of the Run, and changes
    nothing. -/
theorem failed_calls_change_nothing_owner :
    final ((mutateRun (Demotion.env 6 "6") Demotion.owner "run_3" Demotion.stale).run
      Demotion.store) = Demotion.store := by
  have hraise : ∃ e st', (mutateRun (Demotion.env 6 "6") Demotion.owner "run_3" Demotion.stale).run
      Demotion.store = .error e st' := ⟨_, _, rfl⟩
  obtain ⟨e, st', hx⟩ := hraise
  rw [hx, final_error]
  refine (failed_calls_change_nothing Demotion.store_reachable
    ⟨Demotion.env 6 "6", .mutateRun Demotion.owner "run_3" _⟩).2 ?_ e st' hx
  rintro ⟨_, _, _, run, _, _, _, ho, hrun, -, hversion, -⟩
  cases ho
  cases hrun
  cases hversion

/-- The demoted editor's publication raises and leaves the snapshot published. -/
theorem half_publication_changes :
    ¬ ∀ st, memoryStore.Reach anyStep st → ∀ (c : StoreCall) e st',
      (c.op.run c.env).run st = .error e st' → st' = st := by
  intro h
  have hkeeps := h _ Demotion.store_reachable Demotion.publication
  have hraise : ∃ e st', (Demotion.publication.op.run Demotion.publication.env).run Demotion.store =
      .error e st' := ⟨_, _, rfl⟩
  obtain ⟨e, st', hx⟩ := hraise
  have hstatus : ((final ((Demotion.publication.op.run Demotion.publication.env).run
      Demotion.store)).artifacts.getD "snapshot" []).map (·.status) = [.published] := by decide
  have hbefore : (Demotion.store.artifacts.getD "snapshot" []).map (·.status) = [.validated] := by decide
  rw [hx, final_error, hkeeps e st' hx, hbefore] at hstatus
  cases hstatus

end RoutePilot
