/-
  What the operations of coordinators keep in the in-memory store: the access
  of principals to Trips, and the stored Artifact versions.
-/
import RoutePilot.Store.ArtifactSpecs

namespace RoutePilot

open Lib

/-- The principal may read (or write) the Trip. -/
def Store.Grants (st : Store) (p : Principal) (tripId : String) (write : Bool) : Prop :=
  ∃ trip, tripLocked p tripId write st = .ok trip

/-- The Trip and the type of an Artifact, which no operation changes. -/
def ArtifactView.origin (a : ArtifactView) : String × String := (a.tripId, a.artifactType)

/-- Access is kept, and stored versions stay what they are. -/
structure Store.Preserved (st st' : Store) : Prop where
  access : ∀ p k w, st.Grants p k w → st'.Grants p k w
  versions : ∀ id v a, st.artifactTable id v = some a →
    ∃ a', st'.artifactTable id v = some a' ∧ a'.origin = a.origin

theorem Store.Preserved.refl (st : Store) : st.Preserved st :=
  ⟨fun _ _ _ h => h, fun _ _ a h => ⟨a, h, rfl⟩⟩

theorem Store.Preserved.trans {st₁ st₂ st₃ : Store} (h : st₁.Preserved st₂) (h' : st₂.Preserved st₃) :
    st₁.Preserved st₃ where
  access p k w hg := h'.access p k w (h.access p k w hg)
  versions id v a ha := by
    obtain ⟨a₂, ha₂, ht₂⟩ := h.versions id v a ha
    obtain ⟨a₃, ha₃, ht₃⟩ := h'.versions id v a₂ ha₂
    exact ⟨a₃, ha₃, ht₃.trans ht₂⟩

/-- The tables that decide about access, and the Artifacts. -/
def Store.accessPart (st : Store) : Dict String TripView × Dict (String × String) TripMemberView ×
    Dict String (List ArtifactView) :=
  (st.trips, st.members, st.artifacts)

theorem tripLocked_congr {st st' : Store} {p : Principal} {k : String} {w : Bool}
    (ht : st'.trips = st.trips) (hm : st'.members = st.members) :
    tripLocked p k w st' = tripLocked p k w st := by
  unfold tripLocked
  rw [ht, hm]

theorem Store.Preserved.of_accessPart {st st' : Store} (h : st'.accessPart = st.accessPart) :
    st.Preserved st' := by
  have ht : st'.trips = st.trips := congrArg Prod.fst h
  have hm : st'.members = st.members := congrArg (·.2.1) h
  have ha : st'.artifacts = st.artifacts := congrArg (·.2.2) h
  refine ⟨fun p k w ⟨trip, hg⟩ => ⟨trip, by rw [tripLocked_congr ht hm]; exact hg⟩, ?_⟩
  intro id v a hv
  exact ⟨a, by rw [Store.artifactTable, ha]; exact hv, rfl⟩

/-- A Trip rewritten for the same tenant and owner. -/
theorem grants_set {st : Store} {k : String} {t t' : TripView} (ht : st.trips.get? k = some t)
    (hten : t'.tenantId = t.tenantId) (hown : t'.ownerId = t.ownerId) {p : Principal}
    {j : String} {w : Bool} (h : st.Grants p j w) :
    ({ st with trips := st.trips.set k t' } : Store).Grants p j w := by
  obtain ⟨trip, h⟩ := h
  unfold Store.Grants
  unfold tripLocked at h ⊢
  simp only [Dict.get?_set]
  by_cases hj : j = k
  · subst hj
    rw [ht] at h
    simp only [if_true, hten, hown]
    simp only at h
    split at h
    · cases h
    · split at h
      · next hten' howner => exact ⟨t', by simp [hten', howner]⟩
      · next hten' howner =>
        split at h
        · cases h
        · split at h
          · cases h
          · next hm hrole => exact ⟨t', by simp [hten', howner, hrole]⟩
  · simp only [hj, if_false]
    exact ⟨trip, h⟩

/-- New statuses of versions. -/
theorem versions_withStatus {st : Store} {result stored : ArtifactView} {tripId : String}
    {s : ArtifactStatus} (hstored : storedResult result tripId st = .ok stored) {id : String} {v : ℕ}
    {a : ArtifactView} (h : st.artifactTable id v = some a) :
    ∃ a', (withStatus result.artifactId stored s st).artifactTable id v = some a' ∧
      a'.origin = a.origin := by
  obtain ⟨hget, -⟩ := storedResult_ok hstored
  have hver : stored.version = result.version := by simpa using List.find?_some hget
  simp only [Store.artifactTable, withStatus, Dict.getD_set]
  split
  · next hid =>
    subst hid
    rw [replaceVersion, findVersion_map (by intro b; split <;> simp_all), show findVersion _ v = _ from h]
    refine ⟨_, rfl, ?_⟩
    dsimp only
    split
    · next hv =>
      have hv' : v = a.version := (by simpa using List.find?_some h : a.version = v).symm
      have hsame : a.version = result.version := hv.trans hver
      rw [hv', hsame] at h
      rw [show st.artifactTable result.artifactId result.version = some a from h] at hget
      cases hget
      rfl
    · rfl
  · exact ⟨a, h, rfl⟩

theorem versions_withSuperseded {st : Store} {q : ArtifactView → Bool} {id : String} {v : ℕ}
    {a : ArtifactView} (h : st.artifactTable id v = some a) :
    ∃ a', (withSuperseded q st).artifactTable id v = some a' ∧ a'.origin = a.origin := by
  have hget : (st.artifacts.mapValues (supersede q)).getD id [] =
      supersede q (st.artifacts.getD id []) := Dict.getD_mapValues _ (supersede q) id []
  simp only [Store.artifactTable, withSuperseded]
  rw [hget, supersede, findVersion_map (by intro b; split <;> rfl), show findVersion _ v = _ from h]
  refine ⟨_, rfl, ?_⟩
  dsimp only
  split <;> rfl

/-! ## The operations -/

theorem publishResult_preserved {env : Env} {p : Principal} {run : RunView} {result : ArtifactView}
    {st : Store} : st.Preserved (final ((publishResult env p run result).run st)) := by
  have hmembers := publishResult_keeps (f := Store.members) (fun _ _ _ => rfl) env p run result st
  cases h : (publishResult env p run result).run st with
  | ok u st' =>
    rw [h] at hmembers
    obtain ⟨stored, hstored, ⟨-, rfl⟩ | ⟨-, trip, hwrite, htrips, harts⟩⟩ := publishResult_ok h
    · exact ⟨fun _ _ _ hg => hg, fun _ _ _ ha => versions_withStatus hstored ha⟩
    · refine ⟨fun q k w hg => ?_, fun id v a ha => ?_⟩
      · obtain ⟨trip', h'⟩ := @grants_set st _ trip (pointTrip env trip (some stored.artifactId)
          (some stored.version)) (tripLocked_ok hwrite).1 rfl rfl _ _ _ hg
        refine ⟨trip', ?_⟩
        rw [← h']
        exact tripLocked_congr htrips hmembers
      · obtain ⟨a₁, ha₁, ht₁⟩ := versions_withStatus (s := .published) hstored ha
        obtain ⟨a₂, ha₂, ht₂⟩ := versions_withSuperseded (q := otherSnapshots run.tripId stored) ha₁
        refine ⟨a₂, ?_, ht₂.trans ht₁⟩
        rw [Store.artifactTable, final_ok, harts]
        exact ha₂
  | error e st' =>
    obtain rfl | ⟨stored, hstored, -, -, rfl⟩ := publishResult_error h
    · exact .refl _
    · refine ⟨fun _ _ _ hg => hg, fun id v a ha => ?_⟩
      obtain ⟨a₁, ha₁, ht₁⟩ := versions_withStatus (s := .published) hstored ha
      obtain ⟨a₂, ha₂, ht₂⟩ := versions_withSuperseded (q := otherSnapshots run.tripId stored) ha₁
      exact ⟨a₂, ha₂, ht₂.trans ht₁⟩

theorem mutateRun_preserved {env : Env} {p : Principal} {runId : String} {m : RunMutation}
    {st : Store} : st.Preserved (final ((mutateRun env p runId m).run st)) := by
  have hpub : ∀ run, st.Preserved
      (final ((m.resultArtifact.forM (publishResult env p run) : StoreM Unit).run st)) := by
    intro run
    cases m.resultArtifact with
    | none => exact .refl _
    | some a => exact publishResult_preserved
  cases h : (mutateRun env p runId m).run st with
  | ok x st' =>
    obtain ⟨run, st₁, hm, -⟩ := mutateRun_ok h
    have h₁ := hpub run
    rw [hm.publish] at h₁
    exact h₁.trans (.of_accessPart (by rw [final_ok, hm.final]; rfl))
  | error e st' =>
    obtain rfl | ⟨run, -, -, -, hp⟩ := mutateRun_error h
    · exact .refl _
    · have h₁ := hpub run
      rwa [hp] at h₁

theorem createArtifact_preserved {env : Env} {p : Principal} {c : ArtifactCreation} {st : Store} :
    st.Preserved (final ((createArtifact env p c).run st)) := by
  cases h : (createArtifact env p c).run st with
  | ok a st' =>
    obtain ⟨-, -, hfresh, -, rfl⟩ := createArtifact_ok h
    refine ⟨fun _ _ _ hg => hg, fun id v b hb => ⟨b, ?_, rfl⟩⟩
    simp only [Store.artifactTable, final_ok, Dict.getD_set]
    split
    · next hid =>
      subst hid
      simp [Store.artifactTable, Dict.getD, hfresh, findVersion] at hb
    · exact hb
  | error e st' => rw [createArtifact_error h]; exact .refl _

theorem createRun_preserved {env : Env} {p : Principal} {c : RunCreation} {st : Store} :
    st.Preserved (final ((createRun env p c).run st)) := by
  cases h : (createRun env p c).run st with
  | ok x st' =>
    obtain ⟨-, rfl, -⟩ | ⟨-, trip, hc, -⟩ := createRun_ok h
    · exact .refl _
    · exact .of_accessPart (by rw [final_ok, hc.final]; rfl)
  | error e st' => rw [createRun_error h]; exact .refl _

theorem resumeRun_preserved {env : Env} {p : Principal} {runId : String} {r : RunResumption}
    {st : Store} : st.Preserved (final ((resumeRun env p runId r).run st)) := by
  cases h : (resumeRun env p runId r).run st with
  | ok x st' =>
    obtain ⟨-, rfl, -⟩ | ⟨-, run, values, hr, -⟩ := resumeRun_ok h
    · exact .refl _
    · exact .of_accessPart (by rw [final_ok, hr.final]; rfl)
  | error e st' => rw [resumeRun_error h]; exact .refl _

theorem createTrip_preserved {env : Env} {p : Principal} {request : TripCreateRequest} {st : Store}
    (hfresh : st.trips.get? (env.newPublicId "trip") = none) :
    st.Preserved (final ((createTrip env p request).run st)) := by
  refine ⟨fun q k w ⟨trip, hg⟩ => ⟨trip, ?_⟩, fun _ _ a ha => ⟨a, ha, rfl⟩⟩
  have hk : k ≠ env.newPublicId "trip" := by
    rintro rfl
    have := (tripLocked_ok hg).1
    rw [hfresh] at this; cases this
  have hm : (k, q.userId) ≠ (env.newPublicId "trip", p.userId) := fun h => hk (congrArg Prod.fst h)
  unfold tripLocked at hg ⊢
  simpa only [createTrip, EStateM.run_bind, EStateM.run_modify, EStateM.run_pure, final_ok,
    Dict.get?_set_ne _ hk, Dict.get?_set_ne _ hm] using hg

/-! ## Stored results -/

/-- The version is stored in the Trip with its type, and the principal may write. -/
def Store.Holds (st : Store) (p : Principal) (tripId : String) (a : ArtifactView) : Prop :=
  st.Grants p tripId true ∧ ∃ b, st.artifactTable a.artifactId a.version = some b ∧
    b.origin = (tripId, a.artifactType)

theorem Store.Holds.preserved {st st' : Store} {p : Principal} {tripId : String} {a : ArtifactView}
    (h : st.Holds p tripId a) (hp : st.Preserved st') : st'.Holds p tripId a := by
  obtain ⟨hg, b, hb, ht⟩ := h
  obtain ⟨b', hb', ht'⟩ := hp.versions _ _ b hb
  exact ⟨hp.access _ _ _ hg, b', hb', ht'.trans ht⟩

/-- A transition with a result that is stored in a writable Trip does not raise half-way. -/
theorem mutateRun_error_held {env : Env} {p : Principal} {r : String} {m : RunMutation}
    {st st' : Store} {e : StoreError} (hx : (mutateRun env p r m).run st = .error e st')
    (hheld : ∀ a run, m.resultArtifact = some a → st.runs.get? r = some run →
      st.Holds p run.tripId a) : st' = st := by
  obtain rfl | ⟨run, hread, -, -, hp⟩ := mutateRun_error hx
  · rfl
  · cases hm : m.resultArtifact with
    | none => rw [hm] at hp; cases hp
    | some a =>
      rw [hm] at hp
      obtain rfl | ⟨stored, -, -, hno, -⟩ := publishResult_error hp
      · rfl
      · obtain ⟨⟨trip, hwrite⟩, -⟩ := hheld a run hm (runLocked_ok hread).1
        rw [hwrite] at hno; cases hno

/-! ## Leases -/

/-- The operations on leases, and those that read Runs. -/
def StoreOp.isLeases : StoreOp → Bool
  | .claimRunExecution .. | .renewRunExecution .. | .releaseRunExecution .. | .getRun ..
  | .listEvents .. | .waitForEvents .. => true
  | _ => false

/-- The operations that write Runs and their events. -/
def StoreOp.writesLog : StoreOp → Bool
  | .createRun .. | .mutateRun .. | .resumeRun .. => true
  | _ => false

theorem StoreOp.writesLog_of_isLeases {o : StoreOp} (h : o.isLeases = true) :
    o.writesLog = false := by
  cases o with
  | createRun | mutateRun | resumeRun => cases h
  | _ => rfl

/-- Leases are claimed, renewed and released without touching any other table. -/
theorem StoreOp.keeps_of_isLeases {τ : Type} {f : Store → τ} (hf : ∀ (st : Store) x y,
    f { st with executionLeases := x, executionAttempts := y } = f st) (env : Env) (o : StoreOp)
    (h : o.isLeases = true) : Keeps f (o.run env) := by
  cases o with
  | claimRunExecution =>
    exact .bind (.ask _) fun _ => .bind (.ask _) fun _ => .bind .get fun _ => .ite (.pure _)
      (.bind (.bind .get fun _ => .bind (.modify fun st => hf st _ _) fun _ => .pure _) fun _ =>
        .pure _)
  | renewRunExecution p lease duration =>
    refine .bind (.ask _) fun _ => .bind .get fun st => ?_
    split
    · exact .pure _
    · exact .throw _
    · exact .bind (.modify fun st => hf st _ st.executionAttempts) fun _ => .pure _
  | releaseRunExecution =>
    exact .bind (.ask _) fun _ => .bind .get fun _ =>
      .ite (.bind (.modify fun st => hf st _ st.executionAttempts) fun _ => .pure _) (.pure _)
  | getRun => exact .ask _
  | listEvents | waitForEvents => exact .bind (.ask _) fun _ => .bind .get fun _ => .pure _
  | _ => cases h

end RoutePilot
