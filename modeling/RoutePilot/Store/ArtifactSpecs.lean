/-
  What the operations do to Artifacts and Trips: one lemma for each operation
  that writes them, with the checks it passed and the state it leaves.
-/
import RoutePilot.Spec.Publication
import RoutePilot.Store.RunSpecs

namespace RoutePilot

open Lib

/-! ## Trips -/

theorem patchTrip_ok {env : Env} {p : Principal} {tripId : String} {request : TripPatchRequest}
    {st st' : Store} {x : TripView} (h : (patchTrip env p tripId request).run st = .ok x st') :
    ∃ t, tripLocked p tripId true st = .ok t ∧ st' = { st with
      trips := st.trips.set tripId
        { request.apply t with version := t.version + 1, updatedAt := env.now } } := by
  simp only [patchTrip, bind_ok, ask_ok, EStateM.run_modify, EStateM.run_pure,
    EStateM.Result.ok.injEq, existsAndEq, true_and, exists_const, and_assoc] at h
  obtain ⟨t, ht, -, rfl⟩ := h
  exact ⟨t, ht, rfl⟩

theorem patchTrip_error {env : Env} {p : Principal} {tripId : String} {request : TripPatchRequest}
    {st st' : Store} {e : StoreError} (h : (patchTrip env p tripId request).run st = .error e st') :
    st' = st := by
  simp only [patchTrip, bind_error, ask_ok, ask_error, EStateM.run_modify, EStateM.run_pure,
    reduceCtorEq, and_false, or_false, exists_const] at h
  exact h.2.symm

theorem setTripStatus_ok {env : Env} {p : Principal} {tripId : String} {status : TripStatus}
    {st st' : Store} {x : TripView} (h : (setTripStatus env p tripId status).run st = .ok x st') :
    ∃ t, tripLocked p tripId true st = .ok t ∧ st' = { st with
      trips := st.trips.set tripId
        { t with status := status, version := t.version + 1, updatedAt := env.now } } := by
  simp only [setTripStatus, bind_ok, ask_ok, EStateM.run_modify, EStateM.run_pure,
    EStateM.Result.ok.injEq, existsAndEq, true_and, exists_const, and_assoc] at h
  obtain ⟨t, ht, -, rfl⟩ := h
  exact ⟨t, ht, rfl⟩

theorem setTripStatus_error {env : Env} {p : Principal} {tripId : String} {status : TripStatus}
    {st st' : Store} {e : StoreError}
    (h : (setTripStatus env p tripId status).run st = .error e st') : st' = st := by
  simp only [setTripStatus, bind_error, ask_ok, ask_error, EStateM.run_modify, EStateM.run_pure,
    reduceCtorEq, and_false, or_false, exists_const] at h
  exact h.2.symm

/-! ## Creation and versions -/

theorem createArtifact_ok {env : Env} {p : Principal} {c : ArtifactCreation} {st st' : Store}
    {a : ArtifactView} (h : (createArtifact env p c).run st = .ok a st') :
    (∃ trip, tripLocked p c.tripId true st = .ok trip) ∧ checkArtifactFence env p c st = .ok () ∧
      st.artifacts.get? (c.resolvedId env) = none ∧ a = c.artifact env p ∧
      st' = { st with artifacts := st.artifacts.set (c.resolvedId env) [c.artifact env p] } := by
  simp only [createArtifact, bind_ok, ask_ok, ensure_ok, EStateM.run_get, EStateM.run_modify,
    EStateM.run_pure, EStateM.Result.ok.injEq, existsAndEq, true_and, exists_const, and_assoc] at h
  obtain ⟨trip, hwrite, u, hfence, hfresh, rfl, rfl⟩ := h
  exact ⟨⟨trip, hwrite⟩, hfence, Option.isNone_iff_eq_none.1 hfresh, rfl, rfl⟩

theorem createArtifact_error {env : Env} {p : Principal} {c : ArtifactCreation} {st st' : Store}
    {e : StoreError} (h : (createArtifact env p c).run st = .error e st') : st' = st := by
  simp only [createArtifact, bind_error, ask_ok, ask_error, ensure_ok, ensure_error, EStateM.run_get,
    EStateM.run_modify, EStateM.run_pure, EStateM.Result.ok.injEq, existsAndEq, true_and,
    exists_const, and_assoc, reduceCtorEq, false_or, and_false, or_false] at h
  rcases h with ⟨-, rfl⟩ | ⟨_, -, ⟨-, rfl⟩ | ⟨_, -, -, -, rfl⟩⟩ <;> rfl

theorem patchArtifact_error {env : Env} {p : Principal} {artifactId : String}
    {request : ArtifactPatchRequest} {st st' : Store} {e : StoreError}
    (h : (patchArtifact env p artifactId request).run st = .error e st') : st' = st := by
  simp only [patchArtifact, bind_error, ask_ok, ask_error, ensure_ok, ensure_error,
    EStateM.run_modify, EStateM.run_pure, existsAndEq, true_and, exists_const, and_assoc,
    reduceCtorEq, and_false, or_false] at h
  rcases h with ⟨-, rfl⟩ | ⟨_, -, ⟨-, rfl⟩ | ⟨_, -, ⟨-, -, rfl⟩ | ⟨-, -, rfl⟩⟩⟩ <;> rfl

theorem patchArtifact_ok {env : Env} {p : Principal} {artifactId : String}
    {request : ArtifactPatchRequest} {st st' : Store} {a : ArtifactView}
    (h : (patchArtifact env p artifactId request).run st = .ok a st') :
    ∃ current content, artifactLocked p artifactId none true st = .ok current ∧
      st' = { st with
        artifacts := st.artifacts.set artifactId
          (st.artifacts.getD artifactId [] ++ [nextVersion env current content]) } := by
  simp only [patchArtifact, bind_ok, ask_ok, ensure_ok, EStateM.run_modify, EStateM.run_pure,
    EStateM.Result.ok.injEq, existsAndEq, true_and, exists_const, and_assoc] at h
  obtain ⟨current, hread, _, -, -, content, -, rfl, rfl⟩ := h
  exact ⟨current, content, hread, rfl⟩

/-! ## Versions of one Artifact -/

/-- The versions of every Artifact are stored under its identifier and have distinct numbers. -/
structure VersionsOk (id : String) (versions : List ArtifactView) : Prop where
  key : ∀ a ∈ versions, a.artifactId = id
  distinct : versions.Pairwise fun a b => a.version ≠ b.version

theorem findVersion_eq_some {id : String} {versions : List ArtifactView} {v : ℕ} {a : ArtifactView}
    (h : VersionsOk id versions) :
    findVersion versions v = some a ↔ a ∈ versions ∧ a.version = v := by
  constructor
  · intro hf
    exact ⟨List.mem_of_find?_eq_some hf, by simpa using List.find?_some hf⟩
  · rintro ⟨hm, rfl⟩
    have hd := h.distinct
    clear h
    induction versions with
    | nil => cases hm
    | cons b bs ih =>
      rw [List.pairwise_cons] at hd
      unfold findVersion at ih ⊢
      rw [List.find?_cons]
      obtain rfl | hm := List.mem_cons.1 hm
      · simp
      · have hne : (b.version == a.version) = false := by simpa using hd.1 a hm
        rw [hne]
        exact ih hm hd.2

theorem findVersion_map {versions : List ArtifactView} {g : ArtifactView → ArtifactView} {v : ℕ}
    (hg : ∀ a, (g a).version = a.version) :
    findVersion (versions.map g) v = (findVersion versions v).map g := by
  induction versions with
  | nil => rfl
  | cons a as ih =>
    unfold findVersion at ih ⊢
    rw [List.map_cons, List.find?_cons, List.find?_cons, hg]
    cases a.version == v
    · exact ih
    · rfl

theorem VersionsOk.map {id : String} {versions : List ArtifactView} {g : ArtifactView → ArtifactView}
    (h : VersionsOk id versions) (hg : ∀ a, (g a).version = a.version)
    (hid : ∀ a ∈ versions, (g a).artifactId = a.artifactId) : VersionsOk id (versions.map g) where
  key a ha := by
    obtain ⟨b, hb, rfl⟩ := List.mem_map.1 ha
    exact (hid b hb).trans (h.key b hb)
  distinct := by
    rw [List.pairwise_map]
    exact h.distinct.imp fun hne => by rwa [hg, hg]

/-- The newest version is one of the versions, and no version has a greater number. -/
theorem latestVersion_spec {versions : List ArtifactView} {a : ArtifactView}
    (h : latestVersion versions = some a) :
    a ∈ versions ∧ ∀ b ∈ versions, b.version ≤ a.version := by
  cases versions with
  | nil => cases h
  | cons c cs =>
    obtain rfl := Option.some.inj h
    exact foldl_greatest ArtifactView.version c cs

theorem latestVersion_of_greatest {id : String} {versions : List ArtifactView} {a : ArtifactView}
    (h : VersionsOk id versions) (ha : a ∈ versions) (hle : ∀ b ∈ versions, b.version ≤ a.version) :
    latestVersion versions = some a := by
  cases hlatest : latestVersion versions with
  | none =>
    cases versions with
    | nil => cases ha
    | cons b bs => cases hlatest
  | some l =>
    obtain ⟨hl, hge⟩ := latestVersion_spec hlatest
    have hfound := (findVersion_eq_some h).2 ⟨hl, le_antisymm (hle l hl) (hge a ha)⟩
    rw [(findVersion_eq_some h).2 ⟨ha, rfl⟩] at hfound
    exact hfound.symm

theorem artifactLocked_latest {p : Principal} {artifactId : String} {write : Bool} {st : Store}
    {a : ArtifactView} (h : artifactLocked p artifactId none write st = .ok a) :
    latestVersion (st.artifacts.getD artifactId []) = some a ∧
      ∃ trip, tripLocked p a.tripId write st = .ok trip := by
  unfold artifactLocked at h
  split at h
  · cases h
  · next latest hl =>
    simp only at h
    split at h
    · cases h
    · cases ht : tripLocked p latest.tripId write st with
      | error e => rw [ht] at h; cases h
      | ok trip => rw [ht] at h; cases h; exact ⟨hl, trip, ht⟩

/-! ## The tables of the invariant -/

def Store.tripTable (st : Store) : TripTable := st.trips.get?

def Store.artifactTable (st : Store) : ArtifactTable :=
  fun id v => findVersion (st.artifacts.getD id []) v

/-- The version is stored. -/
def Store.Stores (st : Store) (a : ArtifactView) : Prop := ∃ id, a ∈ st.artifacts.getD id []

/-- Every Artifact has well-formed versions. -/
def Store.ArtifactsOk (st : Store) : Prop := ∀ id, VersionsOk id (st.artifacts.getD id [])

theorem Store.ArtifactsOk.stores_iff {st : Store} (h : st.ArtifactsOk) (a : ArtifactView) :
    st.Stores a ↔ st.artifactTable a.artifactId a.version = some a := by
  constructor
  · rintro ⟨id, ha⟩
    obtain rfl := (h id).key a ha
    exact (findVersion_eq_some (h a.artifactId)).2 ⟨ha, rfl⟩
  · intro ha
    exact ⟨a.artifactId, ((findVersion_eq_some (h a.artifactId)).1 ha).1⟩

/-- `st'` stores the versions of `st` with other statuses. -/
structure Restatused (f : ArtifactView → ArtifactStatus) (st st' : Store) : Prop where
  table : st'.artifactTable = restatus f st.artifactTable
  ok : st'.ArtifactsOk

theorem restatus_restatus (f g : ArtifactView → ArtifactStatus) (A : ArtifactTable) :
    restatus g (restatus f A) = restatus (fun a => g { a with status := f a }) A := by
  funext id v
  simp only [restatus, Option.map_map]
  rfl

/-- One version with another status. -/
def statusAt (id : String) (v : ℕ) (s : ArtifactStatus) (a : ArtifactView) : ArtifactStatus :=
  if a.artifactId = id ∧ a.version = v then s else a.status

/-- The published versions selected by `p`, superseded. -/
def supersededBy (p : ArtifactView → Bool) (a : ArtifactView) : ArtifactStatus :=
  if a.status = .published ∧ p a then .superseded else a.status

/-- The store with another status for one version. -/
def withStatus (id : String) (stored : ArtifactView) (s : ArtifactStatus) (st : Store) : Store :=
  { st with
    artifacts := st.artifacts.set id
      (replaceVersion (st.artifacts.getD id []) { stored with status := s }) }

/-- The store with the published versions selected by `p` superseded. -/
def withSuperseded (p : ArtifactView → Bool) (st : Store) : Store :=
  { st with artifacts := st.artifacts.mapValues (supersede p) }

theorem restatused_replaceVersion {st : Store} (h : st.ArtifactsOk) {id : String}
    {stored : ArtifactView} {s : ArtifactStatus} (hmem : stored ∈ st.artifacts.getD id []) :
    Restatused (statusAt id stored.version s) st (withStatus id stored s st) := by
  have hid := (h id).key stored hmem
  constructor
  · funext k v
    simp only [Store.artifactTable, restatus, withStatus, Dict.getD_set]
    split
    · next hk =>
      subst hk
      rw [replaceVersion, findVersion_map (by intro a; dsimp only; split <;> simp_all)]
      cases hf : findVersion (st.artifacts.getD k []) v with
      | none => rfl
      | some a =>
        obtain ⟨ha, rfl⟩ := (findVersion_eq_some (h k)).1 hf
        have hak := (h k).key a ha
        by_cases hv : a.version = stored.version
        · have : a = stored := by
            have h₁ := (findVersion_eq_some (h k)).2 ⟨hmem, hv.symm⟩
            exact Option.some.inj (hf.symm.trans h₁)
          simp [statusAt, this, hid]
        · simp [statusAt, hv]
    · next hk =>
      cases hf : findVersion (st.artifacts.getD k []) v with
      | none => rfl
      | some a =>
        have hne : ¬ (a.artifactId = id ∧ a.version = stored.version) := fun he =>
          hk (((h k).key a ((findVersion_eq_some (h k)).1 hf).1).symm.trans he.1)
        simp [statusAt, if_neg hne]
  · intro k
    rw [withStatus, Dict.getD_set]
    split
    · next hk =>
      subst hk
      refine (h k).map (by intro a; dsimp only; split <;> simp_all) fun a ha => ?_
      dsimp only
      split
      · exact hid.trans ((h k).key a ha).symm
      · rfl
    · exact h k

theorem restatused_supersede {st : Store} (h : st.ArtifactsOk) (p : ArtifactView → Bool) :
    Restatused (supersededBy p) st (withSuperseded p st) := by
  have hget : ∀ k, (st.artifacts.mapValues (supersede p)).getD k [] =
      supersede p (st.artifacts.getD k []) := fun k => Dict.getD_mapValues _ (supersede p) k []
  have hg : (fun a : ArtifactView => if a.status = .published ∧ p a = true
      then { a with status := .superseded } else a) = fun a => { a with status := supersededBy p a } := by
    funext a
    rw [supersededBy]
    split <;> rfl
  constructor
  · funext k v
    simp only [Store.artifactTable, withSuperseded, hget]
    rw [supersede, hg]
    exact findVersion_map fun _ => rfl
  · intro k
    rw [withSuperseded, hget, supersede, hg]
    exact (h k).map (fun _ => rfl) fun _ _ => rfl

theorem Restatused.trans {f g : ArtifactView → ArtifactStatus} {st st₁ st₂ : Store}
    (h : Restatused f st st₁) (h' : Restatused g st₁ st₂) :
    Restatused (fun a => g { a with status := f a }) st st₂ where
  table := by rw [h'.table, h.table, restatus_restatus]
  ok := h'.ok

/-! ## Publication by a Run -/

theorem storedResult_ok {result stored : ArtifactView} {tripId : String} {st : Store}
    (h : storedResult result tripId st = .ok stored) :
    st.artifactTable result.artifactId result.version = some stored ∧ stored.tripId = tripId := by
  unfold storedResult at h
  split at h
  · next a ha =>
    split at h
    · next ht => cases h; exact ⟨ha, ht⟩
    · cases h
  · cases h

/-- The other published snapshots of a Trip. -/
def otherSnapshots (tripId : String) (stored a : ArtifactView) : Bool :=
  a.tripId = tripId ∧ a.artifactType = "TripSnapshot" ∧
    ¬ (a.artifactId = stored.artifactId ∧ a.version = stored.version)

theorem publishResult_ok {env : Env} {p : Principal} {run : RunView} {result : ArtifactView}
    {st st' : Store} {u : Unit} (h : (publishResult env p run result).run st = .ok u st') :
    ∃ stored, storedResult result run.tripId st = .ok stored ∧
      ((stored.artifactType ≠ "TripSnapshot" ∧ st' = withStatus result.artifactId stored .published st) ∨
        stored.artifactType = "TripSnapshot" ∧ ∃ trip, tripLocked p run.tripId true st = .ok trip ∧
          st'.trips = st.trips.set run.tripId
            (pointTrip env trip (some stored.artifactId) (some stored.version)) ∧
          st'.artifacts = (withSuperseded (otherSnapshots run.tripId stored)
            (withStatus result.artifactId stored .published st)).artifacts) := by
  simp only [publishResult, bind_ok, ask_ok, EStateM.run_modify, EStateM.Result.ok.injEq,
    existsAndEq, true_and, exists_const, and_assoc] at h
  obtain ⟨stored, hstored, h⟩ := h
  refine ⟨stored, hstored, ?_⟩
  split at h
  · next htype =>
    simp only [bind_ok, ask_ok, EStateM.run_modify, EStateM.Result.ok.injEq, existsAndEq,
      true_and, exists_const, and_assoc] at h
    obtain ⟨trip, htrip, rfl⟩ := h
    exact .inr ⟨htype, trip, htrip, rfl, rfl⟩
  · next htype => cases h; exact .inl ⟨htype, rfl⟩

theorem publishResult_error {env : Env} {p : Principal} {run : RunView} {result : ArtifactView}
    {st st' : Store} {e : StoreError} (h : (publishResult env p run result).run st = .error e st') :
    st' = st ∨ ∃ stored, storedResult result run.tripId st = .ok stored ∧
      stored.artifactType = "TripSnapshot" ∧ tripLocked p run.tripId true st = .error e ∧
      st' = withSuperseded (otherSnapshots run.tripId stored) (withStatus result.artifactId stored .published st) := by
  simp only [publishResult, bind_error, ask_ok, ask_error, EStateM.run_modify,
    EStateM.Result.ok.injEq, existsAndEq, true_and, exists_const, and_assoc, reduceCtorEq, false_or] at h
  rcases h with ⟨-, rfl⟩ | ⟨stored, hstored, h⟩
  · exact .inl rfl
  · split at h
    · next htype =>
      simp only [bind_error, ask_ok, ask_error, EStateM.run_modify, EStateM.Result.ok.injEq,
        existsAndEq, true_and, reduceCtorEq, false_or, and_false, or_false,
        exists_const] at h
      obtain ⟨htrip, rfl⟩ := h
      exact .inr ⟨stored, hstored, htype, htrip, rfl⟩
    · cases h

/-- A stored result is published, a snapshot if the principal may write the Trip. -/
theorem publishResult_accepted (env : Env) {p : Principal} {run : RunView} {result stored : ArtifactView} {st : Store}
    (hstored : storedResult result run.tripId st = .ok stored)
    (hwrite : stored.artifactType = "TripSnapshot" → ∃ trip, tripLocked p run.tripId true st = .ok trip) :
    ∃ st', (publishResult env p run result).run st = .ok () st' := by
  simp only [publishResult, bind_ok, ask_ok, EStateM.run_modify, EStateM.Result.ok.injEq, existsAndEq, true_and,
    exists_const, and_assoc, hstored, Except.ok.injEq]
  split
  · next htype =>
    obtain ⟨trip, htrip⟩ := hwrite htype
    have hst : ∀ artifacts, tripLocked p run.tripId true { st with artifacts := artifacts } = .ok trip := fun _ => htrip
    simp only [bind_ok, ask_ok, EStateM.run_modify, EStateM.Result.ok.injEq, existsAndEq, true_and, exists_const,
      and_assoc, hst, Except.ok.injEq]
  · exact ⟨_, rfl⟩

/-- Without that, the statuses are rewritten before the exception. -/
theorem publishResult_half (env : Env) {p : Principal} {run : RunView} {result stored : ArtifactView} {st : Store}
    {e : StoreError} (hstored : storedResult result run.tripId st = .ok stored)
    (htype : stored.artifactType = "TripSnapshot") (hwrite : tripLocked p run.tripId true st = .error e) :
    (publishResult env p run result).run st = .error e (withSuperseded
      (otherSnapshots run.tripId stored) (withStatus result.artifactId stored .published st)) := by
  simp only [publishResult, bind_error, ask_ok, ask_error, EStateM.run_modify, EStateM.Result.ok.injEq, existsAndEq,
    true_and, exists_const, and_assoc, reduceCtorEq, false_or]
  refine .inr ⟨stored, hstored, ?_⟩
  rw [if_pos htype]
  simp only [bind_error, ask_error, EStateM.run_modify, EStateM.Result.ok.injEq, existsAndEq,
    true_and, exists_const, reduceCtorEq, false_or]
  exact .inl ⟨hwrite, rfl⟩

/-! ## Lifecycle commands -/

/-- The other versions of a Trip. -/
def otherVersions (current a : ArtifactView) : Bool :=
  a.tripId = current.tripId ∧ ¬ (a.artifactId = current.artifactId ∧ a.version = current.version)

/-- What a command does to Artifacts and Trips, when it is no replay. -/
inductive Commanded (env : Env) (artifactId : String) (current : ArtifactView) (trip : TripView)
    (st st' : Store) : ArtifactCommand → Prop
  | select (hstatus : current.status = .candidate) (htrips : st'.trips = st.trips)
      (h : st'.artifacts = (withStatus artifactId current .selected st).artifacts) :
      Commanded env artifactId current trip st st' .select
  | publish (hstatus : current.status = .validated)
      (htrips : st'.trips = st.trips.set trip.tripId
        (pointTrip env trip (some current.artifactId) (some current.version)))
      (h : st'.artifacts = (withSuperseded (otherVersions current)
        (withStatus artifactId current .published st)).artifacts) :
      Commanded env artifactId current trip st st' .publish
  | revoke (hstatus : current.status = .published)
      (htrips : st'.trips = if trip.currentArtifactId = some current.artifactId ∧
          trip.currentArtifactVersion = some current.version then
        st.trips.set trip.tripId (pointTrip env trip none none) else st.trips)
      (h : st'.artifacts = (withStatus artifactId current .revoked st).artifacts) :
      Commanded env artifactId current trip st st' .revoke

theorem applyCommand_ok {env : Env} {p : Principal} {current : ArtifactView} {trip : TripView}
    {request : ArtifactCommandRequest} {artifactId key requestHash : String} {st st' : Store}
    {x : IdempotentArtifactResult} (htrip : tripLocked p current.tripId true st = .ok trip)
    (h : (applyCommand env p current request artifactId key requestHash).run st = .ok x st') :
    Commanded env artifactId current trip st st' request.type := by
  have hst : ∀ (a : Dict String (List ArtifactView)),
      tripLocked p current.tripId true { st with artifacts := a } = .ok trip := fun _ => htrip
  simp only [applyCommand, bind_ok, ensure_ok, EStateM.run_modify, EStateM.run_pure,
    EStateM.Result.ok.injEq, existsAndEq, true_and, exists_const, and_assoc] at h
  obtain ⟨-, hstatus, _, st₁, htarget, -, rfl⟩ := h
  cases ht : request.type with
  | select =>
    rw [ht] at hstatus htarget
    cases htarget
    exact .select hstatus rfl rfl
  | publish =>
    rw [ht] at hstatus htarget
    simp only [ArtifactCommand.transition, applyTarget, publishByCommand, bind_ok, ask_ok,
      EStateM.run_modify, EStateM.Result.ok.injEq, existsAndEq, true_and, exists_const, and_assoc,
      hst, Except.ok.injEq] at htarget
    obtain rfl := htarget
    exact .publish hstatus rfl rfl
  | revoke =>
    rw [ht] at hstatus htarget
    simp only [ArtifactCommand.transition, applyTarget, revokeByCommand, bind_ok, ask_ok,
      existsAndEq, true_and, hst, Except.ok.injEq, and_assoc] at htarget
    split at htarget
    · next hp => cases htarget; exact .revoke hstatus (by rw [if_pos hp]) rfl
    · next hp => cases htarget; exact .revoke hstatus (by rw [if_neg hp]) rfl

theorem applyCommand_error {env : Env} {p : Principal} {current : ArtifactView} {trip : TripView}
    {request : ArtifactCommandRequest} {artifactId key requestHash : String} {st st' : Store}
    {e : StoreError} (htrip : tripLocked p current.tripId true st = .ok trip)
    (h : (applyCommand env p current request artifactId key requestHash).run st = .error e st') :
    st' = st := by
  have hst : ∀ (a : Dict String (List ArtifactView)),
      tripLocked p current.tripId true { st with artifacts := a } = .ok trip := fun _ => htrip
  simp only [applyCommand, bind_error, ensure_ok, ensure_error, EStateM.run_modify,
    EStateM.run_pure, EStateM.Result.ok.injEq, existsAndEq, true_and, exists_const, and_assoc,
    reduceCtorEq, false_or, and_false, or_false] at h
  rcases h with ⟨-, -, rfl⟩ | ⟨-, ⟨-, -, rfl⟩ | ⟨-, htarget⟩⟩
  · rfl
  · rfl
  · -- the write access was checked before the statuses were rewritten
    cases ht : request.type with
    | select => rw [ht] at htarget; cases htarget
    | publish =>
      rw [ht] at htarget
      simp only [ArtifactCommand.transition, applyTarget, publishByCommand, bind_error, ask_ok,
        ask_error, EStateM.run_modify, EStateM.Result.ok.injEq, existsAndEq, true_and, exists_const,
        hst, reduceCtorEq, false_and, false_or, and_false] at htarget
    | revoke =>
      rw [ht] at htarget
      simp only [ArtifactCommand.transition, applyTarget, revokeByCommand, bind_error, ask_ok,
        ask_error, hst, reduceCtorEq, false_and, false_or, Except.ok.injEq, existsAndEq, true_and,
        and_assoc] at htarget
      split at htarget <;> cases htarget

theorem commandArtifact_ok {env : Env} {p : Principal} {artifactId : String}
    {request : ArtifactCommandRequest} {key requestHash : String} {st st' : Store}
    {x : IdempotentArtifactResult}
    (h : (commandArtifact env p artifactId request key requestHash).run st = .ok x st') :
    (st' = st ∧ x.replayed = true) ∨ ∃ current trip,
      artifactLocked p artifactId none true st = .ok current ∧
      tripLocked p current.tripId true st = .ok trip ∧
      Commanded env artifactId current trip st st' request.type := by
  simp only [commandArtifact, bind_ok, ask_ok, EStateM.run_get, EStateM.Result.ok.injEq,
    existsAndEq, true_and, and_assoc] at h
  obtain ⟨current, hread, _, -, h⟩ := h
  split at h
  · simp only [bind_ok, ensure_ok, EStateM.run_pure, EStateM.Result.ok.injEq, existsAndEq, true_and,
      exists_const, and_assoc] at h
    obtain ⟨-, rfl, rfl⟩ := h
    exact .inl ⟨rfl, rfl⟩
  · obtain ⟨trip, htrip⟩ := (artifactLocked_latest hread).2
    exact .inr ⟨current, trip, hread, htrip, applyCommand_ok htrip h⟩

/-- A replay changes nothing. -/
theorem commandArtifact_replayed {env : Env} {p : Principal} {artifactId : String}
    {request : ArtifactCommandRequest} {key requestHash : String} {st st' : Store} {x : IdempotentArtifactResult}
    (h : (commandArtifact env p artifactId request key requestHash).run st = .ok x st') (hx : x.replayed = true) :
    st' = st := by
  simp only [commandArtifact, bind_ok, ask_ok, EStateM.run_get, EStateM.Result.ok.injEq,
    existsAndEq, true_and, and_assoc] at h
  obtain ⟨current, -, _, -, h⟩ := h
  split at h
  · simp only [bind_ok, ensure_ok, EStateM.run_pure, EStateM.Result.ok.injEq, existsAndEq, true_and,
      exists_const, and_assoc] at h
    exact h.2.2.symm
  · simp only [applyCommand, bind_ok, ensure_ok, EStateM.run_modify, EStateM.run_pure,
      EStateM.Result.ok.injEq, existsAndEq, true_and, exists_const, and_assoc] at h
    obtain ⟨-, -, _, _, -, rfl, -⟩ := h
    cases hx

theorem commandArtifact_error {env : Env} {p : Principal} {artifactId : String}
    {request : ArtifactCommandRequest} {key requestHash : String} {st st' : Store} {e : StoreError}
    (h : (commandArtifact env p artifactId request key requestHash).run st = .error e st') :
    st' = st := by
  simp only [commandArtifact, bind_error, ask_ok, ask_error, EStateM.run_get,
    EStateM.Result.ok.injEq, existsAndEq, true_and, and_assoc, reduceCtorEq, false_or] at h
  rcases h with ⟨-, rfl⟩ | ⟨current, hread, ⟨-, rfl⟩ | ⟨_, -, h⟩⟩
  · rfl
  · rfl
  · split at h
    · simp only [bind_error, ensure_ok, ensure_error, EStateM.run_pure, reduceCtorEq, and_false,
        or_false, exists_const] at h
      obtain ⟨-, -, rfl⟩ := h; rfl
    · obtain ⟨trip, htrip⟩ := (artifactLocked_latest hread).2
      exact applyCommand_error htrip h

/-- The command applies to a version: the newest one, as expected, of a registered contract, in the status that
    the command requires. -/
structure ArtifactCommandRequest.AppliesTo (request : ArtifactCommandRequest) (current : ArtifactView) : Prop where
  registered : ensureArtifactMutable current = .ok ()
  version : current.version = request.baseVersion
  status : current.status = request.type.transition.1

section
variable {env : Env} {st : Store} {p : Principal} {artifactId : String} {request : ArtifactCommandRequest}
  {key requestHash : String} {current : ArtifactView}

/-- A command that applies to the newest version is applied under a new key. -/
theorem commandArtifact_accepted (hread : artifactLocked p artifactId none true st = .ok current)
    (happlies : request.AppliesTo current)
    (hkey : st.artifactIdempotency.get? (p.tenantId, p.userId, artifactId, key) = none) :
    ∃ st', (commandArtifact env p artifactId request key requestHash).run st =
      .ok ⟨{ current with status := request.type.transition.2 }, false⟩ st' := by
  obtain ⟨command, version⟩ := request
  obtain ⟨hregistered, rfl, hstatus⟩ := happlies
  obtain ⟨trip, htrip⟩ := (artifactLocked_latest hread).2
  have hst : ∀ artifacts : Dict String (List ArtifactView),
      tripLocked p current.tripId true { st with artifacts := artifacts } = .ok trip := fun _ => htrip
  have htarget : ∀ artifacts : Dict String (List ArtifactView), ∃ st₁,
      (applyTarget env p current command.transition.2).run { st with artifacts := artifacts } = .ok () st₁ := by
    intro artifacts
    cases command with
    | select => exact ⟨_, rfl⟩
    | publish =>
      simp only [ArtifactCommand.transition, applyTarget, publishByCommand, bind_ok, ask_ok, EStateM.run_modify,
        EStateM.Result.ok.injEq, existsAndEq, true_and, and_assoc, hst, Except.ok.injEq]
      exact ⟨(), trivial⟩
    | revoke =>
      simp only [ArtifactCommand.transition, applyTarget, revokeByCommand, bind_ok, ask_ok, existsAndEq, true_and, hst,
        Except.ok.injEq, and_assoc]
      split
      · exact ⟨_, rfl⟩
      · exact ⟨_, rfl⟩
  obtain ⟨st₁, hst₁⟩ := htarget (st.artifacts.set artifactId
    (replaceVersion (st.artifacts.getD artifactId []) { current with status := command.transition.2 }))
  simp only [commandArtifact, EStateM.run_bind, run_ask, hread, hregistered, EStateM.run_get, hkey, applyCommand,
    ensure, hstatus, if_true, EStateM.run_pure, EStateM.run_modify, hst₁]
  exact ⟨_, rfl⟩

/-- When a command is applied, and not replayed. -/
theorem commandArtifact_applied_iff :
    (∃ x st', (commandArtifact env p artifactId request key requestHash).run st = .ok x st' ∧ x.replayed = false) ↔
      st.artifactIdempotency.get? (p.tenantId, p.userId, artifactId, key) = none ∧
      ∃ current, artifactLocked p artifactId none true st = .ok current ∧ request.AppliesTo current := by
  constructor
  · rintro ⟨x, st', h, hx⟩
    simp only [commandArtifact, bind_ok, ask_ok, EStateM.run_get, EStateM.Result.ok.injEq,
      existsAndEq, true_and, and_assoc] at h
    obtain ⟨current, hread, _, hregistered, h⟩ := h
    split at h
    · simp only [bind_ok, ensure_ok, EStateM.run_pure, EStateM.Result.ok.injEq, existsAndEq, true_and,
        exists_const, and_assoc] at h
      obtain ⟨-, rfl, -⟩ := h
      cases hx
    · next hkey =>
      simp only [applyCommand, bind_ok, ensure_ok, existsAndEq, true_and, exists_const, and_assoc] at h
      exact ⟨hkey, current, hread, hregistered, h.1, h.2.1⟩
  · rintro ⟨hkey, current, hread, happlies⟩
    have haccepted : ∃ st', (commandArtifact env p artifactId request key requestHash).run st =
        .ok ⟨{ current with status := request.type.transition.2 }, false⟩ st' :=
      commandArtifact_accepted hread happlies hkey
    obtain ⟨st', h⟩ := haccepted
    exact ⟨_, st', h, rfl⟩

end

/-! ## Every other operation leaves Trips and Artifacts alone -/

/-- The operations that write Trips or Artifacts. -/
def StoreOp.WritesArtifacts : StoreOp → Prop
  | .createTrip .. | .patchTrip .. | .setTripStatus .. | .mutateRun .. | .createArtifact ..
  | .patchArtifact .. | .commandArtifact .. => True
  | _ => False

/-- The tables of Trips and Artifacts. -/
def Store.artifactPart (st : Store) : Dict String TripView × Dict String (List ArtifactView) :=
  (st.trips, st.artifacts)

theorem StoreOp.keeps_artifactPart (env : Env) (o : StoreOp) (h : ¬ o.WritesArtifacts) :
    Keeps Store.artifactPart (o.run env) := by
  cases o with
  | createTrip | patchTrip | setTripStatus | mutateRun | createArtifact | patchArtifact
  | commandArtifact => exact absurd trivial h
  | listTrips => exact .bind .get fun _ => .pure _
  | getTrip | getRun | getArtifact => exact .ask _
  | listTripMembers | listEvents | waitForEvents | listArtifacts =>
    exact .bind (.ask _) fun _ => .bind .get fun _ => .pure _
  | upsertTripMember =>
    exact .bind (.ensure _ _) fun _ => .bind (.ask _) fun _ =>
      .bind (.bind (.ensure _ _) fun _ => .ensure _ _) fun _ => .bind .get fun _ =>
      .bind (.modify fun _ => rfl) fun _ => .pure _
  | removeTripMember =>
    exact .bind (.ask _) fun _ => .bind (.bind (.ensure _ _) fun _ => .ensure _ _) fun _ =>
      .bind .get fun _ => .bind (.ensure _ _) fun _ => .modify fun _ => rfl
  | createRun p c =>
    refine .bind (.ask _) fun _ => .bind (.ensure _ _) fun _ => .bind .get fun st => ?_
    split
    · exact .bind (.ensure _ _) fun _ => .bind (.ask _) fun _ => .pure _
    · exact .bind .get fun _ => .bind (.ask _) fun _ => .bind (.modify fun _ => rfl) fun _ =>
        .bind (.bind .get fun _ => .bind (.modify fun _ => rfl) fun _ => .pure _) fun _ =>
        .bind (.modify fun _ => rfl) fun _ => .pure _
  | claimRunExecution p runId owner duration =>
    exact .bind (.ask _) fun _ => .bind (.ask _) fun _ => .bind .get fun _ =>
      .ite (.pure _) (.bind (.bind .get fun _ => .bind (.modify fun _ => rfl) fun _ => .pure _)
        fun _ => .pure _)
  | renewRunExecution p lease duration =>
    refine .bind (.ask _) fun _ => .bind .get fun st => ?_
    split
    · exact .pure _
    · exact .throw _
    · exact .bind (.modify fun _ => rfl) fun _ => .pure _
  | releaseRunExecution p lease =>
    exact .bind (.ask _) fun _ => .bind .get fun _ =>
      .ite (.bind (.modify fun _ => rfl) fun _ => .pure _) (.pure _)
  | resumeRun p runId r =>
    refine .bind (.ask _) fun _ => .bind .get fun st => ?_
    split
    · exact .bind (.ensure _ _) fun _ => .pure _
    · exact .bind (.ensure _ _) fun _ => .bind (.ask _) fun _ => .bind (.modify fun _ => rfl) fun _ =>
        .bind (.bind .get fun _ => .bind (.modify fun _ => rfl) fun _ => .pure _) fun _ =>
        .bind (.modify fun _ => rfl) fun _ => .pure _

end RoutePilot
