/-
  Who may change a Trip, abstractly: the Trips of a store with their members,
  Runs, leases, events and Artifact versions.

  A call that changes anything changes one Trip only (`Confined`), and the
  operations differ in whether they check that the caller may write it.
-/
import RoutePilot.Spec.Lease
import RoutePilot.Spec.Publication
import RoutePilot.Spec.RunBackend

namespace RoutePilot

/-- What a store holds of its Trips. -/
structure PlatformView where
  trips : TripTable
  members : String × String → Option TripMemberView
  runs : RunLog
  /-- the attempts of the Runs, and their leases with owner and end -/
  leases : LeaseTable
  artifacts : ArtifactTable

/-- The principal may at most read the Trip: it is neither its owner nor a tenant admin, and no
    editor (a viewer, or no member at all), or it belongs to another tenant. -/
def PlatformView.ReadOnly (V : PlatformView) (p : Principal) (tripId : String) : Prop :=
  ∃ t, V.trips tripId = some t ∧ (p.tenantId = t.tenantId →
    t.ownerId ≠ p.userId ∧ p.isTenantAdmin = false ∧
      ∀ m, V.members (tripId, p.userId) = some m → m.role ≠ .editor)

/-- The Trip with its members, Runs, their leases, events and Artifact versions is as before. -/
structure SameTrip (tripId : String) (V V' : PlatformView) : Prop where
  trip : V'.trips tripId = V.trips tripId
  members : ∀ userId, V'.members (tripId, userId) = V.members (tripId, userId)
  runs : ∀ id run events, run.tripId = tripId →
    (V'.runs id = some (run, events) ↔ V.runs id = some (run, events))
  leases : ∀ id run events, V.runs id = some (run, events) → run.tripId = tripId →
    V'.leases id = V.leases id
  artifacts : ∀ id v a, a.tripId = tripId → (V'.artifacts id v = some a ↔ V.artifacts id v = some a)

theorem SameTrip.refl (tripId : String) (V : PlatformView) : SameTrip tripId V V :=
  ⟨rfl, fun _ => rfl, fun _ _ _ _ => .rfl, fun _ _ _ _ _ => rfl, fun _ _ _ _ => .rfl⟩

/-- Every other Trip is as before. -/
def Confined (k : String) (V V' : PlatformView) : Prop := ∀ j, j ≠ k → SameTrip j V V'

/-- The caller of an operation. -/
def StoreOp.principal : StoreOp → Principal
  | .createTrip p .. | .listTrips p | .getTrip p .. | .patchTrip p .. | .setTripStatus p ..
  | .listTripMembers p .. | .upsertTripMember p .. | .removeTripMember p .. | .createRun p ..
  | .getRun p .. | .claimRunExecution p .. | .renewRunExecution p .. | .releaseRunExecution p ..
  | .mutateRun p .. | .resumeRun p .. | .listEvents p .. | .waitForEvents p .. | .createArtifact p ..
  | .listArtifacts p .. | .getArtifact p .. | .patchArtifact p .. | .commandArtifact p .. => p

/-! ## What stays of the other Trips -/

section
variable {V V' : PlatformView} {k : String}

/-- The parts of a confined change. -/
theorem Confined.of (ht : ∀ j, j ≠ k → V'.trips j = V.trips j)
    (hm : ∀ j userId, j ≠ k → V'.members (j, userId) = V.members (j, userId))
    (hr : ∀ id run events, run.tripId ≠ k →
      (V'.runs id = some (run, events) ↔ V.runs id = some (run, events)))
    (hl : ∀ id run events, V.runs id = some (run, events) → run.tripId ≠ k →
      V'.leases id = V.leases id)
    (ha : ∀ id v a, a.tripId ≠ k → (V'.artifacts id v = some a ↔ V.artifacts id v = some a)) :
    Confined k V V' := by
  intro j hj
  refine ⟨ht j hj, fun userId => hm j userId hj, fun id run events htrip => ?_,
    fun id run events hrun htrip => ?_, fun id v a htrip => ?_⟩
  · exact hr id run events (htrip.trans_ne hj)
  · exact hl id run events hrun (htrip.trans_ne hj)
  · exact ha id v a (htrip.trans_ne hj)

end

/-- New statuses of the versions of one Trip. -/
theorem restatus_other {A : ArtifactTable} {f : ArtifactView → ArtifactStatus} {k : String}
    (hf : ∀ id v a, A id v = some a → a.tripId ≠ k → f a = a.status) {id : String} {v : ℕ}
    {a : ArtifactView} (ha : a.tripId ≠ k) : restatus f A id v = some a ↔ A id v = some a := by
  rw [restatus_eq_some]
  constructor
  · rintro ⟨b, hb, rfl⟩
    rw [hf id v b hb ha]
    exact hb
  · intro h
    exact ⟨a, h, by rw [hf id v a h ha]⟩

/-- A new version of an Artifact of one Trip. -/
theorem newVersion_other {A A' : ArtifactTable} {b : ArtifactView}
    (hA : ∀ id v, A' id v = if id = b.artifactId ∧ v = b.version then some b else A id v)
    (hfresh : A b.artifactId b.version = none) {id : String} {v : ℕ} {a : ArtifactView}
    (ha : a.tripId ≠ b.tripId) : A' id v = some a ↔ A id v = some a := by
  rw [hA]
  split
  · next h =>
    rw [h.1, h.2, hfresh]
    refine iff_of_false (fun he => ha ?_) nofun
    rw [Option.some.inj he]
  · exact .rfl

/-- A Run of one Trip, created or moved. -/
theorem update_run_other {L : RunLog} {id : String} {run' : RunView} {events' : List RunEvent}
    (hold : ∀ run events, L id = some (run, events) → run.tripId = run'.tripId) {j : String}
    {run : RunView} {events : List RunEvent} (h : run.tripId ≠ run'.tripId) :
    Function.update L id (some (run', events')) j = some (run, events) ↔ L j = some (run, events) := by
  rw [Function.update_apply]
  split
  · next hj =>
    subst hj
    refine iff_of_false (fun he => h ?_) fun he => h (hold run events he)
    cases he
    rfl
  · exact .rfl

/-- The Runs of other Trips after a creation. -/
theorem LogChange.createRun_other {L L' : RunLog} {p : Principal} {c : RunCreation}
    {x : IdempotentRunResult} (h : LogChange L L' (.createRun p c) (.ok x)) {id : String}
    {run : RunView} {events : List RunEvent} (hk : run.tripId ≠ x.run.tripId) :
    L' id = some (run, events) ↔ L id = some (run, events) := by
  obtain ⟨-, rfl⟩ | ⟨-, hnone, -, e, rfl⟩ := h.createRun
  · exact .rfl
  · refine update_run_other (fun run₀ events₀ h₀ => ?_) hk
    rw [hnone] at h₀; cases h₀

/-- The Runs of other Trips after a transition. -/
theorem LogChange.mutateRun_other {L L' : RunLog} {p : Principal} {runId k : String}
    {m : RunMutation} {x : RunView × RunEvent} (h : LogChange L L' (.mutateRun p runId m) (.ok x))
    (htrip : ∀ run events, L runId = some (run, events) → run.tripId = k) {id : String}
    {run : RunView} {events : List RunEvent} (hk : run.tripId ≠ k) :
    L' id = some (run, events) ↔ L id = some (run, events) := by
  obtain ⟨run₀, events₀, e, hL, -, ⟨env, hx⟩, rfl⟩ := h.mutateRun
  have hx' : x.1.tripId = run₀.tripId := by rw [hx]; rfl
  refine update_run_other (fun run₁ events₁ h₁ => ?_) ?_
  · rw [hL] at h₁; cases h₁
    exact hx'.symm
  · rw [hx', htrip _ _ hL]
    exact hk

/-- The Runs of other Trips after a resumption. -/
theorem LogChange.resumeRun_other {L L' : RunLog} {p : Principal} {runId k : String}
    {r : RunResumption} {x : IdempotentRunResult} (h : LogChange L L' (.resumeRun p runId r) (.ok x))
    (htrip : ∀ run events, L runId = some (run, events) → run.tripId = k) {id : String}
    {run : RunView} {events : List RunEvent} (hk : run.tripId ≠ k) :
    L' id = some (run, events) ↔ L id = some (run, events) := by
  obtain ⟨-, rfl⟩ | ⟨-, run₀, events₀, e, hL, -, ⟨env, values, hx⟩, rfl⟩ := h.resumeRun
  · exact .rfl
  · have hx' : x.run.tripId = run₀.tripId := by rw [hx]; rfl
    refine update_run_other (fun run₁ events₁ h₁ => ?_) ?_
    · rw [hL] at h₁; cases h₁
      exact hx'.symm
    · rw [hx', htrip _ _ hL]
      exact hk

/-! ## Pointers -/

/-- Every pointer of a Trip targets one of its own versions. -/
def PointersOwn (T : TripTable) (A : ArtifactTable) : Prop :=
  ∀ k t id v, T k = some t → t.PointsTo id v → ∃ a, A id v = some a ∧ a.tripId = k

/-- No version vanishes or moves to another Trip. -/
theorem PointersOwn.mono {T : TripTable} {A A' : ArtifactTable} (h : PointersOwn T A)
    (hA : ∀ id v a, A id v = some a → ∃ a', A' id v = some a' ∧ a'.tripId = a.tripId) :
    PointersOwn T A' := by
  intro k t id v ht hp
  obtain ⟨a, ha, hk⟩ := h k t id v ht hp
  obtain ⟨a', ha', hk'⟩ := hA id v a ha
  exact ⟨a', ha', hk'.trans hk⟩

/-- A Trip with another pointer, to a version of its own. -/
theorem PointersOwn.update {T : TripTable} {A : ArtifactTable} (h : PointersOwn T A) {k : String}
    {t : TripView} (ht : ∀ id v, t.PointsTo id v → ∃ a, A id v = some a ∧ a.tripId = k) :
    PointersOwn (Function.update T k (some t)) A := by
  intro j u id v hu hp
  rw [Function.update_apply] at hu
  split at hu
  · next hj => cases hu; rw [hj]; exact ht id v hp
  · exact h j u id v hu hp

/-! ## Stores that guard their Trips -/

/-- The operation writes this Trip, its members, Runs, leases or Artifacts, if it writes. -/
def PlatformView.Targets (V : PlatformView) (tripId : String) : StoreOp → Prop
  | .patchTrip _ k _ | .setTripStatus _ k _ | .upsertTripMember _ k .. | .removeTripMember _ k _ =>
    k = tripId
  | .createRun _ c => c.tripId = tripId
  | .createArtifact _ c => c.tripId = tripId
  | .mutateRun _ runId _ | .resumeRun _ runId _ | .claimRunExecution _ runId .. =>
    ∀ run events, V.runs runId = some (run, events) → run.tripId = tripId
  | .renewRunExecution _ lease _ | .releaseRunExecution _ lease =>
    ∀ run events, V.runs lease.runId = some (run, events) → run.tripId = tripId
  | .patchArtifact _ id _ | .commandArtifact _ id .. =>
    ∀ v a, V.artifacts id v = some a → a.tripId = tripId
  | _ => False

/-- How a store guards its Trips: a call changes one Trip only, which its caller may write unless the
    call is `unchecked`; and a call that would write a Trip its caller may not write raises, unless
    it is `unchecked` or `answers` it without a write. -/
structure TripGuard {σ ε : Type} (B : Backend σ ε) where
  Ok : σ → Prop
  view : σ → PlatformView
  unchecked : ε → σ → String → StoreOp → Prop
  answers : ε → σ → StoreOp → Prop
  init : Ok B.init
  keep : ∀ env o s r s', Ok s → B.fresh env s → B.exec env o s r s' → Ok s'
  guarded : ∀ env o s r s', Ok s → B.fresh env s → B.exec env o s r s' →
    view s' = view s ∨ ∃ k, Confined k (view s) (view s') ∧
      (¬ (view s).ReadOnly o.principal k ∨ unchecked env s k o)
  refuses : ∀ env o s x s' tripId, Ok s → B.exec env o s (.ok x) s' → (view s).Targets tripId o →
    ¬ (view s).ReadOnly o.principal tripId ∨ unchecked env s tripId o ∨ answers env s o

/-- A Trip stays as it is under the calls of who may not write it. -/
theorem TripGuard.same {σ ε : Type} {B : Backend σ ε} (G : TripGuard B) {env : ε} {o : StoreOp}
    {s s' : σ} {r : Except StoreError o.Ans} {tripId : String} (hok : G.Ok s)
    (hfresh : B.fresh env s) (hx : B.exec env o s r s')
    (hread : (G.view s).ReadOnly o.principal tripId) (hc : ¬ G.unchecked env s tripId o) :
    SameTrip tripId (G.view s) (G.view s') := by
  obtain hv | ⟨k, hconf, hk⟩ := G.guarded env o s r s' hok hfresh hx
  · rw [hv]
    exact .refl _ _
  · refine hconf tripId ?_
    rintro rfl
    exact hk.elim (fun h => h hread) hc

end RoutePilot
