/-
  The in-memory platform store (`store.py`): its errors, its tables, and the
  access checks every operation starts with.

  The store is guarded by one `asyncio.Condition`, so an operation is a single
  atomic step: a computation of `StoreM`, which keeps the changes made before
  an exception.  What an operation reads from outside the store (`utc_now`,
  `new_public_id`, the contract registry) is its `Env`.
-/
import RoutePilot.Lib.Dict
import RoutePilot.Lib.EState
import RoutePilot.Model.RunInput

namespace RoutePilot

open Lib

/-! ## Errors -/

/-- The store errors of `store.py`, with the built-in exceptions its operations let through. -/
inductive StoreError where
  | resourceNotFound (message : String)
  | resourceForbidden (message : String)
  | versionConflict (currentVersion : ℕ)
  | idempotencyConflict (message : String)
  | artifactTransitionConflict (currentVersion : ℕ) (currentStatus : ArtifactStatus) (command : String)
  | artifactReadOnly (artifactType : String) (currentVersion : ℕ)
  | artifactContentInvalid (currentVersion : ℕ)
  | runExecutionBusy (message : String)
  | runExecutionLeaseLost (message : String)
  | runInputExpired (message : String)
  | runInputInvalid (message : String)
  | valueError (message : String)
  | overflowError
  | keyError (key : String)
  | integrityError (constraint : String)
  deriving DecidableEq, Repr

/-! ## The environment of an operation -/

/-- What one operation reads from outside the store: the clock, the token of the identifier it
    draws for each kind, and the contract registry (`validate_contract`, with the dump of the
    validated model). -/
structure Env where
  now : Time
  token : String → String
  validateContract : String → Obj → Option Obj := fun _ _ => none

/-- `new_public_id`: the kind, and a token made of the time and 80 random bits. -/
def Env.newPublicId (env : Env) (kind : String) : String := kind ++ "_" ++ env.token kind

/-- The contract names of `CONTRACT_MODELS`. -/
def contractModels : List String :=
  ["TravelQuestion@1", "TravelAnswer@1", "TripBrief@1", "EvidenceBundle@1", "CandidateSet@1",
    "ItineraryPlan@1", "ConstraintReport@1", "SemanticRiskReport@1", "ValidationReport@1",
    "TripSnapshot@1", "ShareSnapshot@1"]

/-! ## Tables -/

/-- The tables of `InMemoryPlatformStore`. -/
structure Store where
  trips : Dict String TripView := ∅
  runs : Dict String RunView := ∅
  events : Dict String (List RunEvent) := ∅
  artifacts : Dict String (List ArtifactView) := ∅
  /-- `(tenant, user, key)` to the request hash and the created Run -/
  idempotency : Dict (String × String × String) (String × String) := ∅
  /-- `(tenant, user, operation, key)` to the request hash and the resumed Run -/
  runControlIdempotency : Dict (String × String × String × String) (String × String) := ∅
  /-- `(tenant, user, artifact, key)` to the request hash and the response -/
  artifactIdempotency : Dict (String × String × String × String) (String × ArtifactView) := ∅
  members : Dict (String × String) TripMemberView := ∅
  executionLeases : Dict String RunExecutionLease := ∅
  executionAttempts : Dict String ℕ := ∅
  deriving Inhabited

/-- A store operation. -/
abbrev StoreM := EStateM StoreError Store

/-! ## Access -/

/-- `_trip_locked`: the Trip, if the principal may read (or write) it. -/
def tripLocked (p : Principal) (tripId : String) (write : Bool) (st : Store) :
    Except StoreError TripView :=
  match st.trips.get? tripId with
  | none => .error (.resourceNotFound "trip not found")
  | some trip =>
    if p.tenantId ≠ trip.tenantId then .error (.resourceNotFound "resource not found")
    else if trip.ownerId = p.userId ∨ p.isTenantAdmin then .ok trip
    else match st.members.get? (tripId, p.userId) with
      | none => .error (.resourceForbidden "trip access denied")
      | some member =>
        if write ∧ member.role ≠ .editor then .error (.resourceForbidden "trip access denied")
        else .ok trip

/-- `_run_locked`: the Run, if the principal may read its Trip. -/
def runLocked (p : Principal) (runId : String) (st : Store) : Except StoreError RunView :=
  match st.runs.get? runId with
  | none => .error (.resourceNotFound "run not found")
  | some run =>
    if p.tenantId ≠ run.tenantId then .error (.resourceNotFound "resource not found")
    else (tripLocked p run.tripId false st).map fun _ => run

/-- `_assert_execution_lease_locked`: the Run of a lease that is still valid. -/
def assertExecutionLeaseLocked (env : Env) (p : Principal) (lease : RunExecutionLease)
    (tripId : Option String) (st : Store) : Except StoreError RunView :=
  match runLocked p lease.runId st with
  | .error e => .error e
  | .ok run =>
    let lost := .error (.runExecutionLeaseLost "run execution lease is no longer valid")
    match st.executionLeases.get? lease.runId with
    | none => lost
    | some current =>
      if current.owner ≠ lease.owner ∨ current.attempt ≠ lease.attempt ∨
          current.leaseUntil ≤ env.now ∨ !run.lifecycleState.isExecutable ∨
          tripId.any (· ≠ run.tripId) then lost
      else .ok run

/-- The version with the greatest number: `max(versions, key=lambda item: item.version)`. -/
def latestVersion : List ArtifactView → Option ArtifactView
  | [] => none
  | a :: as => some (as.foldl (fun m b => if m.version < b.version then b else m) a)

/-- `next((item for item in versions if item.version == v), None)`. -/
def findVersion (versions : List ArtifactView) (v : ℕ) : Option ArtifactView :=
  versions.find? (·.version == v)

/-- `_artifact_locked`: a version of an Artifact (the latest by default), if the principal may
    read (or write) its Trip. -/
def artifactLocked (p : Principal) (artifactId : String) (version : Option ℕ) (write : Bool)
    (st : Store) : Except StoreError ArtifactView :=
  match latestVersion (st.artifacts.getD artifactId []) with
  | none => .error (.resourceNotFound "artifact not found")
  | some latest =>
    let resolved := match version with
      | none => some latest
      | some v => findVersion (st.artifacts.getD artifactId []) v
    match resolved with
    | none => .error (.resourceNotFound "artifact version not found")
    | some a =>
      if p.tenantId ≠ a.tenantId then .error (.resourceNotFound "resource not found")
      else (tripLocked p a.tripId write st).map fun _ => a

/-! ## What a passed check says -/

theorem tripLocked_ok {p : Principal} {t : String} {w : Bool} {st : Store} {trip : TripView}
    (h : tripLocked p t w st = .ok trip) :
    st.trips.get? t = some trip ∧ p.tenantId = trip.tenantId := by
  unfold tripLocked at h
  split at h
  · cases h
  · next trip' htrip =>
    split at h
    · cases h
    · next hten =>
      split at h
      · cases h; exact ⟨htrip, not_not.1 hten⟩
      · split at h
        · cases h
        · split at h
          · cases h
          · cases h; exact ⟨htrip, not_not.1 hten⟩

theorem runLocked_ok {p : Principal} {r : String} {st : Store} {run : RunView}
    (h : runLocked p r st = .ok run) :
    st.runs.get? r = some run ∧ p.tenantId = run.tenantId ∧
      ∃ trip, tripLocked p run.tripId false st = .ok trip := by
  unfold runLocked at h
  split at h
  · cases h
  · next run' hrun =>
    split at h
    · cases h
    · next hten =>
      cases ht : tripLocked p run'.tripId false st with
      | error e => rw [ht] at h; cases h
      | ok trip => rw [ht] at h; cases h; exact ⟨hrun, not_not.1 hten, trip, ht⟩

theorem assertExecutionLeaseLocked_ok {env : Env} {p : Principal} {lease : RunExecutionLease}
    {t : Option String} {st : Store} {run : RunView}
    (h : assertExecutionLeaseLocked env p lease t st = .ok run) :
    runLocked p lease.runId st = .ok run ∧ run.lifecycleState.isExecutable ∧
      (∀ t' ∈ t, t' = run.tripId) ∧
      ∃ current, st.executionLeases.get? lease.runId = some current ∧
        current.owner = lease.owner ∧ current.attempt = lease.attempt ∧
        env.now < current.leaseUntil := by
  unfold assertExecutionLeaseLocked at h
  split at h
  · cases h
  · next run' hrun =>
    split at h
    · cases h
    · next current hc =>
      split at h
      · cases h
      · next hno =>
        cases h
        simp only [not_or, not_not, ne_eq, not_le, Bool.not_eq_true', Bool.not_eq_false,
          Option.any_eq_true_iff_get] at hno
        obtain ⟨h1, h2, h3, h4, h5⟩ := hno
        refine ⟨hrun, h4, fun t' ht' => ?_, current, hc, h1, h2, h3⟩
        cases ht'
        simpa using h5

end RoutePilot
