/-
  Who changes a Trip in the in-memory store.

  Every operation that writes checks the write access to the Trip it writes,
  except `mutate_run`, `resume_run` and the operations on a lease, which only
  check that the caller may read the Run (`UncheckedWrite`).
-/
import RoutePilot.Proof.Atomicity
import RoutePilot.Proof.Lease
import RoutePilot.Spec.Readers

namespace RoutePilot

open Lib

/-- What the in-memory store holds of its Trips. -/
def Store.view (st : Store) : PlatformView where
  trips := st.tripTable
  members := st.members.get?
  runs := st.log
  leases := st.leaseTable
  artifacts := st.artifactTable

/-- The Run may be claimed: it is executable, and no lease of it is unexpired. -/
def Claimable (env : Env) (run : RunView) (runId : String) (st : Store) : Prop :=
  run.lifecycleState.isExecutable = true ∧
    (st.executionLeases.get? runId).any (env.now < ·.leaseUntil) = false

/-- The lease is stored, of this owner and attempt. -/
def LeaseStored (lease : RunExecutionLease) (st : Store) : Prop :=
  ∃ c, st.executionLeases.get? lease.runId = some c ∧ c.owner = lease.owner ∧ c.attempt = lease.attempt

/-- A transition of a Run of this Trip that passes its checks, with a result (if any) of the Trip, the
    first resumption of such a Run under its key, or a claim, a renewal or a release of its lease
    that passes its checks. -/
def UncheckedWrite (env : Env) (st : Store) (tripId : String) : StoreOp → Prop
  | .mutateRun p runId m => ∃ run, runLocked p runId st = .ok run ∧ run.tripId = tripId ∧
      checkFence env p runId m st = .ok () ∧ run.controlVersion = m.expectedControlVersion ∧
      ∀ a ∈ m.resultArtifact, ∃ stored, storedResult a run.tripId st = .ok stored
  | .resumeRun p runId r => ∃ run, runLocked p runId st = .ok run ∧ run.tripId = tripId ∧
      st.runControlIdempotency.get? (p.tenantId, p.userId, "run.resume", r.idempotencyKey) = none ∧
      run.controlVersion = r.expectedControlVersion ∧ ∃ values, checkResumption env r run = .ok values
  | .claimRunExecution p runId owner duration => ∃ run, runLocked p runId st = .ok run ∧
      run.tripId = tripId ∧ validateExecutionLeaseRequest owner duration = .ok () ∧
      Claimable env run runId st
  | .renewRunExecution p lease duration => ∃ run, run.tripId = tripId ∧
      validateExecutionLeaseRequest lease.owner duration = .ok () ∧
      assertExecutionLeaseLocked env p lease none st = .ok run
  | .releaseRunExecution p lease => ∃ run, runLocked p lease.runId st = .ok run ∧
      run.tripId = tripId ∧ LeaseStored lease st
  | _ => False

/-- Who passes the write check is no reader. -/
theorem tripLocked_write {p : Principal} {k : String} {st : Store} {trip : TripView}
    (h : tripLocked p k true st = .ok trip) : ¬ st.view.ReadOnly p k := by
  rintro ⟨t, ht, hread⟩
  obtain ⟨hget, hten⟩ := tripLocked_ok h
  have htrip : st.trips.get? k = some t := ht
  rw [hget] at htrip; cases htrip
  obtain ⟨howner, hadmin, hmember⟩ := hread hten
  unfold tripLocked at h
  rw [hget] at h
  simp only [hten, ne_eq, not_true_eq_false, if_false, howner, hadmin, Bool.false_eq_true,
    or_self] at h
  split at h
  · cases h
  · next member hm =>
    split at h
    · cases h
    · next hrole => exact hrole ⟨trivial, hmember member hm⟩

/-! ## The keys of the Trips -/

/-- Every Trip is stored under its own key. -/
def Store.TripsKeyed (st : Store) : Prop := ∀ k t, st.trips.get? k = some t → t.tripId = k

theorem Store.TripsKeyed.congr {st st' : Store} (h : st.TripsKeyed) (ht : st'.trips = st.trips) :
    st'.TripsKeyed := by
  unfold TripsKeyed
  rw [ht]
  exact h

theorem Store.TripsKeyed.set {st st' : Store} (h : st.TripsKeyed) {k : String} {t : TripView}
    (hst : st'.trips = st.trips.set k t) (ht : t.tripId = k) : st'.TripsKeyed := by
  intro k' t' hget
  rw [hst, Dict.get?_set] at hget
  split at hget
  · next hk => cases hget; rw [hk]; exact ht
  · exact h k' t' hget

theorem publishResult_tripsKeyed {env : Env} {p : Principal} {run : RunView} {result : ArtifactView}
    {st : Store} (h : st.TripsKeyed) :
    (final ((publishResult env p run result).run st)).TripsKeyed := by
  cases hx : (publishResult env p run result).run st with
  | ok u st' =>
    obtain ⟨stored, -, ⟨-, rfl⟩ | ⟨-, trip, hwrite, htrips, -⟩⟩ := publishResult_ok hx
    · exact h.congr rfl
    · have hkey := h _ _ (tripLocked_ok hwrite).1
      exact h.set htrips hkey
  | error e st' =>
    obtain rfl | ⟨stored, -, -, -, rfl⟩ := publishResult_error hx
    · exact h
    · exact h.congr rfl

theorem mutateRun_tripsKeyed {env : Env} {p : Principal} {runId : String} {m : RunMutation}
    {st : Store} (h : st.TripsKeyed) : (final ((mutateRun env p runId m).run st)).TripsKeyed := by
  have hpub : ∀ run, (final ((m.resultArtifact.forM
      (publishResult env p run) : StoreM Unit).run st)).TripsKeyed := by
    intro run
    cases m.resultArtifact with
    | none => exact h
    | some a => exact publishResult_tripsKeyed h
  cases hx : (mutateRun env p runId m).run st with
  | ok x st' =>
    obtain ⟨run, st₁, hm, -⟩ := mutateRun_ok hx
    have h₁ := hpub run
    rw [hm.publish] at h₁
    exact h₁.congr (by rw [final_ok, hm.final]; rfl)
  | error e st' =>
    obtain rfl | ⟨run, -, -, -, hp⟩ := mutateRun_error hx
    · exact h
    · have h₁ := hpub run
      rwa [hp] at h₁

theorem Commanded.tripsKeyed {env : Env} {artifactId : String} {current : ArtifactView}
    {trip : TripView} {command : ArtifactCommand} {st st' : Store} (h : st.TripsKeyed)
    (hc : Commanded env artifactId current trip st st' command) : st'.TripsKeyed := by
  cases hc with
  | select _ htrips _ => exact h.congr htrips
  | publish _ htrips _ => exact h.set htrips rfl
  | revoke _ htrips _ =>
    split at htrips
    · exact h.set htrips rfl
    · exact h.congr htrips

theorem StoreCall.tripsKeyed {c : StoreCall} {st : Store} (h : st.TripsKeyed) :
    (c.next st).TripsKeyed := by
  obtain ⟨env, o⟩ := c
  by_cases hw : o.WritesArtifacts
  · obtain ⟨x, st', hx, hn⟩ | ⟨e, st', hx, hn⟩ := next_cases env o st
    · cases o with
      | mutateRun p runId m => exact mutateRun_tripsKeyed h
      | createTrip p request => exact h.set rfl rfl
      | patchTrip p tripId request =>
        obtain ⟨t, ht, rfl⟩ := patchTrip_ok hx
        have hkey := h _ _ (tripLocked_ok ht).1
        rw [hn]
        exact h.set rfl hkey
      | setTripStatus p tripId status =>
        obtain ⟨t, ht, rfl⟩ := setTripStatus_ok hx
        have hkey := h _ _ (tripLocked_ok ht).1
        rw [hn]
        exact h.set rfl hkey
      | createArtifact p a =>
        obtain ⟨-, -, -, -, rfl⟩ := createArtifact_ok hx
        rw [hn]
        exact h.congr rfl
      | patchArtifact p artifactId request =>
        obtain ⟨_, _, -, rfl⟩ := patchArtifact_ok hx
        rw [hn]
        exact h.congr rfl
      | commandArtifact p artifactId request key requestHash =>
        rw [hn]
        obtain ⟨rfl, -⟩ | ⟨current, trip, -, -, hc⟩ := commandArtifact_ok hx
        · exact h
        · exact hc.tripsKeyed h
      | _ => exact absurd hw id
    · cases o with
      | mutateRun p runId m => exact mutateRun_tripsKeyed h
      | createTrip p request => cases hx
      | patchTrip p tripId request => rw [hn, patchTrip_error hx]; exact h
      | setTripStatus p tripId status => rw [hn, setTripStatus_error hx]; exact h
      | createArtifact p a => rw [hn, createArtifact_error hx]; exact h
      | patchArtifact p artifactId request => rw [hn, patchArtifact_error hx]; exact h
      | commandArtifact p artifactId request key requestHash =>
        rw [hn, commandArtifact_error hx]; exact h
      | _ => exact absurd hw id
  · exact h.congr (congrArg Prod.fst (o.keeps_artifactPart env hw st))

/-- What the reachable states satisfy. -/
structure Store.Accessible (st : Store) : Prop where
  log : LogOk st.log
  tidy : st.Tidy
  tripsKeyed : st.TripsKeyed

/-- **Step lemma.** -/
theorem Store.Accessible.exec {env : Env} {o : StoreOp} {st st' : Store}
    {r : Except StoreError o.Ans} (h : st.Accessible) (hfresh : memoryBackend.fresh env st)
    (hx : memoryBackend.exec env o st r st') : st'.Accessible := by
  refine ⟨memoryRuns.keep env o st r st' h.log hfresh hx, ?_, ?_⟩
  · rw [memoryBackend_step hx]
    exact StoreCall.tidy h.tidy
  · rw [memoryBackend_step hx]
    exact StoreCall.tripsKeyed h.tripsKeyed

/-! ## What stays of the other Trips -/

/-- The view of a store that differs in one Trip, and in the versions and Runs of it. -/
theorem Store.confined {st st' : Store} {k : String}
    (ht : st'.trips = st.trips ∨ ∃ t, st'.trips = st.trips.set k t)
    (hm : ∀ j userId, j ≠ k → st'.members.get? (j, userId) = st.members.get? (j, userId))
    (hr : ∀ id run events, run.tripId ≠ k →
      (st'.log id = some (run, events) ↔ st.log id = some (run, events)))
    (hl : ∀ id run events, st.log id = some (run, events) → run.tripId ≠ k →
      st'.leaseTable id = st.leaseTable id)
    (ha : ∀ id v a, a.tripId ≠ k → (st'.artifactTable id v = some a ↔ st.artifactTable id v = some a)) :
    Confined k st.view st'.view := by
  refine .of (fun j hj => ?_) hm hr hl ha
  show st'.trips.get? j = st.trips.get? j
  obtain ht | ⟨t, ht⟩ := ht
  · rw [ht]
  · rw [ht, Dict.get?_set_ne _ hj]

theorem statusAt_other {st : Store} (hok : st.ArtifactsOk) {id : String} {stored : ArtifactView}
    {s : ArtifactStatus} (hmem : stored ∈ st.artifacts.getD id []) {i : String} {v : ℕ}
    {a : ArtifactView} (ha : st.artifactTable i v = some a) (hk : a.tripId ≠ stored.tripId) :
    statusAt id stored.version s a = a.status := by
  rw [statusAt, if_neg]
  rintro ⟨h₁, h₂⟩
  obtain ⟨hm, -⟩ := (findVersion_eq_some (hok i)).1 ha
  obtain rfl : i = id := ((hok i).key a hm).symm.trans h₁
  have h₃ := (findVersion_eq_some (hok i)).2 ⟨hm, h₂⟩
  rw [(findVersion_eq_some (hok i)).2 ⟨hmem, rfl⟩] at h₃
  exact hk (congrArg ArtifactView.tripId (Option.some.inj h₃).symm)

/-- The versions of other Trips, when one version gets a status. -/
theorem withStatus_other {st st' : Store} (hok : st.ArtifactsOk) {id : String}
    {stored : ArtifactView} {s : ArtifactStatus} (hmem : stored ∈ st.artifacts.getD id [])
    (hst : st'.artifacts = (withStatus id stored s st).artifacts) {i : String} {v : ℕ}
    {a : ArtifactView} (hk : a.tripId ≠ stored.tripId) :
    st'.artifactTable i v = some a ↔ st.artifactTable i v = some a := by
  rw [((restatused_replaceVersion hok hmem).congr hst).table]
  exact restatus_other (fun i v a ha hk => statusAt_other hok hmem ha hk) hk

/-- The versions of other Trips, when one version is published and others are superseded. -/
theorem withSuperseded_other {st st' : Store} (hok : st.ArtifactsOk) {id : String}
    {stored : ArtifactView} (hmem : stored ∈ st.artifacts.getD id []) {q : ArtifactView → Bool}
    (hq : ∀ b, b.tripId ≠ stored.tripId → q b = false)
    (hst : st'.artifacts = (withSuperseded q (withStatus id stored .published st)).artifacts)
    {i : String} {v : ℕ} {a : ArtifactView} (hk : a.tripId ≠ stored.tripId) :
    st'.artifactTable i v = some a ↔ st.artifactTable i v = some a := by
  have hr := restatused_replaceVersion hok (s := .published) hmem
  rw [((hr.trans (restatused_supersede hr.ok q)).congr hst).table]
  refine restatus_other (fun i v a ha hk => ?_) hk
  rw [supersededBy, if_neg]
  · exact statusAt_other hok hmem ha hk
  · rintro ⟨-, h⟩
    exact absurd h (by rw [hq]; exacts [Bool.false_ne_true, hk])

theorem otherSnapshots_other {tripId : String} {stored b : ArtifactView} (h : b.tripId ≠ tripId) :
    otherSnapshots tripId stored b = false := by
  simp [otherSnapshots, h]

theorem otherVersions_other {current b : ArtifactView} (h : b.tripId ≠ current.tripId) :
    otherVersions current b = false := by
  simp [otherVersions, h]

/-- The publication of a Run's result writes the Trip of the Run only. -/
theorem publishResult_other (env : Env) (p : Principal) (run : RunView) (result : ArtifactView)
    {st : Store} (hok : st.ArtifactsOk) :
    ((final ((publishResult env p run result).run st)).trips = st.trips ∨
        ∃ t, (final ((publishResult env p run result).run st)).trips = st.trips.set run.tripId t) ∧
      ∀ id v a, a.tripId ≠ run.tripId →
        ((final ((publishResult env p run result).run st)).artifactTable id v = some a ↔
          st.artifactTable id v = some a) := by
  cases hx : (publishResult env p run result).run st with
  | ok u st' =>
    obtain ⟨stored, hstored, h⟩ := publishResult_ok hx
    obtain ⟨hmem, -⟩ := storedResult_mem hok hstored
    have htrip := (storedResult_ok hstored).2
    obtain ⟨-, rfl⟩ | ⟨-, trip, -, htrips, harts⟩ := h
    · exact ⟨.inl rfl, fun id v a hk => withStatus_other hok hmem rfl (htrip ▸ hk)⟩
    · refine ⟨.inr ⟨_, htrips⟩, fun id v a hk => withSuperseded_other hok hmem ?_ harts (htrip ▸ hk)⟩
      intro b hb
      exact otherSnapshots_other (htrip ▸ hb)
  | error e st' =>
    obtain rfl | ⟨stored, hstored, -, -, rfl⟩ := publishResult_error hx
    · exact ⟨.inl rfl, fun _ _ _ _ => .rfl⟩
    · obtain ⟨hmem, -⟩ := storedResult_mem hok hstored
      have htrip := (storedResult_ok hstored).2
      refine ⟨.inl rfl, fun id v a hk => withSuperseded_other hok hmem ?_ rfl (htrip ▸ hk)⟩
      intro b hb
      exact otherSnapshots_other (htrip ▸ hb)

/-- What a command writes, in the Trip of its Artifact. -/
theorem Commanded.other {env : Env} {artifactId : String} {current : ArtifactView} {trip : TripView}
    {command : ArtifactCommand} {st st' : Store} (hok : st.ArtifactsOk)
    (hmem : current ∈ st.artifacts.getD artifactId []) (hkey : trip.tripId = current.tripId)
    (hc : Commanded env artifactId current trip st st' command) :
    (st'.trips = st.trips ∨ ∃ t, st'.trips = st.trips.set current.tripId t) ∧
      ∀ id v a, a.tripId ≠ current.tripId →
        (st'.artifactTable id v = some a ↔ st.artifactTable id v = some a) := by
  cases hc with
  | select _ htrips h => exact ⟨.inl htrips, fun id v a hk => withStatus_other hok hmem h hk⟩
  | publish _ htrips h =>
    rw [hkey] at htrips
    exact ⟨.inr ⟨_, htrips⟩, fun id v a hk =>
      withSuperseded_other hok hmem (fun b hb => otherVersions_other hb) h hk⟩
  | revoke _ htrips h =>
    refine ⟨?_, fun id v a hk => withStatus_other hok hmem h hk⟩
    rw [hkey] at htrips
    split at htrips
    · exact .inr ⟨_, htrips⟩
    · exact .inl htrips

/-! ## Members -/

theorem upsertTripMember_ok {env : Env} {p : Principal} {tripId userId : String} {role : GrantedRole}
    {st st' : Store} {x : TripMemberView}
    (h : (upsertTripMember env p tripId userId role).run st = .ok x st') :
    ∃ trip, tripLocked p tripId true st = .ok trip ∧
      (∀ j u, j ≠ tripId → st'.members.get? (j, u) = st.members.get? (j, u)) ∧
      st' = { st with members := st'.members } := by
  simp only [upsertTripMember, ensureManagesMembers, bind_ok, ask_ok, ensure_ok, EStateM.run_get,
    EStateM.run_modify, EStateM.run_pure, EStateM.Result.ok.injEq, existsAndEq, true_and, exists_const,
    and_assoc] at h
  obtain ⟨-, -, trip, hwrite, -, -, -, rfl⟩ := h
  refine ⟨trip, hwrite, fun j u hj => ?_, rfl⟩
  exact Dict.get?_set_ne _ (fun he => hj (congrArg Prod.fst he)) _

theorem removeTripMember_ok {p : Principal} {tripId userId : String} {st st' : Store} {x : Unit}
    (h : (removeTripMember p tripId userId).run st = .ok x st') :
    ∃ trip, tripLocked p tripId true st = .ok trip ∧
      (∀ j u, j ≠ tripId → st'.members.get? (j, u) = st.members.get? (j, u)) ∧
      st' = { st with members := st'.members } := by
  simp only [removeTripMember, ensureManagesMembers, bind_ok, ask_ok, ensure_ok, EStateM.run_get,
    EStateM.run_modify, EStateM.Result.ok.injEq, existsAndEq, true_and, exists_const, and_assoc] at h
  obtain ⟨trip, hwrite, -, -, -, rfl⟩ := h
  refine ⟨trip, hwrite, fun j u hj => ?_, rfl⟩
  exact Dict.get?_pop_ne _ fun he => hj (congrArg Prod.fst he)

theorem commandArtifact_members {env : Env} {p : Principal} {artifactId : String}
    {request : ArtifactCommandRequest} {key requestHash : String} {st st' : Store}
    {x : IdempotentArtifactResult}
    (h : (commandArtifact env p artifactId request key requestHash).run st = .ok x st') :
    st'.members = st.members := by
  have hk : Keeps Store.members (commandArtifact env p artifactId request key requestHash) := by
    refine .bind (.ask _) fun current => .bind (.ask _) fun _ => .bind .get fun st => ?_
    split
    · exact .bind (.ensure _ _) fun _ => .pure _
    · exact .bind (.ensure _ _) fun _ => .bind (.ensure _ _) fun _ =>
        .bind (.modify fun _ => rfl) fun _ =>
        .bind (applyTarget_keeps (fun _ _ _ => rfl) _ _ _ _) fun _ =>
        .bind (.modify fun _ => rfl) fun _ => .pure _
  have := hk st
  rwa [h] at this

/-! ## Every call -/

/-- The operations that write Trips, members, Runs, leases, events or Artifacts. -/
def StoreOp.WritesTrips : StoreOp → Prop
  | .createTrip .. | .patchTrip .. | .setTripStatus .. | .upsertTripMember .. | .removeTripMember ..
  | .createRun .. | .claimRunExecution .. | .renewRunExecution .. | .releaseRunExecution ..
  | .mutateRun .. | .resumeRun .. | .createArtifact .. | .patchArtifact .. | .commandArtifact .. => True
  | _ => False

theorem StoreOp.keeps_view (env : Env) (o : StoreOp) (h : ¬ o.WritesTrips) :
    Keeps Store.view (o.run env) := by
  cases o with
  | listTrips => exact .bind .get fun _ => .pure _
  | getTrip | getRun | getArtifact => exact .ask _
  | listTripMembers | listEvents | waitForEvents | listArtifacts =>
    exact .bind (.ask _) fun _ => .bind .get fun _ => .pure _
  | _ => exact absurd trivial h

/-- The call leaves the view alone, or changes one Trip that the caller may write, or makes an
    unchecked write. -/
def Store.Guarded (env : Env) (o : StoreOp) (st st' : Store) : Prop :=
  st'.view = st.view ∨ ∃ k, Confined k st.view st'.view ∧
    (¬ st.view.ReadOnly o.principal k ∨ UncheckedWrite env st k o)

/-- A transition that raises changes statuses of its Run's Trip only. -/
theorem mutateRun_error_guarded {env : Env} {p : Principal} {runId : String} {m : RunMutation}
    {st st' : Store} {e : StoreError} (hok : st.ArtifactsOk)
    (h : (mutateRun env p runId m).run st = .error e st') :
    Store.Guarded env (.mutateRun p runId m) st st' := by
  have hpart := mutateRun_error_runPart h
  have hlog : st'.log = st.log := Store.log_congr (congrArg Prod.fst hpart)
  obtain rfl | ⟨run, hread, hfence, hversion, hp⟩ := mutateRun_error h
  · exact .inl rfl
  · cases hr : m.resultArtifact with
    | none => rw [hr] at hp; cases hp
    | some a =>
      rw [hr] at hp
      have hp' : (publishResult env p run a).run st = .error e st' := hp
      have hmembers := publishResult_keeps (f := Store.members) (fun _ _ _ => rfl) env p run a st
      obtain ⟨htrips, harts⟩ := publishResult_other env p run a hok
      rw [hp'] at htrips harts hmembers
      obtain rfl | ⟨stored, hstored, -⟩ := publishResult_error hp'
      · exact .inl rfl
      · refine .inr ⟨run.tripId, Store.confined htrips (fun j u _ => ?_) (fun id run events _ => ?_)
          (fun id _ _ _ _ => ?_) harts, .inr ⟨run, hread, rfl, hfence, hversion, ?_⟩⟩
        · rw [show st'.members = st.members from hmembers]
        · rw [hlog]
        · rw [Store.leaseTable_eq hpart]
        · intro b hb
          rw [hr] at hb; cases hb
          exact ⟨stored, hstored⟩

/-- The Run a read check returns, as an entry of the log. -/
theorem runLocked_log {p : Principal} {runId : String} {st : Store} {run : RunView}
    (h : runLocked p runId st = .ok run) (run' : RunView) (events : List RunEvent)
    (hL : st.log runId = some (run', events)) : run'.tripId = run.tripId := by
  obtain ⟨hget, -⟩ := Store.log_eq_some.1 hL
  rw [(runLocked_ok h).1] at hget
  cases hget
  rfl

/-- The leases of the Runs of other Trips, when only those of one Run may change. -/
theorem leases_of_read {p : Principal} {runId : String} {st st' : Store} {run : RunView}
    (h : runLocked p runId st = .ok run)
    (hother : ∀ id, some runId ≠ some id → st'.leaseTable id = st.leaseTable id) (id : String)
    (run' : RunView) (events : List RunEvent) (hL : st.log id = some (run', events))
    (hk : run'.tripId ≠ run.tripId) : st'.leaseTable id = st.leaseTable id := by
  refine hother id fun hid => hk ?_
  obtain rfl : runId = id := Option.some.inj hid
  exact runLocked_log h run' events hL

/-- A lease operation changes the lease of one Run. -/
theorem lease_confined {p : Principal} {runId : String} {st st' : Store} {run : RunView}
    (h : runLocked p runId st = .ok run)
    (hother : ∀ id, some runId ≠ some id → st'.leaseTable id = st.leaseTable id)
    (hst : ∃ attempts leases, st' = { st with executionAttempts := attempts, executionLeases := leases }) :
    Confined run.tripId st.view st'.view := by
  have hleases := leases_of_read h hother
  obtain ⟨attempts, leases, rfl⟩ := hst
  exact Store.confined (.inl rfl) (fun _ _ _ => rfl) (fun _ _ _ _ => .rfl) hleases fun _ _ _ _ => .rfl

/-- What a claim that returns has checked. -/
theorem claimRunExecution_read {env : Env} {p : Principal} {runId owner : String} {duration : ℕ}
    {st st' : Store} {x : Option RunExecutionLease}
    (h : (claimRunExecution env p runId owner duration).run st = .ok x st') :
    ∃ run, runLocked p runId st = .ok run ∧ validateExecutionLeaseRequest owner duration = .ok () ∧
      (x = none ∨ Claimable env run runId st) := by
  simp only [claimRunExecution, bind_ok, ask_ok, EStateM.run_get, EStateM.Result.ok.injEq,
    existsAndEq, true_and, and_assoc] at h
  obtain ⟨_, hvalid, run, hread, h⟩ := h
  refine ⟨run, hread, hvalid, ?_⟩
  split at h
  · cases h
    exact .inl rfl
  · next hfree =>
    simp only [not_or, Bool.not_eq_true, Bool.not_eq_false'] at hfree
    exact .inr hfree

/-- What a renewal that returns has checked. -/
theorem renewRunExecution_read {env : Env} {p : Principal} {lease : RunExecutionLease} {duration : ℕ}
    {st st' : Store} {x : Option RunExecutionLease}
    (h : (renewRunExecution env p lease duration).run st = .ok x st') :
    validateExecutionLeaseRequest lease.owner duration = .ok () ∧
      ((x = none ∧ ∃ message, assertExecutionLeaseLocked env p lease none st =
          .error (.runExecutionLeaseLost message)) ∨
        ∃ run, assertExecutionLeaseLocked env p lease none st = .ok run) := by
  simp only [renewRunExecution, bind_ok, ask_ok, EStateM.run_get, EStateM.Result.ok.injEq,
    existsAndEq, true_and, and_assoc] at h
  obtain ⟨_, hvalid, h⟩ := h
  refine ⟨hvalid, ?_⟩
  split at h
  · next message hlost =>
    cases h
    exact .inl ⟨rfl, message, hlost⟩
  · cases h
  · next run hassert => exact .inr ⟨run, hassert⟩

/-- What a release that returns has checked. -/
theorem releaseRunExecution_read {p : Principal} {lease : RunExecutionLease} {st st' : Store}
    {x : Bool} (h : (releaseRunExecution p lease).run st = .ok x st') :
    ∃ run, runLocked p lease.runId st = .ok run ∧ (x = false ∨ LeaseStored lease st) := by
  simp only [releaseRunExecution, bind_ok, ask_ok, EStateM.run_get, EStateM.Result.ok.injEq,
    existsAndEq, true_and, and_assoc] at h
  obtain ⟨run, hread, h⟩ := h
  refine ⟨run, hread, ?_⟩
  split at h
  · next hany =>
    obtain ⟨c, hc, hm⟩ := (Option.any_eq_true _ _).1 hany
    simp only [decide_eq_true_eq, Bool.decide_and, Bool.and_eq_true] at hm
    exact .inr ⟨c, hc, hm.1, hm.2⟩
  · cases h
    exact .inl rfl

/-- A transition changes the Trip of its Run only. -/
theorem mutateRun_guarded {env : Env} {p : Principal} {runId : String} {m : RunMutation}
    {st st' : Store} {x : RunView × RunEvent} (hok : st.Accessible)
    (hchange : LogChange st.log st'.log (.mutateRun p runId m) (.ok x))
    (hother : ∀ id, some runId ≠ some id → st'.leaseTable id = st.leaseTable id)
    (h : (mutateRun env p runId m).run st = .ok x st') :
    Store.Guarded env (.mutateRun p runId m) st st' := by
  obtain ⟨run, st₁, hm, -⟩ := mutateRun_ok h
  have hruns : ∀ id run' events, run'.tripId ≠ run.tripId →
      (st'.log id = some (run', events) ↔ st.log id = some (run', events)) := fun id run' events hk =>
    hchange.mutateRun_other (runLocked_log hm.read) hk
  have hleases := leases_of_read hm.read hother
  have hmembers : st'.members = st.members := by
    have hk := publish_keeps (f := Store.members) (fun _ _ _ => rfl) env p run m.resultArtifact st
    rw [hm.publish] at hk
    rw [hm.final]
    exact hk
  have htables : st'.trips = st₁.trips ∧ st'.artifactTable = st₁.artifactTable := by
    rw [hm.final]
    exact ⟨rfl, rfl⟩
  have hp := hm.publish
  cases hr : m.resultArtifact with
  | none =>
    rw [hr] at hp
    cases hp
    refine .inr ⟨run.tripId, Store.confined (.inl htables.1) (fun _ _ _ => by rw [hmembers]) hruns
      hleases (fun id v a _ => by rw [htables.2]), .inr ⟨run, hm.read, rfl, hm.fence, hm.version, ?_⟩⟩
    rw [hr]
    exact nofun
  | some a =>
    rw [hr] at hp
    have hp' : (publishResult env p run a).run st = .ok () st₁ := hp
    obtain ⟨htrips, harts⟩ := publishResult_other env p run a hok.tidy.versions
    rw [hp', final_ok] at htrips harts
    obtain ⟨stored, hstored, -⟩ := publishResult_ok hp'
    refine .inr ⟨run.tripId, Store.confined (htables.1 ▸ htrips) (fun _ _ _ => by rw [hmembers]) hruns
      hleases (fun id v b hk => by rw [htables.2]; exact harts id v b hk),
      .inr ⟨run, hm.read, rfl, hm.fence, hm.version, fun b hb => ?_⟩⟩
    rw [hr] at hb; cases hb
    exact ⟨stored, hstored⟩

/-- **Step lemma.**  What a call changes, and who may call it. -/
theorem memory_guarded {env : Env} {o : StoreOp} {st st' : Store} {r : Except StoreError o.Ans}
    (hok : st.Accessible) (hfresh : memoryBackend.fresh env st)
    (hx : memoryBackend.exec env o st r st') : Store.Guarded env o st st' := by
  have hchange := memoryRuns.change env o st r st' hok.log hfresh hx
  by_cases hw : o.WritesTrips
  · cases r with
    | error e =>
      have h := memoryBackend_exec_error hx
      by_cases hm : ∃ p runId m, o = .mutateRun p runId m
      · obtain ⟨p, runId, m, rfl⟩ := hm
        exact mutateRun_error_guarded hok.tidy.versions h
      · refine .inl (congrArg Store.view (StoreCall.error_keeps (c := ⟨env, o⟩) hok.tidy ?_ h))
        rintro ⟨p, runId, m, -, -, -, -, ho, -⟩
        exact hm ⟨p, runId, m, ho⟩
    | ok x =>
      have h := memoryBackend_exec_ok hx
      have hlog : o.writesLog = false → st'.log = st.log := hchange.log_eq
      have hother : ∀ id, o.leasedRun ≠ some id → st'.leaseTable id = st.leaseTable id :=
        fun id hid => memoryBackend_leases_other hx hid
      have hleases : ∀ {k}, o.leasedRun = none → ∀ id run events, st.log id = some (run, events) →
          run.tripId ≠ k → st'.leaseTable id = st.leaseTable id := fun hnone id _ _ _ _ =>
        hother id (hnone ▸ (Option.some_ne_none id).symm)
      cases o with
      | mutateRun p runId m => exact mutateRun_guarded hok hchange hother h
      | claimRunExecution p runId owner duration =>
        obtain ⟨run, hread, hvalid, hclaim⟩ := claimRunExecution_read h
        obtain ⟨-, rfl⟩ | ⟨l, rfl, -, -, -, hst⟩ := claimRunExecution_ok h
        · exact .inl rfl
        · exact .inr ⟨run.tripId, lease_confined hread hother ⟨_, _, hst⟩,
            .inr ⟨run, hread, rfl, hvalid, hclaim.resolve_left (Option.some_ne_none l)⟩⟩
      | renewRunExecution p lease duration =>
        obtain ⟨hvalid, hcheck⟩ := renewRunExecution_read h
        obtain ⟨-, rfl⟩ | ⟨c, l, rfl, -, -, -, -, hst⟩ := renewRunExecution_ok h
        · exact .inl rfl
        · obtain ⟨hnone, -⟩ | ⟨run, hassert⟩ := hcheck
          · cases hnone
          have hread := (assertExecutionLeaseLocked_ok hassert).1
          exact .inr ⟨run.tripId, lease_confined hread hother ⟨_, _, hst⟩,
            .inr ⟨run, rfl, hvalid, hassert⟩⟩
      | releaseRunExecution p lease =>
        obtain ⟨run, hread, hstored⟩ := releaseRunExecution_read h
        obtain ⟨-, rfl⟩ | ⟨c, rfl, -, -, hst⟩ := releaseRunExecution_ok h
        · exact .inl rfl
        · exact .inr ⟨run.tripId, lease_confined hread hother ⟨_, _, hst⟩,
            .inr ⟨run, hread, rfl, hstored.resolve_left nofun⟩⟩
      | createTrip p request =>
        cases h
        refine .inr ⟨env.newPublicId "trip", Store.confined (.inr ⟨_, rfl⟩) (fun j u hj => ?_)
          (fun _ _ _ _ => .rfl) (hleases rfl) (fun _ _ _ _ => .rfl), .inl ?_⟩
        · exact Dict.get?_set_ne _ (fun he => hj (congrArg Prod.fst he)) _
        · rintro ⟨t, ht, -⟩
          rw [show st.view.trips _ = none from hfresh.1] at ht
          cases ht
      | patchTrip p tripId request =>
        obtain ⟨t, hwrite, rfl⟩ := patchTrip_ok h
        exact .inr ⟨tripId, Store.confined (.inr ⟨_, rfl⟩) (fun _ _ _ => rfl) (fun _ _ _ _ => .rfl)
          (hleases rfl) (fun _ _ _ _ => .rfl), .inl (tripLocked_write hwrite)⟩
      | setTripStatus p tripId status =>
        obtain ⟨t, hwrite, rfl⟩ := setTripStatus_ok h
        exact .inr ⟨tripId, Store.confined (.inr ⟨_, rfl⟩) (fun _ _ _ => rfl) (fun _ _ _ _ => .rfl)
          (hleases rfl) (fun _ _ _ _ => .rfl), .inl (tripLocked_write hwrite)⟩
      | upsertTripMember p tripId userId role =>
        obtain ⟨t, hwrite, hmembers, hst⟩ := upsertTripMember_ok h
        refine .inr ⟨tripId, Store.confined (.inl ?_) hmembers (fun _ _ _ _ => ?_) (hleases rfl)
          (fun _ _ _ _ => ?_), .inl (tripLocked_write hwrite)⟩
        all_goals rw [hst]
        · exact .rfl
        · exact .rfl
      | removeTripMember p tripId userId =>
        obtain ⟨t, hwrite, hmembers, hst⟩ := removeTripMember_ok h
        refine .inr ⟨tripId, Store.confined (.inl ?_) hmembers (fun _ _ _ _ => ?_) (hleases rfl)
          (fun _ _ _ _ => ?_), .inl (tripLocked_write hwrite)⟩
        all_goals rw [hst]
        · exact .rfl
        · exact .rfl
      | createRun p c =>
        obtain ⟨-, rfl, -⟩ | ⟨-, trip, hc, hrun⟩ := createRun_ok h
        · exact .inl rfl
        · have hkey : x.run.tripId = c.tripId := by
            rw [hrun]
            exact hok.tripsKeyed _ _ (tripLocked_ok hc.write).1
          refine .inr ⟨c.tripId, Store.confined (.inl ?_) (fun _ _ _ => ?_)
            (fun id run events hk => hchange.createRun_other (hkey ▸ hk)) (hleases rfl)
            (fun _ _ _ _ => ?_), .inl (tripLocked_write hc.write)⟩
          all_goals rw [hc.final]
          exact .rfl
      | resumeRun p runId r =>
        obtain ⟨-, rfl, -⟩ | ⟨-, run, values, hr, -⟩ := resumeRun_ok h
        · exact .inl rfl
        · refine .inr ⟨run.tripId, Store.confined (.inl ?_) (fun _ _ _ => ?_)
            (fun id run' events hk => hchange.resumeRun_other (runLocked_log hr.read) hk)
            (hleases rfl) (fun _ _ _ _ => ?_), .inr ⟨run, hr.read, rfl, hr.fresh, hr.version, values, hr.waiting⟩⟩
          all_goals rw [hr.final]
          exact .rfl
      | createArtifact p c =>
        obtain ⟨hnone, htable⟩ := createArtifact_table h
        obtain ⟨⟨trip, hwrite⟩, -, -, -, hst⟩ := createArtifact_ok h
        refine .inr ⟨c.tripId, Store.confined (.inl ?_) (fun _ _ _ => ?_) (fun _ _ _ _ => ?_)
          (hleases rfl) (fun id v a hk => newVersion_other htable hnone hk), .inl (tripLocked_write hwrite)⟩
        · rw [hst]
        · rw [hst]
        · rw [hlog rfl]
      | patchArtifact p artifactId request =>
        obtain ⟨current, content, hread, hst⟩ := patchArtifact_ok h
        obtain ⟨-, trip, hwrite⟩ := artifactLocked_latest hread
        obtain ⟨hnone, htable⟩ := nextVersion_table env content hok.tidy.versions hread
          (congrArg Store.artifacts hst)
        refine .inr ⟨current.tripId, Store.confined (.inl ?_) (fun _ _ _ => ?_) (fun _ _ _ _ => ?_)
          (hleases rfl) (fun id v a hk => newVersion_other htable hnone hk), .inl (tripLocked_write hwrite)⟩
        · rw [hst]
        · rw [hst]
        · rw [hlog rfl]
      | commandArtifact p artifactId request key requestHash =>
        obtain ⟨rfl, -⟩ | ⟨current, trip, hread, htrip, hc⟩ := commandArtifact_ok h
        · exact .inl rfl
        · have hkey := hok.tripsKeyed _ _ (tripLocked_ok htrip).1
          have hmem := (latestVersion_spec (artifactLocked_latest hread).1).1
          obtain ⟨htrips, harts⟩ := hc.other hok.tidy.versions hmem hkey
          refine .inr ⟨current.tripId, Store.confined htrips (fun _ _ _ => ?_) (fun _ _ _ _ => ?_)
            (hleases rfl) harts, .inl (tripLocked_write htrip)⟩
          · rw [commandArtifact_members h]
          · rw [hlog rfl]
      | _ => exact absurd hw id
  · have hk := o.keeps_view env hw st
    refine .inl ?_
    rw [memoryBackend_step hx]
    exact hk

/-! ## Calls that raise -/

theorem createRun_write {env : Env} {p : Principal} {c : RunCreation} {st st' : Store}
    {x : IdempotentRunResult} (h : (createRun env p c).run st = .ok x st') :
    ∃ trip, tripLocked p c.tripId true st = .ok trip := by
  simp only [createRun, bind_ok, ask_ok, existsAndEq, true_and, and_assoc] at h
  obtain ⟨trip, hwrite, -⟩ := h
  exact ⟨trip, hwrite⟩

theorem commandArtifact_write {env : Env} {p : Principal} {artifactId key requestHash : String}
    {request : ArtifactCommandRequest} {st st' : Store} {x : IdempotentArtifactResult}
    (h : (commandArtifact env p artifactId request key requestHash).run st = .ok x st') :
    ∃ current, artifactLocked p artifactId none true st = .ok current := by
  simp only [commandArtifact, bind_ok, ask_ok, existsAndEq, true_and, and_assoc] at h
  obtain ⟨current, hread, -⟩ := h
  exact ⟨current, hread⟩

/-- The latest version is in the table, and its Trip may be written. -/
theorem artifactLocked_write {p : Principal} {artifactId : String} {st : Store} {a : ArtifactView}
    (hok : st.ArtifactsOk) (h : artifactLocked p artifactId none true st = .ok a) :
    st.artifactTable artifactId a.version = some a ∧ ¬ st.view.ReadOnly p a.tripId := by
  obtain ⟨hlatest, trip, hwrite⟩ := artifactLocked_latest h
  exact ⟨(findVersion_eq_some (hok artifactId)).2 ⟨(latestVersion_spec hlatest).1, rfl⟩,
    tripLocked_write hwrite⟩

/-- The call returns without a write: a resumption under a known key, a claim of a Run that may be
    read and not be claimed, or a renewal or a release of a lease that is not the stored one. -/
def AnswersUnwritten (env : Env) (st : Store) : StoreOp → Prop
  | .resumeRun p _ r =>
    (st.runControlIdempotency.get? (p.tenantId, p.userId, "run.resume", r.idempotencyKey)).isSome
  | .claimRunExecution p runId _ _ =>
    ∃ run, runLocked p runId st = .ok run ∧ ¬ Claimable env run runId st
  | .renewRunExecution p lease _ => ∃ message,
    assertExecutionLeaseLocked env p lease none st = .error (.runExecutionLeaseLost message)
  | .releaseRunExecution p lease =>
    (∃ run, runLocked p lease.runId st = .ok run) ∧ ¬ LeaseStored lease st
  | _ => False

/-- The Run of a transition belongs to the Trip it targets. -/
theorem runLocked_targets {p : Principal} {runId tripId : String} {st : Store} {run : RunView}
    (h : runLocked p runId st = .ok run)
    (ht : ∀ run events, st.log runId = some (run, events) → run.tripId = tripId) :
    run.tripId = tripId :=
  ht run _ (Store.log_eq_some.2 ⟨(runLocked_ok h).1, rfl⟩)

theorem memory_refuses {env : Env} {o : StoreOp} {st st' : Store} {x : o.Ans} {tripId : String}
    (hok : st.Accessible) (h : (o.run env).run st = .ok x st') (ht : st.view.Targets tripId o) :
    ¬ st.view.ReadOnly o.principal tripId ∨ UncheckedWrite env st tripId o ∨ AnswersUnwritten env st o := by
  cases o with
  | patchTrip p k request =>
    obtain rfl : k = tripId := ht
    obtain ⟨t, hwrite, -⟩ := patchTrip_ok h
    exact .inl (tripLocked_write hwrite)
  | setTripStatus p k status =>
    obtain rfl : k = tripId := ht
    obtain ⟨t, hwrite, -⟩ := setTripStatus_ok h
    exact .inl (tripLocked_write hwrite)
  | upsertTripMember p k userId role =>
    obtain rfl : k = tripId := ht
    obtain ⟨t, hwrite, -⟩ := upsertTripMember_ok h
    exact .inl (tripLocked_write hwrite)
  | removeTripMember p k userId =>
    obtain rfl : k = tripId := ht
    obtain ⟨t, hwrite, -⟩ := removeTripMember_ok h
    exact .inl (tripLocked_write hwrite)
  | createRun p c =>
    obtain rfl : c.tripId = tripId := ht
    obtain ⟨t, hwrite⟩ := createRun_write h
    exact .inl (tripLocked_write hwrite)
  | createArtifact p c =>
    obtain rfl : c.tripId = tripId := ht
    obtain ⟨⟨t, hwrite⟩, -⟩ := createArtifact_ok h
    exact .inl (tripLocked_write hwrite)
  | claimRunExecution p runId owner duration =>
    obtain ⟨run, hread, hvalid, -⟩ := claimRunExecution_read h
    by_cases hc : Claimable env run runId st
    · exact .inr (.inl ⟨run, hread, runLocked_targets hread ht, hvalid, hc⟩)
    · exact .inr (.inr ⟨run, hread, hc⟩)
  | renewRunExecution p lease duration =>
    obtain ⟨hvalid, ⟨-, hlost⟩ | ⟨run, hassert⟩⟩ := renewRunExecution_read h
    · exact .inr (.inr hlost)
    · have hread := (assertExecutionLeaseLocked_ok hassert).1
      exact .inr (.inl ⟨run, runLocked_targets hread ht, hvalid, hassert⟩)
  | releaseRunExecution p lease =>
    obtain ⟨run, hread, -⟩ := releaseRunExecution_read h
    by_cases hstored : LeaseStored lease st
    · exact .inr (.inl ⟨run, hread, runLocked_targets hread ht, hstored⟩)
    · exact .inr (.inr ⟨⟨run, hread⟩, hstored⟩)
  | mutateRun p runId m =>
    obtain ⟨run, st₁, hm, -⟩ := mutateRun_ok h
    refine .inr (.inl ⟨run, hm.read, runLocked_targets hm.read ht, hm.fence, hm.version, fun a ha => ?_⟩)
    have hp := hm.publish
    rw [show m.resultArtifact = some a from ha] at hp
    obtain ⟨stored, hstored, -⟩ := publishResult_ok hp
    exact ⟨stored, hstored⟩
  | resumeRun p runId r =>
    obtain ⟨-, -, -, hkey⟩ | ⟨-, run, values, hr, -⟩ := resumeRun_ok h
    · refine .inr (.inr ?_)
      show (st.runControlIdempotency.get? _).isSome = true
      rw [hkey]
      rfl
    · exact .inr (.inl ⟨run, hr.read, runLocked_targets hr.read ht, hr.fresh, hr.version, values,
        hr.waiting⟩)
  | patchArtifact p artifactId request =>
    obtain ⟨current, content, hread, -⟩ := patchArtifact_ok h
    obtain ⟨hget, hwrite⟩ := artifactLocked_write hok.tidy.versions hread
    exact .inl (ht _ _ hget ▸ hwrite)
  | commandArtifact p artifactId request key requestHash =>
    obtain ⟨current, hread⟩ := commandArtifact_write h
    obtain ⟨hget, hwrite⟩ := artifactLocked_write hok.tidy.versions hread
    exact .inl (ht _ _ hget ▸ hwrite)
  | _ => exact ht.elim

theorem Store.accessible_init : ({} : Store).Accessible := by
  refine ⟨fun id run events h => ?_, Store.tidy_init, fun k t h => ?_⟩
  · cases h
  · cases h

def memoryGuard : TripGuard memoryBackend where
  Ok := Store.Accessible
  view := Store.view
  unchecked := UncheckedWrite
  answers := AnswersUnwritten
  init := Store.accessible_init
  keep _ _ _ _ _ hok hfresh hx := hok.exec hfresh hx
  guarded _ _ _ _ _ hok hfresh hx := memory_guarded hok hfresh hx
  refuses _ _ _ _ _ _ hok hx ht := memory_refuses hok (memoryBackend_exec_ok hx) ht

end RoutePilot
