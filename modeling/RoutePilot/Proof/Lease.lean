/-
  Execution-lease fencing, in both stores.

  The system runs any operations of a store under a nondecreasing clock and
  records the history of its leases.  A store fences its leases if it moves
  them by `LeaseStep` only (`LeaseInterface`); both stores do.
-/
import RoutePilot.Lib.Lts
import RoutePilot.Postgres.Log
import RoutePilot.Spec.Backend
import RoutePilot.Spec.Lease
import RoutePilot.Store.ArtifactSpecs

namespace RoutePilot

open Lib Lts

/-- What an operation did to the leases, read off its result. -/
def leaseAct : (o : StoreOp) → Except StoreError o.Ans → LeaseAct
  | .claimRunExecution .., .ok (some l) => .granted l
  | .renewRunExecution .., .ok (some l) => .renewed l
  | .releaseRunExecution _ l, .ok true => .released l
  | .mutateRun _ runId _, .ok (run, _) =>
    if run.lifecycleState.dropsLease then .dropped runId else .idle
  | _, _ => .idle

/-- The Run whose leases an operation may touch. -/
def StoreOp.leasedRun : StoreOp → Option String
  | .claimRunExecution _ runId .. | .mutateRun _ runId _ => some runId
  | .renewRunExecution _ lease _ | .releaseRunExecution _ lease => some lease.runId
  | _ => none

theorem leaseAct_mutateRun {p : Principal} {runId id : String} {m : RunMutation}
    {r : Except StoreError (RunView × RunEvent)}
    (h : (leaseAct (.mutateRun p runId m) r).runId = some id) : some runId = some id := by
  rcases r with e | ⟨run, e⟩
  · cases h
  · have h' : (if run.lifecycleState.dropsLease then LeaseAct.dropped runId
        else LeaseAct.idle).runId = some id := h
    split at h'
    · exact h'
    · cases h'

/-- A store with its clock and the history of its leases. -/
structure LeaseWorld (σ : Type) where
  store : σ
  now : Time := 0
  history : LeaseHistory := {}

/-- Any operations of a store, by any principals, under a nondecreasing clock. -/
def leaseSystem {σ ε : Type} (B : Backend σ ε) : Lts (LeaseWorld σ) (OpLabel ε) where
  init w := w = { store := B.init }
  step w l w' := w.now ≤ B.clock l.env ∧ w'.now = B.clock l.env ∧
    B.exec l.env l.op w.store l.result w'.store ∧
    w'.history = w.history.record (leaseAct l.op l.result)

/-- The operation is a fenced transition or Artifact creation that succeeded, under this lease. -/
inductive OpLabel.FencedBy {ε : Type} (lease : RunExecutionLease) : OpLabel ε → Prop
  | mutateRun (env : ε) (p : Principal) (runId : String) (m : RunMutation) (x : RunView × RunEvent)
      (h : m.executionLease = some lease) : FencedBy lease ⟨env, .mutateRun p runId m, .ok x⟩
  | createArtifact (env : ε) (p : Principal) (c : ArtifactCreation) (x : ArtifactView)
      (h : c.executionLease = some lease) : FencedBy lease ⟨env, .createArtifact p c, .ok x⟩

/-- The operation presents this lease for renewal or release. -/
inductive OpLabel.Presents {ε : Type} (lease : RunExecutionLease) : OpLabel ε → Prop
  | renew (env : ε) (p : Principal) (duration : ℕ) (r) :
      Presents lease ⟨env, .renewRunExecution p lease duration, r⟩
  | release (env : ε) (p : Principal) (r) : Presents lease ⟨env, .releaseRunExecution p lease, r⟩

/-- The write is one of this Run: a transition of it, or an Artifact for its Trip. -/
def StoreOp.IsOfRun (runId : String) (run : RunView) : StoreOp → Prop
  | .mutateRun _ runId' _ => runId' = runId
  | .createArtifact _ c => c.tripId = run.tripId
  | _ => True

section
variable {σ ε : Type} (B : Backend σ ε)

/-- **Fencing.**  For every run of the store's operations. -/
structure LeaseFencing : Prop where
  /-- the attempts handed out for a Run strictly increase (newest first) -/
  increasing : ∀ w, (leaseSystem B).Reach anyStep w → ∀ r,
    (w.history.granted.filter (·.runId = r)).Pairwise fun a b => b.attempt < a.attempt
  /-- at most one held lease of a Run is unexpired -/
  unique : ∀ w, (leaseSystem B).Reach anyStep w → ∀ l ∈ w.history.held, ∀ l' ∈ w.history.held,
    l.runId = l'.runId → w.now < l.leaseUntil → w.now < l'.leaseUntil → l = l'
  /-- a fenced write succeeds only under the newest attempt of the Run that it is of, unexpired,
      and while the Run is executable -/
  fenced : ∀ w l w' lease, (leaseSystem B).Reach anyStep w → (leaseSystem B).step w l w' →
    l.FencedBy lease →
    (∀ g ∈ w.history.granted, g.runId = lease.runId → g.attempt ≤ lease.attempt) ∧
    (∃ h ∈ w.history.held, h.runId = lease.runId ∧ h.owner = lease.owner ∧
      h.attempt = lease.attempt ∧ B.clock l.env < h.leaseUntil) ∧
    ∃ run, B.storedRun w.store lease.runId = some run ∧ run.lifecycleState.isExecutable ∧
      l.op.IsOfRun lease.runId run
  /-- an older attempt renews and releases nothing -/
  stale : ∀ w l w' lease, (leaseSystem B).Reach anyStep w → (leaseSystem B).step w l w' →
    l.Presents lease →
    (∃ g ∈ w.history.granted, g.runId = lease.runId ∧ lease.attempt < g.attempt) →
    w'.store = w.store ∧ w'.history = w.history

/-- What a store has to do for its leases to be fenced; `Ok` holds in its reachable states. -/
structure LeaseInterface (Ok : σ → Prop) (table : σ → LeaseTable) : Prop where
  init_ok : Ok B.init
  init : table B.init = fun _ => ⟨0, none⟩
  exec_ok : ∀ {env o s r s'}, Ok s → B.exec env o s r s' → Ok s'
  step : ∀ {env o s r s'}, Ok s → B.exec env o s r s' →
    LeaseStep (B.clock env) (table s) (table s') (leaseAct o r)
  fence : ∀ {l : OpLabel ε} {s s' lease}, Ok s → l.FencedBy lease →
    B.exec l.env l.op s l.result s' →
    ∃ c, (table s lease.runId).current = some c ∧ c.owner = lease.owner ∧
      c.attempt = lease.attempt ∧ B.clock l.env < c.leaseUntil ∧
      ∃ run, B.storedRun s lease.runId = some run ∧ run.lifecycleState.isExecutable ∧
        l.op.IsOfRun lease.runId run
  stale : ∀ {l : OpLabel ε} {s s' lease}, Ok s → l.Presents lease →
    B.exec l.env l.op s l.result s' →
    (∀ c ∈ (table s lease.runId).current, c.attempt ≠ lease.attempt) →
    s' = s ∧ leaseAct l.op l.result = .idle

variable {B} {Ok : σ → Prop} {table : σ → LeaseTable}

/-- The history agrees with the table in every reachable state. -/
theorem LeaseInterface.historyOk (h : LeaseInterface B Ok table) {w : LeaseWorld σ}
    (hw : (leaseSystem B).Reach anyStep w) :
    Ok w.store ∧ HistoryOk w.now (table w.store) w.history := by
  refine hw.invariant (I := fun w => Ok w.store ∧ HistoryOk w.now (table w.store) w.history) ?_ ?_
  · intro w hinit
    rw [show w = { store := B.init } from hinit]
    refine ⟨h.init_ok, ?_⟩
    rw [h.init]
    exact HistoryOk.init
  · rintro w l w' - ⟨hok, hH⟩ - ⟨hclock, hnow, hexec, hrec⟩
    refine ⟨h.exec_ok hok hexec, ?_⟩
    rw [hnow, hrec]
    exact (hH.mono hclock).step (h.step hok hexec)

theorem LeaseInterface.fencing (h : LeaseInterface B Ok table) : LeaseFencing B where
  increasing w hw := (h.historyOk hw).2.increasing
  unique w hw l hl l' hl' hr hlive hlive' := (h.historyOk hw).2.unique hl hl' hr hlive hlive'
  fenced w l w' lease hw hs hf := by
    obtain ⟨hok, hH⟩ := h.historyOk hw
    obtain ⟨-, -, hexec, -⟩ := hs
    obtain ⟨c, hc, howner, hattempt, hlive, hrun⟩ := h.fence hok hf hexec
    obtain ⟨hid, hheld, hnewest⟩ := hH.fence hc
    refine ⟨fun g hg hr => ?_, ⟨c, hheld, hid, howner, hattempt, hlive⟩, hrun⟩
    rw [← hattempt]
    exact hnewest g hg hr
  stale w l w' lease hw hs hp hold := by
    obtain ⟨hok, hH⟩ := h.historyOk hw
    obtain ⟨-, -, hexec, hrec⟩ := hs
    obtain ⟨g, hg, hr, hlt⟩ := hold
    obtain ⟨hstore, hact⟩ := h.stale hok hp hexec fun c hc hc' => by
      obtain ⟨-, -, hnewest⟩ := hH.fence hc
      have := hnewest g hg hr
      omega
    refine ⟨hstore, ?_⟩
    rw [hrec, hact]
    rfl

end

/-! ## The in-memory store -/

/-- The leases of the in-memory store. -/
def Store.leaseTable (st : Store) : LeaseTable :=
  fun r => ⟨st.executionAttempts.getD r 0, st.executionLeases.get? r⟩

theorem Store.leaseTable_eq {st st' : Store} (h : st'.runPart = st.runPart) :
    st'.leaseTable = st.leaseTable := by
  have h₁ : st'.executionLeases = st.executionLeases := congrArg (·.2.1) h
  have h₂ : st'.executionAttempts = st.executionAttempts := congrArg (·.2.2) h
  funext r
  rw [leaseTable, leaseTable, h₁, h₂]

/-- An operation that writes no Run does nothing to the leases. -/
theorem leaseAct_idle {o : StoreOp} (h : ¬ o.WritesRuns) (r : Except StoreError o.Ans) :
    leaseAct o r = .idle := by
  cases o <;> first | exact absurd trivial h | rfl

theorem claimRunExecution_ok {env : Env} {p : Principal} {runId owner : String} {duration : ℕ}
    {st st' : Store} {x : Option RunExecutionLease}
    (h : (claimRunExecution env p runId owner duration).run st = .ok x st') :
    (x = none ∧ st' = st) ∨
      ∃ l : RunExecutionLease, x = some l ∧ l.runId = runId ∧
        l.attempt = (st.leaseTable runId).attempt + 1 ∧
        (∀ c ∈ (st.leaseTable runId).current, c.leaseUntil ≤ env.now) ∧
        st' = { st with
          executionAttempts := st.executionAttempts.set runId l.attempt
          executionLeases := st.executionLeases.set runId l } := by
  simp only [claimRunExecution, bind_ok, ask_ok, EStateM.run_get, EStateM.Result.ok.injEq,
    existsAndEq, true_and, and_assoc] at h
  obtain ⟨_, -, run, -, h⟩ := h
  split at h
  · cases h; exact .inl ⟨rfl, rfl⟩
  · next hfree =>
    simp only [grantLease, bind_ok, EStateM.run_get, EStateM.run_modify, EStateM.run_pure,
      EStateM.Result.ok.injEq, existsAndEq, true_and, exists_const, and_assoc] at h
    obtain ⟨rfl, rfl⟩ := h
    refine .inr ⟨_, rfl, rfl, rfl, fun c hc => ?_, rfl⟩
    rw [not_or] at hfree
    have hc' : st.executionLeases.get? runId = some c := hc
    simpa [hc'] using hfree.2

theorem renewRunExecution_ok {env : Env} {p : Principal} {lease : RunExecutionLease} {duration : ℕ}
    {st st' : Store} {x : Option RunExecutionLease}
    (h : (renewRunExecution env p lease duration).run st = .ok x st') :
    (x = none ∧ st' = st) ∨
      ∃ c l : RunExecutionLease, x = some l ∧ l.runId = lease.runId ∧
        l.attempt = lease.attempt ∧ st.executionLeases.get? lease.runId = some c ∧
        c.attempt = lease.attempt ∧
        st' = { st with executionLeases := st.executionLeases.set lease.runId l } := by
  simp only [renewRunExecution, bind_ok, ask_ok, EStateM.run_get, EStateM.Result.ok.injEq,
    existsAndEq, true_and, and_assoc] at h
  obtain ⟨_, -, h⟩ := h
  split at h
  · cases h; exact .inl ⟨rfl, rfl⟩
  · cases h
  · next run hassert =>
    simp only [bind_ok, EStateM.run_modify, EStateM.run_pure, EStateM.Result.ok.injEq, existsAndEq,
      true_and, exists_const] at h
    obtain ⟨rfl, rfl⟩ := h
    obtain ⟨-, -, -, c, hc, -, hattempt, -⟩ := assertExecutionLeaseLocked_ok hassert
    exact .inr ⟨c, _, rfl, rfl, rfl, hc, hattempt, rfl⟩

theorem renewRunExecution_error {env : Env} {p : Principal} {lease : RunExecutionLease}
    {duration : ℕ} {st st' : Store} {e : StoreError}
    (h : (renewRunExecution env p lease duration).run st = .error e st') : st' = st := by
  simp only [renewRunExecution, bind_error, ask_ok, ask_error, EStateM.run_get,
    EStateM.Result.ok.injEq, existsAndEq, true_and, and_assoc, reduceCtorEq, false_or] at h
  rcases h with ⟨-, rfl⟩ | ⟨_, -, h⟩
  · rfl
  · split at h
    · cases h
    · cases h; rfl
    · simp only [bind_error, EStateM.run_modify, EStateM.run_pure, reduceCtorEq, false_or,
        and_false, exists_const] at h

theorem releaseRunExecution_ok {p : Principal} {lease : RunExecutionLease} {st st' : Store}
    {x : Bool} (h : (releaseRunExecution p lease).run st = .ok x st') :
    (x = false ∧ st' = st) ∨
      ∃ c : RunExecutionLease, x = true ∧ st.executionLeases.get? lease.runId = some c ∧
        c.attempt = lease.attempt ∧
        st' = { st with executionLeases := st.executionLeases.pop lease.runId } := by
  simp only [releaseRunExecution, bind_ok, ask_ok, EStateM.run_get, EStateM.Result.ok.injEq,
    existsAndEq, true_and, and_assoc] at h
  obtain ⟨run, -, h⟩ := h
  split at h
  · next hany =>
    simp only [bind_ok, EStateM.run_modify, EStateM.run_pure, EStateM.Result.ok.injEq, existsAndEq,
      true_and, exists_const] at h
    obtain ⟨rfl, rfl⟩ := h
    obtain ⟨c, hc, hm⟩ := (Option.any_eq_true _ _).1 hany
    simp only [decide_eq_true_eq, Bool.decide_and, Bool.and_eq_true] at hm
    exact .inr ⟨c, rfl, hc, hm.2, rfl⟩
  · cases h; exact .inl ⟨rfl, rfl⟩

theorem claimRunExecution_error {env : Env} {p : Principal} {runId owner : String} {duration : ℕ}
    {st st' : Store} {e : StoreError}
    (h : (claimRunExecution env p runId owner duration).run st = .error e st') : st' = st := by
  simp only [claimRunExecution, bind_error, ask_ok, ask_error, EStateM.run_get,
    EStateM.Result.ok.injEq, existsAndEq, true_and, and_assoc, reduceCtorEq, false_or] at h
  rcases h with ⟨-, rfl⟩ | ⟨_, -, ⟨-, rfl⟩ | ⟨run, -, h⟩⟩
  · rfl
  · rfl
  · split at h
    · cases h
    · simp only [grantLease, bind_error, EStateM.run_get, EStateM.run_modify, EStateM.run_pure,
        reduceCtorEq, false_or, and_false, exists_const] at h

theorem releaseRunExecution_error {p : Principal} {lease : RunExecutionLease} {st st' : Store}
    {e : StoreError} (h : (releaseRunExecution p lease).run st = .error e st') : st' = st := by
  simp only [releaseRunExecution, bind_error, ask_ok, ask_error, EStateM.run_get,
    EStateM.Result.ok.injEq, existsAndEq, true_and, and_assoc, reduceCtorEq, false_or] at h
  rcases h with ⟨-, rfl⟩ | ⟨run, -, h⟩
  · rfl
  · split at h
    · simp only [bind_error, EStateM.run_modify, EStateM.run_pure, reduceCtorEq, false_or,
        and_false, exists_const] at h
    · cases h

/-- Setting the lease of one Run. -/
theorem Store.leaseTable_set {st st' : Store} {r : String} {a : ℕ} {c : Option RunExecutionLease}
    (ha : ∀ k, st'.executionAttempts.get? k = if k = r then some a else st.executionAttempts.get? k)
    (hc : ∀ k, st'.executionLeases.get? k = if k = r then c else st.executionLeases.get? k) :
    st'.leaseTable = Function.update st.leaseTable r ⟨a, c⟩ := by
  funext k
  rw [Function.update_apply, leaseTable, Dict.getD, ha, hc]
  by_cases hk : k = r
  · simp [hk]
  · simp [hk, leaseTable, Dict.getD]

/-- Changing the current lease of one Run. -/
theorem Store.leaseTable_current {st st' : Store} {r : String} {c : Option RunExecutionLease}
    (ha : st'.executionAttempts = st.executionAttempts)
    (hc : ∀ k, st'.executionLeases.get? k = if k = r then c else st.executionLeases.get? k) :
    st'.leaseTable = Function.update st.leaseTable r { st.leaseTable r with current := c } := by
  funext k
  rw [Function.update_apply, leaseTable, ha, hc]
  by_cases hk : k = r
  · simp [hk, leaseTable]
  · simp [hk, leaseTable]

/-- A transition drops the lease of a Run that is no longer executable. -/
theorem Mutated.leaseStep {env : Env} {p : Principal} {runId : String} {m : RunMutation}
    {run : RunView} {st st₁ st' : Store} {e : RunEvent} (h : Mutated env p runId m run st st₁ st') :
    LeaseStep env.now st.leaseTable st'.leaseTable
      (leaseAct (.mutateRun p runId m) (.ok (m.apply env run, e))) := by
  have hk := publish_keeps (f := Store.runPart) (fun _ _ _ => rfl) env p run m.resultArtifact st
  rw [h.publish] at hk
  have h₁ : st₁.executionLeases = st.executionLeases := congrArg (·.2.1) hk
  have h₂ : st₁.executionAttempts = st.executionAttempts := congrArg (·.2.2) hk
  rw [h.final]
  simp only [leaseAct]
  split
  · next hd =>
    refine .dropped runId (Store.leaseTable_current h₂ fun k => ?_)
    simp only [storeRun, hd, if_true, Dict.get?_pop, h₁]
  · next hd =>
    refine .idle ?_
    funext k
    simp [Store.leaseTable, storeRun, hd, h₁, h₂]

theorem memoryBackend_leaseStep {env : Env} {o : StoreOp} {st st' : Store}
    {r : Except StoreError o.Ans} (h : memoryBackend.exec env o st r st') :
    LeaseStep env.now st.leaseTable st'.leaseTable (leaseAct o r) := by
  by_cases hw : o.WritesRuns
  · cases o with
    | claimRunExecution p runId owner duration =>
      cases r with
      | error e => exact .idle (by rw [claimRunExecution_error (memoryBackend_exec_error h)])
      | ok x =>
        obtain ⟨rfl, rfl⟩ | ⟨l, rfl, rfl, ha, hfree, rfl⟩ :=
          claimRunExecution_ok (memoryBackend_exec_ok h)
        · exact .idle rfl
        · exact .granted l ha hfree
            (Store.leaseTable_set (fun k => Dict.get?_set ..) fun k => Dict.get?_set ..)
    | renewRunExecution p lease duration =>
      cases r with
      | error e => exact .idle (by rw [renewRunExecution_error (memoryBackend_exec_error h)])
      | ok x =>
        obtain ⟨rfl, rfl⟩ | ⟨c, l, rfl, hid, ha, hc, hca, rfl⟩ :=
          renewRunExecution_ok (memoryBackend_exec_ok h)
        · exact .idle rfl
        · refine .renewed l c (by rw [hid]; exact hc) (ha.trans hca.symm)
            (Store.leaseTable_current rfl fun k => ?_)
          rw [hid]
          exact Dict.get?_set ..
    | releaseRunExecution p lease =>
      cases r with
      | error e => exact .idle (by rw [releaseRunExecution_error (memoryBackend_exec_error h)])
      | ok x =>
        obtain ⟨rfl, rfl⟩ | ⟨c, rfl, hc, hca, rfl⟩ :=
          releaseRunExecution_ok (memoryBackend_exec_ok h)
        · exact .idle rfl
        · exact .released lease c hc hca.symm
            (Store.leaseTable_current rfl fun k => Dict.get?_pop ..)
    | createRun p c =>
      have : leaseAct (.createRun p c) r = .idle := by cases r <;> rfl
      rw [this]
      cases r with
      | error e => exact .idle (by rw [createRun_error (memoryBackend_exec_error h)])
      | ok x =>
        obtain ⟨-, rfl, -⟩ | ⟨-, trip, hc, -⟩ := createRun_ok (memoryBackend_exec_ok h)
        · exact .idle rfl
        · exact .idle (by rw [hc.final]; rfl)
    | mutateRun p runId m =>
      cases r with
      | error e =>
        exact .idle (Store.leaseTable_eq (mutateRun_error_runPart (memoryBackend_exec_error h)))
      | ok x =>
        obtain ⟨run, st₁, hm, hx⟩ := mutateRun_ok (memoryBackend_exec_ok h)
        obtain ⟨x₁, x₂⟩ := x
        obtain rfl : x₁ = _ := hx
        exact hm.leaseStep
    | resumeRun p runId s =>
      have : leaseAct (.resumeRun p runId s) r = .idle := by cases r <;> rfl
      rw [this]
      cases r with
      | error e => exact .idle (by rw [resumeRun_error (memoryBackend_exec_error h)])
      | ok x =>
        obtain ⟨-, rfl, -⟩ | ⟨-, run, values, hr, -⟩ := resumeRun_ok (memoryBackend_exec_ok h)
        · exact .idle rfl
        · exact .idle (by rw [hr.final]; rfl)
    | _ => exact absurd hw id
  · rw [leaseAct_idle hw]
    refine .idle (Store.leaseTable_eq ?_)
    rw [h.2]
    exact o.keeps_runPart env hw st

/-- An operation touches the leases of its own Run only. -/
theorem memoryBackend_leases_other {env : Env} {o : StoreOp} {st st' : Store}
    {r : Except StoreError o.Ans} (h : memoryBackend.exec env o st r st') {id : String}
    (hid : o.leasedRun ≠ some id) : st'.leaseTable id = st.leaseTable id := by
  refine (memoryBackend_leaseStep h).other fun hact => hid ?_
  cases o with
  | claimRunExecution p runId owner duration =>
    cases r with
    | error e => cases hact
    | ok x =>
      obtain ⟨rfl, -⟩ | ⟨l, rfl, hl, -⟩ := claimRunExecution_ok (memoryBackend_exec_ok h)
      · cases hact
      · exact (congrArg some hl).symm.trans hact
  | renewRunExecution p lease duration =>
    cases r with
    | error e => cases hact
    | ok x =>
      obtain ⟨rfl, -⟩ | ⟨c, l, rfl, hl, -⟩ := renewRunExecution_ok (memoryBackend_exec_ok h)
      · cases hact
      · exact (congrArg some hl).symm.trans hact
  | releaseRunExecution p lease =>
    cases r with
    | error e => cases hact
    | ok x => cases x <;> first | exact hact | cases hact
  | mutateRun p runId m => exact leaseAct_mutateRun hact
  | createRun | resumeRun => cases r <;> cases hact
  | _ => cases hact

/-- What a passed lease check says. -/
theorem lease_current {env : Env} {p : Principal} {lease : RunExecutionLease} {t : Option String}
    {st : Store} {run : RunView} (h : assertExecutionLeaseLocked env p lease t st = .ok run) :
    ∃ c, (st.leaseTable lease.runId).current = some c ∧ c.owner = lease.owner ∧
      c.attempt = lease.attempt ∧ env.now < c.leaseUntil ∧
      memoryBackend.storedRun st lease.runId = some run ∧ run.lifecycleState.isExecutable ∧ ∀ t' ∈ t,
        t' = run.tripId := by
  obtain ⟨hread, hexec, htrip, c, hc, h₁, h₂, h₃⟩ := assertExecutionLeaseLocked_ok h
  exact ⟨c, hc, h₁, h₂, h₃, (runLocked_ok hread).1, hexec, htrip⟩

theorem memoryBackend_leaseInterface :
    LeaseInterface memoryBackend (fun _ => True) Store.leaseTable where
  init_ok := trivial
  init := rfl
  exec_ok _ _ := trivial
  step _ h := memoryBackend_leaseStep h
  fence {l s s' lease} _ hf hexec := by
    cases hf with
    | mutateRun env p runId m x h =>
      obtain ⟨run, st₁, hm, -⟩ := mutateRun_ok (memoryBackend_exec_ok hexec)
      have hfence := hm.fence
      simp only [checkFence, h] at hfence
      split at hfence
      · cases hfence
      · next hid =>
        cases ha : assertExecutionLeaseLocked env p lease none s with
        | error e => rw [ha] at hfence; cases hfence
        | ok run' =>
          obtain ⟨c, hc, howner, hattempt, hlive, hread, hexec, -⟩ := lease_current ha
          exact ⟨c, hc, howner, hattempt, hlive, run', hread, hexec, (not_not.1 hid).symm⟩
    | createArtifact env p c x h =>
      obtain ⟨-, hfence, -⟩ := createArtifact_ok (memoryBackend_exec_ok hexec)
      simp only [checkArtifactFence, h] at hfence
      cases ha : assertExecutionLeaseLocked env p lease (some c.tripId) s with
      | error e => rw [ha] at hfence; cases hfence
      | ok run' =>
        obtain ⟨cell, hc, howner, hattempt, hlive, hread, hexec, htrip⟩ := lease_current ha
        exact ⟨cell, hc, howner, hattempt, hlive, run', hread, hexec, htrip _ rfl⟩
  stale {l s s' lease} _ hp hexec hold := by
    cases hp with
    | renew env p duration r =>
      cases r with
      | error e => exact ⟨renewRunExecution_error (memoryBackend_exec_error hexec), rfl⟩
      | ok x =>
        obtain ⟨rfl, rfl⟩ | ⟨c, l, -, -, -, hc, hca, -⟩ :=
          renewRunExecution_ok (memoryBackend_exec_ok hexec)
        · exact ⟨rfl, rfl⟩
        · exact absurd hca (hold c hc)
    | release env p r =>
      cases r with
      | error e => exact ⟨releaseRunExecution_error (memoryBackend_exec_error hexec), rfl⟩
      | ok x =>
        obtain ⟨rfl, rfl⟩ | ⟨c, -, hc, hca, -⟩ := releaseRunExecution_ok (memoryBackend_exec_ok hexec)
        · exact ⟨rfl, rfl⟩
        · exact absurd hca (hold c hc)

/-! ## The PostgreSQL store -/

namespace Postgres

/-- The lease of a Run row. -/
def RunRow.lease (row : RunRow) (runId : String) : Option RunExecutionLease := do
  let owner ← row.leaseOwner
  let u ← row.leaseUntil
  return ⟨runId, owner, row.attempt, u⟩

/-- The cell of a Run row. -/
def RunRow.cell (row : RunRow) (runId : String) : LeaseCell := ⟨row.attempt, row.lease runId⟩

/-- The leases of the database. -/
def Database.leaseTable (db : Database) : LeaseTable := fun r =>
  match db.runs.get? r with
  | none => ⟨0, none⟩
  | some row => row.cell r

/-- A Run that is not executable has no lease, and the columns of a lease are set together. -/
structure RunRow.LeaseOk (row : RunRow) : Prop where
  executable : row.run.lifecycleState.isExecutable = false →
    row.leaseOwner = none ∧ row.leaseUntil = none
  paired : row.leaseOwner.isSome = row.leaseUntil.isSome

def LeasesOk (db : Database) : Prop := ∀ r row, db.runs.get? r = some row → row.LeaseOk

theorem leaseTable_some {db : Database} {r : String} {row : RunRow}
    (h : db.runs.get? r = some row) : db.leaseTable r = row.cell r := by
  rw [Database.leaseTable, h]

theorem leaseTable_eq {db db' : Database} (h : db'.runs = db.runs) :
    db'.leaseTable = db.leaseTable := by
  funext r; rw [Database.leaseTable, Database.leaseTable, h]

/-- Writing one row. -/
theorem leaseTable_set {db db' : Database} {r : String} {row : RunRow}
    (h : db'.runs = db.runs.set r row) :
    db'.leaseTable = Function.update db.leaseTable r (row.cell r) := by
  funext k
  rw [Function.update_apply, Database.leaseTable, h, Dict.get?_set]
  by_cases hk : k = r
  · simp [hk]
  · simp [hk, Database.leaseTable]

theorem LeasesOk.set {db db' : Database} {r : String} {row : RunRow} (hok : LeasesOk db)
    (h : db'.runs = db.runs.set r row) (hrow : row.LeaseOk) : LeasesOk db' := by
  intro k row' hk
  rw [h, Dict.get?_set] at hk
  split at hk
  · cases hk; exact hrow
  · exact hok k row' hk

/-- The lease of a row is the lease its check compares with. -/
theorem holds_columns {row : RunRow} {p : Principal} {lease : RunExecutionLease}
    (h : row.holds p lease = true) :
    row.leaseOwner = some lease.owner ∧ row.attempt = lease.attempt := by
  simp only [RunRow.holds, Bool.and_eq_true, beq_iff_eq] at h
  exact ⟨h.1.2, h.2⟩

theorem RunRowChange.leasesOk {c : Call} {db db' : Database} (h : RunRowChange c db db')
    (hok : LeasesOk db) : LeasesOk db' := by
  cases h with
  | same h =>
    intro r row hrow
    rw [show db'.runs = db.runs from congrArg Prod.fst h] at hrow
    exact hok r row hrow
  | created hop hfresh h => exact hok.set (congrArg Prod.fst h) ⟨fun _ => ⟨rfl, rfl⟩, rfl⟩
  | @mutated p runId m row hop hrow hfence hversion h =>
    obtain ⟨hexec, hpair⟩ := hok _ row hrow
    refine hok.set (congrArg Prod.fst h) ?_
    -- either the transition set the state and dropped the lease, or it kept both
    cases hl : m.lifecycleState with
    | none => constructor <;> simpa [applyTx, RunMutation.apply, hl]
    | some l =>
      cases hd : l.dropsLease with
      | true => constructor <;> simp [applyTx, hl, hd]
      | false =>
        have hno : l.isExecutable = true := by
          rw [RunLifecycle.dropsLease_eq] at hd
          simpa using hd
        constructor
        · simp [applyTx, RunMutation.apply, hl, hno]
        · simpa [applyTx, hl, hd] using hpair
  | resumed hop hrow hwaiting h =>
    exact hok.set (congrArg Prod.fst h) ⟨fun hno => (by cases hno), (hok _ _ hrow).paired⟩
  | claimed hop hrow hfree hexec h =>
    refine hok.set (congrArg Prod.fst h) ⟨fun hno => ?_, rfl⟩
    rw [show _ = true from hexec] at hno; cases hno
  | renewed hop hrow hholds hexec h =>
    refine hok.set (congrArg Prod.fst h) ⟨fun hno => ?_, ?_⟩
    · rw [show _ = true from hexec] at hno; cases hno
    · rw [(holds_columns hholds).1]; rfl
  | released hop hrow hholds h => exact hok.set (congrArg Prod.fst h) ⟨fun _ => ⟨rfl, rfl⟩, rfl⟩

/-- What the reachable databases satisfy. -/
def LeaseOk (db : Database) : Prop := DatabaseOk db ∧ LeasesOk db

/-- A transition drops the lease of a Run that is no longer executable. -/
theorem mutateRun_leaseStep {env : Env} {p : Principal} {runId : String} {m : RunMutation}
    {db db' : Database} {x : RunView × RunEvent} (hok : LeasesOk db)
    (h : (mutateRun env p runId m).run db = .ok x db') :
    LeaseStep env.databaseNow db.leaseTable db'.leaseTable
      (leaseAct (.mutateRun p runId m) (.ok x)) := by
  obtain ⟨row, hrow, -, -, hx, hpart⟩ := mutateRun_ok h
  obtain ⟨x₁, x₂⟩ := x
  obtain rfl : x₁ = _ := hx
  have hT := leaseTable_set (congrArg Prod.fst hpart)
  have hcell := leaseTable_some hrow
  simp only [leaseAct]
  split
  · next hd =>
    refine .dropped runId (hT.trans (congrArg _ ?_))
    rw [hcell]
    cases hl : m.lifecycleState with
    | none =>
      have hd' : row.run.lifecycleState.isExecutable = false := by
        rw [RunLifecycle.dropsLease_eq] at hd
        simpa [RunMutation.apply, hl] using hd
      obtain ⟨h₁, h₂⟩ := (hok _ row hrow).executable hd'
      simp [RunRow.cell, RunRow.lease, applyTx, h₁, h₂]
    | some l =>
      have hd' : l.dropsLease = true := by simpa [RunMutation.apply, hl] using hd
      simp [RunRow.cell, RunRow.lease, applyTx, hl, hd']
  · next hd =>
    refine .idle (hT.trans ?_)
    have hcell' : (applyTx env m row).cell runId = row.cell runId := by
      cases hl : m.lifecycleState with
      | none => simp [RunRow.cell, RunRow.lease, applyTx, hl]
      | some l =>
        have hd' : l.dropsLease = false := by simpa [RunMutation.apply, hl] using hd
        simp [RunRow.cell, RunRow.lease, applyTx, hl, hd']
    rw [hcell', ← hcell, Function.update_eq_self]

theorem exec_leaseStep {env : Env} {o : StoreOp} {db db' : Database} {r : Except StoreError o.Ans}
    (hok : LeaseOk db) (h : postgresBackend.exec env o db r db') :
    LeaseStep env.databaseNow db.leaseTable db'.leaseTable (leaseAct o r) := by
  cases r with
  | error e =>
    have : leaseAct o (.error e) = .idle := by cases o <;> rfl
    rw [this, postgresBackend_exec_error h]
    exact .idle rfl
  | ok x =>
    have hx := postgresBackend_exec_ok h
    by_cases hw : o.WritesRuns
    · cases o with
      | claimRunExecution p runId owner duration =>
        obtain ⟨rfl, rfl⟩ | ⟨row, hrow, hfree, -, rfl, rfl⟩ := claimRunExecution_ok hx
        · exact .idle rfl
        · refine .granted ⟨runId, owner, row.attempt + 1, env.databaseNow + duration⟩ ?_ ?_ ?_
          · rw [leaseTable_some hrow]; rfl
          · intro c hc
            rw [leaseTable_some hrow] at hc
            simp only [RunRow.isLeased, Bool.and_eq_false_iff] at hfree
            cases ho : row.leaseOwner with
            | none => simp [RunRow.cell, RunRow.lease, ho] at hc
            | some o =>
              cases hu : row.leaseUntil with
              | none => simp [RunRow.cell, RunRow.lease, ho, hu] at hc
              | some u =>
                simp only [ho, hu, Option.isSome_some, Bool.true_eq_false, Option.any_some,
                  decide_eq_false_iff_not, not_lt, false_or] at hfree
                simp only [RunRow.cell, RunRow.lease, ho, hu] at hc
                cases hc
                exact hfree
          · let granted : RunRow := { row with
              leaseOwner := some owner, leaseUntil := some (env.databaseNow + duration)
              attempt := row.attempt + 1 }
            exact leaseTable_set (show _ = db.runs.set runId granted from rfl)
      | renewRunExecution p lease duration =>
        obtain ⟨rfl, rfl⟩ | ⟨row, hrow, hholds, hlive, -, rfl, rfl⟩ := renewRunExecution_ok hx
        · exact .idle rfl
        · obtain ⟨howner, hattempt⟩ := holds_columns hholds
          obtain ⟨u, hu, -⟩ := (Option.any_eq_true _ _).1 hlive
          refine .renewed _ ⟨lease.runId, lease.owner, row.attempt, u⟩ ?_ hattempt.symm
            ((leaseTable_set rfl).trans (congrArg _ ?_))
          · rw [leaseTable_some hrow]
            simp [RunRow.cell, RunRow.lease, howner, show row.leaseUntil = some u from hu]
          · rw [leaseTable_some hrow]
            simp [RunRow.cell, RunRow.lease, howner, hattempt]
      | releaseRunExecution p lease =>
        obtain ⟨rfl, rfl⟩ | ⟨row, hrow, hholds, rfl, rfl⟩ := releaseRunExecution_ok hx
        · exact .idle rfl
        · obtain ⟨howner, hattempt⟩ := holds_columns hholds
          obtain ⟨u, hu⟩ : ∃ u, row.leaseUntil = some u := by
            rw [← Option.isSome_iff_exists, ← (hok.2 _ row hrow).paired, howner]; rfl
          refine .released lease ⟨lease.runId, lease.owner, row.attempt, u⟩ ?_ hattempt.symm
            ((leaseTable_set rfl).trans (congrArg _ ?_))
          · rw [leaseTable_some hrow]
            simp [RunRow.cell, RunRow.lease, howner, hu]
          · rw [leaseTable_some hrow]
            simp [RunRow.cell, RunRow.lease]
      | createRun p c =>
        obtain ⟨-, rfl⟩ | ⟨trip, -, hfresh, hpart⟩ := createRun_ok hx
        · exact .idle rfl
        · refine .idle ((leaseTable_set (congrArg Prod.fst hpart)).trans ?_)
          funext k
          rw [Function.update_apply]
          split
          · next hk => rw [hk, Database.leaseTable, hfresh]; rfl
          · rfl
      | mutateRun p runId m => exact mutateRun_leaseStep hok.2 hx
      | resumeRun p runId s =>
        obtain ⟨-, rfl⟩ | ⟨row, values, -, hrow, -, hpart⟩ := resumeRun_ok hx
        · exact .idle rfl
        · refine .idle ((leaseTable_set (congrArg Prod.fst hpart)).trans ?_)
          exact (congrArg _ (leaseTable_some hrow).symm).trans (Function.update_eq_self ..)
      | _ => exact absurd hw id
    · rw [leaseAct_idle hw]
      have hk := runOp_keeps_runPart env o hw db
      rw [hx] at hk
      exact .idle (leaseTable_eq (congrArg Prod.fst hk))

/-- An operation touches the leases of its own Run only. -/
theorem leases_other {env : Env} {o : StoreOp} {db db' : Database} {r : Except StoreError o.Ans}
    (hok : LeaseOk db) (h : postgresBackend.exec env o db r db') {id : String}
    (hid : o.leasedRun ≠ some id) : db'.leaseTable id = db.leaseTable id := by
  refine (exec_leaseStep hok h).other fun hact => hid ?_
  cases o with
  | claimRunExecution p runId owner duration =>
    cases r with
    | error e => cases hact
    | ok x =>
      obtain ⟨rfl, -⟩ | ⟨row, -, -, -, rfl, -⟩ := claimRunExecution_ok (postgresBackend_exec_ok h)
      · cases hact
      · exact hact
  | renewRunExecution p lease duration =>
    cases r with
    | error e => cases hact
    | ok x =>
      obtain ⟨rfl, -⟩ | ⟨row, -, -, -, -, rfl, -⟩ := renewRunExecution_ok (postgresBackend_exec_ok h)
      · cases hact
      · exact hact
  | releaseRunExecution p lease =>
    cases r with
    | error e => cases hact
    | ok x => cases x <;> first | exact hact | cases hact
  | mutateRun p runId m => exact leaseAct_mutateRun hact
  | createRun | resumeRun => cases r <;> cases hact
  | _ => cases hact

/-- What a passed lease check says. -/
theorem lease_current {env : Env} {run : RunView} {lease : RunExecutionLease} {t : Option String}
    {db : Database} (h : assertExecutionLeaseTx env run lease t db = .ok ()) :
    ∃ c, (db.leaseTable lease.runId).current = some c ∧ c.owner = lease.owner ∧
      c.attempt = lease.attempt ∧ env.databaseNow < c.leaseUntil ∧
      lease.runId = run.runId ∧ (∀ t' ∈ t, t' = run.tripId) ∧
      ∃ row, db.runs.get? lease.runId = some row ∧ row.run.lifecycleState.isExecutable := by
  obtain ⟨hid, htrip, row, hrow, howner, hattempt, hexec, u, hu, hlive⟩ := assertExecutionLeaseTx_ok h
  rw [← hid] at hrow
  refine ⟨⟨lease.runId, lease.owner, row.attempt, u⟩, ?_, rfl, hattempt, hlive, hid, htrip, row, hrow, hexec⟩
  rw [leaseTable_some hrow]
  simp [RunRow.cell, RunRow.lease, howner, hu]

theorem leaseInterface : LeaseInterface postgresBackend LeaseOk Database.leaseTable where
  init_ok := ⟨@postgresStore_ok anyStep _ (.init rfl), fun r row h => by cases h⟩
  init := rfl
  exec_ok hok h :=
    ⟨postgresStore_step_ok hok.1 (postgresBackend_step h),
      (runRowChange (postgresBackend_step h)).leasesOk hok.2⟩
  step hok h := exec_leaseStep hok h
  fence {l s s' lease} hok hf hexec := by
    have hstored : ∀ {row}, s.runs.get? lease.runId = some row →
        postgresBackend.storedRun s lease.runId = some row.run := by
      intro row hrow
      simp [postgresBackend, hrow]
    cases hf with
    | mutateRun env p runId m x h =>
      obtain ⟨row, hrow, hfence, -⟩ := mutateRun_ok (postgresBackend_exec_ok hexec)
      simp only [checkFence, h] at hfence
      obtain ⟨c, hc, howner, hattempt, hlive, hid, -, row', hrow', hexec'⟩ := lease_current hfence
      have hkey : row.run.runId = runId := (hok.1.log _ _ _ (Database.log_eq_some.2 ⟨row, hrow, rfl, rfl⟩)).1
      exact ⟨c, hc, howner, hattempt, hlive, row'.run, hstored hrow', hexec', (hid.trans hkey).symm⟩
    | createArtifact env p c x h =>
      have hx : (createArtifact env p c).run s = .ok x s' := postgresBackend_exec_ok hexec
      simp only [createArtifact, transaction_ok, bind_ok, ask_ok, existsAndEq, true_and,
        and_assoc] at hx
      obtain ⟨_, hfence, -⟩ := hx
      simp only [checkArtifactFence, h] at hfence
      split at hfence
      · cases hfence
      · next run hread =>
        obtain ⟨cell, hc, howner, hattempt, hlive, -, htrip, row, hrow, hexec'⟩ := lease_current hfence
        obtain ⟨row', hrow', rfl, -⟩ := getRunTx_ok hread
        rw [hrow] at hrow'
        cases hrow'
        exact ⟨cell, hc, howner, hattempt, hlive, row.run, hstored hrow, hexec', htrip _ rfl⟩
  stale {l s s' lease} hok hp hexec hold := by
    -- the row that holds the presented lease would be the current one
    have hcur : ∀ {p row}, s.runs.get? lease.runId = some row → row.holds p lease = true → False := by
      intro p row hrow hholds
      obtain ⟨howner, hattempt⟩ := holds_columns hholds
      obtain ⟨u, hu⟩ : ∃ u, row.leaseUntil = some u := by
        rw [← Option.isSome_iff_exists, ← (hok.2 _ row hrow).paired, howner]; rfl
      refine hold ⟨lease.runId, lease.owner, row.attempt, u⟩ ?_ hattempt
      rw [leaseTable_some hrow]
      simp [RunRow.cell, RunRow.lease, howner, hu]
    cases hp with
    | renew env p duration r =>
      cases r with
      | error e => exact ⟨postgresBackend_exec_error hexec, rfl⟩
      | ok x =>
        obtain ⟨rfl, rfl⟩ | ⟨row, hrow, hholds, -⟩ :=
          renewRunExecution_ok (postgresBackend_exec_ok hexec)
        · exact ⟨rfl, rfl⟩
        · exact (hcur hrow hholds).elim
    | release env p r =>
      cases r with
      | error e => exact ⟨postgresBackend_exec_error hexec, rfl⟩
      | ok x =>
        obtain ⟨rfl, rfl⟩ | ⟨row, hrow, hholds, -⟩ :=
          releaseRunExecution_ok (postgresBackend_exec_ok hexec)
        · exact ⟨rfl, rfl⟩
        · exact (hcur hrow hholds).elim

end Postgres

/-- **Both stores fence their execution leases.** -/
theorem execution_leases_fenced : LeaseFencing memoryBackend ∧ LeaseFencing postgresBackend :=
  ⟨memoryBackend_leaseInterface.fencing, Postgres.leaseInterface.fencing⟩

end RoutePilot
