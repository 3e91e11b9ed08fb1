/-
  The events of a log: what each operation of a store appends, and what an
  event says of the lifecycle of its Run.

  Both stores are instances (`EventBackend`).  The state of a Run is the one its
  events announced last (`settled`), so a reader who has seen a later part of
  them only comes to the same state (`settled_drop`).
-/
import RoutePilot.Runtime.Writes
import RoutePilot.Spec.RunBackend

namespace RoutePilot

open Lib

/-! ## The operations -/

/-- The event a transition of `run` appends. -/
def RunMutation.event (env : Env) (m : RunMutation) (run : RunView) : RunEvent :=
  newEvent env (m.apply env run) (run.controlVersion + 1) m.eventType
    (m.eventData.set "control_version" (.int (run.controlVersion + 1 : ℕ))) run.traceId

/-- The event of a resumed Run. -/
def RunView.resumedEvent (env : Env) (run : RunView) : RunEvent :=
  newEvent env run run.controlVersion .runLifecycleChanged (resumedData run) run.traceId

/-- What an operation does to the log, with the event it appends. -/
inductive EventChange (env : Env) (o : StoreOp) (L L' : RunLog) : Prop
  | same (h : L' = L)
  | created {p : Principal} {c : RunCreation} {trip : TripView} (hop : o = .createRun p c)
      (hnone : L (env.newPublicId "run") = none)
      (h : L' = Function.update L (env.newPublicId "run")
        (some (newRun env p c trip, [acceptedEvent env (newRun env p c trip)])))
  | mutated {p : Principal} {runId : String} {m : RunMutation} {run : RunView} {events : List RunEvent}
      (hop : o = .mutateRun p runId m) (hrun : L runId = some (run, events))
      (h : L' = Function.update L runId (some (m.apply env run, events ++ [m.event env run])))
  | resumed {p : Principal} {runId : String} {r : RunResumption} {run : RunView} {events : List RunEvent}
      {values : Obj} (hop : o = .resumeRun p runId r) (hrun : L runId = some (run, events))
      (h : L' = Function.update L runId (some (run.resumed env r.requestId values,
        events ++ [(run.resumed env r.requestId values).resumedEvent env])))

/-- A store whose operations append these events. -/
structure EventBackend {σ ε : Type} {B : Backend σ ε} (R : RunBackend B) : Prop where
  change : ∀ env o s r s', R.Ok s → B.fresh env s → B.exec env o s r s' →
    EventChange (B.caller env) o (R.log s) (R.log s')
  init : R.Ok B.init
  empty : ∀ id, R.log B.init id = none

theorem memoryEvents : EventBackend memoryRuns where
  init := Store.logOk_empty
  empty _ := rfl
  change env o st r st' hok hfresh h := by
    have hchange : RunChange ⟨env, o⟩ st st' := by
      rw [memoryBackend_step h]
      exact StoreCall.runChange ⟨env, o⟩ st
    have hlength : ∀ {id run}, st.log id = some (run, st.events.getD id []) →
        (st.events.getD id []).length = run.controlVersion := fun hlog => (hok _ _ _ hlog).2.length
    cases hchange with
    | same h => exact .same (Store.log_congr h)
    | created hop h =>
      have hnone : st.runs.get? (env.newPublicId "run") = none := hfresh.2
      have hlog : st.log (env.newPublicId "run") = none := by rw [Store.log, hnone]; rfl
      exact .created hop hlog h.log
    | mutated hop h =>
      obtain ⟨rfl, hlog, hlog'⟩ := h.log hok
      refine .mutated hop hlog (hlog'.trans ?_)
      rw [transitionEvent, hlength hlog]
      rfl
    | @resumed p runId q run values hop h =>
      obtain ⟨rfl, hlog, hlog'⟩ := h.log hok
      refine @EventChange.resumed _ _ _ _ p _ q run _ values hop hlog (hlog'.trans ?_)
      rw [resumedEvent, RunView.resumed, hlength hlog]
      rfl

theorem postgresEvents : EventBackend postgresRuns where
  init := by
    refine ⟨fun id run events hlog => ?_, fun r hr => ?_⟩
    · cases hlog
    · cases hr
  empty _ := rfl
  change env o db r db' hok _ h := by
    have hkey : ∀ {id row}, db.runs.get? id = some row → row.run.runId = id := fun {id row} hrow =>
      (hok.log id row.run _ (Postgres.Database.log_eq_some.2 ⟨row, hrow, rfl, rfl⟩)).1
    have hread : ∀ {id row}, db.runs.get? id = some row → db.log id = some (row.run, db.runEvents id) :=
      fun {id row} hrow => Postgres.Database.log_eq_some.2 ⟨row, hrow, rfl, rfl⟩
    cases Postgres.runRowChange (postgresBackend_step h) with
    | same h =>
      have hr : db'.runs = db.runs := congrArg Prod.fst h
      have he : db'.events = db.events := congrArg Prod.snd h
      refine .same ?_
      funext k
      show db'.log k = db.log k
      rw [Postgres.Database.log, Postgres.Database.log, Postgres.Database.runEvents, Postgres.Database.runEvents,
        hr, he]
    | @created p c trip hop hnone hpart =>
      have hw : Postgres.Wrote db db' (env.newPublicId "run") { run := newRun env.toEnv p c trip } _ := ⟨hpart, rfl⟩
      have hlog := hw.log
      rw [hok.owned.runEvents_eq_nil hnone] at hlog
      have hrow : db.runs.get? (env.toEnv.newPublicId "run") = none := hnone
      have hnone : db.log (env.toEnv.newPublicId "run") = none := by rw [Postgres.Database.log, hrow]; rfl
      exact .created hop hnone hlog
    | @mutated p runId m row hop hrow _ _ hpart =>
      have hw : Postgres.Wrote db db' runId (Postgres.applyTx env m row) _ := ⟨hpart, hkey hrow⟩
      exact .mutated hop (hread hrow) hw.log
    | @resumed p runId r row values hop hrow _ hpart =>
      have hw : Postgres.Wrote db db' runId { row with run := row.run.resumed env.toEnv r.requestId values } _ :=
        ⟨hpart, hkey hrow⟩
      exact .resumed hop (hread hrow) hw.log
    | claimed _ hrow _ _ hpart => exact .same (Postgres.lease_log hpart hrow rfl).1
    | renewed _ hrow _ _ hpart => exact .same (Postgres.lease_log hpart hrow rfl).1
    | released _ hrow _ hpart => exact .same (Postgres.lease_log hpart hrow rfl).1

/-- A property of the Runs with their events, kept by an operation. -/
theorem EventChange.entries {env : Env} {o : StoreOp} {L L' : RunLog} (hchange : EventChange env o L L')
    {I : RunView → List RunEvent → Prop} (h : ∀ id run events, L id = some (run, events) → I run events)
    (hcreated : ∀ p c trip, o = .createRun p c → I (newRun env p c trip) [acceptedEvent env (newRun env p c trip)])
    (hmutated : ∀ p runId m run events, o = .mutateRun p runId m → L runId = some (run, events) →
      I (m.apply env run) (events ++ [m.event env run]))
    (hresumed : ∀ p runId r run events values, o = .resumeRun p runId r → L runId = some (run, events) →
      I (run.resumed env r.requestId values) (events ++ [(run.resumed env r.requestId values).resumedEvent env])) :
    ∀ id run events, L' id = some (run, events) → I run events := by
  have hupdate : ∀ {k : String} {x : RunView × List RunEvent}, L' = Function.update L k (some x) → I x.1 x.2 →
      ∀ id run events, L' id = some (run, events) → I run events := by
    intro k x he hx id run events hid
    rw [he, Function.update_apply] at hid
    split at hid
    · cases hid
      exact hx
    · exact h id run events hid
  cases hchange with
  | same he => rw [he]; exact h
  | created hop _ he => exact hupdate he (hcreated _ _ _ hop)
  | mutated hop hrun he => exact hupdate he (hmutated _ _ _ _ _ hop hrun)
  | resumed hop hrun he => exact hupdate he (hresumed _ _ _ _ _ _ hop hrun)

/-! ## The histories -/

section
variable (Label : String → Prop) (Made : ArtifactView → Prop)

/-- A Run with its events: it is created, moved by the transitions of coordinators, and resumed. -/
inductive RunHistory : RunView → List RunEvent → Prop
  | accepted (env : Env) (p : Principal) (c : RunCreation) (trip : TripView) :
    RunHistory (newRun env p c trip) [acceptedEvent env (newRun env p c trip)]
  | moved (env : Env) {m : RunMutation} {run : RunView} {events : List RunEvent} (h : RunHistory run events)
      (hm : Announcement Label Made m.eventType m.lifecycleState m.eventData) :
    RunHistory (m.apply env run) (events ++ [m.event env run])
  | resumed (env : Env) (requestId : String) (values : Obj) {run : RunView} {events : List RunEvent}
      (h : RunHistory run events) :
    RunHistory (run.resumed env requestId values) (events ++ [(run.resumed env requestId values).resumedEvent env])

/-- Every Run of a log has such a history. -/
def RunLog.AllHistories (L : RunLog) : Prop :=
  ∀ id run events, L id = some (run, events) → RunHistory Label Made run events

end

section
variable {Label : String → Prop} {Made : ArtifactView → Prop}

/-- **Step lemma.** -/
theorem EventChange.allHistories {env : Env} {o : StoreOp} {L L' : RunLog} (hchange : EventChange env o L L')
    (hw : Writes Label Made (.store o)) (h : L.AllHistories Label Made) : L'.AllHistories Label Made := by
  refine hchange.entries (I := RunHistory Label Made) h (fun p c trip _ => .accepted env p c trip) ?_ ?_
  · rintro p runId m run events rfl hrun
    exact .moved env (h _ _ _ hrun) hw
  · rintro p runId r run events values - hrun
    exact .resumed env r.requestId values (h _ _ _ hrun)

end

/-- What identifies a Run, and whom it belongs to. -/
def RunView.identity (run : RunView) : String × String × String × String × String :=
  (run.runId, run.tripId, run.tenantId, run.actorId, run.traceId)

/-- The events of a Run only grow, and it stays the same Run. -/
theorem EventChange.grows {env : Env} {o : StoreOp} {L L' : RunLog} (hchange : EventChange env o L L') {id : String}
    {run : RunView} {events : List RunEvent} (hrun : L id = some (run, events)) :
    ∃ run' events', L' id = some (run', events') ∧ events <+: events' ∧ run'.identity = run.identity := by
  have hupdate : ∀ {k : String} {run₀ : RunView} {events₀ : List RunEvent} {run₁ : RunView} {e : RunEvent},
      L k = some (run₀, events₀) → L' = Function.update L k (some (run₁, events₀ ++ [e])) →
      run₁.identity = run₀.identity →
      ∃ run' events', L' id = some (run', events') ∧ events <+: events' ∧ run'.identity = run.identity := by
    intro k run₀ events₀ run₁ e hk he hidentity
    by_cases hid : id = k
    · subst hid
      rw [hrun] at hk
      cases hk
      exact ⟨_, _, by rw [he, Function.update_self], List.prefix_append _ _, hidentity⟩
    · exact ⟨run, events, by rw [he, Function.update_of_ne hid]; exact hrun, List.prefix_refl _, rfl⟩
  cases hchange with
  | same he => exact ⟨run, events, by rw [he]; exact hrun, List.prefix_refl _, rfl⟩
  | created _ hnone he =>
    have hid : id ≠ env.newPublicId "run" := by
      rintro rfl
      rw [hrun] at hnone
      cases hnone
    exact ⟨run, events, by rw [he, Function.update_of_ne hid]; exact hrun, List.prefix_refl _, rfl⟩
  | mutated _ hk he => exact hupdate hk he rfl
  | resumed _ hk he => exact hupdate hk he rfl

/-! ## The runtime -/

section
variable {σ ε : Type} {B : Backend σ ε}

/-- Anyone calls the coordinators and the workers; the store is used otherwise by operations that write no Runs. -/
def servedClients : RtLabel ε → Prop
  | .store l => l.op.writesLog = false
  | _ => True

/-- The coordinators and the workers over an empty store. -/
def served (B : Backend σ ε) (D : Deployment) : Lts (World σ) (RtLabel ε) :=
  runtimeSystem B D (fun w => w = { store := B.init }) servedClients

section
variable (R : RunBackend B) (Label : String → Prop) (Made : ArtifactView → Prop)
  (Answered : ArtifactCreation → ArtifactView → Prop)

/-- A logic in which the transitions write what is announced. -/
def announcingPool : PoolLogic R.Ok where
  exec _ o _ r _ := Answers Answered (.store o) r
  rely _ _ _ := True
  guar _ _ o _ := Writes Label Made (.store o)
  pre _ _ := True
  post _ _ _ := True
  rely_refl _ _ := trivial
  rely_trans _ _ _ _ _ _ := trivial

end

variable {R : RunBackend B} {D : Deployment} {Label : String → Prop} {Made : ArtifactView → Prop}
  {Answered : ArtifactCreation → ArtifactView → Prop}

/-- A coroutine that announces meets the logic of its call. -/
theorem Announcing.wp {Q : Reply → Prop} {x : Async Reply} (h : Announcing Label Made Answered x Q) (call : Call)
    (s : View R.Ok) : Wp ((announcingPool R Label Made Answered).logic call) x (fun _ _ => True) s := by
  have hx : x.Within (Writes Label Made) (Answers Answered) Q := h
  refine Wp.of_within ?_ ?_ ?_ ?_ hx
  · intro s o s' ho
    cases o with
    | store o => exact ho
    | _ => trivial
  · intro o s r s' hx
    cases o with
    | store o => exact hx.1
    | _ => trivial
  · intro o e
    cases o with
    | store o => cases o <;> trivial
    | _ => trivial
  · intro n s
    cases n with
    | createTask => trivial
    | addDoneCallback => exact fun _ => trivial
    | _ => trivial

theorem announcingPool_sound (hD : ∀ c, (D.coordinator c).Supplies Label Made Answered)
    (hans : ∀ env p c s a s', B.exec env (.createArtifact p c) s (.ok a) s' → Answered c a) :
    PoolSound (announcingPool R Label Made Answered) B D (fun _ _ _ _ => True) servedClients where
  exec call o env s r s' _ hfresh hx := by
    refine ⟨R.keep env o s.1 r s' s.2 hfresh hx, ?_⟩
    show Answers Answered (.store o) _
    cases r with
    | error e => cases o <;> trivial
    | ok a =>
      cases o with
      | createArtifact p c => exact hans env p c _ a _ hx
      | _ => trivial
  guar_rely _ _ _ _ _ _ := trivial
  others l s s' _ hfresh hx := ⟨R.keep l.env l.op s.1 l.result s' s.2 hfresh hx, fun _ => trivial⟩
  program call s _ := (call.announcing hD).wp call s
  round call s _ := ⟨by cases call <;> rfl, call.round_announcing.wp call s⟩
  post_stable _ _ _ _ _ _ := trivial
  requests _ _ _ := trivial

/-- What a step does to the store: nothing, or what an operation does that writes what is announced. -/
theorem served_store (hD : ∀ c, (D.coordinator c).Supplies Label Made Answered)
    (hans : ∀ env p c s a s', B.exec env (.createArtifact p c) s (.ok a) s' → Answered c a) {w w' : World σ}
    {l : RtLabel ε} (hw : PoolOk (announcingPool R Label Made Answered) w) (hs : (served B D).step w l w') :
    PoolOk (announcingPool R Label Made Answered) w' ∧ (w'.store = w.store ∨ ∃ env o r,
      Writes Label Made (.store o) ∧ B.fresh env w.store ∧ B.exec env o w.store r w'.store) := by
  have hA : awaitsMeet (fun _ (_ : ε) (_ : σ) _ => True) w l := by
    cases l with
    | run => exact fun _ _ _ _ _ => trivial
    | _ => trivial
  obtain ⟨hpool, hmove⟩ := (announcingPool_sound hD hans).step hw hA hs.1 hs.2
  refine ⟨hpool, ?_⟩
  cases hmove with
  | still h => exact .inl h
  | @own i env t o k r hok hok' ht hprog hx hguar =>
    obtain ⟨t₀, o₀, k₀, r₀, w₁, ht₀, hprog₀, -, hcomp, -⟩ := hs.2
    rw [ht] at ht₀
    cases ht₀
    rw [hprog] at hprog₀
    cases hprog₀
    exact .inr ⟨env, o, r, hguar, hcomp.1, hx⟩
  | @other l hok hok' hrely =>
    obtain ⟨hfresh, hx, -⟩ := hs.2
    refine .inr ⟨l.env, l.op, l.result, ?_, hfresh, hx⟩
    have hclient : l.op.writesLog = false := hs.1
    cases hop : l.op with
    | mutateRun =>
      rw [hop] at hclient
      cases hclient
    | _ => trivial

theorem served_poolOk (E : EventBackend R) (hD : ∀ c, (D.coordinator c).Supplies Label Made Answered)
    (hans : ∀ env p c s a s', B.exec env (.createArtifact p c) s (.ok a) s' → Answered c a) {w : World σ}
    (h : (served B D).Reach anyStep w) : PoolOk (announcingPool R Label Made Answered) w := by
  refine h.invariant (I := PoolOk (announcingPool R Label Made Answered)) ?_
    fun w l w' _ hw _ hs => (served_store hD hans hw hs).1
  rintro w rfl
  exact ⟨E.init, fun t ht => absurd ht List.not_mem_nil⟩

/-- **Run lemma.**  What every operation of the coordinators and their clients keeps holds of every reachable store. -/
theorem served_invariant (E : EventBackend R) (hD : ∀ c, (D.coordinator c).Supplies Label Made Answered)
    (hans : ∀ env p c s a s', B.exec env (.createArtifact p c) s (.ok a) s' → Answered c a) {I : σ → Prop}
    (hinit : I B.init) (hstep : ∀ env o s r s', R.Ok s → B.fresh env s → Writes Label Made (.store o) →
      B.exec env o s r s' → I s → I s') {w : World σ} (h : (served B D).Reach anyStep w) : I w.store := by
  refine h.invariant (I := fun w => I w.store) ?_ fun w l w' hreach hw _ hs => ?_
  · rintro w rfl
    exact hinit
  · have hpool := served_poolOk E hD hans hreach
    rcases (served_store hD hans hpool hs).2 with hsame | ⟨env, o, r, hwrites, hfresh, hx⟩
    · rw [hsame]
      exact hw
    · exact hstep env o _ r _ hpool.1 hfresh hwrites hx hw

/-- Every Run of a reachable world has its history. -/
theorem served_allHistories (E : EventBackend R) (hD : ∀ c, (D.coordinator c).Supplies Label Made Answered)
    (hans : ∀ env p c s a s', B.exec env (.createArtifact p c) s (.ok a) s' → Answered c a) {w : World σ}
    (h : (served B D).Reach anyStep w) : (R.log w.store).AllHistories Label Made := by
  refine served_invariant E hD hans (I := fun s => (R.log s).AllHistories Label Made) (fun id run events hid => ?_)
    (fun env o s r s' hok hfresh hwrites hx hs => ?_) h
  · rw [E.empty] at hid
    cases hid
  · exact (E.change env o s r s' hok hfresh hx).allHistories hwrites hs

theorem served_grows (E : EventBackend R) (hD : ∀ c, (D.coordinator c).Supplies Label Made Answered)
    (hans : ∀ env p c s a s', B.exec env (.createArtifact p c) s (.ok a) s' → Answered c a) {w w' : World σ}
    (h : (served B D).Reach anyStep w) (hsteps : (served B D).Steps anyStep w w') {id : String} {run : RunView}
    {events : List RunEvent} (hrun : R.log w.store id = some (run, events)) :
    ∃ run' events', R.log w'.store id = some (run', events') ∧ events <+: events' ∧ run'.identity = run.identity := by
  induction hsteps with
  | refl => exact ⟨run, events, hrun, List.prefix_refl _, rfl⟩
  | @tail w₁ w₂ hsteps hstep ih =>
    obtain ⟨l, -, hs⟩ := hstep
    obtain ⟨run₁, events₁, hrun₁, hprefix₁, hid₁⟩ := ih
    have hpool := served_poolOk E hD hans (h.steps hsteps)
    rcases (served_store hD hans hpool hs).2 with hsame | ⟨env, o, r, -, hfresh, hx⟩
    · exact ⟨run₁, events₁, by rw [hsame]; exact hrun₁, hprefix₁, hid₁⟩
    · obtain ⟨run₂, events₂, hrun₂, hprefix₂, hid₂⟩ := (E.change env o _ r _ hpool.1 hfresh hx).grows hrun₁
      exact ⟨run₂, events₂, hrun₂, hprefix₁.trans hprefix₂, hid₂.trans hid₁⟩

end

/-! ## The lifecycle -/

/-- `RunLifecycle(value)`. -/
def RunLifecycle.ofValue? (value : String) : Option RunLifecycle :=
  [.queued, .running, .waitingInput, .cancelRequested, .completed, .failed, .canceled].find? (·.value == value)

theorem RunLifecycle.ofValue?_value (l : RunLifecycle) : ofValue? l.value = some l := by cases l <;> decide

/-- The state that an event of a type announces. -/
def announced (type : EventType) (data : Obj) : Option RunLifecycle :=
  match type with
  | .runAccepted => some .queued
  | .runLifecycleChanged => ((data.get? "lifecycle_state").bind Json.asStr?).bind RunLifecycle.ofValue?
  | .inputRequired => some .waitingInput
  | .runCompleted => some .completed
  | .runFailed => some .failed
  | .runCanceled => some .canceled
  | _ => none

/-- The state an event moves its Run to. -/
def RunEvent.announces (e : RunEvent) : Option RunLifecycle := announced e.type e.data

theorem announced_changed {data : Obj} {l : RunLifecycle} (h : data.get? "lifecycle_state" = some (.str l.value)) :
    announced .runLifecycleChanged data = some l := by
  show ((data.get? "lifecycle_state").bind Json.asStr?).bind RunLifecycle.ofValue? = some l
  rw [h]
  exact l.ofValue?_value

/-- The state after some events. -/
def settled (l : RunLifecycle) (events : List RunEvent) : RunLifecycle :=
  events.foldl (fun l e => e.announces.getD l) l

@[simp] theorem settled_nil (l : RunLifecycle) : settled l [] = l := rfl

@[simp] theorem settled_cons (l : RunLifecycle) (e : RunEvent) (events : List RunEvent) :
    settled l (e :: events) = settled (e.announces.getD l) events := rfl

theorem settled_append (l : RunLifecycle) (events events' : List RunEvent) :
    settled l (events ++ events') = settled (settled l events) events' := List.foldl_append

theorem settled_of_none {events : List RunEvent} (h : ∀ e ∈ events, e.announces = none) (l : RunLifecycle) :
    settled l events = l := by
  induction events with
  | nil => rfl
  | cons e events ih =>
    rw [List.forall_mem_cons] at h
    rw [settled_cons, h.1]
    exact ih h.2

/-- Events that announce nothing leave every state, others forget it. -/
theorem settled_cases (events : List RunEvent) :
    (∀ e ∈ events, e.announces = none) ∨ ∀ l l', settled l events = settled l' events := by
  induction events with
  | nil => exact .inl (List.forall_mem_nil _)
  | cons e events ih =>
    cases he : e.announces with
    | none =>
      rcases ih with hnone | hforget
      · exact .inl (List.forall_mem_cons.2 ⟨he, hnone⟩)
      · exact .inr fun l l' => hforget _ _
    | some l₀ => exact .inr fun l l' => by simp [he]

/-- **Older events again.**  Whoever has the state after a part of the events, and goes over them again from an earlier
    one on, comes to the state after all of them. -/
theorem settled_drop (l : RunLifecycle) (events : List RunEvent) {c v : ℕ} (hc : c ≤ v) :
    settled (settled l (events.take v)) (events.drop c) = settled l events := by
  have hall : settled l events = settled (settled l (events.take c)) (events.drop c) := by
    rw [← settled_append, List.take_append_drop]
  rw [hall]
  rcases settled_cases (events.drop c) with hnone | hforget
  · -- nothing is announced from `c` on, so not between `c` and `v` either
    rw [settled_of_none hnone, settled_of_none hnone, ← Nat.add_sub_cancel' hc, List.take_add, settled_append]
    exact settled_of_none (fun e he => hnone e (List.mem_of_mem_take he)) _
  · exact hforget _ _

/-- The event that announced the state, with none after it. -/
theorem settled_last {l l' : RunLifecycle} {events : List RunEvent} (hsome : ∃ e ∈ events, e.announces ≠ none)
    (h : settled l events = l') :
    ∃ k e, events[k]? = some e ∧ e.announces = some l' ∧ ∀ e' ∈ events.drop (k + 1), e'.announces = none := by
  induction events generalizing l with
  | nil =>
    obtain ⟨e, he, -⟩ := hsome
    cases he
  | cons e events ih =>
    by_cases hrest : ∃ e ∈ events, e.announces ≠ none
    · obtain ⟨k, e', hk, he', hafter⟩ := ih hrest h
      exact ⟨k + 1, e', hk, he', hafter⟩
    · have hnone : ∀ e' ∈ events, e'.announces = none := fun e' he' => by_contra fun hne => hrest ⟨e', he', hne⟩
      rw [settled_cons, settled_of_none hnone] at h
      obtain ⟨e', he', hne⟩ := hsome
      rcases List.mem_cons.1 he' with rfl | he'
      · refine ⟨0, e', rfl, ?_, hnone⟩
        cases heq : e'.announces with
        | none => exact absurd heq hne
        | some l₀ =>
          rw [heq] at h
          exact congrArg some h
      · exact absurd (hnone e' he') hne

/-! ## What is read of an event -/

/-- What a reader of an event may rely on; the events of a Run have no other types. -/
structure RunEvent.Readable (e : RunEvent) : Prop where
  schemaVersion : e.schemaVersion = 1
  audience : e.audience = "trip_members"
  type : e.type ∉ [.agentActivity, .citationAdded, .riskDetected, .approvalRequired, .heartbeat]
  changed : e.type = .runLifecycleChanged →
    ∃ l : RunLifecycle, e.data.get? "lifecycle_state" = some (.str l.value) ∧
      (l = .queued ∨ l = .running ∨ l = .cancelRequested)

section
variable {Label : String → Prop} {Made : ArtifactView → Prop}

theorem Announcement.announced {type : EventType} {next : Option RunLifecycle} {data : Obj}
    (h : Announcement Label Made type next data) (version : Json) :
    announced type (data.set "control_version" version) = next := by
  cases h with
  | changed previous hnext hreason =>
    refine announced_changed ?_
    rw [Obj.get?_set_ne _ (by decide)]
    rfl
  | _ => rfl

/-- No transition queues its Run. -/
theorem Announcement.not_queued {type : EventType} {next : Option RunLifecycle} {data : Obj}
    (h : Announcement Label Made type next data) : next ≠ some .queued := by
  cases h with
  | changed previous hnext hreason =>
    rintro ⟨⟩
    rcases hnext with h | h <;> cases h
  | _ => rintro ⟨⟩

theorem RunMutation.event_readable {m : RunMutation} {run : RunView} (env : Env)
    (h : Announcement Label Made m.eventType m.lifecycleState m.eventData) : (m.event env run).Readable where
  schemaVersion := rfl
  audience := rfl
  type := by
    show m.eventType ∉ _
    generalize m.eventType = type, m.lifecycleState = next, m.eventData = data at h
    cases h <;> decide
  changed := by
    show m.eventType = _ → ∃ l : RunLifecycle, (m.eventData.set "control_version" _).get? _ = _ ∧ _
    generalize m.eventType = type, m.lifecycleState = next, m.eventData = data at h
    intro htype
    rw [Obj.get?_set_ne _ (by decide)]
    cases h with
    | @changed previous next reason hnext hreason => exact ⟨next, rfl, .inr hnext⟩
    | _ => cases htype

theorem RunHistory.readable {run : RunView} {events : List RunEvent} (h : RunHistory Label Made run events) :
    ∀ e ∈ events, e.Readable ∧ e.runId = run.runId := by
  induction h with
  | accepted env p c trip =>
    intro e he
    rw [List.mem_singleton] at he
    subst he
    exact ⟨⟨rfl, rfl, by show EventType.runAccepted ∉ _; decide, fun htype => by cases htype⟩, rfl⟩
  | moved env h hm ih =>
    intro e he
    rcases List.mem_append.1 he with he | he
    · exact ih e he
    · rw [List.mem_singleton] at he
      subst he
      exact ⟨RunMutation.event_readable env hm, rfl⟩
  | resumed env requestId values h ih =>
    intro e he
    rcases List.mem_append.1 he with he | he
    · exact ih e he
    · rw [List.mem_singleton] at he
      subst he
      exact ⟨⟨rfl, rfl, by show EventType.runLifecycleChanged ∉ _; decide, fun _ => ⟨.queued, rfl, .inl rfl⟩⟩, rfl⟩

/-- A Run is accepted first. -/
theorem RunHistory.accepted_first {run : RunView} {events : List RunEvent} (h : RunHistory Label Made run events) :
    ∃ e ∈ events, e.announces ≠ none := by
  induction h with
  | accepted env p c trip => exact ⟨_, List.mem_singleton_self _, by rintro ⟨⟩⟩
  | moved env h hm ih | resumed env requestId values h ih =>
    obtain ⟨e, he, hne⟩ := ih
    exact ⟨e, List.mem_append_left _ he, hne⟩

/-- **The state of a Run is the one its events announced last.** -/
theorem RunHistory.lifecycleState {run : RunView} {events : List RunEvent} (h : RunHistory Label Made run events) :
    run.lifecycleState = settled .queued events := by
  induction h with
  | accepted env p c trip => rfl
  | @moved env m run events h hm ih =>
    rw [settled_append, ← ih]
    show m.lifecycleState.getD run.lifecycleState = (m.event env run).announces.getD run.lifecycleState
    exact congrArg (·.getD run.lifecycleState) (hm.announced _).symm
  | resumed env requestId values h ih =>
    rw [settled_append]
    rfl

end

/-! ## Any executor -/

/-- Nothing is asked of an executor. -/
theorem Script.reports_any : ∀ x : Script, x.Reports fun _ => True
  | .done _ => trivial
  | .raise _ => trivial
  | .progress _ _ _ k => ⟨trivial, fun r => (k r).reports_any⟩
  | .external k => fun r => (k r).reports_any

theorem Coordinator.supplies_any (X : Coordinator) : X.Supplies (fun _ => True) (fun _ => True) fun _ _ => True where
  reports _ _ := Script.reports_any _
  yields _ _ := Script.yields_of_forall (fun _ _ _ _ _ => trivial) _

section
variable {σ ε : Type} {B : Backend σ ε} {R : RunBackend B} {D : Deployment}

/-- The histories of the Runs, whatever the executors do. -/
abbrev AnyHistory : RunView → List RunEvent → Prop := RunHistory (fun _ => True) fun _ => True

theorem served_history (E : EventBackend R) {w : World σ} (h : (served B D).Reach anyStep w) {id : String}
    {run : RunView} {events : List RunEvent} (hrun : R.log w.store id = some (run, events)) : AnyHistory run events :=
  served_allHistories E (fun c => (D.coordinator c).supplies_any) (fun _ _ _ _ _ _ _ => trivial) h _ _ _ hrun

theorem served_ok (E : EventBackend R) {w : World σ} (h : (served B D).Reach anyStep w) : R.Ok w.store := by
  have hpool : PoolOk (announcingPool R (fun _ => True) (fun _ => True) fun _ _ => True) w :=
    served_poolOk E (fun c => (D.coordinator c).supplies_any) (fun _ _ _ _ _ _ _ => trivial) h
  exact hpool.1

theorem served_logOk (E : EventBackend R) {w : World σ} (h : (served B D).Reach anyStep w) : LogOk (R.log w.store) :=
  R.logOk _ (served_ok E h)

end

end RoutePilot
