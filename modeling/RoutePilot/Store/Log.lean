/-
  The in-memory store as a log of Runs: every call is a step of `RunLog`, with
  the events numbered by the length of their list.
-/
import RoutePilot.Spec.RunLog
import RoutePilot.Store.RunSpecs

namespace RoutePilot

open Lib

/-- The Runs of the in-memory store, with their events. -/
def Store.log (st : Store) : RunLog :=
  fun id => (st.runs.get? id).map fun run => (run, st.events.getD id [])

theorem Store.log_eq_some {st : Store} {id : String} {run : RunView} {events : List RunEvent} :
    st.log id = some (run, events) ↔ st.runs.get? id = some run ∧ st.events.getD id [] = events := by
  simp only [log, Option.map_eq_some_iff, Prod.mk.injEq, existsAndEq, true_and]

/-- Writing a Run and its events is one update of the log. -/
theorem Store.log_set {st st' : Store} {id : String} {run : RunView} {events : List RunEvent}
    (hruns : st'.runs = st.runs.set id run)
    (hevents : ∀ k, st'.events.get? k = if k = id then some events else st.events.get? k) :
    st'.log = Function.update st.log id (some (run, events)) := by
  funext k
  rw [Function.update_apply, log, hruns, Dict.get?_set, Dict.getD, hevents]
  by_cases hk : k = id
  · simp [hk]
  · simp [hk, log, Dict.getD]

theorem transitionEvent_dataVersion (env : Env) (m : RunMutation) (run : RunView) (st : Store) :
    (transitionEvent env m run st).dataVersion = some (.int (run.controlVersion + 1 : ℕ)) :=
  Obj.get?_set_self ..

theorem Created.log {env : Env} {p : Principal} {r : RunCreation} {trip : TripView} {st st' : Store}
    (h : Created env p r trip st st') :
    st'.log = Function.update st.log (env.newPublicId "run")
      (some (newRun env p r trip, [acceptedEvent env (newRun env p r trip)])) := by
  refine Store.log_set ?_ fun k => ?_
  · rw [h.final]
  · rw [h.final]
    rw [Dict.get?_set, Dict.get?_set]
    by_cases hk : k = env.newPublicId "run" <;> simp [hk]

/-- The log entry a transition reads, and the one it writes. -/
theorem Mutated.log {env : Env} {p : Principal} {runId : String} {m : RunMutation} {run : RunView}
    {st st₁ st' : Store} (h : Mutated env p runId m run st st₁ st') (hok : LogOk st.log) :
    run.runId = runId ∧ st.log runId = some (run, st.events.getD runId []) ∧
      st'.log = Function.update st.log runId
        (some (m.apply env run, st.events.getD runId [] ++ [transitionEvent env m run st])) := by
  obtain ⟨hget, -⟩ := runLocked_ok h.read
  have hlog : st.log runId = some (run, st.events.getD runId []) := Store.log_eq_some.2 ⟨hget, rfl⟩
  obtain ⟨rfl, -⟩ := hok _ _ _ hlog
  have hruns : st₁.runs = st.runs := by
    have := publish_keeps (f := Store.runs) (fun _ _ _ => rfl) env p run m.resultArtifact st
    rwa [h.publish] at this
  refine ⟨rfl, hlog, Store.log_set ?_ fun k => ?_⟩
  · rw [h.final, ← hruns]; rfl
  · rw [h.final]
    exact Dict.get?_set ..

/-- The log entry a resumption reads, and the one it writes. -/
theorem Resumed.log {env : Env} {p : Principal} {runId : String} {r : RunResumption} {run : RunView}
    {values : Obj} {st st' : Store} (h : Resumed env p runId r run values st st')
    (hok : LogOk st.log) :
    run.runId = runId ∧ st.log runId = some (run, st.events.getD runId []) ∧
      st'.log = Function.update st.log runId (some (run.resumed env r.requestId values,
        st.events.getD runId [] ++ [resumedEvent env (run.resumed env r.requestId values) st])) := by
  obtain ⟨hget, -⟩ := runLocked_ok h.read
  have hlog : st.log runId = some (run, st.events.getD runId []) := Store.log_eq_some.2 ⟨hget, rfl⟩
  obtain ⟨rfl, -⟩ := hok _ _ _ hlog
  refine ⟨rfl, hlog, Store.log_set ?_ fun k => ?_⟩
  · rw [h.final]
  · rw [h.final]
    exact Dict.get?_set ..

theorem Store.log_congr {st st' : Store} (h : st'.runLog = st.runLog) : st'.log = st.log := by
  have hr : st'.runs = st.runs := congrArg Prod.fst h
  have he : st'.events = st.events := congrArg Prod.snd h
  funext k
  rw [Store.log, Store.log, hr, he]

/-- Every call is a step of the log. -/
theorem RunChange.logStep {c : StoreCall} {st st' : Store} (h : RunChange c st st')
    (hok : LogOk st.log) : LogStep byLength st.log st'.log := by
  cases h with
  | same h => exact .same (Store.log_congr h)
  | @created p r trip hop h =>
    exact .accepted (newRun c.env p r trip) (acceptedEvent c.env (newRun c.env p r trip)) rfl rfl
      rfl rfl h.log
  | @mutated p runId m run st₁ hop h =>
    obtain ⟨rfl, hlog, hlog'⟩ := h.log hok
    exact .appended run (m.apply c.env run) _ (transitionEvent c.env m run st) hlog rfl rfl rfl
      (transitionEvent_dataVersion ..) hlog'
  | @resumed p runId r run values hop h =>
    obtain ⟨rfl, hlog, hlog'⟩ := h.log hok
    exact .appended run (run.resumed c.env r.requestId values) _
      (resumedEvent c.env (run.resumed c.env r.requestId values) st) hlog rfl rfl rfl rfl hlog'

theorem Store.logOk_empty : LogOk ({} : Store).log := by
  intro id run events hlog
  cases hlog

/-- **Every Run of a reachable in-memory store has numbered events.** -/
theorem memoryStore_logOk {ok : Store → StoreCall → Prop} {st : Store}
    (h : memoryStore.Reach ok st) : LogOk st.log := by
  refine h.invariant (I := fun st => LogOk st.log) ?_ ?_
  · intro st hst
    rw [show st = {} from hst]
    exact Store.logOk_empty
  · intro st c st' _ hok _ hs
    rw [show st' = c.next st from hs]
    refine ((c.runChange st).logStep hok).logOk (fun run events hn => ?_) hok
    rw [byLength, hn.length]

end RoutePilot
