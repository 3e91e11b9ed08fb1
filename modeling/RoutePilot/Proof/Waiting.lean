/-
  Waiting Runs carry their question, and only waiting Runs accept answers, in
  the in-memory store under any number of coordinators.

  `mutate_run` can set a request but never clear one, so the invariant rests on
  the moves of the coordinators (`waitingDiscipline`): a Run waits only when an
  execution asks, and it leaves that state by a resumption, which clears the
  request, or towards a terminal state.  A resumed Run has its input, so its
  next execution does not ask again (`needsInput`).
-/
import RoutePilot.Proof.Idempotency
import RoutePilot.Proof.Lease
import RoutePilot.Proof.Terminal

namespace RoutePilot

open Lib Lts

/-! ## The invariant of a Run -/

/-- A waiting Run has a request, which it needs; one that is queued, running or completed has none. -/
structure RunView.RequestOk (run : RunView) : Prop where
  waiting : run.lifecycleState = .waitingInput → run.pendingInput.isSome ∧ needsInput run
  clear : run.lifecycleState = .queued ∨ run.lifecycleState = .running ∨
    run.lifecycleState = .completed → run.pendingInput = none

/-- The moves of the coordinators, with cancellations from any state. -/
def RunLifecycle.MovesOrCancels (l l' : RunLifecycle) : Prop := l.Moves l' ∨ l' = .cancelRequested

theorem RunLifecycle.MovesOrCancels.source {l l' : RunLifecycle} (h : l.MovesOrCancels l') :
    (l' = .running → l = .queued ∨ l = .running) ∧ (l' = .completed → l = .running) := by
  rcases h with ⟨hlive, rfl | hchange⟩ | rfl
  · refine ⟨fun h => .inr h, fun h => ?_⟩
    rw [h] at hlive; cases hlive
  · refine ⟨fun h => ?_, fun h => ?_⟩
    · rw [h] at hchange
      cases l <;> first | exact .inl rfl | exact .inr rfl | cases hchange
    · rw [h] at hchange
      cases l <;> first | rfl | cases hchange
  · exact ⟨nofun, nofun⟩

/-- A transition of a coordinator keeps the invariant of its Run. -/
theorem RunView.RequestOk.apply {run : RunView} (h : run.RequestOk) (env : Env) {m : RunMutation}
    {L : RunLog} {runId : String} {events : List RunEvent} (hask : m.Asks L runId)
    (hL : L runId = some (run, events)) (hversion : run.controlVersion = m.expectedControlVersion)
    (hmove : run.lifecycleState.MovesOrCancels (m.apply env run).lifecycleState) :
    (m.apply env run).RequestOk := by
  obtain ⟨hq, hiff, hneeds⟩ := hask
  cases hp : m.pendingInput with
  | some pending =>
    -- it asks, so it makes the Run wait
    have hl : m.lifecycleState = some .waitingInput := hiff.1 (by rw [hp]; rfl)
    have hl' : (m.apply env run).lifecycleState = .waitingInput := by simp [RunMutation.apply, hl]
    refine ⟨fun _ => ⟨by simp [RunMutation.apply, hp], ?_⟩, fun hno => ?_⟩
    · exact hneeds run events hL hversion (by rw [hp]; rfl)
    · rw [hl'] at hno
      rcases hno with hno | hno | hno <;> cases hno
  | none =>
    have hkept : (m.apply env run).pendingInput = run.pendingInput := by
      simp [RunMutation.apply, hp]
    cases hl : m.lifecycleState with
    | none =>
      have hl' : (m.apply env run).lifecycleState = run.lifecycleState := by
        simp [RunMutation.apply, hl]
      refine ⟨fun hw => ?_, fun hc => ?_⟩
      · rw [hl'] at hw
        rw [hkept]
        exact h.waiting hw
      · rw [hl'] at hc
        rw [hkept]
        exact h.clear hc
    | some l =>
      have hl' : (m.apply env run).lifecycleState = l := by simp [RunMutation.apply, hl]
      have hnw : l ≠ .waitingInput := by
        rintro rfl
        have := hiff.2 hl
        rw [hp] at this; cases this
      have hnq : l ≠ .queued := by
        rintro rfl
        exact hq hl
      obtain ⟨hrunning, hcompleted⟩ := hmove.source
      rw [hl'] at hrunning hcompleted
      refine ⟨fun hw => absurd (hl'.symm.trans hw) hnw, fun hc => ?_⟩
      rw [hl'] at hc
      rw [hkept]
      rcases hc with hc | hc | hc
      · exact absurd hc hnq
      · rcases hrunning hc with hr | hr
        · exact h.clear (.inl hr)
        · exact h.clear (.inr (.inl hr))
      · exact h.clear (.inr (.inl (hcompleted hc)))

/-- All Runs of a log. -/
def RunLog.RequestsOk (L : RunLog) : Prop := ∀ id run events, L id = some (run, events) → run.RequestOk

/-- **Step lemma.**  What an operation keeps, if its transitions are those of coordinators. -/
theorem RunLog.RequestsOk.step {L L' : RunLog} {o : StoreOp} {r : Except StoreError o.Ans}
    (h : L.RequestsOk) (hchange : LogChange L L' o r)
    (hask : ∀ p runId m, o = .mutateRun p runId m → m.Asks L runId)
    (hmove : ∀ id run events run' events', L id = some (run, events) → L' id = some (run', events') →
      run' = run ∧ events' = events ∨ run.lifecycleState.MovesOrCancels run'.lifecycleState) :
    L'.RequestsOk := by
  have hsame : L' = L → L'.RequestsOk := fun he => he ▸ h
  have hupdate : ∀ {id : String} {x : RunView × List RunEvent},
      L' = Function.update L id (some x) → x.1.RequestOk → L'.RequestsOk := by
    intro id x he hx k run events hk
    rw [he, Function.update_apply] at hk
    split at hk
    · cases hk; exact hx
    · exact h k run events hk
  cases r with
  | error e => exact hsame hchange.error
  | ok x =>
    by_cases hw : o.writesLog = true
    · cases o with
      | createRun p c =>
        obtain ⟨-, he⟩ | ⟨-, -, ⟨env, trip, hx⟩, e, he⟩ := hchange.createRun
        · exact hsame he
        · refine hupdate he ?_
          rw [hx]
          exact ⟨nofun, fun _ => rfl⟩
      | mutateRun p runId m =>
        obtain ⟨run, events, e, hL, hv, ⟨env, hx⟩, he⟩ := hchange.mutateRun
        refine hupdate he ?_
        rw [hx]
        refine (h _ _ _ hL).apply env (hask p runId m rfl) hL hv ?_
        have hL' : L' runId = some (x.1, events ++ [e]) := by rw [he, Function.update_self]
        rcases hmove _ _ _ _ _ hL hL' with ⟨-, hev⟩ | hm
        · simp at hev
        · rw [← hx]; exact hm
      | resumeRun p runId r =>
        obtain ⟨-, he⟩ | ⟨-, run, events, e, -, -, ⟨env, values, hx⟩, he⟩ := hchange.resumeRun
        · exact hsame he
        · refine hupdate he ?_
          rw [hx]
          exact ⟨nofun, fun _ => rfl⟩
      | _ => cases hw
    · exact hsame (hchange.log_eq (by simpa using hw))

/-! ## Leases -/

/-- A Run that is not executable has no lease. -/
def Store.Unleased (st : Store) : Prop := ∀ id run, st.runs.get? id = some run →
  run.lifecycleState.isExecutable = false → st.executionLeases.get? id = none

theorem Store.Unleased.congr {st st' : Store} (h : st.Unleased) (hp : st'.runPart = st.runPart) :
    st'.Unleased := by
  have hr : st'.runs = st.runs := congrArg (·.1.1) hp
  have hl : st'.executionLeases = st.executionLeases := congrArg (·.2.1) hp
  intro id run hrun hno
  rw [hl]
  rw [hr] at hrun
  exact h id run hrun hno

theorem claimRunExecution_executable {env : Env} {p : Principal} {runId owner : String}
    {duration : ℕ} {st st' : Store} {l : RunExecutionLease}
    (h : (claimRunExecution env p runId owner duration).run st = .ok (some l) st') :
    ∃ run, st.runs.get? runId = some run ∧ run.lifecycleState.isExecutable = true := by
  simp only [claimRunExecution, bind_ok, ask_ok, EStateM.run_get, EStateM.Result.ok.injEq,
    existsAndEq, true_and, and_assoc] at h
  obtain ⟨_, -, run, hread, h⟩ := h
  split at h
  · cases h
  · next hfree =>
    rw [not_or] at hfree
    exact ⟨run, (runLocked_ok hread).1, by simpa using hfree.1⟩

/-- Setting the lease of an executable Run, or removing one. -/
theorem Store.Unleased.lease {st st' : Store} (h : st.Unleased) (hruns : st'.runs = st.runs)
    {id : String} (hother : ∀ k, k ≠ id → st'.executionLeases.get? k = st.executionLeases.get? k)
    (hid : st'.executionLeases.get? id = none ∨ ∀ run, st.runs.get? id = some run →
      run.lifecycleState.isExecutable = true) : st'.Unleased := by
  intro k run hrun hno
  rw [hruns] at hrun
  by_cases hk : k = id
  · subst hk
    rcases hid with hnone | hexec
    · exact hnone
    · rw [hexec run hrun] at hno; cases hno
  · rw [hother k hk]
    exact h k run hrun hno

/-- **Every operation keeps the leases to executable Runs.** -/
theorem Store.Unleased.step {env : Env} {o : StoreOp} {st st' : Store}
    {r : Except StoreError o.Ans} (h : st.Unleased) (hx : memoryBackend.exec env o st r st') :
    st'.Unleased := by
  by_cases hw : o.WritesRuns
  · cases r with
    | error e =>
      have he := memoryBackend_exec_error hx
      cases o with
      | createRun => rw [createRun_error he]; exact h
      | resumeRun => rw [resumeRun_error he]; exact h
      | mutateRun => exact h.congr (mutateRun_error_runPart he)
      | claimRunExecution => rw [claimRunExecution_error he]; exact h
      | renewRunExecution => rw [renewRunExecution_error he]; exact h
      | releaseRunExecution => rw [releaseRunExecution_error he]; exact h
      | _ => exact absurd hw id
    | ok x =>
      have he := memoryBackend_exec_ok hx
      cases o with
      | createRun p c =>
        obtain ⟨-, rfl, -⟩ | ⟨-, trip, hc, -⟩ := createRun_ok he
        · exact h
        · intro id run hrun hno
          rw [hc.final] at hrun ⊢
          simp only [Dict.get?_set] at hrun
          split at hrun
          · cases hrun; cases hno
          · exact h id run hrun hno
      | resumeRun p runId q =>
        obtain ⟨-, rfl, -⟩ | ⟨-, run₀, values, hr, -⟩ := resumeRun_ok he
        · exact h
        · intro id run hrun hno
          rw [hr.final] at hrun ⊢
          simp only [Dict.get?_set] at hrun
          split at hrun
          · cases hrun; cases hno
          · exact h id run hrun hno
      | mutateRun p runId m =>
        obtain ⟨run₀, st₁, hm, -⟩ := mutateRun_ok he
        have hk := publish_keeps (f := Store.runPart) (fun _ _ _ => rfl) env p run₀ m.resultArtifact st
        rw [hm.publish] at hk
        have h₁ := h.congr hk
        intro id run hrun hno
        rw [hm.final] at hrun ⊢
        simp only [storeRun, Dict.get?_set] at hrun ⊢
        split at hrun
        · next hid =>
          cases hrun
          rw [RunLifecycle.dropsLease_eq, hno, hid]
          simp
        · next hid =>
          have hold := h₁ id run hrun hno
          split
          · rw [Dict.get?_pop_ne _ hid]; exact hold
          · exact hold
      | claimRunExecution p runId owner duration =>
        obtain ⟨-, rfl⟩ | ⟨l, rfl, -, -, -, rfl⟩ := claimRunExecution_ok he
        · exact h
        · obtain ⟨run₀, hrun₀, hexec⟩ := claimRunExecution_executable he
          refine h.lease rfl (fun k hk => Dict.get?_set_ne _ hk _) (.inr fun run hrun => ?_)
          rw [hrun₀] at hrun
          cases hrun; exact hexec
      | renewRunExecution p lease duration =>
        obtain ⟨-, rfl⟩ | ⟨c, l, -, -, -, hc, -, rfl⟩ := renewRunExecution_ok he
        · exact h
        · refine h.lease rfl (fun k hk => Dict.get?_set_ne _ hk _) (.inr fun run hrun => ?_)
          by_contra hno
          rw [h _ _ hrun (by simpa using hno)] at hc
          cases hc
      | releaseRunExecution p lease =>
        obtain ⟨-, rfl⟩ | ⟨c, -, -, -, rfl⟩ := releaseRunExecution_ok he
        · exact h
        · exact h.lease rfl (fun k hk => Dict.get?_pop_ne _ hk) (.inl (Dict.get?_pop_self _ _))
      | _ => exact absurd hw id
  · refine h.congr ?_
    rw [hx.2]
    exact o.keeps_runPart env hw st

/-! ## The coordinators -/

/-- Runs move by the lifecycle, and cancellations come from anywhere. -/
def waitingDiscipline : Discipline memoryRuns :=
  { lifecycleDiscipline with
    Edge := RunLifecycle.MovesOrCancels
    asks := fun _ _ _ _ => True
    edge := fun _ _ h => .inl h
    cancel_edge := fun _ _ _ _ _ _ _ _ _ _ _ _ _ _ _ _ _ _ => .inr rfl }

theorem waitingDiscipline_sound (D : Deployment) :
    PoolSound waitingDiscipline.pool memoryBackend D (fun _ _ _ _ => True) coordinatorClients := by
  refine waitingDiscipline.sound ?_ ?_ ?_
  · exact fun c run p => Script.yields_of_forall (fun r tripId lease => ⟨trivial, fun _ _ => trivial⟩) _
  · intro call s hc
    cases call with
    | executeExisting | heartbeat | processEntry => cases hc
    | execute => exact ⟨trivial, trivial⟩
    | _ => trivial
  · intro l st st' hc hok hfresh hx
    exact ⟨(memoryRuns.change _ _ _ _ _ hok hfresh hx).log_eq hc, trivial⟩

/-- How a step came to store the command of a Run: it was stored before, or submitted with a new
    Run, or it is the stored one with an answer to the request the Run was waiting for. -/
inductive CommandWritten (w : World Store) (l : RtLabel Env) (id : String) (run' : RunView) : Prop
  | kept {run : RunView} (hrun : w.store.runs.get? id = some run)
      (hcommand : run'.command = run.command)
  | submitted {i : ℕ} {env : Env} {t : Task} {p : Principal} {c : RunCreation}
      {k : Except Exc IdempotentRunResult → Async Reply} (hl : l = .run i env)
      (ht : w.tasks[i]? = some t) (hprog : t.prog = .await (E := rt) (.store (.createRun p c)) k)
      (hnew : w.store.runs.get? id = none) (hcommand : run'.command = c.command)
  | answered {i : ℕ} {env : Env} {t : Task} {p : Principal} {r : RunResumption}
      {k : Except Exc IdempotentRunResult → Async Reply} {run : RunView} {pending : RunPendingInput}
      {values : Obj} (hl : l = .run i env) (ht : w.tasks[i]? = some t)
      (hprog : t.prog = .await (E := rt) (.store (.resumeRun p id r)) k)
      (hrun : w.store.runs.get? id = some run) (hwaiting : run.lifecycleState = .waitingInput)
      (hpending : run.pendingInput = some pending) (hrequest : r.requestId = pending.requestId)
      (htime : env.now < pending.expiresAt) (hkeys : values.map (·.1) = r.values.map (·.1))
      (hanswered : pending.Answered values)
      (hcommand : run'.command = run.command.withResumeInput pending.requestId values)

/-- What the coordinators keep. -/
structure WaitingOk (w : World Store) : Prop where
  pool : PoolOk waitingDiscipline.pool w
  requests : w.store.log.RequestsOk
  unleased : w.store.Unleased

theorem CommandWritten.of_log {w : World Store} {l : RtLabel Env} {id : String} {run' : RunView}
    {events' : List RunEvent} (h : w.store.log id = some (run', events')) :
    CommandWritten w l id run' := .kept (Store.log_eq_some.1 h).1 rfl

/-- The commands after an operation of a task. -/
theorem CommandWritten.of_exec {w : World Store} {st' : Store} {i : ℕ} {env : Env} {t : Task}
    {o : StoreOp} {k : Except Exc o.Ans → Async Reply} {r : Except StoreError o.Ans}
    (ht : w.tasks[i]? = some t) (hprog : t.prog = .await (E := rt) (.store o) k)
    (hok : LogOk w.store.log) (hfresh : memoryBackend.fresh env w.store)
    (hx : memoryBackend.exec env o w.store r st') {id : String} {run' : RunView}
    {events' : List RunEvent} (hrun' : st'.log id = some (run', events')) :
    CommandWritten w (.run i env) id run' := by
  have hchange := memoryRuns.change _ _ _ _ _ hok hfresh hx
  have hsame : st'.log = w.store.log → CommandWritten w (.run i env) id run' := by
    intro he
    rw [he] at hrun'
    exact .of_log hrun'
  cases r with
  | error e => exact hsame hchange.error
  | ok x =>
    by_cases hw : o.writesLog = true
    · cases o with
      | createRun p c =>
        obtain ⟨-, he⟩ | ⟨-, hnone, ⟨env', trip, hx'⟩, e, he⟩ := hchange.createRun
        · exact hsame he
        · rw [show st'.log = _ from he, Function.update_apply] at hrun'
          split at hrun'
          · next hid =>
            cases hrun'
            refine .submitted rfl ht hprog ?_ (by rw [hx']; rfl)
            rw [hid]
            have : (w.store.runs.get? x.run.runId).map _ = none := hnone
            exact Option.map_eq_none_iff.1 this
          · exact .of_log hrun'
      | mutateRun p runId m =>
        obtain ⟨run, events, e, hL, -, ⟨env', hx'⟩, he⟩ := hchange.mutateRun
        rw [show st'.log = _ from he, Function.update_apply] at hrun'
        split at hrun'
        · next hid =>
          cases hrun'
          rw [← hid] at hL
          exact .kept (Store.log_eq_some.1 hL).1 (by rw [hx']; rfl)
        · exact .of_log hrun'
      | resumeRun p runId q =>
        obtain ⟨-, he⟩ | ⟨hnew, run, events, e, hL, -, -, he⟩ := hchange.resumeRun
        · exact hsame he
        · obtain ⟨run₁, events₁, values, hL₁, hcheck, hx'⟩ := memoryKeyed.answered hok hx hnew
          obtain ⟨pending, hpending, hwaiting, hrequest, htime, hvalid⟩ := checkResumption_answers hcheck
          obtain ⟨hanswered, hkeys⟩ := validateRunInputValues_ok hvalid
          rw [show st'.log = _ from he, Function.update_apply] at hrun'
          split at hrun'
          · next hid =>
            cases hrun'
            subst hid
            refine .answered rfl ht hprog (Store.log_eq_some.1 hL₁).1 hwaiting hpending
              hrequest.symm htime hkeys hanswered ?_
            rw [hx', hrequest]; rfl
          · exact .of_log hrun'
      | _ => cases hw
    · exact hsame (hchange.log_eq (by simpa using hw))

/-- **Step lemma.** -/
theorem WaitingOk.step {D : Deployment} {w w' : World Store} {l : RtLabel Env} (h : WaitingOk w)
    (hs : (coordinators D).step w l w') : WaitingOk w' ∧ w.store.log.Advance w'.store.log ∧
      ∀ id run' events', w'.store.log id = some (run', events') → CommandWritten w l id run' := by
  have hA : awaitsMeet (fun _ _ _ _ => True) w l := by
    cases l with
    | run => exact fun _ _ _ _ _ => trivial
    | _ => trivial
  obtain ⟨hpool, hmove⟩ := (waitingDiscipline_sound D).step h.pool hA hs.1 hs.2
  cases hmove with
  | still hst =>
    refine ⟨⟨hpool, hst ▸ h.requests, hst ▸ h.unleased⟩, hst ▸ .refl _, fun id run' events' hrun' => ?_⟩
    rw [hst] at hrun'
    exact .of_log hrun'
  | @own i env t o k r hok hok' ht hprog hx hguar =>
    obtain ⟨t₀, o₀, k₀, r₀, w₁, ht₀, hprog₀, -, hcomp, -⟩ := hs.2
    rw [ht] at ht₀
    cases ht₀
    rw [hprog] at hprog₀
    cases hprog₀
    have hfresh : memoryBackend.fresh env w.store := hcomp.1
    refine ⟨⟨hpool, ?_, h.unleased.step hx⟩, hguar.advance, fun id run' events' hrun' =>
      .of_exec ht hprog hok hfresh hx hrun'⟩
    refine h.requests.step (memoryRuns.change _ _ _ _ _ hok hfresh hx) ?_ hguar.moves
    rintro p runId m rfl
    exact hguar.writes.1
  | @other l hok hok' hrely =>
    obtain ⟨hfresh, hx, -⟩ := hs.2
    have hlog : w'.store.log = w.store.log :=
      (memoryRuns.change _ _ _ _ _ hok hfresh hx).log_eq hs.1
    refine ⟨⟨hpool, hlog ▸ h.requests, h.unleased.step hx⟩, hlog ▸ .refl _, fun id run' events' hrun' => ?_⟩
    rw [hlog] at hrun'
    exact .of_log hrun'

theorem coordinators_waitingOk {D : Deployment} {w : World Store}
    (h : (coordinators D).Reach anyStep w) : WaitingOk w := by
  refine h.invariant (I := WaitingOk) ?_ fun w l w' _ hok _ hs => (hok.step hs).1
  rintro w rfl
  refine ⟨⟨Store.logOk_empty, by simp⟩, fun id run events h => ?_, fun id run h => ?_⟩
  · cases h
  · cases h

/-! ## The main result -/

/-- The command has the input of a resumption. -/
def RunCommand.hasResumeInput (c : RunCommand) : Bool := (c.payload.get? "resume_input").any Json.isDict

theorem needsInput_of_hasResumeInput {run : RunView} (h : run.command.hasResumeInput = true) :
    needsInput run = false := by
  have h' : (run.command.payload.get? "resume_input").any Json.isDict = true := h
  simp [needsInput, h']

/-- A step keeps the input of a Run, or replaces it by another answer. -/
theorem CommandWritten.hasResumeInput {w : World Store} {l : RtLabel Env} {id : String}
    {run run' : RunView} (h : CommandWritten w l id run') (hrun : w.store.runs.get? id = some run)
    (hin : run.command.hasResumeInput = true) : run'.command.hasResumeInput = true := by
  cases h with
  | kept hrun₁ hcommand =>
    rw [hrun] at hrun₁
    cases hrun₁
    rw [hcommand]; exact hin
  | submitted _ _ _ hnew => rw [hrun] at hnew; cases hnew
  | answered _ _ _ _ _ _ _ _ _ _ hcommand =>
    rw [hcommand]
    simp [RunCommand.hasResumeInput, RunCommand.withResumeInput, Json.isDict]

/-- **Waiting Runs carry their question, and only waiting Runs accept answers.**  In every reachable
    world of the coordinators: a waiting Run has a request and no lease, a queued, running or
    completed Run has no request; a step stores a command that was stored or submitted, or one with
    an answer to the pending request; and a Run with such an answer never waits again. -/
theorem waiting_runs_carry_question {D : Deployment} {w : World Store}
    (h : (coordinators D).Reach anyStep w) :
    (∀ id run, w.store.runs.get? id = some run →
      (run.lifecycleState = .waitingInput →
        run.pendingInput.isSome ∧ w.store.executionLeases.get? id = none) ∧
      (run.lifecycleState = .queued ∨ run.lifecycleState = .running ∨
        run.lifecycleState = .completed → run.pendingInput = none)) ∧
    (∀ l w', (coordinators D).step w l w' → ∀ id run', w'.store.runs.get? id = some run' →
      CommandWritten w l id run') ∧
    ∀ id run, w.store.runs.get? id = some run → run.command.hasResumeInput →
      ∀ w', (coordinators D).Steps anyStep w w' → ∃ run', w'.store.runs.get? id = some run' ∧
        run'.command.hasResumeInput ∧ needsInput run' = false ∧
        run'.lifecycleState ≠ .waitingInput := by
  have hok := coordinators_waitingOk h
  refine ⟨fun id run hrun => ?_, fun l w' hs id run' hrun' => ?_, fun id run hrun hin w' hsteps => ?_⟩
  · have hreq := hok.requests id run _ (Store.log_eq_some.2 ⟨hrun, rfl⟩)
    refine ⟨fun hw => ⟨(hreq.waiting hw).1, hok.unleased id run hrun ?_⟩, hreq.clear⟩
    rw [hw]; rfl
  · exact (hok.step hs).2.2 id run' _ (Store.log_eq_some.2 ⟨hrun', rfl⟩)
  · -- along the run: the Run keeps an input, so it does not need one
    have hkept : ∃ run', w'.store.runs.get? id = some run' ∧ run'.command.hasResumeInput = true := by
      induction hsteps with
      | refl => exact ⟨run, hrun, hin⟩
      | @tail w₁ w₂ hsteps hstep ih =>
        obtain ⟨l, -, hs⟩ := hstep
        obtain ⟨run₁, hrun₁, hin₁⟩ := ih
        obtain ⟨-, hadvance, hwritten⟩ := (coordinators_waitingOk (h.steps hsteps)).step hs
        obtain ⟨run₂, events₂, hL₂, -⟩ := hadvance id run₁ _ (Store.log_eq_some.2 ⟨hrun₁, rfl⟩)
        exact ⟨run₂, (Store.log_eq_some.1 hL₂).1, (hwritten id run₂ _ hL₂).hasResumeInput hrun₁ hin₁⟩
    obtain ⟨run', hrun', hin'⟩ := hkept
    have hno := needsInput_of_hasResumeInput hin'
    refine ⟨run', hrun', hin', hno, fun hw => ?_⟩
    have hreq := (coordinators_waitingOk (h.steps hsteps)).requests id run' _
      (Store.log_eq_some.2 ⟨hrun', rfl⟩)
    rw [(hreq.waiting hw).2] at hno; cases hno

/-! ## A Run that waits, and one submitted with an answer -/

namespace Interactive

open Play LateCancel

/-- A plan with some payload. -/
def planWith (payload : Obj) : RunCreateRequest :=
  { command := { type := .tripPlan, message := "plan", payload := payload } }

/-- An interactive plan is submitted, started, and asks. -/
def asked : List Move :=
  [.store (env 1) (.createTrip owner { title := "Kyoto" }),
    .call (.submit 0 owner "trip_1" (planWith [("interactive", .bool true)]) "key" "trace"),
    .run 0 (env 2), .run 0 (env 3), .run 0 (env 4), .run 1 (env 5), .run 1 (env 6), .run 1 (env 7),
    .run 1 (env 8)]

def askedWorld : World Store :=
  (World.plays (deployment snapshot) (fun _ m => isClients m) { store := {} } asked).get (by decide)

theorem askedWorld_reachable : (coordinators (deployment snapshot)).Reach anyStep askedWorld :=
  ⟨_, rfl, steps_plays (fun _ _ _ hm hl => ⟨clients_of_isClients hm hl, trivial⟩)
    (Option.some_get _).symm⟩

/-- A plan with an input nobody asked for; its creation is next. -/
def submitted : List Move :=
  [.store (env 1) (.createTrip owner { title := "Kyoto" }),
    .call (.submit 0 owner "trip_1" (planWith [("interactive", .bool true), ("resume_input", .obj [])])
      "key" "trace"),
    .run 0 (env 2)]

def submittedWorld : World Store :=
  (World.plays (deployment snapshot) (fun _ m => isClients m) { store := {} } submitted).get (by decide)

theorem submittedWorld_reachable : (coordinators (deployment snapshot)).Reach anyStep submittedWorld :=
  ⟨_, rfl, steps_plays (fun _ _ _ hm hl => ⟨clients_of_isClients hm hl, trivial⟩)
    (Option.some_get _).symm⟩

/-- The Run is created. -/
def createdWorld : World Store :=
  (submittedWorld.playRun (deployment snapshot) 0 (env 3)).get (by decide)

theorem createdWorld_step :
    (coordinators (deployment snapshot)).step submittedWorld (.run 0 (env 3)) createdWorld :=
  ⟨trivial, World.playRun_step (Option.some_get _).symm⟩

end Interactive

/-- An interactive plan waits, with its question and without a lease. -/
theorem waiting_runs_carry_question_asked :
    (Interactive.askedWorld.store.runs.get? "run_3").any (fun run =>
      run.lifecycleState == .waitingInput && run.pendingInput.isSome) = true ∧
    ∀ id run, Interactive.askedWorld.store.runs.get? id = some run →
      run.lifecycleState = .waitingInput →
      run.pendingInput.isSome ∧ Interactive.askedWorld.store.executionLeases.get? id = none :=
  ⟨by decide, fun id run hrun =>
    ((waiting_runs_carry_question Interactive.askedWorld_reachable).1 id run hrun).1⟩

/-- A submission may bring an input of its own, for which there never was a request. -/
theorem submitted_input_stored : ¬ ∀ (D : Deployment) (w : World Store) l w',
    (coordinators D).Reach anyStep w → (coordinators D).step w l w' → ∀ id run',
      w'.store.runs.get? id = some run' → run'.command.hasResumeInput →
      ∃ run, w.store.runs.get? id = some run ∧
        (run.command.hasResumeInput ∨ ∃ pending, run.pendingInput = some pending) := by
  intro h
  have hsome : (Interactive.createdWorld.store.runs.get? "run_3").any
      (·.command.hasResumeInput) = true := by decide
  obtain ⟨run', hrun', hin⟩ := (Option.any_eq_true _ _).1 hsome
  obtain ⟨run, hrun, -⟩ := h _ _ _ _ Interactive.submittedWorld_reachable
    Interactive.createdWorld_step _ _ hrun' hin
  have hnone : (Interactive.submittedWorld.store.runs.get? "run_3").isNone = true := by decide
  rw [hrun] at hnone
  cases hnone

end RoutePilot
