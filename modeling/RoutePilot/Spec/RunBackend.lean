/-
  A store as the coordinators see it: a log of Runs, with what each operation
  reads from it and writes to it.  Both stores are instances.
-/
import RoutePilot.Postgres.Log
import RoutePilot.Spec.Backend
import RoutePilot.Store.Access
import RoutePilot.Store.Log

namespace RoutePilot

open Lib

/-- The operations coordinators call. -/
def StoreOp.IsCoordinators : StoreOp → Prop
  | .getRun .. | .createRun .. | .mutateRun .. | .resumeRun .. | .createArtifact ..
  | .getArtifact .. => True
  | _ => False

/-- What an operation does to the log, by its result.  A call that raises changes nothing. -/
def LogChange (L L' : RunLog) : (o : StoreOp) → Except StoreError o.Ans → Prop
  | .getRun _ runId, .ok run => L' = L ∧ ∃ events, L runId = some (run, events)
  | .createRun p c, .ok x => (x.replayed = true ∧ L' = L) ∨
      x.replayed = false ∧ L x.run.runId = none ∧ (∃ env trip, x.run = newRun env p c trip) ∧
        ∃ e, L' = Function.update L x.run.runId (some (x.run, [e]))
  | .mutateRun _ runId m, .ok x => ∃ run events e, L runId = some (run, events) ∧
      run.controlVersion = m.expectedControlVersion ∧ (∃ env, x.1 = m.apply env run) ∧
      L' = Function.update L runId (some (x.1, events ++ [e]))
  | .resumeRun _ runId r, .ok x => (x.replayed = true ∧ L' = L) ∨
      x.replayed = false ∧ ∃ run events e, L runId = some (run, events) ∧
        run.lifecycleState = .waitingInput ∧
        (∃ env values, x.run = run.resumed env r.requestId values) ∧
        L' = Function.update L runId (some (x.run, events ++ [e]))
  | _, _ => L' = L

theorem LogChange.mutateRun {L L' : RunLog} {p : Principal} {runId : String} {m : RunMutation}
    {x : RunView × RunEvent} (h : LogChange L L' (.mutateRun p runId m) (.ok x)) :
    ∃ run events e, L runId = some (run, events) ∧
      run.controlVersion = m.expectedControlVersion ∧ (∃ env, x.1 = m.apply env run) ∧
      L' = Function.update L runId (some (x.1, events ++ [e])) := h

theorem LogChange.createRun {L L' : RunLog} {p : Principal} {c : RunCreation}
    {x : IdempotentRunResult} (h : LogChange L L' (.createRun p c) (.ok x)) :
    (x.replayed = true ∧ L' = L) ∨
      x.replayed = false ∧ L x.run.runId = none ∧ (∃ env trip, x.run = newRun env p c trip) ∧
        ∃ e, L' = Function.update L x.run.runId (some (x.run, [e])) := h

theorem LogChange.resumeRun {L L' : RunLog} {p : Principal} {runId : String} {r : RunResumption}
    {x : IdempotentRunResult} (h : LogChange L L' (.resumeRun p runId r) (.ok x)) :
    (x.replayed = true ∧ L' = L) ∨ x.replayed = false ∧ ∃ run events e,
      L runId = some (run, events) ∧ run.lifecycleState = .waitingInput ∧
      (∃ env values, x.run = run.resumed env r.requestId values) ∧
      L' = Function.update L runId (some (x.run, events ++ [e])) := h

/-- A call that raises leaves the log alone. -/
theorem LogChange.error {L L' : RunLog} {o : StoreOp} {e : StoreError}
    (h : LogChange L L' o (.error e)) : L' = L := by
  cases o <;> exact h

/-- An operation that writes no Run. -/
theorem LogChange.log_eq {L L' : RunLog} {o : StoreOp} {r : Except StoreError o.Ans}
    (h : LogChange L L' o r) (ho : o.writesLog = false) : L' = L := by
  cases r with
  | error e => exact h.error
  | ok x =>
    cases o with
    | createRun | mutateRun | resumeRun => cases ho
    | getRun => exact h.1
    | _ => exact h

/-- The result of a Run stays set. -/
theorem LogChange.result_set {L L' : RunLog} {o : StoreOp} {r : Except StoreError o.Ans}
    (h : LogChange L L' o r) {id : String} {run : RunView} {events : List RunEvent}
    (hL : L id = some (run, events)) (hset : run.resultArtifactId.isSome) :
    ∃ run' events', L' id = some (run', events') ∧ run'.resultArtifactId.isSome := by
  have hsame : L' = L → ∃ run' events', L' id = some (run', events') ∧
      run'.resultArtifactId.isSome := fun he => ⟨run, events, by rw [he]; exact hL, hset⟩
  -- one Run is written, with a result if it had one
  have hupdate : ∀ {k run₁ events₁}, L' = Function.update L k (some (run₁, events₁)) →
      (k = id → run₁.resultArtifactId.isSome) → ∃ run' events', L' id = some (run', events') ∧
        run'.resultArtifactId.isSome := by
    intro k run₁ events₁ he hk
    by_cases hid : id = k
    · exact ⟨run₁, events₁, by rw [he, hid, Function.update_self], hk hid.symm⟩
    · exact ⟨run, events, by rw [he, Function.update_of_ne hid]; exact hL, hset⟩
  cases r with
  | error e => exact hsame h.error
  | ok x =>
    cases o with
    | createRun =>
      obtain ⟨-, he⟩ | ⟨-, hnone, -, e, he⟩ := h.createRun
      · exact hsame he
      · refine hupdate he fun hk => ?_
        rw [hk, hL] at hnone; cases hnone
    | mutateRun =>
      obtain ⟨run₀, events₀, e, hL₀, -, ⟨env, hx⟩, he⟩ := h.mutateRun
      refine hupdate he fun hk => ?_
      rw [hk, hL] at hL₀
      cases hL₀
      rw [hx]
      simp [RunMutation.apply, hset]
    | resumeRun =>
      obtain ⟨-, he⟩ | ⟨-, run₀, events₀, e, hL₀, -, ⟨env, values, hx⟩, he⟩ := h.resumeRun
      · exact hsame he
      · refine hupdate he fun hk => ?_
        rw [hk, hL] at hL₀
        cases hL₀
        rw [hx]
        exact hset
    | getRun => exact hsame h.1
    | _ => exact hsame h

/-- A store that logs its Runs; `Ok` holds in its reachable states. -/
structure RunBackend {σ ε : Type} (B : Backend σ ε) where
  Ok : σ → Prop
  log : σ → RunLog
  logOk : ∀ s, Ok s → LogOk (log s)
  keep : ∀ env o s r s', Ok s → B.fresh env s → B.exec env o s r s' → Ok s'
  change : ∀ env o s r s', Ok s → B.fresh env s → B.exec env o s r s' →
    LogChange (log s) (log s') o r

/-- An operation that writes no Run is one of those. -/
theorem LogChange.of_same {L L' : RunLog} {o : StoreOp} {r : Except StoreError o.Ans} (h : L' = L)
    (hw : ¬ o.WritesRuns) (hget : ∀ p runId, o ≠ .getRun p runId) : LogChange L L' o r := by
  cases o with
  | getRun p runId => exact absurd rfl (hget p runId)
  | createRun | mutateRun | resumeRun | claimRunExecution | renewRunExecution
  | releaseRunExecution => exact absurd trivial hw
  | _ => exact h

theorem LogChange.of_error {L L' : RunLog} {o : StoreOp} {e : StoreError} (h : L' = L) :
    LogChange L L' o (.error e) := by
  cases o <;> exact h

/-! ## The in-memory store -/

theorem memory_log_error {env : Env} {o : StoreOp} {st st' : Store} {e : StoreError}
    (h : memoryBackend.exec env o st (.error e) st') : st'.log = st.log := by
  refine Store.log_congr ?_
  have hx := memoryBackend_exec_error h
  by_cases hw : o.WritesRuns
  · cases o with
    | createRun => rw [createRun_error hx]
    | mutateRun => exact congrArg Prod.fst (mutateRun_error_runPart hx)
    | resumeRun => rw [resumeRun_error hx]
    | claimRunExecution => rw [h.2]; exact claimRunExecution_keeps ..
    | renewRunExecution => rw [h.2]; exact renewRunExecution_keeps ..
    | releaseRunExecution => rw [h.2]; exact releaseRunExecution_keeps ..
    | _ => exact absurd hw id
  · have hk := o.keeps_runPart env hw st
    rw [hx] at hk
    exact congrArg Prod.fst hk

theorem memory_logChange {env : Env} {o : StoreOp} {st st' : Store} {r : Except StoreError o.Ans}
    (hok : LogOk st.log) (hfresh : memoryBackend.fresh env st)
    (h : memoryBackend.exec env o st r st') : LogChange st.log st'.log o r := by
  cases r with
  | error e => exact .of_error (memory_log_error h)
  | ok x =>
    have hx := memoryBackend_exec_ok h
    by_cases hw : o.WritesRuns
    · cases o with
      | createRun p c =>
        obtain ⟨hrep, rfl, -⟩ | ⟨hrep, trip, hc, hrun⟩ := createRun_ok hx
        · exact .inl ⟨hrep, rfl⟩
        · refine .inr ⟨hrep, ?_, ⟨env, trip, hrun⟩, acceptedEvent env (newRun env p c trip), ?_⟩
          · rw [hrun, Store.log, show (newRun env p c trip).runId = env.newPublicId "run" from rfl,
              hfresh.2]
            rfl
          · rw [hc.log, hrun]; rfl
      | mutateRun p runId m =>
        obtain ⟨run, st₁, hm, hrun⟩ := mutateRun_ok hx
        obtain ⟨-, hlog, hlog'⟩ := hm.log hok
        exact ⟨run, _, _, hlog, hm.version, ⟨env, hrun⟩, by rw [hlog', hrun]⟩
      | resumeRun p runId r =>
        obtain ⟨hrep, rfl, -⟩ | ⟨hrep, run, values, hr, hrun⟩ := resumeRun_ok hx
        · exact .inl ⟨hrep, rfl⟩
        · obtain ⟨-, hlog, hlog'⟩ := hr.log hok
          exact .inr ⟨hrep, run, _, _, hlog, checkResumption_ok hr.waiting, ⟨env, values, hrun⟩,
            by rw [hlog', hrun]⟩
      | claimRunExecution =>
        exact Store.log_congr (by rw [h.2]; exact claimRunExecution_keeps ..)
      | renewRunExecution =>
        exact Store.log_congr (by rw [h.2]; exact renewRunExecution_keeps ..)
      | releaseRunExecution =>
        exact Store.log_congr (by rw [h.2]; exact releaseRunExecution_keeps ..)
      | _ => exact absurd hw id
    · have hk := o.keeps_runPart env hw st
      rw [hx] at hk
      have hsame : st'.log = st.log := Store.log_congr (congrArg Prod.fst hk)
      cases o with
      | getRun p runId =>
        obtain ⟨hread, -⟩ := ask_ok.1 hx
        exact ⟨hsame, _, Store.log_eq_some.2 ⟨(runLocked_ok hread).1, rfl⟩⟩
      | _ => exact .of_same hsame hw (by simp)

def memoryRuns : RunBackend memoryBackend where
  Ok st := LogOk st.log
  log := Store.log
  logOk _ h := h
  keep env o st r st' hok _ h := by
    rw [memoryBackend_step h]
    refine ((StoreCall.runChange ⟨env, o⟩ st).logStep hok).logOk (fun run events hn => ?_) hok
    rw [byLength, hn.length]
  change _ _ _ _ _ hok hfresh h := memory_logChange hok hfresh h

/-! ## The PostgreSQL store -/

theorem postgres_logChange {env : Postgres.Env} {o : StoreOp} {db db' : Postgres.Database}
    {r : Except StoreError o.Ans} (hok : Postgres.DatabaseOk db)
    (h : postgresBackend.exec env o db r db') : LogChange db.log db'.log o r := by
  cases r with
  | error e => exact .of_error (by rw [postgresBackend_exec_error h])
  | ok x =>
    have hx := postgresBackend_exec_ok h
    have hkey : ∀ {id row}, db.runs.get? id = some row → row.run.runId = id := fun {id row} hrow =>
      (hok.log id row.run _ (Postgres.Database.log_eq_some.2 ⟨row, hrow, rfl, rfl⟩)).1
    by_cases hw : o.WritesRuns
    · cases o with
      | createRun p c =>
        obtain ⟨hrep, rfl⟩ | ⟨trip, ⟨hrun, hrep⟩, hfresh, hpart⟩ := Postgres.createRun_ok hx
        · exact .inl ⟨hrep, rfl⟩
        · have hid : x.run.runId = env.newPublicId "run" := by rw [hrun]; rfl
          have hw : Postgres.Wrote db db' (env.newPublicId "run")
            { run := newRun env.toEnv p c trip } _ := ⟨hpart, rfl⟩
          have hlog := hw.log
          rw [hok.owned.runEvents_eq_nil hfresh] at hlog
          refine .inr ⟨hrep, ?_, ⟨env.toEnv, trip, hrun⟩, ?_⟩
          · rw [hid, Postgres.Database.log, hfresh]; rfl
          · rw [hid, hrun]; exact ⟨_, hlog⟩
      | mutateRun p runId m =>
        obtain ⟨row, hrow, -, hversion, hrun, hpart⟩ := Postgres.mutateRun_ok hx
        have hw : Postgres.Wrote db db' runId (Postgres.applyTx env m row) _ := ⟨hpart, hkey hrow⟩
        have hlog := hw.log
        rw [show (Postgres.applyTx env m row).run = x.1 from hrun.symm] at hlog
        exact ⟨row.run, _, _, Postgres.Database.log_eq_some.2 ⟨row, hrow, rfl, rfl⟩, hversion,
          ⟨env.toEnv, hrun⟩, hlog⟩
      | resumeRun p runId r =>
        obtain ⟨hrep, rfl⟩ | ⟨row, values, ⟨hrun, hrep⟩, hrow, hwaiting, hpart⟩ :=
          Postgres.resumeRun_ok hx
        · exact .inl ⟨hrep, rfl⟩
        · have hw : Postgres.Wrote db db' runId
            { row with run := row.run.resumed env.toEnv r.requestId values } _ := ⟨hpart, hkey hrow⟩
          have hlog := hw.log
          rw [show ({ row with run := row.run.resumed env.toEnv r.requestId values } :
            Postgres.RunRow).run = x.run from hrun.symm] at hlog
          exact .inr ⟨hrep, row.run, _, _, Postgres.Database.log_eq_some.2 ⟨row, hrow, rfl, rfl⟩,
            hwaiting, ⟨env.toEnv, values, hrun⟩, hlog⟩
      | claimRunExecution =>
        obtain ⟨-, rfl⟩ | ⟨row, hrow, -, -, -, rfl⟩ := Postgres.claimRunExecution_ok hx
        · rfl
        · exact (Postgres.lease_log (by exact rfl) hrow (by exact rfl)).1
      | renewRunExecution =>
        obtain ⟨-, rfl⟩ | ⟨row, hrow, -, -, -, -, rfl⟩ := Postgres.renewRunExecution_ok hx
        · rfl
        · exact (Postgres.lease_log (by exact rfl) hrow (by exact rfl)).1
      | releaseRunExecution =>
        obtain ⟨-, rfl⟩ | ⟨row, hrow, -, -, rfl⟩ := Postgres.releaseRunExecution_ok hx
        · rfl
        · exact (Postgres.lease_log (by exact rfl) hrow (by exact rfl)).1
      | _ => exact absurd hw id
    · have hk := Postgres.runOp_keeps_runPart env o hw db
      rw [hx] at hk
      have hsame : db'.log = db.log := by
        have hr : db'.runs = db.runs := congrArg Prod.fst hk
        have he : db'.events = db.events := congrArg Prod.snd hk
        funext k
        rw [Postgres.Database.log, Postgres.Database.log, Postgres.Database.runEvents,
          Postgres.Database.runEvents, hr, he]
      cases o with
      | getRun p runId =>
        obtain ⟨hread, -⟩ := ask_ok.1 hx
        obtain ⟨row, hrow, hrun, -⟩ := Postgres.getRunTx_ok hread
        exact ⟨hsame, _, Postgres.Database.log_eq_some.2 ⟨row, hrow, hrun, rfl⟩⟩
      | _ => exact .of_same hsame hw (by simp)

def postgresRuns : RunBackend postgresBackend where
  Ok := Postgres.DatabaseOk
  log := Postgres.Database.log
  logOk _ h := h.log
  keep _ _ _ _ _ hok _ h := Postgres.postgresStore_step_ok hok (postgresBackend_step h)
  change _ _ _ _ _ hok _ h := postgres_logChange hok h

end RoutePilot
