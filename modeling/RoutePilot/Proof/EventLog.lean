/-
  The event log of the stores, and its mirror in the outbox.

  Event log and control version march together, in both stores: the cursor a
  client resumes from and the version it compares against are one number.

  An event is stored with its outbox record in one transaction, and with a
  dispatch if it queues its Run: the records of Runs are the event log, in its
  order (`outbox_mirrors_events`).  So a worker that gets a dispatch finds the
  Run that it was written for (`dispatches_pass_fence`), and no Run waits in the
  queue without one (`queued_runs_dispatched`).
-/
import RoutePilot.Postgres.Log
import RoutePilot.Runtime.Play
import RoutePilot.Runtime.Worker
import RoutePilot.Spec.EventLog
import RoutePilot.Store.Log

namespace RoutePilot

open Lib Lts

/-! ## Numbers -/

section
open Postgres (Database postgresStore)

/-- A Run of a store, with its events. -/
theorem LogOk.numbered {L : RunLog} (h : LogOk L) {id : String} {run : RunView}
    {events : List RunEvent} (hL : L id = some (run, events)) : Numbered run events :=
  (h id run events hL).2

/-- **The events of every Run are numbered `1` to its control version**, in every reachable state
    of either store; the two numbering rules agree on every Run, and two Runs with the same
    number of transitions have the same event numbers in both stores. -/
theorem events_march_with_control_version :
    (∀ st, memoryStore.Reach anyStep st → ∀ runId run, st.runs.get? runId = some run →
      Numbered run (st.events.getD runId []) ∧
        byLength run (st.events.getD runId []) = byVersion run (st.events.getD runId [])) ∧
    (∀ db, postgresStore.Reach anyStep db → ∀ runId row, db.runs.get? runId = some row →
      Numbered row.run (db.runEvents runId) ∧
        byLength row.run (db.runEvents runId) = byVersion row.run (db.runEvents runId)) ∧
    ∀ st db, memoryStore.Reach anyStep st → postgresStore.Reach anyStep db →
      ∀ runId run row, st.runs.get? runId = some run → db.runs.get? runId = some row →
        run.controlVersion = row.run.controlVersion →
        (st.events.getD runId []).map (·.seq) = (db.runEvents runId).map (·.seq) := by
  have hmem : ∀ st, memoryStore.Reach anyStep st → ∀ runId run, st.runs.get? runId = some run →
      Numbered run (st.events.getD runId []) :=
    fun st hst runId run hrun =>
      (memoryStore_logOk hst).numbered (Store.log_eq_some.2 ⟨hrun, rfl⟩)
  have hpg : ∀ db, postgresStore.Reach anyStep db → ∀ runId row, db.runs.get? runId = some row →
      Numbered row.run (db.runEvents runId) :=
    fun db hdb runId row hrow =>
      (Postgres.postgresStore_ok hdb).log.numbered
        (Database.log_eq_some.2 ⟨row, hrow, rfl, rfl⟩)
  refine ⟨?_, ?_, ?_⟩
  · intro st hst runId run hrun
    exact ⟨hmem st hst runId run hrun, (hmem st hst runId run hrun).byLength_eq⟩
  · intro db hdb runId row hrow
    exact ⟨hpg db hdb runId row hrow, (hpg db hdb runId row hrow).byLength_eq⟩
  · intro st db hst hdb runId run row hrun hrow hv
    rw [(hmem st hst runId run hrun).map_seq, (hpg db hdb runId row hrow).map_seq, hv]

end

/-! ## Dispatches -/

/-- The data of a dispatch in its outbox record. -/
def RunDispatchMessage.payload (d : RunDispatchMessage) : Obj :=
  [("tenant_id", .str d.tenantId), ("actor_id", .str d.actorId), ("trip_id", .str d.tripId), ("run_id", .str d.runId),
    ("trace_id", .str d.traceId), ("control_version", .int d.controlVersion)]

/-- The dispatch of a Run that was queued at a version. -/
def RunView.dispatch (run : RunView) (version : ℕ) : RunDispatchMessage :=
  ⟨run.tenantId, run.actorId, run.tripId, run.runId, run.traceId, version⟩

namespace Postgres

/-! ## Records -/

/-- What is published of a record. -/
structure Message where
  tenantId : String
  aggregateId : String
  eventType : String
  payload : Obj

def OutboxRow.message (r : OutboxRow) : Message := ⟨r.tenantId, r.aggregateId, r.eventType, r.payload⟩

/-- A record of a Run, or a dispatch. -/
def OutboxRow.concernsRun (r : OutboxRow) : Bool := r.aggregateType == "run" || r.eventType == "run.dispatch.requested"

/-- These records, in insertion order. -/
def Database.messages (db : Database) : List Message := (db.outbox.filter (·.concernsRun)).map (·.message)

def eventMessage (run : RunView) (e : RunEvent) : Message := ⟨run.tenantId, run.runId, e.type.value, eventPayload e⟩

def dispatchMessage (run : RunView) (version : ℕ) : Message :=
  ⟨run.tenantId, run.runId, "run.dispatch.requested", (run.dispatch version).payload⟩

/-- The records of an event: its own, and a dispatch if it queues its Run. -/
def messagesOf (run : RunView) (e : RunEvent) : List Message :=
  eventMessage run e :: if e.announces = some .queued then [dispatchMessage run e.seq] else []

/-- The records of a stored event. -/
def Database.messagesOfRow (db : Database) (r : EventRow) : List Message :=
  (db.runs.get? r.event.runId).elim [] fun row => messagesOf row.run r.event

/-- The outbox has the records of the stored events, in their order. -/
def Database.Mirrored (db : Database) : Prop := db.messages = db.events.flatMap db.messagesOfRow

theorem messagesOf_congr {run run' : RunView} (h : run'.identity = run.identity) (e : RunEvent) :
    messagesOf run' e = messagesOf run e := by
  simp only [RunView.identity, Prod.mk.injEq] at h
  obtain ⟨hrun, htrip, htenant, hactor, htrace⟩ := h
  simp only [messagesOf, eventMessage, dispatchMessage, RunView.dispatch, hrun, htrip, htenant, hactor, htrace]

/-! ## What is written -/

section
variable {env : Env} {run : RunView} {event : RunEvent} {db db' : Database}

theorem appendEventTx_messages {u : Unit} (h : (appendEventTx env run event).run db = .ok u db') :
    db'.messages = db.messages ++ [eventMessage run event] ∧ db'.events = db.events ++ [⟨run.tenantId, event⟩] ∧
      db'.runs = db.runs := by
  simp only [appendEventTx, bind_ok] at h
  obtain ⟨_, db₁, h₁, h₂⟩ := h
  cases insertEvent_ok h₁
  cases h₂
  refine ⟨?_, rfl, rfl⟩
  simp [Database.messages, OutboxRow.concernsRun, eventMessage, OutboxRow.message]

theorem requestDispatch_messages {u : Unit} (h : (requestDispatch env run).run db = .ok u db') :
    db'.messages = db.messages ++ [dispatchMessage run run.controlVersion] ∧ db'.events = db.events ∧
      db'.runs = db.runs := by
  cases h
  refine ⟨?_, rfl, rfl⟩
  simp [Database.messages, OutboxRow.concernsRun, dispatchMessage, OutboxRow.message]
  rfl

/-- An event that queues its Run, with the dispatch. -/
theorem queue_messages {db₁ : Database} {u v : Unit} (h₁ : (appendEventTx env run event).run db = .ok u db₁)
    (h₂ : (requestDispatch env run).run db₁ = .ok v db') (hqueued : event.announces = some .queued)
    (hseq : event.seq = run.controlVersion) :
    db'.messages = db.messages ++ messagesOf run event ∧ db'.events = db.events ++ [⟨run.tenantId, event⟩] ∧
      db'.runs = db.runs := by
  obtain ⟨hm₁, he₁, hr₁⟩ := appendEventTx_messages h₁
  obtain ⟨hm₂, he₂, hr₂⟩ := requestDispatch_messages h₂
  refine ⟨?_, he₂.trans he₁, hr₂.trans hr₁⟩
  rw [hm₂, hm₁, messagesOf, if_pos hqueued, hseq]
  simp

end

/-- What an operation appends: nothing, or an event with its records. -/
inductive OutboxChange (db db' : Database) : Prop
  | same (hmessages : db'.messages = db.messages) (hevents : db'.events = db.events)
  | appended (row : RunRow) (e : RunEvent) (hrow : db'.runs.get? e.runId = some row)
      (hmessages : db'.messages = db.messages ++ messagesOf row.run e)
      (hevents : db'.events = db.events ++ [⟨row.run.tenantId, e⟩])

section
variable {env : Env} {p : Principal} {runId : String} {db db' : Database}

theorem createRun_messages {c : RunCreation} {x : IdempotentRunResult} (h : (createRun env p c).run db = .ok x db') :
    OutboxChange db db' := by
  simp only [createRun, transaction_ok, bind_ok, ask_ok, ensure_ok, EStateM.run_get, EStateM.Result.ok.injEq,
    existsAndEq, true_and, exists_const, and_assoc] at h
  obtain ⟨trip, -, -, h⟩ := h
  split at h
  · simp only [bind_ok, ask_ok, ensure_ok, EStateM.run_pure, EStateM.Result.ok.injEq, existsAndEq, true_and,
      exists_const, and_assoc] at h
    obtain ⟨-, -, -, -, rfl⟩ := h
    exact .same rfl rfl
  · simp only [insertRun, bind_ok, ask_ok, ensure_ok, EStateM.run_get, EStateM.run_modify, EStateM.run_pure,
      EStateM.Result.ok.injEq, existsAndEq, true_and, exists_const, and_assoc] at h
    obtain ⟨_, -, _, -, -, _, db₁, h₁, _, h₂, -⟩ := h
    obtain ⟨hmessages, hevents, hruns⟩ := queue_messages h₁ h₂ rfl rfl
    refine .appended { run := newRun env.toEnv p c trip } _ ?_ hmessages hevents
    rw [hruns]
    exact Dict.get?_set_self _ _ _

theorem mutateRun_messages {Label : String → Prop} {Made : ArtifactView → Prop} {m : RunMutation}
    {x : RunView × RunEvent} (hok : DatabaseOk db)
    (hm : Announcement Label Made m.eventType m.lifecycleState m.eventData)
    (h : (mutateRun env p runId m).run db = .ok x db') : OutboxChange db db' := by
  simp only [mutateRun, transaction_ok, bind_ok, ask_ok, ensure_ok, existsAndEq, true_and,
    exists_const, and_assoc] at h
  obtain ⟨run, hread, _, -, -, _, db₁, hpub, row', db₂, hup, h⟩ := h
  have hk := publish_keeps (g := fun db => (db.runs, db.messages, db.events)) (fun _ _ _ => rfl) env p run
    m.resultArtifact db
  rw [hpub] at hk
  have hruns : db₁.runs = db.runs := congrArg Prod.fst hk
  have hmessages : db₁.messages = db.messages := congrArg (·.2.1) hk
  have hevents : db₁.events = db.events := congrArg (·.2.2) hk
  split at h
  · cases h
  · simp only [bind_ok, EStateM.run_pure, EStateM.Result.ok.injEq, existsAndEq] at h
    obtain ⟨_, h₃, -⟩ := h
    obtain ⟨row, hrow, -, rfl, rfl⟩ := updateRow_some hup
    rw [hruns] at hrow
    have hid : row.run.runId = runId := (hok.log runId row.run _ (Database.log_eq_some.2 ⟨row, hrow, rfl, rfl⟩)).1
    obtain ⟨hm₃, he₃, hr₃⟩ := appendEventTx_messages h₃
    refine .appended (applyTx env m row) _ ?_ ?_ (he₃.trans (congrArg (· ++ _) hevents))
    · rw [hr₃]
      show (db₁.runs.set runId (applyTx env m row)).get? row.run.runId = _
      rw [hid]
      exact Dict.get?_set_self _ _ _
    · -- no transition queues its Run
      rw [hm₃, messagesOf, if_neg]
      · exact congrArg (· ++ _) hmessages
      · show announced m.eventType (m.eventData.set "control_version" _) ≠ _
        rw [hm.announced]
        exact hm.not_queued

theorem resumeRun_messages {r : RunResumption} {x : IdempotentRunResult} (hok : DatabaseOk db)
    (h : (resumeRun env p runId r).run db = .ok x db') : OutboxChange db db' := by
  simp only [resumeRun, transaction_ok, bind_ok, ask_ok, EStateM.run_get, EStateM.Result.ok.injEq, existsAndEq,
    true_and, and_assoc] at h
  obtain ⟨run, hread, _, -, h⟩ := h
  split at h
  · simp only [bind_ok, ask_ok, ensure_ok, EStateM.run_pure, EStateM.Result.ok.injEq, existsAndEq, true_and,
      exists_const, and_assoc] at h
    obtain ⟨-, -, -, -, -, rfl⟩ := h
    exact .same rfl rfl
  · simp only [applyResumption, bind_ok, ask_ok, ensure_ok, EStateM.run_modify, EStateM.Result.ok.injEq, existsAndEq,
      true_and, exists_const, and_assoc] at h
    obtain ⟨-, values, -, row', db₂, hup, h⟩ := h
    split at h
    · cases h
    · simp only [bind_ok, EStateM.run_pure, EStateM.Result.ok.injEq, existsAndEq] at h
      obtain ⟨_, db₃, h₃, _, h₄, -⟩ := h
      obtain ⟨row, hrow, -, rfl, rfl⟩ := updateRow_some hup
      obtain ⟨row₀, hrow₀, rfl, -⟩ := getRunTx_ok hread
      have hsame : row = row₀ := Option.some.inj (hrow.symm.trans hrow₀)
      subst hsame
      have hid : row.run.runId = runId := (hok.log runId row.run _ (Database.log_eq_some.2 ⟨row, hrow₀, rfl, rfl⟩)).1
      obtain ⟨hmessages, hevents, hruns⟩ := queue_messages h₃ h₄ rfl rfl
      refine .appended { row with run := row.run.resumed env.toEnv r.requestId values } _ ?_ hmessages hevents
      rw [hruns]
      show (db.runs.set runId _).get? row.run.runId = _
      rw [hid]
      exact Dict.get?_set_self _ _ _

/-- **Step lemma.**  Whatever an operation does, it appends events with their records. -/
theorem outboxChange {Label : String → Prop} {Made : ArtifactView → Prop} {o : StoreOp} (hok : DatabaseOk db)
    (hw : Writes Label Made (.store o)) (h : postgresStore.step db ⟨env, o⟩ db') : OutboxChange db db' := by
  rcases h with rfl | ⟨x, h⟩
  · exact .same rfl rfl
  · by_cases hruns : o.WritesRuns
    · cases o with
      | createRun => exact createRun_messages h
      | mutateRun => exact mutateRun_messages hok hw h
      | resumeRun => exact resumeRun_messages hok h
      | claimRunExecution =>
        obtain ⟨-, rfl⟩ | ⟨row, -, -, -, -, rfl⟩ := claimRunExecution_ok h <;> exact .same rfl rfl
      | renewRunExecution =>
        obtain ⟨-, rfl⟩ | ⟨row, -, -, -, -, -, rfl⟩ := renewRunExecution_ok h <;> exact .same rfl rfl
      | releaseRunExecution =>
        obtain ⟨-, rfl⟩ | ⟨row, -, -, -, rfl⟩ := releaseRunExecution_ok h <;> exact .same rfl rfl
      | _ => exact absurd hruns id
    · have hk := runOp_keeps_of_others (g := fun db => (db.messages, db.events)) env o (fun _ _ _ _ => rfl)
        (fun db r hrun hdispatch => ?_) (fun _ _ _ => rfl) hruns db
      · have hx : (runOp env o).run db = .ok x db' := h
        rw [hx] at hk
        exact .same (congrArg Prod.fst hk) (congrArg Prod.snd hk)
      · have hr : r.concernsRun = false := by simp [OutboxRow.concernsRun, hrun, hdispatch]
        simp [Database.messages, hr]

end

/-! ## The invariant -/

/-- The records of the events that are stored stay the same. -/
theorem messagesOfRow_congr {env : Env} {o : StoreOp} {db db' : Database} (hok : DatabaseOk db)
    (hchange : EventChange env.toEnv o db.log db'.log) {r : EventRow} (hr : r ∈ db.events) :
    db'.messagesOfRow r = db.messagesOfRow r := by
  obtain ⟨row, hrow, -⟩ := hok.owned r hr
  obtain ⟨run', events', hrun', -, hidentity⟩ := hchange.grows (Database.log_eq_some.2 ⟨row, hrow, rfl, rfl⟩)
  obtain ⟨row', hrow', rfl, -⟩ := Database.log_eq_some.1 hrun'
  rw [Database.messagesOfRow, Database.messagesOfRow, hrow, hrow']
  exact messagesOf_congr hidentity r.event

/-- **Step lemma.** -/
theorem Database.Mirrored.step {env : Env} {o : StoreOp} {db db' : Database} (h : db.Mirrored) (hok : DatabaseOk db)
    (hchange : EventChange env.toEnv o db.log db'.log) (hout : OutboxChange db db') : db'.Mirrored := by
  have hold : db.events.flatMap db'.messagesOfRow = db.events.flatMap db.messagesOfRow :=
    List.flatMap_congr fun r hr => messagesOfRow_congr hok hchange hr
  cases hout with
  | same hmessages hevents =>
    rw [Database.Mirrored, hmessages, hevents, hold]
    exact h
  | appended row e hrow hmessages hevents =>
    have hnew : db'.messagesOfRow ⟨row.run.tenantId, e⟩ = messagesOf row.run e := by
      show (db'.runs.get? e.runId).elim [] _ = _
      rw [hrow]
      rfl
    rw [Database.Mirrored, hmessages, hevents, List.flatMap_append, hold, List.flatMap_singleton, hnew]
    exact congrArg (· ++ _) h

section
variable {db : Database}

theorem mem_messagesOf {run : RunView} {e : RunEvent} {m : Message} :
    m ∈ messagesOf run e ↔ m = eventMessage run e ∨ e.announces = some .queued ∧ m = dispatchMessage run e.seq := by
  rw [messagesOf, List.mem_cons]
  split <;> simp [*]

/-- The records of one Run. -/
theorem Database.Mirrored.ofRun (h : db.Mirrored) (hok : DatabaseOk db) {id : String} {run : RunView}
    {events : List RunEvent} (hrun : db.log id = some (run, events)) :
    db.messages.filter (·.aggregateId == id) = events.flatMap (messagesOf run) := by
  obtain ⟨row, hrow, rfl, rfl⟩ := Database.log_eq_some.1 hrun
  have hone : ∀ r ∈ db.events, (db.messagesOfRow r).filter (·.aggregateId == id) =
      if r.event.runId == id then messagesOf row.run r.event else [] := by
    intro r hr
    obtain ⟨row', hrow', -⟩ := hok.owned r hr
    have hid : row'.run.runId = r.event.runId := (hok.log _ _ _ (Database.log_eq_some.2 ⟨row', hrow', rfl, rfl⟩)).1
    have hall : ∀ m ∈ messagesOf row'.run r.event, m.aggregateId = r.event.runId := by
      intro m hm
      rcases mem_messagesOf.1 hm with rfl | ⟨-, rfl⟩ <;> exact hid
    rw [Database.messagesOfRow, hrow', Option.elim_some]
    by_cases heq : r.event.runId = id
    · rw [if_pos (by simpa using heq), List.filter_eq_self.2 fun m hm => by simpa using (hall m hm).trans heq]
      rw [heq, hrow] at hrow'
      cases hrow'
      rfl
    · rw [if_neg (by simpa using heq), List.filter_eq_nil_iff.2 fun m hm => by simpa [hall m hm] using heq]
  rw [show db.messages = _ from h, List.filter_flatMap, List.flatMap_congr hone, Database.runEvents, List.flatMap_map]
  induction db.events with
  | nil => rfl
  | cons x xs ih =>
    rw [List.flatMap_cons, List.filter_cons, ih]
    split <;> rfl

/-- A dispatch in the outbox is the one that was written for an event of its Run. -/
theorem Database.Mirrored.dispatch (h : db.Mirrored) (hok : DatabaseOk db) {r : OutboxRow} (hr : r ∈ db.outbox)
    (htype : r.eventType = "run.dispatch.requested") :
    ∃ run events e, db.log run.runId = some (run, events) ∧ e ∈ events ∧ e.announces = some .queued ∧
      r.tenantId = run.tenantId ∧ r.payload = (run.dispatch e.seq).payload := by
  have hm : r.message ∈ db.messages :=
    List.mem_map.2 ⟨r, List.mem_filter.2 ⟨hr, by simp [OutboxRow.concernsRun, htype]⟩, rfl⟩
  rw [show db.messages = _ from h, List.mem_flatMap] at hm
  obtain ⟨x, hx, hm⟩ := hm
  obtain ⟨row, hrow, -⟩ := hok.owned x hx
  rw [Database.messagesOfRow, hrow, Option.elim_some] at hm
  have hlog := Database.log_eq_some.2 ⟨row, hrow, rfl, rfl⟩
  have hid : row.run.runId = x.event.runId := (hok.log _ _ _ hlog).1
  rcases mem_messagesOf.1 hm with hm | ⟨hqueued, hm⟩
  · -- no event has this type
    have hvalue : r.eventType = x.event.type.value := congrArg Message.eventType hm
    rw [htype] at hvalue
    cases htype : x.event.type <;> rw [htype] at hvalue <;> exact absurd hvalue (by decide)
  · refine ⟨row.run, _, x.event, by rw [hid]; exact hlog, ?_, hqueued, congrArg Message.tenantId hm,
      congrArg Message.payload hm⟩
    exact List.mem_map_of_mem (List.mem_filter.2 ⟨hx, by simp⟩)

end

end Postgres

/-! ## A Run in the queue -/

namespace Queue

open Play Postgres

def env (n : ℕ) : Postgres.Env := { now := n, token := fun _ => toString n, databaseNow := n }

/-- An operation of the store. -/
def ran (w : World Database) (env : Postgres.Env) (o : StoreOp) : World Database :=
  { w with store := final ((runOp env o).run w.store) }

/-- What the store answers to an awaited operation, and the world it leaves. -/
def answer (env : Postgres.Env) (w : World Database) : (o : Op) → Option (Except Exc o.Ans × World Database)
  | .store o => some ((outcome ((runOp env o).run w.store)).mapError Exc.store, ran w env o)
  | .start => some (.ok (), w)
  | _ => none

/-- The first coroutine gets the answer that it awaits. -/
def answered (w : World Database) (env : Postgres.Env) : Option (World Database) :=
  match w.tasks.head? with
  | some { prog := .await o k, mustCancel := false, .. } =>
    (answer env w o).map fun x => x.2.settle (deployment snapshot) env.toEnv 0 (k x.1)
  | _ => none

theorem answer_completes {env : Postgres.Env} {w w₁ : World Database} {o : Op} {r : Except Exc o.Ans}
    (h : answer env w o = some (r, w₁)) : w.Completes postgresBackend env o r w₁ := by
  cases o with
  | store o =>
    cases h
    exact ⟨trivial, _, _, .inl ⟨rfl, rfl⟩, rfl, rfl⟩
  | start =>
    cases h
    exact ⟨rfl, rfl⟩
  | _ => cases h

theorem served_answered {w w' : World Database} {env : Postgres.Env} (h : answered w env = some w')
    (hreach : (served postgresBackend (deployment snapshot)).Reach anyStep w) :
    (served postgresBackend (deployment snapshot)).Reach anyStep w' := by
  unfold answered at h
  split at h
  · next ht =>
    obtain ⟨⟨r, w₁⟩, hr, rfl⟩ := Option.map_eq_some_iff.1 h
    rw [List.head?_eq_getElem?] at ht
    exact hreach.step (l := .run 0 env) trivial ⟨trivial, _, _, _, r, w₁, ht, rfl, rfl, answer_completes hr, rfl⟩
  · cases h

/-- A client has made a Trip, and submits a plan for it. -/
def submittedWorld : World Database :=
  (ran { store := {} } (env 1) (.createTrip owner { title := "Kyoto" })).spawn (deployment snapshot)
    (.submit 0 owner "trip_1" plan "key" "trace")

theorem submittedWorld_served : (served postgresBackend (deployment snapshot)).Reach anyStep submittedWorld := by
  have hinit : (served postgresBackend (deployment snapshot)).Reach anyStep { store := {} } := .init rfl
  have htrip : (served postgresBackend (deployment snapshot)).Reach anyStep
      (ran { store := {} } (env 1) (.createTrip owner { title := "Kyoto" })) :=
    hinit.step (l := .store ⟨env 1, .createTrip owner { title := "Kyoto" },
      outcome ((runOp (env 1) (.createTrip owner { title := "Kyoto" })).run {})⟩) trivial
      ⟨rfl, trivial, .inl ⟨rfl, rfl⟩, rfl⟩
  exact htrip.step (l := .call (.submit 0 owner "trip_1" plan "key" "trace")) trivial ⟨trivial, rfl⟩

/-- The Run is created. -/
def queuedWorld : World Database := ((answered submittedWorld (env 2)).bind (answered · (env 3))).get (by decide)

theorem queuedWorld_served : (served postgresBackend (deployment snapshot)).Reach anyStep queuedWorld := by
  obtain ⟨w, hw, hw'⟩ := Option.bind_eq_some_iff.1 (Option.some_get
    (by decide : (((answered submittedWorld (env 2)).bind
    (answered · (env 3))).isSome = true))).symm
  exact served_answered hw' (served_answered hw submittedWorld_served)

def queuedRow : RunRow := (queuedWorld.store.runs.get? "run_3").get (by decide)

theorem queuedRow_log : queuedWorld.store.log "run_3" = some (queuedRow.run, queuedWorld.store.runEvents "run_3") :=
  Database.log_eq_some.2 ⟨queuedRow, (Option.some_get _).symm, rfl, rfl⟩

theorem outbox_ne_nil : queuedWorld.store.outbox ≠ [] := by decide

/-- The last record of the outbox. -/
def dispatchRow : OutboxRow := queuedWorld.store.outbox.getLast outbox_ne_nil

end Queue

/-! ## The outbox of a deployment -/

section
open Postgres
variable {D : Deployment} {w w' : World Database}

theorem served_databaseOk (h : (served postgresBackend D).Reach anyStep w) : DatabaseOk w.store :=
  served_ok postgresEvents h

/-- **Run lemma.** -/
theorem served_mirrored (h : (served postgresBackend D).Reach anyStep w) : w.store.Mirrored := by
  refine served_invariant postgresEvents (I := Database.Mirrored)
    (fun c => (D.coordinator c).supplies_any) (fun _ _ _ _ _ _ _ => trivial) rfl
    (fun env o db r db' hok hfresh hwrites hx hm => ?_) h
  exact hm.step hok (postgresEvents.change env o db r db' hok hfresh hx)
    (outboxChange hok hwrites (postgresBackend_step hx))

/-- **The outbox has the records of the log.**  In every reachable world, the records of a Run in the outbox
    are those of its events, in the order of the log: each event once, followed by a dispatch if it queues
    the Run, and no other dispatch. -/
theorem outbox_mirrors_events (h : (served postgresBackend D).Reach anyStep w) {id : String} {run : RunView}
    {events : List RunEvent} (hrun : w.store.log id = some (run, events)) :
    w.store.messages.filter (·.aggregateId == id) = events.flatMap (messagesOf run) :=
  (served_mirrored h).ofRun (served_databaseOk h) hrun

/-- A Run that was just submitted. -/
theorem outbox_mirrors_events_queued :
    (Queue.queuedWorld.store.messages.filter (·.aggregateId == "run_3")).map (·.eventType) =
      ["run.accepted", "run.dispatch.requested"] := by
  rw [outbox_mirrors_events Queue.queuedWorld_served Queue.queuedRow_log]
  decide

/-- **A dispatch finds its Run.**  Whatever a worker gets of the outbox, at whatever later time: the dispatch is of a
    stored Run of its tenant, and passes the fence. -/
theorem dispatches_pass_fence (h : (served postgresBackend D).Reach anyStep w)
    (hsteps : (served postgresBackend D).Steps anyStep w w') {r : OutboxRow} (hr : r ∈ w.store.outbox)
    (htype : r.eventType = "run.dispatch.requested") :
    ∃ d run events, r.payload = RunDispatchMessage.payload d ∧ r.tenantId = d.tenantId ∧ 1 ≤ d.controlVersion ∧
      w'.store.log d.runId = some (run, events) ∧ run.tenantId = d.tenantId ∧ d.matchesRun run = true := by
  obtain ⟨run, events, e, hrun, he, -, htenant, hpayload⟩ := (served_mirrored h).dispatch (served_databaseOk h) hr htype
  obtain ⟨run', events', hrun', hgrows, hidentity⟩ :=
    served_grows postgresEvents (fun c => (D.coordinator c).supplies_any)
      (fun _ _ _ _ _ _ _ => trivial) h hsteps hrun
  obtain ⟨-, hnumbered⟩ := (served_databaseOk (h.steps hsteps)).log _ _ _ hrun'
  obtain ⟨i, hi⟩ := List.mem_iff_getElem?.1 (hgrows.subset he)
  have hseq : e.seq = i + 1 := hnumbered.seq i e hi
  have hle : i < run'.controlVersion := by
    rw [← hnumbered.length]
    exact (List.getElem?_eq_some_iff.1 hi).1
  simp only [RunView.identity, Prod.mk.injEq] at hidentity
  obtain ⟨-, htrip, htenant', hactor, htrace⟩ := hidentity
  refine ⟨run.dispatch e.seq, run', events', hpayload, htenant, ?_, hrun', htenant', ?_⟩
  · show 1 ≤ e.seq
    omega
  · simp only [RunDispatchMessage.matchesRun, RunView.dispatch, htrip, htrace, hactor, hseq, decide_true, Bool.true_and,
      decide_eq_true_eq]
    omega

/-- The dispatch of the Run that was just submitted. -/
theorem dispatches_pass_fence_queued :
    ∃ d run events, Queue.dispatchRow.payload = RunDispatchMessage.payload d ∧
      Queue.queuedWorld.store.log d.runId = some (run, events) ∧ d.matchesRun run = true := by
  obtain ⟨d, run, events, hpayload, -, -, hrun, -, hmatches⟩ :=
    dispatches_pass_fence Queue.queuedWorld_served .refl (List.getLast_mem Queue.outbox_ne_nil) (by decide)
  exact ⟨d, run, events, hpayload, hrun, hmatches⟩

/-- **No Run waits without a dispatch.**  The outbox has a dispatch for the event that queued a Run last, with nothing
    announced since. -/
theorem queued_runs_dispatched (h : (served postgresBackend D).Reach anyStep w) {id : String} {run : RunView}
    {events : List RunEvent} (hrun : w.store.log id = some (run, events)) (hqueued : run.lifecycleState = .queued) :
    ∃ r ∈ w.store.outbox, ∃ version e, r.eventType = "run.dispatch.requested" ∧ r.tenantId = run.tenantId ∧
      r.payload = (run.dispatch version).payload ∧ e.seq = version ∧ e ∈ events ∧ e.announces = some .queued ∧
      ∀ e' ∈ events.drop version, e'.announces = none := by
  have hhistory := served_history postgresEvents h hrun
  obtain ⟨k, e, hk, hannounces, hafter⟩ :=
    settled_last hhistory.accepted_first (hhistory.lifecycleState.symm.trans hqueued)
  have he : e ∈ events := List.mem_of_getElem? hk
  have hseq : e.seq = k + 1 := ((served_databaseOk h).log _ _ _ hrun).2.seq k e hk
  have hm : dispatchMessage run e.seq ∈ w.store.messages.filter (·.aggregateId == id) := by
    rw [(served_mirrored h).ofRun (served_databaseOk h) hrun]
    exact List.mem_flatMap.2 ⟨e, he, mem_messagesOf.2 (.inr ⟨hannounces, rfl⟩)⟩
  obtain ⟨r, hr, hmessage⟩ := List.mem_map.1 (List.mem_filter.1 hm).1
  refine ⟨r, (List.mem_filter.1 hr).1, e.seq, e, congrArg Message.eventType hmessage,
    congrArg Message.tenantId hmessage, congrArg Message.payload hmessage, rfl, he, hannounces, ?_⟩
  rw [hseq]
  exact hafter

end

/-- It has its dispatch. -/
theorem queued_runs_dispatched_first : ∃ r ∈ Queue.queuedWorld.store.outbox, ∃ version,
    r.eventType = "run.dispatch.requested" ∧ r.payload = (Queue.queuedRow.run.dispatch version).payload := by
  obtain ⟨r, hr, version, e, htype, -, hpayload, -⟩ :=
    queued_runs_dispatched Queue.queuedWorld_served Queue.queuedRow_log (by decide)
  exact ⟨r, hr, version, htype, hpayload⟩

end RoutePilot
