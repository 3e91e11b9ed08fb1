/-
  What the operations of the PostgreSQL store do to Runs and events
  (`runRowChange`), the counterpart of `RunChange`.  The lease is part of the
  Run row here, so one inversion lemma serves the event log and the leases.
-/
import RoutePilot.Postgres.Ops
import RoutePilot.Store.RunSpecs

namespace RoutePilot.Postgres

open Lib

/-! ## Statements -/

section
variable {K V : Type} [DecidableEq K] {table : Database → Dict K V}
  {put : Dict K V → Database → Database} {k : K} {c : V → Bool} {f : V → V}

/-- An update that returns a row changed that row, which met its condition. -/
theorem updateRow_some {db db' : Database} {w : V}
    (h : (updateRow table put k c f).run db = .ok (some w) db') :
    ∃ v, (table db).get? k = some v ∧ c v = true ∧ w = f v ∧
      db' = put ((table db).set k (f v)) db := by
  simp only [updateRow, bind_ok, EStateM.run_get, EStateM.Result.ok.injEq, existsAndEq,
    true_and] at h
  split at h
  · cases h
  · next v hv =>
    split at h
    · next hc =>
      simp only [bind_ok, EStateM.run_modify, EStateM.run_pure, EStateM.Result.ok.injEq, existsAndEq,
        true_and, Option.some.injEq, exists_const] at h
      obtain ⟨rfl, rfl⟩ := h
      exact ⟨v, hv, hc, rfl, rfl⟩
    · cases h

/-- An update that returns no row changed nothing. -/
theorem updateRow_none {db db' : Database}
    (h : (updateRow table put k c f).run db = .ok none db') :
    db' = db ∧ ∀ v, (table db).get? k = some v → c v = false := by
  simp only [updateRow, bind_ok, EStateM.run_get, EStateM.Result.ok.injEq, existsAndEq,
    true_and] at h
  split at h
  · next hn => cases h; exact ⟨rfl, fun v hv => by rw [hn] at hv; cases hv⟩
  · next v hv =>
    split at h
    · simp only [bind_ok, EStateM.run_modify, EStateM.run_pure, EStateM.Result.ok.injEq,
        reduceCtorEq, false_and, and_false, exists_const] at h
    · next hc =>
      cases h
      refine ⟨rfl, fun w hw => ?_⟩
      rw [hv] at hw; cases hw; simpa using hc

/-- An update of a row that meets the condition. -/
theorem updateRow_of {db : Database} {v : V} (hv : (table db).get? k = some v) (hc : c v = true) :
    (updateRow table put k c f).run db = .ok (some (f v)) (put ((table db).set k (f v)) db) := by
  simp only [updateRow, EStateM.run_bind, EStateM.run_get, hv, hc, if_true, EStateM.run_modify, EStateM.run_pure]

theorem updateRow_returns (db : Database) : ∃ row db', (updateRow table put k c f).run db = .ok row db' := by
  simp only [updateRow, EStateM.run_bind, EStateM.run_get]
  split
  · exact ⟨_, _, rfl⟩
  · split
    · exact ⟨_, _, rfl⟩
    · exact ⟨_, _, rfl⟩

theorem updateRow_keeps {τ : Type} {g : Database → τ} (hput : ∀ t db, g (put t db) = g db) :
    Keeps g (updateRow table put k c f) := by
  refine .bind .get fun db => ?_
  split
  · exact .pure _
  · exact .ite (.bind (.modify fun db => hput _ db) fun _ => .pure _) (.pure _)

end

theorem insertEvent_ok {tenantId : String} {event : RunEvent} {db db' : Database} {u : Unit}
    (h : (insertEvent tenantId event).run db = .ok u db') :
    db' = { db with events := db.events ++ [⟨tenantId, event⟩] } := by
  simp only [insertEvent, bind_ok, ensure_ok, EStateM.run_get, EStateM.run_modify,
    EStateM.Result.ok.injEq, existsAndEq, true_and, exists_const, and_assoc] at h
  obtain ⟨-, -, -, rfl⟩ := h
  rfl

/-- An event with a new identifier and a new number is inserted. -/
theorem insertEvent_of {tenantId : String} {event : RunEvent} {db : Database}
    (hid : ∀ r ∈ db.events, r.event.eventId ≠ event.eventId)
    (hseq : ∀ r ∈ db.events, ¬ (r.event.runId = event.runId ∧ r.event.seq = event.seq)) :
    (insertEvent tenantId event).run db = .ok () { db with events := db.events ++ [⟨tenantId, event⟩] } := by
  simp only [insertEvent, EStateM.run_bind, EStateM.run_get, ensure, if_pos hid, if_pos hseq, EStateM.run_pure]
  rfl

/-- The tables of Runs and events. -/
def Database.runPart (db : Database) : Dict String RunRow × List EventRow := (db.runs, db.events)

theorem appendEventTx_ok {env : Env} {run : RunView} {event : RunEvent} {db db' : Database}
    {u : Unit} (h : (appendEventTx env run event).run db = .ok u db') :
    db'.runPart = (db.runs, db.events ++ [⟨run.tenantId, event⟩]) := by
  simp only [appendEventTx, bind_ok] at h
  obtain ⟨_, db₁, h₁, h₂⟩ := h
  cases insertEvent_ok h₁
  cases h₂
  rfl

theorem requestDispatch_ok {env : Env} {run : RunView} {db db' : Database} {u : Unit}
    (h : (requestDispatch env run).run db = .ok u db') : db'.runPart = db.runPart := by
  cases h; rfl

/-- A publication writes Artifact versions and the Trip only. -/
theorem publishResult_keeps {τ : Type} {g : Database → τ}
    (hg : ∀ db x y, g { db with versions := x, trips := y } = g db) (env : Env) (p : Principal)
    (run : RunView) (a : ArtifactView) : Keeps g (publishResult env p run a) := by
  have hv : ∀ k c f, Keeps g (updateVersion k c f) :=
    fun k c f => updateRow_keeps fun t db => hg db t db.trips
  have ht : ∀ k c f, Keeps g (updateTrip k c f) :=
    fun k c f => updateRow_keeps fun t db => hg db db.versions t
  have hs : ∀ trip, Keeps g (supersedeCurrent trip a) := by
    intro trip
    unfold supersedeCurrent
    split
    · exact .ite (.pure _) (.bind (hv _ _ _) fun _ => .pure _)
    · exact .pure _
  exact .bind (.ask _) fun trip => .bind (.ask _) fun _ => .bind (hv _ _ _) fun _ =>
    .ite (.bind (hs trip) fun _ => .bind (ht _ _ _) fun _ => .pure _) (.pure _)

theorem publish_keeps {τ : Type} {g : Database → τ}
    (hg : ∀ db x y, g { db with versions := x, trips := y } = g db) (env : Env) (p : Principal)
    (run : RunView) (a : Option ArtifactView) :
    Keeps g (a.forM (publishResult env p run) : TxM Unit) := by
  cases a with
  | none => exact .pure _
  | some a => exact publishResult_keeps hg env p run a

/-! ## Access -/

theorem getRunTx_ok {p : Principal} {runId : String} {db : Database} {run : RunView}
    (h : getRunTx p runId db = .ok run) :
    ∃ row, db.runs.get? runId = some row ∧ row.run = run ∧ run.tenantId = p.tenantId := by
  unfold getRunTx at h
  split at h
  · cases h
  · next row hrow =>
    split at h
    · cases h
    · next hten =>
      cases ht : getTripTx p row.run.tripId false db with
      | error e => rw [ht] at h; cases h
      | ok trip => rw [ht] at h; cases h; exact ⟨row, hrow, rfl, not_not.1 hten⟩

theorem assertExecutionLeaseTx_ok {env : Env} {run : RunView} {lease : RunExecutionLease}
    {t : Option String} {db : Database} (h : assertExecutionLeaseTx env run lease t db = .ok ()) :
    lease.runId = run.runId ∧ (∀ t' ∈ t, t' = run.tripId) ∧ ∃ row, db.runs.get? run.runId = some row ∧
      row.leaseOwner = some lease.owner ∧ row.attempt = lease.attempt ∧
      row.run.lifecycleState.isExecutable ∧
      ∃ u, row.leaseUntil = some u ∧ env.databaseNow < u := by
  unfold assertExecutionLeaseTx at h
  split at h
  · cases h
  · next hid =>
    simp only [not_or, ne_eq, not_not] at hid
    split at h
    · cases h
    · next row hrow =>
      split at h
      · cases h
      · next hno =>
        simp only [not_or, not_not, ne_eq, Bool.not_eq_true', Bool.not_eq_false] at hno
        obtain ⟨h1, h2, h3, h4⟩ := hno
        have htrip : ∀ t' ∈ t, t' = run.tripId := by
          rintro t' rfl
          simpa using hid.2
        refine ⟨hid.1, htrip, row, (Option.filter_eq_some_iff.1 hrow).1, h1, h2, h4, ?_⟩
        cases hu : row.leaseUntil with
        | none => rw [hu] at h3; exact absurd rfl h3
        | some u => rw [hu] at h3; exact ⟨u, rfl, by simpa using h3⟩

/-! ## The inversion lemma -/

/-- What a call does to Runs and events.  At most one row changes. -/
inductive RunRowChange (c : Call) (db db' : Database) : Prop
  | same (h : db'.runPart = db.runPart)
  | created {p : Principal} {r : RunCreation} {trip : TripView} (hop : c.op = .createRun p r)
      (hfresh : db.runs.get? (c.env.newPublicId "run") = none)
      (h : db'.runPart = (db.runs.set (c.env.newPublicId "run") { run := newRun c.env.toEnv p r trip },
        db.events ++ [⟨p.tenantId, newEvent c.env.toEnv (newRun c.env.toEnv p r trip) 1 .runAccepted
          (acceptedData (newRun c.env.toEnv p r trip)) r.traceId⟩]))
  | mutated {p : Principal} {runId : String} {m : RunMutation} {row : RunRow}
      (hop : c.op = .mutateRun p runId m) (hrow : db.runs.get? runId = some row)
      (hfence : checkFence c.env row.run m db = .ok ())
      (hversion : row.run.controlVersion = m.expectedControlVersion)
      (h : db'.runPart = (db.runs.set runId (applyTx c.env m row),
        db.events ++ [⟨row.run.tenantId, newEvent c.env.toEnv (m.apply c.env.toEnv row.run)
          (row.run.controlVersion + 1) m.eventType
          (m.eventData.set "control_version" (.int (row.run.controlVersion + 1 : ℕ)))
          row.run.traceId⟩]))
  | resumed {p : Principal} {runId : String} {r : RunResumption} {row : RunRow} {values : Obj}
      (hop : c.op = .resumeRun p runId r) (hrow : db.runs.get? runId = some row)
      (hwaiting : row.run.lifecycleState = .waitingInput)
      (h : db'.runPart = (db.runs.set runId
          { row with run := row.run.resumed c.env.toEnv r.requestId values },
        db.events ++ [⟨row.run.tenantId, newEvent c.env.toEnv
          (row.run.resumed c.env.toEnv r.requestId values) (row.run.controlVersion + 1)
          .runLifecycleChanged (resumedData (row.run.resumed c.env.toEnv r.requestId values))
          row.run.traceId⟩]))
  | claimed {p : Principal} {runId owner : String} {duration : ℕ} {row : RunRow}
      (hop : c.op = .claimRunExecution p runId owner duration)
      (hrow : db.runs.get? runId = some row) (hfree : row.isLeased c.env = false)
      (hexec : row.run.lifecycleState.isExecutable = true)
      (h : db'.runPart = (db.runs.set runId { row with
        leaseOwner := some owner, leaseUntil := some (c.env.databaseNow + duration)
        attempt := row.attempt + 1 }, db.events))
  | renewed {p : Principal} {lease : RunExecutionLease} {duration : ℕ} {row : RunRow}
      (hop : c.op = .renewRunExecution p lease duration)
      (hrow : db.runs.get? lease.runId = some row) (hholds : row.holds p lease = true)
      (hexec : row.run.lifecycleState.isExecutable = true)
      (h : db'.runPart = (db.runs.set lease.runId
        { row with leaseUntil := some (c.env.databaseNow + duration) }, db.events))
  | released {p : Principal} {lease : RunExecutionLease} {row : RunRow}
      (hop : c.op = .releaseRunExecution p lease) (hrow : db.runs.get? lease.runId = some row)
      (hholds : row.holds p lease = true)
      (h : db'.runPart = (db.runs.set lease.runId
        { row with leaseOwner := none, leaseUntil := none }, db.events))

theorem insertRun_ok {env : Env} {run : RunView} {db db' : Database} {x : IdempotentRunResult}
    (h : (insertRun env run).run db = .ok x db') :
    (x.run = run ∧ x.replayed = false) ∧ db.runs.get? run.runId = none ∧
      db'.runPart = (db.runs.set run.runId { run := run }, db.events ++ [⟨run.tenantId,
        newEvent env.toEnv run 1 .runAccepted (acceptedData run) run.traceId⟩]) := by
  simp only [insertRun, bind_ok, ensure_ok, EStateM.run_get, EStateM.run_modify, EStateM.run_pure,
    EStateM.Result.ok.injEq, existsAndEq, true_and, exists_const, and_assoc] at h
  obtain ⟨hfresh, _, db₁, h₁, _, h₂, rfl, -⟩ := h
  exact ⟨⟨rfl, rfl⟩, Option.isNone_iff_eq_none.1 hfresh,
    (requestDispatch_ok h₂).trans (appendEventTx_ok h₁)⟩

theorem createRun_ok {env : Env} {p : Principal} {r : RunCreation} {db db' : Database}
    {x : IdempotentRunResult} (h : (createRun env p r).run db = .ok x db') :
    (x.replayed = true ∧ db' = db) ∨ ∃ trip, (x.run = newRun env.toEnv p r trip ∧
      x.replayed = false) ∧ db.runs.get? (env.newPublicId "run") = none ∧
      db'.runPart = (db.runs.set (env.newPublicId "run") { run := newRun env.toEnv p r trip },
        db.events ++ [⟨p.tenantId, newEvent env.toEnv (newRun env.toEnv p r trip) 1 .runAccepted
          (acceptedData (newRun env.toEnv p r trip)) r.traceId⟩]) := by
  simp only [createRun, transaction_ok, bind_ok, ask_ok, ensure_ok, EStateM.run_get,
    EStateM.Result.ok.injEq, existsAndEq, true_and, exists_const, and_assoc] at h
  obtain ⟨trip, -, -, h⟩ := h
  split at h
  · simp only [bind_ok, ask_ok, ensure_ok, EStateM.run_pure, EStateM.Result.ok.injEq, existsAndEq,
      true_and, exists_const, and_assoc] at h
    obtain ⟨-, -, -, rfl, rfl⟩ := h
    exact .inl ⟨rfl, rfl⟩
  · simp only [bind_ok, ask_ok, EStateM.run_modify, EStateM.Result.ok.injEq, existsAndEq, true_and,
      exists_const, and_assoc] at h
    obtain ⟨_, -, _, -, h⟩ := h
    obtain ⟨hres, hfresh, hpart⟩ := insertRun_ok h
    exact .inr ⟨trip, hres, hfresh, hpart⟩

/-- A new Run was compared with the current version of its Trip. -/
theorem createRun_base {env : Env} {p : Principal} {r : RunCreation} {db db' : Database}
    {x : IdempotentRunResult} (h : (createRun env p r).run db = .ok x db')
    (hnew : x.replayed = false) :
    ∃ trip snapshot, getTripTx p r.tripId true db = .ok trip ∧
      currentSnapshotTx p trip db = .ok snapshot ∧ checkPlanningBase r trip snapshot = .ok () ∧
      x.run = newRun env.toEnv p r trip := by
  simp only [createRun, transaction_ok, bind_ok, ask_ok, ensure_ok, EStateM.run_get,
    EStateM.Result.ok.injEq, existsAndEq, true_and, exists_const, and_assoc] at h
  obtain ⟨trip, htrip, -, h⟩ := h
  split at h
  · simp only [bind_ok, ask_ok, ensure_ok, EStateM.run_pure, EStateM.Result.ok.injEq, existsAndEq,
      true_and, exists_const, and_assoc] at h
    obtain ⟨-, _, _, rfl, -⟩ := h
    cases hnew
  · simp only [bind_ok, ask_ok, EStateM.run_modify, EStateM.Result.ok.injEq, existsAndEq, true_and,
      exists_const, and_assoc] at h
    obtain ⟨snapshot, hsnap, _, hbase, h⟩ := h
    exact ⟨trip, snapshot, htrip, hsnap, hbase, (insertRun_ok h).1.1⟩

theorem mutateRun_ok {env : Env} {p : Principal} {runId : String} {m : RunMutation}
    {db db' : Database} {x : RunView × RunEvent} (h : (mutateRun env p runId m).run db = .ok x db') :
    ∃ row, db.runs.get? runId = some row ∧ checkFence env row.run m db = .ok () ∧
      row.run.controlVersion = m.expectedControlVersion ∧ x.1 = m.apply env.toEnv row.run ∧
      db'.runPart = (db.runs.set runId (applyTx env m row),
        db.events ++ [⟨row.run.tenantId, newEvent env.toEnv (m.apply env.toEnv row.run)
          (row.run.controlVersion + 1) m.eventType
          (m.eventData.set "control_version" (.int (row.run.controlVersion + 1 : ℕ)))
          row.run.traceId⟩]) := by
  simp only [mutateRun, transaction_ok, bind_ok, ask_ok, ensure_ok,
    existsAndEq, true_and, exists_const, and_assoc] at h
  obtain ⟨run, hread, _, hfence, hversion, _, db₁, hpub, row', db₂, hup, h⟩ := h
  have hk := publish_keeps (g := Database.runPart) (fun _ _ _ => rfl) env p run m.resultArtifact db
  rw [hpub] at hk
  have hruns : db₁.runs = db.runs := congrArg Prod.fst hk
  have hevents : db₁.events = db.events := congrArg Prod.snd hk
  split at h
  · cases h
  · simp only [bind_ok, EStateM.run_pure, EStateM.Result.ok.injEq, existsAndEq] at h
    obtain ⟨_, h₃, rfl, -⟩ := h
    obtain ⟨row, hrow, -, rfl, rfl⟩ := updateRow_some hup
    obtain ⟨row₀, hrow₀, rfl, -⟩ := getRunTx_ok hread
    rw [hruns, hrow₀] at hrow
    cases hrow
    refine ⟨row, hrow₀, hfence, hversion, rfl, (appendEventTx_ok h₃).trans ?_⟩
    simp only [hruns, hevents]
    rfl

/-- A transition that passes its checks is made when its result is published and its event is new. -/
theorem mutateRun_of_publish {env : Env} {p : Principal} {runId : String} {m : RunMutation} {run : RunView}
    {db db₁ : Database} (hread : getRunTx p runId db = .ok run) (hfence : checkFence env run m db = .ok ())
    (hversion : run.controlVersion = m.expectedControlVersion)
    (hpublish : (m.resultArtifact.forM (publishResult env p run) : TxM Unit).run db = .ok () db₁)
    (hid : ∀ r ∈ db.events, r.event.eventId ≠ env.newPublicId "evt")
    (hseq : ∀ r ∈ db.events, ¬ (r.event.runId = run.runId ∧ r.event.seq = run.controlVersion + 1)) :
    ∃ x db', (mutateRun env p runId m).run db = .ok x db' := by
  have hk := publish_keeps (g := Database.runPart) (fun _ _ _ => rfl) env p run m.resultArtifact db
  rw [hpublish] at hk
  have hruns : db₁.runs = db.runs := congrArg Prod.fst hk
  have hevents : db₁.events = db.events := congrArg Prod.snd hk
  obtain ⟨row, hrow, rfl, htenant⟩ := getRunTx_ok hread
  have hupdate : (updateRun runId
      (fun r => r.run.tenantId == p.tenantId && r.run.controlVersion == m.expectedControlVersion)
      (applyTx env m)).run db₁ =
      .ok (some (applyTx env m row)) { db₁ with runs := db₁.runs.set runId (applyTx env m row) } :=
    updateRow_of (by rw [hruns]; exact hrow) (by simp [htenant, hversion])
  have hinsert : ∀ tenantId event, event.eventId = env.newPublicId "evt" → event.runId = row.run.runId →
      event.seq = m.expectedControlVersion + 1 → ∀ runs,
      (insertEvent tenantId event).run { db₁ with runs := runs } =
        .ok () { db₁ with runs := runs, events := db₁.events ++ [⟨tenantId, event⟩] } := by
    intro tenantId event h₁ h₂ h₃ runs
    refine insertEvent_of ?_ ?_
    · rw [h₁, hevents]
      exact hid
    · rw [h₂, h₃, hevents, ← hversion]
      exact hseq
  simp only [mutateRun, transaction_run, EStateM.run_bind, run_ask, hread, hfence, ensure, hversion, if_true,
    EStateM.run_pure, hpublish, hupdate, appendEventTx]
  rw [hinsert _ _ rfl rfl rfl]
  exact ⟨_, _, rfl⟩

theorem resumeRun_ok {env : Env} {p : Principal} {runId : String} {r : RunResumption}
    {db db' : Database} {x : IdempotentRunResult}
    (h : (resumeRun env p runId r).run db = .ok x db') :
    (x.replayed = true ∧ db' = db) ∨ ∃ row values, (x.run = row.run.resumed env.toEnv r.requestId values ∧
      x.replayed = false) ∧ db.runs.get? runId = some row ∧
      row.run.lifecycleState = .waitingInput ∧
      db'.runPart = (db.runs.set runId
          { row with run := row.run.resumed env.toEnv r.requestId values },
        db.events ++ [⟨row.run.tenantId, newEvent env.toEnv
          (row.run.resumed env.toEnv r.requestId values) (row.run.controlVersion + 1)
          .runLifecycleChanged (resumedData (row.run.resumed env.toEnv r.requestId values))
          row.run.traceId⟩]) := by
  simp only [resumeRun, transaction_ok, bind_ok, ask_ok, EStateM.run_get, EStateM.Result.ok.injEq,
    existsAndEq, true_and, and_assoc] at h
  obtain ⟨run, hread, _, -, h⟩ := h
  split at h
  · simp only [bind_ok, ask_ok, ensure_ok, EStateM.run_pure, EStateM.Result.ok.injEq, existsAndEq,
      true_and, exists_const, and_assoc] at h
    obtain ⟨-, -, -, -, rfl, rfl⟩ := h
    exact .inl ⟨rfl, rfl⟩
  · simp only [applyResumption, bind_ok, ask_ok, ensure_ok, EStateM.run_modify,
      EStateM.Result.ok.injEq, existsAndEq, true_and, exists_const, and_assoc] at h
    obtain ⟨-, values, -, row', db₂, hup, h⟩ := h
    split at h
    · cases h
    · simp only [bind_ok, EStateM.run_pure, EStateM.Result.ok.injEq, existsAndEq] at h
      obtain ⟨_, db₃, h₃, _, h₄, rfl, -⟩ := h
      obtain ⟨row, hrow, hc, rfl, rfl⟩ := updateRow_some hup
      obtain ⟨row₀, hrow₀, rfl, -⟩ := getRunTx_ok hread
      have : row = row₀ := Option.some.inj (hrow.symm.trans hrow₀)
      subst this
      simp only [Bool.and_eq_true, beq_iff_eq] at hc
      exact .inr ⟨row, values, ⟨rfl, rfl⟩, hrow₀, hc.2,
        (requestDispatch_ok h₄).trans (appendEventTx_ok h₃)⟩

theorem claimRunExecution_ok {env : Env} {p : Principal} {runId owner : String} {duration : ℕ}
    {db db' : Database} {x : Option RunExecutionLease}
    (h : (claimRunExecution env p runId owner duration).run db = .ok x db') :
    (x = none ∧ db' = db) ∨ ∃ row, db.runs.get? runId = some row ∧ row.isLeased env = false ∧
      row.run.lifecycleState.isExecutable = true ∧
      x = some ⟨runId, owner, row.attempt + 1, env.databaseNow + duration⟩ ∧
      db' = { db with runs := db.runs.set runId { row with
        leaseOwner := some owner, leaseUntil := some (env.databaseNow + duration)
        attempt := row.attempt + 1 } } := by
  simp only [claimRunExecution, transaction_ok, bind_ok, ask_ok,
    existsAndEq, true_and, and_assoc] at h
  obtain ⟨_, -, run, hread, h⟩ := h
  split at h
  · cases h; exact .inl ⟨rfl, rfl⟩
  · simp only [bind_ok, ask_ok, existsAndEq, true_and, and_assoc] at h
    obtain ⟨row, hrow, h⟩ := h
    have hget : db.runs.get? runId = some row := by
      split at hrow
      · next row' hr => cases hrow; exact hr
      · cases hrow
    split at h
    · cases h; exact .inl ⟨rfl, rfl⟩
    · next hfree =>
      simp only [bind_ok, EStateM.run_pure, EStateM.Result.ok.injEq, existsAndEq, and_true] at h
      obtain ⟨claimed, h, rfl⟩ := h
      cases claimed with
      | none => obtain ⟨rfl, -⟩ := updateRow_none h; exact .inl ⟨rfl, rfl⟩
      | some w =>
        obtain ⟨row', hrow', hc, rfl, rfl⟩ := updateRow_some h
        rw [hget] at hrow'; cases hrow'
        simp only [Bool.and_eq_true] at hc
        exact .inr ⟨row, hget, by simpa using hfree, hc.2, rfl, rfl⟩

theorem renewRunExecution_ok {env : Env} {p : Principal} {lease : RunExecutionLease}
    {duration : ℕ} {db db' : Database} {x : Option RunExecutionLease}
    (h : (renewRunExecution env p lease duration).run db = .ok x db') :
    (x = none ∧ db' = db) ∨ ∃ row, db.runs.get? lease.runId = some row ∧ row.holds p lease = true ∧
      row.leaseUntil.any (env.databaseNow < ·) = true ∧
      row.run.lifecycleState.isExecutable = true ∧
      x = some { lease with leaseUntil := env.databaseNow + duration } ∧
      db' = { db with
        runs := db.runs.set lease.runId
          { row with leaseUntil := some (env.databaseNow + duration) } } := by
  simp only [renewRunExecution, transaction_ok, bind_ok, ask_ok, EStateM.run_pure,
    EStateM.Result.ok.injEq, existsAndEq, true_and, and_true, and_assoc] at h
  obtain ⟨_, -, _, -, renewed, h, rfl⟩ := h
  cases renewed with
  | none => obtain ⟨rfl, -⟩ := updateRow_none h; exact .inl ⟨rfl, rfl⟩
  | some w =>
    obtain ⟨row, hrow, hc, rfl, rfl⟩ := updateRow_some h
    simp only [Bool.and_eq_true] at hc
    exact .inr ⟨row, hrow, hc.1.1, hc.1.2, hc.2, rfl, rfl⟩

theorem releaseRunExecution_ok {p : Principal} {lease : RunExecutionLease}
    {db db' : Database} {x : Bool} (h : (releaseRunExecution p lease).run db = .ok x db') :
    (x = false ∧ db' = db) ∨ ∃ row, db.runs.get? lease.runId = some row ∧
      row.holds p lease = true ∧ x = true ∧
      db' = { db with
        runs := db.runs.set lease.runId
          { row with leaseOwner := none, leaseUntil := none } } := by
  simp only [releaseRunExecution, transaction_ok, bind_ok, ask_ok, EStateM.run_pure,
    EStateM.Result.ok.injEq, existsAndEq, true_and, and_true, and_assoc] at h
  obtain ⟨_, -, released, h, rfl⟩ := h
  cases released with
  | none => obtain ⟨rfl, -⟩ := updateRow_none h; exact .inl ⟨rfl, rfl⟩
  | some w =>
    obtain ⟨row, hrow, hc, -, rfl⟩ := updateRow_some h
    exact .inr ⟨row, hrow, hc, rfl, rfl⟩

/-- A transaction keeps what its code keeps. -/
theorem transaction_keeps {α τ : Type} {g : Database → τ} {x : TxM α} (h : Keeps g x) :
    Keeps g (transaction x) := by
  intro db
  have hx := h db
  cases hr : (transaction x).run db with
  | error e db' => rw [transaction_error hr]; rfl
  | ok a db' => rw [transaction_ok.1 hr] at hx; exact hx

/-- The operations on Runs write Runs, events, keys and the outbox, and a transition also what it
    publishes. -/
theorem runOp_keeps_of_writesRuns {τ : Type} {g : Database → τ} (env : Env) (o : StoreOp)
    (hg : ∀ (db : Database) x y z u,
      g { db with runs := x, events := y, idempotencyKeys := z, outbox := u } = g db)
    (hm : (∃ p runId m, o = .mutateRun p runId m) → ∀ (db : Database) x y,
      g { db with versions := x, trips := y } = g db)
    (h : o.WritesRuns) : Keeps g (runOp env o) := by
  have hr : ∀ k c f, Keeps g (updateRun k c f) :=
    fun k c f => updateRow_keeps fun _ db => hg db _ _ _ _
  have ho : ∀ t a i e x, Keeps g (insertOutbox env t a i e x) :=
    fun _ _ _ _ _ => .modify fun db => hg db _ _ _ _
  have he : ∀ run event, Keeps g (appendEventTx env run event) :=
    fun run event => .bind (.bind .get fun _ => .bind (.ensure _ _) fun _ =>
      .bind (.ensure _ _) fun _ => .modify fun db => hg db _ _ _ _) fun _ => ho _ _ _ _ _
  cases o with
  | createRun p c =>
    refine transaction_keeps (.bind (.ask _) fun _ => .bind (.ensure _ _) fun _ =>
      .bind .get fun db => ?_)
    split
    · exact .bind (.ensure _ _) fun _ => .bind (.ask _) fun _ => .pure _
    · exact .bind (.modify fun db => hg db _ _ _ _) fun _ => .bind (.ask _) fun _ =>
        .bind (.ask _) fun _ => .bind .get fun _ => .bind (.ensure _ _) fun _ =>
        .bind (.modify fun db => hg db _ _ _ _) fun _ =>
        .bind (he _ _) fun _ => .bind (ho _ _ _ _ _) fun _ => .pure _
  | mutateRun p runId m =>
    refine transaction_keeps (.bind (.ask _) fun run => .bind (.ask _) fun _ =>
      .bind (.ensure _ _) fun _ => .bind (publish_keeps (hm ⟨p, runId, m, rfl⟩) env p run _) fun _ =>
      .bind (hr _ _ _) fun row => ?_)
    split
    · exact .throw _
    · exact .bind (he _ _) fun _ => .pure _
  | resumeRun p runId r =>
    refine transaction_keeps (.bind (.ask _) fun _ => .bind (.ask _) fun _ => .bind .get fun db => ?_)
    split
    · exact .bind (.ensure _ _) fun _ => .bind (.ask _) fun _ => .pure _
    · refine .bind (.modify fun db => hg db _ _ _ _) fun _ => .bind (.ensure _ _) fun _ =>
        .bind (.ask _) fun _ => .bind (hr _ _ _) fun row => ?_
      split
      · exact .throw _
      · exact .bind (he _ _) fun _ => .bind (ho _ _ _ _ _) fun _ => .pure _
  | claimRunExecution p runId owner duration =>
    exact transaction_keeps (.bind (.ask _) fun _ => .bind (.ask _) fun _ => .ite (.pure _)
      (.bind (.ask _) fun _ => .ite (.pure _) (.bind (hr _ _ _) fun _ => .pure _)))
  | renewRunExecution p lease duration =>
    exact transaction_keeps (.bind (.ask _) fun _ => .bind (.ask _) fun _ =>
      .bind (hr _ _ _) fun _ => .pure _)
  | releaseRunExecution p lease =>
    exact transaction_keeps (.bind (.ask _) fun _ => .bind (hr _ _ _) fun _ => .pure _)
  | _ => exact absurd h id

/-- Every other operation writes Trips, members and Artifacts, and outbox records of Trips and Artifacts. -/
theorem runOp_keeps_of_others {τ : Type} {g : Database → τ} (env : Env) (o : StoreOp)
    (hg : ∀ (db : Database) x z w, g { db with trips := x, artifacts := z, versions := w } = g db)
    (hout : ∀ (db : Database) (r : OutboxRow), r.aggregateType ≠ "run" → r.eventType ≠ "run.dispatch.requested" →
      g { db with outbox := db.outbox ++ [r] } = g db)
    (hm : o.WritesMembers → ∀ (db : Database) y, g { db with members := y } = g db)
    (h : ¬ o.WritesRuns) : Keeps g (runOp env o) := by
  have ht : ∀ k c f, Keeps g (updateTrip k c f) :=
    fun k c f => updateRow_keeps fun _ db => hg db _ _ _
  have hv : ∀ k c f, Keeps g (updateVersion k c f) :=
    fun k c f => updateRow_keeps fun _ db => hg db _ _ _
  have ho : ∀ t a i e x, a ≠ "run" → e ≠ "run.dispatch.requested" → Keeps g (insertOutbox env t a i e x) :=
    fun _ _ _ _ _ ha he => .modify fun db => hout db _ ha he
  have hw : ∀ p t v f e, e ≠ "run.dispatch.requested" → Keeps g (writeTrip env p t v f e) := by
    intro p t v f e he
    refine .bind (ht _ _ _) fun row => ?_
    split
    · exact .throw _
    · exact .bind (ho _ _ _ _ _ (by decide) he) fun _ => .pure _
  have hi : ∀ a, Keeps g (insertVersion a) :=
    fun a => .bind .get fun _ => .bind (.ensure _ _) fun _ => .modify fun db => hg db _ _ _
  cases o with
  | createRun | mutateRun | resumeRun | claimRunExecution | renewRunExecution
  | releaseRunExecution => exact absurd trivial h
  | createTrip =>
    exact transaction_keeps (.bind .get fun _ => .bind (.ensure _ _) fun _ =>
      .bind (.ensure _ _) fun _ =>
      .bind (.modify fun db => (hm trivial { db with trips := _ } _).trans (hg db _ _ _)) fun _ =>
      .bind (ho _ _ _ _ _ (by decide) (by decide)) fun _ => .pure _)
  | listTrips => exact .bind .get fun _ => .pure _
  | getTrip | getRun | getArtifact => exact .ask _
  | patchTrip => exact transaction_keeps (.bind (.ask _) fun _ => hw _ _ _ _ _ (by decide))
  | setTripStatus p tripId status =>
    exact transaction_keeps (.bind (.ask _) fun _ => hw _ _ _ _ _ (by cases status <;> decide))
  | listTripMembers | listEvents | waitForEvents | listArtifacts =>
    exact .bind (.ask _) fun _ => .bind .get fun _ => .pure _
  | upsertTripMember =>
    exact transaction_keeps (.bind (.ensure _ _) fun _ => .bind (.ask _) fun _ =>
      .bind (.bind (.ensure _ _) fun _ => .ensure _ _) fun _ => .bind .get fun _ =>
      .bind (.ensure _ _) fun _ => .bind (.modify fun db => hm trivial db _) fun _ =>
      .bind (ho _ _ _ _ _ (by decide) (by decide)) fun _ => .pure _)
  | removeTripMember =>
    exact transaction_keeps (.bind (.ask _) fun _ =>
      .bind (.bind (.ensure _ _) fun _ => .ensure _ _) fun _ => .bind .get fun _ =>
      .bind (.ensure _ _) fun _ => .bind (.modify fun db => hm trivial db _) fun _ =>
      ho _ _ _ _ _ (by decide) (by decide))
  | createArtifact =>
    exact transaction_keeps (.bind (.ask _) fun _ => .bind (.ask _) fun _ => .bind .get fun _ =>
      .bind (.ensure _ _) fun _ => .bind (.modify fun db => hg db _ _ _) fun _ => .bind (hi _) fun _ =>
      .bind (ho _ _ _ _ _ (by decide) (by decide)) fun _ => .pure _)
  | patchArtifact =>
    exact transaction_keeps (.bind (.ask _) fun _ => .bind (.ask _) fun _ =>
      .bind (.ensure _ _) fun _ => .bind (.ask _) fun _ => .bind (hi _) fun _ =>
      .bind (ho _ _ _ _ _ (by decide) (by decide)) fun _ => .pure _)
  | commandArtifact p artifactId request key requestHash =>
    have hp : ∀ trip i v, Keeps g (pointTripTx env p trip i v) :=
      fun trip i v => .bind (ht _ _ _) fun _ => .ensure _ _
    have hc : ∀ trip current target,
        Keeps g (pointByCommand env p trip current target) := by
      intro trip current target
      cases target with
      | published => exact hp _ _ _
      | revoked => exact .ite (hp _ _ _) (.pure _)
      | _ => exact .pure _
    have hs : ∀ current target, Keeps g (supersedeByCommand p current target) := by
      intro current target
      cases target with
      | published => exact .modify fun db => hg db _ _ _
      | _ => exact .pure _
    refine transaction_keeps (.bind (.ask _) fun _ => .bind (.ask _) fun _ => .bind .get fun db => ?_)
    split
    · exact .ask _
    · exact .bind (.ask _) fun _ => .bind (.ensure _ _) fun _ => .bind (.ensure _ _) fun _ =>
        .bind (.ask _) fun _ => .bind (hs _ _) fun _ =>
        .bind (hv _ _ _) fun _ => .bind (.ensure _ _) fun _ => .bind (hc _ _ _) fun _ =>
        .bind (ho _ _ _ _ _ (by decide) (by cases request.type <;> decide)) fun _ => .pure _

theorem runOp_keeps_of_not_writesRuns {τ : Type} {g : Database → τ} (env : Env) (o : StoreOp)
    (hg : ∀ (db : Database) x z w u,
      g { db with trips := x, artifacts := z, versions := w, outbox := u } = g db)
    (hm : o.WritesMembers → ∀ (db : Database) y, g { db with members := y } = g db)
    (h : ¬ o.WritesRuns) : Keeps g (runOp env o) :=
  runOp_keeps_of_others env o (fun db x z w => hg db x z w db.outbox)
    (fun db _ _ _ => hg db db.trips db.artifacts db.versions _) hm h

/-- The members of Trips are written by three operations. -/
theorem runOp_keeps_members (env : Env) (o : StoreOp) (h : ¬ o.WritesMembers) :
    Keeps Database.members (runOp env o) := by
  by_cases hw : o.WritesRuns
  · exact runOp_keeps_of_writesRuns env o (fun _ _ _ _ _ => rfl) (fun _ _ _ _ => rfl) hw
  · exact runOp_keeps_of_not_writesRuns env o (fun _ _ _ _ _ => rfl) (fun hm => absurd hm h) hw

theorem runOp_keeps_runPart (env : Env) (o : StoreOp) (h : ¬ o.WritesRuns) :
    Keeps Database.runPart (runOp env o) :=
  runOp_keeps_of_not_writesRuns env o (fun _ _ _ _ _ => rfl) (fun _ _ _ => rfl) h

/-- The inversion lemma of the PostgreSQL store for Runs and events. -/
theorem runRowChange {c : Call} {db db' : Database} (h : postgresStore.step db c db') :
    RunRowChange c db db' := by
  obtain ⟨env, o⟩ := c
  obtain rfl | ⟨r, h⟩ := h
  · exact .same rfl
  · by_cases hw : o.WritesRuns
    · cases o with
      | createRun =>
        obtain ⟨-, rfl⟩ | ⟨trip, -, hfresh, hpart⟩ := createRun_ok h
        · exact .same rfl
        · exact .created rfl hfresh hpart
      | mutateRun =>
        obtain ⟨row, hrow, hfence, hversion, -, hpart⟩ := mutateRun_ok h
        exact .mutated rfl hrow hfence hversion hpart
      | resumeRun =>
        obtain ⟨-, rfl⟩ | ⟨row, values, -, hrow, hwaiting, hpart⟩ := resumeRun_ok h
        · exact .same rfl
        · exact .resumed rfl hrow hwaiting hpart
      | claimRunExecution =>
        obtain ⟨-, rfl⟩ | ⟨row, hrow, hfree, hexec, -, rfl⟩ := claimRunExecution_ok h
        · exact .same rfl
        · exact .claimed rfl hrow hfree hexec rfl
      | renewRunExecution =>
        obtain ⟨-, rfl⟩ | ⟨row, hrow, hholds, -, hexec, -, rfl⟩ := renewRunExecution_ok h
        · exact .same rfl
        · exact .renewed rfl hrow hholds hexec rfl
      | releaseRunExecution =>
        obtain ⟨-, rfl⟩ | ⟨row, hrow, hholds, -, rfl⟩ := releaseRunExecution_ok h
        · exact .same rfl
        · exact .released rfl hrow hholds rfl
      | _ => exact absurd hw id
    · have hk := runOp_keeps_runPart env o hw db
      simp only at h
      rw [h] at hk
      exact .same hk

end RoutePilot.Postgres
