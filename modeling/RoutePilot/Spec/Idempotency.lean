/-
  The idempotency keys of Run creation and resumption, as both stores keep them.

  A store has one entry for each `(tenant, user, operation, key)`: the request
  hash and the Run of the call that succeeded under it.  `KeyChange` says what
  a call does to the entries, by its result; both stores are instances of
  `KeyedRuns`.
-/
import RoutePilot.Spec.RunBackend

namespace RoutePilot

open Lib

/-- `(tenant, user, operation, key)`. -/
abbrev OpKey := String × String × String × String

/-- The entry of a creation or resumption that succeeded: its key, with the request hash and the
    Run. -/
def OpLabel.entry {ε : Type} : OpLabel ε → Option (OpKey × String × String)
  | ⟨_, .createRun p c, .ok x⟩ =>
    some ((p.tenantId, p.userId, "run.create", c.idempotencyKey), c.requestHash, x.run.runId)
  | ⟨_, .resumeRun p runId r, .ok _⟩ =>
    some ((p.tenantId, p.userId, "run.resume", r.idempotencyKey), r.requestHash, runId)
  | _ => none

/-- The call returned what an earlier one had done. -/
def OpLabel.replayed {ε : Type} : OpLabel ε → Bool
  | ⟨_, .createRun _ _, .ok x⟩ => x.replayed
  | ⟨_, .resumeRun _ _ _, .ok x⟩ => x.replayed
  | _ => false

/-- The hash and the Run of a call that succeeded under a key. -/
def OpLabel.under {ε : Type} (k : OpKey) (l : OpLabel ε) : Option (String × String) :=
  (l.entry.filter fun e => e.1 = k).map (·.2)

theorem OpLabel.under_eq_some {ε : Type} {k : OpKey} {l : OpLabel ε} {v : String × String} :
    l.under k = some v ↔ l.entry = some (k, v) := by
  simp only [OpLabel.under, Option.map_eq_some_iff, Option.filter_eq_some_iff, decide_eq_true_eq]
  constructor
  · rintro ⟨⟨k', v'⟩, ⟨he, rfl⟩, rfl⟩; exact he
  · intro he; exact ⟨(k, v), ⟨he, rfl⟩, rfl⟩

/-- The entries of a store. -/
abbrev KeyTable := OpKey → Option (String × String)

/-- What a call does to the entries. -/
def KeyChange {σ ε : Type} (keys : σ → KeyTable) (l : OpLabel ε) (s s' : σ) : Prop :=
  match l.entry with
  | none => keys s' = keys s
  | some (k, v) => (l.replayed = true ∧ keys s k = some v ∧ s' = s) ∨
      (l.replayed = false ∧ keys s k = none ∧ keys s' = Function.update (keys s) k (some v))

/-- The `run.dispatch.requested` records of an outbox. -/
def dispatchesOf (outbox : List Postgres.OutboxRow) : List Postgres.OutboxRow :=
  outbox.filter (·.eventType = "run.dispatch.requested")

/-- A store that keys its Run creations and resumptions. -/
structure KeyedRuns {σ ε : Type} (B : Backend σ ε) extends RunBackend B where
  /-- the operation, as the store executes it -/
  call : ε → (o : StoreOp) → EStateM StoreError σ o.Ans
  /-- the Trip, if the principal may write it -/
  writable : Principal → String → σ → Except StoreError TripView
  /-- the Run, if the principal may read it -/
  readable : Principal → String → σ → Except StoreError RunView
  keys : σ → KeyTable
  /-- the dispatch requests, if the store has an outbox -/
  dispatches : σ → Option (List Postgres.OutboxRow)
  ok_init : Ok B.init
  keys_init : ∀ k, keys B.init k = none
  keyChange : ∀ {l s s'}, Ok s → B.fresh l.env s → B.exec l.env l.op s l.result s' →
    KeyChange keys l s s'
  dispatched : ∀ {env p c s x s'}, B.exec env (.createRun p c) s (.ok x) s' → x.replayed = false →
    ∀ rows ∈ dispatches s, ∃ row, row.aggregateId = x.run.runId ∧
      dispatches s' = some (rows ++ [row])
  answered : ∀ {env p runId r s x s'}, Ok s → B.exec env (.resumeRun p runId r) s (.ok x) s' →
    x.replayed = false → ∃ run events values, log s runId = some (run, events) ∧
      checkResumption { B.caller env with now := B.clock env } r run = .ok values ∧
      x.run = run.resumed (B.caller env) r.requestId values
  createConflict : ∀ {env p c s hash runId trip},
    keys s (p.tenantId, p.userId, "run.create", c.idempotencyKey) = some (hash, runId) →
    hash ≠ c.requestHash → writable p c.tripId s = .ok trip → trip.status = .active →
    (call env (.createRun p c)).run s =
      .error (.idempotencyConflict "idempotency key reused with different request") s
  resumeConflict : ∀ {env p runId r s hash runId' run trip},
    keys s (p.tenantId, p.userId, "run.resume", r.idempotencyKey) = some (hash, runId') →
    (hash ≠ r.requestHash ∨ runId' ≠ runId) → readable p runId s = .ok run →
    writable p run.tripId s = .ok trip →
    (call env (.resumeRun p runId r)).run s =
      .error (.idempotencyConflict "idempotency key reused with different request") s

/-- Only creations and resumptions write the keys. -/
def StoreOp.IsKeyed : StoreOp → Prop
  | .createRun .. | .resumeRun .. => True
  | _ => False

/-! ## The in-memory store -/

/-- The entries of the in-memory store, which keeps creations and resumptions in two tables. -/
def Store.keys (st : Store) : KeyTable := fun (tenant, user, operation, key) =>
  if operation = "run.create" then st.idempotency.get? (tenant, user, key)
  else st.runControlIdempotency.get? (tenant, user, operation, key)

/-- The tables of the keys. -/
def Store.keyPart (st : Store) : Dict (String × String × String) (String × String) ×
    Dict (String × String × String × String) (String × String) :=
  (st.idempotency, st.runControlIdempotency)

theorem Store.keys_congr {st st' : Store} (h : st'.keyPart = st.keyPart) : st'.keys = st.keys := by
  have h₁ : st'.idempotency = st.idempotency := congrArg Prod.fst h
  have h₂ : st'.runControlIdempotency = st.runControlIdempotency := congrArg Prod.snd h
  unfold Store.keys
  rw [h₁, h₂]

theorem StoreOp.keeps_keyPart (env : Env) (o : StoreOp) (h : ¬ o.IsKeyed) :
    Keeps Store.keyPart (o.run env) := by
  by_cases hw : o.WritesRuns
  · cases o with
    | createRun | resumeRun => exact absurd trivial h
    | claimRunExecution | renewRunExecution | releaseRunExecution =>
      exact StoreOp.keeps_of_isLeases (f := Store.keyPart) (fun _ _ _ => rfl) env _ rfl
    | mutateRun p runId m =>
      refine .bind (.ask _) fun run => .bind (.ask _) fun _ => .bind (.ensure _ _) fun _ => ?_
      refine .bind (publish_keeps (fun _ _ _ => rfl) env p run m.resultArtifact) fun _ => ?_
      exact .bind (.modify fun _ => rfl) fun _ => .bind
        (.bind .get fun _ => .bind (.modify fun _ => rfl) fun _ => .pure _) fun _ => .pure _
    | _ => exact absurd hw id
  · exact o.keeps_of_not_writesRuns (fun _ _ _ _ _ => rfl) env hw

/-- A new entry of the table of creations. -/
theorem Store.keys_created {st st' : Store} {tenant user key : String} {v : String × String}
    (h : st'.idempotency = st.idempotency.set (tenant, user, key) v)
    (h' : st'.runControlIdempotency = st.runControlIdempotency) :
    st'.keys = Function.update st.keys (tenant, user, "run.create", key) (some v) := by
  funext ⟨t, u, o, k⟩
  simp only [Store.keys, h, h', Function.update_apply, Prod.mk.injEq, Dict.get?_set]
  by_cases ho : o = "run.create" <;> simp [ho]

/-- A new entry of the table of resumptions. -/
theorem Store.keys_resumed {st st' : Store} {tenant user key : String} {v : String × String}
    (h : st'.idempotency = st.idempotency)
    (h' : st'.runControlIdempotency =
      st.runControlIdempotency.set (tenant, user, "run.resume", key) v) :
    st'.keys = Function.update st.keys (tenant, user, "run.resume", key) (some v) := by
  funext ⟨t, u, o, k⟩
  simp only [Store.keys, h, h', Function.update_apply, Prod.mk.injEq, Dict.get?_set]
  by_cases ho : o = "run.create" <;> simp [ho]

/-- A call with no entry leaves the keys alone. -/
theorem memory_keys_same {l : OpLabel Env} {st st' : Store} (hl : l.entry = none)
    (h : memoryBackend.exec l.env l.op st l.result st') : st'.keys = st.keys := by
  obtain ⟨env, o, r⟩ := l
  by_cases hk : o.IsKeyed
  · cases o with
    | createRun p c =>
      cases r with
      | ok x => cases hl
      | error e => rw [createRun_error (memoryBackend_exec_error h)]
    | resumeRun p runId q =>
      cases r with
      | ok x => cases hl
      | error e => rw [resumeRun_error (memoryBackend_exec_error h)]
    | _ => exact absurd hk id
  · rw [h.2]
    exact Store.keys_congr (o.keeps_keyPart env hk st)

theorem memory_keyChange {l : OpLabel Env} {st st' : Store} (hok : LogOk st.log)
    (h : memoryBackend.exec l.env l.op st l.result st') : KeyChange Store.keys l st st' := by
  cases hl : l.entry with
  | none => simpa only [KeyChange, hl] using memory_keys_same hl h
  | some e =>
    obtain ⟨k, v⟩ := e
    simp only [KeyChange, hl]
    obtain ⟨env, o, r⟩ := l
    cases r with
    | error e => cases o <;> cases hl
    | ok x =>
      have hx := memoryBackend_exec_ok h
      cases o with
      | createRun p c =>
        cases hl
        obtain ⟨hrep, rfl, runId, hkey, hrun⟩ | ⟨hrep, trip, hc, hrun⟩ := createRun_ok hx
        · have hid : x.run.runId = runId := (hok runId _ _ (Store.log_eq_some.2 ⟨hrun, rfl⟩)).1
          exact .inl ⟨hrep, by rw [hid]; exact hkey, rfl⟩
        · refine .inr ⟨hrep, hc.fresh, Store.keys_created ?_ ?_⟩
          · rw [hc.final, hrun]; rfl
          · rw [hc.final]
      | resumeRun p runId r =>
        cases hl
        obtain ⟨hrep, rfl, -, hkey⟩ | ⟨hrep, run, values, hr, -⟩ := resumeRun_ok hx
        · exact .inl ⟨hrep, hkey, rfl⟩
        · refine .inr ⟨hrep, hr.fresh, Store.keys_resumed ?_ ?_⟩
          · rw [hr.final]
          · rw [hr.final]
      | _ => cases hl

/-- A key used before, with another hash. -/
theorem createRun_conflict {env : Env} {p : Principal} {c : RunCreation} {st : Store}
    {hash runId : String} {trip : TripView}
    (hkey : st.idempotency.get? (p.tenantId, p.userId, c.idempotencyKey) = some (hash, runId))
    (hne : hash ≠ c.requestHash) (hwrite : tripLocked p c.tripId true st = .ok trip)
    (hact : trip.status = .active) : (createRun env p c).run st =
      .error (.idempotencyConflict "idempotency key reused with different request") st := by
  simp only [createRun, EStateM.run_bind, run_ask, hwrite, ensure, hact, if_true, EStateM.run_pure,
    EStateM.run_get, hkey, if_neg hne]
  rfl

theorem resumeRun_conflict {env : Env} {p : Principal} {runId : String} {r : RunResumption}
    {st : Store} {hash runId' : String} {run : RunView}
    (hkey : st.runControlIdempotency.get? (p.tenantId, p.userId, "run.resume", r.idempotencyKey) =
      some (hash, runId'))
    (hne : hash ≠ r.requestHash ∨ runId' ≠ runId) (hread : runLocked p runId st = .ok run) :
    (resumeRun env p runId r).run st =
      .error (.idempotencyConflict "idempotency key reused with different request") st := by
  have hno : ¬ (hash = r.requestHash ∧ runId' = runId) := fun h => hne.elim (· h.1) (· h.2)
  simp only [resumeRun, EStateM.run_bind, run_ask, hread, EStateM.run_get, hkey, ensure, if_neg hno]
  rfl

def memoryKeyed : KeyedRuns memoryBackend where
  toRunBackend := memoryRuns
  call env o := o.run env
  writable p tripId st := tripLocked p tripId true st
  readable p runId st := runLocked p runId st
  keys := Store.keys
  dispatches _ := none
  ok_init := Store.logOk_empty
  keys_init k := by simp only [Store.keys]; split <;> rfl
  keyChange hok _ h := memory_keyChange hok h
  dispatched _ _ _ h := by cases h
  answered {env p runId r st x st'} hok h hnew := by
    obtain ⟨hrep, -⟩ | ⟨-, run, values, hr, hrun⟩ := resumeRun_ok (memoryBackend_exec_ok h)
    · rw [hrep] at hnew; cases hnew
    · obtain ⟨-, hlog, -⟩ := hr.log hok
      exact ⟨run, _, values, hlog, hr.waiting, hrun⟩
  createConflict hkey hne hwrite hact := createRun_conflict hkey hne hwrite hact
  resumeConflict hkey hne hread _ := resumeRun_conflict hkey hne hread

/-! ## The PostgreSQL store -/

namespace Postgres

/-- The entries of `v1_idempotency_keys`. -/
def Database.keys (db : Database) : KeyTable := fun k =>
  (db.idempotencyKeys.get? k).map fun row => (row.requestHash, row.responseRunId)

theorem Database.keys_set {db db' : Database} {k : OpKey} {row : IdempotencyRow}
    (h : db'.idempotencyKeys = db.idempotencyKeys.set k row) :
    db'.keys = Function.update db.keys k (some (row.requestHash, row.responseRunId)) := by
  funext k'
  simp only [Database.keys, h, Function.update_apply, Dict.get?_set]
  by_cases hk : k' = k <;> simp [hk]

theorem Database.keys_congr {db db' : Database} (h : db'.idempotencyKeys = db.idempotencyKeys) :
    db'.keys = db.keys := by
  unfold Database.keys
  rw [h]

theorem appendEventTx_keeps {τ : Type} {g : Database → τ}
    (hg : ∀ (db : Database) x y, g { db with events := x, outbox := y } = g db) (env : Env)
    (run : RunView) (event : RunEvent) : Keeps g (appendEventTx env run event) :=
  .bind (.bind .get fun _ => .bind (.ensure _ _) fun _ => .bind (.ensure _ _) fun _ =>
    .modify fun db => hg db _ db.outbox) fun _ => .modify fun db => hg db db.events _

/-- An operation that is neither a creation nor a resumption leaves the keys alone. -/
theorem runOp_keeps_keys (env : Env) (o : StoreOp) (h : ¬ o.IsKeyed) :
    Keeps Database.idempotencyKeys (runOp env o) := by
  have hu : ∀ k c f, Keeps Database.idempotencyKeys (updateRun k c f) :=
    fun k c f => updateRow_keeps fun _ _ => rfl
  by_cases hw : o.WritesRuns
  · cases o with
    | createRun | resumeRun => exact absurd trivial h
    | claimRunExecution p runId owner duration =>
      refine transaction_keeps (.bind (.ask _) fun _ => .bind (.ask _) fun run => .ite (.pure _) ?_)
      exact .bind (.ask _) fun row => .ite (.pure _) (.bind (hu _ _ _) fun _ => .pure _)
    | renewRunExecution =>
      exact transaction_keeps (.bind (.ask _) fun _ => .bind (.ask _) fun _ =>
        .bind (hu _ _ _) fun _ => .pure _)
    | releaseRunExecution =>
      exact transaction_keeps (.bind (.ask _) fun _ => .bind (hu _ _ _) fun _ => .pure _)
    | mutateRun p runId m =>
      refine transaction_keeps (.bind (.ask _) fun run => .bind (.ask _) fun _ =>
        .bind (.ensure _ _) fun _ => ?_)
      refine .bind (publish_keeps (fun _ _ _ => rfl) env p run m.resultArtifact) fun _ =>
        .bind (hu _ _ _) fun row => ?_
      split
      · exact .throw _
      · exact .bind (appendEventTx_keeps (fun _ _ _ => rfl) env _ _) fun _ => .pure _
    | _ => exact absurd hw id
  · exact runOp_keeps_of_not_writesRuns env o (fun _ _ _ _ _ => rfl) (fun _ _ _ => rfl) hw

/-- The keys and the outbox after the insertion of a Run. -/
theorem insertRun_rows {env : Env} {run : RunView} {db db' : Database} {x : IdempotentRunResult}
    (h : (insertRun env run).run db = .ok x db') :
    db'.idempotencyKeys = db.idempotencyKeys ∧ ∃ event row, row.aggregateId = run.runId ∧
      event.eventType = EventType.runAccepted.value ∧
      row.eventType = "run.dispatch.requested" ∧ db'.outbox = db.outbox ++ [event] ++ [row] := by
  simp only [insertRun, bind_ok, ensure_ok, EStateM.run_get, EStateM.run_modify, EStateM.run_pure,
    EStateM.Result.ok.injEq, existsAndEq, true_and, exists_const, and_assoc, appendEventTx] at h
  obtain ⟨-, _, db₁, ⟨_, db₂, h₁, h₂⟩, _, h₃, -⟩ := h
  cases insertEvent_ok h₁
  cases h₂
  cases h₃
  exact ⟨rfl, _, _, rfl, rfl, rfl, rfl⟩

/-- What a creation reads from the keys and writes to them. -/
theorem createRun_keys {env : Env} {p : Principal} {c : RunCreation} {db db' : Database}
    {x : IdempotentRunResult} (h : (createRun env p c).run db = .ok x db') :
    (x.replayed = true ∧ db' = db ∧ ∃ row, db.idempotencyKeys.get?
        (p.tenantId, p.userId, "run.create", c.idempotencyKey) = some row ∧
        row.requestHash = c.requestHash ∧ getRunTx p row.responseRunId db = .ok x.run) ∨
      (x.replayed = false ∧ ∃ trip db₁, x.run = newRun env.toEnv p c trip ∧
        db.idempotencyKeys.get? (p.tenantId, p.userId, "run.create", c.idempotencyKey) = none ∧
        db₁ = { db with
          idempotencyKeys := db.idempotencyKeys.set
            (p.tenantId, p.userId, "run.create", c.idempotencyKey)
            ⟨c.requestHash, env.newPublicId "run", env.now, env.now + idempotencyLife⟩ } ∧
        (insertRun env (newRun env.toEnv p c trip)).run db₁ = .ok x db') := by
  simp only [createRun, transaction_ok, bind_ok, ask_ok, ensure_ok, EStateM.run_get,
    EStateM.Result.ok.injEq, existsAndEq, true_and, exists_const, and_assoc] at h
  obtain ⟨trip, -, -, h⟩ := h
  split at h
  · next row hkey =>
    simp only [bind_ok, ask_ok, ensure_ok, EStateM.run_pure, EStateM.Result.ok.injEq, existsAndEq,
      true_and, exists_const, and_assoc] at h
    obtain ⟨hhash, run, hrun, rfl, rfl⟩ := h
    exact .inl ⟨rfl, rfl, row, hkey, hhash, hrun⟩
  · next hkey =>
    simp only [bind_ok, ask_ok, EStateM.run_modify, EStateM.Result.ok.injEq, existsAndEq, true_and,
      exists_const, and_assoc] at h
    obtain ⟨_, -, _, -, h⟩ := h
    have hres := (insertRun_ok h).1
    exact .inr ⟨hres.2, trip, _, hres.1, hkey, rfl, h⟩

/-- What a resumption reads from the keys and writes to them, and the request it answers. -/
theorem resumeRun_keys {env : Env} {p : Principal} {runId : String} {r : RunResumption}
    {db db' : Database} {x : IdempotentRunResult}
    (h : (resumeRun env p runId r).run db = .ok x db') :
    (x.replayed = true ∧ db' = db ∧ ∃ row, db.idempotencyKeys.get?
        (p.tenantId, p.userId, "run.resume", r.idempotencyKey) = some row ∧
        row.requestHash = r.requestHash ∧ row.responseRunId = runId) ∨
      (x.replayed = false ∧
        db.idempotencyKeys.get? (p.tenantId, p.userId, "run.resume", r.idempotencyKey) = none ∧
        db'.idempotencyKeys = db.idempotencyKeys.set
          (p.tenantId, p.userId, "run.resume", r.idempotencyKey)
          ⟨r.requestHash, runId, env.now, env.now + idempotencyLife⟩ ∧
        ∃ row values, db.runs.get? runId = some row ∧
          checkResumption { env.toEnv with now := env.databaseNow } r row.run = .ok values ∧
          x.run = row.run.resumed env.toEnv r.requestId values) := by
  simp only [resumeRun, transaction_ok, bind_ok, ask_ok, EStateM.run_get, EStateM.Result.ok.injEq,
    existsAndEq, true_and, and_assoc] at h
  obtain ⟨run, hread, _, -, h⟩ := h
  split at h
  · next row hkey =>
    simp only [bind_ok, ask_ok, ensure_ok, EStateM.run_pure, EStateM.Result.ok.injEq, existsAndEq,
      true_and, exists_const, and_assoc] at h
    obtain ⟨hhash, hid, _, -, rfl, rfl⟩ := h
    exact .inl ⟨rfl, rfl, row, hkey, hhash, hid⟩
  · next hkey =>
    simp only [applyResumption, bind_ok, ask_ok, ensure_ok, EStateM.run_modify,
      EStateM.Result.ok.injEq, existsAndEq, true_and, exists_const, and_assoc] at h
    obtain ⟨-, values, hcheck, row', db₂, hup, h⟩ := h
    split at h
    · cases h
    · simp only [bind_ok, EStateM.run_pure, EStateM.Result.ok.injEq, existsAndEq] at h
      obtain ⟨_, db₃, h₃, _, h₄, rfl, -⟩ := h
      obtain ⟨row, hrow, -, rfl, rfl⟩ := updateRow_some hup
      obtain ⟨row₀, hrow₀, rfl, -⟩ := getRunTx_ok hread
      cases Option.some.inj (hrow.symm.trans hrow₀)
      refine .inr ⟨rfl, hkey, ?_, row, values, hrow₀, hcheck, rfl⟩
      cases h₄
      exact (appendEventTx_keeps (g := Database.idempotencyKeys) (fun _ _ _ => rfl) env _ _).ok h₃

/-- A call with no entry leaves the keys alone. -/
theorem keys_same {l : OpLabel Env} {db db' : Database} (hl : l.entry = none)
    (h : postgresBackend.exec l.env l.op db l.result db') : db'.keys = db.keys := by
  obtain ⟨env, o, r⟩ := l
  cases r with
  | error e => rw [postgresBackend_exec_error h]
  | ok x =>
    have hx := postgresBackend_exec_ok h
    by_cases hk : o.IsKeyed
    · cases o with
      | createRun | resumeRun => cases hl
      | _ => exact absurd hk id
    · exact Database.keys_congr ((runOp_keeps_keys env o hk).ok hx)

theorem keyChange {l : OpLabel Env} {db db' : Database} (hok : DatabaseOk db)
    (h : postgresBackend.exec l.env l.op db l.result db') : KeyChange Database.keys l db db' := by
  cases hl : l.entry with
  | none => simpa only [KeyChange, hl] using keys_same hl h
  | some e =>
    obtain ⟨k, v⟩ := e
    simp only [KeyChange, hl]
    obtain ⟨env, o, r⟩ := l
    cases r with
    | error e => cases o <;> cases hl
    | ok x =>
      have hx := postgresBackend_exec_ok h
      cases o with
      | createRun p c =>
        cases hl
        obtain ⟨hrep, rfl, row, hkey, hhash, hrun⟩ | ⟨hrep, trip, db₁, hrun, hkey, rfl, hins⟩ :=
          createRun_keys hx
        · obtain ⟨row', hrow', hrun', -⟩ := getRunTx_ok hrun
          have hid : x.run.runId = row.responseRunId :=
            (hok.log _ _ _ (Database.log_eq_some.2 ⟨row', hrow', hrun', rfl⟩)).1
          refine .inl ⟨hrep, ?_, rfl⟩
          rw [Database.keys, hkey, hid, ← hhash]; rfl
        · refine .inr ⟨hrep, by rw [Database.keys, hkey]; rfl, ?_⟩
          rw [hrun]
          exact Database.keys_set (insertRun_rows hins).1
      | resumeRun p runId r =>
        cases hl
        obtain ⟨hrep, rfl, row, hkey, hhash, hid⟩ | ⟨hrep, hkey, hkeys, -⟩ := resumeRun_keys hx
        · refine .inl ⟨hrep, ?_, rfl⟩
          rw [Database.keys, hkey, ← hhash, ← hid]; rfl
        · exact .inr ⟨hrep, by rw [Database.keys, hkey]; rfl, Database.keys_set hkeys⟩
      | _ => cases hl

theorem createRun_conflict {env : Env} {p : Principal} {c : RunCreation} {db : Database}
    {hash runId : String} {trip : TripView}
    (hkey : db.keys (p.tenantId, p.userId, "run.create", c.idempotencyKey) = some (hash, runId))
    (hne : hash ≠ c.requestHash) (hwrite : getTripTx p c.tripId true db = .ok trip)
    (hact : trip.status = .active) : (createRun env p c).run db =
      .error (.idempotencyConflict "idempotency key reused with different request") db := by
  obtain ⟨row, hrow, hv⟩ := Option.map_eq_some_iff.1 hkey
  cases hv
  simp only [createRun, transaction_run, EStateM.run_bind, run_ask, hwrite, ensure, hact, if_true,
    EStateM.run_pure, EStateM.run_get, hrow, if_neg hne]
  rfl

theorem resumeRun_conflict {env : Env} {p : Principal} {runId : String} {r : RunResumption}
    {db : Database} {hash runId' : String} {run : RunView} {trip : TripView}
    (hkey : db.keys (p.tenantId, p.userId, "run.resume", r.idempotencyKey) = some (hash, runId'))
    (hne : hash ≠ r.requestHash ∨ runId' ≠ runId) (hread : getRunTx p runId db = .ok run)
    (hwrite : getTripTx p run.tripId true db = .ok trip) : (resumeRun env p runId r).run db =
      .error (.idempotencyConflict "idempotency key reused with different request") db := by
  obtain ⟨row, hrow, hv⟩ := Option.map_eq_some_iff.1 hkey
  cases hv
  have hno : ¬ (row.requestHash = r.requestHash ∧ row.responseRunId = runId) :=
    fun h => hne.elim (· h.1) (· h.2)
  simp only [resumeRun, transaction_run, EStateM.run_bind, run_ask, hread, hwrite, EStateM.run_get, hrow,
    ensure, if_neg hno]
  rfl

end Postgres

def postgresKeyed : KeyedRuns postgresBackend where
  toRunBackend := postgresRuns
  call := Postgres.runOp
  writable p tripId db := Postgres.getTripTx p tripId true db
  readable p runId db := Postgres.getRunTx p runId db
  keys := Postgres.Database.keys
  dispatches db := some (dispatchesOf db.outbox)
  ok_init := Postgres.postgresStore_ok (.init rfl : Postgres.postgresStore.Reach Lts.anyStep {})
  keys_init _ := rfl
  keyChange hok _ h := Postgres.keyChange hok h
  dispatched {env p c db x db'} h hnew rows hrows := by
    obtain ⟨hrep, -⟩ | ⟨-, trip, db₁, hrun, -, rfl, hins⟩ :=
      Postgres.createRun_keys (postgresBackend_exec_ok h)
    · rw [hrep] at hnew; cases hnew
    · obtain ⟨-, event, row, hid, htype, htype', hout⟩ := Postgres.insertRun_rows hins
      cases hrows
      refine ⟨row, by rw [hid, hrun], ?_⟩
      rw [hout]
      simp [dispatchesOf, List.filter_append, htype, htype', EventType.value]
  answered {env p runId r db x db'} _ h hnew := by
    obtain ⟨hrep, -⟩ | ⟨-, -, -, row, values, hrow, hcheck, hrun⟩ :=
      Postgres.resumeRun_keys (postgresBackend_exec_ok h)
    · rw [hrep] at hnew; cases hnew
    · exact ⟨row.run, _, values, Postgres.Database.log_eq_some.2 ⟨row, hrow, rfl, rfl⟩, hcheck, hrun⟩
  createConflict hkey hne hwrite hact := Postgres.createRun_conflict hkey hne hwrite hact
  resumeConflict hkey hne hread hwrite := Postgres.resumeRun_conflict hkey hne hread hwrite

end RoutePilot
