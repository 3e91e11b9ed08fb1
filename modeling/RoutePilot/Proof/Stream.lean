/-
  What a stream of events delivers, over any store that logs its Runs.

  The stream has always yielded an initial segment of the events after its
  starting cursor.  It has yielded all of them when it ends at a terminal Run,
  unless that Run ended between the empty list of events and the read of the
  Run (`NoLateEnd`).
-/
import Mathlib.Data.List.Infix
import RoutePilot.Api.Stream
import RoutePilot.Postgres.Log
import RoutePilot.Store.Log

namespace RoutePilot

open Lib Lts

/-- What an operation does to the events of one Run: nothing, or it appends one event; a Run is
    terminal afterwards only if the operation ended it. -/
inductive Grows {ε : Type} (id : String) (l : OpLabel ε) (L L' : RunLog) : Prop
  | same (h : L' id = L id)
  | appended (run : RunView) (e : RunEvent) (h : L' id = some (run, L.events id ++ [e]))
      (hends : run.lifecycleState.isTerminal → l.EndsRun id)

/-- The operations of a stream. -/
def StoreOp.IsStreamRead : StoreOp → Prop
  | .listEvents .. | .getRun .. | .waitForEvents .. => True
  | _ => False

section
variable {σ ε : Type} (B : Backend σ ε) (log : σ → RunLog)

/-- What a stream needs of a store; `Ok` holds in its reachable states. -/
structure StreamInterface (Ok : σ → Prop) : Prop where
  init_ok : Ok B.init
  logOk : ∀ s, Ok s → LogOk (log s)
  step : ∀ env o s r s', Ok s → B.fresh env s → B.exec env o s r s' →
    Ok s' ∧ ∀ id, Grows id ⟨env, o, r⟩ (log s) (log s')
  reads : ∀ env o s r s', B.exec env o s r s' → StoreOp.IsStreamRead o → s' = s
  listEvents : ∀ env p id n s events s', Ok s → B.exec env (.listEvents p id n) s (.ok events) s' →
    events = ((log s).events id).filter (n < ·.seq)
  getRun : ∀ env p id s run s', B.exec env (.getRun p id) s (.ok run) s' →
    ∃ events, log s id = some (run, events)

/-- **Delivery.**  For every Run and every starting cursor. -/
structure StreamDelivers (p : Principal) (runId : String) (after : ℕ) : Prop where
  /-- the yielded numbers are consecutive, from the first one after the cursor -/
  consecutive : ∀ w, (streamSystem B p runId after).Reach anyStep w →
    w.stream.yielded.map (·.seq) = List.range' (after + 1) w.stream.yielded.length
  /-- a stream that ends at a terminal Run has yielded every event of the Run after its cursor -/
  complete : ∀ w w', (streamSystem B p runId after).Reach (NoLateEnd runId) w →
    StreamStep B p runId w w' → w'.stream.pc = .ended .terminal →
    ∀ e ∈ (log w'.store).events runId, after < e.seq → e ∈ w'.stream.yielded

variable {B log}

/-- The events listed and not yet yielded. -/
def StreamPc.rest : StreamPc → List RunEvent
  | .yielding _ _ rest => rest
  | _ => []

/-- The invariant of a stream. -/
structure StreamOk (log : σ → RunLog) (runId : String) (after : ℕ) (w : StreamWorld σ) : Prop where
  cursor : w.stream.cursor = after + w.stream.yielded.length
  delivered : w.stream.yielded ++ w.stream.pc.rest <+: ((log w.store).events runId).drop after
  nonempty : ∀ q events rest, w.stream.pc = .yielding q events rest → events ≠ []

/-- An empty list of events was complete, as long as the Run has not ended since. -/
def CaughtUp (log : σ → RunLog) (runId : String) (after : ℕ) (w : StreamWorld σ) : Prop :=
  ∀ q, w.stream.pc = .getRun q [] → (log w.store).Ended runId →
    w.stream.yielded = ((log w.store).events runId).drop after

theorem LogOk.numbered_events {L : RunLog} (h : LogOk L) (id : String) :
    (∃ run, Numbered run (L.events id)) ∨ L.events id = [] := by
  unfold RunLog.events
  cases hL : L id with
  | none => exact .inr rfl
  | some x => exact .inl ⟨x.1, (h id x.1 x.2 hL).2⟩

theorem LogOk.filter_seq {L : RunLog} (h : LogOk L) (id : String) (n : ℕ) :
    (L.events id).filter (n < ·.seq) = (L.events id).drop n := by
  obtain ⟨run, hn⟩ | hnil := h.numbered_events id
  · exact hn.filter_seq n
  · rw [hnil]; simp

theorem LogOk.seq {L : RunLog} (h : LogOk L) {id : String} {i : ℕ} {e : RunEvent}
    (he : (L.events id)[i]? = some e) : e.seq = i + 1 := by
  obtain ⟨run, hn⟩ | hnil := h.numbered_events id
  · exact hn.seq i e he
  · rw [hnil] at he; cases he

/-- Growth keeps an initial segment one. -/
theorem Grows.isPrefix {l : OpLabel ε} {L L' : RunLog} {id : String} (h : Grows id l L L')
    {es : List RunEvent} {n : ℕ} (hp : es <+: (L.events id).drop n) :
    es <+: (L'.events id).drop n := by
  cases h with
  | same h => rwa [RunLog.events, h]
  | appended run e h =>
    have : L'.events id = L.events id ++ [e] := by rw [RunLog.events, h]; rfl
    rw [this, List.drop_append]
    exact hp.trans (List.prefix_append _ _)

theorem rest_afterList (q : Principal) (events rest : List RunEvent) :
    (afterList q events rest).rest = rest := by
  cases rest <;> rfl

/-! ## The steps of the generator -/

theorem getElem?_of_isPrefix {α : Type} {xs ys : List α} {i : ℕ} {a : α} (h : xs <+: ys)
    (ha : xs[i]? = some a) : ys[i]? = some a := by
  obtain ⟨zs, rfl⟩ := h
  rw [List.getElem?_append_left (List.getElem?_eq_some_iff.1 ha).1, ha]

/-- A step that yields nothing keeps what was delivered. -/
theorem StreamOk.goto {runId : String} {after : ℕ} {s : σ} {g : Stream} {pc : StreamPc}
    (h : StreamOk log runId after ⟨s, g⟩) (hpc : ∀ q events rest, pc ≠ .yielding q events rest) :
    StreamOk log runId after ⟨s, { g with pc := pc }⟩ where
  cursor := h.cursor
  delivered := by
    have hrest : pc.rest = [] := by
      cases pc with
      | yielding q events rest => exact absurd rfl (hpc q events rest)
      | _ => rfl
    show g.yielded ++ pc.rest <+: _
    rw [hrest, List.append_nil]
    exact (List.prefix_append _ _).trans h.delivered
  nonempty q events rest he := absurd he (hpc q events rest)

/-- Listing the events after the cursor: what was yielded and what was listed are all of them. -/
theorem StreamOk.listed {runId : String} {after : ℕ} {s : σ} {g : Stream} (hlog : LogOk (log s))
    (h : StreamOk log runId after ⟨s, g⟩) :
    g.yielded ++ ((log s).events runId).filter (g.cursor < ·.seq) =
      ((log s).events runId).drop after := by
  have hp : g.yielded <+: ((log s).events runId).drop after :=
    (List.prefix_append _ _).trans h.delivered
  rw [hlog.filter_seq, show g.cursor = after + g.yielded.length from h.cursor, ← List.drop_drop]
  exact (List.prefix_append_drop hp).symm

/-- The next listed event has the number after the cursor. -/
theorem StreamOk.next_seq {runId : String} {after : ℕ} {s : σ} {g : Stream} {q : Principal}
    {events rest : List RunEvent} {e : RunEvent} (hlog : LogOk (log s))
    (h : StreamOk log runId after ⟨s, g⟩) (hpc : g.pc = .yielding q events (e :: rest)) :
    e.seq = g.cursor + 1 := by
  have hd := h.delivered
  rw [show g.pc.rest = e :: rest by rw [hpc]; rfl] at hd
  have hget : (((log s).events runId).drop after)[g.yielded.length]? = some e :=
    getElem?_of_isPrefix hd (by simp)
  rw [List.getElem?_drop] at hget
  rw [hlog.seq hget, show g.cursor = after + g.yielded.length from h.cursor]

theorem StreamOk.step {Ok : σ → Prop} (hB : StreamInterface B log Ok) {p : Principal}
    {runId : String} {after : ℕ} {w w' : StreamWorld σ} (hok : Ok w.store)
    (h : StreamOk log runId after w) (hs : StreamStep B p runId w w') :
    Ok w'.store ∧ StreamOk log runId after w' := by
  cases hs with
  | connected | disconnected | authorized | changed | unauthenticated | timedOut | heartbeat
  | closed => exact ⟨hok, h.goto nofun⟩
  | listRaised env e hpc hexec | readRaised env e hpc hexec | waitRaised env e hpc hexec
  | available env hpc hexec =>
    obtain rfl := hB.reads _ _ _ _ _ hexec trivial
    exact ⟨hok, h.goto nofun⟩
  | @read s s' g q events env run hpc hexec =>
    obtain rfl := hB.reads _ _ _ _ _ hexec trivial
    refine ⟨hok, h.goto fun q' events' rest => ?_⟩
    unfold afterRun
    split <;> nofun
  | @listed s s' g q env events hpc hexec =>
    obtain rfl := hB.reads _ _ _ _ _ hexec trivial
    have hall := h.listed (hB.logOk _ hok)
    rw [← hB.listEvents _ _ _ _ _ _ _ hok hexec] at hall
    refine ⟨hok, h.cursor, ?_, fun q' events' rest hpc' => ?_⟩
    · show g.yielded ++ (afterList q events events).rest <+: _
      rw [rest_afterList, hall]
    · cases events with
      | nil => cases hpc'
      | cons e es => cases hpc'; nofun
  | @yielded s g q events rest e hpc =>
    have hseq := h.next_seq (hB.logOk _ hok) hpc
    have hd := h.delivered
    rw [show g.pc.rest = e :: rest by rw [hpc]; rfl] at hd
    refine ⟨hok, ?_, ?_, fun q' events' rest' hpc' => ?_⟩
    · show e.seq = after + (g.yielded ++ [e]).length
      rw [hseq, show g.cursor = after + g.yielded.length from h.cursor, List.length_append]
      rfl
    · show (g.yielded ++ [e]) ++ (afterList q events rest).rest <+: _
      rw [rest_afterList, List.append_assoc]
      exact hd
    · have hne := h.nonempty q events _ hpc
      cases rest with
      | nil => cases hpc'
      | cons e' es => cases hpc'; exact hne

theorem streamOk {Ok : σ → Prop} (hB : StreamInterface B log Ok) {p : Principal} {runId : String}
    {after : ℕ} {w : StreamWorld σ} (h : (streamSystem B p runId after).Reach anyStep w) :
    Ok w.store ∧ StreamOk log runId after w := by
  refine h.invariant (I := fun w => Ok w.store ∧ StreamOk log runId after w) ?_ ?_
  · rintro w rfl
    exact ⟨hB.init_ok, rfl, List.nil_prefix, nofun⟩
  · rintro ⟨s, g⟩ l ⟨s', g'⟩ - ⟨hok, hw⟩ - hs
    cases l with
    | stream => exact hw.step hB hok hs
    | store l =>
      obtain ⟨hfresh, hexec, rfl⟩ := hs
      obtain ⟨hok', hgrow⟩ := hB.step _ _ _ _ _ hok hfresh hexec
      exact ⟨hok', hw.cursor, (hgrow runId).isPrefix hw.delivered, hw.nonempty⟩

/-! ## The end of a stream -/

theorem CaughtUp.step {Ok : σ → Prop} (hB : StreamInterface B log Ok) {p : Principal}
    {runId : String} {after : ℕ} {w w' : StreamWorld σ} (hok : Ok w.store)
    (h : StreamOk log runId after w) (hs : StreamStep B p runId w w') :
    CaughtUp log runId after w' := by
  intro q₀ hpc₀
  cases hs with
  | connected | disconnected | authorized | changed | unauthenticated | timedOut | heartbeat
  | closed | listRaised | readRaised | waitRaised | available => cases hpc₀
  | @read s s' g q events env run hpc hexec =>
    exfalso
    simp only [afterRun] at hpc₀
    split at hpc₀ <;> cases hpc₀
  | @listed s s' g q env events hpc hexec =>
    intro _
    obtain rfl := hB.reads _ _ _ _ _ hexec trivial
    have hall := h.listed (hB.logOk _ hok)
    rw [← hB.listEvents _ _ _ _ _ _ _ hok hexec] at hall
    cases events with
    | nil => rwa [List.append_nil] at hall
    | cons e es => cases hpc₀
  | @yielded s g q events rest e hpc =>
    have hne := h.nonempty q events _ hpc
    cases rest with
    | nil => cases hpc₀; exact absurd rfl hne
    | cons e' es => cases hpc₀

theorem caughtUp {Ok : σ → Prop} (hB : StreamInterface B log Ok) {p : Principal} {runId : String}
    {after : ℕ} {w : StreamWorld σ}
    (h : (streamSystem B p runId after).Reach (NoLateEnd runId) w) : CaughtUp log runId after w := by
  refine h.invariant (I := CaughtUp log runId after) ?_ ?_
  · rintro w rfl q hpc
    cases hpc
  · rintro ⟨s, g⟩ l ⟨s', g'⟩ hr hw hlate hs
    obtain ⟨hok, hstream⟩ := streamOk hB (hr.mono fun _ _ _ => trivial)
    cases l with
    | stream => exact .step hB hok hstream hs
    | store l =>
      obtain ⟨hfresh, hexec, rfl⟩ := hs
      intro q hpc hended
      cases (hB.step _ _ _ _ _ hok hfresh hexec).2 runId with
      | same hsame =>
        have hev : (log s').events runId = (log s).events runId := by
          rw [RunLog.events, RunLog.events, hsame]
        have hend : (log s).Ended runId := by rwa [RunLog.Ended, hsame] at hended
        exact (hw q hpc hend).trans (by rw [hev])
      | appended run e happ hends =>
        obtain ⟨run', events', hL, hterm⟩ := hended
        rw [happ] at hL; cases hL
        exact absurd (hends hterm) (hlate q hpc)

/-- **A store with this interface delivers every event.** -/
theorem StreamInterface.delivers {Ok : σ → Prop} (hB : StreamInterface B log Ok) :
    StreamDelivers B log p runId after where
  consecutive w hw := by
    obtain ⟨hok, hstream⟩ := streamOk hB hw
    have hlog := hB.logOk _ hok
    have hp : w.stream.yielded <+: ((log w.store).events runId).drop after :=
      (List.prefix_append _ _).trans hstream.delivered
    apply List.ext_getElem (by simp)
    intro i h₁ h₂
    rw [List.length_map] at h₁
    have hget := getElem?_of_isPrefix hp (List.getElem?_eq_getElem h₁)
    rw [List.getElem?_drop] at hget
    rw [List.getElem_map, hlog.seq hget, List.getElem_range']
    omega
  complete w w' hw hs hend e he hseq := by
    obtain ⟨hok, hstream⟩ := streamOk hB (hw.mono fun _ _ _ => trivial)
    have hcaught := caughtUp hB hw
    cases hs with
    | connected | disconnected | authorized | changed | unauthenticated | timedOut | heartbeat
    | closed | listRaised | readRaised | waitRaised | available => cases hend
    | @listed s s' g q env events hpc hexec => cases events <;> cases hend
    | @yielded s g q events rest e hpc => cases rest <;> cases hend
    | @read s s' g q events env run hpc hexec =>
      obtain rfl := hB.reads _ _ _ _ _ hexec trivial
      obtain ⟨all, hL⟩ := hB.getRun _ _ _ _ _ _ hexec
      simp only [afterRun] at hend
      split at hend
      · next hterm =>
        rw [hterm.2] at hpc
        have hall : g.yielded = _ := hcaught q hpc ⟨run, all, hL, hterm.1⟩
        show e ∈ g.yielded
        rw [hall, ← (hB.logOk _ hok).filter_seq]
        exact List.mem_filter.2 ⟨he, by simpa using hseq⟩
      · cases hend

end

/-! ## The in-memory store -/

theorem RunLog.events_of_none {L : RunLog} {id : String} (h : L id = none) : L.events id = [] := by
  rw [RunLog.events, h]; rfl

theorem RunLog.events_of_some {L : RunLog} {id : String} {run : RunView} {events : List RunEvent}
    (h : L id = some (run, events)) : L.events id = events := by
  rw [RunLog.events, h]; rfl

/-- One entry of the log is written: nothing else grows. -/
theorem Grows.update {ε : Type} {l : OpLabel ε} {L L' : RunLog} {k : String} {run : RunView}
    {events : List RunEvent} {e : RunEvent}
    (h : L' = Function.update L k (some (run, events ++ [e]))) (hevents : L.events k = events)
    (hends : run.lifecycleState.isTerminal → l.EndsRun k) (id : String) : Grows id l L L' := by
  by_cases hid : id = k
  · subst hid
    exact .appended run e (by rw [h, Function.update_self, hevents]) hends
  · exact .same (by rw [h, Function.update_of_ne hid])

theorem memory_grows {env : Env} {o : StoreOp} {st st' : Store} {r : Except StoreError o.Ans}
    (hok : LogOk st.log) (hfresh : memoryBackend.fresh env st)
    (h : memoryBackend.exec env o st r st') (id : String) :
    Grows id ⟨env, o, r⟩ st.log st'.log := by
  have hchange := (⟨env, o⟩ : StoreCall).runChange st
  rw [← memoryBackend_step h] at hchange
  cases hchange with
  | same hs => exact .same (by rw [Store.log_congr hs])
  | @created p c trip hop hc =>
    have hnone : st.log.events (env.newPublicId "run") = [] := by
      refine RunLog.events_of_none ?_
      rw [Store.log, hfresh.2]; rfl
    exact Grows.update hc.log hnone (fun hterm => by cases hterm) id
  | @resumed p runId c run values hop hc =>
    obtain ⟨rfl, hlog, hlog'⟩ := hc.log hok
    exact Grows.update hlog' (RunLog.events_of_some hlog) (fun hterm => by cases hterm) id
  | @mutated p runId m run st₁ hop hm =>
    obtain ⟨rfl, hlog, hlog'⟩ := hm.log hok
    change o = _ at hop
    subst hop
    cases r with
    | error e =>
      have hp := mutateRun_error_runPart (memoryBackend_exec_error h)
      exact .same (by rw [Store.log_congr (congrArg Prod.fst hp)])
    | ok x =>
      refine Grows.update hlog' (RunLog.events_of_some hlog) (fun hterm => ?_) id
      obtain ⟨run₂, st₂, hm₂, hx⟩ := mutateRun_ok (memoryBackend_exec_ok h)
      have hrun : run₂ = run := Except.ok.inj (hm₂.read.symm.trans hm.read)
      refine ⟨rfl, ?_⟩
      rw [hx, hrun]
      exact hterm

theorem listEvents_ok {p : Principal} {id : String} {n : ℕ} {st st' : Store}
    {events : List RunEvent} (h : (listEvents p id n).run st = .ok events st') :
    events = (st.log.events id).filter (n < ·.seq) := by
  simp only [listEvents, bind_ok, ask_ok, EStateM.run_get, EStateM.run_pure,
    EStateM.Result.ok.injEq, existsAndEq, true_and, and_assoc] at h
  obtain ⟨run, hrun, rfl, -⟩ := h
  rw [RunLog.events_of_some (Store.log_eq_some.2 ⟨(runLocked_ok hrun).1, rfl⟩)]

theorem memory_streamInterface :
    StreamInterface memoryBackend Store.log (fun st => LogOk st.log) where
  init_ok := by intro id run events h; cases h
  logOk st h := h
  step env o st r st' hok hfresh hexec := by
    refine ⟨?_, fun id => memory_grows hok hfresh hexec id⟩
    rw [memoryBackend_step hexec]
    exact ((StoreCall.runChange ⟨env, o⟩ st).logStep hok).logOk
      (fun run events hn => by rw [byLength, hn.length]) hok
  reads env o st r st' hexec hread := by
    have hk : Keeps id (o.run env) := by
      cases o with
      | getRun => exact .ask _
      | listEvents | waitForEvents => exact .bind (.ask _) fun _ => .bind .get fun _ => .pure _
      | _ => exact absurd hread id
    exact hexec.2.trans (hk st)
  listEvents env p id n st events st' _ hexec := listEvents_ok (memoryBackend_exec_ok hexec)
  getRun env p id st run st' hexec := by
    obtain ⟨hrun, -⟩ := ask_ok.1 (memoryBackend_exec_ok hexec)
    exact ⟨_, Store.log_eq_some.2 ⟨(runLocked_ok hrun).1, rfl⟩⟩

/-! ## The PostgreSQL store -/

/-- The listed events are those of the Run, in their order. -/
theorem eventsOf_eq {db : Postgres.Database} (hok : Postgres.DatabaseOk db) {id : String}
    {row : Postgres.RunRow} (hrow : db.runs.get? id = some row) (n : ℕ) :
    Postgres.eventsOf row.run.tenantId id n db = (db.runEvents id).filter (n < ·.seq) := by
  have hlog := Postgres.Database.log_eq_some.2 ⟨row, hrow, rfl, rfl⟩
  have hn : Numbered row.run (db.runEvents id) := (hok.log id _ _ hlog).2
  -- the events of the Run belong to its tenant
  have hfilter : db.events.filter (fun r => r.tenantId == row.run.tenantId && r.event.runId == id &&
      decide (n < r.event.seq)) =
      (db.events.filter (·.event.runId == id)).filter (fun r => decide (n < r.event.seq)) := by
    rw [List.filter_filter]
    apply List.filter_congr
    intro r hr
    by_cases hid : r.event.runId = id
    · obtain ⟨row', hrow', hten⟩ := hok.owned r hr
      rw [hid, hrow] at hrow'; cases hrow'
      simp [hid, hten]
    · have hne : (r.event.runId == id) = false := by simpa using hid
      simp [hne]
  rw [Postgres.eventsOf, hfilter, Postgres.Database.runEvents, List.filter_map]
  apply List.mergeSort_of_pairwise
  -- numbered events are sorted
  have hsorted : (db.runEvents id).Pairwise fun a b => a.seq ≤ b.seq := by
    rw [← List.pairwise_map, hn.map_seq]
    exact (List.pairwise_lt_range' 1).imp fun h => h.le
  have := (hsorted.filter (n < ·.seq))
  rw [Postgres.Database.runEvents, List.filter_map] at this
  simpa using this

theorem listEventsTx_ok {db db' : Postgres.Database} (hok : Postgres.DatabaseOk db) {p : Principal}
    {id : String} {n : ℕ} {events : List RunEvent}
    (h : (Postgres.listEvents p id n).run db = .ok events db') :
    events = (db.log.events id).filter (n < ·.seq) := by
  simp only [Postgres.listEvents, bind_ok, ask_ok, EStateM.run_get, EStateM.run_pure,
    EStateM.Result.ok.injEq, existsAndEq, true_and, and_assoc] at h
  obtain ⟨run, hrun, rfl, -⟩ := h
  obtain ⟨row, hrow, rfl, hten⟩ := Postgres.getRunTx_ok hrun
  rw [← hten, eventsOf_eq hok hrow,
    RunLog.events_of_some (Postgres.Database.log_eq_some.2 ⟨row, hrow, rfl, rfl⟩)]

theorem postgres_grows {env : Postgres.Env} {o : StoreOp} {db db' : Postgres.Database}
    {r : Except StoreError o.Ans} (hok : Postgres.DatabaseOk db)
    (h : postgresBackend.exec env o db r db') (id : String) :
    Grows id ⟨env, o, r⟩ db.log db'.log := by
  cases r with
  | error e => exact .same (by rw [postgresBackend_exec_error h])
  | ok x =>
    have hkey : ∀ {id row}, db.runs.get? id = some row → row.run.runId = id ∧
        db.log id = some (row.run, db.runEvents id) := fun {id row} hrow =>
      have hlog := Postgres.Database.log_eq_some.2 ⟨row, hrow, rfl, rfl⟩
      ⟨(hok.log id _ _ hlog).1, hlog⟩
    cases Postgres.runRowChange (postgresBackend_step h) with
    | same hs =>
      have hr : db'.runs = db.runs := congrArg Prod.fst hs
      have he : db'.events = db.events := congrArg Prod.snd hs
      exact .same (by rw [Postgres.Database.log, Postgres.Database.log, Postgres.Database.runEvents,
        Postgres.Database.runEvents, hr, he])
    | claimed hop hrow hfree hexec hp => exact .same (by rw [(Postgres.lease_log hp hrow rfl).1])
    | renewed hop hrow hholds hexec hp => exact .same (by rw [(Postgres.lease_log hp hrow rfl).1])
    | released hop hrow hholds hp => exact .same (by rw [(Postgres.lease_log hp hrow rfl).1])
    | @created p c trip hop hfresh hp =>
      have hw : Postgres.Wrote db db' (env.newPublicId "run")
        { run := newRun env.toEnv p c trip } _ := ⟨hp, rfl⟩
      refine Grows.update hw.log (RunLog.events_of_none ?_ |>.trans ?_) (fun hterm => by cases hterm) id
      · rw [Postgres.Database.log, hfresh]; rfl
      · exact (hok.owned.runEvents_eq_nil hfresh).symm
    | @resumed p runId c row values hop hrow hwaiting hp =>
      obtain ⟨rfl, hlog⟩ := hkey hrow
      have hw : Postgres.Wrote db db' row.run.runId
        { row with run := row.run.resumed env.toEnv c.requestId values } _ := ⟨hp, rfl⟩
      exact Grows.update hw.log (RunLog.events_of_some hlog) (fun hterm => by cases hterm) id
    | @mutated p runId m row hop hrow hfence hversion hp =>
      obtain ⟨rfl, hlog⟩ := hkey hrow
      have hw : Postgres.Wrote db db' row.run.runId (Postgres.applyTx env m row) _ := ⟨hp, rfl⟩
      change o = _ at hop
      subst hop
      refine Grows.update hw.log (RunLog.events_of_some hlog) (fun hterm => ?_) id
      show row.run.runId = row.run.runId ∧ x.1.lifecycleState.isTerminal = true
      refine ⟨rfl, ?_⟩
      obtain ⟨row₂, hrow₂, -, -, hx, -⟩ := Postgres.mutateRun_ok (postgresBackend_exec_ok h)
      rw [hrow] at hrow₂; cases hrow₂
      rw [hx]
      exact hterm

theorem postgres_streamInterface :
    StreamInterface postgresBackend Postgres.Database.log Postgres.DatabaseOk where
  init_ok := ⟨fun _ _ _ h => (nomatch h), fun _ h => (nomatch h)⟩
  logOk db h := h.log
  step env o db r db' hok _ hexec :=
    ⟨Postgres.postgresStore_step_ok hok (postgresBackend_step hexec),
      fun id => postgres_grows hok hexec id⟩
  reads env o db r db' hexec hread := by
    cases r with
    | error e => exact postgresBackend_exec_error hexec
    | ok x =>
      have hk : Keeps id (Postgres.runOp env o) := by
        cases o with
        | getRun => exact .ask _
        | listEvents | waitForEvents => exact .bind (.ask _) fun _ => .bind .get fun _ => .pure _
        | _ => exact absurd hread id
      have h := hk db
      rwa [postgresBackend_exec_ok hexec] at h
  listEvents env p id n db events db' hok hexec :=
    listEventsTx_ok hok (postgresBackend_exec_ok hexec)
  getRun env p id db run db' hexec := by
    obtain ⟨hrun, -⟩ := ask_ok.1 (postgresBackend_exec_ok hexec)
    obtain ⟨row, hrow, rfl, -⟩ := Postgres.getRunTx_ok hrun
    exact ⟨_, Postgres.Database.log_eq_some.2 ⟨row, hrow, rfl, rfl⟩⟩

/-- **The event stream loses nothing**, over either store: its numbers are consecutive, and a stream
    that ends at a terminal Run has yielded every event after its cursor, unless the Run ended
    between the empty list of events and the read of the Run. -/
theorem stream_delivers_every_event (p : Principal) (runId : String) (after : ℕ) :
    StreamDelivers memoryBackend Store.log p runId after ∧
      StreamDelivers postgresBackend Postgres.Database.log p runId after :=
  ⟨memory_streamInterface.delivers, postgres_streamInterface.delivers⟩

/-! ## A Run that ends between the two reads -/

/-- The world after an operation of the in-memory store. -/
def StreamWorld.after (w : StreamWorld Store) (env : Env) (o : StoreOp) : StreamWorld Store :=
  ⟨final ((o.run env).run w.store), w.stream⟩

theorem stream_reach_after {ok : StreamWorld Store → StreamLabel Env → Prop} {p : Principal}
    {runId : String} {after : ℕ} {w : StreamWorld Store} (env : Env) (o : StoreOp)
    (h : (streamSystem memoryBackend p runId after).Reach ok w)
    (hok : ok w (.store ⟨env, o, outcome ((o.run env).run w.store)⟩))
    (hfresh : memoryBackend.fresh env w.store) :
    (streamSystem memoryBackend p runId after).Reach ok (w.after env o) :=
  h.step hok ⟨hfresh, ⟨rfl, rfl⟩, rfl⟩

/-- The generator's own steps meet the condition. -/
theorem StreamStep.reach {p : Principal} {runId : String} {after : ℕ} {w w' : StreamWorld Store}
    (hs : StreamStep memoryBackend p runId w w')
    (h : (streamSystem memoryBackend p runId after).Reach (NoLateEnd runId) w) :
    (streamSystem memoryBackend p runId after).Reach (NoLateEnd runId) w' :=
  h.step (l := .stream) trivial hs

namespace LateEnd

def owner : Principal := { tenantId := "tenant", userId := "owner" }
def env (n : ℕ) (token : String) : Env := { now := n, token := fun _ => token }

/-- The Trip, and a Run with its first event. -/
def accepted : StreamWorld Store :=
  ((⟨{}, { cursor := 1 }⟩ : StreamWorld Store).after (env 1 "1")
    (.createTrip owner { title := "Kyoto" })).after (env 2 "2")
    (.createRun owner { tripId := "trip_1", command := { type := .tripAsk, message := "ask" }
                        idempotencyKey := "key", requestHash := "hash", traceId := "trace" })

/-- The Run completes. -/
def complete : StoreOp :=
  .mutateRun owner "run_2"
    { expectedControlVersion := 1, lifecycleState := some .completed, eventType := .runCompleted
      eventData := [] }

/-- The stream has listed no event after its cursor. -/
def listed : StreamWorld Store := { accepted with stream.pc := .getRun owner [] }

def completed : StreamWorld Store := listed.after (env 3 "3") complete

def ended : StreamWorld Store := { completed with stream.pc := .ended .terminal }

/-- Up to the empty list, no condition is needed. -/
theorem listed_reachable {ok : StreamWorld Store → StreamLabel Env → Prop}
    (hok : ∀ w l, (∀ q, w.stream.pc ≠ .getRun q []) → ok w l) :
    (streamSystem memoryBackend owner "run_2" 1).Reach ok listed := by
  have h₁ := stream_reach_after (env 1 "1") (.createTrip owner { title := "Kyoto" })
    (.init rfl : (streamSystem memoryBackend owner "run_2" 1).Reach ok _) (hok _ _ nofun) ⟨rfl, rfl⟩
  have h₂ : (streamSystem memoryBackend owner "run_2" 1).Reach ok accepted :=
    stream_reach_after (env 2 "2") (.createRun owner _) h₁ (hok _ _ nofun) ⟨rfl, rfl⟩
  have h₃ := h₂.step (l := .stream) (hok _ _ nofun) (.connected rfl)
  have h₄ := h₃.step (l := .stream) (hok _ _ nofun) (.authorized owner rfl (by decide))
  exact h₄.step (l := .stream) (hok _ _ nofun) (.listed (env 3 "3") [] rfl ⟨rfl, rfl⟩)

theorem completed_reachable :
    (streamSystem memoryBackend owner "run_2" 1).Reach anyStep completed :=
  stream_reach_after (env 3 "3") _ (listed_reachable fun _ _ _ => trivial) trivial ⟨rfl, rfl⟩

theorem ended_step : StreamStep memoryBackend owner "run_2" completed ended := by
  have hexec : memoryBackend.exec (env 4 "4") (.getRun owner "run_2") completed.store
      (outcome (((StoreOp.getRun owner "run_2").run (env 4 "4")).run completed.store))
      completed.store := ⟨rfl, rfl⟩
  exact @StreamStep.read Store Env memoryBackend owner "run_2" _ _ completed.stream owner [] (env 4 "4")
    _ rfl hexec

end LateEnd

namespace OnTime

open LateEnd

/-- The Run completes before the stream lists its events. -/
def completed : StreamWorld Store := accepted.after (env 3 "3") complete

/-- The events after the cursor: the last event of the Run. -/
def last : RunEvent :=
  { eventId := "evt_3", seq := 2, type := .runCompleted, occurredAt := 3, tripId := "trip_1"
    runId := "run_2", traceId := "trace", data := [("control_version", .int 2)] }

/-- The stream has yielded the last event, and the next list is empty. -/
def delivered : StreamWorld Store :=
  { completed with stream := { pc := .getRun owner [], cursor := 2, yielded := [last] } }

def ended : StreamWorld Store := { delivered with stream.pc := .ended .terminal }

/-- The stream is at no read of the Run when the Run completes. -/
theorem completed_reachable :
    (streamSystem memoryBackend owner "run_2" 1).Reach (NoLateEnd "run_2") completed := by
  have h₀ : (streamSystem memoryBackend owner "run_2" 1).Reach (NoLateEnd "run_2")
      ⟨{}, { cursor := 1 }⟩ := .init rfl
  have h₁ := stream_reach_after (env 1 "1") (.createTrip owner { title := "Kyoto" }) h₀ nofun
    ⟨rfl, rfl⟩
  have h₂ : (streamSystem memoryBackend owner "run_2" 1).Reach (NoLateEnd "run_2") accepted :=
    stream_reach_after (env 2 "2") (.createRun owner _) h₁ nofun ⟨rfl, rfl⟩
  exact stream_reach_after (env 3 "3") complete h₂ nofun ⟨rfl, rfl⟩

/-- The Run is read as completed. -/
theorem read_step (n : ℕ) (token : String) (g : Stream) (events : List RunEvent)
    (hpc : g.pc = .getRun owner events) :
    ∃ run : RunView, run.lifecycleState.isTerminal ∧
      StreamStep memoryBackend owner "run_2" ⟨completed.store, g⟩
        ⟨completed.store, { g with pc := afterRun owner events run }⟩ := by
  obtain ⟨run, hexec, hrun⟩ : ∃ run : RunView, memoryBackend.exec (env n token)
      (.getRun owner "run_2") completed.store (.ok run) completed.store ∧
      run.lifecycleState.isTerminal := ⟨_, ⟨rfl, rfl⟩, rfl⟩
  exact ⟨run, hrun, .read (env n token) run hpc hexec⟩

/-- One iteration yields the last event, the next one finds no other. -/
theorem delivered_reachable :
    (streamSystem memoryBackend owner "run_2" 1).Reach (NoLateEnd "run_2") delivered := by
  have h₁ := (StreamStep.connected rfl).reach completed_reachable
  have h₂ := (StreamStep.authorized owner rfl (by decide)).reach h₁
  have hlist : memoryBackend.exec (env 4 "4") (.listEvents owner "run_2" 1) completed.store
      (.ok [last]) completed.store := ⟨rfl, rfl⟩
  have h₃ := (StreamStep.listed (env 4 "4") [last] rfl hlist).reach h₂
  have h₄ := (StreamStep.yielded rfl).reach h₃
  -- the list was not empty, so the stream goes on
  obtain ⟨run, -, hread⟩ := read_step 5 "5"
    { pc := .getRun owner [last], cursor := 2, yielded := [last] } [last] rfl
  have h₅ := hread.reach h₄
  have hwait : afterRun owner [last] run = .waitForEvents owner := if_neg fun h => nomatch h.2
  rw [hwait] at h₅
  have h₆ := (StreamStep.timedOut rfl).reach h₅
  have h₇ := (StreamStep.heartbeat rfl).reach h₆
  have h₈ := (StreamStep.connected rfl).reach h₇
  have h₉ := (StreamStep.authorized owner rfl (by decide)).reach h₈
  have hnone : memoryBackend.exec (env 6 "6") (.listEvents owner "run_2" 2) completed.store
      (.ok []) completed.store := ⟨rfl, rfl⟩
  exact (StreamStep.listed (env 6 "6") [] rfl hnone).reach h₉

theorem ended_step : StreamStep memoryBackend owner "run_2" delivered ended := by
  obtain ⟨run, hrun, hread⟩ := read_step 7 "7" delivered.stream [] rfl
  rwa [show afterRun owner [] run = .ended .terminal from if_pos ⟨hrun, rfl⟩] at hread

theorem last_mem : last ∈ (ended.store.log).events "run_2" :=
  List.mem_cons_of_mem _ (List.mem_singleton.2 rfl)

end OnTime

/-- A stream that ends at a completed Run: the number it has yielded is the one after its cursor, and
    the event that ended the Run is among the yielded ones. -/
theorem stream_delivers_every_event_completed :
    OnTime.ended.stream.yielded.map (·.seq) = List.range' (1 + 1) 1 ∧
      OnTime.last ∈ OnTime.ended.stream.yielded :=
  have hreach := OnTime.ended_step.reach OnTime.delivered_reachable
  ⟨(stream_delivers_every_event _ _ _).1.consecutive _ (hreach.mono fun _ _ _ => trivial),
    (stream_delivers_every_event _ _ _).1.complete _ _ OnTime.delivered_reachable OnTime.ended_step
      rfl _ OnTime.last_mem (by decide)⟩

/-- Without the condition, the event that ends the Run is lost. -/
theorem terminal_event_lost :
    ¬ ∀ p runId after w w', (streamSystem memoryBackend p runId after).Reach anyStep w →
      StreamStep memoryBackend p runId w w' → w'.stream.pc = .ended .terminal →
      ∀ e ∈ (w'.store.log).events runId, after < e.seq → e ∈ w'.stream.yielded := by
  intro h
  have hlost := h _ _ _ _ _ LateEnd.completed_reachable LateEnd.ended_step rfl
  have hmem : ∃ e ∈ (LateEnd.ended.store.log).events "run_2", 1 < e.seq :=
    ⟨_, List.mem_cons_of_mem _ List.mem_cons_self, by decide⟩
  obtain ⟨e, he, hseq⟩ := hmem
  cases hlost e he hseq

end RoutePilot
