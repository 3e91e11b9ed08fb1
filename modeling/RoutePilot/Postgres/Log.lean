/-
  The PostgreSQL store as a log of Runs: every call is a step of `RunLog`, with
  the events numbered by the new control version.
-/
import RoutePilot.Postgres.RunSpecs
import RoutePilot.Spec.RunLog

namespace RoutePilot.Postgres

open Lib

/-- The events of a Run, in insertion order. -/
def Database.runEvents (db : Database) (id : String) : List RunEvent :=
  (db.events.filter (·.event.runId == id)).map (·.event)

/-- The Runs of the database, with their events. -/
def Database.log (db : Database) : RunLog :=
  fun id => (db.runs.get? id).map fun row => (row.run, db.runEvents id)

theorem Database.log_eq_some {db : Database} {id : String} {run : RunView}
    {events : List RunEvent} :
    db.log id = some (run, events) ↔
      ∃ row, db.runs.get? id = some row ∧ row.run = run ∧ db.runEvents id = events := by
  simp only [log, Option.map_eq_some_iff, Prod.mk.injEq]

/-- The foreign key of the events: an event belongs to a stored Run, of its tenant. -/
def EventsOwned (db : Database) : Prop :=
  ∀ r ∈ db.events, ∃ row, db.runs.get? r.event.runId = some row ∧ row.run.tenantId = r.tenantId

/-- What every reachable database satisfies. -/
structure DatabaseOk (db : Database) : Prop where
  log : LogOk db.log
  owned : EventsOwned db

/-- Without a stored Run there are no events. -/
theorem EventsOwned.runEvents_eq_nil {db : Database} (h : EventsOwned db) {id : String}
    (hid : db.runs.get? id = none) : db.runEvents id = [] := by
  rw [Database.runEvents, List.map_eq_nil_iff, List.filter_eq_nil_iff]
  intro r hr he
  obtain ⟨row, hrow, -⟩ := h r hr
  rw [eq_of_beq he, hid] at hrow
  cases hrow

/-- No event has the number of the next one of a stored Run. -/
theorem DatabaseOk.next_unused {db : Database} (h : DatabaseOk db) {id : String} {row : RunRow}
    (hrow : db.runs.get? id = some row) :
    ∀ r ∈ db.events, ¬ (r.event.runId = row.run.runId ∧ r.event.seq = row.run.controlVersion + 1) := by
  obtain ⟨rfl, hnumbered⟩ := h.log id row.run _ (Database.log_eq_some.2 ⟨row, hrow, rfl, rfl⟩)
  rintro r hr ⟨hrun, hseq⟩
  have hmem : r.event.seq ∈ (db.runEvents row.run.runId).map (·.seq) :=
    List.mem_map_of_mem (List.mem_map_of_mem (List.mem_filter.2 ⟨hr, beq_iff_eq.2 hrun⟩))
  rw [hnumbered.map_seq, List.mem_range'_1] at hmem
  omega

/-- A row and one event of the same Run, written together. -/
structure Wrote (db db' : Database) (id : String) (row : RunRow) (e : RunEvent) : Prop where
  part : db'.runPart = (db.runs.set id row, db.events ++ [⟨row.run.tenantId, e⟩])
  event : e.runId = id

theorem Wrote.log {db db' : Database} {id : String} {row : RunRow} {e : RunEvent}
    (h : Wrote db db' id row e) :
    db'.log = Function.update db.log id (some (row.run, db.runEvents id ++ [e])) := by
  have hruns : db'.runs = db.runs.set id row := congrArg Prod.fst h.part
  have hevents : db'.events = db.events ++ [⟨row.run.tenantId, e⟩] := congrArg Prod.snd h.part
  have hid := h.event
  funext k
  rw [Function.update_apply]
  by_cases hk : k = id
  · subst hk
    simp [Database.log, Database.runEvents, hruns, hevents, List.filter_append, hid]
  · have hne : (e.runId == k) = false := by rw [hid]; simpa using fun h => hk h.symm
    simp [Database.log, Database.runEvents, hruns, hevents, List.filter_append, hne, hk,
      Dict.get?_set]

theorem Wrote.owned {db db' : Database} {id : String} {row : RunRow} {e : RunEvent}
    (h : Wrote db db' id row e) (hown : EventsOwned db)
    (hten : ∀ row₀, db.runs.get? id = some row₀ → row.run.tenantId = row₀.run.tenantId) :
    EventsOwned db' := by
  have hruns : db'.runs = db.runs.set id row := congrArg Prod.fst h.part
  have hevents : db'.events = db.events ++ [⟨row.run.tenantId, e⟩] := congrArg Prod.snd h.part
  have hid := h.event
  intro r hr
  rw [hevents, List.mem_append, List.mem_singleton] at hr
  rw [hruns, Dict.get?_set]
  obtain hr | rfl := hr
  · obtain ⟨row₀, hrow₀, ht⟩ := hown r hr
    split
    · next hk => exact ⟨row, rfl, (hten row₀ (hk ▸ hrow₀)).trans ht⟩
    · exact ⟨row₀, hrow₀, ht⟩
  · simp only [hid, if_true]
    exact ⟨row, rfl, rfl⟩

/-- A row written for its lease columns only. -/
theorem lease_log {db db' : Database} {id : String} {row row' : RunRow}
    (h : db'.runPart = (db.runs.set id row', db.events)) (hrow : db.runs.get? id = some row)
    (hrun : row'.run = row.run) :
    db'.log = db.log ∧ (EventsOwned db → EventsOwned db') := by
  have hruns : db'.runs = db.runs.set id row' := congrArg Prod.fst h
  have hevents : db'.events = db.events := congrArg Prod.snd h
  constructor
  · funext k
    rw [Database.log, Database.log, Database.runEvents, Database.runEvents, hruns, hevents,
      Dict.get?_set]
    split
    · next hk => rw [hk, hrow, Option.map_some, Option.map_some, hrun]
    · rfl
  · intro hown r hr
    obtain ⟨row₀, hrow₀, ht⟩ := hown r (hevents ▸ hr)
    rw [hruns, Dict.get?_set]
    split
    · next hk =>
      rw [hk, hrow] at hrow₀
      cases hrow₀
      exact ⟨row', rfl, by rw [hrun]; exact ht⟩
    · exact ⟨row₀, hrow₀, ht⟩

/-- Every call is a step of the log. -/
theorem RunRowChange.logStep {c : Call} {db db' : Database} (h : RunRowChange c db db')
    (hok : DatabaseOk db) : LogStep byVersion db.log db'.log ∧ EventsOwned db' := by
  have hkey : ∀ {id row}, db.runs.get? id = some row → row.run.runId = id :=
    fun {id row} hrow => (hok.log id row.run _ (Database.log_eq_some.2 ⟨row, hrow, rfl, rfl⟩)).1
  cases h with
  | same h =>
    have hr : db'.runs = db.runs := congrArg Prod.fst h
    have he : db'.events = db.events := congrArg Prod.snd h
    refine ⟨.same ?_, ?_⟩
    · funext k; rw [Database.log, Database.log, Database.runEvents, Database.runEvents, hr, he]
    · intro r hr'; rw [hr]; exact hok.owned r (he ▸ hr')
  | @created p r trip hop hfresh h =>
    have hw : Wrote db db' (c.env.newPublicId "run") { run := newRun c.env.toEnv p r trip } _ := ⟨h, rfl⟩
    have hnil := hok.owned.runEvents_eq_nil hfresh
    have hlog := hw.log
    rw [hnil] at hlog
    refine ⟨.accepted (newRun c.env.toEnv p r trip) _ rfl ?_ ?_ ?_ hlog, hw.owned hok.owned ?_⟩
    · rfl
    · rfl
    · rfl
    · intro row₀ hrow₀; rw [hfresh] at hrow₀; cases hrow₀
  | @mutated p runId m row hop hrow hfence hversion h =>
    obtain rfl := hkey hrow
    have hw : Wrote db db' row.run.runId (applyTx c.env m row) _ := ⟨h, rfl⟩
    refine ⟨.appended row.run (m.apply c.env.toEnv row.run) (db.runEvents row.run.runId) _ ?_ rfl rfl
      ?_ ?_ hw.log, hw.owned hok.owned ?_⟩
    · exact Database.log_eq_some.2 ⟨row, hrow, rfl, rfl⟩
    · rfl
    · exact Obj.get?_set_self ..
    · intro row₀ hrow₀; rw [hrow] at hrow₀; cases hrow₀; rfl
  | @resumed p runId r row values hop hrow hwaiting h =>
    obtain rfl := hkey hrow
    have hw : Wrote db db' row.run.runId
        { row with run := row.run.resumed c.env.toEnv r.requestId values } _ := ⟨h, rfl⟩
    refine ⟨.appended row.run (row.run.resumed c.env.toEnv r.requestId values)
      (db.runEvents row.run.runId) _ ?_ rfl rfl ?_ ?_ hw.log, hw.owned hok.owned ?_⟩
    · exact Database.log_eq_some.2 ⟨row, hrow, rfl, rfl⟩
    · rfl
    · rfl
    · intro row₀ hrow₀; rw [hrow] at hrow₀; cases hrow₀; rfl
  | claimed hop hrow hfree hexec h =>
    obtain ⟨hlog, hown⟩ := lease_log h hrow rfl
    exact ⟨.same hlog, hown hok.owned⟩
  | renewed hop hrow hholds hexec h =>
    obtain ⟨hlog, hown⟩ := lease_log h hrow rfl
    exact ⟨.same hlog, hown hok.owned⟩
  | released hop hrow hholds h =>
    obtain ⟨hlog, hown⟩ := lease_log h hrow rfl
    exact ⟨.same hlog, hown hok.owned⟩

theorem postgresStore_step_ok {c : Call} {db db' : Database} (hok : DatabaseOk db)
    (hs : postgresStore.step db c db') : DatabaseOk db' := by
  obtain ⟨hl, hown⟩ := (runRowChange hs).logStep hok
  exact ⟨hl.logOk (fun _ _ _ => rfl) hok.log, hown⟩

/-- **Every Run of a reachable database has numbered events.** -/
theorem postgresStore_ok {ok : Database → Call → Prop} {db : Database}
    (h : postgresStore.Reach ok db) : DatabaseOk db := by
  refine h.invariant ?_ fun db c db' _ hok _ hs => postgresStore_step_ok hok hs
  intro db hdb
  rw [show db = {} from hdb]
  refine ⟨fun id run events hlog => ?_, fun r hr => ?_⟩
  · cases hlog
  · cases hr

end RoutePilot.Postgres
