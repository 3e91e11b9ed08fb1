/-
  The browser against the server (`reducer.ts`, `store.py`): what a client
  shows of a Run, from a snapshot and the events of its log.

  A snapshot and an older cursor come from different times, and a stream may
  start over.  The reducer drops what it has counted (`Delivers.receive`), and
  the events that a snapshot already contains announce nothing that the later
  ones do not (`settled_drop`), so that the browser comes to the state of the
  server (`browser_converges`).  Whether input is asked for is not announced
  that way (`asks_while_waiting_iff`).
-/
import RoutePilot.Proof.EventFilter
import RoutePilot.Proof.StreamRoundTrip
import RoutePilot.Proof.Waiting
import RoutePilot.Spec.EventLog

namespace RoutePilot

open Lib Lts Web

/-! ## A Run that is canceled while it waits -/

namespace Interactive

open Play LateCancel

/-- The Run that waits is canceled. -/
def stopped : List Move := [.call (.cancel 0 owner "run_3" 3), .run 3 (env 9), .run 3 (env 10), .run 3 (env 11)]

def stoppedWorld : World Store :=
  (askedWorld.plays (deployment snapshot) (fun _ m => isClients m) stopped).get (by decide)

theorem served_of_isClients {m : Move} {l : RtLabel Env} (h : isClients m = true) (hl : m.Labels l) :
    servedClients l := by
  have hclients := clients_of_isClients h hl
  cases l with
  | store l => exact hclients
  | _ => trivial

theorem askedWorld_served : (served memoryBackend (deployment snapshot)).Reach anyStep askedWorld :=
  ⟨_, rfl, steps_plays (fun _ _ _ hm hl => ⟨served_of_isClients hm hl, trivial⟩) (Option.some_get _).symm⟩

theorem stoppedWorld_steps : (served memoryBackend (deployment snapshot)).Steps anyStep askedWorld stoppedWorld :=
  steps_plays (fun _ _ _ hm hl => ⟨served_of_isClients hm hl, trivial⟩) (Option.some_get _).symm

/-- The Run of a world, with its events. -/
theorem log_run (w : World Store) (run : RunView) (h : w.store.runs.get? "run_3" = some run) :
    memoryRuns.log w.store "run_3" = some (run, w.store.events.getD "run_3" []) := Store.log_eq_some.2 ⟨h, rfl⟩

def askedRun : RunView := (askedWorld.store.runs.get? "run_3").get (by decide)

def stoppedRun : RunView := (stoppedWorld.store.runs.get? "run_3").get (by decide)

def stoppedEvents : List RunEvent := stoppedWorld.store.events.getD "run_3" []

theorem askedRun_log : memoryRuns.log askedWorld.store "run_3" =
    some (askedRun, askedWorld.store.events.getD "run_3" []) :=
  log_run _ _ (Option.some_get _).symm

theorem stoppedRun_log : memoryRuns.log stoppedWorld.store "run_3" = some (stoppedRun, stoppedEvents) :=
  log_run _ _ (Option.some_get _).symm

end Interactive

/-! ## The past of a Run -/

section
variable {σ ε : Type} {B : Backend σ ε} {R : RunBackend B} {D : Deployment}

/-- **Every state a Run was in can be replayed.**  Nothing of a log is rewritten: in every later world the events that a
    Run had are the first ones that it has, as many as its control version, and they announce the state that
    it was in. -/
theorem past_states_replay (E : EventBackend R) {w w' : World σ} (h : (served B D).Reach anyStep w)
    (hsteps : (served B D).Steps anyStep w w') {id : String} {run : RunView} {events : List RunEvent}
    (hrun : R.log w.store id = some (run, events)) :
    ∃ run' events', R.log w'.store id = some (run', events') ∧ events'.take run.controlVersion = events ∧
      run.lifecycleState = settled .queued (events'.take run.controlVersion) := by
  obtain ⟨run', events', hrun', hprefix, -⟩ := served_grows E (fun c => (D.coordinator c).supplies_any)
    (fun _ _ _ _ _ _ _ => trivial) h hsteps hrun
  have htake : events'.take run.controlVersion = events := by
    rw [← (served_logOk E h _ _ _ hrun).2.length]
    exact (List.prefix_iff_eq_take.1 hprefix).symm
  refine ⟨run', events', hrun', htake, ?_⟩
  rw [htake]
  exact (served_history E h hrun).lifecycleState

end

/-- The Run of the canceled request was waiting. -/
theorem past_states_replay_asked : Interactive.askedRun.lifecycleState = .waitingInput ∧ ∃ run' events',
    memoryRuns.log Interactive.stoppedWorld.store "run_3" = some (run', events') ∧
    events'.take Interactive.askedRun.controlVersion = Interactive.askedWorld.store.events.getD "run_3" [] ∧
    Interactive.askedRun.lifecycleState = settled .queued (events'.take Interactive.askedRun.controlVersion) :=
  ⟨by decide, past_states_replay memoryEvents Interactive.askedWorld_served Interactive.stoppedWorld_steps
    Interactive.askedRun_log⟩

/-! ## What the browser reads of an event -/

namespace Web

/-- The keys whose values are cleaned. -/
def amendedKeys : List String := ["artifact_ref", "snapshot_ref", "sources", "citation", "fields", "error"]

section
variable {type : EventType} {key : String}

theorem get?_amendType (clean : Obj) (h : key ∉ amendedKeys) :
    Obj.get? (amendType type clean) key = Obj.get? clean key := by
  simp only [amendedKeys, List.mem_cons, List.not_mem_nil, or_false, not_or] at h
  cases type with
  | agentActivity => exact (get?_amendItems _).trans (if_neg h.2.2.1)
  | citationAdded => exact get?_assign_ne h.2.2.2.1 _
  | inputRequired => exact (get?_amendItems _).trans (if_neg h.2.2.2.2.1)
  | runFailed =>
    simp only [amendType, get?_amend, if_neg h.2.2.2.2.2]
  | _ => rfl

/-- A value that is allowed and not cleaned is shown as it is. -/
theorem get?_cleanData (data : Obj) (hkey : key ∈ dataAllowlist type) (h : key ∉ amendedKeys) :
    Obj.get? (cleanData type (some (.obj data))) key = Obj.get? data key := by
  have href : key ≠ "snapshot_ref" ∧ key ≠ "artifact_ref" := by
    constructor
    · rintro rfl
      exact h (by decide)
    · rintro rfl
      exact h (by decide)
  rw [cleanData_obj, get?_amendType _ h, cleanRefs, get?_amend, if_neg href.1, get?_amend, if_neg href.2]
  refine (get?_filter data (fun name => name ∈ dataAllowlist type) key).trans (if_pos ?_)
  simpa using hkey

end
end Web

/-- A state of a Run, as it is shown. -/
def RunLifecycle.shown : RunLifecycle → Web.Lifecycle
  | .queued => .queued
  | .running => .running
  | .waitingInput => .waitingInput
  | .cancelRequested => .cancelRequested
  | .completed => .completed
  | .failed => .failed
  | .canceled => .canceled

theorem RunLifecycle.ofValue?_shown (l : RunLifecycle) : Web.Lifecycle.ofValue? l.value = some l.shown := by
  cases l <;> rfl

theorem RunLifecycle.shown_eq_waitingInput {l : RunLifecycle} : l.shown = .waitingInput ↔ l = .waitingInput := by
  cases l <;> simp [shown]

def RunInputField.shown (field : RunInputField) : PendingField where
  fieldId := field.fieldId
  label := field.label
  inputType := field.inputType.value
  required := field.required
  options := field.options

def RunPendingInput.shown (pending : RunPendingInput) : Web.PendingInput where
  requestId := pending.requestId
  prompt := pending.prompt
  expiresAt := Time.dumped pending.expiresAt
  fields := pending.fields.map (·.shown)

/-- The Run as the API returns it. -/
def RunView.snapshot (run : RunView) : RunSnapshot where
  runId := run.runId
  tripId := run.tripId
  lifecycleState := run.lifecycleState.shown
  phase := run.phase
  controlVersion := run.controlVersion
  resultArtifactId := run.resultArtifactId
  resultArtifactVersion := run.resultArtifactVersion
  pendingInput := run.pendingInput.map (·.shown)

/-- The events that the browser parses. -/
def shownEvents (events : List RunEvent) : List PublicRunEvent :=
  events.filterMap fun e => parsePublicRunEvent (.obj e.dump)

/-! ## One event -/

namespace Web
variable {state : RunUiState} {e : RunEvent}

theorem applyType_counted (next : RunUiState) (event : PublicRunEvent) :
    (applyType next event).lastSeq = next.lastSeq ∧ (applyType next event).runId = next.runId ∧
      (applyType next event).controlVersion = next.controlVersion := by
  unfold applyType
  split <;> exact ⟨rfl, rfl, rfl⟩

/-- The state that an event announces is shown. -/
theorem applyType_lifecycle (next : RunUiState) (he : e.Readable) :
    (applyType next e.toPublic).lifecycle = (e.announces.map RunLifecycle.shown).getD next.lifecycle := by
  have htype := he.type
  unfold applyType RunEvent.announces announced
  rw [show e.toPublic.type = e.type from rfl]
  cases heq : e.type with
  | runLifecycleChanged =>
    obtain ⟨l, hl, -⟩ := he.changed heq
    have hread : Obj.get? e.toPublic.data "lifecycle_state" = some (.str l.value) := by
      show Obj.get? (cleanData e.type (some (.obj e.data))) "lifecycle_state" = _
      rw [heq, get?_cleanData _ (by decide) (by decide)]
      exact hl
    simp [hread, hl, lifecycle, string?, Json.asStr?, l.ofValue?_shown, l.ofValue?_value]
  | approvalRequired =>
    rw [heq] at htype
    exact absurd (by decide) htype
  | _ => rfl

/-- What is asked for after an event. -/
theorem applyType_needsInput (next : RunUiState) (e : RunEvent) : (applyType next e.toPublic).needsInput =
    if e.type = .inputRequired then true else if e.type = .runCompleted then false else next.needsInput := by
  unfold applyType
  rw [show e.toPublic.type = e.type from rfl]
  cases heq : e.type <;> rfl

theorem applyType_pendingInput (next : RunUiState) (e : RunEvent) (h : e.type ≠ .inputRequired) :
    (applyType next e.toPublic).pendingInput = if e.type = .runCompleted then none else next.pendingInput := by
  unfold applyType
  rw [show e.toPublic.type = e.type from rfl]
  cases heq : e.type with
  | inputRequired => exact absurd heq h
  | _ => rfl

theorem applyEvent_again (h : (e.seq : ℤ) ≤ state.lastSeq) : applyEvent state e.toPublic = state := by
  unfold applyEvent
  split
  · rfl
  · exact if_pos h

/-- An event that is next is counted, and applied. -/
theorem applyEvent_next (hid : ∀ id ∈ state.runId, id = e.runId) (h : state.lastSeq < e.seq) :
    applyEvent state e.toPublic = applyType (countEvent state e.toPublic) e.toPublic := by
  unfold applyEvent
  rw [if_neg, if_neg]
  · exact not_le.2 h
  · simp only [Option.any_eq_true, decide_eq_true_eq, not_exists, not_and]
    rintro id hrun - hne
    exact hne (hid id hrun).symm

end Web

/-! ## A log -/

/-- Events of one Run that follow event `n`. -/
def Streamed (id : String) : ℕ → List RunEvent → Prop
  | _, [] => True
  | n, e :: events => (e.Readable ∧ e.runId = id ∧ e.seq = n + 1 ∧ e.dataVersion = some (.int (n + 1 : ℕ))) ∧
    Streamed id (n + 1) events

section
variable {id : String} {n : ℕ} {events : List RunEvent}

theorem streamed_of (h : ∀ (i : ℕ) (e : RunEvent), events[i]? = some e →
    e.Readable ∧ e.runId = id ∧ e.seq = n + i + 1 ∧ e.dataVersion = some (.int (n + i + 1 : ℕ))) :
    Streamed id n events := by
  induction events generalizing n with
  | nil => trivial
  | cons e events ih =>
    refine ⟨h 0 e rfl, ih fun i e' hi => ?_⟩
    obtain ⟨hread, hid, hseq, hdata⟩ := h (i + 1) e' hi
    rw [show n + 1 + i + 1 = n + (i + 1) + 1 by omega]
    exact ⟨hread, hid, hseq, hdata⟩

theorem Streamed.enveloped (h : Streamed id n events) : ∀ e ∈ events, e.Enveloped := by
  induction events generalizing n with
  | nil => simp
  | cons e events ih =>
    obtain ⟨⟨hread, -, hseq, -⟩, hrest⟩ := h
    intro e' he'
    rcases List.mem_cons.1 he' with rfl | he'
    · exact ⟨hread.schemaVersion, by omega, hread.audience⟩
    · exact ih hrest e' he'

theorem shownEvents_eq (h : ∀ e ∈ events, e.Enveloped) : shownEvents events = events.map (·.toPublic) := by
  induction events with
  | nil => rfl
  | cons e events ih =>
    rw [List.forall_mem_cons] at h
    rw [shownEvents, List.filterMap_cons, parsePublicRunEvent_dump h.1]
    exact congrArg _ (ih h.2)

theorem Streamed.drop (h : Streamed id n events) (k : ℕ) : Streamed id (n + k) (events.drop k) := by
  induction k generalizing n events with
  | zero => exact h
  | succ k ih =>
    cases events with
    | nil => trivial
    | cons e events =>
      rw [List.drop_succ_cons, show n + (k + 1) = n + 1 + k by omega]
      exact ih h.2

theorem Streamed.take (h : Streamed id n events) (k : ℕ) : Streamed id n (events.take k) := by
  induction k generalizing n events with
  | zero => rw [List.take_zero]; trivial
  | succ k ih =>
    cases events with
    | nil => trivial
    | cons e events => exact ⟨h.1, ih h.2⟩

theorem Streamed.get (h : Streamed id n events) {k : ℕ} {e : RunEvent} (he : events[k]? = some e) :
    e.Readable ∧ e.runId = id ∧ e.seq = n + k + 1 ∧ e.dataVersion = some (.int (n + k + 1 : ℕ)) := by
  induction k generalizing n events with
  | zero =>
    cases events with
    | nil => cases he
    | cons e' events =>
      cases he
      exact h.1
  | succ k ih =>
    cases events with
    | nil => cases he
    | cons e' events =>
      rw [show n + (k + 1) = n + 1 + k by omega]
      exact ih h.2 he

/-- The control version is shown with every event. -/
theorem number_control_version {e : RunEvent} {z : ℤ} (he : e.Readable) (h : e.dataVersion = some (.int z))
    (fallback : ℚ) :
    number (e.toPublic.data.get? "control_version") fallback = z := by
  have hkey : "control_version" ∈ dataAllowlist e.type := by
    have htype := he.type
    cases heq : e.type with
    | heartbeat =>
      rw [heq] at htype
      exact absurd (by decide) htype
    | _ => decide
  have hread : Obj.get? e.toPublic.data "control_version" = some (.int z) :=
    (get?_cleanData _ hkey (by decide)).trans h
  rw [hread]
  rfl

end

/-! ## A delivery -/

/-- The state belongs to a Run, and has counted `n` events. -/
structure Follows (id : String) (n : ℕ) (state : RunUiState) : Prop where
  runId : ∀ id' ∈ state.runId, id' = id
  lastSeq : state.lastSeq = n

section
variable {id : String} {n : ℕ} {state : RunUiState} {events : List RunEvent}

theorem Follows.apply {e : RunEvent} (h : Follows id n state) (hid : e.runId = id) (hseq : e.seq = n + 1) :
    applyEvent state e.toPublic = applyType (countEvent state e.toPublic) e.toPublic ∧
      Follows id (n + 1) (applyEvent state e.toPublic) := by
  have happly : applyEvent state e.toPublic = applyType (countEvent state e.toPublic) e.toPublic := by
    refine applyEvent_next (fun id' hid' => (h.runId id' hid').trans hid.symm) ?_
    rw [h.lastSeq, hseq]
    omega
  refine ⟨happly, ?_, ?_⟩
  · rw [happly, (applyType_counted _ _).2.1]
    rintro id' hid'
    cases hid'
    exact hid
  · rw [happly, (applyType_counted _ _).1]
    exact congrArg Nat.cast hseq

/-- **The events of a log, in order.**  Each of them is counted, and the state that they announce is shown. -/
theorem Follows.receive (h : Follows id n state) (hevents : Streamed id n events)
    (hversion : (n : ℚ) ≤ state.controlVersion) {l : RunLifecycle} (hl : state.lifecycle = l.shown) :
    Follows id (n + events.length) (receive state (events.map (·.toPublic))) ∧
      (receive state (events.map (·.toPublic))).controlVersion = max state.controlVersion (n + events.length : ℕ) ∧
      (receive state (events.map (·.toPublic))).lifecycle = (settled l events).shown := by
  induction events generalizing n state l with
  | nil =>
    refine ⟨h, ?_, hl⟩
    exact (max_eq_left (by simpa using hversion)).symm
  | cons e events ih =>
    obtain ⟨⟨hread, hid, hseq, hdata⟩, hrest⟩ := hevents
    obtain ⟨happly, hnext⟩ := h.apply hid hseq
    have hcounted : (applyEvent state e.toPublic).controlVersion = max state.controlVersion (n + 1 : ℕ) := by
      rw [happly, (applyType_counted _ _).2.2]
      show max state.controlVersion (number (e.toPublic.data.get? "control_version") state.controlVersion) = _
      rw [number_control_version hread hdata]
      rfl
    have hshown : (applyEvent state e.toPublic).lifecycle = (e.announces.getD l).shown := by
      rw [happly, applyType_lifecycle _ hread]
      show (e.announces.map RunLifecycle.shown).getD state.lifecycle = _
      rw [hl]
      cases e.announces <;> rfl
    obtain ⟨hfollows, hcv, hsettled⟩ := ih hnext hrest (by rw [hcounted]; exact le_max_right _ _) hshown
    have hle : ((n + 1 : ℕ) : ℚ) ≤ (n + 1 + events.length : ℕ) := by exact_mod_cast Nat.le_add_right _ _
    rw [List.map_cons, receive_cons, List.length_cons, settled_cons, ← Nat.add_assoc, Nat.add_right_comm]
    refine ⟨hfollows, ?_, hsettled⟩
    rw [hcv, hcounted, max_assoc, max_eq_right hle]

end

/-- A delivery of a log, from one cursor to another: what was counted may come again, and what is new comes in order. -/
inductive Delivers (events : List RunEvent) : ℕ → List RunEvent → ℕ → Prop
  | done (n : ℕ) : Delivers events n [] n
  | again {n m : ℕ} {e : RunEvent} {delivered : List RunEvent} (he : e ∈ events) (hseq : e.seq ≤ n)
      (hrest : Delivers events n delivered m) : Delivers events n (e :: delivered) m
  | next {n m : ℕ} {e : RunEvent} {delivered : List RunEvent} (he : events[n]? = some e)
      (hrest : Delivers events (n + 1) delivered m) : Delivers events n (e :: delivered) m

section
variable {id : String} {n m : ℕ} {state : RunUiState} {events delivered : List RunEvent}

theorem Delivers.le (h : Delivers events n delivered m) : n ≤ m := by
  induction h with
  | done => exact le_rfl
  | again _ _ _ ih => exact ih
  | next _ _ ih => omega

theorem Delivers.mem (h : Delivers events n delivered m) : ∀ e ∈ delivered, e ∈ events := by
  induction h with
  | done => simp
  | again he _ _ ih => exact List.forall_mem_cons.2 ⟨he, ih⟩
  | next he _ ih => exact List.forall_mem_cons.2 ⟨List.mem_of_getElem? he, ih⟩

/-- **Duplicates change nothing.**  The browser comes to the state of a delivery in order. -/
theorem Delivers.receive (h : Delivers events n delivered m) (hevents : Streamed id 0 events)
    (hs : Follows id n state) :
    receive state (delivered.map (·.toPublic)) = receive state (((events.drop n).take (m - n)).map (·.toPublic)) := by
  induction h generalizing state with
  | done n => rw [Nat.sub_self, List.take_zero]
  | again he hseq hrest ih =>
    rw [List.map_cons, receive_cons, applyEvent_again]
    · exact ih hs
    · rw [hs.lastSeq]
      exact_mod_cast hseq
  | @next n m e delivered he hrest ih =>
    obtain ⟨-, hid, hseq, -⟩ := hevents.get he
    rw [Nat.zero_add] at hseq
    obtain ⟨hlt, hget⟩ := List.getElem?_eq_some_iff.1 he
    rw [List.drop_eq_getElem_cons hlt, hget, show m - n = m - (n + 1) + 1 by have := hrest.le; omega,
      List.take_succ_cons, List.map_cons, receive_cons, List.map_cons, receive_cons]
    exact ih (hs.apply hid hseq).2

end

section
variable {id : String} {events : List RunEvent}

theorem Delivers.append {n m l : ℕ} {delivered delivered' : List RunEvent} (h : Delivers events n delivered m)
    (h' : Delivers events m delivered' l) : Delivers events n (delivered ++ delivered') l := by
  induction h with
  | done => exact h'
  | again he hseq _ ih => exact .again he hseq (ih h')
  | next he _ ih => exact .next he (ih h')

theorem Delivers.inOrder {n : ℕ} (hn : n ≤ events.length) : Delivers events n (events.drop n) events.length := by
  obtain ⟨k, hk⟩ : ∃ k, events.length = n + k := ⟨_, (Nat.add_sub_cancel' hn).symm⟩
  induction k generalizing n with
  | zero =>
    rw [List.drop_of_length_le (by omega), hk]
    exact .done n
  | succ k ih =>
    have hlt : n < events.length := by omega
    rw [List.drop_eq_getElem_cons hlt]
    exact .next (List.getElem?_eq_getElem hlt) (ih hlt (by omega))

theorem Delivers.counted {n : ℕ} {delivered : List RunEvent} (h : ∀ e ∈ delivered, e ∈ events ∧ e.seq ≤ n) :
    Delivers events n delivered n := by
  induction delivered with
  | nil => exact .done n
  | cons e delivered ih =>
    rw [List.forall_mem_cons] at h
    exact .again h.1.1 h.1.2 (ih h.2)

/-- A stream that starts over is a delivery. -/
theorem Delivers.restart (hevents : Streamed id 0 events) {n : ℕ} (hn : n ≤ events.length) :
    Delivers events n events events.length := by
  have hcounted : ∀ e ∈ events.take n, e ∈ events ∧ e.seq ≤ n := by
    intro e he
    obtain ⟨i, hi⟩ := List.mem_iff_getElem?.1 he
    rw [List.getElem?_take] at hi
    split at hi
    · obtain ⟨-, -, hseq, -⟩ := hevents.get hi
      exact ⟨List.mem_of_getElem? hi, by omega⟩
    · cases hi
  have h := (Delivers.counted hcounted).append (.inOrder hn)
  rwa [List.take_append_drop] at h

end

/-! ## The browser converges -/

section
variable {σ ε : Type} {B : Backend σ ε} {R : RunBackend B} {D : Deployment}

theorem served_streamed (E : EventBackend R) {w : World σ} (h : (served B D).Reach anyStep w) {id : String}
    {run : RunView} {events : List RunEvent} (hrun : R.log w.store id = some (run, events)) :
    run.runId = id ∧ events.length = run.controlVersion ∧ Streamed id 0 events := by
  obtain ⟨hid, hnumbered⟩ := served_logOk E h _ _ _ hrun
  refine ⟨hid, hnumbered.length, streamed_of fun i e hi => ?_⟩
  obtain ⟨hread, heid⟩ := (served_history E h hrun).readable e (List.mem_of_getElem? hi)
  rw [Nat.zero_add]
  exact ⟨hread, heid.trans hid, hnumbered.seq i e hi, hnumbered.data i e hi⟩

/-- **The browser converges to the state of the server.**  It starts from a snapshot that was taken at some time and
    from an older cursor, and gets the log as it is later, with duplicates and restarts: it ends with the number of the
    last event, the control version and the state of the server, and is in the same state as after a delivery
    in order. -/
theorem browser_converges (E : EventBackend R) {w₁ w₂ : World σ} (h : (served B D).Reach anyStep w₁)
    (hsteps : (served B D).Steps anyStep w₁ w₂) {id : String} {run₁ run₂ : RunView} {events₁ events₂ : List RunEvent}
    (hrun₁ : R.log w₁.store id = some (run₁, events₁)) (hrun₂ : R.log w₂.store id = some (run₂, events₂)) {c : ℕ}
    (hc : c ≤ run₁.controlVersion) {delivered : List RunEvent}
    (hdelivered : Delivers events₂ c delivered run₂.controlVersion) (state : RunUiState) :
    let received := receive (applySnapshot state run₁.snapshot c) (shownEvents delivered)
    received = receive (applySnapshot state run₁.snapshot c) (shownEvents (events₂.drop c)) ∧
      received.lastSeq = run₂.controlVersion ∧ received.controlVersion = run₂.controlVersion ∧
      received.lifecycle = run₂.lifecycleState.shown := by
  obtain ⟨hid₁, hlength₁, -⟩ := served_streamed E h hrun₁
  obtain ⟨-, hlength₂, hstreamed⟩ := served_streamed E (h.steps hsteps) hrun₂
  obtain ⟨run', events', hrun', htake, hstate₁⟩ := past_states_replay E h hsteps hrun₁
  rw [hrun₂] at hrun'
  cases hrun'
  have hle : run₁.controlVersion ≤ events₂.length := by
    rw [← hlength₁, ← htake, List.length_take]
    exact min_le_right _ _
  have hdrop : Streamed id c (events₂.drop c) := by
    have := hstreamed.drop c
    rwa [Nat.zero_add] at this
  have hs : Follows id c (applySnapshot state run₁.snapshot c) := by
    refine ⟨?_, rfl⟩
    rintro id' hid'
    cases hid'
    exact hid₁
  have hinorder : shownEvents (events₂.drop c) = (events₂.drop c).map (·.toPublic) := shownEvents_eq hdrop.enveloped
  have hshown : shownEvents delivered = delivered.map (·.toPublic) :=
    shownEvents_eq fun e he => hstreamed.enveloped e (hdelivered.mem e he)
  have hsame : receive (applySnapshot state run₁.snapshot c) (delivered.map (·.toPublic)) =
      receive (applySnapshot state run₁.snapshot c) ((events₂.drop c).map (·.toPublic)) := by
    rw [hdelivered.receive hstreamed hs, List.take_of_length_le]
    rw [List.length_drop, hlength₂]
  obtain ⟨hfollows, hversion, hlifecycle⟩ := hs.receive hdrop
    (show (c : ℚ) ≤ (run₁.controlVersion : ℚ) by exact_mod_cast hc) (l := run₁.lifecycleState) rfl
  rw [List.length_drop, Nat.add_sub_cancel' (hc.trans hle), hlength₂] at hfollows hversion
  rw [hinorder, hshown]
  refine ⟨hsame, ?_, ?_, ?_⟩
  · rw [hsame]
    exact hfollows.lastSeq
  · rw [hsame, hversion]
    show max (run₁.controlVersion : ℚ) _ = _
    rw [max_eq_right]
    rw [hlength₂] at hle
    exact_mod_cast hle
  · rw [hsame, hlifecycle, hstate₁, settled_drop _ _ hc, ← (served_history E (h.steps hsteps) hrun₂).lifecycleState]

end

/-- The snapshot is of the Run that waits, the cursor is older, and the stream starts over. -/
theorem browser_converges_stopped : Interactive.stoppedRun.lifecycleState = .cancelRequested ∧
    (receive (applySnapshot {} Interactive.askedRun.snapshot (1 : ℕ))
      (shownEvents Interactive.stoppedEvents)).lifecycle =
      Interactive.stoppedRun.lifecycleState.shown := by
  obtain ⟨-, hlength, hstreamed⟩ := served_streamed memoryEvents
    (Interactive.askedWorld_served.steps Interactive.stoppedWorld_steps) Interactive.stoppedRun_log
  have hdelivered := Delivers.restart hstreamed (n := 1) (by decide)
  rw [hlength] at hdelivered
  exact ⟨by decide, (browser_converges memoryEvents Interactive.askedWorld_served Interactive.stoppedWorld_steps
    Interactive.askedRun_log Interactive.stoppedRun_log (by decide) hdelivered {}).2.2.2⟩

/-! ## Asking for input -/

/-- The browser asks for input while the Run waits for it, and shows a form then only. -/
structure Web.RunUiState.AsksInTime (state : RunUiState) : Prop where
  needsInput : state.needsInput = true ↔ state.lifecycle = .waitingInput
  pendingInput : state.pendingInput.isSome → state.lifecycle = .waitingInput

/-- Input is asked for after an event. -/
def asksAfter (asked : Bool) (e : RunEvent) : Bool :=
  if e.type = .inputRequired then true else if e.type = .runCompleted then false else asked

/-- Once input is required, no state is announced but that the Run waits or that it is completed. -/
def Unanswered : Bool → List RunEvent → Prop
  | _, [] => True
  | asked, e :: events =>
    (asked = true → e.announces.all (fun l => l == .waitingInput || l == .completed) = true) ∧
      Unanswered (asksAfter asked e) events

instance Unanswered.decidable : ∀ asked events, Decidable (Unanswered asked events)
  | _, [] => inferInstanceAs (Decidable True)
  | asked, e :: events => @instDecidableAnd _ _ inferInstance (decidable (asksAfter asked e) events)

section
variable {id : String} {n : ℕ} {state : RunUiState} {events : List RunEvent} {e : RunEvent}

/-- One type of events announces that the Run waits, and one that it is completed. -/
theorem RunEvent.Readable.announces_iff (h : e.Readable) :
    (e.announces = some .waitingInput ↔ e.type = .inputRequired) ∧
      (e.announces = some .completed ↔ e.type = .runCompleted) := by
  unfold RunEvent.announces announced
  cases heq : e.type with
  | runLifecycleChanged =>
    obtain ⟨l, hl, hstate⟩ := h.changed heq
    rcases hstate with rfl | rfl | rfl <;> simp [hl, Json.asStr?, RunLifecycle.ofValue?_value]
  | _ => simp

/-- **One event.**  After it the browser still asks in time, unless it asked before and another state is announced. -/
theorem Web.RunUiState.AsksInTime.apply_iff (h : state.AsksInTime) (he : e.Readable) :
    (applyType (countEvent state e.toPublic) e.toPublic).AsksInTime ↔
      (state.needsInput = true → e.announces.all (fun l => l == .waitingInput || l == .completed) = true) := by
  obtain ⟨hwaits, hcompletes⟩ := he.announces_iff
  have hlifecycle := applyType_lifecycle (countEvent state e.toPublic) he
  have hneeds := applyType_needsInput (countEvent state e.toPublic) e
  have hpending := applyType_pendingInput (countEvent state e.toPublic) e
  rw [show (countEvent state e.toPublic).lifecycle = state.lifecycle from rfl] at hlifecycle
  rw [show (countEvent state e.toPublic).needsInput = state.needsInput from rfl] at hneeds
  rw [show (countEvent state e.toPublic).pendingInput = state.pendingInput from rfl] at hpending
  by_cases hinput : e.type = .inputRequired
  · -- the Run waits now
    rw [hwaits.2 hinput] at hlifecycle ⊢
    rw [if_pos hinput] at hneeds
    exact iff_of_true ⟨iff_of_true hneeds hlifecycle, fun _ => hlifecycle⟩ fun _ => rfl
  · rw [if_neg hinput] at hneeds
    specialize hpending hinput
    by_cases hcompleted : e.type = .runCompleted
    · rw [hcompletes.2 hcompleted] at hlifecycle ⊢
      rw [if_pos hcompleted] at hneeds hpending
      refine iff_of_true ⟨?_, fun hsome => ?_⟩ fun _ => rfl
      · rw [hneeds, hlifecycle]
        exact iff_of_false (by simp) (by rintro ⟨⟩)
      · rw [hpending] at hsome
        cases hsome
    · rw [if_neg hcompleted] at hneeds hpending
      have hne : e.announces ≠ some .waitingInput ∧ e.announces ≠ some .completed :=
        ⟨mt hwaits.1 hinput, mt hcompletes.1 hcompleted⟩
      cases hannounces : e.announces with
      | none =>
        rw [hannounces] at hlifecycle
        refine iff_of_true ⟨?_, ?_⟩ fun _ => rfl
        · rw [hneeds, hlifecycle]
          exact h.needsInput
        · rw [hpending, hlifecycle]
          exact h.pendingInput
      | some l =>
        rw [hannounces] at hlifecycle hne
        have hl : l ≠ .waitingInput ∧ l ≠ .completed := ⟨fun he => hne.1 (he ▸ rfl), fun he => hne.2 (he ▸ rfl)⟩
        have hshown : (applyType (countEvent state e.toPublic) e.toPublic).lifecycle ≠ .waitingInput := by
          rw [hlifecycle]
          exact mt RunLifecycle.shown_eq_waitingInput.1 hl.1
        constructor
        · intro hnext hasked
          exact absurd (hnext.needsInput.1 (hneeds.trans hasked)) hshown
        · intro hasked
          have hno : state.needsInput ≠ true := by
            intro hyes
            have := hasked hyes
            simp [hl.1, hl.2] at this
          refine ⟨?_, fun hsome => ?_⟩
          · rw [hneeds]
            exact iff_of_false hno hshown
          · rw [hpending] at hsome
            exact absurd (h.needsInput.2 (h.pendingInput hsome)) hno

/-- Every prefix of a log. -/
theorem Follows.asksInTime_iff (hs : Follows id n state) (hevents : Streamed id n events) (h : state.AsksInTime) :
    (∀ k, (Web.receive state ((events.take k).map (·.toPublic))).AsksInTime) ↔ Unanswered state.needsInput events := by
  induction events generalizing n state with
  | nil => exact iff_of_true (fun k => by rw [List.take_nil]; exact h) trivial
  | cons e events ih =>
    obtain ⟨⟨hread, hid, hseq, -⟩, hrest⟩ := hevents
    obtain ⟨happly, hnext⟩ := hs.apply hid hseq
    have hstep := h.apply_iff hread
    rw [← happly] at hstep
    have hneeds : (applyEvent state e.toPublic).needsInput = asksAfter state.needsInput e := by
      rw [happly, applyType_needsInput]
      rfl
    unfold Unanswered
    rw [← hstep, ← hneeds]
    constructor
    · intro hall
      have hone : (applyEvent state e.toPublic).AsksInTime := hall 1
      exact ⟨hone, (ih hnext hrest hone).1 fun k => hall (k + 1)⟩
    · rintro ⟨hone, hafter⟩ k
      cases k with
      | zero => exact h
      | succ k => exact (ih hnext hrest hone).2 hafter k

end

section
variable {σ ε : Type} {B : Backend σ ε} {R : RunBackend B} {D : Deployment}

/-- **When the browser asks for input.**  After every prefix of the log of a Run it asks exactly while the Run waits, if
    and only if no state is announced after a request but another request or the completion: an answer, a cancellation
    or a failure leaves the request open. -/
theorem asks_while_waiting_iff (E : EventBackend R) {w : World σ} (h : (served B D).Reach anyStep w) {id : String}
    {run : RunView} {events : List RunEvent} (hrun : R.log w.store id = some (run, events)) :
    (∀ k, (receive {} (shownEvents (events.take k))).AsksInTime) ↔ Unanswered false events := by
  obtain ⟨-, -, hstreamed⟩ := served_streamed E h hrun
  have hstart : Follows id 0 ({} : RunUiState) := ⟨by rintro _ ⟨⟩, rfl⟩
  have hin : ({} : RunUiState).AsksInTime := ⟨by simp, by rintro ⟨⟩⟩
  rw [← hstart.asksInTime_iff hstreamed hin]
  refine forall_congr' fun k => ?_
  rw [shownEvents_eq (hstreamed.take k).enveloped]

end

/-- The browser goes on asking after the Run that waited is canceled. -/
theorem asks_after_cancel : ¬ ∀ k, (receive {} (shownEvents (Interactive.stoppedEvents.take k))).AsksInTime := by
  intro h
  have hunanswered := (asks_while_waiting_iff memoryEvents
    (Interactive.askedWorld_served.steps Interactive.stoppedWorld_steps) Interactive.stoppedRun_log).1 h
  exact absurd hunanswered (by decide)

end RoutePilot
