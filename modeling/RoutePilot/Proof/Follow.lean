/-
  The loop that follows a Run (`followRunEvents` in `sse.ts`, with the callbacks of
  `startStream` in `TripWorkspace.tsx`), and the event streams of the server.

  Every connection is a new generator, from the last number that the page has counted.
  It may break at any time, and what was yielded and not read is lost.  The page still
  gets every event once and in order, and shows a state that the Run was in
  (`follow_in_order`).  (A cancellation by the page, which sets a snapshot in between,
  is not among the steps.)
-/
import Mathlib.Logic.Relation
import RoutePilot.Proof.Browser
import RoutePilot.Proof.Stream

namespace RoutePilot

open Lib Lts Web

/-- Where `followRunEvents` is. -/
inductive FollowPc where
  /-- the condition of the loop -/
  | checking
  /-- `streamRunEventsOnce`: the generator that answers, and how many of its events were read -/
  | streaming (generator : Stream) (read : ℕ)
  /-- `wait` -/
  | waiting
  /-- the loop was left -/
  | closed

structure FollowWorld (σ : Type) where
  world : World σ
  pc : FollowPc := .checking
  state : RunUiState

/-- `onEvent`, as far as the state of the Run. -/
def onEvent (tripId : String) (state : RunUiState) (event : PublicRunEvent) : RunUiState :=
  if event.tripId ≠ tripId ∨ some event.runId ≠ state.runId then state else runEventReducer state (.event event)

section
variable {σ ε : Type} (B : Backend σ ε) (D : Deployment) (p : Principal) (runId tripId : String)

/-- One step of the page, of a generator or of the server. -/
inductive FollowStep (f : FollowWorld σ) : FollowWorld σ → Prop
  | served {w : World σ} {l : RtLabel ε} (h : (served B D).step f.world l w) : FollowStep f { f with world := w }
  /-- `onStatus`, or the browser goes offline -/
  | status (connection : StreamConnection) :
      FollowStep f { f with state := runEventReducer f.state (.connection connection) }
  | finished (h : f.pc = .checking) (hterminal : isRunTerminal f.state = true) : FollowStep f { f with pc := .closed }
  /-- the browser is offline, or the request fails -/
  | refused (h : f.pc = .checking) (hterminal : isRunTerminal f.state = false) : FollowStep f { f with pc := .waiting }
  | connected {after : ℕ} (h : f.pc = .checking) (hterminal : isRunTerminal f.state = false)
      (hafter : f.state.lastSeq = after) : FollowStep f { f with pc := .streaming { cursor := after } 0 }
  | generated {g g' : Stream} {read : ℕ} {s : σ} (h : f.pc = .streaming g read)
      (hs : StreamStep B p runId ⟨f.world.store, g⟩ ⟨s, g'⟩) :
      FollowStep f { f with world := { f.world with store := s }, pc := .streaming g' read }
  | event {g : Stream} {read : ℕ} {e : RunEvent} (h : f.pc = .streaming g read) (he : g.yielded[read]? = some e) :
      FollowStep f
        { f with
          pc := .streaming g (read + 1)
          state := ((parsePublicRunEvent (.obj e.dump)).map (onEvent tripId f.state)).getD f.state }
  /-- the response ends, be it before all of it was read -/
  | ended {g : Stream} {read : ℕ} (h : f.pc = .streaming g read) :
      FollowStep f { f with pc := if isRunTerminal f.state then .closed else .waiting }
  /-- the response breaks -/
  | failed {g : Stream} {read : ℕ} (h : f.pc = .streaming g read) : FollowStep f { f with pc := .waiting }
  | waited (h : f.pc = .waiting) : FollowStep f { f with pc := .checking }

end

/-! ## The status of the connection -/

/-- The state without the status of the connection. -/
def Web.RunUiState.unconnected (state : RunUiState) : RunUiState := { state with connection := .idle }

theorem applyEvent_connection (state : RunUiState) (connection : StreamConnection) (event : PublicRunEvent) :
    (applyEvent { state with connection := connection } event).unconnected = (applyEvent state event).unconnected := by
  show RunUiState.unconnected (if state.runId.any _ then _ else if event.seq ≤ state.lastSeq then _ else _) =
    RunUiState.unconnected (if state.runId.any _ then _ else if event.seq ≤ state.lastSeq then _ else _)
  split
  · rfl
  · split
    · rfl
    · unfold applyType
      cases event.type <;> rfl

/-- Events do the same to states that differ in the status of the connection. -/
theorem applyEvent_unconnected {state state' : RunUiState} (h : state.unconnected = state'.unconnected)
    (event : PublicRunEvent) : (applyEvent state event).unconnected = (applyEvent state' event).unconnected := by
  have hstate : state = { state' with connection := state.connection } := by
    calc state = { state.unconnected with connection := state.connection } := rfl
      _ = { state'.unconnected with connection := state.connection } := by rw [h]
      _ = { state' with connection := state.connection } := rfl
  rw [hstate]
  exact applyEvent_connection _ _ _

/-! ## The generator -/

section
variable {σ ε : Type} {B : Backend σ ε} {log : σ → RunLog} {Ok : σ → Prop}

theorem StreamStep.store_eq (hB : StreamInterface B log Ok) {p : Principal} {id : String} {w w' : StreamWorld σ}
    (h : StreamStep B p id w w') : w'.store = w.store := by
  cases h with
  | listed _ _ _ hexec | listRaised _ _ _ hexec | read _ _ _ hexec | readRaised _ _ _ hexec | available _ _ hexec
  | waitRaised _ _ _ hexec => exact hB.reads _ _ _ _ _ hexec trivial
  | _ => rfl

end

/-! ## The events of a Trip -/

/-- The events of a Run are those of its Trip. -/
theorem RunHistory.tripId {Label : String → Prop} {Made : ArtifactView → Prop} {run : RunView} {events : List RunEvent}
    (h : RunHistory Label Made run events) : ∀ e ∈ events, e.tripId = run.tripId := by
  induction h with
  | accepted env p c trip =>
    intro e he
    rw [List.mem_singleton] at he
    rw [he]
    rfl
  | moved env h hm ih | resumed env requestId values h ih =>
    intro e he
    rcases List.mem_append.1 he with he | he
    · exact ih e he
    · rw [List.mem_singleton] at he
      rw [he]
      rfl

/-- The part of a list between two positions, in a longer list. -/
theorem take_of_isPrefix {α : Type} {xs ys : List α} {m : ℕ} (h : xs <+: ys) (hm : m ≤ xs.length) :
    ys.take m = xs.take m := by
  obtain ⟨zs, rfl⟩ := h
  exact List.take_append_of_le_length hm

/-! ## The loop -/

section
variable {σ ε : Type} {B : Backend σ ε} {R : RunBackend B} {D : Deployment} {p : Principal} {id : String}
  {start : RunUiState} {c : ℕ}

/-- What the loop has received: the events from number `c` to number `m`, each of them once. -/
structure Caught (R : RunBackend B) (id : String) (start : RunUiState) (c m : ℕ) (events : List RunEvent)
    (f : FollowWorld σ) : Prop where
  le : c ≤ m
  received : m ≤ events.length
  runId : f.state.runId = some id
  lastSeq : f.state.lastSeq = m
  state : f.state.unconnected = (receive start (shownEvents ((events.take m).drop c))).unconnected
  /-- the next event to read is the one after them -/
  streaming : ∀ g read, f.pc = .streaming g read →
    ∃ after, StreamOk R.log id after ⟨f.world.store, g⟩ ∧ after + read = m
  closed : f.pc = .closed → isRunTerminal f.state = true

/-- The loop goes on without receiving anything. -/
theorem Caught.goto {m : ℕ} {events : List RunEvent} {f : FollowWorld σ} (h : Caught R id start c m events f)
    {pc : FollowPc} (hstreaming : ∀ g read, pc = .streaming g read →
      ∃ after, StreamOk R.log id after ⟨f.world.store, g⟩ ∧ after + read = m)
    (hclosed : pc = .closed → isRunTerminal f.state = true) : Caught R id start c m events { f with pc := pc } where
  le := h.le
  received := h.received
  runId := h.runId
  lastSeq := h.lastSeq
  state := h.state
  streaming := hstreaming
  closed := hclosed

/-- The server goes on: what was received stays the first part of the log. -/
theorem Caught.served {m : ℕ} {events events' : List RunEvent} {f : FollowWorld σ} {w : World σ}
    (h : Caught R id start c m events f) (hevents : (R.log f.world.store).events id = events)
    (hevents' : (R.log w.store).events id = events') (hgrows : events <+: events') :
    Caught R id start c m events' { f with world := w } where
  le := h.le
  received := h.received.trans hgrows.length_le
  runId := h.runId
  lastSeq := h.lastSeq
  state := by
    rw [take_of_isPrefix hgrows h.received]
    exact h.state
  streaming g read hpc := by
    obtain ⟨after, hstream, hread⟩ := h.streaming g read hpc
    refine ⟨after, ⟨hstream.cursor, ?_, hstream.nonempty⟩, hread⟩
    have hdelivered := hstream.delivered
    rw [show (R.log f.world.store).events id = events from hevents] at hdelivered
    show g.yielded ++ g.pc.rest <+: ((R.log w.store).events id).drop after
    rw [hevents']
    exact hdelivered.trans (hgrows.drop after)
  closed := h.closed

/-- The event that the loop reads next is the next one of the log. -/
theorem Caught.next {m : ℕ} {events : List RunEvent} {f : FollowWorld σ} (h : Caught R id start c m events f)
    (hevents : (R.log f.world.store).events id = events) {g : Stream} {read : ℕ} {e : RunEvent}
    (hpc : f.pc = .streaming g read) (he : g.yielded[read]? = some e) : events[m]? = some e := by
  obtain ⟨after, hstream, hread⟩ := h.streaming g read hpc
  have hyielded : g.yielded <+: ((R.log f.world.store).events id).drop after :=
    (List.prefix_append _ _).trans hstream.delivered
  have hget := getElem?_of_isPrefix hyielded he
  rwa [hevents, List.getElem?_drop, hread] at hget

/-- The loop reads an event: it is received. -/
theorem Caught.event {m : ℕ} {events : List RunEvent} {f : FollowWorld σ} {tripId : String}
    (h : Caught R id start c m events f) (hstreamed : Streamed id 0 events) (htrip : ∀ e ∈ events, e.tripId = tripId)
    {g : Stream} {read : ℕ} {e : RunEvent} (hpc : f.pc = .streaming g read) (he : events[m]? = some e) :
    Caught R id start c (m + 1) events
      { f with
        pc := .streaming g (read + 1)
        state := ((parsePublicRunEvent (.obj e.dump)).map (onEvent tripId f.state)).getD f.state } := by
  obtain ⟨hread, hid, hseq, -⟩ := hstreamed.get he
  rw [Nat.zero_add] at hseq
  obtain ⟨hlt, -⟩ := List.getElem?_eq_some_iff.1 he
  have hparse : parsePublicRunEvent (.obj e.dump) = some e.toPublic :=
    parsePublicRunEvent_dump (hstreamed.enveloped e (List.mem_of_getElem? he))
  have hown : ¬ (e.toPublic.tripId ≠ tripId ∨ some e.toPublic.runId ≠ f.state.runId) := by
    rw [h.runId, not_or, not_not, not_not]
    exact ⟨htrip e (List.mem_of_getElem? he), congrArg some hid⟩
  have hevent : ((parsePublicRunEvent (.obj e.dump)).map (onEvent tripId f.state)).getD f.state =
      applyEvent f.state e.toPublic := by
    rw [hparse, Option.map_some, Option.getD_some, onEvent, if_neg hown]
    rfl
  have hfollows : Follows id m f.state := by
    refine ⟨fun id' hid' => ?_, h.lastSeq⟩
    rw [h.runId] at hid'
    cases hid'
    rfl
  obtain ⟨happly, hnext⟩ := hfollows.apply hid hseq
  have hshown : shownEvents ((events.take (m + 1)).drop c) =
      shownEvents ((events.take m).drop c) ++ [e.toPublic] := by
    have hlength : c ≤ (events.take m).length := by
      rw [List.length_take, min_eq_left h.received]
      exact h.le
    rw [List.take_add_one, he, List.drop_append_of_le_length hlength, shownEvents, List.filterMap_append]
    exact congrArg (_ ++ ·) (List.filterMap_cons_some hparse)
  rw [hevent]
  constructor
  · exact h.le.trans (Nat.le_succ m)
  · exact hlt
  · show (applyEvent f.state e.toPublic).runId = some id
    rw [happly, (applyType_counted _ _).2.1, ← hid]
    rfl
  · exact hnext.lastSeq
  · show (applyEvent f.state e.toPublic).unconnected = _
    rw [hshown, receive_append]
    exact applyEvent_unconnected h.state e.toPublic
  · intro g' read' hpc'
    cases hpc'
    obtain ⟨after, hstream, hat⟩ := h.streaming g read hpc
    exact ⟨after, hstream, by omega⟩
  · intro hpc'
    cases hpc'

/-- The loop, next to a Run of the server. -/
structure Following (R : RunBackend B) (D : Deployment) (w : World σ) (id tripId : String) (start : RunUiState) (c : ℕ)
    (f : FollowWorld σ) : Prop where
  steps : (served B D).Steps anyStep w f.world
  caught : ∃ run events m,
    R.log f.world.store id = some (run, events) ∧ run.tripId = tripId ∧ Caught R id start c m events f

/-- **Step lemma.** -/
theorem Following.step (E : EventBackend R) (hB : StreamInterface B R.log R.Ok) {w : World σ}
    (hw : (served B D).Reach anyStep w) {tripId : String} {f f' : FollowWorld σ}
    (h : Following R D w id tripId start c f) (hs : FollowStep B D p id tripId f f') :
    Following R D w id tripId start c f' := by
  obtain ⟨hsteps, run, events, m, hrun, htrip, hcaught⟩ := h
  have hreach : (served B D).Reach anyStep f.world := hw.steps hsteps
  have hevents : (R.log f.world.store).events id = events := RunLog.events_of_some hrun
  -- what changes the loop alone
  have hkeep : ∀ {g : FollowWorld σ}, g.world = f.world → Caught R id start c m events g →
      Following R D w id tripId start c g := by
    intro g hworld hg
    rw [← hworld] at hsteps hrun
    exact ⟨hsteps, run, events, m, hrun, htrip, hg⟩
  cases hs with
  | @served w' l h =>
    have hstep : (RoutePilot.served B D).Steps anyStep f.world w' := .single ⟨l, trivial, h⟩
    obtain ⟨run', events', hrun', hprefix, hidentity⟩ := served_grows E (fun c => (D.coordinator c).supplies_any)
      (fun _ _ _ _ _ _ _ => trivial) hreach hstep hrun
    have htrip' : run'.tripId = run.tripId := congrArg (fun x => x.2.1) hidentity
    exact ⟨hsteps.trans hstep, run', events', m, hrun', htrip'.trans htrip,
      hcaught.served hevents (RunLog.events_of_some hrun') hprefix⟩
  | status connection =>
    refine hkeep rfl ?_
    exact ⟨hcaught.le, hcaught.received, hcaught.runId, hcaught.lastSeq, hcaught.state, hcaught.streaming,
      hcaught.closed⟩
  | finished h hterminal =>
    refine hkeep rfl (hcaught.goto ?_ fun _ => hterminal)
    rintro g read ⟨⟩
  | refused h hterminal | failed h | waited h =>
    refine hkeep rfl (hcaught.goto ?_ ?_)
    · rintro g read ⟨⟩
    · rintro ⟨⟩
  | @connected after h hterminal hafter =>
    have hm : after = m := by
      have := hcaught.lastSeq
      rw [hafter] at this
      exact_mod_cast this
    refine hkeep rfl (hcaught.goto ?_ ?_)
    · rintro g read ⟨⟩
      refine ⟨after, ⟨rfl, List.nil_prefix, ?_⟩, hm⟩
      rintro q listed rest ⟨⟩
    · rintro ⟨⟩
  | @generated g g' read s hpc hs =>
    obtain rfl := hs.store_eq hB
    refine hkeep rfl (hcaught.goto ?_ ?_)
    · rintro g₁ read₁ ⟨⟩
      obtain ⟨after, hstream, hread⟩ := hcaught.streaming g read hpc
      exact ⟨after, (hstream.step hB (served_ok E hreach) hs).2, hread⟩
    · rintro ⟨⟩
  | @event g read e hpc he =>
    obtain ⟨-, -, hstreamed⟩ := served_streamed E hreach hrun
    have hown : ∀ e ∈ events, e.tripId = tripId := fun e he =>
      ((served_history E hreach hrun).tripId e he).trans htrip
    exact ⟨hsteps, run, events, m + 1, hrun, htrip,
      hcaught.event hstreamed hown hpc (hcaught.next hevents hpc he)⟩
  | @ended g read hpc =>
    refine hkeep rfl (hcaught.goto ?_ fun hclosed => ?_)
    · intro g₁ read₁ hpc₁
      split at hpc₁ <;> cases hpc₁
    · split at hclosed
      · assumption
      · cases hclosed

/-- What the events up to one number announce to a reader who has the state after another. -/
theorem settled_between (l : RunLifecycle) (events : List RunEvent) {c m v : ℕ} (hc : c ≤ v) :
    ∃ k, m ≤ k ∧ k ≤ max m v ∧
      settled (settled l (events.take v)) ((events.take m).drop c) = settled l (events.take k) := by
  rcases le_total v m with hle | hle
  · refine ⟨m, le_rfl, le_max_left m v, ?_⟩
    have hdrop := settled_drop l (events.take m) hc
    rwa [List.take_take, min_eq_left hle] at hdrop
  · rcases settled_cases ((events.take m).drop c) with hnone | hforget
    · exact ⟨v, hle, le_max_right m v, settled_of_none hnone _⟩
    · refine ⟨m, le_rfl, le_max_left m v, ?_⟩
      rw [hforget _ (settled l ((events.take m).take c)), ← settled_append, List.take_append_drop]

theorem RunLifecycle.isTerminal_of_shown {state : RunUiState} {l : RunLifecycle} (h : state.lifecycle = l.shown)
    (hterminal : isRunTerminal state = true) : l.isTerminal = true := by
  rw [isRunTerminal, h] at hterminal
  revert hterminal
  cases l <;> decide

/-- **A Run is followed to its end.**  The page starts from any snapshot and an older cursor, and the server goes on,
    whatever connections are refused or broken.  What the page has received is a part of the log without gaps and
    duplicates, up to the number that it has counted; it shows a state that the Run was in, at that number or later;
    and the loop is only left when that state is terminal. -/
theorem follow_in_order (E : EventBackend R) (hB : StreamInterface B R.log R.Ok) {w : World σ}
    (h : (served B D).Reach anyStep w) {run₁ : RunView} {events₁ : List RunEvent}
    (hrun₁ : R.log w.store id = some (run₁, events₁)) (hc : c ≤ run₁.controlVersion) (state : RunUiState)
    {f : FollowWorld σ} (hf : Relation.ReflTransGen (FollowStep B D p id run₁.tripId)
      { world := w, state := applySnapshot state run₁.snapshot c } f) :
    ∃ run events m k, R.log f.world.store id = some (run, events) ∧ f.state.lastSeq = (m : ℕ) ∧
      f.state.unconnected =
        (receive (applySnapshot state run₁.snapshot c) (shownEvents ((events.take m).drop c))).unconnected ∧
      c ≤ m ∧ m ≤ k ∧ k ≤ run.controlVersion ∧ f.state.lifecycle = (settled .queued (events.take k)).shown ∧
      (f.pc = .closed → (settled .queued (events.take k)).isTerminal = true) := by
  obtain ⟨hid₁, hlength₁, -⟩ := served_streamed E h hrun₁
  -- along the steps, by the step lemma
  have hfollowing : Following R D w id run₁.tripId (applySnapshot state run₁.snapshot c) c f := by
    induction hf with
    | refl =>
      refine ⟨.refl, run₁, events₁, c, hrun₁, rfl, le_rfl, hc.trans hlength₁.ge, congrArg some hid₁, rfl, ?_, ?_, ?_⟩
      · rw [List.drop_of_length_le (List.length_take_le _ _)]
        rfl
      · rintro g read ⟨⟩
      · rintro ⟨⟩
    | tail _ hs ih => exact ih.step E hB h hs
  obtain ⟨hsteps, run, events, m, hrun, -, hcaught⟩ := hfollowing
  obtain ⟨-, hlength, hstreamed⟩ := served_streamed E (h.steps hsteps) hrun
  obtain ⟨run', events', hrun', htake, hstate₁⟩ := past_states_replay E h hsteps hrun₁
  rw [hrun] at hrun'
  cases hrun'
  have hle : run₁.controlVersion ≤ events.length := by
    rw [← hlength₁, ← htake, List.length_take]
    exact min_le_right _ _
  obtain ⟨k, hmk, hkle, hsettled⟩ := settled_between .queued events (m := m) hc
  have hpart : Streamed id c ((events.take m).drop c) := by
    have := (hstreamed.take m).drop c
    rwa [Nat.zero_add] at this
  have hstart : Follows id c (applySnapshot state run₁.snapshot c) := by
    refine ⟨?_, rfl⟩
    rintro id' hid'
    cases hid'
    exact hid₁
  obtain ⟨-, -, hshown⟩ := hstart.receive hpart (show (c : ℚ) ≤ (run₁.controlVersion : ℚ) by exact_mod_cast hc)
    (l := run₁.lifecycleState) rfl
  have hlifecycle : f.state.lifecycle = (settled .queued (events.take k)).shown := by
    calc f.state.lifecycle = f.state.unconnected.lifecycle := rfl
      _ = (receive (applySnapshot state run₁.snapshot c) (shownEvents ((events.take m).drop c))).lifecycle := by
        rw [hcaught.state]
        rfl
      _ = (settled run₁.lifecycleState ((events.take m).drop c)).shown := by
        rw [shownEvents_eq hpart.enveloped, hshown]
      _ = (settled .queued (events.take k)).shown := by rw [hstate₁, hsettled]
  refine ⟨run, events, m, k, hrun, hcaught.lastSeq, hcaught.state, hcaught.le, hmk, ?_, hlifecycle, fun hclosed => ?_⟩
  · rw [← hlength]
    exact hkle.trans (max_le hcaught.received hle)
  · exact RunLifecycle.isTerminal_of_shown hlifecycle (hcaught.closed hclosed)

end

namespace Interactive

open Play LateCancel

/-- The events of the Run that waits, after its first one. -/
def laterEvents : List RunEvent := (askedWorld.store.events.getD "run_3" []).filter (1 < ·.seq)

def secondEvent : RunEvent := laterEvents.head (by decide)

/-- The generator has yielded the second event. -/
def followedStream : Stream :=
  { cursor := secondEvent.seq, pc := afterList owner laterEvents laterEvents.tail, yielded := [secondEvent] }

/-- The page has read it. -/
def followed : FollowWorld Store where
  world := askedWorld
  pc := .streaming followedStream 1
  state := ((parsePublicRunEvent (.obj secondEvent.dump)).map
    (onEvent askedRun.tripId (applySnapshot {} askedRun.snapshot (1 : ℕ)))).getD
      (applySnapshot {} askedRun.snapshot (1 : ℕ))

theorem followed_steps : Relation.ReflTransGen
    (FollowStep memoryBackend (deployment snapshot) owner "run_3" askedRun.tripId)
    { world := askedWorld, state := applySnapshot {} askedRun.snapshot (1 : ℕ) } followed := by
  have hlater : laterEvents = secondEvent :: laterEvents.tail := (List.cons_head_tail _).symm
  have hyielding : afterList owner laterEvents laterEvents =
      .yielding owner laterEvents (secondEvent :: laterEvents.tail) :=
    congrArg (afterList owner laterEvents) hlater
  refine .head (.connected rfl rfl rfl) ?_
  refine .head (.generated rfl (.connected rfl)) ?_
  refine .head (.generated rfl (.authorized owner rfl rfl)) ?_
  refine .head (.generated rfl (.listed (env 12) laterEvents rfl ⟨rfl, rfl⟩)) ?_
  refine .head (.generated rfl (.yielded hyielding)) ?_
  exact .single (.event rfl rfl)

end Interactive

/-- The page has counted the second event of the Run that waits. -/
theorem follow_in_order_asked : Interactive.followed.state.lastSeq = 2 ∧ ∃ run events m k,
    memoryRuns.log Interactive.followed.world.store "run_3" = some (run, events) ∧
    Interactive.followed.state.lastSeq = (m : ℕ) ∧
    Interactive.followed.state.unconnected = (receive (applySnapshot {} Interactive.askedRun.snapshot (1 : ℕ))
      (shownEvents ((events.take m).drop 1))).unconnected ∧
    1 ≤ m ∧ m ≤ k ∧ k ≤ run.controlVersion ∧
    Interactive.followed.state.lifecycle = (settled .queued (events.take k)).shown ∧
    (Interactive.followed.pc = .closed → (settled .queued (events.take k)).isTerminal = true) :=
  ⟨by decide, follow_in_order memoryEvents memory_streamInterface Interactive.askedWorld_served Interactive.askedRun_log
    (by decide) {} Interactive.followed_steps⟩

end RoutePilot
