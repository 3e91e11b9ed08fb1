/-
  The event stream of a Run (`_stream_events` in `routes.py`).

  The generator is a state machine over its awaits and yields, next to any
  other operations of the store.  One iteration asks whether the client is
  gone, authenticates again, lists the events after its cursor, yields them one
  by one, reads the Run, and waits for more events.
-/
import RoutePilot.Spec.Backend

namespace RoutePilot

open Lib

/-- Why a stream ended. -/
inductive StreamEnd where
  | disconnected
  | authorizationChanged
  /-- the Run was terminal and the last list of events empty -/
  | terminal
  | raised
  deriving DecidableEq, Repr

/-- Where the generator is suspended. -/
inductive StreamPc where
  /-- `await request.is_disconnected()` -/
  | isDisconnected
  /-- `await require_principal(request)` -/
  | requirePrincipal
  /-- `await runtime.store.list_events(...)` -/
  | listEvents (refreshed : Principal)
  /-- `yield _serialize_event(event)`, with the listed events still to yield -/
  | yielding (refreshed : Principal) (events rest : List RunEvent)
  /-- `await runtime.store.get_run(...)`, after this list of events -/
  | getRun (refreshed : Principal) (events : List RunEvent)
  /-- `await runtime.store.wait_for_events(...)` -/
  | waitForEvents (refreshed : Principal)
  /-- `yield f": heartbeat ..."` -/
  | heartbeat
  | ended (why : StreamEnd)

/-- The generator: its position, its cursor, and the events it has yielded. -/
structure Stream where
  pc : StreamPc := .isDisconnected
  cursor : ℕ
  yielded : List RunEvent := []

/-- The same tenant, user and authorization epoch. -/
def Principal.sameSession (p q : Principal) : Bool :=
  p.tenantId == q.tenantId && p.userId == q.userId && p.authorizationEpoch == q.authorizationEpoch

/-- The position after a list of events was read: the `for` loop over it. -/
def afterList (refreshed : Principal) (events : List RunEvent) : List RunEvent → StreamPc
  | [] => .getRun refreshed events
  | rest => .yielding refreshed events rest

/-- The position after the Run was read. -/
def afterRun (refreshed : Principal) (events : List RunEvent) (run : RunView) : StreamPc :=
  if run.lifecycleState.isTerminal ∧ events = [] then .ended .terminal else .waitForEvents refreshed

instance (events : List RunEvent) : Decidable (events = []) :=
  decidable_of_iff (events.isEmpty = true) List.isEmpty_iff

/-- What moves the world of a stream: another operation of the store, or the generator. -/
inductive StreamLabel (ε : Type) where
  | store (l : OpLabel ε)
  | stream

structure StreamWorld (σ : Type) where
  store : σ
  stream : Stream

section
variable {σ ε : Type} (B : Backend σ ε) (p : Principal) (runId : String)

/-- One step of the generator. -/
inductive StreamStep : StreamWorld σ → StreamWorld σ → Prop
  | connected {s : σ} {g : Stream} (h : g.pc = .isDisconnected) :
      StreamStep ⟨s, g⟩ ⟨s, { g with pc := .requirePrincipal }⟩
  | disconnected {s : σ} {g : Stream} (h : g.pc = .isDisconnected) :
      StreamStep ⟨s, g⟩ ⟨s, { g with pc := .ended .disconnected }⟩
  | authorized {s : σ} {g : Stream} (refreshed : Principal) (h : g.pc = .requirePrincipal)
      (hsame : refreshed.sameSession p) :
      StreamStep ⟨s, g⟩ ⟨s, { g with pc := .listEvents refreshed }⟩
  | changed {s : σ} {g : Stream} (refreshed : Principal) (h : g.pc = .requirePrincipal)
      (hdiff : ¬ refreshed.sameSession p) :
      StreamStep ⟨s, g⟩ ⟨s, { g with pc := .ended .authorizationChanged }⟩
  | unauthenticated {s : σ} {g : Stream} (h : g.pc = .requirePrincipal) :
      StreamStep ⟨s, g⟩ ⟨s, { g with pc := .ended .raised }⟩
  | listed {s s' : σ} {g : Stream} {q : Principal} (env : ε) (events : List RunEvent)
      (h : g.pc = .listEvents q)
      (hexec : B.exec env (.listEvents q runId g.cursor) s (.ok events) s') :
      StreamStep ⟨s, g⟩ ⟨s', { g with pc := afterList q events events }⟩
  | listRaised {s s' : σ} {g : Stream} {q : Principal} (env : ε) (e : StoreError)
      (h : g.pc = .listEvents q)
      (hexec : B.exec env (.listEvents q runId g.cursor) s (.error e) s') :
      StreamStep ⟨s, g⟩ ⟨s', { g with pc := .ended .raised }⟩
  | yielded {s : σ} {g : Stream} {q : Principal} {events rest : List RunEvent} {e : RunEvent}
      (h : g.pc = .yielding q events (e :: rest)) :
      StreamStep ⟨s, g⟩
        ⟨s, { pc := afterList q events rest, cursor := e.seq, yielded := g.yielded ++ [e] }⟩
  | read {s s' : σ} {g : Stream} {q : Principal} {events : List RunEvent} (env : ε) (run : RunView)
      (h : g.pc = .getRun q events) (hexec : B.exec env (.getRun q runId) s (.ok run) s') :
      StreamStep ⟨s, g⟩ ⟨s', { g with pc := afterRun q events run }⟩
  | readRaised {s s' : σ} {g : Stream} {q : Principal} {events : List RunEvent} (env : ε)
      (e : StoreError) (h : g.pc = .getRun q events)
      (hexec : B.exec env (.getRun q runId) s (.error e) s') :
      StreamStep ⟨s, g⟩ ⟨s', { g with pc := .ended .raised }⟩
  | available {s s' : σ} {g : Stream} {q : Principal} (env : ε) (h : g.pc = .waitForEvents q)
      (hexec : B.exec env (.waitForEvents q runId g.cursor) s (.ok true) s') :
      StreamStep ⟨s, g⟩ ⟨s', { g with pc := .isDisconnected }⟩
  | timedOut {s : σ} {g : Stream} {q : Principal} (h : g.pc = .waitForEvents q) :
      StreamStep ⟨s, g⟩ ⟨s, { g with pc := .heartbeat }⟩
  | waitRaised {s s' : σ} {g : Stream} {q : Principal} (env : ε) (e : StoreError)
      (h : g.pc = .waitForEvents q)
      (hexec : B.exec env (.waitForEvents q runId g.cursor) s (.error e) s') :
      StreamStep ⟨s, g⟩ ⟨s', { g with pc := .ended .raised }⟩
  | heartbeat {s : σ} {g : Stream} (h : g.pc = .heartbeat) :
      StreamStep ⟨s, g⟩ ⟨s, { g with pc := .isDisconnected }⟩
  /-- the client went away: `GeneratorExit` at a yield, `CancelledError` at an await -/
  | closed {s : σ} {g : Stream} (h : ∀ why, g.pc ≠ .ended why) :
      StreamStep ⟨s, g⟩ ⟨s, { g with pc := .ended .disconnected }⟩

/-- A stream of the events after `afterSeq`, from the empty store, next to any other operations. -/
def streamSystem (afterSeq : ℕ) : Lts (StreamWorld σ) (StreamLabel ε) where
  init w := w = ⟨B.init, { cursor := afterSeq }⟩
  step w l w' := match l with
    | .store l => B.fresh l.env w.store ∧ B.exec l.env l.op w.store l.result w'.store ∧
        w'.stream = w.stream
    | .stream => StreamStep B p runId w w'

end

/-- The operation moved the Run to a terminal state. -/
def OpLabel.EndsRun {ε : Type} (runId : String) : OpLabel ε → Prop
  | ⟨_, .mutateRun _ id _, .ok (run, _)⟩ => id = runId ∧ run.lifecycleState.isTerminal
  | _ => False

/-- No terminal transition of the Run lands between an empty list of events and the read of the Run
    that follows it. -/
def NoLateEnd {σ ε : Type} (runId : String) (w : StreamWorld σ) : StreamLabel ε → Prop
  | .store l => ∀ q, w.stream.pc = .getRun q [] → ¬ l.EndsRun runId
  | .stream => True

end RoutePilot
