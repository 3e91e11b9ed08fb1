/-
  Streaming of a Task (`TaskService.subscribe` and the two handlers that call
  it, `on_message_send_stream` and `on_subscribe_to_task`).

  The generator is a state machine over its awaits and yields, next to the
  services.  It reads the record of its Task and sends the Task; then it goes
  round: it yields the events of the record it read last that are newer than
  its cursor, ends if that record is settled, and waits for a newer record.
-/
import RoutePilot.A2A.System

namespace RoutePilot.A2A

open Lib

/-- `TERMINAL_STATES`. -/
def TaskState.isTerminal : TaskState → Bool
  | completed | failed | canceled | rejected => true
  | _ => false

/-- The handler; `on_message_send_stream` has sent its message before. -/
inductive StreamHandler where
  | messageSendStream
  | subscribeToTask
  deriving DecidableEq, Repr

/-- Why a subscription ended. -/
inductive SubscriptionEnd where
  /-- `return`, on a settled record -/
  | settled
  /-- "Cannot subscribe to a terminal Task" -/
  | unsupported
  | raised (e : ServiceError)
  /-- by the subscriber -/
  | closed
  deriving DecidableEq, Repr

/-- Where the generator is suspended. -/
inductive SubscriberPc where
  /-- `await self.task_service.get_task(...)` -/
  | getTask
  /-- `yield clone_proto(record.task)` -/
  | sending (record : TaskRecord)
  /-- `yield clone_proto(event.event)`, with the events still to yield -/
  | yielding (current : TaskRecord) (events rest : List VersionedEvent)
  /-- `await self.store.wait_for_change(...)` -/
  | waitForChange (current : TaskRecord)
  | ended (why : SubscriptionEnd)

/-- The generator: its position, its cursor, the record whose Task it sent, and the events it has
    yielded. -/
structure Subscriber where
  pc : SubscriberPc := .getTask
  cursor : ℕ := 0
  snapshot : Option TaskRecord := none
  delivered : List VersionedEvent := []

/-- `max(item.version for item in events)`, if there are events. -/
def nextCursor (cursor : ℕ) (events : List VersionedEvent) : ℕ := (events.map (·.version)).max?.getD cursor

/-- The `for` loop over the events, and what follows it up to the next await. -/
def Subscriber.next (g : Subscriber) (current : TaskRecord) (events : List VersionedEvent) :
    List VersionedEvent → Subscriber
  | [] => { g with
      pc := if current.state.isSettled then .ended .settled else .waitForChange current
      cursor := nextCursor g.cursor events }
  | rest => { g with pc := .yielding current events rest }

/-- The retained events that are newer than a version. -/
def TaskRecord.newer (r : TaskRecord) (version : ℕ) : List VersionedEvent :=
  r.events.filter (version < ·.version)

/-- The beginning of a round. -/
def Subscriber.round (g : Subscriber) (current : TaskRecord) : Subscriber :=
  let events := current.newer g.cursor
  g.next current events events

/-- The Task is read: a terminal one is not subscribed to. -/
def StreamHandler.admitted (handler : StreamHandler) (record : TaskRecord) : SubscriberPc :=
  if handler = .subscribeToTask ∧ record.state.isTerminal then .ended .unsupported else .sending record

/-- The Task is sent, and `subscribe(record, after_version=record.version)` begins. -/
def Subscriber.subscribe (g : Subscriber) (record : TaskRecord) : Subscriber :=
  { g with cursor := record.version, snapshot := some record }.round record

section
variable {σ : Type} (B : TaskBackend σ) (cfg : ServiceConfig) (n : ℕ) (handler : StreamHandler)
  (key : TaskKey)

/-- One step of the generator, over the shared store. -/
inductive SubscriberStep : σ → Subscriber → σ → Subscriber → Prop
  | found {s s' : σ} {g : Subscriber} (record : TaskRecord) (h : g.pc = .getTask)
      (hexec : (services B cfg n).exec (.store (.get key)) s (.ok record) s') :
      SubscriberStep s g s' { g with pc := handler.admitted record }
  | notFound {s s' : σ} {g : Subscriber} (e : ServiceError) (h : g.pc = .getTask)
      (hexec : (services B cfg n).exec (.store (.get key)) s (.error e) s') :
      SubscriberStep s g s' { g with pc := .ended (.raised e) }
  | sent {s : σ} {g : Subscriber} (record : TaskRecord) (h : g.pc = .sending record) :
      SubscriberStep s g s (g.subscribe record)
  | yielded {s : σ} {g : Subscriber} (current : TaskRecord) (events rest : List VersionedEvent)
      (e : VersionedEvent) (h : g.pc = .yielding current events (e :: rest)) :
      SubscriberStep s g s
        ({ g with delivered := g.delivered ++ [e] }.next current events rest)
  | changed {s s' : σ} {g : Subscriber} (current changed : TaskRecord) (h : g.pc = .waitForChange current)
      (hexec : (services B cfg n).exec (.store (.waitForChange current.key g.cursor)) s
        (.ok (some changed)) s') :
      SubscriberStep s g s' (g.round changed)
  | timedOut {s s' : σ} {g : Subscriber} (current : TaskRecord) (h : g.pc = .waitForChange current)
      (hexec : (services B cfg n).exec (.store (.waitForChange current.key g.cursor)) s (.ok none) s') :
      SubscriberStep s g s' (g.round current)
  | waitRaised {s s' : σ} {g : Subscriber} (current : TaskRecord) (e : ServiceError)
      (h : g.pc = .waitForChange current)
      (hexec : (services B cfg n).exec (.store (.waitForChange current.key g.cursor)) s (.error e) s') :
      SubscriberStep s g s' { g with pc := .ended (.raised e) }
  /-- `GeneratorExit` at a yield, `CancelledError` at an await -/
  | closed {s : σ} {g : Subscriber} (h : ∀ why, g.pc ≠ .ended why) :
      SubscriberStep s g s { g with pc := .ended .closed }

structure SubscriptionWorld (σ : Type) where
  services : Machine.World svc Call σ
  subscriber : Subscriber := {}

end

end RoutePilot.A2A
