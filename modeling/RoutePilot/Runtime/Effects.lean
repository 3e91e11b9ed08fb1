/-
  What the coroutines of the runtime can do: the exceptions of Python, the
  awaited operations, the actions between awaits, and the coroutines that are
  started as tasks.

  A task is named by its number, an `asyncio.Event` too.
-/
import RoutePilot.Lib.Co
import RoutePilot.Model.TimeText
import RoutePilot.Runtime.Events
import RoutePilot.Spec.Backend

namespace RoutePilot

open Lib

/-! ## Exceptions -/

inductive Exc where
  | store (e : StoreError)
  /-- `asyncio.CancelledError`, which is no `Exception` -/
  | cancelled
  /-- any other `Exception` -/
  | exception (name : String)
  /-- any other `BaseException` -/
  | baseException (name : String)
  deriving DecidableEq, Repr

def Exc.runExecutionLeaseLost (message : String) : Exc := .store (.runExecutionLeaseLost message)

/-! ## Requests -/

structure RunCreateRequest where
  conversationId : Option String := none
  command : RunCommand
  baseArtifactId : Option String := none
  baseArtifactVersion : Option ℕ := none
  deriving Repr, Inhabited

structure RunResumeRequest where
  expectedControlVersion : ℕ
  requestId : String
  values : Obj
  deriving Repr, Inhabited

/-- The decoded payload of a `run.dispatch.requested` entry. -/
structure RunDispatchMessage where
  tenantId : String
  actorId : String
  tripId : String
  runId : String
  traceId : String
  controlVersion : ℕ
  deriving DecidableEq, Repr, Inhabited

/-! ## Coroutines that run as tasks -/

/-- A call of one of the coordinators (they are numbered), or of a worker over one of them. -/
inductive Call where
  | submit (c : ℕ) (p : Principal) (tripId : String) (request : RunCreateRequest)
      (idempotencyKey traceId : String)
  | resume (c : ℕ) (p : Principal) (runId : String) (request : RunResumeRequest)
      (idempotencyKey : String)
  | cancel (c : ℕ) (p : Principal) (runId : String) (expectedControlVersion : ℕ)
  | execute (c : ℕ) (runId : String) (p : Principal) (lease : Option RunExecutionLease)
  | forget (c : ℕ) (runId : String)
  | executeExisting (c : ℕ) (p : Principal) (runId : String) (owner : Option String) (duration : ℕ)
  | heartbeat (p : Principal) (lease : RunExecutionLease) (duration : ℕ)
      (stop leaseLost executionTask : ℕ)
  | processEntry (c : ℕ) (consumer entryId : String) (fields : Obj) (duration : ℕ)

/-- What a task returns; a loop returns `again` to go round once more. -/
inductive Reply where
  | none
  | again
  | run (run : RunView)
  | result (result : IdempotentRunResult)
  | acknowledged (b : Bool)

/-! ## Effects -/

/-- Awaited operations. -/
inductive Op where
  | store (o : StoreOp)
  /-- a new task waits for its first turn -/
  | start
  /-- any await of an executor but its progress reports, or one of Redis -/
  | external
  /-- `await self._cancel_run_tasks(principal, run_id)` -/
  | cancelRunTasks (p : Principal) (runId : String)
  /-- the registry of local tasks, under its lock -/
  | setTask (c : ℕ) (runId : String) (task : ℕ)
  | getTask (c : ℕ) (runId : String)
  | popTask (c : ℕ) (runId : String)
  /-- `await task` -/
  | join (task : ℕ)
  /-- `await asyncio.gather(task, return_exceptions=True)` -/
  | gather (task : ℕ)
  /-- `await asyncio.wait_for(event.wait(), timeout)`: whether the event was set in time -/
  | wait (event : ℕ)

@[reducible] def Op.Ans : Op → Type
  | .store o => o.Ans
  | .getTask .. => Option ℕ
  | .wait .. => Bool
  | _ => Unit

/-- Actions between awaits. -/
inductive Act where
  | newPublicId (kind : String)
  | utcNow
  /-- `asyncio.create_task(...)` -/
  | createTask (call : Call)
  /-- `task.add_done_callback(lambda _: asyncio.create_task(...))` -/
  | addDoneCallback (task : ℕ) (call : Call)
  /-- `task.cancel()` -/
  | cancelTask (task : ℕ)
  | newEvent
  | setEvent (event : ℕ)
  | isSet (event : ℕ)
  /-- the `try` block of `_execute` begins -/
  | enterTry
  /-- the `try` block of `_execute` ends -/
  | leaveTry

@[reducible] def Act.Res : Act → Type
  | .newPublicId .. => String
  | .utcNow => Time
  | .createTask .. | .newEvent => ℕ
  | .isSet .. => Bool
  | _ => Unit

@[reducible] def rt : Effects where
  Op := Op
  Ans := Op.Ans
  Act := Act
  Res := Act.Res
  Err := Exc

/-- A coroutine of the runtime. -/
abbrev Async := Co rt

def callStore (o : StoreOp) : Async o.Ans := Co.call (E := rt) (.store o)

def raise {α : Type} (e : Exc) : Async α := Co.raise e

end RoutePilot
