/-
  The runtime as a transition system: a store, the tasks of an event loop with
  the registries of the coordinators, and the requests of clients.

  A step completes the await of one task and runs it to its next await.  A
  canceled task gets `CancelledError` at its await instead: before its first
  turn, inside its `try` block or inside its `except` clauses alike.  A process
  that crashes is a task that takes no further step.
-/
import RoutePilot.Runtime.Worker

namespace RoutePilot

open Lib

/-- The coordinators and workers of a deployment. -/
structure Deployment where
  coordinator : ℕ → Coordinator
  codec : Codec

/-! ## The coroutine of a call -/

/-- The coroutine of a call, from its first turn. -/
def Call.body (D : Deployment) : Call → Async Reply
  | .submit c p tripId request key traceId => do
    let result ← RoutePilot.submit (D.coordinator c) c p tripId request key traceId
    return .result result
  | .resume c p runId request key => do
    let result ← RoutePilot.resume (D.coordinator c) c p runId request key
    return .result result
  | .cancel c p runId version => do
    let run ← RoutePilot.cancel (D.coordinator c) c p runId version
    return .run run
  | .execute c runId p lease => do
    RoutePilot.execute (D.coordinator c) runId p lease
    return .none
  | .forget c runId => do
    RoutePilot.forget c runId
    return .none
  | .executeExisting c p runId owner duration => do
    let run ← RoutePilot.executeExisting c p runId owner duration
    return .run run
  | .heartbeat _ _ _ stop _ _ => heartbeatNext stop
  | .processEntry c consumer entryId fields duration => do
    let b ← RoutePilot.processEntry D.codec c consumer entryId fields duration
    return .acknowledged b

/-- The coroutine of a new task: it waits for its first turn. -/
def Call.program (D : Deployment) (call : Call) : Async Reply := do
  Co.call (E := rt) .start
  call.body D

/-- The next round of a loop. -/
def Call.round : Call → Async Reply
  | .heartbeat p lease duration stop leaseLost executionTask =>
    heartbeatRound p lease duration stop leaseLost executionTask
  | _ => .ret .none

/-! ## Tasks -/

structure Task where
  call : Call
  prog : Async Reply
  /-- `task.cancel()` was called, and `CancelledError` not yet raised -/
  mustCancel : Bool := false
  /-- the task is inside the `try` block of `_execute` -/
  inTry : Bool := false
  onDone : Option Call := none

structure World (σ : Type) where
  store : σ
  tasks : List Task := []
  /-- `self._tasks` of every coordinator -/
  registry : Dict (ℕ × String) ℕ := ∅
  events : List Bool := []

namespace World
variable {σ : Type}

def spawn (D : Deployment) (call : Call) (w : World σ) : World σ :=
  { w with tasks := w.tasks ++ [{ call := call, prog := call.program D }] }

def setTask (i : ℕ) (f : Task → Task) (w : World σ) : World σ :=
  { w with tasks := w.tasks.modify i f }

/-- The outcome of a task that has ended. -/
def outcomeOf (t : ℕ) (w : World σ) : Option (Except Exc Unit) :=
  match w.tasks[t]? with
  | some { prog := .ret _, .. } => some (.ok ())
  | some { prog := .raise e, .. } => some (.error e)
  | _ => none

/-- `task.cancel()`: nothing for a task that has ended; a task that awaits another one passes the
    request on. -/
def cancelTask (t : ℕ) (w : World σ) : World σ :=
  match w.tasks[t]? with
  | some { prog := .await (.join u) _, .. } =>
    if (w.outcomeOf u).isSome then w.setTask t fun x => { x with mustCancel := true }
    else w.setTask u fun x => { x with mustCancel := true }
  | some { prog := .await _ _, .. } => w.setTask t fun x => { x with mustCancel := true }
  | _ => w

/-- `add_done_callback`: at once for a task that has ended. -/
def addDoneCallback (D : Deployment) (t : ℕ) (call : Call) (w : World σ) : World σ :=
  if (w.outcomeOf t).isSome then w.spawn D call
  else w.setTask t fun x => { x with onDone := some call }

/-- One action of task `i`. -/
def act (D : Deployment) (env : Env) (i : ℕ) : (n : Act) → World σ → n.Res × World σ
  | .newPublicId kind, w => (env.newPublicId kind, w)
  | .utcNow, w => (env.now, w)
  | .createTask call, w => (w.tasks.length, w.spawn D call)
  | .addDoneCallback t call, w => ((), w.addDoneCallback D t call)
  | .cancelTask t, w => ((), w.cancelTask t)
  | .newEvent, w => (w.events.length, { w with events := w.events ++ [false] })
  | .setEvent e, w => ((), { w with events := w.events.set e true })
  | .isSet e, w => ((w.events[e]?).getD false, w)
  | .enterTry, w => ((), w.setTask i fun x => { x with inTry := true })
  | .leaveTry, w => ((), w.setTask i fun x => { x with inTry := false })

/-- The callback of a task that has just ended. -/
def callDone (D : Deployment) (i : ℕ) (w : World σ) : World σ :=
  match (w.tasks[i]?).bind (·.onDone) with
  | some call => w.spawn D call
  | none => w

/-- Task `i` is suspended at an await, or has ended. -/
def suspend (D : Deployment) (i : ℕ) (prog : Async Reply) (w : World σ) : World σ :=
  let w' := w.setTask i fun x => { x with prog := prog }
  if prog.isDone then w'.callDone D i else w'

/-- Run task `i` to its next await. -/
def settle (D : Deployment) (env : Env) (i : ℕ) : Async Reply → World σ → World σ
  | .now n k, w => settle D env i (k (w.act D env i n).1) (w.act D env i n).2
  | .ret .again, w =>
    match w.tasks[i]? with
    | some t => w.suspend D i t.call.round
    | none => w
  | prog, w => w.suspend D i prog

/-- What the awaited operation may answer, and the world it leaves. -/
def Completes {ε : Type} (B : Backend σ ε) (env : ε) (w : World σ) :
    (o : Op) → Except Exc o.Ans → World σ → Prop
  | .store o, r, w' => B.fresh env w.store ∧ ∃ r₀ s', B.exec env o w.store r₀ s' ∧
      r = r₀.mapError Exc.store ∧ w' = { w with store := s' }
  | .start, r, w' => r = .ok () ∧ w' = w
  | .external, _, w' => w' = w
  | .cancelRunTasks .., _, w' => w' = w
  | .setTask c runId t, r, w' => r = .ok () ∧
      w' = { w with registry := w.registry.set (c, runId) t }
  | .getTask c runId, r, w' => r = .ok (w.registry.get? (c, runId)) ∧ w' = w
  | .popTask c runId, r, w' => r = .ok () ∧ w' = { w with registry := w.registry.pop (c, runId) }
  | .join t, r, w' => w.outcomeOf t = some r ∧ w' = w
  | .gather t, r, w' => (w.outcomeOf t).isSome ∧ r = .ok () ∧ w' = w
  | .wait e, r, w' => (r = .ok false ∨ r = .ok true ∧ (w.events[e]?).getD false = true) ∧ w' = w

end World

/-! ## The system -/

/-- What moves the runtime. -/
inductive RtLabel (ε : Type) where
  /-- a client's request, or the entry of a worker -/
  | call (call : Call)
  /-- the await of a task completes -/
  | run (task : ℕ) (env : ε)
  /-- `CancelledError` is raised at the await of a task -/
  | interrupt (task : ℕ) (env : ε)
  /-- a task is canceled from outside (a client went away, the process shuts down) -/
  | cancel (task : ℕ)
  /-- another operation of the store -/
  | store (l : OpLabel ε)

section
variable {σ ε : Type} (B : Backend σ ε) (D : Deployment)

/-- One step of the runtime. -/
def RtStep (w : World σ) : RtLabel ε → World σ → Prop
  | .call call, w' => w' = w.spawn D call
  | .run i env, w' => ∃ t o k r w₁, w.tasks[i]? = some t ∧ t.prog = .await o k ∧
      t.mustCancel = false ∧ w.Completes B env o r w₁ ∧ w' = w₁.settle D (B.caller env) i (k r)
  | .interrupt i env, w' => ∃ t o k, w.tasks[i]? = some t ∧ t.prog = .await o k ∧
      t.mustCancel = true ∧ w' = (w.setTask i fun x => { x with mustCancel := false }).settle D
        (B.caller env) i (k (.error .cancelled))
  | .cancel i, w' => w' = w.cancelTask i
  | .store l, w' => B.fresh l.env w.store ∧ B.exec l.env l.op w.store l.result w'.store ∧
      w' = { w with store := w'.store }

/-- The runtime from the worlds of `init`, with the clients' part of the labels in `clients`. -/
def runtimeSystem (init : World σ → Prop) (clients : RtLabel ε → Prop) :
    Lts (World σ) (RtLabel ε) where
  init := init
  step w l w' := clients l ∧ RtStep B D w l w'

end
end RoutePilot
