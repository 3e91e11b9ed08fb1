/-
  Execution by external workers: the leased execution of a Run with its
  heartbeat (`execute_existing`, `_heartbeat_execution_lease` in `runtime.py`),
  and the processing of a dispatch (`process_entry` in `worker.py`).
-/
import RoutePilot.Runtime.Coordinator

namespace RoutePilot

open Lib

/-- `await execution_task`, with the lease lost in the meantime. -/
def awaitExecution (task leaseLost : ℕ) : Async Unit := do
  let lost : Exc := .runExecutionLeaseLost "run execution lease heartbeat was lost"
  Co.tryCatch (Co.call (E := rt) (.join task)) fun
    | .cancelled => do
      if ← Co.act (E := rt) (.isSet leaseLost) then raise lost else raise .cancelled
    | e => raise e
  if ← Co.act (E := rt) (.isSet leaseLost) then raise lost else return ()

/-- Execute a Run under a lease just claimed, then release it. -/
def executeLeased (c : ℕ) (p : Principal) (runId : String) (lease : RunExecutionLease)
    (duration : ℕ) : Async RunView := do
  let leaseLost ← Co.act (E := rt) .newEvent
  let stop ← Co.act (E := rt) .newEvent
  let executionTask ← Co.act (E := rt) (.createTask (.execute c runId p (some lease)))
  let heartbeatTask ← Co.act (E := rt)
    (.createTask (.heartbeat p lease duration stop leaseLost executionTask))
  Co.tryFinally (awaitExecution executionTask leaseLost) do
    Co.act (E := rt) (.setEvent stop)
    Co.act (E := rt) (.cancelTask heartbeatTask)
    Co.call (E := rt) (.gather heartbeatTask)
    let _ ← callStore (.releaseRunExecution p lease)
    return ()
  getRunC p runId

/-- No lease was granted: another worker owns the Run, or it is settled. -/
def withoutLease (p : Principal) (runId : String) : Async RunView := do
  let current ← getRunC p runId
  if current.lifecycleState.isExecutable then
    raise (.store (.runExecutionBusy "run execution is owned by another worker"))
  else return current

/-- `execution_owner or new_public_id("worker")`. -/
def resolvedOwner : Option String → Async String
  | some owner => if owner = "" then Co.act (E := rt) (.newPublicId "worker") else return owner
  | none => Co.act (E := rt) (.newPublicId "worker")

def executeExisting (c : ℕ) (p : Principal) (runId : String) (owner : Option String)
    (duration : ℕ) : Async RunView := do
  let current ← getRunC p runId
  if !current.lifecycleState.isExecutable then return current
  else
    let owner ← resolvedOwner owner
    match ← callStore (.claimRunExecution p runId owner duration) with
    | none => withoutLease p runId
    | some lease => executeLeased c p runId lease duration

/-! ## The heartbeat -/

/-- Go round the loop again unless the heartbeat was stopped (`while not stop.is_set()`). -/
def heartbeatNext (stop : ℕ) : Async Reply := do
  if ← Co.act (E := rt) (.isSet stop) then return .none else return .again

/-- One round of the heartbeat: wait, then renew the lease; a lease that cannot be renewed cancels
    the execution. -/
def heartbeatRound (p : Principal) (lease : RunExecutionLease) (duration stop leaseLost
    executionTask : ℕ) : Async Reply := do
  if ← Co.call (E := rt) (.wait stop) then return .none
  else
    let renewed ← Co.tryCatch (callStore (.renewRunExecution p lease duration)) fun
      | .cancelled => raise .cancelled
      | .baseException name => raise (.baseException name)
      | _ => (Co.ret none : Async (Option RunExecutionLease))
    match renewed with
    | none => do
      Co.act (E := rt) (.setEvent leaseLost)
      Co.act (E := rt) (.cancelTask executionTask)
      return .none
    | some _ => heartbeatNext stop

/-! ## Dispatches -/

/-- What the processing of a dispatch reads from outside: the decoding of its payload
    (`json.loads`, then the checks of `RunDispatchMessage`), and the digest of its entry. -/
structure Codec where
  decode : String → Option RunDispatchMessage
  sha256Hex : String → String

/-- The principal a dispatch is executed as. -/
def RunDispatchMessage.principal (d : RunDispatchMessage) : Principal :=
  { tenantId := d.tenantId, userId := d.actorId, roles := ["owner"] }

/-- The fence of a dispatch against the stored Run. -/
def RunDispatchMessage.matchesRun (d : RunDispatchMessage) (run : RunView) : Bool :=
  run.tripId = d.tripId && run.traceId = d.traceId && run.actorId = d.actorId &&
    d.controlVersion ≤ run.controlVersion

/-- The dispatch of an entry: `none` if the entry is something else, an error if its payload is no
    dispatch. -/
def dispatchOf (K : Codec) (fields : Obj) : Option (Except Unit RunDispatchMessage) :=
  if (fields.str? "event_type").getD "" ≠ "run.dispatch.requested" then none
  else match (fields.get? "payload").bind Json.asStr? with
    | none => some (.error ())
    | some raw =>
      if 32_768 < raw.length then some (.error ())
      else match K.decode raw with
        | none => some (.error ())
        | some dispatch => some (.ok dispatch)

/-- `_dead_letter`. -/
def deadLetter : Async Unit := Co.call (E := rt) .external

/-- The execution of a dispatch, inside the `try` block. -/
def executeDispatch (K : Codec) (c : ℕ) (consumer entryId : String) (duration : ℕ)
    (dispatch : RunDispatchMessage) : Async Bool := do
  let run ← getRunC dispatch.principal dispatch.runId
  if dispatch.matchesRun run then
    let owner := pyTake 96 consumer ++ ":" ++ pyTake 24 (K.sha256Hex entryId)
    let _ ← executeExisting c dispatch.principal dispatch.runId (some owner) duration
    return true
  else
    deadLetter
    return true

/-- `process_entry`: whether the entry is acknowledged. -/
def processEntry (K : Codec) (c : ℕ) (consumer entryId : String) (fields : Obj) (duration : ℕ) :
    Async Bool :=
  match dispatchOf K fields with
  | none => return true
  | some (.error _) => do
    deadLetter
    return true
  | some (.ok dispatch) =>
    Co.tryCatch (executeDispatch K c consumer entryId duration dispatch) fun
      | .cancelled => raise .cancelled
      | .baseException name => raise (.baseException name)
      | _ => return false

end RoutePilot
