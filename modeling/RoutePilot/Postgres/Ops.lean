/-
  The PostgreSQL store as a transition system over the same operations.  A call
  may also fail for reasons outside the model (a lost connection, a value too
  wide for its column); its transaction is then rolled back.
-/
import RoutePilot.Postgres.Artifacts
import RoutePilot.Store.Ops

namespace RoutePilot.Postgres

open Lib

/-- One poll of `wait_for_events`. -/
def eventAvailable (p : Principal) (runId : String) (afterSeq : ℕ) : TxM Bool := do
  let run ← ask (getRunTx p runId)
  let db ← get
  return !(eventsOf p.tenantId runId afterSeq db).isEmpty || run.lifecycleState.isTerminal

/-- The operation on the PostgreSQL store. -/
def runOp (env : Env) : (o : StoreOp) → TxM o.Ans
  | .createTrip p request => createTrip env p request
  | .listTrips p => listTrips p
  | .getTrip p tripId => getTrip p tripId
  | .patchTrip p tripId request => patchTrip env p tripId request
  | .setTripStatus p tripId status => setTripStatus env p tripId status
  | .listTripMembers p tripId => listTripMembers p tripId
  | .upsertTripMember p tripId userId role => upsertTripMember env p tripId userId role
  | .removeTripMember p tripId userId => removeTripMember env p tripId userId
  | .createRun p c => createRun env p c
  | .getRun p runId => getRun p runId
  | .claimRunExecution p runId owner duration => claimRunExecution env p runId owner duration
  | .renewRunExecution p lease duration => renewRunExecution env p lease duration
  | .releaseRunExecution p lease => releaseRunExecution p lease
  | .mutateRun p runId m => mutateRun env p runId m
  | .resumeRun p runId r => resumeRun env p runId r
  | .listEvents p runId afterSeq => listEvents p runId afterSeq
  | .waitForEvents p runId afterSeq => eventAvailable p runId afterSeq
  | .createArtifact p c => createArtifact env p c
  | .listArtifacts p tripId => listArtifacts p tripId
  | .getArtifact p artifactId version => getArtifact p artifactId version
  | .patchArtifact p artifactId request => patchArtifact env p artifactId request
  | .commandArtifact p artifactId request key requestHash =>
    commandArtifact env p artifactId request key requestHash

/-- A call of the store: the operation and its environment. -/
structure Call where
  env : Env
  op : StoreOp

/-- The PostgreSQL store, from its empty tables, under any sequence of calls. -/
def postgresStore : Lts Database Call where
  init db := db = {}
  step db c db' := db' = db ∨ ∃ r, (runOp c.env c.op).run db = .ok r db'

/-! ## Transactions -/

theorem transaction_ok {α : Type} {x : TxM α} {db db' : Database} {a : α} :
    (transaction x).run db = .ok a db' ↔ x.run db = .ok a db' := by
  rw [transaction_run]
  cases x.run db <;> simp

theorem transaction_error {α : Type} {x : TxM α} {db db' : Database} {e : StoreError}
    (h : (transaction x).run db = .error e db') : db' = db := by
  rw [transaction_run] at h
  cases hx : x.run db with
  | ok a db₁ => rw [hx] at h; cases h
  | error e' db₁ => rw [hx] at h; cases h; rfl

/-- A call that raises changes nothing. -/
theorem runOp_error {env : Env} {o : StoreOp} {db db' : Database} {e : StoreError}
    (h : (runOp env o).run db = .error e db') : db' = db := by
  have hread : ∀ {α : Type} {x : TxM α}, Keeps id x → x.run db = .error e db' → db' = db :=
    fun hk he => KeepsOnRaise.of_keeps hk db e db' he
  cases o with
  | listTrips => exact hread (.bind .get fun _ => .pure _) h
  | getTrip | getRun | getArtifact => exact hread (.ask _) h
  | listTripMembers | listEvents | waitForEvents | listArtifacts =>
    exact hread (.bind (.ask _) fun _ => .bind .get fun _ => .pure _) h
  | _ => exact transaction_error h

end RoutePilot.Postgres
