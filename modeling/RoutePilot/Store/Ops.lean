/-
  The operations of the platform store as data, and the in-memory store as a
  transition system: one label is one call, with its environment.
-/
import RoutePilot.Lib.Lts
import RoutePilot.Store.Trips
import RoutePilot.Store.Artifacts

namespace RoutePilot

open Lib

/-- The operations of `PlatformStore`, each with its caller and arguments. -/
inductive StoreOp where
  | createTrip (p : Principal) (request : TripCreateRequest)
  | listTrips (p : Principal)
  | getTrip (p : Principal) (tripId : String)
  | patchTrip (p : Principal) (tripId : String) (request : TripPatchRequest)
  | setTripStatus (p : Principal) (tripId : String) (status : TripStatus)
  | listTripMembers (p : Principal) (tripId : String)
  | upsertTripMember (p : Principal) (tripId userId : String) (role : GrantedRole)
  | removeTripMember (p : Principal) (tripId userId : String)
  | createRun (p : Principal) (c : RunCreation)
  | getRun (p : Principal) (runId : String)
  | claimRunExecution (p : Principal) (runId owner : String) (duration : ℕ)
  | renewRunExecution (p : Principal) (lease : RunExecutionLease) (duration : ℕ)
  | releaseRunExecution (p : Principal) (lease : RunExecutionLease)
  | mutateRun (p : Principal) (runId : String) (m : RunMutation)
  | resumeRun (p : Principal) (runId : String) (r : RunResumption)
  | listEvents (p : Principal) (runId : String) (afterSeq : ℕ)
  | waitForEvents (p : Principal) (runId : String) (afterSeq : ℕ)
  | createArtifact (p : Principal) (c : ArtifactCreation)
  | listArtifacts (p : Principal) (tripId : String)
  | getArtifact (p : Principal) (artifactId : String) (version : Option ℕ)
  | patchArtifact (p : Principal) (artifactId : String) (request : ArtifactPatchRequest)
  | commandArtifact (p : Principal) (artifactId : String) (request : ArtifactCommandRequest)
      (key requestHash : String)

namespace StoreOp

/-- What an operation returns. -/
def Ans : StoreOp → Type
  | createTrip .. | getTrip .. | patchTrip .. | setTripStatus .. => TripView
  | listTrips .. => List TripView
  | listTripMembers .. => List TripMemberView
  | upsertTripMember .. => TripMemberView
  | removeTripMember .. => Unit
  | createRun .. | resumeRun .. => IdempotentRunResult
  | getRun .. => RunView
  | claimRunExecution .. | renewRunExecution .. => Option RunExecutionLease
  | releaseRunExecution .. | waitForEvents .. => Bool
  | mutateRun .. => RunView × RunEvent
  | listEvents .. => List RunEvent
  | createArtifact .. | getArtifact .. | patchArtifact .. => ArtifactView
  | listArtifacts .. => List ArtifactView
  | commandArtifact .. => IdempotentArtifactResult

/-- The operation on the in-memory store. -/
def run (env : Env) : (o : StoreOp) → StoreM o.Ans
  | createTrip p request => RoutePilot.createTrip env p request
  | listTrips p => RoutePilot.listTrips p
  | getTrip p tripId => RoutePilot.getTrip p tripId
  | patchTrip p tripId request => RoutePilot.patchTrip env p tripId request
  | setTripStatus p tripId status => RoutePilot.setTripStatus env p tripId status
  | listTripMembers p tripId => RoutePilot.listTripMembers p tripId
  | upsertTripMember p tripId userId role => RoutePilot.upsertTripMember env p tripId userId role
  | removeTripMember p tripId userId => RoutePilot.removeTripMember p tripId userId
  | createRun p c => RoutePilot.createRun env p c
  | getRun p runId => RoutePilot.getRun p runId
  | claimRunExecution p runId owner duration => RoutePilot.claimRunExecution env p runId owner duration
  | renewRunExecution p lease duration => RoutePilot.renewRunExecution env p lease duration
  | releaseRunExecution p lease => RoutePilot.releaseRunExecution p lease
  | mutateRun p runId m => RoutePilot.mutateRun env p runId m
  | resumeRun p runId r => RoutePilot.resumeRun env p runId r
  | listEvents p runId afterSeq => RoutePilot.listEvents p runId afterSeq
  | waitForEvents p runId afterSeq => RoutePilot.eventAvailable p runId afterSeq
  | createArtifact p c => RoutePilot.createArtifact env p c
  | listArtifacts p tripId => RoutePilot.listArtifacts p tripId
  | getArtifact p artifactId version => RoutePilot.getArtifact p artifactId version
  | patchArtifact p artifactId request => RoutePilot.patchArtifact env p artifactId request
  | commandArtifact p artifactId request key requestHash =>
    RoutePilot.commandArtifact env p artifactId request key requestHash

end StoreOp

/-- A call of the store: the operation and its environment. -/
structure StoreCall where
  env : Env
  op : StoreOp

/-- The state after a call, whether it returned or raised. -/
def StoreCall.next (c : StoreCall) (st : Store) : Store := final ((c.op.run c.env).run st)

/-- A call returns or raises. -/
theorem StoreCall.next_cases (env : Env) (o : StoreOp) (st : Store) :
    (∃ x st', (o.run env).run st = .ok x st' ∧ StoreCall.next ⟨env, o⟩ st = st') ∨
      ∃ e st', (o.run env).run st = .error e st' ∧ StoreCall.next ⟨env, o⟩ st = st' := by
  cases h : (o.run env).run st with
  | ok x st' => exact .inl ⟨x, st', rfl, congrArg final h⟩
  | error e st' => exact .inr ⟨e, st', rfl, congrArg final h⟩

/-- The in-memory store, from its empty state, under any sequence of calls. -/
def memoryStore : Lts Store StoreCall where
  init st := st = {}
  step st c st' := st' = c.next st

/-- The state after several calls. -/
def Store.after (st : Store) (calls : List StoreCall) : Store := calls.foldl (fun st c => c.next st) st

theorem memoryStore_after {ok : Store → StoreCall → Prop} {calls : List StoreCall}
    (hok : ∀ c ∈ calls, ∀ st, ok st c) :
    ∀ {st : Store}, memoryStore.Reach ok st → memoryStore.Reach ok (st.after calls) := by
  induction calls with
  | nil => exact fun h => h
  | cons c cs ih =>
    intro st h
    have h₁ : memoryStore.Reach ok (c.next st) := h.step (hok c List.mem_cons_self st) rfl
    exact ih (fun c' hc' => hok c' (List.mem_cons_of_mem _ hc')) h₁

end RoutePilot
