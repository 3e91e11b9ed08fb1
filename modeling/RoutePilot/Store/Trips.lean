/-
  Trips and their members in the in-memory store (`create_trip` to
  `remove_trip_member`).
-/
import RoutePilot.Store.State

namespace RoutePilot

open Lib

def createTrip (env : Env) (p : Principal) (request : TripCreateRequest) : StoreM TripView := do
  let trip : TripView := {
    tripId := env.newPublicId "trip", tenantId := p.tenantId, ownerId := p.userId
    title := request.title, locale := request.locale, timezone := request.timezone
    status := .active, version := 1, createdAt := env.now, updatedAt := env.now }
  let member : TripMemberView := {
    tripId := trip.tripId, tenantId := trip.tenantId, userId := p.userId, role := .owner
    version := 1, createdAt := env.now, updatedAt := env.now }
  modify fun st => { st with
    trips := st.trips.set trip.tripId trip
    members := st.members.set (trip.tripId, p.userId) member }
  return trip

/-- The Trips a principal can read.  (Their order, newest first, is not modelled.) -/
def listTrips (p : Principal) : StoreM (List TripView) := do
  let st ← get
  return st.trips.values.filter fun trip =>
    trip.tenantId = p.tenantId ∧ (trip.ownerId = p.userId ∨ p.isTenantAdmin ∨
      (st.members.get? (trip.tripId, p.userId)).isSome)

def getTrip (p : Principal) (tripId : String) : StoreM TripView := ask (tripLocked p tripId false)

/-- The Trip with the fields of a patch (`model_copy(update=changes)`). -/
def TripPatchRequest.apply (request : TripPatchRequest) (trip : TripView) : TripView :=
  { trip with
    title := request.title.getD trip.title
    locale := request.locale.getD trip.locale
    timezone := request.timezone.getD trip.timezone }

def patchTrip (env : Env) (p : Principal) (tripId : String) (request : TripPatchRequest) :
    StoreM TripView := do
  let current ← ask (tripLocked p tripId true)
  let updated := { request.apply current with version := current.version + 1, updatedAt := env.now }
  modify fun st => { st with trips := st.trips.set tripId updated }
  return updated

def setTripStatus (env : Env) (p : Principal) (tripId : String) (status : TripStatus) :
    StoreM TripView := do
  let current ← ask (tripLocked p tripId true)
  let updated := { current with status := status, version := current.version + 1, updatedAt := env.now }
  modify fun st => { st with trips := st.trips.set tripId updated }
  return updated

/-- The members of a Trip.  (Their order, the owner first, is not modelled.) -/
def listTripMembers (p : Principal) (tripId : String) : StoreM (List TripMemberView) := do
  let _ ← ask (tripLocked p tripId false)
  let st ← get
  return (st.members.entries.filter fun e => e.1.1 = tripId ∧ e.2.tenantId = p.tenantId).map (·.2)

/-- Only the owner and tenant admins manage members, and never the owner's own membership. -/
def ensureManagesMembers (p : Principal) (trip : TripView) (userId : String) : StoreM Unit := do
  ensure (trip.ownerId = p.userId ∨ p.isTenantAdmin)
    (.resourceForbidden "only the owner can manage members")
  ensure (userId ≠ trip.ownerId) (.versionConflict trip.version)

def upsertTripMember (env : Env) (p : Principal) (tripId userId : String) (role : GrantedRole) :
    StoreM TripMemberView := do
  ensure (userId ≠ "" ∧ userId.length ≤ 128) (.resourceNotFound "user not found")
  let trip ← ask (tripLocked p tripId true)
  ensureManagesMembers p trip userId
  let st ← get
  let current := st.members.get? (tripId, userId)
  let member : TripMemberView := {
    tripId := tripId, tenantId := p.tenantId, userId := userId, role := role.toRole
    version := (current.map (·.version + 1)).getD 1
    createdAt := (current.map (·.createdAt)).getD env.now, updatedAt := env.now }
  modify fun st => { st with members := st.members.set (tripId, userId) member }
  return member

def removeTripMember (p : Principal) (tripId userId : String) : StoreM Unit := do
  let trip ← ask (tripLocked p tripId true)
  ensureManagesMembers p trip userId
  let st ← get
  ensure (st.members.get? (tripId, userId)).isSome (.resourceNotFound "member not found")
  modify fun st => { st with members := st.members.pop (tripId, userId) }

end RoutePilot
