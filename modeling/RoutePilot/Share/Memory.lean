/-
  The share service in memory (`ShareService` without an engine).

  No call awaits inside the service's lock, so each is one step.  `filterValues`
  is the rebuilding of the session table by a comprehension.
-/
import RoutePilot.Share.Model

namespace RoutePilot.Share

open Lib

/-- `_MemoryShare`. -/
structure MemoryShare where
  view : ShareView
  secretHash : String
  deriving DecidableEq, Repr

/-- An entry of `_sessions`. -/
structure Session where
  shareId : String
  capabilityEpoch : ℕ
  expiresAt : Time
  deriving DecidableEq, Repr

/-- An entry of `_idempotency`. -/
structure Replay where
  requestHash : String
  shareId : String
  version : ℕ
  epoch : ℕ
  deriving DecidableEq, Repr

/-- The tables of the service. -/
structure Memory (Snapshot : Type) where
  shares : Dict String MemoryShare := ∅
  publicIds : Dict String String := ∅
  snapshots : Dict String Snapshot := ∅
  sessions : Dict String Session := ∅
  idempotency : Dict Scope Replay := ∅
  failures : Dict String Failures := ∅

abbrev MemoryM (Snapshot : Type) := EStateM ShareError (Memory Snapshot)

namespace Memory
variable {Source Snapshot : Type} (c : Ports Source Snapshot) (env : Env)

/-- `_create_memory`. -/
def createMemory (p : Principal) (tripId : String) (source : Source) (requestHash idempotencyKey : String) :
    MemoryM Snapshot ShareMutationResponse := do
  let scope := scope p createOperation idempotencyKey
  let self ← get
  match self.idempotency.get? scope with
  | some existing =>
    ensure (existing.requestHash = requestHash) (.conflict "idempotency key reused with another request" none)
    match self.shares.get? existing.shareId with
    | none => throw (.unforeseen "KeyError")
    | some stored =>
      let secret := deriveSecret c createOperation p idempotencyKey requestHash existing.shareId existing.epoch
      return { share := stored.view, capabilitySecret := some secret, replayed := true }
  | none =>
    let view := newShare c env p tripId source
    let secret := deriveSecret c createOperation p idempotencyKey requestHash view.shareId 1
    set { self with
      shares := self.shares.set view.shareId ⟨view, capabilityHash c view.publicId secret⟩
      publicIds := self.publicIds.set view.publicId view.shareId
      snapshots := self.snapshots.set view.shareId (c.project env source view.publicId)
      idempotency := self.idempotency.set scope ⟨requestHash, view.shareId, 1, 1⟩ }
    return { share := view, capabilitySecret := some secret }

/-- `create`. -/
def create (p : Principal) (tripId : String) (request : ShareCreateRequest) (idempotencyKey : String) :
    MemoryM Snapshot ShareMutationResponse := do
  let source ← ask fun _ => source c env p tripId request
  createMemory c env p tripId source (createHash c tripId request) idempotencyKey

/-- `_rotate_memory`. -/
def rotateMemory (p : Principal) (shareId : String) (expectedVersion : ℕ)
    (idempotencyKey requestHash : String) : MemoryM Snapshot ShareMutationResponse := do
  let scope := scope p (rotateOperation shareId) idempotencyKey
  let secret := deriveSecret c "share.rotate" p idempotencyKey requestHash shareId
  let self ← get
  match self.idempotency.get? scope with
  | some replay =>
    ensure (replay.requestHash = requestHash ∧ replay.shareId = shareId)
      (.conflict "idempotency key reused with another request" none)
    match self.shares.get? shareId with
    | none => throw (.notFound "share not found")
    | some stored =>
      let current := stored.view.version = replay.version ∧ stored.view.capabilityEpoch = replay.epoch
      return { share := stored.view, capabilitySecret := if current then some (secret replay.epoch) else none
               replayed := true }
  | none =>
    match self.shares.get? shareId with
    | none => throw (.notFound "share not found")
    | some stored =>
      ensure (stored.view.createdBy = p.userId) (.notFound "share not found")
      ensure (stored.view.status = .active ∧ stored.view.version = expectedVersion)
        (.conflict "share changed" (some stored.view.version))
      let updated := stored.view.rotated env.now
      set { self with
        shares := self.shares.set shareId
          ⟨updated, capabilityHash c updated.publicId (secret updated.capabilityEpoch)⟩
        sessions := self.sessions.filterValues (·.shareId ≠ shareId)
        idempotency := self.idempotency.set scope
          ⟨requestHash, shareId, updated.version, updated.capabilityEpoch⟩ }
      return { share := updated, capabilitySecret := some (secret updated.capabilityEpoch) }

/-- `rotate`. -/
def rotate (p : Principal) (shareId : String) (expectedVersion : ℕ) (idempotencyKey : String) :
    MemoryM Snapshot ShareMutationResponse :=
  rotateMemory c env p shareId expectedVersion idempotencyKey (transitionHash c "rotate" shareId expectedVersion)

/-- `revoke`. -/
def revoke (p : Principal) (shareId : String) (expectedVersion : ℕ) (idempotencyKey : String) :
    MemoryM Snapshot ShareMutationResponse := do
  let requestHash := transitionHash c "revoke" shareId expectedVersion
  let scope := scope p (revokeOperation shareId) idempotencyKey
  let self ← get
  match self.idempotency.get? scope with
  | some replay =>
    ensure (replay.requestHash = requestHash) (.conflict "idempotency key reused with another request" none)
    match self.shares.get? shareId with
    | none => throw (.notFound "share not found")
    | some stored => return { share := stored.view, replayed := true }
  | none =>
    match self.shares.get? shareId with
    | none => throw (.notFound "share not found")
    | some stored =>
      ensure (stored.view.createdBy = p.userId) (.notFound "share not found")
      ensure (stored.view.status = .active ∧ stored.view.version = expectedVersion)
        (.conflict "share changed" (some stored.view.version))
      let updated := stored.view.closed env.now
      set { self with
        shares := self.shares.set shareId ⟨updated, stored.secretHash⟩
        sessions := self.sessions.filterValues (·.shareId ≠ shareId)
        idempotency := self.idempotency.set scope
          ⟨requestHash, shareId, updated.version, updated.capabilityEpoch⟩ }
      return { share := updated }

/-- The share whose secret an exchange compares, with its failures; or what it raises before. -/
def compared (now : Time) (publicId : String) (self : Memory Snapshot) :
    Except ShareError (String × MemoryShare × Failures) :=
  match self.shares.get? ((self.publicIds.get? publicId).getD "") with
  | none => .error (.capabilityInvalid "invalid share capability")
  | some stored =>
    if stored.view.status ≠ .active then .error (.capabilityInvalid "invalid share capability")
    else match self.publicIds.get? publicId with
      | none => .error (.unforeseen "AssertionError")
      | some shareId =>
        let failures := self.failures.getD shareId ⟨0, now, none⟩
        match failures.blockedUntil.filter (now < ·) with
        | some blockedUntil => .error (.rateLimited (retryAfter blockedUntil now))
        | none => .ok (shareId, stored, failures)

/-- `exchange`. -/
def exchange (publicId secret : String) : MemoryM Snapshot ShareExchangeResponse := do
  let (shareId, stored, failures) ← ask (compared env.now publicId)
  if capabilityHash c publicId secret ≠ stored.secretHash then
    let failures := limits.fail env.now failures
    modify fun self => { self with failures := self.failures.set shareId failures }
    throw (if failures.blockedUntil.isSome then .rateLimited (15 * 60)
      else .capabilityInvalid "invalid share capability")
  else
    let session : Session := ⟨shareId, stored.view.capabilityEpoch, sessionExpiry env.now⟩
    modify fun self => { self with
      failures := self.failures.pop shareId
      sessions := self.sessions.set (sessionHash c env.sessionToken) session }
    return ⟨env.sessionToken, session.expiresAt⟩

/-- `public_snapshot`. -/
def publicSnapshot (publicId sessionToken : String) :
    MemoryM Snapshot (PublicShareSnapshotResponse Snapshot) := do
  let invalid := .capabilityInvalid "invalid share session"
  let self ← get
  match self.sessions.get? (sessionHash c sessionToken),
      self.shares.get? ((self.publicIds.get? publicId).getD "") with
  | some session, some stored =>
    ensure (self.publicIds.get? publicId = some session.shareId) invalid
    ensure (session.capabilityEpoch = stored.view.capabilityEpoch) invalid
    ensure (env.now < session.expiresAt) invalid
    ensure (stored.view.status = .active) invalid
    match self.snapshots.get? session.shareId with
    | none => throw (.unforeseen "KeyError")
    | some snapshot => return ⟨publicId, snapshot⟩
  | _, _ => throw invalid

/-- A call of the service. -/
def call : ShareOp → MemoryM Snapshot (ShareResponse Snapshot)
  | .create p tripId request key => .mutation <$> create c env p tripId request key
  | .rotate p shareId version key => .mutation <$> rotate c env p shareId version key
  | .revoke p shareId version key => .mutation <$> revoke c env p shareId version key
  | .exchange publicId secret => .exchange <$> exchange c env publicId secret
  | .publicSnapshot publicId token => .snapshot <$> publicSnapshot c env publicId token

end Memory
end RoutePilot.Share
