/-
  The share desk: the service without its storage.

  A `Desk` says of every identifier what is kept under it, and `Desk.call` is
  one call of the service on it.  Where the two branches of the service differ,
  the call asks a `Policy`: who owns a share, whether a rotation forgets failed
  attempts, and whether a creation reads its source again.
-/
import RoutePilot.Share.Memory

namespace RoutePilot.Share

open Lib

/-- A share, with the tenant it belongs to. -/
structure Record where
  tenantId : String
  view : ShareView
  secretHash : String
  deriving DecidableEq, Repr

/-- What is kept. -/
structure Desk (Snapshot : Type) where
  share : String → Option Record := fun _ => none
  /-- the share with a public identifier -/
  lookup : String → Option String := fun _ => none
  snapshot : String → Option Snapshot := fun _ => none
  /-- by the hash of the token -/
  session : String → Option Session := fun _ => none
  replay : Scope → Option Replay := fun _ => none
  failures : String → Option Failures := fun _ => none

/-- Where the branches of the service differ. -/
structure Policy (Source : Type) where
  /-- may a user of a tenant change what a creator in a tenant has shared -/
  owns : (tenantId userId ownerTenant creator : String) → Bool
  /-- does a rotation forget failed attempts -/
  forgets : Bool
  /-- is the source still what was read -/
  confirms : Env → Principal → String → Source → Bool

/-- May the principal change the share? -/
def Policy.mayChange {Source : Type} (π : Policy Source) (p : Principal) (r : Record) : Bool :=
  π.owns p.tenantId p.userId r.tenantId r.view.createdBy

/-- In memory: the tenant does not matter, failed attempts are kept, and nothing is read again. -/
def Policy.memory {Source : Type} : Policy Source where
  owns _ userId _ creator := creator == userId
  forgets := false
  confirms _ _ _ _ := true

/-- Over PostgreSQL. -/
def Policy.postgres {Source Snapshot : Type} (c : Ports Source Snapshot) : Policy Source where
  owns tenantId userId ownerTenant creator := ownerTenant == tenantId && creator == userId
  forgets := true
  confirms env p tripId source :=
    (env.platform.currentSource p.tenantId tripId (c.artifactId source) (c.version source)).any fun row =>
      row.currentArtifactId = some (c.artifactId source) ∧
        row.currentArtifactVersion = some (c.version source) ∧ row.status = .published

namespace Desk
variable {Source Snapshot : Type}

abbrev DeskM (Snapshot : Type) := EStateM ShareError (Desk Snapshot)

/-- What follows a change of one share: its sessions end. -/
def endSessions (d : Desk Snapshot) (shareId : String) : String → Option Session :=
  fun hash => (d.session hash).filter (·.shareId ≠ shareId)

/-- The share whose secret an exchange compares, with its failures; or what it raises before. -/
def compared (now : Time) (publicId : String) (d : Desk Snapshot) :
    Except ShareError (String × Record × Failures) :=
  match d.lookup publicId with
  | none => .error (.capabilityInvalid "invalid share capability")
  | some shareId =>
    match (d.share shareId).filter (·.view.status == .active) with
    | none => .error (.capabilityInvalid "invalid share capability")
    | some r =>
      let failures := (d.failures shareId).getD ⟨0, now, none⟩
      match failures.blockedUntil.filter (now < ·) with
      | some blockedUntil => .error (.rateLimited (retryAfter blockedUntil now))
      | none => .ok (shareId, r, failures)

/-- The session and the snapshot that a token opens. -/
def opened (now : Time) (publicId hash : String) (d : Desk Snapshot) : Option (Session × Snapshot) := do
  let session ← (d.session hash).filter fun s => d.lookup publicId = some s.shareId ∧ now < s.expiresAt
  let _ ← (d.share session.shareId).filter fun r =>
    session.capabilityEpoch = r.view.capabilityEpoch ∧ r.view.status = .active
  let snapshot ← d.snapshot session.shareId
  return (session, snapshot)

variable (π : Policy Source) (c : Ports Source Snapshot) (env : Env)

/-- What one creation keeps. -/
def created (p : Principal) (tripId : String) (source : Source) (requestHash idempotencyKey : String)
    (d : Desk Snapshot) : Desk Snapshot :=
  let view := newShare c env p tripId source
  let secret := deriveSecret c createOperation p idempotencyKey requestHash view.shareId 1
  { d with
    share := Function.update d.share view.shareId
      (some ⟨p.tenantId, view, capabilityHash c view.publicId secret⟩)
    lookup := Function.update d.lookup view.publicId (some view.shareId)
    snapshot := Function.update d.snapshot view.shareId (some (c.project env source view.publicId))
    replay := Function.update d.replay (scope p createOperation idempotencyKey)
      (some ⟨requestHash, view.shareId, 1, 1⟩) }

def create (p : Principal) (tripId : String) (request : ShareCreateRequest) (idempotencyKey : String) :
    DeskM Snapshot ShareMutationResponse := do
  let source ← ask fun _ => source c env p tripId request
  let requestHash := createHash c tripId request
  let d ← get
  match d.replay (scope p createOperation idempotencyKey) with
  | some replay =>
    ensure (replay.requestHash = requestHash) (.conflict "idempotency key reused with another request" none)
    match d.share replay.shareId with
    | none => throw (.unforeseen "KeyError")
    | some r =>
      let secret := deriveSecret c createOperation p idempotencyKey requestHash replay.shareId replay.epoch
      return { share := r.view, capabilitySecret := some secret, replayed := true }
  | none =>
    ensure (π.confirms env p tripId source) (.conflict "source snapshot changed before share creation" none)
    let view := newShare c env p tripId source
    let secret := deriveSecret c createOperation p idempotencyKey requestHash view.shareId 1
    set (d.created c env p tripId source requestHash idempotencyKey)
    return { share := view, capabilitySecret := some secret }

/-- What one change of a share keeps: the share as `f` makes it, without its sessions. -/
def changed (p : Principal) (operation requestHash idempotencyKey shareId : String) (r : Record)
    (d : Desk Snapshot) : Desk Snapshot :=
  { d with
    share := Function.update d.share shareId (some r)
    session := d.endSessions shareId
    replay := Function.update d.replay (scope p operation idempotencyKey)
      (some ⟨requestHash, shareId, r.view.version, r.view.capabilityEpoch⟩) }

def rotate (p : Principal) (shareId : String) (expectedVersion : ℕ) (idempotencyKey : String) :
    DeskM Snapshot ShareMutationResponse := do
  let requestHash := transitionHash c "rotate" shareId expectedVersion
  let secret := deriveSecret c "share.rotate" p idempotencyKey requestHash shareId
  let d ← get
  match d.replay (scope p (rotateOperation shareId) idempotencyKey) with
  | some replay =>
    ensure (replay.requestHash = requestHash) (.conflict "idempotency key reused with another request" none)
    match d.share shareId with
    | none => throw (.notFound "share not found")
    | some r =>
      let current := r.view.version = replay.version ∧ r.view.capabilityEpoch = replay.epoch
      return { share := r.view, capabilitySecret := if current then some (secret replay.epoch) else none
               replayed := true }
  | none =>
    match (d.share shareId).filter (π.mayChange p) with
    | none => throw (.notFound "share not found")
    | some r =>
      ensure (r.view.status = .active ∧ r.view.version = expectedVersion)
        (.conflict "share changed" (some r.view.version))
      let view := r.view.rotated env.now
      let d := d.changed p (rotateOperation shareId) requestHash idempotencyKey shareId
        { r with view, secretHash := capabilityHash c view.publicId (secret view.capabilityEpoch) }
      set (if π.forgets then { d with failures := Function.update d.failures shareId none } else d)
      return { share := view, capabilitySecret := some (secret view.capabilityEpoch) }

def revoke (p : Principal) (shareId : String) (expectedVersion : ℕ) (idempotencyKey : String) :
    DeskM Snapshot ShareMutationResponse := do
  let requestHash := transitionHash c "revoke" shareId expectedVersion
  let d ← get
  match d.replay (scope p (revokeOperation shareId) idempotencyKey) with
  | some replay =>
    ensure (replay.requestHash = requestHash) (.conflict "idempotency key reused with another request" none)
    match d.share shareId with
    | none => throw (.notFound "share not found")
    | some r => return { share := r.view, replayed := true }
  | none =>
    match (d.share shareId).filter (π.mayChange p) with
    | none => throw (.notFound "share not found")
    | some r =>
      ensure (r.view.status = .active ∧ r.view.version = expectedVersion)
        (.conflict "share changed" (some r.view.version))
      let view := r.view.closed env.now
      set (d.changed p (revokeOperation shareId) requestHash idempotencyKey shareId { r with view })
      return { share := view }

def exchange (publicId secret : String) : DeskM Snapshot ShareExchangeResponse := do
  let (shareId, r, failures) ← ask (compared env.now publicId)
  if capabilityHash c publicId secret ≠ r.secretHash then
    let failures := limits.fail env.now failures
    modify fun d => { d with failures := Function.update d.failures shareId (some failures) }
    throw (if failures.blockedUntil.isSome then .rateLimited (15 * 60)
      else .capabilityInvalid "invalid share capability")
  else
    let session : Session := ⟨shareId, r.view.capabilityEpoch, sessionExpiry env.now⟩
    modify fun d => { d with
      failures := Function.update d.failures shareId none
      session := Function.update d.session (sessionHash c env.sessionToken) (some session) }
    return ⟨env.sessionToken, session.expiresAt⟩

def publicSnapshot (publicId sessionToken : String) :
    DeskM Snapshot (PublicShareSnapshotResponse Snapshot) := do
  let d ← get
  match d.opened env.now publicId (sessionHash c sessionToken) with
  | none => throw (.capabilityInvalid "invalid share session")
  | some (_, snapshot) => return ⟨publicId, snapshot⟩

/-- A call of the service. -/
def call : ShareOp → DeskM Snapshot (ShareResponse Snapshot)
  | .create p tripId request key => .mutation <$> create π c env p tripId request key
  | .rotate p shareId version key => .mutation <$> rotate π c env p shareId version key
  | .revoke p shareId version key => .mutation <$> revoke π c env p shareId version key
  | .exchange publicId secret => .exchange <$> exchange c env publicId secret
  | .publicSnapshot publicId token => .snapshot <$> publicSnapshot c env publicId token

end Desk
end RoutePilot.Share
