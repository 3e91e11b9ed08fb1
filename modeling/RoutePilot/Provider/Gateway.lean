/-
  The state of the provider gateway (`providers/gateway.py`), and the sections
  that it runs under its state lock.

  The monotonic clock is in seconds, and timestamps are on the wall clock.  Times
  and durations are rational numbers, and what the gateway computes of them is
  rounded as its floats are (`Lib.Binary64`).  A section takes the reading `now` of the monotonic clock that its call
  made before it asked for the lock; `clock` and `wall` are readings made inside.
-/
import Mathlib.Algebra.Order.Ring.Rat
import Mathlib.Data.List.MinMax
import RoutePilot.Lib.Binary64
import RoutePilot.Lib.Dict
import RoutePilot.Lib.EState
import RoutePilot.Lib.SlidingLog
import RoutePilot.Provider.Amap

namespace RoutePilot.Provider

open Lib

/-! ## Policy -/

structure GatewayPolicy where
  defaultDeadlineSeconds : ℚ := 4
  maximumDeadlineSeconds : ℚ := 15
  maxRetries : ℕ := 1
  backoffSeconds : ℚ := 1 / 20
  jitterSeconds : ℚ := 1 / 20
  rateLimitRequests : ℕ := 60
  rateLimitWindowSeconds : ℚ := 60
  circuitFailureThreshold : ℕ := 3
  circuitOpenSeconds : ℚ := 30
  maxConcurrencyPerProvider : ℕ := 8
  maxCacheEntries : ℕ := 2_048
  maxIdempotencyEntries : ℕ := 10_000
  idempotencyTtlSeconds : ℚ := 3_600
  default_le : 1 / 10 ≤ defaultDeadlineSeconds ∧ defaultDeadlineSeconds ≤ 30
  maximum_le : defaultDeadlineSeconds ≤ maximumDeadlineSeconds ∧ maximumDeadlineSeconds ≤ 30
  retries_le : maxRetries ≤ 2
  backoff_le : 0 ≤ backoffSeconds ∧ backoffSeconds ≤ 1
  jitter_le : 0 ≤ jitterSeconds ∧ jitterSeconds ≤ 1
  requests_le : 1 ≤ rateLimitRequests ∧ rateLimitRequests ≤ 100_000
  window_le : 1 / 10 ≤ rateLimitWindowSeconds ∧ rateLimitWindowSeconds ≤ 3_600
  threshold_le : 1 ≤ circuitFailureThreshold ∧ circuitFailureThreshold ≤ 100
  open_le : 1 / 10 ≤ circuitOpenSeconds ∧ circuitOpenSeconds ≤ 3_600
  concurrency_le : 1 ≤ maxConcurrencyPerProvider ∧ maxConcurrencyPerProvider ≤ 1_000
  cache_le : 1 ≤ maxCacheEntries ∧ maxCacheEntries ≤ 100_000
  idempotency_le : 1 ≤ maxIdempotencyEntries ∧ maxIdempotencyEntries ≤ 1_000_000

/-! ## Results -/

structure ProviderProvenance where
  providerId : String
  providerVersion : String
  capability : ProviderCapability
  observedAt : Time
  validUntil : Time
  freshnessStatus : FreshnessStatus
  deriving DecidableEq, Repr

structure ProviderResult where
  body : Amap.Result
  provenance : ProviderProvenance

/-- The capability whose methods return results of this type. -/
def ProviderResult.capability (result : ProviderResult) : ProviderCapability :=
  match result.body with
  | .places _ => .placeSearch
  | .candidates _ => .geocode
  | .matrix _ => .routeMatrix
  | .hours _ => .openingHours
  | .weather .. => .weather

/-- `model_copy(update={"freshness_status": STALE})` of the provenance. -/
def ProviderResult.stale (result : ProviderResult) : ProviderResult :=
  { result with provenance := { result.provenance with freshnessStatus := .stale } }

/-- `_with_current_freshness`. -/
def withCurrentFreshness (wall : Time) (result : ProviderResult) : ProviderResult :=
  if result.provenance.freshnessStatus = .fresh ∧ result.provenance.validUntil ≤ wall then result.stale else result

/-! ## State -/

/-- Tenant, capability and idempotency key. -/
abbrev OperationKey := String × String × String

structure Circuit where
  failures : ℕ := 0
  openedAt : Option ℚ := none
  halfOpenInflight : Bool := false
  deriving DecidableEq, Repr

structure CacheEntry where
  result : ProviderResult
  freshExpiresAt : ℚ
  staleExpiresAt : ℚ
  insertedAt : ℚ

structure IdempotencyEntry where
  requestHash : String
  result : ProviderResult
  expiresAt : ℚ

/-- What the state lock protects.  A deque that is missing is empty, and locks are named by numbers,
    those below `locks` being in use. -/
structure GatewayState where
  circuits : String → Circuit := fun _ => {}
  /-- by provider and tenant -/
  rateWindows : String × String → List ℚ := fun _ => []
  cache : Dict String CacheEntry := ∅
  idempotency : Dict OperationKey IdempotencyEntry := ∅
  idempotencyLocks : OperationKey → Option ℕ := fun _ => none
  locks : ℕ := 0

namespace GatewayState

def setCircuit (s : GatewayState) (providerId : String) (c : Circuit) : GatewayState :=
  { s with circuits := Function.update s.circuits providerId c }

def setWindow (s : GatewayState) (key : String × String) (window : List ℚ) : GatewayState :=
  { s with rateWindows := Function.update s.rateWindows key window }

end GatewayState

abbrev GatewayM := EStateM ProviderError GatewayState

/-- `while window and window[0] <= cutoff: window.popleft()`. -/
def popExpired (cutoff : ℚ) (window : List ℚ) : List ℚ := trim cutoff window

/-- `self._cache_ttls` and the like. -/
structure GatewayConfig where
  policy : GatewayPolicy
  cacheTtls : ProviderCapability → ℚ
  staleIfError : ProviderCapability → ℚ
  ttls_le : ∀ capability, 0 ≤ cacheTtls capability ∧ cacheTtls capability ≤ 604_800
  stale_le : ∀ capability, 0 ≤ staleIfError capability ∧ staleIfError capability ≤ 604_800

namespace GatewayConfig
variable (g : GatewayConfig)

/-! ## Sections -/

/-- `_prune_state`; `locked` are the locks that are held. -/
def pruneState (locked : ℕ → Bool) (now : ℚ) (s : GatewayState) : GatewayState :=
  let idempotency := s.idempotency.filterValues fun entry => now < entry.expiresAt
  { s with
    cache := s.cache.filterValues fun entry => now < entry.staleExpiresAt
    idempotency
    rateWindows := fun key => popExpired (Binary64.sub now g.policy.rateLimitWindowSeconds) (s.rateWindows key)
    idempotencyLocks := fun key =>
      (s.idempotencyLocks key).filter fun lock => (idempotency.get? key).isSome || locked lock }

/-- `_store_idempotency_locked`. -/
def storeIdempotency (key : OperationKey) (requestHash : String) (result : ProviderResult) (now : ℚ)
    (s : GatewayState) : GatewayState :=
  let kept :=
    if g.policy.maxIdempotencyEntries ≤ s.idempotency.entries.length then
      match s.idempotency.entries.argmin (·.2.expiresAt) with
      | some earliest => s.idempotency.pop earliest.1
      | none => s.idempotency
    else s.idempotency
  { s with idempotency := kept.set key ⟨requestHash, result, Binary64.add now g.policy.idempotencyTtlSeconds⟩ }

/-- `_store_idempotency_locked`, where there is a key. -/
def storeIfKeyed (key : Option OperationKey) (requestHash : String) (result : ProviderResult) (now : ℚ)
    (s : GatewayState) : GatewayState :=
  match key with
  | some key => g.storeIdempotency key requestHash result now s
  | none => s

/-- `setdefault` of the lock of a key. -/
def idempotencyLock (key : OperationKey) : GatewayM ℕ := do
  let s ← get
  match s.idempotencyLocks key with
  | some lock => return lock
  | none =>
    set { s with idempotencyLocks := Function.update s.idempotencyLocks key (some s.locks), locks := s.locks + 1 }
    return s.locks

/-- The first section of `_execute_locked`. -/
def lookup (locked : ℕ → Bool) (now : ℚ) (wall : Time) (key : Option OperationKey) (requestHash : String)
    (cacheKey : Option String) : GatewayM (Option ProviderResult) := do
  modify (g.pruneState locked now)
  let s ← get
  match key.bind s.idempotency.get? with
  | some prior =>
    ensure (prior.requestHash = requestHash) ⟨.idempotencyConflict, none⟩
    return some (withCurrentFreshness wall prior.result)
  | none =>
    match cacheKey.bind s.cache.get? with
    | some cached =>
      if now < cached.freshExpiresAt then
        set (g.storeIfKeyed key requestHash cached.result now s)
        return some cached.result
      return none
    | none => return none

/-- `_before_call`. -/
def beforeCall (now : ℚ) (providerId tenantId : String) (cost : ℕ) : GatewayM Unit := do
  let circuit := (← get).circuits providerId
  if let some openedAt := circuit.openedAt then
    ensure (¬ Binary64.sub now openedAt < g.policy.circuitOpenSeconds) ⟨.circuitOpen, some providerId⟩
    ensure (circuit.halfOpenInflight = false) ⟨.circuitOpen, some providerId⟩
    modify (·.setCircuit providerId { circuit with halfOpenInflight := true })
  let window := popExpired (Binary64.sub now g.policy.rateLimitWindowSeconds)
    ((← get).rateWindows (providerId, tenantId))
  modify (·.setWindow (providerId, tenantId) window)
  if g.policy.rateLimitRequests < window.length + cost then
    if circuit.openedAt.isSome then
      modify (·.setCircuit providerId { circuit with halfOpenInflight := false })
    throw ⟨.rateLimited, some providerId⟩
  modify (·.setWindow (providerId, tenantId) (window ++ List.replicate cost now))

/-- `_record_success`. -/
def recordSuccess (providerId : String) : GatewayM Unit := modify (·.setCircuit providerId {})

/-- The circuit after a failure. -/
def failed (clock : ℚ) (kind : ErrorKind) (circuit : Circuit) : Circuit :=
  let circuit := if circuit.openedAt.isSome then { circuit with halfOpenInflight := false } else circuit
  if kind.countsTowardCircuit then
    let circuit := { circuit with failures := circuit.failures + 1 }
    if g.policy.circuitFailureThreshold ≤ circuit.failures then
      { circuit with openedAt := some clock, halfOpenInflight := false }
    else circuit
  else circuit

/-- `_record_failure`. -/
def recordFailure (clock : ℚ) (providerId : String) (kind : ErrorKind) : GatewayM Unit :=
  modify fun s => s.setCircuit providerId (g.failed clock kind (s.circuits providerId))

/-- `_release_half_open`. -/
def releaseHalfOpen (providerId : String) : GatewayM Unit :=
  modify fun s => s.setCircuit providerId { s.circuits providerId with halfOpenInflight := false }

/-- The cache with a new result, fresh for `ttl` seconds. -/
def remember (cacheKey : Option String) (capability : ProviderCapability) (result : ProviderResult) (now ttl : ℚ)
    (s : GatewayState) : GatewayState :=
  match cacheKey with
  | some cacheKey =>
    if 0 < ttl then
      let kept :=
        if g.policy.maxCacheEntries ≤ s.cache.entries.length then
          match s.cache.entries.argmin (·.2.insertedAt) with
          | some oldest => s.cache.pop oldest.1
          | none => s.cache
        else s.cache
      let expires := Binary64.add now ttl
      { s with cache := kept.set cacheKey ⟨result, expires, Binary64.add expires (g.staleIfError capability), now⟩ }
    else s
  | none => s

/-- `_remember_success`. -/
def rememberSuccess (now : ℚ) (wall : Time) (capability : ProviderCapability) (cacheKey : Option String)
    (key : Option OperationKey) (requestHash : String) (result : ProviderResult) : GatewayM Unit := do
  let wallRemaining := max 0 (Binary64.round (((result.provenance.validUntil : ℚ) - wall) / 1_000_000))
  modify (g.remember cacheKey capability result now (min (g.cacheTtls capability) wallRemaining))
  modify (g.storeIfKeyed key requestHash result now)

/-- The section of `_get_stale_fallback`. -/
def staleFallback (now : ℚ) (cacheKey : String) (key : Option OperationKey) (requestHash : String) :
    GatewayM (Option ProviderResult) := do
  let s ← get
  match s.cache.get? cacheKey with
  | some cached =>
    if now < cached.freshExpiresAt ∨ cached.staleExpiresAt ≤ now then return none
    set (g.storeIfKeyed key requestHash cached.result.stale now s)
    return some cached.result.stale
  | none => return none

end GatewayConfig

/-- What a call does under the state lock. -/
inductive Section where
  | idempotencyLock (key : OperationKey)
  | lookup (key : Option OperationKey) (requestHash : String) (cacheKey : Option String)
  | beforeCall (providerId tenantId : String) (cost : ℕ)
  | recordSuccess (providerId : String)
  | recordFailure (providerId : String) (kind : ErrorKind)
  | releaseHalfOpen (providerId : String)
  | rememberSuccess (capability : ProviderCapability) (cacheKey : Option String) (key : Option OperationKey)
      (requestHash : String) (result : ProviderResult)
  | staleFallback (cacheKey : String) (key : Option OperationKey) (requestHash : String)

namespace Section

/-- What a section returns. -/
abbrev Ans : Section → Type
  | idempotencyLock _ => ℕ
  | lookup .. | staleFallback .. => Option ProviderResult
  | beforeCall .. | recordSuccess _ | recordFailure .. | releaseHalfOpen _ | rememberSuccess .. => Unit

/-- The code of a section. -/
def body (g : GatewayConfig) (locked : ℕ → Bool) (now clock : ℚ) (wall : Time) : (s : Section) → GatewayM s.Ans
  | idempotencyLock key => GatewayConfig.idempotencyLock key
  | lookup key requestHash cacheKey => g.lookup locked now wall key requestHash cacheKey
  | beforeCall providerId tenantId cost => g.beforeCall now providerId tenantId cost
  | recordSuccess providerId => GatewayConfig.recordSuccess providerId
  | recordFailure providerId kind => g.recordFailure clock providerId kind
  | releaseHalfOpen providerId => GatewayConfig.releaseHalfOpen providerId
  | rememberSuccess capability cacheKey key requestHash result =>
    g.rememberSuccess now wall capability cacheKey key requestHash result
  | staleFallback cacheKey key requestHash => g.staleFallback now cacheKey key requestHash

end Section
end RoutePilot.Provider
