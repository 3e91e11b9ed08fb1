/-
  A call of the provider gateway (`ProviderGateway._execute`).

  A call reads the clock, takes its turn for the state lock (`enqueue`) and runs
  a section when it is at the head of the queue (`enter`); it acquires the lock
  of its idempotency key and a slot of the provider's bulkhead, and it starts an
  invocation of the provider (`invoke`) and awaits its outcome.
-/
import RoutePilot.Lib.Co
import RoutePilot.Lib.Utf8
import RoutePilot.Model.Canonical
import RoutePilot.Provider.Gateway

namespace RoutePilot.Provider

open Lib

inductive CacheScope where
  | public_
  | tenant
  | disabled
  deriving DecidableEq, Repr

structure ProviderCallContext where
  tenantId : String
  idempotencyKey : Option String := none
  deadlineMonotonic : Option ℚ := none
  cacheScope : CacheScope := .tenant
  /-- a cancellation event is given -/
  cancellationEvent : Bool := false
  tenant_length : 1 ≤ tenantId.length ∧ tenantId.length ≤ 128
  key_length : ∀ key ∈ idempotencyKey, 8 ≤ key.length ∧ key.length ≤ 200
  deadline_pos : ∀ deadline ∈ deadlineMonotonic, 0 < deadline

/-- A registered provider. -/
structure ProviderPort where
  providerId : String
  apiVersion : String
  capabilities : List ProviderCapability
  configured : Bool
  /-- it has the method of a capability -/
  hasMethod : ProviderCapability → Bool := fun _ => true

structure ProviderGateway extends GatewayConfig where
  providers : List ProviderPort
  allowlist : List String
  floatText : FloatText
  /-- `hashlib.sha256(payload).hexdigest()` -/
  hexdigest : List UInt8 → String
  /-- the result passes the validation of its model -/
  valid : ProviderResult → Bool
  distinct : (providers.map (·.providerId)).Nodup

/-- What a request is hashed as. -/
def requestPayload (capability : ProviderCapability) (request : Request) : Json :=
  .obj [("capability", .str capability.value), ("request", request.dump)]

/-- `_request_hash`. -/
def ProviderGateway.requestHash (g : ProviderGateway) (capability : ProviderCapability) (request : Request) : String :=
  g.hexdigest (Utf8.encode ((requestPayload capability request).canonicalJson g.floatText))

/-! ## Effects -/

/-- What is raised. -/
inductive GatewayError where
  | provider (e : ProviderError)
  | cancelledError
  | exception
  deriving DecidableEq, Repr

/-- An awaited operation; `event` says that a cancellation event is awaited with it. -/
inductive GatewayOp where
  | clock
  | enqueue
  | enter (ticket : ℕ) (s : Section)
  | lockAcquire (lock : ℕ) (event : Bool)
  | lockRelease (lock : ℕ)
  | slotAcquire (providerId : String) (event : Bool)
  | slotRelease (providerId : String)
  | invoke (providerId : String) (capability : ProviderCapability) (request : Request) (context : ProviderCallContext)
  | outcome (invocation : ℕ) (event : Bool)
  | sleep (delay : ℚ) (event : Bool)
  /-- the result is handed to the caller -/
  | returns (result : ProviderResult)

/-- What a method returns is a result model or not. -/
abbrev GatewayOp.Ans : GatewayOp → Type
  | clock => ℚ
  | enqueue | invoke .. => ℕ
  | enter _ s => s.Ans
  | lockAcquire .. | lockRelease _ | slotAcquire .. | slotRelease _ | sleep .. | returns _ => Unit
  | outcome .. => Option ProviderResult

inductive GatewayAct where
  /-- `context.cancellation_event.is_set()` -/
  | isSet
  /-- `self._random.random()` -/
  | random

abbrev gw : Effects where
  Op := GatewayOp
  Ans := GatewayOp.Ans
  Act := GatewayAct
  Res
    | .isSet => Bool
    | .random => ℚ
  Err := GatewayError

abbrev CallM := Co gw

def raise {α : Type} (kind : ErrorKind) (providerId : Option String := none) : CallM α :=
  Co.raise (E := gw) (.provider ⟨kind, providerId⟩)

def clock : CallM ℚ := Co.call (E := gw) .clock

/-- `async with self._state_lock`. -/
def withStateLock (s : Section) : CallM s.Ans := do
  let ticket ← Co.call (E := gw) .enqueue
  Co.call (E := gw) (.enter ticket s)

/-- `_await_with_cancel`. -/
def awaitWithCancel (o : GatewayOp) (deadline : ℚ) : CallM o.Ans := do
  let now ← clock
  if deadline ≤ now then raise .timeout
  else Co.call (E := gw) o

/-- `_check_cancelled`. -/
def checkCancelled (context : ProviderCallContext) : CallM Unit := do
  if context.cancellationEvent then
    let isSet : Bool ← Co.act (E := gw) .isSet
    if isSet then raise .cancelled

/-- `_cache_key`. -/
def cacheKey (capability : ProviderCapability) (requestHash : String) (context : ProviderCallContext) :
    Option String :=
  match context.cacheScope with
  | .disabled => none
  | .public_ => some ("public:" ++ capability.value ++ ":" ++ requestHash)
  | .tenant => some ("tenant:" ++ context.tenantId ++ ":" ++ capability.value ++ ":" ++ requestHash)

/-- The key of the call, if it has one. -/
def operationKey (capability : ProviderCapability) (context : ProviderCallContext) : Option OperationKey :=
  context.idempotencyKey.map fun key => (context.tenantId, capability.value, key)

/-! ## The call -/

namespace ProviderGateway
variable (g : ProviderGateway)

/-- What a call is about. -/
structure Call where
  capability : ProviderCapability
  request : Request
  context : ProviderCallContext

variable (c : Call) (deadline : ℚ)

def Call.key : Option OperationKey := operationKey c.capability c.context
def Call.hash : String := g.requestHash c.capability c.request

/-- `_invoke`. -/
def invoke (provider : ProviderPort) : CallM ProviderResult := do
  awaitWithCancel (.slotAcquire provider.providerId c.context.cancellationEvent) deadline
  let invocation : CallM (Option ProviderResult) := do
    let now ← clock
    if deadline ≤ now then raise .timeout
    let invocation ← Co.call (E := gw) (.invoke provider.providerId c.capability c.request c.context)
    Co.call (E := gw) (.outcome invocation c.context.cancellationEvent)
  match ← invocation.tryFinally (Co.call (E := gw) (.slotRelease provider.providerId)) with
  | some value => return value
  | none => raise .response provider.providerId

/-- `_validate_result`. -/
def validateResult (result : ProviderResult) (provider : ProviderPort) : CallM ProviderResult :=
  if result.capability = c.capability ∧ g.valid result ∧ result.provenance.providerId = provider.providerId ∧
      result.provenance.providerVersion = provider.apiVersion ∧ result.provenance.capability = c.capability then
    return result
  else raise .response provider.providerId

/-- One attempt with a provider: its result, or the error to go on with. -/
def attempt (provider : ProviderPort) : CallM (ProviderError ⊕ ProviderResult) :=
  let tried : CallM (ProviderError ⊕ ProviderResult) := do
    withStateLock (.beforeCall provider.providerId c.context.tenantId (rateCost c.capability c.request))
    if provider.hasMethod c.capability = false then raise .unavailable provider.providerId
    let result ← invoke c deadline provider
    let result ← g.validateResult c result provider
    withStateLock (.recordSuccess provider.providerId)
    withStateLock (.rememberSuccess c.capability (cacheKey c.capability (c.hash g) c.context) c.key (c.hash g) result)
    return .inr result
  tried.tryCatch fun
    | .cancelledError => do
      withStateLock (.releaseHalfOpen provider.providerId)
      Co.raise (E := gw) .cancelledError
    | .provider e =>
      if e.kind = .cancelled ∨ e.kind = .input then do
        withStateLock (.releaseHalfOpen provider.providerId)
        Co.raise (E := gw) (.provider e)
      else do
        withStateLock (.recordFailure provider.providerId e.kind)
        return .inl e
    | .exception => do
      withStateLock (.recordFailure provider.providerId .unavailable)
      return .inl ⟨.unavailable, some provider.providerId⟩

/-- The attempts that are left, after one that failed. -/
def attempts (provider : ProviderPort) : List ℕ → ProviderError → CallM (ProviderError ⊕ ProviderResult)
  | [], lastError => return .inl lastError
  | n :: rest, _ => do
    checkCancelled c.context
    let now ← clock
    if deadline ≤ now then raise .timeout provider.providerId
    match ← g.attempt c deadline provider with
    | .inr result => return .inr result
    | .inl e =>
      if n < g.policy.maxRetries ∧ e.kind.retryable then
        let random : ℚ ← Co.act (E := gw) .random
        let delay := Binary64.add (Binary64.mul g.policy.backoffSeconds (2 ^ n))
          (Binary64.mul random g.policy.jitterSeconds)
        if 0 < delay then awaitWithCancel (.sleep delay c.context.cancellationEvent) deadline
        attempts provider rest e
      else return .inl e

/-- The providers that are left. -/
def tryProviders : List ProviderPort → Option ProviderError → CallM (Option ProviderError ⊕ ProviderResult)
  | [], lastError => return .inl lastError
  | provider :: rest, lastError => do
    if provider.configured = false then tryProviders rest (some ⟨.unavailable, provider.providerId⟩)
    else
      match ← g.attempts c deadline provider (List.range (g.policy.maxRetries + 1))
          (lastError.getD ⟨.unavailable, none⟩) with
      | .inr result => return .inr result
      | .inl e => tryProviders rest (some e)

/-- `_get_stale_fallback`. -/
def getStaleFallback : CallM (Option ProviderResult) :=
  match cacheKey c.capability (c.hash g) c.context with
  | some cacheKey =>
    if g.staleIfError c.capability ≤ 0 then return none
    else withStateLock (.staleFallback cacheKey c.key (c.hash g))
  | none => return none

/-- `_execute_locked`. -/
def executeLocked : CallM ProviderResult := do
  checkCancelled c.context
  let found ← withStateLock (.lookup c.key (c.hash g) (cacheKey c.capability (c.hash g) c.context))
  match found with
  | some result => return result
  | none =>
    let providers := g.providers.filter fun provider =>
      c.capability ∈ provider.capabilities ∧ provider.providerId ∈ g.allowlist
    if providers.isEmpty then raise .notAllowed
    match ← g.tryProviders c deadline providers none with
    | .inr result => return result
    | .inl (some lastError) =>
      if lastError.kind.retryable then
        match ← g.getStaleFallback c with
        | some stale => return stale
        | none => Co.raise (E := gw) (.provider lastError)
      else Co.raise (E := gw) (.provider lastError)
    | .inl none => raise .unavailable

/-- `_execute`. -/
def execute : CallM ProviderResult := do
  let now ← clock
  let requestedDeadline := c.context.deadlineMonotonic.getD (Binary64.add now g.policy.defaultDeadlineSeconds)
  let deadline := min requestedDeadline (Binary64.add now g.policy.maximumDeadlineSeconds)
  match c.key with
  | none => g.executeLocked c deadline
  | some key =>
    let lock ← withStateLock (.idempotencyLock key)
    awaitWithCancel (.lockAcquire lock c.context.cancellationEvent) deadline
    (g.executeLocked c deadline).tryFinally (Co.call (E := gw) (.lockRelease lock))

/-- The call, with its result handed to the caller. -/
def run : CallM Unit := do
  let result ← g.execute c
  Co.call (E := gw) (.returns result)

end ProviderGateway
end RoutePilot.Provider
