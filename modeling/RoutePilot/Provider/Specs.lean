/-
  What the sections of the gateway do.

  `beforeCall_cases` says when an attempt is admitted and what it leaves behind
  either way; the other sections have a frame lemma for each part of the state
  that they leave alone.
-/
import Mathlib.Tactic.SplitIfs
import RoutePilot.Provider.Gateway

namespace RoutePilot.Provider.GatewayConfig

open Lib

variable (g : GatewayConfig)

/-! ## Admission -/

/-- The window of a provider and a tenant, without what is too old. -/
def freshWindow (now : ℚ) (key : String × String) (s : GatewayState) : List ℚ :=
  popExpired (Binary64.sub now g.policy.rateLimitWindowSeconds) (s.rateWindows key)

/-- An attempt is admitted. -/
structure Admits (now : ℚ) (providerId tenantId : String) (cost : ℕ) (s : GatewayState) : Prop where
  lapsed : ∀ openedAt ∈ (s.circuits providerId).openedAt, g.policy.circuitOpenSeconds ≤ Binary64.sub now openedAt
  free : (s.circuits providerId).openedAt.isSome → (s.circuits providerId).halfOpenInflight = false
  room : (g.freshWindow now (providerId, tenantId) s).length + cost ≤ g.policy.rateLimitRequests

/-- An admitted attempt is a probe where the circuit is open. -/
def Circuit.probed (circuit : Circuit) : Circuit :=
  if circuit.openedAt.isSome then { circuit with halfOpenInflight := true } else circuit

/-- What an admitted attempt leaves behind. -/
def admitted (now : ℚ) (providerId tenantId : String) (cost : ℕ) (s : GatewayState) : GatewayState :=
  { s with
    circuits := Function.update s.circuits providerId (Circuit.probed (s.circuits providerId))
    rateWindows := Function.update s.rateWindows (providerId, tenantId)
      (g.freshWindow now (providerId, tenantId) s ++ List.replicate cost now) }

theorem beforeCall_cases (now : ℚ) (providerId tenantId : String) (cost : ℕ) (s : GatewayState) :
    (g.Admits now providerId tenantId cost s ∧
      (g.beforeCall now providerId tenantId cost).run s = .ok () (g.admitted now providerId tenantId cost s)) ∨
    ∃ e, (g.beforeCall now providerId tenantId cost).run s = .error e s ∨
      (g.beforeCall now providerId tenantId cost).run s =
        .error e (s.setWindow (providerId, tenantId) (g.freshWindow now (providerId, tenantId) s)) := by
  cases hopen : (s.circuits providerId).openedAt with
  | none =>
    by_cases hroom : g.policy.rateLimitRequests < (g.freshWindow now (providerId, tenantId) s).length + cost
    · refine .inr ⟨⟨.rateLimited, some providerId⟩, .inr ?_⟩
      simp only [freshWindow] at hroom
      simp [beforeCall, hopen, freshWindow, hroom]
    · refine .inl ⟨⟨by simp [hopen], by simp [hopen], by omega⟩, ?_⟩
      simp only [freshWindow] at hroom
      simp [beforeCall, hopen, freshWindow, hroom, admitted, Circuit.probed, GatewayState.setWindow]
  | some openedAt =>
    by_cases hlapsed : g.policy.circuitOpenSeconds ≤ Binary64.sub now openedAt
    swap
    · refine .inr ⟨⟨.circuitOpen, some providerId⟩, .inl ?_⟩
      simp [beforeCall, hopen, ensure, hlapsed]
    by_cases hbusy : (s.circuits providerId).halfOpenInflight = true
    · refine .inr ⟨⟨.circuitOpen, some providerId⟩, .inl ?_⟩
      simp [beforeCall, hopen, ensure, hlapsed, hbusy]
    by_cases hroom : g.policy.rateLimitRequests < (g.freshWindow now (providerId, tenantId) s).length + cost
    · -- the flag is taken back
      have hcircuit : (⟨(s.circuits providerId).failures, some openedAt, false⟩ : Circuit) = s.circuits providerId := by
        cases hc : s.circuits providerId
        simp_all
      refine .inr ⟨⟨.rateLimited, some providerId⟩, .inr ?_⟩
      simp only [freshWindow] at hroom
      simp [beforeCall, hopen, ensure, hlapsed, hbusy, freshWindow, hroom, GatewayState.setWindow,
        GatewayState.setCircuit, hcircuit]
    · refine .inl ⟨⟨by simpa [hopen] using hlapsed, by simp [hbusy], by omega⟩, ?_⟩
      simp only [freshWindow] at hroom
      simp [beforeCall, hopen, ensure, hlapsed, hbusy, freshWindow, hroom, admitted, Circuit.probed,
        GatewayState.setWindow, GatewayState.setCircuit]

theorem admitted_circuits_ne {now : ℚ} {providerId tenantId : String} {cost : ℕ} {s : GatewayState} {p : String}
    (h : p ≠ providerId) : (g.admitted now providerId tenantId cost s).circuits p = s.circuits p :=
  Function.update_of_ne h _ _

/-! ## Room -/

/-- A table that is not over its bound has room when its least entry is gone, or when it has none. -/
theorem evicted_lt {K V : Type} [DecidableEq K] {d : Dict K V} {bound : ℕ} {f : K × V → ℚ} {least : K × V}
    (hleast : d.entries.argmin f = some least) (hd : d.entries.length ≤ bound) :
    (d.pop least.1).entries.length < bound := (Dict.length_pop_lt (List.argmin_mem hleast)).trans_le hd

theorem length_lt_of_argmin_eq_none {K V : Type} {d : Dict K V} {bound : ℕ} {f : K × V → ℚ}
    (hnone : d.entries.argmin f = none) (hbound : 1 ≤ bound) : d.entries.length < bound := by
  rw [List.argmin_eq_none] at hnone
  rw [hnone]
  exact hbound

/-! ## Frames -/

section
variable {τ : Type} {f : GatewayState → τ}

theorem storeIfKeyed_keeps (hf : ∀ s idempotency, f { s with idempotency := idempotency } = f s)
    (key : Option OperationKey) (requestHash : String) (result : ProviderResult) (now : ℚ) (s : GatewayState) :
    f (g.storeIfKeyed key requestHash result now s) = f s := by
  cases key with
  | none => rfl
  | some key => exact hf s _

/-- After it has pruned the state, a look-up changes no more than idempotency entries. -/
theorem lookup_keeps (hf : ∀ s idempotency, f { s with idempotency := idempotency } = f s) (locked : ℕ → Bool)
    (now : ℚ) (wall : Time) (key : Option OperationKey) (requestHash : String) (cacheKey : Option String)
    (s : GatewayState) :
    f (final ((g.lookup locked now wall key requestHash cacheKey).run s)) = f (g.pruneState locked now s) := by
  unfold lookup
  simp only [EStateM.run_bind, EStateM.run_modify, EStateM.run_get]
  cases key.bind (g.pruneState locked now s).idempotency.get? with
  | some prior => exact ((Keeps.ensure _ _).bind fun _ => .pure _) _
  | none =>
    cases cacheKey.bind (g.pruneState locked now s).cache.get? with
    | none => rfl
    | some cached =>
      dsimp only
      split
      · exact g.storeIfKeyed_keeps hf ..
      · rfl

theorem rememberSuccess_keeps (hcache : ∀ s cache, f { s with cache := cache } = f s)
    (hf : ∀ s idempotency, f { s with idempotency := idempotency } = f s) (now : ℚ) (wall : Time)
    (capability : ProviderCapability) (cacheKey : Option String) (key : Option OperationKey) (requestHash : String)
    (result : ProviderResult) :
    Keeps f (g.rememberSuccess now wall capability cacheKey key requestHash result) := by
  unfold rememberSuccess
  refine (Keeps.modify fun s => ?_).bind fun _ => Keeps.modify fun s => g.storeIfKeyed_keeps hf ..
  unfold remember
  split
  · split
    · exact hcache s _
    · rfl
  · rfl

theorem staleFallback_keeps (hf : ∀ s idempotency, f { s with idempotency := idempotency } = f s) (now : ℚ)
    (cacheKey : String) (key : Option OperationKey) (requestHash : String) :
    Keeps f (g.staleFallback now cacheKey key requestHash) := by
  intro s
  unfold staleFallback
  simp only [EStateM.run_bind, EStateM.run_get]
  cases s.cache.get? cacheKey with
  | none => rfl
  | some cached =>
    dsimp only
    split
    · rfl
    · exact g.storeIfKeyed_keeps hf ..

theorem idempotencyLock_keeps
    (hf : ∀ s table locks, f { s with idempotencyLocks := table, locks := locks } = f s) (key : OperationKey) :
    Keeps f (idempotencyLock key) := by
  intro s
  unfold idempotencyLock
  simp only [EStateM.run_bind, EStateM.run_get]
  cases s.idempotencyLocks key with
  | some lock => rfl
  | none => exact hf s _ _

theorem recordSuccess_keeps (hf : ∀ s circuits, f { s with circuits := circuits } = f s) (providerId : String) :
    Keeps f (recordSuccess providerId) := .modify fun s => hf s _

theorem recordFailure_keeps (hf : ∀ s circuits, f { s with circuits := circuits } = f s) (clock : ℚ)
    (providerId : String) (kind : ErrorKind) : Keeps f (g.recordFailure clock providerId kind) :=
  .modify fun s => hf s _

theorem releaseHalfOpen_keeps (hf : ∀ s circuits, f { s with circuits := circuits } = f s) (providerId : String) :
    Keeps f (releaseHalfOpen providerId) := .modify fun s => hf s _

end

end RoutePilot.Provider.GatewayConfig
