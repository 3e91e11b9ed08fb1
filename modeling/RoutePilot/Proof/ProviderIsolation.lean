/-
  Where the results of the gateway come from.

  A result is handed on through the cache and through the idempotency entries.
  The state keeps with every entry a call that it was obtained for (`Kept`), so
  whatever a call returns was obtained for itself, for a call of its tenant, or
  for a public one (`results_stay_with_tenant`).
-/
import Mathlib.Data.String.Basic
import Mathlib.Tactic.Common
import RoutePilot.Lib.Delimited
import RoutePilot.Provider.Play
import RoutePilot.Provider.Specs

namespace RoutePilot.Provider

open Lib Lib.Lts

namespace ProviderGateway
variable (g : ProviderGateway)

/-- The key of a call in the cache. -/
def Call.cacheKey (c : Call) : Option String := Provider.cacheKey c.capability (c.hash g) c.context

/-- A result that the gateway accepts for a call: of a registered and allowed provider, and checked. -/
def Accepts (c : Call) (result : ProviderResult) : Prop :=
  ∃ provider ∈ g.providers, provider.providerId ∈ g.allowlist ∧ c.capability ∈ provider.capabilities ∧
    provider.configured = true ∧ result.capability = c.capability ∧ g.valid result = true ∧
    result.provenance.providerId = provider.providerId ∧ result.provenance.providerVersion = provider.apiVersion ∧
    result.provenance.capability = c.capability

/-! ## The state -/

variable (Raw : Call → ProviderResult → Prop)

/-- What a provider answered to a call, and was accepted. -/
def Obtained (c : Call) (result : ProviderResult) : Prop := Raw c result ∧ g.Accepts c result

/-- A result that was obtained for a call, or for another with its key in the cache; it may be marked as stale. -/
def Served (c : Call) (result : ProviderResult) : Prop :=
  ∃ c₀ result₀, (c₀ = c ∨ ∃ key, c₀.cacheKey g = some key ∧ c.cacheKey g = some key) ∧ g.Obtained Raw c₀ result₀ ∧
    (result = result₀ ∨ result = result₀.stale)

/-- Such a result for a call, or for another that repeats it. -/
def Sourced (c : Call) (result : ProviderResult) : Prop :=
  ∃ c₁, (c₁ = c ∨ ∃ key, c₁.key = some key ∧ c.key = some key ∧ c₁.hash g = c.hash g) ∧ g.Served Raw c₁ result

/-- Every entry has a call that its result was obtained for. -/
structure Kept (s : GatewayState) : Prop where
  cache : ∀ key entry, s.cache.get? key = some entry → ∃ c, c.cacheKey g = some key ∧ g.Obtained Raw c entry.result
  idempotency : ∀ key entry, s.idempotency.get? key = some entry →
    ∃ c, c.key = some key ∧ c.hash g = entry.requestHash ∧ g.Served Raw c entry.result

variable {g Raw}

@[simp] theorem stale_stale (result : ProviderResult) : result.stale.stale = result.stale := rfl

theorem Served.stale {c : Call} {result : ProviderResult} (h : g.Served Raw c result) :
    g.Served Raw c result.stale := by
  obtain ⟨c₀, result₀, hc, hobtained, rfl | rfl⟩ := h
  · exact ⟨c₀, _, hc, hobtained, .inr rfl⟩
  · exact ⟨c₀, result₀, hc, hobtained, .inr rfl⟩

theorem Served.withCurrentFreshness {c : Call} {result : ProviderResult} (h : g.Served Raw c result) (wall : Time) :
    g.Served Raw c (withCurrentFreshness wall result) := by
  unfold Provider.withCurrentFreshness
  split
  · exact h.stale
  · exact h

theorem Obtained.served {c c₀ : Call} {key : String} {result : ProviderResult} (h : g.Obtained Raw c₀ result)
    (hc₀ : c₀.cacheKey g = some key) (hc : c.cacheKey g = some key) : g.Served Raw c result :=
  ⟨c₀, result, .inr ⟨key, hc₀, hc⟩, h, .inl rfl⟩

theorem Served.sourced {c : Call} {result : ProviderResult} (h : g.Served Raw c result) : g.Sourced Raw c result :=
  ⟨c, .inl rfl, h⟩

section
variable {s : GatewayState} {now : ℚ} {c : Call} {result : ProviderResult}

theorem Kept.prune (h : g.Kept Raw s) (locked : ℕ → Bool) : g.Kept Raw (g.pruneState locked now s) where
  cache key entry he := by
    rw [GatewayConfig.pruneState, Dict.get?_filterValues, Option.filter_eq_some_iff] at he
    exact h.cache key entry he.1
  idempotency key entry he := by
    rw [GatewayConfig.pruneState, Dict.get?_filterValues, Option.filter_eq_some_iff] at he
    exact h.idempotency key entry he.1

/-- An entry is written for a call, in the place of the earliest or of none. -/
theorem Kept.storeIfKeyed (h : g.Kept Raw s) (hresult : g.Served Raw c result) :
    g.Kept Raw (g.storeIfKeyed c.key (c.hash g) result now s) := by
  cases hkey : c.key with
  | none => exact h
  | some key =>
    refine ⟨h.cache, fun key' entry he => ?_⟩
    rw [GatewayConfig.storeIfKeyed, GatewayConfig.storeIdempotency, Dict.get?_set] at he
    split at he
    · next heq =>
      cases he
      exact ⟨c, by rw [hkey, heq], rfl, hresult⟩
    · refine h.idempotency key' entry ?_
      split at he
      · split at he
        · rw [Dict.get?_pop] at he
          split at he
          · cases he
          · exact he
        · exact he
      · exact he

theorem Kept.remember (h : g.Kept Raw s) (hresult : g.Obtained Raw c result) (ttl : ℚ) :
    g.Kept Raw (g.remember (c.cacheKey g) c.capability result now ttl s) := by
  cases hkey : c.cacheKey g with
  | none => exact h
  | some key =>
    unfold GatewayConfig.remember
    dsimp only
    split
    · refine ⟨fun key' entry he => ?_, h.idempotency⟩
      rw [Dict.get?_set] at he
      split at he
      · next heq =>
        cases he
        exact ⟨c, by rw [hkey, heq], hresult⟩
      · refine h.cache key' entry ?_
        split at he
        · split at he
          · rw [Dict.get?_pop] at he
            split at he
            · cases he
            · exact he
          · exact he
        · exact he
    · exact h

theorem Kept.of_keeps {α : Type} {x : GatewayM α} (h : g.Kept Raw s)
    (hx : Keeps (fun s => (s.cache, s.idempotency)) x) :
    g.Kept Raw (final (x.run s)) := by
  have hs := hx s
  have hcache : (final (x.run s)).cache = s.cache := congrArg Prod.fst hs
  have hidempotency : (final (x.run s)).idempotency = s.idempotency := congrArg Prod.snd hs
  exact ⟨by rw [hcache]; exact h.cache, by rw [hidempotency]; exact h.idempotency⟩

theorem Kept.beforeCall (h : g.Kept Raw s) (providerId tenantId : String) (cost : ℕ) :
    g.Kept Raw (final ((g.beforeCall now providerId tenantId cost).run s)) := by
  obtain ⟨-, hrun⟩ | ⟨e, hrun | hrun⟩ := g.beforeCall_cases now providerId tenantId cost s <;> rw [hrun]
  · exact ⟨h.cache, h.idempotency⟩
  · exact h
  · exact ⟨h.cache, h.idempotency⟩

end

/-! ## Operations -/

variable (g Raw)

/-- What a call awaits. -/
def Asks (c : Call) : GatewayOp → Prop
  | .enter _ (.lookup key requestHash cacheKey) => key = c.key ∧ requestHash = c.hash g ∧ cacheKey = c.cacheKey g
  | .enter _ (.rememberSuccess capability cacheKey key requestHash result) =>
    capability = c.capability ∧ cacheKey = c.cacheKey g ∧ key = c.key ∧ requestHash = c.hash g ∧ g.Obtained Raw c result
  | .enter _ (.staleFallback cacheKey key requestHash) =>
    some cacheKey = c.cacheKey g ∧ key = c.key ∧ requestHash = c.hash g
  | .returns result => g.Sourced Raw c result
  | _ => True

/-- What it is answered. -/
def Gets (c : Call) : (o : GatewayOp) → Except GatewayError o.Ans → Prop
  | .outcome .., .ok (some result) => Raw c result
  | .enter _ (.lookup ..), .ok (some result) | .enter _ (.staleFallback ..), .ok (some result) => g.Sourced Raw c result
  | _, _ => True

variable {g Raw}

variable {s : GatewayState} {now : ℚ} {c : Call}

theorem Kept.lookup (h : g.Kept Raw s) (locked : ℕ → Bool) (wall : Time) (ticket : ℕ) :
    g.Kept Raw (final ((g.lookup locked now wall c.key (c.hash g) (c.cacheKey g)).run s)) ∧
      g.Gets Raw c (.enter ticket (.lookup c.key (c.hash g) (c.cacheKey g)))
        (sectionOutcome ((g.lookup locked now wall c.key (c.hash g) (c.cacheKey g)).run s)) := by
  have hpruned : g.Kept Raw (g.pruneState locked now s) := h.prune locked
  unfold GatewayConfig.lookup
  simp only [EStateM.run_bind, EStateM.run_modify, EStateM.run_get]
  cases hprior : c.key.bind (g.pruneState locked now s).idempotency.get? with
  | some prior =>
    obtain ⟨key, hkey, hentry⟩ := Option.bind_eq_some_iff.1 hprior
    obtain ⟨c₁, hc₁, hhash, hserved⟩ := hpruned.idempotency key prior hentry
    by_cases hsame : prior.requestHash = c.hash g
    · simp only [ensure, hsame, if_true]
      exact ⟨hpruned, c₁, .inr ⟨key, hc₁, hkey, hhash.trans hsame⟩, hserved.withCurrentFreshness wall⟩
    · simp only [ensure, hsame, if_false]
      exact ⟨hpruned, trivial⟩
  | none =>
    cases hcached : (c.cacheKey g).bind (g.pruneState locked now s).cache.get? with
    | none => exact ⟨hpruned, trivial⟩
    | some cached =>
      obtain ⟨key, hkey, hentry⟩ := Option.bind_eq_some_iff.1 hcached
      obtain ⟨c₀, hc₀, hobtained⟩ := hpruned.cache key cached hentry
      have hserved := hobtained.served hc₀ hkey
      dsimp only
      split
      · exact ⟨hpruned.storeIfKeyed hserved, hserved.sourced⟩
      · exact ⟨hpruned, trivial⟩

theorem Kept.staleFallback (h : g.Kept Raw s) {key : String} (hkey : c.cacheKey g = some key) (ticket : ℕ) :
    g.Kept Raw (final ((g.staleFallback now key c.key (c.hash g)).run s)) ∧
      g.Gets Raw c (.enter ticket (.staleFallback key c.key (c.hash g)))
        (sectionOutcome ((g.staleFallback now key c.key (c.hash g)).run s)) := by
  unfold GatewayConfig.staleFallback
  simp only [EStateM.run_bind, EStateM.run_get]
  cases hentry : s.cache.get? key with
  | none => exact ⟨h, trivial⟩
  | some cached =>
    obtain ⟨c₀, hc₀, hobtained⟩ := h.cache key cached hentry
    have hserved := (hobtained.served hc₀ hkey).stale
    dsimp only
    split
    · exact ⟨h, trivial⟩
    · exact ⟨h.storeIfKeyed hserved, hserved.sourced⟩

/-- **Section lemma.** -/
theorem Kept.body (h : g.Kept Raw s) {sec : Section} (ticket : ℕ) (hasks : g.Asks Raw c (.enter ticket sec))
    (locked : ℕ → Bool) (clock : ℚ) (wall : Time) :
    g.Kept Raw (final ((sec.body g.toGatewayConfig locked now clock wall).run s)) ∧
      g.Gets Raw c (.enter ticket sec)
        (sectionOutcome ((sec.body g.toGatewayConfig locked now clock wall).run s)) := by
  cases sec with
  | lookup key requestHash cacheKey =>
    obtain ⟨rfl, rfl, rfl⟩ := hasks
    exact h.lookup locked wall ticket
  | staleFallback cacheKey key requestHash =>
    obtain ⟨hkey, rfl, rfl⟩ := hasks
    exact h.staleFallback hkey.symm ticket
  | rememberSuccess capability cacheKey key requestHash result =>
    obtain ⟨rfl, rfl, rfl, rfl, hobtained⟩ := hasks
    exact ⟨(h.remember hobtained _).storeIfKeyed ⟨c, result, .inl rfl, hobtained, .inl rfl⟩, trivial⟩
  | beforeCall providerId tenantId cost => exact ⟨h.beforeCall providerId tenantId cost, trivial⟩
  | idempotencyLock key => exact ⟨h.of_keeps (GatewayConfig.idempotencyLock_keeps (fun _ _ _ => rfl) key), trivial⟩
  | recordSuccess p => exact ⟨h.of_keeps (GatewayConfig.recordSuccess_keeps (fun _ _ => rfl) p), trivial⟩
  | recordFailure p kind => exact ⟨h.of_keeps (g.recordFailure_keeps (fun _ _ => rfl) clock p kind), trivial⟩
  | releaseHalfOpen p => exact ⟨h.of_keeps (GatewayConfig.releaseHalfOpen_keeps (fun _ _ => rfl) p), trivial⟩

/-- **Step lemma.** -/
theorem Kept.exec {w w' : Provider.Shared} (h : g.Kept Raw w.state) {o : GatewayOp} {r : Except GatewayError o.Ans}
    (hasks : g.Asks Raw c o) (hraw : ∀ invocation event result, (⟨o, r⟩ : Answered gw) =
      ⟨.outcome invocation event, .ok (some result)⟩ → Raw c result) (hx : o.Exec g w r w') :
    g.Kept Raw w'.state ∧ g.Gets Raw c o r := by
  cases o with
  | enter ticket sec =>
    obtain ⟨now, rest, wall, -, rfl, rfl⟩ | ⟨rfl, rfl⟩ := hx
    · exact h.body ticket hasks _ _ wall
    · -- the turn is given up
      refine ⟨h, ?_⟩
      cases sec <;> trivial
  | outcome invocation event =>
    have hstate : w'.state = w.state := by
      obtain rfl | ⟨-, -, rfl⟩ := hx <;> rfl
    refine ⟨by rw [hstate]; exact h, ?_⟩
    rcases r with e | (_ | result)
    · trivial
    · trivial
    · exact hraw invocation event result rfl
  | clock | enqueue | lockRelease _ | slotRelease _ | invoke _ _ _ _ | returns _ | sleep _ _ =>
    obtain ⟨-, rfl⟩ := hx
    exact ⟨h, trivial⟩
  | lockAcquire _ _ | slotAcquire _ _ =>
    refine ⟨?_, trivial⟩
    obtain ⟨-, -, rfl⟩ | ⟨e, -, -, rfl | rfl⟩ := hx <;> exact h

/-! ## The calls -/

/-- A coroutine of a call, with what it returns. -/
abbrev Asking {α : Type} (g : ProviderGateway) (Raw : Call → ProviderResult → Prop) (c : Call) (x : CallM α)
    (Q : α → Prop) : Prop :=
  x.Within (g.Asks Raw c) (g.Gets Raw c) Q

section
variable {α : Type} {deadline : ℚ} {provider : ProviderPort}

theorem asking_raise (kind : ErrorKind) (providerId : Option String) {Q : α → Prop} :
    Asking g Raw c (raise kind providerId) Q := trivial

theorem asking_call {o : GatewayOp} {Q : o.Ans → Prop} (hasks : g.Asks Raw c o)
    (hgets : ∀ a, g.Gets Raw c o (.ok a) → Q a) : Asking g Raw c (Co.call (E := gw) o) Q :=
  Co.Within.call hasks hgets

/-- Nothing is said of the answer. -/
theorem asking_await {o : GatewayOp} (hasks : g.Asks Raw c o) :
    Asking g Raw c (Co.call (E := gw) o) fun _ => True := asking_call hasks fun _ _ => trivial

theorem asking_clock : Asking g Raw c clock fun _ => True := asking_await (o := .clock) trivial

theorem asking_withStateLock (sec : Section) {Q : sec.Ans → Prop}
    (hasks : ∀ ticket, g.Asks Raw c (.enter ticket sec))
    (hgets : ∀ ticket a, g.Gets Raw c (.enter ticket sec) (.ok a) → Q a) :
    Asking g Raw c (withStateLock sec) Q := by
  unfold withStateLock
  refine Co.Within.bind (asking_await trivial) fun ticket _ => ?_
  exact asking_call (hasks ticket) (hgets ticket)

theorem asking_awaitWithCancel {o : GatewayOp} (hasks : g.Asks Raw c o) :
    Asking g Raw c (awaitWithCancel o deadline) fun _ => True := by
  unfold awaitWithCancel
  refine Co.Within.bind asking_clock fun now _ => ?_
  split
  · exact asking_raise _ _
  · exact asking_await hasks

theorem asking_checkCancelled (context : ProviderCallContext) : Asking g Raw c (checkCancelled context) fun _ =>
    True := by
  unfold checkCancelled
  split
  · refine Co.Within.bind Co.Within.act fun isSet _ => ?_
    split
    · exact asking_raise _ _
    · trivial
  · trivial

theorem asking_invoke : Asking g Raw c (invoke c deadline provider) (Raw c) := by
  unfold invoke
  refine Co.Within.bind (asking_awaitWithCancel (o := .slotAcquire _ _) trivial) fun _ _ => ?_
  refine Co.Within.bind (Q := fun value => ∀ result, value = some result → Raw c result)
    (Co.Within.tryFinally ?_ (asking_await trivial)) fun value hvalue => ?_
  · refine Co.Within.bind asking_clock fun now _ => ?_
    split
    · exact asking_raise _ _
    · refine Co.Within.bind (asking_await trivial) fun invocation _ => ?_
      refine asking_call trivial fun value hvalue => ?_
      rintro result rfl
      exact hvalue
  · cases value with
    | none => exact asking_raise _ _
    | some value => exact hvalue value rfl

/-- The providers that the gateway tries. -/
def Tries (g : ProviderGateway) (c : Call) (provider : ProviderPort) : Prop :=
  provider ∈ g.providers ∧ c.capability ∈ provider.capabilities ∧ provider.providerId ∈ g.allowlist

theorem asking_validateResult (hprovider : Tries g c provider) (hconfigured : provider.configured = true)
    {result : ProviderResult} (hraw : Raw c result) :
    Asking g Raw c (g.validateResult c result provider) (g.Obtained Raw c) := by
  obtain ⟨hmem, hcapability, hallowed⟩ := hprovider
  unfold validateResult
  split
  · next hvalid =>
    obtain ⟨h₁, h₂, h₃, h₄, h₅⟩ := hvalid
    exact ⟨hraw, provider, hmem, hallowed, hcapability, hconfigured, h₁, h₂, h₃, h₄, h₅⟩
  · exact asking_raise _ _

/-- What an attempt returns. -/
def Tried (g : ProviderGateway) (Raw : Call → ProviderResult → Prop) (c : Call) {ε : Type} (x : ε ⊕ ProviderResult) :
    Prop :=
  ∀ result, x = .inr result → g.Obtained Raw c result

theorem tried_inl {ε : Type} (e : ε) : Tried g Raw c (.inl e) := by
  rintro result ⟨⟩

theorem asking_attempt (hprovider : Tries g c provider) (hconfigured : provider.configured = true) :
    Asking g Raw c (g.attempt c deadline provider) (Tried g Raw c) := by
  unfold attempt
  have hlocked : ∀ sec : Section, (∀ ticket, g.Asks Raw c (.enter ticket sec)) →
      Asking g Raw c (withStateLock sec) fun _ => True :=
        fun _ hasks => asking_withStateLock _ hasks fun _ _ _ => trivial
  refine Co.Within.tryCatch ?_ fun e => ?_
  · refine Co.Within.bind (hlocked (.beforeCall _ _ _) fun _ => trivial) fun _ _ => ?_
    have hrest : Asking g Raw c (do
        let result ← invoke c deadline provider
        let result ← g.validateResult c result provider
        withStateLock (.recordSuccess provider.providerId)
        withStateLock (.rememberSuccess c.capability (c.cacheKey g) c.key (c.hash g) result)
        return (.inr result : ProviderError ⊕ ProviderResult)) (Tried g Raw c) := by
      refine Co.Within.bind asking_invoke fun result hraw => ?_
      refine Co.Within.bind (asking_validateResult hprovider hconfigured hraw) fun result hobtained => ?_
      refine Co.Within.bind (hlocked (.recordSuccess _) fun _ => trivial) fun _ _ => ?_
      refine Co.Within.bind (hlocked (.rememberSuccess _ _ _ _ _) fun _ => ⟨rfl, rfl, rfl, rfl, hobtained⟩)
        fun _ _ => ?_
      rintro _ ⟨⟩
      exact hobtained
    dsimp only
    split
    · exact Co.Within.bind (asking_raise (Q := fun _ => True) _ _) fun _ _ => hrest
    · exact hrest
  · cases e with
    | cancelledError => exact Co.Within.bind (hlocked (.releaseHalfOpen _) fun _ => trivial) fun _ _ => trivial
    | provider e =>
      dsimp only
      split
      · exact Co.Within.bind (hlocked (.releaseHalfOpen _) fun _ => trivial) fun _ _ => trivial
      · exact Co.Within.bind (hlocked (.recordFailure _ _) fun _ => trivial) fun _ _ => tried_inl e
    | exception => exact Co.Within.bind (hlocked (.recordFailure _ _) fun _ => trivial) fun _ _ => tried_inl _

theorem asking_attempts (hprovider : Tries g c provider) (hconfigured : provider.configured = true) (ns : List ℕ)
    (lastError : ProviderError) : Asking g Raw c (g.attempts c deadline provider ns lastError) (Tried g Raw c) := by
  induction ns generalizing lastError with
  | nil => exact tried_inl lastError
  | cons n rest ih =>
    unfold attempts
    refine Co.Within.bind (asking_checkCancelled c.context) fun _ _ => ?_
    refine Co.Within.bind asking_clock fun now _ => ?_
    split
    · exact asking_raise _ _
    refine Co.Within.bind (asking_attempt hprovider hconfigured) fun x hx => ?_
    rcases x with e | result
    · dsimp only
      split
      · refine Co.Within.bind Co.Within.act fun random _ => ?_
        split
        · exact Co.Within.bind (asking_awaitWithCancel (o := .sleep _ _) trivial) fun _ _ => ih e
        · exact ih e
      · exact tried_inl e
    · exact hx

theorem asking_tryProviders (providers : List ProviderPort) (hproviders : ∀ provider ∈ providers, Tries g c provider)
    (lastError : Option ProviderError) :
    Asking g Raw c (g.tryProviders c deadline providers lastError) (Tried g Raw c) := by
  induction providers generalizing lastError with
  | nil => exact tried_inl lastError
  | cons provider rest ih =>
    rw [List.forall_mem_cons] at hproviders
    unfold tryProviders
    split
    · exact ih hproviders.2 _
    · next hconfigured =>
      refine Co.Within.bind (asking_attempts hproviders.1 (by simpa using hconfigured) _ _) fun x hx => ?_
      rcases x with e | result
      · exact ih hproviders.2 _
      · rintro _ ⟨⟩
        exact hx _ rfl

theorem asking_getStaleFallback : Asking g Raw c (g.getStaleFallback c) fun found =>
    ∀ result, found = some result → g.Sourced Raw c result := by
  unfold getStaleFallback
  split
  · next key hkey =>
    split
    · rintro result ⟨⟩
    · refine asking_withStateLock (.staleFallback _ _ _) (fun ticket => ⟨hkey.symm, rfl, rfl⟩)
        fun ticket found hfound => ?_
      rintro result rfl
      exact hfound
  · rintro result ⟨⟩

theorem Obtained.sourced {result : ProviderResult} (h : g.Obtained Raw c result) : g.Sourced Raw c result :=
  Served.sourced ⟨c, result, .inl rfl, h, .inl rfl⟩

theorem asking_executeLocked : Asking g Raw c (g.executeLocked c deadline) (g.Sourced Raw c) := by
  unfold executeLocked
  refine Co.Within.bind (asking_checkCancelled c.context) fun _ _ => ?_
  refine Co.Within.bind (asking_withStateLock (.lookup _ _ _) (Q := fun found => ∀ result,
    found = some result → g.Sourced Raw c result)
    (fun _ => ⟨rfl, rfl, rfl⟩) fun ticket found hfound => ?_) fun found hfound => ?_
  · rintro result rfl
    exact hfound
  cases found with
  | some result => exact hfound result rfl
  | none =>
    dsimp only
    split
    · exact asking_raise _ _
    refine Co.Within.bind (asking_tryProviders _ (fun provider hp => ?_) none) fun x hx => ?_
    · obtain ⟨hmem, hp⟩ := List.mem_filter.1 hp
      simp only [decide_eq_true_eq] at hp
      exact ⟨hmem, hp⟩
    rcases x with (_ | lastError) | result
    · exact asking_raise _ _
    · dsimp only
      split
      · refine Co.Within.bind asking_getStaleFallback fun found hfound => ?_
        cases found with
        | none => trivial
        | some stale => exact hfound stale rfl
      · trivial
    · exact (hx result rfl).sourced

theorem asking_run : Asking g Raw c (g.run c) fun _ => True := by
  have hexecute : Asking g Raw c (g.execute c) (g.Sourced Raw c) := by
    unfold execute
    refine Co.Within.bind asking_clock fun now _ => ?_
    dsimp only
    split
    · exact asking_executeLocked
    · refine Co.Within.bind (asking_withStateLock (.idempotencyLock _) (Q := fun _ => True) (fun _ => trivial)
        fun _ _ _ => trivial) fun lock _ => ?_
      refine Co.Within.bind (asking_awaitWithCancel (o := .lockAcquire _ _) trivial) fun _ _ => ?_
      exact Co.Within.tryFinally asking_executeLocked (asking_await trivial)
  unfold run
  exact Co.Within.bind hexecute fun result hresult => asking_await (o := .returns result) hresult

end

/-! ## Requests -/

theorem sortKeys_textOrNone (text : Option String) : (textOrNone text).sortKeys = textOrNone text := by
  cases text <;> rfl

/-- Lists of values that are equal up to the order of keys only if they are the same. -/
theorem arr_inj {α : Type} {dump : α → Json} (hdump : ∀ a b, (dump a).sortKeys = (dump b).sortKeys → a = b)
    {as bs : List α} (h : (Json.arr (as.map dump)).sortKeys = (Json.arr (bs.map dump)).sortKeys) : as = bs := by
  simp only [Json.sortKeys, Json.sortItems_eq_map, List.map_map, Json.arr.injEq] at h
  exact List.map_injective_iff.2 (fun a b hab => hdump a b hab) h

theorem str_inj {s t : String} (h : (Json.str s).sortKeys = (Json.str t).sortKeys) : s = t := Json.str.inj h

theorem nat_inj {m n : ℕ} (h : (Json.int m).sortKeys = (Json.int n).sortKeys) : m = n := Int.ofNat.inj (Json.int.inj h)

theorem textOrNone_inj {text text' : Option String} (h : (textOrNone text).sortKeys = (textOrNone text').sortKeys) :
    text = text' := by
  rw [sortKeys_textOrNone, sortKeys_textOrNone] at h
  cases text <;> cases text' <;> cases h <;> rfl

theorem coordinate_inj {p q : Coordinate} (h : p.dump.sortKeys = q.dump.sortKeys) : p = q := by
  have hvalues := Json.values_eq_of_sortKeys h rfl
    (by show ["longitude", "latitude", "coordinate_system"].Nodup; decide)
  simp only [List.map_cons, List.cons.injEq] at hvalues
  obtain ⟨hlongitude, hlatitude, hsystem, -⟩ := hvalues
  have hsame : p.coordinateSystem = q.coordinateSystem := by
    have hname := str_inj hsystem
    cases hp : p.coordinateSystem <;> cases hq : q.coordinateSystem <;> rw [hp, hq] at hname <;>
      first | rfl | exact absurd hname (by decide)
  exact Coordinate.ext (Json.float.inj hlongitude) (Json.float.inj hlatitude) hsame

theorem center_inj {p q : Option Coordinate} (h : (match p with | none => Json.null | some p => p.dump).sortKeys =
    (match q with | none => Json.null | some q => q.dump).sortKeys) : p = q := by
  cases p with
  | none => cases q with
    | none => rfl
    | some q => cases h
  | some p => cases q with
    | none => cases h
    | some q => rw [coordinate_inj h]

theorem mode_inj {m n : RouteMode} (h : m.value = n.value) : m = n := by
  cases m <;> cases n <;> first | rfl | exact absurd h (by decide)

/-- **No two requests are hashed as one text.** -/
theorem dump_inj {r r' : Request} (h : r.dump.sortKeys = r'.dump.sortKeys) : r = r' := by
  have hkeys : ∀ key ∈ r.fields.map Prod.fst, key ∈ r'.fields.map Prod.fst := fun key => (Json.keys_perm h).mem_iff.1
  -- a request of another class does not have the first key
  cases r with
  | placeSearch r =>
    cases r' with
    | placeSearch r' =>
      have hvalues := Json.values_eq_of_sortKeys h rfl
        (by show ["query", "city", "center", "radius_meters", "category_codes", "limit", "page"].Nodup; decide)
      simp only [Request.fields, List.map_cons, List.cons.injEq] at hvalues
      obtain ⟨hquery, hcity, hcenter, hradius, hcodes, hlimit, hpage, -⟩ := hvalues
      exact congrArg Request.placeSearch (PlaceSearchRequest.ext (str_inj hquery) (textOrNone_inj hcity)
        (center_inj hcenter) (nat_inj hradius) (arr_inj (fun _ _ => str_inj) hcodes) (nat_inj hlimit) (nat_inj hpage))
    | _ => exact absurd (hkeys "query" (.head _)) (by simp [Request.fields])
  | geocode r =>
    cases r' with
    | geocode r' =>
      have hvalues := Json.values_eq_of_sortKeys h rfl (by show ["address", "city"].Nodup; decide)
      simp only [Request.fields, List.map_cons, List.cons.injEq] at hvalues
      obtain ⟨haddress, hcity, -⟩ := hvalues
      exact congrArg Request.geocode (GeocodeRequest.ext (str_inj haddress) (textOrNone_inj hcity))
    | _ => exact absurd (hkeys "address" (.head _)) (by simp [Request.fields])
  | routeMatrix r =>
    cases r' with
    | routeMatrix r' =>
      have hvalues := Json.values_eq_of_sortKeys h rfl (by show ["origins", "destinations", "mode"].Nodup; decide)
      simp only [Request.fields, List.map_cons, List.cons.injEq] at hvalues
      obtain ⟨horigins, hdestinations, hmode, -⟩ := hvalues
      exact congrArg Request.routeMatrix (RouteMatrixRequest.ext (arr_inj (fun _ _ => coordinate_inj) horigins)
        (arr_inj (fun _ _ => coordinate_inj) hdestinations) (mode_inj (str_inj hmode)))
    | _ => exact absurd (hkeys "origins" (.head _)) (by simp [Request.fields])
  | openingHours r =>
    cases r' with
    | openingHours r' =>
      have hvalues := Json.values_eq_of_sortKeys h rfl (by show ["provider_place_ids", "local_date"].Nodup; decide)
      simp only [Request.fields, List.map_cons, List.cons.injEq] at hvalues
      obtain ⟨hids, hdate, -⟩ := hvalues
      exact congrArg Request.openingHours
        (OpeningHoursRequest.ext (arr_inj (fun _ _ => str_inj) hids) (textOrNone_inj hdate))
    | _ => exact absurd (hkeys "provider_place_ids" (.head _)) (by simp [Request.fields])
  | weather r =>
    cases r' with
    | weather r' =>
      have hvalues := Json.values_eq_of_sortKeys h rfl
        (by show ["coordinate", "timezone", "forecast_hours"].Nodup; decide)
      simp only [Request.fields, List.map_cons, List.cons.injEq] at hvalues
      obtain ⟨hcoordinate, htimezone, hhours, -⟩ := hvalues
      exact congrArg Request.weather
        (WeatherRequest.ext (coordinate_inj hcoordinate) (str_inj htimezone) (nat_inj hhours))
    | _ => exact absurd (hkeys "coordinate" (.head _)) (by simp [Request.fields])

/-- What is documented of the libraries: no two payloads have one digest, a digest has hexadecimal digits, and no two
    floats are written alike. -/
structure Hashing (g : ProviderGateway) : Prop where
  injective : Function.Injective g.hexdigest
  no_colon : ∀ payload, ':' ∉ (g.hexdigest payload).toList
  floats : g.floatText.Readable

/-- One hash: one capability and one request. -/
theorem Hashing.requestHash_inj (hhash : g.Hashing) {capability capability' : ProviderCapability}
    {request request' : Request} (h : g.requestHash capability request = g.requestHash capability' request') :
    capability.value = capability'.value ∧ request = request' := by
  have hpayload : (requestPayload capability request).sortKeys = (requestPayload capability' request').sortKeys :=
    Json.canonicalJson_inj hhash.floats (Utf8.encode_injective (hhash.injective h))
  have hvalues := Json.values_eq_of_sortKeys hpayload rfl (by show ["capability", "request"].Nodup; decide)
  simp only [List.map_cons, List.cons.injEq] at hvalues
  exact ⟨str_inj hvalues.1, dump_inj hvalues.2.1⟩

/-! ## Keys -/

/-- What stands before the last colon, and what after it. -/
theorem colon_inj {a a' b b' : String} (hb : ':' ∉ b.toList) (hb' : ':' ∉ b'.toList)
    (h : a ++ ":" ++ b = a' ++ ":" ++ b') : a = a' ∧ b = b' := by
  have hlists : b.toList.reverse ++ ':' :: a.toList.reverse = b'.toList.reverse ++ ':' :: a'.toList.reverse := by
    have := congrArg (fun s => s.toList.reverse) h
    simpa using this
  obtain ⟨hrest, hend⟩ := token_append_inj (P := (· ≠ ':')) (fun d hd heq => hb (heq ▸ List.mem_reverse.1 hd))
    (fun d hd heq => hb' (heq ▸ List.mem_reverse.1 hd)) (by simp) (by simp) hlists
  rw [List.reverse_inj] at hrest
  rw [List.cons.injEq, List.reverse_inj] at hend
  exact ⟨String.toList_inj.1 hend.2, String.toList_inj.1 hrest⟩

theorem value_no_colon (capability : ProviderCapability) : ':' ∉ capability.value.toList := by
  cases capability <;> decide

theorem value_inj {capability capability' : ProviderCapability} (h : capability.value = capability'.value) :
    capability = capability' := by
  cases capability <;> cases capability' <;> first | rfl | exact absurd h (by decide)

/-- A key of the cache tells what was asked, and for which tenant unless the call is public. -/
theorem Call.cacheKey_inj (hhash : g.Hashing) {c c' : Call} {key : String} (hc : c.cacheKey g = some key)
    (hc' : c'.cacheKey g = some key) :
    c.capability = c'.capability ∧ c.hash g = c'.hash g ∧
      (c.context.cacheScope = .public_ ∧ c'.context.cacheScope = .public_ ∨
        c.context.tenantId = c'.context.tenantId) := by
  have hfirst : ∀ a b b' : String, ¬ ("public:" ++ a = "tenant:" ++ b ++ ":" ++ b') := by
    intro a b b' h
    have := congrArg (fun s => s.toList.head?) h
    simp at this
  rw [Call.cacheKey, Provider.cacheKey] at hc hc'
  have hcolon := fun c : Call => hhash.no_colon
    (Utf8.encode ((requestPayload c.capability c.request).canonicalJson g.floatText))
  cases hscope : c.context.cacheScope <;> cases hscope' : c'.context.cacheScope <;> rw [hscope] at hc <;>
    rw [hscope'] at hc' <;> simp only [reduceCtorEq, Option.some.injEq] at hc hc'
  case public_.public_ =>
    obtain ⟨hpublic, heq⟩ := colon_inj (hcolon _) (hcolon _) (hc.trans hc'.symm)
    have hvalue : c.capability.value = c'.capability.value := String.append_right_inj _ |>.1 hpublic
    exact ⟨value_inj hvalue, heq, .inl ⟨rfl, rfl⟩⟩
  case public_.tenant => exact absurd (colon_inj (hcolon _) (hcolon _) (hc.trans hc'.symm)).1 (hfirst _ _ _)
  case tenant.public_ => exact absurd (colon_inj (hcolon _) (hcolon _) (hc'.trans hc.symm)).1 (hfirst _ _ _)
  case tenant.tenant =>
    obtain ⟨hscoped, heq⟩ := colon_inj (hcolon _) (hcolon _) (hc.trans hc'.symm)
    obtain ⟨htenant, hvalue⟩ := colon_inj (value_no_colon _) (value_no_colon _) hscoped
    exact ⟨value_inj hvalue, heq, .inr (String.append_right_inj _ |>.1 htenant)⟩

end ProviderGateway

/-! ## The gateway -/

open ProviderGateway (Call)

/-- The call that takes a step. -/
def GatewayStep.call (e : GatewayStep) (i : ℕ) : Option Call := e.before.procs[i]?.map (·.call)

/-- In a history, a provider answered this result to a call. -/
def AnsweredIn (H : List GatewayStep) (c : Call) (result : ProviderResult) : Prop :=
  ∃ e ∈ H, ∃ i invocation event, e.label = .run i (.outcome invocation event) (.ok (some result)) ∧ e.call i = some c

/-- A call has a result by right: some call obtained it for the same request and the same tenant, or for everybody; a
    call that keeps its results to itself shares them only with those that repeat it. -/
def ByRight (g : ProviderGateway) (K : List GatewayStep) (c : Call) (result : ProviderResult) : Prop :=
  ∃ c₀ result₀, AnsweredIn K c₀ result₀ ∧ g.Accepts c₀ result₀ ∧ (result = result₀ ∨ result = result₀.stale) ∧
    c₀.capability = c.capability ∧ c₀.request = c.request ∧
    (c₀.context.tenantId = c.context.tenantId ∨ c₀.context.cacheScope = .public_) ∧
    (c₀.context.cacheScope = .disabled → c₀ = c ∨ ∃ key, c₀.key = some key ∧ c.key = some key)

variable {g : ProviderGateway}

/-- Every operation of a history is allowed to its call, as far as the providers answered what they did. -/
theorem trace_asks {H : List GatewayStep} {w : GatewayWorld} (h : (gateway g).system.Trace { shared := {} } H w) :
    ∀ e ∈ H, ∀ i o r p, e.label = .run i o r → e.before.procs[i]? = some p →
      g.Asks (AnsweredIn H) p.call o := by
  have hw : Machine.AllWithin (g.Asks (AnsweredIn H))
      (g.Gets (AnsweredIn H)) (fun s : Shared => g.Kept (AnsweredIn H) s.state)
      ({ shared := {} } : GatewayWorld) := by
    refine ⟨⟨?_, ?_⟩, ?_⟩
    · rintro key entry ⟨⟩
    · rintro key entry ⟨⟩
    · rintro p ⟨⟩
  refine fun e he i o r p hlabel hp => (Machine.AllWithin.trace (fun c => ProviderGateway.asking_run) h hw
    (fun e he i o r p hlabel hp hkept hasks hx => ?_)).2 e he i o r p hlabel hp |>.1
  obtain ⟨s₁, hdrifts, hexec⟩ := hx
  have hkept₁ : g.Kept (AnsweredIn H) s₁.state := by
    rw [hdrifts.state]
    exact hkept
  refine hkept₁.exec hasks (fun invocation event result heq => ?_) hexec
  cases heq
  exact ⟨e, he, i, invocation, event, hlabel, by rw [GatewayStep.call, hp]; rfl⟩

/-- The tenant and the capability are in the key of a call. -/
theorem key_tenant {c c' : Call} {key : OperationKey} (h : c.key = some key) (h' : c'.key = some key) :
    c.context.tenantId = c'.context.tenantId ∧ c.capability = c'.capability := by
  rw [Call.key, operationKey, Option.map_eq_some_iff] at h h'
  obtain ⟨k, -, rfl⟩ := h
  obtain ⟨k', -, heq⟩ := h'
  simp only [Prod.mk.injEq] at heq
  exact ⟨heq.1.symm, (ProviderGateway.value_inj heq.2.1).symm⟩

theorem byRight_of_sourced (hhash : g.Hashing)
    {K : List GatewayStep} {c : Call} {result : ProviderResult} (h : g.Sourced (AnsweredIn K) c result) :
    ByRight g K c result := by
  obtain ⟨c₁, hc₁, c₀, result₀, hc₀, ⟨hanswered, haccepts⟩, hresult⟩ := h
  have hrepeats : c₁.capability = c.capability ∧ c₁.request = c.request ∧ c₁.context.tenantId = c.context.tenantId := by
    rcases hc₁ with rfl | ⟨key, hkey, hkey', heq⟩
    · exact ⟨rfl, rfl, rfl⟩
    · exact ⟨(key_tenant hkey hkey').2, (hhash.requestHash_inj heq).2, (key_tenant hkey hkey').1⟩
  obtain ⟨hcapability, hsame, htenant⟩ := hrepeats
  refine ⟨c₀, result₀, hanswered, haccepts, hresult, ?_⟩
  rcases hc₀ with rfl | ⟨key, hkey, hkey'⟩
  · -- it was obtained for the call that this one repeats
    refine ⟨hcapability, hsame, .inl htenant, fun _ => ?_⟩
    rcases hc₁ with rfl | ⟨key, hkey, hkey', -⟩
    · exact .inl rfl
    · exact .inr ⟨key, hkey, hkey'⟩
  · obtain ⟨hcapability₀, hsame₀, hscope⟩ := ProviderGateway.Call.cacheKey_inj hhash hkey hkey'
    refine ⟨hcapability₀.trans hcapability, (hhash.requestHash_inj hsame₀).2.trans hsame, ?_, fun hdisabled => ?_⟩
    · rcases hscope with ⟨hpublic, -⟩ | htenant₀
      · exact .inr hpublic
      · exact .inl (htenant₀.trans htenant)
    · rw [ProviderGateway.Call.cacheKey, cacheKey, hdisabled] at hkey
      cases hkey

/-- **Results stay with their tenant.**  Whatever the gateway returns to a call, at any point of any history, a provider
    has answered before: to a call of the same tenant or to a public one, with the same request; and it was accepted
    from a provider on the allowlist.  Only its freshness may have been lowered. -/
theorem results_stay_with_tenant (hhash : g.Hashing)
    {H : List GatewayStep} {w : GatewayWorld} (h : (gateway g).system.Trace { shared := {} } H w) :
    Every (fun K e => ∀ i result r c, e.label = .run i (.returns result) r → e.call i = some c →
      ByRight g K c result) H := by
  intro n hn i result r c hlabel hcall
  obtain ⟨p, hp, rfl⟩ := Option.map_eq_some_iff.1 hcall
  have hsplit : H = H.take (n + 1) ++ H.drop (n + 1) := (List.take_append_drop _ _).symm
  rw [hsplit] at h
  obtain ⟨u, hprefix, -⟩ := h.split
  have hmem : H[n] ∈ H.take (n + 1) := by
    rw [List.take_succ_eq_append_getElem hn]
    exact List.mem_append_right _ (List.mem_singleton_self _)
  have hsourced := byRight_of_sourced hhash (trace_asks hprefix _ hmem i _ r p hlabel hp)
  obtain ⟨c₀, result₀, ⟨e, he, j, invocation, event, hanswer, hc₀⟩, hrest⟩ := hsourced
  refine ⟨c₀, result₀, ⟨e, ?_, j, invocation, event, hanswer, hc₀⟩, hrest⟩
  -- the step itself answers nothing
  rw [List.take_succ_eq_append_getElem hn, List.mem_append, List.mem_singleton] at he
  rcases he with he | rfl
  · exact he
  · rw [hlabel] at hanswer
    cases hanswer

/-- Who gets a result in a step. -/
def receiver (e : GatewayStep) : Option ℕ :=
  match e.label with
  | .run i (.returns _) _ => some i
  | _ => none

def noCandidates : ProviderResult where
  body := .candidates []
  provenance :=
    { providerId := "amap", providerVersion := "v3", capability := .geocode, observedAt := 0, validUntil := 600_000_000
      freshnessStatus := .fresh }

/-- The provider answers call 0, and call 1 gets the result from the cache. -/
def twice : List GatewayMove :=
  (.start geocodeBeijing :: List.replicate 17 (.run 0 1 (.ok (some noCandidates)))) ++
  (.start geocodeBeijing :: List.replicate 4 (.run 1 2))

theorem hexDigit_inj : ∀ m < 16, ∀ n < 16, Json.hexDigit m = Json.hexDigit n → m = n := by decide

theorem hexByte_inj {b b' : UInt8} (h : hexByte b = hexByte b') : b = b' := by
  have hb := b.toNat_lt
  have hb' := b'.toNat_lt
  simp only [hexByte, List.cons.injEq, and_true] at h
  have hhigh := hexDigit_inj _ (by omega) _ (by omega) h.1
  have hlow := hexDigit_inj _ (by omega) _ (by omega) h.2
  exact UInt8.toNat_inj.1 (by omega)

theorem amapOnly_hashing : amapOnly.Hashing where
  injective payload payload' h := by
    have hdigits := String.ofList_injective h
    induction payload generalizing payload' with
    | nil => cases payload' <;> first | rfl | cases hdigits
    | cons b payload ih =>
      cases payload' with
      | nil => cases hdigits
      | cons b' payload' =>
        rw [List.flatMap_cons, List.flatMap_cons] at hdigits
        obtain ⟨hbyte, hrest⟩ := List.append_inj hdigits rfl
        rw [hexByte_inj hbyte, ih payload' (congrArg String.ofList hrest) hrest]
  no_colon payload hcolon := by
    obtain ⟨b, -, hmem⟩ := List.mem_flatMap.1 (String.toList_ofList ▸ hcolon)
    have hdigit : ∀ n < 16, ':' ≠ Json.hexDigit n := by decide
    have hb := b.toNat_lt
    simp only [hexByte, List.mem_cons, List.not_mem_nil, or_false] at hmem
    rcases hmem with hmem | hmem
    · exact hdigit _ (by omega) hmem
    · exact hdigit _ (by omega) hmem
  floats := FloatText.fractions_readable

theorem results_stay_with_tenant_cached : ∃ H w, (gateway amapOnly).system.Trace { shared := {} } H w ∧
    H.filterMap receiver = [0, 1] ∧
    Every (fun K e => ∀ i result r c, e.label = .run i (.returns result) r → e.call i = some c →
      ByRight amapOnly K c result) H := by
  have hplay : (play amapOnly twice { shared := {} }).map (fun x => x.1.filterMap receiver) = some [0, 1] := by
    decide +kernel
  obtain ⟨⟨H, w⟩, hrun, hreceivers⟩ := Option.map_eq_some_iff.1 hplay
  exact ⟨H, w, play_trace _ hrun, hreceivers, results_stay_with_tenant amapOnly_hashing (play_trace _ hrun)⟩

/-! ## Room -/

/-- The tables are within their bounds. -/
structure Bounded (g : ProviderGateway) (s : GatewayState) : Prop where
  cache : s.cache.entries.length ≤ g.policy.maxCacheEntries
  idempotency : s.idempotency.entries.length ≤ g.policy.maxIdempotencyEntries

section
variable {s : GatewayState} {now : ℚ}

theorem Bounded.prune (h : Bounded g s) (locked : ℕ → Bool) : Bounded g (g.pruneState locked now s) where
  cache := (List.length_filter_le _ _).trans h.cache
  idempotency := (List.length_filter_le _ _).trans h.idempotency

theorem Bounded.storeIfKeyed (h : Bounded g s) (key : Option OperationKey) (requestHash : String)
    (result : ProviderResult) : Bounded g (g.storeIfKeyed key requestHash result now s) := by
  cases key with
  | none => exact h
  | some key =>
    refine ⟨h.cache, (Dict.length_set_le _ _ _).trans (Nat.succ_le_of_lt ?_)⟩
    split
    · split
      · next hleast => exact GatewayConfig.evicted_lt hleast h.idempotency
      · next hnone => exact GatewayConfig.length_lt_of_argmin_eq_none hnone g.policy.idempotency_le.1
    · next hroom => exact Nat.lt_of_not_le hroom

theorem Bounded.remember (h : Bounded g s) (cacheKey : Option String) (capability : ProviderCapability)
    (result : ProviderResult) (ttl : ℚ) : Bounded g (g.remember cacheKey capability result now ttl s) := by
  cases cacheKey with
  | none => exact h
  | some cacheKey =>
    unfold GatewayConfig.remember
    dsimp only
    split
    · refine ⟨(Dict.length_set_le _ _ _).trans (Nat.succ_le_of_lt ?_), h.idempotency⟩
      split
      · split
        · next hleast => exact GatewayConfig.evicted_lt hleast h.cache
        · next hnone => exact GatewayConfig.length_lt_of_argmin_eq_none hnone g.policy.cache_le.1
      · next hroom => exact Nat.lt_of_not_le hroom
    · exact h

theorem Bounded.of_keeps {α : Type} {x : GatewayM α} (h : Bounded g s)
    (hx : Keeps (fun s => (s.cache, s.idempotency)) x) :
    Bounded g (final (x.run s)) := by
  have hs := hx s
  have hcache : (final (x.run s)).cache = s.cache := congrArg Prod.fst hs
  have hidempotency : (final (x.run s)).idempotency = s.idempotency := congrArg Prod.snd hs
  exact ⟨by rw [hcache]; exact h.cache, by rw [hidempotency]; exact h.idempotency⟩

theorem Bounded.lookup (h : Bounded g s) (locked : ℕ → Bool) (wall : Time) (key : Option OperationKey)
    (requestHash : String) (cacheKey : Option String) :
    Bounded g (final ((g.lookup locked now wall key requestHash cacheKey).run s)) := by
  have hpruned : Bounded g (g.pruneState locked now s) := h.prune locked
  unfold GatewayConfig.lookup
  simp only [EStateM.run_bind, EStateM.run_modify, EStateM.run_get]
  cases key.bind (g.pruneState locked now s).idempotency.get? with
  | some prior =>
    dsimp only
    by_cases hsame : prior.requestHash = requestHash
    · simp only [ensure, hsame, if_true]
      exact hpruned
    · simp only [ensure, hsame, if_false]
      exact hpruned
  | none =>
    cases cacheKey.bind (g.pruneState locked now s).cache.get? with
    | none => exact hpruned
    | some cached =>
      dsimp only
      split
      · exact hpruned.storeIfKeyed ..
      · exact hpruned

theorem Bounded.staleFallback (h : Bounded g s) (cacheKey : String) (key : Option OperationKey) (requestHash : String) :
    Bounded g (final ((g.staleFallback now cacheKey key requestHash).run s)) := by
  unfold GatewayConfig.staleFallback
  simp only [EStateM.run_bind, EStateM.run_get]
  cases s.cache.get? cacheKey with
  | none => exact h
  | some cached =>
    dsimp only
    split
    · exact h
    · exact h.storeIfKeyed ..

/-- **Section lemma.** -/
theorem Bounded.body (h : Bounded g s) (sec : Section) (locked : ℕ → Bool) (clock : ℚ) (wall : Time) :
    Bounded g (final ((sec.body g.toGatewayConfig locked now clock wall).run s)) := by
  cases sec with
  | lookup key requestHash cacheKey => exact h.lookup locked wall key requestHash cacheKey
  | staleFallback cacheKey key requestHash => exact h.staleFallback cacheKey key requestHash
  | rememberSuccess capability cacheKey key requestHash result =>
    exact (h.remember cacheKey capability result _).storeIfKeyed key requestHash result
  | beforeCall providerId tenantId cost =>
    obtain ⟨-, hrun⟩ | ⟨e, hrun | hrun⟩ := g.beforeCall_cases now providerId tenantId cost s <;>
      exact (congrArg (fun x => Bounded g (final x)) hrun).mpr ⟨h.cache, h.idempotency⟩
  | idempotencyLock key => exact h.of_keeps (GatewayConfig.idempotencyLock_keeps (fun _ _ _ => rfl) key)
  | recordSuccess p => exact h.of_keeps (GatewayConfig.recordSuccess_keeps (fun _ _ => rfl) p)
  | recordFailure p kind => exact h.of_keeps (g.recordFailure_keeps (fun _ _ => rfl) clock p kind)
  | releaseHalfOpen p => exact h.of_keeps (GatewayConfig.releaseHalfOpen_keeps (fun _ _ => rfl) p)

end

/-- **Step lemma.** -/
theorem Bounded.exec {w w' : Shared} (h : Bounded g w.state) {o : GatewayOp} {r : Except GatewayError o.Ans}
    (hx : o.Exec g w r w') : Bounded g w'.state := by
  cases o with
  | enter ticket sec =>
    obtain ⟨now, rest, wall, -, rfl, rfl⟩ | ⟨rfl, rfl⟩ := hx
    · exact h.body sec _ _ wall
    · exact h
  | clock | enqueue | lockRelease _ | slotRelease _ | invoke _ _ _ _ | returns _ | sleep _ _ =>
    obtain ⟨-, rfl⟩ := hx
    exact h
  | lockAcquire _ _ | slotAcquire _ _ => obtain ⟨-, -, rfl⟩ | ⟨e, -, -, rfl | rfl⟩ := hx <;> exact h
  | outcome _ _ => obtain rfl | ⟨-, -, rfl⟩ := hx <;> exact h

/-- **The tables of the gateway are bounded.**  However many calls run next to each other, the cache and the idempotency
    entries stay within what the policy grants them. -/
theorem tables_bounded {w : GatewayWorld} (h : (gateway g).system.Reach anyStep w) : Bounded g w.shared.state := by
  refine h.invariant (I := fun w => Bounded g w.shared.state) ?_ fun w l w' _ hw _ hs => ?_
  · rintro w rfl
    exact ⟨Nat.zero_le _, Nat.zero_le _⟩
  · cases hs with
    | start => exact hw
    | run i p o k r s' y _ _ hexec _ =>
      obtain ⟨s₁, hdrifts, hx⟩ := hexec
      refine Bounded.exec ?_ hx
      rw [hdrifts.state]
      exact hw

/-- A gateway that caches one result. -/
def oneEntry : ProviderGateway :=
  { amapOnly with policy := { strict with maxCacheEntries := 1, cache_le := by decide } }

def geocodeShanghai : Call :=
  { geocodeBeijing with request := .geocode { address := "Shanghai", address_length := by decide } }

/-- The provider answers two calls, and the result of the second takes the place of the first. -/
def bothCities : List GatewayMove :=
  (.start geocodeBeijing :: List.replicate 17 (.run 0 1 (.ok (some noCandidates)))) ++
  (.start geocodeShanghai :: List.replicate 17 (.run 1 2 (.ok (some noCandidates))))

theorem tables_bounded_evicting : ∃ w, (gateway oneEntry).system.Reach anyStep w ∧
    w.shared.state.cache.entries.map (·.1) = (geocodeShanghai.cacheKey oneEntry).toList ∧
      Bounded oneEntry w.shared.state := by
  have hplay : (play oneEntry bothCities { shared := {} }).map
      (fun x => (x.1.filterMap receiver, x.2.shared.state.cache.entries.map (·.1))) =
      some ([0, 1], (geocodeShanghai.cacheKey oneEntry).toList) := by
    decide +kernel
  obtain ⟨⟨H, w⟩, hrun, heq⟩ := Option.map_eq_some_iff.1 hplay
  have hreach : (gateway oneEntry).system.Reach anyStep w := (play_trace _ hrun).reach (.init rfl)
  exact ⟨w, hreach, congrArg Prod.snd heq, tables_bounded hreach⟩

end RoutePilot.Provider
