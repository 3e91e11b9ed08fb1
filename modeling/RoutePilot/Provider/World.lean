/-
  Gateway calls next to each other, and what is watched of their runs.

  The state lock is a queue of turns, each with the clock reading of the call
  that takes it.  Between two operations the clock goes on, an acquire that its
  call gave up may still get its lock, and an invocation that nobody awaits any
  more may end.

  Everything that is watched is read off the history: what is charged under a
  key, and for a provider when its circuit last opened and which calls that were
  admitted since are still in flight.
-/
import RoutePilot.Lib.History
import RoutePilot.Lib.Procs
import RoutePilot.Provider.Execute

namespace RoutePilot.Provider

open Lib Lib.Lts

/-- A turn at the state lock. -/
structure Turn where
  ticket : ℕ
  now : ℚ
  deriving DecidableEq, Repr

/-- A running invocation of a provider. -/
structure Invocation where
  id : ℕ
  key : Option OperationKey
  /-- the call that started it was canceled, and it was not -/
  abandoned : Bool := false
  deriving DecidableEq, Repr

structure Shared where
  clock : ℚ := 0
  state : GatewayState := {}
  queue : List Turn := []
  tickets : ℕ := 0
  locked : ℕ → Bool := fun _ => false
  /-- acquires that go on although their calls have gone -/
  adrift : List ℕ := []
  slots : String → ℕ := fun _ => 0
  running : List Invocation := []
  invocations : ℕ := 0

/-- What may happen between two operations. -/
structure Shared.Drifts (s s' : Shared) : Prop where
  clock : s.clock ≤ s'.clock
  state : s'.state = s.state
  queue : s'.queue = s.queue
  tickets : s'.tickets = s.tickets
  locked : ∀ lock, s'.locked lock = s.locked lock ∨ s.locked lock = false ∧ lock ∈ s.adrift ∧ s'.locked lock = true
  adrift : s'.adrift = s.adrift
  slots : s'.slots = s.slots
  running : ∃ ended : Invocation → Bool, s'.running = s.running.filter fun v => ¬ (v.abandoned ∧ ended v)
  invocations : s'.invocations = s.invocations

theorem Shared.Drifts.refl (s : Shared) : s.Drifts s where
  clock := le_rfl
  state := rfl
  queue := rfl
  tickets := rfl
  locked _ := .inl rfl
  adrift := rfl
  slots := rfl
  running := ⟨fun _ => false, by simp⟩
  invocations := rfl

/-- How an await that is canceled ends: by its deadline, by the event, or with its task. -/
def Interrupted (event : Bool) (e : GatewayError) : Prop :=
  e = .provider ⟨.timeout, none⟩ ∨ e = .provider ⟨.cancelled, none⟩ ∧ event = true ∨ e = .cancelledError

/-- The outcome of the code of a section. -/
def sectionOutcome {α : Type} : EStateM.Result ProviderError GatewayState α → Except GatewayError α
  | .ok a _ => .ok a
  | .error e _ => .error (.provider e)

variable (g : ProviderGateway)

/-- What an operation answers and leaves behind. -/
def GatewayOp.Exec (s : Shared) : (o : GatewayOp) → Except GatewayError o.Ans → Shared → Prop
  | .clock, r, s' => r = .ok s.clock ∧ s' = s
  | .enqueue, r, s' => r = .ok s.tickets ∧
    s' = { s with queue := s.queue ++ [⟨s.tickets, s.clock⟩], tickets := s.tickets + 1 }
  | .enter ticket sec, r, s' =>
    (∃ now rest wall, s.queue = ⟨ticket, now⟩ :: rest ∧
      r = sectionOutcome ((sec.body g.toGatewayConfig s.locked now s.clock wall).run s.state) ∧
      s' = { s with
        queue := rest
        state := final ((sec.body g.toGatewayConfig s.locked now s.clock wall).run s.state) }) ∨
    r = .error .cancelledError ∧ s' = { s with queue := s.queue.filter fun turn => turn.ticket ≠ ticket }
  | .lockAcquire lock event, r, s' =>
    (s.locked lock = false ∧ r = .ok () ∧ s' = { s with locked := Function.update s.locked lock true }) ∨
    ∃ e, Interrupted event e ∧ r = .error e ∧ (s' = s ∨ s' = { s with adrift := lock :: s.adrift })
  | .lockRelease lock, r, s' => r = .ok () ∧ s' = { s with locked := Function.update s.locked lock false }
  | .slotAcquire providerId event, r, s' =>
    (r = .ok () ∧ s.slots providerId < g.policy.maxConcurrencyPerProvider ∧
      s' = { s with slots := Function.update s.slots providerId (s.slots providerId + 1) }) ∨
    ∃ e, Interrupted event e ∧ r = .error e ∧
      (s' = s ∨ s' = { s with slots := Function.update s.slots providerId (s.slots providerId + 1) })
  | .slotRelease providerId, r, s' => r = .ok () ∧
    s' = { s with slots := Function.update s.slots providerId (s.slots providerId - 1) }
  | .invoke _ capability _ context, r, s' => r = .ok s.invocations ∧
    s' = { s with
      running := ⟨s.invocations, operationKey capability context, false⟩ :: s.running
      invocations := s.invocations + 1 }
  | .outcome id event, r, s' =>
    s' = { s with running := s.running.filter fun v => v.id ≠ id } ∨
    -- the event is awaited with the invocation, so that the cancellation does not reach it
    event = true ∧ r = .error .cancelledError ∧
      s' = { s with running := s.running.map fun v => if v.id = id then { v with abandoned := true } else v }
  | .sleep _ event, r, s' => (r = .ok () ∨ ∃ e, Interrupted event e ∧ r = .error e) ∧ s' = s
  | .returns _, r, s' => r = .ok () ∧ s' = s

/-- The calls of a gateway. -/
def gateway : Machine gw ProviderGateway.Call Shared where
  init := {}
  body := g.run
  ready _ _ := True
  exec o s r s' := ∃ s₁, s.Drifts s₁ ∧ o.Exec g s₁ r s'
  acts _ _ := True

abbrev GatewayWorld := Machine.World gw ProviderGateway.Call Shared

/-! ## The history -/

/-- A step of the gateway. -/
abbrev GatewayStep := Taken GatewayWorld (Machine.Label gw ProviderGateway.Call)

/-! ## Charges -/

/-- What an operation charges to a provider and a tenant: an admitted attempt charges its cost, at the time
    of its turn. -/
def chargeOf (key : String × String) (queue : List Turn) : (o : GatewayOp) → Except GatewayError o.Ans → List ℚ
  | .enter _ (.beforeCall providerId tenantId cost), .ok _ =>
    if (providerId, tenantId) = key then queue.head?.toList.flatMap fun turn => List.replicate cost turn.now else []
  | _, _ => []

/-- What a step charges. -/
def charged (key : String × String) (e : GatewayStep) : List ℚ :=
  match e.label with
  | .start _ => []
  | .run _ o r => chargeOf key e.before.shared.queue o r

/-- The times of what was charged, once for each unit. -/
def charges (key : String × String) (H : List GatewayStep) : List ℚ := H.flatMap (charged key)

/-! ## Circuits -/

/-- What is known of a provider: when its circuit last opened, if no success has closed it since, and the
    calls that were admitted after it opened and are in flight. -/
structure Watch where
  openedAt : Option ℚ := none
  probes : List ℕ := []
  deriving DecidableEq, Repr

variable (g : ProviderGateway) (providerId : String)

namespace Watch

/-- Call `i` does something to the circuit, at the time `clock`; `failures` have been counted. -/
def see (i : ℕ) (failures : ℕ) (clock : ℚ) (watch : Watch) : (o : GatewayOp) → Except GatewayError o.Ans → Watch
  | .enter _ (.beforeCall p _ _), .ok _ =>
    if p = providerId ∧ watch.openedAt.isSome then { watch with probes := i :: watch.probes } else watch
  | .enter _ (.recordSuccess p), .ok _ => if p = providerId then {} else watch
  | .enter _ (.releaseHalfOpen p), .ok _ =>
    if p = providerId then { watch with probes := watch.probes.filter (· ≠ i) } else watch
  | .enter _ (.recordFailure p kind), .ok _ =>
    if p = providerId then
      let probes := watch.probes.filter (· ≠ i)
      if kind.countsTowardCircuit ∧ g.policy.circuitFailureThreshold ≤ failures + 1 then ⟨some clock, probes⟩
      else { watch with probes }
    else watch
  | _, _ => watch

/-- The calls that are over are not in flight. -/
def forget (w : GatewayWorld) (watch : Watch) : Watch :=
  { watch with probes := watch.probes.filter fun i => w.procs[i]?.any fun p => ¬ p.code.isDone }

/-- A step is seen. -/
def next (watch : Watch) (e : GatewayStep) : Watch :=
  match e.label with
  | .start _ => watch
  | .run i o r =>
    (watch.see g providerId i (e.before.shared.state.circuits providerId).failures e.after.shared.clock o r).forget
      e.after

end Watch

/-- What was seen in a history. -/
def watch (H : List GatewayStep) : Watch := H.foldl (Watch.next g providerId) {}

/-- The step admits an attempt with the provider. -/
def GatewayStep.Admits (e : GatewayStep) : Prop :=
  match e.label with
  | .run _ (.enter _ (.beforeCall p _ _)) (.ok _) => p = providerId
  | _ => False

/-- **A half-open circuit admits one probe.**  After the circuit of the provider opened and until a success
    closes it, at most one call that was admitted since is in flight, and none is admitted before the
    circuit has been open for its time. -/
structure OneProbe (H : List GatewayStep) : Prop where
  single : (watch g providerId H).probes.length ≤ 1
  spaced : Every (fun K e => GatewayStep.Admits providerId e → ∀ openedAt ∈ (watch g providerId K).openedAt,
    g.policy.circuitOpenSeconds ≤ Binary64.sub e.after.shared.clock openedAt) H

/-- The call that records an outcome that does not close the circuit. -/
def recorder (e : GatewayStep) : Option ℕ :=
  match e.label with
  | .run i (.enter _ (.recordFailure p _)) (.ok _) | .run i (.enter _ (.releaseHalfOpen p)) (.ok _) =>
    if p = providerId then some i else none
  | _ => none

/-- While a probe is in flight, nobody else records an outcome that leaves the circuit open. -/
def Undisturbed (H : List GatewayStep) : Prop :=
  Every (fun K e => ∀ j ∈ (watch g providerId K).probes, ∀ i ∈ recorder providerId e, i = j) H

instance (H : List GatewayStep) : Decidable (Undisturbed g providerId H) :=
  inferInstanceAs (Decidable (Every (fun K e => ∀ j ∈ (watch g providerId K).probes, ∀ i ∈ recorder providerId e,
    i = j) H))

end RoutePilot.Provider
