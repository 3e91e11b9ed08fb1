/-
  Runs of the gateway that can be computed.

  A move starts a call, or lets one call get its answer at a time: its turn, a
  free lock or slot, or the outcome given for its invocation.
-/
import RoutePilot.Provider.World

namespace RoutePilot.Provider

open Lib Lib.Lts

inductive GatewayMove where
  | start (c : ProviderGateway.Call)
  | run (i : ℕ) (clock : ℚ) (outcome : Except GatewayError (Option ProviderResult) := .ok none)

variable (g : ProviderGateway)

/-- The answer of an operation that can go on. -/
def Shared.answer (s : Shared) (outcome : Except GatewayError (Option ProviderResult)) :
    (o : GatewayOp) → Option (Except GatewayError o.Ans × Shared)
  | .clock => some (.ok s.clock, s)
  | .enqueue =>
    some (.ok s.tickets, { s with queue := s.queue ++ [⟨s.tickets, s.clock⟩], tickets := s.tickets + 1 })
  | .enter ticket sec =>
    match s.queue with
    | [] => none
    | turn :: rest =>
      if turn.ticket = ticket then
        let x := (sec.body g.toGatewayConfig s.locked turn.now s.clock 0).run s.state
        some (sectionOutcome x, { s with queue := rest, state := final x })
      else none
  | .lockAcquire lock _ =>
    if s.locked lock then none else some (.ok (), { s with locked := Function.update s.locked lock true })
  | .lockRelease lock => some (.ok (), { s with locked := Function.update s.locked lock false })
  | .slotAcquire providerId _ =>
    if s.slots providerId < g.policy.maxConcurrencyPerProvider then
      some (.ok (), { s with slots := Function.update s.slots providerId (s.slots providerId + 1) })
    else none
  | .slotRelease providerId =>
    some (.ok (), { s with slots := Function.update s.slots providerId (s.slots providerId - 1) })
  | .invoke _ capability _ context =>
    some (.ok s.invocations, { s with
      running := ⟨s.invocations, operationKey capability context, false⟩ :: s.running
      invocations := s.invocations + 1 })
  | .outcome id _ => some (outcome, { s with running := s.running.filter fun v => v.id ≠ id })
  | .sleep _ _ => some (.ok (), s)
  | .returns _ => some (.ok (), s)

theorem answer_exec {s s' : Shared} {outcome : Except GatewayError (Option ProviderResult)} {o : GatewayOp}
    {r : Except GatewayError o.Ans} (h : s.answer g outcome o = some (r, s')) : o.Exec g s r s' := by
  cases o with
  | clock | enqueue | lockRelease _ | slotRelease _ | invoke _ _ _ _ | returns _ =>
    cases h
    exact ⟨rfl, rfl⟩
  | sleep _ _ =>
    cases h
    exact ⟨.inl rfl, rfl⟩
  | outcome id _ =>
    cases h
    exact .inl rfl
  | enter ticket sec =>
    simp only [Shared.answer] at h
    split at h
    · cases h
    · next turn rest hqueue =>
      split at h
      · next hturn =>
        cases h
        exact .inl ⟨turn.now, rest, 0, by rw [hqueue, ← hturn], rfl, rfl⟩
      · cases h
  | lockAcquire lock _ =>
    simp only [Shared.answer] at h
    split at h
    · cases h
    · next hfree =>
      cases h
      exact .inl ⟨by simpa using hfree, rfl, rfl⟩
  | slotAcquire providerId _ =>
    simp only [Shared.answer] at h
    split at h
    · next hfree =>
      cases h
      exact .inl ⟨rfl, hfree, rfl⟩
    · cases h

/-- No event is set, and the random numbers are zero. -/
def quiet : (n : GatewayAct) → gw.Res n
  | .isSet => false
  | .random => (0 : ℚ)

/-- A move, with the label of its step. -/
def GatewayMove.play (w : GatewayWorld) : GatewayMove → Option (Machine.Label gw ProviderGateway.Call × GatewayWorld)
  | start c =>
    some (.start c, { w with procs := w.procs ++ [{ call := c, code := Machine.settle quiet (g.run c) }] })
  | run i clock outcome =>
    match w.procs[i]? with
    | some ⟨c, log, .await o k⟩ =>
      if w.shared.clock ≤ clock then
        (({ w.shared with clock := clock } : Shared).answer g outcome o).map fun x =>
          (.run i o x.1,
            { shared := x.2
              procs := w.procs.set i { call := c, log := ⟨o, x.1⟩ :: log, code := Machine.settle quiet (k x.1) } })
      else none
    | _ => none

theorem play_step {w w' : GatewayWorld} {m : GatewayMove} {l : Machine.Label gw ProviderGateway.Call}
    (h : m.play g w = some (l, w')) : (gateway g).Step w l w' := by
  cases m with
  | start c =>
    cases h
    exact .start c _ trivial (Machine.burst_settle (fun _ => trivial) _)
  | run i clock outcome =>
    simp only [GatewayMove.play] at h
    split at h
    · next c log o k hp =>
      split at h
      · next hclock =>
        obtain ⟨⟨r, s'⟩, hanswer, heq⟩ := Option.map_eq_some_iff.1 h
        cases heq
        have hdrifts : w.shared.Drifts { w.shared with clock := clock } :=
          { Shared.Drifts.refl w.shared with clock := hclock }
        exact .run i _ o k r s' _ hp rfl ⟨_, hdrifts, answer_exec g hanswer⟩
          (Machine.burst_settle (fun _ => trivial) _)
      · cases h
    · cases h

/-- Moves one after the other, with their history. -/
def play : List GatewayMove → GatewayWorld → Option (List GatewayStep × GatewayWorld)
  | [], w => some ([], w)
  | m :: ms, w =>
    match m.play g w with
    | none => none
    | some (l, w') => (play ms w').map fun x => (⟨w, l, w'⟩ :: x.1, x.2)

theorem play_trace {ms : List GatewayMove} : ∀ {w w' : GatewayWorld} {H : List GatewayStep},
    play g ms w = some (H, w') → (gateway g).system.Trace w H w' := by
  induction ms with
  | nil =>
    intro w w' H h
    cases h
    exact .nil w
  | cons m ms ih =>
    intro w w' H h
    simp only [play] at h
    split at h
    · cases h
    · next l u hm =>
      obtain ⟨⟨K, v⟩, hrest, heq⟩ := Option.map_eq_some_iff.1 h
      cases heq
      exact .cons (play_step g hm) (ih hrest)

/-! ## A gateway with one provider -/

/-- A circuit opens with the first failure, and nothing is tried again. -/
def strict : GatewayPolicy where
  maxRetries := 0
  circuitFailureThreshold := 1
  default_le := by decide +kernel
  maximum_le := by decide +kernel
  retries_le := by decide
  backoff_le := by decide +kernel
  jitter_le := by decide +kernel
  requests_le := by decide
  window_le := by decide +kernel
  threshold_le := by decide
  open_le := by decide +kernel
  concurrency_le := by decide
  cache_le := by decide
  idempotency_le := by decide

def amap : ProviderPort where
  providerId := "amap"
  apiVersion := "v3"
  capabilities := [.placeSearch, .geocode, .routeMatrix, .openingHours, .weather]
  configured := true

/-- The two hexadecimal digits of a byte. -/
def hexByte (b : UInt8) : List Char := [Json.hexDigit (b.toNat / 16), Json.hexDigit (b.toNat % 16)]

/-- A digest is all the bytes here. -/
def amapOnly : ProviderGateway where
  policy := strict
  cacheTtls _ := 900
  staleIfError _ := 0
  ttls_le _ := by decide +kernel
  stale_le _ := by decide +kernel
  providers := [amap]
  allowlist := ["amap"]
  floatText := .fractions
  hexdigest bytes := String.ofList (bytes.flatMap hexByte)
  valid _ := true
  distinct := by decide

def geocodeBeijing : ProviderGateway.Call where
  capability := .geocode
  request := .geocode { address := "Beijing", address_length := by decide }
  context :=
    { tenantId := "tenant"
      tenant_length := by decide
      key_length := by simp
      deadline_pos := by simp }

end RoutePilot.Provider
