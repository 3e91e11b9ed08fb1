/-
  The probes of a half-open circuit.

  What is watched of a provider stands to its circuit as `Watches` says: the
  circuit opened when the history says so, and while a probe is in flight the
  flag is set, so that no other call is admitted.  Every section keeps this, the
  outcomes that leave the circuit open provided that no other call has a probe
  in flight.
-/
import RoutePilot.Proof.ProviderQuota

namespace RoutePilot.Provider

open Lib Lib.Lts

variable {g : ProviderGateway} {providerId : String}

/-- How what is watched stands to the circuit. -/
structure Watches (watch : Watch) (c : Circuit) : Prop where
  openedAt : c.openedAt = watch.openedAt
  single : watch.probes.length ≤ 1
  flag : watch.probes ≠ [] → c.openedAt.isSome ∧ c.halfOpenInflight = true

theorem Watches.forget {watch : Watch} {c : Circuit} (h : Watches watch c) (w : GatewayWorld) :
    Watches (watch.forget w) c where
  openedAt := h.openedAt
  single := (List.length_filter_le _ _).trans h.single
  flag hne := h.flag fun hnil => hne (by simp [Watch.forget, hnil])

section
variable {watch : Watch} {s : GatewayState} {i : ℕ} {now clock : ℚ}

/-- An admitted attempt is the only probe. -/
theorem Watches.admitted (h : Watches watch (s.circuits providerId)) {tenantId : String} {cost : ℕ}
    (hadmits : g.Admits now providerId tenantId cost s) (ticket : ℕ) :
    Watches (watch.see g providerId i (s.circuits providerId).failures clock
        (.enter ticket (.beforeCall providerId tenantId cost)) (.ok ()))
      ((g.admitted now providerId tenantId cost s).circuits providerId) := by
  have hcircuit : (g.admitted now providerId tenantId cost s).circuits providerId =
      GatewayConfig.Circuit.probed (s.circuits providerId) := Function.update_self ..
  rw [hcircuit]
  unfold GatewayConfig.Circuit.probed
  cases hopen : (s.circuits providerId).openedAt with
  | none =>
    have hw : watch.openedAt = none := by rw [← h.openedAt, hopen]
    simpa [Watch.see, hw] using h
  | some openedAt =>
    have hw : watch.openedAt = some openedAt := by rw [← h.openedAt, hopen]
    have hnone : watch.probes = [] := by
      by_contra hne
      have hflag := (h.flag hne).2
      rw [hadmits.free (by simp [hopen])] at hflag
      cases hflag
    simp only [Watch.see, hw, Option.isSome_some, and_self, if_true]
    exact ⟨rfl, by simp [hnone], by simp⟩

/-- Nobody's probe is in flight after its own outcome. -/
theorem filter_own {probes : List ℕ} (h : ∀ j ∈ probes, i = j) : probes.filter (· ≠ i) = [] := by
  refine List.filter_eq_nil_iff.2 fun j hj => ?_
  simp [h j hj]

theorem Watches.release (h : Watches watch (s.circuits providerId)) (hown : ∀ j ∈ watch.probes, i = j)
    (ticket : ℕ) :
    Watches (watch.see g providerId i (s.circuits providerId).failures clock
        (.enter ticket (.releaseHalfOpen providerId)) (.ok ()))
      { s.circuits providerId with halfOpenInflight := false } := by
  simp only [Watch.see, if_true, filter_own hown]
  exact ⟨h.openedAt, Nat.zero_le _, by simp⟩

theorem Watches.failure (h : Watches watch (s.circuits providerId)) (hown : ∀ j ∈ watch.probes, i = j)
    (kind : ErrorKind) (ticket : ℕ) :
    Watches (watch.see g providerId i (s.circuits providerId).failures clock
        (.enter ticket (.recordFailure providerId kind)) (.ok ()))
      (g.failed clock kind (s.circuits providerId)) := by
  have hfailures : ∀ c : Circuit, (if c.openedAt.isSome then { c with halfOpenInflight := false } else c).failures =
      c.failures := fun c => by split <;> rfl
  have hopened : ∀ c : Circuit, (if c.openedAt.isSome then { c with halfOpenInflight := false } else c).openedAt =
      c.openedAt := fun c => by split <;> rfl
  simp only [Watch.see, if_true, filter_own hown, GatewayConfig.failed, hfailures]
  by_cases hkind : kind.countsTowardCircuit
  · by_cases hlimit : g.policy.circuitFailureThreshold ≤ (s.circuits providerId).failures + 1
    · simp only [hkind, hlimit, and_self, if_true]
      exact ⟨rfl, Nat.zero_le _, by simp⟩
    · simp only [hkind, hlimit, and_false, if_true, if_false]
      exact ⟨(hopened _).trans h.openedAt, Nat.zero_le _, by simp⟩
  · simp only [hkind]
    exact ⟨(hopened _).trans h.openedAt, Nat.zero_le _, by simp⟩

theorem Watches.of_keeps {α : Type} {x : GatewayM α} (h : Watches watch (s.circuits providerId))
    (hx : Keeps (·.circuits providerId) x) : Watches watch ((final (x.run s)).circuits providerId) := by
  have hs : (final (x.run s)).circuits providerId = s.circuits providerId := hx s
  rw [hs]
  exact h

theorem Watches.seen {watch' : Watch} {c : Circuit} (h : Watches watch c) (heq : watch' = watch) : Watches watch' c :=
  heq ▸ h

theorem setCircuit_ne {p : String} {c : Circuit} (hp : p ≠ providerId) :
    (s.setCircuit p c).circuits providerId = s.circuits providerId := Function.update_of_ne (Ne.symm hp) _ _

theorem setCircuit_self {c : Circuit} : (s.setCircuit providerId c).circuits providerId = c :=
  Function.update_self ..

/-- A section keeps what is watched, if its outcome is that of the only probe. -/
theorem Watches.body (h : Watches watch (s.circuits providerId)) (sec : Section)
    (hrelease : sec = .releaseHalfOpen providerId → ∀ j ∈ watch.probes, i = j)
    (hfailure : ∀ kind, sec = .recordFailure providerId kind → ∀ j ∈ watch.probes, i = j) (locked : ℕ → Bool)
    (wall : Time) (ticket : ℕ) :
    Watches (watch.see g providerId i (s.circuits providerId).failures clock (.enter ticket sec)
        (sectionOutcome ((sec.body g.toGatewayConfig locked now clock wall).run s)))
      ((final ((sec.body g.toGatewayConfig locked now clock wall).run s)).circuits providerId) := by
  cases sec with
  | beforeCall p tenantId cost =>
    rw [show (Section.beforeCall p tenantId cost).body g.toGatewayConfig locked now clock wall =
      g.beforeCall now p tenantId cost from rfl]
    obtain ⟨hadmits, hrun⟩ | ⟨e, hrun | hrun⟩ := g.beforeCall_cases now p tenantId cost s <;> rw [hrun]
    · by_cases hp : p = providerId
      · subst hp
        exact h.admitted hadmits ticket
      · rw [final_ok, g.admitted_circuits_ne (Ne.symm hp)]
        simpa [Watch.see, sectionOutcome, hp] using h
    · exact h
    · exact h
  | recordSuccess p =>
    show Watches _ ((s.setCircuit p {}).circuits providerId)
    by_cases hp : p = providerId
    · subst hp
      rw [setCircuit_self]
      exact Watches.seen (show Watches {} {} from ⟨rfl, Nat.zero_le _, by simp⟩) (if_pos rfl)
    · rw [setCircuit_ne hp]
      exact h.seen (if_neg hp)
  | recordFailure p kind =>
    show Watches _ ((s.setCircuit p (g.failed clock kind (s.circuits p))).circuits providerId)
    by_cases hp : p = providerId
    · subst hp
      rw [setCircuit_self]
      exact h.failure (hfailure kind rfl) kind ticket
    · rw [setCircuit_ne hp]
      exact h.seen (if_neg hp)
  | releaseHalfOpen p =>
    show Watches _ ((s.setCircuit p { s.circuits p with halfOpenInflight := false }).circuits providerId)
    by_cases hp : p = providerId
    · subst hp
      rw [setCircuit_self]
      exact h.release (hrelease rfl) ticket
    · rw [setCircuit_ne hp]
      exact h.seen (if_neg hp)
  | lookup key requestHash cacheKey =>
    have hfinal := g.lookup_keeps (f := (·.circuits providerId)) (fun _ _ => rfl) locked now wall key requestHash
      cacheKey s
    show Watches _ ((final ((g.lookup locked now wall key requestHash cacheKey).run s)).circuits providerId)
    rw [hfinal]
    exact h
  | idempotencyLock key => exact h.of_keeps (GatewayConfig.idempotencyLock_keeps (fun _ _ _ => rfl) key)
  | rememberSuccess capability cacheKey key requestHash result =>
    exact h.of_keeps
      (g.rememberSuccess_keeps (fun _ _ => rfl) (fun _ _ => rfl) now wall capability cacheKey key requestHash result)
  | staleFallback cacheKey key requestHash =>
    exact h.of_keeps (g.staleFallback_keeps (fun _ _ => rfl) now cacheKey key requestHash)

end

/-! ## Runs -/

section
variable {watch : Watch} {i : ℕ} {o : GatewayOp} {r : Except GatewayError o.Ans} {u u' : GatewayWorld} {s s' : Shared}

/-- **Step lemma.** -/
theorem Watches.exec (h : Watches watch (s.state.circuits providerId))
    (hown : ∀ j ∈ watch.probes, ∀ i' ∈ recorder providerId ⟨u, .run i o r, u'⟩, i' = j)
    (hx : o.Exec g s r s') :
    Watches (watch.see g providerId i (s.state.circuits providerId).failures s'.clock o r)
      (s'.state.circuits providerId) := by
  cases o with
  | enter ticket sec =>
    obtain ⟨now, rest, wall, -, rfl, rfl⟩ | ⟨rfl, rfl⟩ := hx
    · refine h.body sec ?_ ?_ s.locked wall ticket
      · rintro rfl j hj
        exact hown j hj i (if_pos rfl)
      · rintro kind rfl j hj
        exact hown j hj i (if_pos rfl)
    · refine h.seen ?_
      cases sec <;> rfl
  | enqueue | clock | lockRelease _ | slotRelease _ | invoke _ _ _ _ | returns _ | sleep _ _ =>
    obtain ⟨-, rfl⟩ := hx
    exact h
  | lockAcquire _ _ =>
    obtain ⟨-, -, rfl⟩ | ⟨e, -, -, rfl | rfl⟩ := hx <;> exact h
  | slotAcquire _ _ =>
    obtain ⟨-, -, rfl⟩ | ⟨e, -, -, rfl | rfl⟩ := hx <;> exact h
  | outcome _ _ =>
    obtain rfl | ⟨-, -, rfl⟩ := hx <;> exact h

/-- An open circuit admits nobody before its time. -/
theorem admits_lapsed {last : ℚ} {h : String × String → List ℚ} (hq : Quota g last h s)
    (hadmits : GatewayStep.Admits providerId ⟨u, .run i o r, u'⟩) (hx : o.Exec g s r s') {openedAt : ℚ}
    (hopen : (s.state.circuits providerId).openedAt = some openedAt) :
    g.policy.circuitOpenSeconds ≤ Binary64.sub s'.clock openedAt := by
  unfold GatewayStep.Admits at hadmits
  dsimp only at hadmits
  split at hadmits
  · next ticket p tenantId cost a heq =>
    cases heq
    subst hadmits
    obtain ⟨now, rest, wall, hqueue, hr, rfl⟩ | ⟨hr, -⟩ := hx
    · change _ = sectionOutcome ((g.beforeCall now p tenantId cost).run s.state) at hr
      have hnow := (hq.turns ⟨ticket, now⟩ (by rw [hqueue]; exact List.mem_cons_self)).2
      obtain ⟨hadm, -⟩ | ⟨e, hrun | hrun⟩ := g.beforeCall_cases now p tenantId cost s.state
      · exact (hadm.lapsed openedAt hopen).trans (Binary64.sub_mono _ hnow)
      · rw [hrun] at hr
        cases hr
      · rw [hrun] at hr
        cases hr
    · cases hr
  · exact hadmits.elim

end

theorem watch_snoc {K : List GatewayStep} {e : GatewayStep} :
    watch g providerId (K ++ [e]) = (watch g providerId K).next g providerId e := by
  simp [watch]

/-- What holds of a run that is not disturbed. -/
structure Watched (g : ProviderGateway) (providerId : String) (w : GatewayWorld) (H : List GatewayStep) : Prop where
  quota : ∃ last, Quota g last (charges · H) w.shared
  watches : Undisturbed g providerId H → Watches (watch g providerId H) (w.shared.state.circuits providerId) ∧
    Every (fun K e => GatewayStep.Admits providerId e → ∀ openedAt ∈ (watch g providerId K).openedAt,
      g.policy.circuitOpenSeconds ≤ Binary64.sub e.after.shared.clock openedAt) H

/-- **Run lemma.** -/
theorem Watched.step {K : List GatewayStep} {u u' : GatewayWorld} {l : Machine.Label gw ProviderGateway.Call}
    (hw : Watched g providerId u K) (hl : (gateway g).Step u l u') :
    Watched g providerId u' (K ++ [⟨u, l, u'⟩]) := by
  refine ⟨Quota.step hw.quota hl, fun hok => ?_⟩
  obtain ⟨hok, hown⟩ := every_snoc.1 hok
  obtain ⟨hwatches, hspaced⟩ := hw.watches hok
  obtain ⟨last, hq⟩ := hw.quota
  rw [watch_snoc, every_snoc]
  cases hl with
  | start c y _ _ => exact ⟨hwatches, hspaced, False.elim⟩
  | run i p o k r s' y _ _ hexec _ =>
    obtain ⟨s₁, hd, hx⟩ := hexec
    rw [← hd.state] at hwatches
    refine ⟨?_, hspaced, fun hadmits openedAt hopen => ?_⟩
    · have := (hwatches.exec hown hx).forget
      rw [hd.state] at this
      exact this _
    · exact admits_lapsed (hq.drifts hd) hadmits hx (hwatches.openedAt.trans hopen)

/-- In every run in which nobody but a probe records an outcome that leaves its circuit open, the circuit
    admits one probe at a time, and none before its time. -/
theorem one_probe {H : List GatewayStep} {w : GatewayWorld}
    (h : (gateway g).system.Trace { shared := {} } H w) (hok : Undisturbed g providerId H) :
    OneProbe g providerId H := by
  have hinit : Watched g providerId { shared := {} } [] :=
    ⟨quota_init, fun _ => ⟨⟨rfl, Nat.zero_le _, nofun⟩, .nil⟩⟩
  have hw := h.invariant (I := Watched g providerId) hinit fun u l u' K hw hl => hw.step hl
  obtain ⟨hwatches, hspaced⟩ := hw.watches hok
  exact ⟨hwatches.single, hspaced⟩

/-! ## An outage -/

/-- Call 0 fails and opens the circuit; when its time is over, call 1 is admitted as a probe. -/
def outage : List GatewayMove :=
  (.start geocodeBeijing :: List.replicate 14 (.run 0 0 (.error (.provider ⟨.unavailable, none⟩)))) ++
  (.start geocodeBeijing :: List.replicate 10 (.run 1 30))

theorem one_probe_outage : ∃ H w, (gateway amapOnly).system.Trace { shared := {} } H w ∧
    (watch amapOnly "amap" H).probes = [1] ∧ OneProbe amapOnly "amap" H := by
  have hplay : (play amapOnly outage { shared := {} }).map (fun x =>
      ((watch amapOnly "amap" x.1).probes, decide (Undisturbed amapOnly "amap" x.1))) = some ([1], true) := by
    decide +kernel
  obtain ⟨⟨H, w⟩, hrun, heq⟩ := Option.map_eq_some_iff.1 hplay
  obtain ⟨hprobes, hok⟩ := Prod.mk.inj heq
  exact ⟨H, w, play_trace _ hrun, hprobes, one_probe (play_trace _ hrun) (of_decide_eq_true hok)⟩

/-- Call 2 is rejected, which takes the flag of call 1's probe back, and call 3 is admitted next to it. -/
theorem two_probes : ¬ ∀ (g : ProviderGateway) (providerId : String) (H : List GatewayStep) (w : GatewayWorld),
    (gateway g).system.Trace { shared := {} } H w → OneProbe g providerId H := by
  intro h
  have hplay : (play amapOnly (outage ++ (.start geocodeBeijing :: List.replicate 8 (.run 2 30)) ++
      (.start geocodeBeijing :: List.replicate 6 (.run 3 30))) { shared := {} }).map
      (fun x => (watch amapOnly "amap" x.1).probes) = some [3, 1] := by decide +kernel
  obtain ⟨⟨H, w⟩, hrun, hprobes⟩ := Option.map_eq_some_iff.1 hplay
  have hsingle := (h amapOnly "amap" H w (play_trace _ hrun)).single
  rw [show (watch amapOnly "amap" H).probes = [3, 1] from hprobes] at hsingle
  exact absurd hsingle (by decide)

end RoutePilot.Provider
