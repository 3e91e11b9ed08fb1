/-
  The quota of a provider and a tenant.

  The turns at the state lock are in the order of their clock readings, so each
  section uses the rate windows at a time no earlier than the one before: every
  window is a sliding log of what was charged under its key (`Lib.Logged`).
-/
import Mathlib.Tactic.Common
import RoutePilot.Provider.Play
import RoutePilot.Provider.Specs

namespace RoutePilot.Provider

open Lib Lib.Lts

variable (g : ProviderGateway)

/-! ## Sections -/

variable {g} {now : ℚ} {h : String × String → List ℚ} {s : GatewayState}

/-- The rate windows of a state are logs of the charges `h`. -/
def Windows (g : ProviderGateway) (last : ℚ) (h : String × String → List ℚ) (s : GatewayState) : Prop :=
  ∀ key, Logged (Binary64.sub · g.policy.rateLimitWindowSeconds) g.policy.rateLimitRequests last (h key)
    (s.rateWindows key)

theorem Windows.prune (hw : Windows g now h s) (locked : ℕ → Bool) :
    Windows g now h (g.pruneState locked now s) := fun key => (hw key).trim

theorem Windows.of_keeps {α : Type} {x : GatewayM α} (hw : Windows g now h s) (hx : Keeps (·.rateWindows) x) :
    Windows g now h (final (x.run s)) := by
  intro key
  have hs : (final (x.run s)).rateWindows = s.rateWindows := hx s
  rw [hs]
  exact hw key

/-- Nothing is charged. -/
theorem Windows.uncharged (hw : Windows g now h s) {h' : String × String → List ℚ} (hh : ∀ key, h' key = []) :
    Windows g now (fun key => h key ++ h' key) s := by
  intro key
  dsimp only
  rw [hh key, List.append_nil]
  exact hw key

/-- A section keeps the windows the logs of what is charged. -/
theorem Windows.body (hw : Windows g now h s) (sec : Section) (locked : ℕ → Bool) (clock : ℚ) (wall : Time)
    (ticket : ℕ) (rest : List Turn) :
    Windows g now
      (fun key => h key ++ chargeOf key (⟨ticket, now⟩ :: rest) (.enter ticket sec)
        (sectionOutcome ((sec.body g.toGatewayConfig locked now clock wall).run s)))
      (final ((sec.body g.toGatewayConfig locked now clock wall).run s)) := by
  cases sec with
  | beforeCall providerId tenantId cost =>
    rw [show (Section.beforeCall providerId tenantId cost).body g.toGatewayConfig locked now clock wall =
      g.beforeCall now providerId tenantId cost from rfl]
    obtain ⟨hadmits, hrun⟩ | ⟨e, hrun | hrun⟩ := g.beforeCall_cases now providerId tenantId cost s
    · rw [hrun]
      intro key
      by_cases hkey : (providerId, tenantId) = key
      · subst hkey
        simpa [chargeOf, sectionOutcome, GatewayConfig.admitted, GatewayConfig.freshWindow, popExpired] using
          (hw _).charge (Binary64.sub_mono _) hadmits.room
      · have := hw key
        simpa [chargeOf, sectionOutcome, GatewayConfig.admitted, hkey, Function.update_of_ne (Ne.symm hkey)] using this
    · rw [hrun]
      exact hw.uncharged fun _ => rfl
    · rw [hrun]
      refine Windows.uncharged (fun key => ?_) fun _ => rfl
      by_cases hkey : key = (providerId, tenantId)
      · subst hkey
        simpa [GatewayState.setWindow, GatewayConfig.freshWindow, popExpired] using (hw _).trim
      · simpa [GatewayState.setWindow, Function.update_of_ne hkey] using hw key
  | lookup key requestHash cacheKey =>
    refine Windows.uncharged (fun key' => ?_) fun _ => rfl
    have hfinal := g.lookup_keeps (f := (·.rateWindows)) (fun _ _ => rfl) locked now wall key requestHash cacheKey s
    show Logged _ _ now (h key') ((final ((g.lookup locked now wall key requestHash cacheKey).run s)).rateWindows key')
    rw [hfinal]
    exact hw.prune locked key'
  | idempotencyLock key =>
    exact (hw.of_keeps (GatewayConfig.idempotencyLock_keeps (fun _ _ _ => rfl) key)).uncharged fun _ => rfl
  | recordSuccess p =>
    exact (hw.of_keeps (GatewayConfig.recordSuccess_keeps (fun _ _ => rfl) p)).uncharged fun _ => rfl
  | recordFailure p kind =>
    exact (hw.of_keeps (g.recordFailure_keeps (fun _ _ => rfl) clock p kind)).uncharged fun _ => rfl
  | releaseHalfOpen p =>
    exact (hw.of_keeps (GatewayConfig.releaseHalfOpen_keeps (fun _ _ => rfl) p)).uncharged fun _ => rfl
  | rememberSuccess capability cacheKey key requestHash result =>
    exact (hw.of_keeps (g.rememberSuccess_keeps (fun _ _ => rfl) (fun _ _ => rfl) now wall capability cacheKey key
      requestHash result)).uncharged fun _ => rfl
  | staleFallback cacheKey key requestHash =>
    exact (hw.of_keeps (g.staleFallback_keeps (fun _ _ => rfl) now cacheKey key requestHash)).uncharged
      fun _ => rfl

theorem Windows.wait (hw : Windows g now h s) {now' : ℚ} (hle : now ≤ now') : Windows g now' h s :=
  fun key => (hw key).wait (Binary64.sub_mono _) hle

/-! ## Steps -/

/-- The turns come in the order of their clock readings. -/
structure Quota (g : ProviderGateway) (last : ℚ) (h : String × String → List ℚ) (s : Shared) : Prop where
  windows : Windows g last h s.state
  past : last ≤ s.clock
  turns : ∀ turn ∈ s.queue, last ≤ turn.now ∧ turn.now ≤ s.clock
  ordered : s.queue.Pairwise fun a b => a.now ≤ b.now

variable {last : ℚ} {w w' : Shared}

theorem Quota.drifts (hq : Quota g last h w) (hd : w.Drifts w') : Quota g last h w' where
  windows := by rw [hd.state]; exact hq.windows
  past := hq.past.trans hd.clock
  turns := by
    rw [hd.queue]
    exact fun turn ht => ⟨(hq.turns turn ht).1, (hq.turns turn ht).2.trans hd.clock⟩
  ordered := by rw [hd.queue]; exact hq.ordered

/-- What neither the windows nor the turns depend on. -/
theorem Quota.congr (hq : Quota g last h w) (hstate : w'.state = w.state) (hqueue : w'.queue = w.queue)
    (hclock : w'.clock = w.clock) : Quota g last (fun key => h key ++ []) w' where
  windows := by simpa [hstate] using hq.windows
  past := by rw [hclock]; exact hq.past
  turns := by rw [hqueue, hclock]; exact hq.turns
  ordered := by rw [hqueue]; exact hq.ordered

/-- **Step lemma.** -/
theorem Quota.exec (hq : Quota g last h w) {o : GatewayOp} {r : Except GatewayError o.Ans} (hx : o.Exec g w r w') :
    ∃ last', Quota g last' (fun key => h key ++ chargeOf key w.queue o r) w' := by
  cases o with
  | enqueue =>
    obtain ⟨rfl, rfl⟩ := hx
    refine ⟨last, by simpa [chargeOf] using hq.windows, hq.past, ?_, ?_⟩
    · intro turn ht
      obtain ht | ht := List.mem_append.1 ht
      · exact hq.turns turn ht
      · rw [List.mem_singleton.1 ht]
        exact ⟨hq.past, le_rfl⟩
    · refine List.pairwise_append.2 ⟨hq.ordered, List.pairwise_singleton .., fun a ha b hb => ?_⟩
      rw [List.mem_singleton.1 hb]
      exact (hq.turns a ha).2
  | enter ticket sec =>
    obtain ⟨now, rest, wall, hqueue, rfl, rfl⟩ | ⟨rfl, rfl⟩ := hx
    · have hnow := hq.turns ⟨ticket, now⟩ (by rw [hqueue]; exact List.mem_cons_self)
      have hordered := hq.ordered
      rw [hqueue] at hordered ⊢
      refine ⟨now, (hq.windows.wait hnow.1).body sec _ _ wall ticket rest, hnow.2, ?_, hordered.of_cons⟩
      intro turn ht
      exact ⟨List.rel_of_pairwise_cons hordered ht,
        (hq.turns turn (by rw [hqueue]; exact List.mem_cons_of_mem _ ht)).2⟩
    · -- the turn is given up
      refine ⟨last, Windows.uncharged hq.windows fun key => ?_, hq.past, ?_, ?_⟩
      · cases sec <;> rfl
      · exact fun turn ht => hq.turns turn (List.mem_filter.1 ht).1
      · exact hq.ordered.filter _
  | clock | lockRelease _ | slotRelease _ | invoke _ _ _ _ | returns _ =>
    obtain ⟨-, rfl⟩ := hx
    exact ⟨last, hq.congr rfl rfl rfl⟩
  | sleep _ _ =>
    obtain ⟨-, rfl⟩ := hx
    exact ⟨last, hq.congr rfl rfl rfl⟩
  | lockAcquire _ _ =>
    obtain ⟨-, -, rfl⟩ | ⟨e, -, -, rfl | rfl⟩ := hx <;> exact ⟨last, hq.congr rfl rfl rfl⟩
  | slotAcquire _ _ =>
    obtain ⟨-, -, rfl⟩ | ⟨e, -, -, rfl | rfl⟩ := hx <;> exact ⟨last, hq.congr rfl rfl rfl⟩
  | outcome _ _ =>
    obtain rfl | ⟨-, -, rfl⟩ := hx <;> exact ⟨last, hq.congr rfl rfl rfl⟩

theorem Quota.step {K : List GatewayStep} {u u' : GatewayWorld} {l : Machine.Label gw ProviderGateway.Call}
    (hq : ∃ last, Quota g last (charges · K) u.shared) (hl : (gateway g).Step u l u') :
    ∃ last, Quota g last (charges · (K ++ [⟨u, l, u'⟩])) u'.shared := by
  obtain ⟨last, hq⟩ := hq
  have happend : ∀ key, charges key (K ++ [⟨u, l, u'⟩]) = charges key K ++ charged key ⟨u, l, u'⟩ := by
    intro key
    simp [charges]
  simp only [happend]
  cases hl with
  | start c y _ _ => exact ⟨last, hq.congr rfl rfl rfl⟩
  | run i p o k r s' y _ _ hexec _ =>
    obtain ⟨s₁, hd, hx⟩ := hexec
    have := (hq.drifts hd).exec hx
    rwa [hd.queue] at this

theorem quota_init : ∃ last, Quota g last (charges · []) {} := ⟨0, fun _ => .nil, le_rfl, nofun, .nil⟩

theorem rejected_windows {ticket : ℕ} {providerId tenantId : String} {cost : ℕ} {error : GatewayError}
    (hx : (GatewayOp.enter ticket (.beforeCall providerId tenantId cost)).Exec g w (.error error) w')
    (key : String × String) : w'.state.rateWindows key <:+ w.state.rateWindows key := by
  obtain ⟨now, rest, wall, -, hr, rfl⟩ | ⟨-, rfl⟩ := hx
  swap
  · exact List.suffix_refl _
  change _ = sectionOutcome ((g.beforeCall now providerId tenantId cost).run w.state) at hr
  change (final ((g.beforeCall now providerId tenantId cost).run w.state)).rateWindows key <:+ _
  obtain ⟨-, hrun⟩ | ⟨e, hrun | hrun⟩ := g.beforeCall_cases now providerId tenantId cost w.state
  · rw [hrun] at hr
    cases hr
  · rw [hrun]
    exact List.suffix_refl _
  · rw [hrun]
    by_cases hkey : key = (providerId, tenantId)
    · subst hkey
      simpa [GatewayState.setWindow, GatewayConfig.freshWindow, popExpired] using trim_suffix ..
    · simp [GatewayState.setWindow, Function.update_of_ne hkey]

/-- In every window, no more is charged to a provider and a tenant than the quota, and an attempt that is
    rejected leaves nothing in any log. -/
theorem quota_in_every_window {H : List GatewayStep} {w : GatewayWorld}
    (h : (gateway g).system.Trace { shared := {} } H w) :
    (∀ key t, within (Binary64.sub · g.policy.rateLimitWindowSeconds) t (charges key H) ≤ g.policy.rateLimitRequests) ∧
    ∀ e ∈ H, ∀ i ticket providerId tenantId cost error,
      e.label = .run i (.enter ticket (.beforeCall providerId tenantId cost)) (.error error) →
      ∀ key, e.after.shared.state.rateWindows key <:+ e.before.shared.state.rateWindows key := by
  constructor
  · obtain ⟨last, hq⟩ := h.invariant (I := fun w H => ∃ last, Quota g last (charges · H) w.shared) quota_init
      fun u l u' K hq hl => Quota.step hq hl
    exact fun key t => (hq.windows key).most t
  · rintro ⟨u, l, u'⟩ he i ticket providerId tenantId cost error rfl key
    have hl : (gateway g).Step u (.run i _ (.error error)) u' := h.step_of_mem he
    cases hl with
    | run i p o k r s' y _ _ hexec _ =>
      obtain ⟨s₁, hd, hx⟩ := hexec
      have := rejected_windows hx key
      rwa [hd.state] at this

theorem quota_in_every_window_admitted : ∃ H w, (gateway amapOnly).system.Trace { shared := {} } H w ∧
    charges ("amap", "tenant") H = [1, 2] ∧
    within (Binary64.sub · 60) 2 (charges ("amap", "tenant") H) ≤ 60 := by
  have hplay : (play amapOnly ((.start geocodeBeijing :: List.replicate 6 (.run 0 1)) ++
      (.start geocodeBeijing :: List.replicate 6 (.run 1 2))) { shared := {} }).map
      (fun x => charges ("amap", "tenant") x.1) = some [1, 2] := by decide +kernel
  obtain ⟨⟨H, w⟩, hrun, hcharges⟩ := Option.map_eq_some_iff.1 hplay
  exact ⟨H, w, play_trace _ hrun, hcharges, (quota_in_every_window (play_trace _ hrun)).1 _ _⟩

end RoutePilot.Provider
