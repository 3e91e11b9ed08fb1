/-
  Guesses at a secret.

  The failures that the desk keeps of a share are a sound record of the tries
  since the secret was last exchanged or the share rotated, so the bounds of the
  failure counter hold of the secrets compared, in both branches.
-/
import RoutePilot.Share.Branch
import RoutePilot.Share.Play

namespace RoutePilot.Share

open Lib Lts

variable {Source Snapshot : Type} {π : Policy Source} {c : Ports Source Snapshot}
  {log : List (Entry Snapshot)} {d d' : Desk Snapshot} {e : Entry Snapshot} {k : String}

/-! ## The record of a share -/

/-- The failures kept of a share count the tries `G`, the latest first. -/
def Tally (log : List (Entry Snapshot)) (G : List Tried) : Option Failures → Prop
  | none => G = []
  | some f => ∃ x ∈ log, limits.Counted x.env.now G f

/-- What a call tried. -/
def Entry.tried (e : Entry Snapshot) : Tried where
  time := e.env.now
  limited := match e.result with
    | .error (.rateLimited _) => true
    | _ => false

theorem Entry.limited_iff : e.tried.limited = true ↔ e.RateLimited := by
  unfold Entry.tried Entry.RateLimited
  cases e.result with
  | ok r => simp
  | error err => cases err <;> simp

namespace Tally
variable {G : List Tried} {f : Option Failures}

theorem cons (h : Tally log G f) (e : Entry Snapshot) : Tally (e :: log) G f := by
  cases f with
  | none => exact h
  | some f =>
    obtain ⟨x, hx, hc⟩ := h
    exact ⟨x, List.mem_cons_of_mem _ hx, hc⟩

/-- A sound record of tries is one of no tries. -/
theorem forget (h : Tally log G f) : Tally log [] f := by
  cases f with
  | none => rfl
  | some f =>
    obtain ⟨x, hx, hc⟩ := h
    exact ⟨x, hx, hc.toSound.counted⟩

/-- One more try. -/
theorem fail (h : Tally log G f) (hlater : e.Later log)
    (hfree : ¬ (f.getD ⟨0, e.env.now, none⟩).Blocked e.env.now) :
    Tally (e :: log)
      (⟨e.env.now, (limits.fail e.env.now (f.getD ⟨0, e.env.now, none⟩)).blockedUntil.isSome⟩ :: G)
      (some (limits.fail e.env.now (f.getD ⟨0, e.env.now, none⟩))) := by
  cases f with
  | none =>
    cases h
    exact ⟨e, List.mem_cons_self, .first (by decide)⟩
  | some f =>
    obtain ⟨x, hx, hc⟩ := h
    exact ⟨e, List.mem_cons_self, hc.fail (by decide) (by decide) (hlater x hx) hfree⟩

theorem most (h : Tally log G f) (t : Time) :
    G.countP (fun x => t ≤ x.time ∧ x.time ≤ t + minutes 10) ≤ 8 := by
  cases f with
  | none => rw [show G = [] from h, List.countP_nil]; exact Nat.zero_le _
  | some f =>
    obtain ⟨x, -, hc⟩ := h
    exact hc.most t

theorem spaced (h : Tally log G f) : G.Pairwise fun x y => y.limited → y.time + minutes 15 ≤ x.time := by
  cases f with
  | none => rw [show G = [] from h]; exact .nil
  | some f =>
    obtain ⟨x, -, hc⟩ := h
    exact hc.spaced

end Tally

/-! ## One call -/

namespace Desk

/-- A wrong secret that is compared. -/
theorem exchange_wrong {env : Env} {publicId secret : String} {r : Record} {f : Failures}
    (hcompared : d.compared env.now publicId = .ok (k, r, f))
    (hwrong : capabilityHash c publicId secret ≠ r.secretHash) :
    outcome ((call π c env (.exchange publicId secret)).run d) =
        .error (if (limits.fail env.now f).blockedUntil.isSome then .rateLimited (15 * 60)
          else .capabilityInvalid "invalid share capability") ∧
      (final ((call π c env (.exchange publicId secret)).run d)).failures =
        Function.update d.failures k (some (limits.fail env.now f)) := by
  simp only [call, outcome_map, final_map, exchange, EStateM.run_bind, run_ask, hcompared, hwrong, ne_eq,
    not_false_eq_true, if_true]
  exact ⟨rfl, rfl⟩

/-- A right secret that is compared. -/
theorem exchange_right {env : Env} {publicId secret : String} {r : Record} {f : Failures}
    (hcompared : d.compared env.now publicId = .ok (k, r, f))
    (hright : capabilityHash c publicId secret = r.secretHash) :
    ∃ res, outcome ((call π c env (.exchange publicId secret)).run d) = .ok res := by
  refine ⟨.exchange ⟨env.sessionToken, sessionExpiry env.now⟩, ?_⟩
  simp only [call, outcome_map, exchange, EStateM.run_bind, run_ask, hcompared, hright, ne_eq,
    not_true_eq_false, if_false]
  rfl

/-- A call that compares a secret of the share, and does not exchange it. -/
theorem tally_compared (hresult : e.result = outcome ((call π c e.env e.op).run d)) (hlater : e.Later log)
    {G : List Tried} (h : Tally log G (d.failures k)) (hquiet : ¬ e.Renews d.shown k) (hcompares : d.Compares e k) :
    ¬ e.Succeeds ∧ Tally (e :: log) (e.tried :: G) ((final ((call π c e.env e.op).run d)).failures k) := by
  obtain ⟨publicId, secret, r, f, hop, hcompared⟩ := hcompares
  obtain ⟨hk, -, -, hf, hfree⟩ := compared_eq_ok hcompared
  rw [hop] at hresult ⊢
  by_cases hright : capabilityHash c publicId secret = r.secretHash
  · obtain ⟨res, hres⟩ := exchange_right (π := π) hcompared hright
    exact absurd (.inl ⟨publicId, secret, hop, hk, res, hresult.trans hres⟩) hquiet
  · obtain ⟨herror, hfailures⟩ := exchange_wrong (π := π) hcompared hright
    have hfail := h.fail hlater (by rw [← hf]; exact hfree)
    have htried : e.tried = ⟨e.env.now, (limits.fail e.env.now f).blockedUntil.isSome⟩ := by
      unfold Entry.tried
      rw [hresult, herror]
      cases (limits.fail e.env.now f).blockedUntil <;> rfl
    refine ⟨fun ⟨res, hres⟩ => ?_, ?_⟩
    · rw [hresult, herror] at hres
      cases hres
    · rw [hfailures, Function.update_self, htried, hf]
      exact hfail

/-- A call that does not compare a secret of the share. -/
theorem Effect.tally_kept (he : Effect π c e.env d e.op e.result d') {G : List Tried}
    (h : Tally log G (d.failures k)) (hquiet : ¬ e.Renews d.shown k) (hcompares : ¬ d.Compares e k) :
    Tally (e :: log) G (d'.failures k) := by
  have hsame : d'.failures k = d.failures k → Tally (e :: log) G (d'.failures k) := fun heq => heq ▸ h.cons e
  unfold Entry.Renews Entry.mutation at hquiet
  unfold Compares at hcompares
  generalize e.op = op at he hquiet hcompares
  generalize e.result = result at he hquiet
  cases he with
  | raised | created | recreated | rerotated | revoked | rerevoked | opened => exact hsame rfl
  | @rotated p k' version key r r' secret after hnew hshare howns hactive hversion hsecret hr' hafter =>
    have hne : k ≠ k' := by
      rintro rfl
      exact hquiet (.inr ⟨p, version, key, _, rfl, rfl, rfl⟩)
    apply hsame
    rw [hafter]
    split
    · exact Function.update_of_ne hne ..
    · rfl
  | @guessed publicId secret k' r f hcompared hwrong =>
    have hne : k ≠ k' := by
      rintro rfl
      exact hcompares ⟨publicId, secret, r, f, rfl, hcompared⟩
    exact hsame (Function.update_of_ne hne ..)
  | @exchanged publicId secret k' r f hcompared hright =>
    have hne : k ≠ k' := by
      rintro rfl
      exact hcompares ⟨publicId, secret, r, f, rfl, hcompared⟩
    exact hsame (Function.update_of_ne hne ..)

/-- **Step rule.**  Whatever a call does, the failures that are kept are a sound record. -/
theorem Effect.tally (he : Effect π c e.env d e.op e.result d') (hlater : e.Later log)
    (h : ∀ k, Tally log [] (d.failures k)) (k : String) : Tally (e :: log) [] (d'.failures k) := by
  have hsame : d'.failures k = d.failures k → Tally (e :: log) [] (d'.failures k) := fun heq => heq ▸ (h k).cons e
  generalize e.op = op at he
  generalize e.result = result at he
  cases he with
  | raised | created | recreated | rerotated | revoked | rerevoked | opened => exact hsame rfl
  | @rotated p k' version key r r' secret after hnew hshare howns hactive hversion hsecret hr' hafter =>
    have hkept : after.failures = d.failures := by rw [hafter]; rfl
    split
    · simp only [Function.update_apply, hkept]
      split
      · rfl
      · exact (h k).cons e
    · rw [hkept]
      exact (h k).cons e
  | @guessed publicId secret k' r f hcompared hwrong =>
    obtain ⟨-, -, -, hf, hfree⟩ := compared_eq_ok hcompared
    by_cases hk : k = k'
    · subst hk
      have hfail := (h k).fail hlater (by rw [← hf]; exact hfree)
      simp only [Function.update_self]
      rw [hf]
      exact hfail.forget
    · exact hsame (Function.update_of_ne hk ..)
  | @exchanged publicId secret k' r f hcompared hright =>
    by_cases hk : k = k'
    · subst hk
      simp only [Function.update_self]
      rfl
    · exact hsame (Function.update_of_ne hk ..)

/-- The failures that are kept in every run at nondecreasing times. -/
theorem tally_reach {w : World (Desk Snapshot) Snapshot} (hw : (deskService π c).Reach timedCalls w) :
    ∀ k, Tally w.log [] (w.state.failures k) := by
  refine hw.invariant (I := fun w => ∀ k, Tally w.log [] (w.state.failures k)) ?_ ?_
  · rintro _ rfl k
    rfl
  · rintro w e _ - h he ⟨hresult, rfl⟩ k
    have heffect := call_effect π c e.env w.state e.op
    rw [← hresult] at heffect
    exact heffect.tally he.2 h k

end Desk

/-! ## Histories of both branches -/

section
variable {σ : Type} (b : Branch σ c)

open Classical in
/-- The calls of a history that compare a secret of the share. -/
noncomputable def Branch.compared (k : String) (H : List (Taken (World σ Snapshot) (Entry Snapshot))) :
    List (Taken (World σ Snapshot) (Entry Snapshot)) :=
  H.filter fun x => b.Compares x.before.state x.label k

theorem Branch.sublist_compared {G H : List (Taken (World σ Snapshot) (Entry Snapshot))} (h : G.Sublist H)
    (hall : ∀ x ∈ G, b.Compares x.before.state x.label k) : G.Sublist (b.compared k H) := by
  classical
  have hfilter := h.filter fun x => b.Compares x.before.state x.label k
  rwa [List.filter_eq_self.2 fun x hx => decide_eq_true (hall x hx)] at hfilter

/-- **Run rule.**  The tries of a history, the latest first, are on record at its end. -/
theorem Branch.tally {w w' : World σ Snapshot} {H : List (Taken (World σ Snapshot) (Entry Snapshot))}
    (hH : b.service.Trace w H w') (hok : ∀ x ∈ H, timedCalls x.before x.label)
    (hquiet : ∀ x ∈ H, ¬ x.label.Renews (b.shown x.before.state) k) :
    ∀ {d : Desk Snapshot} {G : List Tried}, b.Holds w.state d → d.Ordered b.policy c w.log →
      Tally w.log G (d.failures k) →
        (∀ x ∈ b.compared k H, ¬ x.label.Succeeds) ∧
          ∃ f, Tally w'.log (((b.compared k H).map (·.label.tried)).reverse ++ G) f := by
  induction hH with
  | nil w =>
    intro d G hd ho h
    exact ⟨fun x hx => absurd hx List.not_mem_nil, _, h⟩
  | @cons w w₁ w' e H hstep _ ih =>
    intro d G hd ho h
    obtain ⟨hresult, rfl⟩ := hstep
    have he := hok _ List.mem_cons_self
    have hrenews := hquiet _ List.mem_cons_self
    obtain ⟨hagree, hd'⟩ := b.agrees hd ho he.1
    have hresult' := hresult.trans hagree
    have heffect := Desk.call_effect b.policy c e.env d e.op
    rw [← hresult'] at heffect
    have ih G' := ih (fun x hx => hok x (List.mem_cons_of_mem _ hx))
      (fun x hx => hquiet x (List.mem_cons_of_mem _ hx)) (G := G') hd' (ho.step he.1 heffect)
    rw [b.shows hd ho] at hrenews
    by_cases hcompares : d.Compares e k
    · obtain ⟨hfails, htally⟩ := Desk.tally_compared hresult' he.2 h hrenews hcompares
      have hfilter w₂ : b.compared k (⟨w, e, w₂⟩ :: H) = ⟨w, e, w₂⟩ :: b.compared k H :=
        List.filter_cons_of_pos (by simpa using (b.compares hd ho).2 hcompares)
      obtain ⟨hrest, f, hf⟩ := ih _ htally
      rw [hfilter]
      refine ⟨List.forall_mem_cons.2 ⟨hfails, hrest⟩, f, ?_⟩
      rwa [List.map_cons, List.reverse_cons, List.append_assoc]
    · have hfilter w₂ : b.compared k (⟨w, e, w₂⟩ :: H) = b.compared k H :=
        List.filter_cons_of_neg (by simpa using fun hc => hcompares ((b.compares hd ho).1 hc))
      rw [hfilter]
      exact ih _ (heffect.tally_kept h hrenews hcompares)

/-- Guesses are bounded on a storage that the desk describes. -/
theorem Branch.guessesBounded {w w' : World σ Snapshot} {H : List (Taken (World σ Snapshot) (Entry Snapshot))}
    (hw : b.service.Reach timedCalls w) (hH : b.service.Trace w H w')
    (hok : ∀ x ∈ H, timedCalls x.before x.label) (k : String)
    (hquiet : ∀ x ∈ H, ¬ x.label.Renews (b.shown x.before.state) k) :
    GuessesBounded (fun s e => b.Compares s e k) H := by
  obtain ⟨d, hd, h⟩ : ∃ d, (deskService b.policy c).Reach timedCalls ⟨d, w.log⟩ ∧ b.Holds w.state d :=
    b.refines (fun _ _ _ _ he => he) (fun _ _ he => he.1) hw
  obtain ⟨-, f, hf⟩ := b.tally hH hok hquiet h (.reach (fun _ _ he => he.1) hd) (Desk.tally_reach hd k)
  rw [List.append_nil] at hf
  constructor
  · intro t G hG hall
    have hsub : (G.map (·.label.tried)).Sublist ((b.compared k H).map (·.label.tried)) :=
      (b.sublist_compared hG fun x hx => (hall x hx).1).map _
    have hcount := hsub.countP_le (p := fun x => t ≤ x.time ∧ x.time ≤ t + minutes 10)
    have hlength : (G.map (·.label.tried)).countP (fun x => t ≤ x.time ∧ x.time ≤ t + minutes 10) = G.length := by
      rw [List.countP_eq_length.2, List.length_map]
      intro x hx
      obtain ⟨y, hy, rfl⟩ := List.mem_map.1 hx
      exact decide_eq_true (hall y hy).2.2
    have hmost := hf.most t
    rw [List.countP_reverse] at hmost
    omega
  · have hspaced := hf.spaced
    rw [List.pairwise_reverse, List.pairwise_map, Branch.compared, List.pairwise_filter] at hspaced
    refine hspaced.imp fun hxy hx hlimited hy => ?_
    exact hxy (by simpa using hx) (by simpa using hy) (Entry.limited_iff.2 hlimited)

end

/-- **Guesses are bounded.**  In a history of either branch in which the secret of a share is not exchanged and
    the share is not rotated, at most eight wrong secrets are compared in ten minutes, and none in the fifteen
    minutes after one that was answered with `ShareRateLimited`. -/
theorem guesses_bounded {Source Snapshot : Type} {c : Ports Source Snapshot}
    (hexdigest : Function.Injective c.hexdigest) (hround : ∀ s, c.shareSnapshot (c.dump s) = some s) (k : String) :
    (∀ w w' H, (memoryService c).Reach timedCalls w → (memoryService c).Trace w H w' →
      (∀ x ∈ H, timedCalls x.before x.label ∧ ¬ x.label.Renews x.before.state.shown k) →
        GuessesBounded (fun m e => Memory.Compares m e k) H) ∧
    ∀ w w' H, (postgresService c).Reach timedCalls w → (postgresService c).Trace w H w' →
      (∀ x ∈ H, timedCalls x.before x.label ∧ ¬ x.label.Renews x.before.state.shown k) →
        GuessesBounded (fun db e => Tables.Compares db e k) H :=
  ⟨fun _ _ _ hw hH hok => (Branch.memory c).guessesBounded hw hH (fun x hx => (hok x hx).1) k
      fun x hx => (hok x hx).2,
    fun _ _ _ hw hH hok => (Branch.postgres hexdigest hround).guessesBounded hw hH (fun x hx => (hok x hx).1) k
      fun x hx => (hok x hx).2⟩

namespace Sample

/-- A call that raises, after all others. -/
def Refused {σ : Type} (w : World σ String) (e : Entry String) : Prop := timedCalls w e ∧ e.result.isOk = false

instance {σ : Type} (w : World σ String) (e : Entry String) : Decidable (Refused w e) :=
  inferInstanceAs (Decidable (_ ∧ _))

theorem Refused.quiet {σ : Type} {w : World σ String} {e : Entry String} (h : Refused w e) (s : Shown) (k : String) :
    ¬ e.Renews s k := by
  rintro (⟨-, -, -, -, r, hr⟩ | ⟨-, -, -, m, -, hm, -⟩)
  · exact absurd h.2 (by simp [hr, Except.isOk, Except.toBool])
  · rw [Entry.mutation] at hm
    split at hm
    · next hr => exact absurd h.2 (by simp [hr, Except.isOk, Except.toBool])
    · cases hm

/-- A share is created. -/
def unguessed : World (Memory String) String := .play {} (Memory.call ports) [(env 0 0, create "key-1")]

/-- Six guesses, a minute apart. -/
def guesses : List (Env × ShareOp) :=
  [1, 2, 3, 4, 5, 6].map fun minute => (env minute minute, .exchange "public_0" "guess")

end Sample

open Sample in
theorem guesses_bounded_six :
    (unguessed.history (Memory.call ports) guesses).map (·.label.result) = List.replicate 4
        (.error (.capabilityInvalid "invalid share capability")) ++
      [.error (.rateLimited 900), .error (.rateLimited 841)] ∧
    GuessesBounded (fun m e => Memory.Compares m e "share_0") (unguessed.history (Memory.call ports) guesses) := by
  have hall : unguessed.AllOk Refused (Memory.call ports) guesses := by decide +kernel
  refine ⟨by decide +kernel, (guesses_bounded (c := ports) Function.injective_id ports_roundTrip "share_0").1
    unguessed _ _ (reach_play (by decide +kernel)) (trace_history _) fun x hx => ?_⟩
  have hrefused := hall.history x hx
  exact ⟨hrefused.1, hrefused.quiet _ _⟩

end RoutePilot.Share
