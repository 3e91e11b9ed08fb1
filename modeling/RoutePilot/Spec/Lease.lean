/-
  Execution leases, abstractly: each Run has a counter of attempts and at most
  one current lease.

  `LeaseStep` says what a store may do to them at a given time, and the history
  (`LeaseHistory`) remembers every lease a claim handed out and the leases that
  are still held: neither renewed into another one, nor released, nor dropped
  by a lifecycle change.  `HistoryOk` is the invariant that ties the three
  together; fencing follows from it.
-/
import Mathlib.Data.List.Basic
import RoutePilot.Model.Entities

namespace RoutePilot

/-- The attempts and the current lease of a Run. -/
structure LeaseCell where
  attempt : ℕ
  current : Option RunExecutionLease

/-- The cells of all Runs. -/
abbrev LeaseTable := String → LeaseCell

/-- What an operation did to the leases, as its caller sees it. -/
inductive LeaseAct where
  | idle
  | granted (lease : RunExecutionLease)
  | renewed (lease : RunExecutionLease)
  | released (lease : RunExecutionLease)
  | dropped (runId : String)

/-- One step of the lease table at the time `now`. -/
inductive LeaseStep (now : Time) (T T' : LeaseTable) : LeaseAct → Prop
  | idle (h : T' = T) : LeaseStep now T T' .idle
  | granted (l : RunExecutionLease) (hattempt : l.attempt = (T l.runId).attempt + 1)
      (hfree : ∀ c ∈ (T l.runId).current, c.leaseUntil ≤ now)
      (h : T' = Function.update T l.runId ⟨l.attempt, some l⟩) : LeaseStep now T T' (.granted l)
  | renewed (l c : RunExecutionLease) (hc : (T l.runId).current = some c)
      (hattempt : l.attempt = c.attempt)
      (h : T' = Function.update T l.runId { T l.runId with current := some l }) :
      LeaseStep now T T' (.renewed l)
  | released (l c : RunExecutionLease) (hc : (T l.runId).current = some c)
      (hattempt : l.attempt = c.attempt)
      (h : T' = Function.update T l.runId { T l.runId with current := none }) :
      LeaseStep now T T' (.released l)
  | dropped (runId : String) (h : T' = Function.update T runId { T runId with current := none }) :
      LeaseStep now T T' (.dropped runId)

/-- The Run whose leases the operation touched. -/
def LeaseAct.runId : LeaseAct → Option String
  | .idle => none
  | .granted l | .renewed l | .released l => some l.runId
  | .dropped runId => some runId

/-- The leases of every other Run stay. -/
theorem LeaseStep.other {now : Time} {T T' : LeaseTable} {a : LeaseAct} (h : LeaseStep now T T' a)
    {id : String} (hid : a.runId ≠ some id) : T' id = T id := by
  cases h with
  | idle h => rw [h]
  | granted l _ _ h | renewed l _ _ _ h | released l _ _ _ h | dropped r h =>
    rw [h, Function.update_of_ne]
    rintro rfl
    exact hid rfl

/-- The leases handed out so far (newest first), and those still held. -/
structure LeaseHistory where
  granted : List RunExecutionLease := []
  held : List RunExecutionLease := []

/-- The lease is the one of this attempt of this Run. -/
def RunExecutionLease.SameAttempt (l l' : RunExecutionLease) : Prop :=
  l.runId = l'.runId ∧ l.attempt = l'.attempt

instance (l l' : RunExecutionLease) : Decidable (l.SameAttempt l') :=
  inferInstanceAs (Decidable (_ ∧ _))

/-- The history after an operation. -/
def LeaseHistory.record (H : LeaseHistory) : LeaseAct → LeaseHistory
  | .idle => H
  | .granted l => ⟨l :: H.granted, l :: H.held⟩
  | .renewed l => { H with held := l :: H.held.filter fun l' => ¬ l'.SameAttempt l }
  | .released l => { H with held := H.held.filter fun l' => ¬ l'.SameAttempt l }
  | .dropped runId => { H with held := H.held.filter fun l' => l'.runId ≠ runId }

/-- The history agrees with the table at the time `now`. -/
structure HistoryOk (now : Time) (T : LeaseTable) (H : LeaseHistory) : Prop where
  /-- the counter is the newest attempt handed out -/
  newest : ∀ l ∈ H.granted, l.attempt ≤ (T l.runId).attempt
  /-- attempts strictly increase -/
  increasing : ∀ r, (H.granted.filter (·.runId = r)).Pairwise fun a b => b.attempt < a.attempt
  /-- a current lease is held, and of the newest attempt -/
  current : ∀ r, ∀ c ∈ (T r).current, c.runId = r ∧ c.attempt = (T r).attempt ∧ c ∈ H.held
  /-- a held lease is the current one, or it has expired -/
  held : ∀ l ∈ H.held, (T l.runId).current = some l ∨ l.leaseUntil ≤ now
  /-- a held lease was handed out -/
  handed : ∀ l ∈ H.held, ∃ l' ∈ H.granted, l'.SameAttempt l

namespace HistoryOk
variable {now now' : Time} {T T' : LeaseTable} {H : LeaseHistory} {a : LeaseAct}

theorem init : HistoryOk 0 (fun _ => ⟨0, none⟩) {} := by
  constructor <;> simp

theorem mono (h : HistoryOk now T H) (hn : now ≤ now') : HistoryOk now' T H :=
  { h with held := fun l hl => (h.held l hl).imp_right (·.trans hn) }

/-- Two unexpired leases of one Run are the same lease. -/
theorem unique (h : HistoryOk now T H) {l l' : RunExecutionLease} (hl : l ∈ H.held)
    (hl' : l' ∈ H.held) (hr : l.runId = l'.runId) (hlive : now < l.leaseUntil)
    (hlive' : now < l'.leaseUntil) : l = l' := by
  have h₁ := (h.held l hl).resolve_right (not_le.2 hlive)
  have h₂ := (h.held l' hl').resolve_right (not_le.2 hlive')
  rw [← hr, h₁] at h₂
  exact Option.some.inj h₂

/-- What the current lease of a Run says about the leases handed out. -/
theorem fence (h : HistoryOk now T H) {r : String} {c : RunExecutionLease}
    (hc : (T r).current = some c) :
    c.runId = r ∧ c ∈ H.held ∧ (∀ l ∈ H.granted, l.runId = r → l.attempt ≤ c.attempt) := by
  obtain ⟨hr, ha, hm⟩ := h.current r c hc
  refine ⟨hr, hm, fun l hl hlr => ?_⟩
  have := h.newest l hl
  rw [hlr] at this
  omega

/-- Removing held leases that are not current keeps the history. -/
theorem clear (h : HistoryOk now T H) {r : String} {p : RunExecutionLease → Bool}
    (hother : ∀ l, l.runId ≠ r → p l = true)
    (hcur : ∀ c ∈ (T r).current, p c = false) :
    HistoryOk now (Function.update T r { T r with current := none })
      { H with held := H.held.filter p } := by
  have hattempt : ∀ k, (Function.update T r { T r with current := none } k).attempt
      = (T k).attempt := by
    intro k; by_cases hk : k = r <;> simp [hk]
  refine ⟨fun l hl => ?_, h.increasing, fun k c hc => ?_, fun l hl => ?_, fun l hl => ?_⟩
  · rw [hattempt]; exact h.newest l hl
  · by_cases hk : k = r
    · subst hk; simp at hc
    · rw [Function.update_of_ne hk] at hc
      obtain ⟨h₁, h₂, h₃⟩ := h.current k c hc
      rw [hattempt]
      exact ⟨h₁, h₂, List.mem_filter.2 ⟨h₃, hother c (by rw [h₁]; exact hk)⟩⟩
  · obtain ⟨hl, hp⟩ := List.mem_filter.1 hl
    refine (h.held l hl).imp_left fun hcl => ?_
    by_cases hk : l.runId = r
    · rw [hk] at hcl
      rw [hcur l hcl] at hp; cases hp
    · rw [Function.update_of_ne hk]; exact hcl
  · exact h.handed l (List.mem_filter.1 hl).1

/-- The step lemma of the history. -/
theorem step (h : HistoryOk now T H) (hs : LeaseStep now T T' a) : HistoryOk now T' (H.record a) := by
  cases hs with
  | idle hT => rw [hT]; exact h
  | granted l hattempt hfree hT =>
    rw [hT]
    have hle : ∀ k, (T k).attempt ≤ (Function.update T l.runId ⟨l.attempt, some l⟩ k).attempt := by
      intro k
      by_cases hk : k = l.runId
      · rw [hk, Function.update_self]
        show (T l.runId).attempt ≤ l.attempt
        omega
      · rw [Function.update_of_ne hk]
    refine ⟨fun l' hl' => ?_, fun r => ?_, fun r c hc => ?_, fun l' hl' => ?_, fun l' hl' => ?_⟩
    · obtain rfl | hl' := List.mem_cons.1 hl'
      · rw [Function.update_self]
      · exact (h.newest l' hl').trans (hle _)
    · simp only [LeaseHistory.record, List.filter_cons]
      split
      · next hr =>
        refine List.pairwise_cons.2 ⟨fun l' hl' => ?_, h.increasing r⟩
        obtain ⟨hl', hr'⟩ := List.mem_filter.1 hl'
        have := h.newest l' hl'
        simp only [decide_eq_true_eq] at hr hr'
        rw [hr', ← hr] at this
        omega
      · exact h.increasing r
    · by_cases hk : r = l.runId
      · subst hk
        rw [Function.update_self] at hc ⊢
        obtain rfl := Option.some.inj hc
        exact ⟨rfl, rfl, List.mem_cons_self⟩
      · rw [Function.update_of_ne hk] at hc ⊢
        obtain ⟨h₁, h₂, h₃⟩ := h.current r c hc
        exact ⟨h₁, h₂, List.mem_cons_of_mem _ h₃⟩
    · obtain rfl | hl' := List.mem_cons.1 hl'
      · rw [Function.update_self]; exact .inl rfl
      · -- a lease held before is current no more only if it had expired
        by_cases hk : l'.runId = l.runId
        · refine .inr ((h.held l' hl').elim (fun hc => hfree l' ?_) id)
          rw [← hk]; exact hc
        · rw [Function.update_of_ne hk]; exact h.held l' hl'
    · obtain rfl | hl' := List.mem_cons.1 hl'
      · exact ⟨l', List.mem_cons_self, rfl, rfl⟩
      · obtain ⟨l'', h₁, h₂⟩ := h.handed l' hl'
        exact ⟨l'', List.mem_cons_of_mem _ h₁, h₂⟩
  | renewed l c hc hattempt hT =>
    rw [hT]
    obtain ⟨hr, ha, hm⟩ := h.current _ c hc
    have hattempt' : ∀ k, (Function.update T l.runId { T l.runId with current := some l } k).attempt
        = (T k).attempt := by
      intro k; by_cases hk : k = l.runId <;> simp [hk]
    refine ⟨fun l' hl' => ?_, h.increasing, fun r c' hc' => ?_, fun l' hl' => ?_, fun l' hl' => ?_⟩
    · rw [hattempt']; exact h.newest l' hl'
    · rw [hattempt']
      by_cases hk : r = l.runId
      · subst hk
        rw [Function.update_self] at hc'
        obtain rfl := Option.some.inj hc'
        exact ⟨rfl, hattempt.trans ha, List.mem_cons_self⟩
      · rw [Function.update_of_ne hk] at hc'
        obtain ⟨h₁, h₂, h₃⟩ := h.current r c' hc'
        refine ⟨h₁, h₂, List.mem_cons_of_mem _ (List.mem_filter.2 ⟨h₃, ?_⟩)⟩
        exact decide_eq_true fun hs => hk (h₁ ▸ hs.1)
    · obtain rfl | hl' := List.mem_cons.1 hl'
      · rw [Function.update_self]; exact .inl rfl
      · obtain ⟨hl', hne⟩ := List.mem_filter.1 hl'
        by_cases hk : l'.runId = l.runId
        · refine .inr ((h.held l' hl').resolve_left fun hcur => ?_)
          rw [hk, hc] at hcur
          obtain rfl := Option.some.inj hcur
          exact (of_decide_eq_true hne) ⟨hk, hattempt.symm⟩
        · rw [Function.update_of_ne hk]; exact h.held l' hl'
    · obtain rfl | hl' := List.mem_cons.1 hl'
      · obtain ⟨l'', h₁, h₂⟩ := h.handed c hm
        exact ⟨l'', h₁, h₂.1.trans hr, h₂.2.trans hattempt.symm⟩
      · exact h.handed l' (List.mem_filter.1 hl').1
  | released l c hc hattempt hT =>
    rw [hT]
    refine h.clear (fun l' hne => decide_eq_true fun hs => hne hs.1) fun c' hc' => ?_
    obtain rfl := Option.some.inj (hc.symm.trans hc')
    exact decide_eq_false (not_not.2 ⟨(h.current _ c hc).1, hattempt.symm⟩)
  | dropped r hT =>
    rw [hT]
    refine h.clear (fun l' hne => decide_eq_true hne) fun c hc => ?_
    exact decide_eq_false (not_not.2 (h.current _ c hc).1)

end HistoryOk
end RoutePilot
