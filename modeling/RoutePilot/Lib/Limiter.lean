/-
  A failure counter with a lazy window and a blocking deadline.

  Failures are counted in a window that starts with a failure and is replaced,
  when a failure comes later than its length, by a new one.  The failure that
  reaches the limit blocks further tries for a while.  When blocking takes
  longer than a window, at most `2 * limit - 2` tries fail in any closed
  interval as long as a window (`Counted.most`): the last window of the
  interval has at most `limit` of them, and of the one before it the first lies
  too far back and the last was not the blocking one.
-/
import Mathlib.Data.List.Count
import Mathlib.Data.Nat.Basic
import Mathlib.Order.Basic

namespace Lib

/-- The bounds of a counter. -/
structure Limits where
  limit : ℕ
  window : ℕ
  block : ℕ

/-- What is remembered of the failures. -/
structure Failures where
  attempts : ℕ
  windowStart : ℕ
  blockedUntil : Option ℕ
  deriving DecidableEq, Repr

/-- No try is made before the deadline. -/
def Failures.Blocked (f : Failures) (now : ℕ) : Prop := ∃ until_ ∈ f.blockedUntil, now < until_

/-- A try that failed. -/
structure Tried where
  time : ℕ
  /-- this failure reached the limit -/
  limited : Bool
  deriving DecidableEq, Repr

namespace Limits
variable (L : Limits)

/-- The record after one more failure. -/
def fail (now : ℕ) (f : Failures) : Failures :=
  let start := if L.window < now - f.windowStart then now else f.windowStart
  let attempts := (if L.window < now - f.windowStart then 0 else f.attempts) + 1
  ⟨attempts, start, if L.limit ≤ attempts then some (now + L.block) else none⟩

/-- A record made by failures up to the time `clock`. -/
structure Sound (clock : ℕ) (f : Failures) : Prop where
  positive : 1 ≤ f.attempts
  atMost : f.attempts ≤ L.limit
  started : f.windowStart ≤ clock
  blocked : f.attempts = L.limit → ∃ until_, f.blockedUntil = some until_ ∧ f.windowStart + L.block ≤ until_

/-- How a record stands to the failures `h`, the latest first, that led to it from a sound one. -/
structure Counted (clock : ℕ) (h : List Tried) (f : Failures) : Prop extends L.Sound clock f where
  /-- every failure falls in the window or before it -/
  within : ∀ x ∈ h, x.time ≤ f.windowStart + L.window
  past : ∀ x ∈ h, x.time ≤ clock
  /-- the window counts its failures -/
  counts : h.countP (fun x => f.windowStart ≤ x.time) ≤ f.attempts
  /-- and starts with one of them -/
  later : h.countP (fun x => f.windowStart < x.time) ≤ f.attempts - 1
  /-- what is left of the window before -/
  before : h.countP (fun x => x.time < f.windowStart ∧ f.windowStart ≤ x.time + L.window) ≤ L.limit - 2
  /-- the deadline is that of the last failure -/
  deadline : f.attempts = L.limit → ∀ until_ ∈ f.blockedUntil, ∀ x ∈ h, x.time + L.block ≤ until_
  /-- a blocking failure blocks now, or its time has passed -/
  enforced : ∀ x ∈ h, x.limited → x.time + L.block ≤ clock ∨ ∃ until_ ∈ f.blockedUntil, x.time + L.block ≤ until_
  most : ∀ t, h.countP (fun x => t ≤ x.time ∧ x.time ≤ t + L.window) ≤ 2 * L.limit - 2
  spaced : h.Pairwise fun x y => y.limited → y.time + L.block ≤ x.time

end Limits

theorem countP_le_add {α : Type} {p q r : α → Bool} {l : List α} (h : ∀ x ∈ l, p x → q x ∨ r x) :
    l.countP p ≤ l.countP q + l.countP r := by
  induction l with
  | nil => simp
  | cons x l ih =>
    have hx := h x List.mem_cons_self
    have := ih fun y hy => h y (List.mem_cons_of_mem _ hy)
    simp only [List.countP_cons]
    cases hp : p x <;> cases hq : q x <;> cases hr : r x <;> simp_all <;> omega

namespace Limits
variable {L : Limits}

/-- Before any failure of its own, a record is what it was. -/
theorem Sound.counted {clock : ℕ} {f : Failures} (h : L.Sound clock f) : L.Counted clock [] f where
  toSound := h
  within := by simp
  past := by simp
  counts := by simp
  later := by simp
  before := by simp
  deadline := by simp
  enforced := by simp
  most := by simp
  spaced := .nil

/-- The first failure makes a record. -/
theorem Counted.first {now : ℕ} (h2 : 2 ≤ L.limit) :
    L.Counted now [⟨now, (L.fail now ⟨0, now, none⟩).blockedUntil.isSome⟩] (L.fail now ⟨0, now, none⟩) := by
  have hlimit : ¬ L.limit ≤ 1 := by omega
  have hfail : L.fail now ⟨0, now, none⟩ = ⟨1, now, none⟩ := by simp [fail, hlimit]
  rw [hfail]
  exact {
    positive := le_rfl
    atMost := by show 1 ≤ L.limit; omega
    started := le_rfl
    blocked := fun ha => by
      have : 1 = L.limit := ha
      omega
    within := by simp
    past := by simp
    counts := by simp
    later := by simp
    before := by simp
    deadline := by simp
    enforced := by simp
    most := fun t => by
      have := List.countP_le_length (p := fun x : Tried => t ≤ x.time ∧ x.time ≤ t + L.window)
        (l := [⟨now, false⟩])
      simp only [List.length_singleton] at this
      simp only [Option.isSome_none]
      omega
    spaced := List.pairwise_singleton .. }

section
variable {clock now : ℕ} {h : List Tried} {f : Failures}

/-- A record that reached the limit starts anew when its deadline has passed. -/
theorem Counted.atLimit (c : L.Counted clock h f) (hblock : L.window < L.block) (hfree : ¬ f.Blocked now)
    (ha : f.attempts = L.limit) :
    L.window < now - f.windowStart ∧ ∀ x ∈ h, x.time + L.window < now := by
  obtain ⟨u, hu, hle⟩ := c.blocked ha
  have hnow : u ≤ now := Nat.le_of_not_lt fun hlt => hfree ⟨u, hu, hlt⟩
  refine ⟨by omega, fun x hx => ?_⟩
  have := c.deadline ha u hu x hx
  omega

/-- What of the failures lies less than a window back, when the window is replaced. -/
theorem Counted.replaced (c : L.Counted clock h f) (hblock : L.window < L.block) (hfree : ¬ f.Blocked now)
    (hold : L.window < now - f.windowStart) :
    h.countP (fun x => now ≤ x.time + L.window) ≤ L.limit - 2 := by
  by_cases ha : f.attempts = L.limit
  · have hnone : h.countP (fun x => now ≤ x.time + L.window) = 0 :=
      List.countP_eq_zero.2 fun x hx => by
        have := (c.atLimit hblock hfree ha).2 x hx
        simp only [decide_eq_true_eq]
        omega
    omega
  · have hsub : h.countP (fun x => now ≤ x.time + L.window) ≤ h.countP (fun x => f.windowStart < x.time) :=
      List.countP_mono_left fun x _ hx => by
        simp only [decide_eq_true_eq] at hx ⊢
        omega
    have := c.later
    have := c.atMost
    omega

/-- The failures less than a window back, at a try. -/
theorem Counted.recent (c : L.Counted clock h f) (h2 : 2 ≤ L.limit) (hblock : L.window < L.block)
    (hclock : clock ≤ now) (hfree : ¬ f.Blocked now) :
    h.countP (fun x => now ≤ x.time + L.window) ≤ 2 * L.limit - 3 := by
  by_cases hold : L.window < now - f.windowStart
  · have := c.replaced hblock hfree hold
    omega
  · have ha : f.attempts ≠ L.limit := fun ha => hold (c.atLimit hblock hfree ha).1
    have hsplit : h.countP (fun x => now ≤ x.time + L.window) ≤
        h.countP (fun x => f.windowStart ≤ x.time) +
          h.countP (fun x => x.time < f.windowStart ∧ f.windowStart ≤ x.time + L.window) :=
      countP_le_add fun x _ hx => by
        have := c.started
        simp only [decide_eq_true_eq] at hx ⊢
        omega
    have := c.counts
    have := c.before
    have := c.atMost
    omega

/-- **Step rule.**  One more failure. -/
theorem Counted.fail (c : L.Counted clock h f) (h2 : 2 ≤ L.limit) (hblock : L.window < L.block)
    (hclock : clock ≤ now) (hfree : ¬ f.Blocked now) :
    L.Counted now (⟨now, (L.fail now f).blockedUntil.isSome⟩ :: h) (L.fail now f) := by
  have hrecent := c.recent h2 hblock hclock hfree
  have hpast : ∀ x ∈ h, x.time ≤ now := fun x hx => (c.past x hx).trans hclock
  have hlapsed : ∀ x ∈ h, x.limited → x.time + L.block ≤ now := fun x hx hl => by
    obtain hle | ⟨u, hu, hle⟩ := c.enforced x hx hl
    · exact hle.trans hclock
    · exact hle.trans (Nat.le_of_not_lt fun hlt => hfree ⟨u, hu, hlt⟩)
  have hmost : ∀ t, (⟨now, (L.fail now f).blockedUntil.isSome⟩ :: h : List Tried).countP
      (fun x => t ≤ x.time ∧ x.time ≤ t + L.window) ≤ 2 * L.limit - 2 := fun t => by
    rw [List.countP_cons]
    by_cases ht : t ≤ now ∧ now ≤ t + L.window
    · have hsub : h.countP (fun x => t ≤ x.time ∧ x.time ≤ t + L.window) ≤
          h.countP (fun x => now ≤ x.time + L.window) :=
        List.countP_mono_left fun x _ hx => by
          simp only [decide_eq_true_eq] at hx ⊢
          omega
      rw [if_pos (by simpa using ht)]
      omega
    · rw [if_neg (by simpa using ht)]
      exact c.most t
  have hspaced : (⟨now, (L.fail now f).blockedUntil.isSome⟩ :: h : List Tried).Pairwise
      fun x y => y.limited → y.time + L.block ≤ x.time := .cons hlapsed c.spaced
  by_cases hold : L.window < now - f.windowStart
  · -- a new window, that starts with this failure
    have hfail : L.fail now f = ⟨1, now, none⟩ := by
      have hlimit : ¬ L.limit ≤ 1 := by omega
      simp [Limits.fail, hold, hlimit]
    have hbefore := c.replaced hblock hfree hold
    have hearlier : ∀ x ∈ h, x.time < now := fun x hx => by
      have := c.within x hx
      omega
    rw [hfail] at hmost hspaced ⊢
    refine { positive := le_rfl, atMost := by show 1 ≤ L.limit; omega, started := le_rfl, blocked := ?_
             within := ?_, past := ?_, counts := ?_, later := ?_, before := ?_, deadline := ?_
             enforced := ?_, most := hmost, spaced := hspaced }
    · intro ha
      have : 1 = L.limit := ha
      omega
    · rintro x (- | ⟨-, hx⟩)
      · exact Nat.le_add_right ..
      · exact (hpast x hx).trans (Nat.le_add_right ..)
    · rintro x (- | ⟨-, hx⟩)
      · exact le_rfl
      · exact hpast x hx
    · have hnone : h.countP (fun x => now ≤ x.time) = 0 :=
        List.countP_eq_zero.2 fun x hx => by simpa using hearlier x hx
      simp [hnone]
    · have hnone : h.countP (fun x => now < x.time) = 0 :=
        List.countP_eq_zero.2 fun x hx => by simpa using (hearlier x hx).le
      simp [hnone]
    · have hsub : h.countP (fun x => x.time < now ∧ now ≤ x.time + L.window) ≤
          h.countP (fun x => now ≤ x.time + L.window) :=
        List.countP_mono_left fun x _ hx => by
          simp only [decide_eq_true_eq] at hx ⊢
          exact hx.2
      rw [List.countP_cons_of_neg (by simp)]
      exact hsub.trans hbefore
    · intro _ u hu
      cases hu
    · rintro x (- | ⟨-, hx⟩) hl
      · cases hl
      · exact .inl (hlapsed x hx hl)
  · -- one more in the window, that was not full
    have ha : f.attempts ≠ L.limit := fun ha => hold (c.atLimit hblock hfree ha).1
    have hlt : f.attempts < L.limit := lt_of_le_of_ne c.atMost ha
    have hfail : L.fail now f = ⟨f.attempts + 1, f.windowStart,
        if L.limit ≤ f.attempts + 1 then some (now + L.block) else none⟩ := by
      simp [Limits.fail, hold]
    have hstart := c.started
    rw [hfail] at hmost hspaced ⊢
    refine { positive := Nat.le_add_left .., atMost := hlt, started := hstart.trans hclock, blocked := ?_
             within := ?_, past := ?_, counts := ?_, later := ?_, before := ?_, deadline := ?_
             enforced := ?_, most := hmost, spaced := hspaced }
    · intro hfull
      have hle : L.limit ≤ f.attempts + 1 := Nat.le_of_eq hfull.symm
      refine ⟨now + L.block, if_pos hle, ?_⟩
      show f.windowStart + L.block ≤ now + L.block
      omega
    · rintro x (- | ⟨-, hx⟩)
      · show now ≤ f.windowStart + L.window
        omega
      · exact c.within x hx
    · rintro x (- | ⟨-, hx⟩)
      · exact le_rfl
      · exact hpast x hx
    · have := c.counts
      simp only [List.countP_cons]
      split <;> omega
    · have := c.later
      have := c.positive
      simp only [List.countP_cons]
      split <;> omega
    · rw [List.countP_cons_of_neg (by simp; omega)]
      exact c.before
    · intro hfull u hu x hx
      have hle : L.limit ≤ f.attempts + 1 := Nat.le_of_eq hfull.symm
      have hu' : some (now + L.block) = some u := (if_pos hle).symm.trans hu
      cases hu'
      obtain rfl | hx := List.mem_cons.1 hx
      · exact le_rfl
      · exact Nat.add_le_add_right (hpast x hx) _
    · rintro x (- | ⟨-, hx⟩) hl
      · simp only at hl ⊢
        split at hl
        · next hle => exact .inr ⟨_, if_pos hle, le_rfl⟩
        · cases hl
      · exact .inl (hlapsed x hx hl)

end
end Limits
end Lib
