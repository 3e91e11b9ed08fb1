/-
  A sliding log: the times of what was charged, from which the old ones are
  dropped before the rest is counted.

  The window that ends at a time begins after its cutoff, however that is
  computed.  `Logged` relates the log to everything that was ever charged: later
  than the cutoff of the last time the log was used, the two are the same.  If
  later windows have no earlier cutoffs, a charge that the log has room for has
  room in every window of the history.
-/
import Mathlib.Data.List.Count
import Mathlib.Data.List.Pairwise
import Mathlib.Order.Lattice

namespace Lib

section
variable {T : Type} [LinearOrder T]

/-- Drop the times up to a cutoff. -/
def trim (cutoff : T) (log : List T) : List T := log.dropWhile (· ≤ cutoff)

theorem trim_suffix (cutoff : T) (log : List T) : trim cutoff log <:+ log := List.dropWhile_suffix _

/-- From a log in order, everything up to the cutoff is dropped. -/
theorem trim_eq_filter {log : List T} (h : log.Pairwise (· ≤ ·)) (cutoff : T) :
    trim cutoff log = log.filter (cutoff < ·) := by
  induction h with
  | nil => rfl
  | @cons x log hx _ ih =>
    unfold trim at ih ⊢
    by_cases hc : x ≤ cutoff
    · rw [List.dropWhile_cons_of_pos (by simpa using hc), List.filter_cons_of_neg (by simpa using hc), ih]
    · have hall : ∀ y ∈ x :: log, cutoff < y := by
        intro y hy
        obtain rfl | hy := List.mem_cons.1 hy
        · exact not_le.1 hc
        · exact (not_le.1 hc).trans_le (hx y hy)
      rw [List.dropWhile_cons_of_neg (by simpa using hc), List.filter_eq_self.2 (by simpa using hall)]

/-- How many of the times lie in the window that ends at `t`. -/
def within (cutoff : T → T) (t : T) (times : List T) : ℕ := times.countP fun x => cutoff t < x ∧ x ≤ t

/-- How a log that was last used at a time stands to what was charged. -/
structure Logged (cutoff : T → T) (limit : ℕ) (last : T) (charged log : List T) : Prop where
  ordered : log.Pairwise (· ≤ ·)
  past : ∀ x ∈ charged, x ≤ last
  logged_past : ∀ x ∈ log, x ≤ last
  same : log.filter (cutoff last < ·) = charged.filter (cutoff last < ·)
  most : ∀ t, within cutoff t charged ≤ limit

variable {cutoff : T → T} {limit : ℕ} {last : T} {charged log : List T}

theorem Logged.nil : Logged cutoff limit last [] [] where
  ordered := .nil
  past := by simp
  logged_past := by simp
  same := rfl
  most := by simp [within]

/-- The old times are dropped. -/
theorem Logged.trim (h : Logged cutoff limit last charged log) :
    Logged cutoff limit last charged (trim (cutoff last) log) where
  ordered := h.ordered.sublist (trim_suffix ..).sublist
  past := h.past
  logged_past x hx := h.logged_past x ((trim_suffix ..).subset hx)
  same := by
    rw [trim_eq_filter h.ordered, List.filter_filter]
    simpa using h.same
  most := h.most

/-- What is left counts what was charged in the window that ends now. -/
theorem Logged.length_trim (h : Logged cutoff limit last charged log) :
    (Lib.trim (cutoff last) log).length = within cutoff last charged := by
  rw [trim_eq_filter h.ordered, h.same, within, ← List.countP_eq_length_filter]
  refine List.countP_congr fun x hx => ?_
  simpa using fun _ => h.past x hx

end

namespace Logged
variable {T : Type} [LinearOrder T] {cutoff : T → T} {limit : ℕ} {last : T} {charged log : List T}

/-- Time passes. -/
theorem wait (hcutoff : Monotone cutoff) (h : Logged cutoff limit last charged log) {now : T} (hle : last ≤ now) :
    Logged cutoff limit now charged log where
  ordered := h.ordered
  past x hx := (h.past x hx).trans hle
  logged_past x hx := (h.logged_past x hx).trans hle
  same := by
    have hfilter : ∀ l : List T, l.filter (cutoff now < ·) = (l.filter (cutoff last < ·)).filter (cutoff now < ·) := by
      intro l
      rw [List.filter_filter]
      refine List.filter_congr fun x _ => ?_
      have himp : cutoff now < x → cutoff last < x := (hcutoff hle).trans_lt
      by_cases hx : cutoff now < x
      · simp [hx, himp hx]
      · simp [hx]
    rw [hfilter log, hfilter charged, h.same]
  most := h.most

/-- **Step rule.**  After the old times are dropped, the log has room for a charge. -/
theorem charge (hcutoff : Monotone cutoff) (h : Logged cutoff limit last charged log) {cost : ℕ}
    (hroom : (Lib.trim (cutoff last) log).length + cost ≤ limit) :
    Logged cutoff limit last (charged ++ List.replicate cost last)
      (Lib.trim (cutoff last) log ++ List.replicate cost last) where
  ordered := by
    refine List.pairwise_append.2 ⟨h.trim.ordered, ?_, ?_⟩
    · exact List.pairwise_replicate.2 (.inr le_rfl)
    · intro x hx y hy
      rw [(List.mem_replicate.1 hy).2]
      exact h.trim.logged_past x hx
  past x hx := by
    obtain hx | hx := List.mem_append.1 hx
    · exact h.past x hx
    · exact (List.mem_replicate.1 hx).2.le
  logged_past x hx := by
    obtain hx | hx := List.mem_append.1 hx
    · exact h.trim.logged_past x hx
    · exact (List.mem_replicate.1 hx).2.le
  same := by
    rw [List.filter_append, List.filter_append, h.trim.same]
  most t := by
    have hrecent := h.length_trim
    unfold within at hrecent ⊢
    rw [List.countP_append, List.countP_replicate]
    by_cases hlast : cutoff t < last ∧ last ≤ t
    · -- what lies in this window lies in the one that ends now
      have hsub : charged.countP (fun x => cutoff t < x ∧ x ≤ t) ≤
          charged.countP fun x => cutoff last < x ∧ x ≤ last :=
        List.countP_mono_left fun x hx hxt => by
          simp only [decide_eq_true_eq] at hxt ⊢
          exact ⟨(hcutoff hlast.2).trans_lt hxt.1, h.past x hx⟩
      rw [if_pos (by simpa using hlast)]
      omega
    · rw [if_neg (by simpa using hlast)]
      exact h.most t

end Logged
end Lib
