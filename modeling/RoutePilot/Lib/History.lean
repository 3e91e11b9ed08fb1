/-
  Histories: the steps a system took, in order.

  `Trace` links the steps of a history, and three rules read it.  `project`
  gives the history of a part of the system.  `crossing` finds the step that
  established a property.  `firstWrites` is what an idempotency key is for:
  among the calls under a key that is written once and kept, the first one
  writes it and the others change nothing.
-/
import Mathlib.Data.List.Basic
import RoutePilot.Lib.Lts

namespace Lib.Lts

/-- A step that was taken. -/
structure Taken (σ ℓ : Type) where
  before : σ
  label : ℓ
  after : σ

variable {σ ℓ : Type} {M : Lts σ ℓ}

/-- The history of a run from one state to another. -/
inductive Trace (M : Lts σ ℓ) : σ → List (Taken σ ℓ) → σ → Prop
  | nil (s : σ) : Trace M s [] s
  | cons {s s' t : σ} {l : ℓ} {H : List (Taken σ ℓ)} (h : M.step s l s') (ht : Trace M s' H t) :
      Trace M s (⟨s, l, s'⟩ :: H) t

namespace Trace

theorem split {H₁ H₂ : List (Taken σ ℓ)} {t : σ} :
    ∀ {s : σ}, M.Trace s (H₁ ++ H₂) t → ∃ u, M.Trace s H₁ u ∧ M.Trace u H₂ t := by
  induction H₁ with
  | nil => exact fun h => ⟨_, .nil _, h⟩
  | cons e H ih =>
    intro s h
    cases h with
    | cons hl ht =>
      obtain ⟨u, h₁, h₂⟩ := ih ht
      exact ⟨u, .cons hl h₁, h₂⟩

/-- The steps of a history link up. -/
theorem uncons {s t : σ} {e : Taken σ ℓ} {H : List (Taken σ ℓ)} (h : M.Trace s (e :: H) t) :
    e.before = s ∧ M.step e.before e.label e.after ∧ M.Trace e.after H t := by
  cases h with
  | cons hl ht => exact ⟨rfl, hl, ht⟩

/-- What is in a history is a step. -/
theorem step_of_mem {s t : σ} {H : List (Taken σ ℓ)} (h : M.Trace s H t) {e : Taken σ ℓ} (he : e ∈ H) :
    M.step e.before e.label e.after := by
  induction h with
  | nil => cases he
  | cons hl _ ih =>
    obtain rfl | he := List.mem_cons.1 he
    · exact hl
    · exact ih he

/-- The states of a history are reachable. -/
theorem reach {s t : σ} {H : List (Taken σ ℓ)} (h : M.Trace s H t) (hs : M.Reach anyStep s) :
    M.Reach anyStep t := by
  induction h with
  | nil s => exact hs
  | cons hl _ ih => exact ih (hs.step trivial hl)

/-- **History rule.**  What holds of the first state with no history, and of each next state with its
    history, holds of every state with the history that led to it. -/
theorem invariant {I : σ → List (Taken σ ℓ) → Prop} {s t : σ} {H : List (Taken σ ℓ)} (h : M.Trace s H t)
    (hinit : I s []) (hstep : ∀ u l u' K, I u K → M.step u l u' → I u' (K ++ [⟨u, l, u'⟩])) : I t H := by
  have hrun : ∀ K, I s K → I t (K ++ H) := by
    clear hinit
    induction h with
    | nil s => exact fun K hK => by rwa [List.append_nil]
    | @cons s s' t l H hl _ ih =>
      intro K hK
      have := ih _ (hstep s l s' K hK hl)
      rwa [List.append_assoc] at this
  exact hrun [] hinit

/-- **Crossing rule.**  A property that holds at the end of a history and not at its start was
    established by one of its steps. -/
theorem crossing {Q : σ → Prop} {s t : σ} {H : List (Taken σ ℓ)} (h : M.Trace s H t)
    (hs : M.Reach anyStep s) (hQ : ¬ Q s) (hQ' : Q t) :
    ∃ e ∈ H, M.Reach anyStep e.before ∧ M.step e.before e.label e.after ∧ ¬ Q e.before ∧ Q e.after := by
  induction h with
  | nil s => exact absurd hQ' hQ
  | @cons s s' t l H hl ht ih =>
    by_cases hQ₁ : Q s'
    · exact ⟨⟨s, l, s'⟩, List.mem_cons_self, hs, hl, hQ, hQ₁⟩
    · obtain ⟨e, he, hrest⟩ := ih (hs.step trivial hl) hQ₁ hQ'
      exact ⟨e, List.mem_cons_of_mem _ he, hrest⟩

/-- The history of a part of a system: the steps that `g` reads as steps of it. -/
def part {τ κ : Type} (f : σ → τ) (g : ℓ → Option κ) (H : List (Taken σ ℓ)) : List (Taken τ κ) :=
  H.filterMap fun e => (g e.label).map fun k => ⟨f e.before, k, f e.after⟩

/-- **Projection rule.**  If the other steps leave the part alone, its history is one of its own system. -/
theorem project {τ κ : Type} {N : Lts τ κ} {f : σ → τ} {g : ℓ → Option κ}
    (hpart : ∀ s l s' k, M.step s l s' → g l = some k → N.step (f s) k (f s'))
    (hother : ∀ s l s', M.step s l s' → g l = none → f s' = f s) {s t : σ} {H : List (Taken σ ℓ)}
    (h : M.Trace s H t) : N.Trace (f s) (part f g H) (f t) := by
  induction h with
  | nil s => exact .nil _
  | @cons s s' t l H hl _ ih =>
    cases hk : g l with
    | none =>
      rw [hother s l s' hl hk] at ih
      simpa [part, hk] using ih
    | some k => simpa [part, hk] using Trace.cons (hpart s l s' k hl hk) ih

end Trace

/-! ## Every step, with what came before it -/

/-- Every element of a list, with those before it, satisfies `P`. -/
def Every {α : Type} (P : List α → α → Prop) (H : List α) : Prop := ∀ n, ∀ h : n < H.length, P (H.take n) H[n]

instance {α : Type} (P : List α → α → Prop) [∀ K a, Decidable (P K a)] (H : List α) : Decidable (Every P H) :=
  inferInstanceAs (Decidable (∀ n, ∀ h : n < H.length, P (H.take n) H[n]))

theorem Every.nil {α : Type} {P : List α → α → Prop} : Every P [] := nofun

theorem every_snoc {α : Type} {P : List α → α → Prop} {H : List α} {a : α} :
    Every P (H ++ [a]) ↔ Every P H ∧ P H a := by
  constructor
  · intro h
    refine ⟨fun n hn => ?_, ?_⟩
    · have := h n (by simp; omega)
      rwa [List.take_append_of_le_length (Nat.le_of_lt hn), List.getElem_append_left hn] at this
    · have := h H.length (by simp)
      simpa using this
  · rintro ⟨h, ha⟩ n hn
    by_cases hlt : n < H.length
    · have := h n hlt
      rwa [List.take_append_of_le_length (Nat.le_of_lt hlt), List.getElem_append_left hlt]
    · have heq : n = H.length := by simp at hn; omega
      subst heq
      simpa using ha

/-! ## Entries written once -/

section
variable {V : Type}

/-- `entry` is written once and kept, and the calls marked by `call` use it: a call that finds the
    entry changes nothing, and answers what it found; one that does not, writes it.  Nothing else
    writes it. -/
structure WrittenOnce (M : Lts σ ℓ) (entry : σ → Option V) (call : ℓ → Option V) : Prop where
  write : ∀ {s l s' v}, M.Reach anyStep s → M.step s l s' → entry s = none → entry s' = some v →
    call l = some v
  keep : ∀ {s l s' v}, M.Reach anyStep s → M.step s l s' → entry s = some v → entry s' = some v
  call : ∀ {s l s' v}, M.Reach anyStep s → M.step s l s' → call l = some v →
    (entry s = some v ∧ s' = s) ∨ (entry s = none ∧ entry s' = some v)

variable {entry : σ → Option V} {call : ℓ → Option V}

/-- After the entry was written, the calls change nothing. -/
theorem WrittenOnce.replays (h : M.WrittenOnce entry call) {s t : σ} {H : List (Taken σ ℓ)}
    (hH : M.Trace s H t) (hs : M.Reach anyStep s) {v : V} (hv : entry s = some v) :
    entry t = some v ∧ ∀ e ∈ H, ∀ w, call e.label = some w → w = v ∧ e.after = e.before := by
  induction hH with
  | nil s => exact ⟨hv, by simp⟩
  | @cons s s' t l H hl ht ih =>
    obtain ⟨hend, hrest⟩ := ih (hs.step trivial hl) (h.keep hs hl hv)
    refine ⟨hend, fun e he w hw => ?_⟩
    rcases List.mem_cons.1 he with rfl | he
    · rcases h.call hs hl hw with ⟨hw', hsame⟩ | ⟨hnone, -⟩
      · rw [hv] at hw'
        exact ⟨(Option.some.inj hw').symm, hsame⟩
      · rw [hv] at hnone; cases hnone
    · exact hrest e he w hw

/-- **First-write rule.**  Of the calls of a history, the first writes the entry; the others answer
    the same and change nothing. -/
theorem WrittenOnce.firstWrites (h : M.WrittenOnce entry call) {s t : σ} {H : List (Taken σ ℓ)}
    (hH : M.Trace s H t) (hs : M.Reach anyStep s) (hnone : entry s = none)
    (hne : H.filter (fun e => (call e.label).isSome) ≠ []) :
    ∃ v e rest, H.filter (fun e => (call e.label).isSome) = e :: rest ∧ entry t = some v ∧
      (M.Reach anyStep e.before ∧ M.step e.before e.label e.after ∧ entry e.before = none ∧
        call e.label = some v) ∧
      ∀ e' ∈ rest, call e'.label = some v ∧ e'.after = e'.before := by
  induction hH with
  | nil s => exact absurd rfl hne
  | @cons s s' t l H hl ht ih =>
    cases hc : call l with
    | none =>
      rw [List.filter_cons_of_neg (by simp [hc])] at hne ⊢
      cases he : entry s' with
      | none => exact ih (hs.step trivial hl) he hne
      | some v =>
        have hv := h.write hs hl hnone he
        rw [hc] at hv; cases hv
    | some v =>
      rw [List.filter_cons_of_pos (by simp [hc])]
      rcases h.call hs hl hc with ⟨hv, -⟩ | ⟨-, hv⟩
      · rw [hnone] at hv; cases hv
      · obtain ⟨hend, hrest⟩ := h.replays ht (hs.step trivial hl) hv
        refine ⟨v, _, _, rfl, hend, ⟨hs, hl, hnone, hc⟩, fun e' he' => ?_⟩
        obtain ⟨hmem, hsome⟩ := List.mem_filter.1 he'
        obtain ⟨w, hw⟩ := Option.isSome_iff_exists.1 hsome
        obtain ⟨rfl, hsame⟩ := hrest e' hmem w hw
        exact ⟨hw, hsame⟩

end
end Lib.Lts
