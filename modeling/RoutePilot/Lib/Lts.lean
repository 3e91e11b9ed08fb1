/-
  Labelled transition systems, with the invariant rules every safety proof
  below is an instance of.

  A system has initial states and labelled steps.  `Reach ok` are the states
  reachable by steps that all meet a side condition `ok` on the state before
  the step and its label; `Reach (fun _ _ => True)` are the reachable states.
-/
import Mathlib.Logic.Relation

namespace Lib

/-- A labelled transition system. -/
structure Lts (σ ℓ : Type) where
  init : σ → Prop
  step : σ → ℓ → σ → Prop

namespace Lts
variable {σ ℓ : Type} (M : Lts σ ℓ)

/-- A step that meets the side condition. -/
def StepOk (ok : σ → ℓ → Prop) (s s' : σ) : Prop := ∃ l, ok s l ∧ M.step s l s'

/-- Zero or more steps that meet the side condition. -/
def Steps (ok : σ → ℓ → Prop) : σ → σ → Prop := Relation.ReflTransGen (M.StepOk ok)

/-- Reachable by steps that all meet the side condition. -/
def Reach (ok : σ → ℓ → Prop) (s : σ) : Prop := ∃ s₀, M.init s₀ ∧ M.Steps ok s₀ s

/-- The system with those of its steps that are in `q`. -/
def restrict (q : σ → ℓ → σ → Prop) : Lts σ ℓ where
  init := M.init
  step s l s' := M.step s l s' ∧ q s l s'

/-- No side condition. -/
def anyStep (_ : σ) (_ : ℓ) : Prop := True

variable {M} {ok : σ → ℓ → Prop}

theorem Reach.init {s : σ} (h : M.init s) : M.Reach ok s := ⟨s, h, .refl⟩

theorem Reach.step {s s' : σ} {l : ℓ} (h : M.Reach ok s) (hok : ok s l) (hs : M.step s l s') :
    M.Reach ok s' := by
  obtain ⟨s₀, h₀, hr⟩ := h
  exact ⟨s₀, h₀, hr.tail ⟨l, hok, hs⟩⟩

theorem Reach.steps {s s' : σ} (h : M.Reach ok s) (hs : M.Steps ok s s') : M.Reach ok s' := by
  obtain ⟨s₀, h₀, hr⟩ := h
  exact ⟨s₀, h₀, hr.trans hs⟩

/-- **Invariant rule.**  What holds initially and is preserved by every allowed step from a
    reachable state holds of every reachable state. -/
theorem Reach.invariant {I : σ → Prop} (hinit : ∀ s, M.init s → I s)
    (hstep : ∀ s l s', M.Reach ok s → I s → ok s l → M.step s l s' → I s') {s : σ}
    (h : M.Reach ok s) : I s := by
  obtain ⟨s₀, h₀, hr⟩ := h
  induction hr with
  | refl => exact hinit _ h₀
  | tail hr hs ih =>
    obtain ⟨l, hok, hs⟩ := hs
    exact hstep _ l _ ⟨s₀, h₀, hr⟩ ih hok hs

/-- **Run rule.**  A reflexive, transitive relation that every allowed step from a reachable state
    establishes relates the ends of every run. -/
theorem Steps.relate {R : σ → σ → Prop} (hrefl : ∀ s, R s s)
    (htrans : ∀ s₁ s₂ s₃, R s₁ s₂ → R s₂ s₃ → R s₁ s₃)
    (hstep : ∀ s l s', M.Reach ok s → ok s l → M.step s l s' → R s s') {s s' : σ}
    (h : M.Reach ok s) (hs : M.Steps ok s s') : R s s' := by
  induction hs with
  | refl => exact hrefl _
  | tail hs hl ih =>
    obtain ⟨l, hok, hl⟩ := hl
    exact htrans _ _ _ ih (hstep _ l _ (h.steps hs) hok hl)

theorem Reach.mono {ok' : σ → ℓ → Prop} (himp : ∀ s l, ok s l → ok' s l) {s : σ}
    (h : M.Reach ok s) : M.Reach ok' s := by
  obtain ⟨s₀, h₀, hr⟩ := h
  have hstep : ∀ a b, M.StepOk ok a b → M.StepOk ok' a b :=
    fun a _ ⟨l, hok, hl⟩ => ⟨l, himp a l hok, hl⟩
  exact ⟨s₀, h₀, Relation.ReflTransGen.mono hstep s₀ s hr⟩

end Lts
end Lib
