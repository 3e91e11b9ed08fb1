/-
  Code that may raise.

  `Except ε α` is a computation that returns a value or raises.  `check c e k`
  raises `e` unless `c` holds and hands its proof on, so that what is built from
  checked parts carries the checks.

  `EStateM ε σ α` is code over a state `σ` that returns a value or raises; a
  raised exception keeps the changes made so far, as in Python.  `ensure` is a
  guarded `raise`, `ask` a check that only reads the state.  The `_ok` lemmas
  turn a successful run of a sequence into the checks it passed, so that an
  operation's specification is read off its text by rewriting.
-/
import Mathlib.Logic.Basic

namespace Lib

open EStateM (Result)

variable {ε σ α β : Type}

/-! ## Computations -/

@[simp] theorem ok_bind (a : α) (f : α → Except ε β) : ((Except.ok a : Except ε α) >>= f) = f a := rfl

@[simp] theorem error_bind (e : ε) (f : α → Except ε β) :
    ((Except.error e : Except ε α) >>= f) = .error e := rfl

theorem bind_eq_ok {x : Except ε α} {f : α → Except ε β} {b : β} :
    (x >>= f) = .ok b ↔ ∃ a, x = .ok a ∧ f a = .ok b := by
  cases x with
  | ok a => simp
  | error e => simp

/-- `e` unless `c` holds, and then what its proof gives. -/
def check (c : Prop) [Decidable c] (e : ε) (k : c → α) : Except ε α :=
  if h : c then .ok (k h) else .error e

section
variable {c : Prop} [Decidable c] {e : ε} {k : c → α}

theorem check_pos (h : c) : check c e k = .ok (k h) := dif_pos h

theorem check_eq_ok {a : α} : check c e k = .ok a ↔ ∃ h : c, k h = a := by
  unfold check
  split
  · next h => simp [h]
  · next h => simp [h]

end

/-- A computation that returns what is asked. -/
theorem exists_ok {x : Except ε α} {P : α → Prop} [DecidablePred P]
    (h : (match x with | .ok a => decide (P a) | .error _ => false) = true) : ∃ a, x = .ok a ∧ P a := by
  cases x with
  | ok a => exact ⟨a, rfl, of_decide_eq_true h⟩
  | error e => cases h

/-! ## Stateful code -/

/-- Raise `e` unless `c` holds. -/
def ensure (c : Prop) [Decidable c] (e : ε) : EStateM ε σ Unit :=
  if c then pure () else throw e

/-- A check that only reads the state. -/
def ask (f : σ → Except ε α) : EStateM ε σ α := fun s =>
  match f s with
  | .ok a => .ok a s
  | .error e => .error e s

/-- Code whose changes an exception undoes. -/
def atomic (x : EStateM ε σ α) : EStateM ε σ α := fun s =>
  match x s with
  | .ok a s' => .ok a s'
  | .error e _ => .error e s

theorem run_atomic (x : EStateM ε σ α) (s : σ) : (atomic x).run s = match x.run s with
    | .ok a s' => .ok a s'
    | .error e _ => .error e s := rfl

/-- The state a run ends in, whether it returned or raised. -/
def final : Result ε σ α → σ
  | .ok _ s => s
  | .error _ s => s

/-- The value a run returned or the exception it raised. -/
def outcome : Result ε σ α → Except ε α
  | .ok a _ => .ok a
  | .error e _ => .error e

@[simp] theorem final_ok (a : α) (s : σ) : final (.ok a s : Result ε σ α) = s := rfl
@[simp] theorem final_error (e : ε) (s : σ) : final (.error e s : Result ε σ α) = s := rfl
@[simp] theorem outcome_ok (a : α) (s : σ) : outcome (.ok a s : Result ε σ α) = .ok a := rfl
@[simp] theorem outcome_error (e : ε) (s : σ) : outcome (.error e s : Result ε σ α) = .error e := rfl

theorem outcome_eq_ok {r : Result ε σ α} {a : α} : outcome r = .ok a ↔ r = .ok a (final r) := by
  cases r <;> simp

/-- The run returned or raised `r`, and ended in the state `s`. -/
def Ran (x : Result ε σ α) : Except ε α → σ → Prop
  | .ok a, s => x = .ok a s
  | .error e, s => x = .error e s

theorem ran_iff {x : Result ε σ α} {r : Except ε α} {s : σ} : Ran x r s ↔ outcome x = r ∧ final x = s := by
  cases x <;> cases r <;> simp [Ran]

/-! ## Inversion of a successful run -/

@[simp] theorem run_ask (g : σ → Except ε α) (s : σ) :
    (ask g).run s = match g s with
      | .ok a => .ok a s
      | .error e => .error e s := rfl

theorem ask_ok {g : σ → Except ε α} {s s' : σ} {a : α} :
    (ask g).run s = .ok a s' ↔ g s = .ok a ∧ s = s' := by
  rw [run_ask]
  cases g s <;> simp

theorem ensure_ok {c : Prop} [Decidable c] {e : ε} {s s' : σ} {u : Unit} :
    (ensure c e : EStateM ε σ Unit).run s = .ok u s' ↔ c ∧ s = s' := by
  unfold ensure
  by_cases h : c <;> simp [h]

theorem bind_ok {x : EStateM ε σ α} {f : α → EStateM ε σ β} {s s' : σ} {b : β} :
    (x >>= f).run s = .ok b s' ↔ ∃ a s₁, x.run s = .ok a s₁ ∧ (f a).run s₁ = .ok b s' := by
  rw [EStateM.run_bind]
  cases h : x.run s with
  | ok a s₁ => exact ⟨fun h' => ⟨a, s₁, rfl, h'⟩, fun ⟨_, _, h₁, h₂⟩ => by cases h₁; exact h₂⟩
  | error e s₁ => simp

@[simp] theorem outcome_map (f : α → β) (x : EStateM ε σ α) (s : σ) :
    outcome ((f <$> x).run s) = (outcome (x.run s)).map f := by
  show outcome (EStateM.map f x s) = (outcome (x s)).map f
  unfold EStateM.map
  cases x s <;> rfl

@[simp] theorem final_map (f : α → β) (x : EStateM ε σ α) (s : σ) :
    final ((f <$> x).run s) = final (x.run s) := by
  show final (EStateM.map f x s) = final (x s)
  unfold EStateM.map
  cases x s <;> rfl

theorem run_map_congr {x y : EStateM ε σ α} {s : σ} (h : x.run s = y.run s) (f : α → β) :
    (f <$> x).run s = (f <$> y).run s := by
  show EStateM.map f x s = EStateM.map f y s
  unfold EStateM.map
  rw [show x s = y s from h]

/-! ## Agreement of two runs -/

/-- Two runs return or raise the same, and end in related states. -/
def Agree {τ : Type} (R : σ → τ → Prop) (x : Result ε σ α) (y : Result ε τ α) : Prop :=
  outcome x = outcome y ∧ R (final x) (final y)

namespace Agree
variable {τ : Type} {R : σ → τ → Prop}

theorem ok {a : α} {s : σ} {t : τ} (h : R s t) : Agree R (.ok a s : Result ε σ α) (.ok a t) := ⟨rfl, h⟩

theorem error {e : ε} {s : σ} {t : τ} (h : R s t) : Agree R (.error e s : Result ε σ α) (.error e t) :=
  ⟨rfl, h⟩

theorem map {x : EStateM ε σ α} {y : EStateM ε τ α} {s : σ} {t : τ} (h : Agree R (x.run s) (y.run t))
    (f : α → β) : Agree R ((f <$> x).run s) ((f <$> y).run t) := by
  unfold Agree
  rw [outcome_map, outcome_map, final_map, final_map, h.1]
  exact ⟨rfl, h.2⟩

end Agree

/-! ## Inversion of a run that raised -/

theorem ask_error {g : σ → Except ε α} {s s' : σ} {e : ε} :
    (ask g).run s = .error e s' ↔ g s = .error e ∧ s = s' := by
  rw [run_ask]
  cases g s <;> simp

theorem ensure_error {c : Prop} [Decidable c] {e e' : ε} {s s' : σ} :
    (ensure c e : EStateM ε σ Unit).run s = .error e' s' ↔ ¬ c ∧ e = e' ∧ s = s' := by
  unfold ensure
  by_cases h : c <;> simp [h]

theorem bind_error {x : EStateM ε σ α} {f : α → EStateM ε σ β} {s s' : σ} {e : ε} :
    (x >>= f).run s = .error e s' ↔
      x.run s = .error e s' ∨ ∃ a s₁, x.run s = .ok a s₁ ∧ (f a).run s₁ = .error e s' := by
  rw [EStateM.run_bind]
  cases h : x.run s with
  | ok a s₁ => simp [and_assoc]
  | error e₁ s₁ => simp

/-! ## Frames -/

/-- The code never changes the part `f` of the state, whether it returns or raises. -/
def Keeps {τ : Type} (f : σ → τ) (x : EStateM ε σ α) : Prop := ∀ s, f (final (x.run s)) = f s

namespace Keeps
variable {τ : Type} {f : σ → τ}

theorem bind {x : EStateM ε σ α} {g : α → EStateM ε σ β} (hx : Keeps f x)
    (hg : ∀ a, Keeps f (g a)) : Keeps f (x >>= g) := by
  intro s
  have h := hx s
  rw [EStateM.run_bind]
  cases hr : x.run s with
  | ok a s₁ => rw [hr] at h; exact (hg a s₁).trans h
  | error e s₁ => rw [hr] at h; exact h

theorem ok {x : EStateM ε σ α} (h : Keeps f x) {s s' : σ} {a : α} (hx : x.run s = .ok a s') :
    f s' = f s := by
  have := h s
  rwa [hx] at this

theorem pure (a : α) : Keeps f (pure a : EStateM ε σ α) := fun _ => rfl

theorem get : Keeps f (get : EStateM ε σ σ) := fun _ => rfl

theorem throw (e : ε) : Keeps f (throw e : EStateM ε σ α) := fun _ => rfl

theorem modify {u : σ → σ} (h : ∀ s, f (u s) = f s) : Keeps f (modify u : EStateM ε σ Unit) := h

theorem ensure (c : Prop) [Decidable c] (e : ε) : Keeps f (ensure c e : EStateM ε σ Unit) := by
  unfold Lib.ensure
  split
  · exact pure ()
  · exact throw e

theorem ask (g : σ → Except ε α) : Keeps f (ask g) := by
  intro s
  rw [run_ask]
  cases g s <;> rfl

theorem ite {c : Prop} [Decidable c] {x y : EStateM ε σ α} (hx : Keeps f x) (hy : Keeps f y) :
    Keeps f (if c then x else y) := by
  split
  · exact hx
  · exact hy

end Keeps

/-- The code changes nothing when it raises. -/
def KeepsOnRaise (x : EStateM ε σ α) : Prop := ∀ s e s', x.run s = .error e s' → s' = s

namespace KeepsOnRaise

theorem of_keeps {x : EStateM ε σ α} (h : Keeps id x) : KeepsOnRaise x := by
  intro s e s' he
  have := h s
  rw [he] at this; exact this

end KeepsOnRaise
end Lib
