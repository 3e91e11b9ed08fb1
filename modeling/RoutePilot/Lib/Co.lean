/-
  Coroutines with exceptions, and a rely-guarantee logic for them.

  A coroutine (`Co`) returns, raises, awaits an operation, or performs an
  immediate action; between two awaits it is not interrupted.  What an await
  answers is an outcome, so that a coroutine can catch what is raised at it,
  and `handle` is the one way to go on after an outcome: sequencing,
  `try`/`except` and `finally` are instances.

  `Wp L c Q s` says that the coroutine `c`, started in the shared state `s`
  next to others that move the state by `L.rely` only, takes steps of `L.guar`
  only and ends in an outcome and a state of `Q`.
-/
import Mathlib.Logic.Basic

namespace Lib

/-- What coroutines can do: awaited operations, immediate actions, and exceptions. -/
structure Effects where
  Op : Type
  Ans : Op → Type
  Act : Type
  Res : Act → Type
  Err : Type

inductive Co (E : Effects) (α : Type) : Type
  | ret (a : α)
  | raise (e : E.Err)
  | await (o : E.Op) (k : Except E.Err (E.Ans o) → Co E α)
  | now (n : E.Act) (k : E.Res n → Co E α)

namespace Co
variable {E : Effects} {α β γ : Type}

/-- Run a coroutine, then go on with its outcome. -/
def handle (f : Except E.Err α → Co E β) : Co E α → Co E β
  | ret a => f (.ok a)
  | raise e => f (.error e)
  | await o k => await o fun r => handle f (k r)
  | now n k => now n fun r => handle f (k r)

/-- The outcome as a coroutine. -/
def ofExcept : Except E.Err α → Co E α
  | .ok a => ret a
  | .error e => raise e

/-- Sequencing: an exception skips the rest. -/
def bind (x : Co E α) (f : α → Co E β) : Co E β :=
  x.handle fun
    | .ok a => f a
    | .error e => raise e

instance : Monad (Co E) where
  pure := ret
  bind := bind

/-- `try: x` with `except` clauses `h`. -/
def tryCatch (x : Co E α) (h : E.Err → Co E α) : Co E α :=
  x.handle fun
    | .ok a => ret a
    | .error e => h e

/-- `try: x` with `finally: f`; an exception of `f` replaces the outcome of `x`. -/
def tryFinally (x : Co E α) (f : Co E Unit) : Co E α :=
  x.handle fun r => f.bind fun _ => ofExcept r

/-- Await one operation. -/
def call (o : E.Op) : Co E (E.Ans o) := await o ofExcept

/-- Perform one immediate action. -/
def act (n : E.Act) : Co E (E.Res n) := now n ret

/-- The coroutine has ended. -/
def isDone : Co E α → Bool
  | ret _ | raise _ => true
  | _ => false

/-- The coroutine is suspended or has ended: no action is left to perform. -/
def isSettled : Co E α → Bool
  | now .. => false
  | _ => true

/-- Every operation the coroutine can await satisfies `P`, and every action `A`. -/
def Only (P : E.Op → Prop) (A : E.Act → Prop) : Co E α → Prop
  | ret _ | raise _ => True
  | await o k => P o ∧ ∀ r, Only P A (k r)
  | now n k => A n ∧ ∀ r, Only P A (k r)

theorem Only.handle {P : E.Op → Prop} {A : E.Act → Prop} {f : Except E.Err α → Co E β}
    (hf : ∀ r, (f r).Only P A) : ∀ {x : Co E α}, x.Only P A → (x.handle f).Only P A
  | ret _, _ => hf _
  | raise _, _ => hf _
  | await _ _, h => ⟨h.1, fun r => Only.handle hf (h.2 r)⟩
  | now _ _, h => ⟨h.1, fun r => Only.handle hf (h.2 r)⟩

theorem Only.bind {P : E.Op → Prop} {A : E.Act → Prop} {x : Co E α} {f : α → Co E β}
    (hx : x.Only P A) (hf : ∀ a, (f a).Only P A) : (x >>= f).Only P A := by
  refine Only.handle (fun r => ?_) hx
  cases r with
  | ok a => exact hf a
  | error e => trivial

theorem Only.tryCatch {P : E.Op → Prop} {A : E.Act → Prop} {x : Co E α} {h : E.Err → Co E α}
    (hx : x.Only P A) (hh : ∀ e, (h e).Only P A) : (x.tryCatch h).Only P A := by
  refine Only.handle (fun r => ?_) hx
  cases r with
  | ok a => trivial
  | error e => exact hh e

theorem Only.call {P : E.Op → Prop} {A : E.Act → Prop} {o : E.Op} (h : P o) :
    (Co.call o).Only P A :=
  ⟨h, fun r => by cases r <;> trivial⟩

theorem Only.act {P : E.Op → Prop} {A : E.Act → Prop} {n : E.Act} (h : A n) : (act n).Only P A :=
  ⟨h, fun _ => trivial⟩

theorem Only.of_all {P : E.Op → Prop} {A : E.Act → Prop} (hP : ∀ o, P o) (hA : ∀ n, A n) :
    ∀ x : Co E α, x.Only P A
  | ret _ | raise _ => trivial
  | await o k => ⟨hP o, fun r => Only.of_all hP hA (k r)⟩
  | now n k => ⟨hA n, fun r => Only.of_all hP hA (k r)⟩

/-! ### Coroutines and what they are answered -/

/-- Every operation the coroutine can await satisfies `P`, and every value it returns `Q`, if every
    answer it gets satisfies `K`. -/
def Within (P : E.Op → Prop) (K : (o : E.Op) → Except E.Err (E.Ans o) → Prop) (Q : α → Prop) : Co E α → Prop
  | ret a => Q a
  | raise _ => True
  | await o k => P o ∧ ∀ r, K o r → Within P K Q (k r)
  | now _ k => ∀ r, Within P K Q (k r)

section
variable {P : E.Op → Prop} {K : (o : E.Op) → Except E.Err (E.Ans o) → Prop} {Q : α → Prop} {R : β → Prop}

theorem Within.handle {f : Except E.Err α → Co E β} (hok : ∀ a, Q a → (f (.ok a)).Within P K R)
    (herr : ∀ e, (f (.error e)).Within P K R) : ∀ {x : Co E α}, x.Within P K Q → (x.handle f).Within P K R
  | ret a, h => hok a h
  | raise e, _ => herr e
  | await _ _, h => ⟨h.1, fun r hr => Within.handle hok herr (h.2 r hr)⟩
  | now _ _, h => fun r => Within.handle hok herr (h r)

theorem Within.bind {x : Co E α} {f : α → Co E β} (hx : x.Within P K Q) (hf : ∀ a, Q a → (f a).Within P K R) :
    (x >>= f).Within P K R := by
  refine Within.handle (fun a ha => ?_) (fun e => ?_) hx
  · exact hf a ha
  · exact trivial

theorem Within.tryCatch {x : Co E α} {h : E.Err → Co E α} (hx : x.Within P K Q) (hh : ∀ e, (h e).Within P K Q) :
    (x.tryCatch h).Within P K Q := Within.handle (fun _ ha => ha) hh hx

theorem Within.tryFinally {x : Co E α} {f : Co E Unit} (hx : x.Within P K Q)
    (hf : f.Within P K fun _ => True) : (x.tryFinally f).Within P K Q := by
  refine Within.handle (fun a ha => ?_) (fun e => ?_) hx
  · exact Within.bind hf fun _ _ => ha
  · exact Within.bind hf fun _ _ => trivial

theorem Within.call {o : E.Op} {Q : E.Ans o → Prop} (h : P o) (hQ : ∀ a, K o (.ok a) → Q a) :
    (Co.call o).Within P K Q := by
  refine ⟨h, fun r hr => ?_⟩
  cases r with
  | ok a => exact hQ a hr
  | error e => trivial

theorem Within.act {n : E.Act} : (Co.act n : Co E _).Within P K fun _ => True := fun _ => trivial

end

end Co

/-! ## The logic -/

/-- How the shared state moves.  `exec` is what an awaited operation may answer and leave behind,
    `acts` the same for an action, `interrupt` the exceptions that may be raised at an await in
    place of its operation, `rely` the moves of the others; a coroutine's own operations must
    satisfy `guar`, and its actions `may`. -/
structure Logic (E : Effects) (S : Type) where
  exec : (o : E.Op) → S → Except E.Err (E.Ans o) → S → Prop
  acts : (n : E.Act) → S → E.Res n → S → Prop
  interrupt : E.Err → S → Prop
  rely : S → S → Prop
  guar : S → E.Op → S → Prop
  may : E.Act → S → Prop
  rely_refl : ∀ s, rely s s
  rely_trans : ∀ s₁ s₂ s₃, rely s₁ s₂ → rely s₂ s₃ → rely s₁ s₃

section
variable {E : Effects} {S α β : Type} (L : Logic E S)

def Wp : Co E α → (Except E.Err α → S → Prop) → S → Prop
  | .ret a, Q, s => Q (.ok a) s
  | .raise e, Q, s => Q (.error e) s
  | .await o k, Q, s => ∀ s₁, L.rely s s₁ →
      (∀ e, L.interrupt e s₁ → Wp (k (.error e)) Q s₁) ∧
      ∀ r s₂, L.exec o s₁ r s₂ → L.guar s₁ o s₂ ∧ Wp (k r) Q s₂
  | .now n k, Q, s => L.may n s ∧ ∀ r s', L.acts n s r s' → Wp (k r) Q s'

variable {L}

theorem Wp.mono {Q Q' : Except E.Err α → S → Prop} (hQ : ∀ r s, Q r s → Q' r s) :
    ∀ {x : Co E α} {s : S}, Wp L x Q s → Wp L x Q' s
  | .ret _, _, h => hQ _ _ h
  | .raise _, _, h => hQ _ _ h
  | .await _ _, _, h => fun s₁ hr =>
    ⟨fun e he => Wp.mono hQ ((h s₁ hr).1 e he),
      fun r s₂ hx => ⟨((h s₁ hr).2 r s₂ hx).1, Wp.mono hQ ((h s₁ hr).2 r s₂ hx).2⟩⟩
  | .now _ _, _, h => ⟨h.1, fun r s' hs => Wp.mono hQ (h.2 r s' hs)⟩

/-- A coroutine whose operations and actions are all allowed meets its logic. -/
theorem Wp.of_only {P : E.Op → Prop} {A : E.Act → Prop}
    (hguar : ∀ s o s', P o → L.guar s o s') (hmay : ∀ n s, A n → L.may n s) :
    ∀ {x : Co E α} {s : S}, x.Only P A → Wp L x (fun _ _ => True) s
  | .ret _, _, _ => trivial
  | .raise _, _, _ => trivial
  | .await _ _, _, h => fun s₁ _ =>
    ⟨fun e _ => Wp.of_only hguar hmay (h.2 (.error e)),
      fun r s₂ _ => ⟨hguar s₁ _ s₂ h.1, Wp.of_only hguar hmay (h.2 r)⟩⟩
  | .now _ _, _, h => ⟨hmay _ _ h.1, fun r _ _ => Wp.of_only hguar hmay (h.2 r)⟩

/-- A coroutine whose operations are all allowed, if its answers are as the logic says, meets its logic. -/
theorem Wp.of_within {P : E.Op → Prop} {K : (o : E.Op) → Except E.Err (E.Ans o) → Prop} {Q : α → Prop}
    (hguar : ∀ s o s', P o → L.guar s o s') (hexec : ∀ o s r s', L.exec o s r s' → K o r)
    (herr : ∀ o e, K o (.error e)) (hmay : ∀ n s, L.may n s) :
    ∀ {x : Co E α} {s : S}, x.Within P K Q → Wp L x (fun _ _ => True) s
  | .ret _, _, _ => trivial
  | .raise _, _, _ => trivial
  | .await _ _, _, h => fun s₁ _ =>
    ⟨fun e _ => Wp.of_within hguar hexec herr hmay (h.2 (.error e) (herr _ e)),
      fun r s₂ hx => ⟨hguar s₁ _ s₂ h.1, Wp.of_within hguar hexec herr hmay (h.2 r (hexec _ _ _ _ hx))⟩⟩
  | .now _ _, _, h => ⟨hmay _ _, fun r _ _ => Wp.of_within hguar hexec herr hmay (h r)⟩

/-- The rule for going on after an outcome. -/
theorem Wp.handle {Q : Except E.Err β → S → Prop} {f : Except E.Err α → Co E β} :
    ∀ {x : Co E α} {s : S}, Wp L x (fun r s' => Wp L (f r) Q s') s → Wp L (x.handle f) Q s
  | .ret _, _, h => h
  | .raise _, _, h => h
  | .await _ _, _, h => fun s₁ hr =>
    ⟨fun e he => Wp.handle ((h s₁ hr).1 e he),
      fun r s₂ hx => ⟨((h s₁ hr).2 r s₂ hx).1, Wp.handle ((h s₁ hr).2 r s₂ hx).2⟩⟩
  | .now _ _, _, h => ⟨h.1, fun r s' hs => Wp.handle (h.2 r s' hs)⟩

/-- Sequencing: the rest runs after a value, an exception is passed on. -/
theorem Wp.bind {Q : Except E.Err β → S → Prop} {x : Co E α} {f : α → Co E β} {s : S}
    (h : Wp L x (fun r s' => match r with
      | .ok a => Wp L (f a) Q s'
      | .error e => Q (.error e) s') s) : Wp L (x >>= f) Q s := by
  refine Wp.handle (h.mono fun r s' hr => ?_)
  cases r <;> exact hr

/-- One await. -/
theorem Wp.call {o : E.Op} {Q : Except E.Err (E.Ans o) → S → Prop} {s : S}
    (h : ∀ s₁, L.rely s s₁ → (∀ e, L.interrupt e s₁ → Q (.error e) s₁) ∧
      ∀ r s₂, L.exec o s₁ r s₂ → L.guar s₁ o s₂ ∧ Q r s₂) : Wp L (Co.call o) Q s := by
  intro s₁ hr
  refine ⟨fun e he => (h s₁ hr).1 e he, fun r s₂ hx => ⟨((h s₁ hr).2 r s₂ hx).1, ?_⟩⟩
  have hq := ((h s₁ hr).2 r s₂ hx).2
  cases r <;> exact hq

theorem Wp.act {n : E.Act} {Q : Except E.Err (E.Res n) → S → Prop} {s : S}
    (hn : L.may n s) (h : ∀ r s', L.acts n s r s' → Q (.ok r) s') : Wp L (Co.act n) Q s := ⟨hn, h⟩

/-! ### Coroutines that may raise at any time -/

/-- The coroutine meets its logic and returns only values and states of `R`; nothing is said about
    the states in which it raises. -/
def Safe (L : Logic E S) (x : Co E α) (R : α → S → Prop) (s : S) : Prop :=
  Wp L x (fun r s' => ∀ a, r = .ok a → R a s') s

theorem Safe.mono {R R' : α → S → Prop} {x : Co E α} {s : S} (h : Safe L x R s)
    (hR : ∀ a s', R a s' → R' a s') : Safe L x R' s :=
  Wp.mono (fun _ s' hr a ha => hR a s' (hr a ha)) h

theorem Safe.ret {R : α → S → Prop} {a : α} {s : S} (h : R a s) : Safe L (Co.ret a) R s := by
  rintro b hb
  cases hb
  exact h

theorem Safe.raise {R : α → S → Prop} {e : E.Err} {s : S} : Safe L (Co.raise e) R s := nofun

theorem Safe.handle {R : β → S → Prop} {x : Co E α} {f : Except E.Err α → Co E β} {s : S}
    (hx : Safe L x (fun a s' => Safe L (f (.ok a)) R s') s)
    (herr : ∀ e s', Safe L (f (.error e)) R s') : Safe L (x.handle f) R s := by
  refine Wp.handle (Wp.mono (fun r s' hr => ?_) hx)
  cases r with
  | ok a => exact hr a rfl
  | error e => exact herr e s'

theorem Safe.bind {R : β → S → Prop} {x : Co E α} {f : α → Co E β} {s : S}
    (hx : Safe L x (fun a s' => Safe L (f a) R s') s) : Safe L (x >>= f) R s :=
  Safe.handle hx fun _ _ => Safe.raise

theorem Safe.tryCatch {R : α → S → Prop} {x : Co E α} {h : E.Err → Co E α} {s : S}
    (hx : Safe L x R s) (herr : ∀ e s', Safe L (h e) R s') : Safe L (x.tryCatch h) R s :=
  Safe.handle (hx.mono fun _ _ hr => Safe.ret hr) herr

theorem Safe.call {o : E.Op} {R : E.Ans o → S → Prop} {s : S}
    (h : ∀ s₁, L.rely s s₁ → ∀ r s₂, L.exec o s₁ r s₂ →
      L.guar s₁ o s₂ ∧ ∀ a, r = .ok a → R a s₂) : Safe L (Co.call o) R s :=
  Wp.call fun s₁ hr => ⟨fun _ _ => nofun, fun r s₂ hx => h s₁ hr r s₂ hx⟩

theorem Safe.act {n : E.Act} {R : E.Res n → S → Prop} {s : S} (hn : L.may n s)
    (h : ∀ r s', L.acts n s r s' → R r s') : Safe L (Co.act n) R s :=
  Wp.act hn fun r s' hs a ha => by cases ha; exact h r s' hs

/-- What a suspended coroutine satisfies survives the steps of the others. -/
theorem Wp.rely {Q : Except E.Err α → S → Prop} (hQ : ∀ r s s', Q r s → L.rely s s' → Q r s')
    {x : Co E α} {s s' : S} (hx : x.isSettled) (h : Wp L x Q s) (hr : L.rely s s') :
    Wp L x Q s' := by
  cases x with
  | ret a => exact hQ _ _ _ h hr
  | raise e => exact hQ _ _ _ h hr
  | await o k => exact fun s₁ hs => h s₁ (L.rely_trans _ _ _ hr hs)
  | now n k => cases hx

end
end Lib
