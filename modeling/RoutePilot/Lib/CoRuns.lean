/-
  Runs of a coroutine on its own, and a logic of its history.

  `x.Ends K trace outcome` says that a run of `x` in which every answer is one of `K` has
  awaited and been answered `trace`, and has ended.  `Triple K x t R F` says that every such
  run that follows the history `t` returns a history and a value of `R`, or raises an
  exception and leaves a history of `F`.
-/
import Mathlib.Data.List.Forall2
import RoutePilot.Lib.Co

namespace Lib.Co

variable {E : Effects} {α β : Type}

/-- An operation that was awaited, and what it was answered. -/
abbrev Exchange (E : Effects) := (o : E.Op) × Except E.Err (E.Ans o)

abbrev Trace (E : Effects) := List (Exchange E)

/-- The answers that may be given. -/
abbrev Answers (E : Effects) := (o : E.Op) → Except E.Err (E.Ans o) → Prop

inductive Ends (K : Answers E) : Co E α → Trace E → Except E.Err α → Prop
  | ret (a : α) : Ends K (.ret a) [] (.ok a)
  | raise (e : E.Err) : Ends K (.raise e) [] (.error e)
  | await {o : E.Op} {k : Except E.Err (E.Ans o) → Co E α} {t : Trace E} {out : Except E.Err α}
      (r : Except E.Err (E.Ans o)) (hr : K o r) (h : Ends K (k r) t out) : Ends K (.await o k) (⟨o, r⟩ :: t) out
  | now {n : E.Act} {k : E.Res n → Co E α} {t : Trace E} {out : Except E.Err α} (r : E.Res n) (h : Ends K (k r) t out) :
      Ends K (.now n k) t out

/-- A run that goes on after an outcome. -/
theorem Ends.of_handle {K : Answers E} {f : Except E.Err α → Co E β} {out : Except E.Err β} {x : Co E α} {t : Trace E}
    (h : (x.handle f).Ends K t out) : ∃ t₁ t₂ r, t = t₁ ++ t₂ ∧ x.Ends K t₁ r ∧ (f r).Ends K t₂ out := by
  induction x generalizing t with
  | ret a => exact ⟨[], t, .ok a, rfl, .ret a, h⟩
  | raise e => exact ⟨[], t, .error e, rfl, .raise e, h⟩
  | await o k ih =>
    cases h with
    | await r hr h =>
      obtain ⟨t₁, t₂, outcome, rfl, hx, hf⟩ := ih r h
      exact ⟨⟨o, r⟩ :: t₁, t₂, outcome, rfl, .await r hr hx, hf⟩
  | now n k ih =>
    cases h with
    | now r h =>
      obtain ⟨t₁, t₂, outcome, rfl, hx, hf⟩ := ih r h
      exact ⟨t₁, t₂, outcome, rfl, .now r hx, hf⟩

/-- A history and an outcome. -/
def Outcome (R : Trace E → α → Prop) (F : Trace E → E.Err → Prop) (t : Trace E) : Except E.Err α → Prop
  | .ok a => R t a
  | .error e => F t e

/-- Every run after the history `t` ends as it should. -/
def Triple (K : Answers E) (x : Co E α) (t : Trace E) (R : Trace E → α → Prop) (F : Trace E → E.Err → Prop) : Prop :=
  ∀ t' out, x.Ends K t' out → Outcome R F (t ++ t') out

namespace Triple

variable {K : Answers E} {t : Trace E} {R : Trace E → α → Prop} {F : Trace E → E.Err → Prop}

theorem mono {R' : Trace E → α → Prop} {x : Co E α} (h : Triple K x t R F) (hR : ∀ t a, R t a → R' t a) :
    Triple K x t R' F := by
  intro t' out hx
  have hout := h t' out hx
  cases out with
  | ok a => exact hR _ a hout
  | error e => exact hout

theorem ret {a : α} (h : R t a) : Triple K (.ret a) t R F := by
  rintro t' out ⟨⟩
  rw [List.append_nil]
  exact h

theorem raise {e : E.Err} (h : F t e) : Triple K (.raise e : Co E α) t R F := by
  rintro t' out ⟨⟩
  rw [List.append_nil]
  exact h

theorem handle {R' : Trace E → β → Prop} {F' : Trace E → E.Err → Prop} {x : Co E α} {f : Except E.Err α → Co E β}
    (hx : Triple K x t R F) (hok : ∀ t a, R t a → Triple K (f (.ok a)) t R' F')
    (herr : ∀ t e, F t e → Triple K (f (.error e)) t R' F') : Triple K (x.handle f) t R' F' := by
  intro t' out h
  obtain ⟨t₁, t₂, r, rfl, h₁, h₂⟩ := h.of_handle
  have hr := hx t₁ r h₁
  rw [← List.append_assoc]
  cases r with
  | ok a => exact hok _ a hr t₂ out h₂
  | error e => exact herr _ e hr t₂ out h₂

/-- Sequencing. -/
theorem bind {R' : Trace E → β → Prop} {x : Co E α} {f : α → Co E β} (hx : Triple K x t R F)
    (hf : ∀ t a, R t a → Triple K (f a) t R' F) : Triple K (x >>= f) t R' F :=
  handle hx hf fun _ _ he => raise he

/-- Something that leaves the history as it was, first. -/
theorem skip {R' : Trace E → β → Prop} {P : α → Prop} {x : Co E α} {f : α → Co E β}
    (hx : Triple K x t (fun t' a => t' = t ∧ P a) F) (hf : ∀ a, P a → Triple K (f a) t R' F) :
    Triple K (x >>= f) t R' F := by
  refine bind hx ?_
  rintro _ a ⟨rfl, ha⟩
  exact hf a ha

theorem tryCatch {F' : Trace E → E.Err → Prop} {x : Co E α} {h : E.Err → Co E α} (hx : Triple K x t R F)
    (hh : ∀ t e, F t e → Triple K (h e) t R F') : Triple K (x.tryCatch h) t R F' :=
  handle hx (fun _ _ ha => ret ha) hh

/-- One await. -/
theorem call {o : E.Op} {R : Trace E → E.Ans o → Prop} (h : ∀ r, K o r → Outcome R F (t ++ [⟨o, r⟩]) r) :
    Triple K (Co.call o) t R F := by
  rintro t' out ⟨⟩
  rename_i t' r hr hend
  have hout := h r hr
  cases r <;> cases hend <;> exact hout

theorem act {n : E.Act} : Triple K (Co.act n) t (fun t' _ => t' = t ∧ True) F := by
  rintro t' out ⟨⟩
  rename_i r hend
  cases hend
  exact ⟨List.append_nil t, trivial⟩

/-- **The loop rule**: a round takes the invariant of the items before to that of one more. -/
theorem foldlM {f : β → α → Co E β} {l : List α} {I : List α → Trace E → β → Prop}
    (hstep : ∀ done a rest t b, l = done ++ a :: rest → I done t b →
      Triple K (f b a) t (fun t' b' => I (done ++ [a]) t' b') F) :
    ∀ {rest done : List α} {t : Trace E} {b : β}, l = done ++ rest → I done t b →
      Triple K (rest.foldlM f b) t (fun t' b' => I l t' b') F := by
  intro rest
  induction rest with
  | nil =>
    intro done t b hl hb
    rw [List.append_nil] at hl
    rw [List.foldlM_nil, hl]
    exact ret hb
  | cons a rest ih =>
    intro done t b hl hb
    rw [List.foldlM_cons]
    refine bind (hstep done a rest t b hl hb) fun t' b' hb' => ?_
    exact ih (by rw [hl, List.append_assoc, List.singleton_append]) hb'

/-- What is related to the items of a list. -/
theorem exists_mem_of_forall₂ {P : α → β → Prop} {as : List α} {bs : List β} (h : List.Forall₂ P as bs) {b : β}
    (hb : b ∈ bs) : ∃ a ∈ as, P a b := by
  induction h with
  | nil => cases hb
  | cons hab _ ih =>
    rcases List.mem_cons.1 hb with rfl | hb
    · exact ⟨_, List.mem_cons_self, hab⟩
    · obtain ⟨a, ha, hP⟩ := ih hb
      exact ⟨a, List.mem_cons_of_mem _ ha, hP⟩

/-- A map over a list that leaves the history as it was. -/
theorem mapM {f : α → Co E β} {P : α → β → Prop} {l : List α}
    (hf : ∀ a ∈ l, Triple K (f a) t (fun t' b => t' = t ∧ P a b) F) :
    Triple K (l.mapM f) t (fun t' bs => t' = t ∧ List.Forall₂ P l bs) F := by
  have hloop : ∀ (rest done : List α) (bs : List β), (∀ a ∈ rest, Triple K (f a) t (fun t' b => t' = t ∧ P a b) F) →
      List.Forall₂ P done bs.reverse →
        Triple K (List.mapM.loop f rest bs) t (fun t' bs => t' = t ∧ List.Forall₂ P (done ++ rest) bs) F := by
    intro rest
    induction rest with
    | nil =>
      intro done bs _ hdone
      refine ret ⟨rfl, ?_⟩
      rw [List.append_nil]
      exact hdone
    | cons a rest ih =>
      intro done bs hrest hdone
      refine skip (hrest a List.mem_cons_self) fun b hb => ?_
      have hnext := ih (done ++ [a]) (b :: bs) (fun a' ha' => hrest a' (List.mem_cons_of_mem _ ha'))
        (by rw [List.reverse_cons]; exact List.rel_append hdone (.cons hb .nil))
      rw [List.append_assoc, List.singleton_append] at hnext
      exact hnext
  exact hloop l [] [] hf .nil

end Triple
end Lib.Co
