/-
  How many operations a coroutine awaits.

  `Calls x ops` says that a run of `x`, whatever it is answered and wherever it
  is abandoned, has awaited the operations `ops`; `AtMost x n` bounds their
  number, by rules that follow the way coroutines are built.
-/
import Mathlib.Data.List.Basic
import RoutePilot.Lib.Co

namespace Lib.Co

variable {E : Effects} {α β : Type}

/-- The operations that a run has awaited so far. -/
inductive Calls : Co E α → List E.Op → Prop
  | stop (x : Co E α) : Calls x []
  | issue (o : E.Op) (k : Except E.Err (E.Ans o) → Co E α) : Calls (.await o k) [o]
  | await {o : E.Op} {k : Except E.Err (E.Ans o) → Co E α} {ops : List E.Op} (r : Except E.Err (E.Ans o))
      (h : Calls (k r) ops) : Calls (.await o k) (o :: ops)
  | now {n : E.Act} {k : E.Res n → Co E α} {ops : List E.Op} (r : E.Res n) (h : Calls (k r) ops) :
      Calls (.now n k) ops

/-- Every run awaits at most `n` operations. -/
def AtMost : Co E α → ℕ → Prop
  | ret _, _ | raise _, _ => True
  | await _ k, n => 1 ≤ n ∧ ∀ r, AtMost (k r) (n - 1)
  | now _ k, n => ∀ r, AtMost (k r) n

namespace AtMost

theorem calls {x : Co E α} {ops : List E.Op} (h : x.Calls ops) : ∀ {n : ℕ}, x.AtMost n → ops.length ≤ n := by
  induction h with
  | stop x => exact fun _ => Nat.zero_le _
  | issue o k => exact fun hn => hn.1
  | await r _ ih =>
    intro n hn
    have := ih (hn.2 r)
    have := hn.1
    simp only [List.length_cons]
    omega
  | now r _ ih => exact fun hn => ih (hn r)

theorem mono : ∀ {x : Co E α} {n m : ℕ}, x.AtMost n → n ≤ m → x.AtMost m
  | .ret _, _, _, _, _ | .raise _, _, _, _, _ => trivial
  | .await _ _, _, _, h, hle => ⟨Nat.le_trans h.1 hle, fun r => (h.2 r).mono (Nat.sub_le_sub_right hle 1)⟩
  | .now _ _, _, _, h, hle => fun r => (h r).mono hle

theorem ret {a : α} {n : ℕ} : (Co.ret a : Co E α).AtMost n := trivial

theorem call {o : E.Op} : (Co.call o).AtMost 1 := ⟨Nat.le_refl _, fun r => by cases r <;> trivial⟩

theorem act {n : E.Act} {m : ℕ} : (Co.act n).AtMost m := fun _ => trivial

theorem handle {f : Except E.Err α → Co E β} {m : ℕ} (hf : ∀ r, (f r).AtMost m) :
    ∀ {x : Co E α} {n : ℕ}, x.AtMost n → (x.handle f).AtMost (n + m)
  | .ret _, _, _ => (hf _).mono (Nat.le_add_left ..)
  | .raise _, _, _ => (hf _).mono (Nat.le_add_left ..)
  | .await _ _, n, h => ⟨Nat.le_trans h.1 (Nat.le_add_right ..), fun r => by
      have := handle hf (h.2 r)
      rwa [← Nat.sub_add_comm h.1] at this⟩
  | .now _ _, _, h => fun r => handle hf (h r)

theorem bind {x : Co E α} {f : α → Co E β} {n m : ℕ} (hx : x.AtMost n) (hf : ∀ a, (f a).AtMost m) :
    (x >>= f).AtMost (n + m) := by
  refine handle (fun r => ?_) hx
  cases r with
  | ok a => exact hf a
  | error e => trivial

/-- Something that awaits nothing, first. -/
theorem skip {x : Co E α} {f : α → Co E β} {m : ℕ} (hx : x.AtMost 0) (hf : ∀ a, (f a).AtMost m) :
    (x >>= f).AtMost m := by
  have h := hx.bind hf
  rwa [Nat.zero_add] at h

theorem tryCatch {x : Co E α} {h : E.Err → Co E α} {n m : ℕ} (hx : x.AtMost n) (hh : ∀ e, (h e).AtMost m) :
    (x.tryCatch h).AtMost (n + m) := by
  refine handle (fun r => ?_) hx
  cases r with
  | ok a => trivial
  | error e => exact hh e

/-- A loop that awaits at most `c` operations in each round. -/
theorem foldlM {f : β → α → Co E β} {c : ℕ} (hf : ∀ b a, (f b a).AtMost c) :
    ∀ {l : List α} {b : β}, (l.foldlM f b).AtMost (l.length * c)
  | [], _ => trivial
  | a :: l, b => by
    rw [List.foldlM_cons, List.length_cons, Nat.succ_mul, Nat.add_comm]
    exact (hf b a).bind fun b' => foldlM hf

theorem mapM {f : α → Co E β} {c : ℕ} (hf : ∀ a, (f a).AtMost c) (l : List α) : (l.mapM f).AtMost (l.length * c) := by
  have hloop : ∀ (l : List α) (bs : List β), (List.mapM.loop f l bs).AtMost (l.length * c) := by
    intro l
    induction l with
    | nil => exact fun _ => trivial
    | cons a l ih =>
      intro bs
      rw [List.length_cons, Nat.succ_mul, Nat.add_comm]
      exact (hf a).bind fun b => ih (b :: bs)
  exact hloop l []

end AtMost

namespace Calls

/-- Runs of what comes after an outcome. -/
theorem bind_now {n : E.Act} {f : E.Res n → Co E α} {ops : List E.Op} (r : E.Res n) (h : (f r).Calls ops) :
    (Co.act n >>= f).Calls ops := .now r h

end Calls
end Lib.Co
