/-
  Programs that may be killed between durable writes.

  A program runs over a durable world and is given a number of writes to live
  for: at the next one it is killed, and what it held in memory is gone
  (`durable`).  `Leads` is its pre- and postcondition, with a condition on the
  world that is left when it is killed or raises, and `Completes` is a run that
  nothing interrupts.  A condition that every end of a run keeps holds after any
  number of killed runs (`Leads.restarts`).

  What a program applies is often a sequence of items.  Where applying an item
  again is no change (`Settles`), however much was applied since, a run that
  starts again anywhere inside what is already applied ends where an
  uninterrupted run would be (`Settles.overlap`).
-/
import Mathlib.Data.List.Basic
import RoutePilot.Lib.EState

namespace Lib

variable {ε W α β : Type}

/-- A durable world, and how many writes are left to make. -/
structure Disk (W : Type) where
  world : W
  left : ℕ

/-- Why a run ended early. -/
inductive Stop (ε : Type) where
  | killed
  | raised (e : ε)

/-- A program over a durable world. -/
abbrev Killable (ε W : Type) := EStateM (Stop ε) (Disk W)

/-- A durable write. -/
def durable (write : W → W) : Killable ε W Unit := fun disk =>
  match disk.left with
  | 0 => .error .killed disk
  | left + 1 => .ok () ⟨write disk.world, left⟩

/-- A computation that may raise. -/
def raising (x : Except ε α) : Killable ε W α := fun disk =>
  match x with
  | .ok a => .ok a disk
  | .error e => .error (.raised e) disk

/-- The durable world. -/
def look : Killable ε W W := fun disk => .ok disk.world disk

/-- The world that a run leaves behind, however it ends. -/
def leaves (x : Killable ε W α) (world : W) (left : ℕ) : W := (final (x.run ⟨world, left⟩)).world

/-- From `world` the program returns with `Q`, or is killed or raises with `E` of what is left. -/
def Leads (x : Killable ε W α) (world : W) (Q : α → W → Prop) (E : W → Prop) : Prop :=
  ∀ left, match x.run ⟨world, left⟩ with
    | .ok a disk => Q a disk.world
    | .error _ disk => E disk.world

namespace Leads
variable {x : Killable ε W α} {f : α → Killable ε W β} {world : W} {Q Q' : α → W → Prop} {R : β → W → Prop}
  {E : W → Prop}

theorem pure {a : α} (h : Q a world) : Leads (pure a : Killable ε W α) world Q E := fun _ => h

theorem bind (h : Leads x world Q E) (hf : ∀ a w, Q a w → Leads (f a) w R E) : Leads (x >>= f) world R E := by
  intro left
  have hx := h left
  rw [EStateM.run_bind]
  cases hr : x.run ⟨world, left⟩ with
  | ok a disk =>
    rw [hr] at hx
    exact hf a disk.world hx disk.left
  | error e disk =>
    rw [hr] at hx
    exact hx

theorem mono (h : Leads x world Q E) (hQ : ∀ a w, Q a w → Q' a w) : Leads x world Q' E := by
  intro left
  have hx := h left
  revert hx
  cases x.run ⟨world, left⟩ with
  | ok a disk => exact hQ a disk.world
  | error e disk => exact id

/-- A write that kills the program has not been made. -/
theorem durable {write : W → W} {Q : Unit → W → Prop} (hkilled : E world) (hwritten : Q () (write world)) :
    Leads (durable write : Killable ε W Unit) world Q E := by
  intro left
  cases left with
  | zero => exact hkilled
  | succ left => exact hwritten

theorem raising {y : Except ε α} (hraised : E world) (h : ∀ a, y = .ok a → Q a world) :
    Leads (raising y : Killable ε W α) world Q E := by
  intro left
  cases y with
  | ok a => exact h a rfl
  | error e => exact hraised

theorem look {Q : W → W → Prop} (h : Q world world) : Leads (look : Killable ε W W) world Q E := fun _ => h

theorem ok (h : Leads x world Q E) {left : ℕ} {a : α} {disk : Disk W} (hx : x.run ⟨world, left⟩ = .ok a disk) :
    Q a disk.world := by
  have hl := h left
  rwa [hx] at hl

/-- However the run ends, a condition that both ends have holds of what it leaves. -/
theorem leaves (h : Leads x world (fun _ => E) E) (left : ℕ) : E (leaves x world left) := by
  have hl := h left
  unfold Lib.leaves
  revert hl
  cases x.run ⟨world, left⟩ <;> exact id

/-- A condition that every end of a run keeps holds after any number of runs. -/
theorem restarts {ι : Type} {program : ι → Killable ε W Unit}
    (h : ∀ i w, E w → Leads (program i) w (fun _ => E) E) {runs : List (ι × ℕ)} :
    ∀ {world : W}, E world → E (runs.foldl (fun w run => Lib.leaves (program run.1) w run.2) world) := by
  induction runs with
  | nil => exact id
  | cons run runs ih => exact fun hw => ih ((h run.1 _ hw).leaves run.2)

end Leads

/-- A run that nothing interrupts returns `a` and leaves `world'`. -/
def Completes (x : Killable ε W α) (world : W) (a : α) (world' : W) : Prop :=
  ∃ writes, ∀ left, x.run ⟨world, left + writes⟩ = .ok a ⟨world', left⟩

namespace Completes
variable {x : Killable ε W α} {f : α → Killable ε W β} {world world' world'' : W} {a : α} {b : β}

theorem pure : Completes (pure a : Killable ε W α) world a world := ⟨0, fun _ => rfl⟩

theorem bind (h : Completes x world a world') (hf : Completes (f a) world' b world'') :
    Completes (x >>= f) world b world'' := by
  obtain ⟨n, hx⟩ := h
  obtain ⟨m, hf⟩ := hf
  refine ⟨m + n, fun left => ?_⟩
  rw [EStateM.run_bind, ← Nat.add_assoc, hx]
  exact hf left

theorem durable {write : W → W} : Completes (durable write : Killable ε W Unit) world () (write world) :=
  ⟨1, fun _ => rfl⟩

theorem raising {y : Except ε α} (h : y = .ok a) : Completes (raising y : Killable ε W α) world a world := by
  subst h
  exact ⟨0, fun _ => rfl⟩

theorem look : Completes (look : Killable ε W W) world world world := ⟨0, fun _ => rfl⟩

/-- What a run that nothing interrupts ends with is what a run leads to. -/
theorem leads {Q : α → W → Prop} {E : W → Prop} (h : Completes x world a world') (hx : Leads x world Q E) :
    Q a world' := by
  obtain ⟨writes, hrun⟩ := h
  exact hx.ok (hrun 0)

end Completes

/-! ## Items applied again -/

section
variable {σ : Type} {apply : σ → α → Except ε σ}

/-- An item that is applied is settled, and stays so. -/
structure Settles (apply : σ → α → Except ε σ) : Prop where
  done : ∀ {s s' : σ} {a : α}, apply s a = .ok s' → apply s' a = .ok s'
  keep : ∀ {s s' : σ} {a b : α}, apply s a = .ok s → apply s b = .ok s' → apply s' a = .ok s'

theorem foldlM_append_ok {as bs : List α} {s t : σ} :
    (as ++ bs).foldlM apply s = .ok t ↔ ∃ m, as.foldlM apply s = .ok m ∧ bs.foldlM apply m = .ok t := by
  rw [List.foldlM_append, bind_eq_ok]

/-- A run that succeeds succeeds on every first part. -/
theorem foldlM_take_ok {as : List α} {s t : σ} (h : as.foldlM apply s = .ok t) (n : ℕ) :
    ∃ m, (as.take n).foldlM apply s = .ok m ∧ (as.drop n).foldlM apply m = .ok t := by
  rw [← List.take_append_drop n as] at h
  exact foldlM_append_ok.1 h

namespace Settles

theorem keep_all (h : Settles apply) {as : List α} : ∀ {s t : σ} {a : α}, apply s a = .ok s →
    as.foldlM apply s = .ok t → apply t a = .ok t := by
  induction as with
  | nil =>
    intro s t a ha hok
    cases hok
    exact ha
  | cons b as ih =>
    intro s t a ha hok
    rw [List.foldlM_cons, bind_eq_ok] at hok
    obtain ⟨s', hb, hok⟩ := hok
    exact ih (h.keep ha hb) hok

/-- After a run every item of it is settled. -/
theorem settled (h : Settles apply) {as : List α} : ∀ {s t : σ}, as.foldlM apply s = .ok t →
    ∀ a ∈ as, apply t a = .ok t := by
  induction as with
  | nil => exact fun _ => List.forall_mem_nil _
  | cons b as ih =>
    intro s t hok
    rw [List.foldlM_cons, bind_eq_ok] at hok
    obtain ⟨s', hb, hok⟩ := hok
    rw [List.forall_mem_cons]
    exact ⟨h.keep_all (h.done hb) hok, ih hok⟩

/-- Settled items change nothing. -/
theorem again {as : List α} {s : σ} (h : ∀ a ∈ as, apply s a = .ok s) : as.foldlM apply s = .ok s := by
  induction as with
  | nil => rfl
  | cons a as ih =>
    rw [List.forall_mem_cons] at h
    rw [List.foldlM_cons, h.1]
    exact ih h.2

/-- A part that starts inside what is applied leads to what a run up to its end leads to. -/
theorem overlap (h : Settles apply) {as : List α} {s t : σ} {c d n : ℕ} (hcd : c ≤ d)
    (hd : (as.take d).foldlM apply s = .ok t) {t' : σ} :
    ((as.drop c).take n).foldlM apply t = .ok t' ↔ (as.take (max d (c + n))).foldlM apply s = .ok t' := by
  have hsettled := h.settled hd
  obtain hle | hlt := Nat.le_total (c + n) d
  · -- the whole part is applied already
    have hmem : ∀ a ∈ (as.drop c).take n, apply t a = .ok t := by
      intro a ha
      refine hsettled a ?_
      rw [List.take_drop] at ha
      exact (List.take_subset_take_left as hle) (List.mem_of_mem_drop ha)
    rw [again hmem, Nat.max_eq_left hle, hd]
  · -- the part is an applied one and the next one
    have hsplit : (as.drop c).take n = ((as.drop c).take (d - c)) ++ ((as.drop d).take (c + n - d)) := by
      have hn : n = (d - c) + (c + n - d) := by omega
      conv_lhs => rw [hn, List.take_add, List.drop_drop, Nat.add_sub_cancel' hcd]
    have hmem : ∀ a ∈ (as.drop c).take (d - c), apply t a = .ok t := by
      intro a ha
      refine hsettled a ?_
      rw [List.take_drop, Nat.add_sub_cancel' hcd] at ha
      exact List.mem_of_mem_drop ha
    have hwhole : as.take (max d (c + n)) = as.take d ++ (as.drop d).take (c + n - d) := by
      rw [Nat.max_eq_right hlt, ← List.take_add, Nat.add_sub_cancel' hlt]
    rw [hsplit, hwhole, foldlM_append_ok, foldlM_append_ok, again hmem, hd]

end Settles

end

end Lib
