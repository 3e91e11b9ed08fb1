/-
  Coroutines next to each other over a shared state.

  A machine starts coroutines, named by the calls that start them, and answers
  the operations they await, one at a time and in any order; between two awaits
  a coroutine is not interrupted.  Every coroutine keeps a log of the answers it
  got, so that a side condition can speak about what it has seen.

  `Contract.sound` is the rely-guarantee rule: if every coroutine meets its
  logic when it is started, then in every reachable world the invariant holds,
  every step is guaranteed by the coroutine that takes it, and every coroutine
  goes on meeting its logic.
-/
import Mathlib.Data.List.Basic
import RoutePilot.Lib.Co
import RoutePilot.Lib.History

namespace Lib

/-- `while True`: go round from `b`, with what the body returns on the right, until it returns on the
    left.  A run goes round finitely often: `n` bounds the rounds it takes, and `stuck` is never
    answered. -/
def Co.loop {E : Effects} {α β : Type} (stuck : Co E α) (body : β → Co E (α ⊕ β)) : ℕ → β → Co E α
  | 0, _ => stuck
  | n + 1, b => body b >>= fun
    | .inl a => .ret a
    | .inr b' => loop stuck body n b'

/-- An operation with its answer. -/
structure Answered (E : Effects) where
  op : E.Op
  answer : Except E.Err (E.Ans op)

/-- A started coroutine: its call, the answers it got (the newest first), and the rest of its code. -/
structure Proc (E : Effects) (C : Type) where
  call : C
  log : List (Answered E) := []
  code : Co E Unit

/-- How coroutines are started and answered. -/
structure Machine (E : Effects) (C S : Type) where
  init : S
  body : C → Co E Unit
  ready : C → S → Prop
  exec : (o : E.Op) → S → Except E.Err (E.Ans o) → S → Prop
  acts : (n : E.Act) → E.Res n → Prop

namespace Machine
variable {E : Effects} {C S T : Type}

structure World (E : Effects) (C S : Type) where
  shared : S
  procs : List (Proc E C) := []

/-- A coroutine is started, or one of them gets an answer. -/
inductive Label (E : Effects) (C : Type)
  | start (c : C)
  | run (i : ℕ) (o : E.Op) (r : Except E.Err (E.Ans o))

/-- The actions up to the next await. -/
inductive Burst (M : Machine E C S) : Co E Unit → Co E Unit → Prop
  | done {x : Co E Unit} (h : x.isSettled) : Burst M x x
  | act {n : E.Act} {k : E.Res n → Co E Unit} {y : Co E Unit} (r : E.Res n) (hr : M.acts n r)
      (h : Burst M (k r) y) : Burst M (.now n k) y

inductive Step (M : Machine E C S) (w : World E C S) : Label E C → World E C S → Prop
  | start (c : C) (y : Co E Unit) (hready : M.ready c w.shared) (hy : M.Burst (M.body c) y) :
      Step M w (.start c) { w with procs := w.procs ++ [{ call := c, code := y }] }
  | run (i : ℕ) (p : Proc E C) (o : E.Op) (k : Except E.Err (E.Ans o) → Co E Unit)
      (r : Except E.Err (E.Ans o)) (s' : S) (y : Co E Unit) (hp : w.procs[i]? = some p)
      (hcode : p.code = .await o k) (hexec : M.exec o w.shared r s') (hy : M.Burst (k r) y) :
      Step M w (.run i o r)
        { shared := s', procs := w.procs.set i { p with log := ⟨o, r⟩ :: p.log, code := y } }

/-- The machine as a transition system. -/
def system (M : Machine E C S) : Lts (World E C S) (Label E C) where
  init w := w = { shared := M.init }
  step := M.Step

theorem Burst.settled {M : Machine E C S} {x y : Co E Unit} (h : M.Burst x y) : y.isSettled := by
  induction h with
  | done h => exact h
  | act _ _ _ ih => exact ih

/-- Perform the actions up to the next await, with the results `f`. -/
def settle {α : Type} (f : (n : E.Act) → E.Res n) : Co E α → Co E α
  | .now n k => settle f (k (f n))
  | x => x

theorem burst_settle {M : Machine E C S} {f : (n : E.Act) → E.Res n} (hf : ∀ n, M.acts n (f n)) :
    ∀ x : Co E Unit, M.Burst x (settle f x)
  | .ret _ => .done rfl
  | .raise _ => .done rfl
  | .await _ _ => .done rfl
  | .now n k => .act (f n) (hf n) (burst_settle hf (k (f n)))

end Machine

/-! ## Contracts -/

/-- What is proved about a machine.  `abs` is the part of the state the proof looks at and `step`
    how operations move it; `cond` is what the side condition of a run says about an answer, given
    the call and the log of its coroutine. -/
structure Contract {E : Effects} {C S : Type} (M : Machine E C S) (T : Type) where
  abs : S → T
  step : (o : E.Op) → T → Except E.Err (E.Ans o) → T → Prop
  sim : ∀ o s r s', M.exec o s r s' → step o (abs s) r (abs s')
  ok : Machine.World E C S → Machine.Label E C → Prop
  cond : C → List (Answered E) → T → (o : E.Op) → Except E.Err (E.Ans o) → Prop
  ok_cond : ∀ w i p o r, ok w (.run i o r) → w.procs[i]? = some p →
    cond p.call p.log (abs w.shared) o r
  inv : T → Prop
  rely : T → T → Prop
  rely_refl : ∀ t, rely t t
  rely_trans : ∀ t₁ t₂ t₃, rely t₁ t₂ → rely t₂ t₃ → rely t₁ t₃
  guar : C → T → (o : E.Op) → Except E.Err (E.Ans o) → T → Prop

namespace Contract
variable {E : Effects} {C S T : Type} {M : Machine E C S} (K : Contract M T)

/-- The logic of the coroutine of a call, over the state and its own log. -/
def logic (c : C) : Logic E (T × List (Answered E)) where
  exec o s r s' := s'.2 = ⟨o, r⟩ :: s.2 ∧ K.step o s.1 r s'.1 ∧ K.cond c s.2 s.1 o r
  acts n s r s' := M.acts n r ∧ s' = s
  interrupt _ _ := False
  rely s s' := (K.inv s.1 → K.inv s'.1) ∧ K.rely s.1 s'.1 ∧ s'.2 = s.2
  guar s o s' := K.inv s'.1 ∧ K.rely s.1 s'.1 ∧ ∀ r, s'.2 = ⟨o, r⟩ :: s.2 → K.guar c s.1 o r s'.1
  may _ _ := True
  rely_refl _ := ⟨id, K.rely_refl _, rfl⟩
  rely_trans _ _ _ h h' := ⟨h'.1 ∘ h.1, K.rely_trans _ _ _ h.2.1 h'.2.1, h'.2.2.trans h.2.2⟩

/-- The coroutine meets its logic. -/
def Meets (c : C) (x : Co E Unit) (s : T × List (Answered E)) : Prop :=
  Wp (K.logic c) x (fun _ _ => True) s

variable {K}

theorem Meets.burst {c : C} {x y : Co E Unit} {s : T × List (Answered E)} (h : K.Meets c x s)
    (hb : M.Burst x y) : K.Meets c y s := by
  induction hb with
  | done _ => exact h
  | act r hr _ ih => exact ih (h.2 r s ⟨hr, rfl⟩)

/-- The invariant of the rule. -/
structure WorldOk (K : Contract M T) (w : Machine.World E C S) : Prop where
  inv : K.inv (K.abs w.shared)
  procs : ∀ p ∈ w.procs, p.code.isSettled ∧ K.Meets p.call p.code (K.abs w.shared, p.log)

/-- A step of one coroutine is guaranteed by it. -/
theorem WorldOk.guar {w : Machine.World E C S} (h : K.WorldOk w) {i : ℕ} {p : Proc E C} {o : E.Op}
    {k : Except E.Err (E.Ans o) → Co E Unit} {r : Except E.Err (E.Ans o)} {s' : S}
    (hp : w.procs[i]? = some p) (hcode : p.code = .await o k) (hexec : M.exec o w.shared r s')
    (hok : K.ok w (.run i o r)) :
    (K.inv (K.abs s') ∧ K.rely (K.abs w.shared) (K.abs s') ∧
      K.guar p.call (K.abs w.shared) o r (K.abs s')) ∧
      K.Meets p.call (k r) (K.abs s', ⟨o, r⟩ :: p.log) := by
  have hm := (h.procs p (List.mem_of_getElem? hp)).2
  rw [hcode] at hm
  have hx := (hm _ ((K.logic p.call).rely_refl _)).2 r (K.abs s', ⟨o, r⟩ :: p.log)
    ⟨rfl, K.sim _ _ _ _ hexec, K.ok_cond w i p o r hok hp⟩
  exact ⟨⟨hx.1.1, hx.1.2.1, hx.1.2.2 r rfl⟩, hx.2⟩

theorem WorldOk.step (hstart : ∀ c s, K.inv (K.abs s) → M.ready c s → K.Meets c (M.body c) (K.abs s, []))
    {w w' : Machine.World E C S} {l : Machine.Label E C} (h : K.WorldOk w) (hok : K.ok w l)
    (hs : M.Step w l w') : K.WorldOk w' := by
  cases hs with
  | start c y hready hy =>
    refine ⟨h.inv, fun p hp => ?_⟩
    obtain hp | hp := List.mem_append.1 hp
    · exact h.procs p hp
    · rw [List.mem_singleton.1 hp]
      exact ⟨hy.settled, (hstart c w.shared h.inv hready).burst hy⟩
  | run i p o k r s' y hp hcode hexec hy =>
    obtain ⟨⟨hinv, hrely, -⟩, hmeets⟩ := h.guar hp hcode hexec hok
    refine ⟨hinv, fun q hq => ?_⟩
    obtain hq | rfl := List.mem_or_eq_of_mem_set hq
    · -- the others see the step as one they rely on
      obtain ⟨hset, hmq⟩ := h.procs q hq
      exact ⟨hset, Wp.rely (fun _ _ _ _ _ => trivial) hset hmq ⟨fun _ => hinv, hrely, rfl⟩⟩
    · exact ⟨hy.settled, hmeets.burst hy⟩

/-- **Rely-guarantee rule.** -/
theorem sound (hinit : K.inv (K.abs M.init))
    (hstart : ∀ c s, K.inv (K.abs s) → M.ready c s → K.Meets c (M.body c) (K.abs s, []))
    {w : Machine.World E C S} (h : M.system.Reach K.ok w) : K.WorldOk w := by
  refine h.invariant (I := K.WorldOk) ?_ fun w l w' _ hw hok hs => hw.step hstart hok hs
  rintro w rfl
  exact ⟨hinit, nofun⟩

end Contract

/-! ## Answers along a history -/

namespace Machine
variable {E : Effects} {C S : Type} {M : Machine E C S} {P : C → E.Op → Prop}
  {K : C → (o : E.Op) → Except E.Err (E.Ans o) → Prop} {I : S → Prop}

/-- Every coroutine asks for what its call may ask, as long as it is answered as its call may be. -/
structure AllWithin (P : C → E.Op → Prop) (K : C → (o : E.Op) → Except E.Err (E.Ans o) → Prop) (I : S → Prop)
    (w : World E C S) : Prop where
  shared : I w.shared
  procs : ∀ p ∈ w.procs, p.code.Within (P p.call) (K p.call) fun _ => True

theorem Burst.within {c : C} {x y : Co E Unit} (hb : M.Burst x y) (h : x.Within (P c) (K c) fun _ => True) :
    y.Within (P c) (K c) fun _ => True := by
  induction hb with
  | done _ => exact h
  | act r _ _ ih => exact ih (h r)

/-- What a step answers is as it may be, and keeps what holds of the shared state. -/
def AnswersWithin (M : Machine E C S) (P : C → E.Op → Prop) (K : C → (o : E.Op) → Except E.Err (E.Ans o) → Prop)
    (I : S → Prop) (e : Lts.Taken (World E C S) (Label E C)) : Prop :=
  ∀ i o r p, e.label = .run i o r → e.before.procs[i]? = some p → I e.before.shared → P p.call o →
    M.exec o e.before.shared r e.after.shared → I e.after.shared ∧ K p.call o r

theorem AllWithin.step {w w' : World E C S} {l : Label E C} (h : AllWithin P K I w)
    (hbody : ∀ c, (M.body c).Within (P c) (K c) fun _ => True) (hs : M.Step w l w')
    (ha : AnswersWithin M P K I ⟨w, l, w'⟩) :
    AllWithin P K I w' ∧ ∀ i o r p, l = .run i o r → w.procs[i]? = some p → P p.call o ∧ K p.call o r := by
  cases hs with
  | start c y _ hy =>
    refine ⟨⟨h.shared, fun p hp => ?_⟩, by rintro i o r p ⟨⟩⟩
    rcases List.mem_append.1 hp with hp | hp
    · exact h.procs p hp
    · rw [List.mem_singleton.1 hp]
      exact hy.within (hbody c)
  | run i p o k r s' y hp hcode hexec hy =>
    have hw := h.procs p (List.mem_of_getElem? hp)
    rw [hcode] at hw
    obtain ⟨hI, hK⟩ := ha i o r p rfl hp h.shared hw.1 hexec
    refine ⟨⟨hI, fun q hq => ?_⟩, ?_⟩
    · rcases List.mem_or_eq_of_mem_set hq with hq | rfl
      · exact h.procs q hq
      · exact hy.within (hw.2 r hK)
    · rintro i' o' r' p' ⟨⟩ hp'
      rw [hp] at hp'
      cases hp'
      exact ⟨hw.1, hK⟩

/-- **Assume-guarantee rule.**  If all the answers of a history are as they may be whenever the operations are, then all
    the operations are. -/
theorem AllWithin.trace (hbody : ∀ c, (M.body c).Within (P c) (K c) fun _ => True) {w w' : World E C S}
    {H : List (Lts.Taken (World E C S) (Label E C))} (h : M.system.Trace w H w') (hw : AllWithin P K I w)
    (ha : ∀ e ∈ H, AnswersWithin M P K I e) :
    AllWithin P K I w' ∧ ∀ e ∈ H, ∀ i o r p, e.label = .run i o r → e.before.procs[i]? = some p →
      P p.call o ∧ K p.call o r := by
  induction h with
  | nil w => exact ⟨hw, by rintro e ⟨⟩⟩
  | cons hs _ ih =>
    rw [List.forall_mem_cons] at ha
    obtain ⟨hw', hfirst⟩ := hw.step hbody hs ha.1
    obtain ⟨hend, hrest⟩ := ih hw' ha.2
    exact ⟨hend, List.forall_mem_cons.2 ⟨hfirst, hrest⟩⟩

end Machine
end Lib
