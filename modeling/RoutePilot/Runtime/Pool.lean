/-
  Rely-guarantee for the runtime.

  Each call has a logic of its own over the store; the moves one of them
  guarantees are those the others rely on, and a task that is awaited gives
  what its call promises.  If every coroutine meets its logic from its first
  turn on, every task of a reachable world does (`PoolSound.invariant`), and
  every operation of a task is one its call guarantees (`PoolSound.step`).

  The states of the logics are the stores that satisfy an invariant `Ok`, with
  the calls of the tasks started so far.
-/
import Mathlib.Data.List.Basic
import RoutePilot.Runtime.World

namespace RoutePilot

open Lib

section
variable {σ ε : Type} {Ok : σ → Prop}

/-- The side condition on the operations of the tasks: `A` holds of the call, the environment, the
    store and the operation when an await of the store completes. -/
def awaitsMeet (A : Call → ε → σ → StoreOp → Prop) (w : World σ) : RtLabel ε → Prop
  | .run i env => ∀ t o k, w.tasks[i]? = some t → t.prog = .await (.store o) k →
      A t.call env w.store o
  | _ => True

/-- What a coroutine sees of the world: the store, and the calls of the tasks. -/
abbrev View (Ok : σ → Prop) := Subtype Ok × List Call

/-- What the calls of a runtime may assume about each other: the answers of the store, the moves of
    the others and their own, what holds when they start, and what they end in. -/
structure PoolLogic (Ok : σ → Prop) where
  exec : Call → (o : StoreOp) → Subtype Ok → Except Exc o.Ans → Subtype Ok → Prop
  rely : Call → Subtype Ok → Subtype Ok → Prop
  guar : Call → Subtype Ok → StoreOp → Subtype Ok → Prop
  pre : Call → Subtype Ok → Prop
  post : Call → Except Exc Reply → Subtype Ok → Prop
  rely_refl : ∀ c s, rely c s s
  rely_trans : ∀ c s₁ s₂ s₃, rely c s₁ s₂ → rely c s₂ s₃ → rely c s₁ s₃

/-- The outcome of an awaited task. -/
def Reply.outcome (r : Except Exc Reply) : Except Exc Unit := r.map fun _ => ()

/-- The answer of an operation that is none of the store. -/
def PoolLogic.answers (P : PoolLogic Ok) : (o : Op) → View Ok → Except Exc o.Ans → Prop
  | .join t, s, r => ∀ call, s.2[t]? = some call →
      ∃ reply, r = Reply.outcome reply ∧ P.post call reply s.1
  | _, _, _ => True

/-- The logic of one call. -/
def PoolLogic.logic (P : PoolLogic Ok) (c : Call) : Logic rt (View Ok) where
  exec
    | .store o, s, r, s' => P.exec c o s.1 r s'.1 ∧ s'.2 = s.2
    | o, s, r, s' => P.answers o s r ∧ s' = s
  acts
    | .createTask call, s, r, s' => r = s.2.length ∧ s' = (s.1, s.2 ++ [call])
    | .addDoneCallback _ _, s, _, s' => s'.1 = s.1 ∧ s.2 <+: s'.2
    | _, s, _, s' => s' = s
  interrupt e _ := e = .cancelled
  rely s s' := P.rely c s.1 s'.1 ∧ s.2 <+: s'.2
  guar
    | s, .store o, s' => P.guar c s.1 o s'.1
    | _, _, _ => True
  may
    | .createTask call, s => P.pre call s.1
    | .addDoneCallback _ call, _ => ∀ s', P.pre call s'
    | _, _ => True
  rely_refl s := ⟨P.rely_refl c s.1, List.prefix_refl _⟩
  rely_trans _ _ _ h h' := ⟨P.rely_trans c _ _ _ h.1 h'.1, h.2.trans h'.2⟩

/-- The logics fit the runtime, and every coroutine meets its logic. -/
structure PoolSound (P : PoolLogic Ok) (B : Backend σ ε) (D : Deployment)
    (A : Call → ε → σ → StoreOp → Prop) (clients : RtLabel ε → Prop) : Prop where
  exec : ∀ call o env (s : Subtype Ok) r s', A call env s.1 o → B.fresh env s.1 →
    B.exec env o s.1 r s' → ∃ h : Ok s', P.exec call o s (r.mapError Exc.store) ⟨s', h⟩
  guar_rely : ∀ call call' s o s', P.guar call s o s' → P.rely call' s s'
  others : ∀ l (s : Subtype Ok) s', clients (.store l) → B.fresh l.env s.1 →
    B.exec l.env l.op s.1 l.result s' → ∃ h : Ok s', ∀ call, P.rely call s ⟨s', h⟩
  program : ∀ call s, P.pre call s.1 → Wp (P.logic call) (call.program D) (fun r s => P.post call r s.1) s
  round : ∀ call s, P.post call (.ok .again) s.1 →
    call.round.isSettled ∧ Wp (P.logic call) call.round (fun r s => P.post call r s.1) s
  post_stable : ∀ call r s s', P.post call r s → P.rely call s s' → P.post call r s'
  requests : ∀ call s, clients (.call call) → P.pre call s

/-- A task meets the logic of its call. -/
structure TaskOk (P : PoolLogic Ok) (s : View Ok) (t : Task) : Prop where
  settled : t.prog.isSettled
  wp : Wp (P.logic t.call) t.prog (fun r s => P.post t.call r s.1) s
  onDone : ∀ c ∈ t.onDone, ∀ s', P.pre c s'

/-- The calls of the tasks of a world. -/
def World.calls (w : World σ) : List Call := w.tasks.map (·.call)

/-- Every task of a world meets its logic, and its store satisfies the invariant. -/
def PoolOk (P : PoolLogic Ok) (w : World σ) : Prop :=
  ∃ h : Ok w.store, ∀ t ∈ w.tasks, TaskOk P (⟨w.store, h⟩, w.calls) t

variable {P : PoolLogic Ok} {B : Backend σ ε} {D : Deployment} {A : Call → ε → σ → StoreOp → Prop}
  {clients : RtLabel ε → Prop}

theorem TaskOk.rely (hP : PoolSound P B D A clients) {s s' : View Ok} {t : Task}
    (h : TaskOk P s t) (hr : (P.logic t.call).rely s s') : TaskOk P s' t where
  settled := h.settled
  wp := h.wp.rely (fun r s₁ s₂ hq (hs : (P.logic t.call).rely s₁ s₂) =>
    hP.post_stable t.call r _ _ hq hs.1) h.settled hr
  onDone := h.onDone

/-! ## Running a task to its next await -/

/-- What the tasks of a world satisfy in the store `s`, which is its own. -/
def TasksOk (P : PoolLogic Ok) (s : Subtype Ok) (w : World σ) : Prop :=
  w.store = s.1 ∧ ∀ t ∈ w.tasks, TaskOk P (s, w.calls) t

@[simp] theorem World.calls_spawn (w : World σ) (c : Call) :
    (w.spawn D c).calls = w.calls ++ [c] := by
  simp [calls, spawn]

theorem World.calls_setTask (w : World σ) (i : ℕ) {f : Task → Task}
    (hf : ∀ t, (f t).call = t.call) : (w.setTask i f).calls = w.calls := by
  apply List.ext_getElem?
  intro j
  rw [calls, calls, List.getElem?_map, List.getElem?_map, setTask, List.getElem?_modify]
  split
  · cases w.tasks[j]? with
    | none => rfl
    | some t => simp [hf]
  · simp

/-- An edit of a task that keeps its call. -/
theorem World.calls_grow_setTask (w : World σ) (i : ℕ) {f : Task → Task}
    (hf : ∀ t, (f t).call = t.call) : w.calls <+: (w.setTask i f).calls := by
  exact ⟨[], by rw [w.calls_setTask i hf, List.append_nil]⟩

theorem World.calls_cancelTask (w : World σ) (t : ℕ) : (w.cancelTask t).calls = w.calls := by
  unfold cancelTask
  split
  · split <;> exact w.calls_setTask _ fun _ => rfl
  · exact w.calls_setTask _ fun _ => rfl
  · rfl

theorem World.mem_tasks {w : World σ} {i : ℕ} {t : Task} (h : w.tasks[i]? = some t) :
    t ∈ w.tasks := List.mem_iff_getElem?.2 ⟨i, h⟩

/-- The tasks under more calls. -/
theorem TaskOk.grow (hP : PoolSound P B D A clients) {s : Subtype Ok} {cs cs' : List Call} {t : Task}
    (h : TaskOk P (s, cs) t) (hc : cs <+: cs') : TaskOk P (s, cs') t :=
  h.rely hP ⟨P.rely_refl _ _, hc⟩

theorem TasksOk.spawn (hP : PoolSound P B D A clients) {s : Subtype Ok} {w : World σ}
    (h : TasksOk P s w) {c : Call} (hc : P.pre c s) : TasksOk P s (w.spawn D c) := by
  refine ⟨h.1, fun t ht => ?_⟩
  rw [World.calls_spawn]
  obtain ht | ht := List.mem_append.1 ht
  · exact (h.2 t ht).grow hP (List.prefix_append _ _)
  · obtain rfl := List.mem_singleton.1 ht
    exact ⟨rfl, hP.program c _ hc, fun c' hc' => absurd hc' (Option.not_mem_none c')⟩

/-- An edit of a task that keeps it in its logic. -/
theorem TasksOk.setTask {s : Subtype Ok} {w : World σ} (h : TasksOk P s w) {i : ℕ}
    {f : Task → Task} (hcall : ∀ t, (f t).call = t.call)
    (hf : ∀ t, w.tasks[i]? = some t → TaskOk P (s, w.calls) (f t)) :
    TasksOk P s (w.setTask i f) := by
  refine ⟨h.1, fun t ht => ?_⟩
  rw [w.calls_setTask i hcall]
  obtain ⟨j, hj⟩ := List.mem_iff_getElem?.1 ht
  rw [World.setTask, List.getElem?_modify] at hj
  split at hj
  · next hij =>
    subst hij
    obtain ⟨t₀, ht₀, rfl⟩ := Option.map_eq_some_iff.1 hj
    exact hf t₀ ht₀
  · exact h.2 t (World.mem_tasks (by simpa using hj))

theorem TaskOk.congr {s : View Ok} {t t' : Task} (h : TaskOk P s t) (hcall : t'.call = t.call)
    (hprog : t'.prog = t.prog) (hdone : t'.onDone = t.onDone) : TaskOk P s t' where
  settled := by rw [hprog]; exact h.settled
  wp := by rw [hprog, hcall]; exact h.wp
  onDone := by rw [hdone]; exact h.onDone

/-- An edit of flags only. -/
theorem TasksOk.setFlag {s : Subtype Ok} {w : World σ} (h : TasksOk P s w) {i : ℕ}
    {f : Task → Task} (hf : ∀ t, (f t).call = t.call ∧ (f t).prog = t.prog ∧ (f t).onDone = t.onDone) :
    TasksOk P s (w.setTask i f) :=
  h.setTask (fun t => (hf t).1) fun t ht =>
    (h.2 t (World.mem_tasks ht)).congr (hf t).1 (hf t).2.1 (hf t).2.2

theorem TasksOk.cancelTask {s : Subtype Ok} {w : World σ} (h : TasksOk P s w) (t : ℕ) :
    TasksOk P s (w.cancelTask t) := by
  unfold World.cancelTask
  split
  · split
    · exact h.setFlag fun _ => ⟨rfl, rfl, rfl⟩
    · exact h.setFlag fun _ => ⟨rfl, rfl, rfl⟩
  · exact h.setFlag fun _ => ⟨rfl, rfl, rfl⟩
  · exact h

/-- Task `i` has this call: the tasks only grow, and keep their calls. -/
def CallAt (w : World σ) (i : ℕ) (c : Call) : Prop := w.calls[i]? = some c

theorem CallAt.task {w : World σ} {i : ℕ} {c : Call} (h : CallAt w i c) :
    ∃ t, w.tasks[i]? = some t ∧ t.call = c := by
  rw [CallAt, World.calls, List.getElem?_map, Option.map_eq_some_iff] at h
  exact h

theorem CallAt.of_task {w : World σ} {i : ℕ} {t : Task} (h : w.tasks[i]? = some t) :
    CallAt w i t.call := by
  rw [CallAt, World.calls, List.getElem?_map, h]
  rfl

theorem CallAt.grow {w w' : World σ} {i : ℕ} {c : Call} (h : CallAt w i c)
    (hc : w.calls <+: w'.calls) : CallAt w' i c := by
  obtain ⟨cs, hcs⟩ := hc
  rw [CallAt, ← hcs, List.getElem?_append_left (List.getElem?_eq_some_iff.1 h).1]
  exact h

/-- The view of a task after one of its actions. -/
theorem World.acts_view (P : PoolLogic Ok) (c : Call) (s : Subtype Ok) (w : World σ) (env : Env)
    (i : ℕ) (n : Act) :
    (P.logic c).acts n (s, w.calls) (w.act D env i n).1 (s, (w.act D env i n).2.calls) := by
  cases n with
  | newPublicId | utcNow | isSet | newEvent | setEvent => rfl
  | createTask call => exact ⟨by simp [act, calls], by simp [act]⟩
  | cancelTask t => exact congrArg _ (w.calls_cancelTask t)
  | enterTry | leaveTry => exact congrArg _ (w.calls_setTask i fun _ => rfl)
  | addDoneCallback t call =>
    refine ⟨rfl, ?_⟩
    show w.calls <+: (w.addDoneCallback D t call).calls
    unfold addDoneCallback
    split
    · rw [calls_spawn]; exact List.prefix_append _ _
    · exact w.calls_grow_setTask t fun _ => rfl

/-- An action keeps the tasks in their logics. -/
theorem TasksOk.act (hP : PoolSound P B D A clients) {s : Subtype Ok} {w : World σ} {i : ℕ}
    {c : Call} (h : TasksOk P s w) (env : Env) {n : Act} (hn : (P.logic c).may n (s, w.calls)) :
    TasksOk P s (w.act D env i n).2 := by
  cases n with
  | newPublicId | utcNow | isSet => exact h
  | newEvent | setEvent => exact ⟨h.1, h.2⟩
  | createTask call => exact h.spawn hP hn
  | cancelTask t => exact h.cancelTask t
  | enterTry | leaveTry => exact h.setFlag fun _ => ⟨rfl, rfl, rfl⟩
  | addDoneCallback t call =>
    have hpre : ∀ s', P.pre call s' := hn
    show TasksOk P s (w.addDoneCallback D t call)
    unfold World.addDoneCallback
    split
    · exact h.spawn hP (hpre s)
    · refine h.setTask (fun _ => rfl) fun x hx => ?_
      have hx' := h.2 x (World.mem_tasks hx)
      refine ⟨hx'.settled, hx'.wp, fun c' hc' => ?_⟩
      cases hc'
      exact hpre

/-- An action keeps the calls. -/
theorem World.act_calls (P : PoolLogic Ok) (s : Subtype Ok) (w : World σ) (env : Env) (i : ℕ)
    (n : Act) : w.calls <+: (w.act D env i n).2.calls := by
  cases n with
  | newPublicId | utcNow | isSet | newEvent | setEvent => exact List.prefix_refl _
  | createTask call =>
    show w.calls <+: (w.spawn D call).calls
    rw [calls_spawn]; exact List.prefix_append _ _
  | cancelTask t =>
    show w.calls <+: (w.cancelTask t).calls
    exact ⟨[], by rw [calls_cancelTask, List.append_nil]⟩
  | enterTry | leaveTry => exact w.calls_grow_setTask i fun _ => rfl
  | addDoneCallback t call =>
    exact (World.acts_view (D := D) P (.forget 0 "") s w env i (.addDoneCallback t call)).2

theorem TasksOk.suspend (hP : PoolSound P B D A clients) {s : Subtype Ok} {w : World σ} {i : ℕ}
    {c : Call} {prog : Async Reply} (h : TasksOk P s w) (hi : CallAt w i c)
    (hset : prog.isSettled)
    (hwp : Wp (P.logic c) prog (fun r s => P.post c r s.1) (s, w.calls)) :
    TasksOk P s (w.suspend D i prog) := by
  obtain ⟨t₀, ht₀, rfl⟩ := hi.task
  have h₁ : TasksOk P s (w.setTask i fun x => { x with prog := prog }) := by
    refine h.setTask (fun _ => rfl) fun t ht => ?_
    rw [ht₀] at ht; cases ht
    exact ⟨hset, hwp, (h.2 t₀ (World.mem_tasks ht₀)).onDone⟩
  show TasksOk P s (if prog.isDone then World.callDone D i _ else _)
  split
  · unfold World.callDone
    split
    · next call hcall =>
      obtain ⟨t, ht, hdone⟩ := Option.bind_eq_some_iff.1 hcall
      exact h₁.spawn hP ((h₁.2 t (World.mem_tasks ht)).onDone call hdone s)
    · exact h₁
  · exact h₁

theorem TasksOk.settle (hP : PoolSound P B D A clients) {s : Subtype Ok} (env : Env) (i : ℕ)
    {c : Call} (prog : Async Reply) : ∀ {w : World σ}, TasksOk P s w → CallAt w i c →
      Wp (P.logic c) prog (fun r s => P.post c r s.1) (s, w.calls) →
      TasksOk P s (w.settle D env i prog) := by
  induction prog with
  | now n k ih =>
    intro w h hi hwp
    obtain ⟨hn, hk⟩ := hwp
    exact ih _ (h.act hP env hn) (hi.grow (World.act_calls P s w env i n))
      (hk _ _ (World.acts_view P c s w env i n))
  | await o k ih => exact fun h hi hwp => h.suspend hP hi rfl hwp
  | raise e => exact fun h hi hwp => h.suspend hP hi rfl hwp
  | ret r =>
    intro w h hi hwp
    cases r with
    | again =>
      obtain ⟨t, ht, rfl⟩ := hi.task
      obtain ⟨hset, hround⟩ := hP.round t.call _ hwp
      unfold World.settle
      rw [ht]
      exact h.suspend hP hi hset hround
    | _ => exact h.suspend hP hi rfl hwp

/-! ## The store along a task's actions -/

theorem World.cancelTask_store (t : ℕ) (w : World σ) : (w.cancelTask t).store = w.store := by
  unfold cancelTask
  split
  · split <;> rfl
  · rfl
  · rfl

theorem World.act_store (env : Env) (i : ℕ) (n : Act) (w : World σ) :
    (w.act D env i n).2.store = w.store := by
  cases n with
  | addDoneCallback t call =>
    show (w.addDoneCallback D t call).store = _
    unfold addDoneCallback
    split <;> rfl
  | cancelTask t => exact cancelTask_store t w
  | _ => rfl

theorem World.suspend_store (i : ℕ) (prog : Async Reply) (w : World σ) :
    (w.suspend D i prog).store = w.store := by
  show (if prog.isDone then callDone D i _ else _).store = _
  split
  · unfold callDone
    split <;> rfl
  · rfl

theorem World.settle_store (env : Env) (i : ℕ) (prog : Async Reply) : ∀ w : World σ,
    (w.settle D env i prog).store = w.store := by
  induction prog with
  | now n k ih => exact fun w => (ih _ _).trans (act_store env i n w)
  | await o k ih => exact suspend_store i _
  | raise e => exact suspend_store i _
  | ret r =>
    intro w
    cases r with
    | again =>
      unfold settle
      split
      · exact suspend_store i _ w
      · rfl
    | _ => exact suspend_store i _ w

/-- A step leaves the store alone, or is one of its operations. -/
theorem RtStep.store {w w' : World σ} {l : RtLabel ε} (h : RtStep B D w l w') :
    w'.store = w.store ∨
      ∃ env o r, B.fresh env w.store ∧ B.exec env o w.store r w'.store := by
  cases l with
  | call call => rw [show w' = w.spawn D call from h]; exact .inl rfl
  | cancel i => rw [show w' = w.cancelTask i from h]; exact .inl (World.cancelTask_store i w)
  | interrupt i env =>
    obtain ⟨t, o, k, -, -, -, rfl⟩ := h
    exact .inl (World.settle_store _ _ _ _)
  | store l => exact .inr ⟨l.env, l.op, l.result, h.1, h.2.1⟩
  | run i env =>
    obtain ⟨t, o, k, r, w₁, -, -, -, hc, rfl⟩ := h
    rw [World.settle_store]
    cases o with
    | store o =>
      obtain ⟨hfresh, r₀, s', hx, -, rfl⟩ := hc
      exact .inr ⟨env, o, r₀, hfresh, hx⟩
    | setTask | popTask => obtain ⟨-, rfl⟩ := hc; exact .inl rfl
    | start | getTask | join | wait => exact .inl (by rw [hc.2])
    | external | cancelRunTasks => exact .inl (by rw [show w₁ = w from hc])
    | gather => exact .inl (by rw [hc.2.2])

/-! ## The steps of the runtime -/

/-- What one step does to the store: nothing, an operation that a call guarantees, or another
    operation. -/
inductive StoreMove (P : PoolLogic Ok) (B : Backend σ ε) (w w' : World σ) : RtLabel ε → Prop
  | still {l : RtLabel ε} (h : w'.store = w.store) : StoreMove P B w w' l
  | own {i : ℕ} {env : ε} {t : Task} {o : StoreOp} {k : Except Exc o.Ans → Async Reply}
      {r : Except StoreError o.Ans} (h : Ok w.store) (h' : Ok w'.store) (ht : w.tasks[i]? = some t)
      (hprog : t.prog = .await (.store o) k) (hexec : B.exec env o w.store r w'.store)
      (hguar : P.guar t.call ⟨w.store, h⟩ o ⟨w'.store, h'⟩) : StoreMove P B w w' (.run i env)
  | other {l : OpLabel ε} (h : Ok w.store) (h' : Ok w'.store)
      (hrely : ∀ call, P.rely call ⟨w.store, h⟩ ⟨w'.store, h'⟩) : StoreMove P B w w' (.store l)

/-- The tasks after a step of one of them that the others rely on. -/
theorem PoolOk.rely (hP : PoolSound P B D A clients) {tasks : List Task} {s s' : Subtype Ok}
    {cs : List Call} (h : ∀ t ∈ tasks, TaskOk P (s, cs) t) (hr : ∀ call, P.rely call s s') :
    ∀ t ∈ tasks, TaskOk P (s', cs) t :=
  fun t ht => (h t ht).rely hP ⟨hr t.call, List.prefix_refl _⟩

/-- An ended task has kept the promise of its call. -/
theorem TaskOk.outcome {s : Subtype Ok} {w : World σ} {i : ℕ} {t : Task} {r : Except Exc Unit}
    (h : TaskOk P (s, w.calls) t) (ht : w.tasks[i]? = some t) (hr : w.outcomeOf i = some r) :
    ∃ reply, r = Reply.outcome reply ∧ P.post t.call reply s := by
  obtain ⟨call, prog, mustCancel, inTry, onDone⟩ := t
  unfold World.outcomeOf at hr
  rw [ht] at hr
  cases prog with
  | ret a => cases hr; exact ⟨.ok a, rfl, h.wp⟩
  | raise e => cases hr; exact ⟨.error e, rfl, h.wp⟩
  | await o k => cases hr
  | now n k => cases hr

/-- The answer of an operation that is none of the store. -/
theorem PoolOk.answers {s : Subtype Ok} {w w₁ : World σ} {env : ε} {o : Op}
    {r : Except Exc o.Ans} (h : ∀ t ∈ w.tasks, TaskOk P (s, w.calls) t)
    (hc : w.Completes B env o r w₁) : P.answers o (s, w.calls) r := by
  cases o with
  | join t =>
    intro call hcall
    obtain ⟨x, hx, rfl⟩ := CallAt.task hcall
    exact (h x (World.mem_tasks hx)).outcome hx hc.1
  | _ => trivial

/-- What a completed operation leaves: the same tasks, over a store the logic describes. -/
theorem PoolSound.completes (hP : PoolSound P B D A clients) {s : Subtype Ok} {w w₁ : World σ}
    {env : ε} {call : Call} {o : Op} {r : Except Exc o.Ans} (hw : TasksOk P s w)
    (hA : ∀ o', o = .store o' → A call env w.store o') (hc : w.Completes B env o r w₁) :
    ∃ s₁ : Subtype Ok, w₁.store = s₁.1 ∧ w₁.tasks = w.tasks ∧
      (P.logic call).exec o (s, w.calls) r (s₁, w.calls) ∧
      ∀ o', o = .store o' → ∃ r', B.exec env o' w.store r' s₁.1 := by
  obtain ⟨hs, htasks⟩ := hw
  have hans := PoolOk.answers htasks hc
  cases o with
  | store o =>
    obtain ⟨hfresh, r₀, s', hx, rfl, rfl⟩ := hc
    obtain ⟨s, hok⟩ := s
    obtain rfl : w.store = s := hs
    obtain ⟨h', he⟩ := hP.exec call o env ⟨w.store, hok⟩ r₀ s' (hA o rfl) hfresh hx
    exact ⟨⟨s', h'⟩, rfl, rfl, ⟨he, rfl⟩, fun o' ho => by cases ho; exact ⟨r₀, hx⟩⟩
  | setTask | popTask =>
    obtain ⟨-, rfl⟩ := hc
    exact ⟨s, hs, rfl, ⟨hans, rfl⟩, by simp⟩
  | start | getTask | join | wait =>
    have hw₁ : w₁ = w := hc.2
    exact ⟨s, by rw [hw₁]; exact hs, by rw [hw₁], ⟨hans, rfl⟩, by simp⟩
  | external | cancelRunTasks =>
    have hw₁ : w₁ = w := hc
    exact ⟨s, by rw [hw₁]; exact hs, by rw [hw₁], ⟨hans, rfl⟩, by simp⟩
  | gather =>
    have hw₁ : w₁ = w := hc.2.2
    exact ⟨s, by rw [hw₁]; exact hs, by rw [hw₁], ⟨hans, rfl⟩, by simp⟩

/-- A world whose tasks fit its store. -/
theorem TasksOk.poolOk {s : Subtype Ok} {w : World σ} (h : TasksOk P s w) : PoolOk P w := by
  obtain ⟨s, hs⟩ := s
  obtain ⟨h₁, h₂⟩ := h
  obtain rfl : w.store = s := h₁
  exact ⟨hs, h₂⟩

/-- **Step lemma.**  A step keeps every task in its logic, and moves the store as the logics say. -/
theorem PoolSound.step (hP : PoolSound P B D A clients) {w w' : World σ} {l : RtLabel ε}
    (h : PoolOk P w) (hA : awaitsMeet A w l) (hc : clients l) (hs : RtStep B D w l w') :
    PoolOk P w' ∧ StoreMove P B w w' l := by
  obtain ⟨hok, htasks⟩ := h
  have hw : TasksOk P ⟨w.store, hok⟩ w := ⟨rfl, htasks⟩
  cases l with
  | call call =>
    obtain rfl := hs
    exact ⟨(hw.spawn hP (hP.requests call _ hc)).poolOk, .still rfl⟩
  | cancel i =>
    obtain rfl := hs
    exact ⟨(hw.cancelTask i).poolOk, .still (hw.cancelTask i).1⟩
  | interrupt i env =>
    obtain ⟨t, o, k, ht, hprog, -, rfl⟩ := hs
    have hwp := (htasks t (World.mem_tasks ht)).wp
    rw [hprog] at hwp
    have hint := (hwp _ ((P.logic t.call).rely_refl _)).1 .cancelled rfl
    have h₁ : TasksOk P ⟨w.store, hok⟩ (w.setTask i fun x => { x with mustCancel := false }) :=
      hw.setFlag fun _ => ⟨rfl, rfl, rfl⟩
    have hcalls := w.calls_setTask i (f := fun x => { x with mustCancel := false }) fun _ => rfl
    have hi : CallAt (w.setTask i fun x => { x with mustCancel := false }) i t.call :=
      (CallAt.of_task ht).grow (w.calls_grow_setTask i fun _ => rfl)
    rw [← hcalls] at hint
    exact ⟨(h₁.settle hP _ i _ hi hint).poolOk, .still (World.settle_store _ _ _ _)⟩
  | store l =>
    obtain ⟨hfresh, hexec, hw'⟩ := hs
    obtain ⟨hok', hrely⟩ := hP.others l ⟨w.store, hok⟩ w'.store hc hfresh hexec
    have ht : w'.tasks = w.tasks := by rw [hw']
    refine ⟨⟨hok', ?_⟩, .other hok hok' hrely⟩
    rw [World.calls, ht]
    exact PoolOk.rely hP htasks hrely
  | run i env =>
    obtain ⟨t, o, k, r, w₁, ht, hprog, -, hcomp, rfl⟩ := hs
    have hAo : ∀ o', o = .store o' → A t.call env w.store o' := by
      rintro o' rfl
      exact hA t o' k ht hprog
    have hwp := (htasks t (World.mem_tasks ht)).wp
    rw [hprog] at hwp
    obtain ⟨s₁, hs₁, htasks₁, he, hx⟩ := hP.completes hw hAo hcomp
    obtain ⟨hguar, hk⟩ := (hwp _ ((P.logic t.call).rely_refl _)).2 r _ he
    have hcalls : w₁.calls = w.calls := by rw [World.calls, htasks₁]; rfl
    have hi : CallAt w₁ i t.call := (CallAt.of_task ht).grow (hcalls ▸ List.prefix_refl _)
    have hstore : (w₁.settle D (B.caller env) i (k r)).store = s₁.1 :=
      (World.settle_store _ _ _ _).trans hs₁
    -- an operation of the store is relied on by all, any other leaves the store alone
    cases o with
    | store o =>
      have hrely : ∀ call, P.rely call ⟨w.store, hok⟩ s₁ :=
        fun call => hP.guar_rely t.call call _ o s₁ hguar
      have h₁ : TasksOk P s₁ w₁ :=
        ⟨hs₁, by rw [hcalls, htasks₁]; exact PoolOk.rely hP htasks hrely⟩
      rw [← hcalls] at hk
      refine ⟨(h₁.settle hP _ i _ hi hk).poolOk, ?_⟩
      obtain ⟨r', hr'⟩ := hx o rfl
      obtain ⟨s₁, hok₁⟩ := s₁
      obtain rfl : (w₁.settle D (B.caller env) i (k r)).store = s₁ := hstore
      exact .own hok hok₁ ht hprog hr' hguar
    | _ =>
      obtain ⟨-, hsame⟩ := he
      obtain rfl : s₁ = ⟨w.store, hok⟩ := congrArg Prod.fst hsame
      have h₁ : TasksOk P ⟨w.store, hok⟩ w₁ := ⟨hs₁, by rw [hcalls, htasks₁]; exact htasks⟩
      rw [← hcalls] at hk
      exact ⟨(h₁.settle hP _ i _ hi hk).poolOk, .still hstore⟩

/-- **Run lemma.**  Every task of a reachable world is in its logic. -/
theorem PoolSound.invariant (hP : PoolSound P B D A clients) {init : World σ → Prop}
    {ok : World σ → RtLabel ε → Prop} (hA : ∀ w l, ok w l → awaitsMeet A w l)
    (hinit : ∀ w, init w → PoolOk P w) {w : World σ}
    (h : (runtimeSystem B D init clients).Reach ok w) : PoolOk P w := by
  refine h.invariant hinit ?_
  rintro w l w' - hw hok ⟨hc, hs⟩
  exact (hP.step hw (hA w l hok) hc hs).1

end
end RoutePilot
