/-
  Runs of the runtime that can be computed, over the in-memory store.

  A move is a label without the choices that the store makes by itself;
  external awaits succeed.  What is played is a run of the runtime
  (`steps_plays`).
-/
import RoutePilot.Runtime.World

namespace RoutePilot

open Lib Lts

inductive Move where
  | call (call : Call)
  | run (task : ℕ) (env : Env)
  | interrupt (task : ℕ) (env : Env)
  | cancel (task : ℕ)
  | store (env : Env) (op : StoreOp)

/-- The identifiers an operation draws are not in use. -/
def Env.isFresh (env : Env) (st : Store) : Bool :=
  (st.trips.get? (env.newPublicId "trip")).isNone && (st.runs.get? (env.newPublicId "run")).isNone

namespace World

/-- An operation of the store. -/
def callStore (env : Env) (o : StoreOp) (w : World Store) :
    Option (Except StoreError o.Ans × World Store) :=
  if env.isFresh w.store then
    some (outcome ((o.run env).run w.store), { w with store := final ((o.run env).run w.store) })
  else none

/-- The answer of an awaited operation, and the world it leaves. -/
def answer (env : Env) (w : World Store) : (o : Op) → Option (Except Exc o.Ans × World Store)
  | .store o => (w.callStore env o).map fun x => (x.1.mapError Exc.store, x.2)
  | .start => some (.ok (), w)
  | .external => some (.ok (), w)
  | .cancelRunTasks .. => some (.ok (), w)
  | .setTask c runId t => some (.ok (), { w with registry := w.registry.set (c, runId) t })
  | .getTask c runId => some (.ok (w.registry.get? (c, runId)), w)
  | .popTask c runId => some (.ok (), { w with registry := w.registry.pop (c, runId) })
  | .join t => (w.outcomeOf t).map fun r => (r, w)
  | .gather t => (w.outcomeOf t).map fun _ => (.ok (), w)
  | .wait _ => some (.ok false, w)

/-- The await of a task completes. -/
def playRun (D : Deployment) (i : ℕ) (env : Env) (w : World Store) : Option (World Store) :=
  match w.tasks[i]? with
  | some { prog := .await o k, mustCancel := false, .. } =>
    (w.answer env o).map fun x => x.2.settle D env i (k x.1)
  | _ => none

/-- `CancelledError` is raised at the await of a task. -/
def playInterrupt (D : Deployment) (i : ℕ) (env : Env) (w : World Store) : Option (World Store) :=
  match w.tasks[i]? with
  | some { prog := .await _ k, mustCancel := true, .. } =>
    some ((w.setTask i fun x => { x with mustCancel := false }).settle D env i
      (k (.error .cancelled)))
  | _ => none

/-- One move, with its label. -/
def play (D : Deployment) (w : World Store) : Move → Option (RtLabel Env × World Store)
  | .call call => some (.call call, w.spawn D call)
  | .run i env => (w.playRun D i env).map fun w' => (.run i env, w')
  | .interrupt i env => (w.playInterrupt D i env).map fun w' => (.interrupt i env, w')
  | .cancel i => some (.cancel i, w.cancelTask i)
  | .store env op => (w.callStore env op).map fun x => (.store ⟨env, op, x.1⟩, x.2)

/-- The moves one after the other, each of them checked. -/
def plays (D : Deployment) (check : World Store → Move → Bool) (w : World Store) :
    List Move → Option (World Store)
  | [] => some w
  | m :: ms => if check w m then (w.play D m).bind fun x => x.2.plays D check ms else none

end World

theorem Env.fresh_of_isFresh {env : Env} {st : Store} (h : env.isFresh st = true) :
    memoryBackend.fresh env st := by
  rw [Env.isFresh, Bool.and_eq_true, Option.isNone_iff_eq_none, Option.isNone_iff_eq_none] at h
  exact h

theorem World.callStore_exec {env : Env} {w w₁ : World Store} {o : StoreOp}
    {r : Except StoreError o.Ans} (h : w.callStore env o = some (r, w₁)) :
    memoryBackend.fresh env w.store ∧ memoryBackend.exec env o w.store r w₁.store ∧
      w₁ = { w with store := w₁.store } := by
  unfold callStore at h
  split at h
  · next hf => cases h; exact ⟨Env.fresh_of_isFresh hf, ⟨rfl, rfl⟩, rfl⟩
  · cases h

theorem World.answer_completes {env : Env} {w w₁ : World Store} {o : Op} {r : Except Exc o.Ans}
    (h : w.answer env o = some (r, w₁)) : w.Completes memoryBackend env o r w₁ := by
  cases o with
  | store o =>
    obtain ⟨⟨r₀, w₀⟩, hx, h'⟩ := Option.map_eq_some_iff.1 h
    cases h'
    obtain ⟨hfresh, hexec, hw⟩ := callStore_exec hx
    exact ⟨hfresh, r₀, w₀.store, hexec, rfl, hw⟩
  | start | setTask | getTask | popTask => cases h; exact ⟨rfl, rfl⟩
  | external | cancelRunTasks => cases h; rfl
  | join t =>
    obtain ⟨r', hr', h'⟩ := Option.map_eq_some_iff.1 h
    cases h'
    exact ⟨hr', rfl⟩
  | gather t =>
    obtain ⟨r', hr', h'⟩ := Option.map_eq_some_iff.1 h
    cases h'
    exact ⟨by rw [hr']; rfl, rfl, rfl⟩
  | wait e => cases h; exact ⟨.inl rfl, rfl⟩

theorem World.playRun_step {D : Deployment} {i : ℕ} {env : Env} {w w' : World Store}
    (h : w.playRun D i env = some w') : RtStep memoryBackend D w (.run i env) w' := by
  unfold playRun at h
  split at h
  · next ht =>
    obtain ⟨⟨r, w₁⟩, hr, rfl⟩ := Option.map_eq_some_iff.1 h
    exact ⟨_, _, _, r, w₁, ht, rfl, rfl, answer_completes hr, rfl⟩
  · cases h

theorem World.playInterrupt_step {D : Deployment} {i : ℕ} {env : Env} {w w' : World Store}
    (h : w.playInterrupt D i env = some w') : RtStep memoryBackend D w (.interrupt i env) w' := by
  unfold playInterrupt at h
  split at h
  · next ht => cases h; exact ⟨_, _, _, ht, rfl, rfl, rfl⟩
  · cases h

/-- The label of a move. -/
inductive Move.Labels : Move → RtLabel Env → Prop
  | call (c : Call) : Labels (.call c) (.call c)
  | run (i : ℕ) (env : Env) : Labels (.run i env) (.run i env)
  | interrupt (i : ℕ) (env : Env) : Labels (.interrupt i env) (.interrupt i env)
  | cancel (i : ℕ) : Labels (.cancel i) (.cancel i)
  | store (env : Env) (op : StoreOp) (r : Except StoreError op.Ans) :
      Labels (.store env op) (.store ⟨env, op, r⟩)

/-- A move is a step with its label. -/
theorem World.play_step {D : Deployment} {w w' : World Store} {m : Move} {l : RtLabel Env}
    (h : w.play D m = some (l, w')) : m.Labels l ∧ RtStep memoryBackend D w l w' := by
  cases m with
  | call call => cases h; exact ⟨.call _, rfl⟩
  | cancel i => cases h; exact ⟨.cancel _, rfl⟩
  | run i env =>
    obtain ⟨w₁, hw, h'⟩ := Option.map_eq_some_iff.1 h
    cases h'
    exact ⟨.run _ _, playRun_step hw⟩
  | interrupt i env =>
    obtain ⟨w₁, hw, h'⟩ := Option.map_eq_some_iff.1 h
    cases h'
    exact ⟨.interrupt _ _, playInterrupt_step hw⟩
  | store env op =>
    obtain ⟨⟨r, w₁⟩, hw, h'⟩ := Option.map_eq_some_iff.1 h
    cases h'
    exact ⟨.store _ _ _, callStore_exec hw⟩

/-- **What is played is a run**, if the check implies what is asked of the steps. -/
theorem steps_plays {D : Deployment} {init : World Store → Prop} {clients : RtLabel Env → Prop}
    {ok : World Store → RtLabel Env → Prop} {check : World Store → Move → Bool}
    (hcheck : ∀ w m l, check w m = true → m.Labels l → clients l ∧ ok w l) {ms : List Move} :
    ∀ {w w' : World Store}, w.plays D check ms = some w' →
      (runtimeSystem memoryBackend D init clients).Steps ok w w' := by
  induction ms with
  | nil => intro w w' hp; cases hp; exact .refl
  | cons m ms ih =>
    intro w w' hp
    rw [World.plays] at hp
    split at hp
    · next hc =>
      obtain ⟨⟨l, w₁⟩, hm, hp⟩ := Option.bind_eq_some_iff.1 hp
      obtain ⟨hlabel, hstep⟩ := World.play_step hm
      obtain ⟨hl, hok⟩ := hcheck w m l hc hlabel
      exact .head ⟨l, hok, hl, hstep⟩ (ih hp)
    · cases hp

/-! ## A small deployment -/

namespace Play

def owner : Principal := { tenantId := "tenant", userId := "owner" }

/-- The environment of the `n`-th call. -/
def env (n : ℕ) : Env := { now := n, token := fun _ => toString n }

/-- Coordinators with one executor. -/
def deployment (executor : RunView → Principal → Script) : Deployment where
  coordinator _ :=
    { executor := executor, submitHash := fun _ _ => "hash", resumeHash := fun _ _ => "hash"
      patchedBrief := fun _ _ _ => .ok .null }
  codec := ⟨fun _ => none, id⟩

/-- Every Run returns a snapshot at once. -/
def snapshot : RunView → Principal → Script := fun _ _ =>
  .done { artifactType := "TripSnapshot", schemaVersion := 1, content := [] }

def plan : RunCreateRequest := { command := { type := .tripPlan, message := "plan" } }

end Play

end RoutePilot
