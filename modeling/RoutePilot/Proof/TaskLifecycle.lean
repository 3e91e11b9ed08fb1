/-
  The state machine of A2A Tasks, over every interleaving of services that
  share the in-memory store.
-/
import RoutePilot.A2A.Play

namespace RoutePilot.A2A

open Lib Lts

/-- The moves of the state machine. -/
def CanMove : TaskState → TaskState → Prop
  | .submitted, .working | .submitted, .failed | .submitted, .canceled
  | .working, .completed | .working, .failed | .working, .canceled | .working, .inputRequired
  | .working, .authRequired
  | .inputRequired, .working | .inputRequired, .canceled
  | .authRequired, .canceled => True
  | _, _ => False

theorem Allowed.canMove {s s' : TaskState} {artifacts : List TaskArtifact} {pending : Option String}
    (h : Allowed s s' artifacts pending) : CanMove s s' := by
  cases h with
  | start | complete | ask | auth => trivial
  | fail h =>
    simp only [List.mem_cons, List.not_mem_nil, or_false] at h
    obtain rfl | rfl := h <;> trivial
  | cancel h =>
    simp only [cancelableStates, List.mem_cons, List.not_mem_nil, or_false] at h
    obtain rfl | rfl | rfl | rfl := h <;> trivial

/-- What happens to a Task in one step: nothing, or one move with the next version and its event. -/
theorem RecordStep.moves {strict : Prop} {c : Call} {r : TaskRecord} {y : Option TaskRecord}
    (h : RecordStep strict c (some r) y) :
    ∃ r', y = some r' ∧ (r' = r ∨ r'.version = r.version + 1 ∧ CanMove r.state r'.state ∧
      r'.statuses = r.statuses ++ [(r'.version, r'.state)]) := by
  cases h with
  | same => exact ⟨r, rfl, .inl rfl⟩
  | moved r message timestamp updatedAt hallowed =>
    exact ⟨_, rfl, .inr ⟨rfl, hallowed.canMove, transitioned_statuses ..⟩⟩
  | answered r actor interfaceId params response timestamp updatedAt hc hstate hstrict =>
    refine ⟨_, rfl, .inr ⟨rfl, ?_, answered_statuses ..⟩⟩
    rw [hstate]
    trivial

/-! ## Steps and runs -/

section
variable {σ : Type} {T : Setting σ}

/-- The statuses of a Task only grow. -/
theorem Setting.statuses_grow {w w' : Machine.World svc Call σ}
    (h : (services T.store T.cfg T.rounds).system.Reach T.contract.ok w)
    (hs : (services T.store T.cfg T.rounds).system.Steps T.contract.ok w w') (key : TaskKey) :
    ∀ r, (T.store.view w.shared).record key = some r →
      ∃ r', (T.store.view w'.shared).record key = some r' ∧ r.statuses <+: r'.statuses := by
  refine Steps.relate (R := fun w w' : Machine.World svc Call σ => ∀ r,
    (T.store.view w.shared).record key = some r →
      ∃ r', (T.store.view w'.shared).record key = some r' ∧ r.statuses <+: r'.statuses) ?_ ?_ ?_ h hs
  · exact fun w r hr => ⟨r, hr, List.prefix_refl _⟩
  · intro w₁ w₂ w₃ h₁₂ h₂₃ r hr
    obtain ⟨r₂, hr₂, hp₂⟩ := h₁₂ r hr
    obtain ⟨r₃, hr₃, hp₃⟩ := h₂₃ r₂ hr₂
    exact ⟨r₃, hr₃, hp₂.trans hp₃⟩
  · intro w l w' hw hok hstep r hr
    obtain ⟨i, o, a, p, -, -, hrec⟩ | hsame := Setting.recordStep (Setting.worldOk _ hw) hok hstep key
    · rw [hr] at hrec
      obtain ⟨r', hr', rfl | ⟨-, -, hstat⟩⟩ := hrec.moves
      · exact ⟨_, hr', List.prefix_refl _⟩
      · exact ⟨r', hr', hstat ▸ List.prefix_append _ _⟩
    · exact ⟨r, hsame.trans hr, List.prefix_refl _⟩

end

/-- The one entry of a key in a list of distinct keys. -/
theorem filter_fst_eq {l : List (ℕ × TaskState)} (hd : (l.map Prod.fst).Nodup) {k : ℕ} {s : TaskState}
    (hm : (k, s) ∈ l) : (l.filter fun e => e.1 = k) = [(k, s)] := by
  induction l with
  | nil => cases hm
  | cons e es ih =>
    rw [List.map_cons, List.nodup_cons] at hd
    obtain rfl | hm := List.mem_cons.1 hm
    · rw [List.filter_cons_of_pos (by simp), List.filter_eq_nil_iff.2]
      intro e he
      simp only [decide_eq_true_eq]
      rintro rfl
      exact hd.1 (List.mem_map.2 ⟨e, he, rfl⟩)
    · have hne : e.1 ≠ k := fun h => hd.1 (h ▸ List.mem_map_of_mem hm)
      rw [List.filter_cons_of_neg (by simpa using hne)]
      exact ih hd.2 hm

/-- Runs without a side condition. -/
def plainSetting (cfg : ServiceConfig) (n : ℕ) : Setting TaskStore := ⟨memoryTasks, cfg, n, False, False⟩

theorem plain_ok {cfg : ServiceConfig} {n : ℕ} (w : ServiceWorld) (l : Machine.Label svc Call) :
    (plainSetting cfg n).contract.ok w l := by
  cases l with
  | start => trivial
  | run i o r => exact fun p _ => ⟨False.elim, False.elim⟩

/-- **The Task state machine.**  In every reachable state of services over the in-memory store: a
    request is pending exactly while input is required, only completed Tasks have Artifacts, and the
    versions from 2 on have one status event each, in order.  A step leaves a Task as it is or moves
    it along `CanMove` (so completed, failed and canceled Tasks stay as they are), with the next
    version; and the status event of a version tells the state the Task had then. -/
theorem task_state_machine (cfg : ServiceConfig) (n : ℕ) {w : ServiceWorld}
    (h : (services memoryTasks cfg n).system.Reach anyStep w) (key : TaskKey) :
    (∀ r, w.shared.records.get? key = some r →
      (r.pendingInputRequestId.isSome ↔ r.state = .inputRequired) ∧
      (r.task.artifacts ≠ [] → r.state = .completed) ∧
      r.statuses.map Prod.fst = List.range' 2 (r.version - 1)) ∧
    (∀ l w', (services memoryTasks cfg n).Step w l w' →
      (∀ r, w.shared.records.get? key = some r → ∃ r', w'.shared.records.get? key = some r' ∧
        (r' = r ∨ r'.version = r.version + 1 ∧ CanMove r.state r'.state)) ∧
      ∀ r', w.shared.records.get? key = none → w'.shared.records.get? key = some r' →
        r'.version = 1 ∧ r'.state = .submitted) ∧
    ∀ w' r, (services memoryTasks cfg n).system.Steps anyStep w w' →
      w.shared.records.get? key = some r → 2 ≤ r.version →
      ∃ r', w'.shared.records.get? key = some r' ∧
        (r'.statuses.filter fun e => e.1 = r.version) = [(r.version, r.state)] := by
  let T := plainSetting cfg n
  have hT : ∀ {w : ServiceWorld}, (services memoryTasks cfg n).system.Reach anyStep w →
      (services T.store T.cfg T.rounds).system.Reach T.contract.ok w :=
    fun h => h.mono fun w l _ => plain_ok w l
  refine ⟨fun r hr => ?_, fun l w' hs => ⟨fun r hr => ?_, fun r' hnone hr' => ?_⟩, fun w' r hs hr hv => ?_⟩
  · have hok : RecordOk r := (T.worldOk (hT h)).inv.record key r hr
    exact ⟨hok.pending, hok.artifacts, hok.versions⟩
  · obtain ⟨i, o, a, p, -, -, hrec⟩ | hsame := Setting.recordStep (T.worldOk (hT h)) (plain_ok w l) hs key
    · rw [show (T.store.view w.shared).record key = some r from hr] at hrec
      obtain ⟨r', hr', hmove⟩ := hrec.moves
      exact ⟨r', hr', hmove.imp_right fun hm => ⟨hm.1, hm.2.1⟩⟩
    · exact ⟨r, hsame.trans hr, .inl rfl⟩
  · obtain ⟨i, o, a, p, -, -, hrec⟩ | hsame := Setting.recordStep (T.worldOk (hT h)) (plain_ok w l) hs key
    · rw [show (T.store.view w.shared).record key = none from hnone,
        show (T.store.view w'.shared).record key = some r' from hr'] at hrec
      cases hrec with
      | created => exact ⟨rfl, rfl⟩
    · have : w'.shared.records.get? key = w.shared.records.get? key := hsame
      rw [hnone, hr'] at this; cases this
  · have hsteps : (services T.store T.cfg T.rounds).system.Steps T.contract.ok w w' :=
      Relation.ReflTransGen.mono (fun _ _ ⟨l, _, hl⟩ => ⟨l, plain_ok _ l, hl⟩) _ _ hs
    obtain ⟨r', hr', hpre⟩ := Setting.statuses_grow (hT h) hsteps key r hr
    refine ⟨r', hr', filter_fst_eq ?_ ?_⟩
    · have hok : RecordOk r' := (T.worldOk ((hT h).steps hsteps)).inv.record key r' hr'
      rw [hok.versions]
      exact List.nodup_range'
    · have hok : RecordOk r := (T.worldOk (hT h)).inv.record key r hr
      exact hpre.subset (hok.current hv)

/-- A working Task has the status event of its second version. -/
theorem task_state_machine_working :
    ∃ w r, Sample.world Sample.working = some w ∧ w.shared.records.get? Sample.key = some r ∧
      r.version = 2 ∧ r.statuses.map Prod.fst = [2] := by
  have hworld : (Sample.world Sample.working).isSome = true := by decide
  obtain ⟨w, hw⟩ := Option.isSome_iff_exists.1 hworld
  have hversion : (Sample.stored Sample.working).map (·.version) = some 2 := by decide
  rw [Sample.stored, hw, Option.bind_some] at hversion
  obtain ⟨r, hr, hv⟩ := Option.map_eq_some_iff.1 hversion
  have hok := (task_state_machine Sample.cfg 10 (Sample.world_reach hw) Sample.key).1 r hr
  exact ⟨w, r, hw, hr, hv, by rw [hok.2.2, hv]; rfl⟩

end RoutePilot.A2A
