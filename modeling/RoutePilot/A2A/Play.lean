/-
  Runs of the services that can be computed, over the in-memory store: a move
  starts a call, lets one coroutine get the answer of the store (or of its
  executor), or makes its operation fail.
-/
import RoutePilot.A2A.Contract

namespace RoutePilot.A2A

open Lib Lts

/-- A move at a time, with the identifier `uuid4` draws. -/
inductive Move where
  | start (now : Time) (uuid : String) (c : Call)
  | answer (now : Time) (uuid : String) (i : ℕ)
  | result (now : Time) (uuid : String) (i : ℕ) (result : ExecutionResult)
  | fault (now : Time) (uuid : String) (i : ℕ) (name : String)

/-- The coroutine a move answers. -/
def Move.index : Move → Option ℕ
  | .start .. => none
  | .answer _ _ i | .result _ _ i _ | .fault _ _ i _ => some i

/-- The results of the actions; no event is set. -/
def actions (now : Time) (uuid : String) : (n : ServiceAct) → n.Res
  | .utcNow => now
  | .uuid4 => uuid
  | .isSet => false

/-- The answer of the in-memory store; `wait_for_change` times out. -/
def storeAnswer (now : Time) (st : TaskStore) : (o : TaskOp) → Except TaskStoreError o.Ans × TaskStore
  | .createOrGet record => let x := (createOrGet record).run st; (outcome x, final x)
  | .get key => let x := (getTaskRecord key).run st; (outcome x, final x)
  | .getByDispatch key => let x := (getByDispatch key).run st; (outcome x, final x)
  | .replace record version lease =>
    let x := (replaceRecord now record version lease).run st; (outcome x, final x)
  | .claimExecution key owner duration =>
    let x := (claimExecution now key owner duration).run st; (outcome x, final x)
  | .renewExecution lease duration =>
    let x := (renewExecution now lease duration).run st; (outcome x, final x)
  | .releaseExecution lease => let x := (releaseExecution lease).run st; (outcome x, final x)
  | .listForRun tenantId runId => let x := (listForRun tenantId runId).run st; (outcome x, final x)
  | .waitForChange _ _ => (.ok none, st)

theorem storeAnswer_exec (now : Time) (st : TaskStore) (o : TaskOp) :
    memoryTasks.exec now o st (storeAnswer now st o).1 (storeAnswer now st o).2 := by
  cases o with
  | waitForChange => exact ⟨.timeout, rfl⟩
  | listForRun tenantId runId =>
    have h : Ran ((listForRun tenantId runId).run st) _ _ := ran_iff.2 ⟨rfl, rfl⟩
    exact h
  | _ => exact ran_iff.2 ⟨rfl, rfl⟩

/-- The answer of a move, and the state it leaves. -/
def Move.reply (m : Move) (st : TaskStore) : (o : ServiceOp) → Option (Except ServiceError o.Ans × TaskStore)
  | .store o => match m with
    | .answer now _ _ => some (fromStore (storeAnswer now st o).1, (storeAnswer now st o).2)
    | .fault _ _ _ name => some (.error (.exception name), st)
    | _ => none
  | .execute .. => match m with
    | .result _ _ _ x => some (.ok x, st)
    | _ => none
  | .forever => none

abbrev ServiceWorld := Machine.World svc Call TaskStore

/-- Answer one coroutine. -/
def playReply (m : Move) (now : Time) (uuid : String) (i : ℕ) (w : ServiceWorld) : Option ServiceWorld :=
  match w.procs[i]? with
  | some ⟨c, log, .await o k⟩ => (m.reply w.shared o).map fun x =>
    { shared := x.2
      procs := w.procs.set i
        { call := c, log := ⟨o, x.1⟩ :: log, code := Machine.settle (actions now uuid) (k x.1) } }
  | _ => none

/-- The job's record is stored. -/
def Call.isReady (st : TaskStore) : Call → Bool
  | .executeJob record .. => (st.records.get? record.key).isSome
  | _ => true

/-- One move. -/
def play (cfg : ServiceConfig) (n : ℕ) (w : ServiceWorld) : Move → Option ServiceWorld
  | .start now uuid c => if c.isReady w.shared then
      some { w with procs := w.procs ++
        [{ call := c, code := Machine.settle (actions now uuid) (c.body cfg n) }] }
    else none
  | m@(.answer now uuid i) | m@(.result now uuid i _) | m@(.fault now uuid i _) => playReply m now uuid i w

/-- The moves one after the other, each of them checked. -/
def plays (cfg : ServiceConfig) (n : ℕ) (check : ServiceWorld → Move → Bool) (w : ServiceWorld) :
    List Move → Option ServiceWorld
  | [] => some w
  | m :: ms => if check w m then (play cfg n w m).bind fun w' => plays cfg n check w' ms else none

section
variable {cfg : ServiceConfig} {n : ℕ} {w w' : ServiceWorld}

theorem Move.reply_exec {m : Move} {st st' : TaskStore} {o : ServiceOp} {r : Except ServiceError o.Ans}
    (h : m.reply st o = some (r, st')) : (services memoryTasks cfg n).exec o st r st' := by
  cases o with
  | store o =>
    cases m with
    | answer now =>
      cases h
      exact .inl ⟨now, _, storeAnswer_exec now st o, rfl⟩
    | fault => cases h; exact .inr ⟨rfl, _, rfl, trivial⟩
    | start | result => cases h
  | execute =>
    cases m with
    | result => cases h; rfl
    | _ => cases h
  | forever => cases h

/-- An answered coroutine has taken a step. -/
theorem playReply_step {m : Move} {now : Time} {uuid : String} {i : ℕ}
    (h : playReply m now uuid i w = some w') :
    ∃ p o k r, w.procs[i]? = some p ∧ p.code = .await o k ∧ m.reply w.shared o = some (r, w'.shared) ∧
      (services memoryTasks cfg n).Step w (.run i o r) w' := by
  unfold playReply at h
  split at h
  · next c log o k hp =>
    obtain ⟨⟨r, st'⟩, hr, rfl⟩ := Option.map_eq_some_iff.1 h
    refine ⟨⟨c, log, .await o k⟩, o, k, r, hp, rfl, hr, ?_⟩
    exact .run i ⟨c, log, .await o k⟩ o k r st' _ hp rfl (Move.reply_exec hr)
      (Machine.burst_settle (fun _ => trivial) _)
  · cases h

/-- A move is a step. -/
theorem play_step {m : Move} (h : play cfg n w m = some w') :
    ∃ l, (services memoryTasks cfg n).Step w l w' ∧
      ∀ i o r, l = .run i o r → m.index = some i ∧ m.reply w.shared o = some (r, w'.shared) := by
  cases m with
  | start now uuid c =>
    unfold play at h
    simp only at h
    split at h
    · next hready =>
      cases h
      have hc : (services memoryTasks cfg n).ready c w.shared := by
        cases c with
        | executeJob => exact hready
        | _ => trivial
      refine ⟨.start c, .start c _ hc (Machine.burst_settle (fun _ => trivial) _), ?_⟩
      intro i o r hl
      cases hl
    · cases h
  | answer | result | fault =>
    obtain ⟨p, o, k, r, -, -, hr, hs⟩ := @playReply_step cfg n w w' _ _ _ _ h
    refine ⟨_, hs, ?_⟩
    rintro i' o' r' hl
    cases hl
    exact ⟨rfl, hr⟩

/-- **What is played is a run**, if the check implies what is asked of the steps. -/
theorem plays_steps {ok : ServiceWorld → Machine.Label svc Call → Prop}
    {check : ServiceWorld → Move → Bool} {ms : List Move}
    (hcheck : ∀ w m l w', check w m = true → (services memoryTasks cfg n).Step w l w' →
      (∀ i o r, l = .run i o r → m.index = some i ∧ m.reply w.shared o = some (r, w'.shared)) → ok w l) :
    ∀ {w w' : ServiceWorld}, plays cfg n check w ms = some w' →
      (services memoryTasks cfg n).system.Steps ok w w' := by
  induction ms with
  | nil => rintro w w' h; cases h; exact .refl
  | cons m ms ih =>
    intro w w' h
    rw [plays] at h
    split at h
    · next hc =>
      obtain ⟨w₁, hm, h⟩ := Option.bind_eq_some_iff.1 h
      obtain ⟨l, hs, hl⟩ := play_step hm
      exact .head ⟨l, hcheck w m l w₁ hc hs hl, hs⟩ (ih h)
    · cases h

end

/-! ## A small deployment -/

namespace Sample

def cfg : ServiceConfig :=
  { allowedOutputContracts := [], validates := fun _ _ => true, executionLease := 15_000_000 }

def actor : Actor := ⟨"tenant", "actor"⟩

def key : TaskKey := ("tenant", "agent", "task")

def invocation : AgentInvocation := ⟨"plan a trip", [], []⟩

/-- The first message of the Task. -/
def first : SendMessageRequest :=
  { tenant := "tenant"
    message := { messageId := "m0", contextId := "context", metadata := ⟨"m0", "run", none⟩
                 invocation := some invocation, fingerprint := "f0" } }

/-- The record it creates at time 1. -/
def task : TaskRecord :=
  draftRecord actor "agent" "task" "context" first.message invocation 60_000_001 1

/-- The Task is created. -/
def creation : List Move := [.start 1 "task" (.sendMessage actor "agent" first), .answer 2 "" 0]

/-- A job claims the Task and moves it to working. -/
def claim (i : ℕ) (owner : String) : List Move :=
  [.start 3 "" (.executeJob task none false owner), .answer 4 "" i, .answer 5 "" i, .answer 6 "" i]

def working : List Move := creation ++ claim 1 "first"

/-- The world after some moves; every loop goes round at most ten times. -/
def world (ms : List Move) : Option ServiceWorld := plays cfg 10 (fun _ _ => true) { shared := {} } ms

/-- The stored record of the Task after some moves. -/
def stored (ms : List Move) : Option TaskRecord := (world ms).bind fun w => w.shared.records.get? key

theorem world_reach {ms : List Move} {w : ServiceWorld} (h : world ms = some w) :
    (services memoryTasks cfg 10).system.Reach anyStep w :=
  ⟨_, rfl, plays_steps (fun _ _ _ _ _ _ _ => trivial) h⟩

end Sample

end RoutePilot.A2A
