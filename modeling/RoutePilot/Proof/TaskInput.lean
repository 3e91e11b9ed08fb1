/-
  Input responses to A2A Tasks.

  `_resume_input` compares the request and the message identifier on its first
  read, and stores the response on a later one.  As long as no later read finds
  the Task waiting for input again in another version, every response answers
  the request it names, and every message is accepted once.
-/
import RoutePilot.Proof.TaskLifecycle

namespace RoutePilot.A2A

open Lib Lts

/-- No retry of an input response reads the Task waiting in a later version than the one checked. -/
def NotOvertaken (w : ServiceWorld) : Machine.Label svc Call → Prop
  | .start _ => True
  | .run i o _ => ∀ p, w.procs[i]? = some p → Unraced p.call p.log w.shared.view o

/-- Whether a step stores a response that does not answer the pending request. -/
def AnswersPending (st st' : TaskStore) (key : TaskKey) : Prop :=
  ∀ r r' response, st.records.get? key = some r → st'.records.get? key = some r' → r' ≠ r →
    r'.executionInput = some response →
    r.executionInput = some response ∧ r.state ≠ .inputRequired ∨
      r.pendingInputRequestId = some response.requestId

/-- The step lets a message move the Task from input required to working. -/
def Accepts (w : ServiceWorld) (l : Machine.Label svc Call) (w' : ServiceWorld) (key : TaskKey)
    (messageId : String) : Prop :=
  ∃ i o r p actor interfaceId params before after, l = .run i o r ∧ w.procs[i]? = some p ∧
    p.call = .sendMessage actor interfaceId params ∧ params.message.messageId = messageId ∧
    w.shared.records.get? key = some before ∧ w'.shared.records.get? key = some after ∧
    before.state = .inputRequired ∧ after.state = .working

section
variable {cfg : ServiceConfig} {n : ℕ}

/-- Runs without overtaken responses. -/
def strictSetting (cfg : ServiceConfig) (n : ℕ) : Setting TaskStore := ⟨memoryTasks, cfg, n, True, False⟩

theorem strict_ok {w : ServiceWorld} {l : Machine.Label svc Call} (h : NotOvertaken w l) :
    (strictSetting cfg n).contract.ok w l := by
  cases l with
  | start => trivial
  | run i o r => exact fun p hp => ⟨fun _ => h p hp, False.elim⟩

theorem Allowed.submitted {s : TaskState} {artifacts : List TaskArtifact} {pending : Option String}
    (h : Allowed s .working artifacts pending) : s = .submitted := by
  cases h
  rfl

theorem RecordStep.answersPending {c : Call} {r r' : TaskRecord} {response : InputResponse}
    (h : RecordStep True c (some r) (some r')) (hne : r' ≠ r) (hinput : r'.executionInput = some response) :
    r.executionInput = some response ∧ r.state ≠ .inputRequired ∨
      r.pendingInputRequestId = some response.requestId := by
  cases h with
  | same => exact absurd rfl hne
  | moved _ message timestamp updatedAt hallowed =>
    refine .inl ?_
    rename_i newState artifacts pending
    change (if newState = .working then r.executionInput else none) = some response at hinput
    split at hinput
    · next hw =>
      refine ⟨hinput, ?_⟩
      subst hw
      rw [hallowed.submitted]
      nofun
    · cases hinput
  | answered _ actor interfaceId params response' timestamp updatedAt hc hstate hstrict =>
    cases hinput
    exact .inr (hstrict trivial).1

/-- Messages the Task has seen. -/
theorem RecordStep.fingerprints {strict : Prop} {c : Call} {r r' : TaskRecord}
    (h : RecordStep strict c (some r) (some r')) {m : String}
    (hm : (r.messageFingerprints.get? m).isSome) : (r'.messageFingerprints.get? m).isSome := by
  cases h with
  | same => exact hm
  | moved => exact hm
  | answered =>
    simp only [TaskRecord.answered, Dict.get?_set]
    split
    · rfl
    · exact hm

/-- An accepted message is new to the record, and known to its successor. -/
theorem RecordStep.accepts {actor : Actor} {interfaceId : String} {params : SendMessageRequest}
    {r r' : TaskRecord} (h : RecordStep True (.sendMessage actor interfaceId params) (some r) (some r'))
    (hbefore : r.state = .inputRequired) (hafter : r'.state = .working) :
    r.messageFingerprints.get? params.message.messageId = none ∧
      (r'.messageFingerprints.get? params.message.messageId).isSome := by
  cases h with
  | same => rw [hbefore] at hafter; cases hafter
  | moved _ message timestamp updatedAt hallowed =>
    rename_i newState artifacts pending
    obtain rfl : newState = .working := hafter
    have := hallowed.submitted
    rw [hbefore] at this; cases this
  | answered _ actor' interfaceId' params' response timestamp updatedAt hc hstate hstrict =>
    cases hc
    refine ⟨(hstrict trivial).2, ?_⟩
    simp [TaskRecord.answered]

end

/-- **Input responses.**  In every run in which no retry of a response finds the Task waiting in a
    later version than the one it checked: a stored response answers the pending request of the
    record it replaces, and a message moves a Task from input required to working at most once. -/
theorem responses_answer_once (cfg : ServiceConfig) (n : ℕ) {w : ServiceWorld}
    (h : (services memoryTasks cfg n).system.Reach NotOvertaken w) {l : Machine.Label svc Call}
    {w₁ : ServiceWorld} (hok : NotOvertaken w l) (hs : (services memoryTasks cfg n).Step w l w₁)
    (key : TaskKey) :
    AnswersPending w.shared w₁.shared key ∧
    ∀ messageId, Accepts w l w₁ key messageId →
      ∀ w₂ l' w₃, (services memoryTasks cfg n).system.Steps NotOvertaken w₁ w₂ → NotOvertaken w₂ l' →
        (services memoryTasks cfg n).Step w₂ l' w₃ → ¬ Accepts w₂ l' w₃ key messageId := by
  let T := strictSetting cfg n
  have hT : ∀ {w : ServiceWorld}, (services memoryTasks cfg n).system.Reach NotOvertaken w →
      (services T.store T.cfg T.rounds).system.Reach T.contract.ok w :=
    fun h => h.mono fun w l => strict_ok
  -- the step of a Task, with the call that takes it
  have hstep : ∀ {w w' : ServiceWorld} {l}, (services memoryTasks cfg n).system.Reach NotOvertaken w →
      NotOvertaken w l → (services memoryTasks cfg n).Step w l w' →
      (∃ i o r p, l = .run i o r ∧ w.procs[i]? = some p ∧
        RecordStep True p.call (w.shared.records.get? key) (w'.shared.records.get? key)) ∨
      w'.shared.records.get? key = w.shared.records.get? key :=
    fun hw hok hs => Setting.recordStep (T.worldOk (hT hw)) (strict_ok hok) hs key
  have haccepts : ∀ {w w' : ServiceWorld} {l m}, (services memoryTasks cfg n).system.Reach NotOvertaken w →
      NotOvertaken w l → (services memoryTasks cfg n).Step w l w' → Accepts w l w' key m →
      (∀ r, w.shared.records.get? key = some r → r.messageFingerprints.get? m = none) ∧
      ∃ r', w'.shared.records.get? key = some r' ∧ (r'.messageFingerprints.get? m).isSome := by
    rintro w w' l m hw hok hs ⟨i, o, a, p, actor, interfaceId, params, before, after, rfl, hp, hcall, rfl,
      hbefore, hafter, hin, hout⟩
    obtain ⟨i', o', a', p', hl, hp', hrec⟩ | hsame := hstep hw hok hs
    · cases hl
      rw [hp] at hp'
      cases hp'
      rw [hbefore, hafter, hcall] at hrec
      obtain ⟨hnew, hknown⟩ := hrec.accepts hin hout
      refine ⟨fun r hr => ?_, after, hafter, hknown⟩
      rw [hbefore] at hr
      cases hr
      exact hnew
    · rw [hbefore, hafter] at hsame
      cases hsame
      rw [hin] at hout; cases hout
  refine ⟨fun r r' response hr hr' hne hinput => ?_, fun messageId hacc w₂ l' w₃ hsteps hok' hs' hacc' => ?_⟩
  · obtain ⟨i, o, a, p, -, -, hrec⟩ | hsame := hstep h hok hs
    · rw [hr, hr'] at hrec
      exact hrec.answersPending hne hinput
    · rw [hr, hr'] at hsame
      exact absurd (Option.some.inj hsame) hne
  · obtain ⟨-, r₁, hr₁, hknown⟩ := haccepts h hok hs hacc
    have h₁ : (services memoryTasks cfg n).system.Reach NotOvertaken w₁ := h.step hok hs
    -- a Task does not forget a message
    have hrun : ∃ r₂, w₂.shared.records.get? key = some r₂ ∧
        (r₂.messageFingerprints.get? messageId).isSome := by
      refine Steps.relate (R := fun w w' : ServiceWorld =>
        (∃ r, w.shared.records.get? key = some r ∧ (r.messageFingerprints.get? messageId).isSome) →
          ∃ r, w'.shared.records.get? key = some r ∧ (r.messageFingerprints.get? messageId).isSome)
        (fun _ => id) (fun _ _ _ hf hg => hg ∘ hf) ?_ h₁ hsteps ⟨r₁, hr₁, hknown⟩
      rintro w l w' hw hok hs ⟨r, hr, hm⟩
      obtain ⟨i, o, a, p, -, -, hrec⟩ | hsame := hstep hw hok hs
      · rw [hr] at hrec
        obtain ⟨r', hr', -⟩ := hrec.le
        rw [hr'] at hrec
        exact ⟨r', hr', hrec.fingerprints hm⟩
      · exact ⟨r, hsame.trans hr, hm⟩
    obtain ⟨r₂, hr₂, hknown₂⟩ := hrun
    obtain ⟨hnew, -⟩ := haccepts (h₁.steps hsteps) hok' hs' hacc'
    rw [hnew r₂ hr₂] at hknown₂
    cases hknown₂

/-! ## A response that is overtaken -/

namespace Sample

/-- A response to a request. -/
def response (messageId requestId : String) : SendMessageRequest :=
  { tenant := "tenant"
    message := { messageId := messageId, contextId := "context", taskId := "task"
                 metadata := ⟨"m0", "run", none⟩, inputResponse := some ⟨requestId, []⟩
                 fingerprint := "f" ++ messageId } }

/-- The first job asks for input. -/
def asked : List Move :=
  working ++ [.result 7 "ask" 1 (.inputRequired "q1" []), .answer 8 "" 1, .answer 9 "" 1, .answer 10 "" 1]

/-- The version a coroutine read first is still the stored one. -/
def isTimely (w : ServiceWorld) (m : Move) : Bool :=
  match m.index with
  | none => true
  | some i => match w.procs[i]? with
    | none => true
    | some p => match p.log.getLast? with
      | some ⟨.store (.get k), .ok checked⟩ =>
        (w.shared.records.get? k).all fun r => r.version == checked.version
      | _ => true

theorem notOvertaken_of_isTimely {w : ServiceWorld} {m : Move} (h : isTimely w m = true) {i : ℕ}
    (hi : m.index = some i) (o : ServiceOp) (r : Except ServiceError o.Ans) :
    NotOvertaken w (.run i o r) := by
  rintro p hp actor interfaceId params checked - ⟨rest, hlog, -⟩ - - r hr -
  have hlast : p.log.getLast? = some ⟨.store (.get (actor.tenantId, interfaceId, params.message.taskId)),
      .ok checked⟩ := by rw [hlog]; simp
  unfold isTimely at h
  rw [hi] at h
  simp only [hp, hlast] at h
  rw [show w.shared.records.get? _ = some r from hr] at h
  simpa using h

/-- A message answers the request, and has read the Task again. -/
def answering : List Move :=
  asked ++ [.start 11 "" (.sendMessage actor "agent" (response "m1" "q1")), .answer 12 "" 2,
    .answer 13 "" 2]

def ready : ServiceWorld := (plays cfg 10 isTimely { shared := {} } answering).get (by decide)

def resumed : ServiceWorld := (play cfg 10 ready (.answer 14 "" 2)).get (by decide)

theorem ready_reach : (services memoryTasks cfg 10).system.Reach NotOvertaken ready := by
  refine ⟨_, rfl, plays_steps (fun w m l w' hm _ hl => ?_) (Option.some_get _).symm⟩
  cases l with
  | start => trivial
  | run i o r => exact notOvertaken_of_isTimely hm (hl i o r rfl).1 o r

/-- Two messages answer the request; both have checked it. -/
def checked (m m' : String) : List Move :=
  asked ++ [.start 11 "" (.sendMessage actor "agent" (response m "q1")), .answer 12 "" 2,
    .start 13 "" (.sendMessage actor "agent" (response m' "q1")), .answer 14 "" 3]

/-- The second one is accepted, and a job asks again. -/
def overtaken (m m' : String) : List Move :=
  checked m m' ++ [.answer 15 "" 3, .answer 16 "" 3, .start 17 "" (.executeJob task none true "second"),
    .answer 18 "" 4, .answer 19 "" 4, .result 20 "ask" 4 (.inputRequired "q2" []), .answer 21 "" 4,
    .answer 22 "" 4, .answer 23 "" 4]

/-- The first one reads the Task again. -/
def late : ServiceWorld := (world (overtaken "m1" "m2" ++ [.answer 24 "" 2])).get (by decide)

/-- Its response to the first request is stored as an answer to the second. -/
def misanswered : ServiceWorld := (play cfg 10 late (.answer 25 "" 2)).get (by decide)

end Sample

/-- The one response is stored for the request that is pending. -/
theorem responses_answer_once_resumed :
    AnswersPending Sample.ready.shared Sample.resumed.shared Sample.key := by
  have hplay : playReply (.answer 14 "" 2) 14 "" 2 Sample.ready = some Sample.resumed :=
    (Option.some_get _).symm
  obtain ⟨p, o, k, r, -, -, -, hs⟩ := @playReply_step Sample.cfg 10 _ _ _ _ _ _ hplay
  have htimely : Sample.isTimely Sample.ready (.answer 14 "" 2) = true := by decide
  exact (responses_answer_once Sample.cfg 10 Sample.ready_reach
    (Sample.notOvertaken_of_isTimely htimely rfl o r) hs Sample.key).1

/-- The overtaken response is stored although another request is pending. -/
theorem overtaken_response_stored : ¬ ∀ w, (services memoryTasks Sample.cfg 10).system.Reach anyStep w →
    ∀ l w', (services memoryTasks Sample.cfg 10).Step w l w' → ∀ key,
      AnswersPending w.shared w'.shared key := by
  intro h
  have hplay : playReply (.answer 25 "" 2) 25 "" 2 Sample.late = some Sample.misanswered :=
    (Option.some_get _).symm
  obtain ⟨p, o, k, r, -, -, -, hs⟩ := @playReply_step Sample.cfg 10 _ _ _ _ _ _ hplay
  have hans := h _ (Sample.world_reach (Option.some_get _).symm) _ _ hs Sample.key
  have hbefore : (Sample.late.shared.records.get? Sample.key).map
      (fun r => (r.version, r.state, r.pendingInputRequestId)) =
        some (5, .inputRequired, some "q2") := by decide
  have hafter : (Sample.misanswered.shared.records.get? Sample.key).map
      (fun r => (r.version, r.executionInput.map (·.requestId))) = some (6, some "q1") := by decide
  obtain ⟨before, hb, hbefore⟩ := Option.map_eq_some_iff.1 hbefore
  obtain ⟨after, ha, hafter⟩ := Option.map_eq_some_iff.1 hafter
  simp only [Prod.mk.injEq] at hbefore hafter
  obtain ⟨response, hresponse, hid⟩ := Option.map_eq_some_iff.1 hafter.2
  have hne : after ≠ before := by
    rintro rfl
    exact absurd (hafter.1.symm.trans hbefore.1) (by decide)
  rcases hans before after response hb ha hne hresponse with ⟨-, hstate⟩ | hpending
  · exact hstate hbefore.2.1
  · rw [hbefore.2.2, hid] at hpending
    exact absurd hpending (by decide)

end RoutePilot.A2A
