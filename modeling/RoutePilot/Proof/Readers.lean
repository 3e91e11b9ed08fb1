/-
  Who may at most read a Trip changes nothing of it, over either store and with
  any number of coordinators, workers and other clients: neither an operation
  of the store in his name, nor the submission, the cancellation or the
  resumption of a Run.

  The exception is in the guards of the stores: `mutate_run` checks that its
  caller may read the Run, and not that he may write its Trip, so that a viewer
  can cancel it (`viewer_cancels_run`); the same holds of the operations on its
  lease, and in memory of `resume_run`.
-/
import RoutePilot.Postgres.Readers
import RoutePilot.Runtime.Play
import RoutePilot.Runtime.Pool

namespace RoutePilot

open Lib Lts

/-! ## The operations of a request -/

/-- The client who requested a call. -/
def Call.requester : Call → Option Principal
  | .submit _ p .. | .resume _ p .. | .cancel _ p .. => some p
  | _ => none

/-- The operation is none of the store, or one in the name of the principal. -/
def InNameOf (p : Principal) : Op → Prop
  | .store o => o.principal = p
  | _ => True

/-- Every operation the coroutine can await is in the name of the principal. -/
def ActsFor {α : Type} (p : Principal) (x : Async α) : Prop := x.Only (InNameOf p) fun _ => True

section
variable {X : Coordinator} {c : ℕ} {p : Principal} {tripId runId key traceId : String}

theorem ActsFor.ret {α : Type} {a : α} : ActsFor p (Co.ret a) := trivial

theorem ActsFor.raise {α : Type} {e : Exc} : ActsFor p (raise e : Async α) := trivial

theorem ActsFor.bind {α β : Type} {x : Async α} {f : α → Async β} (hx : ActsFor p x)
    (hf : ∀ a, ActsFor p (f a)) : ActsFor p (x >>= f) := Co.Only.bind hx hf

theorem ActsFor.call {o : Op} (h : InNameOf p o) : ActsFor p (Co.call (E := rt) o) := Co.Only.call h

theorem ActsFor.act {n : Act} : ActsFor p (Co.act (E := rt) n) :=
  Co.Only.act trivial

theorem ActsFor.tryCatch {α : Type} {x : Async α} {h : Exc → Async α} (hx : ActsFor p x)
    (hh : ∀ e, ActsFor p (h e)) : ActsFor p (x.tryCatch h) := Co.Only.tryCatch hx hh

theorem actsFor_transition {run : RunView} {t : Transition} : ActsFor p (transition p run t) := by
  refine .bind .act fun now => ?_
  split
  · exact .raise
  · exact .bind (.call rfl) fun _ => .ret

theorem actsFor_finishCanceled : ActsFor p (finishCanceled p runId) := by
  refine .bind (.call rfl) fun current => ?_
  split
  · exact .ret
  · refine .tryCatch (.bind actsFor_transition fun _ => .ret) fun e => ?_
    split
    · exact .ret
    · exact .raise

theorem actsFor_startUnlessReplayed {result : IdempotentRunResult} :
    ActsFor p (startUnlessReplayed X c p result) := by
  unfold startUnlessReplayed
  split
  · exact .bind (.bind .act fun _ => .bind (.call trivial) fun _ => .act) fun _ => .ret
  · exact .ret

theorem actsFor_submittedCommand {request : RunCreateRequest} :
    ActsFor p (submittedCommand X p tripId request) := by
  unfold submittedCommand
  split
  · unfold replanCommand
    split
    · refine .bind (.call rfl) fun base => ?_
      split
      · exact .raise
      · refine .bind ?_ fun _ => .ret
        cases X.patchedBrief base request.command p <;> trivial
    · exact .raise
  · exact .ret

theorem actsFor_submit {request : RunCreateRequest} :
    ActsFor p (submit X c p tripId request key traceId) :=
  .bind actsFor_submittedCommand fun _ => .bind (.call rfl) fun _ => actsFor_startUnlessReplayed

theorem actsFor_resume {request : RunResumeRequest} : ActsFor p (resume X c p runId request key) :=
  .bind (.call rfl) fun _ => actsFor_startUnlessReplayed

theorem actsFor_stopExecution {updated : RunView} : ActsFor p (stopExecution X c p runId updated) := by
  have hpropagate : ActsFor p (propagateCancel X p runId) := by
    unfold propagateCancel
    split
    · refine .tryCatch (.bind (.call trivial) fun _ => .ret) fun e => ?_
      split
      · exact .raise
      · exact .raise
      · exact .ret
    · exact .ret
  have hlocal : ActsFor p (cancelLocal c runId) := by
    refine .bind (.call trivial) fun task => ?_
    cases task with
    | some task => exact .bind .act fun _ => .ret
    | none => exact .ret
  refine Co.Only.handle (fun r => ActsFor.bind hlocal fun task => ?_) hpropagate
  split
  · exact .raise
  · exact .raise
  · cases task with
    | some task => exact .ret
    | none => exact .bind actsFor_finishCanceled fun _ => .ret

theorem actsFor_cancel {v : ℕ} : ActsFor p (cancel X c p runId v) := by
  refine .bind (.call rfl) fun current => ?_
  split
  · exact .ret
  · refine .bind ?_ fun _ => actsFor_stopExecution
    unfold requestCancel
    split
    · exact .ret
    · exact actsFor_transition

end

/-- What a call may await: a request awaits only operations in the name of its client. -/
def Call.Allows (call : Call) : Op → Prop :=
  match call.requester with
  | some p => InNameOf p
  | none => fun _ => True

theorem Call.program_allows (D : Deployment) (call : Call) :
    (call.program D).Only call.Allows fun _ => True := by
  have hstart : ∀ {x : Async Reply} {P : Op → Prop}, P .start → x.Only P (fun _ => True) →
      (Co.call (E := rt) .start >>= fun _ => x).Only P fun _ => True :=
    fun h hx => .bind (.call h) fun _ => hx
  cases call with
  | submit c p tripId request key traceId =>
    exact hstart trivial (Co.Only.bind actsFor_submit fun _ => trivial)
  | resume c p runId request key =>
    exact hstart trivial (Co.Only.bind actsFor_resume fun _ => trivial)
  | cancel c p runId v => exact hstart trivial (Co.Only.bind actsFor_cancel fun _ => trivial)
  | _ => exact .of_all (fun _ => trivial) (fun _ => trivial) _

theorem Call.round_allows (call : Call) : call.round.Only call.Allows fun _ => True := by
  cases call with
  | submit | resume | cancel => exact trivial
  | _ => exact .of_all (fun _ => trivial) (fun _ => trivial) _

/-! ## The runtime -/

section
variable {σ ε : Type} {B : Backend σ ε}

/-- Everyone calls the coordinators, the workers and the store at will. -/
def everyone (B : Backend σ ε) (D : Deployment) : Lts (World σ) (RtLabel ε) :=
  runtimeSystem B D (fun w => w = { store := B.init }) fun _ => True

/-- The step performs an operation of the store. -/
inductive Performs (w : World σ) : RtLabel ε → ε → StoreOp → Prop
  | store (l : OpLabel ε) : Performs w (.store l) l.env l.op
  | run {i : ℕ} {env : ε} {t : Task} {o : StoreOp} {k : Except Exc o.Ans → Async Reply}
      (ht : w.tasks[i]? = some t) (hprog : t.prog = .await (.store o) k) : Performs w (.run i env) env o

/-- The principal takes the step: a request of his, a turn of one of his requests, or an operation of
    the store in his name. -/
inductive CallsFor (p : Principal) (w : World σ) : RtLabel ε → Prop
  | request {call : Call} (h : call.requester = some p) : CallsFor p w (.call call)
  | turn {i : ℕ} {env : ε} {t : Task} (ht : w.tasks[i]? = some t) (h : t.call.requester = some p) :
      CallsFor p w (.run i env)
  | operation {l : RtLabel ε} {env : ε} {o : StoreOp} (h : Performs w l env o) (hp : o.principal = p) :
      CallsFor p w l

/-- Who may at most read a Trip changes nothing of it. -/
structure ReadersKeep (G : TripGuard B) (D : Deployment) (p : Principal) (tripId : String) : Prop where
  /-- a step of the reader that makes no unchecked write leaves the Trip as it is -/
  keeps : ∀ (w w' : World σ) (l : RtLabel ε), (everyone B D).Reach anyStep w →
    (everyone B D).step w l w' → CallsFor p w l → (G.view w.store).ReadOnly p tripId →
      (∀ env o, Performs w l env o → ¬ G.unchecked env w.store tripId o) →
      SameTrip tripId (G.view w.store) (G.view w'.store)
  /-- an operation of the reader that would write the Trip raises -/
  raises : ∀ (w : World σ) (env : ε) (o : StoreOp) (r : Except StoreError o.Ans) (s' : σ),
    (everyone B D).Reach anyStep w → B.exec env o w.store r s' → o.principal = p →
      (G.view w.store).ReadOnly p tripId → (G.view w.store).Targets tripId o →
      ¬ G.unchecked env w.store tripId o → ¬ G.answers env w.store o → ∃ e, r = .error e

/-- Every task awaits what its call allows. -/
def requestPool (Ok : σ → Prop) : PoolLogic Ok where
  exec _ _ _ _ _ := True
  rely _ _ _ := True
  guar call _ o _ := call.Allows (.store o)
  pre _ _ := True
  post _ _ _ := True
  rely_refl _ _ := trivial
  rely_trans _ _ _ _ _ _ := trivial

theorem requestPool_only {Ok : σ → Prop} {call : Call} {x : Async Reply} {s : View Ok}
    (h : x.Only call.Allows fun _ => True) :
    Wp ((requestPool Ok).logic call) x (fun _ _ => True) s := by
  refine Wp.of_only (P := call.Allows) (A := fun _ => True) (fun s o s' ho => ?_) (fun n s _ => ?_) h
  · cases o with
    | store o => exact ho
    | _ => trivial
  · cases n with
    | addDoneCallback => exact fun _ => trivial
    | _ => trivial

theorem requestPool_sound (G : TripGuard B) (D : Deployment) :
    PoolSound (requestPool G.Ok) B D (fun _ _ _ _ => True) fun _ => True where
  exec _ o env s r s' _ hfresh hx := ⟨G.keep env o s.1 r s' s.2 hfresh hx, trivial⟩
  guar_rely _ _ _ _ _ _ := trivial
  others l s s' _ hfresh hx := ⟨G.keep l.env l.op s.1 l.result s' s.2 hfresh hx, fun _ => trivial⟩
  program call _ _ := requestPool_only (call.program_allows D)
  round call _ _ := ⟨by cases call <;> rfl, requestPool_only call.round_allows⟩
  post_stable _ _ _ _ _ _ := trivial
  requests _ _ _ := trivial

variable {D : Deployment} {w w' : World σ}

/-- **Run lemma.** -/
theorem everyone_poolOk (G : TripGuard B) (h : (everyone B D).Reach anyStep w) :
    PoolOk (requestPool G.Ok) w := by
  refine (requestPool_sound G D).invariant (fun w l _ => ?_) (fun w hw => ?_) h
  · cases l with
    | run => exact fun _ _ _ _ _ => trivial
    | _ => trivial
  · obtain rfl : w = { store := B.init } := hw
    exact ⟨G.init, fun t ht => absurd ht List.not_mem_nil⟩

/-- A step leaves the store alone, or performs an operation of it. -/
theorem RtStep.performs {l : RtLabel ε} (h : RtStep B D w l w') : w'.store = w.store ∨
    ∃ env o r, Performs w l env o ∧ B.fresh env w.store ∧ B.exec env o w.store r w'.store := by
  cases l with
  | call call => rw [show w' = w.spawn D call from h]; exact .inl rfl
  | cancel i => rw [show w' = w.cancelTask i from h]; exact .inl (World.cancelTask_store i w)
  | interrupt i env =>
    obtain ⟨t, o, k, -, -, -, rfl⟩ := h
    exact .inl (World.settle_store _ _ _ _)
  | store l => exact .inr ⟨l.env, l.op, l.result, .store l, h.1, h.2.1⟩
  | run i env =>
    obtain ⟨t, o, k, r, w₁, ht, hprog, -, hc, rfl⟩ := h
    rw [World.settle_store]
    cases o with
    | store o =>
      obtain ⟨hfresh, r₀, s', hx, -, rfl⟩ := hc
      exact .inr ⟨env, o, r₀, .run ht hprog, hfresh, hx⟩
    | setTask | popTask => obtain ⟨-, rfl⟩ := hc; exact .inl rfl
    | start | getTask | join | wait => exact .inl (by rw [hc.2])
    | external | cancelRunTasks => exact .inl (by rw [show w₁ = w from hc])
    | gather => exact .inl (by rw [hc.2.2])

/-- An operation that is performed by a step of the principal is in his name. -/
theorem CallsFor.principal {G : TripGuard B} {l : RtLabel ε} {p : Principal} {env : ε} {o : StoreOp}
    (hw : PoolOk (requestPool G.Ok) w) (hp : CallsFor p w l) (ho : Performs w l env o) :
    o.principal = p := by
  cases hp with
  | request => cases ho
  | operation h hop =>
    cases h with
    | store l => cases ho; exact hop
    | run ht hprog =>
      cases ho with
      | run ht' hprog' =>
        rw [ht] at ht'; cases ht'
        rw [hprog] at hprog'; cases hprog'
        exact hop
  | @turn i env t ht hcall =>
    cases ho with
    | run ht' hprog =>
      rw [ht] at ht'; cases ht'
      obtain ⟨hok, htasks⟩ := hw
      have hwp := (htasks _ (World.mem_tasks ht)).wp
      rw [hprog] at hwp
      have hallows := ((hwp _ (((requestPool G.Ok).logic t.call).rely_refl _)).2
        (.error .cancelled) _ ⟨trivial, rfl⟩).1
      have hin : t.call.Allows (.store o) := hallows
      rw [Call.Allows, hcall] at hin
      exact hin

theorem TripGuard.readersKeep (G : TripGuard B) (D : Deployment) (p : Principal) (tripId : String) :
    ReadersKeep G D p tripId where
  keeps w w' l hw hs hp hread hc := by
    have hpool := everyone_poolOk G hw
    obtain hst | ⟨env, o, r, ho, hfresh, hx⟩ := hs.2.performs
    · rw [hst]
      exact .refl _ _
    · obtain rfl := hp.principal hpool ho
      exact G.same hpool.1 hfresh hx hread (hc env o ho)
  raises w env o r s' hw hx hp hread ht hc hanswers := by
    subst hp
    cases r with
    | error e => exact ⟨e, rfl⟩
    | ok x =>
      obtain h | h | h := G.refuses env o w.store x s' tripId (everyone_poolOk G hw).1 hx ht
      · exact absurd hread h
      · exact absurd h hc
      · exact absurd h hanswers

end

/-- **Readers of a Trip change nothing of it.** -/
theorem readers_change_nothing (D : Deployment) (p : Principal) (tripId : String) :
    ReadersKeep memoryGuard D p tripId ∧ ReadersKeep Postgres.postgresGuard D p tripId :=
  ⟨memoryGuard.readersKeep D p tripId, Postgres.postgresGuard.readersKeep D p tripId⟩

/-! ## A viewer -/

namespace ViewerCancels

open Play

def viewer : Principal := { tenantId := "tenant", userId := "viewer" }

/-- The owner invites a viewer and submits a Run; the viewer's cancellation has read it. -/
def invited : List Move :=
  [.store (env 1) (.createTrip owner { title := "Kyoto" }),
    .store (env 2) (.upsertTripMember owner "trip_1" "viewer" .viewer),
    .call (.submit 0 owner "trip_1" plan "key" "trace"), .run 0 (env 3), .run 0 (env 4),
    .call (.cancel 0 viewer "run_4" 1), .run 2 (env 5), .run 2 (env 6)]

def D : Deployment := deployment snapshot

def world : World Store := (World.plays D (fun _ _ => true) { store := {} } invited).get (by decide)

/-- The cancellation goes on. -/
def canceled : World Store := (world.playRun D 2 (env 7)).get (by decide)

theorem world_reachable : (everyone memoryBackend D).Reach anyStep world :=
  ⟨_, rfl, steps_plays (fun _ _ _ _ _ => ⟨trivial, trivial⟩) (Option.some_get _).symm⟩

theorem canceled_step : (everyone memoryBackend D).step world (.run 2 (env 7)) canceled :=
  ⟨trivial, World.playRun_step (Option.some_get _).symm⟩

theorem viewer_readOnly : world.store.view.ReadOnly viewer "trip_1" := by
  have htrip : (world.store.trips.get? "trip_1").map (·.ownerId) = some "owner" := by decide
  have hmember : (world.store.members.get? ("trip_1", "viewer")).map (·.role) = some .viewer := by
    decide
  obtain ⟨t, ht, howner⟩ := Option.map_eq_some_iff.1 htrip
  refine ⟨t, ht, fun _ => ⟨by rw [howner]; decide, rfl, fun m hm hrole => ?_⟩⟩
  rw [show world.store.members.get? ("trip_1", "viewer") = some m from hm, Option.map_some,
    hrole] at hmember
  cases hmember

theorem viewer_calls : CallsFor viewer world (.run 2 (env 7)) := by
  have hcall : (world.tasks[2]?).map (·.call.requester) = some (some viewer) := by decide
  obtain ⟨t, ht, hp⟩ := Option.map_eq_some_iff.1 hcall
  exact .turn ht hp

/-- The viewer renames the Trip. -/
def newTitle : StoreOp := .patchTrip viewer "trip_1" { title := some "Osaka" }

def renamed : World Store :=
  { world with store := final ((newTitle.run (env 7)).run world.store) }

theorem renamed_step : (everyone memoryBackend D).step world
    (.store ⟨env 7, newTitle, outcome ((newTitle.run (env 7)).run world.store)⟩) renamed :=
  ⟨trivial, Env.fresh_of_isFresh (by decide), ⟨rfl, rfl⟩, rfl⟩

end ViewerCancels

/-- A viewer does not rename a Trip: the call raises and leaves it as it is. -/
theorem readers_change_nothing_renamed :
    SameTrip "trip_1" ViewerCancels.world.store.view ViewerCancels.renamed.store.view ∧
      ∃ e, outcome ((ViewerCancels.newTitle.run (Play.env 7)).run ViewerCancels.world.store) =
        .error e := by
  have h := (readers_change_nothing ViewerCancels.D ViewerCancels.viewer "trip_1").1
  refine ⟨h.keeps _ _ _ ViewerCancels.world_reachable ViewerCancels.renamed_step
      (.operation (.store _) rfl) ViewerCancels.viewer_readOnly (fun env o ho => ?_), ?_⟩
  · cases ho
    exact id
  · exact h.raises _ _ ViewerCancels.newTitle _ _ ViewerCancels.world_reachable ⟨rfl, rfl⟩ rfl
      ViewerCancels.viewer_readOnly rfl id id

/-- Without the condition a viewer changes the Trip: his cancellation of the owner's Run is
    accepted. -/
theorem viewer_cancels_run : ¬ ∀ (D : Deployment) (w w' : World Store) l p tripId,
    (everyone memoryBackend D).Reach anyStep w → (everyone memoryBackend D).step w l w' →
      CallsFor p w l → w.store.view.ReadOnly p tripId →
      SameTrip tripId w.store.view w'.store.view := by
  intro h
  have hsame := h _ _ _ _ _ _ ViewerCancels.world_reachable ViewerCancels.canceled_step
    ViewerCancels.viewer_calls ViewerCancels.viewer_readOnly
  have hold : (ViewerCancels.world.store.log "run_4").map (·.1.lifecycleState) = some .queued := by
    decide
  have hnew : (ViewerCancels.canceled.store.log "run_4").map
      (fun x => (x.1.tripId, x.1.lifecycleState)) = some ("trip_1", .cancelRequested) := by decide
  obtain ⟨⟨run, events⟩, hrun, hstate⟩ := Option.map_eq_some_iff.1 hnew
  have hkept : ViewerCancels.world.store.log "run_4" = some (run, events) :=
    (hsame.runs "run_4" run events (congrArg Prod.fst hstate)).1 hrun
  rw [hkept, Option.map_some, show run.lifecycleState = .cancelRequested from
    congrArg Prod.snd hstate] at hold
  cases hold

end RoutePilot
