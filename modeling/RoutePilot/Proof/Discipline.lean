/-
  What the coordinators keep to, over any store that logs its Runs.

  A Run is read, then moved by a compare-and-set against the version that was
  read: if the move succeeds, the Run is still the one that was read
  (`RunLog.Knows`), so every move is one of `Edge` whatever runs in between.  A
  result is published on a running Run only, by its own execution, after
  `create_artifact` returned it.
-/
import RoutePilot.Runtime.Pool
import RoutePilot.Spec.RunBackend

namespace RoutePilot

open Lib

/-! ## Runs that move -/

/-- What stays of a Run: its Trip, its tenant, the type of its command, and its base. -/
def RunView.fixed (run : RunView) : String × String × CommandType × Option String × Option ℕ :=
  (run.tripId, run.tenantId, run.command.type, run.baseArtifactId, run.baseArtifactVersion)

theorem RunView.tripId_of_fixed {run run' : RunView} (h : run'.fixed = run.fixed) :
    run'.tripId = run.tripId := congrArg Prod.fst h

/-- A Run moves on: it is unchanged, or at a later version. -/
def RunLog.Advance (L L' : RunLog) : Prop :=
  ∀ id run events, L id = some (run, events) → ∃ run' events', L' id = some (run', events') ∧
    run'.fixed = run.fixed ∧
    (run' = run ∧ events' = events ∨ run.controlVersion < run'.controlVersion)

theorem RunLog.Advance.refl (L : RunLog) : L.Advance L :=
  fun _ run events h => ⟨run, events, h, rfl, .inl ⟨rfl, rfl⟩⟩

theorem RunLog.Advance.trans {L₁ L₂ L₃ : RunLog} (h : L₁.Advance L₂) (h' : L₂.Advance L₃) :
    L₁.Advance L₃ := by
  intro id run events hL
  obtain ⟨run₂, events₂, hL₂, ht₂, hv₂⟩ := h id run events hL
  obtain ⟨run₃, events₃, hL₃, ht₃, hv₃⟩ := h' id run₂ events₂ hL₂
  refine ⟨run₃, events₃, hL₃, ht₃.trans ht₂, ?_⟩
  obtain ⟨rfl, rfl⟩ | hv₂ := hv₂
  · exact hv₃
  · obtain ⟨rfl, rfl⟩ | hv₃ := hv₃
    · exact .inr hv₂
    · exact .inr (hv₂.trans hv₃)

/-- One Run moves to its next version. -/
theorem RunLog.Advance.update {L : RunLog} {id : String} {run run' : RunView}
    {events events' : List RunEvent} (hL : L id = some (run, events))
    (hfixed : run'.fixed = run.fixed) (hversion : run.controlVersion < run'.controlVersion) :
    L.Advance (Function.update L id (some (run', events'))) := by
  intro k run₁ events₁ h₁
  rw [Function.update_apply]
  split
  · next hk =>
    rw [hk, hL] at h₁
    cases h₁
    exact ⟨run', events', rfl, hfixed, .inr hversion⟩
  · exact ⟨run₁, events₁, h₁, rfl, .inl ⟨rfl, rfl⟩⟩

/-- A new Run. -/
theorem RunLog.Advance.insert {L : RunLog} {id : String} {x : RunView × List RunEvent}
    (hL : L id = none) : L.Advance (Function.update L id (some x)) := by
  intro k run₁ events₁ h₁
  refine ⟨run₁, events₁, ?_, rfl, .inl ⟨rfl, rfl⟩⟩
  rw [Function.update_of_ne]
  · exact h₁
  · rintro rfl
    rw [hL] at h₁; cases h₁

/-- The Run was stored: it still is, or has moved on. -/
def RunLog.Knows (L : RunLog) (run : RunView) : Prop :=
  ∃ run' events, L run.runId = some (run', events) ∧ run'.fixed = run.fixed ∧
    (run' = run ∨ run.controlVersion < run'.controlVersion)

theorem RunLog.Knows.advance {L L' : RunLog} {run : RunView} (h : L.Knows run) (ha : L.Advance L') :
    L'.Knows run := by
  obtain ⟨run₁, events₁, h₁, ht₁, hv₁⟩ := h
  obtain ⟨run₂, events₂, h₂, ht₂, hv₂⟩ := ha _ run₁ events₁ h₁
  refine ⟨run₂, events₂, h₂, ht₂.trans ht₁, ?_⟩
  obtain rfl | hv₁ := hv₁
  · obtain ⟨rfl, -⟩ | hv₂ := hv₂
    · exact .inl rfl
    · exact .inr hv₂
  · obtain ⟨rfl, -⟩ | hv₂ := hv₂
    · exact .inr hv₁
    · exact .inr (hv₁.trans hv₂)

theorem RunLog.Knows.of_stored {L : RunLog} {run : RunView} {events : List RunEvent}
    (h : L run.runId = some (run, events)) : L.Knows run := ⟨run, events, h, rfl, .inl rfl⟩

/-- A Run at the version it was read with is the Run that was read. -/
theorem RunLog.Knows.eq {L : RunLog} {run run' : RunView} {events : List RunEvent}
    (h : L.Knows run) (hL : L run.runId = some (run', events))
    (hv : run'.controlVersion = run.controlVersion) : run' = run := by
  obtain ⟨run₁, events₁, h₁, -, hv₁⟩ := h
  rw [hL] at h₁
  cases h₁
  obtain rfl | hv₁ := hv₁
  · rfl
  · exact absurd hv hv₁.ne'

/-! ## The lifecycle -/

/-- The lifecycle changes of a Run. -/
def RunLifecycle.changesTo : RunLifecycle → RunLifecycle → Bool
  | .queued, .running => true
  | .running, .waitingInput => true
  | .running, .completed => true
  | .waitingInput, .queued => true
  | .queued, .failed | .running, .failed | .waitingInput, .failed => true
  | .queued, .cancelRequested | .running, .cancelRequested | .waitingInput, .cancelRequested => true
  | .queued, .canceled | .running, .canceled | .waitingInput, .canceled => true
  | .cancelRequested, .canceled => true
  | _, _ => false

/-- A move of a Run that is not terminal: its state stays or changes as it may. -/
def RunLifecycle.Moves (l l' : RunLifecycle) : Prop :=
  l.isTerminal = false ∧ (l = l' ∨ l.changesTo l')

instance (l l' : RunLifecycle) : Decidable (l.Moves l') :=
  inferInstanceAs (Decidable (_ ∧ _))

/-! ## The discipline -/

/-- What is fixed about a use of the coordinators: the moves of Runs, a relation that all
    operations keep, what is known of a created Artifact, the Artifacts that are created, whether
    Runs are submitted and resumed, the Runs that are executed, what an execution may assume when
    it starts, and the condition on the awaits. -/
structure Discipline {σ ε : Type} {B : Backend σ ε} (R : RunBackend B) where
  Edge : RunLifecycle → RunLifecycle → Prop
  Keep : σ → σ → Prop
  Made : Principal → String → ArtifactView → σ → Prop
  Creates : ArtifactCreation → Prop
  Submits : Prop
  Executes : String → Prop
  Starts : Principal → String → σ → Prop
  asks : Call → ε → σ → StoreOp → Prop
  edge : ∀ l l', RunLifecycle.Moves l l' → Edge l l'
  keep_refl : ∀ s, Keep s s
  keep_trans : ∀ s₁ s₂ s₃, Keep s₁ s₂ → Keep s₂ s₃ → Keep s₁ s₃
  keep : ∀ env o s r s', R.Ok s → B.fresh env s → B.exec env o s r s' → o.IsCoordinators → Keep s s'
  made : ∀ env p c s a s', R.Ok s → B.exec env (.createArtifact p c) s (.ok a) s' →
    Made p c.tripId a s'
  made_keep : ∀ p tripId a s s', Made p tripId a s → Keep s s' → Made p tripId a s'
  executes : Submits → ∀ runId, Executes runId
  starts_create : Submits → ∀ env p c s x s', R.Ok s → B.fresh env s →
    B.exec env (.createRun p c) s (.ok x) s' → x.replayed = false → Starts p x.run.runId s'
  starts_resume : Submits → ∀ env p runId r s x s', R.Ok s →
    B.exec env (.resumeRun p runId r) s (.ok x) s' → x.replayed = false → Starts p x.run.runId s'
  /-- a cancellation that succeeds against the client's version makes a move of `Edge` -/
  cancel_edge : ∀ c p runId v env s, asks (.cancel c p runId v) env s (.getRun p runId) →
    ∀ run events run' events' L, R.log s runId = some (run, events) →
      run.lifecycleState.isTerminal = false → run.lifecycleState ≠ .cancelRequested →
      (R.log s).Advance L → L runId = some (run', events') → run'.controlVersion = v →
      Edge run'.lifecycleState .cancelRequested

section
variable {σ ε : Type} {B : Backend σ ε} {R : RunBackend B} (F : Discipline R)

/-- A transition asks for input exactly if it makes a Run wait, and only a Run that needs it; it
    never queues a Run again. -/
def RunMutation.Asks (m : RunMutation) (L : RunLog) (runId : String) : Prop :=
  m.lifecycleState ≠ some .queued ∧
  (m.pendingInput.isSome ↔ m.lifecycleState = some .waitingInput) ∧
  ∀ run events, L runId = some (run, events) → run.controlVersion = m.expectedControlVersion →
    m.pendingInput.isSome → needsInput run

/-- The operations of coordinators, with what they write besides moves of Runs. -/
def Discipline.Writes (call : Call) (s : σ) : StoreOp → Prop
  | .mutateRun p runId m => m.Asks (R.log s) runId ∧ ∀ a, m.resultArtifact = some a →
      (∃ c lease, call = .execute c runId p lease) ∧ F.Executes runId ∧ m.lifecycleState = none ∧
      ∀ run events, R.log s runId = some (run, events) → F.Made p run.tripId a s ∧
        (run.controlVersion = m.expectedControlVersion → run.lifecycleState = .running)
  | .createArtifact _ c => F.Creates c
  | .createRun .. | .resumeRun .. => F.Submits
  | .getRun .. | .getArtifact .. => True
  | _ => False

/-- The guarantee of a call: Runs make moves of `Edge`. -/
structure Discipline.Follows (call : Call) (s : σ) (o : StoreOp) (s' : σ) : Prop where
  advance : (R.log s).Advance (R.log s')
  keep : F.Keep s s'
  moves : ∀ id run events run' events', R.log s id = some (run, events) →
    R.log s' id = some (run', events') →
    run' = run ∧ events' = events ∨ F.Edge run.lifecycleState run'.lifecycleState
  writes : F.Writes call s o

/-- The logics of the coordinators' calls. -/
def Discipline.pool : PoolLogic R.Ok where
  exec call o s r s' := ∃ env r₀, r = r₀.mapError Exc.store ∧ F.asks call env s.1 o ∧
    B.fresh env s.1 ∧ B.exec env o s.1 r₀ s'.1
  rely _ s s' := (R.log s.1).Advance (R.log s'.1) ∧ F.Keep s.1 s'.1
  guar call s o s' := F.Follows call s.1 o s'.1
  pre
    | .submit .., _ | .resume .., _ => F.Submits
    | .cancel .., _ | .forget .., _ => True
    | .execute _ runId p _, s => F.Executes runId ∧ F.Starts p runId s.1
    | _, _ => False
  post _ r _ := ∀ x, r = .ok x → x ≠ .again
  rely_refl _ _ := ⟨.refl _, F.keep_refl _⟩
  rely_trans _ _ _ _ h h' := ⟨h.1.trans h'.1, F.keep_trans _ _ _ h.2 h'.2⟩

variable {F} {call : Call} {s : View R.Ok} {α : Type}

/-- The moves of an operation of a coordinator that leaves the log alone. -/
theorem Discipline.Follows.of_same {env : ε} {o : StoreOp} {s s' : σ} {r : Except StoreError o.Ans}
    (hok : R.Ok s) (hfresh : B.fresh env s) (hx : B.exec env o s r s') (ho : o.IsCoordinators)
    (hlog : R.log s' = R.log s) (hw : F.Writes call s o) : F.Follows call s o s' where
  advance := by rw [hlog]; exact .refl _
  keep := F.keep env o s r s' hok hfresh hx ho
  moves id run events run' events' h h' := by
    rw [hlog, h] at h'
    cases h'
    exact .inl ⟨rfl, rfl⟩
  writes := hw

/-- The moves of an operation that moves one Run. -/
theorem Discipline.Follows.of_update {env : ε} {o : StoreOp} {s s' : σ} {r : Except StoreError o.Ans}
    (hok : R.Ok s) (hfresh : B.fresh env s) (hx : B.exec env o s r s') (ho : o.IsCoordinators)
    {id : String} {run run' : RunView} {events events' : List RunEvent}
    (hL : R.log s id = some (run, events)) (hfixed : run'.fixed = run.fixed)
    (hversion : run.controlVersion < run'.controlVersion)
    (hlog : R.log s' = Function.update (R.log s) id (some (run', events')))
    (hedge : F.Edge run.lifecycleState run'.lifecycleState) (hw : F.Writes call s o) :
    F.Follows call s o s' where
  advance := by rw [hlog]; exact .update hL hfixed hversion
  keep := F.keep env o s r s' hok hfresh hx ho
  moves k run₁ events₁ run₂ events₂ h h' := by
    rw [hlog, Function.update_apply] at h'
    split at h'
    · next hk =>
      rw [hk, hL] at h
      cases h; cases h'
      exact .inr hedge
    · rw [h] at h'
      cases h'
      exact .inl ⟨rfl, rfl⟩
  writes := hw

/-- The moves of an operation that stores a new Run. -/
theorem Discipline.Follows.of_insert {env : ε} {o : StoreOp} {s s' : σ} {r : Except StoreError o.Ans}
    (hok : R.Ok s) (hfresh : B.fresh env s) (hx : B.exec env o s r s') (ho : o.IsCoordinators)
    {id : String} {y : RunView × List RunEvent} (hL : R.log s id = none)
    (hlog : R.log s' = Function.update (R.log s) id (some y)) (hw : F.Writes call s o) :
    F.Follows call s o s' where
  advance := by rw [hlog]; exact .insert hL
  keep := F.keep env o s r s' hok hfresh hx ho
  moves k run₁ events₁ run₂ events₂ h h' := by
    have hk : k ≠ id := by
      rintro rfl
      rw [hL] at h; cases h
    rw [hlog, Function.update_of_ne hk, h] at h'
    cases h'
    exact .inl ⟨rfl, rfl⟩
  writes := hw

/-! ## The operations -/

theorem rely_of_follows {s₁ s₂ : View R.Ok} {o : StoreOp} (hr : (F.pool.logic call).rely s s₁)
    (hf : F.Follows call s₁.1.1 o s₂.1.1) (hcalls : s₂.2 = s₁.2) : (F.pool.logic call).rely s s₂ :=
  ⟨⟨hr.1.1.trans hf.advance, F.keep_trans _ _ _ hr.1.2 hf.keep⟩, by rw [hcalls]; exact hr.2⟩

/-- One operation of the store: the moves it makes, and what it returns. -/
theorem safe_callStore {o : StoreOp} {Q : o.Ans → View R.Ok → Prop}
    (h : ∀ env r s₁ s₂, (F.pool.logic call).rely s s₁ → F.asks call env s₁.1.1 o →
      B.fresh env s₁.1.1 → B.exec env o s₁.1.1 r s₂.1.1 →
      LogChange (R.log s₁.1.1) (R.log s₂.1.1) o r → F.Follows call s₁.1.1 o s₂.1.1 ∧
        ∀ x, r = .ok x → (F.pool.logic call).rely s s₂ → Q x s₂) :
    Safe (F.pool.logic call) (callStore o) Q s := by
  refine Safe.call fun s₁ hr r s₂ hx => ?_
  obtain ⟨⟨env, r₀, rfl, hasks, hfresh, hx⟩, hcalls⟩ := hx
  obtain ⟨hf, hQ⟩ := h env r₀ s₁ s₂ hr hasks hfresh hx (R.change env _ _ _ _ s₁.1.2 hfresh hx)
  refine ⟨hf, fun x hx' => ?_⟩
  cases r₀ with
  | error e => cases hx'
  | ok y => cases hx'; exact hQ _ rfl (rely_of_follows hr hf hcalls)

/-- A read: the Run as it is stored. -/
theorem safe_getRun {p : Principal} {runId : String} {Q : RunView → View R.Ok → Prop}
    (h : ∀ run events env s₁ s₂, (F.pool.logic call).rely s s₂ →
      F.asks call env s₁ (.getRun p runId) → R.log s₁ = R.log s₂.1.1 →
      R.log s₂.1.1 runId = some (run, events) → run.runId = runId → Q run s₂) :
    Safe (F.pool.logic call) (getRunC p runId) Q s := by
  refine safe_callStore fun env r s₁ s₂ hr hasks hfresh hx hchange => ?_
  have hlog : R.log s₂.1.1 = R.log s₁.1.1 := by
    cases r with
    | error e => exact hchange
    | ok run => exact hchange.1
  refine ⟨.of_same s₁.1.2 hfresh hx trivial hlog trivial, ?_⟩
  rintro run rfl hr₂
  obtain ⟨-, events, hL⟩ := hchange
  rw [← hlog] at hL
  exact h run events env s₁.1.1 s₂ hr₂ hasks hlog.symm hL (R.logOk _ s₂.1.2 _ _ _ hL).1

/-- What a transition asks of the Run that was read. -/
def Transition.Asks (t : Transition) (run : RunView) : Prop :=
  t.lifecycleState ≠ some .queued ∧
  (t.pendingInput.isSome ↔ t.lifecycleState = some .waitingInput) ∧
  (t.pendingInput.isSome → needsInput run)

/-- A transition that asks for nothing. -/
theorem Transition.asks_nothing {t : Transition} {run : RunView} (hnone : t.pendingInput = none)
    (hq : t.lifecycleState ≠ some .queued) (hw : t.lifecycleState ≠ some .waitingInput) :
    t.Asks run := by
  refine ⟨hq, ?_, ?_⟩
  · rw [hnone]; simpa using hw
  · rw [hnone]; simp

/-- A transition of a Run that was read: if it succeeds, the Run is still the one that was read. -/
theorem safe_transition {p : Principal} {run : RunView} {t : Transition}
    {Q : RunView → View R.Ok → Prop} (hknow : (R.log s.1.1).Knows run) (hask : t.Asks run)
    (hedge : F.Edge run.lifecycleState (t.lifecycleState.getD run.lifecycleState))
    (hart : ∀ a, t.artifact = some a → (∃ c lease, call = .execute c run.runId p lease) ∧
      F.Executes run.runId ∧ t.lifecycleState = none ∧ run.lifecycleState = .running ∧ F.Made p run.tripId a s.1.1)
    (h : ∀ run' s₂, (F.pool.logic call).rely s s₂ → (R.log s₂.1.1).Knows run' →
      run'.runId = run.runId → run'.fixed = run.fixed →
      run'.lifecycleState = t.lifecycleState.getD run.lifecycleState → Q run' s₂) :
    Safe (F.pool.logic call) (transition p run t) Q s := by
  refine Safe.bind (Safe.act trivial fun now s' hs' => ?_)
  obtain rfl : s' = s := hs'
  split
  · exact Safe.raise
  · next eventData _ =>
    refine Safe.bind (safe_callStore fun env r s₁ s₂ hr _ hfresh hx hchange => ?_)
    have hknow₁ := hknow.advance hr.1.1
    -- what is published is known of the Run that is moved
    have hw : F.Writes call s₁.1.1 (.mutateRun p run.runId (t.mutation run eventData)) := by
      refine ⟨⟨hask.1, hask.2.1, fun run₁ events₁ hL hv hsome => ?_⟩, fun a ha => ?_⟩
      · rw [hknow₁.eq hL hv]; exact hask.2.2 hsome
      obtain ⟨hcall, hexec, hstays, hrunning, hmade⟩ := hart a ha
      refine ⟨hcall, hexec, hstays, fun run₁ events₁ hL => ⟨?_, fun hv => ?_⟩⟩
      · obtain ⟨run₂, events₂, hL₂, hfixed, -⟩ := hknow₁
        rw [hL] at hL₂
        cases hL₂
        rw [RunView.tripId_of_fixed hfixed]
        exact F.made_keep _ _ _ _ _ hmade hr.1.2
      · rw [hknow₁.eq hL hv]; exact hrunning
    cases r with
    | error e =>
      exact ⟨.of_same s₁.1.2 hfresh hx trivial hchange.error hw, by simp⟩
    | ok x =>
      obtain ⟨run₁, events₁, e, hL, hv, ⟨env', hx₁⟩, hlog⟩ := hchange.mutateRun
      obtain rfl := hknow₁.eq hL hv
      have hlt : run₁.controlVersion < x.1.controlVersion := by rw [hx₁]; exact Nat.lt_succ_self _
      refine ⟨.of_update s₁.1.2 hfresh hx trivial hL ?_ hlt hlog ?_ hw, ?_⟩
      · rw [hx₁]; rfl
      · rw [hx₁]; exact hedge
      · rintro y hy hr₂
        cases hy
        have hid : x.1.runId = run₁.runId := by rw [hx₁]; rfl
        have hstored : R.log s₂.1.1 x.1.runId = some (x.1, events₁ ++ [e]) := by
          rw [hlog, hid, Function.update_self]
        refine Safe.ret (h x.1 s₂ hr₂ (.of_stored hstored) hid ?_ ?_)
        · rw [hx₁]; rfl
        · rw [hx₁]; rfl

/-- A transition without a result. -/
theorem safe_move {p : Principal} {run : RunView} {t : Transition}
    {Q : RunView → View R.Ok → Prop} (hknow : (R.log s.1.1).Knows run) (hask : t.Asks run)
    (hmoves : run.lifecycleState.Moves (t.lifecycleState.getD run.lifecycleState))
    (hart : t.artifact = none)
    (h : ∀ run' s₂, (F.pool.logic call).rely s s₂ → (R.log s₂.1.1).Knows run' →
      run'.runId = run.runId → run'.fixed = run.fixed →
      run'.lifecycleState = t.lifecycleState.getD run.lifecycleState → Q run' s₂) :
    Safe (F.pool.logic call) (transition p run t) Q s :=
  safe_transition hknow hask (F.edge _ _ hmoves) (by simp [hart]) h

/-! ## The functions of a coordinator -/

/-- A read that only needs to know the Run. -/
theorem safe_read {p : Principal} {runId : String} {Q : RunView → View R.Ok → Prop}
    (h : ∀ run s₂, (F.pool.logic call).rely s s₂ → (R.log s₂.1.1).Knows run → run.runId = runId →
      Q run s₂) : Safe (F.pool.logic call) (getRunC p runId) Q s := by
  refine safe_getRun fun run events _ _ s₂ hr _ _ hL hid => h run s₂ hr ?_ hid
  subst hid
  exact .of_stored hL

theorem safe_reportProgress {p : Principal} {runId phase label : String} {percent : ℤ}
    {lease : Option RunExecutionLease} :
    Safe (F.pool.logic call) (reportProgress p runId phase label percent lease)
      (fun _ _ => True) s := by
  refine Safe.bind (safe_read fun run s₂ _ hknow _ => ?_)
  split
  · exact Safe.raise
  · next hlive =>
    rw [not_or] at hlive
    refine Safe.bind (safe_move hknow (Transition.asks_nothing rfl nofun nofun) ⟨?_, .inl rfl⟩ rfl
      fun _ _ _ _ _ _ _ => Safe.ret trivial)
    simpa using hlive.1

theorem safe_finishCanceled {p : Principal} {runId : String} :
    Safe (F.pool.logic call) (finishCanceled p runId) (fun _ _ => True) s := by
  refine Safe.bind (safe_read fun run s₂ _ hknow _ => ?_)
  split
  · exact Safe.ret trivial
  · next hlive =>
    refine Safe.tryCatch (Safe.bind (safe_move hknow (Transition.asks_nothing rfl nofun nofun)
      ?_ rfl fun _ _ _ _ _ _ _ => Safe.ret trivial)) ?_
    · cases hl : run.lifecycleState <;> simp_all [RunLifecycle.Moves, RunLifecycle.changesTo,
        RunLifecycle.isTerminal]
    · intro e s'
      split
      · exact Safe.ret trivial
      · exact Safe.raise

theorem safe_finishFailed {p : Principal} {runId errorCode : String}
    {lease : Option RunExecutionLease} :
    Safe (F.pool.logic call) (finishFailed p runId errorCode lease) (fun _ _ => True) s := by
  refine Safe.bind (safe_read fun run s₂ _ hknow _ => ?_)
  split
  · exact safe_finishCanceled
  · split
    · exact Safe.ret trivial
    · next hcr hlive =>
      refine Safe.tryCatch (Safe.bind (safe_move hknow (Transition.asks_nothing rfl nofun nofun)
      ?_ rfl fun _ _ _ _ _ _ _ => Safe.ret trivial)) ?_
      · cases hl : run.lifecycleState <;> simp_all [RunLifecycle.Moves, RunLifecycle.changesTo,
          RunLifecycle.isTerminal]
      · intro e s'
        split
        · exact Safe.ret trivial
        · exact Safe.ret trivial
        · exact Safe.raise

/-- The Run is read as running. -/
theorem safe_getRunning {p : Principal} {runId : String} {Q : RunView → View R.Ok → Prop}
    (h : ∀ run s₂, (F.pool.logic call).rely s s₂ → (R.log s₂.1.1).Knows run → run.runId = runId →
      run.lifecycleState = .running → Q run s₂) :
    Safe (F.pool.logic call) (getRunning p runId) Q s := by
  refine Safe.bind (safe_read fun run s₂ hr hknow hid => ?_)
  split
  · exact Safe.raise
  · next hrun => exact Safe.ret (h run s₂ hr hknow hid (not_not.1 hrun))

/-- A creation the discipline allows. -/
theorem safe_createArtifact {p : Principal} {c : ArtifactCreation}
    {Q : ArtifactView → View R.Ok → Prop} (hc : F.Creates c)
    (h : ∀ a s₂, (F.pool.logic call).rely s s₂ → F.Made p c.tripId a s₂.1.1 → Q a s₂) :
    Safe (F.pool.logic call) (callStore (.createArtifact p c)) Q s := by
  refine safe_callStore fun env r s₁ s₂ hr _ hfresh hx hchange => ?_
  have hlog : R.log s₂.1.1 = R.log s₁.1.1 := by cases r <;> exact hchange
  refine ⟨.of_same s₁.1.2 hfresh hx trivial hlog hc, ?_⟩
  rintro a rfl hr₂
  exact h a s₂ hr₂ (F.made env p c _ a _ s₁.1.2 hx)

theorem safe_createSupporting {p : Principal} {tripId : String} {lease : Option RunExecutionLease}
    {as : List ExecutionArtifact} (has : ∀ a ∈ as, F.Creates (a.creation tripId lease)) :
    ∀ {s : View R.Ok},
      Safe (F.pool.logic call) (createSupporting p tripId lease as) (fun _ _ => True) s := by
  induction as with
  | nil => exact Safe.ret trivial
  | cons a as ih =>
    refine Safe.bind (safe_createArtifact (has a List.mem_cons_self) fun _ _ _ _ => ?_)
    exact ih fun b hb => has b (List.mem_cons_of_mem _ hb)

theorem safe_failValidation {p : Principal} {run : RunView} {artifact : ArtifactView}
    {lease : Option RunExecutionLease} (hknow : (R.log s.1.1).Knows run)
    (hrun : run.lifecycleState = .running) :
    Safe (F.pool.logic call) (failValidation p run artifact lease) (fun _ _ => True) s := by
  refine Safe.bind (safe_move hknow (Transition.asks_nothing rfl nofun nofun)
    ⟨by rw [hrun]; rfl, .inl rfl⟩ rfl fun run' s₂ _ hknow' _ _ hl => ?_)
  refine Safe.bind (safe_move hknow' (Transition.asks_nothing rfl nofun nofun) ?_ rfl fun _ _ _ _ _ _ _ =>
    Safe.ret trivial)
  rw [show run'.lifecycleState = .running from hl.trans hrun]
  exact ⟨rfl, .inr rfl⟩

theorem safe_publishAndComplete {c : ℕ} {p : Principal} {run : RunView} {artifact : ArtifactView}
    {lease lease' : Option RunExecutionLease} (hcall : call = .execute c run.runId p lease')
    (hexec : F.Executes run.runId) (hknow : (R.log s.1.1).Knows run) (hrun : run.lifecycleState = .running)
    (hmade : F.Made p run.tripId artifact s.1.1) :
    Safe (F.pool.logic call) (publishAndComplete p run artifact lease) (fun _ _ => True) s := by
  refine Safe.bind (safe_transition hknow (Transition.asks_nothing rfl nofun nofun)
    ?_ ?_ fun run' s₂ _ hknow' _ _ hl => ?_)
  · exact F.edge _ _ ⟨by rw [hrun]; rfl, .inl rfl⟩
  · rintro a ha
    cases ha
    exact ⟨⟨c, lease', hcall⟩, hexec, rfl, hrun, hmade⟩
  · refine Safe.bind (safe_move hknow' (Transition.asks_nothing rfl nofun nofun)
      ?_ rfl fun _ _ _ _ _ _ _ => Safe.ret trivial)
    rw [show run'.lifecycleState = .running from hl.trans hrun]
    exact ⟨rfl, .inr rfl⟩

/-- The Artifacts of a result are all allowed. -/
def Discipline.AllowsResult (F : Discipline R) (r : ExecutionResult) : Prop :=
  ∀ tripId lease, F.Creates (r.creation tripId lease) ∧
    ∀ a ∈ r.supportingArtifacts, F.Creates (a.creation tripId lease)

theorem safe_finishExecution {c : ℕ} {p : Principal} {runId : String}
    {lease : Option RunExecutionLease} {result : ExecutionResult}
    (hcall : call = .execute c runId p lease) (hexec : F.Executes runId)
    (hres : F.AllowsResult result) :
    Safe (F.pool.logic call) (finishExecution p runId lease result) (fun _ _ => True) s := by
  refine Safe.bind (safe_getRunning fun run₁ s₁ _ _ _ _ => ?_)
  refine Safe.bind ((safe_createSupporting (hres _ _).2).mono fun _ s₂ _ => ?_)
  refine Safe.bind (safe_getRunning fun run₂ s₃ _ hknow₂ hid₂ _ => ?_)
  refine Safe.bind (safe_createArtifact (hres _ _).1 fun artifact s₄ hr₄ hmade => ?_)
  have hknow₂' := hknow₂.advance hr₄.1.1
  refine Safe.bind (safe_getRunning fun run₃ s₅ hr₅ hknow₃ hid₃ hrun₃ => ?_)
  -- the Run keeps its Trip, so the Artifact belongs to the Trip of the Run that is moved
  have htrip : run₃.tripId = run₂.tripId := by
    obtain ⟨x, _, hx, hfx, -⟩ := hknow₃
    obtain ⟨y, _, hy, hfy, -⟩ := hknow₂'.advance hr₅.1.1
    rw [hid₂, ← hid₃, hx] at hy
    cases hy
    rw [← RunView.tripId_of_fixed hfx, RunView.tripId_of_fixed hfy]
  split
  · refine safe_publishAndComplete (by rw [hcall, hid₃]) (by rw [hid₃]; exact hexec) hknow₃ hrun₃ ?_
    rw [htrip]
    exact F.made_keep _ _ _ _ _ hmade hr₅.1.2
  · exact safe_failValidation hknow₃ hrun₃

/-- An execution returns an allowed result. -/
theorem safe_script {report : String → String → ℤ → Async Unit} {x : Script}
    (hreport : ∀ phase label percent s,
      Safe (F.pool.logic call) (report phase label percent) (fun _ _ => True) s)
    (hx : x.Yields F.AllowsResult) : ∀ {s : View R.Ok},
      Safe (F.pool.logic call) (x.run report) (fun result _ => F.AllowsResult result) s := by
  induction x with
  | done result => exact Safe.ret hx
  | raise e => exact Safe.raise
  | progress phase label percent k ih =>
    exact Safe.handle ((hreport ..).mono fun _ _ _ => ih _ (hx _)) fun e _ => ih _ (hx _)
  | external k ih =>
    intro s s₁ _
    exact ⟨fun e _ => ih _ (hx _), fun r s₂ _ => ⟨trivial, ih r (hx r)⟩⟩

theorem safe_executeRunning {X : Coordinator} {c : ℕ} {p : Principal} {runId : String}
    {lease : Option RunExecutionLease} {run : RunView}
    (hX : ∀ run p, (X.executor run p).Yields F.AllowsResult)
    (hcall : call = .execute c runId p lease) (hexec : F.Executes runId)
    (hknow : (R.log s.1.1).Knows run) (hrun : run.lifecycleState = .running) :
    Safe (F.pool.logic call) (executeRunning X p runId lease run) (fun _ _ => True) s := by
  have hinput : Safe (F.pool.logic call) (requiredInput run)
      (fun pending s' => s' = s ∧ (pending.isSome → needsInput run)) s := by
    unfold requiredInput
    split
    · next hneeds =>
      refine Safe.bind (Safe.act trivial fun _ s₁ hs₁ => ?_)
      refine Safe.bind (Safe.act trivial fun _ s₂ hs₂ => ?_)
      exact Safe.ret ⟨Eq.trans hs₂ hs₁, fun _ => hneeds⟩
    · exact Safe.ret ⟨rfl, by simp⟩
  refine Safe.bind (hinput.mono fun pending s' hs' => ?_)
  obtain ⟨rfl, hneeds⟩ := hs'
  cases pending with
  | some pendingInput =>
    refine Safe.bind (safe_move hknow ⟨nofun, by simp, fun _ => hneeds rfl⟩ ?_ rfl
      fun _ _ _ _ _ _ _ => Safe.ret trivial)
    rw [hrun]
    exact ⟨rfl, .inr rfl⟩
  | none =>
    refine Safe.bind ((safe_script (fun _ _ _ _ => safe_reportProgress) (hX run p)).mono ?_)
    exact fun result s₂ hres => safe_finishExecution hcall hexec hres

theorem safe_executeBody {X : Coordinator} {c : ℕ} {p : Principal} {runId : String}
    {lease : Option RunExecutionLease} (hX : ∀ run p, (X.executor run p).Yields F.AllowsResult)
    (hcall : call = .execute c runId p lease) (hexec : F.Executes runId) :
    Safe (F.pool.logic call) (executeBody X p runId lease) (fun _ _ => True) s := by
  refine Safe.bind (safe_read fun run s₂ _ hknow hid => ?_)
  split
  · next hl =>
    refine Safe.bind (safe_move hknow (Transition.asks_nothing rfl nofun nofun)
      ?_ rfl fun run' s₃ _ hknow' _ _ hl' => ?_)
    · rw [hl]; exact ⟨rfl, .inr rfl⟩
    · exact safe_executeRunning hX hcall hexec hknow' hl'
  · next hl => exact safe_executeRunning hX hcall hexec hknow hl
  · exact Safe.ret trivial

theorem safe_executeHandler {p : Principal} {runId : String} {lease : Option RunExecutionLease}
    {e : Exc} : Safe (F.pool.logic call) (executeHandler p runId lease e) (fun _ _ => True) s := by
  unfold executeHandler
  split
  · split
    · exact safe_finishCanceled
    · refine Safe.bind (safe_read fun run s₂ _ _ _ => ?_)
      split
      · exact safe_finishCanceled
      · split
        · exact Safe.ret trivial
        · exact Safe.raise
  · exact Safe.raise
  · refine Safe.bind (safe_read fun run s₂ _ _ _ => ?_)
    split
    · exact safe_finishCanceled
    · exact Safe.ret trivial
  · exact Safe.raise
  · exact safe_finishFailed

theorem safe_execute {X : Coordinator} {c : ℕ} {p : Principal} {runId : String}
    {lease : Option RunExecutionLease} (hX : ∀ run p, (X.executor run p).Yields F.AllowsResult)
    (hcall : call = .execute c runId p lease) (hexec : F.Executes runId) :
    Safe (F.pool.logic call) (execute X runId p lease) (fun _ _ => True) s := by
  refine Safe.bind (Safe.act trivial fun _ _ _ => ?_)
  refine Safe.handle ((safe_executeBody hX hcall hexec).mono fun _ _ _ => ?_) fun e s' => ?_
  · exact Safe.bind (Safe.act trivial fun _ _ _ => Safe.ret trivial)
  · exact Safe.bind (Safe.act trivial fun _ _ _ => safe_executeHandler)

/-! ## Submission, resumption and cancellation -/

theorem safe_startLocal {c : ℕ} {p : Principal} {runId : String} (hsub : F.Submits)
    (hs : F.Starts p runId s.1.1) :
    Safe (F.pool.logic call) (startLocal c p runId) (fun _ _ => True) s := by
  refine Safe.bind (Safe.act ⟨F.executes hsub runId, hs⟩ fun task s₁ _ => ?_)
  refine Safe.bind (Safe.call fun s₂ _ r s₃ _ => ⟨trivial, fun _ _ => ?_⟩)
  exact Safe.act (fun _ => trivial) fun _ _ _ => trivial

theorem safe_startUnlessReplayed {X : Coordinator} {c : ℕ} {p : Principal}
    {result : IdempotentRunResult} (hsub : F.Submits)
    (hs : result.replayed = false → F.Starts p result.run.runId s.1.1) :
    Safe (F.pool.logic call) (startUnlessReplayed X c p result) (fun _ _ => True) s := by
  unfold startUnlessReplayed
  split
  · next h =>
    rw [Bool.and_eq_true, Bool.not_eq_true'] at h
    exact Safe.bind ((safe_startLocal hsub (hs h.1)).mono fun _ _ _ => Safe.ret trivial)
  · exact Safe.ret trivial

theorem safe_submittedCommand {X : Coordinator} {p : Principal} {tripId : String}
    {request : RunCreateRequest} :
    Safe (F.pool.logic call) (submittedCommand X p tripId request) (fun _ _ => True) s := by
  unfold submittedCommand
  split
  · unfold replanCommand
    split
    · refine Safe.bind (safe_callStore fun env r s₁ s₂ _ _ hfresh hx hchange => ?_)
      have hlog : R.log s₂.1.1 = R.log s₁.1.1 := by cases r <;> exact hchange
      refine ⟨.of_same s₁.1.2 hfresh hx trivial hlog trivial, fun base _ _ => ?_⟩
      split
      · exact Safe.raise
      · refine Safe.bind ?_
        cases X.patchedBrief base request.command p with
        | ok brief => exact Safe.ret (Safe.ret trivial)
        | error e => exact Safe.raise
    · exact Safe.raise
  · exact Safe.ret trivial

theorem safe_submit {X : Coordinator} {c : ℕ} {p : Principal} {tripId : String}
    {request : RunCreateRequest} {idempotencyKey traceId : String} (hsub : F.Submits) :
    Safe (F.pool.logic call) (submit X c p tripId request idempotencyKey traceId)
      (fun _ _ => True) s := by
  refine Safe.bind (safe_submittedCommand.mono fun command s₁ _ => ?_)
  refine Safe.bind (safe_callStore fun env r s₂ s₃ _ _ hfresh hx hchange => ?_)
  cases r with
  | error e => exact ⟨.of_same s₂.1.2 hfresh hx trivial hchange.error hsub, by simp⟩
  | ok x =>
    refine ⟨?_, ?_⟩
    · obtain ⟨-, hlog⟩ | ⟨-, hnone, -, e, hlog⟩ := hchange.createRun
      · exact .of_same s₂.1.2 hfresh hx trivial hlog hsub
      · exact .of_insert s₂.1.2 hfresh hx trivial hnone hlog hsub
    · rintro y hy -
      cases hy
      exact safe_startUnlessReplayed hsub (F.starts_create hsub env p _ _ x _ s₂.1.2 hfresh hx)

theorem safe_resume {X : Coordinator} {c : ℕ} {p : Principal} {runId : String}
    {request : RunResumeRequest} {idempotencyKey : String} (hsub : F.Submits) :
    Safe (F.pool.logic call) (resume X c p runId request idempotencyKey) (fun _ _ => True) s := by
  refine Safe.bind (safe_callStore fun env r s₂ s₃ _ _ hfresh hx hchange => ?_)
  cases r with
  | error e => exact ⟨.of_same s₂.1.2 hfresh hx trivial hchange.error hsub, by simp⟩
  | ok x =>
    refine ⟨?_, ?_⟩
    · obtain ⟨-, hlog⟩ | ⟨-, run, events, e, hL, hwaiting, ⟨env', values, hrun⟩, hlog⟩ :=
        hchange.resumeRun
      · exact .of_same s₂.1.2 hfresh hx trivial hlog hsub
      · refine .of_update s₂.1.2 hfresh hx trivial hL ?_ ?_ hlog (F.edge _ _ ?_) hsub
        · rw [hrun]; rfl
        · rw [hrun]; exact Nat.lt_succ_self _
        · rw [hrun, hwaiting]; exact ⟨rfl, .inr rfl⟩
    · rintro y hy -
      cases hy
      exact safe_startUnlessReplayed hsub (F.starts_resume hsub env p _ _ _ x _ s₂.1.2 hx)

theorem safe_stopExecution {X : Coordinator} {c : ℕ} {p : Principal} {runId : String}
    {updated : RunView} :
    Safe (F.pool.logic call) (stopExecution X c p runId updated) (fun _ _ => True) s := by
  have hprop : ∀ s, Safe (F.pool.logic call) (propagateCancel X p runId) (fun _ _ => True) s := by
    intro s
    unfold propagateCancel
    split
    · refine Safe.tryCatch (Safe.bind (Safe.call fun _ _ _ _ _ => ⟨trivial, fun _ _ => ?_⟩)) ?_
      · exact Safe.ret trivial
      · intro e s'
        split
        · exact Safe.raise
        · exact Safe.raise
        · exact Safe.ret trivial
    · exact Safe.ret trivial
  have hlocal : ∀ s, Safe (F.pool.logic call) (cancelLocal c runId) (fun _ _ => True) s := by
    intro s
    refine Safe.bind (Safe.call fun _ _ _ _ _ => ⟨trivial, fun task _ => ?_⟩)
    split
    · exact Safe.bind (Safe.act trivial fun _ _ _ => Safe.ret trivial)
    · exact Safe.ret trivial
  refine Safe.handle ((hprop s).mono fun kept s₁ _ => ?_) fun e s' => ?_
  · refine Safe.bind ((hlocal _).mono fun task s₂ _ => ?_)
    cases kept with
    | some e => exact Safe.raise
    | none =>
      cases task with
      | some task => exact Safe.ret trivial
      | none => exact Safe.bind (safe_finishCanceled.mono fun _ _ _ => Safe.ret trivial)
  · exact Safe.bind ((hlocal _).mono fun _ _ _ => Safe.raise)

/-- A cancellation compares against the version of the client, not the one it read. -/
theorem safe_cancel {X : Coordinator} {c : ℕ} {p : Principal} {runId : String} {v : ℕ}
    (hcall : call = .cancel c p runId v) :
    Safe (F.pool.logic call) (cancel X c p runId v) (fun _ _ => True) s := by
  refine Safe.bind (safe_getRun fun run events env s₀ s₁ _ hasks hlog₀ hL hid => ?_)
  split
  · exact Safe.ret trivial
  · next hlive =>
    refine Safe.bind (Safe.mono (R := fun _ _ => True) ?_ fun _ _ _ => safe_stopExecution)
    unfold requestCancel
    split
    · exact Safe.ret trivial
    · next hcr =>
      refine Safe.bind (Safe.act trivial fun now s' hs' => ?_)
      obtain rfl : s' = s₁ := hs'
      split
      · exact Safe.raise
      · next eventData _ =>
        refine Safe.bind (safe_callStore fun env' r s₂ s₃ hr₂ _ hfresh hx hchange => ?_)
        cases r with
        | error e => exact ⟨.of_same s₂.1.2 hfresh hx trivial hchange.error
          (by simp [Discipline.Writes, RunMutation.Asks, Transition.mutation]), by simp⟩
        | ok x =>
          obtain ⟨run₁, events₁, e, hL₁, hv, ⟨env₁, hx₁⟩, hlog⟩ := hchange.mutateRun
          refine ⟨.of_update s₂.1.2 hfresh hx trivial hL₁ ?_ ?_ hlog ?_
            (by simp [Discipline.Writes, RunMutation.Asks, Transition.mutation]), fun y hy _ => Safe.ret trivial⟩
          · rw [hx₁]; rfl
          · rw [hx₁]; exact Nat.lt_succ_self _
          · rw [hx₁]
            rw [hcall] at hasks
            refine F.cancel_edge c p runId v env s₀ hasks run events run₁ events₁ (R.log s₂.1.1) ?_ ?_ hcr ?_ ?_ hv
            · rw [hlog₀]; exact hL
            · simpa using hlive
            · rw [hlog₀]; exact hr₂.1.1
            · rw [← hid]; exact hL₁

/-! ## The runtime -/

theorem safe_body {D : Deployment} (hX : ∀ c run p,
    ((D.coordinator c).executor run p).Yields F.AllowsResult) {s₀ : Subtype R.Ok}
    (hpre : F.pool.pre call s₀) :
    Safe (F.pool.logic call) (call.body D) (fun x _ => x ≠ .again) s := by
  cases call with
  | submit => exact Safe.bind ((safe_submit hpre).mono fun _ _ _ => Safe.ret nofun)
  | resume => exact Safe.bind ((safe_resume hpre).mono fun _ _ _ => Safe.ret nofun)
  | cancel => exact Safe.bind ((safe_cancel rfl).mono fun _ _ _ => Safe.ret nofun)
  | execute c => exact Safe.bind ((safe_execute (hX c) rfl hpre.1).mono fun _ _ _ => Safe.ret nofun)
  | forget =>
    exact Safe.bind (Safe.call fun _ _ _ _ _ => ⟨trivial, fun _ _ => Safe.ret nofun⟩)
  | executeExisting | heartbeat | processEntry => exact hpre.elim

/-- The coordinators follow the discipline, whatever the clients request, as long as other users
    of the store leave the Runs alone. -/
theorem Discipline.sound (F : Discipline R) {D : Deployment} {clients : RtLabel ε → Prop}
    (hX : ∀ c run p, ((D.coordinator c).executor run p).Yields F.AllowsResult)
    (hcalls : ∀ call s, clients (.call call) → F.pool.pre call s)
    (hothers : ∀ l s s', clients (.store l) → R.Ok s → B.fresh l.env s →
      B.exec l.env l.op s l.result s' → R.log s' = R.log s ∧ F.Keep s s') :
    PoolSound F.pool B D F.asks clients where
  exec call o env s r s' hasks hfresh hx :=
    ⟨R.keep env o s.1 r s' s.2 hfresh hx, env, r, rfl, hasks, hfresh, hx⟩
  guar_rely call call' s o s' h := ⟨h.advance, h.keep⟩
  others l s s' hc hfresh hx := by
    obtain ⟨hlog, hkeep⟩ := hothers l s.1 s' hc s.2 hfresh hx
    refine ⟨R.keep l.env l.op s.1 l.result s' s.2 hfresh hx, fun _ => ⟨?_, hkeep⟩⟩
    show (R.log s.1).Advance (R.log s')
    rw [hlog]
    exact .refl _
  program call s hpre := by
    exact Safe.bind (Safe.call fun _ _ _ _ _ => ⟨trivial, fun _ _ => safe_body hX hpre⟩)
  round call s h := absurd rfl (h .again rfl)
  post_stable call r s s' h _ := h
  requests := hcalls

end
end RoutePilot
