/-
  Run creation and resumption are idempotent over whole histories of a store,
  in both stores: the calls under one key together create one Run, or apply
  one input, and a waiting Run is resumed once for each request it waits for.
-/
import RoutePilot.Lib.History
import RoutePilot.Spec.Idempotency

namespace RoutePilot

open Lib Lts

/-- Any operations of a store, by any principals, with the results they had.  The identifiers they
    draw are not in use. -/
def callSystem {σ ε : Type} (B : Backend σ ε) : Lts σ (OpLabel ε) where
  init s := s = B.init
  step s l s' := B.fresh l.env s ∧ B.exec l.env l.op s l.result s'

/-- The call applied an input to this Run; it was no replay. -/
def OpLabel.AppliesInput {ε : Type} (runId : String) : OpLabel ε → Prop
  | ⟨_, .resumeRun _ id _, .ok x⟩ => id = runId ∧ x.replayed = false
  | _ => False

/-- The call made this Run wait for this request. -/
def OpLabel.Asks {ε : Type} (runId : String) (pending : RunPendingInput) : OpLabel ε → Prop
  | ⟨_, .mutateRun _ id m, .ok _⟩ => id = runId ∧ m.pendingInput = some pending
  | _ => False

section
variable {σ ε : Type} {B : Backend σ ε} (K : KeyedRuns B)

/-- The step stored one new Run with one `run.accepted` event and, where the store has an outbox,
    one dispatch request. -/
structure KeyedRuns.CreatesRun (s s' : σ) (runId : String) : Prop where
  new : K.log s runId = none
  stored : ∃ run e, run.runId = runId ∧ e.type = .runAccepted ∧
    K.log s' = Function.update (K.log s) runId (some (run, [e]))
  dispatched : ∀ rows ∈ K.dispatches s, ∃ row, row.aggregateId = runId ∧
    K.dispatches s' = some (rows ++ [row])

/-- The step answered the request a Run was waiting for, and appended one event to it. -/
def KeyedRuns.AppliesInput (e : Taken σ (OpLabel ε)) (runId : String) : Prop :=
  ∃ run run' events ev, K.log e.before runId = some (run, events) ∧
    run.lifecycleState = .waitingInput ∧ run.pendingInput.isSome ∧
    run'.lifecycleState = .queued ∧ run'.pendingInput = none ∧
    K.log e.after = Function.update (K.log e.before) runId (some (run', events ++ [ev]))

/-- The request a Run is waiting for. -/
def KeyedRuns.pending (s : σ) (runId : String) : Option RunPendingInput :=
  (K.log s runId).bind (·.1.pendingInput)

/-- **Idempotency** of a history that ends in `s`. -/
structure IdempotentHistory (H : List (Taken σ (OpLabel ε))) (s : σ) : Prop where
  /-- the creations that succeeded under a key had one hash and one Run; the first one created it,
      and the others changed nothing -/
  created : ∀ tenant user key,
    let calls := H.filter fun e => (e.label.under (tenant, user, "run.create", key)).isSome
    calls ≠ [] → ∃ hash runId first rest, calls = first :: rest ∧
      K.CreatesRun first.before first.after runId ∧
      (∀ e ∈ calls, e.label.under (tenant, user, "run.create", key) = some (hash, runId)) ∧
      ∀ e ∈ rest, e.after = e.before
  /-- the resumptions that succeeded under a key had one hash and one Run; the first one applied
      its input, and the others changed nothing -/
  resumed : ∀ tenant user key,
    let calls := H.filter fun e => (e.label.under (tenant, user, "run.resume", key)).isSome
    calls ≠ [] → ∃ hash runId first rest, calls = first :: rest ∧ K.AppliesInput first runId ∧
      (∀ e ∈ calls, e.label.under (tenant, user, "run.resume", key) = some (hash, runId)) ∧
      ∀ e ∈ rest, e.after = e.before
  /-- a creation under a key that was used with another hash raises and changes nothing -/
  createConflict : ∀ e ∈ H, ∀ env p c hash runId trip,
    e.label.under (p.tenantId, p.userId, "run.create", c.idempotencyKey) = some (hash, runId) →
    hash ≠ c.requestHash → K.writable p c.tripId s = .ok trip → trip.status = .active →
    (K.call env (.createRun p c)).run s =
      .error (.idempotencyConflict "idempotency key reused with different request") s
  /-- so does a resumption under a key that was used with another hash or for another Run -/
  resumeConflict : ∀ e ∈ H, ∀ env p runId r hash runId' run trip,
    e.label.under (p.tenantId, p.userId, "run.resume", r.idempotencyKey) = some (hash, runId') →
    (hash ≠ r.requestHash ∨ runId' ≠ runId) → K.readable p runId s = .ok run →
    K.writable p run.tripId s = .ok trip →
    (K.call env (.resumeRun p runId r)).run s =
      .error (.idempotencyConflict "idempotency key reused with different request") s
  /-- between two inputs applied to a Run it was made to wait for the request of the second -/
  consumed : ∀ runId H₁ a H₂ b H₃, H = H₁ ++ a :: (H₂ ++ b :: H₃) →
    a.label.AppliesInput runId → b.label.AppliesInput runId →
    ∃ pending, K.pending b.before runId = some pending ∧ ∃ c ∈ H₂, c.label.Asks runId pending

variable {K}

theorem KeyedRuns.reach_ok {s : σ} (h : (callSystem B).Reach anyStep s) : K.Ok s := by
  refine h.invariant (I := K.Ok) (fun s hs => ?_) ?_
  · rw [show s = B.init from hs]
    exact K.ok_init
  · rintro s l s' - hok - ⟨hfresh, hexec⟩
    exact K.keep _ _ _ _ _ hok hfresh hexec

/-- Every key is written once. -/
theorem KeyedRuns.writtenOnce (k : OpKey) :
    (callSystem B).WrittenOnce (fun s => K.keys s k) (OpLabel.under k) := by
  have hchange : ∀ {s l s'}, (callSystem B).Reach anyStep s → (callSystem B).step s l s' →
      KeyChange K.keys l s s' := fun hs hl => K.keyChange (K.reach_ok hs) hl.1 hl.2
  refine ⟨fun {s l s' v} hs hl hnone hv => ?_, fun {s l s' v} hs hl hv => ?_,
    fun {s l s' v} hs hl hv => ?_⟩
  · have hc := hchange hs hl
    rw [OpLabel.under_eq_some]
    cases he : l.entry with
    | none =>
      simp only [KeyChange, he] at hc
      rw [hc, hnone] at hv; cases hv
    | some e =>
      obtain ⟨k', v'⟩ := e
      simp only [KeyChange, he] at hc
      rcases hc with ⟨-, -, rfl⟩ | ⟨-, -, hc⟩
      · rw [hnone] at hv; cases hv
      · rw [hc, Function.update_apply] at hv
        split at hv
        · next hk => cases hv; rw [hk]
        · rw [hnone] at hv; cases hv
  · have hc := hchange hs hl
    cases he : l.entry with
    | none =>
      simp only [KeyChange, he] at hc
      rw [hc]; exact hv
    | some e =>
      obtain ⟨k', v'⟩ := e
      simp only [KeyChange, he] at hc
      rcases hc with ⟨-, -, rfl⟩ | ⟨-, hnone, hc⟩
      · exact hv
      · have hne : k ≠ k' := by
          rintro rfl
          rw [hnone] at hv; cases hv
        rw [hc, Function.update_of_ne hne]; exact hv
  · have hc := hchange hs hl
    rw [OpLabel.under_eq_some] at hv
    simp only [KeyChange, hv] at hc
    rcases hc with ⟨-, hkey, hsame⟩ | ⟨-, hnone, hc⟩
    · exact .inl ⟨hkey, hsame⟩
    · exact .inr ⟨hnone, by rw [hc, Function.update_self]⟩

/-- The entry of a call that succeeded is kept to the end of the history. -/
theorem KeyedRuns.entry_kept {s t : σ} {H : List (Taken σ (OpLabel ε))}
    (hH : (callSystem B).Trace s H t) (hs : (callSystem B).Reach anyStep s) {e : Taken σ (OpLabel ε)}
    (he : e ∈ H) {k : OpKey} {v : String × String} (hv : e.label.under k = some v) :
    K.keys t k = some v := by
  obtain ⟨H₁, H₂, rfl⟩ := List.append_of_mem he
  obtain ⟨u, h₁, h₂⟩ := hH.split
  obtain ⟨rfl, hstep, hrest⟩ := h₂.uncons
  have hu := h₁.reach hs
  have hafter : K.keys e.after k = some v := by
    rcases (K.writtenOnce k).call hu hstep hv with ⟨hkey, hsame⟩ | ⟨-, hkey⟩
    · rw [hsame]; exact hkey
    · exact hkey
  exact ((K.writtenOnce k).replays hrest (hu.step trivial hstep) hafter).1

/-! ## The calls under a key -/

theorem OpLabel.eq_createRun {l : OpLabel ε} {tenant user key : String} {v : String × String}
    (h : l.under (tenant, user, "run.create", key) = some v) :
    ∃ env p c x, l = ⟨env, .createRun p c, .ok x⟩ ∧ v = (c.requestHash, x.run.runId) := by
  rw [OpLabel.under_eq_some] at h
  obtain ⟨env, o, r⟩ := l
  cases r with
  | error e => cases o <;> cases h
  | ok x =>
    cases o with
    | createRun p c => cases h; exact ⟨env, p, c, x, rfl, rfl⟩
    | resumeRun => simp [OpLabel.entry] at h
    | _ => cases h

theorem OpLabel.eq_resumeRun {l : OpLabel ε} {tenant user key : String} {v : String × String}
    (h : l.under (tenant, user, "run.resume", key) = some v) :
    ∃ env p runId r x, l = ⟨env, .resumeRun p runId r, .ok x⟩ ∧ v = (r.requestHash, runId) := by
  rw [OpLabel.under_eq_some] at h
  obtain ⟨env, o, r⟩ := l
  cases r with
  | error e => cases o <;> cases h
  | ok x =>
    cases o with
    | createRun => simp [OpLabel.entry] at h
    | resumeRun p runId r => cases h; exact ⟨env, p, runId, r, x, rfl, rfl⟩
    | _ => cases h

/-- A call that found no entry is no replay. -/
theorem KeyedRuns.not_replayed {s s' : σ} {l : OpLabel ε} (hok : K.Ok s)
    (hstep : (callSystem B).step s l s') {k : OpKey} {v : String × String}
    (hv : l.under k = some v) (hnone : K.keys s k = none) : l.replayed = false := by
  have hc := K.keyChange hok hstep.1 hstep.2
  rw [OpLabel.under_eq_some] at hv
  simp only [KeyChange, hv] at hc
  rcases hc with ⟨-, hkey, -⟩ | ⟨hrep, -, -⟩
  · rw [hnone] at hkey; cases hkey
  · exact hrep

/-- A creation that is no replay. -/
theorem KeyedRuns.createsRun {s s' : σ} {env : ε} {p : Principal} {c : RunCreation}
    {x : IdempotentRunResult} (hok : K.Ok s)
    (hstep : (callSystem B).step s ⟨env, .createRun p c, .ok x⟩ s') (hnew : x.replayed = false) :
    K.CreatesRun s s' x.run.runId := by
  obtain ⟨hfresh, hexec⟩ := hstep
  have hok' := K.keep _ _ _ _ _ hok hfresh hexec
  obtain ⟨hrep, -⟩ | ⟨-, hnone, -, e, hlog⟩ := (K.change _ _ _ _ _ hok hfresh hexec).createRun
  · rw [hrep] at hnew; cases hnew
  · have hL : K.log s' x.run.runId = some (x.run, [e]) := by rw [hlog, Function.update_self]
    obtain ⟨e', he', htype⟩ := ((K.logOk s' hok') _ _ _ hL).2.first
    cases he'
    exact ⟨hnone, ⟨x.run, e, rfl, htype, hlog⟩, K.dispatched hexec hnew⟩

/-- A resumption that is no replay. -/
theorem KeyedRuns.appliesInput {s s' : σ} {env : ε} {p : Principal} {runId : String}
    {r : RunResumption} {x : IdempotentRunResult} (hok : K.Ok s)
    (hstep : (callSystem B).step s ⟨env, .resumeRun p runId r, .ok x⟩ s')
    (hnew : x.replayed = false) : K.AppliesInput ⟨s, ⟨env, .resumeRun p runId r, .ok x⟩, s'⟩ runId := by
  obtain ⟨hfresh, hexec⟩ := hstep
  obtain ⟨run, events, values, hL, hcheck, hrun⟩ := K.answered hok hexec hnew
  obtain ⟨pending, hpending, -⟩ := checkResumption_answers hcheck
  obtain ⟨hrep, -⟩ | ⟨-, run', events', e, hL', hwaiting, -, hlog⟩ :=
    (K.change _ _ _ _ _ hok hfresh hexec).resumeRun
  · rw [hrep] at hnew; cases hnew
  · rw [hL] at hL'
    cases hL'
    refine ⟨run, x.run, events, e, hL, hwaiting, by simp [hpending], ?_, ?_, hlog⟩
    · rw [hrun]; rfl
    · rw [hrun]; rfl

/-! ## The request a Run waits for -/

/-- Only a transition that asks for it makes a Run wait for a request. -/
theorem asks_of_pending {L L' : RunLog} {l : OpLabel ε} (h : LogChange L L' l.op l.result)
    {runId : String} {pending : RunPendingInput}
    (hbefore : (L runId).bind (·.1.pendingInput) ≠ some pending)
    (hafter : (L' runId).bind (·.1.pendingInput) = some pending) : l.Asks runId pending := by
  obtain ⟨env, o, r⟩ := l
  have hsame : L' ≠ L := by rintro rfl; exact hbefore hafter
  cases r with
  | error e => exact absurd h.error hsame
  | ok x =>
    by_cases hw : o.writesLog = true
    · cases o with
      | createRun p c =>
        obtain ⟨-, he⟩ | ⟨-, -, ⟨env', trip, hx⟩, e, hlog⟩ := h.createRun
        · exact absurd he hsame
        · rw [hlog, Function.update_apply] at hafter
          split at hafter
          · rw [hx] at hafter; cases hafter
          · exact absurd hafter hbefore
      | mutateRun p id m =>
        obtain ⟨run, events, e, hL, -, ⟨env', hx⟩, hlog⟩ := h.mutateRun
        rw [hlog, Function.update_apply] at hafter
        split at hafter
        · next hid =>
          refine ⟨hid.symm, ?_⟩
          rw [hid, hL] at hbefore
          cases hm : m.pendingInput with
          | none =>
            have hkept : run.pendingInput = some pending := by
              simpa [hx, RunMutation.apply, hm] using hafter
            exact absurd hkept hbefore
          | some q => simpa [hx, RunMutation.apply, hm] using hafter
        · exact absurd hafter hbefore
      | resumeRun p id r =>
        obtain ⟨-, he⟩ | ⟨-, run, events, e, -, -, ⟨env', values, hx⟩, hlog⟩ := h.resumeRun
        · exact absurd he hsame
        · rw [hlog, Function.update_apply] at hafter
          split at hafter
          · rw [hx] at hafter; cases hafter
          · exact absurd hafter hbefore
      | _ => cases hw
    · exact absurd (h.log_eq (by simpa using hw)) hsame

theorem OpLabel.AppliesInput.eq {l : OpLabel ε} {runId : String} (h : l.AppliesInput runId) :
    ∃ env p r x, l = ⟨env, .resumeRun p runId r, .ok x⟩ ∧ x.replayed = false := by
  obtain ⟨env, o, r⟩ := l
  cases r with
  | error e => cases o <;> cases h
  | ok x =>
    cases o with
    | resumeRun p id r =>
      obtain ⟨rfl, hnew⟩ := h
      exact ⟨env, p, r, x, rfl, hnew⟩
    | _ => cases h

/-- What a step that applied an input did to the log. -/
theorem KeyedRuns.appliesInput_of_step {s s' : σ} {l : OpLabel ε}
    (hs : (callSystem B).Reach anyStep s) (hstep : (callSystem B).step s l s') {runId : String}
    (hl : l.AppliesInput runId) : K.AppliesInput ⟨s, l, s'⟩ runId := by
  obtain ⟨env, p, r, x, rfl, hnew⟩ := hl.eq
  exact K.appliesInput (K.reach_ok hs) hstep hnew

/-- Between two inputs applied to a Run, it was asked for the second. -/
theorem KeyedRuns.consumed {s t : σ} {H₁ H₂ H₃ : List (Taken σ (OpLabel ε))}
    {a b : Taken σ (OpLabel ε)} (hH : (callSystem B).Trace s (H₁ ++ a :: (H₂ ++ b :: H₃)) t)
    (hs : (callSystem B).Reach anyStep s) {runId : String} (ha : a.label.AppliesInput runId)
    (hb : b.label.AppliesInput runId) :
    ∃ pending, K.pending b.before runId = some pending ∧ ∃ c ∈ H₂, c.label.Asks runId pending := by
  obtain ⟨u, h₁, h₂⟩ := hH.split
  obtain ⟨rfl, hastep, h₃⟩ := h₂.uncons
  obtain ⟨v, h₄, h₅⟩ := h₃.split
  obtain ⟨rfl, hbstep, -⟩ := h₅.uncons
  have hu := h₁.reach hs
  have hu' := hu.step trivial hastep
  obtain ⟨-, run', events, ev, -, -, -, -, hcleared, hlog⟩ := K.appliesInput_of_step hu hastep ha
  obtain ⟨run, _, _, _, hL, -, hsome, -⟩ := K.appliesInput_of_step (h₄.reach hu') hbstep hb
  obtain ⟨pending, hpending⟩ := Option.isSome_iff_exists.1 hsome
  have hbefore : K.pending b.before runId = some pending := by
    rw [KeyedRuns.pending, hL]; exact hpending
  have hafter : ¬ K.pending a.after runId = some pending := by
    rw [KeyedRuns.pending, hlog, Function.update_self, Option.bind_some, hcleared]
    simp
  obtain ⟨c, hc, hcreach, ⟨hfresh, hexec⟩, hno, hyes⟩ :=
    h₄.crossing (Q := fun s => K.pending s runId = some pending) hu' hafter hbefore
  refine ⟨pending, hbefore, c, hc, ?_⟩
  exact asks_of_pending (K.change _ _ _ _ _ (K.reach_ok hcreach) hfresh hexec) hno hyes

/-! ## The main result -/

/-- The calls of a history under one key, with what the first of them did. -/
theorem KeyedRuns.calls {s t : σ} {H : List (Taken σ (OpLabel ε))}
    (hH : (callSystem B).Trace s H t) (hs : (callSystem B).Reach anyStep s) {k : OpKey}
    (hnone : K.keys s k = none) {P : Taken σ (OpLabel ε) → String → Prop}
    (hP : ∀ (e : Taken σ (OpLabel ε)) v, (callSystem B).Reach anyStep e.before →
      (callSystem B).step e.before e.label e.after → e.label.under k = some v →
      K.keys e.before k = none → P e v.2)
    (hne : H.filter (fun e => (e.label.under k).isSome) ≠ []) :
    ∃ hash runId first rest, H.filter (fun e => (e.label.under k).isSome) = first :: rest ∧
      P first runId ∧ (∀ e ∈ H.filter (fun e => (e.label.under k).isSome),
        e.label.under k = some (hash, runId)) ∧
      ∀ e ∈ rest, e.after = e.before := by
  obtain ⟨⟨hash, runId⟩, first, rest, hcalls, -, ⟨hreach, hstep, hno, hfirst⟩, hrest⟩ :=
    (K.writtenOnce k).firstWrites hH hs hnone hne
  refine ⟨hash, runId, first, rest, hcalls, hP first _ hreach hstep hfirst hno, ?_, ?_⟩
  · intro e he
    rw [hcalls] at he
    rcases List.mem_cons.1 he with rfl | he
    · exact hfirst
    · exact (hrest e he).1
  · exact fun e he => (hrest e he).2

theorem KeyedRuns.idempotentHistory {H : List (Taken σ (OpLabel ε))} {s : σ}
    (hH : (callSystem B).Trace B.init H s) : IdempotentHistory K H s where
  created tenant user key hne := by
    refine K.calls hH (.init rfl) (K.keys_init _) (P := fun e => K.CreatesRun e.before e.after)
      (fun e v hreach hstep hv hno => ?_) hne
    obtain ⟨before, l, after⟩ := e
    have hnew := K.not_replayed (K.reach_ok hreach) hstep hv hno
    obtain ⟨env, p, c, x, rfl, rfl⟩ := OpLabel.eq_createRun hv
    exact K.createsRun (K.reach_ok hreach) hstep hnew
  resumed tenant user key hne := by
    refine K.calls hH (.init rfl) (K.keys_init _) (P := K.AppliesInput)
      (fun e v hreach hstep hv hno => ?_) hne
    obtain ⟨before, l, after⟩ := e
    have hnew := K.not_replayed (K.reach_ok hreach) hstep hv hno
    obtain ⟨env, p, runId, r, x, rfl, rfl⟩ := OpLabel.eq_resumeRun hv
    exact K.appliesInput (K.reach_ok hreach) hstep hnew
  createConflict e he env p c hash runId trip hv hne hwrite hact :=
    K.createConflict (K.entry_kept hH (.init rfl) he hv) hne hwrite hact
  resumeConflict e he env p runId r hash runId' run trip hv hne hread hwrite :=
    K.resumeConflict (K.entry_kept hH (.init rfl) he hv) hne hread hwrite
  consumed runId H₁ a H₂ b H₃ hsplit ha hb := by
    rw [hsplit] at hH
    exact K.consumed hH (.init rfl) ha hb

end

/-- **Run creation and resumption are idempotent** in every history of either store. -/
theorem runs_idempotent :
    (∀ H st, (callSystem memoryBackend).Trace {} H st → IdempotentHistory memoryKeyed H st) ∧
    ∀ H db, (callSystem postgresBackend).Trace {} H db → IdempotentHistory postgresKeyed H db :=
  ⟨fun _ _ hH => memoryKeyed.idempotentHistory hH, fun _ _ hH => postgresKeyed.idempotentHistory hH⟩

/-! ## A repeated creation and a repeated resumption -/

namespace Retried

/-- The history of some calls of the in-memory store. -/
def history (st : Store) : List StoreCall → List (Taken Store (OpLabel Env))
  | [] => []
  | c :: cs => ⟨st, ⟨c.env, c.op, outcome ((c.op.run c.env).run st)⟩, c.next st⟩ ::
    history (c.next st) cs

/-- The identifiers of the calls are not in use. -/
def fresh (st : Store) : List StoreCall → Bool
  | [] => true
  | c :: cs => (st.trips.get? (c.env.newPublicId "trip")).isNone &&
    (st.runs.get? (c.env.newPublicId "run")).isNone && fresh (c.next st) cs

theorem history_trace {calls : List StoreCall} : ∀ {st : Store}, fresh st calls = true →
    (callSystem memoryBackend).Trace st (history st calls) (st.after calls) := by
  induction calls with
  | nil => exact fun _ => .nil _
  | cons c cs ih =>
    intro st h
    simp only [fresh, Bool.and_eq_true, Option.isNone_iff_eq_none] at h
    obtain ⟨⟨htrip, hrun⟩, hrest⟩ := h
    have hstep : (callSystem memoryBackend).step st ⟨c.env, c.op, outcome ((c.op.run c.env).run st)⟩
        (c.next st) := ⟨⟨htrip, hrun⟩, rfl, rfl⟩
    exact .cons hstep (ih hrest)

def owner : Principal := { tenantId := "tenant", userId := "owner" }

def env (n : ℕ) : Env := { now := n, token := fun _ => toString n }

def creation : RunCreation :=
  { tripId := "trip_1", command := { type := .tripPlan, message := "Plan" }
    idempotencyKey := "create"
    requestHash := "hash", traceId := "trace" }

def question : RunPendingInput :=
  { requestId := "input", prompt := "Confirm?", expiresAt := 100
    fields := [{ fieldId := "confirmed", label := "Confirmed", inputType := .confirmation }] }

def waiting : RunMutation :=
  { expectedControlVersion := 1, lifecycleState := some .waitingInput, pendingInput := some question
    eventType := .inputRequired, eventData := [] }

def answer : RunResumption :=
  { expectedControlVersion := 2, requestId := "input", values := [("confirmed", .bool true)]
    idempotencyKey := "resume", requestHash := "hash" }

/-- A Trip, its Run created twice, made to wait, and resumed twice. -/
def calls : List StoreCall :=
  [⟨env 1, .createTrip owner { title := "Kyoto" }⟩, ⟨env 2, .createRun owner creation⟩,
    ⟨env 3, .createRun owner creation⟩, ⟨env 4, .mutateRun owner "run_2" waiting⟩,
    ⟨env 5, .resumeRun owner "run_2" answer⟩, ⟨env 6, .resumeRun owner "run_2" answer⟩]

end Retried

/-- Both calls of each key succeed. -/
theorem runs_idempotent_retried :
    ((Retried.history {} Retried.calls).filter fun e =>
      (e.label.under ("tenant", "owner", "run.create", "create")).isSome).length = 2 ∧
    ((Retried.history {} Retried.calls).filter fun e =>
      (e.label.under ("tenant", "owner", "run.resume", "resume")).isSome).length = 2 ∧
    IdempotentHistory memoryKeyed (Retried.history {} Retried.calls)
      (Store.after {} Retried.calls) :=
  ⟨by decide, by decide, runs_idempotent.1 _ _ (Retried.history_trace (by decide))⟩

end RoutePilot
