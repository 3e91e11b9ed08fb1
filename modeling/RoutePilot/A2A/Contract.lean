/-
  Every coroutine of the service meets the contract.

  The argument is the same for every retry loop: a record that was read and has
  not changed its version is still the stored one (`TaskRecord.Le`), so what a
  replacement stores is the proposed successor of the record it replaces.
-/
import RoutePilot.A2A.System

namespace RoutePilot.A2A

open Lib

/-! ## Side conditions -/

/-- The coroutine has read `checked` first and since then has only read the Task and failed to
    replace it. -/
def Retries (key : TaskKey) (checked : TaskRecord) (log : List (Answered svc)) : Prop :=
  ∃ rest, log = rest ++ [⟨.store (.get key), .ok checked⟩] ∧
    ∀ a ∈ rest, (∃ r, a = ⟨.store (.get key), r⟩) ∨
      ∃ record version lease e, a = ⟨.store (.replace record version lease), .error e⟩

/-- The retry loop of an input response does not read the Task waiting for another input than the
    one that was checked: a later version is not waiting. -/
def Unraced (c : Call) (log : List (Answered svc)) (v : TaskView) (o : ServiceOp) : Prop :=
  ∀ actor interfaceId params checked, c = .sendMessage actor interfaceId params →
    Retries (actor.tenantId, interfaceId, params.message.taskId) checked log →
    checked.messageFingerprints.get? params.message.messageId = none →
    o = .store (.get (actor.tenantId, interfaceId, params.message.taskId)) →
    ∀ r, v.record (actor.tenantId, interfaceId, params.message.taskId) = some r →
      r.state = .inputRequired → r.version = checked.version

/-- A claim does not fail unexpectedly; it may be cancelled. -/
def ClaimSafe : (o : ServiceOp) → Except ServiceError o.Ans → Prop
  | .store (.claimExecution ..), .error e => e.IsFault → e = .cancelled
  | _, _ => True

/-- Services over a store, with bounded loops, and the side conditions their runs meet. -/
structure Setting (σ : Type) where
  store : TaskBackend σ
  cfg : ServiceConfig
  rounds : ℕ
  strict : Prop
  fenced : Prop

/-- What every run satisfies. -/
def Setting.contract {σ : Type} (T : Setting σ) : Contract (services T.store T.cfg T.rounds) TaskView where
  abs := T.store.view
  step := ServiceStep
  sim o s r s' h := by
    cases o with
    | store o =>
      obtain ⟨now, r₀, hexec, hr⟩ | ⟨rfl, hr⟩ := h
      · exact .inl ⟨now, r₀, T.store.refines _ _ _ _ _ hexec, hr⟩
      · exact .inr ⟨rfl, hr⟩
    | execute => exact congrArg T.store.view h
    | forever => exact congrArg T.store.view h.1
  ok w
    | .start _ => True
    | .run i o r => ∀ p, w.procs[i]? = some p →
        (T.strict → Unraced p.call p.log (T.store.view w.shared) o) ∧ (T.fenced → ClaimSafe o r)
  cond c log v o r := (T.strict → Unraced c log v o) ∧ (T.fenced → ClaimSafe o r)
  ok_cond _ _ p _ _ h hp := h p hp
  inv := TaskView.Ok
  rely := TaskView.Le
  rely_refl := .refl
  rely_trans _ _ _ := .trans
  guar c v o _ v' := Guar T.strict T.fenced c v o v'

section
variable {strict fenced : Prop}

/-! ## Steps of the store -/

/-- A step that leaves the records alone. -/
theorem Guar.of_record {c : Call} {v v' : TaskView} {o : ServiceOp} (h : v'.record = v.record) :
    Guar strict fenced c v o v' where
  record key := by rw [h]; exact .same _
  fence _ _ _ _ _ _ hne := absurd h hne

theorem TaskView.Ok.of_record {v v' : TaskView} (hv : v.Ok) (h : v'.record = v.record)
    (hlease : ∀ key l, v'.lease key = some l → l.attempt = v'.attempts key) : v'.Ok where
  key := by rw [h]; exact hv.key
  record := by rw [h]; exact hv.record
  lease := hlease

theorem TaskView.Le.of_record {v v' : TaskView} (h : v'.record = v.record)
    (hattempts : ∀ key, v.attempts key ≤ v'.attempts key) : v.Le v' :=
  ⟨fun key r hr => ⟨r, by rw [h]; exact hr, .refl r⟩, hattempts⟩

/-- The operations that write records. -/
def TaskOp.WritesRecords : TaskOp → Prop
  | .createOrGet _ | .replace .. => True
  | _ => False

/-- An operation that writes no record keeps the invariant and leaves the records alone. -/
theorem TaskEffect.keeps_records {now : Time} {v v' : TaskView} {o : TaskOp}
    {r : Except TaskStoreError o.Ans} (h : TaskEffect now v o r v') (hv : v.Ok)
    (ho : ¬ o.WritesRecords) :
    v'.record = v.record ∧ (∀ key l, v'.lease key = some l → l.attempt = v'.attempts key) ∧
      ∀ key, v.attempts key ≤ v'.attempts key := by
  have hsame : (v.record = v.record ∧ (∀ key l, v.lease key = some l → l.attempt = v.attempts key) ∧
      ∀ key, v.attempts key ≤ v.attempts key) := ⟨rfl, hv.lease, fun _ => le_rfl⟩
  cases h with
  | created | existing | conflict | replaced | notReplaced => exact absurd trivial ho
  | got | missing | found | notFound | notClaimed | claimMissing | claimInvalid | notRenewed
  | notReleased | listed | timeout | changed | waitMissing => exact hsame
  | claimed key owner duration record lease _ _ _ hattempt =>
    refine ⟨rfl, fun k l hl => ?_, fun k => ?_⟩
    · simp only [Function.update_apply] at hl ⊢
      split at hl
      · next hk => cases hl; rw [if_pos hk]
      · next hk => rw [if_neg hk]; exact hv.lease k l hl
    · simp only [Function.update_apply]
      split
      · next hk => rw [hk, hattempt]; omega
      · exact le_rfl
  | renewed lease active duration leaseUntil hactive =>
    refine ⟨rfl, fun k l hl => ?_, fun _ => le_rfl⟩
    simp only [Function.update_apply] at hl
    split at hl
    · next hk =>
      cases hl
      rw [hk]; exact hv.lease lease.key active hactive
    · exact hv.lease k l hl
  | released lease active hactive =>
    refine ⟨rfl, fun k l hl => ?_, fun _ => le_rfl⟩
    simp only [Function.update_apply] at hl
    split at hl
    · cases hl
    · exact hv.lease k l hl

/-- A record in the place of an older one of its Task, or of none. -/
theorem update_ok {c : Call} {v v' : TaskView} {record : TaskRecord} (hv : v.Ok)
    (hrecord : v'.record = Function.update v.record record.key (some record))
    (hattempts : v'.attempts = v.attempts)
    (hlease : ∀ key l, v'.lease key = some l → v.lease key = some l)
    (hstep : RecordStep strict c (v.record record.key) (some record)) :
    v'.Ok ∧ v.Le v' ∧ ∀ key, RecordStep strict c (v.record key) (v'.record key) := by
  have hsteps : ∀ key, RecordStep strict c (v.record key) (v'.record key) := by
    intro key
    rw [hrecord, Function.update_apply]
    split
    · next hk => rw [hk]; exact hstep
    · exact .same _
  refine ⟨⟨fun key r hr => ?_, fun key r hr => ?_, fun key l hl => ?_⟩, ⟨fun key r hr => ?_, fun _ => ?_⟩,
    hsteps⟩
  · rw [hrecord, Function.update_apply] at hr
    split at hr
    · next hk => cases hr; exact hk.symm
    · exact hv.key key r hr
  · exact (hsteps key).recordOk (fun r' => hv.record key r') hr
  · rw [hattempts]; exact hv.lease key l (hlease key l hl)
  · have := hsteps key
    rw [hr] at this
    obtain ⟨r', hr', hle, -⟩ := this.le
    exact ⟨r', hr', hle⟩
  · rw [hattempts]

end

/-! ## Rules -/

section
variable {σ : Type} {α β : Type} (T : Setting σ) (c : Call)

/-- From a state of the invariant, the coroutine meets the contract and ends in `Q`. -/
def Setting.Does (x : Svc α) (s : TaskView × List (Answered svc))
    (Q : Except ServiceError α → TaskView × List (Answered svc) → Prop) : Prop :=
  s.1.Ok → Wp (T.contract.logic c) x (fun r s' => s'.1.Ok ∧ s.1.Le s'.1 ∧ Q r s') s

/-- The coroutine meets the contract from every state of the invariant. -/
def Setting.Quiet (x : Svc α) : Prop := ∀ s, T.Does c x s fun _ _ => True

variable {T c}

theorem Setting.Does.mono {x : Svc α} {s : TaskView × List (Answered svc)}
    {Q Q' : Except ServiceError α → TaskView × List (Answered svc) → Prop} (h : T.Does c x s Q)
    (hQ : ∀ r s', Q r s' → Q' r s') : T.Does c x s Q' := fun hs =>
  (h hs).mono fun r s' hr => ⟨hr.1, hr.2.1, hQ r s' hr.2.2⟩

theorem Setting.Does.handle {x : Svc α} {f : Except ServiceError α → Svc β}
    {s : TaskView × List (Answered svc)}
    {Q₁ : Except ServiceError α → TaskView × List (Answered svc) → Prop}
    {Q : Except ServiceError β → TaskView × List (Answered svc) → Prop} (hx : T.Does c x s Q₁)
    (hf : ∀ r s', s.1.Le s'.1 → Q₁ r s' → T.Does c (f r) s' Q) : T.Does c (x.handle f) s Q := by
  intro hs
  refine Wp.handle ((hx hs).mono fun r s' hr => ?_)
  refine (hf r s' hr.2.1 hr.2.2 hr.1).mono fun r' s'' hr' => ?_
  exact ⟨hr'.1, hr.2.1.trans hr'.2.1, hr'.2.2⟩

theorem Setting.Does.ret {a : α} {s : TaskView × List (Answered svc)}
    {Q : Except ServiceError α → TaskView × List (Answered svc) → Prop} (h : Q (.ok a) s) :
    T.Does c (.ret a) s Q := fun hs => ⟨hs, .refl _, h⟩

theorem Setting.Does.raise {e : ServiceError} {s : TaskView × List (Answered svc)}
    {Q : Except ServiceError α → TaskView × List (Answered svc) → Prop} (h : Q (.error e) s) :
    T.Does c (.raise e) s Q := fun hs => ⟨hs, .refl _, h⟩

theorem Setting.Does.bind {x : Svc α} {f : α → Svc β} {s : TaskView × List (Answered svc)}
    {Q₁ : Except ServiceError α → TaskView × List (Answered svc) → Prop}
    {Q : Except ServiceError β → TaskView × List (Answered svc) → Prop} (hx : T.Does c x s Q₁)
    (hf : ∀ a s', s.1.Le s'.1 → Q₁ (.ok a) s' → T.Does c (f a) s' Q)
    (he : ∀ e s', Q₁ (.error e) s' → Q (.error e) s') : T.Does c (x >>= f) s Q := by
  refine hx.handle fun r s' hle hr => ?_
  cases r with
  | ok a => exact hf a s' hle hr
  | error e => exact .raise (he e s' hr)

/-- An action reads the outside only. -/
theorem Setting.Does.act_bind {a : ServiceAct} {f : a.Res → Svc α} {s : TaskView × List (Answered svc)}
    {Q : Except ServiceError α → TaskView × List (Answered svc) → Prop}
    (h : ∀ r, T.Does c (f r) s Q) : T.Does c (Co.act (E := svc) a >>= f) s Q := by
  intro hs
  refine ⟨trivial, ?_⟩
  rintro r s' ⟨-, rfl⟩
  exact h r hs

/-- One operation of the store. -/
theorem Setting.Does.callStore {o : TaskOp} {s : TaskView × List (Answered svc)}
    {Q : Except ServiceError o.Ans → TaskView × List (Answered svc) → Prop}
    (h : ∀ v₁ r v₂, v₁.Ok → s.1.Le v₁ → ServiceStep (.store o) v₁ r v₂ →
      (T.strict → Unraced c s.2 v₁ (.store o)) → (T.fenced → ClaimSafe (.store o) r) →
      (v₂.Ok ∧ v₁.Le v₂ ∧ Guar T.strict T.fenced c v₁ (.store o) v₂) ∧
        Q r (v₂, ⟨.store o, r⟩ :: s.2)) : T.Does c (callStore o) s Q := by
  intro hs
  refine Wp.call ?_
  rintro ⟨v₁, log₁⟩ ⟨hok, hle, hlog⟩
  refine ⟨fun e he => he.elim, ?_⟩
  rintro r ⟨v₂, log₂⟩ ⟨hlog₂, hstep, hcond⟩
  obtain rfl : log₁ = s.2 := hlog
  obtain rfl : log₂ = ⟨.store o, r⟩ :: s.2 := hlog₂
  obtain ⟨⟨hok₂, hle₂, hguar⟩, hQ⟩ := h v₁ r v₂ (hok hs) hle hstep hcond.1 hcond.2
  exact ⟨⟨hok₂, hle₂, fun _ _ => hguar⟩, hok₂, hle.trans hle₂, hQ⟩

/-- An operation that writes no record. -/
theorem Setting.Does.callStore_keeps {o : TaskOp} (ho : ¬ o.WritesRecords)
    {s : TaskView × List (Answered svc)}
    {Q : Except ServiceError o.Ans → TaskView × List (Answered svc) → Prop}
    (h : ∀ v₁ r v₂, v₁.Ok → s.1.Le v₁ → ServiceStep (.store o) v₁ r v₂ →
      (T.strict → Unraced c s.2 v₁ (.store o)) → (T.fenced → ClaimSafe (.store o) r) →
        Q r (v₂, ⟨.store o, r⟩ :: s.2)) : T.Does c (A2A.callStore o) s Q := by
  refine .callStore fun v₁ r v₂ hok hle hstep hstrict hfenced => ⟨?_, h v₁ r v₂ hok hle hstep hstrict hfenced⟩
  obtain ⟨now, r₀, heff, -⟩ | ⟨rfl, -⟩ := hstep
  · obtain ⟨hrec, hlease, hattempts⟩ := heff.keeps_records hok ho
    exact ⟨hok.of_record hrec hlease, .of_record hrec hattempts, .of_record hrec⟩
  · exact ⟨hok, .refl _, .of_record rfl⟩

theorem Setting.Quiet.handle {x : Svc α} {f : Except ServiceError α → Svc β} (hx : T.Quiet c x)
    (hf : ∀ r, T.Quiet c (f r)) : T.Quiet c (x.handle f) := fun s =>
  (hx s).handle fun r s' _ _ => hf r s'

theorem Setting.Quiet.ret (a : α) : T.Quiet c (.ret a) := fun _ => .ret trivial

theorem Setting.Quiet.raise (e : ServiceError) : T.Quiet c (.raise e : Svc α) := fun _ => .raise trivial

theorem Setting.Quiet.bind {x : Svc α} {f : α → Svc β} (hx : T.Quiet c x) (hf : ∀ a, T.Quiet c (f a)) :
    T.Quiet c (x >>= f) := by
  refine hx.handle fun r => ?_
  cases r with
  | ok a => exact hf a
  | error e => exact .raise e

theorem Setting.Quiet.tryCatch {x : Svc α} {h : ServiceError → Svc α} (hx : T.Quiet c x)
    (hh : ∀ e, T.Quiet c (h e)) : T.Quiet c (x.tryCatch h) := by
  refine hx.handle fun r => ?_
  cases r with
  | ok a => exact .ret a
  | error e => exact hh e

theorem Setting.Quiet.act (a : ServiceAct) : T.Quiet c (Co.act (E := svc) a) := by
  intro s hs
  refine ⟨trivial, ?_⟩
  rintro r s' ⟨-, rfl⟩
  exact ⟨hs, .refl _, trivial⟩

theorem Setting.Quiet.callStore {o : TaskOp} (ho : ¬ o.WritesRecords) : T.Quiet c (callStore o) :=
  fun _ => .callStore_keeps ho fun _ _ _ _ _ _ _ _ => trivial

theorem Setting.Quiet.ite {p : Prop} [Decidable p] {x y : Svc α} (hx : T.Quiet c x)
    (hy : T.Quiet c y) : T.Quiet c (if p then x else y) := by
  split
  · exact hx
  · exact hy

/-- An await that touches no Task. -/
theorem Setting.Quiet.await {o : ServiceOp} (ho : ∀ v r v', ServiceStep o v r v' → v' = v)
    {k : Except ServiceError o.Ans → Svc α} (hk : ∀ r, T.Quiet c (k r)) :
    T.Quiet c (.await (E := svc) o k) := by
  intro s hs
  rintro ⟨v₁, log₁⟩ ⟨hok, hle, -⟩
  refine ⟨fun e he => he.elim, ?_⟩
  rintro r ⟨v₂, log₂⟩ ⟨-, hstep, -⟩
  obtain rfl := ho v₁ r v₂ hstep
  refine ⟨⟨hok hs, .refl _, fun _ _ => .of_record rfl⟩, ?_⟩
  exact (hk r (v₂, log₂) (hok hs)).mono fun r' s' hr => ⟨hr.1, hle.trans hr.2.1, trivial⟩

theorem Setting.Quiet.forever : T.Quiet c (forever : Svc α) := by
  refine Setting.Quiet.await (o := .forever) (fun _ _ _ h => h) fun r => ?_
  cases r with
  | ok a => exact a.elim
  | error e => exact .raise e

theorem Setting.Quiet.loop {body : β → Svc (α ⊕ β)} (h : ∀ b, T.Quiet c (body b)) (n : ℕ) (b : β) :
    T.Quiet c (Co.loop A2A.forever body n b) := by
  induction n generalizing b with
  | zero => exact .forever
  | succ n ih =>
    refine (h b).bind fun r => ?_
    cases r with
    | inl a => exact .ret a
    | inr b' => exact ih b'

/-- A loop, with an invariant of every round. -/
theorem Setting.Does.loop {body : β → Svc (α ⊕ β)} (I : TaskView × List (Answered svc) → Prop)
    (h : ∀ b s, I s → T.Does c (body b) s fun r s' => ∀ b', r = .ok (.inr b') → I s') (n : ℕ) (b : β) :
    ∀ {s : TaskView × List (Answered svc)}, I s →
      T.Does c (Co.loop A2A.forever body n b) s fun _ _ => True := by
  induction n generalizing b with
  | zero => exact fun _ => Setting.Quiet.forever _
  | succ n ih =>
    intro s hs
    refine (h b s hs).bind ?_ fun _ _ _ => trivial
    rintro r s' - hr
    cases r with
    | inl a => exact .ret trivial
    | inr b' => exact ih b' (hr b' rfl)

/-! ## Reading and replacing a Task -/

/-- The record was stored once: the stored one is the same, or has a greater version. -/
def TaskView.Knows (v : TaskView) (r : TaskRecord) : Prop := ∃ r', v.record r.key = some r' ∧ r.Le r'

theorem TaskView.Knows.mono {v v' : TaskView} {r : TaskRecord} (h : v.Knows r) (hle : v.Le v') :
    v'.Knows r := by
  obtain ⟨r', hr', hle'⟩ := h
  obtain ⟨r'', hr'', hle''⟩ := hle.1 _ _ hr'
  exact ⟨r'', hr'', hle'.trans hle''⟩

theorem TaskView.Knows.of_stored {v : TaskView} (hv : v.Ok) {key : TaskKey} {r : TaskRecord}
    (h : v.record key = some r) : v.Knows r := ⟨r, by rw [hv.key key r h]; exact h, .refl r⟩

/-- A known record of the stored version is the stored one. -/
theorem TaskView.Knows.eq {v : TaskView} {r cur : TaskRecord} (h : v.Knows r)
    (hcur : v.record r.key = some cur) (hversion : cur.version = r.version) : cur = r := by
  obtain ⟨r', hr', hle⟩ := h
  rw [hcur] at hr'
  cases hr'
  exact hle.2 hversion

/-- Under `fenced`, a job writes with a lease of its own only. -/
def Setting.Permits (T : Setting σ) (c : Call) (lease : Option TaskExecutionLease) : Prop :=
  T.fenced → ∀ record input alreadyWorking owner, c = .executeJob record input alreadyWorking owner →
    ∃ l, lease = some l ∧ l.owner = owner

theorem get_does {key : TaskKey} (s : TaskView × List (Answered svc)) :
    T.Does c (callStore (.get key)) s fun r s' => s'.2 = ⟨.store (.get key), r⟩ :: s.2 ∧
      ∀ current, r = .ok current → s'.1.record key = some current ∧
        (T.strict → Unraced c s.2 s'.1 (.store (.get key))) := by
  refine .callStore_keeps (o := .get key) id fun v₁ r v₂ _ _ hstep hstrict _ => ⟨rfl, ?_⟩
  rintro current rfl
  obtain ⟨now, r₀, heff, hr⟩ | ⟨rfl, e, hr, -⟩ := hstep
  · cases r₀ with
    | error e => cases hr
    | ok x =>
      cases hr
      cases heff with
      | got _ _ h => exact ⟨h, hstrict⟩
  · cases hr

theorem getOrNone_does {key : TaskKey} (s : TaskView × List (Answered svc)) :
    T.Does c (getOrNone key) s fun r s' => ∀ current, r = .ok (some current) →
      s'.1.record key = some current ∧ s'.2 = ⟨.store (.get key), .ok current⟩ :: s.2 := by
  refine Setting.Does.handle (Setting.Does.bind (Q := fun r s' => ∀ current, r = .ok (some current) →
    s'.1.record key = some current ∧ s'.2 = ⟨.store (.get key), .ok current⟩ :: s.2)
    (get_does s) ?_ ?_) ?_
  · rintro a s' - ⟨hlog, hget⟩
    refine .ret ?_
    rintro current hc
    cases hc
    exact ⟨(hget a rfl).1, hlog⟩
  · rintro e s' - current hc
    cases hc
  · rintro r s' - hr
    cases r with
    | ok x => exact .ret hr
    | error e =>
      dsimp only
      split
      · exact .ret (by rintro current hc; cases hc)
      · exact .raise (by rintro current hc; cases hc)

/-- A replacement stores a successor of the known record, or nothing. -/
theorem tryReplace_does {current proposed : TaskRecord} {lease : Option TaskExecutionLease}
    {s : TaskView × List (Answered svc)} (hknown : s.1.Knows current) (hkey : proposed.key = current.key)
    (hstep : RecordStep T.strict c (some current) (some proposed)) (hperm : T.Permits c lease) :
    T.Does c (tryReplace proposed current.version lease) s fun r s' => r = .ok (.inr ()) →
      ∃ e, s'.2 = ⟨.store (.replace proposed current.version lease), .error e⟩ :: s.2 := by
  have hcall : T.Does c (callStore (.replace proposed current.version lease)) s fun r s' =>
      s'.2 = ⟨.store (.replace proposed current.version lease), r⟩ :: s.2 := by
    refine .callStore fun v₁ r v₂ hok hle hserv _ _ => ⟨?_, rfl⟩
    obtain ⟨now, r₀, heff, -⟩ | ⟨rfl, -⟩ := hserv
    · generalize hv : current.version = version at heff
      cases heff with
      | replaced _ cur _ hcur _ _ =>
        rw [hkey] at hcur
        obtain rfl := (hknown.mono hle).eq hcur hv.symm
        have hcur' : v₁.record proposed.key = some cur := by rw [hkey]; exact hcur
        obtain ⟨hok₂, hle₂, hsteps⟩ := @update_ok T.strict c v₁ (v₁.store proposed) proposed hok rfl rfl
          (fun key l hl => by
            unfold TaskView.store at hl
            dsimp only at hl
            split at hl
            · exact hl
            · rw [Function.update_apply] at hl
              split at hl
              · cases hl
              · exact hl) (by rw [hcur']; exact hstep)
        refine ⟨hok₂, hle₂, hsteps, fun hf record input alreadyWorking owner hc _ => ?_⟩
        obtain ⟨l, rfl, hl⟩ := hperm hf record input alreadyWorking owner hc
        exact ⟨proposed, _, l, rfl, hl⟩
      | notReplaced => exact ⟨hok, .refl _, .of_record rfl⟩
    · exact ⟨hok, .refl _, .of_record rfl⟩
  refine Setting.Does.handle (Setting.Does.bind (Q := fun r s' => match r with
    | .ok (.inl _) => True
    | .ok (.inr _) => False
    | .error e => s'.2 = ⟨.store (.replace proposed current.version lease), .error e⟩ :: s.2) hcall
    (fun a s' _ _ => .ret trivial) fun e s' h => h) ?_
  rintro r s' - hr
  rcases r with e | (a | u)
  · dsimp only
    split
    · exact .ret fun _ => ⟨_, hr⟩
    · exact .raise (by rintro hc; cases hc)
  · exact .ret (by rintro hc; cases hc)
  · exact hr.elim

/-! ## The coroutines -/

variable {record : TaskRecord} {n : ℕ}

theorem transition_quiet {allowedStates : List TaskState} {newState : TaskState}
    {message : Option StatusMessage} {artifacts : List TaskArtifact} {pending : Option String}
    {lease : Option TaskExecutionLease}
    (hallowed : ∀ s ∈ allowedStates, Allowed s newState artifacts pending) (hperm : T.Permits c lease) :
    T.Quiet c (transition n record allowedStates newState message artifacts pending lease) := by
  refine .loop (fun _ s => ?_) n ()
  refine (getOrNone_does s).bind ?_ fun _ _ _ => trivial
  rintro x s₁ - hx
  cases x with
  | none => exact .ret trivial
  | some current =>
    dsimp only
    split
    · exact .ret trivial
    · next hstate =>
      rw [not_not] at hstate
      intro hs₁
      have hknown := TaskView.Knows.of_stored hs₁ (hx current rfl).1
      refine Setting.Does.act_bind (fun timestamp => Setting.Does.act_bind fun updatedAt => ?_) hs₁
      refine Setting.Does.mono (tryReplace_does hknown ?_ ?_ hperm) fun _ _ _ => trivial
      · rfl
      · exact .moved current message timestamp updatedAt (hallowed _ hstate)

theorem failIfWorking_quiet {code message : String} {lease : Option TaskExecutionLease}
    (hperm : T.Permits c lease) : T.Quiet c (failIfWorking n record code message lease) := by
  refine (Setting.Quiet.act _).bind fun messageId => ?_
  exact (transition_quiet (fun _ hs => .fail hs) hperm).bind fun _ => .ret ()

theorem validatedOutputArtifacts_quiet {cfg : ServiceConfig} (outputs : List ArtifactOutput) :
    ∀ identifiers, T.Quiet c (validatedOutputArtifacts cfg record identifiers outputs) := by
  induction outputs with
  | nil => exact fun _ => .ret []
  | cons output outputs ih =>
    intro identifiers
    refine .ite (.raise _) (.ite (.raise _) (Setting.Quiet.bind ?_ fun artifactId => ?_))
    · cases output.artifactId with
      | none => exact .act _
      | some id => exact .ret id
    · exact .ite (.raise _) ((ih _).bind fun _ => .ret _)

theorem applyExecutionResult_quiet {cfg : ServiceConfig} {result : ExecutionResult}
    {lease : TaskExecutionLease} (hperm : T.Permits c (some lease)) :
    T.Quiet c (applyExecutionResult cfg n record result lease) := by
  have hmem : ∀ {s t : TaskState}, s ∈ [t] → s = t := List.mem_singleton.1
  cases result with
  | completed outputs =>
    refine (validatedOutputArtifacts_quiet outputs []).bind fun artifacts => ?_
    exact (transition_quiet (fun s hs => hmem hs ▸ .complete artifacts) hperm).bind fun _ => .ret ()
  | inputRequired requestId request =>
    refine (Setting.Quiet.act _).bind fun _ => ?_
    exact (transition_quiet (fun s hs => hmem hs ▸ .ask requestId) hperm).bind fun _ => .ret ()
  | authRequired dependency message =>
    refine (Setting.Quiet.act _).bind fun _ => ?_
    exact (transition_quiet (fun s hs => hmem hs ▸ .auth) hperm).bind fun _ => .ret ()
  | failed code message => exact failIfWorking_quiet hperm
  | unsupported => exact .raise _

theorem executeClaimed_quiet {cfg : ServiceConfig} {input : Option InputResponse}
    {alreadyWorking : Bool} {lease : TaskExecutionLease} (hperm : T.Permits c (some lease)) :
    T.Quiet c (executeClaimed cfg n record input alreadyWorking lease) := by
  refine Setting.Quiet.bind ?_ fun current => ?_
  · refine .ite (.callStore id) (transition_quiet (fun s hs => ?_) hperm)
    rw [List.mem_singleton.1 hs]
    exact .start
  · refine .ite (.ret ()) (Setting.Quiet.bind ?_ fun result => ?_)
    · refine Setting.Quiet.await (o := .execute ..) (fun _ _ _ h => h) fun r => ?_
      cases r with
      | ok a => exact .ret a
      | error e => exact .raise e
    · exact (Setting.Quiet.act _).bind fun _ => .ite (.ret ()) (applyExecutionResult_quiet hperm)

theorem executeFailed_quiet {lease : Option TaskExecutionLease} (hperm : T.Permits c lease)
    (e : ServiceError) : T.Quiet c (executeFailed n record lease e) := by
  unfold executeFailed
  split
  · exact failIfWorking_quiet hperm
  · exact .ret ()
  · exact .ret ()
  · exact failIfWorking_quiet hperm

theorem releaseExecution_quiet {lease : TaskExecutionLease} :
    T.Quiet c (callStore (.releaseExecution lease)) := .callStore id

/-- A job, started for a stored record. -/
theorem executeJob_does {cfg : ServiceConfig} {input : Option InputResponse} {alreadyWorking : Bool}
    {owner : String} {s : TaskView × List (Answered svc)} (hstored : (s.1.record record.key).isSome)
    (hc : ∀ record' input' alreadyWorking' owner',
      c = .executeJob record' input' alreadyWorking' owner' → owner' = owner) :
    T.Does c (executeJob cfg n record input alreadyWorking owner) s fun _ _ => True := by
  -- under `fenced` a claim that raises was cancelled, and one that succeeds has the owner
  have hclaim : T.Does c (callStore (.claimExecution record.key owner cfg.executionLease)) s fun r _ =>
      match r with
      | .error e => T.fenced → e = .cancelled
      | .ok none => True
      | .ok (some lease) => lease.owner = owner := by
    refine .callStore_keeps (o := .claimExecution record.key owner cfg.executionLease) id
      fun v₁ r v₂ _ hle hstep _ hfenced => ?_
    obtain ⟨now, r₀, heff, rfl⟩ | ⟨rfl, e, rfl, he⟩ := hstep
    · cases heff with
      | claimed _ _ _ _ lease _ _ howner => exact howner
      | notClaimed => trivial
      | claimMissing _ _ _ hnone =>
        obtain ⟨r, hr⟩ := Option.isSome_iff_exists.1 hstored
        obtain ⟨r', hr', -⟩ := hle.1 _ _ hr
        rw [hnone] at hr'; cases hr'
      | claimInvalid _ _ _ message => exact fun hf => hfenced hf trivial
    · exact fun hf => hfenced hf he
  refine hclaim.handle fun r s' _ hr => ?_
  rcases r with e | (_ | lease)
  · by_cases hf : T.fenced
    · rw [hr hf]
      exact .ret trivial
    · exact executeFailed_quiet (fun hf' => absurd hf' hf) e s'
  · exact .ret trivial
  · have hperm : T.Permits c (some lease) := fun _ record' input' alreadyWorking' owner' hc' =>
      ⟨lease, rfl, hr.trans (hc _ _ _ _ hc').symm⟩
    refine Setting.Quiet.handle ((executeClaimed_quiet hperm).tryCatch fun e =>
      executeFailed_quiet hperm e) (fun r => ?_) s'
    refine releaseExecution_quiet.bind fun _ => ?_
    cases r with
    | ok a => exact .ret a
    | error e => exact .raise e

theorem heartbeatExecution_quiet {cfg : ServiceConfig} {lease : TaskExecutionLease} :
    T.Quiet c (heartbeatExecution cfg n lease) := by
  refine .loop (fun _ => (Setting.Quiet.act _).bind fun stopped => .ite (.ret _) ?_) n ()
  refine Setting.Quiet.bind (Setting.Quiet.tryCatch (.callStore id) fun e => ?_) fun renewed => ?_
  · dsimp only
    split
    · exact .raise _
    · exact .ret none
  · cases renewed with
    | none => exact .ret _
    | some _ => exact .ret _

theorem getOrNone_quiet (key : TaskKey) : T.Quiet c (getOrNone key) := fun s =>
  (getOrNone_does s).mono fun _ _ _ => trivial

/-- A call that is no job writes without a lease. -/
theorem Setting.permits_none (hc : ∀ record input alreadyWorking owner,
    c ≠ .executeJob record input alreadyWorking owner) : T.Permits c none :=
  fun _ record input alreadyWorking owner h => absurd h (hc record input alreadyWorking owner)

/-! ### Input responses -/

section
variable {actor : Actor} {interfaceId : String} {params : SendMessageRequest} {checked : TaskRecord}
  {response : InputResponse}

/-- The key a response is sent to. -/
abbrev responseKey (actor : Actor) (interfaceId : String) (params : SendMessageRequest) : TaskKey :=
  (actor.tenantId, interfaceId, params.message.taskId)

theorem Retries.again {key : TaskKey} {log : List (Answered svc)} (h : Retries key checked log)
    {current proposed : TaskRecord} {version : ℕ} {lease : Option TaskExecutionLease} {e : ServiceError} :
    Retries key checked (⟨.store (.replace proposed version lease), .error e⟩ ::
      ⟨.store (.get key), .ok current⟩ :: log) := by
  obtain ⟨rest, rfl, hrest⟩ := h
  refine ⟨_ :: _ :: rest, rfl, fun a ha => ?_⟩
  rcases List.mem_cons.1 ha with rfl | ha
  · exact .inr ⟨_, _, _, _, rfl⟩
  · rcases List.mem_cons.1 ha with rfl | ha
    · exact .inl ⟨_, rfl⟩
    · exact hrest a ha

theorem answerLoop_does (hc : c = .sendMessage actor interfaceId params)
    (hkey : checked.key = responseKey actor interfaceId params)
    (hfresh : checked.messageFingerprints.get? params.message.messageId = none)
    (hpending : checked.pendingInputRequestId = some response.requestId)
    {s : TaskView × List (Answered svc)} (hknown : s.1.Knows checked)
    (hlog : Retries (responseKey actor interfaceId params) checked s.2) :
    T.Does c (answerLoop n (responseKey actor interfaceId params) params.message response) s
      fun _ _ => True := by
  refine Setting.Does.loop (fun s => s.1.Knows checked ∧
    Retries (responseKey actor interfaceId params) checked s.2) ?_ n () ⟨hknown, hlog⟩
  rintro - s ⟨hknown, hlog⟩
  refine (get_does s).bind ?_ fun e _ _ b' hb => by cases hb
  rintro current s₁ hle ⟨hlog₁, hget⟩
  obtain ⟨hstored, hunraced⟩ := hget current rfl
  split
  · split
    · exact .ret (by rintro b' hb; cases hb)
    · exact .raise (by rintro b' hb; cases hb)
  · next hstate =>
    rw [not_not] at hstate
    intro hs₁
    have hcur := TaskView.Knows.of_stored hs₁ hstored
    -- without a race the record is still the one that was checked
    have hsame : T.strict → current = checked := fun hs =>
      (hknown.mono hle).eq (by rw [hkey]; exact hstored)
        (hunraced hs actor interfaceId params checked hc hlog hfresh rfl current hstored hstate)
    refine Setting.Does.act_bind (fun timestamp => Setting.Does.act_bind fun updatedAt => ?_) hs₁
    have hstep : RecordStep T.strict c (some current)
        (some (current.answered params.message response timestamp updatedAt)) :=
      .answered current actor interfaceId params response timestamp updatedAt hc hstate fun hs => by
        rw [hsame hs]; exact ⟨hpending, hfresh⟩
    have hperm : T.Permits c none := Setting.permits_none (by simp [hc])
    have hdoes : T.Does c (tryReplace (current.answered params.message response timestamp updatedAt)
        current.version none) s₁ _ := tryReplace_does hcur rfl hstep hperm
    intro _
    refine (hdoes hs₁).mono fun r s' hr => ⟨hr.1, hr.2.1, fun b' hb => ?_⟩
    cases hb
    obtain ⟨e, he⟩ := hr.2.2 rfl
    refine ⟨(hknown.mono hle).mono hr.2.1, ?_⟩
    rw [he, hlog₁]
    exact hlog.again

theorem resumeInput_does (hc : c = .sendMessage actor interfaceId params)
    {s : TaskView × List (Answered svc)} (hlog : s.2 = []) :
    T.Does c (resumeInput n actor interfaceId params.message) s fun _ _ => True := by
  refine (getOrNone_does s).bind ?_ fun _ _ _ => trivial
  rintro x s₁ - hx
  cases x with
  | none => exact .raise trivial
  | some checked =>
    obtain ⟨hstored, hlog₁⟩ := hx checked rfl
    dsimp only
    split
    · split
      · exact .raise trivial
      · exact .ret trivial
    · next hfresh =>
      split
      · exact .raise trivial
      · split
        · exact .raise trivial
        · split
          · exact .raise trivial
          · split
            · exact .raise trivial
            · next response _ =>
              split
              · exact .raise trivial
              · next hpending =>
                rw [not_not] at hpending
                intro hs₁
                have hretries : Retries (responseKey actor interfaceId params) checked s₁.2 :=
                  ⟨[], by rw [hlog₁, hlog, List.nil_append], by simp⟩
                exact answerLoop_does hc (hs₁.key _ _ hstored) hfresh hpending.symm
                  (.of_stored hs₁ hstored) hretries hs₁

end

/-! ### The other calls -/

theorem validateReferences_quiet {tenantId interfaceId runId : String} (references : List String) :
    T.Quiet c (validateReferences tenantId interfaceId runId references) := by
  induction references with
  | nil => exact .ret ()
  | cons reference references ih =>
    refine (getOrNone_quiet _).bind fun x => ?_
    cases x with
    | none => exact .raise _
    | some referenced => exact .ite (.raise _) ih

theorem createDraft_quiet {actor : Actor} {interfaceId taskId contextId : String} {message : Message}
    {invocation : AgentInvocation} {deadline createdAt : Time} (hc : ∀ record input alreadyWorking owner,
      c ≠ .executeJob record input alreadyWorking owner) :
    T.Quiet c (callStore (.createOrGet
      (draftRecord actor interfaceId taskId contextId message invocation deadline createdAt))) := by
  refine fun s => .callStore fun v₁ r v₂ hok hle hstep _ hclaim => ⟨?_, trivial⟩
  obtain ⟨now, r₀, heff, -⟩ | ⟨rfl, -⟩ := hstep
  · cases heff with
    | created _ hfresh =>
      have hstep := @RecordStep.created T.strict c actor interfaceId taskId contextId message invocation
        deadline createdAt
      rw [← hfresh] at hstep
      obtain ⟨hok₂, hle₂, hsteps⟩ := @update_ok T.strict c v₁
        { v₁ with record := Function.update v₁.record _ (some _) } _ hok rfl rfl (fun _ _ hl => hl) hstep
      exact ⟨hok₂, hle₂, hsteps, fun _ record input alreadyWorking owner h _ =>
        absurd h (hc record input alreadyWorking owner)⟩
    | existing => exact ⟨hok, .refl _, .of_record rfl⟩
    | conflict => exact ⟨hok, .refl _, .of_record rfl⟩
  · exact ⟨hok, .refl _, .of_record rfl⟩

theorem createTask_quiet {actor : Actor} {interfaceId : String} {message : Message}
    (hc : ∀ record input alreadyWorking owner, c ≠ .executeJob record input alreadyWorking owner) :
    T.Quiet c (createTask actor interfaceId message) := by
  refine .ite (.raise _) ?_
  split
  · exact .raise _
  · refine (Setting.Quiet.act _).bind fun now => ?_
    split
    · exact .raise _
    · refine .ite (.raise _) ((validateReferences_quiet _).bind fun _ => ?_)
      refine (Setting.Quiet.act _).bind fun taskId => .ite (.raise _) ?_
      refine Setting.Quiet.bind (.ite (.act _) (.ret _)) fun contextId => ?_
      refine (Setting.Quiet.act _).bind fun createdAt => Setting.Quiet.bind ?_ fun x => .ret x.1
      refine (createDraft_quiet hc).tryCatch fun e => ?_
      split
      · exact .raise _
      · exact .raise _

theorem waitUntilSettled_quiet (hperm : T.Permits c none) : T.Quiet c (waitUntilSettled n record) := by
  refine .loop (fun current => .ite (.ret _) (Setting.Quiet.bind (.callStore id) fun x => ?_)) n record
  cases x with
  | some changed => exact .ret _
  | none =>
    refine (Setting.Quiet.act _).bind fun now => ?_
    refine Setting.Quiet.bind (.ite (failIfWorking_quiet hperm) (.ret ())) fun _ => ?_
    exact Setting.Quiet.bind (.callStore id) fun _ => .ret _

theorem recoverDispatch_quiet {actor : Actor} {interfaceId runId dispatchId : String} {wait : Bool}
    (hperm : T.Permits c none) :
    T.Quiet c (recoverDispatch n actor interfaceId runId dispatchId wait) := by
  refine Setting.Quiet.bind (Setting.Quiet.tryCatch (Setting.Quiet.bind (.callStore id) fun _ => .ret _)
    fun e => ?_) fun found => ?_
  · dsimp only
    split
    · exact .ret none
    · exact .raise _
  · cases found with
    | none => exact .ret none
    | some record =>
      exact .ite (.raise _) (.ite ((waitUntilSettled_quiet hperm).bind fun _ => .ret _) (.ret _))

theorem cancelTask_quiet {actor : Actor} {interfaceId tenant taskId : String}
    (hperm : T.Permits c none) : T.Quiet c (cancelTask n actor interfaceId tenant taskId) := by
  refine .ite (.raise _) ((getOrNone_quiet _).bind fun x => ?_)
  cases x with
  | none => exact .raise _
  | some current =>
    exact .ite (.raise _) ((transition_quiet (fun _ hs => .cancel hs) hperm).bind fun _ => .ret _)

theorem cancelListed_quiet (hperm : T.Permits c none) (records : List TaskRecord) :
    T.Quiet c (cancelListed n records) := by
  induction records with
  | nil => exact .ret []
  | cons record records ih =>
    refine Setting.Quiet.bind (.ite (transition_quiet (fun _ hs => .cancel hs) hperm) (.ret _))
      fun current => ?_
    exact ih.bind fun _ => .ret _

theorem sendMessage_does {actor : Actor} {interfaceId : String} {params : SendMessageRequest}
    (hc : c = .sendMessage actor interfaceId params) {s : TaskView × List (Answered svc)}
    (hlog : s.2 = []) : T.Does c (sendMessage n actor interfaceId params) s fun _ _ => True := by
  have hjob : ∀ record input alreadyWorking owner,
      c ≠ .executeJob record input alreadyWorking owner := by simp [hc]
  unfold sendMessage
  split
  · exact .raise trivial
  · have hfirst : T.Does c (if params.message.taskId ≠ "" then
        resumeInput n actor interfaceId params.message
        else createTask actor interfaceId params.message) s fun _ _ => True := by
      split
      · exact resumeInput_does hc hlog
      · exact createTask_quiet hjob s
    refine hfirst.bind ?_ fun _ _ _ => trivial
    rintro record s' - -
    exact Setting.Quiet.ite (.ret _)
      ((waitUntilSettled_quiet (Setting.permits_none hjob)).bind fun _ => .ret _) s'

/-- Every call meets the contract when it is started. -/
theorem Call.meets {s : TaskView} (hs : s.Ok)
    (hready : ∀ record input alreadyWorking owner, c = .executeJob record input alreadyWorking owner →
      (s.record record.key).isSome) : T.contract.Meets c (c.body T.cfg T.rounds) (s, []) := by
  have hdoes : T.Does c (c.body T.cfg T.rounds) (s, []) fun _ _ => True := by
    have hnone : (∀ record input alreadyWorking owner,
        c ≠ .executeJob record input alreadyWorking owner) → T.Permits c none := Setting.permits_none
    cases c with
    | sendMessage actor interfaceId params =>
      exact (sendMessage_does rfl rfl).bind (fun _ s' _ _ => .ret trivial) fun _ _ _ => trivial
    | recoverDispatch actor interfaceId runId dispatchId wait =>
      exact ((recoverDispatch_quiet (hnone (by simp))).bind fun _ => .ret ()) _
    | cancelTask actor interfaceId tenant taskId =>
      exact ((cancelTask_quiet (hnone (by simp))).bind fun _ => .ret ()) _
    | cancelRunTasks actor runId =>
      refine Setting.Quiet.bind (Setting.Quiet.bind (.callStore id) fun records => ?_) (fun _ => .ret ()) _
      exact cancelListed_quiet (hnone (by simp)) records
    | executeJob record input alreadyWorking owner =>
      exact executeJob_does (hready record input alreadyWorking owner rfl)
        (by rintro _ _ _ _ h; cases h; rfl)
    | heartbeatExecution lease => exact heartbeatExecution_quiet _
  exact (hdoes hs).mono fun _ _ _ => trivial

end

section
variable {σ : Type} {T : Setting σ}

/-- Every call meets the contract where it is ready to start. -/
theorem Setting.starts (c : Call) (s : σ) (hok : (T.store.view s).Ok)
    (hready : (services T.store T.cfg T.rounds).ready c s) :
    T.contract.Meets c (c.body T.cfg T.rounds) (T.store.view s, []) := by
  refine Call.meets hok ?_
  rintro record input alreadyWorking owner rfl
  exact hready

/-- **Rely-guarantee.**  In every reachable state the contract holds. -/
theorem Setting.worldOk (T : Setting σ) {w : Machine.World svc Call σ}
    (h : (services T.store T.cfg T.rounds).system.Reach T.contract.ok w) : T.contract.WorldOk w := by
  refine Contract.sound ?_ Setting.starts h
  show (T.store.view T.store.init).Ok
  rw [T.store.init_view]
  exact ⟨fun _ _ h => (by cases h), fun _ _ h => (by cases h), fun _ _ h => (by cases h)⟩

/-- A step of the machine moves every Task by a step of the coroutine that takes it. -/
theorem Setting.recordStep {w w' : Machine.World svc Call σ} {l : Machine.Label svc Call}
    (h : T.contract.WorldOk w) (hok : T.contract.ok w l)
    (hs : (services T.store T.cfg T.rounds).Step w l w') (key : TaskKey) :
    (∃ i o r p, l = .run i o r ∧ w.procs[i]? = some p ∧
      RecordStep T.strict p.call ((T.store.view w.shared).record key) ((T.store.view w'.shared).record key)) ∨
    (T.store.view w'.shared).record key = (T.store.view w.shared).record key := by
  cases hs with
  | start => exact .inr rfl
  | run i p o k r s' y hp hcode hexec hy =>
    obtain ⟨⟨-, -, hguar⟩, -⟩ := h.guar hp hcode hexec hok
    exact .inl ⟨i, o, r, p, rfl, hp, hguar.record key⟩

end

end RoutePilot.A2A
