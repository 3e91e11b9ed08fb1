/-
  Parity of the two branches.

  The desk depends on its policy in three places only: who owns a share, what a
  rotation forgets, and whether a creation reads its source again.  A call that
  meets none of them does the same in both branches (`Desk.call_alike`), and so
  does a list of such calls (`share_parity`).
-/
import RoutePilot.Share.Branch
import RoutePilot.Share.Play

namespace RoutePilot.Share

open Lib

variable {Source Snapshot : Type} {c : Ports Source Snapshot} {log : List (Entry Snapshot)} {d : Desk Snapshot}
  {db : Tables} {env : Env}

/-! ## Calls that do not depend on the policy -/

variable (c env d) in
/-- A call on the desk on which the policies agree. -/
def Desk.Alike : ShareOp → Prop
  | .create p tripId request key => d.replay (scope p createOperation key) = none →
      ∀ src ∈ (source c env p tripId request).toOption, (Policy.postgres c).confirms env p tripId src
  | .rotate p k version key => ∀ r, d.share k = some r → r.view.createdBy = p.userId → r.tenantId = p.tenantId ∧
      (d.replay (scope p (rotateOperation k) key) = none → r.view.status = .active → r.view.version = version →
        d.failures k = none)
  | .revoke p k _ _ => ∀ r, d.share k = some r → r.view.createdBy = p.userId → r.tenantId = p.tenantId
  | .exchange _ _ | .publicSnapshot _ _ => True

namespace Desk

/-- A share is changed by a user of the tenant it belongs to. -/
theorem filter_mayChange {p : Principal} {k : String}
    (h : ∀ r, d.share k = some r → r.view.createdBy = p.userId → r.tenantId = p.tenantId) :
    (d.share k).filter ((Policy.memory : Policy Source).mayChange p) =
      (d.share k).filter ((Policy.postgres c).mayChange p) := by
  cases hr : d.share k with
  | none => rfl
  | some r =>
    have hmay : (Policy.memory : Policy Source).mayChange p r = (Policy.postgres c).mayChange p r := by
      unfold Policy.mayChange Policy.memory Policy.postgres
      by_cases hby : r.view.createdBy = p.userId
      · simp [hby, h r hr hby]
      · simp [hby]
    simp only [Option.filter, hmay]

theorem create_alike {p : Principal} {tripId : String} {request : ShareCreateRequest} {key : String}
    (h : d.Alike c env (.create p tripId request key)) :
    (create .memory c env p tripId request key).run d =
      (create (.postgres c) c env p tripId request key).run d := by
  simp only [create, EStateM.run_bind, run_ask]
  cases hsource : source c env p tripId request with
  | error e => rfl
  | ok src =>
    simp only [EStateM.run_get]
    cases hreplay : d.replay (scope p createOperation key) with
    | some replay => rfl
    | none =>
      have hconfirms := h hreplay src (by rw [hsource]; rfl)
      have hconfirms' : (Policy.memory : Policy Source).confirms env p tripId src = true := rfl
      simp only [EStateM.run_bind, ensure, if_pos hconfirms, if_pos hconfirms']

theorem rotate_alike {p : Principal} {k : String} {version : ℕ} {key : String}
    (h : d.Alike c env (.rotate p k version key)) :
    (rotate .memory c env p k version key).run d = (rotate (.postgres c) c env p k version key).run d := by
  have hfilter := filter_mayChange (c := c) fun r hr hby => (h r hr hby).1
  simp only [rotate, EStateM.run_bind, EStateM.run_get, hfilter]
  cases hreplay : d.replay (scope p (rotateOperation k) key) with
  | some replay => rfl
  | none =>
    cases hmay : (d.share k).filter ((Policy.postgres c).mayChange p) with
    | none => rfl
    | some r =>
      obtain ⟨hr, howns⟩ := Option.filter_eq_some_iff.1 hmay
      have hby : r.view.createdBy = p.userId := by
        simp only [Policy.mayChange, Policy.postgres, Bool.and_eq_true, beq_iff_eq] at howns
        exact howns.2
      by_cases hok : r.view.status = .active ∧ r.view.version = version
      · have hnone : d.failures k = none := (h r hr hby).2 hreplay hok.1 hok.2
        have hsame : Function.update d.failures k none = d.failures := by
          rw [← hnone, Function.update_eq_self]
        simp [ensure, hok, Policy.memory, Policy.postgres, changed, hsame]
      · simp only [EStateM.run_bind, ensure, if_neg hok]
        rfl

theorem revoke_alike {p : Principal} {k : String} {version : ℕ} {key : String}
    (h : d.Alike c env (.revoke p k version key)) :
    (revoke .memory c env p k version key).run d = (revoke (.postgres c) c env p k version key).run d := by
  have hfilter := filter_mayChange (c := c) h
  simp only [revoke, EStateM.run_bind, EStateM.run_get, hfilter]

/-- **Step rule.**  A call on which the policies agree does the same under both. -/
theorem call_alike {op : ShareOp} (h : d.Alike c env op) :
    (call .memory c env op).run d = (call (.postgres c) c env op).run d := by
  cases op with
  | create => exact run_map_congr (create_alike h) _
  | rotate => exact run_map_congr (rotate_alike h) _
  | revoke => exact run_map_congr (revoke_alike h) _
  | exchange => rfl
  | publicSnapshot => rfl

end Desk

/-! ## The condition -/

variable (c db env) in
/-- A call on which the branches agree.  A creation still finds its source when the transaction reads it again;
    nobody changes a share of a creator with the same user id in another tenant; and a share is rotated with
    no failed attempt against it. -/
def Tables.Alike : ShareOp → Prop
  | .create p tripId request key => db.idempotencyKeys.get? (scope p createOperation key) = none →
      ∀ src ∈ (source c env p tripId request).toOption, (Policy.postgres c).confirms env p tripId src
  | .rotate p k version key => ∀ row ∈ db.shares.get? k, row.view.createdBy = p.userId →
      row.tenantId = p.tenantId ∧
        (db.idempotencyKeys.get? (scope p (rotateOperation k) key) = none → row.view.status = .active →
          row.view.version = version → row.failureWindowStartedAt = none)
  | .revoke p k _ _ => ∀ row ∈ db.shares.get? k, row.view.createdBy = p.userId → row.tenantId = p.tenantId
  | .exchange _ _ | .publicSnapshot _ _ => True

instance (op : ShareOp) : Decidable (db.Alike c env op) :=
  match op with
  | .create p tripId request key =>
    inferInstanceAs (Decidable (db.idempotencyKeys.get? (scope p createOperation key) = none →
      ∀ src ∈ (source c env p tripId request).toOption, (Policy.postgres c).confirms env p tripId src))
  | .rotate p k version key =>
    inferInstanceAs (Decidable (∀ row ∈ db.shares.get? k, row.view.createdBy = p.userId →
      row.tenantId = p.tenantId ∧
        (db.idempotencyKeys.get? (scope p (rotateOperation k) key) = none → row.view.status = .active →
          row.view.version = version → row.failureWindowStartedAt = none)))
  | .revoke p k _ _ =>
    inferInstanceAs (Decidable (∀ row ∈ db.shares.get? k, row.view.createdBy = p.userId → row.tenantId = p.tenantId))
  | .exchange _ _ | .publicSnapshot _ _ => inferInstanceAs (Decidable True)

theorem Tables.Holds.alike (h : db.Holds c d) {op : ShareOp} (halike : db.Alike c env op) : d.Alike c env op := by
  have hrow : ∀ {k r}, d.share k = some r → rowOf r (d.failures k) ∈ db.shares.get? k := by
    intro k r hr
    rw [h.shares, hr]
    rfl
  cases op with
  | create p tripId request key =>
    intro hreplay
    exact halike ((h.idempotencyKeys _).trans hreplay)
  | rotate p k version key =>
    intro r hr hby
    obtain ⟨htenant, hforgets⟩ := halike _ (hrow hr) (by rw [rowOf_view]; exact hby)
    rw [rowOf_tenantId] at htenant
    refine ⟨htenant, fun hreplay hactive hversion => ?_⟩
    have hnone := hforgets ((h.idempotencyKeys _).trans hreplay) (by rw [rowOf_view]; exact hactive)
      (by rw [rowOf_view]; exact hversion)
    cases hf : d.failures k with
    | none => rfl
    | some f => rw [hf] at hnone; cases hnone
  | revoke p k version key =>
    intro r hr hby
    have htenant := halike _ (hrow hr) (by rw [rowOf_view]; exact hby)
    rwa [rowOf_tenantId] at htenant
  | exchange => trivial
  | publicSnapshot => trivial

/-! ## Runs of both branches -/

variable (c) in
/-- Fresh calls, on which the branches agree. -/
def alikeCalls (w : World Tables Snapshot) (e : Entry Snapshot) : Prop := freshCalls w e ∧ w.state.Alike c e.env e.op

instance (w : World Tables Snapshot) (e : Entry Snapshot) : Decidable (alikeCalls c w e) :=
  inferInstanceAs (Decidable (_ ∧ _))

variable (c) in
/-- The calls of a list return or raise the same in both branches, and leave the same shares. -/
def InParity (xs : List (Env × ShareOp)) : Prop :=
  (World.play {} (Memory.call c) xs).log = (World.play {} (Tables.call c) xs).log ∧
    (World.play {} (Memory.call c) xs).state.shown = (World.play {} (Tables.call c) xs).state.shown

variable (c log) in
/-- Both storages hold what one desk keeps. -/
structure Side (m : Memory Snapshot) (db : Tables) (d : Desk Snapshot) : Prop where
  memory : m.Holds d
  tables : db.Holds c d
  ordered : d.Ordered (.postgres c) c log

/-- Who may change a share over PostgreSQL may change it in memory. -/
theorem Desk.Ordered.memory (h : d.Ordered (.postgres c) c log) : d.Ordered .memory c log := by
  refine { h with changeReplay := fun k hs hop => ?_ }
  obtain ⟨hid, r, hr, howns⟩ := h.changeReplay k hs hop
  simp only [Policy.postgres, Bool.and_eq_true] at howns
  exact ⟨hid, r, hr, howns.2⟩

/-- **Step rule.**  One call on which the branches agree. -/
theorem Side.step {m : Memory Snapshot} {db : Tables} (h : Side c log m db d) (hinj : Function.Injective c.hexdigest)
    (hround : ∀ s, c.shareSnapshot (c.dump s) = some s) {x : Env × ShareOp}
    (hx : alikeCalls c ⟨db, log⟩ (World.entry (Tables.call c) ⟨db, log⟩ x)) :
    outcome ((Memory.call c x.1 x.2).run m) = outcome ((Tables.call c x.1 x.2).run db) ∧
      ∃ d', Side c (World.entry (Tables.call c) ⟨db, log⟩ x :: log) (final ((Memory.call c x.1 x.2).run m))
        (final ((Tables.call c x.1 x.2).run db)) d' := by
  obtain ⟨hfresh, halike⟩ := hx
  obtain ⟨hmemory, hmemory'⟩ := Memory.call_agrees h.memory h.ordered.memory x.1 x.2
  obtain ⟨htables, htables'⟩ : Agree (Tables.Holds c) ((Tables.call c x.1 x.2).run db)
      ((Desk.call (.postgres c) c x.1 x.2).run d) :=
    Tables.call_agrees h.tables h.ordered hfresh hinj hround x.2
  have hsame : (Desk.call .memory c x.1 x.2).run d = (Desk.call (.postgres c) c x.1 x.2).run d :=
    Desk.call_alike (h.tables.alike halike)
  rw [hsame] at hmemory hmemory'
  refine ⟨hmemory.trans htables.symm, _, hmemory', htables', h.ordered.step hfresh ?_⟩
  have heffect := Desk.call_effect (.postgres c) c x.1 d x.2
  rw [← htables] at heffect
  exact heffect

/-- **Run rule.** -/
theorem Side.foldl (hinj : Function.Injective c.hexdigest) (hround : ∀ s, c.shareSnapshot (c.dump s) = some s)
    {xs : List (Env × ShareOp)} : ∀ {w : World (Memory Snapshot) Snapshot} {v : World Tables Snapshot}
    {d : Desk Snapshot}, w.log = v.log → Side c v.log w.state v.state d → v.AllOk (alikeCalls c) (Tables.call c) xs →
      (xs.foldl (·.next (Memory.call c)) w).log = (xs.foldl (·.next (Tables.call c)) v).log ∧
        (xs.foldl (·.next (Memory.call c)) w).state.shown = (xs.foldl (·.next (Tables.call c)) v).state.shown := by
  induction xs with
  | nil => exact fun hlog h _ => ⟨hlog, h.memory.shown.trans (h.tables.shown h.ordered).symm⟩
  | cons x xs ih =>
    intro w v d hlog h hx
    obtain ⟨houtcome, d', h'⟩ := h.step hinj hround hx.1
    refine ih (w := w.next (Memory.call c) x) (v := v.next (Tables.call c) x) ?_ h' hx.2
    simp only [World.next, World.entry, hlog, houtcome]

/-- **Parity.**  Calls on which the branches agree, made one after the other from the empty state, are answered
    alike, and leave the same shares. -/
theorem share_parity {Source Snapshot : Type} {c : Ports Source Snapshot}
    (hexdigest : Function.Injective c.hexdigest) (hround : ∀ s, c.shareSnapshot (c.dump s) = some s)
    {xs : List (Env × ShareOp)} (h : World.AllOk (alikeCalls c) (Tables.call c) ⟨{}, []⟩ xs) : InParity c xs :=
  Side.foldl hexdigest hround rfl ⟨.init, .init, .init⟩ h

namespace Sample

/-- A user of another tenant with the id of the owner. -/
def stranger : Principal := { tenantId := "elsewhere", userId := "owner" }

/-- Who shares, and guesses a secret wrong. -/
def guessed : List (Env × ShareOp) := [(Sample.env 0 0, create "key-1"), (Sample.env 1 1, .exchange "public_0" "guess")]

/-- The share is rotated with a failed attempt against it. -/
def rotatedGuessed : List (Env × ShareOp) := guessed ++ [(Sample.env 2 2, .rotate owner "share_0" 1 "key-2")]

/-- The share is rotated from another tenant. -/
def rotatedElsewhere : List (Env × ShareOp) := guessed ++ [(Sample.env 2 2, .rotate stranger "share_0" 1 "key-2")]

/-- The share is revoked. -/
def revokedGuessed : List (Env × ShareOp) := guessed ++ [(Sample.env 2 2, .revoke owner "share_0" 1 "key-2")]

end Sample

open Sample in
/-- Both kinds of a rotation part the branches. -/
theorem parity_lost :
    (World.AllOk freshCalls (Tables.call ports) ⟨{}, []⟩ rotatedElsewhere ∧ ¬ InParity ports rotatedElsewhere) ∧
      World.AllOk freshCalls (Tables.call ports) ⟨{}, []⟩ rotatedGuessed ∧ ¬ InParity ports rotatedGuessed := by
  refine ⟨⟨by decide +kernel, fun h => ?_⟩, by decide +kernel, fun h => ?_⟩
  · have hresults := congrArg (List.map (·.result)) h.1
    exact absurd hresults (by decide +kernel)
  · have hfailures := congrArg (·.failures "share_0") h.2
    exact absurd hfailures (by decide +kernel)

open Sample in
theorem share_parity_revoked : World.AllOk (alikeCalls ports) (Tables.call ports) ⟨{}, []⟩ revokedGuessed ∧
    InParity ports revokedGuessed :=
  have h : World.AllOk (alikeCalls ports) (Tables.call ports) ⟨{}, []⟩ revokedGuessed := by decide +kernel
  ⟨h, share_parity (c := ports) Function.injective_id ports_roundTrip h⟩

end RoutePilot.Share
