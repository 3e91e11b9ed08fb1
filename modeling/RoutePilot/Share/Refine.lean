/-
  Both branches of the share service are the desk, each under its policy.

  `Memory.Holds` and `Tables.Holds` say that a storage holds what a desk keeps.
  From related states a call of the service and of the desk answer or raise the
  same and end in related states (`Memory.call_agrees`, `Tables.call_agrees`).
-/
import RoutePilot.Share.World

namespace RoutePilot.Share

open Lib

variable {Source Snapshot : Type} {c : Ports Source Snapshot} {env : Env} {log : List (Entry Snapshot)}
  {d : Desk Snapshot}

/-! ## In memory -/

namespace Memory

/-- The tables hold what the desk keeps; of a share, not its tenant. -/
structure Holds (m : Memory Snapshot) (d : Desk Snapshot) : Prop where
  shares : ∀ k, m.shares.get? k = (d.share k).map fun r => ⟨r.view, r.secretHash⟩
  publicIds : ∀ k, m.publicIds.get? k = d.lookup k
  snapshots : ∀ k, m.snapshots.get? k = d.snapshot k
  sessions : ∀ k, m.sessions.get? k = d.session k
  idempotency : ∀ k, m.idempotency.get? k = d.replay k
  failures : ∀ k, m.failures.get? k = d.failures k

variable {m : Memory Snapshot}

theorem Holds.init : ({} : Memory Snapshot).Holds {} := by
  constructor <;> intro k <;> rfl

theorem create_agrees (h : m.Holds d) (p : Principal) (tripId : String) (request : ShareCreateRequest)
    (key : String) :
    Agree Holds ((create c env p tripId request key).run m)
    ((Desk.create .memory c env p tripId request key).run d) := by
  simp only [create, createMemory, Desk.create, EStateM.run_bind, run_ask]
  cases source c env p tripId request with
  | error e => exact .error h
  | ok src =>
    simp only [EStateM.run_get, h.idempotency]
    cases d.replay (scope p createOperation key) with
    | some replay =>
      by_cases hhash : replay.requestHash = createHash c tripId request
      · simp only [EStateM.run_bind, ensure, hhash, h.shares]
        cases hshare : d.share replay.shareId with
        | none => simpa using .error h
        | some r => simpa using .ok h
      · simpa [ensure, hhash] using .error h
    | none =>
      refine .ok ?_
      constructor <;> intro k
      case shares =>
        simp only [Dict.get?_set, h.shares, Desk.created, Function.update_apply]
        split <;> rfl
      case publicIds => simp only [Dict.get?_set, h.publicIds, Desk.created, Function.update_apply]
      case snapshots => simp only [Dict.get?_set, h.snapshots, Desk.created, Function.update_apply]
      case sessions => exact h.sessions k
      case idempotency => simp only [Dict.get?_set, h.idempotency, Desk.created, Function.update_apply]
      case failures => exact h.failures k

/-- One share changed, and its sessions ended. -/
theorem Holds.changed (h : m.Holds d) (p : Principal) (operation requestHash key shareId : String) (r : Record) :
    Holds { m with
      shares := m.shares.set shareId ⟨r.view, r.secretHash⟩
      sessions := m.sessions.filterValues (·.shareId ≠ shareId)
      idempotency := m.idempotency.set (scope p operation key)
        ⟨requestHash, shareId, r.view.version, r.view.capabilityEpoch⟩ }
      (d.changed p operation requestHash key shareId r) := by
  constructor <;> intro k
  case shares =>
    simp only [Dict.get?_set, h.shares, Desk.changed, Function.update_apply]
    split <;> rfl
  case publicIds => exact h.publicIds k
  case snapshots => exact h.snapshots k
  case sessions => simp only [Dict.get?_filterValues, h.sessions, Desk.changed, Desk.endSessions]
  case idempotency => simp only [Dict.get?_set, h.idempotency, Desk.changed, Function.update_apply]
  case failures => exact h.failures k

theorem rotate_agrees (h : m.Holds d) (ho : d.Ordered .memory c log) (p : Principal) (shareId : String)
    (version : ℕ) (key : String) :
    Agree Holds ((rotate c env p shareId version key).run m)
      ((Desk.rotate .memory c env p shareId version key).run d) := by
  simp only [rotate, rotateMemory, Desk.rotate, EStateM.run_bind, EStateM.run_get, h.idempotency]
  cases hreplay : d.replay (scope p (rotateOperation shareId) key) with
  | some replay =>
    have hid : replay.shareId = shareId := (ho.changeReplay shareId hreplay (.inl rfl)).1
    by_cases hhash : replay.requestHash = transitionHash c "rotate" shareId version
    · simp only [EStateM.run_bind, ensure, hhash, hid, h.shares]
      cases hshare : d.share shareId with
      | none => simpa using .error h
      | some r => simpa using .ok h
    · simpa [ensure, hhash] using .error h
  | none =>
    simp only [h.shares]
    cases hshare : d.share shareId with
    | none => simpa using .error h
    | some r =>
      by_cases hby : r.view.createdBy = p.userId
      · have hmay : (some r).filter ((Policy.memory : Policy Source).mayChange p) = some r := by
          simpa [Option.filter, Policy.mayChange, Policy.memory] using hby
        by_cases hok : r.view.status = .active ∧ r.view.version = version
        · have hkeep : (Policy.memory : Policy Source).forgets = false := rfl
          simp only [Option.map_some, hmay, hkeep, EStateM.run_bind, ensure, if_pos hby, if_pos hok,
            EStateM.run_pure, Bool.false_eq_true, if_false]
          exact .ok (h.changed p (rotateOperation shareId) (transitionHash c "rotate" shareId version) key shareId
            ⟨r.tenantId, r.view.rotated env.now, _⟩)
        · simp only [Option.map_some, hmay, EStateM.run_bind, ensure, if_pos hby, if_neg hok, EStateM.run_pure]
          exact .error h
      · have hmay : (some r).filter ((Policy.memory : Policy Source).mayChange p) = none := by
          simpa [Option.filter, Policy.mayChange, Policy.memory] using hby
        simp only [Option.map_some, hmay, EStateM.run_bind, ensure, if_neg hby]
        exact .error h

theorem revoke_agrees (h : m.Holds d) (p : Principal) (shareId : String) (version : ℕ) (key : String) :
    Agree Holds ((revoke c env p shareId version key).run m)
      ((Desk.revoke .memory c env p shareId version key).run d) := by
  simp only [revoke, Desk.revoke, EStateM.run_bind, EStateM.run_get, h.idempotency]
  cases hreplay : d.replay (scope p (revokeOperation shareId) key) with
  | some replay =>
    by_cases hhash : replay.requestHash = transitionHash c "revoke" shareId version
    · simp only [EStateM.run_bind, ensure, hhash, h.shares]
      cases hshare : d.share shareId with
      | none => simpa using .error h
      | some r => simpa using .ok h
    · simpa [ensure, hhash] using .error h
  | none =>
    simp only [h.shares]
    cases hshare : d.share shareId with
    | none => simpa using .error h
    | some r =>
      by_cases hby : r.view.createdBy = p.userId
      · have hmay : (some r).filter ((Policy.memory : Policy Source).mayChange p) = some r := by
          simpa [Option.filter, Policy.mayChange, Policy.memory] using hby
        by_cases hok : r.view.status = .active ∧ r.view.version = version
        · simp only [Option.map_some, hmay, EStateM.run_bind, ensure, if_pos hby, if_pos hok, EStateM.run_pure]
          exact .ok (h.changed p (revokeOperation shareId) (transitionHash c "revoke" shareId version) key shareId
            ⟨r.tenantId, r.view.closed env.now, _⟩)
        · simp only [Option.map_some, hmay, EStateM.run_bind, ensure, if_pos hby, if_neg hok, EStateM.run_pure]
          exact .error h
      · have hmay : (some r).filter ((Policy.memory : Policy Source).mayChange p) = none := by
          simpa [Option.filter, Policy.mayChange, Policy.memory] using hby
        simp only [Option.map_some, hmay, EStateM.run_bind, ensure, if_neg hby]
        exact .error h

/-- No share has the empty identifier, which stands for an unknown public one. -/
theorem share_empty {π : Policy Source} (ho : d.Ordered π c log) : d.share "" = none := by
  rw [Option.eq_none_iff_forall_ne_some]
  intro r hr
  obtain ⟨x, -, heq, -⟩ := ho.drawn hr
  have hlen := congrArg String.length heq
  simp only [Env.newPublicId, String.length_append, String.length_empty] at hlen
  have : "share".length = 5 := by decide
  omega

/-- The checks before a comparison. -/
theorem Holds.compared (h : m.Holds d) {π : Policy Source} (ho : d.Ordered π c log) (now : Time) (publicId : String) :
    Memory.compared now publicId m =
      (d.compared now publicId).map fun found => (found.1, ⟨found.2.1.view, found.2.1.secretHash⟩, found.2.2) := by
  unfold Memory.compared Desk.compared
  simp only [h.publicIds, h.shares, Dict.getD, h.failures]
  cases hk : d.lookup publicId with
  | none => simp [share_empty ho, Except.map]
  | some k =>
    simp only [Option.getD_some]
    cases hr : d.share k with
    | none => simp [Except.map]
    | some r =>
      by_cases hactive : r.view.status = .active
      · have hsome : (some r).filter (·.view.status == .active) = some r := by simp [Option.filter, hactive]
        simp only [Option.map_some, hactive, hsome, ne_eq, not_true_eq_false, if_false]
        cases ((d.failures k).getD ⟨0, now, none⟩).blockedUntil.filter (now < ·) <;> rfl
      · simp [hactive, Option.filter, Except.map]

theorem exchange_agrees (h : m.Holds d) {π : Policy Source} (ho : d.Ordered π c log) (publicId secret : String) :
    Agree Holds ((exchange c env publicId secret).run m) ((Desk.exchange c env publicId secret).run d) := by
  simp only [exchange, Desk.exchange, EStateM.run_bind, run_ask, h.compared ho]
  cases d.compared env.now publicId with
  | error e => exact .error h
  | ok found =>
    obtain ⟨k, r, failures⟩ := found
    simp only [Except.map]
    by_cases hright : capabilityHash c publicId secret = r.secretHash
    · simp only [hright, ne_eq, not_true_eq_false, if_false]
      refine .ok ?_
      refine { h with failures := fun k' => ?_, sessions := fun k' => ?_ }
      · simp only [Dict.get?_set, h.sessions, Function.update_apply]
      · simp only [Dict.get?_pop, h.failures, Function.update_apply]
    · simp only [hright, ne_eq, not_false_eq_true, if_true]
      refine .error ?_
      refine { h with failures := fun k' => ?_ }
      simp only [Dict.get?_set, h.failures, Function.update_apply]

theorem publicSnapshot_agrees (h : m.Holds d) {π : Policy Source} (ho : d.Ordered π c log)
    (publicId token : String) :
    Agree Holds ((publicSnapshot c env publicId token).run m) ((Desk.publicSnapshot c env publicId token).run d) := by
  simp only [publicSnapshot, Desk.publicSnapshot, EStateM.run_bind, EStateM.run_get, h.sessions, h.publicIds,
    h.shares, h.snapshots, Desk.opened]
  cases hs : d.session (sessionHash c token) with
  | none => exact .error h
  | some session =>
    by_cases hk : d.lookup publicId = some session.shareId
    · obtain ⟨⟨r, hr, -⟩, -⟩ := ho.lookup hk
      obtain ⟨-, -, -, snapshot, hsnapshot⟩ := ho.share hr
      simp only [hk, Option.getD_some, hr, Option.map_some, hsnapshot, EStateM.run_bind, ensure, h.publicIds]
      by_cases hepoch : session.capabilityEpoch = r.view.capabilityEpoch
      · by_cases hnow : env.now < session.expiresAt
        · by_cases hactive : r.view.status = .active
          · simpa [hk, hr, hsnapshot, hepoch, hnow, hactive, Option.filter] using .ok h
          · simpa [hk, hr, hepoch, hnow, hactive, Option.filter] using .error h
        · simpa [hk, hepoch, hnow, Option.filter] using .error h
      · by_cases hnow : env.now < session.expiresAt
        · simpa [hk, hr, hepoch, hnow, Option.filter] using .error h
        · simpa [hk, hepoch, hnow, Option.filter] using .error h
    · simp only [ensure, h.publicIds]
      cases hshare : d.share ((d.lookup publicId).getD "") with
      | none => simpa [hk, Option.filter] using .error h
      | some r => simpa [hk, Option.filter] using .error h

/-- **One call in memory is one call of the desk.** -/
theorem call_agrees (h : m.Holds d) (ho : d.Ordered .memory c log) (env : Env) (op : ShareOp) :
    Agree Holds ((call c env op).run m) ((Desk.call .memory c env op).run d) := by
  cases op with
  | create p tripId request key => exact (create_agrees h p tripId request key).map _
  | rotate p shareId version key => exact (rotate_agrees h ho p shareId version key).map _
  | revoke p shareId version key => exact (revoke_agrees h p shareId version key).map _
  | exchange publicId secret => exact (exchange_agrees h ho publicId secret).map _
  | publicSnapshot publicId token => exact (publicSnapshot_agrees h ho publicId token).map _

end Memory

/-! ## Over PostgreSQL -/

namespace Tables

/-- The row of a share with its failures. -/
def rowOf (r : Record) : Option Failures → ShareRow
  | none => { tenantId := r.tenantId, view := r.view, capabilitySecretHash := r.secretHash }
  | some f => { tenantId := r.tenantId, view := r.view, capabilitySecretHash := r.secretHash
                failedAttempts := f.attempts, failureWindowStartedAt := some f.windowStart
                blockedUntil := f.blockedUntil }

variable (c) in
/-- The tables hold what the desk keeps. -/
structure Holds (db : Tables) (d : Desk Snapshot) : Prop where
  shares : ∀ k, db.shares.get? k = (d.share k).map fun r => rowOf r (d.failures k)
  publicLookup : ∀ k, db.publicLookup.get? k =
    (d.lookup k).bind fun shareId => (d.share shareId).map fun r => ⟨r.tenantId, shareId⟩
  snapshots : ∀ k, db.snapshots.get? k = (d.snapshot k).map c.dump
  sessions : ∀ k, db.sessions.get? k = d.session k
  idempotencyKeys : ∀ k, db.idempotencyKeys.get? k = d.replay k

variable {db : Tables}

theorem Holds.init : Holds c {} ({} : Desk Snapshot) := by
  constructor <;> intro k <;> rfl

/-! ### Statements that succeed -/

theorem insertIdempotencyKey_run {s : Scope} (row : Replay) (h : db.idempotencyKeys.get? s = none) :
    (insertIdempotencyKey s row).run db =
      .ok () { db with idempotencyKeys := db.idempotencyKeys.set s row } := by
  simp only [insertIdempotencyKey, EStateM.run_bind, EStateM.run_get, ensure, h, if_true]
  rfl

theorem insertShare_run {row : ShareRow} (h : db.shares.get? row.view.shareId = none)
    (hpub : ∀ r ∈ db.shares.values, r.view.publicId ≠ row.view.publicId) :
    (insertShare row).run db = .ok () { db with shares := db.shares.set row.view.shareId row } := by
  simp only [insertShare, EStateM.run_bind, EStateM.run_get, ensure, h, if_true, if_pos hpub]
  rfl

theorem insertLookup_run {publicId : String} {row : LookupRow} (h : db.publicLookup.get? publicId = none)
    (hshare : ∀ r ∈ db.publicLookup.values, r.shareId ≠ row.shareId) :
    (insertLookup publicId row).run db =
      .ok () { db with publicLookup := db.publicLookup.set publicId row } := by
  simp only [insertLookup, EStateM.run_bind, EStateM.run_get, ensure, h, if_true, if_pos hshare]
  rfl

theorem insertSnapshot_run {shareId : String} (snapshot : Obj) (h : db.snapshots.get? shareId = none) :
    (insertSnapshot shareId snapshot).run db =
      .ok () { db with snapshots := db.snapshots.set shareId snapshot } := by
  simp only [insertSnapshot, EStateM.run_bind, EStateM.run_get, ensure, h, if_true]
  rfl

theorem insertSession_run {hash : String} (session : Session) (h : db.sessions.get? hash = none) :
    (insertSession hash session).run db = .ok () { db with sessions := db.sessions.set hash session } := by
  simp only [insertSession, EStateM.run_bind, EStateM.run_get, ensure, h, if_true]
  rfl

theorem updateVersion_run {shareId : String} {version : ℕ} {row : ShareRow} (f : ShareRow → ShareRow)
    (h : db.shares.get? shareId = some row) (hversion : row.view.version = version) :
    (updateVersion shareId version f).run db =
      .ok (f row) { db with shares := db.shares.set shareId (f row) } := by
  have hrow : (some row).filter (·.view.version == version) = some row := by simp [Option.filter, hversion]
  simp only [updateVersion, EStateM.run_bind, EStateM.run_get, h, hrow]
  rfl

@[simp] theorem rowOf_view (r : Record) (f : Option Failures) : (rowOf r f).view = r.view := by
  cases f <;> rfl

@[simp] theorem rowOf_tenantId (r : Record) (f : Option Failures) : (rowOf r f).tenantId = r.tenantId := by
  cases f <;> rfl

@[simp] theorem rowOf_hash (r : Record) (f : Option Failures) :
    (rowOf r f).capabilitySecretHash = r.secretHash := by
  cases f <;> rfl

theorem create_agrees (h : Holds c db d) (ho : d.Ordered (.postgres c) c log) {e : Entry Snapshot}
    (hfresh : e.Fresh log) (p : Principal) (tripId : String) (request : ShareCreateRequest) (key : String) :
    Agree (Holds c) ((create c e.env p tripId request key).run db)
      ((Desk.create (.postgres c) c e.env p tripId request key).run d) := by
  simp only [create, createPostgres, Desk.create, EStateM.run_bind, run_ask]
  cases source c e.env p tripId request with
  | error e => exact .error h
  | ok src =>
    simp only [EStateM.run_bind, EStateM.run_get, run_atomic, h.idempotencyKeys]
    cases hreplay : d.replay (scope p createOperation key) with
    | some replay =>
      obtain ⟨r, hr⟩ := ho.createReplay hreplay rfl
      by_cases hhash : replay.requestHash = createHash c tripId request
      · simpa [ensure, hhash, h.shares, hr] using .ok h
      · simpa [ensure, hhash] using .error h
    | none =>
      have hnew := ho.share_new hfresh
      have hnewPublic := ho.lookup_new hfresh
      have hidem : db.idempotencyKeys.get? (scope p createOperation key) = none :=
        (h.idempotencyKeys _).trans hreplay
      have hshare : db.shares.get? (newShare c e.env p tripId src).shareId = none := by
        rw [h.shares]
        exact congrArg (Option.map _) hnew
      have hpublic : ∀ row ∈ db.shares.values, row.view.publicId ≠ (newShare c e.env p tripId src).publicId := by
        intro row hrow heq
        obtain ⟨k, hk⟩ := Dict.exists_get?_of_mem_values hrow
        rw [h.shares, Option.map_eq_some_iff] at hk
        obtain ⟨r, hr, rfl⟩ := hk
        have hlookup := (ho.share hr).2.2.1
        rw [rowOf_view] at heq
        rw [heq] at hlookup
        cases hnewPublic.symm.trans hlookup
      have hlookup : db.publicLookup.get? (newShare c e.env p tripId src).publicId = none := by
        rw [h.publicLookup]
        exact congrArg (Option.bind · _) hnewPublic
      have hunique : ∀ row ∈ db.publicLookup.values, row.shareId ≠ (newShare c e.env p tripId src).shareId := by
        intro row hrow heq
        obtain ⟨k, hk⟩ := Dict.exists_get?_of_mem_values hrow
        rw [h.publicLookup, Option.bind_eq_some_iff] at hk
        obtain ⟨shareId, -, hk⟩ := hk
        obtain ⟨r, hr, rfl⟩ := Option.map_eq_some_iff.1 hk
        rw [show shareId = _ from heq] at hr
        cases hnew.symm.trans hr
      have hsnapshot : db.snapshots.get? (newShare c e.env p tripId src).shareId = none := by
        rw [h.snapshots, Option.map_eq_none_iff, Option.eq_none_iff_forall_ne_some]
        intro snapshot hs
        obtain ⟨r, hr⟩ := ho.snapshot hs
        cases hnew.symm.trans hr
      simp only [EStateM.run_bind, insertIdempotencyKey_run _ hidem, ensure]
      by_cases hconfirms : (Policy.postgres c).confirms e.env p tripId src
      · have hcurrent := hconfirms
        simp only [Policy.postgres] at hcurrent
        simp only [if_pos hcurrent, if_pos hconfirms, EStateM.run_pure]
        rw [insertShare_run]
        rotate_left
        · exact hshare
        · exact hpublic
        simp only
        rw [insertLookup_run]
        rotate_left
        · exact hlookup
        · exact hunique
        simp only
        rw [insertSnapshot_run]
        rotate_left
        · exact hsnapshot
        refine .ok ?_
        constructor <;> intro k
        case shares =>
          simp only [Dict.get?_set, h.shares, Desk.created, Function.update_apply]
          split
          · next heq =>
            have hclear : d.failures k = none := by
              rw [Option.eq_none_iff_forall_ne_some]
              intro f hf
              obtain ⟨r, hr⟩ := ho.failures hf
              rw [heq] at hr
              cases hnew.symm.trans hr
            rw [hclear]
            rfl
          · rfl
        case publicLookup =>
          simp only [Dict.get?_set, h.publicLookup, Desk.created, Function.update_apply]
          split
          · simp
          · cases hk : d.lookup k with
            | none => rfl
            | some shareId =>
              obtain ⟨⟨r, hr, -⟩, -⟩ := ho.lookup hk
              have hne : shareId ≠ (newShare c e.env p tripId src).shareId := by
                rintro rfl
                cases hnew.symm.trans hr
              simp [hne]
        case snapshots =>
          simp only [Dict.get?_set, h.snapshots, Desk.created, Function.update_apply]
          split <;> rfl
        case sessions => exact h.sessions k
        case idempotencyKeys => simp only [Dict.get?_set, h.idempotencyKeys, Desk.created, Function.update_apply]
      · have hcurrent := hconfirms
        simp only [Policy.postgres] at hcurrent
        simp only [if_neg hcurrent, if_neg hconfirms]
        exact .error h

/-- One share changed, with its failures, and its sessions ended. -/
theorem Holds.changed (h : Holds c db d) (p : Principal)
    (operation requestHash key : String) {shareId : String} {r : Record} (hr : d.share shareId = some r)
    (r' : Record) (htenant : r'.tenantId = r.tenantId) (f : Option Failures) :
    Holds c { db with
      shares := db.shares.set shareId (rowOf r' f)
      sessions := db.sessions.filterValues (·.shareId ≠ shareId)
      idempotencyKeys := db.idempotencyKeys.set (scope p operation key)
        ⟨requestHash, shareId, r'.view.version, r'.view.capabilityEpoch⟩ }
      { d.changed p operation requestHash key shareId r' with
        failures := Function.update d.failures shareId f } := by
  constructor <;> intro k
  case shares =>
    simp only [Dict.get?_set, h.shares, Desk.changed, Function.update_apply]
    split <;> rfl
  case publicLookup =>
    simp only [h.publicLookup, Desk.changed, Function.update_apply]
    cases hk : d.lookup k with
    | none => rfl
    | some shareId' =>
      simp only [Option.bind_some]
      split
      · next heq => simp [heq, hr, htenant]
      · rfl
  case snapshots => exact h.snapshots k
  case sessions => simp only [Dict.get?_filterValues, h.sessions, Desk.changed, Desk.endSessions]
  case idempotencyKeys => simp only [Dict.get?_set, h.idempotencyKeys, Desk.changed, Function.update_apply]

/-- The share a principal may change. -/
theorem Holds.owned (h : Holds c db d) (p : Principal) (shareId : String) :
    Tables.owned p shareId db = match (d.share shareId).filter ((Policy.postgres c).mayChange p) with
      | none => .error (.notFound "share not found")
      | some r => .ok (rowOf r (d.failures shareId)) := by
  unfold Tables.owned
  rw [h.shares]
  cases d.share shareId with
  | none => rfl
  | some r =>
    simp only [Option.map_some, Option.filter, rowOf_tenantId, rowOf_view, Policy.mayChange, Policy.postgres]
    by_cases hmay : (r.tenantId == p.tenantId && r.view.createdBy == p.userId) = true
    · simp [hmay]
    · simp [hmay]

/-- Whoever has a change to repeat may change the share. -/
theorem mayChange_of_replay (ho : d.Ordered (.postgres c) c log) {p : Principal} {k key operation : String}
    {replay : Replay} (hreplay : d.replay (scope p operation key) = some replay)
    (hop : operation = rotateOperation k ∨ operation = revokeOperation k) :
    ∃ r, d.share k = some r ∧ (some r).filter ((Policy.postgres c).mayChange p) = some r := by
  obtain ⟨-, r, hr, howns⟩ := ho.changeReplay k hreplay hop
  exact ⟨r, hr, if_pos howns⟩

theorem rotate_agrees (h : Holds c db d) (ho : d.Ordered (.postgres c) c log) (p : Principal) (shareId : String)
    (version : ℕ) (key : String) :
    Agree (Holds c) ((rotate c env p shareId version key).run db)
      ((Desk.rotate (.postgres c) c env p shareId version key).run d) := by
  simp only [rotate, rotatePostgres, Desk.rotate, EStateM.run_bind, EStateM.run_get, run_atomic, run_ask,
    h.owned]
  cases hreplay : d.replay (scope p (rotateOperation shareId) key) with
  | some replay =>
    obtain ⟨r, hr, hmay⟩ := mayChange_of_replay ho hreplay (.inl rfl)
    by_cases hhash : replay.requestHash = transitionHash c "rotate" shareId version
    · simpa [ensure, hmay, h.idempotencyKeys, hreplay, hhash, hr] using .ok h
    · simpa [ensure, hr, hmay, h.idempotencyKeys, hreplay, hhash] using .error h
  | none =>
    cases hmay : (d.share shareId).filter ((Policy.postgres c).mayChange p) with
    | none => simpa [hmay] using .error h
    | some r =>
      obtain ⟨hr, -⟩ := Option.filter_eq_some_iff.1 hmay
      by_cases hok : r.view.status = .active ∧ r.view.version = version
      · have hrow : db.shares.get? shareId = some (rowOf r (d.failures shareId)) := by rw [h.shares, hr]; rfl
        simp only [EStateM.run_bind, h.idempotencyKeys, hreplay, ensure, rowOf_view, if_pos hok,
          EStateM.run_pure]
        rw [updateVersion_run _ hrow (by rw [rowOf_view]; exact hok.2)]
        simp only [deleteSessions, EStateM.run_modify]
        rw [insertIdempotencyKey_run]
        rotate_left
        · exact (h.idempotencyKeys _).trans hreplay
        simp only [rowOf_view, rowOf_tenantId]
        exact .ok (h.changed p (rotateOperation shareId) (transitionHash c "rotate" shareId version) key hr
          ⟨r.tenantId, r.view.rotated env.now, _⟩ rfl none)
      · simpa [ensure, h.idempotencyKeys, hreplay, hok] using .error h

theorem rowOf_withView (r : Record) (f : Option Failures) (view : ShareView) :
    { rowOf r f with view } = rowOf { r with view } f := by
  cases f <;> rfl

theorem revoke_agrees (h : Holds c db d) (ho : d.Ordered (.postgres c) c log) (p : Principal) (shareId : String)
    (version : ℕ) (key : String) :
    Agree (Holds c) ((revoke c env p shareId version key).run db)
      ((Desk.revoke (.postgres c) c env p shareId version key).run d) := by
  simp only [revoke, Desk.revoke, EStateM.run_bind, EStateM.run_get, run_atomic, run_ask, h.owned]
  cases hreplay : d.replay (scope p (revokeOperation shareId) key) with
  | some replay =>
    obtain ⟨r, hr, hmay⟩ := mayChange_of_replay ho hreplay (.inr rfl)
    by_cases hhash : replay.requestHash = transitionHash c "revoke" shareId version
    · simpa [ensure, hmay, h.idempotencyKeys, hreplay, hhash, hr] using .ok h
    · simpa [ensure, hr, hmay, h.idempotencyKeys, hreplay, hhash] using .error h
  | none =>
    cases hmay : (d.share shareId).filter ((Policy.postgres c).mayChange p) with
    | none => simpa [hmay] using .error h
    | some r =>
      obtain ⟨hr, -⟩ := Option.filter_eq_some_iff.1 hmay
      by_cases hok : r.view.status = .active ∧ r.view.version = version
      · have hrow : db.shares.get? shareId = some (rowOf r (d.failures shareId)) := by rw [h.shares, hr]; rfl
        simp only [EStateM.run_bind, h.idempotencyKeys, hreplay, ensure, rowOf_view, if_pos hok,
          EStateM.run_pure]
        rw [updateVersion_run _ hrow (by rw [rowOf_view]; exact hok.2)]
        simp only [deleteSessions, EStateM.run_modify]
        rw [insertIdempotencyKey_run]
        rotate_left
        · exact (h.idempotencyKeys _).trans hreplay
        simp only [rowOf_view]
        have hchanged := h.changed p (revokeOperation shareId) (transitionHash c "revoke" shareId version) key hr
          ⟨r.tenantId, r.view.closed env.now, r.secretHash⟩ rfl (d.failures shareId)
        rw [Function.update_eq_self, ← rowOf_withView] at hchanged
        exact .ok hchanged
      · simpa [ensure, h.idempotencyKeys, hreplay, hok] using .error h

/-- The row with a public identifier is the one the desk finds. -/
theorem Holds.published (h : Holds c db d) (ho : d.Ordered (.postgres c) c log) {publicId k : String} {r : Record}
    (hk : d.lookup publicId = some k) (hr : d.share k = some r) :
    db.published r.tenantId publicId = some (rowOf r (d.failures k)) := by
  have hpub : r.view.publicId = publicId := by
    obtain ⟨⟨r', hr', hpub⟩, -⟩ := ho.lookup hk
    rw [hr] at hr'
    cases hr'
    exact hpub
  have hmem : rowOf r (d.failures k) ∈ db.shares.values :=
    Dict.mem_values_of_get? (k := k) (by rw [h.shares, hr]; rfl)
  cases hfind : db.published r.tenantId publicId with
  | none =>
    have := List.find?_eq_none.1 hfind _ hmem
    simp [hpub] at this
  | some row =>
    obtain ⟨k', hk'⟩ := Dict.exists_get?_of_mem_values (List.mem_of_find?_eq_some hfind)
    rw [h.shares, Option.map_eq_some_iff] at hk'
    obtain ⟨r', hr', rfl⟩ := hk'
    have hmatch := List.find?_some hfind
    simp only [rowOf_view, rowOf_tenantId, Bool.and_eq_true, beq_iff_eq] at hmatch
    have hlookup := (ho.share hr').2.2.1
    rw [hmatch.2, hk] at hlookup
    cases hlookup
    rw [hr] at hr'
    cases hr'
    rfl

/-- The tenant of a public identifier is that of its share. -/
theorem Holds.resolve (h : Holds c db d) (ho : d.Ordered (.postgres c) c log) (publicId : String) :
    db.resolvePublicTenant publicId =
      (d.lookup publicId).bind fun k => (d.share k).map fun r => r.tenantId := by
  unfold resolvePublicTenant
  rw [h.publicLookup]
  cases d.lookup publicId with
  | none => rfl
  | some k =>
    cases hr : d.share k with
    | none => simp [hr]
    | some r => simp [hr, Option.filter, (ho.share hr).2.1]

/-- The checks before a comparison. -/
theorem Holds.compared (h : Holds c db d) (ho : d.Ordered (.postgres c) c log) (now : Time) (publicId : String) :
    Tables.compared now publicId db =
      (d.compared now publicId).map fun found => rowOf found.2.1 (d.failures found.1) := by
  unfold Tables.compared Desk.compared
  rw [h.resolve ho]
  cases hk : d.lookup publicId with
  | none => rfl
  | some k =>
    obtain ⟨⟨r, hr, -⟩, -⟩ := ho.lookup hk
    simp only [Option.bind_some, hr, Option.map_some, h.published ho hk hr]
    by_cases hactive : r.view.status = .active
    · have hrow : (some (rowOf r (d.failures k))).filter (·.view.status == .active) =
          some (rowOf r (d.failures k)) := by simp [Option.filter, hactive]
      have hrecord : (some r).filter (·.view.status == .active) = some r := by simp [Option.filter, hactive]
      have hblocked : (rowOf r (d.failures k)).blockedUntil =
          ((d.failures k).getD ⟨0, now, none⟩).blockedUntil := by cases d.failures k <;> rfl
      simp only [hrow, hrecord, hblocked]
      cases ((d.failures k).getD ⟨0, now, none⟩).blockedUntil.filter (now < ·) <;> rfl
    · simp [hactive, Option.filter, Except.map]

/-- The failures of one share changed. -/
theorem Holds.withFailures (h : Holds c db d) {k : String} {r : Record} (hr : d.share k = some r)
    (f : Option Failures) :
    Holds c { db with shares := db.shares.set k (rowOf r f) }
      { d with failures := Function.update d.failures k f } := by
  refine { h with shares := fun k' => ?_ }
  simp only [Dict.get?_set, h.shares, Function.update_apply]
  split
  · next heq => rw [heq, hr]; rfl
  · rfl

theorem exchange_agrees (h : Holds c db d) (ho : d.Ordered (.postgres c) c log) {e : Entry Snapshot}
    (hfresh : e.Fresh log) (hinj : Function.Injective c.hexdigest) (publicId secret : String) :
    Agree (Holds c) ((exchange c e.env publicId secret).run db) ((Desk.exchange c e.env publicId secret).run d) := by
  simp only [exchange, Desk.exchange, EStateM.run_bind, run_ask, h.compared ho]
  cases hcompared : d.compared e.env.now publicId with
  | error e => exact .error h
  | ok found =>
    obtain ⟨k, r, failures⟩ := found
    obtain ⟨hk, hr, -, hfailures, -⟩ := Desk.compared_eq_ok hcompared
    have hid : r.view.shareId = k := (ho.share hr).1
    simp only [Except.map, rowOf_hash]
    by_cases hright : capabilityHash c publicId secret = r.secretHash
    · simp only [hright, ne_eq, not_true_eq_false, if_false, EStateM.run_bind, EStateM.run_modify, run_atomic,
        rowOf_view, hid]
      rw [insertSession_run]
      rotate_left
      · exact (h.sessions _).trans (ho.session_new hfresh hinj)
      have hcleared := h.withFailures hr none
      simp only [rowOf_tenantId]
      refine .ok { hcleared with sessions := fun k' => ?_ }
      simp only [Dict.get?_set, h.sessions, Function.update_apply]
    · have hcount : ShareRow.failures e.env.now (rowOf r (d.failures k)) = failures := by
        rw [hfailures]
        cases d.failures k <;> rfl
      simp only [hright, ne_eq, not_false_eq_true, if_true, EStateM.run_bind, EStateM.run_modify, hcount,
        rowOf_view, rowOf_tenantId, hid]
      exact .error (h.withFailures hr (some (limits.fail e.env.now failures)))

theorem publicSnapshot_agrees (h : Holds c db d) (ho : d.Ordered (.postgres c) c log)
    (hround : ∀ s, c.shareSnapshot (c.dump s) = some s) (publicId token : String) :
    Agree (Holds c) ((publicSnapshot c env publicId token).run db)
      ((Desk.publicSnapshot c env publicId token).run d) := by
  simp only [publicSnapshot, Desk.publicSnapshot, EStateM.run_bind, EStateM.run_get, h.resolve ho, Desk.opened,
    joined, h.sessions, h.snapshots]
  cases hk : d.lookup publicId with
  | none =>
    cases hs : d.session (sessionHash c token) <;> simpa [hk, Option.filter] using .error h
  | some k =>
    obtain ⟨⟨r, hr, -⟩, -⟩ := ho.lookup hk
    obtain ⟨hid, -, -, snapshot, hsnapshot⟩ := ho.share hr
    simp only [Option.bind_some, hr, Option.map_some, h.published ho hk hr]
    cases hs : d.session (sessionHash c token) with
    | none => simpa using .error h
    | some session =>
      by_cases hshare : session.shareId = k
      · subst hshare
        by_cases hactive : r.view.status = .active
        · by_cases hnow : env.now < session.expiresAt
          · by_cases hepoch : session.capabilityEpoch = r.view.capabilityEpoch
            · simpa [Option.filter, hid, hk, hr, hsnapshot, hactive, hnow, hepoch, ensure, hround] using .ok h
            · simpa [Option.filter, hid, hk, hr, hsnapshot, hactive, hnow, hepoch, ensure] using .error h
          · simpa [Option.filter, hid, hk, hr, hsnapshot, hactive, hnow, ensure] using .error h
        · by_cases hnow : env.now < session.expiresAt
          · simpa [Option.filter, hid, hk, hr, hsnapshot, hactive, hnow, ensure] using .error h
          · simpa [Option.filter, hid, hk, hr, hsnapshot, hactive, hnow, ensure] using .error h
      · have hne : k ≠ session.shareId := fun heq => hshare heq.symm
        simpa [Option.filter, hid, hk, hshare, hne] using .error h

/-- **One call over PostgreSQL is one call of the desk.** -/
theorem call_agrees (h : Holds c db d) (ho : d.Ordered (.postgres c) c log) {e : Entry Snapshot}
    (hfresh : e.Fresh log) (hinj : Function.Injective c.hexdigest)
    (hround : ∀ s, c.shareSnapshot (c.dump s) = some s) (op : ShareOp) :
    Agree (Holds c) ((call c e.env op).run db) ((Desk.call (.postgres c) c e.env op).run d) := by
  cases op with
  | create p tripId request key => exact (create_agrees h ho hfresh p tripId request key).map _
  | rotate p shareId version key => exact (rotate_agrees h ho p shareId version key).map _
  | revoke p shareId version key => exact (revoke_agrees h ho p shareId version key).map _
  | exchange publicId secret => exact (exchange_agrees h ho hfresh hinj publicId secret).map _
  | publicSnapshot publicId token => exact (publicSnapshot_agrees h ho hround publicId token).map _

end Tables

end RoutePilot.Share
