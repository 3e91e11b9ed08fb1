/-
  What sharing is for: who gets in, and until when.

  `Shown` is what a state of the service shows of its shares, however it is
  stored.  A capability epoch of a share has one secret, granted by the call that
  began the epoch; a call that changes a share fences off what was issued before
  it.  `Allowed` says which calls of the public side may succeed after a log of
  calls, `Evolved` how a share can change.
-/
import RoutePilot.Lib.History
import RoutePilot.Share.World

namespace RoutePilot.Share

open Lib Lts

variable {Source Snapshot : Type}

/-- What a state shows of its shares. -/
structure Shown where
  /-- the share with a public identifier -/
  lookup : String → Option String
  share : String → Option ShareView
  failures : String → Option Failures
  /-- the answers that a repeated call gets -/
  replay : Scope → Option Replay

def Memory.shown (m : Memory Snapshot) : Shown where
  lookup publicId := m.publicIds.get? publicId
  share k := (m.shares.get? k).map (·.view)
  failures k := m.failures.get? k
  replay s := m.idempotency.get? s

def Tables.shown (db : Tables) : Shown where
  lookup publicId := (db.publicLookup.get? publicId).map (·.shareId)
  share k := (db.shares.get? k).map (·.view)
  failures k := (db.shares.get? k).bind fun row =>
    row.failureWindowStartedAt.map fun windowStart => ⟨row.failedAttempts, windowStart, row.blockedUntil⟩
  replay s := db.idempotencyKeys.get? s

def Desk.shown (d : Desk Snapshot) : Shown where
  lookup := d.lookup
  share k := (d.share k).map (·.view)
  failures := d.failures
  replay := d.replay

/-- Exchanges on the share are refused until later. -/
def Shown.Blocked (s : Shown) (k : String) (now : Time) : Prop := ∃ f, s.failures k = some f ∧ f.Blocked now

/-! ## What a log says -/

/-- The response of a call that created, rotated or revoked a share, or repeated that. -/
def Entry.mutation (e : Entry Snapshot) : Option ShareMutationResponse :=
  match e.result with
  | .ok (.mutation m) => some m
  | _ => none

/-- The response hands out a secret of the share. -/
def Entry.Issues (e : Entry Snapshot) (k secret : String) : Prop :=
  ∃ m, e.mutation = some m ∧ m.share.shareId = k ∧ m.capabilitySecret = some secret

/-- The call began an epoch of the share, with this secret. -/
def Entry.Grants (e : Entry Snapshot) (k : String) (epoch : ℕ) (secret : String) : Prop :=
  ∃ m, e.mutation = some m ∧ m.replayed = false ∧ m.share.shareId = k ∧ m.share.capabilityEpoch = epoch ∧
    m.capabilitySecret = some secret

/-- The call exchanged a secret for a token. -/
def Entry.Exchanges (e : Entry Snapshot) (publicId secret token : String) : Prop :=
  e.op = .exchange publicId secret ∧ e.result = .ok (.exchange ⟨token, sessionExpiry e.env.now⟩)

/-- The call asks to rotate or revoke the share. -/
def ShareOp.Changes (op : ShareOp) (k : String) : Prop :=
  ∃ p version key, op = .rotate p k version key ∨ op = .revoke p k version key

/-- The call rotated or revoked the share. -/
def Entry.Fences (e : Entry Snapshot) (k : String) : Prop :=
  e.op.Changes k ∧ ∃ m, e.mutation = some m ∧ m.replayed = false

/-- The call was made before a rotation or revocation of the share. -/
def Fenced (log : List (Entry Snapshot)) (k : String) (x : Entry Snapshot) : Prop :=
  ∃ later f earlier, log = later ++ f :: earlier ∧ f.Fences k ∧ x ∈ earlier

/-- The call succeeds. -/
def Entry.Succeeds (e : Entry Snapshot) : Prop := ∃ r, e.result = .ok r

/-! ## What may happen -/

/-- Which calls of the public side succeed in a state, after a log. -/
structure Allowed (s : Shown) (log : List (Entry Snapshot)) (e : Entry Snapshot) : Prop where
  /-- a snapshot, to who presents a token that an exchange on the public identifier returned in the last
      fifteen minutes, for the secret of the epoch that is still current, of a share that is active -/
  snapshot : ∀ {publicId token}, e.op = .publicSnapshot publicId token → e.Succeeds →
    ∃ k v, s.lookup publicId = some k ∧ s.share k = some v ∧ v.status = .active ∧
      ∃ x ∈ log, ∃ secret, x.Exchanges publicId secret token ∧ x.env.now ≤ e.env.now ∧
        e.env.now < x.env.now + minutes 15 ∧ ∃ y ∈ log, y.Grants k v.capabilityEpoch secret
  /-- an exchange, of the secret of the current epoch -/
  exchange : ∀ {publicId secret}, e.op = .exchange publicId secret → e.Succeeds →
    ∃ k v, s.lookup publicId = some k ∧ s.share k = some v ∧ v.status = .active ∧
      ∃ y ∈ log, y.Grants k v.capabilityEpoch secret
  /-- an epoch has one secret -/
  unique : ∀ {k epoch secret secret'}, ∀ y ∈ log, ∀ y' ∈ log, y.Grants k epoch secret →
    y'.Grants k epoch secret' → secret = secret'
  /-- no exchange of a secret issued before the share was rotated or revoked -/
  fencedSecret : ∀ {k x secret publicId}, Fenced log k x → x.Issues k secret →
    e.op = .exchange publicId secret → ¬ e.Succeeds
  /-- no snapshot for a token issued before the share was rotated or revoked -/
  fencedToken : ∀ {k x publicId secret token publicId'}, Fenced log k x → x.Exchanges publicId secret token →
    s.lookup publicId = some k → e.op = .publicSnapshot publicId' token → ¬ e.Succeeds

/-- How shares change: none goes, epochs only grow, and a revoked share stays revoked. -/
def Evolved (s s' : Shown) : Prop :=
  ∀ k v, s.share k = some v → ∃ v', s'.share k = some v' ∧ v.capabilityEpoch ≤ v'.capabilityEpoch ∧
    (v.status = .revoked → v'.status = .revoked)

theorem Evolved.refl (s : Shown) : Evolved s s := fun _ v hv => ⟨v, hv, le_rfl, id⟩

theorem Evolved.trans {s₁ s₂ s₃ : Shown} (h : Evolved s₁ s₂) (h' : Evolved s₂ s₃) : Evolved s₁ s₃ := by
  intro k v hv
  obtain ⟨v₂, hv₂, hle, hrev⟩ := h k v hv
  obtain ⟨v₃, hv₃, hle', hrev'⟩ := h' k v₂ hv₂
  exact ⟨v₃, hv₃, hle.trans hle', fun hr => hrev' (hrev hr)⟩

/-- The call repeats the creation of a share that was rotated or revoked since. -/
def Shown.Outdated (s : Shown) (op : ShareOp) : Prop :=
  ∃ p tripId request key replay v, op = .create p tripId request key ∧
    s.replay (scope p createOperation key) = some replay ∧ s.share replay.shareId = some v ∧
      ¬ (v.status = .active ∧ v.capabilityEpoch = 1)

/-- A secret works: any exchange of it that is made next, while the share is not blocked, succeeds. -/
def Works {σ : Type} (M : Lts (World σ Snapshot) (Entry Snapshot)) (shown : σ → Shown) (w : World σ Snapshot)
    (share : ShareView) (secret : String) : Prop :=
  ∀ e w', freshCalls w e → M.step w e w' → e.op = .exchange share.publicId secret →
    ¬ (shown w.state).Blocked share.shareId e.env.now → e.Succeeds

/-- Every secret that is handed out works. -/
def HandsOutWorking {σ : Type} (M : Lts (World σ Snapshot) (Entry Snapshot)) (shown : σ → Shown) : Prop :=
  ∀ w e w' m secret, M.Reach freshCalls w → freshCalls w e → M.step w e w' → e.mutation = some m →
    m.capabilitySecret = some secret → Works M shown w' m.share secret

/-! ## Guesses -/

/-- The call gets to the comparison of a secret of the share. -/
def Memory.Compares (m : Memory Snapshot) (e : Entry Snapshot) (k : String) : Prop :=
  ∃ publicId secret stored failures, e.op = .exchange publicId secret ∧
    Memory.compared e.env.now publicId m = .ok (k, stored, failures)

def Tables.Compares (db : Tables) (e : Entry Snapshot) (k : String) : Prop :=
  ∃ publicId secret row, e.op = .exchange publicId secret ∧ Tables.compared e.env.now publicId db = .ok row ∧
    row.view.shareId = k

def Desk.Compares (d : Desk Snapshot) (e : Entry Snapshot) (k : String) : Prop :=
  ∃ publicId secret r failures, e.op = .exchange publicId secret ∧
    d.compared e.env.now publicId = .ok (k, r, failures)

/-- The call exchanged the secret of the share, or rotated the share. -/
def Entry.Renews (e : Entry Snapshot) (s : Shown) (k : String) : Prop :=
  (∃ publicId secret, e.op = .exchange publicId secret ∧ s.lookup publicId = some k ∧ e.Succeeds) ∨
    ∃ p version key m, e.op = .rotate p k version key ∧ e.mutation = some m ∧ m.replayed = false

/-- The call was refused for too many attempts. -/
def Entry.RateLimited (e : Entry Snapshot) : Prop := ∃ n, e.result = .error (.rateLimited n)

/-- Bounds on the secrets compared in a history, where `compares` tells the calls that compare one. -/
structure GuessesBounded {σ : Type} (compares : σ → Entry Snapshot → Prop)
    (H : List (Taken (World σ Snapshot) (Entry Snapshot))) : Prop where
  /-- at most eight wrong ones in ten minutes -/
  most : ∀ t G, List.Sublist G H → (∀ x ∈ G, compares x.before.state x.label ∧ ¬ x.label.Succeeds ∧
    t ≤ x.label.env.now ∧ x.label.env.now ≤ t + minutes 10) → G.length ≤ 8
  /-- none in the fifteen minutes after one that was answered with `ShareRateLimited` -/
  spaced : H.Pairwise fun x y => compares x.before.state x.label → x.label.RateLimited →
    compares y.before.state y.label → x.label.env.now + minutes 15 ≤ y.label.env.now

theorem fenced_cons {e x : Entry Snapshot} {log : List (Entry Snapshot)} {k : String} :
    Fenced (e :: log) k x ↔ (e.Fences k ∧ x ∈ log) ∨ Fenced log k x := by
  constructor
  · rintro ⟨later, f, earlier, heq, hf, hx⟩
    cases later with
    | nil => cases heq; exact .inl ⟨hf, hx⟩
    | cons e' later => cases heq; exact .inr ⟨later, f, earlier, rfl, hf, hx⟩
  · rintro (⟨hf, hx⟩ | ⟨later, f, earlier, rfl, hf, hx⟩)
    · exact ⟨[], e, log, rfl, hf, hx⟩
    · exact ⟨e :: later, f, earlier, rfl, hf, hx⟩

theorem Fenced.mem {log : List (Entry Snapshot)} {k : String} {x : Entry Snapshot} (h : Fenced log k x) :
    x ∈ log := by
  obtain ⟨later, f, earlier, rfl, -, hx⟩ := h
  exact List.mem_append_right _ (List.mem_cons_of_mem _ hx)

end RoutePilot.Share
