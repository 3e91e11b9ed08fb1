/-
  Runs of the share service that can be computed.

  `World.play` makes calls one after the other.  The sample service keeps its
  texts readable: it takes a message for its own HMAC, and a snapshot for the
  name of the artifact it comes from.
-/
import RoutePilot.Spec.Sharing

namespace RoutePilot.Share

open Lib

variable {σ Snapshot : Type} {start : σ} {call : Env → ShareOp → EStateM ShareError σ (ShareResponse Snapshot)}

instance (op : ShareOp) : Decidable op.Valid := by
  cases op <;> unfold ShareOp.Valid <;> infer_instance

theorem Entry.fresh_iff {log : List (Entry Snapshot)} {e : Entry Snapshot} : e.Fresh log ↔ e.op.Valid ∧
    (∀ x ∈ log, x.env.newPublicId "share" ≠ e.env.newPublicId "share") ∧
    (∀ x ∈ log, x.env.newPublicId "public" ≠ e.env.newPublicId "public") ∧
    (∀ x ∈ log, x.env.sessionToken ≠ e.env.sessionToken) ∧
    '\x1f' ∉ (e.env.newPublicId "share").toList :=
  ⟨fun h => ⟨h.valid, h.share, h.public_, h.token, h.printable⟩,
    fun ⟨h₁, h₂, h₃, h₄, h₅⟩ => ⟨h₁, h₂, h₃, h₄, h₅⟩⟩

instance (log : List (Entry Snapshot)) (e : Entry Snapshot) : Decidable (e.Fresh log) :=
  decidable_of_iff' _ Entry.fresh_iff

instance (log : List (Entry Snapshot)) (e : Entry Snapshot) : Decidable (e.Later log) :=
  inferInstanceAs (Decidable (∀ x ∈ log, _))

/-- A call made in a world. -/
def World.entry (call : Env → ShareOp → EStateM ShareError σ (ShareResponse Snapshot)) (w : World σ Snapshot)
    (x : Env × ShareOp) : Entry Snapshot := ⟨x.1, x.2, outcome ((call x.1 x.2).run w.state)⟩

/-- The world after a call. -/
def World.next (call : Env → ShareOp → EStateM ShareError σ (ShareResponse Snapshot)) (w : World σ Snapshot)
    (x : Env × ShareOp) : World σ Snapshot := ⟨final ((call x.1 x.2).run w.state), w.entry call x :: w.log⟩

theorem step_next (w : World σ Snapshot) (x : Env × ShareOp) :
    (service start call).step w (w.entry call x) (w.next call x) := ⟨rfl, rfl⟩

/-- The world after calls. -/
def World.play (start : σ) (call : Env → ShareOp → EStateM ShareError σ (ShareResponse Snapshot)) :
    List (Env × ShareOp) → World σ Snapshot := List.foldl (·.next call) ⟨start, []⟩

/-- The calls of a list, each with the world it is made in, meet a condition. -/
def World.AllOk (ok : World σ Snapshot → Entry Snapshot → Prop)
    (call : Env → ShareOp → EStateM ShareError σ (ShareResponse Snapshot)) :
    World σ Snapshot → List (Env × ShareOp) → Prop
  | _, [] => True
  | w, x :: xs => ok w (w.entry call x) ∧ AllOk ok call (w.next call x) xs

instance World.decidableAllOk (ok : World σ Snapshot → Entry Snapshot → Prop) [∀ w e, Decidable (ok w e)]
    (call : Env → ShareOp → EStateM ShareError σ (ShareResponse Snapshot)) :
    (w : World σ Snapshot) → (xs : List (Env × ShareOp)) → Decidable (w.AllOk ok call xs)
  | _, [] => .isTrue trivial
  | w, x :: xs => @instDecidableAnd _ _ _ (decidableAllOk ok call (w.next call x) xs)

theorem reach_foldl {ok : World σ Snapshot → Entry Snapshot → Prop} {xs : List (Env × ShareOp)} :
    ∀ {w : World σ Snapshot}, (service start call).Reach ok w → w.AllOk ok call xs →
      (service start call).Reach ok (xs.foldl (·.next call) w) := by
  induction xs with
  | nil => exact fun hw _ => hw
  | cons x xs ih => exact fun hw h => ih (hw.step h.1 (step_next _ x)) h.2

/-- What is played is a run. -/
theorem reach_play {ok : World σ Snapshot → Entry Snapshot → Prop} {xs : List (Env × ShareOp)}
    (h : World.AllOk ok call ⟨start, []⟩ xs) : (service start call).Reach ok (World.play start call xs) :=
  reach_foldl (.init rfl) h

/-- The history of calls made from a world. -/
def World.history (call : Env → ShareOp → EStateM ShareError σ (ShareResponse Snapshot)) :
    World σ Snapshot → List (Env × ShareOp) → List (Lts.Taken (World σ Snapshot) (Entry Snapshot))
  | _, [] => []
  | w, x :: xs => ⟨w, w.entry call x, w.next call x⟩ :: history call (w.next call x) xs

theorem trace_history {xs : List (Env × ShareOp)} : ∀ w : World σ Snapshot,
    (service start call).Trace w (w.history call xs) (xs.foldl (·.next call) w) := by
  induction xs with
  | nil => exact fun w => .nil w
  | cons x xs ih => exact fun w => .cons (step_next w x) (ih _)

theorem World.AllOk.history {ok : World σ Snapshot → Entry Snapshot → Prop} {xs : List (Env × ShareOp)} :
    ∀ {w : World σ Snapshot}, w.AllOk ok call xs → ∀ x ∈ w.history call xs, ok x.before x.label := by
  induction xs with
  | nil => exact fun _ x hx => absurd hx List.not_mem_nil
  | cons x xs ih => exact fun h => List.forall_mem_cons.2 ⟨h.1, ih h.2⟩

instance (w : World σ Snapshot) (e : Entry Snapshot) : Decidable (freshCalls w e) :=
  inferInstanceAs (Decidable (e.Fresh w.log))

instance (w : World σ Snapshot) (e : Entry Snapshot) : Decidable (timedCalls w e) :=
  inferInstanceAs (Decidable (_ ∧ _))

/-! ## A sample service -/

namespace Sample

def owner : Principal := { tenantId := "tenant", userId := "owner" }

def trip : TripView where
  tripId := "trip"
  tenantId := "tenant"
  ownerId := "owner"
  title := "北京"
  locale := "zh-CN"
  timezone := "Asia/Shanghai"
  status := .active
  version := 1
  currentArtifactId := some "snapshot"
  currentArtifactVersion := some 1
  createdAt := 0
  updatedAt := 0

def artifact : ArtifactView where
  artifactId := "snapshot"
  version := 1
  tripId := "trip"
  tenantId := "tenant"
  artifactType := "TripSnapshot"
  schemaVersion := 1
  status := .published
  content := [("artifact_id", .str "snapshot")]
  createdBy := "owner"
  createdAt := 0

def platform : Platform where
  getTrip _ _ := .ok trip
  getArtifact _ _ _ := .ok artifact
  currentSource _ _ _ _ := some ⟨some "snapshot", some 1, .published⟩

/-- The text of a field of a sample object. -/
def text (o : Obj) (field : String) : String := ((o.get? field).bind Json.asStr?).getD ""

/-- Snapshots are named texts. -/
def ports : Ports String String where
  base64url message := message
  hexdigest message := message
  canonicalRequestHash o := text o "operation" ++ text o "trip_id" ++ text o "share_id"
  tripSnapshot content := some (text content "artifact_id")
  artifactId source := source
  version _ := 1
  project _ source _ := source
  dump snapshot := [("artifact_id", .str snapshot)]
  shareSnapshot o := some (text o "artifact_id")

theorem ports_roundTrip (s : String) : ports.shareSnapshot (ports.dump s) = some s := by
  simp [ports, text, Obj.get?, Json.asStr?]

/-- The environment of a call: the minute it is made at, and the number that what it draws ends in. -/
def env (minute draw : ℕ) : Env where
  now := minutes minute
  token _ := toString draw
  sessionToken := "token_" ++ toString draw
  projectedAt := minutes minute
  platform := platform

def create (key : String) : ShareOp := .create owner "trip" ⟨"snapshot", 1⟩ key

/-- The secret of the share that the call drawing `draw` created. -/
def secret (key : String) (draw : ℕ) : String :=
  deriveSecret ports createOperation owner key (createHash ports "trip" ⟨"snapshot", 1⟩)
    ("share_" ++ toString draw) 1

end Sample
end RoutePilot.Share
