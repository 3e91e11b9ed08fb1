/-
  A branch of the share service: a storage that the desk describes.

  A `Branch` is a way to store shares, with the policy it follows and a relation
  to the desk that its calls keep.  The service has two, in memory and over
  PostgreSQL; what is proved of a `Branch` holds of both.
-/
import RoutePilot.Share.Refine
import RoutePilot.Spec.Sharing

namespace RoutePilot.Share

open Lib

variable {σ Source Snapshot : Type} {c : Ports Source Snapshot} {log : List (Entry Snapshot)} {d : Desk Snapshot}

variable (c σ) in
/-- Calls on a storage, and what the desk says of them. -/
structure Branch where
  start : σ
  call : Env → ShareOp → EStateM ShareError σ (ShareResponse Snapshot)
  shown : σ → Shown
  Compares : σ → Entry Snapshot → String → Prop
  policy : Policy Source
  Holds : σ → Desk Snapshot → Prop
  init : Holds start {}
  agrees : ∀ {s d log} {e : Entry Snapshot}, Holds s d → d.Ordered policy c log → e.Fresh log →
    Agree Holds ((call e.env e.op).run s) ((Desk.call policy c e.env e.op).run d)
  shows : ∀ {s d log}, Holds s d → d.Ordered policy c log → shown s = d.shown
  compares : ∀ {s d log e k}, Holds s d → d.Ordered policy c log → (Compares s e k ↔ d.Compares e k)

namespace Branch
variable (b : Branch σ c)

/-- The service on the storage. -/
def service : Lts (World σ Snapshot) (Entry Snapshot) := Share.service b.start b.call

/-- **Every run is a run of the desk.** -/
theorem refines {ok : World σ Snapshot → Entry Snapshot → Prop}
    {ok' : World (Desk Snapshot) Snapshot → Entry Snapshot → Prop}
    (hok : ∀ s d log e, ok ⟨s, log⟩ e → ok' ⟨d, log⟩ e) (hfresh : ∀ w e, ok' w e → e.Fresh w.log)
    {w : World σ Snapshot} (hw : b.service.Reach ok w) :
    ∃ d, (deskService b.policy c).Reach ok' ⟨d, w.log⟩ ∧ b.Holds w.state d := by
  refine service_refines b.init (fun s d log h hd e he => ?_) hw
  have he' := hok s d log e he
  exact ⟨he', b.agrees h (.reach hfresh hd) (hfresh _ e he')⟩

end Branch

/-! ## The two branches -/

theorem Memory.Holds.shown {m : Memory Snapshot} (h : m.Holds d) : m.shown = d.shown := by
  unfold Memory.shown Desk.shown
  congr 1
  · exact funext h.publicIds
  · funext k
    rw [h.shares, Option.map_map]
    rfl
  · exact funext h.failures
  · exact funext h.idempotency

theorem Tables.Holds.shown {db : Tables} (h : db.Holds c d) (ho : d.Ordered (.postgres c) c log) :
    db.shown = d.shown := by
  unfold Tables.shown Desk.shown
  congr 1
  · funext publicId
    rw [h.publicLookup]
    cases hk : d.lookup publicId with
    | none => rfl
    | some k =>
      obtain ⟨⟨r, hr, -⟩, -⟩ := ho.lookup hk
      simp [hr]
  · funext k
    rw [h.shares, Option.map_map]
    simp only [Function.comp_def, Tables.rowOf_view]
  · funext k
    rw [h.shares]
    cases hr : d.share k with
    | none =>
      cases hf : d.failures k with
      | none => rfl
      | some f =>
        obtain ⟨r, hr'⟩ := ho.failures hf
        exact nomatch hr.symm.trans hr'
    | some r => cases d.failures k <;> rfl
  · exact funext h.idempotencyKeys

theorem Memory.Holds.compares {m : Memory Snapshot} (h : m.Holds d) {π : Policy Source} (ho : d.Ordered π c log)
    {e : Entry Snapshot} {k : String} : m.Compares e k ↔ d.Compares e k := by
  constructor
  · rintro ⟨publicId, secret, stored, failures, hop, hcompared⟩
    rw [h.compared ho] at hcompared
    cases hd : d.compared e.env.now publicId with
    | error _ => rw [hd] at hcompared; cases hcompared
    | ok found =>
      rw [hd] at hcompared
      cases hcompared
      exact ⟨publicId, secret, _, _, hop, hd⟩
  · rintro ⟨publicId, secret, r, failures, hop, hcompared⟩
    refine ⟨publicId, secret, ⟨r.view, r.secretHash⟩, failures, hop, ?_⟩
    rw [h.compared ho, hcompared]
    rfl

theorem Tables.Holds.compares {db : Tables} (h : db.Holds c d) (ho : d.Ordered (.postgres c) c log)
    {e : Entry Snapshot} {k : String} : db.Compares e k ↔ d.Compares e k := by
  have hid : ∀ {now publicId k' r f}, d.compared now publicId = .ok (k', r, f) → r.view.shareId = k' :=
    fun hcompared => (ho.share (Desk.compared_eq_ok hcompared).2.1).1
  constructor
  · rintro ⟨publicId, secret, row, hop, hcompared, rfl⟩
    rw [h.compared ho] at hcompared
    cases hd : d.compared e.env.now publicId with
    | error _ => rw [hd] at hcompared; cases hcompared
    | ok found =>
      rw [hd] at hcompared
      cases hcompared
      refine ⟨publicId, secret, found.2.1, found.2.2, hop, ?_⟩
      rw [rowOf_view, hid hd]
      exact hd
  · rintro ⟨publicId, secret, r, failures, hop, hcompared⟩
    refine ⟨publicId, secret, rowOf r (d.failures k), hop, ?_, by rw [rowOf_view]; exact hid hcompared⟩
    rw [h.compared ho, hcompared]
    rfl

variable (c) in
/-- In memory. -/
def Branch.memory : Branch (Memory Snapshot) c where
  start := {}
  call := Memory.call c
  shown := Memory.shown
  Compares := Memory.Compares
  policy := .memory
  Holds := Memory.Holds
  init := .init
  agrees h ho _ := Memory.call_agrees h ho _ _
  shows h _ := h.shown
  compares h ho := h.compares ho

/-- Over PostgreSQL. -/
def Branch.postgres (hexdigest : Function.Injective c.hexdigest)
    (hround : ∀ s, c.shareSnapshot (c.dump s) = some s) : Branch Tables c where
  start := {}
  call := Tables.call c
  shown := Tables.shown
  Compares := Tables.Compares
  policy := .postgres c
  Holds := Tables.Holds c
  init := .init
  agrees h ho hfresh := Tables.call_agrees h ho hfresh hexdigest hround _
  shows h ho := h.shown ho
  compares h ho := h.compares ho

end RoutePilot.Share
