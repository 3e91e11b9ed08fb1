/-
  Runs of the share service, and what the desk keeps in order.

  A world is the state of the service and the calls made so far, the latest
  first.  `Entry.Fresh` is what the generator of identifiers and tokens promises
  about a call, `Entry.Later` a clock that does not go back.
-/
import Mathlib.Tactic.Common
import RoutePilot.Lib.Lts
import RoutePilot.Share.Effect
import RoutePilot.Share.Postgres

namespace RoutePilot.Share

open Lib

/-- A call that was made, and how it ended. -/
structure Entry (Snapshot : Type) where
  env : Env
  op : ShareOp
  result : Except ShareError (ShareResponse Snapshot)

structure World (σ Snapshot : Type) where
  state : σ
  log : List (Entry Snapshot)

variable {σ τ Source Snapshot : Type}

/-- The service, by its first state and its calls. -/
def service (start : σ) (call : Env → ShareOp → EStateM ShareError σ (ShareResponse Snapshot)) :
    Lts (World σ Snapshot) (Entry Snapshot) where
  init w := w = ⟨start, []⟩
  step w e w' := e.result = outcome ((call e.env e.op).run w.state) ∧
    w' = ⟨final ((call e.env e.op).run w.state), e :: w.log⟩

/-- The service in memory. -/
def memoryService (c : Ports Source Snapshot) : Lts (World (Memory Snapshot) Snapshot) (Entry Snapshot) :=
  service {} (Memory.call c)

/-- The service over PostgreSQL. -/
def postgresService (c : Ports Source Snapshot) : Lts (World Tables Snapshot) (Entry Snapshot) :=
  service {} (Tables.call c)

/-- The desk, under a policy. -/
def deskService (π : Policy Source) (c : Ports Source Snapshot) :
    Lts (World (Desk Snapshot) Snapshot) (Entry Snapshot) :=
  service {} (Desk.call π c)

/-- The tenant of a call is named, as `Principal` demands. -/
def ShareOp.Valid : ShareOp → Prop
  | create p _ _ _ | rotate p _ _ _ | revoke p _ _ _ => p.tenantId ≠ ""
  | exchange _ _ | publicSnapshot _ _ => True

/-- What a call draws was not drawn before, and an identifier has no separator in it. -/
structure Entry.Fresh (log : List (Entry Snapshot)) (e : Entry Snapshot) : Prop where
  valid : e.op.Valid
  share : ∀ x ∈ log, x.env.newPublicId "share" ≠ e.env.newPublicId "share"
  public_ : ∀ x ∈ log, x.env.newPublicId "public" ≠ e.env.newPublicId "public"
  token : ∀ x ∈ log, x.env.sessionToken ≠ e.env.sessionToken
  printable : '\x1f' ∉ (e.env.newPublicId "share").toList

/-- No call was made after this one. -/
def Entry.Later (log : List (Entry Snapshot)) (e : Entry Snapshot) : Prop :=
  ∀ x ∈ log, x.env.now ≤ e.env.now

/-- Fresh calls, at any times. -/
def freshCalls (w : World σ Snapshot) (e : Entry Snapshot) : Prop := e.Fresh w.log

/-- Fresh calls, at nondecreasing times. -/
def timedCalls (w : World σ Snapshot) (e : Entry Snapshot) : Prop := e.Fresh w.log ∧ e.Later w.log

/-! ## Operations -/

@[simp] theorem rotateOperation_inj {k k' : String} : rotateOperation k = rotateOperation k' ↔ k = k' := by
  simp [rotateOperation, String.append_right_inj]

@[simp] theorem revokeOperation_inj {k k' : String} : revokeOperation k = revokeOperation k' ↔ k = k' := by
  simp [revokeOperation, String.append_right_inj]

/-- Operations of two kinds differ before what follows. -/
theorem operation_ne {a b s t : String} (h : a.toList.length = b.toList.length) (hne : a ≠ b) :
    a ++ s ≠ b ++ t := by
  intro he
  have hl := congrArg String.toList he
  simp only [String.toList_append] at hl
  exact hne (String.toList_inj.1 (List.append_inj hl h).1)

theorem rotate_ne_revoke (k k' : String) : rotateOperation k ≠ revokeOperation k' :=
  operation_ne (by decide) (by decide)

theorem create_ne_rotate (k : String) : createOperation ≠ rotateOperation k := by
  have hne : "share.create" ++ "" ≠ "share.rotate" ++ (":" ++ k) := operation_ne (by decide) (by decide)
  rwa [← String.append_assoc] at hne

theorem create_ne_revoke (k : String) : createOperation ≠ revokeOperation k := by
  have hne : "share.create" ++ "" ≠ "share.revoke" ++ (":" ++ k) := operation_ne (by decide) (by decide)
  rwa [← String.append_assoc] at hne

/-! ## What the desk keeps in order -/

variable (π : Policy Source) (c : Ports Source Snapshot) in
/-- The desk after the calls of a log. -/
structure Desk.Ordered (log : List (Entry Snapshot)) (d : Desk Snapshot) : Prop where
  share : ∀ {k r}, d.share k = some r → r.view.shareId = k ∧ r.tenantId ≠ "" ∧
    d.lookup r.view.publicId = some k ∧ ∃ s, d.snapshot k = some s
  drawn : ∀ {k r}, d.share k = some r → ∃ x ∈ log, k = x.env.newPublicId "share" ∧ '\x1f' ∉ k.toList
  lookup : ∀ {publicId k}, d.lookup publicId = some k →
    (∃ r, d.share k = some r ∧ r.view.publicId = publicId) ∧ ∃ x ∈ log, publicId = x.env.newPublicId "public"
  snapshot : ∀ {k s}, d.snapshot k = some s → ∃ r, d.share k = some r
  session : ∀ {hash s}, d.session hash = some s → ∃ x ∈ log, hash = sessionHash c x.env.sessionToken
  failures : ∀ {k f}, d.failures k = some f → ∃ r, d.share k = some r
  createReplay : ∀ {s replay}, d.replay s = some replay → s.operation = createOperation →
    ∃ r, d.share replay.shareId = some r
  changeReplay : ∀ {s replay} (k : String), d.replay s = some replay →
    s.operation = rotateOperation k ∨ s.operation = revokeOperation k →
    replay.shareId = k ∧ ∃ r, d.share k = some r ∧ π.owns s.tenantId s.actorId r.tenantId r.view.createdBy

namespace Desk.Ordered
variable {π : Policy Source} {c : Ports Source Snapshot} {log : List (Entry Snapshot)} {d : Desk Snapshot}

theorem init : Ordered π c [] ({} : Desk Snapshot) := by
  constructor <;> simp

/-- More calls. -/
theorem cons (h : Ordered π c log d) (e : Entry Snapshot) : Ordered π c (e :: log) d where
  share := h.share
  drawn hk := (h.drawn hk).imp fun _ hx => ⟨List.mem_cons_of_mem _ hx.1, hx.2⟩
  lookup hk := (h.lookup hk).imp_right fun hx => hx.imp fun _ hx => ⟨List.mem_cons_of_mem _ hx.1, hx.2⟩
  snapshot := h.snapshot
  session hs := (h.session hs).imp fun _ hx => ⟨List.mem_cons_of_mem _ hx.1, hx.2⟩
  failures := h.failures
  createReplay := h.createReplay
  changeReplay := h.changeReplay

section
variable {e : Entry Snapshot} (h : Ordered π c log d) (hfresh : e.Fresh log)
include h hfresh

theorem share_new : d.share (e.env.newPublicId "share") = none := by
  rw [Option.eq_none_iff_forall_ne_some]
  intro r hr
  obtain ⟨x, hx, heq, -⟩ := h.drawn hr
  exact hfresh.share x hx heq.symm

theorem lookup_new : d.lookup (e.env.newPublicId "public") = none := by
  rw [Option.eq_none_iff_forall_ne_some]
  intro k hk
  obtain ⟨-, x, hx, heq⟩ := h.lookup hk
  exact hfresh.public_ x hx heq.symm

theorem session_new (hinj : Function.Injective c.hexdigest) :
    d.session (sessionHash c e.env.sessionToken) = none := by
  rw [Option.eq_none_iff_forall_ne_some]
  intro s hs
  obtain ⟨x, hx, heq⟩ := h.session hs
  have htoken := String.append_right_inj _ |>.1 (hinj heq)
  exact hfresh.token x hx htoken.symm

end

theorem create_step {e : Entry Snapshot} (h : Ordered π c log d) (hfresh : e.Fresh log) {p : Principal}
    (hp : p.tenantId ≠ "") (tripId : String) (src : Source) (requestHash key : String) :
    Ordered π c (e :: log) (d.created c e.env p tripId src requestHash key) := by
  have hnew := h.share_new hfresh
  have hnewPublic := h.lookup_new hfresh
  have hkept : ∀ {k r}, d.share k = some r → k ≠ e.env.newPublicId "share" := by
    rintro k r hk rfl
    rw [hnew] at hk; cases hk
  have hkeptPublic : ∀ {k k'}, d.lookup k = some k' → k ≠ e.env.newPublicId "public" := by
    rintro k k' hk rfl
    rw [hnewPublic] at hk; cases hk
  constructor
  case share =>
    intro k r hk
    simp only [created, newShare, Function.update_apply] at hk ⊢
    split at hk
    · next heq => cases hk; simp [heq, hp]
    · next hne =>
      obtain ⟨hid, ht, hl, hs⟩ := h.share hk
      exact ⟨hid, ht, by rw [if_neg (hkeptPublic hl), hl], by rw [if_neg hne]; exact hs⟩
  case drawn =>
    intro k r hk
    simp only [created, newShare, Function.update_apply] at hk
    split at hk
    · next heq => exact ⟨e, List.mem_cons_self, heq, heq ▸ hfresh.printable⟩
    · exact (h.cons e).drawn hk
  case lookup =>
    intro publicId k hk
    simp only [created, newShare, Function.update_apply] at hk ⊢
    split at hk
    · next heq => cases hk; exact ⟨by simp [heq], e, List.mem_cons_self, heq⟩
    · obtain ⟨⟨r, hr, hpub⟩, hdrawn⟩ := (h.cons e).lookup hk
      exact ⟨⟨r, by rw [if_neg (hkept hr), hr], hpub⟩, hdrawn⟩
  case snapshot =>
    intro k s hk
    simp only [created, newShare, Function.update_apply] at hk ⊢
    split at hk
    · next heq => exact ⟨_, if_pos heq⟩
    · next hne =>
      obtain ⟨r, hr⟩ := h.snapshot hk
      exact ⟨r, by rw [if_neg hne, hr]⟩
  case session => exact (h.cons e).session
  case failures =>
    intro k f hk
    obtain ⟨r, hr⟩ := h.failures hk
    exact ⟨r, by simp only [created, newShare, Function.update_apply]; rw [if_neg (hkept hr), hr]⟩
  case createReplay =>
    intro s replay hs hop
    simp only [created, newShare, Function.update_apply] at hs ⊢
    split at hs
    · cases hs; simp
    · obtain ⟨r, hr⟩ := h.createReplay hs hop
      exact ⟨r, by rw [if_neg (hkept hr), hr]⟩
  case changeReplay =>
    intro s replay k hs hop
    simp only [created, newShare, Function.update_apply] at hs ⊢
    split at hs
    · next heq =>
      have hcreate : s.operation = createOperation := by rw [heq]; rfl
      rw [hcreate] at hop
      exact absurd hop (not_or.2 ⟨create_ne_rotate k, create_ne_revoke k⟩)
    · obtain ⟨hid, r, hr, howns⟩ := h.changeReplay k hs hop
      exact ⟨hid, r, by rw [if_neg (hkept hr), hr], howns⟩

/-- A change of one share that keeps what names it and whose it is. -/
theorem change_step (h : Ordered π c log d) (e : Entry Snapshot) {k : String} {r r' : Record}
    (hr : d.share k = some r) {p : Principal} (howns : π.mayChange p r) (htenant : r'.tenantId = r.tenantId)
    (hid : r'.view.shareId = r.view.shareId) (hpub : r'.view.publicId = r.view.publicId)
    (hby : r'.view.createdBy = r.view.createdBy) {operation : String}
    (hop : operation = rotateOperation k ∨ operation = revokeOperation k) (requestHash key : String) :
    Ordered π c (e :: log) (d.changed p operation requestHash key k r') := by
  have hshare : ∀ {k' r₁}, (d.changed p operation requestHash key k r').share k' = some r₁ →
      ∃ r₀, d.share k' = some r₀ ∧ r₁.tenantId = r₀.tenantId ∧ r₁.view.shareId = r₀.view.shareId ∧
        r₁.view.publicId = r₀.view.publicId ∧ r₁.view.createdBy = r₀.view.createdBy := by
    intro k' r₁ hk
    simp only [changed, Function.update_apply] at hk
    split at hk
    · next heq => cases hk; exact ⟨r, heq ▸ hr, htenant, hid, hpub, hby⟩
    · exact ⟨r₁, hk, rfl, rfl, rfl, rfl⟩
  have hthere : ∀ {k' r₀}, d.share k' = some r₀ → ∃ r₁,
      (d.changed p operation requestHash key k r').share k' = some r₁ ∧ r₁.tenantId = r₀.tenantId ∧
        r₁.view.publicId = r₀.view.publicId ∧ r₁.view.createdBy = r₀.view.createdBy := by
    intro k' r₀ hk
    simp only [changed, Function.update_apply]
    split
    · next heq =>
      rw [heq, hr] at hk
      cases hk
      exact ⟨r', rfl, htenant, hpub, hby⟩
    · exact ⟨r₀, hk, rfl, rfl, rfl⟩
  constructor
  case share =>
    intro k' r₁ hk
    obtain ⟨r₀, hr₀, ht, hi, hp, -⟩ := hshare hk
    obtain ⟨hi', ht', hl, hs⟩ := h.share hr₀
    exact ⟨hi.trans hi', ht ▸ ht', hp ▸ hl, hs⟩
  case drawn =>
    intro k' r₁ hk
    obtain ⟨r₀, hr₀, -⟩ := hshare hk
    exact (h.cons e).drawn hr₀
  case lookup =>
    intro publicId k' hk
    obtain ⟨⟨r₀, hr₀, hp⟩, hdrawn⟩ := (h.cons e).lookup hk
    obtain ⟨r₁, hr₁, -, hp', -⟩ := hthere hr₀
    exact ⟨⟨r₁, hr₁, hp'.trans hp⟩, hdrawn⟩
  case snapshot =>
    intro k' s hk
    obtain ⟨r₀, hr₀⟩ := h.snapshot hk
    obtain ⟨r₁, hr₁, -⟩ := hthere hr₀
    exact ⟨r₁, hr₁⟩
  case session =>
    intro hash s hs
    exact (h.cons e).session (Option.filter_eq_some_iff.1 hs).1
  case failures =>
    intro k' f hk
    obtain ⟨r₀, hr₀⟩ := h.failures hk
    obtain ⟨r₁, hr₁, -⟩ := hthere hr₀
    exact ⟨r₁, hr₁⟩
  case createReplay =>
    intro s replay hs hcreate
    simp only [changed, Function.update_apply] at hs
    split at hs
    · next heq =>
      have hop' : s.operation = operation := by rw [heq]; rfl
      rw [hcreate] at hop'
      rcases hop with rfl | rfl
      · exact absurd hop' (create_ne_rotate k)
      · exact absurd hop' (create_ne_revoke k)
    · obtain ⟨r₀, hr₀⟩ := h.createReplay hs hcreate
      obtain ⟨r₁, hr₁, -⟩ := hthere hr₀
      exact ⟨r₁, hr₁⟩
  case changeReplay =>
    intro s replay k' hs hop'
    simp only [changed, Function.update_apply] at hs
    split at hs
    · next heq =>
      have hk : k = k' := by
        have heq' : s.operation = operation := by rw [heq]; rfl
        rw [heq'] at hop'
        rcases hop with rfl | rfl <;> rcases hop' with hop' | hop'
        · simpa using hop'
        · exact absurd hop' (rotate_ne_revoke k k')
        · exact absurd hop'.symm (rotate_ne_revoke k' k)
        · simpa using hop'
      cases hs
      subst hk
      obtain ⟨r₁, hr₁, ht, -, hb⟩ := hthere hr
      refine ⟨rfl, r₁, hr₁, ?_⟩
      rw [heq, ht, hb]
      exact howns
    · obtain ⟨hid', r₀, hr₀, howns'⟩ := h.changeReplay k' hs hop'
      obtain ⟨r₁, hr₁, ht, -, hb⟩ := hthere hr₀
      exact ⟨hid', r₁, hr₁, by rw [ht, hb]; exact howns'⟩

/-- Failures of shares that exist. -/
theorem withFailures (h : Ordered π c log d) {failures : String → Option Failures}
    (hf : ∀ {k f}, failures k = some f → ∃ r, d.share k = some r) :
    Ordered π c log { d with failures } :=
  { h with failures := hf }

/-- **Step rule.**  A fresh call keeps the desk in order. -/
theorem step (h : Ordered π c log d) {e : Entry Snapshot} (hfresh : e.Fresh log) {d' : Desk Snapshot}
    (he : Effect π c e.env d e.op e.result d') : Ordered π c (e :: log) d' := by
  have hvalid := hfresh.valid
  generalize hop : e.op = op at he hvalid
  generalize hresult : e.result = result at he
  cases he with
  | raised | recreated | rerotated | rerevoked | opened => exact h.cons e
  | created => exact h.create_step hfresh hvalid ..
  | @rotated p shareId version key r r' secret after hnew hshare howns hactive hversion hsecret hr' hafter =>
    have hkept : Ordered π c (e :: log) after := hafter ▸ h.change_step e hshare howns
      (by rw [hr']) (by rw [hr']; rfl) (by rw [hr']; rfl) (by rw [hr']; rfl) (.inl rfl) ..
    split
    · refine hkept.withFailures fun {k f} hk => ?_
      rw [Function.update_apply] at hk
      split at hk
      · cases hk
      · exact hkept.failures hk
    · exact hkept
  | revoked hnew hshare howns hactive hversion hr' =>
    exact h.change_step e hshare howns (by rw [hr']) (by rw [hr']; rfl) (by rw [hr']; rfl) (by rw [hr']; rfl)
      (.inr rfl) ..
  | guessed hcompared =>
    obtain ⟨-, hshare, -⟩ := compared_eq_ok hcompared
    refine (h.cons e).withFailures fun {k f} hk => ?_
    rw [Function.update_apply] at hk
    split at hk
    · next heq => exact ⟨_, heq ▸ hshare⟩
    · exact h.failures hk
  | exchanged =>
    refine { (h.cons e) with session := ?_, failures := ?_ }
    · intro hash s hs
      simp only [Function.update_apply] at hs
      split at hs
      · next heq => exact ⟨e, List.mem_cons_self, heq⟩
      · exact (h.cons e).session hs
    · intro k f hk
      simp only [Function.update_apply] at hk
      split at hk
      · cases hk
      · exact h.failures hk

/-- The desk of every run is in order. -/
theorem reach {ok : World (Desk Snapshot) Snapshot → Entry Snapshot → Prop} (hok : ∀ w e, ok w e → e.Fresh w.log)
    {w : World (Desk Snapshot) Snapshot} (hw : (deskService π c).Reach ok w) : Ordered π c w.log w.state := by
  refine hw.invariant (I := fun w => Ordered π c w.log w.state) ?_ ?_
  · rintro _ rfl
    exact init
  · rintro w e _ - h he ⟨hresult, rfl⟩
    refine h.step (hok w e he) ?_
    rw [hresult]
    exact call_effect π c e.env w.state e.op

end Desk.Ordered

/-! ## Refinement -/

/-- **Refinement rule.**  If, along the runs of one service, the calls of another agree with its calls in
    related states, then every run of the other is a run of it, with the same log. -/
theorem service_refines {start : σ} {start' : τ}
    {call : Env → ShareOp → EStateM ShareError σ (ShareResponse Snapshot)}
    {call' : Env → ShareOp → EStateM ShareError τ (ShareResponse Snapshot)} {R : σ → τ → Prop}
    {ok : World σ Snapshot → Entry Snapshot → Prop} {ok' : World τ Snapshot → Entry Snapshot → Prop}
    (hstart : R start start')
    (hcall : ∀ s t log, R s t → (service start' call').Reach ok' ⟨t, log⟩ → ∀ e, ok ⟨s, log⟩ e →
      ok' ⟨t, log⟩ e ∧ Agree R ((call e.env e.op).run s) ((call' e.env e.op).run t))
    {w : World σ Snapshot} (hw : (service start call).Reach ok w) :
    ∃ t, (service start' call').Reach ok' ⟨t, w.log⟩ ∧ R w.state t := by
  refine hw.invariant (I := fun w => ∃ t, (service start' call').Reach ok' ⟨t, w.log⟩ ∧ R w.state t) ?_ ?_
  · rintro _ rfl
    exact ⟨start', .init rfl, hstart⟩
  · rintro w e _ - ⟨t, ht, hR⟩ he ⟨hresult, rfl⟩
    obtain ⟨he', heq, hR'⟩ := hcall w.state t w.log hR ht e he
    exact ⟨_, ht.step he' ⟨hresult.trans heq, rfl⟩, hR'⟩

end RoutePilot.Share
