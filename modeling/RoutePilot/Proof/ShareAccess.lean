/-
  Access to shares.

  Every run of the desk keeps its secrets and sessions in order (`Guarded`), so
  the public side of the service lets in only who presents the secret, or a
  recent token, of the current epoch of an active share.  The service in memory
  is the desk, hence `share_access`.
-/
import RoutePilot.Share.Branch
import RoutePilot.Share.Guard
import RoutePilot.Share.Play

namespace RoutePilot.Share

open Lib

variable {Source Snapshot : Type} {π : Policy Source} {c : Ports Source Snapshot}
  {log : List (Entry Snapshot)} {d d' : Desk Snapshot} {e : Entry Snapshot}

variable (π c) in
/-- The invariants of a desk. -/
structure Desk.Guarded (log : List (Entry Snapshot)) (d : Desk Snapshot) : Prop where
  ordered : d.Ordered π c log
  secrets : d.Secrets c log
  sessions : d.Sessions c log

namespace Desk.Guarded

/-- The desk of every run of fresh calls is guarded. -/
theorem reach (hinj : Function.Injective c.hexdigest)
    {ok : World (Desk Snapshot) Snapshot → Entry Snapshot → Prop} (hok : ∀ w e, ok w e → e.Fresh w.log)
    {w : World (Desk Snapshot) Snapshot} (hw : (deskService π c).Reach ok w) : Guarded π c w.log w.state := by
  refine hw.invariant (I := fun w => Guarded π c w.log w.state) ?_ ?_
  · rintro _ rfl
    exact ⟨.init, .init, .init⟩
  · rintro w e _ - h he ⟨hresult, rfl⟩
    have hfresh := hok w e he
    have heffect := call_effect π c e.env w.state e.op
    rw [← hresult] at heffect
    exact ⟨h.ordered.step hfresh heffect, h.secrets.step h.ordered hfresh heffect,
      h.sessions.step h.secrets h.ordered hinj hfresh heffect⟩

/-- An exchange that succeeds is one of the current secret. -/
theorem exchange_granted (h : Guarded π c log d) (hinj : Function.Injective c.hexdigest)
    (he : Effect π c e.env d e.op e.result d') {publicId secret : String}
    (hop : e.op = .exchange publicId secret) (hok : e.Succeeds) :
    ∃ k r, d.lookup publicId = some k ∧ d.share k = some r ∧ r.view.status = .active ∧
      SecretOf c k r.view.capabilityEpoch secret ∧ ∃ y ∈ log, y.Grants k r.view.capabilityEpoch secret := by
  obtain ⟨res, hres⟩ := hok
  rw [hop, hres] at he
  generalize hresult : (Except.ok res : Except ShareError (ShareResponse Snapshot)) = result at he
  cases he with
  | raised => cases hresult
  | guessed => cases hresult
  | @exchanged publicId secret k r failures hcompared hright =>
    obtain ⟨hk, hr, hactive, -⟩ := compared_eq_ok hcompared
    obtain ⟨s, hhash, hof, hgrant⟩ := h.secrets.current hr hactive
    have hpub : r.view.publicId = publicId := by
      obtain ⟨⟨r', hr', hpub⟩, -⟩ := h.ordered.lookup hk
      rw [hr] at hr'
      cases hr'
      exact hpub
    rw [hhash, hpub] at hright
    cases capabilityHash_inj hinj hright
    exact ⟨k, r, hk, hr, hactive, hof, hgrant⟩

/-- A snapshot that is shown is opened by a session of the share. -/
theorem snapshot_opened (he : Effect π c e.env d e.op e.result d') {publicId token : String}
    (hop : e.op = .publicSnapshot publicId token) (hok : e.Succeeds) :
    ∃ s r, d.session (sessionHash c token) = some s ∧ d.lookup publicId = some s.shareId ∧
      e.env.now < s.expiresAt ∧ d.share s.shareId = some r ∧ s.capabilityEpoch = r.view.capabilityEpoch ∧
      r.view.status = .active := by
  obtain ⟨res, hres⟩ := hok
  rw [hop, hres] at he
  generalize hresult : (Except.ok res : Except ShareError (ShareResponse Snapshot)) = result at he
  cases he with
  | raised => cases hresult
  | @opened publicId token session snapshot hopened =>
    simp only [Desk.opened, Option.bind_eq_bind, Option.bind_eq_some_iff] at hopened
    obtain ⟨s, hs, r, hr, -⟩ := hopened
    obtain ⟨hsession, hconds⟩ := Option.filter_eq_some_iff.1 hs
    obtain ⟨hshare, hconds'⟩ := Option.filter_eq_some_iff.1 hr
    simp only [decide_eq_true_eq] at hconds hconds'
    exact ⟨s, r, hsession, hconds.1, hconds.2, hshare, hconds'.1, hconds'.2⟩

/-- An epoch has one secret. -/
theorem granted_unique (h : Guarded π c log d) {k secret secret' : String} {epoch : ℕ} {y y' : Entry Snapshot}
    (hy : y ∈ log) (hy' : y' ∈ log) (hg : y.Grants k epoch secret) (hg' : y'.Grants k epoch secret') :
    secret = secret' := by
  have hall := List.Pairwise.forall_of_forall_of_flip
    (R := fun y y' : Entry Snapshot => ∀ s s', y.Grants k epoch s → y'.Grants k epoch s' → s = s') ?_
    (h.secrets.epochs.imp ?_) (h.secrets.epochs.imp ?_)
  · exact hall hy hy' secret secret' hg hg'
  · rintro x - s s' ⟨m, hm, -, -, -, hs⟩ ⟨m', hm', -, -, -, hs'⟩
    rw [hm] at hm'
    cases hm'
    rw [hs] at hs'
    exact Option.some.inj hs'
  · rintro x x' hlt s s' ⟨m, hm, hnew, hid, hepoch, -⟩ ⟨m', hm', -, hid', hepoch', -⟩
    have := hlt m m' hm hm' hnew (hid.trans hid'.symm)
    omega
  · rintro x x' hlt s s' ⟨m, hm, -, hid, hepoch, -⟩ ⟨m', hm', hnew, hid', hepoch', -⟩
    have := hlt m' m hm' hm hnew (hid'.trans hid.symm)
    omega

/-- What was issued before a change of the share is of an epoch that is over. -/
theorem fenced_epoch (h : Guarded π c log d) {k secret : String} {x : Entry Snapshot} (hf : Fenced log k x)
    (hx : x.Issues k secret) :
    ∃ r epoch, d.share k = some r ∧ epoch < r.view.capabilityEpoch ∧ SecretOf c k epoch secret := by
  obtain ⟨m, hm, hid, hsecret⟩ := hx
  have hmem := hf.mem
  obtain ⟨later, f, earlier, rfl, ⟨hop, mf, hmf, hnew⟩, hearlier⟩ := hf
  have hfmem : f ∈ later ++ f :: earlier := List.mem_append_right _ List.mem_cons_self
  have hfid := h.secrets.named f hfmem mf k hmf hop
  have hlt : m.share.capabilityEpoch < mf.share.capabilityEpoch :=
    (List.pairwise_cons.1 (List.pairwise_append.1 h.secrets.epochs).2.1).1 x hearlier mf m hmf hm hnew
      (hfid.trans hid.symm)
  obtain ⟨r, hr, hle, -⟩ := h.secrets.issued f hfmem mf hmf
  obtain ⟨-, -, -, hof⟩ := h.secrets.issued x hmem m hm
  obtain ⟨epoch, hepoch, hof⟩ := hof secret hsecret
  rw [hfid] at hr
  rw [hid] at hof
  exact ⟨r, epoch, hr, by omega, hof⟩

/-- **Step rule.**  Only who may get in gets in. -/
theorem allowed (h : Guarded π c log d) (hinj : Function.Injective c.hexdigest)
    (hinj' : Function.Injective c.base64url) (hlater : e.Later log)
    (he : Effect π c e.env d e.op e.result d') : Allowed d.shown log e := by
  constructor
  case snapshot =>
    intro publicId token hop hok
    obtain ⟨s, r, hs, hk, hnow, hr, hepoch, hactive⟩ := snapshot_opened he hop hok
    obtain ⟨x, hx, publicId', secret, hex, hhash, hk', hexp, y, hy, hg⟩ := h.sessions.opened hs
    have htoken := sessionHash_inj hinj hhash
    subst htoken
    have hsame : publicId' = publicId := by
      obtain ⟨⟨r₁, hr₁, rfl⟩, -⟩ := h.ordered.lookup hk
      obtain ⟨⟨r₂, hr₂, rfl⟩, -⟩ := h.ordered.lookup hk'
      rw [hr₁] at hr₂
      cases hr₂
      rfl
    subst hsame
    refine ⟨s.shareId, r.view, hk, by simp [shown, hr], hactive, x, hx, secret, hex, hlater x hx, ?_, y, hy, ?_⟩
    · rw [hexp] at hnow
      exact hnow
    · rw [← hepoch]
      exact hg
  case exchange =>
    intro publicId secret hop hok
    obtain ⟨k, r, hk, hr, hactive, -, hg⟩ := h.exchange_granted hinj he hop hok
    exact ⟨k, r.view, hk, by simp [shown, hr], hactive, hg⟩
  case unique =>
    intro k epoch secret secret' y hy y' hy' hg hg'
    exact h.granted_unique hy hy' hg hg'
  case fencedSecret =>
    intro k x secret publicId hf hx hop hok
    obtain ⟨r, epoch, hr, hlt, hof⟩ := h.fenced_epoch hf hx
    obtain ⟨k', r', -, hr', -, hof', -⟩ := h.exchange_granted hinj he hop hok
    obtain ⟨_, -, -, hk⟩ := h.ordered.drawn hr
    obtain ⟨_, -, -, hk'⟩ := h.ordered.drawn hr'
    obtain ⟨rfl, hepoch⟩ := hof.inj hinj' hof' hk hk'
    rw [hr] at hr'
    cases hr'
    omega
  case fencedToken =>
    intro k x publicId secret token publicId' hf hx hk hop hok
    obtain ⟨s, -, hs, -⟩ := snapshot_opened he hop hok
    rw [h.sessions.fenced hf hx hk] at hs
    cases hs

end Desk.Guarded

/-- How a call changes the shares. -/
theorem Desk.Effect.evolved (ho : d.Ordered π c log) (hfresh : e.Fresh log)
    (he : Effect π c e.env d e.op e.result d') : Evolved d.shown d'.shown := by
  intro k v hv
  obtain ⟨r, hr, rfl⟩ := Option.map_eq_some_iff.1 hv
  have hsame : d'.share = d.share → ∃ v', d'.shown.share k = some v' ∧
      r.view.capabilityEpoch ≤ v'.capabilityEpoch ∧ (r.view.status = .revoked → v'.status = .revoked) := by
    intro heq
    exact ⟨r.view, by simp [shown, heq, hr], le_rfl, id⟩
  have hchanged : ∀ {k' r₀} (r' : Record), d'.share = Function.update d.share k' (some r') → d.share k' = some r₀ →
      r₀.view.status = .active → r'.view.capabilityEpoch = r₀.view.capabilityEpoch + 1 →
      ∃ v', d'.shown.share k = some v' ∧ r.view.capabilityEpoch ≤ v'.capabilityEpoch ∧
        (r.view.status = .revoked → v'.status = .revoked) := by
    intro k' r₀ r' heq hr₀ hactive hepoch
    by_cases hk : k = k'
    · subst hk
      rw [hr] at hr₀
      cases hr₀
      refine ⟨r'.view, by simp [shown, heq], by omega, fun hrev => ?_⟩
      rw [hactive] at hrev
      cases hrev
    · exact ⟨r.view, by simp [shown, heq, hk, hr], le_rfl, id⟩
  generalize e.op = op at he
  generalize e.result = result at he
  cases he with
  | raised | recreated | rerotated | rerevoked | guessed | exchanged | opened => exact hsame rfl
  | created =>
    refine ⟨r.view, ?_, le_rfl, id⟩
    have hne : k ≠ e.env.newPublicId "share" := by
      rintro rfl
      exact nomatch (ho.share_new hfresh).symm.trans hr
    simp [shown, Desk.created, newShare, hne, hr]
  | @rotated p k' version key r₀ r' secret after hnew hshare howns hactive hversion hsecret hr' hafter =>
    refine hchanged r' ?_ hshare hactive (by rw [hr']; rfl)
    split <;> rw [hafter] <;> rfl
  | @revoked p k' version key r₀ r' hnew hshare howns hactive hversion hr' =>
    exact hchanged r' rfl hshare hactive (by rw [hr']; rfl)

/-! ## In memory -/

/-- **Access to shares.**  In every state of a run in memory, the next call gets through the public side only
    as allowed; and in every later state shares have evolved, never back. -/
theorem share_access {Source Snapshot : Type} {c : Ports Source Snapshot}
    (hexdigest : Function.Injective c.hexdigest) (base64url : Function.Injective c.base64url)
    {w : World (Memory Snapshot) Snapshot} (hw : (memoryService c).Reach timedCalls w) :
    (∀ e w', timedCalls w e → (memoryService c).step w e w' → Allowed w.state.shown w.log e) ∧
      ∀ w', (memoryService c).Steps timedCalls w w' → Evolved w.state.shown w'.state.shown := by
  have hdesk : ∀ {w : World (Memory Snapshot) Snapshot}, (memoryService c).Reach timedCalls w →
      ∃ d, w.state.Holds d ∧ d.Guarded .memory c w.log := by
    intro w hw
    obtain ⟨d, hd, h⟩ : ∃ d, (deskService (Branch.memory c).policy c).Reach timedCalls ⟨d, w.log⟩ ∧
        (Branch.memory c).Holds w.state d :=
      (Branch.memory c).refines (fun _ _ _ _ he => he) (fun _ _ he => he.1) hw
    exact ⟨d, h, .reach hexdigest (fun _ _ he => he.1) hd⟩
  have hstep : ∀ {w w' : World (Memory Snapshot) Snapshot} {e}, (memoryService c).Reach timedCalls w →
      timedCalls w e → (memoryService c).step w e w' →
        Allowed w.state.shown w.log e ∧ Evolved w.state.shown w'.state.shown := by
    rintro w _ e hw he ⟨hresult, rfl⟩
    obtain ⟨d, h, hguarded⟩ := hdesk hw
    obtain ⟨hagree, hholds⟩ := Memory.call_agrees h hguarded.ordered e.env e.op
    have heffect := Desk.call_effect .memory c e.env d e.op
    rw [← hagree, ← hresult] at heffect
    rw [h.shown, hholds.shown]
    exact ⟨hguarded.allowed hexdigest base64url he.2 heffect, heffect.evolved hguarded.ordered he.1⟩
  refine ⟨fun e w' he h => (hstep hw he h).1, fun w' hs => ?_⟩
  exact Lts.Steps.relate (R := fun w w' => Evolved w.state.shown w'.state.shown) (fun _ => .refl _)
    (fun _ _ _ => .trans) (fun _ _ _ hw he h => (hstep hw he h).2) hw hs

namespace Sample

/-- A share is created and its secret exchanged. -/
def shared : World (Memory String) String :=
  .play {} (Memory.call ports) [(env 0 0, create "key-1"), (env 1 1, .exchange "public_0" (secret "key-1" 0))]

end Sample

open Sample in
theorem share_access_shared :
    (shared.entry (Memory.call ports) (env 2 2, .publicSnapshot "public_0" "token_1")).Succeeds ∧
      Allowed shared.state.shown shared.log
        (shared.entry (Memory.call ports) (env 2 2, .publicSnapshot "public_0" "token_1")) :=
  ⟨⟨.snapshot ⟨"public_0", "snapshot"⟩, by decide +kernel⟩,
    (share_access (c := ports) Function.injective_id Function.injective_id
      (reach_play (by decide +kernel))).1 _ _ (by decide +kernel) (step_next shared _)⟩

end RoutePilot.Share
