/-
  Secrets that are handed out.

  A call that creates or rotates a share hands out the secret of the epoch it
  begins, and a repeated rotation does so only while that epoch lasts.  A
  repeated creation derives the secret of the first epoch again, whatever became
  of the share: `handed_out_works` says that this is the only case in which a
  secret that was just handed out does not work.
-/
import RoutePilot.Proof.ShareAccess

namespace RoutePilot.Share

open Lib

variable {Source Snapshot : Type} {π : Policy Source} {c : Ports Source Snapshot}
  {log : List (Entry Snapshot)} {d d' : Desk Snapshot} {e : Entry Snapshot}

variable (c) in
/-- What repeated calls find. -/
structure Desk.Replays (d : Desk Snapshot) : Prop where
  positive : ∀ {k r}, d.share k = some r → 1 ≤ r.view.capabilityEpoch
  /-- the secret of a creation is that of the first epoch -/
  created : ∀ {p key replay r}, d.replay (scope p createOperation key) = some replay →
    d.share replay.shareId = some r → replay.epoch = 1 ∧ (r.view.capabilityEpoch = 1 →
      r.secretHash = capabilityHash c r.view.publicId
        (deriveSecret c createOperation p key replay.requestHash replay.shareId 1))
  /-- the secret of a rotation is that of the epoch it began, until the share changes again -/
  rotated : ∀ {p k key replay r}, d.replay (scope p (rotateOperation k) key) = some replay →
    d.share k = some r → replay.version ≤ r.view.version ∧ (replay.version = r.view.version →
      r.view.status = .active ∧ r.secretHash = capabilityHash c r.view.publicId
        (deriveSecret c "share.rotate" p key replay.requestHash k replay.epoch))

/-- A secret depends on the tenant and the user of a principal only. -/
theorem deriveSecret_congr {p p' : Principal} {operation operation' key key' : String}
    (h : scope p operation key = scope p' operation' key') (o hash k : String) (epoch : ℕ) :
    deriveSecret c o p key hash k epoch = deriveSecret c o p' key' hash k epoch := by
  have htenant : p.tenantId = p'.tenantId := congrArg Scope.tenantId h
  have huser : p.userId = p'.userId := congrArg Scope.actorId h
  have hkey : key = key' := congrArg Scope.idempotencyKey h
  unfold deriveSecret secretMessage
  rw [htenant, huser, hkey]

namespace Desk.Replays

theorem init : Replays c ({} : Desk Snapshot) := by
  constructor <;> simp

theorem congr (h : Replays c d) (hshare : d'.share = d.share) (hreplay : d'.replay = d.replay) : Replays c d' where
  positive := by rw [hshare]; exact h.positive
  created := by rw [hshare, hreplay]; exact h.created
  rotated := by rw [hshare, hreplay]; exact h.rotated

/-- **Step rule.** -/
theorem step (h : Replays c d) (ho : d.Ordered π c log) (hfresh : e.Fresh log)
    (he : Effect π c e.env d e.op e.result d') : Replays c d' := by
  generalize e.op = op at he
  generalize e.result = result at he
  cases he with
  | raised | recreated | rerotated | rerevoked | guessed | exchanged | opened => exact h.congr rfl rfl
  | @created p tripId request key src view secret hsource hnew hconfirms hview hsecret =>
    have hkept : ∀ {k r}, d.share k = some r → k ≠ e.env.newPublicId "share" := by
      rintro k r hk rfl
      cases (ho.share_new hfresh).symm.trans hk
    constructor
    · intro k r hr
      simp only [Desk.created, newShare, Function.update_apply] at hr
      split at hr
      · cases hr
        exact le_rfl
      · exact h.positive hr
    · intro p' key' replay r hs hr
      simp only [Desk.created, newShare, Function.update_apply] at hs hr
      split at hs
      · next heq =>
        cases hs
        rw [if_pos rfl] at hr
        cases hr
        exact ⟨rfl, fun _ => by rw [deriveSecret_congr heq]⟩
      · obtain ⟨r₀, hr₀⟩ := ho.createReplay hs rfl
        rw [if_neg (hkept hr₀)] at hr
        exact h.created hs hr
    · intro p' k key' replay r hs hr
      simp only [Desk.created, newShare, Function.update_apply] at hs hr
      split at hs
      · next heq => exact absurd (congrArg Scope.operation heq).symm (create_ne_rotate k)
      · obtain ⟨-, r₀, hr₀, -⟩ := ho.changeReplay k hs (.inl rfl)
        rw [if_neg (hkept hr₀)] at hr
        exact h.rotated hs hr
  | @rotated p k version key r r' secret after hnew hshare howns hactive hversion hsecret hr' hafter =>
    have hepoch : r'.view.capabilityEpoch = r.view.capabilityEpoch + 1 := by rw [hr']; rfl
    have hver : r'.view.version = r.view.version + 1 := by rw [hr']; rfl
    have hpos := h.positive hshare
    have hkept : Replays c after := by
      rw [hafter]
      constructor
      · intro k' r₁ hr₁
        simp only [changed, Function.update_apply] at hr₁
        split at hr₁
        · cases hr₁
          omega
        · exact h.positive hr₁
      · intro p' key' replay r₁ hs hr₁
        simp only [changed, Function.update_apply] at hs hr₁
        split at hs
        · next heq => exact absurd (congrArg Scope.operation heq) (create_ne_rotate k)
        · split at hr₁
          · next heq =>
            cases hr₁
            rw [heq]
            exact ⟨(h.created hs (heq ▸ hshare)).1, fun hone => by omega⟩
          · exact h.created hs hr₁
      · intro p' k' key' replay r₁ hs hr₁
        simp only [changed, Function.update_apply] at hs hr₁
        split at hs
        · next heq =>
          have hk : k' = k := rotateOperation_inj.1 (congrArg Scope.operation heq)
          subst hk
          cases hs
          rw [if_pos rfl] at hr₁
          cases hr₁
          refine ⟨le_rfl, fun _ => ⟨by rw [hr']; exact hactive, ?_⟩⟩
          rw [deriveSecret_congr heq, hepoch, ← hsecret, hr']
          rfl
        · split at hr₁
          · next heq =>
            subst heq
            cases hr₁
            have hle := (h.rotated hs hshare).1
            exact ⟨by omega, fun heq => by omega⟩
          · exact h.rotated hs hr₁
    split
    · exact hkept.congr rfl rfl
    · exact hkept
  | @revoked p k version key r r' hnew hshare howns hactive hversion hr' =>
    have hepoch : r'.view.capabilityEpoch = r.view.capabilityEpoch + 1 := by rw [hr']; rfl
    have hver : r'.view.version = r.view.version + 1 := by rw [hr']; rfl
    have hpos := h.positive hshare
    constructor
    · intro k' r₁ hr₁
      simp only [changed, Function.update_apply] at hr₁
      split at hr₁
      · cases hr₁
        omega
      · exact h.positive hr₁
    · intro p' key' replay r₁ hs hr₁
      simp only [changed, Function.update_apply] at hs hr₁
      split at hs
      · next heq => exact absurd (congrArg Scope.operation heq) (create_ne_revoke k)
      · split at hr₁
        · next heq =>
          cases hr₁
          rw [heq]
          exact ⟨(h.created hs (heq ▸ hshare)).1, fun hone => by omega⟩
        · exact h.created hs hr₁
    · intro p' k' key' replay r₁ hs hr₁
      simp only [changed, Function.update_apply] at hs hr₁
      split at hs
      · next heq => exact absurd (congrArg Scope.operation heq) (rotate_ne_revoke k' k)
      · split at hr₁
        · next heq =>
          subst heq
          cases hr₁
          have hle := (h.rotated hs hshare).1
          exact ⟨by omega, fun heq => by omega⟩
        · exact h.rotated hs hr₁

/-- The replays of every run. -/
theorem reach {ok : World (Desk Snapshot) Snapshot → Entry Snapshot → Prop} (hok : ∀ w e, ok w e → e.Fresh w.log)
    {w : World (Desk Snapshot) Snapshot} (hw : (deskService π c).Reach ok w) : Replays c w.state := by
  refine hw.invariant (I := fun w => Replays c w.state) ?_ ?_
  · rintro _ rfl
    exact init
  · rintro w e _ hw h he ⟨hresult, rfl⟩
    have heffect := call_effect π c e.env w.state e.op
    rw [← hresult] at heffect
    exact h.step (Ordered.reach hok hw) (hok w e he) heffect

end Desk.Replays

/-! ## The next exchange -/

namespace Desk

/-- An exchange of the current secret of an active share that is not blocked. -/
theorem exchange_ok {env : Env} {publicId k secret : String} {r : Record} (hk : d.lookup publicId = some k)
    (hr : d.share k = some r) (hactive : r.view.status = .active) (hfree : ¬ d.shown.Blocked k env.now)
    (hsecret : r.secretHash = capabilityHash c publicId secret) :
    ∃ res, outcome ((call π c env (.exchange publicId secret)).run d) = .ok res := by
  have hfilter : (some r).filter (·.view.status == .active) = some r := by simp [Option.filter, hactive]
  have hnone : ((d.failures k).getD ⟨0, env.now, none⟩).blockedUntil.filter (env.now < ·) = none := by
    rw [Option.filter_eq_none_iff]
    intro u hu hlt
    cases hf : d.failures k with
    | none =>
      rw [hf] at hu
      cases hu
    | some f =>
      rw [hf] at hu
      exact hfree ⟨f, hf, u, hu, by simpa using hlt⟩
  have hcompared : d.compared env.now publicId = .ok (k, r, (d.failures k).getD ⟨0, env.now, none⟩) := by
    simp only [compared, hk, hr, hfilter, hnone]
  refine ⟨.exchange ⟨env.sessionToken, sessionExpiry env.now⟩, ?_⟩
  simp only [call, outcome_map, exchange, EStateM.run_bind, run_ask, hcompared, hsecret, ne_eq,
    not_true_eq_false, if_false]
  rfl

/-- An exchange that succeeds found the share active, and the secret its own. -/
theorem exchange_inv {env : Env} {publicId secret : String} {res : ShareResponse Snapshot}
    (h : outcome ((call π c env (.exchange publicId secret)).run d) = .ok res) :
    ∃ k r, d.lookup publicId = some k ∧ d.share k = some r ∧ r.view.status = .active ∧
      r.secretHash = capabilityHash c publicId secret := by
  have he := call_effect π c env d (.exchange publicId secret)
  rw [h] at he
  generalize hresult : (Except.ok res : Except ShareError (ShareResponse Snapshot)) = result at he
  generalize final _ = d' at he
  cases he with
  | raised => cases hresult
  | guessed => cases hresult
  | exchanged hcompared hright =>
    obtain ⟨hk, hr, hactive, -⟩ := compared_eq_ok hcompared
    exact ⟨_, _, hk, hr, hactive, hright.symm⟩

end Desk

theorem exists_longer {α : Type} (f : α → ℕ) (l : List α) : ∃ n, ∀ x ∈ l, f x < n := by
  induction l with
  | nil => exact ⟨0, nofun⟩
  | cons a l ih =>
    obtain ⟨n, hn⟩ := ih
    refine ⟨max n (f a + 1), ?_⟩
    rintro x (- | ⟨-, hx⟩)
    · omega
    · have := hn x hx
      omega

/-- Some call is fresh, at any time. -/
theorem exists_fresh (log : List (Entry Snapshot)) {op : ShareOp} (hop : op.Valid) (now : Time) :
    ∃ env : Env, env.now = now ∧ ∀ result, (⟨env, op, result⟩ : Entry Snapshot).Fresh log := by
  obtain ⟨n, hn⟩ := exists_longer (fun x : Entry Snapshot => (x.env.newPublicId "share").length +
    (x.env.newPublicId "public").length + x.env.sessionToken.length) log
  have hlen : (String.ofList (List.replicate n 'a')).length = n := by simp
  refine ⟨{ now, projectedAt := now, platform := Platform.ofStore default
            token := fun _ => String.ofList (List.replicate n 'a')
            sessionToken := String.ofList (List.replicate n 'a') }, rfl, fun result => ?_⟩
  constructor
  case valid => exact hop
  case share =>
    intro x hx heq
    have hx := hn x hx
    simp only [heq] at hx
    simp only [RoutePilot.Env.newPublicId, String.length_append, hlen] at hx
    omega
  case public_ =>
    intro x hx heq
    have hx := hn x hx
    simp only [heq] at hx
    simp only [RoutePilot.Env.newPublicId, String.length_append, hlen] at hx
    omega
  case token =>
    intro x hx heq
    have hx := hn x hx
    rw [heq, hlen] at hx
    omega
  case printable =>
    simp [RoutePilot.Env.newPublicId, String.toList_append]

/-! ## What is handed out -/

/-- What a secret that is handed out is worth. -/
theorem Desk.Effect.handed (hinj : Function.Injective c.hexdigest) (hinj' : Function.Injective c.base64url)
    (h : d.Guarded π c log) (hr : d.Replays c)
    (he : Effect π c e.env d e.op e.result d') {m : ShareMutationResponse} {secret : String}
    (hm : e.mutation = some m) (hs : m.capabilitySecret = some secret) :
    ∃ r, d'.lookup m.share.publicId = some m.share.shareId ∧ d'.share m.share.shareId = some r ∧
      ((r.view.status = .active ∧ r.secretHash = capabilityHash c m.share.publicId secret) ↔
        ¬ d.shown.Outdated e.op) := by
  have hplain : ∀ {op : ShareOp}, (∀ p tripId request key, op ≠ .create p tripId request key) →
    ¬ d.shown.Outdated op := by
    rintro op hne ⟨p, tripId, request, key, -, -, rfl, -⟩
    exact hne p tripId request key rfl
  rw [Desk.Secrets.mutation_eq_some] at hm
  generalize e.op = op at he ⊢
  generalize e.result = result at he hm
  cases he with
  | raised | guessed | exchanged | opened => cases hm
  | revoked => cases hm; cases hs
  | rerevoked => cases hm; cases hs
  | @created p tripId request key src view secret' hsource hnew hconfirms hview hsecret =>
    cases hm
    cases hs
    subst hview
    refine ⟨⟨p.tenantId, newShare c e.env p tripId src,
      capabilityHash c (newShare c e.env p tripId src).publicId secret⟩, ?_, ?_, ?_⟩
    · simp [Desk.created]
    · simp [Desk.created, hsecret]
    · refine iff_of_true ⟨rfl, rfl⟩ ?_
      rintro ⟨p', tripId', request', key', replay, v, heq, hreplay, -⟩
      cases heq
      cases hnew.symm.trans hreplay
  | @recreated p tripId request key replay r secret' hreplay hhash hshare hsecret =>
    cases hm
    cases hs
    obtain ⟨hid, -, hlookup, -⟩ := h.ordered.share hshare
    obtain ⟨hone, hfirst⟩ := hr.created hreplay hshare
    have houtdated : d.shown.Outdated (.create p tripId request key) ↔
        ¬ (r.view.status = .active ∧ r.view.capabilityEpoch = 1) := by
      constructor
      · rintro ⟨p', tripId', request', key', replay', v, heq, hreplay', hv, hnot⟩
        cases heq
        cases hreplay.symm.trans hreplay'
        rw [show d.shown.share replay.shareId = some r.view by simp [shown, hshare]] at hv
        cases hv
        exact hnot
      · exact fun hnot => ⟨p, tripId, request, key, replay, r.view, rfl, hreplay, by simp [shown, hshare], hnot⟩
    rw [hone] at hsecret
    refine ⟨r, by rw [hid]; exact hlookup, by rw [hid]; exact hshare, ?_⟩
    rw [houtdated, not_not]
    refine and_congr_right fun hactive => ⟨fun heq => ?_, fun hepoch => ?_⟩
    · obtain ⟨s, hs, hof, -⟩ := h.secrets.current hshare hactive
      cases capabilityHash_inj hinj (hs.symm.trans heq)
      obtain ⟨-, -, -, hk⟩ := h.ordered.drawn hshare
      exact (hof.inj hinj' ⟨_, _, _, _, hsecret⟩ hk hk).2
    · rw [hfirst hepoch, hsecret]
  | @rotated p k version key r r' secret' after hnew hshare howns hactive hversion hsecret hr' hafter =>
    cases hm
    cases hs
    obtain ⟨hid, -, hlookup, -⟩ := h.ordered.share hshare
    have hid' : r'.view.shareId = k := by rw [hr']; exact hid
    have hkept : after.lookup r'.view.publicId = some k ∧ after.share k = some r' := by
      rw [hafter, hr']
      exact ⟨hlookup, Function.update_self ..⟩
    refine ⟨r', ?_, ?_, iff_of_true ⟨by rw [hr']; exact hactive, by rw [hr']; rfl⟩ (hplain (by simp))⟩
    · rw [hid']
      split <;> exact hkept.1
    · rw [hid']
      split <;> exact hkept.2
  | @rerotated p k version key replay r secret' hreplay hhash hshare hsecret =>
    cases hm
    obtain ⟨hid, -, hlookup, -⟩ := h.ordered.share hshare
    simp only at hs
    split at hs
    · next hcurrent =>
      cases hs
      obtain ⟨hactive, hhash'⟩ := (hr.rotated hreplay hshare).2 hcurrent.1.symm
      refine ⟨r, by rw [hid]; exact hlookup, by rw [hid]; exact hshare, iff_of_true ⟨hactive, ?_⟩ (hplain (by simp))⟩
      rw [hhash', hsecret]
    · cases hs

/-! ## Both branches -/

section
variable {σ : Type} (b : Branch σ c)

/-- A secret works if the share is active and has it. -/
theorem Branch.works_iff {s : σ} (h : b.Holds s d) (ho : d.Ordered b.policy c log) {v : ShareView} {secret : String}
    {r : Record} (hk : d.lookup v.publicId = some v.shareId) (hr : d.share v.shareId = some r) :
    Works b.service b.shown ⟨s, log⟩ v secret ↔
      r.view.status = .active ∧ r.secretHash = capabilityHash c v.publicId secret := by
  constructor
  · intro hworks
    -- an exchange after the end of any block
    obtain ⟨now, hnow⟩ : ∃ now, ¬ d.shown.Blocked v.shareId now := by
      refine ⟨((d.failures v.shareId).bind (·.blockedUntil)).getD 0, ?_⟩
      rintro ⟨f, hf, u, hu, hlt⟩
      rw [show d.failures v.shareId = some f from hf, Option.bind_some, Option.mem_def.1 hu] at hlt
      exact lt_irrefl _ hlt
    obtain ⟨env, rfl, hfresh⟩ := exists_fresh log (show (ShareOp.exchange v.publicId secret).Valid from trivial) now
    have hcall := (b.agrees h ho (hfresh (.ok (.exchange ⟨"", 0⟩)))).1
    obtain ⟨res, hres⟩ := hworks
      ⟨env, .exchange v.publicId secret, outcome ((b.call env (.exchange v.publicId secret)).run s)⟩ _ (hfresh _)
      ⟨rfl, rfl⟩ rfl (by rw [b.shows h ho]; exact hnow)
    obtain ⟨k, r', hk', hr', hactive, hsecret⟩ := Desk.exchange_inv (hcall.symm.trans hres)
    rw [hk] at hk'
    cases hk'
    rw [hr] at hr'
    cases hr'
    exact ⟨hactive, hsecret⟩
  · rintro ⟨hactive, hsecret⟩ e w' he ⟨hresult, -⟩ hop hfree
    rw [b.shows h ho] at hfree
    obtain ⟨res, hres⟩ := Desk.exchange_ok (π := b.policy) hk hr hactive hfree hsecret
    refine ⟨res, ?_⟩
    rw [hresult, (b.agrees h ho he).1, hop]
    exact hres

/-- A secret that a call hands out works, unless the call repeats an outdated creation. -/
theorem Branch.handed_out (hinj : Function.Injective c.hexdigest) (hinj' : Function.Injective c.base64url)
    {w w' : World σ Snapshot} (hw : b.service.Reach freshCalls w) (he : freshCalls w e)
    (hstep : b.service.step w e w') {m : ShareMutationResponse} {secret : String} (hm : e.mutation = some m)
    (hs : m.capabilitySecret = some secret) :
    Works b.service b.shown w' m.share secret ↔ ¬ (b.shown w.state).Outdated e.op := by
  obtain ⟨hresult, rfl⟩ := hstep
  obtain ⟨d, hd, h⟩ : ∃ d, (deskService b.policy c).Reach freshCalls ⟨d, w.log⟩ ∧ b.Holds w.state d :=
    b.refines (fun _ _ _ _ he => he) (fun _ _ he => he) hw
  have hguarded : d.Guarded b.policy c w.log := .reach hinj (fun _ _ he => he) hd
  have hreplays : d.Replays c := .reach (fun _ _ he => he) hd
  obtain ⟨hagree, hholds⟩ := b.agrees h hguarded.ordered he
  have heffect := Desk.call_effect b.policy c e.env d e.op
  rw [← hagree, ← hresult] at heffect
  obtain ⟨r, hk, hr, hiff⟩ := heffect.handed hinj hinj' hguarded hreplays hm hs
  rw [b.works_iff hholds (hguarded.ordered.step he heffect) hk hr, hiff, b.shows h hguarded.ordered]

end

/-- **Secrets that are handed out.**  In both branches, a secret that a call returns works, except after a
    repeated creation of a share that was rotated or revoked since. -/
theorem handed_out_works {Source Snapshot : Type} {c : Ports Source Snapshot}
    (hexdigest : Function.Injective c.hexdigest) (base64url : Function.Injective c.base64url)
    (hround : ∀ s, c.shareSnapshot (c.dump s) = some s) :
    (∀ w e w' m secret, (memoryService c).Reach freshCalls w → freshCalls w e → (memoryService c).step w e w' →
      e.mutation = some m → m.capabilitySecret = some secret →
        (Works (memoryService c) Memory.shown w' m.share secret ↔ ¬ w.state.shown.Outdated e.op)) ∧
    ∀ w e w' m secret, (postgresService c).Reach freshCalls w → freshCalls w e →
      (postgresService c).step w e w' → e.mutation = some m → m.capabilitySecret = some secret →
        (Works (postgresService c) Tables.shown w' m.share secret ↔ ¬ w.state.shown.Outdated e.op) :=
  ⟨fun _ _ _ _ _ hw he hstep hm hs => (Branch.memory c).handed_out hexdigest base64url hw he hstep hm hs,
    fun _ _ _ _ _ hw he hstep hm hs =>
      (Branch.postgres hexdigest hround).handed_out hexdigest base64url hw he hstep hm hs⟩

namespace Sample

section
variable {σ : Type} (start : σ) (call : Env → ShareOp → EStateM ShareError σ (ShareResponse String))

/-- A share is created and rotated. -/
def rotated : World σ String :=
  .play start call [(env 0 0, create "key-1"), (env 1 1, .rotate owner "share_0" 1 "key-2")]

/-- And its creation is repeated. -/
def repeated : World σ String := (rotated start call).next call (env 2 2, create "key-1")

/-- The exchange of what that handed out. -/
def staleExchange : Env × ShareOp := (env 3 3, .exchange "public_0" (secret "key-1" 0))

/-- The share after the rotation, with the first secret. -/
def stale : ShareMutationResponse where
  share := (newShare ports (env 0 0) owner "trip" "snapshot").rotated (minutes 1)
  capabilitySecret := some (secret "key-1" 0)
  replayed := true

variable {start call}

/-- Where the secret handed out is stale, secrets that are handed out do not all work. -/
theorem not_handsOutWorking {shown : σ → Shown}
    (hrotated : World.AllOk freshCalls call ⟨start, []⟩
      [(env 0 0, create "key-1"), (env 1 1, .rotate owner "share_0" 1 "key-2")])
    (hrepeat : freshCalls (rotated start call) ((rotated start call).entry call (env 2 2, create "key-1")))
    (hexchange : freshCalls (repeated start call) ((repeated start call).entry call staleExchange))
    (hstale : ((rotated start call).entry call (env 2 2, create "key-1")).mutation = some stale)
    (hfree : (shown (repeated start call).state).failures "share_0" = none)
    (herror : ((repeated start call).entry call staleExchange).result =
      .error (.capabilityInvalid "invalid share capability")) :
    ¬ HandsOutWorking (service start call) shown := by
  intro h
  have hworks := h (rotated start call) _ _ stale (secret "key-1" 0) (reach_play hrotated) hrepeat
    (step_next _ _) hstale rfl
  obtain ⟨res, hres⟩ := hworks _ _ hexchange (step_next _ _) rfl (by
    rintro ⟨f, hf, -⟩
    cases hfree.symm.trans hf)
  cases herror.symm.trans hres

end
end Sample

open Sample in
/-- A creation that is repeated after a rotation hands out the secret of the first epoch. -/
theorem handed_out_repeated : ¬ HandsOutWorking (memoryService ports) Memory.shown ∧
    ¬ HandsOutWorking (postgresService ports) Tables.shown :=
  ⟨not_handsOutWorking (by decide +kernel) (by decide +kernel) (by decide +kernel) (by decide +kernel)
      (by decide +kernel) (by decide +kernel),
    not_handsOutWorking (by decide +kernel) (by decide +kernel) (by decide +kernel) (by decide +kernel)
      (by decide +kernel) (by decide +kernel)⟩

open Sample in
theorem handed_out_works_rotated :
    ¬ Works (memoryService ports) Memory.shown (repeated {} (Memory.call ports)) stale.share (secret "key-1" 0) := by
  have hstep : (memoryService ports).step (rotated {} (Memory.call ports)) _ (repeated {} (Memory.call ports)) :=
    step_next _ (env 2 2, create "key-1")
  have hiff := (handed_out_works (c := ports) Function.injective_id Function.injective_id ports_roundTrip).1
    _ _ _ stale (secret "key-1" 0) (reach_play (by decide +kernel)) (by decide +kernel) hstep
    (by decide +kernel) rfl
  rw [hiff, not_not]
  exact ⟨owner, "trip", ⟨"snapshot", 1⟩, "key-1", ⟨createHash ports "trip" ⟨"snapshot", 1⟩, "share_0", 1, 1⟩,
    stale.share, rfl, by decide +kernel, by decide +kernel, by decide +kernel⟩

end RoutePilot.Share
