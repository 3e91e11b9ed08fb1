/-
  What one call of the share desk does.

  `Effect` lists the ways a call can go: it raises and changes nothing, it
  creates, rotates or revokes a share or repeats the answer of an earlier such
  call, it compares a wrong secret or exchanges the right one, or it opens a
  snapshot.  `call_effect` says that there are no others; every invariant of the
  desk is proved by cases on it.
-/
import RoutePilot.Share.Desk

namespace RoutePilot.Share.Desk

open Lib

variable {Source Snapshot : Type}

/-- The answer of a call that changed a share. -/
def fresh (view : ShareView) (secret : Option String) : ShareResponse Snapshot :=
  .mutation { share := view, capabilitySecret := secret }

/-- The answer of a repeated call. -/
def again (view : ShareView) (secret : Option String) : ShareResponse Snapshot :=
  .mutation { share := view, capabilitySecret := secret, replayed := true }

variable {π : Policy Source} {c : Ports Source Snapshot} {env : Env} {d d' : Desk Snapshot}

variable (π c env d) in
/-- A call that answers or raises so, and leaves this desk. -/
inductive Effect : ShareOp → Except ShareError (ShareResponse Snapshot) → Desk Snapshot → Prop
  | raised (op : ShareOp) (e : ShareError) : Effect op (.error e) d
  | created {p : Principal} {tripId : String} {request : ShareCreateRequest} {key : String} {src : Source}
      {view : ShareView} {secret : String} (hsource : source c env p tripId request = .ok src)
      (hnew : d.replay (scope p createOperation key) = none) (hconfirms : π.confirms env p tripId src)
      (hview : view = newShare c env p tripId src)
      (hsecret : secret = deriveSecret c createOperation p key (createHash c tripId request) view.shareId 1) :
      Effect (.create p tripId request key) (.ok (fresh view secret))
        (d.created c env p tripId src (createHash c tripId request) key)
  | recreated {p : Principal} {tripId : String} {request : ShareCreateRequest} {key : String} {replay : Replay}
      {r : Record} {secret : String} (hreplay : d.replay (scope p createOperation key) = some replay)
      (hhash : replay.requestHash = createHash c tripId request)
      (hshare : d.share replay.shareId = some r)
      (hsecret : secret = deriveSecret c createOperation p key replay.requestHash replay.shareId replay.epoch) :
      Effect (.create p tripId request key) (.ok (again r.view secret)) d
  | rotated {p : Principal} {shareId : String} {version : ℕ} {key : String} {r r' : Record} {secret : String}
      {after : Desk Snapshot} (hnew : d.replay (scope p (rotateOperation shareId) key) = none)
      (hshare : d.share shareId = some r) (howns : π.mayChange p r)
      (hactive : r.view.status = .active) (hversion : r.view.version = version)
      (hsecret : secret = deriveSecret c "share.rotate" p key (transitionHash c "rotate" shareId version) shareId
        (r.view.capabilityEpoch + 1))
      (hr' : r' = ⟨r.tenantId, r.view.rotated env.now, capabilityHash c r.view.publicId secret⟩)
      (hafter : after =
        d.changed p (rotateOperation shareId) (transitionHash c "rotate" shareId version) key shareId r') :
      Effect (.rotate p shareId version key) (.ok (fresh r'.view secret))
        (if π.forgets then { after with failures := Function.update after.failures shareId none } else after)
  | rerotated {p : Principal} {shareId : String} {version : ℕ} {key : String} {replay : Replay} {r : Record}
      {secret : String} (hreplay : d.replay (scope p (rotateOperation shareId) key) = some replay)
      (hhash : replay.requestHash = transitionHash c "rotate" shareId version)
      (hshare : d.share shareId = some r)
      (hsecret : secret = deriveSecret c "share.rotate" p key replay.requestHash shareId replay.epoch) :
      Effect (.rotate p shareId version key)
        (.ok (again r.view (if r.view.version = replay.version ∧ r.view.capabilityEpoch = replay.epoch then
          some secret else none))) d
  | revoked {p : Principal} {shareId : String} {version : ℕ} {key : String} {r r' : Record}
      (hnew : d.replay (scope p (revokeOperation shareId) key) = none) (hshare : d.share shareId = some r)
      (howns : π.mayChange p r) (hactive : r.view.status = .active)
      (hversion : r.view.version = version) (hr' : r' = { r with view := r.view.closed env.now }) :
      Effect (.revoke p shareId version key) (.ok (fresh r'.view none))
        (d.changed p (revokeOperation shareId) (transitionHash c "revoke" shareId version) key shareId r')
  | rerevoked {p : Principal} {shareId : String} {version : ℕ} {key : String} {replay : Replay} {r : Record}
      (hreplay : d.replay (scope p (revokeOperation shareId) key) = some replay)
      (hshare : d.share shareId = some r) :
      Effect (.revoke p shareId version key) (.ok (again r.view none)) d
  | guessed {publicId secret shareId : String} {r : Record} {failures : Failures}
      (hcompared : d.compared env.now publicId = .ok (shareId, r, failures))
      (hwrong : capabilityHash c publicId secret ≠ r.secretHash) :
      Effect (.exchange publicId secret)
        (.error (if (limits.fail env.now failures).blockedUntil.isSome then .rateLimited (15 * 60)
          else .capabilityInvalid "invalid share capability"))
        { d with failures := Function.update d.failures shareId (some (limits.fail env.now failures)) }
  | exchanged {publicId secret shareId : String} {r : Record} {failures : Failures}
      (hcompared : d.compared env.now publicId = .ok (shareId, r, failures))
      (hright : capabilityHash c publicId secret = r.secretHash) :
      Effect (.exchange publicId secret) (.ok (.exchange ⟨env.sessionToken, sessionExpiry env.now⟩))
        { d with
          failures := Function.update d.failures shareId none
          session := Function.update d.session (sessionHash c env.sessionToken)
            (some ⟨shareId, r.view.capabilityEpoch, sessionExpiry env.now⟩) }
  | opened {publicId token : String} {session : Session} {snapshot : Snapshot}
      (hopened : d.opened env.now publicId (sessionHash c token) = some (session, snapshot)) :
      Effect (.publicSnapshot publicId token) (.ok (.snapshot ⟨publicId, snapshot⟩)) d

/-- An exchange compares the secret of an active share that is not blocked. -/
theorem compared_eq_ok {now : Time} {publicId k : String} {r : Record} {failures : Failures}
    (h : d.compared now publicId = .ok (k, r, failures)) :
    d.lookup publicId = some k ∧ d.share k = some r ∧ r.view.status = .active ∧
      failures = (d.failures k).getD ⟨0, now, none⟩ ∧ ¬ failures.Blocked now := by
  unfold compared at h
  split at h
  · cases h
  · next k' hk =>
    split at h
    · cases h
    · next r' hr =>
      obtain ⟨hshare, hactive⟩ := Option.filter_eq_some_iff.1 hr
      simp only at h
      split at h
      · cases h
      · next hfree =>
        cases h
        refine ⟨hk, hshare, by simpa using hactive, rfl, ?_⟩
        rintro ⟨u, hu, hlt⟩
        rw [Option.mem_def.1 hu] at hfree
        simp [Option.filter, hlt] at hfree

theorem create_effect (p : Principal) (tripId : String) (request : ShareCreateRequest) (key : String) :
    Effect π c env d (.create p tripId request key)
      ((outcome ((create π c env p tripId request key).run d)).map .mutation)
      (final ((create π c env p tripId request key).run d)) := by
  simp only [create, EStateM.run_bind, run_ask]
  cases hsource : source c env p tripId request with
  | error e => exact .raised _ e
  | ok src =>
    simp only [EStateM.run_get]
    cases hreplay : d.replay (scope p createOperation key) with
    | some replay =>
      by_cases hhash : replay.requestHash = createHash c tripId request
      · cases hshare : d.share replay.shareId with
        | none => simpa [ensure, hhash, hshare] using .raised _ _
        | some r =>
          simpa [ensure, hhash, hshare] using .recreated hreplay hhash hshare (by rw [hhash])
      · simpa [ensure, hhash] using .raised _ _
    | none =>
      by_cases hconfirms : π.confirms env p tripId src
      · simpa [ensure, hconfirms] using .created hsource hreplay hconfirms rfl rfl
      · simpa [ensure, hconfirms] using .raised _ _

theorem rotate_effect (p : Principal) (shareId : String) (version : ℕ) (key : String) :
    Effect π c env d (.rotate p shareId version key)
      ((outcome ((rotate π c env p shareId version key).run d)).map .mutation)
      (final ((rotate π c env p shareId version key).run d)) := by
  simp only [rotate, EStateM.run_bind, EStateM.run_get]
  cases hreplay : d.replay (scope p (rotateOperation shareId) key) with
  | some replay =>
    by_cases hhash : replay.requestHash = transitionHash c "rotate" shareId version
    · cases hshare : d.share shareId with
      | none => simpa [ensure, hhash, hshare] using .raised _ _
      | some r =>
        simpa [ensure, hhash, hshare] using .rerotated hreplay hhash hshare (by rw [hhash])
    · simpa [ensure, hhash] using .raised _ _
  | none =>
    cases hshare : (d.share shareId).filter (π.mayChange p) with
    | none => simpa [hshare] using .raised _ _
    | some r =>
      obtain ⟨hshare', howns⟩ := Option.filter_eq_some_iff.1 hshare
      by_cases hok : r.view.status = .active ∧ r.view.version = version
      · simpa [ensure, hshare, hok] using .rotated hreplay hshare' howns hok.1 hok.2 rfl rfl rfl
      · simpa [ensure, hshare, hok] using .raised _ _

theorem revoke_effect (p : Principal) (shareId : String) (version : ℕ) (key : String) :
    Effect π c env d (.revoke p shareId version key)
      ((outcome ((revoke π c env p shareId version key).run d)).map .mutation)
      (final ((revoke π c env p shareId version key).run d)) := by
  simp only [revoke, EStateM.run_bind, EStateM.run_get]
  cases hreplay : d.replay (scope p (revokeOperation shareId) key) with
  | some replay =>
    by_cases hhash : replay.requestHash = transitionHash c "revoke" shareId version
    · cases hshare : d.share shareId with
      | none => simpa [ensure, hhash, hshare] using .raised _ _
      | some r => simpa [ensure, hhash, hshare] using .rerevoked hreplay hshare
    · simpa [ensure, hhash] using .raised _ _
  | none =>
    cases hshare : (d.share shareId).filter (π.mayChange p) with
    | none => simpa [hshare] using .raised _ _
    | some r =>
      obtain ⟨hshare', howns⟩ := Option.filter_eq_some_iff.1 hshare
      by_cases hok : r.view.status = .active ∧ r.view.version = version
      · simpa [ensure, hshare, hok] using .revoked hreplay hshare' howns hok.1 hok.2 rfl
      · simpa [ensure, hshare, hok] using .raised _ _

theorem exchange_effect (publicId secret : String) :
    Effect π c env d (.exchange publicId secret)
      ((outcome ((exchange c env publicId secret).run d)).map .exchange)
      (final ((exchange c env publicId secret).run d)) := by
  simp only [exchange, EStateM.run_bind, run_ask]
  cases hcompared : d.compared env.now publicId with
  | error e => exact .raised _ e
  | ok found =>
    obtain ⟨shareId, r, failures⟩ := found
    by_cases hright : capabilityHash c publicId secret = r.secretHash
    · simpa [hright] using .exchanged hcompared hright
    · simpa [hright] using .guessed hcompared hright

theorem publicSnapshot_effect (publicId token : String) :
    Effect π c env d (.publicSnapshot publicId token)
      ((outcome ((publicSnapshot c env publicId token).run d)).map .snapshot)
      (final ((publicSnapshot c env publicId token).run d)) := by
  simp only [publicSnapshot, EStateM.run_bind, EStateM.run_get]
  cases hopened : d.opened env.now publicId (sessionHash c token) with
  | none => exact .raised _ _
  | some found => exact .opened hopened

variable (π c env d) in
/-- **What a call does.** -/
theorem call_effect (op : ShareOp) :
    Effect π c env d op (outcome ((call π c env op).run d)) (final ((call π c env op).run d)) := by
  cases op with
  | create p tripId request key => simpa only [call, outcome_map, final_map] using create_effect p tripId request key
  | rotate p shareId version key => simpa only [call, outcome_map, final_map] using rotate_effect p shareId version key
  | revoke p shareId version key => simpa only [call, outcome_map, final_map] using revoke_effect p shareId version key
  | exchange publicId secret => simpa only [call, outcome_map, final_map] using exchange_effect publicId secret
  | publicSnapshot publicId token =>
    simpa only [call, outcome_map, final_map] using publicSnapshot_effect publicId token

end RoutePilot.Share.Desk
