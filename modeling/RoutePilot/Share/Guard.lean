/-
  Secrets and sessions of the share desk.

  A secret is derived for one share and one epoch, so that secrets of different
  epochs differ (`SecretOf.inj`).  `Desk.Secrets` relates what calls have issued
  to the epochs of the shares, `Desk.Sessions` the open sessions to the exchanges
  that opened them; both hold along every run.
-/
import RoutePilot.Spec.Sharing

namespace RoutePilot.Share

open Lib

variable {Source Snapshot : Type} {π : Policy Source} {c : Ports Source Snapshot}
  {log : List (Entry Snapshot)} {d d' : Desk Snapshot} {e : Entry Snapshot}

/-! ## Secrets -/

variable (c) in
/-- A secret derived for an epoch of a share. -/
def SecretOf (k : String) (epoch : ℕ) (secret : String) : Prop :=
  ∃ operation p idempotencyKey requestHash,
    secret = deriveSecret c operation p idempotencyKey requestHash k epoch

/-- The last separator of a text is where it is. -/
theorem append_cons_inj {α : Type} {a : α} {l l' t t' : List α} (h : l ++ a :: t = l' ++ a :: t')
    (ht : a ∉ t) (ht' : a ∉ t') : l = l' ∧ t = t' := by
  rcases List.append_eq_append_iff.1 h with ⟨m, rfl, hm⟩ | ⟨m, rfl, hm⟩
  · cases m with
    | nil => simpa using hm
    | cons b m =>
      obtain ⟨-, rfl⟩ := List.cons.inj hm
      simp at ht
  · cases m with
    | nil => simpa using hm.symm
    | cons b m =>
      obtain ⟨-, rfl⟩ := List.cons.inj hm
      simp at ht'

theorem toList_toString (n : ℕ) : (toString n).toList = Nat.toDigits 10 n := by
  rw [show toString n = String.ofList (Nat.toDigits 10 n) from rfl, String.toList_ofList]

theorem sep_not_mem_toString (n : ℕ) : '\x1f' ∉ (toString n).toList := by
  intro h
  rw [toList_toString] at h
  have hdigit := Nat.isDigit_of_mem_toDigits (by decide) (by decide) h
  exact absurd hdigit (by decide)

theorem toString_inj {n n' : ℕ} (h : (toString n).toList = (toString n').toList) : n = n' := by
  rw [toList_toString, toList_toString] at h
  rw [← Nat.ofDigitChars_ten_toDigits (n := n), h, Nat.ofDigitChars_ten_toDigits]

theorem toList_sep (x y : String) : (x ++ sep ++ y).toList = x.toList ++ '\x1f' :: y.toList := by
  have hsep : sep.toList = ['\x1f'] := by decide
  rw [String.toList_append, String.toList_append, hsep, List.append_assoc, List.singleton_append]

/-- What a message says of the share and the epoch is at its end. -/
theorem secretMessage_inj {op op' : String} {p p' : Principal} {key key' hash hash' k k' : String}
    {epoch epoch' : ℕ} (h : secretMessage op p key hash k epoch = secretMessage op' p' key' hash' k' epoch')
    (hk : '\x1f' ∉ k.toList) (hk' : '\x1f' ∉ k'.toList) : k = k' ∧ epoch = epoch' := by
  have hlist := congrArg String.toList h
  unfold secretMessage at hlist
  simp only [toList_sep] at hlist
  obtain ⟨hfront, hepoch⟩ := append_cons_inj hlist (sep_not_mem_toString epoch) (sep_not_mem_toString epoch')
  exact ⟨String.toList_inj.1 (append_cons_inj hfront hk hk').2, toString_inj hepoch⟩

/-- **A secret is for one share and one epoch.** -/
theorem SecretOf.inj (hinj : Function.Injective c.base64url) {k k' secret : String} {epoch epoch' : ℕ}
    (h : SecretOf c k epoch secret) (h' : SecretOf c k' epoch' secret) (hk : '\x1f' ∉ k.toList)
    (hk' : '\x1f' ∉ k'.toList) : k = k' ∧ epoch = epoch' := by
  obtain ⟨op, p, key, hash, hs⟩ := h
  obtain ⟨op', p', key', hash', hs'⟩ := h'
  exact secretMessage_inj (hinj (hs.symm.trans hs')) hk hk'

/-! ## What the desk guards -/

variable (c) in
/-- What calls have issued, and the epochs of the shares. -/
structure Desk.Secrets (log : List (Entry Snapshot)) (d : Desk Snapshot) : Prop where
  /-- the secret of the current epoch is the one that is compared -/
  current : ∀ {k r}, d.share k = some r → r.view.status = .active → ∃ s,
    r.secretHash = capabilityHash c r.view.publicId s ∧ SecretOf c k r.view.capabilityEpoch s ∧
      ∃ y ∈ log, y.Grants k r.view.capabilityEpoch s
  replay : ∀ {s replay}, d.replay s = some replay →
    ∃ r, d.share replay.shareId = some r ∧ replay.epoch ≤ r.view.capabilityEpoch
  issued : ∀ x ∈ log, ∀ m, x.mutation = some m → ∃ r, d.share m.share.shareId = some r ∧
    m.share.capabilityEpoch ≤ r.view.capabilityEpoch ∧
      ∀ s ∈ m.capabilitySecret, ∃ epoch ≤ m.share.capabilityEpoch, SecretOf c m.share.shareId epoch s
  /-- who asks to change a share is answered about it -/
  named : ∀ x ∈ log, ∀ m k, x.mutation = some m → x.op.Changes k → m.share.shareId = k
  /-- a change comes with an epoch of its own -/
  epochs : log.Pairwise fun later earlier => ∀ m m', later.mutation = some m → earlier.mutation = some m' →
    m.replayed = false → m.share.shareId = m'.share.shareId →
      m'.share.capabilityEpoch < m.share.capabilityEpoch

namespace Desk.Secrets

theorem init : Secrets c [] ({} : Desk Snapshot) := by
  constructor <;> simp

/-- A call that changes no share and whose answer, if it is one about a share, repeats its view. -/
theorem still (h : Secrets c log d)
    (hnamed : ∀ m k, e.mutation = some m → e.op.Changes k → m.share.shareId = k) (hshare : d'.share = d.share)
    (hreplay : d'.replay = d.replay) (hanswer : ∀ m, e.mutation = some m → m.replayed = true ∧ ∃ r,
      d.share m.share.shareId = some r ∧
      m.share.capabilityEpoch ≤ r.view.capabilityEpoch ∧
        ∀ s ∈ m.capabilitySecret, ∃ epoch ≤ m.share.capabilityEpoch, SecretOf c m.share.shareId epoch s) :
    Secrets c (e :: log) d' where
  current := by
    intro k r hr hactive
    rw [hshare] at hr
    obtain ⟨s, hs, hof, y, hy, hg⟩ := h.current hr hactive
    exact ⟨s, hs, hof, y, List.mem_cons_of_mem _ hy, hg⟩
  replay := by
    intro s replay hs
    rw [hreplay] at hs
    rw [hshare]
    exact h.replay hs
  issued := by
    rw [hshare]
    rintro x (- | ⟨-, hx⟩) m hm
    · exact (hanswer m hm).2
    · exact h.issued x hx m hm
  named := by
    rintro x (- | ⟨-, hx⟩) m k hm hk
    · exact hnamed m k hm hk
    · exact h.named x hx m k hm hk
  epochs := .cons (fun x hx m m' hm hm' hnew _ => by
    rw [(hanswer m hm).1] at hnew
    cases hnew) h.epochs

/-- A call that makes a share of a new epoch, new or changed. -/
theorem change (h : Secrets c log d)
    (hnamed : ∀ m k, e.mutation = some m → e.op.Changes k → m.share.shareId = k) {k : String} (r' : Record)
    (s : Scope) (hash : String) {m : ShareMutationResponse} (hm : e.mutation = some m) (hview : m.share = r'.view)
    (hid : r'.view.shareId = k) (hshare : d'.share = Function.update d.share k (some r'))
    (hgrows : ∀ r, d.share k = some r → r.view.capabilityEpoch < r'.view.capabilityEpoch)
    (hreplay : d'.replay = Function.update d.replay s
      (some ⟨hash, k, r'.view.version, r'.view.capabilityEpoch⟩))
    (hsecret : ∀ s ∈ m.capabilitySecret, SecretOf c k r'.view.capabilityEpoch s)
    (hcurrent : r'.view.status = .active → ∃ s, m.capabilitySecret = some s ∧ m.replayed = false ∧
      r'.secretHash = capabilityHash c r'.view.publicId s) :
    Secrets c (e :: log) d' := by
  have hkept : ∀ {k' r}, d.share k' = some r → ∃ r₁, d'.share k' = some r₁ ∧
      r.view.capabilityEpoch ≤ r₁.view.capabilityEpoch := by
    intro k' r hr
    rw [hshare]
    by_cases heq : k' = k
    · subst heq
      exact ⟨r', Function.update_self .., (hgrows r hr).le⟩
    · exact ⟨r, by rw [Function.update_of_ne heq, hr], le_rfl⟩
  constructor
  case current =>
    intro k' r hr hactive
    rw [hshare, Function.update_apply] at hr
    split at hr
    · next heq =>
      cases hr
      obtain ⟨s, hs, hnew, hhash⟩ := hcurrent hactive
      subst heq
      exact ⟨s, hhash, hsecret s hs, e, List.mem_cons_self, m, hm, hnew, hview ▸ hid, by rw [hview], hs⟩
    · obtain ⟨s, hs, hof, y, hy, hg⟩ := h.current hr hactive
      exact ⟨s, hs, hof, y, List.mem_cons_of_mem _ hy, hg⟩
  case replay =>
    intro s' replay hs
    rw [hreplay, Function.update_apply] at hs
    split at hs
    · cases hs
      exact ⟨r', by rw [hshare, Function.update_self], le_rfl⟩
    · obtain ⟨r, hr, hle⟩ := h.replay hs
      obtain ⟨r₁, hr₁, hle₁⟩ := hkept hr
      exact ⟨r₁, hr₁, hle.trans hle₁⟩
  case issued =>
    rintro x (- | ⟨-, hx⟩) m' hm'
    · rw [hm] at hm'
      cases hm'
      rw [hview, hid, hshare, Function.update_self]
      exact ⟨r', rfl, le_rfl, fun s hs => ⟨_, le_rfl, hsecret s hs⟩⟩
    · obtain ⟨r, hr, hle, hs⟩ := h.issued x hx m' hm'
      obtain ⟨r₁, hr₁, hle₁⟩ := hkept hr
      exact ⟨r₁, hr₁, hle.trans hle₁, hs⟩
  case named =>
    rintro x (- | ⟨-, hx⟩) m k hm hk
    · exact hnamed m k hm hk
    · exact h.named x hx m k hm hk
  case epochs =>
    refine .cons (fun x hx m₁ m' hm₁ hm' _ heq => ?_) h.epochs
    rw [hm] at hm₁
    cases hm₁
    obtain ⟨r, hr, hle, -⟩ := h.issued x hx m' hm'
    rw [← heq, hview, hid] at hr
    rw [hview]
    exact hle.trans_lt (hgrows r hr)

/-- An answer to a change is about the share. -/
theorem effect_named (ho : d.Ordered π c log) {op : ShareOp} {m : ShareMutationResponse}
    (he : Effect π c e.env d op (.ok (.mutation m)) d') {k : String} (hk : op.Changes k) :
    m.share.shareId = k := by
  obtain ⟨p, version, key, rfl | rfl⟩ := hk
  · generalize hresult : (Except.ok (.mutation m) : Except ShareError (ShareResponse Snapshot)) = result at he
    cases he with
    | raised => cases hresult
    | rotated hnew hshare howns hactive hversion hsecret hr' =>
      cases hresult
      rw [hr']
      exact (ho.share hshare).1
    | rerotated hreplay hhash hshare =>
      cases hresult
      exact (ho.share hshare).1
  · generalize hresult : (Except.ok (.mutation m) : Except ShareError (ShareResponse Snapshot)) = result at he
    cases he with
    | raised => cases hresult
    | revoked hnew hshare howns hactive hversion hr' =>
      cases hresult
      rw [hr']
      exact (ho.share hshare).1
    | rerevoked hreplay hshare =>
      cases hresult
      exact (ho.share hshare).1

theorem mutation_eq_some {m : ShareMutationResponse} : e.mutation = some m ↔ e.result = .ok (.mutation m) := by
  unfold Entry.mutation
  split
  · next heq => rw [heq]; simp
  · next hno => simpa using hno m

/-- **Step rule.** -/
theorem step (h : Secrets c log d) (ho : d.Ordered π c log) (hfresh : e.Fresh log)
    (he : Effect π c e.env d e.op e.result d') : Secrets c (e :: log) d' := by
  have hnamed : ∀ m k, e.mutation = some m → e.op.Changes k → m.share.shareId = k := by
    intro m k hm hk
    rw [mutation_eq_some.1 hm] at he
    exact effect_named ho he hk
  generalize hop : e.op = op at he
  generalize hresult : e.result = result at he
  have hnothing : (∀ m, result ≠ .ok (.mutation m)) → e.mutation = none := by
    intro hno
    unfold Entry.mutation
    rw [hresult]
    split
    · next m => exact absurd rfl (hno m)
    · rfl
  have hmutation : ∀ m, result = .ok (.mutation m) → e.mutation = some m := by
    rintro m rfl
    unfold Entry.mutation
    rw [hresult]
  cases he with
  | raised | guessed | exchanged | opened =>
    exact h.still hnamed rfl rfl fun m hm => nomatch (hnothing nofun).symm.trans hm
  | @created p tripId request key src view secret hsource hnew hconfirms hview hsecret =>
    refine h.change hnamed ⟨p.tenantId, newShare c e.env p tripId src, _⟩ (scope p createOperation key)
      (createHash c tripId request) (hmutation _ rfl) hview rfl rfl ?_ rfl ?_ ?_
    · intro r hr
      cases (ho.share_new hfresh).symm.trans hr
    · rintro s ⟨⟩
      exact ⟨_, _, _, _, hview ▸ hsecret⟩
    · intro _
      exact ⟨secret, rfl, rfl, by rw [hsecret, hview]⟩
  | recreated hreplay hhash hshare hsecret =>
    obtain ⟨r', hr', hle⟩ := h.replay hreplay
    rw [hshare] at hr'
    cases hr'
    refine h.still hnamed rfl rfl fun m hm => ?_
    cases (hmutation _ rfl).symm.trans hm
    refine ⟨rfl, _, (ho.share hshare).1.symm ▸ hshare, le_rfl, ?_⟩
    rintro s ⟨⟩
    exact ⟨_, hle, _, _, _, _, (ho.share hshare).1.symm ▸ hsecret⟩
  | @rotated p k version key r r' secret after hnew hshare howns hactive hversion hsecret hr' hafter =>
    have hid : r'.view.shareId = k := by rw [hr']; exact (ho.share hshare).1
    have hepoch : r'.view.capabilityEpoch = r.view.capabilityEpoch + 1 := by rw [hr']; rfl
    refine h.change hnamed r' (scope p (rotateOperation k) key) (transitionHash c "rotate" k version)
      (hmutation _ rfl) rfl hid ?_ ?_ ?_ ?_ ?_
    · split <;> rw [hafter] <;> rfl
    · intro r₀ hr₀
      rw [hshare] at hr₀
      cases hr₀
      omega
    · split <;> rw [hafter] <;> rfl
    · rintro s ⟨⟩
      exact ⟨_, _, _, _, hepoch ▸ hsecret⟩
    · intro _
      exact ⟨secret, rfl, rfl, by rw [hr']; rfl⟩
  | @rerotated p k version key replay r secret hreplay hhash hshare hsecret =>
    have hid := (ho.changeReplay k hreplay (.inl rfl)).1
    obtain ⟨r', hr', hle⟩ := h.replay hreplay
    rw [hid, hshare] at hr'
    cases hr'
    refine h.still hnamed rfl rfl fun m hm => ?_
    cases (hmutation _ rfl).symm.trans hm
    refine ⟨rfl, _, (ho.share hshare).1.symm ▸ hshare, le_rfl, ?_⟩
    intro s hs
    rw [Option.mem_def] at hs
    simp only at hs
    split at hs
    · cases hs
      exact ⟨_, hle, _, _, _, _, (ho.share hshare).1.symm ▸ hsecret⟩
    · cases hs
  | @revoked p k version key r r' hnew hshare howns hactive hversion hr' =>
    have hid : r'.view.shareId = k := by rw [hr']; exact (ho.share hshare).1
    have hepoch : r'.view.capabilityEpoch = r.view.capabilityEpoch + 1 := by rw [hr']; rfl
    have hstatus : r'.view.status = .revoked := by rw [hr']; rfl
    refine h.change hnamed r' (scope p (revokeOperation k) key) (transitionHash c "revoke" k version)
      (hmutation _ rfl) rfl hid rfl ?_ rfl ?_ ?_
    · intro r₀ hr₀
      rw [hshare] at hr₀
      cases hr₀
      omega
    · rintro s ⟨⟩
    · intro hactive'
      rw [hstatus] at hactive'
      cases hactive'
  | @rerevoked p k version key replay r hreplay hshare =>
    refine h.still hnamed rfl rfl fun m hm => ?_
    cases (hmutation _ rfl).symm.trans hm
    refine ⟨rfl, _, (ho.share hshare).1.symm ▸ hshare, le_rfl, ?_⟩
    rintro s ⟨⟩

end Desk.Secrets

/-! ## Sessions -/

theorem sessionHash_inj (hinj : Function.Injective c.hexdigest) {t t' : String}
    (h : sessionHash c t = sessionHash c t') : t = t' :=
  (String.append_right_inj _).1 (hinj h)

theorem capabilityHash_inj (hinj : Function.Injective c.hexdigest) {publicId s s' : String}
    (h : capabilityHash c publicId s = capabilityHash c publicId s') : s = s' :=
  (String.append_right_inj _).1 (hinj h)

/-- The token an exchange returned is the one it drew. -/
theorem Entry.Exchanges.token {x : Entry Snapshot} {publicId secret t t' : String}
    (h : x.Exchanges publicId secret t) (h' : x.Exchanges publicId secret t') : t = t' := by
  have heq := h.2.symm.trans h'.2
  cases heq
  rfl

variable (c) in
/-- An open session of the desk comes from an exchange, of the secret of its epoch. -/
def Desk.Opened (log : List (Entry Snapshot)) (d : Desk Snapshot) (hash : String) (s : Session)
    (x : Entry Snapshot) : Prop :=
  ∃ publicId secret, x.Exchanges publicId secret x.env.sessionToken ∧
    hash = sessionHash c x.env.sessionToken ∧ d.lookup publicId = some s.shareId ∧
      s.expiresAt = sessionExpiry x.env.now ∧ ∃ y ∈ log, y.Grants s.shareId s.capabilityEpoch secret

variable (c) in
/-- The open sessions, and those that were closed. -/
structure Desk.Sessions (log : List (Entry Snapshot)) (d : Desk Snapshot) : Prop where
  tokens : log.Pairwise fun later earlier => earlier.env.sessionToken ≠ later.env.sessionToken
  exchanged : ∀ x ∈ log, ∀ publicId secret, x.op = .exchange publicId secret → x.Succeeds →
    x.Exchanges publicId secret x.env.sessionToken ∧ ∃ k, d.lookup publicId = some k
  opened : ∀ {hash s}, d.session hash = some s → ∃ x ∈ log, Opened c log d hash s x
  fenced : ∀ {k x publicId secret t}, Fenced log k x → x.Exchanges publicId secret t →
    d.lookup publicId = some k → d.session (sessionHash c t) = none

namespace Desk.Sessions

theorem init : Sessions c [] ({} : Desk Snapshot) := by
  constructor <;> simp [Fenced]

/-- A token names the exchange that drew it. -/
theorem eq_of_token (h : Sessions c log d) {x x' : Entry Snapshot} (hx : x ∈ log) (hx' : x' ∈ log)
    (ht : x.env.sessionToken = x'.env.sessionToken) : x = x' := by
  have hall := List.Pairwise.forall_of_forall_of_flip
    (R := fun x y : Entry Snapshot => x.env.sessionToken = y.env.sessionToken → x = y) (fun _ _ _ => rfl)
    (h.tokens.imp fun hne heq => absurd heq.symm hne) (h.tokens.imp fun hne heq => absurd heq hne)
  exact hall hx hx' ht

/-- What a call does to the sessions: it may open one of its own, and it closes those of a share it
    changes. -/
theorem advance (h : Sessions c log d) (hinj : Function.Injective c.hexdigest) (hfresh : e.Fresh log)
    (hlookup : ∀ publicId k, d.lookup publicId = some k → d'.lookup publicId = some k)
    (hsession : ∀ hash s, d'.session hash = some s →
      d.session hash = some s ∨ Opened c (e :: log) d hash s e)
    (hexchange : ∀ publicId secret, e.op = .exchange publicId secret → e.Succeeds →
      e.Exchanges publicId secret e.env.sessionToken ∧ ∃ k, d.lookup publicId = some k)
    (hfence : ∀ k, e.Fences k → ∀ hash s, d'.session hash = some s → s.shareId ≠ k) :
    Sessions c (e :: log) d' := by
  constructor
  case tokens => exact .cons hfresh.token h.tokens
  case exchanged =>
    rintro x (- | ⟨-, hx⟩) publicId secret hop hok
    · exact (hexchange publicId secret hop hok).imp_right fun ⟨k, hk⟩ => ⟨k, hlookup _ _ hk⟩
    · exact (h.exchanged x hx publicId secret hop hok).imp_right fun ⟨k, hk⟩ => ⟨k, hlookup _ _ hk⟩
  case opened =>
    intro hash s hs
    rcases hsession hash s hs with hs | ⟨publicId, secret, hx, hh, hl, hexp, hgrant⟩
    · obtain ⟨x, hx, publicId, secret, hex, hh, hl, hexp, y, hy, hg⟩ := h.opened hs
      exact ⟨x, List.mem_cons_of_mem _ hx, publicId, secret, hex, hh, hlookup _ _ hl, hexp, y,
        List.mem_cons_of_mem _ hy, hg⟩
    · exact ⟨e, List.mem_cons_self, publicId, secret, hx, hh, hlookup _ _ hl, hexp, hgrant⟩
  case fenced =>
    intro k x publicId secret t hf hx hl
    have hmem : x ∈ log := by
      rcases fenced_cons.1 hf with ⟨-, hmem⟩ | hf
      · exact hmem
      · exact hf.mem
    obtain ⟨hown, k', hk'⟩ := h.exchanged x hmem publicId secret hx.1 ⟨_, hx.2⟩
    cases hown.token hx
    have hk : d.lookup publicId = some k := by
      have := hlookup _ _ hk'
      rw [hl] at this
      rw [hk', this]
    rw [Option.eq_none_iff_forall_ne_some]
    intro s hs
    rcases fenced_cons.1 hf with ⟨hfences, -⟩ | hf
    · rcases hsession _ s hs with hold | ⟨publicId', secret', hx', -⟩
      · -- the session was opened by this very exchange, so it is one of the share
        obtain ⟨x', hmem', publicId', secret', hex', hh, hl', -⟩ := h.opened hold
        cases h.eq_of_token hmem hmem' (sessionHash_inj hinj hh)
        cases hx.1.symm.trans hex'.1
        rw [hk] at hl'
        exact hfence k hfences _ s hs (Option.some.inj hl').symm
      · obtain ⟨⟨p, version, key, hop⟩, -⟩ := hfences
        rcases hop with hop | hop <;> cases hop.symm.trans hx'.1
    · rcases hsession _ s hs with hold | ⟨publicId', secret', -, hh, -⟩
      · rw [h.fenced hf hx hk] at hold
        cases hold
      · exact hfresh.token x hmem (sessionHash_inj hinj hh)

/-- **Step rule.** -/
theorem step (h : Sessions c log d) (hsecrets : Secrets c log d) (ho : d.Ordered π c log)
    (hinj : Function.Injective c.hexdigest) (hfresh : e.Fresh log)
    (he : Effect π c e.env d e.op e.result d') : Sessions c (e :: log) d' := by
  generalize hop : e.op = op at he
  generalize hresult : e.result = result at he
  have hfails : (∃ err, result = .error err) → ¬ e.Succeeds := by
    rintro ⟨err, rfl⟩ ⟨r, hr⟩
    rw [hresult] at hr
    cases hr
  have hreplayed : ∀ {m}, result = .ok (.mutation m) → m.replayed = true → ∀ k, ¬ e.Fences k := by
    rintro m rfl hm k ⟨-, m', hm', hnew⟩
    unfold Entry.mutation at hm'
    rw [hresult] at hm'
    cases hm'
    rw [hm] at hnew
    cases hnew
  have hnot : (∀ p k version key, op ≠ .rotate p k version key ∧ op ≠ .revoke p k version key) →
      ∀ k, ¬ e.Fences k := by
    rintro hno k ⟨⟨p, version, key, hop'⟩, -⟩
    rw [hop] at hop'
    rcases hop' with hop' | hop'
    · exact (hno ..).1 hop'
    · exact (hno ..).2 hop'
  cases he with
  | raised =>
    refine h.advance hinj hfresh (fun _ _ => id) (fun _ _ => .inl) ?_ ?_
    · exact fun _ _ _ hok => absurd hok (hfails ⟨_, rfl⟩)
    · rintro k ⟨-, m, hm, -⟩
      unfold Entry.mutation at hm
      rw [hresult] at hm
      cases hm
  | guessed =>
    refine h.advance hinj hfresh (fun _ _ => id) (fun _ _ => .inl) ?_ ?_
    · exact fun _ _ _ hok => absurd hok (hfails ⟨_, rfl⟩)
    · exact fun k hf => absurd hf (hnot (by simp) k)
  | created hsource hnew hconfirms hview hsecret =>
    refine h.advance hinj hfresh ?_ (fun _ _ => .inl) ?_ ?_
    · intro publicId k hk
      simp only [Desk.created, Function.update_apply]
      rw [if_neg, hk]
      rintro rfl
      cases (ho.lookup_new hfresh).symm.trans hk
    · exact fun _ _ hop' => by cases hop.symm.trans hop'
    · exact fun k hf => absurd hf (hnot (by simp) k)
  | recreated | opened =>
    refine h.advance hinj hfresh (fun _ _ => id) (fun _ _ => .inl) ?_ ?_
    · exact fun _ _ hop' => by cases hop.symm.trans hop'
    · exact fun k hf => absurd hf (hnot (by simp) k)
  | rerotated | rerevoked =>
    refine h.advance hinj hfresh (fun _ _ => id) (fun _ _ => .inl) ?_ ?_
    · exact fun _ _ hop' => by cases hop.symm.trans hop'
    · exact fun k hf => absurd hf (hreplayed rfl rfl k)
  | @rotated p k version key r r' secret after hnew hshare howns hactive hversion hsecret hr' hafter =>
    have hends : ∀ hash s, after.session hash = some s → d.session hash = some s ∧ s.shareId ≠ k := by
      intro hash s hs
      rw [hafter] at hs
      simpa using Option.filter_eq_some_iff.1 hs
    have hsame : ∀ publicId, after.lookup publicId = d.lookup publicId := fun _ => by rw [hafter]; rfl
    refine h.advance hinj hfresh ?_ ?_ ?_ ?_
    · intro publicId k' hk'
      split <;> exact (hsame publicId).trans hk'
    · intro hash s hs
      split at hs <;> exact .inl (hends hash s hs).1
    · exact fun _ _ hop' => by cases hop.symm.trans hop'
    · rintro k' ⟨⟨p', version', key', hop'⟩, -⟩ hash s hs
      have hk : k' = k := by
        rw [hop] at hop'
        rcases hop' with hop' | hop' <;> cases hop'
        rfl
      subst hk
      split at hs <;> exact (hends hash s hs).2
  | @revoked p k version key r r' hnew hshare howns hactive hversion hr' =>
    refine h.advance hinj hfresh (fun _ _ => id) ?_ ?_ ?_
    · exact fun hash s hs => .inl (Option.filter_eq_some_iff.1 hs).1
    · exact fun _ _ hop' => by cases hop.symm.trans hop'
    · rintro k' ⟨⟨p', version', key', hop'⟩, -⟩ hash s hs
      have hk : k' = k := by
        rw [hop] at hop'
        rcases hop' with hop' | hop' <;> cases hop'
        rfl
      subst hk
      simpa using (Option.filter_eq_some_iff.1 hs).2
  | @exchanged publicId secret k r failures hcompared hright =>
    obtain ⟨hk, hr, hactive, -⟩ := compared_eq_ok hcompared
    have hex : e.Exchanges publicId secret e.env.sessionToken := ⟨hop, hresult⟩
    refine h.advance hinj hfresh (fun _ _ => id) ?_ ?_ ?_
    · intro hash s hs
      simp only [Function.update_apply] at hs
      split at hs
      · next heq =>
        cases hs
        obtain ⟨s₀, hhash, -, y, hy, hg⟩ := hsecrets.current hr hactive
        have hpub : r.view.publicId = publicId := by
          obtain ⟨⟨r', hr', hpub⟩, -⟩ := ho.lookup hk
          rw [hr] at hr'
          cases hr'
          exact hpub
        rw [hhash, hpub] at hright
        cases capabilityHash_inj hinj hright
        exact .inr ⟨publicId, secret, hex, heq, hk, rfl, y, List.mem_cons_of_mem _ hy, hg⟩
      · exact .inl hs
    · intro publicId' secret' hop' _
      cases hop.symm.trans hop'
      exact ⟨hex, k, hk⟩
    · exact fun k hf => absurd hf (hnot (by simp) k)

end Desk.Sessions
end RoutePilot.Share
