/-
  Single use of authorization flows (`consumeAuthorizationFlow` in `oidc.ts`).

  A consumed state stays in its table as long as its cookie is accepted
  (`Remembered`), unless the table is full or the flow was consumed in the millisecond in
  which it began: then it leaves the table, and the cookie is accepted once more.
-/
import Mathlib.Data.List.Nodup
import RoutePilot.Proof.RefreshCookie
import RoutePilot.Web.LoginFlow

namespace RoutePilot.Web.Oidc

open Lib

/-! ## What is consumed -/

section
variable {C : Crypto} {cookieKey : List UInt8} {digest : JsString → JsString}

/-- The flow of a cookie, and its age. -/
theorem checkFlow_eq_some {sealed : List Char} {returnedState : JsString} {now : Millis}
    {flow begun : AuthorizationFlow} (hopen : openJson C cookieKey sealed "flow" = some begun.value)
    (h : checkFlow C cookieKey sealed returnedState now = some flow) :
    flow = begun ∧ now.val ≤ begun.createdAt + authorizationFlowMillis := by
  have hstate : stringField begun.value "state" = some begun.state := rfl
  have hnonce : stringField begun.value "nonce" = some begun.nonce := rfl
  have hverifier : stringField begun.value "verifier" = some begun.verifier := rfl
  have hversion : begun.value.get? "version" = some (.number 1) := rfl
  have hcreatedAt : begun.value.get? "createdAt" = some (.number begun.createdAt) := rfl
  unfold checkFlow at h
  split at h
  · cases h
  · rw [hopen] at h
    simp only [Option.bind_eq_bind, Option.bind_some, hstate, hnonce, hverifier, hversion, hcreatedAt, safeInteger] at h
    split at h
    · simp only [Option.bind_some, Rat.num_natCast] at h
      split at h
      · cases h
      · rename_i hok
        cases h
        simp only [not_or, Int.not_lt] at hok
        obtain ⟨-, -, -, -, -, -, hage⟩ := hok
        exact ⟨by rw [Int.toNat_natCast], by omega⟩
    · cases h

/-- A text that was made of bytes. -/
theorem isBase64url_base64url {bytes : List UInt8} {length : ℕ} (h : (4 * bytes.length + 2) / 3 = length) :
    isBase64url length ((base64url bytes).map fun c => UInt16.ofNat c.toNat) := by
  have hsmall : ∀ c ∈ Base64.alphabet, c.toNat < 0x80 := List.all_iff_forall_prop.1 (by decide +kernel)
  unfold isBase64url
  rw [Bool.and_eq_true, decide_eq_true_eq, List.length_map, length_base64url, List.all_map, List.all_eq_true]
  refine ⟨h, fun c hc => ?_⟩
  have hmem := mem_alphabet_of_mem_base64url c hc
  have hlt := hsmall c hmem
  simp only [Function.comp_apply, UInt16.toNat_ofNat']
  rw [Nat.mod_eq_of_lt (by omega), Char.ofNat_toNat, decide_eq_true hlt, decide_eq_true hmem]
  rfl

/-- **A flow that was begun can be consumed for five minutes.** -/
theorem checkFlow_draw {sealed : List Char} {draw : Draw} {now : Millis}
    (hopen : openJson C cookieKey sealed "flow" = some draw.flow.value) (hbegun : draw.now.val ≤ now)
    (hage : now.val ≤ draw.now + authorizationFlowMillis) :
    checkFlow C cookieKey sealed draw.flow.state now = some draw.flow := by
  have hstate : stringField draw.flow.value "state" = some draw.flow.state := rfl
  have hnonce : stringField draw.flow.value "nonce" = some draw.flow.nonce := rfl
  have hverifier : stringField draw.flow.value "verifier" = some draw.flow.verifier := rfl
  have hversion : draw.flow.value.get? "version" = some (.number 1) := rfl
  have hcreatedAt : draw.flow.value.get? "createdAt" = some (.number draw.now.val) := rfl
  have hlength : draw.flow.state.length = 43 := by
    rw [Draw.flow, List.length_map, length_base64url, draw.state.2]
  have hstateOk : isBase64url 43 draw.flow.state := isBase64url_base64url (by rw [draw.state.2])
  have hnonceOk : isBase64url 43 draw.flow.nonce := isBase64url_base64url (by rw [draw.nonce.2])
  have hverifierOk : isBase64url 64 draw.flow.verifier := isBase64url_base64url (by rw [draw.verifier.2])
  have hequal : equalText draw.flow.state draw.flow.state := decide_eq_true rfl
  rw [checkFlow, if_neg]
  · rw [hopen]
    simp only [Option.bind_eq_bind, Option.bind_some, hstate, hnonce, hverifier, hversion, hcreatedAt,
      safeInteger_createdAt]
    rw [if_neg]
    · rfl
    · simp only [not_or, not_not, Int.not_lt, ne_eq]
      exact ⟨trivial, hequal, hstateOk, hnonceOk, hverifierOk, by omega, by omega⟩
  · rintro (hnil | hlong)
    · rw [hnil] at hlength
      cases hlength
    · omega

/-- Nothing is dropped while there is room. -/
theorem evict_of_lt {entries : List (JsString × ℕ)} (h : entries.length < maxConsumedStates) :
    evict entries = entries := by
  cases entries with
  | nil => rfl
  | cons e entries => rw [evict, if_neg (Nat.not_le.2 h)]

theorem get?_pruneConsumedStates {now : ℕ} {consumed : ConsumedStates}
    (hroom : (unexpired now consumed).entries.length < maxConsumedStates) (key : JsString) :
    (pruneConsumedStates now consumed).get? key = (consumed.get? key).filter fun expiresAt => now < expiresAt := by
  rw [pruneConsumedStates, evict_of_lt hroom, ← Dict.get?_filterValues]
  rfl

/-- A call that throws, after or before the table is pruned, or a flow that is let through and remembered. -/
theorem consumeAuthorizationFlow_cases (sealed : List Char) (returnedState : JsString) (now : Millis)
    (consumed : ConsumedStates) :
    consumeAuthorizationFlow C cookieKey digest sealed returnedState now consumed = (none, consumed) ∨
      consumeAuthorizationFlow C cookieKey digest sealed returnedState now consumed =
        (none, pruneConsumedStates now consumed) ∨
      ∃ flow, checkFlow C cookieKey sealed returnedState now = some flow ∧
        (pruneConsumedStates now consumed).get? (digest flow.state) = none ∧
        consumeAuthorizationFlow C cookieKey digest sealed returnedState now consumed =
          (some flow, (pruneConsumedStates now consumed).set (digest flow.state) (now + authorizationFlowMillis)) := by
  unfold consumeAuthorizationFlow
  cases hcheck : checkFlow C cookieKey sealed returnedState now with
  | none => exact .inl rfl
  | some flow =>
    dsimp only
    by_cases hused : ((pruneConsumedStates now consumed).get? (digest flow.state)).isSome
    · rw [if_pos hused]
      exact .inr (.inl rfl)
    · rw [if_neg hused]
      exact .inr (.inr ⟨flow, rfl, Option.not_isSome_iff_eq_none.1 hused, rfl⟩)

section
variable {p : Process} {sealed : List Char} {returnedState : JsString} {now : Millis} {flow : AuthorizationFlow}

/-- The process after a flow is let through. -/
theorem after_of_pass (hcheck : checkFlow C cookieKey sealed returnedState now = some flow)
    (hunused : (pruneConsumedStates now p.consumed).get? (digest flow.state) = none) :
    p.after C cookieKey digest (.consume sealed returnedState now) =
      { p with
        consumed := (pruneConsumedStates now p.consumed).set (digest flow.state) (now + authorizationFlowMillis)
        clock := now
        passed := p.passed ++ [(flow, now.val)] } := by
  have heq : consumeAuthorizationFlow C cookieKey digest sealed returnedState now p.consumed =
      (some flow, (pruneConsumedStates now p.consumed).set (digest flow.state) (now + authorizationFlowMillis)) := by
    rw [consumeAuthorizationFlow, hcheck]
    dsimp only
    rw [hunused]
    rfl
  rw [Process.after, heq]
  rfl

/-- The process after a flow is refused because it was let through. -/
theorem after_of_used (hcheck : checkFlow C cookieKey sealed returnedState now = some flow)
    (hused : ((pruneConsumedStates now p.consumed).get? (digest flow.state)).isSome) :
    p.after C cookieKey digest (.consume sealed returnedState now) =
      { p with consumed := pruneConsumedStates now p.consumed, clock := now, passed := p.passed ++ [] } := by
  have heq : consumeAuthorizationFlow C cookieKey digest sealed returnedState now p.consumed =
      (none, pruneConsumedStates now p.consumed) := by
    rw [consumeAuthorizationFlow, hcheck]
    dsimp only
    rw [if_pos hused]
  rw [Process.after, heq]
  rfl

end

/-! ## Runs -/

/-- The table has room for a state, and a flow that was let through when it began is not as old as a flow may be. -/
def Process.Keeps (C : Crypto) (cookieKey : List UInt8) (p : Process) : Call → Prop
  | .begin _ => True
  | .consume sealed _ now => (unexpired now p.consumed).entries.length < maxConsumedStates ∧
      ∀ flow, openJson C cookieKey sealed "flow" = some flow.value → (flow, flow.createdAt) ∈ p.passed →
        now.val ≠ flow.createdAt + authorizationFlowMillis

/-- A flow that was let through was begun before, and its state is in the table until it expires. -/
structure Process.Remembered (digest : JsString → JsString) (p : Process) : Prop where
  states : (p.begun.map fun flow => flow.state).Nodup
  begun : ∀ flow ∈ p.begun, flow.createdAt ≤ p.clock
  passed : ∀ e ∈ p.passed, e.1 ∈ p.begun ∧ e.1.createdAt ≤ e.2 ∧ e.2 ≤ p.clock
  table : ∀ e ∈ p.passed, p.consumed.get? (digest e.1.state) = some (e.2 + authorizationFlowMillis) ∨
    e.2 + authorizationFlowMillis ≤ p.clock
  once : (p.passed.map fun e => e.1.state).Nodup

/-- A state is that of one flow. -/
theorem Process.Remembered.eq_of_state {p : Process} (h : p.Remembered digest) {a b : AuthorizationFlow}
    (ha : a ∈ p.begun) (hb : b ∈ p.begun) (hab : a.state = b.state) : a = b :=
      List.inj_on_of_nodup_map h.states ha hb hab

theorem Process.Remembered.begin {p : Process} (h : p.Remembered digest) {draw : Draw}
    (hallows : p.Allows C cookieKey (.begin draw)) : (p.after C cookieKey digest (.begin draw)).Remembered digest := by
  obtain ⟨hclock, hfresh⟩ := hallows
  constructor
  · show ((p.begun ++ [draw.flow]).map fun flow => flow.state).Nodup
    rw [List.map_append]
    refine List.nodup_append.2 ⟨h.states, List.nodup_singleton _, fun a ha b hb => ?_⟩
    obtain ⟨flow, hflow, rfl⟩ := List.mem_map.1 ha
    rw [List.mem_singleton.1 hb]
    exact hfresh flow hflow
  · intro flow hflow
    rcases List.mem_append.1 hflow with hflow | hflow
    · exact (h.begun flow hflow).trans hclock
    · rw [List.mem_singleton.1 hflow]
      exact le_refl _
  · intro e he
    obtain ⟨hbegun, hafter, hbefore⟩ := h.passed e he
    exact ⟨List.mem_append_left _ hbegun, hafter, hbefore.trans hclock⟩
  · intro e he
    exact (h.table e he).imp_right fun hexpired => hexpired.trans hclock
  · exact h.once

/-- A call that lets nothing through, and forgets nothing that has not expired. -/
theorem Process.Remembered.throws {p : Process} (h : p.Remembered digest) {now : ℕ} (hclock : p.clock ≤ now)
    {consumed : ConsumedStates}
    (hkeeps : ∀ key expiresAt, p.consumed.get? key = some expiresAt → now < expiresAt →
      consumed.get? key = some expiresAt) :
    Process.Remembered digest { p with consumed, clock := now, passed := p.passed ++ [] } := by
  rw [List.append_nil]
  constructor
  · exact h.states
  · exact fun flow hflow => (h.begun flow hflow).trans hclock
  · intro e he
    obtain ⟨hbegun, hafter, hbefore⟩ := h.passed e he
    exact ⟨hbegun, hafter, hbefore.trans hclock⟩
  · intro e he
    rcases h.table e he with hget | hexpired
    · by_cases hlive : now < e.2 + authorizationFlowMillis
      · exact .inl (hkeeps _ _ hget hlive)
      · exact .inr (Nat.not_lt.1 hlive)
    · exact .inr (hexpired.trans hclock)
  · exact h.once

/-- **A step**: a call keeps what was let through in the table, and lets no state through again. -/
theorem Process.Remembered.consume (hdigest : digest.Injective) {p : Process} (h : p.Remembered digest)
    {sealed : List Char} {returnedState : JsString} {now : Millis}
    (hallows : p.Allows C cookieKey (.consume sealed returnedState now))
    (hkeeps : p.Keeps C cookieKey (.consume sealed returnedState now)) :
    (p.after C cookieKey digest (.consume sealed returnedState now)).Remembered digest := by
  obtain ⟨hclock, hforged⟩ := hallows
  obtain ⟨hroom, hedge⟩ := hkeeps
  have hprune : ∀ key expiresAt, p.consumed.get? key = some expiresAt → now.val < expiresAt →
      (pruneConsumedStates now p.consumed).get? key = some expiresAt := by
    intro key expiresAt hget hlive
    rw [get?_pruneConsumedStates hroom, hget]
    exact if_pos (decide_eq_true hlive)
  unfold Process.after
  dsimp only
  rcases @consumeAuthorizationFlow_cases C cookieKey digest sealed returnedState now p.consumed with heq | heq |
    ⟨flow, hcheck, hunused, heq⟩
  · rw [heq]
    exact h.throws hclock fun _ _ hget _ => hget
  · rw [heq]
    exact h.throws hclock hprune
  · rw [heq]
    obtain ⟨value, hopen⟩ : ∃ value, openJson C cookieKey sealed "flow" = some value := by
      unfold checkFlow at hcheck
      split at hcheck
      · cases hcheck
      · obtain ⟨value, hopen, -⟩ := Option.bind_eq_some_iff.1 hcheck
        exact ⟨value, hopen⟩
    obtain ⟨begun, hbegun, rfl⟩ := hforged value hopen
    obtain ⟨rfl, hage⟩ := checkFlow_eq_some hopen hcheck
    have hfresh : ∀ e ∈ p.passed, e.1.state ≠ flow.state := by
      intro e he hstate
      obtain ⟨hpassed, hafter, -⟩ := h.passed e he
      obtain rfl : e.1 = flow := h.eq_of_state hpassed hbegun hstate
      -- its entry has expired, so it is at the age where only a flow that was consumed at once is let through
      have hexpired : e.2 + authorizationFlowMillis ≤ now := by
        rcases h.table e he with hget | hexpired
        · by_contra hlive
          rw [hprune _ _ hget (Nat.not_le.1 hlive)] at hunused
          cases hunused
        · exact hexpired.trans hclock
      have hsame : e.2 = e.1.createdAt := by omega
      refine hedge e.1 hopen ?_ (by omega)
      rw [← hsame]
      exact he
    have h' := h.throws hclock hprune
    rw [List.append_nil] at h'
    constructor
    · exact h.states
    · exact h'.begun
    · intro e he
      rcases List.mem_append.1 he with he | he
      · exact h'.passed e he
      · obtain rfl := List.mem_singleton.1 he
        exact ⟨hbegun, (h.begun flow hbegun).trans hclock, le_refl _⟩
    · intro e he
      rcases List.mem_append.1 he with he | he
      · rw [Dict.get?_set_ne _ fun heq => hfresh e he (hdigest heq)]
        exact h'.table e he
      · obtain rfl := List.mem_singleton.1 he
        exact .inl (Dict.get?_set_self _ _ _)
    · rw [List.map_append]
      refine List.nodup_append.2 ⟨h.once, List.nodup_singleton _, fun a ha b hb => ?_⟩
      obtain ⟨e, he, rfl⟩ := List.mem_map.1 ha
      rw [List.mem_singleton.1 hb]
      exact hfresh e he

theorem Process.Remembered.after (hdigest : digest.Injective) {p : Process} (h : p.Remembered digest) {call : Call}
    (hallows : p.Allows C cookieKey call) (hkeeps : p.Keeps C cookieKey call) :
    (p.after C cookieKey digest call).Remembered digest := by
  cases call with
  | begin draw => exact h.begin hallows
  | consume sealed returnedState now => exact h.consume hdigest hallows hkeeps

theorem reach_remembered (hdigest : digest.Injective) {p : Process}
    (h : (process C cookieKey digest).Reach (Process.Keeps C cookieKey) p) : p.Remembered digest := by
  refine Lts.Reach.invariant ?_ ?_ h
  · rintro p rfl
    exact ⟨.nil, by simp, by simp, by simp, .nil⟩
  · rintro p call p' - hp hkeeps ⟨hallows, rfl⟩
    exact hp.after hdigest hallows hkeeps

/-- **No state is let through twice**, in any run in which the table has room and no flow is presented five
    minutes after the millisecond in which it was begun and consumed. -/
theorem state_consumed_once (hdigest : digest.Injective) {p : Process}
    (h : (process C cookieKey digest).Reach (Process.Keeps C cookieKey) p) : (p.passed.map fun e => e.1.state).Nodup :=
  (reach_remembered hdigest h).once

end

/-! ## A flow on its own -/

/-- A flow that begins at noon. -/
def noonDraw : Draw where
  state := ⟨List.replicate 32 1, List.length_replicate⟩
  nonce := ⟨List.replicate 32 2, List.length_replicate⟩
  verifier := ⟨List.replicate 48 3, List.length_replicate⟩
  iv := ⟨List.replicate 12 4, List.length_replicate⟩
  now := ⟨1_785_000_000_000, by decide⟩

/-- A cipher that changes nothing, for one flow. -/
def flowCrypto (draw : Draw) : Crypto where
  encrypt _ _ _ plaintext := (plaintext, List.replicate 16 0)
  decrypt _ _ _ _ encrypted := some encrypted
  parse bytes := if bytes = utf8 draw.flow.text then some draw.flow.value else none

theorem flowCrypto_lawful (draw : Draw) : (flowCrypto draw).Lawful :=
  ⟨fun _ _ _ _ => rfl, fun _ _ _ _ => List.length_replicate, fun _ _ _ _ => rfl⟩

theorem parse_flowCrypto (draw : Draw) : (flowCrypto draw).parse (utf8 draw.flow.text) = some draw.flow.value :=
    if_pos rfl

def noonCrypto : Crypto := flowCrypto noonDraw

theorem noonCrypto_lawful : noonCrypto.Lawful := flowCrypto_lawful noonDraw

/-- Its cookie. -/
theorem exists_noonCookie : ∃ sealed, beginAuthorization noonCrypto [] noonDraw = some sealed ∧
    openJson noonCrypto [] sealed "flow" = some noonDraw.flow.value := by
  have hshort : (utf8 noonDraw.flow.text).length ≤ 2_817 := by decide +kernel
  have hne : utf8 noonDraw.flow.text ≠ [] := by decide +kernel
  have hsealed := @sealJson_eq noonCrypto [] noonDraw.iv.1 noonDraw.flow.text "flow" noonCrypto_lawful noonDraw.iv.2
  rw [if_pos hshort] at hsealed
  have hopen := openJson_sealed noonCrypto_lawful noonDraw.iv.2 hne hsealed
  rw [noonCrypto, parse_flowCrypto] at hopen
  exact ⟨_, hsealed, hopen⟩

/-- The process that has begun the flow. -/
def noonBegun : Process := ⟨∅, noonDraw.now, [noonDraw.flow], []⟩

/-- The process that has consumed it when it began. -/
def noonPassed : Process :=
  ⟨⟨[(noonDraw.flow.state, noonDraw.now + authorizationFlowMillis)]⟩, noonDraw.now, [noonDraw.flow],
    [(noonDraw.flow, noonDraw.now)]⟩

section
variable {ok : Process → Call → Prop} {sealed : List Char}

/-- The flow may be presented again and again. -/
theorem allows_noon (hopen : openJson noonCrypto [] sealed "flow" = some noonDraw.flow.value) {p : Process}
    (hbegun : p.begun = [noonDraw.flow]) {now : Millis} (hclock : p.clock ≤ now) :
    p.Allows noonCrypto [] (.consume sealed noonDraw.flow.state now) := by
  refine ⟨hclock, fun value hvalue => ⟨noonDraw.flow, ?_, ?_⟩⟩
  · rw [hbegun]
    exact List.mem_singleton_self _
  · rw [hopen] at hvalue
    exact (Option.some.inj hvalue).symm

theorem reach_noonPassed (hopen : openJson noonCrypto [] sealed "flow" = some noonDraw.flow.value)
    (hbegin : ok {} (.begin noonDraw)) (hconsume : ok noonBegun (.consume sealed noonDraw.flow.state noonDraw.now)) :
    (process noonCrypto [] id).Reach ok noonPassed := by
  have hbegun : (process noonCrypto [] id).Reach ok noonBegun :=
    Lts.Reach.step (Lts.Reach.init rfl) hbegin ⟨⟨Nat.zero_le _, by simp⟩, rfl⟩
  have hcheck := checkFlow_draw hopen (Nat.le_refl noonDraw.now.val) (Nat.le_add_right _ _)
  refine hbegun.step hconsume ⟨allows_noon hopen rfl (Nat.le_refl _), ?_⟩
  rw [after_of_pass hcheck rfl]
  rfl

end

def aMinuteLater : Millis := ⟨1_785_000_060_000, by decide⟩

def fiveMinutesLater : Millis := ⟨1_785_000_300_000, by decide⟩

/-- A minute later the flow is refused. -/
theorem state_consumed_once_noon : ∃ (sealed : List Char) (p : Process),
    beginAuthorization noonCrypto [] noonDraw = some sealed ∧
    p = noonPassed.after noonCrypto [] id (.consume sealed noonDraw.flow.state aMinuteLater) ∧
    p.passed.length = 1 ∧ (p.passed.map fun e => e.1.state).Nodup := by
  obtain ⟨sealed, hsealed, hopen⟩ := exists_noonCookie
  have hpassed : (process noonCrypto [] id).Reach (Process.Keeps noonCrypto []) noonPassed := by
    refine reach_noonPassed hopen trivial ⟨?_, fun flow _ hmem => ?_⟩
    · decide +kernel
    · cases hmem
  have hkeeps : noonPassed.Keeps noonCrypto [] (.consume sealed noonDraw.flow.state aMinuteLater) := by
    refine ⟨by decide +kernel, fun flow _ hmem => ?_⟩
    have hflow : flow = noonDraw.flow := congrArg Prod.fst (List.mem_singleton.1 hmem)
    rw [hflow]
    decide +kernel
  have hcheck : checkFlow noonCrypto [] sealed noonDraw.flow.state aMinuteLater = some noonDraw.flow :=
    checkFlow_draw hopen (by decide) (by decide)
  refine ⟨sealed, _, hsealed, rfl, ?_, state_consumed_once Function.injective_id (hpassed.step hkeeps
    ⟨allows_noon hopen rfl (by decide), rfl⟩)⟩
  rw [after_of_used hcheck (by decide +kernel)]
  rfl

/-- A flow that is consumed in the millisecond in which it began is let through once more five minutes later. -/
theorem flow_consumed_twice : ¬ ∀ (C : Crypto) (cookieKey : List UInt8) (digest : JsString → JsString), C.Lawful →
    digest.Injective → ∀ p : Process, (process C cookieKey digest).Reach Lts.anyStep p →
      (p.passed.map fun e => e.1.state).Nodup := by
  intro h
  obtain ⟨sealed, -, hopen⟩ := exists_noonCookie
  have hpassed : (process noonCrypto [] id).Reach Lts.anyStep noonPassed := reach_noonPassed hopen trivial trivial
  have hcheck : checkFlow noonCrypto [] sealed noonDraw.flow.state fiveMinutesLater = some noonDraw.flow :=
    checkFlow_draw hopen (by decide) (by decide)
  have hclock : noonPassed.clock ≤ fiveMinutesLater := by decide
  have hrun := h noonCrypto [] id noonCrypto_lawful Function.injective_id _
    (hpassed.step trivial ⟨allows_noon hopen rfl hclock, rfl⟩)
  rw [after_of_pass hcheck (by decide +kernel)] at hrun
  revert hrun
  decide +kernel

end RoutePilot.Web.Oidc
