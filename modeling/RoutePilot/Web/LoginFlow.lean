/-
  Authorization flows of the web server (`beginAuthorization` and
  `consumeAuthorizationFlow` in `oidc.ts`).

  A flow is sealed into a cookie.  A flow that is consumed is remembered, by the digest of
  its state, until it is older than a flow may be; the oldest entries are dropped when
  there are too many.
-/
import RoutePilot.Lib.Dict
import RoutePilot.Lib.Lts
import RoutePilot.Web.Oidc

namespace RoutePilot.Web.Oidc

open Lib

/-! ## Flows -/

/-- `AUTHORIZATION_FLOW_SECONDS`, in milliseconds. -/
def authorizationFlowMillis : ℕ := 5 * 60 * 1_000

/-- `MAX_CONSUMED_STATES` -/
def maxConsumedStates : ℕ := 4_096

structure AuthorizationFlow where
  state : JsString
  nonce : JsString
  verifier : JsString
  createdAt : ℕ
  deriving DecidableEq

/-- `JSON.stringify` of a flow. -/
def AuthorizationFlow.text (flow : AuthorizationFlow) : JsString :=
  units "\x7b\"version\":1,\"state\":" ++ quote flow.state ++ units ",\"nonce\":" ++ quote flow.nonce ++
    units ",\"verifier\":" ++ quote flow.verifier ++ units (",\"createdAt\":" ++ toString flow.createdAt ++ "\x7d")

/-- The flow as an object. -/
def AuthorizationFlow.value (flow : AuthorizationFlow) : JsValue :=
  .object [(units "version", .number 1), (units "state", .string flow.state), (units "nonce", .string flow.nonce),
    (units "verifier", .string flow.verifier), (units "createdAt", .number flow.createdAt)]

/-- What `randomBytes` and the clock return. -/
structure Draw where
  state : { bytes : List UInt8 // bytes.length = 32 }
  nonce : { bytes : List UInt8 // bytes.length = 32 }
  verifier : { bytes : List UInt8 // bytes.length = 48 }
  iv : { bytes : List UInt8 // bytes.length = 12 }
  now : Millis

/-- The flow of a draw. -/
def Draw.flow (draw : Draw) : AuthorizationFlow where
  state := (base64url draw.state.1).map fun c => UInt16.ofNat c.toNat
  nonce := (base64url draw.nonce.1).map fun c => UInt16.ofNat c.toNat
  verifier := (base64url draw.verifier.1).map fun c => UInt16.ofNat c.toNat
  createdAt := draw.now

/-- A text of the alphabet of base64url, of a length. -/
def isBase64url (length : ℕ) (s : JsString) : Bool :=
  s.length = length && s.all fun u => u.toNat < 0x80 && Char.ofNat u.toNat ∈ Base64.alphabet

/-- The text of a field. -/
def stringField (value : JsValue) (key : String) : Option JsString :=
  match value.get? key with
  | some (.string s) => some s
  | _ => none

section
variable (C : Crypto) (cookieKey : List UInt8)

/-- The flow cookie of `beginAuthorization`. -/
def beginAuthorization (draw : Draw) : Option (List Char) := sealJson C cookieKey draw.iv draw.flow.text "flow"

/-- The flow of a cookie that may be consumed; the fields of the flows that were sealed are texts. -/
def checkFlow (sealed : List Char) (returnedState : JsString) (now : Millis) : Option AuthorizationFlow :=
  if returnedState = [] ∨ 256 < returnedState.length then none
  else do
    let flow ← openJson C cookieKey sealed "flow"
    let state ← stringField flow "state"
    let nonce ← stringField flow "nonce"
    let verifier ← stringField flow "verifier"
    let createdAt ← safeInteger (flow.get? "createdAt")
    match flow.get? "version" with
    | some (.number version) =>
      if version ≠ 1 ∨ ¬ equalText state returnedState ∨ ¬ isBase64url 43 state ∨ ¬ isBase64url 43 nonce ∨
          ¬ isBase64url 64 verifier ∨ now.val + 5_000 < createdAt ∨
            authorizationFlowMillis < now.val - createdAt then none
      else some { state, nonce, verifier, createdAt := createdAt.toNat }
    | _ => none

/-! ## Consumed states -/

/-- `consumedStates`: when the digests of states expire. -/
abbrev ConsumedStates := Dict JsString ℕ

/-- The first entries are deleted as long as there are too many. -/
def evict : List (JsString × ℕ) → List (JsString × ℕ)
  | [] => []
  | e :: entries => if maxConsumedStates ≤ (e :: entries).length then evict entries else e :: entries

/-- The entries that have not expired. -/
def unexpired (now : ℕ) (consumed : ConsumedStates) : ConsumedStates :=
  consumed.filterValues fun expiresAt => now < expiresAt

/-- `pruneConsumedStates`. -/
def pruneConsumedStates (now : ℕ) (consumed : ConsumedStates) : ConsumedStates :=
  ⟨evict (unexpired now consumed).entries⟩

/-- `consumeAuthorizationFlow`, with the digest of a state: the flow, or `none` if it throws. -/
def consumeAuthorizationFlow (digest : JsString → JsString) (sealed : List Char) (returnedState : JsString)
    (now : Millis) (consumed : ConsumedStates) : Option AuthorizationFlow × ConsumedStates :=
  match checkFlow C cookieKey sealed returnedState now with
  | none => (none, consumed)
  | some flow =>
    let consumed := pruneConsumedStates now consumed
    if (consumed.get? (digest flow.state)).isSome then (none, consumed)
    else (some flow, consumed.set (digest flow.state) (now + authorizationFlowMillis))

end

/-! ## A process -/

/-- A process, with the flows it has begun and the ones it has let through, and when. -/
structure Process where
  consumed : ConsumedStates := ∅
  clock : ℕ := 0
  begun : List AuthorizationFlow := []
  passed : List (AuthorizationFlow × ℕ) := []

inductive Call where
  | begin (draw : Draw)
  | consume (sealed : List Char) (returnedState : JsString) (now : Millis)

section
variable (C : Crypto) (cookieKey : List UInt8) (digest : JsString → JsString)

/-- The process after a call. -/
def Process.after (p : Process) : Call → Process
  | .begin draw => { p with clock := draw.now, begun := p.begun ++ [draw.flow] }
  | .consume sealed returnedState now =>
    let outcome := consumeAuthorizationFlow C cookieKey digest sealed returnedState now p.consumed
    { p with
      consumed := outcome.2
      clock := now
      passed := p.passed ++ (outcome.1.map fun flow => (flow, now.val)).toList }

/-- What is assumed of a call: time does not go back, no state is drawn twice, and a cookie that can be opened is one
    of a flow that was begun. -/
def Process.Allows (p : Process) : Call → Prop
  | .begin draw => p.clock ≤ draw.now ∧ ∀ flow ∈ p.begun, flow.state ≠ draw.flow.state
  | .consume sealed _ now => p.clock ≤ now ∧
      ∀ value, openJson C cookieKey sealed "flow" = some value → ∃ flow ∈ p.begun, value = flow.value

/-- The runs of a process. -/
def process : Lts Process Call where
  init p := p = {}
  step p call p' := p.Allows C cookieKey call ∧ p' = p.after C cookieKey digest call

end

end RoutePilot.Web.Oidc
