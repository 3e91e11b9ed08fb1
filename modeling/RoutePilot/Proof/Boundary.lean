/-
  The request boundary of the HTTP API (`middleware/__init__.py`).

  Nothing is awaited while the lock of the windows is held, so that the lock is free
  whenever a request asks for it: a request is judged at the time it reads, and the
  requests one after the other.
-/
import Mathlib.Algebra.Order.Ring.Rat
import Mathlib.Logic.Function.Basic
import RoutePilot.Lib.History
import RoutePilot.Lib.SlidingLog

namespace RoutePilot.Boundary

open Lib Lts

/-- What the boundary reads of a request. -/
structure Request where
  method : String
  path : String
  /-- `request.client.host`, if there is a client -/
  host : Option String
  deriving DecidableEq

/-- `RequestBoundaryMiddleware`, with its defaults. -/
structure RequestBoundaryMiddleware where
  timeoutSeconds : ℚ := 30
  rateLimit : ℕ := 300
  rateWindowSeconds : ℚ := 60

/-- `_requests`. -/
abbrev Requests := String → List ℚ

/-- The paths that are not limited. -/
def healthPaths : List String := ["/api/live", "/api/ready", "/api/health"]

def Request.key (request : Request) : String := request.host.getD "unknown"

/-- The text occurs in the other one. -/
def occursIn (text : List Char) (path : List Char) : Bool := path.tails.any (text.isPrefixOf ·)

/-- `_streaming_path`. -/
def streamingPath (request : Request) : Bool :=
  request.method == "GET" &&
    ("/events".toList.isSuffixOf request.path.toList || occursIn "/a2a/".toList request.path.toList)

/-- What becomes of a request. -/
inductive Disposition where
  /-- status 429, `RATE_LIMITED` -/
  | limited
  | streamed
  /-- status 504, `REQUEST_TIMEOUT`, unless the response is there in time -/
  | within (timeoutSeconds : ℚ)
  deriving DecidableEq

namespace RequestBoundaryMiddleware
variable (self : RequestBoundaryMiddleware)

/-- `_allowed`. -/
def allowed (now : ℚ) (request : Request) (requests : Requests) : Bool × Requests :=
  if request.path ∈ healthPaths then (true, requests)
  else
    let window := trim (now - self.rateWindowSeconds) (requests request.key)
    if self.rateLimit ≤ window.length then (false, Function.update requests request.key window)
    else (true, Function.update requests request.key (window ++ [now]))

/-- `dispatch`. -/
def dispatch (now : ℚ) (request : Request) (requests : Requests) : Disposition × Requests :=
  let result := self.allowed now request requests
  if result.1 = false then (.limited, result.2)
  else if streamingPath request then (.streamed, result.2)
  else (.within self.timeoutSeconds, result.2)

end RequestBoundaryMiddleware

/-! ## Requests one after the other -/

/-- A request that was dispatched. -/
structure Seen where
  time : ℚ
  request : Request
  disposition : Disposition

structure World where
  clock : ℚ
  requests : Requests := fun _ => []
  seen : List Seen := []

/-- The requests come at nondecreasing times of the monotonic clock. -/
def boundary (m : RequestBoundaryMiddleware) : Lts World (ℚ × Request) where
  init w := ∃ clock, w = { clock }
  step w l w' := w.clock ≤ l.1 ∧ w' = {
    clock := l.1
    requests := (m.dispatch l.1 l.2 w.requests).2
    seen := w.seen ++ [⟨l.1, l.2, (m.dispatch l.1 l.2 w.requests).1⟩] }

/-- The request counts. -/
def Seen.counts (key : String) (e : Seen) : Bool :=
  e.request.key == key && e.request.path ∉ healthPaths && e.disposition ≠ .limited

/-- When the requests of a client that count were let through. -/
def passed (key : String) (seen : List Seen) : List ℚ := (seen.filter (·.counts key)).map (·.time)

theorem passed_append (key : String) (seen : List Seen) (e : Seen) :
    passed key (seen ++ [e]) = passed key seen ++ if e.counts key then [e.time] else [] := by
  unfold passed
  rw [List.filter_append, List.map_append]
  cases h : e.counts key <;> simp [h]

/-- What the boundary promises of the requests seen so far. -/
structure Limited (m : RequestBoundaryMiddleware) (seen : List Seen) : Prop where
  /-- a request is refused if and only if it is no health check and its client has used up the window that
      ends with it -/
  refused : Every (fun before e => e.disposition = .limited ↔ e.request.path ∉ healthPaths ∧
    m.rateLimit ≤ within (· - m.rateWindowSeconds) e.time (passed e.request.key before)) seen
  /-- no window has more than the limit -/
  most : ∀ key t, within (· - m.rateWindowSeconds) t (passed key seen) ≤ m.rateLimit

section
variable {m : RequestBoundaryMiddleware} {now : ℚ} {request : Request} {requests : Requests}

theorem dispatch_snd : (m.dispatch now request requests).2 = (m.allowed now request requests).2 := by
  unfold RequestBoundaryMiddleware.dispatch
  dsimp only
  split_ifs <;> rfl

theorem dispatch_limited :
    (m.dispatch now request requests).1 = .limited ↔ (m.allowed now request requests).1 = false := by
  unfold RequestBoundaryMiddleware.dispatch
  dsimp only
  split_ifs with hok hstreams
  · simp [hok]
  · simp [hok]
  · simp [hok]

/-- How a request is judged. -/
inductive Judged (m : RequestBoundaryMiddleware) (now : ℚ) (request : Request) (requests : Requests) : Prop
  /-- a health check is let through, and nothing else happens -/
  | healthy (h : request.path ∈ healthPaths) (hpassed : (m.dispatch now request requests).1 ≠ .limited)
      (hsame : (m.dispatch now request requests).2 = requests)
  | refused (h : request.path ∉ healthPaths)
      (hfull : m.rateLimit ≤ (trim (now - m.rateWindowSeconds) (requests request.key)).length)
      (hlimited : (m.dispatch now request requests).1 = .limited)
      (hwindow : (m.dispatch now request requests).2 =
        Function.update requests request.key (trim (now - m.rateWindowSeconds) (requests request.key)))
  | passed (h : request.path ∉ healthPaths)
      (hroom : (trim (now - m.rateWindowSeconds) (requests request.key)).length < m.rateLimit)
      (hpassed : (m.dispatch now request requests).1 ≠ .limited)
      (hwindow : (m.dispatch now request requests).2 =
        Function.update requests request.key (trim (now - m.rateWindowSeconds) (requests request.key) ++ [now]))

theorem judged (m : RequestBoundaryMiddleware) (now : ℚ) (request : Request) (requests : Requests) :
    Judged m now request requests := by
  by_cases h : request.path ∈ healthPaths
  · refine .healthy h ?_ ?_
    · simp [dispatch_limited, RequestBoundaryMiddleware.allowed, h]
    · simp [dispatch_snd, RequestBoundaryMiddleware.allowed, h]
  · by_cases hfull : m.rateLimit ≤ (trim (now - m.rateWindowSeconds) (requests request.key)).length
    · refine .refused h hfull ?_ ?_
      · simp [dispatch_limited, RequestBoundaryMiddleware.allowed, h, hfull]
      · simp [dispatch_snd, RequestBoundaryMiddleware.allowed, h, hfull]
    · refine .passed h (not_le.1 hfull) ?_ ?_
      · simp [dispatch_limited, RequestBoundaryMiddleware.allowed, h, hfull]
      · simp [dispatch_snd, RequestBoundaryMiddleware.allowed, h, hfull]

end

section
variable {m : RequestBoundaryMiddleware} {w : World} {now : ℚ} {request : Request}

/-- What is promised of the requests, and the windows that keep it. -/
structure Sound (m : RequestBoundaryMiddleware) (w : World) : Prop extends Limited m w.seen where
  windows : ∀ key, Logged (· - m.rateWindowSeconds) m.rateLimit w.clock (passed key w.seen) (w.requests key)

theorem cutoff_mono (m : RequestBoundaryMiddleware) : Monotone (· - m.rateWindowSeconds) :=
  fun _ _ h => sub_le_sub_right h _

/-- The windows after one more request. -/
theorem logged_step (request : Request)
    (h : ∀ key, Logged (· - m.rateWindowSeconds) m.rateLimit now (passed key w.seen) (w.requests key)) (key : String) :
    Logged (· - m.rateWindowSeconds) m.rateLimit now
      (passed key (w.seen ++ [⟨now, request, (m.dispatch now request w.requests).1⟩]))
      ((m.dispatch now request w.requests).2 key) := by
  rw [passed_append]
  rcases judged m now request w.requests with
    ⟨hpath, hpassed, hsame⟩ | ⟨hpath, hfull, hlimited, hwindow⟩ | ⟨hpath, hroom, hpassed, hwindow⟩
  · rw [hsame]
    simpa [Seen.counts, hpath] using h key
  · rw [hwindow]
    by_cases hkey : key = request.key
    · subst hkey
      simpa [Seen.counts, hlimited] using (h request.key).trim
    · rw [Function.update_of_ne hkey]
      simpa [Seen.counts, hlimited] using h key
  · rw [hwindow]
    by_cases hkey : key = request.key
    · subst hkey
      have hcharge := (h request.key).charge (cutoff_mono m) (Nat.lt_iff_add_one_le.1 hroom)
      simpa [Seen.counts, hpath, hpassed] using hcharge
    · rw [Function.update_of_ne hkey]
      simpa [Seen.counts, Ne.symm hkey] using h key

theorem Sound.step (h : Sound m w) (hle : w.clock ≤ now) :
    Sound m {
      clock := now
      requests := (m.dispatch now request w.requests).2
      seen := w.seen ++ [⟨now, request, (m.dispatch now request w.requests).1⟩] } := by
  have hwait : ∀ key, Logged (· - m.rateWindowSeconds) m.rateLimit now (passed key w.seen) (w.requests key) :=
    fun key => (h.windows key).wait (cutoff_mono m) hle
  have hwindows := logged_step request hwait
  refine ⟨⟨every_snoc.2 ⟨h.refused, ?_⟩, fun key => (hwindows key).most⟩, hwindows⟩
  -- the window holds what was let through
  rw [← (hwait request.key).length_trim]
  rcases judged m now request w.requests with
    ⟨hpath, hpassed, -⟩ | ⟨hpath, hfull, hlimited, -⟩ | ⟨hpath, hroom, hpassed, -⟩
  · exact iff_of_false hpassed fun hfull => hfull.1 hpath
  · exact iff_of_true hlimited ⟨hpath, hfull⟩
  · exact iff_of_false hpassed fun hfull => not_le.2 hroom hfull.2

end

/-- **Every client has its own limit, and it is exact.**  Of the requests at nondecreasing times, one that is no health
    check is refused if and only if the limit of its client was let through in the window that ends with it;
    so no window of a client has more. -/
theorem boundary_limits {m : RequestBoundaryMiddleware} {w : World} (h : (boundary m).Reach anyStep w) :
    Limited m w.seen := by
  refine (h.invariant (I := Sound m) ?_ ?_).toLimited
  · rintro w ⟨clock, rfl⟩
    exact ⟨⟨.nil, fun key t => Nat.zero_le _⟩, fun key => .nil⟩
  · rintro w ⟨now, request⟩ w' - hw - ⟨hle, rfl⟩
    exact hw.step hle

/-- One request a minute. -/
theorem boundary_limits_two : ∃ w, (boundary { rateLimit := 1 }).Reach anyStep w ∧
    w.seen.map (·.disposition) = [.within 30, .limited, .streamed] ∧ Limited { rateLimit := 1 } w.seen := by
  let ask : Request := ⟨"POST", "/api/v1/trips", some "10.0.0.1"⟩
  let follow : Request := ⟨"GET", "/api/v1/runs/run_1/events", some "10.0.0.1"⟩
  have h₀ : (boundary { rateLimit := 1 }).Reach anyStep { clock := 0 } := .init ⟨0, rfl⟩
  have h₁ := h₀.step (l := ((0 : ℚ), ask)) trivial ⟨le_rfl, rfl⟩
  have h₂ := h₁.step (l := ((1 : ℚ), ask)) trivial ⟨by decide, rfl⟩
  have h₃ := h₂.step (l := ((60 : ℚ), follow)) trivial ⟨by decide, rfl⟩
  exact ⟨_, h₃, by decide +kernel, boundary_limits h₃⟩

end RoutePilot.Boundary
