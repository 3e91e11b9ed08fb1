/-
  The deterministic planner (`planning.py`).

  A route service is asked with the number of calls before, so that it may
  answer as it likes.  The identifiers of a plan are drawn from `Draws`.  Amounts
  are in ten-thousandths; a sum of them is rounded as the decimal context rounds.
  `str.casefold` is a parameter.
-/
import Mathlib.Data.List.Infix
import RoutePilot.Contracts.Plan
import RoutePilot.Planning.Replan

namespace RoutePilot.Planning

open Lib Contracts

/-! ## Policy, routes and identifiers -/

structure PlanningPolicy where
  dayStartHour : ℕ := 9
  dayEndHour : ℕ := 20
  maxBlocksPerDay : ℕ := 4
  defaultDurationMinutes : ℕ := 120
  minimumBufferMinutes : ℕ := 15

/-- `route_service.route(origin, destination)`, after a number of calls. -/
abbrev RouteService := ℕ → Candidate → Candidate → TransitLeg

/-- `new_id`. -/
def newId (kind : String) (token : Hex 24) : String := kind ++ "_" ++ token.text

/-- The tokens of one plan. -/
structure Draws where
  item : ℕ → Hex 24
  artifact : Hex 24
  citation : Hex 24

/-- `f"block_{day_index}_{block_index}_{new_id('item')}"` -/
def blockId (dayIndex blockIndex : ℕ) (token : Hex 24) : String :=
  "block_" ++ toString dayIndex ++ "_" ++ toString blockIndex ++ "_" ++ newId "item" token

/-- `artifact_ref`. -/
def artifactRef (artifactId : String) (version : ℕ) : Except PyError ArtifactRef :=
  check (isIdentifier artifactId ∧ 1 ≤ version) (.validationError "ArtifactRef")
    fun h => ⟨⟨artifactId, h.1⟩, version, h.2⟩

/-! ## Amounts -/

/-- The precision of the decimal context. -/
def precision : ℕ := 28

/-- `a + b` of decimals. -/
def plus (a b : ℕ) : ℕ := Lib.Decimal.roundTo precision (a + b)

/-- `_decimal_text`. -/
def decimalText (value : ℕ) : String := String.ofList (Lib.Decimal.format amountScale value)

def decimalAmount (s : String) : Except PyError DecimalAmount :=
  check (isDecimalAmount s) (.validationError "MoneyRange") fun h => ⟨s, h⟩

/-- `_money`. -/
def money (minimum maximum : ℕ) (currency : CurrencyCode) : Except PyError MoneyRange := do
  let minAmount ← decimalAmount (decimalText minimum)
  let maxAmount ← decimalAmount (decimalText maximum)
  moneyRange minAmount maxAmount currency .total

/-! ## Dates and moments -/

/-- `_dates`. -/
def dates (w : TripDateRange) : List Day :=
  List.ofFn fun i : Fin (w.endDate.ordinal - w.startDate.ordinal + 1) =>
    ⟨w.startDate.ordinal + i, by have := w.startDate.first; omega,
      by have := w.le; have := w.endDate.last; omega⟩

/-- Minutes of a day. -/
def dayMinutes : ℕ := 1440

/-- A `datetime` without `tzinfo`, on a whole minute: minutes from the day before the first. -/
abbrev Moment := ℕ

namespace Moment

/-- `datetime.combine(date, time(hour))`. -/
def combine (date : Day) (hour : ℕ) : Moment := date.ordinal * dayMinutes + hour * 60

/-- `m + timedelta(minutes=n)`. -/
def later (m : Moment) (n : ℕ) : Except PyError Moment :=
  check ((m + n) / dayMinutes ≤ maxOrdinal) .overflowError fun _ => m + n

/-- `m.hour`. -/
def hour (m : Moment) : ℕ := m % dayMinutes / 60

/-- `m.time()`. -/
def time (m : Moment) : LocalTime where
  micros := m % dayMinutes * 60_000_000
  lt := by
    have : m % dayMinutes < dayMinutes := Nat.mod_lt _ (by decide)
    simp only [dayMinutes, dayMicros] at *
    omega

end Moment

/-! ## Candidates in their order -/

/-- `term in text` -/
def occurs (term text : String) : Bool := decide (term.toList <:+: text.toList)

section
variable (casefold : String → String)

/-- `term in item.place_ref.display_name.casefold()` -/
def mentions (term : String) (item : Candidate) : Bool :=
  occurs term (casefold item.placeRef.displayName.1)

/-- The folded descriptions of the hard constraints of a type. -/
def hardTerms (brief : TripBrief) (constraintType : ConstraintType) : List String :=
  (brief.constraints.filter fun c => c.hard && c.constraintType = constraintType).map
    (casefold ·.description.1)

/-- The candidates that no avoid constraint names. -/
def eligible (brief : TripBrief) (candidates : CandidateSet) : List Candidate :=
  candidates.candidates.filter fun item =>
    !(hardTerms casefold brief .avoid).any (mentions casefold · item)

/-- For each visit constraint in turn, the eligible candidates that it names. -/
def retained (brief : TripBrief) (candidates : CandidateSet) : List Candidate :=
  (hardTerms casefold brief .visit).flatMap fun term =>
    (eligible casefold brief candidates).filter (mentions casefold term)

/-- `planning_candidates`. -/
def planningCandidates (brief : TripBrief) (candidates : CandidateSet) : List Candidate :=
  let retained := retained casefold brief candidates
  retained ++ (eligible casefold brief candidates).filter
    (·.candidateId ∉ retained.map (·.candidateId))

variable {casefold}

theorem planningCandidates_ne_nil {brief : TripBrief} {candidates : CandidateSet}
    (h : eligible casefold brief candidates ≠ []) : planningCandidates casefold brief candidates ≠ [] := by
  obtain ⟨item, hitem⟩ := List.exists_mem_of_ne_nil _ h
  intro hnil
  obtain ⟨hretained, hrest⟩ := List.append_eq_nil_iff.1 hnil
  have := List.filter_eq_nil_iff.1 hrest item hitem
  simp [hretained] at this

end

/-- Candidates to be taken in turn. -/
abbrev Rota := { l : List Candidate // l ≠ [] }

namespace Rota

def length (r : Rota) : ℕ := r.1.length

theorem length_pos (r : Rota) : 0 < r.length := List.length_pos_iff.2 r.2

/-- `planning_candidates[cursor % len(planning_candidates)]` -/
def pick (r : Rota) (cursor : ℕ) : Candidate :=
  r.1.get ⟨cursor % r.length, Nat.mod_lt _ r.length_pos⟩

end Rota

/-! ## Days -/

/-- What one call of the planner has: its policy, inputs and oracles. -/
structure Planner where
  policy : PlanningPolicy := {}
  start : policy.dayStartHour < 24 := by decide
  route : RouteService
  draws : Draws

/-- The sums over the legs so far. -/
structure Routes where
  distance : ℕ := 0
  duration : ℕ := 0
  legs : ℕ := 0

/-- The sums with a leg, if there is one. -/
def Routes.add (r : Routes) : Option TransitLeg → Routes
  | none => r
  | some leg => ⟨r.distance + leg.distanceMeters, r.duration + leg.durationMaxMinutes, r.legs + 1⟩

/-- What runs on from day to day. -/
structure Progress where
  cursor : ℕ := 0
  routes : Routes := {}
  /-- identifiers of blocks drawn so far -/
  drawn : ℕ := 0

/-- The variables of a day's loop. -/
structure DayState extends Progress where
  currentTime : Moment
  previous : Option Candidate := none
  blocks : List PlanTimeBlock := []
  dayMin : ℕ := 0
  dayMax : ℕ := 0

namespace Planner

variable (p : Planner) (timezone : Timezone) (currency : CurrencyCode) (rota : Rota)

/-- `min(240, candidate.recommended_duration_minutes or default_duration_minutes)` -/
def duration (candidate : Candidate) : ℕ :=
  min 240 (candidate.recommendedDurationMinutes.getD p.policy.defaultDurationMinutes)

/-- The leg from the previous candidate of the day. -/
def transit (s : DayState) (candidate : Candidate) : Option TransitLeg :=
  s.previous.map fun previous => p.route s.routes.legs previous candidate

/-- When the visit can begin. -/
def arrive (s : DayState) : Option TransitLeg → Except PyError Moment
  | none => .ok s.currentTime
  | some leg => s.currentTime.later (leg.durationMaxMinutes + p.policy.minimumBufferMinutes)

/-- `candidate.estimated_cost`, or nothing to pay. -/
def cost (candidate : Candidate) : Except PyError MoneyRange :=
  match candidate.estimatedCost with
  | some cost => .ok cost
  | none => money 0 0 currency

/-- The loop over the blocks of a day. -/
def placeBlocks (dayIndex : ℕ) (date : Day) : ℕ → ℕ → DayState → Except PyError DayState
  | 0, _, s => .ok s
  | remaining + 1, blockIndex, s => do
    let candidate := rota.pick s.cursor
    let transit := p.transit s candidate
    let startTime ← p.arrive s transit
    let duration := p.duration candidate
    let endTime ← startTime.later duration
    if s.blocks ≠ [] ∧ p.policy.dayEndHour ≤ endTime.hour then
      return { s with cursor := s.cursor + 1, routes := s.routes.add transit, currentTime := startTime }
    let cost ← cost currency candidate
    let cost ← check (cost.currency = currency)
      (.valueError "candidate costs must use the trip budget currency") fun _ => cost
    let timeRange ← zonedTimeRange date startTime.time endTime.time timezone
    let block ← planTimeBlock (blockId dayIndex blockIndex (p.draws.item s.drawn)) candidate timeRange
      duration transit cost
    placeBlocks dayIndex date remaining (blockIndex + 1)
      { cursor := s.cursor + 1, routes := s.routes.add transit, drawn := s.drawn + 1
        currentTime := endTime, previous := some candidate, blocks := s.blocks ++ [block]
        dayMin := plus s.dayMin cost.minAmount.value, dayMax := plus s.dayMax cost.maxAmount.value }

/-- How many candidates a day may take. -/
def blocksPerDay : ℕ := min p.policy.maxBlocksPerDay rota.length

/-- What the days so far sum up to. -/
structure PlanState extends Progress where
  days : List PlanDay := []
  totalMin : ℕ := 0
  totalMax : ℕ := 0

/-- The state that a day begins in. -/
def PlanState.morning (s : PlanState) (policy : PlanningPolicy) (date : Day) : DayState :=
  { s.toProgress with currentTime := .combine date policy.dayStartHour }

/-- One day of the plan. -/
def placeDay (dayIndex : ℕ) (date : Day) (s : PlanState) : Except PyError PlanState := do
  let day ← p.placeBlocks timezone currency rota dayIndex date (p.blocksPerDay rota) 0
    (s.morning p.policy date)
  let _ ← check (day.blocks ≠ [])
    (.valueError "planning policy could not place at least one candidate per day") fun _ => ()
  let dailyCost ← money day.dayMin day.dayMax currency
  let planDay ← planDay date timezone day.blocks dailyCost
  return { day.toProgress with
    days := s.days ++ [planDay]
    totalMin := plus s.totalMin day.dayMin, totalMax := plus s.totalMax day.dayMax }

/-- The loop over the dates. -/
def placeDays : ℕ → List Day → PlanState → Except PyError PlanState
  | _, [], s => .ok s
  | dayIndex, date :: dates, s => do
    let s ← p.placeDay timezone currency rota dayIndex date s
    placeDays (dayIndex + 1) dates s

end Planner

/-! ## The plan -/

/-- `_citations`. -/
def citations (evidence : EvidenceBundle) (token : Hex 24) : Except PyError (List Citation) :=
  match evidence.citations, evidence.evidence with
  | [], first :: _ =>
    check (isIdentifier (newId "citation" token) ∧ IsText 1 512 ("evidence:" ++ first.evidenceId.1))
      (.validationError "Citation")
      fun h => [⟨⟨_, h.1⟩, first.evidenceId, first.title, ⟨_, h.2⟩⟩]
  | citations, _ => .ok citations

/-- `ItineraryPlan(...)` of a brief, candidates and evidence. -/
def itineraryPlan (artifactId : String) (tripBriefRef : ArtifactRef) (candidates : CandidateSet)
    (evidence : EvidenceBundle) (days : List PlanDay) (estimatedTotal : MoneyRange) (routes : Routes)
    (citations : List Citation) : Except PyError ItineraryPlan :=
  check (isIdentifier artifactId ∧
      ItineraryPlan.Checked candidates.timezone days estimatedTotal.currency citations [])
    (.validationError "ItineraryPlan")
    fun h =>
      { artifactId := ⟨artifactId, h.1⟩, version := 1, tripBriefRef
        candidateSetRef := ⟨candidates.artifactId, candidates.version, candidates.positive⟩
        evidenceBundleRef := ⟨evidence.artifactId, evidence.version, evidence.positive⟩
        timezone := candidates.timezone, days, estimatedTotal
        routeSummary := ⟨routes.distance, routes.duration, routes.legs⟩
        citations, positive := firstVersion, checked := h.2 }

/-- `DeterministicPlanner.build_candidate`. -/
def buildCandidate (casefold : String → String) (p : Planner) (brief : TripBrief)
    (candidates : CandidateSet) (evidence : EvidenceBundle) : Except PyError ItineraryPlan := do
  let _ ← check (candidates.tripBriefRef.artifactId.1 = brief.artifactId)
    (.valueError "candidate set does not belong to the supplied trip brief") fun _ => ()
  let _ ← check (candidates.evidenceBundleRef.artifactId = evidence.artifactId)
    (.valueError "candidate set does not belong to the supplied evidence bundle") fun _ => ()
  let _ ← check (brief.destination.timezone = candidates.timezone ∧ evidence.timezone = candidates.timezone)
    (.valueError "planner inputs must share one timezone") fun _ => ()
  let rota ← check (eligible casefold brief candidates ≠ [])
    (.valueError "hard avoid constraints removed every grounded candidate")
    fun h => (⟨planningCandidates casefold brief candidates, planningCandidates_ne_nil h⟩ : Rota)
  let currency := brief.budget.currency
  let s ← p.placeDays candidates.timezone currency rota 0 (dates brief.dateWindow) {}
  let estimatedTotal ← money s.totalMin s.totalMax currency
  let tripBriefRef ← artifactRef brief.artifactId brief.version
  let citations ← citations evidence p.draws.citation
  itineraryPlan (newId "artifact" p.draws.artifact) tripBriefRef candidates evidence s.days estimatedTotal
    s.routes citations

end RoutePilot.Planning
