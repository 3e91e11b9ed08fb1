/-
  Evidence, candidates and the itinerary plan (`routepilot_contracts/artifacts.py`),
  as far as planning and validation read them.

  Each contract model has a constructor that checks what the model's validators
  check; the checked facts are fields of what it makes.
-/
import Mathlib.Data.List.Nodup
import RoutePilot.Contracts.Brief

namespace RoutePilot.Contracts

open Lib

/-! ## Evidence -/

structure EvidenceItem where
  evidenceId : Identifier
  title : ShortText
  freshness : FreshnessStatus
  deriving DecidableEq

inductive ResolutionStatus where
  | unresolved
  | resolved
  | acceptedRisk
  deriving DecidableEq, Repr

structure EvidenceConflict where
  conflictId : Identifier
  topic : ShortText
  evidenceRefs : List Identifier
  resolutionStatus : ResolutionStatus
  bounded : 2 ≤ evidenceRefs.length ∧ evidenceRefs.length ≤ 20
  deriving DecidableEq

structure EvidenceBundle where
  artifactId : Identifier
  version : ℕ
  timezone : Timezone
  evidence : List EvidenceItem
  citations : List Citation := []
  conflicts : List EvidenceConflict := []
  positive : 1 ≤ version
  bounded : 1 ≤ evidence.length ∧ evidence.length ≤ 1000 ∧ citations.length ≤ 1000 ∧
    conflicts.length ≤ 200
  unique : (evidence.map (·.evidenceId)).Nodup
  cited : ∀ c ∈ citations, c.evidenceId ∈ evidence.map (·.evidenceId)
  known : ∀ c ∈ conflicts, ∀ ref ∈ c.evidenceRefs, ref ∈ evidence.map (·.evidenceId)

/-- The identifiers of the evidence. -/
def EvidenceBundle.ids (e : EvidenceBundle) : List Identifier := e.evidence.map (·.evidenceId)

/-! ## Candidates -/

structure Candidate where
  candidateId : Identifier
  placeRef : PlaceRef
  evidenceRefs : List Identifier
  estimatedCost : Option MoneyRange := none
  recommendedDurationMinutes : Option ℕ := none
  referenced : 1 ≤ evidenceRefs.length ∧ evidenceRefs.length ≤ 100
  duration : ∀ minutes ∈ recommendedDurationMinutes, 0 < minutes ∧ minutes ≤ 10_080
  deriving DecidableEq

structure CandidateSet where
  artifactId : Identifier
  version : ℕ
  tripBriefRef : ArtifactRef
  evidenceBundleRef : ArtifactRef
  timezone : Timezone
  candidates : List Candidate
  positive : 1 ≤ version
  bounded : 1 ≤ candidates.length ∧ candidates.length ≤ 500
  unique : (candidates.map (·.candidateId)).Nodup
  zoned : ∀ c ∈ candidates, c.placeRef.timezone = timezone

/-! ## Plans -/

structure PlanTimeBlock where
  blockId : Identifier
  title : ShortText
  placeRef : PlaceRef
  timeRange : ZonedTimeRange
  durationMinutes : ℕ
  transitFromPrevious : Option TransitLeg := none
  costRange : Option MoneyRange := none
  evidenceRefs : List Identifier
  bounded : 0 < durationMinutes ∧ durationMinutes ≤ 1440
  referenced : 1 ≤ evidenceRefs.length ∧ evidenceRefs.length ≤ 100
  zoned : placeRef.timezone = timeRange.timezone
  deriving DecidableEq

/-- A visit block of a candidate. -/
def planTimeBlock (blockId : String) (candidate : Candidate) (timeRange : ZonedTimeRange)
    (durationMinutes : ℕ) (transit : Option TransitLeg) (cost : MoneyRange) :
    Except PyError PlanTimeBlock :=
  check (isIdentifier blockId ∧ (0 < durationMinutes ∧ durationMinutes ≤ 1440) ∧
      candidate.placeRef.timezone = timeRange.timezone) (.validationError "PlanTimeBlock")
    fun h => { blockId := ⟨blockId, h.1⟩, title := candidate.placeRef.displayName
               placeRef := candidate.placeRef, timeRange, durationMinutes
               transitFromPrevious := transit, costRange := some cost
               evidenceRefs := candidate.evidenceRefs, bounded := h.2.1
               referenced := candidate.referenced, zoned := h.2.2 }

/-- Times that can be compared, in order. -/
def Ordered (starts : List LocalTime) : Prop :=
  starts.Pairwise fun t t' => t.Comparable t' ∧ t.utc ≤ t'.utc

instance (starts : List LocalTime) : Decidable (Ordered starts) :=
  inferInstanceAs (Decidable (starts.Pairwise _))

/-- `PlanDay.validate_day`. -/
structure PlanDay.Checked (date : Day) (timezone : Timezone) (timeBlocks : List PlanTimeBlock) : Prop where
  bounded : 1 ≤ timeBlocks.length ∧ timeBlocks.length ≤ 50
  unique : (timeBlocks.map (·.blockId)).Nodup
  dated : ∀ b ∈ timeBlocks, b.timeRange.localDate = date
  zoned : ∀ b ∈ timeBlocks, b.timeRange.timezone = timezone
  ordered : Ordered (timeBlocks.map (·.timeRange.startLocalTime))

theorem PlanDay.checked_iff {date : Day} {timezone : Timezone} {timeBlocks : List PlanTimeBlock} :
    PlanDay.Checked date timezone timeBlocks ↔
      (1 ≤ timeBlocks.length ∧ timeBlocks.length ≤ 50) ∧ (timeBlocks.map (·.blockId)).Nodup ∧
        (∀ b ∈ timeBlocks, b.timeRange.localDate = date) ∧
        (∀ b ∈ timeBlocks, b.timeRange.timezone = timezone) ∧
        Ordered (timeBlocks.map (·.timeRange.startLocalTime)) :=
  ⟨fun ⟨h₁, h₂, h₃, h₄, h₅⟩ => ⟨h₁, h₂, h₃, h₄, h₅⟩, fun ⟨h₁, h₂, h₃, h₄, h₅⟩ => ⟨h₁, h₂, h₃, h₄, h₅⟩⟩

instance (date : Day) (timezone : Timezone) (timeBlocks : List PlanTimeBlock) :
    Decidable (PlanDay.Checked date timezone timeBlocks) := decidable_of_iff' _ PlanDay.checked_iff

structure PlanDay where
  date : Day
  timezone : Timezone
  timeBlocks : List PlanTimeBlock
  dailyCost : MoneyRange
  checked : PlanDay.Checked date timezone timeBlocks

def planDay (date : Day) (timezone : Timezone) (timeBlocks : List PlanTimeBlock) (dailyCost : MoneyRange) :
    Except PyError PlanDay :=
  check (PlanDay.Checked date timezone timeBlocks) (.validationError "PlanDay")
    fun h => ⟨date, timezone, timeBlocks, dailyCost, h⟩

structure PlanAssumption where
  evidenceRefs : List Identifier := []
  bounded : evidenceRefs.length ≤ 50
  deriving DecidableEq

structure RouteSummary where
  totalDistanceMeters : ℕ
  totalTransitDurationMinutes : ℕ
  legsCount : ℕ
  deriving DecidableEq, Repr

/-- `ItineraryPlan.validate_plan`, for days in a timezone with costs in a currency. -/
structure ItineraryPlan.Checked (timezone : Timezone) (days : List PlanDay) (currency : CurrencyCode)
    (citations : List Citation) (assumptions : List PlanAssumption) : Prop where
  bounded : (1 ≤ days.length ∧ days.length ≤ 60) ∧ (1 ≤ citations.length ∧ citations.length ≤ 1000) ∧
    assumptions.length ≤ 100
  dated : (days.map (·.date.ordinal)).Pairwise (· < ·)
  zoned : ∀ d ∈ days, d.timezone = timezone
  currencies : ∀ d ∈ days, d.dailyCost.currency = currency

theorem ItineraryPlan.checked_iff {timezone : Timezone} {days : List PlanDay} {currency : CurrencyCode}
    {citations : List Citation} {assumptions : List PlanAssumption} :
    ItineraryPlan.Checked timezone days currency citations assumptions ↔
      ((1 ≤ days.length ∧ days.length ≤ 60) ∧ (1 ≤ citations.length ∧ citations.length ≤ 1000) ∧
        assumptions.length ≤ 100) ∧ (days.map (·.date.ordinal)).Pairwise (· < ·) ∧
        (∀ d ∈ days, d.timezone = timezone) ∧ ∀ d ∈ days, d.dailyCost.currency = currency :=
  ⟨fun ⟨h₁, h₂, h₃, h₄⟩ => ⟨h₁, h₂, h₃, h₄⟩, fun ⟨h₁, h₂, h₃, h₄⟩ => ⟨h₁, h₂, h₃, h₄⟩⟩

instance (timezone : Timezone) (days : List PlanDay) (currency : CurrencyCode)
    (citations : List Citation) (assumptions : List PlanAssumption) :
    Decidable (ItineraryPlan.Checked timezone days currency citations assumptions) :=
  decidable_of_iff' _ ItineraryPlan.checked_iff

structure ItineraryPlan where
  artifactId : Identifier
  version : ℕ
  tripBriefRef : ArtifactRef
  candidateSetRef : ArtifactRef
  evidenceBundleRef : ArtifactRef
  timezone : Timezone
  assumptions : List PlanAssumption := []
  days : List PlanDay
  estimatedTotal : MoneyRange
  routeSummary : RouteSummary
  citations : List Citation
  positive : 1 ≤ version
  checked : ItineraryPlan.Checked timezone days estimatedTotal.currency citations assumptions

/-- The blocks of all days. -/
def ItineraryPlan.blocks (p : ItineraryPlan) : List PlanTimeBlock := p.days.flatMap (·.timeBlocks)

end RoutePilot.Contracts
