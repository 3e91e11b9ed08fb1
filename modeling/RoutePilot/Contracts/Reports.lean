/-
  The reports of validation (`routepilot_contracts/artifacts.py`).

  The generated identifiers of checks, risks and issues, the observed metrics
  and the suggested resolutions are left out: nothing reads them.
-/
import Mathlib.Algebra.Group.Int.Defs
import RoutePilot.Contracts.Plan

namespace RoutePilot.Contracts

inductive Outcome where
  | pass
  | warning
  | fail
  deriving DecidableEq, Repr

/-- `"fail" if failed else "warning" if warned else "pass"`. -/
def Outcome.of (failed warned : Bool) : Outcome :=
  if failed then .fail else if warned then .warning else .pass

/-! ## Constraints -/

inductive CheckCategory where
  | time
  | route
  | budget
  | openingHours
  | hardConstraint
  deriving DecidableEq, Repr

structure ConstraintCheck where
  category : CheckCategory
  outcome : Outcome
  message : NonEmptyText
  constraintRef : Option Identifier := none
  relatedBlockIds : List Identifier := []
  bounded : relatedBlockIds.length ≤ 100
  deriving DecidableEq

structure CheckSummary where
  passed : ℕ
  warnings : ℕ
  failed : ℕ
  deriving DecidableEq, Repr

/-- How many of the checks have an outcome. -/
def outcomes (checks : List ConstraintCheck) (outcome : Outcome) : ℕ :=
  checks.countP (·.outcome = outcome)

/-- The counts that the checks have. -/
def CheckSummary.of (checks : List ConstraintCheck) : CheckSummary :=
  ⟨outcomes checks .pass, outcomes checks .warning, outcomes checks .fail⟩

/-- The outcome of checks with these counts. -/
def CheckSummary.outcome (s : CheckSummary) : Outcome := .of (s.failed != 0) (s.warnings != 0)

structure ConstraintReport where
  artifactId : Identifier
  version : ℕ
  planRef : ArtifactRef
  timezone : Timezone
  outcome : Outcome
  checks : List ConstraintCheck
  summary : CheckSummary
  positive : 1 ≤ version
  bounded : 1 ≤ checks.length ∧ checks.length ≤ 2000
  /-- `validate_checks` -/
  counted : summary = .of checks
  decided : outcome = summary.outcome

/-! ## Risks -/

inductive RiskCategory where
  | evidenceGap
  | assumption
  | sourceConflict
  | softConstraint
  | ambiguity
  deriving DecidableEq, Repr

structure SemanticRisk where
  category : RiskCategory
  severity : Severity
  message : NonEmptyText
  affectedBlockIds : List Identifier := []
  evidenceRefs : List Identifier
  bounded : affectedBlockIds.length ≤ 100 ∧ evidenceRefs.length ≤ 100
  deriving DecidableEq

/-- `{Severity.HIGH, Severity.CRITICAL}` -/
def Severity.blocks : Severity → Bool
  | .high | .critical => true
  | .info | .low | .medium => false

/-- Decimals of a ratio. -/
def ratioScale : ℕ := 41

/-- The precision of the decimal context. -/
def precision : ℕ := 28

/-- The ratio of the counts, with `ratioScale` decimals. -/
def coverageRatio (supported total : ℕ) : ℕ :=
  if total = 0 then 10 ^ ratioScale else Lib.Decimal.quotient precision ratioScale supported total

structure EvidenceCoverage where
  claimsTotal : ℕ
  claimsSupported : ℕ
  claimsMissing : ℕ
  coverageRatio : ℕ
  /-- `validate_counts` -/
  counted : claimsSupported + claimsMissing = claimsTotal
  /-- The field, and how near it is to the ratio of the counts. -/
  bounded : coverageRatio ≤ 10 ^ ratioScale
  near : (coverageRatio : ℤ) - Contracts.coverageRatio claimsSupported claimsTotal ≤ 10 ^ (ratioScale - 4) ∧
    (Contracts.coverageRatio claimsSupported claimsTotal : ℤ) - coverageRatio ≤ 10 ^ (ratioScale - 4)

structure SemanticRiskReport where
  artifactId : Identifier
  version : ℕ
  planRef : ArtifactRef
  evidenceBundleRef : ArtifactRef
  timezone : Timezone
  outcome : Outcome
  evidenceCoverage : EvidenceCoverage
  risks : List SemanticRisk
  sourceConflicts : List EvidenceConflict
  positive : 1 ≤ version
  bounded : risks.length ≤ 1000 ∧ sourceConflicts.length ≤ 200
  /-- `validate_report` -/
  decided : outcome = .of (risks.any (·.severity.blocks)) !risks.isEmpty

/-! ## Publication -/

inductive IssueOrigin where
  | constraint
  | semantic
  | policy
  deriving DecidableEq, Repr

structure ValidationIssue where
  origin : IssueOrigin
  severity : Severity
  message : NonEmptyText
  sourceReportRef : ArtifactRef
  deriving DecidableEq

structure ValidationReport where
  artifactId : Identifier
  version : ℕ
  planRef : ArtifactRef
  constraintReportRef : ArtifactRef
  semanticRiskReportRef : ArtifactRef
  timezone : Timezone
  verdict : Outcome
  publishable : Bool
  blockers : List ValidationIssue
  warnings : List ValidationIssue
  positive : 1 ≤ version
  bounded : blockers.length ≤ 500 ∧ warnings.length ≤ 500
  /-- `validate_verdict` -/
  blocked : blockers ≠ [] → publishable = false
  failed : verdict = .fail → publishable = false
  passed : verdict = .pass → blockers = [] ∧ warnings = []

end RoutePilot.Contracts
