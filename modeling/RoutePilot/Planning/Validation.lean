/-
  Constraint checks, semantic review and publication policy (`validation.py`).

  A report is drawn an identifier, which is an argument here.  Times with and
  without an offset do not compare, as in Python.
-/
import Mathlib.Data.List.Dedup
import RoutePilot.Contracts.Reports
import RoutePilot.Planning.Planner

namespace RoutePilot.Planning

open Lib Contracts

/-! ## Moments -/

/-- A `datetime`: microseconds from the day before the first, and the offset of its `tzinfo`. -/
structure DateTime where
  micros : ℕ
  utcoffset : Option ℤ

namespace DateTime

/-- `datetime.combine(date, time)`. -/
def combine (date : Day) (time : LocalTime) : DateTime :=
  ⟨date.ordinal * dayMicros + time.micros, time.utcoffset⟩

/-- `t + timedelta(days=n)`. -/
def addDays (t : DateTime) (n : ℕ) : Except PyError DateTime :=
  check (t.micros / dayMicros + n ≤ maxOrdinal) .overflowError
    fun _ => { t with micros := t.micros + n * dayMicros }

/-- Microseconds in UTC if there is an offset. -/
def utc (t : DateTime) : ℤ := t.micros - t.utcoffset.getD 0

/-- `int((t - t').total_seconds() // 60)`. -/
def minutesSince (t t' : DateTime) : Except PyError ℤ :=
  check (t.utcoffset.isSome = t'.utcoffset.isSome) .typeError fun _ => (t.utc - t'.utc) / 60_000_000

end DateTime

/-- `_local_interval`. -/
def localInterval (date : Day) (timeRange : ZonedTimeRange) : Except PyError (DateTime × DateTime) := do
  let finish ← (DateTime.combine date timeRange.endLocalTime).addDays timeRange.endDayOffset
  return (.combine date timeRange.startLocalTime, finish)

/-! ## `DeterministicConstraintValidator` -/

def text (s : String) (h : IsText 1 2000 s := by decide) : NonEmptyText := ⟨s, h⟩

/-- `_check(category, "pass" if ok else "fail", passed if ok else failed, ...)` -/
def judge (category : CheckCategory) (ok : Bool) (passed failed : NonEmptyText)
    (constraintRef : Option Identifier) (blockIds : List Identifier) (h : blockIds.length ≤ 100) :
    ConstraintCheck where
  category := category
  outcome := if ok then .pass else .fail
  message := if ok then passed else failed
  constraintRef := constraintRef
  relatedBlockIds := blockIds
  bounded := h

def ids (blocks : List PlanTimeBlock) : List Identifier := blocks.map (·.blockId)

section
variable (casefold : String → String) (brief : TripBrief) (plan : ItineraryPlan) (evidence : EvidenceBundle)

/-- `dates_valid` -/
def datesValid : Bool :=
  !plan.days.isEmpty && plan.days.all fun day =>
    brief.dateWindow.startDate.ordinal ≤ day.date.ordinal &&
      day.date.ordinal ≤ brief.dateWindow.endDate.ordinal

def dateCheck : ConstraintCheck :=
  judge .hardConstraint (datesValid brief plan) (text "行程日期位于用户日期窗口内。")
    (text "行程日期超出用户日期窗口。") none [] (by simp)

/-- `has_concrete_place` -/
def hasConcretePlace : Bool := plan.blocks.any (·.placeRef.placeId ≠ brief.destination.placeId)

def placesFound : NonEmptyText := text "方案包含经过证据支持的具体地点。"

def placesMissing : NonEmptyText := text "方案只有目的地城市占位符，没有具体地点，属于低价值结果，禁止发布。"

def placeCheck : Except PyError ConstraintCheck :=
  check ((ids plan.blocks).length ≤ 100) (.validationError "ConstraintCheck")
    (judge .hardConstraint (hasConcretePlace brief plan) placesFound placesMissing none (ids plan.blocks))

/-- `unique_places` -/
def uniquePlaces (day : PlanDay) : Bool := decide (day.timeBlocks.map (·.placeRef.placeId)).Nodup

def uniqueCheck (day : PlanDay) : ConstraintCheck :=
  judge .hardConstraint (uniquePlaces day) (text "单日行程没有重复地点。")
    (text "单日行程包含重复地点，属于无信息量方案，禁止发布。") none (ids day.timeBlocks)
    (by have := day.checked.bounded.2; rw [ids, List.length_map]; omega)

def timeCheck (block : PlanTimeBlock) (actualDuration : ℤ) : ConstraintCheck :=
  judge .time (actualDuration = block.durationMinutes) (text "停留时长与时间区间一致。")
    (text "停留时长与时间区间不一致。") none [block.blockId] (by simp)

/-- `block.transit_from_previous.duration_max_minutes`, if there is a leg. -/
def required (block : PlanTimeBlock) : ℕ := (block.transitFromPrevious.map (·.durationMaxMinutes)).getD 0

def routeCheck (block : PlanTimeBlock) (gap : ℤ) : ConstraintCheck :=
  judge .route (required block ≤ gap) (text "地点间预留时间可覆盖路线耗时。")
    (text "地点间预留时间不足以覆盖路线耗时。") none [block.blockId] (by simp)

/-- `references_valid` -/
def referencesValid (block : PlanTimeBlock) : Bool := block.evidenceRefs.all (· ∈ evidence.ids)

def referenceCheck (block : PlanTimeBlock) : ConstraintCheck :=
  judge .hardConstraint (referencesValid evidence block) (text "时间块证据引用均可解析。")
    (text "时间块包含无法解析的证据引用。") none [block.blockId] (by simp)

/-- The check of the gap before a block, unless it is the day's first. -/
def gapChecks (block : PlanTimeBlock) (start : DateTime) :
    Option DateTime → Except PyError (List ConstraintCheck)
  | none => .ok []
  | some previousEnd => do
    let gap ← start.minutesSince previousEnd
    return [routeCheck block gap]

/-- The loop over the blocks of a day. -/
def blockChecks (date : Day) : Option DateTime → List PlanTimeBlock → Except PyError (List ConstraintCheck)
  | _, [] => .ok []
  | previousEnd, block :: blocks => do
    let (start, finish) ← localInterval date block.timeRange
    let actualDuration ← finish.minutesSince start
    let route ← gapChecks block start previousEnd
    let checks ← blockChecks date (some finish) blocks
    return timeCheck block actualDuration :: route ++ referenceCheck evidence block :: checks

/-- The checks of a day. -/
def dayChecks (day : PlanDay) : Except PyError (List ConstraintCheck) := do
  let checks ← blockChecks evidence day.date none day.timeBlocks
  return uniqueCheck day :: checks

/-- The loop over the days. -/
def daysChecks : List PlanDay → Except PyError (List ConstraintCheck)
  | [] => .ok []
  | day :: days => do
    let checks ← dayChecks evidence day
    let rest ← daysChecks days
    return checks ++ rest

/-- `budget_ok` -/
def budgetOk : Bool :=
  plan.estimatedTotal.currency = brief.budget.currency &&
    decide (plan.estimatedTotal.maxAmount.value ≤ brief.budget.maxAmount.value)

def budgetCheck : ConstraintCheck :=
  judge .budget (budgetOk brief plan) (text "候选行程预算未超过用户上限。")
    (text "候选行程预算超过用户上限或币种不一致。") none [] (by simp)

/-- `" ".join(block.title.casefold() ...)` -/
def titles : String := " ".intercalate (plan.blocks.map (casefold ·.title.1))

/-- `constraint.hard and constraint.constraint_type in {"visit", "avoid"}` -/
def checkable (constraint : ConstraintSpec) : Bool :=
  constraint.hard && (constraint.constraintType = .visit || constraint.constraintType = .avoid)

/-- `satisfied` -/
def satisfied (constraint : ConstraintSpec) : Bool :=
  let mentioned := occurs (casefold constraint.description.1) (titles casefold plan)
  if constraint.constraintType = .visit then mentioned else !mentioned

def constraintCheck (constraint : ConstraintSpec) : ConstraintCheck :=
  judge .hardConstraint (satisfied casefold plan constraint) (text "可机器核验的必去/避开约束已满足。")
    (text "可机器核验的必去/避开约束未满足。") (some constraint.constraintId) [] (by simp)

/-- `statuses` -/
def statuses (block : PlanTimeBlock) : List FreshnessStatus :=
  block.evidenceRefs.filterMap fun ref =>
    (evidence.evidence.find? (·.evidenceId = ref)).map (·.freshness)

/-- `current` -/
def current (block : PlanTimeBlock) : Bool :=
  !(statuses evidence block).isEmpty && (statuses evidence block).all fun status =>
    status ≠ .stale && status ≠ .expired && status ≠ .unknown

def openingCheck (block : PlanTimeBlock) : ConstraintCheck where
  category := .openingHours
  outcome := if current evidence block then .pass else .warning
  message := if current evidence block then text "地点证据当前有效。"
    else text "地点证据可能过期，营业状态需实时 Provider 复核。"
  relatedBlockIds := [block.blockId]
  bounded := by simp

/-- `ConstraintReport(...)` of the checks. -/
def constraintReport (artifactId : Identifier) (checks : List ConstraintCheck) :
    Except PyError ConstraintReport :=
  check (1 ≤ checks.length ∧ checks.length ≤ 2000) (.validationError "ConstraintReport")
    fun h =>
      { artifactId, version := 1, planRef := ⟨plan.artifactId, plan.version, plan.positive⟩
        timezone := plan.timezone, outcome := (CheckSummary.of checks).outcome, checks
        summary := .of checks, positive := firstVersion, bounded := h, counted := rfl, decided := rfl }

/-- `DeterministicConstraintValidator.validate`. -/
def validate (artifactId : Identifier) : Except PyError ConstraintReport := do
  let place ← placeCheck brief plan
  let days ← daysChecks evidence plan.days
  constraintReport plan artifactId ([dateCheck brief plan, place] ++ days ++ [budgetCheck brief plan] ++
    (brief.constraints.filter checkable).map (constraintCheck casefold plan) ++
    plan.blocks.map (openingCheck evidence))

end

/-! ## `DeterministicSemanticVerifier` -/

section
variable (plan : ItineraryPlan) (evidence : EvidenceBundle)

/-- `used` -/
def used : List (List Identifier) := plan.blocks.map (·.evidenceRefs) ++ plan.assumptions.map (·.evidenceRefs)

/-- `bool(refs) and refs.issubset(known)` -/
def supported (refs : List Identifier) : Bool := !refs.isEmpty && refs.all (· ∈ evidence.ids)

/-- `sorted(...)` of identifiers. -/
def sortIds (ids : List Identifier) : List Identifier := ids.mergeSort fun a b => decide (a.1 ≤ b.1)

/-- `set(block.evidence_refs) - known` -/
def unknownRefs (block : PlanTimeBlock) : List Identifier :=
  (block.evidenceRefs.filter (· ∉ evidence.ids)).dedup

theorem unknownRefs_length (block : PlanTimeBlock) : (unknownRefs evidence block).length ≤ 100 :=
  ((List.dedup_sublist _).length_le.trans (List.length_filter_le _ _)).trans block.referenced.2

/-- A block with references that are not in the evidence. -/
def unknownRisk (block : PlanTimeBlock) : SemanticRisk where
  category := .evidenceGap
  severity := .high
  message := text "计划时间块包含未知证据引用。"
  affectedBlockIds := [block.blockId]
  evidenceRefs := sortIds (unknownRefs evidence block)
  bounded := by
    rw [sortIds, List.length_mergeSort]
    exact ⟨by simp, unknownRefs_length evidence block⟩

/-- `f"证据“{item.title}”不是 fresh 状态。"` -/
def staleMessage (item : EvidenceItem) : NonEmptyText :=
  ⟨"证据“" ++ item.title.1 ++ "”不是 fresh 状态。", by
    have hhead : "证据“".toList = '证' :: "据“".toList := by decide
    have hlast : "”不是 fresh 状态。".toList = "”不是 fresh 状态".toList ++ ['。'] := by decide
    refine isText_of_ends '证' '。' ("据“".toList ++ item.title.1.toList ++ "”不是 fresh 状态".toList)
      ?_ (by decide) (by decide) ?_
    · simp only [String.toList_append, hhead, hlast, List.cons_append, List.append_assoc]
    · have htitle := item.title.2.2.2
      have : "证据“".length = 3 := by decide
      have : "”不是 fresh 状态。".length = 13 := by decide
      simp only [String.length_append]
      omega⟩

def staleRisk (item : EvidenceItem) : SemanticRisk where
  category := .evidenceGap
  severity := .medium
  message := staleMessage item
  evidenceRefs := [item.evidenceId]
  bounded := by simp

/-- The items that are referred to, by identifier, and are not known to be fresh. -/
def staleItems : List EvidenceItem :=
  (evidence.evidence.filter fun item => item.evidenceId ∈ (used plan).flatten &&
    (item.freshness = .stale || item.freshness = .expired || item.freshness = .unknown)).mergeSort
      fun a b => decide (a.evidenceId.1 ≤ b.evidenceId.1)

def assumptionRisk : SemanticRisk where
  category := .assumption
  severity := .medium
  message := text "计划包含未被证据支持的假设。"
  evidenceRefs := []
  bounded := by simp

/-- `unresolved` -/
def unresolved : List EvidenceConflict := evidence.conflicts.filter (·.resolutionStatus = .unresolved)

theorem isText_conflictMessage (topic : ShortText) : IsText 1 2000 ("来源冲突尚未解决：" ++ topic.1) := by
  obtain ⟨topic, hstripped, hmin, hmax⟩ := topic
  have hne : topic.toList ≠ [] := fun hnil => by
    have := congrArg List.length hnil
    rw [String.length_toList, List.length_nil] at this
    omega
  have hhead : "来源冲突尚未解决：".toList = '来' :: "源冲突尚未解决：".toList := by decide
  refine isText_of_ends '来' (topic.toList.getLast hne)
    ("源冲突尚未解决：".toList ++ topic.toList.dropLast) ?_ (by decide) ?_ ?_
  · rw [String.toList_append, hhead, List.cons_append, List.append_assoc,
      List.dropLast_append_getLast]
  · simp only [isStripped, List.getLast?_eq_getLast_of_ne_nil hne, Option.all_some,
      Bool.and_eq_true, Bool.not_eq_true'] at hstripped
    exact hstripped.2
  · have : "来源冲突尚未解决：".length = 9 := by decide
    simp only [String.length_append]
    omega

/-- `f"来源冲突尚未解决：{conflict.topic}"` -/
def conflictMessage (conflict : EvidenceConflict) : NonEmptyText :=
  ⟨"来源冲突尚未解决：" ++ conflict.topic.1, isText_conflictMessage conflict.topic⟩

def conflictRisk (conflict : EvidenceConflict) : SemanticRisk where
  category := .sourceConflict
  severity := .high
  message := conflictMessage conflict
  evidenceRefs := conflict.evidenceRefs
  bounded := by have := conflict.bounded.2; simp only [List.length_nil]; omega

/-- `risks` -/
def risks : List SemanticRisk :=
  (plan.blocks.filter (unknownRefs evidence · ≠ [])).map (unknownRisk evidence) ++
    (staleItems plan evidence).map staleRisk ++
    (plan.assumptions.filter (·.evidenceRefs.isEmpty)).map (fun _ => assumptionRisk) ++
    (unresolved evidence).map conflictRisk

/-- `len(used)`, and how many of them are supported. -/
def claims : ℕ := (used plan).length

def supportedClaims : ℕ := (used plan).countP (supported evidence)

theorem supportedClaims_le : supportedClaims plan evidence ≤ claims plan := List.countP_le_length

/-- `EvidenceCoverage(...)` of the counts. -/
def evidenceCoverage : EvidenceCoverage where
  claimsTotal := claims plan
  claimsSupported := supportedClaims plan evidence
  claimsMissing := claims plan - supportedClaims plan evidence
  coverageRatio := coverageRatio (supportedClaims plan evidence) (claims plan)
  counted := Nat.add_sub_cancel' (supportedClaims_le plan evidence)
  bounded := by
    unfold coverageRatio
    split
    · exact le_rfl
    · next h =>
      exact Lib.Decimal.quotient_le_one (by decide) (by decide) (Nat.pos_of_ne_zero h)
        (supportedClaims_le plan evidence)
  near := by
    have hpos : (0 : ℤ) ≤ 10 ^ (ratioScale - 4) := by decide
    simp [hpos]

/-- `DeterministicSemanticVerifier.verify`. -/
def verify (artifactId : Identifier) : Except PyError SemanticRiskReport :=
  check ((risks plan evidence).length ≤ 1000) (.validationError "SemanticRiskReport")
    fun h =>
      { artifactId, version := 1, planRef := ⟨plan.artifactId, plan.version, plan.positive⟩
        evidenceBundleRef := ⟨evidence.artifactId, evidence.version, evidence.positive⟩
        timezone := plan.timezone
        outcome := .of ((risks plan evidence).any (·.severity.blocks)) !(risks plan evidence).isEmpty
        evidenceCoverage := evidenceCoverage plan evidence, risks := risks plan evidence
        sourceConflicts := unresolved evidence, positive := firstVersion
        bounded := ⟨h, (List.length_filter_le _ _).trans evidence.bounded.2.2.2⟩, decided := rfl }

end

/-! ## `ValidationPolicyService` -/

section
variable (constraints : ConstraintReport) (semantic : SemanticRiskReport)

/-- `artifact_ref(constraints, ...)` -/
def constraintRef : ArtifactRef := ⟨constraints.artifactId, constraints.version, constraints.positive⟩

/-- `artifact_ref(semantic, ...)` -/
def semanticRef : ArtifactRef := ⟨semantic.artifactId, semantic.version, semantic.positive⟩

/-- The issue of a check that did not pass. -/
def constraintIssue (item : ConstraintCheck) : ValidationIssue :=
  ⟨.constraint, if item.outcome = .fail then .high else .medium, item.message, constraintRef constraints⟩

/-- The issue of a risk. -/
def semanticIssue (risk : SemanticRisk) : ValidationIssue :=
  ⟨.semantic, risk.severity, risk.message, semanticRef semantic⟩

/-- `coverage_ratio < Decimal("0.9")` -/
def lowCoverage : Bool := decide (semantic.evidenceCoverage.coverageRatio < 9 * 10 ^ (ratioScale - 1))

/-- `blockers` -/
def blockers : List ValidationIssue :=
  (constraints.checks.filter (·.outcome = .fail)).map (constraintIssue constraints) ++
    (semantic.risks.filter (·.severity.blocks)).map (semanticIssue semantic) ++
    if lowCoverage semantic then
      [⟨.policy, .high, text "证据覆盖率低于 90% 发布门槛。", semanticRef semantic⟩]
    else []

/-- `warnings` -/
def warnings : List ValidationIssue :=
  (constraints.checks.filter (·.outcome = .warning)).map (constraintIssue constraints) ++
    (semantic.risks.filter (!·.severity.blocks)).map (semanticIssue semantic)

/-- `ValidationPolicyService.combine`. -/
def combine (plan : ItineraryPlan) (artifactId : Identifier) : Except PyError ValidationReport := do
  let _ ← check (constraints.planRef.artifactId = plan.artifactId)
    (.valueError "constraint report belongs to another plan") fun _ => ()
  let _ ← check (semantic.planRef.artifactId = plan.artifactId)
    (.valueError "semantic report belongs to another plan") fun _ => ()
  let blockers := blockers constraints semantic
  let warnings := warnings constraints semantic
  check (blockers.length ≤ 500 ∧ warnings.length ≤ 500) (.validationError "ValidationReport")
    fun h =>
      { artifactId, version := 1, planRef := ⟨plan.artifactId, plan.version, plan.positive⟩
        constraintReportRef := constraintRef constraints, semanticRiskReportRef := semanticRef semantic
        timezone := plan.timezone, verdict := .of (!blockers.isEmpty) !warnings.isEmpty
        publishable := blockers.isEmpty, blockers, warnings, positive := firstVersion, bounded := h
        blocked := by simp
        failed := by cases hb : blockers.isEmpty <;> cases hw : warnings.isEmpty <;> simp [Outcome.of]
        passed := by
          cases hb : blockers.isEmpty <;> cases hw : warnings.isEmpty <;>
            simp_all [Outcome.of, List.isEmpty_iff] }

end

end RoutePilot.Planning
