/-
  What the reports of validation say.

  The checks of a day are those of its blocks and of the gaps between them:
  `checksOf` lists them without raising, and `blockChecks_eq_ok` says when the
  loop raises instead.  `Passes` is what a plan must satisfy for no check to
  fail, and `validate_eq_ok`, `verify_eq_ok` and `combine_eq_ok` say when there
  is a report and what it finds.
-/
import Mathlib.Data.List.Chain
import RoutePilot.Planning.Validation

namespace RoutePilot.Planning

open Lib Contracts

/-! ## Intervals -/

section
variable (date : Day) (block : PlanTimeBlock)

/-- When a block begins. -/
def start : DateTime := .combine date block.timeRange.startLocalTime

/-- When a block ends. -/
def finish : DateTime :=
  ⟨date.ordinal * dayMicros + block.timeRange.endLocalTime.micros + block.timeRange.endDayOffset * dayMicros,
    block.timeRange.endLocalTime.utcoffset⟩

/-- Whole minutes between two moments, rounded down. -/
def minutesBetween (t t' : DateTime) : ℤ := (t'.utc - t.utc) / 60_000_000

/-- The block's interval can be computed. -/
def Clocked : Prop :=
  date.ordinal + block.timeRange.endDayOffset ≤ maxOrdinal ∧
    (finish date block).utcoffset.isSome = (start date block).utcoffset.isSome

instance : Decidable (Clocked date block) := inferInstanceAs (Decidable (_ ∧ _))

end

/-- `R` of the end of each block and the block after it, from the end of the block before. -/
def Along (R : DateTime → PlanTimeBlock → Prop) (date : Day) : Option DateTime → List PlanTimeBlock → Prop
  | _, [] => True
  | previousEnd, block :: blocks =>
    (∀ e ∈ previousEnd, R e block) ∧ Along R date (some (finish date block)) blocks

/-- `R` of the end of each block and the block after it. -/
def Gaps (R : DateTime → PlanTimeBlock → Prop) (day : PlanDay) : Prop := Along R day.date none day.timeBlocks

/-- The gap before a block can be computed. -/
def Comparable (date : Day) (e : DateTime) (block : PlanTimeBlock) : Prop :=
  (start date block).utcoffset.isSome = e.utcoffset.isSome

/-- The intervals and gaps of a day can be computed. -/
structure Timed (day : PlanDay) : Prop where
  blocks : ∀ b ∈ day.timeBlocks, Clocked day.date b
  gaps : Gaps (Comparable day.date) day

theorem Along.isChain {R : DateTime → PlanTimeBlock → Prop} {date : Day} {blocks : List PlanTimeBlock} :
    Along R date none blocks ↔ blocks.IsChain fun b b' => R (finish date b) b' := by
  cases blocks with
  | nil => simp [Along]
  | cons b bs =>
    have htail : ∀ (b : PlanTimeBlock), Along R date (some (finish date b)) bs ↔
        (b :: bs).IsChain fun b b' => R (finish date b) b' := by
      induction bs with
      | nil => simp [Along]
      | cons b' bs ih =>
        intro b
        rw [Along, List.isChain_cons_cons, ih]
        simp
    simpa [Along] using htail b

/-! ## The checks of a day -/

section
variable (evidence : EvidenceBundle) (date : Day)

/-- The checks that the loop over the blocks makes. -/
def checksOf : Option DateTime → List PlanTimeBlock → List ConstraintCheck
  | _, [] => []
  | previousEnd, block :: blocks =>
    timeCheck block (minutesBetween (start date block) (finish date block)) ::
      (previousEnd.toList.map fun e => routeCheck block (minutesBetween e (start date block))) ++
        referenceCheck evidence block :: checksOf (some (finish date block)) blocks

variable {evidence date}

theorem localInterval_eq_ok {block : PlanTimeBlock} {r : DateTime × DateTime} :
    localInterval date block.timeRange = .ok r ↔
      date.ordinal + block.timeRange.endDayOffset ≤ maxOrdinal ∧
        (start date block, finish date block) = r := by
  have hdiv : (date.ordinal * dayMicros + block.timeRange.endLocalTime.micros) / dayMicros =
      date.ordinal := by
    have := block.timeRange.endLocalTime.lt
    rw [Nat.add_comm, Nat.add_mul_div_right _ _ (by decide), Nat.div_eq_of_lt this, Nat.zero_add]
  unfold localInterval DateTime.addDays DateTime.combine
  simp only [hdiv, bind_eq_ok, check_eq_ok]
  constructor
  · rintro ⟨_, ⟨h, rfl⟩, hr⟩
    exact ⟨h, Except.ok.inj hr⟩
  · rintro ⟨h, rfl⟩
    exact ⟨_, ⟨h, rfl⟩, rfl⟩

theorem minutesSince_eq_ok {t t' : DateTime} {m : ℤ} : t.minutesSince t' = .ok m ↔
    t.utcoffset.isSome = t'.utcoffset.isSome ∧ minutesBetween t' t = m := by
  unfold DateTime.minutesSince
  rw [check_eq_ok, exists_prop]
  rfl

theorem gapChecks_eq_ok {block : PlanTimeBlock} {previousEnd : Option DateTime}
    {checks : List ConstraintCheck} :
    gapChecks block (start date block) previousEnd = .ok checks ↔
      (∀ e ∈ previousEnd, Comparable date e block) ∧
        (previousEnd.toList.map fun e => routeCheck block (minutesBetween e (start date block))) =
          checks := by
  cases previousEnd with
  | none => simp [gapChecks]
  | some e =>
    rw [gapChecks, bind_eq_ok]
    constructor
    · rintro ⟨gap, hgap, h⟩
      obtain ⟨hcomp, rfl⟩ := minutesSince_eq_ok.1 hgap
      refine ⟨fun e' he' => ?_, Except.ok.inj h⟩
      obtain rfl := Option.mem_some_iff.1 he'
      exact hcomp
    · rintro ⟨hcomp, rfl⟩
      exact ⟨_, minutesSince_eq_ok.2 ⟨hcomp e rfl, rfl⟩, rfl⟩

/-- The loop raises exactly if an interval or a gap cannot be computed. -/
theorem blockChecks_eq_ok {previousEnd : Option DateTime} {blocks : List PlanTimeBlock}
    {checks : List ConstraintCheck} :
    blockChecks evidence date previousEnd blocks = .ok checks ↔
      ((∀ b ∈ blocks, Clocked date b) ∧ Along (Comparable date) date previousEnd blocks) ∧
        checksOf evidence date previousEnd blocks = checks := by
  induction blocks generalizing previousEnd checks with
  | nil => simp [blockChecks, checksOf, Along]
  | cons block blocks ih =>
    rw [blockChecks, bind_eq_ok, List.forall_mem_cons, Along, checksOf]
    constructor
    · rintro ⟨⟨s, f⟩, hinterval, h⟩
      obtain ⟨hcal, heq⟩ := localInterval_eq_ok.1 hinterval
      obtain ⟨rfl, rfl⟩ := Prod.mk.inj heq
      obtain ⟨m, hm, h⟩ := bind_eq_ok.1 h
      obtain ⟨hcomp, rfl⟩ := minutesSince_eq_ok.1 hm
      obtain ⟨route, hroute, h⟩ := bind_eq_ok.1 h
      obtain ⟨hgap, rfl⟩ := gapChecks_eq_ok.1 hroute
      obtain ⟨rest, hrest, h⟩ := bind_eq_ok.1 h
      obtain ⟨⟨hclocked, halong⟩, rfl⟩ := ih.1 hrest
      exact ⟨⟨⟨⟨hcal, hcomp⟩, hclocked⟩, hgap, halong⟩, Except.ok.inj h⟩
    · rintro ⟨⟨⟨⟨hcal, hcomp⟩, hclocked⟩, hgap, halong⟩, rfl⟩
      refine ⟨_, localInterval_eq_ok.2 ⟨hcal, rfl⟩, ?_⟩
      have hm := minutesSince_eq_ok.2 ⟨hcomp, rfl⟩
      have hroute := gapChecks_eq_ok.2 ⟨hgap, rfl⟩
      have hrest := ih.2 ⟨⟨hclocked, halong⟩, rfl⟩
      simp only [hm, hroute, hrest, ok_bind]
      rfl

/-- All checks of the loop, one kind at a time. -/
theorem forall_checksOf {P : ConstraintCheck → Prop} {previousEnd : Option DateTime}
    {blocks : List PlanTimeBlock} :
    (∀ c ∈ checksOf evidence date previousEnd blocks, P c) ↔
      (∀ b ∈ blocks, P (timeCheck b (minutesBetween (start date b) (finish date b)))) ∧
        (∀ b ∈ blocks, P (referenceCheck evidence b)) ∧
        Along (fun e b => P (routeCheck b (minutesBetween e (start date b)))) date previousEnd blocks := by
  induction blocks generalizing previousEnd with
  | nil => simp [checksOf, Along]
  | cons block blocks ih =>
    rw [checksOf, Along]
    simp only [List.cons_append, List.forall_mem_cons, List.forall_mem_append, ih]
    cases previousEnd with
    | none => simp; tauto
    | some e => simp; tauto

theorem dayChecks_eq_ok {day : PlanDay} {checks : List ConstraintCheck} :
    dayChecks evidence day = .ok checks ↔
      Timed day ∧ uniqueCheck day :: checksOf evidence day.date none day.timeBlocks = checks := by
  unfold dayChecks
  rw [bind_eq_ok]
  constructor
  · rintro ⟨cs, hcs, h⟩
    obtain ⟨⟨hclocked, halong⟩, rfl⟩ := blockChecks_eq_ok.1 hcs
    exact ⟨⟨hclocked, halong⟩, Except.ok.inj h⟩
  · rintro ⟨⟨hclocked, halong⟩, rfl⟩
    exact ⟨_, blockChecks_eq_ok.2 ⟨⟨hclocked, halong⟩, rfl⟩, rfl⟩

variable (evidence) in
/-- The checks of all days. -/
def daysChecksOf (days : List PlanDay) : List ConstraintCheck :=
  days.flatMap fun day => uniqueCheck day :: checksOf evidence day.date none day.timeBlocks

theorem daysChecks_eq_ok {days : List PlanDay} {checks : List ConstraintCheck} :
    daysChecks evidence days = .ok checks ↔
      (∀ day ∈ days, Timed day) ∧ daysChecksOf evidence days = checks := by
  induction days generalizing checks with
  | nil => simp [daysChecks, daysChecksOf]
  | cons day days ih =>
    rw [daysChecks, bind_eq_ok, List.forall_mem_cons]
    constructor
    · rintro ⟨cs, hcs, h⟩
      obtain ⟨htimed, rfl⟩ := dayChecks_eq_ok.1 hcs
      obtain ⟨rest, hrest, h⟩ := bind_eq_ok.1 h
      obtain ⟨hall, rfl⟩ := ih.1 hrest
      exact ⟨⟨htimed, hall⟩, Except.ok.inj h⟩
    · rintro ⟨⟨htimed, hall⟩, rfl⟩
      refine ⟨_, dayChecks_eq_ok.2 ⟨htimed, rfl⟩, ?_⟩
      rw [ih.2 ⟨hall, rfl⟩]
      rfl

end

/-! ## The constraint report -/

section
variable (casefold : String → String) (brief : TripBrief) (plan : ItineraryPlan) (evidence : EvidenceBundle)

/-- All checks of a plan with few enough blocks. -/
def allChecks (h : (ids plan.blocks).length ≤ 100) : List ConstraintCheck :=
  [dateCheck brief plan,
    judge .hardConstraint (hasConcretePlace brief plan) placesFound placesMissing none (ids plan.blocks) h] ++
    daysChecksOf evidence plan.days ++ [budgetCheck brief plan] ++
    (brief.constraints.filter checkable).map (constraintCheck casefold plan) ++
    plan.blocks.map (openingCheck evidence)

variable {casefold brief plan evidence} {artifactId : Identifier}

theorem validate_eq_ok {r : ConstraintReport} :
    validate casefold brief plan evidence artifactId = .ok r ↔
      ∃ h, (∀ day ∈ plan.days, Timed day) ∧
        constraintReport plan artifactId (allChecks casefold brief plan evidence h) = .ok r := by
  unfold validate placeCheck
  rw [bind_eq_ok]
  constructor
  · rintro ⟨place, hplace, h⟩
    obtain ⟨hlen, rfl⟩ := check_eq_ok.1 hplace
    obtain ⟨days, hdays, h⟩ := bind_eq_ok.1 h
    obtain ⟨htimed, rfl⟩ := daysChecks_eq_ok.1 hdays
    exact ⟨hlen, htimed, h⟩
  · rintro ⟨hlen, htimed, h⟩
    refine ⟨_, check_pos hlen, ?_⟩
    rw [daysChecks_eq_ok.2 ⟨htimed, rfl⟩, ok_bind]
    exact h

/-- The report of a plan's checks. -/
structure Reports (plan : ItineraryPlan) (checks : List ConstraintCheck) (r : ConstraintReport) : Prop where
  planRef : r.planRef.artifactId = plan.artifactId
  checks : r.checks = checks

theorem constraintReport_ok {checks : List ConstraintCheck} {r : ConstraintReport}
    (h : constraintReport plan artifactId checks = .ok r) : Reports plan checks r ∧ checks.length ≤ 2000 := by
  obtain ⟨hbounded, rfl⟩ := check_eq_ok.1 h
  exact ⟨⟨rfl, rfl⟩, hbounded.2⟩

/-- All checks of a day, one kind at a time. -/
structure EachCheck (P : ConstraintCheck → Prop) (evidence : EvidenceBundle) (day : PlanDay) : Prop where
  unique : P (uniqueCheck day)
  times : ∀ b ∈ day.timeBlocks, P (timeCheck b (minutesBetween (start day.date b) (finish day.date b)))
  references : ∀ b ∈ day.timeBlocks, P (referenceCheck evidence b)
  routes : Gaps (fun e b => P (routeCheck b (minutesBetween e (start day.date b)))) day

theorem forall_dayChecks {P : ConstraintCheck → Prop} {day : PlanDay} :
    (∀ c ∈ uniqueCheck day :: checksOf evidence day.date none day.timeBlocks, P c) ↔
      EachCheck P evidence day := by
  rw [List.forall_mem_cons, forall_checksOf]
  exact ⟨fun ⟨h₁, h₂, h₃, h₄⟩ => ⟨h₁, h₂, h₃, h₄⟩, fun ⟨h₁, h₂, h₃, h₄⟩ => ⟨h₁, h₂, h₃, h₄⟩⟩

theorem forall_daysChecks {P : ConstraintCheck → Prop} {days : List PlanDay} :
    (∀ c ∈ daysChecksOf evidence days, P c) ↔ ∀ day ∈ days, EachCheck P evidence day := by
  unfold daysChecksOf
  simp only [List.forall_mem_flatMap, forall_dayChecks]

end

end RoutePilot.Planning
