/-
  The publish gate.

  A plan is publishable exactly if its reports are made and nothing is found
  that blocks it.  All checks mean what they say but one: whether a place is
  visited or avoided is looked up in the joined titles, where a description may
  straddle two of them.
-/
import RoutePilot.Proof.Reporting

namespace RoutePilot.Planning

open Lib Contracts

section
variable (casefold : String → String) (brief : TripBrief) (plan : ItineraryPlan) (evidence : EvidenceBundle)

/-! ## What publishing promises -/

/-- The description is that of a hard constraint of a type. -/
def HardDescription (constraintType : ConstraintType) (description : String) : Prop :=
  ∃ c ∈ brief.constraints, c.hard = true ∧ c.constraintType = constraintType ∧ c.description.1 = description

/-- Some title has the folded description. -/
def Titled (description : String) : Prop :=
  ∃ b ∈ plan.blocks, occurs (casefold description) (casefold b.title.1)

/-- What publishing promises, but for the places to visit and to avoid. -/
structure Sound : Prop where
  dates : ∀ day ∈ plan.days, brief.dateWindow.startDate.ordinal ≤ day.date.ordinal ∧
    day.date.ordinal ≤ brief.dateWindow.endDate.ordinal
  places : ∀ day ∈ plan.days, (day.timeBlocks.map (·.placeRef.placeId)).Nodup
  durations : ∀ day ∈ plan.days, ∀ b ∈ day.timeBlocks,
    minutesBetween (start day.date b) (finish day.date b) = b.durationMinutes
  gaps : ∀ day ∈ plan.days, day.timeBlocks.IsChain fun b b' =>
    (required b' : ℤ) ≤ minutesBetween (finish day.date b) (start day.date b')
  references : ∀ b ∈ plan.blocks, ∀ ref ∈ b.evidenceRefs, ref ∈ evidence.ids
  coverage : 9 * claims plan ≤ 10 * supportedClaims plan evidence
  conflicts : ∀ c ∈ evidence.conflicts, c.resolutionStatus ≠ .unresolved
  budget : plan.estimatedTotal.currency = brief.budget.currency ∧
    plan.estimatedTotal.maxAmount.value ≤ brief.budget.maxAmount.value

/-- Each place to visit is in some title, and no place to avoid is in any. -/
structure Visited : Prop where
  visits : ∀ description, HardDescription brief .visit description → Titled casefold plan description
  avoids : ∀ description, HardDescription brief .avoid description → ¬ Titled casefold plan description

/-- The visit and avoid checks pass. -/
def VisitChecks : Prop := ∀ c ∈ brief.constraints, checkable c → satisfied casefold plan c

/-- The reports are made, and the plan is publishable. -/
def Published (i j k : Identifier) : Prop :=
  ∃ c s v, validate casefold brief plan evidence i = .ok c ∧ verify plan evidence j = .ok s ∧
    combine c s plan k = .ok v ∧ v.publishable = true

/-- The gate is sound and complete. -/
structure Gate (i j k : Identifier) : Prop where
  sound : Published casefold brief plan evidence i j k →
    Sound brief plan evidence ∧ Visited casefold brief plan
  complete : Reported casefold brief plan evidence i j k → Sound brief plan evidence →
    Visited casefold brief plan → hasConcretePlace brief plan → Published casefold brief plan evidence i j k

/-- The description is in the joined titles, but in no title. -/
def Straddles (description : String) : Prop :=
  occurs (casefold description) (titles casefold plan) ∧ ¬ Titled casefold plan description

/-- If everything else is in order, the joined titles say of each constraint what the titles say. -/
structure Unambiguous : Prop where
  visits : (∀ day ∈ plan.days, Timed day) → Reportable casefold brief plan evidence →
    Sound brief plan evidence → hasConcretePlace brief plan → VisitChecks casefold brief plan →
    ∀ description, HardDescription brief .visit description → ¬ Straddles casefold plan description
  avoids : (∀ day ∈ plan.days, Timed day) → Reportable casefold brief plan evidence →
    Sound brief plan evidence → hasConcretePlace brief plan → Visited casefold brief plan →
    ∀ description, HardDescription brief .avoid description → ¬ Straddles casefold plan description

end

/-! ## What blocks -/

section
variable {casefold : String → String} {brief : TripBrief} {plan : ItineraryPlan} {evidence : EvidenceBundle}

theorem uncoveredGaps_eq_zero {date : Day} {previousEnd : Option DateTime} {blocks : List PlanTimeBlock} :
    uncoveredGaps date previousEnd blocks = 0 ↔
      Along (fun e b => (required b : ℤ) ≤ minutesBetween e (start date b)) date previousEnd blocks := by
  induction blocks generalizing previousEnd with
  | nil => simp [uncoveredGaps, Along]
  | cons block blocks ih =>
    rw [uncoveredGaps, Along, Nat.add_eq_zero_iff, ih, List.countP_eq_zero]
    refine and_congr_left fun _ => ?_
    cases previousEnd <;> simp

theorem countP_not_eq_zero {α : Type} {p : α → Bool} {l : List α} :
    l.countP (!p ·) = 0 ↔ ∀ a ∈ l, p a = true := by
  rw [List.countP_eq_zero]
  simp

theorem toNat_not_eq_zero {b : Bool} : (!b).toNat = 0 ↔ b = true := by cases b <;> simp

theorem dayFailures_eq_zero {day : PlanDay} : dayFailures evidence day = 0 ↔
    (day.timeBlocks.map (·.placeRef.placeId)).Nodup ∧
    (∀ b ∈ day.timeBlocks, minutesBetween (start day.date b) (finish day.date b) = b.durationMinutes) ∧
    (∀ b ∈ day.timeBlocks, ∀ ref ∈ b.evidenceRefs, ref ∈ evidence.ids) ∧
    day.timeBlocks.IsChain fun b b' =>
      (required b' : ℤ) ≤ minutesBetween (finish day.date b) (start day.date b') := by
  unfold dayFailures wrongDurations unknownBlocks
  rw [Nat.add_eq_zero_iff, Nat.add_eq_zero_iff, Nat.add_eq_zero_iff, toNat_not_eq_zero, countP_not_eq_zero,
    countP_not_eq_zero, uncoveredGaps_eq_zero, Along.isChain, uniquePlaces]
  simp only [decide_eq_true_eq, referencesValid, List.all_eq_true, and_assoc]

theorem datesValid_iff : datesValid brief plan ↔ ∀ day ∈ plan.days,
    brief.dateWindow.startDate.ordinal ≤ day.date.ordinal ∧
      day.date.ordinal ≤ brief.dateWindow.endDate.ordinal := by
  have hne : plan.days.isEmpty = false := by
    have := plan.checked.bounded.1.1
    cases h : plan.days with
    | nil => simp [h] at this
    | cons => rfl
  simp [datesValid, hne]

theorem failures_eq_zero : failures casefold brief plan evidence = 0 ↔
    datesValid brief plan ∧ hasConcretePlace brief plan ∧
      (∀ day ∈ plan.days, dayFailures evidence day = 0) ∧ budgetOk brief plan ∧
        VisitChecks casefold brief plan := by
  have hconstraints : (brief.constraints.countP fun c => checkable c && !satisfied casefold plan c) = 0 ↔
      VisitChecks casefold brief plan := by
    rw [List.countP_eq_zero]
    simp [VisitChecks]
  have hdays : (plan.days.map (dayFailures evidence)).sum = 0 ↔
      ∀ day ∈ plan.days, dayFailures evidence day = 0 := by
    rw [List.sum_eq_zero_iff_forall_eq_nat]
    simp
  unfold failures
  rw [Nat.add_eq_zero_iff, Nat.add_eq_zero_iff, Nat.add_eq_zero_iff, Nat.add_eq_zero_iff, hconstraints, hdays,
    toNat_not_eq_zero, toNat_not_eq_zero, toNat_not_eq_zero]
  simp only [and_assoc]

/-- Nothing blocks a plan exactly if it is sound, has a concrete place, and its visit checks pass. -/
theorem blockers_eq_zero : failures casefold brief plan evidence + (unknownBlocks evidence plan.blocks +
      openConflicts evidence) + (if Undersupported plan evidence then 1 else 0) = 0 ↔
    Sound brief plan evidence ∧ hasConcretePlace brief plan ∧ VisitChecks casefold brief plan := by
  have hunder : (if Undersupported plan evidence then 1 else 0) = 0 ↔
      9 * claims plan ≤ 10 * supportedClaims plan evidence := by
    by_cases h : Undersupported plan evidence
    · rw [if_pos h]
      unfold Undersupported at h
      omega
    · rw [if_neg h]
      unfold Undersupported at h
      omega
  have hopen : openConflicts evidence = 0 ↔ ∀ c ∈ evidence.conflicts, c.resolutionStatus ≠ .unresolved := by
    rw [openConflicts, List.countP_eq_zero]
    simp
  have hunknown : unknownBlocks evidence plan.blocks = 0 ↔
      ∀ b ∈ plan.blocks, ∀ ref ∈ b.evidenceRefs, ref ∈ evidence.ids := by
    rw [unknownBlocks, countP_not_eq_zero]
    simp [referencesValid]
  have hbudget : budgetOk brief plan ↔ plan.estimatedTotal.currency = brief.budget.currency ∧
      plan.estimatedTotal.maxAmount.value ≤ brief.budget.maxAmount.value := by
    simp [budgetOk]
  rw [Nat.add_eq_zero_iff, Nat.add_eq_zero_iff, Nat.add_eq_zero_iff, hunder, hopen, hunknown,
    failures_eq_zero, datesValid_iff, hbudget]
  simp only [dayFailures_eq_zero]
  constructor
  · rintro ⟨⟨⟨hdates, hconcrete, hdays, hbudget, hvisits⟩, hunknown, hopen⟩, hcoverage⟩
    exact ⟨⟨hdates, fun d hd => (hdays d hd).1, fun d hd => (hdays d hd).2.1, fun d hd => (hdays d hd).2.2.2,
      hunknown, hcoverage, hopen, hbudget⟩, hconcrete, hvisits⟩
  · rintro ⟨hsound, hconcrete, hvisits⟩
    refine ⟨⟨⟨hsound.dates, hconcrete, fun d hd => ⟨hsound.places d hd, hsound.durations d hd, ?_,
      hsound.gaps d hd⟩, hsound.budget, hvisits⟩, hsound.references, hsound.conflicts⟩, hsound.coverage⟩
    exact fun b hb => hsound.references b (List.mem_flatMap.2 ⟨d, hd, hb⟩)

/-- The decision of the policy. -/
theorem combine_publishable {c : ConstraintReport} {s : SemanticRiskReport} {v : ValidationReport}
    {k : Identifier} (h : combine c s plan k = .ok v) : v.publishable = (blockers c s).isEmpty := by
  obtain ⟨_, -, h⟩ := bind_eq_ok.1 h
  obtain ⟨_, -, h⟩ := bind_eq_ok.1 h
  obtain ⟨_, rfl⟩ := check_eq_ok.1 h
  rfl

/-- **The gate as it is.** -/
theorem published_iff {i j k : Identifier} : Published casefold brief plan evidence i j k ↔
    Reported casefold brief plan evidence i j k ∧ Sound brief plan evidence ∧ hasConcretePlace brief plan ∧
      VisitChecks casefold brief plan := by
  have hdecide {c : ConstraintReport} {s : SemanticRiskReport} {v : ValidationReport}
      (hvalidate : validate casefold brief plan evidence i = .ok c)
      (hverify : verify plan evidence j = .ok s) (hcombine : combine c s plan k = .ok v) :
      v.publishable = true ↔ Sound brief plan evidence ∧ hasConcretePlace brief plan ∧
        VisitChecks casefold brief plan := by
    obtain ⟨hlen, -, hreport⟩ := validate_eq_ok.1 hvalidate
    obtain ⟨-, hchecks⟩ := (constraintReport_ok hreport).1
    obtain ⟨-, hrisks, hcoverage, -⟩ := verify_ok hverify
    have hlength := blockers_length hchecks hrisks hcoverage
    rw [outcomes_allChecks] at hlength
    rw [combine_publishable hcombine, List.isEmpty_iff_length_eq_zero, hlength, blockers_eq_zero]
  constructor
  · rintro ⟨c, s, v, hvalidate, hverify, hcombine, hpublishable⟩
    exact ⟨⟨c, s, v, hvalidate, hverify, hcombine⟩, (hdecide hvalidate hverify hcombine).1 hpublishable⟩
  · rintro ⟨⟨c, s, v, hvalidate, hverify, hcombine⟩, h⟩
    exact ⟨c, s, v, hvalidate, hverify, hcombine, (hdecide hvalidate hverify hcombine).2 h⟩

end

/-! ## Titles -/

theorem infix_intercalate {sep : List Char} {l : List (List Char)} {x : List Char} (h : x ∈ l) :
    x <:+: sep.intercalate l := by
  induction l with
  | nil => cases h
  | cons y l ih =>
    cases l with
    | nil =>
      obtain rfl := List.mem_singleton.1 h
      rw [List.intercalate_singleton]
    | cons z l =>
      rw [List.intercalate_cons_cons]
      rcases List.mem_cons.1 h with rfl | h
      · exact ⟨[], sep ++ sep.intercalate (z :: l), by simp⟩
      · exact (ih h).trans ⟨y ++ sep, [], by simp⟩

section
variable {casefold : String → String} {brief : TripBrief} {plan : ItineraryPlan} {evidence : EvidenceBundle}
  {description : String}

/-- What is in a title is in the joined titles. -/
theorem occurs_of_titled (h : Titled casefold plan description) :
    occurs (casefold description) (titles casefold plan) := by
  obtain ⟨b, hb, hoccurs⟩ := h
  refine decide_eq_true ((of_decide_eq_true hoccurs).trans ?_)
  rw [titles, String.toList_intercalate]
  refine infix_intercalate (List.mem_map.2 ⟨casefold b.title.1, ?_, rfl⟩)
  exact List.mem_map_of_mem (f := fun b : PlanTimeBlock => casefold b.title.1) hb

theorem satisfied_visit {c : ConstraintSpec} (h : c.constraintType = .visit) :
    satisfied casefold plan c = occurs (casefold c.description.1) (titles casefold plan) := by
  simp [satisfied, h]

theorem satisfied_avoid {c : ConstraintSpec} (h : c.constraintType = .avoid) :
    satisfied casefold plan c = !occurs (casefold c.description.1) (titles casefold plan) := by
  simp [satisfied, h]

/-- The checks say what the titles say if no place to visit straddles titles. -/
theorem visited_of_checks (hchecks : VisitChecks casefold brief plan)
    (h : ∀ description, HardDescription brief .visit description → ¬ Straddles casefold plan description) :
    Visited casefold brief plan := by
  constructor
  · intro description hdescription
    by_contra htitled
    refine h description hdescription ⟨?_, htitled⟩
    obtain ⟨c, hc, hhard, htype, rfl⟩ := hdescription
    rw [← satisfied_visit htype]
    exact hchecks c hc (by simp [checkable, hhard, htype])
  · rintro description ⟨c, hc, hhard, htype, rfl⟩ htitled
    have := hchecks c hc (by simp [checkable, hhard, htype])
    rw [satisfied_avoid htype, occurs_of_titled htitled] at this
    cases this

/-- And the other way if no place to avoid does. -/
theorem checks_of_visited (hvisited : Visited casefold brief plan)
    (h : ∀ description, HardDescription brief .avoid description → ¬ Straddles casefold plan description) :
    VisitChecks casefold brief plan := by
  intro c hc hcheckable
  simp only [checkable, Bool.and_eq_true, Bool.or_eq_true, decide_eq_true_eq] at hcheckable
  obtain ⟨hhard, htype | htype⟩ := hcheckable
  · rw [satisfied_visit htype]
    exact occurs_of_titled (hvisited.visits _ ⟨c, hc, hhard, htype, rfl⟩)
  · rw [satisfied_avoid htype, Bool.not_eq_true']
    by_contra hoccurs
    have havoid : HardDescription brief .avoid c.description.1 := ⟨c, hc, hhard, htype, rfl⟩
    exact h _ havoid ⟨by simpa using hoccurs, hvisited.avoids _ havoid⟩

/-! ## The gate -/

theorem reported_iff_timed {i j k : Identifier} (hconstraints : brief.constraints.length ≤ 100) :
    Reported casefold brief plan evidence i j k ↔
      (∀ day ∈ plan.days, Timed day) ∧ Reportable casefold brief plan evidence := by
  constructor
  · intro h
    have htimed : ∀ day ∈ plan.days, Timed day := by
      obtain ⟨c, _, _, hvalidate, -⟩ := h
      exact (validate_eq_ok.1 hvalidate).2.1
    exact ⟨htimed, (reported_iff htimed hconstraints).1 h⟩
  · rintro ⟨htimed, h⟩
    exact (reported_iff htimed hconstraints).2 h

/-- **The publish gate.**  It is sound and complete exactly if the joined titles are unambiguous. -/
theorem gate_iff {i j k : Identifier} (hbrief : brief.Valid) :
    Gate casefold brief plan evidence i j k ↔ Unambiguous casefold brief plan evidence := by
  have hreported : Reported casefold brief plan evidence i j k ↔ _ := reported_iff_timed hbrief.constraints
  constructor
  · intro hgate
    constructor
    · intro htimed hreportable hsound hconcrete hchecks description hdescription hstraddles
      have hpublished := published_iff.2 ⟨hreported.2 ⟨htimed, hreportable⟩, hsound, hconcrete, hchecks⟩
      exact hstraddles.2 ((hgate.sound hpublished).2.visits description hdescription)
    · intro htimed hreportable hsound hconcrete hvisited description hdescription hstraddles
      have hpublished := hgate.complete (hreported.2 ⟨htimed, hreportable⟩) hsound hvisited hconcrete
      obtain ⟨-, -, -, hchecks⟩ := published_iff.1 hpublished
      obtain ⟨c, hc, hhard, htype, rfl⟩ := hdescription
      have := hchecks c hc (by simp [checkable, hhard, htype])
      rw [satisfied_avoid htype, hstraddles.1] at this
      cases this
  · intro h
    constructor
    · intro hpublished
      obtain ⟨hmade, hsound, hconcrete, hchecks⟩ := published_iff.1 hpublished
      obtain ⟨htimed, hreportable⟩ := hreported.1 hmade
      exact ⟨hsound, visited_of_checks hchecks (h.visits htimed hreportable hsound hconcrete hchecks)⟩
    · intro hmade hsound hvisited hconcrete
      obtain ⟨htimed, hreportable⟩ := hreported.1 hmade
      exact published_iff.2 ⟨hmade, hsound, hconcrete,
        checks_of_visited hvisited (h.avoids htimed hreportable hsound hconcrete hvisited)⟩

end

namespace Sample

/-- A visit that only the joined titles have. -/
def across : ConstraintSpec := { palace with description := nonEmptyText "博物院 天坛" }

def acrossBrief : TripBrief := { brief with constraints := [across] }

end Sample

/-- A plan with the palace passes the gate for a visit of the palace. -/
theorem gate_palace : ∃ plan,
    buildCandidate id (.standard (Sample.legs 30) Sample.draws) Sample.brief Sample.candidates
      Sample.evidence = .ok plan ∧
    Gate id Sample.brief plan Sample.evidence (Sample.identifier "report_1")
      (Sample.identifier "report_2") (Sample.identifier "report_3") := by
  obtain ⟨plan, hbuild, htitled⟩ := exists_ok (x := buildCandidate id
    (.standard (Sample.legs 30) Sample.draws) Sample.brief Sample.candidates Sample.evidence)
    (P := fun plan => ∃ b ∈ plan.blocks, occurs "故宫博物院" b.title.1) (by decide +kernel)
  refine ⟨plan, hbuild, (gate_iff Sample.brief_valid).2 ⟨?_, ?_⟩⟩
  · rintro - - - - - description ⟨c, hc, -, -, rfl⟩ hstraddles
    obtain rfl := List.mem_singleton.1 hc
    exact hstraddles.2 htitled
  · rintro - - - - - description ⟨c, hc, -, htype, rfl⟩
    obtain rfl := List.mem_singleton.1 hc
    cases htype

/-- A visit that straddles the titles of two blocks passes the gate. -/
theorem straddling_visit_published : ¬ ∀ (casefold : String → String) (brief : TripBrief)
    (plan : ItineraryPlan) (evidence : EvidenceBundle) (i j k : Identifier), brief.Valid →
    Gate casefold brief plan evidence i j k := by
  intro h
  obtain ⟨plan, hbuild, hreportable, hzero, hnone⟩ := exists_ok (x := buildCandidate id
    (.standard (Sample.legs 30) Sample.draws) Sample.acrossBrief Sample.candidates Sample.evidence)
    (P := fun plan => Reportable id Sample.acrossBrief plan Sample.evidence ∧
      failures id Sample.acrossBrief plan Sample.evidence + (unknownBlocks Sample.evidence plan.blocks +
        openConflicts Sample.evidence) + (if Undersupported plan Sample.evidence then 1 else 0) = 0 ∧
      ∀ b ∈ plan.blocks, occurs "博物院 天坛" b.title.1 = false) (by decide +kernel)
  have htimed := timed_of_shows (buildCandidate_ok hbuild).2.2
  have hmade := (reported_iff_timed (i := Sample.identifier "report_1") (j := Sample.identifier "report_2")
    (k := Sample.identifier "report_3") (by decide)).2 ⟨htimed, hreportable⟩
  have hgate := h id Sample.acrossBrief plan Sample.evidence (Sample.identifier "report_1")
    (Sample.identifier "report_2") (Sample.identifier "report_3") (by decide)
  obtain ⟨-, hvisited⟩ := hgate.sound (published_iff.2 ⟨hmade, blockers_eq_zero.1 hzero⟩)
  obtain ⟨b, hb, hoccurs⟩ := hvisited.visits "博物院 天坛" ⟨_, List.mem_singleton_self _, rfl, rfl, rfl⟩
  have hfalse := hnone b hb
  rw [show occurs "博物院 天坛" b.title.1 = true from hoccurs] at hfalse
  cases hfalse

end RoutePilot.Planning
