/-
  Reports of plans.

  The lists of the reports are bounded by their contracts, while what is found
  grows with the blocks of a plan and the evidence that they refer to.
  `Reportable` counts it on the plan, and `reported_iff` says that the reports
  are made exactly if the counts fit.
-/
import RoutePilot.Proof.Timing

namespace RoutePilot.Planning

open Lib Contracts

/-! ## What the reports count -/

section
variable (casefold : String → String) (brief : TripBrief) (plan : ItineraryPlan) (evidence : EvidenceBundle)

/-- How many gaps are shorter than their leg, from the end of the block before. -/
def uncoveredGaps (date : Day) : Option DateTime → List PlanTimeBlock → ℕ
  | _, [] => 0
  | previousEnd, block :: blocks =>
    previousEnd.toList.countP (fun e => !decide ((required block : ℤ) ≤ minutesBetween e (start date block))) +
      uncoveredGaps date (some (finish date block)) blocks

/-- How many blocks state another duration than that of their interval. -/
def wrongDurations (date : Day) (blocks : List PlanTimeBlock) : ℕ :=
  blocks.countP fun b => !decide (minutesBetween (start date b) (finish date b) = b.durationMinutes)

/-- How many blocks have unknown references. -/
def unknownBlocks (blocks : List PlanTimeBlock) : ℕ := blocks.countP (!referencesValid evidence ·)

/-- How many checks of a day fail. -/
def dayFailures (day : PlanDay) : ℕ :=
  (!uniquePlaces day).toNat + wrongDurations day.date day.timeBlocks +
    unknownBlocks evidence day.timeBlocks + uncoveredGaps day.date none day.timeBlocks

/-- How many checks fail. -/
def failures : ℕ :=
  (!datesValid brief plan).toNat + (!hasConcretePlace brief plan).toNat +
    (plan.days.map (dayFailures evidence)).sum + (!budgetOk brief plan).toNat +
    brief.constraints.countP fun c => checkable c && !satisfied casefold plan c

/-- How many blocks are not known to be open. -/
def unverified : ℕ := plan.blocks.countP (!current evidence ·)

/-- How many items that are referred to are not known to be fresh. -/
def staleCount : ℕ :=
  evidence.evidence.countP fun item => item.evidenceId ∈ (used plan).flatten &&
    (item.freshness = .stale || item.freshness = .expired || item.freshness = .unknown)

/-- How many assumptions have no references. -/
def bareAssumptions : ℕ := plan.assumptions.countP (·.evidenceRefs.isEmpty)

/-- How many conflicts are open. -/
def openConflicts : ℕ := evidence.conflicts.countP (·.resolutionStatus = .unresolved)

/-- Less than 90% of the claims are supported. -/
def Undersupported : Prop := 10 * supportedClaims plan evidence < 9 * claims plan

instance : Decidable (Undersupported plan evidence) := inferInstanceAs (Decidable (_ < _))

/-- What is found fits the reports. -/
structure Reportable : Prop where
  blocks : plan.blocks.length ≤ 100
  risks : unknownBlocks evidence plan.blocks + staleCount plan evidence + bareAssumptions plan +
    openConflicts evidence ≤ 1000
  blockers : failures casefold brief plan evidence + unknownBlocks evidence plan.blocks +
    openConflicts evidence + (if Undersupported plan evidence then 1 else 0) ≤ 500
  warnings : unverified plan evidence + staleCount plan evidence + bareAssumptions plan ≤ 500

end

theorem reportable_iff {casefold : String → String} {brief : TripBrief} {plan : ItineraryPlan}
    {evidence : EvidenceBundle} : Reportable casefold brief plan evidence ↔
      plan.blocks.length ≤ 100 ∧
      unknownBlocks evidence plan.blocks + staleCount plan evidence + bareAssumptions plan +
        openConflicts evidence ≤ 1000 ∧
      failures casefold brief plan evidence + unknownBlocks evidence plan.blocks +
        openConflicts evidence + (if Undersupported plan evidence then 1 else 0) ≤ 500 ∧
      unverified plan evidence + staleCount plan evidence + bareAssumptions plan ≤ 500 :=
  ⟨fun ⟨h₁, h₂, h₃, h₄⟩ => ⟨h₁, h₂, h₃, h₄⟩, fun ⟨h₁, h₂, h₃, h₄⟩ => ⟨h₁, h₂, h₃, h₄⟩⟩

instance (casefold : String → String) (brief : TripBrief) (plan : ItineraryPlan) (evidence : EvidenceBundle) :
    Decidable (Reportable casefold brief plan evidence) := decidable_of_iff' _ reportable_iff

/-! ## Counting -/

section
variable {category : CheckCategory} {ok : Bool} {passed failed : NonEmptyText}
  {ref : Option Identifier} {blockIds : List Identifier} {h : blockIds.length ≤ 100}

theorem judge_fail : (judge category ok passed failed ref blockIds h).outcome = .fail ↔ ok = false := by
  cases ok <;> simp [judge]

theorem judge_warning : (judge category ok passed failed ref blockIds h).outcome ≠ .warning := by
  cases ok <;> simp [judge]

end

section
variable {casefold : String → String} {brief : TripBrief} {plan : ItineraryPlan} {evidence : EvidenceBundle}

theorem outcomes_append (cs cs' : List ConstraintCheck) (o : Outcome) :
    outcomes (cs ++ cs') o = outcomes cs o + outcomes cs' o := List.countP_append ..

theorem outcomes_cons (c : ConstraintCheck) (cs : List ConstraintCheck) (o : Outcome) :
    outcomes (c :: cs) o = outcomes cs o + if c.outcome = o then 1 else 0 := by
  simp [outcomes, List.countP_cons]

theorem ite_eq_toNat (b : Bool) {c : Prop} [Decidable c] (h : c ↔ b = false) :
    (if c then 1 else 0) = (!b).toNat := by
  cases b <;> simp [h]

theorem countP_eq_toNat {α : Type} (p : α → Bool) (a : α) (as : List α) :
    (a :: as).countP p = as.countP p + (p a).toNat := by
  rw [List.countP_cons]
  cases p a <;> rfl

theorem outcomes_checksOf {date : Day} {previousEnd : Option DateTime} {blocks : List PlanTimeBlock} :
    outcomes (checksOf evidence date previousEnd blocks) .fail =
      wrongDurations date blocks + unknownBlocks evidence blocks + uncoveredGaps date previousEnd blocks := by
  induction blocks generalizing previousEnd with
  | nil => rfl
  | cons block blocks ih =>
    have hgap : outcomes (previousEnd.toList.map fun e =>
        routeCheck block (minutesBetween e (start date block))) .fail = previousEnd.toList.countP
          (fun e => !decide ((required block : ℤ) ≤ minutesBetween e (start date block))) := by
      unfold outcomes
      rw [List.countP_map]
      refine List.countP_congr fun e _ => ?_
      simp [routeCheck, judge]
    have hwrong : wrongDurations date (block :: blocks) = wrongDurations date blocks +
        (!decide (minutesBetween (start date block) (finish date block) = block.durationMinutes)).toNat :=
      countP_eq_toNat ..
    have hunknown : unknownBlocks evidence (block :: blocks) = unknownBlocks evidence blocks +
        (!referencesValid evidence block).toNat := countP_eq_toNat ..
    rw [checksOf, outcomes_append, outcomes_cons, outcomes_cons, ih, hgap, hwrong, hunknown, uncoveredGaps,
      timeCheck, referenceCheck, ite_eq_toNat _ judge_fail, ite_eq_toNat _ judge_fail]
    omega

theorem outcomes_daysChecksOf {days : List PlanDay} :
    outcomes (daysChecksOf evidence days) .fail = (days.map (dayFailures evidence)).sum := by
  induction days with
  | nil => rfl
  | cons day days ih =>
    have hcons : daysChecksOf evidence (day :: days) =
        uniqueCheck day :: checksOf evidence day.date none day.timeBlocks ++ daysChecksOf evidence days := rfl
    rw [hcons, outcomes_append, outcomes_cons, outcomes_checksOf, ih, List.map_cons, List.sum_cons,
      dayFailures, uniqueCheck, ite_eq_toNat _ judge_fail]
    omega

theorem outcomes_allChecks {h : (ids plan.blocks).length ≤ 100} :
    outcomes (allChecks casefold brief plan evidence h) .fail = failures casefold brief plan evidence := by
  have hconstraints : outcomes ((brief.constraints.filter checkable).map (constraintCheck casefold plan)) .fail =
      brief.constraints.countP fun c => checkable c && !satisfied casefold plan c := by
    unfold outcomes
    rw [List.countP_map, List.countP_filter]
    refine List.countP_congr fun c _ => ?_
    simp [constraintCheck, judge, and_comm]
  have hopenings : outcomes (plan.blocks.map (openingCheck evidence)) .fail = 0 := by
    refine List.countP_eq_zero.2 fun c hc => ?_
    obtain ⟨b, _, rfl⟩ := List.mem_map.1 hc
    cases hb : current evidence b <;> simp [openingCheck, hb]
  unfold allChecks
  rw [outcomes_append, outcomes_append, outcomes_append, outcomes_append, hopenings, hconstraints,
    outcomes_daysChecksOf, outcomes_cons, outcomes_cons, outcomes_cons, dateCheck, budgetCheck,
    ite_eq_toNat _ judge_fail, ite_eq_toNat _ judge_fail, ite_eq_toNat _ judge_fail]
  simp only [outcomes, List.countP_nil, failures]
  omega

theorem warnings_allChecks {h : (ids plan.blocks).length ≤ 100} :
    outcomes (allChecks casefold brief plan evidence h) .warning = unverified plan evidence := by
  have hnone (cs : List ConstraintCheck) (hcs : ∀ c ∈ cs, c.outcome ≠ .warning) : outcomes cs .warning = 0 :=
    List.countP_eq_zero.2 fun c hc => by simpa using hcs c hc
  have hdays : ∀ c ∈ daysChecksOf evidence plan.days, c.outcome ≠ .warning := by
    refine forall_daysChecks.2 fun day _ => ⟨judge_warning, fun _ _ => judge_warning, fun _ _ => judge_warning, ?_⟩
    exact Along.isChain.2 (List.isChain_iff_getElem.2 fun _ _ => judge_warning)
  have hconstraints : ∀ c ∈ (brief.constraints.filter checkable).map (constraintCheck casefold plan),
      c.outcome ≠ .warning := by
    intro c hc
    obtain ⟨_, _, rfl⟩ := List.mem_map.1 hc
    exact judge_warning
  unfold allChecks
  rw [outcomes_append, outcomes_append, outcomes_append, outcomes_append, hnone _ hdays,
    hnone [_, _] (by simp [dateCheck, judge_warning]), hnone [_] (by simp [budgetCheck, judge_warning]),
    hnone (List.map _ _) hconstraints, Nat.zero_add, outcomes, List.countP_map]
  unfold unverified
  refine List.countP_congr fun b _ => ?_
  cases hb : current evidence b <;> simp [openingCheck, hb]

/-! ### Risks -/

theorem unknownRefs_ne_nil {b : PlanTimeBlock} :
    unknownRefs evidence b ≠ [] ↔ referencesValid evidence b = false := by
  constructor
  · intro h
    obtain ⟨ref, href⟩ := List.exists_mem_of_ne_nil _ h
    obtain ⟨hmem, hunknown⟩ := List.mem_filter.1 (List.mem_dedup.1 href)
    refine Bool.eq_false_iff.2 fun hvalid => ?_
    exact absurd (List.all_eq_true.1 hvalid ref hmem) (by simpa using hunknown)
  · intro h hnil
    have hvalid : referencesValid evidence b = true := by
      refine List.all_eq_true.2 fun ref hmem => ?_
      by_contra hunknown
      have : ref ∈ unknownRefs evidence b :=
        List.mem_dedup.2 (List.mem_filter.2 ⟨hmem, by simpa using hunknown⟩)
      rw [hnil] at this
      cases this
    rw [hvalid] at h
    cases h

theorem unknownRefs_length_filter :
    (plan.blocks.filter (unknownRefs evidence · ≠ [])).length = unknownBlocks evidence plan.blocks := by
  rw [← List.countP_eq_length_filter, unknownBlocks]
  refine List.countP_congr fun b _ => ?_
  rw [decide_eq_true_iff, unknownRefs_ne_nil, Bool.not_eq_true']

theorem staleItems_length : (staleItems plan evidence).length = staleCount plan evidence := by
  rw [staleItems, List.length_mergeSort, ← List.countP_eq_length_filter]
  rfl

theorem unresolved_length : (unresolved evidence).length = openConflicts evidence :=
  List.countP_eq_length_filter.symm

theorem risks_length : (risks plan evidence).length = unknownBlocks evidence plan.blocks +
    staleCount plan evidence + bareAssumptions plan + openConflicts evidence := by
  unfold risks bareAssumptions
  rw [List.length_append, List.length_append, List.length_append, List.length_map, List.length_map,
    List.length_map, List.length_map, unknownRefs_length_filter, staleItems_length, unresolved_length,
    List.countP_eq_length_filter]

theorem countP_map_const {α : Type} {f : α → SemanticRisk} {b : Bool} (l : List α)
    (h : ∀ a, (f a).severity.blocks = b) :
    (l.map f).countP (·.severity.blocks) = if b then l.length else 0 := by
  rw [List.countP_map]
  cases b with
  | true => exact List.countP_eq_length.2 fun a _ => h a
  | false => exact List.countP_eq_zero.2 fun a _ => by simp [h a]

/-- The risks that block: unknown references and open conflicts. -/
theorem blockingRisks : (risks plan evidence).countP (·.severity.blocks) =
    unknownBlocks evidence plan.blocks + openConflicts evidence := by
  unfold risks
  rw [List.countP_append, List.countP_append, List.countP_append,
    countP_map_const (b := true) _ fun _ => rfl, countP_map_const (b := false) _ fun _ => rfl,
    countP_map_const (b := false) _ fun _ => rfl, countP_map_const (b := true) _ fun _ => rfl]
  simp only [if_true, Bool.false_eq_true, if_false, Nat.add_zero, unknownRefs_length_filter,
    unresolved_length]

theorem warningRisks : (risks plan evidence).countP (!·.severity.blocks) =
    staleCount plan evidence + bareAssumptions plan := by
  have hsplit := List.length_eq_countP_add_countP (·.severity.blocks) (l := risks plan evidence)
  rw [risks_length, blockingRisks] at hsplit
  have hneg : (risks plan evidence).countP (!·.severity.blocks) =
      (risks plan evidence).countP fun r => decide ¬ (r.severity.blocks = true) :=
    List.countP_congr fun r _ => by simp
  rw [hneg]
  omega

/-! ### Coverage -/

variable (plan) in
theorem claims_le : claims plan ≤ 3100 := by
  have hblocks : plan.blocks.length ≤ plan.days.length * 50 := by
    unfold ItineraryPlan.blocks
    induction plan.days with
    | nil => simp
    | cons day days ih =>
      have := day.checked.bounded.2
      rw [List.flatMap_cons, List.length_append, List.length_cons]
      omega
  have := plan.checked.bounded.1.2
  have := plan.checked.bounded.2.2
  rw [claims, used, List.length_append, List.length_map, List.length_map]
  omega

/-- The ratio is low exactly if less than nine claims in ten are supported. -/
theorem coverageRatio_lt : coverageRatio (supportedClaims plan evidence) (claims plan) <
    9 * 10 ^ (ratioScale - 1) ↔ Undersupported plan evidence := by
  have hle := supportedClaims_le plan evidence
  unfold coverageRatio Undersupported
  split
  · next h =>
    rw [h] at hle ⊢
    constructor
    · exact fun hlt => absurd hlt (by decide)
    · omega
  · next h =>
    have hclaims := claims_le plan
    refine Lib.Decimal.quotient_lt_iff (d := 1) (by decide) (by decide) (by omega) (by decide) (by decide) ?_
    refine (Nat.mul_le_mul_right _ hclaims).trans (by decide)

end

/-! ## When the reports are made -/

section
variable {casefold : String → String} {brief : TripBrief} {plan : ItineraryPlan} {evidence : EvidenceBundle}

variable (evidence) in
theorem checksOf_length_le (date : Day) (previousEnd : Option DateTime) (blocks : List PlanTimeBlock) :
    (checksOf evidence date previousEnd blocks).length ≤ 3 * blocks.length := by
  induction blocks generalizing previousEnd with
  | nil => simp [checksOf]
  | cons block blocks ih =>
    have := ih (some (finish date block))
    have hroute : (previousEnd.toList.map fun e =>
        routeCheck block (minutesBetween e (start date block))).length ≤ 1 := by
      cases previousEnd <;> simp
    rw [checksOf, List.length_append, List.length_cons, List.length_cons, List.length_cons]
    omega

variable (evidence) in
theorem daysChecksOf_length_le (days : List PlanDay) :
    (daysChecksOf evidence days).length ≤ 4 * (days.flatMap (·.timeBlocks)).length := by
  induction days with
  | nil => simp [daysChecksOf]
  | cons day days ih =>
    have hcons : daysChecksOf evidence (day :: days) =
        uniqueCheck day :: checksOf evidence day.date none day.timeBlocks ++ daysChecksOf evidence days := rfl
    have hday := checksOf_length_le evidence day.date none day.timeBlocks
    have hpos := day.checked.bounded.1
    rw [hcons, List.flatMap_cons, List.length_append, List.length_append, List.length_cons]
    omega

variable (casefold evidence) in
/-- A plan with few enough blocks has few enough checks. -/
theorem allChecks_length (h : (ids plan.blocks).length ≤ 100) (hconstraints : brief.constraints.length ≤ 100) :
    1 ≤ (allChecks casefold brief plan evidence h).length ∧
      (allChecks casefold brief plan evidence h).length ≤ 2000 := by
  have hdays := daysChecksOf_length_le evidence plan.days
  have hblocks : plan.blocks.length ≤ 100 := by rwa [ids, List.length_map] at h
  have hfilter := List.length_filter_le checkable brief.constraints
  have hdef : (plan.days.flatMap (·.timeBlocks)).length = plan.blocks.length := rfl
  unfold allChecks
  simp only [List.length_append, List.length_cons, List.length_nil, List.length_map]
  omega

theorem blockers_length {checks : List ConstraintCheck} {c : ConstraintReport} {s : SemanticRiskReport}
    (hc : c.checks = checks) (hs : s.risks = risks plan evidence)
    (hcoverage : s.evidenceCoverage = evidenceCoverage plan evidence) :
    (blockers c s).length = outcomes checks .fail + (unknownBlocks evidence plan.blocks +
      openConflicts evidence) + if Undersupported plan evidence then 1 else 0 := by
  have hlow : lowCoverage s = decide (Undersupported plan evidence) := by
    unfold lowCoverage
    rw [hcoverage]
    exact decide_eq_decide.2 coverageRatio_lt
  unfold blockers
  rw [List.length_append, List.length_append, List.length_map, List.length_map,
    ← List.countP_eq_length_filter, ← List.countP_eq_length_filter, hs, blockingRisks, hc, hlow]
  by_cases h : Undersupported plan evidence <;> simp [h, outcomes]

theorem warnings_length {checks : List ConstraintCheck} {c : ConstraintReport} {s : SemanticRiskReport}
    (hc : c.checks = checks) (hs : s.risks = risks plan evidence) :
    (warnings c s).length = outcomes checks .warning + (staleCount plan evidence + bareAssumptions plan) := by
  unfold warnings
  rw [List.length_append, List.length_map, List.length_map, ← List.countP_eq_length_filter,
    ← List.countP_eq_length_filter, hs, warningRisks, hc]
  rfl

/-- What the verifier returns. -/
theorem verify_ok {artifactId : Identifier} {s : SemanticRiskReport}
    (h : verify plan evidence artifactId = .ok s) : s.planRef.artifactId = plan.artifactId ∧
      s.risks = risks plan evidence ∧ s.evidenceCoverage = evidenceCoverage plan evidence ∧
      (risks plan evidence).length ≤ 1000 := by
  obtain ⟨hlen, rfl⟩ := check_eq_ok.1 h
  exact ⟨rfl, rfl, rfl, hlen⟩

variable (casefold evidence) in
theorem validate_total (i : Identifier) (hlen : (ids plan.blocks).length ≤ 100)
    (htimed : ∀ day ∈ plan.days, Timed day) (hconstraints : brief.constraints.length ≤ 100) :
    ∃ c, validate casefold brief plan evidence i = .ok c ∧
      Reports plan (allChecks casefold brief plan evidence hlen) c := by
  have hcount := allChecks_length casefold evidence hlen hconstraints
  have hreport : ∃ c, constraintReport plan i (allChecks casefold brief plan evidence hlen) = .ok c :=
    ⟨_, check_pos hcount⟩
  obtain ⟨c, hreport⟩ := hreport
  exact ⟨c, validate_eq_ok.2 ⟨hlen, htimed, hreport⟩, (constraintReport_ok hreport).1⟩

theorem combine_eq_ok {c : ConstraintReport} {s : SemanticRiskReport} {k : Identifier} :
    (∃ v, combine c s plan k = .ok v) ↔
      c.planRef.artifactId = plan.artifactId ∧ s.planRef.artifactId = plan.artifactId ∧
        (blockers c s).length ≤ 500 ∧ (warnings c s).length ≤ 500 := by
  unfold combine
  constructor
  · rintro ⟨v, h⟩
    obtain ⟨_, h₁, h⟩ := bind_eq_ok.1 h
    obtain ⟨_, h₂, h⟩ := bind_eq_ok.1 h
    obtain ⟨h₁, -⟩ := check_eq_ok.1 h₁
    obtain ⟨h₂, -⟩ := check_eq_ok.1 h₂
    obtain ⟨h₃, -⟩ := check_eq_ok.1 h
    exact ⟨h₁, h₂, h₃⟩
  · rintro ⟨h₁, h₂, h₃⟩
    rw [check_pos h₁, ok_bind, check_pos h₂, ok_bind, check_pos h₃]
    exact ⟨_, rfl⟩

/-- The three reports of a plan. -/
def Reported (casefold : String → String) (brief : TripBrief) (plan : ItineraryPlan)
    (evidence : EvidenceBundle) (i j k : Identifier) : Prop :=
  ∃ c s v, validate casefold brief plan evidence i = .ok c ∧ verify plan evidence j = .ok s ∧
    combine c s plan k = .ok v

/-- A plan whose times can be computed has its reports exactly if what is found fits them. -/
theorem reported_iff {i j k : Identifier} (htimed : ∀ day ∈ plan.days, Timed day)
    (hconstraints : brief.constraints.length ≤ 100) :
    Reported casefold brief plan evidence i j k ↔ Reportable casefold brief plan evidence := by
  constructor
  · rintro ⟨c, s, v, hvalidate, hverify, hcombine⟩
    obtain ⟨hlen, -, hreport⟩ := validate_eq_ok.1 hvalidate
    obtain ⟨-, hchecks⟩ := (constraintReport_ok hreport).1
    obtain ⟨-, hrisks, hcoverage, hbounded⟩ := verify_ok hverify
    obtain ⟨-, -, hblockers, hwarnings⟩ := combine_eq_ok.1 ⟨v, hcombine⟩
    rw [blockers_length hchecks hrisks hcoverage, outcomes_allChecks] at hblockers
    rw [warnings_length hchecks hrisks, warnings_allChecks] at hwarnings
    rw [risks_length] at hbounded
    refine ⟨by rwa [ids, List.length_map] at hlen, hbounded, ?_, ?_⟩
    · omega
    · omega
  · rintro ⟨hblocks, hbounded, hblockers, hwarnings⟩
    obtain ⟨c, hvalidate, hplan, hchecks⟩ := validate_total casefold evidence i
      (by rwa [ids, List.length_map]) htimed hconstraints
    have hverify : ∃ s, verify plan evidence j = .ok s := ⟨_, check_pos (by rwa [risks_length])⟩
    obtain ⟨s, hverify⟩ := hverify
    obtain ⟨hplan', hrisks, hcoverage, -⟩ := verify_ok hverify
    have hcombine : ∃ v, combine c s plan k = .ok v := by
      refine combine_eq_ok.2 ⟨hplan, hplan', ?_, ?_⟩
      · rw [blockers_length hchecks hrisks hcoverage, outcomes_allChecks]
        omega
      · rw [warnings_length hchecks hrisks, warnings_allChecks]
        omega
    obtain ⟨v, hcombine⟩ := hcombine
    exact ⟨c, s, v, hvalidate, hverify, hcombine⟩

/-- **Reports of plans.**  A plan of the planner has its three reports, over any evidence, exactly if
    what is found fits them. -/
theorem planner_reported_iff {route : RouteService} {draws : Draws} {candidates : CandidateSet}
    {evidence' : EvidenceBundle} {i j k : Identifier} (hbrief : brief.Valid)
    (hbuild : buildCandidate casefold (.standard route draws) brief candidates evidence' = .ok plan) :
    Reported casefold brief plan evidence i j k ↔ Reportable casefold brief plan evidence :=
  reported_iff (timed_of_shows (buildCandidate_ok hbuild).2.2) hbrief.constraints

end
/-- A plan for a day in Beijing has its reports. -/
theorem planner_reported_day : ∃ plan,
    buildCandidate id (.standard (Sample.legs 30) Sample.draws) Sample.brief Sample.candidates
      Sample.evidence = .ok plan ∧
    Reported id Sample.brief plan Sample.evidence (Sample.identifier "report_1")
      (Sample.identifier "report_2") (Sample.identifier "report_3") := by
  obtain ⟨plan, hbuild, hreportable⟩ :=
    exists_ok (x := buildCandidate id (.standard (Sample.legs 30) Sample.draws) Sample.brief
      Sample.candidates Sample.evidence)
      (P := fun plan => Reportable id Sample.brief plan Sample.evidence) (by decide +kernel)
  exact ⟨plan, hbuild, (planner_reported_iff Sample.brief_valid hbuild).2 hreportable⟩

namespace Sample

/-- Twenty-six days from the Monday. -/
def month : TripDateRange where
  startDate := monday
  endDate := ⟨monday.ordinal + 25, by decide, by decide⟩
  timezone := "Asia/Shanghai"
  le := by decide
  flexible := notFlexible

/-- A long trip. -/
def longBrief : TripBrief := { brief with dateWindow := month }

/-- Four places. -/
def fourPlaces : CandidateSet :=
  { candidates with
    candidates := [palacePlace, templePlace, candidate "place_3" "颐和园", candidate "place_4" "国家博物馆"]
    bounded := by decide, unique := by decide, zoned := by decide }

end Sample

theorem blocks_length {p : Planner} {timezone : Timezone} {currency : CurrencyCode}
    {sched : List (Day × List Visit)} {days : List PlanDay}
    (h : List.Forall₂ (ShowsDay p timezone currency) sched days) :
    (days.flatMap (·.timeBlocks)).length = (sched.map fun d => (p.kept d.2).length).sum := by
  induction h with
  | nil => rfl
  | cons hshows _ ih =>
    rw [List.flatMap_cons, List.length_append, ih, List.map_cons, List.sum_cons, hshows.blocks.length_eq]

/-- A check that relates to all blocks of twenty-six full days is not made. -/
theorem long_trip_unreported : ¬ ∀ (casefold : String → String) (route : RouteService) (draws : Draws)
    (brief : TripBrief) (candidates : CandidateSet) (evidence : EvidenceBundle) (plan : ItineraryPlan),
    brief.Valid → buildCandidate casefold (.standard route draws) brief candidates evidence = .ok plan →
    ∀ i j k, Reported casefold brief plan evidence i j k := by
  intro h
  have hfeasible : Feasible id (.standard (Sample.legs 30) Sample.draws) Sample.longBrief Sample.fourPlaces :=
    Punctual.feasible rfl (by decide) ⟨by decide +kernel, by decide +kernel, by decide +kernel, by decide +kernel⟩
  have hmatching : Matching id Sample.longBrief Sample.fourPlaces Sample.evidence :=
    ⟨by decide, by decide, by decide, by decide⟩
  obtain ⟨plan, hbuild⟩ := buildCandidate_total rfl (by decide) hmatching hfeasible
  obtain ⟨_, _, _, hvalidate, -⟩ := h id (Sample.legs 30) Sample.draws Sample.longBrief Sample.fourPlaces
    Sample.evidence plan (by decide) hbuild (Sample.identifier "report_1") (Sample.identifier "report_2")
    (Sample.identifier "report_3")
  obtain ⟨hlen, -⟩ := validate_eq_ok.1 hvalidate
  have hblocks := blocks_length (buildCandidate_ok hbuild).2.2.days
  rw [show (plan.days.flatMap (·.timeBlocks)).length = (ids plan.blocks).length from
    (List.length_map _).symm] at hblocks
  rw [hblocks] at hlen
  revert hlen
  decide +kernel

end RoutePilot.Planning
