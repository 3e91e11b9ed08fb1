/-
  The totals of a plan and the sums of its parts.

  The planner adds a leg to the route summary when it asks for it, and only then
  finds out whether the visit at its end is late.  A late visit is dropped, and
  its leg stays in the summary: the totals are the sums exactly if no day drops
  a visit, as long as the decimal context rounds no sum of amounts.
-/
import RoutePilot.Proof.Budget

namespace RoutePilot.Planning

open Lib Contracts

/-! ## Sums of the parts -/

/-- What a block costs at least. -/
def leastCost (block : PlanTimeBlock) : ℕ := (block.costRange.map (·.minAmount.value)).getD 0

/-- What a block costs at most. -/
def mostCost (block : PlanTimeBlock) : ℕ := (block.costRange.map (·.maxAmount.value)).getD 0

/-- The legs between the blocks of a plan. -/
def planLegs (plan : ItineraryPlan) : List TransitLeg := plan.blocks.filterMap (·.transitFromPrevious)

/-- The cost of a day is the sum over its blocks. -/
def DayTotalled (day : PlanDay) : Prop :=
  day.dailyCost.minAmount.value = (day.timeBlocks.map leastCost).sum ∧
    day.dailyCost.maxAmount.value = (day.timeBlocks.map mostCost).sum

instance : DecidablePred DayTotalled := fun _ => inferInstanceAs (Decidable (_ ∧ _))

/-- The totals of a plan are the sums of its parts. -/
structure Totalled (plan : ItineraryPlan) : Prop where
  distance : plan.routeSummary.totalDistanceMeters = ((planLegs plan).map (·.distanceMeters)).sum
  duration : plan.routeSummary.totalTransitDurationMinutes = ((planLegs plan).map (·.durationMaxMinutes)).sum
  legs : plan.routeSummary.legsCount = (planLegs plan).length
  daily : ∀ day ∈ plan.days, DayTotalled day
  least : plan.estimatedTotal.minAmount.value = (plan.days.map (·.dailyCost.minAmount.value)).sum
  most : plan.estimatedTotal.maxAmount.value = (plan.days.map (·.dailyCost.maxAmount.value)).sum

/-! ## Legs -/

theorem Routes.foldl_add (visits : List Visit) (r : Routes) :
    (visits.map (·.transit)).foldl Routes.add r =
      ⟨r.distance + ((visits.filterMap (·.transit)).map (·.distanceMeters)).sum,
        r.duration + ((visits.filterMap (·.transit)).map (·.durationMaxMinutes)).sum,
        r.legs + (visits.filterMap (·.transit)).length⟩ := by
  induction visits generalizing r with
  | nil => rfl
  | cons v vs ih =>
    rw [List.map_cons, List.foldl_cons, ih]
    cases h : v.transit with
    | none => simp only [Routes.add, List.filterMap_cons, h]
    | some leg =>
      simp only [Routes.add, List.filterMap_cons, h, List.map_cons, List.sum_cons, List.length_cons,
        Routes.mk.injEq]
      omega

section
variable {p : Planner} {timezone : Timezone} {currency : CurrencyCode}

theorem length_filterMap (visits : List Visit) :
    (visits.filterMap (·.transit)).length = visits.countP (·.transit.isSome) := by
  induction visits with
  | nil => rfl
  | cons v vs ih =>
    cases h : v.transit with
    | none => rw [List.filterMap_cons_none h, ih, List.countP_cons_of_neg (by simp [h])]
    | some leg => rw [List.filterMap_cons_some h, List.length_cons, ih, List.countP_cons_of_pos (by simp [h])]

/-- Every visit that is dropped had a leg to it. -/
theorem length_legs (visits : List Visit) :
    (visits.filterMap (·.transit)).length =
      ((p.kept visits).filterMap (·.transit)).length + visits.countP p.late := by
  rw [length_filterMap, length_filterMap]
  induction visits with
  | nil => rfl
  | cons v vs ih =>
    rcases hlate : p.late v with _ | _
    · rw [Planner.kept_cons hlate, List.countP_cons, List.countP_cons, List.countP_cons, ih, hlate]
      simp only [Bool.false_eq_true, if_false]
      omega
    · have hsome : v.transit.isSome := by
        rw [Planner.late, Bool.and_eq_true] at hlate
        exact hlate.1
      rw [Planner.kept_cons_of_late hlate, List.countP_cons, List.countP_cons, ih, if_pos hsome, if_pos hlate]
      omega

theorem legs_of_shows {date : Day} {visits : List Visit} {blocks : List PlanTimeBlock}
    (h : List.Forall₂ (Shows p timezone currency date) visits blocks) :
    blocks.filterMap (·.transitFromPrevious) = visits.filterMap (·.transit) := by
  induction h with
  | nil => rfl
  | cons hshows _ ih => rw [List.filterMap_cons, List.filterMap_cons, hshows.transit, ih]

/-- The visits that the days of an agenda take up. -/
def taken (agenda : List (Day × List Visit)) : List Visit := agenda.flatMap (·.2)

theorem kept_taken (agenda : List (Day × List Visit)) :
    p.kept (taken agenda) = agenda.flatMap fun d => p.kept d.2 := by
  unfold Planner.kept taken
  rw [List.filter_flatMap]

theorem planLegs_of_shows {sched : List (Day × List Visit)} {days : List PlanDay}
    (h : List.Forall₂ (ShowsDay p timezone currency) sched days) :
    (days.flatMap (·.timeBlocks)).filterMap (·.transitFromPrevious) =
      (p.kept (taken sched)).filterMap (·.transit) := by
  rw [kept_taken]
  induction h with
  | nil => rfl
  | cons hshows _ ih =>
    rw [List.flatMap_cons, List.flatMap_cons, List.filterMap_append, List.filterMap_append, ih,
      legs_of_shows hshows.blocks]

/-! ## Amounts -/

/-- The decimal context adds amounts without rounding. -/
def AddsUp (amounts : List ℕ) : Prop := total amounts = amounts.sum

instance : DecidablePred AddsUp := fun _ => inferInstanceAs (Decidable (_ = _))

/-- It does as long as the sum has no more digits than the context keeps. -/
theorem addsUp_of_lt {amounts : List ℕ} (h : amounts.sum < 10 ^ precision) : AddsUp amounts := by
  rw [AddsUp, total, foldl_plus_eq (by omega), Nat.zero_add]

/-- No sum of an agenda's amounts is rounded. -/
structure Unrounded (p : Planner) (currency : CurrencyCode) (agenda : List (Day × List Visit)) : Prop where
  daily : ∀ d ∈ agenda, AddsUp ((p.kept d.2).map (minimum currency)) ∧
    AddsUp ((p.kept d.2).map (maximum currency))
  least : AddsUp (agenda.map fun d => ((p.kept d.2).map (minimum currency)).sum)
  most : AddsUp (agenda.map fun d => ((p.kept d.2).map (maximum currency)).sum)

instance (p : Planner) (currency : CurrencyCode) (agenda : List (Day × List Visit)) :
    Decidable (Unrounded p currency agenda) :=
  decidable_of_iff (_ ∧ _ ∧ _) ⟨fun h => ⟨h.1, h.2.1, h.2.2⟩, fun h => ⟨h.daily, h.least, h.most⟩⟩

theorem costs_of_shows {date : Day} {visits : List Visit} {blocks : List PlanTimeBlock}
    (h : List.Forall₂ (Shows p timezone currency date) visits blocks) :
    blocks.map leastCost = visits.map (minimum currency) ∧
      blocks.map mostCost = visits.map (maximum currency) := by
  induction h with
  | nil => exact ⟨rfl, rfl⟩
  | cons hshows _ ih =>
    simp only [List.map_cons, leastCost, mostCost, hshows.cost, Option.map_some, Option.getD_some]
    exact ⟨congrArg _ ih.1, congrArg _ ih.2⟩

theorem dayTotalled_iff {d : Day × List Visit} {day : PlanDay} (h : ShowsDay p timezone currency d day) :
    DayTotalled day ↔ AddsUp ((p.kept d.2).map (minimum currency)) ∧
      AddsUp ((p.kept d.2).map (maximum currency)) := by
  obtain ⟨hleast, hmost⟩ := costs_of_shows h.blocks
  rw [DayTotalled, h.dailyCost.minAmount, h.dailyCost.maxAmount, hleast, hmost]
  rfl

theorem dailyCosts_of_shows {sched : List (Day × List Visit)} {days : List PlanDay}
    (h : List.Forall₂ (ShowsDay p timezone currency) sched days) :
    days.map (·.dailyCost.minAmount.value) = sched.map (fun d => p.dayMin currency d.2) ∧
      days.map (·.dailyCost.maxAmount.value) = sched.map (fun d => p.dayMax currency d.2) := by
  induction h with
  | nil => exact ⟨rfl, rfl⟩
  | cons hshows _ ih =>
    simp only [List.map_cons, hshows.dailyCost.minAmount, hshows.dailyCost.maxAmount, ih.1, ih.2, and_self]

end

/-! ## The totals -/

section
variable {casefold : String → String} {p : Planner} {brief : TripBrief} {candidates : CandidateSet}
  {evidence : EvidenceBundle} {plan : ItineraryPlan}

theorem routes_iff (h : ShowsTrip casefold p brief candidates evidence plan) :
    (plan.routeSummary.totalDistanceMeters = ((planLegs plan).map (·.distanceMeters)).sum ∧
      plan.routeSummary.totalTransitDurationMinutes = ((planLegs plan).map (·.durationMaxMinutes)).sum ∧
      plan.routeSummary.legsCount = (planLegs plan).length) ↔
    ∀ v ∈ taken (agenda casefold p brief candidates), p.late v = false := by
  have hlegs : planLegs plan = (p.kept (taken (agenda casefold p brief candidates))).filterMap (·.transit) :=
    planLegs_of_shows h.days
  have hsummary := h.routeSummary
  rw [legsOf, Routes.foldl_add] at hsummary
  rw [hsummary, hlegs]
  simp only [Routes.summary, Nat.zero_add]
  change (_ = _ ∧ _ = _ ∧ ((taken _).filterMap _).length = _) ↔ _
  rw [length_legs (p := p)]
  constructor
  · rintro ⟨-, -, hcount⟩ v hv
    have hzero : (taken (agenda casefold p brief candidates)).countP p.late = 0 := by omega
    simpa using List.countP_eq_zero.1 hzero v hv
  · intro hlate
    have hkept : p.kept (taken (agenda casefold p brief candidates)) =
        taken (agenda casefold p brief candidates) :=
      List.filter_eq_self.2 fun v hv => by simp [hlate v hv]
    have hzero : (taken (agenda casefold p brief candidates)).countP p.late = 0 :=
      List.countP_eq_zero.2 fun v hv => by simp [hlate v hv]
    rw [hkept, hzero]
    exact ⟨rfl, rfl, rfl⟩

/-- The totals of a plan are the sums of its parts exactly if no day dropped a visit and no sum of
    amounts was rounded. -/
theorem totals_iff (hbuild : buildCandidate casefold p brief candidates evidence = .ok plan) :
    Totalled plan ↔ (∀ v ∈ taken (agenda casefold p brief candidates), p.late v = false) ∧
      Unrounded p brief.budget.currency (agenda casefold p brief candidates) := by
  obtain ⟨-, -, hshows⟩ := buildCandidate_ok hbuild
  have hdaily := forall_shows hshows.days fun d _ day (hday : ShowsDay _ _ _ d day) => dayTotalled_iff hday
  obtain ⟨hleast, hmost⟩ := dailyCosts_of_shows hshows.days
  -- given the daily sums, the grand totals are the planner's additions of them
  have hgrand (hsums : ∀ d ∈ agenda casefold p brief candidates,
        AddsUp ((p.kept d.2).map (minimum brief.budget.currency)) ∧
          AddsUp ((p.kept d.2).map (maximum brief.budget.currency))) :
      (plan.estimatedTotal.minAmount.value = (plan.days.map (·.dailyCost.minAmount.value)).sum ↔
        AddsUp ((agenda casefold p brief candidates).map fun d =>
          ((p.kept d.2).map (minimum brief.budget.currency)).sum)) ∧
      (plan.estimatedTotal.maxAmount.value = (plan.days.map (·.dailyCost.maxAmount.value)).sum ↔
        AddsUp ((agenda casefold p brief candidates).map fun d =>
          ((p.kept d.2).map (maximum brief.budget.currency)).sum)) := by
    rw [hleast, hmost, hshows.estimatedTotal.minAmount, hshows.estimatedTotal.maxAmount,
      ← List.map_congr_left fun d hd => (hsums d hd).1, ← List.map_congr_left fun d hd => (hsums d hd).2]
    exact ⟨Iff.rfl, Iff.rfl⟩
  constructor
  · rintro ⟨hdistance, hduration, hcount, hdays, htotalMin, htotalMax⟩
    have hsums := hdaily.1 hdays
    exact ⟨(routes_iff hshows).1 ⟨hdistance, hduration, hcount⟩, hsums,
      (hgrand hsums).1.1 htotalMin, (hgrand hsums).2.1 htotalMax⟩
  · rintro ⟨hlate, hsums, htotalMin, htotalMax⟩
    obtain ⟨hdistance, hduration, hcount⟩ := (routes_iff hshows).2 hlate
    exact ⟨hdistance, hduration, hcount, hdaily.2 hsums,
      (hgrand hsums).1.2 htotalMin, (hgrand hsums).2.2 htotalMax⟩

end

/-- With a leg of half an hour no visit is dropped. -/
theorem totals_half_hour : ∃ plan,
    buildCandidate id (.standard (Sample.legs 30) Sample.draws) Sample.brief Sample.candidates
      Sample.evidence = .ok plan ∧ Totalled plan := by
  have hlate : ∀ v ∈ taken (agenda id (.standard (Sample.legs 30) Sample.draws) Sample.brief Sample.candidates),
      (Planner.standard (Sample.legs 30) Sample.draws).late v = false := by decide +kernel
  have hsums : Unrounded (.standard (Sample.legs 30) Sample.draws) Sample.brief.budget.currency
      (agenda id (.standard (Sample.legs 30) Sample.draws) Sample.brief Sample.candidates) := by
    decide +kernel
  have hbuilt := exists_ok (x := buildCandidate id (.standard (Sample.legs 30) Sample.draws) Sample.brief
    Sample.candidates Sample.evidence) (P := fun plan => plan.blocks ≠ []) (by decide +kernel)
  exact hbuilt.elim fun plan h => ⟨plan, h.1, (totals_iff h.1).2 ⟨hlate, hsums⟩⟩

/-- A leg of ten hours is counted, and no block of the plan has it. -/
theorem dropped_leg_counted : ¬ ∀ (casefold : String → String) (p : Planner) (brief : TripBrief)
    (candidates : CandidateSet) (evidence : EvidenceBundle) (plan : ItineraryPlan), brief.Valid →
    buildCandidate casefold p brief candidates evidence = .ok plan → Totalled plan := by
  intro h
  obtain ⟨plan, hbuild, hcount⟩ := exists_ok (x := buildCandidate id
    (.standard (Sample.legs 600) Sample.draws) Sample.brief Sample.candidates Sample.evidence)
    (P := fun plan => plan.routeSummary.legsCount ≠ (planLegs plan).length) (by decide +kernel)
  exact hcount (h _ _ _ _ _ plan Sample.brief_valid hbuild).legs

end RoutePilot.Planning
