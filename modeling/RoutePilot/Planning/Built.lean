/-
  What the planner returns (`build_candidate` as a whole).

  The agenda of a trip is the schedule of its dates.  `buildCandidate_ok` and
  `buildCandidate_total` say that the planner returns a plan exactly for inputs
  that belong together and an agenda that is feasible, and that the plan shows
  that agenda.
-/
import RoutePilot.Planning.Schedule

namespace RoutePilot.Planning

open Lib Contracts

/-! ## The plan -/

section
variable {token : Hex 24}

theorem isIdentifier_newId {kind : String} (hhead : kind.toList.head?.any Char.isLower)
    (hall : kind.toList.all isIdentifierChar) (hlen : kind.length ≤ 100) :
    isIdentifier (newId kind token) := by
  have ht := token.text_length (by decide)
  have hlist : (newId kind token).toList = kind.toList ++ '_' :: token.text.toList := by simp [newId]
  have hsize : (newId kind token).length = kind.length + 1 + 24 := by
    simp only [newId, String.length_append, ht]
    rfl
  unfold isIdentifier
  simp only [hsize, hlist, Bool.and_eq_true, decide_eq_true_eq]
  refine ⟨⟨⟨?_, List.all_eq_true.2 fun c hc => ?_⟩, by omega⟩, by omega⟩
  · cases hk : kind.toList with
    | nil => rw [hk] at hhead; cases hhead
    | cons c cs => simpa [hk] using hhead
  · simp only [List.mem_append, List.mem_cons] at hc
    rcases hc with hc | rfl | hc
    · exact List.all_eq_true.1 hall c hc
    · decide
    · exact token.isIdentifierChar_text hc

theorem isText_locator (id : Identifier) : IsText 1 512 ("evidence:" ++ id.1) := by
  have hid := id.2
  simp only [isIdentifier, Bool.and_eq_true, decide_eq_true_eq] at hid
  obtain ⟨⟨⟨-, hall⟩, hmin⟩, hmax⟩ := hid
  have hne : id.1.toList ≠ [] := fun hnil => by
    have := congrArg List.length hnil
    rw [String.length_toList, List.length_nil] at this
    omega
  have hhead : "evidence:".toList = 'e' :: "vidence:".toList := by decide
  refine isText_of_ends 'e' (id.1.toList.getLast hne) ("vidence:".toList ++ id.1.toList.dropLast)
    ?_ (by decide) ?_ ?_
  · rw [String.toList_append, hhead, List.cons_append, List.append_assoc, List.dropLast_append_getLast]
  · exact isWhitespace_of_isIdentifierChar (List.all_eq_true.1 hall _ (List.getLast_mem hne))
  · have : "evidence:".length = 9 := by decide
    rw [String.length_append]
    omega

theorem citations_total (evidence : EvidenceBundle) (token : Hex 24) :
    ∃ cs, citations evidence token = .ok cs ∧ 1 ≤ cs.length ∧ cs.length ≤ 1000 := by
  unfold citations
  have hcited := evidence.bounded.2.2.1
  have hitems := evidence.bounded.1
  cases hc : evidence.citations with
  | cons c cs =>
    rw [hc] at hcited
    exact ⟨c :: cs, rfl, by simp, hcited⟩
  | nil =>
    cases he : evidence.evidence with
    | nil => simp [he] at hitems
    | cons first rest =>
      have hok : isIdentifier (newId "citation" token) ∧ IsText 1 512 ("evidence:" ++ first.evidenceId.1) :=
        ⟨isIdentifier_newId (by decide) (by decide) (by decide), isText_locator _⟩
      exact ⟨_, check_pos hok, by simp, by simp⟩

end

section
variable (casefold : String → String) (p : Planner) (brief : TripBrief) (candidates : CandidateSet)

/-- The inputs belong together, and the avoid constraints leave a candidate. -/
structure Matching (evidence : EvidenceBundle) : Prop where
  ofBrief : candidates.tripBriefRef.artifactId.1 = brief.artifactId
  ofEvidence : candidates.evidenceBundleRef.artifactId = evidence.artifactId
  zoned : brief.destination.timezone = candidates.timezone ∧ evidence.timezone = candidates.timezone
  left : eligible casefold brief candidates ≠ []

/-- The visits that each date of the trip takes up. -/
def agenda : List (Day × List Visit) :=
  if h : eligible casefold brief candidates ≠ [] then
    p.schedule ⟨planningCandidates casefold brief candidates, planningCandidates_ne_nil h⟩
      (dates brief.dateWindow) 0 0
  else []

/-- A plan can be shown: its days, its total, and no more days than a plan may have. -/
structure Feasible : Prop where
  days : ∀ d ∈ agenda casefold p brief candidates, Fitting p brief.budget.currency d.1 d.2
  printable : Printable (p.grandMin brief.budget.currency (agenda casefold p brief candidates)) ∧
    Printable (p.grandMax brief.budget.currency (agenda casefold p brief candidates))
  bounded : (dates brief.dateWindow).length ≤ 60

/-- The sums over the legs that the route service was asked for. -/
def legsOf (agenda : List (Day × List Visit)) : Routes :=
  ((agenda.flatMap (·.2)).map (·.transit)).foldl Routes.add {}

/-- The sums as a plan states them. -/
def Routes.summary (r : Routes) : RouteSummary := ⟨r.distance, r.duration, r.legs⟩

/-- A plan shows the visits of a trip. -/
structure ShowsTrip (evidence : EvidenceBundle) (plan : ItineraryPlan) : Prop where
  tripBriefRef : plan.tripBriefRef.artifactId.1 = brief.artifactId
  evidenceBundleRef : plan.evidenceBundleRef.artifactId = evidence.artifactId
  timezone : plan.timezone = candidates.timezone
  assumptions : plan.assumptions = []
  days : List.Forall₂ (ShowsDay p candidates.timezone brief.budget.currency)
    (agenda casefold p brief candidates) plan.days
  estimatedTotal : IsMoney (p.grandMin brief.budget.currency (agenda casefold p brief candidates))
    (p.grandMax brief.budget.currency (agenda casefold p brief candidates)) brief.budget.currency
    plan.estimatedTotal
  routeSummary : plan.routeSummary = (legsOf (agenda casefold p brief candidates)).summary

end

section
variable {casefold : String → String} {p : Planner} {brief : TripBrief} {candidates : CandidateSet}
  {evidence : EvidenceBundle}

theorem mem_planningCandidates {c : Candidate} (h : c ∈ planningCandidates casefold brief candidates) :
    c ∈ eligible casefold brief candidates := by
  rcases List.mem_append.1 h with h | h
  · obtain ⟨_, _, h⟩ := List.mem_flatMap.1 h
    exact List.mem_of_mem_filter h
  · exact List.mem_of_mem_filter h

theorem planningCandidates_zoned :
    ∀ c ∈ planningCandidates casefold brief candidates, c.placeRef.timezone = candidates.timezone :=
  fun c hc => candidates.zoned c (List.mem_of_mem_filter (mem_planningCandidates hc))

theorem dates_length (w : TripDateRange) :
    (dates w).length = w.endDate.ordinal - w.startDate.ordinal + 1 := by simp [dates]

theorem dates_pairwise (w : TripDateRange) : ((dates w).map (·.ordinal)).Pairwise (· < ·) := by
  rw [dates, List.map_ofFn]
  refine List.pairwise_iff_getElem.2 fun i j hi hj hij => ?_
  simp only [List.getElem_ofFn, Function.comp]
  omega

theorem schedule_dates {rota : Rota} {ds : List Day} {legs cursor : ℕ} :
    (p.schedule rota ds legs cursor).map (·.1) = ds := by
  induction ds generalizing legs cursor with
  | nil => rfl
  | cons date ds ih => rw [Planner.schedule, List.map_cons, ih]

theorem agenda_dates (h : eligible casefold brief candidates ≠ []) :
    (agenda casefold p brief candidates).map (·.1) = dates brief.dateWindow := by
  rw [agenda, dif_pos h, schedule_dates]

theorem dates_of_shows {timezone : Timezone} {currency : CurrencyCode} {sched : List (Day × List Visit)}
    {days : List PlanDay} (h : List.Forall₂ (ShowsDay p timezone currency) sched days) :
    days.map (·.date) = sched.map (·.1) := by
  induction h with
  | nil => rfl
  | cons hshows _ ih => rw [List.map_cons, List.map_cons, ih, hshows.date]

theorem shows_days {timezone : Timezone} {currency : CurrencyCode} {sched : List (Day × List Visit)}
    {days : List PlanDay} (h : List.Forall₂ (ShowsDay p timezone currency) sched days) :
    ∀ d ∈ days, d.timezone = timezone ∧ d.dailyCost.currency = currency := by
  induction h with
  | nil => simp
  | cons hshows _ ih => exact List.forall_mem_cons.2 ⟨⟨hshows.zoned, hshows.priced⟩, ih⟩

theorem dates_short (w : TripDateRange) : 0 + (dates w).length ≤ 10 ^ 9 := by
  have := w.endDate.last
  rw [dates_length, maxOrdinal] at *
  omega

/-- **What the planner returns.**  A plan that shows the visits of its trip. -/
theorem buildCandidate_ok {plan : ItineraryPlan}
    (h : buildCandidate casefold p brief candidates evidence = .ok plan) :
    Matching casefold brief candidates evidence ∧ Feasible casefold p brief candidates ∧
      ShowsTrip casefold p brief candidates evidence plan := by
  unfold buildCandidate at h
  obtain ⟨_, h₁, h⟩ := bind_eq_ok.1 h
  obtain ⟨_, h₂, h⟩ := bind_eq_ok.1 h
  obtain ⟨_, h₃, h⟩ := bind_eq_ok.1 h
  obtain ⟨rota, h₄, h⟩ := bind_eq_ok.1 h
  obtain ⟨hbrief, -⟩ := check_eq_ok.1 h₁
  obtain ⟨hevidence, -⟩ := check_eq_ok.1 h₂
  obtain ⟨htimezone, -⟩ := check_eq_ok.1 h₃
  obtain ⟨heligible, rfl⟩ := check_eq_ok.1 h₄
  obtain ⟨s, hs, h⟩ := bind_eq_ok.1 h
  obtain ⟨estimatedTotal, htotal, h⟩ := bind_eq_ok.1 h
  obtain ⟨tripBriefRef, href, h⟩ := bind_eq_ok.1 h
  obtain ⟨cs, hcs, h⟩ := bind_eq_ok.1 h
  obtain ⟨⟨_, hchecked⟩, rfl⟩ := check_eq_ok.1 h
  obtain ⟨⟨_, _⟩, rfl⟩ := check_eq_ok.1 href
  obtain ⟨hfitting, hdone⟩ := Planner.placeDays_ok hs
  obtain ⟨days, hdays, hall⟩ := hdone.days
  have hdays : s.days = days := hdays
  subst hdays
  have hagenda : agenda casefold p brief candidates =
      p.schedule ⟨planningCandidates casefold brief candidates, planningCandidates_ne_nil heligible⟩
        (dates brief.dateWindow) 0 0 := dif_pos heligible
  have hmin : s.totalMin = p.grandMin brief.budget.currency (agenda casefold p brief candidates) := by
    rw [hdone.totalMin, hagenda]
    rfl
  have hmax : s.totalMax = p.grandMax brief.budget.currency (agenda casefold p brief candidates) := by
    rw [hdone.totalMax, hagenda]
    rfl
  obtain ⟨hprintMin, hprintMax, hmoney⟩ := money_ok htotal
  rw [hmin, hmax] at hmoney
  refine ⟨⟨hbrief, hevidence, htimezone, heligible⟩, ⟨?_, ⟨hmin ▸ hprintMin, hmax ▸ hprintMax⟩, ?_⟩, ?_⟩
  · rw [hagenda]
    exact hfitting
  · have hlen := congrArg List.length ((dates_of_shows hall).trans schedule_dates)
    rw [List.length_map] at hlen
    rw [← hlen]
    exact hchecked.bounded.1.2
  · refine ⟨rfl, rfl, rfl, rfl, ?_, hmoney, ?_⟩
    · rw [hagenda]
      exact hall
    · rw [hagenda, legsOf, ← hdone.routes]
      rfl

/-- The planner returns a plan for inputs that belong together if it can be shown. -/
theorem buildCandidate_total (hp : p.policy = {}) (hbrief : brief.Valid)
    (hmatching : Matching casefold brief candidates evidence) (h : Feasible casefold p brief candidates) :
    ∃ plan, buildCandidate casefold p brief candidates evidence = .ok plan := by
  obtain ⟨hdays, hprint, hbounded⟩ := h
  have heligible := hmatching.left
  have hagenda : agenda casefold p brief candidates =
      p.schedule ⟨planningCandidates casefold brief candidates, planningCandidates_ne_nil heligible⟩
        (dates brief.dateWindow) 0 0 := dif_pos heligible
  rw [hagenda] at hdays hprint
  have hplace : ∃ s, p.placeDays _ brief.budget.currency
      ⟨planningCandidates casefold brief candidates, planningCandidates_ne_nil heligible⟩ 0
      (dates brief.dateWindow) {} = .ok s :=
    Planner.placeDays_total hp planningCandidates_zoned (dates_short brief.dateWindow) hdays
  obtain ⟨s, hs⟩ := hplace
  obtain ⟨-, hdone⟩ := Planner.placeDays_ok hs
  obtain ⟨days, hdays', hall⟩ := hdone.days
  have hdays' : s.days = days := hdays'
  subst hdays'
  have hmin : s.totalMin = p.grandMin brief.budget.currency _ := hdone.totalMin
  have hmax : s.totalMax = p.grandMax brief.budget.currency _ := hdone.totalMax
  obtain ⟨estimatedTotal, htotal⟩ := money_total brief.budget.currency (hmin ▸ hprint.1)
    (hmax ▸ hprint.2) (by rw [hmin, hmax]; exact Planner.grandMin_le_grandMax _)
  obtain ⟨cs, hcs, hcited⟩ := citations_total evidence p.draws.citation
  have hdates := (dates_of_shows hall).trans schedule_dates
  have hlen := congrArg List.length hdates
  rw [List.length_map] at hlen
  have hchecked : isIdentifier (newId "artifact" p.draws.artifact) ∧
      ItineraryPlan.Checked candidates.timezone s.days estimatedTotal.currency cs [] := by
    refine ⟨isIdentifier_newId (by decide) (by decide) (by decide), ?_, ?_, ?_, ?_⟩
    · refine ⟨⟨?_, by omega⟩, hcited, by simp⟩
      rw [hlen, dates_length]
      omega
    · have := congrArg (List.map Day.ordinal) hdates
      rw [List.map_map] at this
      have hpair := dates_pairwise brief.dateWindow
      rw [← this] at hpair
      exact hpair
    · exact fun d hd => (shows_days hall d hd).1
    · rw [(money_ok htotal).2.2.currency]
      exact fun d hd => (shows_days hall d hd).2
  unfold buildCandidate artifactRef itineraryPlan
  rw [check_pos hmatching.ofBrief, ok_bind, check_pos hmatching.ofEvidence, ok_bind,
    check_pos hmatching.zoned, ok_bind, check_pos heligible, ok_bind]
  simp only [hs, htotal, hcs, ok_bind, check_pos (And.intro hbrief.artifactId hbrief.version)]
  rw [check_pos hchecked]
  exact ⟨_, rfl⟩

end
end RoutePilot.Planning
