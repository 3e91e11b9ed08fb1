/-
  Visits and closing days.

  The catalog leaves out the places that are closed on the first date, while the
  planner's cursor takes its candidates on to the later ones.  So the first date
  has no visit at a closed place.  The later dates have none if the selected
  places are open on all of them, and otherwise only if the cursor brings up the
  closed ones on other dates.
-/
import RoutePilot.Planning.Catalog
import RoutePilot.Proof.Timing

namespace RoutePilot.Planning

open Lib Contracts

/-! ## Closed places -/

/-- One of the places has this identifier and is closed on this date. -/
def ClosedOn (places : List CatalogPlace) (date : Day) (placeId : String) : Prop :=
  ∃ place ∈ places, place.placeId = placeId ∧ date.weekday ∈ place.closedWeekdays

instance (places : List CatalogPlace) (date : Day) (placeId : String) :
    Decidable (ClosedOn places date placeId) := inferInstanceAs (Decidable (∃ place ∈ places, _))

/-- No block is at one of the places on a day on which it is closed. -/
def NoClosedVisit (places : List CatalogPlace) (plan : ItineraryPlan) : Prop :=
  ∀ day ∈ plan.days, ∀ b ∈ day.timeBlocks, ¬ ClosedOn places day.date b.placeRef.placeId.1

instance (places : List CatalogPlace) (plan : ItineraryPlan) : Decidable (NoClosedVisit places plan) :=
  inferInstanceAs (Decidable (∀ day ∈ plan.days, _))

/-- On the dates after the first, the cursor brings up no place that is closed. -/
def OpenLater (casefold : String → String) (places : List CatalogPlace) (p : Planner) (brief : TripBrief)
    (candidates : CandidateSet) : Prop :=
  ∀ d ∈ (agenda casefold p brief candidates).tail, ∀ v ∈ p.kept d.2,
    ¬ ClosedOn places d.1 v.candidate.placeRef.placeId.1

instance (casefold : String → String) (places : List CatalogPlace) (p : Planner) (brief : TripBrief)
    (candidates : CandidateSet) : Decidable (OpenLater casefold places p brief candidates) :=
  inferInstanceAs (Decidable (∀ d ∈ List.tail _, _))

/-- No place is closed on a date of the window after the first. -/
def OpenThroughout (places : List CatalogPlace) (w : TripDateRange) : Prop :=
  ∀ date ∈ (dates w).tail, ∀ place ∈ places, date.weekday ∉ place.closedWeekdays

instance (places : List CatalogPlace) (w : TripDateRange) : Decidable (OpenThroughout places w) :=
  inferInstanceAs (Decidable (∀ date ∈ List.tail _, _))

section
variable {casefold : String → String} {catalog : List CatalogPlace} {r : Research} {p : Planner}
  {brief : TripBrief} {candidates : CandidateSet} {evidence : EvidenceBundle} {date : Day}

/-- The catalog's places are open on the date they are searched for. -/
theorem search_open {destination : String} {limit : ℤ} {place : CatalogPlace}
    (h : place ∈ search catalog destination date limit) : date.weekday ∉ place.closedWeekdays := by
  unfold search at h
  split at h
  · simpa using (List.mem_filter.1 (List.mem_of_mem_take h)).2
  · cases h

/-- So no place is closed on the first date. -/
theorem not_closedOn_start (placeId : String) :
    ¬ ClosedOn (r.catalogPlaces catalog brief) brief.dateWindow.startDate placeId := by
  rintro ⟨place, hplace, -, hclosed⟩
  exact search_open hplace hclosed

theorem dates_head (w : TripDateRange) : ∃ ds, dates w = w.startDate :: ds := by
  rw [dates, List.ofFn_succ]
  exact ⟨_, rfl⟩

/-- The agenda begins on the first date. -/
theorem agenda_head {d : Day × List Visit} {ds : List (Day × List Visit)}
    (h : agenda casefold p brief candidates = d :: ds) : d.1 = brief.dateWindow.startDate := by
  have hleft : eligible casefold brief candidates ≠ [] := by
    by_contra hnil
    rw [agenda, dif_neg (not_not.2 hnil)] at h
    cases h
  have hdates := agenda_dates (p := p) hleft
  obtain ⟨rest, hrest⟩ := dates_head brief.dateWindow
  rw [h, hrest, List.map_cons] at hdates
  exact (List.cons.inj hdates).1

theorem forall_blocks {visits : List Visit} {blocks : List PlanTimeBlock} {timezone : Timezone}
    {currency : CurrencyCode} (h : List.Forall₂ (Shows p timezone currency date) visits blocks)
    {P : String → Prop} : (∀ b ∈ blocks, P b.placeRef.placeId.1) ↔
      ∀ v ∈ visits, P v.candidate.placeRef.placeId.1 := by
  induction h with
  | nil => simp
  | cons hshows _ ih => rw [List.forall_mem_cons, List.forall_mem_cons, ih, hshows.placeRef]

/-- If no place is closed on a later date of the window, none is brought up on such a date. -/
theorem openLater_of_window {places : List CatalogPlace} (h : OpenThroughout places brief.dateWindow) :
    OpenLater casefold places p brief candidates := by
  intro d hd v hv
  rintro ⟨place, hplace, -, hclosed⟩
  refine h d.1 ?_ place hplace hclosed
  have hleft : eligible casefold brief candidates ≠ [] := by
    obtain ⟨-, hleft, -⟩ := mem_agenda (List.mem_of_mem_tail hd)
    exact hleft
  rw [← agenda_dates (p := p) hleft, ← List.map_tail]
  exact List.mem_map_of_mem hd

/-- If all candidates are places that are closed on a later date, the cursor brings up one of them. -/
theorem not_openLater {places : List CatalogPlace} (hp : p.policy = {})
    (hleft : eligible casefold brief candidates ≠ []) (hdate : date ∈ (dates brief.dateWindow).tail)
    (h : ∀ c ∈ candidates.candidates, ClosedOn places date c.placeRef.placeId.1) :
    ¬ OpenLater casefold places p brief candidates := by
  intro hopen
  rw [← agenda_dates (p := p) hleft, ← List.map_tail] at hdate
  obtain ⟨d, hd, rfl⟩ := List.mem_map.1 hdate
  obtain ⟨v, hv⟩ : ∃ v, v ∈ p.kept d.2 := by
    obtain ⟨-, hleft, legs, cursor, hday⟩ := mem_agenda (List.mem_of_mem_tail hd)
    rw [hday]
    exact List.exists_mem_of_ne_nil _ (Planner.kept_day_ne_nil hp)
  have hcandidate := agenda_candidate (List.mem_of_mem_tail hd) (List.mem_of_mem_filter hv)
  exact hopen d hd v hv (h _ (List.mem_of_mem_filter hcandidate))

/-- A plan from the catalog is made of what research found. -/
theorem exists_convert {route : RouteService} {draws : Draws} {plan : ItineraryPlan}
    (hplan : planFromCatalog casefold catalog r (.standard route draws) brief = .ok plan) :
    ∃ evidence candidates, r.convert catalog brief = .ok (evidence, candidates) := by
  unfold planFromCatalog at hplan
  obtain ⟨⟨evidence, candidates⟩, hresearch, -⟩ := bind_eq_ok.1 hplan
  exact ⟨evidence, candidates, hresearch⟩

/-- A plan has no visit at a closed place exactly if the cursor brings up none after the first date. -/
theorem noClosedVisit_iff {route : RouteService} {draws : Draws} {plan : ItineraryPlan}
    (hresearch : r.convert catalog brief = .ok (evidence, candidates))
    (hplan : planFromCatalog casefold catalog r (.standard route draws) brief = .ok plan) :
    NoClosedVisit (r.catalogPlaces catalog brief) plan ↔
      OpenLater casefold (r.catalogPlaces catalog brief) (.standard route draws) brief candidates := by
  unfold planFromCatalog at hplan
  rw [hresearch, ok_bind] at hplan
  obtain ⟨-, -, hshows⟩ := buildCandidate_ok hplan
  have hdays : NoClosedVisit (r.catalogPlaces catalog brief) plan ↔
      ∀ d ∈ agenda casefold (.standard route draws) brief candidates,
        ∀ v ∈ (Planner.standard route draws).kept d.2,
          ¬ ClosedOn (r.catalogPlaces catalog brief) d.1 v.candidate.placeRef.placeId.1 := by
    refine forall_shows hshows.days fun d _ day hday => ?_
    rw [hday.date]
    exact forall_blocks (P := fun placeId => ¬ ClosedOn (r.catalogPlaces catalog brief) d.1 placeId)
      hday.blocks
  rw [hdays, OpenLater]
  cases hagenda : agenda casefold (.standard route draws) brief candidates with
  | nil => simp
  | cons d ds =>
    have hhead := agenda_head hagenda
    rw [List.forall_mem_cons, List.tail_cons]
    refine and_iff_right fun v _ => ?_
    rw [hhead]
    exact not_closedOn_start _

/-- **Closing days.**  A plan from the catalog has no visit at a closed place if the places that research found
    are open on all later dates of the window, and it has one if all candidates are closed on one of these dates.
    In general it has none exactly if the cursor brings up no closed place after the first date. -/
theorem closed_visits_iff {route : RouteService} {draws : Draws} {plan : ItineraryPlan}
    (hresearch : r.convert catalog brief = .ok (evidence, candidates))
    (hplan : planFromCatalog casefold catalog r (.standard route draws) brief = .ok plan) :
    (OpenThroughout (r.catalogPlaces catalog brief) brief.dateWindow →
      NoClosedVisit (r.catalogPlaces catalog brief) plan) ∧
    (∀ date ∈ (dates brief.dateWindow).tail,
      (∀ c ∈ candidates.candidates, ClosedOn (r.catalogPlaces catalog brief) date c.placeRef.placeId.1) →
      ¬ NoClosedVisit (r.catalogPlaces catalog brief) plan) ∧
    (NoClosedVisit (r.catalogPlaces catalog brief) plan ↔
      OpenLater casefold (r.catalogPlaces catalog brief) (.standard route draws) brief candidates) := by
  have hiff := noClosedVisit_iff hresearch hplan
  refine ⟨fun hopen => hiff.2 (openLater_of_window hopen), fun date hdate hclosed => ?_, hiff⟩
  unfold planFromCatalog at hplan
  rw [hresearch, ok_bind] at hplan
  obtain ⟨hmatching, -, -⟩ := buildCandidate_ok hplan
  exact mt hiff.1 (not_openLater rfl hmatching.left hdate hclosed)

end

namespace Sample

/-- Research with the approved places only. -/
def research : Research where
  evidenceToken := fun _ => hex
  citationToken := fun _ => hex
  candidateToken := fun i => ⟨i % 16 ^ 24, Nat.mod_lt _ (by decide)⟩
  bundleToken := hex
  setToken := hex

/-- The palace and the national museum, which are closed on Mondays. -/
def museums : List CatalogPlace := beijingPlaces.drop 5

/-- Two days from a date, without constraints. -/
def twoDays (start : ℕ) (h : 1 ≤ start := by decide) (h' : start + 1 ≤ maxOrdinal := by decide) : TripBrief :=
  { brief with
    dateWindow := { startDate := ⟨start, h, by omega⟩, endDate := ⟨start + 1, by omega, h'⟩
                    timezone := "Asia/Shanghai", le := by simp, flexible := notFlexible }
    constraints := [] }

end Sample

/-- With the museums, a plan for Tuesday and Wednesday visits no closed place. -/
theorem closed_visits_tuesday : ∃ plan,
    planFromCatalog id Sample.museums Sample.research (.standard (Sample.legs 30) Sample.draws)
      (Sample.twoDays 739741) = .ok plan ∧
    NoClosedVisit (Sample.research.catalogPlaces Sample.museums (Sample.twoDays 739741)) plan := by
  have hbuilt := exists_ok
    (x := planFromCatalog id Sample.museums Sample.research (.standard (Sample.legs 30) Sample.draws)
      (Sample.twoDays 739741)) (P := fun _ => True) (by decide +kernel)
  obtain ⟨plan, hplan, -⟩ := hbuilt
  obtain ⟨evidence, candidates, hresearch⟩ := exists_convert hplan
  -- no museum is closed on a Wednesday
  exact ⟨plan, hplan, (closed_visits_iff hresearch hplan).1 (by decide +kernel)⟩

/-- A plan for Sunday and Monday visits the palace on the Monday. -/
theorem palace_visited_on_monday : ¬ ∀ (casefold : String → String) (catalog : List CatalogPlace)
    (r : Research) (route : RouteService) (draws : Draws) (brief : TripBrief) (plan : ItineraryPlan),
    planFromCatalog casefold catalog r (.standard route draws) brief = .ok plan →
    NoClosedVisit (r.catalogPlaces catalog brief) plan := by
  intro h
  have hbuilt := exists_ok
    (x := planFromCatalog id Sample.museums Sample.research (.standard (Sample.legs 30) Sample.draws)
      (Sample.twoDays 739739))
    (P := fun plan => ¬ NoClosedVisit
      (Sample.research.catalogPlaces Sample.museums (Sample.twoDays 739739)) plan) (by decide +kernel)
  exact hbuilt.elim fun plan hplan => hplan.2 (h _ _ _ _ _ _ plan hplan.1)

end RoutePilot.Planning
