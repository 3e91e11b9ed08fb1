/-
  Planner and validator on time.

  The planner's clock runs on past midnight, while a block stores the time of
  day and the validator computes with what is stored.  They agree exactly if
  every visit that a day takes up ends before midnight, or so late on another
  date that the planner drops it.
-/
import RoutePilot.Planning.Built
import RoutePilot.Planning.Checked
import RoutePilot.Proof.Replan

namespace RoutePilot.Planning

open Lib Contracts

/-! ## Consecutive visits -/

namespace Planner

variable {p : Planner} {rota : Rota}

variable (p) in
/-- A visit that follows another on the same day. -/
structure Next (v w : Visit) : Prop where
  onTime : p.late v = false
  transit : w.transit.isSome
  arrival : w.arrival = p.leaves v + p.travel w.transit

theorem attempts_chain {remaining legs cursor time : ℕ} {previous : Option Candidate} :
    (p.attempts rota remaining legs cursor time previous).IsChain p.Next := by
  induction remaining generalizing legs cursor time previous with
  | zero => simp [attempts]
  | succ remaining ih =>
    rw [attempts]
    split
    · simp
    · next hlate =>
      refine List.isChain_cons.2 ⟨fun w hw => ?_, ih⟩
      cases remaining with
      | zero => simp [attempts] at hw
      | succ remaining =>
        rw [attempts, List.head?_cons, Option.mem_some_iff] at hw
        subst hw
        exact ⟨by simpa using hlate, rfl, rfl⟩

theorem kept_cons_of_late {v : Visit} {vs : List Visit} (h : p.late v = true) :
    p.kept (v :: vs) = p.kept vs := by simp [kept, h]

theorem kept_cons {v : Visit} {vs : List Visit} (h : p.late v = false) :
    p.kept (v :: vs) = v :: p.kept vs := by simp [kept, h]

theorem kept_chain {vs : List Visit} (h : vs.IsChain p.Next) : (p.kept vs).IsChain p.Next := by
  induction vs with
  | nil => simp [kept]
  | cons v vs ih =>
    obtain ⟨hhead, htail⟩ := List.isChain_cons.1 h
    rcases hlate : p.late v with _ | _
    · rw [kept_cons hlate]
      refine List.isChain_cons.2 ⟨fun w hw => ?_, ih htail⟩
      cases vs with
      | nil => simp [kept] at hw
      | cons w' vs =>
        rcases hlate' : p.late w' with _ | _
        · rw [kept_cons hlate', List.head?_cons, Option.mem_some_iff] at hw
          subst hw
          exact hhead _ rfl
        · -- nothing follows a late visit
          cases vs with
          | nil => simp [kept, hlate'] at hw
          | cons x vs =>
            have := ((List.isChain_cons.1 htail).1 x rfl).onTime
            rw [hlate'] at this
            cases this
    · rw [kept_cons_of_late hlate]
      exact ih htail

end Planner

/-! ## What the validator computes -/

section
variable {p : Planner} {timezone : Timezone} {currency : CurrencyCode} {date : Day} {v w : Visit}
  {b b' : PlanTimeBlock}

/-- The minutes between two visits as they are stored. -/
def storedGap (p : Planner) (v w : Visit) : ℤ := (w.arrival % dayMinutes : ℕ) - (p.leaves v % dayMinutes : ℕ)

/-- The longest that the leg to a visit takes. -/
def legMax (v : Visit) : ℕ := (v.transit.map (·.durationMaxMinutes)).getD 0

theorem utc_start (h : Shows p timezone currency date v b) :
    (start date b).utc = (date.ordinal * dayMicros + v.arrival % dayMinutes * 60_000_000 : ℕ) := by
  simp only [start, DateTime.combine, DateTime.utc, h.start, Moment.time, Option.getD_none, Int.sub_zero]

theorem utc_finish (h : Shows p timezone currency date v b) :
    (finish date b).utc = (date.ordinal * dayMicros + p.leaves v % dayMinutes * 60_000_000 : ℕ) := by
  have hmicros : (finish date b).micros =
      date.ordinal * dayMicros + p.leaves v % dayMinutes * 60_000_000 := by
    unfold finish
    rw [h.finish, h.offset, Fin.val_zero, Nat.zero_mul, Nat.add_zero]
    rfl
  have hoffset : (finish date b).utcoffset = none := by
    unfold finish
    rw [h.finish]
    rfl
  rw [DateTime.utc, hmicros, hoffset, Option.getD_none, Int.sub_zero]

theorem shows_duration (h : Shows p timezone currency date v b) :
    minutesBetween (start date b) (finish date b) =
      (p.leaves v % dayMinutes : ℕ) - (v.arrival % dayMinutes : ℕ) := by
  rw [minutesBetween, utc_start h, utc_finish h]
  omega

theorem shows_gap (h : Shows p timezone currency date v b) (h' : Shows p timezone currency date w b') :
    minutesBetween (finish date b) (start date b') = storedGap p v w := by
  rw [minutesBetween, utc_start h', utc_finish h, storedGap]
  omega

theorem shows_clocked (h : Shows p timezone currency date v b) : Clocked date b := by
  refine ⟨?_, ?_⟩
  · rw [h.offset]
    exact date.last
  · simp [finish, start, DateTime.combine, h.start, h.finish, Moment.time]

/-- A relation along blocks that show visits is one along the visits. -/
theorem isChain_shows {R : PlanTimeBlock → PlanTimeBlock → Prop} {S : Visit → Visit → Prop}
    (hRS : ∀ v w b b', Shows p timezone currency date v b → Shows p timezone currency date w b' →
      (R b b' ↔ S v w))
    {visits : List Visit} {blocks : List PlanTimeBlock}
    (h : List.Forall₂ (Shows p timezone currency date) visits blocks) :
    blocks.IsChain R ↔ visits.IsChain S := by
  induction h with
  | nil => simp
  | cons hshows htail ih =>
    cases htail with
    | nil => simp
    | cons hshows' htail' =>
      rw [List.isChain_cons_cons, List.isChain_cons_cons, ih, hRS _ _ _ _ hshows hshows']

/-- The days of a plan can be checked. -/
theorem shows_timed {visits : List Visit} {day : PlanDay}
    (h : ShowsDay p timezone currency (date, visits) day) : Timed day := by
  obtain ⟨rfl, -, -, -, hblocks⟩ := h
  constructor
  · exact Planner.shows_left hblocks fun v b hb => shows_clocked hb
  · refine Along.isChain.2 ((isChain_shows (S := fun _ _ => True) ?_ hblocks).2 ?_)
    · intro v w b b' hv hw
      simp [Comparable, start, finish, DateTime.combine, hv.finish, hw.start, Moment.time]
    · exact List.isChain_iff_getElem.2 fun _ _ => trivial

end

/-! ## On time -/

/-- The visit ends on its day, or is dropped on a later date of the calendar. -/
def OnTime (p : Planner) (date : Day) (v : Visit) : Prop :=
  p.leaves v < dayMinutes ∨
    p.policy.dayEndHour ≤ Moment.hour (p.leaves v) ∧ date.ordinal + p.leaves v / dayMinutes ≤ maxOrdinal

instance (p : Planner) (date : Day) (v : Visit) : Decidable (OnTime p date v) :=
  inferInstanceAs (Decidable (_ ∨ _ ∧ _))

section
variable {p : Planner} {currency : CurrencyCode} {date : Day}

/-- The stored gap before a visit covers the leg. -/
def Covered (p : Planner) (v w : Visit) : Prop := (legMax w : ℤ) ≤ storedGap p v w

instance (p : Planner) : DecidableRel (Covered p) := fun _ _ => inferInstanceAs (Decidable (_ ≤ _))

variable (hp : p.policy = {})
include hp

theorem travel_eq {w : Visit} (h : w.transit.isSome) : p.travel w.transit = legMax w + 15 := by
  obtain ⟨leg, hleg⟩ := Option.isSome_iff_exists.1 h
  simp only [Planner.travel, legMax, hleg, hp, Option.map_some, Option.getD_some]

/-- If every stored gap covers its leg, no visit of the day crosses midnight. -/
theorem onTime_of_covered {v : Visit} {vs : List Visit} (hchain : (v :: vs).IsChain p.Next)
    (hfits : ∀ w ∈ v :: vs, Fits p currency date w) (hgaps : (p.kept (v :: vs)).IsChain (Covered p))
    (hv : p.leaves v < dayMinutes) (hlate : p.late v = false) : ∀ w ∈ v :: vs, OnTime p date w := by
  induction vs generalizing v with
  | nil =>
    intro w hw
    obtain rfl := List.mem_singleton.1 hw
    exact .inl hv
  | cons w vs ih =>
    obtain ⟨hnext, htail⟩ := List.isChain_cons_cons.1 hchain
    obtain ⟨-, hfits⟩ := List.forall_mem_cons.1 hfits
    have hfit := hfits w (List.mem_cons_self ..)
    refine List.forall_mem_cons.2 ⟨.inl hv, ?_⟩
    rcases hlate' : p.late w with _ | _
    · -- the stored gap is the real one only if neither end crosses midnight
      rw [Planner.kept_cons hlate, Planner.kept_cons hlate', List.isChain_cons_cons] at hgaps
      have hdur := Planner.duration_bounds hp w.candidate
      have harrival := hnext.arrival
      rw [travel_eq hp hnext.transit] at harrival
      have hgap : (legMax w : ℤ) ≤ (w.arrival % dayMinutes : ℕ) - (p.leaves v % dayMinutes : ℕ) := hgaps.1
      have hup := hfit.upright hlate'
      have hleaves : p.leaves w = w.arrival + p.duration w.candidate := rfl
      refine ih htail hfits ?_ ?_ hlate'
      · rw [Planner.kept_cons hlate']
        exact hgaps.2
      · simp only [dayMinutes] at *
        omega
    · -- a late visit is dropped, and is the day's last
      have hlast : vs = [] := by
        cases vs with
        | nil => rfl
        | cons x vs =>
          have := (List.isChain_cons_cons.1 htail).1.onTime
          rw [hlate'] at this
          cases this
      subst hlast
      intro x hx
      obtain rfl := List.mem_singleton.1 hx
      rw [Planner.late, Bool.and_eq_true, decide_eq_true_iff] at hlate'
      exact .inr ⟨hlate'.2, hfit.calendar⟩

omit hp in
theorem leaves_lt {v : Visit} (h : OnTime p date v) (hlate : p.late v = false)
    (hnone : v.transit = none → p.leaves v < dayMinutes) : p.leaves v < dayMinutes := by
  rcases h with h | ⟨hhour, -⟩
  · exact h
  · cases ht : v.transit with
    | none => exact hnone ht
    | some leg =>
      rw [Planner.late, ht, Option.isSome_some, Bool.true_and, decide_eq_false_iff_not] at hlate
      exact absurd hhour hlate

theorem leaves_first {rota : Rota} {legs cursor : ℕ} {v : Visit} (h : v ∈ p.day rota legs cursor)
    (hnone : v.transit = none) : p.leaves v < dayMinutes := by
  obtain ⟨w, vs, hday, _, _, harrival, hsome⟩ := Planner.day_eq_cons rota legs cursor hp
  rw [hday] at h
  rcases List.mem_cons.1 h with rfl | h
  · have hdur := Planner.duration_bounds hp v.candidate
    simp only [Planner.leaves, harrival, dayMinutes]
    omega
  · have := hsome v h
    rw [hnone] at this
    cases this

end
section
variable {p : Planner} {currency : CurrencyCode} {date : Day} {visits : List Visit}
variable (hontime : ∀ v ∈ visits, OnTime p date v)
  (hfirst : ∀ v ∈ visits, v.transit = none → p.leaves v < dayMinutes)
include hontime hfirst

theorem kept_leaves_lt {v : Visit} (h : v ∈ p.kept visits) : p.leaves v < dayMinutes := by
  obtain ⟨hv, hlate⟩ := List.mem_filter.1 h
  exact leaves_lt (hontime v hv) (by simpa using hlate) (hfirst v hv)

/-- Each stored gap is the real one, and covers its leg. -/
theorem covered_of_onTime (hp : p.policy = {}) (hchain : visits.IsChain p.Next) :
    (p.kept visits).IsChain (Covered p) := by
  have hkept := Planner.kept_chain hchain
  refine hkept.imp_of_mem_imp fun v w hv hw hnext => ?_
  have hv := kept_leaves_lt hontime hfirst hv
  have hw := kept_leaves_lt hontime hfirst hw
  have harrival := hnext.arrival
  rw [travel_eq hp hnext.transit] at harrival
  have hleaves : p.leaves w = w.arrival + p.duration w.candidate := rfl
  unfold Covered storedGap
  simp only [dayMinutes] at *
  omega

theorem fits_of_onTime (hp : p.policy = {})
    (hcurrency : ∀ v ∈ visits, (price currency v.candidate).currency = currency) :
    ∀ v ∈ visits, Fits p currency date v := by
  intro v hv
  have hdur := Planner.duration_bounds hp v.candidate
  have hleaves : p.leaves v = v.arrival + p.duration v.candidate := rfl
  constructor
  · rcases hontime v hv with h | ⟨-, h⟩
    · rw [Nat.div_eq_of_lt h]
      exact date.last
    · exact h
  · intro hlate
    have := leaves_lt (hontime v hv) hlate (hfirst v hv)
    simp only [dayMinutes] at *
    omega
  · exact fun _ => hcurrency v hv

theorem ordered_of_onTime (hchain : visits.IsChain p.Next) :
    (p.kept visits).Pairwise fun v w => v.arrival % dayMinutes ≤ w.arrival % dayMinutes := by
  have hkept := Planner.kept_chain hchain
  have hpair : (p.kept visits).Pairwise fun v w => p.leaves v ≤ w.arrival := by
    have : Trans (fun v w => p.leaves v ≤ w.arrival) (fun v w => p.leaves v ≤ w.arrival)
        (fun v w : Visit => p.leaves v ≤ w.arrival) :=
      ⟨fun {v w x} h h' => h.trans ((Nat.le_add_right _ _).trans h')⟩
    refine List.isChain_iff_pairwise.1 (hkept.imp fun v w hnext => ?_)
    rw [hnext.arrival]
    exact Nat.le_add_right _ _
  refine hpair.imp_of_mem fun {v w} hv hw h => ?_
  have hv := kept_leaves_lt hontime hfirst hv
  have hw := kept_leaves_lt hontime hfirst hw
  have hleaves : p.leaves v = v.arrival + p.duration v.candidate := rfl
  have hleaves' : p.leaves w = w.arrival + p.duration w.candidate := rfl
  rw [Nat.mod_eq_of_lt (by omega), Nat.mod_eq_of_lt (by omega)]
  omega

/-- Visits after the first end before the day's end. -/
theorem tail_leaves_lt (hchain : visits.IsChain p.Next) :
    ∀ v ∈ (p.kept visits).tail, p.leaves v < p.policy.dayEndHour * 60 := by
  have hkept := Planner.kept_chain hchain
  intro v hv
  have hsome : v.transit.isSome := by
    cases hk : p.kept visits with
    | nil => simp [hk] at hv
    | cons u us =>
      rw [hk] at hv hkept
      have hall : ∀ {u us}, (u :: us).IsChain p.Next → ∀ w ∈ us, w.transit.isSome := by
        intro u us
        induction us generalizing u with
        | nil => simp
        | cons x xs ih =>
          intro h
          obtain ⟨hnext, htail⟩ := List.isChain_cons_cons.1 h
          exact List.forall_mem_cons.2 ⟨hnext.transit, ih htail⟩
      exact hall hkept v hv
  have hmem := List.mem_of_mem_tail hv
  have hlt := kept_leaves_lt hontime hfirst hmem
  have hlate : p.late v = false := by simpa using (List.mem_filter.1 hmem).2
  rw [Planner.late, hsome, Bool.true_and, decide_eq_false_iff_not, Moment.hour,
    Nat.mod_eq_of_lt hlt] at hlate
  omega

end

/-! ## Agreement -/

/-- Planner and validator agree on the times of a day. -/
structure DayAgrees (policy : PlanningPolicy) (evidence : EvidenceBundle) (day : PlanDay) : Prop where
  /-- blocks after the first end on the day's date, by the hour at which it ends -/
  ends : ∀ b ∈ day.timeBlocks.tail, b.timeRange.localDate = day.date ∧ b.timeRange.endDayOffset = 0 ∧
    b.timeRange.endLocalTime.micros ≤ policy.dayEndHour * 3_600_000_000
  /-- the day can be checked, and its time and route checks pass -/
  checked : ∃ checks, dayChecks evidence day = .ok checks ∧
    ∀ c ∈ checks, c.category = .time ∨ c.category = .route → c.outcome = .pass

/-- Planner and validator agree on the times of a plan. -/
structure Agrees (casefold : String → String) (policy : PlanningPolicy) (brief : TripBrief)
    (evidence : EvidenceBundle) (plan : ItineraryPlan) : Prop where
  days : ∀ day ∈ plan.days, DayAgrees policy evidence day
  report : ∀ artifactId r, validate casefold brief plan evidence artifactId = .ok r →
    ∀ c ∈ r.checks, c.category = .time ∨ c.category = .route → c.outcome = .pass

section
variable {category : CheckCategory} {ok : Bool} {passed failed : NonEmptyText}
  {ref : Option Identifier} {blockIds : List Identifier} {h : blockIds.length ≤ 100}

theorem judge_pass : (judge category ok passed failed ref blockIds h).outcome = .pass ↔ ok = true := by
  cases ok <;> simp [judge]

end

/-- The time and route checks of a day pass. -/
theorem timely_iff {evidence : EvidenceBundle} {day : PlanDay} :
    EachCheck (fun c => c.category = .time ∨ c.category = .route → c.outcome = .pass) evidence day ↔
      (∀ b ∈ day.timeBlocks,
        minutesBetween (start day.date b) (finish day.date b) = b.durationMinutes) ∧
      day.timeBlocks.IsChain fun b b' =>
        (required b' : ℤ) ≤ minutesBetween (finish day.date b) (start day.date b') := by
  have hgaps : Gaps (fun e b => (routeCheck b (minutesBetween e (start day.date b))).category = .time ∨
      (routeCheck b (minutesBetween e (start day.date b))).category = .route →
        (routeCheck b (minutesBetween e (start day.date b))).outcome = .pass) day ↔
      day.timeBlocks.IsChain fun b b' =>
        (required b' : ℤ) ≤ minutesBetween (finish day.date b) (start day.date b') := by
    unfold Gaps
    rw [Along.isChain]
    simp [routeCheck, judge]
  constructor
  · rintro ⟨-, htimes, -, hroutes⟩
    refine ⟨fun b hb => ?_, hgaps.1 hroutes⟩
    exact decide_eq_true_iff.1 (judge_pass.1 (htimes b hb (.inl rfl)))
  · rintro ⟨htimes, hroutes⟩
    refine ⟨?_, fun b hb _ => ?_, fun b hb => ?_, hgaps.2 hroutes⟩
    · simp [uniqueCheck, judge]
    · exact judge_pass.2 (decide_eq_true_iff.2 (htimes b hb))
    · simp [referenceCheck, judge]

/-- The days of a plan decide on the report's time and route checks. -/
theorem report_timely {casefold : String → String} {brief : TripBrief} {plan : ItineraryPlan}
    {evidence : EvidenceBundle} (h : ∀ day ∈ plan.days,
      EachCheck (fun c => c.category = .time ∨ c.category = .route → c.outcome = .pass) evidence day)
    {artifactId : Identifier} {r : ConstraintReport}
    (hr : validate casefold brief plan evidence artifactId = .ok r) :
    ∀ c ∈ r.checks, c.category = .time ∨ c.category = .route → c.outcome = .pass := by
  obtain ⟨hlen, -, hreport⟩ := validate_eq_ok.1 hr
  rw [(constraintReport_ok hreport).1.checks]
  intro c hc
  simp only [allChecks, List.mem_append, List.mem_cons, List.not_mem_nil, or_false, List.mem_map] at hc
  rcases hc with ((((rfl | rfl) | hc) | rfl) | ⟨_, _, rfl⟩) | ⟨_, _, rfl⟩
  · simp [dateCheck, judge]
  · simp [judge]
  · exact forall_daysChecks.2 h c hc
  · simp [budgetCheck, judge]
  · simp [constraintCheck, judge]
  · simp [openingCheck]

theorem dayAgrees_checked {evidence : EvidenceBundle} {day : PlanDay} (htimed : Timed day) :
    (∃ checks, dayChecks evidence day = .ok checks ∧
      ∀ c ∈ checks, c.category = .time ∨ c.category = .route → c.outcome = .pass) ↔
      EachCheck (fun c => c.category = .time ∨ c.category = .route → c.outcome = .pass) evidence day := by
  constructor
  · rintro ⟨checks, hchecks, h⟩
    obtain ⟨-, rfl⟩ := dayChecks_eq_ok.1 hchecks
    exact forall_dayChecks.1 h
  · intro h
    exact ⟨_, dayChecks_eq_ok.2 ⟨htimed, rfl⟩, forall_dayChecks.2 h⟩

/-- The checks of a day that shows visits pass exactly if each stored gap covers its leg. -/
theorem shows_timely {p : Planner} {timezone : Timezone} {currency : CurrencyCode} {date : Day}
    {visits : List Visit} {evidence : EvidenceBundle} {day : PlanDay}
    (h : ShowsDay p timezone currency (date, visits) day) :
    EachCheck (fun c => c.category = .time ∨ c.category = .route → c.outcome = .pass) evidence day ↔
      (∀ v ∈ p.kept visits,
        ((p.leaves v % dayMinutes : ℕ) - (v.arrival % dayMinutes : ℕ) : ℤ) = p.duration v.candidate) ∧
      (p.kept visits).IsChain (Covered p) := by
  obtain ⟨rfl, -, -, -, hblocks⟩ := h
  rw [timely_iff]
  refine and_congr ?_ ?_
  · have hall : ∀ {vs bs}, List.Forall₂ (Shows p timezone currency day.date) vs bs →
        ((∀ b ∈ bs, minutesBetween (start day.date b) (finish day.date b) = b.durationMinutes) ↔
          ∀ v ∈ vs, ((p.leaves v % dayMinutes : ℕ) - (v.arrival % dayMinutes : ℕ) : ℤ) =
            p.duration v.candidate) := by
      intro vs bs hall
      induction hall with
      | nil => simp
      | cons hshows _ ih =>
        rw [List.forall_mem_cons, List.forall_mem_cons, ih, shows_duration hshows, hshows.duration]
    exact hall hblocks
  · refine isChain_shows (fun v w b b' hv hw => ?_) hblocks
    rw [shows_gap hv hw, Covered, required, legMax, hw.transit]

/-! ## The planner's agenda -/

namespace Planner

variable {p : Planner} {rota : Rota}

theorem attempts_mem {remaining legs cursor time : ℕ} {previous : Option Candidate} :
    ∀ v ∈ p.attempts rota remaining legs cursor time previous, v.candidate ∈ rota.1 := by
  induction remaining generalizing legs cursor time previous with
  | zero => simp [attempts]
  | succ remaining ih =>
    rw [attempts]
    refine List.forall_mem_cons.2 ⟨List.get_mem _ _, ?_⟩
    split
    · simp
    · exact ih

theorem mem_schedule {dates : List Day} {legs cursor : ℕ} {d : Day × List Visit}
    (h : d ∈ p.schedule rota dates legs cursor) :
    d.1 ∈ dates ∧ ∃ legs cursor, d.2 = p.day rota legs cursor := by
  induction dates generalizing legs cursor with
  | nil => simp [schedule] at h
  | cons date dates ih =>
    rw [schedule] at h
    rcases List.mem_cons.1 h with rfl | h
    · exact ⟨List.mem_cons_self .., _, _, rfl⟩
    · obtain ⟨hmem, hday⟩ := ih h
      exact ⟨List.mem_cons_of_mem _ hmem, hday⟩

/-- The planner with the default policy. -/
def standard (route : RouteService) (draws : Draws) : Planner := { route, draws }

end Planner

section
variable (casefold : String → String) (p : Planner) (brief : TripBrief) (candidates : CandidateSet)

/-- Every visit of the agenda is on time, and what the plan says fits a plan. -/
structure Punctual : Prop where
  onTime : ∀ d ∈ agenda casefold p brief candidates, ∀ v ∈ d.2, OnTime p d.1 v
  daily : ∀ d ∈ agenda casefold p brief candidates,
    Printable (p.dayMin brief.budget.currency d.2) ∧ Printable (p.dayMax brief.budget.currency d.2)
  total : Printable (p.grandMin brief.budget.currency (agenda casefold p brief candidates)) ∧
    Printable (p.grandMax brief.budget.currency (agenda casefold p brief candidates))
  bounded : (dates brief.dateWindow).length ≤ 60

end

section
variable {casefold : String → String} {p : Planner} {brief : TripBrief} {candidates : CandidateSet}

theorem mem_agenda {d : Day × List Visit} (h : d ∈ agenda casefold p brief candidates) :
    d.1 ∈ dates brief.dateWindow ∧ ∃ (hleft : eligible casefold brief candidates ≠ []) (legs cursor : ℕ),
      d.2 = p.day ⟨planningCandidates casefold brief candidates, planningCandidates_ne_nil hleft⟩
        legs cursor := by
  unfold agenda at h
  split at h
  · next hleft =>
    obtain ⟨hdate, legs, cursor, hday⟩ := Planner.mem_schedule h
    exact ⟨hdate, hleft, legs, cursor, hday⟩
  · cases h

/-- Visits are of candidates that the avoid constraints leave. -/
theorem agenda_candidate {d : Day × List Visit} (h : d ∈ agenda casefold p brief candidates) {v : Visit}
    (hv : v ∈ d.2) : v.candidate ∈ eligible casefold brief candidates := by
  obtain ⟨-, hleft, legs, cursor, hday⟩ := mem_agenda h
  rw [hday] at hv
  exact mem_planningCandidates (Planner.attempts_mem v hv)

theorem agenda_chain {d : Day × List Visit} (h : d ∈ agenda casefold p brief candidates) :
    d.2.IsChain p.Next := by
  obtain ⟨-, hleft, legs, cursor, hday⟩ := mem_agenda h
  rw [hday]
  exact Planner.attempts_chain

theorem agenda_first (hp : p.policy = {}) {d : Day × List Visit}
    (h : d ∈ agenda casefold p brief candidates) :
    ∀ v ∈ d.2, v.transit = none → p.leaves v < dayMinutes := by
  obtain ⟨-, hleft, legs, cursor, hday⟩ := mem_agenda h
  rw [hday]
  exact fun v hv => leaves_first hp hv

theorem price_currency {currency : CurrencyCode} {c : Candidate}
    (h : ∀ cost ∈ c.estimatedCost, cost.currency = currency) : (price currency c).currency = currency := by
  unfold price
  cases hc : c.estimatedCost with
  | none => rfl
  | some cost => exact h cost hc

/-- A punctual agenda is feasible. -/
theorem Punctual.feasible (hp : p.policy = {})
    (hcurrency : ∀ c ∈ candidates.candidates, ∀ cost ∈ c.estimatedCost, cost.currency = brief.budget.currency)
    (h : Punctual casefold p brief candidates) : Feasible casefold p brief candidates := by
  refine ⟨fun d hd => ⟨?_, ?_, h.daily d hd⟩, h.total, h.bounded⟩
  · refine fits_of_onTime (h.onTime d hd) (agenda_first hp hd) hp fun v hv => price_currency ?_
    exact hcurrency _ (List.mem_of_mem_filter (agenda_candidate hd hv))
  · exact ordered_of_onTime (h.onTime d hd) (agenda_first hp hd) (agenda_chain hd)

/-- The days of a plan, each with what it shows. -/
theorem forall_shows {timezone : Timezone} {currency : CurrencyCode} {sched : List (Day × List Visit)}
    {days : List PlanDay} (h : List.Forall₂ (ShowsDay p timezone currency) sched days)
    {P : PlanDay → Prop} {Q : Day × List Visit → Prop}
    (hPQ : ∀ d ∈ sched, ∀ day, ShowsDay p timezone currency d day → (P day ↔ Q d)) :
    (∀ day ∈ days, P day) ↔ ∀ d ∈ sched, Q d := by
  induction h with
  | nil => simp
  | cons hshows _ ih =>
    rw [List.forall_mem_cons, List.forall_mem_cons, hPQ _ (List.mem_cons_self ..) _ hshows,
      ih fun d hd => hPQ d (List.mem_cons_of_mem _ hd)]

theorem forall_of_shows {timezone : Timezone} {currency : CurrencyCode} {sched : List (Day × List Visit)}
    {days : List PlanDay} (h : List.Forall₂ (ShowsDay p timezone currency) sched days)
    {P : PlanDay → Prop} (hP : ∀ d ∈ sched, ∀ day, ShowsDay p timezone currency d day → P day) :
    ∀ day ∈ days, P day :=
  (forall_shows (Q := fun _ => True) h fun d hd day hday => iff_true_intro (hP d hd day hday)).2
    fun _ _ => trivial

theorem timed_of_shows {evidence : EvidenceBundle} {plan : ItineraryPlan}
    (h : ShowsTrip casefold p brief candidates evidence plan) : ∀ day ∈ plan.days, Timed day :=
  forall_of_shows h.days fun _ _ _ hday => shows_timed hday

theorem forall₂_tail {α β : Type} {R : α → β → Prop} {l : List α} {l' : List β}
    (h : List.Forall₂ R l l') : List.Forall₂ R l.tail l'.tail := by
  cases h with
  | nil => exact .nil
  | cons _ htail => exact htail

theorem micros_le_of_shows {timezone : Timezone} {currency : CurrencyCode} {date : Day}
    {visits : List Visit} {blocks : List PlanTimeBlock}
    (h : List.Forall₂ (Shows p timezone currency date) visits blocks) {limit : ℕ}
    (hlt : ∀ v ∈ visits, p.leaves v < limit) :
    ∀ b ∈ blocks, b.timeRange.localDate = date ∧ b.timeRange.endDayOffset = 0 ∧
      b.timeRange.endLocalTime.micros ≤ limit * 60_000_000 := by
  induction h with
  | nil => simp
  | cons hshows _ ih =>
    rw [List.forall_mem_cons] at hlt
    refine List.forall_mem_cons.2 ⟨⟨hshows.localDate, hshows.offset, ?_⟩, ih hlt.2⟩
    rw [hshows.finish]
    exact Nat.mul_le_mul_right _ ((Nat.mod_le _ _).trans hlt.1.le)

/-- **Planner and validator on time.**  Under the default policy, for matching inputs with costs in
    the currency of the budget, there is a plan on whose times planner and validator agree exactly if
    the agenda is punctual. -/
theorem planner_agrees_iff {route : RouteService} {draws : Draws} {evidence : EvidenceBundle}
    (hbrief : brief.Valid) (hmatching : Matching casefold brief candidates evidence)
    (hcurrency : ∀ c ∈ candidates.candidates, ∀ cost ∈ c.estimatedCost,
      cost.currency = brief.budget.currency) :
    (∃ plan, buildCandidate casefold (.standard route draws) brief candidates evidence = .ok plan ∧
        Agrees casefold {} brief evidence plan) ↔
      Punctual casefold (.standard route draws) brief candidates := by
  have hp : (Planner.standard route draws).policy = {} := rfl
  generalize Planner.standard route draws = p at hp ⊢
  constructor
  · rintro ⟨plan, hbuild, hagrees⟩
    obtain ⟨-, hfeasible, hshows⟩ := buildCandidate_ok hbuild
    refine ⟨fun d hd => ?_, fun d hd => (hfeasible.days d hd).printable, hfeasible.printable,
      hfeasible.bounded⟩
    have hchecked : ∀ day ∈ plan.days,
        EachCheck (fun c => c.category = .time ∨ c.category = .route → c.outcome = .pass) evidence day :=
      fun day hday => (dayAgrees_checked (timed_of_shows hshows day hday)).1 (hagrees.days day hday).checked
    obtain ⟨-, hgaps⟩ := (forall_shows hshows.days fun _ _ _ hday => shows_timely hday).1 hchecked d hd
    obtain ⟨-, hleft, legs, cursor, hday⟩ := mem_agenda hd
    obtain ⟨v, vs, hcons, hnone, -⟩ := Planner.day_eq_cons _ _ _ hp
    have hfirst := agenda_first hp hd
    have hchain := agenda_chain hd
    have hfits := (hfeasible.days d hd).fits
    rw [hday, hcons] at hgaps hfirst hchain hfits ⊢
    exact onTime_of_covered hp hchain hfits hgaps (hfirst v (List.mem_cons_self ..) hnone)
      (Planner.late_of_none hnone)
  · intro h
    obtain ⟨plan, hbuild⟩ := buildCandidate_total hp hbrief hmatching (h.feasible hp hcurrency)
    obtain ⟨-, hfeasible, hshows⟩ := buildCandidate_ok hbuild
    have hchecked : ∀ day ∈ plan.days,
        EachCheck (fun c => c.category = .time ∨ c.category = .route → c.outcome = .pass) evidence day := by
      refine forall_of_shows hshows.days fun d hd day hday => (shows_timely hday).2 ⟨?_, ?_⟩
      · intro v hv
        have hlt := kept_leaves_lt (h.onTime d hd) (agenda_first hp hd) hv
        have hleaves : p.leaves v = v.arrival + p.duration v.candidate := rfl
        rw [Nat.mod_eq_of_lt hlt, Nat.mod_eq_of_lt (by omega)]
        omega
      · exact covered_of_onTime (h.onTime d hd) (agenda_first hp hd) hp (agenda_chain hd)
    refine ⟨plan, hbuild, fun day hday => ⟨?_, ?_⟩, fun _ _ hr => report_timely hchecked hr⟩
    · refine forall_of_shows (P := fun day => ∀ b ∈ day.timeBlocks.tail, b.timeRange.localDate = day.date ∧
        b.timeRange.endDayOffset = 0 ∧ b.timeRange.endLocalTime.micros ≤ 20 * 3_600_000_000)
        hshows.days (fun d hd day hday => ?_) day hday
      have htail := tail_leaves_lt (h.onTime d hd) (agenda_first hp hd) (agenda_chain hd)
      rw [hp] at htail
      have hlimit := micros_le_of_shows (forall₂_tail hday.blocks) htail
      rw [show 20 * 60 * 60_000_000 = 20 * 3_600_000_000 from by decide] at hlimit
      rw [hday.date]
      exact hlimit
    · exact (dayAgrees_checked (timed_of_shows hshows day hday)).2 (hchecked day hday)

end

namespace Sample

/-- A place of Beijing that the evidence is about. -/
def candidate (id name : String) (h : isIdentifier id := by decide) (h' : IsText 1 256 name := by decide) :
    Candidate where
  candidateId := identifier id h
  placeRef := { placeId := identifier id h, displayName := shortText name h', timezone := "Asia/Shanghai" }
  evidenceRefs := [identifier "evidence_1"]
  referenced := by decide
  duration := by simp

def palacePlace : Candidate := candidate "place_1" "故宫博物院"

def templePlace : Candidate := candidate "place_2" "天坛公园"

def ref (id : String) (h : isIdentifier id := by decide) : ArtifactRef := ⟨identifier id h, 1, firstVersion⟩

def evidence : EvidenceBundle where
  artifactId := identifier "artifact_2"
  version := 1
  timezone := "Asia/Shanghai"
  evidence := [⟨identifier "evidence_1", shortText "景区官网", .fresh⟩]
  positive := firstVersion
  bounded := by decide
  unique := by simp
  cited := by simp
  known := by simp

/-- The palace and the temple. -/
def candidates : CandidateSet where
  artifactId := identifier "artifact_3"
  version := 1
  tripBriefRef := ref "artifact_1"
  evidenceBundleRef := ref "artifact_2"
  timezone := "Asia/Shanghai"
  candidates := [palacePlace, templePlace]
  positive := firstVersion
  bounded := by decide
  unique := by decide
  zoned := by decide

/-- Every leg takes as many minutes. -/
def legs (minutes : ℕ) (h : minutes ≤ 10_080 := by decide) : RouteService :=
  fun _ _ _ => ⟨minutes, minutes, 0, le_rfl, h⟩

def draws : Draws := ⟨fun _ => hex, hex, hex⟩

theorem brief_valid : brief.Valid := by decide

theorem matching : Matching id brief candidates evidence := ⟨by decide, by decide, by decide, by decide⟩

end Sample

/-- With legs of half an hour planner and validator agree. -/
theorem planner_agrees_half_hour : ∃ plan,
    buildCandidate id (.standard (Sample.legs 30) Sample.draws) Sample.brief Sample.candidates
      Sample.evidence = .ok plan ∧ Agrees id {} Sample.brief Sample.evidence plan :=
  (planner_agrees_iff Sample.brief_valid Sample.matching (by decide)).2
    ⟨by decide, by decide +kernel, by decide +kernel, by decide⟩

/-- A leg of a whole day is stored as none. -/
theorem day_long_leg_stored : ¬ ∀ (casefold : String → String) (route : RouteService) (draws : Draws)
    (brief : TripBrief) (candidates : CandidateSet) (evidence : EvidenceBundle), brief.Valid →
    Matching casefold brief candidates evidence →
    (∀ c ∈ candidates.candidates, ∀ cost ∈ c.estimatedCost, cost.currency = brief.budget.currency) →
    ∃ plan, buildCandidate casefold (.standard route draws) brief candidates evidence = .ok plan ∧
      Agrees casefold {} brief evidence plan := by
  intro h
  obtain ⟨plan, hbuild, hagrees⟩ := h id (Sample.legs 1440) Sample.draws Sample.brief Sample.candidates
    Sample.evidence Sample.brief_valid Sample.matching (by decide)
  obtain ⟨-, -, hshows⟩ := buildCandidate_ok hbuild
  have hchecked : ∀ day ∈ plan.days, EachCheck
      (fun c => c.category = .time ∨ c.category = .route → c.outcome = .pass) Sample.evidence day :=
    fun day hday => (dayAgrees_checked (timed_of_shows hshows day hday)).1
      (hagrees.days day hday).checked
  have hgaps := fun d hd =>
    ((forall_shows hshows.days fun _ _ _ hday => shows_timely hday).1 hchecked d hd).2
  revert hgaps
  decide

end RoutePilot.Planning
