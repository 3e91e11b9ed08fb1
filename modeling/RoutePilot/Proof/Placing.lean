/-
  Which candidates a plan places, and where.

  One cursor runs over the prioritized candidates and across the days, and moves
  on before it is known whether the candidate fits the day.  A candidate that is
  dropped is not taken up again until the next round.  A candidate that two
  visit constraints name stands twice among the prioritized ones, and a day may
  come by both places.
-/
import RoutePilot.Lib.Cycle
import RoutePilot.Proof.Closing
import RoutePilot.Proof.Totals

namespace RoutePilot.Planning

open Lib Contracts

/-! ## The cursor -/

theorem Rota.getElem?_pick (rota : Rota) (i : ℕ) : rota.1[i % rota.1.length]? = some (rota.pick i) :=
  List.getElem?_eq_getElem (Nat.mod_lt _ rota.length_pos)

namespace Planner

variable {p : Planner} {rota : Rota} {cursor : ℕ}

variable (p rota) in
theorem attempts_candidates (remaining legs cursor time : ℕ) (previous : Option Candidate) :
    (p.attempts rota remaining legs cursor time previous).map (·.candidate) =
      (List.range' cursor (p.attempts rota remaining legs cursor time previous).length).map rota.pick := by
  induction remaining generalizing legs cursor time previous with
  | zero => rfl
  | succ remaining ih =>
    rw [attempts]
    split
    · rfl
    · rw [List.map_cons, List.length_cons, List.range'_succ, List.map_cons, ih]
      rfl

variable (p rota) in
theorem taken_candidates (dates : List Day) (legs cursor : ℕ) :
    (taken (p.schedule rota dates legs cursor)).map (·.candidate) =
      (List.range' cursor (taken (p.schedule rota dates legs cursor)).length).map rota.pick := by
  induction dates generalizing legs cursor with
  | nil => rfl
  | cons date dates ih =>
    rw [schedule, taken, List.flatMap_cons, List.map_append, List.length_append, ← List.range'_append_1,
      List.map_append]
    exact congrArg₂ _ (attempts_candidates p rota ..) (ih ..)

/-- The visits of a plan are of the candidates in turn. -/
theorem dealt_taken {dates : List Day} {legs : ℕ} :
    Dealt rota.1 (·.candidate) (taken (p.schedule rota dates legs 0)) := by
  intro i v hv
  have hi := (List.getElem?_eq_some_iff.1 hv).1
  have heq := congrArg (·[i]?) (taken_candidates p rota dates legs 0)
  simp only [List.getElem?_map, hv, List.getElem?_range' hi, Option.map_some, Option.some.injEq] at heq
  rw [Nat.zero_add, Nat.one_mul] at heq
  rw [rota.getElem?_pick, ← heq]

variable (p rota) in
theorem kept_prefix (remaining legs cursor time : ℕ) (previous : Option Candidate) :
    p.kept (p.attempts rota remaining legs cursor time previous) <+:
      p.attempts rota remaining legs cursor time previous := by
  induction remaining generalizing legs cursor time previous with
  | zero => exact List.prefix_rfl
  | succ remaining ih =>
    rw [attempts]
    rcases hlate : p.late (p.visit legs time previous (rota.pick cursor)) with _ | _
    · rw [kept_cons hlate]
      exact (List.prefix_cons_inj _).2 (ih ..)
    · rw [kept_cons_of_late hlate]
      exact List.nil_prefix

variable (p rota) in
/-- The candidates that a day's blocks show. -/
theorem kept_candidates (legs cursor : ℕ) :
    (p.kept (p.day rota legs cursor)).map (some ·.candidate) =
      (List.range' cursor (p.kept (p.day rota legs cursor)).length).map fun i => rota.1[i % rota.1.length]? := by
  obtain ⟨rest, hrest⟩ := kept_prefix p rota (p.blocksPerDay rota) legs cursor (p.policy.dayStartHour * 60) none
  have heq := attempts_candidates p rota (p.blocksPerDay rota) legs cursor (p.policy.dayStartHour * 60) none
  rw [← hrest, List.length_append, ← List.range'_append_1, List.map_append, List.map_append] at heq
  obtain ⟨hkept, -⟩ := List.append_inj heq (by simp)
  have hsome := congrArg (List.map some) hkept
  rw [List.map_map, List.map_map] at hsome
  simp only [rota.getElem?_pick]
  exact hsome

variable (p rota) in
theorem day_length_le (legs cursor : ℕ) : (p.day rota legs cursor).length ≤ rota.length :=
  attempts_length_le.trans (Nat.min_le_right _ _)

theorem late_of_first {remaining legs time : ℕ} {v : Visit}
    (h : v ∈ (p.attempts rota remaining legs cursor time none).head?) : p.late v = false := by
  cases remaining with
  | zero => cases h
  | succ remaining =>
    rw [attempts, List.head?_cons, Option.mem_some_iff] at h
    subst h
    exact late_of_none rfl

/-- A candidate that is dropped is not its day's first, so there are two. -/
theorem two_of_late {dates : List Day} {legs : ℕ} {v : Visit}
    (hv : v ∈ taken (p.schedule rota dates legs cursor)) (hlate : p.late v = true) : 2 ≤ rota.length := by
  obtain ⟨d, hd, hv⟩ := List.mem_flatMap.1 hv
  obtain ⟨-, legs, cursor, hday⟩ := mem_schedule hd
  rw [hday] at hv
  have hlen := day_length_le p rota legs cursor
  by_contra hone
  match hvisits : p.day rota legs cursor with
  | [] =>
    rw [hvisits] at hv
    cases hv
  | [w] =>
    rw [hvisits] at hv
    obtain rfl := List.mem_singleton.1 hv
    have hfirst : v ∈ (p.day rota legs cursor).head? := by rw [hvisits]; rfl
    rw [late_of_first hfirst] at hlate
    cases hlate
  | w :: w' :: ws =>
    rw [hvisits, List.length_cons, List.length_cons] at hlen
    omega

theorem late_of_head {dates : List Day} {legs : ℕ} {v : Visit}
    (h : v ∈ (taken (p.schedule rota dates legs cursor)).head?) : p.late v = false := by
  induction dates generalizing legs cursor with
  | nil => cases h
  | cons date dates ih =>
    rw [schedule, taken, List.flatMap_cons] at h
    cases hday : p.day rota legs cursor with
    | nil =>
      simp only [hday, List.nil_append] at h
      exact ih h
    | cons w ws =>
      simp only [hday, List.cons_append, List.head?_cons, Option.mem_some_iff] at h
      subst h
      have hfirst : w ∈ (p.day rota legs cursor).head? := by rw [hday]; rfl
      exact late_of_first hfirst

/-- What follows a candidate that was dropped is a day's first, and is placed. -/
theorem taken_chain {dates : List Day} {legs : ℕ} :
    (taken (p.schedule rota dates legs cursor)).IsChain fun v w => p.late v = true → p.late w = false := by
  induction dates generalizing legs cursor with
  | nil => exact .nil
  | cons date dates ih =>
    rw [schedule, taken, List.flatMap_cons]
    refine List.isChain_append.2 ⟨attempts_chain.imp fun v w hnext hlate => ?_, ih, ?_⟩
    · rw [hnext.onTime] at hlate
      cases hlate
    · exact fun v _ w hw _ => late_of_head hw

end Planner

/-! ## Skipping no candidate -/

/-- A block of a candidate. -/
structure BlockOf (p : Planner) (currency : CurrencyCode) (c : Candidate) (b : PlanTimeBlock) : Prop where
  title : b.title = c.placeRef.displayName
  placeRef : b.placeRef = c.placeRef
  evidenceRefs : b.evidenceRefs = c.evidenceRefs
  duration : b.durationMinutes = p.duration c
  cost : b.costRange = some (price currency c)

/-- The candidates that an agenda places, over all days. -/
def placed (p : Planner) (agenda : List (Day × List Visit)) : List Candidate :=
  (p.kept (taken agenda)).map (·.candidate)

/-- The prioritized candidates are placed in turn, and each that has to be visited before any is placed
    a second time. -/
structure SkipsNone (prioritized hard placed : List Candidate) : Prop where
  inTurn : ∃ n, placed <+: rounds prioritized n
  hardFirst : Sooner hard placed

section
variable {p : Planner} {timezone : Timezone} {currency : CurrencyCode}

theorem blocks_placed {sched : List (Day × List Visit)} {days : List PlanDay}
    (h : List.Forall₂ (ShowsDay p timezone currency) sched days) :
    List.Forall₂ (BlockOf p currency) (placed p sched) (days.flatMap (·.timeBlocks)) := by
  have hday {date : Day} {visits : List Visit} {blocks : List PlanTimeBlock}
      (h : List.Forall₂ (Shows p timezone currency date) visits blocks) :
      List.Forall₂ (BlockOf p currency) (visits.map (·.candidate)) blocks :=
    List.forall₂_map_left_iff.2 (h.imp fun _ _ hv => ⟨hv.title, hv.placeRef, hv.evidenceRefs, hv.duration, hv.cost⟩)
  unfold placed
  rw [kept_taken]
  induction h with
  | nil => exact .nil
  | cons hshows _ ih =>
    rw [List.flatMap_cons, List.flatMap_cons, List.map_append]
    exact List.rel_append (hday hshows.blocks) ih

end

section
variable {casefold : String → String} {p : Planner} {brief : TripBrief} {candidates : CandidateSet}
  {evidence : EvidenceBundle} {plan : ItineraryPlan}

theorem retained_subset : ∀ c ∈ retained casefold brief candidates,
    c ∈ planningCandidates casefold brief candidates :=
  fun _ hc => List.mem_append_left _ hc

/-- A plan skips no candidate exactly if the prioritized list repeats itself wherever something was
    dropped before, and has all that must be visited before its first repetition.  Without repetitions
    only the last candidate taken up may be dropped. -/
theorem skipsNone_iff (hbuild : buildCandidate casefold p brief candidates evidence = .ok plan) :
    List.Forall₂ (BlockOf p brief.budget.currency) (placed p (agenda casefold p brief candidates))
        plan.blocks ∧
      (SkipsNone (planningCandidates casefold brief candidates) (retained casefold brief candidates)
          (placed p (agenda casefold p brief candidates)) ↔
        InTurn (planningCandidates casefold brief candidates) p.late
            (taken (agenda casefold p brief candidates)) ∧
          Sooner (retained casefold brief candidates)
            ((planningCandidates casefold brief candidates).take
              (placed p (agenda casefold p brief candidates)).length)) ∧
      ((planningCandidates casefold brief candidates).Nodup →
        (SkipsNone (planningCandidates casefold brief candidates) (retained casefold brief candidates)
            (placed p (agenda casefold p brief candidates)) ↔
          ∀ v ∈ (taken (agenda casefold p brief candidates)).dropLast, p.late v = false)) := by
  obtain ⟨hmatching, -, hshows⟩ := buildCandidate_ok hbuild
  have hagenda : agenda casefold p brief candidates =
      p.schedule ⟨planningCandidates casefold brief candidates, planningCandidates_ne_nil hmatching.left⟩
        (dates brief.dateWindow) 0 0 := dif_pos hmatching.left
  have hturn : (∃ n, placed p (agenda casefold p brief candidates) <+:
        rounds (planningCandidates casefold brief candidates) n) ↔
      InTurn (planningCandidates casefold brief candidates) p.late
        (taken (agenda casefold p brief candidates)) := by
    refine inTurn_iff (planningCandidates_ne_nil hmatching.left) ?_
    rw [hagenda]
    exact Planner.dealt_taken
  have hskips : SkipsNone (planningCandidates casefold brief candidates)
        (retained casefold brief candidates) (placed p (agenda casefold p brief candidates)) ↔
      InTurn (planningCandidates casefold brief candidates) p.late
          (taken (agenda casefold p brief candidates)) ∧
        Sooner (retained casefold brief candidates)
          ((planningCandidates casefold brief candidates).take
            (placed p (agenda casefold p brief candidates)).length) := by
    constructor
    · rintro ⟨⟨n, hn⟩, hhard⟩
      exact ⟨hturn.1 ⟨n, hn⟩, (sooner_iff hn retained_subset).1 hhard⟩
    · rintro ⟨hinTurn, hhard⟩
      obtain ⟨n, hn⟩ := hturn.2 hinTurn
      exact ⟨⟨n, hn⟩, (sooner_iff hn retained_subset).2 hhard⟩
  refine ⟨blocks_placed hshows.days, hskips, fun hnodup => ?_⟩
  have hlast : InTurn (planningCandidates casefold brief candidates) p.late
        (taken (agenda casefold p brief candidates)) ↔
      ∀ v ∈ (taken (agenda casefold p brief candidates)).dropLast, p.late v = false := by
    rw [hagenda]
    exact inTurn_iff_of_nodup hnodup (fun v hv hlate => Planner.two_of_late hv hlate) Planner.taken_chain
  rw [hskips, hlast]
  exact and_iff_left (.of_nodup (hnodup.sublist (List.take_sublist ..)))

end

namespace Sample

/-- A constraint that places of a name have to be visited. -/
def visiting (id name : String) (h : isIdentifier id := by decide) (h' : IsText 1 2000 name := by decide) :
    ConstraintSpec :=
  { palace with constraintId := identifier id h, description := nonEmptyText name h' }

/-- Two days, with places that have to be visited. -/
def visitingDays (visits : List ConstraintSpec) : TripBrief := { twoDays 739741 with constraints := visits }

/-- Both places have to be visited. -/
def bothPlaces : TripBrief :=
  visitingDays [palace, visiting "constraint_2" "天坛公园"]

/-- The palace has to be visited, under two names. -/
def palaceTwice : TripBrief :=
  visitingDays [visiting "constraint_1" "故宫" palace.constraintId.2, visiting "constraint_2" "博物院"]

end Sample

/-- With legs of half an hour both places are visited in turn. -/
theorem skipsNone_half_hour : ∃ plan,
    buildCandidate id (.standard (Sample.legs 30) Sample.draws) Sample.bothPlaces Sample.candidates
      Sample.evidence = .ok plan ∧
    SkipsNone (planningCandidates id Sample.bothPlaces Sample.candidates)
      (retained id Sample.bothPlaces Sample.candidates) (placed (.standard (Sample.legs 30) Sample.draws)
        (agenda id (.standard (Sample.legs 30) Sample.draws) Sample.bothPlaces Sample.candidates)) := by
  have hbuilt := exists_ok (x := buildCandidate id (.standard (Sample.legs 30) Sample.draws)
    Sample.bothPlaces Sample.candidates Sample.evidence) (P := fun plan => plan.blocks ≠ []) (by decide +kernel)
  exact hbuilt.elim fun plan h => ⟨plan, h.1,
    (skipsNone_iff h.1).2.1.2 ⟨by decide +kernel, by decide +kernel⟩⟩

/-- With a leg of ten hours the first place is visited on both days, and the second on none. -/
theorem dropped_candidate_skipped : ¬ ∀ (casefold : String → String) (p : Planner) (brief : TripBrief)
    (candidates : CandidateSet) (evidence : EvidenceBundle) (plan : ItineraryPlan), brief.Valid →
    buildCandidate casefold p brief candidates evidence = .ok plan →
    SkipsNone (planningCandidates casefold brief candidates) (retained casefold brief candidates)
      (placed p (agenda casefold p brief candidates)) := by
  intro h
  obtain ⟨plan, hbuild, -⟩ := exists_ok (x := buildCandidate id
    (.standard (Sample.legs 600) Sample.draws) Sample.bothPlaces Sample.candidates Sample.evidence)
    (P := fun plan => plan.blocks ≠ []) (by decide +kernel)
  have hturn := ((skipsNone_iff hbuild).2.1.1 (h _ _ _ _ _ plan (by decide) hbuild)).1
  revert hturn
  decide +kernel

/-! ## Visiting no place twice a day -/

/-- The day visits no place twice. -/
def VisitsOnce (day : PlanDay) : Prop := (day.timeBlocks.map (·.placeRef.placeId)).Nodup

instance : DecidablePred VisitsOnce := fun _ => inferInstanceAs (Decidable (List.Nodup _))

/-- The places in the prioritized list, of a length, that each day's blocks come from. -/
def stretches (p : Planner) (length : ℕ) : ℕ → List (Day × List Visit) → List (List ℕ)
  | _, [] => []
  | cursor, d :: ds =>
    ((List.range' cursor (p.kept d.2).length).map (· % length)) :: stretches p length (cursor + d.2.length) ds

/-- No candidate stands at two of the places. -/
def Apart (prioritized : List Candidate) (places : List ℕ) : Prop :=
  ∀ i ∈ places, ∀ j ∈ places, i ≠ j → prioritized[i]? ≠ prioritized[j]?

instance (prioritized : List Candidate) : DecidablePred (Apart prioritized) := fun places =>
  inferInstanceAs (Decidable (∀ i ∈ places, ∀ j ∈ places, i ≠ j → prioritized[i]? ≠ prioritized[j]?))

section
variable {p : Planner} {timezone : Timezone} {currency : CurrencyCode} {rota : Rota}

theorem placeIds_of_shows {date : Day} {visits : List Visit} {blocks : List PlanTimeBlock}
    (h : List.Forall₂ (Shows p timezone currency date) visits blocks) :
    blocks.map (·.placeRef.placeId) = visits.map (·.candidate.placeRef.placeId) := by
  induction h with
  | nil => rfl
  | cons hshows _ ih => rw [List.map_cons, List.map_cons, ih, hshows.placeRef]

theorem stretches_lt {length cursor : ℕ} (h : 0 < length) {sched : List (Day × List Visit)} :
    ∀ places ∈ stretches p length cursor sched, ∀ i ∈ places, i < length := by
  induction sched generalizing cursor with
  | nil => simp [stretches]
  | cons d ds ih =>
    rw [stretches]
    refine List.forall_mem_cons.2 ⟨fun i hi => ?_, ih⟩
    obtain ⟨j, -, rfl⟩ := List.mem_map.1 hi
    exact Nat.mod_lt _ h

variable (hdistinct : ∀ c ∈ rota.1, ∀ c' ∈ rota.1, c.placeRef.placeId = c'.placeRef.placeId → c = c')
include hdistinct

theorem visitsOnce_iff {date : Day} {legs cursor : ℕ} {day : PlanDay}
    (h : ShowsDay p timezone currency (date, p.day rota legs cursor) day) :
    VisitsOnce day ↔
      Apart rota.1 ((List.range' cursor (p.kept (p.day rota legs cursor)).length).map (· % rota.1.length)) := by
  have hlen : (p.kept (p.day rota legs cursor)).length ≤ rota.1.length :=
    (List.length_filter_le _ _).trans (Planner.day_length_le _ _ legs cursor)
  have hmem : ∀ v ∈ p.kept (p.day rota legs cursor), v.candidate ∈ rota.1 :=
    fun v hv => Planner.attempts_mem v (List.mem_of_mem_filter hv)
  have hplaces : VisitsOnce day ↔ ((p.kept (p.day rota legs cursor)).map (some ·.candidate)).Nodup := by
    rw [VisitsOnce, placeIds_of_shows h.blocks, List.Nodup, List.Nodup, List.pairwise_map, List.pairwise_map]
    refine List.Pairwise.iff_of_mem fun {v w} hv hw => ?_
    refine not_congr ⟨fun heq => ?_, fun heq => ?_⟩
    · exact congrArg some (hdistinct _ (hmem v hv) _ (hmem w hw) heq)
    · exact congrArg (·.placeRef.placeId) (Option.some.inj heq)
  rw [hplaces, Planner.kept_candidates, nodup_hand_iff hlen]
  rfl

theorem all_visitsOnce_iff {dates : List Day} {legs cursor : ℕ} {days : List PlanDay}
    (h : List.Forall₂ (ShowsDay p timezone currency) (p.schedule rota dates legs cursor) days) :
    (∀ day ∈ days, VisitsOnce day) ↔
      ∀ places ∈ stretches p rota.1.length cursor (p.schedule rota dates legs cursor), Apart rota.1 places := by
  induction dates generalizing legs cursor days with
  | nil =>
    cases h
    simp [Planner.schedule, stretches]
  | cons date dates ih =>
    rw [Planner.schedule] at h ⊢
    cases h with
    | cons hday hrest =>
      rw [stretches, List.forall_mem_cons, List.forall_mem_cons, visitsOnce_iff hdistinct hday, ih hrest]

end

section
variable {casefold : String → String} {p : Planner} {brief : TripBrief} {candidates : CandidateSet}
  {evidence : EvidenceBundle} {plan : ItineraryPlan}

/-- Candidates that no two visit constraints name stand once in the prioritized list. -/
theorem nodup_planningCandidates (h : (retained casefold brief candidates).Nodup) :
    (planningCandidates casefold brief candidates).Nodup := by
  have hset : (eligible casefold brief candidates).Nodup :=
    (List.Nodup.of_map _ candidates.unique).filter _
  refine List.nodup_append.2 ⟨h, hset.filter _, ?_⟩
  rintro c hc c' hc' rfl
  have := (List.mem_filter.1 hc').2
  rw [decide_eq_true_iff] at this
  exact this (List.mem_map_of_mem hc)

/-- No day of a plan visits a place twice, as the validator checks, exactly if no candidate that stands
    twice in the prioritized list has two of its places in the stretch of a day; none has if no two
    visit constraints name one candidate. -/
theorem visitsOnce_all_iff (hdistinct : (candidates.candidates.map (·.placeRef.placeId)).Nodup)
    (hbuild : buildCandidate casefold p brief candidates evidence = .ok plan) :
    ((∀ day ∈ plan.days, VisitsOnce day ∧ (uniqueCheck day).outcome = .pass) ↔
        ∀ places ∈ stretches p (planningCandidates casefold brief candidates).length 0
          (agenda casefold p brief candidates), Apart (planningCandidates casefold brief candidates) places) ∧
      ((retained casefold brief candidates).Nodup →
        ∀ day ∈ plan.days, VisitsOnce day ∧ (uniqueCheck day).outcome = .pass) := by
  obtain ⟨hmatching, -, hshows⟩ := buildCandidate_ok hbuild
  have hagenda : agenda casefold p brief candidates =
      p.schedule ⟨planningCandidates casefold brief candidates, planningCandidates_ne_nil hmatching.left⟩
        (dates brief.dateWindow) 0 0 := dif_pos hmatching.left
  have hpass (day : PlanDay) : VisitsOnce day ∧ (uniqueCheck day).outcome = .pass ↔ VisitsOnce day := by
    refine and_iff_left_of_imp fun h => ?_
    exact if_pos (decide_eq_true h)
  have hplace : ∀ c ∈ planningCandidates casefold brief candidates,
      ∀ c' ∈ planningCandidates casefold brief candidates,
        c.placeRef.placeId = c'.placeRef.placeId → c = c' := by
    intro c hc c' hc' heq
    exact List.inj_on_of_nodup_map hdistinct (List.mem_of_mem_filter (mem_planningCandidates hc))
      (List.mem_of_mem_filter (mem_planningCandidates hc')) heq
  have hdays := hshows.days
  rw [hagenda] at hdays
  have hiff := all_visitsOnce_iff hplace hdays
  rw [← hagenda] at hiff
  simp only [hpass]
  refine ⟨hiff, fun honce => hiff.2 fun places hplaces i hi j hj hne heq => ?_⟩
  have hnodup := nodup_planningCandidates honce
  have hpos := List.length_pos_iff.2 (planningCandidates_ne_nil hmatching.left)
  have hi := stretches_lt hpos places hplaces i hi
  have hj := stretches_lt hpos places hplaces j hj
  rw [List.getElem?_eq_getElem hi, List.getElem?_eq_getElem hj, Option.some.injEq, hnodup.getElem_inj_iff] at heq
  exact hne heq

end

/-- Places with names of their own are visited once a day. -/
theorem visitsOnce_half_hour : ∃ plan,
    buildCandidate id (.standard (Sample.legs 30) Sample.draws) Sample.bothPlaces Sample.candidates
      Sample.evidence = .ok plan ∧ ∀ day ∈ plan.days, VisitsOnce day ∧ (uniqueCheck day).outcome = .pass := by
  have hbuilt := exists_ok (x := buildCandidate id (.standard (Sample.legs 30) Sample.draws)
    Sample.bothPlaces Sample.candidates Sample.evidence) (P := fun plan => plan.blocks ≠ []) (by decide +kernel)
  exact hbuilt.elim fun plan h => ⟨plan, h.1,
    (visitsOnce_all_iff (by decide) h.1).2 (by decide)⟩

/-- A place that two constraints name is visited twice on one day. -/
theorem place_visited_twice : ¬ ∀ (casefold : String → String) (p : Planner) (brief : TripBrief)
    (candidates : CandidateSet) (evidence : EvidenceBundle) (plan : ItineraryPlan), brief.Valid →
    (candidates.candidates.map (·.placeRef.placeId)).Nodup →
    buildCandidate casefold p brief candidates evidence = .ok plan →
    ∀ day ∈ plan.days, VisitsOnce day ∧ (uniqueCheck day).outcome = .pass := by
  intro h
  obtain ⟨plan, hbuild, htwice⟩ := exists_ok (x := buildCandidate id
    (.standard (Sample.legs 30) Sample.draws) Sample.palaceTwice Sample.candidates Sample.evidence)
    (P := fun plan => ¬ ∀ day ∈ plan.days, VisitsOnce day) (by decide +kernel)
  exact htwice fun day hday => (h _ _ _ _ _ plan (by decide) (by decide) hbuild day hday).1

end RoutePilot.Planning
