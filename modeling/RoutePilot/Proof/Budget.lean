/-
  The budget check and what a party pays.

  The planner adds up the stated maxima of the visits, whatever they are for,
  and calls the sum a total.  What the other travellers pay on top for visits
  priced per person is their surcharge: the check bounds what the party pays
  if nobody pays on top, and otherwise only for a budget with room for it.
-/
import Mathlib.Algebra.Order.BigOperators.Group.List
import Mathlib.Algebra.Group.Action.Defs
import Mathlib.Algebra.Order.Group.Nat
import RoutePilot.Proof.Reporting

namespace RoutePilot.Planning

open Lib Contracts

/-! ## What a party pays -/

/-- `adults + children + seniors` -/
def partySize (g : TravelerGroup) : ℕ := g.adults + g.childrenAges.length + g.seniors

/-- What a party pays at most for something of a price. -/
def pays (party : ℕ) (cost : MoneyRange) : ℕ :=
  if cost.basis = .perPerson then cost.maxAmount.value * party else cost.maxAmount.value

/-- What a party pays at most for a block. -/
def blockPays (party : ℕ) (block : PlanTimeBlock) : ℕ := (block.costRange.map (pays party)).getD 0

/-- What a party pays at most for the blocks of a plan. -/
def partyPays (brief : TripBrief) (plan : ItineraryPlan) : ℕ :=
  (plan.blocks.map (blockPays (partySize brief.travelers))).sum

/-- What the other travellers of a party pay on top for a visit. -/
def surcharge (party : ℕ) (currency : CurrencyCode) (v : Visit) : ℕ :=
  if (price currency v.candidate).basis = .perPerson then maximum currency v * (party - 1) else 0

section
variable {p : Planner} {timezone : Timezone} {currency : CurrencyCode}

/-- The sum over the visits that an agenda shows. -/
def sumOver (p : Planner) (f : Visit → ℕ) (agenda : List (Day × List Visit)) : ℕ :=
  (agenda.map fun d => ((p.kept d.2).map f).sum).sum

theorem pays_price {party : ℕ} (hparty : 1 ≤ party) (v : Visit) :
    pays party (price currency v.candidate) = maximum currency v + surcharge party currency v := by
  unfold pays surcharge maximum
  split
  · obtain ⟨k, rfl⟩ := Nat.exists_eq_add_of_le hparty
    rw [Nat.mul_add, Nat.mul_one, Nat.add_sub_cancel_left]
  · exact (Nat.add_zero _).symm

/-- The blocks of a plan cost what its visits cost. -/
theorem blocks_sum {party : ℕ} (hparty : 1 ≤ party) {sched : List (Day × List Visit)} {days : List PlanDay}
    (h : List.Forall₂ (ShowsDay p timezone currency) sched days) :
    ((days.flatMap (·.timeBlocks)).map (blockPays party)).sum =
      sumOver p (maximum currency) sched + sumOver p (surcharge party currency) sched := by
  have hday {date : Day} {visits : List Visit} {blocks : List PlanTimeBlock}
      (h : List.Forall₂ (Shows p timezone currency date) visits blocks) :
      (blocks.map (blockPays party)).sum =
        (visits.map fun v => maximum currency v + surcharge party currency v).sum := by
    induction h with
    | nil => rfl
    | cons hshows _ ih =>
      rw [List.map_cons, List.map_cons, List.sum_cons, List.sum_cons, ih, blockPays, hshows.cost,
        Option.map_some, Option.getD_some, pays_price hparty]
  induction h with
  | nil => rfl
  | cons hshows _ ih =>
    rw [List.flatMap_cons, List.map_append, List.sum_append, ih, hday hshows.blocks, List.sum_map_add]
    simp only [sumOver, List.map_cons, List.sum_cons]
    omega

/-! ## Sums without rounding -/

theorem foldl_plus_eq {l : List ℕ} {a : ℕ} (h : a + l.sum < 10 ^ precision) :
    l.foldl plus a = a + l.sum := by
  induction l generalizing a with
  | nil => rfl
  | cons b l ih =>
    rw [List.sum_cons] at h
    have hplus : plus a b = a + b := Lib.Decimal.roundTo_of_lt (by decide) (by omega)
    rw [List.foldl_cons, hplus, ih (by omega), List.sum_cons]
    omega

/-- The planner's total is the sum, as long as the sum has no more digits than the context keeps. -/
theorem grandMax_eq {agenda : List (Day × List Visit)}
    (h : sumOver p (maximum currency) agenda < 10 ^ precision) :
    p.grandMax currency agenda = sumOver p (maximum currency) agenda := by
  have hday : ∀ d ∈ agenda, p.dayMax currency d.2 = ((p.kept d.2).map (maximum currency)).sum := by
    intro d hd
    have hle : ((p.kept d.2).map (maximum currency)).sum ≤ sumOver p (maximum currency) agenda :=
      List.le_sum_of_mem (List.mem_map_of_mem (f := fun d => ((p.kept d.2).map (maximum currency)).sum) hd)
    rw [Planner.dayMax, total, foldl_plus_eq (by omega), Nat.zero_add]
  have hmap : (agenda.map fun d => p.dayMax currency d.2) =
      agenda.map fun d => ((p.kept d.2).map (maximum currency)).sum := List.map_congr_left hday
  rw [Planner.grandMax, hmap, total, foldl_plus_eq (by simpa [sumOver] using h), Nat.zero_add]
  rfl

end

/-! ## The budget -/

section
variable (casefold : String → String) (p : Planner) (brief : TripBrief) (candidates : CandidateSet)

/-- What the stated maxima of the visits sum up to. -/
def statedSum : ℕ := sumOver p (maximum brief.budget.currency) (agenda casefold p brief candidates)

/-- What the other travellers pay on top. -/
def surchargeSum : ℕ :=
  sumOver p (surcharge (partySize brief.travelers) brief.budget.currency) (agenda casefold p brief candidates)

/-- Nobody pays for the others: a party of one, or no candidate with a price per person. -/
def PaysOnce : Prop :=
  partySize brief.travelers = 1 ∨ ∀ c ∈ candidates.candidates, ∀ cost ∈ c.estimatedCost, cost.basis ≠ .perPerson

/-- Everything is paid for each traveller: a larger party, and a price per person for every candidate. -/
def PaysEach : Prop :=
  1 < partySize brief.travelers ∧ ∀ c ∈ candidates.candidates, ∃ cost ∈ c.estimatedCost,
    cost.basis = .perPerson ∧ 0 < cost.maxAmount.value

/-- As many visits as a plan may have, each at the highest price of a candidate, sum up to no more digits than the
    context keeps. -/
def SumsExact : Prop :=
  ∀ c ∈ candidates.candidates, ∀ cost ∈ c.estimatedCost,
    (dates brief.dateWindow).length * p.policy.maxBlocksPerDay * cost.maxAmount.value < 10 ^ precision

/-- The budget is below the planner's total, or has room for the surcharge. -/
def RoomForParty : Prop :=
  brief.budget.maxAmount.value < p.grandMax brief.budget.currency (agenda casefold p brief candidates) ∨
    statedSum casefold p brief candidates + surchargeSum casefold p brief candidates ≤
      brief.budget.maxAmount.value

instance : Decidable (PaysOnce brief candidates) := inferInstanceAs (Decidable (_ ∨ _))
instance : Decidable (PaysEach brief candidates) := inferInstanceAs (Decidable (_ ∧ _))
instance : Decidable (SumsExact p brief candidates) := inferInstanceAs (Decidable (∀ c ∈ _, _))
instance : Decidable (RoomForParty casefold p brief candidates) := inferInstanceAs (Decidable (_ ∨ _))

variable {casefold p brief candidates}

/-- The prices of the visits are those of the candidates. -/
theorem price_of_visit {d : Day × List Visit} (hd : d ∈ agenda casefold p brief candidates) {v : Visit}
    (hv : v ∈ p.kept d.2) : v.candidate ∈ candidates.candidates :=
  List.mem_of_mem_filter (agenda_candidate hd (List.mem_of_mem_filter hv))

/-- Nobody pays on top, for a party of one or without prices per person. -/
theorem surchargeSum_eq_zero (h : PaysOnce brief candidates) : surchargeSum casefold p brief candidates = 0 := by
  unfold surchargeSum sumOver
  refine List.sum_eq_zero_iff_forall_eq_nat.2 fun n hn => ?_
  obtain ⟨d, hd, rfl⟩ := List.mem_map.1 hn
  refine List.sum_eq_zero_iff_forall_eq_nat.2 fun m hm => ?_
  obtain ⟨v, hv, rfl⟩ := List.mem_map.1 hm
  unfold surcharge
  split
  · next hbasis =>
    rcases h with hone | hnone
    · rw [hone, Nat.sub_self, Nat.mul_zero]
    · exfalso
      cases hc : v.candidate.estimatedCost with
      | none => simp [price, hc, free] at hbasis
      | some cost =>
        rw [price, hc, Option.getD_some] at hbasis
        exact hnone _ (price_of_visit hd hv) cost hc hbasis
  · rfl

/-- Some date has a visit, and the others pay for it. -/
theorem surchargeSum_pos (hp : p.policy = {}) (hleft : eligible casefold brief candidates ≠ [])
    (h : PaysEach brief candidates) : 0 < surchargeSum casefold p brief candidates := by
  obtain ⟨hparty, hprices⟩ := h
  obtain ⟨d, hd⟩ : ∃ d, d ∈ agenda casefold p brief candidates := by
    have hdates := congrArg List.length (agenda_dates (p := p) hleft)
    rw [List.length_map, dates_length] at hdates
    exact List.exists_mem_of_length_pos (by omega)
  obtain ⟨v, hv⟩ : ∃ v, v ∈ p.kept d.2 := by
    obtain ⟨-, hleft, legs, cursor, hday⟩ := mem_agenda hd
    rw [hday]
    exact List.exists_mem_of_ne_nil _ (Planner.kept_day_ne_nil hp)
  obtain ⟨cost, hcost, hbasis, hpos⟩ := hprices _ (price_of_visit hd hv)
  have hprice : price brief.budget.currency v.candidate = cost := by rw [price, hcost, Option.getD_some]
  have hsurcharge : 0 < surcharge (partySize brief.travelers) brief.budget.currency v := by
    rw [surcharge, maximum, hprice, if_pos hbasis]
    exact Nat.mul_pos hpos (by omega)
  have hday := List.le_sum_of_mem (List.mem_map_of_mem
    (f := surcharge (partySize brief.travelers) brief.budget.currency) hv)
  have hsum := List.le_sum_of_mem (List.mem_map_of_mem
    (f := fun d => ((p.kept d.2).map (surcharge (partySize brief.travelers) brief.budget.currency)).sum) hd)
  exact hsurcharge.trans_le (hday.trans hsum)

theorem agenda_length_le : (agenda casefold p brief candidates).length ≤ (dates brief.dateWindow).length := by
  by_cases hleft : eligible casefold brief candidates ≠ []
  · rw [← agenda_dates (p := p) hleft, List.length_map]
  · rw [agenda, dif_neg hleft]
    exact Nat.zero_le _

theorem maxAmount_free (currency : CurrencyCode) : (free currency).maxAmount.value = 0 := by
  have hvalue : DecimalAmount.value ⟨"0", isDecimalAmount_zero⟩ = 0 := by decide +kernel
  exact hvalue

/-- The sums of amounts of that many digits are exact. -/
theorem SumsExact.statedSum_lt (h : SumsExact p brief candidates) :
    statedSum casefold p brief candidates < 10 ^ precision := by
  set visits := (dates brief.dateWindow).length * p.policy.maxBlocksPerDay with hvisits
  -- the highest price with which that many visits have no more digits
  set most := (10 ^ precision - 1) / visits with hmost
  have hmax : ∀ d ∈ agenda casefold p brief candidates,
      ((p.kept d.2).map (maximum brief.budget.currency)).sum ≤ p.policy.maxBlocksPerDay * most := by
    intro d hd
    obtain ⟨hdate, hleft, legs, cursor, hday⟩ := mem_agenda hd
    have hlen : (p.kept d.2).length ≤ p.policy.maxBlocksPerDay := by
      rw [hday]
      exact (List.length_filter_le _ _).trans (Planner.attempts_length_le.trans (Nat.min_le_left _ _))
    refine (List.sum_le_card_nsmul _ most fun n hn => ?_).trans ?_
    · obtain ⟨v, hv, rfl⟩ := List.mem_map.1 hn
      have hpos : 0 < visits :=
        Nat.mul_pos (List.length_pos_of_mem hdate) ((List.length_pos_of_mem hv).trans_le hlen)
      unfold maximum price
      cases hcost : v.candidate.estimatedCost with
      | none =>
        rw [Option.getD_none, maxAmount_free]
        exact Nat.zero_le _
      | some cost =>
        have hlt : visits * cost.maxAmount.value < 10 ^ precision := h _ (price_of_visit hd hv) cost hcost
        rw [Option.getD_some, hmost, Nat.le_div_iff_mul_le hpos, Nat.mul_comm]
        omega
    · rw [List.length_map, smul_eq_mul]
      exact Nat.mul_le_mul_right _ hlen
  have hsum : statedSum casefold p brief candidates ≤ visits * most := by
    refine (List.sum_le_card_nsmul _ (p.policy.maxBlocksPerDay * most) fun n hn => ?_).trans ?_
    · obtain ⟨d, hd, rfl⟩ := List.mem_map.1 hn
      exact hmax d hd
    · rw [List.length_map, smul_eq_mul, hvisits, Nat.mul_assoc]
      exact Nat.mul_le_mul_right _ agenda_length_le
  have hle : visits * most ≤ 10 ^ precision - 1 := Nat.mul_div_le _ _
  have hpos : 0 < 10 ^ precision := Nat.pos_of_ne_zero (by decide)
  omega

/-- If nobody pays on top, the budget has room, up to rounding. -/
theorem roomForParty_of_exact (hexact : SumsExact p brief candidates) (h : PaysOnce brief candidates) :
    RoomForParty casefold p brief candidates := by
  rw [RoomForParty, surchargeSum_eq_zero h, Nat.add_zero, grandMax_eq hexact.statedSum_lt]
  exact Nat.lt_or_ge _ _

/-- A budget of just the planner's total has no room for any surcharge. -/
theorem not_roomForParty (hexact : SumsExact p brief candidates)
    (hbudget : brief.budget.maxAmount.value = statedSum casefold p brief candidates)
    (h : 0 < surchargeSum casefold p brief candidates) : ¬ RoomForParty casefold p brief candidates := by
  have htotal : p.grandMax brief.budget.currency (agenda casefold p brief candidates) =
      statedSum casefold p brief candidates := grandMax_eq hexact.statedSum_lt
  rw [RoomForParty, htotal, hbudget]
  omega

/-- The check bounds what the party pays exactly if the budget has room for the surcharge. -/
theorem bounds_iff_roomForParty {route : RouteService} {draws : Draws} {evidence : EvidenceBundle}
    {plan : ItineraryPlan}
    (hbuild : buildCandidate casefold (.standard route draws) brief candidates evidence = .ok plan) :
    (budgetOk brief plan → partyPays brief plan ≤ brief.budget.maxAmount.value) ↔
      RoomForParty casefold (.standard route draws) brief candidates := by
  obtain ⟨-, -, hshows⟩ := buildCandidate_ok hbuild
  have hsum : partyPays brief plan = statedSum casefold (.standard route draws) brief candidates +
      surchargeSum casefold (.standard route draws) brief candidates :=
    blocks_sum brief.travelers.traveler hshows.days
  have hok : budgetOk brief plan ↔ (Planner.standard route draws).grandMax brief.budget.currency
      (agenda casefold (.standard route draws) brief candidates) ≤ brief.budget.maxAmount.value := by
    rw [budgetOk, hshows.estimatedTotal.currency, hshows.estimatedTotal.maxAmount]
    simp
  rw [hok, hsum, RoomForParty, ← not_le, imp_iff_not_or]

/-- **The budget check.**  With exact sums, it bounds what the party pays if nobody pays for the others; where
    everything is paid for each traveller, a budget of just the planner's total passes it and is exceeded.  In
    general it bounds what the party pays exactly if the budget is below the planner's total or has room for the
    surcharge. -/
theorem budget_bounds_iff {route : RouteService} {draws : Draws} {evidence : EvidenceBundle}
    {plan : ItineraryPlan}
    (hbuild : buildCandidate casefold (.standard route draws) brief candidates evidence = .ok plan) :
    (SumsExact (.standard route draws) brief candidates →
      (PaysOnce brief candidates → budgetOk brief plan → partyPays brief plan ≤ brief.budget.maxAmount.value) ∧
      (PaysEach brief candidates →
        brief.budget.maxAmount.value = statedSum casefold (.standard route draws) brief candidates →
        budgetOk brief plan ∧ brief.budget.maxAmount.value < partyPays brief plan)) ∧
    ((budgetOk brief plan → partyPays brief plan ≤ brief.budget.maxAmount.value) ↔
      RoomForParty casefold (.standard route draws) brief candidates) := by
  have hiff := bounds_iff_roomForParty hbuild
  refine ⟨fun hexact => ⟨fun honce => hiff.2 (roomForParty_of_exact hexact honce), fun heach hbudget => ?_⟩, hiff⟩
  obtain ⟨hmatching, -, -⟩ := buildCandidate_ok hbuild
  have hbroken := mt hiff.1 (not_roomForParty hexact hbudget (surchargeSum_pos rfl hmatching.left heach))
  rwa [Classical.not_imp, not_le] at hbroken

end

namespace Sample

/-- A ticket of a price for each person. -/
def ticket (maxAmount : DecimalAmount) (h : nothing.value ≤ maxAmount.value := by decide) : MoneyRange :=
  ⟨nothing, maxAmount, yuan, .perPerson, h⟩

/-- A ticket of a price for the group. -/
def groupTicket (maxAmount : DecimalAmount) (h : nothing.value ≤ maxAmount.value := by decide) : MoneyRange :=
  { ticket maxAmount h with basis := .perGroup }

/-- The palace, with a ticket. -/
def ticketed (cost : MoneyRange) : CandidateSet :=
  { candidates with
    candidates := [{ palacePlace with estimatedCost := some cost }]
    bounded := by simp, unique := by simp, zoned := by intro c hc; rw [List.mem_singleton.1 hc]; rfl }

end Sample

/-- A ticket of 100 yuan for the group fits into 100 yuan, and so do tickets of 40 yuan for each of two. -/
theorem budget_bounds_tickets :
    (∃ plan, buildCandidate id (.standard (Sample.legs 30) Sample.draws) Sample.brief
      (Sample.ticketed (Sample.groupTicket (Sample.amount "100"))) Sample.evidence = .ok plan ∧
      budgetOk Sample.brief plan ∧ partyPays Sample.brief plan ≤ Sample.brief.budget.maxAmount.value) ∧
    ∃ plan, buildCandidate id (.standard (Sample.legs 30) Sample.draws) Sample.brief
      (Sample.ticketed (Sample.ticket (Sample.amount "40"))) Sample.evidence = .ok plan ∧
      budgetOk Sample.brief plan ∧ partyPays Sample.brief plan ≤ Sample.brief.budget.maxAmount.value := by
  constructor
  · have hexact : SumsExact (.standard (Sample.legs 30) Sample.draws) Sample.brief
        (Sample.ticketed (Sample.groupTicket (Sample.amount "100"))) := by decide +kernel
    have honce : PaysOnce Sample.brief (Sample.ticketed (Sample.groupTicket (Sample.amount "100"))) := by
      decide +kernel
    have hbuilt := exists_ok (x := buildCandidate id (.standard (Sample.legs 30) Sample.draws)
      Sample.brief (Sample.ticketed (Sample.groupTicket (Sample.amount "100"))) Sample.evidence)
      (P := fun plan => budgetOk Sample.brief plan) (by decide +kernel)
    exact hbuilt.elim fun plan h => ⟨plan, h.1, h.2, ((budget_bounds_iff h.1).1 hexact).1 honce h.2⟩
  · have hroom : RoomForParty id (.standard (Sample.legs 30) Sample.draws) Sample.brief
        (Sample.ticketed (Sample.ticket (Sample.amount "40"))) := by decide +kernel
    have hbuilt := exists_ok (x := buildCandidate id (.standard (Sample.legs 30) Sample.draws)
      Sample.brief (Sample.ticketed (Sample.ticket (Sample.amount "40"))) Sample.evidence)
      (P := fun plan => budgetOk Sample.brief plan) (by decide +kernel)
    exact hbuilt.elim fun plan h => ⟨plan, h.1, h.2, (budget_bounds_iff h.1).2.2 hroom h.2⟩

/-- Two tickets of 60 yuan pass for one. -/
theorem tickets_overspend : ¬ ∀ (casefold : String → String) (route : RouteService) (draws : Draws)
    (brief : TripBrief) (candidates : CandidateSet) (evidence : EvidenceBundle) (plan : ItineraryPlan),
    brief.Valid → brief.budget.basis = .total →
    (∀ c ∈ candidates.candidates, ∀ cost ∈ c.estimatedCost, cost.currency = brief.budget.currency ∧
      (cost.basis = .perPerson ∨ cost.basis = .perGroup ∨ cost.basis = .total)) →
    buildCandidate casefold (.standard route draws) brief candidates evidence = .ok plan →
    budgetOk brief plan → partyPays brief plan ≤ brief.budget.maxAmount.value := by
  intro h
  obtain ⟨plan, hbuild, hok, hpays⟩ := exists_ok (x := buildCandidate id
    (.standard (Sample.legs 30) Sample.draws) Sample.brief
    (Sample.ticketed (Sample.ticket (Sample.amount "60"))) Sample.evidence)
    (P := fun plan => budgetOk Sample.brief plan ∧
      Sample.brief.budget.maxAmount.value < partyPays Sample.brief plan) (by decide +kernel)
  have := h id (Sample.legs 30) Sample.draws Sample.brief
    (Sample.ticketed (Sample.ticket (Sample.amount "60"))) Sample.evidence plan (by decide) (by decide)
    (by decide) hbuild hok
  omega

end RoutePilot.Planning
