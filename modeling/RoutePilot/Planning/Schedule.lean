/-
  The schedule of a plan: which candidates each day's loop takes, and when.

  The planner's loops interleave the clock with amounts, identifiers and
  contract models.  `attempts` is the clock alone: the visits that a day's loop
  takes up, of which a late one is dropped and ends the day.  `placeBlocks_ok`
  and `placeBlocks_total` say that the loop makes a block of each visit that is
  not late, and raises exactly if one does not fit.
-/
import RoutePilot.Planning.Planner

namespace RoutePilot.Planning

open Lib Contracts

/-! ## Clock -/

namespace Moment

variable (date : Day) (m n : ℕ)

theorem later_eq_ok {m' : Moment} : Moment.later m n = .ok m' ↔
    (m + n) / dayMinutes ≤ maxOrdinal ∧ m + n = m' := by
  unfold later
  rw [check_eq_ok, exists_prop]

theorem day_add_div : (date.ordinal * dayMinutes + m) / dayMinutes = date.ordinal + m / dayMinutes := by
  rw [Nat.add_comm, Nat.add_mul_div_right _ _ (by decide), Nat.add_comm]

theorem day_add_mod : (date.ordinal * dayMinutes + m) % dayMinutes = m % dayMinutes := by
  rw [Nat.add_comm, Nat.add_mul_mod_self_right]

theorem hour_day_add : hour (date.ordinal * dayMinutes + m) = hour m := by
  unfold hour
  rw [day_add_mod]

theorem time_day_add : time (date.ordinal * dayMinutes + m) = time m := by
  simp only [time, day_add_mod]

theorem utc_time : (time m).utc = (m % dayMinutes * 60_000_000 : ℕ) := by
  simp [LocalTime.utc, time]

theorem utc_time_lt : (time m).utc < (time n).utc ↔ m % dayMinutes < n % dayMinutes := by
  rw [utc_time, utc_time]
  omega

theorem utc_time_le : (time m).utc ≤ (time n).utc ↔ m % dayMinutes ≤ n % dayMinutes := by
  rw [utc_time, utc_time]
  omega

end Moment

/-! ## Amounts -/

/-- The text of an amount is short enough for a contract. -/
def Printable (n : ℕ) : Prop := (decimalText n).length ≤ 32

instance (n : ℕ) : Decidable (Printable n) := inferInstanceAs (Decidable (_ ≤ _))

theorem isDecimalAmount_decimalText {n : ℕ} : isDecimalAmount (decimalText n) ↔ Printable n := by
  unfold isDecimalAmount Printable
  have hnumeral : Lib.Decimal.isNumeral amountScale (decimalText n).toList := by
    rw [decimalText, String.toList_ofList]
    exact Lib.Decimal.isNumeral_format (by decide)
  simp [hnumeral]

theorem value_decimalText {n : ℕ} (h : isDecimalAmount (decimalText n)) :
    DecimalAmount.value ⟨decimalText n, h⟩ = n := by
  unfold DecimalAmount.value
  simp only [decimalText, String.toList_ofList]
  exact Lib.Decimal.parse_format (by decide)

/-- What `_money` returns. -/
structure IsMoney (minimum maximum : ℕ) (currency : CurrencyCode) (r : MoneyRange) : Prop where
  minAmount : r.minAmount.value = minimum
  maxAmount : r.maxAmount.value = maximum
  currency : r.currency = currency
  basis : r.basis = .total

theorem money_ok {minimum maximum : ℕ} {currency : CurrencyCode} {r : MoneyRange}
    (h : money minimum maximum currency = .ok r) :
    Printable minimum ∧ Printable maximum ∧ IsMoney minimum maximum currency r := by
  unfold money decimalAmount moneyRange at h
  simp only [bind_eq_ok, check_eq_ok] at h
  obtain ⟨_, ⟨hmin, rfl⟩, _, ⟨hmax, rfl⟩, _, rfl⟩ := h
  refine ⟨isDecimalAmount_decimalText.1 hmin, isDecimalAmount_decimalText.1 hmax, ?_⟩
  constructor
  · exact value_decimalText hmin
  · exact value_decimalText hmax
  · rfl
  · rfl

theorem money_total {minimum maximum : ℕ} (currency : CurrencyCode) (hmin : Printable minimum)
    (hmax : Printable maximum) (hle : minimum ≤ maximum) : ∃ r, money minimum maximum currency = .ok r := by
  have hmin := isDecimalAmount_decimalText.2 hmin
  have hmax := isDecimalAmount_decimalText.2 hmax
  refine ⟨⟨⟨_, hmin⟩, ⟨_, hmax⟩, currency, .total, ?_⟩, ?_⟩
  · rwa [value_decimalText, value_decimalText]
  · unfold money decimalAmount moneyRange
    rw [check_pos hmin, ok_bind, check_pos hmax, ok_bind, check_pos]

/-! ## Identifiers of blocks -/

theorem isIdentifierChar_toString {n : ℕ} {c : Char} (h : c ∈ (toString n).toList) :
    isIdentifierChar c := by
  rw [show toString n = String.ofList (Nat.toDigits 10 n) from rfl, String.toList_ofList] at h
  simp [isIdentifierChar, Lib.Decimal.isDigit_toDigits h]

theorem length_toString_le {n d : ℕ} (hd : 0 < d) (h : n < 10 ^ d) : (toString n).length ≤ d := by
  rw [show toString n = String.ofList (Nat.toDigits 10 n) from rfl, String.length_ofList]
  exact (Nat.length_toDigits_le_iff (by decide) hd).2 h

theorem toList_blockId (dayIndex blockIndex : ℕ) (token : Hex 24) :
    (blockId dayIndex blockIndex token).toList =
      "block_".toList ++ (toString dayIndex).toList ++ "_".toList ++ (toString blockIndex).toList ++
        "_".toList ++ ("item".toList ++ "_".toList ++ token.text.toList) := by
  unfold blockId newId
  simp only [String.toList_append]

/-- The blocks of a plan have identifiers. -/
theorem isIdentifier_blockId {dayIndex blockIndex : ℕ} (token : Hex 24) (hday : dayIndex < 10 ^ 40)
    (hblock : blockIndex < 10 ^ 40) : isIdentifier (blockId dayIndex blockIndex token) := by
  have hd := length_toString_le (by decide) hday
  have hb := length_toString_le (by decide) hblock
  have ht := token.text_length (by decide)
  have hsize : (blockId dayIndex blockIndex token).length =
      6 + (toString dayIndex).length + 1 + (toString blockIndex).length + 1 + (4 + 1 + 24) := by
    unfold blockId newId
    simp only [String.length_append, ht]
    rfl
  unfold isIdentifier
  simp only [hsize, toList_blockId, Bool.and_eq_true, decide_eq_true_eq, List.all_append]
  refine ⟨⟨⟨by simp, ?_⟩, by omega⟩, by omega⟩
  refine ⟨⟨⟨⟨⟨by decide, ?_⟩, by decide⟩, ?_⟩, by decide⟩, ⟨by decide, by decide⟩, ?_⟩
  · exact List.all_eq_true.2 fun c hc => isIdentifierChar_toString hc
  · exact List.all_eq_true.2 fun c hc => isIdentifierChar_toString hc
  · exact List.all_eq_true.2 fun c hc => token.isIdentifierChar_text hc

/-- The identifiers of a day's blocks tell the blocks apart. -/
theorem blockId_inj {dayIndex i j : ℕ} {token token' : Hex 24}
    (h : blockId dayIndex i token = blockId dayIndex j token') : i = j := by
  have hlist := congrArg String.toList h
  simp only [toList_blockId, List.append_assoc, List.append_cancel_left_eq] at hlist
  have hdigits (n : ℕ) (l : List Char) :
      ((toString n).toList ++ ("_".toList ++ l)).takeWhile Char.isDigit = Nat.toDigits 10 n := by
    rw [show toString n = String.ofList (Nat.toDigits 10 n) from rfl, String.toList_ofList,
      List.takeWhile_append_of_pos fun c hc => Lib.Decimal.isDigit_toDigits hc]
    simp
  have := congrArg (List.takeWhile Char.isDigit) hlist
  rw [hdigits, hdigits] at this
  have := congrArg (Nat.ofDigitChars 10 · 0) this
  simpa only [Nat.ofDigitChars_ten_toDigits] using this

/-! ## Visits -/

/-- A candidate that a day's loop takes up: when the visit begins, in minutes from the midnight of
    the day's date, and the leg to it. -/
structure Visit where
  candidate : Candidate
  arrival : ℕ
  transit : Option TransitLeg

/-- Nothing to pay. -/
def free (currency : CurrencyCode) : MoneyRange where
  minAmount := ⟨"0", isDecimalAmount_zero⟩
  maxAmount := ⟨"0", isDecimalAmount_zero⟩
  currency := currency
  basis := .total
  le := le_rfl

/-- What a visit costs. -/
def price (currency : CurrencyCode) (candidate : Candidate) : MoneyRange :=
  candidate.estimatedCost.getD (free currency)

theorem money_zero (currency : CurrencyCode) : money 0 0 currency = .ok (free currency) := by
  have htext : decimalText 0 = "0" := by decide +kernel
  unfold money decimalAmount moneyRange
  rw [htext, check_pos isDecimalAmount_zero, ok_bind, ok_bind, check_pos le_rfl]
  rfl

theorem cost_eq (currency : CurrencyCode) (candidate : Candidate) :
    Planner.cost currency candidate = .ok (price currency candidate) := by
  unfold Planner.cost price
  cases candidate.estimatedCost with
  | some cost => rfl
  | none => exact money_zero currency

namespace Planner

variable (p : Planner)

/-- The minutes between the visits of a leg's ends. -/
def travel : Option TransitLeg → ℕ
  | none => 0
  | some leg => leg.durationMaxMinutes + p.policy.minimumBufferMinutes

/-- When a visit ends. -/
def leaves (v : Visit) : ℕ := v.arrival + p.duration v.candidate

/-- The visit ends after the day's end, and is not the day's first. -/
def late (v : Visit) : Bool := v.transit.isSome && decide (p.policy.dayEndHour ≤ Moment.hour (p.leaves v))

/-- The visit of a candidate after `legs` calls of the route service. -/
def visit (legs time : ℕ) (previous : Option Candidate) (candidate : Candidate) : Visit :=
  let transit := previous.map fun c => p.route legs c candidate
  ⟨candidate, time + p.travel transit, transit⟩

variable (rota : Rota)

/-- The visits that a day's loop takes up. -/
def attempts : ℕ → ℕ → ℕ → ℕ → Option Candidate → List Visit
  | 0, _, _, _, _ => []
  | remaining + 1, legs, cursor, time, previous =>
    let v := p.visit legs time previous (rota.pick cursor)
    v :: if p.late v then [] else
      attempts remaining (legs + if previous.isSome then 1 else 0) (cursor + 1) (p.leaves v)
        (some v.candidate)

/-- The visits that a day takes up, from its start. -/
def day (legs cursor : ℕ) : List Visit :=
  p.attempts rota (p.blocksPerDay rota) legs cursor (p.policy.dayStartHour * 60) none

/-- Those of them that the plan shows. -/
def kept (day : List Visit) : List Visit := day.filter (!p.late ·)

/-- The days of a plan, with the visits that each takes up. -/
def schedule : List Day → ℕ → ℕ → List (Day × List Visit)
  | [], _, _ => []
  | date :: dates, legs, cursor =>
    let visits := p.day rota legs cursor
    (date, visits) :: schedule dates (legs + (visits.length - 1)) (cursor + visits.length)

end Planner

/-! ## A day's loop -/

/-- A block shows a visit. -/
structure Shows (p : Planner) (timezone : Timezone) (currency : CurrencyCode) (date : Day) (v : Visit)
    (b : PlanTimeBlock) : Prop where
  title : b.title = v.candidate.placeRef.displayName
  placeRef : b.placeRef = v.candidate.placeRef
  evidenceRefs : b.evidenceRefs = v.candidate.evidenceRefs
  transit : b.transitFromPrevious = v.transit
  duration : b.durationMinutes = p.duration v.candidate
  cost : b.costRange = some (price currency v.candidate)
  localDate : b.timeRange.localDate = date
  timezone : b.timeRange.timezone = timezone
  start : b.timeRange.startLocalTime = Moment.time v.arrival
  finish : b.timeRange.endLocalTime = Moment.time (p.leaves v)
  offset : b.timeRange.endDayOffset = 0

/-- A visit does not leave the calendar, and if it is not late it can be shown. -/
structure Fits (p : Planner) (currency : CurrencyCode) (date : Day) (v : Visit) : Prop where
  calendar : date.ordinal + p.leaves v / dayMinutes ≤ maxOrdinal
  upright : p.late v = false → v.arrival % dayMinutes < p.leaves v % dayMinutes
  currency : p.late v = false → (price currency v.candidate).currency = currency

/-- The sum of amounts as the planner adds them. -/
def total (amounts : List ℕ) : ℕ := amounts.foldl plus 0

namespace Planner

variable {p : Planner}

theorem duration_bounds (hp : p.policy = {}) (c : Candidate) : 0 < p.duration c ∧ p.duration c ≤ 240 := by
  unfold duration
  rw [hp]
  cases h : c.recommendedDurationMinutes with
  | none => simp
  | some minutes =>
    have := c.duration minutes h
    simp only [Option.getD_some]
    omega

theorem attempts_transit_isSome {rota : Rota} {n legs cursor time : ℕ} {previous : Option Candidate}
    (h : previous.isSome) : ∀ v ∈ p.attempts rota n legs cursor time previous, v.transit.isSome := by
  induction n generalizing legs cursor time previous with
  | zero => simp [attempts]
  | succ n ih =>
    intro v hv
    simp only [attempts, List.mem_cons] at hv
    rcases hv with rfl | hv
    · simpa [visit] using h
    · split at hv
      · simp at hv
      · exact ih rfl v hv

end Planner

/-! ### One step -/

/-- The state of a day's loop at a minute of its date. -/
structure DayState.At (s : DayState) (date : Day) (time : ℕ) : Prop where
  currentTime : s.currentTime = date.ordinal * dayMinutes + time
  previous : s.blocks ≠ [] ↔ s.previous.isSome

/-- The state after a late visit. -/
def DayState.stopped (s : DayState) (date : Day) (v : Visit) : DayState :=
  { s with cursor := s.cursor + 1, routes := s.routes.add v.transit
           currentTime := date.ordinal * dayMinutes + v.arrival }

/-- The state after a visit that a block shows. -/
def DayState.placed (s : DayState) (p : Planner) (currency : CurrencyCode) (date : Day) (v : Visit)
    (b : PlanTimeBlock) : DayState where
  cursor := s.cursor + 1
  routes := s.routes.add v.transit
  drawn := s.drawn + 1
  currentTime := date.ordinal * dayMinutes + p.leaves v
  previous := some v.candidate
  blocks := s.blocks ++ [b]
  dayMin := plus s.dayMin (price currency v.candidate).minAmount.value
  dayMax := plus s.dayMax (price currency v.candidate).maxAmount.value

theorem DayState.placed_at (s : DayState) (p : Planner) (currency : CurrencyCode) (date : Day) (v : Visit)
    (b : PlanTimeBlock) : (s.placed p currency date v b).At date (p.leaves v) :=
  ⟨rfl, by simp [DayState.placed]⟩

namespace Planner

section
variable {p : Planner} {timezone : Timezone} {currency : CurrencyCode} {rota : Rota} {dayIndex : ℕ}
  {date : Day} {remaining blockIndex time : ℕ} {s s' : DayState}

variable (p rota) in
/-- The visit that a state takes up. -/
def next (s : DayState) (time : ℕ) : Visit := p.visit s.routes.legs time s.previous (rota.pick s.cursor)

theorem arrive_eq (hs : s.At date time)
    (hcal : date.ordinal + p.leaves (p.next rota s time) / dayMinutes ≤ maxOrdinal) :
    p.arrive s (p.transit s (rota.pick s.cursor)) =
      .ok (date.ordinal * dayMinutes + (p.next rota s time).arrival) := by
  have harrival : (p.next rota s time).arrival =
      time + p.travel (p.transit s (rota.pick s.cursor)) := rfl
  rw [harrival]
  cases htransit : p.transit s (rota.pick s.cursor) with
  | none => simp [arrive, travel, hs.currentTime]
  | some leg =>
    refine (Moment.later_eq_ok _ _).2 ⟨?_, ?_⟩
    · rw [hs.currentTime, Nat.add_assoc, Moment.day_add_div]
      rw [htransit] at harrival
      refine (Nat.add_le_add_left (Nat.div_le_div_right ?_) _).trans hcal
      simp only [leaves, harrival, travel]
      omega
    · rw [hs.currentTime, Nat.add_assoc]
      rfl

theorem leave_eq_ok {v : Visit} {m : Moment} :
    Moment.later (date.ordinal * dayMinutes + v.arrival) (p.duration v.candidate) = .ok m ↔
      date.ordinal + p.leaves v / dayMinutes ≤ maxOrdinal ∧ date.ordinal * dayMinutes + p.leaves v = m := by
  rw [Moment.later_eq_ok, Nat.add_assoc, Moment.day_add_div]
  rfl

/-- The visit stays in the calendar if the loop's clock does. -/
theorem calendar_of_ok {a e : Moment} (hs : s.At date time)
    (ha : p.arrive s (p.transit s (rota.pick s.cursor)) = .ok a)
    (he : a.later (p.duration (rota.pick s.cursor)) = .ok e) :
    date.ordinal + p.leaves (p.next rota s time) / dayMinutes ≤ maxOrdinal := by
  have harrival : (p.next rota s time).arrival =
      time + p.travel (p.transit s (rota.pick s.cursor)) := rfl
  have ha : a = date.ordinal * dayMinutes + (p.next rota s time).arrival := by
    rw [harrival]
    cases htransit : p.transit s (rota.pick s.cursor) with
    | none =>
      rw [htransit, arrive, Except.ok.injEq] at ha
      rw [← ha, hs.currentTime]
      rfl
    | some leg =>
      rw [htransit] at ha
      obtain ⟨_, ha⟩ := (Moment.later_eq_ok _ _).1 ha
      rw [← ha, hs.currentTime, Nat.add_assoc]
      rfl
  subst ha
  exact (leave_eq_ok.1 he).1

theorem late_iff (hs : s.At date time) :
    s.blocks ≠ [] ∧ p.policy.dayEndHour ≤
        Moment.hour (date.ordinal * dayMinutes + p.leaves (p.next rota s time)) ↔
      p.late (p.next rota s time) = true := by
  have htransit : (p.next rota s time).transit.isSome = s.previous.isSome := by simp [next, visit]
  rw [Moment.hour_day_add, late, htransit, Bool.and_eq_true, decide_eq_true_iff, hs.previous]

/-- A late visit ends the day. -/
theorem placeBlocks_late (hs : s.At date time)
    (hcal : date.ordinal + p.leaves (p.next rota s time) / dayMinutes ≤ maxOrdinal)
    (hlate : p.late (p.next rota s time) = true) :
    p.placeBlocks timezone currency rota dayIndex date (remaining + 1) blockIndex s =
      .ok (s.stopped date (p.next rota s time)) := by
  rw [placeBlocks]
  simp only [arrive_eq hs hcal, ok_bind]
  have hleave := leave_eq_ok.2 ⟨hcal, rfl⟩
  rw [show rota.pick s.cursor = (p.next rota s time).candidate from rfl, hleave, ok_bind,
    if_pos ((late_iff hs).2 hlate)]
  rfl

/-- A visit that is not late is shown by a block, and the loop goes on. -/
theorem placeBlocks_place (remaining : ℕ) (hs : s.At date time) (hp : p.policy = {})
    (hzone : ∀ c ∈ rota.1, c.placeRef.timezone = timezone)
    (hid : isIdentifier (blockId dayIndex blockIndex (p.draws.item s.drawn)))
    (hfits : Fits p currency date (p.next rota s time)) (hlate : p.late (p.next rota s time) = false) :
    ∃ b, Shows p timezone currency date (p.next rota s time) b ∧
      b.blockId.1 = blockId dayIndex blockIndex (p.draws.item s.drawn) ∧
      p.placeBlocks timezone currency rota dayIndex date (remaining + 1) blockIndex s =
        p.placeBlocks timezone currency rota dayIndex date remaining (blockIndex + 1)
          (s.placed p currency date (p.next rota s time) b) := by
  obtain ⟨hcal, hup, hcur⟩ := hfits
  have hleave := leave_eq_ok.2 ⟨hcal, rfl⟩
  have hlate' : ¬ (s.blocks ≠ [] ∧ p.policy.dayEndHour ≤
      Moment.hour (date.ordinal * dayMinutes + p.leaves (p.next rota s time))) := by
    rw [late_iff hs, hlate]
    simp
  have hrange : ∀ a e : Moment, a.time = Moment.time (p.next rota s time).arrival →
      e.time = Moment.time (p.leaves (p.next rota s time)) →
      a.time.Comparable e.time ∧ a.time.utc < e.time.utc := by
    intro a e ha he
    rw [ha, he]
    exact ⟨rfl, (Moment.utc_time_lt _ _).2 (hup hlate)⟩
  have hblock : isIdentifier (blockId dayIndex blockIndex (p.draws.item s.drawn)) ∧
      (0 < p.duration (rota.pick s.cursor) ∧ p.duration (rota.pick s.cursor) ≤ 1440) ∧
      (rota.pick s.cursor).placeRef.timezone = timezone := by
    have := duration_bounds hp (rota.pick s.cursor)
    exact ⟨hid, ⟨this.1, by omega⟩, hzone _ (List.get_mem _ _)⟩
  have hstart := Moment.time_day_add date (p.next rota s time).arrival
  have hend := Moment.time_day_add date (p.leaves (p.next rota s time))
  rw [placeBlocks]
  simp only [arrive_eq hs hcal, ok_bind]
  rw [show rota.pick s.cursor = (p.next rota s time).candidate from rfl] at hblock ⊢
  rw [hleave, ok_bind, if_neg hlate', cost_eq, ok_bind, check_pos (hcur hlate), ok_bind]
  unfold zonedTimeRange planTimeBlock
  rw [check_pos (hrange _ _ hstart hend), ok_bind, check_pos hblock, ok_bind]
  refine ⟨_, ?_, ?_, rfl⟩
  · exact ⟨rfl, rfl, rfl, rfl, rfl, rfl, rfl, rfl, hstart, hend, rfl⟩
  · rfl

/-- Where the loop goes past a visit that is not late, a block shows it. -/
theorem placed_of_ok (hs : s.At date time) (hlate : p.late (p.next rota s time) = false)
    (h : p.placeBlocks timezone currency rota dayIndex date (remaining + 1) blockIndex s = .ok s') :
    ∃ b, Shows p timezone currency date (p.next rota s time) b ∧
      b.blockId.1 = blockId dayIndex blockIndex (p.draws.item s.drawn) ∧
      p.placeBlocks timezone currency rota dayIndex date remaining (blockIndex + 1)
        (s.placed p currency date (p.next rota s time) b) = .ok s' := by
  rw [placeBlocks] at h
  obtain ⟨a, ha, h⟩ := bind_eq_ok.1 h
  obtain ⟨e, he, h⟩ := bind_eq_ok.1 h
  have hcal := calendar_of_ok hs ha he
  rw [arrive_eq hs hcal, Except.ok.injEq] at ha
  subst ha
  obtain ⟨_, rfl⟩ := leave_eq_ok.1 he
  rw [if_neg (by rw [late_iff hs, hlate]; simp)] at h
  obtain ⟨c, hc, h⟩ := bind_eq_ok.1 h
  rw [cost_eq, Except.ok.injEq] at hc
  subst hc
  obtain ⟨_, hc, hrange⟩ := bind_eq_ok.1 h
  obtain ⟨-, rfl⟩ := check_eq_ok.1 hc
  obtain ⟨_, hr, hblock⟩ := bind_eq_ok.1 hrange
  obtain ⟨_, rfl⟩ := check_eq_ok.1 hr
  obtain ⟨_, hb, hrest⟩ := bind_eq_ok.1 hblock
  obtain ⟨_, rfl⟩ := check_eq_ok.1 hb
  refine ⟨_, ?_, rfl, hrest⟩
  have hstart := Moment.time_day_add date (p.next rota s time).arrival
  have hend := Moment.time_day_add date (p.leaves (p.next rota s time))
  exact ⟨rfl, rfl, rfl, rfl, rfl, rfl, rfl, rfl, hstart, hend, rfl⟩

/-- The loop goes on only past visits that fit. -/
theorem fits_of_ok (hs : s.At date time)
    (h : p.placeBlocks timezone currency rota dayIndex date (remaining + 1) blockIndex s = .ok s') :
    Fits p currency date (p.next rota s time) := by
  rw [placeBlocks] at h
  obtain ⟨a, ha, h⟩ := bind_eq_ok.1 h
  obtain ⟨e, he, h⟩ := bind_eq_ok.1 h
  have hcal := calendar_of_ok hs ha he
  rw [arrive_eq hs hcal, Except.ok.injEq] at ha
  subst ha
  obtain ⟨_, rfl⟩ := leave_eq_ok.1 he
  refine ⟨hcal, ?_, ?_⟩
  all_goals
    intro hlate
    rw [if_neg (by rw [late_iff hs, hlate]; simp)] at h
    obtain ⟨c, hc, h⟩ := bind_eq_ok.1 h
    rw [cost_eq, Except.ok.injEq] at hc
    subst hc
    obtain ⟨c, hc, h⟩ := bind_eq_ok.1 h
    obtain ⟨hcur, _⟩ := check_eq_ok.1 hc
    obtain ⟨r, hr, h⟩ := bind_eq_ok.1 h
    obtain ⟨⟨_, hlt⟩, _⟩ := check_eq_ok.1 hr
  · rw [Moment.time_day_add, Moment.time_day_add] at hlt
    exact (Moment.utc_time_lt _ _).1 hlt
  · exact hcur

end

end Planner

/-! ### The whole loop -/

/-- What a visit costs at least. -/
def minimum (currency : CurrencyCode) (v : Visit) : ℕ := (price currency v.candidate).minAmount.value

/-- What a visit costs at most. -/
def maximum (currency : CurrencyCode) (v : Visit) : ℕ := (price currency v.candidate).maxAmount.value

/-- What the loop leaves behind after the visits it took up. -/
structure Done (p : Planner) (timezone : Timezone) (currency : CurrencyCode) (dayIndex : ℕ) (date : Day)
    (blockIndex : ℕ) (s : DayState) (visits : List Visit) (s' : DayState) : Prop where
  cursor : s'.cursor = s.cursor + visits.length
  routes : s'.routes = (visits.map (·.transit)).foldl Routes.add s.routes
  dayMin : s'.dayMin = ((p.kept visits).map (minimum currency)).foldl plus s.dayMin
  dayMax : s'.dayMax = ((p.kept visits).map (maximum currency)).foldl plus s.dayMax
  shown : ∃ bs, s'.blocks = s.blocks ++ bs ∧
    List.Forall₂ (Shows p timezone currency date) (p.kept visits) bs ∧
    (bs.map (·.blockId)).Nodup ∧
    ∀ b ∈ bs, ∃ i token, blockIndex ≤ i ∧ b.blockId.1 = blockId dayIndex i token

theorem Routes.add_legs (r : Routes) (leg : Option TransitLeg) :
    (r.add leg).legs = r.legs + if leg.isSome then 1 else 0 := by
  cases leg <;> rfl

theorem Routes.foldl_add_legs (visits : List Visit) (r : Routes) :
    ((visits.map (·.transit)).foldl Routes.add r).legs = r.legs + visits.countP (·.transit.isSome) := by
  induction visits generalizing r with
  | nil => rfl
  | cons v vs ih =>
    rw [List.map_cons, List.foldl_cons, ih, Routes.add_legs, List.countP_cons]
    omega

namespace Planner

section
variable {p : Planner} {timezone : Timezone} {currency : CurrencyCode} {rota : Rota} {dayIndex : ℕ}
  {date : Day}

theorem attempts_succ (remaining time : ℕ) (s : DayState) :
    p.attempts rota (remaining + 1) s.routes.legs s.cursor time s.previous =
      p.next rota s time :: if p.late (p.next rota s time) then [] else
        p.attempts rota remaining (s.routes.add (p.next rota s time).transit).legs (s.cursor + 1)
          (p.leaves (p.next rota s time)) (some (p.next rota s time).candidate) := by
  rw [attempts, Routes.add_legs]
  have htransit : (p.next rota s time).transit.isSome = s.previous.isSome := by simp [next, visit]
  rw [htransit]
  rfl

/-- **A day's loop.**  What it returns shows the visits it took up, all of which fit. -/
theorem placeBlocks_ok {remaining blockIndex time : ℕ} {s s' : DayState} (hs : s.At date time)
    (h : p.placeBlocks timezone currency rota dayIndex date remaining blockIndex s = .ok s') :
    (∀ v ∈ p.attempts rota remaining s.routes.legs s.cursor time s.previous, Fits p currency date v) ∧
      Done p timezone currency dayIndex date blockIndex s
        (p.attempts rota remaining s.routes.legs s.cursor time s.previous) s' := by
  induction remaining generalizing blockIndex time s with
  | zero =>
    rw [placeBlocks, Except.ok.injEq] at h
    subst h
    refine ⟨by simp [attempts], rfl, rfl, rfl, rfl, [], ?_, ?_, ?_, ?_⟩ <;> simp [attempts, kept]
  | succ remaining ih =>
    have hfits := fits_of_ok hs h
    rw [attempts_succ]
    rcases hlate : p.late (p.next rota s time) with _ | _
    · -- a block shows the visit, and the rest is the loop from the next state
      obtain ⟨b, hshows, hb, h⟩ := placed_of_ok hs hlate h
      obtain ⟨hrest, hdone⟩ := ih (s.placed_at p currency date _ b) h
      have hkept (vs : List Visit) :
          p.kept (p.next rota s time :: vs) = p.next rota s time :: p.kept vs := by
        simp [kept, hlate]
      simp only [Bool.false_eq_true, if_false]
      refine ⟨List.forall_mem_cons.2 ⟨hfits, hrest⟩, ?_⟩
      obtain ⟨bs, hblocks, hall, hnodup, hids⟩ := hdone.shown
      constructor
      · rw [hdone.cursor, List.length_cons]
        simp only [DayState.placed]
        omega
      · rw [hdone.routes]
        rfl
      · rw [hdone.dayMin, hkept]
        rfl
      · rw [hdone.dayMax, hkept]
        rfl
      · refine ⟨b :: bs, ?_, ?_, ?_, ?_⟩
        · rw [hblocks]
          simp [DayState.placed]
        · rw [hkept]
          exact .cons hshows hall
        · refine List.nodup_cons.2 ⟨fun hmem => ?_, hnodup⟩
          obtain ⟨b', hb', heq⟩ := List.mem_map.1 hmem
          obtain ⟨i, token, hi, hid'⟩ := hids b' hb'
          rw [heq, hb] at hid'
          have := blockId_inj hid'
          omega
        · intro b' hb'
          rcases List.mem_cons.1 hb' with rfl | hb'
          · exact ⟨blockIndex, _, le_rfl, hb⟩
          · obtain ⟨i, token, hi, hid'⟩ := hids b' hb'
            exact ⟨i, token, by omega, hid'⟩
    · -- the visit is late, and the day ends
      rw [placeBlocks_late hs hfits.calendar hlate, Except.ok.injEq] at h
      subst h
      simp only [if_true]
      refine ⟨by simpa using hfits, ?_⟩
      have hkept : p.kept [p.next rota s time] = [] := by simp [kept, hlate]
      constructor
      · rfl
      · rfl
      · rw [hkept]
        rfl
      · rw [hkept]
        rfl
      · refine ⟨[], ?_, ?_, ?_, ?_⟩ <;> simp [DayState.stopped, hkept]

variable (hp : p.policy = {}) (hzone : ∀ c ∈ rota.1, c.placeRef.timezone = timezone)
  (hday : dayIndex < 10 ^ 9)
include hp hzone hday

/-- The loop returns if all visits that it takes up fit. -/
theorem placeBlocks_total {remaining blockIndex time : ℕ} {s : DayState}
    (hblock : blockIndex + remaining ≤ 10 ^ 9) (hs : s.At date time)
    (h : ∀ v ∈ p.attempts rota remaining s.routes.legs s.cursor time s.previous, Fits p currency date v) :
    ∃ s', p.placeBlocks timezone currency rota dayIndex date remaining blockIndex s = .ok s' := by
  induction remaining generalizing blockIndex time s with
  | zero => exact ⟨s, rfl⟩
  | succ remaining ih =>
    rw [attempts_succ, List.forall_mem_cons] at h
    obtain ⟨hfits, hrest⟩ := h
    rcases hlate : p.late (p.next rota s time) with _ | _
    · have hid : isIdentifier (blockId dayIndex blockIndex (p.draws.item s.drawn)) :=
        isIdentifier_blockId _ (by omega) (by omega)
      obtain ⟨b, _, _, heq⟩ := placeBlocks_place remaining hs hp hzone hid hfits hlate
      rw [heq]
      rw [hlate] at hrest
      simp only [Bool.false_eq_true, if_false] at hrest
      exact ih (by omega) (s.placed_at p currency date _ b) hrest
    · exact ⟨_, placeBlocks_late hs hfits.calendar hlate⟩

end
end Planner

/-! ## Sums of amounts -/

theorem plus_mono {a b c d : ℕ} (h : a ≤ b) (h' : c ≤ d) : plus a c ≤ plus b d :=
  Lib.Decimal.roundTo_mono (by decide) (by omega)

theorem foldl_plus_mono {α : Type} {f g : α → ℕ} {l : List α} (h : ∀ x ∈ l, f x ≤ g x) {a b : ℕ}
    (hab : a ≤ b) : (l.map f).foldl plus a ≤ (l.map g).foldl plus b := by
  induction l generalizing a b with
  | nil => exact hab
  | cons x l ih =>
    rw [List.forall_mem_cons] at h
    exact ih h.2 (plus_mono hab h.1)

theorem minimum_le_maximum (currency : CurrencyCode) (v : Visit) :
    minimum currency v ≤ maximum currency v := (price currency v.candidate).le

/-! ## Days -/

namespace Planner

variable (p : Planner) (currency : CurrencyCode)

/-- What the visits that a day shows cost at least. -/
def dayMin (visits : List Visit) : ℕ := total ((p.kept visits).map (minimum currency))

/-- What the visits that a day shows cost at most. -/
def dayMax (visits : List Visit) : ℕ := total ((p.kept visits).map (maximum currency))

theorem dayMin_le_dayMax (visits : List Visit) : p.dayMin currency visits ≤ p.dayMax currency visits :=
  foldl_plus_mono (fun v _ => minimum_le_maximum currency v) le_rfl

end Planner

/-- A day that the planner can show. -/
structure Fitting (p : Planner) (currency : CurrencyCode) (date : Day) (visits : List Visit) : Prop where
  fits : ∀ v ∈ visits, Fits p currency date v
  ordered : (p.kept visits).Pairwise fun v w => v.arrival % dayMinutes ≤ w.arrival % dayMinutes
  printable : Printable (p.dayMin currency visits) ∧ Printable (p.dayMax currency visits)

/-- A day of the plan shows the visits of a date. -/
structure ShowsDay (p : Planner) (timezone : Timezone) (currency : CurrencyCode) (day : Day × List Visit)
    (planDay : PlanDay) : Prop where
  date : planDay.date = day.1
  zoned : planDay.timezone = timezone
  priced : planDay.dailyCost.currency = currency
  dailyCost : IsMoney (p.dayMin currency day.2) (p.dayMax currency day.2) currency planDay.dailyCost
  blocks : List.Forall₂ (Shows p timezone currency day.1) (p.kept day.2) planDay.timeBlocks

namespace Planner

section
variable {p : Planner} {timezone : Timezone} {currency : CurrencyCode} {rota : Rota} {dayIndex : ℕ}
  {date : Day} {legs cursor : ℕ}

variable (rota) in
theorem blocksPerDay_bounds (hp : p.policy = {}) : 0 < p.blocksPerDay rota ∧ p.blocksPerDay rota ≤ 4 := by
  have := rota.length_pos
  unfold blocksPerDay
  rw [hp]
  simp only []
  omega

theorem attempts_length_le {remaining time : ℕ} {previous : Option Candidate} :
    (p.attempts rota remaining legs cursor time previous).length ≤ remaining := by
  induction remaining generalizing legs cursor time previous with
  | zero => simp [attempts]
  | succ remaining ih =>
    rw [attempts]
    split
    · simp
    · simpa using ih

variable (rota legs cursor) in
/-- A day begins with a visit that nothing leads to. -/
theorem day_eq_cons (hp : p.policy = {}) : ∃ v vs, p.day rota legs cursor = v :: vs ∧
    v.transit = none ∧ v.candidate = rota.pick cursor ∧ v.arrival = 540 ∧
    ∀ w ∈ vs, w.transit.isSome := by
  obtain ⟨hpos, _⟩ := blocksPerDay_bounds rota hp
  unfold day
  cases hb : p.blocksPerDay rota with
  | zero => omega
  | succ n =>
    refine ⟨_, _, rfl, rfl, rfl, by simp [visit, travel, hp], ?_⟩
    split
    · simp
    · exact attempts_transit_isSome rfl

theorem late_of_none {v : Visit} (h : v.transit = none) : p.late v = false := by simp [late, h]

theorem kept_day_ne_nil (hp : p.policy = {}) : p.kept (p.day rota legs cursor) ≠ [] := by
  obtain ⟨v, vs, hday, hnone, _⟩ := day_eq_cons rota legs cursor hp
  simp [hday, kept, late_of_none hnone]

/-- Every visit of a day but its first has a leg to it. -/
theorem day_countP :
    (p.day rota legs cursor).countP (·.transit.isSome) = (p.day rota legs cursor).length - 1 := by
  unfold day
  cases p.blocksPerDay rota with
  | zero => rfl
  | succ n =>
    have hsome : ∀ v ∈ (p.attempts rota (n + 1) legs cursor (p.policy.dayStartHour * 60) none).tail,
        v.transit.isSome := by
      rw [attempts, List.tail_cons]
      split
      · simp
      · exact attempts_transit_isSome rfl
    rw [attempts, List.tail_cons] at hsome
    rw [attempts, List.countP_cons_of_neg (by simp [visit]), List.countP_eq_length.2 hsome]
    simp

/-- Blocks that show visits are in the order of their visits' arrivals. -/
theorem ordered_iff {visits : List Visit} {blocks : List PlanTimeBlock}
    (h : List.Forall₂ (Shows p timezone currency date) visits blocks) :
    Ordered (blocks.map (·.timeRange.startLocalTime)) ↔
      visits.Pairwise fun v w => v.arrival % dayMinutes ≤ w.arrival % dayMinutes := by
  have hstarts : blocks.map (·.timeRange.startLocalTime) =
      visits.map fun v => Moment.time v.arrival := by
    induction h with
    | nil => rfl
    | cons hshows _ ih => rw [List.map_cons, List.map_cons, ih, hshows.start]
  rw [hstarts, Ordered, List.pairwise_map]
  refine ⟨fun h => h.imp fun hvw => ?_, fun h => h.imp fun hvw => ⟨rfl, ?_⟩⟩
  · exact (Moment.utc_time_le _ _).1 hvw.2
  · exact (Moment.utc_time_le _ _).2 hvw

theorem shows_left {visits : List Visit} {blocks : List PlanTimeBlock} {P : PlanTimeBlock → Prop}
    (h : List.Forall₂ (Shows p timezone currency date) visits blocks)
    (hP : ∀ v b, Shows p timezone currency date v b → P b) : ∀ b ∈ blocks, P b := by
  induction h with
  | nil => simp
  | cons hshows _ ih => exact List.forall_mem_cons.2 ⟨hP _ _ hshows, ih⟩

end
end Planner

/-! ## The loop over the dates -/

namespace Planner

section
variable {p : Planner} {timezone : Timezone} {currency : CurrencyCode} {rota : Rota} {dayIndex : ℕ}
  {date : Day}

variable (p timezone currency rota) in
/-- What the planner has after a day with these visits. -/
structure DayDone (s : PlanState) (date : Day) (visits : List Visit) (s' : PlanState) : Prop where
  cursor : s'.cursor = s.cursor + visits.length
  routes : s'.routes = (visits.map (·.transit)).foldl Routes.add s.routes
  totalMin : s'.totalMin = plus s.totalMin (p.dayMin currency visits)
  totalMax : s'.totalMax = plus s.totalMax (p.dayMax currency visits)
  days : ∃ planDay, s'.days = s.days ++ [planDay] ∧ ShowsDay p timezone currency (date, visits) planDay

theorem morning_at (s : PlanState) :
    (s.morning p.policy date).At date (p.policy.dayStartHour * 60) := ⟨rfl, by simp [PlanState.morning]⟩

theorem placeDay_ok {s s' : PlanState}
    (h : p.placeDay timezone currency rota dayIndex date s = .ok s') :
    Fitting p currency date (p.day rota s.routes.legs s.cursor) ∧
      DayDone p timezone currency s date (p.day rota s.routes.legs s.cursor) s' := by
  obtain ⟨day, hloop, h⟩ := bind_eq_ok.1 h
  obtain ⟨_, _, h⟩ := bind_eq_ok.1 h
  obtain ⟨dailyCost, hcost, h⟩ := bind_eq_ok.1 h
  obtain ⟨planDay, hplan, h⟩ := bind_eq_ok.1 h
  obtain ⟨hchecked, rfl⟩ := check_eq_ok.1 hplan
  obtain rfl := Except.ok.inj h
  obtain ⟨hfits, hdone⟩ := placeBlocks_ok (morning_at s) hloop
  obtain ⟨bs, hbs, hall, -, -⟩ := hdone.shown
  have hbs : day.blocks = bs := hbs
  subst hbs
  have hmin : day.dayMin = p.dayMin currency (p.day rota s.routes.legs s.cursor) := hdone.dayMin
  have hmax : day.dayMax = p.dayMax currency (p.day rota s.routes.legs s.cursor) := hdone.dayMax
  obtain ⟨hprintMin, hprintMax, hmoney⟩ := money_ok hcost
  rw [hmin] at hprintMin
  rw [hmax] at hprintMax
  rw [hmin, hmax] at hmoney
  constructor
  · exact ⟨hfits, (ordered_iff hall).1 hchecked.ordered, hprintMin, hprintMax⟩
  · constructor
    · exact hdone.cursor
    · exact hdone.routes
    · rw [← hmin]
    · rw [← hmax]
    · exact ⟨_, rfl, rfl, rfl, hmoney.currency, hmoney, hall⟩

/-- The next day's calls of the route service begin where this day's end. -/
theorem DayDone.legs {s s' : PlanState} {cursor : ℕ}
    (h : DayDone p timezone currency s date (p.day rota s.routes.legs cursor) s') :
    s'.routes.legs = s.routes.legs + ((p.day rota s.routes.legs cursor).length - 1) := by
  rw [h.routes, Routes.foldl_add_legs, day_countP]

variable (hp : p.policy = {}) (hzone : ∀ c ∈ rota.1, c.placeRef.timezone = timezone)
  (hday : dayIndex < 10 ^ 9)
include hp hzone hday

theorem placeDay_total {s : PlanState} (h : Fitting p currency date (p.day rota s.routes.legs s.cursor)) :
    ∃ s', p.placeDay timezone currency rota dayIndex date s = .ok s' := by
  have hblocks := (blocksPerDay_bounds rota hp).2
  have hplace : ∃ day, p.placeBlocks timezone currency rota dayIndex date (p.blocksPerDay rota) 0
      (s.morning p.policy date) = .ok day :=
    placeBlocks_total hp hzone hday (by omega) (morning_at s) h.fits
  obtain ⟨day, hloop⟩ := hplace
  obtain ⟨-, hdone⟩ := placeBlocks_ok (morning_at s) hloop
  obtain ⟨bs, hbs, hall, hnodup, -⟩ := hdone.shown
  have hbs : day.blocks = bs := hbs
  subst hbs
  have hmin : day.dayMin = p.dayMin currency (p.day rota s.routes.legs s.cursor) := hdone.dayMin
  have hmax : day.dayMax = p.dayMax currency (p.day rota s.routes.legs s.cursor) := hdone.dayMax
  have hlen : (p.kept (p.day rota s.routes.legs s.cursor)).length = day.blocks.length := hall.length_eq
  have hkept : p.kept (p.day rota s.routes.legs s.cursor) ≠ [] := kept_day_ne_nil hp
  have hne : day.blocks ≠ [] := by
    intro hnil
    rw [hnil, List.length_nil, List.length_eq_zero_iff] at hlen
    exact hkept hlen
  have hshort : (p.kept (p.day rota s.routes.legs s.cursor)).length ≤ 4 :=
    (List.length_filter_le _ _).trans (attempts_length_le.trans hblocks)
  have hchecked : PlanDay.Checked date timezone day.blocks := by
    constructor
    · have := List.length_pos_iff.2 hne
      omega
    · exact hnodup
    · exact shows_left hall fun v b hb => hb.localDate
    · exact shows_left hall fun v b hb => hb.timezone
    · exact (ordered_iff hall).2 h.ordered
  obtain ⟨hprintMin, hprintMax⟩ := h.printable
  obtain ⟨dailyCost, hcost⟩ := money_total currency (hmin ▸ hprintMin) (hmax ▸ hprintMax)
    (by rw [hmin, hmax]; exact p.dayMin_le_dayMax currency _)
  unfold placeDay planDay
  rw [hloop, ok_bind, check_pos hne, ok_bind, hcost, ok_bind, check_pos hchecked, ok_bind]
  exact ⟨_, rfl⟩

end

section
variable {p : Planner} {timezone : Timezone} {currency : CurrencyCode} {rota : Rota}

variable (p currency) in
/-- What the visits of the days cost at least. -/
def grandMin (schedule : List (Day × List Visit)) : ℕ := total (schedule.map fun d => p.dayMin currency d.2)

variable (p currency) in
/-- What the visits of the days cost at most. -/
def grandMax (schedule : List (Day × List Visit)) : ℕ := total (schedule.map fun d => p.dayMax currency d.2)

theorem grandMin_le_grandMax (schedule : List (Day × List Visit)) :
    p.grandMin currency schedule ≤ p.grandMax currency schedule :=
  foldl_plus_mono (fun d _ => p.dayMin_le_dayMax currency d.2) le_rfl

variable (p timezone currency) in
/-- What the planner has after days with these visits. -/
structure DaysDone (s : PlanState) (schedule : List (Day × List Visit)) (s' : PlanState) : Prop where
  routes : s'.routes = ((schedule.flatMap (·.2)).map (·.transit)).foldl Routes.add s.routes
  totalMin : s'.totalMin = (schedule.map fun d => p.dayMin currency d.2).foldl plus s.totalMin
  totalMax : s'.totalMax = (schedule.map fun d => p.dayMax currency d.2).foldl plus s.totalMax
  days : ∃ planDays, s'.days = s.days ++ planDays ∧
    List.Forall₂ (ShowsDay p timezone currency) schedule planDays

theorem placeDays_ok {dayIndex : ℕ} {ds : List Day} {s s' : PlanState}
    (h : p.placeDays timezone currency rota dayIndex ds s = .ok s') :
    (∀ d ∈ p.schedule rota ds s.routes.legs s.cursor, Fitting p currency d.1 d.2) ∧
      DaysDone p timezone currency s (p.schedule rota ds s.routes.legs s.cursor) s' := by
  induction ds generalizing dayIndex s with
  | nil =>
    rw [placeDays, Except.ok.injEq] at h
    subst h
    exact ⟨by simp [schedule], rfl, rfl, rfl, [], by simp, .nil⟩
  | cons date ds ih =>
    rw [placeDays] at h
    obtain ⟨s₁, hs₁, h⟩ := bind_eq_ok.1 h
    obtain ⟨hfitting, hdone⟩ := placeDay_ok hs₁
    obtain ⟨hrest, hdones⟩ := ih h
    rw [hdone.cursor, hdone.legs] at hrest hdones
    rw [schedule]
    refine ⟨List.forall_mem_cons.2 ⟨hfitting, hrest⟩, ?_⟩
    obtain ⟨planDay, hplanDay, hshows⟩ := hdone.days
    obtain ⟨planDays, hplanDays, hall⟩ := hdones.days
    constructor
    · rw [hdones.routes, hdone.routes, List.flatMap_cons, List.map_append, List.foldl_append]
    · rw [hdones.totalMin, hdone.totalMin]
      rfl
    · rw [hdones.totalMax, hdone.totalMax]
      rfl
    · exact ⟨planDay :: planDays, by rw [hplanDays, hplanDay]; simp, .cons hshows hall⟩

variable (hp : p.policy = {}) (hzone : ∀ c ∈ rota.1, c.placeRef.timezone = timezone)
include hp hzone

theorem placeDays_total {dayIndex : ℕ} {ds : List Day} {s : PlanState} (hday : dayIndex + ds.length ≤ 10 ^ 9)
    (h : ∀ d ∈ p.schedule rota ds s.routes.legs s.cursor, Fitting p currency d.1 d.2) :
    ∃ s', p.placeDays timezone currency rota dayIndex ds s = .ok s' := by
  induction ds generalizing dayIndex s with
  | nil => exact ⟨s, rfl⟩
  | cons date ds ih =>
    rw [List.length_cons] at hday
    rw [schedule, List.forall_mem_cons] at h
    obtain ⟨hfitting, hrest⟩ := h
    have hplace : ∃ s₁, p.placeDay timezone currency rota dayIndex date s = .ok s₁ :=
      placeDay_total hp hzone (by omega) hfitting
    obtain ⟨s₁, hs₁⟩ := hplace
    obtain ⟨-, hdone⟩ := placeDay_ok hs₁
    rw [placeDays, hs₁, ok_bind]
    refine ih (by omega) ?_
    rw [hdone.cursor, hdone.legs]
    exact hrest

end
end Planner

end RoutePilot.Planning
