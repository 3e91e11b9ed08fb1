/-
  Budgets of the trip form (`compareDecimal` in `travel-constraints.ts`).

  The form compares the whole parts by their lengths and their digits, and the fractions
  after zeros are put behind them.  On the texts that it accepts this is the order of the
  numbers, so the server finds the same order.
-/
import RoutePilot.Intake.Request
import RoutePilot.Lib.DecimalOrder
import RoutePilot.Web.TripForm

namespace RoutePilot.Web

open Lib Contracts
open Lib.Decimal (isNumeral parse whole rest)
open Nat (ofDigitChars)
open Planning (strip)

/-! ## Comparison -/

/-- Digits of one length compare as the numbers they denote. -/
theorem localeCompare_eq {cs ds : List Char} (hcs : ∀ c ∈ cs, c.isDigit) (hds : ∀ d ∈ ds, d.isDigit)
    (hlen : cs.length = ds.length) : localeCompare cs ds = compare (ofDigitChars 10 cs 0) (ofDigitChars 10 ds 0) := by
  induction cs generalizing ds with
  | nil =>
    rw [List.eq_nil_of_length_eq_zero hlen.symm, localeCompare, compare_eq_iff_eq.2 rfl]
  | cons c cs ih =>
    cases ds with
    | nil => cases hlen
    | cons d ds =>
      rw [List.forall_mem_cons] at hcs hds
      rw [List.length_cons, List.length_cons, Nat.succ_inj] at hlen
      rw [Decimal.compare_cons hcs.1 hds.1 hcs.2 hds.2 hlen, localeCompare, ih hcs.2 hds.2 hlen]
      rcases lt_trichotomy c.toNat d.toNat with h | h | h
      · rw [if_pos h, compare_lt_iff_lt.2 h, Ordering.lt_then]
      · rw [if_neg (by omega), if_neg (by omega), compare_eq_iff_eq.2 h, Ordering.eq_then]
      · rw [if_neg (by omega), if_pos h, compare_gt_iff_gt.2 h, Ordering.gt_then]

section
variable {l r : List Char}

theorem ne_point_of_isDigit {c : Char} (h : c.isDigit) : (c ≠ '.') := by
  rintro rfl
  cases h

theorem takeWhile_digits {ds : List Char} (h : ∀ c ∈ ds, c.isDigit) : ds.takeWhile (· ≠ '.') = ds :=
  List.takeWhile_eq_self_iff.2 fun c hc => decide_eq_true (ne_point_of_isDigit (h c hc))

/-- The parts of a numeral at its point. -/
theorem parts_of_isNumeral (h : isNumeral 4 l) : integerPart l = whole l ∧ fractionPart l = (rest l).tail := by
  have hdigits : ∀ c ∈ whole l, decide (c ≠ '.') = true := fun c hc =>
    decide_eq_true (ne_point_of_isDigit (Decimal.isDigit_of_mem_whole l c hc))
  have hl := Decimal.whole_append_rest l
  obtain hrest | ⟨ds, hrest, -, hds⟩ := Decimal.rest_cases h
  · rw [hrest, List.append_nil] at hl
    rw [hl] at hdigits
    rw [integerPart, fractionPart, hrest, hl, List.takeWhile_eq_self_iff.2 hdigits, List.dropWhile_eq_nil_iff.2 hdigits]
    exact ⟨rfl, rfl⟩
  · rw [hrest] at hl ⊢
    conv => lhs; lhs; rw [← hl]
    conv => rhs; lhs; rw [← hl]
    rw [integerPart, fractionPart, List.takeWhile_append_of_pos hdigits, List.dropWhile_append_of_pos hdigits]
    refine ⟨?_, ?_⟩
    · rw [List.takeWhile_cons_of_neg (by decide), List.append_nil]
    · rw [List.dropWhile_cons_of_neg (by decide)]
      exact takeWhile_digits hds

theorem ofDigitChars_padEnd4 (ds : List Char) :
    ofDigitChars 10 (padEnd4 ds) 0 = ofDigitChars 10 ds 0 * 10 ^ (4 - ds.length) := by
  rw [padEnd4, Nat.ofDigitChars_append, Nat.ofDigitChars_replicate_zero, Nat.mul_comm]

theorem length_padEnd4 {ds : List Char} (h : ds.length ≤ 4) : (padEnd4 ds).length = 4 := by
  rw [padEnd4, List.length_append, List.length_replicate]
  omega

theorem isDigit_padEnd4 {ds : List Char} (h : ∀ c ∈ ds, c.isDigit) : ∀ c ∈ padEnd4 ds, c.isDigit := by
  intro c hc
  rcases List.mem_append.1 hc with hc | hc
  · exact h c hc
  · rw [List.eq_of_mem_replicate hc]
    rfl

end

/-- **The form's comparison is that of the numbers**, in ten-thousandths. -/
theorem compareDecimal_eq {left right : String} (hl : isNumeral 4 left.toList) (hr : isNumeral 4 right.toList) :
    compareDecimal left right = compare (parse 4 left.toList) (parse 4 right.toList) := by
  obtain ⟨hli, hlf⟩ := parts_of_isNumeral hl
  obtain ⟨hri, hrf⟩ := parts_of_isNumeral hr
  obtain ⟨hllen, hldigits⟩ := Decimal.tail_rest hl
  obtain ⟨hrlen, hrdigits⟩ := Decimal.tail_rest hr
  have hlw := Decimal.isDigit_of_mem_whole left.toList
  have hrw := Decimal.isDigit_of_mem_whole right.toList
  have hfraction : ∀ {ds : List Char}, ds.length ≤ 4 → (∀ c ∈ ds, c.isDigit) →
      ofDigitChars 10 ds 0 * 10 ^ (4 - ds.length) < 10 ^ 4 := fun hlen hds => by
    have hlt := Decimal.ofDigitChars_lt (isDigit_padEnd4 hds)
    rwa [ofDigitChars_padEnd4, length_padEnd4 hlen] at hlt
  have hnumber : compare (parse 4 left.toList) (parse 4 right.toList) =
      (compare (ofDigitChars 10 (whole left.toList) 0) (ofDigitChars 10 (whole right.toList) 0)).then
        (localeCompare (padEnd4 (rest left.toList).tail) (padEnd4 (rest right.toList).tail)) := by
    rw [parse, parse, Decimal.compare_mul_add (hfraction hllen hldigits) (hfraction hrlen hrdigits),
      localeCompare_eq (isDigit_padEnd4 hldigits) (isDigit_padEnd4 hrdigits)
        ((length_padEnd4 hllen).trans (length_padEnd4 hrlen).symm),
      ofDigitChars_padEnd4, ofDigitChars_padEnd4]
  have hwhole : ∀ {l : List Char}, isNumeral 4 l → Decimal.isWhole (whole l) := fun h => (Bool.and_eq_true_iff.1 h).1
  have hne : ∀ {l : List Char}, isNumeral 4 l → whole l ≠ [] := fun {l} h hnil => by
    have := hwhole h
    rw [hnil] at this
    cases this
  rw [hnumber, compareDecimal]
  simp only [hli, hri, hlf, hrf]
  by_cases hlen : (whole left.toList).length = (whole right.toList).length
  · rw [if_neg (not_not.2 hlen), localeCompare_eq hlw hrw hlen]
    cases compare (ofDigitChars 10 (whole left.toList) 0) (ofDigitChars 10 (whole right.toList) 0) <;> rfl
  · -- the longer whole part is the greater
    rw [if_pos hlen]
    rcases Nat.lt_or_gt_of_ne hlen with hlt | hlt
    · rw [if_neg (by omega), compare_lt_iff_lt.2
        (Decimal.ofDigitChars_lt_of_length_lt hlw (hne hl) hrw (hwhole hr) hlt), Ordering.lt_then]
    · rw [if_pos hlt, compare_gt_iff_gt.2
        (Decimal.ofDigitChars_lt_of_length_lt hrw (hne hr) hlw (hwhole hl) hlt), Ordering.gt_then]

/-! ## Budgets -/

theorem errorIf_eq_nil {c : Bool} {field message : String} : errorIf c field message = [] ↔ c = false := by
  cases c <;> simp [errorIf]

theorem length_le_jsLength (s : String) : s.length ≤ jsLength s := by
  have hle := List.length_le_sum_of_one_le (s.toList.map fun c => if c.toNat < 0x10000 then 1 else 2) fun n hn => by
    obtain ⟨c, -, rfl⟩ := List.mem_map.1 hn
    split <;> decide
  rwa [List.length_map, String.length_toList] at hle

theorem isDecimalAmount_of_isBudget {s : String} (h : isBudget s) : isDecimalAmount s := by
  rw [isBudget, Bool.and_eq_true, decide_eq_true_eq] at h
  rw [isDecimalAmount, Bool.and_eq_true, decide_eq_true_eq]
  exact ⟨h.2, (length_le_jsLength s).trans h.1⟩

theorem isWhitespace_of_isDigit {c : Char} (h : c.isDigit) : isWhitespace c = false :=
  isWhitespace_of_isIdentifierChar (by simp [isIdentifierChar, h])

/-- An amount has no white space to strip. -/
theorem strip_of_isDecimalAmount {s : String} (h : isDecimalAmount s) : strip s = s := by
  rw [isDecimalAmount, Bool.and_eq_true] at h
  have hchars : ∀ c ∈ s.toList, isWhitespace c = false := by
    intro c hc
    rw [← Decimal.whole_append_rest s.toList, List.mem_append] at hc
    rcases hc with hc | hc
    · exact isWhitespace_of_isDigit (Decimal.isDigit_of_mem_whole _ c hc)
    · obtain hrest | ⟨ds, hrest, -, hds⟩ := Decimal.rest_cases h.1
      · rw [hrest] at hc
        cases hc
      · rw [hrest, List.mem_cons] at hc
        rcases hc with rfl | hc
        · decide
        · exact isWhitespace_of_isDigit (hds c hc)
  exact strip_eq_self (isStripped_of_forall hchars)

/-- The server reads a budget of the form as it is. -/
theorem patterned_amount (loc : String) (amount : DecimalAmount) :
    Intake.patterned loc 32 isDecimalAmount (.str amount.1) = .ok amount := by
  have hstrip := strip_of_isDecimalAmount amount.2
  rw [Intake.patterned, dif_pos (by rw [hstrip]; exact amount.2)]
  exact congrArg _ (Subtype.ext hstrip)

section
variable {upper : String → String} {draft : TravelConstraintDraft} {today : String} {request : TripRequestInput}

/-- What the form makes a request of. -/
theorem buildTripRequest_eq_ok (h : buildTripRequest upper draft today = .ok request) :
    draftErrors upper draft today = [] ∧ validateTraveler draft.adults = some request.adults ∧
      validateTraveler draft.seniors = some request.seniors ∧
      request = { destination := jsTrim draft.destination, startDate := draft.startDate, endDate := draft.endDate
                  adults := request.adults, seniors := request.seniors, budgetMin := jsTrim draft.budgetMin
                  budgetMax := jsTrim draft.budgetMax, currency := upper (jsTrim draft.currency)
                  preferences := parseTextList draft.preferences
                  accessibilityNeeds := parseTextList draft.accessibilityNeeds } := by
  unfold buildTripRequest at h
  split at h
  · next adults seniors herrors hadults hseniors =>
    cases h
    exact ⟨herrors, hadults, hseniors, rfl⟩
  · cases h

/-- The budget of a request that the form makes. -/
theorem budget_of_buildTripRequest (h : buildTripRequest upper draft today = .ok request) :
    isBudget request.budgetMin ∧ isBudget request.budgetMax ∧
      compareDecimal request.budgetMin request.budgetMax ≠ .gt := by
  obtain ⟨herrors, -, -, hrequest⟩ := buildTripRequest_eq_ok h
  have hmin : request.budgetMin = jsTrim draft.budgetMin := by rw [hrequest]
  have hmax : request.budgetMax = jsTrim draft.budgetMax := by rw [hrequest]
  simp only [draftErrors, List.append_eq_nil_iff] at herrors
  have hbudget := herrors.1.1.1.2
  simp only [budgetErrors, List.append_eq_nil_iff, errorIf_eq_nil] at hbudget
  rw [hmin, hmax]
  obtain ⟨⟨hmin', hmax'⟩, horder⟩ := hbudget
  rw [Bool.not_eq_false'] at hmin' hmax'
  rw [hmin', hmax', Bool.and_self, Bool.true_and, beq_eq_false_iff_ne] at horder
  exact ⟨hmin', hmax', horder⟩

end

/-- A request whose amounts are in order has no error of its budget. -/
theorem validateRequest_ne_budget {fields : Intake.TripFields} (h : fields.budgetMin.value ≤ fields.budgetMax.value) :
    Intake.validateRequest fields ≠ .error [⟨[], "budget_min cannot exceed budget_max"⟩] := by
  unfold Intake.validateRequest
  by_cases hordered : fields.startDate.ordinal ≤ fields.endDate.ordinal
  · rw [dif_pos hordered]
    by_cases hwindow : fields.endDate.ordinal - fields.startDate.ordinal ≤ 30
    · rw [dif_pos hwindow]
      by_cases htraveler : 1 ≤ fields.adults.1 + fields.seniors.1 + fields.childrenAges.1.length
      · rw [dif_pos htraveler, dif_pos h]
        intro hbad
        cases hbad
      · rw [dif_neg htraveler]
        simp
    · rw [dif_neg hwindow]
      simp
  · rw [dif_neg hordered]
    simp

/-- **Decimal comparison.**  The form compares numerals as numbers, and a budget that it accepts passes the
    server's checks of the minimum and the maximum. -/
theorem compareDecimal_is_numeric :
    (∀ left right : String, isNumeral 4 left.toList → isNumeral 4 right.toList →
      (compareDecimal left right = .lt ↔ Decimal.number left.toList < Decimal.number right.toList) ∧
      (compareDecimal left right = .eq ↔ Decimal.number left.toList = Decimal.number right.toList) ∧
      (compareDecimal left right = .gt ↔ Decimal.number left.toList > Decimal.number right.toList)) ∧
    ∀ upper draft today request, buildTripRequest upper draft today = .ok request →
      ∃ minAmount maxAmount : DecimalAmount,
        Intake.patterned "budget_min" 32 isDecimalAmount (.str request.budgetMin) = .ok minAmount ∧
        Intake.patterned "budget_max" 32 isDecimalAmount (.str request.budgetMax) = .ok maxAmount ∧
        Decimal.number minAmount.1.toList ≤ Decimal.number maxAmount.1.toList ∧
        (∀ fields : Intake.TripFields, fields.budgetMin = minAmount → fields.budgetMax = maxAmount →
          Intake.validateRequest fields ≠ .error [⟨[], "budget_min cannot exceed budget_max"⟩]) ∧
        ∀ currency basis, ∃ range, moneyRange minAmount maxAmount currency basis = .ok range := by
  constructor
  · intro left right hl hr
    rw [compareDecimal_eq hl hr, compare_lt_iff_lt, compare_eq_iff_eq, compare_gt_iff_gt]
    have heq : parse 4 left.toList = parse 4 right.toList ↔
      Decimal.number left.toList = Decimal.number right.toList := by
      rw [← Nat.cast_inj (R := ℚ), Decimal.parse_eq_number hl, Decimal.parse_eq_number hr,
        mul_left_inj' (pow_ne_zero 4 (by norm_num))]
    exact ⟨Decimal.parse_lt_iff hl hr, heq, Decimal.parse_lt_iff hr hl⟩
  · intro upper draft today request h
    obtain ⟨hmin, hmax, horder⟩ := budget_of_buildTripRequest h
    have hminAmount := isDecimalAmount_of_isBudget hmin
    have hmaxAmount := isDecimalAmount_of_isBudget hmax
    have hnumeral : ∀ {s : String}, isDecimalAmount s → isNumeral 4 s.toList := fun h => (Bool.and_eq_true_iff.1 h).1
    rw [compareDecimal_eq (hnumeral hminAmount) (hnumeral hmaxAmount), Ne, compare_gt_iff_gt, not_lt] at horder
    refine ⟨⟨_, hminAmount⟩, ⟨_, hmaxAmount⟩, patterned_amount _ ⟨_, hminAmount⟩,
      patterned_amount _ ⟨_, hmaxAmount⟩, ?_, fun fields hfmin hfmax => ?_, fun currency basis => ⟨_, check_pos horder⟩⟩
    · rw [← not_lt, ← Decimal.parse_lt_iff (hnumeral hmaxAmount) (hnumeral hminAmount), not_lt]
      exact horder
    · refine validateRequest_ne_budget ?_
      rw [hfmin, hfmax]
      exact horder

/-- Half a unit apart, and with a longer whole part in the greater budget. -/
def cheapDraft : TravelConstraintDraft where
  destination := "北京"
  startDate := "2026-08-01"
  endDate := "2026-08-03"
  adults := "2"
  seniors := "0"
  budgetMin := "9.5"
  budgetMax := " 10 "
  currency := "CNY"
  preferences := ""
  accessibilityNeeds := ""

theorem compareDecimal_is_numeric_cheap :
    (compareDecimal "9.5" "10" = .lt ↔ Decimal.number "9.5".toList < Decimal.number "10".toList) ∧
    ∃ request, buildTripRequest id cheapDraft "2026-07-01" = .ok request ∧ ∃ minAmount maxAmount : DecimalAmount,
      Decimal.number minAmount.1.toList ≤ Decimal.number maxAmount.1.toList ∧
      ∀ currency basis, ∃ range, moneyRange minAmount maxAmount currency basis = .ok range := by
  obtain ⟨request, hrequest, -⟩ := exists_ok (x := buildTripRequest id cheapDraft "2026-07-01") (P := fun _ => True)
    (by decide +kernel)
  obtain ⟨minAmount, maxAmount, -, -, hle, -, hrange⟩ := compareDecimal_is_numeric.2 _ _ _ _ hrequest
  exact ⟨(compareDecimal_is_numeric.1 "9.5" "10" (by decide +kernel) (by decide +kernel)).1,
    request, hrequest, minAmount, maxAmount, hle, hrange⟩

end RoutePilot.Web
