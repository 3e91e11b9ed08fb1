/-
  The calendar: dates as days, and dates as ISO texts.

  A date that the constructor accepts is a day of the calendar (`Date.toDay`) and is
  read back from its text (`dateFromIsoformat_isoformat`).
-/
import Mathlib.Tactic.IntervalCases
import RoutePilot.Contracts.Common

namespace RoutePilot

open Contracts (maxOrdinal)

/-! ## The days of dates -/

/-- `_days_before_month`. -/
def daysBeforeMonth (y m : ℕ) : ℕ := ((List.range' 1 (m - 1)).map (daysInMonth y)).sum

/-- What the `date` constructor accepts. -/
def Date.Valid (d : Date) : Prop := mkDate d.year d.month d.day = some d

/-- `date.toordinal()`. -/
def Date.toordinal (d : Date) : ℕ := daysBeforeYear d.year + daysBeforeMonth d.year d.month + d.day

theorem mkDate_eq_some {y m d : ℕ} {date : Date} :
    mkDate y m d = some date ↔
      (1 ≤ y ∧ y ≤ 9999 ∧ 1 ≤ m ∧ m ≤ 12 ∧ 1 ≤ d ∧ d ≤ daysInMonth y m) ∧ date = ⟨y, m, d⟩ := by
  unfold mkDate
  split
  · next h => simp [h, eq_comm]
  · next h => simp [h]

theorem Date.Valid.ranges {d : Date} (h : d.Valid) :
    1 ≤ d.year ∧ d.year ≤ 9999 ∧ 1 ≤ d.month ∧ d.month ≤ 12 ∧ 1 ≤ d.day ∧
      d.day ≤ daysInMonth d.year d.month := (mkDate_eq_some.1 h).1

theorem valid_of_mkDate {y m d : ℕ} {date : Date} (h : mkDate y m d = some date) : date.Valid := by
  obtain ⟨hranges, rfl⟩ := mkDate_eq_some.1 h
  exact mkDate_eq_some.2 ⟨hranges, rfl⟩

/-- No month ends after its year. -/
theorem daysBeforeMonth_add_le (y : ℕ) {m : ℕ} (h1 : 1 ≤ m) (h12 : m ≤ 12) :
    daysBeforeMonth y m + daysInMonth y m ≤ 365 + (isLeap y).toNat := by
  cases hleap : isLeap y <;> interval_cases m <;> simp [daysBeforeMonth, daysInMonth, List.range', hleap]

theorem Date.Valid.toordinal_bounds {d : Date} (h : d.Valid) :
    1 ≤ d.toordinal ∧ d.toordinal ≤ maxOrdinal := by
  obtain ⟨hy, hy', hm, hm', hd, hd'⟩ := h.ranges
  have hyear := daysBeforeMonth_add_le d.year hm hm'
  refine ⟨by unfold toordinal; omega, ?_⟩
  unfold toordinal
  obtain hlast | hearlier := Nat.eq_or_lt_of_le hy'
  · rw [hlast] at hyear hd' ⊢
    have hleap : (isLeap 9999).toNat = 0 := by decide
    have hbefore : daysBeforeYear 9999 = 3_651_694 := by decide
    have hmax : maxOrdinal = 3_652_059 := rfl
    omega
  · have hleap := Bool.toNat_le (isLeap d.year)
    have hbefore : daysBeforeYear d.year + 366 ≤ maxOrdinal := by
      unfold daysBeforeYear maxOrdinal
      omega
    omega

/-- The day of a date. -/
def Date.toDay (d : Date) (h : d.Valid) : Contracts.Day :=
  ⟨d.toordinal, h.toordinal_bounds.1, h.toordinal_bounds.2⟩

/-! ## ISO dates -/

theorem padNat_toList (w n : ℕ) : (padNat w n).toList = Lib.Decimal.padded w n := by
  simp [padNat, Lib.Decimal.padded, ← String.length_toList]

/-- A padded number is read back from its digits. -/
theorem parseDigits_append (rest : List Char) :
    ∀ {ds : List Char} {acc : ℕ}, (∀ c ∈ ds, c.isDigit) →
      parseDigits ds.length acc (ds ++ rest) = some (Nat.ofDigitChars 10 ds acc, rest)
  | [], acc, _ => rfl
  | c :: ds, acc, h => by
    have hc : '0' ≤ c ∧ c ≤ '9' := by
      have := h c List.mem_cons_self
      simpa [Char.isDigit, Char.le_def] using this
    rw [List.length_cons, List.cons_append, parseDigits, if_pos hc,
      parseDigits_append rest fun d hd => h d (List.mem_cons_of_mem _ hd)]
    simp [Nat.ofDigitChars_cons, Nat.mul_comm]

theorem parseDigits_padNat {w n : ℕ} (rest : List Char) (hw : 0 < w) (h : n < 10 ^ w) :
    parseDigits w 0 ((padNat w n).toList ++ rest) = some (n, rest) := by
  have hread := @parseDigits_append rest _ 0 fun c hc => Lib.Decimal.isDigit_padded (s := w) (n := n) hc
  rw [Lib.Decimal.padded_length hw h, Lib.Decimal.value_padded] at hread
  rw [padNat_toList, hread]

theorem isoformat_toList (d : Date) : d.isoformat.toList =
    (padNat 4 d.year).toList ++ '-' :: ((padNat 2 d.month).toList ++ '-' :: (padNat 2 d.day).toList) := by
  simp [Date.isoformat, String.toList_append]

/-- A digit is one byte. -/
theorem utf8ByteSize_ofList_digits {ds : List Char} (h : ∀ c ∈ ds, c.isDigit) :
    (String.ofList ds).utf8ByteSize = ds.length := by
  induction ds with
  | nil => rfl
  | cons c ds ih =>
    have hc : c.utf8Size = 1 := by
      have := h c List.mem_cons_self
      simp only [Char.isDigit, Bool.and_eq_true, decide_eq_true_eq] at this
      exact Char.utf8Size_eq_one_iff.2 (UInt32.le_trans this.2 (by decide))
    rw [String.ofList_cons, String.utf8ByteSize_append, String.utf8ByteSize_singleton, hc,
      ih fun d hd => h d (List.mem_cons_of_mem _ hd), List.length_cons, Nat.add_comm]

theorem utf8ByteSize_padNat {w n : ℕ} (hw : 0 < w) (h : n < 10 ^ w) : (padNat w n).utf8ByteSize = w := by
  have hbytes := utf8ByteSize_ofList_digits fun c hc => Lib.Decimal.isDigit_padded (s := w) (n := n) hc
  rwa [Lib.Decimal.padded_length hw h, ← padNat_toList, String.ofList_toList] at hbytes

/-- A date is read back from its ISO text. -/
theorem dateFromIsoformat_isoformat {d : Date} (h : d.Valid) : dateFromIsoformat d.isoformat = some d := by
  obtain ⟨hy, hy', hm, hm', hd, hd'⟩ := h.ranges
  have hday : d.day ≤ 31 := hd'.trans (by unfold daysInMonth; split_ifs <;> decide)
  have hsize : d.isoformat.utf8ByteSize = 10 := by
    simp only [Date.isoformat, String.utf8ByteSize_append]
    rw [utf8ByteSize_padNat (by decide) (by omega), utf8ByteSize_padNat (by decide) (by omega),
      utf8ByteSize_padNat (by decide) (by omega)]
    decide
  have hyear := fun rest => parseDigits_padNat (w := 4) (n := d.year) rest (by decide) (by omega)
  have hmonth := fun rest => parseDigits_padNat (w := 2) (n := d.month) rest (by decide) (by omega)
  have hdays := parseDigits_padNat (w := 2) (n := d.day) [] (by decide) (by omega)
  rw [List.append_nil] at hdays
  -- a month begins with a digit, so the date is no week date
  have hweek : ∀ rest, (((padNat 2 d.month).toList ++ rest).head? == some 'W') = false := by
    intro rest
    rw [padNat_toList]
    have hlen : (Lib.Decimal.padded 2 d.month).length = 2 := Lib.Decimal.padded_length (by decide) (by omega)
    cases hp : Lib.Decimal.padded 2 d.month with
    | nil => rw [hp] at hlen; cases hlen
    | cons c ds =>
      have hc := Lib.Decimal.isDigit_padded (hp ▸ List.mem_cons_self : c ∈ Lib.Decimal.padded 2 d.month)
      simp only [List.cons_append, List.head?_cons, beq_eq_false_iff_ne, ne_eq, Option.some.injEq]
      rintro rfl
      cases hc
  unfold dateFromIsoformat
  rw [isoformat_toList]
  simp only [hsize, hyear, hmonth, hdays, hweek, skipSep, guard, Option.bind_eq_bind, Option.bind_some,
    Option.pure_def, List.head?_cons, List.tail_cons, beq_self_eq_true, or_true, if_true,
    Bool.false_eq_true, if_false]
  exact h

theorem valid_of_isoToDate {y week day : ℕ} {d : Date} (h : isoToDate y week day = some d) : d.Valid := by
  unfold isoToDate at h
  simp only at h
  split at h
  · cases h
  · exact valid_of_mkDate h

/-- A date that is read is one of the calendar. -/
theorem valid_of_dateFromIsoformat {s : String} {d : Date} (h : dateFromIsoformat s = some d) : d.Valid := by
  unfold dateFromIsoformat at h
  simp only [Option.bind_eq_bind, Option.bind_eq_some_iff] at h
  obtain ⟨-, -, year, -, h⟩ := h
  generalize (if (year.2.head? == some '-') = true then year.2.tail else year.2) = cs at h
  split at h
  · obtain ⟨week, -, h⟩ := Option.bind_eq_some_iff.1 h
    split at h
    · exact valid_of_isoToDate h
    · obtain ⟨rest, -, h⟩ := Option.bind_eq_some_iff.1 h
      obtain ⟨weekday, -, h⟩ := Option.bind_eq_some_iff.1 h
      exact valid_of_isoToDate h
  · obtain ⟨month, -, h⟩ := Option.bind_eq_some_iff.1 h
    obtain ⟨rest, -, h⟩ := Option.bind_eq_some_iff.1 h
    obtain ⟨day, -, h⟩ := Option.bind_eq_some_iff.1 h
    exact valid_of_mkDate h

end RoutePilot
