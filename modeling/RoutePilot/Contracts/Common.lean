/-
  The shared value objects of the contracts (`routepilot_contracts/common.py`).

  A contract model checks what it is built from, so a value of it is a
  structure (or subtype) that carries the checked facts.  Provenance, the times
  of observation and coordinates stand in `Contracts/Sources`.  A timezone is a
  name that `zoneinfo` accepted when the value entered the system; names are
  only copied and compared.
-/
import Mathlib.Algebra.GroupWithZero.Nat
import RoutePilot.Lib.Decimal
import RoutePilot.Lib.EState
import RoutePilot.Model.RunInput

namespace RoutePilot.Contracts

open Lib

/-- What Python raises here: a `ValueError` of the code, the `ValidationError` of a contract model,
    a comparison of unlike values, or a date beyond the calendar. -/
inductive PyError where
  | valueError (message : String)
  | validationError (model : String)
  | typeError
  | overflowError
  deriving DecidableEq, Repr

/-! ## Text -/

/-- The white space that a contract strips (`str_strip_whitespace`). -/
def isWhitespace (c : Char) : Bool :=
  let n := c.toNat
  (9 ≤ n && n ≤ 13) || n == 0x20 || n == 0x85 || n == 0xA0 || n == 0x1680 ||
    (0x2000 ≤ n && n ≤ 0x200A) || n == 0x2028 || n == 0x2029 || n == 0x202F || n == 0x205F ||
    n == 0x3000

/-- Neither end is white space. -/
def isStripped (l : List Char) : Bool :=
  l.head?.all (!isWhitespace ·) && l.getLast?.all (!isWhitespace ·)

/-- A text as a contract leaves it: stripped, and of a bounded length. -/
def IsText (minLength maxLength : ℕ) (s : String) : Prop :=
  isStripped s.toList ∧ minLength ≤ s.length ∧ s.length ≤ maxLength

instance (minLength maxLength : ℕ) (s : String) : Decidable (IsText minLength maxLength s) :=
  inferInstanceAs (Decidable (_ ∧ _ ∧ _))

abbrev NonEmptyText := { s : String // IsText 1 2000 s }

abbrev ShortText := { s : String // IsText 1 256 s }

def isIdentifierChar (c : Char) : Bool := c.isLower || c.isDigit || c == '_' || c == ':' || c == '-'

/-- `^[a-z][a-z0-9_:-]{2,127}$`. -/
def isIdentifier (s : String) : Bool :=
  s.toList.head?.any Char.isLower && s.toList.all isIdentifierChar && 3 ≤ s.length && s.length ≤ 128

abbrev Identifier := { s : String // isIdentifier s }

instance : LawfulBEq Identifier := inferInstance

theorem isText_of_ends {s : String} {max : ℕ} (first last : Char) (middle : List Char)
    (hs : s.toList = first :: (middle ++ [last])) (hfirst : isWhitespace first = false)
    (hlast : isWhitespace last = false) (hlen : s.length ≤ max) : IsText 1 max s := by
  refine ⟨?_, ?_, hlen⟩
  · rw [hs, isStripped, ← List.cons_append, List.getLast?_concat]
    simp [hfirst, hlast]
  · rw [← String.length_toList, hs]
    simp

theorem isWhitespace_of_isIdentifierChar {c : Char} (h : isIdentifierChar c) : isWhitespace c = false := by
  have hc : 45 ≤ c.toNat ∧ c.toNat ≤ 122 := by
    simp only [isIdentifierChar, Char.isDigit, Bool.or_eq_true, Bool.and_eq_true,
      decide_eq_true_eq, beq_iff_eq, ge_iff_le, UInt32.le_iff_toNat_le] at h
    rcases h with (((h | h) | rfl) | rfl) | rfl
    · obtain ⟨hlow, hhigh⟩ := Bool.and_eq_true_iff.1 h
      rw [decide_eq_true_eq, ge_iff_le, UInt32.le_iff_toNat_le] at hlow
      rw [decide_eq_true_eq, UInt32.le_iff_toNat_le] at hhigh
      exact ⟨le_trans (by decide) hlow, hhigh⟩
    · exact ⟨le_trans (by decide) h.1, le_trans h.2 (by decide)⟩
    · decide
    · decide
    · decide
  unfold isWhitespace
  simp only [Bool.or_eq_false_iff, Bool.and_eq_false_iff, decide_eq_false_iff_not, beq_eq_false_iff_ne]
  omega

/-- A text that enters a contract. -/
def nonEmptyText (model s : String) : Except PyError NonEmptyText :=
  check (IsText 1 2000 s) (.validationError model) fun h => ⟨s, h⟩

def shortText (model s : String) : Except PyError ShortText :=
  check (IsText 1 256 s) (.validationError model) fun h => ⟨s, h⟩

/-! ## Money -/

/-- Decimals of an amount. -/
def amountScale : ℕ := 4

/-- `^(0|[1-9][0-9]*)(\.[0-9]{1,4})?$`, of at most 32 characters. -/
def isDecimalAmount (s : String) : Bool := Lib.Decimal.isNumeral amountScale s.toList && s.length ≤ 32

abbrev DecimalAmount := { s : String // isDecimalAmount s }

theorem isDecimalAmount_zero : isDecimalAmount "0" := by decide

/-- `Decimal(amount)`, in ten-thousandths. -/
def DecimalAmount.value (a : DecimalAmount) : ℕ := Lib.Decimal.parse amountScale a.1.toList

/-- `^[A-Z]{3}$`. -/
def isCurrencyCode (s : String) : Bool := s.toList.all Char.isUpper && s.length == 3

theorem isCurrencyCode_cny : isCurrencyCode "CNY" := by decide

abbrev CurrencyCode := { s : String // isCurrencyCode s }

inductive CostBasis where
  | perPerson
  | perGroup
  | perRoom
  | perItem
  | total
  deriving DecidableEq, Repr

structure MoneyRange where
  minAmount : DecimalAmount
  maxAmount : DecimalAmount
  currency : CurrencyCode
  basis : CostBasis
  le : minAmount.value ≤ maxAmount.value
  deriving DecidableEq

/-- `MoneyRange(...)` from validated fields. -/
def moneyRange (minAmount maxAmount : DecimalAmount) (currency : CurrencyCode) (basis : CostBasis) :
    Except PyError MoneyRange :=
  check (minAmount.value ≤ maxAmount.value) (.validationError "MoneyRange")
    fun h => ⟨minAmount, maxAmount, currency, basis, h⟩

/-! ## Dates and times -/

/-- `date.max.toordinal()`. -/
def maxOrdinal : ℕ := 3_652_059

/-- A `date`, by its proleptic Gregorian ordinal. -/
structure Day where
  ordinal : ℕ
  first : 1 ≤ ordinal
  last : ordinal ≤ maxOrdinal
  deriving DecidableEq

namespace Day

/-- `date.weekday()`: Monday is `0`. -/
def weekday (d : Day) : ℕ := weekdayOfOrd d.ordinal

/-- `date.isoformat()`. -/
def isoformat (d : Day) : String :=
  let ymd := ordToYmd d.ordinal
  Date.isoformat ⟨ymd.1, ymd.2.1, ymd.2.2⟩

/-- `d + timedelta(days=n)`. -/
def addDays (d : Day) (n : ℕ) : Except PyError Day :=
  check (d.ordinal + n ≤ maxOrdinal) .overflowError
    fun h => ⟨d.ordinal + n, by have := d.first; omega, h⟩

theorem ext {d d' : Day} (h : d.ordinal = d'.ordinal) : d = d' := by
  cases d; cases d'; cases h; rfl

end Day

/-- An IANA timezone name. -/
abbrev Timezone := String

structure TripDateRange where
  startDate : Day
  endDate : Day
  timezone : Timezone
  flexibilityDays : ℕ := 0
  le : startDate.ordinal ≤ endDate.ordinal
  flexible : flexibilityDays ≤ 31
  deriving DecidableEq

/-- No flexible days. -/
theorem notFlexible : 0 ≤ 31 := by decide

/-- `TripDateRange(...)` with its default flexibility. -/
def tripDateRange (startDate endDate : Day) (timezone : Timezone) : Except PyError TripDateRange :=
  check (startDate.ordinal ≤ endDate.ordinal) (.validationError "TripDateRange")
    fun h => { startDate, endDate, timezone, le := h, flexible := notFlexible }

/-- Microseconds of a day. -/
def dayMicros : ℕ := 86_400_000_000

/-- A `time`: microseconds since midnight, and the offset of its `tzinfo` if it has one. -/
structure LocalTime where
  micros : ℕ
  utcoffset : Option ℤ := none
  lt : micros < dayMicros
  deriving DecidableEq

namespace LocalTime

/-- Times compare if both or neither have an offset. -/
def Comparable (t t' : LocalTime) : Prop := t.utcoffset.isSome = t'.utcoffset.isSome

/-- Microseconds since midnight, in UTC if there is an offset. -/
def utc (t : LocalTime) : ℤ := t.micros - t.utcoffset.getD 0

instance (t t' : LocalTime) : Decidable (t.Comparable t') := inferInstanceAs (Decidable (_ = _))

end LocalTime

structure ZonedTimeRange where
  localDate : Day
  startLocalTime : LocalTime
  endLocalTime : LocalTime
  /-- `0` or `1` -/
  endDayOffset : Fin 2 := 0
  timezone : Timezone
  ordered : endDayOffset = 0 →
    startLocalTime.Comparable endLocalTime ∧ startLocalTime.utc < endLocalTime.utc
  deriving DecidableEq

/-- `ZonedTimeRange(...)` with its default offset, between times without `tzinfo`. -/
def zonedTimeRange (localDate : Day) (startLocalTime endLocalTime : LocalTime) (timezone : Timezone) :
    Except PyError ZonedTimeRange :=
  check (startLocalTime.Comparable endLocalTime ∧ startLocalTime.utc < endLocalTime.utc)
    (.validationError "ZonedTimeRange")
    fun h => { localDate, startLocalTime, endLocalTime, timezone, ordered := fun _ => h }

/-! ## Places and routes -/

structure PlaceRef where
  placeId : Identifier
  displayName : ShortText
  timezone : Timezone
  deriving DecidableEq

structure TransitLeg where
  durationMinMinutes : ℕ
  durationMaxMinutes : ℕ
  distanceMeters : ℕ
  le : durationMinMinutes ≤ durationMaxMinutes
  bounded : durationMaxMinutes ≤ 10_080
  deriving DecidableEq

/-! ## Provenance -/

inductive FreshnessStatus where
  | fresh
  | stale
  | expired
  | unknown
  deriving DecidableEq, Repr

inductive Severity where
  | info
  | low
  | medium
  | high
  | critical
  deriving DecidableEq, Repr

structure Citation where
  citationId : Identifier
  evidenceId : Identifier
  title : ShortText
  locator : { s : String // IsText 1 512 s }
  deriving DecidableEq

/-- A reference to a version of an artifact; its type is told by the field it stands in. -/
structure ArtifactRef where
  artifactId : Identifier
  version : ℕ
  positive : 1 ≤ version
  deriving DecidableEq

/-- The version of a new artifact. -/
theorem firstVersion : 1 ≤ 1 := le_rfl

end RoutePilot.Contracts
