/-
  The order of decimal numerals.

  Digits of one length compare as texts do, and of two whole parts without leading zeros
  the longer one is the greater.
-/
import Mathlib.Algebra.Order.Field.Rat
import Mathlib.Order.Compare
import Mathlib.Tactic.FieldSimp
import Mathlib.Tactic.Ring
import RoutePilot.Lib.Decimal

namespace Lib.Decimal

open Nat (ofDigitChars)

/-! ## Digits -/

section
variable {c d : Char} {cs ds : List Char}

theorem ofDigitChars_cons_zero (c : Char) (cs : List Char) :
    ofDigitChars 10 (c :: cs) 0 = (c.toNat - '0'.toNat) * 10 ^ cs.length + ofDigitChars 10 cs 0 := by
  rw [Nat.ofDigitChars_cons, Nat.ofDigitChars_eq_ofDigitChars_zero, Nat.mul_zero, Nat.zero_add, Nat.mul_comm]

theorem ofDigitChars_lt (h : ∀ c ∈ cs, c.isDigit) : ofDigitChars 10 cs 0 < 10 ^ cs.length := by
  induction cs with
  | nil => exact Nat.one_pos
  | cons c cs ih =>
    rw [List.forall_mem_cons] at h
    have hrest := ih h.2
    have hdigit : c.toNat - '0'.toNat + 1 ≤ 10 := by
      have hle := (Char.isDigit_iff_toNat.1 h.1).2
      have hnine : '9'.toNat = '0'.toNat + 9 := rfl
      omega
    rw [ofDigitChars_cons_zero, List.length_cons, Nat.pow_succ]
    calc (c.toNat - '0'.toNat) * 10 ^ cs.length + ofDigitChars 10 cs 0
        < (c.toNat - '0'.toNat + 1) * 10 ^ cs.length := by rw [Nat.succ_mul]; omega
      _ ≤ 10 * 10 ^ cs.length := Nat.mul_le_mul_right _ hdigit
      _ = 10 ^ cs.length * 10 := Nat.mul_comm _ _

/-- The greater multiple decides, and of equal ones the remainder. -/
theorem compare_mul_add {m a b x y : ℕ} (hx : x < m) (hy : y < m) :
    compare (a * m + x) (b * m + y) = (compare a b).then (compare x y) := by
  have hlt : ∀ {a b x y : ℕ}, x < m → a < b → a * m + x < b * m + y := fun {a b x y} hx hab => by
    have hmul : (a + 1) * m ≤ b * m := Nat.mul_le_mul_right _ hab
    rw [Nat.succ_mul] at hmul
    omega
  rcases lt_trichotomy a b with hab | rfl | hab
  · rw [compare_lt_iff_lt.2 hab, compare_lt_iff_lt.2 (hlt hx hab)]
    rfl
  · rw [compare_eq_iff_eq.2 rfl, Ordering.eq_then]
    rcases lt_trichotomy x y with hxy | rfl | hxy
    · rw [compare_lt_iff_lt.2 hxy, compare_lt_iff_lt.2 (Nat.add_lt_add_left hxy _)]
    · rw [compare_eq_iff_eq.2 rfl, compare_eq_iff_eq.2 rfl]
    · rw [compare_gt_iff_gt.2 hxy, compare_gt_iff_gt.2 (Nat.add_lt_add_left hxy _)]
  · rw [compare_gt_iff_gt.2 hab, compare_gt_iff_gt.2 (hlt hy hab)]
    rfl

/-- The first digits that differ decide between texts of one length. -/
theorem compare_cons (hc : c.isDigit) (hd : d.isDigit) (hcs : ∀ c ∈ cs, c.isDigit) (hds : ∀ d ∈ ds, d.isDigit)
    (hlen : cs.length = ds.length) :
    compare (ofDigitChars 10 (c :: cs) 0) (ofDigitChars 10 (d :: ds) 0) =
      (compare c.toNat d.toNat).then (compare (ofDigitChars 10 cs 0) (ofDigitChars 10 ds 0)) := by
  have hds' := ofDigitChars_lt hds
  rw [← hlen] at hds'
  rw [ofDigitChars_cons_zero, ofDigitChars_cons_zero, ← hlen, compare_mul_add (ofDigitChars_lt hcs) hds']
  congr 1
  have hc₀ := (Char.isDigit_iff_toNat.1 hc).1
  have hd₀ := (Char.isDigit_iff_toNat.1 hd).1
  rcases lt_trichotomy c.toNat d.toNat with h | h | h
  · rw [compare_lt_iff_lt.2 h, compare_lt_iff_lt.2 (by omega)]
  · rw [h, compare_eq_iff_eq.2 rfl, compare_eq_iff_eq.2 rfl]
  · rw [compare_gt_iff_gt.2 h, compare_gt_iff_gt.2 (show _ < _ by omega)]

/-- Without leading zeros, a longer text is a greater number. -/
theorem ofDigitChars_lt_of_length_lt (hcs : ∀ c ∈ cs, c.isDigit) (hne : cs ≠ []) (hds : ∀ d ∈ ds, d.isDigit)
    (hwhole : isWhole ds) (hlen : cs.length < ds.length) : ofDigitChars 10 cs 0 < ofDigitChars 10 ds 0 := by
  cases ds with
  | nil => cases hlen
  | cons d ds =>
    rw [List.length_cons] at hlen
    have hpos : 0 < cs.length := List.length_pos_iff.2 hne
    have hd : d ≠ '0' := by
      rintro rfl
      have : ds = [] := by simpa [isWhole] using hwhole
      rw [this, List.length_nil] at hlen
      omega
    have hd₁ : 1 ≤ d.toNat - '0'.toNat := by
      have hd₀ := (Char.isDigit_iff_toNat.1 (hds d List.mem_cons_self)).1
      have : d.toNat ≠ '0'.toNat := fun h => hd (Char.toNat_inj.1 h)
      omega
    calc ofDigitChars 10 cs 0 < 10 ^ cs.length := ofDigitChars_lt hcs
      _ ≤ 10 ^ ds.length := Nat.pow_le_pow_right (by decide) (by omega)
      _ = 1 * 10 ^ ds.length := (Nat.one_mul _).symm
      _ ≤ (d.toNat - '0'.toNat) * 10 ^ ds.length := Nat.mul_le_mul_right _ hd₁
      _ ≤ ofDigitChars 10 (d :: ds) 0 := by rw [ofDigitChars_cons_zero]; omega

end

/-! ## Numerals -/

section
variable {s : ℕ} {l : List Char}

theorem isDigit_of_mem_whole (l : List Char) : ∀ c ∈ whole l, c.isDigit := fun _ h => List.mem_takeWhile_imp h

theorem whole_append_rest (l : List Char) : whole l ++ rest l = l := List.takeWhile_append_dropWhile

/-- What follows the digits of a numeral. -/
theorem rest_cases (h : isNumeral s l) :
    rest l = [] ∨ ∃ ds, rest l = '.' :: ds ∧ ds.length ≤ s ∧ ∀ c ∈ ds, c.isDigit := by
  rw [isNumeral, Bool.and_eq_true] at h
  have hfraction := h.2
  cases hrest : rest l with
  | nil => exact .inl rfl
  | cons c cs =>
    rw [hrest] at hfraction
    simp only [isFraction, Bool.and_eq_true, beq_iff_eq, decide_eq_true_eq, List.all_eq_true] at hfraction
    obtain ⟨⟨⟨rfl, -⟩, hlen⟩, hdigits⟩ := hfraction
    exact .inr ⟨cs, rfl, hlen, hdigits⟩

theorem tail_rest (h : isNumeral s l) : (rest l).tail.length ≤ s ∧ ∀ c ∈ (rest l).tail, c.isDigit := by
  obtain hrest | ⟨ds, hrest, hlen, hdigits⟩ := rest_cases h
  · rw [hrest]
    exact ⟨Nat.zero_le _, fun c hc => absurd hc List.not_mem_nil⟩
  · rw [hrest]
    exact ⟨hlen, hdigits⟩

/-- The number that a numeral denotes. -/
def number (l : List Char) : ℚ :=
  ofDigitChars 10 (whole l) 0 + ofDigitChars 10 (rest l).tail 0 / 10 ^ (rest l).tail.length

theorem parse_eq_number (h : isNumeral s l) : (parse s l : ℚ) = number l * 10 ^ s := by
  have hlen := (tail_rest h).1
  unfold parse number
  push_cast
  rw [add_mul]
  congr 1
  have hpow : (10 : ℚ) ^ s = 10 ^ (rest l).tail.length * 10 ^ (s - (rest l).tail.length) := by
    rw [← pow_add, Nat.add_sub_cancel' hlen]
  rw [hpow]
  field_simp

/-- **The order of the numbers is that of their multiples.** -/
theorem parse_lt_iff {r : List Char} (hl : isNumeral s l) (hr : isNumeral s r) :
    parse s l < parse s r ↔ number l < number r := by
  rw [← Nat.cast_lt (α := ℚ), parse_eq_number hl, parse_eq_number hr]
  exact mul_lt_mul_iff_left₀ (pow_pos (by norm_num) s)

end

end Lib.Decimal
