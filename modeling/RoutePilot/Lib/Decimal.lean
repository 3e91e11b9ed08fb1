/-
  Non-negative decimal numerals with a bounded number of decimals, and addition
  to a bounded number of significant digits.

  A number is its multiple of `10 ^ -s` (`s` decimals).  `parse s` reads a
  numeral and `format s` writes one, without trailing zeros; `roundTo p` is the
  rounding of a decimal context of precision `p`, half to even.
-/
import Mathlib.Algebra.Group.Nat.Defs
import Mathlib.Data.List.DropRight
import Mathlib.Order.Basic
import Mathlib.Tactic.Set

namespace Lib.Decimal

open Nat (toDigits ofDigitChars)

/-! ## Numerals -/

/-- The digits before the point. -/
def whole (l : List Char) : List Char := l.takeWhile Char.isDigit

/-- What follows the digits before the point. -/
def rest (l : List Char) : List Char := l.dropWhile Char.isDigit

/-- `0`, or digits that do not begin with one. -/
def isWhole : List Char → Bool
  | [] => false
  | c :: cs => c != '0' || cs.isEmpty

/-- Nothing, or a point and between one and `s` decimals. -/
def isFraction (s : ℕ) : List Char → Bool
  | [] => true
  | c :: cs => c == '.' && !cs.isEmpty && decide (cs.length ≤ s) && cs.all Char.isDigit

/-- The regular expression `(0|[1-9][0-9]*)(\.[0-9]{1,s})?`. -/
def isNumeral (s : ℕ) (l : List Char) : Bool := isWhole (whole l) && isFraction s (rest l)

/-- The number of a numeral, in units of `10 ^ -s`. -/
def parse (s : ℕ) (l : List Char) : ℕ :=
  ofDigitChars 10 (whole l) 0 * 10 ^ s +
    ofDigitChars 10 (rest l).tail 0 * 10 ^ (s - (rest l).tail.length)

/-- `n` as `s` digits, for `n < 10 ^ s`. -/
def padded (s n : ℕ) : List Char := List.replicate (s - (toDigits 10 n).length) '0' ++ toDigits 10 n

/-- The decimals of `n`, without trailing zeros. -/
def decimals (s n : ℕ) : List Char := (padded s n).rdropWhile (· == '0')

/-- The numeral of `n`: its point and decimals only if it has any. -/
def format (s n : ℕ) : List Char :=
  if decimals s (n % 10 ^ s) = [] then toDigits 10 (n / 10 ^ s)
  else toDigits 10 (n / 10 ^ s) ++ '.' :: decimals s (n % 10 ^ s)

/-! ### Digits -/

theorem ten_pow_pos (k : ℕ) : 0 < 10 ^ k := Nat.pow_pos (by decide)

theorem isDigit_toDigits {n : ℕ} {c : Char} (h : c ∈ toDigits 10 n) : c.isDigit :=
  Nat.isDigit_of_mem_toDigits (by decide) (by decide) h

theorem isWhole_toDigits (n : ℕ) : isWhole (toDigits 10 n) := by
  induction n using Nat.strongRecOn with
  | ind n ih =>
    rw [Nat.toDigits_eq_if (by decide)]
    split
    · simp [isWhole]
    · next h =>
      have := ih (n / 10) (by omega)
      cases hd : toDigits 10 (n / 10) with
      | nil => simp at hd
      | cons c cs =>
        rw [hd] at this
        rcases cs with _ | ⟨c', cs⟩
        · -- a single digit before the last one is not a zero
          have hpos : 0 < n / 10 := by omega
          simp only [List.singleton_append, isWhole]
          have hlt : n / 10 < 10 := by
            have := (Nat.length_toDigits_le_iff (n := n / 10) (k := 1) (b := 10)
              (by decide) (by decide)).1 (by simp [hd])
            simpa using this
          rw [Nat.toDigits_of_lt_base hlt, List.cons.injEq] at hd
          have hne : c ≠ '0' := by
            rintro rfl
            have := Nat.toNat_digitChar_sub_48_of_lt_ten hlt
            rw [hd.1] at this
            simp at this
            omega
          simp [hne]
        · simpa [isWhole] using this

theorem padded_length {s n : ℕ} (hs : 0 < s) (h : n < 10 ^ s) : (padded s n).length = s := by
  have := (Nat.length_toDigits_le_iff (n := n) (k := s) (b := 10) (by decide) hs).2 h
  simp only [padded, List.length_append, List.length_replicate]
  omega

theorem isDigit_padded {s n : ℕ} {c : Char} (h : c ∈ padded s n) : c.isDigit := by
  rcases List.mem_append.1 h with h | h
  · rw [List.eq_of_mem_replicate h]; rfl
  · exact isDigit_toDigits h

theorem value_padded (s n : ℕ) : ofDigitChars 10 (padded s n) 0 = n := by
  simp [padded, Nat.ofDigitChars_append]

/-- The decimals, and the zeros that were dropped. -/
theorem padded_eq (s n : ℕ) :
    ∃ k, padded s n = decimals s n ++ List.replicate k '0' := by
  refine ⟨((padded s n).rtakeWhile (· == '0')).length, ?_⟩
  have hzero : ∀ c ∈ (padded s n).rtakeWhile (· == '0'), c = '0' := fun c hc => by
    simpa using List.mem_rtakeWhile_imp hc
  conv_lhs => rw [← List.rdropWhile_append_rtakeWhile (p := (· == '0')) (l := padded s n)]
  rw [← List.eq_replicate_of_mem hzero]
  rfl

theorem decimals_length_le {s n : ℕ} (hs : 0 < s) (h : n < 10 ^ s) : (decimals s n).length ≤ s := by
  obtain ⟨k, hk⟩ := padded_eq s n
  have := congrArg List.length hk
  rw [padded_length hs h] at this
  simp at this
  omega

theorem isDigit_decimals {s n : ℕ} {c : Char} (h : c ∈ decimals s n) : c.isDigit := by
  obtain ⟨k, hk⟩ := padded_eq s n
  exact isDigit_padded (hk ▸ List.mem_append_left _ h)

theorem value_decimals {s n : ℕ} (hs : 0 < s) (h : n < 10 ^ s) :
    ofDigitChars 10 (decimals s n) 0 * 10 ^ (s - (decimals s n).length) = n := by
  obtain ⟨k, hk⟩ := padded_eq s n
  have hlen := congrArg List.length hk
  rw [padded_length hs h] at hlen
  simp only [List.length_append, List.length_replicate] at hlen
  have hval := congrArg (ofDigitChars 10 · 0) hk
  simp only [value_padded, Nat.ofDigitChars_append, Nat.ofDigitChars_replicate_zero] at hval
  rw [show s - (decimals s n).length = k by omega, Nat.mul_comm]
  exact hval.symm

/-! ### Writing and reading back -/

section
variable {s n : ℕ}

theorem takeWhile_isDigit {ds l : List Char} (h : ∀ c ∈ ds, c.isDigit) :
    (ds ++ '.' :: l).takeWhile Char.isDigit = ds := by
  rw [List.takeWhile_append_of_pos h]
  simp

theorem dropWhile_isDigit {ds l : List Char} (h : ∀ c ∈ ds, c.isDigit) :
    (ds ++ '.' :: l).dropWhile Char.isDigit = '.' :: l := by
  rw [List.dropWhile_append_of_pos h]
  simp

theorem whole_format : whole (format s n) = toDigits 10 (n / 10 ^ s) := by
  unfold whole format
  split
  · exact List.takeWhile_eq_self_iff.2 fun c hc => isDigit_toDigits hc
  · exact takeWhile_isDigit fun c hc => isDigit_toDigits hc

theorem rest_format : rest (format s n) =
    if decimals s (n % 10 ^ s) = [] then [] else '.' :: decimals s (n % 10 ^ s) := by
  unfold rest format
  split
  · exact List.dropWhile_eq_nil_iff.2 fun c hc => isDigit_toDigits hc
  · exact dropWhile_isDigit fun c hc => isDigit_toDigits hc

/-- What is written is a numeral. -/
theorem isNumeral_format (hs : 0 < s) : isNumeral s (format s n) := by
  have hlt : n % 10 ^ s < 10 ^ s := Nat.mod_lt _ (ten_pow_pos _)
  rw [isNumeral, whole_format, rest_format, Bool.and_eq_true]
  refine ⟨isWhole_toDigits _, ?_⟩
  split
  · rfl
  · next h =>
    simp only [isFraction, beq_self_eq_true, Bool.true_and, Bool.and_eq_true,
      decide_eq_true_eq, List.all_eq_true]
    refine ⟨⟨by simpa using h, decimals_length_le hs hlt⟩, fun c hc => isDigit_decimals hc⟩

/-- **Reading back.**  The numeral written for a number denotes it. -/
theorem parse_format (hs : 0 < s) : parse s (format s n) = n := by
  have hlt : n % 10 ^ s < 10 ^ s := Nat.mod_lt _ (ten_pow_pos _)
  have hval := value_decimals hs hlt
  have htail : (rest (format s n)).tail = decimals s (n % 10 ^ s) := by
    rw [rest_format]
    split
    · next h => rw [h]; rfl
    · rfl
  rw [parse, whole_format, htail, hval, Nat.ofDigitChars_ten_toDigits]
  exact Nat.div_add_mod' n (10 ^ s)

end

/-! ## Rounding -/

/-- The number of digits. -/
def size (n : ℕ) : ℕ := (toDigits 10 n).length

/-- The nearest multiple of `u`, the even one of two equally near. -/
def roundUnit (u n : ℕ) : ℕ :=
  if 2 * (n % u) < u ∨ 2 * (n % u) = u ∧ n / u % 2 = 0 then n / u * u else (n / u + 1) * u

/-- `n` to `p` significant digits, half to even. -/
def roundTo (p n : ℕ) : ℕ := roundUnit (10 ^ (size n - p)) n

/-- `a / b` to `p` significant digits, in units of `10 ^ -s`.  A last digit of `1` stands for the
    remainder, so that it is never taken for a tie. -/
def quotient (p s a b : ℕ) : ℕ :=
  roundTo p (10 * (a * 10 ^ (s - 1) / b) + if a * 10 ^ (s - 1) % b = 0 then 0 else 1)

section
variable {p n m u : ℕ}

theorem size_le_iff {k : ℕ} (h : 0 < k) : size n ≤ k ↔ n < 10 ^ k :=
  Nat.length_toDigits_le_iff (by decide) h

theorem size_pos : 0 < size n := Nat.length_toDigits_pos

theorem lt_pow_size : n < 10 ^ size n := (size_le_iff size_pos).1 le_rfl

theorem pow_size_le (h : 1 < size n) : 10 ^ (size n - 1) ≤ n := by
  by_contra hlt
  have := (size_le_iff (n := n) (k := size n - 1) (by omega)).2 (by omega)
  omega

@[simp] theorem roundUnit_one : roundUnit 1 n = n := by simp [roundUnit, Nat.mod_one]

/-- A number of at most `p` digits is kept. -/
theorem roundTo_of_lt (hp : 0 < p) (h : n < 10 ^ p) : roundTo p n = n := by
  have : size n - p = 0 := by have := (size_le_iff hp).2 h; omega
  simp [roundTo, this]

theorem roundUnit_mul (k : ℕ) (hu : 0 < u) : roundUnit u (k * u) = k * u := by
  simp [roundUnit, hu, Nat.mul_div_cancel _ hu]

/-- Rounding moves a number by at most a unit. -/
theorem roundUnit_bounds : n / u * u ≤ roundUnit u n ∧ roundUnit u n ≤ (n / u + 1) * u := by
  unfold roundUnit
  split
  · exact ⟨le_rfl, Nat.mul_le_mul_right _ (by omega)⟩
  · exact ⟨Nat.mul_le_mul_right _ (by omega), le_rfl⟩

theorem roundUnit_mono (h : n ≤ m) : roundUnit u n ≤ roundUnit u m := by
  have hdiv := Nat.div_le_div_right (c := u) h
  rcases hdiv.lt_or_eq with hlt | heq
  · calc roundUnit u n ≤ (n / u + 1) * u := roundUnit_bounds.2
      _ ≤ m / u * u := Nat.mul_le_mul_right _ hlt
      _ ≤ roundUnit u m := roundUnit_bounds.1
  · -- the same multiples are near, and the remainder of `n` is the smaller one
    have hmod : n % u ≤ m % u := by
      have hn := Nat.div_add_mod n u
      have hm := Nat.div_add_mod m u
      rw [heq] at hn
      omega
    unfold roundUnit
    rw [heq]
    have hstep : m / u * u ≤ (m / u + 1) * u := Nat.mul_le_mul_right _ (by omega)
    split <;> split
    · exact le_rfl
    · exact hstep
    · omega
    · exact le_rfl

/-- Rounding keeps the order. -/
theorem roundTo_mono (hp : 0 < p) (h : n ≤ m) : roundTo p n ≤ roundTo p m := by
  have hsize : size n ≤ size m := (size_le_iff size_pos).2 (h.trans_lt lt_pow_size)
  rcases hsize.lt_or_eq with hlt | heq
  · -- a power of ten lies between them
    have hlow : roundTo p n ≤ 10 ^ size n := by
      calc roundTo p n ≤ roundUnit (10 ^ (size n - p)) (10 ^ size n) :=
            roundUnit_mono lt_pow_size.le
        _ = 10 ^ size n := by
            rw [show 10 ^ size n = 10 ^ (size n - (size n - p)) * 10 ^ (size n - p) by
              rw [← Nat.pow_add]; congr 1; omega]
            exact roundUnit_mul _ (ten_pow_pos _)
    have hpow : 10 ^ size n ≤ 10 ^ (size m - 1) := Nat.pow_le_pow_right (by decide) (by omega)
    have hhigh : 10 ^ (size m - 1) ≤ roundTo p m := by
      have hm : 10 ^ (size m - 1) ≤ m := pow_size_le (by have := @size_pos n; omega)
      calc 10 ^ (size m - 1) = roundUnit (10 ^ (size m - p)) (10 ^ (size m - 1)) := by
            rw [show 10 ^ (size m - 1) = 10 ^ (size m - 1 - (size m - p)) * 10 ^ (size m - p) by
              rw [← Nat.pow_add]; congr 1; omega]
            exact (roundUnit_mul _ (ten_pow_pos _)).symm
        _ ≤ roundTo p m := roundUnit_mono hm
    exact (hlow.trans hpow).trans hhigh
  · unfold roundTo
    rw [heq]
    exact roundUnit_mono h

/-- A multiple of a power of ten with few digits before it is kept. -/
theorem roundTo_mul {k d : ℕ} (hp : 0 < p) (h : n < 10 ^ d) (hd : d ≤ p) :
    roundTo p (n * 10 ^ k) = n * 10 ^ k := by
  have hlt : n * 10 ^ k < 10 ^ (d + k) := by
    rw [Nat.pow_add]
    exact Nat.mul_lt_mul_of_pos_right h (ten_pow_pos k)
  have hsize : size (n * 10 ^ k) - p ≤ k := by
    by_cases hdk : 0 < d + k
    · have := (size_le_iff hdk).2 hlt
      omega
    · have hk : k = 0 := by omega
      have hd : d = 0 := by omega
      subst hk hd
      have hn : n = 0 := by simpa using h
      subst hn
      have : size 0 = 1 := rfl
      simp only [Nat.zero_mul, this]
      omega
  have hsplit : n * 10 ^ k = n * 10 ^ (k - (size (n * 10 ^ k) - p)) * 10 ^ (size (n * 10 ^ k) - p) := by
    rw [Nat.mul_assoc, ← Nat.pow_add]
    congr 2
    omega
  have hpos := ten_pow_pos (size (n * 10 ^ k) - p)
  unfold roundTo
  generalize 10 ^ (size (n * 10 ^ k) - p) = u at hsplit hpos ⊢
  rw [hsplit]
  exact roundUnit_mul _ hpos

/-! ### Quotients -/

variable {s a b c d : ℕ}

theorem roundTo_le_add : roundTo p n ≤ n + 10 ^ (size n - p) := by
  have hbounds := (roundUnit_bounds (n := n) (u := 10 ^ (size n - p))).2
  rw [Nat.add_mul, Nat.one_mul] at hbounds
  exact hbounds.trans (Nat.add_le_add_right (Nat.div_mul_le_self _ _) _)

/-- A quotient is below a short decimal exactly if the fraction is, unless the divisor is huge. -/
theorem quotient_lt_iff (hp : 0 < p) (hs : 2 ≤ s) (hb : 0 < b) (hc : c < 10 ^ d) (hd : d ≤ p)
    (hsize : b * 10 ^ (d + (s - 1) - p) ≤ 10 ^ (s - 2)) :
    quotient p s a b < c * 10 ^ (s - 1) ↔ 10 * a < c * b := by
  have hpow : 10 ^ (s - 1) = 10 * 10 ^ (s - 2) := by
    rw [show s - 1 = s - 2 + 1 by omega, Nat.pow_succ, Nat.mul_comm]
  set M := 10 ^ (s - 2) with hM
  set q := a * 10 ^ (s - 1) / b with hq
  have hqb : q * b ≤ a * 10 ^ (s - 1) := Nat.div_mul_le_self _ _
  set e := if a * 10 ^ (s - 1) % b = 0 then 0 else 1 with he
  have he1 : e ≤ 1 := by
    rw [he]
    split <;> omega
  have hquotient : quotient p s a b = roundTo p (10 * q + e) := rfl
  rw [hquotient]
  constructor
  · intro hlt
    by_contra hge
    have hcq : c * M ≤ q := by
      rw [hq, Nat.le_div_iff_mul_le hb, hpow]
      calc c * M * b = c * b * M := by rw [Nat.mul_right_comm]
        _ ≤ 10 * a * M := Nat.mul_le_mul_right _ (by omega)
        _ = a * (10 * M) := by rw [Nat.mul_comm 10 a, Nat.mul_assoc]
    have hle : c * 10 ^ (s - 1) ≤ 10 * q + e := by
      rw [hpow, Nat.mul_left_comm]
      omega
    have := roundTo_mono hp hle
    rw [roundTo_mul hp hc hd] at this
    omega
  · intro hlt
    set u := 10 ^ (d + (s - 1) - p) with hu
    have hu0 : 0 < u := ten_pow_pos _
    -- the fraction is below by at least one part in `b`
    have hgap : q + u ≤ c * M := by
      by_contra hge
      have hqu : c * M + 1 ≤ q + u := by omega
      have h₁ := Nat.mul_le_mul_right b hqu
      have h₂ : (10 * a + 1) * M ≤ c * b * M := Nat.mul_le_mul_right _ (by omega)
      rw [hpow] at hqb
      have h₃ : a * (10 * M) = 10 * a * M := by rw [Nat.mul_comm 10 a, Nat.mul_assoc]
      have h₄ : c * b * M = c * M * b := Nat.mul_right_comm _ _ _
      have h₅ : b * u = u * b := Nat.mul_comm _ _
      simp only [Nat.add_mul, Nat.one_mul] at h₁ h₂
      omega
    have hn : 10 * q + e < c * 10 ^ (s - 1) := by
      rw [hpow, Nat.mul_left_comm]
      omega
    have hlen : size (10 * q + e) ≤ d + (s - 1) := by
      refine (size_le_iff (by omega)).2 (hn.trans_le ?_)
      rw [Nat.pow_add]
      exact Nat.mul_le_mul_right _ hc.le
    have hunit : 10 ^ (size (10 * q + e) - p) ≤ u := Nat.pow_le_pow_right (by decide) (by omega)
    have hround := roundTo_le_add (p := p) (n := 10 * q + e)
    rw [hpow, Nat.mul_left_comm]
    omega

/-- A proper fraction is at most one. -/
theorem quotient_le_one (hp : 0 < p) (hs : 1 ≤ s) (hb : 0 < b) (h : a ≤ b) : quotient p s a b ≤ 10 ^ s := by
  have hpow : 10 ^ s = 10 * 10 ^ (s - 1) := by
    rw [show s = s - 1 + 1 by omega, Nat.pow_succ, Nat.mul_comm, Nat.add_sub_cancel]
  have hle : 10 * (a * 10 ^ (s - 1) / b) + (if a * 10 ^ (s - 1) % b = 0 then 0 else 1) ≤ 10 ^ s := by
    rcases h.lt_or_eq with hlt | rfl
    · have : a * 10 ^ (s - 1) / b < 10 ^ (s - 1) := by
        refine Nat.div_lt_of_lt_mul ?_
        exact Nat.mul_lt_mul_of_pos_right hlt (ten_pow_pos _)
      split <;> omega
    · rw [if_pos (Nat.mul_mod_right _ _), Nat.mul_div_cancel_left _ hb, hpow]
      rfl
  have hround := roundTo_mono hp hle
  have hone := roundTo_mul (p := p) (n := 1) (k := s) (d := 1) hp (by decide) hp
  rw [Nat.one_mul] at hone
  rw [hone] at hround
  exact hround

end

end Lib.Decimal
