/-
  Arithmetic of binary floating point with 53 digits, round half to even.

  The result of an operation is the exact one, rounded to a multiple of the last
  binary place.  The place is that of 53 digits, and -1074 at least; there is no
  greatest number.  Rounding is monotone (`round_mono`): it is so for one place,
  and between numbers of different places there is one that both places keep.
-/
import Mathlib.Data.Int.Log
import Mathlib.Data.Rat.Floor
import Mathlib.Tactic.Linarith
import Mathlib.Tactic.Ring

namespace Lib.Binary64

/-- The nearest integer, and of two the even one. -/
def roundEven (x : ℚ) : ℤ :=
  let floor := ⌊x⌋
  if x - floor < 1 / 2 then floor
  else if 1 / 2 < x - floor then floor + 1
  else floor + floor % 2

/-- The last binary place. -/
def place (x : ℚ) : ℤ := max (Int.log 2 |x| - 52) (-1074)

/-- The nearest multiple of `2 ^ e`. -/
def roundAt (e : ℤ) (x : ℚ) : ℚ := roundEven (x / 2 ^ e) * 2 ^ e

/-- The nearest number of 53 digits. -/
def round (x : ℚ) : ℚ := roundAt (place x) x

def add (x y : ℚ) : ℚ := round (x + y)
def sub (x y : ℚ) : ℚ := round (x - y)
def mul (x y : ℚ) : ℚ := round (x * y)

/-! ## One place -/

theorem roundEven_intCast (n : ℤ) : roundEven n = n := by
  unfold roundEven
  rw [Int.floor_intCast]
  norm_num

/-- A number is rounded to one of its two neighbors. -/
theorem roundEven_bounds (x : ℚ) : ⌊x⌋ ≤ roundEven x ∧ roundEven x ≤ ⌊x⌋ + 1 := by
  unfold roundEven
  dsimp only
  split_ifs <;> omega

theorem roundEven_mono {x y : ℚ} (hxy : x ≤ y) : roundEven x ≤ roundEven y := by
  obtain hlt | heq := Int.lt_or_eq_of_le (Int.floor_le_floor hxy)
  · have hx := (roundEven_bounds x).2
    have hy := (roundEven_bounds y).1
    omega
  · -- between the same neighbors, the distance to the lower one decides
    have hfloor : (⌊x⌋ : ℚ) = ⌊y⌋ := by rw [heq]
    unfold roundEven
    dsimp only
    split_ifs <;> first | omega | (exfalso; linarith)

theorem roundAt_mono (e : ℤ) : Monotone (roundAt e) := by
  intro x y hxy
  have hpos : (0 : ℚ) < 2 ^ e := zpow_pos (by norm_num) e
  have hdiv : x / 2 ^ e ≤ y / 2 ^ e := div_le_div_of_nonneg_right hxy hpos.le
  exact mul_le_mul_of_nonneg_right (Int.cast_le.2 (roundEven_mono hdiv)) hpos.le

/-- The multiples of `2 ^ e` are kept. -/
theorem roundAt_of_multiple (e n : ℤ) : roundAt e (n * 2 ^ e) = n * 2 ^ e := by
  have hne : (2 : ℚ) ^ e ≠ 0 := zpow_ne_zero e (by norm_num)
  rw [roundAt, mul_div_cancel_right₀ _ hne, roundEven_intCast]

theorem roundAt_zero (e : ℤ) : roundAt e 0 = 0 := by
  have hzero := roundAt_of_multiple e 0
  rwa [Int.cast_zero, zero_mul] at hzero

/-- A power of two is kept at no greater place, and so is its negative. -/
theorem roundAt_zpow {e k : ℤ} (h : e ≤ k) : roundAt e (2 ^ k) = 2 ^ k ∧ roundAt e (-2 ^ k) = -2 ^ k := by
  obtain ⟨n, rfl⟩ := Int.le.dest h
  have hpow : (2 : ℚ) ^ (e + n) = (2 ^ n : ℤ) * 2 ^ e := by
    rw [zpow_add₀ (by norm_num), zpow_natCast, mul_comm]
    push_cast
    rfl
  have hneg : -(2 : ℚ) ^ (e + n) = (-2 ^ n : ℤ) * 2 ^ e := by
    rw [hpow]
    push_cast
    ring
  constructor
  · rw [hpow, roundAt_of_multiple]
  · rw [hneg, roundAt_of_multiple]

/-! ## All places -/

/-- A number that both places keep, between the two that are rounded. -/
theorem round_le_round {x y b : ℚ} (hxb : x ≤ b) (hby : b ≤ y) (hx : roundAt (place x) b = b)
    (hy : roundAt (place y) b = b) : round x ≤ round y := by
  calc round x ≤ roundAt (place x) b := roundAt_mono _ hxb
    _ = roundAt (place y) b := by rw [hx, hy]
    _ ≤ round y := roundAt_mono _ hby

theorem place_le {x y : ℚ} (hx : x ≠ 0) (h : |x| ≤ |y|) : place x ≤ place y := by
  have hlog := Int.log_mono_right (b := 2) (abs_pos.2 hx) h
  unfold place
  omega

/-- Of numbers of different places, the leading power of two of the greater is above the lesser, and both places
    keep it. -/
theorem between {x y : ℚ} (hy : y ≠ 0) (h : place x < place y) :
    |x| ≤ 2 ^ Int.log 2 |y| ∧ (2 : ℚ) ^ Int.log 2 |y| ≤ |y| ∧ place x ≤ Int.log 2 |y| ∧ place y ≤ Int.log 2 |y| := by
  have hlogs : Int.log 2 |x| + 1 ≤ Int.log 2 |y| ∧ place x ≤ Int.log 2 |y| ∧ place y ≤ Int.log 2 |y| := by
    unfold place at *
    omega
  refine ⟨?_, ?_, hlogs.2⟩
  · calc |x| ≤ 2 ^ (Int.log 2 |x| + 1) := (by exact_mod_cast Int.lt_zpow_succ_log_self (b := 2) (by norm_num) |x| :
          |x| < (2 : ℚ) ^ (Int.log 2 |x| + 1)).le
      _ ≤ 2 ^ Int.log 2 |y| := zpow_le_zpow_right₀ (by norm_num) hlogs.1
  · exact_mod_cast Int.zpow_log_le_self (b := 2) (by norm_num) (abs_pos.2 hy)

/-- **Rounding is monotone.** -/
theorem round_mono : Monotone round := by
  intro x y hxy
  obtain hplace | hplace := eq_or_ne (place x) (place y)
  · rw [round, round, hplace]
    exact roundAt_mono _ hxy
  obtain hx | hx := le_or_gt x 0
  · obtain hy | hy := le_or_gt 0 y
    · exact round_le_round hx hy (roundAt_zero _) (roundAt_zero _)
    · -- of two negative numbers, the lesser one has the greater place
      have hxneg : x < 0 := hxy.trans_lt hy
      have habs : |y| ≤ |x| := by
        rw [abs_of_neg hy, abs_of_neg hxneg]
        exact neg_le_neg hxy
      obtain ⟨hyb, hxb, hyk, hxk⟩ := between hxneg.ne (lt_of_le_of_ne (place_le hy.ne habs) hplace.symm)
      rw [abs_of_neg hy] at hyb
      rw [abs_of_neg hxneg] at hxb hyb hyk hxk
      exact round_le_round (le_neg_of_le_neg hxb) (neg_le_of_neg_le hyb) (roundAt_zpow hxk).2 (roundAt_zpow hyk).2
  · have hy : 0 < y := hx.trans_le hxy
    have habs : |x| ≤ |y| := by
      rw [abs_of_pos hx, abs_of_pos hy]
      exact hxy
    obtain ⟨hxb, hby, hxk, hyk⟩ := between hy.ne' (lt_of_le_of_ne (place_le hx.ne' habs) hplace)
    rw [abs_of_pos hx] at hxb
    rw [abs_of_pos hy] at hxb hby hxk hyk
    exact round_le_round hxb hby (roundAt_zpow hxk).1 (roundAt_zpow hyk).1

theorem sub_mono (y : ℚ) : Monotone (sub · y) := fun _ _ h => round_mono (sub_le_sub_right h y)

-- the exact difference lies below both
example : sub 1 (round (1 / 10)) = round (9 / 10) := by decide +kernel

end Lib.Binary64
