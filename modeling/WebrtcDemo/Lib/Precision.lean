import Mathlib.Algebra.Order.Field.Power
import Mathlib.Data.Int.Log
import Mathlib.Data.Rat.Floor
import Mathlib.Tactic.FieldSimp
import Mathlib.Tactic.Linarith
import Mathlib.Tactic.NormNum
import WebrtcDemo.Lib.Rounding

/-!
# Rationals at a binary precision

`roundRat p` keeps the `p` leading bits of a rational, whatever its exponent: it is what a
binary floating-point format makes of a number that is in its range. A number of `p` bits
comes back from every number that is nearer to it than half of its last place.
-/

namespace Rounding


/-- A rational to the nearest integer, ties to even. -/
def roundEven (q : Rat) : Int := q.num.sign * divRoundEven q.num.natAbs q.den

/-- A rational to `p` significant bits, whatever its exponent. -/
def roundRat (p : Nat) (q : Rat) : Rat :=
  let ulp : Rat := 2 ^ (Int.log 2 |q| - (p - 1))
  roundEven (q / ulp) * ulp

/-- A number of at most `p` significant bits. -/
def Fits (p : Nat) (q : Rat) : Prop := ∃ m k : Int, |m| ≤ 2 ^ p ∧ q = m * 2 ^ k

theorem divRoundEven_near {a b m : Nat} (above : 2 * a < 2 * (m * b) + b)
    (below : 2 * (m * b) < 2 * a + b) : divRoundEven a b = m := by
  have whole : a / b * b + a % b = a := Nat.div_add_mod' a b
  have positive : 0 < b := by omega
  have left : a % b < b := Nat.mod_lt a positive
  have least : a / b ≤ m := by
    by_contra less
    have next : (m + 1) * b ≤ a / b * b := Nat.mul_le_mul_right b (Nat.lt_of_not_le less)
    rw [Nat.succ_mul] at next
    omega
  have most : m ≤ a / b + 1 := by
    by_contra more
    have next : (a / b + 1 + 1) * b ≤ m * b := Nat.mul_le_mul_right b (Nat.lt_of_not_le more)
    rw [Nat.succ_mul, Nat.succ_mul] at next
    omega
  rcases (show m = a / b ∨ m = a / b + 1 by omega) with rfl | rfl
  · have half : 2 * (a % b) < b := by omega
    simp only [divRoundEven, if_pos half]
  · rw [Nat.add_mul, Nat.one_mul] at above below
    have half : ¬ 2 * (a % b) < b := by omega
    have half' : b < 2 * (a % b) := by omega
    simp only [divRoundEven, if_neg half, if_pos half']

theorem roundEven_neg (q : Rat) : roundEven (-q) = -roundEven q := by
  simp [roundEven]

/-- Less than a half away from an integer, rounding gives that integer. -/
theorem roundEven_near {q : Rat} {m : Nat} (near : |q - m| < 1 / 2) (positive : 0 ≤ q) :
    roundEven q = m := by
  rw [abs_lt] at near
  have den : (0 : Rat) < q.den := by exact_mod_cast q.den_pos
  have num : (q.num.natAbs : Rat) = q * q.den := by
    rw [Rat.mul_den_eq_num, ← Int.cast_natCast, Int.natAbs_of_nonneg (Rat.num_nonneg.2 positive)]
  have above : 2 * q.num.natAbs < 2 * (m * q.den) + q.den := by
    have : (2 * q.num.natAbs : Rat) < 2 * (m * q.den) + q.den := by
      rw [num]
      nlinarith [mul_lt_mul_of_pos_right near.2 den]
    exact_mod_cast this
  have below : 2 * (m * q.den) < 2 * q.num.natAbs + q.den := by
    have : (2 * (m * q.den) : Rat) < 2 * q.num.natAbs + q.den := by
      rw [num]
      nlinarith [mul_lt_mul_of_pos_right near.1 den]
    exact_mod_cast this
  rw [roundEven, divRoundEven_near above below]
  rcases positive.eq_or_lt with rfl | positive
  · have none : m = 0 := by
      simp at below
      omega
    simp [none]
  · rw [Int.sign_eq_one_of_pos (Rat.num_pos.2 positive), one_mul]

theorem roundRat_neg (p : Nat) (q : Rat) : roundRat p (-q) = -roundRat p q := by
  simp only [roundRat, abs_neg, neg_div, roundEven_neg, Int.cast_neg, neg_mul]

theorem roundRat_zero (p : Nat) : roundRat p 0 = 0 := by
  simp [roundRat, roundEven]

theorem two_zpow_mul (i : Int) (j : Nat) : (2 : Rat) ^ (i + j) = 2 ^ i * 2 ^ j := by
  rw [zpow_add₀ two_ne_zero, zpow_natCast]

/-- A number of `p` bits near `y` is a multiple of the last place of `y`. -/
theorem Fits.ulps {p : Nat} {x y t : Rat} {e : Int} (fits : Fits (p + 1) x) (positive : 0 < x)
    (unit : t * 2 ^ (p + 2) = 1) (near : |y - x| < x * t) (low : (2 : Rat) ^ e ≤ y)
    (high : y < 2 ^ (e + 1)) : ∃ n : Nat, x = n * 2 ^ (e - p) ∧ n ≤ 2 ^ (p + 1) := by
  obtain ⟨m, k, small, value⟩ := fits
  obtain ⟨above, below⟩ := abs_lt.1 near
  have last : (0 : Rat) < 2 ^ k := by positivity
  have least : 0 < m := by
    rw [value] at positive
    exact_mod_cast pos_of_mul_pos_left positive last.le
  rw [abs_of_pos least] at small
  have half : t * 2 ^ (p + 1) = 1 / 2 := by
    rw [pow_succ] at unit
    linarith
  have tiny : 0 < t ∧ t ≤ 1 / 2 := by
    have one_le : (1 : Rat) ≤ 2 ^ (p + 1) := one_le_pow₀ one_le_two
    constructor <;> nlinarith
  rcases le_or_gt (e - p) k with coarse | fine
  · obtain ⟨j, rfl⟩ := Int.le.dest coarse
    have parts : x = (m.toNat * 2 ^ j : Nat) * (2 : Rat) ^ (e - p) := by
      have whole : ((m.toNat : Int) : Rat) = m := by rw [Int.toNat_of_nonneg least.le]
      rw [value, two_zpow_mul, ← whole]
      push_cast
      ring
    refine ⟨_, parts, ?_⟩
    generalize m.toNat * 2 ^ j = n at parts ⊢
    have place : (0 : Rat) < 2 ^ (e - p) := by positivity
    have top : (2 : Rat) ^ (e + 1) = 2 ^ (e - p) * 2 ^ (p + 1) := by
      rw [← two_zpow_mul]
      congr 1
      push_cast
      ring
    by_contra more
    have more' : (2 : Rat) ^ (p + 1) + 1 ≤ n := by exact_mod_cast Nat.lt_of_not_le more
    have bound : n * (1 - t) * (2 : Rat) ^ (e - p) < 2 ^ (p + 1) * 2 ^ (e - p) := by
      rw [parts] at above
      linarith
    have bound' := lt_of_mul_lt_mul_right bound place.le
    have : (2 ^ (p + 1) + 1) * (1 - t) ≤ n * (1 - t) :=
      mul_le_mul_of_nonneg_right more' (by linarith [tiny.2])
    linarith [tiny.2]
  · -- a number with a finer last place ends below the binade of `y`, or at its lower end
    obtain ⟨j, same⟩ := Int.le.dest (show k + (p + 1 : Nat) ≤ e by push_cast; omega)
    have power : (2 : Rat) ^ e = 2 ^ (p + 1 + j) * 2 ^ k := by
      rw [← same, add_assoc, ← Nat.cast_add, two_zpow_mul, mul_comm]
    have small' : (m : Rat) ≤ 2 ^ (p + 1) := by exact_mod_cast small
    rcases le_or_gt (2 ^ (p + 1 + j)) m with large | less
    · refine ⟨2 ^ p, ?_, Nat.pow_le_pow_right (by decide) p.le_succ⟩
      have large' : (2 : Rat) ^ (p + 1 + j) ≤ m := by exact_mod_cast large
      have whole : x = 2 ^ e := by
        refine le_antisymm ?_ ?_
        · rw [power, value]
          refine mul_le_mul_of_nonneg_right (small'.trans ?_) last.le
          exact pow_le_pow_right₀ one_le_two (Nat.le_add_right _ _)
        · rw [power, value]
          exact mul_le_mul_of_nonneg_right large' last.le
      rw [whole, Nat.cast_pow, Nat.cast_ofNat, mul_comm, ← two_zpow_mul]
      congr 1
      ring
    · have gap : (2 : Rat) ^ k ≤ 2 ^ e - x := by
        have less' : (m : Rat) + 1 ≤ 2 ^ (p + 1 + j) := by exact_mod_cast less
        rw [power, value]
        nlinarith
      have error : x * t ≤ 1 / 2 * 2 ^ k := by
        rw [value, ← half]
        nlinarith [mul_le_mul_of_nonneg_right small' (mul_pos last tiny.1).le]
      linarith

theorem roundRat_near_of_pos {p : Nat} {x y : Rat} (fits : Fits (p + 1) x) (positive : 0 < x)
    (near : 2 ^ (p + 2) * |y - x| < x) : roundRat (p + 1) y = x := by
  have unit : 1 / 2 ^ (p + 2) * (2 : Rat) ^ (p + 2) = 1 := by field_simp
  have near' : |y - x| < x * (1 / 2 ^ (p + 2)) := by
    rw [mul_one_div, lt_div_iff₀ (by positivity), mul_comm]
    exact near
  have large : 0 < y := by
    have one_le : (1 : Rat) ≤ 2 ^ (p + 2) := one_le_pow₀ one_le_two
    have closer : |y - x| < x := by nlinarith [abs_nonneg (y - x)]
    linarith [(abs_lt.1 closer).1]
  obtain ⟨n, value, top⟩ := fits.ulps positive unit near'
    (by exact_mod_cast Int.zpow_log_le_self one_lt_two large)
    (by exact_mod_cast Int.lt_zpow_succ_log_self one_lt_two y)
  have place : (0 : Rat) < 2 ^ (Int.log 2 y - p) := by positivity
  have close : |y / 2 ^ (Int.log 2 y - p) - n| < 1 / 2 := by
    have top' : (n : Rat) ≤ 2 ^ (p + 1) := by exact_mod_cast top
    have apart : y / 2 ^ (Int.log 2 y - p) - n = (y - x) / 2 ^ (Int.log 2 y - p) := by
      rw [sub_div, eq_div_of_mul_eq place.ne' value.symm]
    rw [apart, abs_div, abs_of_pos place, div_lt_iff₀ place]
    have power : (0 : Rat) < 2 ^ (p + 1) := by positivity
    refine lt_of_mul_lt_mul_left ?_ power.le
    calc (2 : Rat) ^ (p + 1) * |y - x| = 1 / 2 * (2 ^ (p + 2) * |y - x|) := by ring
      _ < 1 / 2 * x := by linarith
      _ = 1 / 2 * (n * 2 ^ (Int.log 2 y - p)) := by rw [← value]
      _ ≤ 2 ^ (p + 1) * (1 / 2 * 2 ^ (Int.log 2 y - p)) := by nlinarith
  have ulp : ((p + 1 : Nat) : Int) - 1 = p := by push_cast; ring
  rw [roundRat, abs_of_pos large, ulp, roundEven_near close (div_nonneg large.le place.le), value]
  norm_cast

/-- **What is nearer to a number than its last place shows is rounded to it.** -/
theorem roundRat_near {p : Nat} {x y : Rat} (fits : Fits (p + 1) x)
    (near : 2 ^ (p + 2) * |y - x| < |x|) : roundRat (p + 1) y = x := by
  rcases lt_trichotomy x 0 with negative | rfl | positive
  · rw [abs_of_neg negative] at near
    obtain ⟨m, k, small, value⟩ := fits
    have mirrored := roundRat_near_of_pos (p := p) (x := -x) (y := -y)
      ⟨-m, k, by rwa [abs_neg], by rw [value]; push_cast; ring⟩ (neg_pos.2 negative)
      (by rwa [← neg_sub', abs_neg])
    rw [roundRat_neg] at mirrored
    exact neg_injective mirrored
  · rw [abs_zero] at near
    exact absurd near (not_lt.2 (by positivity))
  · rw [abs_of_pos positive] at near
    exact roundRat_near_of_pos fits positive near

theorem divRoundEven_le (a b : Nat) : divRoundEven a b ≤ a / b + 1 := by
  unfold divRoundEven
  dsimp only
  split_ifs <;> omega

theorem roundBits_fits (p m : Nat) : Fits p (roundBits p m) := by
  have below : m < 2 ^ (p + spareBits p m) :=
    Nat.lt_of_lt_of_le Nat.lt_log2_self (Nat.pow_le_pow_right (by decide) (by rw [spareBits]; omega))
  have small : m / 2 ^ spareBits p m < 2 ^ p := by
    rw [Nat.div_lt_iff_lt_mul (by positivity), ← Nat.pow_add]
    exact below
  have top : divRoundEven m (2 ^ spareBits p m) ≤ 2 ^ p :=
    (divRoundEven_le _ _).trans small
  refine ⟨divRoundEven m (2 ^ spareBits p m), spareBits p m, ?_, ?_⟩
  · rw [Nat.abs_cast]
    exact_mod_cast top
  · rw [roundBits]
    push_cast
    rw [zpow_natCast]

/-- The nearest integer is a half away at most. -/
theorem divRoundEven_error (a : Nat) {b : Nat} (positive : 0 < b) :
    |(divRoundEven a b : Rat) - a / b| ≤ 1 / 2 := by
  have whole : a / b * b + a % b = a := Nat.div_add_mod' a b
  have left : a % b < b := Nat.mod_lt a positive
  have close : 2 * a ≤ 2 * (divRoundEven a b * b) + b ∧ 2 * (divRoundEven a b * b) ≤ 2 * a + b := by
    have next : (a / b + 1) * b = a / b * b + b := by rw [Nat.add_mul, Nat.one_mul]
    unfold divRoundEven
    dsimp only
    split_ifs <;> omega
  have close' : (2 * a : Rat) ≤ 2 * (divRoundEven a b * b) + b ∧
      (2 * (divRoundEven a b * b) : Rat) ≤ 2 * a + b := by exact_mod_cast close
  have positive' : (0 : Rat) < b := by exact_mod_cast positive
  rw [abs_le]
  constructor
  · rw [neg_le_sub_iff_le_add, div_le_iff₀ positive']
    linarith
  · rw [sub_le_iff_le_add', ← sub_le_iff_le_add, le_div_iff₀ positive']
    linarith

end Rounding
