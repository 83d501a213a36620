import Mathlib.Data.Nat.Log
import Mathlib.Tactic.Positivity
import Mathlib.Tactic.SplitIfs

/-!
# Rounding to nearest, ties to even

`divRoundEven a b` is the quotient `a / b` rounded to the nearest integer, ties
to the even one. `roundBits p m` keeps the `p` leading bits of `m` by the same
rule: it is what a binary floating-point format with a `p`-bit significand makes
of an integer in its range.
-/

namespace Rounding

/-- `a / b` to the nearest integer, ties to even. -/
def divRoundEven (a b : Nat) : Nat :=
  let q := a / b
  let r := a % b
  if 2 * r < b then q
  else if b < 2 * r then q + 1
  else if q % 2 = 0 then q else q + 1

/-- The number of low bits of `m` beyond its `p` leading ones. -/
def spareBits (p m : Nat) : Nat := Nat.log2 m + 1 - p

/-- `m` to `p` significant bits, nearest, ties to even. -/
def roundBits (p m : Nat) : Nat :=
  divRoundEven m (2 ^ spareBits p m) * 2 ^ spareBits p m

theorem divRoundEven_of_dvd {a b : Nat} (positive : 0 < b) (divides : b ∣ a) :
    divRoundEven a b = a / b := by
  have none_left : a % b = 0 := Nat.mod_eq_zero_of_dvd divides
  simp [divRoundEven, none_left, positive]

theorem div_le_divRoundEven (a b : Nat) : a / b ≤ divRoundEven a b := by
  unfold divRoundEven
  dsimp only
  split_ifs <;> omega

theorem roundBits_of_dvd {p m : Nat} (divides : 2 ^ spareBits p m ∣ m) : roundBits p m = m := by
  rw [roundBits, divRoundEven_of_dvd (by positivity) divides, Nat.div_mul_cancel divides]

/-- **The numbers that are kept** are those of at most `p` significant bits. -/
theorem roundBits_eq_self_iff {p m : Nat} :
    roundBits p m = m ↔ ∃ a k, a < 2 ^ p ∧ m = a * 2 ^ k := by
  constructor
  · intro kept
    refine ⟨divRoundEven m (2 ^ spareBits p m), spareBits p m, ?_, kept.symm⟩
    have below : m < 2 ^ (p + spareBits p m) :=
      Nat.lt_of_lt_of_le Nat.lt_log2_self
        (Nat.pow_le_pow_right (by omega) (by rw [spareBits]; omega))
    rw [pow_add] at below
    refine Nat.lt_of_mul_lt_mul_right (a := 2 ^ spareBits p m) ?_
    calc divRoundEven m (2 ^ spareBits p m) * 2 ^ spareBits p m = m := kept
      _ < 2 ^ p * 2 ^ spareBits p m := below
  · rintro ⟨a, k, small, rfl⟩
    refine roundBits_of_dvd ?_
    rcases Nat.eq_zero_or_pos a with rfl | positive
    · simp
    · have length : Nat.log2 (a * 2 ^ k) < p + k := by
        rw [Nat.log2_lt (by positivity), pow_add]
        exact Nat.mul_lt_mul_of_pos_right small (by positivity)
      exact dvd_mul_of_dvd_right (pow_dvd_pow 2 (by rw [spareBits]; omega)) a

/-- Numbers of at most `p` bits, and `2 ^ p` itself, are kept. -/
theorem roundBits_of_le {p m : Nat} (bits : 0 < p) (small : m ≤ 2 ^ p) : roundBits p m = m := by
  have divides : 2 ^ spareBits p m ∣ m := by
    rcases Nat.lt_or_ge m (2 ^ p) with below | top
    · have length : Nat.log2 m < p ∨ m = 0 := by
        rcases Nat.eq_zero_or_pos m with zero | positive
        · exact Or.inr zero
        · exact Or.inl ((Nat.log2_lt (Nat.ne_of_gt positive)).2 below)
      rcases length with length | rfl
      · simp [spareBits, Nat.sub_eq_zero_of_le (show Nat.log2 m + 1 ≤ p by omega)]
      · exact dvd_zero _
    · obtain rfl : m = 2 ^ p := le_antisymm small top
      rw [spareBits, Nat.log2_two_pow, Nat.add_sub_cancel_left]
      exact pow_dvd_pow 2 bits
  exact roundBits_of_dvd divides

/-- Numbers from `2 ^ p` on do not round below it. -/
theorem le_roundBits {p m : Nat} (bits : 0 < p) (large : 2 ^ p ≤ m) : 2 ^ p ≤ roundBits p m := by
  have nonzero : m ≠ 0 := by
    have : 0 < 2 ^ p := by positivity
    omega
  have length : p ≤ Nat.log2 m := (Nat.le_log2 nonzero).2 large
  have lead : 2 ^ Nat.log2 m ≤ m := Nat.log2_self_le nonzero
  have split_power : 2 ^ (p - 1) * 2 ^ spareBits p m = 2 ^ Nat.log2 m := by
    rw [← pow_add, spareBits]
    congr 1
    omega
  have quotient : 2 ^ (p - 1) ≤ m / 2 ^ spareBits p m :=
    (Nat.le_div_iff_mul_le (by positivity)).2 (split_power ▸ lead)
  calc 2 ^ p ≤ 2 ^ Nat.log2 m := Nat.pow_le_pow_right (by omega) length
    _ = 2 ^ (p - 1) * 2 ^ spareBits p m := split_power.symm
    _ ≤ roundBits p m :=
      Nat.mul_le_mul_right _ (le_trans quotient (div_le_divRoundEven _ _))

/-- Below `2 ^ p` a rounded value has one source. -/
theorem eq_of_roundBits_eq {p m u : Nat} (bits : 0 < p) (small : u < 2 ^ p)
    (same : roundBits p m = u) : m = u := by
  rcases Nat.lt_or_ge m (2 ^ p) with below | large
  · rw [← same, roundBits_of_le bits below.le]
  · have := le_roundBits bits large
    omega

end Rounding
