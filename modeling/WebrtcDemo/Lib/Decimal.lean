import WebrtcDemo.Lib.Numeral
import WebrtcDemo.Lib.Precision

/-!
# What `printf` prints of a rational

`formatG p` prints the `p` leading decimal digits of a rational, rounded to the nearest. Its
text is laid out by the exponent; its value is within half a unit of the last digit.
-/

namespace Numeral
open Rounding

/-! ## The decimal exponent -/

theorem ten_pow_toNat (e : Int) : (10 : Rat) ^ e.toNat = 10 ^ e * 10 ^ (-e).toNat := by
  rw [← zpow_natCast, ← zpow_natCast, ← zpow_add₀ (by decide)]
  congr 1
  omega

theorem ten_pow_le_iff {n d : Nat} (positive : 0 < d) (e : Int) :
    d * 10 ^ e.toNat ≤ n * 10 ^ (-e).toNat ↔ (10 : Rat) ^ e ≤ n / d := by
  have den : (0 : Rat) < d := by exact_mod_cast positive
  have scale : (0 : Rat) < 10 ^ (-e).toNat := by positivity
  rw [le_div_iff₀ den, ← mul_le_mul_iff_of_pos_right scale, ← @Nat.cast_le Rat]
  push_cast
  rw [ten_pow_toNat e]
  constructor <;> intro le <;> linarith

/-- A number is bracketed by the powers of ten around its length. -/
theorem toDigits_bracket {n : Nat} (positive : 0 < n) :
    (10 : Rat) ^ (((Nat.toDigits 10 n).length : Int) - 1) ≤ n ∧
      (n : Rat) < 10 ^ ((Nat.toDigits 10 n).length : Int) := by
  obtain ⟨k, length⟩ := Nat.exists_eq_succ_of_ne_zero (Nat.ne_of_gt
    (Nat.length_toDigits_pos (b := 10) (n := n)))
  have low : 10 ^ k ≤ n := by
    rcases Nat.eq_zero_or_pos k with rfl | some_
    · exact positive
    · by_contra less
      have short := (Nat.length_toDigits_le_iff (by decide) some_).2 (Nat.lt_of_not_le less)
      omega
  have high : n < 10 ^ (k + 1) := (Nat.length_toDigits_le_iff (by decide) k.succ_pos).1 length.le
  rw [length]
  constructor
  · have shift : ((k.succ : Nat) : Int) - 1 = k := by omega
    rw [shift, zpow_natCast]
    exact_mod_cast low
  · rw [zpow_natCast]
    exact_mod_cast high

theorem decimalExponent_spec {n d : Nat} (positive : 0 < n) (positive' : 0 < d) :
    (10 : Rat) ^ decimalExponent n d ≤ n / d ∧ (n / d : Rat) < 10 ^ (decimalExponent n d + 1) := by
  obtain ⟨low, high⟩ := toDigits_bracket positive
  obtain ⟨low', high'⟩ := toDigits_bracket positive'
  have den : (0 : Rat) < d := by exact_mod_cast positive'
  rw [decimalExponent]
  generalize ((Nat.toDigits 10 n).length : Int) = a at low high ⊢
  generalize ((Nat.toDigits 10 d).length : Int) = b at low' high' ⊢
  have below : (10 : Rat) ^ (a - b - 1) ≤ n / d := by
    have parts : (10 : Rat) ^ (a - b - 1) * 10 ^ b = 10 ^ (a - 1) := by
      rw [← zpow_add₀ (by decide)]
      congr 1
      ring
    rw [le_div_iff₀ den]
    have : (10 : Rat) ^ (a - b - 1) * d ≤ 10 ^ (a - b - 1) * 10 ^ b :=
      mul_le_mul_of_nonneg_left high'.le (by positivity)
    linarith
  have above : (n / d : Rat) < 10 ^ (a - b + 1) := by
    have parts : (10 : Rat) ^ (a - b + 1) * 10 ^ (b - 1) = 10 ^ a := by
      rw [← zpow_add₀ (by decide)]
      congr 1
      ring
    rw [div_lt_iff₀ den]
    have : (10 : Rat) ^ (a - b + 1) * 10 ^ (b - 1) ≤ 10 ^ (a - b + 1) * d :=
      mul_le_mul_of_nonneg_left low' (by positivity)
    linarith
  split_ifs with reached
  · exact ⟨(ten_pow_le_iff positive' _).1 reached, above⟩
  · rw [ten_pow_le_iff positive', not_le] at reached
    exact ⟨below, by rwa [sub_add_cancel]⟩

/-! ## The digits -/

/-- How the digits `m` of a number with exponent `e` are laid out. -/
def layout (p m : Nat) (e : Int) : List Char :=
  let digits := Nat.toDigits 10 m
  if e < -4 ∨ (p : Int) ≤ e then
    digits.take 1 ++ fraction (digits.drop 1) ++ exponentText e
  else if e < 0 then
    '0' :: fraction (List.replicate (-e - 1).toNat '0' ++ digits)
  else digits.take (e.toNat + 1) ++ fraction (digits.drop (e.toNat + 1))

/-- The `p` leading digits of `n / d`, by its exponent; rounding up may carry into one more. -/
def leading (p n d : Nat) : Nat :=
  let e := decimalExponent n d
  divRoundEven (n * 10 ^ (p - 1 - e).toNat) (d * 10 ^ (e - (p - 1)).toNat)

theorem leading_spec {p n d : Nat} (digits : 0 < p) (positive : 0 < n) (positive' : 0 < d) :
    10 ^ (p - 1) ≤ leading p n d ∧ leading p n d ≤ 10 ^ p ∧
      2 * 10 ^ (p - 1) * abs (leading p n d * 10 ^ (decimalExponent n d - (p - 1)) - n / d : Rat) ≤
        n / d := by
  obtain ⟨low, high⟩ := decimalExponent_spec positive positive'
  rw [leading]
  generalize decimalExponent n d = e at low high ⊢
  have den : (0 : Rat) < d := by exact_mod_cast positive'
  have places : ((p - 1 : Nat) : Int) = p - 1 := by omega
  have whole : 0 < d * 10 ^ (e - (p - 1)).toNat := by positivity
  have opposite : -(p - 1 - e : Int) = e - (p - 1) := by ring
  have scale : (0 : Rat) < 10 ^ (e - (p - 1)) := by positivity
  -- the quotient that is rounded is `n / d`, shifted
  have shifted : ((n * 10 ^ (p - 1 - e).toNat : Nat) : Rat) / (d * 10 ^ (e - (p - 1)).toNat : Nat) *
      10 ^ (e - (p - 1)) = n / d := by
    push_cast
    rw [ten_pow_toNat (p - 1 - e), opposite, ← opposite, zpow_neg]
    field_simp
  have error := divRoundEven_error (n * 10 ^ (p - 1 - e).toNat) whole
  generalize n * 10 ^ (p - 1 - e).toNat = a at error shifted ⊢
  generalize d * 10 ^ (e - (p - 1)).toNat = b at error shifted whole ⊢
  have whole' : (0 : Rat) < b := by exact_mod_cast whole
  have first : (10 : Rat) ^ e = 10 ^ (p - 1) * 10 ^ (e - (p - 1)) := by
    rw [← zpow_natCast, ← zpow_add₀ (by decide), places]
    congr 1
    ring
  have next : (10 : Rat) ^ (e + 1) = 10 ^ p * 10 ^ (e - (p - 1)) := by
    rw [← zpow_natCast, ← zpow_add₀ (by decide)]
    congr 1
    ring
  rw [← shifted] at low high ⊢
  rw [first] at low
  rw [next] at high
  have low' := (le_div_iff₀ whole').1 (le_of_mul_le_mul_right low scale)
  have high' := (div_lt_iff₀ whole').1 (lt_of_mul_lt_mul_right high scale.le)
  refine ⟨?_, ?_, ?_⟩
  · refine le_trans ((Nat.le_div_iff_mul_le whole).2 ?_) (div_le_divRoundEven a b)
    exact_mod_cast low'
  · refine (divRoundEven_le a b).trans ((Nat.div_lt_iff_lt_mul whole).2 ?_)
    exact_mod_cast high'
  · rw [← sub_mul, abs_mul, abs_of_pos scale]
    have power : (0 : Rat) < 10 ^ (p - 1) := by positivity
    calc 2 * 10 ^ (p - 1) * (|(divRoundEven a b : Rat) - a / b| * 10 ^ (e - (p - 1)))
        ≤ 2 * 10 ^ (p - 1) * (1 / 2 * 10 ^ (e - (p - 1))) := by gcongr
      _ = 10 ^ (p - 1) * 10 ^ (e - (p - 1)) := by ring
      _ ≤ a / b * 10 ^ (e - (p - 1)) := low

/-- **What is printed**: the sign, and `p` digits that are within half a unit of the last one. -/
theorem formatG_layout {p : Nat} (positive : 0 < p) {q : Rat} (nonzero : q ≠ 0) :
    ∃ (m : Nat) (e : Int), 10 ^ (p - 1) ≤ m ∧ m < 10 ^ p ∧
      2 * 10 ^ (p - 1) * abs (m * 10 ^ (e - (p - 1)) - abs q) ≤ abs q ∧
      formatG p q = if q.num < 0 then '-' :: layout p m e else layout p m e := by
  have num : q.num ≠ 0 := Rat.num_ne_zero.2 nonzero
  have size : abs q = q.num.natAbs / q.den := by
    rw [Nat.cast_natAbs, Int.cast_abs, ← Nat.abs_cast q.den, ← abs_div, Rat.num_div_den]
  obtain ⟨low, high, error⟩ :=
    leading_spec positive (Int.natAbs_pos.2 num) q.den_pos (p := p)
  rw [← size] at error
  rcases high.lt_or_eq with below | carried
  · refine ⟨_, _, low, below, error, ?_⟩
    rw [formatG, if_neg num]
    simp only [leading] at below
    simp only [if_neg below.ne, layout, leading]
  · refine ⟨10 ^ (p - 1), decimalExponent q.num.natAbs q.den + 1, le_rfl,
      Nat.pow_lt_pow_right (by decide) (by omega), ?_, ?_⟩
    · rw [carried] at error
      have same : ((10 ^ (p - 1) : Nat) : Rat) * 10 ^ (decimalExponent q.num.natAbs q.den + 1 - (p - 1)) =
          (10 ^ p : Nat) * 10 ^ (decimalExponent q.num.natAbs q.den - (p - 1)) := by
        push_cast
        rw [← zpow_natCast, ← zpow_natCast, ← zpow_add₀ (by decide), ← zpow_add₀ (by decide)]
        congr 1
        omega
      rw [same]
      exact error
    · rw [formatG, if_neg num]
      simp only [leading] at carried
      simp only [carried, if_true, layout]

/-! ## The parts of a numeral -/

/-- A point and the digits after it, or nothing. -/
def point : List Char → List Char
  | [] => []
  | c :: digits => '.' :: c :: digits

/-- A numeral: an integer part that no zero leads, the digits after a point, an exponent. -/
structure Parts where
  whole : List Char
  fraction : List Char
  exponent : Option Int
  whole_ne_nil : whole ≠ []
  whole_digits : ∀ c ∈ whole, c.isDigit
  fraction_digits : ∀ c ∈ fraction, c.isDigit
  lead : whole.head? = some '0' → whole.length = 1

namespace Parts

def text (parts : Parts) : List Char :=
  parts.whole ++ point parts.fraction ++ parts.exponent.elim [] exponentText

/-- The number that a numeral denotes. -/
def value (parts : Parts) : Rat :=
  Nat.ofDigitChars 10 (parts.whole ++ parts.fraction) 0 *
    10 ^ (parts.exponent.getD 0 - parts.fraction.length)

end Parts

namespace Parts

/-- A point or an exponent is seen in the text. -/
theorem marked_iff (parts : Parts) :
    parts.fraction ≠ [] ∨ parts.exponent ≠ none ↔ '.' ∈ parts.text ∨ 'e' ∈ parts.text := by
  obtain ⟨whole, fraction, exponent, -, all, -, -⟩ := parts
  have digit : '.' ∉ whole ∧ 'e' ∉ whole :=
    ⟨fun member => absurd (all _ member) (by decide), fun member => absurd (all _ member) (by decide)⟩
  simp only [text]
  cases exponent with
  | some e => simp [exponentText]
  | none =>
    cases fraction with
    | nil => simp [point, digit]
    | cons c more => simp [point]

/-- A numeral that is one digit longer. -/
def tenths (parts : Parts) : Parts :=
  { parts with fraction := ['0'], exponent := none, fraction_digits := by simp }

theorem tenths_text (parts : Parts) (fraction : parts.fraction = [])
    (exponent : parts.exponent = none) : parts.tenths.text = parts.text ++ ".0".toList := by
  simp [text, tenths, fraction, exponent, point]

theorem tenths_value (parts : Parts) (fraction : parts.fraction = [])
    (exponent : parts.exponent = none) : parts.tenths.value = parts.value := by
  have zero : '0'.toNat - '0'.toNat = 0 := rfl
  simp only [value, tenths, fraction, exponent, List.append_nil, Nat.ofDigitChars_append,
    Nat.ofDigitChars_cons, Nat.ofDigitChars_nil, zero]
  norm_num
  ring

end Parts

theorem fraction_eq (digits : List Char) : fraction digits = point (stripZeros digits) := by
  unfold fraction
  cases stripZeros digits <;> rfl

theorem stripZeros_append (digits : List Char) :
    ∃ zeros, digits = stripZeros digits ++ List.replicate zeros '0' := by
  refine ⟨(digits.reverse.takeWhile (· == '0')).length, ?_⟩
  have zeros : digits.reverse.takeWhile (· == '0') =
      List.replicate (digits.reverse.takeWhile (· == '0')).length '0' :=
    List.eq_replicate_of_mem fun c member => by simpa using List.mem_takeWhile_imp member
  have parts := List.takeWhile_append_dropWhile (p := (· == '0')) (l := digits.reverse)
  have back := congrArg List.reverse parts
  rw [List.reverse_append, List.reverse_reverse, zeros, List.reverse_replicate] at back
  simpa [stripZeros] using back.symm

/-- The zeros at the end do not count. -/
theorem strip_value (whole digits : List Char) (x : Int) :
    (Nat.ofDigitChars 10 (whole ++ stripZeros digits) 0 : Rat) *
        10 ^ (x - (stripZeros digits).length) =
      Nat.ofDigitChars 10 (whole ++ digits) 0 * 10 ^ (x - digits.length) := by
  obtain ⟨zeros, parts⟩ := stripZeros_append digits
  generalize stripZeros digits = kept at parts ⊢
  subst parts
  rw [← List.append_assoc, Nat.ofDigitChars_append (l := whole ++ kept),
    Nat.ofDigitChars_replicate_zero, List.length_append, List.length_replicate]
  have shift : x - kept.length = x - ((kept.length + zeros : Nat) : Int) + zeros := by
    push_cast
    ring
  rw [shift, zpow_add₀ (by decide), zpow_natCast]
  push_cast
  ring

/-- No zero leads the numeral of a positive number. -/
theorem toDigits_lead {n : Nat} (positive : 0 < n) : (Nat.toDigits 10 n).head? ≠ some '0' := by
  induction n using Nat.strongRecOn with
  | ind n ih =>
    rcases Nat.lt_or_ge n 10 with small | large
    · have all : ∀ d < 10, 0 < d → d.digitChar ≠ '0' := by decide
      rw [Nat.toDigits_of_lt_base small]
      simpa using all n small positive
    · rw [Nat.toDigits_of_base_le (by decide) large,
        List.head?_append_of_ne_nil _ Nat.toDigits_ne_nil]
      exact ih _ (by omega) (by omega)

theorem toDigits_length {p m : Nat} (digits : 0 < p) (low : 10 ^ (p - 1) ≤ m) (high : m < 10 ^ p) :
    (Nat.toDigits 10 m).length = p := by
  have most := (Nat.length_toDigits_le_iff (by decide) digits).2 high
  rcases Nat.eq_or_lt_of_le (show 1 ≤ p from digits) with rfl | more
  · have := Nat.length_toDigits_pos (b := 10) (n := m)
    omega
  · by_contra other
    have short := (Nat.length_toDigits_le_iff (b := 10) (n := m) (k := p - 1) (by decide) (by omega)).1
      (by omega)
    omega

theorem Parts.head_digit (parts : Parts) (rest : List Char) :
    ∀ c ∈ (parts.text ++ rest).head?, c.isDigit := by
  obtain ⟨d, more, same⟩ := List.exists_cons_of_ne_nil parts.whole_ne_nil
  have digit := parts.whole_digits d (same ▸ List.mem_cons_self)
  simpa [Parts.text, same] using digit

/-- A natural number as a numeral. -/
def integral (n : Nat) : Parts where
  whole := Nat.toDigits 10 n
  fraction := []
  exponent := none
  whole_ne_nil := Nat.toDigits_ne_nil
  whole_digits := fun _ => digit_of_mem
  fraction_digits := by simp
  lead := by
    intro zero
    rcases Nat.eq_zero_or_pos n with rfl | positive
    · rfl
    · exact absurd zero (toDigits_lead positive)

theorem integral_text (n : Nat) : (integral n).text = Nat.toDigits 10 n := by
  simp [Parts.text, integral, point]

/-- **What is laid out** is a numeral, and says the digits and the exponent. -/
theorem layout_parts {p m : Nat} (digits : 0 < p) (low : 10 ^ (p - 1) ≤ m) (high : m < 10 ^ p)
    (e : Int) : ∃ parts : Parts, layout p m e = parts.text ∧
      parts.value = m * 10 ^ (e - (p - 1) : Int) := by
  have length := toDigits_length digits low high
  have positive : 0 < m := lt_of_lt_of_le (by positivity) low
  have lead := toDigits_lead positive
  have all : ∀ c ∈ Nat.toDigits 10 m, c.isDigit := fun _ => digit_of_mem
  have value : Nat.ofDigitChars 10 (Nat.toDigits 10 m) 0 = m := Nat.ofDigitChars_ten_toDigits
  rw [layout]
  generalize Nat.toDigits 10 m = ds at length lead all value ⊢
  have stripped : ∀ {l : List Char}, (∀ c ∈ l, c.isDigit) → ∀ c ∈ stripZeros l, c.isDigit := by
    intro l digit c member
    obtain ⟨zeros, parts⟩ := stripZeros_append l
    exact digit c (parts ▸ List.mem_append_left _ member)
  -- the leading digits are an integer part
  have taken : ∀ k, 0 < k → ds.take k ≠ [] ∧ (ds.take k).head? ≠ some '0' := by
    intro k some_
    cases ds with
    | nil => simp at length; omega
    | cons c more =>
      cases k with
      | zero => omega
      | succ k => exact ⟨by simp, by simpa using lead⟩
  split_ifs with scientific small
  · refine ⟨⟨ds.take 1, stripZeros (ds.drop 1), some e, (taken 1 one_pos).1,
      fun c member => all c (List.mem_of_mem_take member),
      stripped fun c member => all c (List.mem_of_mem_drop member),
      fun zero => absurd zero (taken 1 one_pos).2⟩, ?_, ?_⟩
    · rw [Parts.text, fraction_eq]
      rfl
    · rw [Parts.value, Option.getD_some, strip_value, List.take_append_drop, value, List.length_drop,
        length]
      congr 2
      omega
  · refine ⟨⟨['0'], stripZeros (List.replicate (-e - 1).toNat '0' ++ ds), none, by simp, by simp,
      stripped ?_, by simp⟩, ?_, ?_⟩
    · intro c member
      rcases List.mem_append.1 member with zero | digit
      · rw [List.eq_of_mem_replicate zero]
        rfl
      · exact all c digit
    · rw [Parts.text, fraction_eq]
      simp
    · rw [Parts.value, Option.getD_none, strip_value, List.length_append, List.length_replicate,
        length, List.singleton_append, Nat.ofDigitChars_cons, Nat.ofDigitChars_append,
        Nat.ofDigitChars_replicate_zero]
      have none : 10 ^ (-e - 1).toNat * (10 * 0 + ('0'.toNat - '0'.toNat)) = 0 := by simp
      rw [none, value]
      congr 2
      push_cast
      omega
  · refine ⟨⟨ds.take (e.toNat + 1), stripZeros (ds.drop (e.toNat + 1)), none,
      (taken _ (Nat.succ_pos _)).1, fun c member => all c (List.mem_of_mem_take member),
      stripped fun c member => all c (List.mem_of_mem_drop member),
      fun zero => absurd zero (taken _ (Nat.succ_pos _)).2⟩, ?_, ?_⟩
    · rw [Parts.text, fraction_eq]
      simp
    · rw [Parts.value, Option.getD_none, strip_value, List.take_append_drop, value,
        List.length_drop, length]
      congr 2
      omega

end Numeral
