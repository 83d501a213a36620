import Mathlib.Data.List.TakeWhile
import Mathlib.Data.Rat.Defs
import WebrtcDemo.Lib.Rounding

/-!
# Numerals as C's library reads and prints them

Texts are lists of characters. `intText` prints an integer in decimal,
`formatG p` is `printf`'s `%.{p}g` on a rational, and `atoll` and `strtoul` read
a numeral back: white space, an optional sign, the longest run of digits.
-/

namespace Numeral

/-- C's `isspace` in the default locale. -/
def isSpace (c : Char) : Bool := c ∈ [' ', '\t', '\n', '\x0b', '\x0c', '\r']

/-- The text a `const char *` shows of a string: up to its first NUL. -/
def cString (text : List Char) : List Char := text.takeWhile (· != '\x00')

/-- A decimal numeral. -/
def intText (n : Int) : List Char :=
  if n < 0 then '-' :: Nat.toDigits 10 n.natAbs else Nat.toDigits 10 n.natAbs

/-- What a scan for a numeral finds. -/
structure Scan where
  negative : Bool
  digits : List Char
  rest : List Char

/-- White space, an optional sign, the longest run of digits. -/
def scan (text : List Char) : Scan :=
  match text.dropWhile isSpace with
  | '-' :: more => ⟨true, more.takeWhile Char.isDigit, more.dropWhile Char.isDigit⟩
  | '+' :: more => ⟨false, more.takeWhile Char.isDigit, more.dropWhile Char.isDigit⟩
  | more => ⟨false, more.takeWhile Char.isDigit, more.dropWhile Char.isDigit⟩

/-- The number a scan found, before any range is looked at. -/
def Scan.magnitude (found : Scan) : Nat := Nat.ofDigitChars 10 found.digits 0

/-- The integer that a text is, as a whole: white space, a sign if any, and digits. -/
def decimal? (text : List Char) : Option Int :=
  let found := scan text
  if found.digits.isEmpty ∨ found.rest ≠ [] then none
  else some (if found.negative then -found.magnitude else found.magnitude)

/-- The least and the greatest `long long`. -/
def llongMin : Int := -(2 ^ 63)
def llongMax : Int := 2 ^ 63 - 1

/-- `atoll`, which is `strtoll` in base 10 and clamps what is out of range. -/
def atoll (text : List Char) : Int :=
  let found := scan (cString text)
  let value : Int := if found.negative then -found.magnitude else found.magnitude
  max llongMin (min llongMax value)

/-- What `strtoul` leaves behind: its value, the text at `end_ptr`, whether it
converted anything, and whether it set `errno`. -/
structure Converted where
  value : Nat
  rest : List Char
  converted : Bool
  rangeError : Bool

/-- `strtoul` in base 10 on 64-bit `unsigned long`; a minus sign negates the value
modulo `2 ^ 64`. -/
def strtoul (text : List Char) : Converted :=
  let found := scan (cString text)
  if found.digits.isEmpty then ⟨0, cString text, false, false⟩
  else if 2 ^ 64 ≤ found.magnitude then ⟨2 ^ 64 - 1, found.rest, true, true⟩
  else if found.negative then ⟨(2 ^ 64 - found.magnitude) % 2 ^ 64, found.rest, true, false⟩
  else ⟨found.magnitude, found.rest, true, false⟩

/-- The exponent `e` with `10 ^ e ≤ n / d < 10 ^ (e + 1)`, for positive `n` and `d`. -/
def decimalExponent (n d : Nat) : Int :=
  let guess : Int := (Nat.toDigits 10 n).length - (Nat.toDigits 10 d).length
  if d * 10 ^ guess.toNat ≤ n * 10 ^ (-guess).toNat then guess else guess - 1

/-- Drop the zeros at the end. -/
def stripZeros (digits : List Char) : List Char := (digits.reverse.dropWhile (· == '0')).reverse

/-- A fraction part with its point, or nothing. -/
def fraction (digits : List Char) : List Char :=
  match stripZeros digits with
  | [] => []
  | some_digits => '.' :: some_digits

/-- An exponent as `%e` prints it: a sign and at least two digits. -/
def exponentText (e : Int) : List Char :=
  let digits := Nat.toDigits 10 e.natAbs
  'e' :: (if e < 0 then '-' else '+') :: List.replicate (2 - digits.length) '0' ++ digits

/-- `printf`'s `%.{p}g` of `q`, for `0 < p`. -/
def formatG (p : Nat) (q : Rat) : List Char :=
  if q.num = 0 then ['0'] else
  let n := q.num.natAbs
  let d := q.den
  let e₀ := decimalExponent n d
  -- `p` significant digits; rounding up may carry into one more
  let m₀ := Rounding.divRoundEven (n * 10 ^ (p - 1 - e₀).toNat) (d * 10 ^ (e₀ - (p - 1)).toNat)
  let carried := m₀ = 10 ^ p
  let m := if carried then 10 ^ (p - 1) else m₀
  let e := if carried then e₀ + 1 else e₀
  let digits := Nat.toDigits 10 m
  let magnitude :=
    if e < -4 ∨ (p : Int) ≤ e then
      digits.take 1 ++ fraction (digits.drop 1) ++ exponentText e
    else if e < 0 then
      '0' :: fraction (List.replicate (-e - 1).toNat '0' ++ digits)
    else digits.take (e.toNat + 1) ++ fraction (digits.drop (e.toNat + 1))
  if q.num < 0 then '-' :: magnitude else magnitude

/-- A character that a numeral may begin with, white space before it included. -/
def opensNumeral (c : Char) : Bool := isSpace c || c == '-' || c == '+' || c.isDigit

theorem atoll_le (text : List Char) : atoll text ≤ llongMax := by
  rw [atoll]
  exact max_le (by decide) (min_le_left _ _)

/-- Where there is no digit, the value is 0. -/
theorem atoll_of_no_digits {text : List Char} (none : (scan (cString text)).digits = []) :
    atoll text = 0 := by
  have magnitude : (scan (cString text)).magnitude = 0 := by
    rw [Scan.magnitude, none, Nat.ofDigitChars_nil]
  simp only [atoll, magnitude]
  split_ifs <;> decide

theorem scan_of_head {c : Char} (other : opensNumeral c = false) (more : List Char) :
    scan (c :: more) = ⟨false, [], c :: more⟩ := by
  simp only [opensNumeral, Bool.or_eq_false_iff, beq_eq_false_iff_ne] at other
  obtain ⟨⟨⟨space, minus⟩, plus⟩, digit⟩ := other
  have lead : (c :: more).dropWhile isSpace = c :: more :=
    List.dropWhile_cons_of_neg (Bool.eq_false_iff.1 space)
  rw [scan, lead]
  split
  · next isMinus => exact absurd (List.cons.inj isMinus).1 minus
  · next isPlus => exact absurd (List.cons.inj isPlus).1 plus
  · simp [digit]

/-- A text that begins as no numeral does is read as 0. -/
theorem atoll_of_head {c : Char} (other : opensNumeral c = false) (more : List Char) :
    atoll (c :: more) = 0 := by
  refine atoll_of_no_digits ?_
  by_cases nul : c = '\x00'
  · subst nul
    rfl
  · have start : cString (c :: more) = c :: cString more := by simp [cString, nul]
    rw [start, scan_of_head other]

/-! ## Reading back what was printed -/

theorem digit_of_mem {c : Char} {n : Nat} (member : c ∈ Nat.toDigits 10 n) : c.isDigit :=
  Nat.isDigit_of_mem_toDigits (by norm_num) (by norm_num) member

/-- A digit is neither white space nor a sign nor the end of the text. -/
theorem digit_plain {c : Char} (digit : c.isDigit) :
    ¬ isSpace c ∧ c ≠ '-' ∧ c ≠ '+' ∧ c ≠ '\x00' := by
  refine ⟨fun space => ?_, ?_, ?_, ?_⟩
  · simp only [isSpace, List.mem_cons, List.not_mem_nil, or_false, decide_eq_true_eq] at space
    rcases space with rfl | rfl | rfl | rfl | rfl | rfl <;> exact absurd digit (by decide)
  all_goals
    rintro rfl
    exact absurd digit (by decide)

theorem cString_intText (n : Int) : cString (intText n) = intText n := by
  refine List.takeWhile_eq_self_iff.2 fun c member => ?_
  have plain : c ≠ '\x00' := by
    rw [intText] at member
    split_ifs at member
    · rcases List.mem_cons.1 member with rfl | digit
      · decide
      · exact (digit_plain (digit_of_mem digit)).2.2.2
    · exact (digit_plain (digit_of_mem member)).2.2.2
  simpa using plain

theorem scan_intText (n : Int) : scan (intText n) = ⟨n < 0, Nat.toDigits 10 n.natAbs, []⟩ := by
  have digits : ∀ c ∈ Nat.toDigits 10 n.natAbs, c.isDigit := fun _ => digit_of_mem
  have taken := List.takeWhile_eq_self_iff.2 digits
  have dropped : (Nat.toDigits 10 n.natAbs).dropWhile Char.isDigit = [] :=
    List.dropWhile_eq_nil_iff.2 digits
  rw [intText, scan]
  split_ifs with negative
  · have sign : ('-' :: Nat.toDigits 10 n.natAbs).dropWhile isSpace =
        '-' :: Nat.toDigits 10 n.natAbs := List.dropWhile_cons_of_neg (by decide)
    simp [sign, taken, dropped, negative]
  · obtain ⟨c, more, same⟩ := List.exists_cons_of_ne_nil (Nat.toDigits_ne_nil (n := n.natAbs) (b := 10))
    have plain := digit_plain (digits c (same ▸ List.mem_cons_self))
    have lead : (Nat.toDigits 10 n.natAbs).dropWhile isSpace = c :: more := by
      rw [same]
      exact List.dropWhile_cons_of_neg plain.1
    rw [lead]
    split
    · next isMinus => exact absurd (List.cons.inj isMinus).1 plain.2.1
    · next isPlus => exact absurd (List.cons.inj isPlus).1 plain.2.2.1
    · rw [← same, taken, dropped, decide_eq_false negative]

/-- A text that is a numeral to its end has no NUL. -/
theorem cString_of_scan {text : List Char} (whole : (scan text).rest = []) : cString text = text := by
  have digits : ∀ more : List Char, more.dropWhile Char.isDigit = [] → ∀ c ∈ more, c ≠ '\x00' :=
    fun more none c member => (digit_plain (List.dropWhile_eq_nil_iff.1 none c member)).2.2.2
  have later : ∀ c ∈ text.dropWhile isSpace, c ≠ '\x00' := by
    rw [scan] at whole
    split at whole
    · next more sign =>
      rw [sign]
      exact List.forall_mem_cons.2 ⟨by decide, digits more whole⟩
    · next more sign =>
      rw [sign]
      exact List.forall_mem_cons.2 ⟨by decide, digits more whole⟩
    · exact digits _ whole
  refine List.takeWhile_eq_self_iff.2 fun c member => bne_iff_ne.2 ?_
  rw [← List.takeWhile_append_dropWhile (p := isSpace) (l := text)] at member
  rcases List.mem_append.1 member with space | rest
  · rintro rfl
    exact absurd (List.mem_takeWhile_imp space) (by decide)
  · exact later c rest

/-- A numeral in range is converted to its number. -/
theorem strtoul_of_decimal {text : List Char} {n : Int} (decimal : decimal? text = some n)
    (least : 0 ≤ n) (small : n < 2 ^ 64) : strtoul text = ⟨n.toNat, [], true, false⟩ := by
  simp only [decimal?, Option.ite_none_left_eq_some, not_or, not_not, Option.some.injEq] at decimal
  obtain ⟨⟨digits, whole⟩, value⟩ := decimal
  simp only [strtoul]
  rw [cString_of_scan whole, if_neg digits, whole]
  cases sign : (scan text).negative with
  | false =>
    rw [sign, if_neg Bool.false_ne_true] at value
    have same : (scan text).magnitude = n.toNat := by omega
    rw [same, if_neg (by omega), if_neg Bool.false_ne_true]
  | true =>
    rw [sign, if_pos rfl] at value
    have zero : (scan text).magnitude = 0 := by omega
    have zero' : n.toNat = 0 := by omega
    rw [zero, zero']
    rfl

/-- **A `long long` survives the way through its text.** -/
theorem atoll_intText {n : Int} (low : llongMin ≤ n) (high : n ≤ llongMax) :
    atoll (intText n) = n := by
  have value : (if n < 0 then -(n.natAbs : Int) else n.natAbs) = n := by
    split_ifs <;> omega
  rw [atoll, cString_intText, scan_intText]
  simp only [Scan.magnitude, Nat.ofDigitChars_ten_toDigits, decide_eq_true_eq]
  rw [value, min_eq_right high, max_eq_right low]

end Numeral
