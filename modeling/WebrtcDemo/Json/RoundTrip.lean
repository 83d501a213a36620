import Mathlib.Tactic.NormNum
import Mathlib.Tactic.Ring
import WebrtcDemo.Json.JsonTools
import WebrtcDemo.Json.Reader
import WebrtcDemo.Lib.Decimal

/-!
# What is written is read

The text that `FastWriter` writes of a value says that value, and no other: strings whatever
their characters, and doubles whatever their exponent, since 17 decimal digits tell every
double. The text is ASCII.
-/

namespace WebrtcDemo.JsonText

open FastWriter Numeral

/-! ## Strings -/

/-- A hexadecimal numeral of at least this many digits. -/
def padHex (width n : Nat) : List Char :=
  List.replicate (width - (Nat.toDigits 16 n).length) '0' ++ Nat.toDigits 16 n

theorem padHex_succ (width n : Nat) :
    padHex (width + 2) n = padHex (width + 1) (n / 16) ++ [Nat.digitChar (n % 16)] := by
  rcases Nat.lt_or_ge n 16 with small | large
  · have low : n / 16 = 0 := Nat.div_eq_of_lt small
    simp [padHex, low, Nat.toDigits_of_lt_base small, Nat.mod_eq_of_lt small, List.replicate_succ']
  · have fewer (digits : Nat) : width + 2 - (digits + 1) = width + 1 - digits := by omega
    rw [padHex, padHex, Nat.toDigits_of_base_le (by decide) large, List.length_append,
      List.length_singleton, fewer, List.append_assoc]

theorem hexDigit_digitChar {d : Nat} (small : d < 16) : hexDigit? d.digitChar = some d := by
  have all : ∀ d < 16, hexDigit? d.digitChar = some d := by decide
  exact all d small

/-- Four hexadecimal digits, one by one. -/
theorem padHex_four {n : Nat} (small : n < 0x10000) :
    padHex 4 n = [(n / 16 / 16 / 16).digitChar, (n / 16 / 16 % 16).digitChar,
      (n / 16 % 16).digitChar, (n % 16).digitChar] := by
  have top : n / 16 / 16 / 16 < 16 := by omega
  rw [padHex_succ, padHex_succ, padHex_succ, padHex, Nat.toDigits_of_lt_base top]
  rfl

theorem readUnit_padHex {n : Nat} (small : n < 0x10000) (rest : List Char) :
    readUnit (padHex 4 n ++ rest) = some (n, rest) := by
  have top : n / 16 / 16 / 16 < 16 := by omega
  have digit : ∀ m, m % 16 < 16 := fun m => Nat.mod_lt m (by decide)
  simp only [padHex_four small, List.cons_append, List.nil_append, readUnit,
    hexDigit_digitChar top, hexDigit_digitChar (digit _)]
  congr 2
  omega

/-- A character is no surrogate. -/
theorem char_valid (c : Char) : c.toNat < 0xd800 ∨ 0xe000 ≤ c.toNat ∧ c.toNat < 0x110000 := by
  rcases c.valid with low | ⟨high, bound⟩
  · exact Or.inl low
  · exact Or.inr ⟨high, bound⟩

theorem readUnicode_small {c : Char} (small : c.toNat < 0x10000) (rest : List Char) :
    readUnicode (padHex 4 c.toNat ++ rest) = some (c, rest) := by
  have valid := char_valid c
  have first : ¬ (0xd800 ≤ c.toNat ∧ c.toNat < 0xdc00) := by omega
  have second : ¬ (0xdc00 ≤ c.toNat ∧ c.toNat < 0xe000) := by omega
  simp only [readUnicode, readUnit_padHex small, if_neg first, if_neg second, Char.ofNat_toNat]

/-- A pair of surrogates is one character. -/
theorem readUnicode_pair {unit low : Nat} (first : 0xd800 ≤ unit ∧ unit < 0xdc00)
    (second : 0xdc00 ≤ low ∧ low < 0xe000) (rest : List Char) :
    readUnicode (padHex 4 unit ++ '\\' :: 'u' :: padHex 4 low ++ rest) =
      some (Char.ofNat (0x10000 + (unit - 0xd800) * 0x400 + (low - 0xdc00)), rest) := by
  rw [List.append_assoc, List.cons_append, List.cons_append]
  simp only [readUnicode]
  rw [readUnit_padHex (by omega)]
  simp only
  rw [if_pos first, readUnit_padHex (by omega)]
  simp only
  rw [if_pos second]

/-- Characters beyond the first plane are written as a pair of surrogates. -/
theorem readUnicode_large {c : Char} (large : 0x10000 ≤ c.toNat) (rest : List Char) :
    readUnicode (padHex 4 (0xd800 + (c.toNat - 0x10000) / 0x400) ++
      '\\' :: 'u' :: padHex 4 (0xdc00 + (c.toNat - 0x10000) % 0x400) ++ rest) = some (c, rest) := by
  have valid := char_valid c
  have whole : 0x10000 + (0xd800 + (c.toNat - 0x10000) / 0x400 - 0xd800) * 0x400 +
      (0xdc00 + (c.toNat - 0x10000) % 0x400 - 0xdc00) = c.toNat := by omega
  rw [readUnicode_pair (by omega) (by omega), whole, Char.ofNat_toNat]

theorem appendHex_eq (unit : Nat) : appendHex unit = '\\' :: 'u' :: padHex 4 unit := rfl

theorem readChar_unicode (text : List Char) :
    readChar ('\\' :: 'u' :: text) = readUnicode text := rfl

theorem readChar_escape (c : Char) (rest : List Char) :
    readChar (escape c ++ rest) = some (c, rest) := by
  unfold escape
  split
  iterate 7 rfl
  next quote backslash _ _ _ _ _ =>
    split_ifs with plain small
    · have other : ¬ (c.toNat < 0x20 ∨ c = '"') := by
        rintro (control | rfl)
        · omega
        · exact quote rfl
      rw [List.singleton_append, readChar.eq_3 _ _ (fun same => backslash same), if_neg other]
    · rw [appendHex_eq, List.cons_append, List.cons_append, readChar_unicode,
        readUnicode_small small]
    · rw [appendHex_eq, appendHex_eq, List.cons_append, List.cons_append, List.cons_append,
        List.cons_append, readChar_unicode, readUnicode_large (Nat.le_of_not_lt small)]

/-- No escape begins with the quote that ends the string. -/
theorem escape_head (c : Char) : ∃ a more, escape c = a :: more ∧ a ≠ '"' := by
  unfold escape
  split
  iterate 7 exact ⟨_, _, rfl, by decide⟩
  next quote _ _ _ _ _ _ =>
    split_ifs with plain small
    · exact ⟨c, [], rfl, quote⟩
    · exact ⟨_, _, rfl, by decide⟩
    · exact ⟨_, _, rfl, by decide⟩

theorem readChars_quote (fuel : Nat) (rest : List Char) :
    readChars fuel ('"' :: rest) = some ([], rest) := by
  cases fuel <;> rfl

/-- **Every string is read from what is written of it.** -/
theorem readChars_escape (rest cs : List Char) {fuel : Nat} (enough : cs.length ≤ fuel) :
    readChars fuel (cs.flatMap escape ++ '"' :: rest) = some (cs, rest) := by
  induction cs generalizing fuel with
  | nil => exact readChars_quote fuel rest
  | cons c cs ih =>
    obtain ⟨fuel, rfl⟩ := Nat.exists_eq_succ_of_ne_zero (Nat.ne_of_gt (Nat.lt_of_lt_of_le
      (Nat.succ_pos _) enough))
    obtain ⟨a, more, escaped, other⟩ := escape_head c
    have read := readChar_escape c (cs.flatMap escape ++ '"' :: rest)
    rw [List.flatMap_cons, List.append_assoc]
    rw [escaped, List.cons_append] at read ⊢
    rw [readChars.eq_3 _ _ (fun _ same => other (List.cons.inj same).1), read]
    simp only [ih (Nat.le_of_succ_le_succ enough), Option.map_some]

/-! ## Numbers -/

/-- A text that may follow a value: nothing, or a comma or a closing bracket first. -/
def ends (text : List Char) : Bool := text.head?.all (· ∈ [',', ']', '}'])

theorem ends_cases {rest : List Char} (follows : ends rest) :
    rest = [] ∨ ∃ c more, rest = c :: more ∧ (c = ',' ∨ c = ']' ∨ c = '}') := by
  cases rest with
  | nil => exact Or.inl rfl
  | cons c more => exact Or.inr ⟨c, more, rfl, by simpa [ends] using follows⟩

/-- Digits are taken up to what is no digit. -/
theorem digits_span {digits rest : List Char} (all : ∀ c ∈ digits, c.isDigit)
    (stops : ∀ c ∈ rest.head?, c.isDigit = false) :
    (digits ++ rest).takeWhile Char.isDigit = digits ∧
      (digits ++ rest).dropWhile Char.isDigit = rest := by
  have none : rest.takeWhile Char.isDigit = [] ∧ rest.dropWhile Char.isDigit = rest := by
    cases rest with
    | nil => exact ⟨rfl, rfl⟩
    | cons c more =>
      have no : ¬ c.isDigit := Bool.eq_false_iff.1 (stops c rfl)
      exact ⟨List.takeWhile_cons_of_neg no, List.dropWhile_cons_of_neg no⟩
  constructor
  · rw [List.takeWhile_append_of_pos all, none.1, List.append_nil]
  · rw [List.dropWhile_append_of_pos all, none.2]

theorem ends_stops {rest : List Char} (follows : ends rest) :
    ∀ c ∈ rest.head?, c.isDigit = false := by
  obtain rfl | ⟨c, more, rfl, rfl | rfl | rfl⟩ := ends_cases follows <;> simp

theorem readExponent_ends {rest : List Char} (follows : ends rest) :
    readExponent rest = some (none, rest) := by
  obtain rfl | ⟨c, more, rfl, rfl | rfl | rfl⟩ := ends_cases follows <;> rfl

theorem readExponent_text (e : Int) {rest : List Char} (follows : ends rest) :
    readExponent (exponentText e ++ rest) = some (some e, rest) := by
  let digits := List.replicate (2 - (Nat.toDigits 10 e.natAbs).length) '0' ++
    Nat.toDigits 10 e.natAbs
  have all : ∀ c ∈ digits, c.isDigit := by
    intro c member
    rcases List.mem_append.1 member with zero | digit
    · rw [List.eq_of_mem_replicate zero]
      rfl
    · exact digit_of_mem digit
  have some_ : digits ≠ [] := List.append_ne_nil_of_right_ne_nil _ Nat.toDigits_ne_nil
  have value : Nat.ofDigitChars 10 digits 0 = e.natAbs := by
    rw [Nat.ofDigitChars_append, Nat.ofDigitChars_replicate_zero, Nat.mul_zero,
      Nat.ofDigitChars_ten_toDigits]
  obtain ⟨taken, dropped⟩ := digits_span all (ends_stops follows)
  have text : exponentText e = 'e' :: (if e < 0 then '-' else '+') :: digits := rfl
  rw [text]
  split_ifs with negative
  · have read : readExponent ('e' :: '-' :: (digits ++ rest)) = some (some (-e.natAbs : Int), rest) := by
      simp only [readExponent, taken, dropped, value, if_neg some_]
      rfl
    rw [List.cons_append, List.cons_append, read]
    congr 3
    omega
  · have read : readExponent ('e' :: '+' :: (digits ++ rest)) = some (some (e.natAbs : Int), rest) := by
      simp only [readExponent, taken, dropped, value, if_neg some_]
      rfl
    rw [List.cons_append, List.cons_append, read]
    congr 3
    omega

/-- An exponent if there is one, and what follows it. -/
theorem readExponent_parts (x : Option Int) {rest : List Char} (follows : ends rest) :
    readExponent (x.elim [] exponentText ++ rest) = some (x, rest) := by
  cases x with
  | none => exact readExponent_ends follows
  | some e => exact readExponent_text e follows

/-- What an exponent or the end begins with is neither a digit nor a point. -/
theorem exponent_head (x : Option Int) {rest : List Char} (follows : ends rest) :
    ∀ c ∈ (x.elim [] exponentText ++ rest).head?, c.isDigit = false ∧ c ≠ '.' := by
  cases x with
  | none => obtain rfl | ⟨c, more, rfl, rfl | rfl | rfl⟩ := ends_cases follows <;> simp
  | some e => simp [exponentText]

theorem readFraction_point {digits rest : List Char} (all : ∀ c ∈ digits, c.isDigit)
    (head : ∀ c ∈ rest.head?, c.isDigit = false ∧ c ≠ '.') :
    readFraction (point digits ++ rest) = some (digits, rest) := by
  cases digits with
  | nil =>
    cases rest with
    | nil => rfl
    | cons c more => exact readFraction.eq_2 _ fun _ same => (head c rfl).2 (List.cons.inj same).1
  | cons d more =>
    obtain ⟨taken, dropped⟩ := digits_span all fun c member => (head c member).1
    rw [point, List.cons_append, readFraction, taken, dropped, if_neg (List.cons_ne_nil _ _)]

theorem readDigits_whole {digits rest : List Char} (all : ∀ c ∈ digits, c.isDigit)
    (some_ : digits ≠ []) (lead : digits.head? = some '0' → digits.length = 1)
    (stops : ∀ c ∈ rest.head?, c.isDigit = false) :
    readDigits (digits ++ rest) = some (digits, rest) := by
  obtain ⟨taken, dropped⟩ := digits_span all stops
  have plain : ¬ (digits = [] ∨ digits.head? = some '0' ∧ digits.length ≠ 1) := by
    rintro (empty | ⟨zero, more⟩)
    · exact some_ empty
    · exact more (lead zero)
  simp only [readDigits, taken, dropped, if_neg plain]

/-- **A numeral is read by its parts.** -/
theorem readUnsigned_parts (negative : Bool) (parts : Parts) {rest : List Char}
    (follows : ends rest) :
    readUnsigned negative (parts.text ++ rest) =
      some (number negative parts.whole parts.fraction parts.exponent, rest) := by
  have head := exponent_head parts.exponent follows
  have stops : ∀ c ∈ (point parts.fraction ++ (parts.exponent.elim [] exponentText ++ rest)).head?,
      c.isDigit = false := by
    cases parts.fraction with
    | nil => exact fun c member => (head c member).1
    | cons d more => simp [point]
  rw [Parts.text, List.append_assoc, List.append_assoc, readUnsigned,
    readDigits_whole parts.whole_digits parts.whole_ne_nil parts.lead stops]
  simp only [readFraction_point parts.fraction_digits head, readExponent_parts parts.exponent follows,
    Option.map_some]

/-- A text after its sign, if it has one. -/
theorem readNumber_signed {negative : Prop} [Decidable negative] {text rest : List Char}
    (head : ∀ c ∈ (text ++ rest).head?, c.isDigit) :
    readNumber ((if negative then '-' :: text else text) ++ rest) =
      readUnsigned negative (text ++ rest) := by
  split_ifs with minus
  · rw [decide_eq_true minus]
    rfl
  · rw [decide_eq_false minus, readNumber.eq_2]
    intro more same
    rw [same] at head
    exact absurd (head '-' rfl) (by decide)

theorem readNumber_int (n : Int) {rest : List Char} (follows : ends rest) :
    readNumber (intText n ++ rest) = some (.int n, rest) := by
  have signed : (if n < 0 then -(n.natAbs : Int) else n.natAbs) = n := by split_ifs <;> omega
  have read := readUnsigned_parts (n < 0) (integral n.natAbs) follows
  have head := (integral n.natAbs).head_digit rest
  rw [integral_text] at read head
  rw [intText, readNumber_signed head, read]
  simp only [number, integral, List.append_nil, Nat.ofDigitChars_ten_toDigits, decide_eq_true_eq,
    signed]

/-- With a point or an exponent, a numeral is a double. -/
theorem number_real {negative : Bool} {parts : Parts}
    (marked : parts.fraction ≠ [] ∨ parts.exponent ≠ none) :
    number negative parts.whole parts.fraction parts.exponent =
      .real (Rounding.roundRat 53 (if negative then -parts.value else parts.value)) := by
  rw [number, Parts.value]
  · congr 2
    split_ifs <;> push_cast <;> ring
  · exact fun fraction exponent => marked.elim (· fraction) (· exponent)

/-- The text of a number that is not 0, with a mark that it is a double. -/
theorem realText_layout {q : Rat} (nonzero : q ≠ 0) :
    ∃ parts : Parts, (realText q = if q.num < 0 then '-' :: parts.text else parts.text) ∧
      (parts.fraction ≠ [] ∨ parts.exponent ≠ none) ∧
      2 * 10 ^ 16 * abs (parts.value - abs q) ≤ abs q := by
  obtain ⟨m, e, low, high, error, text⟩ := formatG_layout (p := 17) (by decide) nonzero
  obtain ⟨parts, laid, value⟩ := layout_parts (by decide) low high e
  rw [← value] at error
  rw [laid] at text
  by_cases marked : parts.fraction ≠ [] ∨ parts.exponent ≠ none
  · refine ⟨parts, ?_, marked, by exact_mod_cast error⟩
    have mark : '.' ∈ formatG 17 q ∨ 'e' ∈ formatG 17 q := by
      have inside : '.' ∈ parts.text ∨ 'e' ∈ parts.text := parts.marked_iff.1 marked
      rw [text]
      split_ifs
      · exact inside.imp (List.mem_cons_of_mem _) (List.mem_cons_of_mem _)
      · exact inside
    rw [realText, if_pos mark, text]
  · refine ⟨parts.tenths, ?_, Or.inl (List.cons_ne_nil _ _), ?_⟩
    · have mark : ¬ ('.' ∈ formatG 17 q ∨ 'e' ∈ formatG 17 q) := by
        have inside : ¬ ('.' ∈ parts.text ∨ 'e' ∈ parts.text) := mt parts.marked_iff.2 marked
        rw [text]
        split_ifs
        · simpa using inside
        · exact inside
      have whole : ¬ parts.fraction ≠ [] ∧ ¬ parts.exponent ≠ none := not_or.1 marked
      rw [realText, if_neg mark, text, parts.tenths_text (not_not.1 whole.1) (not_not.1 whole.2)]
      split_ifs <;> rfl
    · have whole : ¬ parts.fraction ≠ [] ∧ ¬ parts.exponent ≠ none := not_or.1 marked
      rw [parts.tenths_value (not_not.1 whole.1) (not_not.1 whole.2)]
      exact_mod_cast error

/-- **The text of a double** is a numeral with a point or an exponent, and 17 digits are enough
to tell the double. -/
theorem realText_parts {q : Rat} (fits : Rounding.Fits 53 q) :
    ∃ parts : Parts, (realText q = if q.num < 0 then '-' :: parts.text else parts.text) ∧
      (parts.fraction ≠ [] ∨ parts.exponent ≠ none) ∧
      Rounding.roundRat 53 (if q.num < 0 then -parts.value else parts.value) = q := by
  by_cases zero : q = 0
  · subst zero
    let parts : Parts := ⟨['0'], ['0'], none, by simp, by simp, by simp, by simp⟩
    have none : parts.value = 0 := by
      have zeros : Nat.ofDigitChars 10 ['0', '0'] 0 = 0 := rfl
      simp [parts, Parts.value, zeros]
    refine ⟨parts, by decide, Or.inl (by simp [parts]), ?_⟩
    rw [none, neg_zero, ite_self, Rounding.roundRat_zero]
  obtain ⟨parts, text, marked, error⟩ := realText_layout zero
  refine ⟨parts, text, marked, Rounding.roundRat_near fits ?_⟩
  have size : abs ((if q.num < 0 then -parts.value else parts.value) - q) =
      abs (parts.value - abs q) := by
    split_ifs with negative
    · rw [abs_of_neg (Rat.num_neg.1 negative), ← abs_neg]
      congr 1
      ring
    · rw [abs_of_nonneg (Rat.num_nonneg.1 (not_lt.1 negative))]
  rw [size]
  have some_ : 0 < abs q := abs_pos.2 zero
  -- 17 decimal digits tell more than 53 bits
  have binary : (2 : Rat) ^ (52 + 2) = 18014398509481984 := by norm_num
  have decimal : (2 * 10 ^ 16 : Rat) = 20000000000000000 := by norm_num
  rw [binary]
  rw [decimal] at error
  linarith

theorem readNumber_real {q : Rat} (fits : Rounding.Fits 53 q) {rest : List Char}
    (follows : ends rest) : readNumber (realText q ++ rest) = some (.real q, rest) := by
  obtain ⟨parts, text, marked, near⟩ := realText_parts fits
  have value : number (q.num < 0) parts.whole parts.fraction parts.exponent = .real q := by
    rw [number_real marked]
    simp only [decide_eq_true_eq, near]
  rw [text, readNumber_signed (parts.head_digit rest), readUnsigned_parts _ parts follows, value]

theorem realText_head {q : Rat} (fits : Rounding.Fits 53 q) :
    ∃ c more, realText q = c :: more ∧ (c = '-' ∨ c.isDigit) := by
  obtain ⟨parts, text, -, -⟩ := realText_parts fits
  rw [text]
  split_ifs
  · exact ⟨'-', _, rfl, Or.inl rfl⟩
  · obtain ⟨d, more, same⟩ := List.exists_cons_of_ne_nil parts.whole_ne_nil
    refine ⟨d, _, by rw [Parts.text, same]; rfl, Or.inr ?_⟩
    exact parts.whole_digits d (same ▸ List.mem_cons_self)

/-! ## Values -/

mutual
/-- All real numbers of a value are doubles, whatever their exponent. -/
def Plain : Json → Prop
  | .real q => Rounding.Fits 53 q
  | .arr elements => PlainElements elements
  | .obj members => PlainMembers members
  | _ => True

def PlainElements : List Json → Prop
  | [] => True
  | element :: more => Plain element ∧ PlainElements more

def PlainMembers : List (String × Json) → Prop
  | [] => True
  | (_, value) :: more => Plain value ∧ PlainMembers more
end

theorem skip_of_head {c : Char} (visible : c ∉ [' ', '\t', '\n', '\r']) (more : List Char) :
    skip (c :: more) = c :: more :=
  List.dropWhile_cons_of_neg (by simpa using visible)

/-- What a number begins with is none of what is neither a sign nor a digit. -/
theorem notMem_of_numeral {c : Char} {cs : List Char} (head : c = '-' ∨ c.isDigit)
    (others : cs.all (fun d => !(d == '-' || d.isDigit)) = true) : c ∉ cs := by
  intro member
  have other := List.all_eq_true.1 others c member
  rcases head with rfl | digit
  · exact absurd other (by decide)
  · rw [digit, Bool.or_true] at other
    exact absurd other (by decide)

theorem readValue_number {c : Char} (head : c = '-' ∨ c.isDigit) (fuel : Nat) (more : List Char) :
    readValue (fuel + 1) (c :: more) = readNumber (c :: more) := by
  have other {d : Char} (member : d ∈ ['n', 't', 'f', '"', '[', '\x7b']) : c ≠ d :=
    fun same => notMem_of_numeral head rfl (same ▸ member)
  rw [readValue, skip_of_head (notMem_of_numeral head rfl)]
  split
  next same => exact absurd (List.cons.inj same).1 (other (d := 'n') (by decide))
  next same => exact absurd (List.cons.inj same).1 (other (d := 't') (by decide))
  next same => exact absurd (List.cons.inj same).1 (other (d := 'f') (by decide))
  next same => exact absurd (List.cons.inj same).1 (other (d := '"') (by decide))
  next same => exact absurd (List.cons.inj same).1 (other (d := '[') (by decide))
  next same => exact absurd (List.cons.inj same).1 (other (d := '\x7b') (by decide))
  next => rfl

theorem intText_head (n : Int) : ∃ c more, intText n = c :: more ∧ (c = '-' ∨ c.isDigit) := by
  rw [intText]
  split_ifs
  · exact ⟨'-', _, rfl, Or.inl rfl⟩
  · obtain ⟨c, more, same⟩ := List.exists_cons_of_ne_nil
      (Nat.toDigits_ne_nil (n := n.natAbs) (b := 10))
    exact ⟨c, more, same, Or.inr (digit_of_mem (same ▸ List.mem_cons_self : c ∈ Nat.toDigits 10 n.natAbs))⟩

theorem quoted_append (s : String) (rest : List Char) :
    quoted s ++ rest = '"' :: (s.toList.flatMap escape ++ '"' :: rest) := by
  simp [quoted]

theorem escaped_length (s : String) (rest : List Char) :
    s.toList.length ≤ (s.toList.flatMap escape ++ '"' :: rest).length := by
  have each : ∀ cs : List Char, cs.length ≤ (cs.flatMap escape).length := by
    intro cs
    induction cs with
    | nil => exact le_rfl
    | cons c cs ih =>
      obtain ⟨a, more, escaped, -⟩ := escape_head c
      simp only [List.flatMap_cons, escaped, List.length_append, List.length_cons]
      omega
  have := each s.toList
  rw [List.length_append]
  omega

theorem readValue_quoted (s : String) (fuel : Nat) (rest : List Char) :
    readValue (fuel + 1) (quoted s ++ rest) = some (.str s, rest) := by
  rw [quoted_append, readValue, skip_of_head (by decide)]
  simp only [readChars_escape _ _ (escaped_length s rest), Option.map_some, String.ofList_toList]

/-- What is written begins neither with white space nor with a closing bracket. -/
theorem write_opens (value : Json) (plain : Plain value) :
    ∃ c more, write value = c :: more ∧ c ∉ [' ', '\t', '\n', '\r', ']'] := by
  cases value with
  | null => exact ⟨'n', "ull".toList, by rw [write]; rfl, by decide⟩
  | bool b =>
    cases b with
    | false => exact ⟨'f', "alse".toList, by rw [write]; rfl, by decide⟩
    | true => exact ⟨'t', "rue".toList, by rw [write]; rfl, by decide⟩
  | int n =>
    obtain ⟨c, more, same, head⟩ := intText_head n
    exact ⟨c, more, by rw [write, same], notMem_of_numeral head rfl⟩
  | real q =>
    obtain ⟨c, more, same, head⟩ := realText_head plain
    exact ⟨c, more, by rw [write, same], notMem_of_numeral head rfl⟩
  | str s => exact ⟨'"', _, by rw [write, quoted, List.cons_append], by decide⟩
  | arr elements => exact ⟨'[', _, by rw [write, List.cons_append], by decide⟩
  | obj members => exact ⟨'\x7b', _, by rw [write, List.cons_append], by decide⟩

theorem writeElements_cons (element next : Json) (more : List Json) :
    writeElements (element :: next :: more) =
      write element ++ ',' :: writeElements (next :: more) := by
  rw [writeElements]
  exact List.cons_ne_nil _ _

theorem writeMembers_cons (key : String) (value : Json) (next : String × Json)
    (more : List (String × Json)) :
    writeMembers ((key, value) :: next :: more) =
      quoted key ++ ':' :: (write value ++ ',' :: writeMembers (next :: more)) := by
  rw [writeMembers]
  · rw [List.append_assoc, List.cons_append]
  · exact List.cons_ne_nil _ _

theorem writeElements_opens {elements : List Json} (plain : PlainElements elements)
    (some_ : elements ≠ []) (rest : List Char) :
    ∃ c more, writeElements elements ++ rest = c :: more ∧ c ∉ [' ', '\t', '\n', '\r', ']'] := by
  match elements with
  | [] => exact absurd rfl some_
  | [element] =>
    obtain ⟨c, more, same, head⟩ := write_opens element plain.1
    exact ⟨c, more ++ rest, by rw [writeElements, same]; rfl, head⟩
  | element :: next :: others =>
    obtain ⟨c, more, same, head⟩ := write_opens element plain.1
    exact ⟨c, more ++ ',' :: writeElements (next :: others) ++ rest,
      by rw [writeElements_cons, same]; rfl, head⟩

theorem writeMembers_opens {members : List (String × Json)} (some_ : members ≠ [])
    (rest : List Char) : ∃ more, writeMembers members ++ rest = '"' :: more := by
  match members with
  | [] => exact absurd rfl some_
  | [(key, value)] => exact ⟨_, by rw [writeMembers, quoted, List.cons_append]; rfl⟩
  | (key, value) :: next :: others =>
    exact ⟨_, by rw [writeMembers_cons, quoted, List.cons_append]; rfl⟩

/-- The colon and the comma are read past. -/
theorem readMembers_quoted (key : String) (fuel : Nat) (rest : List Char) :
    readMembers (fuel + 1) (quoted key ++ ':' :: rest) =
      match readValue fuel rest with
      | none => none
      | some (value, rest) =>
        match skip rest with
        | ',' :: rest =>
          (readMembers fuel rest).map fun read => ((key, value) :: read.1, read.2)
        | '\x7d' :: rest => some ([(key, value)], rest)
        | _ => none := by
  rw [quoted_append, readMembers, skip_of_head (by decide)]
  simp only [readChars_escape _ _ (escaped_length key _), String.ofList_toList]
  rw [skip_of_head (by decide)]
  rfl

mutual
theorem readValue_write : (value : Json) → Plain value → ∀ {rest}, ends rest → ∀ {fuel},
    (write value).length ≤ fuel → readValue fuel (write value ++ rest) = some (value, rest)
  | .null, _, rest, _, fuel + 1, _ => by
    rw [write]
    rfl
  | .bool true, _, rest, _, fuel + 1, _ => by
    rw [write]
    rfl
  | .bool false, _, rest, _, fuel + 1, _ => by
    rw [write]
    rfl
  | .int n, _, rest, follows, fuel + 1, _ => by
    obtain ⟨c, more, same, head⟩ := intText_head n
    rw [write, ← readNumber_int n follows, same, List.cons_append, readValue_number head]
  | .real q, plain, rest, follows, fuel + 1, _ => by
    obtain ⟨c, more, same, head⟩ := realText_head plain
    rw [write, ← readNumber_real plain follows, same, List.cons_append, readValue_number head]
  | .str s, _, rest, _, fuel + 1, _ => by
    rw [write, readValue_quoted]
  | .arr [], _, rest, _, fuel + 1, _ => by
    rw [write, writeElements]
    rfl
  | .arr (element :: more), plain, rest, _, fuel + 1, enough => by
    obtain ⟨c, others, opens, head⟩ :=
      writeElements_opens plain (List.cons_ne_nil element more) (']' :: rest)
    rw [write, List.length_append, List.length_cons, List.length_singleton] at enough
    have read : readElements fuel (writeElements (element :: more) ++ ']' :: rest) =
        some (element :: more, rest) :=
      readElements_write (element :: more) plain (List.cons_ne_nil _ _) (by omega)
    simp only [List.mem_cons, not_or] at head
    rw [opens] at read
    rw [write, List.append_assoc, List.cons_append, List.singleton_append, opens, readValue,
      skip_of_head (by decide)]
    simp only [skip_of_head (by simp [head] : c ∉ [' ', '\t', '\n', '\r']), read, Option.map_some]
    split
    next same => exact absurd (List.cons.inj same).1 head.2.2.2.2.1
    next => rfl
  | .obj [], _, rest, _, fuel + 1, _ => by
    rw [write, writeMembers]
    rfl
  | .obj (member :: more), plain, rest, _, fuel + 1, enough => by
    obtain ⟨others, opens⟩ := writeMembers_opens (List.cons_ne_nil member more) ('\x7d' :: rest)
    rw [write, List.length_append, List.length_cons, List.length_singleton] at enough
    have read : readMembers fuel (writeMembers (member :: more) ++ '\x7d' :: rest) =
        some (member :: more, rest) :=
      readMembers_write (member :: more) plain (List.cons_ne_nil _ _) (by omega)
    rw [opens] at read
    rw [write, List.append_assoc, List.cons_append, List.singleton_append, opens, readValue,
      skip_of_head (by decide)]
    simp only [skip_of_head (by decide : '"' ∉ [' ', '\t', '\n', '\r']), read, Option.map_some]
    rfl
  | value, plain, rest, _, 0, enough => by
    obtain ⟨c, more, opens, -⟩ := write_opens value plain
    rw [opens] at enough
    exact absurd enough (Nat.not_succ_le_zero _)

theorem readElements_write : (elements : List Json) → PlainElements elements → elements ≠ [] →
    ∀ {rest fuel}, (writeElements elements).length < fuel →
      readElements fuel (writeElements elements ++ ']' :: rest) = some (elements, rest)
  | [], _, empty, _, _, _ => absurd rfl empty
  | _ :: _, _, _, _, 0, enough => absurd enough (Nat.not_lt_zero _)
  | [element], plain, _, rest, fuel + 1, enough => by
    rw [writeElements] at enough ⊢
    rw [readElements, readValue_write element plain.1 rfl (Nat.le_of_lt_succ enough)]
    rfl
  | element :: next :: more, plain, _, rest, fuel + 1, enough => by
    rw [writeElements_cons, List.length_append, List.length_cons] at enough
    rw [writeElements_cons, List.append_assoc, List.cons_append, readElements,
      readValue_write element plain.1 rfl (by omega)]
    have later : readElements fuel (writeElements (next :: more) ++ ']' :: rest) =
        some (next :: more, rest) := by
      obtain ⟨c, others, opens, -⟩ := write_opens element plain.1
      rw [opens, List.length_cons] at enough
      exact readElements_write (next :: more) plain.2 (List.cons_ne_nil _ _) (by omega)
    simp only [skip_of_head (by decide : ',' ∉ [' ', '\t', '\n', '\r']), later, Option.map_some]

theorem readMembers_write : (members : List (String × Json)) → PlainMembers members →
    members ≠ [] → ∀ {rest fuel}, (writeMembers members).length < fuel →
      readMembers fuel (writeMembers members ++ '\x7d' :: rest) = some (members, rest)
  | [], _, empty, _, _, _ => absurd rfl empty
  | _ :: _, _, _, _, 0, enough => absurd enough (Nat.not_lt_zero _)
  | [(key, value)], plain, _, rest, fuel + 1, enough => by
    rw [writeMembers, List.length_append, List.length_cons] at enough
    rw [writeMembers, List.append_assoc, List.cons_append, readMembers_quoted,
      readValue_write value plain.1 rfl (by omega)]
    rfl
  | (key, value) :: next :: more, plain, _, rest, fuel + 1, enough => by
    rw [writeMembers_cons, List.length_append, List.length_cons, List.length_append,
      List.length_cons] at enough
    rw [writeMembers_cons, List.append_assoc, List.cons_append, List.append_assoc, List.cons_append,
      readMembers_quoted, readValue_write value plain.1 rfl (by omega)]
    have later : readMembers fuel (writeMembers (next :: more) ++ '\x7d' :: rest) =
        some (next :: more, rest) :=
      readMembers_write (next :: more) plain.2 (List.cons_ne_nil _ _) (by omega)
    simp only [skip_of_head (by decide : ',' ∉ [' ', '\t', '\n', '\r']), later, Option.map_some]

end

/-- **What is written is read**: the text of a value says that value, as long as its reals are
doubles. -/
theorem read_write (value : Json) (plain : Plain value) : read (write value) = some value := by
  have whole : readValue ((write value).length + 1) (write value ++ []) = some (value, []) :=
    readValue_write value plain rfl (Nat.le_succ (write value).length)
  rw [List.append_nil] at whole
  rw [read, whole]
  rfl

/-! ## What is written is ASCII -/

/-- All characters are ASCII. -/
def Ascii (text : List Char) : Prop := ∀ c ∈ text, c.toNat < 0x80

section
variable {text more : List Char} {c : Char}

@[simp] theorem ascii_nil : Ascii [] := by simp [Ascii]

@[simp] theorem ascii_cons : Ascii (c :: text) ↔ c.toNat < 0x80 ∧ Ascii text :=
  List.forall_mem_cons

@[simp] theorem ascii_append : Ascii (text ++ more) ↔ Ascii text ∧ Ascii more :=
  List.forall_mem_append

theorem ascii_replicate {n : Nat} (small : c.toNat < 0x80) : Ascii (List.replicate n c) :=
  fun _ member => List.eq_of_mem_replicate member ▸ small

theorem ascii_digits (digits : ∀ c ∈ text, c.isDigit) : Ascii text := by
  intro c member
  have digit := digits c member
  simp only [Char.isDigit, Bool.and_eq_true, decide_eq_true_eq] at digit
  have top : c.val ≤ 57 := digit.2
  exact Nat.lt_of_le_of_lt (UInt32.le_iff_toNat_le.1 top) (by decide)

theorem ascii_appendHex {n : Nat} (small : n < 0x10000) : Ascii (appendHex n) := by
  have hex : ∀ d < 16, d.digitChar.toNat < 0x80 := by decide
  have digit : ∀ m, (m % 16).digitChar.toNat < 0x80 := fun m => hex _ (Nat.mod_lt m (by decide))
  have top : (n / 16 / 16 / 16).digitChar.toNat < 0x80 := hex _ (by omega)
  simp [appendHex_eq, padHex_four small, digit, top]

theorem ascii_escape (c : Char) : Ascii (escape c) := by
  have valid := char_valid c
  unfold escape
  split
  iterate 7 simp
  next =>
    split_ifs with plain small
    · simpa using Nat.lt_succ_of_le plain.2
    · exact ascii_appendHex small
    · exact ascii_append.2 ⟨ascii_appendHex (by omega), ascii_appendHex (by omega)⟩

theorem ascii_quoted (s : String) : Ascii (quoted s) := by
  have inside : Ascii (s.toList.flatMap escape) := by
    intro c member
    obtain ⟨d, -, escaped⟩ := List.mem_flatMap.1 member
    exact ascii_escape d c escaped
  simp [quoted, inside]

theorem ascii_intText (n : Int) : Ascii (intText n) := by
  have digits : Ascii (Nat.toDigits 10 n.natAbs) := ascii_digits fun _ => digit_of_mem
  rw [intText]
  split_ifs <;> simp [digits]

theorem ascii_parts (parts : Parts) : Ascii parts.text := by
  have exponent : Ascii (parts.exponent.elim [] exponentText) := by
    cases parts.exponent with
    | none => exact ascii_nil
    | some e =>
      have digits : Ascii (Nat.toDigits 10 e.natAbs) := ascii_digits fun _ => digit_of_mem
      have zeros : ∀ n, Ascii (List.replicate n '0') := fun _ => ascii_replicate (by decide)
      simp only [Option.elim_some, exponentText, ascii_cons, List.cons_append, ascii_append, digits,
        zeros, and_self, and_true]
      split_ifs <;> decide
  have fraction : Ascii (point parts.fraction) := by
    have digits := ascii_digits parts.fraction_digits
    cases shape : parts.fraction with
    | nil => exact ascii_nil
    | cons d more => simpa [shape, point] using digits
  simp [Parts.text, ascii_digits parts.whole_digits, fraction, exponent]

theorem ascii_realText (q : Rat) : Ascii (realText q) := by
  have printed : Ascii (formatG 17 q) := by
    by_cases zero : q = 0
    · subst zero
      simp [formatG]
    · obtain ⟨m, e, low, high, -, text⟩ := formatG_layout (p := 17) (by decide) zero
      obtain ⟨parts, laid, -⟩ := layout_parts (by decide) low high e
      rw [text, laid]
      split_ifs <;> simp [ascii_parts]
  rw [realText]
  split_ifs <;> simp [printed]

mutual
theorem ascii_write : (value : Json) → Ascii (write value)
  | .null => by simp [write]
  | .bool true => by simp [write]
  | .bool false => by simp [write]
  | .int n => by
    rw [write]
    exact ascii_intText n
  | .real q => by
    rw [write]
    exact ascii_realText q
  | .str s => by
    rw [write]
    exact ascii_quoted s
  | .arr elements => by simp [write, ascii_writeElements elements]
  | .obj members => by simp [write, ascii_writeMembers members]

theorem ascii_writeElements : (elements : List Json) → Ascii (writeElements elements)
  | [] => by simp [writeElements]
  | [element] => by
    rw [writeElements]
    exact ascii_write element
  | element :: next :: more => by
    simp [writeElements_cons, ascii_write element, ascii_writeElements (next :: more)]

theorem ascii_writeMembers : (members : List (String × Json)) → Ascii (writeMembers members)
  | [] => by simp [writeMembers]
  | [(key, value)] => by simp [writeMembers, ascii_quoted, ascii_write value]
  | (key, value) :: next :: more => by
    simp [writeMembers_cons, ascii_quoted, ascii_write value, ascii_writeMembers (next :: more)]
end

end

end WebrtcDemo.JsonText
