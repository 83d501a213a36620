import WebrtcDemo.Json.Value
import WebrtcDemo.Lib.Precision

/-!
# What a JSON text says

The grammar of JSON as a reader: white space between the tokens, strings with their
escapes, numbers with a fraction and an exponent. It is what the receiver of a text makes of
it, and says nothing of how the program reads. A number with neither fraction nor exponent
is an integer; any other number is the double nearest to what it denotes.

The functions that call one another count down from the length of the text.
-/

namespace WebrtcDemo.JsonText

/-! ## Strings -/

/-- The value of a hexadecimal digit, in either case. -/
def hexDigit? (c : Char) : Option Nat :=
  if '0' ≤ c ∧ c ≤ '9' then some (c.toNat - '0'.toNat)
  else if 'a' ≤ c ∧ c ≤ 'f' then some (c.toNat - 'a'.toNat + 10)
  else if 'A' ≤ c ∧ c ≤ 'F' then some (c.toNat - 'A'.toNat + 10)
  else none

/-- Four hexadecimal digits. -/
def readUnit : List Char → Option (Nat × List Char)
  | a :: b :: c :: d :: rest =>
    match hexDigit? a, hexDigit? b, hexDigit? c, hexDigit? d with
    | some a, some b, some c, some d => some (((a * 16 + b) * 16 + c) * 16 + d, rest)
    | _, _, _, _ => none
  | _ => none

/-- What follows `\u`: a unit, and if that is the first of a surrogate pair, the second. -/
def readUnicode (text : List Char) : Option (Char × List Char) :=
  match readUnit text with
  | none => none
  | some (unit, rest) =>
    if 0xd800 ≤ unit ∧ unit < 0xdc00 then
      match rest with
      | '\\' :: 'u' :: rest =>
        match readUnit rest with
        | none => none
        | some (low, rest) =>
          if 0xdc00 ≤ low ∧ low < 0xe000 then
            some (Char.ofNat (0x10000 + (unit - 0xd800) * 0x400 + (low - 0xdc00)), rest)
          else none
      | _ => none
    else if 0xdc00 ≤ unit ∧ unit < 0xe000 then none
    else some (Char.ofNat unit, rest)

/-- What follows a backslash. -/
def readEscape : List Char → Option (Char × List Char)
  | '"' :: rest => some ('"', rest)
  | '\\' :: rest => some ('\\', rest)
  | '/' :: rest => some ('/', rest)
  | 'b' :: rest => some ('\x08', rest)
  | 'f' :: rest => some ('\x0c', rest)
  | 'n' :: rest => some ('\n', rest)
  | 'r' :: rest => some ('\r', rest)
  | 't' :: rest => some ('\t', rest)
  | 'u' :: rest => readUnicode rest
  | _ => none

/-- One character of a string. -/
def readChar : List Char → Option (Char × List Char)
  | [] => none
  | '\\' :: rest => readEscape rest
  | c :: rest => if c.toNat < 0x20 ∨ c = '"' then none else some (c, rest)

/-- The characters of a string, up to its closing quote. -/
def readChars : Nat → List Char → Option (List Char × List Char)
  | _, '"' :: rest => some ([], rest)
  | 0, _ => none
  | fuel + 1, text =>
    match readChar text with
    | none => none
    | some (c, rest) => (readChars fuel rest).map fun read => (c :: read.1, read.2)

/-! ## Numbers -/

/-- An integer part: no zero leads another digit. -/
def readDigits (text : List Char) : Option (List Char × List Char) :=
  let digits := text.takeWhile Char.isDigit
  if digits = [] ∨ (digits.head? = some '0' ∧ digits.length ≠ 1) then none
  else some (digits, text.dropWhile Char.isDigit)

/-- The digits after a point, if there is one. -/
def readFraction (text : List Char) : Option (List Char × List Char) :=
  match text with
  | '.' :: rest =>
    let digits := rest.takeWhile Char.isDigit
    if digits = [] then none else some (digits, rest.dropWhile Char.isDigit)
  | _ => some ([], text)

/-- An exponent, if there is one. -/
def readExponent (text : List Char) : Option (Option Int × List Char) :=
  match text with
  | c :: rest =>
    if c = 'e' ∨ c = 'E' then
      let (negative, rest) : Bool × List Char :=
        match rest with
        | '-' :: rest => (true, rest)
        | '+' :: rest => (false, rest)
        | rest => (false, rest)
      let digits := rest.takeWhile Char.isDigit
      let exponent : Int := Nat.ofDigitChars 10 digits 0
      if digits = [] then none
      else some (some (if negative then -exponent else exponent), rest.dropWhile Char.isDigit)
    else some (none, text)
  | [] => some (none, [])

/-- The number that the parts of a numeral stand for. -/
def number (negative : Bool) (whole fraction : List Char) (exponent : Option Int) : Json :=
  let digits := Nat.ofDigitChars 10 (whole ++ fraction) 0
  let signed : Int := if negative then -digits else digits
  match fraction, exponent with
  | [], none => .int signed
  | fraction, exponent =>
    .real (Rounding.roundRat 53 (signed * 10 ^ (exponent.getD 0 - fraction.length : Int)))

/-- A number past its sign. -/
def readUnsigned (negative : Bool) (text : List Char) : Option (Json × List Char) :=
  match readDigits text with
  | none => none
  | some (whole, rest) =>
    match readFraction rest with
    | none => none
    | some (fraction, rest) =>
      (readExponent rest).map fun (exponent, rest) =>
        (number negative whole fraction exponent, rest)

def readNumber : List Char → Option (Json × List Char)
  | '-' :: rest => readUnsigned true rest
  | text => readUnsigned false text

/-! ## Values -/

/-- Past the white space. -/
def skip (text : List Char) : List Char := text.dropWhile (· ∈ [' ', '\t', '\n', '\r'])

mutual
/-- A value, and what is left after it. -/
def readValue : Nat → List Char → Option (Json × List Char)
  | 0, _ => none
  | fuel + 1, text =>
    match skip text with
    | 'n' :: 'u' :: 'l' :: 'l' :: rest => some (.null, rest)
    | 't' :: 'r' :: 'u' :: 'e' :: rest => some (.bool true, rest)
    | 'f' :: 'a' :: 'l' :: 's' :: 'e' :: rest => some (.bool false, rest)
    | '"' :: rest => (readChars rest.length rest).map fun read => (.str (String.ofList read.1), read.2)
    | '[' :: rest =>
      match skip rest with
      | ']' :: rest => some (.arr [], rest)
      | _ => (readElements fuel rest).map fun read => (.arr read.1, read.2)
    | '{' :: rest =>
      match skip rest with
      | '}' :: rest => some (.obj [], rest)
      | _ => (readMembers fuel rest).map fun read => (.obj read.1, read.2)
    | text => readNumber text

/-- The elements of an array up to its bracket; there is at least one. -/
def readElements : Nat → List Char → Option (List Json × List Char)
  | 0, _ => none
  | fuel + 1, text =>
    match readValue fuel text with
    | none => none
    | some (element, rest) =>
      match skip rest with
      | ',' :: rest => (readElements fuel rest).map fun read => (element :: read.1, read.2)
      | ']' :: rest => some ([element], rest)
      | _ => none

/-- The members of an object up to its brace; there is at least one. -/
def readMembers : Nat → List Char → Option (List (String × Json) × List Char)
  | 0, _ => none
  | fuel + 1, text =>
    match skip text with
    | '"' :: rest =>
      match readChars rest.length rest with
      | none => none
      | some (key, rest) =>
        match skip rest with
        | ':' :: rest =>
          match readValue fuel rest with
          | none => none
          | some (value, rest) =>
            match skip rest with
            | ',' :: rest =>
              (readMembers fuel rest).map fun read => ((String.ofList key, value) :: read.1, read.2)
            | '}' :: rest => some ([(String.ofList key, value)], rest)
            | _ => none
        | _ => none
    | _ => none
end

/-- The value of a whole text. -/
def read (text : List Char) : Option Json :=
  match readValue (text.length + 1) text with
  | some (value, rest) => if skip rest = [] then some value else none
  | none => none

end WebrtcDemo.JsonText
