import WebrtcDemo.Lib.Numeral

/-!
# `Json::Value` and `FastWriter`

The values a `Json::Reader` builds and the text a `Json::FastWriter` writes of
them. A real number is the rational its double stands for; an object lists its
members in key order, as the library's map does.
-/

namespace WebrtcDemo

/-- A `Json::Value`. -/
inductive Json where
  | null
  | bool (b : Bool)
  | int (n : Int)
  | real (q : Rat)
  | str (s : String)
  | arr (elements : List Json)
  | obj (members : List (String × Json))

namespace FastWriter
open Numeral

/-- `\uXXXX` of a 16-bit unit. -/
def appendHex (unit : Nat) : List Char :=
  let digits := Nat.toDigits 16 unit
  '\\' :: 'u' :: List.replicate (4 - digits.length) '0' ++ digits

/-- One character inside a quoted string; what is not printable ASCII is escaped. -/
def escape (c : Char) : List Char :=
  match c with
  | '"' => ['\\', '"']
  | '\\' => ['\\', '\\']
  | '\x08' => ['\\', 'b']
  | '\x0c' => ['\\', 'f']
  | '\n' => ['\\', 'n']
  | '\r' => ['\\', 'r']
  | '\t' => ['\\', 't']
  | c =>
    if 0x20 ≤ c.toNat ∧ c.toNat ≤ 0x7f then [c]
    else if c.toNat < 0x10000 then appendHex c.toNat
    else
      appendHex (0xd800 + (c.toNat - 0x10000) / 0x400) ++
        appendHex (0xdc00 + (c.toNat - 0x10000) % 0x400)

/-- `valueToQuotedString`. -/
def quoted (s : String) : List Char := '"' :: s.toList.flatMap escape ++ ['"']

/-- `valueToString(double)`: 17 significant digits, and a mark that it is a double. -/
def realText (q : Rat) : List Char :=
  let text := formatG 17 q
  if '.' ∈ text ∨ 'e' ∈ text then text else text ++ ".0".toList

mutual
/-- `FastWriter::write`, less the newline it ends with. -/
def write : Json → List Char
  | .null => "null".toList
  | .bool true => "true".toList
  | .bool false => "false".toList
  | .int n => intText n
  | .real q => realText q
  | .str s => quoted s
  | .arr elements => '[' :: writeElements elements ++ [']']
  | .obj members => '{' :: writeMembers members ++ ['}']

def writeElements : List Json → List Char
  | [] => []
  | [element] => write element
  | element :: more => write element ++ ',' :: writeElements more

def writeMembers : List (String × Json) → List Char
  | [] => []
  | [(key, value)] => quoted key ++ ':' :: write value
  | (key, value) :: more => quoted key ++ ':' :: write value ++ ',' :: writeMembers more
end

end FastWriter

end WebrtcDemo
