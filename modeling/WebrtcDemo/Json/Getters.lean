import Mathlib.Data.Int.Order.Basic
import WebrtcDemo.Json.JsonTools

/-!
# The getters of JsonTools.cpp that the client has no use for

The getters of `int` and `bool`, those of array elements, and the conversions between arrays
and vectors. The getters of `double` are left out: they read a string by `strtod`.
-/

namespace Numeral

/-- What `strtol` leaves behind. -/
structure ConvertedLong where
  value : Int
  rest : List Char
  converted : Bool
  rangeError : Bool

/-- `strtol` in base 10 on a 64-bit `long`, which clamps what is out of range. -/
def strtol (text : List Char) : ConvertedLong :=
  let found := scan (cString text)
  let value : Int := if found.negative then -found.magnitude else found.magnitude
  if found.digits.isEmpty then ⟨0, cString text, false, false⟩
  else if value < llongMin then ⟨llongMin, found.rest, true, true⟩
  else if llongMax < value then ⟨llongMax, found.rest, true, true⟩
  else ⟨value, found.rest, true, false⟩

end Numeral

namespace WebrtcDemo
open Numeral

/-! ## Values -/

/-- `isConvertibleTo(intValue)` and `asInt` of a value that is no string: a double is cut off. -/
def Json.convertInt? : Json → Option Int
  | .null => some 0
  | .bool b => some (if b then 1 else 0)
  | .real q => if -(2 ^ 31) ≤ q ∧ q ≤ 2 ^ 31 - 1 then some (q.num.tdiv q.den) else none
  | value => value.asInt?

/-- The result and `*out`, as `GetUIntFromJson` gives them. -/
def GetIntFromJson (value : Json) (out : Int32) : Bool × Int32 :=
  match value with
  | .str s =>
    let val := strtol s.toList
    (val.converted && val.rest.isEmpty && !val.rangeError &&
      decide (-(2 ^ 31) ≤ val.value) && decide (val.value ≤ 2 ^ 31 - 1), Int32.ofInt val.value)
  | value =>
    match value.convertInt? with
    | some n => (true, Int32.ofInt n)
    | none => (false, out)

/-- `isConvertibleTo(booleanValue)` and `asBool` of a value that is no string. -/
def Json.convertBool? : Json → Option Bool
  | .null => some false
  | .bool b => some b
  | .int n => some (n != 0)
  | .real q => some (q != 0)
  | _ => none

def GetBoolFromJson : Json → Option Bool
  | .str s => if s = "true" then some true else if s = "false" then some false else none
  | value => value.convertBool?

/-! ## Arrays -/

section
variable {T : Type*} (getter : Json → Option T)

/-- The loop of `JsonArrayToVector`. -/
def pushValues : List Json → List T → Bool × List T
  | [], vec => (true, vec)
  | element :: more, vec =>
    match getter element with
    | none => (false, vec)
    | some val => pushValues more (vec ++ [val])

def JsonArrayToVector : Json → Bool × List T
  | .arr elements => pushValues getter elements []
  | _ => (false, [])

/-- `VectorToJsonArray`, where `wrap` is the constructor of `Json::Value`. -/
def VectorToJsonArray (wrap : T → Json) (vec : List T) : Json := .arr (vec.map wrap)

end

/-- A getter's result where it returns `true`; what `*out` was does not matter then. -/
def accepted {T : Type*} (result : Bool × T) : Option T := if result.1 then some result.2 else none

def JsonArrayToIntVector : Json → Bool × List Int32 :=
  JsonArrayToVector fun value => accepted (GetIntFromJson value 0)

def JsonArrayToUIntVector : Json → Bool × List UInt32 :=
  JsonArrayToVector fun value => accepted (GetUIntFromJson value 0)

def JsonArrayToStringVector : Json → Bool × List String := JsonArrayToVector GetStringFromJson

def JsonArrayToBoolVector : Json → Bool × List Bool := JsonArrayToVector GetBoolFromJson

def IntVectorToJsonArray : List Int32 → Json := VectorToJsonArray fun n => .int n.toInt

def UIntVectorToJsonArray : List UInt32 → Json := VectorToJsonArray fun n => .int n.toNat

def StringVectorToJsonArray : List String → Json := VectorToJsonArray .str

def BoolVectorToJsonArray : List Bool → Json := VectorToJsonArray .bool

/-- `ToString(int)`. -/
def ToString (v : Int32) : String := String.ofList (intText v.toInt)

/-! ## Elements -/

/-- A `size_t` index is cut to the 32 bits of an `ArrayIndex`. -/
def GetValueFromJsonArray (value : Json) (n : UInt64) : Option Json :=
  match value with
  | .arr elements => elements[n.toUInt32.toNat]?
  | _ => none

def GetIntFromJsonArray (value : Json) (n : UInt64) (out : Int32) : Bool × Int32 :=
  match GetValueFromJsonArray value n with
  | some x => GetIntFromJson x out
  | none => (false, out)

def GetUIntFromJsonArray (value : Json) (n : UInt64) (out : UInt32) : Bool × UInt32 :=
  match GetValueFromJsonArray value n with
  | some x => GetUIntFromJson x out
  | none => (false, out)

def GetStringFromJsonArray (value : Json) (n : UInt64) : Option String :=
  (GetValueFromJsonArray value n).bind GetStringFromJson

def GetBoolFromJsonArray (value : Json) (n : UInt64) : Option Bool :=
  (GetValueFromJsonArray value n).bind GetBoolFromJson

end WebrtcDemo
