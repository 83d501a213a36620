import WebrtcDemo.Json.Value

/-!
# JsonTools.cpp

The getters through which the client reads every field of a message. A getter
that returns `false` and leaves `*out` alone is an `Option`; `GetUIntFromJson`
writes `*out` on one failing path and keeps both results.
-/

namespace WebrtcDemo
open Numeral

/-- `Json::Value::isInt` and `asInt`: an integral number in the range of `int`. -/
def Json.asInt? : Json → Option Int
  | .int n => if -(2 ^ 31) ≤ n ∧ n < 2 ^ 31 then some n else none
  | .real q => if q.den = 1 ∧ -(2 ^ 31) ≤ q.num ∧ q.num < 2 ^ 31 then some q.num else none
  | _ => none

/-- `Json::Value::isUInt` and `asUInt`. -/
def Json.asUInt? : Json → Option Nat
  | .int n => if 0 ≤ n ∧ n < 2 ^ 32 then some n.toNat else none
  | .real q => if q.den = 1 ∧ 0 ≤ q.num ∧ q.num < 2 ^ 32 then some q.num.toNat else none
  | _ => none

/-- The cast of a `long long` to `double`, the nearest one, as an integer. -/
def castDouble (n : Int) : Int := n.sign * Rounding.roundBits 53 n.natAbs

/-- A handle id of a server, which a double holds exactly. -/
def Exact (id : Int) : Prop := 0 < id ∧ id ≤ 2 ^ 53

theorem castDouble_exact {id : Int} (exact_ : Exact id) : castDouble id = id := by
  obtain ⟨positive, small⟩ := exact_
  have bits : Rounding.roundBits 53 id.natAbs = id.natAbs :=
    Rounding.roundBits_of_le (by norm_num) (by omega)
  rw [castDouble, bits, Int.sign_eq_one_of_pos positive]
  omega

/-- `Json::Value::isDouble` and `asDouble`: any number. -/
def Json.asDouble? : Json → Option Rat
  | .int n => some (castDouble n)
  | .real q => some q
  | _ => none

def GetStringFromJson (value : Json) : Option String :=
  match value with
  | .str s => some s
  | .bool b => some (if b then "1" else "0")
  | value =>
    match value.asInt? with
    | some n => some (String.ofList (intText n))
    | none =>
      match value.asUInt? with
      | some n => some (String.ofList (intText n))
      | none => value.asDouble?.map fun q => String.ofList (formatG 6 q)

/-- `isConvertibleTo(uintValue)` and `asUInt` of a value that is no string. -/
def Json.convertUInt? : Json → Option Nat
  | .null => some 0
  | .bool b => some (if b then 1 else 0)
  | .real q => if 0 ≤ q ∧ q ≤ 2 ^ 32 - 1 then some q.floor.toNat else none
  | value => value.asUInt?

/-- The result and `*out`. A string is converted into `*out` whether or not it is
accepted. -/
def GetUIntFromJson (value : Json) (out : UInt32) : Bool × UInt32 :=
  match value with
  | .str s =>
    let val := strtoul s.toList
    (val.converted && val.rest.isEmpty && !val.rangeError && decide (val.value < 2 ^ 32),
      UInt32.ofNat val.value)
  | value =>
    match value.convertUInt? with
    | some n => (true, UInt32.ofNat n)
    | none => (false, out)

def JsonArrayToValueVector : Json → List Json
  | .arr elements => elements
  | _ => []

def GetValueFromJsonObject (value : Json) (k : String) : Option Json :=
  match value with
  | .obj members => members.lookup k
  | _ => none

def GetUIntFromJsonObject (value : Json) (k : String) (out : UInt32) : Bool × UInt32 :=
  match GetValueFromJsonObject value k with
  | some x => GetUIntFromJson x out
  | none => (false, out)

def GetStringFromJsonObject (value : Json) (k : String) : Option String :=
  (GetValueFromJsonObject value k).bind GetStringFromJson

/-- A member read into a fresh `Json::Value`, which stays null where it is absent. -/
def Json.member (value : Json) (k : String) : Json :=
  (GetValueFromJsonObject value k).getD .null

/-- A string member read into a fresh `std::string`. -/
def Json.text (value : Json) (k : String) : String :=
  (GetStringFromJsonObject value k).getD ""

def JsonValueToString (value : Json) : List Char := FastWriter.write value

def JsonValueToLongLong (jsonData : Json) (k : String) : Int :=
  atoll (JsonValueToString (jsonData.member k))

end WebrtcDemo
