import WebrtcDemo.Json.JsonTools

/-!
# Ids read through their texts

`JsonValueToLongLong` writes a member as a text and has `atoll` read that text. An integer
is written as its numeral. Any other value but a double begins with a character that no
numeral begins with.
-/

namespace WebrtcDemo
open Numeral

/-- An integer or a double. -/
def Json.isNumber : Json → Bool
  | .int _ | .real _ => true
  | _ => false

namespace FastWriter

/-- `FastWriter::write`, with the newline it ends with. -/
def line (value : Json) : List Char := write value ++ ['\n']

theorem write_head {value : Json} (other : value.isNumber = false) :
    ∃ c more, write value = c :: more ∧ opensNumeral c = false := by
  cases value with
  | null => exact ⟨'n', "ull".toList, by rw [write]; rfl, by decide⟩
  | bool b =>
    cases b with
    | false => exact ⟨'f', "alse".toList, by rw [write]; rfl, by decide⟩
    | true => exact ⟨'t', "rue".toList, by rw [write]; rfl, by decide⟩
  | int n => simp [Json.isNumber] at other
  | real q => simp [Json.isNumber] at other
  | str s => exact ⟨'"', _, by rw [write, quoted, List.cons_append], by decide⟩
  | arr elements => exact ⟨'[', _, by rw [write, List.cons_append], by decide⟩
  | obj members => exact ⟨'{', _, by rw [write, List.cons_append], by decide⟩

end FastWriter

/-- The text of a value is the line of the writer, less its last character. -/
theorem JsonValueToString_eq (value : Json) :
    JsonValueToString value =
      (FastWriter.line value).take ((FastWriter.line value).length - 1) := by
  rw [← List.dropLast_eq_take, FastWriter.line, List.dropLast_concat, JsonValueToString]

/-! ## What `atoll` makes of a written value -/

theorem atoll_int {n : Int} (low : llongMin ≤ n) (high : n ≤ llongMax) :
    atoll (JsonValueToString (.int n)) = n := by
  rw [JsonValueToString, FastWriter.write, atoll_intText low high]

theorem atoll_other {value : Json} (other : value.isNumber = false) :
    atoll (JsonValueToString value) = 0 := by
  obtain ⟨c, more, written, head⟩ := FastWriter.write_head other
  rw [JsonValueToString, written, atoll_of_head head]

namespace Json

theorem member_of_not_obj {value : Json} (other : ∀ members, value ≠ .obj members) (k : String) :
    value.member k = .null := by
  cases value with
  | obj members => exact absurd rfl (other members)
  | _ => rfl

theorem member_obj (members : List (String × Json)) (k : String) :
    (Json.obj members).member k = (members.lookup k).getD .null := rfl

end Json

theorem JsonValueToLongLong_int {obj : Json} {k : String} {n : Int} (member : obj.member k = .int n)
    (low : llongMin ≤ n) (high : n ≤ llongMax) : JsonValueToLongLong obj k = n := by
  rw [JsonValueToLongLong, member, atoll_int low high]

theorem JsonValueToLongLong_other {obj : Json} {k : String}
    (other : (obj.member k).isNumber = false) : JsonValueToLongLong obj k = 0 := by
  rw [JsonValueToLongLong, atoll_other other]

/-- **What is read as a `long long`**: an integer member in range as it is, and 0 where there
is no object, no member, or a member that is no number. -/
theorem JsonValueToLongLong_reads (obj : Json) (k : String) :
    (∀ members n, obj = .obj members → members.lookup k = some (.int n) →
      llongMin ≤ n → n ≤ llongMax → JsonValueToLongLong obj k = n) ∧
    ((∀ members, obj ≠ .obj members) → JsonValueToLongLong obj k = 0) ∧
    (∀ members, obj = .obj members → members.lookup k = none → JsonValueToLongLong obj k = 0) ∧
    ∀ members value, obj = .obj members → members.lookup k = some value →
      value.isNumber = false → JsonValueToLongLong obj k = 0 := by
  refine ⟨?_, fun other => ?_, ?_, ?_⟩
  · rintro members n rfl found low high
    refine JsonValueToLongLong_int ?_ low high
    rw [Json.member_obj, found, Option.getD_some]
  · refine JsonValueToLongLong_other ?_
    rw [Json.member_of_not_obj other]
    rfl
  · rintro members rfl absent
    refine JsonValueToLongLong_other ?_
    rw [Json.member_obj, absent]
    rfl
  · rintro members value rfl found other
    refine JsonValueToLongLong_other ?_
    rw [Json.member_obj, found, Option.getD_some, other]

example : JsonValueToLongLong (.obj [("id", .int llongMin)]) "id" = llongMin := by decide +kernel

end WebrtcDemo
