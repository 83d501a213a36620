import WebrtcDemo.Json.Getters
import WebrtcDemo.Json.RoundTrip

/-!
# Vectors through arrays

A vector made into an array is read back from the array, and from its text. A conversion
that fails has read the elements before the first that does not convert; after one that
succeeds, each element alone is read the same. An `int` is read from its numeral as from
itself.
-/

namespace WebrtcDemo
open Numeral

/-! ## Arrays -/

section
variable {T : Type*} {getter : Json → Option T}

theorem pushValues_eq (elements : List Json) (vec : List T) :
    pushValues getter elements vec =
      (elements.all fun element => (getter element).isSome,
        vec ++ (elements.takeWhile fun element => (getter element).isSome).filterMap getter) := by
  induction elements generalizing vec with
  | nil => simp [pushValues]
  | cons element more ih =>
    rw [pushValues]
    cases converts : getter element with
    | none => simp [converts]
    | some val => simp [ih, converts]

/-- **What is read of an array**: all of it, or what comes before the first element that does
not convert. -/
theorem JsonArrayToVector_arr (elements : List Json) :
    JsonArrayToVector getter (.arr elements) =
      (elements.all fun element => (getter element).isSome,
        (elements.takeWhile fun element => (getter element).isSome).filterMap getter) := by
  rw [JsonArrayToVector, pushValues_eq, List.nil_append]

/-- The conversion succeeds where each element converts, and gives what they convert to. -/
theorem JsonArrayToVector_eq_true {elements : List Json} {vec : List T} :
    JsonArrayToVector getter (.arr elements) = (true, vec) ↔
      elements.map getter = vec.map some := by
  have flat : elements.filterMap getter = (elements.map getter).filterMap id := by
    rw [List.filterMap_map, Function.id_comp]
  have kept (all : elements.all fun element => (getter element).isSome) :
      elements.takeWhile (fun element => (getter element).isSome) = elements :=
    List.takeWhile_eq_self_iff.2 (List.all_eq_true.1 all)
  rw [JsonArrayToVector_arr]
  constructor
  · intro read
    obtain ⟨all, rfl⟩ := Prod.mk.inj read
    rw [kept all, List.map_filterMap_some_eq_filter_map_isSome, List.filter_eq_self.2]
    simpa using all
  · intro same
    have all : elements.all fun element => (getter element).isSome := by
      refine List.all_eq_true.2 fun element member => ?_
      have there : getter element ∈ vec.map some := same ▸ List.mem_map_of_mem member
      obtain ⟨val, -, converts⟩ := List.mem_map.1 there
      rw [← converts, Option.isSome_some]
    rw [kept all, flat, same, all]
    simp

theorem JsonArrayToVector_map {α : Type*} {wrap : α → Json} {f : α → T}
    (converts : ∀ a, getter (wrap a) = some (f a)) (vec : List α) :
    JsonArrayToVector getter (VectorToJsonArray wrap vec) = (true, vec.map f) := by
  rw [VectorToJsonArray, JsonArrayToVector_eq_true, List.map_map, List.map_map]
  exact List.map_congr_left fun a _ => converts a

/-- **An element alone is read as in its vector**, at the index cut to 32 bits. -/
theorem JsonArrayToVector_getElem? {value : Json} {vec : List T}
    (read : JsonArrayToVector getter value = (true, vec)) (n : UInt64) :
    (GetValueFromJsonArray value n).bind getter = vec[n.toUInt32.toNat]? := by
  cases value with
  | arr elements =>
    have same : elements[n.toUInt32.toNat]?.map getter = vec[n.toUInt32.toNat]?.map some := by
      rw [← List.getElem?_map, ← List.getElem?_map, JsonArrayToVector_eq_true.1 read]
    calc
      _ = (elements[n.toUInt32.toNat]?.map getter).bind id := by
        rw [GetValueFromJsonArray, Option.bind_map, Function.id_comp]
      _ = vec[n.toUInt32.toNat]? := by
        rw [same, Option.bind_map, Function.id_comp, Option.bind_fun_some]
  | _ => cases read

variable (getter) in
/-- Through the text of the array. -/
theorem JsonArrayToVector_read {α : Type*} (wrap : α → Json) {f : α → T}
    (converts : ∀ a, getter (wrap a) = some (f a)) (plain : ∀ a, JsonText.Plain (wrap a))
    (vec : List α) :
    (JsonText.read (JsonValueToString (VectorToJsonArray wrap vec))).map
      (JsonArrayToVector getter) = some (true, vec.map f) := by
  have elements : ∀ vec : List α, JsonText.PlainElements (vec.map wrap) := by
    intro vec
    induction vec with
    | nil => trivial
    | cons a more ih => exact ⟨plain a, ih⟩
  rw [JsonValueToString, JsonText.read_write (VectorToJsonArray wrap vec) (elements vec),
    Option.map_some, JsonArrayToVector_map converts]

end

/-! ## Elements -/

/-- A numeral in the range of `long` is converted to its number. -/
theorem strtol_intText {n : Int} (low : llongMin ≤ n) (high : n ≤ llongMax) :
    strtol (intText n) = ⟨n, [], true, false⟩ := by
  have value : (if n < 0 then -(n.natAbs : Int) else n.natAbs) = n := by
    split_ifs <;> omega
  have digits : (Nat.toDigits 10 n.natAbs).isEmpty = false := by simp
  simp only [strtol, cString_intText, scan_intText, Scan.magnitude, Nat.ofDigitChars_ten_toDigits,
    decide_eq_true_eq, value, digits]
  rw [if_neg Bool.false_ne_true, if_neg (Int.not_lt.2 low), if_neg (Int.not_lt.2 high)]

theorem GetIntFromJson_int (n out : Int32) : GetIntFromJson (.int n.toInt) out = (true, n) := by
  have bounds : -(2 ^ 31) ≤ n.toInt ∧ n.toInt < 2 ^ 31 := ⟨n.le_toInt, n.toInt_lt⟩
  have converted : (Json.int n.toInt).convertInt? = some n.toInt := if_pos bounds
  simp only [GetIntFromJson, converted, Int32.ofInt_toInt]

/-- **An `int` is read from its numeral as from itself.** -/
theorem GetIntFromJson_ToString (n out : Int32) :
    GetIntFromJson (.str (ToString n)) out = (true, n) := by
  have low := n.le_toInt
  have high := n.toInt_lt
  have text : (ToString n).toList = intText n.toInt := by rw [ToString, String.toList_ofList]
  have above : decide (-(2 ^ 31) ≤ n.toInt) = true := decide_eq_true low
  have below : decide (n.toInt ≤ 2 ^ 31 - 1) = true := decide_eq_true (by omega)
  rw [GetIntFromJson, text, strtol_intText (by rw [llongMin]; omega) (by rw [llongMax]; omega)]
  simp only [above, below, List.isEmpty_nil, Bool.not_false, Bool.and_self, Int32.ofInt_toInt]

theorem GetUIntFromJson_int (n out : UInt32) :
    GetUIntFromJson (.int n.toNat) out = (true, n) := by
  have bounds : 0 ≤ (n.toNat : Int) ∧ (n.toNat : Int) < 2 ^ 32 :=
    ⟨Int.natCast_nonneg _, by exact_mod_cast n.toNat_lt⟩
  have converted : (Json.int n.toNat).convertUInt? = some n.toNat := by
    rw [Json.convertUInt?, Json.asUInt?, if_pos bounds, Int.toNat_natCast]
    all_goals nofun
  rw [GetUIntFromJson, converted]
  · exact congrArg (Prod.mk true) UInt32.ofNat_toNat
  · nofun

theorem GetStringFromJson_int (n : Int32) :
    GetStringFromJson (.int n.toInt) = some (ToString n) := by
  have bounds : -(2 ^ 31) ≤ n.toInt ∧ n.toInt < 2 ^ 31 := ⟨n.le_toInt, n.toInt_lt⟩
  have converted : (Json.int n.toInt).asInt? = some n.toInt := if_pos bounds
  simp only [GetStringFromJson, converted, ToString]

/-! ## Vectors and texts -/

theorem IntVector_survives (v : List Int32) :
    (JsonText.read (JsonValueToString (IntVectorToJsonArray v))).map JsonArrayToIntVector =
      some (true, v) := by
  have converts (n : Int32) : accepted (GetIntFromJson (.int n.toInt) 0) = some (id n) := by
    rw [GetIntFromJson_int, accepted, if_pos rfl, id]
  have survives := JsonArrayToVector_read (fun value => accepted (GetIntFromJson value 0))
    (fun n : Int32 => .int n.toInt) converts (fun _ => trivial) v
  rwa [List.map_id] at survives

theorem UIntVector_survives (v : List UInt32) :
    (JsonText.read (JsonValueToString (UIntVectorToJsonArray v))).map JsonArrayToUIntVector =
      some (true, v) := by
  have converts (n : UInt32) : accepted (GetUIntFromJson (.int n.toNat) 0) = some (id n) := by
    rw [GetUIntFromJson_int, accepted, if_pos rfl, id]
  have survives := JsonArrayToVector_read (fun value => accepted (GetUIntFromJson value 0))
    (fun n : UInt32 => .int n.toNat) converts (fun _ => trivial) v
  rwa [List.map_id] at survives

theorem StringVector_survives (v : List String) :
    (JsonText.read (JsonValueToString (StringVectorToJsonArray v))).map JsonArrayToStringVector =
      some (true, v) := by
  have survives := JsonArrayToVector_read GetStringFromJson .str (f := id) (fun _ => rfl)
    (fun _ => trivial) v
  rwa [List.map_id] at survives

theorem BoolVector_survives (v : List Bool) :
    (JsonText.read (JsonValueToString (BoolVectorToJsonArray v))).map JsonArrayToBoolVector =
      some (true, v) := by
  have survives := JsonArrayToVector_read GetBoolFromJson .bool (f := id) (fun _ => rfl)
    (fun _ => trivial) v
  rwa [List.map_id] at survives

/-- Integers come back as their numerals where strings are asked for. -/
theorem IntVector_texts (v : List Int32) :
    (JsonText.read (JsonValueToString (IntVectorToJsonArray v))).map JsonArrayToStringVector =
      some (true, v.map ToString) :=
  JsonArrayToVector_read GetStringFromJson (fun n : Int32 => .int n.toInt) GetStringFromJson_int
    (fun _ => trivial) v

/-- Numerals come back as their integers where these are asked for. -/
theorem StringVector_numbers (v : List Int32) :
    (JsonText.read (JsonValueToString (StringVectorToJsonArray (v.map ToString)))).map
      JsonArrayToIntVector = some (true, v) := by
  have converts (n : Int32) : accepted (GetIntFromJson (.str (ToString n)) 0) = some (id n) := by
    rw [GetIntFromJson_ToString, accepted, if_pos rfl, id]
  have same : StringVectorToJsonArray (v.map ToString) =
      VectorToJsonArray (fun n => .str (ToString n)) v := by
    rw [StringVectorToJsonArray, VectorToJsonArray, VectorToJsonArray, List.map_map]
    rfl
  have survives := JsonArrayToVector_read (fun value => accepted (GetIntFromJson value 0))
    (fun n : Int32 => .str (ToString n)) converts (fun _ => trivial) v
  rwa [← same, List.map_id] at survives

/-- **Vectors survive** the way through an array and its text, each kind by its own getter, and
integers also as strings. -/
theorem vectors_survive :
    (∀ v, (JsonText.read (JsonValueToString (IntVectorToJsonArray v))).map JsonArrayToIntVector =
      some (true, v)) ∧
    (∀ v, (JsonText.read (JsonValueToString (UIntVectorToJsonArray v))).map JsonArrayToUIntVector =
      some (true, v)) ∧
    (∀ v, (JsonText.read (JsonValueToString (StringVectorToJsonArray v))).map
      JsonArrayToStringVector = some (true, v)) ∧
    (∀ v, (JsonText.read (JsonValueToString (BoolVectorToJsonArray v))).map JsonArrayToBoolVector =
      some (true, v)) ∧
    (∀ v, (JsonText.read (JsonValueToString (IntVectorToJsonArray v))).map JsonArrayToStringVector =
      some (true, v.map ToString)) ∧
    ∀ v : List Int32, (JsonText.read (JsonValueToString
      (StringVectorToJsonArray (v.map ToString)))).map JsonArrayToIntVector = some (true, v) :=
  ⟨IntVector_survives, UIntVector_survives, StringVector_survives, BoolVector_survives,
    IntVector_texts, StringVector_numbers⟩

end WebrtcDemo
