import Mathlib.Algebra.Group.Int.Defs
import Mathlib.Algebra.Group.Nat.Defs
import Mathlib.Data.Rat.Defs

/-! JSON values. Whole numbers are apart from other numbers, since a reader tells them
apart by their text. -/

set_option autoImplicit false

namespace CppMMO.Lib

inductive Json where
  | null
  | bool (value : Bool)
  | integer (value : Int)
  | real (value : ℚ)
  | string (value : String)
  | array (elements : List Json)
  | object (fields : List (String × Json))

namespace Json

/-- A number as it is written: without a fraction where it has none. -/
def number (value : ℚ) : Json := if value.den = 1 then .integer value.num else .real value

def field? (name : String) : Json → Option Json
  | object fields => (fields.find? fun field => field.1 = name).map (·.2)
  | _ => none

@[simp] theorem field?_object_cons {name other : String} {value : Json}
    {fields : List (String × Json)} :
    (object ((other, value) :: fields)).field? name =
      if other = name then some value else (object fields).field? name := by
  simp only [field?, List.find?_cons]
  split <;> simp_all

def asBool? : Json → Option Bool
  | bool value => some value
  | _ => none

def asString? : Json → Option String
  | string value => some value
  | _ => none

def asObject? : Json → Option Json
  | object fields => some (object fields)
  | _ => none

/-- A whole number from 0 to the largest 64-bit one. -/
def asUnsigned? : Json → Option UInt64
  | integer value => if 0 ≤ value ∧ value < 2 ^ 64 then some (UInt64.ofNat value.toNat) else none
  | _ => none

theorem asUnsigned?_toNat (value : UInt64) : (integer value.toNat).asUnsigned? = some value := by
  have inRange : (0 : Int) ≤ value.toNat ∧ (value.toNat : Int) < 2 ^ 64 := by
    have := value.toNat_lt
    omega
  rw [asUnsigned?, if_pos inRange, Int.toNat_natCast, UInt64.ofNat_toNat]

/-- A whole number in the range of a signed 64-bit one. -/
def asInt64? : Json → Option Int64
  | integer value => if -2 ^ 63 ≤ value ∧ value < 2 ^ 63 then some (Int64.ofInt value) else none
  | _ => none

/-- A whole number read into an `int`, which keeps its low 32 bits. -/
def asInt? : Json → Option Int
  | integer value => if -2 ^ 63 ≤ value ∧ value < 2 ^ 64 then some (value.bmod (2 ^ 32)) else none
  | _ => none

end Json

end CppMMO.Lib
