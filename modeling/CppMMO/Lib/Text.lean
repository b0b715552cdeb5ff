import Mathlib.Algebra.Group.Int.Defs
import Mathlib.Algebra.GroupWithZero.Nat
import Mathlib.Data.List.TakeWhile

/-! Text as two runtimes treat it: C++ byte strings that may or may not be UTF-8, and .NET
strings with their lengths, white space, number parsing, property names and GUIDs. -/

set_option autoImplicit false

namespace CppMMO.Lib

def decodeUtf8 (bytes : List UInt8) : Option String := String.fromUTF8? ⟨bytes.toArray⟩

namespace DotNet

/-- `string.Length` counts UTF-16 code units. -/
def length (text : String) : Nat :=
  (text.toList.map fun character => if character.toNat < 0x10000 then 1 else 2).sum

/-- A comparison that ignores the case of ASCII letters. -/
def sameIgnoringCase (text other : String) : Bool :=
  text.toList.map Char.toLower == other.toList.map Char.toLower

def isWhiteSpace (character : Char) : Bool :=
  let code := character.toNat
  (9 ≤ code && code ≤ 13) || (0x2000 ≤ code && code ≤ 0x200A) ||
    [0x20, 0x85, 0xA0, 0x1680, 0x2028, 0x2029, 0x202F, 0x205F, 0x3000].contains code

def isNullOrWhiteSpace (text : String) : Bool := text.toList.all isWhiteSpace

/-- The white space that number parsing skips. -/
def isNumberSpace (character : Char) : Bool :=
  character.toNat == 0x20 || (9 ≤ character.toNat && character.toNat ≤ 13)

def leadingSign : List Char → Bool × List Char
  | [] => (false, [])
  | first :: rest =>
      if first = '-' then (true, rest)
      else if first = '+' then (false, rest)
      else (false, first :: rest)

/-- `int.TryParse`: white space, a sign, digits, white space and then null characters. -/
def intTryParse (text : String) : Option Int32 :=
  let (negative, rest) := leadingSign (text.toList.dropWhile isNumberSpace)
  let digits := rest.takeWhile Char.isDigit
  let tail := (rest.dropWhile Char.isDigit).dropWhile isNumberSpace
  let magnitude : Int := Nat.ofDigitChars 10 digits 0
  let value := if negative then -magnitude else magnitude
  if digits ≠ [] ∧ (tail.all fun character => character.toNat == 0) = true ∧
      -2 ^ 31 ≤ value ∧ value < 2 ^ 31 then
    some (Int32.ofInt value)
  else none

/-- A whole number in quotes: a sign and digits, and nothing else. -/
def quotedInteger? (text : String) : Option Int :=
  let (negative, digits) := leadingSign text.toList
  let magnitude : Int := Nat.ofDigitChars 10 digits 0
  if digits ≠ [] ∧ digits.all Char.isDigit = true then
    some (if negative then -magnitude else magnitude)
  else none

/-- The leading capitals after the first: the last of them starts a word and is kept. -/
def camelCaseTail : List Char → List Char
  | [] => []
  | [last] => [last.toLower]
  | character :: next :: rest =>
      if next.isUpper then character.toLower :: camelCaseTail (next :: rest)
      else if next = ' ' then character.toLower :: next :: rest
      else character :: next :: rest

/-- `JsonNamingPolicy.CamelCase`. -/
def camelCase (name : String) : String :=
  match name.toList with
  | [] => name
  | first :: rest =>
      if first.isUpper then
        .ofList (first.toLower :: if rest.head?.any Char.isUpper then camelCaseTail rest else rest)
      else name

/-- A GUID as `ToString` writes it, in groups of 8, 4, 4, 4 and 12 hexadecimal digits. -/
def guidText (guid : BitVec 128) : String :=
  let digits := (List.range 32).map fun place => Nat.digitChar (guid.toNat / 16 ^ (31 - place) % 16)
  .ofList (digits.take 8 ++ '-' :: (digits.drop 8).take 4 ++ '-' :: (digits.drop 12).take 4 ++
    '-' :: (digits.drop 16).take 4 ++ '-' :: digits.drop 20)

theorem toNat_of_isDigit {character : Char} (isDigit : character.isDigit = true) :
    48 ≤ character.toNat ∧ character.toNat ≤ 57 := by
  simp only [Char.isDigit, Bool.and_eq_true, decide_eq_true_eq, ge_iff_le, UInt32.le_iff_toNat_le] at isDigit
  exact isDigit

private theorem leadingSign_of_digits {digits : List Char}
    (areDigits : ∀ character ∈ digits, character.isDigit = true) :
    leadingSign (digits.dropWhile isNumberSpace) = (false, digits) := by
  cases digits with
  | nil => rfl
  | cons first rest =>
      have bounds := toNat_of_isDigit (areDigits first List.mem_cons_self)
      have notSpace : isNumberSpace first = false := by
        simp only [isNumberSpace, Bool.or_eq_false_iff, beq_eq_false_iff_ne, Bool.and_eq_false_iff,
          decide_eq_false_iff_not]
        omega
      rw [List.dropWhile_cons_of_neg (by simp [notSpace])]
      have notMinus : first ≠ '-' := fun same => by
        rw [same] at bounds
        exact absurd bounds.1 (by decide)
      have notPlus : first ≠ '+' := fun same => by
        rw [same] at bounds
        exact absurd bounds.1 (by decide)
      simp [leadingSign, notMinus, notPlus]

private theorem leadingSign_toString (number : Int) :
    leadingSign ((toString number).toList.dropWhile isNumberSpace) =
      (decide (number < 0), Nat.toDigits 10 number.natAbs) := by
  cases number with
  | ofNat magnitude =>
      have digits : (toString (Int.ofNat magnitude)).toList = Nat.toDigits 10 magnitude := Nat.toList_repr
      rw [digits, leadingSign_of_digits fun _ => Nat.isDigit_of_mem_toDigits (by decide) (by decide)]
      simp
  | negSucc magnitude =>
      have digits : (toString (Int.negSucc magnitude)).toList =
          '-' :: Nat.toDigits 10 (magnitude + 1) := by
        change ("-" ++ (magnitude + 1).repr).toList = _
        simp [Nat.toList_repr]
      rw [digits, List.dropWhile_cons_of_neg (by decide)]
      simp [leadingSign, Int.negSucc_lt_zero]

/-- `int.TryParse` reads back the decimal digits of an `int`. -/
theorem intTryParse_toString (number : Int32) :
    intTryParse (toString number.toInt) = some number := by
  have areDigits : ∀ character ∈ Nat.toDigits 10 number.toInt.natAbs, character.isDigit = true :=
    fun _ member => Nat.isDigit_of_mem_toDigits (by decide) (by decide) member
  have allTaken : (Nat.toDigits 10 number.toInt.natAbs).takeWhile Char.isDigit =
      Nat.toDigits 10 number.toInt.natAbs := List.takeWhile_eq_self_iff.mpr areDigits
  have noneLeft : (Nat.toDigits 10 number.toInt.natAbs).dropWhile Char.isDigit = [] :=
    List.dropWhile_eq_nil_iff.mpr areDigits
  have signed : (if decide (number.toInt < 0) = true then -(number.toInt.natAbs : Int)
      else number.toInt.natAbs) = number.toInt := by
    simp only [decide_eq_true_eq]
    split <;> omega
  simp only [intTryParse, leadingSign_toString, allTaken, noneLeft, Nat.ofDigitChars_ten_toDigits, signed]
  rw [if_pos ⟨Nat.toDigits_ne_nil, rfl, number.le_toInt, number.toInt_lt⟩, Int32.ofInt_toInt]

theorem isNullOrWhiteSpace_guidText (guid : BitVec 128) : isNullOrWhiteSpace (guidText guid) = false := by
  have dash : '-' ∈ (guidText guid).toList := by simp [guidText]
  have notSpace : isWhiteSpace '-' = false := by decide
  exact List.all_eq_false.mpr ⟨'-', dash, by simp [notSpace]⟩

example : camelCase "SessionTicket" = "sessionTicket" := by decide +kernel
example : intTryParse " +12 " = some 12 := by decide +kernel
example : guidText 5 = "00000000-0000-0000-0000-000000000005" := by decide +kernel

end DotNet

end CppMMO.Lib
