import Mathlib.Data.List.Basic
import Mathlib.Data.List.Induction
import Mathlib.Data.List.TakeWhile
import Mathlib.Algebra.Group.Int.Defs

/-! Decimal integers in C++ byte strings, as `std::to_string` writes and `std::stoll` reads
them. -/

set_option autoImplicit false

namespace CppMMO.Lib

namespace Decimal

def isDigit (byte : UInt8) : Bool := 48 ≤ byte.toNat && byte.toNat ≤ 57

/-- The digits of a number, the most significant first. -/
def digits (number : Nat) : List UInt8 :=
  (Nat.toDigits 10 number).map fun character => UInt8.ofNat character.toNat

def digitsValue (digits : List UInt8) : Nat :=
  digits.foldl (fun value byte => 10 * value + (byte.toNat - 48)) 0

/-- What `isspace` skips in the C locale. -/
def isBlank (byte : UInt8) : Bool := byte.toNat = 32 || (9 ≤ byte.toNat && byte.toNat ≤ 13)

end Decimal

/-- `std::to_string` of a signed integer. -/
def toDecimal : Int → List UInt8
  | .ofNat number => Decimal.digits number
  | .negSucc number => 45 :: Decimal.digits (number + 1)

/-- What `strtoll` sees in a text: white space, a sign (plus is 43, minus is 45), digits, and
characters that it leaves alone. -/
structure Numeral where
  blanks : List UInt8
  sign : List UInt8
  digits : List UInt8
  rest : List UInt8
deriving DecidableEq

namespace Numeral

def leadingSign : List UInt8 → List UInt8 × List UInt8
  | [] => ([], [])
  | first :: rest => if first = 43 ∨ first = 45 then ([first], rest) else ([], first :: rest)

def ofText (text : List UInt8) : Numeral :=
  let (sign, unsigned) := leadingSign (text.dropWhile Decimal.isBlank)
  { blanks := text.takeWhile Decimal.isBlank, sign
    digits := unsigned.takeWhile Decimal.isDigit, rest := unsigned.dropWhile Decimal.isDigit }

def value (numeral : Numeral) : Int :=
  if numeral.sign = [45] then -(Decimal.digitsValue numeral.digits)
  else Decimal.digitsValue numeral.digits

def InRange (numeral : Numeral) : Prop := -2 ^ 63 ≤ numeral.value ∧ numeral.value < 2 ^ 63

instance (numeral : Numeral) : Decidable numeral.InRange := inferInstanceAs (Decidable (_ ∧ _))

/-- Nothing around the digits but a minus, no superfluous zero and no negative one. -/
structure Canonical (numeral : Numeral) : Prop where
  blanks_eq : numeral.blanks = []
  sign_ne : numeral.sign ≠ [43]
  zero_alone : numeral.digits.head? = some 48 → numeral.digits = [48] ∧ numeral.sign = []
  rest_eq : numeral.rest = []

end Numeral

inductive StollError where
  | invalidArgument
  | outOfRange
deriving DecidableEq

def stoll (text : List UInt8) : Except StollError Int64 :=
  let numeral := Numeral.ofText text
  if numeral.digits = [] then .error .invalidArgument
  else if numeral.InRange then .ok (Int64.ofInt numeral.value)
  else .error .outOfRange

namespace Decimal

theorem toNat_of_isDigit {byte : UInt8} (digit : isDigit byte = true) :
    48 ≤ byte.toNat ∧ byte.toNat ≤ 57 := by
  simpa [isDigit] using digit

theorem digitChar_byte {number : Nat} (small : number < 10) :
    UInt8.ofNat number.digitChar.toNat = UInt8.ofNat (48 + number) :=
  (by decide : ∀ number : Fin 10,
    UInt8.ofNat (Nat.digitChar number).toNat = UInt8.ofNat (48 + number)) ⟨number, small⟩

theorem digits_of_lt {number : Nat} (small : number < 10) :
    digits number = [UInt8.ofNat (48 + number)] := by
  rw [digits, Nat.toDigits_of_lt_base small, List.map_singleton, digitChar_byte small]

theorem digits_of_le {number : Nat} (large : 10 ≤ number) :
    digits number = digits (number / 10) ++ [UInt8.ofNat (48 + number % 10)] := by
  rw [digits, Nat.toDigits_of_base_le (by decide) large, List.map_append, List.map_singleton,
    digitChar_byte (Nat.mod_lt number (by decide))]
  rfl

theorem toNat_digit {number : Nat} (small : number < 10) :
    (UInt8.ofNat (48 + number)).toNat = 48 + number := by
  rw [UInt8.toNat_ofNat', Nat.mod_eq_of_lt (by omega)]

theorem isDigit_digit {number : Nat} (small : number < 10) :
    isDigit (UInt8.ofNat (48 + number)) = true := by
  rw [isDigit, toNat_digit small]
  simp only [Bool.and_eq_true, decide_eq_true_eq]
  omega

theorem isDigit_of_mem_digits {number : Nat} {byte : UInt8} (member : byte ∈ digits number) :
    isDigit byte = true := by
  induction number using Nat.strong_induction_on with
  | _ number ih =>
      by_cases small : number < 10
      · rw [digits_of_lt small, List.mem_singleton] at member
        exact member ▸ isDigit_digit small
      · rw [digits_of_le (by omega), List.mem_append, List.mem_singleton] at member
        rcases member with earlier | rfl
        · exact ih (number / 10) (by omega) earlier
        · exact isDigit_digit (Nat.mod_lt number (by decide))

theorem digits_ne_nil (number : Nat) : digits number ≠ [] := by
  simp [digits, Nat.toDigits_ne_nil]

theorem digitsValue_concat (front : List UInt8) (byte : UInt8) :
    digitsValue (front ++ [byte]) = 10 * digitsValue front + (byte.toNat - 48) := by
  simp [digitsValue, List.foldl_append]

theorem digitsValue_digits (number : Nat) : digitsValue (digits number) = number := by
  induction number using Nat.strong_induction_on with
  | _ number ih =>
      by_cases small : number < 10
      · rw [digits_of_lt small, ← List.nil_append [_], digitsValue_concat, toNat_digit small]
        simp [digitsValue]
      · rw [digits_of_le (by omega), digitsValue_concat, ih (number / 10) (by omega),
          toNat_digit (Nat.mod_lt number (by decide))]
        omega

/-- A number with two digits or more does not start with a zero. -/
theorem head_digits {number : Nat} (positive : 0 < number) : (digits number).head? ≠ some 48 := by
  induction number using Nat.strong_induction_on with
  | _ number ih =>
      by_cases small : number < 10
      · rw [digits_of_lt small]
        intro same
        have bytes := congrArg UInt8.toNat (Option.some.inj same)
        rw [toNat_digit small] at bytes
        change 48 + number = 48 at bytes
        omega
      · rw [digits_of_le (by omega), List.head?_append_of_ne_nil _ (digits_ne_nil _)]
        exact ih (number / 10) (by omega) (by omega)

/-- Digits without a superfluous zero are the digits of their value. -/
theorem digits_digitsValue {bytes : List UInt8} (nonempty : bytes ≠ [])
    (areDigits : ∀ byte ∈ bytes, isDigit byte = true)
    (leading : bytes.head? = some 48 → bytes = [48]) : digits (digitsValue bytes) = bytes := by
  induction bytes using List.reverseRecOn with
  | nil => exact absurd rfl nonempty
  | append_singleton front last ih =>
      have lastDigit := toNat_of_isDigit (areDigits last (by simp))
      have rebuilt : UInt8.ofNat (48 + (last.toNat - 48)) = last := by
        rw [Nat.add_sub_cancel' lastDigit.1, UInt8.ofNat_toNat]
      rw [digitsValue_concat]
      by_cases alone : front = []
      · subst alone
        simp only [digitsValue, List.foldl_nil, Nat.mul_zero, Nat.zero_add, List.nil_append]
        rw [digits_of_lt (by omega), rebuilt]
      · have notZero : front.head? ≠ some 48 := by
          intro zero
          have whole := leading (by rw [List.head?_append_of_ne_nil _ alone, zero])
          have lengths := congrArg List.length whole
          have shorter : 0 < front.length := List.length_pos_iff.mpr alone
          simp only [List.length_append, List.length_singleton] at lengths
          omega
        have frontDigits := ih alone (fun byte member => areDigits byte (by simp [member]))
          fun zero => absurd zero notZero
        have positive : 0 < digitsValue front := by
          by_contra zero
          rw [Nat.eq_zero_of_not_pos zero] at frontDigits
          rw [← frontDigits] at notZero
          exact notZero rfl
        rw [digits_of_le (by omega)]
        have quotient : (10 * digitsValue front + (last.toNat - 48)) / 10 = digitsValue front := by
          omega
        have remainder : (10 * digitsValue front + (last.toNat - 48)) % 10 = last.toNat - 48 := by
          omega
        rw [quotient, remainder, frontDigits, rebuilt]

end Decimal

namespace Numeral

theorem leadingSign_append (text : List UInt8) :
    (leadingSign text).1 ++ (leadingSign text).2 = text := by
  cases text with
  | nil => rfl
  | cons first rest =>
      simp only [leadingSign]
      split <;> rfl

/-- The parts of a text make up the text. -/
theorem parts_ofText (text : List UInt8) :
    (ofText text).blanks ++ ((ofText text).sign ++ ((ofText text).digits ++ (ofText text).rest)) =
      text := by
  simp only [ofText, List.takeWhile_append_dropWhile, leadingSign_append]

theorem sign_ofText (text : List UInt8) :
    (ofText text).sign = [] ∨ (ofText text).sign = [43] ∨ (ofText text).sign = [45] := by
  simp only [ofText]
  cases text.dropWhile Decimal.isBlank with
  | nil => exact .inl rfl
  | cons first rest =>
      simp only [leadingSign]
      split
      · next sign => exact .inr (sign.imp (fun plus => by rw [plus]) fun minus => by rw [minus])
      · exact .inl rfl

theorem isDigit_of_mem_ofText {text : List UInt8} {byte : UInt8}
    (member : byte ∈ (ofText text).digits) : Decimal.isDigit byte = true :=
  List.mem_takeWhile_imp member

/-- A digit is no white space and no sign. -/
theorem leadingSign_of_digits {digits : List UInt8}
    (areDigits : ∀ byte ∈ digits, Decimal.isDigit byte = true) :
    digits.takeWhile Decimal.isBlank = [] ∧
      leadingSign (digits.dropWhile Decimal.isBlank) = ([], digits) := by
  cases digits with
  | nil => exact ⟨rfl, rfl⟩
  | cons first rest =>
      have bounds := Decimal.toNat_of_isDigit (areDigits first List.mem_cons_self)
      have notBlank : Decimal.isBlank first = false := by
        simp only [Decimal.isBlank, Bool.or_eq_false_iff, Bool.and_eq_false_iff,
          decide_eq_false_iff_not]
        omega
      have notSign : ¬ (first = 43 ∨ first = 45) := by
        rintro (rfl | rfl)
        · exact absurd bounds.1 (by decide)
        · exact absurd bounds.1 (by decide)
      rw [List.takeWhile_cons_of_neg (by simp [notBlank]),
        List.dropWhile_cons_of_neg (by simp [notBlank]), leadingSign, if_neg notSign]
      exact ⟨rfl, rfl⟩

theorem ofText_toDecimal (number : Int) :
    ofText (toDecimal number) =
      { blanks := [], sign := if number < 0 then [45] else []
        digits := Decimal.digits number.natAbs, rest := [] } := by
  have areDigits : ∀ byte ∈ Decimal.digits number.natAbs, Decimal.isDigit byte = true :=
    fun _ => Decimal.isDigit_of_mem_digits
  have all := List.takeWhile_eq_self_iff.mpr areDigits
  have none := List.dropWhile_eq_nil_iff.mpr areDigits
  cases number with
  | ofNat magnitude =>
      obtain ⟨noBlanks, noSign⟩ := leadingSign_of_digits areDigits
      have unsigned : ¬ Int.ofNat magnitude < 0 := Int.not_lt.mpr (Int.natCast_nonneg magnitude)
      simp only [Int.natAbs_ofNat'] at all none noBlanks noSign
      simp only [ofText, toDecimal, noBlanks, noSign, all, none, unsigned, ↓reduceIte,
        Int.natAbs_ofNat']
  | negSucc magnitude =>
      simp only [Int.natAbs_negSucc] at all none
      simp [ofText, toDecimal, Decimal.isBlank, leadingSign, all, none, Int.negSucc_lt_zero]

theorem value_toDecimal (number : Int) : (ofText (toDecimal number)).value = number := by
  simp only [value, ofText_toDecimal, Decimal.digitsValue_digits]
  by_cases negative : number < 0
  · simp only [negative, ↓reduceIte]
    omega
  · simp only [negative, ↓reduceIte, List.ne_cons_self]
    omega

theorem canonical_toDecimal (number : Int) : (ofText (toDecimal number)).Canonical := by
  rw [ofText_toDecimal]
  refine ⟨rfl, ?_, fun zero => ?_, rfl⟩
  · split <;> simp
  · have magnitude : number.natAbs = 0 := by
      by_contra nonzero
      exact Decimal.head_digits (Nat.pos_of_ne_zero nonzero) zero
    have same : number = 0 := Int.natAbs_eq_zero.mp magnitude
    subst same
    exact ⟨rfl, rfl⟩

/-- A canonical numeral is the text of its value. -/
theorem Canonical.toDecimal_eq {text : List UInt8} (canonical : (ofText text).Canonical)
    (nonempty : (ofText text).digits ≠ []) : toDecimal (ofText text).value = text := by
  have digits := Decimal.digits_digitsValue nonempty (fun _ => isDigit_of_mem_ofText)
    fun zero => (canonical.zero_alone zero).1
  have parts := parts_ofText text
  rw [canonical.blanks_eq, canonical.rest_eq, List.nil_append, List.append_nil] at parts
  rcases sign_ofText text with unsigned | plus | minus
  · rw [unsigned, List.nil_append] at parts
    rw [value, unsigned, if_neg (by decide)]
    exact digits.trans parts
  · exact absurd plus canonical.sign_ne
  · rw [minus] at parts
    have positive : 0 < Decimal.digitsValue (ofText text).digits := by
      by_contra zero
      rw [Nat.eq_zero_of_not_pos zero] at digits
      have signed := (canonical.zero_alone (by rw [← digits]; rfl)).2
      rw [minus] at signed
      cases signed
    obtain ⟨magnitude, same⟩ := Nat.exists_eq_succ_of_ne_zero positive.ne'
    rw [value, minus, if_pos rfl, same]
    rw [same] at digits
    change 45 :: Decimal.digits (magnitude + 1) = text
    rw [← parts, ← digits]
    rfl

end Numeral

theorem stoll_isOk_iff (text : List UInt8) :
    (stoll text).isOk = true ↔ (Numeral.ofText text).digits ≠ [] ∧ (Numeral.ofText text).InRange := by
  unfold stoll
  by_cases empty : (Numeral.ofText text).digits = []
  · simp [empty, Except.isOk, Except.toBool]
  · by_cases fits : (Numeral.ofText text).InRange
    · simp [empty, fits, Except.isOk, Except.toBool]
    · simp [empty, fits, Except.isOk, Except.toBool]

/-- `std::stoll` reads back what `std::to_string` writes. -/
theorem stoll_toDecimal (number : Int64) : stoll (toDecimal number.toInt) = .ok number := by
  have nonempty : (Numeral.ofText (toDecimal number.toInt)).digits ≠ [] := by
    rw [Numeral.ofText_toDecimal]
    exact Decimal.digits_ne_nil _
  have fits : (Numeral.ofText (toDecimal number.toInt)).InRange := by
    rw [Numeral.InRange, Numeral.value_toDecimal]
    exact ⟨number.le_toInt, number.toInt_lt⟩
  rw [stoll, if_neg nonempty, if_pos fits, Numeral.value_toDecimal, Int64.ofInt_toInt]

end CppMMO.Lib
