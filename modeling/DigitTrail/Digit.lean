import DigitTrail.Number

/-!
Decimal digits. Path cells carry one, the reference text yields one per index,
and registers are named by one.
-/

set_option autoImplicit false
set_option relaxedAutoImplicit false

namespace DigitTrail

/-- A decimal digit, zero to nine. -/
abbrev Digit := Fin 10

namespace Digit

def all : List Digit := List.finRange 10

/-- The digit with this value, if the number is below ten. -/
def ofNat? (n : Nat) : Option Digit :=
  if h : n < 10 then some ⟨n, h⟩ else none

/-- The digit written by a character. Only the ASCII digits write one. -/
def ofChar? (c : Char) : Option Digit :=
  (Number.digitValue? c).bind ofNat?

def ofInt? (i : Int64) : Option Digit :=
  if 0 ≤ i then ofNat? i.toInt.toNat else none

def toInt (d : Digit) : Int64 := Int64.ofNat d.val

def toChar (d : Digit) : Char := Char.ofNat ('0'.toNat + d.val)

def text (d : Digit) : String := String.singleton d.toChar

def refusal (n : Nat) : String := toString n ++ " is not a decimal digit"

theorem ofChar?_toChar (d : Digit) : ofChar? d.toChar = some d := by
  revert d; decide

theorem toChar_of_ofChar? {c : Char} {d : Digit} (h : ofChar? c = some d) : d.toChar = c := by
  unfold ofChar? Number.digitValue? at h
  split at h
  next range =>
    have low : '0'.toNat ≤ c.toNat := range.1
    have value : d.val = c.toNat - '0'.toNat := by
      simp only [Option.bind_some, ofNat?] at h
      split at h
      · simp [← Option.some.inj h]
      · contradiction
    rw [toChar, value, Nat.add_sub_cancel' low, Char.ofNat_toNat]
  next => contradiction

theorem ofInt?_toInt (d : Digit) : ofInt? d.toInt = some d := by
  revert d; decide

end Digit

end DigitTrail
