import DigitTrail.Digit
import DigitTrail.Number
import DigitTrail.Text

/-!
Reference texts: the sequence of digits that a walk follows. A text is indexed by the bytes of its
UTF-8 form, and a byte that is no digit leaves a gap. A reading is an index that moves one step at a
time, forward or backward. It starts on the first digit, so that the first step lands on the second.

The reference that is followed when no other is given is pi: the first ten thousand digits, without
a decimal point, from Machin's sum of two inverse cotangents in scaled integer arithmetic. Twenty
guard digits absorb what the integer divisions drop.
-/

set_option autoImplicit false
set_option relaxedAutoImplicit false

namespace DigitTrail

/-- The digit at each byte of a trimmed text, none where the byte is no digit. -/
structure Reference where
  marks : Array (Option Digit)
  deriving DecidableEq, Repr, Inhabited

namespace Reference

def digitOfByte? (b : UInt8) : Option Digit := Digit.ofChar? (Char.ofNat b.toNat)

/-- The marks of a text, trimmed of blanks at both ends. -/
def marksOf (s : String) : Array (Option Digit) :=
  ((Text.trimBlank s).toUTF8.toList.map digitOfByte?).toArray

def ofText? (s : String) : Option Reference :=
  if (marksOf s).any Option.isSome then some ⟨marksOf s⟩ else none

def refusal : String := "pi reference contains no digits"

def size (r : Reference) : Nat := r.marks.size

/-- The digit at an index, none outside the text and in a gap. -/
def get? (r : Reference) (i : Int64) : Option Digit :=
  (Number.index? i).bind fun n => (r.marks[n]?).join

end Reference

end DigitTrail

namespace DigitTrail.Reference

inductive Heading
  | forward | backward
  deriving DecidableEq, Repr, Inhabited

namespace Heading

def step : Heading → Int64
  | .forward => 1
  | .backward => -1

def reverse : Heading → Heading
  | .forward => .backward
  | .backward => .forward

end Heading

structure Reading where
  reference : Reference
  index : Int64
  heading : Heading
  deriving DecidableEq, Repr

namespace Reading

def start (r : Reference) : Reading := ⟨r, 0, .forward⟩

def digit (r : Reading) : Option Digit := r.reference.get? r.index

def digitAt (r : Reading) (offset : Int64) : Option Digit :=
  r.reference.get? (Number.satAdd r.index offset)

/-- The digit one step behind, as seen along the heading. -/
def previous (r : Reading) : Option Digit := r.digitAt (-r.heading.step)

def advance (r : Reading) : Reading :=
  { r with index := Number.satAdd r.index r.heading.step }

def turn (r : Reading) : Reading := { r with heading := r.heading.reverse }

def head (r : Reading) (h : Heading) : Reading := { r with heading := h }

end Reading

/-- The alternating sum of `term / k`, where `term` shrinks by `square` and `k`
grows by two, until the term vanishes. -/
def alternating (square : Nat) : (fuel k term : Nat) → Int
  | 0, _, _ => 0
  | fuel + 1, k, term =>
    if term = 0 then 0
    else Int.ofNat (term / k) - alternating square fuel (k + 2) (term / square)

/-- The inverse cotangent of `x`, scaled. Each term is at least twenty-five times
smaller than the one before, so `places` terms suffice for `x ≥ 5`. -/
def arccot (places x : Nat) : Int :=
  alternating (x * x) places 1 (Nat.pow 10 places / x)

def guardDigits : Nat := 20

/-- The leading three and `places` decimal places of pi, as one integer. -/
def piScaled (places : Nat) : Int :=
  (16 * arccot (places + guardDigits) 5 - 4 * arccot (places + guardDigits) 239) /
    Int.ofNat (Nat.pow 10 guardDigits)

def pi : Reference := ⟨marksOf (toString (piScaled 9999))⟩

end DigitTrail.Reference
