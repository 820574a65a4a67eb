import DigitTrail.Config.Quotation
import DigitTrail.Data
import DigitTrail.Text

/-!
Numbers in configuration documents: integers in four bases and fractions. A word
is judged by its shape; whether it can also be read as a number is a second
question, and a word of the right shape that cannot is an illegible value.

Underscores divide a word into parts: every part but the first begins with a digit,
and every part but the last ends with one, so that an underscore always stands
between two digits and never next to a sign.
-/

set_option autoImplicit false
set_option relaxedAutoImplicit false

namespace DigitTrail.Config

open Data (Value)

def isHexDigit (c : Char) : Bool := (hexDigit? c).isSome

def partsBegin (isDigit : Char → Bool) (parts : List (List Char)) : Bool :=
  (parts.drop 1).all fun part => part.head?.any isDigit

def partsEnd (isDigit : Char → Bool) (parts : List (List Char)) : Bool :=
  parts.dropLast.all fun part => part.getLast?.any isDigit

/-- A word without its underscores, if they divide it well. -/
def joinParts? (isDigit : Char → Bool) (word : List Char) : Option (List Char) :=
  let parts := word.splitOn '_'
  if partsBegin isDigit parts && partsEnd isDigit parts then some parts.flatten else none

def numberIn (base : Nat) (digits : List Nat) : Nat := digits.foldl (fun n d => n * base + d) 0

def digitsIn? (base : Nat) (cs : List Char) : Option (List Nat) :=
  if cs.isEmpty then none
  else cs.mapM fun c => (hexDigit? c).filter (· < base)

def natural? (base : Nat) (cs : List Char) : Option Nat := (digitsIn? base cs).map (numberIn base)

/-- An integer in a base, with a sign in front or none. -/
def integer? (base : Nat) : List Char → Option Int
  | '+' :: cs => (natural? base cs).map Int.ofNat
  | '-' :: cs => (natural? base cs).map fun n => -Int.ofNat n
  | cs => (natural? base cs).map Int.ofNat

def isHoldable (i : Int) : Bool := -Int.ofNat (Nat.pow 2 127) ≤ i && i < Int.ofNat (Nat.pow 2 128)

def integerValue (base : Nat) (cs : List Char) : Value :=
  match (integer? base cs).filter isHoldable with
  | some i => .integer i
  | none => .illegible (String.ofList cs)

def base? : Char → Option Nat
  | 'x' => some 16
  | 'o' => some 8
  | 'b' => some 2
  | _ => none

/-- An integer in the base of a letter, from what follows the letter. -/
def basedInteger? (base : Nat) (cs : List Char) : Option Value :=
  if cs.all fun c => c = '_' || (hexDigit? c).any (· < base) then
    (joinParts? isHexDigit cs).map (integerValue base)
  else none

/-- An integer in base ten, from the word and from the word without its sign, which
has no needless zero in front. -/
def wholeNumber? (word body : List Char) : Option Value :=
  if body.head? = some '0' ∧ body ≠ ['0'] then none
  else (joinParts? isHexDigit word).map (integerValue 10)

/-- A fraction: digits and a power of ten that they are multiplied by. -/
structure Fraction where
  digits : List Nat
  power : Int
  deriving DecidableEq, Repr

def overflowLimit : Nat := Nat.pow 2 1024 - Nat.pow 2 970

/-- Whether a fraction has a finite nearest number. It is below ten to the sum of its
number of digits and its power, and at least a tenth of that, which settles all cases
but one without large powers. -/
def Fraction.isFinite (f : Fraction) : Bool :=
  let digits := f.digits.dropWhile (· = 0)
  let top := Int.ofNat digits.length + f.power
  if digits.isEmpty || top ≤ 308 then true
  else if 309 < top then false
  else numberIn 10 digits * Nat.pow 10 f.power.toNat < overflowLimit * Nat.pow 10 (-f.power).toNat

/-- The digits at the start of a text, with underscores among them, and what follows
them. There is at least one digit. -/
def digitRun? (cs : List Char) : Option (List Char × List Char) :=
  let run := cs.takeWhile fun c => c.isDigit || c = '_'
  if run.any Char.isDigit then some (run, cs.drop run.length) else none

def runDigits (run : List Char) : List Nat := run.filterMap hexDigit?

/-- The places after a decimal point; there may be none. -/
def places? : List Char → Option (List Nat × List Char)
  | '.' :: cs => (digitRun? cs).map fun r => (runDigits r.1, r.2)
  | cs => some ([], cs)

def exponentAfter? : List Char → Option (Int × List Char)
  | '-' :: cs => (digitRun? cs).map fun r => (-Int.ofNat (numberIn 10 (runDigits r.1)), r.2)
  | '+' :: cs => (digitRun? cs).map fun r => (Int.ofNat (numberIn 10 (runDigits r.1)), r.2)
  | cs => (digitRun? cs).map fun r => (Int.ofNat (numberIn 10 (runDigits r.1)), r.2)

/-- An exponent; there may be none. -/
def exponent? : List Char → Option (Int × List Char)
  | 'e' :: cs => exponentAfter? cs
  | 'E' :: cs => exponentAfter? cs
  | cs => some (0, cs)

/-- A fraction without its sign, underscores left aside: digits without a needless
zero in front, places and an exponent. -/
def unsignedFraction? (body : List Char) : Option Fraction := do
  let (whole, rest) ← digitRun? body
  let (places, rest) ← places? rest
  let (exponent, rest) ← exponent? rest
  if rest.isEmpty ∧ ¬ (whole.head? = some '0' ∧ 1 < (runDigits whole).length) then
    return ⟨runDigits whole ++ places, exponent - places.length⟩
  else none

/-- A fraction, from the word and from the word without its sign. -/
def fraction? (word body : List Char) : Option Value := do
  let f ← unsignedFraction? body
  let _ ← joinParts? Char.isDigit word
  return if f.isFinite then .fraction (String.ofList word) else .illegible (String.ofList word)

end DigitTrail.Config
