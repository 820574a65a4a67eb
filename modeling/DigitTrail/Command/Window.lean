import DigitTrail.Number
import DigitTrail.Plane
import DigitTrail.Text

/-!
What is shown between steps: the neighbourhood of the cursor in the source as it was written, and
the registers on one line. The limits of the neighbourhood are sums that may overflow, and then
nothing can be shown.
-/

set_option autoImplicit false
set_option relaxedAutoImplicit false

namespace DigitTrail.Command

open Number (Overflow)
open Plane (Position)

/-- The characters of a source, line by line, without ending carriage returns. -/
structure Page where
  lines : Array (Array Char)
  deriving DecidableEq, Repr

namespace Page

def ofText (source : String) : Page :=
  ⟨((Text.lines source).map fun line =>
    (line.reverse.dropWhile (· = '\r')).reverse.toArray).toArray⟩

/-- The character at a column and a row, a space outside the lines. -/
def char (p : Page) (x y : Int) : Char :=
  if x < 0 ∨ y < 0 then ' '
  else ((p.lines[y.toNat]?).bind fun row => row[x.toNat]?).getD ' '

end Page

/-- The integers from one limit to another, in increasing order. -/
def interval (lo hi : Int64) : List Int :=
  (List.range (hi.toInt - lo.toInt + 1).toNat).map fun (k : Nat) => lo.toInt + k

/-- The integers up to `reach` away from a centre, unless a limit overflows. -/
def around (centre : Int64) (reach : Nat) : Except Overflow (List Int) := do
  let lo ← Number.checked .difference (centre.toInt - reach)
  let hi ← Number.checked .sum (centre.toInt + reach)
  return interval lo hi

/-- A cell of the window: bracketed at the cursor, spaced elsewhere. -/
def windowCell (p : Page) (cursor : Position) (x y : Int) : List Char :=
  if x = cursor.x.toInt ∧ y = cursor.y.toInt then ['[', p.char x y, ']']
  else [' ', p.char x y, ' ']

/-- A row of the window. Moves along a row cover two columns, so the window is twice as wide as it
is high. -/
def windowRow (p : Page) (cursor : Position) (radius : Nat) (y : Int) :
    Except Overflow (List Char) := do
  return (← around cursor.x (2 * radius)).flatMap fun x => windowCell p cursor x y

/-- Add a row to what is written so far, the latest character first: drop the spaces at the end and
end the line. -/
def endRow (written row : List Char) : List Char :=
  '\n' :: (row.reverse ++ written).dropWhile (· = ' ')

def window (p : Page) (cursor : Position) (radius : Nat) : Except Overflow String := do
  let rows ← around cursor.y radius
  let written ← rows.foldlM
    (fun written y => return endRow written (← windowRow p cursor radius y)) []
  return String.ofList written.reverse

/-- A register with its number; an underscore marks one that floats. -/
def registerText (n : Nat) (v : Option Int64) : String :=
  "r" ++ toString n ++ "=" ++ match v with
    | some v => Number.decimal v
    | none => "_"

def registerLine (values : List (Option Int64)) : String :=
  " ".intercalate (values.zipIdx.map fun v => registerText v.2 v.1)

end DigitTrail.Command
