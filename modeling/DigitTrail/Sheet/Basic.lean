import DigitTrail.Sheet.Cell
import DigitTrail.Number
import DigitTrail.Plane
import DigitTrail.Text

/-!
Sheets: a source text as rows of cells. Carriage returns and the blanks and tabs that end a line are
no part of it, and every position beyond a row is blank.

A line is scanned into one cell per character. A letter or an underscore opens a name, which goes on
as long as name characters follow; the letters among the operators are operators where they stand
alone, before a blank, a bar or the end.
-/

set_option autoImplicit false
set_option relaxedAutoImplicit false

namespace DigitTrail.Sheet

def isNameChar (c : Char) : Bool :=
  c.isAlphanum || c = '_' || c = '@' || c = '[' || c = ']'

def opensName (c : Char) : Bool := c.isAlpha || c = '_'

def standsAlone : List Char → Bool
  | [] => true
  | c :: _ => c = ' ' || c = '|'

def symbolCell (c : Char) : Cell :=
  match Operator.ofChar? c with
  | some o => .operator o
  | none => .unknown c

def letterCell (c : Char) (rest : List Char) : Cell :=
  match if standsAlone rest then Operator.ofChar? c else none with
  | some o => .operator o
  | none => .name (String.ofList (c :: rest.takeWhile isNameChar))

/-- The cell that starts at `c`, given the characters that follow it. -/
def cellAt (c : Char) (rest : List Char) : Cell :=
  if c = ' ' then .blank
  else match Digit.ofChar? c with
    | some d => .path d
    | none => if opensName c then letterCell c rest else symbolCell c

/-- The name that goes on after this cell, if the cell is a name. -/
def Cell.run : Cell → Option Cell
  | .name s => some (.name s)
  | _ => none

/-- Scan with the name that the preceding character belongs to, if it does. -/
def scanFrom (run : Option Cell) : List Char → List Cell
  | [] => []
  | c :: rest =>
    match run.filter fun _ => isNameChar c with
    | some cell => cell :: scanFrom (some cell) rest
    | none => cellAt c rest :: scanFrom (cellAt c rest).run rest

/-- The cells of a line. -/
def scan (line : List Char) : List Cell := scanFrom none line

@[simp] theorem length_scanFrom (run : Option Cell) (line : List Char) :
    (scanFrom run line).length = line.length := by
  induction line generalizing run with
  | nil => rfl
  | cons c rest ih =>
    unfold scanFrom
    split <;> simp [ih]

@[simp] theorem length_scan (line : List Char) : (scan line).length = line.length :=
  length_scanFrom none line

end DigitTrail.Sheet

namespace DigitTrail

open Plane (Position)
open Sheet (Cell)

structure Sheet where
  rows : Array (Array Cell)
  deriving DecidableEq, Repr, Inhabited

namespace Sheet

def normalLines (source : String) : List (List Char) :=
  ((source.toList.filter (· ≠ '\r')).splitOn '\n').map fun line =>
    (line.reverse.dropWhile fun c => c = ' ' || c = '\t').reverse

def ofText (source : String) : Sheet :=
  ⟨((normalLines source).map fun line => (scan line).toArray).toArray⟩

def height (s : Sheet) : Nat := s.rows.size

def width (s : Sheet) : Nat := s.rows.foldl (fun n row => max n row.size) 0

def cell (s : Sheet) (p : Position) : Cell :=
  match Number.index? p.x, Number.index? p.y with
  | some x, some y => ((s.rows[y]?).bind fun row => row[x]?).getD .blank
  | _, _ => .blank

end Sheet

end DigitTrail
