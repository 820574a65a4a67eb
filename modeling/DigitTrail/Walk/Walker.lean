import DigitTrail.Digit
import DigitTrail.Plane
import DigitTrail.Memory.Basic
import DigitTrail.Reference
import DigitTrail.Sheet.Basic
import DigitTrail.Walk.Cursor

/-!
The walker moves one cell for each digit of the reference.

A tick steps the reading, lists the neighbours inside the box that show the new digit, and leaves
out the way straight back. Of those that remain it takes the one that the guide names, else the only
one, else the first if the digit before is preferred, else the one that the register of the digit
before points to. A walk that finds no cell to go to is at a dead end, which is not an error.

A guide sees every list of directions that it is offered and may answer with one; what it answers
may depend on all the offers made to it before.
-/

set_option autoImplicit false
set_option relaxedAutoImplicit false

namespace DigitTrail.Walk

open Plane (Box Direction Offset Position)
open Reference (Heading Reading)
open Sheet (Cell)

/-- Where a walk stopped and the digit it looked for, none past the reference's ends. -/
structure DeadEnd where
  position : Position
  digit : Option Digit
  deriving DecidableEq, Repr

inductive Tick
  | moved (direction : Direction) (digit : Digit)
  | deadEnd (stop : DeadEnd)
  deriving DecidableEq, Repr

def DeadEnd.message (e : DeadEnd) : String :=
  "Crashed at (" ++ Number.decimal e.position.place.column ++ "," ++
    Number.decimal e.position.place.row ++ "); could not find " ++
    match e.digit with
    | some d => Digit.text d
    | none => "a digit (end of pi reference)"

structure DigitSet where
  bits : BitVec 10
  deriving DecidableEq, Repr

namespace DigitSet

def empty : DigitSet := ⟨0⟩

def contains (s : DigitSet) (d : Digit) : Bool := s.bits.getLsbD d.val

def insert (s : DigitSet) (d : Digit) : DigitSet := ⟨s.bits ||| BitVec.twoPow 10 d.val⟩

def erase (s : DigitSet) (d : Digit) : DigitSet := ⟨s.bits &&& ~~~BitVec.twoPow 10 d.val⟩

def toList (s : DigitSet) : List Digit := Digit.all.filter s.contains

@[simp] theorem contains_empty (d : Digit) : empty.contains d = false := by
  simp [empty, contains]

theorem contains_insert (s : DigitSet) (d e : Digit) :
    (s.insert d).contains e = (s.contains e || decide (d = e)) := by
  rw [contains, insert, BitVec.getLsbD_or, BitVec.getLsbD_twoPow]
  simp [contains, Fin.ext_iff, d.isLt]

theorem contains_erase (s : DigitSet) (d e : Digit) :
    (s.erase d).contains e = (s.contains e && decide (d ≠ e)) := by
  rw [contains, erase, BitVec.getLsbD_and, BitVec.getLsbD_not, BitVec.getLsbD_twoPow]
  simp [contains, Fin.ext_iff, d.isLt, e.isLt]

end DigitSet

/-- The answer to an offer, from the offers made before, oldest first. -/
structure Guide where
  answer : Array (List Direction) → List Direction → Option Direction

inductive Answer
  | decline
  | first
  | last
  | toward (direction : Direction)
  deriving DecidableEq, Repr

namespace Answer

def pick : Answer → List Direction → Option Direction
  | .decline, _ => none
  | .first, offer => offer.head?
  | .last, offer => offer.getLast?
  | .toward d, _ => some d

/-- Read an answer; a text that is neither an end of the offer nor a direction declines. -/
def ofText (s : String) : Answer :=
  if s = "first" then .first
  else if s = "last" then .last
  else match Direction.ofText? s with
    | some d => .toward d
    | none => .decline

end Answer

def Guide.ofAnswers (answers : Array Answer) : Guide :=
  ⟨fun past offer => (answers[past.size]?).bind fun a => a.pick offer⟩

structure Walker where
  cursor : Cursor
  reading : Reading
  preferred : DigitSet
  guide : Option Guide
  offers : Array (List Direction)

inductive Reversal
  | toggle
  | toward (heading : Heading)
  deriving DecidableEq, Repr

/-- The place in a list of `count` that a register value points to. A negative
value counts from the end, and a count of zero is taken for one. -/
def pointedIndex (value : Int64) (count : Nat) : Nat :=
  (value.toInt % Int.ofNat (min (max count 1) Int64.maxValue.toInt.natAbs)).toNat

namespace Walker

/-- A walker at its start, following a reference without a guide. -/
def start (r : Reference) : Walker := ⟨.start, .start r, .empty, none, #[]⟩

/-- The cell at a displacement from the cursor, blank outside the box. -/
def look (w : Walker) (s : Sheet) (o : Offset) : Cell :=
  if (w.cursor.look o).moved then .blank else s.cell (w.cursor.look o).position

def below (w : Walker) (s : Sheet) (rows : Nat) : Cell := w.look s ⟨0, Int64.ofNat rows⟩

/-- The directions whose neighbour shows a digit, in the fixed order. -/
def candidates (w : Walker) (s : Sheet) (d : Digit) : List Direction :=
  Direction.all.filter fun dir => (w.look s dir.offset).digit? = some d

def onward (w : Walker) (s : Sheet) (d : Digit) : List Direction :=
  match w.cursor.lastMove with
  | none => w.candidates s d
  | some last => (w.candidates s d).filter (· ≠ last.reverse)

def turn (w : Walker) : Reversal → Walker
  | .toggle => { w with cursor := w.cursor.forget, reading := w.reading.turn }
  | .toward h => { w with cursor := w.cursor.forget, reading := w.reading.head h }

/-- Install a guide, or remove the one there is; its past starts empty. -/
def guided (w : Walker) (g : Option Guide) : Walker := { w with guide := g, offers := #[] }

/-- Offer the directions to the guide. Only an answer that is on offer counts. -/
def consult (w : Walker) (offer : List Direction) : Option Direction × Walker :=
  match w.guide with
  | none => (none, w)
  | some g =>
    ((g.answer w.offers offer).filter offer.contains, { w with offers := w.offers.push offer })

def move (w : Walker) (d : Direction) : Walker :=
  { w with cursor := (w.cursor.face d).advance }

variable {ε ω : Type} [Entropy ε]

def point (w : Walker) (m : Memory ε ω) (first : Direction) (offer : List Direction) :
    Direction × Memory ε ω :=
  let (value, m) := m.register ((w.reading.previous.map Digit.toInt).getD (-1)) none
  ((offer[pointedIndex value offer.length]?).getD first, m)

def settle (w : Walker) (m : Memory ε ω) (first : Direction) (others : List Direction) :
    Direction × Memory ε ω :=
  if others.isEmpty || w.reading.previous.any w.preferred.contains then (first, m)
  else w.point m first (first :: others)

def choose (w : Walker) (m : Memory ε ω) (first : Direction) (others : List Direction) :
    Direction × Walker × Memory ε ω :=
  match w.consult (first :: others) with
  | (some d, w) => (d, w, m)
  | (none, w) => ((w.settle m first others).1, w, (w.settle m first others).2)

/-- Go to a neighbour that shows the digit, or find none. -/
def seek (w : Walker) (s : Sheet) (m : Memory ε ω) (d : Digit) : Tick × Walker × Memory ε ω :=
  match w.onward s d with
  | [] => (.deadEnd ⟨w.cursor.position, some d⟩, w, m)
  | first :: others =>
    let (dir, w, m) := w.choose m first others
    (.moved dir d, w.move dir, m)

def tick (w : Walker) (s : Sheet) (m : Memory ε ω) : Tick × Walker × Memory ε ω :=
  let w := { w with reading := w.reading.advance }
  match w.reading.digit with
  | none => (.deadEnd ⟨w.cursor.position, none⟩, w, m)
  | some d => w.seek s m d

end Walker

def describePosition (p : Position) : String :=
  "Position \x7b x: " ++ Number.decimal p.x ++ ", y: " ++ Number.decimal p.y ++ " \x7d"

def describeBox (b : Box) : String :=
  "Bounds \x7b min: " ++ describePosition b.lo ++ ", max: " ++ describePosition b.hi ++ " \x7d"

def describeDirection : Direction → String
  | .nw => "NW"
  | .ne => "NE"
  | .sw => "SW"
  | .se => "SE"
  | .w => "W"
  | .e => "E"

def describeLastMove : Option Direction → String
  | some d => "Some(" ++ describeDirection d ++ ")"
  | none => "None"

def Cursor.describe (c : Cursor) : String :=
  "Cursor \x7b position: " ++ describePosition c.position ++
    ", facing: " ++ describeDirection c.facing ++
    ", dx: " ++ Number.decimal c.velocity.dx ++ ", dy: " ++ Number.decimal c.velocity.dy ++
    ", bounds: " ++ describeBox c.box ++
    ", observer: FacingTracker \x7b last_faced: " ++ describeLastMove c.lastMove ++ " \x7d \x7d"

def Walker.describe (w : Walker) : String :=
  "Navigator \x7b cursor: " ++ w.cursor.describe ++
    ", pi_index: " ++ Number.decimal w.reading.index ++
    ", priority: PriorityBranches(" ++ toString w.preferred.bits.toNat ++
    "), branch_override: " ++ toString w.guide.isSome ++ " \x7d"

end DigitTrail.Walk
