import DigitTrail.Digit
import DigitTrail.Plane

/-!
Structured data, as documents and messages carry it, and how digits, directions, positions and boxes
are written as data. Fractions and moments keep their text, since nothing here computes with them. A
number that is written and cannot be read is a value all the same, as long as nobody looks at it.
-/

set_option autoImplicit false
set_option relaxedAutoImplicit false

namespace DigitTrail.Data

inductive Value
  | null
  | bool (b : Bool)
  | integer (i : Int)
  | fraction (text : String)
  | moment (text : String)
  | illegible (text : String)
  | text (s : String)
  | list (items : List Value)
  | table (fields : List (String × Value))
  deriving Inhabited

namespace Value

def natUpTo? (limit : Nat) : Value → Option Nat
  | .integer i => if 0 ≤ i ∧ i ≤ limit then some i.toNat else none
  | _ => none

def int64? : Value → Option Int64
  | .integer i => Number.int64? i
  | _ => none

def bool? : Value → Option Bool
  | .bool b => some b
  | _ => none

def text? : Value → Option String
  | .text s => some s
  | _ => none

end Value

mutual

def Value.isLegible : Value → Bool
  | .illegible _ => false
  | .list items => itemsLegible items
  | .table fields => fieldsLegible fields
  | _ => true

def itemsLegible : List Value → Bool
  | [] => true
  | v :: rest => v.isLegible && itemsLegible rest

def fieldsLegible : List (String × Value) → Bool
  | [] => true
  | (_, v) :: rest => v.isLegible && fieldsLegible rest

end

/-- Whether a list that stands for a fixed number of things may go on after them. -/
inductive ListRule
  | exact | leading
  deriving DecidableEq, Repr

def ListRule.pair? (rule : ListRule) : List Value → Option (Value × Value)
  | [a, b] => some (a, b)
  | a :: b :: _ => if rule = .leading then some (a, b) else none
  | _ => none

/-- The value of a field that is given once. -/
def single? (fields : List (String × Value)) (name : String) : Option Value :=
  match fields.filter fun f => f.1 = name with
  | [(_, v)] => some v
  | _ => none

/-- Two parts that are written as two fields, each given once, or as a list of both. Other fields do
not matter, but they have to be legible. -/
def pairForm? (rule : ListRule) (first second : String) : Value → Option (Value × Value)
  | .table fields => do
    let a ← single? fields first
    let b ← single? fields second
    if fieldsLegible fields then return (a, b) else none
  | .list items => rule.pair? items
  | _ => none

open Plane (Box Direction Position)

def digit? (v : Value) : Option Digit := (v.natUpTo? 9).bind Digit.ofNat?

def ofDigit (d : Digit) : Value := .integer d.val

/-- A direction is its name, alone or as the only field of a table that holds nothing. -/
def direction? : Value → Option Direction
  | .text s => Direction.ofName? s
  | .table [(s, .null)] => Direction.ofName? s
  | _ => none

def ofDirection (d : Direction) : Value := .text d.name

def position? (rule : ListRule) (v : Value) : Option Position := do
  let (x, y) ← pairForm? rule "x" "y" v
  return ⟨← x.int64?, ← y.int64?⟩

def ofPosition (p : Position) : Value :=
  .table [("x", .integer p.x.toInt), ("y", .integer p.y.toInt)]

def box? (rule : ListRule) (v : Value) : Option Box := do
  let (lo, hi) ← pairForm? rule "min" "max" v
  return ⟨← position? rule lo, ← position? rule hi⟩

def ofBox (b : Box) : Value := .table [("min", ofPosition b.lo), ("max", ofPosition b.hi)]

end DigitTrail.Data
