import DigitTrail.Number
import DigitTrail.Text

/-!
The plane. A step has six directions: rows are staggered, so a cell has four diagonal neighbours one
column and one row away and two on its own row, two columns away. Positions count columns and rows
from zero; places, which are shown to people, count from one. A box is the rectangle of cells
between two corners, and has cells only if the first corner is nowhere beyond the second.
-/

set_option autoImplicit false
set_option relaxedAutoImplicit false

namespace DigitTrail.Plane

inductive Direction
  | nw | ne | sw | se | w | e
  deriving DecidableEq, Repr, Inhabited

/-- A displacement: columns to the right and rows down. -/
structure Offset where
  dx : Int64
  dy : Int64
  deriving DecidableEq, Repr

namespace Direction

/-- All directions in the order in which candidates are listed. -/
def all : List Direction := [.nw, .ne, .sw, .se, .w, .e]

def offset : Direction → Offset
  | .nw => ⟨-1, -1⟩
  | .ne => ⟨1, -1⟩
  | .sw => ⟨-1, 1⟩
  | .se => ⟨1, 1⟩
  | .w => ⟨-2, 0⟩
  | .e => ⟨2, 0⟩

def reverse : Direction → Direction
  | .nw => .se
  | .ne => .sw
  | .sw => .ne
  | .se => .nw
  | .w => .e
  | .e => .w

def name : Direction → String
  | .nw => "nw"
  | .ne => "ne"
  | .sw => "sw"
  | .se => "se"
  | .w => "w"
  | .e => "e"

def ofName? (s : String) : Option Direction := all.find? fun d => d.name = s

/-- Read a direction; blanks around the name and the case of ASCII letters do not matter. -/
def ofText? (s : String) : Option Direction := ofName? (Text.lowerAscii (Text.trimBlank s))

def refusal (s : String) : String :=
  "invalid direction '" ++ s ++ "'; expected one of: [" ++
    ", ".intercalate (all.map fun d => "\"" ++ d.name ++ "\"") ++ "]"

def rank (d : Direction) : Nat := all.idxOf d

@[simp] theorem mem_all (d : Direction) : d ∈ all := by cases d <;> decide

@[simp] theorem reverse_reverse (d : Direction) : d.reverse.reverse = d := by cases d <;> rfl

theorem ofName?_name (d : Direction) : ofName? d.name = some d := by cases d <;> decide

end Direction

open Number (satAdd decimal)

/-- A column `x` and a row `y`, counted from zero. -/
structure Position where
  x : Int64
  y : Int64
  deriving DecidableEq, Repr, Inhabited

structure Place where
  row : Int64
  column : Int64
  deriving DecidableEq, Repr

namespace Position

def origin : Position := ⟨0, 0⟩

/-- The position a displacement away; coordinates stop at their limits. -/
def shift (p : Position) (o : Offset) : Position := ⟨satAdd p.x o.dx, satAdd p.y o.dy⟩

def place (p : Position) : Place := ⟨satAdd p.y 1, satAdd p.x 1⟩

def text (p : Position) : String := "(" ++ decimal p.x ++ "," ++ decimal p.y ++ ")"

end Position

def Place.text (p : Place) : String :=
  "row " ++ decimal p.row ++ ", column " ++ decimal p.column

structure Box where
  lo : Position
  hi : Position
  deriving DecidableEq, Repr

/-- A cell brought into a box, and whether it had to move. -/
structure Clamped where
  position : Position
  moved : Bool
  deriving DecidableEq, Repr

namespace Box

/-- The box in which a walk starts: a hundred and one cells on each axis. -/
def standard : Box := ⟨⟨0, 0⟩, ⟨100, 100⟩⟩

/-- The box spanned by two opposite corners, in whichever order. -/
def spanning (a b : Position) : Box :=
  ⟨⟨if a.x ≤ b.x then a.x else b.x, if a.y ≤ b.y then a.y else b.y⟩,
    ⟨if a.x ≤ b.x then b.x else a.x, if a.y ≤ b.y then b.y else a.y⟩⟩

def Ordered (b : Box) : Prop := b.lo.x ≤ b.hi.x ∧ b.lo.y ≤ b.hi.y

instance (b : Box) : Decidable b.Ordered := inferInstanceAs (Decidable (_ ∧ _))

def contains (b : Box) (p : Position) : Bool :=
  b.lo.x ≤ p.x && p.x ≤ b.hi.x && b.lo.y ≤ p.y && p.y ≤ b.hi.y

/-- The value nearest to `v` between two limits. -/
def within (lo hi v : Int64) : Int64 :=
  if v < lo then lo else if hi < v then hi else v

def nearest (b : Box) (p : Position) : Position :=
  ⟨within b.lo.x b.hi.x p.x, within b.lo.y b.hi.y p.y⟩

def clamp (b : Box) (p : Position) : Clamped :=
  ⟨b.nearest p, decide (b.nearest p ≠ p)⟩

theorem ordered_spanning (a b : Position) : (spanning a b).Ordered := by
  unfold spanning Ordered
  constructor <;> dsimp only <;> split <;> simp_all [Int64.le_iff_toInt_le] <;> omega

end Box

end DigitTrail.Plane
