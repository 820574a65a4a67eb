import DigitTrail.Plane

/-!
The cursor: a position inside a box, a facing with the displacement of the next move,
and the direction of the last move since it was last forgotten.
-/

set_option autoImplicit false
set_option relaxedAutoImplicit false

namespace DigitTrail.Walk

open Plane (Box Clamped Direction Offset Position)

structure Cursor where
  position : Position
  facing : Direction
  velocity : Offset
  box : Box
  lastMove : Option Direction
  deriving DecidableEq, Repr

namespace Cursor

def start : Cursor := ⟨.origin, .e, Direction.e.offset, .standard, none⟩

def face (c : Cursor) (d : Direction) : Cursor := { c with facing := d, velocity := d.offset }

/-- The cell of the box at a displacement, and whether the displacement left the box. -/
def look (c : Cursor) (o : Offset) : Clamped := c.box.clamp (c.position.shift o)

def advance (c : Cursor) : Cursor :=
  { c with position := (c.look c.velocity).position, lastMove := some c.facing }

/-- Live in the box spanned by two corners, moving into it if need be. -/
def enclose (c : Cursor) (a b : Position) : Cursor :=
  { c with box := .spanning a b, position := (Box.spanning a b).nearest c.position }

def forget (c : Cursor) : Cursor := { c with lastMove := none }

end Cursor

inductive CursorAction
  | face (direction : Direction)
  | advance
  | enclose (a b : Position)
  | forget
  deriving DecidableEq, Repr

inductive CursorNotice
  | faced (direction : Direction)
  | advanced (facing : Direction)
  deriving DecidableEq, Repr

def CursorNotice.text : CursorNotice → String
  | .faced d => "face " ++ d.name
  | .advanced d => "advance " ++ d.name

namespace Cursor

def apply (c : Cursor) : CursorAction → Cursor
  | .face d => c.face d
  | .advance => c.advance
  | .enclose a b => c.enclose a b
  | .forget => c.forget

def notices (c : Cursor) : CursorAction → List CursorNotice
  | .face d => [.faced d]
  | .advance => [.advanced c.facing]
  | .enclose _ _ => []
  | .forget => []

end Cursor

end DigitTrail.Walk
