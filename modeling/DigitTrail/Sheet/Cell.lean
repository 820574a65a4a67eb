import DigitTrail.Digit

/-!
Cells: what one character of a source stands for. A name covers as many cells as it has characters,
and each of them holds the whole name. There are fourteen operator characters.
-/

set_option autoImplicit false
set_option relaxedAutoImplicit false

namespace DigitTrail.Sheet

inductive Operator
  | prefer | unprefer | exit | load | store | add | subtract
  | deref | pass | less | greater | toggle | ground | equal
  deriving DecidableEq, Repr

namespace Operator

def all : List Operator :=
  [.prefer, .unprefer, .exit, .load, .store, .add, .subtract,
    .deref, .pass, .less, .greater, .toggle, .ground, .equal]

def symbol : Operator → Char
  | .prefer => 'P'
  | .unprefer => 'p'
  | .exit => 'E'
  | .load => '^'
  | .store => 'v'
  | .add => '+'
  | .subtract => '-'
  | .deref => '@'
  | .pass => '|'
  | .less => '<'
  | .greater => '>'
  | .toggle => ':'
  | .ground => '.'
  | .equal => '='

def ofChar? (c : Char) : Option Operator := all.find? fun o => o.symbol = c

theorem ofChar?_symbol (o : Operator) : ofChar? o.symbol = some o := by cases o <;> decide

theorem symbol_of_ofChar? {c : Char} {o : Operator} (h : ofChar? c = some o) : o.symbol = c := by
  simpa using List.find?_some h

end Operator

inductive Cell
  | blank
  | path (digit : Digit)
  | name (text : String)
  | operator (op : Operator)
  | unknown (char : Char)
  deriving DecidableEq, Repr, Inhabited

inductive CellKind
  | blank | path | name | operator | unknown
  deriving DecidableEq, Repr

def CellKind.word : CellKind → String
  | .blank => "empty"
  | .path => "path"
  | .name => "name"
  | .operator => "operator"
  | .unknown => "unknown"

namespace Cell

def kind : Cell → CellKind
  | .blank => .blank
  | .path _ => .path
  | .name _ => .name
  | .operator _ => .operator
  | .unknown _ => .unknown

def digit? : Cell → Option Digit
  | .path d => some d
  | _ => none

def operator? : Cell → Option Operator
  | .operator o => some o
  | _ => none

def name? : Cell → Option String
  | .name s => some s
  | _ => none

/-- The source text of a cell; a name gives the whole run that it covers. -/
def text : Cell → String
  | .blank => " "
  | .path d => Digit.text d
  | .name s => s
  | .operator o => String.singleton o.symbol
  | .unknown c => String.singleton c

def label (c : Cell) : String := c.kind.word ++ "." ++ c.text

end Cell

end DigitTrail.Sheet
