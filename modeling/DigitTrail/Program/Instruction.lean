import DigitTrail.Memory.Reader
import DigitTrail.Plane
import DigitTrail.Sheet.Cell

/-!
Instructions stand in columns. From the row under a cell downward come any number of modifiers, one
action, and the operands of the action. Reading a column says what is to be done and does nothing
yet. A column that is no instruction is a fault, and so are a character that nobody supplies and a
read whose memory went away.
-/

set_option autoImplicit false
set_option relaxedAutoImplicit false

namespace DigitTrail.Program

open Plane (Place)
open Sheet (Cell Operator)

inductive Expected
  | name | nameOrBlank | nameBlankOrOperator | comparison
  deriving DecidableEq, Repr

def Expected.words : Expected → String
  | .name => "name"
  | .nameOrBlank => "name/empty"
  | .nameBlankOrOperator => "name/empty/operator"
  | .comparison => "</>/= operator"

inductive Fault
  | malformed (expected : Expected) (found : Cell) (place : Place)
  | inputUnavailable
  | readAbandoned (key : String)
  deriving DecidableEq, Repr

namespace Fault

def message : Fault → String
  | .malformed expected found place =>
    "expecting " ++ expected.words ++ " token at " ++ place.text ++ ", found " ++ found.kind.word
  | .inputUnavailable => "program requested input but no input channel is connected"
  | .readAbandoned key => Memory.abandonment key

def place? : Fault → Option Place
  | .malformed _ _ place => some place
  | .inputUnavailable => none
  | .readAbandoned _ => none

end Fault

inductive Modifier
  /-- The value becomes that of the register it names. -/
  | deref
  /-- Nothing changes. -/
  | pass
  /-- What floats reads as zero from here on. -/
  | ground
  /-- The reading turns around. -/
  | toggle
  /-- The reading heads backward if the last move went east. -/
  | backIfEast
  /-- The reading heads forward if the last move went west. -/
  | forwardIfWest
  deriving DecidableEq, Repr

inductive Action
  | store | load | subtract | add | unprefer | prefer | exit
  deriving DecidableEq, Repr

inductive Comparison
  | less | greater | equal
  deriving DecidableEq, Repr

def Comparison.holds : Comparison → Int64 → Int64 → Bool
  | .less, a, b => a < b
  | .greater, a, b => b < a
  | .equal, a, b => a = b

def modifier? : Operator → Option Modifier
  | .deref => some .deref
  | .pass => some .pass
  | .ground => some .ground
  | .toggle => some .toggle
  | .less => some .backIfEast
  | .greater => some .forwardIfWest
  | _ => none

def action? : Operator → Option Action
  | .store => some .store
  | .load => some .load
  | .subtract => some .subtract
  | .add => some .add
  | .unprefer => some .unprefer
  | .prefer => some .prefer
  | .exit => some .exit
  | _ => none

def comparison? : Operator → Option Comparison
  | .less => some .less
  | .greater => some .greater
  | .equal => some .equal
  | _ => none

inductive Use
  | keep
  | compare (test : Comparison)
  | add
  | subtract
  deriving DecidableEq, Repr

/-- Where an operand comes from: the register of the cell, or a variable. -/
inductive Operand
  | own
  | named (name : String)
  deriving DecidableEq, Repr

/-- An action with its operands, or the reason why it has none. -/
inductive Instruction
  | idle
  | exit
  | prefer
  | unprefer
  | store (name : String)
  | read (use : Use) (operand : Operand)
  | malformed (expected : Expected) (found : Cell) (row : Nat)
  deriving DecidableEq, Repr

/-- The longest run of modifiers from a row downward, of at most `fuel` rows. -/
def modifiersFrom (below : Nat → Cell) : (fuel row : Nat) → List Modifier
  | 0, _ => []
  | fuel + 1, row =>
    match (below row).operator?.bind modifier? with
    | some m => m :: modifiersFrom below fuel (row + 1)
    | none => []

def readForm (below : Nat → Cell) (use : Use) (row : Nat) : Instruction :=
  match below row with
  | .blank => .read use .own
  | .name s => .read use (.named s)
  | c => .malformed .nameOrBlank c row

/-- A load: an operand, or a comparison and then an operand. -/
def loadForm (below : Nat → Cell) (row : Nat) : Instruction :=
  match below row with
  | .operator o => match comparison? o with
    | some test => readForm below (.compare test) (row + 1)
    | none => .malformed .comparison (.operator o) row
  | .path d => .malformed .nameBlankOrOperator (.path d) row
  | .unknown c => .malformed .nameBlankOrOperator (.unknown c) row
  | .blank => readForm below .keep row
  | .name _ => readForm below .keep row

def storeForm (below : Nat → Cell) (row : Nat) : Instruction :=
  match below row with
  | .name s => .store s
  | c => .malformed .name c row

def instructionAt (below : Nat → Cell) (row : Nat) : Instruction :=
  match (below row).operator?.bind action? with
  | none => .idle
  | some .exit => .exit
  | some .prefer => .prefer
  | some .unprefer => .unprefer
  | some .store => storeForm below (row + 1)
  | some .load => loadForm below (row + 1)
  | some .add => readForm below .add (row + 1)
  | some .subtract => readForm below .subtract (row + 1)

/-- A column: the modifiers and the instruction they apply to. -/
structure Column where
  modifiers : List Modifier
  instruction : Instruction
  deriving DecidableEq, Repr

/-- Read the column under a cell in a sheet of a given height. No run of modifiers
is longer than the sheet is high. -/
def readColumn (below : Nat → Cell) (height : Nat) : Column :=
  let modifiers := modifiersFrom below height 1
  ⟨modifiers, instructionAt below (modifiers.length + 1)⟩

end DigitTrail.Program
