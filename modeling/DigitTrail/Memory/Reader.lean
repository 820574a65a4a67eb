import DigitTrail.Memory.Basic
import DigitTrail.Text

/-!
Readers: the other side of parked reads. A reader holds the ticket of a read that was parked, takes
its value once, and may let go of it at any time. A memory is described on one line, its variables
in the order of their keys.
-/

set_option autoImplicit false
set_option relaxedAutoImplicit false

namespace DigitTrail.Memory

structure Reader where
  ticket : Nat
  key : String
  deriving DecidableEq, Repr

inductive Delivery
  | waiting
  | delivered (value : Option Int64)
  | abandoned (key : String)
  deriving DecidableEq, Repr

def abandonment (key : String) : String :=
  "pending read of `" ++ key ++ "` was dropped before the store resumed"

variable {ε ω : Type}

/-- What a reader finds in a memory that is still there, or that is `gone`. -/
def delivery (m : Memory ε ω) (gone : Bool) (r : Reader) : Delivery :=
  match m.settlement? r.ticket with
  | some v => .delivered v
  | none => if gone then .abandoned r.key else .waiting

/-- The readers of a session, numbered from zero; those that are done are cleared. -/
structure Readers where
  held : Array (Option Reader)
  deriving DecidableEq, Repr

namespace Readers

def empty : Readers := ⟨#[]⟩

def next (rs : Readers) : Nat := rs.held.size

def hold (rs : Readers) (r : Reader) : Readers := ⟨rs.held.push (some r)⟩

def find? (rs : Readers) (id : Nat) : Option Reader := (rs.held[id]?).join

/-- Let go of a reader. The memory keeps its parked read all the same. -/
def release (rs : Readers) (id : Nat) : Readers := ⟨rs.held.setIfInBounds id none⟩

/-- Look for the value of a reader; a reader that finds an end of its waiting is released. -/
def wait (rs : Readers) (m : Memory ε ω) (gone : Bool) (id : Nat) :
    Option Delivery × Readers :=
  match rs.find? id with
  | none => (none, rs)
  | some r =>
    match delivery m gone r with
    | .waiting => (some .waiting, rs)
    | d => (some d, rs.release id)

end Readers

/-- A register value, or the word for a floating register. -/
def describeValue : Option Int64 → String
  | some v => "Some(" ++ Number.decimal v ++ ")"
  | none => "None"

variable {ε ω : Type}

def describeVariables (m : Memory ε ω) : String :=
  ", ".intercalate
    (m.bindings.toList.map fun v => Text.quoted v.1 ++ ": " ++ Number.decimal v.2)

def describe (m : Memory ε ω) : String :=
  "VariableStore \x7b vars: \x7b" ++ m.describeVariables ++ "\x7d, registers: [" ++
    ", ".intercalate (m.registers.toList.map describeValue) ++ "], halted: " ++
    toString m.halted ++ ", waiters: " ++ toString m.parked.length ++ ", .. \x7d"

end DigitTrail.Memory
