import DigitTrail.Command.Files
import DigitTrail.Command.Settings
import DigitTrail.Command.Window
import DigitTrail.Program.Machine

/-!
Drivers. A driver steps a machine to the end of its run, hands it the characters that it asks for,
puts out what it printed after each step and shows what the settings ask for. It does so on any
system. One kind of system is a desk, which keeps all that goes over it.

The characters come from the lines of an input. A line is read when a character is asked for and
nothing is left of the line before. An empty line answers with a space, and the first line that is
not text ends the supply.
-/

set_option autoImplicit false
set_option relaxedAutoImplicit false

namespace DigitTrail.Command

open Number (Overflow)
open Program (Ending Fault Input Machine)

/-! ### Input -/

/-- Whoever answers the characters that programs ask for. -/
class Supplier (σ : Type) where
  /-- The next character, none at the end, and the supplier that is asked next. -/
  next : σ → Option Char × σ

/-- The lines of an input as bytes, each with whether a line feed ended it. What follows the last
line feed is a line only if it is not empty. -/
def byteLines : List (List UInt8) → List (List UInt8 × Bool)
  | [] => []
  | [last] => if last.isEmpty then [] else [(last, false)]
  | line :: rest => (line, true) :: byteLines rest

def withoutReturn (line : List Char) (ended : Bool) : List Char :=
  if ended ∧ line.getLast? = some '\r' then line.dropLast else line

def lineText? (line : List UInt8 × Bool) : Option (List Char) :=
  (String.fromUTF8? ⟨line.1.toArray⟩).map fun s => withoutReturn s.toList line.2

/-- What is left of the line read last, and the lines that have not been read. -/
structure Supply where
  pending : List Char
  unread : List (List UInt8 × Bool)
  deriving DecidableEq, Repr

namespace Supply

def ofBytes (bytes : ByteArray) : Supply := ⟨[], byteLines (bytes.toList.splitOn 10)⟩

/-- The next character. A line is read only if none is left of the line before. -/
def next : Supply → Option Char × Supply
  | ⟨c :: pending, unread⟩ => (some c, ⟨pending, unread⟩)
  | ⟨[], []⟩ => (none, ⟨[], []⟩)
  | ⟨[], line :: unread⟩ =>
    match lineText? line with
    | none => (none, ⟨[], []⟩)
    | some text => (some (text.headD ' '), ⟨text.tail, unread⟩)

instance : Supplier Supply := ⟨next⟩

end Supply

/-! ### Systems -/

/-- What a command needs of the system that it runs on. -/
class System (μ : Type → Type) where
  /-- The next character of the input, none at its end. -/
  next : μ (Option Char)
  /-- Put out what was printed. -/
  put : String → μ Unit
  /-- Show what is meant for the user alone. -/
  tell : String → μ Unit
  /-- Write a line to the log. -/
  note : String → μ Unit
  /-- Wait some milliseconds. -/
  pause : Nat → μ Unit

/-- A system that keeps all that is put out and told, and does not wait. -/
structure Desk (σ : Type) where
  supply : σ
  out : Array String
  err : Array String
  deriving DecidableEq

def Desk.fresh {σ : Type} (supply : σ) : Desk σ := ⟨supply, #[], #[]⟩

instance {σ : Type} [Supplier σ] : System (StateM (Desk σ)) where
  next := fun desk =>
    ((Supplier.next desk.supply).1, { desk with supply := (Supplier.next desk.supply).2 })
  put text := modify fun desk => { desk with out := desk.out.push text }
  tell text := modify fun desk => { desk with err := desk.err.push text }
  note _ := pure ()
  pause _ := pure ()

/-! ### Steps -/

variable {ε : Type}

/-- The view that is shown after a step, if there is to be one. -/
def view (radius : Option Nat) (page : Page) (cursor : Plane.Position) : Except Overflow String :=
  match radius with
  | some r => (window page cursor r).map (· ++ "\n")
  | none => .ok ""

/-- What is shown after a step: the view, and then the registers. -/
def shown (s : Settings) (page : Page) (m : Machine ε) : Except Overflow String :=
  (view s.radius page m.walker.cursor.position).map fun text =>
    text ++ if s.dump then registerLine m.memory.registers.toList ++ "\n" else ""

def machineFor (s : Settings) (r : Reference) (source : String) (entropy : ε) (input : Input) :
    Machine ε :=
  let m := Machine.load r source entropy input true
  match s.corners with
  | some (a, b) => m.enclosed a b
  | none => m

def printedText (m : Machine ε) : String := String.join m.memory.watcher.printed.toList

def drained (m : Machine ε) : Machine ε :=
  { m with memory := { m.memory with watcher := { m.memory.watcher with printed := #[] } } }

/-- Why a driver stops: the run has come to its end, or what is to be shown of it overflows. -/
inductive Finish
  | ended (ending : Except Fault Ending)
  | overflowed (cause : Overflow)

/-- What a driver makes of a step: whether and why it stops there, the machine to go on with, what
goes out and what is shown. -/
structure Round (ε : Type) where
  finish : Option Finish
  machine : Machine ε
  out : String
  shown : String

/-- After a step, what was printed goes out first; a fault is not shown. -/
def Round.ofStep (display : Machine ε → Except Overflow String)
    (result : Except Fault Program.Step) (m : Machine ε) : Round ε :=
  match result with
  | .error f => ⟨some (.ended (.error f)), drained m, printedText m, ""⟩
  | .ok step =>
    match display (drained m) with
    | .error cause => ⟨some (.overflowed cause), drained m, printedText m, ""⟩
    | .ok text => ⟨(Program.ending? (.ok step)).map .ended, drained m, printedText m, text⟩

section Drive

variable [Entropy ε] {μ : Type → Type} [Monad μ] [System μ]

/-- One step; a question is answered by the system. -/
def stepOn (m : Machine ε) : μ (Except Fault Program.Step × Machine ε) :=
  match m.begin with
  | .done result m => pure (result, m)
  | .asking q m => do
    let c ← System.next
    return m.answer q (c.map String.singleton)

/-- Drive a machine until there is a reason to stop, at most `fuel` steps. -/
def drive (s : Settings) (page : Page) : Nat → Machine ε → μ (Option Finish × Machine ε)
  | 0, m => pure (none, m)
  | fuel + 1, m => do
    let (result, m) ← stepOn m
    let round := Round.ofStep (shown s page) result m
    System.put round.out
    System.tell round.shown
    match round.finish with
    | some f => pure (some f, round.machine)
    | none => do
      System.pause (s.delay.getD 0)
      drive s page fuel round.machine

/-- Drive a source. Its machine listens, and the system replies. -/
def driveSource (fuel : Nat) (s : Settings) (r : Reference) (source : String) (entropy : ε) :
    μ (Option Finish × Machine ε) :=
  drive s (Page.ofText source) fuel (machineFor s r source entropy (.listening []))

end Drive

end DigitTrail.Command
