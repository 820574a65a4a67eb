import DigitTrail.Console
import DigitTrail.Program.Instruction
import DigitTrail.Walk.Walker

/-!
The machine: a sheet, a walker on it and a memory. A step is one tick of the walker and then the
instruction in the column under the new cell. A run takes steps until the program exits, crashes or
faults; it need not end, so it is given a number of steps that it may take.

An instruction that reads a terminal stops half way with a question, since the character has to come
from outside. The answer finishes the step; a question may also stay without an answer, and then the
memory stays halted. A reply may be a refusal, and once the replies are used up the input is closed
for good.
-/

set_option autoImplicit false
set_option relaxedAutoImplicit false

namespace DigitTrail.Program

inductive Input
  | closed
  | listening (replies : List (Option String))
  deriving DecidableEq, Repr

namespace Input

def isOpen : Input → Bool
  | .closed => false
  | .listening _ => true

def next : Input → Option String × Input
  | .closed => (none, .closed)
  | .listening [] => (none, .closed)
  | .listening (reply :: rest) => (reply, .listening rest)

end Input

open Console (Terminal)
open Walk (DeadEnd Tick Walker)

structure Machine (ε : Type) where
  sheet : Sheet
  walker : Walker
  memory : Memory ε Console
  input : Input
  asked : Nat
  ticks : Nat

inductive Step
  | running
  | exited
  | crashed (stop : DeadEnd)
  deriving DecidableEq, Repr

/-- The register, the value and the use that an operand is read for. -/
structure Intent where
  register : Digit
  value : Int64
  use : Use
  deriving DecidableEq, Repr

/-- A character asked for: by which terminal, for which parked read, and to what end. -/
structure Question where
  terminal : Terminal
  ticket : Nat
  intent : Intent
  deriving DecidableEq, Repr

/-- A step is done, or it waits for the answer to a question. -/
inductive Phase (ε : Type)
  | done (result : Except Fault Step) (machine : Machine ε)
  | asking (question : Question) (machine : Machine ε)

/-- What the modifiers of an instruction make of the digit of its cell. -/
structure Prepared where
  value : Int64
  grounded : Bool
  deriving DecidableEq, Repr

def Prepared.fallback (p : Prepared) : Option Int64 := if p.grounded then some 0 else none

namespace Machine

variable {ε : Type}

def load (reference : Reference) (source : String) (entropy : ε) (input : Input)
    (connected : Bool) : Machine ε where
  sheet := .ofText source
  walker := .start reference
  memory := .fresh entropy (.fresh connected)
  input := input
  asked := 0
  ticks := 0

def enclosed (m : Machine ε) (a b : Plane.Position) : Machine ε :=
  { m with walker := { m.walker with cursor := m.walker.cursor.enclose a b } }

def guided (m : Machine ε) (g : Option Walk.Guide) : Machine ε :=
  { m with walker := m.walker.guided g }

def below (m : Machine ε) (rows : Nat) : Sheet.Cell := m.walker.below m.sheet rows

def column (m : Machine ε) : Column := readColumn m.below m.sheet.height

def turn (m : Machine ε) (r : Walk.Reversal) : Machine ε := { m with walker := m.walker.turn r }

def setRegister (m : Machine ε) (d : Digit) (v : Option Int64) : Machine ε :=
  { m with memory := m.memory.setRegister d v }

def resume (m : Machine ε) : Machine ε := { m with memory := m.memory.resume }

def fail (m : Machine ε) (f : Fault) : Except Fault Step × Machine ε := (.error f, m)

def faultPlace (m : Machine ε) (row : Nat) : Plane.Place :=
  (m.walker.cursor.look ⟨0, Int64.ofNat row⟩).position.place

variable [Entropy ε]

/-- Move the walker. Only moves are counted. -/
def tick (m : Machine ε) : Tick × Machine ε :=
  let (t, walker, memory) := m.walker.tick m.sheet m.memory
  match t with
  | .moved dir d =>
    (.moved dir d, { m with walker := walker, memory := memory, ticks := m.ticks + 1 })
  | .deadEnd stop => (.deadEnd stop, { m with walker := walker, memory := memory })

def modify (m : Machine ε) (p : Prepared) : Modifier → Prepared × Machine ε
  | .deref =>
    let (v, memory) := m.memory.register p.value p.fallback
    ({ p with value := v }, { m with memory := memory })
  | .pass => (p, m)
  | .ground => ({ p with grounded := true }, m)
  | .toggle => (p, m.turn .toggle)
  | .backIfEast =>
    (p, if 0 < m.walker.cursor.velocity.dx then m.turn (.toward .backward) else m)
  | .forwardIfWest =>
    (p, if m.walker.cursor.velocity.dx < 0 then m.turn (.toward .forward) else m)

/-- Let the modifiers of an instruction act, one after the other. -/
def prepare (m : Machine ε) (d : Digit) (modifiers : List Modifier) : Prepared × Machine ε :=
  modifiers.foldl (fun s x => s.2.modify s.1 x) (⟨Digit.toInt d, false⟩, m)

def grasp (m : Machine ε) : Option Int64 → Int64 × Machine ε
  | some v => (v, m)
  | none =>
    let (v, memory) := m.memory.drawDigit
    (v, { m with memory := memory })

def conclude (m : Machine ε) (i : Intent) (operand : Option Int64) : Machine ε :=
  match i.use, operand with
  | .keep, v => m.setRegister i.register v
  | .compare test, some v =>
    m.setRegister i.register (some (if test.holds i.value v then 1 else 0))
  | .compare _, none =>
    let (v, memory) := m.memory.drawBit
    { m with memory := memory }.setRegister i.register (some v)
  | .add, v =>
    let (v, m) := m.grasp v
    m.setRegister i.register (some (Number.satAdd i.value v))
  | .subtract, v =>
    let (v, m) := m.grasp v
    m.setRegister i.register (some (Number.satSub i.value v))

def collect (m : Machine ε) (i : Intent) (ticket : Nat) (key : String) :
    Except Fault Step × Machine ε :=
  match m.resume.memory.settlement? ticket with
  | some v => (.ok .running, m.resume.conclude i v)
  | none => m.resume.fail (.readAbandoned key)

/-- Write a decoded reply to its terminal without printing it. -/
def accept (m : Machine ε) (t : Terminal) (reply : String) : Machine ε :=
  let memory := { m.memory with watcher := m.memory.watcher.setMuted true }
  let memory := memory.set t.key (t.decode reply)
  { m with memory := { memory with watcher := memory.watcher.setMuted false } }

/-- Finish a step with the answer to its question, or with a refusal. -/
def answer (m : Machine ε) (q : Question) : Option String → Except Fault Step × Machine ε
  | none => m.resume.fail .inputUnavailable
  | some reply => (m.accept q.terminal reply).collect q.intent q.ticket q.terminal.key

/-- Go on with a read that was parked: at once, or after a question to a terminal. -/
def await (m : Machine ε) (i : Intent) (ticket : Nat) (key : String) : Phase ε :=
  match Terminal.ofKey? key with
  | none => .done (m.collect i ticket key).1 (m.collect i ticket key).2
  | some t =>
    if m.input.isOpen then .asking ⟨t, ticket, i⟩ { m with asked := m.asked + 1 }
    else .done (.error .inputUnavailable) m.resume

def readVariable (m : Machine ε) (i : Intent) (name : String) (fallback : Option Int64) :
    Phase ε :=
  match m.memory.get name fallback with
  | (.ready v, memory) => .done (.ok .running) ({ m with memory := memory }.conclude i v)
  | (.parked ticket key, memory) => { m with memory := memory }.await i ticket key

/-- Change whether a digit is preferred, if the value is a digit. -/
def prefer (m : Machine ε) (value : Int64) (preferred : Bool) : Machine ε :=
  match Digit.ofInt? value with
  | none => m
  | some d =>
    let set := m.walker.preferred
    { m with walker := { m.walker with
        preferred := if preferred then set.insert d else set.erase d } }

def perform (m : Machine ε) (d : Digit) (p : Prepared) : Instruction → Phase ε
  | .idle => .done (.ok .running) m
  | .exit => .done (.ok .exited) m
  | .prefer => .done (.ok .running) (m.prefer p.value true)
  | .unprefer => .done (.ok .running) (m.prefer p.value false)
  | .store name => .done (.ok .running) { m with memory := m.memory.set name p.value }
  | .read use .own =>
    .done (.ok .running)
      (m.conclude ⟨d, p.value, use⟩ ((m.memory.registers.get d).or p.fallback))
  | .read use (.named name) => m.readVariable ⟨d, p.value, use⟩ name p.fallback
  | .malformed expected found row =>
    .done (.error (.malformed expected found (m.faultPlace row))) m

def execute (m : Machine ε) (d : Digit) : Phase ε :=
  let (p, prepared) := m.prepare d m.column.modifiers
  prepared.perform d p m.column.instruction

/-- Begin a step, up to its end or to its question. -/
def begin (m : Machine ε) : Phase ε :=
  match m.tick with
  | (.deadEnd stop, m) => .done (.ok (.crashed stop)) m
  | (.moved _ d, m) => m.execute d

/-- A whole step; a question is answered from the input. -/
def step (m : Machine ε) : Except Fault Step × Machine ε :=
  match m.begin with
  | .done result m => (result, m)
  | .asking q m => { m with input := m.input.next.2 }.answer q m.input.next.1

end Machine

inductive Ending
  | exited
  | crashed (stop : DeadEnd)
  deriving DecidableEq, Repr

def Ending.message : Ending → String
  | .exited => "Exited"
  | .crashed stop => stop.message

/-- The end of a run that a step brings, if it brings one. -/
def ending? : Except Fault Step → Option (Except Fault Ending)
  | .ok .running => none
  | .ok .exited => some (.ok .exited)
  | .ok (.crashed stop) => some (.ok (.crashed stop))
  | .error f => some (.error f)

namespace Machine

variable {ε : Type} [Entropy ε]

/-- Step until the run ends, at most `fuel` times; none if it has not ended by then. -/
def run : Nat → Machine ε → Option (Except Fault Ending) × Machine ε
  | 0, m => (none, m)
  | fuel + 1, m =>
    let (result, m) := m.step
    match ending? result with
    | some e => (some e, m)
    | none => run fuel m

end Machine

end DigitTrail.Program
