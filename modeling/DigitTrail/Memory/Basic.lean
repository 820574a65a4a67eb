import DigitTrail.Number
import DigitTrail.Digit
import Std.Data.TreeMap
import DigitTrail.Entropy

/-!
Memory: ten registers and any number of named integers. A register holds an integer or floats.

A key may be indirect: `name@r` stands for the cell of `name` at the index that register `r` holds,
and that cell's own key is `name[index]`. A watcher is told of each variable that is written and of
each that is read, and may answer that the memory is to halt.

A read of a variable is parked while the memory is halted. Parked reads carry a ticket; resuming
settles all of them, oldest first, with the value that the key has by then or else with the fallback
of the read. What has been settled is kept, so that whoever holds a ticket can look up its value.
-/

set_option autoImplicit false
set_option relaxedAutoImplicit false

namespace DigitTrail.Memory

/-- A key split at its first at sign: the name before it and the text after it. -/
structure Indirection where
  name : String
  register : String
  deriving DecidableEq, Repr

/-- The indirection that a key asks for, if it has an at sign. -/
def indirection? (key : String) : Option Indirection :=
  match key.toList.dropWhile (· ≠ '@') with
  | [] => none
  | _ :: register =>
    some ⟨String.ofList (key.toList.takeWhile (· ≠ '@')), String.ofList register⟩

/-- The register that the text after the at sign names, if it is a numeral. -/
def Indirection.key? (i : Indirection) : Option Int64 :=
  (Number.readSigned i.register.toList).toOption

/-- The key of the cell of `name` at an index. -/
def indexed (name : String) (index : Int64) : String :=
  name ++ "[" ++ Number.decimal index ++ "]"

structure Registers where
  values : Vector (Option Int64) 10
  deriving DecidableEq, Repr

namespace Registers

def floating : Registers := ⟨Vector.replicate 10 none⟩

def get (r : Registers) (d : Digit) : Option Int64 := r.values[d]

def set (r : Registers) (d : Digit) (v : Option Int64) : Registers := ⟨r.values.set d v⟩

/-- The register named by an integer; integers that are no digit name a floating one. -/
def value? (r : Registers) (key : Int64) : Option Int64 := (Digit.ofInt? key).bind r.get

def toList (r : Registers) : List (Option Int64) := r.values.toList

@[simp] theorem get_floating (d : Digit) : floating.get d = none := by
  simp [floating, get]

@[simp] theorem get_set_self (r : Registers) (d : Digit) (v : Option Int64) :
    (r.set d v).get d = v := by
  simp [get, set]

theorem get_set_of_ne (r : Registers) {d e : Digit} (v : Option Int64) (h : d ≠ e) :
    (r.set d v).get e = r.get e := by
  have hv : d.val ≠ e.val := fun he => h (Fin.ext he)
  simp [get, set, Vector.getElem_set_ne, hv]

end Registers

/-- What a memory tells of its writes and reads, always with the resolved key. -/
class Watcher (ω : Type) where
  /-- A variable is about to be written. -/
  wrote : ω → String → Int64 → ω
  /-- A variable is about to be read; the answer says whether the memory halts. -/
  asked : ω → String → Bool × ω

instance : Watcher Unit := ⟨fun _ _ _ => (), fun _ _ => (false, ())⟩

inductive Notice
  | wrote (key : String) (value : Int64)
  | asked (key : String)
  deriving DecidableEq, Repr

def Notice.text : Notice → String
  | .wrote key value => "set " ++ key ++ " " ++ Number.decimal value
  | .asked key => "get " ++ key

/-- A watcher that keeps what it is told and halts reads of the listed keys. -/
structure Recorder where
  haltOn : List String
  notices : Array Notice
  deriving DecidableEq, Repr

namespace Recorder

def wrote (r : Recorder) (key : String) (value : Int64) : Recorder :=
  { r with notices := r.notices.push (.wrote key value) }

def asked (r : Recorder) (key : String) : Bool × Recorder :=
  (r.haltOn.contains key, { r with notices := r.notices.push (.asked key) })

instance : Watcher Recorder := ⟨wrote, asked⟩

end Recorder

end DigitTrail.Memory

namespace DigitTrail

namespace Memory

structure ParkedRead where
  ticket : Nat
  key : String
  fallback : Option Int64
  deriving DecidableEq, Repr

structure Settlement where
  ticket : Nat
  value : Option Int64
  deriving DecidableEq, Repr

/-- The answer to a read: a value, or the ticket of a parked read of a resolved key. -/
inductive Read
  | ready (value : Option Int64)
  | parked (ticket : Nat) (key : String)
  deriving DecidableEq, Repr

end Memory

open Memory (Registers ParkedRead Settlement Read Watcher)

/-- Registers, variables and reads under way, with a source of chance and a watcher. -/
structure Memory (ε ω : Type) where
  bindings : Std.TreeMap String Int64
  registers : Registers
  halted : Bool
  parked : List ParkedRead
  settled : List Settlement
  issued : Nat
  entropy : ε
  watcher : ω

namespace Memory

variable {ε ω : Type}

/-- Nothing is written, every register floats and no read is under way. -/
def fresh (entropy : ε) (watcher : ω) : Memory ε ω where
  bindings := ∅
  registers := .floating
  halted := false
  parked := []
  settled := []
  issued := 0
  entropy := entropy
  watcher := watcher

def setRegister (m : Memory ε ω) (d : Digit) (v : Option Int64) : Memory ε ω :=
  { m with registers := m.registers.set d v }

def stored? (m : Memory ε ω) (key : String) : Option Int64 := m.bindings[key]?

section Chance

variable [Entropy ε]

def drawDigit (m : Memory ε ω) : Int64 × Memory ε ω :=
  ((Entropy.digit m.entropy).1, { m with entropy := (Entropy.digit m.entropy).2 })

def drawBit (m : Memory ε ω) : Int64 × Memory ε ω :=
  ((Entropy.bit m.entropy).1, { m with entropy := (Entropy.bit m.entropy).2 })

/-- Read a register, else take the fallback, else draw a digit. -/
def register (m : Memory ε ω) (key : Int64) (fallback : Option Int64) : Int64 × Memory ε ω :=
  match (m.registers.value? key).or fallback with
  | some v => (v, m)
  | none => m.drawDigit

def index (m : Memory ε ω) (i : Indirection) : Int64 × Memory ε ω :=
  match i.key? with
  | some key => m.register key none
  | none => m.drawDigit

/-- Resolve an indirect key; a direct key stays as it is. -/
def resolve (m : Memory ε ω) (key : String) : String × Memory ε ω :=
  match indirection? key with
  | none => (key, m)
  | some i => (indexed i.name (m.index i).1, (m.index i).2)

def contains (m : Memory ε ω) (key : String) : Bool × Memory ε ω :=
  (((m.resolve key).2.stored? (m.resolve key).1).isSome, (m.resolve key).2)

section Watched

variable [Watcher ω]

/-- Write under a resolved key, after telling the watcher. -/
def write (m : Memory ε ω) (key : String) (value : Int64) : Memory ε ω :=
  { m with
    watcher := Watcher.wrote m.watcher key value
    bindings := m.bindings.insert key value }

def set (m : Memory ε ω) (key : String) (value : Int64) : Memory ε ω :=
  (m.resolve key).2.write (m.resolve key).1 value

def announce (m : Memory ε ω) (key : String) : Memory ε ω :=
  { m with
    watcher := (Watcher.asked m.watcher key).2
    halted := m.halted || (Watcher.asked m.watcher key).1 }

/-- Read a resolved key: at once, or parked while the memory is halted. -/
def fetch (m : Memory ε ω) (key : String) (fallback : Option Int64) : Read × Memory ε ω :=
  if m.halted then
    (.parked m.issued key,
      { m with parked := m.parked ++ [⟨m.issued, key, fallback⟩], issued := m.issued + 1 })
  else (.ready ((m.stored? key).or fallback), m)

/-- Read a variable, which is its value or else the fallback. -/
def get (m : Memory ε ω) (key : String) (fallback : Option Int64) : Read × Memory ε ω :=
  ((m.resolve key).2.announce (m.resolve key).1).fetch (m.resolve key).1 fallback

end Watched

end Chance

/-- Park every read from now on. -/
def halt (m : Memory ε ω) : Memory ε ω := { m with halted := true }

def settle (m : Memory ε ω) (r : ParkedRead) : Settlement :=
  ⟨r.ticket, (m.stored? r.key).or r.fallback⟩

/-- Settle every parked read, oldest first, and read at once from now on. The
settlements are kept with the latest in front. -/
def resume (m : Memory ε ω) : Memory ε ω :=
  if m.halted then
    { m with
      halted := false
      parked := []
      settled := (m.parked.map m.settle).reverse ++ m.settled }
  else m

def settlement? (m : Memory ε ω) (ticket : Nat) : Option (Option Int64) :=
  (m.settled.find? fun s => s.ticket = ticket).map Settlement.value

end Memory

end DigitTrail
