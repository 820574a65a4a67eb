import DigitTrail.Memory.Reader
import DigitTrail.Proofs.Memory.Frame

/-!
Sessions with a memory: any operations in any order, with readers that hold the
tickets of parked reads, may let go of them at any time, and may see the memory
dropped before it resumes.
-/

set_option autoImplicit false
set_option relaxedAutoImplicit false

namespace DigitTrail.Memory

/-- What may be done to a memory. -/
inductive Operation (ε : Type)
  | setRegister (register : Digit) (value : Option Int64)
  | set (key : String) (value : Int64)
  | get (key : String) (fallback : Option Int64)
  | contains (key : String)
  | resolve (key : String)
  | halt
  | resume
  | reseed (source : ε)

/-- What may happen in a session: an operation on the memory, a reader that lets go,
or the end of the memory. -/
inductive Act (ε : Type)
  | operate (op : Operation ε)
  | release (id : Nat)
  | drop

def Act.Decides {ε : Type} (a : Act ε) : Prop := a = .operate .resume ∨ a = .drop

def Act.isRelease {ε : Type} : Act ε → Bool
  | .release _ => true
  | _ => false

structure Session (ε ω : Type) where
  memory : Memory ε ω
  readers : Readers
  gone : Bool

variable {ε ω : Type} [Watcher ω]

def Notice.tell (w : ω) : Notice → ω
  | .wrote key value => Watcher.wrote w key value
  | .asked key => (Watcher.asked w key).2

variable [Entropy ε]

def apply (m : Memory ε ω) : Operation ε → Memory ε ω
  | .setRegister d v => m.setRegister d v
  | .set key value => m.set key value
  | .get key fallback => (m.get key fallback).2
  | .contains key => (m.contains key).2
  | .resolve key => (m.resolve key).2
  | .halt => m.halt
  | .resume => m.resume
  | .reseed source => m.reseed source

/-- What there is to tell of an operation: each write and each read, by resolved key. -/
def notices (m : Memory ε ω) : Operation ε → List Notice
  | .set key value => [.wrote (m.resolve key).1 value]
  | .get key _ => [.asked (m.resolve key).1]
  | _ => []

/-- The readers after an operation: a read that is parked gets one. -/
def readersAfter (m : Memory ε ω) (rs : Readers) : Operation ε → Readers
  | .get key fallback => match (m.get key fallback).1 with
    | .parked ticket k => rs.hold ⟨ticket, k⟩
    | .ready _ => rs
  | _ => rs

namespace Session

def start (entropy : ε) (watcher : ω) : Session ε ω := ⟨.fresh entropy watcher, .empty, false⟩

/-- The session after an act. Nothing can be done to a memory that is gone. -/
def act (s : Session ε ω) : Act ε → Session ε ω
  | .operate op =>
    if s.gone then s
    else { s with memory := s.memory.apply op, readers := s.memory.readersAfter s.readers op }
  | .release id => { s with readers := s.readers.release id }
  | .drop => { s with gone := true }

def run (s : Session ε ω) (acts : List (Act ε)) : Session ε ω := acts.foldl act s

def finds (s : Session ε ω) (id : Nat) : Option Delivery :=
  (s.readers.wait s.memory s.gone id).1

/-- What there is to tell of the acts of a session, in order. -/
def notices : Session ε ω → List (Act ε) → List Notice
  | _, [] => []
  | s, .operate op :: rest =>
    (if s.gone then [] else s.memory.notices op) ++ (s.act (.operate op)).notices rest
  | s, .release id :: rest => (s.act (.release id)).notices rest
  | s, .drop :: rest => (s.act .drop).notices rest

/-- What becomes of a read of a resolved key that is parked. The next resume delivers
the value that the key has then, or else the fallback; the end of the memory before
that abandons the read; until then it waits. -/
def fate (key : String) (fallback : Option Int64) : Session ε ω → List (Act ε) → Delivery
  | _, [] => .waiting
  | s, .operate .resume :: _ => .delivered ((s.memory.stored? key).or fallback)
  | _, .drop :: _ => .abandoned key
  | s, a :: rest => fate key fallback (s.act a) rest

end Session

end DigitTrail.Memory
