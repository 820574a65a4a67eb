import DigitTrail.Digit
import DigitTrail.Memory.Basic

/-!
The console of a program. It has two terminal names. Writing to one prints: `SYS_T` the integer in
decimal, `SYS_AT` the character with that code. Reading one takes a character: `SYS_T` its digit
value, `SYS_AT` its code. The console watches a memory, prints what is written to a terminal and
halts the memory when a terminal is read, so that a character can be asked for.
-/

set_option autoImplicit false
set_option relaxedAutoImplicit false

namespace DigitTrail.Console

inductive Terminal
  | decimal | ascii
  deriving DecidableEq, Repr

namespace Terminal

def key : Terminal → String
  | .decimal => "SYS_T"
  | .ascii => "SYS_AT"

def ofKey? (key : String) : Option Terminal :=
  if key = Terminal.decimal.key then some .decimal
  else if key = Terminal.ascii.key then some .ascii
  else none

/-- The word of thirty-two bits that an integer is, if it is one. -/
def word? (v : Int64) : Option UInt32 :=
  if 0 ≤ v.toInt ∧ v.toInt < UInt32.size then some (UInt32.ofNat v.toInt.toNat) else none

/-- The character with a code. Surrogates and codes past the last character have none. -/
def charOf? (code : UInt32) : Option Char :=
  if valid : code.isValidChar then some ⟨code, valid⟩ else none

def isGraphic (c : Char) : Bool := '!' ≤ c && c ≤ '~'

/-- The character that a value is printed as: a visible one of ASCII, a space or a line feed. -/
def plain? (v : Int64) : Option Char :=
  ((word? v).bind charOf?).filter fun c => isGraphic c || c = ' ' || c = '\n'

def hex (n : Nat) : String := String.ofList (Nat.toDigits 16 n)

def escape (v : Int64) : String :=
  "\\x" ++ (if v < 0 then "-" else "") ++ hex v.toInt.natAbs

def render : Terminal → Int64 → String
  | .decimal, v => Number.decimal v
  | .ascii, v =>
    match plain? v with
    | some c => String.singleton c
    | none => escape v

/-- The value of a reply. Its first character counts, and an empty reply is a space. -/
def decode (t : Terminal) (reply : String) : Int64 :=
  match t with
  | .decimal => match Digit.ofChar? (reply.toList.headD ' ') with
    | some d => Digit.toInt d
    | none => -1
  | .ascii => Int64.ofNat (reply.toList.headD ' ').toNat

theorem ofKey?_key (t : Terminal) : ofKey? t.key = some t := by cases t <;> decide

end Terminal

end DigitTrail.Console

namespace DigitTrail

open Console (Terminal)

/-- Fragments printed so far. Nothing is printed while the console is muted, or
if it is not connected at all. -/
structure Console where
  connected : Bool
  muted : Bool
  printed : Array String
  deriving DecidableEq, Repr

namespace Console

def fresh (connected : Bool) : Console := ⟨connected, false, #[]⟩

def setMuted (c : Console) (muted : Bool) : Console := { c with muted := muted }

def emit (c : Console) (fragment : String) : Console :=
  if c.connected then { c with printed := c.printed.push fragment } else c

/-- Print a value that is written to a terminal, unless muted. -/
def wrote (c : Console) (key : String) (value : Int64) : Console :=
  if c.muted then c
  else match Terminal.ofKey? key with
    | some t => c.emit (t.render value)
    | none => c

def asked (c : Console) (key : String) : Bool × Console := ((Terminal.ofKey? key).isSome, c)

instance : Memory.Watcher Console := ⟨wrote, asked⟩

end Console

end DigitTrail
