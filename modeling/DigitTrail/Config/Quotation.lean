/-!
Quoted text in configuration documents. There are four kinds: between double or
single quotes, and on one line or between triple quotes on any number of lines.
Only double quotes know escapes. The text is read by an automaton, one character
at a time.
-/

set_option autoImplicit false
set_option relaxedAutoImplicit false

namespace DigitTrail.Config

structure Quotation where
  mark : Char
  manyLines : Bool
  deriving DecidableEq, Repr

def Quotation.escapes (q : Quotation) : Bool := q.mark = '"'

def isControl (c : Char) : Bool := (c.toNat < 0x20 && c ≠ '\t') || c.toNat = 0x7F

inductive QuoteState
  | plain
  /-- After some closing marks that may belong to the text. -/
  | marks (count : Nat)
  /-- After a backslash. -/
  | escape
  /-- In an escape that names a code point, with digits left to read. -/
  | code (left value : Nat)
  /-- After a backslash that joins lines; a line break must come, and has or has not. -/
  | join (broken : Bool)
  /-- After a carriage return, which only a line feed may follow. -/
  | carriage (joining : Bool)
  deriving DecidableEq, Repr

/-- What a character does: it adds text and the automaton goes on, or the quotation
ends with some more text, before or after the character. -/
inductive QuoteMove
  | go (added : List Char) (state : QuoteState)
  | close (added : List Char) (taken : Bool)
  | refuse
  deriving DecidableEq, Repr

def shortEscape? : Char → Option Char
  | 'b' => some '\x08'
  | 't' => some '\t'
  | 'n' => some '\n'
  | 'f' => some '\x0c'
  | 'r' => some '\r'
  | 'e' => some '\x1b'
  | '"' => some '"'
  | '\\' => some '\\'
  | _ => none

def codeLength? : Char → Option Nat
  | 'x' => some 2
  | 'u' => some 4
  | 'U' => some 8
  | _ => none

def hexDigit? (c : Char) : Option Nat :=
  if '0' ≤ c ∧ c ≤ '9' then some (c.toNat - 48)
  else if 'a' ≤ c ∧ c ≤ 'f' then some (c.toNat - 87)
  else if 'A' ≤ c ∧ c ≤ 'F' then some (c.toNat - 55)
  else none

def charOf? (n : Nat) : Option Char := if n.isValidChar then some (Char.ofNat n) else none

namespace Quotation

/-- A character in plain text, after `before`. -/
def plain (q : Quotation) (before : List Char) (c : Char) : QuoteMove :=
  if c = q.mark then if q.manyLines then .go before (.marks 1) else .close before true
  else if c = '\\' ∧ q.escapes then .go before .escape
  else if c = '\n' then if q.manyLines then .go (before ++ [c]) .plain else .refuse
  else if c = '\r' then if q.manyLines then .go before (.carriage false) else .refuse
  else if isControl c then .refuse
  else .go (before ++ [c]) .plain

def escaped (q : Quotation) (c : Char) : QuoteMove :=
  match shortEscape? c, codeLength? c with
  | some x, _ => .go [x] .plain
  | none, some n => .go [] (.code n 0)
  | none, none =>
    if ¬ q.manyLines then .refuse
    else if c = ' ' ∨ c = '\t' then .go [] (.join false)
    else if c = '\n' then .go [] (.join true)
    else if c = '\r' then .go [] (.carriage true)
    else .refuse

def coded (left value : Nat) (c : Char) : QuoteMove :=
  match hexDigit? c with
  | none => .refuse
  | some d =>
    if 1 < left then .go [] (.code (left - 1) (value * 16 + d))
    else match charOf? (value * 16 + d) with
      | some x => .go [x] .plain
      | none => .refuse

def joined (q : Quotation) (broken : Bool) (c : Char) : QuoteMove :=
  if c = ' ' ∨ c = '\t' then .go [] (.join broken)
  else if c = '\n' then .go [] (.join true)
  else if c = '\r' then .go [] (.carriage true)
  else if broken then q.plain [] c
  else .refuse

/-- A character after some marks. Three close the text; two more may belong to it. -/
def marked (q : Quotation) (count : Nat) (c : Char) : QuoteMove :=
  if c = q.mark then
    if count = 4 then .close [q.mark, q.mark] true else .go [] (.marks (count + 1))
  else if 3 ≤ count then .close (List.replicate (count - 3) q.mark) false
  else q.plain (List.replicate count q.mark) c

def move (q : Quotation) : QuoteState → Char → QuoteMove
  | .plain, c => q.plain [] c
  | .marks n, c => q.marked n c
  | .escape, c => q.escaped c
  | .code left value, c => coded left value c
  | .join broken, c => q.joined broken c
  | .carriage joining, c =>
    if c = '\n' then if joining then .go [] (.join true) else .go ['\r', '\n'] .plain
    else .refuse

def readFrom (q : Quotation) (state : QuoteState) :
    List Char → Option (List Char × List Char)
  | [] => match state with
    | .marks n => if 3 ≤ n then some (List.replicate (n - 3) q.mark, []) else none
    | _ => none
  | c :: rest => match q.move state c with
    | .go added state => (q.readFrom state rest).map fun r => (added ++ r.1, r.2)
    | .close added taken => some (added, if taken then rest else c :: rest)
    | .refuse => none

/-- Read after the opening marks; a line break right after triple marks is dropped. -/
def read (q : Quotation) (cs : List Char) : Option (List Char × List Char) :=
  match q.manyLines, cs with
  | true, '\n' :: rest => q.readFrom .plain rest
  | true, '\r' :: '\n' :: rest => q.readFrom .plain rest
  | _, cs => q.readFrom .plain cs

end Quotation

def readQuoted : List Char → Option (List Char × List Char)
  | '"' :: '"' :: '"' :: rest => Quotation.read ⟨'"', true⟩ rest
  | '"' :: rest => Quotation.read ⟨'"', false⟩ rest
  | '\x27' :: '\x27' :: '\x27' :: rest => Quotation.read ⟨'\x27', true⟩ rest
  | '\x27' :: rest => Quotation.read ⟨'\x27', false⟩ rest
  | _ => none

end DigitTrail.Config
