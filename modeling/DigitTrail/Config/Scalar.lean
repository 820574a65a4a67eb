import DigitTrail.Config.Moment
import DigitTrail.Config.Number

/-!
Unquoted scalars in configuration documents: truth values, numbers, dates and times.
A scalar is one or more words with spaces between them, up to the next bracket, comma,
equals sign, comment or line break, and what its first digits are followed by decides
its kind.
-/

set_option autoImplicit false
set_option relaxedAutoImplicit false

namespace DigitTrail.Config

open Data (Value)

def isNamedFraction (body : List Char) : Bool := body = ['i', 'n', 'f'] || body = ['n', 'a', 'n']

def marksFraction (c : Char) : Bool := c = '.' || c = 'e' || c = 'E'

/-- A scalar that begins with digits, from the word and from the word without its sign. -/
def numeric? (word body : List Char) : Option Value :=
  let rest := body.dropWhile Char.isDigit
  match rest.head? with
  | none => wholeNumber? word body
  | some c =>
    if c = '-' ∨ c = ':' then
      if isMoment word then some (.moment (String.ofList word)) else none
    else if rest.contains ' ' then none
    else if rest.any marksFraction then fraction? word body
    else if c = '_' then wholeNumber? word body
    else none

def signed? (word body : List Char) : Option Value :=
  if isNamedFraction body then some (.fraction (String.ofList word))
  else if body.head?.any Char.isDigit then numeric? word body
  else none

def unsigned? (word : List Char) : Option Value :=
  match word with
  | '0' :: c :: cs => match base? c with
    | some base => basedInteger? base cs
    | none => numeric? word word
  | c :: _ => if c.isDigit then numeric? word word else none
  | [] => none

def scalar? (word : List Char) : Option Value :=
  if word = "true".toList then some (.bool true)
  else if word = "false".toList then some (.bool false)
  else if isNamedFraction word then some (.fraction (String.ofList word))
  else match word with
    | '+' :: body => signed? word body
    | '-' :: body => signed? word body
    | _ => unsigned? word

def isSpace (c : Char) : Bool := c = ' ' || c = '\t'

def endsScalar (c : Char) : Bool :=
  ['=', ',', '[', ']', '\x7b', '\x7d', '#', '\r', '\n'].contains c

def endsAfterSpace (c : Char) : Bool := endsScalar c || ['.', '"', '\x27'].contains c

/-- The scalar at the start of a text, and what follows it. Spaces belong to the scalar
when another word of it comes after them. -/
def splitScalar : List Char → List Char × List Char
  | [] => ([], [])
  | c :: cs =>
    let ends :=
      if isSpace c then (cs.dropWhile isSpace).head?.all endsAfterSpace else endsScalar c
    if ends then ([], c :: cs)
    else
      let (scalar, rest) := splitScalar cs
      (c :: scalar, rest)

def readScalar (cs : List Char) : Option (Value × List Char) :=
  let (scalar, rest) := splitScalar cs
  (scalar? scalar).map fun v => (v, rest)

end DigitTrail.Config
