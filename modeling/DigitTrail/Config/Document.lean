import DigitTrail.Config.Scalar
import DigitTrail.Config.Table

/-!
Configuration documents: lines that give a key a value, and headers that open the
table or the list of tables in which the keys after them stand. Arrays and inline
tables may span lines and end with a comma. A byte order mark in front is ignored.
-/

set_option autoImplicit false
set_option relaxedAutoImplicit false

namespace DigitTrail.Config

open Data (Value)

def skipSpaces (cs : List Char) : List Char := cs.dropWhile isSpace

/-- Skip spaces, line breaks and comments; `comment` says whether one is open. -/
def skipTrivia : (comment : Bool) → List Char → Option (List Char)
  | _, [] => some []
  | _, '\n' :: rest => skipTrivia false rest
  | _, '\r' :: '\n' :: rest => skipTrivia false rest
  | true, c :: rest => if isControl c then none else skipTrivia true rest
  | false, c :: rest =>
    if isSpace c then skipTrivia false rest
    else if c = '#' then skipTrivia true rest
    else some (c :: rest)

def lineBreak : List Char → Option (List Char)
  | [] => some []
  | '\n' :: rest => some rest
  | '\r' :: '\n' :: rest => some rest
  | _ => none

def skipComment : List Char → Option (List Char)
  | [] => some []
  | '\n' :: rest => some rest
  | '\r' :: '\n' :: rest => some rest
  | c :: rest => if isControl c then none else skipComment rest

/-- The end of a line: spaces, a comment if there is one, and a line break. -/
def endLine (cs : List Char) : Option (List Char) :=
  match skipSpaces cs with
  | '#' :: rest => skipComment rest
  | rest => lineBreak rest

def isKeyChar (c : Char) : Bool := c.isAlphanum || c = '_' || c = '-'

/-- One key: bare, or quoted on one line. -/
def readKey : List Char → Option (String × List Char)
  | '"' :: rest =>
    (Quotation.read ⟨'"', false⟩ rest).map fun r => (String.ofList r.1, r.2)
  | '\x27' :: rest =>
    (Quotation.read ⟨'\x27', false⟩ rest).map fun r => (String.ofList r.1, r.2)
  | cs =>
    let key := cs.takeWhile isKeyChar
    if key.isEmpty then none else some (String.ofList key, cs.drop key.length)

/-- A key with its dots: the keys on the way and the last one. -/
structure KeyPath where
  way : List String
  last : String
  deriving DecidableEq, Repr

def KeyPath.keys (p : KeyPath) : List String := p.way ++ [p.last]

/-- Keys divided by dots. Spaces around them do not matter. -/
def readKeyPath : (fuel : Nat) → List Char → Option (KeyPath × List Char)
  | 0, _ => none
  | fuel + 1, cs => do
    let (key, rest) ← readKey (skipSpaces cs)
    match skipSpaces rest with
    | '.' :: rest =>
      let (path, rest) ← readKeyPath fuel rest
      return (⟨key :: path.way, path.last⟩, rest)
    | rest => return (⟨[], key⟩, rest)

def maxKeys : Nat := 80

def readPath (cs : List Char) : Option (KeyPath × List Char) := readKeyPath maxKeys cs

abbrev ValueReader := List Char → Option (Value × List Char)

def readItems (item : ValueReader) : (fuel : Nat) → List Char → Option (List Value × List Char)
  | 0, _ => none
  | fuel + 1, cs => do
    match ← skipTrivia false cs with
    | ']' :: rest => return ([], rest)
    | cs =>
      let (v, cs) ← item cs
      match ← skipTrivia false cs with
      | ',' :: rest =>
        let (vs, rest) ← readItems item fuel rest
        return (v :: vs, rest)
      | ']' :: rest => return ([v], rest)
      | _ => none

abbrev Gap := List Char → Option (List Char)

def readPair (gap : Gap) (item : ValueReader) (cs : List Char) :
    Option (KeyPath × Value × List Char) := do
  let (path, rest) ← readPath cs
  match ← gap rest with
  | '=' :: rest =>
    let (v, rest) ← item (← gap rest)
    return (path, v, rest)
  | _ => none

/-- The pairs of an inline table, up to its closing brace. Its equals signs may stand on
lines of their own. -/
def readPairs (item : ValueReader) :
    (fuel : Nat) → Fields → List Char → Option (Fields × List Char)
  | 0, _, _ => none
  | fuel + 1, fields, cs => do
    match ← skipTrivia false cs with
    | '\x7d' :: rest => return (fields, rest)
    | cs =>
      let (path, v, cs) ← readPair (skipTrivia false) item cs
      let fields ← Fields.addDotted path.last v path.way fields
      match ← skipTrivia false cs with
      | ',' :: rest => readPairs item fuel fields rest
      | '\x7d' :: rest => return (fields, rest)
      | _ => none

def readSimple : ValueReader
  | '"' :: rest => (readQuoted ('"' :: rest)).map fun r => (.text (String.ofList r.1), r.2)
  | '\x27' :: rest => (readQuoted ('\x27' :: rest)).map fun r => (.text (String.ofList r.1), r.2)
  | cs => readScalar cs

/-- A value with at most `depth` brackets open at once. -/
def readValue : (depth : Nat) → ValueReader
  | 0, '[' :: _ => none
  | 0, '\x7b' :: _ => none
  | depth + 1, '[' :: rest =>
    (readItems (readValue depth) (rest.length + 1) rest).map fun r => (.list r.1, r.2)
  | depth + 1, '\x7b' :: rest =>
    (readPairs (readValue depth) (rest.length + 1) [] rest).map fun r =>
      (.table (finishFields r.1), r.2)
  | _, cs => readSimple cs

def maxDepth : Nat := 80

/-- A document as far as it is read, and the header that keys stand under. -/
structure Draft where
  root : Fields
  header : List String

namespace Draft

/-- Open the table of a header, or one more table of a list. -/
def openHeader (d : Draft) (path : KeyPath) (element : Bool) : Option Draft := do
  let change := if element then Fields.openElement path.last else Fields.openTable path.last
  let root ← Fields.changeAt change path.way d.root
  return ⟨root, path.keys⟩

def give (d : Draft) (path : KeyPath) (v : Value) : Option Draft := do
  let root ← Fields.changeAt (Fields.addDotted path.last v path.way) d.header d.root
  return { d with root := root }

def readStatement (d : Draft) : List Char → Option (Draft × List Char)
  | '[' :: '[' :: cs => do
    match ← readPath cs with
    | (path, ']' :: ']' :: rest) => return (← d.openHeader path true, rest)
    | _ => none
  | '[' :: cs => do
    match ← readPath cs with
    | (path, ']' :: rest) => return (← d.openHeader path false, rest)
    | _ => none
  | cs => do
    let (path, v, rest) ← readPair (some ∘ skipSpaces) (readValue maxDepth) cs
    return (← d.give path v, rest)

/-- Read statements to the end, each on lines of its own. -/
def readStatements : (fuel : Nat) → Draft → List Char → Option Draft
  | 0, _, _ => none
  | fuel + 1, d, cs => do
    match ← skipTrivia false cs with
    | [] => return d
    | cs =>
      let (d, rest) ← d.readStatement cs
      readStatements fuel d (← endLine rest)

end Draft

def withoutMark : List Char → List Char
  | c :: rest => if c = '\uFEFF' then rest else c :: rest
  | [] => []

/-- The fields that a document writes, unless the text is no document. -/
def readDocument (s : String) : Option (List (String × Value)) := do
  let cs := withoutMark s.toList
  let d ← Draft.readStatements (cs.length + 1) ⟨[], []⟩ cs
  return finishFields d.root

end DigitTrail.Config
