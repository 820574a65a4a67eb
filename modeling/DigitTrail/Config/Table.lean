import DigitTrail.Data

/-!
Tables under construction. A table comes from a header, from being on the way to
the table of a header, or from a key with dots. A header or dots may complete a
table that was only on the way, which then counts as theirs; dots extend what dots
have made, but nothing that a header has made; and nothing is given twice.
-/

set_option autoImplicit false
set_option relaxedAutoImplicit false

namespace DigitTrail.Config

open Data (Value)

inductive Origin
  | header | passed | dotted
  deriving DecidableEq, Repr

/-- A part of a document: a value, a table, or a list of tables that is still growing. -/
inductive Node
  | value (v : Value)
  | table (origin : Origin) (fields : List (String × Node))
  | tables (elements : List (List (String × Node)))

/-- The fields of a table under construction, in the order in which they came. -/
abbrev Fields := List (String × Node)

namespace Fields

def put (key : String) (n : Node) : Fields → Fields
  | [] => [(key, n)]
  | (k, m) :: rest => if k = key then (k, n) :: rest else (k, m) :: put key n rest

def changeLast (change : Fields → Option Fields) : List Fields → Option (List Fields)
  | [] => none
  | [last] => (change last).map fun f => [f]
  | f :: rest => (changeLast change rest).map (f :: ·)

def addKey (fields : Fields) (key : String) (v : Value) : Option Fields :=
  match fields.lookup key with
  | some _ => none
  | none => some (fields ++ [(key, .value v)])

def addDotted (key : String) (v : Value) : List String → Fields → Option Fields
  | [], fields => fields.addKey key v
  | p :: path, fields =>
    match fields.lookup p with
    | none => do
      let inner ← addDotted key v path []
      return fields ++ [(p, .table .dotted inner)]
    | some (.table .header _) => none
    | some (.table _ inner) => do
      let inner ← addDotted key v path inner
      return fields.put p (.table .dotted inner)
    | some (.tables elements) =>
      if path.isEmpty then none
      else do
        let elements ← changeLast (addDotted key v path) elements
        return fields.put p (.tables elements)
    | some (.value _) => none

def openTable (key : String) (fields : Fields) : Option Fields :=
  match fields.lookup key with
  | none => some (fields ++ [(key, .table .header [])])
  | some (.table .passed inner) => some (fields.put key (.table .header inner))
  | _ => none

def openElement (key : String) (fields : Fields) : Option Fields :=
  match fields.lookup key with
  | none => some (fields ++ [(key, .tables [[]])])
  | some (.tables elements) => some (fields.put key (.tables (elements ++ [[]])))
  | _ => none

/-- Change the fields at the end of the path of a header; tables on the way come to be. -/
def changeAt (change : Fields → Option Fields) : List String → Fields → Option Fields
  | [], fields => change fields
  | p :: path, fields =>
    match fields.lookup p with
    | none => do
      let inner ← changeAt change path []
      return fields ++ [(p, .table .passed inner)]
    | some (.table origin inner) => do
      let inner ← changeAt change path inner
      return fields.put p (.table origin inner)
    | some (.tables elements) => do
      let elements ← changeLast (changeAt change path) elements
      return fields.put p (.tables elements)
    | some (.value _) => none

end Fields

mutual

def Node.finish : Node → Value
  | .value v => v
  | .table _ fields => .table (finishFields fields)
  | .tables elements => .list (finishTables elements)

def finishFields : List (String × Node) → List (String × Value)
  | [] => []
  | (key, n) :: rest => (key, n.finish) :: finishFields rest

def finishTables : List (List (String × Node)) → List Value
  | [] => []
  | fields :: rest => .table (finishFields fields) :: finishTables rest

end

end DigitTrail.Config
