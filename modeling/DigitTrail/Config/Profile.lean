import DigitTrail.Config.Document
import DigitTrail.Data

/-!
Profiles: the settings that a configuration document may give under `run`. Every setting may be left
out, but a setting that is not known is a fault.

In the path of a reference `${NAME}` stands for the value of a variable. A variable that is not set
has no text, a reference to the environment that is never closed is kept as it stands, and what a
variable holds is not looked at again.
-/

set_option autoImplicit false
set_option relaxedAutoImplicit false

namespace DigitTrail.Config

open Data (Value ListRule)
open Plane (Position)

/-- What each variable holds. A variable that is not set, or does not hold text, has none. -/
abbrev Environment := String → Option String

namespace Environment

/-- The text of a variable: nothing if it is not set or has no name. -/
def text (env : Environment) (name : List Char) : List Char :=
  if name.isEmpty then [] else ((env (String.ofList name)).getD "").toList

end Environment

/-- Expand with the name of the reference that is open, if one is, latest character first. -/
def expandFrom (env : Environment) : Option (List Char) → List Char → List Char
  | none, [] => []
  | some name, [] => '$' :: '\x7b' :: name.reverse
  | none, '$' :: '\x7b' :: rest => expandFrom env (some []) rest
  | none, c :: rest => c :: expandFrom env none rest
  | some name, c :: rest =>
    if c = '\x7d' then env.text name.reverse ++ expandFrom env none rest
    else expandFrom env (some (c :: name)) rest

def expand (env : Environment) (s : String) : String :=
  String.ofList (expandFrom env none s.toList)

/-- The names of the references in a text, with the name of the one that is open. -/
def namesFrom : Option (List Char) → List Char → List String
  | none, '$' :: '\x7b' :: rest => namesFrom (some []) rest
  | none, _ :: rest => namesFrom none rest
  | some name, c :: rest =>
    if c = '\x7d' then String.ofList name.reverse :: namesFrom none rest
    else namesFrom (some (c :: name)) rest
  | _, [] => []

def references (s : String) : List String := namesFrom none s.toList

structure Profile where
  /-- Milliseconds between steps. -/
  delay : Option Nat
  /-- How far the window reaches. -/
  radius : Option Nat
  /-- Whether the registers are shown after each step. -/
  dump : Bool
  /-- The file of another reference text, with references to the environment. -/
  reference : Option String
  /-- Two corners of the box. -/
  corners : Option (Position × Position)
  deriving DecidableEq, Repr

namespace Profile

def empty : Profile := ⟨none, none, false, none, none⟩

def settings : List String := ["delay_ms", "view_radius", "dump_registers", "pi_file", "bounds"]

/-- A setting that may be missing: none if it is there and faulty. -/
def optional? {α : Type} (read : Value → Option α) : Option Value → Option (Option α)
  | none => some none
  | some v => (read v).map some

/-- Two corners; further ones are ignored. -/
def corners? : Value → Option (Position × Position)
  | .list items => do
    let (a, b) ← ListRule.leading.pair? items
    return (← Data.position? .leading a, ← Data.position? .leading b)
  | _ => none

def ofSettings (setting : String → Option Value) : Option Profile := do
  let delay ← optional? (·.natUpTo? (UInt64.size - 1)) (setting "delay_ms")
  let radius ← optional? (·.natUpTo? (UInt32.size - 1)) (setting "view_radius")
  let dump ← optional? (·.bool?) (setting "dump_registers")
  let reference ← optional? (·.text?) (setting "pi_file")
  let corners ← optional? corners? (setting "bounds")
  return ⟨delay, radius, dump.getD false, reference, corners⟩

/-- A profile as data: a table of known settings, or a list of all of them in order. -/
def ofValue? : Value → Option Profile
  | .table fields =>
    if fields.all fun f => settings.contains f.1 then ofSettings (fields.lookup ·) else none
  | .list items =>
    if items.length < settings.length then none
    else ofSettings ((settings.zip items).lookup ·)
  | _ => none

/-- The file of the reference text, with the environment filled in. -/
def referencePath (p : Profile) (env : Environment) : Option String :=
  p.reference.map (expand env)

end Profile

structure Configuration where
  run : Option Profile
  deriving DecidableEq, Repr

namespace Configuration

def profile (c : Configuration) : Profile := c.run.getD .empty

/-- A configuration from the fields of a document. What is not under `run` does not
matter, but it has to be legible. -/
def ofFields? (fields : List (String × Value)) : Option Configuration := do
  let run ← Profile.optional? Profile.ofValue? (fields.lookup "run")
  if Data.fieldsLegible (fields.filter (·.1 ≠ "run")) then return ⟨run⟩ else none

def ofText? (s : String) : Option Configuration := (readDocument s).bind ofFields?

end Configuration

end DigitTrail.Config
