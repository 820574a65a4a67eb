import DigitTrail.Command.Files
import DigitTrail.Command.Invocation
import DigitTrail.Config.Profile
import DigitTrail.Reference

/-!
The settings of a batch: what the command asks for goes before what the profile
sets.
-/

set_option autoImplicit false
set_option relaxedAutoImplicit false

namespace DigitTrail.Command

open Config (Configuration Environment Profile)
open Plane (Position)

structure Settings where
  delay : Option Nat
  radius : Option Nat
  dump : Bool
  reference : Option String
  corners : Option (Position × Position)
  deriving DecidableEq, Repr

/-- Lay an invocation over a profile. A delay of zero is none. -/
def Settings.resolve (i : Invocation) (p : Profile) (env : Environment) : Settings where
  delay := (i.delay.or p.delay).filter (0 < ·)
  radius := i.radius.or p.radius
  dump := i.dump || p.dump
  reference := i.reference.or (p.referencePath env)
  corners := p.corners

inductive ConfigFault
  | unreadable (path : String) (cause : ReadFault)
  | malformed (path : String)
  deriving DecidableEq, Repr

namespace ConfigFault

def path : ConfigFault → String
  | .unreadable path _ => path
  | .malformed path => path

/-- The wording of a fault in reading; what is wrong in a document is not worded. -/
def message? : ConfigFault → Option String
  | .unreadable path cause => some ("failed to read config at " ++ path ++ ": " ++ cause.message)
  | .malformed _ => none

end ConfigFault

def readConfiguration (fs : Files) (current : Path) (path : String) :
    Except ConfigFault Configuration :=
  match fs.readText current path with
  | .error cause => .error (.unreadable path cause)
  | .ok s => match Configuration.ofText? s with
    | none => .error (.malformed path)
    | some c => .ok c

/-- The configuration in a file; there may be none. -/
def findConfiguration (fs : Files) (current : Path) (path : String) :
    Except ConfigFault (Option Configuration) :=
  if fs.has current path then (readConfiguration fs current path).map some else .ok none

/-- The profile of the configuration in a file, if there is a file. A configuration
that cannot be read sets nothing. -/
def findProfile (fs : Files) (current : Path) (path : Option String) : Profile :=
  match path.map (findConfiguration fs current) with
  | some (.ok (some c)) => c.profile
  | _ => .empty

inductive ReferenceFault
  | unreadable (path : String) (cause : ReadFault)
  | noDigits (path : String)
  deriving DecidableEq, Repr

def ReferenceFault.message : ReferenceFault → String
  | .unreadable path cause => "failed to read pi digits from " ++ path ++ ": " ++ cause.message
  | .noDigits path => path ++ ": " ++ Reference.refusal

/-- The reference in a text that was read from a path, if reading it went well. -/
def referenceOf (path : String) : Except ReadFault String → Except ReferenceFault Reference
  | .error cause => .error (.unreadable path cause)
  | .ok s => match Reference.ofText? s with
    | none => .error (.noDigits path)
    | some r => .ok r

def Settings.loadReference (s : Settings) (fs : Files) (current : Path) :
    Except ReferenceFault Reference :=
  match s.reference with
  | none => .ok Reference.pi
  | some path => referenceOf path (fs.readText current path)

end DigitTrail.Command
