import DigitTrail.Number

/-!
The words of a command. A word that starts with a dash is a flag, with what it
carries glued to its letter; every other word is a file to run. A numeric flag
that carries nothing stands for zero, and a repeated flag overrides the one before.
-/

set_option autoImplicit false
set_option relaxedAutoImplicit false

namespace DigitTrail.Command

open Number (NumeralFault)

inductive UsageFault
  | unknownFlag (word : String)
  | missingPath
  | badNumber (flag : Char) (payload : String) (cause : NumeralFault)
  | noFile
  deriving DecidableEq, Repr

def usage : String := "usage: piwalk [-d<ms>] [-v<radius>] [-r] [-pi<path>] FILE..."

def UsageFault.message : UsageFault → String
  | .unknownFlag word => "unknown flag '" ++ word ++ "'\n" ++ usage
  | .missingPath => "-pi needs a path, e.g. -pi./pi.txt\n" ++ usage
  | .badNumber flag payload cause =>
    "-" ++ String.singleton flag ++ " expects a number, got '" ++ payload ++ "': " ++ cause.message
  | .noFile => "no input file supplied\n" ++ usage

inductive Word
  | file (path : String)
  | reference (path : String)
  | delay (ms : Nat)
  | radius (cells : Nat)
  | dump
  deriving DecidableEq, Repr

def readNumber (limit : Nat) (flag : Char) : List Char → Except UsageFault Nat
  | [] => .ok 0
  | payload =>
    (Number.readUnsigned limit payload).mapError (.badNumber flag (String.ofList payload))

def readFlag (word : String) : List Char → Except UsageFault Word
  | ['p', 'i'] => .error .missingPath
  | 'p' :: 'i' :: path => .ok (.reference (String.ofList path))
  | 'd' :: payload => (readNumber (UInt64.size - 1) 'd' payload).map .delay
  | 'v' :: payload => (readNumber (UInt32.size - 1) 'v' payload).map .radius
  | ['r'] => .ok .dump
  | _ => .error (.unknownFlag word)

def readWord (word : String) : Except UsageFault Word :=
  match word.toList with
  | '-' :: flag => readFlag word flag
  | _ => .ok (.file word)

structure Invocation where
  delay : Option Nat
  radius : Option Nat
  dump : Bool
  reference : Option String
  files : List String
  deriving DecidableEq, Repr

namespace Invocation

def empty : Invocation := ⟨none, none, false, none, []⟩

def add (i : Invocation) : Word → Invocation
  | .file path => { i with files := i.files ++ [path] }
  | .reference path => { i with reference := some path }
  | .delay ms => { i with delay := some ms }
  | .radius cells => { i with radius := some cells }
  | .dump => { i with dump := true }

/-- The meaning of all words; the first faulty word decides the fault. -/
def ofWords (words : List String) : Except UsageFault Invocation :=
  match words.mapM readWord with
  | .error fault => .error fault
  | .ok words =>
    let i := words.foldl add empty
    if i.files.isEmpty then .error .noFile else .ok i

end Invocation

end DigitTrail.Command
