import DigitTrail.Command.Batch
import DigitTrail.Entropy

/-!
The command on a real system: it reads files and lines, prints after each step, pauses and logs. The
batch itself is that of `Command.Batch.runFiles`, on this system instead of a desk.
-/

set_option autoImplicit false
set_option relaxedAutoImplicit false

namespace DigitTrail.Command

open Config (Configuration Environment Profile)
open Entropy (Generator)

def ReadFault.ofSystem : IO.Error → ReadFault
  | .noFileOrDirectory .. => .notFound
  | .inappropriateType _ code _ => if code = 21 then .isDirectory else .notDirectory
  | .invalidArgument .. => .nameTooLong
  | .permissionDenied .. => .denied
  | e => .other (toString e)

def readSystemText (path : String) : IO (Except ReadFault String) := do
  if path.toList.contains '\x00' then return .error .nulInName
  match ← (IO.FS.readBinFile path).toBaseIO with
  | .ok bytes => return Files.decodeText bytes
  | .error e => return .error (.ofSystem e)

structure Log where
  handle : Option IO.FS.Handle

namespace Log

def openUnder (directory : String) : IO (Option IO.FS.Handle) := do
  try
    IO.FS.createDirAll ("/".intercalate (directory :: logDirectory))
    some <$> IO.FS.Handle.mk ("/".intercalate (directory :: logPath)) .append
  catch _ => return none

def openFirst : List String → IO Log
  | [] => return ⟨none⟩
  | directory :: rest => do
    match ← openUnder directory with
    | some handle => return ⟨some handle⟩
    | none => openFirst rest

/-- Write a line; a log that cannot be written to is ignored. -/
def note (log : Log) (line : String) : IO Unit := do
  let some handle := log.handle | return
  try
    handle.putStrLn line
    handle.flush
  catch _ => return

end Log

/-- The profile under the home directory; one that cannot be read sets nothing. -/
def readProfile (home : Option String) : IO Profile := do
  let some home := home | return .empty
  match ← readSystemText (configPath home) with
  | .ok s => return ((Configuration.ofText? s).map (·.profile)).getD .empty
  | .error _ => return .empty

def readEnvironment (p : Profile) : IO Environment := do
  let names := Config.references (p.reference.getD "")
  let held ← names.filterMapM fun name => do
    if name.isEmpty || name.toList.any (fun c => c = '=' || c = '\x00') then return none
    return (← IO.getEnv name).map fun value => (name, value)
  return fun name => held.lookup name

def readReference (s : Settings) : IO (Except ReferenceFault Reference) :=
  match s.reference with
  | none => return .ok Reference.pi
  | some path => return referenceOf path (← readSystemText path)

/-- The bytes up to the next line feed, which is left out, with whether there was one. -/
partial def readByteLine (input : IO.FS.Stream) (line : Array UInt8) :
    IO (List UInt8 × Bool) := do
  match (← input.read 1).toList with
  | [] => return (line.toList, false)
  | b :: _ => if b = 10 then return (line.toList, true) else readByteLine input (line.push b)

/-- The next line of the standard input, none at its end and when it cannot be read. -/
def readLine : IO (Option (List UInt8 × Bool)) := do
  match ← (readByteLine (← IO.getStdin) #[]).toBaseIO with
  | .error _ => return none
  | .ok (line, ended) => return if line.isEmpty ∧ ¬ ended then none else some (line, ended)

/-- The system that a command really runs on: the log, and what is left of the line read last. -/
abbrev Session := ReaderT Log (StateT Supply IO)

/-- A line is read only when a character of it is needed. -/
def Session.next : Session (Option Char) := do
  let s ← get
  let s ← if s.pending.isEmpty then pure ⟨[], (← readLine).toList⟩ else pure s
  set s.next.2
  return s.next.1

instance : System Session where
  next := Session.next
  put text := do
    let out ← IO.getStdout
    out.putStr text
    out.flush
  tell text := IO.eprint text
  note line := do (← read).note line
  pause ms := IO.sleep (UInt32.ofNat (min ms (UInt32.size - 1)))

/-- More steps than any run can take. -/
def unlimited : Nat := Nat.pow 2 62

/-- Run files one after the other; the status tells whether all of them exited. -/
def runPaths (s : Settings) (r : Reference) (files : List String) (g : Generator) :
    Session UInt32 := do
  let b ← Batch.runFiles unlimited s r (fun path => readSystemText path) files (.start g)
  return UInt32.ofNat b.status

def freshGenerator : IO Generator := do
  let bytes ← IO.getRandomBytes 8
  return .ofSeed (bytes.toList.foldl (fun n b => n * 256 + b.toNat) 0)

end DigitTrail.Command

open DigitTrail DigitTrail.Command in
def main (words : List String) : IO UInt32 := do
  let home := (← IO.getEnv "HOME").filter (· ≠ "")
  let log ← Log.openFirst (home.toList ++ ["."])
  log.note "log opened"
  match Invocation.ofWords words with
  | .error fault =>
    IO.eprintln fault.message
    return 1
  | .ok i =>
    let profile ← readProfile home
    let s := Settings.resolve i profile (← readEnvironment profile)
    match ← readReference s with
    | .error fault =>
      IO.eprintln fault.message
      return 1
    | .ok r =>
      let (status, _) ← ((runPaths s r i.files (← freshGenerator)).run log).run ⟨[], []⟩
      return status
