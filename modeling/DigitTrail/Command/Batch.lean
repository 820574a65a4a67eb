import DigitTrail.Command.Driver

/-!
Batches: files run one after the other, each on a machine of its own, all asking one system for
characters. A crash is reported and the batch goes on; a fault is reported and ends it, and so does
an overflow in what is shown.
-/

set_option autoImplicit false
set_option relaxedAutoImplicit false

namespace DigitTrail.Command

open Config (Environment)
open Program (Ending Fault Machine)

variable {ε : Type}

inductive FileFault
  | unreadable (path : String) (cause : ReadFault)
  | faulted (path : String) (cause : Fault)
  deriving DecidableEq, Repr

def FileFault.message : FileFault → String
  | .unreadable path cause => "failed to read " ++ path ++ ": " ++ cause.message
  | .faulted path cause => path ++ ": " ++ cause.message

structure Batch (ε : Type) where
  entropy : ε
  status : Nat
  stopped : Bool
  deriving DecidableEq

namespace Batch

def start (entropy : ε) : Batch ε := ⟨entropy, 0, false⟩

def stop (b : Batch ε) (status : Nat) : Batch ε := { b with status := status, stopped := true }

variable {μ : Type → Type} [Monad μ] [System μ]

/-- Report how a file ended. Exits need no report, and a run that has not ended stops the batch. An
overflow ends the command with a status of its own. -/
def conclude (b : Batch ε) (path : String) (ticks : Nat) : Option Finish → μ (Batch ε)
  | some (.ended (.ok .exited)) => do
    System.note ("exited after " ++ toString ticks ++ " ticks")
    return b
  | some (.ended (.ok (.crashed stop))) => do
    System.note ("crashed after " ++ toString ticks ++ " ticks: " ++ stop.message)
    System.tell ("\n" ++ stop.message ++ "\n")
    return { b with status := 1 }
  | some (.ended (.error f)) => do
    System.tell ("\n" ++ (FileFault.faulted path f).message ++ "\n")
    return b.stop 1
  | some (.overflowed cause) => do
    System.tell (cause.message ++ "\n")
    return b.stop 101
  | none => return b.stop 1

variable [Entropy ε]

def runFile (fuel : Nat) (s : Settings) (r : Reference)
    (read : String → μ (Except ReadFault String)) (b : Batch ε) (path : String) :
    μ (Batch ε) := do
  match ← read path with
  | .error cause =>
    System.tell ("\n" ++ (FileFault.unreadable path cause).message ++ "\n")
    return b.stop 1
  | .ok source =>
    System.note ("running " ++ path)
    let (finish, m) ← driveSource fuel s r source b.entropy
    { b with entropy := m.memory.entropy }.conclude path m.ticks finish

/-- Run files one after the other, up to the first that stops the batch. -/
def runFiles (fuel : Nat) (s : Settings) (r : Reference)
    (read : String → μ (Except ReadFault String)) : List String → Batch ε → μ (Batch ε)
  | [], b => pure b
  | path :: files, b => do
    let b ← b.runFile fuel s r read path
    if b.stopped then pure b else runFiles fuel s r read files b

end Batch

/-- Run files on a desk, each with the text that reading its path gives. -/
def runFiles [Entropy ε] {σ : Type} [Supplier σ] (fuel : Nat) (s : Settings) (r : Reference)
    (files : List String) (read : String → Except ReadFault String) (entropy : ε) (supply : σ) :
    Batch ε × Desk σ :=
  (Batch.runFiles fuel s r (fun path => pure (read path)) files (.start entropy) :
    StateM (Desk σ) (Batch ε)).run (.fresh supply)

/-! ### Commands -/

structure Report where
  status : Nat
  out : String
  err : String
  log : LogPlace
  deriving DecidableEq, Repr

structure Surroundings where
  files : Files
  current : Path
  environment : Environment
  input : ByteArray

namespace Surroundings

def logPlace (around : Surroundings) : LogPlace :=
  (openLog around.files around.environment around.current).1

def opened (around : Surroundings) : Files :=
  withLog around.files (openLog around.files around.environment around.current).2

def read (around : Surroundings) (path : String) : Except ReadFault String :=
  around.opened.readText around.current path

/-- The settings of an invocation, over the profile under the home directory. -/
def settings (around : Surroundings) (i : Invocation) : Settings :=
  .resolve i
    (findProfile around.opened around.current
      ((homeDirectory around.environment).map configPath))
    around.environment

end Surroundings

def command [Entropy ε] (fuel : Nat) (words : List String) (around : Surroundings)
    (entropy : ε) : Report :=
  match Invocation.ofWords words with
  | .error fault => ⟨1, "", fault.message ++ "\n", around.logPlace⟩
  | .ok i =>
    match (around.settings i).loadReference around.opened around.current with
    | .error fault => ⟨1, "", fault.message ++ "\n", around.logPlace⟩
    | .ok r =>
      let (b, desk) := runFiles fuel (around.settings i) r i.files around.read entropy
        (Supply.ofBytes around.input)
      ⟨b.status, String.join desk.out.toList, String.join desk.err.toList, around.logPlace⟩

end DigitTrail.Command
