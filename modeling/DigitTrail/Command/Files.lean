import DigitTrail.Text
import DigitTrail.Config.Profile

/-!
Files in memory. A file has a path of names from the root, and every path that leads to a file is a
directory. Reading follows a written path name by name, from the root or from the current directory,
and may fail on the way.

The log goes under the home directory, else under the current directory, else nowhere. A directory
cannot be made where a file stands in the way, and a log cannot be opened where a directory has its
name.
-/

set_option autoImplicit false
set_option relaxedAutoImplicit false

namespace DigitTrail.Command

inductive ReadFault
  | notFound | isDirectory | notDirectory | nameTooLong | nulInName | notText | denied
  /-- Any other cause, in the words of the system. -/
  | other (words : String)
  deriving DecidableEq, Repr

def ReadFault.message : ReadFault → String
  | .notFound => "No such file or directory (os error 2)"
  | .isDirectory => "Is a directory (os error 21)"
  | .notDirectory => "Not a directory (os error 20)"
  | .nameTooLong => "File name too long (os error 36)"
  | .nulInName => "file name contained an unexpected NUL byte"
  | .notText => "stream did not contain valid UTF-8"
  | .denied => "Permission denied (os error 13)"
  | .other words => words

abbrev Path := List String

/-- Files by their paths, and directories that are there whether they hold files or not. -/
structure Files where
  entries : List (Path × ByteArray)
  directories : List Path

namespace Files

inductive Found
  | file (content : ByteArray)
  | directory
  | nothing

/-- Whether a path is a directory, or leads to a file or to one. -/
def leadsOn (fs : Files) (path : Path) : Bool :=
  path.isEmpty || fs.directories.any (fun d => path.isPrefixOf d) ||
    fs.entries.any fun e => path.isPrefixOf e.1

def find (fs : Files) (path : Path) : Found :=
  match fs.entries.lookup path with
  | some content => .file content
  | none => if fs.leadsOn path then .directory else .nothing

def isFile (fs : Files) (path : Path) : Bool :=
  match fs.find path with
  | .file _ => true
  | _ => false

def isDirectory (fs : Files) (path : Path) : Bool :=
  match fs.find path with
  | .directory => true
  | _ => false

def names (path : String) : List String :=
  (path.toList.splitOn '/').map String.ofList

/-- Follow one name. A dot stays, two dots go up, though not above the root, and only
directories lead on. -/
def follow (fs : Files) (path : Path) (name : String) : Except ReadFault Path :=
  if fs.isFile path then .error .notDirectory
  else if name = "" ∨ name = "." then .ok path
  else if name = ".." then .ok path.dropLast
  else if 255 < name.utf8ByteSize then .error .nameTooLong
  else match fs.find (path ++ [name]) with
    | .nothing => .error .notFound
    | _ => .ok (path ++ [name])

/-- Where following a written path starts: at the root or in the current directory. -/
def origin (current : Path) (path : String) : Path :=
  if path.toList.head? = some '/' then [] else current

def locate (fs : Files) (current : Path) (path : String) : Except ReadFault Path :=
  if path = "" then .error .notFound
  else if path.toList.contains '\x00' then .error .nulInName
  else if 4095 < path.utf8ByteSize then .error .nameTooLong
  else (names path).foldlM fs.follow (origin current path)

def readBytes (fs : Files) (current : Path) (path : String) : Except ReadFault ByteArray := do
  match fs.find (← fs.locate current path) with
  | .file content => .ok content
  | .directory => .error .isDirectory
  | .nothing => .error .notFound

def decodeText (bytes : ByteArray) : Except ReadFault String :=
  match String.fromUTF8? bytes with
  | some s => .ok s
  | none => .error .notText

def readText (fs : Files) (current : Path) (path : String) : Except ReadFault String := do
  decodeText (← fs.readBytes current path)

def has (fs : Files) (current : Path) (path : String) : Bool :=
  match fs.locate current path with
  | .ok _ => true
  | .error _ => false

def step (path : Path) (name : String) : Path :=
  if name = "" ∨ name = "." then path
  else if name = ".." then path.dropLast
  else path ++ [name]

def target (current : Path) (path : String) : Path :=
  (names path).foldl step (origin current path)

/-- The same files with an empty one at a path, unless there is a file already. -/
def touch (fs : Files) (path : Path) : Files :=
  if fs.isFile path then fs else { fs with entries := fs.entries ++ [(path, ByteArray.empty)] }

end Files

open Config (Environment)

inductive LogPlace
  | home | current | nowhere
  deriving DecidableEq, Repr

def logDirectory : Path := [".piwalk", "logs"]

def logPath : Path := logDirectory ++ ["piwalk.log"]

def homeDirectory (env : Environment) : Option String := (env "HOME").filter (· ≠ "")

def configPath (home : String) : String :=
  (if home.toList.getLast? = some '/' then home else home ++ "/") ++ ".piwalk/config.toml"

/-- The paths that lead to a path, from the first name on, and the path itself. -/
def ways (path : Path) : List Path := (List.range path.length).map fun n => path.take (n + 1)

def admitsLog (fs : Files) (directory : Path) : Bool :=
  (ways (directory ++ logDirectory)).all (fun way => !fs.isFile way) &&
    !fs.isDirectory (directory ++ logPath)

def openLog (fs : Files) (env : Environment) (current : Path) : LogPlace × Option Path :=
  let home := (homeDirectory env).map (Files.target current)
  match home.filter (admitsLog fs) with
  | some directory => (.home, some (directory ++ logPath))
  | none =>
    if admitsLog fs current then (.current, some (current ++ logPath)) else (.nowhere, none)

def withLog (fs : Files) : Option Path → Files
  | some path => fs.touch path
  | none => fs

end DigitTrail.Command
