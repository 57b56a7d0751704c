import ExitContract.Child.Tools
import ExitContract.Lookup

/-!
# What a path runs

The program that the system runs for a path, and the arguments that it gets.

## Main definitions

* `FileSystem.image` — the program behind a path
* `FileSystem.search` — the program behind a name without slashes
-/

namespace ExitContract

open Shell (Str)

/-- A program of the system with its arguments, of which the first is its own name. -/
structure Image where
  program : String
  arguments : List Str
  deriving DecidableEq, Repr

namespace FileSystem

/-- The interpreter that the first line of a script names, with its argument. -/
def interpreter? (contents : Bytes) : Option (Path × Option Str) :=
  match contents with
  | 35 :: 33 :: rest =>
    let isBlank (b : UInt8) : Bool := b == 32 || b == 9
    let line := ((rest.takeWhile (· != 10)).dropWhile isBlank).reverse.dropWhile isBlank |>.reverse
    let path := line.takeWhile fun b => !isBlank b
    let argument := (line.dropWhile fun b => !isBlank b).dropWhile isBlank
    if path.isEmpty then none
    else some (path, if argument.isEmpty then none else some (Tool.ofBytes argument))
  | _ => none

/-- How many interpreters may stand behind a script. -/
def maxInterpreters : Nat := 5

/-- What runs for a path, seen from a directory. A script runs its interpreter with its own path before
the other arguments. -/
def imageOf (fs : FileSystem) (directory : List Bytes) :
    Nat → Path → List Str → Except IoError Image
  | 0, _, _ => .error .execFormat
  | depth + 1, path, arguments =>
    match fs.resolve directory path with
    | .error e => .error e
    | .ok (.program name) => .ok ⟨name, arguments⟩
    | .ok (.file contents true) =>
      match interpreter? contents with
      | none => .error .execFormat
      | some (interpreter, argument) =>
        imageOf fs directory depth interpreter
          (Tool.ofBytes interpreter :: (argument.toList ++ Tool.ofBytes path :: arguments.drop 1))
    | .ok _ => .error .permissionDenied

/-- What runs for a path, seen from a directory. -/
def image (fs : FileSystem) (directory : List Bytes) (path : Path) (arguments : List Str) :
    Except IoError Image :=
  fs.imageOf directory maxInterpreters path arguments

/-- The directories that are searched when nothing says which. -/
def defaultSearchPath : Bytes := Path.ofString "/bin:/usr/bin"

/-- Tries paths in turn. A path that leads nowhere is passed over, one that may not be run too, but
that is the answer if no other path does. -/
def firstImage (fs : FileSystem) (directory : List Bytes) (arguments : List Str) (worst : IoError) :
    List Path → Except IoError (Path × Image)
  | [] => .error worst
  | p :: ps =>
    match fs.image directory p arguments with
    | .ok image => .ok (p, image)
    | .error .permissionDenied => firstImage fs directory arguments .permissionDenied ps
    | .error .notFound => firstImage fs directory arguments worst ps
    | .error .notADirectory => firstImage fs directory arguments worst ps
    | .error e => .error e

/-- What runs for a name: the path itself, if it has a slash, and else the first file of that name in
the directories of a `PATH` value. -/
def search (fs : FileSystem) (directory : List Bytes) (path : Bytes) (name : Bytes)
    (arguments : List Str) : Except IoError (Path × Image) :=
  if name.isEmpty then .error .notFound
  else if name.contains Path.slash then
    (fs.image directory name arguments).map fun image => (name, image)
  else if maxName < name.length then .error .nameTooLong
  else
    fs.firstImage directory arguments .notFound
      ((searchPath path).map fun d => if d.isEmpty then name else d.join name)

end FileSystem

end ExitContract
