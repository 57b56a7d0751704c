import ExitContract.Failure
import ExitContract.Log.Record
import ExitContract.Reference
import ExitContract.Text.Lines
import ExitContract.Words

/-!
# Argument files

An argument that starts with `@` names a file whose words stand in its place. The words of a file may
name further files, up to a fixed depth.

## Main definitions

* `World.readArguments` — the words of a file, line by line
* `World.expandArguments` — arguments with every reference replaced
* `World.expandCommandLine` — the same for a whole command line, up to its first `--`

## Design notes

`expandWith inner` replaces the references of one level and leaves the words of the files to `inner`;
`expandAt` ties the levels together. Reading a file is logged, so the result carries the log of what
was read before a failure as well.
-/

namespace ExitContract

namespace ArgumentFile

/-- The character that starts a reference. -/
def marker : Char := '@'

/-- How deep files may name further files. -/
def maxDepth : Nat := 16

/-- Why a reference cannot be replaced. -/
inductive Fault
  /-- It stands in a file that is already as deep as files may be. -/
  | tooDeep
  /-- It needs a variable that is not set. -/
  | unset (cause : UnsetVariable)
  /-- The file cannot be read. -/
  | unreadable (cause : IoError)
  deriving DecidableEq, Repr

/-- The wording of a fault. -/
def Fault.message : Fault → String
  | .tooDeep => "argument files nested more than " ++ toString maxDepth ++ " deep"
  | .unset v => v.message
  | .unreadable cause => cause.message

/-- The reference that an argument makes, if it makes one. -/
def reference? (argument : String) : Option String :=
  match argument.toList with
  | c :: cs => if c = marker then some (String.ofList cs) else none
  | [] => none

/-- The words of the lines of a file. The first line that cannot be split fails. -/
def wordsOfLines : List (List Char) → Except Failure (List String)
  | [] => .ok []
  | line :: lines =>
    let line := String.ofList line
    match tokenize line with
    | .error e => .error (.malformedLine line e.message)
    | .ok words => (wordsOfLines lines).map (words ++ ·)

/-- The words of the text of a file. -/
def wordsOfText (text : String) : Except Failure (List String) := wordsOfLines (linesOf text.toList)

/-- The failure for a path that cannot be used. -/
def failure (path : String) (fault : Fault) : Failure := .argumentFile path fault.message

end ArgumentFile

/-- The words of an argument file. -/
def World.readArguments (w : World) (path : Path) : Except Failure (List String) :=
  match w.files.readText w.directory path with
  | .error cause => .error (ArgumentFile.failure path.display (.unreadable cause))
  | .ok text => ArgumentFile.wordsOfText text

namespace ArgumentFile

/-- What the log says about a file that was read. -/
def readNote (count : Nat) (path : Path) : Event :=
  .debug .argumentFiles ("Read " ++ toString count ++ " arguments from " ++ path.display)

/-- The words of the file that a reference names, and the log of reading it. -/
def follow (w : World) (raw : String) : Logged (Except Failure (List String)) :=
  match w.expandReference raw with
  | .error v => ⟨[], .error (failure raw (.unset v))⟩
  | .ok path =>
    match w.readArguments (Path.ofString path) with
    | .error f => ⟨[], .error f⟩
    | .ok words => ⟨[readNote words.length (Path.ofString path)], .ok words⟩

/-- Replaces the references among arguments; `inner` gives what stands for a reference. -/
def expandWith (inner : String → Logged (Except Failure (List String))) :
    List String → Logged (Except Failure (List String))
  | [] => ⟨[], .ok []⟩
  | argument :: arguments =>
    match reference? argument with
    | none => (expandWith inner arguments).map (Except.map (argument :: ·))
    | some raw =>
      match inner raw with
      | ⟨log, .error f⟩ => ⟨log, .error f⟩
      | ⟨log, .ok words⟩ => ((expandWith inner arguments).map (Except.map (words ++ ·))).after log

/-- Replaces references where files may be nested `levels` deep. -/
def expandAt (w : World) : Nat → List String → Logged (Except Failure (List String))
  | 0 => expandWith fun raw => ⟨[], .error (failure raw .tooDeep)⟩
  | levels + 1 => expandWith fun raw =>
    match follow w raw with
    | ⟨log, .error f⟩ => ⟨log, .error f⟩
    | ⟨log, .ok words⟩ => (expandAt w levels words).after log

end ArgumentFile

/-- Replaces every reference among arguments. -/
def World.expandArguments (w : World) (arguments : List String) :
    Logged (Except Failure (List String)) :=
  ArgumentFile.expandAt w ArgumentFile.maxDepth arguments

namespace ArgumentFile

/-- The argument that ends the part of a command line in which references are replaced. -/
def separator : Bytes := Utf8.encode "--"

/-- Replaces the references among arguments that need not be text. Only references become text. -/
def expandRaw (w : World) : List Bytes → Logged (Except Failure (List Bytes))
  | [] => ⟨[], .ok []⟩
  | argument :: arguments =>
    if argument.head? = some (UInt8.ofNat marker.toNat) then
      match w.expandArguments [Utf8.decodeLossy argument] with
      | ⟨log, .error f⟩ => ⟨log, .error f⟩
      | ⟨log, .ok words⟩ =>
        ((expandRaw w arguments).map (Except.map (words.map Utf8.encode ++ ·))).after log
    else (expandRaw w arguments).map (Except.map (argument :: ·))

end ArgumentFile

/-- Replaces the references of a command line that stand before its first `--`. The first word is the
name of the program and is kept. -/
def World.expandCommandLine (w : World) (line : List Bytes) : Logged (Except Failure (List Bytes)) :=
  let before := line.takeWhile (· != ArgumentFile.separator)
  let after := line.dropWhile (· != ArgumentFile.separator)
  match before with
  | [] => ⟨[], .ok after⟩
  | program :: arguments =>
    (ArgumentFile.expandRaw w arguments).map (Except.map fun words => program :: words ++ after)

end ExitContract
