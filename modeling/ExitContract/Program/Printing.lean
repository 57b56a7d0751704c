import ExitContract.Capture
import ExitContract.CommandLine.Request
import ExitContract.Json.Printer
import ExitContract.Text.Lines

/-!
# Printing

What the program prints for a result, and what becomes of it on the way to a reader.

**A reader may go away.** Whoever reads the output may stop taking it, or a disk may be full. That
happens between two lines here: so many lines are taken, and nothing after them. The program notices when
it hands over a line. Only the end of a text that is no whole line, and is short, is kept back until the
output is flushed, and that is a failure of another kind.

## Main definitions

* `Completion.document` — the JSON document of a run that counts as success
* `Failure.Info.document` — that of a failure
* `Json.printed`, `printedLines`, `printedWords` — what is printed
* `Means` — how it is handed over
* `Taken` — what a reader has taken of it
-/

namespace ExitContract

/-- An exit code in a document. -/
def Json.ofCode (code : Int32) : Json := Json.int code.toInt

/-- A document as it is printed. -/
def Json.printed (j : Json) : String := j.pretty ++ "\n"

/-- The document of a run that counts as success and took so many milliseconds. -/
def Completion.document (r : Completion) (elapsed : Nat) : Json :=
  .object [("command", .text r.command), ("output", .text r.output), ("exit_code", .ofCode r.exitCode),
    ("duration_ms", .natural elapsed)]

/-- A field of a document that is left out when there is nothing to say. -/
def Json.optionalField (name : String) (value : Option String) : List (String × Json) :=
  (value.map fun v => (name, Json.text v)).toList

/-- The document of a failure. -/
def Failure.Info.document (i : Failure.Info) : Json :=
  .object ([("message", .text i.message), ("error_type", .text i.label),
    ("exit_code", .ofCode i.exitCode)] ++ Json.optionalField "output" i.output ++
    Json.optionalField "suggestion" i.suggestion)

/-- Lines as they are printed. -/
def printedLines (lines : List String) : String := String.join (lines.map (· ++ "\n"))

/-- The words of an argument file as they are printed. -/
def printedWords (format : OutputFormat) (words : List String) : String :=
  match format with
  | .text => printedLines words
  | .json => (Json.texts words).printed

/-- How a text is handed over to its reader. -/
inductive Means
  /-- Every line by itself, while the program goes on. -/
  | streamed
  /-- In whole lines. -/
  | lines
  /-- As it is; then it is flushed. -/
  | flushed
  deriving DecidableEq, Repr

/-- What a reader has taken of a text, and what it has not. -/
structure Taken where
  text : String
  left : String
  deriving DecidableEq, Repr

/-- What is taken of a text by a reader who takes so many lines, or all if no number is given. -/
def Taken.within (room : Option Nat) (text : String) : Taken :=
  match room with
  | none => ⟨text, ""⟩
  | some n =>
    let (taken, left) := Lines.splitAfter n text.toList
    ⟨String.ofList taken, String.ofList left⟩

/-- Whether all of it was taken. -/
def Taken.whole (t : Taken) : Bool := t.left.isEmpty

/-- How many octets of a line are kept back until it is complete. -/
def heldBack : Nat := 1024

/-- Whether it only shows at the flush that something was not taken. -/
def Taken.late (t : Taken) : Bool := !t.left.toList.contains '\n' && t.left.utf8ByteSize < heldBack

end ExitContract
