import ExitContract.Binary64
import ExitContract.Lookup

/-!
# Failures

Every way a run can fail, the exit code that the host process ends with for it, and its wording.

## Main definitions

* `Failure` — the ways to fail
* `Failure.exitCode` — the exit code of the host process
* `Failure.message` — one line that says what went wrong
* `Failure.report` — the lines of the diagnostic bundle
* `Failure.info` — the record of a failure, with a suggestion where there is one

## Design notes

A failure keeps what it is about; all of its texts are functions of that. The suggestion for a command
that could not be started depends on what the surroundings know, so `report` and `info` take them.
-/

namespace ExitContract

/-- The ways a run can fail. -/
inductive Failure
  /-- The command could not be started. -/
  | launch (executable command : String) (cause : IoError)
  /-- The command ended with an exit code that does not count as success. -/
  | unexpectedExit (message command : String) (code : Int32) (output : String)
  /-- The command ran into its limit, and that counts as a failure. -/
  | timeoutKill (command : String) (limit : Binary64) (code : Int32) (output : String)
  /-- A line of an argument file cannot be split into words. -/
  | malformedLine (line reason : String)
  /-- An argument file cannot be used. -/
  | argumentFile (path reason : String)
  /-- Reading the output of the command or waiting for it failed. -/
  | inputOutput (command output : String) (cause : IoError)
  deriving DecidableEq, Repr

namespace Failure

/-- The exit code of a failure that has no exit code of its own. -/
def plainExitCode : Int32 := -1

/-- The exit code of an argument file that cannot be used. -/
def argumentFileExitCode : Int32 := 2

/-- The exit code that the host process ends with. -/
def exitCode : Failure → Int32
  | .unexpectedExit _ _ code _ => code
  | .timeoutKill _ _ code _ => code
  | .argumentFile _ _ => argumentFileExitCode
  | .launch .. | .malformedLine .. | .inputOutput .. => plainExitCode

/-- What the command wrote before the failure, if it got that far. -/
def output? : Failure → Option String
  | .unexpectedExit _ _ _ output => some output
  | .timeoutKill _ _ _ output => some output
  | .inputOutput _ output _ => some output
  | .launch .. | .malformedLine .. | .argumentFile .. => none

/-- The system error behind a failure. -/
def cause? : Failure → Option IoError
  | .launch _ _ cause => some cause
  | .inputOutput _ _ cause => some cause
  | _ => none

/-- The name of a kind of failure in its record. -/
def label : Failure → String
  | .launch .. => "launch_failure"
  | .unexpectedExit .. => "unexpected_exit_code"
  | .timeoutKill .. => "timeout_kill"
  | .malformedLine .. => "tokenize_failure"
  | .argumentFile .. => "arg_file"
  | .inputOutput .. => "io_error"

/-- One line that says what went wrong. -/
def message : Failure → String
  | .launch _ command _ => "Unable to run executable: " ++ command
  | .unexpectedExit message command code _ =>
    message ++ " (exit code " ++ toString code ++ "): " ++ command
  | .timeoutKill command limit _ _ =>
    "Command killed after " ++ limit.tenths ++ "s timeout: " ++ command
  | .malformedLine _ reason => "Unable to parse argument string: " ++ reason
  | .argumentFile path reason => "Argument file " ++ path ++ ": " ++ reason
  | .inputOutput command _ cause => "I/O error while running " ++ command ++ ": " ++ cause.message

/-- A suggestion for a command that could not be started. -/
def launchHint (w : World) (executable : String) (cause : IoError) : Option String :=
  match cause.kind with
  | .notFound =>
    if w.knowsProgram executable then some "The working directory may not exist."
    else some ("'" ++ executable ++
      "' was not found on PATH. Install it or pass an absolute path.")
  | .permissionDenied => some ("'" ++ executable ++ "' is not executable. Check its permissions.")
  | _ => none

/-- A suggestion for mending a failure. -/
def suggestion (w : World) : Failure → Option String
  | .launch executable _ cause => launchHint w executable cause
  | .timeoutKill .. => some "Increase the timeout or check whether the command hangs"
  | .malformedLine .. => some "Check the line for an unclosed quote or a trailing backslash"
  | .unexpectedExit .. | .argumentFile .. | .inputOutput .. => none

/-- The lines of the diagnostic bundle. -/
def report (w : World) : Failure → List String
  | .launch executable command cause =>
    ["Unable to run given executable, does it exist?", "executable: " ++ command,
      "error: " ++ cause.message] ++
      ((launchHint w executable cause).map ("hint: " ++ ·)).toList
  | .unexpectedExit message command code output =>
    [message, "Return code: " ++ toString code, "Command used: " ++ command, "Trace:\n" ++ output]
  | .timeoutKill command limit code output =>
    ["Killed by timeout after " ++ limit.tenths ++ "s", "Return code: " ++ toString code,
      "Command used: " ++ command, "Trace:\n" ++ output]
  | .malformedLine line reason =>
    ["Unable to parse argument string (" ++ reason ++ ")", "given string: " ++ line]
  | .argumentFile path reason => ["Unable to read argument file " ++ path ++ ": " ++ reason]
  | .inputOutput command output cause =>
    ["Failure while running executable", "executable: " ++ command, "error: " ++ cause.message] ++
      (if output.isEmpty then [] else ["Trace:\n" ++ output])

/-- The record of a failure. -/
structure Info where
  message : String
  label : String
  exitCode : Int32
  /-- What the command wrote, if it wrote anything. -/
  output : Option String
  suggestion : Option String
  deriving DecidableEq, Repr

/-- The record of a failure. -/
def info (w : World) (f : Failure) : Info where
  message := f.message
  label := f.label
  exitCode := f.exitCode
  output := f.output?.filter fun o => !o.isEmpty
  suggestion := f.suggestion w

end Failure

end ExitContract
