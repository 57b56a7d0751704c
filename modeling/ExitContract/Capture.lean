import ExitContract.Child.Timeline
import ExitContract.Command
import ExitContract.Failure
import ExitContract.Log.Record
import ExitContract.Options

/-!
# Running a command to its end

What comes of a command whose whole output is taken before its exit code is looked at.

## Main definitions

* `Completion` — what a run that counts as success gives
* `Outcome` — how a child turned out
* `complete` — the verdict on a child that has ended
* `capture` — the run of a command, with what is said on the way

## Design notes

A child either cannot be started or comes to an end, with the octets that it wrote and its status, unless
the system fails whoever reads or waits. What it does in between does not matter here, so that is all
`capture` gets. The system always has a pipe for the output.
-/

namespace ExitContract

/-- What a run that counts as success gives. -/
structure Completion where
  command : String
  output : String
  exitCode : Int32
  deriving DecidableEq, Repr

/-- Whether the command itself reported success. -/
def Completion.succeeded (r : Completion) : Bool := r.exitCode == 0

/-- How a child turned out. -/
inductive Outcome
  /-- It could not be started. -/
  | unstarted (cause : IoError)
  /-- It ended, with what it wrote and its status. -/
  | ended (output : Bytes) (status : WaitStatus)
  /-- Its output could not be read any further than this. -/
  | unread (output : Bytes) (cause : IoError)
  /-- It wrote this, and its status could not be had. -/
  | untold (output : Bytes) (cause : IoError)
  deriving DecidableEq, Repr

/-- How a child that was started turns out, if it comes to an end. -/
def Timeline.outcome? (t : Timeline) : Option Outcome :=
  if t.endless.isSome || t.closed.isNone then none
  else
    match t.fault, t.untold with
    | some cause, _ => some (.unread t.output cause)
    | none, some cause => some (.untold t.output cause)
    | none, none => t.ended.map fun e => .ended t.output e.2

/-- How a child turns out, if it comes to an end. -/
def Outcome.of? : Except IoError Timeline → Option Outcome
  | .error cause => some (.unstarted cause)
  | .ok child => child.outcome?

/-- The verdict on a child that has ended. -/
def complete (c : Command) (o : Options) (output : Bytes) (status : WaitStatus) :
    Except Failure Completion :=
  let text := Utf8.decodeLossy output
  if o.accepts status.exitCode then .ok ⟨c.render, text, status.exitCode⟩
  else .error (.unexpectedExit o.errorMessage c.render status.exitCode text)

/-- The event of a command that ended. -/
def exitEvent (source : Source) (command : String) (code : Int32) : Event :=
  .debug source (command ++ " exited with code " ++ toString code)

/-- Runs a command to its end. -/
def capture (c : Command) (o : Options) (child : Outcome) : Logged (Except Failure Completion) :=
  let begun := Event.debug .runner ("Executing: " ++ c.render)
  let broken (output : Bytes) (cause : IoError) : Except Failure Completion :=
    .error (.inputOutput c.render (Utf8.decodeLossy output) cause)
  match child with
  | .unstarted cause => ⟨[begun], .error (.launch c.executable c.render cause)⟩
  | .ended output status =>
    ⟨[begun, exitEvent .runner c.render status.exitCode], complete c o output status⟩
  | .unread output cause => ⟨[begun], broken output cause⟩
  | .untold output cause => ⟨[begun], broken output cause⟩

/-- The options of a run of which only the message and the expected code are asked for. -/
def Options.expecting (message : String) (code : Option Int32) : Options :=
  { Options.default with errorMessage := message, expectedCode := code }

end ExitContract
