import ExitContract.CommandLine.Parser
import ExitContract.Log.Layout
import ExitContract.World

/-!
# Notes

What the program writes beside its output: log records, and remarks of its own.

## Main definitions

* `Note` — the type, with `Note.text`
* `Note.insistent` — which notes have to be taken
* `World.logFilter` — which events become notes
-/

namespace ExitContract

/-- Something written beside the output. -/
inductive Note
  /-- A log record. -/
  | record (format : LogFormat) (event : Event)
  /-- The program cannot go on. -/
  | trouble (message : String)
  /-- The program stops in the middle. -/
  | broken (reason : String)
  /-- The command line is no request. -/
  | usage (stop : CommandLine.Stop)
  /-- A command ran to its end. -/
  | finished (command : String)
  /-- A command was streamed; its exit code, if it was learned. -/
  | exited (killed : Bool) (command : String) (code : Option Int32)
  deriving DecidableEq, Repr

/-- How the program is called. -/
def usageText : String :=
  "Usage: procwrap [OPTIONS] <run|stream|tokenize> [ARGS]...\n"

/-- The text of a note. The time at which it is written and the milliseconds that the command took are
passed in as they are to be shown. -/
def Note.text (stamp elapsed : String) : Note → String
  | .record format event => format.line stamp event
  | .trouble message => "error: " ++ message ++ "\n"
  | .broken reason => "thread 'main' panicked:\n" ++ reason ++ "\n"
  | .usage _ => usageText
  | .finished command => "success: " ++ command ++ " finished in " ++ elapsed ++ "ms\n"
  | .exited killed command code =>
    (if killed then "timeout" else "success") ++ ": " ++ command ++ " exited with " ++
      (match code with
        | some c => toString c
        | none => "-") ++ " after " ++ elapsed ++ "ms\n"

/-- Whether the program insists on a note: it stops in the middle if nobody takes it. Nobody needs to take
a log record, what is said of a command line that is no request, or the last words of a program that
stops. -/
def Note.insistent : Note → Bool
  | .record .. | .usage _ | .broken _ => false
  | .trouble _ | .finished _ | .exited .. => true

/-- The variable that holds a filter. -/
def filterVariable : String := "RUST_LOG"

/-- Which events become notes: those that the surroundings ask for, or else those of the configured
level. -/
def World.logFilter (w : World) (l : LogSettings) : Filter :=
  match (w.environment.get? filterVariable).bind Filter.parse? with
  | some f => f
  | none => Filter.ofLevel l.level

/-- The notes that events become. -/
def World.records (w : World) (l : LogSettings) (events : List Event) : List Note :=
  (events.filter (w.logFilter l).allows).map (.record l.format)

end ExitContract
