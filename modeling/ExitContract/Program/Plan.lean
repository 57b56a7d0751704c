import ExitContract.ArgumentFile
import ExitContract.CommandLine.Parser
import ExitContract.Config.Load

/-!
# Plans

What the program makes of its command line before it does anything.

References to argument files are replaced first, then the words are read, and then the configuration is
loaded; the first of these that fails is the end.

## Main definitions

* `Plan`, `Task` — what is to be done
* `Obstacle` — why there is nothing to do
* `World.plan` — the plan of a command line
-/

namespace ExitContract

/-- What is to be done. -/
inductive Task
  /-- Run a command to its end and print what it wrote. -/
  | run (command : Command) (options : Options) (format : OutputFormat)
  /-- Run a command and print its lines as they come. -/
  | stream (command : Command) (options : Options)
  /-- Print the words of an argument file. -/
  | tokenize (file : Path) (format : OutputFormat)
  deriving DecidableEq, Repr

/-- What is to be done, and how much is said about it. -/
structure Plan where
  verbose : Bool
  logging : LogSettings
  task : Task
  deriving DecidableEq, Repr

/-- Why there is nothing to do. -/
inductive Obstacle
  /-- An argument file cannot be used. -/
  | arguments (failure : Failure)
  /-- The command line is no request. -/
  | usage (stop : CommandLine.Stop)
  /-- There is no configuration. -/
  | configuration (error : ConfigError)
  deriving DecidableEq, Repr

/-- The task that an action is, with a configuration. -/
def Action.task (a : Action) (config : Config) : Task :=
  match a with
  | .run r => .run r.execution.command (r.execution.applyTo config.options) r.format
  | .stream r => .stream r.execution.command (r.applyTo config.options)
  | .tokenize r => .tokenize r.file r.format

/-- The level of the log when more is to be said. -/
def verboseLevel : String := "debug"

/-- The log settings of a request. -/
def Request.logging (r : Request) (config : Config) : LogSettings :=
  if r.verbose then { config.logging with level := verboseLevel } else config.logging

/-- The plan of a request, with a configuration. -/
def Request.plan (r : Request) (config : Config) : Plan where
  verbose := r.verbose
  logging := r.logging config
  task := r.action.task config

namespace World

/-- The plan of a request. -/
def planRequest (w : World) (r : Request) : Logged (Except Obstacle Plan) :=
  (w.loadConfig r.config).map fun
    | .error e => .error (.configuration e)
    | .ok config => .ok (r.plan config)

/-- The plan of a command line without references. -/
def planWords (w : World) (words : List Bytes) : Logged (Except Obstacle Plan) :=
  match CommandLine.parse w.environment words with
  | .error stop => ⟨[], .error (.usage stop)⟩
  | .ok r => w.planRequest r

/-- The plan of a command line. -/
def plan (w : World) (line : List Bytes) : Logged (Except Obstacle Plan) :=
  (w.expandCommandLine line).bind fun
    | .error f => ⟨[], .error (.arguments f)⟩
    | .ok words => w.planWords words

end World

end ExitContract
