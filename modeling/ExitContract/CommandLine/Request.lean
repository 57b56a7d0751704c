import ExitContract.Command
import ExitContract.Options
import ExitContract.Path

/-!
# Requests

What a user asks of the program on its command line.

## Main definitions

* `Request` — the whole request, with an `Action`
* `Execution` — what `run` and `stream` have in common
* `Execution.command`, `Execution.applyTo`, `StreamRequest.applyTo` — the command to run and the
  options to run it with
-/

namespace ExitContract

/-- How results are printed. -/
inductive OutputFormat
  | text
  | json
  deriving DecidableEq, Repr

/-- What a user asks about running a command. -/
structure Execution where
  /-- The message for an unexpected exit code. -/
  message : Option String
  /-- The exit code that counts as success. -/
  expect : Option Int32
  /-- Whether every exit code counts as success. -/
  noExpect : Bool
  /-- The directory to run in. -/
  directory : Option Path
  /-- The variables to set, in the order given. -/
  bindings : List (String × String)
  /-- The command, the executable first. -/
  words : List String
  deriving DecidableEq, Repr

/-- A request to run a command and print its output at the end. -/
structure RunRequest where
  format : OutputFormat
  execution : Execution
  deriving DecidableEq, Repr

/-- A request to run a command and print each line as it comes. -/
structure StreamRequest where
  /-- How many seconds the command may run; zero means no limit. -/
  timeout : Option UInt64
  /-- The exit code that a killed command may have. -/
  killCode : Option Int32
  /-- Whether running into the limit is a failure. -/
  failOnTimeout : Bool
  execution : Execution
  deriving DecidableEq, Repr

/-- A request to print the words of an argument file. -/
structure TokenizeRequest where
  file : Path
  format : OutputFormat
  deriving DecidableEq, Repr

/-- What the program shall do. -/
inductive Action
  | run (request : RunRequest)
  | stream (request : StreamRequest)
  | tokenize (request : TokenizeRequest)
  deriving DecidableEq, Repr

/-- Everything that a user asks. -/
structure Request where
  /-- Whether the program shall say more about its work. -/
  verbose : Bool
  /-- A configuration file to read besides those in the usual places. -/
  config : Option String
  action : Action
  deriving DecidableEq, Repr

namespace Execution

/-- The command to run. -/
def command (e : Execution) : Command := ⟨e.words.headD "", e.words.drop 1⟩

/-- The exit code that counts as success, given the one that does so far. -/
def expectedCode (e : Execution) (configured : Option Int32) : Option Int32 :=
  if e.noExpect then none
  else match e.expect with
    | some code => some code
    | none => configured

/-- What the user asks, on top of other options. -/
def applyTo (e : Execution) (o : Options) : Options :=
  { o with
    errorMessage := e.message.getD o.errorMessage
    expectedCode := e.expectedCode o.expectedCode
    workingDirectory := match e.directory with
      | some d => some d
      | none => o.workingDirectory
    bindings := e.bindings.foldl (fun bs v => Bindings.set bs v.1 v.2) o.bindings }

end Execution

/-- What the user asks, on top of other options. -/
def StreamRequest.applyTo (r : StreamRequest) (o : Options) : Options :=
  let o := r.execution.applyTo o
  { o with
    timeout := match r.timeout with
      | some seconds => .ofSeconds seconds.toNat
      | none => o.timeout
    killCode := r.killCode.getD o.killCode
    failOnTimeout := r.failOnTimeout || o.failOnTimeout }

end ExitContract
