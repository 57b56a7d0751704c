import ExitContract.Duration
import ExitContract.Text.Utf8

/-!
# Options

What a caller may ask of a run besides the command: which exit code counts as success, how long the
command may take, where it runs and with which variables.

## Main definitions

* `Bindings` — variables to set, at most one value for each name
* `Options` — the settings, with `Options.default`
-/

namespace ExitContract

/-- Variables with the values they are set to. -/
abbrev Bindings := List (String × String)

/-- Sets a variable, in place of an earlier value. -/
def Bindings.set (bs : Bindings) (name value : String) : Bindings :=
  if bs.any (·.1 == name) then bs.map fun b => if b.1 == name then (name, value) else b
  else bs ++ [(name, value)]

/-- The value that a variable is set to. -/
def Bindings.get? (bs : Bindings) (name : String) : Option String := List.lookup name bs

/-- The message that starts the report of an unexpected exit code. -/
def defaultErrorMessage : String := "An error has occurred"

/-- The exit code of a child that was killed. -/
def defaultKillCode : Int32 := -9

/-- The settings of a run. -/
structure Options where
  /-- The message that starts the report of an unexpected exit code. -/
  errorMessage : String
  /-- The exit code that counts as success; without one every code does. -/
  expectedCode : Option Int32
  /-- How long a streamed command may run; no time at all means no limit. -/
  timeout : Duration
  /-- The exit code that a streamed command may have in place of the expected one. -/
  killCode : Int32
  /-- Whether running into the limit is a failure. -/
  failOnTimeout : Bool
  /-- The directory that the command runs in. -/
  workingDirectory : Option Bytes
  /-- The variables that the command gets besides the inherited ones. -/
  bindings : Bindings
  deriving DecidableEq, Repr

/-- The settings when nothing is asked for. -/
def Options.default : Options where
  errorMessage := defaultErrorMessage
  expectedCode := some 0
  timeout := .zero
  killCode := defaultKillCode
  failOnTimeout := false
  workingDirectory := none
  bindings := []

instance : Inhabited Options := ⟨Options.default⟩

/-- Whether an exit code is the one asked for. -/
def Options.accepts (o : Options) (code : Int32) : Bool :=
  match o.expectedCode with
  | none => true
  | some expected => code == expected

end ExitContract
