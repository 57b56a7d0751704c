import ExitContract.Options

/-!
# Configuration

What a user can settle once for all runs.

## Main definitions

* `Config` — the settings, with `Config.default`
* `Defaults.missing`, `LogSettings.missing` — the fields that a table leaves out
* `Config.options` — the options of a run that they amount to
-/

namespace ExitContract

/-- How log records are written. -/
inductive LogFormat
  /-- One line for a human reader. -/
  | compact
  /-- One JSON object to a line. -/
  | json
  deriving DecidableEq, Inhabited, Repr

/-- The name of a log format. -/
def LogFormat.name : LogFormat → String
  | .compact => "compact"
  | .json => "json"

/-- Settings that every run starts from. -/
structure Defaults where
  /-- How many seconds a streamed command may run; zero means no limit. -/
  timeout : UInt64
  /-- The exit code that counts as success. -/
  expectedCode : Int32
  /-- Whether the exit code matters. -/
  checkCode : Bool
  /-- The message that starts the report of an unexpected exit code. -/
  errorMessage : String
  /-- The exit code that a killed command may have. -/
  killCode : Int32
  /-- Whether running into the limit is a failure. -/
  failOnTimeout : Bool
  deriving DecidableEq, Repr

/-- Settings for the log. -/
structure LogSettings where
  /-- How grave an event must be to be written. -/
  level : String
  format : LogFormat
  deriving DecidableEq, Repr

/-- What a user can settle once for all runs. -/
structure Config where
  defaults : Defaults
  logging : LogSettings
  deriving DecidableEq, Repr

/-- The settings of a user who settled nothing. -/
def Defaults.default : Defaults where
  timeout := 0
  expectedCode := 0
  checkCode := true
  errorMessage := defaultErrorMessage
  killCode := defaultKillCode
  failOnTimeout := false

/-- The log settings of a user who settled nothing. -/
def LogSettings.default : LogSettings where
  level := "info"
  format := .compact

/-- What the fields are that a table of settings leaves out, each by itself. -/
def Defaults.missing : Defaults where
  timeout := Inhabited.default
  expectedCode := Inhabited.default
  checkCode := true
  errorMessage := defaultErrorMessage
  killCode := defaultKillCode
  failOnTimeout := Inhabited.default

/-- What the fields are that a table of settings for the log leaves out, each by itself. -/
def LogSettings.missing : LogSettings where
  level := "info"
  format := Inhabited.default

/-- The configuration of a user who settled nothing. -/
def Config.default : Config where
  defaults := .default
  logging := .default

/-- The options of a run that the settings amount to. -/
def Config.options (c : Config) : Options :=
  { Options.default with
    timeout := .ofSeconds c.defaults.timeout.toNat
    expectedCode := if c.defaults.checkCode then some c.defaults.expectedCode else none
    errorMessage := c.defaults.errorMessage
    killCode := c.defaults.killCode
    failOnTimeout := c.defaults.failOnTimeout }

end ExitContract
