/-!
# System errors

Why the system refused something, and its wording.

## Main definitions

* `IoError` — the causes, with `IoError.message` and `IoError.kind`
* `SignalError` — why a signal was not delivered
-/

namespace ExitContract

/-- The classes of system errors that a reader of an error may tell apart. -/
inductive IoErrorKind
  | notFound
  | permissionDenied
  | invalidInput
  | brokenPipe
  | other
  deriving DecidableEq, Repr

/-- Why the system refused something. -/
inductive IoError
  | notFound
  | argumentsTooLong
  | execFormat
  | permissionDenied
  | notADirectory
  | isADirectory
  | noSpace
  | brokenPipe
  | nameTooLong
  /-- A text was wanted and the octets are not one. -/
  | invalidText
  /-- The name of a file holds a NUL. -/
  | nulInFileName
  /-- A command, an argument or a variable holds a NUL. -/
  | nulInData
  /-- An error that a caller describes. -/
  | described (kind : IoErrorKind) (text : String)
  deriving DecidableEq, Repr

namespace IoError

/-- The class of a system error. -/
def kind : IoError → IoErrorKind
  | .notFound => .notFound
  | .permissionDenied => .permissionDenied
  | .brokenPipe => .brokenPipe
  | .nulInFileName | .nulInData => .invalidInput
  | .described kind _ => kind
  | _ => .other

/-- A message with the system's number for it. -/
def numbered (text : String) (number : Nat) : String :=
  text ++ " (os error " ++ toString number ++ ")"

/-- The wording of a system error. -/
def message : IoError → String
  | .notFound => numbered "No such file or directory" 2
  | .argumentsTooLong => numbered "Argument list too long" 7
  | .execFormat => numbered "Exec format error" 8
  | .permissionDenied => numbered "Permission denied" 13
  | .notADirectory => numbered "Not a directory" 20
  | .isADirectory => numbered "Is a directory" 21
  | .noSpace => numbered "No space left on device" 28
  | .brokenPipe => numbered "Broken pipe" 32
  | .nameTooLong => numbered "File name too long" 36
  | .invalidText => "stream did not contain valid UTF-8"
  | .nulInFileName => "file name contained an unexpected NUL byte"
  | .nulInData => "nul byte found in provided data"
  | .described _ text => text

end IoError

/-- Why the system did not deliver a signal. -/
inductive SignalError
  /-- Who is to get it belongs to somebody else. -/
  | notPermitted
  /-- There is nobody to get it. -/
  | noProcess
  deriving DecidableEq, Repr

namespace SignalError

/-- What the system says of a signal that was not delivered. -/
def text : SignalError → String
  | .notPermitted => "Operation not permitted"
  | .noProcess => "No such process"

/-- The name of the system's error. -/
def label : SignalError → String
  | .notPermitted => "EPERM"
  | .noProcess => "ESRCH"

/-- The system's number for the error. -/
def number : SignalError → Nat
  | .notPermitted => 1
  | .noProcess => 3

/-- The wording for a signal to a group. -/
def groupMessage (e : SignalError) : String := e.label ++ ": " ++ e.text

/-- The wording for a signal to one process. -/
def message (e : SignalError) : String := IoError.numbered e.text e.number

end SignalError

end ExitContract
