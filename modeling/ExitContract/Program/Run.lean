import ExitContract.LineStream.Session
import ExitContract.Program.Note
import ExitContract.Program.Plan
import ExitContract.Program.Printing

/-!
# Runs of the program

From a command line to everything that the program leaves behind.

**Children are given.** What a command would do is a function that the caller passes in, so nothing here
depends on how a system runs one.

**Output and notes stay apart.** The output of a run and its status come from the task alone. Notes are
what the log and the user's wish for more words add to it. Each has a reader of its own, who may stop
taking it, and that is where the two meet: a program that cannot get rid of its output, or of a note that
it insists on, stops in the middle.

**Three layers.** A task is done, then its output is handed over, and then the notes are. So what doing a
task comes to does not depend on the readers, but for the lines of a stream, which are handed over while
the command runs.

## Main definitions

* `Host` — what a run of the program meets
* `Transcript` — what it leaves behind
* `Doing` — what doing a task comes to
* `Host.perform` — doing a task
* `Host.print`, `Host.transcribe`, `Host.heed` — handing over the output and the notes
* `Host.run` — the whole program
-/

namespace ExitContract

/-- What a run of the program meets. -/
structure Host where
  world : World
  /-- What a command does, or why it cannot be started. -/
  spawn : Command → Options → Except IoError Timeline
  /-- How many lines of the output are taken before nobody takes any more, if that happens. -/
  reader : Option Nat
  /-- Why the output is not taken any more. -/
  refusal : IoError := .brokenPipe
  /-- How many notes are taken before nobody takes any more, if that happens. -/
  listener : Option Nat := none
  /-- What the clock of the system shows when a command was started. -/
  reading : Int := 0
  /-- How many milliseconds a command takes, as the clock shows. -/
  elapsed : Nat

/-- What a run of the program leaves behind. -/
structure Transcript where
  /-- The exit status that others see. -/
  status : Nat
  output : String
  notes : List Note
  deriving DecidableEq, Repr

/-- The exit status that others see for an exit code: its low byte. -/
def hostStatus (code : Int32) : Nat := (code.toInt % 256).toNat

/-- The exit code of a run that met no configuration. -/
def troubleCode : Int32 := 1

/-- The exit code of a run that stopped in the middle. -/
def brokenCode : Int32 := 101

/-- What doing a task comes to. -/
structure Doing where
  code : Int32
  output : String
  /-- How the output is handed over. -/
  means : Means := .lines
  /-- The events before the output is. -/
  log : List Event
  /-- The events after it was. -/
  report : List Event := []
  /-- The remark of a run that shall say more. -/
  remark : Option Note := none
  /-- The last words of a run that cannot go on. -/
  lastWords : Option Note := none
  deriving DecidableEq, Repr

/-- All events. -/
def Doing.events (d : Doing) : List Event := d.log ++ d.report

namespace Host

/-- The events of a failure that is reported. -/
def reportEvents (h : Host) (f : Failure) : List Event := (f.report h.world).map (.error .failures)

/-- A failure ends a task: it is reported, and its exit code is that of the program. -/
def fail (h : Host) (f : Failure) (output : String) (log : List Event) : Doing where
  code := f.exitCode
  output := output
  log := log
  report := h.reportEvents f

/-- A run to the end that came to a result. -/
def showRun (h : Host) (format : OutputFormat) (x : Logged (Except Failure Completion)) : Doing :=
  match x.result, format with
  | .ok r, .text =>
    { code := 0, output := r.output, means := .flushed, log := x.log,
      remark := some (.finished r.command) }
  | .ok r, .json =>
    { code := 0, output := (r.document h.elapsed).printed, log := x.log,
      remark := some (.finished r.command) }
  | .error f, .text => h.fail f "" x.log
  | .error f, .json => h.fail f (f.info h.world).document.printed x.log

/-- How printing the lines of a stream ended. -/
inductive Pumped
  /-- There were no more. -/
  | finished
  | failed (failure : Failure)
  /-- Nobody reads them any more. -/
  | unread
  /-- It does not end. -/
  | never
  deriving DecidableEq, Repr

/-- Prints the lines of a stream as long as somebody reads them: the stream, the lines that were
printed, and how it ended. -/
def pump (fuel : Nat) (reader : Option Nat) (s : Session) : Session × List String × Pumped :=
  match fuel with
  | 0 => (s, [], .never)
  | fuel + 1 =>
    match s.next none with
    | (s, .answer (.line text)) =>
      if reader = some 0 then (s, [], .unread)
      else
        let (s, lines, ended) := pump fuel (reader.map (· - 1)) s
        (s, text :: lines, ended)
    | (s, .answer .finished) => (s, [], .finished)
    | (s, .answer (.failed f)) => (s, [], .failed f)
    | (s, .pending) => (s, [], .never)
    | (s, .never) => (s, [], .never)

/-- How often lines may be asked for: for all that can come, and for one more than are read. -/
def pumpFuel (reader : Option Nat) (s : Session) : Nat := s.linesAhead + reader.getD 0 + 2

/-- Prints the lines of a stream that was opened, unless they never end. -/
def showStream (h : Host) (s : Session) : Option Doing :=
  let (s, lines, ended) := pump (pumpFuel h.reader s) h.reader s
  let output := printedLines lines
  let remark (code : Option Int32) : Option Note :=
    some (.exited s.stream.killed s.stream.command code)
  let done : Doing := { code := 0, output := output, means := .streamed, log := s.log }
  match ended with
  | .finished => some { done with remark := remark s.stream.exitCode }
  | .failed f => some { h.fail f output s.log with means := .streamed }
  | .unread =>
    let stopping := Event.debug .program ("stdout closed, stopping " ++ s.stream.command)
    some { done with log := s.log ++ [stopping], remark := remark none }
  | .never => none

/-- A task that stops in the middle. -/
def stop (reason output : String) (log : List Event) : Doing where
  code := brokenCode
  output := output
  log := log
  lastWords := some (.broken reason)

/-- Does a task, unless that never ends. -/
def perform (h : Host) : Task → Option Doing
  | .run c o format =>
    (Outcome.of? (h.spawn c o)).map fun child => h.showRun format (capture c o child)
  | .stream c o =>
    let opening := Session.openAt h.reading c o (h.spawn c o)
    match opening.result with
    | .failed f => some (h.fail f "" opening.log)
    | .beyondClock => some (stop "overflow when adding duration to instant" "" opening.log)
    | .opened s => h.showStream s
  | .tokenize file format =>
    match h.world.readArguments file with
    | .error f => some (h.fail f "" [])
    | .ok words => some { code := 0, output := printedWords format words, log := [] }

/-- Hands over the output of a task that was done. If some of it is not taken, that is the end of the
task: the program says so and fails if it only shows at the flush, and stops in the middle otherwise. -/
def print (h : Host) (d : Doing) : Doing :=
  let taken := Taken.within h.reader d.output
  if d.means = .streamed || taken.whole then d
  else if d.means = .flushed && taken.late then
    { code := troubleCode, output := taken.text, log := d.log,
      lastWords := some (.trouble h.refusal.message) }
  else stop ("failed printing to stdout: " ++ h.refusal.message) taken.text d.log

/-- What a task that was done leaves behind if all of its notes are taken. -/
def transcribe (h : Host) (verbose : Bool) (l : LogSettings) (d : Doing) : Transcript where
  status := hostStatus d.code
  output := d.output
  notes := h.world.records l d.events ++ (if verbose then d.remark.toList else []) ++
    d.lastWords.toList

/-- Whether all notes are taken that the program insists on. -/
def hears (h : Host) (notes : List Note) : Bool :=
  h.listener.all fun room => !(notes.drop room).any Note.insistent

/-- Hands over the notes of a run. The program stops in the middle where it insists in vain. -/
def heed (h : Host) (t : Transcript) : Transcript where
  status := if h.hears t.notes then t.status else hostStatus brokenCode
  output := t.output
  notes := match h.listener with
    | none => t.notes
    | some room => t.notes.take room

/-- What the program leaves behind when it has nothing to do, if all of its notes are taken. What it says
about itself is not missed if nobody takes it. -/
def refuse (h : Host) : Obstacle → Transcript
  | .arguments f => h.transcribe false .default (h.fail f "" [])
  | .configuration e => ⟨hostStatus troubleCode, "", [.trouble e.fullMessage]⟩
  | .usage (.displayVersion scope) =>
    let name := if scope = .root then "procwrap" else "procwrap-" ++ scope.name
    ⟨0, (Taken.within h.reader (name ++ " 0.1.0\n")).text, []⟩
  | .usage .displayHelp => ⟨0, (Taken.within h.reader usageText).text, []⟩
  | .usage stop => ⟨hostStatus stop.exitCode, "", [.usage stop]⟩

/-- Runs the program on a command line, of which the first word is its own name. -/
def run (h : Host) (line : List Bytes) : Option Transcript :=
  match (h.world.plan line).result with
  | .error o => some (h.heed (h.refuse o))
  | .ok p => (h.perform p.task).map fun d => h.heed (h.transcribe p.verbose p.logging (h.print d))

end Host

end ExitContract
