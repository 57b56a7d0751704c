import ExitContract.Child.Tools
import ExitContract.ExitStatus
import ExitContract.Shell.Grammar

/-!
# The state of a shell process

What a shell keeps while it runs a script, and what it and its children have done so far.

Every process has a clock of its own. Commands take no time, and only waiting does; a child that runs
beside its parent is followed to its end at once, from the instant at which it was started. What
processes write is collected with its instants and put in order afterwards.

## Main definitions

* `Shell.State` — the state
* `Shell.Flow` — how a command leaves its shell
* `Shell.State.write` — writing on a descriptor
* `Shell.State.streamOf` — what came through a pipe
-/

namespace ExitContract

namespace Shell

/-- Where written octets go. -/
inductive Sink
  /-- The output of the child that the shell is. -/
  | output
  /-- Nowhere. -/
  | nowhere
  /-- A pipe within the script. -/
  | pipe (id : Nat)
  | file (name : List Bytes)
  deriving DecidableEq, Repr

/-- What a descriptor is open for. -/
inductive Channel
  | write (sink : Sink)
  | read (stream : Stream)
  deriving DecidableEq, Repr

/-- Octets that a process wrote. -/
structure Emission where
  time : Nat
  process : Nat
  sink : Sink
  text : Str
  /-- Whether they come again and again from then on. -/
  endless : Bool
  deriving Repr

/-- How long a process kept something open for writing. -/
structure Hold where
  sink : Sink
  process : Nat
  /-- When it let go; never, if it did not. -/
  released : Option Nat
  deriving Repr

/-- A variable. -/
structure Variable where
  name : Str
  value : Option Str
  exported : Bool
  constant : Bool
  deriving Repr

/-- How a process ended. -/
inductive Finish
  | exited (time code : Nat)
  | killed (time signal : Nat)
  | never
  deriving DecidableEq, Repr

/-- When a process ended. -/
def Finish.time? : Finish → Option Nat
  | .exited t _ => some t
  | .killed t _ => some t
  | .never => none

/-- The status that a shell sees of a process that ended. -/
def Finish.status : Finish → Nat
  | .exited _ code => code
  | .killed _ signal => 128 + signal
  | .never => 0

/-- A child that runs beside its parent. -/
structure Job where
  process : Nat
  finish : Finish
  deriving Repr

/-- The state of a shell process. -/
structure State where
  files : FileSystem
  /-- What processes wrote, the latest first. -/
  emissions : List Emission
  holds : List Hold
  nextProcess : Nat
  nextPipe : Nat
  /-- Processes that another one ends: their numbers, when, and by which signal. -/
  doomed : List (Nat × Nat × Nat)
  /-- The number of this process, and of the shell that it is a part of. -/
  process : Nat
  shell : Nat
  now : Nat
  zero : Str
  line : Nat
  positional : List Str
  bindings : List Variable
  functions : List (Str × Statement)
  directory : List Bytes
  channels : List (Nat × Channel)
  status : Nat
  /-- The status of the last script whose output was taken, since a command began. -/
  outputStatus : Option Nat
  lastBackground : Option Nat
  /-- What to do on signals; zero stands for the end of the shell. -/
  traps : List (Nat × Str)
  /-- Signals that came and have handlers that did not run yet. -/
  pending : List Nat
  /-- The variables that the running function hides, as they were before. -/
  hidden : List (Str × Option Variable)
  jobs : List Job
  /-- How many loops are running, one inside the other, and how many functions. -/
  loops : Nat
  calls : Nat
  /-- The options that are set, by their letters. -/
  options : Str
  /-- The command or the file that gave the text that is run, if it is not the script itself. -/
  origin : Option Str

/-- How a command leaves its shell. -/
inductive Flow
  /-- The next command comes. -/
  | next
  /-- So many loops are left. -/
  | leave (loops : Nat)
  /-- So many loops start their next round, the inner ones being left. -/
  | again (loops : Nat)
  | back
  /-- The shell ends with its status. -/
  | exit
  /-- The process has ended, as another program or by a signal. -/
  | ended (finish : Finish)
  deriving Repr

namespace State

/-! ### Variables -/

/-- A variable of a name. -/
def binding? (st : State) (name : Str) : Option Variable := st.bindings.find? (·.name == name)

/-- The value of a variable. -/
def get? (st : State) (name : Str) : Option Str := (st.binding? name).bind (·.value)

/-- Changes the variable of a name. -/
def modify (st : State) (name : Str) (f : Variable → Variable) : State :=
  if st.bindings.any (·.name == name) then
    { st with bindings := st.bindings.map fun v => if v.name == name then f v else v }
  else { st with bindings := st.bindings ++ [f ⟨name, none, false, false⟩] }

/-- Sets a variable. -/
def set (st : State) (name value : Str) : State :=
  st.modify name fun v => { v with value := some value, exported := v.exported || st.options.contains 'a' }

/-- Gives variables back what they were before. -/
def restore (st : State) (hidden : List (Str × Option Variable)) : State :=
  { st with
    bindings := hidden.foldl (fun vs h =>
      vs.filter (fun v => v.name != h.1) ++ h.2.toList) st.bindings }

/-- The variables that children get. -/
def environment (st : State) : List (Str × Str) :=
  st.bindings.filterMap fun v => if v.exported then v.value.map fun x => (v.name, x) else none

/-! ### Writing -/

/-- The sinks that a process keeps open. -/
def sinks (st : State) : List Sink :=
  st.channels.filterMap fun (_, c) => match c with
    | .write s => some s
    | .read _ => none

/-- Writes octets to a sink. -/
def emit (st : State) (process time : Nat) (sink : Sink) (text : Str) (endless : Bool) : State :=
  match sink with
  | .nowhere => st
  | .file name =>
    match st.files.get? name with
    | some (.file contents executable) =>
      { st with files := st.files.insert name (.file (contents ++ Tool.toBytes text) executable) }
    | _ => st
  | sink => { st with emissions := ⟨time, process, sink, text, endless⟩ :: st.emissions }

/-- Writes octets on a descriptor, if it is open for writing. -/
def write? (st : State) (descriptor : Nat) (text : Str) : Option State :=
  match List.lookup descriptor st.channels with
  | some (.write sink) => some (if text.isEmpty then st else st.emit st.process st.now sink text false)
  | _ => none

/-- Writes octets on a descriptor. -/
def write (st : State) (descriptor : Nat) (text : Str) : State := (st.write? descriptor text).getD st

/-- Complains on the descriptor for complaints. -/
def complain (st : State) (message : Str) : State :=
  st.write 2 (st.zero ++ ": ".toList ++ (toString st.line).toList ++ ": ".toList ++ message ++ ['\n'])

/-- Complains in the name of a command and sets the status. -/
def fail (st : State) (status : Nat) (message : Str) : State :=
  { st.complain message with status := status }

/-- Complains about the text that is run and sets the status. -/
def failHere (st : State) (status : Nat) (message : Str) : State :=
  st.fail status (match st.origin with
    | some name => name ++ ':' :: ' ' :: message
    | none => message)

/-- Shows a command before it is run, if that is asked for. -/
def trace (st : State) (text : Str) : State :=
  if st.options.contains 'x' then st.write 2 ('+' :: ' ' :: text ++ ['\n']) else st

/-- Lets go of everything that a process kept open, at an instant. -/
def release (st : State) (process : Nat) (sinks : List Sink) (instant : Option Nat) : State :=
  { st with holds := (sinks.eraseDups.map fun s => ⟨s, process, instant⟩) ++ st.holds }

/-- Opens a descriptor for something. -/
def attach (st : State) (descriptor : Nat) (c : Channel) : State :=
  { st with channels := (descriptor, c) :: st.channels.filter fun p => p.1 != descriptor }

/-- Closes a descriptor. -/
def detach (st : State) (descriptor : Nat) : State :=
  { st with channels := st.channels.filter fun p => p.1 != descriptor }

/-- What comes in on the first descriptor. -/
def input (st : State) : Stream :=
  match List.lookup 0 st.channels with
  | some (.read s) => s
  | _ => .empty

/-! ### Children -/

/-- The state of a new child. Handlers are not passed on, but what is ignored stays so. -/
def child (st : State) : State :=
  { st with
    process := st.nextProcess, nextProcess := st.nextProcess + 1, jobs := [], pending := [], loops := 0
    traps := st.traps.filter fun t => t.2.isEmpty && t.1 != 0 }

/-- What a parent knows of the doings of its child. -/
def adopt (parent child : State) : State :=
  { parent with
    files := child.files, emissions := child.emissions, holds := child.holds
    nextProcess := child.nextProcess, nextPipe := child.nextPipe, doomed := child.doomed }

/-- Takes back what a process did after an instant. -/
def cutProcess (st : State) (process instant : Nat) : State :=
  { st with
    emissions := st.emissions.filter fun e => e.process != process || decide (e.time ≤ instant)
    holds := st.holds.map fun h =>
      if h.process == process then
        { h with released := some (match h.released with | some t => min t instant | none => instant) }
      else h }

/-! ### Pipes -/

/-- Emissions in order of their instants. -/
def inOrder (es : List Emission) : List Emission := es.reverse.mergeSort fun a b => a.time ≤ b.time

/-- The later of two instants, either of which may never come. -/
def later (a b : Option Nat) : Option Nat :=
  match a, b with
  | some x, some y => some (max x y)
  | _, _ => none

/-- What came through a sink, and when it was closed. -/
def streamOf (st : State) (sink : Sink) : Stream :=
  let es := inOrder (st.emissions.filter fun e => e.sink == sink)
  let finite := es.filter fun e => !e.endless
  let endless := es.find? (·.endless)
  { chunks := (match endless with
      | none => finite
      | some e => finite.filter fun f => f.time ≤ e.time).map fun (e : Emission) => (e.time, e.text)
    endless := endless.map fun e => (e.time, e.text)
    closed := (st.holds.filter fun h => h.sink == sink).foldl (fun t h => later t h.released) (some 0) }

/-- Forgets what went through a sink. -/
def forget (st : State) (sink : Sink) : State :=
  { st with
    emissions := st.emissions.filter fun e => e.sink != sink
    holds := st.holds.filter fun h => h.sink != sink }

/-- A new pipe. -/
def newPipe (st : State) : State × Sink := ({ st with nextPipe := st.nextPipe + 1 }, .pipe st.nextPipe)

end State

/-! ### Signals -/

/-- The names of signals with their numbers. -/
def signals : List (String × Nat) :=
  [("HUP", 1), ("INT", 2), ("QUIT", 3), ("ILL", 4), ("TRAP", 5), ("ABRT", 6), ("BUS", 7), ("FPE", 8),
    ("KILL", 9), ("USR1", 10), ("SEGV", 11), ("USR2", 12), ("PIPE", 13), ("ALRM", 14), ("TERM", 15),
    ("STKFLT", 16), ("CHLD", 17), ("CONT", 18), ("STOP", 19), ("TSTP", 20), ("TTIN", 21),
    ("TTOU", 22), ("URG", 23), ("XCPU", 24), ("XFSZ", 25), ("VTALRM", 26), ("PROF", 27),
    ("WINCH", 28), ("POLL", 29), ("PWR", 30), ("SYS", 31)]

/-- The number that digits spell. -/
def numberOf? (s : Str) : Option Nat :=
  if s.isEmpty || !s.all Char.isDigit then none else some (Format.digitsValue 10 s)

/-- The signal of a name or a number; zero is the end of the shell. -/
def signalOf? (s : Str) : Option Nat :=
  match numberOf? s with
  | some n => if n ≤ 64 then some n else none
  | none =>
    let name := String.ofList (s.map Char.toUpper)
    if name = "EXIT" then some 0 else List.lookup name signals

/-- Signals that do nothing to a process that does not ask for them. -/
def harmless (signal : Nat) : Bool :=
  signal == 0 || signal == 17 || signal == 18 || signal == 23 || signal == 28

/-- Signals that stop a process until another one makes it go on. -/
def stops (signal : Nat) : Bool := signal == 19 || signal == 20 || signal == 21 || signal == 22

/-- What a shell says about a child that a signal ended. -/
def obituary (signal : Nat) : String :=
  match signal with
  | 1 => "Hangup"
  | 3 => "Quit"
  | 4 => "Illegal instruction"
  | 5 => "Trace/breakpoint trap"
  | 6 => "Aborted"
  | 7 => "Bus error"
  | 8 => "Floating point exception"
  | 9 => "Killed"
  | 10 => "User defined signal 1"
  | 11 => "Segmentation fault"
  | 12 => "User defined signal 2"
  | 14 => "Alarm clock"
  | 15 => "Terminated"
  | 2 => ""
  | 13 => ""
  | n => "Signal " ++ toString n

end Shell

end ExitContract
