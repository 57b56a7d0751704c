import ExitContract.Shell.Builtins
import ExitContract.Shell.Fields

/-!
# Processes of a shell

How processes start, end and are waited for, as far as no script has to be run for it.

## Main definitions

* `Shell.State.conclude` — the end of a process
* `Shell.State.await` — a child that the shell waits for
* `Shell.State.perform` — a process that is a tool of the system
* `Shell.State.breakPipes` — the signal to those that write to nobody
* `Shell.State.shellStart` — a process that becomes a shell
-/

namespace ExitContract

namespace Shell

namespace State

/-- How long it takes until a child that runs beside its parent does something. -/
def startDelay : Nat := 1000

/-- The first signal that another process sent to this one. -/
def doom? (st : State) : Option (Nat × Nat) :=
  (st.doomed.filter fun d => d.1 == st.process).foldl (fun best d =>
    match best with
    | some (t, s) => if d.2.1 < t then some d.2 else some (t, s)
    | none => some d.2) none

/-- The end of a process: it lets go of what it kept open. A signal that reached it before comes
first. -/
def conclude (st : State) (finish : Finish) : State × Finish :=
  let sinks := st.sinks
  let early : Option (Nat × Nat) := match st.doom?, finish.time? with
    | some (t, s), some t' => if t < t' then some (t, s) else none
    | some d, none => some d
    | none, _ => none
  match early with
  | some (t, s) =>
    ((st.release st.process sinks (some t)).cutProcess st.process t, .killed t s)
  | none => (st.release st.process sinks finish.time?, finish)

/-- A child that the shell waits for has ended, or never does. -/
def await (st : State) (finish : Finish) : State × Flow :=
  let (st, flow) : State × Flow := match finish with
    | .never => (st, .ended .never)
    | .exited t code => ({ st with now := max st.now t, status := code }, .next)
    | .killed t signal =>
      let st := { st with now := max st.now t, status := 128 + signal }
      (st.mourn finish, .next)
  match st.doom? with
  | some (t, signal) =>
    if t ≤ st.now then
      ({ st with doomed := st.doomed.filter fun d => d.1 != st.process }).raise signal
    else (st, flow)
  | none => (st, flow)

/-- A process does what a tool does. -/
def perform (st : State) (run : Tool.Run) : State × Finish :=
  let sinkOf (d : Nat) : Sink := match List.lookup d st.channels with
    | some (.write s) => s
    | _ => .nowhere
  let st := run.writes.foldl (fun st (t, d, s) => st.emit st.process t (sinkOf d) s false) st
  let st := match run.endless with
    | some (t, d, s) => st.emit st.process t (sinkOf d) s true
    | none => st
  st.conclude (match run.finish with
    | some (t, code) => .exited t code
    | none => .never)

/-- What a tool of the system is started with. -/
def call (st : State) (args : List Str) : Tool.Call :=
  ⟨args, st.environment, st.files, st.directory, st.input, st.now⟩

/-! ### Pipelines -/

/-- A process of a pipeline, with the pipe that it writes to. -/
structure Stage where
  process : Nat
  finish : Finish
  pipe : Option Sink

/-- When a process next writes to a pipe that nobody reads from an instant on. -/
def writesAfter? (st : State) (pipe : Sink) (instant : Nat) : Option Nat :=
  (inOrder (st.emissions.filter fun e => e.sink == pipe)).findSome? fun e =>
    if e.endless then some (max instant e.time)
    else if instant < e.time then some e.time
    else none

/-- The ends of the processes of a pipeline, when whoever writes to a pipe after its reader has gone is
ended for it. -/
def breakPipes (st : State) : List Stage → State × List Finish
  | [] => (st, [])
  | s :: rest =>
    let (st, later) := breakPipes st rest
    let broken : Option Nat := match s.pipe, later.head?.bind Finish.time? with
      | some pipe, some instant => st.writesAfter? pipe instant
      | _, _ => none
    match broken with
    | some t => (st.cutProcess s.process t, .killed t 13 :: later)
    | none => (st, s.finish :: later)

/-- Waits for the processes of a pipeline, of which the last one gives the status. -/
def awaitAll (st : State) (stages : List Stage) : State × Flow :=
  let (st, finishes) := st.breakPipes stages
  let st := stages.foldl (fun st s => match s.pipe with
    | some pipe => st.forget pipe
    | none => st) st
  match finishes.foldl (fun t f => later t f.time?) (some st.now), finishes.getLast? with
  | some t, some finish => { st with now := t }.await finish
  | none, _ => (st, .ended .never)
  | _, none => (st, .next)

/-! ### New programs -/

/-- The wording of an error when a program is run. -/
def runReason : IoError → String
  | .notFound => "not found"
  | .notADirectory => "not found"
  | e => Tool.reason e

/-- The status of a command that cannot be run. -/
def runStatus : IoError → Nat
  | .notFound | .notADirectory | .nameTooLong => 127
  | _ => 126

/-- The paths that a command may stand for. -/
def candidates (st : State) (name : Bytes) : List Path :=
  if name.contains Path.slash then [name]
  else (ExitContract.searchPath st.searchPath).map fun d => if d.isEmpty then name else d.join name

/-- The path and the text of a script that a shell reads into itself, or why there is none. -/
def findScript (st : State) (file : Str) : Except Str (Str × Str) :=
  let name := Tool.toBytes file
  let readable := (st.candidates name).findSome? fun p =>
    (st.files.read st.directory p).toOption.map fun text => (Tool.ofBytes p, Tool.ofBytes text)
  match readable with
  | some found => .ok found
  | none =>
    if name.contains Path.slash then
      match st.files.read st.directory name with
      | .error e => .error (Tool.chars "cannot open " ++ file ++ Tool.chars (": " ++ openReason e))
      | .ok contents => .ok (file, Tool.ofBytes contents)
    else .error (file ++ Tool.chars ": not found")

/-- The text of a script that names no interpreter. -/
def scriptText? (st : State) (name : Bytes) : Option (Path × Str) :=
  (st.candidates name).findSome? fun p =>
    if st.files.isExecutable st.directory p then
      match st.files.read st.directory p with
      | .ok contents => some (p, Tool.ofBytes contents)
      | .error _ => none
    else none

/-- A process becomes a shell: of the variables, those with proper names stay. -/
def shellStart (st : State) (zero : Str) (positional : List Str) (options : Str) : State :=
  let st := { st with
    bindings := (st.bindings.filter fun (v : Variable) =>
      v.exported && v.value.isSome && isName v.name).map fun (v : Variable) => { v with constant := false }
    zero := zero, positional := positional, options := options, functions := []
    traps := st.traps.filter fun t => t.2.isEmpty && t.1 != 0
    shell := st.process, line := 0, status := 0, jobs := [], pending := [], hidden := []
    loops := 0, calls := 0
    lastBackground := none, outputStatus := none, origin := none }
  let st := (st.set "PWD".toList (Tool.pathOf st.directory)).modify "PWD".toList
    fun v => { v with exported := true }
  st.modify "IFS".toList fun v => { v with value := some [' ', '\t', '\n'], exported := false }

/-- What a shell is asked to run. -/
inductive Source
  | text (script : Str)
  | file (path : Str)
  /-- What comes in. -/
  | input
  /-- It cannot be made out. -/
  | wrong (message : String)

/-- What the arguments of a shell ask for: the options, the script, and the parameters. -/
def shellArguments (zero : Str) (args : List Str) : Str × Source × Str × List Str :=
  match optionWords ['c', 'l'] [] args with
  | .error name => ([], .wrong ("Illegal option -" ++ String.ofList name), zero, [])
  | .ok (letters, rest) =>
    let rest := rest.getD []
    let options := letters.filter fun c => c != 'c' && c != 'l'
    if letters.contains 'c' then
      match rest with
      | [] => (options, .wrong "-c requires an argument", zero, [])
      | [script] => (options, .text script, zero, [])
      | script :: name :: args => (options, .text script, name, args)
    else if letters.contains 's' then (options, .input, zero, rest)
    else
      match rest with
      | [] => ('s' :: options, .input, zero, [])
      | file :: args => (options, .file file, file, args)

/-- What the arguments of `env` ask for: the variables to drop, or all, those to set, and the command. -/
def envArguments (st : State) : List Str → State × List Str
  | ['-', 'i'] :: rest => envArguments { st with bindings := [] } rest
  | ['-'] :: rest => envArguments { st with bindings := [] } rest
  | ['-', 'u'] :: name :: rest =>
    envArguments { st with bindings := st.bindings.filter fun v => v.name != name } rest
  | ['-', '-'] :: rest => settings st rest
  | rest => settings st rest
where
  settings (st : State) : List Str → State × List Str
    | [] => (st, [])
    | word :: rest =>
      match splitSetting word with
      | (name, some value) =>
        settings (st.modify name fun v => { v with value := some value, exported := true }) rest
      | (_, none) => (st, word :: rest)

end State

end Shell

end ExitContract
