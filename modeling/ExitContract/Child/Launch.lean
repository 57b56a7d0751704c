import ExitContract.Child.Timeline
import ExitContract.Command
import ExitContract.Options
import ExitContract.Shell.Run

/-!
# Launching commands

From a command and its options to what the child does, or why there is none.

## Main definitions

* `World.childDirectory` — the directory that a child runs in
* `World.childEnvironment` — the variables that it gets
* `World.launch` — the child of a command

## Design notes

The output and the error output of a child are one pipe, and its input is empty. A child that is not
found, or that the system refuses, never comes to be; nothing else is told apart here.
-/

namespace ExitContract

namespace World

/-- The directory that a child runs in. -/
def childDirectory (w : World) (o : Options) : Except IoError (List Bytes) :=
  match o.workingDirectory with
  | none => .ok w.directory
  | some d =>
    match w.files.locate w.directory d with
    | .error e => .error e
    | .ok name => if w.files.get? name = some .directory then .ok name else .error .notADirectory

/-- The variables that a child gets: the inherited ones, and those that are asked for. They are put in
order of their names when any is asked for. -/
def childEnvironment (w : World) (o : Options) : List (String × String) :=
  if o.bindings.isEmpty then w.environment.bindings
  else
    let all := o.bindings.foldl (fun (vs : List (String × String)) b =>
      vs.filter (fun v => v.1 != b.1) ++ [b]) w.environment.bindings
    all.mergeSort fun a b => decide (a.1 ≤ b.1)

/-- The longest text that a child can be handed. -/
def maxArgument : Nat := 131071

/-- Whether a text holds a NUL, which no child can be handed. -/
def hasNul (s : String) : Bool := s.toList.contains '\x00'

/-- The program of a command, seen from the directory of the child. When the search path is asked for,
a script without an interpreter that it leads to goes to the shell. -/
def childImage (w : World) (directory : List Bytes) (c : Command) (o : Options) :
    Except IoError Image :=
  let arguments := c.tokens.map Tool.ofText
  let path : Bytes := match List.lookup "PATH" (w.childEnvironment o) with
    | some p => Utf8.encode p
    | none => FileSystem.defaultSearchPath
  let name := Utf8.encode c.executable
  let oversized := (c.tokens ++ (w.childEnvironment o).map fun v => v.1 ++ "=" ++ v.2).any fun s =>
    maxArgument < s.utf8ByteSize
  match w.files.search directory path name arguments with
  | .ok (_, image) => if oversized then .error .argumentsTooLong else .ok image
  | .error .execFormat =>
    if (o.bindings.get? "PATH").isSome && !name.contains Path.slash then
      let found := ((searchPath path).map fun d => if d.isEmpty then name else d.join name).find? fun p =>
        w.files.isExecutable directory p
      match found with
      | some p => .ok ⟨"sh", Tool.chars "/bin/sh" :: Tool.ofBytes p :: arguments.drop 1⟩
      | none => .error .execFormat
    else .error .execFormat
  | .error e => .error e

/-- The state of a child before it becomes its program. -/
def childState (w : World) (directory : List Bytes) (o : Options) : Shell.State where
  files := w.files
  emissions := []
  holds := []
  nextProcess := 1
  nextPipe := 0
  doomed := []
  process := 0
  shell := 0
  now := 0
  zero := []
  line := 0
  positional := []
  bindings := (w.childEnvironment o).map fun v =>
    ⟨Tool.ofText v.1, some (Tool.ofText v.2), true, false⟩
  functions := []
  directory := directory
  channels := [(0, .read .empty), (1, .write .output), (2, .write .output)]
  status := 0
  outputStatus := none
  lastBackground := none
  traps := []
  pending := []
  hidden := []
  jobs := []
  loops := 0
  calls := 0
  options := []
  origin := none

/-- How deep a script may nest, and how many rounds a loop may take. -/
def maxDepth : Nat := 20000

/-- What a program does as the first process of a child. -/
def timelineOf (start : Shell.State) (image : Image) : Timeline :=
  let (st, finish) := Shell.start maxDepth start image
  let stream := st.streamOf .output
  { writes := stream.chunks.map fun c => (c.1, Tool.toBytes c.2)
    endless := stream.endless.map fun c => (c.1, Tool.toBytes c.2)
    closed := stream.closed
    ended := match finish with
      | .exited t code => some (t, .exited code)
      | .killed t signal => some (t, .signalled signal)
      | .never => none }

/-- The child of a command, or why it cannot be. -/
def launch (w : World) (c : Command) (o : Options) : Except IoError Timeline :=
  let texts := c.tokens ++ o.bindings.flatMap fun v => [v.1, v.2]
  if texts.any hasNul || (o.workingDirectory.getD []).contains Path.nul then .error .nulInData
  else
    match w.childDirectory o with
    | .error e => .error e
    | .ok directory =>
      match w.childImage directory c o with
      | .error e => .error e
      | .ok image => .ok (timelineOf (w.childState directory o) image)

end World

end ExitContract
