import ExitContract.Child.Launch
import ExitContract.Program.Run

/-!
# The program

The command line program: it looks at the system, lets `Host.run` work out what comes of the command line,
and writes that down.

**Commands are played.** What a command would do is worked out by `World.launch` on a bare system that has
the files which the command line mentions; nothing is started. The account of the user is not looked up, so
only `HOME` says where the user's files are.

## Main definitions

* `main` — the program
-/

namespace ExitContract

namespace CommandLine

/-- The variables that have a say in a run. -/
def variableNames : List String :=
  ["PATH", "HOME", "LC_ALL", "XDG_CONFIG_HOME", filterVariable, configVariable] ++
    ["DEFAULTS__TIMEOUT", "DEFAULTS__EXPECTED_EXIT_CODE", "DEFAULTS__CHECK_EXIT_CODE",
      "DEFAULTS__ERROR_MESSAGE", "DEFAULTS__KILL_EXIT_CODE", "DEFAULTS__FAIL_ON_TIMEOUT",
      "LOGGING__LEVEL", "LOGGING__FORMAT"].map ("PROCWRAP_" ++ ·)

/-- The files that a word of a command line may mention. -/
def mentionedFiles (word : String) : List String :=
  let cs := word.toList
  [word, String.ofList (cs.drop 1), String.ofList ((cs.dropWhile (· != '=')).drop 1)]

/-- The absolute name that a path spells, seen from a directory. -/
def absoluteName (directory : List Bytes) (p : Path) : List Bytes :=
  p.components.foldl (fun name step =>
    match step with
    | .root => []
    | .current => name
    | .parent => name.dropLast
    | .name n => name ++ [n]) directory

end CommandLine

/-- Puts a file of the system into a tree, if the system has it. -/
def addFile (directory : List Bytes) (files : FileSystem) (p : Path) : IO FileSystem := do
  try
    let contents ← IO.FS.readBinFile p.display
    return files.insertWithParents (CommandLine.absoluteName directory p)
      (.file contents.data.toList false)
  catch _ => return files

/-- What the program can see of the system. -/
def lookAround (args : List String) : IO World := do
  let directory := FileSystem.nameOf (← IO.currentDir).toString
  let entries ← CommandLine.variableNames.filterMapM fun name => do
    return (← IO.getEnv name).map fun value => name ++ "=" ++ value
  let bare : World :=
    { files := FileSystem.bare.insertWithParents directory .directory
      directory := directory
      environment := ⟨entries⟩ }
  let mentioned := (args.flatMap CommandLine.mentionedFiles ++
    (bare.environment.get? CommandLine.configVariable).toList).map Path.ofString
  let files ← (mentioned ++ bare.configPaths).foldlM (addFile directory) bare.files
  return { bare with files := files }

/-- Runs the program and writes down what it leaves behind. -/
def runHere (args : List String) : IO UInt32 := do
  let world ← lookAround args
  let started ← IO.monoMsNow
  let host : Host := { world := world, spawn := world.launch, reader := none, elapsed := 0 }
  match host.run (("procwrap" :: args).map Utf8.encode) with
  | none =>
    IO.eprintln "error: the command does not end"
    return 1
  | some t =>
    let now ← IO.monoMsNow
    IO.print t.output
    for note in t.notes do
      IO.eprint (note.text (toString now) (toString (now - started)))
    return UInt32.ofNat t.status

end ExitContract

/-- The program. -/
def main (args : List String) : IO UInt32 := ExitContract.runHere args
