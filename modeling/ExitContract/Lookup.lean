import ExitContract.World

/-!
# Looking programs up

Which file a bare program name stands for, as a user would look for it.

## Main definitions

* `searchPath` — the directories that a `PATH` value lists
* `World.knowsProgram` — whether a name leads to a program that could be run
-/

namespace ExitContract

/-- The octet that separates the directories of a `PATH` value. -/
def pathSeparator : UInt8 := 58

/-- The directories of a `PATH` value, empty ones included. -/
def searchPath : Bytes → List Path
  | [] => [[]]
  | b :: bs =>
    if b = pathSeparator then [] :: searchPath bs
    else match searchPath bs with
      | [] => [[b]]
      | p :: ps => (b :: p) :: ps

namespace World

/-- A path whose first step is a tilde starts at the user's directory, if there is one. -/
def expandTilde (w : World) (p : Path) : Path :=
  match p.components, w.home with
  | .name [126] :: rest, some home =>
    rest.foldl (fun p c => p.join (Path.ofComponents [c])) (Path.ofString home)
  | _, _ => p

/-- Whether a name leads to a program that could be run. A name of several steps is looked up from
the directory of the program, and any other one in the directories of `PATH`. -/
def knowsProgram (w : World) (executable : String) : Bool :=
  let name := Path.ofString executable
  let found (p : Path) : Bool := w.files.isExecutable w.directory p
  if 1 < name.components.length then
    found (if name.isAbsolute then name else Path.ofComponents name.components)
  else
    match w.environment.get? "PATH" with
    | none => false
    | some dirs => (searchPath (Utf8.encode dirs)).any fun d => found ((w.expandTilde d).join name)

end World

end ExitContract
