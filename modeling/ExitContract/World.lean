import ExitContract.FileSystem

/-!
# The surroundings of a program

What a program can see when it starts: the files, the directory it is in, its variables and the account
that it runs for.

The entries of an environment are texts: one that is none is not seen here.

## Main definitions

* `Environment` — variables as the entries that a program is handed
* `World` — the surroundings
-/

namespace ExitContract

/-- The entries `NAME=value` that a program is handed. -/
structure Environment where
  entries : List String
  deriving DecidableEq, Repr

namespace Environment

/-- What is left of a list after another that starts it. -/
def dropStart? : List Char → List Char → Option (List Char)
  | [], rest => some rest
  | _, [] => none
  | c :: cs, d :: ds => if c = d then dropStart? cs ds else none

/-- The value of a variable: what follows its name and an equals sign in the first entry that starts
with them. -/
def get? (env : Environment) (name : String) : Option String :=
  if name.isEmpty then none
  else env.entries.findSome? fun e => (dropStart? (name.toList ++ ['=']) e.toList).map String.ofList

/-- An entry as a name and a value. The name ends before the first equals sign that is not its first
character. -/
def split? (entry : String) : Option (String × String) :=
  match entry.toList with
  | [] => none
  | c :: cs =>
    let name := cs.takeWhile (· != '=')
    match cs.dropWhile (· != '=') with
    | [] => none
    | _ :: value => some (String.ofList (c :: name), String.ofList value)

/-- All variables with their values, in the order of the entries. -/
def bindings (env : Environment) : List (String × String) := env.entries.filterMap split?

/-- The entries with a variable set. -/
def set (env : Environment) (name value : String) : Environment :=
  let entry := name ++ "=" ++ value
  if env.entries.any fun e => (split? e).map (·.1) == some name then
    ⟨env.entries.map fun e => if (split? e).map (·.1) == some name then entry else e⟩
  else ⟨env.entries ++ [entry]⟩

/-- The entries without a variable. -/
def unset (env : Environment) (name : String) : Environment :=
  ⟨env.entries.filter fun e => (split? e).map (·.1) != some name⟩

end Environment

/-- What a program can see when it starts. -/
structure World where
  files : FileSystem
  /-- The absolute name of the directory that the program is in. -/
  directory : List Bytes
  environment : Environment
  /-- The directory that the account of the user names, if there is an account with one. -/
  account : Option String := none

namespace World

/-- The path of the directory that the program is in. -/
def directoryPath (w : World) : Path := Path.slash :: [Path.slash].intercalate w.directory

/-- The directory of the user: the one that `HOME` names, or else that of the account. -/
def home (w : World) : Option String :=
  match w.environment.get? "HOME" with
  | some h => if h.isEmpty then w.account else some h
  | none => w.account

end World

end ExitContract
