import ExitContract.IoError
import ExitContract.Path

/-!
# File systems

A tree of named nodes, and what the system answers about a path.

## Main definitions

* `Node`, `FileSystem` — the tree, as a list of absolute names with what they name
* `FileSystem.resolve` — the node that a path leads to, or why it leads nowhere
* `FileSystem.read`, `FileSystem.readText` — the contents of a file
* `FileSystem.bare` — the tree of a system with its programs and nothing else

## Design notes

A name is a list of steps from the root, so two spellings of a path resolve to one name. There are no
links from one name to another. Whatever the system may refuse to hand out, for want of a permission or
because a device fails, is a node with the cause it gives; running a file needs its executable mark.
-/

namespace ExitContract

/-- What a name names. -/
inductive Node
  | directory
  /-- A file, and whether it may be run. -/
  | file (contents : Bytes) (executable : Bool)
  /-- Something that the system does not hand out, and why: whether it is a regular file, and whether
  it may be run. -/
  | unreadable (regular executable : Bool) (cause : IoError)
  /-- The device that is always empty and swallows everything. -/
  | nullDevice
  /-- A program of the system, known by its name. -/
  | program (name : String)
  deriving DecidableEq, Repr

/-- A tree of nodes by their absolute names. The root needs no entry. -/
structure FileSystem where
  entries : List (List Bytes × Node)
  deriving Repr

namespace FileSystem

/-- What an absolute name names. -/
def get? (fs : FileSystem) (name : List Bytes) : Option Node :=
  if name.isEmpty then some .directory else List.lookup name fs.entries

/-- Names a node, in place of an earlier one. -/
def insert (fs : FileSystem) (name : List Bytes) (node : Node) : FileSystem :=
  ⟨(name, node) :: fs.entries.filter fun e => e.1 != name⟩

/-- The names of the directories above a name, the outermost first. -/
def ancestors (name : List Bytes) : List (List Bytes) :=
  (List.range name.length).map name.take

/-- Names a node and every directory above it. -/
def insertWithParents (fs : FileSystem) (name : List Bytes) (node : Node) : FileSystem :=
  ((ancestors name).foldl (fun fs above =>
    if (fs.get? above).isNone then fs.insert above .directory else fs) fs).insert name node

/-- The longest name that a directory can hold. -/
def maxName : Nat := 255

/-- The longest path that the system takes. -/
def maxPath : Nat := 4095

/-- Follows names from a directory. Every step needs a directory to start from. -/
def walk (fs : FileSystem) : List Bytes → List Bytes → Except IoError (List Bytes)
  | here, [] => .ok here
  | here, n :: ns =>
    if fs.get? here ≠ some .directory then .error .notADirectory
    else if n.isEmpty ∨ n = [Path.dot] then walk fs here ns
    else if n = [Path.dot, Path.dot] then walk fs here.dropLast ns
    else if maxName < n.length then .error .nameTooLong
    else if (fs.get? (here ++ [n])).isNone then .error .notFound
    else walk fs (here ++ [n]) ns

/-- The absolute name that a path leads to, seen from a directory. -/
def locate (fs : FileSystem) (directory : List Bytes) (p : Path) : Except IoError (List Bytes) :=
  if p.contains Path.nul then .error .nulInFileName
  else if p.isEmpty then .error .notFound
  else if maxPath < p.length then .error .nameTooLong
  else fs.walk (if p.isAbsolute then [] else directory) p.names

/-- The node that a path leads to, seen from a directory. -/
def resolve (fs : FileSystem) (directory : List Bytes) (p : Path) : Except IoError Node :=
  match fs.locate directory p with
  | .error e => .error e
  | .ok name =>
    match fs.get? name with
    | some node => .ok node
    | none => .error .notFound

/-- The octets that stand for the contents of a program; they are no text. -/
def programImage : Bytes := [0x7F, 0x45, 0x4C, 0x46, 0xFF]

/-- The contents of a file. -/
def read (fs : FileSystem) (directory : List Bytes) (p : Path) : Except IoError Bytes :=
  match fs.resolve directory p with
  | .error e => .error e
  | .ok .directory => .error .isADirectory
  | .ok (.file contents _) => .ok contents
  | .ok (.unreadable _ _ cause) => .error cause
  | .ok .nullDevice => .ok []
  | .ok (.program _) => .ok programImage

/-- The contents of a file as text. -/
def readText (fs : FileSystem) (directory : List Bytes) (p : Path) : Except IoError String :=
  match fs.read directory p with
  | .error e => .error e
  | .ok contents =>
    match Utf8.decode? contents with
    | some text => .ok text
    | none => .error .invalidText

/-- Whether a path leads to a regular file. -/
def isFile (fs : FileSystem) (directory : List Bytes) (p : Path) : Bool :=
  match fs.resolve directory p with
  | .ok (.file ..) | .ok (.program _) => true
  | .ok (.unreadable regular ..) => regular
  | _ => false

/-- Whether a path leads to a regular file that may be run. -/
def isExecutable (fs : FileSystem) (directory : List Bytes) (p : Path) : Bool :=
  match fs.resolve directory p with
  | .ok (.file _ executable) => executable
  | .ok (.unreadable regular executable _) => regular && executable
  | .ok (.program _) => true
  | _ => false

/-- The absolute name that a text with slashes spells. -/
def nameOf (s : String) : List Bytes := (Path.ofString s).names.filter fun n => !n.isEmpty

/-- The names of the programs that a system comes with. -/
def programNames : List String :=
  ["sh", "dash", "echo", "printf", "cat", "sleep", "yes", "true", "false", "tr", "head", "tail",
    "wc", "seq", "env", "printenv", "pwd", "ls", "test", "["]

/-- A system with its programs, its null device and empty directories. -/
def bare : FileSystem :=
  let dirs := ["dev", "etc", "tmp", "root", "usr/local/bin"].map fun d => (nameOf d, Node.directory)
  let tools := programNames.flatMap fun p =>
    [(nameOf ("usr/bin/" ++ p), Node.program p), (nameOf ("bin/" ++ p), Node.program p)]
  ((nameOf "dev/null", Node.nullDevice) :: dirs ++ tools).foldl
    (fun fs e => fs.insertWithParents e.1 e.2) ⟨[]⟩

end FileSystem

end ExitContract
