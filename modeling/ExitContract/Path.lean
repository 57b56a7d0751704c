import ExitContract.Text.Utf8

/-!
# Paths

A path is a run of octets in which slashes separate names. Nothing here looks at a file system.

## Main definitions

* `Path` — the type, with `Path.ofString` and `Path.display`
* `Path.join` — a path continued by another
* `Path.components` — the names that a path leads through
* `Path.relativeTo` — the way from one path to another
-/

namespace ExitContract

/-- A path as the system takes it. -/
abbrev Path := Bytes

namespace Path

/-- The octet that separates names. -/
def slash : UInt8 := 47

/-- The octet of a dot. -/
def dot : UInt8 := 46

/-- The octet that no path and no argument may hold. -/
def nul : UInt8 := 0

/-- The path that a text names. -/
def ofString (s : String) : Path := Utf8.encode s

/-- The text shown for a path. -/
def display (p : Path) : String := Utf8.decodeLossy p

/-- The runs of octets between slashes, empty ones included. -/
def names : Path → List Bytes
  | [] => [[]]
  | b :: bs =>
    if b = slash then [] :: names bs
    else match names bs with
      | [] => [[b]]
      | name :: rest => (b :: name) :: rest

/-- Whether a path starts at the root. -/
def isAbsolute (p : Path) : Bool := p.head? == some slash

/-- The path `q` seen from `p`: `q` itself if it is absolute, else `p` with `q` appended, a slash
between them unless `p` ends with one. -/
def join (p q : Path) : Path :=
  if q.isAbsolute then q
  else if p.isEmpty || p.getLast? == some slash then p ++ q
  else p ++ slash :: q

/-- One step of a path. -/
inductive Component
  | root
  | current
  | parent
  | name (n : Bytes)
  deriving DecidableEq, Repr

/-- The steps of a path: repeated slashes count once, and a dot counts only as the first step of a
relative path. -/
def components (p : Path) : List Component :=
  let steps := p.names.filterMap fun n =>
    if n.isEmpty ∨ n = [dot] then none
    else if n = [dot, dot] then some .parent
    else some (.name n)
  if p.isAbsolute then .root :: steps
  else if p.names.head? = some [dot] then .current :: steps
  else steps

/-- A path made of steps, with a slash between each two names. -/
def ofComponents (cs : List Component) : Path :=
  cs.foldl (fun p c =>
    match c with
    | .root => [slash]
    | .current => p.join [dot]
    | .parent => p.join [dot, dot]
    | .name n => p.join n) []

/-- The steps from the directory `base` to `target`: past their common start, one step up for each
that is left of `base` and then what is left of `target`. There is no way from a relative path to an
absolute one or past an unknown parent. -/
def stepsFrom : List Component → List Component → Option (List Component)
  | [], target => some target
  | base, [] =>
    if base.contains .parent then none else some (base.map fun _ => .parent)
  | b :: base, t :: target =>
    if b = t then stepsFrom base target
    else if (b :: base).contains .parent then none
    else some ((b :: base).map (fun _ => .parent) ++ t :: target)

/-- The path from the directory `base` to `target`. -/
def relativeTo (target base : Path) : Option Path :=
  if target.isAbsolute != base.isAbsolute then
    if target.isAbsolute then some target else none
  else (stepsFrom base.components target.components).map ofComponents

end Path

end ExitContract
