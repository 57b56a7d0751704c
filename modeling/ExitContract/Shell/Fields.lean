import ExitContract.Shell.Pattern
import ExitContract.Shell.State

/-!
# Fields

From the characters that a word expands to, to the arguments that a command gets.

## Main definitions

* `Shell.Glyph` — an expanded character, with what may still happen to it
* `Shell.splitFields` — cutting at the characters of `IFS`
* `Shell.State.filesMatching` — the file names that a field stands for
-/

namespace ExitContract

namespace Shell

/-- An expanded character, with what may still happen to it. -/
inductive Glyph
  /-- A character: whether it has lost its meaning, and whether fields may be cut at it. -/
  | char (c : Char) (quoted split : Bool)
  /-- The border between two positional parameters. -/
  | border
  /-- Quotes with nothing between them. -/
  | hollow
  deriving DecidableEq, Repr

/-- Glyphs of characters. -/
def glyphs (quoted split : Bool) (s : Str) : List Glyph := s.map fun c => .char c quoted split

/-- The text of glyphs, in which borders are spaces. -/
def glyphText (gs : List Glyph) : Str :=
  gs.flatMap fun g => match g with
    | .char c _ _ => [c]
    | .border => [' ']
    | .hollow => []

/-- The characters of glyphs, each with a flag that says whether it has its meaning. -/
def glyphMarks (gs : List Glyph) : List (Char × Bool) :=
  gs.flatMap fun g => match g with
    | .char c quoted _ => [(c, !quoted)]
    | .border => [(' ', false)]
    | .hollow => []

/-- A field: its characters with their flags. -/
abbrev Field := List (Char × Bool)

/-- Cuts glyphs into fields. `begun` says whether a field has begun, whose characters `acc` holds, the
last one first; `afterBlank` says whether a blank has just ended one. -/
def splitFields (ifs : Str) (acc : Field) (begun afterBlank : Bool) : List Glyph → List Field
  | [] => if begun then [acc.reverse] else []
  | .border :: gs =>
    (if begun then [acc.reverse] else []) ++ splitFields ifs [] false false gs
  | .hollow :: gs => splitFields ifs acc true false gs
  | .char c quoted split :: gs =>
    if split && !quoted && ifs.contains c then
      if c == ' ' || c == '\t' || c == '\n' then
        if begun then acc.reverse :: splitFields ifs [] false true gs
        else splitFields ifs [] false afterBlank gs
      else if begun || !afterBlank then acc.reverse :: splitFields ifs [] false false gs
      else splitFields ifs [] false false gs
    else splitFields ifs ((c, !quoted) :: acc) true false gs

/-- Whether a field has characters that make it a pattern. -/
def isPattern (f : Field) : Bool := f.any fun (c, active) => active && (c == '*' || c == '?' || c == '[')

/-- The text of a field. -/
def fieldText (f : Field) : Str := f.map (·.1)

/-- Cuts a field at its slashes. -/
def cutSlashes : Field → List Field
  | [] => [[]]
  | (c, a) :: f =>
    if c = '/' then [] :: cutSlashes f
    else match cutSlashes f with
      | [] => [[(c, a)]]
      | g :: gs => ((c, a) :: g) :: gs

/-- The ways below a directory that match patterns step by step; `spelled` is how the directory was
reached. -/
def matchSteps (st : State) (directory : List Bytes) (spelled : Str) : List Field → List Str
  | [] => []
  | [f] =>
    if isPattern f then
      let p := Pattern.ofMarked f
      ((Tool.namesIn st.files directory).filter fun n =>
        Pattern.accepts p n && (n.head? != some '.' || (f.head?.map (·.1)) == some '.')).map
          (spelled ++ ·)
    else if f.isEmpty then [spelled]
    else if (st.files.get? (directory ++ [Tool.toBytes (fieldText f)])).isSome then
      [spelled ++ fieldText f]
    else []
  | f :: rest =>
    let into (n : Str) : List Str :=
      if n.isEmpty then matchSteps st directory (spelled ++ ['/']) rest
      else if st.files.get? (directory ++ [Tool.toBytes n]) = some .directory then
        matchSteps st (directory ++ [Tool.toBytes n]) (spelled ++ n ++ ['/']) rest
      else []
    if isPattern f then
      let p := Pattern.ofMarked f
      ((Tool.namesIn st.files directory).filter fun n =>
        Pattern.accepts p n && (n.head? != some '.' || (f.head?.map (·.1)) == some '.')).flatMap into
    else into (fieldText f)

/-- The file names that a field stands for: itself, if it is no pattern or matches nothing. -/
def State.filesMatching (st : State) (f : Field) : List Str :=
  if !isPattern f || st.options.contains 'f' then [fieldText f]
  else
    let found := match cutSlashes f with
      | [] :: rest => matchSteps st [] ['/'] rest
      | steps => matchSteps st st.directory [] steps
    if found.isEmpty then [fieldText f] else found

/-- The characters that fields are cut at. -/
def State.separators (st : State) : Str := (st.get? "IFS".toList).getD [' ', '\t', '\n']

/-- The arguments that glyphs make. -/
def State.arguments (st : State) (gs : List Glyph) : List Str :=
  (splitFields st.separators [] false false gs).flatMap st.filesMatching

end Shell

end ExitContract
