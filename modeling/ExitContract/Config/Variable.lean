import ExitContract.Binary64
import ExitContract.CommandLine.Parser
import ExitContract.Config.Value
import ExitContract.Text.Letter
import ExitContract.Toml.Reader

/-!
# Settings in variables

A variable whose name starts with `PROCWRAP_`, in any letter case, is a setting. The rest of its name,
in lower case, is the way to it, with a step at each pair of underscores. Its value is read as a truth
value, a number, a quoted text, a list in brackets or a table in braces, and as a plain text if
nothing else fits.

## Main definitions

* `Variable.path?` — the way that a name spells
* `Variable.read` — the setting that a value denotes
* `Environment.settings` — all settings of the variables
-/

namespace ExitContract

namespace Variable

/-! ### Names -/

/-- The start of the names that are settings. -/
def marker : List Char := "procwrap_".toList

/-- Cuts at each pair of underscores and at each dot. -/
def steps : List Char → List (List Char)
  | [] => [[]]
  | '.' :: cs => [] :: steps cs
  | '_' :: '_' :: cs => [] :: steps cs
  | c :: cs =>
    match steps cs with
    | [] => [[c]]
    | s :: ss => (c :: s) :: ss

/-- The way that a name spells, if it is that of a setting. Blanks around the name and around what
follows the marker do not count. No step may be empty. -/
def path? (name : String) : Option (List String) :=
  let name := (trimBlanks name.toList).map Char.toLower
  match Environment.dropStart? marker name with
  | none => none
  | some rest =>
    let ss := steps (trimBlanks rest)
    if ss.any List.isEmpty then none else some (ss.map String.ofList)

/-! ### Values -/

/-- Blanks around values. -/
def isGap (c : Char) : Bool := c == ' ' || c == '\t' || c == '\n' || c == '\x0c' || c == '\r'

/-- Skips blanks. -/
def skipGaps (cs : List Char) : List Char := cs.dropWhile isGap

/-- The characters that end a plain value. -/
def isMark (c : Char) : Bool := c == ',' || c == '{' || c == '}' || c == '[' || c == ']'

/-- The characters of a key without quotes. -/
def isKeyChar (c : Char) : Bool := c.isAlphanum || c == '_' || c == '-'

/-- A setting of the environment. -/
def scalar (s : Scalar) : Setting := .scalar .environment s

/-- The setting that a plain text denotes. -/
def plain (cs : List Char) : Setting :=
  let cs := trimBlanks cs
  let text := String.ofList cs
  let whole : Setting :=
    match readNatural CommandLine.maxUInt64 cs with
    | .ok n => scalar (.unsigned n)
    | .error _ =>
      match readInteger CommandLine.maxInt64 cs with
      | .ok n => scalar (.signed n)
      | .error _ => scalar (.text text)
  if cs.contains '.' then
    match Binary64.read? text with
    | some x => scalar (.real x)
    | none => whole
  else whole

/-- The start of a text that has as many octets as the text has characters. -/
def shortened (cs : List Char) : List Char :=
  Utf8.decodeLossyChars ((Utf8.encodeChars cs).take cs.length)

/-- The rest of a text in double quotes, written as in a TOML document. If something in it is escaped,
what stands before the first escape is shortened. -/
def readQuoted? (cs : List Char) : Option (String × List Char) :=
  (Toml.readBasic? (cs.length + 1) [] cs).map fun (s, rest) =>
    let inside := cs.take (cs.length - rest.length - 1)
    let plain := inside.takeWhile (· != '\\')
    if plain.length = inside.length then (s, rest)
    else (String.ofList (shortened plain ++ s.toList.drop plain.length), rest)

/-- The key of a table entry. -/
def readKey? (cs : List Char) : Option (String × List Char) :=
  match cs with
  | '"' :: rest => readQuoted? rest
  | cs =>
    let key := cs.takeWhile isKeyChar
    if key.isEmpty then none else some (String.ofList key, cs.dropWhile isKeyChar)

mutual

/-- A value with the blanks around it. -/
def readValue? (fuel : Nat) (cs : List Char) : Option (Setting × List Char) :=
  match fuel with
  | 0 => none
  | fuel + 1 =>
    let word (w : String) (b : Bool) (cs : List Char) : Option (Setting × List Char) :=
      (Environment.dropStart? w.toList cs).map fun rest => (scalar (.boolean b), rest)
    let cs := skipGaps cs
    let found : Option (Setting × List Char) :=
      match word "true" true cs, word "false" false cs with
      | some r, _ => some r
      | none, some r => some r
      | none, none =>
        match cs with
        | '{' :: rest =>
          (readEntries? fuel rest).map fun (es, rest) => (.table .environment (Keyed.ofList es), rest)
        | '[' :: rest => (readItems? fuel rest).map fun (vs, rest) => (.list .environment vs, rest)
        | '"' :: rest =>
          (readQuoted? rest).map fun (s, rest) => (scalar (.text s), rest)
        | '\'' :: c :: '\'' :: rest => some (scalar (.character c), rest)
        | '\'' :: _ => none
        | cs => some (plain (cs.takeWhile fun c => !isMark c), cs.dropWhile fun c => !isMark c)
    found.map fun (v, rest) => (v, skipGaps rest)

/-- The items of a list and its closing bracket; a comma may stand after the last one. -/
def readItems? (fuel : Nat) (cs : List Char) : Option (List Setting × List Char) :=
  match fuel with
  | 0 => none
  | fuel + 1 =>
    match cs with
    | ']' :: rest => some ([], rest)
    | cs =>
      match readValue? fuel cs with
      | none => none
      | some (v, ',' :: rest) => (readItems? fuel rest).map fun (vs, rest) => (v :: vs, rest)
      | some (v, ']' :: rest) => some ([v], rest)
      | some _ => none

/-- The entries of a table and its closing brace; a comma may stand after the last one. -/
def readEntries? (fuel : Nat) (cs : List Char) : Option (List (String × Setting) × List Char) :=
  match fuel with
  | 0 => none
  | fuel + 1 =>
    match cs with
    | '}' :: rest => some ([], rest)
    | cs =>
      match readKey? (skipGaps cs) with
      | none => none
      | some (key, rest) =>
        match skipGaps rest with
        | '=' :: rest =>
          match readValue? fuel rest with
          | none => none
          | some (v, ',' :: rest) =>
            (readEntries? fuel rest).map fun (es, rest) => ((key, v) :: es, rest)
          | some (v, '}' :: rest) => some ([(key, v)], rest)
          | some _ => none
        | _ => none

end

/-- The setting that a value denotes. -/
def read (value : String) : Setting :=
  let cs := value.toList
  match readValue? (2 * cs.length + 2) cs with
  | some (v, []) => v
  | _ => scalar (.text value)

/-- A setting below steps. -/
def nest (path : List String) (v : Setting) : Setting :=
  path.foldr (fun key v => .table .environment [(key, v)]) v

end Variable

/-- The settings that the variables make, later ones on top of earlier ones. -/
def Environment.settings (env : Environment) : Setting :=
  env.bindings.foldl (fun acc (name, value) =>
    match Variable.path? name with
    | none => acc
    | some path => acc.overlay (Variable.nest path (Variable.read value))) (.table .environment [])

end ExitContract
