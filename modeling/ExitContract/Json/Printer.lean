import ExitContract.Json.Value

/-!
# Writing JSON

The two layouts of JSON text: everything on one line, and one item to a line.

## Main definitions

* `Json.compact` — one line without blanks
* `Json.pretty` — one item to a line, two spaces deeper for each level

## Design notes

Fields are written in the order in which an object holds them.
-/

namespace ExitContract

namespace Json

/-- A hexadecimal digit in lower case. -/
def hexChar (n : Nat) : Char := if n < 10 then Char.ofNat (48 + n) else Char.ofNat (87 + n)

/-- A character inside a string: quotes, backslashes and control characters are escaped. -/
def escapeChar (c : Char) : List Char :=
  if c = '"' then ['\\', '"']
  else if c = '\\' then ['\\', '\\']
  else if c = '\n' then ['\\', 'n']
  else if c = '\r' then ['\\', 'r']
  else if c = '\t' then ['\\', 't']
  else if c = '\x08' then ['\\', 'b']
  else if c = '\x0c' then ['\\', 'f']
  else if c.toNat < 0x20 then
    ['\\', 'u', '0', '0', hexChar (c.toNat / 16), hexChar (c.toNat % 16)]
  else [c]

/-- A string in quotes. -/
def quoted (s : String) : List Char := '"' :: (s.toList.flatMap escapeChar ++ ['"'])

/-- The text of a value that holds no other. -/
def atom : Json → List Char
  | .null => "null".toList
  | .boolean b => (if b then "true" else "false").toList
  | .natural n => (toString n).toList
  | .negative n => '-' :: (toString (n + 1)).toList
  | .real x => x.pointed.toList
  | .text s => quoted s
  | .list _ => "[]".toList
  | .object _ => ['{', '}']

mutual

/-- A value on one line. -/
def compactChars : Json → List Char
  | .list items => '[' :: (compactItems items ++ [']'])
  | .object fields => '{' :: (compactFields fields ++ ['}'])
  | j => atom j

/-- Items with commas between them. -/
def compactItems : List Json → List Char
  | [] => []
  | [j] => compactChars j
  | j :: js => compactChars j ++ ',' :: compactItems js

/-- Fields with commas between them. -/
def compactFields : List (String × Json) → List Char
  | [] => []
  | [(name, j)] => quoted name ++ ':' :: compactChars j
  | (name, j) :: fields => quoted name ++ ':' :: (compactChars j ++ ',' :: compactFields fields)

end

/-- A value on one line. -/
def compact (j : Json) : String := String.ofList (compactChars j)

/-- A new line at a level. -/
def newline (level : Nat) : List Char := '\n' :: List.replicate (2 * level) ' '

mutual

/-- A value with one item to a line. -/
def prettyChars (level : Nat) : Json → List Char
  | .list [] => ['[', ']']
  | .list (j :: js) =>
    '[' :: (newline (level + 1) ++ prettyChars (level + 1) j ++ prettyItems (level + 1) js ++
      newline level ++ [']'])
  | .object [] => ['{', '}']
  | .object ((name, j) :: fields) =>
    '{' :: (newline (level + 1) ++ quoted name ++ ':' :: ' ' :: prettyChars (level + 1) j ++
      prettyFields (level + 1) fields ++ newline level ++ ['}'])
  | j => atom j

/-- Items on lines of their own, after another one. -/
def prettyItems (level : Nat) : List Json → List Char
  | [] => []
  | j :: js => ',' :: (newline level ++ prettyChars level j ++ prettyItems level js)

/-- Fields on lines of their own, after another one. -/
def prettyFields (level : Nat) : List (String × Json) → List Char
  | [] => []
  | (name, j) :: fields =>
    ',' :: (newline level ++ quoted name ++ ':' :: ' ' :: prettyChars level j ++
      prettyFields level fields)

end

/-- A value with one item to a line. -/
def pretty (j : Json) : String := String.ofList (prettyChars 0 j)

end Json

end ExitContract
