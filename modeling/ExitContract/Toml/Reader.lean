import ExitContract.Json.Reader
import ExitContract.Toml.Value

/-!
# Reading TOML

A reader of TOML text by recursive descent over characters.

## Main definitions

* `Toml.readDocument?` — the statements of a text
* `Toml.parse?` — the entries of the table that a text denotes, if it is TOML

## Design notes

Each function takes the rest of the text and gives back what it leaves of it. The length of the text
is the fuel of the descent. A document may nest values and chain names only up to a fixed depth, so
the functions that read values count how deep they are.
-/

namespace ExitContract

namespace Toml

/-- The depth that neither the arrays and inline tables around a value nor the names of a key may
reach. -/
def depthLimit : Nat := 80

/-! ### Blanks and comments -/

/-- A blank within a line. -/
def isBlankChar (c : Char) : Bool := c == ' ' || c == '\t'

/-- Skips blanks within a line. -/
def skipBlanks (cs : List Char) : List Char := cs.dropWhile isBlankChar

/-- Reads the end of a line. -/
def readNewline? : List Char → Option (List Char)
  | '\n' :: rest => some rest
  | '\r' :: '\n' :: rest => some rest
  | _ => none

/-- Characters that no text of a document may hold as they are: controls other than the tab. -/
def isForbidden (c : Char) : Bool := (c.toNat < 0x20 && c != '\t') || c.toNat == 0x7F

/-- Skips a comment, if there is one. -/
def skipComment : List Char → List Char
  | '#' :: rest => rest.dropWhile fun c => !isForbidden c
  | cs => cs

/-- Skips blanks, comments and ends of lines. -/
def skipLines : Nat → List Char → List Char
  | 0, cs => cs
  | fuel + 1, cs =>
    let cs := skipComment (skipBlanks cs)
    match readNewline? cs with
    | some rest => skipLines fuel rest
    | none => cs

/-! ### Strings -/

/-- Reads `n` hexadecimal digits after the number `acc`. -/
def readHex? : Nat → Nat → List Char → Option (Nat × List Char)
  | 0, acc, cs => some (acc, cs)
  | n + 1, acc, c :: cs =>
    match Json.hexDigit? c with
    | some d => readHex? n (acc * 16 + d) cs
    | none => none
  | _ + 1, _, [] => none

/-- The character with a code, if there is one. -/
def charOf? (n : Nat) : Option Char := if n.isValidChar then some (Char.ofNat n) else none

/-- An escaped character, after the backslash. -/
def readEscape? : List Char → Option (Char × List Char)
  | 'b' :: rest => some ('\x08', rest)
  | 't' :: rest => some ('\t', rest)
  | 'n' :: rest => some ('\n', rest)
  | 'f' :: rest => some ('\x0c', rest)
  | 'r' :: rest => some ('\r', rest)
  | '"' :: rest => some ('"', rest)
  | '\\' :: rest => some ('\\', rest)
  | 'u' :: rest => do
    let (n, rest) ← readHex? 4 0 rest
    return (← charOf? n, rest)
  | 'U' :: rest => do
    let (n, rest) ← readHex? 8 0 rest
    return (← charOf? n, rest)
  | _ => none

/-- The rest of a string between double quotes. -/
def readBasic? : Nat → List Char → List Char → Option (String × List Char)
  | 0, _, _ => none
  | _, _, [] => none
  | _, acc, '"' :: rest => some (String.ofList acc.reverse, rest)
  | fuel + 1, acc, '\\' :: rest =>
    match readEscape? rest with
    | some (c, rest) => readBasic? fuel (c :: acc) rest
    | none => none
  | fuel + 1, acc, c :: rest => if isForbidden c then none else readBasic? fuel (c :: acc) rest

/-- The rest of a string between single quotes, where nothing is escaped. -/
def readLiteral? : Nat → List Char → List Char → Option (String × List Char)
  | 0, _, _ => none
  | _, _, [] => none
  | _, acc, '\'' :: rest => some (String.ofList acc.reverse, rest)
  | fuel + 1, acc, c :: rest => if isForbidden c then none else readLiteral? fuel (c :: acc) rest

/-- Skips the end of a line and every blank and end of line after it, if only blanks come before. -/
def skipContinuation? (cs : List Char) : Option (List Char) :=
  (readNewline? (skipBlanks cs)).map fun rest => skipMore rest.length rest
where
  skipMore : Nat → List Char → List Char
    | 0, cs => cs
    | fuel + 1, cs =>
      let cs := skipBlanks cs
      match readNewline? cs with
      | some rest => skipMore fuel rest
      | none => cs

/-- The end of a string of several lines at a run of quotes: three of them close it, and up to two
before those belong to it. -/
def closeRun (quote : Char) (acc cs : List Char) : Option (String × List Char) :=
  let run := (cs.takeWhile (· == quote)).length
  if run < 3 then none
  else
    let kept := min (run - 3) 2
    some (String.ofList (acc.reverse ++ List.replicate kept quote), cs.drop (kept + 3))

/-- The rest of a string of several lines between triple double quotes. -/
def readLongBasic? : Nat → List Char → List Char → Option (String × List Char)
  | 0, _, _ => none
  | _, _, [] => none
  | fuel + 1, acc, '"' :: rest =>
    match closeRun '"' acc ('"' :: rest) with
    | some r => some r
    | none => readLongBasic? fuel ('"' :: acc) rest
  | fuel + 1, acc, '\\' :: rest =>
    match readEscape? rest with
    | some (c, rest) => readLongBasic? fuel (c :: acc) rest
    | none =>
      match skipContinuation? rest with
      | some rest => readLongBasic? fuel acc rest
      | none => none
  | fuel + 1, acc, c :: rest =>
    match readNewline? (c :: rest) with
    | some rest => readLongBasic? fuel ('\n' :: acc) rest
    | none => if isForbidden c then none else readLongBasic? fuel (c :: acc) rest

/-- The rest of a string of several lines between triple single quotes. -/
def readLongLiteral? : Nat → List Char → List Char → Option (String × List Char)
  | 0, _, _ => none
  | _, _, [] => none
  | fuel + 1, acc, '\'' :: rest =>
    match closeRun '\'' acc ('\'' :: rest) with
    | some r => some r
    | none => readLongLiteral? fuel ('\'' :: acc) rest
  | fuel + 1, acc, c :: rest =>
    match readNewline? (c :: rest) with
    | some rest => readLongLiteral? fuel ('\n' :: acc) rest
    | none => if isForbidden c then none else readLongLiteral? fuel (c :: acc) rest

/-- Skips the end of a line, if there is one. -/
def skipNewline (cs : List Char) : List Char := (readNewline? cs).getD cs

/-- A string of any form. -/
def readString? (cs : List Char) : Option (String × List Char) :=
  let fuel := cs.length + 1
  match cs with
  | '"' :: '"' :: '"' :: rest => readLongBasic? fuel [] (skipNewline rest)
  | '"' :: rest => readBasic? fuel [] rest
  | '\'' :: '\'' :: '\'' :: rest => readLongLiteral? fuel [] (skipNewline rest)
  | '\'' :: rest => readLiteral? fuel [] rest
  | _ => none

/-! ### Keys -/

/-- The characters of a key without quotes. -/
def isBareKeyChar (c : Char) : Bool := c.isAlphanum || c == '_' || c == '-'

/-- One name of a key. -/
def readName? (cs : List Char) : Option (String × List Char) :=
  match cs with
  | '"' :: rest => readBasic? (rest.length + 1) [] rest
  | '\'' :: rest => readLiteral? (rest.length + 1) [] rest
  | cs =>
    let name := cs.takeWhile isBareKeyChar
    if name.isEmpty then none else some (String.ofList name, cs.dropWhile isBareKeyChar)

/-- Names with dots between them. -/
def readNames? : Nat → List Char → Option (List String × List Char)
  | 0, _ => none
  | fuel + 1, cs =>
    match readName? (skipBlanks cs) with
    | none => none
    | some (name, rest) =>
      match skipBlanks rest with
      | '.' :: rest => (readNames? fuel rest).map fun (names, rest) => (name :: names, rest)
      | rest => some ([name], rest)

/-- The names of a key. -/
def readKey? (cs : List Char) : Option (List String × List Char) :=
  (readNames? (cs.length + 1) cs).filter fun (names, _) => names.length < depthLimit

/-! ### Numbers and moments -/

/-- Whether every underscore in a run of digits stands between two digits. -/
def wellSpaced : List Char → Bool
  | [] => false
  | ['_'] => false
  | [_] => true
  | '_' :: _ => false
  | _ :: '_' :: rest => wellSpaced rest
  | _ :: d :: rest => wellSpaced (d :: rest)

/-- A run of digits, without the underscores in it. -/
def readDigits? (isDigit : Char → Bool) (cs : List Char) : Option (List Char × List Char) :=
  let inRun (c : Char) : Bool := isDigit c || c == '_'
  let run := cs.takeWhile inRun
  if wellSpaced run then some (run.filter (· != '_'), cs.dropWhile inRun) else none

/-- The largest integer of a document. -/
def maxInteger : Nat := 0x7fffffffffffffff

/-- An integer in the range of a document. -/
def integer? (negative : Bool) (n : Nat) : Option Value :=
  if negative then if n ≤ maxInteger + 1 then some (.integer (-(n : Int))) else none
  else if n ≤ maxInteger then some (.integer n) else none

/-- An integer of a base, after its mark. -/
def readBased? (base : Nat) (cs : List Char) : Option (Value × List Char) := do
  let isDigit (c : Char) : Bool := match Json.hexDigit? c with
    | some d => d < base
    | none => false
  let (ds, rest) ← readDigits? isDigit cs
  let n := ds.foldl (fun n c => n * base + (Json.hexDigit? c).getD 0) 0
  return (← integer? false n, rest)

/-- An exponent, after its letter. -/
def readExponent? (cs : List Char) : Option (Int × List Char) :=
  match cs with
  | '-' :: cs => (readDigits? Char.isDigit cs).map fun (ds, rest) =>
    (-(Binary64.digitsValue ds : Int), rest)
  | '+' :: cs => (readDigits? Char.isDigit cs).map fun (ds, rest) =>
    ((Binary64.digitsValue ds : Int), rest)
  | cs => (readDigits? Char.isDigit cs).map fun (ds, rest) => ((Binary64.digitsValue ds : Int), rest)

/-- A floating-point number, unless it is beyond all of them. -/
def real? (negative : Bool) (digits : Nat) (exponent : Int) : Option Value :=
  match Binary64.ofDecimal negative digits exponent with
  | .infinite false => none
  | x => some (.real x)

/-- What comes after the whole part of a decimal number. -/
def readFraction? (negative : Bool) (whole cs : List Char) : Option (Value × List Char) :=
  let withExponent (fraction rest : List Char) : Option (Value × List Char) := do
    let (e, rest) ← match rest with
      | 'e' :: rest => readExponent? rest
      | 'E' :: rest => readExponent? rest
      | rest => some (0, rest)
    let digits := Binary64.digitsValue (whole ++ fraction)
    return (← real? negative digits (e - (fraction.length : Int)), rest)
  match cs with
  | '.' :: rest => (readDigits? Char.isDigit rest).bind fun (fs, rest) => withExponent fs rest
  | 'e' :: _ => withExponent [] cs
  | 'E' :: _ => withExponent [] cs
  | rest => (integer? negative (Binary64.digitsValue whole)).map fun v => (v, rest)

/-- A number after its sign. -/
def readUnsigned? (negative : Bool) (cs : List Char) : Option (Value × List Char) :=
  match cs with
  | 'i' :: 'n' :: 'f' :: rest => some (.real (.infinite negative), rest)
  | 'n' :: 'a' :: 'n' :: rest => some (.real .nan, rest)
  | cs => do
    let (ds, rest) ← readDigits? Char.isDigit cs
    if 1 < ds.length ∧ ds.head? = some '0' then none else readFraction? negative ds rest

/-- A number. -/
def readNumber? (cs : List Char) : Option (Value × List Char) :=
  match cs with
  | '0' :: 'x' :: rest => readBased? 16 rest
  | '0' :: 'o' :: rest => readBased? 8 rest
  | '0' :: 'b' :: rest => readBased? 2 rest
  | '-' :: rest => readUnsigned? true rest
  | '+' :: rest => readUnsigned? false rest
  | cs => readUnsigned? false cs

/-- Two digits that make a number of a range. -/
def readTwo? (least greatest : Nat) : List Char → Option (Nat × List Char)
  | a :: b :: rest =>
    let n := Binary64.digitsValue [a, b]
    if a.isDigit && b.isDigit && decide (least ≤ n) && decide (n ≤ greatest) then some (n, rest)
    else none
  | _ => none

/-- One expected character. -/
def readMark? (mark : Char) : List Char → Option (List Char)
  | c :: rest => if c = mark then some rest else none
  | [] => none

/-- A time of day; its seconds may have a fraction. -/
def readTime? (cs : List Char) : Option (List Char) := do
  let (_, cs) ← readTwo? 0 23 cs
  let cs ← readMark? ':' cs
  let (_, cs) ← readTwo? 0 59 cs
  let cs ← readMark? ':' cs
  let (_, cs) ← readTwo? 0 60 cs
  match cs with
  | '.' :: rest =>
    let (fs, rest) := Binary64.spanDigits rest
    if fs.isEmpty then none else some rest
  | cs => some cs

/-- The difference of a time from universal time, if there is one. -/
def readOffset? (cs : List Char) : Option (List Char) :=
  let signed (cs : List Char) : Option (List Char) := do
    let (_, cs) ← readTwo? 0 23 cs
    let cs ← readMark? ':' cs
    let (_, cs) ← readTwo? 0 59 cs
    return cs
  match cs with
  | 'Z' :: rest => some rest
  | 'z' :: rest => some rest
  | '+' :: rest => signed rest
  | '-' :: rest => signed rest
  | cs => some cs

/-- How many days a month has. -/
def daysOf (year month : Nat) : Nat :=
  if month = 2 then
    if year % 4 = 0 ∧ (year % 100 ≠ 0 ∨ year % 400 = 0) then 29 else 28
  else if month = 4 ∨ month = 6 ∨ month = 9 ∨ month = 11 then 30
  else 31

/-- A date. -/
def readDate? (cs : List Char) : Option (List Char) := do
  let (century, cs) ← readTwo? 0 99 cs
  let (year, cs) ← readTwo? 0 99 cs
  let cs ← readMark? '-' cs
  let (month, cs) ← readTwo? 1 12 cs
  let cs ← readMark? '-' cs
  let (_, cs) ← readTwo? 1 (daysOf (century * 100 + year) month) cs
  return cs

/-- Whether a text starts like a time of day. -/
def looksLikeTime : List Char → Bool
  | a :: b :: ':' :: _ => a.isDigit && b.isDigit
  | _ => false

/-- Whether a text starts like a date. -/
def looksLikeDate : List Char → Bool
  | a :: b :: c :: d :: '-' :: _ => a.isDigit && b.isDigit && c.isDigit && d.isDigit
  | _ => false

/-- A date, a time, or both. -/
def readMoment? (cs : List Char) : Option (List Char) :=
  if looksLikeTime cs then readTime? cs
  else do
    let rest ← readDate? cs
    match rest with
    | c :: later =>
      if (c = 'T' ∨ c = 't' ∨ c = ' ') ∧ looksLikeTime later then
        (readTime? later).bind readOffset?
      else some rest
    | [] => some []

/-! ### Values -/

/-- A fixed word. -/
def readWord? (word : String) (value : Value) (cs : List Char) : Option (Value × List Char) :=
  if word.toList.isPrefixOf cs then some (value, cs.drop word.length) else none

mutual

/-- A value with so many arrays and inline tables around it. -/
def readValue? (fuel depth : Nat) (cs : List Char) : Option (Value × List Char) :=
  match fuel with
  | 0 => none
  | fuel + 1 =>
    match cs with
    | '"' :: _ => (readString? cs).map fun (s, rest) => (.text s, rest)
    | '\'' :: _ => (readString? cs).map fun (s, rest) => (.text s, rest)
    | '[' :: rest =>
      if depthLimit ≤ depth + 1 then none
      else (readItems? fuel (depth + 1) rest).map fun (items, rest) => (.list items, rest)
    | '{' :: rest =>
      if depthLimit ≤ depth + 1 then none
      else match skipBlanks rest with
        | '}' :: rest => (inlineTable? []).map fun t => (t, rest)
        | rest =>
          match readPairs? fuel (depth + 1) rest with
          | none => none
          | some (pairs, rest) => (inlineTable? pairs).map fun t => (t, rest)
    | 't' :: _ => readWord? "true" (.boolean true) cs
    | 'f' :: _ => readWord? "false" (.boolean false) cs
    | cs =>
      if looksLikeTime cs || looksLikeDate cs then
        (readMoment? cs).map fun rest =>
          (.moment (String.ofList (cs.take (cs.length - rest.length))), rest)
      else readNumber? cs

/-- The items of an array and its closing bracket; a comma may stand after the last one. -/
def readItems? (fuel depth : Nat) (cs : List Char) : Option (List Value × List Char) :=
  match fuel with
  | 0 => none
  | fuel + 1 =>
    match skipLines cs.length cs with
    | ']' :: rest => some ([], rest)
    | cs =>
      match readValue? fuel depth cs with
      | none => none
      | some (item, rest) =>
        match skipLines rest.length rest with
        | ',' :: rest => (readItems? fuel depth rest).map fun (items, rest) => (item :: items, rest)
        | ']' :: rest => some ([item], rest)
        | _ => none

/-- A key with its value. -/
def readPair? (fuel depth : Nat) (cs : List Char) : Option (Pair × List Char) :=
  match fuel with
  | 0 => none
  | fuel + 1 =>
    match readKey? cs with
    | none => none
    | some (names, rest) =>
      match rest with
      | '=' :: rest =>
        match readValue? fuel depth (skipBlanks rest) with
        | none => none
        | some (value, rest) => some (⟨names.dropLast, names.getLastD "", value⟩, rest)
      | _ => none

/-- The pairs of an inline table, at least one, and its closing brace. -/
def readPairs? (fuel depth : Nat) (cs : List Char) : Option (List Pair × List Char) :=
  match fuel with
  | 0 => none
  | fuel + 1 =>
    match readPair? fuel depth cs with
    | none => none
    | some (pair, rest) =>
      match skipBlanks rest with
      | ',' :: rest => (readPairs? fuel depth rest).map fun (pairs, rest) => (pair :: pairs, rest)
      | '}' :: rest => some ([pair], rest)
      | _ => none

end

/-! ### Documents -/

/-- Reads the rest of a line after a statement: blanks and a comment, then its end or that of the
text. -/
def readLineEnd? (cs : List Char) : Option (List Char) :=
  match skipComment (skipBlanks cs) with
  | [] => some []
  | cs => readNewline? cs

/-- A header, after its first bracket. -/
def readHeader? (cs : List Char) : Option (Bool × List String × List Char) :=
  match cs with
  | '[' :: rest => do
    let (names, rest) ← readKey? rest
    match rest with
    | ']' :: ']' :: rest => some (true, names, rest)
    | _ => none
  | cs => do
    let (names, rest) ← readKey? cs
    match rest with
    | ']' :: rest => some (false, names, rest)
    | _ => none

/-- The statements of a text. Pairs come before the sections that are read after them. -/
def readStatements? : Nat → List Char → Option Document
  | 0, _ => none
  | fuel + 1, cs =>
    match skipLines cs.length cs with
    | [] => some ⟨[], []⟩
    | '[' :: rest => do
      let (inArray, path, rest) ← readHeader? rest
      let rest ← readLineEnd? rest
      let d ← readStatements? fuel rest
      return ⟨[], ⟨inArray, path, d.pairs⟩ :: d.sections⟩
    | cs => do
      let (pair, rest) ← readPair? (cs.length + 1) 0 cs
      let rest ← readLineEnd? rest
      let d ← readStatements? fuel rest
      return ⟨pair :: d.pairs, d.sections⟩

/-- The statements of a text, which may start with a byte order mark. -/
def readDocument? (cs : List Char) : Option Document :=
  match cs with
  | '\uFEFF' :: cs => readStatements? (cs.length + 1) cs
  | cs => readStatements? (cs.length + 1) cs

/-- The entries of the table that a text denotes, if it is TOML. -/
def parse? (text : String) : Option (List (String × Value)) :=
  (readDocument? text.toList).bind Document.entries?

end Toml

end ExitContract
