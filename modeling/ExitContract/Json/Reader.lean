import ExitContract.Json.Value

/-!
# Reading JSON

A reader of JSON text by recursive descent over characters.

## Main definitions

* `Json.parse?` — the value that a text denotes, if it is JSON

## Design notes

Each function takes the rest of the text and gives back what it leaves of it. Nesting is bounded by
the length of the text, which is the fuel of the descent.
-/

namespace ExitContract

namespace Json

/-- Skips blanks. -/
def skipBlanks (cs : List Char) : List Char :=
  cs.dropWhile fun c => c == ' ' || c == '\t' || c == '\n' || c == '\r'

/-- The value of a hexadecimal digit. -/
def hexDigit? (c : Char) : Option Nat :=
  if '0' ≤ c ∧ c ≤ '9' then some (c.toNat - 48)
  else if 'a' ≤ c ∧ c ≤ 'f' then some (c.toNat - 87)
  else if 'A' ≤ c ∧ c ≤ 'F' then some (c.toNat - 55)
  else none

/-- Four hexadecimal digits. -/
def hex4? : List Char → Option (Nat × List Char)
  | a :: b :: c :: d :: rest => do
    let a ← hexDigit? a
    let b ← hexDigit? b
    let c ← hexDigit? c
    let d ← hexDigit? d
    return (((a * 16 + b) * 16 + c) * 16 + d, rest)
  | _ => none

/-- The character that an escape letter stands for. -/
def simpleEscape? (c : Char) : Option Char :=
  if c = '"' ∨ c = '\\' ∨ c = '/' then some c
  else if c = 'b' then some '\x08'
  else if c = 'f' then some '\x0c'
  else if c = 'n' then some '\n'
  else if c = 'r' then some '\r'
  else if c = 't' then some '\t'
  else none

/-- The character that a pair of surrogates stands for. -/
def surrogatePair (high low : Nat) : Char :=
  Char.ofNat (0x10000 + (high - 0xD800) * 0x400 + (low - 0xDC00))

/-- A character written with `\u`, after the `u`; characters beyond 16 bits take two of them. -/
def unicodeEscape? (cs : List Char) : Option (Char × List Char) := do
  let (high, rest) ← hex4? cs
  if 0xD800 ≤ high ∧ high < 0xDC00 then
    match rest with
    | '\\' :: 'u' :: rest =>
      let (low, rest) ← hex4? rest
      if 0xDC00 ≤ low ∧ low < 0xE000 then some (surrogatePair high low, rest) else none
    | _ => none
  else if 0xDC00 ≤ high ∧ high < 0xE000 then none
  else some (Char.ofNat high, rest)

/-- The rest of a string after its opening quote; `acc` holds what was read, the last character
first. -/
def readString (fuel : Nat) (acc cs : List Char) : Option (String × List Char) :=
  match fuel with
  | 0 => none
  | fuel + 1 =>
    match cs with
    | [] => none
    | '"' :: rest => some (String.ofList acc.reverse, rest)
    | '\\' :: 'u' :: rest =>
      match unicodeEscape? rest with
      | none => none
      | some (c, rest) => readString fuel (c :: acc) rest
    | '\\' :: c :: rest =>
      match simpleEscape? c with
      | none => none
      | some c => readString fuel (c :: acc) rest
    | c :: rest => if c.toNat < 0x20 then none else readString fuel (c :: acc) rest

/-- A whole number, exactly as far as 64 bits hold it. The one number that is zero with a sign is a
floating-point one. -/
def whole (negative : Bool) (n : Nat) : Json :=
  match negative, n with
  | false, n => if n < 0x10000000000000000 then .natural n else .real (.ofDecimal false n 0)
  | true, 0 => .real (.ofDecimal true 0 0)
  | true, n + 1 => if n < 0x8000000000000000 then .negative n else .real (.ofDecimal true (n + 1) 0)

/-- A number after its sign. -/
def readNumber (negative : Bool) (cs : List Char) : Option (Json × List Char) := do
  let (ds, rest) := Binary64.spanDigits cs
  if ds.isEmpty ∨ (ds.head? = some '0' ∧ 1 < ds.length) then none
  let (fraction, rest) ← match rest with
    | '.' :: rest =>
      let (fs, rest) := Binary64.spanDigits rest
      if fs.isEmpty then none else some (fs, rest)
    | rest => some ([], rest)
  let (exponent, rest) ← match rest with
    | c :: rest =>
      if c = 'e' ∨ c = 'E' then
        let mark := match rest with
          | '-' :: _ => ['-']
          | '+' :: _ => ['+']
          | _ => []
        let (es, rest) := Binary64.spanDigits (rest.drop mark.length)
        if es.isEmpty then none else some (some (mark, es), rest)
      else some (none, c :: rest)
    | [] => some (none, [])
  match fraction, exponent with
  | [], none => some (whole negative (Binary64.digitsValue ds), rest)
  | fs, e =>
    let e : Int := match e with
      | none => 0
      | some (mark, es) =>
        if mark = ['-'] then -(Binary64.digitsValue es : Int) else Binary64.digitsValue es
    some (.real (.ofDecimal negative (Binary64.digitsValue (ds ++ fs)) (e - (fs.length : Int))), rest)

/-- A fixed word. -/
def readWord (word : String) (value : Json) (cs : List Char) : Option (Json × List Char) :=
  if word.toList.isPrefixOf cs then some (value, cs.drop word.length) else none

mutual

/-- A value. -/
def readValue (fuel : Nat) (cs : List Char) : Option (Json × List Char) :=
  match fuel with
  | 0 => none
  | fuel + 1 =>
    match skipBlanks cs with
    | [] => none
    | '"' :: rest => (readString (rest.length + 1) [] rest).map fun (s, rest) => (.text s, rest)
    | '[' :: rest =>
      match skipBlanks rest with
      | ']' :: rest => some (.list [], rest)
      | rest => (readItems fuel rest).map fun (items, rest) => (.list items, rest)
    | '{' :: rest =>
      match skipBlanks rest with
      | '}' :: rest => some (.object [], rest)
      | rest => (readFields fuel rest).map fun (fields, rest) => (ofFields fields, rest)
    | '-' :: rest => readNumber true rest
    | 't' :: rest => readWord "rue" (.boolean true) rest
    | 'f' :: rest => readWord "alse" (.boolean false) rest
    | 'n' :: rest => readWord "ull" .null rest
    | rest => readNumber false rest

/-- The items of a list, at least one, and its closing bracket. -/
def readItems (fuel : Nat) (cs : List Char) : Option (List Json × List Char) :=
  match fuel with
  | 0 => none
  | fuel + 1 =>
    match readValue fuel cs with
    | none => none
    | some (item, rest) =>
      match skipBlanks rest with
      | ',' :: rest => (readItems fuel rest).map fun (items, rest) => (item :: items, rest)
      | ']' :: rest => some ([item], rest)
      | _ => none

/-- The fields of an object, at least one, and its closing brace. -/
def readFields (fuel : Nat) (cs : List Char) : Option (List (String × Json) × List Char) :=
  match fuel with
  | 0 => none
  | fuel + 1 =>
    match skipBlanks cs with
    | '"' :: rest =>
      match readString (rest.length + 1) [] rest with
      | none => none
      | some (name, rest) =>
        match skipBlanks rest with
        | ':' :: rest =>
          match readValue fuel rest with
          | none => none
          | some (value, rest) =>
            match skipBlanks rest with
            | ',' :: rest =>
              (readFields fuel rest).map fun (fields, rest) => ((name, value) :: fields, rest)
            | '}' :: rest => some ([(name, value)], rest)
            | _ => none
        | _ => none
    | _ => none

end

/-- The value that a text denotes, if it is JSON. -/
def parse? (text : String) : Option Json :=
  let cs := text.toList
  match readValue (cs.length + 1) cs with
  | some (value, rest) => if (skipBlanks rest).isEmpty then some value else none
  | none => none

end Json

end ExitContract
