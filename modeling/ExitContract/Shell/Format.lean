import ExitContract.Shell.Grammar

/-!
# Formatted text

Escapes with a backslash, and texts made from a format with directives.

## Main definitions

* `Shell.Format.expandEscapes` — a text with its escapes undone
* `Shell.Format.render` — a format filled with arguments, again and again until none is left

## Design notes

The shell and the system each have a command for this. They agree but for a few escapes and the
wording of complaints, which is what `Dialect` tells apart.
-/

namespace ExitContract

namespace Shell

namespace Format

/-- Whose format it is. -/
inductive Dialect
  | shell
  | system
  deriving DecidableEq, Repr

/-- Whether a character is an octal digit. -/
def isOctal (c : Char) : Bool := '0' ≤ c && c ≤ '7'

/-- Whether a character is a hexadecimal digit. -/
def isHex (c : Char) : Bool := c.isDigit || ('a' ≤ c.toLower && c.toLower ≤ 'f')

/-- The value of a hexadecimal digit. -/
def digitValue (c : Char) : Nat := if c.isDigit then c.toNat - 48 else c.toLower.toNat - 87

/-- The value of digits of a base. -/
def digitsValue (base : Nat) (ds : Str) : Nat := ds.foldl (fun n c => n * base + digitValue c) 0

/-- The character with the low octet of a number. -/
def octet (n : Nat) : Char := Char.ofNat (n % 256)

/-- An escape after its backslash: what it stands for, whether the text ends with it, and the rest.
`argument` says whether it stands in an argument, where octal numbers start with a zero. A number of
another kind that has no digits is for `lacksDigits` to find. -/
def readEscape (d : Dialect) (argument : Bool) (cs : Str) : Str × Bool × Str :=
  let octal (cs : Str) : Str × Bool × Str :=
    let ds := (cs.take 3).takeWhile isOctal
    ([octet (digitsValue 8 ds)], false, cs.drop ds.length)
  match cs with
  | [] => (['\\'], false, [])
  | c :: rest =>
    if c = '0' && argument then octal rest
    else if isOctal c then octal cs
    else if c = 'c' && (argument || d = .system) then ([], true, [])
    else if c = 'x' && d = .system && ((rest.head?.map isHex) == some true) then
      let ds := (rest.take 2).takeWhile isHex
      ([octet (digitsValue 16 ds)], false, rest.drop ds.length)
    else if c = 'e' then ([Char.ofNat 27], false, rest)
    else if c = '"' && d = .system then (['"'], false, rest)
    else
      let simple : Option Nat := match c with
        | 'a' => some 7
        | 'b' => some 8
        | 'f' => some 12
        | 'n' => some 10
        | 'r' => some 13
        | 't' => some 9
        | 'v' => some 11
        | '\\' => some 92
        | _ => none
      match simple with
      | some n => ([Char.ofNat n], false, rest)
      | none => (['\\'], false, cs)

/-- Whether an escape after its backslash is a number without digits, which the system refuses. -/
def lacksDigits (d : Dialect) : Str → Bool
  | 'x' :: rest => d = .system && (rest.head?.map isHex) != some true
  | _ => false

/-- A text with its escapes undone, and whether one of them ended it. -/
def expandEscapes (d : Dialect) : Nat → Str → Str × Bool
  | 0, cs => (cs, false)
  | _, [] => ([], false)
  | fuel + 1, '\\' :: cs =>
    match readEscape d true cs with
    | (s, true, _) => (s, true)
    | (s, false, rest) =>
      let (t, stop) := expandEscapes d fuel rest
      (s ++ t, stop)
  | fuel + 1, c :: cs =>
    let (t, stop) := expandEscapes d fuel cs
    (c :: t, stop)

/-- A directive of a format. -/
structure Directive where
  left : Bool := false
  zero : Bool := false
  plus : Bool := false
  space : Bool := false
  alternate : Bool := false
  width : Nat := 0
  precision : Option Nat := none
  conversion : Char := 's'
  deriving Repr

/-- A number as a text says it, with a complaint if it says more or something else. -/
structure Numeral where
  value : Int
  complaint : Option String
  deriving Repr

/-- A text as a complaint shows it. -/
def shown (d : Dialect) (s : Str) : String :=
  match d with
  | .shell => String.ofList s
  | .system => "'" ++ String.ofList s ++ "'"

/-- The complaint about a text that is no number. -/
def noNumber (d : Dialect) (s : Str) : String :=
  shown d s ++ (match d with
    | .shell => ": expected numeric value"
    | .system => ": expected a numeric value")

/-- The complaint about a text that goes on after a number. -/
def moreThanNumber (d : Dialect) (s : Str) : String :=
  shown d s ++ (match d with
    | .shell => ": not completely converted"
    | .system => ": value not completely converted")

/-- A number brought into the range that a conversion has, with a complaint if that changes it. -/
def clamp (d : Dialect) (signed : Bool) (s : Str) (n : Int) : Numeral :=
  let (least, most) : Int × Int :=
    if signed then (-0x8000000000000000, 0x7fffffffffffffff)
    else (-0xffffffffffffffff, 0xffffffffffffffff)
  let complaint := some (shown d s ++ ": Numerical result out of range")
  if n < least then ⟨if signed then least else most, complaint⟩
  else if most < n then ⟨most, complaint⟩
  else ⟨n, none⟩

/-- What a text says as a number. Blanks before it do not count, and a text that starts with a quote says
the code of the character after it. -/
def readNumeral (d : Dialect) (signed : Bool) (s : Str) : Numeral :=
  let digits (negative : Bool) (cs : Str) : Numeral :=
    let (base, ds) : Nat × Str := match cs with
      | '0' :: 'x' :: rest => (16, rest)
      | '0' :: 'X' :: rest => (16, rest)
      | '0' :: rest => (8, '0' :: rest)
      | rest => (10, rest)
    let ok (c : Char) : Bool :=
      if base = 16 then isHex c else if base = 8 then isOctal c else c.isDigit
    let run := ds.takeWhile ok
    let n : Int := digitsValue base run
    let n := if negative then -n else n
    if run.isEmpty then ⟨0, some (noNumber d s)⟩
    else if run.length = ds.length then clamp d signed s n
    else ⟨(clamp d signed s n).value, some (moreThanNumber d s)⟩
  match s with
  | [] => ⟨0, none⟩
  | '"' :: rest => ⟨((rest.head?.map Char.toNat).getD 0 : Nat), none⟩
  | '\'' :: rest => ⟨((rest.head?.map Char.toNat).getD 0 : Nat), none⟩
  | s =>
    match s.dropWhile fun c => c == ' ' || ('\t' ≤ c && c ≤ '\x0d') with
    | '-' :: cs => digits true cs
    | '+' :: cs => digits false cs
    | cs => digits false cs

/-- A text brought to a width. -/
def pad (d : Directive) (s : Str) : Str :=
  let missing := d.width - s.length
  if d.left then s ++ List.replicate missing ' ' else List.replicate missing ' ' ++ s

/-- A number brought to a width: zeros may fill the place between its sign and its digits. -/
def padNumber (d : Directive) (sign digits : Str) : Str :=
  let digits := match d.precision with
    | some p => List.replicate (p - digits.length) '0' ++ digits
    | none => digits
  if d.zero && !d.left && d.precision.isNone then
    sign ++ List.replicate (d.width - sign.length - digits.length) '0' ++ digits
  else pad d (sign ++ digits)

/-- The sign of a number. -/
def signOf (d : Directive) (negative : Bool) : Str :=
  if negative then ['-'] else if d.plus then ['+'] else if d.space then [' '] else []

/-- A number as a directive wants it. -/
def renderNumber (d : Directive) (n : Int) : Str :=
  let unsigned : Nat := (n % 0x10000000000000000).toNat
  match d.conversion with
  | 'u' => padNumber d [] (Nat.toDigits 10 unsigned)
  | 'o' => padNumber d [] ((if d.alternate then ['0'] else []) ++ Nat.toDigits 8 unsigned)
  | 'x' => padNumber d (if d.alternate && unsigned ≠ 0 then ['0', 'x'] else [])
      (Nat.toDigits 16 unsigned)
  | 'X' => padNumber d (if d.alternate && unsigned ≠ 0 then ['0', 'X'] else [])
      ((Nat.toDigits 16 unsigned).map Char.toUpper)
  | _ => padNumber d (signOf d (n < 0)) (Nat.toDigits 10 n.natAbs)

/-- A decimal number as `digits / 10 ^ places`, with its sign, and what comes after it. -/
def readDecimal (s : Str) : Bool × Nat × Nat × Str :=
  let (negative, cs) := match s with
    | '-' :: cs => (true, cs)
    | '+' :: cs => (false, cs)
    | cs => (false, cs)
  let whole := cs.takeWhile Char.isDigit
  let (fraction, rest) := match cs.dropWhile Char.isDigit with
    | '.' :: rest => (rest.takeWhile Char.isDigit, rest.dropWhile Char.isDigit)
    | rest => ([], rest)
  (negative, digitsValue 10 (whole ++ fraction), fraction.length,
    if whole.isEmpty && fraction.isEmpty then s else rest)

/-- The complaint about a text that is not all a decimal number. -/
def decimalComplaint (d : Dialect) (s : Str) : Option String :=
  let (_, _, _, rest) := readDecimal s
  if s.isEmpty || rest.isEmpty then none
  else if rest.length = s.length then some (noNumber d s)
  else some (moreThanNumber d s)

/-- A number with a fixed count of places, a tie going to the even digit. -/
def renderFixed (d : Directive) (s : Str) : Str :=
  let places := d.precision.getD 6
  let (negative, n, scale, _) := readDecimal s
  let num := n * Nat.pow 10 places
  let den := Nat.pow 10 scale
  let q := num / den
  let r := num % den
  let q := if 2 * r < den then q else if den < 2 * r then q + 1 else if q % 2 = 0 then q else q + 1
  let ds := Nat.toDigits 10 q
  let ds := List.replicate (places + 1 - ds.length) '0' ++ ds
  let whole := ds.take (ds.length - places)
  let text := if places = 0 then whole else whole ++ '.' :: ds.drop (ds.length - places)
  padNumber { d with precision := none } (signOf d negative) text

/-- What filling a format says. -/
inductive Piece
  | text (s : Str)
  | complaint (message : String)
  deriving DecidableEq, Repr

/-- The texts among pieces, as one. -/
def textOf (ps : List Piece) : Str :=
  ps.flatMap fun p => match p with
    | .text s => s
    | .complaint _ => []

/-- The complaints among pieces. -/
def complaintsOf (ps : List Piece) : List String :=
  ps.filterMap fun p => match p with
    | .text _ => none
    | .complaint m => some m

/-- What one pass through a format gives. -/
structure Pass where
  pieces : List Piece
  arguments : List Str
  /-- Whether an escape ended the whole text. -/
  stop : Bool

/-- Reads the flags of a directive. -/
def readFlags : Nat → Directive → Str → Directive × Str
  | 0, d, cs => (d, cs)
  | fuel + 1, d, cs =>
    match cs with
    | '-' :: rest => readFlags fuel { d with left := true } rest
    | '0' :: rest => readFlags fuel { d with zero := true } rest
    | '+' :: rest => readFlags fuel { d with plus := true } rest
    | ' ' :: rest => readFlags fuel { d with space := true } rest
    | '#' :: rest => readFlags fuel { d with alternate := true } rest
    | cs => (d, cs)

/-- Reads a count: digits, or an argument where an asterisk stands. -/
def readCount (dialect : Dialect) (arguments : List Str) (cs : Str) : Option Int × List Str × Str :=
  match cs with
  | '*' :: rest =>
    match arguments with
    | a :: more => (some (readNumeral dialect true a).value, more, rest)
    | [] => (some 0, [], rest)
  | cs =>
    let ds := cs.takeWhile Char.isDigit
    (if ds.isEmpty then none else some (digitsValue 10 ds : Nat), arguments, cs.dropWhile Char.isDigit)

/-- Goes through a format once. -/
def pass (dialect : Dialect) (fuel : Nat) (format : Str) (arguments : List Str) : Pass :=
  match fuel with
  | 0 => ⟨[], arguments, false⟩
  | fuel + 1 =>
    let before (s : Str) (complaints : List String) (p : Pass) : Pass :=
      { p with pieces := complaints.map .complaint ++ .text s :: p.pieces }
    match format with
    | [] => ⟨[], arguments, false⟩
    | '%' :: '%' :: rest => before ['%'] [] (pass dialect fuel rest arguments)
    | '%' :: after =>
      let (d, rest) := readFlags after.length {} after
      let (width, arguments, rest) := readCount dialect arguments rest
      let w := width.getD 0
      let d := { d with width := w.natAbs, left := d.left || decide (w < 0) }
      let (d, arguments, rest) := match rest with
        | '.' :: rest =>
          let (p, arguments, rest) := readCount dialect arguments rest
          ({ d with precision := some (p.getD 0).toNat }, arguments, rest)
        | rest => (d, arguments, rest)
      let rest := if dialect = .system then rest.dropWhile ("hlLjtz".toList.contains ·) else rest
      let spelled := "%" ++ String.ofList (after.take (after.length - rest.length + 1))
      match rest with
      | [] =>
        ⟨[.complaint (match dialect with
          | .shell => "missing format character"
          | .system => spelled ++ ": invalid conversion specification")], [], true⟩
      | c :: rest =>
        let d := { d with conversion := c }
        let argument := arguments.headD []
        let given := !arguments.isEmpty
        let arguments := arguments.drop 1
        let next (s : Str) (complaints : List String) : Pass :=
          before s complaints (pass dialect fuel rest arguments)
        let cut (s : Str) : Str := match d.precision with
          | some p => s.take p
          | none => s
        if c = 's' then next (pad d (cut argument)) []
        else if c = 'c' then next (pad d [argument.headD '\x00']) []
        else if c = 'b' then
          match expandEscapes dialect (argument.length + 1) argument with
          | (s, true) => ⟨[.text (pad d (cut s))], [], true⟩
          | (s, false) => next (pad d (cut s)) []
        else if "diouxX".toList.contains c then
          if given then
            let n := readNumeral dialect (c = 'd' || c = 'i') argument
            next (renderNumber d n.value) n.complaint.toList
          else next (renderNumber d 0) []
        else if "fF".toList.contains c then
          next (renderFixed d argument) (decimalComplaint dialect argument).toList
        else ⟨[.complaint (spelled ++ (match dialect with
          | .shell => ": invalid directive"
          | .system => ": invalid conversion specification"))], [], true⟩
    | '\\' :: rest =>
      if lacksDigits dialect rest then
        ⟨[.complaint "missing hexadecimal number in escape"], [], true⟩
      else
      match readEscape dialect false rest with
      | (s, true, _) => ⟨[.text s], [], true⟩
      | (s, false, rest) => before s [] (pass dialect fuel rest arguments)
    | c :: rest => before [c] [] (pass dialect fuel rest arguments)

/-- A format filled with arguments: what it says, whether it was stopped, and the arguments that it does
not take. -/
def render (dialect : Dialect) : Nat → Str → List Str → List Piece × Bool × List Str
  | 0, _, arguments => ([], false, arguments)
  | fuel + 1, format, arguments =>
    let p := pass dialect (format.length + 1) format arguments
    if p.stop || p.arguments.isEmpty || p.arguments.length = arguments.length then
      (p.pieces, p.stop, if p.stop then [] else p.arguments)
    else
      let (pieces, stop, left) := render dialect fuel format p.arguments
      (p.pieces ++ pieces, stop, left)

end Format

end Shell

end ExitContract
