import ExitContract.Child.Tools

/-!
# Conditions

What the command `test` of a shell makes of its words.

A condition is read from left to right: `-o` binds least, then `-a`, then `!`, and parentheses group.
A word may be an operator in one place and a text in another, which depends on how many words there are
and on what follows.

## Main definitions

* `Shell.Condition.tokenOf` — what the first of several words is, seen from those after it
* `Shell.Condition.evaluate` — the truth of a condition, or what is wrong with it

## Design notes

Every part of a condition is evaluated, also where the parts before it have decided, so a mistake shows
wherever it is. A reader gives back the words from the last one that it took, and not from the first one
that it left, since a complaint names that one.
-/

namespace ExitContract

namespace Shell

namespace Condition

/-- What a word is in a condition. -/
inductive Token
  /-- There is no word. -/
  | finish
  | operand
  | unary
  | binary
  | negation
  | conjunction
  | disjunction
  | opening
  | closing
  deriving DecidableEq, Repr

/-- The operators that stand before one operand. -/
def unaryNames : List String :=
  ["-r", "-w", "-x", "-e", "-f", "-d", "-c", "-b", "-p", "-u", "-g", "-k", "-s", "-t", "-z", "-n", "-h",
    "-O", "-G", "-L", "-S"]

/-- The operators that stand between two operands. -/
def binaryNames : List String :=
  ["=", "!=", "<", ">", "-eq", "-ne", "-ge", "-gt", "-le", "-lt", "-nt", "-ot", "-ef"]

/-- What a word is by itself. -/
def kindOf (w : Str) : Token :=
  let s := String.ofList w
  if unaryNames.contains s then .unary
  else if binaryNames.contains s then .binary
  else match s with
    | "!" => .negation
    | "-a" => .conjunction
    | "-o" => .disjunction
    | "(" => .opening
    | ")" => .closing
    | _ => .operand

/-- Whether what could be an operator before one operand is an operand itself: nothing follows it, or an
operator between two operands does. -/
def standsAlone : List Str → Bool
  | [] => true
  | [_] => false
  | w :: _ => kindOf w == .binary

/-- What the first of several words is. -/
def tokenOf : List Str → Token
  | [] => .finish
  | w :: rest =>
    match kindOf w with
    | .unary => if standsAlone rest then .operand else .unary
    | .opening => if rest.isEmpty then .operand else .opening
    | t => t

/-- Blanks around a number. -/
def isNumberBlank (c : Char) : Bool := c == ' ' || ('\t' ≤ c && c ≤ '\x0d')

/-- The number that a text says, with blanks around it and a sign before it, if it is in range. -/
def number (s : Str) : Except Str Int :=
  let (negative, ds) : Bool × Str := match s.dropWhile isNumberBlank with
    | '-' :: cs => (true, cs)
    | '+' :: cs => (false, cs)
    | cs => (false, cs)
  let run := ds.takeWhile Char.isDigit
  let n : Int := Format.digitsValue 10 run
  let n := if negative then -n else n
  if !run.isEmpty && (ds.drop run.length).all isNumberBlank && -0x8000000000000000 ≤ n &&
      n ≤ 0x7fffffffffffffff then .ok n
  else .error (Tool.chars "Illegal number: " ++ s)

/-- The truth of an operator before one operand. -/
def evaluateUnary (c : Tool.Call) (op s : Str) : Except Str Bool :=
  if op = ['-', 't'] then (number s).map fun _ => false
  else .ok ((Tool.unaryTest? c (String.ofList op) s).getD false)

/-- Whether two paths lead to the same place. -/
def sameFile (c : Tool.Call) (a b : Str) : Bool :=
  match c.files.locate c.directory (Tool.toBytes a), c.files.locate c.directory (Tool.toBytes b) with
  | .ok x, .ok y => x == y
  | _, _ => false

/-- The truth of an operator between two operands. Files are all of the same age. -/
def evaluateBinary (c : Tool.Call) (op a b : Str) : Except Str Bool :=
  let numbers (f : Int → Int → Bool) : Except Str Bool :=
    (number a).bind fun x => (number b).map fun y => f x y
  match String.ofList op with
  | "=" => .ok (a == b)
  | "!=" => .ok (a != b)
  | "<" => .ok (decide (a < b))
  | ">" => .ok (decide (b < a))
  | "-eq" => numbers (· == ·)
  | "-ne" => numbers (· != ·)
  | "-ge" => numbers fun x y => y ≤ x
  | "-gt" => numbers fun x y => y < x
  | "-le" => numbers fun x y => x ≤ y
  | "-lt" => numbers fun x y => x < y
  | "-ef" => .ok (sameFile c a b)
  | _ => .ok false

/-- The truth of a part of a condition, and the words from the last one that it took. -/
abbrev Outcome := Except Str (Bool × List Str)

mutual

/-- Parts with `-o` between them. -/
def readDisjunction (c : Tool.Call) (fuel : Nat) (t : Token) (ws : List Str) : Outcome :=
  match fuel with
  | 0 => .error (Tool.chars "too many arguments")
  | fuel + 1 =>
    match readConjunction c fuel t ws with
    | .error e => .error e
    | .ok (b, ws) =>
      if tokenOf (ws.drop 1) = .disjunction then
        (readDisjunction c fuel (tokenOf (ws.drop 2)) (ws.drop 2)).map fun (d, ws) => (b || d, ws)
      else .ok (b, ws)

/-- Parts with `-a` between them. -/
def readConjunction (c : Tool.Call) (fuel : Nat) (t : Token) (ws : List Str) : Outcome :=
  match fuel with
  | 0 => .error (Tool.chars "too many arguments")
  | fuel + 1 =>
    match readNegation c fuel t ws with
    | .error e => .error e
    | .ok (b, ws) =>
      if tokenOf (ws.drop 1) = .conjunction then
        (readConjunction c fuel (tokenOf (ws.drop 2)) (ws.drop 2)).map fun (d, ws) => (b && d, ws)
      else .ok (b, ws)

/-- A part with any number of `!` before it. -/
def readNegation (c : Tool.Call) (fuel : Nat) (t : Token) (ws : List Str) : Outcome :=
  match fuel with
  | 0 => .error (Tool.chars "too many arguments")
  | fuel + 1 =>
    if t = .negation then
      let next := tokenOf (ws.drop 1)
      (readNegation c fuel next (if next = .finish then ws else ws.drop 1)).map fun (b, ws) => (!b, ws)
    else readPrimary c fuel t ws

/-- A part that is no operator between parts. A text is true if there is something of it. -/
def readPrimary (c : Tool.Call) (fuel : Nat) (t : Token) (ws : List Str) : Outcome :=
  match fuel with
  | 0 => .error (Tool.chars "too many arguments")
  | fuel + 1 =>
    match t with
    | .finish => .ok (false, ws)
    | .opening =>
      let inner := ws.drop 1
      if tokenOf inner = .closing then .ok (false, inner)
      else
        match readDisjunction c fuel (tokenOf inner) inner with
        | .error e => .error e
        | .ok (b, ws) =>
          if tokenOf (ws.drop 1) = .closing then .ok (b, ws.drop 1)
          else .error (Tool.chars "closing paren expected")
    | t =>
      let op := ws.headD []
      match t, ws.drop 1 with
      | .unary, [] => .error (op ++ Tool.chars ": argument expected")
      | .unary, s :: rest => (evaluateUnary c op s).map fun b => (b, s :: rest)
      | _, next =>
        match tokenOf next, next with
        | .binary, [between] => .error (between ++ Tool.chars ": argument expected")
        | .binary, between :: s :: rest => (evaluateBinary c between op s).map fun b => (b, s :: rest)
        | _, _ => .ok (!op.isEmpty, ws)

end

/-- The truth of words of which the first one is known, when nothing may be left of them. -/
def evaluateFrom (c : Tool.Call) (t : Token) (ws : List Str) : Except Str Bool :=
  match readDisjunction c (4 * ws.length + 8) t ws with
  | .error e => .error e
  | .ok (_, w :: _ :: _) => .error (w ++ Tool.chars ": unexpected operator")
  | .ok (b, _) => .ok b

/-- The truth of a condition. Three words with an operator in the middle are always a comparison. Other
three or four words may be a group or a negation of fewer. -/
def evaluate (c : Tool.Call) : List Str → Except Str Bool
  | [] => .ok false
  | w :: rest =>
    let ws := w :: rest
    if ws.length = 3 && kindOf (rest.headD []) == .binary then evaluateFrom c .operand ws
    else if (ws.length = 3 || ws.length = 4) && w == ['('] && ws.getLast? == some [')'] then
      evaluateFrom c (tokenOf rest.dropLast) rest.dropLast
    else if (ws.length = 3 || ws.length = 4) && w == ['!'] then (evaluate c rest).map (!·)
    else evaluateFrom c (tokenOf ws) ws

end Condition

end Shell

end ExitContract
