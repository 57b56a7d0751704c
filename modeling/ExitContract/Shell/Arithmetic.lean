import ExitContract.Shell.Reader

/-!
# Shell arithmetic

Whole-number expressions, with the operators of the language C and variables.

## Main definitions

* `Shell.Arithmetic.Expr` — expressions
* `Shell.Arithmetic.parse?` — the expression of a text
* `Shell.Arithmetic.eval` — its value, and the variables that it sets
-/

namespace ExitContract

namespace Shell

namespace Arithmetic

/-- The operators between two operands. -/
inductive Binary
  | mul | div | mod | add | sub | shl | shr | lt | le | gt | ge | eq | ne | bitAnd | bitXor | bitOr
  | logAnd | logOr
  deriving DecidableEq, Repr

/-- The operators before an operand. -/
inductive Unary
  | plus | minus | not | complement
  deriving DecidableEq, Repr

/-- Expressions. -/
inductive Expr
  | number (n : Int)
  | named (name : Str)
  | unary (op : Unary) (e : Expr)
  | binary (op : Binary) (a b : Expr)
  | choice (c a b : Expr)
  | assign (name : Str) (op : Option Binary) (e : Expr)
  deriving Repr

/-- Skips blanks. -/
def skipBlanks (cs : Str) : Str := cs.dropWhile fun c => c == ' ' || c == '\t' || c == '\n'

/-- The value of digits of a base. -/
def valueOf (base : Nat) (ds : Str) : Int :=
  (ds.foldl (fun n c =>
    n * base + (if c.isDigit then c.toNat - 48 else (c.toLower.toNat - 87))) 0 : Nat)

/-- A number. -/
def readNumber (cs : Str) : Expr × Str :=
  let hex (c : Char) : Bool := c.isDigit || ('a' ≤ c.toLower && c.toLower ≤ 'f')
  match cs with
  | '0' :: 'x' :: rest => (.number (valueOf 16 (rest.takeWhile hex)), rest.dropWhile hex)
  | '0' :: 'X' :: rest => (.number (valueOf 16 (rest.takeWhile hex)), rest.dropWhile hex)
  | '0' :: rest =>
    let octal (c : Char) : Bool := '0' ≤ c && c ≤ '7'
    (.number (valueOf 8 (rest.takeWhile octal)), rest.dropWhile octal)
  | cs => (.number (valueOf 10 (cs.takeWhile Char.isDigit)), cs.dropWhile Char.isDigit)

/-- The binary operators by how strongly they bind, with their spellings; longer ones first. -/
def levels : List (List (String × Binary)) :=
  [[("||", .logOr)], [("&&", .logAnd)], [("|", .bitOr)], [("^", .bitXor)], [("&", .bitAnd)],
    [("==", .eq), ("!=", .ne)], [("<=", .le), (">=", .ge), ("<", .lt), (">", .gt)],
    [("<<", .shl), (">>", .shr)], [("+", .add), ("-", .sub)],
    [("*", .mul), ("/", .div), ("%", .mod)]]

/-- The operators that may follow a name together with an equals sign. -/
def assignments : List (String × Option Binary) :=
  [("+=", some .add), ("-=", some .sub), ("*=", some .mul), ("/=", some .div), ("%=", some .mod),
    ("<<=", some .shl), (">>=", some .shr), ("&=", some .bitAnd), ("^=", some .bitXor),
    ("|=", some .bitOr)]

/-- The operator of a level that comes next. Operators that start a longer one do not count. -/
def nextOperator? (ops : List (String × Binary)) (cs : Str) : Option (Binary × Str) :=
  ops.findSome? fun (spelling, op) =>
    let s := spelling.toList
    if s.isPrefixOf cs then
      let rest := cs.drop s.length
      let longer := match s, rest with
        | ['|'], '|' :: _ => true
        | ['&'], '&' :: _ => true
        | ['<'], '<' :: _ => true
        | ['>'], '>' :: _ => true
        | _, '=' :: _ => !(spelling == "==" || spelling == "!=" || spelling == "<=" || spelling == ">=")
        | _, _ => false
      if longer then none else some (op, rest)
    else none

mutual

/-- An expression, with assignments and choices. -/
def readExpr (fuel : Nat) (cs : Str) : Option (Expr × Str) :=
  match fuel with
  | 0 => none
  | fuel + 1 =>
    let cs := skipBlanks cs
    let name := cs.takeWhile isNameChar
    let rest := skipBlanks (cs.drop name.length)
    let assigned : Option (Option Binary × Str) :=
      if !isName name then none
      else match assignments.findSome? fun (s, op) =>
          if s.toList.isPrefixOf rest then some (op, rest.drop s.length) else none with
        | some r => some r
        | none =>
          match rest with
          | '=' :: '=' :: _ => none
          | '=' :: rest => some (none, rest)
          | _ => none
    match assigned with
    | some (op, rest) => (readExpr fuel rest).map fun (e, rest) => (.assign name op e, rest)
    | none =>
      match readLevels fuel levels cs with
      | none => none
      | some (c, rest) =>
        match skipBlanks rest with
        | '?' :: rest =>
          match readExpr fuel rest with
          | none => none
          | some (a, rest) =>
            match skipBlanks rest with
            | ':' :: rest => (readExpr fuel rest).map fun (b, rest) => (.choice c a b, rest)
            | _ => none
        | rest => some (c, rest)

/-- An expression of operators that bind at least as strongly as the given levels. -/
def readLevels (fuel : Nat) (ls : List (List (String × Binary))) (cs : Str) : Option (Expr × Str) :=
  match fuel with
  | 0 => none
  | fuel + 1 =>
    match ls with
    | [] => readUnary fuel cs
    | ops :: ls =>
      match readLevels fuel ls cs with
      | none => none
      | some (e, rest) => readMore fuel ops ls e rest

/-- Further operands of the operators of one level. -/
def readMore (fuel : Nat) (ops : List (String × Binary)) (ls : List (List (String × Binary)))
    (e : Expr) (cs : Str) : Option (Expr × Str) :=
  match fuel with
  | 0 => none
  | fuel + 1 =>
    match nextOperator? ops (skipBlanks cs) with
    | none => some (e, skipBlanks cs)
    | some (op, rest) =>
      match readLevels fuel ls rest with
      | none => none
      | some (e', rest) => readMore fuel ops ls (.binary op e e') rest

/-- An operand with the operators before it. -/
def readUnary (fuel : Nat) (cs : Str) : Option (Expr × Str) :=
  match fuel with
  | 0 => none
  | fuel + 1 =>
    let operand (op : Unary) (rest : Str) : Option (Expr × Str) :=
      (readUnary fuel rest).map fun (e, rest) => (.unary op e, rest)
    match skipBlanks cs with
    | '+' :: rest => operand .plus rest
    | '-' :: rest => operand .minus rest
    | '!' :: rest => operand .not rest
    | '~' :: rest => operand .complement rest
    | '(' :: rest =>
      match readExpr fuel rest with
      | none => none
      | some (e, rest) =>
        match skipBlanks rest with
        | ')' :: rest => some (e, rest)
        | _ => none
    | c :: rest =>
      if c.isDigit then some (readNumber (c :: rest))
      else if isNameStart c then
        some (.named ((c :: rest).takeWhile isNameChar), (c :: rest).dropWhile isNameChar)
      else none
    | [] => none

end

/-- Why a text is no expression. -/
inductive ReadFault
  /-- An operand is missing. -/
  | noOperand
  /-- Something comes after the expression. -/
  | noEnd
  deriving DecidableEq, Repr

/-- The wording of a fault. -/
def ReadFault.message : ReadFault → String
  | .noOperand => "expecting primary"
  | .noEnd => "expecting EOF"

/-- The expression of a text; a blank text is zero. -/
def parse (cs : Str) : Except ReadFault Expr :=
  if (skipBlanks cs).isEmpty then .ok (.number 0)
  else match readExpr (40 * (cs.length + 2)) cs with
    | some (e, rest) => if (skipBlanks rest).isEmpty then .ok e else .error .noEnd
    | none => .error .noOperand

/-- A number brought into the range of signed 64 bits. -/
def wrap (n : Int) : Int := n.bmod 0x10000000000000000

/-- A truth value as a number. -/
def ofBool (b : Bool) : Int := if b then 1 else 0

/-- The value of an operation, unless it divides by zero. -/
def apply (op : Binary) (a b : Int) : Option Int :=
  match op with
  | .mul => some (wrap (a * b))
  | .div => if b = 0 then none else some (wrap (a.tdiv b))
  | .mod => if b = 0 then none else some (wrap (a.tmod b))
  | .add => some (wrap (a + b))
  | .sub => some (wrap (a - b))
  | .shl => some (wrap (a * Nat.pow 2 (b.emod 64).toNat))
  | .shr => some (a.fdiv (Nat.pow 2 (b.emod 64).toNat))
  | .lt => some (ofBool (a < b))
  | .le => some (ofBool (a ≤ b))
  | .gt => some (ofBool (b < a))
  | .ge => some (ofBool (b ≤ a))
  | .eq => some (ofBool (a = b))
  | .ne => some (ofBool (a ≠ b))
  | .bitAnd => some ((Int64.ofInt a &&& Int64.ofInt b).toInt)
  | .bitXor => some ((Int64.ofInt a ^^^ Int64.ofInt b).toInt)
  | .bitOr => some ((Int64.ofInt a ||| Int64.ofInt b).toInt)
  | .logAnd => some (ofBool (a ≠ 0 ∧ b ≠ 0))
  | .logOr => some (ofBool (a ≠ 0 ∨ b ≠ 0))

/-- Why an expression has no value. -/
inductive EvalError
  | divisionByZero
  /-- A variable holds something else than a number. -/
  | notANumber (value : Str)
  deriving DecidableEq, Repr

/-- What a variable holds, as a number. -/
def number (value : Str) : Except EvalError Int :=
  let all (negative : Bool) (ds : Str) : Except EvalError Int :=
    if (ds.head?.map Char.isDigit) != some true then .error (.notANumber value)
    else match readNumber ds with
      | (.number n, rest) =>
        if (skipBlanks rest).isEmpty then .ok (wrap (if negative then -n else n))
        else .error (.notANumber value)
      | _ => .error (.notANumber value)
  match skipBlanks value with
  | [] => .ok 0
  | '-' :: ds => all true ds
  | '+' :: ds => all false ds
  | ds => all false ds

/-- The value of an expression; `set` holds the variables that it has set so far. -/
def eval (lookup : Str → Option Str) (set : List (Str × Int)) :
    Expr → Except EvalError (Int × List (Str × Int))
  | .number n => .ok (wrap n, set)
  | .named name => (valueIn set name).map fun n => (n, set)
  | .unary op e =>
    (eval lookup set e).map fun (n, set) =>
      (match op with
        | .plus => n
        | .minus => wrap (-n)
        | .not => ofBool (n = 0)
        | .complement => wrap (-n - 1), set)
  | .binary .logAnd a b =>
    match eval lookup set a with
    | .error e => .error e
    | .ok (n, set) =>
      if n = 0 then .ok (0, set)
      else (eval lookup set b).map fun (m, set) => (ofBool (m ≠ 0), set)
  | .binary .logOr a b =>
    match eval lookup set a with
    | .error e => .error e
    | .ok (n, set) =>
      if n ≠ 0 then .ok (1, set)
      else (eval lookup set b).map fun (m, set) => (ofBool (m ≠ 0), set)
  | .binary op a b =>
    match eval lookup set a with
    | .error e => .error e
    | .ok (n, set) =>
      match eval lookup set b with
      | .error e => .error e
      | .ok (m, set) =>
        match apply op n m with
        | some r => .ok (r, set)
        | none => .error .divisionByZero
  | .choice c a b =>
    match eval lookup set c with
    | .error e => .error e
    | .ok (n, set) => if n ≠ 0 then eval lookup set a else eval lookup set b
  | .assign name op e =>
    match eval lookup set e with
    | .error e => .error e
    | .ok (n, set) =>
      match op with
      | none => .ok (n, (name, n) :: set)
      | some op =>
        match valueIn set name with
        | .error e => .error e
        | .ok old =>
          match apply op old n with
          | some r => .ok (r, (name, r) :: set)
          | none => .error .divisionByZero
where
  valueIn (set : List (Str × Int)) (name : Str) : Except EvalError Int :=
    match List.lookup name set with
    | some n => .ok n
    | none => match lookup name with
      | some value => number value
      | none => .ok 0

end Arithmetic

end Shell

end ExitContract
