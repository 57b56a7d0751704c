import ExitContract.Regex.Syntax
import ExitContract.Text.Letter

/-!
# Reading regular expressions

From text to an expression, if the text is one.

## Main definitions

* `Regex.Reader` — what is left of a text, and what was read of it that matters later
* `Regex.parse?` — the expression that a text denotes

## Design notes

A reader is made for texts without closing braces. Whatever needs one, a counted repetition among
others, cannot be written there, so an opening brace with a meaning of its own is refused at once.
-/

namespace ExitContract

namespace Regex

/-- A reader of a text. -/
structure Reader where
  /-- What is left. -/
  rest : List Char
  /-- Whether blanks and comments count for nothing. -/
  spacing : Bool
  /-- The names of the groups so far. -/
  names : List (List Char)
  deriving Repr

namespace Reader

/-- Skips blanks, and comments up to the end of their lines. -/
def skipSpacing : Bool → List Char → List Char
  | _, [] => []
  | true, c :: cs => skipSpacing (c != '\n') cs
  | false, c :: cs =>
    if c = '#' then skipSpacing true cs
    else if isBlank c then skipSpacing false cs
    else c :: cs

/-- Skips what counts for nothing. -/
def skip (r : Reader) : Reader :=
  if r.spacing then { r with rest := skipSpacing false r.rest } else r

/-- The reader after some characters. -/
def after (r : Reader) (rest : List Char) : Reader := { r with rest := rest }

/-- The reader after some characters and what counts for nothing, unless that is the end. -/
def beyond? (r : Reader) (rest : List Char) : Option Reader :=
  let r := (r.after rest).skip
  if r.rest.isEmpty then none else some r

/-- What comes first when blanks and signs of a comment are passed over. -/
def firstBeyond? : Bool → List Char → Option Char
  | _, [] => none
  | inComment, c :: cs =>
    if isBlank c then firstBeyond? inComment cs
    else if c = '#' && !inComment then firstBeyond? true cs
    else some c

/-- The character that follows the next one. -/
def peek? (r : Reader) : Option Char :=
  let rest := r.rest.drop 1
  if r.spacing then (firstBeyond? false rest).or rest.head? else rest.head?

end Reader

/-! ### Escapes -/

/-- What one character, or one escape, stands for. -/
inductive Atom
  | literal (l : Literal)
  | look (word : Bool)
  | lettered (negated : Bool)
  deriving DecidableEq, Repr

/-- The value of a hexadecimal digit. -/
def digit? (c : Char) : Option Nat :=
  if '0' ≤ c ∧ c ≤ '9' then some (c.toNat - 48)
  else if 'a' ≤ c ∧ c ≤ 'f' then some (c.toNat - 87)
  else if 'A' ≤ c ∧ c ≤ 'F' then some (c.toNat - 55)
  else none

/-- Reads `n` hexadecimal digits after the number `acc`; blanks may stand between them where they
count for nothing. -/
def readCode? (r : Reader) : Nat → Nat → List Char → Option (Nat × Reader)
  | 0, acc, cs => some (acc, (r.after cs).skip)
  | n + 1, acc, cs =>
    match (r.after cs).skip.rest with
    | [] => none
    | c :: cs => (digit? c).bind fun d => readCode? r n (acc * 16 + d) cs

/-- A character that is written by its code. -/
def readCoded? (r : Reader) (count : Nat) (cs : List Char) : Option (Atom × Reader) := do
  let (n, r) ← readCode? r count 0 cs
  if n.isValidChar then some (.literal ⟨Char.ofNat n, count = 2⟩, r) else none

/-- The control character that a letter stands for after a backslash. -/
def control? : Char → Option Char
  | 'a' => some '\x07'
  | 'f' => some '\x0c'
  | 't' => some '\t'
  | 'n' => some '\n'
  | 'r' => some '\r'
  | 'v' => some '\x0b'
  | _ => none

/-- What an escape stands for; the backslash is left out. -/
def readEscape? (r : Reader) : List Char → Option (Atom × Reader)
  | [] => none
  | c :: cs =>
    if c = 'x' then readCoded? r 2 cs
    else if c = 'u' then readCoded? r 4 cs
    else if c = 'U' then readCoded? r 8 cs
    else if "dsw".toList.contains c then some (.lettered false, r.after cs)
    else if "DSW".toList.contains c then some (.lettered true, r.after cs)
    else if c = 'A' || c = 'z' then some (.look false, r.after cs)
    else if c = 'B' || c = '<' || c = '>' then some (.look true, r.after cs)
    else if c = 'b' then if cs.head? = some '{' then none else some (.look true, r.after cs)
    else if c.toNat < 0x80 && !c.isAlphanum then some (.literal ⟨c, false⟩, r.after cs)
    else (control? c).map fun c => (.literal ⟨c, false⟩, r.after cs)

/-! ### Brackets -/

/-- The names of classes of ASCII characters. -/
def classNames : List String :=
  ["alnum", "alpha", "ascii", "blank", "cntrl", "digit", "graph", "lower", "print", "punct", "space",
    "upper", "word", "xdigit"]

/-- A class with a name between colons and brackets, after its first bracket: whether it is negated,
and what follows it. -/
def readNamed? (cs : List Char) : Option (Bool × List Char) :=
  match cs with
  | ':' :: cs =>
    let negated := cs.head? = some '^'
    let cs := if negated then cs.drop 1 else cs
    match cs.dropWhile (· != ':') with
    | ':' :: ']' :: rest =>
      if classNames.contains (String.ofList (cs.takeWhile (· != ':'))) then some (negated, rest)
      else none
    | _ => none
  | _ => none

/-- One character or escape between brackets. -/
def readAtom? (r : Reader) : Option (Atom × Reader) :=
  match r.rest with
  | [] => none
  | '\\' :: cs => readEscape? r cs
  | c :: cs => some (.literal ⟨c, false⟩, r.after cs)

/-- A character, a range of characters, or a class between brackets. -/
def readRange? (r : Reader) : Option (CharSet × Reader) := do
  let (a, r) ← readAtom? r
  let r := r.skip
  let alone : Option (CharSet × Reader) :=
    match a with
    | .literal l => some (.literal l, r)
    | .lettered negated => some (.lettered negated, r)
    | .look _ => none
  match r.rest with
  | [] => none
  | '-' :: cs =>
    if r.peek? = some ']' || r.peek? = some '-' then alone
    else do
      let r ← r.beyond? cs
      let (b, r) ← readAtom? r
      match a, b with
      | .literal l, .literal m => if l.char ≤ m.char then some (.range l m, r) else none
      | _, _ => none
  | _ => alone

/-- The hyphens at the start of what stands between brackets. -/
def readHyphens? (r : Reader) (items : List CharSet) : Nat → Option (List CharSet × Reader)
  | 0 => none
  | fuel + 1 =>
    match r.rest with
    | '-' :: cs =>
      (r.beyond? cs).bind fun r => readHyphens? r (.literal ⟨'-', false⟩ :: items) fuel
    | _ => some (items, r)

/-- The start of what stands between brackets, after the first one: whether it is negated, and the
characters that stand for themselves only there. -/
def openSet? (r : Reader) (cs : List Char) : Option (Bool × List CharSet × Reader) := do
  let r ← r.beyond? cs
  let negated := r.rest.head? = some '^'
  let r ← if negated then r.beyond? (r.rest.drop 1) else some r
  let (items, r) ← readHyphens? r [] (r.rest.length + 1)
  match items, r.rest with
  | [], ']' :: cs => (r.beyond? cs).map fun r => (negated, [.literal ⟨']', false⟩], r)
  | items, _ => some (negated, items, r)

/-- The set that is combined with a later one. -/
def joined (left : Option CharSet) (items : List CharSet) : CharSet :=
  match left with
  | none => .ofItems items.reverse
  | some l => .combined l (.ofItems items.reverse)

/-- The rest of what stands between brackets, with the closing one. The items that were read are
collected, the last one first. -/
def readSet? (fuel : Nat) (left : Option CharSet) (items : List CharSet) (r : Reader) :
    Option (CharSet × Reader) :=
  match fuel with
  | 0 => none
  | fuel + 1 =>
    let r := r.skip
    match r.rest with
    | [] => none
    | ']' :: cs => some (joined left items, r.after cs)
    | '&' :: '&' :: cs => readSet? fuel (some (joined left items)) [] (r.after cs)
    | '-' :: '-' :: cs => readSet? fuel (some (joined left items)) [] (r.after cs)
    | '~' :: '~' :: cs => readSet? fuel (some (joined left items)) [] (r.after cs)
    | '[' :: cs =>
      match readNamed? cs with
      | some (negated, rest) => readSet? fuel left (.named negated :: items) (r.after rest)
      | none =>
        match openSet? r cs with
        | none => none
        | some (negated, inner, r) =>
          match readSet? fuel none inner r with
          | none => none
          | some (s, r) => readSet? fuel left (.bracketed negated s :: items) r
    | _ =>
      match readRange? r with
      | none => none
      | some (s, r) => readSet? fuel left (s :: items) r

/-- A set in brackets, after the first one. -/
def readBracketed? (r : Reader) (cs : List Char) : Option (Regex × Reader) := do
  let (negated, items, r) ← openSet? r cs
  let (s, r) ← readSet? (r.rest.length + 1) none items r
  return (.bracketed negated s, r)

/-! ### Groups -/

/-- The flags up to the mark that ends them, that mark, and what follows it. A flag is named at most
once, and something must follow a negation. -/
def readFlags? : List FlagItem → List Char → Option (List FlagItem × Char × List Char)
  | _, [] => none
  | items, c :: cs =>
    if c = ':' || c = ')' then
      if items.getLast? = some .negation then none else some (items, c, cs)
    else
      let item : Option FlagItem :=
        if c = '-' then some .negation else (Flag.ofLetter? c).map .flag
      match item with
      | none => none
      | some item => if items.contains item then none else readFlags? (items ++ [item]) cs

/-- Whether a character may stand in the name of a group. -/
def isNameChar (c : Char) : Bool :=
  c = '_' || c = '.' || c = '[' || c = ']' || isLetterOrNumber c

/-- The name of a group with its closing bracket, and what follows it. -/
def readName? (cs : List Char) : Option (List Char × List Char) :=
  match cs.takeWhile (· != '>'), cs.dropWhile (· != '>') with
  | c :: name, '>' :: rest =>
    if (c = '_' || isLetter c) && name.all isNameChar then some (c :: name, rest) else none
  | _, _ => none

/-- What follows the opening of a group. -/
inductive Opening
  /-- It is no group: the flags hold from here on. -/
  | flags (items : List FlagItem)
  | group (items : List FlagItem)
  deriving DecidableEq, Repr

/-- Opens a group with a name. -/
def openNamed? (r : Reader) (cs : List Char) : Option (Opening × Reader) := do
  let (name, rest) ← readName? cs
  if r.names.contains name then none
  else some (.group [], { r with rest := rest, names := name :: r.names })

/-- Opens a group, after its bracket. Groups that only look ahead or back are refused. -/
def openGroup? (r : Reader) (cs : List Char) : Option (Opening × Reader) :=
  let r := (r.after cs).skip
  match r.rest with
  | '?' :: '=' :: _ => none
  | '?' :: '!' :: _ => none
  | '?' :: '<' :: '=' :: _ => none
  | '?' :: '<' :: '!' :: _ => none
  | '?' :: 'P' :: '<' :: cs => openNamed? r cs
  | '?' :: '<' :: cs => openNamed? r cs
  | '?' :: cs =>
    (readFlags? [] cs).bind fun (items, mark, rest) =>
      if mark = ':' then some (.group items, r.after rest)
      else if items.isEmpty then none
      else some (.flags items, r.after rest)
  | _ => some (.group [], r)

/-! ### Expressions -/

/-- Whether something can be repeated. -/
def isRepeatable : Regex → Bool
  | .empty => false
  | .flags _ => false
  | _ => true

/-- An atom as an expression. -/
def Atom.regex : Atom → Regex
  | .literal l => .literal l
  | .look word => .look word
  | .lettered negated => .lettered negated

mutual

/-- Reads parts of a sequence up to its end. Those that were read are collected, the last one
first. -/
def readSequence? (fuel : Nat) (parts : List Regex) (r : Reader) : Option (Regex × Reader) :=
  match fuel with
  | 0 => none
  | fuel + 1 =>
    let r := r.skip
    match r.rest with
    | [] => some (ofSequence parts.reverse, r)
    | c :: cs =>
      if c = ')' || c = '|' then some (ofSequence parts.reverse, r)
      else if c = '{' then none
      else if c = '(' then
        match openGroup? r cs with
        | none => none
        | some (.flags items, r) =>
          readSequence? fuel (.flags items :: parts)
            { r with spacing := (FlagItem.state? .spacing items).getD r.spacing }
        | some (.group items, inner) =>
          match readAlternatives? fuel []
              { inner with spacing := (FlagItem.state? .spacing items).getD r.spacing } with
          | some (x, ⟨')' :: rest, _, names⟩) =>
            readSequence? fuel (.group items x :: parts) ⟨rest, r.spacing, names⟩
          | _ => none
      else if c = '[' then
        match readBracketed? r cs with
        | none => none
        | some (x, r) => readSequence? fuel (x :: parts) r
      else if c = '?' || c = '*' || c = '+' then
        match parts with
        | [] => none
        | x :: parts =>
          if isRepeatable x then
            readSequence? fuel (.repeated x :: parts)
              (r.after (if cs.head? = some '?' then cs.drop 1 else cs))
          else none
      else if c = '\\' then
        match readEscape? r cs with
        | none => none
        | some (a, r) => readSequence? fuel (a.regex :: parts) r
      else
        let x : Regex :=
          if c = '.' then .dot
          else if c = '^' || c = '$' then .look false
          else .literal ⟨c, false⟩
        readSequence? fuel (x :: parts) (r.after cs)

/-- Reads alternatives up to the end of the text or of the group. Those that were read are collected,
the last one first. -/
def readAlternatives? (fuel : Nat) (choices : List Regex) (r : Reader) : Option (Regex × Reader) :=
  match fuel with
  | 0 => none
  | fuel + 1 =>
    match readSequence? fuel [] r with
    | none => none
    | some (x, r) =>
      match r.rest with
      | '|' :: cs => readAlternatives? fuel (x :: choices) (r.after cs)
      | _ => some (ofAlternatives (x :: choices).reverse, r)

end

/-- The expression that a text denotes, if it is one. -/
def parse? (cs : List Char) : Option Regex :=
  match readAlternatives? (2 * cs.length + 2) [] ⟨cs, false, []⟩ with
  | some (x, ⟨[], _, _⟩) => some x
  | _ => none

end Regex

end ExitContract
