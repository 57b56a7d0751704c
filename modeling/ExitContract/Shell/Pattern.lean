import ExitContract.Shell.Grammar

/-!
# Shell patterns

Patterns with `*`, `?` and sets in brackets, and what they match.

## Main definitions

* `Shell.Pattern.ofMarked` — the pattern of characters of which some have lost their meaning
* `Shell.Pattern.accepts` — whether a pattern matches a text
-/

namespace ExitContract

namespace Shell

/-- One piece of a pattern. -/
inductive PatternItem
  /-- A character. -/
  | one (c : Char)
  /-- Any character. -/
  | any
  /-- Any characters. -/
  | star
  /-- A character in one of some ranges, or in none of them. -/
  | set (negated : Bool) (ranges : List (Char × Char))
  deriving DecidableEq, Repr

/-- A pattern. -/
abbrev Pattern := List PatternItem

namespace Pattern

/-- The ranges of a named class of characters. -/
def classRanges (name : String) : List (Char × Char) :=
  match name with
  | "alpha" => [('a', 'z'), ('A', 'Z')]
  | "digit" => [('0', '9')]
  | "alnum" => [('a', 'z'), ('A', 'Z'), ('0', '9')]
  | "upper" => [('A', 'Z')]
  | "lower" => [('a', 'z')]
  | "space" => [(' ', ' '), ('\t', '\x0d')]
  | "blank" => [(' ', ' '), ('\t', '\t')]
  | "punct" => [('!', '/'), (':', '@'), ('[', Char.ofNat 96), ('{', '~')]
  | "xdigit" => [('0', '9'), ('a', 'f'), ('A', 'F')]
  | "print" => [(' ', '~')]
  | "graph" => [('!', '~')]
  | "cntrl" => [(Char.ofNat 0, Char.ofNat 31), (Char.ofNat 127, Char.ofNat 127)]
  | _ => []

/-- The ranges of a set after its first bracket, and what follows its last one. -/
def readSet? : Nat → Bool → List (Char × Bool) → Option (List (Char × Char) × List (Char × Bool))
  | 0, _, _ => none
  | _, _, [] => none
  | fuel + 1, first, (c, active) :: rest =>
    if c = ']' && active && !first then some ([], rest)
    else if c = '[' && active && (rest.head?.map (·.1)) == some ':' then
      let name := (rest.drop 1).takeWhile fun p => p.1 ≠ ':'
      match (rest.drop 1).dropWhile fun p => p.1 ≠ ':' with
      | (':', _) :: (']', _) :: later =>
        (readSet? fuel false later).map fun (rs, later) =>
          (classRanges (String.ofList (name.map (·.1))) ++ rs, later)
      | _ => (readSet? fuel false rest).map fun (rs, later) => (('[', '[') :: rs, later)
    else match rest with
      | ('-', true) :: (d, dActive) :: later =>
        if d = ']' && dActive then
          (readSet? fuel false rest).map fun (rs, later) => ((c, c) :: rs, later)
        else (readSet? fuel false later).map fun (rs, later) => ((c, d) :: rs, later)
      | rest => (readSet? fuel false rest).map fun (rs, later) => ((c, c) :: rs, later)

/-- The pattern of characters, each with a flag that says whether it has its meaning. -/
def ofMarkedFrom : Nat → List (Char × Bool) → Pattern
  | 0, _ => []
  | _, [] => []
  | fuel + 1, (c, active) :: rest =>
    if !active then .one c :: ofMarkedFrom fuel rest
    else if c = '*' then .star :: ofMarkedFrom fuel rest
    else if c = '?' then .any :: ofMarkedFrom fuel rest
    else if c = '[' then
      let negated := match rest with
        | ('!', true) :: _ => true
        | ('^', true) :: _ => true
        | _ => false
      match readSet? (rest.length + 1) true (if negated then rest.drop 1 else rest) with
      | some (ranges, later) => .set negated ranges :: ofMarkedFrom fuel later
      | none => .one c :: ofMarkedFrom fuel rest
    else .one c :: ofMarkedFrom fuel rest

/-- The pattern of characters, each with a flag that says whether it has its meaning. -/
def ofMarked (cs : List (Char × Bool)) : Pattern := ofMarkedFrom (cs.length + 1) cs

/-- Whether an item matches a character. -/
def itemMatches (c : Char) : PatternItem → Bool
  | .one d => c == d
  | .any => true
  | .star => false
  | .set negated ranges => (ranges.any fun r => r.1 ≤ c && c ≤ r.2) != negated

/-- The texts that are left when characters are dropped from the start. -/
def suffixes : Str → List Str
  | [] => [[]]
  | c :: cs => (c :: cs) :: suffixes cs

/-- Whether a pattern matches a text. -/
def accepts : Pattern → Str → Bool
  | [], s => s.isEmpty
  | .star :: ps, s => (suffixes s).any fun t => accepts ps t
  | p :: ps, s =>
    match s with
    | [] => false
    | c :: cs => itemMatches c p && accepts ps cs

end Pattern

end Shell

end ExitContract
