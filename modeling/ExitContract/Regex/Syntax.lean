/-!
# Regular expressions

How a regular expression is put together.

## Main definitions

* `Regex` — the type
* `Regex.CharSet` — what may stand between brackets
* `Regex.depth` — how deep its parts are nested

## Design notes

Only what decides whether an expression can be used is kept. Nothing here matches a text, so the
number of times that something is repeated, and the place that a group or a look takes, are left out.
-/

namespace ExitContract

namespace Regex

/-- What can be switched on and off within an expression. -/
inductive Flag
  | caseless
  | multiLine
  | dotAll
  | swapGreed
  | unicode
  | carriageReturns
  /-- Blanks and comments do not count. -/
  | spacing
  deriving DecidableEq, Repr

/-- The letter of a flag. -/
def Flag.ofLetter? : Char → Option Flag
  | 'i' => some .caseless
  | 'm' => some .multiLine
  | 's' => some .dotAll
  | 'U' => some .swapGreed
  | 'u' => some .unicode
  | 'R' => some .carriageReturns
  | 'x' => some .spacing
  | _ => none

/-- One character of a list of flags. -/
inductive FlagItem
  /-- What follows is switched off. -/
  | negation
  | flag (f : Flag)
  deriving DecidableEq, Repr

/-- What a list of flags does to one of them, if it names it. -/
def FlagItem.state? (f : Flag) : List FlagItem → Option Bool
  | [] => none
  | .flag g :: items => if g = f then some true else state? f items
  | .negation :: items => if items.contains (.flag f) then some false else none

/-- A character, and whether it is written as an octet. -/
structure Literal where
  char : Char
  octet : Bool
  deriving DecidableEq, Repr

/-- What stands between brackets. -/
inductive CharSet
  | empty
  | literal (l : Literal)
  | range (first last : Literal)
  /-- A class of ASCII characters with a name between colons. -/
  | named (negated : Bool)
  /-- A class of characters with a letter after a backslash. -/
  | lettered (negated : Bool)
  | bracketed (negated : Bool) (set : CharSet)
  | union (sets : List CharSet)
  /-- An intersection or a difference. -/
  | combined (left right : CharSet)
  deriving Repr

end Regex

/-- A regular expression. -/
inductive Regex
  | empty
  | flags (items : List Regex.FlagItem)
  | literal (l : Regex.Literal)
  | dot
  /-- A place, and whether it is one at the edge of a word. -/
  | look (word : Bool)
  /-- A class of characters with a letter after a backslash. -/
  | lettered (negated : Bool)
  | bracketed (negated : Bool) (set : Regex.CharSet)
  | repeated (r : Regex)
  /-- A group, with the flags that hold in it. -/
  | group (items : List Regex.FlagItem) (r : Regex)
  | sequence (rs : List Regex)
  | alternatives (rs : List Regex)
  deriving Repr

namespace Regex

mutual

/-- How deep the parts of a set are nested. -/
def CharSet.depth : CharSet → Nat
  | .bracketed _ s => s.depth + 1
  | .union ss => depths ss + 1
  | .combined l r => max l.depth r.depth + 1
  | _ => 0

/-- The greatest depth of several sets. -/
def CharSet.depths : List CharSet → Nat
  | [] => 0
  | s :: ss => max s.depth (depths ss)

end

mutual

/-- How deep the parts of an expression are nested. -/
def depth : Regex → Nat
  | .bracketed _ s => s.depth + 1
  | .repeated r => r.depth + 1
  | .group _ r => r.depth + 1
  | .sequence rs => depths rs + 1
  | .alternatives rs => depths rs + 1
  | _ => 0

/-- The greatest depth of several expressions. -/
def depths : List Regex → Nat
  | [] => 0
  | r :: rs => max r.depth (depths rs)

end

/-- The union of sets. -/
def CharSet.ofItems : List CharSet → CharSet
  | [] => .empty
  | [s] => s
  | ss => .union ss

/-- One expression after the other. -/
def ofSequence : List Regex → Regex
  | [] => .empty
  | [r] => r
  | rs => .sequence rs

/-- Any one of several expressions. -/
def ofAlternatives : List Regex → Regex
  | [r] => r
  | rs => .alternatives rs

end Regex

end ExitContract
