import ExitContract.Words

/-!
# Commands

A command is an executable with its arguments. Its written form is one line of words, from which
`splitWords` reads the same words back.

## Main definitions

* `Command` — the type, with `Command.tokens` and `Command.ofTokens?`
* `Command.render` — the written form
-/

namespace ExitContract

/-- An executable followed by its arguments. -/
structure Command where
  executable : String
  args : List String
  deriving DecidableEq, Repr

namespace Command

/-- All words of a command, the executable first. -/
def tokens (c : Command) : List String := c.executable :: c.args

/-- The command whose words these are; an empty list names no executable. -/
def ofTokens? : List String → Option Command
  | [] => none
  | executable :: args => some ⟨executable, args⟩

/-- Characters that need no quotes: the ASCII letters and digits, and a few marks. -/
def isPlain (c : Char) : Bool :=
  ('a' ≤ c && c ≤ 'z') || ('A' ≤ c && c ≤ 'Z') || ('0' ≤ c && c ≤ '9') ||
    "-_./=:,+@%".toList.contains c

/-- The inside of a single-quoted word: a quote closes the quotation, stands escaped, and opens it
again. -/
def quoteBody : List Char → List Char
  | [] => []
  | c :: cs => if c = '\'' then '\'' :: '\\' :: '\'' :: '\'' :: quoteBody cs else c :: quoteBody cs

/-- A word as it is written: bare if every character is plain and there is one, else in single
quotes. -/
def renderToken (word : List Char) : List Char :=
  if !word.isEmpty && word.all isPlain then word
  else '\'' :: (quoteBody word ++ ['\''])

/-- Written words, with a space between each two. -/
def renderTokens : List (List Char) → List Char
  | [] => []
  | [word] => renderToken word
  | word :: words => renderToken word ++ ' ' :: renderTokens words

/-- The written form of a command. -/
def render (c : Command) : String := String.ofList (renderTokens (c.tokens.map String.toList))

instance : ToString Command := ⟨render⟩

end Command

end ExitContract
