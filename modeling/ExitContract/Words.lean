import ExitContract.Text.Letter

/-!
# Words

A line of text is a row of words, written the way a shell reads them.

Words are separated by spaces, tabs, carriage returns and line feeds. Within a word, single quotes
keep everything between them, double quotes keep everything but `\"` and `\\`, which stand for the
second character, and outside quotes a backslash keeps the character after it. Pieces that touch
form one word, so a pair of quotes with nothing between them is an empty word.

## Main definitions

* `splitWords` — the words of a text, or what is left open at its end
* `tokenize` — the words that count: no blank ones, and nothing from the first `#` word on
-/

namespace ExitContract

/-- What a text may leave open at its end. -/
inductive SplitError
  /-- A quote was opened and not closed. -/
  | openQuotation
  /-- A backslash has nothing after it. -/
  | danglingEscape
  deriving DecidableEq, Repr

/-- The wording of a split error. -/
def SplitError.message : SplitError → String
  | .openQuotation => "No closing quotation"
  | .danglingEscape => "No escaped character"

namespace Words

/-- The characters that separate words. -/
def isSeparator (c : Char) : Bool := c == ' ' || c == '\t' || c == '\r' || c == '\n'

/-- Where a reader of words stands between two characters. -/
inductive Mode
  /-- Between words. -/
  | between
  /-- In a word, outside quotes. -/
  | bare
  /-- After a backslash outside quotes. -/
  | escaped
  /-- Inside single quotes. -/
  | single
  /-- Inside double quotes. -/
  | double
  /-- After a backslash inside double quotes. -/
  | doubleEscaped
  deriving DecidableEq, Repr

/-- Reads one character outside quotes: the mode after it and the character it adds to the word, if
it adds one. A separator is not read here. -/
def stepBare (c : Char) : Mode × List Char :=
  if c = '\'' then (.single, [])
  else if c = '"' then (.double, [])
  else if c = '\\' then (.escaped, [])
  else (.bare, [c])

/-- The words of a text, read from a given mode; `word` holds the characters of the word being read,
the last one first. -/
def scan : Mode → List Char → List Char → Except SplitError (List (List Char))
  | .between, _, [] => .ok []
  | .bare, word, [] => .ok [word.reverse]
  | .escaped, _, [] => .error .danglingEscape
  | .single, _, [] => .error .openQuotation
  | .double, _, [] => .error .openQuotation
  | .doubleEscaped, _, [] => .error .danglingEscape
  | .between, _, c :: cs =>
    if isSeparator c then scan .between [] cs
    else scan (stepBare c).1 (stepBare c).2 cs
  | .bare, word, c :: cs =>
    if isSeparator c then (scan .between [] cs).map (word.reverse :: ·)
    else scan (stepBare c).1 ((stepBare c).2 ++ word) cs
  | .escaped, word, c :: cs => scan .bare (c :: word) cs
  | .single, word, c :: cs =>
    if c = '\'' then scan .bare word cs else scan .single (c :: word) cs
  | .double, word, c :: cs =>
    if c = '"' then scan .bare word cs
    else if c = '\\' then scan .doubleEscaped word cs
    else scan .double (c :: word) cs
  | .doubleEscaped, word, c :: cs =>
    if c = '"' ∨ c = '\\' then scan .double (c :: word) cs
    else scan .double (c :: '\\' :: word) cs

/-- The words of a list of characters. -/
def splitChars (cs : List Char) : Except SplitError (List (List Char)) := scan .between [] cs

/-- A word that starts with this character turns the rest of its line into a comment. -/
def commentMarker : Char := '#'

/-- Whether a word starts a comment. -/
def startsComment (word : String) : Bool := word.toList.head? == some commentMarker

/-- The words of a line that count: those before the first comment that are not blank. -/
def significant (words : List String) : List String :=
  (words.takeWhile fun w => !startsComment w).filter fun w => !isBlankText w

end Words

/-- The words of a text, or what it leaves open at its end. -/
def splitWords (text : String) : Except SplitError (List String) :=
  (Words.splitChars text.toList).map (List.map String.ofList)

/-- The words of a line that count: neither blank ones nor those in a comment. -/
def tokenize (line : String) : Except SplitError (List String) :=
  (splitWords line).map Words.significant

end ExitContract
