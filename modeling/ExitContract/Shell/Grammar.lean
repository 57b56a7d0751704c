/-!
# Shell commands

The commands of a shell script and the words they are made of.

A script is a run of octets. Here it is a list of characters, one for each octet, of which none is
beyond 255.

## Main definitions

* `Shell.Part` — the pieces of a word
* `Shell.Statement` — the commands
* `Shell.Script` — the complete commands of a script, up to one that cannot be read
-/

namespace ExitContract

namespace Shell

/-- Characters that each stand for an octet. -/
abbrev Str := List Char

/-- What an expansion does besides giving the value of its parameter. -/
inductive Operator
  /-- Nothing. -/
  | plain
  /-- Its length instead of it. -/
  | length
  /-- Other words where it is not set; also where it is empty, if `orEmpty`. -/
  | default (orEmpty : Bool)
  /-- The same, and the parameter is set to them. -/
  | assign (orEmpty : Bool)
  /-- A complaint where it is not set. -/
  | complain (orEmpty : Bool)
  /-- Other words where it is set. -/
  | alternate (orEmpty : Bool)
  /-- Without what matches a pattern at its start. -/
  | dropStart (longest : Bool)
  /-- Without what matches a pattern at its end. -/
  | dropEnd (longest : Bool)
  deriving DecidableEq, Repr

/-- Whether the other words are a pattern. -/
def Operator.takesPattern : Operator → Bool
  | .dropStart _ | .dropEnd _ => true
  | _ => false

/-- A piece of a word. -/
inductive Part
  /-- Characters as they stand. -/
  | bare (s : Str)
  /-- Characters that lost their meaning; there may be none. -/
  | quoted (s : Str)
  /-- The value of a parameter. -/
  | parameter (name : Str) (op : Operator) (argument : List Part) (inQuotes : Bool)
  /-- The value of an arithmetic expression. -/
  | arithmetic (expression : List Part) (inQuotes : Bool)
  /-- The output of a script. -/
  | output (script : Str) (inQuotes : Bool)
  deriving Repr

/-- A word. -/
abbrev Word := List Part

/-- What a redirection does to a descriptor. -/
inductive Target
  /-- Reads a file. -/
  | input (file : Word)
  /-- Writes a file anew. -/
  | output (file : Word)
  /-- Writes at the end of a file. -/
  | append (file : Word)
  /-- Takes over another descriptor, or closes this one. -/
  | duplicate (descriptor : Word)
  /-- Reads a text. -/
  | text (body : Word)
  deriving Repr

/-- A redirection. -/
structure Redirection where
  descriptor : Nat
  target : Target
  deriving Repr

/-- A command. -/
inductive Statement
  /-- Assignments and words, on a line. -/
  | simple (line : Nat) (assignments : List (Str × Word)) (words : List Word)
    (redirections : List Redirection)
  | pipeline (negated : Bool) (stages : List Statement)
  | both (first second : Statement)
  | either (first second : Statement)
  | sequence (statements : List Statement)
  | background (statement : Statement)
  | subshell (body : Statement)
  | group (body : Statement)
  | conditional (condition yes no : Statement)
  | loop (negated : Bool) (condition body : Statement)
  | each (name : Str) (words : Option (List Word)) (body : Statement)
  | choice (subject : Word) (clauses : List (List Word × Statement))
  | define (name : Str) (body : Statement)
  | redirected (body : Statement) (redirections : List Redirection)
  deriving Repr

/-- The statement that does nothing. -/
def Statement.nothing : Statement := .sequence []

/-- Why a script cannot be read, and on which line. -/
structure ReadError where
  line : Nat
  message : String
  deriving DecidableEq, Repr

/-- The complete commands of a script, up to one that cannot be read. -/
structure Script where
  commands : List Statement
  error : Option ReadError
  deriving Repr

end Shell

end ExitContract
