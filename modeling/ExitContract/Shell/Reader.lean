import ExitContract.Shell.Grammar

/-!
# Reading shell scripts

A reader of shell scripts by recursive descent.

## Main definitions

* `Shell.readParts` — the pieces of a word
* `Shell.readScript` — the complete commands of a script

## Design notes

A script is run line by line, so what stands before a line that cannot be read counts. Each function
takes the rest of the script and gives back what it leaves of it; the length of the script is the fuel
of the descent.
-/

namespace ExitContract

namespace Shell

/-- Why a reader cannot go on, and what was left of the script there. -/
structure Fault where
  message : String
  rest : Str
  deriving DecidableEq, Repr

/-- What a reader gives back: a result and the rest of the script. -/
abbrev Reading (α : Type) := Except Fault (α × Str)

/-- The octet that starts an old-style output expansion. -/
def backquote : Char := Char.ofNat 96

/-- Letters, digits and underscores. -/
def isNameChar (c : Char) : Bool := c.isAlphanum || c == '_'

/-- Letters and underscores. -/
def isNameStart (c : Char) : Bool := c.isAlpha || c == '_'

/-- Whether a text is a name. -/
def isName (s : Str) : Bool :=
  match s with
  | [] => false
  | c :: cs => isNameStart c && cs.all isNameChar

/-- Characters that end a word. -/
def isMeta (c : Char) : Bool :=
  c == ' ' || c == '\t' || c == '\n' || c == ';' || c == '&' || c == '|' || c == '<' || c == '>' ||
    c == '(' || c == ')'

/-- Parameters that are one mark. -/
def isSpecial (c : Char) : Bool := "@*#?-$!".toList.contains c || c.isDigit

/-- What ends the pieces that are read. -/
inductive Delimiter
  /-- A character that ends a word. -/
  | word
  /-- A double quote. -/
  | double
  /-- A closing brace; the flag says whether the braces stand in double quotes. -/
  | brace (inQuotes : Bool)
  /-- The end of the text, as in double quotes. -/
  | text
  deriving DecidableEq, Repr

/-- Whether pieces are read as in double quotes. -/
def Delimiter.quotes : Delimiter → Bool
  | .word => false
  | .double => true
  | .brace q => q
  | .text => true

/-- Puts a character as it stands before pieces. -/
def consBare (c : Char) : List Part → List Part
  | .bare s :: ps => .bare (c :: s) :: ps
  | ps => .bare [c] :: ps

/-- Puts characters without meaning before pieces. -/
def consQuoted (s : Str) : List Part → List Part
  | .quoted t :: ps => .quoted (s ++ t) :: ps
  | ps => .quoted s :: ps

/-- Puts a character before pieces, as it stands or without meaning. -/
def consChar (e : Delimiter) (c : Char) (ps : List Part) : List Part :=
  if e.quotes then consQuoted [c] ps else consBare c ps

/-- The text up to a single quote. -/
def spanSingle? : Str → Option (Str × Str)
  | [] => none
  | c :: cs => if c = '\'' then some ([], cs) else (spanSingle? cs).map fun (a, b) => (c :: a, b)

/-- The text up to the next double quote that is not escaped, as it stands. -/
def spanDouble? : Str → Option (Str × Str)
  | [] => none
  | '\\' :: c :: cs => (spanDouble? cs).map fun (a, b) => ('\\' :: c :: a, b)
  | c :: cs => if c = '"' then some ([], cs) else (spanDouble? cs).map fun (a, b) => (c :: a, b)

/-- The text up to the parenthesis that closes the one before it, as it stands. -/
def spanParens? : Nat → Nat → Str → Option (Str × Str)
  | 0, _, _ => none
  | _, _, [] => none
  | fuel + 1, depth, c :: cs =>
    let add (s : Str) (r : Option (Str × Str)) : Option (Str × Str) :=
      r.map fun (a, b) => (s ++ a, b)
    if c = '(' then add [c] (spanParens? fuel (depth + 1) cs)
    else if c = ')' then
      match depth with
      | 0 => some ([], cs)
      | depth + 1 => add [c] (spanParens? fuel depth cs)
    else if c = '\'' then
      match spanSingle? cs with
      | some (a, b) => add (c :: (a ++ [c])) (spanParens? fuel depth b)
      | none => none
    else if c = '"' then
      match spanDouble? cs with
      | some (a, b) => add (c :: (a ++ [c])) (spanParens? fuel depth b)
      | none => none
    else if c = '\\' then
      match cs with
      | d :: cs => add [c, d] (spanParens? fuel depth cs)
      | [] => none
    else add [c] (spanParens? fuel depth cs)

/-- The text up to the two parentheses that close a calculation, as it stands. Quotes have no meaning
there, except in the scripts whose output it takes. -/
def spanSum? : Nat → Nat → Str → Option (Str × Str)
  | 0, _, _ => none
  | _, _, [] => none
  | fuel + 1, depth, c :: cs =>
    let add (s : Str) (r : Option (Str × Str)) : Option (Str × Str) :=
      r.map fun (a, b) => (s ++ a, b)
    if c = '(' then add [c] (spanSum? fuel (depth + 1) cs)
    else if c = ')' then
      match depth, cs with
      | depth + 1, cs => add [c] (spanSum? fuel depth cs)
      | 0, ')' :: cs => some ([], cs)
      | 0, cs => add [c] (spanSum? fuel 0 cs)
    else if c = '$' then
      match cs with
      | '(' :: cs =>
        match spanParens? (cs.length + 1) 0 cs with
        | some (a, b) => add (c :: '(' :: (a ++ [')'])) (spanSum? fuel depth b)
        | none => none
      | cs => add [c] (spanSum? fuel depth cs)
    else if c = '\\' then
      match cs with
      | d :: cs => add [c, d] (spanSum? fuel depth cs)
      | [] => none
    else add [c] (spanSum? fuel depth cs)

/-- The text up to the next backquote, with the escapes of its level undone. -/
def spanBackquote? : Str → Option (Str × Str)
  | [] => none
  | '\\' :: c :: cs =>
    let kept := if c = backquote ∨ c = '\\' ∨ c = '$' then [c] else ['\\', c]
    (spanBackquote? cs).map fun (a, b) => (kept ++ a, b)
  | c :: cs =>
    if c = backquote then some ([], cs) else (spanBackquote? cs).map fun (a, b) => (c :: a, b)

/-- The operator after the name of a parameter in braces. -/
def readOperator? : Str → Option (Operator × Str)
  | '}' :: cs => some (.plain, '}' :: cs)
  | ':' :: '-' :: cs => some (.default true, cs)
  | ':' :: '=' :: cs => some (.assign true, cs)
  | ':' :: '?' :: cs => some (.complain true, cs)
  | ':' :: '+' :: cs => some (.alternate true, cs)
  | '-' :: cs => some (.default false, cs)
  | '=' :: cs => some (.assign false, cs)
  | '?' :: cs => some (.complain false, cs)
  | '+' :: cs => some (.alternate false, cs)
  | '#' :: '#' :: cs => some (.dropStart true, cs)
  | '#' :: cs => some (.dropStart false, cs)
  | '%' :: '%' :: cs => some (.dropEnd true, cs)
  | '%' :: cs => some (.dropEnd false, cs)
  | _ => none

/-- The name of a parameter in braces. -/
def readParameterName? (cs : Str) : Option (Str × Str) :=
  match cs with
  | [] => none
  | c :: rest =>
    if isNameStart c then some (cs.takeWhile isNameChar, cs.dropWhile isNameChar)
    else if c.isDigit then some (cs.takeWhile Char.isDigit, cs.dropWhile Char.isDigit)
    else if isSpecial c then some ([c], rest)
    else none

mutual

/-- Pieces up to an ending. The end of a word is left in the rest, and any other ending is not. -/
def readParts (fuel : Nat) (e : Delimiter) (cs : Str) : Reading (List Part) :=
  match fuel with
  | 0 => .error ⟨"Word too long", cs⟩
  | fuel + 1 =>
    let after (add : List Part → List Part) (r : Reading (List Part)) : Reading (List Part) :=
      r.map fun (ps, rest) => (add ps, rest)
    match cs with
    | [] =>
      match e with
      | .word | .text => .ok ([], [])
      | .double => .error ⟨"Unterminated quoted string", []⟩
      | .brace _ => .error ⟨"Missing '\x7d'", []⟩
    | c :: rest =>
      if e = .word && isMeta c then .ok ([], cs)
      else if e = .double && c = '"' then .ok ([], rest)
      else if (e = .brace true || e = .brace false) && c = '}' then .ok ([], rest)
      else if c = '\\' then
        match rest with
        | [] => after (consChar e '\\') (readParts fuel e [])
        | d :: rest =>
          if d = '\n' then readParts fuel e rest
          else if !e.quotes then after (consQuoted [d]) (readParts fuel e rest)
          else if d = '$' || d = backquote || d = '\\' || (d = '"' && e ≠ .text) ||
              (d = '}' && e = .brace true) then
            after (consQuoted [d]) (readParts fuel e rest)
          else after (consQuoted ['\\']) (readParts fuel e (d :: rest))
      else if c = '\'' && !e.quotes then
        match spanSingle? rest with
        | none => .error ⟨"Unterminated quoted string", []⟩
        | some (s, rest) => after (consQuoted s) (readParts fuel e rest)
      else if c = '"' && e ≠ .double && e ≠ .text then
        match readParts fuel .double rest with
        | .error f => .error f
        | .ok (ps, rest) =>
          after ((if ps.isEmpty then [.quoted []] else ps) ++ ·) (readParts fuel e rest)
      else if c = backquote then
        match spanBackquote? rest with
        | none => .error ⟨"EOF in backquote substitution", []⟩
        | some (s, rest) => after (.output s e.quotes :: ·) (readParts fuel e rest)
      else if c = '$' then
        match readDollar fuel e.quotes rest with
        | .error f => .error f
        | .ok (some p, rest) => after (p :: ·) (readParts fuel e rest)
        | .ok (none, rest) => after (consChar e '$') (readParts fuel e rest)
      else after (consChar e c) (readParts fuel e rest)

/-- The piece after a dollar sign, if it starts one. -/
def readDollar (fuel : Nat) (inQuotes : Bool) (cs : Str) : Reading (Option Part) :=
  match fuel with
  | 0 => .error ⟨"Word too long", cs⟩
  | fuel + 1 =>
    match cs with
    | '(' :: '(' :: rest =>
      match spanSum? (rest.length + 1) 0 rest with
      | some (inside, rest) =>
        (readParts fuel .text inside).map fun (ps, _) => (some (.arithmetic ps inQuotes), rest)
      | none => .error ⟨"Missing '))'", []⟩
    | '(' :: rest =>
      match spanParens? (rest.length + 1) 0 rest with
      | some (inside, rest) => .ok (some (.output inside inQuotes), rest)
      | none => .error ⟨"end of file unexpected (expecting \")\")", []⟩
    | '{' :: '#' :: rest =>
      match readParameterName? rest with
      | some (name, '}' :: rest) => .ok (some (.parameter name .length [] inQuotes), rest)
      | _ => readBraces fuel inQuotes ('#' :: rest)
    | '{' :: rest => readBraces fuel inQuotes rest
    | c :: rest =>
      if isNameStart c then
        .ok (some (.parameter (cs.takeWhile isNameChar) .plain [] inQuotes),
          cs.dropWhile isNameChar)
      else if isSpecial c then .ok (some (.parameter [c] .plain [] inQuotes), rest)
      else .ok (none, cs)
    | [] => .ok (none, [])

/-- The piece in braces after a dollar sign. -/
def readBraces (fuel : Nat) (inQuotes : Bool) (cs : Str) : Reading (Option Part) :=
  match fuel with
  | 0 => .error ⟨"Word too long", cs⟩
  | fuel + 1 =>
    match readParameterName? cs with
    | none => .error ⟨if cs.isEmpty then "Missing '\x7d'" else "Bad substitution", cs⟩
    | some (name, rest) =>
      match readOperator? rest with
      | none =>
        if rest.isEmpty then .error ⟨"Missing '\x7d'", []⟩
        else .error ⟨"Bad substitution", rest⟩
      | some (op, rest) =>
        (readParts fuel (.brace (inQuotes && !op.takesPattern)) rest).map fun (ps, rest) =>
          (some (.parameter name op ps inQuotes), rest)

end

/-! ### Tokens -/

/-- Skips blanks, joined lines and a comment. -/
def skipSpace : Nat → Str → Str
  | 0, cs => cs
  | fuel + 1, cs =>
    match cs with
    | ' ' :: rest => skipSpace fuel rest
    | '\t' :: rest => skipSpace fuel rest
    | '\\' :: '\n' :: rest => skipSpace fuel rest
    | '#' :: rest => rest.dropWhile (· != '\n')
    | cs => cs

/-- Skips blanks and comments. -/
def skip (cs : Str) : Str := skipSpace (cs.length + 1) cs

/-- Skips blanks, comments and ends of lines. -/
def skipLines : Nat → Str → Str
  | 0, cs => cs
  | fuel + 1, cs =>
    match skip cs with
    | '\n' :: rest => skipLines fuel rest
    | cs => cs

/-- Skips blanks, comments and ends of lines. -/
def skipAll (cs : Str) : Str := skipLines (cs.length + 1) cs

/-- The word that comes next, if it has no quotes and no expansions. -/
def peekWord (cs : Str) : Str :=
  let w := cs.takeWhile fun c => !isMeta c
  if w.any fun c => c == '\'' || c == '"' || c == '\\' || c == '$' || c == backquote then [] else w

/-- The words that belong to the grammar. -/
def reservedWords : List String :=
  ["!", "case", "do", "done", "elif", "else", "esac", "fi", "for", "if", "in", "then", "until", "while",
    "\x7b", "\x7d"]

/-- Commands whose failure ends a shell. No function can have their names. -/
def specialNames : List String :=
  [":", "export", "readonly", "unset", "set", "shift", "exit", "return", "break", "continue", "trap",
    "eval", ".", "exec"]

/-- Words that end a list of commands. -/
def closers : List String := ["then", "else", "elif", "fi", "do", "done", "esac", "\x7d"]

/-- Whether a list of commands ends here. -/
def atEnd (cs : Str) : Bool :=
  match cs with
  | [] => true
  | ')' :: _ => true
  | ';' :: ';' :: _ => true
  | cs => closers.any fun w => peekWord cs == w.toList

/-- The name of the token that comes next, for a message. Some words have a name of their own. -/
def tokenName (named : List String) (cs : Str) : String :=
  match cs with
  | [] => "end of file"
  | '\n' :: _ => "newline"
  | ';' :: ';' :: _ => "\";;\""
  | '&' :: '&' :: _ => "\"&&\""
  | '|' :: '|' :: _ => "\"||\""
  | '<' :: _ => "redirection"
  | '>' :: _ => "redirection"
  | c :: _ =>
    if isMeta c then "\"" ++ String.ofList [c] ++ "\""
    else if named.any fun w => peekWord cs == w.toList then
      "\"" ++ String.ofList (peekWord cs) ++ "\""
    else "word"

/-- A token that may not stand where it does. -/
def unexpected (cs : Str) : Fault := ⟨tokenName reservedWords cs ++ " unexpected", cs⟩

/-- A token that stands where another one should. -/
def expecting (cs : Str) (wanted : String) : Fault :=
  ⟨tokenName reservedWords cs ++ " unexpected (expecting \"" ++ wanted ++ "\")", cs⟩

/-- A token that stands where a parenthesis should close; words have no meaning there. -/
def unclosed (cs : Str) : Fault := ⟨tokenName [] cs ++ " unexpected (expecting \")\")", cs⟩

/-- Reads a fixed word. -/
def expect (word : String) (cs : Str) : Except Fault Str :=
  let cs := skipAll cs
  if peekWord cs = word.toList then .ok (cs.drop word.length) else .error (expecting cs word)

/-- The name and the equals sign that start an assignment. -/
def splitAssignment? (w : Word) : Option (Str × Word) :=
  match w with
  | .bare s :: ps =>
    let name := s.takeWhile (· != '=')
    match s.dropWhile (· != '=') with
    | [] => none
    | _ :: value =>
      if isName name then some (name, if value.isEmpty then ps else .bare value :: ps) else none
  | _ => none

/-- Takes out the lines of a text that starts on the next line and ends with a line of its own: the
text, and the script without it. -/
def spanHereText (stripTabs : Bool) (delimiter : Str) (cs : Str) : Str × Str :=
  let here := cs.takeWhile (· != '\n')
  let later := (cs.dropWhile (· != '\n')).drop 1
  let (body, rest) := go later.length later
  (body, here ++ '\n' :: rest)
where
  go : Nat → Str → Str × Str
    | 0, cs => (cs, [])
    | _, [] => ([], [])
    | fuel + 1, cs =>
      let line := cs.takeWhile (· != '\n')
      let rest := (cs.dropWhile (· != '\n')).drop 1
      let line := if stripTabs then line.dropWhile (· == '\t') else line
      if line = delimiter then ([], rest)
      else
        let (body, rest) := go fuel rest
        (line ++ '\n' :: body, rest)

/-- The text of pieces without expansions. -/
def plainText (w : Word) : Str :=
  w.flatMap fun p => match p with
    | .bare s => s
    | .quoted s => s
    | _ => []

/-- Whether a piece is quoted. -/
def Part.isQuoted : Part → Bool
  | .quoted _ => true
  | _ => false

/-- Reads a redirection without its descriptor. -/
def readRedirection (descriptor : Option Nat) (cs : Str) : Reading Redirection :=
  let fuel := cs.length + 2
  let file (fd : Nat) (f : Word → Target) (cs : Str) : Reading Redirection :=
    match readParts fuel .word (skip cs) with
    | .error e => .error e
    | .ok ([], rest) => .error (unexpected rest)
    | .ok (w, rest) => .ok (⟨descriptor.getD fd, f w⟩, rest)
  let here (stripTabs : Bool) (cs : Str) : Reading Redirection :=
    match readParts fuel .word (skip cs) with
    | .error e => .error e
    | .ok ([], rest) => .error (unexpected rest)
    | .ok (w, rest) =>
      let (body, rest) := spanHereText stripTabs (plainText w) rest
      if w.any Part.isQuoted then .ok (⟨descriptor.getD 0, .text [.quoted body]⟩, rest)
      else (readParts (body.length + 2) .text body).map fun (ps, _) =>
        (⟨descriptor.getD 0, .text ps⟩, rest)
  match cs with
  | '<' :: '<' :: '-' :: rest => here true rest
  | '<' :: '<' :: rest => here false rest
  | '<' :: '&' :: rest => file 0 .duplicate rest
  | '<' :: '>' :: rest => file 0 .input rest
  | '<' :: rest => file 0 .input rest
  | '>' :: '>' :: rest => file 1 .append rest
  | '>' :: '&' :: rest => file 1 .duplicate rest
  | '>' :: '|' :: rest => file 1 .output rest
  | '>' :: rest => file 1 .output rest
  | cs => .error (unexpected cs)

/-- Reads a redirection, if one starts here. -/
def readRedirection? (cs : Str) : Option (Reading Redirection) :=
  let ds := cs.takeWhile Char.isDigit
  match cs.dropWhile Char.isDigit with
  | '<' :: rest => some (readRedirection (number ds) ('<' :: rest))
  | '>' :: rest => some (readRedirection (number ds) ('>' :: rest))
  | _ => none
where
  number (ds : Str) : Option Nat :=
    if ds.isEmpty then none else some (ds.foldl (fun n c => n * 10 + (c.toNat - 48)) 0)

/-- Reads redirections. -/
def readRedirections : Nat → Str → Reading (List Redirection)
  | 0, cs => .ok ([], cs)
  | fuel + 1, cs =>
    match readRedirection? (skip cs) with
    | none => .ok ([], cs)
    | some (.error e) => .error e
    | some (.ok (r, rest)) => (readRedirections fuel rest).map fun (rs, rest) => (r :: rs, rest)

/-- What is wrong with a function that has no proper name. -/
def badFunction (cs : Str) : Fault :=
  match skip cs with
  | ')' :: rest => ⟨"Bad function name", rest⟩
  | rest => unclosed rest

/-- Reads the words, assignments and redirections of a simple command. -/
def readSimple (fuel : Nat) (line : Nat) (assignments : List (Str × Word)) (words : List Word)
    (redirections : List Redirection) (cs : Str) : Reading Statement :=
  match fuel with
  | 0 => .error ⟨"Command too long", cs⟩
  | fuel + 1 =>
    let cs := skip cs
    match readRedirection? cs with
    | some (.error e) => .error e
    | some (.ok (r, rest)) => readSimple fuel line assignments words (redirections ++ [r]) rest
    | none =>
      match readParts (cs.length + 2) .word cs with
      | .error e => .error e
      | .ok ([], rest) =>
        if assignments.isEmpty && words.isEmpty && redirections.isEmpty then .error (unexpected rest)
        else if assignments.isEmpty && words.length = 1 && redirections.isEmpty &&
            rest.head? = some '(' then .error (badFunction (rest.drop 1))
        else .ok (.simple line assignments words redirections, rest)
      | .ok (w, rest) =>
        match (if words.isEmpty then splitAssignment? w else none) with
        | some a => readSimple fuel line (assignments ++ [a]) words redirections rest
        | none => readSimple fuel line assignments (words ++ [w]) redirections rest

/-- Reads words up to the end of a command. -/
def readWords : Nat → Str → Reading (List Word)
  | 0, cs => .error ⟨"Command too long", cs⟩
  | fuel + 1, cs =>
    match readParts (cs.length + 2) .word (skip cs) with
    | .error e => .error e
    | .ok ([], rest) => .ok ([], rest)
    | .ok (w, rest) => (readWords fuel rest).map fun (ws, rest) => (w :: ws, rest)

/-- Skips an operator. -/
def skipOperator : Str → Str
  | [] => []
  | c :: cs => if (c = ';' || c = '&' || c = '|') && cs.head? = some c then cs.drop 1 else cs

/-- Reads the patterns of a clause and the parenthesis after them. An operator can stand for a pattern
that is empty. -/
def readPatterns : Nat → Str → Reading (List Word)
  | 0, cs => .error ⟨"Command too long", cs⟩
  | fuel + 1, cs =>
    match readParts (cs.length + 2) .word (skip cs) with
    | .error e => .error e
    | .ok (w, rest) =>
      let rest := if w.isEmpty then skipOperator rest else rest
      match skip rest with
      | '|' :: rest => (readPatterns fuel rest).map fun (ws, rest) => (w :: ws, rest)
      | ')' :: rest => .ok ([w], rest)
      | rest => .error (unclosed rest)

/-- How many lines end in a text. -/
def countLines (cs : Str) : Nat := cs.count '\n'

/-! ### Commands -/

/-- How far a list of commands goes. -/
inductive Extent
  /-- Up to the end of a line. -/
  | line
  /-- Over lines, with at least one command. -/
  | block
  /-- Over lines, and there may be none. -/
  | clause
  deriving DecidableEq, Repr

/-- How far a list of commands goes after the first of them. -/
def Extent.remainder : Extent → Extent
  | .block => .clause
  | e => e

mutual

/-- Reads commands up to something that ends a list. -/
def readList (fuel : Nat) (lines : Nat) (extent : Extent) (cs : Str) : Reading (List Statement) :=
  match fuel with
  | 0 => .error ⟨"Script too long", cs⟩
  | fuel + 1 =>
    let oneLine := extent == .line
    let cs := if oneLine then skip cs else skipAll cs
    if extent = .block && !cs.isEmpty && atEnd cs then .error (unexpected cs)
    else if atEnd cs || (oneLine && cs.head? == some '\n') then .ok ([], cs)
    else
      match readAndOr fuel lines cs with
      | .error e => .error e
      | .ok (s, rest) =>
        let more (s : Statement) (rest : Str) : Reading (List Statement) :=
          (readList fuel lines extent.remainder rest).map fun (ss, rest) => (s :: ss, rest)
        match skip rest with
        | ';' :: ';' :: rest => .ok ([s], ';' :: ';' :: rest)
        | ';' :: rest => more s rest
        | '&' :: rest => more (.background s) rest
        | '\n' :: rest => if oneLine then .ok ([s], '\n' :: rest) else more s rest
        | rest => .ok ([s], rest)

/-- Reads pipelines with `&&` and `||` between them. -/
def readAndOr (fuel : Nat) (lines : Nat) (cs : Str) : Reading Statement :=
  match fuel with
  | 0 => .error ⟨"Script too long", cs⟩
  | fuel + 1 =>
    match readPipeline fuel lines cs with
    | .error e => .error e
    | .ok (s, rest) => readAndOrRest fuel lines s rest

/-- Reads what follows a pipeline. -/
def readAndOrRest (fuel : Nat) (lines : Nat) (first : Statement) (cs : Str) : Reading Statement :=
  match fuel with
  | 0 => .error ⟨"Script too long", cs⟩
  | fuel + 1 =>
    match skip cs with
    | '&' :: '&' :: rest =>
      match readPipeline fuel lines (skipAll rest) with
      | .error e => .error e
      | .ok (s, rest) => readAndOrRest fuel lines (.both first s) rest
    | '|' :: '|' :: rest =>
      match readPipeline fuel lines (skipAll rest) with
      | .error e => .error e
      | .ok (s, rest) => readAndOrRest fuel lines (.either first s) rest
    | rest => .ok (first, rest)

/-- Reads a pipeline. -/
def readPipeline (fuel : Nat) (lines : Nat) (cs : Str) : Reading Statement :=
  match fuel with
  | 0 => .error ⟨"Script too long", cs⟩
  | fuel + 1 =>
    let cs := skip cs
    let negated := peekWord cs = ['!']
    match readStages fuel lines (if negated then cs.drop 1 else cs) with
    | .error e => .error e
    | .ok ([s], rest) => .ok (if negated then .pipeline true [s] else s, rest)
    | .ok (ss, rest) => .ok (.pipeline negated ss, rest)

/-- Reads the commands of a pipeline. -/
def readStages (fuel : Nat) (lines : Nat) (cs : Str) : Reading (List Statement) :=
  match fuel with
  | 0 => .error ⟨"Script too long", cs⟩
  | fuel + 1 =>
    match readCommand fuel lines (skip cs) with
    | .error e => .error e
    | .ok (s, rest) =>
      match skip rest with
      | '|' :: '|' :: rest => .ok ([s], '|' :: '|' :: rest)
      | '|' :: rest => (readStages fuel lines (skipAll rest)).map fun (ss, rest) => (s :: ss, rest)
      | rest => .ok ([s], rest)

/-- Reads a command with its redirections. -/
def readCommand (fuel : Nat) (lines : Nat) (cs : Str) : Reading Statement :=
  match fuel with
  | 0 => .error ⟨"Script too long", cs⟩
  | fuel + 1 =>
    let line := lines - countLines cs + 1
    let compound (r : Reading Statement) : Reading Statement :=
      match r with
      | .error e => .error e
      | .ok (s, rest) =>
        (readRedirections (rest.length + 1) rest).map fun (rs, rest) =>
          (if rs.isEmpty then s else .redirected s rs, rest)
    let word := peekWord cs
    match cs with
    | '(' :: rest =>
      compound (match readList fuel lines .block rest with
        | .error e => .error e
        | .ok (ss, rest) =>
          match rest with
          | ')' :: rest => .ok (.subshell (.sequence ss), rest)
          | rest => .error (expecting rest ")"))
    | cs =>
      if word = ['{'] then
        compound (match readList fuel lines .block (cs.drop 1) with
          | .error e => .error e
          | .ok (ss, rest) => (expect "\x7d" rest).map fun rest => (.group (.sequence ss), rest))
      else if word = "if".toList then compound (readIf fuel lines (cs.drop 2))
      else if word = "while".toList then compound (readLoop fuel lines false (cs.drop 5))
      else if word = "until".toList then compound (readLoop fuel lines true (cs.drop 5))
      else if word = "for".toList then compound (readFor fuel lines (cs.drop 3))
      else if word = "case".toList then compound (readCase fuel lines (cs.drop 4))
      else if atEnd cs || word = "in".toList || word = ['!'] then .error (unexpected cs)
      else if isName word && !specialNames.contains (String.ofList word) then
        match skip (cs.drop word.length) with
        | '(' :: rest =>
          match skip rest with
          | ')' :: rest =>
            (readCommand fuel lines (skipAll rest)).map fun (s, rest) => (.define word s, rest)
          | rest => .error (unclosed rest)
        | _ => readSimple (cs.length + 2) line [] [] [] cs
      else readSimple (cs.length + 2) line [] [] [] cs

/-- Reads a conditional after its first word. -/
def readIf (fuel : Nat) (lines : Nat) (cs : Str) : Reading Statement :=
  match fuel with
  | 0 => .error ⟨"Script too long", cs⟩
  | fuel + 1 =>
    match readList fuel lines .block cs with
    | .error e => .error e
    | .ok (condition, rest) =>
      match expect "then" rest with
      | .error e => .error e
      | .ok rest =>
        match readList fuel lines .block rest with
        | .error e => .error e
        | .ok (yes, rest) =>
          let build (no : Statement) : Statement :=
            .conditional (.sequence condition) (.sequence yes) no
          if peekWord rest = "elif".toList then
            (readIf fuel lines (rest.drop 4)).map fun (no, rest) => (build no, rest)
          else if peekWord rest = "else".toList then
            match readList fuel lines .block (rest.drop 4) with
            | .error e => .error e
            | .ok (no, rest) => (expect "fi" rest).map fun rest => (build (.sequence no), rest)
          else (expect "fi" rest).map fun rest => (build .nothing, rest)

/-- Reads a loop after its first word. -/
def readLoop (fuel : Nat) (lines : Nat) (negated : Bool) (cs : Str) : Reading Statement :=
  match fuel with
  | 0 => .error ⟨"Script too long", cs⟩
  | fuel + 1 =>
    match readList fuel lines .block cs with
    | .error e => .error e
    | .ok (condition, rest) =>
      (readBody fuel lines rest).map fun (body, rest) =>
        (.loop negated (.sequence condition) body, rest)

/-- Reads the body of a loop. -/
def readBody (fuel : Nat) (lines : Nat) (cs : Str) : Reading Statement :=
  match fuel with
  | 0 => .error ⟨"Script too long", cs⟩
  | fuel + 1 =>
    match expect "do" cs with
    | .error e => .error e
    | .ok rest =>
      match readList fuel lines .block rest with
      | .error e => .error e
      | .ok (body, rest) => (expect "done" rest).map fun rest => (.sequence body, rest)

/-- Reads a loop over words after its first word. -/
def readFor (fuel : Nat) (lines : Nat) (cs : Str) : Reading Statement :=
  match fuel with
  | 0 => .error ⟨"Script too long", cs⟩
  | fuel + 1 =>
    let cs := skip cs
    let name := peekWord cs
    if !isName name then .error ⟨"Bad for loop variable", cs⟩
    else
      let rest := skipAll (cs.drop name.length)
      let body (words : Option (List Word)) (rest : Str) : Reading Statement :=
        let rest := match skip rest with
          | ';' :: rest => rest
          | rest => rest
        (readBody fuel lines rest).map fun (s, rest) => (.each name words s, rest)
      if peekWord rest = "in".toList then
        match readWords (rest.length + 1) (rest.drop 2) with
        | .error e => .error e
        | .ok (ws, rest) => body (some ws) rest
      else body none rest

/-- Reads a choice after its first word. -/
def readCase (fuel : Nat) (lines : Nat) (cs : Str) : Reading Statement :=
  match fuel with
  | 0 => .error ⟨"Script too long", cs⟩
  | fuel + 1 =>
    match readParts (cs.length + 2) .word (skip cs) with
    | .error e => .error e
    | .ok ([], rest) => .error (unexpected rest)
    | .ok (subject, rest) =>
      match expect "in" rest with
      | .error e => .error e
      | .ok rest => (readClauses fuel lines rest).map fun (cs, rest) => (.choice subject cs, rest)

/-- Reads the clauses of a choice and its last word. -/
def readClauses (fuel : Nat) (lines : Nat) (cs : Str) :
    Reading (List (List Word × Statement)) :=
  match fuel with
  | 0 => .error ⟨"Script too long", cs⟩
  | fuel + 1 =>
    let cs := skipAll cs
    if peekWord cs = "esac".toList then .ok ([], cs.drop 4)
    else
      let start := match cs with
        | '(' :: rest => rest
        | cs => cs
      match readPatterns (start.length + 1) start with
      | .error e => .error e
      | .ok (patterns, rest) =>
        match readList fuel lines .clause rest with
        | .error e => .error e
        | .ok (body, rest) =>
          match skipAll rest with
          | ';' :: ';' :: rest =>
            (readClauses fuel lines rest).map fun (cs, rest) =>
              ((patterns, .sequence body) :: cs, rest)
          | rest =>
            if peekWord rest = "esac".toList then .ok ([(patterns, .sequence body)], rest.drop 4)
            else .error (expecting rest ";;")

end

/-- Reads complete commands, line by line. -/
def readLines (fuel : Nat) (lines : Nat) (cs : Str) : Script :=
  match fuel with
  | 0 => ⟨[], none⟩
  | fuel + 1 =>
    let failed (f : Fault) : Script :=
      ⟨[], some ⟨lines - countLines f.rest + 1, f.message⟩⟩
    let cs := skipAll cs
    if cs.isEmpty then ⟨[], none⟩
    else
      match readList (4 * cs.length + 16) lines .line cs with
      | .error f => failed f
      | .ok (ss, rest) =>
        match rest with
        | [] => ⟨[.sequence ss], none⟩
        | '\n' :: rest =>
          let later := readLines fuel lines rest
          ⟨.sequence ss :: later.commands, later.error⟩
        | rest => failed (unexpected rest)

/-- The complete commands of a script. -/
def readScript (cs : Str) : Script := readLines (cs.length + 1) (countLines cs) cs

end Shell

end ExitContract
