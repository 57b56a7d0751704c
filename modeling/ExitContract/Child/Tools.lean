import ExitContract.Child.Stream
import ExitContract.Shell.Format
import ExitContract.World

/-!
# Programs of the system

What the programs that come with a system do: what they write, when they end and with which code.

## Main definitions

* `Tool.Call` — what a program is started with
* `Tool.Run` — what it does
* `Tool.run?` — the program of a name
-/

namespace ExitContract

open Shell (Str)

namespace Tool

/-- What a program is started with. -/
structure Call where
  arguments : List Str
  environment : List (Str × Str)
  files : FileSystem
  directory : List Bytes
  input : Stream
  /-- When it is started. -/
  now : Nat

/-- What a program does. -/
structure Run where
  /-- What it writes: when, on which descriptor, and what. -/
  writes : List (Nat × Nat × Str) := []
  /-- What it then writes again and again, and from when on. -/
  endless : Option (Nat × Nat × Str) := none
  /-- When it ends and with which code, if it ends. -/
  finish : Option (Nat × Nat)

/-- Octets as characters. -/
def ofBytes (b : Bytes) : Str := b.map fun b => Char.ofNat b.toNat

/-- The octets of a text as characters. -/
def ofText (s : String) : Str := ofBytes (Utf8.encode s)

/-- A message whose characters are octets already. -/
def chars (s : String) : Str := s.toList

/-- Characters as octets. -/
def toBytes (s : Str) : Bytes := s.map fun c => UInt8.ofNat c.toNat

/-- A program that writes texts at once and ends. -/
def atOnce (c : Call) (out errors : Str) (code : Nat) : Run :=
  { writes := (if out.isEmpty then [] else [(c.now, 1, out)]) ++
      (if errors.isEmpty then [] else [(c.now, 2, errors)])
    finish := some (c.now, code) }

/-- A complaint of a program. -/
def complaint (name : String) (message : String) : Str := chars (name ++ ": " ++ message ++ "\n")

/-- The hint after a complaint about arguments. -/
def tryHelp (name : String) : Str :=
  chars ("Try '" ++ name ++ " --help' for more information.\n")

/-- The message of the system for an error, without its number. -/
def reason : IoError → String
  | .notFound => "No such file or directory"
  | .notADirectory => "Not a directory"
  | .isADirectory => "Is a directory"
  | .nameTooLong => "File name too long"
  | .permissionDenied => "Permission denied"
  | e => e.message

/-- The complaint about the first option that a program does not know; `known` are its letters. -/
def unknownOption? (name : String) (known : Str) (args : List Str) : Option Str :=
  (args.takeWhile (· != ['-', '-'])).findSome? fun a =>
    match a with
    | '-' :: '-' :: _ =>
      some (complaint name ("unrecognized option '" ++ String.ofList a ++ "'") ++ tryHelp name)
    | '-' :: letters =>
      (letters.find? fun c => !known.contains c).map fun c =>
        complaint name ("invalid option -- '" ++ String.ofList [c] ++ "'") ++ tryHelp name
    | _ => none

/-- A file name as a complaint shows it. -/
def shownName (s : Str) : String := if s.isEmpty then "''" else String.ofList s

/-- Texts with a space between each two. -/
def spaced (ss : List Str) : Str := [' '].intercalate ss

/-! ### Output -/

/-- The leading options of `echo` that are made of the letters n, e and E. -/
def echoOptions : Bool → Bool → List Str → Bool × Bool × List Str
  | newline, escapes, (('-' :: c :: cs) :: rest) =>
    if (c :: cs).all fun x => x == 'n' || x == 'e' || x == 'E' then
      let newline := newline && !(c :: cs).contains 'n'
      let escapes := (c :: cs).foldl (fun e x => if x = 'e' then true else if x = 'E' then false else e)
        escapes
      echoOptions newline escapes rest
    else (newline, escapes, (('-' :: c :: cs) :: rest))
  | newline, escapes, rest => (newline, escapes, rest)

/-- The tool `echo` writes its arguments. -/
def echo (c : Call) : Run :=
  let (newline, escapes, args) := echoOptions true false c.arguments
  let text := spaced args
  if escapes then
    let (s, stop) := Shell.Format.expandEscapes .system (text.length + 1) text
    atOnce c (if stop || !newline then s else s ++ ['\n']) [] 0
  else atOnce c (if newline then text ++ ['\n'] else text) [] 0

/-- The tool `printf` fills a format. -/
def printf (c : Call) : Run :=
  let args := match c.arguments with
    | ['-', '-'] :: rest => rest
    | args => args
  match args with
  | [] => atOnce c [] (complaint "printf" "missing operand" ++ tryHelp "printf") 1
  | format :: args =>
    let (pieces, _, left) := Shell.Format.render .system (args.length + 1) format args
    let excess := match left with
      | [] => []
      | a :: _ => [(c.now, 2, complaint "printf"
          ("warning: ignoring excess arguments, starting with '" ++ String.ofList a ++ "'"))]
    let writes := pieces.filterMap fun p => match p with
      | .text [] => none
      | .text s => some (c.now, 1, s)
      | .complaint m => some (c.now, 2, complaint "printf" m)
    { writes := writes ++ excess
      finish := some (c.now, if (Shell.Format.complaintsOf pieces).isEmpty then 0 else 1) }

/-- The tool `yes` writes one line for ever. -/
def yes (c : Call) : Run :=
  let line := (if c.arguments.isEmpty then ['y'] else spaced c.arguments) ++ ['\n']
  { endless := some (c.now, 1, line), finish := none }

/-! ### Time -/

/-- A length of time in nanoseconds: a decimal with a unit. -/
def interval? (s : Str) : Option Nat :=
  let digits := s.takeWhile fun c => c.isDigit || c == '.'
  let unit : Option Nat := match s.drop digits.length with
    | [] => some 1
    | ['s'] => some 1
    | ['m'] => some 60
    | ['h'] => some 3600
    | ['d'] => some 86400
    | _ => none
  let whole := digits.takeWhile Char.isDigit
  let fraction := (digits.dropWhile Char.isDigit).drop 1
  if !(fraction.all Char.isDigit) || (whole.isEmpty && fraction.isEmpty) then none
  else unit.map fun u =>
    Shell.Format.digitsValue 10 (whole ++ fraction) * u * 1000000000 / Nat.pow 10 fraction.length

/-- The tool `sleep` waits. -/
def sleep (c : Call) : Run :=
  let isForever (s : Str) : Bool := s == chars "infinity" || s == chars "inf"
  let wrong := c.arguments.filter fun a => (interval? a).isNone && !isForever a
  match unknownOption? "sleep" [] c.arguments with
  | some text => atOnce c [] text 1
  | none =>
  if c.arguments.isEmpty then
    atOnce c [] (complaint "sleep" "missing operand" ++ tryHelp "sleep") 1
  else if !wrong.isEmpty then
    let lines := wrong.flatMap fun a =>
      complaint "sleep" ("invalid time interval '" ++ String.ofList a ++ "'")
    atOnce c [] (lines ++ tryHelp "sleep") 1
  else if c.arguments.any isForever then { finish := none }
  else
    let total := (c.arguments.map fun a => (interval? a).getD 0).foldl (· + ·) 0
    { finish := some (c.now + total, 0) }

/-! ### Input -/

/-- What a program writes that passes its input on, changed chunk by chunk, and then ends. -/
def passOn (c : Call) (f : Str → Str) : Run :=
  let writes := c.input.chunks.filterMap fun (t, s) =>
    if (f s).isEmpty then none else some (max c.now t, 1, f s)
  let last := c.input.chunks.foldl (fun m x => max m x.1) c.now
  { writes := writes
    endless := c.input.endless.bind fun (t, s) =>
      if (f s).isEmpty then none else some (max c.now t, 1, f s)
    finish := match c.input.endless, c.input.closed with
      | none, some t => some (max last t, 0)
      | _, _ => none }

/-- One run after another. -/
def Run.followedBy (a : Run) (next : Nat → Run) : Run :=
  match a.finish with
  | none => a
  | some (t, code) =>
    let b := next t
    { writes := a.writes ++ b.writes, endless := b.endless,
      finish := b.finish.map fun (t, code') => (t, max code code') }

/-- The files that a program is told to read, one after another; a hyphen stands for its input. -/
def overFiles (name : String) (c : Call) (f : Str → Str) : List Str → Run
  | [] => { finish := some (c.now, 0) }
  | a :: rest =>
    let here : Run :=
      if a = ['-'] then passOn c f
      else match c.files.read c.directory (toBytes a) with
        | .ok contents => atOnce c (f (ofBytes contents)) [] 0
        | .error e => atOnce c [] (complaint name (shownName a ++ ": " ++ reason e)) 1
    here.followedBy fun t => overFiles name { c with now := t } f rest

/-- The tool `cat` writes its files, or its input. -/
def cat (c : Call) : Run :=
  let args := c.arguments.filter fun a => a != ['-', '-'] && a != ['-', 'u']
  match unknownOption? "cat" ['u'] c.arguments with
  | some text => atOnce c [] text 1
  | none =>
  if args.isEmpty then passOn c id else overFiles "cat" c id args

/-- The first `n` lines of a stream, with the instants. -/
def takeLines : Nat → Nat → Stream → List (Nat × Str) × Option Nat
  | 0, now, _ => ([], some now)
  | n + 1, now, s =>
    match s.readLine now with
    | (.never, _) => ([], none)
    | (.text t line true, _) => (if line.isEmpty then [] else [(t, line)], some t)
    | (.text t line false, s) =>
      let (ls, e) := takeLines n t s
      ((t, line ++ ['\n']) :: ls, e)

/-- The first `n` octets of a stream, with the instants, as far as they come. -/
def takeOctets (n now : Nat) (s : Stream) : List (Nat × Str) × Option Nat :=
  let (taken, left) := s.chunks.foldl (fun (acc : List (Nat × Str) × Nat) c =>
    if acc.2 = 0 then acc
    else (acc.1 ++ [(max now c.1, c.2.take acc.2)], acc.2 - c.2.length)) ([], n)
  let last := taken.foldl (fun m c => max m c.1) now
  if left = 0 then (taken, some last)
  else match s.endless with
    | some (t, again) =>
      let copies := (List.replicate (left / max 1 again.length + 1) again).flatten
      if again.isEmpty then (taken, none)
      else (taken ++ [(max now t, copies.take left)], some (max last t))
    | none => (taken, s.closed.map (max last))

/-- The number that `head` and `tail` are given, and their other arguments. -/
def countOption (args : List Str) : Nat × Option Str × List Str :=
  match args with
  | ['-', 'n'] :: n :: rest => (Shell.Format.digitsValue 10 (n.filter Char.isDigit), none, rest)
  | ['-', 'c'] :: n :: rest => (10, some n, rest)
  | ('-' :: 'n' :: n) :: rest => (Shell.Format.digitsValue 10 (n.filter Char.isDigit), none, rest)
  | ('-' :: 'c' :: n) :: rest => (10, some n, rest)
  | ('-' :: d :: n) :: rest =>
    if d.isDigit then (Shell.Format.digitsValue 10 (d :: n), none, rest) else (10, none, args)
  | args => (10, none, args)

/-- The text of the files that a program is told to read, or of its input. -/
def inputOf (name : String) (c : Call) (files : List Str) : Stream × Str :=
  match files with
  | [] => (c.input, [])
  | f :: _ =>
    if f = ['-'] then (c.input, [])
    else match c.files.read c.directory (toBytes f) with
      | .ok contents => (.ofText (ofBytes contents), [])
      | .error e => (.empty, complaint name (shownName f ++ ": " ++ reason e))

/-- The tool `head` writes what comes first. -/
def head (c : Call) : Run :=
  let (n, octets, files) := countOption c.arguments
  let (input, errors) := inputOf "head" c files
  if !errors.isEmpty then atOnce c [] errors 1
  else match octets with
    | some k =>
      let (cs, e) := takeOctets (Shell.Format.digitsValue 10 (k.filter Char.isDigit)) c.now input
      { writes := cs.map fun (t, s) => (t, 1, s), finish := e.map fun t => (t, 0) }
    | none =>
      let (ls, e) := takeLines n c.now input
      { writes := ls.map fun (t, s) => (t, 1, s), finish := e.map fun t => (t, 0) }

/-- The lines of a text with their endings. -/
def linesWithEndings : Nat → Str → List Str
  | 0, _ => []
  | fuel + 1, s =>
    if s.isEmpty then []
    else match Stream.cutLine? s with
      | some (a, b) => (a ++ ['\n']) :: linesWithEndings fuel b
      | none => [s]

/-- The tool `tail` writes what comes last. -/
def tail (c : Call) : Run :=
  let (n, octets, files) := countOption c.arguments
  let (input, errors) := inputOf "tail" c files
  if !errors.isEmpty then atOnce c [] errors 1
  else match input.all? c.now with
    | none => { finish := none }
    | some (t, s) =>
      let kept := match octets with
        | some k => s.drop (s.length - Shell.Format.digitsValue 10 k)
        | none =>
          let ls := linesWithEndings (s.length + 1) s
          (ls.drop (ls.length - n)).flatten
      atOnce { c with now := t } kept [] 0

/-- The number of words in a text. -/
def countWords (s : Str) : Nat :=
  (s.foldl (fun (inside, n) c =>
    let blank := c == ' ' || ('\t' ≤ c && c ≤ '\x0d')
    (!blank, if !blank && !inside then n + 1 else n)) (false, 0)).2

/-- The tool `wc` counts lines, words and octets. -/
def wc (c : Call) : Run :=
  let flags := (c.arguments.filter fun a => a.head? == some '-').flatMap (·.drop 1)
  let files := c.arguments.filter fun a => a.head? != some '-'
  let (input, errors) := inputOf "wc" c files
  if !errors.isEmpty then atOnce c [] errors 1
  else match input.all? c.now with
    | none => { finish := none }
    | some (t, s) =>
      let wanted (f : Char) : Bool := flags.isEmpty || flags.contains f
      let counts := (if wanted 'l' then [s.count '\n'] else []) ++
        (if wanted 'w' then [countWords s] else []) ++ (if wanted 'c' then [s.length] else [])
      let width := if counts.length = 1 then 1
        else if files.isEmpty then 7
        else (Nat.toDigits 10 s.length).length
      let field (n : Nat) : Str :=
        let ds := Nat.toDigits 10 n
        List.replicate (width - ds.length) ' ' ++ ds
      let line := spaced (counts.map field) ++ (files.head?.map (' ' :: ·)).getD [] ++ ['\n']
      atOnce { c with now := t } line [] 0

/-! ### Characters -/

/-- The characters of a set of `tr`. -/
def trSet : Nat → Str → Str
  | 0, _ => []
  | fuel + 1, s =>
    let range (a b : Char) : Str :=
      (List.range (b.toNat + 1 - a.toNat)).map fun i => Char.ofNat (a.toNat + i)
    let one (a : Char) (rest : Str) : Str :=
      match rest with
      | '-' :: b :: rest => range a b ++ trSet fuel rest
      | rest => a :: trSet fuel rest
    match s with
    | [] => []
    | '[' :: ':' :: rest =>
      let name := String.ofList (rest.takeWhile Char.isAlpha)
      let later := (rest.dropWhile Char.isAlpha).drop 2
      (match name with
        | "upper" => range 'A' 'Z'
        | "lower" => range 'a' 'z'
        | "digit" => range '0' '9'
        | "alpha" => range 'A' 'Z' ++ range 'a' 'z'
        | "alnum" => range '0' '9' ++ range 'A' 'Z' ++ range 'a' 'z'
        | "space" => range '\t' '\x0d' ++ [' ']
        | "blank" => ['\t', ' ']
        | _ => []) ++ trSet fuel later
    | '\\' :: rest =>
      match Shell.Format.readEscape .shell false rest with
      | ([c], _, later) => one c later
      | _ =>
        match rest with
        | c :: later => one c later
        | [] => ['\\']
    | c :: rest => one c rest

/-- Leaves out repeated characters of a set. -/
def squeeze (set : Str) : Option Char → Str → Str
  | _, [] => []
  | last, c :: cs =>
    if last = some c ∧ set.contains c then squeeze set last cs else c :: squeeze set (some c) cs

/-- The tool `tr` exchanges or drops characters. -/
def tr (c : Call) : Run :=
  let flags := (c.arguments.takeWhile fun a => a.head? == some '-' && 1 < a.length).flatMap (·.drop 1)
  let sets := c.arguments.dropWhile fun a => a.head? == some '-' && 1 < a.length
  let complement := flags.contains 'c' || flags.contains 'C'
  match sets with
  | [] => atOnce c [] (complaint "tr" "missing operand" ++ tryHelp "tr") 1
  | s :: more =>
    let first := trSet (s.length + 1) s
    let inFirst (x : Char) : Bool := first.contains x != complement
    if flags.contains 'd' then passOn c (·.filter fun x => !inFirst x)
    else match more with
      | [] =>
        if flags.contains 's' then passOn c (squeeze first none)
        else atOnce c [] (complaint "tr" ("missing operand after '" ++ String.ofList s ++ "'") ++
          chars "Two strings must be given when translating.\n" ++ tryHelp "tr") 1
      | s2 :: _ =>
        let second := trSet (s2.length + 1) s2
        let last := second.getLast?.getD ' '
        let swap (x : Char) : Char :=
          if complement then if first.contains x then x else last
          else match first.findIdx? (· == x) with
            | some i => second.getD i last
            | none => x
        let translate (t : Str) : Str := t.map swap
        passOn c fun t =>
          if flags.contains 's' then squeeze second none (translate t) else translate t

/-! ### Numbers and names -/

/-- A whole number with a sign. -/
def int? (s : Str) : Option Int :=
  match s with
  | '-' :: ds =>
    if ds.isEmpty || !ds.all Char.isDigit then none else some (-(Shell.Format.digitsValue 10 ds : Nat))
  | ds => if ds.isEmpty || !ds.all Char.isDigit then none else some (Shell.Format.digitsValue 10 ds : Nat)

/-- The tool `seq` counts, here in whole numbers. -/
def seq (c : Call) : Run :=
  let go (first step last : Int) : Run :=
    let count : Nat :=
      if 0 < step then ((last - first) / step + 1).toNat
      else if step < 0 then ((first - last) / (-step) + 1).toNat
      else 0
    let lines := (List.range count).flatMap fun i =>
      (toString (first + step * Int.ofNat i)).toList ++ ['\n']
    atOnce c lines [] 0
  match c.arguments.map int? with
  | [some last] => go 1 1 last
  | [some first, some last] => go first 1 last
  | [some first, some step, some last] => go first step last
  | [] => atOnce c [] (complaint "seq" "missing operand" ++ tryHelp "seq") 1
  | _ =>
    let wrong := (c.arguments.find? fun a => (int? a).isNone).getD []
    atOnce c []
      (complaint "seq" ("invalid floating point argument: '" ++ String.ofList wrong ++ "'") ++
        tryHelp "seq") 1

/-- The entries of an environment, one to a line. -/
def entryLines (env : List (Str × Str)) : Str := env.flatMap fun (k, v) => k ++ '=' :: v ++ ['\n']

/-- The tool `printenv` writes variables. -/
def printenv (c : Call) : Run :=
  if c.arguments.isEmpty then atOnce c (entryLines c.environment) [] 0
  else
    let found := c.arguments.map fun a => List.lookup a c.environment
    atOnce c (found.flatMap fun v => match v with
      | some v => v ++ ['\n']
      | none => []) [] (if found.all Option.isSome then 0 else 1)

/-- The path of a directory by its name. -/
def pathOf (name : List Bytes) : Str := '/' :: ['/'].intercalate (name.map ofBytes)

/-- The tool `pwd` writes its directory. -/
def pwd (c : Call) : Run := atOnce c (pathOf c.directory ++ ['\n']) [] 0

/-- The names in a directory, in order. -/
def namesIn (fs : FileSystem) (directory : List Bytes) : List Str :=
  let names := fs.entries.filterMap fun (n, _) =>
    if n.dropLast = directory ∧ n ≠ directory then n.getLast?.map ofBytes else none
  names.mergeSort fun a b => !(decide (b < a))

/-- The tool `ls` lists a directory. -/
def ls (c : Call) : Run :=
  let args := c.arguments.filter fun a => a.head? != some '-'
  let flags := (c.arguments.filter fun a => a.head? == some '-').flatMap (·.drop 1)
  let list (dir : List Bytes) : Str :=
    let names := namesIn c.files dir
    (if flags.contains 'a' then ['.'] :: ['.', '.'] :: names
      else if flags.contains 'A' then names
      else names.filter fun n => n.head? != some '.').flatMap (· ++ ['\n'])
  match args with
  | [] => atOnce c (if flags.contains 'd' then ['.', '\n'] else list c.directory) [] 0
  | a :: _ =>
    match c.files.locate c.directory (toBytes a) with
    | .ok name =>
      if c.files.get? name = some .directory && !flags.contains 'd' then atOnce c (list name) [] 0
      else atOnce c (a ++ ['\n']) [] 0
    | .error e =>
      atOnce c [] (complaint "ls" ("cannot access '" ++ String.ofList a ++ "': " ++ reason e)) 2

/-! ### Conditions -/

/-- A condition with one operand. -/
def unaryTest? (c : Call) (op : String) (s : Str) : Option Bool :=
  let node := c.files.resolve c.directory (toBytes s)
  let isNode (f : Node → Bool) : Bool := match node with
    | .ok n => f n
    | .error _ => false
  match op with
  | "-n" => some !s.isEmpty
  | "-z" => some s.isEmpty
  | "-e" => some (isNode fun _ => true)
  | "-f" => some (c.files.isFile c.directory (toBytes s))
  | "-d" => some (isNode (· == .directory))
  | "-r" => some (isNode fun n => match n with
      | .unreadable .. => false
      | _ => true)
  | "-w" => some (isNode fun _ => true)
  | "-x" => some (isNode fun n => match n with
      | .file _ executable | .unreadable _ executable _ => executable
      | .nullDevice => false
      | _ => true)
  | "-s" => some (isNode fun n => match n with
      | .file contents _ => !contents.isEmpty
      | .nullDevice => false
      | _ => true)
  | "-L" => some false
  | "-h" => some false
  | "-p" => some false
  | "-S" => some false
  | "-b" => some false
  | "-c" => some (isNode (· == .nullDevice))
  | "-t" => some false
  | "-u" => some false
  | "-g" => some false
  | "-k" => some false
  | "-O" => some (isNode fun _ => true)
  | "-G" => some (isNode fun _ => true)
  | _ => none

/-- A condition with two operands; none for a comparison of what is no number. -/
def binaryTest? (op : String) (a b : Str) : Option (Option Bool) :=
  let trim (s : Str) : Str :=
    ((s.dropWhile (· == ' ')).reverse.dropWhile (· == ' ')).reverse
  let numbers (f : Int → Int → Bool) : Option Bool :=
    match int? (trim a), int? (trim b) with
    | some x, some y => some (f x y)
    | _, _ => none
  match op with
  | "=" => some (some (a == b))
  | "==" => some (some (a == b))
  | "!=" => some (some (a != b))
  | "<" => some (some (decide (a < b)))
  | ">" => some (some (decide (b < a)))
  | "-eq" => some (numbers (· == ·))
  | "-ne" => some (numbers (· != ·))
  | "-lt" => some (numbers fun x y => x < y)
  | "-le" => some (numbers fun x y => x ≤ y)
  | "-gt" => some (numbers fun x y => y < x)
  | "-ge" => some (numbers fun x y => y ≤ x)
  | _ => none

/-- What a condition comes to. -/
inductive Verdict
  | holds (b : Bool)
  | wrong (message : String)
  deriving DecidableEq, Repr

/-- The opposite of a verdict. -/
def Verdict.not : Verdict → Verdict
  | .holds b => .holds !b
  | v => v

/-- The condition that words make. -/
def evalTest (c : Call) : Nat → List Str → Verdict
  | 0, _ => .wrong "too many arguments"
  | fuel + 1, words =>
    let text (s : Str) : String := String.ofList s
    let split (op : String) : Option (List Str × List Str) :=
      match words.findIdx? (· == op.toList) with
      | some i => if 0 < i ∧ i + 1 < words.length then some (words.take i, words.drop (i + 1)) else none
      | none => none
    match words with
    | [] => .holds false
    | [s] => .holds !s.isEmpty
    | [op, s] =>
      if op = ['!'] then (evalTest c fuel [s]).not
      else match unaryTest? c (text op) s with
        | some b => .holds b
        | none => .wrong (text op ++ ": unexpected operator")
    | a :: op :: b :: rest =>
      let three : Option Verdict :=
        if !rest.isEmpty then none
        else match binaryTest? (text op) a b with
          | some (some r) => some (.holds r)
          | some none =>
            let bad := if (int? a).isNone then a else b
            some (.wrong ("Illegal number: " ++ text bad))
          | none => none
      match three with
      | some v => v
      | none =>
        match split "-o" with
        | some (l, r) =>
          match evalTest c fuel l, evalTest c fuel r with
          | .holds x, .holds y => .holds (x || y)
          | .wrong m, _ => .wrong m
          | _, v => v
        | none =>
          match split "-a" with
          | some (l, r) =>
            match evalTest c fuel l, evalTest c fuel r with
            | .holds x, .holds y => .holds (x && y)
            | .wrong m, _ => .wrong m
            | _, v => v
          | none =>
            if a = ['!'] then (evalTest c fuel (op :: b :: rest)).not
            else if a = ['('] ∧ words.getLast? = some [')'] then
              evalTest c fuel ((op :: b :: rest).dropLast)
            else .wrong (text op ++ ": unexpected operator")

/-- The tool `test` gives the truth of a condition as its code. -/
def test (c : Call) (name : String) : Run :=
  let words := if name = "[" then c.arguments.dropLast else c.arguments
  if name = "[" && c.arguments.getLast? != some [']'] then
    atOnce c [] (complaint name "missing ']'") 2
  else match evalTest c (words.length + 2) words with
    | .holds b => atOnce c [] [] (if b then 0 else 1)
    | .wrong m => atOnce c [] (complaint name m) 2

/-- The program of a name, unless it is one that runs others. -/
def run? (name : String) (c : Call) : Option Run :=
  match name with
  | "echo" => some (echo c)
  | "printf" => some (printf c)
  | "cat" => some (cat c)
  | "sleep" => some (sleep c)
  | "yes" => some (yes c)
  | "true" => some (atOnce c [] [] 0)
  | "false" => some (atOnce c [] [] 1)
  | "tr" => some (tr c)
  | "head" => some (head c)
  | "tail" => some (tail c)
  | "wc" => some (wc c)
  | "seq" => some (seq c)
  | "printenv" => some (printenv c)
  | "pwd" => some (pwd c)
  | "ls" => some (ls c)
  | "test" => some (test c name)
  | "[" => some (test c name)
  | _ => none

end Tool

end ExitContract
