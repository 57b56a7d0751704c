import ExitContract.CommandLine.Grammar
import ExitContract.CommandLine.Request
import ExitContract.Text.Numeral
import ExitContract.World

/-!
# Reading a command line

From words to a request, or to the reason why there is none.

A scope reads its words from left to right. An option without its value waits for the next word; a
value that stands in a word of its own is looked at only when the next option or operand comes, or at
the end. The first word that is neither an option nor a value starts the command of `run` and
`stream`, and so does everything after `--`; from there on no word is looked at any more.

## Main definitions

* `Stop` — the reasons why there is no request
* `Settings` — what was set so far
* `readScope` — the words of one subcommand
* `parse` — the whole command line

## Design notes

The words of the command are taken over as a whole (`Step.command`), so nothing can happen to them.
-/

namespace ExitContract

namespace CommandLine

/-- Why a command line is no request. -/
inductive Stop
  | displayHelp
  /-- The version was asked for, of the program or of a subcommand. -/
  | displayVersion (scope : Scope)
  /-- Nothing was asked at all, which is answered by the help. -/
  | displayHelpForNothing
  | invalidValue
  | unknownArgument
  | invalidSubcommand
  | missingSubcommand
  | missingRequiredArgument
  | argumentConflict
  | tooManyValues
  | invalidUtf8
  /-- A value is not of its kind; the message says why. -/
  | valueValidation (message : String)
  deriving DecidableEq, Repr

namespace Stop

/-- The exit code of the program for a command line that is no request. -/
def exitCode : Stop → Int32
  | .displayHelp | .displayVersion _ => 0
  | _ => 2

/-- What is wrong with a value, where there is more to say. -/
def message? : Stop → Option String
  | .valueValidation message => some message
  | _ => none

/-- A reason that was found in a scope. -/
def within (scope : Scope) : Stop → Stop
  | .displayVersion _ => .displayVersion scope
  | stop => stop

end Stop

/-- What was set in a scope. -/
structure Settings where
  verbose : Bool := false
  config : Option String := none
  format : Option OutputFormat := none
  message : Option String := none
  expect : Option Int32 := none
  noExpect : Bool := false
  directory : Option Path := none
  bindings : List (String × String) := []
  timeout : Option UInt64 := none
  killCode : Option Int32 := none
  failOnTimeout : Bool := false
  file : Option Path := none
  deriving DecidableEq, Repr

namespace Settings

/-- Whether an item was set. -/
def has (s : Settings) : Item → Bool
  | .verbose => s.verbose
  | .config => s.config.isSome
  | .help | .version => false
  | .format => s.format.isSome
  | .message => s.message.isSome
  | .expect => s.expect.isSome
  | .noExpect => s.noExpect
  | .directory => s.directory.isSome
  | .assignment => !s.bindings.isEmpty
  | .timeout => s.timeout.isSome
  | .killCode => s.killCode.isSome
  | .failOnTimeout => s.failOnTimeout
  | .file => s.file.isSome

/-- Whether nothing was set. -/
def isEmpty (s : Settings) : Bool := s == {}

end Settings

/-! ### Values -/

/-- The text of a value. -/
def textValue (value : Bytes) : Except Stop String :=
  match Utf8.decode? value with
  | some s => .ok s
  | none => .error .invalidUtf8

/-- The largest number of signed 32 bits. -/
def maxInt32 : Nat := 0x7fffffff

/-- The largest number of signed 64 bits. -/
def maxInt64 : Nat := 0x7fffffffffffffff

/-- The largest number of unsigned 64 bits. -/
def maxUInt64 : Nat := 0xffffffffffffffff

/-- An exit code: a number of signed 64 bits that lies in the range of signed 32 bits. -/
def codeValue (text : String) : Except Stop Int32 :=
  match readInteger maxInt64 text.toList with
  | .error e => .error (.valueValidation e.message)
  | .ok n =>
    if -(maxInt32 : Int) - 1 ≤ n ∧ n ≤ maxInt32 then .ok (Int32.ofInt n)
    else .error (.valueValidation (toString n ++ " is not in -2147483648..=2147483647"))

/-- A number of seconds. -/
def secondsValue (text : String) : Except Stop UInt64 :=
  match readNatural maxUInt64 text.toList with
  | .error e => .error (.valueValidation e.message)
  | .ok n => .ok (UInt64.ofNat n)

/-- A variable with its value, split at the first equals sign. -/
def variableValue (text : String) : Except Stop (String × String) :=
  let cs := text.toList
  match cs.dropWhile (· != '=') with
  | [] => .error (.valueValidation
      ("invalid argument '" ++ text ++ "': expected KEY=VALUE format"))
  | _ :: value => .ok (String.ofList (cs.takeWhile (· != '=')), String.ofList value)

/-- An output format. Octets that are no text are just none of their names. -/
def formatValue (value : Bytes) : Except Stop OutputFormat :=
  match Utf8.decode? value with
  | some "text" => .ok .text
  | some "json" => .ok .json
  | _ => .error .invalidValue

/-- A path, which need not be text but must not be empty. -/
def pathValue (value : Bytes) : Except Stop Path :=
  if value.isEmpty then .error .invalidValue else .ok value

/-- Sets an item that takes a value. -/
def Settings.assign (s : Settings) (item : Item) (value : Bytes) : Except Stop Settings :=
  match item with
  | .config => (textValue value).map fun v => { s with config := some v }
  | .message => (textValue value).map fun v => { s with message := some v }
  | .format => (formatValue value).map fun v => { s with format := some v }
  | .expect => (textValue value).bind fun v =>
    (codeValue v).map fun v => { s with expect := some v }
  | .killCode => (textValue value).bind fun v =>
    (codeValue v).map fun v => { s with killCode := some v }
  | .timeout => (textValue value).bind fun v =>
    (secondsValue v).map fun v => { s with timeout := some v }
  | .assignment => (textValue value).bind fun v =>
    (variableValue v).map fun v => { s with bindings := s.bindings ++ [v] }
  | .directory => (pathValue value).map fun v => { s with directory := some v }
  | .file => (pathValue value).map fun v => { s with file := some v }
  | .verbose | .help | .version | .noExpect | .failOnTimeout => .ok s

/-- Sets an item to a value, unless it is set already and may not be set again. -/
def Settings.give (s : Settings) (item : Item) (value : Bytes) : Except Stop Settings :=
  if s.has item && !item.repeatable then .error .argumentConflict else s.assign item value

/-- Sets an item that takes no value, unless it is set already. -/
def Settings.raise (s : Settings) (item : Item) : Except Stop Settings :=
  match item with
  | .help => .error .displayHelp
  | .version => .error (.displayVersion .root)
  | item =>
    if s.has item then .error .argumentConflict
    else match item with
      | .verbose => .ok { s with verbose := true }
      | .noExpect => .ok { s with noExpect := true }
      | .failOnTimeout => .ok { s with failOnTimeout := true }
      | _ => .ok s

/-! ### One scope -/

/-- What a reader still has to deal with. -/
inductive Pending
  | nothing
  /-- An option that has no value yet. -/
  | awaiting (item : Item)
  /-- An item with a value that was not looked at yet. -/
  | held (item : Item) (value : Bytes)
  deriving DecidableEq, Repr

/-- A reader of one scope. -/
structure Reader where
  settings : Settings := {}
  pending : Pending := .nothing
  deriving DecidableEq, Repr

namespace Reader

/-- Deals with what is pending. -/
def settle (r : Reader) : Except Stop Settings :=
  match r.pending with
  | .nothing => .ok r.settings
  | .awaiting _ => .error .invalidValue
  | .held item value => r.settings.give item value

/-- Deals with what is pending, then gives an item its value. -/
def give (r : Reader) (item : Item) (value : Bytes) : Except Stop Reader :=
  r.settle.bind fun s => (s.give item value).map fun s => { settings := s }

/-- Deals with what is pending, then sets an item that takes no value. -/
def raise (r : Reader) (item : Item) : Except Stop Reader :=
  r.settle.bind fun s => (s.raise item).map fun s => { settings := s }

/-- Deals with what is pending, then waits for the value of an item. -/
def await (r : Reader) (item : Item) : Except Stop Reader :=
  r.settle.map fun s => { settings := s, pending := .awaiting item }

/-- Deals with what is pending, then holds a value of an item. -/
def hold (r : Reader) (item : Item) (value : Bytes) : Except Stop Reader :=
  r.settle.map fun s => { settings := s, pending := .held item value }

end Reader

/-- What one word is to a reader. -/
inductive Step
  /-- It is an option or a value. -/
  | next (r : Reader)
  /-- It is a word that no option takes. -/
  | operand
  /-- It is the mark after which no word is an option. -/
  | separator
  | stop (reason : Stop)
  deriving DecidableEq, Repr

/-- A step that goes on with a reader, if there is one. -/
def Step.ofResult : Except Stop Reader → Step
  | .ok r => .next r
  | .error e => .stop e

/-- The octet of a hyphen. -/
def hyphen : UInt8 := 45

/-- The octet of an equals sign. -/
def equals : UInt8 := 61

/-- Reads a word that starts with two hyphens, which are left out here. -/
def stepLong (scope : Scope) (r : Reader) (word : Bytes) : Step :=
  let name := word.takeWhile (· != equals)
  let attached := word.dropWhile (· != equals)
  match Utf8.decode? name with
  | none => .stop .unknownArgument
  | some name =>
    match scope.long? name, attached with
    | none, _ => if scope.takesCommand then .operand else .stop .unknownArgument
    | some item, [] => .ofResult (if item.takesValue then r.await item else r.raise item)
    | some item, _ :: value =>
      if item.takesValue then .ofResult (r.give item value) else .stop .tooManyValues

/-- Reads short options that share a word. The rest of the word after one that takes a value is its
value, with or without an equals sign before it. -/
def readCluster (scope : Scope) (r : Reader) : List Char → Except Stop Reader
  | [] => .ok r
  | c :: cs =>
    match scope.short? c with
    | none => .error .unknownArgument
    | some item =>
      if item.takesValue then
        match cs with
        | [] => r.await item
        | '=' :: value => r.give item (Utf8.encodeChars value)
        | value => r.give item (Utf8.encodeChars value)
      else (r.raise item).bind fun r => readCluster scope r cs

/-- Reads the readable start of a word of short options whose rest is not text. -/
def readBrokenCluster (scope : Scope) (r : Reader) : List Utf8.Piece → Bytes → Except Stop Reader
  | .scalar c :: pieces, rest =>
    match scope.short? c with
    | none => .error .unknownArgument
    | some item =>
      let rest := rest.drop (Utf8.encodeChars [c]).length
      if item.takesValue then
        r.give item (match rest with
          | b :: value => if b = equals then value else b :: value
          | [] => [])
      else (r.raise item).bind fun r => readBrokenCluster scope r pieces rest
  | _, _ => .error .unknownArgument

/-- Reads a word that starts with one hyphen, which is left out here. -/
def stepShort (scope : Scope) (r : Reader) (word : Bytes) : Step :=
  match Utf8.decodeChars? word with
  | none =>
    if scope.takesCommand then .operand
    else .ofResult (readBrokenCluster scope r (Utf8.pieces word) word)
  | some cs =>
    if scope.takesCommand && cs.any (fun c => (scope.short? c).isNone) then .operand
    else .ofResult (readCluster scope r cs)

/-- Reads a word that does not look like an option. -/
def stepPlain (r : Reader) (word : Bytes) : Step :=
  match r.pending with
  | .awaiting item => .next { r with pending := .held item word }
  | _ => .operand

/-- Reads a word that looked like an option and is none as a plain one. -/
def Step.orPlain (r : Reader) (word : Bytes) : Step → Step
  | .operand => stepPlain r word
  | s => s

/-- Reads a word by its looks. -/
def stepByLooks (scope : Scope) (r : Reader) (word : Bytes) : Step :=
  match word with
  | a :: b :: rest =>
    if a = hyphen then
      if b = hyphen then
        if rest.isEmpty then .separator else (stepLong scope r rest).orPlain r word
      else (stepShort scope r (b :: rest)).orPlain r word
    else stepPlain r word
  | _ => stepPlain r word

/-- Reads one word. An option whose value may start with a hyphen takes every word. -/
def step (scope : Scope) (r : Reader) (word : Bytes) : Step :=
  match r.pending with
  | .awaiting item =>
    if item.hyphenValue then .next { r with pending := .held item word }
    else stepByLooks scope r word
  | _ => stepByLooks scope r word

/-! ### The subcommands -/

/-- What a scope was given: its settings, and the words of its command. -/
structure Given where
  settings : Settings
  words : List Bytes
  deriving DecidableEq, Repr

/-- The words after `--` of `tokenize`: the file, unless there was one. -/
def readOperands (r : Reader) : List Bytes → Except Stop Reader
  | [] => .ok r
  | word :: words =>
    match r.pending, r.settings.file with
    | .held .file _, _ => .error .unknownArgument
    | _, some _ => .error .unknownArgument
    | _, none => (r.hold .file word).bind fun r => readOperands r words

/-- Takes over the words of a command. -/
def takeCommand (r : Reader) (words : List Bytes) : Except Stop Given :=
  r.settle.map fun s => ⟨s, words⟩

/-- Reads the words of a subcommand. -/
def readScope (scope : Scope) (r : Reader) : List Bytes → Except Stop Given
  | [] => r.settle.map fun s => ⟨s, []⟩
  | word :: words =>
    match step scope r word with
    | .next r => readScope scope r words
    | .stop e => .error e
    | .operand =>
      if scope.takesCommand then takeCommand r (word :: words)
      else match readOperands r [word] with
        | .error e => .error e
        | .ok r => readScope scope r words
    | .separator =>
      if scope.takesCommand then takeCommand r words
      else (readOperands r words).bind fun r => r.settle.map fun s => ⟨s, []⟩

/-- The settings of `run` and `stream` must not contradict each other, and there must be a command. -/
def checkExecution (s : Settings) (words : List String) : Except Stop Execution :=
  if s.expect.isSome && s.noExpect then .error .argumentConflict
  else if words.isEmpty then .error .missingRequiredArgument
  else .ok
    { message := s.message, expect := s.expect, noExpect := s.noExpect, directory := s.directory,
      bindings := s.bindings, words := words }

/-- What a subcommand was given as an action. -/
def action (scope : Scope) (given : Given) : Except Stop Action :=
  let s := given.settings
  let format := s.format.getD .text
  match given.words.mapM textValue with
  | .error e => .error e
  | .ok words =>
    match scope with
    | .tokenize =>
      match s.file with
      | none => .error .missingRequiredArgument
      | some file => .ok (.tokenize { file := file, format := format })
    | .stream => (checkExecution s words).map fun e =>
      .stream { timeout := s.timeout, killCode := s.killCode, failOnTimeout := s.failOnTimeout,
                execution := e }
    | .root | .run => (checkExecution s words).map fun e =>
      .run { format := format, execution := e }

/-! ### The whole command line -/

/-- The name of the subcommand that explains the others. -/
def helpName : String := "help"

/-- Whether a word is the name of a subcommand. -/
def isSubcommandName (word : Bytes) : Bool :=
  match Utf8.decode? word with
  | some name => name == helpName || (Scope.ofName? name).isSome
  | none => false

/-- What asking for help about words comes to: about nothing or about one subcommand there is some. -/
def helpAbout (words : List Bytes) : Stop :=
  match words with
  | [] => .displayHelp
  | [word] => if isSubcommandName word then .displayHelp else .invalidSubcommand
  | _ => .invalidSubcommand

/-- The variable that names a configuration file. -/
def configVariable : String := "PROCWRAP_CONFIG"

/-- The request made of what the program and its subcommand were given. What was given to the
subcommand counts first, and then what the surroundings say. -/
def request (env : Environment) (root : Settings) (sub : Settings) (a : Action) : Request where
  verbose := root.verbose || sub.verbose
  config := (sub.config.or root.config).or (env.get? configVariable)
  action := a

/-- Reads the words of a subcommand, then deals with what is pending before it. -/
def readSubcommand (env : Environment) (r : Reader) (scope : Scope) (words : List Bytes) :
    Except Stop Request :=
  match readScope scope {} words with
  | .error e => .error (e.within scope)
  | .ok given =>
    match action scope given with
    | .error e => .error e
    | .ok a => r.settle.map fun root => request env root given.settings a

/-- What words after `--` come to when no subcommand was named: none of them can name one. -/
def readStray (r : Reader) : List Bytes → Except Stop Settings
  | [] => r.settle
  | word :: _ => .error (if isSubcommandName word then .unknownArgument else .invalidSubcommand)

/-- The reason for there being no subcommand. -/
def withoutSubcommand (env : Environment) (s : Settings) : Stop :=
  if s.isEmpty && (env.get? configVariable).isNone then .displayHelpForNothing
  else .missingSubcommand

/-- Whether the next word may name a subcommand: not when an option waits for it. -/
def mayName (r : Reader) : Bool :=
  match r.pending with
  | .awaiting _ => false
  | _ => true

/-- Reads the words of the program up to the name of a subcommand, and then that one. -/
def readRoot (env : Environment) (r : Reader) : List Bytes → Except Stop Request
  | [] => r.settle.bind fun s => .error (withoutSubcommand env s)
  | word :: words =>
    if mayName r && word == Utf8.encode helpName then .error (helpAbout words)
    else
      match (if mayName r then (Utf8.decode? word).bind Scope.ofName? else none) with
      | some scope => readSubcommand env r scope words
      | none =>
        match step .root r word with
        | .next r => readRoot env r words
        | .stop e => .error e
        | .operand => .error .invalidSubcommand
        | .separator => (readStray r words).bind fun s => .error (withoutSubcommand env s)

/-- Reads a command line, of which the first word is the name of the program. -/
def parse (env : Environment) (line : List Bytes) : Except Stop Request :=
  readRoot env {} (line.drop 1)

end CommandLine

end ExitContract
