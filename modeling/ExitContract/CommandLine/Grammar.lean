/-!
# The grammar of the command line

Which options there are, how they are spelled, and where they may stand.

## Main definitions

* `Scope` — the program itself and its three subcommands
* `Item` — the options and the operand, with their spellings
* `Scope.items` — the options of a scope
-/

namespace ExitContract

namespace CommandLine

/-- The parts of a command line: the program itself, before any subcommand, and the subcommands. -/
inductive Scope
  | root
  | run
  | stream
  | tokenize
  deriving DecidableEq, Repr

/-- The subcommands. -/
def Scope.subcommands : List Scope := [.run, .stream, .tokenize]

/-- The name of a subcommand. -/
def Scope.name : Scope → String
  | .root => ""
  | .run => "run"
  | .stream => "stream"
  | .tokenize => "tokenize"

/-- Whether a scope ends with a command, which takes every word from its first one on. -/
def Scope.takesCommand : Scope → Bool
  | .run | .stream => true
  | .root | .tokenize => false

/-- What a user may set. -/
inductive Item
  | verbose
  | config
  | help
  | version
  | format
  | message
  | expect
  | noExpect
  | directory
  | assignment
  | timeout
  | killCode
  | failOnTimeout
  /-- The operand of `tokenize`. -/
  | file
  deriving DecidableEq, Repr

namespace Item

/-- The long spelling of an option. -/
def long : Item → String
  | .verbose => "verbose"
  | .config => "config"
  | .help => "help"
  | .version => "version"
  | .format => "format"
  | .message => "message"
  | .expect => "expect"
  | .noExpect => "no-expect"
  | .directory => "dir"
  | .assignment => "env"
  | .timeout => "timeout"
  | .killCode => "kill-code"
  | .failOnTimeout => "fail-on-timeout"
  | .file => ""

/-- The short spelling of an option. -/
def short? : Item → Option Char
  | .verbose => some 'v'
  | .config => some 'c'
  | .help => some 'h'
  | .version => some 'V'
  | .format => some 'f'
  | .message => some 'm'
  | .directory => some 'C'
  | .assignment => some 'e'
  | .timeout => some 't'
  | .expect | .noExpect | .killCode | .failOnTimeout | .file => none

/-- Whether an option takes a value. -/
def takesValue : Item → Bool
  | .config | .format | .message | .expect | .directory | .assignment | .timeout | .killCode
  | .file => true
  | .verbose | .help | .version | .noExpect | .failOnTimeout => false

/-- Whether the value of an option may start with a hyphen when it stands in a word of its own. -/
def hyphenValue : Item → Bool
  | .expect | .killCode => true
  | _ => false

/-- Whether an option may be given more than once. -/
def repeatable : Item → Bool
  | .assignment => true
  | _ => false

end Item

/-- The options of a scope. -/
def Scope.items : Scope → List Item
  | .root => [.verbose, .config, .help, .version]
  | .run => [.format, .message, .expect, .noExpect, .directory, .assignment, .verbose, .config,
      .help, .version]
  | .stream => [.timeout, .killCode, .failOnTimeout, .message, .expect, .noExpect, .directory,
      .assignment, .verbose, .config, .help, .version]
  | .tokenize => [.format, .verbose, .config, .help, .version]

/-- The option of a scope with a long spelling. -/
def Scope.long? (s : Scope) (name : String) : Option Item := s.items.find? fun i => i.long == name

/-- The option of a scope with a short spelling. -/
def Scope.short? (s : Scope) (c : Char) : Option Item := s.items.find? fun i => i.short? == some c

/-- The subcommand with a name. -/
def Scope.ofName? (name : String) : Option Scope := Scope.subcommands.find? fun s => s.name == name

end CommandLine

end ExitContract
