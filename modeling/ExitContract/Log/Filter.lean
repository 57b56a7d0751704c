import ExitContract.Binary64
import ExitContract.Log.Record
import ExitContract.Regex.Usable
import ExitContract.Text.Letter
import ExitContract.Text.Numeral
import ExitContract.Text.Utf8

/-!
# Log filters

Which events are written.

A filter is a list of directives with commas between them. A directive names a level, or a target and
perhaps a level for it, or it speaks of spans and fields in brackets. An event is written if the
directive for the longest target that starts the target of the event allows its level. Without such a
directive it is not written.

## Main definitions

* `Source.target` — the name of a part of the program
* `Filter` — the directives, with `Filter.parse?` and `Filter.ofLevel`
* `Filter.allows` — whether an event is written

## Design notes

The program has no spans, so a directive that speaks of one never applies. One that only asks for
fields applies to events, which have a message and no other field. The values that a directive asks
for are therefore never compared with anything, but they have to make sense all the same.
-/

namespace ExitContract

/-- The name of a part of the program. -/
def Source.target : Source → String
  | .program => "procwrap"
  | .argumentFiles => "procwrap::argfile::expand"
  | .configuration => "procwrap::config::loader"
  | .failures => "procwrap::error"
  | .runner => "procwrap::executor::runner"
  | .stream => "procwrap::executor::stream"

namespace Level

/-- How much has to be written for an event of a level to be written. -/
def rank : Level → Nat
  | .error => 1
  | .warn => 2
  | .info => 3
  | .debug => 4
  | .trace => 5

/-- The name of a level. -/
def name : Level → String
  | .error => "ERROR"
  | .warn => "WARN"
  | .info => "INFO"
  | .debug => "DEBUG"
  | .trace => "TRACE"

end Level

/-- How much is written: nothing, or everything up to a rank. -/
abbrev Verbosity := Nat

/-- The verbosities by their names. -/
def verbosities : List (String × Verbosity) :=
  [("off", 0), ("error", 1), ("warn", 2), ("info", 3), ("debug", 4), ("trace", 5)]

/-- A letter in lower case, if it is an ASCII one. -/
def asciiLower (s : List Char) : String := String.ofList (s.map Char.toLower)

/-- The verbosity that a text names: by its number, by its name, or by nothing. -/
def Verbosity.parse? (s : List Char) : Option Verbosity :=
  match readNatural 0xffffffffffffffff s with
  | .ok n => if n ≤ 5 then some n else none
  | .error _ => if s.isEmpty then some 1 else List.lookup (asciiLower s) verbosities

/-- One rule about what is written. -/
structure Directive where
  /-- What the targets that it is for start with; without it, it is for all. -/
  target : Option (List Char)
  verbosity : Verbosity
  /-- The span that it is for. -/
  span : Option (List Char)
  /-- The fields that it asks for, each with whether it asks for a value. -/
  fields : List (List Char × Bool)
  deriving DecidableEq, Repr

namespace Directive

/-- How far the reading of a directive has come. The numbers are places in its text, counted in
octets. -/
inductive Progress
  | start
  | levelOrTarget (first : Nat)
  | span (first : Nat)
  | field (first : Nat)
  | fields
  | target
  | level (first : Nat)
  deriving DecidableEq, Repr

/-- The characters of a text from a place on. -/
def onwards (text : List Char) (first : Nat) : List Char :=
  Utf8.decodeLossyChars ((Utf8.encodeChars text).drop first)

/-- The characters of a text from a place up to another one. -/
def slice (text : List Char) (first last : Nat) : List Char :=
  Utf8.decodeLossyChars (((Utf8.encodeChars text).take last).drop first)

/-- Whether a field can be asked to have a value: a truth value, a number, or a pattern. -/
def isFieldValue (value : List Char) : Bool :=
  let word := String.ofList value
  word == "true" || word == "false" || (Binary64.read? word).isSome || Regex.isUsableText value

/-- The field that a text asks for, with whether it asks for a value. The value ends where a second
sign of equality stands. -/
def fieldOf? (text : List Char) : Option (List Char × Bool) :=
  match text.dropWhile (· != '=') with
  | [] => some (text, false)
  | _ :: rest =>
    if isFieldValue (rest.takeWhile (· != '=')) then some (text.takeWhile (· != '='), true) else none

/-- Reads on by one character, which stands at a place. -/
def advance (text : List Char) (d : Directive) (p : Progress) (place : Nat) (c : Char) :
    Option (Directive × Progress) :=
  match p with
  | .start =>
    if c = '[' then some (d, .span (place + 1))
    else if c = '-' || c = ':' || c = '_' || isLetterOrNumber c then some (d, .levelOrTarget place)
    else none
  | .levelOrTarget first =>
    if c = '=' then some ({ d with target := some (slice text first place) }, .level (place + 1))
    else if c = '[' then some ({ d with target := some (slice text first place) }, .span (place + 1))
    else some (d, p)
  | .span first =>
    if c = ']' then some ({ d with span := some (slice text first place) }, .target)
    else if c = '{' then
      let name := slice text first place
      some ({ d with span := if name.isEmpty then none else some name }, .field (place + 1))
    else some (d, p)
  | .field first =>
    if c = '}' then
      let field := slice text first place
      if field.isEmpty then none
      else (fieldOf? field).map fun f => ({ d with fields := d.fields ++ [f] }, .fields)
    else some (d, p)
  | .fields => if c = ']' then some (d, .target) else none
  | .target => if c = '=' then some (d, .level (place + 1)) else none
  | .level _ => some (d, p)

/-- Reads the characters of a directive from a place on. -/
def readFrom (text : List Char) (d : Directive) (p : Progress) (place : Nat) :
    List Char → Option (Directive × Progress)
  | [] => some (d, p)
  | c :: cs =>
    match advance text d p place c with
    | none => none
    | some (d, p) => readFrom text d p (place + c.utf8Size) cs

/-- The verbosity of a directive that names none. -/
def everything : Verbosity := 5

/-- Reads a directive. Blanks around it do not count where its parts are told apart, but they do where
their texts are taken. -/
def parse? (text : List Char) : Option Directive :=
  match readFrom text ⟨none, everything, none, []⟩ .start 0 (trimBlanks text) with
  | none => none
  | some (d, p) =>
    match p with
    | .levelOrTarget first =>
      let rest := onwards text first
      if rest.isEmpty then some d
      else match Verbosity.parse? rest with
        | some v => some { d with verbosity := v }
        | none => some { d with target := some rest }
    | .level first =>
      let rest := onwards text first
      if rest.isEmpty then some d
      else (Verbosity.parse? rest).map fun v => { d with verbosity := v }
    | .target => some d
    | .start | .span _ | .field _ | .fields => none

/-- The field that every event has. -/
def messageField : List Char := "message".toList

/-- Whether a directive is for the events of a target. -/
def concerns (d : Directive) (target : List Char) : Bool :=
  d.span.isNone && (d.fields.all fun f => !f.2 && f.1 == messageField) &&
    match d.target with
    | none => true
    | some t => t.isPrefixOf target

/-- Whether a directive is more particular than another one. -/
def beats (d e : Directive) : Bool :=
  let size (d : Directive) : Nat := (d.target.map fun t => t.length + 1).getD 0
  size e < size d || (size e == size d && e.fields.length ≤ d.fields.length)

end Directive

/-- Which events are written. -/
abbrev Filter := List Directive

namespace Filter

/-- Cuts a text at its commas. -/
def items : List Char → List (List Char)
  | [] => [[]]
  | c :: cs =>
    if c = ',' then [] :: items cs
    else match items cs with
      | [] => [[c]]
      | item :: rest => (c :: item) :: rest

/-- Reads a filter; every item of it has to make sense. Where there is none, nothing is written. -/
def parse? (text : String) : Option Filter :=
  ((items text.toList).filter fun i => !i.isEmpty).mapM Directive.parse?

/-- The level that a configured name stands for. -/
def configuredVerbosity (name : String) : Verbosity :=
  match asciiLower (trimBlanks name.toList) with
  | "error" => 1
  | "warn" => 2
  | "warning" => 2
  | "debug" => 4
  | "trace" => 5
  | _ => 3

/-- The filter for a configured level: the program itself, up to it. -/
def ofLevel (name : String) : Filter :=
  [⟨some Source.program.target.toList, configuredVerbosity name, none, []⟩]

/-- The directive that decides about a target: the most particular one, of equals the last. -/
def decisive? (f : Filter) (target : List Char) : Option Directive :=
  (f.filter fun d => d.concerns target).foldl (fun best d =>
    match best with
    | none => some d
    | some b => if d.beats b then some d else some b) none

/-- Whether an event is written. -/
def allows (f : Filter) (e : Event) : Bool :=
  match f.decisive? e.source.target.toList with
  | none => false
  | some d => decide (e.level.rank ≤ d.verbosity)

end Filter

end ExitContract
