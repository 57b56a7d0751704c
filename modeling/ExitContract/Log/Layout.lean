import ExitContract.Config.Model
import ExitContract.Json.Printer
import ExitContract.Log.Filter

/-!
# Written log records

The line that an event becomes.

## Main definitions

* `Event.compactLine` — for a human reader
* `Event.jsonLine` — as an object
* `LogFormat.line` — in a format

## Design notes

A record starts with the time at which the event happened. That is no part of the event, so it is passed
in as it is to be written.
-/

namespace ExitContract

namespace Event

/-- A character of a message for a human reader. Those that could steer a terminal are spelled out. -/
def shownChar (c : Char) : List Char :=
  match c with
  | '\x1b' => "\\x1b".toList
  | '\x07' => "\\x07".toList
  | '\x08' => "\\x08".toList
  | '\x0c' => "\\x0c".toList
  | '\x7f' => "\\x7f".toList
  | c =>
    if 0x80 ≤ c.toNat && c.toNat ≤ 0x9f then
      '\\' :: 'u' :: '\x7b' :: Json.hexChar (c.toNat / 16) :: Json.hexChar (c.toNat % 16) :: ['\x7d']
    else [c]

/-- A message for a human reader. -/
def shown (message : String) : String := String.ofList (message.toList.flatMap shownChar)

/-- The width of the column of levels. -/
def levelWidth : Nat := 5

/-- The name of a level, set to the right of its column. -/
def levelColumn (l : Level) : String :=
  String.ofList (List.replicate (levelWidth - l.name.length) ' ') ++ l.name

/-- The record for a human reader. -/
def compactLine (stamp : String) (e : Event) : String :=
  stamp ++ " " ++ levelColumn e.level ++ " " ++ e.source.target ++ ": " ++ shown e.message ++ "\n"

/-- The record as an object. -/
def jsonLine (stamp : String) (e : Event) : String :=
  Json.compact (.object [("timestamp", .text stamp), ("level", .text e.level.name),
    ("fields", .object [("message", .text e.message)]), ("target", .text e.source.target)]) ++ "\n"

end Event

/-- The record of an event in a format. -/
def LogFormat.line (stamp : String) : LogFormat → Event → String
  | .compact, e => e.compactLine stamp
  | .json, e => e.jsonLine stamp

end ExitContract
