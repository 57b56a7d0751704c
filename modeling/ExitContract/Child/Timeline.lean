import ExitContract.ExitStatus
import ExitContract.IoError
import ExitContract.Text.Utf8

/-!
# Timelines

What a child that was started does by itself, seen from outside: when it writes what, when the last
holder of its output lets go of it, and when and how it ends; and where the system fails whoever watches
it.

## Main definitions

* `Timeline` — the type; instants count nanoseconds from the start
* `Delivery` — what signals to a child come to
* `Timeline.finished?` — the whole output and the status, if there is an end
* `Timeline.killedAt` — the timeline of a child that is killed with everything it started

## Design notes

A child may write for ever. Its output is then the timed part followed by one run of octets without
end, from one instant on.

Reading the output may fail. Nothing of it is then seen any more, so this is an end of the output as
well, with the cause beside it.
-/

namespace ExitContract

/-- What signals to a child come to: for its group and for the child alone, why the signal is not
delivered, if it is not. -/
structure Delivery where
  group : Option SignalError := none
  child : Option SignalError := none
  deriving DecidableEq, Repr

/-- What a child does, seen from outside. -/
structure Timeline where
  /-- What it writes, with the instants, the earliest first. -/
  writes : List (Nat × Bytes)
  /-- What it then writes again and again, and from when on. -/
  endless : Option (Nat × Bytes)
  /-- When the output is closed, if it ever is. -/
  closed : Option Nat
  /-- When and how the child ends, if it ever does. -/
  ended : Option (Nat × WaitStatus)
  /-- Why nothing can be set to read its output line by line, if nothing can. -/
  unwatched : Option IoError := none
  /-- Why the output is closed to its reader, if reading it fails then. -/
  fault : Option IoError := none
  /-- Why the end of the child cannot be learned, if waiting for it fails. -/
  untold : Option IoError := none
  /-- What signals to it come to. -/
  delivery : Delivery := {}
  deriving DecidableEq, Repr

namespace Timeline

/-- The number of the signal that cannot be refused. -/
def killSignal : Nat := 9

/-- All that the child writes, but for what it writes without end. -/
def output (t : Timeline) : Bytes := t.writes.flatMap (·.2)

/-- The whole output and the status of a child that closes its output and ends. -/
def finished? (t : Timeline) : Option (Bytes × WaitStatus) :=
  match t.endless, t.closed, t.ended with
  | none, some _, some (_, status) => some (t.output, status)
  | _, _, _ => none

/-- The earlier of an instant and one that may never come. -/
def earlier (a : Nat) : Option Nat → Nat
  | none => a
  | some b => min a b

/-- The timeline of a child that is killed at an instant, with everything it started. What ended before
then is left as it was, and nothing is written without end. -/
def killedAt (t : Timeline) (instant : Nat) : Timeline :=
  { t with
    writes := t.writes.filter fun w => w.1 ≤ instant
    endless := none
    closed := some (earlier instant t.closed)
    fault := if t.closed.any (· ≤ instant) then t.fault else none
    ended := match t.ended with
      | some (time, status) =>
        if time ≤ instant then some (time, status) else some (instant, .signalled killSignal)
      | none => some (instant, .signalled killSignal) }

end Timeline

end ExitContract
