import ExitContract.Child.Timeline
import ExitContract.LineStream.Lines
import ExitContract.LineStream.State

/-!
# Streams over time

A stream of lines together with the child that feeds it and a clock.

The child is a timeline that is known in advance. Whatever it does by an instant happens before the
caller looks at the stream at that instant, and when the caller has to wait, the clock jumps to the next
instant at which something happens. Nothing here touches the state of the stream but through its steps.

## Main definitions

* `Session` — the stream, the child and the clock
* `Session.openAt`, `Session.open` — starting a command
* `Session.write`, `Session.finishOutput` — what the reader of the output makes of it
* `Session.next` — asking for a line, perhaps not for ever
* `Session.drain`, `Session.collect`, `Session.drop` — what else a caller can do
-/

namespace ExitContract

open LineStream (Answer Signal)

/-- A stream of lines, its child and a clock. -/
structure Session where
  stream : LineStream.State
  /-- What the child is still going to do. -/
  child : Timeline
  /-- Octets of a line whose end has not come yet, the last one first. -/
  held : Bytes
  now : Nat
  /-- When the limit passes. -/
  deadline : Option Nat
  /-- What was said so far. -/
  log : List Event

/-- What comes of starting a command. -/
inductive Opening
  | opened (session : Session)
  | failed (failure : Failure)
  /-- No clock can show the end of the limit; the whole program stops. -/
  | beyondClock

/-- What comes of asking for a line. -/
inductive Reply
  | answer (a : Answer)
  /-- The caller gave up waiting. -/
  | pending
  /-- Nothing ever comes. -/
  | never
  deriving DecidableEq, Repr

namespace Session

/-- The session of a command that was just started. -/
def start (c : Command) (o : Options) (child : Timeline) (deadline : Option Nat)
    (log : List Event) : Session :=
  ⟨LineStream.State.start c.render o, child, [], 0, deadline, log⟩

/-- Starts a command when the clock of the system shows `reading`: its child, or why there is none. The
session counts its own time from there. -/
def openAt (reading : Int) (c : Command) (o : Options) (child : Except IoError Timeline) :
    Logged Opening :=
  let begun := Event.debug .stream ("Executing streamed: " ++ c.render)
  match child with
  | .error cause => ⟨[begun], .failed (.launch c.executable c.render cause)⟩
  | .ok child =>
    let session (deadline : Option Nat) : Opening := .opened (start c o child deadline [begun])
    match child.unwatched with
    | some cause => ⟨[begun], .failed (.inputOutput c.render "" cause)⟩
    | none =>
      if o.timeout.isZero then ⟨[begun], session none⟩
      else if o.timeout.fitsAfter reading then ⟨[begun], session (some o.timeout.nanoseconds)⟩
      else ⟨[begun], .beyondClock⟩

/-- Starts a command when the clock of the system is at its zero. -/
def «open» (c : Command) (o : Options) (child : Except IoError Timeline) : Logged Opening :=
  openAt 0 c o child

/-- An event happens to the stream. A signal that is delivered ends the child at once, with everything
it started. -/
def feed (s : Session) (e : LineStream.Event) : Session × Option Answer :=
  let (stream, out) := s.stream.step e
  ({ s with
    stream := stream
    log := s.log ++ out.log
    child := if out.signals.any Signal.arrived then s.child.killedAt s.now else s.child }, out.answer)

/-- Events happen to the stream. -/
def feedAll (s : Session) (es : List LineStream.Event) : Session :=
  es.foldl (fun s e => (s.feed e).1) s

/-- The child writes octets. -/
def write (s : Session) (octets : Bytes) : Session :=
  let (lines, rest) := LineStream.cutLines s.held octets
  { s with held := rest.reverse }.feedAll ((lines.map LineStream.lineText).map .arrive)

/-- The child writes octets, one run after another. -/
def writeAll (s : Session) (runs : List Bytes) : Session := runs.foldl write s

/-- The output ends: what is left of it is a line, if it is anything, and no more lines come. -/
def finishOutput (s : Session) : Session :=
  let last := (LineStream.lastLine s.held.reverse).map LineStream.lineText
  let s : Session := { s with held := [] }
  s.feedAll (last.map .arrive ++ [.close])

/-- Reading the output fails: what is left of it is lost, and no more lines come. -/
def failOutput (s : Session) (cause : IoError) : Session :=
  if s.stream.closed then s
  else
    let complaint := Event.warn .stream ("Error reading output: " ++ cause.message)
    ({ s with held := [], log := s.log ++ [complaint] }.feed .close).1

/-- The output ends, or cannot be read any more. -/
def endOutput (s : Session) : Session :=
  match s.child.fault with
  | none => s.finishOutput
  | some cause => s.failOutput cause

/-- Whether an instant has come. -/
def isDue (s : Session) (t : Option Nat) : Bool :=
  match t with
  | some t => decide (t ≤ s.now)
  | none => false

/-- The child writes what it writes by now. -/
def writeDue (s : Session) : Session :=
  let written := s.child.writes.takeWhile fun w => w.1 ≤ s.now
  let s := s.writeAll (written.map (·.2))
  { s with child := { s.child with writes := s.child.writes.drop written.length } }

/-- Output without end goes on when no line waits. -/
def writeEndless (s : Session) : Session :=
  if s.isDue (s.child.endless.map (·.1)) && s.stream.queue.isEmpty then
    s.write ((s.child.endless.map (·.2)).getD [])
  else s

/-- The output ends when all of it has been written. -/
def closeDue (s : Session) : Session :=
  if s.isDue s.child.closed && s.child.writes.isEmpty && s.child.endless.isNone then s.endOutput
  else s

/-- What whoever waits for the child learns by now: how it ended, or why that is not to be learned. -/
def ending? (s : Session) : Option (Except IoError WaitStatus) :=
  match s.child.untold, s.child.ended with
  | some cause, _ => some (.error cause)
  | none, some (t, status) => if t ≤ s.now then some (.ok status) else none
  | none, none => none

/-- The child ends. -/
def exitDue (s : Session) : Session :=
  match s.ending? with
  | some ending => (s.feed (.exit ending)).1
  | none => s

/-- The limit passes. -/
def expireDue (s : Session) : Session := if s.isDue s.deadline then (s.feed .expire).1 else s

/-- Everything happens that is due. -/
def settle (s : Session) : Session := s.writeDue.writeEndless.closeDue.exitDue.expireDue

/-- The next instant at which something happens. -/
def nextInstant? (s : Session) : Option Nat :=
  let instants := (s.child.writes.head?.map (·.1)).toList ++ (s.child.endless.map (·.1)).toList ++
    s.child.closed.toList ++ (s.child.ended.map (·.1)).toList ++
    (if s.stream.watches then s.deadline.toList else [])
  (instants.filter fun t => s.now < t).foldl (fun best t =>
    match best with
    | none => some t
    | some b => some (min b t)) none

/-- The pending call looks for what it waits for. -/
def look (s : Session) : Session × Option Answer := s.feed (.poll false s.child.delivery)

/-- The pending call waits until it has an answer, or until the caller gives up. -/
def wait (fuel : Nat) (limit : Option Nat) (s : Session) : Session × Reply :=
  match fuel with
  | 0 => (s, .never)
  | fuel + 1 =>
    let s := s.settle
    let before := s.stream
    match s.look with
    | (s, some a) => (s, .answer a)
    | (s, none) =>
      if s.stream.phase ≠ before.phase then wait fuel limit s
      else
        match s.nextInstant?, limit with
        | some t, some l =>
          if t ≤ l then wait fuel limit { s with now := t }
          else ({ (s.feed .cancel).1 with now := l }, .pending)
        | some t, none => wait fuel limit { s with now := t }
        | none, some l => ({ (s.feed .cancel).1 with now := l }, .pending)
        | none, none => (s, .never)

/-- How many looks a pending call can need: two for each thing that may still happen, and those that
change its phase. -/
def patience (s : Session) : Nat := 2 * s.child.writes.length + 16

/-- Asks for a line, for so many nanoseconds if a limit is given. -/
def next (s : Session) (limit : Option Nat) : Session × Reply :=
  match s.feed .call with
  | (s, some a) => (s, .answer a)
  | (s, none) => s.wait s.patience (limit.map (s.now + ·))

/-- Asks for lines until there are no more: those that came, and the last reply. -/
def drainFrom (fuel : Nat) (s : Session) : Session × List String × Reply :=
  match fuel with
  | 0 => (s, [], .never)
  | fuel + 1 =>
    match s.next none with
    | (s, .answer (.line text)) =>
      let (s, lines, reply) := drainFrom fuel s
      (s, text :: lines, reply)
    | (s, reply) => (s, [], reply)

/-- How many more lines can come at most, if no output without end begins. -/
def linesAhead (s : Session) : Nat :=
  s.child.writes.foldl (fun n w => n + w.2.count LineStream.lineFeed) (s.stream.queue.length + 1)

/-- Asks for lines until there are no more. There is no last reply if they never end. -/
def drain (s : Session) : Session × List String × Reply := s.drainFrom (s.linesAhead + 1)

/-- Uses the stream up: all its lines, those already taken included, unless the verdict is a failure. -/
def collect (s : Session) : Session × Except Reply (List String) :=
  match s.drain with
  | (s, _, .answer .finished) => (s, .ok s.stream.transcript)
  | (s, _, reply) => (s, .error reply)

/-- Lets go of the stream. -/
def drop (s : Session) : Session := (s.feed (.drop s.child.delivery)).1

/-- Whether the child has not been waited for. -/
def running (s : Session) : Bool := !s.stream.reaped

end Session

end ExitContract
