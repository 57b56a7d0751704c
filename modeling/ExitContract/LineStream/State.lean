import ExitContract.Capture

/-!
# Streams of lines

The output of a running command, taken line by line, under a limit on its time.

A stream stands between two sides. On the one side is the world: the reader of the child's output
sends lines and, at the end of the output, says that no more will come; the child ends; the limit
passes. On the other side is the caller, who asks for one line at a time, may give up waiting, and may
drop the stream.

**Calls in steps.** A call that has to wait is a phase of the stream, and every look at what it waits
for is a step of its own. Giving up is possible between any two steps. This admits more histories than
any scheduler produces, so what holds of all of them holds of every real one.

**The reader.** It lets go of the output with its last line and has nothing to do after that. So a call
that sees the output closed need not wait for the reader as well, and goes straight on to the child.

**The limit.** A call that begins before the stream has killed its child watches the limit as well. When
a line and the limit are both there, either may come first: the caller of `step` says which.

**The verdict.** When no more lines will come, the call goes on to wait for the child. The step that
learns its status settles everything at once: the exit code, the answer, and that the stream is done.

**Signals.** A child under a limit leads a group of its own until it has been waited for; then the number
of the group may belong to somebody else. The stream kills the group, or the child alone if there is no
group or the system does not deliver the signal to it. The events that may send signals carry what these
come to, so that nothing is assumed of it. Dropping the stream sends the child a signal of its own,
unless an earlier one has reached it, and then no failure of that is told.

## Main definitions

* `LineStream.State` — the state of a stream, with what the world has done so far
* `LineStream.Event`, `LineStream.Output` — what happens, and what it makes the stream do
* `LineStream.verdict` — the answer of a stream whose child has ended
* `LineStream.State.step`, `LineStream.State.run` — one event, and a history of them
-/

namespace ExitContract

namespace LineStream

/-- What a call answers. -/
inductive Answer
  | line (text : String)
  /-- No more lines come, and nothing is wrong. -/
  | finished
  | failed (failure : Failure)
  deriving DecidableEq, Repr

/-- What a pending call waits for. -/
inductive Phase
  /-- There is no pending call. -/
  | idle
  /-- A line, and the limit if `guarded`. -/
  | receiving (guarded : Bool)
  /-- The end of the child, and the limit if `guarded`. -/
  | reaping (guarded : Bool)
  deriving DecidableEq, Repr

/-- Who gets the signal that kills. -/
inductive Target
  /-- The child with everything in its group. -/
  | group
  /-- The child alone. -/
  | child
  deriving DecidableEq, Repr

/-- A signal that was sent, and why it was not delivered, if it was not. -/
structure Signal where
  target : Target
  refusal : Option SignalError
  deriving DecidableEq, Repr

/-- Whether a signal was delivered. -/
def Signal.arrived (g : Signal) : Bool := g.refusal.isNone

/-- The state of a stream. -/
structure State where
  /-- The command in its written form. -/
  command : String
  options : Options
  /-- Lines that were sent and not yet taken. -/
  queue : List String
  /-- No more lines will be sent. -/
  closed : Bool
  /-- The lines that calls have answered. -/
  transcript : List String
  /-- The limit passed and the child was killed for it. -/
  killed : Bool
  /-- The verdict has been given. -/
  done : Bool
  exitCode : Option Int32
  /-- The child has been waited for. -/
  reaped : Bool
  /-- Dropping the stream still sends the child a signal of its own. -/
  armed : Bool
  /-- The caller has let go of the stream. -/
  dropped : Bool
  phase : Phase
  /-- All lines that were sent. -/
  sent : List String
  /-- How the child ended, or why that cannot be learned. -/
  ending : Option (Except IoError WaitStatus)
  /-- The limit has passed. -/
  expired : Bool

/-- What happens. -/
inductive Event
  /-- A line is sent. -/
  | arrive (line : String)
  /-- The output is at its end. -/
  | close
  /-- The child ends, or waiting for it starts to fail. -/
  | exit (ending : Except IoError WaitStatus)
  /-- The limit passes. -/
  | expire
  /-- The caller asks for a line. -/
  | call
  /-- The pending call looks for what it waits for, for the limit first if `limitFirst`; signals come to
  what `delivery` says. -/
  | poll (limitFirst : Bool) (delivery : Delivery := {})
  /-- The caller gives up waiting. -/
  | cancel
  /-- The caller lets go of the stream; signals come to what `delivery` says. -/
  | drop (delivery : Delivery := {})

/-- What an event makes a stream do. -/
structure Output where
  answer : Option Answer := none
  log : List ExitContract.Event := []
  /-- The signals that were sent, the first one first. -/
  signals : List Signal := []
  /-- The stream took the limit to have passed and set out to kill the child for it. -/
  struck : Bool := false

/-- A stream of a command that was just started. -/
def State.start (command : String) (options : Options) : State where
  command := command
  options := options
  queue := []
  closed := false
  transcript := []
  killed := false
  done := false
  exitCode := none
  reaped := false
  armed := true
  dropped := false
  phase := .idle
  sent := []
  ending := none
  expired := false

/-- The answer of a stream whose child has ended. Being killed for the limit is a failure of its own if
that is asked for and the exit code is that of a killed child; otherwise the exit code has to be the
expected one or that of a killed child. -/
def verdict (options : Options) (command : String) (killed : Bool) (code : Int32) (output : String) :
    Answer :=
  if killed && options.failOnTimeout && code == options.killCode then
    .failed (.timeoutKill command options.timeout.inSeconds code output)
  else if options.accepts code || code == options.killCode then .finished
  else .failed (.unexpectedExit options.errorMessage command code output)

namespace State

/-- The lines so far as one text. -/
def outputText (s : State) : String := "\n".intercalate s.transcript

/-- Whether the child is under a limit, and so leads a group of its own. -/
def timed (s : State) : Bool := !s.options.timeout.isZero

/-- Whether a call has to watch the limit. -/
def watches (s : State) : Bool := s.timed && !s.killed

/-- Whether the child leads a group that can be killed. -/
def leads (s : State) : Bool := s.timed && !s.reaped

/-- Kills the group of the child, if there is one. -/
def killGroup (s : State) (d : Delivery) : Output :=
  if s.leads then
    { signals := [⟨.group, d.group⟩]
      log := d.group.toList.map fun e =>
        .warn .stream ("Failed to kill process group of " ++ s.command ++ ": " ++ e.groupMessage) }
  else {}

/-- Kills the child alone. One that has been waited for is not to be had. -/
def killChild (s : State) (d : Delivery) : Output :=
  let complaint (reason : String) : ExitContract.Event :=
    .warn .stream ("Failed to kill " ++ s.command ++ ": " ++ reason)
  if s.reaped then { log := [complaint "invalid argument: can't kill an exited process"] }
  else
    { signals := [⟨.child, d.child⟩]
      log := d.child.toList.map fun e => complaint e.message }

/-- Kills the group of the child, or the child alone if that is not done with it. -/
def killSomehow (s : State) (d : Delivery) : Output :=
  let group := s.killGroup d
  if group.signals.any Signal.arrived then group
  else
    let child := s.killChild d
    { signals := group.signals ++ child.signals, log := group.log ++ child.log }

/-- Kills the child because the limit has passed. -/
def kill (s : State) (d : Delivery) : State × Output :=
  let out := s.killSomehow d
  ({ s with killed := true, armed := s.armed && !out.signals.contains ⟨.child, none⟩ },
    { log := .warn .stream ("Killed by timeout after " ++ s.options.timeout.inSeconds.tenths ++ "s: " ++
        s.command) :: out.log
      signals := out.signals
      struck := true })

/-- Takes a line, or learns that no more come. -/
def receive? (s : State) : Option (State × Output) :=
  match s.queue with
  | line :: rest =>
    some ({ s with queue := rest, transcript := s.transcript ++ [line], phase := .idle },
      { answer := some (.line line) })
  | [] => if s.closed then some ({ s with phase := .reaping s.watches }, {}) else none

/-- Learns how the child ended, and gives the verdict. -/
def reap? (s : State) : Option (State × Output) :=
  match s.ending with
  | none => none
  | some (.error cause) =>
    some ({ s with done := true, phase := .idle },
      { answer := some (.failed (.inputOutput s.command s.outputText cause)) })
  | some (.ok status) =>
    let code := status.exitCode
    some ({ s with done := true, exitCode := some code, reaped := true, phase := .idle },
      { answer := some (verdict s.options s.command s.killed code s.outputText)
        log := [exitEvent .stream s.command code] })

/-- Learns that the limit has passed. The call waits on, without watching it. -/
def expire? (s : State) (d : Delivery) (guarded : Bool) (unguarded : Phase) :
    Option (State × Output) :=
  if guarded && s.expired then
    let (s, out) := s.kill d
    some ({ s with phase := unguarded }, out)
  else none

/-- The pending call looks for what it waits for. -/
def poll (s : State) (limitFirst : Bool) (d : Delivery) : State × Output :=
  let choose (work limit : Option (State × Output)) : State × Output :=
    ((if limitFirst then limit.or work else work.or limit)).getD (s, {})
  match s.phase with
  | .idle => (s, {})
  | .receiving guarded => choose s.receive? (s.expire? d guarded (.receiving false))
  | .reaping guarded => choose s.reap? (s.expire? d guarded (.reaping false))

/-- The caller asks for a line. A stream that is done has none. -/
def call (s : State) : State × Output :=
  if s.done then (s, { answer := some .finished })
  else ({ s with phase := .receiving s.watches }, {})

/-- The caller lets go of the stream: a child that has not been waited for is killed. -/
def drop (s : State) (d : Delivery) : State × Output :=
  let group := if s.exitCode.isNone then s.killGroup d else {}
  let child := if s.armed && !s.reaped then [⟨.child, d.child⟩] else []
  ({ s with dropped := true }, { signals := group.signals ++ child, log := group.log })

/-- What an event does to a stream. One that cannot happen does nothing. -/
def step (s : State) : Event → State × Output
  | .arrive line =>
    if s.closed then (s, {}) else ({ s with queue := s.queue ++ [line], sent := s.sent ++ [line] }, {})
  | .close => ({ s with closed := true }, {})
  | .exit ending => if s.ending.isSome then (s, {}) else ({ s with ending := some ending }, {})
  | .expire => if s.timed then ({ s with expired := true }, {}) else (s, {})
  | .call => if s.phase = .idle ∧ s.dropped = false then s.call else (s, {})
  | .poll limitFirst delivery => s.poll limitFirst delivery
  | .cancel => ({ s with phase := .idle }, {})
  | .drop delivery =>
    if s.phase = .idle ∧ s.dropped = false then s.drop delivery else (s, {})

/-- What a history of events does to a stream. -/
def run (s : State) : List Event → State × List Output
  | [] => (s, [])
  | e :: es =>
    let (s, out) := s.step e
    let (s, outs) := run s es
    (s, out :: outs)

end State

end LineStream

end ExitContract
