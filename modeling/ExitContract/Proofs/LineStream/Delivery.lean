import ExitContract.Proofs.LineStream.Move

/-!
# Delivery of lines

Every line that is sent comes out of the stream once, and in its place, whatever
the caller, the limit and the child do in between.

The two ends are read off the history itself: `linesSent` collects what the reader
sends before it closes the output, and `linesTaken` collects what calls answer.
Between them stands the state, whose transcript is what was taken and whose queue
is what is left.

**What a history adds.** Each of the two ends is a sum over the steps, so both are
proved by one fact about a single rule and one induction over the history.

## Main definitions

* `LineStream.linesSent`, `LineStream.linesTaken` — the two ends of a stream

## Main statements

* `LineStream.State.transcript_run`, `LineStream.State.sent_run` — what the state
  keeps of the two ends
* `LineStream.State.drained_of_last_answer` — an answer that is no line comes after
  the last line
* `LineStream.lines_delivered_once_in_order` — all of it together
-/

namespace ExitContract

namespace LineStream

/-- The lines that the reader sends in a history: those that come before the end of
the output. -/
def linesSent : List Event → List String
  | [] => []
  | .arrive line :: es => line :: linesSent es
  | .close :: _ => []
  | _ :: es => linesSent es

/-- The line that an answer carries. -/
def Answer.line? : Answer → Option String
  | .line text => some text
  | _ => none

/-- The answers among the outputs of a history. -/
def answers (outs : List Output) : List Answer := outs.filterMap Output.answer

/-- The lines that calls answer in a history. -/
def linesTaken (outs : List Output) : List String := (answers outs).filterMap Answer.line?

@[simp] theorem answers_nil : answers [] = [] := rfl

@[simp] theorem answers_cons (out : Output) (outs : List Output) :
    answers (out :: outs) = out.answer.toList ++ answers outs := by
  cases h : out.answer with
  | none => simp [answers, h]
  | some a => simp [answers, h]

@[simp] theorem linesTaken_cons (out : Output) (outs : List Output) :
    linesTaken (out :: outs) =
      (out.answer.bind Answer.line?).toList ++ linesTaken outs := by
  cases h : out.answer with
  | none => simp [linesTaken, h]
  | some a => cases hline : a.line? <;> simp [linesTaken, h, hline]

/-- After the end of the output nothing more is sent. -/
theorem linesSent_append_of_close {history : List Event}
    (closed : Event.close ∈ history) (later : List Event) :
    linesSent (history ++ later) = linesSent history := by
  induction history with
  | nil => cases closed
  | cons e es ih =>
      cases e with
      | close => rfl
      | arrive line =>
          have closed : Event.close ∈ es := by simpa using closed
          rw [List.cons_append, linesSent, linesSent, ih closed]
      | exit | expire | call | poll | cancel | drop =>
          have closed : Event.close ∈ es := by simpa using closed
          rw [List.cons_append, linesSent, linesSent, ih closed]
          all_goals nofun

namespace State

section

variable {s s' : State} {e : Event} {out : Output}

/-! ### What a history adds -/

/-- A verdict carries no line. -/
theorem verdict_line? (options : Options) (command : String) (killed : Bool)
    (code : Int32) (output : String) :
    (verdict options command killed code output).line? = none := by
  unfold verdict
  split
  · rfl
  · split <;> rfl

/-- A rule adds to the transcript the line that it answers, if it answers one. -/
theorem transcript_move (m : Move s e s' out) :
    s'.transcript = s.transcript ++ (out.answer.bind Answer.line?).toList := by
  cases m with
  | deliver => rfl
  | reap =>
      dsimp only
      rw [Option.bind_some, verdict_line?, Option.toList_none, List.append_nil]
  | _ => exact (List.append_nil _).symm

/-- The transcript is what calls have answered. -/
theorem transcript_run (s : State) (history : List Event) :
    (s.run history).1.transcript = s.transcript ++ linesTaken (s.run history).2 := by
  induction history generalizing s with
  | nil =>
      show s.transcript = s.transcript ++ []
      rw [List.append_nil]
  | cons e es ih =>
      simp [ih, transcript_move (step_move s e)]

/-- What a rule adds to the lines sent, and whether it ends the output: only the
reader's events do. -/
theorem sent_move (m : Move s e s' out) (opened : s.closed = false) (es : List Event) :
    s'.sent ++ (if s'.closed then [] else linesSent es) =
      s.sent ++ linesSent (e :: es) := by
  cases m with
  | late _ closed =>
      rw [opened] at closed
      cases closed
  | arrive line => simp [opened, linesSent]
  | close => simp [linesSent]
  | still e other => cases e <;> simp_all [Event.ofReader, linesSent]
  | _ => simp [opened, linesSent]

/-- Once the output is at its end, no rule adds a line or opens it again. -/
theorem sent_move_of_closed (m : Move s e s' out) (closed : s.closed = true) :
    s'.closed = true ∧ s'.sent = s.sent := by
  cases m with
  | arrive _ opened =>
      rw [closed] at opened
      cases opened
  | close => exact ⟨rfl, rfl⟩
  | _ => exact ⟨closed, rfl⟩

/-- The lines sent are those that the history sends, if the output was still
open. -/
theorem sent_run (s : State) (history : List Event) :
    (s.run history).1.sent = s.sent ++ if s.closed then [] else linesSent history := by
  -- Open or closed changes along the history, so the statement covers both.
  induction history generalizing s with
  | nil => cases hclosed : s.closed <;> simp [run, linesSent]
  | cons e es ih =>
      rw [run_cons, ih]
      cases hclosed : s.closed with
      | true =>
          obtain ⟨closed, sent⟩ := sent_move_of_closed (step_move s e) hclosed
          rw [closed, sent]
          rfl
      | false => exact sent_move (step_move s e) hclosed es

/-- Only the end of the output closes it. -/
theorem opened_move (m : Move s e s' out) (other : e ≠ .close)
    (opened : s.closed = false) : s'.closed = false := by
  cases m with
  | close => exact absurd rfl other
  | _ => exact opened

/-- The output is at its end only if the history says so. -/
theorem close_mem_of_closed {history : List Event} (opened : s.closed = false)
    (closed : (s.run history).1.closed = true) : Event.close ∈ history := by
  induction history generalizing s with
  | nil =>
      replace closed : s.closed = true := closed
      rw [opened] at closed
      cases closed
  | cons e es ih =>
      by_cases he : e = .close
      · rw [he]
        exact List.mem_cons_self
      · apply List.mem_cons_of_mem
        exact ih (opened_move (step_move s e) he opened) closed

/-! ### The answer after the last line -/

/-- **An answer that is no line comes after the last line.** The output is at its
end, nothing waits in the queue, and nothing is added to the transcript. -/
theorem drained_of_last_answer {a : Answer} (h : s.Sound) (m : Move s e s' out)
    (answered : out.answer = some a) (last : a.line? = none) :
    s.closed = true ∧ s.queue = [] ∧ s'.transcript = s.transcript := by
  -- Only four rules answer: one a line, one after the verdict, two with it.
  cases m with
  | deliver =>
      cases answered
      cases last
  | refuse done =>
      obtain ⟨-, closed, empty⟩ := h.drained_of_done done
      exact ⟨closed, empty, rfl⟩
  | reap _ guarded _ reaping | lose _ guarded _ reaping =>
      obtain ⟨closed, empty⟩ := h.drained_of_reaping guarded reaping
      exact ⟨closed, empty, rfl⟩
  | _ => cases answered

/-- A verdict that is a failure carries the output. -/
theorem verdict_output {options : Options} {command : String} {killed : Bool}
    {code : Int32} {output : String} {f : Failure}
    (failed : verdict options command killed code output = .failed f) :
    f.output? = some output := by
  unfold verdict at failed
  split at failed
  · cases failed
    rfl
  · split at failed
    · cases failed
    · cases failed
      rfl

/-- A failure that a call answers carries the transcript as one text. -/
theorem output_of_failed {f : Failure} (m : Move s e s' out)
    (answered : out.answer = some (.failed f)) : f.output? = some s.outputText := by
  cases m with
  | reap => exact verdict_output (Option.some.inj answered)
  | lose =>
      cases answered
      rfl
  | _ => cases answered

end

end State

/-- **Every line is delivered once and in order.** After any history of a stream,
what calls answered is the transcript, and the transcript with what waits in the
queue is what the reader has sent. When a further event makes a call answer
anything but a line, the reader has closed the output, the transcript holds all
lines that are ever sent, and a failure carries them as one text. -/
theorem lines_delivered_once_in_order (command : String) (options : Options)
    (history : List Event) :
    let s := ((State.start command options).run history).1
    let outs := ((State.start command options).run history).2
    linesTaken outs = s.transcript ∧
      s.transcript ++ s.queue = linesSent history ∧
      ∀ (e : Event) (a : Answer), (s.step e).2.answer = some a → a.line? = none →
        .close ∈ history ∧
          (∀ later, (s.step e).1.transcript = linesSent (history ++ later)) ∧
          ∀ f, a = .failed f → f.output? = some ("\n".intercalate (linesSent history)) := by
  intro s outs
  have sound : s.Sound := State.sound_run command options history
  have taken : s.transcript = linesTaken outs := State.transcript_run _ history
  have sent : s.sent = linesSent history := State.sent_run _ history
  refine ⟨taken.symm, sound.delivery.trans sent, ?_⟩
  intro e a answered last
  have m := s.step_move e
  obtain ⟨closed, empty, kept⟩ := State.drained_of_last_answer sound m answered last
  have complete : s.transcript = linesSent history := by
    rw [← sent, ← sound.delivery, empty, List.append_nil]
  have hclose : Event.close ∈ history := State.close_mem_of_closed rfl closed
  refine ⟨hclose, ?_, ?_⟩
  · intro later
    rw [kept, complete, linesSent_append_of_close hclose later]
  · rintro f rfl
    rw [State.output_of_failed m answered, State.outputText, complete]

/-- A child is killed for its limit while a line waits, the pending call is given
up, and the last call finds an exit code that nobody asked for. -/
theorem lines_delivered_once_in_order_after_kill :
    let options :=
      { Options.default with timeout := .ofMilliseconds 300, killCode := -15 }
    let history : List Event :=
      [.arrive "a", .call, .poll false, .call, .arrive "b", .expire, .poll true,
        .cancel, .close, .call, .poll false, .call, .poll false,
        .exit (.ok (.signalled 9))]
    let s := ((State.start "sh" options).run history).1
    let failure := Failure.unexpectedExit defaultErrorMessage "sh" (-9) "a\nb"
    (s.step (.poll false)).2.answer = some (.failed failure) ∧
      .close ∈ history ∧
      (∀ later, (s.step (.poll false)).1.transcript = linesSent (history ++ later)) ∧
      failure.output? = some ("\n".intercalate ["a", "b"]) := by
  intro options history s failure
  have answered : (s.step (.poll false)).2.answer = some (.failed failure) := by rfl
  obtain ⟨closed, complete, output⟩ :=
    (lines_delivered_once_in_order "sh" options history).2.2 (.poll false) _ answered rfl
  exact ⟨answered, closed, complete, output failure rfl⟩

end LineStream

end ExitContract
