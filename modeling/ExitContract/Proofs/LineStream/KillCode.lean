import ExitContract.Capture
import ExitContract.Proofs.LineStream.Signals

/-!
# What the kill code decides

A run may name a kill code, which a streamed command may end with in place of the
expected code. This module says exactly what that does to the last answer of a stream.

**One code, two questions.** The verdict compares the exit code with the kill code
twice. To call a run one that failed for its limit, it also asks whether the child was
killed for the limit. To excuse an unexpected code, it does not ask. So a child with
that code is excused whatever ended it, while a run to the end excuses no code at all:
the two agree on every child but those.

**Strict runs.** A run that is to fail when it meets its limit does so through the
first question only, and so through the kill code. A child that dies of the kill ends
with the code of a killed child. If the kill code is another one, the first question is
answered with no, and the run is judged as if it had met no limit.

## Main definitions

* `LineStream.lastWord` — the answer that ends a stream
* `LineStream.Agrees` — a stream and a run to the end judge a child alike

## Main statements

* `LineStream.State.lastWord_of_done` — the last word of a stream whose child has ended
* `LineStream.contracts_agree_iff` — when a child that was not killed for a limit is
  judged alike
* `LineStream.strict_limit_fails_iff` — when a strict run fails for its limit
-/

namespace ExitContract

namespace LineStream

/-- The answer that ends a stream: the first that is no line. -/
def lastWord (told : List Answer) : Option Answer := told.find? fun a => a.line?.isNone

/-- A stream and a run to the end judge a child alike: both find an exit code that
nobody asked for, and say so with the same message, command and code, or both find
nothing wrong. -/
structure Agrees (a : Answer) (r : Except Failure Completion) : Prop where
  unexpected : ∀ message command code,
    (∃ output, a = .failed (.unexpectedExit message command code output)) ↔
      ∃ output, r = .error (.unexpectedExit message command code output)
  finished : a = .finished ↔ ∃ completion, r = .ok completion

namespace State

variable {s : State} {told : List Answer} {v : Answer} {status : WaitStatus}

/-- The verdict on a child whose status is known. -/
theorem IsVerdict.eq_verdict (h : s.IsVerdict v) (ended : s.ending = some (.ok status)) :
    v = verdict s.options s.command s.killed status.exitCode s.outputText := by
  have given := verdict_eq_iff s status.exitCode
  rw [IsVerdict, ended] at h
  obtain ⟨-, timeout, unexpected, finished⟩ := h
  by_cases timedOut : s.TimedOut status.exitCode
  · rw [timeout.mpr timedOut, given.1.mpr timedOut]
  · by_cases other : s.Unexpected status.exitCode
    · rw [unexpected.mpr ⟨timedOut, other⟩, given.2.1.mpr ⟨timedOut, other⟩]
    · rw [finished.mpr ⟨timedOut, other⟩, given.2.2.mpr ⟨timedOut, other⟩]

/-- The lines come before the last word. -/
theorem lastWord_lines (lines : List String) (told : List Answer) :
    lastWord (lines.map .line ++ told) = lastWord told := by
  induction lines with
  | nil => rfl
  | cons line lines ih => exact ih

/-- **The last word of a stream is its verdict**, once its child has ended with a
status. -/
theorem lastWord_of_done (h : s.Told told) (done : s.done = true)
    (ended : s.ending = some (.ok status)) :
    lastWord told =
      some (verdict s.options s.command s.killed status.exitCode s.outputText) := by
  obtain ⟨v, calls, owed, rfl⟩ := h.done done
  rw [lastWord_lines, owed.eq_verdict ended, lastWord, List.find?_cons_of_pos]
  rw [verdict_line?]
  rfl

/-- The last word of a stream from the start, in terms of what was asked for. -/
theorem lastWord_run (command : String) (options : Options) (history : List Event)
    (done : ((start command options).run history).1.done = true)
    (ended : ((start command options).run history).1.ending = some (.ok status)) :
    lastWord (answers ((start command options).run history).2) =
      some (verdict options command ((start command options).run history).1.killed
        status.exitCode ((start command options).run history).1.outputText) := by
  have lastly := lastWord_of_done (told_run command options history) done ended
  obtain ⟨sameCommand, sameOptions⟩ := setup_run (start command options) history
  rw [sameCommand, sameOptions] at lastly
  exact lastly

end State

/-! ### Against a run to the end -/

/-- The verdict on a child that was not killed for a limit: the first question is
answered with no. -/
theorem verdict_spared (o : Options) (command : String) (code : Int32) (output : String) :
    verdict o command false code output =
      if o.accepts code || code == o.killCode then .finished
      else .failed (.unexpectedExit o.errorMessage command code output) := rfl

/-- A run to the end reports every exit code that nobody asked for. -/
theorem complete_of_refused (c : Command) {o : Options} (output : Bytes)
    {status : WaitStatus} (refused : o.accepts status.exitCode = false) :
    complete c o output status =
      .error (.unexpectedExit o.errorMessage c.render status.exitCode
        (Utf8.decodeLossy output)) := by
  rw [complete, refused, if_neg Bool.false_ne_true]

theorem agrees_finished (completion : Completion) : Agrees .finished (.ok completion) where
  unexpected := by simp
  finished := by simp

theorem agrees_unexpected (message command : String) (code : Int32)
    (transcript output : String) :
    Agrees (.failed (.unexpectedExit message command code transcript))
      (.error (.unexpectedExit message command code output)) where
  unexpected := by simp
  finished := by simp

theorem not_agrees_of_excused (f : Failure) : ¬ Agrees .finished (.error f) := by
  intro agrees
  obtain ⟨completion, impossible⟩ := agrees.finished.mp rfl
  cases impossible

/-- **A child that was not killed for a limit is judged alike**, unless its exit code
is the kill code and nothing else would excuse it. -/
theorem agrees_iff (c : Command) (o : Options) (transcript : String) (output : Bytes)
    (status : WaitStatus) :
    Agrees (verdict o c.render false status.exitCode transcript)
        (complete c o output status) ↔
      ¬ (status.exitCode = o.killCode ∧ o.accepts status.exitCode = false) := by
  rw [verdict_spared]
  cases accepted : o.accepts status.exitCode with
  | true =>
      rw [complete, accepted]
      simpa using agrees_finished _
  | false =>
      rw [complete_of_refused c output accepted]
      by_cases tolerated : status.exitCode = o.killCode
      · simpa [tolerated] using not_agrees_of_excused _
      · simpa [tolerated] using agrees_unexpected _ _ _ _ _

/-- **When a stream and a run to the end judge alike.** Take any history of a stream
whose child was not killed for a limit, as is always so without one. When the stream
is done and the child's status is known, the stream has had its last word, and that
agrees with a run to the end of the same command, whatever it wrote, exactly if the
exit code is not the kill code, or is one that is asked for anyway. If they do not
agree, the stream finds nothing wrong where the run to the end reports the code. -/
theorem contracts_agree_iff (c : Command) (o : Options) (history : List Event)
    (output : Bytes) :
    let s := ((State.start c.render o).run history).1
    let told := answers ((State.start c.render o).run history).2
    (o.timeout.isZero = true → s.killed = false) ∧
      ∀ status, s.done = true → s.ending = some (.ok status) → s.killed = false →
        let captured := (capture c o (.ended output status)).result
        ∃ v, lastWord told = some v ∧
          (Agrees v captured ↔
            ¬ (status.exitCode = o.killCode ∧ o.accepts status.exitCode = false)) ∧
          (¬ Agrees v captured → v = .finished ∧
            captured = .error (.unexpectedExit o.errorMessage c.render status.exitCode
              (Utf8.decodeLossy output))) := by
  intro s told
  refine ⟨?_, ?_⟩
  · exact State.spared_of_unlimited c.render o history
  · intro status done ended spared captured
    have lastly := State.lastWord_run c.render o history done ended
    rw [spared] at lastly
    have agree := agrees_iff c o s.outputText output status
    refine ⟨_, lastly, agree, ?_⟩
    -- whenever they differ, the code is one that only the stream excuses
    intro apart
    obtain ⟨tolerated, refused⟩ := Classical.not_not.mp (mt agree.mpr apart)
    refine ⟨?_, complete_of_refused c output refused⟩
    rw [verdict_spared, tolerated, beq_self_eq_true, Bool.or_true, if_pos rfl]

/-- A child ends with a code that nobody asked for, and both say so. -/
theorem contracts_agree_iff_of_refused :
    let c : Command := ⟨"sh", []⟩
    let history : List Event :=
      [.arrive "hi", .call, .poll false, .close, .exit (.ok (.exited 3)), .call,
        .poll false, .poll false]
    let s := ((State.start c.render Options.default).run history).1
    let told := answers ((State.start c.render Options.default).run history).2
    let failure := Failure.unexpectedExit defaultErrorMessage c.render 3 "hi"
    s.done = true ∧ s.ending = some (.ok (.exited 3)) ∧ s.killed = false ∧
      lastWord told = some (.failed failure) ∧
      Agrees (.failed failure)
        (capture c Options.default (.ended (Utf8.encode "hi\n") (.exited 3))).result := by
  intro c history s told failure
  have lastly : lastWord told = some (.failed failure) := by rfl
  obtain ⟨unlimited, judged⟩ :=
    contracts_agree_iff c Options.default history (Utf8.encode "hi\n")
  have spared : s.killed = false := unlimited rfl
  obtain ⟨v, same, agree, -⟩ := judged (.exited 3) rfl rfl spared
  rw [lastly] at same
  cases same
  exact ⟨rfl, rfl, spared, lastly, agree.mpr (by decide)⟩

/-- A child that somebody else kills has the kill code, without any limit: the stream
finds nothing wrong, and the run to the end does. -/
theorem contracts_disagree_after_foreign_kill :
    let c : Command := ⟨"sh", []⟩
    let history : List Event :=
      [.arrive "one", .call, .poll false, .close, .exit (.ok (.signalled 9)), .call,
        .poll false, .poll false]
    let s := ((State.start c.render Options.default).run history).1
    let told := answers ((State.start c.render Options.default).run history).2
    let captured :=
      (capture c Options.default (.ended (Utf8.encode "one\n") (.signalled 9))).result
    Options.default.timeout.isZero = true ∧ s.killed = false ∧
      s.ending = some (.ok (.signalled 9)) ∧ lastWord told = some .finished ∧
      captured = .error (.unexpectedExit defaultErrorMessage c.render (-9) "one\n") ∧
      ¬ Agrees .finished captured := by
  intro c history s told captured
  have reported :
      captured = .error (.unexpectedExit defaultErrorMessage c.render (-9) "one\n") := by
    rfl
  refine ⟨rfl, rfl, rfl, rfl, reported, ?_⟩
  rw [reported]
  exact not_agrees_of_excused _

/-! ### Strict runs -/

/-- The verdict of a strict run on a child that was killed for its limit. -/
theorem verdict_strict {o : Options} (strict : o.failOnTimeout = true) (command : String)
    (code : Int32) (output : String) :
    verdict o command true code output =
      if code = o.killCode then
        .failed (.timeoutKill command o.timeout.inSeconds code output)
      else if o.accepts code then .finished
      else .failed (.unexpectedExit o.errorMessage command code output) := by
  by_cases same : code = o.killCode <;> simp [verdict, strict, same]

/-- With another kill code the kill goes unnoticed, and a code that is asked for is as
good as any. -/
theorem verdict_strict_eq_finished_iff {o : Options} (strict : o.failOnTimeout = true)
    (command : String) (code : Int32) (output : String) :
    verdict o command true code output = .finished ↔
      o.killCode ≠ code ∧ o.accepts code = true := by
  rw [verdict_strict strict]
  by_cases same : code = o.killCode
  · simp [same]
  · have other : o.killCode ≠ code := fun h => same h.symm
    cases accepted : o.accepts code <;> simp [same, other]

/-- What is not accepted fails with the exit code of the child, whichever way. -/
theorem verdict_strict_failed {o : Options} (strict : o.failOnTimeout = true)
    {command : String} {code : Int32} {output : String}
    (unfinished : verdict o command true code output ≠ .finished) :
    ∃ f, verdict o command true code output = .failed f ∧ f.exitCode = code := by
  rw [verdict_strict strict] at unfinished ⊢
  split
  · exact ⟨_, rfl, rfl⟩
  · next other =>
      rw [if_neg other] at unfinished
      split
      · next accepted => exact absurd (if_pos accepted) unfinished
      · exact ⟨_, rfl, rfl⟩

/-- **When a strict run fails for its limit.** Take any history of a stream that is to
fail when it meets its limit, and in which the child was killed for the limit and died
of that. When the stream is done, its last word is a failure with the exit code of a
killed child, unless the kill code is another one and the exit code of a killed child
is one that is asked for; then the stream finds nothing wrong. It calls the run one
that failed for its limit if the kill code is that of a killed child. -/
theorem strict_limit_fails_iff (command : String) (options : Options)
    (history : List Event) (strict : options.failOnTimeout = true) :
    let s := ((State.start command options).run history).1
    let told := answers ((State.start command options).run history).2
    ∀ status, s.done = true → s.killed = true → s.ending = some (.ok status) →
      status.ending = .signalled Timeline.killSignal →
      let excused :=
        options.killCode ≠ defaultKillCode ∧ options.accepts defaultKillCode = true
      status.exitCode = defaultKillCode ∧
        ∃ v, lastWord told = some v ∧ (v = .finished ↔ excused) ∧
          ((∃ f, v = .failed f ∧ f.exitCode = defaultKillCode) ↔ ¬ excused) ∧
          (options.killCode = defaultKillCode → v = .failed (.timeoutKill command
            options.timeout.inSeconds defaultKillCode s.outputText)) := by
  intro s told status done killed ended died excused
  have code : status.exitCode = defaultKillCode := by
    rw [WaitStatus.exitCode, died]
    rfl
  have lastly := State.lastWord_run command options history done ended
  rw [killed, code] at lastly
  have finished :=
    verdict_strict_eq_finished_iff strict command defaultKillCode s.outputText
  refine ⟨code, _, lastly, finished, ⟨?_, ?_⟩, ?_⟩
  · rintro ⟨f, failed, -⟩ excuse
    rw [finished.mpr excuse] at failed
    cases failed
  · intro fails
    exact verdict_strict_failed strict (mt finished.mp fails)
  · intro usual
    rw [verdict_strict strict, if_pos usual.symm]

/-- With the usual kill code a strict run fails for its limit, whatever code is asked
for. -/
theorem strict_limit_fails_iff_of_usual_code :
    let options :=
      { Options.default with
        timeout := .ofMilliseconds 300, failOnTimeout := true, expectedCode := none }
    let history : List Event :=
      [.call, .expire, .poll true, .exit (.ok (.signalled 9)), .close, .poll false,
        .poll false]
    let s := ((State.start "sleep 10" options).run history).1
    let told := answers ((State.start "sleep 10" options).run history).2
    let failure := Failure.timeoutKill "sleep 10" options.timeout.inSeconds (-9) ""
    options.failOnTimeout = true ∧ s.done = true ∧ s.killed = true ∧
      s.ending = some (.ok (.signalled 9)) ∧ lastWord told = some (.failed failure) ∧
      failure.exitCode = (WaitStatus.signalled 9).exitCode := by
  intro options history s told failure
  obtain ⟨code, v, lastly, -, -, kind⟩ :=
    strict_limit_fails_iff "sleep 10" options history rfl (.signalled 9) rfl rfl rfl rfl
  rw [kind rfl] at lastly
  exact ⟨rfl, rfl, rfl, rfl, lastly, code.symm⟩

/-- With another kill code and no code asked for, a strict run finds nothing wrong with
a child that died of the kill for its limit. -/
theorem strict_limit_excused_by_other_code :
    let options :=
      { Options.default with
        timeout := .ofMilliseconds 300, failOnTimeout := true, expectedCode := none,
        killCode := -15 }
    let history : List Event :=
      [.call, .expire, .poll true, .exit (.ok (.signalled 9)), .close, .poll false,
        .poll false]
    let s := ((State.start "sleep 10" options).run history).1
    let told := answers ((State.start "sleep 10" options).run history).2
    options.failOnTimeout = true ∧ options.timeout.isZero = false ∧ s.killed = true ∧
      s.ending = some (.ok (.signalled 9)) ∧ s.exitCode = some (-9) ∧
      lastWord told = some .finished := by
  exact ⟨rfl, rfl, rfl, rfl, rfl, rfl⟩

end LineStream

end ExitContract
