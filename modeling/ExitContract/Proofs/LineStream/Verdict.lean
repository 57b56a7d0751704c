import ExitContract.Proofs.LineStream.Delivery

/-!
# The verdict of a stream

A stream gives its verdict on the child's exit code in exactly one answer, and a
call that is given up neither uses the verdict up nor makes it come twice.

**Given once.** The answers of a history are read as one list. Until the verdict it
holds the lines of the transcript and nothing else; the verdict follows the last
line; after it come only answers that say that the stream has ended. Giving up a
call leaves the list as it is, so no part of this depends on how often a caller gave
up.

**Given at all.** A stream could also keep the law above by never answering. So a
stream that has nothing left to wait for comes to its verdict within four looks of
one call, whichever call was given up before. The number of looks left falls with
every look, because the limit is found once at most.

## Main definitions

* `LineStream.State.TimedOut`, `LineStream.State.Unexpected` — when an exit code is a
  failure
* `LineStream.State.IsVerdict` — the answer that a stream owes once its child has
  ended
* `LineStream.State.Leads` — what is never taken back
* `LineStream.State.Told` — all answers so far

## Main statements

* `LineStream.State.verdict_eq_iff` — which verdict is given when
* `LineStream.State.frozen_of_done` — a stream that is done changes no more
* `LineStream.State.done_of_call` — a call with nothing to wait for ends with the
  verdict
* `LineStream.verdict_given_once` — all of it together
-/

namespace ExitContract

namespace LineStream

/-- Whether an answer is a failure. -/
def Answer.isFailure : Answer → Bool
  | .failed _ => true
  | _ => false

namespace State

/-! ### The verdict that is owed -/

/-- The child was killed for its limit, that is to be a failure, and its exit code is
that of a killed child. -/
def TimedOut (s : State) (code : Int32) : Prop :=
  s.killed = true ∧ s.options.failOnTimeout = true ∧ code = s.options.killCode

/-- Another exit code is asked for, and this is not that of a killed child. -/
def Unexpected (s : State) (code : Int32) : Prop :=
  ∃ expected, s.options.expectedCode = some expected ∧ code ≠ expected ∧
    code ≠ s.options.killCode

/-- Whether an answer is the verdict on the child of a stream. -/
def IsVerdict (s : State) (a : Answer) : Prop :=
  match s.ending with
  | none => False
  | some (.error cause) =>
      s.exitCode = none ∧ a = .failed (.inputOutput s.command s.outputText cause)
  | some (.ok status) =>
      let code := status.exitCode
      let timeoutKill :=
        Failure.timeoutKill s.command s.options.timeout.inSeconds code s.outputText
      let unexpectedExit :=
        Failure.unexpectedExit s.options.errorMessage s.command code s.outputText
      s.exitCode = some code ∧
        (a = .failed timeoutKill ↔ s.TimedOut code) ∧
        (a = .failed unexpectedExit ↔ ¬ s.TimedOut code ∧ s.Unexpected code) ∧
        (a = .finished ↔ ¬ s.TimedOut code ∧ ¬ s.Unexpected code)

/-- The first question that the verdict asks. -/
theorem timedOut_iff (s : State) (code : Int32) :
    (s.killed && s.options.failOnTimeout && code == s.options.killCode) = true ↔
      s.TimedOut code := by
  rw [Bool.and_eq_true, Bool.and_eq_true, beq_iff_eq, and_assoc, TimedOut]

/-- The second question that the verdict asks. -/
theorem not_unexpected_iff (s : State) (code : Int32) :
    (s.options.accepts code || code == s.options.killCode) = true ↔
      ¬ s.Unexpected code := by
  rw [Bool.or_eq_true, beq_iff_eq, Options.accepts, Unexpected]
  cases s.options.expectedCode with
  | none => simp
  | some expected => simp [Decidable.or_iff_not_imp_left]

/-- What `verdict` says of a stream, by the two questions. -/
theorem verdict_eq_iff (s : State) (code : Int32) :
    let v := verdict s.options s.command s.killed code s.outputText
    (v = .failed (.timeoutKill s.command s.options.timeout.inSeconds code s.outputText) ↔
        s.TimedOut code) ∧
      (v = .failed (.unexpectedExit s.options.errorMessage s.command code s.outputText) ↔
        ¬ s.TimedOut code ∧ s.Unexpected code) ∧
      (v = .finished ↔ ¬ s.TimedOut code ∧ ¬ s.Unexpected code) := by
  intro v
  have hv : v = verdict s.options s.command s.killed code s.outputText := rfl
  unfold verdict at hv
  by_cases timedOut : s.TimedOut code
  · rw [if_pos ((timedOut_iff s code).mpr timedOut)] at hv
    rw [hv]
    simp [timedOut]
  · rw [if_neg (mt (timedOut_iff s code).mp timedOut)] at hv
    by_cases unexpected : s.Unexpected code
    · have refused := mt (not_unexpected_iff s code).mp (not_not_intro unexpected)
      rw [if_neg refused] at hv
      rw [hv]
      simp [timedOut, unexpected]
    · rw [if_pos ((not_unexpected_iff s code).mpr unexpected)] at hv
      rw [hv]
      simp [timedOut, unexpected]

/-! ### What is never taken back -/

/-- A later state of a stream keeps what callers may have seen: the exit code, the
lines, that the child was killed for its limit, and that the stream is done. -/
structure Leads (s t : State) : Prop where
  exitCode : ∀ code, s.exitCode = some code → t.exitCode = some code
  transcript : s.transcript <+: t.transcript
  killed : s.killed = true → t.killed = true
  done : s.done = true → t.done = true

theorem Leads.refl (s : State) : s.Leads s where
  exitCode := by intro code h; exact h
  transcript := List.prefix_rfl
  killed := id
  done := id

theorem Leads.trans {s t u : State} (h : s.Leads t) (k : t.Leads u) : s.Leads u where
  exitCode := by intro code seen; exact k.exitCode code (h.exitCode code seen)
  transcript := h.transcript.trans k.transcript
  killed := by intro seen; exact k.killed (h.killed seen)
  done := by intro seen; exact k.done (h.done seen)

section

variable {s s' : State} {e : Event} {out : Output} {told : List Answer}

/-- No rule takes anything back. The one that sets the exit code finds none, since a
call that waits for the child has not had the verdict. -/
theorem leads_move (h : s.Sound) (m : Move s e s' out) : s.Leads s' := by
  cases m with
  | deliver => exact { Leads.refl s with transcript := List.prefix_append _ _ }
  | killReceiving | killReaping => exact { Leads.refl s with killed := fun _ => rfl }
  | lose => exact { Leads.refl s with done := fun _ => rfl }
  | reap _ _ _ reaping =>
      have undone : s.done = false := eq_false_of_ne_true (h.undone_of_reaping reaping)
      refine ⟨?_, List.prefix_rfl, id, fun _ => rfl⟩
      intro code seen
      rw [h.exitCode_of_undone undone] at seen
      cases seen
  | _ => exact { Leads.refl s with }

/-- No history takes anything back. -/
theorem leads_run (h : s.Sound) (later : List Event) : s.Leads (s.run later).1 := by
  induction later generalizing s with
  | nil => exact Leads.refl s
  | cons e es ih =>
      have m := step_move s e
      rw [run_cons]
      exact (leads_move h m).trans (ih (h.move m))

/-- **A stream that is done changes no more**, but that its limit may still pass and
its caller may let go of it, and it answers nothing but that it has ended. -/
theorem frozen_of_done (h : s.Sound) (done : s.done = true) (m : Move s e s' out) :
    s' = { s with expired := s'.expired, dropped := s'.dropped } ∧
      (out.answer = none ∨ out.answer = some .finished) := by
  obtain ⟨idle, closed, -⟩ := h.drained_of_done done
  cases m with
  | still | late | expire | drop => exact ⟨rfl, .inl rfl⟩
  | refuse => exact ⟨rfl, .inr rfl⟩
  | close =>
      refine ⟨?_, .inl rfl⟩
      rw [← closed]
  | cancel =>
      refine ⟨?_, .inl rfl⟩
      rw [← idle]
  -- The other rules need an open output, a living child or a pending call.
  | arrive _ opened => exact absurd done (h.undone_of_open opened)
  | exit _ running => exact absurd running (h.ended_of_done done)
  | ask undone => exact absurd done (ne_true_of_eq_false undone)
  | deliver _ _ _ _ receiving | drain _ _ receiving | killReceiving _ receiving =>
      exact absurd done (h.undone_of_receiving receiving)
  | killReaping _ reaping | reap _ _ _ reaping | lose _ _ _ reaping =>
      exact absurd done (h.undone_of_reaping reaping)

/-! ### All answers of a history -/

/-- The answers that a stream has given so far: the lines of its transcript, then the
verdict, if it has been given, and after it only that the stream has ended. -/
structure Told (s : State) (told : List Answer) : Prop where
  undone : s.done = false → told = s.transcript.map .line
  done : s.done = true → ∃ v calls, s.IsVerdict v ∧
    told = s.transcript.map .line ++ v :: List.replicate calls .finished

/-- A stream that is done goes on to answer that it has ended. -/
theorem Told.move_of_done (h : s.Told told) (sound : s.Sound) (done : s.done = true)
    (m : Move s e s' out) : s'.Told (told ++ out.answer.toList) := by
  obtain ⟨same, answered⟩ := frozen_of_done sound done m
  obtain ⟨v, calls, owed, rfl⟩ := h.done done
  rw [same]
  constructor
  · intro undone
    exact absurd done (ne_true_of_eq_false undone)
  · intro _
    rcases answered with silent | ended
    · refine ⟨v, calls, owed, ?_⟩
      rw [silent, Option.toList_none, List.append_nil]
    · refine ⟨v, calls + 1, owed, ?_⟩
      rw [ended, Option.toList_some, List.replicate_succ', List.append_assoc,
        List.cons_append]

/-- Before the verdict a rule answers a line, or the verdict, or nothing. -/
theorem Told.move_of_undone (h : s.Told told) (sound : s.Sound) (undone : s.done = false)
    (m : Move s e s' out) : s'.Told (told ++ out.answer.toList) := by
  have lines := h.undone undone
  have notDone : s.done ≠ true := ne_true_of_eq_false undone
  subst lines
  cases m with
  | refuse done => exact absurd done notDone
  | deliver _ _ line =>
      constructor
      · intro _
        rw [List.map_append]
        rfl
      · intro done
        exact absurd done notDone
  | reap _ _ status _ ended =>
      refine ⟨nofun, ?_⟩
      intro _
      refine ⟨_, 0, ?_, rfl⟩
      rw [IsVerdict]
      simp only [ended]
      exact ⟨trivial, verdict_eq_iff s status.exitCode⟩
  | lose _ _ cause _ ended =>
      refine ⟨nofun, ?_⟩
      intro _
      refine ⟨_, 0, ?_, rfl⟩
      rw [IsVerdict]
      simp only [ended]
      exact ⟨sound.exitCode_of_undone undone, rfl⟩
  | _ =>
      constructor
      · intro _
        exact List.append_nil _
      · intro done
        exact absurd done notDone

/-- A rule adds its answer to those given so far. -/
theorem Told.move (h : s.Told told) (sound : s.Sound) (m : Move s e s' out) :
    s'.Told (told ++ out.answer.toList) := by
  cases hdone : s.done with
  | true => exact h.move_of_done sound hdone m
  | false => exact h.move_of_undone sound hdone m

/-- A history adds its answers to those given before it. -/
theorem Told.run (h : s.Told told) (sound : s.Sound) (history : List Event) :
    (s.run history).1.Told (told ++ answers (s.run history).2) := by
  induction history generalizing s told with
  | nil =>
      show s.Told (told ++ [])
      rw [List.append_nil]
      exact h
  | cons e es ih =>
      have m := step_move s e
      rw [run_cons, answers_cons, ← List.append_assoc]
      exact ih (h.move sound m) (sound.move m)

/-- The answers of a history from the start. -/
theorem told_run (command : String) (options : Options) (history : List Event) :
    ((start command options).run history).1.Told
      (answers ((start command options).run history).2) := by
  have started : (start command options).Told [] := ⟨fun _ => rfl, nofun⟩
  simpa using started.run (sound_start command options) history

/-- Among the answers of a stream there is at most one failure. -/
theorem Told.countP_isFailure_le_one (h : s.Told told) :
    told.countP Answer.isFailure ≤ 1 := by
  have lines : (s.transcript.map Answer.line).countP Answer.isFailure = 0 := by
    rw [List.countP_eq_zero]
    intro a ha
    obtain ⟨_, -, rfl⟩ := List.mem_map.mp ha
    nofun
  cases hdone : s.done with
  | false =>
      rw [h.undone hdone, lines]
      exact Nat.zero_le 1
  | true =>
      obtain ⟨v, calls, -, rfl⟩ := h.done hdone
      have ended : (List.replicate calls Answer.finished).countP Answer.isFailure = 0 := by
        rw [List.countP_replicate]
        rfl
      rw [List.countP_append, lines, List.countP_cons, ended]
      split <;> omega

/-! ### A verdict for every caller who waits -/

/-- Nothing is left to wait for: no more lines come, all were taken, and the child has
ended. -/
structure Ready (s : State) : Prop where
  closed : s.closed = true
  empty : s.queue = []
  ended : s.ending ≠ none

/-- How many looks a call may need when nothing is left to wait for. -/
def looksLeft : Phase → Nat
  | .idle => 0
  | .receiving guarded => if guarded then 4 else 3
  | .reaping guarded => if guarded then 2 else 1

theorem looksLeft_reaping_le (guarded : Bool) : looksLeft (.reaping guarded) ≤ 2 := by
  cases guarded <;> decide

theorem looksLeft_receiving_bounds (guarded : Bool) :
    3 ≤ looksLeft (.receiving guarded) ∧ looksLeft (.receiving guarded) ≤ 4 := by
  cases guarded <;> decide

/-- Only a call that does not wait needs no look. -/
theorem idle_of_looksLeft {p : Phase} (none : looksLeft p = 0) : p = .idle := by
  cases p with
  | idle => rfl
  | receiving guarded => cases guarded <;> cases none
  | reaping guarded => cases guarded <;> cases none

/-- With nothing left to wait for, a call that waits for a line goes on to wait for
the child. -/
theorem receive?_of_ready (h : s.Ready) :
    s.receive? = some ({ s with phase := .reaping s.watches }, {}) := by
  unfold receive?
  split
  · next queued =>
      rw [h.empty] at queued
      cases queued
  · rw [if_pos h.closed]

/-- With nothing left to wait for, a call that waits for the child comes to the
verdict. -/
theorem reap?_of_ready (h : s.Ready) :
    ∃ t out, s.reap? = some (t, out) ∧ t.done = true ∧ t.Ready := by
  unfold reap?
  split
  · next unended => exact absurd unended h.ended
  · exact ⟨_, _, rfl, rfl, h.closed, h.empty, h.ended⟩
  · exact ⟨_, _, rfl, rfl, h.closed, h.empty, h.ended⟩

/-- With nothing left to wait for, a look brings the verdict or leaves fewer looks. -/
theorem poll_of_ready (h : s.Ready) (pending : s.phase ≠ .idle) (limitFirst : Bool)
    (d : Delivery) :
    let t := (s.poll limitFirst d).1
    t.Ready ∧
      (t.done = true ∨ t.phase ≠ .idle ∧ looksLeft t.phase < looksLeft s.phase) := by
  have kept {t : State} (closed : t.closed = s.closed) (queue : t.queue = s.queue)
      (ending : t.ending = s.ending) : t.Ready :=
    ⟨closed ▸ h.closed, queue ▸ h.empty, ending ▸ h.ended⟩
  cases hphase : s.phase with
  | idle => exact absurd hphase pending
  | receiving guarded =>
      rcases poll_receiving hphase limitFirst d with ⟨nothing, -⟩ | work | limit
      · rw [receive?_of_ready h] at nothing
        cases nothing
      · rw [receive?_of_ready h] at work
        rw [← Option.some.inj work]
        have few := looksLeft_reaping_le s.watches
        have many := (looksLeft_receiving_bounds guarded).1
        exact ⟨kept rfl rfl rfl, .inr ⟨nofun, Nat.lt_of_le_of_lt few many⟩⟩
      · -- The call watched the limit, and does so no more.
        obtain ⟨rfl, -, found⟩ := expire?_eq_some limit
        rw [found]
        exact ⟨kept rfl rfl rfl, .inr ⟨nofun, Nat.lt_succ_self 3⟩⟩
  | reaping guarded =>
      rcases poll_reaping hphase limitFirst d with ⟨nothing, -⟩ | work | limit
      · obtain ⟨_, _, found, -⟩ := reap?_of_ready h
        rw [found] at nothing
        cases nothing
      · obtain ⟨t, out, found, done, ready⟩ := reap?_of_ready h
        rw [found] at work
        rw [← Option.some.inj work]
        exact ⟨ready, .inl done⟩
      · obtain ⟨rfl, -, found⟩ := expire?_eq_some limit
        rw [found]
        exact ⟨kept rfl rfl rfl, .inr ⟨nofun, Nat.lt_succ_self 1⟩⟩

/-- With nothing left to wait for, a call that looks often enough comes to the
verdict. -/
theorem done_of_looks (sound : s.Sound) (h : s.Ready) (looks : List (Bool × Delivery))
    (pending : s.done = true ∨ s.phase ≠ .idle ∧ looksLeft s.phase ≤ looks.length) :
    (s.run (looks.map fun look => .poll look.1 look.2)).1.done = true := by
  induction looks generalizing s with
  | nil =>
      rcases pending with done | ⟨pending, enough⟩
      · exact done
      · exact absurd (idle_of_looksLeft (Nat.le_zero.mp enough)) pending
  | cons look looks ih =>
      have sound' := sound.move (step_move s (.poll look.1 look.2))
      rcases pending with done | ⟨pending, enough⟩
      · exact (leads_run sound _).done done
      · obtain ⟨ready, progress⟩ := poll_of_ready h pending look.1 look.2
        refine ih sound' ready (progress.imp_right ?_)
        rintro ⟨pending', fewer⟩
        refine ⟨pending', ?_⟩
        rw [List.length_cons] at enough
        exact Nat.le_of_lt_succ (Nat.lt_of_lt_of_le fewer enough)

/-- **A call that is kept waiting comes to the verdict.** Whatever call was pending
before is given up; the one after it needs no more than four looks. -/
theorem done_of_call (sound : s.Sound) (h : s.Ready) (kept : s.dropped = false)
    (looks : List (Bool × Delivery)) (enough : 4 ≤ looks.length) :
    (s.run (.cancel :: .call :: looks.map fun look => .poll look.1 look.2)).1.done = true := by
  cases hdone : s.done with
  | true => exact (leads_run sound _).done hdone
  | false =>
      let asking : State := { s with phase := .receiving s.watches }
      have called : ((s.step .cancel).1.step .call).1 = asking := by
        simp [asking, step, call, hdone, kept, watches, timed]
      have asking_sound : asking.Sound := by
        rw [← called]
        exact (sound.move (step_move s .cancel)).move (step_move _ .call)
      have asking_ready : asking.Ready := ⟨h.closed, h.empty, h.ended⟩
      have pending : asking.phase ≠ .idle := by
        intro idle
        cases idle
      have few : looksLeft asking.phase ≤ looks.length :=
        Nat.le_trans (looksLeft_receiving_bounds s.watches).2 enough
      rw [run_cons, run_cons, called]
      exact done_of_looks asking_sound asking_ready looks (.inr ⟨pending, few⟩)

/-- A call to a stream that is done is answered at once and changes nothing. -/
theorem call_of_done (sound : s.Sound) (done : s.done = true)
    (kept : s.dropped = false) : s.step .call = (s, { answer := some .finished }) := by
  rw [step, if_pos ⟨(sound.drained_of_done done).1, kept⟩, call, if_pos done]

end

end State

/-- **The verdict is given once.** After any history of a stream, with calls given up
wherever the history says:

* no later event takes back the exit code, a line, the kill or the end, and there is
  no exit code before the stream is done;
* what calls have answered is the lines of the transcript and, once the stream is
  done, which is after all lines that were sent, one verdict and nothing more than
  that the stream has ended, so that at most one answer is a failure;
* a call to a stream that is done says that it has ended and changes nothing;
* when nothing is left to wait for, one more call comes to the verdict, whatever becomes
  of the signals that are sent meanwhile. -/
theorem verdict_given_once (command : String) (options : Options) (history : List Event) :
    let s := ((State.start command options).run history).1
    let told := answers ((State.start command options).run history).2
    ((∀ later, s.Leads (s.run later).1) ∧ (s.exitCode ≠ none → s.done = true)) ∧
      (s.Told told ∧ (s.done = true → s.transcript = linesSent history) ∧
        told.countP Answer.isFailure ≤ 1) ∧
      (s.done = true → s.dropped = false →
        s.step .call = (s, { answer := some .finished })) ∧
      (s.Ready → s.dropped = false → ∀ looks : List (Bool × Delivery), 4 ≤ looks.length →
        (s.run (.cancel :: .call ::
          looks.map fun look => .poll look.1 look.2)).1.done = true) := by
  intro s told
  have sound : s.Sound := State.sound_run command options history
  have allTold : s.Told told := State.told_run command options history
  refine ⟨⟨State.leads_run sound, ?_⟩, ⟨allTold, ?_, allTold.countP_isFailure_le_one⟩,
    State.call_of_done sound, State.done_of_call sound⟩
  · intro known
    apply eq_true_of_ne_false
    intro undone
    exact known (sound.exitCode_of_undone undone)
  · intro done
    have sent : s.sent = linesSent history := State.sent_run _ history
    rw [← sent, ← sound.delivery, (sound.drained_of_done done).2.2, List.append_nil]

/-- Two calls are given up while they wait, the second for a child that has closed its
output. The limit passes, the third call gives the verdict, and the fourth says that
the stream has ended. -/
theorem verdict_given_once_after_cancel :
    let options :=
      { Options.default with timeout := .ofMilliseconds 500, failOnTimeout := true }
    let history : List Event :=
      [.call, .poll false, .cancel, .arrive "hi", .call, .poll false, .close, .call,
        .poll false, .cancel, .expire, .call, .poll true, .poll false,
        .exit (.ok (.signalled 9)), .poll false, .call]
    let s := ((State.start "sh" options).run history).1
    let told := answers ((State.start "sh" options).run history).2
    let limit := options.timeout.inSeconds
    s.exitCode = some (-9) ∧ s.done = true ∧ s.killed = true ∧ s.dropped = false ∧
      s.Ready ∧
      told = [.line "hi", .failed (.timeoutKill "sh" limit (-9) "hi"), .finished] ∧
      s.Told told ∧ s.transcript = linesSent history ∧
      s.step .call = (s, { answer := some .finished }) ∧
      (s.run [.cancel, .call, .poll true, .poll false, .poll true, .poll false]).1.done =
        true := by
  intro options history s told limit
  have code : s.exitCode = some (-9) := by rfl
  have ready : s.Ready := ⟨rfl, rfl, nofun⟩
  obtain ⟨⟨-, done⟩, ⟨allTold, complete, -⟩, later, waits⟩ :=
    verdict_given_once "sh" options history
  have done : s.done = true := done (by rw [code]; nofun)
  exact ⟨code, done, rfl, rfl, ready, rfl, allTold, complete done, later done rfl,
    waits ready rfl [(true, {}), (false, {}), (true, {}), (false, {})] (Nat.le_refl 4)⟩

end LineStream

end ExitContract
