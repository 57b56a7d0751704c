import ExitContract.LineStream.State

/-!
# Moves of a stream

What one event can do to a stream of lines, as a relation with one rule for each
thing that can happen.

`State.step` decides in branches within branches: by the event, by the phase of
the pending call, by what the call finds and by what it looks for first. An
invariant of streams is proved over the rules instead. A rule names its event,
says when it applies, and gives the state and the output after it, so what a step
can do is said once and `step` is not opened again.

**Looks that may go either way.** When the pending call finds both what it waits
for and the limit, two rules apply. Nothing proved over the rules depends on which
of them is taken.

## Main definitions

* `LineStream.Move` — the rules
* `LineStream.State.Sound` — what holds of a stream after every history

## Main statements

* `LineStream.State.step_move` — every step follows a rule
* `LineStream.State.run_invariant` — what every rule keeps is kept by every history
* `LineStream.State.sound_run` — every history leads to a sound state
-/

namespace ExitContract

namespace LineStream

/-- Whether an event comes from the reader of the child's output. -/
def Event.ofReader : Event → Bool
  | .arrive _ => true
  | .close => true
  | _ => false

/-- What an event can do to a stream in state `s`: the state after it, and what
the stream does. -/
inductive Move (s : State) : Event → State → Output → Prop
  /-- An event that cannot happen does nothing, and neither does a look that finds
  nothing. -/
  | still (e : Event) (other : e.ofReader = false) : Move s e s {}
  /-- Nothing is sent after the end of the output. -/
  | late (line : String) (closed : s.closed = true) : Move s (.arrive line) s {}
  | arrive (line : String) (opened : s.closed = false) :
      Move s (.arrive line)
        { s with queue := s.queue ++ [line], sent := s.sent ++ [line] } {}
  | close : Move s .close { s with closed := true } {}
  | exit (ending : Except IoError WaitStatus) (running : s.ending = none) :
      Move s (.exit ending) { s with ending := some ending } {}
  | expire (timed : s.timed = true) : Move s .expire { s with expired := true } {}
  /-- A call begins to wait. -/
  | ask (undone : s.done = false) (idle : s.phase = .idle) (kept : s.dropped = false) :
      Move s .call { s with phase := .receiving s.watches } {}
  /-- A call to a stream that is done. -/
  | refuse (done : s.done = true) (idle : s.phase = .idle) (kept : s.dropped = false) :
      Move s .call s { answer := some .finished }
  /-- The pending call takes a line. -/
  | deliver (limitFirst guarded : Bool) {d : Delivery} (line : String) (rest : List String)
      (receiving : s.phase = .receiving guarded) (queued : s.queue = line :: rest) :
      Move s (.poll limitFirst d)
        { s with queue := rest, transcript := s.transcript ++ [line], phase := .idle }
        { answer := some (.line line) }
  /-- The pending call learns that no more lines come. -/
  | drain (limitFirst guarded : Bool) {d : Delivery}
      (receiving : s.phase = .receiving guarded) (empty : s.queue = [])
      (closed : s.closed = true) :
      Move s (.poll limitFirst d) { s with phase := .reaping s.watches } {}
  /-- The limit passes while the pending call waits for a line. -/
  | killReceiving (limitFirst : Bool) {d : Delivery}
      (receiving : s.phase = .receiving true) (expired : s.expired = true) :
      Move s (.poll limitFirst d)
        { s with killed := true, armed := (s.kill d).1.armed, phase := .receiving false }
        (s.kill d).2
  /-- The limit passes while the pending call waits for the end of the child. -/
  | killReaping (limitFirst : Bool) {d : Delivery} (reaping : s.phase = .reaping true)
      (expired : s.expired = true) :
      Move s (.poll limitFirst d)
        { s with killed := true, armed := (s.kill d).1.armed, phase := .reaping false }
        (s.kill d).2
  /-- The pending call learns the status of the child. -/
  | reap (limitFirst guarded : Bool) {d : Delivery} (status : WaitStatus)
      (reaping : s.phase = .reaping guarded) (ended : s.ending = some (.ok status)) :
      Move s (.poll limitFirst d)
        { s with
          done := true, exitCode := some status.exitCode, reaped := true, phase := .idle }
        { answer :=
            some (verdict s.options s.command s.killed status.exitCode s.outputText)
          log := [exitEvent .stream s.command status.exitCode] }
  /-- The pending call learns that the status of the child cannot be had. -/
  | lose (limitFirst guarded : Bool) {d : Delivery} (cause : IoError)
      (reaping : s.phase = .reaping guarded) (ended : s.ending = some (.error cause)) :
      Move s (.poll limitFirst d) { s with done := true, phase := .idle }
        { answer := some (.failed (.inputOutput s.command s.outputText cause)) }
  /-- The caller gives up waiting. -/
  | cancel : Move s .cancel { s with phase := .idle } {}
  | drop {d : Delivery} (idle : s.phase = .idle) (kept : s.dropped = false) :
      Move s (.drop d) { s with dropped := true } (s.drop d).2

namespace State

/-! ### Every step follows a rule -/

/-- Of two things to look for, whichever comes first, one is found if it is there;
only if neither is there, nothing is found. -/
theorem choice_cases {α : Type} (limitFirst : Bool) (work limit : Option α)
    (nothing : α) :
    let found := (if limitFirst then limit.or work else work.or limit).getD nothing
    (work = none ∧ found = nothing) ∨ work = some found ∨ limit = some found := by
  cases limitFirst <;> cases work <;> cases limit <;> simp

/-- What a call finds that waits for a line. -/
theorem move_of_receive? {s : State} {guarded : Bool} {found : State × Output}
    (limitFirst : Bool) (d : Delivery) (receiving : s.phase = .receiving guarded)
    (h : s.receive? = some found) : Move s (.poll limitFirst d) found.1 found.2 := by
  unfold receive? at h
  split at h
  · next line rest queued =>
      cases h
      exact .deliver limitFirst guarded line rest receiving queued
  · next empty =>
      split at h
      · next closed =>
          cases h
          exact .drain limitFirst guarded receiving empty closed
      · cases h

/-- What a call finds that waits for the end of the child. -/
theorem move_of_reap? {s : State} {guarded : Bool} {found : State × Output}
    (limitFirst : Bool) (d : Delivery) (reaping : s.phase = .reaping guarded)
    (h : s.reap? = some found) : Move s (.poll limitFirst d) found.1 found.2 := by
  unfold reap? at h
  split at h
  · cases h
  · next cause ended =>
      cases h
      exact .lose limitFirst guarded cause reaping ended
  · next status ended =>
      cases h
      exact .reap limitFirst guarded status reaping ended

/-- A call finds the limit only if it watches it and the limit has passed. -/
theorem expire?_eq_some {s : State} {d : Delivery} {guarded : Bool} {unguarded : Phase}
    {found : State × Output} (h : s.expire? d guarded unguarded = some found) :
    guarded = true ∧ s.expired = true ∧
      found =
        ({ s with killed := true, armed := (s.kill d).1.armed, phase := unguarded },
          (s.kill d).2) := by
  unfold expire? at h
  split at h
  · next both =>
      rw [Bool.and_eq_true] at both
      cases h
      exact ⟨both.1, both.2, rfl⟩
  · cases h

/-- A look of a call that waits for a line finds a line, the limit or nothing. -/
theorem poll_receiving {s : State} {guarded : Bool}
    (receiving : s.phase = .receiving guarded) (limitFirst : Bool) (d : Delivery) :
    (s.receive? = none ∧ s.poll limitFirst d = (s, {})) ∨
      s.receive? = some (s.poll limitFirst d) ∨
      s.expire? d guarded (.receiving false) = some (s.poll limitFirst d) := by
  have h := choice_cases limitFirst s.receive? (s.expire? d guarded (.receiving false)) (s, {})
  simp only [poll, receiving]
  exact h

/-- A look of a call that waits for the end of the child finds it, the limit or
nothing. -/
theorem poll_reaping {s : State} {guarded : Bool} (reaping : s.phase = .reaping guarded)
    (limitFirst : Bool) (d : Delivery) :
    (s.reap? = none ∧ s.poll limitFirst d = (s, {})) ∨
      s.reap? = some (s.poll limitFirst d) ∨
      s.expire? d guarded (.reaping false) = some (s.poll limitFirst d) := by
  have h := choice_cases limitFirst s.reap? (s.expire? d guarded (.reaping false)) (s, {})
  simp only [poll, reaping]
  exact h

/-- A look of the pending call follows a rule. -/
theorem poll_move (s : State) (limitFirst : Bool) (d : Delivery) :
    Move s (.poll limitFirst d) (s.poll limitFirst d).1 (s.poll limitFirst d).2 := by
  cases hphase : s.phase with
  | idle =>
      have nothing : s.poll limitFirst d = (s, {}) := by simp only [poll, hphase]
      rw [nothing]
      exact .still _ rfl
  | receiving guarded =>
      rcases poll_receiving hphase limitFirst d with ⟨-, nothing⟩ | work | limit
      · rw [nothing]
        exact .still _ rfl
      · exact move_of_receive? limitFirst d hphase work
      · obtain ⟨rfl, hexpired, hfound⟩ := expire?_eq_some limit
        rw [hfound]
        exact .killReceiving limitFirst hphase hexpired
  | reaping guarded =>
      rcases poll_reaping hphase limitFirst d with ⟨-, nothing⟩ | work | limit
      · rw [nothing]
        exact .still _ rfl
      · exact move_of_reap? limitFirst d hphase work
      · obtain ⟨rfl, hexpired, hfound⟩ := expire?_eq_some limit
        rw [hfound]
        exact .killReaping limitFirst hphase hexpired

/-- **Every step follows a rule.** -/
theorem step_move (s : State) (e : Event) : Move s e (s.step e).1 (s.step e).2 := by
  cases e with
  | arrive line =>
      rw [step]
      split
      · next closed => exact .late line closed
      · next opened => exact .arrive line (eq_false_of_ne_true opened)
  | close => exact .close
  | exit ending =>
      rw [step]
      split
      · exact .still _ rfl
      · next running => exact .exit ending (by simpa using running)
  | expire =>
      rw [step]
      split
      · next timed => exact .expire timed
      · exact .still _ rfl
  | call =>
      -- A caller who has let go of the stream or waits already cannot call.
      by_cases free : s.phase = .idle ∧ s.dropped = false
      · rw [step, if_pos free, call]
        split
        · next done => exact .refuse done free.1 free.2
        · next undone => exact .ask (eq_false_of_ne_true undone) free.1 free.2
      · rw [step, if_neg free]
        exact .still .call rfl
  | poll limitFirst d => exact poll_move s limitFirst d
  | cancel => exact .cancel
  | drop d =>
      by_cases free : s.phase = .idle ∧ s.dropped = false
      · rw [step, if_pos free]
        exact .drop free.1 free.2
      · rw [step, if_neg free]
        exact .still (.drop d) rfl

/-! ### What histories keep -/

@[simp] theorem run_nil (s : State) : s.run [] = (s, []) := rfl

@[simp] theorem run_cons (s : State) (e : Event) (es : List Event) :
    s.run (e :: es) =
      (((s.step e).1.run es).1, (s.step e).2 :: ((s.step e).1.run es).2) := rfl

/-- A history in two parts is run part by part. -/
@[simp] theorem run_append (s : State) (es fs : List Event) :
    s.run (es ++ fs) =
      (((s.run es).1.run fs).1, (s.run es).2 ++ ((s.run es).1.run fs).2) := by
  induction es generalizing s with
  | nil => rfl
  | cons e es ih => simp [ih]

/-- **What every rule keeps is kept by every history.** -/
theorem run_invariant {P : State → Prop}
    (keeps : ∀ {s s' : State} {e : Event} {out : Output}, P s → Move s e s' out → P s')
    {s : State} (h : P s) (es : List Event) : P (s.run es).1 := by
  induction es generalizing s with
  | nil => exact h
  | cons e es ih =>
      rw [run_cons]
      exact ih (keeps h (step_move s e))

/-- No rule changes the command or what is asked of its run. -/
theorem setup_move {s s' : State} {e : Event} {out : Output} (m : Move s e s' out) :
    s'.command = s.command ∧ s'.options = s.options := by
  cases m <;> exact ⟨rfl, rfl⟩

/-- No history changes the command or what is asked of its run. -/
theorem setup_run (s : State) (history : List Event) :
    (s.run history).1.command = s.command ∧ (s.run history).1.options = s.options := by
  induction history generalizing s with
  | nil => exact ⟨rfl, rfl⟩
  | cons e es ih =>
      rw [run_cons, (ih _).1, (ih _).2]
      exact setup_move (step_move s e)

/-! ### Sound states -/

/-- What holds of a stream after every history. -/
structure Sound (s : State) : Prop where
  /-- A line that was sent has been taken or still waits, in the order of sending. -/
  delivery : s.transcript ++ s.queue = s.sent
  /-- A call that waits for the end of the child has seen the end of the output. -/
  drained_of_reaping :
    ∀ guarded, s.phase = .reaping guarded → s.closed = true ∧ s.queue = []
  /-- A stream that is done has seen the end of the output, and no call is pending. -/
  drained_of_done : s.done = true → s.phase = .idle ∧ s.closed = true ∧ s.queue = []
  /-- Before the verdict there is no exit code. -/
  exitCode_of_undone : s.done = false → s.exitCode = none
  /-- With the verdict the exit code is that of the child, unless its status cannot
  be had. -/
  exitCode_of_done : s.done = true →
    (∃ status, s.ending = some (.ok status) ∧ s.exitCode = some status.exitCode) ∨
      ∃ cause, s.ending = some (.error cause) ∧ s.exitCode = none

/-- A stream that has just been started is sound. -/
theorem sound_start (command : String) (options : Options) :
    (start command options).Sound where
  delivery := rfl
  drained_of_reaping := by intro guarded h; cases h
  drained_of_done := by intro h; cases h
  exitCode_of_undone := by intro _; rfl
  exitCode_of_done := by intro h; cases h

section

variable {s s' : State} {e : Event} {out : Output}

/-- While a call is pending there has been no verdict. -/
theorem Sound.undone_of_pending (h : s.Sound) (pending : s.phase ≠ .idle) :
    s.done ≠ true := by
  intro done
  exact pending (h.drained_of_done done).1

/-- While lines may still come there has been no verdict. -/
theorem Sound.undone_of_open (h : s.Sound) (opened : s.closed = false) :
    s.done ≠ true := by
  intro done
  rw [(h.drained_of_done done).2.1] at opened
  cases opened

/-- While lines may still come no call waits for the end of the child. -/
theorem Sound.not_reaping_of_open (h : s.Sound) (opened : s.closed = false)
    (guarded : Bool) : s.phase ≠ .reaping guarded := by
  intro reaping
  rw [(h.drained_of_reaping guarded reaping).1] at opened
  cases opened

/-- While a call waits for a line there has been no verdict. -/
theorem Sound.undone_of_receiving {guarded : Bool} (h : s.Sound)
    (receiving : s.phase = .receiving guarded) : s.done ≠ true :=
  h.undone_of_pending (by rw [receiving]; nofun)

/-- While a call waits for the end of the child there has been no verdict. -/
theorem Sound.undone_of_reaping {guarded : Bool} (h : s.Sound)
    (reaping : s.phase = .reaping guarded) : s.done ≠ true :=
  h.undone_of_pending (by rw [reaping]; nofun)

/-- The child of a stream that is done has ended. -/
theorem Sound.ended_of_done (h : s.Sound) (done : s.done = true) : s.ending ≠ none := by
  intro running
  rcases h.exitCode_of_done done with ⟨_, ended, -⟩ | ⟨_, ended, -⟩
  · rw [running] at ended
    cases ended
  · rw [running] at ended
    cases ended

/-- Every rule keeps soundness. -/
theorem Sound.move (h : s.Sound) (m : Move s e s' out) : s'.Sound := by
  cases m with
  | still | late | refuse => exact h
  | expire | drop => exact ⟨h.1, h.2, h.3, h.4, h.5⟩
  | arrive line opened =>
      refine ⟨?_, ?_, ?_, h.exitCode_of_undone, h.exitCode_of_done⟩
      · rw [← List.append_assoc, h.delivery]
      · intro guarded reaping
        exact absurd reaping (h.not_reaping_of_open opened guarded)
      · intro done
        exact absurd done (h.undone_of_open opened)
  | close =>
      refine ⟨h.delivery, ?_, ?_, h.exitCode_of_undone, h.exitCode_of_done⟩
      · intro guarded reaping
        exact ⟨rfl, (h.drained_of_reaping guarded reaping).2⟩
      · intro done
        obtain ⟨idle, -, empty⟩ := h.drained_of_done done
        exact ⟨idle, rfl, empty⟩
  | exit ending running =>
      refine ⟨h.delivery, h.drained_of_reaping, h.drained_of_done,
        h.exitCode_of_undone, ?_⟩
      intro done
      exact absurd running (h.ended_of_done done)
  | ask undone =>
      refine ⟨h.delivery, nofun, ?_, h.exitCode_of_undone, h.exitCode_of_done⟩
      intro done
      exact absurd done (ne_true_of_eq_false undone)
  | deliver _ _ line rest receiving queued =>
      refine ⟨?_, nofun, ?_, h.exitCode_of_undone, h.exitCode_of_done⟩
      · rw [← h.delivery, queued, List.append_assoc, List.singleton_append]
      · intro done
        exact absurd done (h.undone_of_receiving receiving)
  | drain _ _ receiving empty closed =>
      refine ⟨h.delivery, ?_, ?_, h.exitCode_of_undone, h.exitCode_of_done⟩
      · intro guarded _
        exact ⟨closed, empty⟩
      · intro done
        exact absurd done (h.undone_of_receiving receiving)
  | killReceiving _ receiving =>
      refine ⟨h.delivery, nofun, ?_, h.exitCode_of_undone, h.exitCode_of_done⟩
      intro done
      exact absurd done (h.undone_of_receiving receiving)
  | killReaping _ reaping =>
      refine ⟨h.delivery, ?_, ?_, h.exitCode_of_undone, h.exitCode_of_done⟩
      · intro guarded _
        exact h.drained_of_reaping true reaping
      · intro done
        exact absurd done (h.undone_of_reaping reaping)
  | reap _ guarded status reaping ended =>
      refine ⟨h.delivery, nofun, ?_, nofun, ?_⟩
      · intro _
        exact ⟨rfl, h.drained_of_reaping guarded reaping⟩
      · intro _
        exact .inl ⟨status, ended, rfl⟩
  | lose _ guarded cause reaping ended =>
      have undone := eq_false_of_ne_true (h.undone_of_reaping reaping)
      refine ⟨h.delivery, nofun, ?_, nofun, ?_⟩
      · intro _
        exact ⟨rfl, h.drained_of_reaping guarded reaping⟩
      · intro _
        exact .inr ⟨cause, ended, h.exitCode_of_undone undone⟩
  | cancel =>
      refine ⟨h.delivery, nofun, ?_, h.exitCode_of_undone, h.exitCode_of_done⟩
      intro done
      exact ⟨rfl, (h.drained_of_done done).2⟩

end

/-- **Every history leads to a sound state.** -/
theorem sound_run (command : String) (options : Options) (history : List Event) :
    ((start command options).run history).1.Sound :=
  run_invariant Sound.move (sound_start command options) history

end State

end LineStream

end ExitContract
