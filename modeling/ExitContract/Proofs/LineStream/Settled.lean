import ExitContract.Proofs.LineStream.Played

/-!
# What the world does to a session

Between two looks of a call the world acts: the child writes, closes its output and
ends, and the limit passes. `Session.settle` lets all of that happen which is due.

**Two sides of a stream.** A stream has a side that belongs to its caller and a side that
the world writes to. The world leaves the caller's side as it is, sends no signal and
does not move the clock, and of the child it uses up nothing but the writes. That is
said once for an event and carried through the stages of `settle`.

**After it.** Nothing is due any more. If the output is still open, something is left to
be written or the end of the output lies ahead; if the child has not been seen to end,
its end lies ahead.

## Main definitions

* `LineStream.Event.ofWorld` — the events of the world
* `LineStream.State.callerSide` — what the world leaves as it is
* `Session.Flows` — from one moment to another only the world has acted
* `Session.Round` — a round of waiting

## Main statements

* `Session.flows_settle` — letting happen what is due
* `Session.ahead_of_open`, `Session.ahead_of_running` — what lies ahead after it
* `Session.wait_round` — waiting goes round by round
-/

namespace ExitContract

namespace LineStream

/-- Whether an event comes from the world: the child, its output or the clock. -/
def Event.ofWorld : Event → Bool
  | .arrive _ | .close | .exit _ | .expire => true
  | .call | .poll .. | .cancel | .drop _ => false

namespace State

variable {s s' : State} {e : Event} {out : Output}

/-- A stream without what the world changes in it. -/
def callerSide (s : State) : State :=
  { s with queue := [], closed := false, sent := [], ending := none, expired := false }

/-- The world leaves the caller's side as it is, and sends no signal. -/
theorem world_move (m : Move s e s' out) (world : e.ofWorld = true) :
    s'.callerSide = s.callerSide ∧ out.signals = [] := by
  cases m with
  | still | late | arrive | close | exit | expire => exact ⟨rfl, rfl⟩
  | ask | refuse | deliver | drain | killReceiving | killReaping | reap | lose | cancel
  | drop => cases world

/-- Only the reader adds lines and ends the output. -/
theorem unread_move (m : Move s e s' out) (world : e.ofWorld = true)
    (unread : e.ofReader = false) : s'.queue = s.queue ∧ s'.closed = s.closed := by
  cases m with
  | still | exit | expire => exact ⟨rfl, rfl⟩
  | late | arrive | close => cases unread
  | ask | refuse | deliver | drain | killReceiving | killReaping | reap | lose | cancel
  | drop => cases world

/-- What a row of arrivals does to a stream. -/
theorem run_arrivals (s : State) (lines : List String) :
    (s.run (lines.map .arrive)).1 =
      if s.closed then s
      else { s with queue := s.queue ++ lines, sent := s.sent ++ lines } := by
  induction lines generalizing s with
  | nil =>
      rw [List.append_nil, List.append_nil, ite_self]
      rfl
  | cons line lines ih =>
      rw [List.map_cons, run_cons, ih, step]
      by_cases closed : s.closed = true
      · rw [if_pos closed, if_pos closed, if_pos closed]
      · rw [if_neg closed, if_neg closed, if_neg closed]
        dsimp only
        rw [List.append_assoc, List.append_assoc, List.singleton_append]

end State

end LineStream

namespace Session

/-- From one moment of a session to another only the world has acted. -/
structure Flows (s s' : Session) : Prop where
  now : s'.now = s.now
  deadline : s'.deadline = s.deadline
  endless : s'.child.endless = s.child.endless
  closing : s'.child.closed = s.child.closed
  ending : s'.child.ended = s.child.ended
  caller : s'.stream.callerSide = s.stream.callerSide

section

variable {s s' s'' : Session}

theorem Flows.refl (s : Session) : s.Flows s := ⟨rfl, rfl, rfl, rfl, rfl, rfl⟩

theorem Flows.trans (h : s.Flows s') (k : s'.Flows s'') : s.Flows s'' where
  now := k.now.trans h.now
  deadline := k.deadline.trans h.deadline
  endless := k.endless.trans h.endless
  closing := k.closing.trans h.closing
  ending := k.ending.trans h.ending
  caller := k.caller.trans h.caller

theorem Flows.phase (h : s.Flows s') : s'.stream.phase = s.stream.phase :=
  (congrArg LineStream.State.phase h.caller :)

theorem Flows.dropped (h : s.Flows s') : s'.stream.dropped = s.stream.dropped :=
  (congrArg LineStream.State.dropped h.caller :)

theorem Flows.watches (h : s.Flows s') : s'.stream.watches = s.stream.watches :=
  (congrArg LineStream.State.watches h.caller :)

/-- What is held back is not seen by the caller. -/
theorem flows_hold (s : Session) (held : Bytes) : s.Flows { s with held := held } :=
  ⟨rfl, rfl, rfl, rfl, rfl, rfl⟩

theorem flows_ite {c : Prop} [Decidable c] (yes : s.Flows s' ∧ s'.child = s.child) :
    s.Flows (if c then s' else s) ∧ (if c then s' else s).child = s.child := by
  split
  · exact yes
  · exact ⟨.refl s, rfl⟩

/-! ### Stage by stage -/

/-- What an event does to the child: it is killed, or nothing happens to it. -/
theorem child_feed (s : Session) (e : LineStream.Event) :
    (s.feed e).1.child =
      if (s.stream.step e).2.signals.any LineStream.Signal.arrived then s.child.killedAt s.now
      else s.child := rfl

/-- An event of the world. -/
theorem flows_feed (s : Session) {e : LineStream.Event} (world : e.ofWorld = true) :
    s.Flows (s.feed e).1 ∧ (s.feed e).1.child = s.child := by
  obtain ⟨caller, silent⟩ := LineStream.State.world_move (s.stream.step_move e) world
  have child : (s.feed e).1.child = s.child := by
    rw [child_feed, silent]
    rfl
  refine ⟨⟨rfl, rfl, ?_, ?_, ?_, caller⟩, child⟩ <;> rw [child]

theorem flows_feedAll (s : Session) {es : List LineStream.Event}
    (world : ∀ e ∈ es, e.ofWorld = true) :
    s.Flows (s.feedAll es) ∧ (s.feedAll es).child = s.child := by
  induction es generalizing s with
  | nil => exact ⟨.refl s, rfl⟩
  | cons e es ih =>
      obtain ⟨flows, child⟩ := s.flows_feed (world e List.mem_cons_self)
      obtain ⟨flows', child'⟩ := ih (s.feed e).1 fun e mem => world e (List.mem_cons_of_mem _ mem)
      exact ⟨flows.trans flows', child'.trans child⟩

theorem flows_write (s : Session) (octets : Bytes) :
    s.Flows (s.write octets) ∧ (s.write octets).child = s.child := by
  have arrivals : ∀ e ∈ ((LineStream.cutLines s.held octets).1.map
      LineStream.lineText).map LineStream.Event.arrive, e.ofWorld = true := by
    intro e mem
    obtain ⟨line, -, rfl⟩ := List.mem_map.mp mem
    rfl
  obtain ⟨flows, child⟩ := flows_feedAll
    { s with held := (LineStream.cutLines s.held octets).2.reverse } arrivals
  exact ⟨(s.flows_hold _).trans flows, child⟩

theorem flows_writeAll (s : Session) (runs : List Bytes) :
    s.Flows (s.writeAll runs) ∧ (s.writeAll runs).child = s.child := by
  induction runs generalizing s with
  | nil => exact ⟨.refl s, rfl⟩
  | cons octets runs ih =>
      obtain ⟨flows, child⟩ := s.flows_write octets
      obtain ⟨flows', child'⟩ := ih (s.write octets)
      exact ⟨flows.trans flows', child'.trans child⟩

theorem flows_finishOutput (s : Session) :
    s.Flows s.finishOutput ∧ s.finishOutput.child = s.child := by
  have ending : ∀ e ∈ ((LineStream.lastLine s.held.reverse).map
      LineStream.lineText).map LineStream.Event.arrive ++ [.close], e.ofWorld = true := by
    intro e mem
    rcases List.mem_append.mp mem with mem | mem
    · obtain ⟨line, -, rfl⟩ := List.mem_map.mp mem
      rfl
    · rw [List.mem_singleton.mp mem]
      rfl
  obtain ⟨flows, child⟩ := flows_feedAll { s with held := [] } ending
  exact ⟨(s.flows_hold _).trans flows, child⟩

theorem flows_failOutput (s : Session) (cause : IoError) :
    s.Flows (s.failOutput cause) ∧ (s.failOutput cause).child = s.child := by
  unfold failOutput
  split
  · exact ⟨.refl s, rfl⟩
  · obtain ⟨flows, child⟩ := flows_feed
      { s with held := [], log := s.log ++ [.warn .stream ("Error reading output: " ++
        cause.message)] } (e := .close) rfl
    exact ⟨⟨flows.now, flows.deadline, flows.endless, flows.closing, flows.ending, flows.caller⟩,
      child⟩

theorem flows_endOutput (s : Session) : s.Flows s.endOutput ∧ s.endOutput.child = s.child := by
  unfold endOutput
  split
  · exact s.flows_finishOutput
  · exact s.flows_failOutput _

theorem flows_writeDue (s : Session) : s.Flows s.writeDue := by
  have flows := (s.flows_writeAll
    ((s.child.writes.takeWhile fun w => w.1 ≤ s.now).map (·.2))).1
  exact ⟨flows.now, flows.deadline, flows.endless, flows.closing, flows.ending, flows.caller⟩

theorem flows_writeEndless (s : Session) :
    s.Flows s.writeEndless ∧ s.writeEndless.child = s.child :=
  flows_ite (s.flows_write _)

theorem flows_closeDue (s : Session) : s.Flows s.closeDue ∧ s.closeDue.child = s.child :=
  flows_ite s.flows_endOutput

theorem flows_exitDue (s : Session) : s.Flows s.exitDue ∧ s.exitDue.child = s.child := by
  unfold exitDue
  split
  · exact s.flows_feed rfl
  · exact ⟨.refl s, rfl⟩

theorem flows_expireDue (s : Session) : s.Flows s.expireDue ∧ s.expireDue.child = s.child :=
  flows_ite (s.flows_feed rfl)

/-- **Letting happen what is due** is the world's doing only. -/
theorem flows_settle (s : Session) : s.Flows s.settle :=
  s.flows_writeDue.trans <| (flows_writeEndless _).1.trans <| (flows_closeDue _).1.trans <|
    (flows_exitDue _).1.trans (flows_expireDue _).1

/-! ### What is left afterwards -/

/-- Only the writes that are due are used up. -/
theorem writes_writeDue (s : Session) :
    s.writeDue.child.writes = s.child.writes.dropWhile fun w => w.1 ≤ s.now := by
  have child := (s.flows_writeAll
    ((s.child.writes.takeWhile fun w => w.1 ≤ s.now).map (·.2))).2
  have split : s.child.writes.takeWhile (fun w => w.1 ≤ s.now) ++
      s.child.writes.dropWhile (fun w => w.1 ≤ s.now) = s.child.writes :=
    List.takeWhile_append_dropWhile
  show List.drop _ (Session.child _).writes = _
  rw [child]
  exact (congrArg (List.drop _) split.symm).trans List.drop_left

theorem child_settle (s : Session) : s.settle.child = s.writeDue.child :=
  (flows_expireDue _).2.trans <| (flows_exitDue _).2.trans <| (flows_closeDue _).2.trans
    (flows_writeEndless _).2

/-- What the end of the child and the limit leave as it is. -/
theorem unread_feed (s : Session) {e : LineStream.Event} (world : e.ofWorld = true)
    (unread : e.ofReader = false) :
    (s.feed e).1.stream.queue = s.stream.queue ∧ (s.feed e).1.stream.closed = s.stream.closed :=
  LineStream.State.unread_move (s.stream.step_move e) world unread

/-- The last stages of settling leave the lines as they are. -/
theorem unread_expireDue_exitDue (s : Session) :
    s.exitDue.expireDue.stream.queue = s.stream.queue ∧
      s.exitDue.expireDue.stream.closed = s.stream.closed := by
  have exits : s.exitDue.stream.queue = s.stream.queue ∧
      s.exitDue.stream.closed = s.stream.closed := by
    unfold exitDue
    split
    · exact s.unread_feed rfl rfl
    · exact ⟨rfl, rfl⟩
  unfold expireDue
  split
  · obtain ⟨queue, closed⟩ := s.exitDue.unread_feed (e := .expire) rfl rfl
    exact ⟨queue.trans exits.1, closed.trans exits.2⟩
  · exact exits

/-- What the child still writes after settling lies ahead. -/
theorem ahead_of_writes {w : Nat × Bytes} {ws : List (Nat × Bytes)}
    (writes : s.settle.child.writes = w :: ws) : s.now < w.1 := by
  have later := List.head?_dropWhile_not (fun w => decide (w.1 ≤ s.now)) s.child.writes
  rw [← writes_writeDue, ← child_settle, writes] at later
  exact Nat.lt_of_not_le (of_decide_eq_false later)

/-- However the output ends, no more lines come. -/
theorem closed_endOutput (s : Session) : s.endOutput.stream.closed = true := by
  unfold endOutput
  split
  · rw [finishOutput, feedAll_stream, LineStream.State.run_append]
    rfl
  · unfold failOutput
    split
    · next closed => exact closed
    · rfl

/-- If the output is still open after settling, the child has more to write, or does not
close its output yet. -/
theorem ahead_of_open (endless : s.child.endless = none) (opened : s.settle.stream.closed = false) :
    s.settle.child.writes ≠ [] ∨ ∀ t, s.child.closed = some t → s.now < t := by
  have flows := s.flows_writeDue.trans s.writeDue.flows_writeEndless.1
  have child : s.settle.child = s.writeDue.writeEndless.child :=
    s.child_settle.trans s.writeDue.flows_writeEndless.2.symm
  rw [child, ← flows.closing, ← flows.now]
  rw [← flows.endless] at endless
  replace opened : s.writeDue.writeEndless.closeDue.stream.closed = false := by
    rw [← opened]
    exact (unread_expireDue_exitDue _).2.symm
  generalize s.writeDue.writeEndless = s₂ at endless opened ⊢
  by_cases written : s₂.child.writes = []
  · refine .inr ?_
    intro t closing
    apply Nat.lt_of_not_le
    intro begun
    have due : (s₂.isDue s₂.child.closed && s₂.child.writes.isEmpty &&
        s₂.child.endless.isNone) = true := by
      rw [closing, written, endless]
      simpa [isDue] using begun
    rw [closeDue, if_pos due, closed_endOutput] at opened
    cases opened
  · exact .inl written

/-- The limit does not end the child. -/
theorem ending_expireDue (s : Session) : s.expireDue.stream.ending = s.stream.ending := by
  unfold expireDue
  split
  · show (s.stream.step .expire).1.ending = _
    rw [LineStream.State.step]
    split <;> rfl
  · rfl

/-- If the child has not been seen to end after settling, its end lies ahead. -/
theorem ahead_of_running (running : s.settle.stream.ending = none) {t : Nat} {status : WaitStatus}
    (ending : s.child.ended = some (t, status)) : s.now < t := by
  have flows := s.flows_writeDue.trans <| s.writeDue.flows_writeEndless.1.trans
    s.writeDue.writeEndless.flows_closeDue.1
  rw [settle, ending_expireDue] at running
  rw [← flows.ending] at ending
  rw [← flows.now]
  generalize s.writeDue.writeEndless.closeDue = s₃ at running ending ⊢
  apply Nat.lt_of_not_le
  intro begun
  obtain ⟨told, learned⟩ : ∃ told, s₃.ending? = some told := by
    rw [ending?, ending]
    cases s₃.child.untold with
    | none => exact ⟨_, if_pos begun⟩
    | some cause => exact ⟨_, rfl⟩
  rw [exitDue, learned] at running
  replace running : (s₃.stream.step (.exit told)).1.ending = none := running
  rw [LineStream.State.step] at running
  split at running
  · next ended =>
      rw [running] at ended
      cases ended
  · cases running

/-! ### One round of waiting -/

theorem Plays.sound {told : List LineStream.Answer} (h : s.Plays s' told)
    (sound : s.stream.Sound) : s'.stream.Sound := by
  obtain ⟨history, reached, -⟩ := h
  rw [← reached]
  exact LineStream.State.run_invariant LineStream.State.Sound.move sound history

/-- A look follows a rule. -/
theorem look_move (s : Session) :
    LineStream.Move s.stream (.poll false s.child.delivery) s.look.1.stream
      (s.stream.step (.poll false s.child.delivery)).2 :=
  s.stream.step_move _

/-- What a round of waiting without a limit comes to: what is due happens, and the call
looks once. -/
inductive Round (fuel : Nat) (s : Session) : Session × Reply → Prop
  /-- The look is answered. -/
  | answered {s' : Session} {a : LineStream.Answer}
      (looked : s.settle.look = (s', some a)) : Round fuel s (s', .answer a)
  /-- The call waits for something else now. -/
  | turned {s' : Session} (looked : s.settle.look = (s', none))
      (turned : s'.stream.phase ≠ s.settle.stream.phase) : Round fuel s (s'.wait fuel none)
  /-- The call waits until something happens. -/
  | slept {s' : Session} {t : Nat} (looked : s.settle.look = (s', none))
      (still : s'.stream.phase = s.settle.stream.phase) (next : s'.nextInstant? = some t) :
      Round fuel s (wait fuel none { s' with now := t })
  /-- Nothing happens any more. -/
  | stuck {s' : Session} (looked : s.settle.look = (s', none))
      (still : s'.stream.phase = s.settle.stream.phase) (never : s'.nextInstant? = none) :
      Round fuel s (s', .never)

/-- **Waiting goes round by round.** -/
theorem wait_round (fuel : Nat) (s : Session) : s.Round fuel (s.wait (fuel + 1) none) := by
  generalize waited : s.wait (fuel + 1) none = r
  unfold wait at waited
  extract_lets s₁ before at waited
  split at waited
  · next s' a looked =>
      subst waited
      exact .answered looked
  · next s' looked =>
      split at waited
      · next turned =>
          subst waited
          exact .turned looked turned
      · next still =>
          rw [Decidable.not_not] at still
          split at waited
          · next impossible =>
              cases impossible
          · next t next _ =>
              subst waited
              exact .slept looked still next
          · next impossible =>
              cases impossible
          · next never _ =>
              subst waited
              exact .stuck looked still never

end

end Session

end ExitContract
