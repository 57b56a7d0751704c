import ExitContract.Proofs.LineStream.Settled

/-!
# How many lines a session has left

A session is asked for lines until there are no more, and `Session.drain` puts a bound on
how often it asks. The bound is read off the child before the first line is asked for,
and it is never too small: a session that can be drained at all is drained within it.

**What is left.** Lines that wait are left. While the output is open, so is one line for
each line feed that is still to be written, and one more for octets after the last of
them. Whatever the world does turns one of these into another, and a kill only takes
writes away. A line that is answered is one less.

**Output without end.** The count leaves out what a child writes again and again. Once
that has begun and has a line feed in it, a line waits at every look, so that neither
the limit nor the end of the output is ever found. Such a session floods, and is never
drained. So a session that is drained answers no line that was not counted.

## Main definitions

* `Session.linesComing` — how many lines are left
* `Session.Flooding` — at every look a line waits

## Main statements

* `Session.settle_linesComing` — whatever is due leaves no more lines than before
* `Session.next_of_flooding` — a session that floods answers a line, and floods
* `Session.Drains.drain_eq` — a session that can be drained is drained by `drain`
-/

namespace ExitContract

namespace LineStream

/-- How many lines an answer brings. -/
def Answer.lineCount : Answer → Nat
  | .line _ => 1
  | .finished | .failed _ => 0

/-- The complete lines of octets are as many as the line feeds in them. -/
theorem length_cutLines (held octets : Bytes) :
    (cutLines held octets).1.length = octets.count lineFeed := by
  induction octets generalizing held with
  | nil => rfl
  | cons b octets ih =>
      rw [cutLines]
      by_cases ends : b = lineFeed
      · rw [if_pos ends, ends, List.count_cons_self, ← ih []]
        rfl
      · rw [if_neg ends, List.count_cons_of_ne ends, ih]

theorem length_lastLine_le (rest : Bytes) : (lastLine rest).length ≤ 1 := by
  unfold lastLine
  split
  · exact Nat.zero_le 1
  · exact Nat.le_refl 1

namespace State

variable {s s' : State} {out : Output} {limitFirst : Bool} {d : Delivery}

/-- A look takes the line that it answers, if it answers one, and leaves the output as
open as it was. -/
theorem look_move (m : Move s (.poll limitFirst d) s' out) :
    s'.queue.length + (out.answer.elim 0 Answer.lineCount) = s.queue.length ∧
      s'.closed = s.closed ∧ s'.dropped = s.dropped := by
  cases m with
  | deliver _ _ _ _ _ queued =>
      rw [queued]
      exact ⟨rfl, rfl, rfl⟩
  | reap _ _ status =>
      have noLine := verdict_line? s.options s.command s.killed status.exitCode s.outputText
      refine ⟨?_, rfl, rfl⟩
      show _ + Answer.lineCount (verdict _ _ _ _ _) = _
      cases given : verdict s.options s.command s.killed status.exitCode s.outputText with
      | line text =>
          rw [given] at noLine
          cases noLine
      | finished | failed => rfl
  | still | drain | killReceiving | killReaping | lose => exact ⟨rfl, rfl, rfl⟩

/-- A look that is not answered leaves the call pending. -/
theorem pending_of_look (m : Move s (.poll limitFirst d) s' out) (pending : s.phase ≠ .idle)
    (unanswered : out.answer = none) : s'.phase ≠ .idle := by
  cases m with
  | still => exact pending
  | drain | killReceiving | killReaping => nofun
  | deliver | reap | lose => cases unanswered

/-- A look at a line that waits is answered with it. -/
theorem poll_of_queue {guarded : Bool} {line : String} {rest : List String}
    (receiving : s.phase = .receiving guarded) (queued : s.queue = line :: rest) :
    s.poll false d =
      ({ s with queue := rest, transcript := s.transcript ++ [line], phase := .idle },
        { answer := some (.line line) }) := by
  simp only [poll, receiving, receive?, queued]
  rfl

end State

end LineStream

open LineStream (Answer lineFeed)

/-- How many lines a reply brings. -/
def Reply.lineCount : Reply → Nat
  | .answer a => a.lineCount
  | .pending | .never => 0

namespace Session

/-- How many line feeds are in what is written. -/
def lineEnds (writes : List (Nat × Bytes)) : Nat :=
  writes.foldr (fun w n => w.2.count lineFeed + n) 0

/-- How many lines are left, without those of an output without end. -/
def linesComing (s : Session) : Nat :=
  s.stream.queue.length + if s.stream.closed then 0 else lineEnds s.child.writes + 1

/-- An output without end has begun, and lines end in it. -/
structure Flooding (s : Session) : Prop where
  opened : s.stream.closed = false
  endless : ∃ start octets, s.child.endless = some (start, octets) ∧ start ≤ s.now ∧
    lineFeed ∈ octets

/-- The caller has not let go of the stream, and the stream is as some history left it. -/
structure Taking (s : Session) : Prop where
  sound : s.stream.Sound
  kept : s.stream.dropped = false

section

variable {s s' : Session}

@[simp] theorem lineEnds_cons (w : Nat × Bytes) (writes : List (Nat × Bytes)) :
    lineEnds (w :: writes) = w.2.count lineFeed + lineEnds writes := rfl

@[simp] theorem lineEnds_append (writes more : List (Nat × Bytes)) :
    lineEnds (writes ++ more) = lineEnds writes + lineEnds more := by
  induction writes with
  | nil => exact (Nat.zero_add _).symm
  | cons w writes ih => simp [ih, Nat.add_assoc]

/-- Fewer writes have fewer line feeds. -/
theorem lineEnds_filter_le (writes : List (Nat × Bytes)) (p : Nat × Bytes → Bool) :
    lineEnds (writes.filter p) ≤ lineEnds writes := by
  induction writes with
  | nil => exact Nat.le_refl 0
  | cons w writes ih =>
      rw [List.filter_cons, lineEnds_cons]
      split
      · exact Nat.add_le_add_left ih _
      · omega

theorem linesAhead_eq (s : Session) :
    s.linesAhead = lineEnds s.child.writes + (s.stream.queue.length + 1) := by
  have folded (writes : List (Nat × Bytes)) (n : Nat) :
      writes.foldl (fun n w => n + w.2.count lineFeed) n = lineEnds writes + n := by
    induction writes generalizing n with
    | nil => exact (Nat.zero_add n).symm
    | cons w writes ih =>
        rw [List.foldl_cons, ih, lineEnds_cons]
        omega
  exact folded _ _

/-- The bound that a session is drained with. -/
theorem linesComing_le_linesAhead (s : Session) : s.linesComing ≤ s.linesAhead := by
  rw [linesAhead_eq, linesComing]
  split <;> omega

/-! ### What is due -/

/-- What is written to an open output becomes lines. -/
theorem read_write (s : Session) (octets : Bytes) :
    (s.write octets).stream.closed = s.stream.closed ∧
      (s.write octets).stream.queue.length =
        s.stream.queue.length + if s.stream.closed then 0 else octets.count lineFeed := by
  have written : (s.write octets).stream = _ :=
    (feedAll_stream _ _).trans (LineStream.State.run_arrivals s.stream _)
  rw [written]
  split
  · exact ⟨rfl, rfl⟩
  · refine ⟨rfl, ?_⟩
    rw [List.length_append, List.length_map, LineStream.length_cutLines]

theorem read_writeAll (s : Session) (writes : List (Nat × Bytes)) :
    let s' := s.writeAll (writes.map (·.2))
    s'.stream.closed = s.stream.closed ∧
      s'.stream.queue.length =
        s.stream.queue.length + if s.stream.closed then 0 else lineEnds writes := by
  induction writes generalizing s with
  | nil =>
      refine ⟨rfl, ?_⟩
      show _ = _ + if s.stream.closed = true then 0 else 0
      rw [ite_self]
      rfl
  | cons w writes ih =>
      obtain ⟨closed, queue⟩ := s.read_write w.2
      obtain ⟨closed', queue'⟩ := ih (s.write w.2)
      refine ⟨closed'.trans closed, queue'.trans ?_⟩
      rw [queue, closed, lineEnds_cons]
      split <;> omega

/-- The timed output becomes lines, and nothing is lost. -/
theorem read_writeDue (s : Session) :
    s.writeDue.stream.closed = s.stream.closed ∧ s.writeDue.linesComing = s.linesComing := by
  obtain ⟨closed, queue⟩ := s.read_writeAll (s.child.writes.takeWhile fun w => w.1 ≤ s.now)
  have writes := s.writes_writeDue
  have split : lineEnds (s.child.writes.takeWhile fun w => w.1 ≤ s.now) +
      lineEnds (s.child.writes.dropWhile fun w => w.1 ≤ s.now) = lineEnds s.child.writes := by
    rw [← lineEnds_append, List.takeWhile_append_dropWhile]
  replace closed : s.writeDue.stream.closed = s.stream.closed := closed
  replace queue : s.writeDue.stream.queue.length = _ := queue
  refine ⟨closed, ?_⟩
  rw [linesComing, linesComing, closed, queue, writes]
  split <;> omega

/-- A session that floods goes on to, whatever else the world does. -/
theorem Flooding.flows (h : s.Flooding) (flows : s.Flows s')
    (closed : s'.stream.closed = s.stream.closed) : s'.Flooding := by
  obtain ⟨start, octets, endless, begun, ends⟩ := h.endless
  refine ⟨closed.trans h.opened, start, octets, flows.endless.trans endless, ?_, ends⟩
  rw [flows.now]
  exact begun

/-- Output without end adds no line unless the session floods. -/
theorem read_writeEndless (s : Session) :
    s.writeEndless.stream.closed = s.stream.closed ∧
      (s.Flooding ∨ s.writeEndless.linesComing = s.linesComing) := by
  have child := s.flows_writeEndless.2
  unfold writeEndless at child ⊢
  split
  · next cond =>
      rw [if_pos cond] at child
      rw [Bool.and_eq_true] at cond
      generalize given : (s.child.endless.map (·.2)).getD [] = octets at child ⊢
      obtain ⟨closed, queue⟩ := s.read_write octets
      refine ⟨closed, ?_⟩
      by_cases fed : s.stream.closed = false ∧ lineFeed ∈ octets
      · obtain ⟨opened, ends⟩ := fed
        cases endless : s.child.endless with
        | none =>
            rw [endless] at cond
            cases cond.1
        | some e =>
            rw [endless] at given cond
            obtain rfl : e.2 = octets := given
            exact .inl ⟨opened, e.1, e.2, endless, of_decide_eq_true cond.1, ends⟩
      · have nothing : (if s.stream.closed then 0 else octets.count lineFeed) = 0 := by
          split
          · rfl
          · next opened =>
              exact List.count_eq_zero.mpr fun ends => fed ⟨eq_false_of_ne_true opened, ends⟩
        refine .inr ?_
        rw [linesComing, linesComing, closed, queue, child, nothing, Nat.add_zero]
  · exact ⟨rfl, .inr rfl⟩

/-- The end of an open output brings one line at most. -/
theorem queue_endOutput_le (s : Session) :
    s.endOutput.stream.queue.length ≤
      s.stream.queue.length + if s.stream.closed then 0 else 1 := by
  unfold endOutput
  split
  · have finished : s.finishOutput.stream = _ :=
      (feedAll_stream _ _).trans (congrArg Prod.fst (LineStream.State.run_append _ _ _))
    rw [LineStream.State.run_arrivals] at finished
    have last := LineStream.length_lastLine_le s.held.reverse
    rw [finished]
    split
    · exact Nat.le_refl _
    · show (s.stream.queue ++ _).length ≤ _
      rw [List.length_append, List.length_map]
      exact Nat.add_le_add_left last _
  · unfold failOutput
    split
    · exact Nat.le_add_right _ _
    · exact Nat.le_add_right _ _

/-- The end of the output brings one line at most, and there is none of an output without
end. -/
theorem read_closeDue (s : Session) :
    (s.child.endless ≠ none → s.closeDue = s) ∧ s.closeDue.linesComing ≤ s.linesComing := by
  unfold closeDue
  split
  · next cond =>
      simp only [Bool.and_eq_true, Option.isNone_iff_eq_none] at cond
      refine ⟨fun endless => absurd cond.2 endless, ?_⟩
      rw [linesComing, linesComing, s.closed_endOutput, if_pos rfl]
      refine Nat.le_trans s.queue_endOutput_le (Nat.add_le_add_left ?_ _)
      split
      · exact Nat.le_refl 0
      · exact Nat.le_add_left 1 _
  · exact ⟨fun _ => rfl, Nat.le_refl _⟩

/-- Output without end is not closed. -/
theorem closed_settle (endless : s.child.endless ≠ none) :
    s.settle.stream.closed = s.stream.closed := by
  have flows := s.flows_writeDue.trans s.writeDue.flows_writeEndless.1
  have still := s.writeDue.writeEndless.read_closeDue.1 (by rw [flows.endless]; exact endless)
  rw [settle, still, (unread_expireDue_exitDue _).2, (read_writeEndless _).1, s.read_writeDue.1]

/-- **Whatever is due leaves no more lines than before**, unless the session floods. -/
theorem settle_linesComing (s : Session) :
    s.Flooding ∨ s.settle.linesComing ≤ s.linesComing := by
  obtain ⟨closed, written⟩ := s.read_writeDue
  obtain ⟨-, floods | same⟩ := s.writeDue.read_writeEndless
  · -- Writing what is due neither begins the endless output nor opens the output.
    obtain ⟨start, octets, endless, begun, ends⟩ := floods.endless
    have flows := s.flows_writeDue
    rw [flows.endless] at endless
    rw [flows.now] at begun
    exact .inl ⟨closed.symm.trans floods.opened, start, octets, endless, begun, ends⟩
  · have fewer := s.writeDue.writeEndless.read_closeDue.2
    rw [same, written] at fewer
    generalize hs : s.writeDue.writeEndless.closeDue = s' at fewer
    have settled : s.settle = s'.exitDue.expireDue := by rw [← hs]; rfl
    obtain ⟨queue, closed⟩ := s'.unread_expireDue_exitDue
    have child : s'.exitDue.expireDue.child = s'.child :=
      (flows_expireDue _).2.trans s'.flows_exitDue.2
    refine .inr ?_
    rw [settled, linesComing, queue, closed, child]
    exact fewer

/-- A session that floods still does when it has settled. -/
theorem Flooding.settle (h : s.Flooding) : s.settle.Flooding := by
  obtain ⟨_, _, endless, -⟩ := h.endless
  exact h.flows s.flows_settle (closed_settle (by rw [endless]; nofun))

/-- Output without end is written until a line waits. -/
theorem Flooding.queue_writeEndless (h : s.Flooding) : s.writeEndless.stream.queue ≠ [] := by
  obtain ⟨start, octets, endless, begun, ends⟩ := h.endless
  intro empty
  unfold writeEndless at empty
  split at empty
  · obtain ⟨-, queue⟩ := s.read_write octets
    have some : 0 < octets.count lineFeed := List.count_pos_iff.mpr ends
    rw [h.opened, if_neg Bool.false_ne_true] at queue
    rw [endless] at empty
    replace empty := congrArg List.length empty
    dsimp only [Option.map_some, Option.getD_some, List.length_nil] at empty
    omega
  · next idle =>
      apply idle
      rw [endless, empty]
      simpa [isDue] using begun

/-- When a session that floods has settled, a line waits. -/
theorem Flooding.queue_settle (h : s.Flooding) : s.settle.stream.queue ≠ [] := by
  have written : s.writeDue.Flooding := h.flows s.flows_writeDue s.read_writeDue.1
  obtain ⟨_, _, endless, -⟩ := written.endless
  have still : s.writeDue.writeEndless.closeDue = s.writeDue.writeEndless := by
    refine s.writeDue.writeEndless.read_closeDue.1 ?_
    rw [s.writeDue.flows_writeEndless.1.endless, endless]
    exact Option.some_ne_none _
  rw [Session.settle, still, (unread_expireDue_exitDue _).1]
  exact written.queue_writeEndless

/-! ### What a look and a call leave -/

/-- No event gives the child more to write. -/
theorem lineEnds_feed_le (s : Session) (e : LineStream.Event) :
    lineEnds (s.feed e).1.child.writes ≤ lineEnds s.child.writes := by
  rw [child_feed]
  split
  · exact lineEnds_filter_le _ _
  · exact Nat.le_refl _

/-- A look takes away the line that it answers, if it answers one, and a kill takes only
writes away. -/
theorem look_linesComing (s : Session) :
    s.look.1.linesComing + s.look.2.elim 0 Answer.lineCount ≤
        s.linesComing ∧
      s.look.1.stream.dropped = s.stream.dropped := by
  obtain ⟨queue, closed, dropped⟩ :=
    LineStream.State.look_move s.look_move
  have writes : lineEnds s.look.1.child.writes ≤ lineEnds s.child.writes :=
    s.lineEnds_feed_le _
  replace queue : s.look.1.stream.queue.length +
      s.look.2.elim 0 Answer.lineCount = s.stream.queue.length := queue
  replace closed : s.look.1.stream.closed = s.stream.closed := closed
  refine ⟨?_, dropped⟩
  rw [linesComing, linesComing, closed, ← queue]
  split <;> omega

/-- A look of a session that has settled and floods is answered with a line, and the
session still floods. -/
theorem Flooding.look (h : s.Flooding) (waits : s.stream.queue ≠ []) {guarded : Bool}
    (receiving : s.stream.phase = .receiving guarded) :
    ∃ s' text, s.look = (s', some (.line text)) ∧ s'.Flooding := by
  obtain ⟨text, rest, queued⟩ := List.exists_cons_of_ne_nil waits
  have looked := LineStream.State.poll_of_queue (d := s.child.delivery) receiving queued
  refine ⟨_, text, Prod.ext rfl ?_, ?_⟩
  · show (s.stream.poll false s.child.delivery).2.answer = _
    rw [looked]
  · have child : s.look.1.child = s.child := by
      rw [Session.look, child_feed, LineStream.State.step, looked]
      rfl
    refine ⟨?_, ?_⟩
    · show (s.stream.poll false s.child.delivery).1.closed = false
      rw [looked]
      exact h.opened
    · rw [child]
      exact h.endless

/-- Looking does not let go of the stream. -/
theorem Taking.look (h : s.Taking) : s.settle.look.1.Taking := by
  have played := s.plays_settle.trans s.settle.plays_look
  have kept := s.settle.look_linesComing.2
  exact ⟨played.sound h.sound, kept.trans (s.flows_settle.dropped.trans h.kept)⟩

/-- A call that is not answered waits on. -/
theorem Taking.unanswered (h : s.Taking) (pending : s.stream.phase ≠ .idle)
    (looked : s.settle.look = (s', none)) :
    s'.Taking ∧ s'.stream.phase ≠ .idle := by
  have taking := h.look
  have unanswered : s.settle.look.2 = none := congrArg Prod.snd looked
  have waits := LineStream.State.pending_of_look s.settle.look_move
    (by rw [s.flows_settle.phase]; exact pending) unanswered
  replace waits : s.settle.look.1.stream.phase ≠ .idle := waits
  rw [looked] at taking waits
  exact ⟨taking, waits⟩

theorem Taking.wait (h : s.Taking) (pending : s.stream.phase ≠ .idle) (fuel : Nat) :
    (s.wait fuel none).1.Taking := by
  induction fuel generalizing s with
  | zero => exact h
  | succ fuel ih =>
      have round := s.wait_round fuel
      generalize s.wait (fuel + 1) none = r at round
      cases round with
      | answered looked =>
          have taking := h.look
          rw [looked] at taking
          exact taking
      | turned looked =>
          obtain ⟨taking, waits⟩ := h.unanswered pending looked
          exact ih taking waits
      | slept looked =>
          obtain ⟨taking, waits⟩ := h.unanswered pending looked
          exact ih ⟨taking.sound, taking.kept⟩ waits
      | stuck looked => exact (h.unanswered pending looked).1

/-- A call in a session that floods is answered with a line, and the session still
floods. -/
theorem Flooding.wait (h : s.Flooding) (taking : s.Taking) (pending : s.stream.phase ≠ .idle)
    (fuel : Nat) :
    ∃ s' text, s.wait (fuel + 1) none = (s', .answer (.line text)) ∧ s'.Flooding := by
  have receiving : ∃ guarded, s.settle.stream.phase = .receiving guarded := by
    rw [s.flows_settle.phase]
    cases hphase : s.stream.phase with
    | idle => exact absurd hphase pending
    | receiving guarded => exact ⟨guarded, rfl⟩
    | reaping guarded =>
        exact absurd hphase (taking.sound.not_reaping_of_open h.opened guarded)
  obtain ⟨guarded, receiving⟩ := receiving
  obtain ⟨s', text, answered, floods⟩ := h.settle.look h.queue_settle receiving
  have round := s.wait_round fuel
  generalize s.wait (fuel + 1) none = r at round
  cases round with
  | answered looked =>
      cases answered.symm.trans looked
      exact ⟨s', text, rfl, floods⟩
  | turned looked | slept looked | stuck looked => cases answered.symm.trans looked

/-- A call that waits takes away the line that it answers, if it answers one, unless the
session comes to flood. -/
theorem wait_linesComing (fuel : Nat) (taking : s.Taking) (pending : s.stream.phase ≠ .idle) :
    (s.wait fuel none).1.Flooding ∨
      (s.wait fuel none).1.linesComing + (s.wait fuel none).2.lineCount ≤ s.linesComing := by
  induction fuel generalizing s with
  | zero => exact .inr (Nat.le_refl _)
  | succ fuel ih =>
      rcases s.settle_linesComing with floods | settled
      · obtain ⟨s', text, answered, floods⟩ := floods.wait taking pending fuel
        rw [answered]
        exact .inl floods
      · have looks := s.settle.look_linesComing
        have round := s.wait_round fuel
        generalize s.wait (fuel + 1) none = r at round
        cases round with
        | answered looked =>
            rw [looked] at looks
            exact .inr (Nat.le_trans looks.1 settled)
        | turned looked =>
            rw [looked] at looks
            obtain ⟨taking', waits⟩ := taking.unanswered pending looked
            refine (ih taking' waits).imp_right ?_
            intro fewer
            exact Nat.le_trans fewer (Nat.le_trans looks.1 settled)
        | @slept s' t looked =>
            rw [looked] at looks
            obtain ⟨taking', waits⟩ := taking.unanswered pending looked
            refine (ih (s := { s' with now := t }) ⟨taking'.sound, taking'.kept⟩ waits).imp_right ?_
            intro fewer
            exact Nat.le_trans fewer (Nat.le_trans looks.1 settled)
        | stuck looked =>
            rw [looked] at looks
            exact .inr (Nat.le_trans looks.1 settled)

/-- A call waits, or the stream is done. Either way the lines are as before. -/
theorem Taking.call (h : s.Taking) :
    let (s', answer) := s.feed .call
    (s'.Taking ∧ s'.linesComing = s.linesComing ∧ (s.Flooding → s'.Flooding)) ∧
      (answer = none ∧ s'.stream.phase ≠ .idle ∨
        answer = some .finished ∧ s.stream.done = true) := by
  by_cases idle : s.stream.phase = .idle
  · have free := And.intro idle h.kept
    cases done : s.stream.done with
    | true =>
        have called : s.stream.step .call = (s.stream, { answer := some .finished }) := by
          rw [LineStream.State.step, if_pos free, LineStream.State.call, if_pos done]
        rw [feed, called]
        exact ⟨⟨⟨h.sound, h.kept⟩, rfl, fun flooding => ⟨flooding.1, flooding.2⟩⟩, .inr ⟨rfl, rfl⟩⟩
    | false =>
        have called : s.stream.step .call =
            ({ s.stream with phase := .receiving s.stream.watches }, {}) := by
          rw [LineStream.State.step, if_pos free, LineStream.State.call,
            if_neg (ne_true_of_eq_false done)]
        have sound := h.sound.move (s.stream.step_move .call)
        rw [called] at sound
        rw [feed, called]
        exact ⟨⟨⟨sound, h.kept⟩, rfl, fun flooding => ⟨flooding.1, flooding.2⟩⟩,
          .inl ⟨rfl, LineStream.Phase.noConfusion⟩⟩
  · have called : s.stream.step .call = (s.stream, {}) := by
      rw [LineStream.State.step, if_neg fun free => idle free.1]
    rw [feed, called]
    exact ⟨⟨⟨h.sound, h.kept⟩, rfl, fun flooding => ⟨flooding.1, flooding.2⟩⟩, .inl ⟨rfl, idle⟩⟩

/-- **A session that floods answers a line, and floods.** -/
theorem next_of_flooding (h : s.Flooding) (taking : s.Taking) :
    ∃ s' text, s.next none = (s', .answer (.line text)) ∧ s'.Flooding := by
  have called := taking.call
  rw [next]
  generalize s.feed .call = r at called ⊢
  obtain ⟨s', answer⟩ := r
  obtain ⟨⟨taking', -, floods⟩, ⟨rfl, waits⟩ | ⟨-, done⟩⟩ := called
  · exact (floods h).wait taking' waits _
  · exact absurd done (taking.sound.undone_of_open h.opened)

/-- Asking for a line takes away the line that is answered, if one is, unless the session
comes to flood. -/
theorem Taking.next (h : s.Taking) :
    (s.next none).1.Taking ∧
      ((s.next none).1.Flooding ∨
        (s.next none).1.linesComing + (s.next none).2.lineCount ≤ s.linesComing) := by
  have called := h.call
  rw [Session.next]
  generalize s.feed .call = r at called ⊢
  obtain ⟨s', answer⟩ := r
  obtain ⟨⟨taking, same, -⟩, ⟨rfl, waits⟩ | ⟨rfl, -⟩⟩ := called
  · rw [← same]
    exact ⟨taking.wait waits _, wait_linesComing _ taking waits⟩
  · exact ⟨taking, .inr (Nat.le_of_eq same)⟩

/-! ### Draining -/

variable {lines : List String} {a : Answer}

/-- A session that floods is never drained. -/
theorem Drains.not_flooding (h : s.Drains s' lines a) (taking : s.Taking) : ¬ s.Flooding := by
  induction h with
  | last asked noLine =>
      intro floods
      obtain ⟨_, _, answered, -⟩ := next_of_flooding floods taking
      cases answered.symm.trans asked
      cases noLine
  | line asked _ ih =>
      intro floods
      obtain ⟨_, _, answered, floods'⟩ := next_of_flooding floods taking
      have taking' := taking.next.1
      cases answered.symm.trans asked
      rw [asked] at taking'
      exact ih taking' floods'

/-- No more lines come than were left. -/
theorem Drains.length_le (h : s.Drains s' lines a) (taking : s.Taking) :
    lines.length ≤ s.linesComing := by
  induction h with
  | last => exact Nat.zero_le _
  | line asked rest ih =>
      have asks := taking.next
      rw [asked] at asks
      obtain ⟨taking', floods | fewer⟩ := asks
      · exact absurd floods (rest.not_flooding taking')
      · exact Nat.le_trans (Nat.succ_le_succ (ih taking')) fewer

/-- As many questions as there are answers are enough. -/
theorem Drains.drainFrom_eq (h : s.Drains s' lines a) {fuel : Nat}
    (enough : lines.length < fuel) : s.drainFrom fuel = (s', lines, .answer a) := by
  induction h generalizing fuel with
  | @last s s' a asked noLine =>
      obtain ⟨fuel, rfl⟩ := Nat.exists_eq_succ_of_ne_zero (Nat.ne_of_gt enough)
      rw [drainFrom, asked]
      cases a with
      | line text => cases noLine
      | finished | failed => rfl
  | line asked rest ih =>
      obtain ⟨fuel, rfl⟩ := Nat.exists_eq_succ_of_ne_zero (Nat.ne_of_gt (Nat.zero_lt_of_lt enough))
      rw [drainFrom, asked]
      dsimp only
      rw [ih (Nat.lt_of_succ_lt_succ enough)]

/-- **A session that can be drained is drained by `drain`.** -/
theorem Drains.drain_eq (h : s.Drains s' lines a) (taking : s.Taking) :
    s.drain = (s', lines, .answer a) :=
  h.drainFrom_eq (Nat.lt_succ_of_le
    (Nat.le_trans (h.length_le taking) s.linesComing_le_linesAhead))

end

end Session

end ExitContract
