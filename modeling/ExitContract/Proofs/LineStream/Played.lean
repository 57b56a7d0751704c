import ExitContract.Proofs.LineStream.KillCode
import ExitContract.Proofs.LineStream.TwoViews

/-!
# Sessions as histories

A session drives its stream with a clock and a known child. The stream it shows is one
that some history leads to, and the replies of the session are the answers of that
history. So whatever holds after every history of a stream holds in every session.

**Who is answered.** A stream answers calls and looks only. What the child does and
what the clock does becomes part of the history without an answer, and so a session
that settles what is due plays on without a reply.

## Main definitions

* `Session.Plays` — from one moment of a session to another, with the answers between
* `Reply.answers` — the answer of a reply, if it is one
* `Session.Drains` — a session that is asked for lines until there are no more

## Main statements

* `Session.plays_next` — asking for one line
* `Session.drains_iff` — what `drainFrom` comes to
* `Session.Drains.isVerdict` — the answer that ends a drained session is the verdict
-/

namespace ExitContract

namespace LineStream

/-- Whether an event is a call or its look for an answer. -/
def Event.asks : Event → Bool
  | .call | .poll .. => true
  | _ => false

/-- Only calls and looks are answered. -/
theorem State.answer_of_unasked {s s' : State} {e : Event} {out : Output}
    (m : Move s e s' out) (unasked : e.asks = false) : out.answer = none := by
  cases m <;> first | rfl | cases unasked

@[simp] theorem answers_append (outs more : List Output) :
    answers (outs ++ more) = answers outs ++ answers more := List.filterMap_append

end LineStream

open LineStream (Answer answers)

/-- The answer of a reply, if it is one. -/
def Reply.answers : Reply → List Answer
  | .answer a => [a]
  | .pending | .never => []

namespace Session

/-- From one moment of a session to another its stream goes through a history, in
which calls were given these answers. -/
def Plays (s s' : Session) (told : List Answer) : Prop :=
  ∃ history, (s.stream.run history).1 = s'.stream ∧
    answers (s.stream.run history).2 = told

section

variable {s s' s'' : Session} {told more : List Answer}

/-- What does not touch the stream is no part of its history. -/
theorem plays_of_stream_eq (same : s.stream = s'.stream) : s.Plays s' [] :=
  ⟨[], same, rfl⟩

theorem Plays.trans (h : s.Plays s' told) (k : s'.Plays s'' more) :
    s.Plays s'' (told ++ more) := by
  obtain ⟨history, reached, answered⟩ := h
  obtain ⟨later, reached', answered'⟩ := k
  refine ⟨history ++ later, ?_, ?_⟩
  · simp [reached, reached']
  · simp [answered, reached, answered']

theorem plays_ite {c : Prop} [Decidable c] (yes : s.Plays s' told) (no : s.Plays s'' told) :
    s.Plays (if c then s' else s'') told := by
  split
  · exact yes
  · exact no

theorem plays_feed (s : Session) (e : LineStream.Event) :
    s.Plays (s.feed e).1 (s.feed e).2.toList := by
  refine ⟨[e], rfl, ?_⟩
  simp [feed]

theorem plays_feed_unasked (s : Session) {e : LineStream.Event} (unasked : e.asks = false) :
    s.Plays (s.feed e).1 [] := by
  have silent : (s.feed e).2 = none :=
    LineStream.State.answer_of_unasked (LineStream.State.step_move s.stream e) unasked
  have played := s.plays_feed e
  rw [silent] at played
  exact played

theorem plays_feedAll (s : Session) {es : List LineStream.Event}
    (unasked : ∀ e ∈ es, e.asks = false) : s.Plays (s.feedAll es) [] := by
  induction es generalizing s with
  | nil => exact plays_of_stream_eq rfl
  | cons e es ih =>
      have first := s.plays_feed_unasked (unasked e List.mem_cons_self)
      exact first.trans (ih _ fun e mem => unasked e (List.mem_cons_of_mem _ mem))

theorem plays_write (s : Session) (octets : Bytes) : s.Plays (s.write octets) [] := by
  have held : s.Plays { s with held := (LineStream.cutLines s.held octets).2.reverse } [] :=
    plays_of_stream_eq rfl
  refine held.trans (plays_feedAll _ ?_)
  intro e mem
  obtain ⟨line, -, rfl⟩ := List.mem_map.mp mem
  rfl

theorem plays_writeAll (s : Session) (runs : List Bytes) : s.Plays (s.writeAll runs) [] := by
  induction runs generalizing s with
  | nil => exact plays_of_stream_eq rfl
  | cons octets runs ih => exact (s.plays_write octets).trans (ih _)

theorem plays_finishOutput (s : Session) : s.Plays s.finishOutput [] := by
  have held : s.Plays { s with held := [] } [] := plays_of_stream_eq rfl
  refine held.trans (plays_feedAll _ ?_)
  intro e mem
  rcases List.mem_append.mp mem with mem | mem
  · obtain ⟨line, -, rfl⟩ := List.mem_map.mp mem
    rfl
  · rw [List.mem_singleton.mp mem]
    rfl

theorem plays_writeDue (s : Session) : s.Plays s.writeDue [] :=
  (s.plays_writeAll _).trans (plays_of_stream_eq rfl)

theorem plays_writeEndless (s : Session) : s.Plays s.writeEndless [] :=
  plays_ite (s.plays_write _) (plays_of_stream_eq rfl)

theorem plays_failOutput (s : Session) (cause : IoError) : s.Plays (s.failOutput cause) [] := by
  have complained (log : List Event) : s.Plays { s with held := [], log := log } [] :=
    plays_of_stream_eq rfl
  exact plays_ite (plays_of_stream_eq rfl) ((complained _).trans (plays_feed_unasked _ rfl))

theorem plays_endOutput (s : Session) : s.Plays s.endOutput [] := by
  unfold endOutput
  split
  · exact s.plays_finishOutput
  · exact s.plays_failOutput _

theorem plays_closeDue (s : Session) : s.Plays s.closeDue [] :=
  plays_ite s.plays_endOutput (plays_of_stream_eq rfl)

theorem plays_exitDue (s : Session) : s.Plays s.exitDue [] := by
  unfold exitDue
  split
  · exact s.plays_feed_unasked rfl
  · exact plays_of_stream_eq rfl

theorem plays_expireDue (s : Session) : s.Plays s.expireDue [] :=
  plays_ite (s.plays_feed_unasked rfl) (plays_of_stream_eq rfl)

/-- Whatever is due happens without a reply. -/
theorem plays_settle (s : Session) : s.Plays s.settle [] :=
  s.plays_writeDue.trans <| (plays_writeEndless _).trans <| (plays_closeDue _).trans <|
    (plays_exitDue _).trans (plays_expireDue _)

theorem plays_look (s : Session) : s.Plays s.look.1 s.look.2.toList := s.plays_feed _

/-- Moving the clock, and giving up, are no answers. -/
theorem plays_cancel (s : Session) (instant : Nat) :
    s.Plays { (s.feed .cancel).1 with now := instant } [] :=
  (s.plays_feed_unasked (e := .cancel) rfl).trans (plays_of_stream_eq rfl)

/-- Waiting for an answer gets that answer and no other. -/
theorem plays_wait (fuel : Nat) (limit : Option Nat) (s : Session) :
    s.Plays (s.wait fuel limit).1 (s.wait fuel limit).2.answers := by
  induction fuel generalizing s with
  | zero => exact plays_of_stream_eq rfl
  | succ fuel ih =>
      generalize waited : s.wait (fuel + 1) limit = r
      unfold wait at waited
      extract_lets s₁ before at waited
      have settled : s.Plays s₁ [] := s.plays_settle
      have looked := s₁.plays_look
      refine settled.trans ?_
      split at waited
      · next s₂ a answered =>
          rw [answered] at looked
          subst waited
          exact looked
      · next s₂ unanswered =>
          rw [unanswered] at looked
          have waitOn (t : Nat) :
              s₂.Plays (wait fuel limit { s₂ with now := t }).1
                (wait fuel limit { s₂ with now := t }).2.answers := by
            have later : s₂.Plays { s₂ with now := t } [] := plays_of_stream_eq rfl
            exact later.trans (ih _)
          refine looked.trans ?_
          split at waited
          · subst waited
            exact ih s₂
          · split at waited
            · split at waited
              · subst waited
                exact waitOn _
              · subst waited
                exact s₂.plays_cancel _
            · subst waited
              exact waitOn _
            · subst waited
              exact s₂.plays_cancel _
            · subst waited
              exact plays_of_stream_eq rfl

theorem plays_next (s : Session) (limit : Option Nat) :
    s.Plays (s.next limit).1 (s.next limit).2.answers := by
  have called := s.plays_feed .call
  rw [next]
  split
  · next s' a answered =>
      rw [answered] at called
      exact called
  · next s' unanswered =>
      rw [unanswered] at called
      exact called.trans (plays_wait _ _ s')

/-- A session that is asked for lines until there are no more: the moment after that,
the lines, and the answer that came in place of a line. -/
inductive Drains : Session → Session → List String → Answer → Prop
  | last {s s' : Session} {a : Answer} (asked : s.next none = (s', .answer a))
      (noLine : a.line? = none) : Drains s s' [] a
  | line {s s' s'' : Session} {text : String} {lines : List String} {a : Answer}
      (asked : s.next none = (s', .answer (.line text))) (rest : Drains s' s'' lines a) :
      Drains s s'' (text :: lines) a

/-- A session is drained in one way only. -/
theorem Drains.unique {lines others : List String} {a b : Answer}
    (h : s.Drains s' lines a) (k : s.Drains s'' others b) :
    s' = s'' ∧ lines = others ∧ a = b := by
  induction h generalizing others with
  | last asked noLine =>
      cases k with
      | last asked' =>
          cases asked.symm.trans asked'
          exact ⟨rfl, rfl, rfl⟩
      | line asked' =>
          cases asked.symm.trans asked'
          cases noLine
  | line asked _ ih =>
      cases k with
      | last asked' noLine =>
          cases asked.symm.trans asked'
          cases noLine
      | line asked' rest =>
          cases asked.symm.trans asked'
          obtain ⟨rfl, rfl, rfl⟩ := ih rest
          exact ⟨rfl, rfl, rfl⟩

/-- What `drainFrom` comes to, whatever its patience, is that. -/
theorem drains_iff {lines : List String} {a : Answer} :
    s.Drains s' lines a ↔ ∃ fuel, s.drainFrom fuel = (s', lines, .answer a) := by
  constructor
  · intro h
    induction h with
    | @last s s' a asked noLine =>
        refine ⟨1, ?_⟩
        rw [drainFrom, asked]
        cases a with
        | line text => cases noLine
        | finished | failed => rfl
    | line asked _ ih =>
        obtain ⟨fuel, drained⟩ := ih
        refine ⟨fuel + 1, ?_⟩
        rw [drainFrom, asked]
        dsimp only
        rw [drained]
  · rintro ⟨fuel, drained⟩
    induction fuel generalizing s lines with
    | zero => cases drained
    | succ fuel ih =>
        rw [drainFrom] at drained
        split at drained
        · next s₁ text asked =>
            generalize rest : s₁.drainFrom fuel = r at drained
            obtain ⟨s₂, more, reply⟩ := r
            cases drained
            exact .line asked (ih rest)
        · next reply lastly asked =>
            cases drained
            refine .last asked ?_
            cases a with
            | line text => exact absurd rfl (lastly text)
            | finished | failed => rfl

theorem Drains.plays {lines : List String} {a : Answer} (h : s.Drains s' lines a) :
    s.Plays s' (lines.map .line ++ [a]) := by
  induction h with
  | @last s _ _ asked =>
      have played := s.plays_next none
      rw [asked] at played
      exact played
  | @line s _ _ _ _ _ asked _ ih =>
      have played := s.plays_next none
      rw [asked] at played
      exact played.trans ih

theorem Drains.noLine {lines : List String} {a : Answer} (h : s.Drains s' lines a) :
    a.line? = none := by
  induction h with
  | last _ noLine => exact noLine
  | line _ _ ih => exact ih

/-- **A session that is drained ends with the verdict.** Take a session whose stream was
just started, and ask it for lines until there are no more. The lines that came are those
of its stream, and the answer after them is the one that is owed for how the child
ended. -/
theorem Drains.isVerdict {command : String} {options : Options} {lines : List String}
    {a : Answer} (h : s.Drains s' lines a)
    (started : s.stream = LineStream.State.start command options) :
    s'.stream.IsVerdict a ∧ s'.stream.transcript = lines ∧
      s'.stream.command = command ∧ s'.stream.options = options := by
  obtain ⟨history, reached, answered⟩ := h.plays
  have told := LineStream.State.told_run command options history
  have taken := LineStream.State.transcript_run s.stream history
  have setup := LineStream.State.setup_run s.stream history
  rw [← started, answered, reached] at told
  rw [reached, LineStream.linesTaken, answered] at taken
  rw [reached, started] at setup
  have transcript : s'.stream.transcript = lines := by
    have last : List.filterMap Answer.line? [a] = [] := by
      rw [List.filterMap_cons_none h.noLine, List.filterMap_nil]
    rw [taken, started, List.filterMap_append, last, List.append_nil, List.filterMap_map]
    exact List.filterMap_some
  refine ⟨?_, transcript, setup.1, setup.2⟩
  cases done : s'.stream.done with
  | false =>
      -- Before the verdict there would be lines only.
      have mem : a ∈ lines.map .line ++ [a] := List.mem_append_right _ List.mem_cons_self
      rw [told.undone done] at mem
      obtain ⟨text, -, rfl⟩ := List.mem_map.mp mem
      cases h.noLine
  | true =>
      obtain ⟨v, calls, owed, both⟩ := told.done done
      rw [transcript] at both
      obtain ⟨rfl, -⟩ := List.cons.inj (List.append_cancel_left both)
      exact owed

end

end Session

end ExitContract
