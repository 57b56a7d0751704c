import ExitContract.Proofs.LineStream.Answering

/-!
# Collecting against asking by hand

A caller may ask for some lines and then have the rest collected. What comes of it is
what comes of asking to the end: all lines, the ones already taken included, or the same
failure. At which point the caller stops asking makes no difference.

**The transcript.** Collecting looks at no line that it is answered. It asks until an
answer is no line, and then hands out the transcript of the stream. That is the complete
list because the transcript is kept from the start, through calls that were given up and
through a kill, and because no answer but a line comes before the last line.

**Two readings.** Over all schedules, a stream is asked and collected from by events: what
happens is one history, cut in two where the caller begins to collect. In a session the
child is a timeline, the clock is part of the program, and collecting is a loop with a
bound; there the bound has to be large enough, and the loop has to end.

## Main definitions

* `LineStream.State.collect?` — collecting from a stream while a history happens to it
* `Session.Takes` — asking a session for some lines

## Main statements

* `LineStream.State.collect?_eq` — collecting, in terms of the answers of a history
* `Session.collect_eq_ok_iff`, `Session.collect_eq_failed_iff` — collecting, in terms of
  the answers of a session
* `Session.collecting_agrees_with_asking` — all of it together
-/

namespace ExitContract

namespace LineStream

/-- What the last answer makes of the lines before it. -/
def Answer.conclude? (lines : List String) : Answer → Option (Except Failure (List String))
  | .line _ => none
  | .finished => some (.ok lines)
  | .failed f => some (.error f)

theorem Answer.conclude?_eq_ok_iff {last : Option Answer} {lines lines' : List String} :
    last.bind (Answer.conclude? lines) = some (.ok lines') ↔
      last = some .finished ∧ lines' = lines := by
  cases last with
  | none => simp
  | some a => cases a <;> simp [conclude?, eq_comm]

theorem Answer.conclude?_eq_error_iff {last : Option Answer} {lines : List String}
    {f : Failure} :
    last.bind (Answer.conclude? lines) = some (.error f) ↔ last = some (.failed f) := by
  cases last with
  | none => simp
  | some a => cases a <;> simp [conclude?]

namespace State

/-- Collecting from a stream while a history happens to it: whatever calls answer is
passed over until an answer is no line. Nothing comes of it if there is no such answer. -/
def collect? (s : State) : List Event → Option (Except Failure (List String))
  | [] => none
  | e :: es =>
    let (s, out) := s.step e
    match out.answer with
    | some .finished => some (.ok s.transcript)
    | some (.failed f) => some (.error f)
    | some (.line _) | none => s.collect? es

section

variable {s : State} {told : List Answer} {a : Answer}

/-- A verdict is no line, and one that is a failure carries the transcript. -/
theorem IsVerdict.last (h : s.IsVerdict a) :
    a.line? = none ∧ ∀ f, a = .failed f → f.output? = some s.outputText := by
  cases ended : s.ending with
  | none =>
      rw [IsVerdict, ended] at h
      exact h.elim
  | some ending =>
      cases ending with
      | ok status =>
          have given := h.eq_verdict ended
          refine ⟨given ▸ verdict_line? _ _ _ _ _, ?_⟩
          rintro f rfl
          exact verdict_output given.symm
      | error cause =>
          rw [IsVerdict, ended] at h
          obtain ⟨-, rfl⟩ := h
          refine ⟨rfl, ?_⟩
          rintro f ⟨⟩
          rfl

/-- A stream that has had its last word is done, and that was its verdict. -/
theorem Told.done_of_lastWord (h : s.Told told) (last : lastWord told = some a) :
    s.done = true ∧ s.IsVerdict a := by
  cases done : s.done with
  | false =>
      have lines := lastWord_lines s.transcript []
      rw [List.append_nil, ← h.undone done, last] at lines
      cases lines
  | true =>
      obtain ⟨v, calls, owed, rfl⟩ := h.done done
      rw [lastWord_lines, lastWord, List.find?_cons_of_pos (by rw [owed.last.1]; rfl)] at last
      cases last
      exact ⟨rfl, owed⟩

/-- **Collecting comes to what the last word makes of all lines.** -/
theorem collect?_eq (sound : s.Sound) (history : List Event) :
    s.collect? history =
      (lastWord (answers (s.run history).2)).bind
        (Answer.conclude? (s.run history).1.sent) := by
  induction history generalizing s with
  | nil => rfl
  | cons e es ih =>
      have m := s.step_move e
      have later := ih (sound.move m)
      rw [run_cons, answers_cons, collect?]
      dsimp only
      cases answered : (s.step e).2.answer with
      | none => exact later
      | some a =>
          cases a with
          | line text => exact later
          | failed f => rfl
          | finished =>
              obtain ⟨closed, empty, kept⟩ := drained_of_last_answer sound m answered rfl
              obtain ⟨closed', sent⟩ := sent_move_of_closed m closed
              have delivery := sound.delivery
              rw [empty, List.append_nil] at delivery
              have complete : ((s.step e).1.run es).1.sent = s.transcript := by
                rw [sent_run, closed', if_pos rfl, List.append_nil, sent, delivery]
              show some (Except.ok (s.step e).1.transcript) =
                some (Except.ok ((s.step e).1.run es).1.sent)
              rw [complete, kept]

/-- Whatever lines were answered before, collecting comes to what the last word of the whole
history makes of all lines that it sends. -/
theorem collect?_run (command : String) (options : Options) {before : List Event}
    (lines : lastWord (answers ((start command options).run before).2) = none)
    (after : List Event) :
    ((start command options).run before).1.collect? after =
      (lastWord (answers ((start command options).run (before ++ after)).2)).bind
        (Answer.conclude? (linesSent (before ++ after))) := by
  have sent := sent_run (start command options) (before ++ after)
  have whole := collect?_eq (sound_run command options before) after
  rw [run_append] at sent ⊢
  rw [whole, sent, answers_append, lastWord, lastWord, List.find?_append]
  rw [lastWord] at lines
  rw [lines]
  rfl

/-- With its last word a stream has answered all lines that were sent, and a failure carries
them as one text. -/
theorem complete_of_lastWord (command : String) (options : Options) {history : List Event}
    (last : lastWord (answers ((start command options).run history).2) = some a) :
    linesTaken ((start command options).run history).2 = linesSent history ∧
      ∀ f, a = .failed f → f.output? = some ("\n".intercalate (linesSent history)) := by
  obtain ⟨done, owed⟩ := (told_run command options history).done_of_lastWord last
  have sound := sound_run command options history
  have taken := transcript_run (start command options) history
  have sent := sent_run (start command options) history
  have complete : ((start command options).run history).1.transcript = linesSent history := by
    rw [← List.append_nil (State.transcript _), ← (sound.drained_of_done done).2.2,
      sound.delivery, sent]
    rfl
  refine ⟨taken.symm.trans complete, ?_⟩
  rintro f rfl
  rw [owed.last.2 f rfl, outputText, complete]

end

end State

end LineStream

open LineStream (Answer answers lastWord linesSent linesTaken)

namespace Session

/-- A session that is asked for some lines, and answers every time with one: the lines,
and the moment after that. -/
inductive Takes : Session → List String → Session → Prop
  | nothing (s : Session) : Takes s [] s
  | line {s s' s'' : Session} {text : String} {lines : List String}
      (asked : s.next none = (s', .answer (.line text))) (rest : Takes s' lines s'') :
      Takes s (text :: lines) s''

section

variable {s s' s'' : Session} {taken lines : List String} {a : Answer}

theorem Takes.single {text : String} (asked : (s.next none).2 = .answer (.line text)) :
    s.Takes [text] (s.next none).1 := by
  generalize given : s.next none = r at asked ⊢
  obtain ⟨s', reply⟩ := r
  subst asked
  exact .line given (.nothing s')

/-- Asking to the end goes on after some lines as it began. -/
theorem Takes.drains_iff (h : s.Takes taken s') :
    s.Drains s'' lines a ↔ ∃ more, lines = taken ++ more ∧ s'.Drains s'' more a := by
  induction h generalizing lines with
  | nothing s =>
      constructor
      · intro drained
        exact ⟨lines, rfl, drained⟩
      · rintro ⟨more, rfl, drained⟩
        exact drained
  | line asked _ ih =>
      constructor
      · intro drained
        cases drained with
        | last asked' noLine =>
            cases asked.symm.trans asked'
            cases noLine
        | line asked' rest =>
            cases asked.symm.trans asked'
            obtain ⟨more, rfl, drained⟩ := ih.mp rest
            exact ⟨more, rfl, drained⟩
      · rintro ⟨more, rfl, drained⟩
        exact .line asked (ih.mpr ⟨more, rfl, drained⟩)

theorem Takes.taking (h : s.Takes taken s') (taking : s.Taking) : s'.Taking := by
  induction h with
  | nothing => exact taking
  | line asked _ ih =>
      have next := taking.next.1
      rw [asked] at next
      exact ih next

/-- Before the end one may stop asking at any point. -/
theorem Drains.exists_takes (h : s.Drains s' lines a) {count : Nat}
    (few : count ≤ lines.length) : ∃ s'', s.Takes (lines.take count) s'' := by
  induction h generalizing count with
  | @last s =>
      obtain rfl : count = 0 := Nat.le_zero.mp few
      exact ⟨s, .nothing s⟩
  | @line s _ _ text lines _ asked _ ih =>
      cases count with
      | zero => exact ⟨s, .nothing s⟩
      | succ count =>
          obtain ⟨s'', takes⟩ := ih (Nat.le_of_succ_le_succ few)
          exact ⟨s'', .line asked takes⟩

/-- A drained session has come to a last answer. -/
theorem drain_eq_iff (taking : s.Taking) :
    s.drain = (s', lines, .answer a) ↔ s.Drains s' lines a :=
  ⟨fun drained => drains_iff.mpr ⟨_, drained⟩, fun drained => drained.drain_eq taking⟩

theorem drains_of_drain (taking : s.Taking) (drained : s.drain.2 = (lines, .answer a)) :
    s.Drains s.drain.1 lines a := by
  refine (drain_eq_iff taking).mp ?_
  generalize s.drain = r at drained ⊢
  obtain ⟨s', rest⟩ := r
  subst drained
  rfl

/-- What is collected is the transcript, if the last answer is that nothing is wrong. -/
theorem collect_eq_ok_iff (taking : s.Taking) :
    s.collect = (s', .ok lines) ↔
      ∃ more, s.Drains s' more .finished ∧ lines = s'.stream.transcript := by
  constructor
  · intro collected
    unfold collect at collected
    split at collected
    · next more drained =>
        cases collected
        exact ⟨more, (drain_eq_iff taking).mp drained, rfl⟩
    · cases collected
  · rintro ⟨more, drained, rfl⟩
    rw [collect, drained.drain_eq taking]

/-- Collecting fails as the last answer does. -/
theorem collect_eq_failed_iff (taking : s.Taking) {f : Failure} :
    s.collect = (s', .error (.answer (.failed f))) ↔ ∃ more, s.Drains s' more (.failed f) := by
  constructor
  · intro collected
    unfold collect at collected
    split at collected
    · cases collected
    · next more reply _ drained =>
        cases collected
        exact ⟨more, (drain_eq_iff taking).mp drained⟩
  · rintro ⟨more, drained⟩
    rw [collect, drained.drain_eq taking]

/-- Collecting after some lines comes to a list if asking to the end comes to it. -/
theorem Takes.collect_eq_ok_iff (h : s.Takes taken s') (taking : s.Taking) {command : String}
    {options : Options} (started : s.stream = .start command options) :
    s'.collect = (s'', .ok lines) ↔ s.Drains s'' lines .finished := by
  rw [Session.collect_eq_ok_iff (h.taking taking)]
  constructor
  · rintro ⟨more, drained, rfl⟩
    have whole := h.drains_iff.mpr ⟨more, rfl, drained⟩
    rw [(whole.isVerdict started).2.1]
    exact whole
  · intro whole
    obtain ⟨more, rfl, drained⟩ := h.drains_iff.mp whole
    exact ⟨more, drained, (whole.isVerdict started).2.1.symm⟩

/-- Collecting after some lines fails as asking to the end does. -/
theorem Takes.collect_eq_failed_iff (h : s.Takes taken s') (taking : s.Taking) {f : Failure} :
    s'.collect = (s'', .error (.answer (.failed f))) ↔ ∃ lines, s.Drains s'' lines (.failed f) := by
  rw [Session.collect_eq_failed_iff (h.taking taking)]
  constructor
  · rintro ⟨more, drained⟩
    exact ⟨taken ++ more, h.drains_iff.mpr ⟨more, rfl, drained⟩⟩
  · rintro ⟨lines, whole⟩
    obtain ⟨more, -, drained⟩ := h.drains_iff.mp whole
    exact ⟨more, drained⟩

end

section

variable (c : Command) (o : Options) (child : Timeline) (deadline : Option Nat)
  (log : List Event)

theorem taking_start : (start c o child deadline log).Taking :=
  ⟨LineStream.State.sound_start c.render o, rfl⟩

theorem ends_start {child : Timeline} (finite : child.finished? ≠ none) :
    (start c o child deadline log).Ends := by
  unfold Timeline.finished? at finite
  split at finite
  · next endless closed ended =>
      refine ⟨endless, ?_, ?_⟩
      · show child.closed ≠ none
        rw [closed]
        nofun
      · show child.ended ≠ none
        rw [ended]
        nofun
  · exact absurd rfl finite

end

/-- **Collecting agrees with asking by hand**, from any point on.

Take any history of a stream, cut in two. If calls in its first part answered nothing but
lines, collecting through its second part comes to what the answers of the whole history
come to: to the complete list of lines, if the first answer that is no line is that nothing
is wrong, and else to the same failure, which carries the complete list as one text.

Take any child, under any limit, in a session that has answered some lines. Collecting from
there ends, in the same state, with the complete list of lines, those included, if asking
from the start would have ended with nothing wrong after these lines, and with a failure if
asking from the start would have ended with it. Some lines can be any number up to all of
them, and if the child closes its output and ends, asking from the start does end. -/
theorem collecting_agrees_with_asking (c : Command) (o : Options) :
    (∀ before after : List LineStream.Event,
      let stream := LineStream.State.start c.render o
      let outs := (stream.run (before ++ after)).2
      let sent := linesSent (before ++ after)
      lastWord (answers (stream.run before).2) = none →
        (∀ lines, (stream.run before).1.collect? after = some (.ok lines) ↔
          lastWord (answers outs) = some .finished ∧ lines = sent) ∧
        (∀ f, (stream.run before).1.collect? after = some (.error f) ↔
          lastWord (answers outs) = some (.failed f)) ∧
        ∀ a, lastWord (answers outs) = some a → linesTaken outs = sent ∧
          ∀ f, a = .failed f → f.output? = some ("\n".intercalate sent)) ∧
    ∀ (child : Timeline) (deadline : Option Nat) (log : List Event),
      let s := start c o child deadline log
      (∀ taken s₁, s.Takes taken s₁ →
        (∀ s' lines, s₁.collect = (s', .ok lines) ↔ s.Drains s' lines .finished) ∧
        ∀ s' f, s₁.collect = (s', .error (.answer (.failed f))) ↔
          ∃ lines, s.Drains s' lines (.failed f)) ∧
      (∀ s' lines a, s.Drains s' lines a →
        (∀ count ≤ lines.length, ∃ s₁, s.Takes (lines.take count) s₁) ∧
        ∀ f, a = .failed f → f.output? = some ("\n".intercalate lines)) ∧
      (child.finished? ≠ none → ∃ s' lines a, s.Drains s' lines a) := by
  refine ⟨?_, ?_⟩
  · intro before after stream outs sent lines
    have collected := LineStream.State.collect?_run c.render o lines after
    refine ⟨?_, ?_, ?_⟩
    · intro lines'
      rw [collected, Answer.conclude?_eq_ok_iff]
    · intro f
      rw [collected, Answer.conclude?_eq_error_iff]
    · intro a last
      exact LineStream.State.complete_of_lastWord c.render o last
  · intro child deadline log s
    have taking : s.Taking := taking_start c o child deadline log
    refine ⟨?_, ?_, ?_⟩
    · intro taken s₁ takes
      exact ⟨fun _ _ => takes.collect_eq_ok_iff taking rfl,
        fun _ _ => takes.collect_eq_failed_iff taking⟩
    · intro s' lines a drained
      refine ⟨fun count few => drained.exists_takes few, ?_⟩
      obtain ⟨owed, transcript, -⟩ := drained.isVerdict rfl
      intro f failed
      rw [owed.last.2 f failed, LineStream.State.outputText, transcript]
    · intro finite
      exact (ends_start c o deadline log finite).exists_drains taking

/-- One line is taken, and the rest is collected. The child is killed for its limit, in a
history and in a session, and ends with a code that nobody asked for. -/
theorem collecting_agrees_with_asking_after_one_line :
    let c : Command := ⟨"sh", []⟩
    let o := { Options.default with timeout := .ofMilliseconds 500, killCode := -15 }
    let f := Failure.unexpectedExit defaultErrorMessage "sh" (-9) "a\nb"
    let before : List LineStream.Event := [.arrive "a", .call, .poll false]
    let after : List LineStream.Event :=
      [.call, .poll false, .expire, .arrive "b", .poll true, .poll false, .call, .close,
        .poll false, .exit (.ok (.signalled 9)), .poll false]
    let stream := LineStream.State.start c.render o
    let child : Timeline :=
      { writes := [(0, Utf8.encode "a\nb\n")], endless := none, closed := some 9000000000
        ended := some (9000000000, .exited 0) }
    let s := start c o child (some 500000000) []
    let s₁ := (s.next none).1
    (lastWord (answers (stream.run before).2) = none ∧
        (stream.run before).1.collect? after = some (.error f) ∧
        f.output? = some ("\n".intercalate (linesSent (before ++ after)))) ∧
      s.Takes ["a"] s₁ ∧ child.finished? ≠ none ∧
      ∃ s', s.Drains s' ["a", "b"] (.failed f) ∧
        s₁.collect = (s', .error (.answer (.failed f))) ∧
        f.output? = some ("\n".intercalate ["a", "b"]) := by
  intro c o f before after stream child s s₁
  obtain ⟨histories, sessions⟩ := collecting_agrees_with_asking c o
  have lines : lastWord (answers (stream.run before).2) = none := by rfl
  have last : lastWord (answers (stream.run (before ++ after)).2) = some (.failed f) := by
    decide +kernel
  obtain ⟨-, failed, complete⟩ := histories before after lines
  have asked : (s.next none).2 = .answer (.line "a") := by decide +kernel
  have takes : s.Takes ["a"] s₁ := .single asked
  have answered : s.drain.2 = (["a", "b"], .answer (.failed f)) := by decide +kernel
  have drained := drains_of_drain (taking_start c o child _ _) answered
  obtain ⟨collects, output, -⟩ := sessions child (some 500000000) []
  have collected := ((collects ["a"] s₁ takes).2 _ f).mpr ⟨_, drained⟩
  exact ⟨⟨lines, (failed f).mpr last, (complete _ last).2 f rfl⟩, takes, nofun, _, drained,
    collected, (output _ _ _ drained).2 f rfl⟩

end Session

end ExitContract
