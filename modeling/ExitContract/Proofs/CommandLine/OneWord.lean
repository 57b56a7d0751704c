import ExitContract.Proofs.CommandLine.OptionWord

/-!
# What one word of a command line may be

To the reader of a scope a word is the value that an option waits for, or the mark
before a command, or an option, or none of these.

**Looks.** Which of these it is depends on its looks and on the options that there are.
Of all that was read before, nothing counts but whether an option waits for its value,
and then whether that one takes any word. So there is one account of what a reader makes
of a word (`Outcome`), and what follows need not be told from the code again.

**Options first deal with what is pending.** A value that stands in a word of its own is
looked at only when the next option comes. So a reader that holds a value it cannot use
goes on to no other reader: it can pass over nothing at all (`settle_of_step`).

## Main definitions

* `Outcome` — what a word may be to a reader

## Main statements

* `step_outcome` — every word is one of these
* `step_of_isOption`, `step_of_isValue` — the words with which the reader goes on
* `step_eq_operand_iff` — which words are neither option nor value
-/

namespace ExitContract

namespace CommandLine

open ArgumentFile (separator)

/-- What words look like. -/
inductive Looks : Bytes → Prop
  | empty : Looks []
  | hyphen : Looks [hyphen]
  | unmarked {b : UInt8} {bs : Bytes} : b ≠ CommandLine.hyphen → Looks (b :: bs)
  | mark : Looks separator
  | long {b : UInt8} {bs : Bytes} :
      Looks (CommandLine.hyphen :: CommandLine.hyphen :: b :: bs)
  | short {b : UInt8} {bs : Bytes} : b ≠ CommandLine.hyphen →
      Looks (CommandLine.hyphen :: b :: bs)

/-- What a word may be to a reader. -/
inductive Outcome (scope : Scope) (r : Reader) (word : Bytes) : Step → Prop
  | value {item : Item} : r.pending = .awaiting item → scope.IsValue item word →
      Outcome scope r word (.next { r with pending := .held item word })
  | operand : mayName r = true → scope.IsPlain word → Outcome scope r word .operand
  | mark : word = separator → Outcome scope r word .separator
  | option {waiting : Option Item} {r' : Reader} : scope.IsOption word waiting →
      Goes r waiting r' → Outcome scope r word (.next r')
  | refused (reason : Stop) : Outcome scope r word (.stop reason)

variable {scope : Scope} {r r' : Reader} {word : Bytes} {item : Item}
  {waiting : Option Item} {s : Settings}

theorem looks (word : Bytes) : Looks word := by
  rcases word with - | ⟨a, bs⟩
  · exact .empty
  by_cases first : a = hyphen
  · subst first
    rcases bs with - | ⟨b, bs⟩
    · exact .hyphen
    by_cases second : b = hyphen
    · subst second
      cases bs with
      | nil => exact .mark
      | cons => exact .long
    · exact .short second
  · exact .unmarked first

/-! ### Waiting for a value -/

theorem mayName_of_awaiting (waits : r.pending = .awaiting item) : mayName r = false := by
  rw [mayName, waits]

theorem mayName_of_idle (idle : r.pending = .nothing) : mayName r = true := by
  rw [mayName, idle]

/-- Nothing can be dealt with while an option waits for its value. -/
theorem settle_ne_ok (waits : r.pending = .awaiting item) : r.settle ≠ .ok s := by
  rw [Reader.settle, waits]
  nofun

/-- Where no option waits for a value every word is read by its looks. -/
theorem step_of_mayName (free : mayName r = true) (word : Bytes) :
    step scope r word = stepByLooks scope r word := by
  unfold step
  split
  · next waits => simp [mayName_of_awaiting waits] at free
  · rfl

theorem stepPlain_of_mayName (free : mayName r = true) (word : Bytes) :
    stepPlain r word = .operand := by
  unfold stepPlain
  split
  · next waits => simp [mayName_of_awaiting waits] at free
  · rfl

/-! ### One word -/

theorem stepPlain_outcome (plain : scope.IsPlain word) :
    Outcome scope r word (stepPlain r word) := by
  cases free : mayName r with
  | true =>
      rw [stepPlain_of_mayName free]
      exact .operand free plain
  | false =>
      unfold stepPlain
      split
      · next waits => exact .value waits (.inr plain)
      · next => simp [mayName] at free

theorem Found.outcome {s : Step} (found : Found scope r word s) :
    Outcome scope r word (s.orPlain r word) := by
  cases found with
  | plain plain => exact stepPlain_outcome plain
  | option option goes => exact .option option goes
  | refused reason => exact .refused reason

theorem stepByLooks_outcome (scope : Scope) (r : Reader) (word : Bytes) :
    Outcome scope r word (stepByLooks scope r word) := by
  cases looks word with
  | empty => exact stepPlain_outcome .empty
  | hyphen => exact stepPlain_outcome .hyphen
  | unmarked first =>
      rw [stepByLooks_unmarked first]
      exact stepPlain_outcome (.unmarked first)
  | mark => exact .mark rfl
  | long => exact (stepLong_found scope r _ _).outcome
  | short second =>
      rw [stepByLooks_short second]
      exact (stepShort_found scope r second _).outcome

/-- **What one word may be to a reader**, with nothing left out. -/
theorem step_outcome (scope : Scope) (r : Reader) (word : Bytes) :
    Outcome scope r word (step scope r word) := by
  unfold step
  split
  · next waits =>
      split
      · next any => exact .value waits (.inl any)
      · exact stepByLooks_outcome scope r word
  · exact stepByLooks_outcome scope r word

/-- **With an option the reader goes on**, or it refuses it. -/
theorem step_of_isOption (option : scope.IsOption word waiting) (free : mayName r = true) :
    (∃ reason, step scope r word = .stop reason) ∨
      ∃ r', step scope r word = .next r' ∧ Goes r waiting r' := by
  obtain ⟨x, looked, goes⟩ := stepByLooks_of_isOption option r
  rw [step_of_mayName free, looked]
  cases x with
  | error reason => exact .inl ⟨reason, rfl⟩
  | ok r' => exact .inr ⟨r', rfl, goes r' rfl⟩

/-- **A value is held** by the option that waits for it. -/
theorem step_of_isValue (waits : r.pending = .awaiting item)
    (value : scope.IsValue item word) :
    step scope r word = .next { r with pending := .held item word } := by
  simp only [step, waits]
  split
  · rfl
  · next other =>
      have plain := value.resolve_left other
      simp only [stepByLooks_of_isPlain plain, stepPlain, waits]

/-- A plain word for which no option waits is an operand. -/
theorem step_of_isPlain (free : mayName r = true) (plain : scope.IsPlain word) :
    step scope r word = .operand := by
  rw [step_of_mayName free, stepByLooks_of_isPlain plain, stepPlain_of_mayName free]

/-- **A word is neither option nor value** if no option waits for one and it is plain. -/
theorem step_eq_operand_iff :
    step scope r word = .operand ↔ mayName r = true ∧ scope.IsPlain word := by
  refine ⟨fun operand => ?_, fun ⟨free, plain⟩ => step_of_isPlain free plain⟩
  have outcome := step_outcome scope r word
  rw [operand] at outcome
  cases outcome with
  | operand free plain => exact ⟨free, plain⟩

/-- The mark is the only word that is read as it. -/
theorem eq_separator_of_step (mark : step scope r word = .separator) :
    word = separator := by
  have outcome := step_outcome scope r word
  rw [mark] at outcome
  cases outcome with
  | mark same => exact same

/-- No word is read before what is pending was dealt with. -/
theorem settle_of_step (free : mayName r = true) (went : step scope r word = .next r') :
    ∃ s, r.settle = .ok s := by
  have outcome := step_outcome scope r word
  rw [went] at outcome
  cases outcome with
  | value waits => simp [mayName_of_awaiting waits] at free
  | option _ goes => exact goes.settled

end CommandLine

end ExitContract
