import ExitContract.Proofs.Program.Handover
import Mathlib

/-!
# Outputs with one duration in them

Two runs of the same command take different times. One document tells of the time, in its last
field, and that is the only place where the outputs of the two may differ.

**On the way to a reader.** A reader may stop taking lines, and what is taken of two outputs is
again the same but for the duration: a number has no line feed in it, so the same lines are
taken of both, and the end of the last of them is either before the number or after it
(`SameButDuration.taken`).

## Main definitions

* `SameButDuration` — two outputs that differ in a duration at most

## Main statements

* `Completion.printed_document` — where a document tells of the time
* `SameButDuration.taken` — what a reader takes of two such outputs
-/

namespace ExitContract

/-- Two outputs are the same, but that a field may show one duration here and the other
there. -/
def SameButDuration (n₁ n₂ : Nat) (output₁ output₂ : String) : Prop :=
  output₁ = output₂ ∨ ∃ before after,
    output₁ = before ++ "\n  \"duration_ms\": " ++ toString n₁ ++ after ∧
    output₂ = before ++ "\n  \"duration_ms\": " ++ toString n₂ ++ after

/-! ### Documents -/

/-- Fields are written one after the other. -/
@[simp] theorem Json.prettyFields_append (level : Nat) (fs gs : List (String × Json)) :
    prettyFields level (fs ++ gs) = prettyFields level fs ++ prettyFields level gs := by
  induction fs with
  | nil => rfl
  | cons f fs ih =>
      obtain ⟨name, j⟩ := f
      rw [List.cons_append, prettyFields, ih, prettyFields]
      simp only [List.cons_append, List.append_assoc]

/-- The last field of an object of several stands on a line of its own. -/
theorem Json.printed_last_field (name last : String) (j : Json) (fs : List (String × Json))
    (n : Nat) :
    (Json.object ((name, j) :: (fs ++ [(last, .natural n)]))).printed =
      String.ofList ('{' :: (newline 1 ++ quoted name ++ ':' :: ' ' :: prettyChars 1 j ++
          prettyFields 1 fs) ++ [',']) ++
        String.ofList (newline 1 ++ quoted last ++ [':', ' ']) ++ toString n ++ "\n\x7d\n" := by
  have number : prettyChars 1 (.natural n) = (toString n).toList := rfl
  rw [printed, pretty, prettyChars, prettyFields_append, prettyFields, prettyFields, number,
    ← String.toList_inj]
  simp [newline]

/-- A document shows how long a run took in its last line and nowhere else. -/
theorem Completion.printed_document (r : Completion) :
    ∃ before, ∀ n, (r.document n).printed =
      before ++ "\n  \"duration_ms\": " ++ toString n ++ "\n\x7d\n" :=
  ⟨_, Json.printed_last_field "command" "duration_ms" (.text r.command)
    [("output", .text r.output), ("exit_code", .ofCode r.exitCode)]⟩

/-! ### Readers -/

namespace Lines

/-- A reader who takes no more lines than there are in a text takes nothing of what follows
it. -/
theorem splitAfter_append_of_le {n : Nat} {cs : List Char} (few : n ≤ cs.count '\n')
    (rest : List Char) :
    splitAfter n (cs ++ rest) = ((splitAfter n cs).1, (splitAfter n cs).2 ++ rest) := by
  induction cs generalizing n with
  | nil =>
      obtain rfl : n = 0 := Nat.le_zero.mp few
      simp
  | cons c cs ih =>
      cases n with
      | zero => simp
      | succ n =>
          have fewer : (if c = '\n' then n else n + 1) ≤ cs.count '\n' := by
            rw [List.count_cons] at few
            by_cases ends : c = '\n' <;> simp_all
          rw [List.cons_append, splitAfter, splitAfter, ih fewer]

/-- One who takes more takes all of it, and so many lines less of what follows. -/
theorem splitAfter_append_of_lt {n : Nat} {cs : List Char} (many : cs.count '\n' < n)
    (rest : List Char) :
    splitAfter n (cs ++ rest) = (cs ++ (splitAfter (n - cs.count '\n') rest).1,
      (splitAfter (n - cs.count '\n') rest).2) := by
  induction cs generalizing n with
  | nil => simp
  | cons c cs ih =>
      cases n with
      | zero => exact absurd many (Nat.not_lt_zero _)
      | succ n =>
          have more : cs.count '\n' < (if c = '\n' then n else n + 1) ∧
              (if c = '\n' then n else n + 1) - cs.count '\n' =
                n + 1 - (c :: cs).count '\n' := by
            rw [List.count_cons] at many ⊢
            by_cases ends : c = '\n' <;> simp_all
          rw [List.cons_append, splitAfter, ih more.1, more.2, List.cons_append]

end Lines

namespace Taken

variable {lines : Nat} {start : String}

theorem within_append_of_le (few : lines ≤ start.toList.count '\n') (rest : String) :
    within (some lines) (start ++ rest) =
      ⟨(within (some lines) start).text, (within (some lines) start).left ++ rest⟩ := by
  simp [within, Lines.splitAfter_append_of_le few, String.ofList_append]

theorem within_append_of_lt (many : start.toList.count '\n' < lines) (rest : String) :
    within (some lines) (start ++ rest) =
      ⟨start ++ (within (some (lines - start.toList.count '\n')) rest).text,
        (within (some (lines - start.toList.count '\n')) rest).left⟩ := by
  simp [within, Lines.splitAfter_append_of_lt many, String.ofList_append]

end Taken

theorem toList_toString (n : Nat) : (toString n).toList = Nat.toDigits 10 n := by
  simp [Nat.repr]

/-- A number is written without a line feed. -/
theorem count_newline_toString (n : Nat) : (toString n).toList.count '\n' = 0 := by
  refine List.count_eq_zero.mpr fun mem => ?_
  rw [toList_toString] at mem
  have digit := Nat.isDigit_of_mem_toDigits (by decide) (by decide) mem
  cases digit

/-- **What a reader takes** of two outputs that are the same but for a duration is the same
but for it as well, and it is all of the one if it is all of the other. -/
theorem SameButDuration.taken {n₁ n₂ : Nat} {output₁ output₂ : String}
    (same : SameButDuration n₁ n₂ output₁ output₂) (room : Option Nat) :
    SameButDuration n₁ n₂ (Taken.within room output₁).text (Taken.within room output₂).text ∧
      (Taken.within room output₁).whole = (Taken.within room output₂).whole := by
  rcases same with rfl | ⟨before, after, rfl, rfl⟩
  · exact ⟨.inl rfl, rfl⟩
  cases room with
  | none => exact ⟨.inr ⟨before, after, rfl, rfl⟩, rfl⟩
  | some lines =>
      generalize label : before ++ "\n  \"duration_ms\": " = start
      rcases Nat.lt_or_ge (start.toList.count '\n') lines with many | few
      · -- all of the number is taken, and the same lines after it
        have rest (n : Nat) : Taken.within (some lines) (start ++ toString n ++ after) =
            ⟨start ++ toString n ++
              (Taken.within (some (lines - start.toList.count '\n')) after).text,
              (Taken.within (some (lines - start.toList.count '\n')) after).left⟩ := by
          have none := count_newline_toString n
          rw [String.append_assoc, Taken.within_append_of_lt many,
            Taken.within_append_of_lt (by rw [none]; exact Nat.sub_pos_of_lt many), none,
            Nat.sub_zero, String.append_assoc]
        rw [rest, rest, ← label]
        exact ⟨.inr ⟨before, _, rfl, rfl⟩, rfl⟩
      · -- the last line that is taken ends before the number
        have left (n : Nat) : (Taken.within (some lines) (start ++ toString n ++ after)).whole =
            false := by
          rw [String.append_assoc, Taken.within_append_of_le few, Taken.whole,
            Bool.eq_false_iff, Ne, String.isEmpty_iff, ← String.toList_inj]
          simp [Nat.repr, Nat.toDigits_ne_nil]
        rw [left, left, String.append_assoc, String.append_assoc, Taken.within_append_of_le few,
          Taken.within_append_of_le few]
        exact ⟨.inl rfl, rfl⟩

end ExitContract
