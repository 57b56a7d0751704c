import ExitContract.ExitStatus

/-!
# What an exit code tells

How much of the way a child ended can be read off the one number that is reported for it.

**Fields that overlap.** A wait status is one word, in which the code of an exit and the
number of a signal have fields of their own. Which of the two counts is a matter of the low
seven bits, so the word is read twice: as an exit, and if it is none, as a death by a signal.
Neither reader looks at the bit between the two fields, which tells whether the child left
an image of its memory, nor at the upper half of the word.

**What is left over.** A word that neither reader accepts is that of a child that has not
ended, and it is reported as `-1`. So is a death by signal 1. Apart from these no two
endings are reported alike.

## Main definitions

* `WaitStatus.code?`, `WaitStatus.signal?` — the two readers
* `WaitStatus.HasEnded` — one of them accepts the word

## Main statements

* `WaitStatus.exitCode_eq` — the first reader that accepts a word decides
* `WaitStatus.exitCode_bounds` — where the reported numbers lie
* `WaitStatus.exitCode_separates` — which words are reported alike
-/

namespace ExitContract

namespace WaitStatus

/-! ### Two readers -/

/-- The code of an exit: the second octet, if the low seven bits are zero. -/
def code? (s : WaitStatus) : Option Nat :=
  if s.word &&& 0x7F = 0 then some ((s.word >>> 8) &&& 0xFF).toNat else none

/-- The number of the signal that ended the child: the low seven bits, unless they are all
zeros or all ones. -/
def signal? (s : WaitStatus) : Option Nat :=
  if s.word &&& 0x7F = 0 ∨ s.word &&& 0x7F = 0x7F then none
  else some (s.word &&& 0x7F).toNat

/-- The word is that of an exit or of a death by a signal. -/
def HasEnded (s : WaitStatus) : Prop := s.code?.isSome ∨ s.signal?.isSome

instance (s : WaitStatus) : Decidable s.HasEnded :=
  inferInstanceAs (Decidable (_ ∨ _))

variable {s t : WaitStatus}

/-- The low seven bits as a remainder. -/
theorem toNat_low (w : UInt32) : (w &&& 0x7F).toNat = w.toNat % 128 := by
  rw [UInt32.toNat_and]
  exact Nat.and_two_pow_sub_one_eq_mod w.toNat 7

/-- The second octet as a quotient and a remainder. -/
theorem toNat_octet (w : UInt32) : ((w >>> 8) &&& 0xFF).toNat = w.toNat / 256 % 256 := by
  rw [UInt32.toNat_and, UInt32.toNat_shiftRight, Nat.shiftRight_eq_div_pow]
  exact Nat.and_two_pow_sub_one_eq_mod _ 8

/-- **The first reader that accepts a word decides**, and `-1` is left for the others. -/
theorem exitCode_eq (s : WaitStatus) :
    s.exitCode =
      match s.code?, s.signal? with
      | some code, _ => Int32.ofNat code
      | none, some signal => -Int32.ofNat signal
      | none, none => -1 := by
  have zero : s.word &&& 0x7F = 0 ↔ s.word.toNat % 128 = 0 := by
    rw [← UInt32.toNat_inj, toNat_low]
    rfl
  have ones : s.word &&& 0x7F = 0x7F ↔ s.word.toNat % 128 = 127 := by
    rw [← UInt32.toNat_inj, toNat_low]
    rfl
  simp only [exitCode, ending, code?, signal?, zero, ones, toNat_low, toNat_octet]
  by_cases exits : s.word.toNat % 128 = 0
  · simp [exits]
  · by_cases stays : s.word.toNat % 128 = 127 <;> simp [exits, stays]

/-! ### The numbers -/

/-- A code fits into an octet. -/
theorem code?_lt {code : Nat} (read : s.code? = some code) : code < 256 := by
  rw [code?] at read
  split at read
  · cases read
    rw [toNat_octet]
    exact Nat.mod_lt _ (by decide)
  · cases read

/-- Signals are numbered from 1 to 126. -/
theorem signal?_bounds {signal : Nat} (read : s.signal? = some signal) :
    1 ≤ signal ∧ signal ≤ 126 := by
  rw [signal?] at read
  split at read
  · cases read
  · next other =>
      cases read
      rw [← UInt32.toNat_inj, ← UInt32.toNat_inj, toNat_low] at other
      rw [toNat_low]
      have zero : (0 : UInt32).toNat = 0 := rfl
      have ones : (0x7F : UInt32).toNat = 127 := rfl
      omega

/-- No word is that of an exit and of a death. -/
theorem code?_eq_none {signal : Nat} (read : s.signal? = some signal) : s.code? = none := by
  rw [signal?] at read
  split at read
  · cases read
  · next other => rw [code?, if_neg fun zero => other (.inl zero)]

theorem exitCode_of_code {code : Nat} (read : s.code? = some code) :
    s.exitCode.toInt = code := by
  have small := code?_lt read
  rw [exitCode_eq, read]
  exact Int32.toInt_ofNat_of_lt (by omega)

theorem exitCode_of_signal {signal : Nat} (read : s.signal? = some signal) :
    s.exitCode.toInt = -signal := by
  have bounds := signal?_bounds read
  rw [exitCode_eq, code?_eq_none read, read]
  show (-Int32.ofNat signal).toInt = _
  rw [Int32.toInt_neg, Int32.toInt_ofNat_of_lt (by omega),
    Int.bmod_eq_of_le (by omega) (by omega)]

/-- A child that has ended has a code or a signal. -/
theorem hasEnded_iff :
    s.HasEnded ↔ (∃ code, s.code? = some code) ∨ ∃ signal, s.signal? = some signal :=
  or_congr Option.isSome_iff_exists Option.isSome_iff_exists

theorem exitCode_of_unended (unended : ¬ s.HasEnded) : s.exitCode = -1 := by
  obtain ⟨noCode, noSignal⟩ := not_or.mp unended
  rw [exitCode_eq, Option.not_isSome_iff_eq_none.mp noCode,
    Option.not_isSome_iff_eq_none.mp noSignal]

/-- The numbers that are reported for children. -/
theorem exitCode_bounds (s : WaitStatus) :
    -126 ≤ s.exitCode.toInt ∧ s.exitCode.toInt ≤ 255 := by
  by_cases ended : s.HasEnded
  · obtain ⟨code, exit⟩ | ⟨signal, death⟩ := hasEnded_iff.mp ended
    · have small := code?_lt exit
      have told := exitCode_of_code exit
      omega
    · have bounds := signal?_bounds death
      have told := exitCode_of_signal death
      omega
  · rw [exitCode_of_unended ended]
    decide

/-- The bit between the two fields and the upper half of a word are not looked at. -/
theorem exitCode_congr (same : s.word &&& 0xFF7F = t.word &&& 0xFF7F) :
    s.exitCode = t.exitCode := by
  have low (w : UInt32) : w &&& 0x7F = (w &&& 0xFF7F) &&& 0x7F := by
    rw [UInt32.and_assoc]
    rfl
  have octet (w : UInt32) :
      w >>> 8 &&& (0xFF : UInt32) = (w &&& 0xFF7F) >>> 8 &&& (0xFF : UInt32) := by
    rw [UInt32.shiftRight_and, UInt32.and_assoc]
    rfl
  have code : s.code? = t.code? := by
    rw [code?, code?, low s.word, low t.word, octet s.word, octet t.word, same]
  have signal : s.signal? = t.signal? := by
    rw [signal?, signal?, low s.word, low t.word, same]
  rw [exitCode_eq, exitCode_eq, code, signal]

/-- Exits get the codes from 0 on. -/
theorem exitCode_nonneg_iff : 0 ≤ s.exitCode.toInt ↔ s.code?.isSome := by
  by_cases ended : s.HasEnded
  · obtain ⟨code, exit⟩ | ⟨signal, death⟩ := hasEnded_iff.mp ended
    · simp [exit, exitCode_of_code exit]
    · have bounds := signal?_bounds death
      simp [code?_eq_none death, exitCode_of_signal death]
      omega
  · rw [exitCode_of_unended ended]
    exact ⟨fun least => absurd least (by decide), fun exit => absurd (.inl exit) ended⟩

/-- Only deaths get codes below -1. -/
theorem signal?_isSome_of_lt (below : s.exitCode.toInt < -1) : s.signal?.isSome := by
  by_cases ended : s.HasEnded
  · obtain ⟨code, exit⟩ | ⟨signal, death⟩ := hasEnded_iff.mp ended
    · rw [exitCode_of_code exit] at below
      omega
    · rw [death]
      rfl
  · rw [exitCode_of_unended ended] at below
    exact absurd below (by decide)

/-- Children that have ended are told apart by what their codes or signals are. -/
theorem exitCode_eq_iff (ended : s.HasEnded) (ended' : t.HasEnded) :
    s.exitCode = t.exitCode ↔
      (∃ code, s.code? = some code ∧ t.code? = some code) ∨
        ∃ signal, s.signal? = some signal ∧ t.signal? = some signal := by
  rw [← Int32.toInt_inj]
  constructor
  · intro same
    obtain ⟨code, exit⟩ | ⟨signal, death⟩ := hasEnded_iff.mp ended
    · obtain ⟨code', exit'⟩ | ⟨signal', death'⟩ := hasEnded_iff.mp ended'
      · rw [exitCode_of_code exit, exitCode_of_code exit', Int.natCast_inj] at same
        exact .inl ⟨code, exit, same ▸ exit'⟩
      · have bounds := signal?_bounds death'
        rw [exitCode_of_code exit, exitCode_of_signal death'] at same
        omega
    · obtain ⟨code', exit'⟩ | ⟨signal', death'⟩ := hasEnded_iff.mp ended'
      · have bounds := signal?_bounds death
        rw [exitCode_of_signal death, exitCode_of_code exit'] at same
        omega
      · rw [exitCode_of_signal death, exitCode_of_signal death', Int.neg_inj,
          Int.natCast_inj] at same
        exact .inr ⟨signal, death, same ▸ death'⟩
  · rintro (⟨code, exit, exit'⟩ | ⟨signal, death, death'⟩)
    · rw [exitCode_of_code exit, exitCode_of_code exit']
    · rw [exitCode_of_signal death, exitCode_of_signal death']

/-- Of the children that have ended only those that signal 1 ended get -1. -/
theorem exitCode_eq_neg_one_iff (ended : s.HasEnded) :
    s.exitCode = -1 ↔ s.signal? = some 1 := by
  rw [← Int32.toInt_inj]
  show s.exitCode.toInt = -1 ↔ _
  obtain ⟨code, exit⟩ | ⟨signal, death⟩ := hasEnded_iff.mp ended
  · have nonneg := exitCode_of_code exit
    refine ⟨fun low => ?_, fun death => ?_⟩
    · omega
    · rw [code?_eq_none death] at exit
      cases exit
  · rw [exitCode_of_signal death, death, Option.some_inj]
    omega

/-- **An exit code tells how a child ended.** Of all words that a system can report, those
of exits get the codes from 0 on, and only deaths get codes below -1. Two children that
have ended get the same code if and only if both exited with the same code, or the same
signal ended both; the bit for the image of the memory and the upper half of the word do not
matter. A child that has not ended gets -1, and of those that have, it shares this code
with the ones that signal 1 ended and with no others. -/
theorem exitCode_separates (s : WaitStatus) :
    (-126 ≤ s.exitCode.toInt ∧ s.exitCode.toInt ≤ 255) ∧
      (0 ≤ s.exitCode.toInt ↔ s.code?.isSome) ∧
      (s.exitCode.toInt < -1 → s.signal?.isSome) ∧
      (∀ t : WaitStatus, s.HasEnded → t.HasEnded →
        (s.exitCode = t.exitCode ↔
          (∃ code, s.code? = some code ∧ t.code? = some code) ∨
            ∃ signal, s.signal? = some signal ∧ t.signal? = some signal)) ∧
      (∀ t : WaitStatus, s.word &&& 0xFF7F = t.word &&& 0xFF7F → s.exitCode = t.exitCode) ∧
      (¬ s.HasEnded → s.exitCode = -1 ∧
        ∀ t : WaitStatus, t.HasEnded → (t.exitCode = s.exitCode ↔ t.signal? = some 1)) := by
  refine ⟨s.exitCode_bounds, exitCode_nonneg_iff, signal?_isSome_of_lt,
    fun t => exitCode_eq_iff, fun t => exitCode_congr, fun unended => ?_⟩
  have rest := exitCode_of_unended unended
  refine ⟨rest, fun t ended => ?_⟩
  rw [rest]
  exact exitCode_eq_neg_one_iff ended

/-- Two children die of signal 11, and only one of them leaves an image of its memory. One
exits with code 11. One is stopped by signal 11, and another one died of signal 1. -/
theorem exitCode_separates_of_signal :
    let died : WaitStatus := ⟨0x0B⟩
    let dumped : WaitStatus := ⟨0x8B⟩
    let exited : WaitStatus := ⟨0x0B00⟩
    let stopped : WaitStatus := ⟨0x0B7F⟩
    let hungUp : WaitStatus := ⟨1⟩
    died.HasEnded ∧ dumped.HasEnded ∧ exited.HasEnded ∧ hungUp.HasEnded ∧ ¬ stopped.HasEnded ∧
      died.exitCode = dumped.exitCode ∧ died.exitCode ≠ exited.exitCode ∧
      stopped.exitCode = -1 ∧ hungUp.exitCode = stopped.exitCode := by
  intro died dumped exited stopped hungUp
  have ended : died.HasEnded ∧ dumped.HasEnded ∧ exited.HasEnded ∧ hungUp.HasEnded := by
    decide
  have unended : ¬ stopped.HasEnded := by decide
  obtain ⟨-, -, -, alike, fields, -⟩ := exitCode_separates died
  obtain ⟨-, -, -, -, -, leftOver⟩ := exitCode_separates stopped
  obtain ⟨rest, shared⟩ := leftOver unended
  refine ⟨ended.1, ended.2.1, ended.2.2.1, ended.2.2.2, unended, fields dumped (by decide), ?_,
    rest, (shared hungUp ended.2.2.2).mpr (by decide)⟩
  intro same
  obtain ⟨code, exit, -⟩ | ⟨signal, -, death⟩ := (alike exited ended.1 ended.2.2.1).mp same
  · exact absurd ((by decide : died.code? = none).symm.trans exit) nofun
  · exact absurd ((by decide : exited.signal? = none).symm.trans death) nofun

end WaitStatus

end ExitContract
