import ExitContract.Log.Record
import ExitContract.Text.Numeral

/-!
# Written numbers are read back

A number of a range is written without leading zeros or a plus sign, with a hyphen in
front if it is negative, and is read as itself.

The reader gives up as soon as the digits so far leave the range. Digits only make a
number larger, so where the whole number lies in the range no part of its digits leaves
it (`le_ofDigitChars`).

## Main statements

* `readNatural_toString`, `readInteger_toString` — numbers are read as they are written
* `le_of_readInteger` — a number that is read lies in its range
-/

namespace ExitContract

namespace Numeral

variable {bound : Nat} (beyond : NumeralError)

/-- Further digits do not make a number smaller. -/
theorem le_ofDigitChars (n : Nat) (cs : List Char) : n ≤ Nat.ofDigitChars 10 cs n := by
  rw [Nat.ofDigitChars_eq_ofDigitChars_zero]
  have scaled : 1 * n ≤ 10 ^ cs.length * n := 
    Nat.mul_le_mul_right n (Nat.pow_pos (by decide))
  omega

theorem readDigits_eq_ok {n : Nat} {cs : List Char} (digits : ∀ c ∈ cs, c.isDigit = true)
    (small : Nat.ofDigitChars 10 cs n ≤ bound) :
    readDigits bound beyond n cs = .ok (Nat.ofDigitChars 10 cs n) := by
  induction cs generalizing n with
  | nil =>
      rw [readDigits, Nat.ofDigitChars_nil]
  | cons c cs ih =>
      rw [Nat.ofDigitChars_cons, Nat.mul_comm] at small ⊢
      have within := le_ofDigitChars (n * 10 + (c.toNat - '0'.toNat)) cs
      have inside : ¬ bound < n * 10 + (c.toNat - 48) := 
        Nat.not_lt.mpr (Nat.le_trans within small)
      rw [readDigits, if_pos (digits c (by simp))]
      simp only [if_neg inside]
      exact ih (fun d mem => digits d (by simp [mem])) small

/-- The digits of a number are read as it. -/
theorem readSome_toDigits {n : Nat} (small : n ≤ bound) :
    readSome bound beyond (Nat.toDigits 10 n) = .ok n := by
  have nonempty : (Nat.toDigits 10 n).isEmpty = false := by
    simp [Nat.toDigits_ne_nil]
  rw [readSome, nonempty, if_neg Bool.false_ne_true, readDigits_eq_ok]
  · rw [Nat.ofDigitChars_ten_toDigits]
  · exact fun c mem => Nat.isDigit_of_mem_toDigits (by decide) (by decide) mem
  · rwa [Nat.ofDigitChars_ten_toDigits]

/-- The first digit of a number is no sign. -/
theorem exists_toDigits (n : Nat) :
    ∃ c cs, Nat.toDigits 10 n = c :: cs ∧ c ≠ '+' ∧ c ≠ '-' := by
  cases digits : Nat.toDigits 10 n with
  | nil => exact absurd digits Nat.toDigits_ne_nil
  | cons c cs =>
      have digit : c.isDigit = true :=
        Nat.isDigit_of_mem_toDigits (b := 10) (n := n) (by decide) (by decide)
          (by simp [digits])
      refine ⟨c, cs, rfl, ?_, ?_⟩ <;>
      · rintro rfl
        exact absurd digit (by decide)

end Numeral

/-- **A number without a sign is read as it is written.** -/
theorem readNatural_toString {bound n : Nat} (small : n ≤ bound) :
    readNatural bound (toString n).toList = .ok n := by
  obtain ⟨c, cs, digits, plus, -⟩ := Numeral.exists_toDigits n
  have read := Numeral.readSome_toDigits .tooLarge small
  show readNatural bound n.repr.toList = .ok n
  rw [Nat.toList_repr]
  rw [digits] at read ⊢
  unfold readNatural
  split
  · next empty => cases empty
  · next same => exact absurd (List.cons.inj same).1 plus
  · exact read

/-- **A number of a range around zero is read as it is written.** -/
theorem readInteger_toString {bound : Nat} {i : Int} (least : -(bound : Int) - 1 ≤ i)
    (greatest : i ≤ bound) : readInteger bound (toString i).toList = .ok i := by
  cases i with
  | ofNat n =>
      obtain ⟨c, cs, digits, plus, minus⟩ := Numeral.exists_toDigits n
      have read := Numeral.readSome_toDigits .tooLarge
        (show n ≤ bound from Int.ofNat_le.mp greatest)
      show readInteger bound n.repr.toList = .ok (Int.ofNat n)
      rw [Nat.toList_repr]
      rw [digits] at read ⊢
      unfold readInteger
      split
      · next empty => cases empty
      · next same => exact absurd (List.cons.inj same).1 plus
      · next same => exact absurd (List.cons.inj same).1 minus
      · rw [read]
        rfl
  | negSucc n =>
      have read := Numeral.readSome_toDigits .tooSmall
        (show n + 1 ≤ bound + 1 by omega)
      show readInteger bound ("-" ++ (n + 1).repr).toList = .ok (Int.negSucc n)
      have sign : "-".toList = ['-'] := by decide
      rw [String.toList_append, Nat.toList_repr, sign]
      simp only [List.cons_append, List.nil_append, readInteger, read]
      rfl

/-! ### Numbers that are read stay in their range -/

namespace Numeral

/-- Digits that are read within a bound are a number within it. -/
theorem le_of_readDigits {bound n m : Nat} {beyond : NumeralError} {cs : List Char}
    (read : readDigits bound beyond n cs = .ok m) (small : n ≤ bound) : m ≤ bound := by
  induction cs generalizing n with
  | nil =>
      cases read
      exact small
  | cons c cs ih =>
      rw [readDigits] at read
      split at read
      · dsimp only at read
        split at read
        · cases read
        · next inside => exact ih read (Nat.not_lt.mp inside)
      · cases read

theorem le_of_readSome {bound n : Nat} {beyond : NumeralError} {cs : List Char}
    (read : readSome bound beyond cs = .ok n) : n ≤ bound := by
  rw [readSome] at read
  split at read
  · cases read
  · exact le_of_readDigits read (Nat.zero_le bound)

end Numeral

/-- A number that is read within a bound does not pass it. -/
theorem le_of_readInteger {bound : Nat} {i : Int} {cs : List Char}
    (written : readInteger bound cs = .ok i) : i ≤ bound := by
  unfold readInteger at written
  split at written
  · cases written
  · obtain ⟨n, digits, rfl⟩ := map_eq_ok_iff.mp written
    exact Int.ofNat_le.mpr (Numeral.le_of_readSome digits)
  · obtain ⟨n, digits, rfl⟩ := map_eq_ok_iff.mp written
    obtain ⟨m, -, same⟩ := bind_eq_ok_iff.mp digits
    cases same
    omega
  · obtain ⟨n, digits, rfl⟩ := map_eq_ok_iff.mp written
    exact Int.ofNat_le.mpr (Numeral.le_of_readSome digits)

end ExitContract
