/-!
# Whole numbers in text

Reading decimal whole numbers of a bounded range, and why a text is none.

## Main definitions

* `NumeralError` — the ways to be no such number
* `readNatural` — a number from zero up to a bound, with an optional plus sign
* `readInteger` — a number of a range around zero, with an optional sign

## Design notes

A text is read from left to right and fails at the first character where it must: a digit that leaves
the range fails before a later character that is no digit.
-/

namespace ExitContract

/-- Why a text is no whole number of a range. -/
inductive NumeralError
  | empty
  | invalidDigit
  | tooLarge
  | tooSmall
  deriving DecidableEq, Repr

/-- The wording of a numeral error. -/
def NumeralError.message : NumeralError → String
  | .empty => "cannot parse integer from empty string"
  | .invalidDigit => "invalid digit found in string"
  | .tooLarge => "number too large to fit in target type"
  | .tooSmall => "number too small to fit in target type"

namespace Numeral

/-- Reads digits after the number `n`, as long as the number stays within a bound. -/
def readDigits (bound : Nat) (beyond : NumeralError) : Nat → List Char → Except NumeralError Nat
  | n, [] => .ok n
  | n, c :: cs =>
    if c.isDigit then
      let m := n * 10 + (c.toNat - 48)
      if bound < m then .error beyond else readDigits bound beyond m cs
    else .error .invalidDigit

/-- Reads at least one digit. -/
def readSome (bound : Nat) (beyond : NumeralError) (cs : List Char) : Except NumeralError Nat :=
  if cs.isEmpty then .error .invalidDigit else readDigits bound beyond 0 cs

end Numeral

/-- Reads a number from zero to `bound`. -/
def readNatural (bound : Nat) (cs : List Char) : Except NumeralError Nat :=
  match cs with
  | [] => .error .empty
  | '+' :: ds => Numeral.readSome bound .tooLarge ds
  | ds => Numeral.readSome bound .tooLarge ds

/-- Reads a number from `-(bound + 1)` to `bound`. -/
def readInteger (bound : Nat) (cs : List Char) : Except NumeralError Int :=
  match cs with
  | [] => .error .empty
  | '+' :: ds => (Numeral.readSome bound .tooLarge ds).map Int.ofNat
  | '-' :: ds => (Numeral.readSome (bound + 1) .tooSmall ds).map fun n => -(n : Int)
  | ds => (Numeral.readSome bound .tooLarge ds).map Int.ofNat

end ExitContract
