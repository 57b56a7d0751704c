/-!
# Exit statuses

How a finished child ended, and the one number that stands for it.

A wait status is the 32-bit word that the system reports: its low seven bits are zero for an exit,
whose code is in the next byte, and otherwise name the signal that ended the child; all ones mean
that the child has not ended.

## Main definitions

* `WaitStatus` — the word, with `WaitStatus.exited` and `WaitStatus.signalled`
* `WaitStatus.ending` — what it says
* `WaitStatus.exitCode` — the number reported for it
-/

namespace ExitContract

/-- The word that the system reports for a child. -/
structure WaitStatus where
  word : UInt32
  deriving DecidableEq, Repr

/-- How a child ended. -/
inductive Ending
  /-- It exited with a code. -/
  | exited (code : Nat)
  /-- A signal ended it. -/
  | signalled (signal : Nat)
  /-- It has not ended. -/
  | unfinished
  deriving DecidableEq, Repr

namespace WaitStatus

/-- The status of a child that exits with a code, of which only the low byte is kept. -/
def exited (code : Nat) : WaitStatus := ⟨UInt32.ofNat (code % 256 * 256)⟩

/-- The status of a child that a signal ends. -/
def signalled (signal : Nat) : WaitStatus := ⟨UInt32.ofNat (signal % 128)⟩

/-- What a wait status says. -/
def ending (s : WaitStatus) : Ending :=
  let low := s.word.toNat % 128
  if low = 0 then .exited (s.word.toNat / 256 % 256)
  else if low = 127 then .unfinished
  else .signalled low

/-- The number reported for a wait status: the exit code, the negated number of the signal, or `-1`
for a child that has not ended. -/
def exitCode (s : WaitStatus) : Int32 :=
  match s.ending with
  | .exited code => Int32.ofNat code
  | .signalled signal => -Int32.ofNat signal
  | .unfinished => -1

end WaitStatus

end ExitContract
