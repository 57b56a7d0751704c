import ExitContract.Binary64

/-!
# Durations

A length of time in whole nanoseconds.

## Main definitions

* `Duration` — the type, with `Duration.ofSeconds` and `Duration.ofMilliseconds`
* `Duration.inSeconds` — the length in seconds as a floating-point number
* `Duration.fitsAfter` — whether a clock can show the instant that lies a duration after another

## Design notes

An instant is a count of nanoseconds as well, on a clock whose seconds are signed 64-bit numbers. What
lies before the zero of the clock has a negative count.
-/

namespace ExitContract

/-- A length of time. -/
structure Duration where
  nanoseconds : Nat
  deriving DecidableEq, Repr

namespace Duration

/-- Nanoseconds in a second. -/
def perSecond : Nat := 1000000000

/-- No time at all. -/
def zero : Duration := ⟨0⟩

/-- A whole number of seconds. -/
def ofSeconds (n : Nat) : Duration := ⟨n * perSecond⟩

/-- A whole number of milliseconds. -/
def ofMilliseconds (n : Nat) : Duration := ⟨n * 1000000⟩

/-- The whole seconds of a duration. -/
def seconds (d : Duration) : Nat := d.nanoseconds / perSecond

/-- The nanoseconds of a duration beyond its whole seconds. -/
def subseconds (d : Duration) : Nat := d.nanoseconds % perSecond

/-- Whether a duration is no time at all. -/
def isZero (d : Duration) : Bool := d.nanoseconds == 0

/-- The length in seconds: whole seconds and the rest are rounded, then their sum. -/
def inSeconds (d : Duration) : Binary64 :=
  (Binary64.ofNat d.seconds).addMagnitudes (.ofRatio false d.subseconds perSecond)

/-- The last second that a clock can show. -/
def lastSecond : Nat := 0x7fffffffffffffff

/-- Whether a clock that shows `reading` can show the instant `d` later. -/
def fitsAfter (reading : Int) (d : Duration) : Bool :=
  (reading + d.nanoseconds) / perSecond ≤ lastSecond

end Duration

end ExitContract
