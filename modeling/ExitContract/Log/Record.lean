/-!
# Log events

What the program says about its own work, and results that carry what was said on the way to them.

A result comes about in stages, and the first that fails is the end. If the last one succeeded, then so
did every stage before it, and each gave what the next one took.

## Main definitions

* `Level`, `Source`, `Event` — the type of events
* `Logged` — a result with the events before it

## Main statements

* `bind_eq_ok_iff`, `map_eq_ok_iff` — what the success of two stages says about each
-/

namespace ExitContract

/-- How grave an event is. -/
inductive Level
  | error
  | warn
  | info
  | debug
  | trace
  deriving DecidableEq, Repr

/-- The part of the program that an event comes from. -/
inductive Source
  /-- The command line program. -/
  | program
  /-- Reading argument files. -/
  | argumentFiles
  /-- Loading the configuration. -/
  | configuration
  /-- The report of a failure. -/
  | failures
  /-- Running a command to its end. -/
  | runner
  /-- Streaming the output of a command. -/
  | stream
  deriving DecidableEq, Repr

/-- One thing said. -/
structure Event where
  level : Level
  source : Source
  message : String
  deriving DecidableEq, Repr

/-- An event for those who look for a fault. -/
def Event.debug (source : Source) (message : String) : Event := ⟨.debug, source, message⟩

/-- An event that may point to trouble. -/
def Event.warn (source : Source) (message : String) : Event := ⟨.warn, source, message⟩

/-- An event of a failure. -/
def Event.error (source : Source) (message : String) : Event := ⟨.error, source, message⟩

/-- A result with the events before it, the earliest first. -/
structure Logged (α : Type) where
  log : List Event
  result : α
  deriving Repr

namespace Logged

/-- Changes the result. -/
def map {α β : Type} (f : α → β) (x : Logged α) : Logged β := ⟨x.log, f x.result⟩

/-- Puts events before those of a result. -/
def after {α : Type} (x : Logged α) (log : List Event) : Logged α := ⟨log ++ x.log, x.result⟩

/-- Goes on from a result. -/
def bind {α β : Type} (x : Logged α) (f : α → Logged β) : Logged β := (f x.result).after x.log

@[simp] theorem map_log {α β : Type} (f : α → β) (x : Logged α) : (x.map f).log = x.log := rfl

@[simp] theorem map_result {α β : Type} (f : α → β) (x : Logged α) :
    (x.map f).result = f x.result := rfl

@[simp] theorem after_log {α : Type} (x : Logged α) (log : List Event) :
    (x.after log).log = log ++ x.log := rfl

@[simp] theorem after_result {α : Type} (x : Logged α) (log : List Event) :
    (x.after log).result = x.result := rfl

end Logged

/-! ### Stages that may fail -/

variable {ε α β : Type} {x : Except ε α} {b : β}

theorem bind_eq_ok_iff {f : α → Except ε β} :
    x.bind f = .ok b ↔ ∃ a, x = .ok a ∧ f a = .ok b := by
  cases x <;> simp [Except.bind]

theorem map_eq_ok_iff {f : α → β} : x.map f = .ok b ↔ ∃ a, x = .ok a ∧ f a = b := by
  cases x <;> simp [Except.map]

end ExitContract
