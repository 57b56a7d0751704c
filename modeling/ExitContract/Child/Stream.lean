import ExitContract.Shell.Grammar

/-!
# Streams between processes

What comes out of a pipe, and when.

## Main definitions

* `Stream` — timed octets, perhaps without end
* `Stream.readLine` — the first line
* `Stream.all?` — everything, when it is complete
-/

namespace ExitContract

open Shell (Str)

/-- Timed octets; instants count nanoseconds. -/
structure Stream where
  /-- What comes, the earliest first. -/
  chunks : List (Nat × Str)
  /-- What then comes again and again, and from when on. -/
  endless : Option (Nat × Str)
  /-- When nothing more comes, if that is ever so. -/
  closed : Option Nat
  deriving DecidableEq, Repr

namespace Stream

/-- The stream in which nothing comes. -/
def empty : Stream := ⟨[], none, some 0⟩

/-- The stream of a text that is there from the start. -/
def ofText (s : Str) : Stream := ⟨if s.isEmpty then [] else [(0, s)], none, some 0⟩

/-- What a reader of a stream gets. -/
inductive Got
  /-- A text and when it was complete, and whether it is all that came before the end. -/
  | text (time : Nat) (s : Str) (final : Bool)
  /-- The reader waits for ever. -/
  | never
  deriving DecidableEq, Repr

/-- Cuts after the first line feed. -/
def cutLine? : Str → Option (Str × Str)
  | [] => none
  | c :: cs => if c = '\n' then some ([], cs) else (cutLine? cs).map fun (a, b) => (c :: a, b)

/-- The first line of chunks, if it is complete: when, without its ending, and the chunks left. -/
def lineOf? (now : Nat) (acc : Str) : List (Nat × Str) → Option (Nat × Str × List (Nat × Str))
  | [] => none
  | (t, s) :: rest =>
    match cutLine? s with
    | some (a, b) => some (max now t, acc ++ a, if b.isEmpty then rest else (t, b) :: rest)
    | none => lineOf? now (acc ++ s) rest

/-- The first line, and the stream after it. -/
def readLine (now : Nat) (s : Stream) : Got × Stream :=
  match lineOf? now [] s.chunks with
  | some (t, line, rest) => (.text t line false, { s with chunks := rest })
  | none =>
    let sofar := s.chunks.flatMap (·.2)
    match s.endless with
    | some (t, again) =>
      match cutLine? again with
      | some (line, _) => (.text (max now t) (sofar ++ line) false, { s with chunks := [] })
      | none => (.never, s)
    | none =>
      match s.closed with
      | some t => (.text (max now t) sofar true, { s with chunks := [] })
      | none => (.never, s)

/-- Everything, when it is complete. -/
def all? (now : Nat) (s : Stream) : Option (Nat × Str) :=
  match s.endless, s.closed with
  | none, some t => some (s.chunks.foldl (fun m c => max m c.1) (max now t), s.chunks.flatMap (·.2))
  | _, _ => none

end Stream

end ExitContract
