/-!
# Lines

Cutting a text at its line feeds.

## Main definitions

* `linesOf` — the lines of a text, without their endings
* `Lines.splitAfter` — the first lines of a text, and what follows them
-/

namespace ExitContract

namespace Lines

/-- Removes one carriage return from the end of a line. -/
def stripReturn (line : List Char) : List Char :=
  if line.getLast? = some '\r' then line.dropLast else line

/-- The pieces of a text between line feeds, the last one included. -/
def pieces : List Char → List (List Char)
  | [] => [[]]
  | c :: cs =>
    if c = '\n' then [] :: pieces cs
    else match pieces cs with
      | [] => [[c]]
      | p :: ps => (c :: p) :: ps

/-- The lines that `pieces` holds: every piece but the last ended with a line feed and gives up a
carriage return before it, and the last is a line only if it is not empty. -/
def ofPieces : List (List Char) → List (List Char)
  | [] => []
  | [last] => if last.isEmpty then [] else [last]
  | p :: ps => stripReturn p :: ofPieces ps

/-- The first so many lines of a text with their endings, and what follows them. -/
def splitAfter : Nat → List Char → List Char × List Char
  | 0, cs => ([], cs)
  | _ + 1, [] => ([], [])
  | n + 1, c :: cs =>
    let (lines, rest) := splitAfter (if c = '\n' then n else n + 1) cs
    (c :: lines, rest)

@[simp] theorem splitAfter_zero (cs : List Char) : splitAfter 0 cs = ([], cs) := by
  cases cs <;> rfl

/-- Nothing is lost where a text is split. -/
theorem splitAfter_append (n : Nat) (cs : List Char) :
    (splitAfter n cs).1 ++ (splitAfter n cs).2 = cs := by
  induction cs generalizing n with
  | nil => cases n <;> rfl
  | cons c cs ih =>
    cases n with
    | zero => rfl
    | succ n => exact congrArg (c :: ·) (ih _)

end Lines

/-- The lines of a text. A line ends with a line feed, before which a carriage return is part of the
ending; what follows the last ending is a line if it is not empty. -/
def linesOf (cs : List Char) : List (List Char) := Lines.ofPieces (Lines.pieces cs)

end ExitContract
