import ExitContract.Text.Lines

/-!
# Lines written and read

A text that holds lines one after another, each with an ending, is cut into just these
lines.

There are two endings, a line feed alone and one with a carriage return before it. The
reader cuts at every line feed and then takes one carriage return off. So a line that
holds no line feed is cut in the right place, and one that does not end with a carriage
return loses nothing of its own.

**The last line.** What follows the last line feed counts as a line unless it is empty,
and it keeps all of its characters. So the last line needs no ending, if there is
something in it.

## Main definitions

* `LineEnd` — the ways to end a line
* `Lines.write` — lines one after another

## Main statements

* `Lines.pieces_append_lineFeed` — cutting at the first line feed
* `Lines.linesOf_write` — reading what was written
-/

namespace ExitContract

/-- The ways to end a line. -/
inductive LineEnd
  | feed
  | returnAndFeed
  deriving DecidableEq, Repr

/-- The characters that end a line. -/
def LineEnd.chars : LineEnd → List Char
  | .feed => ['\n']
  | .returnAndFeed => ['\r', '\n']

namespace Lines

/-- Lines one after another, each with its ending, and perhaps a last one without. -/
def write : List (List Char × LineEnd) → Option (List Char) → List Char
  | [], last => last.getD []
  | (line, ending) :: lines, last => line ++ (ending.chars ++ write lines last)

/-! ### Cutting -/

/-- A text without a line feed is one piece. -/
theorem pieces_of_notMem {cs : List Char} (unfed : '\n' ∉ cs) : pieces cs = [cs] := by
  induction cs with
  | nil => rfl
  | cons c cs ih =>
      rw [List.mem_cons, not_or] at unfed
      rw [pieces, if_neg fun h => unfed.1 h.symm, ih unfed.2]

/-- The first piece of a text ends at its first line feed. -/
theorem pieces_append_lineFeed {cs : List Char} (unfed : '\n' ∉ cs)
    (rest : List Char) : pieces (cs ++ '\n' :: rest) = cs :: pieces rest := by
  induction cs with
  | nil => rw [List.nil_append, pieces, if_pos rfl]
  | cons c cs ih =>
      rw [List.mem_cons, not_or] at unfed
      rw [List.cons_append, pieces, if_neg fun h => unfed.1 h.symm, ih unfed.2]

/-- Every text has a piece. -/
theorem pieces_ne_nil (cs : List Char) : pieces cs ≠ [] := by
  cases cs with
  | nil => nofun
  | cons c cs =>
      rw [pieces]
      split
      · nofun
      · split <;> nofun

/-- A piece that is not the last is a line. -/
theorem ofPieces_cons {ps : List (List Char)} (more : ps ≠ []) (p : List Char) :
    ofPieces (p :: ps) = stripReturn p :: ofPieces ps := by
  cases ps with
  | nil => exact absurd rfl more
  | cons => rfl

/-- The first line of a text ends at its first line feed. -/
theorem linesOf_append_lineFeed {cs : List Char} (unfed : '\n' ∉ cs) (rest : List Char) :
    linesOf (cs ++ '\n' :: rest) = stripReturn cs :: linesOf rest := by
  rw [linesOf, pieces_append_lineFeed unfed, ofPieces_cons (pieces_ne_nil rest)]
  rfl

/-- No piece of a text holds a line feed. -/
theorem lineFeed_notMem_of_mem_pieces {cs p : List Char} (mem : p ∈ pieces cs) : '\n' ∉ p := by
  induction cs generalizing p with
  | nil =>
      rw [List.mem_singleton.mp mem]
      exact List.not_mem_nil
  | cons c cs ih =>
      rw [pieces] at mem
      split at mem
      · rcases List.mem_cons.mp mem with rfl | later
        · exact List.not_mem_nil
        · exact ih later
      · next other =>
          split at mem
          · next nothing => exact absurd nothing (pieces_ne_nil cs)
          · next q qs cut =>
              rw [cut] at ih
              rcases List.mem_cons.mp mem with rfl | later
              · rw [List.mem_cons, not_or]
                exact ⟨fun same => other same.symm, ih List.mem_cons_self⟩
              · exact ih (List.mem_cons_of_mem q later)

/-- A line is what is left of a piece. -/
theorem exists_piece_of_mem_ofPieces {ps : List (List Char)} {l : List Char}
    (mem : l ∈ ofPieces ps) : ∃ p ∈ ps, l ⊆ p := by
  have stripped (p : List Char) : stripReturn p ⊆ p := by
    rw [stripReturn]
    split
    · exact List.dropLast_subset p
    · exact List.Subset.refl p
  induction ps with
  | nil => cases mem
  | cons p ps ih =>
      cases ps with
      | nil =>
          rw [ofPieces] at mem
          split at mem
          · cases mem
          · rw [List.mem_singleton.mp mem]
            exact ⟨p, List.mem_cons_self, List.Subset.refl p⟩
      | cons q qs =>
          rw [ofPieces_cons (List.cons_ne_nil q qs)] at mem
          rcases List.mem_cons.mp mem with rfl | later
          · exact ⟨p, List.mem_cons_self, stripped p⟩
          · obtain ⟨p', there, part⟩ := ih later
            exact ⟨p', List.mem_cons_of_mem p there, part⟩

/-- No line of a text holds a line feed. -/
theorem lineFeed_notMem_of_mem_linesOf {cs l : List Char} (mem : l ∈ linesOf cs) :
    '\n' ∉ l := by
  obtain ⟨p, there, part⟩ := exists_piece_of_mem_ofPieces mem
  exact fun fed => lineFeed_notMem_of_mem_pieces there (part fed)

/-! ### Reading what was written -/

/-- What a line has to be in order to be read back: it holds no line feed, and does not
end with a carriage return. -/
structure Whole (line : List Char) : Prop where
  unfed : '\n' ∉ line
  unreturned : line.getLast? ≠ some '\r'

/-- A line is read back up to its ending, whichever that is. -/
theorem linesOf_append_ending {line : List Char} (whole : Whole line) (ending : LineEnd)
    (rest : List Char) :
    linesOf (line ++ (ending.chars ++ rest)) = line :: linesOf rest := by
  cases ending with
  | feed =>
      have read := linesOf_append_lineFeed whole.unfed rest
      rw [stripReturn, if_neg whole.unreturned] at read
      exact read
  | returnAndFeed =>
      -- the carriage return is part of the piece, and the one that is taken off
      have unfed : '\n' ∉ line ++ ['\r'] := by simp [whole.unfed]
      have read := linesOf_append_lineFeed unfed rest
      rw [stripReturn, if_pos List.getLast?_concat, List.dropLast_concat,
        List.append_assoc] at read
      exact read

/-- **Lines that were written are read back.** The last one may lack its ending if
there is something in it. -/
theorem linesOf_write {lines : List (List Char × LineEnd)} {last : Option (List Char)}
    (whole : ∀ l ∈ lines, Whole l.1) (unfed : ∀ l ∈ last, '\n' ∉ l ∧ l ≠ []) :
    linesOf (write lines last) = lines.map Prod.fst ++ last.toList := by
  induction lines with
  | nil =>
      cases last with
      | none => rfl
      | some l =>
          obtain ⟨single, something⟩ := unfed l rfl
          rw [write, Option.getD_some, linesOf, pieces_of_notMem single, ofPieces,
            if_neg (mt List.isEmpty_iff.mp something)]
          rfl
  | cons l lines ih =>
      rw [List.forall_mem_cons] at whole
      rw [write, linesOf_append_ending whole.1, ih whole.2]
      rfl

end Lines

end ExitContract
