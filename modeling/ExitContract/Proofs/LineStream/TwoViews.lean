import ExitContract.LineStream.Session
import ExitContract.Proofs.LineStream.Delivery
import ExitContract.Proofs.Text.LossyText
import ExitContract.Proofs.Text.TextLines

/-!
# Two views of an output

What a child writes can be had line by line or as one text, and the lines are
the lines of the text.

The two are made in opposite orders. A stream cuts the octets at line feeds,
trims each line and only then reads it as text; a run to the end reads all
octets as text, in which lines are to be found afterwards. A malformed form may
be cut short by a line feed or stand before a carriage return, so the orders
agree only because lossy reading can be cut at both.

**In any portions.** The reader of a stream sees the octets in portions and holds
back the start of a line. What it has sent and what it holds depends only on the
octets so far, which is the invariant of the induction over the portions.

## Main definitions

* `LineStream.textLines` — the lines to be found in a text
* `outputOf` — the text that a run to the end tells of

## Main statements

* `LineStream.linesOf_eq_textLines` — cutting first or reading first
* `LineStream.streamed_lines_eq_captured_lines` — a stream against a run to the
  end
-/

namespace ExitContract

/-- The text that a run to the end tells of, whether or not it counts as
success. -/
def outputOf : Except Failure Completion → Option String
  | .ok r => some r.output
  | .error f => f.output?

namespace LineStream

/-- Rows of pieces without a last one that is empty. -/
def dropEmptyLast (pieces : List (List Char)) : List (List Char) :=
  if pieces.getLast? = some [] then pieces.dropLast else pieces

/-- The lines to be found in a text: its pieces between line feeds, but for a
last one that is empty, each without one carriage return at its end. -/
def textLines (text : String) : List String :=
  ((dropEmptyLast (Lines.pieces text.toList)).map Lines.stripReturn).map
    String.ofList

/-! ### Cutting octets -/

/-- What the cut octets are: lines that end with their only line feed, and a
rest without one, and together all that was cut. -/
structure Cut (all : Bytes) (lines : List Bytes) (rest : Bytes) : Prop where
  whole : lines.flatten ++ rest = all
  line : ∀ l ∈ lines, ∃ body, l = body ++ [lineFeed] ∧ lineFeed ∉ body
  rest : lineFeed ∉ rest

/-- Cutting after a line that is held back. -/
theorem cutLines_cut (held : Bytes) (unfed : lineFeed ∉ held) (octets : Bytes) :
    Cut (held.reverse ++ octets) (cutLines held octets).1
      (cutLines held octets).2 := by
  induction octets generalizing held with
  | nil =>
      exact ⟨(List.append_nil _).symm, nofun, mt List.mem_reverse.mp unfed⟩
  | cons b octets ih =>
      rw [cutLines]
      by_cases hb : b = lineFeed
      · obtain ⟨whole, line, rest⟩ := ih [] nofun
        rw [if_pos hb, hb]
        refine ⟨?_, ?_, rest⟩
        · simp only [List.flatten_cons, List.reverse_cons, List.append_assoc, whole]
          rfl
        · intro l mem
          rcases List.mem_cons.mp mem with rfl | mem
          · exact ⟨held.reverse, List.reverse_cons, mt List.mem_reverse.mp unfed⟩
          · exact line l mem
      · have unfed' : lineFeed ∉ b :: held := by
          rw [List.mem_cons, not_or]
          exact ⟨fun h => hb h.symm, unfed⟩
        have cut := ih (b :: held) unfed'
        rw [List.reverse_cons, List.append_assoc] at cut
        rw [if_neg hb]
        exact cut

/-- Octets in two portions are cut like all of them, if the second portion is
cut after what the first one left. -/
theorem cutLines_append (held xs ys : Bytes) :
    cutLines held (xs ++ ys) =
      ((cutLines held xs).1 ++ (cutLines (cutLines held xs).2.reverse ys).1,
        (cutLines (cutLines held xs).2.reverse ys).2) := by
  induction xs generalizing held with
  | nil => rw [List.nil_append, cutLines, List.reverse_reverse]; rfl
  | cons b xs ih =>
      rw [List.cons_append, cutLines, cutLines]
      by_cases hb : b = lineFeed
      · rw [if_pos hb, if_pos hb, ih]
        rfl
      · rw [if_neg hb, if_neg hb, ih]

/-! ### One line -/

@[simp] theorem dropLast?_concat (b : UInt8) (line : Bytes) :
    dropLast? b (line ++ [b]) = line := by
  rw [dropLast?, if_pos List.getLast?_concat, List.dropLast_concat]

theorem dropLast?_of_notMem {b : UInt8} {line : Bytes} (absent : b ∉ line) :
    dropLast? b line = line := by
  rw [dropLast?, if_neg fun last => absent (List.mem_of_getLast? last)]

/-- Octets without a line feed are read as text without one. -/
theorem lineFeed_notMem_decodeLossyChars {octets : Bytes}
    (unfed : lineFeed ∉ octets) : '\n' ∉ Utf8.decodeLossyChars octets := by
  have same : '\n' ∈ Utf8.decodeLossyChars octets ↔ lineFeed ∈ octets :=
    Utf8.mem_decodeLossyChars_iff lineFeed (by decide) (by decide) octets
  exact mt same.mp unfed

/-- Dropping a carriage return from octets or from their text is the same. -/
theorem decodeLossyChars_dropLast_return (octets : Bytes) :
    Utf8.decodeLossyChars (dropLast? carriageReturn octets) =
      Lines.stripReturn (Utf8.decodeLossyChars octets) := by
  have ends : (Utf8.decodeLossyChars octets).getLast? = some '\r' ↔
      octets.getLast? = some carriageReturn :=
    Utf8.getLast?_decodeLossyChars_iff carriageReturn (by decide) (by decide) octets
  rw [Lines.stripReturn]
  by_cases last : octets.getLast? = some carriageReturn
  · obtain ⟨body, rfl⟩ := List.getLast?_eq_some_iff.mp last
    rw [if_pos (ends.mpr last), dropLast?_concat,
      Utf8.decodeLossyChars_append_single body [] (by decide)]
    exact List.dropLast_concat.symm
  · rw [if_neg (mt ends.mp last), dropLast?, if_neg last]

/-- The text of a line that ends with a line feed. -/
theorem lineText_append_lineFeed (body : Bytes) :
    lineText (body ++ [lineFeed]) =
      String.ofList (Lines.stripReturn (Utf8.decodeLossyChars body)) := by
  rw [lineText, trimEnd, dropLast?_concat, Utf8.decodeLossy,
    decodeLossyChars_dropLast_return]

/-- The text of a line that the end of the output ends. -/
theorem lineText_of_notMem {rest : Bytes} (unfed : lineFeed ∉ rest) :
    lineText rest =
      String.ofList (Lines.stripReturn (Utf8.decodeLossyChars rest)) := by
  rw [lineText, trimEnd, dropLast?_of_notMem unfed, Utf8.decodeLossy,
    decodeLossyChars_dropLast_return]

/-! ### All lines -/

/-- The pieces of the text of cut octets: one for each line, and the rest. -/
theorem Cut.pieces {all rest : Bytes} {lines : List Bytes} (h : Cut all lines rest) :
    Lines.pieces (Utf8.decodeLossyChars all) =
      lines.map (fun l => Utf8.decodeLossyChars l.dropLast) ++
        [Utf8.decodeLossyChars rest] := by
  obtain ⟨rfl, line, unfed⟩ := h
  induction lines with
  | nil => exact Lines.pieces_of_notMem (lineFeed_notMem_decodeLossyChars unfed)
  | cons l lines ih =>
      obtain ⟨body, rfl, unfed'⟩ := line l List.mem_cons_self
      have cut : Utf8.decodeLossyChars (body ++ lineFeed :: (lines.flatten ++ rest)) =
          Utf8.decodeLossyChars body ++
            '\n' :: Utf8.decodeLossyChars (lines.flatten ++ rest) :=
        Utf8.decodeLossyChars_append_single body _ (by decide)
      rw [List.flatten_cons, List.append_assoc, List.append_assoc,
        List.singleton_append, cut,
        Lines.pieces_append_lineFeed (lineFeed_notMem_decodeLossyChars unfed'),
        ih fun l mem => line l (List.mem_cons_of_mem _ mem), List.map_cons,
        List.dropLast_concat]
      rfl

/-- The text of each line of cut octets. -/
theorem Cut.map_lineText {all rest : Bytes} {lines : List Bytes}
    (h : Cut all lines rest) :
    lines.map lineText =
      ((lines.map fun l => Utf8.decodeLossyChars l.dropLast).map
        Lines.stripReturn).map String.ofList := by
  rw [List.map_map, List.map_map]
  refine List.map_congr_left ?_
  intro l mem
  obtain ⟨body, rfl, -⟩ := h.line l mem
  rw [lineText_append_lineFeed, Function.comp_apply, Function.comp_apply,
    List.dropLast_concat]

/-- **Cutting first or reading first.** The lines of an output are the lines to
be found in its text. -/
theorem linesOf_eq_textLines (output : Bytes) :
    linesOf output = textLines (Utf8.decodeLossy output) := by
  have cut : Cut output (cutLines [] output).1 (cutLines [] output).2 :=
    cutLines_cut [] nofun output
  rw [linesOf, textLines, Utf8.decodeLossy, String.toList_ofList, cut.pieces]
  dsimp only
  by_cases more : (cutLines [] output).2 = []
  · -- The output ends with a line feed or is empty, so the last piece is empty.
    have last : lastLine (cutLines [] output).2 = [] := by rw [more]; rfl
    have empty : Utf8.decodeLossyChars (cutLines [] output).2 = [] := by rw [more]; rfl
    rw [last, empty, dropEmptyLast, if_pos List.getLast?_concat,
      List.dropLast_concat, List.append_nil, cut.map_lineText]
  · have last : lastLine (cutLines [] output).2 = [(cutLines [] output).2] := by
      rw [lastLine, if_neg (mt List.isEmpty_iff.mp more)]
    have something := Utf8.decodeLossyChars_ne_nil more
    rw [last, dropEmptyLast, if_neg, List.map_append, List.map_append,
      List.map_append, cut.map_lineText, List.map_singleton,
      lineText_of_notMem cut.rest]
    · rfl
    · rw [List.getLast?_concat]
      exact fun h => something (Option.some.inj h)

/-! ### The reader of a session -/

/-- The lines of a row of arrivals. -/
theorem linesSent_map_arrive (lines : List String) (es : List Event) :
    linesSent (lines.map .arrive ++ es) = lines ++ linesSent es := by
  induction lines with
  | nil => rfl
  | cons line lines ih => exact congrArg (line :: ·) ih

end LineStream

namespace Session

open LineStream (cutLines lastLine lineText linesSent)

/-- What happens to the stream of a session is a history of it. -/
theorem feedAll_stream (s : Session) (es : List LineStream.Event) :
    (s.feedAll es).stream = (s.stream.run es).1 := by
  induction es generalizing s with
  | nil => rfl
  | cons e es ih => exact ih (s.feed e).1

theorem feedAll_held (s : Session) (es : List LineStream.Event) :
    (s.feedAll es).held = s.held := by
  induction es generalizing s with
  | nil => rfl
  | cons e es ih => exact ih (s.feed e).1

/-- What the reader has made of the octets so far: it has sent their lines and
holds back what follows the last of them. -/
structure HasRead (s : Session) (octets : Bytes) : Prop where
  opened : s.stream.closed = false
  sent : s.stream.sent = (cutLines [] octets).1.map lineText
  held : s.held = (cutLines [] octets).2.reverse

theorem hasRead_start (c : Command) (o : Options) (child : Timeline)
    (deadline : Option Nat) (log : List Event) :
    (start c o child deadline log).HasRead [] :=
  ⟨rfl, rfl, rfl⟩

/-- Whatever the portions, the reader makes the same of the octets. -/
theorem HasRead.write {s : Session} {octets : Bytes} (h : s.HasRead octets)
    (portion : Bytes) : (s.write portion).HasRead (octets ++ portion) := by
  have cut := LineStream.cutLines_append [] octets portion
  rw [← h.held] at cut
  have arrivals := LineStream.linesSent_map_arrive
    ((cutLines s.held portion).1.map lineText) []
  rw [List.append_nil, linesSent, List.append_nil] at arrivals
  refine ⟨?_, ?_, ?_⟩
  · rw [Session.write, feedAll_stream]
    refine eq_false_of_ne_true fun closed => ?_
    have mem := LineStream.State.close_mem_of_closed h.opened closed
    obtain ⟨_, -, impossible⟩ := List.mem_map.mp mem
    cases impossible
  · rw [Session.write, feedAll_stream, LineStream.State.sent_run, h.opened,
      if_neg Bool.false_ne_true, arrivals, cut, List.map_append, ← h.sent]
  · rw [Session.write, feedAll_held, cut]

theorem HasRead.writeAll {s : Session} {octets : Bytes} (h : s.HasRead octets)
    (portions : List Bytes) :
    (s.writeAll portions).HasRead (octets ++ portions.flatten) := by
  induction portions generalizing s octets with
  | nil =>
      rw [List.flatten_nil, List.append_nil]
      exact h
  | cons portion portions ih =>
      rw [List.flatten_cons, ← List.append_assoc]
      exact ih (h.write portion)

/-- At the end of the output the reader has sent all of its lines. -/
theorem HasRead.finishOutput {s : Session} {octets : Bytes} (h : s.HasRead octets) :
    s.finishOutput.stream.closed = true ∧
      s.finishOutput.stream.sent = LineStream.linesOf octets := by
  have last := LineStream.linesSent_map_arrive
    ((lastLine s.held.reverse).map lineText) [.close]
  rw [linesSent, List.append_nil] at last
  rw [Session.finishOutput, feedAll_stream]
  constructor
  · rw [LineStream.State.run_append]
    rfl
  · rw [LineStream.State.sent_run, h.opened, if_neg Bool.false_ne_true, last, h.sent, h.held,
      List.reverse_reverse, LineStream.linesOf, ← List.map_append]

end Session

/-- A run to the end tells of its whole output, whatever its exit code is. -/
theorem outputOf_capture (c : Command) (o : Options) (output : Bytes)
    (status : WaitStatus) :
    outputOf (capture c o (.ended output status)).result =
      some (Utf8.decodeLossy output) := by
  rw [capture, complete]
  dsimp only
  split <;> rfl

/-- **A stream and a run to the end show the same lines.** Whatever a child
writes, in whatever portions, before it closes its output: the lines that a
stream sends are the lines of the octets, and these are the lines to be found in
the text that a run to the end tells of. -/
theorem streamed_lines_eq_captured_lines (c : Command) (o : Options)
    (child : Timeline) (deadline : Option Nat) (log : List Event)
    (portions : List Bytes) (status : WaitStatus) :
    let s := ((Session.start c o child deadline log).writeAll portions).finishOutput
    ∃ text, outputOf (capture c o (.ended portions.flatten status)).result = some text ∧
      s.stream.closed = true ∧
      s.stream.sent = LineStream.linesOf portions.flatten ∧
      s.stream.sent = LineStream.textLines text := by
  intro s
  have read := (Session.hasRead_start c o child deadline log).writeAll portions
  obtain ⟨closed, sent⟩ := read.finishOutput
  rw [List.nil_append] at sent
  refine ⟨_, outputOf_capture c o portions.flatten status, closed, sent, ?_⟩
  rw [sent, LineStream.linesOf_eq_textLines]

end ExitContract
