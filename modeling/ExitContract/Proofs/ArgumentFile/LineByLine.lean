import ExitContract.ArgumentFile
import ExitContract.Log.Record
import ExitContract.Proofs.Text.TextLines
import ExitContract.Proofs.Text.WrittenText
import ExitContract.Proofs.Words.Comments

/-!
# Argument files line by line

Every line of an argument file is read by itself, whichever way it ends.

**What ends a line.** A carriage return separates words, and it is part of an ending too. A
backslash or an open quote before an ending might take some of it in, and a comment might
go on behind it. Nothing of this happens, since lines are cut before words are: a line is
split without its ending, and what it leaves open is an error there and then, however the
next line goes on.

**The first error.** Lines are read in their order, so the file has the words of all its
lines, or it fails at the first line that has none, and what stands behind it does not
matter.

## Main definitions

* `ArgumentFile.ofLines` — a file with given lines

## Main statements

* `ArgumentFile.wordsOfLines_eq_ok_iff`, `ArgumentFile.wordsOfLines_eq_error_iff` — what
  comes of a list of lines
* `ArgumentFile.wordsOfText_ofLines` — a file is cut into its lines
* `arguments_read_line_by_line` — all of it together
-/

namespace ExitContract

open Words (EndsInEscape EndsInQuotation)

/-- A line has no words if it cannot be split. -/
theorem tokenize_eq_error_iff {line : String} {e : SplitError} :
    tokenize line = .error e ↔ splitWords line = .error e := by
  rw [tokenize]
  cases splitWords line <;> simp [Except.map]

/-- What a line leaves open at its end is the reason for which it cannot be split. -/
theorem exists_tokenize_error {line : String}
    (breaksOff : EndsInQuotation line.toList ∨ EndsInEscape line.toList) :
    ∃ e, tokenize line = .error e := by
  rcases breaksOff with quotation | escape
  · refine ⟨.openQuotation, tokenize_eq_error_iff.mpr ?_⟩
    rw [splitWords, Words.splitChars_eq_openQuotation_iff.mpr quotation]
    rfl
  · refine ⟨.danglingEscape, tokenize_eq_error_iff.mpr ?_⟩
    rw [splitWords, Words.splitChars_eq_danglingEscape_iff.mpr escape]
    rfl

namespace ArgumentFile

/-! ### Lists of lines -/

@[simp] theorem wordsOfLines_cons (line : String) (lines : List (List Char)) :
    wordsOfLines (line.toList :: lines) =
      match tokenize line with
      | .error e => .error (.malformedLine line e.message)
      | .ok words => (wordsOfLines lines).map (words ++ ·) := by
  cases split : tokenize line <;> simp only [wordsOfLines, String.ofList_toList, split]

/-- Lines have words if each of them has, and then they have the words of each. -/
theorem wordsOfLines_eq_ok_iff {lines : List String} {words : List String} :
    wordsOfLines (lines.map String.toList) = .ok words ↔
      ∃ tokens : List (List String),
        lines.map tokenize = tokens.map .ok ∧ words = tokens.flatten := by
  induction lines generalizing words with
  | nil =>
      constructor
      · intro read
        cases read
        exact ⟨[], rfl, rfl⟩
      · rintro ⟨tokens, none, rfl⟩
        rw [List.map_eq_nil_iff.mp none.symm]
        rfl
  | cons line lines ih =>
      rw [List.map_cons, wordsOfLines_cons, List.map_cons]
      cases first : tokenize line with
      | error e =>
          refine ⟨nofun, ?_⟩
          rintro ⟨tokens, same, -⟩
          obtain ⟨_, _, -, impossible, -⟩ := List.map_eq_cons_iff.mp same.symm
          cases impossible
      | ok own =>
          rw [map_eq_ok_iff]
          constructor
          · rintro ⟨others, read, rfl⟩
            obtain ⟨tokens, same, rfl⟩ := ih.mp read
            exact ⟨own :: tokens, by rw [same, List.map_cons], rfl⟩
          · rintro ⟨tokens, same, rfl⟩
            obtain ⟨own', tokens, rfl, here, rest⟩ := List.map_eq_cons_iff.mp same.symm
            cases here
            exact ⟨tokens.flatten, ih.mpr ⟨tokens, rest.symm, rfl⟩, rfl⟩

/-- Lines fail at the first of them that cannot be split, and those behind it do not
matter. -/
theorem wordsOfLines_eq_error_iff {lines : List String} {f : Failure} :
    wordsOfLines (lines.map String.toList) = .error f ↔
      ∃ before line after e, lines = before ++ line :: after ∧
        (∀ l ∈ before, ∃ tokens, tokenize l = .ok tokens) ∧
        tokenize line = .error e ∧ f = .malformedLine line e.message := by
  induction lines with
  | nil =>
      refine ⟨nofun, ?_⟩
      rintro ⟨before, line, after, e, impossible, -⟩
      exact absurd impossible.symm (List.append_ne_nil_of_right_ne_nil _ (List.cons_ne_nil _ _))
  | cons first lines ih =>
      rw [List.map_cons, wordsOfLines_cons]
      cases read : tokenize first with
      | error e =>
          constructor
          · intro failed
            cases failed
            exact ⟨[], first, lines, e, rfl, nofun, read, rfl⟩
          · rintro ⟨before, line, after, e', same, fine, failed, rfl⟩
            cases before with
            | nil =>
                cases same
                cases read.symm.trans failed
                rfl
            | cons l before =>
                cases same
                obtain ⟨tokens, well⟩ := fine first List.mem_cons_self
                cases read.symm.trans well
      | ok own =>
          have rest : (wordsOfLines (lines.map String.toList)).map (own ++ ·) = .error f ↔
              wordsOfLines (lines.map String.toList) = .error f := by
            cases wordsOfLines (lines.map String.toList) <;> simp [Except.map]
          rw [rest, ih]
          constructor
          · rintro ⟨before, line, after, e, rfl, fine, failed⟩
            exact ⟨first :: before, line, after, e, rfl,
              List.forall_mem_cons.mpr ⟨⟨own, read⟩, fine⟩, failed⟩
          · rintro ⟨before, line, after, e, same, fine, failed, rfl⟩
            cases before with
            | nil =>
                cases same
                cases read.symm.trans failed
            | cons l before =>
                cases same
                exact ⟨before, line, after, e, rfl, (List.forall_mem_cons.mp fine).2, failed,
                  rfl⟩

/-- An empty line has no words. -/
theorem wordsOfLines_append_empty (lines : List String) :
    wordsOfLines ((lines ++ [""]).map String.toList) =
      wordsOfLines (lines.map String.toList) := by
  induction lines with
  | nil => rfl
  | cons line lines ih =>
      rw [List.cons_append, List.map_cons, List.map_cons, wordsOfLines_cons, wordsOfLines_cons,
        ih]

/-! ### Files -/

/-- The text of a file with these lines, each with its ending, and perhaps a last one
without. -/
def ofLines (lines : List (String × LineEnd)) (last : Option String) : String :=
  String.ofList (Lines.write (lines.map fun l => (l.1.toList, l.2)) (last.map String.toList))

/-- A file is cut into its lines. What stands behind the last ending counts as a line even
if it is empty, since an empty line has no words. -/
theorem wordsOfText_ofLines {lines : List (String × LineEnd)} {last : Option String}
    (whole : ∀ l ∈ lines, Lines.Whole l.1.toList) (unfed : ∀ l ∈ last, '\n' ∉ l.toList) :
    wordsOfText (ofLines lines last) =
      wordsOfLines ((lines.map Prod.fst ++ last.toList).map String.toList) := by
  have wholeLines : ∀ l ∈ lines.map fun l => (l.1.toList, l.2), Lines.Whole l.1 :=
    List.forall_mem_map.mpr whole
  have ended : linesOf (Lines.write (lines.map fun l => (l.1.toList, l.2)) none) =
      (lines.map Prod.fst).map String.toList := by
    rw [Lines.linesOf_write wholeLines (by simp)]
    simp
  rw [wordsOfText, ofLines, String.toList_ofList]
  by_cases empty : last = some ""
  · subst empty
    have nothing : Lines.write (lines.map fun l => (l.1.toList, l.2))
        ((some "").map String.toList) =
          Lines.write (lines.map fun l => (l.1.toList, l.2)) none := by
      clear wholeLines ended whole
      induction lines with
      | nil => rfl
      | cons l lines ih => rw [List.map_cons, Lines.write, Lines.write, ih]
    rw [nothing, ended]
    exact (wordsOfLines_append_empty _).symm
  · congr 1
    rw [Lines.linesOf_write wholeLines]
    · cases last <;> simp
    · intro l mem
      obtain ⟨text, there, rfl⟩ := Option.map_eq_some_iff.mp mem
      refine ⟨unfed text there, fun nothing => empty ?_⟩
      rw [there, String.toList_eq_nil_iff.mp nothing]

end ArgumentFile

/-- A file that holds a text has the words of this text. -/
theorem World.readArguments_of_held {w : World} {path : Path} {content : String}
    (held : w.files.read w.directory path = .ok (Utf8.encode content)) :
    w.readArguments path = ArgumentFile.wordsOfText content := by
  rw [readArguments, FileSystem.readText, held]
  simp only [Utf8.decode?_encode]

/-- **An argument file is read line by line.** Let the file at `path` have certain lines,
each ended by a line feed with or without a carriage return before it, and perhaps a last one
without an ending; no line holds a line feed or ends with a carriage return itself. Then
what is read is the words of each line, one line after another, if all of them can be split;
and otherwise it is the failure of the first line that cannot, with just this line and the
reason for which splitting it fails.

So a quotation or an escape that a line leaves open makes the file fail and does not go on
in the next line. And a comment at the end of a line leaves the words before it and those of
all other lines as they are. -/
theorem arguments_read_line_by_line (w : World) (path : Path)
    (lines : List (String × LineEnd)) (last : Option String)
    (held : w.files.read w.directory path =
      .ok (Utf8.encode (ArgumentFile.ofLines lines last)))
    (whole : ∀ l ∈ lines.map Prod.fst ++ last.toList,
      '\n' ∉ l.toList ∧ l.toList.getLast? ≠ some '\r') :
    let all := lines.map Prod.fst ++ last.toList
    (∀ words, w.readArguments path = .ok words ↔
        ∃ tokens : List (List String),
          all.map tokenize = tokens.map .ok ∧ words = tokens.flatten) ∧
      (∀ f, w.readArguments path = .error f ↔
        ∃ before line after e, all = before ++ line :: after ∧
          (∀ l ∈ before, ∃ tokens, tokenize l = .ok tokens) ∧
          splitWords line = .error e ∧ f = .malformedLine line e.message) ∧
      (∀ line ∈ all, EndsInQuotation line.toList ∨ EndsInEscape line.toList →
        ∀ words, w.readArguments path ≠ .ok words) ∧
      ∀ before text comment after words, all = before ++ (text ++ " #" ++ comment) :: after →
        (∃ found, splitWords text = .ok found) → w.readArguments path = .ok words →
        ∃ (front : List (List String)) (own : List String) (back : List (List String)),
          before.map tokenize = front.map .ok ∧ tokenize text = .ok own ∧
            after.map tokenize = back.map .ok ∧
            words = front.flatten ++ own ++ back.flatten := by
  intro all
  have cut : ArgumentFile.wordsOfText (ArgumentFile.ofLines lines last) =
      ArgumentFile.wordsOfLines (all.map String.toList) := by
    refine ArgumentFile.wordsOfText_ofLines (fun l mem => ?_) fun l mem => ?_
    · obtain ⟨unfed, unreturned⟩ :=
        whole l.1 (List.mem_append_left _ (List.mem_map_of_mem mem))
      exact ⟨unfed, unreturned⟩
    · exact (whole l (List.mem_append_right _ (Option.mem_toList.mpr mem))).1
  rw [World.readArguments_of_held held, cut]
  clear_value all
  have well (words : List String) :
      ArgumentFile.wordsOfLines (all.map String.toList) = .ok words ↔
        ∃ tokens : List (List String), all.map tokenize = tokens.map .ok ∧ words = tokens.flatten :=
    ArgumentFile.wordsOfLines_eq_ok_iff
  refine ⟨well, fun f => ?_, ?_, ?_⟩
  · simp only [← tokenize_eq_error_iff]
    exact ArgumentFile.wordsOfLines_eq_error_iff
  · intro line mem breaksOff words fine
    obtain ⟨tokens, same, -⟩ := (well words).mp fine
    obtain ⟨e, failed⟩ := exists_tokenize_error breaksOff
    have there : tokenize line ∈ tokens.map Except.ok := same ▸ List.mem_map_of_mem mem
    obtain ⟨_, -, found⟩ := List.mem_map.mp there
    cases found.trans failed
  · rintro before text comment after words rfl ⟨found, split⟩ fine
    obtain ⟨tokens, same, rfl⟩ := (well words).mp fine
    rw [List.map_append, List.map_cons] at same
    obtain ⟨front, rest, rfl, ahead, behind⟩ := List.map_eq_append_iff.mp same.symm
    obtain ⟨own, back, rfl, here, later⟩ := List.map_eq_cons_iff.mp behind
    rw [tokenize_append_comment split] at here
    obtain ⟨_, -, kept⟩ := bind_eq_ok_iff.mp here.symm
    exact ⟨front, own, back, ahead.symm, kept, later.symm, by simp⟩

/-- A file with both endings, an empty line, a comment and an escape before the end has the
words of its lines. In another one a quotation is not closed on its line. The next line
would close it, and yet this line is the one that fails. -/
theorem arguments_read_line_by_line_of_quotation :
    let holding (lines : List (String × LineEnd)) (last : Option String) : World :=
      { files := ⟨[([Path.ofString "args"],
          .file (Utf8.encode (ArgumentFile.ofLines lines last)) false)]⟩
        directory := []
        environment := ⟨[]⟩ }
    let whole := holding [("a 'b c' # it", .returnAndFeed), ("", .feed)] (some "d\\ e")
    let broken := holding [("x", .feed), ("it's", .returnAndFeed), ("' y", .feed)] none
    whole.readArguments (Path.ofString "args") = .ok ["a", "b c", "d e"] ∧
      broken.readArguments (Path.ofString "args") =
        .error (.malformedLine "it's" "No closing quotation") := by
  intro holding whole broken
  obtain ⟨well, -⟩ := arguments_read_line_by_line whole (Path.ofString "args")
    [("a 'b c' # it", .returnAndFeed), ("", .feed)] (some "d\\ e") rfl (by decide)
  obtain ⟨-, failed, -⟩ := arguments_read_line_by_line broken (Path.ofString "args")
    [("x", .feed), ("it's", .returnAndFeed), ("' y", .feed)] none rfl (by decide)
  refine ⟨(well _).mpr ⟨[["a", "b c"], [], ["d e"]], rfl, rfl⟩, (failed _).mpr ?_⟩
  refine ⟨["x"], "it's", ["' y"], .openQuotation, rfl, ?_, rfl, rfl⟩
  exact List.forall_mem_singleton.mpr ⟨["x"], rfl⟩

end ExitContract
