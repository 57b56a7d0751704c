import ExitContract.Log.Record
import ExitContract.Proofs.Words.Accepted

/-!
# Comments

What the text of a comment does to the line that it stands in.

A line is first split into words as a whole, and only then does the first word that
starts with `#` end it. So a comment is split like everything else. Its words are thrown
away, whatever they are, but it has to have words: a comment that opens a quotation and
does not close it, or ends in a backslash, makes the whole line one that cannot be split.

**Two steps.** A separator after a row of words starts afresh, so the line is split into
the words before the comment and those of the comment (`Words.splitChars_append_separator`).
And a word that has begun keeps its first character, so the first word of the comment
starts with `#` and nothing from there on counts (`Words.significant_append_comment`).

## Main statements

* `tokenize_append_comment` — a line with a comment is a line without it, if the
  comment can be split
* `comment_ignored_iff` — when a comment is ignored, and what happens if it is not
-/

namespace ExitContract

namespace Words

/-! ### A line and its comment -/

/-- After a row of words a separator starts afresh. -/
theorem splitChars_append_separator (row : Row) (c : Separator) (rest : List Char) :
    splitChars (row.spelled ++ c.val :: rest) = (splitChars rest).map (row.values ++ ·) := by
  obtain ⟨lead, words, last⟩ := row
  have afresh : scan .between [] (last.toList.flatMap Word.spelled ++ c.val :: rest) =
      (splitChars rest).map (last.toList.map Word.value ++ ·) := by
    cases last with
    | none =>
        show scan .between [] (c.val :: rest) = _
        rw [scan, if_pos c.property, splitChars]
        cases scan .between [] rest <;> rfl
    | some w =>
        show scan .between [] (w.spelled ++ [] ++ c.val :: rest) = _
        rw [List.append_nil, scan_word, scan, if_pos c.property, List.reverse_reverse]
        rfl
  rw [Row.spelled, List.append_assoc, List.append_assoc, splitChars, scan_separators,
    scan_pairs, afresh]
  cases splitChars rest <;> simp [Except.map, Row.values]

/-- A word that is spelled with a marker in front stands for a text that starts with
it. -/
theorem Word.value_of_marked {w : Word} {rest tail : List Char}
    (spelled : w.spelled ++ tail = commentMarker :: rest) :
    ∃ text, w.value = commentMarker :: text := by
  obtain ⟨first, others⟩ := w
  cases first with
  | bare c =>
      have same : c = commentMarker := (List.cons.inj spelled).1
      exact ⟨_, congrArg (· :: _) same⟩
  | escaped | single | double =>
      -- each of these is spelled with a mark of its own in front
      have impossible := (List.cons.inj spelled).1
      exact absurd impossible (by decide)

/-- The first word of a comment starts with its marker. -/
theorem splitChars_comment {rest : List Char} {words : List (List Char)}
    (read : splitChars (commentMarker :: rest) = .ok words) :
    ∃ text others, words = (commentMarker :: text) :: others := by
  obtain ⟨⟨lead, pairs, last⟩, spelled, rfl⟩ := splitChars_eq_ok_iff.mp read
  cases lead with
  | cons c lead =>
      have same : c.val = commentMarker := (List.cons.inj spelled).1
      have separates := c.property
      rw [same] at separates
      exact absurd separates (by decide)
  | nil =>
      cases pairs with
      | cons p pairs =>
          rw [Row.spelled, List.flatMap_nil, List.nil_append, List.flatMap_cons,
            Row.spellPair, List.append_assoc, List.append_assoc] at spelled
          obtain ⟨text, value⟩ := Word.value_of_marked spelled
          exact ⟨text, _, congrArg (· :: _) value⟩
      | nil =>
          cases last with
          | none => cases spelled
          | some w =>
              obtain ⟨text, value⟩ := Word.value_of_marked (w := w) spelled
              exact ⟨text, [], congrArg ([·]) value⟩

/-- Nothing counts from the first word on that starts a comment. -/
theorem significant_append_comment (words others : List String) {first : String}
    (marked : startsComment first = true) :
    significant (words ++ first :: others) = significant words := by
  have cut : (words ++ first :: others).takeWhile (fun w => !startsComment w) =
      words.takeWhile fun w => !startsComment w := by
    induction words with
    | nil => simp [marked]
    | cons w words ih => simp [List.takeWhile_cons, ih]
  rw [significant, cut, significant]

/-- A text without quotes and backslashes is a row of words. -/
theorem exists_row_of_unmarked {cs : List Char}
    (unmarked : ∀ c ∈ cs, c ≠ '\'' ∧ c ≠ '"' ∧ c ≠ '\\') : ∃ row : Row, row.spelled = cs := by
  obtain ⟨⟨row, left⟩, rfl⟩ := exists_reading cs
  cases left with
  | none => exact ⟨row, (Reading.spelled_finished row).symm⟩
  | some u =>
      -- whatever is unfinished has begun with one of the three
      have marked : ∃ c ∈ u.spelled, ¬ (c ≠ '\'' ∧ c ≠ '"' ∧ c ≠ '\\') := by
        cases u <;> exact ⟨_, List.mem_cons_self, by decide⟩
      obtain ⟨c, mem, mark⟩ := marked
      rw [Reading.spelled_unfinished] at unmarked
      exact absurd (unmarked c (List.mem_append_right _ mem)) mark

end Words

open Words (Row Separator EndsInEscape EndsInQuotation commentMarker)

/-- What becomes of a line when a comment is put after it. -/
theorem tokenize_append_comment {text : String} {words : List String}
    (read : splitWords text = .ok words) (rest : String) :
    tokenize (text ++ " #" ++ rest) =
      (splitWords ("#" ++ rest)).bind fun _ => tokenize text := by
  obtain ⟨chars, chars_read, rfl⟩ := map_eq_ok_iff.mp read
  obtain ⟨row, spelled, rfl⟩ := Words.splitChars_eq_ok_iff.mp chars_read
  have line : (text ++ " #" ++ rest).toList =
      row.spelled ++ ' ' :: commentMarker :: rest.toList := by
    simp [spelled, commentMarker]
  have comment : ("#" ++ rest).toList = commentMarker :: rest.toList := by
    simp [commentMarker]
  let gap : Separator := ⟨' ', by decide⟩
  have both := Words.splitChars_append_separator row gap (commentMarker :: rest.toList)
  rw [tokenize, tokenize, read, splitWords, line, both, splitWords, comment]
  cases result : Words.splitChars (commentMarker :: rest.toList) with
  | error e => rfl
  | ok found =>
      obtain ⟨marked, others, rfl⟩ := Words.splitChars_comment result
      have starts : Words.startsComment (String.ofList (commentMarker :: marked)) = true := by
        simp [Words.startsComment]
      show Except.ok (Words.significant _) = Except.ok (Words.significant _)
      rw [List.map_append, List.map_cons, Words.significant_append_comment _ _ starts]

/-- **When a comment is ignored.** Put a comment after a line that can be split into
words. The words that count are those of the line without the comment, if and only if the
comment can be split into words as well, whatever these are. It can be if it has neither
quotes nor backslashes. If it ends in an escape, or inside a quotation, then the whole
line cannot be split for that reason, although the words that count are all there. -/
theorem comment_ignored_iff (text rest : String)
    (splits : ∃ words, splitWords text = .ok words) :
    let line := text ++ " #" ++ rest
    let comment := ("#" ++ rest).toList
    (tokenize line = tokenize text ↔ ∃ row : Row, row.spelled = comment) ∧
      ((∀ c ∈ rest.toList, c ≠ '\'' ∧ c ≠ '"' ∧ c ≠ '\\') → tokenize line = tokenize text) ∧
      (EndsInEscape comment → tokenize line = .error .danglingEscape) ∧
      (EndsInQuotation comment → tokenize line = .error .openQuotation) := by
  intro line comment
  obtain ⟨words, read⟩ := splits
  have whole : tokenize line = (splitWords ("#" ++ rest)).bind fun _ => tokenize text :=
    tokenize_append_comment read rest
  have ignored : tokenize line = tokenize text ↔ ∃ row : Row, row.spelled = comment := by
    have counts : tokenize text = .ok (Words.significant words) := by
      rw [tokenize, read]
      rfl
    rw [whole, counts, bind_eq_ok_iff]
    constructor
    · rintro ⟨_, split, -⟩
      obtain ⟨_, chars, -⟩ := map_eq_ok_iff.mp split
      obtain ⟨row, spelled, -⟩ := Words.splitChars_eq_ok_iff.mp chars
      exact ⟨row, spelled⟩
    · rintro ⟨row, spelled⟩
      have chars := Words.splitChars_eq_ok_iff.mpr ⟨row, spelled, rfl⟩
      exact ⟨_, map_eq_ok_iff.mpr ⟨_, chars, rfl⟩, rfl⟩
  refine ⟨ignored, ?_, ?_, ?_⟩
  · intro unmarked
    apply ignored.mpr
    apply Words.exists_row_of_unmarked
    intro c mem
    have cases : c = '#' ∨ c ∈ rest.toList := by simpa [comment] using mem
    rcases cases with rfl | mem
    · decide
    · exact unmarked c mem
  · intro ends
    have fails := Words.splitChars_eq_danglingEscape_iff.mpr ends
    rw [whole, splitWords, fails]
    rfl
  · intro ends
    have fails := Words.splitChars_eq_openQuotation_iff.mpr ends
    rw [whole, splitWords, fails]
    rfl

/-- A comment that quotes something is ignored, and so is one that has nothing to quote.
One that ends in a backslash or with an apostrophe loses the line. -/
theorem comment_ignored_iff_of_limit :
    splitWords "-t 30" = .ok ["-t", "30"] ∧
      tokenize ("-t 30" ++ " #" ++ " in \"s\"") = .ok ["-t", "30"] ∧
      tokenize ("-t 30" ++ " #" ++ " seconds # at most") = .ok ["-t", "30"] ∧
      tokenize ("-t 30" ++ " #" ++ " C:\\") = .error .danglingEscape ∧
      tokenize ("-t 30" ++ " #" ++ " it's enough") = .error .openQuotation := by
  have read : splitWords "-t 30" = .ok ["-t", "30"] := by rfl
  have counts : tokenize "-t 30" = .ok ["-t", "30"] := by rfl
  obtain ⟨iff, -⟩ := comment_ignored_iff "-t 30" " in \"s\"" ⟨_, read⟩
  obtain ⟨-, plain, -⟩ := comment_ignored_iff "-t 30" " seconds # at most" ⟨_, read⟩
  obtain ⟨-, -, escape, -⟩ := comment_ignored_iff "-t 30" " C:\\" ⟨_, read⟩
  obtain ⟨-, -, -, quotation⟩ := comment_ignored_iff "-t 30" " it's enough" ⟨_, read⟩
  have quoted : Words.splitChars ("#" ++ " in \"s\"").toList =
      .ok ["#".toList, "in".toList, "s".toList] := by rfl
  have dangling : Words.splitChars ("#" ++ " C:\\").toList = .error .danglingEscape := by rfl
  have unclosed : Words.splitChars ("#" ++ " it's enough").toList =
      .error .openQuotation := by rfl
  obtain ⟨row, spelled, -⟩ := Words.splitChars_eq_ok_iff.mp quoted
  refine ⟨read, ?_, ?_, ?_, ?_⟩
  · rw [iff.mpr ⟨row, spelled⟩, counts]
  · rw [plain (by simp), counts]
  · exact escape (Words.splitChars_eq_danglingEscape_iff.mp dangling)
  · exact quotation (Words.splitChars_eq_openQuotation_iff.mp unclosed)

/-- An apostrophe in a comment makes the line before it one that cannot be split. -/
theorem line_lost_by_comment :
    splitWords "a" = .ok ["a"] ∧ tokenize "a" = .ok ["a"] ∧
      '\n' ∉ " it's".toList ∧ tokenize ("a" ++ " #" ++ " it's") = .error .openQuotation ∧
      tokenize ("a" ++ " #" ++ " it's") ≠ tokenize "a" := by
  have lost : tokenize ("a" ++ " #" ++ " it's") = .error .openQuotation := by rfl
  have kept : tokenize "a" = .ok ["a"] := by rfl
  refine ⟨by rfl, kept, by decide, lost, ?_⟩
  rw [lost, kept]
  nofun

end ExitContract
