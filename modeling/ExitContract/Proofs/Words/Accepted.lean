import ExitContract.Proofs.Words.UniqueReading

/-!
# Reading accepts the grammar of words

A text is a row of words just if the grammar says so, and then reading it gives what its
words stand for. Every other text breaks off in one of two ways, and reading it says in
which.

The reader goes through a text character by character, in one of six modes. Of these
only two are seen from outside a fragment: it stands between words or in one. So every
part of the grammar is described here by what it does to a reader in these two, with the
rest of the text and the characters of the word so far left open: a fragment adds what
it stands for to the word, a gap ends the word, and an unfinished fragment is an error
in both. What follows about whole texts needs no induction over characters any more.

The two errors cannot be told from the last character alone: a backslash at the end of a
text is a dangling escape outside quotes and in double quotes, an escaped backslash
after another one, and a plain character in single quotes.

## Main definitions

* `Words.Reading.result` — what a reading comes to

## Main statements

* `Words.splitChars_spelled` — reading a text gives what its reading comes to
* `Words.splitChars_eq_ok_iff`, `Words.splitChars_eq_danglingEscape_iff`,
  `Words.splitChars_eq_openQuotation_iff` — the three kinds of text
* `splitWords_grammar` — all of it together
-/

namespace ExitContract

namespace Words

/-! ### What reading gives -/

/-- What an unfinished fragment is reported as. -/
def Unfinished.error : Unfinished → SplitError
  | .escape | .doubleEscape _ => .danglingEscape
  | .single _ | .double _ => .openQuotation

/-- What a reading comes to. -/
def Reading.result (r : Reading) : Except SplitError (List (List Char)) :=
  match r.left with
  | none => .ok r.row.values
  | some u => .error u.error

section

variable (word rest : List Char)

/-- The inside of single quotes is read as it stands. -/
theorem scan_single (body : List Literal) :
    scan .single word (body.flatMap letter ++ rest) =
      scan .single ((body.flatMap letter).reverse ++ word) rest := by
  induction body generalizing word with
  | nil => rfl
  | cons c body ih =>
      show scan .single word (c.val :: (body.flatMap letter ++ rest)) = _
      rw [scan, if_neg c.property, ih]
      simp [letter]

/-- The inside of double quotes is read as what it stands for. -/
theorem scan_double (body : List Quoted) :
    scan .double word (body.flatMap Quoted.spelled ++ rest) =
      scan .double ((body.flatMap Quoted.value).reverse ++ word) rest := by
  induction body generalizing word with
  | nil => rfl
  | cons q body ih =>
      rw [List.flatMap_cons, List.flatMap_cons, List.append_assoc, List.reverse_append,
        List.append_assoc, ← ih]
      cases q with
      | plain c unquoted unescaped =>
          show scan .double word (c :: _) = _
          rw [scan, if_neg unquoted, if_neg unescaped]
          rfl
      | pair c =>
          show scan .doubleEscaped word (c :: _) = _
          rw [scan, Quoted.value]
          split <;> rfl

/-- A fragment adds what it stands for to the word. -/
theorem scan_fragment (f : Fragment) :
    scan .bare word (f.spelled ++ rest) = scan .bare (f.value.reverse ++ word) rest := by
  cases f with
  | bare c h =>
      show scan .bare word (c :: rest) = _
      rw [scan, h.inWord, stepBare, if_neg h.unquoted, if_neg h.undoubled,
        if_neg h.unescaped]
      rfl
  | escaped c => rfl
  | single body =>
      show scan .single word (body.flatMap letter ++ ['\''] ++ rest) = _
      rw [List.append_assoc, scan_single]
      rfl
  | double body =>
      show scan .double word (body.flatMap Quoted.spelled ++ ['"'] ++ rest) = _
      rw [List.append_assoc, scan_double]
      rfl

theorem scan_fragments (fs : List Fragment) :
    scan .bare word (fs.flatMap Fragment.spelled ++ rest) =
      scan .bare ((fs.flatMap Fragment.value).reverse ++ word) rest := by
  induction fs generalizing word with
  | nil => rfl
  | cons f fs ih =>
      rw [List.flatMap_cons, List.append_assoc, scan_fragment, ih]
      simp

/-- Between words, a character of a word is read as in an empty one. -/
theorem scan_between_of_startsInWord {cs : List Char} (h : StartsInWord cs) :
    scan .between word cs = scan .bare [] cs := by
  obtain ⟨c, rest, rfl, inWord⟩ := h
  rw [scan, scan, inWord]
  simp

/-- A word is read as what it stands for. -/
theorem scan_word (w : Word) :
    scan .between word (w.spelled ++ rest) = scan .bare w.value.reverse rest := by
  rw [scan_between_of_startsInWord _ (w.startsInWord.append rest), Word.spelled,
    scan_fragments, List.append_nil]
  rfl

/-- Between words it does not matter what was read before. -/
theorem scan_between (cs : List Char) : scan .between word cs = scan .between [] cs := by
  cases cs <;> rfl

theorem scan_separators (cs : List Separator) :
    scan .between word (cs.flatMap letter ++ rest) = scan .between [] rest := by
  induction cs generalizing word with
  | nil => exact scan_between word rest
  | cons c cs ih =>
      show scan .between word (c.val :: (cs.flatMap letter ++ rest)) = _
      rw [scan, if_pos c.property, ih]

/-- A gap ends a word. -/
theorem scan_gap (g : Gap) :
    scan .bare word (g.spelled ++ rest) =
      (scan .between [] rest).map (word.reverse :: ·) := by
  show scan .bare word (g.first.val :: (g.rest.flatMap letter ++ rest)) = _
  rw [scan, if_pos g.first.property, scan_separators]

/-- Words with gaps after them are read before the rest. -/
theorem scan_pairs (ps : List (Word × Gap)) :
    scan .between word (ps.flatMap Row.spellPair ++ rest) =
      (scan .between [] rest).map (ps.map (fun p => p.1.value) ++ ·) := by
  induction ps generalizing word with
  | nil =>
      rw [List.flatMap_nil, List.nil_append, scan_between]
      cases scan .between [] rest <;> rfl
  | cons p ps ih =>
      rw [List.flatMap_cons, Row.spellPair, List.append_assoc, List.append_assoc,
        scan_word, scan_gap, ih, List.reverse_reverse]
      cases scan .between [] rest <;> rfl

/-- Inside an unfinished fragment reading fails, and says how. -/
theorem scan_unfinished (u : Unfinished) : scan .bare word u.spelled = .error u.error := by
  cases u with
  | escape => rfl
  | single body =>
      have read := scan_single word [] body
      rw [List.append_nil] at read
      exact read
  | double body =>
      have read := scan_double word [] body
      rw [List.append_nil] at read
      exact read
  | doubleEscape body =>
      show scan .double word (body.flatMap Quoted.spelled ++ ['\\']) = _
      rw [scan_double]
      rfl

end

/-- Reading what stands at the end of a text. -/
theorem scan_endText (last : Option Word) (left : Option Unfinished) :
    scan .between [] (endText last left) =
      Reading.result ⟨⟨[], [], last⟩, left⟩ := by
  cases last with
  | none =>
      rw [endText_none]
      cases left with
      | none => rfl
      | some u =>
          show scan .between [] (u.spelled ++ []) = _
          rw [List.append_nil, scan_between_of_startsInWord _ u.startsInWord,
            scan_unfinished]
          rfl
  | some w =>
      rw [endText_some, scan_word]
      cases left with
      | none =>
          show scan .bare w.value.reverse [] = _
          rw [scan, List.reverse_reverse]
          rfl
      | some u =>
          show scan .bare w.value.reverse (u.spelled ++ []) = _
          rw [List.append_nil, scan_unfinished]
          rfl

/-- **Reading a text gives the values of its words**, or says what is unfinished. -/
theorem splitChars_spelled (r : Reading) : splitChars r.spelled = r.result := by
  rw [splitChars, r.spelled_eq, scan_separators, scan_pairs, scan_endText]
  cases h : r.left <;> simp [Reading.result, h, Except.map, Row.values]

/-! ### The three kinds of text -/

section

variable {cs : List Char}

/-- What reading a text gives is what its reading comes to. -/
theorem splitChars_eq_iff {result : Except SplitError (List (List Char))} :
    splitChars cs = result ↔ ∃ r : Reading, r.spelled = cs ∧ r.result = result := by
  constructor
  · rintro rfl
    obtain ⟨r, rfl⟩ := exists_reading cs
    exact ⟨r, rfl, (splitChars_spelled r).symm⟩
  · rintro ⟨r, rfl, rfl⟩
    exact splitChars_spelled r

/-- The rows are the texts that have words. -/
theorem splitChars_eq_ok_iff {words : List (List Char)} :
    splitChars cs = .ok words ↔ ∃ row : Row, row.spelled = cs ∧ row.values = words := by
  rw [splitChars_eq_iff]
  constructor
  · rintro ⟨⟨row, left⟩, spelled, result⟩
    cases left with
    | none => exact ⟨row, by simpa using spelled, Except.ok.inj result⟩
    | some u => cases result
  · rintro ⟨row, spelled, rfl⟩
    exact ⟨⟨row, none⟩, by simpa using spelled, rfl⟩

/-- The texts that end in an escape are those that lack its character. -/
theorem splitChars_eq_danglingEscape_iff :
    splitChars cs = .error .danglingEscape ↔ EndsInEscape cs := by
  rw [splitChars_eq_iff]
  constructor
  · rintro ⟨⟨row, left⟩, spelled, result⟩
    rcases left with _ | (_ | _ | _ | body) <;> cases result
    · exact ⟨row, .inl (by simpa using spelled)⟩
    · exact ⟨row, .inr ⟨body, by simpa using spelled⟩⟩
  · rintro ⟨row, spelled | ⟨body, spelled⟩⟩
    · exact ⟨⟨row, some .escape⟩, by simpa using spelled, rfl⟩
    · exact ⟨⟨row, some (.doubleEscape body)⟩, by simpa using spelled,
        rfl⟩

/-- The texts that end in a quotation are those that lack its end. -/
theorem splitChars_eq_openQuotation_iff :
    splitChars cs = .error .openQuotation ↔ EndsInQuotation cs := by
  rw [splitChars_eq_iff]
  constructor
  · rintro ⟨⟨row, left⟩, spelled, result⟩
    rcases left with _ | (_ | body | body | _) <;> cases result
    · exact ⟨row, .inl ⟨body, by simpa using spelled⟩⟩
    · exact ⟨row, .inr ⟨body, by simpa using spelled⟩⟩
  · rintro ⟨row, ⟨body, spelled⟩ | ⟨body, spelled⟩⟩
    · exact ⟨⟨row, some (.single body)⟩, by simpa using spelled, rfl⟩
    · exact ⟨⟨row, some (.double body)⟩, by simpa using spelled, rfl⟩

/-- A text is at most one row. -/
theorem Row.eq_of_spelled {row row' : Row} (same : row.spelled = row'.spelled) :
    row = row' := by
  have readings : (⟨row, none⟩ : Reading) = ⟨row', none⟩ := by
    apply Reading.eq_of_spelled
    simpa using same
  exact congrArg Reading.row readings

end

end Words

open Words (Row EndsInEscape EndsInQuotation)

/-- **Reading accepts exactly the rows of words.** A text is of one of three kinds, and
of one only. It is a row in exactly one way, and then its words are what the words of
the row stand for; or it ends right after a backslash that starts an escape; or it ends
inside a quotation and not so. Of the last two each is reported in its own words. -/
theorem splitWords_grammar (text : String) :
    (∃ row : Row, row.spelled = text.toList ∧
        (∀ row' : Row, row'.spelled = text.toList → row' = row) ∧
        ¬ EndsInEscape text.toList ∧ ¬ EndsInQuotation text.toList ∧
        splitWords text = .ok (row.values.map String.ofList)) ∨
      ((∀ row : Row, row.spelled ≠ text.toList) ∧
        EndsInEscape text.toList ∧ ¬ EndsInQuotation text.toList ∧
        (splitWords text).mapError SplitError.message = .error "No escaped character") ∨
      ((∀ row : Row, row.spelled ≠ text.toList) ∧
        ¬ EndsInEscape text.toList ∧ EndsInQuotation text.toList ∧
        (splitWords text).mapError SplitError.message = .error "No closing quotation") := by
  rw [← Words.splitChars_eq_danglingEscape_iff, ← Words.splitChars_eq_openQuotation_iff,
    splitWords]
  -- a row would have words, which a text that breaks off has not
  have unrowed {e : SplitError} (fails : Words.splitChars text.toList = .error e)
      (row : Row) : row.spelled ≠ text.toList := by
    intro spelled
    have reads := Words.splitChars_eq_ok_iff.mpr ⟨row, spelled, rfl⟩
    rw [fails] at reads
    cases reads
  cases result : Words.splitChars text.toList with
  | ok words =>
      obtain ⟨row, spelled, rfl⟩ := Words.splitChars_eq_ok_iff.mp result
      refine .inl ⟨row, spelled, ?_, nofun, nofun, rfl⟩
      intro row' spelled'
      exact Row.eq_of_spelled (spelled'.trans spelled.symm)
  | error e =>
      cases e with
      | danglingEscape => exact .inr (.inl ⟨unrowed result, rfl, nofun, rfl⟩)
      | openQuotation => exact .inr (.inr ⟨unrowed result, nofun, rfl, rfl⟩)

/-- Only in double quotes does a backslash at the end start an escape. -/
example : splitWords "'a\\" = .error .openQuotation ∧
    splitWords "\"a\\" = .error .danglingEscape := ⟨rfl, rfl⟩

end ExitContract
