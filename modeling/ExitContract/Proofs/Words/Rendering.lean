import ExitContract.Command

/-!
# Written commands are read back

The written form of a command is one line of words, and reading that line gives
the words of the command back, whatever characters they hold.

Writing decides once for each word: a word is bare if all of its characters are
plain, else it stands in single quotes. Reading decides at each character, by
the mode in which it stands. The two meet in what is said here of each decision:

* a plain character is read outside quotes as itself, so a bare word leaves the
  reader in the word that it spells;
* between single quotes every character but the quote is read as itself, and a
  quote is written as four characters that close the quotation, stand for a
  quote, and open it again.

Both ways the reader ends outside quotes with the word's characters in hand, so
the space after a word ends exactly that word.

## Main statements

* `Words.scan_renderToken` — reading one written word
* `Words.splitChars_renderTokens` — reading a row of written words
* `splitWords_render` — reading a written command, and that no two commands are
  written alike
-/

namespace ExitContract

namespace Words

open Command (isPlain quoteBody renderToken renderTokens)

/-! ### Bare words -/

/-- A plain character is none of those that the reader treats in its own way. -/
theorem ne_of_isPlain {c d : Char} (plain : isPlain c = true)
    (special : isPlain d = false) : c ≠ d := by
  rintro rfl
  rw [plain] at special
  cases special

/-- A plain character separates no words. -/
theorem isSeparator_of_isPlain {c : Char} (plain : isPlain c = true) :
    isSeparator c = false := by
  have hspace : c ≠ ' ' := ne_of_isPlain plain (by decide)
  have htab : c ≠ '\t' := ne_of_isPlain plain (by decide)
  have hreturn : c ≠ '\r' := ne_of_isPlain plain (by decide)
  have hfeed : c ≠ '\n' := ne_of_isPlain plain (by decide)
  simp [isSeparator, hspace, htab, hreturn, hfeed]

/-- A plain character outside quotes stands for itself. -/
theorem stepBare_of_isPlain {c : Char} (plain : isPlain c = true) :
    stepBare c = (.bare, [c]) := by
  have hsingle : c ≠ '\'' := ne_of_isPlain plain (by decide)
  have hdouble : c ≠ '"' := ne_of_isPlain plain (by decide)
  have hescape : c ≠ '\\' := ne_of_isPlain plain (by decide)
  rw [stepBare, if_neg hsingle, if_neg hdouble, if_neg hescape]

/-- Plain characters in a word are added to it. -/
theorem scan_bare_plain (cs rest : List Char) (word : List Char)
    (plain : cs.all isPlain = true) :
    scan .bare word (cs ++ rest) = scan .bare (cs.reverse ++ word) rest := by
  induction cs generalizing word with
  | nil => rfl
  | cons c cs ih =>
      rw [List.all_cons, Bool.and_eq_true] at plain
      rw [List.cons_append, scan, isSeparator_of_isPlain plain.1,
        stepBare_of_isPlain plain.1]
      simp only [Bool.false_eq_true, if_false, List.singleton_append]
      rw [ih (c :: word) plain.2, List.reverse_cons, List.append_assoc,
        List.singleton_append]

/-! ### Quoted words -/

/-- The inside of a quotation and the quote after it add the word's characters
to the one being read, and leave the reader outside quotes. -/
theorem scan_single_quoteBody (cs rest : List Char) (word : List Char) :
    scan .single word (quoteBody cs ++ '\'' :: rest) =
      scan .bare (cs.reverse ++ word) rest := by
  induction cs generalizing word with
  | nil => rw [quoteBody, List.nil_append, scan, if_pos rfl]; rfl
  | cons c cs ih =>
      have hword : (c :: cs).reverse ++ word = cs.reverse ++ c :: word := by
        rw [List.reverse_cons, List.append_assoc, List.singleton_append]
      rw [hword, ← ih (c :: word), quoteBody]
      by_cases hc : c = '\''
      · subst hc
        rw [if_pos rfl]
        rfl
      · rw [if_neg hc, List.cons_append, scan, if_neg hc]

/-! ### Rows of words -/

/-- Between words, a written word brings the reader to the end of that word. -/
theorem scan_renderToken (token rest : List Char) (word : List Char) :
    scan .between word (renderToken token ++ rest) =
      scan .bare token.reverse rest := by
  unfold renderToken
  split
  · next bare =>
      rw [Bool.and_eq_true] at bare
      cases token with
      | nil => cases bare.1
      | cons c cs =>
          have plain := bare.2
          rw [List.all_cons, Bool.and_eq_true] at plain
          rw [List.cons_append, scan, isSeparator_of_isPlain plain.1,
            stepBare_of_isPlain plain.1]
          simp only [Bool.false_eq_true, if_false]
          rw [scan_bare_plain cs rest [c] plain.2, List.reverse_cons]
  · have opening :
        scan .between word ('\'' :: (quoteBody token ++ ['\'']) ++ rest) =
          scan .single [] (quoteBody token ++ '\'' :: rest) := by
      rw [List.cons_append, List.append_assoc]
      rfl
    rw [opening, scan_single_quoteBody, List.append_nil]

/-- **Reading a row of written words gives the words.** -/
theorem splitChars_renderTokens (tokens : List (List Char)) :
    splitChars (renderTokens tokens) = .ok tokens := by
  unfold splitChars
  induction tokens with
  | nil => rfl
  | cons token tokens ih =>
      cases tokens with
      | nil =>
          have last := scan_renderToken token [] []
          rw [List.append_nil] at last
          rw [renderTokens, last, scan, List.reverse_reverse]
      | cons next tokens =>
          have written : renderTokens (token :: next :: tokens) =
              renderToken token ++ ' ' :: renderTokens (next :: tokens) := rfl
          rw [written, scan_renderToken, scan, if_pos (by decide), ih,
            List.reverse_reverse]
          rfl

end Words

/-- Reading a written command gives its words. -/
theorem Command.words_of_render (c : Command) : splitWords c.render = .ok c.tokens := by
  rw [splitWords, render, String.toList_ofList, Words.splitChars_renderTokens]
  simp [Except.map, Function.comp_def]

/-- **A written command is read back**, whatever characters its words hold.
Therefore two commands are written alike only if they are the same. -/
theorem splitWords_render (c : Command) :
    splitWords c.render = .ok c.tokens ∧
      ∀ d : Command, c.render = d.render ↔ c = d := by
  have read (d : Command) : splitWords d.render = .ok d.tokens := d.words_of_render
  refine ⟨read c, ?_⟩
  intro d
  constructor
  · intro alike
    have tokens : c.tokens = d.tokens := by
      have both := read c
      rw [alike, read d] at both
      exact (Except.ok.inj both).symm
    obtain ⟨executable, args⟩ := List.cons.inj tokens
    cases c
    cases d
    cases executable
    cases args
    rfl
  · rintro rfl
    rfl

end ExitContract
