import ExitContract.Words
import Mathlib.Data.List.Induction

/-!
# The grammar of words

What a row of words looks like, said without a reader.

The grammar has four layers. A *fragment* is a character that stands for itself, a
backslash with the character after it, or a quotation; a *word* is one fragment or more
without anything between them; a *gap* is one separator or more; and a *row* is words
with a gap between each two, perhaps with separators before the first word and after the
last. A text that is no row breaks off inside a fragment, which is then *unfinished* in
one of four ways.

**Why every text has a reading.** A reading can be continued by any character: an
unfinished fragment stays unfinished or is finished by it, and after a finished one every
character starts or finishes something. So a row with something unfinished after it is
all that a text can be.

## Main definitions

* `Words.Fragment`, `Words.Word`, `Words.Gap`, `Words.Row` — the grammar, with the text
  that each is `spelled` in and what the words of a row stand for
* `Words.Unfinished`, `Words.Reading` — a row after which something may be unfinished
* `Words.EndsInEscape`, `Words.EndsInQuotation` — the texts that break off

## Main statements

* `Words.exists_reading` — every text has a reading
-/

namespace ExitContract

namespace Words

/-! ### Fragments -/

/-- A character as a text of its own. -/
def letter {p : Char → Prop} (c : { c : Char // p c }) : List Char := [c.val]

/-- A character that separates words. -/
abbrev Separator : Type := { c : Char // isSeparator c = true }

/-- What may stand between single quotes. -/
abbrev Literal : Type := { c : Char // c ≠ '\'' }

/-- What may stand between double quotes. -/
inductive Quoted
  /-- A character that is neither a double quote nor a backslash. -/
  | plain (c : Char) (unquoted : c ≠ '"') (unescaped : c ≠ '\\')
  /-- A backslash with the character after it. -/
  | pair (c : Char)

/-- The text of a piece of a double quotation. -/
def Quoted.spelled : Quoted → List Char
  | .plain c _ _ => [c]
  | .pair c => ['\\', c]

/-- What a piece of a double quotation stands for: a backslash is gone only before a
double quote or another backslash. -/
def Quoted.value : Quoted → List Char
  | .plain c _ _ => [c]
  | .pair c => if c = '"' ∨ c = '\\' then [c] else ['\\', c]

/-- A character that has no meaning of its own outside quotes. -/
structure IsBare (c : Char) : Prop where
  inWord : isSeparator c = false
  unquoted : c ≠ '\''
  undoubled : c ≠ '"'
  unescaped : c ≠ '\\'

/-- A piece of a word. -/
inductive Fragment
  /-- A character that stands for itself. -/
  | bare (c : Char) (h : IsBare c)
  /-- A backslash with the character after it. -/
  | escaped (c : Char)
  /-- A quotation in single quotes. -/
  | single (body : List Literal)
  /-- A quotation in double quotes. -/
  | double (body : List Quoted)

/-- The text of a fragment. -/
def Fragment.spelled : Fragment → List Char
  | .bare c _ => [c]
  | .escaped c => ['\\', c]
  | .single body => '\'' :: (body.flatMap letter ++ ['\''])
  | .double body => '"' :: (body.flatMap Quoted.spelled ++ ['"'])

/-- What a fragment stands for. -/
def Fragment.value : Fragment → List Char
  | .bare c _ => [c]
  | .escaped c => [c]
  | .single body => body.flatMap letter
  | .double body => body.flatMap Quoted.value

/-- A fragment that breaks off. -/
inductive Unfinished
  /-- A backslash outside quotes. -/
  | escape
  /-- A quotation in single quotes. -/
  | single (body : List Literal)
  /-- A quotation in double quotes. -/
  | double (body : List Quoted)
  /-- A quotation in double quotes and a backslash that starts an escape. -/
  | doubleEscape (body : List Quoted)

/-- The text of an unfinished fragment. -/
def Unfinished.spelled : Unfinished → List Char
  | .escape => ['\\']
  | .single body => '\'' :: body.flatMap letter
  | .double body => '"' :: body.flatMap Quoted.spelled
  | .doubleEscape body => '"' :: (body.flatMap Quoted.spelled ++ ['\\'])

/-! ### Rows -/

/-- One fragment or more. -/
structure Word where
  first : Fragment
  rest : List Fragment

/-- The fragments of a word. -/
def Word.fragments (w : Word) : List Fragment := w.first :: w.rest

/-- The text of a word. -/
def Word.spelled (w : Word) : List Char := w.fragments.flatMap Fragment.spelled

/-- What a word stands for: its fragments, one after another. -/
def Word.value (w : Word) : List Char := w.fragments.flatMap Fragment.value

/-- One separator or more. -/
structure Gap where
  first : Separator
  rest : List Separator

/-- The text of a gap. -/
def Gap.spelled (g : Gap) : List Char := (g.first :: g.rest).flatMap letter

/-- A row of words. -/
structure Row where
  /-- What separates the first word from the start. -/
  lead : List Separator
  /-- The words that have a gap after them. -/
  words : List (Word × Gap)
  /-- The word that ends the row, if nothing separates it from the end. -/
  last : Option Word

/-- The text of a word with the gap after it. -/
def Row.spellPair (p : Word × Gap) : List Char := p.1.spelled ++ p.2.spelled

/-- The text of a row. -/
def Row.spelled (r : Row) : List Char :=
  r.lead.flatMap letter ++ r.words.flatMap Row.spellPair ++
    r.last.toList.flatMap Word.spelled

/-- What the words of a row stand for. -/
def Row.values (r : Row) : List (List Char) :=
  r.words.map (fun p => p.1.value) ++ r.last.toList.map Word.value

/-- A row and what may be unfinished after it. -/
structure Reading where
  row : Row
  left : Option Unfinished

/-- The text of a reading. -/
def Reading.spelled (r : Reading) : List Char :=
  r.row.spelled ++ r.left.toList.flatMap Unfinished.spelled

/-- The text ends right after a backslash that starts an escape, outside quotes or in
double quotes. -/
def EndsInEscape (cs : List Char) : Prop :=
  ∃ row : Row, row.spelled ++ Unfinished.escape.spelled = cs ∨
    ∃ body, row.spelled ++ (Unfinished.doubleEscape body).spelled = cs

/-- The text ends inside a quotation, and not right after a backslash that starts an
escape. -/
def EndsInQuotation (cs : List Char) : Prop :=
  ∃ row : Row, (∃ body, row.spelled ++ (Unfinished.single body).spelled = cs) ∨
    ∃ body, row.spelled ++ (Unfinished.double body).spelled = cs

@[simp] theorem Reading.spelled_finished (row : Row) :
    (⟨row, none⟩ : Reading).spelled = row.spelled := by
  simp [spelled]

@[simp] theorem Reading.spelled_unfinished (row : Row) (u : Unfinished) :
    (⟨row, some u⟩ : Reading).spelled = row.spelled ++ u.spelled := by
  simp [spelled]

/-! ### Every text has a reading -/

/-- One more character leaves an unfinished fragment unfinished or finishes it. -/
theorem Unfinished.snoc (u : Unfinished) (c : Char) :
    (∃ u' : Unfinished, u'.spelled = u.spelled ++ [c]) ∨
      ∃ f : Fragment, f.spelled = u.spelled ++ [c] := by
  cases u with
  | escape => exact .inr ⟨.escaped c, rfl⟩
  | single body =>
      by_cases quote : c = '\''
      · exact .inr ⟨.single body, by rw [quote]; rfl⟩
      · refine .inl ⟨.single (body ++ [⟨c, quote⟩]), ?_⟩
        simp [spelled, letter]
  | double body =>
      by_cases quote : c = '"'
      · exact .inr ⟨.double body, by rw [quote]; rfl⟩
      by_cases escape : c = '\\'
      · exact .inl ⟨.doubleEscape body, by rw [escape]; rfl⟩
      · refine .inl ⟨.double (body ++ [.plain c quote escape]), ?_⟩
        simp [spelled, Quoted.spelled]
  | doubleEscape body =>
      refine .inl ⟨.double (body ++ [.pair c]), ?_⟩
      simp [spelled, Quoted.spelled]

/-- After a row every separator goes on with a row. -/
theorem Row.snoc_separator (r : Row) (c : Separator) :
    ∃ r' : Row, r'.spelled = r.spelled ++ [c.val] := by
  obtain ⟨lead, words, last⟩ := r
  cases last with
  | some w => exact ⟨⟨lead, words ++ [(w, ⟨c, []⟩)], none⟩, by
      simp [spelled, spellPair, Gap.spelled, letter]⟩
  | none =>
      rcases List.eq_nil_or_concat words with rfl | ⟨words, ⟨w, g⟩, rfl⟩
      · exact ⟨⟨lead ++ [c], [], none⟩, by simp [spelled, letter]⟩
      · exact ⟨⟨lead, words ++ [(w, ⟨g.first, g.rest ++ [c]⟩)], none⟩, by
          simp [spelled, spellPair, Gap.spelled, letter]⟩

/-- After a row every fragment goes on with a row: it belongs to the last word, or it is
a word. -/
theorem Row.snoc_fragment (r : Row) (f : Fragment) :
    ∃ r' : Row, r'.spelled = r.spelled ++ f.spelled := by
  obtain ⟨lead, words, last⟩ := r
  cases last with
  | some w => exact ⟨⟨lead, words, some ⟨w.first, w.rest ++ [f]⟩⟩, by
      simp [spelled, Word.spelled, Word.fragments]⟩
  | none => exact ⟨⟨lead, words, some ⟨f, []⟩⟩, by
      simp [spelled, Word.spelled, Word.fragments]⟩

/-- After a row every character starts or finishes something. -/
theorem Row.snoc (r : Row) (c : Char) :
    ∃ r' : Reading, r'.spelled = r.spelled ++ [c] := by
  by_cases sep : isSeparator c = true
  · obtain ⟨r', h⟩ := r.snoc_separator ⟨c, sep⟩
    exact ⟨⟨r', none⟩, by simpa using h⟩
  by_cases single : c = '\''
  · exact ⟨⟨r, some (.single [])⟩, by
      simp [Unfinished.spelled, single]⟩
  by_cases double : c = '"'
  · exact ⟨⟨r, some (.double [])⟩, by simp [Unfinished.spelled, double]⟩
  by_cases escape : c = '\\'
  · exact ⟨⟨r, some .escape⟩, by simp [Unfinished.spelled, escape]⟩
  · obtain ⟨r', h⟩ :=
      r.snoc_fragment (.bare c ⟨eq_false_of_ne_true sep, single, double, escape⟩)
    exact ⟨⟨r', none⟩, by simpa [Fragment.spelled] using h⟩

/-- **Every text has a reading.** -/
theorem exists_reading (cs : List Char) : ∃ r : Reading, r.spelled = cs := by
  -- from the left: what stands before a character has a reading that it continues
  induction cs using List.reverseRecOn with
  | nil => exact ⟨⟨⟨[], [], none⟩, none⟩, rfl⟩
  | append_singleton cs c ih =>
      obtain ⟨⟨row, left⟩, rfl⟩ := ih
      cases left with
      | none => simpa using row.snoc c
      | some u =>
          rcases u.snoc c with ⟨u', h⟩ | ⟨f, h⟩
          · exact ⟨⟨row, some u'⟩, by simp [h]⟩
          · obtain ⟨row', h'⟩ := row.snoc_fragment f
            exact ⟨⟨row', none⟩, by simp [h', h]⟩

end Words

end ExitContract
