import ExitContract.Proofs.Words.Grammar

/-!
# A text has one reading only

No text is a row of words in two ways, nor a row with two things unfinished after it,
nor both.

**Where the first piece ends.** No fragment starts another one, and none starts an
unfinished one, whatever follows it, because a quotation ends at the first quote that
may end it. So the first fragment of a text can be told without looking at the rest, and
with it the whole reading.

**One argument for all layers.** The same step is needed for the insides of quotes, for
separators, for fragments, and for words with their gaps: pieces that stand in a row can
be told one by one up to a text that none of them starts. It is stated once, for any
pieces (`Decodable.flatMap`). Only a word with its gap needs to know what follows: it
can be told if that is no separator, which would belong to the gap.

## Main definitions

* `Words.Decodable` — the first piece of a text can be told
* `Words.Stops` — a text that no piece starts

## Main statements

* `Words.Decodable.flatMap` — pieces in a row can be told
* `Words.decodable_fragment`, `Words.stops_unfinished` — where a fragment ends
* `Words.Reading.eq_of_spelled` — a text has at most one reading
-/

namespace ExitContract

namespace Words

/-! ### Codes -/

section Code

variable {α β : Type} {s : α → List β} {P : List β → Prop}

/-- No spelling starts the text. -/
def Stops (s : α → List β) (t : List β) : Prop := ∀ a x, s a ++ x ≠ t

/-- The first spelling in a text can be told, as long as what follows has the property
`P`, which every text has that starts with a spelling. -/
structure Decodable (s : α → List β) (P : List β → Prop) : Prop where
  first : ∀ {a b x y}, P x → P y → s a ++ x = s b ++ y → a = b ∧ x = y
  goesOn : ∀ a x, P (s a ++ x)

theorem Decodable.follows (d : Decodable s P) (as : List α) {t : List β} (ht : P t) :
    P (as.flatMap s ++ t) := by
  cases as with
  | nil => exact ht
  | cons a as =>
      rw [List.flatMap_cons, List.append_assoc]
      exact d.goesOn a _

/-- **Spellings in a row can be told**, up to a text that none of them starts. -/
theorem Decodable.flatMap (d : Decodable s P) {as bs : List α} {t t' : List β}
    (ht : P t) (ht' : P t') (stops : Stops s t) (stops' : Stops s t')
    (same : as.flatMap s ++ t = bs.flatMap s ++ t') : as = bs ∧ t = t' := by
  induction as generalizing bs with
  | nil =>
      cases bs with
      | nil => exact ⟨rfl, same⟩
      | cons b bs =>
          rw [List.flatMap_cons, List.append_assoc] at same
          exact absurd same.symm (stops b _)
  | cons a as ih =>
      cases bs with
      | nil =>
          rw [List.flatMap_cons, List.append_assoc] at same
          exact absurd same (stops' a _)
      | cons b bs =>
          rw [List.flatMap_cons, List.flatMap_cons, List.append_assoc,
            List.append_assoc] at same
          obtain ⟨rfl, rest⟩ := d.first (d.follows as ht) (d.follows bs ht') same
          obtain ⟨rfl, tails⟩ := ih rest
          exact ⟨rfl, tails⟩

section

variable (d : Decodable s fun _ => True) {as bs : List α} {t t' : List β}
include d

/-- Spellings that can be told whatever follows them. -/
theorem Decodable.cut (stops : Stops s t) (stops' : Stops s t')
    (same : as.flatMap s ++ t = bs.flatMap s ++ t') : as = bs ∧ t = t' :=
  d.flatMap trivial trivial stops stops' same

/-- Spellings that are all of a text. -/
theorem Decodable.eq_of_flatMap (stops : Stops s [])
    (same : as.flatMap s = bs.flatMap s) : as = bs := by
  rw [← List.append_nil (as.flatMap s), ← List.append_nil (bs.flatMap s)] at same
  exact (d.cut stops stops same).1

end

end Code

/-! ### How pieces start -/

/-- Every fragment and every unfinished one starts with a character of a word. -/
def StartsInWord (cs : List Char) : Prop := ∃ c rest, cs = c :: rest ∧ isSeparator c = false

/-- A text that does not start with a separator. -/
def Unseparated (cs : List Char) : Prop := ∀ c ∈ cs.head?, isSeparator c = false

theorem StartsInWord.append {cs : List Char} (h : StartsInWord cs) (x : List Char) :
    StartsInWord (cs ++ x) := by
  obtain ⟨c, rest, rfl, inWord⟩ := h
  exact ⟨c, rest ++ x, rfl, inWord⟩

theorem StartsInWord.unseparated {cs : List Char} (h : StartsInWord cs) :
    Unseparated cs := by
  obtain ⟨c, rest, rfl, inWord⟩ := h
  simpa [Unseparated] using inWord

theorem Fragment.startsInWord (f : Fragment) : StartsInWord f.spelled := by
  cases f with
  | bare c h => exact ⟨c, [], rfl, h.inWord⟩
  | escaped c => exact ⟨'\\', [c], rfl, by decide⟩
  | single body => exact ⟨'\'', body.flatMap letter ++ ['\''], rfl, by decide⟩
  | double body => exact ⟨'"', body.flatMap Quoted.spelled ++ ['"'], rfl, by decide⟩

theorem Unfinished.startsInWord (u : Unfinished) : StartsInWord u.spelled := by
  cases u with
  | escape => exact ⟨'\\', [], rfl, by decide⟩
  | single body => exact ⟨'\'', body.flatMap letter, rfl, by decide⟩
  | double body => exact ⟨'"', body.flatMap Quoted.spelled, rfl, by decide⟩
  | doubleEscape body =>
      exact ⟨'"', body.flatMap Quoted.spelled ++ ['\\'], rfl, by decide⟩

theorem Word.spelled_eq (w : Word) :
    w.spelled = w.first.spelled ++ w.rest.flatMap Fragment.spelled := rfl

theorem Word.startsInWord (w : Word) : StartsInWord w.spelled := by
  rw [w.spelled_eq]
  exact w.first.startsInWord.append _

/-! ### Insides of quotes -/

/-- Characters can be told. -/
theorem decodable_letter {p : Char → Prop} :
    Decodable (letter : { c : Char // p c } → List Char) (fun _ => True) where
  first := by
    rintro ⟨c, hc⟩ ⟨d, hd⟩ x y - - same
    simpa [letter] using same
  goesOn _ _ := trivial

/-- Characters of a kind end at one that is of another kind. -/
theorem stops_letter {p : Char → Prop} {t : List Char} (other : ∀ c ∈ t.head?, ¬ p c) :
    Stops (letter : { c : Char // p c } → List Char) t := by
  rintro ⟨c, hc⟩ x rfl
  exact other c (by simp [letter]) hc

theorem stops_letter_nil {p : Char → Prop} :
    Stops (letter : { c : Char // p c } → List Char) [] :=
  stops_letter (by simp)

/-- The pieces of a double quotation can be told. -/
theorem decodable_quoted : Decodable Quoted.spelled (fun _ => True) where
  first := by
    intro p q x y _ _ same
    cases p with
    | plain c unquoted unescaped =>
        cases q with
        | plain d unquoted' unescaped' => simpa [Quoted.spelled] using same
        | pair d => exact absurd (List.cons.inj same).1 unescaped
    | pair c =>
        cases q with
        | plain d unquoted unescaped => exact absurd (List.cons.inj same).1.symm unescaped
        | pair d => simpa [Quoted.spelled] using same
  goesOn _ _ := trivial

/-- The inside of single quotes ends at one. -/
theorem stops_end (x : List Char) :
    Stops (letter : Literal → List Char) ('\'' :: x) :=
  stops_letter (by simp)

theorem stops_quote (x : List Char) : Stops Quoted.spelled ('"' :: x) := by
  rintro (⟨c, hc, hc'⟩ | c) y same <;> simp_all [Quoted.spelled]

theorem stops_quoted_nil : Stops Quoted.spelled [] := by
  rintro (⟨c, hc, hc'⟩ | c) y same <;> simp_all [Quoted.spelled]

theorem stops_quoted_escape : Stops Quoted.spelled ['\\'] := by
  rintro (⟨c, hc, hc'⟩ | c) y same <;> simp_all [Quoted.spelled]

/-! ### Fragments -/

/-- **The first fragment of a text can be told.** -/
theorem decodable_fragment : Decodable Fragment.spelled (fun _ => True) where
  first := by
    intro f g x y _ _ same
    -- two fragments of different kinds differ in their first characters
    cases f with
    | bare c h =>
        cases g with
        | bare d h' => simpa [Fragment.spelled] using same
        | escaped d => exact absurd (List.cons.inj same).1 h.unescaped
        | single body => exact absurd (List.cons.inj same).1 h.unquoted
        | double body => exact absurd (List.cons.inj same).1 h.undoubled
    | escaped c =>
        cases g with
        | bare d h' => exact absurd (List.cons.inj same).1.symm h'.unescaped
        | escaped d => simpa [Fragment.spelled] using same
        | single | double => exact absurd (List.cons.inj same).1 (by decide)
    | single body =>
        cases g with
        | bare d h' => exact absurd (List.cons.inj same).1.symm h'.unquoted
        | single body' =>
            simp only [Fragment.spelled, List.cons_append, List.append_assoc,
              List.cons.injEq, true_and, List.nil_append] at same
            obtain ⟨rfl, rest⟩ :=
              decodable_letter.cut (stops_end x) (stops_end y) same
            exact ⟨rfl, (List.cons.inj rest).2⟩
        | escaped | double => exact absurd (List.cons.inj same).1 (by decide)
    | double body =>
        cases g with
        | bare d h' => exact absurd (List.cons.inj same).1.symm h'.undoubled
        | double body' =>
            simp only [Fragment.spelled, List.cons_append, List.append_assoc,
              List.cons.injEq, true_and, List.nil_append] at same
            obtain ⟨rfl, rest⟩ := decodable_quoted.cut (stops_quote x) (stops_quote y) same
            exact ⟨rfl, (List.cons.inj rest).2⟩
        | escaped | single => exact absurd (List.cons.inj same).1 (by decide)
  goesOn _ _ := trivial

/-- A fragment starts no unfinished one: the quote that ends it is missing there. -/
theorem stops_unfinished (u : Unfinished) : Stops Fragment.spelled u.spelled := by
  intro f x same
  cases f with
  | bare c h =>
      cases u with
      | escape => exact h.unescaped (List.cons.inj same).1
      | single body => exact h.unquoted (List.cons.inj same).1
      | double | doubleEscape => exact h.undoubled (List.cons.inj same).1
  | escaped c =>
      cases u with
      | escape => exact absurd (List.cons.inj same).2 (List.cons_ne_nil c x)
      | single | double | doubleEscape =>
          exact absurd (List.cons.inj same).1 (by decide)
  | single body =>
      simp only [Fragment.spelled, List.cons_append, List.append_assoc,
        List.nil_append] at same
      cases u with
      | single body' =>
          have inside := (List.cons.inj same).2
          rw [← List.append_nil (body'.flatMap _)] at inside
          cases (decodable_letter.cut (stops_end x)
            stops_letter_nil inside).2
      | escape | double | doubleEscape =>
          exact absurd (List.cons.inj same).1 (by decide)
  | double body =>
      simp only [Fragment.spelled, List.cons_append, List.append_assoc,
        List.nil_append] at same
      cases u with
      | double body' =>
          have inside := (List.cons.inj same).2
          rw [← List.append_nil (body'.flatMap _)] at inside
          cases (decodable_quoted.cut (stops_quote x) stops_quoted_nil inside).2
      | doubleEscape body' =>
          have ends := (decodable_quoted.cut (stops_quote x) stops_quoted_escape
            (List.cons.inj same).2).2
          exact absurd (List.cons.inj ends).1 (by decide)
      | escape | single => exact absurd (List.cons.inj same).1 (by decide)

theorem stops_separator {c : Char} (sep : isSeparator c = true) (x : List Char) :
    Stops Fragment.spelled (c :: x) := by
  intro f y same
  obtain ⟨d, rest, starts, inWord⟩ := f.startsInWord.append y
  obtain ⟨rfl, -⟩ := List.cons.inj (starts.symm.trans same)
  rw [sep] at inWord
  cases inWord

theorem stops_fragment_nil : Stops Fragment.spelled [] := by
  intro f x same
  obtain ⟨c, rest, starts, -⟩ := f.startsInWord.append x
  rw [starts] at same
  cases same

/-! ### What is unfinished -/

/-- What is unfinished after a row, if anything is, starts with no fragment. -/
theorem stops_left (left : Option Unfinished) :
    Stops Fragment.spelled (left.toList.flatMap Unfinished.spelled) := by
  cases left with
  | none => exact stops_fragment_nil
  | some u => simpa using stops_unfinished u

theorem unseparated_left (left : Option Unfinished) :
    Unseparated (left.toList.flatMap Unfinished.spelled) := by
  cases left with
  | none => simp [Unseparated]
  | some u => simpa using u.startsInWord.unseparated

/-- Unfinished fragments are the same if their texts are. -/
theorem left_eq_of_spelled {a b : Option Unfinished}
    (same : a.toList.flatMap Unfinished.spelled = b.toList.flatMap Unfinished.spelled) :
    a = b := by
  -- no inside of a double quotation ends with the backslash of an escape
  have escaped {x y : List Quoted}
      (h : x.flatMap Quoted.spelled = y.flatMap Quoted.spelled ++ ['\\']) : False := by
    rw [← List.append_nil (x.flatMap _)] at h
    cases (decodable_quoted.cut stops_quoted_nil stops_quoted_escape h).2
  rcases a with _ | (_ | x | x | x) <;> rcases b with _ | (_ | y | y | y) <;>
    simp [Unfinished.spelled] at same ⊢
  · exact decodable_letter.eq_of_flatMap stops_letter_nil same
  · exact decodable_quoted.eq_of_flatMap stops_quoted_nil same
  · exact escaped same
  · exact escaped same.symm
  · exact decodable_quoted.eq_of_flatMap stops_quoted_nil same

/-! ### Words and rows -/

theorem Unseparated.stops {x : List Char} (h : Unseparated x) :
    Stops (letter : Separator → List Char) x :=
  stops_letter fun c mem => ne_true_of_eq_false (h c mem)

theorem Gap.stops (g : Gap) (x : List Char) : Stops Fragment.spelled (g.spelled ++ x) :=
  stops_separator g.first.property _

/-- A word can be told if no fragment starts what follows it. -/
theorem Word.eq_of_spelled {v w : Word} {x y : List Char} (hx : Stops Fragment.spelled x)
    (hy : Stops Fragment.spelled y) (same : v.spelled ++ x = w.spelled ++ y) :
    v = w ∧ x = y := by
  obtain ⟨fragments, rest⟩ := decodable_fragment.cut hx hy same
  obtain ⟨first, others⟩ := List.cons.inj fragments
  cases v
  cases w
  cases first
  cases others
  exact ⟨rfl, rest⟩

/-- A word with its gap can be told if no separator follows. -/
theorem decodable_pair : Decodable Row.spellPair Unseparated where
  first := by
    rintro ⟨v, g⟩ ⟨w, g'⟩ x y hx hy same
    simp only [Row.spellPair, List.append_assoc] at same
    obtain ⟨rfl, gaps⟩ := Word.eq_of_spelled (g.stops x) (g'.stops y) same
    obtain ⟨separators, rest⟩ :=
      decodable_letter.cut hx.stops hy.stops gaps
    obtain ⟨first, others⟩ := List.cons.inj separators
    cases g
    cases g'
    cases first
    cases others
    exact ⟨rfl, rest⟩
  goesOn p x := by
    rw [Row.spellPair, List.append_assoc]
    exact (p.1.startsInWord.append _).unseparated

/-- The last word of a row and what is unfinished after it. -/
def endText (last : Option Word) (left : Option Unfinished) : List Char :=
  last.toList.flatMap Word.spelled ++ left.toList.flatMap Unfinished.spelled

theorem endText_none (left : Option Unfinished) :
    endText none left = left.toList.flatMap Unfinished.spelled := by
  simp [endText]

theorem endText_some (w : Word) (left : Option Unfinished) :
    endText (some w) left = w.spelled ++ left.toList.flatMap Unfinished.spelled := by
  simp [endText]

theorem unseparated_endText (last : Option Word) (left : Option Unfinished) :
    Unseparated (endText last left) := by
  cases last with
  | none => simpa [endText_none] using unseparated_left left
  | some w =>
      rw [endText_some]
      exact (w.startsInWord.append _).unseparated

/-- No word at the end has a gap after it. -/
theorem stops_endText (last : Option Word) (left : Option Unfinished) :
    Stops Row.spellPair (endText last left) := by
  rintro ⟨w, g⟩ x same
  simp only [Row.spellPair, List.append_assoc] at same
  cases last with
  | none =>
      rw [endText_none, w.spelled_eq, List.append_assoc] at same
      exact stops_left left _ _ same
  | some v =>
      rw [endText_some] at same
      have rest := (Word.eq_of_spelled (g.stops x) (stops_left left) same).2
      have unseparated := unseparated_left left
      rw [← rest] at unseparated
      exact unseparated.stops g.first _ rfl

theorem endText_eq {v w : Option Word} {a b : Option Unfinished}
    (same : endText v a = endText w b) : v = w ∧ a = b := by
  cases v with
  | none =>
      cases w with
      | none =>
          rw [endText_none, endText_none] at same
          exact ⟨rfl, left_eq_of_spelled same⟩
      | some w =>
          rw [endText_none, endText_some, w.spelled_eq, List.append_assoc] at same
          exact absurd same.symm (stops_left a _ _)
  | some v =>
      cases w with
      | none =>
          rw [endText_none, endText_some, v.spelled_eq, List.append_assoc] at same
          exact absurd same (stops_left b _ _)
      | some w =>
          rw [endText_some, endText_some] at same
          obtain ⟨rfl, rest⟩ := Word.eq_of_spelled (stops_left a) (stops_left b) same
          exact ⟨rfl, left_eq_of_spelled rest⟩

theorem Reading.spelled_eq (r : Reading) :
    r.spelled = r.row.lead.flatMap letter ++
      (r.row.words.flatMap Row.spellPair ++ endText r.row.last r.left) := by
  simp [spelled, Row.spelled, endText]

/-- **A text has at most one reading.** -/
theorem Reading.eq_of_spelled {r r' : Reading} (same : r.spelled = r'.spelled) : r = r' := by
  obtain ⟨⟨lead, words, last⟩, left⟩ := r
  obtain ⟨⟨lead', words', last'⟩, left'⟩ := r'
  rw [spelled_eq, spelled_eq] at same
  dsimp only at same
  have unseparated := unseparated_endText last left
  have unseparated' := unseparated_endText last' left'
  obtain ⟨rfl, rest⟩ := decodable_letter.cut
    (decodable_pair.follows words unseparated).stops
    (decodable_pair.follows words' unseparated').stops same
  obtain ⟨rfl, ends⟩ := decodable_pair.flatMap unseparated unseparated'
    (stops_endText last left) (stops_endText last' left') rest
  obtain ⟨rfl, rfl⟩ := endText_eq ends
  rfl

end Words

end ExitContract
