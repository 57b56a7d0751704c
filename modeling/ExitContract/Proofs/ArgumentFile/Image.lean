import ExitContract.Proofs.ArgumentFile.LineByLine
import ExitContract.Proofs.ArgumentFile.WrittenCommands

/-!
# What argument files can hold

The lists of words that some argument file has.

**From a file to its words.** Words are made of characters of their line: quotes and
backslashes may be gone, but nothing comes in. A line holds no line feed, and so none of
its words does. The words that are handed on are neither blank nor the start of a comment,
since those were sorted out.

**From words to a file.** Whatever else a word holds can be quoted. So words of this kind
are written one to a line, each in the way in which a command without arguments is
written.

## Main definitions

* `ArgumentFile.Admissible` — the words that a file can hand on

## Main statements

* `Words.Row.subset_of_mem_values` — words are made of characters of their text
* `ArgumentFile.admissible_of_wordsOfText` — files hand on admissible words only
* `ArgumentFile.wordsOfText_of_admissible` — a file with given admissible words
-/

namespace ExitContract

namespace Words

/-! ### The characters of words -/

theorem Quoted.value_subset (q : Quoted) : q.value ⊆ q.spelled := by
  cases q with
  | plain c => exact List.Subset.refl _
  | pair c =>
      rw [value]
      split
      · exact List.subset_cons_self _ _
      · exact List.Subset.refl _

theorem Fragment.value_subset (f : Fragment) : f.value ⊆ f.spelled := by
  cases f with
  | bare c => exact List.Subset.refl _
  | escaped c => exact List.subset_cons_self _ _
  | single body =>
      exact List.Subset.trans (List.subset_append_left _ _) (List.subset_cons_self _ _)
  | double body =>
      have inside : body.flatMap Quoted.value ⊆ body.flatMap Quoted.spelled := by
        intro c mem
        obtain ⟨q, there, mem⟩ := List.mem_flatMap.mp mem
        exact List.mem_flatMap.mpr ⟨q, there, q.value_subset mem⟩
      exact List.Subset.trans inside
        (List.Subset.trans (List.subset_append_left _ _) (List.subset_cons_self _ _))

/-- A word stands for characters of its text. -/
theorem Word.value_subset (w : Word) : w.value ⊆ w.spelled := by
  intro c mem
  obtain ⟨f, there, mem⟩ := List.mem_flatMap.mp mem
  exact List.mem_flatMap.mpr ⟨f, there, f.value_subset mem⟩

/-- The words of a row stand for characters of its text. -/
theorem Row.subset_of_mem_values {row : Row} {v : List Char} (mem : v ∈ row.values) :
    v ⊆ row.spelled := by
  rw [spelled]
  rcases List.mem_append.mp mem with inner | last
  · obtain ⟨p, there, rfl⟩ := List.mem_map.mp inner
    intro c mem
    refine List.mem_append_left _ (List.mem_append_right _ (List.mem_flatMap.mpr ⟨p, there, ?_⟩))
    exact List.mem_append_left _ (p.1.value_subset mem)
  · obtain ⟨w, there, rfl⟩ := List.mem_map.mp last
    intro c mem
    exact List.mem_append_right _ (List.mem_flatMap.mpr ⟨w, there, w.value_subset mem⟩)

end Words

/-- The words of a line are made of its characters. -/
theorem subset_of_splitWords {line t : String} {words : List String}
    (split : splitWords line = .ok words) (mem : t ∈ words) : t.toList ⊆ line.toList := by
  obtain ⟨values, read, rfl⟩ := map_eq_ok_iff.mp split
  obtain ⟨row, spelled, rfl⟩ := Words.splitChars_eq_ok_iff.mp read
  obtain ⟨v, there, rfl⟩ := List.mem_map.mp mem
  rw [String.toList_ofList, ← spelled]
  exact Words.Row.subset_of_mem_values there

namespace ArgumentFile

/-- What a word has to be in order to be handed on by a file: it is not blank, it does not
start like a comment, and it fits into a line. -/
structure Admissible (t : String) : Prop where
  visible : trimBlanks t.toList ≠ []
  uncommented : t.toList.head? ≠ some '#'
  unfed : '\n' ∉ t.toList

/-! ### From a file to its words -/

/-- A word that counts is neither blank nor the start of a comment. -/
theorem of_mem_significant {t : String} {words : List String}
    (mem : t ∈ Words.significant words) :
    t ∈ words ∧ trimBlanks t.toList ≠ [] ∧ t.toList.head? ≠ some '#' := by
  obtain ⟨before, visible⟩ := List.mem_filter.mp mem
  have uncommented := List.mem_takeWhile_imp before
  refine ⟨List.takeWhile_subset _ before, ?_, ?_⟩
  · rw [ne_eq, trimBlanks_eq_nil_iff]
    simpa [isBlankText] using visible
  · simpa [Words.startsComment, Words.commentMarker] using uncommented

/-- **A file hands on admissible words only.** -/
theorem admissible_of_wordsOfText {text : String} {words : List String}
    (read : wordsOfText text = .ok words) : ∀ t ∈ words, Admissible t := by
  intro t mem
  let lines := (linesOf text.toList).map String.ofList
  have cut : lines.map String.toList = linesOf text.toList := by
    simp [lines, Function.comp_def]
  rw [wordsOfText, ← cut] at read
  obtain ⟨tokens, same, rfl⟩ := wordsOfLines_eq_ok_iff.mp read
  obtain ⟨own, there, mem⟩ := List.mem_flatten.mp mem
  have token : Except.ok own ∈ lines.map tokenize := same ▸ List.mem_map_of_mem there
  obtain ⟨line, inText, tokenized⟩ := List.mem_map.mp token
  obtain ⟨words, split, rfl⟩ := map_eq_ok_iff.mp tokenized
  obtain ⟨found, visible, uncommented⟩ := of_mem_significant mem
  refine ⟨visible, uncommented, fun fed => ?_⟩
  obtain ⟨chars, isLine, rfl⟩ := List.mem_map.mp inText
  have inLine := subset_of_splitWords split found fed
  rw [String.toList_ofList] at inLine
  exact Lines.lineFeed_notMem_of_mem_linesOf isLine inLine

/-! ### From words to a file -/

/-- The text of a file with these words, one to a line. -/
def ofWords (words : List String) : String :=
  Command.writeLines (words.map fun t => (⟨t, []⟩, .feed)) none

/-- **A file can have any admissible words.** -/
theorem wordsOfText_of_admissible {words : List String} (fit : ∀ t ∈ words, Admissible t) :
    wordsOfText (ofWords words) = .ok words := by
  let commands := words.map fun t => (⟨t, []⟩ : Command)
  have lines : (words.map fun t => ((⟨t, []⟩ : Command), LineEnd.feed)).map Prod.fst ++
      (none : Option Command).toList = commands := by
    simp [commands]
  have unfed : ∀ c ∈ commands, ∀ t ∈ c.tokens, '\n' ∉ t.toList := by
    refine List.forall_mem_map.mpr fun t mem => ?_
    exact List.forall_mem_singleton.mpr (fit t mem).unfed
  rw [ofWords, wordsOfText_writeLines (lines ▸ unfed), lines, List.flatMap_map]
  have each : ∀ t ∈ words, (⟨t, []⟩ : Command).survivors = [t] := by
    intro t mem
    refine (⟨t, []⟩ : Command).survivors_eq_tokens ?_
    exact List.forall_mem_singleton.mpr ⟨(fit t mem).visible, (fit t mem).uncommented⟩
  rw [List.flatMap_congr each, List.flatMap_singleton']

end ArgumentFile

end ExitContract
