import ExitContract.Command
import ExitContract.Proofs.ArgumentFile.LineByLine
import ExitContract.Proofs.Words.Rendering
import Mathlib.Data.List.Basic
import Mathlib.Data.List.TakeWhile

/-!
# Argument files of written commands

An argument file that holds the written form of a command on each line gives the words
of the commands back.

Between writing and reading stand five steps that each have a notion of white space of
their own. The written form quotes a word for any character that is not plain; lines
are cut at line feeds and lose one carriage return; words are separated by four
characters; and words that hold nothing but blank characters of Unicode are left out,
as is what follows a word that starts like a comment. They fit together because of what
the written form looks like from outside:

* it holds no line feed, unless a word does, so it stays on its line;
* it ends with a plain character or with a quote, so it does not end with a carriage
  return, even if its last word does.

The last two steps are no accident of reading: quotes are gone when they are taken, so
a word that is blank or starts a comment is lost however it is written.

## Main definitions

* `Command.survivors` — the words of a command that a line hands on
* `Command.writeLines` — commands one after another, a line for each

## Main statements

* `Command.whole_render` — a written command stays on its line
* `tokenize_render` — the words that the line of a command hands on
* `ArgumentFile.expandAt_of_plain` — words without a reference are handed on
* `World.expandReference_of_bare` — a reference that names itself
* `written_commands_read_back` — all of it together
-/

namespace ExitContract

open Words (significant)

namespace Command

/-! ### What a written command looks like -/

/-- Quoting brings in no line feed. -/
theorem lineFeed_notMem_quoteBody {cs : List Char} (unfed : '\n' ∉ cs) :
    '\n' ∉ quoteBody cs := by
  induction cs with
  | nil => exact unfed
  | cons c cs ih =>
      rw [List.mem_cons, not_or] at unfed
      rw [quoteBody]
      split
      · simp [ih unfed.2]
      · simp [ih unfed.2, unfed.1]

/-- A written word holds a line feed only if the word does. -/
theorem lineFeed_notMem_renderToken {token : List Char} (unfed : '\n' ∉ token) :
    '\n' ∉ renderToken token := by
  rw [renderToken]
  split
  · exact unfed
  · simp [lineFeed_notMem_quoteBody unfed]

/-- Something is written for every word, and it ends with a plain character or with a
quote. -/
theorem getLast?_renderToken (token : List Char) :
    ∃ c, (renderToken token).getLast? = some c ∧ (isPlain c = true ∨ c = '\'') := by
  rw [renderToken]
  split
  · next bare =>
      rw [Bool.and_eq_true] at bare
      have something : token ≠ [] := by
        rintro rfl
        cases bare.1
      refine ⟨token.getLast something, List.getLast?_eq_some_getLast something, .inl ?_⟩
      exact List.all_eq_true.mp bare.2 _ (List.getLast_mem something)
  · refine ⟨'\'', ?_, .inr rfl⟩
    rw [← List.cons_append, List.getLast?_concat]

/-- Written words hold a line feed only if a word does. -/
theorem lineFeed_notMem_renderTokens {tokens : List (List Char)}
    (unfed : ∀ t ∈ tokens, '\n' ∉ t) : '\n' ∉ renderTokens tokens := by
  induction tokens with
  | nil => exact List.not_mem_nil
  | cons token tokens ih =>
      rw [List.forall_mem_cons] at unfed
      have first := lineFeed_notMem_renderToken unfed.1
      cases tokens with
      | nil => exact first
      | cons next tokens =>
          rw [renderTokens]
          · simp [first, ih unfed.2]
          · exact List.cons_ne_nil next tokens

/-- Written words end like the last of them. -/
theorem getLast?_renderTokens {tokens : List (List Char)} (something : tokens ≠ []) :
    ∃ c, (renderTokens tokens).getLast? = some c ∧ (isPlain c = true ∨ c = '\'') := by
  induction tokens with
  | nil => exact absurd rfl something
  | cons token tokens ih =>
      cases tokens with
      | nil => exact getLast?_renderToken token
      | cons next tokens =>
          obtain ⟨c, last, mark⟩ := ih (List.cons_ne_nil next tokens)
          refine ⟨c, ?_, mark⟩
          rw [renderTokens, List.getLast?_append, List.getLast?_cons, last]
          · rfl
          · exact List.cons_ne_nil next tokens

theorem toList_render (c : Command) :
    c.render.toList = renderTokens (c.tokens.map String.toList) := by
  rw [render, String.toList_ofList]

/-- A written command ends with a plain character or with a quote. -/
theorem getLast?_render (c : Command) :
    ∃ d, c.render.toList.getLast? = some d ∧ (isPlain d = true ∨ d = '\'') := by
  rw [toList_render]
  exact getLast?_renderTokens (List.cons_ne_nil _ _)

/-- **A written command stays on its line**: it holds no line feed if no word does, and
it never ends with a carriage return. -/
theorem whole_render {c : Command} (unfed : ∀ t ∈ c.tokens, '\n' ∉ t.toList) :
    Lines.Whole c.render.toList where
  unfed := by
    rw [toList_render]
    exact lineFeed_notMem_renderTokens (List.forall_mem_map.mpr unfed)
  unreturned := by
    obtain ⟨d, last, mark⟩ := c.getLast?_render
    rw [last]
    intro return_
    rw [Option.some.inj return_] at mark
    rcases mark with plain | quote
    · exact absurd plain (by decide)
    · exact absurd quote (by decide)

/-! ### What a line hands on -/

/-- The words of a command that its line hands on: those before the first that starts
with `#`, but for those of which trimming leaves nothing. -/
def survivors (c : Command) : List String :=
  (c.tokens.takeWhile fun t => t.toList.head? ≠ some '#').filter fun t =>
    trimBlanks t.toList ≠ []

/-- A command without words that are blank or start with `#` hands all of them on. -/
theorem survivors_eq_tokens (c : Command)
    (counted : ∀ t ∈ c.tokens, trimBlanks t.toList ≠ [] ∧ t.toList.head? ≠ some '#') :
    c.survivors = c.tokens := by
  have opens : (c.tokens.takeWhile fun t => t.toList.head? ≠ some '#') = c.tokens := by
    rw [List.takeWhile_eq_self_iff]
    intro t mem
    exact decide_eq_true (counted t mem).2
  rw [survivors, opens, List.filter_eq_self]
  intro t mem
  exact decide_eq_true (counted t mem).1

/-- Commands one after another, each on a line of its own, and perhaps a last one whose
line has no ending. -/
def writeLines (lines : List (Command × LineEnd)) (last : Option Command) : String :=
  String.ofList (Lines.write (lines.map fun l => (l.1.render.toList, l.2))
    (last.map fun c => c.render.toList))

end Command

/-- Trimming leaves nothing of blank characters, and something of all others. -/
theorem trimBlanks_eq_nil_iff (cs : List Char) :
    trimBlanks cs = [] ↔ cs.all isBlank = true := by
  rw [trimBlanks, List.reverse_eq_nil_iff, List.dropWhile_eq_nil_iff]
  constructor
  · intro blank
    have rest : (cs.dropWhile isBlank).all isBlank = true := by
      rw [← List.all_reverse, List.all_eq_true]
      exact blank
    rw [← List.takeWhile_append_dropWhile (p := isBlank) (l := cs), List.all_append,
      List.all_takeWhile, rest]
    rfl
  · intro blank c mem
    have mem := List.dropWhile_subset isBlank (List.mem_reverse.mp mem)
    exact List.all_eq_true.mp blank c mem

/-- The words of a line that count are those that the line hands on. -/
@[simp] theorem significant_tokens (c : Command) : significant c.tokens = c.survivors := by
  -- the reader tests for what it leaves out, `survivors` for what it keeps
  have opens (t : String) :
      (!Words.startsComment t) = decide (t.toList.head? ≠ some '#') := by
    rw [Words.startsComment, Words.commentMarker, Bool.eq_iff_iff]
    simp
  have counts (t : String) : (!isBlankText t) = decide (trimBlanks t.toList ≠ []) := by
    rw [isBlankText, Bool.eq_iff_iff, decide_eq_true_iff, ne_eq, trimBlanks_eq_nil_iff]
    simp
  simp only [significant, Command.survivors, opens, counts]

/-- The words that the line of a written command hands on. -/
@[simp] theorem tokenize_render (c : Command) : tokenize c.render = .ok c.survivors := by
  rw [tokenize, c.words_of_render, ← significant_tokens]
  rfl

namespace ArgumentFile

/-- Written commands have the words that their lines hand on. -/
theorem wordsOfLines_render (commands : List Command) :
    wordsOfLines ((commands.map Command.render).map String.toList) =
      .ok (commands.flatMap Command.survivors) := by
  refine wordsOfLines_eq_ok_iff.mpr ⟨commands.map Command.survivors, ?_, List.flatMap_def⟩
  rw [List.map_map, List.map_map]
  exact List.map_congr_left fun c _ => tokenize_render c

/-- Written commands are lines of a file. -/
theorem writeLines_eq_ofLines (lines : List (Command × LineEnd)) (last : Option Command) :
    Command.writeLines lines last =
      ofLines (lines.map fun l => (l.1.render, l.2)) (last.map Command.render) := by
  rw [Command.writeLines, ofLines, List.map_map, Option.map_map]
  rfl

/-- The text of a file that holds a written command on each line. -/
theorem wordsOfText_writeLines {lines : List (Command × LineEnd)} {last : Option Command}
    (unfed : ∀ c ∈ lines.map Prod.fst ++ last.toList, ∀ t ∈ c.tokens, '\n' ∉ t.toList) :
    wordsOfText (Command.writeLines lines last) =
      .ok ((lines.map Prod.fst ++ last.toList).flatMap Command.survivors) := by
  have rendered : (lines.map fun l => (l.1.render, l.2)).map Prod.fst ++
      (last.map Command.render).toList =
        (lines.map Prod.fst ++ last.toList).map Command.render := by
    cases last <;> simp
  rw [writeLines_eq_ofLines, wordsOfText_ofLines, rendered, wordsOfLines_render]
  · refine List.forall_mem_map.mpr fun l mem => ?_
    exact Command.whole_render (unfed l.1 (List.mem_append_left _ (List.mem_map_of_mem mem)))
  · intro l mem
    obtain ⟨c, there, rfl⟩ := Option.map_eq_some_iff.mp mem
    have inside := unfed c (List.mem_append_right _ (Option.mem_toList.mpr there))
    exact (Command.whole_render inside).unfed

/-! ### References -/

@[simp] theorem reference?_marker (raw : String) : reference? ("@" ++ raw) = some raw := by
  rw [reference?, String.toList_append]
  simp [marker]

/-- Only what starts with `@` is a reference. -/
theorem reference?_of_plain {argument : String} (plain : argument.toList.head? ≠ some '@') :
    reference? argument = none := by
  rw [reference?]
  split
  · next c cs letters =>
      rw [letters] at plain
      rw [if_neg]
      rintro rfl
      exact plain rfl
  · rfl

/-- Arguments without a reference are handed on, and nothing is read for them. -/
theorem expandWith_of_plain (inner : String → Logged (Except Failure (List String)))
    {arguments : List String} (plain : ∀ a ∈ arguments, a.toList.head? ≠ some '@') :
    expandWith inner arguments = ⟨[], .ok arguments⟩ := by
  induction arguments with
  | nil => rfl
  | cons argument arguments ih =>
      rw [List.forall_mem_cons] at plain
      rw [expandWith, reference?_of_plain plain.1]
      dsimp only
      rw [ih plain.2]
      rfl

/-- However deep files may still be nested, arguments without a reference are handed
on. -/
theorem expandAt_of_plain (w : World) (levels : Nat) {arguments : List String}
    (plain : ∀ a ∈ arguments, a.toList.head? ≠ some '@') :
    expandAt w levels arguments = ⟨[], .ok arguments⟩ := by
  cases levels with
  | zero => exact expandWith_of_plain _ plain
  | succ levels => exact expandWith_of_plain _ plain

/-- A reference to a file whose words are no references stands for these words, and the
file is read once. -/
theorem expandArguments_of_plain {w : World} {raw : String} {words : List String}
    (kept : w.expandReference raw = .ok raw)
    (read : w.readArguments (Path.ofString raw) = .ok words)
    (plain : ∀ t ∈ words, t.toList.head? ≠ some '@') :
    w.expandArguments ["@" ++ raw] =
      ⟨[readNote words.length (Path.ofString raw)], .ok words⟩ := by
  have followed : follow w raw =
      ⟨[readNote words.length (Path.ofString raw)], .ok words⟩ := by
    simp only [follow, kept, read]
  have inner := expandAt_of_plain w 15 plain
  -- one level goes into the reference, and fifteen are left for its words
  rw [World.expandArguments, maxDepth, expandAt, expandWith, reference?_marker]
  simp only [followed, inner, expandWith]
  simp [Logged.map, Logged.after, Except.map]

end ArgumentFile

/-- Variables are only looked for where there is a dollar sign. -/
theorem Reference.expandVariables_of_notMem (env : Environment) {cs : List Char}
    (bare : '$' ∉ cs) : expandVariables env cs = .ok cs := by
  induction cs with
  | nil => rw [expandVariables]
  | cons c cs ih =>
      rw [List.mem_cons, not_or] at bare
      have other : c ≠ '$' := fun h => bare.1 h.symm
      rw [expandVariables, ih bare.2]
      · rfl
      all_goals simp [other]

/-- A reference without a dollar sign names itself, unless it starts with a tilde. -/
theorem World.expandReference_of_bare (w : World) {raw : String} (bare : '$' ∉ raw.toList)
    (rooted : raw.toList.head? ≠ some '~') : w.expandReference raw = .ok raw := by
  rw [expandReference, Reference.expandVariables_of_notMem w.environment bare, Except.map]
  simp only [rooted, if_false]
  cases w.home <;> rw [String.ofList_toList]

/-- **A file of written commands gives their words back.** If the file at `path` holds
commands one after another, each on a line of its own with either ending, and no word
holds a line feed, then what is read is, command by command, the words before the first
that starts with `#`, without the blank ones.

These are all words if none is blank or starts with `#`. If none of them starts with
`@`, then a reference to the file stands for just these words; the reference may be any
that names `path` and that has no variables or tilde to replace. -/
theorem written_commands_read_back (w : World) (path : Path)
    (lines : List (Command × LineEnd)) (last : Option Command)
    (held : w.files.read w.directory path =
      .ok (Utf8.encode (Command.writeLines lines last)))
    (unfed : ∀ c ∈ lines.map Prod.fst ++ last.toList, ∀ t ∈ c.tokens, '\n' ∉ t.toList) :
    let commands := lines.map Prod.fst ++ last.toList
    let words := commands.flatMap Command.survivors
    w.readArguments path = .ok words ∧
      ((∀ c ∈ commands, ∀ t ∈ c.tokens,
          trimBlanks t.toList ≠ [] ∧ t.toList.head? ≠ some '#') →
        words = commands.flatMap Command.tokens) ∧
      ∀ raw, Path.ofString raw = path → w.expandReference raw = .ok raw →
        (∀ t ∈ words, t.toList.head? ≠ some '@') →
        w.expandArguments ["@" ++ raw] =
          ⟨[ArgumentFile.readNote words.length path], .ok words⟩ := by
  intro commands words
  have read : w.readArguments path = .ok words := by
    rw [World.readArguments_of_held held]
    exact ArgumentFile.wordsOfText_writeLines unfed
  refine ⟨read, ?_, ?_⟩
  · intro counted
    refine List.flatMap_congr fun c mem => ?_
    exact c.survivors_eq_tokens (counted c mem)
  · rintro raw rfl kept plain
    exact ArgumentFile.expandArguments_of_plain kept read plain

/-- A word with a quote in it and one that ends with a carriage return come back, and a
blank one, a comment and what follows it do not. A second command whose line has no
ending comes back as a whole. -/
theorem written_commands_read_back_of_quoted :
    let first : Command := ⟨"--name", ["it's", "a\r", "\u00a0", "#off", "gone"]⟩
    let second : Command := ⟨"two words", []⟩
    let contents := Utf8.encode (Command.writeLines [(first, .returnAndFeed)] (some second))
    let w : World :=
      { files := ⟨[([Path.ofString "args"], .file contents false)]⟩
        directory := []
        environment := ⟨[]⟩ }
    let words := ["--name", "it's", "a\r", "two words"]
    w.readArguments (Path.ofString "args") = .ok words ∧
      (w.expandArguments ["@args"]).result = .ok words := by
  intro first second contents w words
  have held : w.files.read w.directory (Path.ofString "args") = .ok contents := rfl
  have kept : w.expandReference "args" = .ok "args" :=
    w.expandReference_of_bare (by decide) (by decide)
  have counted : [first, second].flatMap Command.survivors = words := by decide
  obtain ⟨read, -, expanded⟩ := written_commands_read_back w (Path.ofString "args")
    [(first, .returnAndFeed)] (some second) held (by decide)
  have expanded := congrArg Logged.result (expanded "args" rfl kept (by decide))
  exact ⟨read.trans (congrArg Except.ok counted),
    expanded.trans (congrArg Except.ok counted)⟩

end ExitContract
