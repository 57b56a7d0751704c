import ExitContract.Proofs.ArgumentFile.WrittenCommands
import ExitContract.Proofs.CommandLine.Passage

/-!
# What stands after the mark before a command

Of a line with the mark `--` the words after the first one are always the end of the
command, and they are the whole command unless something before the mark starts it.

**Two looks at one mark.** The mark is searched for twice: in the line as it was given,
to know how far references are replaced, and by the reader in the line that this makes.
A file may have brought another mark in, or a word that starts a command, so the reader
may be done with options earlier than the first look said. It is never done later: the
words that pass hold no mark (`separator_not_mem_of_passes`), so wherever the reader
stops, what stood after the mark stands in what is left, and of that not a word is
looked at.

**Which words start a command.** This is said of the words alone (`StartsCommand`): what
was set, and whether values are of their kind, does not come into it. A line of which
the reader refuses a word is no request, and of all others it starts the command where
the words say so.

## Main definitions

* `Request.command?` — the command of a request that has one
* `StartsCommand` — one of some words starts a command

## Main statements

* `tokens_of_readRoot` — what the words before the mark leave for the command
* `command_after_separator` — the same for whole lines, references included
-/

namespace ExitContract

/-- What an action asks about running a command, if it shall run one. -/
def Action.execution? : Action → Option Execution
  | .run r => some r.execution
  | .stream r => some r.execution
  | .tokenize _ => none

/-- The command of a request that has one. -/
def Request.command? (r : Request) : Option Command :=
  r.action.execution?.map Execution.command

namespace CommandLine

open ArgumentFile (separator)

/-- One of the words starts a command: a subcommand with one is named before it, the
other words before it are options with their values, and it is none by its looks. -/
inductive StartsCommand : List Bytes → Prop
  | intro {scope : Scope} {before options : List Bytes} {word : Bytes}
      (after : List Bytes) : scope.takesCommand = true → Scope.root.AreOptions before →
        scope.AreOptions options → scope.IsPlain word →
          StartsCommand (before ++ Utf8.encode scope.name :: (options ++ word :: after))

variable {env : Environment} {scope : Scope} {r : Reader} {request : Request}
  {c : Command}

/-! ### The words of a command -/

theorem textValue_eq_ok {value : Bytes} {text : String}
    (read : textValue value = .ok text) : Utf8.encode text = value := by
  unfold textValue at read
  split at read
  · next decoded =>
      cases read
      exact Utf8.encode_of_decode? decoded
  · cases read

/-- Words that are texts are how these are written. -/
theorem map_encode_of_mapM {words : List Bytes} {texts : List String}
    (read : words.mapM textValue = .ok texts) : texts.map Utf8.encode = words := by
  induction words generalizing texts with
  | nil =>
      cases read
      rfl
  | cons word words ih =>
      simp only [List.mapM_cons, bind, bind_eq_ok_iff] at read
      obtain ⟨text, first, rest, read, whole⟩ := read
      cases whole
      rw [List.map_cons, textValue_eq_ok first, ih read]

/-- A command is checked to be there. -/
theorem tokens_of_checkExecution {s : Settings} {words : List String} {e : Execution}
    (checked : checkExecution s words = .ok e) : e.command.tokens = words := by
  unfold checkExecution at checked
  split at checked
  · cases checked
  split at checked
  · cases checked
  · next nonempty =>
      cases checked
      cases words with
      | nil => exact absurd rfl nonempty
      | cons => rfl

/-- The command of an action is made of the words that its subcommand was given. -/
theorem tokens_of_action (named : scope ∈ Scope.subcommands) {given : Given} {a : Action}
    (acted : action scope given = .ok a)
    (asked : a.execution?.map Execution.command = some c) :
    scope.takesCommand = true ∧ c.tokens.map Utf8.encode = given.words := by
  unfold action at acted
  dsimp only at acted
  split at acted
  · cases acted
  next words read =>
  rw [← map_encode_of_mapM read]
  cases scope with
  | root => simp [Scope.subcommands] at named
  | run | stream =>
      obtain ⟨e, checked, rfl⟩ := map_eq_ok_iff.mp acted
      cases asked
      rw [tokens_of_checkExecution checked]
      exact ⟨rfl, rfl⟩
  | tokenize =>
      dsimp only at acted
      split at acted
      · cases acted
      · cases acted
        cases asked

/-- The command of a request is made of the words that its subcommand was given. -/
theorem tokens_of_readSubcommand (named : scope ∈ Scope.subcommands) {words : List Bytes}
    (read : readSubcommand env r scope words = .ok request)
    (asked : request.command? = some c) :
    scope.takesCommand = true ∧ (∃ s, r.settle = .ok s) ∧ ∃ given,
      readScope scope {} words = .ok given ∧ c.tokens.map Utf8.encode = given.words := by
  unfold readSubcommand at read
  split at read
  · cases read
  next given inner =>
  split at read
  · cases read
  next a acted =>
  obtain ⟨s, settled, rfl⟩ := map_eq_ok_iff.mp read
  obtain ⟨takes, tokens⟩ := tokens_of_action named acted asked
  exact ⟨takes, ⟨s, settled⟩, given, inner, tokens⟩

/-! ### Before and after the mark -/

/-- A list that is cut in front of an entry, and somewhere else as well, where the entry
is not in the first part: the other cut is the earlier one. -/
theorem cut_before {α : Type} {a : α} {xs ys zs ws : List α}
    (same : xs ++ a :: ys = zs ++ ws) (absent : a ∉ zs) :
    ∃ vs, xs = zs ++ vs ∧ ws = vs ++ a :: ys := by
  rcases List.append_eq_append_iff.mp same with ⟨as, rfl, rest⟩ | ⟨vs, rfl, rest⟩
  · cases as with
    | nil => exact ⟨[], by simp, rest.symm⟩
    | cons b as =>
        cases rest
        simp at absent
  · exact ⟨vs, rfl, rest⟩

/-- What starts a command is in it, with all that follows. -/
theorem tokens_of_startsCommand {words rest : List Bytes} (starts : StartsCommand words)
    (read : readRoot env {} (words ++ rest) = .ok request)
    (asked : request.command? = some c) :
    ∃ word after, c.tokens.map Utf8.encode = word :: after ++ rest := by
  obtain @⟨scope, before, options, word, after, takes, areBefore, areOptions, plain⟩ :=
    starts
  have named := mem_subcommands takes
  rw [List.append_assoc] at read
  obtain ⟨r, passed, free⟩ : ∃ r, Passes .root {} before r ∧ mayName r = true := by
    refine (passes_or_halts areBefore rfl).resolve_right fun halts => ?_
    obtain ⟨reason, refused⟩ := readRoot_of_halts halts _
    cases read.symm.trans refused
  rw [readRoot_of_passes passed, List.cons_append, readRoot_name free named,
    List.append_assoc] at read
  obtain ⟨-, -, given, inner, tokens⟩ := tokens_of_readSubcommand named read asked
  obtain ⟨r', passed', free'⟩ : ∃ r', Passes scope {} options r' ∧ mayName r' = true := by
    refine (passes_or_halts areOptions rfl).resolve_right fun halts => ?_
    obtain ⟨reason, refused⟩ := readScope_of_halts halts _
    cases inner.symm.trans refused
  rw [readScope_of_passes passed', List.cons_append, readScope,
    step_of_isPlain free' plain] at inner
  simp only [takes, if_true] at inner
  obtain ⟨s, -, rfl⟩ := map_eq_ok_iff.mp inner
  exact ⟨word, after, tokens⟩

/-- **What the words before the mark leave for the command**: nothing of themselves, unless
another mark is among them or one of them starts a command. -/
theorem tokens_of_readRoot {words cmd : List Bytes}
    (read : readRoot env {} (words ++ separator :: cmd) = .ok request)
    (asked : request.command? = some c) :
    ∃ more, c.tokens.map Utf8.encode = more ++ cmd ∧ (more = [] → separator ∉ words) ∧
      (more ≠ [] → separator ∈ words ∨ StartsCommand words) := by
  obtain ⟨before, scope, rest, r, whole, named, passed, read⟩ := readRoot_eq_ok read
  obtain ⟨takes, ⟨s, settled⟩, given, inner, tokens⟩ :=
    tokens_of_readSubcommand named read asked
  obtain ⟨options, rest, r', rfl, passed', settled', ends⟩ := readScope_eq_ok takes inner
  -- neither the words that pass nor the name of the subcommand are the mark
  have unmarked : separator ∉ before ++ Utf8.encode scope.name :: options := by
    have name : separator ≠ Utf8.encode scope.name := by
      cases scope <;> decide
    simp [separator_not_mem_of_passes passed settled, name,
      separator_not_mem_of_passes passed' settled']
  obtain ⟨left, rfl, rfl⟩ : ∃ left,
      words = (before ++ Utf8.encode scope.name :: options) ++ left ∧
        rest = left ++ separator :: cmd :=
    cut_before (by simpa using whole) unmarked
  rw [tokens]
  generalize given.words = taken at ends
  rcases left with - | ⟨first, left⟩
  · cases ends with
    | mark => exact ⟨[], rfl, fun _ => by simpa using unmarked, fun h => absurd rfl h⟩
    | word _ plain => exact absurd plain not_isPlain_separator
  · cases ends with
    | mark =>
        refine ⟨left ++ [separator], by simp, by simp, fun _ => .inl (by simp)⟩
    | word _ plain =>
        refine ⟨first :: left ++ [separator], by simp, by simp, fun _ => .inr ?_⟩
        have areBefore := (areOptions_of_passes passed settled).1 rfl
        have areOptions := (areOptions_of_passes passed' settled').1 rfl
        have start := StartsCommand.intro left takes areBefore areOptions plain
        simpa using start

/-! ### References -/

/-- References are replaced in the words before the mark, and nowhere else. -/
theorem expandCommandLine_eq_ok {w : World} {program : Bytes}
    {before cmd words : List Bytes} (notMark : program ≠ separator) (first : separator ∉ before)
    (expanded : (w.expandCommandLine (program :: before ++ separator :: cmd)).result =
      .ok words) :
    ∃ ws, (ArgumentFile.expandRaw w before).result = .ok ws ∧
      words = program :: ws ++ separator :: cmd := by
  have other : ∀ word ∈ program :: before, (word != separator) = true := by
    rintro word (_ | ⟨_, mem⟩)
    · simpa using notMark
    · exact bne_iff_ne.mpr fun same => first (same ▸ mem)
  unfold World.expandCommandLine at expanded
  rw [List.takeWhile_append_of_pos other, List.dropWhile_append_of_pos other] at expanded
  simp only [List.takeWhile_cons, List.dropWhile_cons, bne_self_eq_false] at expanded
  obtain ⟨ws, replaced, rfl⟩ := map_eq_ok_iff.mp expanded
  refine ⟨ws, ?_, rfl⟩
  simpa using replaced

end CommandLine

open ArgumentFile (separator) in
/-- **What stands after the first mark of a line reaches the command untouched.** If the
line can be read as a request for a command, then the words after its mark are the end of
that command, and they are all of it just if among the words before the mark, once their
references are replaced, there is neither another mark nor a word that starts a
command. -/
theorem command_after_separator (w : World) {program : Bytes}
    {before cmd words : List Bytes} {request : Request} {c : Command}
    (notMark : program ≠ separator) (first : separator ∉ before)
    (expanded : (w.expandCommandLine (program :: before ++ separator :: cmd)).result =
      .ok words)
    (parsed : CommandLine.parse w.environment words = .ok request)
    (asked : request.command? = some c) :
    cmd <:+ c.tokens.map Utf8.encode ∧
      ∃ ws, (ArgumentFile.expandRaw w before).result = .ok ws ∧
        words = program :: ws ++ separator :: cmd ∧
        (c.tokens.map Utf8.encode = cmd ↔
          separator ∉ ws ∧ ¬ CommandLine.StartsCommand ws) := by
  obtain ⟨ws, replaced, rfl⟩ := CommandLine.expandCommandLine_eq_ok notMark first expanded
  have read : CommandLine.readRoot w.environment {} (ws ++ separator :: cmd) =
      .ok request := parsed
  obtain ⟨more, tokens, nothing, something⟩ := CommandLine.tokens_of_readRoot read asked
  refine ⟨⟨more, tokens.symm⟩, ws, replaced, rfl, ?_⟩
  refine ⟨fun whole => ?_, fun ⟨unmarked, unstarted⟩ => ?_⟩
  · have alone : more = [] := by simpa [tokens] using whole
    refine ⟨nothing alone, fun starts => ?_⟩
    obtain ⟨word, after, longer⟩ := CommandLine.tokens_of_startsCommand starts read asked
    have lengths := congrArg List.length (whole.symm.trans longer)
    simp only [List.length_append, List.length_cons] at lengths
    omega
  · by_cases alone : more = []
    · rw [tokens, alone, List.nil_append]
    · exact absurd (something alone) (by simp [unmarked, unstarted])

/-- The words after the mark of a line whose options come from a file are the command,
with a reference, a second mark, an option and an empty word among them. A mark inside a
value starts no command, nor does a value that starts with a hyphen. -/
theorem command_after_separator_of_file :
    let contents := Utf8.encode "--kill-code -9 -m 'a -- b'"
    let w : World :=
      { files := ⟨[([Path.ofString "options"], .file contents false)]⟩
        directory := []
        environment := ⟨[]⟩ }
    let before := ["stream", "@options"].map Utf8.encode
    let options := ["stream", "--kill-code", "-9", "-m", "a -- b"].map Utf8.encode
    let cmd := ["@x", "--", "-v", ""].map Utf8.encode
    let line := Utf8.encode "program" :: before ++ ArgumentFile.separator :: cmd
    let words := Utf8.encode "program" :: options ++ ArgumentFile.separator :: cmd
    (w.expandCommandLine line).result = .ok words ∧
      (∃ request, CommandLine.parse w.environment words = .ok request ∧
        request.command? = some ⟨"@x", ["--", "-v", ""]⟩) ∧
      ¬ CommandLine.StartsCommand options := by
  intro contents w before options cmd line words
  have kept : w.expandReference "options" = .ok "options" :=
    w.expandReference_of_bare (by decide) (by decide)
  have read : w.readArguments (Path.ofString "options") =
      .ok ["--kill-code", "-9", "-m", "a -- b"] := rfl
  have file := ArgumentFile.expandArguments_of_plain kept read (by decide)
  have same : (ArgumentFile.expandRaw w before).result = .ok options := by
    have lossy : Utf8.decodeLossy (Utf8.encode "@options") = "@" ++ "options" := by decide
    simp only [before, List.map_cons, List.map_nil]
    rw [ArgumentFile.expandRaw, if_neg (by decide), ArgumentFile.expandRaw,
      if_pos (by decide), lossy, file]
    rfl
  have expanded : (w.expandCommandLine line).result = .ok words :=
    congrArg (Except.map fun ws =>
      Utf8.encode "program" :: ws ++ ArgumentFile.separator :: cmd) same
  have parsed : ∃ request, CommandLine.parse w.environment words = .ok request ∧
      request.command? = some ⟨"@x", ["--", "-v", ""]⟩ := ⟨_, rfl, rfl⟩
  refine ⟨expanded, parsed, ?_⟩
  obtain ⟨request, parsed, asked⟩ := parsed
  obtain ⟨-, ws, replaced, -, whole⟩ :=
    command_after_separator w (by decide) (by decide) expanded parsed asked
  cases replaced.symm.trans same
  exact (whole.mp rfl).2

end ExitContract
