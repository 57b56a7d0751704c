import ExitContract.Proofs.CommandLine.OneWord

/-!
# The words that pass before a command

A reader lets words pass, one after the other, as options and their values, until a word
is neither: the name of a subcommand, or in a subcommand the first word of the command
or the mark before it. So what is read of a line is known from the words that pass and
the one that does not.

**Passing is spelled.** Words pass just if they are options with their values by their
looks and the reader refuses none of them. One way, whoever waits for a value in the end
could not be dealt with, so in a line that can be read each has got one
(`areOptions_of_passes`). The other way, options pass or are refused, and a line of
which a word is refused cannot be read (`passes_or_halts`).

**What cannot be a value.** Two options take whatever word comes next, the mark before
the command included. That is no number, but nobody looks at a value before the next
option or the end is reached, and the reader goes on with it. It can never deal with it,
though, so in a line that can be read the mark is not among the words that pass
(`separator_not_mem_of_passes`).

## Main definitions

* `Passes`, `Halts` — words that are read to their end, or up to one that is refused
* `Ends` — how the words of a subcommand go on after those that pass

## Main statements

* `areOptions_of_passes`, `passes_or_halts` — the words that pass are options
* `separator_not_mem_of_passes` — the mark is not read over
* `readScope_eq_ok`, `readRoot_eq_ok` — what a line was if it could be read
-/

namespace ExitContract

namespace CommandLine

open ArgumentFile (separator)

/-- The reader takes the words one after the other, as options and values. -/
inductive Passes (scope : Scope) : Reader → List Bytes → Reader → Prop
  | nil {r : Reader} : Passes scope r [] r
  | cons {r r' r'' : Reader} {word : Bytes} {words : List Bytes} :
      step scope r word = .next r' → Passes scope r' words r'' →
        Passes scope r (word :: words) r''

/-- The reader takes words as options and values until it refuses one of them. -/
inductive Halts (scope : Scope) : Reader → List Bytes → Prop
  | here {r : Reader} {reason : Stop} {word : Bytes} {words : List Bytes} :
      step scope r word = .stop reason → Halts scope r (word :: words)
  | later {r r' : Reader} {word : Bytes} {words : List Bytes} :
      step scope r word = .next r' → Halts scope r' words → Halts scope r (word :: words)

variable {scope : Scope} {r r' : Reader} {word : Bytes} {words : List Bytes}
  {s : Settings}

/-! ### The words that pass -/

/-- **Words that pass are options with their values**, if what is pending in the end can
be dealt with. Before them either nothing waits, or what does has its value first. -/
theorem areOptions_of_passes (passed : Passes scope r words r')
    (settled : r'.settle = .ok s) :
    (mayName r = true → scope.AreOptions words) ∧
      ∀ item, r.pending = .awaiting item → ∃ value rest, words = value :: rest ∧
        scope.IsValue item value ∧ scope.AreOptions rest := by
  induction passed with
  | nil => exact ⟨fun _ => .nil, fun item waits => absurd settled (settle_ne_ok waits)⟩
  | @cons r r' r'' word words went rest ih =>
      obtain ⟨ihFree, ihWaiting⟩ := ih settled
      have outcome := step_outcome scope r word
      rw [went] at outcome
      cases outcome with
      | value waits value =>
          refine ⟨fun free => ?_, fun item waits' => ?_⟩
          · simp [mayName_of_awaiting waits] at free
          · cases waits.symm.trans waits'
            exact ⟨word, words, rfl, value, ihFree rfl⟩
      | @option waiting _ option goes =>
          obtain ⟨s, idle⟩ := goes.settled
          refine ⟨fun _ => ?_, fun item waits => absurd idle (settle_ne_ok waits)⟩
          cases waiting with
          | none => exact .alone option (ihFree (mayName_of_idle goes.pending))
          | some item =>
              obtain ⟨value, rest, rfl, fits, options⟩ := ihWaiting item goes.pending
              exact .valued option fits options

/-- **Options with their values pass**, unless one of them is refused. -/
theorem passes_or_halts (options : scope.AreOptions words) (free : mayName r = true) :
    (∃ r', Passes scope r words r' ∧ mayName r' = true) ∨ Halts scope r words := by
  induction options generalizing r with
  | nil => exact .inl ⟨r, .nil, free⟩
  | alone option _ ih =>
      rcases step_of_isOption option free with ⟨reason, stopped⟩ | ⟨r', went, goes⟩
      · exact .inr (.here stopped)
      · rcases ih (mayName_of_idle goes.pending) with ⟨r'', passed, free'⟩ | halts
        · exact .inl ⟨r'', .cons went passed, free'⟩
        · exact .inr (.later went halts)
  | @valued _ value _ item option fits _ ih =>
      rcases step_of_isOption option free with ⟨reason, stopped⟩ | ⟨r', went, goes⟩
      · exact .inr (.here stopped)
      · have held := step_of_isValue goes.pending fits
        have idle : mayName { r' with pending := .held item value } = true := rfl
        rcases ih idle with ⟨r'', passed, free'⟩ | halts
        · exact .inl ⟨r'', .cons went (.cons held passed), free'⟩
        · exact .inr (.later went (.later held halts))

/-- If what was pending can be dealt with after some words, then it could be before
them. -/
theorem settle_of_passes (passed : Passes scope r words r') (free : mayName r = true)
    (settled : r'.settle = .ok s) : ∃ s, r.settle = .ok s := by
  cases passed with
  | nil => exact ⟨s, settled⟩
  | cons went _ => exact settle_of_step free went

/-- The mark is no value of the options that take any word. -/
theorem give_separator {item : Item} (hyphened : item.hyphenValue = true)
    (s s' : Settings) : s.give item separator ≠ .ok s' := by
  intro given
  unfold Settings.give at given
  split at given
  · cases given
  have text : textValue separator = .ok "--" := by
    rw [textValue, separator, Utf8.decode?_encode]
  cases item with
  | expect | killCode =>
      simp only [Settings.assign, text] at given
      cases given
  | _ => cases hyphened

theorem step_separator (went : step scope r separator = .next r') :
    ∃ item : Item, item.hyphenValue = true ∧
      r' = { r with pending := .held item separator } := by
  unfold step at went
  split at went
  · next item _ =>
      split at went
      · next hyphened => exact ⟨item, hyphened, (Step.next.inj went).symm⟩
      · cases went
  · cases went

/-- **The mark before the command is never read over**, if what is pending in the end
can be dealt with. -/
theorem separator_not_mem_of_passes (passed : Passes scope r words r')
    (settled : r'.settle = .ok s) : separator ∉ words := by
  induction passed with
  | nil => exact List.not_mem_nil
  | @cons r r' r'' word words went rest ih =>
      intro mem
      rcases List.mem_cons.mp mem with rfl | mem
      · obtain ⟨item, hyphened, rfl⟩ := step_separator went
        obtain ⟨s', given⟩ := settle_of_passes rest rfl settled
        exact give_separator hyphened _ _ given
      · exact ih settled mem

/-! ### A subcommand -/

/-- How the words of a subcommand go on after those that pass, and the words of the
command that they give. -/
inductive Ends (scope : Scope) : List Bytes → List Bytes → Prop
  | nothing : Ends scope [] []
  | mark (words : List Bytes) : Ends scope (separator :: words) words
  | word {word : Bytes} (words : List Bytes) : scope.IsPlain word →
      Ends scope (word :: words) (word :: words)

theorem readScope_of_passes (passed : Passes scope r words r') (rest : List Bytes) :
    readScope scope r (words ++ rest) = readScope scope r' rest := by
  induction passed with
  | nil => rfl
  | cons went _ ih =>
      rw [List.cons_append, readScope, went]
      exact ih

/-- After a word that is refused nothing is read. -/
theorem readScope_of_halts (halts : Halts scope r words) (rest : List Bytes) :
    ∃ reason, readScope scope r (words ++ rest) = .error reason := by
  induction halts with
  | @here _ reason _ _ stopped =>
      rw [List.cons_append, readScope, stopped]
      exact ⟨reason, rfl⟩
  | later went _ ih =>
      rw [List.cons_append, readScope, went]
      exact ih

/-- What a subcommand was given if its words could be read. -/
theorem readScope_eq_ok (takes : scope.takesCommand = true) {given : Given}
    (read : readScope scope r words = .ok given) :
    ∃ options rest r', words = options ++ rest ∧ Passes scope r options r' ∧
      r'.settle = .ok given.settings ∧ Ends scope rest given.words := by
  induction words generalizing r with
  | nil =>
      obtain ⟨s, settled, rfl⟩ := map_eq_ok_iff.mp read
      exact ⟨[], [], r, rfl, .nil, settled, .nothing⟩
  | cons word words ih =>
      rw [readScope] at read
      split at read
      · next r' went =>
          obtain ⟨options, rest, r'', rfl, passed, settled, ends⟩ := ih read
          exact ⟨word :: options, rest, r'', rfl, .cons went passed, settled, ends⟩
      · cases read
      · next operand =>
          rw [if_pos takes] at read
          obtain ⟨s, settled, rfl⟩ := map_eq_ok_iff.mp read
          have plain := (step_eq_operand_iff.mp operand).2
          exact ⟨[], word :: words, r, rfl, .nil, settled, .word words plain⟩
      · next mark =>
          rw [if_pos takes] at read
          obtain ⟨s, settled, rfl⟩ := map_eq_ok_iff.mp read
          cases eq_separator_of_step mark
          exact ⟨[], separator :: words, r, rfl, .nil, settled, .mark words⟩

/-! ### The name of a subcommand -/

theorem mem_subcommands (takes : scope.takesCommand = true) :
    scope ∈ Scope.subcommands := by
  cases scope with
  | run | stream => decide
  | root | tokenize => cases takes

/-- A word that names a subcommand is how its name is written. -/
theorem names_iff : (Utf8.decode? word).bind Scope.ofName? = some scope ↔
    scope ∈ Scope.subcommands ∧ word = Utf8.encode scope.name := by
  refine ⟨fun named => ?_, fun ⟨named, same⟩ => ?_⟩
  · obtain ⟨name, read, found⟩ := Option.bind_eq_some_iff.mp named
    have same : scope.name = name := by simpa using List.find?_some found
    rw [same, Utf8.encode_of_decode? read]
    exact ⟨List.mem_of_find?_eq_some found, rfl⟩
  · rw [same, Utf8.decode?_encode, Option.bind_some]
    simp only [Scope.subcommands, List.mem_cons, List.not_mem_nil, or_false] at named
    rcases named with rfl | rfl | rfl <;> rfl

/-- No name looks like an option. -/
theorem step_name (scope : Scope) (free : mayName r = true)
    (named : word = Utf8.encode helpName ∨
      ∃ scope' ∈ Scope.subcommands, word = Utf8.encode scope'.name) :
    step scope r word = .operand := by
  simp only [Scope.subcommands, List.mem_cons, List.not_mem_nil, or_false,
    exists_eq_or_imp, exists_eq_left] at named
  rcases named with rfl | rfl | rfl | rfl <;>
    exact step_of_isPlain free (.unmarked (by decide))

/-- A word that is no operand is no name either, so it is read like any other word. -/
theorem readRoot_cons (env : Environment) (other : step .root r word ≠ .operand)
    (rest : List Bytes) :
    readRoot env r (word :: rest) =
      match step .root r word with
      | .next r => readRoot env r rest
      | .stop e => .error e
      | .operand => .error .invalidSubcommand
      | .separator => (readStray r rest).bind fun s => .error (withoutSubcommand env s) := by
  have unnamed : mayName r = true → ¬ (word = Utf8.encode helpName ∨
      ∃ scope ∈ Scope.subcommands, word = Utf8.encode scope.name) :=
    fun free named => other (step_name .root free named)
  rw [readRoot, if_neg]
  · split
    · next scope found =>
        split at found
        · next free =>
            obtain ⟨named, same⟩ := names_iff.mp found
            exact absurd (.inr ⟨scope, named, same⟩) (unnamed free)
        · cases found
    · rfl
  · intro help
    rw [Bool.and_eq_true, beq_iff_eq] at help
    exact unnamed help.1 (.inl help.2)

theorem readRoot_of_passes {env : Environment} (passed : Passes .root r words r')
    (rest : List Bytes) : readRoot env r (words ++ rest) = readRoot env r' rest := by
  induction passed with
  | nil => rfl
  | cons went _ ih =>
      rw [List.cons_append, readRoot_cons env (by simp [went]), went]
      exact ih

/-- After a word that is refused nothing is read. -/
theorem readRoot_of_halts {env : Environment} (halts : Halts .root r words)
    (rest : List Bytes) : ∃ reason, readRoot env r (words ++ rest) = .error reason := by
  induction halts with
  | @here _ reason _ _ stopped =>
      rw [List.cons_append, readRoot_cons env (by simp [stopped]), stopped]
      exact ⟨reason, rfl⟩
  | later went _ ih =>
      rw [List.cons_append, readRoot_cons env (by simp [went]), went]
      exact ih

theorem readRoot_name {env : Environment} (free : mayName r = true)
    (named : scope ∈ Scope.subcommands) (rest : List Bytes) :
    readRoot env r (Utf8.encode scope.name :: rest) = readSubcommand env r scope rest := by
  have noHelp : (Utf8.encode scope.name == Utf8.encode helpName) = false := by
    simp only [Scope.subcommands, List.mem_cons, List.not_mem_nil, or_false] at named
    rcases named with rfl | rfl | rfl <;> decide
  rw [readRoot, noHelp, Bool.and_false, if_neg Bool.false_ne_true, if_pos free,
    names_iff.mpr ⟨named, rfl⟩]

/-- **What a line was if it could be read**: words that pass, the name of a subcommand,
and the words of that one. -/
theorem readRoot_eq_ok {env : Environment} {request : Request}
    (read : readRoot env r words = .ok request) :
    ∃ before scope rest r', words = before ++ Utf8.encode scope.name :: rest ∧
      scope ∈ Scope.subcommands ∧ Passes .root r before r' ∧
        readSubcommand env r' scope rest = .ok request := by
  induction words generalizing r with
  | nil =>
      obtain ⟨s, -, none⟩ := bind_eq_ok_iff.mp read
      cases none
  | cons word words ih =>
      rw [readRoot] at read
      split at read
      · cases read
      split at read
      · next scope found =>
          split at found
          · obtain ⟨named, rfl⟩ := names_iff.mp found
            exact ⟨[], scope, words, r, rfl, named, .nil, read⟩
          · cases found
      · split at read
        · next r' went =>
            obtain ⟨before, scope, rest, r'', rfl, named, passed, read⟩ := ih read
            exact ⟨word :: before, scope, rest, r'', rfl, named, .cons went passed, read⟩
        · cases read
        · cases read
        · obtain ⟨s, -, none⟩ := bind_eq_ok_iff.mp read
          cases none

end CommandLine

end ExitContract
