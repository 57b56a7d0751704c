import ExitContract.Proofs.CommandLine.Separator
import ExitContract.Proofs.CommandLine.WrittenClause

/-!
# Written requests are read back

Every request for a command can be written as a command line and is read back from it:
what it sets in words of their own, in any order that keeps the variables in theirs and
with what concerns the whole program on either side of the name of the subcommand, then
the mark, and then the command.

**From a line to a request.** The words of a line put together what the request sets, in
two parts: what stood before the name of the subcommand, and what stood after it. Of the
first part only two fields can be set, and the action does not depend on them, so it is
read from the second part alone, while for these two fields both parts count
(`settings_eq_merge`).

**What need not be written.** The usual format is the one that is taken if none is set,
so a request for it may or may not say so.

## Main definitions

* `Request.settings`, `Request.written` — what a request sets, as a whole and one by one
* `Request.WrittenAs` — the clauses of a line are those of a request

## Main statements

* `Request.foldl_put_written` — what is written for a request is what it sets
* `written_request_read_back` — requests are read as they are written
-/

namespace ExitContract

namespace CommandLine

variable {scope : Scope} {s : Settings} {g : Clause}

/-! ### What the clauses of a line come to -/

theorem mapM_textValue_encode (texts : List String) :
    (texts.map Utf8.encode).mapM textValue = .ok texts := by
  induction texts with
  | nil => rfl
  | cons text texts ih =>
      rw [List.map_cons, List.mapM_cons, textValue_encode, ih]
      rfl

/-- An action depends neither on what is set for the whole program nor on a format that
is the usual one. -/
theorem action_merge {verbose : Bool} {config : Option String}
    {format : Option OutputFormat} (usual : format.getD .text = .text) (t : Settings)
    (words : List Bytes) :
    action scope ⟨Settings.merge
      { verbose := verbose, config := config, format := format } t, words⟩ =
        action scope ⟨t, words⟩ := by
  have same : (t.format.or format).getD .text = t.format.getD .text := by
    cases t.format with
    | none => exact usual
    | some => rfl
  unfold action
  simp only [Settings.merge, Option.or_none, Bool.false_or, List.nil_append, same]
  rfl

/-- Before the name of a subcommand nothing is set but what concerns the whole program. -/
theorem exists_foldl_put {root : List Clause} (verbose : Bool) (config : Option String)
    (whole : ∀ g ∈ root, g.item = .verbose ∨ g.item = .config) :
    ∃ verbose' config', root.foldl Settings.put { verbose := verbose, config := config } =
      { verbose := verbose', config := config' } := by
  induction root generalizing verbose config with
  | nil => exact ⟨verbose, config, rfl⟩
  | cons g root ih =>
      have rest := fun h mem => whole h (List.mem_cons_of_mem g mem)
      rcases whole g List.mem_cons_self with item | item <;> cases g <;> cases item
      · exact ih true config rest
      · exact ih verbose _ rest

theorem isWritable_of_mem_given {item : Item} (mem : g ∈ s.given item)
    (directory : s.directory ≠ some []) (keys : ∀ b ∈ s.bindings, '=' ∉ b.1.toList) :
    g.IsWritable := by
  cases g with
  | directory path =>
      cases item_of_mem_given mem
      rintro rfl
      simp [Settings.given, Clause.item] at mem
      exact directory mem
  | assignment key value =>
      cases item_of_mem_given mem
      simp [Settings.given, Clause.item] at mem
      exact keys _ mem
  | _ => trivial

end CommandLine

/-! ### Requests -/

open CommandLine

/-- The subcommand of an action. -/
def Action.scope : Action → Scope
  | .run _ => .run
  | .stream _ => .stream
  | .tokenize _ => .tokenize

/-- What is asked about running a command can be written: there is a command, a directory
has a name, the names of variables end where their values begin, and it is not asked for
one exit code and for any. -/
structure Execution.IsWritable (e : Execution) : Prop where
  words : e.words ≠ []
  directory : e.directory ≠ some []
  bindings : ∀ b ∈ e.bindings, '=' ∉ b.1.toList
  agree : ¬ (e.expect.isSome = true ∧ e.noExpect = true)

/-- What is set about running a command. -/
def Execution.settings (e : Execution) : Settings where
  message := e.message
  expect := e.expect
  noExpect := e.noExpect
  directory := e.directory
  bindings := e.bindings

namespace Request

/-- What a request sets. -/
def settings (r : Request) : Settings :=
  match r.action with
  | .run q =>
    { q.execution.settings with
      verbose := r.verbose
      config := r.config
      format := some q.format }
  | .stream q =>
    { q.execution.settings with
      verbose := r.verbose
      config := r.config
      timeout := q.timeout
      killCode := q.killCode
      failOnTimeout := q.failOnTimeout }
  | .tokenize q =>
    { verbose := r.verbose
      config := r.config
      format := some q.format
      file := some q.file }

/-- The clauses of a request, in the order of the options of its subcommand. -/
def written (r : Request) : List Clause := r.action.scope.items.flatMap r.settings.given

/-- A line with some clauses before the name of the subcommand and some after it sets what
the request does. -/
structure WrittenAs (r : Request) (root sub : List Clause) : Prop where
  /-- The clauses are those of the request, with or without the usual format. -/
  same : (root ++ sub).Perm r.written ∨ (.format .text :: (root ++ sub)).Perm r.written
  /-- The variables are in their order. -/
  order : (root ++ sub).filterMap Clause.binding? = r.settings.bindings
  /-- Before the name of the subcommand stands what concerns the whole program. -/
  whole : ∀ g ∈ root, g.item = .verbose ∨ g.item = .config

variable {r : Request} {e : Execution} {root sub : List Clause}

/-- What a request sets is put together again from what is written for it. -/
theorem foldl_put_written (asked : r.action.execution? = some e) :
    r.written.foldl Settings.put {} = r.settings := by
  rw [written, foldl_put_flatMap_given]
  obtain ⟨verbose, config, action⟩ := r
  cases action with
  | run | stream =>
      simp [settings, Execution.settings, Action.scope, Scope.items, Settings.merge,
        Settings.only]
  | tokenize => cases asked

theorem once_written (r : Request) : Once r.written := by
  refine once_given r.settings ?_
  cases r.action.scope <;> decide

theorem takesCommand_scope (asked : r.action.execution? = some e) :
    r.action.scope.takesCommand = true := by
  obtain ⟨verbose, config, action⟩ := r
  cases action with
  | run | stream => rfl
  | tokenize => cases asked

/-- What is asked about running a command is checked, and taken over. -/
theorem checkExecution_eq_ok (writable : e.IsWritable) {s : Settings}
    (message : s.message = e.message) (expect : s.expect = e.expect)
    (noExpect : s.noExpect = e.noExpect) (directory : s.directory = e.directory)
    (bindings : s.bindings = e.bindings) : checkExecution s e.words = .ok e := by
  have agree : (s.expect.isSome && s.noExpect) = false := by
    rw [expect, noExpect]
    simpa using writable.agree
  have nonempty : e.words.isEmpty = false := by simpa using writable.words
  rw [checkExecution, agree, nonempty, message, expect, noExpect, directory, bindings]
  rfl

/-- The action is made of what the request sets. -/
theorem action_settings (asked : r.action.execution? = some e) (writable : e.IsWritable) :
    CommandLine.action r.action.scope ⟨r.settings, e.words.map Utf8.encode⟩ =
      .ok r.action := by
  obtain ⟨verbose, config, action⟩ := r
  cases action with
  | run | stream =>
      cases asked
      simp only [CommandLine.action, mapM_textValue_encode, Action.scope]
      rw [checkExecution_eq_ok writable rfl rfl rfl rfl rfl]
      rfl
  | tokenize => cases asked

theorem isWritable_of_mem_written (asked : r.action.execution? = some e)
    (writable : e.IsWritable) {g : Clause} (mem : g ∈ r.written) : g.IsWritable := by
  obtain ⟨item, -, mem⟩ := List.mem_flatMap.mp mem
  obtain ⟨verbose, config, action⟩ := r
  cases action with
  | run | stream =>
      cases asked
      exact isWritable_of_mem_given mem writable.directory writable.bindings
  | tokenize => cases asked

theorem known_of_mem_written {g : Clause} (mem : g ∈ r.written) :
    g.item ∈ r.action.scope.items := by
  obtain ⟨item, known, mem⟩ := List.mem_flatMap.mp mem
  exact item_of_mem_given mem ▸ known

/-! ### From a line to a request -/

/-- The clauses of a line are those of the request, once a usual format that was left out
is put before them. -/
theorem WrittenAs.exists_usual (written : r.WrittenAs root sub) :
    ∃ (usual : List Clause) (format : Option OutputFormat),
      usual.foldl Settings.put {} = { format := format } ∧ format.getD .text = .text ∧
      usual.filterMap Clause.binding? = [] ∧
      (usual ++ (root ++ sub)).Perm r.written := by
  rcases written.same with same | same
  · exact ⟨[], none, rfl, rfl, rfl, same⟩
  · exact ⟨[.format .text], some .text, rfl, rfl, rfl, same⟩

theorem WrittenAs.once (written : r.WrittenAs root sub) : Once (root ++ sub) := by
  obtain ⟨usual, -, -, -, -, same⟩ := written.exists_usual
  exact (List.pairwise_append.mp (r.once_written.of_perm same)).2.1

theorem WrittenAs.mem_written (written : r.WrittenAs root sub) {g : Clause}
    (mem : g ∈ root ++ sub) : g ∈ r.written := by
  obtain ⟨usual, -, -, -, -, same⟩ := written.exists_usual
  exact same.subset (List.mem_append_right usual mem)

/-- **The two parts of a line come to what the request sets**, up to a usual format. -/
theorem WrittenAs.settings_eq_merge (written : r.WrittenAs root sub)
    (asked : r.action.execution? = some e) :
    ∃ verbose config format, format.getD .text = .text ∧
      root.foldl Settings.put {} = { verbose := verbose, config := config } ∧
      r.settings = Settings.merge
        { verbose := verbose, config := config, format := format }
          (sub.foldl Settings.put {}) := by
  obtain ⟨usual, format, usualSet, isUsual, unbound, same⟩ := written.exists_usual
  obtain ⟨verbose, config, rootSet⟩ := exists_foldl_put false none written.whole
  refine ⟨verbose, config, format, isUsual, rootSet, ?_⟩
  -- in the order of the options, and with the usual format, the clauses are those of the
  -- request; then they are cut where the line is cut
  have once := r.once_written.of_perm same
  have order : (usual ++ (root ++ sub)).filterMap Clause.binding? =
      r.written.filterMap Clause.binding? := by
    have inOrder := bindings_foldl_put r.written {}
    rw [r.foldl_put_written asked] at inOrder
    rw [List.filterMap_append, unbound, List.nil_append, written.order, inOrder]
    rfl
  calc r.settings
      = r.written.foldl Settings.put {} := (r.foldl_put_written asked).symm
    _ = (usual ++ (root ++ sub)).foldl Settings.put {} :=
        (foldl_put_of_perm once same order).symm
    _ = (Settings.merge { format := format }
          { verbose := verbose, config := config }).merge (sub.foldl Settings.put {}) := by
        rw [← List.append_assoc, foldl_put_append, foldl_put_append, usualSet, rootSet]
    _ = _ := by simp [Settings.merge]

/-- Read from what its parts come to, a request is itself again. -/
theorem request_eq (env : Environment) {verbose : Bool} {config : Option String}
    {format : Option OutputFormat} {sub : Settings}
    (parts : r.settings =
      Settings.merge { verbose := verbose, config := config, format := format } sub)
    (unmoved : r.config.isSome = true ∨ env.get? configVariable = none) :
    request env { verbose := verbose, config := config } sub r.action = r := by
  have verboseSet : r.verbose = (verbose || sub.verbose) := by
    rw [← show r.settings.verbose = r.verbose by unfold settings; split <;> rfl, parts]
    rfl
  have configSet : r.config = sub.config.or config := by
    rw [← show r.settings.config = r.config by unfold settings; split <;> rfl, parts]
    rfl
  have kept : r.config.or (env.get? configVariable) = r.config := by
    rcases unmoved with given | absent
    · obtain ⟨path, given⟩ := Option.isSome_iff_exists.mp given
      rw [given]
      rfl
    · rw [absent, Option.or_none]
  rw [request, ← verboseSet, ← configSet, kept]

end Request

/-- **Every request for a command is read as it is written**: it takes one word for each
thing that it sets, in any order that keeps the variables in theirs and with what concerns
the whole program before or after the name of the subcommand, then the mark, and then the
command. A configuration that the request does not name must not be named by the
surroundings, for then it would be read. -/
theorem written_request_read_back (env : Environment) (program : Bytes) {r : Request}
    {e : Execution} {root sub : List Clause} (asked : r.action.execution? = some e)
    (writable : e.IsWritable)
    (config : r.config.isSome = true ∨ env.get? configVariable = none)
    (written : r.WrittenAs root sub) :
    parse env (program :: root.map Clause.word ++ Utf8.encode r.action.scope.name ::
        (sub.map Clause.word ++ ArgumentFile.separator :: e.words.map Utf8.encode)) =
      .ok r ∧
    r.command?.map Command.tokens = some e.words := by
  obtain ⟨verbose, config', format, usual, rootSet, parts⟩ :=
    written.settings_eq_merge asked
  have acted : action r.action.scope
      ⟨sub.foldl Settings.put {}, e.words.map Utf8.encode⟩ = .ok r.action := by
    rw [← action_merge usual, ← parts]
    exact Request.action_settings asked writable
  have writable' : ∀ g ∈ root ++ sub, g.IsWritable := fun g mem =>
    Request.isWritable_of_mem_written asked writable (written.mem_written mem)
  have knownRoot : ∀ g ∈ root, g.item ∈ Scope.root.items := by
    intro g mem
    rcases written.whole g mem with item | item <;> rw [item] <;> decide
  have knownSub : ∀ g ∈ sub, g.item ∈ r.action.scope.items := fun g mem =>
    Request.known_of_mem_written (written.mem_written (List.mem_append_right root mem))
  refine ⟨?_, ?_⟩
  · rw [parse_words (Request.takesCommand_scope asked) writable' knownRoot knownSub
      written.once program acted, rootSet]
    exact congrArg Except.ok (Request.request_eq env parts config)
  · rw [Request.command?, asked]
    cases words : e.words with
    | nil => exact absurd words writable.words
    | cons => simp [Execution.command, Command.tokens, words]

/-- A request with values that look like options, have equals signs in them, are empty or
lie at the end of their range is read from a line with everything in another order. -/
theorem written_request_read_back_of_stream :
    let e : Execution :=
      { message := some "", expect := some (-5), noExpect := false
        directory := some (Utf8.encode "-d"), bindings := [("A", "=b"), ("A", "")]
        words := ["--", "run"] }
    let r : Request :=
      { verbose := true, config := some "--help"
        action := .stream
          { timeout := some 18446744073709551615, killCode := some (-2147483648)
            failOnTimeout := true, execution := e } }
    parse ⟨[]⟩ (["program", "--config=--help", "stream", "--env=A==b", "--fail-on-timeout",
      "--verbose", "--kill-code=-2147483648", "--message=", "--env=A=",
      "--timeout=18446744073709551615", "--expect=-5", "--dir=-d", "--", "--", "run"].map
        Utf8.encode) = .ok r := by
  intro e r
  let root : List Clause := [.config "--help"]
  let sub : List Clause := [.assignment "A" "=b", .failOnTimeout, .verbose,
    .killCode (-2147483648), .message "", .assignment "A" "",
    .timeout 18446744073709551615, .expect (-5), .directory (Utf8.encode "-d")]
  have asked : r.action.execution? = some e := rfl
  have writable : e.IsWritable := ⟨by decide, by decide, by decide, by decide⟩
  have same : (root ++ sub).Perm r.written := by decide
  have written : r.WrittenAs root sub := ⟨.inl same, rfl, by decide⟩
  exact (written_request_read_back ⟨[]⟩ (Utf8.encode "program") asked writable (.inl rfl)
    written).1

end ExitContract
