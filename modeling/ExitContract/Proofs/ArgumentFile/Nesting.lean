import ExitContract.Proofs.ArgumentFile.WrittenCommands
import ExitContract.Log.Record
import Mathlib.Logic.Relation

/-!
# How deep argument files may be nested

Argument files that lead back to themselves are never expanded, and a chain of files is
expanded just if it has no more than sixteen.

**Files, not paths.** Two references may spell the way to one file differently: with a
dot in it, through a directory and back, with a variable or a tilde. What a reference
leads to is therefore the absolute name that its path comes to, and one file refers to
another if one of its words leads there. Whichever path a file is read by, its words are
the same, so this is a relation between names.

**Why a cycle fails.** Expansion counts levels down and gives up at the last, so an
expansion that succeeds has gone through everything that can be reached. Every file that
it mentions was expanded with a level less, hence by induction on the levels there is no
endless way from any of them (`acc_of_mentions`), while a cycle is one. Nothing is
counted: the argument needs no path through the graph and works behind other references
and branches alike.

**Why the limit is exact.** A chain is read down to its end one file a level, and the
plain words around a reference are kept. The level is looked at before the reference is
followed, so it is the reference beyond the last level that is complained about, in the
words in which it was written.

## Main definitions

* `World.Names` — a reference leads to a file
* `World.Mentions`, `World.RefersTo` — words and files that lead to a file
* `ArgumentFile.Chain` — files of which each refers to the next one only

## Main statements

* `ArgumentFile.acc_of_mentions` — what a successful expansion mentions
* `ArgumentFile.standsFor_chain` — what stands for the first file of a chain
* `nesting_limited` — all of it together
-/

namespace ExitContract

namespace World

variable (w : World)

/-- The file with an absolute name is the one that a reference leads to. -/
def Names (raw : String) (file : List Bytes) : Prop :=
  ∃ path, w.expandReference raw = .ok path ∧
    w.files.locate w.directory (Path.ofString path) = .ok file

/-- One of the words is a reference to the file. -/
def Mentions (words : List String) (file : List Bytes) : Prop :=
  ∃ word ∈ words, ∃ raw, ArgumentFile.reference? word = some raw ∧ w.Names raw file

/-- Read as an argument file, the file has these words. -/
def Holds (file : List Bytes) (words : List String) : Prop :=
  ∃ path, w.files.locate w.directory path = .ok file ∧ w.readArguments path = .ok words

/-- One of the words of a file is a reference to another one. -/
def RefersTo (file file' : List Bytes) : Prop :=
  ∃ words, w.Holds file words ∧ w.Mentions words file'

variable {w}

/-- What is read depends only on the file that a path leads to. -/
theorem readText_congr {p q : Path}
    (same : w.files.locate w.directory p = w.files.locate w.directory q) :
    w.files.readText w.directory p = w.files.readText w.directory q := by
  simp only [FileSystem.readText, FileSystem.read, FileSystem.resolve, same]

theorem readArguments_eq_ok_iff {path : Path} {words : List String} :
    w.readArguments path = .ok words ↔ ∃ text,
      w.files.readText w.directory path = .ok text ∧
        ArgumentFile.wordsOfText text = .ok words := by
  unfold readArguments
  cases w.files.readText w.directory path <;> simp

/-- A file has its words whichever path it is read by. -/
theorem Holds.unique {file : List Bytes} {words words' : List String}
    (h : w.Holds file words) (h' : w.Holds file words') : words = words' := by
  obtain ⟨p, located, read⟩ := h
  obtain ⟨q, located', read'⟩ := h'
  rw [readArguments_eq_ok_iff] at read read'
  obtain ⟨text, contents, cut⟩ := read
  obtain ⟨text', contents', cut'⟩ := read'
  rw [readText_congr (located.trans located'.symm), contents'] at contents
  cases contents
  exact Except.ok.inj (cut.symm.trans cut')

end World

namespace ArgumentFile

variable {w : World}

/-! ### What stands for an argument -/

/-- What stands for a reference where files may be nested so many levels deep. -/
def standsFor (w : World) : Nat → String → Logged (Except Failure (List String))
  | 0, raw => ⟨[], .error (failure raw .tooDeep)⟩
  | levels + 1, raw =>
    match follow w raw with
    | ⟨log, .error f⟩ => ⟨log, .error f⟩
    | ⟨log, .ok words⟩ => (expandAt w levels words).after log

/-- References are replaced one by one, each by what stands for it. -/
theorem expandAt_eq (levels : Nat) (arguments : List String) :
    expandAt w levels arguments = expandWith (standsFor w levels) arguments := by
  cases levels <;> rfl

/-- What stands for an argument: the argument itself if it is no reference. -/
def replacement (inner : String → Logged (Except Failure (List String)))
    (argument : String) : Except Failure (List String) :=
  match reference? argument with
  | none => .ok [argument]
  | some raw => (inner raw).result

section

variable (inner : String → Logged (Except Failure (List String)))

/-- One argument is replaced after another, and the first failure ends it all. -/
theorem expandWith_cons_result (argument : String) (arguments : List String) :
    (expandWith inner (argument :: arguments)).result =
      (replacement inner argument).bind fun words =>
        (expandWith inner arguments).result.map (words ++ ·) := by
  rw [expandWith, replacement]
  cases reference? argument with
  | none => rfl
  | some raw =>
      dsimp only
      rcases inner raw with ⟨log, _ | words⟩ <;> rfl

@[simp] theorem replacement_marker (raw : String) :
    replacement inner ("@" ++ raw) = (inner raw).result := by
  rw [replacement, reference?_marker]

theorem replacement_of_plain {argument : String} (plain : argument.toList.head? ≠ some '@') :
    replacement inner argument = .ok [argument] := by
  rw [replacement, reference?_of_plain plain]

/-- Arguments that are no references are kept in front of the others. -/
theorem expandWith_plain_append {before : List String} (after : List String)
    (plain : ∀ a ∈ before, a.toList.head? ≠ some '@') :
    (expandWith inner (before ++ after)).result =
      (expandWith inner after).result.map (before ++ ·) := by
  induction before with
  | nil => cases h : (expandWith inner after).result <;> simp [h, Except.map]
  | cons argument before ih =>
      rw [List.forall_mem_cons] at plain
      rw [List.cons_append, expandWith_cons_result, replacement_of_plain inner plain.1,
        ih plain.2]
      cases (expandWith inner after).result <;> rfl

/-- A single reference among others stands for its words between them. -/
theorem expandWith_single {before after : List String} (raw : String)
    (plain : ∀ a ∈ before, a.toList.head? ≠ some '@')
    (plain' : ∀ a ∈ after, a.toList.head? ≠ some '@') :
    (expandWith inner (before ++ ("@" ++ raw) :: after)).result =
      (inner raw).result.map (before ++ · ++ after) := by
  rw [expandWith_plain_append inner _ plain, expandWith_cons_result, replacement_marker,
    expandWith_of_plain inner plain']
  cases (inner raw).result <;> simp [Except.bind, Except.map]

end

/-- If everything was replaced, then so was each reference. -/
theorem standsFor_of_mem {inner : String → Logged (Except Failure (List String))}
    {arguments out : List String} (done : (expandWith inner arguments).result = .ok out)
    {argument raw : String} (mem : argument ∈ arguments)
    (refers : reference? argument = some raw) : ∃ words, (inner raw).result = .ok words := by
  induction arguments generalizing out with
  | nil => cases mem
  | cons head arguments ih =>
      rw [expandWith_cons_result, bind_eq_ok_iff] at done
      obtain ⟨words, first, done⟩ := done
      obtain ⟨rest, done, -⟩ := map_eq_ok_iff.mp done
      rcases List.mem_cons.mp mem with rfl | mem
      · rw [replacement, refers] at first
        exact ⟨words, first⟩
      · exact ih done mem

theorem follow_result_eq_ok_iff {raw : String} {words : List String} :
    (follow w raw).result = .ok words ↔ ∃ path,
      w.expandReference raw = .ok path ∧
        w.readArguments (Path.ofString path) = .ok words := by
  unfold follow
  cases w.expandReference raw with
  | error v => simp
  | ok path =>
      dsimp only
      cases h : w.readArguments (Path.ofString path) <;> simp [h]

/-- For a file stands what its words are expanded to, a level deeper. -/
theorem standsFor_succ_result (levels : Nat) (raw : String) :
    (standsFor w (levels + 1) raw).result =
      (follow w raw).result.bind fun words => (expandAt w levels words).result := by
  rw [standsFor]
  rcases follow w raw with ⟨log, _ | words⟩ <;> rfl

/-! ### Cycles -/

/-- Every file that a successful expansion mentions was read and expanded a level
deeper. -/
theorem expanded_of_mentions {levels : Nat} {arguments out : List String}
    (done : (expandAt w levels arguments).result = .ok out) {file : List Bytes}
    (mentions : w.Mentions arguments file) :
    ∃ below words, levels = below + 1 ∧ w.Holds file words ∧
      ∃ out', (expandAt w below words).result = .ok out' := by
  obtain ⟨word, mem, raw, refers, path, expanded, located⟩ := mentions
  rw [expandAt_eq] at done
  obtain ⟨out', stands⟩ := standsFor_of_mem done mem refers
  cases levels with
  | zero => cases stands
  | succ below =>
      rw [standsFor_succ_result, bind_eq_ok_iff] at stands
      obtain ⟨words, read, done'⟩ := stands
      obtain ⟨path', expanded', read⟩ := follow_result_eq_ok_iff.mp read
      cases expanded.symm.trans expanded'
      exact ⟨below, words, rfl, ⟨_, located, read⟩, out', done'⟩

/-- **From what a successful expansion mentions no way goes on for ever.** -/
theorem acc_of_mentions {levels : Nat} {arguments out : List String}
    (done : (expandAt w levels arguments).result = .ok out) {file : List Bytes}
    (mentions : w.Mentions arguments file) : Acc (Function.swap w.RefersTo) file := by
  -- by induction on the levels left: the words of a file are expanded with one less
  induction levels generalizing arguments out file with
  | zero =>
      obtain ⟨below, words, level, -⟩ := expanded_of_mentions done mentions
      cases level
  | succ levels ih =>
      obtain ⟨below, words, level, holds, out', done'⟩ := expanded_of_mentions done mentions
      cases level
      refine Acc.intro file ?_
      rintro file' ⟨words', holds', mentions'⟩
      cases holds.unique holds'
      exact ih done' mentions'

/-- What can be reached from a file from which no way goes on for ever is such a file
too. -/
theorem acc_of_reach {file file' : List Bytes} (ends : Acc (Function.swap w.RefersTo) file)
    (reach : Relation.ReflTransGen w.RefersTo file file') :
    Acc (Function.swap w.RefersTo) file' := by
  induction reach with
  | refl => exact ends
  | tail _ refers ih => exact ih.inv refers

/-- A file from which no way goes on for ever cannot reach itself. -/
theorem not_cycle_of_acc {file : List Bytes} (ends : Acc (Function.swap w.RefersTo) file) :
    ¬ Relation.TransGen w.RefersTo file file := by
  induction ends.transGen with
  | intro file _ ih =>
      intro cycle
      exact ih file cycle.swap (ends.inv_of_transGen cycle.swap) cycle

/-! ### Chains -/

/-- Files of which each refers to the next one and to no other: how the first is referred
to, and then each from the one before it, and the plain words of all of them in the order
in which they stand in the expansion. -/
inductive Chain (w : World) : List String → List String → Prop
  | last {raw : String} {words : List String} (read : (follow w raw).result = .ok words)
      (plain : ∀ a ∈ words, a.toList.head? ≠ some '@') : Chain w [raw] words
  | link {raw next : String} {raws before after words : List String}
      (read : (follow w raw).result = .ok (before ++ ("@" ++ next) :: after))
      (plain : ∀ a ∈ before, a.toList.head? ≠ some '@')
      (plain' : ∀ a ∈ after, a.toList.head? ≠ some '@')
      (rest : Chain w (next :: raws) words) :
      Chain w (raw :: next :: raws) (before ++ words ++ after)

/-- **What stands for the first file of a chain**: all the plain words if there is a
level for each file, and else a complaint about the first reference without one. -/
theorem standsFor_chain {raws words : List String} (chain : Chain w raws words)
    (levels : Nat) {first : String} (starts : raws.head? = some first) :
    (standsFor w levels first).result =
      match raws[levels]? with
      | none => .ok words
      | some beyond => .error (failure beyond .tooDeep) := by
  induction chain generalizing levels first with
  | @last raw words read plain =>
      cases starts
      cases levels with
      | zero => rfl
      | succ levels =>
          rw [standsFor_succ_result, read]
          show (expandAt w levels words).result = _
          rw [expandAt_of_plain w levels plain]
          rfl
  | @link raw next raws before after words read plain plain' rest ih =>
      cases starts
      cases levels with
      | zero => rfl
      | succ levels =>
          rw [standsFor_succ_result, read]
          show (expandAt w levels _).result = _
          rw [expandAt_eq, expandWith_single _ next plain plain', ih levels rfl,
            List.getElem?_cons_succ]
          cases (next :: raws)[levels]? <;> rfl

end ArgumentFile

open ArgumentFile (Chain)

/-- **Nesting is limited.** If a file that can be reached from arguments can reach itself
again, by whatever spellings of its path, the arguments are not expanded.

A chain of files is expanded just if there are at most sixteen; the first reference
beyond them is complained about, as it is written. -/
theorem nesting_limited (w : World) :
    (∀ arguments file file', w.Mentions arguments file →
      Relation.ReflTransGen w.RefersTo file file' →
      Relation.TransGen w.RefersTo file' file' →
      ∃ f, (w.expandArguments arguments).result = .error f) ∧
    ∀ first raws words, Chain w (first :: raws) words →
      ((∃ out, (w.expandArguments ["@" ++ first]).result = .ok out) ↔
        (first :: raws).length ≤ 16) ∧
      ∀ deep : 16 < (first :: raws).length,
        (w.expandArguments ["@" ++ first]).result =
          .error (.argumentFile (first :: raws)[16]
            "argument files nested more than 16 deep") := by
  constructor
  · intro arguments file file' mentions reach cycle
    cases done : (w.expandArguments arguments).result with
    | error f => exact ⟨f, rfl⟩
    | ok out =>
        have ends := ArgumentFile.acc_of_mentions done mentions
        exact absurd cycle
          (ArgumentFile.not_cycle_of_acc (ArgumentFile.acc_of_reach ends reach))
  · intro first raws words chain
    have stands := ArgumentFile.standsFor_chain chain 16 rfl
    have expanded : (w.expandArguments ["@" ++ first]).result =
        (ArgumentFile.standsFor w 16 first).result := by
      rw [World.expandArguments, ArgumentFile.maxDepth, ArgumentFile.expandAt_eq]
      show (ArgumentFile.expandWith (ArgumentFile.standsFor w 16)
        ([] ++ ("@" ++ first) :: [])).result = _
      rw [ArgumentFile.expandWith_single _ first (List.forall_mem_nil _)
        (List.forall_mem_nil _)]
      cases (ArgumentFile.standsFor w 16 first).result <;> simp [Except.map]
    rw [expanded, stands]
    refine ⟨?_, ?_⟩
    · cases h : (first :: raws)[16]? with
      | none => simpa using List.getElem?_eq_none_iff.mp h
      | some beyond =>
          obtain ⟨deep, -⟩ := List.getElem?_eq_some_iff.mp h
          simp only [reduceCtorEq, exists_false, false_iff]
          omega
    · intro deep
      rw [List.getElem?_eq_getElem deep]
      rfl

/-- A file that spells the way to itself with a dot is not expanded, and neither is the
first of seventeen files that are named with the letters from `a` to `q`, the last of
which has the only plain word. -/
theorem nesting_limited_of_seventeen :
    let link (i : Nat) : List Bytes × Node :=
      ([[UInt8.ofNat (97 + i)]], .file [64, UInt8.ofNat (98 + i)] false)
    let files := (List.range 16).map link ++
      [([Path.ofString "q"], .file (Utf8.encode "end") false),
        ([Path.ofString "z"], .file (Utf8.encode "x @./z") false)]
    let w : World := { files := ⟨files⟩, directory := [], environment := ⟨[]⟩ }
    (∃ f, (w.expandArguments ["first", "@z"]).result = .error f) ∧
      (w.expandArguments ["@a"]).result =
        .error (.argumentFile "q" "argument files nested more than 16 deep") := by
  intro link files w
  obtain ⟨cycles, chains⟩ := nesting_limited w
  constructor
  · have named : w.Names "z" [Path.ofString "z"] :=
      ⟨"z", w.expandReference_of_bare (by decide) (by decide), rfl⟩
    have named' : w.Names "./z" [Path.ofString "z"] :=
      ⟨"./z", w.expandReference_of_bare (by decide) (by decide), rfl⟩
    have loop : w.RefersTo [Path.ofString "z"] [Path.ofString "z"] :=
      ⟨["x", "@./z"], ⟨Path.ofString "z", rfl, rfl⟩, "@./z", by simp, "./z", rfl, named'⟩
    exact cycles ["first", "@z"] _ _ ⟨"@z", by simp, "z", rfl, named⟩ .refl (.single loop)
  · have reads {raw : String} {words : List String} (bare : '$' ∉ raw.toList)
        (rooted : raw.toList.head? ≠ some '~')
        (read : w.readArguments (Path.ofString raw) = .ok words) :
        (ArgumentFile.follow w raw).result = .ok words :=
      ArgumentFile.follow_result_eq_ok_iff.mpr
        ⟨raw, w.expandReference_of_bare bare rooted, read⟩
    have step {raw next : String} {raws : List String} (bare : '$' ∉ raw.toList)
        (rooted : raw.toList.head? ≠ some '~')
        (read : w.readArguments (Path.ofString raw) = .ok ["@" ++ next])
        (rest : Chain w (next :: raws) ["end"]) : Chain w (raw :: next :: raws) ["end"] := by
      have read : (ArgumentFile.follow w raw).result = .ok ([] ++ ("@" ++ next) :: []) :=
        reads bare rooted read
      exact .link read (List.forall_mem_nil _) (List.forall_mem_nil _) rest
    have chain : Chain w ["a", "b", "c", "d", "e", "f", "g", "h", "i", "j", "k", "l", "m",
        "n", "o", "p", "q"] ["end"] := by
      iterate 16 refine step (by decide) (by decide) rfl ?_
      exact .last (reads (by decide) (by decide) rfl) (by decide)
    exact (chains _ _ _ chain).2 (by decide)

end ExitContract
