import ExitContract.Proofs.ArgumentFile.Flattening
import ExitContract.Proofs.ArgumentFile.RawArguments
import ExitContract.Proofs.CommandLine.Verbosity
import ExitContract.Proofs.Config.Unlogged

/-!
# What a line is expanded to in another world

References are replaced before a line is read, and what they stand for depends on variables
and files. So a line can mean different things in two worlds, even where these differ in
nothing but logs: a reference may name a file with the very variable that holds the filter.

**What is asked for.** A reference asks for the variables that are written in it. If none of
them has to do with logs, then it names the same file (`World.SameButLog.expandReference`).
The words of the file may be references again, so what counts is every reference in the tree
below the line (`World.Follows`).

**The flag is no reference.** A flag that is put into a line is in the line that is expanded,
and what it is put next to is expanded as before (`expandCommandLine_flagged`). It can come
to stand elsewhere only by being put in behind the name of the program, which is not expanded
and stays where it is.

## Main definitions

* `Reference.names` — the variables that a reference asks for
* `World.Follows` — the references that may be followed for a line
* `World.SameReference` — a reference with the same words behind it

## Main statements

* `Reference.expandVariables_congr` — a reference depends on what it asks for
* `expandCommandLine_congr` — a line depends on the references that are followed for it
* `expandCommandLine_flagged` — a flag stays in a line and changes nothing else of it
-/

namespace ExitContract

namespace Reference

/-- The name that stands in braces. -/
def bracedName (inside : List Char) : List Char :=
  match splitDefault? inside with
  | some (c :: name, _) => c :: name
  | _ => inside

/-- The variables that a reference asks for, if it gets to them. -/
def names (cs : List Char) : List String :=
  match cs with
  | [] => []
  | '$' :: '{' :: rest =>
    match h : splitBrace? rest with
    | none => names rest
    | some (inside, after) =>
      have := length_of_splitBrace? h
      String.ofList (bracedName inside) :: names after
  | '$' :: '$' :: rest => names rest
  | '$' :: c :: rest =>
    if isNameChar c then
      have := (List.dropWhile_sublist (p := isNameChar) (l := rest)).length_le
      String.ofList (c :: rest.takeWhile isNameChar) :: names (rest.dropWhile isNameChar)
    else names (c :: rest)
  | _ :: rest => names rest
termination_by cs.length
decreasing_by all_goals simp_all; try omega

variable {env env' : Environment}

theorem value_congr {name : List Char}
    (same : env.get? (String.ofList name) = env'.get? (String.ofList name))
    (default : Option (List Char)) : value env name default = value env' name default := by
  unfold value
  rw [same]

theorem bracedValue_congr {inside : List Char}
    (same : env.get? (String.ofList (bracedName inside)) =
      env'.get? (String.ofList (bracedName inside))) :
    bracedValue env inside = bracedValue env' inside := by
  unfold bracedName at same
  unfold bracedValue
  generalize splitDefault? inside = parts at same
  match parts with
  | some (c :: name, default) => exact value_congr same (some default)
  | some ([], default) => exact value_congr same none
  | none => exact value_congr same none

section

variable {rest inside after : List Char}

/-- A brace that is never closed starts nothing. -/
theorem expandVariables_of_unclosed (env : Environment) (unclosed : splitBrace? rest = none) :
    expandVariables env ('$' :: '{' :: rest) =
      (expandVariables env rest).map fun r => '$' :: '{' :: r := by
  rw [expandVariables]
  split
  · rfl
  · next closed => cases unclosed.symm.trans closed

theorem names_of_unclosed (unclosed : splitBrace? rest = none) :
    names ('$' :: '{' :: rest) = names rest := by
  rw [names]
  split
  · rfl
  · next closed => cases unclosed.symm.trans closed

theorem expandVariables_of_closed (env : Environment)
    (closed : splitBrace? rest = some (inside, after)) :
    expandVariables env ('$' :: '{' :: rest) =
      (bracedValue env inside).bind fun v => (expandVariables env after).map (v ++ ·) := by
  rw [expandVariables]
  split
  · next unclosed => cases closed.symm.trans unclosed
  · next same =>
      cases closed.symm.trans same
      cases bracedValue env inside <;> rfl

theorem names_of_closed (closed : splitBrace? rest = some (inside, after)) :
    names ('$' :: '{' :: rest) = String.ofList (bracedName inside) :: names after := by
  rw [names]
  split
  · next unclosed => cases closed.symm.trans unclosed
  · next same =>
      cases closed.symm.trans same
      rfl

end

/-- **A reference depends on the variables that it asks for**, and on no other. -/
theorem expandVariables_congr {cs : List Char}
    (same : ∀ name ∈ names cs, env.get? name = env'.get? name) :
    expandVariables env cs = expandVariables env' cs := by
  -- names are looked for in a text in the way in which it is expanded, case by case
  induction cs using names.induct with
  | case1 => simp only [expandVariables]
  | case2 rest unclosed ih =>
      rw [names_of_unclosed unclosed] at same
      rw [expandVariables_of_unclosed env unclosed, expandVariables_of_unclosed env' unclosed,
        ih same]
  | case3 rest inside after closed _ ih =>
      rw [names_of_closed closed] at same
      obtain ⟨first, later⟩ := List.forall_mem_cons.mp same
      rw [expandVariables_of_closed env closed, expandVariables_of_closed env' closed,
        bracedValue_congr first, ih later]
  | case4 rest ih =>
      simp only [names] at same
      simp only [expandVariables, ih same]
  | case5 c rest noBrace noDollar isName _ ih =>
      simp only [names, if_pos isName] at same
      obtain ⟨first, later⟩ := List.forall_mem_cons.mp same
      simp only [expandVariables, if_pos isName, value_congr first, ih later]
  | case6 c rest noBrace noDollar noName ih =>
      simp only [names, if_neg noName] at same
      simp only [expandVariables, if_neg noName, ih same]
  | case7 c rest noBrace noDollar noName ih =>
      simp only [names] at same
      simp only [expandVariables, ih same]

end Reference

open ArgumentFile CommandLine ReferenceTree

/-! ### References -/

/-- A reference that has the same words behind it in two worlds: it asks for no variable that
has to do with logs only, and the file that it names has the same text. -/
structure World.SameReference (w w' : World) (raw : String) : Prop where
  names : ∀ name ∈ Reference.names raw.toList, Environment.isLogEntry (name ++ "=") = false
  text : ∀ path, w.expandReference raw = .ok path →
    w.files.readText w.directory (Path.ofString path) =
      w'.files.readText w'.directory (Path.ofString path)

/-- A reference that may be followed for a line: it stands somewhere in the tree of the
arguments before the first `--`, the name of the program apart. -/
def World.Follows (w : World) (line : List Bytes) (raw : String) : Prop :=
  ∃ p, Refers w (((line.takeWhile (· != separator)).drop 1).map Utf8.decodeLossy) p raw

section

variable {w w' : World} {explicit : Option String} {raw : String}

/-- A reference that asks for nothing that has to do with logs names the same file. -/
theorem World.SameButLog.expandReference (same : SameButLog explicit w w')
    (unlogged : ∀ name ∈ Reference.names raw.toList,
      Environment.isLogEntry (name ++ "=") = false) :
    w.expandReference raw = w'.expandReference raw := by
  unfold World.expandReference
  rw [same.home,
    Reference.expandVariables_congr fun name asked => same.get? name (unlogged name asked)]

theorem contents_of_sameReference (same : w.SameButLog explicit w')
    (reference : w.SameReference w' raw) : contents w' raw = contents w raw := by
  unfold contents
  rw [← same.expandReference reference.names]
  cases named : w.expandReference raw with
  | error v => rfl
  | ok path =>
      have words :
          w.readArguments (Path.ofString path) = w'.readArguments (Path.ofString path) := by
        rw [World.readArguments, World.readArguments, reference.text path named]
      dsimp only
      rw [words]

/-! ### Arguments -/

/-- What is below an argument is below the row that it stands in. -/
theorem exists_refers_of_mem {arguments : List String} {a : String} {p : Place}
    (mem : a ∈ arguments) (refers : Refers w [a] p raw) : ∃ q, Refers w arguments q raw := by
  obtain ⟨b, here, reference⟩ := refers
  obtain ⟨i, top, at_i, inside⟩ := at?_eq_some_iff.mp here
  obtain ⟨j, at_j⟩ := List.mem_iff_getElem?.mp mem
  obtain rfl : a = top := by
    rw [List.getElem?_singleton] at at_i
    split at at_i
    · exact Option.some.inj at_i
    · cases at_i
  -- only the first step of the place changes: from the row of `a` alone to the whole one
  rcases inside with ⟨rfl, rfl⟩ | ⟨q, rfl, below⟩
  · exact ⟨[j], b, at?_eq_some_iff.mpr ⟨j, b, at_j, .inl ⟨rfl, rfl⟩⟩, reference⟩
  · exact ⟨j :: q, b, at?_eq_some_iff.mpr ⟨j, a, at_j, .inr ⟨q, rfl, below⟩⟩, reference⟩

theorem expandRaw_congr {arguments : List Bytes}
    (same : ∀ a ∈ arguments, ∀ p raw, Refers w [Utf8.decodeLossy a] p raw →
      contents w' raw = contents w raw) : expandRaw w' arguments = expandRaw w arguments := by
  induction arguments with
  | nil => rfl
  | cons a arguments ih =>
      obtain ⟨first, later⟩ := List.forall_mem_cons.mp same
      by_cases marked : a.head? = some 0x40
      · have expanded : w'.expandArguments [Utf8.decodeLossy a] =
            w.expandArguments [Utf8.decodeLossy a] :=
          expandAt_congr fun p raw refers _ _ => first p raw refers
        rw [expandRaw_cons_of_reference marked, expandRaw_cons_of_reference marked, expanded,
          ih later]
      · rw [expandRaw_cons_of_unmarked marked, expandRaw_cons_of_unmarked marked, ih later]

/-- **A line depends on the references that are followed for it.** -/
theorem expandCommandLine_congr {line : List Bytes}
    (same : ∀ raw, w.Follows line raw → contents w' raw = contents w raw) :
    w'.expandCommandLine line = w.expandCommandLine line := by
  rw [expandCommandLine_eq, expandCommandLine_eq, expandRaw_congr]
  intro a mem p raw refers
  obtain ⟨q, above⟩ := exists_refers_of_mem (List.mem_map_of_mem mem) refers
  exact same raw ⟨q, above⟩

end

/-! ### The flag -/

section

variable {w : World} {words words' : List Bytes} {flag : Bytes}

theorem CommandLine.Flagged.append_left (before : List Bytes) (flagged : Flagged words words') :
    Flagged (before ++ words) (before ++ words') := by
  induction before with
  | nil => exact flagged
  | cons word before ih => exact .cons word ih

theorem CommandLine.Flagged.append_right (after : List Bytes) (flagged : Flagged words words') :
    Flagged (words ++ after) (words' ++ after) := by
  induction flagged with
  | word rest flag_mem => exact .word _ flag_mem
  | letter cs rest other => exact .letter cs _ other
  | cons word _ ih => exact .cons word ih

/-- The flag is no `--`. -/
theorem flag_ne_separator (flag_mem : flag ∈ flagWords) : (flag != separator) = true := by
  simp only [flagWords, List.mem_cons, List.not_mem_nil, or_false] at flag_mem
  rcases flag_mem with rfl | rfl <;> decide

/-- Nor are letters that share a word with it. -/
theorem letters_ne_separator {c : Char} (other : c ≠ '-') (cs : List Char) :
    (letters (c :: cs) != separator) = true := by
  obtain ⟨b, bs, written, second⟩ := encodeChars_eq_cons other cs
  rw [letters, written, bne_iff_ne]
  intro same
  exact second (List.cons.inj (List.cons.inj same).2).1

/-- The flag is put in before the first `--` or after it. -/
theorem flagged_before_or_after (flagged : Flagged words words') :
    (Flagged (words.takeWhile (· != separator)) (words'.takeWhile (· != separator)) ∧
      words.dropWhile (· != separator) = words'.dropWhile (· != separator)) ∨
    (words.takeWhile (· != separator) = words'.takeWhile (· != separator) ∧
      Flagged (words.dropWhile (· != separator)) (words'.dropWhile (· != separator))) := by
  induction flagged with
  | word after flag_mem =>
      simp only [List.takeWhile_cons, List.dropWhile_cons, flag_ne_separator flag_mem, if_true]
      exact .inl ⟨.word _ flag_mem, trivial⟩
  | @letter c cs after other =>
      have two := letters_ne_separator (c := 'v') (by decide) (c :: cs)
      simp only [List.takeWhile_cons, List.dropWhile_cons, letters_ne_separator other, two, if_true]
      exact .inl ⟨.letter cs _ other, trivial⟩
  | @cons word words words' flagged ih =>
      by_cases mark : (word != separator) = true
      · simp only [List.takeWhile_cons, List.dropWhile_cons, if_pos mark]
        exact ih.imp (fun h => ⟨.cons word h.1, h.2⟩) fun h => ⟨congrArg (word :: ·) h.1, h.2⟩
      · simp only [List.takeWhile_cons, List.dropWhile_cons, if_neg mark]
        exact .inr ⟨trivial, .cons word flagged⟩

theorem head?_of_mem_flagWords (flag_mem : flag ∈ flagWords) : flag.head? ≠ some 0x40 := by
  simp only [flagWords, List.mem_cons, List.not_mem_nil, or_false] at flag_mem
  rcases flag_mem with rfl | rfl <;> decide

@[simp] theorem head?_letters (cs : List Char) : (letters cs).head? ≠ some 0x40 := by
  rw [letters, List.head?_cons]
  decide

/-- The flag is still there when the arguments around it are replaced. -/
theorem expandRaw_flagged (flagged : Flagged words words') :
    Agree Flagged (expandRaw w words).result (expandRaw w words').result := by
  induction flagged with
  | @word flag after flag_mem =>
      rw [expandRaw_cons_of_unmarked (head?_of_mem_flagWords flag_mem), inTurn_result]
      intro out out' expanded expanded'
      obtain ⟨rest, again, rfl⟩ := map_eq_ok_iff.mp expanded'
      cases expanded.symm.trans again
      exact .word out flag_mem
  | letter cs after other =>
      simp only [expandRaw_cons_of_unmarked (head?_letters _), inTurn_result]
      refine (agree_self _).map ?_
      rintro rest _ rfl
      exact .letter cs rest other
  | @cons word words words' _ ih =>
      by_cases marked : word.head? = some 0x40
      · simp only [expandRaw_cons_of_reference marked, inTurn_result]
        refine (agree_self _).bind ?_
        rintro block _ rfl
        exact ih.map fun _ _ flagged => flagged.append_left block
      · simp only [expandRaw_cons_of_unmarked marked, inTurn_result]
        exact ih.map fun _ _ flagged => .cons word flagged

/-- **A flag stays in a line** when references are replaced, and nothing else of the line
changes for it. -/
theorem expandCommandLine_flagged (program : Bytes) (flagged : Flagged words words') :
    Agree (fun out out' => ∃ rest rest', out = program :: rest ∧ out' = program :: rest' ∧
        Flagged rest rest')
      (w.expandCommandLine (program :: words)).result
      (w.expandCommandLine (program :: words')).result := by
  rw [expandCommandLine_eq, expandCommandLine_eq]
  by_cases mark : (program != separator) = true
  · simp only [List.takeWhile_cons, List.dropWhile_cons, if_pos mark, List.drop_succ_cons,
      List.drop_zero, Logged.map_result]
    rcases flagged_before_or_after flagged with ⟨before, after⟩ | ⟨before, after⟩
    · refine (expandRaw_flagged before).map fun out out' flagged => ?_
      exact ⟨_, _, rfl, rfl, after ▸ flagged.append_right _⟩
    · rw [before]
      refine (agree_self _).map ?_
      rintro out _ rfl
      exact ⟨_, _, rfl, rfl, after.append_left out⟩
  · simp only [List.takeWhile_cons, List.dropWhile_cons, if_neg mark]
    exact .ok ⟨_, _, rfl, rfl, flagged⟩

end

end ExitContract
