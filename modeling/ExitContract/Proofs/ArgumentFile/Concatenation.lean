import ExitContract.Proofs.ArgumentFile.Nesting

/-!
# Arguments are expanded independently of each other

What stands for an argument does not depend on the arguments around it: the expansion of
two rows of arguments one after the other is the one expansion followed by the other, and
the first failure is the end of it. So plain arguments can be put anywhere between
references without a change to what these stand for.

**In turn.** Expansions one after the other form a monoid (`inTurn_nil`,
`inTurn_assoc`), logs and failures included, and an expansion is a map into it
(`expandWith_append`). Everything else about rows of arguments follows from this, and no
other statement here is an induction on the loop.

**Nothing is left to expand.** What stands for a reference was itself expanded a level
deeper, so by induction on the levels no reference is left in it, however its marker was
quoted in the file: quotes are gone before a word is looked at. A row without references
stands for itself, which makes expansion idempotent.

## Main definitions

* `ArgumentFile.inTurn` — one expansion after another

## Main statements

* `ArgumentFile.expandAt_append` — the expansion of two rows of arguments
* `ArgumentFile.plain_of_expandAt` — no reference is left
* `arguments_expand_independently` — all of it together
-/

namespace ExitContract

namespace ArgumentFile

/-! ### One expansion after another -/

section

variable {α : Type}

/-- One expansion after another. If the first one fails, then there is no second one. -/
def inTurn (first second : Logged (Except Failure (List α))) :
    Logged (Except Failure (List α)) :=
  match first.result with
  | .error _ => first
  | .ok words => (second.map (Except.map (words ++ ·))).after first.log

variable (x y z : Logged (Except Failure (List α)))

theorem inTurn_of_error {f : Failure} (failed : x.result = .error f) : inTurn x y = x := by
  rw [inTurn, failed]

@[simp] theorem inTurn_result :
    (inTurn x y).result =
      x.result.bind fun words => y.result.map (words ++ ·) := by
  obtain ⟨log, _ | words⟩ := x <;> rfl

/-- Nothing before an expansion changes nothing. -/
@[simp] theorem nil_inTurn : inTurn ⟨[], .ok []⟩ y = y := by
  obtain ⟨log, _ | words⟩ := y <;> simp [inTurn, Logged.map, Logged.after, Except.map]

/-- Nothing after an expansion changes nothing. -/
@[simp] theorem inTurn_nil : inTurn x ⟨[], .ok []⟩ = x := by
  obtain ⟨log, _ | words⟩ := x <;> simp [inTurn, Logged.map, Logged.after, Except.map]

theorem inTurn_assoc : inTurn (inTurn x y) z = inTurn x (inTurn y z) := by
  obtain ⟨log, _ | words⟩ := x
  · rfl
  · obtain ⟨log', _ | words'⟩ := y
    · rfl
    · obtain ⟨log'', _ | words''⟩ := z <;>
        simp [inTurn, Logged.map, Logged.after, Except.map]

end

/-! ### Rows of arguments -/

/-- Two rows of arguments are expanded in turn. -/
@[simp] theorem expandWith_append (inner : String → Logged (Except Failure (List String)))
    (xs ys : List String) :
    expandWith inner (xs ++ ys) = inTurn (expandWith inner xs) (expandWith inner ys) := by
  induction xs with
  | nil => exact (nil_inTurn _).symm
  | cons argument xs ih =>
      rw [List.cons_append, expandWith, expandWith, ih]
      cases reference? argument with
      | none =>
          dsimp only
          obtain ⟨log, _ | words⟩ := expandWith inner xs
          · rfl
          · obtain ⟨log', _ | words'⟩ := expandWith inner ys <;> rfl
      | some raw =>
          dsimp only
          obtain ⟨log, _ | words⟩ := inner raw
          · rfl
          · obtain ⟨log', _ | words'⟩ := expandWith inner xs
            · rfl
            · obtain ⟨log'', _ | words''⟩ := expandWith inner ys <;>
                simp [inTurn, Logged.map, Logged.after, Except.map]

variable {w : World}

@[simp] theorem expandAt_append (levels : Nat) (xs ys : List String) :
    expandAt w levels (xs ++ ys) =
      inTurn (expandAt w levels xs) (expandAt w levels ys) := by
  simp only [expandAt_eq, expandWith_append]

theorem expandAt_cons (levels : Nat) (argument : String) (arguments : List String) :
    expandAt w levels (argument :: arguments) =
      inTurn (expandAt w levels [argument]) (expandAt w levels arguments) :=
  expandAt_append levels [argument] arguments

@[simp] theorem expandArguments_append (xs ys : List String) :
    w.expandArguments (xs ++ ys) =
      inTurn (w.expandArguments xs) (w.expandArguments ys) :=
  expandAt_append maxDepth xs ys

theorem expandArguments_cons (argument : String) (arguments : List String) :
    w.expandArguments (argument :: arguments) =
      inTurn (w.expandArguments [argument]) (w.expandArguments arguments) :=
  expandAt_cons maxDepth argument arguments

/-- Arguments without a reference stand for themselves, and nothing is read for them. -/
theorem expandArguments_of_forall_plain {arguments : List String}
    (plain : ∀ a ∈ arguments, a.toList.head? ≠ some '@') :
    w.expandArguments arguments = ⟨[], .ok arguments⟩ :=
  expandAt_of_plain w maxDepth plain

/-- Each argument is expanded as if it were alone. -/
theorem expandArguments_eq_mapM (arguments : List String) :
    (w.expandArguments arguments).result =
      (arguments.mapM fun a => (w.expandArguments [a]).result).map List.flatten := by
  induction arguments with
  | nil => rfl
  | cons argument arguments ih =>
      rw [expandArguments_cons, inTurn_result, ih, List.mapM_cons]
      cases (w.expandArguments [argument]).result with
      | error f => rfl
      | ok words =>
          cases arguments.mapM fun a => (w.expandArguments [a]).result <;> rfl

/-! ### No reference is left -/

/-- What is no reference does not start with the marker. -/
theorem plain_of_reference? {argument : String} (free : reference? argument = none) :
    argument.toList.head? ≠ some '@' := by
  intro marked
  rw [reference?] at free
  split at free
  · next c cs letters =>
      have first : c = marker := by simpa [letters, marker] using marked
      rw [if_pos first] at free
      cases free
  · next letters => simp [letters] at marked

/-- If no word that stands for a reference starts with the marker, then no word of the
expansion does. -/
theorem plain_of_expandWith {inner : String → Logged (Except Failure (List String))}
    (plain : ∀ raw words, (inner raw).result = .ok words →
      ∀ a ∈ words, a.toList.head? ≠ some '@')
    {arguments out : List String} (done : (expandWith inner arguments).result = .ok out) :
    ∀ a ∈ out, a.toList.head? ≠ some '@' := by
  induction arguments generalizing out with
  | nil =>
      cases done
      exact List.forall_mem_nil _
  | cons argument arguments ih =>
      rw [expandWith_cons_result, bind_eq_ok_iff] at done
      obtain ⟨words, first, done⟩ := done
      obtain ⟨rest, done', rfl⟩ := map_eq_ok_iff.mp done
      have now : ∀ a ∈ words, a.toList.head? ≠ some '@' := by
        rw [replacement] at first
        split at first
        · next free =>
            cases first
            simpa using plain_of_reference? free
        · next raw refers => exact plain raw words first
      exact List.forall_mem_append.mpr ⟨now, ih done'⟩

/-- **No reference is left** in what arguments are expanded to. -/
theorem plain_of_expandAt {levels : Nat} {arguments out : List String}
    (done : (expandAt w levels arguments).result = .ok out) :
    ∀ a ∈ out, a.toList.head? ≠ some '@' := by
  -- by induction on the levels left: the words of a file are expanded with one less
  induction levels generalizing arguments out with
  | zero =>
      rw [expandAt_eq] at done
      refine plain_of_expandWith ?_ done
      intro raw words stands
      cases stands
  | succ levels ih =>
      rw [expandAt_eq] at done
      refine plain_of_expandWith ?_ done
      intro raw words stands
      rw [standsFor_succ_result, bind_eq_ok_iff] at stands
      obtain ⟨inside, -, stands⟩ := stands
      exact ih stands

theorem plain_of_expandArguments {arguments out : List String}
    (done : (w.expandArguments arguments).result = .ok out) :
    ∀ a ∈ out, a.toList.head? ≠ some '@' :=
  plain_of_expandAt done

end ArgumentFile

open ArgumentFile

/-- **Arguments are expanded independently of each other.** Two rows of arguments one
after the other come to what each of them comes to, and the first failure is the end of
it. No word of an expansion starts with the marker, so an expansion stands for itself and
nothing is read for it a second time. Each argument is expanded as if it were alone, and
plain arguments that are put anywhere among others change nothing about these. -/
theorem arguments_expand_independently (w : World) :
    (∀ xs ys, (w.expandArguments (xs ++ ys)).result =
      match (w.expandArguments xs).result, (w.expandArguments ys).result with
      | .error f, _ => .error f
      | .ok _, .error f => .error f
      | .ok before, .ok after => .ok (before ++ after)) ∧
    (∀ arguments out, (w.expandArguments arguments).result = .ok out →
      (∀ a ∈ out, a.toList.head? ≠ some '@') ∧ w.expandArguments out = ⟨[], .ok out⟩) ∧
    (∀ arguments, (w.expandArguments arguments).result =
      (arguments.mapM fun a => (w.expandArguments [a]).result).map List.flatten) ∧
    ∀ xs added ys, (∀ a ∈ added, a.toList.head? ≠ some '@') →
      (w.expandArguments (xs ++ added ++ ys)).result =
        match (w.expandArguments xs).result, (w.expandArguments ys).result with
        | .error f, _ => .error f
        | .ok _, .error f => .error f
        | .ok before, .ok after => .ok (before ++ added ++ after) := by
  refine ⟨fun xs ys => ?_, fun arguments out done => ?_, expandArguments_eq_mapM,
    fun xs added ys plain => ?_⟩
  · rw [expandArguments_append, inTurn_result]
    cases (w.expandArguments xs).result <;> cases (w.expandArguments ys).result <;> rfl
  · have plain := plain_of_expandArguments done
    exact ⟨plain, expandArguments_of_forall_plain plain⟩
  · have kept := expandArguments_of_forall_plain (w := w) plain
    simp only [expandArguments_append, inTurn_result, kept]
    cases (w.expandArguments xs).result <;> cases (w.expandArguments ys).result <;> rfl

/-- The words of a file with a reference in quotes, among plain words: the quotes do not
keep the reference from being followed, and what it stands for is the same without the
plain words around it. -/
theorem arguments_expand_independently_of_nested :
    let files : FileSystem :=
      ⟨[([Path.ofString "outer"], .file (Utf8.encode "a '@inner' \\@inner") false),
        ([Path.ofString "inner"], .file (Utf8.encode "b") false)]⟩
    let w : World := { files := files, directory := [], environment := ⟨[]⟩ }
    (w.expandArguments ["@outer"]).result = .ok ["a", "b", "b"] ∧
      w.expandArguments ["a", "b", "b"] = ⟨[], .ok ["a", "b", "b"]⟩ ∧
      (w.expandArguments (["@inner"] ++ ["p", "a@b"] ++ ["@outer"])).result =
        .ok ["b", "p", "a@b", "a", "b", "b"] := by
  intro files w
  obtain ⟨-, again, -, inserted⟩ := arguments_expand_independently w
  have inner : (w.expandArguments ["@inner"]).result = .ok ["b"] := by
    decide +kernel
  have outer : (w.expandArguments ["@outer"]).result = .ok ["a", "b", "b"] := by
    decide +kernel
  refine ⟨outer, (again ["@outer"] _ outer).2, ?_⟩
  rw [inserted ["@inner"] ["p", "a@b"] ["@outer"] (by decide), inner, outer]
  rfl

end ExitContract
