import ExitContract.Proofs.ArgumentFile.Concatenation
import ExitContract.Proofs.Text.ReadText
import Mathlib.Data.List.Forall2

/-!
# References on a command line

A command line is made of octets that need not be text. Up to its first `--` the
references in it are replaced, but for the name of the program, and all else is handed on
as it is.

**One argument after another.** On a command line each reference is expanded alone, and
what it stands for is written back as octets. As arguments are expanded independently of
each other, that is no different from expanding all of them at once, provided that they
are text (`expandRaw_encode`). An argument that is not text is never changed, unless its
first octet makes it a reference.

**A second time.** What was put in may hold a `--` of its own, so a second look at the
line may end sooner than the first. It never ends later: the first `--` of the line is
still there. Before it nothing starts with the marker any more but perhaps the name of
the program, which is not looked at (`expandCommandLine_of_unmarked`).

## Main definitions

* `ArgumentFile.StandsAs` — what an argument is replaced with

## Main statements

* `ArgumentFile.expandRaw_encode` — arguments that are text
* `ArgumentFile.exists_blocks` — what each argument contributes
* `command_line_expanded_like_arguments` — expansion of lines and of arguments
* `command_line_expansion_idempotent` — a second expansion changes nothing
-/

namespace ExitContract

/-! ### Octets that start a reference -/

/-- The octets of a text start with the octet of the marker just if the text starts with
the marker. -/
theorem Utf8.head?_encode_eq_marker_iff (s : String) :
    (encode s).head? = some 0x40 ↔ s.toList.head? = some '@' := by
  constructor
  · intro first
    obtain ⟨bs, octets⟩ := List.head?_eq_some_iff.mp first
    have small : (0x40 : UInt8).toNat < 0x80 := by decide
    have read : decodeLossyChars (0x40 :: bs) = '@' :: decodeLossyChars bs :=
      decodeLossyChars_append_single [] bs small
    have text := decodeLossy_encode s
    rw [octets, decodeLossy, read] at text
    rw [← text, String.toList_ofList]
    rfl
  · intro first
    obtain ⟨cs, letters⟩ := List.head?_eq_some_iff.mp first
    rw [encode, letters]
    rfl

/-- Octets that are read as texts are those of the texts. -/
theorem Utf8.map_encode_of_decode? {bss : List Bytes} {texts : List String}
    (read : bss.mapM decode? = some texts) : texts.map encode = bss := by
  induction bss generalizing texts with
  | nil =>
      cases read
      rfl
  | cons bs bss ih =>
      simp only [List.mapM_cons, bind, Option.bind_eq_some_iff] at read
      obtain ⟨text, first, others, rest, same⟩ := read
      cases same
      rw [List.map_cons, encode_of_decode? first, ih rest]

namespace ArgumentFile

/-! ### Rows of arguments -/

/-- Changing all words of two expansions is changing those of each. -/
theorem map_inTurn {α β : Type} (f : α → β) (x y : Logged (Except Failure (List α))) :
    (inTurn x y).map (Except.map (List.map f)) =
      inTurn (x.map (Except.map (List.map f))) (y.map (Except.map (List.map f))) := by
  obtain ⟨log, _ | words⟩ := x
  · rfl
  · obtain ⟨log', _ | words'⟩ := y <;>
      simp [inTurn, Logged.map, Logged.after, Except.map]

variable {w : World}

theorem expandRaw_cons_of_reference {argument : Bytes} (marked : argument.head? = some 0x40)
    (arguments : List Bytes) :
    expandRaw w (argument :: arguments) =
      inTurn ((w.expandArguments [Utf8.decodeLossy argument]).map
        (Except.map (List.map Utf8.encode))) (expandRaw w arguments) := by
  have first : argument.head? = some (UInt8.ofNat marker.toNat) := marked
  rw [expandRaw, if_pos first]
  generalize w.expandArguments [Utf8.decodeLossy argument] = expanded
  obtain ⟨log, _ | words⟩ := expanded <;> rfl

theorem expandRaw_cons_of_unmarked {argument : Bytes} (free : argument.head? ≠ some 0x40)
    (arguments : List Bytes) :
    expandRaw w (argument :: arguments) =
      inTurn ⟨[], .ok [argument]⟩ (expandRaw w arguments) := by
  have first : argument.head? ≠ some (UInt8.ofNat marker.toNat) := free
  rw [expandRaw, if_neg first]
  rfl

/-- Arguments that are text are expanded as such. -/
theorem expandRaw_encode (texts : List String) :
    expandRaw w (texts.map Utf8.encode) =
      (w.expandArguments texts).map (Except.map (List.map Utf8.encode)) := by
  induction texts with
  | nil => rfl
  | cons text texts ih =>
      rw [List.map_cons, expandArguments_cons, map_inTurn, ← ih]
      by_cases marked : (Utf8.encode text).head? = some 0x40
      · rw [expandRaw_cons_of_reference marked, Utf8.decodeLossy_encode]
      · have plain : text.toList.head? ≠ some '@' :=
          mt (Utf8.head?_encode_eq_marker_iff text).mpr marked
        have alone : w.expandArguments [text] = ⟨[], .ok [text]⟩ :=
          expandArguments_of_forall_plain (by simpa using plain)
        rw [expandRaw_cons_of_unmarked marked, alone]
        rfl

/-- Arguments that do not start with the octet of the marker are handed on. -/
theorem expandRaw_of_unmarked {arguments : List Bytes}
    (free : ∀ a ∈ arguments, a.head? ≠ some 0x40) :
    expandRaw w arguments = ⟨[], .ok arguments⟩ := by
  induction arguments with
  | nil => rfl
  | cons argument arguments ih =>
      rw [List.forall_mem_cons] at free
      rw [expandRaw_cons_of_unmarked free.1, ih free.2]
      rfl

/-- What an argument is replaced with: the octets of what it stands for if it is a
reference, and else itself. -/
def StandsAs (w : World) (argument : Bytes) (block : List Bytes) : Prop :=
  if argument.head? = some 0x40 then
    ∃ words, (w.expandArguments [Utf8.decodeLossy argument]).result = .ok words ∧
      block = words.map Utf8.encode
  else block = [argument]

/-- Each argument contributes what it is replaced with. -/
theorem exists_blocks {arguments out : List Bytes}
    (done : (expandRaw w arguments).result = .ok out) :
    ∃ blocks, List.Forall₂ (StandsAs w) arguments blocks ∧ out = blocks.flatten := by
  induction arguments generalizing out with
  | nil =>
      cases done
      exact ⟨[], .nil, rfl⟩
  | cons argument arguments ih =>
      by_cases marked : argument.head? = some 0x40
      · rw [expandRaw_cons_of_reference marked, inTurn_result, bind_eq_ok_iff] at done
        obtain ⟨block, first, rest⟩ := done
        obtain ⟨words, expanded, rfl⟩ := map_eq_ok_iff.mp first
        obtain ⟨others, done, rfl⟩ := map_eq_ok_iff.mp rest
        obtain ⟨blocks, stand, rfl⟩ := ih done
        have stands : StandsAs w argument (words.map Utf8.encode) := by
          rw [StandsAs, if_pos marked]
          exact ⟨words, expanded, rfl⟩
        exact ⟨_ :: blocks, .cons stands stand, rfl⟩
      · rw [expandRaw_cons_of_unmarked marked, inTurn_result, bind_eq_ok_iff] at done
        obtain ⟨block, first, rest⟩ := done
        cases first
        obtain ⟨others, done, rfl⟩ := map_eq_ok_iff.mp rest
        obtain ⟨blocks, stand, rfl⟩ := ih done
        have stands : StandsAs w argument [argument] := by
          rw [StandsAs, if_neg marked]
        exact ⟨_ :: blocks, .cons stands stand, rfl⟩

/-- Arguments that are no references are found among what was put together, in order. -/
theorem sublist_flatten {arguments : List Bytes} {blocks : List (List Bytes)}
    (stand : List.Forall₂ (StandsAs w) arguments blocks) :
    (arguments.filter fun a => a.head? ≠ some 0x40).Sublist blocks.flatten := by
  induction stand with
  | nil => exact .slnil
  | @cons argument block arguments blocks stands _ ih =>
      rw [List.filter_cons, List.flatten_cons]
      split
      · next free =>
          rw [StandsAs, if_neg (of_decide_eq_true free)] at stands
          subst stands
          exact ih.cons_cons argument
      · exact ih.trans (List.sublist_append_right _ _)

/-- Nothing of what was put together starts with the octet of the marker. -/
theorem unmarked_of_expandRaw {arguments out : List Bytes}
    (done : (expandRaw w arguments).result = .ok out) :
    ∀ a ∈ out, a.head? ≠ some 0x40 := by
  obtain ⟨blocks, stand, rfl⟩ := exists_blocks done
  clear done
  induction stand with
  | nil => exact List.forall_mem_nil _
  | @cons argument block arguments blocks stands _ ih =>
      rw [List.flatten_cons, List.forall_mem_append]
      refine ⟨?_, ih⟩
      rw [StandsAs] at stands
      split at stands
      · obtain ⟨words, expanded, rfl⟩ := stands
        refine List.forall_mem_map.mpr ?_
        intro word mem
        have plain := plain_of_expandArguments expanded word mem
        exact mt (Utf8.head?_encode_eq_marker_iff word).mp plain
      · next free =>
          subst stands
          simpa using free

/-! ### Lines -/

/-- What stands before the first `a`, by its index. -/
theorem takeWhile_bne {α : Type} [BEq α] (a : α) (l : List α) :
    l.takeWhile (· != a) = l.take (l.idxOf a) := by
  rw [List.takeWhile_eq_take_findIdx_not]
  simp [List.idxOf, bne]

/-- What stands from the first `a` on, by its index. -/
theorem dropWhile_bne {α : Type} [BEq α] (a : α) (l : List α) :
    l.dropWhile (· != a) = l.drop (l.idxOf a) := by
  rw [List.dropWhile_eq_drop_findIdx_not]
  simp [List.idxOf, bne]

/-- The name of the program is kept, the arguments before the first `--` are replaced,
and the rest is kept. -/
theorem expandCommandLine_eq (line : List Bytes) :
    w.expandCommandLine line =
      (expandRaw w ((line.takeWhile (· != separator)).drop 1)).map (Except.map fun words =>
        (line.takeWhile (· != separator)).take 1 ++ words ++
          line.dropWhile (· != separator)) := by
  rw [World.expandCommandLine]
  cases line.takeWhile (· != separator) <;> rfl

/-- A line with no reference before its first `--`, the name of the program apart, is
handed on. -/
theorem expandCommandLine_of_unmarked {line : List Bytes}
    (free : ∀ a ∈ (line.takeWhile (· != separator)).drop 1, a.head? ≠ some 0x40) :
    w.expandCommandLine line = ⟨[], .ok line⟩ := by
  rw [expandCommandLine_eq, expandRaw_of_unmarked free]
  simp only [Logged.map, Except.map, List.take_append_drop, List.takeWhile_append_dropWhile]

/-- Nothing before the first `--` of an expanded line is a reference, the name of the
program apart. -/
theorem unmarked_of_expandCommandLine {line out : List Bytes}
    (done : (w.expandCommandLine line).result = .ok out) :
    ∀ a ∈ (out.takeWhile (· != separator)).drop 1, a.head? ≠ some 0x40 := by
  rw [expandCommandLine_eq] at done
  obtain ⟨words, replaced, rfl⟩ := map_eq_ok_iff.mp done
  have unmarked := unmarked_of_expandRaw replaced
  -- the first `--` of the line ends the search, if none that was put in does
  have stop : (line.dropWhile (· != separator)).takeWhile (· != separator) = [] := by
    have first := List.head?_dropWhile_not (· != separator) line
    cases rest : line.dropWhile (· != separator) with
    | nil => rfl
    | cons mark rest' =>
        rw [rest] at first
        exact List.takeWhile_cons_of_neg (by simpa using first)
  have kept : (words ++ line.dropWhile (· != separator)).takeWhile (· != separator) ⊆
      words := by
    rw [List.takeWhile_append, stop, List.append_nil]
    split
    · exact List.Subset.refl words
    · exact List.takeWhile_subset _
  intro a mem
  cases before : line.takeWhile (· != separator) with
  | nil =>
      rw [before] at replaced mem
      cases replaced
      rw [List.take_nil, List.nil_append, List.nil_append, stop] at mem
      cases mem
  | cons program arguments =>
      have other : (program != separator) = true := by
        refine List.mem_takeWhile_imp (l := line) (p := (· != separator)) ?_
        rw [before]
        exact List.mem_cons_self
      rw [before] at mem
      have mem : a ∈ (words ++ line.dropWhile (· != separator)).takeWhile
          (· != separator) := by
        simpa [List.takeWhile_cons, other] using mem
      exact unmarked a (kept mem)

end ArgumentFile

open ArgumentFile

/-- **A command line is expanded like the arguments on it.** If it can be expanded, then
the name of the program, every argument before the first `--` that is no reference, and
all from there on are in the result as they were and in the same order; each reference
has turned into what it stands for.

If the arguments before the first `--` are text, then the whole outcome is that of
expanding them together, failures included. A line that starts with `--` is handed on. -/
theorem command_line_expanded_like_arguments (w : World) (line : List Bytes) :
    let mark := line.idxOf separator
    let program := (line.take mark).take 1
    let arguments := (line.take mark).drop 1
    let after := line.drop mark
    (∀ out, (w.expandCommandLine line).result = .ok out →
      (program ++ (arguments.filter fun a => a.head? ≠ some 0x40) ++ after).Sublist out ∧
      ∃ blocks, List.Forall₂ (StandsAs w) arguments blocks ∧
        out = program ++ blocks.flatten ++ after) ∧
    (∀ texts, arguments.mapM Utf8.decode? = some texts →
      w.expandCommandLine line = (w.expandArguments texts).map
        (Except.map fun words => program ++ words.map Utf8.encode ++ after)) ∧
    (mark = 0 → w.expandCommandLine line = ⟨[], .ok line⟩) := by
  intro mark program arguments after
  have whole : w.expandCommandLine line = (expandRaw w arguments).map
      (Except.map fun words => program ++ words ++ after) := by
    rw [expandCommandLine_eq, takeWhile_bne, dropWhile_bne]
  refine ⟨fun out done => ?_, fun texts read => ?_, fun first => ?_⟩
  · rw [whole] at done
    obtain ⟨words, replaced, rfl⟩ := map_eq_ok_iff.mp done
    obtain ⟨blocks, stand, rfl⟩ := exists_blocks replaced
    have inOrder := sublist_flatten stand
    exact ⟨((List.Sublist.refl program).append inOrder).append (.refl after),
      blocks, stand, rfl⟩
  · rw [whole, ← Utf8.map_encode_of_decode? read, expandRaw_encode]
    generalize w.expandArguments texts = expanded
    obtain ⟨log, _ | words⟩ := expanded <;> rfl
  · have start : line.idxOf separator = 0 := first
    refine expandCommandLine_of_unmarked ?_
    rw [takeWhile_bne, start]
    exact List.forall_mem_nil _

/-- The name of the program looks like a reference, an argument is no text, and the
reference is repeated after the first `--`: only the one before it is replaced. -/
theorem command_line_expanded_like_arguments_of_raw :
    let flags : List Bytes × Node := ([Path.ofString "flags"], .file (Utf8.encode "-t 5") false)
    let w : World := { files := ⟨[flags]⟩, directory := [], environment := ⟨[]⟩ }
    let raw : Bytes := [0x66, 0xFF, 0x6F]
    let line := [Utf8.encode "@prog", raw, Utf8.encode "@flags", separator,
      Utf8.encode "@flags", raw]
    let out := [Utf8.encode "@prog", raw, Utf8.encode "-t", Utf8.encode "5", separator,
      Utf8.encode "@flags", raw]
    let line' := [Utf8.encode "prog", Utf8.encode "x", Utf8.encode "@flags", separator, raw]
    let line'' := [separator, Utf8.encode "@flags"]
    (w.expandCommandLine line).result = .ok out ∧
      [Utf8.encode "@prog", raw, separator, Utf8.encode "@flags", raw].Sublist out ∧
      w.expandCommandLine line' = (w.expandArguments ["x", "@flags"]).map
        (Except.map fun words =>
          [Utf8.encode "prog"] ++ words.map Utf8.encode ++ [separator, raw]) ∧
      w.expandCommandLine line'' = ⟨[], .ok line''⟩ := by
  intro flags w raw line out line' line''
  have done : (w.expandCommandLine line).result = .ok out := by decide +kernel
  obtain ⟨inOrder, -⟩ := (command_line_expanded_like_arguments w line).1 out done
  have together := (command_line_expanded_like_arguments w line').2.1 ["x", "@flags"]
    (by decide +kernel)
  have kept := (command_line_expanded_like_arguments w line'').2.2 (by decide)
  exact ⟨done, inOrder, together, kept⟩

/-- **A second expansion of a command line changes nothing**, and no file is read for
it. -/
theorem command_line_expansion_idempotent (w : World) {line out : List Bytes}
    (done : (w.expandCommandLine line).result = .ok out) :
    w.expandCommandLine out = ⟨[], .ok out⟩ :=
  expandCommandLine_of_unmarked (unmarked_of_expandCommandLine done)

/-- The reference brings in a `--`, so the second look at the line ends there, before a
reference that the first one had kept out of reach. -/
theorem command_line_expansion_idempotent_of_mark :
    let options : List Bytes × Node :=
      ([Path.ofString "options"], .file (Utf8.encode "-v -- b") false)
    let w : World := { files := ⟨[options]⟩, directory := [], environment := ⟨[]⟩ }
    let line := ["@prog", "@options", "x", "--", "@options"].map Utf8.encode
    let out := ["@prog", "-v", "--", "b", "x", "--", "@options"].map Utf8.encode
    (w.expandCommandLine line).result = .ok out ∧
      w.expandCommandLine out = ⟨[], .ok out⟩ := by
  intro options w line out
  have done : (w.expandCommandLine line).result = .ok out := by decide +kernel
  exact ⟨done, command_line_expansion_idempotent w done⟩

end ExitContract
