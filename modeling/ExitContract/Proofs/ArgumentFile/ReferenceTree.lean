import ExitContract.Proofs.ArgumentFile.Concatenation
import Mathlib.Data.List.Lex

/-!
# The tree of references

Arguments with references in them are the tops of a tree: below a reference stand the
words of the file that it names, and among these may be references again. Nothing here
is expanded. The tree is a fact about files and variables, and it may be without end, as
it is when a file leads back to itself.

**Places.** A place in the tree is the way down to it: which argument, which word of the
file that it names, which word of the file that this one names, and so on. Places are
compared as lists of numbers. An argument comes before all that is below it, and what is
below it comes before the arguments to the right of it, so this is the order of a walk
through the tree that goes down first and then from left to right.

**Faults.** A reference is faulty if it stands too deep, or else if it cannot be
resolved, or else if its file cannot be read. What stands too deep is not looked at any
further. A fault is a property of a place, whether or not a walk would come to it.

**Walks.** The places down to a given level are listed in order by `preorder`. Below the
last level there can still be places, but each of them is below a reference that stands
too deep and comes before it (`exists_offends_of_deep`), so a walk never needs them.

## Main definitions

* `ReferenceTree.Place`, `ReferenceTree.at?` — places, and what stands there
* `ReferenceTree.Offends` — the fault at a place
* `ReferenceTree.preorder` — the places down to a level, in order

## Main statements

* `ReferenceTree.mem_preorder_iff` — which places are listed
* `ReferenceTree.pairwise_preorder` — they are listed in order
* `ReferenceTree.exists_offends_of_deep` — what is below the last level
-/

namespace ExitContract

namespace ReferenceTree

open ArgumentFile (reference? failure readNote)

/-- A place: which of the arguments, which word of its file, and so on down. -/
abbrev Place := List Nat

/-- How many files a place is inside of. -/
def level (p : Place) : Nat := p.length - 1

/-- The file that a reference names, and its words. -/
def contents (w : World) (raw : String) : Except Failure (Path × List String) :=
  match w.expandReference raw with
  | .error v => .error (failure raw (.unset v))
  | .ok path =>
    match w.readArguments (Path.ofString path) with
    | .error f => .error f
    | .ok words => .ok (Path.ofString path, words)

/-- What stands below an argument: the words of the file that it names, if it does. -/
def children (w : World) (argument : String) : List String :=
  match reference? argument with
  | none => []
  | some raw =>
    match contents w raw with
    | .error _ => []
    | .ok (_, words) => words

/-- The argument at a place. -/
def at? (w : World) : List String → Place → Option String
  | _, [] => none
  | arguments, [i] => arguments[i]?
  | arguments, i :: j :: p => arguments[i]?.bind fun a => at? w (children w a) (j :: p)

/-- What is wrong with an argument at a level, where references may stand on so many
levels. -/
def fault? (w : World) (levels level : Nat) (argument : String) : Option Failure :=
  match reference? argument with
  | none => none
  | some raw =>
    if levels ≤ level then some (failure raw .tooDeep)
    else
      match contents w raw with
      | .error f => some f
      | .ok _ => none

/-- What the log says about an argument whose file was read. -/
def note? (w : World) (argument : String) : Option Event :=
  match reference? argument with
  | none => none
  | some raw =>
    match contents w raw with
    | .error _ => none
    | .ok (path, words) => some (readNote words.length path)

/-- Something is wrong with what stands at a place. -/
def Offends (w : World) (levels : Nat) (arguments : List String) (p : Place)
    (f : Failure) : Prop :=
  (at? w arguments p).bind (fault? w levels (level p)) = some f

/-- The place with the same way down from the argument to the right. -/
def next : Place → Place
  | [] => []
  | i :: p => (i + 1) :: p

/-- Arguments from left to right, each before `inner` of it. -/
def preorderWith (inner : String → List (Place × String)) :
    List String → List (Place × String)
  | [] => []
  | argument :: arguments =>
    ([0], argument) :: (inner argument).map (fun n => (0 :: n.1, n.2)) ++
      (preorderWith inner arguments).map fun n => (next n.1, n.2)

/-- The places of the tree with no more than so many files around them, in order, and
what stands there. -/
def preorder (w : World) : Nat → List String → List (Place × String)
  | 0 => preorderWith fun _ => []
  | levels + 1 => preorderWith fun argument => preorder w levels (children w argument)

variable {w : World}

/-! ### Arguments and what is below them -/

theorem children_of_plain {argument : String} (free : reference? argument = none) :
    children w argument = [] := by
  rw [children, free]

theorem fault?_of_plain (levels level : Nat) {argument : String}
    (free : reference? argument = none) : fault? w levels level argument = none := by
  rw [fault?, free]

/-- What is wrong with an argument does not change if it stands deeper and may do so. -/
theorem fault?_succ (levels level : Nat) (argument : String) :
    fault? w (levels + 1) (level + 1) argument = fault? w levels level argument := by
  simp only [fault?, Nat.add_le_add_iff_right]

theorem level_cons {p : Place} (below : p ≠ []) (i : Nat) : level (i :: p) = level p + 1 := by
  have steps := List.length_pos_iff.mpr below
  simp only [level, List.length_cons]
  omega

@[simp] theorem level_next (p : Place) : level (next p) = level p := by
  cases p <;> rfl

/-! ### What stands at a place -/

/-- At a place stands one of the arguments, or what stands at a place below one. -/
theorem at?_eq_some_iff {arguments : List String} {p : Place} {b : String} :
    at? w arguments p = some b ↔ ∃ i a, arguments[i]? = some a ∧
      (p = [i] ∧ b = a ∨ ∃ q, p = i :: q ∧ at? w (children w a) q = some b) := by
  rcases p with _ | ⟨i, _ | ⟨j, p⟩⟩
  · simp [at?]
  · simp [at?, eq_comm]
  · simp [at?, Option.bind_eq_some_iff]

theorem ne_nil_of_at? {arguments : List String} {p : Place} {a : String}
    (here : at? w arguments p = some a) : p ≠ [] := by
  rintro rfl
  cases here

theorem at?_below {arguments : List String} {i : Nat} {a : String}
    (top : arguments[i]? = some a) {p : Place} (below : p ≠ []) :
    at? w arguments (i :: p) = at? w (children w a) p := by
  obtain ⟨j, p, rfl⟩ := List.exists_cons_of_ne_nil below
  rw [at?, top, Option.bind_some]

/-- The places of the arguments after the first. -/
@[simp] theorem at?_next (argument : String) (arguments : List String) (p : Place) :
    at? w (argument :: arguments) (next p) = at? w arguments p := by
  rcases p with _ | ⟨i, _ | ⟨j, p⟩⟩ <;> rfl

/-- Only below a reference that can be followed is there something. -/
theorem exists_reference_of_child {a b : String} {p : Place}
    (below : at? w (children w a) p = some b) : ∃ raw, reference? a = some raw := by
  cases refers : reference? a with
  | some raw => exact ⟨raw, rfl⟩
  | none =>
      rw [children_of_plain refers] at below
      obtain ⟨i, a, top, -⟩ := at?_eq_some_iff.mp below
      cases top

/-! ### Faults at a place -/

theorem offends_below (levels : Nat) {arguments : List String} {i : Nat} {a : String}
    (top : arguments[i]? = some a) {p : Place} (below : p ≠ []) (f : Failure) :
    Offends w (levels + 1) arguments (i :: p) f ↔ Offends w levels (children w a) p f := by
  have same : fault? w (levels + 1) (level (i :: p)) = fault? w levels (level p) := by
    funext b
    rw [level_cons below, fault?_succ]
  rw [Offends, Offends, at?_below top below, same]

@[simp] theorem offends_next (levels : Nat) (argument : String) (arguments : List String)
    (p : Place) (f : Failure) :
    Offends w levels (argument :: arguments) (next p) f ↔ Offends w levels arguments p f := by
  simp [Offends]

/-- A reference on the last level is faulty. -/
theorem offends_of_reference {levels : Nat} {arguments : List String} {p : Place}
    {a raw : String} (here : at? w arguments p = some a) (refers : reference? a = some raw)
    (deep : levels ≤ level p) : Offends w levels arguments p (failure raw .tooDeep) := by
  rw [Offends, here, Option.bind_some, fault?, refers]
  exact if_pos deep

/-- **What is below the last level** is below a reference that stands too deep and comes
before it. -/
theorem exists_offends_of_deep {levels : Nat} {arguments : List String} {p : Place}
    {a : String} (here : at? w arguments p = some a) (deep : levels + 1 < p.length) :
    ∃ q f, Offends w levels arguments q f ∧ q.length = levels + 1 ∧ q < p := by
  induction levels generalizing arguments p with
  | zero =>
      obtain ⟨i, top, at_i, ⟨rfl, -⟩ | ⟨q, rfl, below⟩⟩ := at?_eq_some_iff.mp here
      · simp at deep
      · obtain ⟨raw, refers⟩ := exists_reference_of_child below
        have first : [i] < i :: q := by
          obtain ⟨j, q, rfl⟩ := List.exists_cons_of_ne_nil (ne_nil_of_at? below)
          simp
        have stands : at? w arguments [i] = some top := at_i
        exact ⟨[i], _, offends_of_reference stands refers (Nat.zero_le _), rfl, first⟩
  | succ levels ih =>
      obtain ⟨i, top, at_i, ⟨rfl, -⟩ | ⟨q, rfl, below⟩⟩ := at?_eq_some_iff.mp here
      · simp at deep
      · rw [List.length_cons, Nat.add_lt_add_iff_right] at deep
        obtain ⟨q', f, offends, steps, before⟩ := ih below deep
        have inside : q' ≠ [] := List.length_pos_iff.mp (by omega)
        refine ⟨i :: q', f, (offends_below levels at_i inside f).mpr offends, ?_, ?_⟩
        · rw [List.length_cons, steps]
        · exact List.cons_lt_cons_iff.mpr (.inr ⟨rfl, before⟩)

/-! ### Walks -/

theorem mem_preorderWith_iff {inner : String → List (Place × String)}
    {arguments : List String} {p : Place} {b : String} :
    (p, b) ∈ preorderWith inner arguments ↔ ∃ i a, arguments[i]? = some a ∧
      (p = [i] ∧ b = a ∨ ∃ q, p = i :: q ∧ (q, b) ∈ inner a) := by
  induction arguments generalizing p with
  | nil => simp [preorderWith]
  | cons argument arguments ih =>
      simp only [preorderWith, List.mem_append, List.mem_cons, List.mem_map, Prod.mk.injEq,
        Prod.exists]
      constructor
      · rintro ((⟨rfl, rfl⟩ | ⟨q, c, mem, rfl, rfl⟩) | ⟨q, c, mem, rfl, rfl⟩)
        · exact ⟨0, b, rfl, .inl ⟨rfl, rfl⟩⟩
        · exact ⟨0, argument, rfl, .inr ⟨q, rfl, mem⟩⟩
        · obtain ⟨i, a, top, ⟨rfl, rfl⟩ | ⟨q, rfl, inside⟩⟩ := ih.mp mem
          · exact ⟨i + 1, c, top, .inl ⟨rfl, rfl⟩⟩
          · exact ⟨i + 1, a, top, .inr ⟨q, rfl, inside⟩⟩
      · rintro ⟨_ | i, a, top, here⟩
        · cases top
          left
          rcases here with ⟨rfl, rfl⟩ | ⟨q, rfl, mem⟩
          · exact .inl ⟨rfl, rfl⟩
          · exact .inr ⟨q, b, mem, rfl, rfl⟩
        · right
          rcases here with ⟨rfl, rfl⟩ | ⟨q, rfl, mem⟩
          · exact ⟨[i], b, ih.mpr ⟨i, b, top, .inl ⟨rfl, rfl⟩⟩, rfl, rfl⟩
          · exact ⟨i :: q, b, ih.mpr ⟨i, a, top, .inr ⟨q, rfl, mem⟩⟩, rfl, rfl⟩

/-- **The places that are listed** are those that are not below the last level. -/
theorem mem_preorder_iff {levels : Nat} {arguments : List String} {p : Place}
    {b : String} : (p, b) ∈ preorder w levels arguments ↔
      at? w arguments p = some b ∧ p.length ≤ levels + 1 := by
  induction levels generalizing arguments p with
  | zero =>
      rw [preorder, mem_preorderWith_iff, at?_eq_some_iff]
      constructor
      · rintro ⟨i, a, top, ⟨rfl, rfl⟩ | ⟨q, rfl, mem⟩⟩
        · exact ⟨⟨i, b, top, .inl ⟨rfl, rfl⟩⟩, le_rfl⟩
        · cases mem
      · rintro ⟨⟨i, a, top, ⟨rfl, rfl⟩ | ⟨q, rfl, below⟩⟩, steps⟩
        · exact ⟨i, b, top, .inl ⟨rfl, rfl⟩⟩
        · have inside := List.length_pos_iff.mpr (ne_nil_of_at? below)
          simp only [List.length_cons] at steps
          omega
  | succ levels ih =>
      rw [preorder, mem_preorderWith_iff, at?_eq_some_iff]
      constructor
      · rintro ⟨i, a, top, ⟨rfl, rfl⟩ | ⟨q, rfl, mem⟩⟩
        · exact ⟨⟨i, b, top, .inl ⟨rfl, rfl⟩⟩, by simp⟩
        · obtain ⟨below, steps⟩ := ih.mp mem
          exact ⟨⟨i, a, top, .inr ⟨q, rfl, below⟩⟩, Nat.succ_le_succ steps⟩
      · rintro ⟨⟨i, a, top, ⟨rfl, rfl⟩ | ⟨q, rfl, below⟩⟩, steps⟩
        · exact ⟨i, b, top, .inl ⟨rfl, rfl⟩⟩
        · have steps := Nat.le_of_succ_le_succ steps
          exact ⟨i, a, top, .inr ⟨q, rfl, ih.mpr ⟨below, steps⟩⟩⟩

theorem ne_nil_of_mem_preorderWith {inner : String → List (Place × String)}
    {arguments : List String} {n : Place × String} (mem : n ∈ preorderWith inner arguments) :
    n.1 ≠ [] := by
  obtain ⟨i, a, -, ⟨start, -⟩ | ⟨q, start, -⟩⟩ := mem_preorderWith_iff.mp mem <;> simp [start]

theorem next_lt_next_iff {p q : Place} : next p < next q ↔ p < q := by
  cases q with
  | nil => exact iff_of_false (List.not_lt_nil _) (List.not_lt_nil _)
  | cons j q =>
      cases p with
      | nil => exact iff_of_true (List.nil_lt_cons _ _) (List.nil_lt_cons _ _)
      | cons i p => simp [next, List.cons_lt_cons_iff]

/-- The argument at the front and what is below it come before the rest. -/
theorem cons_lt_next {p : Place} (somewhere : p ≠ []) (q : Place) : 0 :: q < next p := by
  obtain ⟨i, p, rfl⟩ := List.exists_cons_of_ne_nil somewhere
  exact List.cons_lt_cons_iff.mpr (.inl (Nat.succ_pos i))

theorem pairwise_preorderWith {inner : String → List (Place × String)}
    (ordered : ∀ a, ((inner a).map Prod.fst).Pairwise (· < ·))
    (below : ∀ a, ∀ n ∈ inner a, n.1 ≠ []) (arguments : List String) :
    ((preorderWith inner arguments).map Prod.fst).Pairwise (· < ·) := by
  induction arguments with
  | nil => exact .nil
  | cons argument arguments ih =>
      have first : ((inner argument).map fun n => 0 :: n.1).Pairwise (· < ·) := by
        have ordered := List.pairwise_map.mp (ordered argument)
        refine List.pairwise_map.mpr (ordered.imp ?_)
        intro n m before
        exact List.cons_lt_cons_iff.mpr (.inr ⟨rfl, before⟩)
      have rest : ((preorderWith inner arguments).map fun n => next n.1).Pairwise (· < ·) := by
        refine List.pairwise_map.mpr ((List.pairwise_map.mp ih).imp ?_)
        intro n m before
        exact next_lt_next_iff.mpr before
      have top : ∀ p ∈ (inner argument).map fun n => 0 :: n.1, [0] < p := by
        intro p mem
        obtain ⟨n, inside, rfl⟩ := List.mem_map.mp mem
        obtain ⟨j, q, steps⟩ := List.exists_cons_of_ne_nil (below argument n inside)
        simp [steps]
      have left : ∀ p ∈ [0] :: (inner argument).map fun n => 0 :: n.1,
          ∀ q ∈ (preorderWith inner arguments).map fun n => next n.1, p < q := by
        intro p here q mem
        obtain ⟨m, right, rfl⟩ := List.mem_map.mp mem
        have somewhere := ne_nil_of_mem_preorderWith right
        rcases List.mem_cons.mp here with rfl | here
        · exact cons_lt_next somewhere []
        · obtain ⟨n, -, rfl⟩ := List.mem_map.mp here
          exact cons_lt_next somewhere n.1
      have whole := List.pairwise_append.mpr ⟨List.pairwise_cons.mpr ⟨top, first⟩, rest, left⟩
      simpa [preorderWith, Function.comp_def] using whole

/-- **Places are listed in order.** -/
theorem pairwise_preorder (levels : Nat) (arguments : List String) :
    ((preorder w levels arguments).map Prod.fst).Pairwise (· < ·) := by
  have below (levels : Nat) (arguments : List String) :
      ∀ n ∈ preorder w levels arguments, n.1 ≠ [] := by
    intro n mem
    exact ne_nil_of_at? (mem_preorder_iff.mp mem).1
  induction levels generalizing arguments with
  | zero => exact pairwise_preorderWith (fun _ => .nil) (fun _ => List.forall_mem_nil _) _
  | succ levels ih =>
      exact pairwise_preorderWith (fun a => ih (children w a))
        (fun a => below levels (children w a)) arguments

end ReferenceTree

end ExitContract
