import ExitContract.Proofs.ArgumentFile.ReferenceTree
import Mathlib.Data.List.Forall2

/-!
# Arguments are expanded to the leaves of their tree

Expanding arguments walks through the tree of their references and keeps the leaves, from
left to right. The first faulty reference that the walk comes to is the end of it: it is
what the failure is about, and nothing after it is read.

**A walk is a row.** Expansion descends level by level, and each level has a row of words
of its own. Laid out in the order in which it comes to them, all places of the tree are
one row (`preorder`), and expansion is the walk along this row (`expandAt_eq_visit`). The
row is in order, so whatever stands before the first fault in it is what is before every
fault of the tree (`mem_sound_iff`); from there on the levels play no part.

**What is not read.** A file that is not read has no part in the outcome. So the last
statement is about another world that agrees about the references up to the first fault:
all that is logged and returned is the same there (`expandAt_congr`). A reference that
stands too deep is not among those on which the worlds have to agree.

## Main definitions

* `ReferenceTree.visit` — the walk along a row of places
* `ReferenceTree.sound` — the part of the row before the first fault

## Main statements

* `ReferenceTree.expandAt_eq_visit` — expansion is a walk
* `ReferenceTree.mem_sound_iff` — the places before every fault
* `ReferenceTree.expandAt_congr` — what has no part in the outcome
* `arguments_flattened_in_order` — all of it together
-/

namespace ExitContract

namespace ReferenceTree

open ArgumentFile

/-- A plain word stands at a place. -/
def IsLeaf (w : World) (arguments : List String) (p : Place) : Prop :=
  ∃ a, at? w arguments p = some a ∧ reference? a = none

/-- A reference stands at a place. -/
def Refers (w : World) (arguments : List String) (p : Place) (raw : String) : Prop :=
  ∃ a, at? w arguments p = some a ∧ reference? a = some raw

/-- The word that an argument is in the end: itself, if it is no reference. -/
def leaf? (argument : String) : Option String :=
  match reference? argument with
  | none => some argument
  | some _ => none

/-- What a walk gets from a place. -/
def visitOne (w : World) (levels : Nat) (n : Place × String) :
    Logged (Except Failure (List String)) :=
  match fault? w levels (level n.1) n.2 with
  | some f => ⟨[], .error f⟩
  | none => ⟨(note? w n.2).toList, .ok (leaf? n.2).toList⟩

/-- What a walk along a row of places gets. -/
def visit (w : World) (levels : Nat) :
    List (Place × String) → Logged (Except Failure (List String))
  | [] => ⟨[], .ok []⟩
  | n :: rest => inTurn (visitOne w levels n) (visit w levels rest)

/-- The places in order, up to the first where something is wrong. -/
def sound (w : World) (levels : Nat) (arguments : List String) : List (Place × String) :=
  (preorder w levels arguments).takeWhile fun n => (fault? w levels (level n.1) n.2).isNone

variable {w : World}

/-! ### Walks -/

@[simp] theorem visit_append (levels : Nat) (ns ms : List (Place × String)) :
    visit w levels (ns ++ ms) = inTurn (visit w levels ns) (visit w levels ms) := by
  induction ns with
  | nil => exact (nil_inTurn _).symm
  | cons n ns ih => rw [List.cons_append, visit, visit, ih, inTurn_assoc]

/-- A walk only looks at the levels of places. -/
theorem visit_map {levels levels' : Nat} {move : Place → Place} {ns : List (Place × String)}
    (same : ∀ n ∈ ns, fault? w levels' (level (move n.1)) = fault? w levels (level n.1)) :
    visit w levels' (ns.map fun n => (move n.1, n.2)) = visit w levels ns := by
  induction ns with
  | nil => rfl
  | cons n ns ih =>
      rw [List.forall_mem_cons] at same
      have one : visitOne w levels' (move n.1, n.2) = visitOne w levels n := by
        simp only [visitOne, same.1]
      rw [List.map_cons, visit, visit, ih same.2, one]

theorem visit_next (levels : Nat) (ns : List (Place × String)) :
    visit w levels (ns.map fun n => (next n.1, n.2)) = visit w levels ns := by
  refine visit_map ?_
  intro n _
  rw [level_next]

theorem visit_below (levels : Nat) (arguments : List String) :
    visit w (levels + 1) ((preorder w levels arguments).map fun n => (0 :: n.1, n.2)) =
      visit w levels (preorder w levels arguments) := by
  refine visit_map ?_
  intro n mem
  have below := ne_nil_of_at? (mem_preorder_iff.mp mem).1
  funext a
  rw [level_cons below, fault?_succ]

/-- A walk without faults gets the leaves. -/
theorem visit_of_faultless {levels : Nat} {ns : List (Place × String)}
    (faultless : ∀ n ∈ ns, fault? w levels (level n.1) n.2 = none) :
    visit w levels ns =
      ⟨ns.filterMap fun n => note? w n.2, .ok (ns.filterMap fun n => leaf? n.2)⟩ := by
  induction ns with
  | nil => rfl
  | cons n ns ih =>
      rw [List.forall_mem_cons] at faultless
      rw [visit, visitOne, faultless.1, ih faultless.2, List.filterMap_cons,
        List.filterMap_cons]
      cases note? w n.2 <;> cases leaf? n.2 <;> rfl

/-! ### Expansion is a walk -/

theorem follow_eq (raw : String) :
    follow w raw =
      match contents w raw with
      | .error f => ⟨[], .error f⟩
      | .ok (path, words) => ⟨[readNote words.length path], .ok words⟩ := by
  unfold follow contents
  cases w.expandReference raw with
  | error v => rfl
  | ok path =>
      dsimp only
      cases w.readArguments (Path.ofString path) <;> rfl

theorem expandAt_single_plain (levels : Nat) {a : String} (free : reference? a = none) :
    expandAt w levels [a] = ⟨[], .ok [a]⟩ := by
  have plain := plain_of_reference? free
  exact expandAt_of_plain w levels (by simpa using plain)

theorem expandAt_single_reference (levels : Nat) {a raw : String}
    (refers : reference? a = some raw) : expandAt w levels [a] = standsFor w levels raw := by
  rw [expandAt_eq, expandWith, refers]
  dsimp only
  generalize standsFor w levels raw = stands
  obtain ⟨log, _ | words⟩ := stands <;>
    simp [expandWith, Logged.map, Logged.after, Except.map]

/-- For an argument stands what is at its place, and then what is below it. -/
theorem expandAt_single (levels : Nat) (a : String) :
    expandAt w (levels + 1) [a] =
      inTurn (visitOne w (levels + 1) ([0], a)) (expandAt w levels (children w a)) := by
  cases refers : reference? a with
  | none =>
      rw [expandAt_single_plain _ refers, children_of_plain refers, visitOne,
        fault?_of_plain _ _ refers]
      simp only [note?, leaf?, refers]
      cases levels <;> rfl
  | some raw =>
      have shallow : ¬ levels + 1 ≤ level [0] := Nat.not_succ_le_zero levels
      rw [expandAt_single_reference _ refers, standsFor, follow_eq]
      simp only [visitOne, fault?, note?, leaf?, children, refers, if_neg shallow]
      rcases contents w raw with f | ⟨path, words⟩
      · rfl
      · dsimp only
        generalize expandAt w levels words = inside
        obtain ⟨log, _ | words'⟩ := inside <;> rfl

/-- If what stands for an argument is a walk, then so is what stands for a row of them. -/
theorem expandAt_eq_visit_preorderWith {levels : Nat}
    {inner : String → List (Place × String)}
    (single : ∀ a, expandAt w levels [a] = inTurn (visitOne w levels ([0], a))
      (visit w levels ((inner a).map fun n => (0 :: n.1, n.2)))) (arguments : List String) :
    expandAt w levels arguments = visit w levels (preorderWith inner arguments) := by
  induction arguments with
  | nil => cases levels <;> rfl
  | cons a arguments ih =>
      rw [expandAt_cons, single, ih, preorderWith, List.cons_append, visit, visit_append,
        visit_next, inTurn_assoc]

/-- **Expansion is a walk** along the places of the tree. -/
theorem expandAt_eq_visit (levels : Nat) (arguments : List String) :
    expandAt w levels arguments = visit w levels (preorder w levels arguments) := by
  induction levels generalizing arguments with
  | zero =>
      refine expandAt_eq_visit_preorderWith ?_ arguments
      intro a
      have alone : visit w 0 [] = ⟨[], .ok []⟩ := rfl
      rw [List.map_nil, alone, inTurn_nil]
      cases refers : reference? a with
      | none =>
          rw [expandAt_single_plain _ refers, visitOne, fault?_of_plain _ _ refers]
          simp only [note?, leaf?, refers]
          rfl
      | some raw =>
          rw [expandAt_single_reference _ refers, visitOne]
          simp only [fault?, refers, Nat.zero_le, if_true]
          rfl
  | succ levels ih =>
      refine expandAt_eq_visit_preorderWith ?_ arguments
      intro a
      rw [expandAt_single, ih, visit_below]

/-! ### Before the first fault -/

/-- Something is wrong at a place that is listed and is not after a given fault. -/
theorem exists_listed_of_offends {levels : Nat} {arguments : List String} {q : Place}
    {f : Failure} (offends : Offends w levels arguments q f) :
    ∃ n ∈ preorder w levels arguments,
      fault? w levels (level n.1) n.2 ≠ none ∧ ¬ q < n.1 := by
  have listed {q : Place} {f : Failure} (offends : Offends w levels arguments q f)
      (steps : q.length ≤ levels + 1) : ∃ n ∈ preorder w levels arguments,
        fault? w levels (level n.1) n.2 ≠ none ∧ n.1 = q := by
    obtain ⟨a, here, fault⟩ := Option.bind_eq_some_iff.mp offends
    exact ⟨(q, a), mem_preorder_iff.mpr ⟨here, steps⟩, by simp [fault], rfl⟩
  rcases Nat.lt_or_ge (levels + 1) q.length with deep | steps
  · obtain ⟨a, here, -⟩ := Option.bind_eq_some_iff.mp offends
    obtain ⟨q', f', offends', steps, before⟩ := exists_offends_of_deep here deep
    obtain ⟨n, mem, fault, rfl⟩ := listed offends' (by omega)
    exact ⟨n, mem, fault, List.lt_asymm before⟩
  · obtain ⟨n, mem, fault, rfl⟩ := listed offends steps
    exact ⟨n, mem, fault, List.lt_irrefl n.1⟩

theorem faultless_of_mem_sound {levels : Nat} {arguments : List String}
    {n : Place × String} (mem : n ∈ sound w levels arguments) :
    fault? w levels (level n.1) n.2 = none := by
  simpa using List.mem_takeWhile_imp mem

/-- A list without an entry that `g` is about, or up to the first such entry. -/
theorem takeWhile_isNone_cases {α β : Type} (g : α → Option β) (ns : List α) :
    ns = ns.takeWhile (fun n => (g n).isNone) ∨
      ∃ n after b, ns = ns.takeWhile (fun n => (g n).isNone) ++ n :: after ∧ g n = some b := by
  induction ns with
  | nil => exact .inl rfl
  | cons n ns ih =>
      cases here : g n with
      | some b => exact .inr ⟨n, ns, b, by simp [here], here⟩
      | none =>
          have kept : (n :: ns).takeWhile (fun n => (g n).isNone) =
              n :: ns.takeWhile fun n => (g n).isNone := by simp [here]
          rw [kept]
          rcases ih with whole | ⟨m, after, b, whole, there⟩
          · exact .inl (congrArg (n :: ·) whole)
          · exact .inr ⟨m, after, b, congrArg (n :: ·) whole, there⟩

section

variable {ns ms : List (Place × String)} {n m : Place × String}

/-- What stands in front of an entry of a row in order comes before it. -/
theorem lt_of_mem_front (ordered : ((ns ++ n :: ms).map Prod.fst).Pairwise (· < ·))
    (mem : m ∈ ns) : m.1 < n.1 := by
  rw [List.map_append, List.pairwise_append] at ordered
  exact ordered.2.2 m.1 (List.mem_map_of_mem mem) n.1 List.mem_cons_self

/-- What does not stand in front of an entry of a row in order does not come before it. -/
theorem mem_front_or_not_lt (ordered : ((ns ++ n :: ms).map Prod.fst).Pairwise (· < ·))
    (mem : m ∈ ns ++ n :: ms) : m ∈ ns ∨ ¬ m.1 < n.1 := by
  rw [List.map_append, List.map_cons, List.pairwise_append, List.pairwise_cons] at ordered
  rcases List.mem_append.mp mem with front | back
  · exact .inl front
  · rcases List.mem_cons.mp back with rfl | back
    · exact .inr (List.lt_irrefl m.1)
    · have later := ordered.2.1.1 m.1 (List.mem_map_of_mem back)
      exact .inr (List.lt_asymm later)

end

/-- Either nothing is wrong anywhere in the tree, or a first fault comes after what is
sound and before all other faults. -/
theorem preorder_split (w : World) (levels : Nat) (arguments : List String) :
    (preorder w levels arguments = sound w levels arguments ∧
      ∀ p f, ¬ Offends w levels arguments p f) ∨
    ∃ n after f, preorder w levels arguments = sound w levels arguments ++ n :: after ∧
      fault? w levels (level n.1) n.2 = some f ∧ Offends w levels arguments n.1 f ∧
      ∀ q g, Offends w levels arguments q g → ¬ q < n.1 := by
  rcases takeWhile_isNone_cases (fun n : Place × String => fault? w levels (level n.1) n.2)
    (preorder w levels arguments) with whole | ⟨n, after, f, whole, fault⟩
  · refine .inl ⟨whole, ?_⟩
    intro p f offends
    obtain ⟨n, mem, faulty, -⟩ := exists_listed_of_offends offends
    rw [whole] at mem
    exact faulty (faultless_of_mem_sound mem)
  · have mem : (n.1, n.2) ∈ preorder w levels arguments := by
      rw [whole]
      exact List.mem_append_right _ List.mem_cons_self
    have here := (mem_preorder_iff.mp mem).1
    have offends : Offends w levels arguments n.1 f := by
      rw [Offends, here, Option.bind_some, fault]
    refine .inr ⟨n, after, f, whole, fault, offends, ?_⟩
    intro q g other before
    -- a fault below the last level is not listed, but one that is no later is
    obtain ⟨m, mem, faulty, notAfter⟩ := exists_listed_of_offends other
    have ordered := pairwise_preorder (w := w) levels arguments
    rw [whole] at mem ordered
    rcases mem_front_or_not_lt ordered mem with front | notBefore
    · exact faulty (faultless_of_mem_sound front)
    · have notLater := le_trans (not_lt.mp notBefore) (not_lt.mp notAfter)
      exact not_lt.mpr notLater before

/-- **What is sound** is what stands before every fault of the tree. -/
theorem mem_sound_iff {levels : Nat} {arguments : List String} {p : Place} {a : String} :
    (p, a) ∈ sound w levels arguments ↔ at? w arguments p = some a ∧
      ∀ q f, Offends w levels arguments q f → p < q := by
  have listed (here : at? w arguments p = some a)
      (first : ∀ q f, Offends w levels arguments q f → p < q) :
      (p, a) ∈ preorder w levels arguments := by
    refine mem_preorder_iff.mpr ⟨here, Nat.le_of_not_lt ?_⟩
    intro deep
    obtain ⟨q, f, offends, -, before⟩ := exists_offends_of_deep here deep
    exact List.lt_asymm before (first q f offends)
  rcases preorder_split w levels arguments with
    ⟨whole, faultless⟩ | ⟨n, after, f, whole, -, offends, least⟩
  · constructor
    · intro mem
      rw [← whole] at mem
      exact ⟨(mem_preorder_iff.mp mem).1, fun q f offends => absurd offends (faultless q f)⟩
    · rintro ⟨here, first⟩
      rw [← whole]
      exact listed here first
  · have ordered := pairwise_preorder (w := w) levels arguments
    rw [whole] at ordered
    constructor
    · intro mem
      have before : p < n.1 := lt_of_mem_front ordered mem
      have mem' : (p, a) ∈ preorder w levels arguments := by
        rw [whole]
        exact List.mem_append_left _ mem
      refine ⟨(mem_preorder_iff.mp mem').1, ?_⟩
      intro q g other
      exact lt_of_lt_of_le before (not_lt.mp (least q g other))
    · rintro ⟨here, first⟩
      have mem := listed here first
      rw [whole] at mem
      rcases mem_front_or_not_lt ordered mem with front | notBefore
      · exact front
      · exact absurd (first n.1 f offends) notBefore

/-! ### What a walk gets -/

/-- The places of a row where there is something to collect, in order. -/
theorem exists_collected {β : Type} (g : String → Option β) {ns : List (Place × String)}
    (ordered : (ns.map Prod.fst).Pairwise (· < ·)) :
    ∃ places : List Place, places.Pairwise (· < ·) ∧
      (∀ p, p ∈ places ↔ ∃ a b, (p, a) ∈ ns ∧ g a = some b) ∧
      List.Forall₂ (fun p b => ∃ a, (p, a) ∈ ns ∧ g a = some b) places
        (ns.filterMap fun n => g n.2) := by
  let pairs := ns.filterMap fun n => (g n.2).map (n.1, ·)
  have mem_pairs (p : Place) (b : β) : (p, b) ∈ pairs ↔ ∃ a, (p, a) ∈ ns ∧ g a = some b := by
    simp [pairs]
  have values : (ns.filterMap fun n => g n.2) = pairs.map Prod.snd := by
    simp [pairs, List.map_filterMap, Function.comp_def]
  refine ⟨pairs.map Prod.fst, ?_, ?_, ?_⟩
  · rw [List.pairwise_map, List.pairwise_filterMap]
    refine (List.pairwise_map.mp ordered).imp ?_
    intro n m before x hx y hy
    obtain ⟨b, -, rfl⟩ := Option.map_eq_some_iff.mp hx
    obtain ⟨b', -, rfl⟩ := Option.map_eq_some_iff.mp hy
    exact before
  · intro p
    simp only [List.mem_map, Prod.exists, exists_and_right, exists_eq_right, mem_pairs]
    exact exists_comm
  · rw [values, List.forall₂_map_left_iff, List.forall₂_map_right_iff, List.forall₂_same]
    intro x mem
    exact (mem_pairs x.1 x.2).mp mem

theorem visit_sound (w : World) (levels : Nat) (arguments : List String) :
    visit w levels (sound w levels arguments) =
      ⟨(sound w levels arguments).filterMap fun n => note? w n.2,
        .ok ((sound w levels arguments).filterMap fun n => leaf? n.2)⟩ :=
  visit_of_faultless fun _ mem => faultless_of_mem_sound mem

/-- A tree without faults is expanded to what is sound of it: all. -/
theorem expandAt_of_faultless {levels : Nat} {arguments : List String}
    (faultless : ∀ p f, ¬ Offends w levels arguments p f) :
    expandAt w levels arguments = visit w levels (sound w levels arguments) := by
  rcases preorder_split w levels arguments with
    ⟨whole, -⟩ | ⟨n, after, f, -, -, offends, -⟩
  · rw [expandAt_eq_visit, whole]
  · exact absurd offends (faultless n.1 f)

/-- The first fault of a tree is the failure of its expansion. -/
theorem expandAt_of_offends {levels : Nat} {arguments : List String} {p : Place}
    {f : Failure} (offends : Offends w levels arguments p f) :
    ∃ q g, Offends w levels arguments q g ∧
      (∀ q' g', Offends w levels arguments q' g' → ¬ q' < q) ∧
      expandAt w levels arguments =
        ⟨(visit w levels (sound w levels arguments)).log, .error g⟩ := by
  rcases preorder_split w levels arguments with
    ⟨-, faultless⟩ | ⟨n, after, g, whole, fault, offends', least⟩
  · exact absurd offends (faultless p f)
  · refine ⟨n.1, g, offends', least, ?_⟩
    rw [expandAt_eq_visit, whole, visit_append, visit, visitOne, fault, visit_sound,
      inTurn_of_error ⟨[], .error g⟩ _ rfl]
    simp [inTurn, Logged.map, Logged.after, Except.map]

theorem expandAt_log (levels : Nat) (arguments : List String) :
    (expandAt w levels arguments).log =
      (sound w levels arguments).filterMap fun n => note? w n.2 := by
  by_cases faulty : ∃ p f, Offends w levels arguments p f
  · obtain ⟨p, f, offends⟩ := faulty
    obtain ⟨q, g, -, -, expanded⟩ := expandAt_of_offends offends
    rw [expanded, visit_sound]
  · have faultless : ∀ p f, ¬ Offends w levels arguments p f := by simpa using faulty
    rw [expandAt_of_faultless faultless, visit_sound]

/-! ### What is collected -/

theorem leaf?_eq_some_iff {a b : String} :
    leaf? a = some b ↔ reference? a = none ∧ a = b := by
  cases refers : reference? a <;> simp [leaf?, refers]

/-- There is an entry in the log for every reference that is not faulty, and for nothing
else. -/
theorem exists_note?_iff {levels : Nat} {p : Place} {a : String}
    (faultless : fault? w levels (level p) a = none) :
    (∃ event, note? w a = some event) ↔ ∃ raw, reference? a = some raw := by
  cases refers : reference? a with
  | none => simp [note?, refers]
  | some raw =>
      simp only [fault?, refers] at faultless
      split at faultless
      · cases faultless
      · cases read : contents w raw with
        | error f => simp [read] at faultless
        | ok words => simp [note?, refers, read]

theorem pairwise_sound (levels : Nat) (arguments : List String) :
    ((sound w levels arguments).map Prod.fst).Pairwise (· < ·) :=
  (pairwise_preorder levels arguments).sublist ((List.takeWhile_sublist _).map _)

/-- **The leaves from left to right** are what a tree without faults is expanded to. -/
theorem exists_leaves {levels : Nat} {arguments : List String}
    (faultless : ∀ p f, ¬ Offends w levels arguments p f) :
    ∃ leaves out, leaves.Pairwise (· < ·) ∧ (∀ p, p ∈ leaves ↔ IsLeaf w arguments p) ∧
      List.Forall₂ (fun p word => at? w arguments p = some word) leaves out ∧
      (expandAt w levels arguments).result = .ok out := by
  obtain ⟨leaves, ordered, mem_leaves, words⟩ :=
    exists_collected leaf? (pairwise_sound (w := w) levels arguments)
  have mem_sound (p : Place) (a : String) :
      (p, a) ∈ sound w levels arguments ↔ at? w arguments p = some a := by
    rw [mem_sound_iff]
    exact and_iff_left fun q f offends => absurd offends (faultless q f)
  refine ⟨leaves, _, ordered, ?_, words.imp ?_, ?_⟩
  · intro p
    simp [mem_leaves, mem_sound, leaf?_eq_some_iff, IsLeaf]
  · rintro p word ⟨a, mem, leaf⟩
    obtain ⟨-, rfl⟩ := leaf?_eq_some_iff.mp leaf
    exact (mem_sound p a).mp mem
  · rw [expandAt_of_faultless faultless, visit_sound]

/-- **The references before the first fault**, in order, are those whose files are read. -/
theorem exists_read (w : World) (levels : Nat) (arguments : List String) :
    ∃ read, read.Pairwise (· < ·) ∧
      (∀ p, p ∈ read ↔ (∃ raw, Refers w arguments p raw) ∧
        ∀ q f, Offends w levels arguments q f → p < q) ∧
      List.Forall₂ (fun p event => ∃ a, at? w arguments p = some a ∧ note? w a = some event)
        read (expandAt w levels arguments).log := by
  obtain ⟨read, ordered, mem_read, events⟩ :=
    exists_collected (note? w) (pairwise_sound (w := w) levels arguments)
  rw [← expandAt_log] at events
  refine ⟨read, ordered, ?_, events.imp ?_⟩
  · intro p
    rw [mem_read]
    constructor
    · rintro ⟨a, event, mem, note⟩
      obtain ⟨raw, refers⟩ := (exists_note?_iff (faultless_of_mem_sound mem)).mp ⟨event, note⟩
      obtain ⟨here, first⟩ := mem_sound_iff.mp mem
      exact ⟨⟨raw, a, here, refers⟩, first⟩
    · rintro ⟨⟨raw, a, here, refers⟩, first⟩
      have mem := mem_sound_iff.mpr ⟨here, first⟩
      obtain ⟨event, note⟩ :=
        (exists_note?_iff (faultless_of_mem_sound mem)).mpr ⟨raw, refers⟩
      exact ⟨a, event, mem, note⟩
  · rintro p event ⟨a, mem, note⟩
    exact ⟨a, (mem_sound_iff.mp mem).1, note⟩

/-! ### What is not read -/

variable {w' : World}

/-- A place of a row of arguments is the first one's or below it, or else a place of the
others. -/
theorem offends_cons_cases {levels : Nat} {a : String} {arguments : List String} {q : Place}
    {f : Failure} (offends : Offends w levels (a :: arguments) q f) :
    Offends w levels [a] q f ∨ ∃ q', q = next q' ∧ Offends w levels arguments q' f := by
  rcases q with _ | ⟨_ | i, q⟩
  · cases offends
  · left
    cases q with
    | nil => exact offends
    | cons j q => exact offends
  · exact .inr ⟨i :: q, rfl, (offends_next levels a arguments (i :: q) f).mp offends⟩

/-- Nothing that is wrong comes before an argument at the front. -/
theorem not_offends_of_lt_front {levels : Nat} {arguments : List String} {q : Place}
    {f : Failure} (offends : Offends w levels arguments q f) : ¬ q < [0] := by
  intro before
  rcases q with _ | ⟨i, q⟩
  · cases offends
  · simp [List.cons_lt_cons_iff] at before

/-- What is wrong before a place below the first argument is below it as well: the
argument itself was followed. -/
theorem offends_inside {levels : Nat} {a b : String} {arguments : List String}
    {p q : Place} {f : Failure} (here : at? w (children w a) p = some b)
    (offends : Offends w (levels + 1) (a :: arguments) q f) (before : q < 0 :: p) :
    ∃ q', q = 0 :: q' ∧ Offends w levels (children w a) q' f ∧ q' < p := by
  rcases q with _ | ⟨i, q⟩
  · cases offends
  · obtain ⟨rfl, before'⟩ : i = 0 ∧ q < p := by
      simpa [List.cons_lt_cons_iff] using before
    by_cases top : q = []
    · subst top
      obtain ⟨raw, refers⟩ := exists_reference_of_child here
      have fault : fault? w (levels + 1) 0 a = some f := offends
      have shallow : ¬ levels + 1 ≤ 0 := Nat.not_succ_le_zero levels
      simp only [fault?, refers, if_neg shallow] at fault
      cases read : contents w raw with
      | error g =>
          have nothing : children w a = [] := by simp only [children, refers, read]
          rw [nothing] at here
          obtain ⟨j, c, none, -⟩ := at?_eq_some_iff.mp here
          cases none
      | ok words =>
          rw [read] at fault
          cases fault
    · exact ⟨q, rfl, (offends_below levels rfl top f).mp offends, before'⟩

/-- What stands for an argument depends on what it refers to and on what stands for the
words below it. -/
theorem expandAt_single_congr {levels : Nat} {a : String}
    (agree : ∀ raw, reference? a = some raw → contents w' raw = contents w raw)
    (inside : expandAt w' levels (children w a) = expandAt w levels (children w a)) :
    expandAt w' (levels + 1) [a] = expandAt w (levels + 1) [a] := by
  have below : children w' a = children w a := by
    cases refers : reference? a with
    | none => rw [children_of_plain refers, children_of_plain refers]
    | some raw => simp only [children, refers, agree raw refers]
  have here : visitOne w' (levels + 1) ([0], a) = visitOne w (levels + 1) ([0], a) := by
    cases refers : reference? a with
    | none => simp only [visitOne, fault?, note?, refers]
    | some raw => simp only [visitOne, fault?, note?, refers, agree raw refers]
  rw [expandAt_single, expandAt_single, below, here, inside]

/-- What stands for a row of arguments depends on the first of them, and on the others if
nothing is wrong with the first. -/
theorem expandAt_cons_congr {levels : Nat} {a : String} {arguments : List String}
    (front : expandAt w' levels [a] = expandAt w levels [a])
    (rest : (∀ q f, ¬ Offends w levels [a] q f) →
      expandAt w' levels arguments = expandAt w levels arguments) :
    expandAt w' levels (a :: arguments) = expandAt w levels (a :: arguments) := by
  rw [expandAt_cons levels a arguments, expandAt_cons levels a arguments, front]
  cases done : (expandAt w levels [a]).result with
  | error f => rw [inTurn_of_error _ _ done, inTurn_of_error _ _ done]
  | ok words =>
      rw [rest ?_]
      intro q f offends
      obtain ⟨_, _, _, _, expanded⟩ := expandAt_of_offends offends
      rw [expanded] at done
      cases done

/-- **What comes after the first fault has no part in the outcome**, nor has what a
reference that stands too deep would lead to. -/
theorem expandAt_congr {levels : Nat} {arguments : List String}
    (same : ∀ p raw, Refers w arguments p raw → level p < levels →
      (∀ q f, Offends w levels arguments q f → ¬ q < p) → contents w' raw = contents w raw) :
    expandAt w' levels arguments = expandAt w levels arguments := by
  -- along the walk: down to the words of the first argument, then on to the next one, which
  -- counts only if nothing was wrong with the first or below it
  induction levels generalizing arguments with
  | zero => rfl
  | succ levels deeper =>
      induction arguments with
      | nil => rfl
      | cons a arguments further =>
          have agree (raw : String) (refers : reference? a = some raw) :
              contents w' raw = contents w raw :=
            same [0] raw ⟨a, rfl, refers⟩ (Nat.succ_pos levels)
              fun q f offends => not_offends_of_lt_front offends
          have inside :
              expandAt w' levels (children w a) = expandAt w levels (children w a) := by
            refine deeper ?_
            rintro p raw ⟨b, here, refers⟩ shallow first
            have below := ne_nil_of_at? here
            refine same (0 :: p) raw ⟨b, ?_, refers⟩ ?_ ?_
            · rw [at?_below rfl below, here]
            · rw [level_cons below]
              omega
            · intro q f offends before
              obtain ⟨q, rfl, offends', before'⟩ := offends_inside here offends before
              exact first q f offends' before'
          refine expandAt_cons_congr (expandAt_single_congr agree inside) ?_
          intro faultless
          refine further ?_
          rintro p raw ⟨b, here, refers⟩ shallow first
          refine same (next p) raw ⟨b, ?_, refers⟩ ?_ ?_
          · rw [at?_next, here]
          · rwa [level_next]
          · intro q f offends before
            rcases offends_cons_cases offends with alone | ⟨q, rfl, other⟩
            · exact faultless q f alone
            · exact first q f other (next_lt_next_iff.mp before)

end ReferenceTree

open ReferenceTree ArgumentFile in
/-- **Arguments are expanded to the leaves of their tree**, from left to right, if nothing
is wrong down to the sixteenth level, and then none of them is lost, repeated or moved.
Otherwise the first fault of the tree is the failure: a reference on level sixteen, which
is not followed, or one that cannot be resolved, or a file that cannot be read.

The log has an entry for each file that was read: for each reference before the first
fault, in order. Files after it are not read, so the outcome is the same in any world
with the same contents of the references up to it. -/
theorem arguments_flattened_in_order (w : World) (arguments : List String) :
    ((∀ p f, ¬ Offends w 16 arguments p f) →
      ∃ leaves out, leaves.Pairwise (· < ·) ∧ (∀ p, p ∈ leaves ↔ IsLeaf w arguments p) ∧
        List.Forall₂ (fun p word => at? w arguments p = some word) leaves out ∧
        (w.expandArguments arguments).result = .ok out) ∧
    ((∃ p f, Offends w 16 arguments p f) →
      ∃ p f, Offends w 16 arguments p f ∧ (∀ q g, Offends w 16 arguments q g → ¬ q < p) ∧
        (w.expandArguments arguments).result = .error f) ∧
    (∃ read, read.Pairwise (· < ·) ∧
      (∀ p, p ∈ read ↔ (∃ raw, Refers w arguments p raw) ∧
        ∀ q f, Offends w 16 arguments q f → p < q) ∧
      List.Forall₂ (fun p event => ∃ a, at? w arguments p = some a ∧ note? w a = some event)
        read (w.expandArguments arguments).log) ∧
    ∀ w', (∀ p raw, Refers w arguments p raw → level p < 16 →
        (∀ q f, Offends w 16 arguments q f → ¬ q < p) → contents w' raw = contents w raw) →
      w'.expandArguments arguments = w.expandArguments arguments := by
  refine ⟨exists_leaves, ?_, exists_read w 16 arguments, fun w' same => expandAt_congr same⟩
  rintro ⟨p, f, offends⟩
  obtain ⟨q, g, offends', least, expanded⟩ := expandAt_of_offends offends
  exact ⟨q, g, offends', least, congrArg Logged.result expanded⟩

open ReferenceTree ArgumentFile in
/-- A file that names another one is expanded to the words of both, where they stand. A
fault inside the first of two files is the failure, although the second file cannot be
split into words and is less deep. With the same fault before it, the second file may hold
anything. -/
theorem arguments_flattened_in_order_of_nested :
    let outer : List Bytes × Node :=
      ([Path.ofString "outer"], .file (Utf8.encode "a @inner c") false)
    let inner : List Bytes × Node := ([Path.ofString "inner"], .file (Utf8.encode "b") false)
    let deep : List Bytes × Node := ([Path.ofString "deep"], .file (Utf8.encode "a @gone") false)
    let bad : List Bytes × Node := ([Path.ofString "bad"], .file (Utf8.encode "'") false)
    let w : World :=
      { files := ⟨[outer, inner, deep, bad]⟩, directory := [], environment := ⟨[]⟩ }
    let w' : World :=
      { files := ⟨[outer, inner, deep]⟩, directory := [], environment := ⟨[]⟩ }
    let missing : Failure := .argumentFile "gone" "No such file or directory (os error 2)"
    let malformed : Failure := .malformedLine "'" "No closing quotation"
    ((∀ p f, ¬ Offends w 16 ["x", "@outer", "y"] p f) ∧
      ∃ leaves : List Place, leaves.Pairwise (· < ·) ∧
        (∀ p, p ∈ leaves ↔ IsLeaf w ["x", "@outer", "y"] p) ∧
        List.Forall₂ (fun p word => at? w ["x", "@outer", "y"] p = some word) leaves
          ["x", "a", "b", "c", "y"]) ∧
      (Offends w 16 ["@deep", "@bad"] [1] malformed ∧
        ∃ p, Offends w 16 ["@deep", "@bad"] p missing ∧ ¬ [1] < p) ∧
      w'.expandArguments ["@gone", "@bad"] = w.expandArguments ["@gone", "@bad"] := by
  intro outer inner deep bad w w' missing malformed
  obtain ⟨flat, fails, -, -⟩ := arguments_flattened_in_order w ["x", "@outer", "y"]
  obtain ⟨-, fails', -, -⟩ := arguments_flattened_in_order w ["@deep", "@bad"]
  obtain ⟨-, -, -, congr⟩ := arguments_flattened_in_order w ["@gone", "@bad"]
  refine ⟨?_, ?_, congr w' ?_⟩
  · have expanded : (w.expandArguments ["x", "@outer", "y"]).result =
        .ok ["x", "a", "b", "c", "y"] := by decide +kernel
    have faultless : ∀ p f, ¬ Offends w 16 ["x", "@outer", "y"] p f := by
      intro p f offends
      obtain ⟨q, g, -, -, failed⟩ := fails ⟨p, f, offends⟩
      cases expanded.symm.trans failed
    obtain ⟨leaves, out, ordered, mem, words, done⟩ := flat faultless
    cases expanded.symm.trans done
    exact ⟨faultless, leaves, ordered, mem, words⟩
  · have offends : Offends w 16 ["@deep", "@bad"] [1] malformed := by
      rw [Offends]
      decide +kernel
    have expanded : (w.expandArguments ["@deep", "@bad"]).result = .error missing := by
      decide +kernel
    obtain ⟨p, f, first, least, failed⟩ := fails' ⟨[1], malformed, offends⟩
    cases expanded.symm.trans failed
    exact ⟨offends, p, first, least [1] malformed offends⟩
  · have offends : Offends w 16 ["@gone", "@bad"] [0] missing := by
      rw [Offends]
      decide +kernel
    rintro p raw ⟨a, here, refers⟩ - soon
    -- no place but the first is before the fault or at it
    have notAfter := soon [0] missing offends
    rcases p with _ | ⟨_ | i, _ | ⟨j, p⟩⟩
    · cases here
    · cases here
      have names : reference? "@gone" = some "gone" := by decide
      cases names.symm.trans refers
      decide +kernel
    all_goals simp [List.cons_lt_cons_iff] at notAfter

end ExitContract
