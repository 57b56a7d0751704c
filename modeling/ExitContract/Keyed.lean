/-!
# Entries by their keys

Lists of keys with values: putting entries in order of their keys, so that no key occurs twice, and
what is looked up in them.

**The first entry counts.** A key is looked up from the front, so putting an entry in its place is seen
whether or not the other keys stand in order.

## Main definitions

* `Keyed.insert` — puts an entry in its place, instead of an earlier one of its key
* `Keyed.ofList` — the entries of a list, of which later ones count

## Main statements

* `Keyed.lookup_insert` — what is looked up after an entry was put in its place
* `Keyed.lookup_ofList` — and after all of a list were
-/

namespace ExitContract

namespace Keyed

/-- Puts an entry in its place, instead of an earlier one of its key. -/
def insert {α : Type} (key : String) (value : α) : List (String × α) → List (String × α)
  | [] => [(key, value)]
  | (other, v) :: rest =>
    if key < other then (key, value) :: (other, v) :: rest
    else if key = other then (key, value) :: rest
    else (other, v) :: insert key value rest

/-- The entries of a list in order of their keys; of two entries of one key the later one counts. -/
def ofList {α : Type} (entries : List (String × α)) : List (String × α) :=
  entries.foldl (fun acc e => insert e.1 e.2 acc) []

variable {α β : Type} {es : List (String × α)} {key : String} {value : α}

/-! ### Looking keys up -/

@[simp] theorem lookup_cons (key other : String) (value : α) (es : List (String × α)) :
    List.lookup key ((other, value) :: es) =
      if key = other then some value else List.lookup key es := by
  by_cases same : key = other
  · rw [if_pos same, same, List.lookup_cons_self]
  · rw [if_neg same, List.lookup_cons, beq_false_of_ne same]

@[simp] theorem lookup_map (key : String) (f : α → β) (es : List (String × α)) :
    List.lookup key (es.map fun e => (e.1, f e.2)) = (List.lookup key es).map f := by
  induction es with
  | nil => rfl
  | cons e es ih =>
      obtain ⟨other, value⟩ := e
      by_cases here : key = other <;> simp [here, ih]

theorem mem_of_lookup (found : List.lookup key es = some value) : (key, value) ∈ es := by
  obtain ⟨before, after, rfl, -⟩ := List.lookup_eq_some_iff.mp found
  exact List.mem_append_right before List.mem_cons_self

theorem lookup_eq_none_of_notMem (absent : ∀ e ∈ es, e.1 ≠ key) : List.lookup key es = none :=
  List.lookup_eq_none_iff.mpr fun e mem => bne_iff_ne.mpr (absent e mem).symm

/-- Something is found for the keys of the entries. -/
theorem lookup_isSome_iff : (List.lookup key es).isSome = true ↔ key ∈ es.map (·.1) := by
  rw [List.lookup_isSome_iff, List.mem_map]
  exact exists_congr fun e => and_congr_right fun _ => beq_iff_eq.trans eq_comm

/-! ### Putting entries in their places -/

/-- Whatever the order of the entries, the one that was put in its place is found, and
so is every other. -/
@[simp] theorem lookup_insert (key other : String) (value : α) (es : List (String × α)) :
    List.lookup other (insert key value es) =
      if other = key then some value else List.lookup other es := by
  induction es with
  | nil => simp [insert]
  | cons e es ih =>
      rw [insert]
      split
      · rw [lookup_cons]
      · split
        · next same =>
            rw [lookup_cons, lookup_cons, same]
            split <;> rfl
        · next different =>
            rw [lookup_cons, ih, lookup_cons]
            by_cases here : other = e.1
            · rw [if_pos here, if_pos here, if_neg fun same => different (same.symm.trans here)]
            · rw [if_neg here, if_neg here]

/-- Of entries that were put in their places one after the other, the last counts. -/
theorem lookup_foldl_insert (key : String) (fs : List (String × α)) :
    List.lookup key (fs.foldl (fun acc e => insert e.1 e.2 acc) es) =
      (List.lookup key fs.reverse).or (List.lookup key es) := by
  induction fs generalizing es with
  | nil => rfl
  | cons f fs ih =>
      rw [List.foldl_cons, ih, lookup_insert, List.reverse_cons, List.lookup_append, lookup_cons,
        Option.or_assoc]
      split <;> rfl

@[simp] theorem lookup_ofList (key : String) (fs : List (String × α)) :
    List.lookup key (ofList fs) = List.lookup key fs.reverse := by
  rw [ofList, lookup_foldl_insert]
  exact Option.or_none

end Keyed

end ExitContract
