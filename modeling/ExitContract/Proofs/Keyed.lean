import ExitContract.Keyed
import Mathlib.Data.List.Pairwise
import Mathlib.Order.Basic
import Mathlib.Data.String.Basic

/-!
# Entries in order

Where entries are gone through one by one, each key has to come up once. Entries that were
put in their places stand in order of their keys, and so no key stands twice.

## Main definitions

* `Keyed.Ascending` — the keys stand in order, none of them twice
* `Keyed.Distinct` — no key stands twice

## Main statements

* `Keyed.Ascending.insert`, `Keyed.ascending_ofList` — order is kept
* `Keyed.lookup_eq_none_of_distinct` — the key of the first entry does not come up again
* `Keyed.lookup_of_mem`, `Keyed.lookup_reverse` — what is looked up where no key stands twice
-/

namespace ExitContract

namespace Keyed

variable {α β : Type} {es : List (String × α)} {key other : String} {value : α}

theorem mem_insert {e : String × α} (mem : e ∈ insert key value es) :
    e = (key, value) ∨ e ∈ es := by
  induction es with
  | nil => exact Or.inl (List.mem_singleton.mp mem)
  | cons f es ih =>
      rw [insert] at mem
      split at mem
      · exact List.mem_cons.mp mem
      · split at mem
        · exact (List.mem_cons.mp mem).imp_right (List.mem_cons_of_mem f)
        · rcases List.mem_cons.mp mem with rfl | mem
          · exact Or.inr List.mem_cons_self
          · exact (ih mem).imp_right (List.mem_cons_of_mem f)

/-- The keys stand in order, none of them twice. -/
def Ascending (es : List (String × α)) : Prop := es.Pairwise fun e f => e.1 < f.1

theorem ascending_nil : Ascending ([] : List (String × α)) := List.Pairwise.nil

theorem ascending_single (e : String × α) : Ascending [e] := List.pairwise_singleton _ e

theorem Ascending.insert (h : Ascending es) (key : String) (value : α) :
    Ascending (insert key value es) := by
  induction es with
  | nil => exact ascending_single (key, value)
  | cons e es ih =>
      obtain ⟨first, rest⟩ := List.pairwise_cons.mp h
      rw [Keyed.insert]
      split
      · next before =>
          refine List.pairwise_cons.mpr ⟨?_, h⟩
          rintro f (_ | ⟨_, mem⟩)
          · exact before
          · exact lt_trans before (first f mem)
      · split
        · next same =>
            refine List.pairwise_cons.mpr ⟨?_, rest⟩
            rw [same]
            exact first
        · next notBefore different =>
            refine List.pairwise_cons.mpr ⟨?_, ih rest⟩
            intro f mem
            rcases mem_insert mem with rfl | mem
            · exact lt_of_le_of_ne (not_lt.mp notBefore) (Ne.symm different)
            · exact first f mem

/-- Changing what stands for the keys keeps their order. -/
theorem Ascending.map {f : α → β} (h : Ascending es) :
    Ascending (es.map fun e => (e.1, f e.2)) :=
  List.Pairwise.map _ (fun _ _ before => before) h

theorem ascending_foldl_insert (h : Ascending es) (fs : List (String × α)) :
    Ascending (fs.foldl (fun acc e => Keyed.insert e.1 e.2 acc) es) := by
  induction fs generalizing es with
  | nil => exact h
  | cons f fs ih => exact ih (h.insert f.1 f.2)

theorem ascending_ofList (es : List (String × α)) : Ascending (ofList es) :=
  ascending_foldl_insert ascending_nil es

theorem mem_foldl_insert {e : String × α} {fs : List (String × α)}
    (mem : e ∈ fs.foldl (fun acc f => Keyed.insert f.1 f.2 acc) es) : e ∈ es ∨ e ∈ fs := by
  induction fs generalizing es with
  | nil => exact Or.inl mem
  | cons f fs ih =>
      rcases ih mem with put | later
      · rcases mem_insert put with rfl | old
        · exact Or.inr List.mem_cons_self
        · exact Or.inl old
      · exact Or.inr (List.mem_cons_of_mem f later)

theorem mem_ofList {e : String × α} (mem : e ∈ ofList es) : e ∈ es :=
  (mem_foldl_insert mem).resolve_left List.not_mem_nil

/-! ### Keys that come up once -/

/-- No key stands twice, in whatever order the keys are. -/
def Distinct (es : List (String × α)) : Prop := es.Pairwise fun e f => e.1 ≠ f.1

theorem Ascending.distinct (h : Ascending es) : Distinct es := h.imp ne_of_lt

/-- Changing what stands for the keys adds none. -/
theorem Distinct.map {f : α → β} (h : Distinct es) : Distinct (es.map fun e => (e.1, f e.2)) :=
  List.Pairwise.map _ (fun _ _ apart => apart) h

theorem Distinct.reverse (h : Distinct es) : Distinct es.reverse :=
  List.pairwise_reverse.mpr (h.imp Ne.symm)

/-- The key of the first entry does not come up again. -/
theorem lookup_eq_none_of_distinct (h : Distinct ((key, value) :: es)) :
    List.lookup key es = none :=
  lookup_eq_none_of_notMem fun _ mem => (List.rel_of_pairwise_cons h mem).symm

/-- Where no key stands twice, every entry is the one that is found for its key. -/
theorem lookup_of_mem (h : Distinct es) (mem : (key, value) ∈ es) :
    List.lookup key es = some value := by
  induction es with
  | nil => cases mem
  | cons e es ih =>
      rw [lookup_cons]
      rcases List.mem_cons.mp mem with rfl | later
      · rw [if_pos rfl]
      · rw [if_neg (List.rel_of_pairwise_cons h later).symm, ih (List.Pairwise.of_cons h) later]

/-- Where no key stands twice, it does not matter from which end a key is looked up. -/
theorem lookup_reverse (h : Distinct es) (key : String) :
    List.lookup key es.reverse = List.lookup key es := by
  cases found : List.lookup key es with
  | some value => exact lookup_of_mem h.reverse (List.mem_reverse.mpr (mem_of_lookup found))
  | none =>
      refine lookup_eq_none_of_notMem fun e mem same => ?_
      have there := lookup_of_mem h (List.mem_reverse.mp mem)
      rw [same, found] at there
      cases there

end Keyed

end ExitContract
