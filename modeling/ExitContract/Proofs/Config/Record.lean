import ExitContract.Config.Decode
import ExitContract.Proofs.Keyed
import ExitContract.Log.Record

/-!
# Structures field by field

What comes of reading a structure from a table, in terms of its fields.

**Each field by itself.** The entries of a table are gone through one by one, and each
changes one field of what was read so far. No key stands twice, so no field is changed
twice, and an entry that names no field changes nothing. So what is read for a field
depends on nothing but the entry with its key (`Shape.reads_entries`), and reading fails
only if it fails for some field (`Shape.entries_total`).

## Main definitions

* `Decode.Shape` — a structure as its fields, each with a key and a decoder
* `Decode.Shape.Reads` — what a field is after an entry for it may have been read

## Main statements

* `Decode.Shape.record_eq_ok_iff` — a table that has every field is read field by field
* `Decode.Shape.record_of_given` — a field that a table leaves out keeps its value
-/

namespace ExitContract

namespace Decode

open Keyed (Distinct)

/-- A structure as its fields. Each is named by a key of its own and read by a decoder of
its own, and to set one leaves the others alone. -/
structure Shape (σ ι : Type) where
  Value : ι → Type
  key : ι → String
  decode : (i : ι) → Setting → Except Mismatch (Value i)
  get : (i : ι) → σ → Value i
  set : (i : ι) → σ → Value i → σ
  /-- The fields in their order. -/
  indices : List ι
  complete : ∀ i, i ∈ indices
  key_injective : Function.Injective key
  get_set_self : ∀ i s x, get i (set i s x) = x
  get_set_other : ∀ i j s x, j ≠ i → get j (set i s x) = get j s
  ext : ∀ s t, (∀ i, get i s = get i t) → s = t

namespace Shape

variable {σ ι : Type} (S : Shape σ ι) {s s' : σ} {es : List (String × Setting)} {i : ι}

/-- The field at an index. -/
def field (i : ι) : Field σ := .of (S.key i) (S.decode i) (S.set i)

/-- The fields of the structure. -/
def fields : List (Field σ) := S.indices.map S.field

variable {S}

theorem change_field {v : Setting} :
    (S.field i).change s v = .ok s' ↔ ∃ x, S.decode i v = .ok x ∧ S.set i s x = s' :=
  map_eq_ok_iff

theorem find?_map_field {is : List ι} (mem : i ∈ is) :
    (is.map S.field).find? (fun f => f.key == S.key i) = some (S.field i) := by
  induction is with
  | nil => cases mem
  | cons j is ih =>
      rw [List.map_cons, List.find?_cons]
      by_cases same : j = i
      · rw [same]
        show (match S.key i == S.key i with
          | true => some (S.field i)
          | false => _) = _
        rw [beq_self_eq_true]
      · have other : (S.key j == S.key i) = false :=
          beq_false_of_ne fun keys => same (S.key_injective keys)
        show (match S.key j == S.key i with
          | true => _
          | false => (is.map S.field).find? _) = _
        rw [other]
        exact ih ((List.mem_cons.mp mem).resolve_left (Ne.symm same))

theorem find?_fields (i : ι) :
    S.fields.find? (fun f => f.key == S.key i) = some (S.field i) :=
  find?_map_field (S.complete i)

/-- No field is found for a key that names none. -/
theorem find?_fields_eq_none {key : String} (unknown : ∀ i, S.key i ≠ key) :
    S.fields.find? (fun f => f.key == key) = none := by
  refine List.find?_eq_none.mpr fun f mem same => ?_
  obtain ⟨i, -, rfl⟩ := List.mem_map.mp mem
  exact unknown i (beq_iff_eq.mp same)

/-- What a field is after an entry for it may have been read: what is denoted there, or
what it was before. -/
def Reads (S : Shape σ ι) (i : ι) (entry : Option Setting) (s s' : σ) : Prop :=
  match entry with
  | some v => S.decode i v = .ok (S.get i s')
  | none => S.get i s' = S.get i s

/-- **Each field is read by itself.** -/
theorem reads_entries (once : Distinct es) (read : entries S.fields s es = .ok s') (i : ι) :
    S.Reads i (List.lookup (S.key i) es) s s' := by
  induction es generalizing s i with
  | nil =>
      cases read
      rfl
  | cons e es ih =>
      obtain ⟨k, v⟩ := e
      have later := List.Pairwise.of_cons once
      rw [entries] at read
      rw [Keyed.lookup_cons]
      by_cases known : ∃ j, S.key j = k
      · obtain ⟨j, rfl⟩ := known
        rw [find?_fields] at read
        dsimp only at read
        cases changed : (S.field j).change s v with
        | error m =>
            rw [changed] at read
            cases read
        | ok s₁ =>
            rw [changed] at read
            obtain ⟨x, decoded, rfl⟩ := change_field.mp changed
            by_cases same : i = j
            · subst same
              -- No key stands twice, so no later entry is for this field.
              have kept := ih later read i
              rw [Keyed.lookup_eq_none_of_distinct once] at kept
              rw [if_pos rfl]
              exact decoded.trans (congrArg Except.ok
                ((S.get_set_self i s x).symm.trans kept.symm))
            · rw [if_neg fun keys => same (S.key_injective keys)]
              have rest := ih later read i
              cases found : List.lookup (S.key i) es with
              | some w =>
                  rw [found] at rest
                  exact rest
              | none =>
                  rw [found] at rest
                  exact Eq.trans rest (S.get_set_other j i s x same)
      · rw [find?_fields_eq_none (not_exists.mp known)] at read
        rw [if_neg fun keys => known ⟨i, keys⟩]
        exact ih later read i

/-- **If every field can be read, then so can the structure.** -/
theorem entries_total (fine : ∀ i v, (S.key i, v) ∈ es → ∃ x, S.decode i v = .ok x) :
    ∃ s', entries S.fields s es = .ok s' := by
  induction es generalizing s with
  | nil => exact ⟨s, rfl⟩
  | cons e es ih =>
      obtain ⟨k, v⟩ := e
      have rest (s : σ) : ∃ s', entries S.fields s es = .ok s' :=
        ih fun i v mem => fine i v (List.mem_cons_of_mem _ mem)
      rw [entries]
      by_cases known : ∃ j, S.key j = k
      · obtain ⟨j, rfl⟩ := known
        obtain ⟨x, decoded⟩ := fine j v List.mem_cons_self
        rw [find?_fields]
        dsimp only
        rw [change_field.mpr ⟨x, decoded, rfl⟩]
        exact rest _
      · rw [find?_fields_eq_none (not_exists.mp known)]
        exact rest _

/-- **A table that has every field is read field by field.** -/
theorem record_eq_ok_iff {d : Dialect} {name : String} {o : Origin} {v : ι → Setting}
    (once : Distinct es) (full : ∀ i, List.lookup (S.key i) es = some (v i)) :
    record d name S.fields s (.table o es) = .ok s' ↔
      ∀ i, S.decode i (v i) = .ok (S.get i s') := by
  have sound {t : σ} (read : entries S.fields s es = .ok t) (i : ι) :
      S.decode i (v i) = .ok (S.get i t) := by
    have reads := reads_entries once read i
    rw [full] at reads
    exact reads
  constructor
  · exact sound
  · intro decoded
    have fine (i : ι) (w : Setting) (mem : (S.key i, w) ∈ es) : ∃ x, S.decode i w = .ok x := by
      have found := Keyed.lookup_of_mem once mem
      rw [full] at found
      cases found
      exact ⟨_, decoded i⟩
    obtain ⟨t, read⟩ := entries_total (s := s) fine
    have same : t = s' := S.ext _ _ fun i =>
      Except.ok.inj ((sound read i).symm.trans (decoded i))
    exact same ▸ read

/-- **A field that a table leaves out keeps its value.** If whatever a table has for a field
can be read, then the structure is read in which these fields are replaced. -/
theorem record_of_given {d : Dialect} {name : String} {o : Origin}
    {given : (i : ι) → Option (S.Value i)} (once : Distinct es)
    (gives : ∀ i, Option.Rel (fun v x => S.decode i v = .ok x)
      (List.lookup (S.key i) es) (given i))
    (values : ∀ i, S.get i s' = (given i).getD (S.get i s)) :
    record d name S.fields s (.table o es) = .ok s' := by
  have fine (i : ι) (v : Setting) (mem : (S.key i, v) ∈ es) : ∃ x, S.decode i v = .ok x := by
    have entry := gives i
    rw [Keyed.lookup_of_mem once mem] at entry
    generalize given i = value at entry
    cases entry with
    | some decoded => exact ⟨_, decoded⟩
  obtain ⟨t, read⟩ := entries_total (s := s) fine
  have same : t = s' := S.ext _ _ fun i => by
    have reads := reads_entries once read i
    have entry := gives i
    rw [values i]
    generalize List.lookup (S.key i) es = found at reads entry
    generalize given i = value at entry ⊢
    cases entry with
    | none => exact reads
    | some decoded => exact Except.ok.inj (Eq.trans (Eq.symm reads) decoded)
  exact same ▸ read

end Shape

end Decode

end ExitContract
