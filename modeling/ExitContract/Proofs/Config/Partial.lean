import ExitContract.Proofs.Config.Leaf

/-!
# Configurations of which some leaves are given

What comes of reading a configuration from tables that say something for some leaves and
leave out the others.

**Two ways to leave something out.** A leaf can be missing from its table, and its table can
be missing as a whole. A table that is missing is the built-in one, and a field that is
missing from a table that is there is what it is by itself. These are written down in two
places and agree (`Defaults.missing_eq`, `LogSettings.missing_eq`), so nothing depends on
which way was taken (`Config.decode_of_given`).

**Either dialect.** Layered settings and documents differ in the ways in which they may write
a log format, and in nothing else that a leaf can be. So a structure is described once, and
its decoders are exchanged.

## Main definitions

* `Config.Partial` — values for some of the leaves
* `Config.replace` — a configuration with these in place of its own
* `Setting.Kind.decodeIn`, `Config.shapeIn` — decoders and structures in either dialect

## Main statements

* `Config.leaf_replace` — what is given replaces what was there, and the rest stays
* `Config.decode_of_given` — what is left out is built in, for every choice of leaves
* `Config.decode_setting` — a configuration as a source is read back
-/

namespace ExitContract

open Config (Leaf Part)
open Setting (Kind)

/-! ### Leaves in place of others -/

namespace Config

/-- Values for some of the leaves of a configuration. -/
abbrev Partial : Type := (l : Leaf) → Option l.kind.Value

/-- A configuration with other values for some of its leaves. -/
def replace (c : Config) (given : Partial) : Config := ofLeaves fun l => (given l).getD (c.leaf l)

/-- The leaves of a configuration, all of them. -/
def whole (c : Config) : Partial := fun l => some (c.leaf l)

/-- A table is determined by its leaves. -/
theorem Part.ext (p : Part) {c c' : Config} (same : ∀ l : Leaf, l.part = p → c.leaf l = c'.leaf l) :
    p.get c = p.get c' := by
  cases p with
  | defaults => exact Defaults.shape.ext _ _ fun l => same (.defaults l) rfl
  | logging => exact LogSettings.shape.ext _ _ fun l => same (.logging l) rfl

/-- A configuration is determined by its leaves. -/
theorem ext_leaf {c c' : Config} (same : ∀ l, c.leaf l = c'.leaf l) : c = c' :=
  shape.ext _ _ fun p => p.ext fun l _ => same l

variable (c : Config) (given : Partial)

/-- What is given replaces what was there, and the rest stays. -/
theorem leaf_replace (l : Leaf) : (c.replace given).leaf l = (given l).getD (c.leaf l) :=
  leaf_ofLeaves _ l

/-- If everything is given, then nothing of what was there is left. -/
theorem replace_whole (c' : Config) : c.replace c'.whole = c' :=
  ext_leaf (leaf_replace c c'.whole)

end Config

/-! ### Decoders in either dialect -/

namespace Setting.Kind

variable {k : Kind} {v : Setting}

/-- Reads a setting of a kind in a dialect. -/
def decodeIn (d : Dialect) : (k : Kind) → Setting → Except Mismatch k.Value
  | .format => Decode.format d
  | k => k.decode

/-- What is denoted is read in either dialect. -/
theorem decodeIn_of_denotes (d : Dialect) (sound : v.Sound) {x : k.Value} (h : k.Denotes v x) :
    k.decodeIn d v = .ok x := by
  cases k with
  | seconds | code | boolean | text => exact (decode_eq_ok_iff sound).mpr h
  | format =>
      cases h with
      | format o =>
          have named : Decode.formatNamed (.scalar o (.text (LogFormat.name x)))
              (LogFormat.name x) = .ok x :=
            formatNamed_eq_ok_iff.mpr rfl
          cases d <;> exact named

end Setting.Kind

/-- The settings for the log as their fields, in a dialect. The settings that every run starts
from have no log format among them and are the same in both. -/
def LogSettings.shapeIn (d : Dialect) : Decode.Shape LogSettings LogSettings.Leaf :=
  { LogSettings.shape with decode := fun l => l.kind.decodeIn d }

namespace Config

/-- Reads a table in a dialect. -/
def Part.decodeIn (d : Dialect) : (p : Part) → Setting → Except Mismatch p.Value
  | .defaults => Decode.record d "Defaults" Defaults.shape.fields .missing
  | .logging => Decode.record d "LoggingConfig" (LogSettings.shapeIn d).fields .missing

/-- A configuration as its tables, in a dialect. -/
def shapeIn (d : Dialect) : Decode.Shape Config Part :=
  { shape with decode := Part.decodeIn d }

theorem fields_shapeIn (d : Dialect) : (shapeIn d).fields = Decode.configFields d := rfl

end Config

/-! ### Reading what is given -/

/-- The fields that a table leaves out are those of the table that is built in. -/
theorem Defaults.missing_eq : Defaults.missing = .default := rfl

theorem LogSettings.missing_eq : LogSettings.missing = .default := rfl

theorem Setting.at?_of_lookup {o o' : Origin} {es ts : List (String × Setting)}
    {first second : String} (below : List.lookup first es = some (.table o' ts)) :
    (table o es).at? [first, second] = List.lookup second ts := by
  rw [at?, below]
  dsimp only
  rw [at?]
  cases List.lookup second ts <;> rfl

namespace Config

section

variable {d : Dialect} {o : Origin} {es : List (String × Setting)} {given : Partial}

/-- A table that is there is read as the built-in one with the given leaves replaced. -/
theorem Part.decodeIn_of_given (p : Part) {o' : Origin} {ts : List (String × Setting)}
    (below : List.lookup p.key es = some (.table o' ts)) (once : Keyed.Distinct ts)
    (gives : ∀ l : Leaf, Option.Rel (fun v x => l.kind.decodeIn d v = .ok x)
      ((Setting.table o es).at? l.path) (given l)) :
    p.decodeIn d (.table o' ts) = .ok (p.get (default.replace given)) := by
  have inside (l : Leaf) (part : l.part = p) :
      Option.Rel (fun v x => l.kind.decodeIn d v = .ok x) (List.lookup l.key ts) (given l) := by
    have entry := gives l
    rw [Leaf.path, part, Setting.at?_of_lookup below] at entry
    exact entry
  cases p with
  | defaults =>
      have each (l : Defaults.Leaf) : Option.Rel (fun v x => l.kind.decode v = .ok x)
          (List.lookup l.key ts) (given (.defaults l)) := by
        have entry := inside (.defaults l) rfl
        cases l <;> exact entry
      rw [Part.decodeIn, Defaults.missing_eq]
      exact Defaults.shape.record_of_given once each
        fun l => leaf_replace default given (.defaults l)
  | logging =>
      rw [Part.decodeIn, LogSettings.missing_eq]
      exact (LogSettings.shapeIn d).record_of_given once (fun l => inside (.logging l) rfl)
        fun l => leaf_replace default given (.logging l)

/-- **What is left out is built in.** Whichever leaves are given, and whether the others are
missing from their tables or with them, what is read is the built-in configuration with the
given leaves replaced. -/
theorem decode_of_given (once : Keyed.Distinct es)
    (tables : ∀ (p : Part) (v : Setting), List.lookup p.key es = some v →
      ∃ o' ts, v = .table o' ts ∧ Keyed.Distinct ts)
    (gives : ∀ l : Leaf, Option.Rel (fun v x => l.kind.decodeIn d v = .ok x)
      ((Setting.table o es).at? l.path) (given l)) :
    decode d (.table o es) = .ok (default.replace given) := by
  -- A table that is there is given as a whole, since what it leaves out is built in already.
  let parts (p : Part) : Option p.Value :=
    (List.lookup p.key es).map fun _ => p.get (default.replace given)
  have each (p : Part) : Option.Rel (fun v x => p.decodeIn d v = .ok x)
      (List.lookup p.key es) (parts p) := by
    simp only [parts]
    cases below : List.lookup p.key es with
    | none => exact .none
    | some v =>
        obtain ⟨o', ts, rfl, onceBelow⟩ := tables p v below
        exact .some (p.decodeIn_of_given below onceBelow gives)
  have values (p : Part) :
      p.get (default.replace given) = (parts p).getD (p.get default) := by
    simp only [parts]
    cases below : List.lookup p.key es with
    | some v => rfl
    | none =>
        refine p.ext fun l inside => ?_
        have nothing := gives l
        rw [Leaf.path, inside, Setting.at?, below] at nothing
        rw [leaf_replace]
        generalize given l = value at nothing
        cases nothing with
        | none => rfl
  rw [decode, ← fields_shapeIn]
  exact (shapeIn d).record_of_given once each values

end

/-- **A configuration as a source is read back**, in either dialect. -/
theorem decode_setting (d : Dialect) (o : Origin) (c : Config) :
    decode d (c.setting o) = .ok c := by
  have read : decode d (c.setting o) = .ok (default.replace c.whole) := by
    refine decode_of_given (Keyed.ascending_ofList _).distinct (fun p v found => ?_) fun l => ?_
    · rw [Keyed.lookup_ofList] at found
      cases p with
      | defaults | logging =>
          cases found
          exact ⟨o, _, rfl, (Keyed.ascending_ofList _).distinct⟩
    · rw [← setting, at?_setting]
      exact .some (Kind.decodeIn_of_denotes d (.scalar o (Kind.sound_write _ _))
        (Kind.denotes_write o _ _))
  rw [read, replace_whole]

end Config

end ExitContract
