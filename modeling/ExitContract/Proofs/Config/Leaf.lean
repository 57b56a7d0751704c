import ExitContract.Config.Load
import ExitContract.Proofs.Config.Kind
import ExitContract.Proofs.Config.Record

/-!
# The leaves of a configuration

The eight single settings of a configuration, each in one of two tables.

**The whole from the leaves.** Settings that have something for every leaf are a
configuration if each of these is right, and then every leaf has the value that is denoted
for it (`Config.decode_eq_ok_iff`). The built-in settings have something for every leaf, so
whatever is laid on top of them does too.

## Main definitions

* `Config.Leaf` — the single settings, each with its place and its kind
* `Config.leaf` — the values that a configuration has for them
* `Config.shape`, `Defaults.shape`, `LogSettings.shape` — the structures as their fields

## Main statements

* `Config.at?_setting` — a configuration as a source leaves nothing out
* `Config.decode_eq_ok_iff`, `Config.decode_eq_error_iff` — a configuration is read leaf by
  leaf
-/

namespace ExitContract

open Setting (Kind)

/-- The single settings that every run starts from. -/
inductive Defaults.Leaf
  | timeout
  | expectedCode
  | checkCode
  | errorMessage
  | killCode
  | failOnTimeout
  deriving DecidableEq, Repr

/-- The single settings for the log. -/
inductive LogSettings.Leaf
  | level
  | format
  deriving DecidableEq, Repr

namespace Defaults.Leaf

/-- The key of a setting. -/
def key : Leaf → String
  | .timeout => "timeout"
  | .expectedCode => "expected_exit_code"
  | .checkCode => "check_exit_code"
  | .errorMessage => "error_message"
  | .killCode => "kill_exit_code"
  | .failOnTimeout => "fail_on_timeout"

/-- The kind of a setting. -/
def kind : Leaf → Kind
  | .timeout => .seconds
  | .expectedCode | .killCode => .code
  | .checkCode | .failOnTimeout => .boolean
  | .errorMessage => .text

/-- The value of a setting. -/
def get : (l : Leaf) → Defaults → l.kind.Value
  | .timeout, d => d.timeout
  | .expectedCode, d => d.expectedCode
  | .checkCode, d => d.checkCode
  | .errorMessage, d => d.errorMessage
  | .killCode, d => d.killCode
  | .failOnTimeout, d => d.failOnTimeout

/-- Another value for a setting. -/
def set : (l : Leaf) → Defaults → l.kind.Value → Defaults
  | .timeout, d, x => { d with timeout := x }
  | .expectedCode, d, x => { d with expectedCode := x }
  | .checkCode, d, x => { d with checkCode := x }
  | .errorMessage, d, x => { d with errorMessage := x }
  | .killCode, d, x => { d with killCode := x }
  | .failOnTimeout, d, x => { d with failOnTimeout := x }

end Defaults.Leaf

namespace LogSettings.Leaf

/-- The key of a setting. -/
def key : Leaf → String
  | .level => "level"
  | .format => "format"

/-- The kind of a setting. -/
def kind : Leaf → Kind
  | .level => .text
  | .format => .format

/-- The value of a setting. -/
def get : (l : Leaf) → LogSettings → l.kind.Value
  | .level, s => s.level
  | .format, s => s.format

/-- Another value for a setting. -/
def set : (l : Leaf) → LogSettings → l.kind.Value → LogSettings
  | .level, s, x => { s with level := x }
  | .format, s, x => { s with format := x }

end LogSettings.Leaf

/-- The settings that every run starts from as their fields. -/
def Defaults.shape : Decode.Shape Defaults Defaults.Leaf where
  Value l := l.kind.Value
  key := Leaf.key
  decode l := l.kind.decode
  get := Leaf.get
  set := Leaf.set
  indices := [.timeout, .expectedCode, .checkCode, .errorMessage, .killCode, .failOnTimeout]
  complete l := by cases l <;> decide
  key_injective l l' same := by revert same; cases l <;> cases l' <;> decide
  get_set_self l s x := by cases l <;> rfl
  get_set_other l l' s x other := by
    cases l <;> cases l' <;> first | rfl | exact absurd rfl other
  ext s t same := by
    obtain ⟨a, b, c, d, e, f⟩ := s
    cases same .timeout
    cases same .expectedCode
    cases same .checkCode
    cases same .errorMessage
    cases same .killCode
    cases same .failOnTimeout
    rfl

/-- The settings for the log as their fields. -/
def LogSettings.shape : Decode.Shape LogSettings LogSettings.Leaf where
  Value l := l.kind.Value
  key := Leaf.key
  decode l := l.kind.decode
  get := Leaf.get
  set := Leaf.set
  indices := [.level, .format]
  complete l := by cases l <;> decide
  key_injective l l' same := by revert same; cases l <;> cases l' <;> decide
  get_set_self l s x := by cases l <;> rfl
  get_set_other l l' s x other := by
    cases l <;> cases l' <;> first | rfl | exact absurd rfl other
  ext s t same := by
    obtain ⟨a, b⟩ := s
    cases same .level
    cases same .format
    rfl

/-- A structure that stands below a key and has every field is read field by field. -/
theorem Decode.Shape.record_below {σ ι : Type} (S : Decode.Shape σ ι) (any : ι) {o : Origin}
    {es : List (String × Setting)} {key : String} {found : ι → Setting}
    (sound : (Setting.table o es).Sound)
    (full : ∀ i, (Setting.table o es).at? [key, S.key i] = some (found i)) :
    ∃ t, List.lookup key es = some t ∧ ∀ {d name s x},
      Decode.record d name S.fields s t = .ok x ↔ ∀ i, S.decode i (found i) = .ok (S.get i x) := by
  obtain ⟨_, _, o', ts, same, below, -⟩ := Setting.at?_two.mp (full any)
  cases same
  refine ⟨.table o' ts, below, S.record_eq_ok_iff ?_ fun i => ?_⟩
  · have entry := (Setting.sound_table_iff.mp sound).2 _ (Keyed.mem_of_lookup below)
    exact (Setting.sound_table_iff.mp entry).1.distinct
  · obtain ⟨_, _, _, _, same, there, found⟩ := Setting.at?_two.mp (full i)
    cases same
    cases below.symm.trans there
    exact found

namespace Config

/-- The tables of a configuration. -/
inductive Part
  | defaults
  | logging
  deriving DecidableEq, Repr

/-- The single settings of a configuration. -/
inductive Leaf
  | defaults (l : Defaults.Leaf)
  | logging (l : LogSettings.Leaf)
  deriving DecidableEq, Repr

namespace Part

/-- The key of a table. -/
def key : Part → String
  | .defaults => "defaults"
  | .logging => "logging"

/-- What a table amounts to. -/
def Value : Part → Type
  | .defaults => Defaults
  | .logging => LogSettings

/-- Reads a table. -/
def decode : (p : Part) → Setting → Except Mismatch p.Value
  | .defaults => Decode.record .layered "Defaults" Defaults.shape.fields .missing
  | .logging => Decode.record .layered "LoggingConfig" LogSettings.shape.fields .missing

/-- What a configuration has in a table. -/
def get : (p : Part) → Config → p.Value
  | .defaults, c => c.defaults
  | .logging, c => c.logging

/-- Another table for a configuration. -/
def set : (p : Part) → Config → p.Value → Config
  | .defaults, c, x => { c with defaults := x }
  | .logging, c, x => { c with logging := x }

end Part

/-- A configuration as its tables. -/
def shape : Decode.Shape Config Part where
  Value := Part.Value
  key := Part.key
  decode := Part.decode
  get := Part.get
  set := Part.set
  indices := [.defaults, .logging]
  complete p := by cases p <;> decide
  key_injective p p' same := by revert same; cases p <;> cases p' <;> decide
  get_set_self p s x := by cases p <;> rfl
  get_set_other p p' s x other := by
    cases p <;> cases p' <;> first | rfl | exact absurd rfl other
  ext s t same := by
    obtain ⟨a, b⟩ := s
    cases same .defaults
    cases same .logging
    rfl

namespace Leaf

/-- The table that a setting stands in. -/
def part : Leaf → Part
  | .defaults _ => .defaults
  | .logging _ => .logging

/-- The key of a setting in its table. -/
def key : Leaf → String
  | .defaults l => l.key
  | .logging l => l.key

/-- The way to a setting. -/
def path (l : Leaf) : List String := [l.part.key, l.key]

/-- The kind of a setting. -/
def kind : Leaf → Kind
  | .defaults l => l.kind
  | .logging l => l.kind

end Leaf

/-- The value of a setting. -/
def leaf (c : Config) : (l : Leaf) → l.kind.Value
  | .defaults l => l.get c.defaults
  | .logging l => l.get c.logging

/-- The configuration with these values. -/
def ofLeaves (x : (l : Leaf) → l.kind.Value) : Config where
  defaults := {
    timeout := x (.defaults .timeout)
    expectedCode := x (.defaults .expectedCode)
    checkCode := x (.defaults .checkCode)
    errorMessage := x (.defaults .errorMessage)
    killCode := x (.defaults .killCode)
    failOnTimeout := x (.defaults .failOnTimeout) }
  logging := {
    level := x (.logging .level)
    format := x (.logging .format) }

@[simp] theorem leaf_ofLeaves (x : (l : Leaf) → l.kind.Value) (l : Leaf) :
    (ofLeaves x).leaf l = x l := by
  rcases l with l | l <;> cases l <;> rfl

theorem fields_shape : shape.fields = Decode.configFields .layered := rfl

/-! ### Places -/

/-- A configuration as a source leaves nothing out. -/
theorem at?_setting (o : Origin) (c : Config) (l : Leaf) :
    (c.setting o).at? l.path = some (.scalar o (l.kind.write (c.leaf l))) := by
  rcases l with l | l
  · have below : List.lookup "defaults" [("logging", c.logging.setting o),
        ("defaults", c.defaults.setting o)] = some (c.defaults.setting o) := rfl
    refine Setting.at?_two.mpr ⟨o, _, o, _, rfl, (Keyed.lookup_ofList _ _).trans below, ?_⟩
    rw [Keyed.lookup_ofList]
    cases l <;> rfl
  · have below : List.lookup "logging" [("logging", c.logging.setting o),
        ("defaults", c.defaults.setting o)] = some (c.logging.setting o) := rfl
    refine Setting.at?_two.mpr ⟨o, _, o, _, rfl, (Keyed.lookup_ofList _ _).trans below, ?_⟩
    rw [Keyed.lookup_ofList]
    cases l <;> rfl

/-- A table of values that were written is sound. -/
theorem sound_setting (o : Origin) (c : Config) : (c.setting o).Sound := by
  have table {es : List (String × Setting)} (sound : ∀ e ∈ es, e.2.Sound) :
      (Setting.table o (Keyed.ofList es)).Sound :=
    .table o (Keyed.ascending_ofList es) fun e mem => sound e (Keyed.mem_ofList mem)
  have leaf (k : Kind) (x : k.Value) : (Setting.scalar o (k.write x)).Sound :=
    .scalar o (Kind.sound_write k x)
  refine table ?_
  simp only [List.forall_mem_cons]
  refine ⟨table ?_, table ?_, nofun⟩
  · simp only [List.forall_mem_cons]
    exact ⟨leaf .seconds _, leaf .code _, leaf .boolean _, leaf .text _, leaf .code _,
      leaf .boolean _, nofun⟩
  · simp only [List.forall_mem_cons]
    exact ⟨leaf .text _, leaf .format _, nofun⟩

/-! ### Reading -/

section

variable {v : Setting} {found : Leaf → Setting} (sound : v.Sound)
  (full : ∀ l : Leaf, v.at? l.path = some (found l))

include sound full

/-- **A configuration is read leaf by leaf**, from settings that have something for each. -/
theorem decode_eq_ok_iff {c : Config} :
    decode .layered v = .ok c ↔ ∀ l : Leaf, l.kind.Denotes (found l) (c.leaf l) := by
  obtain ⟨o, es, -, -, rfl, -, -⟩ := Setting.at?_two.mp (full (.defaults .timeout))
  obtain ⟨d, defaults, readDefaults⟩ := Defaults.shape.record_below .timeout sound
    fun l => full (.defaults l)
  obtain ⟨l, logging, readLogging⟩ := LogSettings.shape.record_below .level sound
    fun l => full (.logging l)
  let tables : Part → Setting
    | .defaults => d
    | .logging => l
  have both (p : Part) : List.lookup p.key es = some (tables p) := by
    cases p with
    | defaults => exact defaults
    | logging => exact logging
  calc decode .layered (.table o es) = .ok c
      ↔ ∀ p : Part, p.decode (tables p) = .ok (p.get c) := by
        rw [decode, ← fields_shape]
        exact shape.record_eq_ok_iff (Setting.sound_table_iff.mp sound).1.distinct both
    _ ↔ ∀ l : Leaf, l.kind.decode (found l) = .ok (c.leaf l) := by
        constructor
        · intro read l
          cases l with
          | defaults l => exact readDefaults.mp (read .defaults) l
          | logging l => exact readLogging.mp (read .logging) l
        · intro read p
          cases p with
          | defaults => exact readDefaults.mpr fun l => read (.defaults l)
          | logging => exact readLogging.mpr fun l => read (.logging l)
    _ ↔ ∀ l : Leaf, l.kind.Denotes (found l) (c.leaf l) :=
        forall_congr' fun l => Kind.decode_eq_ok_iff (sound.at? (full l))

/-- **There is no configuration if and only if something is wrong for some leaf.** -/
theorem decode_eq_error_iff :
    (∃ m, decode .layered v = .error m) ↔ ∃ l : Leaf, l.kind.Wrong (found l) := by
  constructor
  · rintro ⟨m, failed⟩
    by_contra none
    -- If nothing is wrong, then what is denoted makes up a configuration.
    have right (l : Leaf) : ∃ x, l.kind.Denotes (found l) x :=
      Kind.exists_denotes fun wrong => none ⟨l, wrong⟩
    choose x denoted using right
    have read : decode .layered v = .ok (ofLeaves x) := by
      refine (decode_eq_ok_iff sound full).mpr fun l => ?_
      rw [leaf_ofLeaves]
      exact denoted l
    cases failed.symm.trans read
  · rintro ⟨l, wrong⟩
    cases read : decode .layered v with
    | error m => exact ⟨m, rfl⟩
    | ok c => exact absurd wrong ((decode_eq_ok_iff sound full).mp read l).not_wrong

end

end Config

end ExitContract
