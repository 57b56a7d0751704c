import ExitContract.Proofs.Config.Layering
import ExitContract.Proofs.Config.Partial
import ExitContract.Proofs.Json.Reread

/-!
# The same defaults for every source

What is built in is written down more than once: as the configuration of a user who settled
nothing, as what every field of a table is that leaves it out, and as the settings that all
sources are laid on top of. So it could differ between a document that is read as a
configuration at once and a file that is laid on top of the built-in settings.

**One document, one file.** For whichever leaves are given, both amount to the built-in
configuration with these leaves replaced. A document is read with `Config.decode_of_given`,
where fields and tables that are missing are filled in on the way. A file is read from the
winners of its leaves, where nothing is missing any more, since the built-in settings lie
below it.

**Written and read.** A configuration that is written as a document gives all leaves, so that
nothing is left to be filled in. A document that was printed and read again gives the same
leaves as before.

**Keys that are set aside.** A file is taken for what it says, here as in
`World.loadConfig_leafwise`. A document knows no such keys. So an entry that is none for a
document may decide what a file says (`World.loadConfig_apart_of_wrapped`).

## Main definitions

* `Json.Denotes` — the value of a kind that a JSON value is
* `Json.Gives`, `World.Gives` — an object, or a file, gives values for some leaves
* `World.OnlySource` — there is nothing but the built-in settings and one file
* `Config.fields`, `Config.document` — a configuration as a JSON object

## Main statements

* `Config.ofJson_of_gives` — a document that gives some leaves
* `World.loadConfig_of_gives` — a file that gives some leaves
* `Config.same_defaults` — both are the built-in configuration with these leaves replaced,
  and what is written is read back
-/

namespace ExitContract

open Config (Leaf Part Partial)
open Setting (Kind)

/-- Two optional values stay related if the first is changed in a way that keeps relations. -/
theorem rel_map {α β γ : Type} {r : α → γ → Prop} {q : β → γ → Prop} {f : α → β} {x : Option α}
    {y : Option γ} (keeps : ∀ {a c}, r a c → q (f a) c) (rel : Option.Rel r x y) :
    Option.Rel q (x.map f) y := by
  cases rel with
  | none => exact .none
  | some related => exact .some (keeps related)

/-! ### Documents -/

namespace Json

/-- The value of a kind that a JSON value is. A log format is its name, or an object with its
name as the key of nothing. -/
inductive Denotes : (k : Kind) → Json → k.Value → Prop
  | seconds (x : UInt64) : Denotes .seconds (.natural x.toNat) x
  | code (x : Int32) : Denotes .code (.int x.toInt) x
  | boolean (b : Bool) : Denotes .boolean (.boolean b) b
  | text (s : String) : Denotes .text (.text s) s
  | format (f : LogFormat) : Denotes .format (.text f.name) f
  | variant (f : LogFormat) : Denotes .format (.object [(f.name, .null)]) f

/-- An object gives values for some leaves: no name stands twice in it or in its tables, the
tables of a configuration are objects if they are there, and what stands there for a leaf
denotes the value that is given, if one is. Whatever else it has does not matter. -/
structure Gives (fields : List (String × Json)) (given : Partial) : Prop where
  once : Keyed.Distinct fields
  tables : ∀ (p : Part) (j : Json), List.lookup p.key fields = some j →
    ∃ entries, j = .object entries ∧ Keyed.Distinct entries
  leaves : ∀ l : Leaf, Option.Rel (Denotes l.kind)
    ((List.lookup l.part.key fields).bind fun j => j.field? l.key) (given l)

end Json

namespace Setting

theorem ofJsonFields_eq_map (fields : List (String × Json)) :
    ofJsonFields fields = fields.map fun field => (field.1, ofJson field.2) := by
  induction fields with
  | nil => rfl
  | cons field fields ih => rw [ofJsonFields, ih, List.map_cons]

/-- What a document says below a key is said by its field. -/
theorem at?_ofJson (j : Json) (key : String) :
    (ofJson j).at? [key] = (j.field? key).map ofJson := by
  cases j with
  | object fields =>
      rw [ofJson, at?, ofJsonFields_eq_map, Keyed.lookup_map]
      show _ = (List.lookup key fields).map ofJson
      cases List.lookup key fields <;> rfl
  | null | boolean | natural | negative | real | text | list => rfl

theorem exists_whole_ofJson_int (n : Int) :
    ∃ s, ofJson (.int n) = .scalar .document s ∧ s.whole? = some n ∧ s.Sound := by
  cases n with
  | ofNat n => exact ⟨.unsigned n, rfl, rfl, trivial⟩
  | negSucc n =>
      have negative : Int.negSucc n ≤ 0 := Int.negSucc_le_zero n
      exact ⟨.signed (.negSucc n), rfl, rfl, negative.trans (by decide)⟩

/-- What a JSON value denotes is read from what it says. -/
theorem decodeIn_ofJson {k : Kind} {j : Json} {x : k.Value} (h : Json.Denotes k j x) :
    k.decodeIn .document (ofJson j) = .ok x := by
  have scalar {k : Kind} {s : Scalar} {x : k.Value} (sound : s.Sound)
      (denoted : k.Denotes (.scalar .document s) x) :
      k.decodeIn .document (.scalar .document s) = .ok x :=
    Kind.decodeIn_of_denotes .document (.scalar _ sound) denoted
  cases h with
  | seconds x => exact scalar trivial (.seconds rfl)
  | code x =>
      obtain ⟨s, said, whole, sound⟩ := exists_whole_ofJson_int x.toInt
      rw [said]
      exact scalar sound (.code whole)
  | boolean b => exact scalar trivial (.boolean _ b)
  | text s => exact scalar trivial (.text _ s)
  | format f => exact scalar trivial (.format _ f)
  | variant f => cases f <;> rfl

end Setting

/-- **A document that gives some leaves** is the built-in configuration with these leaves
replaced. -/
theorem Config.ofJson_of_gives {fields : List (String × Json)} {given : Partial}
    (h : Json.Gives fields given) :
    Config.ofJson (.object fields) = .ok (Config.default.replace given) := by
  have below (key : String) :
      List.lookup key (Setting.ofJsonFields fields) =
        (List.lookup key fields).map Setting.ofJson := by
    rw [Setting.ofJsonFields_eq_map, Keyed.lookup_map]
  have once : Keyed.Distinct (Setting.ofJsonFields fields) := by
    rw [Setting.ofJsonFields_eq_map]
    exact h.once.map
  rw [ofJson, Setting.ofJson]
  refine decode_of_given once (fun p v found => ?_) fun l => ?_
  · rw [below] at found
    obtain ⟨j, there, rfl⟩ := Option.map_eq_some_iff.mp found
    obtain ⟨entries, rfl, onceBelow⟩ := h.tables p j there
    refine ⟨.document, Setting.ofJsonFields entries, rfl, ?_⟩
    rw [Setting.ofJsonFields_eq_map]
    exact onceBelow.map
  · have said : (Setting.table .document (Setting.ofJsonFields fields)).at? l.path =
        ((List.lookup l.part.key fields).bind fun j => j.field? l.key).map Setting.ofJson := by
      rw [Leaf.path, Setting.at?, below]
      cases List.lookup l.part.key fields with
      | none => rfl
      | some j => exact Setting.at?_ofJson j l.key
    rw [said]
    exact rel_map Setting.decodeIn_ofJson (h.leaves l)

/-! ### Files -/

namespace World

/-- A file is the only source besides the built-in settings: it is the only one that counts,
and no variable is a setting. -/
structure OnlySource (w : World) (explicit : Option String) (p : Path) : Prop where
  named : ∀ name ∈ explicit, w.files.isFile w.directory (Path.ofString name) = true
  used : w.usedFiles explicit = [p]
  unset : ∀ b ∈ w.environment.bindings, Variable.path? b.1 = none

/-- A file gives values for some leaves: it has tables where a configuration has them, and
what it says for a leaf denotes the value that is given, if one is. -/
structure Gives (w : World) (p : Path) (given : Partial) : Prop where
  tabular : w.Tabular p
  leaves : ∀ l : Leaf, Option.Rel l.kind.Denotes (w.saidIn p l) (given l)

variable {w : World} {explicit : Option String} {p : Path} {given : Partial}

/-- What counts where one file is the only source. -/
theorem OnlySource.winner (only : w.OnlySource explicit p) (l : Leaf) :
    w.winner [p] l =
      (w.saidIn p l).getD (.scalar .builtIn (l.kind.write (Config.default.leaf l))) := by
  have silent : w.environment.valuesAt l.path = [] := by
    refine List.filterMap_eq_nil_iff.mpr fun b mem => ?_
    rw [only.unset b mem]
    rfl
  rw [World.winner, given, silent, List.append_nil, List.filterMap_cons]
  cases w.saidIn p l <;> rfl

/-- **A file that gives some leaves**, and that is the only source, makes the built-in
configuration with these leaves replaced, unless it stands for nothing. -/
theorem loadConfig_of_gives (only : w.OnlySource explicit p) (gives : w.Gives p given) :
    (¬ w.Silent p → (w.loadConfig explicit).result = .ok (Config.default.replace given)) ∧
      (w.Silent p → ∃ e, (w.loadConfig explicit).result = .error e) := by
  rw [loadConfig_result only.named, only.used]
  refine ⟨fun speaks => ?_, configOf_of_silent List.mem_cons_self⟩
  have apart (l : Leaf) : w.environment.Apart l.path := by
    intro b mem path names
    cases (only.unset b mem).symm.trans names
  obtain ⟨v, whole, sound, place⟩ := at?_layers (List.forall_mem_singleton.mpr gives.tabular)
    (List.forall_mem_singleton.mpr speaks) apart
  choose found full like using place
  refine (configOf_eq_ok_iff whole).mpr ((Config.decode_eq_ok_iff sound full).mpr fun l => ?_)
  rw [Kind.denotes_iff_of_like (like l), only.winner, Config.leaf_replace]
  have leaf := gives.leaves l
  generalize w.saidIn p l = entry at leaf ⊢
  generalize given l = value at leaf ⊢
  cases leaf with
  | none => exact Kind.denotes_write .builtIn _ _
  | some denoted => exact denoted

end World

/-! ### Written and read -/

namespace Config

/-- The settings that every run starts from as the fields of an object. -/
def defaultsFields (d : Defaults) : List (String × Json) :=
  [("timeout", .natural d.timeout.toNat), ("expected_exit_code", .ofCode d.expectedCode),
    ("check_exit_code", .boolean d.checkCode), ("error_message", .text d.errorMessage),
    ("kill_exit_code", .ofCode d.killCode), ("fail_on_timeout", .boolean d.failOnTimeout)]

/-- The settings for the log as the fields of an object. -/
def loggingFields (l : LogSettings) : List (String × Json) :=
  [("level", .text l.level), ("format", .text l.format.name)]

/-- A configuration as the fields of an object. -/
def fields (c : Config) : List (String × Json) :=
  [("defaults", .object (defaultsFields c.defaults)), ("logging", .object (loggingFields c.logging))]

/-- A configuration as a JSON object. -/
def document (c : Config) : Json := .object c.fields

variable (c : Config)

/-- **What is written gives all leaves.** -/
theorem gives_fields : Json.Gives c.fields c.whole where
  once := List.pairwise_map.mp (by decide : List.Pairwise (· ≠ ·) ["defaults", "logging"])
  tables p j found := by
    cases p with
    | defaults =>
        cases found
        exact ⟨_, rfl, List.pairwise_map.mp (by decide : List.Pairwise (· ≠ ·) ["timeout",
          "expected_exit_code", "check_exit_code", "error_message", "kill_exit_code",
          "fail_on_timeout"])⟩
    | logging =>
        cases found
        exact ⟨_, rfl, List.pairwise_map.mp
          (by decide : List.Pairwise (· ≠ ·) ["level", "format"])⟩
  leaves l := by
    rcases l with l | l
    · cases l with
      | timeout => exact .some (.seconds _)
      | expectedCode | killCode => exact .some (.code _)
      | checkCode | failOnTimeout => exact .some (.boolean _)
      | errorMessage => exact .some (.text _)
    · cases l with
      | level => exact .some (.text _)
      | format => exact .some (.format _)

theorem exact_document : c.document.Exact :=
  ⟨⟨trivial, Json.exact_int _, trivial, trivial, Json.exact_int _, trivial, trivial⟩,
    ⟨trivial, trivial, trivial⟩, trivial⟩

end Config

namespace Json

/-- What a reader keeps of a value denotes what it did. -/
theorem Denotes.reread {k : Kind} {j : Json} {x : k.Value} (h : Denotes k j x) :
    Denotes k j.reread x := by
  cases h with
  | seconds x =>
      have kept : (Json.natural x.toNat).reread = .natural x.toNat := if_pos x.toNat_lt
      rw [kept]
      exact .seconds x
  | code x =>
      rw [← ofCode, reread_ofCode]
      exact .code x
  | boolean b => exact .boolean b
  | text s => exact .text s
  | format f => exact .format f
  | variant f => exact .variant f

/-- What a reader keeps of an object gives what it gave. -/
theorem Gives.reread {fields : List (String × Json)} {given : Partial} (h : Gives fields given) :
    Gives (Keyed.ofList (rereadFields fields)) given := by
  have below {entries : List (String × Json)} (once : Keyed.Distinct entries) (key : String) :
      List.lookup key (Keyed.ofList (rereadFields entries)) =
        (List.lookup key entries).map Json.reread := by
    rw [← Keyed.lookup_reverse once]
    exact field?_reread entries key
  refine ⟨(Keyed.ascending_ofList _).distinct, fun p j found => ?_, fun l => ?_⟩
  · rw [below h.once] at found
    obtain ⟨j, there, rfl⟩ := Option.map_eq_some_iff.mp found
    obtain ⟨entries, rfl, -⟩ := h.tables p j there
    exact ⟨_, rfl, (Keyed.ascending_ofList _).distinct⟩
  · have leaf := h.leaves l
    rw [below h.once]
    cases there : List.lookup l.part.key fields with
    | none =>
        rw [there] at leaf
        exact leaf
    | some j =>
        obtain ⟨entries, rfl, onceBelow⟩ := h.tables l.part j there
        rw [there] at leaf
        show Option.Rel _ (List.lookup l.key (Keyed.ofList (rereadFields entries))) _
        rw [below onceBelow]
        have same : (some (object entries)).bind (fun j => j.field? l.key) =
            List.lookup l.key entries := rfl
        rw [same] at leaf
        exact rel_map Denotes.reread leaf

end Json

/-- A document that was printed gives what it gave before it was printed. -/
theorem Config.ofJson_of_printed {fields : List (String × Json)} {given : Partial}
    (h : Json.Gives fields given) (exact : (Json.object fields).Exact) :
    ∃ j, Json.parse? (Json.object fields).printed = some j ∧
      Config.ofJson j = .ok (Config.default.replace given) :=
  ⟨_, Json.parse?_printed exact, Config.ofJson_of_gives h.reread⟩

/-! ### All of it together -/

/-- **The same defaults for every source.** Let values be given for whichever leaves of a
configuration. Every document that gives them is read as the built-in configuration with
these leaves replaced, whether the other leaves are missing from their tables or with them,
and whatever else the document has. And so is every file that gives them, if it is the only
source besides the built-in settings; only a file with a table that stands for nothing is no
configuration. And every configuration is read back from the document and from the settings
that it is written as, also after the document was printed. -/
theorem Config.same_defaults :
    (∀ given : Partial,
      (∀ fields : List (String × Json), Json.Gives fields given →
        Config.ofJson (.object fields) = .ok (Config.default.replace given)) ∧
      ∀ (w : World) (explicit : Option String) (p : Path),
        w.OnlySource explicit p → w.Gives p given →
        (¬ w.Silent p →
          (w.loadConfig explicit).result = .ok (Config.default.replace given)) ∧
        (w.Silent p → ∃ e, (w.loadConfig explicit).result = .error e)) ∧
    ∀ c : Config,
      Config.ofJson c.document = .ok c ∧
      (∃ j, Json.parse? c.document.printed = some j ∧ Config.ofJson j = .ok c) ∧
      ∀ (d : Dialect) (o : Origin), Config.decode d (c.setting o) = .ok c := by
  refine ⟨fun given => ⟨fun fields => ofJson_of_gives, fun w explicit p only gives => ?_⟩,
    fun c => ?_⟩
  · exact World.loadConfig_of_gives only gives
  · have read := ofJson_of_gives c.gives_fields
    have again := ofJson_of_printed c.gives_fields c.exact_document
    rw [replace_whole] at read
    simp only [replace_whole] at again
    exact ⟨read, again, fun d o => decode_setting d o c⟩

/-- A limit and a code are given, by a document without the other table and by a file in
which that table has nothing for a leaf. -/
theorem Config.same_defaults_of_two_given :
    let text := "[defaults]\nkill_exit_code = -15\ntimeout = 5\n\n[logging]\ncolour = true\n"
    let w : World := ⟨⟨[([Utf8.encode "c.toml"], .file (Utf8.encode text) false)]⟩, [], ⟨[]⟩, none⟩
    let fields : List (String × Json) := [("colour", .boolean true),
      ("defaults", .object [("timeout", .natural 5), ("kill_exit_code", .negative 14)])]
    let c : Config := { Config.default with
      defaults := { Defaults.default with timeout := 5, killCode := -15 } }
    Config.ofJson (.object fields) = .ok c ∧
      (w.loadConfig (some "c.toml")).result = .ok c ∧ Config.ofJson c.document = .ok c := by
  intro text w fields c
  let given : Partial
    | .defaults .timeout => some (5 : UInt64)
    | .defaults .killCode => some (-15 : Int32)
    | _ => none
  let p := Path.ofString "c.toml"
  let es : List (String × Toml.Value) :=
    [("defaults", .table [("kill_exit_code", .integer (-15)), ("timeout", .integer 5)]),
      ("logging", .table [("colour", .boolean true)])]
  have holds : w.document? p = some es := by
    have read : w.files.readText w.directory p = .ok text := by decide +kernel
    have parsed : Toml.parse?
        "[defaults]\nkill_exit_code = -15\ntimeout = 5\n\n[logging]\ncolour = true\n" =
        some [("defaults", .table [("kill_exit_code", .integer (-15)), ("timeout", .integer 5)]),
          ("logging", .table [("colour", .boolean true)])] := by
      cbv
    rw [World.document?, read]
    exact parsed
  have only : w.OnlySource (some "c.toml") p :=
    ⟨by decide +kernel, by decide +kernel, by decide +kernel⟩
  have inFile : w.Gives p given := by
    refine ⟨⟨es, holds, fun part v found s stands => ?_⟩, fun l => ?_⟩
    · cases part with
      | defaults | logging =>
          cases found
          cases stands
          trivial
    · rw [World.saidIn, holds]
      rcases l with l | l
      · cases l with
        | timeout => exact .some (.seconds rfl)
        | killCode => exact .some (.code rfl)
        | expectedCode | checkCode | errorMessage | failOnTimeout => exact .none
      · cases l with
        | level | format => exact .none
  have speaks : ¬ w.Silent p := by
    rintro ⟨es', held, e, mem, tagged⟩
    cases holds.symm.trans held
    have nothing := (Setting.ofTomlEntries?_eq_none_iff (o := .builtIn) es).mpr ⟨e, mem, tagged⟩
    cases nothing
  have inDocument : Json.Gives fields given := by
    refine ⟨?_, fun part j found => ?_, fun l => ?_⟩
    · exact List.pairwise_map.mp (by decide : List.Pairwise (· ≠ ·) ["colour", "defaults"])
    · cases part with
      | defaults =>
          cases found
          exact ⟨_, rfl, List.pairwise_map.mp
            (by decide : List.Pairwise (· ≠ ·) ["timeout", "kill_exit_code"])⟩
      | logging => cases found
    · rcases l with l | l
      · cases l with
        | timeout => exact .some (.seconds 5)
        | killCode => exact .some (.code (-15))
        | expectedCode | checkCode | errorMessage | failOnTimeout => exact .none
      · cases l with
        | level | format => exact .none
  obtain ⟨each, written⟩ := same_defaults
  obtain ⟨document, file⟩ := each given
  exact ⟨document fields inDocument, (file w _ p only inFile).1 speaks, (written c).1⟩

/-- An entry that names no leaf may decide what a file says, and what it decides is lost on a
document. Here a file and a document give the same limit, and have the same entry besides it.
The document is read with this limit, and the file without one. -/
theorem World.loadConfig_apart_of_wrapped :
    let text := "[defaults]\ntimeout = 5\n___figment_value_value = \x7b\x7d\n"
    let w : World := ⟨⟨[([Utf8.encode "c.toml"], .file (Utf8.encode text) false)]⟩, [], ⟨[]⟩, none⟩
    let p := Path.ofString "c.toml"
    let fields : List (String × Json) :=
      [("defaults", .object [(Setting.wrapKey, .object []), ("timeout", .natural 5)])]
    w.usedFiles (some "c.toml") = [p] ∧ w.environment.bindings = [] ∧
      w.document? p =
        some [("defaults", .table [(Setting.wrapKey, .table []), ("timeout", .integer 5)])] ∧
      ∃ direct loaded, Config.ofJson (.object fields) = .ok direct ∧
        (w.loadConfig (some "c.toml")).result = .ok loaded ∧
        direct.defaults.timeout = 5 ∧ loaded.defaults.timeout = 0 := by
  intro text w p fields
  have statements : Toml.readDocument?
      "[defaults]\ntimeout = 5\n___figment_value_value = \x7b\x7d\n".toList =
      some ⟨[], [⟨false, ["defaults"],
        [⟨[], "timeout", .integer 5⟩, ⟨[], Setting.wrapKey, .table []⟩]⟩]⟩ := by
    cbv
  have read : w.files.readText w.directory p = .ok text := by decide +kernel
  have holds : w.document? p =
      some [("defaults", .table [(Setting.wrapKey, .table []), ("timeout", .integer 5)])] := by
    rw [document?, read]
    show (Toml.readDocument? text.toList).bind _ = _
    rw [statements]
    rfl
  have used : w.usedFiles (some "c.toml") = [p] := by
    decide +kernel
  have named : ∀ name ∈ some "c.toml", w.files.isFile w.directory (Path.ofString name) = true := by
    decide +kernel
  let o : Origin := .file (w.shownName p)
  let said : Setting := .table o [("defaults", .table o [])]
  have whole : w.fileSettings [p] = .ok ((Config.default.setting .builtIn).overlay said) := by
    have one : [p].map w.fileSetting = [said].map .ok := by
      rw [List.map_singleton, fileSetting_of_document holds]
      rfl
    exact fileSettings_eq_ok one
  have loaded : (w.loadConfig (some "c.toml")).result = .ok Config.default := by
    rw [loadConfig_result named, used]
    refine (configOf_eq_ok_iff whole).mpr ?_
    clear_value o
    cbv
  have direct : Config.ofJson (.object fields) =
      .ok { Config.default with defaults := { Defaults.default with timeout := 5 } } := by
    rfl
  exact ⟨used, rfl, holds, _, _, direct, loaded, rfl, rfl⟩

end ExitContract
